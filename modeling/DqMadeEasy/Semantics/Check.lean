import DqMadeEasy.Compiler.Provenance
import DqMadeEasy.Gx.Translation
import DqMadeEasy.Worker.Evaluate

/-!
# What a check asks of a row

The translation turns every predicate into one expectation, and the worker turns the expectation
into a failure condition. `checkTruth` says, from the predicate alone, what that failure
condition denies: the field is read as its bare column, the operands of a range or a list are
read back from their flat text, a wildcard pattern is read as a regular expression, and a few
calls have a meaning of their own.

On a row whose columns are present the worker reports a failure exactly when `checkTruth` is not
`yes` (`failure_of_translatePredicate`). Where nothing is lost on the way, `checkTruth` is the
truth of the predicate (`checkTruth_of_readBack`).
-/

namespace DqMadeEasy

def rereadOperand (text : Text) : Operand := ⟨text, .string⟩

/-- A test as its flat text gives it back: the operands of a range are cut at the first ` AND `,
those of a list at the commas outside quotes. -/
def Test.reread : Test → Test
  | .between negated lower upper =>
    match Gx.splitBoundsFrom [] (Test.between negated lower upper).valueText.strip with
    | some (low, high) => .between negated (rereadOperand low) (rereadOperand high)
    | none => .between negated lower upper
  | .inList negated values =>
    .inList negated
      ((Gx.splitItems none 0 [] (Test.inList negated values).valueText.strip.inner.strip).map
        rereadOperand)
  | test => test

def Test.isWildcard : Test → Bool
  | .pattern .like _ => true
  | .pattern .notLike _ => true
  | _ => false

namespace Gx

/-- The columns a field reference mentions, those of call arguments included. -/
def referencedColumns (field : Text) : List Text :=
  (field :: ((parseFunctionCall field.strip).map Prod.snd).getD []).filterMap fun t =>
    (parseFieldRef t).toOption.map FieldRef.column

/-- `TRIM(column)` compared with the empty text. -/
def testsBlank [PyRuntime] (p : Predicate) : Bool :=
  match parseFieldRef p.field, parseSqlLiteral p.test.valueText with
  | .ok ref, .ok literal => comparesTrimmed p.flatten ref && literal == .str []
  | _, _ => false

theorem isIdent_of_columnOfName {t column : Text} (h : columnOfName t = some column) :
    column.isIdent = true := by
  unfold columnOfName at h
  split at h
  · rename_i hident
    cases h
    exact hident
  · split at h
    · rename_i hdotted
      simp only [isDottedIdent, Bool.and_eq_true, List.all_eq_true] at hdotted
      exact hdotted.2 column (List.mem_of_getLast? h)
    · cases h

theorem strip_of_isIdent {t : Text} (h : t.isIdent = true) : t.strip = t := by
  have hspace : ∀ c ∈ t, isSpace c = false := by
    intro c hc
    have hrange := isIdentRest_toNat (isIdentRest_of_mem_isIdent h c hc)
    exact isSpace_eq_false_of_range (by omega) (by omega)
  exact Text.strip_eq_self (fun c hc => hspace c (List.mem_of_mem_head? hc))
    fun c hc => hspace c (List.mem_of_getLast? hc)

theorem isIdent_of_parseFieldRef {field : Text} {ref : FieldRef}
    (h : parseFieldRef field = .ok ref) : ref.column.isIdent = true := by
  unfold parseFieldRef at h
  split at h
  · cases h
  · split at h
    · rename_i column hcolumn
      cases h
      exact isIdent_of_columnOfName hcolumn
    · cases h

theorem strip_column {field : Text} {ref : FieldRef} (h : parseFieldRef field = .ok ref) :
    ref.column.strip = ref.column :=
  strip_of_isIdent (isIdent_of_parseFieldRef h)

theorem argumentColumn_ok {argument column : Text} (h : argumentColumn argument = .ok column) :
    ∃ ref, parseFieldRef argument = .ok ref ∧ ref.column = column := by
  obtain ⟨ref, href, h⟩ := ok_of_bind h
  cases h
  exact ⟨ref, href, rfl⟩

theorem mem_referencedColumns_self {field : Text} {ref : FieldRef}
    (h : parseFieldRef field = .ok ref) : ref.column ∈ referencedColumns field :=
  List.mem_filterMap.mpr ⟨field, List.mem_cons_self, by simp [h, Except.toOption]⟩

theorem mem_referencedColumns_argument {field name argument : Text} {arguments : List Text}
    {ref : FieldRef} (hcall : parseFunctionCall field.strip = some (name, arguments))
    (hmem : argument ∈ arguments) (h : parseFieldRef argument = .ok ref) :
    ref.column ∈ referencedColumns field :=
  List.mem_filterMap.mpr
    ⟨argument, by simp [hcall, hmem], by simp [h, Except.toOption]⟩

end Gx

namespace Engine

open Gx Worker

variable {Cell : Type*} (E : Engine Cell) [PyRuntime]

/-- Text test of a pattern operator as the check performs it: a wildcard pattern is searched for
as an anchored regular expression. -/
def patternCheck (op : PatternOp) (literal : Operand) (t : Text) : Bool :=
  match op with
  | .like =>
    Pattern.anchoredFind (Pattern.itemsOfWildcards (stripSqlStringQuotes literal.value)) t
  | .notLike =>
    !Pattern.anchoredFind (Pattern.itemsOfWildcards (stripSqlStringQuotes literal.value)) t
  | op => E.patternTest op literal t

def readTruth (row : Row Cell) (a : Cell) (test : Test) : Truth :=
  match test.reread with
  | .pattern op literal => E.textTest (E.patternCheck op literal) a
  | test => E.testTruth Truth.ofOption row a test

/-- `REGEXP_MATCHES(attribute, pattern[, flags])`: the pattern is found. -/
def regexpMatchesTruth (row : Row Cell) : List Text → Truth
  | [subject, pattern] =>
    E.textTest (E.rlike (stripSqlStringQuotes pattern)) (E.bareColumn row subject)
  | [subject, pattern, flags] =>
    E.textTest
      (E.rlike (composeRegexPattern (stripSqlStringQuotes pattern)
        (Text.removeSpaces (stripSqlStringQuotes flags))))
      (E.bareColumn row subject)
  | _ => .unknown

/-- `DATEDIFF(NOW(), attribute) <= n`: the attribute is a time at most `n` days past. -/
def dateDiffTruth (row : Row Cell) (arguments : List Text) (value : Text) : Truth :=
  match arguments, wholeBound "DATEDIFF" value with
  | [_, subject], .ok days =>
    let t := E.timestamp (E.bareColumn row subject)
    (isMissing t ⊔ exceeds ((secondsBetween (some E.now) t).map fun s => s / 86400) days).not
  | _, _ => .unknown

/-- `TIMESTAMPDIFF(HOUR, start, end) <= n`: both are times, at most `n` hours apart. -/
def timestampDiffTruth (row : Row Cell) (arguments : List Text) (value : Text) : Truth :=
  match arguments, wholeBound "TIMESTAMPDIFF" value with
  | [_, start, finish], .ok hours =>
    let start := E.timestamp (E.bareColumn row start)
    let finish := E.timestamp (E.bareColumn row finish)
    (isMissing start ⊔ isMissing finish ⊔
      exceeds ((secondsBetween finish start).map fun s => s / 3600) hours).not
  | _, _ => .unknown

/-- The comparison of a field with the current time: the field is a time not in the future. -/
def currentTimeTruth (row : Row Cell) (p : Predicate) : Option Truth :=
  if (p.test.operator = .le ∨ p.test.operator = .lt) ∧ p.test.valueType = .expression ∧
      isCurrentTime p.test.valueText.strip then
    some (isMissing (E.timestamp (E.bareColumn row p.field.strip)) ⊔
      isAfter (E.timestamp (E.bareColumn row p.field.strip)) (some E.now)).not
  else none

/-- Predicates with a meaning of their own: three calls, and comparisons with the current
time. -/
def callTruth (row : Row Cell) (p : Predicate) : Option Truth :=
  match parseFunctionCall p.field.strip with
  | some (name, arguments) =>
    if name = "REGEXP_MATCHES" then some (E.regexpMatchesTruth row arguments)
    else if name = "DATEDIFF" then
      some (E.dateDiffTruth row arguments p.test.valueText.strip)
    else if name = "TIMESTAMPDIFF" then
      some (E.timestampDiffTruth row arguments p.test.valueText.strip)
    else E.currentTimeTruth row p
  | none => E.currentTimeTruth row p

/-- `TRIM(column)` against the empty text, as the check searches for it. -/
def blankTruth (row : Row Cell) (p : Predicate) : Truth :=
  let found := E.textTest (E.rlike blankTextRegex) (E.bareColumn row p.field)
  if p.test.operator = .ne then found.not else found

/-- What the check of a predicate asks of a row. -/
def checkTruth (row : Row Cell) (p : Predicate) : Truth :=
  match E.callTruth row p with
  | some t => t
  | none =>
    if testsBlank p then E.blankTruth row p
    else E.readTruth row (E.bareColumn row p.field) p.test

def Passes (row : Row Cell) (p : Predicate) : Prop := E.checkTruth row p = .yes

def ComparedPresent (row : Row Cell) (p : Predicate) : Prop :=
  p.test = .isNull ∨ p.test = .isNotNull ∨
    ∀ column ∈ referencedColumns p.field, E.isNull (row column) = false

instance (row : Row Cell) (p : Predicate) : Decidable (E.Passes row p) :=
  inferInstanceAs (Decidable (E.checkTruth row p = .yes))

instance (row : Row Cell) (p : Predicate) : Decidable (E.ComparedPresent row p) :=
  inferInstanceAs (Decidable (_ ∨ _ ∨ _))

/-- Nothing is lost between a predicate and its check: its flat text gives its operands back, and
a wildcard pattern meets a text that the regular-expression engine sees as one line. -/
def ReadsBack (row : Row Cell) (p : Predicate) : Prop :=
  p.test.reread.operands.map Operand.value = p.test.operands.map Operand.value ∧
    (p.test.isWildcard = true → Pattern.oneLine (E.text (E.scalar row p.field)) = true)

instance (row : Row Cell) (p : Predicate) : Decidable (E.ReadsBack row p) :=
  inferInstanceAs (Decidable (_ ∧ (_ → _)))

end Engine

/-! ### The failure condition denies the check -/

namespace Worker

open Gx

variable {Cell : Type*} (E : Engine Cell) [PyRuntime]

def Denies (kind : ExpectationKind) (row : Row Cell) (check : Truth) : Prop :=
  ∃ failure, failureCondition E kind = some failure ∧ (failure row = .yes ↔ check ≠ .yes)

variable {E} {row : Row Cell} {column : Text}

theorem denies_inSet (negated : Bool) (values : List PyValue) (hcolumn : column.strip = column)
    (hpresent : E.isNull (row column) = false) (hvalues : .none ∉ values) :
    Denies E (.inSet negated column values) row
      (if negated then (E.isIn (row column) (values.map E.lit)).not
        else E.isIn (row column) (values.map E.lit)) := by
  refine ⟨_, rfl, ?_⟩
  have hdecided : E.isIn (row column) (values.map E.lit) ≠ .unknown := by
    refine E.isIn_ne_unknown hpresent fun value hvalue => ?_
    obtain ⟨v, hv, rfl⟩ := List.mem_map.mp hvalue
    simp only [E.isNull_lit, beq_eq_false_iff_ne]
    rintro rfl
    exact hvalues hv
  simp only [cell, hcolumn, hpresent]
  cases negated
  · simpa using Truth.not_eq_yes_iff_ne hdecided
  · simpa using (Truth.not_eq_yes_iff_ne (Truth.not_ne_unknown hdecided))

omit [PyRuntime] in
theorem withinBounds_ne_unknown {a : Cell} (ha : E.isNull a = false) (bounds : Bounds) :
    withinBounds E a bounds ≠ .unknown := by
  have hside (op : Comparison) (v : PyValue) (hv : v ≠ .none) :
      E.compare op a (E.lit v) ≠ .unknown :=
    E.compare_ne_unknown ha (by simpa [E.isNull_lit] using hv) op
  refine Truth.inf_ne_unknown ?_ ?_
  · split
    · simp
    · exact hside _ _ ‹_›
  · split
    · simp
    · exact hside _ _ ‹_›

theorem denies_between (negated : Bool) (bounds : Bounds) (hcolumn : column.strip = column)
    (hpresent : E.isNull (row column) = false) :
    Denies E (.between negated column bounds) row
      (if negated then (withinBounds E (row column) bounds).not
        else withinBounds E (row column) bounds) := by
  refine ⟨_, rfl, ?_⟩
  have hdecided := withinBounds_ne_unknown (E := E) hpresent bounds
  simp only [cell, hcolumn, hpresent]
  cases negated
  · simpa using Truth.not_eq_yes_iff_ne hdecided
  · simpa using (Truth.not_eq_yes_iff_ne (Truth.not_ne_unknown hdecided))

theorem denies_matchRegex (negated : Bool) (regex : Text) (hcolumn : column.strip = column)
    (hpresent : E.isNull (row column) = false) :
    Denies E (.matchRegex negated column regex) row
      (if negated then (E.textTest (E.rlike regex) (row column)).not
        else E.textTest (E.rlike regex) (row column)) := by
  cases negated
  all_goals
    refine ⟨_, rfl, ?_⟩
    simp only [cell, hcolumn, hpresent, Engine.textTest]
    cases E.rlike regex (E.text (row column)) <;> simp

theorem denies_notBeNull (hcolumn : column.strip = column) :
    Denies E (.notBeNull column) row (Truth.ofBool !E.isNull (row column)) :=
  ⟨_, rfl, by simp [cell, hcolumn]⟩

theorem denies_beNull (hcolumn : column.strip = column) :
    Denies E (.beNull column) row (Truth.ofBool (E.isNull (row column))) :=
  ⟨_, rfl, by simp [cell, hcolumn]⟩

theorem denies_of_decided (kind : ExpectationKind) {failure : Row Cell → Truth}
    (hfailure : failureCondition E kind = some failure) (hdecided : failure row ≠ .unknown) :
    Denies E kind row (failure row).not :=
  ⟨failure, hfailure, by cases h : failure row <;> simp_all⟩

omit [PyRuntime] in
theorem missing_or_exceeds_ne_unknown (a b : Option ℚ) (f : ℚ → ℚ) (bound : ℚ) :
    isMissing a ⊔ isMissing b ⊔ exceeds ((secondsBetween b a).map f) bound ≠ .unknown := by
  cases a <;> cases b <;> simp [isMissing, secondsBetween, unixSeconds, exceeds]

omit [PyRuntime] in
theorem missing_or_after_ne_unknown (t : Option ℚ) (reference : ℚ) :
    isMissing t ⊔ isAfter t (some reference) ≠ .unknown := by
  cases t <;> simp [isMissing, isAfter]

end Worker

namespace Gx

open Worker

variable {Cell : Type*} {E : Engine Cell} [PyRuntime] {row : Row Cell} {p : Predicate}

omit [PyRuntime] in
theorem bareColumn_of_parse {field : Text} {ref : FieldRef} (h : parseFieldRef field = .ok ref) :
    E.bareColumn row field = row ref.column := by
  rw [Engine.bareColumn, h]

omit [PyRuntime] in
theorem isNumber_ne_none {v : PyValue} (h : v.isNumber = true) : v ≠ .none := by
  rintro rfl
  cases h

variable {arguments : List Text} {kind : ExpectationKind} {operand : Operand} {negated : Bool}

/-- `REGEXP_MATCHES`. -/
theorem denies_regexpMatches {operator : Operator}
    (h : regexpMatchesKind operator arguments = .ok kind)
    (hpresent : ∀ argument ∈ arguments, ∀ ref, parseFieldRef argument = .ok ref →
      E.isNull (row ref.column) = false) :
    Denies E kind row (E.regexpMatchesTruth row arguments) := by
  unfold regexpMatchesKind at h
  split at h
  · cases h
  · split at h
    · rename_i subject pattern
      obtain ⟨column, hcolumn, h⟩ := ok_of_bind h
      obtain ⟨ref, href, rfl⟩ := argumentColumn_ok hcolumn
      cases h
      have hdenies := denies_matchRegex (E := E) false (stripSqlStringQuotes pattern) (strip_column href)
        (hpresent subject (by simp) ref href)
      simpa [Engine.regexpMatchesTruth, bareColumn_of_parse href] using hdenies
    · rename_i subject pattern flags
      obtain ⟨column, hcolumn, h⟩ := ok_of_bind h
      obtain ⟨ref, href, rfl⟩ := argumentColumn_ok hcolumn
      obtain ⟨normalized, hflags, h⟩ := ok_of_bind h
      obtain rfl : Text.removeSpaces (stripSqlStringQuotes flags) = normalized := by
        unfold normalizeRegexFlags at hflags
        split at hflags
        · exact Except.ok.inj hflags
        · cases hflags
      cases h
      have hdenies := denies_matchRegex (E := E) false
        (composeRegexPattern (stripSqlStringQuotes pattern)
          (Text.removeSpaces (stripSqlStringQuotes flags))) (strip_column href)
        (hpresent subject (by simp) ref href)
      simpa [Engine.regexpMatchesTruth, bareColumn_of_parse href] using hdenies
    · cases h

/-- `DATEDIFF`. -/
theorem denies_dateDiff {operator : Operator} {value : Text}
    (h : dateDiffKind operator arguments value = .ok kind) :
    Denies E kind row (E.dateDiffTruth row arguments value) := by
  unfold dateDiffKind at h
  split at h
  · rename_i reference subject
    split at h
    · cases h
    split at h
    · cases h
    obtain ⟨bound, hbound, h⟩ := ok_of_bind h
    obtain ⟨column, hcolumn, h⟩ := ok_of_bind h
    obtain ⟨ref, href, rfl⟩ := argumentColumn_ok hcolumn
    cases h
    have hdecided := missing_or_exceeds_ne_unknown (E.timestamp (row ref.column)) (some E.now)
      (fun s => s / 86400) bound
    have hdenies := denies_of_decided (E := E) (.withinPastDays ref.column bound "now") rfl
      (by simpa [cell, strip_column href, isMissing] using hdecided)
    simpa [Engine.dateDiffTruth, hbound, bareColumn_of_parse href, cell, strip_column href]
      using hdenies
  · cases h

/-- `TIMESTAMPDIFF`. -/
theorem denies_timestampDiff {operator : Operator} {value : Text}
    (h : timestampDiffKind operator arguments value = .ok kind) :
    Denies E kind row (E.timestampDiffTruth row arguments value) := by
  unfold timestampDiffKind at h
  split at h
  · rename_i unit start finish
    split at h
    · cases h
    split at h
    · cases h
    obtain ⟨bound, hbound, h⟩ := ok_of_bind h
    obtain ⟨column, hcolumn, h⟩ := ok_of_bind h
    obtain ⟨finishRef, hfinish, rfl⟩ := argumentColumn_ok hcolumn
    obtain ⟨startColumn, hstartColumn, h⟩ := ok_of_bind h
    obtain ⟨startRef, hstart, rfl⟩ := argumentColumn_ok hstartColumn
    cases h
    have hdecided := missing_or_exceeds_ne_unknown (E.timestamp (row startRef.column))
      (E.timestamp (row finishRef.column)) (fun s => s / 3600) bound
    have hdenies := denies_of_decided (E := E)
      (.maxLagHours finishRef.column startRef.column bound) rfl
      (by simpa [cell, strip_column hstart, strip_column hfinish] using hdecided)
    simpa [Engine.timestampDiffTruth, hbound, bareColumn_of_parse hstart,
      bareColumn_of_parse hfinish, cell, strip_column hstart, strip_column hfinish] using hdenies
  · cases h

/-- A comparison with the current time. -/
theorem denies_currentTime (h : currentTimeKind p.flatten = .ok (some kind)) :
    ∃ t, E.currentTimeTruth row p = some t ∧ Denies E kind row t := by
  unfold currentTimeKind at h
  split at h
  · rename_i hcond
    obtain ⟨column, hcolumn, h⟩ := ok_of_bind h
    obtain ⟨ref, href, rfl⟩ := argumentColumn_ok hcolumn
    cases h
    refine ⟨_, if_pos hcond, ?_⟩
    have hdecided := missing_or_after_ne_unknown (E.timestamp (row ref.column)) E.now
    have hdenies := denies_of_decided (E := E) (.notInFuture ref.column none) rfl
      (by simpa [cell, strip_column href] using hdecided)
    have href' : parseFieldRef p.field.strip = .ok ref := href
    simpa [bareColumn_of_parse href', cell, strip_column href] using hdenies
  · cases h

omit [PyRuntime] in
theorem currentTimeTruth_eq_none (h : currentTimeKind p.flatten = .ok none) :
    E.currentTimeTruth row p = none := by
  unfold currentTimeKind at h
  split at h
  · obtain ⟨column, -, h⟩ := ok_of_bind h
    cases h
  · rename_i hcond
    exact if_neg hcond

theorem operandCell_rereadOperand {text : Text} {value : PyValue}
    (h : parseSqlLiteral text = .ok value) : E.operandCell row (rereadOperand text) = E.lit value :=
  operandCell_of_ok E h

theorem operandCells_rereadOperand (row : Row Cell) {texts : List Text} {values : List PyValue}
    (h : texts.mapM parseSqlLiteral = .ok values) :
    (texts.map rereadOperand).map (E.operandCell row) = values.map E.lit := by
  induction mapM_ok h with
  | nil => rfl
  | cons hvalue hrest ih =>
    simp only [List.map_cons, operandCell_rereadOperand hvalue, ih (mapM_of_forall₂ hrest)]

theorem parseInList_ok {value : Text} {values : List PyValue} (h : parseInList value = .ok values) :
    (splitItems none 0 [] value.strip.inner.strip).mapM parseSqlLiteral = .ok values ∧
      .none ∉ values := by
  unfold parseInList at h
  simp only at h
  split at h
  · cases h
  split at h
  · cases h
  split at h
  · cases h
  obtain ⟨parsed, hparsed, h⟩ := ok_of_bind h
  split at h
  · cases h
  · rename_i hnone
    cases h
    exact ⟨hparsed, by simpa using hnone⟩

theorem parseBetweenBounds_ok {value : Text} {low high : PyValue}
    (h : parseBetweenBounds value = .ok (low, high)) :
    ∃ lower upper, splitBoundsFrom [] value.strip = some (lower, upper) ∧
      parseSqlLiteral lower = .ok low ∧ parseSqlLiteral upper = .ok high ∧
      low ≠ .none ∧ high ≠ .none := by
  unfold parseBetweenBounds at h
  split at h
  · cases h
  · rename_i lower upper hsplit
    exact ⟨lower, upper, hsplit, boundsOf_ok h⟩

theorem comparison_literal {value : PyValue} (hwf : operand.WellFormed)
    (hliteral : operand.valueType ≠ .expression) (h : parseSqlLiteral operand.value = .ok value) :
    E.operandCell row operand = E.lit value ∧ value ≠ .none := by
  refine ⟨operandCell_of_ok E h, ?_⟩
  rintro rfl
  exact hwf.literal_ne_none hliteral h

omit [PyRuntime] in
theorem valueType_eq_expression {t : OperandType} :
    t.valueType = .expression ↔ t = .expression := by
  cases t <;> simp [OperandType.valueType]

theorem denies_equality (negated : Bool) {column : Text} (hcolumn : column.strip = column)
    (hpresent : E.isNull (row column) = false) (hwf : operand.WellFormed)
    (hliteral : operand.valueType ≠ .expression)
    (h : equalityKind negated column operand.value = .ok kind) :
    Denies E kind row
      (E.compare (if negated then .ne else .eq) (row column) (E.operandCell row operand)) := by
  obtain ⟨value, hvalue, h⟩ := ok_of_bind h
  cases h
  obtain ⟨hcell, hne⟩ := comparison_literal (E := E) hwf hliteral hvalue
  have hdenies := denies_inSet negated [value] hcolumn hpresent (by simpa using hne.symm)
  rw [hcell]
  cases negated with
  | false => simpa using hdenies
  | true =>
    have hne : E.compare .ne (row column) (E.lit value) =
        (E.compare .eq (row column) (E.lit value)).not := E.compare_negate .eq _ _
    simpa [hne] using hdenies

theorem denies_order {op : Comparison} {column : Text} (hop : op ≠ .eq ∧ op ≠ .ne)
    (hcolumn : column.strip = column) (hpresent : E.isNull (row column) = false)
    (h : orderKind op column operand.value = .ok kind) :
    Denies E kind row (E.compare op (row column) (E.operandCell row operand)) := by
  obtain ⟨value, hvalue, h⟩ := ok_of_bind h
  split at h
  · rename_i hnumber
    cases h
    have hne := isNumber_ne_none hnumber
    have hdenies := denies_between false (comparisonBounds op value) hcolumn hpresent
    rw [operandCell_of_ok E hvalue]
    cases op with
    | eq => simp at hop
    | ne => simp at hop
    | _ => simpa [withinBounds, comparisonBounds, hne] using hdenies
  · cases h

theorem denies_range {column : Text} {lower upper : Operand} (hcolumn : column.strip = column)
    (hpresent : E.isNull (row column) = false)
    (h : rangeKind negated column (Test.between negated lower upper).valueText = .ok kind) :
    Denies E kind row (E.readTruth row (row column) (.between negated lower upper)) := by
  obtain ⟨⟨low, high⟩, hbounds, h⟩ := ok_of_bind h
  obtain ⟨lowText, highText, hsplit, hlow, hhigh, hlow', hhigh'⟩ := parseBetweenBounds_ok hbounds
  cases h
  have hdenies := denies_between negated { minValue := low, maxValue := high } hcolumn hpresent
  cases negated <;>
    simpa [Engine.readTruth, Test.reread, hsplit, Engine.testTruth, Engine.inRange, withinBounds,
      hlow', hhigh', operandCell_rereadOperand hlow, operandCell_rereadOperand hhigh] using hdenies

theorem denies_list {column : Text} {operands : List Operand} (hcolumn : column.strip = column)
    (hpresent : E.isNull (row column) = false)
    (h : listKind negated column (Test.inList negated operands).valueText = .ok kind) :
    Denies E kind row (E.readTruth row (row column) (.inList negated operands)) := by
  obtain ⟨values, hvalues, h⟩ := ok_of_bind h
  obtain ⟨hparsed, hnone⟩ := parseInList_ok hvalues
  cases h
  have hdenies := denies_inSet negated values hcolumn hpresent hnone
  have hcells := operandCells_rereadOperand (E := E) row hparsed
  cases negated <;>
    simpa only [Engine.readTruth, Test.reread, Engine.testTruth, hcells, Bool.false_eq_true,
      if_false, if_true] using hdenies

theorem denies_pattern {column regex : Text} {test : Text → Bool} (hcolumn : column.strip = column)
    (hpresent : E.isNull (row column) = false) (htest : test = fun t => E.rlike regex t != negated)
    :
    Denies E (.matchRegex negated column regex) row (E.textTest test (row column)) := by
  have hdenies := denies_matchRegex negated regex hcolumn hpresent
  subst htest
  cases negated
  · simpa [Engine.textTest, hpresent] using hdenies
  · simpa [Engine.textTest, hpresent] using hdenies

theorem denies_operatorKind {column : Text} (hwf : ∀ operand ∈ p.test.operands, operand.WellFormed)
    (hcolumn : column.strip = column)
    (hpresent : p.test = .isNull ∨ p.test = .isNotNull ∨ E.isNull (row column) = false)
    (h : operatorKind p.flatten column = .ok kind) :
    Denies E kind row (E.readTruth row (row column) p.test) := by
  obtain ⟨field, test⟩ := p
  simp only at hwf hpresent ⊢
  cases test with
  | isNull =>
    cases h
    exact denies_beNull hcolumn
  | isNotNull =>
    cases h
    exact denies_notBeNull hcolumn
  | isTrue =>
    simp only [reduceCtorEq, false_or] at hpresent
    cases h
    have hdenies := denies_inSet false [.bool true] hcolumn hpresent (by simp)
    have hholds : (fun o => o == Ordering.eq) = Comparison.eq.holds := rfl
    simpa [Engine.readTruth, Test.reread, Engine.testTruth, E.boolean_eq, Engine.compare, hholds]
      using hdenies
  | compare op operand =>
    simp only [reduceCtorEq, false_or] at hpresent
    have hoperand := hwf operand (by simp [Test.operands])
    simp only [operatorKind, Predicate.flatten, Test.operator, Test.valueType, Test.valueText,
      valueType_eq_expression] at h
    have hread : E.readTruth row (row column) (.compare op operand) =
        E.compare op (row column) (E.operandCell row operand) := rfl
    rw [hread]
    by_cases hliteral : operand.valueType = .expression
    · cases op <;> simp [Comparison.operator, hliteral, nonLiteralOperand, raise] at h
    · cases op <;> simp only [Comparison.operator, hliteral, if_false] at h
      · exact denies_equality false hcolumn hpresent hoperand hliteral h
      · exact denies_equality true hcolumn hpresent hoperand hliteral h
      all_goals exact denies_order (by simp) hcolumn hpresent h
  | between negated lower upper =>
    simp only [reduceCtorEq, false_or] at hpresent
    cases negated <;> exact denies_range hcolumn hpresent h
  | inList negated operands =>
    simp only [reduceCtorEq, false_or] at hpresent
    cases negated <;> exact denies_list hcolumn hpresent h
  | pattern op literal =>
    simp only [reduceCtorEq, false_or] at hpresent
    simp only [operatorKind, Predicate.flatten, Test.operator, Test.valueType, Test.valueText,
      valueType_eq_expression] at h
    by_cases hliteral : literal.valueType = .expression
    · cases op <;> simp [PatternOp.operator, hliteral, nonLiteralOperand, raise] at h
    · cases op <;> simp only [PatternOp.operator, hliteral, if_false] at h
      · cases h
        refine denies_pattern hcolumn hpresent (funext fun t => ?_)
        simp [Engine.patternCheck, sqlLikeToRegex, E.rlike_anchored]
      · cases h
        refine denies_pattern hcolumn hpresent (funext fun t => ?_)
        simp [Engine.patternCheck, sqlLikeToRegex, E.rlike_anchored]
      · unfold rlikeKind at h
        split at h
        · cases h
        cases h
        refine denies_pattern hcolumn hpresent (funext fun t => ?_)
        simp [Engine.patternCheck, Engine.patternTest]
      · unfold rlikeKind at h
        split at h
        · cases h
        cases h
        refine denies_pattern hcolumn hpresent (funext fun t => ?_)
        simp [Engine.patternCheck, Engine.patternTest]
      · cases h

theorem denies_blank {ref : FieldRef} (href : parseFieldRef p.field = .ok ref)
    (hpresent : E.isNull (row ref.column) = false) :
    Denies E (.matchRegex (p.flatten.operator == .ne) ref.column blankTextRegex) row
      (E.blankTruth row p) := by
  have hdenies := denies_matchRegex (p.flatten.operator == .ne) blankTextRegex
    (strip_column href) hpresent
  have hop : (p.flatten.operator == .ne) = decide (p.test.operator = .ne) := rfl
  rw [hop] at hdenies ⊢
  simpa [Engine.blankTruth, bareColumn_of_parse href] using hdenies

omit [PyRuntime] in
theorem present_of_compared (h : E.ComparedPresent row p) (hnull : p.test ≠ .isNull)
    (hnotNull : p.test ≠ .isNotNull) :
    ∀ column ∈ referencedColumns p.field, E.isNull (row column) = false := by
  rcases h with h | h | h
  · exact absurd h hnull
  · exact absurd h hnotNull
  · exact h

omit [PyRuntime] in
theorem operator_of_regexpMatches {operator : Operator}
    (h : regexpMatchesKind operator arguments = .ok kind) :
    operator = .isTrue := by
  unfold regexpMatchesKind at h
  split at h
  · cases h
  · exact not_not.mp ‹_›

theorem denies_expressionBased (hpresent : E.ComparedPresent row p)
    (h : expressionBasedKind p.flatten = .ok (some kind)) :
    ∃ t, E.callTruth row p = some t ∧ Denies E kind row t := by
  have hfield : p.flatten.field = p.field := rfl
  have hvalue : p.flatten.value = p.test.valueText := rfl
  rw [expressionBasedKind, hfield, hvalue] at h
  rw [Engine.callTruth]
  cases hcall : parseFunctionCall p.field.strip with
  | none =>
    rw [hcall] at h
    exact denies_currentTime h
  | some call =>
    obtain ⟨name, arguments⟩ := call
    simp only [hcall] at h ⊢
    split at h
    · rename_i hname
      obtain ⟨kind', hkind, h⟩ := ok_of_bind h
      cases h
      have hop : p.test.operator = .isTrue := operator_of_regexpMatches hkind
      have hcolumns := present_of_compared hpresent
        (by rintro htest; simp [htest, Test.operator] at hop)
        (by rintro htest; simp [htest, Test.operator] at hop)
      refine ⟨_, if_pos hname, denies_regexpMatches hkind fun argument harg ref href => ?_⟩
      exact hcolumns _ (mem_referencedColumns_argument hcall harg href)
    split at h
    · rename_i hregexp hname
      obtain ⟨kind', hkind, h⟩ := ok_of_bind h
      cases h
      exact ⟨_, by rw [if_neg hregexp, if_pos hname], denies_dateDiff hkind⟩
    split at h
    · rename_i hregexp hdate hname
      obtain ⟨kind', hkind, h⟩ := ok_of_bind h
      cases h
      exact ⟨_, by rw [if_neg hregexp, if_neg hdate, if_pos hname], denies_timestampDiff hkind⟩
    · rename_i hregexp hdate htimestamp
      rw [if_neg hregexp, if_neg hdate, if_neg htimestamp]
      exact denies_currentTime h

theorem callTruth_eq_none (h : expressionBasedKind p.flatten = .ok none) :
    E.callTruth row p = none := by
  have hfield : p.flatten.field = p.field := rfl
  rw [expressionBasedKind, hfield] at h
  rw [Engine.callTruth]
  cases hcall : parseFunctionCall p.field.strip with
  | none =>
    rw [hcall] at h
    exact currentTimeTruth_eq_none h
  | some call =>
    obtain ⟨name, arguments⟩ := call
    simp only [hcall] at h ⊢
    split at h
    · obtain ⟨kind, -, h⟩ := ok_of_bind h
      cases h
    split at h
    · obtain ⟨kind, -, h⟩ := ok_of_bind h
      cases h
    split at h
    · obtain ⟨kind, -, h⟩ := ok_of_bind h
      cases h
    · rename_i hregexp hdate htimestamp
      rw [if_neg hregexp, if_neg hdate, if_neg htimestamp]
      exact currentTimeTruth_eq_none h

/-- On a row whose columns are present, the worker's failure condition for the expectation of a
predicate holds exactly when the row does not pass the check of the predicate. -/
theorem failure_of_translatePredicate (hwf : ∀ operand ∈ p.test.operands, operand.WellFormed)
    (hpresent : E.ComparedPresent row p) (h : translatePredicate p.flatten = .ok kind) :
    Denies E kind row (E.checkTruth row p) := by
  obtain ⟨special, hspecial, h⟩ := ok_of_bind h
  cases special with
  | some kind' =>
    cases h
    obtain ⟨t, ht, hdenies⟩ := denies_expressionBased hpresent hspecial
    rw [Engine.checkTruth, ht]
    exact hdenies
  | none =>
    rw [Engine.checkTruth, callTruth_eq_none hspecial]
    obtain ⟨ref, href, h⟩ := ok_of_bind h
    have href' : parseFieldRef p.field = .ok ref := href
    have hcell : p.test = .isNull ∨ p.test = .isNotNull ∨ E.isNull (row ref.column) = false :=
      hpresent.imp_right (Or.imp_right fun hall => hall _ (mem_referencedColumns_self href'))
    have hread (hkind : operatorKind p.flatten ref.column = .ok kind) :
        Denies E kind row (E.readTruth row (E.bareColumn row p.field) p.test) := by
      rw [bareColumn_of_parse href']
      exact denies_operatorKind hwf (strip_column href') hcell hkind
    by_cases htrimmed : comparesTrimmed p.flatten ref = true
    · simp only [htrimmed, if_true] at h
      obtain ⟨literal, hliteral, h⟩ := ok_of_bind h
      have hliteral' : parseSqlLiteral p.test.valueText = .ok literal := hliteral
      have hblank : testsBlank p = decide (literal = .str []) := by
        simp only [testsBlank, href', hliteral', htrimmed, Bool.true_and]
        rfl
      split at h
      · rename_i hempty
        cases h
        simp only [hblank, hempty, decide_true, if_true]
        refine denies_blank href' ?_
        have hop : p.flatten.operator = .eq ∨ p.flatten.operator = .ne := by
          simp only [comparesTrimmed, Bool.and_eq_true, Bool.or_eq_true, beq_iff_eq] at htrimmed
          exact htrimmed.1.2
        rcases hcell with htest | htest | hcell
        · simp [Predicate.flatten, htest, Test.operator] at hop
        · simp [Predicate.flatten, htest, Test.operator] at hop
        · exact hcell
      · rename_i hempty
        simp only [hblank, hempty, decide_false, Bool.false_eq_true, if_false]
        exact hread h
    · simp only [htrimmed, if_false, Bool.false_eq_true] at h
      have hblank : testsBlank p = false := by
        unfold testsBlank
        rw [href']
        cases parseSqlLiteral p.test.valueText <;> simp [htrimmed]
      simp only [hblank, Bool.false_eq_true, if_false]
      exact hread h

/-! ### Faithful checks -/

theorem operandCell_congr (row : Row Cell) {operand' : Operand} (h : operand.value = operand'.value)
    :
    E.operandCell row operand = E.operandCell row operand' := by
  simp only [Engine.operandCell, h]

theorem operandCells_congr (row : Row Cell) {operands operands' : List Operand}
    (h : operands.map Operand.value = operands'.map Operand.value) :
    operands.map (E.operandCell row) = operands'.map (E.operandCell row) := by
  induction operands generalizing operands' with
  | nil =>
    cases operands' with
    | nil => rfl
    | cons operand' operands' => cases h
  | cons operand operands ih =>
    cases operands' with
    | nil => cases h
    | cons operand' operands' =>
      obtain ⟨hvalue, hrest⟩ := List.cons.inj h
      simp only [List.map_cons, operandCell_congr row hvalue, ih hrest]

/-- A faithful test on a cell keeps its truth. -/
theorem readTruth_of_readsBack {a : Cell} {test : Test}
    (hoperands : test.reread.operands.map Operand.value = test.operands.map Operand.value)
    (hline : test.isWildcard = true → Pattern.oneLine (E.text a) = true) :
    E.readTruth row a test = E.testTruth Truth.ofOption row a test := by
  cases test with
  | between negated lower upper =>
    cases hsplit : splitBoundsFrom [] (Test.between negated lower upper).valueText.strip with
    | none => simp [Engine.readTruth, Test.reread, hsplit]
    | some bounds =>
      obtain ⟨low, high⟩ := bounds
      simp only [Test.reread, hsplit, Test.operands, List.map_cons, List.map_nil, List.cons.injEq,
        and_true] at hoperands
      simp only [Engine.readTruth, Test.reread, hsplit]
      cases negated <;>
        simp only [Engine.testTruth, operandCell_congr (E := E) row hoperands.1,
          operandCell_congr (E := E) row hoperands.2]
  | inList negated values =>
    simp only [Test.reread, Test.operands] at hoperands
    have hcells := operandCells_congr (E := E) row hoperands
    cases negated <;> simp only [Engine.readTruth, Test.reread, Engine.testTruth, hcells]
  | pattern op literal =>
    have htext (test test' : Text → Bool) (h : test (E.text a) = test' (E.text a)) :
        E.textTest test a = E.textTest test' a := by simp only [Engine.textTest, h]
    refine htext _ _ ?_
    cases op with
    | like => exact Pattern.anchoredFind_ofWildcards _ (hline rfl)
    | notLike =>
      simp only [Engine.patternCheck, Engine.patternTest,
        Pattern.anchoredFind_ofWildcards _ (hline rfl)]
    | rlike => rfl
    | notRlike => rfl
    | notTilde => rfl
  | isNull => rfl
  | isNotNull => rfl
  | isTrue => rfl
  | compare op operand => rfl

omit [PyRuntime] in
theorem valueType_of_literal {test : Test}
    (h : ∀ operand ∈ test.operands, operand.valueType ≠ .expression) :
    test.valueType ≠ .expression := by
  cases test with
  | compare op operand =>
    simpa [Test.valueType, valueType_eq_expression] using h operand (by simp [Test.operands])
  | pattern op literal =>
    simpa [Test.valueType, valueType_eq_expression] using h literal (by simp [Test.operands])
  | isNull => simp [Test.valueType]
  | isNotNull => simp [Test.valueType]
  | isTrue => simp [Test.valueType]
  | between negated lower upper => simp [Test.valueType]
  | inList negated values => simp [Test.valueType]

/-- On an unwrapped field with literal operands, a check without loss is the predicate. -/
theorem checkTruth_of_readsBack (hfield : isUnwrapped p.field = true)
    (hliteral : ∀ operand ∈ p.test.operands, operand.valueType ≠ .expression)
    (h : E.ReadsBack row p) : E.checkTruth row p = E.predicateTruth row p := by
  obtain ⟨column, hcolumn⟩ := Option.isSome_iff_exists.mp hfield
  have href := parseFieldRef_of_unwrapped hcolumn
  have hstripped : unwrappedColumn p.field.strip = some column := by
    rw [unwrappedColumn, Text.strip_strip]
    exact hcolumn
  have hcall := parseFunctionCall_of_unwrapped hstripped
  have hnone : E.callTruth row p = none := by
    simp [Engine.callTruth, hcall, Engine.currentTimeTruth, valueType_of_literal hliteral]
  have hblank : testsBlank p = false := by
    unfold testsBlank
    rw [href]
    cases parseSqlLiteral p.test.valueText <;> simp [comparesTrimmed]
  have hcell : E.bareColumn row p.field = E.scalar row p.field :=
    E.bareColumn_of_unwrapped hfield
  simp only [Engine.checkTruth, hnone, hblank, Bool.false_eq_true, if_false, hcell]
  exact readTruth_of_readsBack h.1 h.2

end Gx

end DqMadeEasy
