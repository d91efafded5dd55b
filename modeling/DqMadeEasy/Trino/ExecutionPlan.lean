import DqMadeEasy.Logic.Fallible
import DqMadeEasy.Trino.Adapter

/-!
# The Trino execution plan

A plan is built once from a rule: the kind of the rule decides how it is lowered. When the
query has run, the kind decides again how its result is judged. A query rule and an aggregate
rule compare with an expected value, a row rule compares the number of rows with itself.
-/

namespace DqMadeEasy.Trino

/-- The plan of an `ExecutionPlan`. -/
structure Plan where
  ruleId : Json
  ruleType : Text
  table : Json
  column : Json
  params : Dict
  loweredRule : LoweredRule
  query : Text
  expectation : Text

def aggregateMarkers : List Text :=
  ["count(", "sum(", "avg(", "min(", "max(", "stddev(", "distinct("].map String.toList

section Building

variable [PyRuntime] [PyNumerals]

/-- The choice of the lowering: query rules, then row rules, then aggregate rules. -/
def lowerRule (rule : TrinoRule) : Except Raised LoweredRule :=
  match RuleKind.ofText? rule.ruleType with
  | some kind =>
    if kind = .query then lowerQueryRuleToTrino rule
    else if kind.isRow then lowerRowRuleToTrino rule
    else lowerAggregateRuleToTrino rule
  | none => .error (.valueError ("Unsupported rule type: " ++ rule.ruleType))

def buildPlan (rule : TrinoRule) : Except Raised Plan :=
  match validateTrinoCompatibility rule with
  | [] => do
    let loweredRule ← lowerRule rule
    return {
      ruleId := rule.id
      ruleType := rule.ruleType
      table := rule.table
      column := rule.column
      params := rule.params
      loweredRule := loweredRule
      query := loweredRule.query
      expectation := loweredRule.expectation }
  | unsupported =>
    .error (.valueError ("Trino compatibility issues: " ++
      Json.repr (.list (unsupported.map fun construct => .scalar (.str construct)))))

end Building

section Validating

variable [PyRuntime] {α : Type}

def Plan.queryLooksScalar (plan : Plan) : Bool :=
  aggregateMarkers.any fun marker => decide (marker <:+: PyRuntime.lower plan.query)

/-- `_treat_as_scalar_result`. The object is asked for its row count, the list also for the
number of columns. -/
def Plan.treatAsScalarResult (plan : Plan) : ResultRows α → Bool
  | .object result => plan.queryLooksScalar && (result.rowCount == 1 && result.rows.length == 1)
  | .plain [row] => plan.queryLooksScalar && row.singleColumn
  | .plain _ => false

variable [PyCell α]

def Plan.compareWith (plan : Plan) (result : ResultRows α) (expected : Json) (missing : Text) :
    Except Raised (Validation α) :=
  if expected.isNone then .error (.valueError missing)
  else validateQueryResult result ⟨expected, plan.treatAsScalarResult result⟩

def Plan.queryVerdict (plan : Plan) (result : ResultRows α) : Except Raised (Validation α) :=
  plan.compareWith result (plan.params.get "expected_count")
    "query DQ rule requires expected_count"

/-- `params.get("expected_value", params.get("expected_count"))`. -/
def comparedExpected (params : Dict) : Json :=
  (params.find? "expected_value").getD (params.get "expected_count")

def Plan.aggregateVerdict [PyNumerals] (plan : Plan) (result : ResultRows α) :
    Except Raised (Validation α) :=
  plan.compareWith result (comparedExpected plan.params)
    ("aggregate DQ rule '" ++ plan.ruleId.str ++ "' requires an expected value")

def rowVerdict (result : ResultRows α) : Except Raised (Validation α) :=
  validateQueryResult result ⟨Json.int result.length, false⟩

def Plan.validateResult [PyNumerals] (plan : Plan) (result : ResultRows α) :
    Except Raised (Validation α) :=
  match RuleKind.ofText? plan.ruleType with
  | some kind =>
    if kind = .query then plan.queryVerdict result
    else if kind.isAggregate then plan.aggregateVerdict result
    else rowVerdict result
  | none => rowVerdict result

def reported (outcome : Except Raised (Validation α)) : Except Raised (Bool × α × ℕ) :=
  outcome.map Validation.reported

omit [PyRuntime] in
theorem reported_rowVerdict (result : ResultRows α) :
    reported (rowVerdict result) = .ok (true, PyCell.ofNat result.length, 0) := by
  have hequal : PyCell.equals (PyCell.ofNat result.length : α) (Json.int result.length) = true := by
    rw [PyCell.equals_ofNat, Json.equalsInt_int, decide_eq_true_eq]
  show reported (.ok (Validation.compare (PyCell.ofNat result.length : α) _)) = _
  rw [reported, Except.map, Validation.reported_compare, hequal]

omit [PyRuntime] in
theorem reported_validateQueryResult_count (result : ResultRows α) {expected : Json}
    (hexpected : expected.isNone = false) :
    reported (validateQueryResult result ⟨expected, false⟩) =
      .ok (Json.equalsInt result.length expected, PyCell.ofNat result.length, 0) := by
  simp only [validateQueryResult, hexpected, Bool.false_eq_true, if_false, reported, Except.map,
    Validation.reported_compare, PyCell.equals_ofNat]

omit [PyRuntime] in
theorem reported_validateQueryResult_cell {result : ResultRows α} {row : Row α} {expected : Json}
    (hexpected : expected.isNone = false) (hlength : result.length ≠ 0)
    (hrow : result.first? = some row) :
    reported (validateQueryResult result ⟨expected, true⟩) =
      .ok (PyCell.equals row.firstCell expected, row.firstCell, 0) := by
  simp only [validateQueryResult, hexpected, Bool.false_eq_true, if_false, if_true,
    ResultRows.firstCell, hlength, hrow, reported, Except.map, Validation.reported_compare]

end Validating

/-! ### The object and the plain list -/

section Representations

variable [PyRuntime] [PyNumerals] {α : Type} [PyCell α]

/-- The expected value that a plan compares a result with. There is none for a row rule. -/
def Plan.expected? (plan : Plan) : Option Json :=
  match RuleKind.ofText? plan.ruleType with
  | some kind =>
    if kind = .query then some (plan.params.get "expected_count")
    else if kind.isAggregate then some (comparedExpected plan.params)
    else none
  | none => none

theorem validateResult_of_expected?_none {plan : Plan} (h : plan.expected? = none)
    (result : ResultRows α) : plan.validateResult result = rowVerdict result := by
  cases hkind : RuleKind.ofText? plan.ruleType with
  | none => simp only [Plan.validateResult, hkind]
  | some kind =>
    simp only [Plan.expected?, hkind] at h
    obtain ⟨hquery, haggregate⟩ : kind ≠ .query ∧ ¬ kind.isAggregate = true := by
      by_cases hquery : kind = .query
      · simp [hquery] at h
      · exact ⟨hquery, by simpa [hquery] using h⟩
    simp only [Plan.validateResult, hkind, if_neg hquery, if_neg haggregate]

/-- With one, it is the verdict of the comparison. -/
theorem validateResult_of_expected?_some {plan : Plan} {expected : Json}
    (h : plan.expected? = some expected) :
    ∃ missing, ∀ result : ResultRows α,
      plan.validateResult result = plan.compareWith result expected missing := by
  cases hkind : RuleKind.ofText? plan.ruleType with
  | none => simp [Plan.expected?, hkind] at h
  | some kind =>
    simp only [Plan.expected?, hkind] at h
    simp only [Plan.validateResult, hkind]
    by_cases hquery : kind = .query
    · rw [if_pos hquery, Option.some.injEq] at h
      exact ⟨_, fun result => by rw [if_pos hquery, Plan.queryVerdict, h]⟩
    · rw [if_neg hquery] at h
      by_cases haggregate : kind.isAggregate = true
      · rw [if_pos haggregate, Option.some.injEq] at h
        exact ⟨_, fun result => by
          rw [if_neg hquery, if_pos haggregate, Plan.aggregateVerdict, h]⟩
      · rw [if_neg haggregate] at h
        cases h

variable {maxResultSampleSize : ℤ} {answers : List (List (Row α))}

omit [PyRuntime] [PyNumerals] [PyCell α] in
theorem length_object :
    (ResultRows.object (executeQuery maxResultSampleSize answers)).length =
      (fetched answers).length :=
  (describes_executeQuery maxResultSampleSize answers).count

omit [PyRuntime] [PyNumerals] [PyCell α] in
theorem first?_object (hlimit : 1 ≤ maxResultSampleSize) :
    (ResultRows.object (executeQuery maxResultSampleSize answers)).first? =
      (fetched answers).head? := by
  show (executeQuery maxResultSampleSize answers).rows.head? = _
  rw [(describes_executeQuery maxResultSampleSize answers).sample, List.head?_take]
  exact if_neg (by omega)

omit [PyNumerals] [PyCell α] in
theorem treatAsScalarResult_object (plan : Plan) :
    plan.treatAsScalarResult (.object (executeQuery maxResultSampleSize answers)) =
      (plan.queryLooksScalar && (decide ((fetched answers).length = 1) &&
        decide (1 ≤ maxResultSampleSize))) := by
  have hdescribes := describes_executeQuery maxResultSampleSize answers
  have hboth : ((fetched answers).length = 1 ∧
        min maxResultSampleSize.toNat (fetched answers).length = 1) ↔
      ((fetched answers).length = 1 ∧ 1 ≤ maxResultSampleSize) := by omega
  simp only [Plan.treatAsScalarResult, hdescribes.count, hdescribes.sample, List.length_take]
  congr 1
  rw [Bool.eq_iff_iff]
  simpa using hboth

/-- The two representations of a result are judged alike. -/
def SameVerdict (plan : Plan) (maxResultSampleSize : ℤ) (answers : List (List (Row α))) : Prop :=
  reported (plan.validateResult (.object (executeQuery maxResultSampleSize answers))) =
    reported (plan.validateResult (.plain (fetched answers)))

/-- When the two representations cannot be told apart by the validator: there is nothing to
compare, the query does not look like an aggregate, the result has not exactly one row, or
the row has one column exactly if the sample may hold it, or its first cell is 1 itself. -/
def Indistinct (plan : Plan) (maxResultSampleSize : ℤ) (rows : List (Row α)) : Prop :=
  (∀ expected, plan.expected? = some expected → expected.isNone = true) ∨
    plan.queryLooksScalar = false ∨
    ∀ row, rows = [row] →
      row.singleColumn = decide (1 ≤ maxResultSampleSize) ∨ row.firstCell = PyCell.ofNat 1

/-- A result of one row whose query looks like an aggregate: each representation decides by
itself whether the row is one value. -/
theorem sameVerdict_single_iff {plan : Plan} {expected : Json} {row : Row α}
    (hexpected : plan.expected? = some expected) (hsome : expected.isNone = false)
    (hlooks : plan.queryLooksScalar = true) (hrows : fetched answers = [row]) :
    SameVerdict plan maxResultSampleSize answers ↔
      row.singleColumn = decide (1 ≤ maxResultSampleSize) ∨ row.firstCell = PyCell.ofNat 1 := by
  obtain ⟨missing, hjudged⟩ := validateResult_of_expected?_some (α := α) hexpected
  have hobject : plan.treatAsScalarResult (.object (executeQuery maxResultSampleSize answers)) =
      decide (1 ≤ maxResultSampleSize) := by
    rw [treatAsScalarResult_object, hlooks, hrows]
    simp
  have hplain : plan.treatAsScalarResult (.plain [row]) = row.singleColumn := by
    simp only [Plan.treatAsScalarResult, hlooks, Bool.true_and]
  have hlength : (ResultRows.object (executeQuery maxResultSampleSize answers)).length = 1 := by
    rw [length_object, hrows]
    rfl
  have hcount := reported_validateQueryResult_count
    (.object (executeQuery maxResultSampleSize answers)) hsome
  have hcountPlain := reported_validateQueryResult_count (.plain [row]) hsome
  have hlengthPlain : (ResultRows.plain [row]).length ≠ 0 := Nat.one_ne_zero
  have hcellPlain := reported_validateQueryResult_cell hsome hlengthPlain rfl
  rw [hlength] at hcount
  rw [SameVerdict, hjudged, hjudged, hrows, Plan.compareWith, Plan.compareWith, hsome,
    if_neg Bool.false_ne_true, if_neg Bool.false_ne_true, hobject, hplain]
  by_cases hlimit : 1 ≤ maxResultSampleSize
  · have hfirst : (ResultRows.object (executeQuery maxResultSampleSize answers)).first? =
        some row := by
      rw [first?_object hlimit, hrows]
      rfl
    have hcell := reported_validateQueryResult_cell hsome (by omega) hfirst
    rw [decide_eq_true hlimit, hcell]
    cases hsingle : row.singleColumn with
    | true => exact iff_of_true hcellPlain.symm (.inl rfl)
    | false =>
      rw [hcountPlain, Except.ok.injEq]
      simp only [Prod.mk.injEq, and_true, Bool.false_eq_true, false_or]
      exact ⟨fun h => h.2, fun h => ⟨by rewrite [h, PyCell.equals_ofNat]; rfl, h⟩⟩
  · rw [decide_eq_false hlimit, hcount]
    cases hsingle : row.singleColumn with
    | false => exact iff_of_true hcountPlain.symm (.inl rfl)
    | true =>
      rw [hcellPlain, Except.ok.injEq]
      simp only [Prod.mk.injEq, and_true, Bool.true_eq_false, false_or]
      exact ⟨fun h => h.2.symm, fun h => ⟨by rewrite [h, PyCell.equals_ofNat]; rfl, h.symm⟩⟩

/-- Without a result of one value both representations are judged by their length. -/
theorem sameVerdict_of_not_scalar {plan : Plan} {expected : Json}
    (hexpected : plan.expected? = some expected) (hsome : expected.isNone = false)
    (hnot : plan.queryLooksScalar = false ∨ (fetched answers).length ≠ 1) :
    SameVerdict plan maxResultSampleSize answers := by
  obtain ⟨missing, hjudged⟩ := validateResult_of_expected?_some (α := α) hexpected
  have hobject : plan.treatAsScalarResult (.object (executeQuery maxResultSampleSize answers)) =
      false := by
    rw [treatAsScalarResult_object]
    rcases hnot with hlooks | hlength
    · rw [hlooks, Bool.false_and]
    · rw [decide_eq_false hlength, Bool.false_and, Bool.and_false]
  have hplain : plan.treatAsScalarResult (.plain (fetched answers)) = false := by
    rcases hnot with hlooks | hlength
    · unfold Plan.treatAsScalarResult
      split
      · rw [hlooks, Bool.false_and]
      · rw [hlooks, Bool.false_and]
      · rfl
    · generalize fetched answers = rows at hlength
      match rows with
      | [] => rfl
      | [_] => exact absurd rfl hlength
      | _ :: _ :: _ => rfl
  rw [SameVerdict, hjudged, hjudged, Plan.compareWith, Plan.compareWith, hsome,
    if_neg Bool.false_ne_true, if_neg Bool.false_ne_true, hobject, hplain,
    reported_validateQueryResult_count _ hsome, reported_validateQueryResult_count _ hsome,
    length_object]
  rfl

/-- The object describes the rows of every result, and it is judged like the list of them
exactly when the validator cannot tell the two apart. -/
theorem query_result_faithful_iff (plan : Plan) (maxResultSampleSize : ℤ)
    (answers : List (List (Row α))) :
    (Describes maxResultSampleSize.toNat (executeQuery maxResultSampleSize answers)
        (fetched answers) ∧ SameVerdict plan maxResultSampleSize answers) ↔
      Indistinct plan maxResultSampleSize (fetched answers) := by
  rw [and_iff_right (describes_executeQuery maxResultSampleSize answers)]
  cases hexpected : plan.expected? with
  | none =>
    refine iff_of_true ?_ (.inl fun expected h => by simp [hexpected] at h)
    rw [SameVerdict, validateResult_of_expected?_none hexpected,
      validateResult_of_expected?_none hexpected, reported_rowVerdict, reported_rowVerdict,
      length_object]
    rfl
  | some expected =>
    cases hsome : expected.isNone with
    | true =>
      refine iff_of_true ?_ (.inl fun other h => ?_)
      · obtain ⟨missing, hjudged⟩ := validateResult_of_expected?_some (α := α) hexpected
        rw [SameVerdict, hjudged, hjudged, Plan.compareWith, Plan.compareWith, hsome]
        rfl
      · rw [hexpected, Option.some.injEq] at h
        rw [← h, hsome]
    | false =>
      have hcompares : ¬ ∀ other, plan.expected? = some other → other.isNone = true := by
        intro hall
        rw [hall expected hexpected] at hsome
        cases hsome
      rw [Indistinct, or_iff_right hcompares]
      cases hlooks : plan.queryLooksScalar with
      | false =>
        exact iff_of_true (sameVerdict_of_not_scalar hexpected hsome (.inl hlooks)) (.inl rfl)
      | true =>
        rw [or_iff_right (Bool.noConfusion : ¬ true = false)]
        match hrows : fetched answers with
        | [row] =>
          rw [sameVerdict_single_iff hexpected hsome hlooks hrows]
          refine ⟨fun h other hother => ?_, fun h => h row rfl⟩
          cases hother
          exact h
        | [] =>
          exact iff_of_true
            (sameVerdict_of_not_scalar hexpected hsome (.inr (by rw [hrows]; exact Nat.zero_ne_one)))
            (fun row h => nomatch h)
        | first :: second :: rest =>
          exact iff_of_true
            (sameVerdict_of_not_scalar hexpected hsome
              (.inr (by rw [hrows, List.length_cons, List.length_cons]; omega)))
            (fun row h => by simp at h)

end Representations

/-! ### The family of the lowering and of the validation -/

/-- Lower-casing leaves an ASCII beginning of a text to itself: no later character changes it. -/
class PyLowerPrefix [PyRuntime] : Prop where
  lower_append : ∀ s t : Text, (∀ c ∈ s, c.toNat < 128) →
    s.map Char.toLower <+: PyRuntime.lower (s ++ t)

section Families

variable [PyRuntime] [PyNumerals]

def RuleKind.family (kind : RuleKind) : RuleFamily :=
  if kind = .query then .queryDq else if kind.isRow then .rowDq else .aggregateDq

variable {kind : RuleKind} {rule : TrinoRule} {result : LoweredRule}

omit [PyRuntime] [PyNumerals] in
theorem family_eq_aggregateDq (h : kind.family = .aggregateDq) :
    kind.isAggregate = true ∧ kind ≠ .query ∧ kind ≠ .min ∧ kind ≠ .max := by
  cases kind <;> simp_all [RuleKind.family, RuleKind.isRow, RuleKind.isAggregate]

omit [PyRuntime] [PyNumerals] in
theorem family_eq_rowDq (h : kind.family = .rowDq) :
    kind ≠ .query ∧ (kind.isAggregate = true ↔ kind = .min ∨ kind = .max) := by
  cases kind <;> simp_all [RuleKind.family, RuleKind.isRow, RuleKind.isAggregate]

def aggregateFunctions : List Text := ["COUNT(", "SUM(", "AVG(", "MIN(", "MAX("].map String.toList

theorem columnAggregate_function {key function resultAlias : String} {parts : AggregateParts}
    (h : columnAggregate rule key function resultAlias = .ok parts) :
    function.toList <+: parts.expression := by
  obtain ⟨expected, -, h⟩ := ok_of_bind h
  obtain ⟨column, -, h⟩ := ok_of_bind h
  cases h
  exact ⟨column ++ [')'], by rw [List.append_assoc]⟩

theorem aggregateParts_function {parts : AggregateParts} (h : aggregateParts rule = .ok parts) :
    ∃ function ∈ aggregateFunctions, function <+: parts.expression := by
  unfold aggregateParts at h
  split at h
  · obtain ⟨expected, -, h⟩ := ok_of_bind h
    cases h
    exact ⟨"COUNT(", by simp [aggregateFunctions], ⟨"*)", rfl⟩⟩
  · exact ⟨_, by simp [aggregateFunctions], columnAggregate_function h⟩
  · exact ⟨_, by simp [aggregateFunctions], columnAggregate_function h⟩
  · exact ⟨_, by simp [aggregateFunctions], columnAggregate_function h⟩
  · exact ⟨_, by simp [aggregateFunctions], columnAggregate_function h⟩
  · obtain ⟨rest, hrest⟩ := columnAggregate_function h
    exact ⟨"COUNT(", by simp [aggregateFunctions], "DISTINCT " ++ rest, hrest⟩
  · cases h

theorem lowerAggregateRuleToTrino_ok (h : lowerAggregateRuleToTrino rule = .ok result) :
    result.ruleType = .aggregateDq ∧
      ∃ function ∈ aggregateFunctions, "SELECT ".toList ++ function <+: result.query := by
  obtain ⟨-, -, h⟩ := ok_of_bind h
  obtain ⟨table, -, h⟩ := ok_of_bind h
  obtain ⟨parts, hparts, h⟩ := ok_of_bind h
  obtain ⟨whereClause, -, h⟩ := ok_of_bind h
  obtain ⟨havingClause, -, h⟩ := ok_of_bind h
  cases h
  obtain ⟨function, hfunction, rest, hrest⟩ := aggregateParts_function hparts
  refine ⟨rfl, function, hfunction, ?_⟩
  simp only [lowered, ← hrest, List.append_assoc, List.prefix_append_right_inj,
    List.prefix_append]

theorem lowerRowRuleToTrino_ok (h : lowerRowRuleToTrino rule = .ok result) :
    result.ruleType = .rowDq := by
  obtain ⟨-, -, h⟩ := ok_of_bind h
  obtain ⟨column, -, h⟩ := ok_of_bind h
  obtain ⟨table, -, h⟩ := ok_of_bind h
  obtain ⟨expectation, -, h⟩ := ok_of_bind h
  obtain ⟨predicates, -, h⟩ := ok_of_bind h
  cases h
  rfl

theorem lowerQueryRuleToTrino_ok (h : lowerQueryRuleToTrino rule = .ok result) :
    result.ruleType = .queryDq := by
  obtain ⟨-, -, h⟩ := ok_of_bind h
  dsimp only at h
  split at h
  · cases h
  · cases h
    rfl

/-- What a built plan takes from its rule. -/
structure PlanOf (rule : TrinoRule) (kind : RuleKind) (plan : Plan) : Prop where
  kind_eq : RuleKind.ofText? rule.ruleType = some kind
  ruleType : plan.ruleType = rule.ruleType
  params : plan.params = rule.params
  family : plan.loweredRule.ruleType = kind.family
  query : kind.family = .aggregateDq →
    ∃ function ∈ aggregateFunctions, "SELECT ".toList ++ function <+: plan.query

theorem planOf_buildPlan {plan : Plan} (h : buildPlan rule = .ok plan) :
    ∃ kind, PlanOf rule kind plan := by
  unfold buildPlan at h
  split at h
  · obtain ⟨loweredRule, hlowered, h⟩ := ok_of_bind h
    cases h
    unfold lowerRule at hlowered
    split at hlowered
    · next kind hkind =>
      split at hlowered
      · next hquery =>
        subst hquery
        exact ⟨.query, hkind, rfl, rfl, lowerQueryRuleToTrino_ok hlowered,
          fun hfamily => by cases hfamily⟩
      · next hquery =>
        split at hlowered
        · next hrow =>
          have hfamily : kind.family = .rowDq := by
            rw [RuleKind.family, if_neg hquery, if_pos hrow]
          exact ⟨kind, hkind, rfl, rfl, (lowerRowRuleToTrino_ok hlowered).trans hfamily.symm,
            fun h => by rw [hfamily] at h; cases h⟩
        · next hrow =>
          have hfamily : kind.family = .aggregateDq := by
            rw [RuleKind.family, if_neg hquery, if_neg hrow]
          obtain ⟨htype, hfunction⟩ := lowerAggregateRuleToTrino_ok hlowered
          exact ⟨kind, hkind, rfl, rfl, htype.trans hfamily.symm, fun _ => hfunction⟩
    · cases hlowered
  · cases h

/-- A lowered aggregate query looks like an aggregate. -/
theorem PlanOf.queryLooksScalar [PyLowerPrefix] {plan : Plan} (h : PlanOf rule kind plan)
    (hfamily : kind.family = .aggregateDq) :
    plan.queryLooksScalar = true := by
  obtain ⟨function, hfunction, rest, hrest⟩ := h.query hfamily
  have hascii : (aggregateFunctions.all fun f =>
      ("SELECT " ++ f).all fun c => c.toNat < 128) = true := rfl
  have hmarker : (aggregateFunctions.all fun f =>
      decide (f.map Char.toLower ∈ aggregateMarkers)) = true := rfl
  simp only [List.all_eq_true, decide_eq_true_eq] at hascii hmarker
  have hlower := PyLowerPrefix.lower_append ("SELECT " ++ function) rest
    (hascii function hfunction)
  rw [hrest, List.map_append] at hlower
  rw [Plan.queryLooksScalar, List.any_eq_true]
  exact ⟨function.map Char.toLower, hmarker function hfunction,
    decide_eq_true ((List.suffix_append _ _).isInfix.trans hlower.isInfix)⟩

variable {α : Type} [PyCell α]

def statedExpected (kind : RuleKind) (params : Dict) : Json :=
  if kind = .count ∨ kind = .distinctCount then params.get "expected_count"
  else params.get "expected_value"

/-- Every result of the plan is judged under the family that its query was lowered as: rows by
the row rule, the one value of an aggregate by comparing it with the expected value that the
lowering states, and the result of a query rule by the judgement of query rules. -/
def JudgedAsLowered (α : Type) [PyCell α] (maxResultSampleSize : ℤ) (kind : RuleKind)
    (plan : Plan) : Prop :=
  ∀ answers : List (List (Row α)),
    let result := ResultRows.object (executeQuery maxResultSampleSize answers)
    match plan.loweredRule.ruleType with
    | .rowDq => reported (plan.validateResult result) = reported (rowVerdict result)
    | .aggregateDq => ∀ row, fetched answers = [row] → row.singleColumn = true →
        reported (plan.validateResult result) =
          .ok (PyCell.equals row.firstCell (statedExpected kind plan.params), row.firstCell, 0)
    | .queryDq => reported (plan.validateResult result) = reported (plan.queryVerdict result)

/-- The kinds and parameters for which the two choices agree. -/
def FamilyKept (α : Type) [PyCell α] (maxResultSampleSize : ℤ) (rule : TrinoRule) : Prop :=
  ∀ kind, RuleKind.ofText? rule.ruleType = some kind →
    kind ≠ .min ∧ kind ≠ .max ∧
      (kind.isAggregate = true → 1 ≤ maxResultSampleSize ∧
        (comparedExpected rule.params).isNone = false ∧
        ∀ cell : α, PyCell.equals cell (comparedExpected rule.params) =
          PyCell.equals cell (statedExpected kind rule.params))

theorem PlanOf.familyKept_iff {plan : Plan} (h : PlanOf rule kind plan) (maxResultSampleSize : ℤ) :
    FamilyKept α maxResultSampleSize rule ↔
      kind ≠ .min ∧ kind ≠ .max ∧
        (kind.isAggregate = true → 1 ≤ maxResultSampleSize ∧
          (comparedExpected plan.params).isNone = false ∧
          ∀ cell : α, PyCell.equals cell (comparedExpected plan.params) =
            PyCell.equals cell (statedExpected kind plan.params)) := by
  rw [h.params]
  refine ⟨fun hkept => hkept kind h.kind_eq, fun hkept other hother => ?_⟩
  rw [h.kind_eq, Option.some.injEq] at hother
  exact hother ▸ hkept

theorem PlanOf.validateResult_aggregate {plan : Plan} (h : PlanOf rule kind plan)
    (hquery : kind ≠ .query) (haggregate : kind.isAggregate = true) (result : ResultRows α) :
    plan.validateResult result = plan.aggregateVerdict result := by
  simp only [Plan.validateResult, h.ruleType, h.kind_eq, if_neg hquery, if_pos haggregate]

/-- A rule of kind `min` or `max` is lowered to return rows, but its result is compared with an
expected value. Either there is none, or no result and two rows cannot both meet it. -/
theorem PlanOf.not_judged_of_overlap {plan : Plan} (h : PlanOf rule kind plan)
    (maxResultSampleSize : ℤ) (hkind : kind = .min ∨ kind = .max) :
    ¬ JudgedAsLowered α maxResultSampleSize kind plan := by
  intro hjudged
  have hfamily : plan.loweredRule.ruleType = .rowDq := by
    rw [h.family]
    rcases hkind with rfl | rfl <;> rfl
  have hquery : kind ≠ .query := by rcases hkind with rfl | rfl <;> decide
  have haggregate : kind.isAggregate = true := by rcases hkind with rfl | rfl <;> rfl
  have hrows : ∀ answers : List (List (Row α)),
      reported (plan.aggregateVerdict (.object (executeQuery maxResultSampleSize answers))) =
        .ok (true, PyCell.ofNat (fetched answers).length, 0) := by
    intro answers
    have hanswers := hjudged answers
    simp only [hfamily] at hanswers
    rw [h.validateResult_aggregate hquery haggregate, reported_rowVerdict, length_object]
      at hanswers
    exact hanswers
  have hcompared : ∀ answers : List (List (Row α)), (fetched answers).length ≠ 1 →
      Json.equalsInt (fetched answers).length (comparedExpected plan.params) = true := by
    intro answers hlength
    have hreported := hrows answers
    cases hsome : (comparedExpected plan.params).isNone with
    | true =>
      rw [Plan.aggregateVerdict, Plan.compareWith, hsome] at hreported
      cases hreported
    | false =>
      have hscalar : plan.treatAsScalarResult
          (.object (executeQuery maxResultSampleSize answers)) = false := by
        rw [treatAsScalarResult_object, decide_eq_false hlength, Bool.false_and, Bool.and_false]
      rw [Plan.aggregateVerdict, Plan.compareWith, hsome, if_neg Bool.false_ne_true, hscalar,
        reported_validateQueryResult_count _ hsome, length_object] at hreported
      simp only [Except.ok.injEq, Prod.mk.injEq] at hreported
      exact hreported.1
  have hnone := hcompared [] Nat.zero_ne_one
  have htwo := hcompared [[.value PyCell.none, .value PyCell.none]] (by
    simp [fetched])
  have := Json.equalsInt_inj hnone htwo
  simp [fetched] at this

/-- The verdict on the one value of an aggregate. -/
theorem PlanOf.reported_aggregate [PyLowerPrefix] {plan : Plan} (h : PlanOf rule kind plan)
    (hfamily : kind.family = .aggregateDq) {maxResultSampleSize : ℤ} {answers : List (List (Row α))}
    {row : Row α} (hrows : fetched answers = [row])
    (hsome : (comparedExpected plan.params).isNone = false) :
    reported (plan.validateResult (.object (executeQuery maxResultSampleSize answers))) =
      if 1 ≤ maxResultSampleSize then
        .ok (PyCell.equals row.firstCell (comparedExpected plan.params), row.firstCell, 0)
      else .ok (Json.equalsInt 1 (comparedExpected plan.params), PyCell.ofNat 1, 0) := by
  obtain ⟨haggregate, hquery, -, -⟩ := family_eq_aggregateDq hfamily
  have hlength : (ResultRows.object (executeQuery maxResultSampleSize answers)).length = 1 := by
    rw [length_object, hrows]
    rfl
  have hscalar : plan.treatAsScalarResult (.object (executeQuery maxResultSampleSize answers)) =
      decide (1 ≤ maxResultSampleSize) := by
    rw [treatAsScalarResult_object, h.queryLooksScalar hfamily, hrows]
    simp
  rw [h.validateResult_aggregate hquery haggregate, Plan.aggregateVerdict, Plan.compareWith,
    hsome, if_neg Bool.false_ne_true, hscalar]
  by_cases hlimit : 1 ≤ maxResultSampleSize
  · rw [decide_eq_true hlimit, if_pos hlimit]
    exact reported_validateQueryResult_cell hsome (by omega)
      (by rw [first?_object hlimit, hrows]; rfl)
  · rw [decide_eq_false hlimit, if_neg hlimit, reported_validateQueryResult_count _ hsome, hlength]
    rfl

/-- The one value of an aggregate is compared with the stated expectation exactly when the
sample has room for it, an expected value is looked up, and it compares like the stated one. -/
theorem PlanOf.judged_aggregate_iff [PyLowerPrefix] {plan : Plan} (h : PlanOf rule kind plan)
    (hfamily : kind.family = .aggregateDq) (maxResultSampleSize : ℤ) :
    JudgedAsLowered α maxResultSampleSize kind plan ↔
      1 ≤ maxResultSampleSize ∧ (comparedExpected plan.params).isNone = false ∧
        ∀ cell : α, PyCell.equals cell (comparedExpected plan.params) =
          PyCell.equals cell (statedExpected kind plan.params) := by
  obtain ⟨haggregate, hquery, -, -⟩ := family_eq_aggregateDq hfamily
  have htype : plan.loweredRule.ruleType = .aggregateDq := h.family.trans hfamily
  constructor
  · intro hjudged
    have hcell : ∀ cell : α,
        reported (plan.validateResult
          (.object (executeQuery maxResultSampleSize [[.sequence [cell]]]))) =
        .ok (PyCell.equals cell (statedExpected kind plan.params), cell, 0) := by
      intro cell
      have hanswers := hjudged [[.sequence [cell]]]
      simp only [htype] at hanswers
      exact hanswers (.sequence [cell]) rfl rfl
    have hsome : (comparedExpected plan.params).isNone = false := by
      cases hnone : (comparedExpected plan.params).isNone with
      | false => rfl
      | true =>
        have hreported := hcell PyCell.none
        rw [h.validateResult_aggregate hquery haggregate, Plan.aggregateVerdict,
          Plan.compareWith, hnone] at hreported
        cases hreported
    have hlimit : 1 ≤ maxResultSampleSize := by
      by_contra hlimit
      have hreported := hcell PyCell.none
      have hrows : fetched [[Row.sequence [(PyCell.none : α)]]] = [.sequence [PyCell.none]] := rfl
      rw [h.reported_aggregate hfamily hrows hsome, if_neg hlimit] at hreported
      simp only [Except.ok.injEq, Prod.mk.injEq, and_true] at hreported
      exact PyCell.none_ne_ofNat 1 hreported.2.symm
    refine ⟨hlimit, hsome, fun cell => ?_⟩
    have hreported := hcell cell
    have hrows : fetched [[Row.sequence [cell]]] = [.sequence [cell]] := rfl
    rw [h.reported_aggregate hfamily hrows hsome, if_pos hlimit] at hreported
    simp only [Except.ok.injEq, Prod.mk.injEq, and_true] at hreported
    exact hreported.1
  · rintro ⟨hlimit, hsome, hsame⟩ answers
    simp only [htype]
    intro row hrows _
    rw [h.reported_aggregate hfamily hrows hsome, if_pos hlimit, hsame]

/-- A plan is validated under the family it was lowered as exactly when its kind is neither
`min` nor `max` and, for an aggregate, its one value is compared with the stated value. -/
theorem judged_as_lowered_iff [PyLowerPrefix] {rule : TrinoRule} {plan : Plan}
    (h : buildPlan rule = .ok plan) (maxResultSampleSize : ℤ) :
    (∃ kind, RuleKind.ofText? rule.ruleType = some kind ∧
        JudgedAsLowered α maxResultSampleSize kind plan) ↔
      FamilyKept α maxResultSampleSize rule := by
  obtain ⟨kind, hplan⟩ := planOf_buildPlan h
  have hthis : (∃ other, RuleKind.ofText? rule.ruleType = some other ∧
      JudgedAsLowered α maxResultSampleSize other plan) ↔
      JudgedAsLowered α maxResultSampleSize kind plan := by
    constructor
    · rintro ⟨other, hother, hjudged⟩
      rw [hplan.kind_eq, Option.some.injEq] at hother
      exact hother ▸ hjudged
    · exact fun hjudged => ⟨kind, hplan.kind_eq, hjudged⟩
  rw [hthis, hplan.familyKept_iff]
  cases hfamily : kind.family with
  | aggregateDq =>
    obtain ⟨haggregate, -, hmin, hmax⟩ := family_eq_aggregateDq hfamily
    rw [hplan.judged_aggregate_iff hfamily, and_iff_right hmin, and_iff_right hmax,
      forall_prop_of_true haggregate]
  | rowDq =>
    obtain ⟨hquery, haggregate⟩ := family_eq_rowDq hfamily
    by_cases hoverlap : kind = .min ∨ kind = .max
    · refine iff_of_false (hplan.not_judged_of_overlap maxResultSampleSize hoverlap) ?_
      rintro ⟨hmin, hmax, -⟩
      exact hoverlap.elim hmin hmax
    · rw [← haggregate] at hoverlap
      have hkinds := mt haggregate.mpr hoverlap
      refine iff_of_true (fun answers => ?_) ⟨fun hmin => hkinds (.inl hmin),
        fun hmax => hkinds (.inr hmax), fun h => absurd h hoverlap⟩
      simp only [hplan.family, hfamily]
      simp only [Plan.validateResult, hplan.ruleType, hplan.kind_eq, if_neg hquery,
        if_neg hoverlap]
  | queryDq =>
    have hquery : kind = .query := by
      cases kind <;> simp [RuleKind.family, RuleKind.isRow] at hfamily ⊢
    subst hquery
    refine iff_of_true (fun answers => ?_) ⟨by decide, by decide, fun h => by cases h⟩
    simp only [hplan.family, hfamily]
    simp only [Plan.validateResult, hplan.ruleType, hplan.kind_eq, if_true]

end Families

section Samples

/-- A runtime for texts of ASCII characters. -/
local instance sampleRuntimeTrino : PyRuntime := .ascii (fun q => .finite q) (fun _ => [])

local instance sampleNumeralsTrino : PyNumerals := ⟨fun _ => none, fun _ => none, id⟩

/-- Cells that are scalar Python values. -/
local instance sampleCells : PyCell PyValue where
  none := .none
  ofNat n := .int n
  equals cell expected :=
    match expected with
    | .scalar v => PyValue.pyEq cell v
    | _ => false
  none_ne_ofNat _ h := nomatch h
  equals_ofNat n expected := by cases expected <;> rfl

/-- A query rule that expects one region. -/
def regionRule : TrinoRule where
  id := Json.text "r1"
  type := Json.text "query"
  column := Json.null
  table := Json.null
  params := [("query", Json.text "SELECT count(*), region FROM orders GROUP BY region"),
    ("expected_count", Json.int 1)]

def oneRegion : List (List (Row PyValue)) :=
  [[.sequence [.int 5, .str "north"]], []]

/-- One row of two columns. As a list it counts as one row; of the query result object the
first cell is taken for the count. -/
theorem query_result_representations_differ :
    ∃ plan, buildPlan regionRule = .ok plan ∧
      reported (plan.validateResult (.object (executeQuery 1000 oneRegion))) =
        .ok (false, .int 5, 0) ∧
      reported (plan.validateResult (.plain (fetched oneRegion))) = .ok (true, .int 1, 0) ∧
      ¬ (Describes 1000 (executeQuery 1000 oneRegion) (fetched oneRegion) ∧
        SameVerdict plan 1000 oneRegion) := by
  refine ⟨_, rfl, rfl, rfl, fun h => ?_⟩
  have hsame : (.ok (false, .int 5, 0) : Except Raised (Bool × PyValue × ℕ)) =
      .ok (true, .int 1, 0) := h.2
  simp at hsame

local instance sampleLowerPrefix : PyLowerPrefix where
  lower_append s t _ := by
    show s.map Char.toLower <+: (s ++ t).map Char.toLower
    rw [List.map_append]
    exact List.prefix_append _ _

/-- A rule that expects three orders. -/
def orderCountRule : TrinoRule where
  id := Json.text "r2"
  type := Json.text " Count "
  column := Json.null
  table := Json.text "sales.orders"
  params := [("expected_count", Json.int 3)]

theorem judged_as_lowered_orderCount :
    ∃ plan, buildPlan orderCountRule = .ok plan ∧ ∃ kind,
      RuleKind.ofText? orderCountRule.ruleType = some kind ∧
        JudgedAsLowered PyValue 1000 kind plan := by
  refine ⟨_, rfl, (judged_as_lowered_iff rfl 1000).mpr ?_⟩
  intro kind hkind
  have hcount : RuleKind.ofText? orderCountRule.ruleType = some .count := by decide +kernel
  rw [hcount, Option.some.injEq] at hkind
  subst hkind
  exact ⟨by decide, by decide, fun _ => ⟨by decide, rfl, fun cell => rfl⟩⟩

/-- A rule that expects amounts of at least 0. -/
def amountRule : TrinoRule where
  id := Json.text "r3"
  type := Json.text "min"
  column := Json.text "amount"
  table := Json.text "orders"
  params := [("min", Json.int 0)]

/-- A lower bound is lowered to return rows. An empty result is not judged by the row rule: the
validation asks for the expected value of an aggregate. -/
theorem min_rule_judged_as_aggregate :
    ∃ plan, buildPlan amountRule = .ok plan ∧ plan.loweredRule.ruleType = .rowDq ∧
      reported (plan.validateResult (.object (executeQuery 1000 ([] : List (List (Row PyValue)))))) =
        .error (.valueError "aggregate DQ rule 'r3' requires an expected value") ∧
      ¬ ∃ kind, RuleKind.ofText? amountRule.ruleType = some kind ∧
        JudgedAsLowered PyValue 1000 kind plan := by
  refine ⟨_, rfl, rfl, rfl, ?_⟩
  rintro ⟨kind, -, hjudged⟩
  have hempty : (.error (.valueError "aggregate DQ rule 'r3' requires an expected value") :
      Except Raised (Bool × PyValue × ℕ)) = .ok (true, .int 0, 0) := hjudged []
  cases hempty

end Samples

end DqMadeEasy.Trino
