import DqMadeEasy.Gx.Translation
import DqMadeEasy.Rules.CheckType

/-!
# Expectations of a check type

`build_gx_expectations_for_rule` turns the parameters of a check type into expectations without
looking at the generated expression. When the compiled form of that expression is given, its row
condition is attached to them afterwards, except for a conditional allowlist.

The right side of a cross-object comparison is a column of the joined frame, with the prefix
`rhs.`.
-/

namespace DqMadeEasy

/-- `float(value) / 100.0`. -/
def PyFloat.percent [PyRuntime] : PyFloat → PyFloat
  | .finite q => PyRuntime.roundFloat (q / 100)
  | .infinite negative => .infinite negative
  | .nan => .nan

def PyFloat.outsideUnit (x : PyFloat) : Bool := x.lt (.finite 0) || PyFloat.lt (.finite 1) x

namespace Direct

open Gx

def requireText (t : Text) (key checkType : String) : Except GxExpectationBuildError Text :=
  if t.strip = [] then raise (checkType ++ " check type requires '" ++ key ++ "'") else .ok t.strip

def requireList {α : Type} (values : List α) (key checkType : String) :
    Except GxExpectationBuildError Unit :=
  if values.isEmpty then raise (checkType ++ " check type requires a non-empty '" ++ key ++ "' list")
  else .ok ()

/-- The characters that `re.escape` escapes. -/
def isRegexSpecial (c : Char) : Bool :=
  "()[]\x7b\x7d?*+-|^$\\.&~# \t\n\r\x0b\x0c".toList.contains c

/-- `re.escape`. -/
def reEscape (t : Text) : Text :=
  t.flatMap fun c => if isRegexSpecial c then ['\\', c] else [c]

/-- `_compose_regex` with `exact`: the whole text, up to a final line break. -/
def composeExact (pattern flags : Text) : Text :=
  composeRegexPattern ("^(?:" ++ pattern ++ ")$") flags

/-- `_compose_literal_set_regex` without regard to case. -/
def literalSetRegex (values : List Text) : Text :=
  composeExact (Text.join ['|'] (values.map reEscape)) ['i']

/-- The range expectation with the bounds that are present. -/
def bounds (minValue maxValue : PyValue) (inclusive : Bool) : Bounds where
  minValue := minValue
  maxValue := maxValue
  strictMin := !inclusive && decide (minValue ≠ .none)
  strictMax := !inclusive && decide (maxValue ≠ .none)

/-- `_threshold_ratio_bounds`, and the bounds of a row count. -/
def operatorBounds (operator : BoundOperator) (value : PyValue) : Bounds :=
  match operator with
  | .gte => { minValue := value }
  | .gt => { minValue := value, strictMin := true }
  | .lte => { maxValue := value }
  | .lt => { maxValue := value, strictMax := true }

def distinct (values : List Text) : List Text :=
  values.foldl (fun seen value => if value ∈ seen then seen else seen ++ [value]) []

/-- `difference_unit` of a resolved tolerance. -/
def toleranceUnit : ToleranceUnit → Text
  | .minutes => "minutes"
  | .hours => "hours"
  | .days => "days"

def rhs (column : Text) : Text := "rhs." ++ column

def rhsColumn (column : Text) : Except GxExpectationBuildError Text :=
  if column.strip = [] then
    raise "Cross-object GX expectations require a non-empty right-side attribute"
  else .ok (rhs column.strip)

/-- The two columns of a cross-object comparison. -/
def comparedColumns (left right : Text) (checkType : String) :
    Except GxExpectationBuildError (Text × Text) := do
  let left ← requireText left "leftAttribute" checkType
  let right ← requireText right "rightAttribute" checkType
  let right ← rhsColumn right
  .ok (left, right)

/-- `_comparison_expectation`. -/
def comparison (checkType : String) (item : CrossObjectComparison) :
    Except GxExpectationBuildError ExpectationKind := do
  let (left, right) ← comparedColumns item.leftAttribute item.rightAttribute checkType
  match item.mode with
  | .exact => .ok (.pairEqual left right "neither")
  | .caseInsensitive => .ok (.equalOtherCaseInsensitive left right)
  | .numericTolerance =>
    match item.tolerance with
    | none => raise (checkType ++ " numeric_tolerance comparisons require 'tolerance'")
    | some tolerance => .ok (.withinNumericTolerance left right tolerance)

/-- `_maybe_append_actuality_expectation`. -/
def actuality (actualityDate : Option ActualityDate) : List ExpectationKind :=
  match actualityDate with
  | none => []
  | some date =>
    match date.resolvedTolerance with
    | none => []
    | some (value, unit) =>
      if date.leftAttribute.strip = [] ∨ date.rightAttribute.strip = [] then []
      else
        [.timestampsWithinTolerance date.leftAttribute.strip (rhs date.rightAttribute.strip) value
          (toleranceUnit unit)]

variable [PyRuntime]

/-- `_build_threshold_expectations`. -/
def threshold (p : ThresholdParams) : Except GxExpectationBuildError (List ExpectationKind) := do
  let column ← requireText p.attributeName "attribute" "THRESHOLD"
  match p.metric with
  | .nullPct =>
    let ratio := p.threshold.percent
    if ratio.outsideUnit then
      raise "THRESHOLD null_pct requires threshold percentage between 0 and 100"
    else .ok [.nonNullProportion column (operatorBounds p.operator (.float ratio))]
  | .quantile =>
    match p.quantile with
    | none => raise "THRESHOLD quantile requires 'quantile'"
    | some quantile =>
      if quantile.outsideUnit then
        raise "THRESHOLD quantile requires 'quantile' between 0 and 1"
      else if p.operator ≠ .gte ∧ p.operator ≠ .lte then
        raise "THRESHOLD quantile check type only supports operators gte and lte"
      else
        .ok [.quantile column quantile (if p.operator = .gte then some p.threshold else none)
          (if p.operator = .lte then some p.threshold else none)]
  | _ =>
    raise ("THRESHOLD GX auto-publish currently supports only metrics 'null_pct' and 'quantile' " ++
      "because they have exact native GX aggregate mappings")

/-- `_require_non_negative_int`: a number goes through `float`, which refuses one that is too
large and rounds the others. -/
def requireNonNegativeInt (value : Option ℕ) (key : String) : Except GxExpectationBuildError ℤ :=
  match value with
  | none => raise ("ROW_COUNT check type requires '" ++ key ++ "'")
  | some n =>
    match PyRuntime.roundFloat n with
    | .finite q =>
      if q < 0 ∨ q.den ≠ 1 then
        raise ("ROW_COUNT check type requires a non-negative whole-number '" ++ key ++ "'")
      else .ok q.num
    | _ => raise ("ROW_COUNT check type requires numeric '" ++ key ++ "'")

/-- The bounds of a row count. -/
def rowCountBounds (p : RowCountParams) : Except GxExpectationBuildError Bounds :=
  if p.operator = .between then do
    let low ← requireNonNegativeInt p.minValue "minValue"
    let high ← requireNonNegativeInt p.maxValue "maxValue"
    if high < low then
      raise "ROW_COUNT check type with operator 'between' requires maxValue >= minValue"
    else .ok { minValue := .int low, maxValue := .int high }
  else do
    let threshold ← requireNonNegativeInt p.threshold "threshold"
    match p.operator with
    | .gte => .ok { minValue := .int threshold }
    | .gt => .ok { minValue := .int (threshold + 1) }
    | .lte => .ok { maxValue := .int threshold }
    | _ =>
      if threshold = 0 then
        raise "ROW_COUNT check type cannot express operator 'lt' with threshold 0"
      else .ok { maxValue := .int (threshold - 1) }

/-- `_build_row_count_expectations`. -/
def rowCount (p : RowCountParams) : Except GxExpectationBuildError (List ExpectationKind) := do
  let bounds ← rowCountBounds p
  .ok [.rowCount bounds]

/-- `_normalize_regex_flags`. -/
def regexFlags (flags : Text) : Except GxExpectationBuildError Text :=
  if (Text.removeSpaces flags).all fun c => c == 'i' || c == 'm' || c == 's' then
    .ok (Text.removeSpaces flags)
  else
    raise "REGEX check type only supports regex flags 'i', 'm', and 's' for GX auto-publish"

/-- `_build_regex_expectations`. -/
def regex (p : RegexParams) : Except GxExpectationBuildError (List ExpectationKind) := do
  let column ← requireText p.attributeName "attribute" "REGEX"
  let pattern ← requireText p.pattern "pattern" "REGEX"
  let flags ← regexFlags p.flags
  .ok [.matchRegex false column (composeRegexPattern pattern flags)]

/-- `_build_range_expectations`. -/
def range (p : RangeParams) : Except GxExpectationBuildError (List ExpectationKind) := do
  let column ← requireText p.attributeName "attribute" "RANGE"
  if p.minValue = .none ∧ p.maxValue = .none then
    raise "RANGE check type requires at least one of 'minValue' or 'maxValue'"
  else .ok [.between false column (bounds p.minValue p.maxValue p.inclusive)]

def listKind (negated : Bool) (column : Text) (values : List Text) (caseSensitive : Bool) :
    ExpectationKind :=
  if caseSensitive then .inSet negated column (values.map .str)
  else .matchRegex negated column (literalSetRegex values)

/-- `_build_allowlist_expectations`. -/
def allowlist (p : AllowlistParams) : Except GxExpectationBuildError (List ExpectationKind) := do
  let column ← requireText p.attributeName "attribute" "ALLOWLIST"
  requireList p.allowedValues "allowedValues" "ALLOWLIST"
  .ok [listKind false column p.allowedValues p.caseSensitive]

/-- `_build_blocklist_expectations`. -/
def blocklist (p : BlocklistParams) : Except GxExpectationBuildError (List ExpectationKind) := do
  let column ← requireText p.attributeName "attribute" "BLOCKLIST"
  requireList p.blockedValues "blockedValues" "BLOCKLIST"
  .ok [listKind true column p.blockedValues p.caseSensitive]

abbrev ScopedKind := ExpectationKind × Option Condition

/-- One context of a plausibility range, with the context value. -/
def contextualRange (column context : Text) (item : ContextualRange) :
    Except GxExpectationBuildError (Text × ScopedKind) := do
  let value ← requireText item.contextValue "contextValue" "PLAUSIBLE"
  if item.minValue = .none ∧ item.maxValue = .none then
    raise ("PLAUSIBLE contextual_range entries require at least one of 'minValue' or 'maxValue'")
  else
    .ok (value, .between false column (bounds item.minValue item.maxValue item.inclusive),
      some (.atom (.comparison context .eq (.str value))))

/-- One context of a plausibility allowlist, with the context value. -/
def contextAllowlist (column context : Text) (item : ContextAllowlist) :
    Except GxExpectationBuildError (Text × ScopedKind) := do
  let value ← requireText item.contextValue "contextValue" "PLAUSIBLE"
  requireList item.allowedValues "allowedValues" "PLAUSIBLE"
  .ok (value, .inSetForOther column context (.str value) (item.allowedValues.map .str)
    item.caseSensitive, none)

/-- The expectations of a plausibility check: the context is present, it is a known one, and
each entry holds. -/
def contextKinds (context : Text) (entries : List (Text × ScopedKind)) : List ScopedKind :=
  (.notBeNull context, none) ::
    (.inSet false context ((distinct (entries.map Prod.fst)).map .str), none) ::
    entries.map Prod.snd

/-- `_build_plausible_expectations`. -/
def plausibility (p : PlausibleParams) : Except GxExpectationBuildError (List ScopedKind) := do
  let column ← requireText p.attributeName "attribute" "PLAUSIBLE"
  let context ← requireText p.contextAttribute "contextAttribute" "PLAUSIBLE"
  match p.mode with
  | .contextualRange ranges => do
    requireList ranges "ranges" "PLAUSIBLE"
    let entries ← ranges.mapM (contextualRange column context)
    .ok (contextKinds context entries)
  | .conditionalAllowlist allowlists => do
    requireList allowlists "allowlists" "PLAUSIBLE"
    let entries ← allowlists.mapM (contextAllowlist column context)
    .ok (contextKinds context entries)

/-- `_build_uniqueness_expectations`. -/
def uniqueness (p : UniquenessParams) : Except GxExpectationBuildError (List ExpectationKind) := do
  requireList p.attributes "attributes" "UNIQUENESS"
  match (p.attributes.map Text.strip).filter fun column => !column.isEmpty with
  | [] => raise "UNIQUENESS check type requires at least one non-empty attribute"
  | [column] => .ok [.unique column]
  | column :: rest => .ok [.compoundUnique column (column :: rest)]

/-- `_build_referential_integrity_expectations`. -/
def referentialIntegrity (p : ReferentialIntegrityParams) :
    Except GxExpectationBuildError (List ExpectationKind) := do
  let _ ← requireText p.attributeName "attribute" "REFERENTIAL_INTEGRITY"
  let column ← requireText p.refAttribute "refAttribute" "REFERENTIAL_INTEGRITY"
  let column ← rhsColumn column
  .ok [.notBeNull column]

/-- `_build_correct_expectations`. -/
def correct (p : CorrectParams) : Except GxExpectationBuildError (List ExpectationKind) := do
  let kind ← comparison "CORRECT" p.comparison
  .ok (kind :: actuality p.actualityDate)

/-- `_build_reconcile_expectations`. -/
def reconcile (p : ReconcileParams) : Except GxExpectationBuildError (List ExpectationKind) := do
  requireList p.comparisons "comparisons" "RECONCILE"
  let kinds ← p.comparisons.mapM (comparison "RECONCILE")
  .ok (kinds ++ actuality p.actualityDate)

/-- `_build_transfer_match_expectations`. -/
def transferMatch (p : TransferMatchParams) :
    Except GxExpectationBuildError (List ExpectationKind) :=
  match p.mode with
  | .rowValueMatch comparisons => do
    requireList comparisons "comparisons" "TRANSFER_MATCH"
    let kinds ← comparisons.mapM (comparison "TRANSFER_MATCH")
    .ok (kinds ++ actuality p.actualityDate)
  | .payloadHashMatch left right => do
    let left ← requireText left "leftHashAttribute" "TRANSFER_MATCH"
    let right ← requireText right "rightHashAttribute" "TRANSFER_MATCH"
    let right ← rhsColumn right
    .ok (.pairEqual left right "neither" :: actuality p.actualityDate)

/-- One comparison of a join-consistency check. -/
def joinComparison (item : JoinComparison) : Except GxExpectationBuildError ExpectationKind :=
  comparison "JOIN_CONSISTENCY"
    { leftAttribute := item.leftAttribute
      rightAttribute := item.rightAttribute
      mode := if item.caseInsensitive then .caseInsensitive else .exact }

/-- `_build_join_consistency_expectations`. -/
def joinConsistency (p : JoinConsistencyParams) :
    Except GxExpectationBuildError (List ExpectationKind) := do
  requireList p.comparisons "comparisons" "JOIN_CONSISTENCY"
  let kinds ← p.comparisons.mapM joinComparison
  match p.actualityDate.resolvedTolerance with
  | none =>
    raise ("JOIN_CONSISTENCY actualityDate requires resolvedToleranceValue and " ++
      "resolvedToleranceUnit")
  | some (value, unit) => do
    let (left, right) ← comparedColumns p.actualityDate.leftAttribute
      p.actualityDate.rightAttribute "JOIN_CONSISTENCY"
    .ok (kinds ++ [.timestampsWithinTolerance left right value (toleranceUnit unit)])

/-- `_build_freshness_expectations`. -/
def freshness (p : FreshnessParams) : Except GxExpectationBuildError (List ExpectationKind) := do
  let column ← requireText p.attributeName "attribute" "FRESHNESS"
  if p.anchor ≠ .now then
    raise "FRESHNESS GX auto-publish currently only supports anchor='now'"
  else .ok [.withinPastDays column p.maxDaysOld "now"]

/-- `_build_lag_expectations`. -/
def lag (p : LagParams) : Except GxExpectationBuildError (List ExpectationKind) := do
  let start ← requireText p.startAttribute "startAttribute" "LAG"
  let finish ← requireText p.endAttribute "endAttribute" "LAG"
  .ok [.maxLagHours finish start p.maxHours]

/-- `_build_future_date_expectations`. -/
def futureDate (p : FutureDateParams) : Except GxExpectationBuildError (List ExpectationKind) := do
  let column ← requireText p.attributeName "attribute" "FUTURE_DATE"
  .ok [.notInFuture column ((p.referenceDate.map Text.strip).filter fun date => !date.isEmpty)]

def blankRegex : Text := "^\\s*$"

/-- `_build_present_expectations`. -/
def presence (p : PresentParams) : Except GxExpectationBuildError (List ExpectationKind) := do
  let column ← requireText p.attributeName "attribute" "PRESENT"
  let blocked := (p.blockedValues.map Text.strip).filter fun v => !v.isEmpty
  let pattern := "\\s*(?:" ++ Text.join ['|'] (blocked.map reEscape) ++ ")\\s*"
  .ok ([.notBeNull column, .matchRegex true column blankRegex] ++
    if blocked.isEmpty then []
    else [.matchRegex true column (composeExact pattern (if p.caseSensitive then [] else ['i']))])

/-- `_build_direct_expectations` without the metadata. -/
def kinds : CheckParams → Except GxExpectationBuildError (List ScopedKind)
  | .plausibility p => plausibility p
  | .threshold p => unscoped (threshold p)
  | .rowCount p => unscoped (rowCount p)
  | .regex p => unscoped (regex p)
  | .range p => unscoped (range p)
  | .allowlist p => unscoped (allowlist p)
  | .blocklist p => unscoped (blocklist p)
  | .uniqueness p => unscoped (uniqueness p)
  | .referentialIntegrity p => unscoped (referentialIntegrity p)
  | .freshness p => unscoped (freshness p)
  | .lag p => unscoped (lag p)
  | .futureDate p => unscoped (futureDate p)
  | .present p => unscoped (presence p)
  | .correct p => unscoped (correct p)
  | .reconcile p => unscoped (reconcile p)
  | .transferMatch p => unscoped (transferMatch p)
  | .joinConsistency p => unscoped (joinConsistency p)
where
  /-- Kinds without row conditions of their own. -/
  unscoped (kinds : Except GxExpectationBuildError (List ExpectationKind)) :
      Except GxExpectationBuildError (List ScopedKind) :=
    kinds.map fun kinds => kinds.map fun kind => (kind, none)

def buildDirectExpectations (params : CheckParams) (tags : Meta) :
    Except GxExpectationBuildError (List Expectation) := do
  let entries ← kinds params
  if entries.isEmpty then
    raise ("GX expectation builder produced no expectations for check type '" ++
      params.typeName ++ "'")
  else .ok (entries.map fun entry => { kind := entry.1, rowCondition := entry.2, tags := tags })

end Direct

/-- `build_gx_expectations_for_rule` on a rule with a check type. -/
def buildExpectationsForCheckType [PyRuntime] (params : CheckParams)
    (intermediateModel : Option FilterPayload) (tags : Gx.Meta) :
    Except GxExpectationBuildError (List Gx.Expectation) := do
  let expectations ← Direct.buildDirectExpectations params tags
  if params.isConditionalAllowlist then .ok expectations
  else Gx.attachRowConditions expectations intermediateModel

end DqMadeEasy
