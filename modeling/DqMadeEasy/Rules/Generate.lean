import DqMadeEasy.Rules.CheckType

/-!
# Generated expressions

`generate_expression_from_check_type` prints the parameters of a check type as a filter
expression. Attributes are printed as they are, list values and patterns between single quotes
that are not escaped. An optional condition wraps the expression as
`(c AND (e)) OR NOT (c)`.

Every refusal of the source is kept with its message; those that the parameter records exclude
are left out.
-/

namespace DqMadeEasy

/-- `ValueError`. -/
structure ValueError where
  message : String
  deriving DecidableEq, Repr

namespace Generate

/-- The stripped text, refused when nothing is left. -/
def requireText (t : Text) (message : String) : Except ValueError Text :=
  if t.strip = [] then .error ⟨message⟩ else .ok t.strip

def requireList {α : Type} (values : List α) (message : String) : Except ValueError Unit :=
  if values.isEmpty then .error ⟨message⟩ else .ok ()

def quoted (t : Text) : Text := '\'' :: t ++ ['\'']

/-- `" AND ".join`. -/
def conjunction (clauses : List Text) : Text := Text.join " AND " clauses

/-- `" OR ".join`. -/
def disjunction (clauses : List Text) : Text := Text.join " OR " clauses

/-- An attribute compared with the bounds that are present, `>=` and `<=` when they are
inclusive. -/
def boundClauses (subject : Text) (inclusive : Bool) (low high : Option Text) : List Text :=
  (low.map fun bound => subject ++ (if inclusive then " >= " else " > ").toList ++ bound).toList ++
    (high.map fun bound => subject ++ (if inclusive then " <= " else " < ").toList ++ bound).toList

def present (bound : PyValue) : Option PyValue := if bound = .none then none else some bound

/-- `_join_consistency_tolerance_unit`. -/
def toleranceUnit : ToleranceUnit → Text
  | .minutes => "MINUTE"
  | .hours => "HOUR"
  | .days => "DAY"

variable [PyRuntime]

def quoteValues (values : List Text) (caseSensitive : Bool) : Text :=
  Text.join ", "
    (values.map fun v => quoted (if caseSensitive then v else PyRuntime.lower v))

def quoteLiteral : PyValue → Text
  | .bool b => if b then "true" else "false"
  | .int n => PyValue.toText (.int n)
  | .float f => PyValue.toText (.float f)
  | .none => quoted []
  | .str t =>
    if Text.isNumberText t then t else quoted (Text.replace ['\''] ['\'', '\''] t)

/-- `_build_simple_condition_clause`. -/
def simpleConditionClause (condition : SimpleCondition) : Except ValueError Text :=
  if condition.attributeName.strip = [] ∨ condition.value.strip = [] then
    .error ⟨"Conditional checks require condition.attribute and condition.value"⟩
  else .ok (condition.attributeName.strip ++ " = " ++ quoteLiteral (.str condition.value))

def applySimpleCondition (base : Text) (condition : Option SimpleCondition) :
    Except ValueError Text :=
  match condition with
  | none => .ok base
  | some condition => do
    let clause ← simpleConditionClause condition
    .ok ('(' :: clause ++ " AND (" ++ base ++ ")) OR NOT (" ++ clause ++ [')'])

/-- `_build_join_clauses`. -/
def joinClauses (context : String) (joinKeys : List JoinKey) : Except ValueError (List Text) :=
  joinKeys.mapM fun item =>
    if item.leftAttribute.strip = [] ∨ item.rightAttribute.strip = [] then
      .error ⟨context ++ " joinKeys entries require both 'leftAttribute' and 'rightAttribute'"⟩
    else
      .ok (item.leftAttribute.strip ++ " = rhs." ++ item.rightAttribute.strip)

/-- The comparison of two columns as lower-case texts. -/
def lowerClause (left right : Text) : Text :=
  "LOWER(" ++ left ++ ") = LOWER(rhs." ++ right ++ [')']

/-- `_build_cross_object_comparison_clause`. -/
def comparisonClause (context : String) (item : CrossObjectComparison) : Except ValueError Text :=
  let left := item.leftAttribute.strip
  let right := item.rightAttribute.strip
  if left = [] ∨ right = [] then
    .error ⟨context ++ " comparison entries require both 'leftAttribute' and 'rightAttribute'"⟩
  else
    match item.mode with
    | .exact => .ok (left ++ " = rhs." ++ right)
    | .caseInsensitive => .ok (lowerClause left right)
    | .numericTolerance =>
      match item.tolerance with
      | none => .error ⟨context ++ " numeric_tolerance comparisons require 'tolerance'"⟩
      | some tolerance =>
        .ok ("ABS(" ++ left ++ " - rhs." ++ right ++ ") <= " ++
          PyRuntime.floatRepr tolerance)

/-- The printed distance of two times. -/
def toleranceClause (left right : Text) (unit : ToleranceUnit) (value : ℕ) : Text :=
  "ABS(TIMESTAMPDIFF(" ++ toleranceUnit unit ++ ", " ++ left ++ ", rhs." ++
    right ++ ")) <= " ++ PyValue.toText (.int value)

/-- `_maybe_append_actuality_clause`: a tolerance of zero counts as absent. -/
def actualityClauses (context : String) (actualityDate : Option ActualityDate) :
    Except ValueError (List Text) :=
  match actualityDate with
  | none => .ok []
  | some date =>
    match date.resolvedTolerance with
    | none => .ok []
    | some (0, _) => .ok []
    | some (value, unit) =>
      if date.leftAttribute.strip = [] ∨ date.rightAttribute.strip = [] then
        .error ⟨context ++ " actualityDate requires 'leftAttribute' and 'rightAttribute'"⟩
      else
        .ok [toleranceClause date.leftAttribute.strip date.rightAttribute.strip unit value]

/-- `_generate_threshold`. -/
def threshold (p : ThresholdParams) : Except ValueError Text := do
  let column ← requireText p.attributeName "THRESHOLD check requires 'attribute'"
  match p.metric with
  | .nullPct => .ok (column ++ " IS NOT NULL")
  | .emptyPct =>
    .ok (column ++ " IS NOT NULL AND TRIM(" ++ column ++ ") != ''")
  | .defaultValPct =>
    .ok (column ++ " IS NOT NULL AND " ++ column ++ " != 'N/A'")
  | .quantile =>
    match p.quantile with
    | none => .error ⟨"THRESHOLD check requires 'quantile' when metric is 'quantile'"⟩
    | some quantile =>
      if p.operator ≠ .gte ∧ p.operator ≠ .lte then
        .error ⟨"THRESHOLD quantile check only supports operators gte and lte"⟩
      else if quantile.lt (.finite 0) ∨ PyFloat.lt (.finite 1) quantile then
        .error ⟨"THRESHOLD quantile check requires 'quantile' between 0 and 1"⟩
      else .ok "1 = 1"

/-- `_generate_row_count`. -/
def rowCount (p : RowCountParams) : Except ValueError Text :=
  if p.operator = .between then
    if p.minValue.isNone ∨ p.maxValue.isNone then
      .error ⟨"ROW_COUNT check requires 'minValue' and 'maxValue' when operator is 'between'"⟩
    else .ok "1 = 1"
  else if p.threshold.isNone then .error ⟨"ROW_COUNT check requires 'threshold'"⟩
  else .ok "1 = 1"

def presenceClauses (column : Text) : List Text :=
  [column ++ " IS NOT NULL", "TRIM(" ++ column ++ ") != ''"]

/-- `_generate_regex`. -/
def regex (p : RegexParams) : Except ValueError Text := do
  let column ← requireText p.attributeName "REGEX check requires 'attribute'"
  let pattern ← requireText p.pattern "REGEX check requires 'pattern'"
  let flags := if p.flags = [] then [] else ", ".toList ++ quoted p.flags
  let call := "REGEXP_MATCHES(".toList ++ column ++ ", ".toList ++ quoted pattern ++ flags ++ [')']
  let presence := if p.requirePresent then presenceClauses column else []
  applySimpleCondition (conjunction (presence ++ [call])) p.condition

/-- `_generate_range`. -/
def range (p : RangeParams) : Except ValueError Text := do
  let column ← requireText p.attributeName "RANGE check requires 'attribute'"
  if p.minValue = .none ∧ p.maxValue = .none then
    .error ⟨"RANGE check requires at least one of 'minValue' or 'maxValue'"⟩
  else
    applySimpleCondition
      (conjunction (boundClauses column p.inclusive ((present p.minValue).map quoteLiteral)
        ((present p.maxValue).map quoteLiteral)))
      p.condition

/-- The left side of a list comparison. -/
def listSubject (column : Text) (caseSensitive : Bool) : Text :=
  if caseSensitive then column else "LOWER(" ++ column ++ [')']

def listClause (subject operator : Text) (values : List Text) (caseSensitive : Bool) : Text :=
  subject ++ operator ++ '(' :: quoteValues values caseSensitive ++ [')']

/-- `_generate_allowlist`. -/
def allowlist (p : AllowlistParams) : Except ValueError Text := do
  let column ← requireText p.attributeName "ALLOWLIST check requires 'attribute'"
  requireList p.allowedValues "ALLOWLIST check requires at least one 'allowedValues' entry"
  applySimpleCondition
    (listClause (listSubject column p.caseSensitive) " IN " p.allowedValues p.caseSensitive)
    p.condition

/-- `_generate_blocklist`. -/
def blocklist (p : BlocklistParams) : Except ValueError Text := do
  let column ← requireText p.attributeName "BLOCKLIST check requires 'attribute'"
  requireList p.blockedValues "BLOCKLIST check requires at least one 'blockedValues' entry"
  .ok (listClause (listSubject column p.caseSensitive) " NOT IN " p.blockedValues
    p.caseSensitive)

/-- `_generate_uniqueness`. -/
def uniqueness (p : UniquenessParams) : Except ValueError Text := do
  requireList p.attributes "UNIQUENESS check requires at least one entry in 'attributes'"
  .ok ("COUNT(*) OVER (PARTITION BY " ++ Text.join ", " p.attributes ++
    ") = 1")

/-- `_generate_referential_integrity`. -/
def referentialIntegrity (p : ReferentialIntegrityParams) : Except ValueError Text := do
  let column ← requireText p.attributeName "REFERENTIAL_INTEGRITY check requires 'attribute'"
  let object ← requireText p.refDataObjectId
    "REFERENTIAL_INTEGRITY check requires 'refDataObjectId'"
  let _ ← requireText p.refDataObjectVersionId
    "REFERENTIAL_INTEGRITY check requires 'refDataObjectVersionId'"
  let refColumn ← requireText p.refAttribute "REFERENTIAL_INTEGRITY check requires 'refAttribute'"
  .ok (column ++ " IN (SELECT " ++ refColumn ++ " FROM " ++ object ++ [')'])

/-- `_generate_freshness`. -/
def freshness (p : FreshnessParams) : Except ValueError Text := do
  let column ← requireText p.attributeName "FRESHNESS check requires 'attribute'"
  let reference := if p.anchor = .now then "NOW()".toList else "CURRENT_DATE".toList
  applySimpleCondition
    ("DATEDIFF(" ++ reference ++ ", " ++ column ++ ") <= " ++
      PyValue.toText (.int p.maxDaysOld))
    p.condition

/-- `_generate_lag`. -/
def lag (p : LagParams) : Except ValueError Text := do
  let start ← requireText p.startAttribute "LAG check requires 'startAttribute'"
  let finish ← requireText p.endAttribute "LAG check requires 'endAttribute'"
  .ok ("TIMESTAMPDIFF(HOUR, " ++ start ++ ", " ++ finish ++ ") <= " ++
    PyValue.toText (.int p.maxHours))

/-- `_generate_future_date`. -/
def futureDate (p : FutureDateParams) : Except ValueError Text := do
  let column ← requireText p.attributeName "FUTURE_DATE check requires 'attribute'"
  let reference := (p.referenceDate.filter fun date => !date.isEmpty).elim "NOW()".toList quoted
  .ok (column ++ " <= ".toList ++ reference)

/-- The blocked values of a presence check: stripped, without blank ones. -/
def blockedTexts (values : List Text) : List Text :=
  (values.map Text.strip).filter fun v => !v.isEmpty

/-- `_generate_present`. -/
def presence (p : PresentParams) : Except ValueError Text := do
  let column ← requireText p.attributeName "PRESENT check requires 'attribute'"
  let trimmed := "TRIM(" ++ column ++ [')']
  let subject := if p.caseSensitive then trimmed else "LOWER(" ++ trimmed ++ [')']
  let blocked := blockedTexts p.blockedValues
  let listed :=
    if blocked.isEmpty then [] else [listClause subject " NOT IN " blocked p.caseSensitive]
  applySimpleCondition (conjunction (presenceClauses column ++ listed)) p.condition

/-- `_generate_correct`. -/
def correct (p : CorrectParams) : Except ValueError Text := do
  let _ ← requireText p.sourceDataObjectVersionId
    "CORRECT check requires 'sourceDataObjectVersionId'"
  let _ ← requireText p.referenceDataObjectVersionId
    "CORRECT check requires 'referenceDataObjectVersionId'"
  requireList p.joinKeys "CORRECT check requires at least one entry in 'joinKeys'"
  let joins ← joinClauses "CORRECT" p.joinKeys
  let comparison ← comparisonClause "CORRECT" p.comparison
  let actuality ← actualityClauses "CORRECT" p.actualityDate
  .ok (conjunction (joins ++ comparison :: actuality))

/-- `_generate_reconcile`. -/
def reconcile (p : ReconcileParams) : Except ValueError Text := do
  let _ ← requireText p.leftDataObjectVersionId
    "RECONCILE check requires 'leftDataObjectVersionId'"
  let _ ← requireText p.rightDataObjectVersionId
    "RECONCILE check requires 'rightDataObjectVersionId'"
  requireList p.joinKeys "RECONCILE check requires at least one entry in 'joinKeys'"
  requireList p.comparisons "RECONCILE check requires at least one entry in 'comparisons'"
  let joins ← joinClauses "RECONCILE" p.joinKeys
  let comparisons ← p.comparisons.mapM (comparisonClause "RECONCILE")
  let actuality ← actualityClauses "RECONCILE" p.actualityDate
  .ok (conjunction (joins ++ comparisons ++ actuality))

/-- One context of a plausibility range. -/
def contextualRange (subject context : Text) (item : ContextualRange) : Except ValueError Text := do
  let value ← requireText item.contextValue
    "PLAUSIBLE contextual_range entries require 'contextValue'"
  if item.minValue = .none ∧ item.maxValue = .none then
    .error ⟨"PLAUSIBLE contextual_range entries require at least one of 'minValue' or 'maxValue'"⟩
  else
    let bounds := boundClauses subject item.inclusive ((present item.minValue).map PyValue.toText)
      ((present item.maxValue).map PyValue.toText)
    .ok ('(' :: conjunction ((context ++ " = " ++ quoteLiteral (.str value)) :: bounds) ++
      [')'])

/-- One context of a plausibility allowlist. -/
def contextAllowlist (subject context : Text) (item : ContextAllowlist) :
    Except ValueError Text := do
  let value ← requireText item.contextValue
    "PLAUSIBLE conditional_allowlist entries require 'contextValue'"
  requireList item.allowedValues
    "PLAUSIBLE conditional_allowlist entries require at least one 'allowedValues' entry"
  .ok ('(' :: context ++ " = " ++ quoteLiteral (.str value) ++ " AND " ++
    listClause (listSubject subject item.caseSensitive) " IN " item.allowedValues
      item.caseSensitive ++ [')'])

/-- `_generate_plausible`. -/
def plausibility (p : PlausibleParams) : Except ValueError Text := do
  let subject ← requireText p.attributeName "PLAUSIBLE check requires 'attribute'"
  let context ← requireText p.contextAttribute "PLAUSIBLE check requires 'contextAttribute'"
  match p.mode with
  | .contextualRange ranges => do
    requireList ranges "PLAUSIBLE contextual_range mode requires at least one range entry"
    let clauses ← ranges.mapM (contextualRange subject context)
    .ok (disjunction clauses)
  | .conditionalAllowlist allowlists => do
    requireList allowlists
      "PLAUSIBLE conditional_allowlist mode requires at least one allowlist entry"
    let clauses ← allowlists.mapM (contextAllowlist subject context)
    .ok (disjunction clauses)

/-- `_generate_transfer_match`. -/
def transferMatch (p : TransferMatchParams) : Except ValueError Text := do
  let _ ← requireText p.leftDataObjectVersionId
    "TRANSFER_MATCH check requires 'leftDataObjectVersionId'"
  let _ ← requireText p.rightDataObjectVersionId
    "TRANSFER_MATCH check requires 'rightDataObjectVersionId'"
  requireList p.joinKeys "TRANSFER_MATCH check requires at least one entry in 'joinKeys'"
  let joins ← joinClauses "TRANSFER_MATCH" p.joinKeys
  match p.mode with
  | .rowValueMatch comparisons => do
    requireList comparisons
      "TRANSFER_MATCH row_value_match mode requires at least one entry in 'comparisons'"
    let clauses ← comparisons.mapM (comparisonClause "TRANSFER_MATCH")
    let actuality ← actualityClauses "TRANSFER_MATCH" p.actualityDate
    .ok (conjunction (joins ++ clauses ++ actuality))
  | .payloadHashMatch left right =>
    if left.strip = [] ∨ right.strip = [] then
      .error ⟨"TRANSFER_MATCH payload_hash_match mode requires both 'leftHashAttribute' and " ++
        "'rightHashAttribute'"⟩
    else do
      let actuality ← actualityClauses "TRANSFER_MATCH" p.actualityDate
      .ok (conjunction (joins ++ (left.strip ++ " = rhs." ++ right.strip) :: actuality))

/-- One comparison of a join-consistency check. -/
def joinComparison (item : JoinComparison) : Except ValueError Text :=
  if item.leftAttribute.strip = [] ∨ item.rightAttribute.strip = [] then
    .error ⟨"JOIN_CONSISTENCY comparisons entries require both 'leftAttribute' and " ++
      "'rightAttribute'"⟩
  else if item.caseInsensitive then
    .ok (lowerClause item.leftAttribute.strip item.rightAttribute.strip)
  else .ok (item.leftAttribute.strip ++ " = rhs." ++ item.rightAttribute.strip)

/-- `_generate_join_consistency`. -/
def joinConsistency (p : JoinConsistencyParams) : Except ValueError Text := do
  let _ ← requireText p.leftDataObjectVersionId
    "JOIN_CONSISTENCY check requires 'leftDataObjectVersionId'"
  let _ ← requireText p.rightDataObjectVersionId
    "JOIN_CONSISTENCY check requires 'rightDataObjectVersionId'"
  requireList p.joinKeys "JOIN_CONSISTENCY check requires at least one entry in 'joinKeys'"
  requireList p.comparisons "JOIN_CONSISTENCY check requires at least one entry in 'comparisons'"
  let _ ← requireText p.actualityDate.contractId
    "JOIN_CONSISTENCY actualityDate requires 'contractId'"
  let left ← requireText p.actualityDate.leftAttribute
    "JOIN_CONSISTENCY actualityDate requires 'leftAttribute'"
  let right ← requireText p.actualityDate.rightAttribute
    "JOIN_CONSISTENCY actualityDate requires 'rightAttribute'"
  match p.actualityDate.resolvedTolerance with
  | none =>
    .error ⟨"JOIN_CONSISTENCY actualityDate requires 'resolvedToleranceValue' before " ++
      "expression generation"⟩
  | some (value, unit) => do
    let joins ← joinClauses "JOIN_CONSISTENCY" p.joinKeys
    let comparisons ← p.comparisons.mapM joinComparison
    .ok (conjunction (joins ++ comparisons ++ [toleranceClause left right unit value]))

end Generate

def generateExpressionFromCheckType [PyRuntime] : CheckParams → Except ValueError Text
  | .threshold p => Generate.threshold p
  | .rowCount p => Generate.rowCount p
  | .regex p => Generate.regex p
  | .range p => Generate.range p
  | .allowlist p => Generate.allowlist p
  | .blocklist p => Generate.blocklist p
  | .uniqueness p => Generate.uniqueness p
  | .referentialIntegrity p => Generate.referentialIntegrity p
  | .freshness p => Generate.freshness p
  | .lag p => Generate.lag p
  | .futureDate p => Generate.futureDate p
  | .present p => Generate.presence p
  | .correct p => Generate.correct p
  | .reconcile p => Generate.reconcile p
  | .plausibility p => Generate.plausibility p
  | .transferMatch p => Generate.transferMatch p
  | .joinConsistency p => Generate.joinConsistency p

end DqMadeEasy
