import DqMadeEasy.Gx.Expectation
import DqMadeEasy.Semantics.Expression

/-!
# The worker

`evaluate_expectations_spark` turns every expectation into a failure condition on rows, or into
a test of the whole frame, and refuses the expectations it does not know or whose arguments are
incomplete. Rows outside the row condition are removed before either.

The frame that an expectation sees is the frame filtered by its row condition. How the query
engine reads a row condition, and how the native runner answers a query comparison, are
parameters of the worker.
-/

namespace DqMadeEasy

namespace Worker

open Gx

/-- `failure_code` of a `GxWorkerExecutionError`. -/
inductive FailureCode where
  | invalidExpectation | unsupportedExpectation | executionError
  deriving DecidableEq, Repr

/-- `GxWorkerExecutionError`. -/
structure ExecutionError where
  code : FailureCode
  message : String
  deriving DecidableEq, Repr

/-- A data frame: its column names and its rows. -/
structure Frame (Cell : Type*) where
  columns : List Text
  rows : List (Row Cell)

variable {Cell : Type*} (E : Engine Cell)

/-- The cell lies within the bounds that are present. -/
def withinBounds (a : Cell) (bounds : Bounds) : Truth :=
  (if bounds.minValue = .none then .yes
    else E.compare (if bounds.strictMin then .gt else .ge) a (E.lit bounds.minValue)) ⊓
  (if bounds.maxValue = .none then .yes
    else E.compare (if bounds.strictMax then .lt else .le) a (E.lit bounds.maxValue))

/-- A present timestamp lies after another one; a missing one is unknown. -/
def isAfter : Option ℚ → Option ℚ → Truth
  | some a, some b => Truth.ofBool (decide (b < a))
  | _, _ => .unknown

def isMissing (t : Option ℚ) : Truth := Truth.ofBool t.isNone

def exceeds (quantity : Option ℚ) (bound : ℚ) : Truth :=
  Truth.ofOption (quantity.map fun q => decide (bound < q))

/-- `unix_timestamp`: whole seconds. -/
def unixSeconds (t : Option ℚ) : Option ℚ := t.map fun q => (q.floor : ℚ)

/-- Difference of two timestamps in seconds. -/
def secondsBetween (a b : Option ℚ) : Option ℚ :=
  match unixSeconds a, unixSeconds b with
  | some a, some b => some (a - b)
  | _, _ => none

/-- Seconds in a unit of a timestamp tolerance, by the start of its name. -/
def unitSeconds (unit : Text) : ℚ :=
  if "minute".toList.isPrefixOf unit then 60
  else if "hour".toList.isPrefixOf unit then 3600
  else 86400

/-- The comparison of two columns as lower-case texts. -/
def sameLower (a b : Cell) : Truth :=
  if E.isNull a || E.isNull b then .unknown
  else Truth.ofBool (E.lower (E.text a) == E.lower (E.text b))

def exceedsFloat (quantity : Option ℚ) : PyFloat → Truth
  | .finite bound => exceeds quantity bound
  | .infinite negative => Truth.ofOption (quantity.map fun _ => negative)
  | .nan => Truth.ofOption (quantity.map fun _ => false)

/-- Which rows of a pair comparison are evaluated, by `ignore_row_if`. -/
def evaluatedRows (ignoreRowIf : Text) (a b : Cell) : Truth :=
  if ignoreRowIf = "both_values_are_missing" then
    (Truth.ofBool (E.isNull a && E.isNull b)).not
  else if ignoreRowIf = "either_value_is_missing" then
    Truth.ofBool (!E.isNull a && !E.isNull b)
  else .yes

/-- The cell a column argument names; the worker strips the name first. -/
def cell (row : Row Cell) (column : Text) : Cell := row column.strip

/-- The failure condition of an expectation, for the types that have one. -/
def failureCondition [PyRuntime] : ExpectationKind → Option (Row Cell → Truth)
  | .notBeNull column => some fun row => Truth.ofBool (E.isNull (cell row column))
  | .beNull column => some fun row => Truth.ofBool !E.isNull (cell row column)
  | .inSet negated column values => some fun row =>
    let member := E.isIn (cell row column) (values.map E.lit)
    Truth.ofBool (!E.isNull (cell row column)) ⊓ if negated then member else member.not
  | .between negated column bounds => some fun row =>
    let inRange := withinBounds E (cell row column) bounds
    Truth.ofBool (!E.isNull (cell row column)) ⊓ if negated then inRange else inRange.not
  | .matchRegex false column regex => some fun row =>
    Truth.ofBool (E.isNull (cell row column)) ⊔ (E.textTest (E.rlike regex) (cell row column)).not
  | .matchRegex true column regex => some fun row =>
    Truth.ofBool (!E.isNull (cell row column)) ⊓ E.textTest (E.rlike regex) (cell row column)
  | .inSetForOther column otherColumn otherValue values caseSensitive => some fun row =>
    let a := cell row column
    let allowed :=
      if caseSensitive then E.isIn a (values.map E.lit)
      else
        E.textTest (fun t => (values.map fun v => PyRuntime.lower v.toText).contains
          (E.lower t)) a
    E.compare .eq (cell row otherColumn) (E.lit otherValue) ⊓
      (Truth.ofBool (E.isNull a) ⊔ allowed.not)
  | .pairEqual columnA columnB ignoreRowIf => some fun row =>
    let a := cell row columnA
    let b := cell row columnB
    evaluatedRows E ignoreRowIf a b ⊓
      (Truth.ofBool (E.isNull a) ⊔ Truth.ofBool (E.isNull b) ⊔ E.compare .ne a b)
  | .equalOtherCaseInsensitive column otherColumn => some fun row =>
    let a := cell row column
    let b := cell row otherColumn
    Truth.ofBool (E.isNull a) ⊔ Truth.ofBool (E.isNull b) ⊔ (sameLower E a b).not
  | .withinNumericTolerance column otherColumn tolerance => some fun row =>
    let a := cell row column
    let b := cell row otherColumn
    Truth.ofBool (E.isNull a) ⊔ Truth.ofBool (E.isNull b) ⊔
      exceedsFloat (E.distance a b) tolerance
  | .timestampsWithinTolerance column otherColumn maxDifference differenceUnit => some fun row =>
    let a := E.timestamp (cell row column)
    let b := E.timestamp (cell row otherColumn)
    isMissing a ⊔ isMissing b ⊔
      exceeds ((secondsBetween a b).map fun s => |s| / unitSeconds differenceUnit) maxDifference
  | .withinPastDays column maxDaysOld _ => some fun row =>
    let t := E.timestamp (cell row column)
    isMissing t ⊔ exceeds ((secondsBetween (some E.now) t).map fun s => s / 86400) maxDaysOld
  | .maxLagHours column startColumn maxHours => some fun row =>
    let finish := E.timestamp (cell row column)
    let start := E.timestamp (cell row startColumn)
    isMissing start ⊔ isMissing finish ⊔
      exceeds ((secondsBetween finish start).map fun s => s / 3600) maxHours
  | .notInFuture column referenceTime => some fun row =>
    let t := E.timestamp (cell row column)
    let reference :=
      match referenceTime with
      | some time => E.timestamp (E.lit (.str time))
      | none => some E.now
    isMissing t ⊔ isAfter t reference
  | _ => none

theorem failureCondition_isSome [PyRuntime] (kind : ExpectationKind) :
    (failureCondition E kind).isSome = kind.checksRows := by
  cases kind with
  | matchRegex negated column regex => cases negated <;> rfl
  | _ => rfl

/-! ### Expectations over the whole frame -/

def uniqueColumns : ExpectationKind → Option (List Text)
  | .unique column => some [column.strip]
  | .compoundUnique _ columns => some columns
  | _ => none

theorem uniqueColumns_of_checksRows {kind : ExpectationKind} (h : kind.checksRows = true) :
    uniqueColumns kind = none := by
  cases kind <;> first | rfl | cases h

/-- Two cells fall into one group: equal, or both missing. -/
def sameGroup (a b : Cell) : Bool :=
  (E.isNull a && E.isNull b) || E.compare .eq a b == .yes

def agreeOn (columns : List Text) (a b : Row Cell) : Bool :=
  columns.all fun column => sameGroup E (a column) (b column)

/-- Some later row falls into the group of an earlier one. -/
def hasDuplicates (columns : List Text) : List (Row Cell) → Bool
  | [] => false
  | row :: rows => rows.any (agreeOn E columns row) || hasDuplicates columns rows

/-- The proportion of present cells in a column, zero on an empty frame. -/
def nonNullProportion [PyRuntime] (column : Text) (rows : List (Row Cell)) : PyFloat :=
  if rows.isEmpty then .finite 0
  else
    PyRuntime.roundFloat
      ((rows.countP fun row => !E.isNull (row column) : ℕ) / (rows.length : ℕ))

/-- A float lies within the bounds that are present. -/
def floatWithin [PyRuntime] (x : PyFloat) (bounds : Bounds) : Bool :=
  (match bounds.minValue.toFloat with
    | some low => if bounds.strictMin then low.lt x else low.le x
    | none => true) &&
  (match bounds.maxValue.toFloat with
    | some high => if bounds.strictMax then x.lt high else x.le high
    | none => true)

/-- What became of one expectation. -/
inductive Outcome where
  | passed | failed | missingColumn
  deriving DecidableEq, Repr

def Outcome.ofFailure (failure : Bool) : Outcome := if failure then .failed else .passed

/-- Refuses an expectation for its arguments. -/
def invalid {α : Type*} (kind : ExpectationKind) (what : String) : Except ExecutionError α :=
  .error ⟨.invalidExpectation, "Expectation '" ++ kind.typeName ++ "' " ++ what⟩

/-- Checks of the arguments that come before the second column is looked up. -/
def checkArguments : ExpectationKind → Except ExecutionError Unit
  | .pairEqual columnA columnB ignoreRowIf =>
    if columnB.strip = [] then
      invalid (.pairEqual columnA columnB ignoreRowIf) "requires column_A and column_B"
    else .ok ()
  | .inSetForOther column otherColumn otherValue values caseSensitive =>
    let kind : ExpectationKind := .inSetForOther column otherColumn otherValue values caseSensitive
    if otherColumn.strip = [] then invalid kind "requires other_column"
    else if otherValue = .none then invalid kind "requires other_value"
    else .ok ()
  | .equalOtherCaseInsensitive column otherColumn =>
    if otherColumn.strip = [] then
      invalid (.equalOtherCaseInsensitive column otherColumn) "requires other_column"
    else .ok ()
  | .withinNumericTolerance column otherColumn tolerance =>
    if otherColumn.strip = [] then
      invalid (.withinNumericTolerance column otherColumn tolerance) "requires other_column"
    else .ok ()
  | .timestampsWithinTolerance column otherColumn maxDifference unit =>
    if otherColumn.strip = [] then
      invalid (.timestampsWithinTolerance column otherColumn maxDifference unit)
        "requires other_column"
    else .ok ()
  | .between negated column bounds =>
    if bounds.minValue = .none ∧ bounds.maxValue = .none then
      invalid (.between negated column bounds) "requires at least one of min_value or max_value"
    else .ok ()
  | .matchRegex negated column regex =>
    if regex = [] then invalid (.matchRegex negated column regex) "requires regex" else .ok ()
  | .withinPastDays column maxDaysOld anchor =>
    if (Text.strip anchor).map Char.toLower ≠ "now" then
      invalid (.withinPastDays column maxDaysOld anchor) "supports only anchor='now'"
    else .ok ()
  | .maxLagHours column startColumn maxHours =>
    if startColumn.strip = [] then
      invalid (.maxLagHours column startColumn maxHours) "requires start_column"
    else .ok ()
  | _ => .ok ()

/-- The second column an expectation reads. -/
def secondColumn : ExpectationKind → Option Text
  | .pairEqual _ columnB _ => some columnB.strip
  | .inSetForOther _ otherColumn _ _ _ => some otherColumn.strip
  | .equalOtherCaseInsensitive _ otherColumn => some otherColumn.strip
  | .withinNumericTolerance _ otherColumn _ => some otherColumn.strip
  | .timestampsWithinTolerance _ otherColumn _ _ => some otherColumn.strip
  | .maxLagHours _ startColumn _ => some startColumn.strip
  | _ => none

def toleranceUnits : List Text :=
  ["minute", "minutes", "hour", "hours", "day", "days"]

/-- The values of `ignore_row_if`. -/
def ignoreRowIfValues : List Text :=
  ["both_values_are_missing", "either_value_is_missing", "neither"]

/-- Checks of the arguments that come after the second column was found. -/
def checkLateArguments : ExpectationKind → Except ExecutionError Unit
  | .pairEqual columnA columnB ignoreRowIf =>
    if ignoreRowIf ∈ ignoreRowIfValues then .ok ()
    else
      invalid (.pairEqual columnA columnB ignoreRowIf)
        ("has unsupported ignore_row_if '" ++ String.ofList ignoreRowIf ++ "'")
  | .timestampsWithinTolerance column otherColumn maxDifference unit =>
    if unit ∈ toleranceUnits then .ok ()
    else
      invalid (.timestampsWithinTolerance column otherColumn maxDifference unit)
        ("has unsupported difference_unit '" ++ String.ofList unit ++ "'")
  | _ => .ok ()

/-- The final branch chain, on a frame that has every column the expectation names. -/
def judge [PyRuntime] (kind : ExpectationKind) (rows : List (Row Cell)) :
    Except ExecutionError Outcome :=
  match kind with
  | .unique column => .ok (.ofFailure (hasDuplicates E [column.strip] rows))
  | .nonNullProportion column bounds =>
    .ok (.ofFailure !floatWithin (nonNullProportion E column.strip rows) bounds)
  | kind =>
    match failureCondition E kind with
    | some failure => .ok (.ofFailure (rows.any fun row => failure row == .yes))
    | none =>
      .error ⟨.unsupportedExpectation, "Unsupported expectation_type '" ++ kind.typeName ++ "'"⟩

/-- The running worker: the query engine, its reading of row conditions, and the native
runner. -/
structure Session (Cell : Type*) where
  engine : Engine Cell
  /-- `DataFrame.where` on a row condition. -/
  filter : Condition → Except ExecutionError (Row Cell → Truth)
  /-- The native runner on a query comparison. -/
  native : ExpectationKind → Except ExecutionError Outcome

/-- The rows an expectation sees. -/
def scopedRows (S : Session Cell) (condition : Option Condition) (frame : Frame Cell) :
    Except ExecutionError (List (Row Cell)) :=
  match condition with
  | none => .ok frame.rows
  | some condition =>
    match S.filter condition with
    | .ok keep => .ok (frame.rows.filter fun row => keep row == .yes)
    | .error error => .error error

/-- `int` of a row-count bound. -/
def rowCountBound : PyValue → Option ℤ
  | .int n => some n
  | .bool b => some (if b then 1 else 0)
  | _ => none

def judgeRowCount (bounds : Bounds) (rows : List (Row Cell)) : Except ExecutionError Outcome :=
  match rowCountBound bounds.minValue, rowCountBound bounds.maxValue with
  | some low, some high => .ok (.ofFailure !(low ≤ rows.length && (rows.length : ℤ) ≤ high))
  | _, _ => invalid (.rowCount bounds) "requires min_value and max_value"

/-- The compound uniqueness expectation. -/
def judgeCompoundUnique (column : Text) (columns available : List Text) (rows : List (Row Cell)) :
    Except ExecutionError Outcome :=
  if columns = [] then invalid (.compoundUnique column columns) "requires columns list"
  else if columns.any fun name => name.strip ≠ [] ∧ name.strip ∉ available then
    .ok .missingColumn
  else .ok (.ofFailure (hasDuplicates E columns rows))

/-- An expectation about a named column. -/
def judgeColumn [PyRuntime] (kind : ExpectationKind) (available : List Text)
    (rows : List (Row Cell)) : Except ExecutionError Outcome :=
  if kind.primaryColumn.strip = [] then invalid kind "missing column"
  else if kind.primaryColumn.strip ∉ available then .ok .missingColumn
  else
    match checkArguments kind with
    | .error error => .error error
    | .ok _ =>
      if (secondColumn kind).any (· ∉ available) then .ok .missingColumn
      else
        match checkLateArguments kind with
        | .error error => .error error
        | .ok _ => judge E kind rows

/-- One expectation of `evaluate_expectations_spark`. -/
def evaluate [PyRuntime] (S : Session Cell) (frame : Frame Cell) (expectation : Expectation) :
    Except ExecutionError Outcome :=
  match expectation.kind with
  | .queryComparison baseQuery source query mostly =>
    S.native (.queryComparison baseQuery source query mostly)
  | kind =>
    match scopedRows S expectation.rowCondition frame with
    | .error error => .error error
    | .ok rows =>
      match kind with
      | .rowCount bounds => judgeRowCount bounds rows
      | .compoundUnique column columns =>
        judgeCompoundUnique S.engine column columns frame.columns rows
      | kind => judgeColumn S.engine kind frame.columns rows

def reports [PyRuntime] (filter : Text → Row Cell → Truth) (expectation : Expectation)
    (row : Row Cell) : Prop :=
  (∀ condition ∈ expectation.rowCondition, E.conditionTruth filter row condition = .yes) ∧
    ∃ failure, failureCondition E expectation.kind = some failure ∧ failure row = .yes

end Worker

end DqMadeEasy
