import DqMadeEasy.Worker.Error

/-!
# Data frames

The worker reaches its data through the data-frame library only: it builds column expressions,
filters a frame by one, counts and collects rows. The library is a parameter; every action may
raise. Column expressions are kept as they are built.
-/

namespace DqMadeEasy

namespace Worker

/-- A column expression. -/
inductive Column where
  | col (name : Text)
  | lit (value : Json)
  | rowCondition (condition : Json)
  | isNull (column : Column)
  | isNotNull (column : Column)
  | not (column : Column)
  | and (left right : Column)
  | or (left right : Column)
  | compare (op : String) (left right : Column)
  | minus (left right : Column)
  | divide (left right : Column)
  | abs (column : Column)
  | lower (column : Column)
  | castString (column : Column)
  | isin (column : Column) (values : List Json)
  | rlike (column : Column) (regex : Text)
  | toTimestamp (column : Column)
  | unixTimestamp (column : Column)
  | currentTimestamp

/-- A value in a collected row, with its `str`. -/
inductive RowValue where
  | missing
  | scalar (text : Text)
  | mapping (entries : List (Text × RowValue)) (text : Text)

/-- The data-frame library and the native runner. -/
structure Spark (Frame : Type) where
  /-- `df.columns`. -/
  columns : Frame → List Text
  /-- `id(df)`. -/
  address : Frame → ℕ
  /-- `df.where(condition)`. -/
  filter : Frame → Column → Except PyError Frame
  /-- `df.count()`. -/
  count : Frame → Except PyError ℕ
  /-- `df.collect()`. -/
  collect : Frame → Except PyError (List RowValue)
  /-- `df.limit(1).take(1)`. -/
  takeFirst : Frame → Except PyError (Option RowValue)
  /-- Some group of `df.groupBy(*columns)` has more than one row. -/
  repeats : Frame → List Json → Except PyError Bool
  /-- `registry.get_expectation_impl` knows the type. -/
  registered : Text → Bool
  /-- The native run of an expectation: its success and its result. -/
  native : Frame → Text → Dict → Except PyError (Bool × Json)

namespace RowValue

/-- `str(value)`. -/
def text : RowValue → Text
  | .missing => "None"
  | .scalar text => text
  | .mapping _ text => text

def entry : List (Text × RowValue) → Text → RowValue
  | [], _ => .missing
  | (k, v) :: entries, key => if k = key then v else entry entries key

/-- `_resolve_row_value` along the parts of a field name. -/
def resolve : RowValue → List Text → RowValue
  | current, [] => current
  | .mapping entries _, part :: parts => resolve (entry entries part) parts
  | _, _ :: _ => .missing

/-- `_build_row_identifier`. -/
def identifier (row : RowValue) (primaryKeyFields : List Text) : Option Text :=
  match row, primaryKeyFields with
  | .mapping entries text, field :: fields =>
    ((field :: fields).mapM fun name =>
      match resolve (.mapping entries text) (Text.splitOn '.' name) with
      | .missing => none
      | value => some (name ++ '=' :: value.text)).map (Text.join ['|'])
  | _, _ => none

end RowValue

variable {Frame : Type} (S : Spark Frame)

def firstRowIdentifier (frame : Frame) (failureCondition : Option Column)
    (primaryKeyFields : List Text) : Except PyError (Option Text) :=
  match primaryKeyFields, failureCondition with
  | field :: fields, some condition => do
    let failing ← S.filter frame condition
    let first ← S.takeFirst failing
    return first.bind fun row => row.identifier (field :: fields)
  | _, _ => .ok none

end Worker

end DqMadeEasy
