import DqMadeEasy.Dispatch.Handover

/-!
# The actuality pre-filter of the join-pair worker

Before the join the right side may be reduced to the rows whose actuality date lies near those of
the left side. It is meant to save work only: the join of the reduced tables is to be judged like
the join of the full tables. The tables here are Spark's, with NULLs, filters of three values and
the join types that the worker knows.
-/

namespace DqMadeEasy

namespace Dispatch

namespace JoinPair

open Worker

/-! ### Tables -/

/-- The order of the values that a column may hold, and a value an interval later. -/
class SparkValue (α : Type) where
  le : α → α → Bool
  plus : α → ℤ → Text → α

/-- A cell: NULL, a value, or the row of the right side in a joined row. -/
inductive Cell (α : Type) where
  | null
  | value (a : α)
  | struct (cells : List (Text × Cell α))

/-- A row by the names of its columns. -/
abbrev TableRow (α : Type) := List (Text × Cell α)

/-- A data frame. -/
structure Table (α : Type) where
  columns : List Text
  rows : List (TableRow α)

namespace Table

variable {α : Type}

def at? (row : TableRow α) (column : Text) : Option α :=
  match Assoc.find? row column with
  | some (.value a) => some a
  | _ => none

/-- The least value by an order. -/
def least (le : α → α → Bool) : List α → Option α
  | [] => none
  | a :: as =>
    match least le as with
    | none => some a
    | some b => some (if le a b then a else b)

variable [SparkValue α]

/-- `right_df.filter(…)`: the rows whose actuality lies between the least one of the left side less
the tolerance and the greatest one plus the tolerance. A comparison with NULL is not true. -/
def filterRight (left right : Table α) (leftAttribute rightAttribute : Text) (tolerance : ℤ)
    (unit : Text) : Table α :=
  let actualities := left.rows.filterMap fun row => at? row leftAttribute
  let keeps : TableRow α → Bool := fun row =>
    match least SparkValue.le actualities, least (fun a b => SparkValue.le b a) actualities,
      at? row rightAttribute with
    | some low, some high, some actuality =>
      SparkValue.le (SparkValue.plus low (-tolerance) unit) actuality &&
        SparkValue.le actuality (SparkValue.plus high tolerance unit)
    | _, _, _ => false
  { right with rows := right.rows.filter keeps }

variable [DecidableEq α]

/-- The join condition: every pair of keys is equal and not NULL. -/
def meets (joinKeyPairs : List (Text × Text)) (left right : TableRow α) : Bool :=
  joinKeyPairs.all fun pair =>
    match at? left pair.1, at? right pair.2 with
    | some a, some b => decide (a = b)
    | _, _ => false

def nulls (table : Table α) : TableRow α := table.columns.map fun column => (column, .null)

/-- The row that `select` builds of a row of each side. -/
def paired (left right : TableRow α) : TableRow α := left ++ [("rhs".toList, .struct right)]

/-- `left_df.join(right_df, on=…, how=…).select(…)`, for the names of `joinTypes`. -/
def join (left right : Table α) (joinKeyPairs : List (Text × Text)) (joinType : Text) : Table α :=
  let matching : TableRow α → List (TableRow α) := fun l =>
    right.rows.filter (meets joinKeyPairs l)
  let unmatchedLeft := left.rows.filter fun l => (matching l).isEmpty
  let unmatchedRight := right.rows.filter fun r =>
    !(left.rows.any fun l => meets joinKeyPairs l r)
  let keepsLeft := decide (joinType = "left".toList ∨ joinType = "outer".toList)
  let keepsRight := decide (joinType = "right".toList ∨ joinType = "outer".toList)
  { columns := left.columns ++ ["rhs".toList]
    rows := (left.rows.flatMap fun l => (matching l).map (paired l)) ++
      (if keepsLeft then unmatchedLeft.map fun l => paired l right.nulls else []) ++
      (if keepsRight then unmatchedRight.map fun r => paired left.nulls r else []) }

/-- What Spark answers when the datasets of the locations are these tables. -/
def serve (read : SourceLocation → Except PyError (Table α)) :
    (call : Call (Table α)) → Effect Unit PyError (call.Answer (Table α))
  | .readDataset location => Effect.ofExcept (read location)
  | .filterRight left right leftAttribute rightAttribute tolerance unit =>
    pure (filterRight left right leftAttribute rightAttribute tolerance unit)
  | .join left right joinKeyPairs joinType => pure (left.join right joinKeyPairs joinType)
  | .getDataObjectVersion .. => pure ([] : Dict)
  | .count df => pure (df.rows.length : ℤ)
  | .now => pure ([] : Text)
  | .reportProgress _ | .createSparkSession _ | .ensureBucketExists _ | .uploadParquet ..
  | .saveDelta .. | .stopSpark | .lpush .. | .reportRun _ | .lrem _ => pure ()

end Table

/-! ### The join of the full tables -/

section Optimisation

variable {Frame σ Verdict : Type} (env : Environment Frame) [PyRuntime] [PyNumerals]

/-- `_build_joined_dataframe` without the pre-filter. -/
def joinFull (leftLocation rightLocation : SourceLocation) (sourceMaterialization : Dict) :
    Work Frame Frame := do
  let joinKeyPairs ← Program.ofExcept (requireMapping sourceMaterialization)
  let given := sourceMaterialization.get "join_type"
  let joinType ← Program.ofExcept
    (resolveJoinType (if given.truthy then given.str else "inner"))
  let left : Frame ← make (.readDataset leftLocation)
  let right : Frame ← make (.readDataset rightLocation)
  if (joinKeyPairs.all fun pair => env.columns left |>.contains pair.1) &&
      (joinKeyPairs.all fun pair => env.columns right |>.contains pair.2) then
    make (.join left right joinKeyPairs joinType)
  else
    Program.ofExcept (executionError
      "GX join-pair materialization join keys do not exist on the source datasets"
      "GX_JOIN_PAIR_ETL_INVALID_CONTRACT")

/-- The suite is evaluated on the join of the pre-filtered tables as on the join of the full ones.
What the suite makes of a table is its verdict with the failing pairs. -/
def OnlyOptimisation (serve : (call : Call Frame) → Effect σ PyError (call.Answer Frame))
    (suite : Frame → Verdict) (leftLocation rightLocation : SourceLocation)
    (sourceMaterialization : Dict) (s : σ) : Prop :=
  ∃ reduced full,
    (((buildJoinedDataframe env leftLocation rightLocation sourceMaterialization).exec
      serve).run s).1 = .ok reduced ∧
    (((joinFull env leftLocation rightLocation sourceMaterialization).exec serve).run s).1 =
      .ok full ∧
    suite reduced = suite full

/-- Whatever the tables, the join, the actuality clause and the suite are, and whatever Spark
answers, there is no join of the pre-filtered tables to evaluate the suite on: the flag of the
pre-filter is asked for with an argument that the function does not take. -/
theorem not_onlyOptimisation
    (serve : (call : Call Frame) → Effect σ PyError (call.Answer Frame))
    (suite : Frame → Verdict) (leftLocation rightLocation : SourceLocation)
    (sourceMaterialization : Dict) (s : σ) :
    ¬ OnlyOptimisation env serve suite leftLocation rightLocation sourceMaterialization s := by
  rintro ⟨reduced, full, hreduced, -, -⟩
  have hreturns := returns_buildJoinedDataframe env leftLocation rightLocation
    sourceMaterialization
  exact hreturns.of_exec (Prod.ext hreduced rfl)

end Optimisation

section Example

local instance sampleRuntimePreFilter : PyRuntime := .ascii (fun _ => .nan) (fun _ => [])

local instance sampleNumeralsPreFilter : PyNumerals := ⟨fun _ => none, fun _ => none, id⟩

/-- Times in minutes. -/
local instance sampleValuePreFilter : SparkValue ℤ where
  le a b := decide (a ≤ b)
  plus a n unit := if unit = "hour" then a + 60 * n else a + n

def oneRow (id time : ℤ) : Table ℤ where
  columns := ["id", "time"]
  rows := [[("id", .value id), ("time", .value time)]]

/-- An environment in which the pre-filter is not switched on. -/
def unsetEnvironment : Environment (Table ℤ) where
  json _ := .ok (.dict [])
  dumps _ := []
  columns table := table.columns
  getenv _ := none
  config := ⟨[], 0, none, none, none⟩

def idJoin : Dict := [entry "join_type" (.text "inner"), entry "join_keys" (.list [.text "id"])]

def readSame (_ : SourceLocation) : Except PyError (Table ℤ) := .ok (oneRow 1 100)

def rowLocation : SourceLocation where
  uri := "s3a://bucket/orders"
  format := "parquet"
  options := []

/-- The full tables have a join, with one pair. With the pre-filter switched off, as it is by
default, the worker raises a `TypeError` instead of building it. -/
theorem pre_filter_raises :
    (((joinFull unsetEnvironment rowLocation rowLocation idJoin).exec
        (Table.serve readSame)).run ()).1.map (fun table => table.rows.length) = .ok 1 ∧
      (((buildJoinedDataframe unsetEnvironment rowLocation rowLocation idJoin).exec
        (Table.serve readSame)).run ()).1 = .error (.builtin "TypeError"
          "_resolve_optional_bool_env() takes 1 positional argument but 2 were given") ∧
      ¬ OnlyOptimisation unsetEnvironment (Table.serve readSame) (fun table => table.rows.length)
        rowLocation rowLocation idJoin () := by
  refine ⟨rfl, rfl, ?_⟩
  rintro ⟨reduced, full, hreduced, -, -⟩
  cases hreduced

end Example

end JoinPair

end Dispatch

end DqMadeEasy
