import DqMadeEasy.Text.Json

/-!
# Trino queries and the validation of their results

`execute_query` reads a result set batch by batch, keeps the first rows of it as a sample and
counts all of them. `validate_query_result` compares either the number of rows or the first
cell of the first row with the expected value. It takes the query result object or a plain
list of rows.
-/

namespace DqMadeEasy

namespace Json

/-- `n == value` for an integer. -/
def equalsInt (n : ℤ) : Json → Bool
  | .scalar v => PyValue.pyEq (.int n) v
  | _ => false

theorem equalsInt_int (m n : ℤ) : equalsInt m (int n) = decide (m = n) := by
  have hcast : ((m : ℚ) = (n : ℚ)) ↔ m = n := Int.cast_inj
  show (PyFloat.finite (m : ℚ) == PyFloat.finite (n : ℚ)) = decide (m = n)
  by_cases h : m = n
  · simp [h]
  · simp [h, hcast]

/-- A value equals one integer at most. -/
theorem equalsInt_inj {m n : ℤ} {value : Json} (hm : equalsInt m value = true)
    (hn : equalsInt n value = true) : m = n := by
  cases value with
  | list items => simp [equalsInt] at hm
  | dict entries => simp [equalsInt] at hm
  | scalar v =>
    cases v with
    | none => simp [equalsInt, PyValue.pyEq, PyValue.numeric] at hm
    | str t => simp [equalsInt, PyValue.pyEq, PyValue.numeric] at hm
    | bool b =>
      simp only [equalsInt, PyValue.pyEq, PyValue.numeric, beq_iff_eq, PyFloat.finite.injEq] at hm hn
      exact_mod_cast hm.trans hn.symm
    | int k =>
      simp only [equalsInt, PyValue.pyEq, PyValue.numeric, beq_iff_eq, PyFloat.finite.injEq] at hm hn
      exact_mod_cast hm.trans hn.symm
    | float f =>
      simp only [equalsInt, PyValue.pyEq, PyValue.numeric, beq_iff_eq] at hm hn
      have hfinite : PyFloat.finite (m : ℚ) = PyFloat.finite (n : ℚ) := hm.trans hn.symm
      simp only [PyFloat.finite.injEq] at hfinite
      exact_mod_cast hfinite

end Json

namespace Trino

/-- The Python values that the client library returns in the cells of a row. -/
class PyCell (α : Type) where
  /-- `None`. -/
  none : α
  /-- The integer of a length. -/
  ofNat : ℕ → α
  /-- `cell == expected`. -/
  equals : α → Json → Bool
  none_ne_ofNat : ∀ n, none ≠ ofNat n
  equals_ofNat : ∀ n expected, equals (ofNat n) expected = Json.equalsInt n expected

/-- A row of a result, by its Python type. -/
inductive Row (α : Type) where
  | mapping (cells : List (Text × α))
  | sequence (cells : List α)
  | value (cell : α)

namespace Row

variable {α : Type}

/-- `next(iter(row.values()), None)` of a mapping, `row[0] if row else None` of a sequence and
the row itself otherwise. -/
def firstCell [PyCell α] : Row α → α
  | .mapping cells => (cells.head?.map Prod.snd).getD PyCell.none
  | .sequence cells => cells.head?.getD PyCell.none
  | .value cell => cell

/-- `len(row) == 1` of a mapping or a sequence. Any other row counts as one column. -/
def singleColumn : Row α → Bool
  | .mapping cells => cells.length == 1
  | .sequence cells => cells.length == 1
  | .value _ => true

end Row

/-- `TrinoQueryResult`. -/
structure TrinoQueryResult (α : Type) where
  rows : List (Row α)
  rowCount : ℕ
  truncated : Bool

section Fetching

variable {α : Type}

/-- The result before the first batch. -/
def TrinoQueryResult.empty : TrinoQueryResult α := ⟨[], 0, false⟩

/-- One turn of the loop of `execute_query`. -/
def TrinoQueryResult.extend (sampleLimit : ℕ) (result : TrinoQueryResult α)
    (batch : List (Row α)) : TrinoQueryResult α :=
  if result.rows.length < sampleLimit then
    let remainingSlots := sampleLimit - result.rows.length
    { rows := result.rows ++ batch.take remainingSlots
      rowCount := result.rowCount + batch.length
      truncated := result.truncated || decide (remainingSlots < batch.length) }
  else
    { result with rowCount := result.rowCount + batch.length, truncated := true }

/-- The loop of `execute_query`. `answers` are the answers of `cursor.fetchmany`, one a call;
an empty answer ends the loop. -/
def fetchLoop (sampleLimit : ℕ) :
    TrinoQueryResult α → List (List (Row α)) → TrinoQueryResult α
  | result, [] => result
  | result, [] :: _ => result
  | result, (row :: batch) :: answers =>
    fetchLoop sampleLimit (result.extend sampleLimit (row :: batch)) answers

/-- `execute_query` on a cursor with these answers. `maxResultSampleSize` is the configured
sample size, which may be negative. -/
def executeQuery (maxResultSampleSize : ℤ) (answers : List (List (Row α))) :
    TrinoQueryResult α :=
  fetchLoop (max maxResultSampleSize 0).toNat .empty answers

/-- The rows that the loop reads: the answers before the first empty one. -/
def fetched : List (List (Row α)) → List (Row α)
  | [] => []
  | [] :: _ => []
  | (row :: batch) :: answers => (row :: batch) ++ fetched answers

/-- The object describes these rows: the first of them up to the limit, their number, and
whether there are more of them. -/
structure Describes (sampleLimit : ℕ) (result : TrinoQueryResult α) (rows : List (Row α)) :
    Prop where
  sample : result.rows = rows.take sampleLimit
  count : result.rowCount = rows.length
  flag : result.truncated = decide (sampleLimit < rows.length)

theorem describes_empty (sampleLimit : ℕ) :
    Describes sampleLimit (.empty : TrinoQueryResult α) [] :=
  ⟨by simp [TrinoQueryResult.empty], rfl, by simp [TrinoQueryResult.empty]⟩

/-- What one turn does to the description. A turn is taken with a non-empty batch only. -/
theorem Describes.extend {sampleLimit : ℕ} {result : TrinoQueryResult α} {rows : List (Row α)}
    (h : Describes sampleLimit result rows) {batch : List (Row α)} (hbatch : batch ≠ []) :
    Describes sampleLimit (result.extend sampleLimit batch) (rows ++ batch) := by
  have hlength : result.rows.length = min sampleLimit rows.length := by
    rw [h.sample, List.length_take]
  have hpos : 0 < batch.length := List.length_pos_of_ne_nil hbatch
  unfold TrinoQueryResult.extend
  split
  · next hroom =>
    have hall : rows.length < sampleLimit := by omega
    refine ⟨?_, by simp [h.count], ?_⟩
    · rw [List.take_append, List.take_of_length_le hall.le]
      simp only [h.sample, List.take_of_length_le hall.le]
    · simp only [h.flag, h.sample, List.take_of_length_le hall.le, List.length_append]
      rw [← Bool.decide_or]
      exact decide_eq_decide.mpr ⟨fun hmore => by omega, fun hmore => by omega⟩
  · next hfull =>
    have hall : sampleLimit ≤ rows.length := by omega
    refine ⟨?_, by simp [h.count], ?_⟩
    · simp only [h.sample]
      rw [List.take_append_of_le_length hall]
    · simp only [List.length_append]
      exact (decide_eq_true (by omega)).symm

theorem describes_fetchLoop {sampleLimit : ℕ} {result : TrinoQueryResult α}
    {rows : List (Row α)} (h : Describes sampleLimit result rows)
    (answers : List (List (Row α))) :
    Describes sampleLimit (fetchLoop sampleLimit result answers) (rows ++ fetched answers) := by
  induction answers generalizing result rows with
  | nil => simpa [fetchLoop, fetched] using h
  | cons answer answers ih =>
    cases answer with
    | nil => simpa [fetchLoop, fetched] using h
    | cons row batch =>
      have hnext := ih (h.extend (List.cons_ne_nil row batch))
      rw [List.append_assoc] at hnext
      exact hnext

theorem describes_executeQuery (maxResultSampleSize : ℤ) (answers : List (List (Row α))) :
    Describes maxResultSampleSize.toNat (executeQuery maxResultSampleSize answers)
      (fetched answers) := by
  have hlimit : (max maxResultSampleSize 0).toNat = maxResultSampleSize.toNat := by omega
  have h := describes_fetchLoop (describes_empty (α := α) maxResultSampleSize.toNat) answers
  rw [executeQuery, hlimit]
  simpa using h

end Fetching

/-- What the validator is given. -/
inductive ResultRows (α : Type) where
  | object (result : TrinoQueryResult α)
  | plain (rows : List (Row α))

/-- The exceptions of the lowering and of the validation. -/
inductive Raised where
  | valueError (message : Text)
  | typeError
  | indexError
  deriving DecidableEq

namespace ResultRows

variable {α : Type}

/-- `len(result)`. -/
def length : ResultRows α → ℕ
  | .object result => result.rowCount
  | .plain rows => rows.length

/-- `result[0]`. -/
def first? : ResultRows α → Option (Row α)
  | .object result => result.rows.head?
  | .plain rows => rows.head?

/-- `_first_cell`. An object is empty when its row count is 0, and is indexed by its sample. -/
def firstCell [PyCell α] (result : ResultRows α) : Except Raised α :=
  if result.length = 0 then .ok PyCell.none
  else
    match result.first? with
    | some row => .ok row.firstCell
    | none => .error .indexError

end ResultRows

/-- What the execution plan passes to `validate_query_result`. -/
structure ValidationOptions where
  expectedCount : Json
  treatFirstCellAsCount : Bool

/-- The `details` of a mismatch. -/
structure CountMismatch (α : Type) where
  actualCount : α
  expectedCount : Json

/-- A validation result. -/
structure Validation (α : Type) where
  passed : Bool
  actualCount : α
  expectedCount : Json
  failedRows : List (Row α)
  details : Option (CountMismatch α)

section Validating

variable {α : Type} [PyCell α]

/-- The result of comparing a value with the expected one. -/
def Validation.compare (actual : α) (expected : Json) : Validation α :=
  if PyCell.equals actual expected then ⟨true, actual, expected, [], none⟩
  else ⟨false, actual, expected, [], some ⟨actual, expected⟩⟩

def validateQueryResult (result : ResultRows α) (expected : ValidationOptions) :
    Except Raised (Validation α) :=
  if expected.expectedCount.isNone then
    .ok ⟨true, PyCell.ofNat result.length, expected.expectedCount, [], none⟩
  else if expected.treatFirstCellAsCount then
    result.firstCell.map fun actual => .compare actual expected.expectedCount
  else .ok (.compare (PyCell.ofNat result.length) expected.expectedCount)

def Validation.reported (validation : Validation α) : Bool × α × ℕ :=
  (validation.passed, validation.actualCount, validation.failedRows.length)

theorem Validation.reported_compare (actual : α) (expected : Json) :
    (Validation.compare actual expected).reported =
      (PyCell.equals actual expected, actual, 0) := by
  unfold Validation.compare
  split
  · next h => rw [h]; rfl
  · next h => rw [Bool.not_eq_true _ |>.mp h]; rfl

end Validating

end Trino

end DqMadeEasy
