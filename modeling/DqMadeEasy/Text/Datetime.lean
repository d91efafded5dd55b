import DqMadeEasy.Text.Json

/-!
# Points in time

The `datetime` values of Python and their ISO texts. Which texts are dates belongs to the Python
library: it is a field of `PyDatetime`.
-/

namespace DqMadeEasy

/-- A `datetime`: the microseconds since the epoch as its own clock shows them, and whether it has a
time zone. A value with a time zone counts in UTC. -/
structure Datetime where
  microseconds : ℤ
  aware : Bool
  deriving DecidableEq, Repr

/-- `datetime` and its texts. -/
class PyDatetime where
  /-- `isoformat`. -/
  isoformat : Datetime → Text
  /-- `datetime.fromisoformat`, `none` where it raises `ValueError`. -/
  fromisoformat : Text → Option Datetime
  isoformat_ne_nil : ∀ d, isoformat d ≠ []
  strip_isoformat : ∀ d, Text.strip (isoformat d) = isoformat d
  not_mem_isoformat : ∀ d, 'Z' ∉ isoformat d
  /-- A reading of the clock is read back from its text. -/
  fromisoformat_isoformat : ∀ reading : ℕ,
    fromisoformat (isoformat ⟨reading, true⟩) = some ⟨reading, true⟩

/-! ### The first readings of a clock -/

section Epoch

/-- The text of one of the first ten microseconds of the epoch in UTC. -/
def epochText : ℕ → Text
  | 0 => "1970-01-01T00:00:00+00:00"
  | n + 1 => "1970-01-01T00:00:00.00000" ++ Nat.digitChar (n + 1) :: "+00:00"

def unaryText (d : Datetime) : Text :=
  (if d.aware then 'u' else 'n') :: List.replicate d.microseconds.toNat '1'

def epochOrUnaryText (d : Datetime) : Text :=
  if d.aware = true ∧ d.microseconds.toNat < 10 then epochText d.microseconds.toNat
  else unaryText d

def ofUnaryText : Text → Option Datetime
  | [] => none
  | c :: rest => some ⟨rest.length, c == 'u'⟩

/-- The value of a text of either kind. -/
def ofEpochOrUnaryText (t : Text) : Option Datetime :=
  (((List.range 10).find? fun n => epochText n == t).map fun n => ⟨n, true⟩).or (ofUnaryText t)

theorem epochText_plain : ∀ n < 10, ∀ c ∈ epochText n, isSpace c = false ∧ c ≠ 'Z' := by
  have hall : ∀ n < 10, ((epochText n).all fun c => !isSpace c && c != 'Z') = true := by
    decide +kernel
  intro n hn c hc
  have hplain := List.all_eq_true.mp (hall n hn) c hc
  rwa [Bool.and_eq_true, Bool.not_eq_true', bne_iff_ne] at hplain

theorem epochOrUnaryText_plain (d : Datetime) :
    ∀ c ∈ epochOrUnaryText d, isSpace c = false ∧ c ≠ 'Z' := by
  intro c hc
  rw [epochOrUnaryText] at hc
  split at hc
  · rename_i h
    exact epochText_plain _ h.2 c hc
  · rcases List.mem_cons.mp hc with rfl | hc
    · split <;> decide
    · rw [List.eq_of_mem_replicate hc]
      decide

theorem ofEpochOrUnaryText_epochOrUnaryText (reading : ℕ) :
    ofEpochOrUnaryText (epochOrUnaryText ⟨reading, true⟩) = some ⟨reading, true⟩ := by
  rw [epochOrUnaryText]
  split
  · rename_i h
    have hread : ∀ n < 10, ofEpochOrUnaryText (epochText n) = some ⟨n, true⟩ := by decide +kernel
    exact hread _ h.2
  · have hnone : ((List.range 10).find? fun n => epochText n == unaryText ⟨reading, true⟩) =
        none := by
      rw [List.find?_eq_none]
      intro n hn heq
      have hhead : ∀ n < 10, (epochText n).head? = some '1' := by decide +kernel
      rw [beq_iff_eq] at heq
      have := hhead n (List.mem_range.mp hn)
      rw [heq] at this
      cases this
    rw [ofEpochOrUnaryText, hnone]
    simp [unaryText, ofUnaryText]

/-- A Python library whose texts of the first microseconds of the epoch are those of ISO, and which
writes and reads other values in unary. -/
@[reducible] def PyDatetime.epoch : PyDatetime where
  isoformat := epochOrUnaryText
  fromisoformat := ofEpochOrUnaryText
  isoformat_ne_nil d := by
    rw [epochOrUnaryText]
    split
    · rename_i h
      have hne : ∀ n < 10, epochText n ≠ [] := by decide +kernel
      exact hne _ h.2
    · exact List.cons_ne_nil _ _
  strip_isoformat d := by
    apply Text.strip_eq_self
    · exact fun c hc => (epochOrUnaryText_plain d c (List.mem_of_mem_head? hc)).1
    · exact fun c hc => (epochOrUnaryText_plain d c (List.mem_of_mem_getLast? hc)).1
  not_mem_isoformat d h := (epochOrUnaryText_plain d 'Z' h).2 rfl
  fromisoformat_isoformat := ofEpochOrUnaryText_epochOrUnaryText

end Epoch

namespace Datetime

/-- `datetime.now(UTC)` at a reading of the clock. -/
def now (reading : ℕ) : Datetime := ⟨reading, true⟩

variable [PyDatetime]

/-- `datetime.fromisoformat(text.replace("Z", "+00:00"))`. -/
def ofText (t : Text) : Option Datetime :=
  PyDatetime.fromisoformat (Text.replace ['Z'] "+00:00" t)

/-- `datetime.now(UTC).isoformat()`. -/
def nowIso (reading : ℕ) : Text := PyDatetime.isoformat (now reading)

@[simp] theorem strip_nowIso (reading : ℕ) : Text.strip (nowIso reading) = nowIso reading :=
  PyDatetime.strip_isoformat _

theorem nowIso_ne_nil (reading : ℕ) : nowIso reading ≠ [] := PyDatetime.isoformat_ne_nil _

@[simp] theorem ofText_nowIso (reading : ℕ) : ofText (nowIso reading) = some (now reading) := by
  rw [ofText, nowIso, Text.replace_eq_self _ (PyDatetime.not_mem_isoformat _)]
  exact PyDatetime.fromisoformat_isoformat reading

/-- `int((end - start).total_seconds() * 1000)` of two values that are both with a time zone or both
without. -/
def elapsedMilliseconds [PyRuntime] (start finish : Datetime) : ℤ :=
  match PyRuntime.roundFloat ((finish.microseconds - start.microseconds : ℤ) / 1000000) with
  | .finite seconds =>
    match PyRuntime.roundFloat (seconds * 1000) with
    | .finite q => if 0 ≤ q then q.floor else q.ceil
    | _ => 0
  | _ => 0

end Datetime

end DqMadeEasy
