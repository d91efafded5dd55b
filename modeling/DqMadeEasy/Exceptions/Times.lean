import DqMadeEasy.Runs.ResultEvent

/-!
# The times of exceptions

Times are read from ISO texts and counted in microseconds since the epoch in UTC. The buckets of a
trend start at multiples of their size after an origin, and the first and the last one take what
lies outside. Two computations give the start of a bucket: one adds floats, and the other one is
exact.
-/

namespace DqMadeEasy

/-- Whether a number of microseconds since the epoch is a `datetime`, of the years 1 to 9999. -/
def Datetime.InRange (n : ℤ) : Prop := -62135596800000000 ≤ n ∧ n ≤ 253402300799999999

instance (n : ℤ) : Decidable (Datetime.InRange n) := inferInstanceAs (Decidable (_ ∧ _))

/-- `datetime` with texts that are read back. -/
class PyIsoDatetime extends PyDatetime where
  fromisoformat_isoformat_utc : ∀ n, Datetime.InRange n →
    fromisoformat (isoformat ⟨n, true⟩) = some ⟨n, true⟩

/-! ### Values before the epoch -/

section Epoch

def signedText (d : Datetime) : Text :=
  if d.microseconds < 0 then
    (if d.aware then 'm' else 'k') :: List.replicate d.microseconds.natAbs '1'
  else epochOrUnaryText d

/-- The value of a text of any of these kinds. -/
def ofSignedText : Text → Option Datetime
  | 'm' :: rest => some ⟨-rest.length, true⟩
  | 'k' :: rest => some ⟨-rest.length, false⟩
  | t => ofEpochOrUnaryText t

theorem signedText_plain (d : Datetime) : ∀ c ∈ signedText d, isSpace c = false ∧ c ≠ 'Z' := by
  intro c hc
  rw [signedText] at hc
  split at hc
  · rcases List.mem_cons.mp hc with rfl | hc
    · split <;> decide
    · rw [List.eq_of_mem_replicate hc]
      decide
  · exact epochOrUnaryText_plain d c hc

theorem epochOrUnaryText_head (d : Datetime) :
    ∃ c rest, epochOrUnaryText d = c :: rest ∧ c ≠ 'm' ∧ c ≠ 'k' := by
  rw [epochOrUnaryText]
  split
  · rename_i h
    have hhead : ∀ n < 10, ∃ rest, epochText n = '1' :: rest := by
      intro n hn
      cases n with
      | zero => exact ⟨_, rfl⟩
      | succ n => exact ⟨_, rfl⟩
    obtain ⟨rest, hrest⟩ := hhead _ h.2
    exact ⟨'1', rest, hrest, by decide, by decide⟩
  · refine ⟨_, _, rfl, ?_, ?_⟩
    · split <;> decide
    · split <;> decide

theorem ofSignedText_epochOrUnaryText (d : Datetime) :
    ofSignedText (epochOrUnaryText d) = ofEpochOrUnaryText (epochOrUnaryText d) := by
  obtain ⟨c, rest, htext, hm, hk⟩ := epochOrUnaryText_head d
  rw [htext, ofSignedText]
  · intro rest' h
    exact hm (List.cons.inj h).1
  · intro rest' h
    exact hk (List.cons.inj h).1

theorem ofSignedText_signedText (n : ℤ) :
    ofSignedText (signedText ⟨n, true⟩) = some ⟨n, true⟩ := by
  rw [signedText]
  split
  · rename_i hneg
    have hlength : -((n.natAbs : ℕ) : ℤ) = n := by
      have : n < 0 := hneg
      omega
    rw [if_pos rfl, ofSignedText, List.length_replicate, hlength]
  · rename_i hneg
    obtain ⟨m, rfl⟩ : ∃ m : ℕ, n = m := ⟨n.toNat, by
      have : ¬n < 0 := hneg
      omega⟩
    rw [ofSignedText_epochOrUnaryText, ofEpochOrUnaryText_epochOrUnaryText]

/-- A Python library that writes and reads the first microseconds of the epoch as ISO texts, and
other values in unary. -/
@[reducible] def PyIsoDatetime.epoch : PyIsoDatetime where
  isoformat := signedText
  fromisoformat := ofSignedText
  isoformat_ne_nil d := by
    rw [signedText]
    split
    · exact List.cons_ne_nil _ _
    · obtain ⟨c, rest, htext, -, -⟩ := epochOrUnaryText_head d
      rw [htext]
      exact List.cons_ne_nil _ _
  strip_isoformat d := by
    apply Text.strip_eq_self
    · exact fun c hc => (signedText_plain d c (List.mem_of_mem_head? hc)).1
    · exact fun c hc => (signedText_plain d c (List.mem_of_mem_getLast? hc)).1
  not_mem_isoformat d h := (signedText_plain d 'Z' h).2 rfl
  fromisoformat_isoformat reading := ofSignedText_signedText reading
  fromisoformat_isoformat_utc n _ := ofSignedText_signedText n

theorem filter_ofSignedText_signedText (n : ℤ) :
    (ofSignedText (signedText ⟨n, true⟩)).filter (fun d => signedText d == signedText ⟨n, true⟩) =
      some ⟨n, true⟩ := by
  rw [ofSignedText_signedText, Option.filter_some, if_pos (beq_self_eq_true _)]

/-- A Python library that writes the same texts and reads no others. -/
@[reducible] def PyIsoDatetime.strict : PyIsoDatetime where
  isoformat := signedText
  fromisoformat t := (ofSignedText t).filter fun d => signedText d == t
  isoformat_ne_nil := PyIsoDatetime.epoch.isoformat_ne_nil
  strip_isoformat := PyIsoDatetime.epoch.strip_isoformat
  not_mem_isoformat := PyIsoDatetime.epoch.not_mem_isoformat
  fromisoformat_isoformat reading := filter_ofSignedText_signedText reading
  fromisoformat_isoformat_utc n _ := filter_ofSignedText_signedText n

end Epoch

namespace Exceptions

open Runs Worker

/-! ### Reading and writing -/

section Texts

variable [PyIsoDatetime]

def parseIsoDatetime (value : Option Text) : Except PyError (Option ℤ) :=
  let payload := Text.strip (value.getD [])
  if payload = [] then .ok none
  else
    match Datetime.ofText payload with
    | none => .error (.builtin "ValueError" "Invalid isoformat string")
    | some d =>
      if Datetime.InRange d.microseconds then .ok (some d.microseconds)
      else .error (.builtin "OverflowError" "date value out of range")

def formatIsoDatetime (n : ℤ) : Text := PyDatetime.isoformat ⟨n, true⟩

def truncateToHour (n : ℤ) : ℤ := n - n % 3600000000

theorem formatIsoDatetime_ne_nil (n : ℤ) : formatIsoDatetime n ≠ [] :=
  PyDatetime.isoformat_ne_nil _

@[simp] theorem strip_formatIsoDatetime (n : ℤ) :
    Text.strip (formatIsoDatetime n) = formatIsoDatetime n := PyDatetime.strip_isoformat _

/-- What is read is a `datetime`. -/
theorem inRange_of_parseIsoDatetime {value : Option Text} {n : ℤ}
    (h : parseIsoDatetime value = .ok (some n)) : Datetime.InRange n := by
  rw [parseIsoDatetime] at h
  split at h
  · cases h
  · split at h
    · cases h
    · rename_i d _
      split at h
      · rename_i hrange
        cases h
        exact hrange
      · cases h

theorem parseIsoDatetime_formatIsoDatetime {n : ℤ} (h : Datetime.InRange n) :
    parseIsoDatetime (some (formatIsoDatetime n)) = .ok (some n) := by
  have htext : Datetime.ofText (formatIsoDatetime n) = some ⟨n, true⟩ := by
    rw [Datetime.ofText, formatIsoDatetime, Text.replace_eq_self _ (PyDatetime.not_mem_isoformat _)]
    exact PyIsoDatetime.fromisoformat_isoformat_utc n h
  rw [parseIsoDatetime]
  simp only [Option.getD_some, strip_formatIsoDatetime]
  rw [if_neg (formatIsoDatetime_ne_nil n), htext]
  exact if_pos h

theorem parseIsoDatetime_strip (value : Text) :
    parseIsoDatetime (some (Text.strip value)) = parseIsoDatetime (some value) := by
  simp only [parseIsoDatetime, Option.getD_some, Text.strip_strip]

end Texts

/-! ### Buckets -/

/-- The buckets of a trend. -/
structure Buckets where
  origin : ℤ
  sizeSeconds : ℤ
  count : ℤ
  sizeSeconds_pos : 0 < sizeSeconds
  count_pos : 0 < count

namespace Buckets

variable [PyRuntime]

def finiteValue : PyFloat → Except PyError ℚ
  | .finite q => .ok q
  | _ => .error (.builtin "OverflowError" "int too large to convert to float")

def valueOf : PyFloat → ℚ
  | .finite q => q
  | _ => 0

def totalSeconds (microseconds : ℤ) : ℚ :=
  valueOf (PyRuntime.roundFloat ((microseconds : ℚ) / 1000000))

/-- `(value - origin).total_seconds() // size`, clamped to the buckets. -/
def index (b : Buckets) (detectedAt : ℤ) : Except PyError ℤ := do
  let offset := totalSeconds (detectedAt - b.origin)
  let size ← finiteValue (PyRuntime.roundFloat b.sizeSeconds)
  return max 0 (min (b.count - 1) ⌊offset / size⌋)

/-- `datetime.fromtimestamp(seconds, tz=UTC)`. -/
def fromtimestamp (seconds : ℚ) : Except PyError ℤ := do
  let whole : ℤ := if 0 ≤ seconds then ⌊seconds⌋ else ⌈seconds⌉
  let fraction := valueOf (PyRuntime.roundFloat ((seconds - whole) * 1000000))
  let value := whole * 1000000 + roundHalfEven fraction
  if Datetime.InRange value then return value
  else .error (.builtin "ValueError" "year is out of range")

variable [PyIsoDatetime]

/-- The start of a bucket as `summarize_violations` computes it, with floats. -/
def violationStart (b : Buckets) (bucketIndex : ℤ) : Except PyError Text := do
  let timestamp := totalSeconds b.origin
  let offset ← finiteValue (PyRuntime.roundFloat (bucketIndex * b.sizeSeconds : ℤ))
  let start ← finiteValue (PyRuntime.roundFloat (timestamp + offset))
  return formatIsoDatetime (← fromtimestamp start)

/-- The start of a bucket as the projection computes it, with `timedelta`. -/
def rowStart (b : Buckets) (bucketIndex : ℤ) : Except PyError Text :=
  let value := b.origin + bucketIndex * b.sizeSeconds * 1000000
  if Datetime.InRange value then .ok (formatIsoDatetime value)
  else .error (.builtin "OverflowError" "date value out of range")

def startOf (b : Buckets) (start : ℤ → Except PyError Text) (detectedAt : ℤ) :
    Except PyError Text := do
  start (← b.index detectedAt)

/-- Both computations give the same starts. -/
def Exact (b : Buckets) : Prop :=
  (finiteValue (PyRuntime.roundFloat b.sizeSeconds)).toOption.isSome ∧
    ∀ n < b.count.toNat, (b.rowStart n).toOption.isSome ∧
      (b.violationStart n).toOption = (b.rowStart n).toOption

instance (b : Buckets) : Decidable b.Exact := by
  unfold Exact
  infer_instance

omit [PyIsoDatetime] in
/-- Every time has a bucket if the size is a float. -/
theorem exists_index {b : Buckets}
    (hsize : (finiteValue (PyRuntime.roundFloat b.sizeSeconds)).toOption.isSome) (detectedAt : ℤ) :
    ∃ n < b.count.toNat, b.index detectedAt = .ok (n : ℤ) := by
  cases hfloat : finiteValue (PyRuntime.roundFloat b.sizeSeconds) with
  | error e =>
    rw [hfloat] at hsize
    cases hsize
  | ok size =>
    let n : ℤ := max 0 (min (b.count - 1) ⌊totalSeconds (detectedAt - b.origin) / size⌋)
    have hindex : b.index detectedAt = .ok n := by
      rw [index, hfloat]
      rfl
    have hcount := b.count_pos
    refine ⟨n.toNat, ?_, ?_⟩
    · omega
    · rw [hindex, Int.toNat_of_nonneg (le_max_left 0 _)]

/-- With exact starts, both computations give a time the same start. -/
theorem Exact.exists_start {b : Buckets} (h : b.Exact) (detectedAt : ℤ) :
    ∃ start, b.startOf b.violationStart detectedAt = .ok start ∧
      b.startOf b.rowStart detectedAt = .ok start := by
  obtain ⟨n, hn, hindex⟩ := exists_index h.1 detectedAt
  obtain ⟨hrow, hsame⟩ := h.2 n hn
  cases hstart : b.rowStart n with
  | error e =>
    rw [hstart] at hrow
    cases hrow
  | ok start =>
    refine ⟨start, ?_, ?_⟩
    · rw [hstart] at hsame
      rw [startOf, hindex, ok_bind]
      cases hviolation : b.violationStart n with
      | error e =>
        rw [hviolation] at hsame
        cases hsame
      | ok start' =>
        rw [hviolation] at hsame
        rw [Option.some.inj hsame]
    · rw [startOf, hindex, ok_bind, hstart]

end Buckets

end Exceptions

end DqMadeEasy
