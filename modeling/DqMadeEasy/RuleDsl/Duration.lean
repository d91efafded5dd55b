import DqMadeEasy.Compiler.Lexemes
import DqMadeEasy.RuleDsl.SchemaAssertion

/-!
# Durations of freshness assertions

Both lowerings take a whole number of days, written `P3D`. The SodaCL lowering reads the number
with `int`, which also takes white space, a sign and underscores; the GX lowering takes digits only.
-/

namespace DqMadeEasy

namespace RuleDsl

variable [PyRuntime]

/-! ### Reading -/

def underscored (t : Text) : Option ℕ :=
  if (Text.splitOn '_' t).any List.isEmpty then none else Text.digitsValue (t.filter (· != '_'))

/-- `int` of a text: white space around it, an optional sign, and digits with underscores. -/
def parseInt (t : Text) : Option ℤ :=
  match Text.strip t with
  | '-' :: cs => (underscored cs).map fun n => -(n : ℤ)
  | '+' :: cs => (underscored cs).map fun n => (n : ℤ)
  | cs => (underscored cs).map fun n => (n : ℤ)

/-- `str(value or "").strip().upper()`. -/
def durationValue (value : PyValue) : Text :=
  Text.upper (Text.strip (if Json.truthy (.scalar value) then value.toText else []))

/-- The message of both lowerings. -/
def dayDurationMessage : String :=
  "freshness_assertion requires whole-day ISO-8601 durations such as P3D"

def normalizeIso8601DayDuration (value : PyValue) : Except SodaclExpectationBuildError Text :=
  if (durationValue value).head? ≠ some 'P' ∨ (durationValue value).getLast? ≠ some 'D' then
    Sodacl.raise dayDurationMessage
  else
    match parseInt (Text.inner (durationValue value)) with
    | none => Sodacl.raise dayDurationMessage
    | some dayCount =>
      if dayCount < 0 then
        Sodacl.raise "freshness_assertion requires a non-negative day duration"
      else .ok (['P'] ++ (toString dayCount).toList ++ ['D'])

/-- `P(?P<days>\d+)D` against the whole text, and `int` of the days. -/
def dayDuration : Text → Option ℕ
  | 'P' :: rest => if rest.getLast? = some 'D' then Text.digitsValue rest.dropLast else none
  | _ => none

def durationToDays (value : PyValue) : Except GxExpectationBuildError ℕ :=
  match dayDuration (durationValue value) with
  | none => Gx.raise dayDurationMessage
  | some days => .ok days

/-! ### Numbers and their digits -/

theorem digitsValue_foldl {t : Text} (h : ∀ c ∈ t, c.isDigit = true) (n : ℕ) :
    t.foldl (fun value d => value.bind fun n => (PyRuntime.digit d).map (10 * n + ·)) (some n) =
      some (Nat.ofDigitChars 10 t n) := by
  induction t generalizing n with
  | nil => rfl
  | cons c cs ih =>
    have hc := h c List.mem_cons_self
    have hdigit : PyRuntime.digit c = some (c.toNat - 48) := by
      have hrange := alphanum_range (show c.isAlphanum = true by rw [Char.isAlphanum, hc, Bool.or_true])
      rw [PyRuntime.digit_ascii c (by omega), if_pos hc]
    rw [Nat.ofDigitChars_cons, List.foldl_cons, ← ih fun d hd => h d (List.mem_cons_of_mem _ hd)]
    simp [hdigit]

theorem digitsValue_toDigits (n : ℕ) : Text.digitsValue (Nat.toDigits 10 n) = some n := by
  have hdigits : ∀ c ∈ Nat.toDigits 10 n, c.isDigit = true := fun c hc =>
    Nat.isDigit_of_mem_toDigits (by decide) (by decide) hc
  have hvalue := digitsValue_foldl hdigits 0
  rw [Nat.ofDigitChars_ten_toDigits] at hvalue
  cases hsplit : Nat.toDigits 10 n with
  | nil => exact absurd hsplit Nat.toDigits_ne_nil
  | cons c cs =>
    rw [hsplit] at hvalue
    rw [Text.digitsValue, ← hvalue, List.foldl_cons]
    simp

theorem digit_of_digitsValue {t : Text} {n : ℕ} (h : Text.digitsValue t = some n) :
    t ≠ [] ∧ ∀ c ∈ t, Tokenizer.isDigit c = true := by
  refine ⟨?_, digits_of_digitsValue h⟩
  rintro rfl
  cases h

/-- On digits, `int` is their value. -/
theorem parseInt_of_digits {t : Text} {n : ℕ} (h : Text.digitsValue t = some n) :
    parseInt t = some (n : ℤ) := by
  obtain ⟨hne, hdigits⟩ := digit_of_digitsValue h
  have hspace : ∀ c ∈ t, isSpace c = false := fun c hc =>
    Tokenizer.isSpace_of_isDigit c (hdigits c hc)
  have hunderscore : '_' ∉ t := fun hmem =>
    ne_of_isDigit (hdigits _ hmem) (by decide) (by decide) rfl
  have hstrip : Text.strip t = t :=
    Text.strip_eq_self (fun c hc => hspace c (List.mem_of_mem_head? hc))
      (fun c hc => hspace c (List.mem_of_getLast? hc))
  have hvalue : underscored t = some n := by
    have hfilter : t.filter (· != '_') = t := List.filter_eq_self.mpr fun c hc => by
      rw [bne_iff_ne]
      rintro rfl
      exact hunderscore hc
    rw [underscored, Text.splitOn_of_not_mem hunderscore, hfilter, if_neg (by simpa using hne), h]
  rw [parseInt, hstrip]
  split
  · exact absurd (hdigits '-' List.mem_cons_self) (by
      simp [Tokenizer.isDigit, PyRuntime.digit_ascii '-' (by decide)])
  · exact absurd (hdigits '+' List.mem_cons_self) (by
      simp [Tokenizer.isDigit, PyRuntime.digit_ascii '+' (by decide)])
  · rw [hvalue]
    rfl

/-! ### Agreement -/

/-- The text `P<n>D` denotes its number. -/
theorem dayDuration_toString (n : ℕ) :
    dayDuration (['P'] ++ (toString (n : ℤ)).toList ++ ['D']) = some n := by
  have htext : (toString (n : ℤ)).toList = Nat.toDigits 10 n := by
    show (Nat.repr n).toList = _
    rw [Nat.repr, String.toList_ofList]
  rw [htext, List.cons_append, List.nil_append, List.cons_append, dayDuration,
    List.getLast?_concat, if_pos rfl, List.dropLast_concat, digitsValue_toDigits]

/-- The durations that both lowerings take are those of the GX lowering, and denote the same number
of days. -/
theorem durations_agree {value : PyValue} {text : Text} {days : ℕ}
    (htext : normalizeIso8601DayDuration value = .ok text) (hdays : durationToDays value = .ok days) :
    dayDuration text = some days := by
  have hvalue : dayDuration (durationValue value) = some days := by
    rw [durationToDays] at hdays
    split at hdays
    · cases hdays
    · rename_i hsome
      rw [hsome]
      exact congrArg some (Except.ok.inj hdays)
  rw [normalizeIso8601DayDuration] at htext
  unfold dayDuration at hvalue
  split at hvalue
  · rename_i rest hraw
    split at hvalue
    · have hinner : Text.inner (durationValue value) = rest.dropLast := by rw [hraw]; rfl
      rw [hinner, parseInt_of_digits hvalue] at htext
      split at htext
      · cases htext
      · simp only [Int.not_ofNat_neg, if_false] at htext
        rw [← Except.ok.inj htext]
        exact dayDuration_toString days
    · cases hvalue
  · cases hvalue

end RuleDsl

end DqMadeEasy
