import DqMadeEasy.Compiler.Lexing
import DqMadeEasy.Compiler.Provenance

/-!
# The texts of literals

A literal operand is a number, a Boolean in lower case, or a quoted text. Between single quotes
every quote is doubled; between double quotes nothing is said of the text.
-/

namespace DqMadeEasy

/-! ### Shapes -/

/-- A character that no cut looks at. -/
def isPlain (c : Char) : Bool :=
  !(isSpace c || c == '\'' || c == '"' || c == '(' || c == ')' || c == ',')

/-- Between single quotes every quote is doubled. -/
def pairsQuotes : Text → Bool
  | [] => true
  | '\'' :: '\'' :: cs => pairsQuotes cs
  | '\'' :: _ => false
  | _ :: cs => pairsQuotes cs

section Shapes

variable [PyRuntime]

/-- The texts of literal operands. -/
inductive LiteralShape : Text → Prop
  | number {t : Text} (hplain : ∀ c ∈ t, isPlain c = true) (hnumber : Text.isNumberText t = true) :
    LiteralShape t
  | true_ : LiteralShape "true"
  | false_ : LiteralShape "false"
  | single {body : Text} (hpairs : pairsQuotes body = true) :
    LiteralShape ('\'' :: (body ++ ['\'']))
  | double {body : Text} : LiteralShape ('"' :: (body ++ ['"']))

variable {t digits : Text} {c : Char}

omit [PyRuntime] in
theorem singleQuoted_shape {body rest : Text} (h : Tokenizer.singleQuoted t = some (body, rest)) :
    ∃ inside, body = inside ++ ['\''] ∧ pairsQuotes inside = true := by
  induction t using Tokenizer.singleQuoted.induct generalizing body rest with
  | case1 => cases h
  | case2 cs body' rest' hcs ih =>
    obtain ⟨inside, rfl, hinside⟩ := ih hcs
    simp only [Tokenizer.singleQuoted, hcs, Option.some.injEq, Prod.mk.injEq] at h
    exact ⟨'\'' :: '\'' :: inside, h.1.symm, hinside⟩
  | case3 cs hcs =>
    simp only [Tokenizer.singleQuoted, hcs, Option.some.injEq, Prod.mk.injEq] at h
    exact ⟨[], h.1.symm, rfl⟩
  | case4 cs hne =>
    rw [Tokenizer.singleQuoted] at h
    · simp only [Option.some.injEq, Prod.mk.injEq] at h
      exact ⟨[], h.1.symm, rfl⟩
    · exact hne
  | case5 c cs hpair hquote ih =>
    rw [Tokenizer.singleQuoted] at h
    · obtain ⟨⟨body', rest'⟩, hcs, heq⟩ := Option.map_eq_some_iff.mp h
      simp only [Prod.mk.injEq] at heq
      obtain ⟨inside, rfl, hinside⟩ := ih hcs
      refine ⟨c :: inside, heq.1.symm, ?_⟩
      rw [pairsQuotes]
      · exact hinside
      · intro cs' hc
        exact absurd hc hquote
      · exact hquote
    · exact hpair
    · exact hquote

omit [PyRuntime] in
theorem doubleQuoted_shape {body rest : Text} (h : Tokenizer.doubleQuoted t = some (body, rest)) :
    ∃ inside, body = inside ++ ['"'] := by
  induction t using Tokenizer.doubleQuoted.induct generalizing body rest with
  | case1 => cases h
  | case2 cs body' rest' hcs ih =>
    obtain ⟨inside, rfl⟩ := ih hcs
    simp only [Tokenizer.doubleQuoted, hcs, Option.some.injEq, Prod.mk.injEq] at h
    exact ⟨'\\' :: '"' :: inside, h.1.symm⟩
  | case3 cs hcs =>
    simp only [Tokenizer.doubleQuoted, hcs, Option.some.injEq, Prod.mk.injEq] at h
    exact ⟨['\\'], h.1.symm⟩
  | case4 cs =>
    simp only [Tokenizer.doubleQuoted, Option.some.injEq, Prod.mk.injEq] at h
    exact ⟨[], h.1.symm⟩
  | case5 c cs hpair hquote ih =>
    rw [Tokenizer.doubleQuoted] at h
    · obtain ⟨⟨body', rest'⟩, hcs, heq⟩ := Option.map_eq_some_iff.mp h
      simp only [Prod.mk.injEq] at heq
      obtain ⟨inside, rfl⟩ := ih hcs
      exact ⟨c :: inside, heq.1.symm⟩
    · exact hpair
    · exact hquote

/-! ### Numbers -/

theorem digit_of_isDigit (h : Tokenizer.isDigit c = true) :
    ∃ n, PyRuntime.digit c = some n :=
  Option.isSome_iff_exists.mp h

theorem ne_of_isDigit {d : Char} (h : Tokenizer.isDigit c = true) (hascii : d.toNat < 128)
    (hd : d.isDigit = false) : c ≠ d := by
  rintro rfl
  simp [Tokenizer.isDigit, PyRuntime.digit_ascii c hascii, hd] at h

theorem isPlain_of_isDigit (h : Tokenizer.isDigit c = true) : isPlain c = true := by
  have hspace := (Tokenizer.isDigit_start h).1
  have h₁ := ne_of_isDigit (d := '\'') h (by decide) (by decide)
  have h₂ := ne_of_isDigit (d := '"') h (by decide) (by decide)
  have h₃ := ne_of_isDigit (d := '(') h (by decide) (by decide)
  have h₄ := ne_of_isDigit (d := ')') h (by decide) (by decide)
  have h₅ := ne_of_isDigit (d := ',') h (by decide) (by decide)
  simp [isPlain, hspace, h₁, h₂, h₃, h₄, h₅]

theorem digitsValue_foldl_isSome (h : ∀ c ∈ t, Tokenizer.isDigit c = true) {value : Option ℕ}
    (hvalue : value.isSome = true) :
    (t.foldl (fun value d => value.bind fun n => (PyRuntime.digit d).map (10 * n + ·))
      value).isSome = true := by
  induction t generalizing value with
  | nil => exact hvalue
  | cons c cs ih =>
    obtain ⟨n, rfl⟩ := Option.isSome_iff_exists.mp hvalue
    obtain ⟨k, hk⟩ := digit_of_isDigit (h c List.mem_cons_self)
    refine ih (fun d hd => h d (List.mem_cons_of_mem _ hd)) ?_
    simp [hk]

theorem digitsValue_isSome (hne : t ≠ []) (h : ∀ c ∈ t, Tokenizer.isDigit c = true) :
    (Text.digitsValue t).isSome = true := by
  cases t with
  | nil => contradiction
  | cons c cs =>
    exact digitsValue_foldl_isSome (fun d hd => h d (List.mem_cons_of_mem _ hd))
      (h c List.mem_cons_self)

/-- A number without its sign: digits, or digits with a fraction. -/
theorem unsignedNumber_shape {rest : Text} (h : Tokenizer.unsignedNumber t = some (digits, rest)) :
    ∃ whole, whole ≠ [] ∧ (∀ c ∈ whole, Tokenizer.isDigit c = true) ∧
      (digits = whole ∨ ∃ fraction, fraction ≠ [] ∧
        (∀ c ∈ fraction, Tokenizer.isDigit c = true) ∧ digits = whole ++ '.' :: fraction) := by
  rw [Tokenizer.unsignedNumber] at h
  split at h
  · cases h
  · rename_i hwhole
    rw [List.isEmpty_iff] at hwhole
    refine ⟨t.takeWhile Tokenizer.isDigit, hwhole, fun c hc => List.mem_takeWhile_imp hc, ?_⟩
    split at h
    · rename_i fraction _
      split at h
      · cases h
        exact .inl rfl
      · rename_i hfraction
        cases h
        rw [List.isEmpty_iff] at hfraction
        exact .inr ⟨_, hfraction, fun c hc => List.mem_takeWhile_imp hc, rfl⟩
    · cases h
      exact .inl rfl

theorem unsignedDecimalValue_isSome {whole fraction : Text} (hwhole : whole ≠ [])
    (hw : ∀ c ∈ whole, Tokenizer.isDigit c = true) (hfraction : fraction ≠ [])
    (hf : ∀ c ∈ fraction, Tokenizer.isDigit c = true) :
    (Text.unsignedDecimalValue (whole ++ '.' :: fraction)).isSome = true := by
  have hne : ∀ c ∈ whole, (c != '.') = true := by
    intro c hc
    exact bne_iff_ne.mpr (ne_of_isDigit (hw c hc) (by decide) (by decide))
  have hdrop : (whole ++ '.' :: fraction).dropWhile (· != '.') = '.' :: fraction :=
    Tokenizer.dropWhile_append_of_all hne (by simp)
  have htake : (whole ++ '.' :: fraction).takeWhile (· != '.') = whole :=
    Tokenizer.takeWhile_append_of_all hne (by simp)
  obtain ⟨n, hn⟩ := Option.isSome_iff_exists.mp (digitsValue_isSome hwhole hw)
  obtain ⟨k, hk⟩ := Option.isSome_iff_exists.mp (digitsValue_isSome hfraction hf)
  simp [Text.unsignedDecimalValue, hdrop, htake, hn, hk]

/-- A text that does not begin with a minus sign is read as it is. -/
theorem intValue_of_head (h : t.head? ≠ some '-') :
    Text.intValue t = (Text.digitsValue t).map fun n => (n : ℤ) := by
  rw [Text.intValue]
  rintro cs rfl
  exact h rfl

theorem decimalValue_of_head (h : t.head? ≠ some '-') :
    Text.decimalValue t = Text.unsignedDecimalValue t := by
  rw [Text.decimalValue]
  rintro cs rfl
  exact h rfl

theorem unsignedNumber_literal {rest : Text} (h : Tokenizer.unsignedNumber t = some (digits, rest))
    :
    (∀ c ∈ digits, isPlain c = true) ∧ digits.head? ≠ some '-' ∧
      ((Text.digitsValue digits).isSome = true ∨
        (Text.unsignedDecimalValue digits).isSome = true) := by
  obtain ⟨whole, hne, hwhole, hdigits⟩ := unsignedNumber_shape h
  have hhead : ∀ tail : Text, (whole ++ tail).head? ≠ some '-' := by
    intro tail
    cases whole with
    | nil => contradiction
    | cons c cs =>
      have hc := ne_of_isDigit (d := '-') (hwhole c List.mem_cons_self) (by decide) (by decide)
      simpa using hc
  obtain rfl | ⟨fraction, hfne, hfraction, rfl⟩ := hdigits
  · refine ⟨fun c hc => isPlain_of_isDigit (hwhole c hc), ?_, .inl (digitsValue_isSome hne hwhole)⟩
    simpa using hhead []
  · refine ⟨?_, hhead _, .inr (unsignedDecimalValue_isSome hne hwhole hfne hfraction)⟩
    intro c hc
    rcases List.mem_append.mp hc with hc | hc
    · exact isPlain_of_isDigit (hwhole c hc)
    · rcases List.mem_cons.mp hc with rfl | hc
      · decide
      · exact isPlain_of_isDigit (hfraction c hc)

theorem number_literal {rest : Text} (h : Tokenizer.number t = some (digits, rest)) :
    LiteralShape digits := by
  rw [Tokenizer.number.eq_def] at h
  split at h
  · rename_i cs
    obtain ⟨⟨body, rest'⟩, hbody, heq⟩ := Option.map_eq_some_iff.mp h
    simp only [Prod.mk.injEq] at heq
    obtain ⟨hplain, -, hvalue⟩ := unsignedNumber_literal hbody
    rw [← heq.1]
    refine .number ?_ ?_
    · intro c hc
      rcases List.mem_cons.mp hc with rfl | hc
      · decide
      · exact hplain c hc
    · rcases hvalue with h | h
      · obtain ⟨n, hn⟩ := Option.isSome_iff_exists.mp h
        simp [Text.isNumberText, Text.intValue, hn]
      · obtain ⟨q, hq⟩ := Option.isSome_iff_exists.mp h
        simp [Text.isNumberText, Text.decimalValue, hq]
  · obtain ⟨hplain, hhead, hvalue⟩ := unsignedNumber_literal h
    refine .number hplain ?_
    rcases hvalue with h | h
    · obtain ⟨n, hn⟩ := Option.isSome_iff_exists.mp h
      simp [Text.isNumberText, intValue_of_head hhead, hn]
    · obtain ⟨q, hq⟩ := Option.isSome_iff_exists.mp h
      simp [Text.isNumberText, decimalValue_of_head hhead, hq]

/-- Literals have the shapes of literals. -/
def literalShapes : LiteralProperty where
  Holds := LiteralShape
  single h := by
    obtain ⟨inside, rfl, hinside⟩ := singleQuoted_shape h
    exact .single hinside
  double h := by
    obtain ⟨inside, rfl⟩ := doubleQuoted_shape h
    exact .double
  number := number_literal
  true_ := .true_
  false_ := .false_

/-! ### The characters of a number -/

theorem digits_of_foldl {value : Option ℕ}
    (h : (t.foldl (fun value d => value.bind fun n => (PyRuntime.digit d).map (10 * n + ·))
      value).isSome = true) :
    value.isSome = true ∧ ∀ c ∈ t, Tokenizer.isDigit c = true := by
  induction t generalizing value with
  | nil => exact ⟨h, by simp⟩
  | cons c cs ih =>
    obtain ⟨hstep, hcs⟩ := ih h
    cases value with
    | none => simp at hstep
    | some n =>
      have hc : Tokenizer.isDigit c = true := by simpa [Tokenizer.isDigit] using hstep
      exact ⟨rfl, by simpa using ⟨hc, hcs⟩⟩

theorem digits_of_digitsValue {n : ℕ} (h : Text.digitsValue t = some n) :
    ∀ c ∈ t, Tokenizer.isDigit c = true := by
  cases t with
  | nil => simp
  | cons c cs =>
    have hsome : (Text.digitsValue (c :: cs)).isSome = true := by rw [h]; rfl
    obtain ⟨hc, hcs⟩ := digits_of_foldl hsome
    simpa using ⟨hc, hcs⟩

/-- A character of a number. -/
def isNumeric (c : Char) : Bool := Tokenizer.isDigit c || c == '-' || c == '.'

theorem numeric_of_intValue {n : ℤ} (h : Text.intValue t = some n) :
    ∀ c ∈ t, isNumeric c = true := by
  have hdigits {t : Text} {k : ℕ} (hk : Text.digitsValue t = some k) :
      ∀ c ∈ t, isNumeric c = true := by
    intro c hc
    simp [isNumeric, digits_of_digitsValue hk c hc]
  by_cases hhead : t.head? = some '-'
  · cases t with
    | nil => cases hhead
    | cons c cs =>
      cases hhead
      cases hk : Text.digitsValue cs with
      | none => simp [Text.intValue, hk] at h
      | some k => simpa [isNumeric] using hdigits hk
  · rw [intValue_of_head hhead] at h
    cases hk : Text.digitsValue t with
    | none => simp [hk] at h
    | some k => exact hdigits hk

theorem numeric_of_unsignedDecimalValue {q : ℚ} (h : Text.unsignedDecimalValue t = some q) :
    ∀ c ∈ t, isNumeric c = true := by
  have hsplit : t.takeWhile (· != '.') ++ t.dropWhile (· != '.') = t :=
    List.takeWhile_append_dropWhile
  rw [Text.unsignedDecimalValue] at h
  split at h
  · rename_i dot fraction hdrop
    split at h
    · rename_i whole part hwhole hpart
      have hdot : dot = '.' := by
        have hnot := List.head?_dropWhile_not (· != '.') t
        rw [hdrop] at hnot
        simpa using hnot
      rw [hdrop, hdot] at hsplit
      intro c hc
      rw [← hsplit] at hc
      rcases List.mem_append.mp hc with hc | hc
      · simp [isNumeric, digits_of_digitsValue hwhole c hc]
      · rcases List.mem_cons.mp hc with rfl | hc
        · simp [isNumeric]
        · simp [isNumeric, digits_of_digitsValue hpart c hc]
    · cases h
  · cases h

theorem numeric_of_decimalValue {q : ℚ} (h : Text.decimalValue t = some q) :
    ∀ c ∈ t, isNumeric c = true := by
  by_cases hhead : t.head? = some '-'
  · cases t with
    | nil => cases hhead
    | cons c cs =>
      cases hhead
      cases hk : Text.unsignedDecimalValue cs with
      | none => simp [Text.decimalValue, hk] at h
      | some k => simpa [isNumeric] using numeric_of_unsignedDecimalValue hk
  · rw [decimalValue_of_head hhead] at h
    exact numeric_of_unsignedDecimalValue h

theorem numeric_of_isNumberText (h : Text.isNumberText t = true) :
    ∀ c ∈ t, isNumeric c = true := by
  rw [Text.isNumberText, Bool.or_eq_true] at h
  rcases h with h | h
  · obtain ⟨n, hn⟩ := Option.isSome_iff_exists.mp h
    exact numeric_of_intValue hn
  · obtain ⟨q, hq⟩ := Option.isSome_iff_exists.mp h
    exact numeric_of_decimalValue hq

theorem ne_nil_of_isNumberText (h : Text.isNumberText t = true) : t ≠ [] := by
  rintro rfl
  cases h

/-! ### Ends of literals -/

omit [PyRuntime] in
theorem isPlain_iff : isPlain c = true ↔ isSpace c = false ∧ c ≠ '\'' ∧ c ≠ '"' ∧
    c ≠ '(' ∧ c ≠ ')' ∧ c ≠ ',' := by
  simp only [isPlain, Bool.not_eq_true', Bool.or_eq_false_iff, beq_eq_false_iff_ne]
  tauto

theorem LiteralShape.head (h : LiteralShape t) :
    ∃ c cs, t = c :: cs ∧ isSpace c = false ∧ c ≠ ',' := by
  cases h with
  | number hplain hnumber =>
    cases t with
    | nil => exact absurd rfl (ne_nil_of_isNumberText hnumber)
    | cons c cs =>
      obtain ⟨hspace, -, -, -, -, hcomma⟩ := isPlain_iff.mp (hplain c List.mem_cons_self)
      exact ⟨c, cs, rfl, hspace, hcomma⟩
  | true_ => exact ⟨'t', "rue", rfl, by decide, by decide⟩
  | false_ => exact ⟨'f', "alse", rfl, by decide, by decide⟩
  | single => exact ⟨'\'', _, rfl, by decide, by decide⟩
  | double => exact ⟨'"', _, rfl, by decide, by decide⟩

omit [PyRuntime] in
theorem isAlpha_of_matchesLetter_D (h : Text.matchesLetter 'D' c = true) :
    c.isAlpha = true :=
  (Text.matchesLetter_letter (by decide) ⟨by decide, by decide, by decide⟩ h).1

theorem matchesLetter_D_of_isNumeric (h : isNumeric c = true) :
    Text.matchesLetter 'D' c = false := by
  by_contra hD
  rw [Bool.not_eq_false] at hD
  have halpha := isAlpha_of_matchesLetter_D hD
  have hstart : Text.isIdentStart c = true := by simp [Text.isIdentStart, halpha]
  simp only [isNumeric, Tokenizer.isDigit_of_isIdentStart hstart, Bool.false_or, Bool.or_eq_true,
    beq_iff_eq] at h
  rcases h with rfl | rfl <;> cases halpha

/-- A literal ends with no white space, and not with the last letter of `AND`. -/
theorem LiteralShape.getLast (h : LiteralShape t) :
    ∃ cs c, t = cs ++ [c] ∧ isSpace c = false ∧ Text.matchesLetter 'D' c = false := by
  cases h with
  | number hplain hnumber =>
    rcases List.eq_nil_or_concat t with rfl | ⟨cs, c, rfl⟩
    · exact absurd rfl (ne_nil_of_isNumberText hnumber)
    · have hc : c ∈ cs.concat c := by simp
      exact ⟨cs, c, List.concat_eq_append, (isPlain_iff.mp (hplain c hc)).1,
        matchesLetter_D_of_isNumeric (numeric_of_isNumberText hnumber c hc)⟩
  | true_ => exact ⟨"tru", 'e', rfl, by decide, by decide⟩
  | false_ => exact ⟨"fals", 'e', rfl, by decide, by decide⟩
  | @single body => exact ⟨'\'' :: body, '\'', rfl, by decide, by decide⟩
  | @double body => exact ⟨'"' :: body, '"', rfl, by decide, by decide⟩

theorem LiteralShape.strip (h : LiteralShape t) : Text.strip t = t := by
  obtain ⟨c, cs, hhead, hc, -⟩ := h.head
  obtain ⟨ds, d, hlast, hd, -⟩ := h.getLast
  refine Text.strip_eq_self ?_ ?_
  · rw [hhead]
    simpa using hc
  · rw [hlast]
    simpa using hd

end Shapes

end DqMadeEasy
