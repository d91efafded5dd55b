import DqMadeEasy.Compiler.Parser

/-!
# Symbolic tokenization

`Lexes t tokens rest` says that a text starts with some tokens and continues with another text,
for texts that are known only in part. Lexing composes, so the tokens of a printed expression
are found piece by piece.
-/

namespace DqMadeEasy

namespace Tokenizer

variable [PyRuntime]

omit [PyRuntime] in
theorem isIdentStart_toNat {c : Char} (h : Text.isIdentStart c = true) :
    65 ≤ c.toNat ∧ c.toNat ≤ 122 := by
  rw [Text.isIdentStart, Bool.or_eq_true, beq_iff_eq, isAlpha_iff] at h
  rcases h with (h | h) | rfl
  · omega
  · omega
  · decide

theorem isDigit_of_isIdentStart {c : Char} (h : Text.isIdentStart c = true) :
    isDigit c = false := by
  have hrange := isIdentStart_toNat h
  have hdigit : c.isDigit = false := by
    by_contra hne
    simp only [Bool.not_eq_false, Char.isDigit, Bool.and_eq_true, decide_eq_true_eq,
      UInt32.le_iff_toNat_le, ge_iff_le] at hne
    have hval : c.toNat = c.val.toNat := rfl
    have h9 : '9'.val.toNat = 57 := rfl
    omega
  simp [isDigit, PyRuntime.digit_ascii c (by omega), hdigit]

omit [PyRuntime] in
/-- A character outside the range of the letters is not the start of an identifier. -/
theorem ne_of_isIdentStart {c d : Char} (h : Text.isIdentStart c = true)
    (hd : d.toNat < 65 ∨ 122 < d.toNat) : c ≠ d := by
  rintro rfl
  have := isIdentStart_toNat h
  omega

omit [PyRuntime] in
theorem operator_of_isIdentStart {c : Char} {cs : Text} (h : Text.isIdentStart c = true) :
    operator (c :: cs) = none := by
  have hne (d : Char) (hd : d.toNat < 65 ∨ 122 < d.toNat) : c ≠ d := ne_of_isIdentStart h hd
  have h₁ := hne '>' (by decide)
  have h₂ := hne '<' (by decide)
  have h₃ := hne '!' (by decide)
  have h₄ := hne '=' (by decide)
  have h₅ := hne '~' (by decide)
  unfold operator
  split <;> simp_all

theorem number_of_isIdentStart {c : Char} {cs : Text} (h : Text.isIdentStart c = true) :
    number (c :: cs) = none := by
  have hminus : c ≠ '-' := ne_of_isIdentStart h (by decide)
  have hdigit := isDigit_of_isIdentStart h
  rw [number]
  · simp [unsignedNumber, hdigit]
  · intro cs' heq
    exact hminus (List.cons.inj heq).1

omit [PyRuntime] in
theorem dropWhile_append_of_all {α : Type*} {p : α → Bool} {xs ys : List α}
    (hxs : ∀ x ∈ xs, p x = true) (hys : ∀ y ∈ ys.head?, p y = false) :
    (xs ++ ys).dropWhile p = ys := by
  rw [List.dropWhile_append_of_pos hxs]
  cases ys with
  | nil => rfl
  | cons y ys => simp [hys y (by simp)]

omit [PyRuntime] in
theorem takeWhile_append_of_all {α : Type*} {p : α → Bool} {xs ys : List α}
    (hxs : ∀ x ∈ xs, p x = true) (hys : ∀ y ∈ ys.head?, p y = false) :
    (xs ++ ys).takeWhile p = xs := by
  rw [List.takeWhile_append_of_pos hxs]
  cases ys with
  | nil => simp
  | cons y ys => simp [hys y (by simp)]

/-- An identifier extends as far as it can. -/
theorem next_ident {ident rest : Text} (hident : ident.isIdent = true)
    (hrest : ∀ d ∈ rest.head?, Text.isIdentRest d = false) :
    next (ident ++ rest) = some (some (identToken ident), rest) := by
  cases ident with
  | nil => cases hident
  | cons c cs =>
    simp only [Text.isIdent, Bool.and_eq_true, List.all_eq_true] at hident
    obtain ⟨hc, hcs⟩ := hident
    have hrange := isIdentStart_toNat hc
    have hspace : isSpace c = false := isSpace_eq_false_of_range (by omega) (by omega)
    have hne (d : Char) (hd : d.toNat < 65 ∨ 122 < d.toNat) : c ≠ d := ne_of_isIdentStart hc hd
    have h₁ := hne '(' (by decide)
    have h₂ := hne ')' (by decide)
    have h₃ := hne ',' (by decide)
    have h₄ := hne ':' (by decide)
    have h₅ := hne '.' (by decide)
    have h₆ := hne '\'' (by decide)
    have h₇ := hne '"' (by decide)
    have harith : isArith c = false := by
      simp only [isArith, Bool.or_eq_false_iff, beq_eq_false_iff_ne]
      exact ⟨⟨⟨hne '+' (by decide), hne '-' (by decide)⟩, hne '*' (by decide)⟩, hne '/' (by decide)⟩
    rw [List.cons_append, next]
    simp only [hspace, h₁, h₂, h₃, h₄, h₅, h₆, h₇, harith, operator_of_isIdentStart hc,
      number_of_isIdentStart hc, hc, takeWhile_append_of_all hcs hrest,
      dropWhile_append_of_all hcs hrest, if_false, false_and, Bool.false_eq_true, if_true]

theorem next_spaces {c : Char} {spaces rest : Text} (hc : isSpace c = true)
    (hspaces : ∀ d ∈ spaces, isSpace d = true) (hrest : ∀ d ∈ rest.head?, isSpace d = false) :
    next (c :: spaces ++ rest) = some (none, rest) := by
  rw [List.cons_append, next, if_pos hc, dropWhile_append_of_all hspaces hrest]

end Tokenizer

variable [PyRuntime]

def Lexes (t : Text) (tokens : List Token) (rest : Text) : Prop :=
  tokenizeExpression t = (tokenizeExpression rest).map (tokens ++ ·)

namespace Lexes

theorem refl (t : Text) : Lexes t [] t := by
  unfold Lexes
  cases tokenizeExpression t <;> rfl

theorem trans {t rest rest' : Text} {tokens tokens' : List Token} (h : Lexes t tokens rest)
    (h' : Lexes rest tokens' rest') : Lexes t (tokens ++ tokens') rest' := by
  unfold Lexes at h h' ⊢
  rw [h, h']
  cases tokenizeExpression rest' <;> simp [Except.map]

theorem of_next {t rest : Text} {token : Token}
    (h : Tokenizer.next t = some (some token, rest)) : Lexes t [token] rest :=
  tokenizeExpression_of_next h

theorem of_next_none {t rest : Text} (h : Tokenizer.next t = some (none, rest)) :
    Lexes t [] rest :=
  tokenizeExpression_of_next h

theorem spaces {spaces rest : Text} (hspaces : ∀ d ∈ spaces, isSpace d = true)
    (hrest : ∀ d ∈ rest.head?, isSpace d = false) : Lexes (spaces ++ rest) [] rest := by
  cases spaces with
  | nil => exact refl rest
  | cons c cs =>
    exact of_next_none (Tokenizer.next_spaces (hspaces c List.mem_cons_self)
      (fun d hd => hspaces d (List.mem_cons_of_mem _ hd)) hrest)

theorem ident {ident rest : Text} (hident : ident.isIdent = true)
    (hrest : ∀ d ∈ rest.head?, Text.isIdentRest d = false) :
    Lexes (ident ++ rest) [Tokenizer.identToken ident] rest :=
  of_next (Tokenizer.next_ident hident hrest)

theorem tokenize {t rest : Text} {tokens all : List Token} (h : Lexes t tokens rest)
    (hall : tokenizeExpression t = .ok all) :
    ∃ more, tokenizeExpression rest = .ok more ∧ all = tokens ++ more := by
  unfold Lexes at h
  rw [h] at hall
  cases hrest : tokenizeExpression rest with
  | error error => rw [hrest] at hall; cases hall
  | ok more =>
    rw [hrest] at hall
    cases hall
    exact ⟨more, rfl, rfl⟩

theorem lstrip (t : Text) : Lexes t [] t.lstrip := by
  have hsplit : t.takeWhile isSpace ++ t.dropWhile isSpace = t :=
    List.takeWhile_append_dropWhile
  have hspaces : Lexes (t.takeWhile isSpace ++ t.dropWhile isSpace) [] (t.dropWhile isSpace) := by
    refine spaces (fun d hd => List.mem_takeWhile_imp hd) fun d hd => ?_
    have := List.head?_dropWhile_not isSpace t
    rw [Option.mem_def.mp hd] at this
    simpa using this
  rwa [hsplit] at hspaces

theorem lparen (rest : Text) : Lexes ('(' :: rest) [.lparen] rest := of_next rfl
theorem rparen (rest : Text) : Lexes (')' :: rest) [.rparen] rest := of_next rfl
theorem star (rest : Text) : Lexes ('*' :: rest) [.arith '*'] rest := by
  refine of_next ?_
  have hdigit : Tokenizer.isDigit '*' = false := by
    simp [Tokenizer.isDigit, PyRuntime.digit_ascii '*' (by decide)]
  have hnumber : Tokenizer.number ('*' :: rest) = none := by
    simp [Tokenizer.number, Tokenizer.unsignedNumber, hdigit]
  rw [Tokenizer.next, hnumber]
  rfl

end Lexes

end DqMadeEasy
