import DqMadeEasy.Compiler.Literals

/-!
# Lexemes in another context

The token at the head of a text is decided by its own characters and by how the text continues.
Exchanging what follows keeps the token, as long as the new text starts with the same character
or with white space. A quoted literal needs more care, since its end depends on the quotes that
follow.
-/

namespace DqMadeEasy

namespace Tokenizer

/-- One text stands where another one stood: it starts with the same character, or with white
space, or it is empty. -/
def Meets (rest X : Text) : Prop := X.head? = rest.head? ∨ ∀ c ∈ X.head?, isSpace c = true

/-- One text follows a lexeme as the other one did. After a number a point is read together with
the character behind it. -/
def Follows (rest X : Text) : Prop :=
  Meets rest X ∧ ∀ r, rest = '.' :: r → ∃ x, X = '.' :: x ∧ Meets r x

theorem Meets.refl (t : Text) : Meets t t := .inl rfl

/-- A class of characters that contains no white space is left by the new text as well. -/
theorem Meets.stop {rest X : Text} (h : Meets rest X) {p : Char → Bool}
    (hp : ∀ c, p c = true → isSpace c = false) (hrest : ∀ c ∈ rest.head?, p c = false) :
    ∀ c ∈ X.head?, p c = false := by
  intro c hc
  rcases h with h | h
  · exact hrest c (h ▸ hc)
  · cases hpc : p c with
    | false => rfl
    | true => exact absurd (h c hc) (by rw [hp c hpc]; decide)

theorem head_dropWhile (p : Char → Bool) (t : Text) : ∀ c ∈ (t.dropWhile p).head?, p c = false := by
  intro c hc
  have := List.head?_dropWhile_not p t
  rw [Option.mem_def.mp hc] at this
  simpa using this

/-- A character that does not start the old text does not start the new one either. -/
theorem Meets.stop_at {rest X : Text} (h : Meets rest X) (c : Char) (hc : isSpace c = false)
    (hrest : ∀ r, rest ≠ c :: r) : X.head? ≠ some c := by
  intro hX
  rcases h with h | h
  · obtain ⟨r, hr⟩ := List.head?_eq_some_iff.mp (h ▸ hX)
    exact hrest r hr
  · rw [h c hX] at hc
    cases hc

theorem isSpace_of_isIdentRest (c : Char) (h : Text.isIdentRest c = true) : isSpace c = false := by
  rw [Text.isIdentRest, Bool.or_eq_true, beq_iff_eq] at h
  rcases h with h | rfl
  · have hrange := alphanum_range h
    exact isSpace_eq_false_of_range (by omega) (by omega)
  · decide

section Numbers

variable [PyRuntime]

theorem isSpace_of_isDigit (c : Char) (h : isDigit c = true) : isSpace c = false :=
  (isDigit_start h).1

theorem unsignedNumber_whole {whole rest : Text} (hne : whole ≠ [])
    (hwhole : ∀ c ∈ whole, isDigit c = true) (hrest : ∀ c ∈ rest.head?, isDigit c = false)
    (hpoint : rest.head? ≠ some '.') : unsignedNumber (whole ++ rest) = some (whole, rest) := by
  rw [unsignedNumber, takeWhile_append_of_all hwhole hrest, dropWhile_append_of_all hwhole hrest,
    if_neg (by simpa using hne)]
  split
  · exact absurd rfl hpoint
  · rfl

theorem unsignedNumber_point {whole rest : Text} (hne : whole ≠ [])
    (hwhole : ∀ c ∈ whole, isDigit c = true) (hrest : ∀ c ∈ rest.head?, isDigit c = false) :
    unsignedNumber (whole ++ '.' :: rest) = some (whole, '.' :: rest) := by
  have hpoint : ∀ c ∈ ('.' :: rest).head?, isDigit c = false := by
    simp [isDigit, PyRuntime.digit_ascii '.' (by decide)]
  have hfraction : rest.takeWhile isDigit = [] := by
    simpa using takeWhile_append_of_all (fun c (hc : c ∈ []) => absurd hc List.not_mem_nil) hrest
  rw [unsignedNumber, takeWhile_append_of_all hwhole hpoint, dropWhile_append_of_all hwhole hpoint,
    if_neg (by simpa using hne)]
  simp only [hfraction, List.isEmpty_nil, if_true]

theorem unsignedNumber_fraction {whole fraction rest : Text} (hne : whole ≠ [])
    (hwhole : ∀ c ∈ whole, isDigit c = true) (hfne : fraction ≠ [])
    (hfraction : ∀ c ∈ fraction, isDigit c = true)
    (hrest : ∀ c ∈ rest.head?, isDigit c = false) :
    unsignedNumber (whole ++ '.' :: (fraction ++ rest)) = some (whole ++ '.' :: fraction, rest) := by
  have hpoint : ∀ c ∈ ('.' :: (fraction ++ rest)).head?, isDigit c = false := by
    simp [isDigit, PyRuntime.digit_ascii '.' (by decide)]
  rw [unsignedNumber, takeWhile_append_of_all hwhole hpoint, dropWhile_append_of_all hwhole hpoint,
    if_neg (by simpa using hne)]
  simp only [takeWhile_append_of_all hfraction hrest, dropWhile_append_of_all hfraction hrest,
    List.isEmpty_iff, hfne, if_false]

/-- The characters of a number behind its first one. -/
def isNumberRest (c : Char) : Bool := isDigit c || c == '.'

/-- A number is read again before a text that follows it in the same way. -/
theorem unsignedNumber_follows {t digits rest : Text}
    (h : unsignedNumber t = some (digits, rest)) :
    t = digits ++ rest ∧
      (∃ c body, digits = c :: body ∧ isDigit c = true ∧ ∀ d ∈ body, isNumberRest d = true) ∧
      ∀ X, Follows rest X → unsignedNumber (digits ++ X) = some (digits, X) := by
  have hsplit : t.takeWhile isDigit ++ t.dropWhile isDigit = t := List.takeWhile_append_dropWhile
  have hwhole : ∀ c ∈ t.takeWhile isDigit, isDigit c = true := fun c hc => List.mem_takeWhile_imp hc
  have hstop := head_dropWhile isDigit t
  rw [unsignedNumber] at h
  split at h
  · cases h
  rename_i hne
  rw [List.isEmpty_iff] at hne
  obtain ⟨c, body, hbody⟩ := List.exists_cons_of_ne_nil hne
  have hc : isDigit c = true := hwhole c (hbody ▸ List.mem_cons_self)
  have hinside : ∀ d ∈ body, isNumberRest d = true := fun d hd => by
    rw [isNumberRest, hwhole d (hbody ▸ List.mem_cons_of_mem _ hd), Bool.true_or]
  split at h
  · rename_i fraction hdrop
    rw [hdrop] at hsplit
    split at h
    · rename_i hempty
      cases h
      refine ⟨hsplit.symm, ⟨c, body, hbody, hc, hinside⟩, fun X hX => ?_⟩
      obtain ⟨x, rfl, hx⟩ := hX.2 fraction rfl
      refine unsignedNumber_point hne hwhole (hx.stop isSpace_of_isDigit ?_)
      intro d hd
      cases fraction with
      | nil => cases hd
      | cons e es =>
        obtain rfl : e = d := by simpa using hd
        cases he : isDigit e with
        | false => rfl
        | true => simp [he] at hempty
    · rename_i hfraction
      cases h
      rw [List.isEmpty_iff] at hfraction
      have hcut : fraction.takeWhile isDigit ++ fraction.dropWhile isDigit = fraction :=
        List.takeWhile_append_dropWhile
      refine ⟨?_, ⟨c, body ++ '.' :: fraction.takeWhile isDigit, by rw [hbody]; rfl, hc, ?_⟩,
        fun X hX => ?_⟩
      · rw [List.append_assoc, List.cons_append, hcut, hsplit]
      · intro d hd
        rcases List.mem_append.mp hd with hd | hd
        · exact hinside d hd
        · rcases List.mem_cons.mp hd with rfl | hd
          · simp [isNumberRest]
          · rw [isNumberRest, List.mem_takeWhile_imp hd, Bool.true_or]
      · rw [List.append_assoc, List.cons_append]
        exact unsignedNumber_fraction hne hwhole hfraction (fun d hd => List.mem_takeWhile_imp hd)
          (hX.1.stop isSpace_of_isDigit (head_dropWhile isDigit fraction))
  · rename_i hpoint
    cases h
    refine ⟨hsplit.symm, ⟨c, body, hbody, hc, hinside⟩, fun X hX => ?_⟩
    refine unsignedNumber_whole hne hwhole (hX.1.stop isSpace_of_isDigit hstop) ?_
    exact hX.1.stop_at '.' (by decide) hpoint

theorem unsignedNumber_none {t X : Text} (h : unsignedNumber t = none) (hX : Meets t X) :
    unsignedNumber X = none := by
  have hdigit : ∀ c ∈ t.head?, isDigit c = false := by
    intro c hc
    cases t with
    | nil => cases hc
    | cons d ds =>
      obtain rfl : d = c := by simpa using hc
      cases hd : isDigit d with
      | false => rfl
      | true =>
        rw [unsignedNumber] at h
        simp only [List.takeWhile_cons, hd, if_true, List.isEmpty_cons, Bool.false_eq_true,
          if_false] at h
        split at h
        · split at h <;> cases h
        · cases h
  have htake : X.takeWhile isDigit = [] := by
    simpa using takeWhile_append_of_all (fun c (hc : c ∈ []) => absurd hc List.not_mem_nil)
      (hX.stop isSpace_of_isDigit hdigit)
  rw [unsignedNumber, htake, List.isEmpty_nil, if_pos rfl]

/-- The first character of a number. -/
def isNumberStart (c : Char) : Bool := isDigit c || c == '-'

theorem number_follows {t digits rest : Text} (h : number t = some (digits, rest)) :
    t = digits ++ rest ∧
      (∃ c body, digits = c :: body ∧ isNumberStart c = true ∧ ∀ d ∈ body, isNumberRest d = true) ∧
      ∀ X, Follows rest X → number (digits ++ X) = some (digits, X) := by
  rw [number.eq_def] at h
  split at h
  · rename_i cs
    obtain ⟨⟨body, rest'⟩, hbody, heq⟩ := Option.map_eq_some_iff.mp h
    cases heq
    obtain ⟨hsplit, ⟨c, cs', rfl, hc, hcs⟩, hfollows⟩ := unsignedNumber_follows hbody
    refine ⟨by rw [hsplit]; rfl, ⟨'-', c :: cs', rfl, by simp [isNumberStart], ?_⟩, fun X hX => ?_⟩
    · intro d hd
      rcases List.mem_cons.mp hd with rfl | hd
      · rw [isNumberRest, hc, Bool.true_or]
      · exact hcs d hd
    · rw [List.cons_append, number, hfollows X hX]
      rfl
  · rename_i hminus
    obtain ⟨hsplit, ⟨c, cs', rfl, hc, hcs⟩, hfollows⟩ := unsignedNumber_follows h
    refine ⟨hsplit, ⟨c, cs', rfl, by rw [isNumberStart, hc, Bool.true_or], hcs⟩, fun X hX => ?_⟩
    rw [List.cons_append, number]
    · exact hfollows X hX
    · intro cs'' heq
      have hne : c ≠ '-' := ne_of_isDigit hc (by decide) (by decide)
      exact hne (List.cons.inj heq).1

theorem number_none {c : Char} {cs X : Text} (h : number (c :: cs) = none) (hX : Meets cs X) :
    number (c :: X) = none := by
  by_cases hc : c = '-'
  · subst hc
    rw [number, Option.map_eq_none_iff] at h ⊢
    exact unsignedNumber_none h hX
  · have hunsigned (t : Text) : number (c :: t) = unsignedNumber (c :: t) := by
      rw [number]
      intro cs' heq
      exact hc (List.cons.inj heq).1
    rw [hunsigned] at h ⊢
    exact unsignedNumber_none h (.inl rfl)

end Numbers

/-! ### Operators -/

theorem operator_follows {t rest : Text} {symbol : OpSymbol}
    (h : operator t = some (symbol, rest)) :
    t = symbol.text ++ rest ∧ ∀ X, Meets rest X → operator (symbol.text ++ X) = some (symbol, X) := by
  unfold operator at h
  split at h <;> cases h
  · exact ⟨rfl, fun X _ => rfl⟩
  · exact ⟨rfl, fun X _ => rfl⟩
  · exact ⟨rfl, fun X _ => rfl⟩
  · exact ⟨rfl, fun X _ => rfl⟩
  · exact ⟨rfl, fun X _ => rfl⟩
  · exact ⟨rfl, fun X _ => rfl⟩
  · rename_i hne
    refine ⟨rfl, fun X hX => ?_⟩
    have hstop := hX.stop_at '=' (by decide) fun r hr => hne r (by rw [hr])
    cases X with
    | nil => rfl
    | cons x xs =>
      have hx : x ≠ '=' := by simpa using hstop
      simp [operator, OpSymbol.text, hx]
  · rename_i hle hltgt
    refine ⟨rfl, fun X hX => ?_⟩
    have heq := hX.stop_at '=' (by decide) fun r hr => hle r (by rw [hr])
    have hgt := hX.stop_at '>' (by decide) fun r hr => hltgt r (by rw [hr])
    cases X with
    | nil => rfl
    | cons x xs =>
      have hx₁ : x ≠ '=' := by simpa using heq
      have hx₂ : x ≠ '>' := by simpa using hgt
      simp [operator, OpSymbol.text, hx₁, hx₂]
  · exact ⟨rfl, fun X _ => rfl⟩

section Lexemes

variable [PyRuntime]

theorem next_operator {t rest : Text} {symbol : OpSymbol} (h : operator t = some (symbol, rest)) :
    next t = some (some (.op symbol), rest) := by
  have hhead : ∃ c cs, t = c :: cs ∧ (c = '>' ∨ c = '<' ∨ c = '!' ∨ c = '=' ∨ c = '~') := by
    unfold operator at h
    split at h <;> simp at h ⊢
  obtain ⟨c, cs, rfl, hc⟩ := hhead
  rcases hc with rfl | rfl | rfl | rfl | rfl <;> rw [next, h] <;> rfl

theorem next_number {c : Char} {cs digits rest : Text} (hc : isNumberStart c = true)
    (h : number (c :: cs) = some (digits, rest)) :
    next (c :: cs) = some (some (.number digits), rest) := by
  have hne (d : Char) (hascii : d.toNat < 128) (hd : d.isDigit = false) (hminus : d ≠ '-') :
      c ≠ d := by
    rintro rfl
    rw [isNumberStart, Bool.or_eq_true, beq_iff_eq] at hc
    exact hc.elim (fun hdigit => ne_of_isDigit hdigit hascii hd rfl) hminus
  have hspace : isSpace c = false := by
    rw [isNumberStart, Bool.or_eq_true, beq_iff_eq] at hc
    rcases hc with hc | rfl
    · exact isSpace_of_isDigit c hc
    · decide
  have h₁ := hne '>' (by decide) (by decide) (by decide)
  have h₂ := hne '<' (by decide) (by decide) (by decide)
  have h₃ := hne '!' (by decide) (by decide) (by decide)
  have h₄ := hne '=' (by decide) (by decide) (by decide)
  have h₅ := hne '~' (by decide) (by decide) (by decide)
  have hoperator : operator (c :: cs) = none := by
    unfold operator
    split <;> simp_all
  rw [next, hoperator]
  simp only [hspace, hne '(' (by decide) (by decide) (by decide),
    hne ')' (by decide) (by decide) (by decide), hne ',' (by decide) (by decide) (by decide),
    hne ':' (by decide) (by decide) (by decide), hne '.' (by decide) (by decide) (by decide),
    hne '\'' (by decide) (by decide) (by decide), hne '"' (by decide) (by decide) (by decide),
    Bool.false_eq_true, if_false, false_and, h]

theorem next_arith {c : Char} {cs : Text} (hc : isArith c = true) (h : number (c :: cs) = none) :
    next (c :: cs) = some (some (.arith c), cs) := by
  simp only [isArith, Bool.or_eq_true, beq_iff_eq] at hc
  rcases hc with ((rfl | rfl) | rfl) | rfl <;> rw [next, h] <;> rfl

/-- The characters of a lexeme that is no quoted literal, and its token. -/
inductive Inside : Char → Text → Token → Prop
  | single {c : Char} {token : Token} : Inside c [] token
  | typecast : Inside ':' [':'] .typecast
  | operator {c d : Char} {symbol : OpSymbol} (htext : symbol.text = [c, d]) :
    Inside c [d] (.op symbol)
  | number {c : Char} {body : Text} (hc : isNumberStart c = true)
    (hbody : ∀ d ∈ body, isNumberRest d = true) : Inside c body (.number (c :: body))
  | ident {c : Char} {body : Text} (hident : Text.isIdent (c :: body) = true) :
    Inside c body (identToken (c :: body))

/-- A lexeme that is no quoted literal is read again before every text that follows it in the
same way. -/
theorem next_follows {t rest : Text} {token : Token} (h : next t = some (some token, rest))
    (hstring : ∀ s, token ≠ .string s) :
    ∃ c body, t = c :: body ++ rest ∧ isSpace c = false ∧ Inside c body token ∧
      ∀ X, Follows rest X → next (c :: body ++ X) = some (some token, X) := by
  cases t with
  | nil => cases h
  | cons c cs =>
    rw [next] at h
    split at h
    · cases h
    rename_i hspace
    rw [Bool.not_eq_true] at hspace
    split at h
    · rename_i hc
      cases h
      exact ⟨c, [], rfl, hspace, .single, fun X _ => by rw [hc]; rfl⟩
    split at h
    · rename_i hc
      cases h
      exact ⟨c, [], rfl, hspace, .single, fun X _ => by rw [hc]; rfl⟩
    split at h
    · rename_i hc
      cases h
      exact ⟨c, [], rfl, hspace, .single, fun X _ => by rw [hc]; rfl⟩
    split at h
    · rename_i hc
      cases h
      obtain ⟨rfl, hcs⟩ := hc
      cases cs with
      | nil => cases hcs
      | cons d ds =>
        obtain rfl : d = ':' := by simpa using hcs
        exact ⟨':', [':'], rfl, hspace, .typecast, fun X _ => rfl⟩
    split at h
    · rename_i hc
      cases h
      exact ⟨c, [], rfl, hspace, .single, fun X _ => by rw [hc]; rfl⟩
    split at h
    · rename_i symbol rest' hop
      cases h
      obtain ⟨hsplit, hfollows⟩ := operator_follows hop
      have hnext (X : Text) (hX : Follows rest X) := next_operator (hfollows X hX.1)
      cases htext : symbol.text with
      | nil => cases symbol <;> cases htext
      | cons d ds =>
        rw [htext] at hsplit hnext
        obtain rfl : c = d := (List.cons.inj hsplit).1
        refine ⟨c, ds, hsplit, hspace, ?_, hnext⟩
        cases ds with
        | nil => exact .single
        | cons e es =>
          cases es with
          | nil => exact .operator htext
          | cons f fs => cases symbol <;> cases htext
    split at h
    · cases h
      exact absurd rfl (hstring _)
    split at h
    · cases h
      exact absurd rfl (hstring _)
    split at h
    · rename_i digits rest' hnumber
      cases h
      obtain ⟨hsplit, ⟨d, ds, rfl, hd, hds⟩, hfollows⟩ := number_follows hnumber
      obtain rfl : c = d := (List.cons.inj hsplit).1
      exact ⟨c, ds, hsplit, hspace, .number hd hds, fun X hX => next_number hd (hfollows X hX)⟩
    rename_i hnumber
    split at h
    · rename_i harith
      cases h
      exact ⟨c, [], rfl, hspace, .single, fun X hX => next_arith harith (number_none hnumber hX.1)⟩
    split at h
    · rename_i hstart
      cases h
      have hident : Text.isIdent (c :: cs.takeWhile Text.isIdentRest) = true := by
        simp only [Text.isIdent, hstart, Bool.true_and, List.all_eq_true]
        exact fun d hd => List.mem_takeWhile_imp hd
      refine ⟨c, cs.takeWhile Text.isIdentRest, ?_, hspace, .ident hident, fun X hX => ?_⟩
      · rw [List.cons_append, List.takeWhile_append_dropWhile]
      · exact next_ident hident (hX.1.stop isSpace_of_isIdentRest (head_dropWhile _ cs))
    · cases h

end Lexemes

/-! ### Quoted literals -/

/-- The text behind an opening single quote up to its closing quote: quotes inside are doubled. -/
inductive SingleBody : Text → Prop
  | close {a : Text} (ha : '\'' ∉ a) : SingleBody (a ++ ['\''])
  | pair {a b : Text} (ha : '\'' ∉ a) (hb : SingleBody b) : SingleBody (a ++ '\'' :: '\'' :: b)

/-- The text behind an opening double quote up to its closing quote: quotes inside follow a
backslash. The closing quote follows one only at the last quote of the text. -/
inductive DoubleBody (last : Prop) : Text → Prop
  | close {a : Text} (ha : '"' ∉ a) (hslash : a.getLast? ≠ some '\\') : DoubleBody last (a ++ ['"'])
  | stuck {a : Text} (ha : '"' ∉ a) (hlast : last) : DoubleBody last (a ++ ['\\', '"'])
  | escape {a b : Text} (ha : '"' ∉ a) (hb : DoubleBody last b) :
    DoubleBody last (a ++ '\\' :: '"' :: b)

variable {body t : Text}

theorem SingleBody.cons {c : Char} (hc : c ≠ '\'') (h : SingleBody body) :
    SingleBody (c :: body) := by
  cases h with
  | close ha => exact SingleBody.close (List.not_mem_cons_of_ne_of_not_mem hc.symm ha)
  | pair ha hb => exact SingleBody.pair (List.not_mem_cons_of_ne_of_not_mem hc.symm ha) hb

/-- What the reading of a single-quoted literal says of it and of the text behind it. -/
theorem singleBody_of_singleQuoted {rest : Text} (h : singleQuoted t = some (body, rest)) :
    t = body ++ rest ∧ (SingleBody body) ∧
      (rest.head? = some '\'' → singleQuoted rest.tail = none) := by
  induction t using singleQuoted.induct generalizing body rest with
  | case1 => cases h
  | case2 cs body' rest' hcs ih =>
    simp only [singleQuoted, hcs, Option.some.injEq, Prod.mk.injEq] at h
    obtain ⟨rfl, rfl⟩ := h
    obtain ⟨hsplit, hbody, hrest⟩ := ih hcs
    exact ⟨by rw [hsplit]; rfl, SingleBody.pair (a := []) (by simp) hbody, hrest⟩
  | case3 cs hcs =>
    simp only [singleQuoted, hcs, Option.some.injEq, Prod.mk.injEq] at h
    obtain ⟨rfl, rfl⟩ := h
    exact ⟨rfl, SingleBody.close (a := []) (by simp), fun _ => hcs⟩
  | case4 cs hne =>
    rw [singleQuoted] at h
    · simp only [Option.some.injEq, Prod.mk.injEq] at h
      obtain ⟨rfl, rfl⟩ := h
      refine ⟨rfl, SingleBody.close (a := []) (by simp), fun hhead => ?_⟩
      obtain ⟨r, hr⟩ := List.head?_eq_some_iff.mp hhead
      exact absurd hr (hne r)
    · exact hne
  | case5 c cs hpair hquote ih =>
    rw [singleQuoted] at h
    · obtain ⟨⟨body', rest'⟩, hcs, heq⟩ := Option.map_eq_some_iff.mp h
      simp only [Prod.mk.injEq] at heq
      obtain ⟨rfl, rfl⟩ := heq
      obtain ⟨hsplit, hbody, hrest⟩ := ih hcs
      exact ⟨by rw [hsplit]; rfl, hbody.cons hquote, hrest⟩
    · exact hpair
    · exact hquote

theorem singleQuoted_append {a : Text} (ha : '\'' ∉ a) (t : Text) :
    singleQuoted (a ++ t) = (singleQuoted t).map fun (body, rest) => (a ++ body, rest) := by
  induction a with
  | nil => cases h : singleQuoted t <;> simp [h]
  | cons c cs ih =>
    obtain ⟨hc, hcs⟩ := not_or.mp (List.mem_cons.not.mp ha)
    rw [List.cons_append, singleQuoted, ih hcs, Option.map_map]
    · rfl
    · rintro cs' rfl
      exact absurd rfl hc
    · exact Ne.symm hc

theorem SingleBody.read (h : SingleBody body) {X : Text} (hX : X.head? ≠ some '\'') :
    singleQuoted (body ++ X) = some (body, X) := by
  induction h with
  | close ha =>
    rw [List.append_assoc, singleQuoted_append ha, List.singleton_append, singleQuoted]
    · rfl
    · rintro cs rfl
      exact hX rfl
  | pair ha hb ih =>
    rw [List.append_assoc, singleQuoted_append ha, List.cons_append, List.cons_append,
      singleQuoted, ih]
    rfl

theorem doubleQuoted_none (h : doubleQuoted t = none) : '"' ∉ t := by
  induction t using doubleQuoted.induct with
  | case1 => simp
  | case2 cs body rest hcs ih => simp [doubleQuoted, hcs] at h
  | case3 cs hcs ih => simp [doubleQuoted, hcs] at h
  | case4 cs => simp [doubleQuoted] at h
  | case5 c cs hpair hquote ih =>
    rw [doubleQuoted] at h
    · exact List.not_mem_cons_of_ne_of_not_mem (Ne.symm hquote) (ih (Option.map_eq_none_iff.mp h))
    · exact hpair
    · exact hquote

theorem doubleQuoted_of_not_mem (h : '"' ∉ t) : doubleQuoted t = none := by
  induction t with
  | nil => rfl
  | cons c cs ih =>
    obtain ⟨hc, hcs⟩ := not_or.mp (List.mem_cons.not.mp h)
    rw [doubleQuoted, ih hcs]
    · rfl
    · rintro cs' rfl rfl
      exact hcs List.mem_cons_self
    · exact Ne.symm hc

theorem doubleBody_of_doubleQuoted {rest : Text} (h : doubleQuoted t = some (body, rest)) :
    t = body ++ rest ∧ DoubleBody ('"' ∉ rest) body := by
  induction t using doubleQuoted.induct generalizing body rest with
  | case1 => cases h
  | case2 cs body' rest' hcs ih =>
    simp only [doubleQuoted, hcs, Option.some.injEq, Prod.mk.injEq] at h
    obtain ⟨rfl, rfl⟩ := h
    obtain ⟨hsplit, hbody⟩ := ih hcs
    exact ⟨by rw [hsplit]; rfl, DoubleBody.escape (a := []) (by simp) hbody⟩
  | case3 cs hcs =>
    simp only [doubleQuoted, hcs, Option.some.injEq, Prod.mk.injEq] at h
    obtain ⟨rfl, rfl⟩ := h
    exact ⟨rfl, DoubleBody.stuck (a := []) (by simp) (doubleQuoted_none hcs)⟩
  | case4 cs =>
    simp only [doubleQuoted, Option.some.injEq, Prod.mk.injEq] at h
    obtain ⟨rfl, rfl⟩ := h
    exact ⟨rfl, DoubleBody.close (a := []) (by simp) (by simp)⟩
  | case5 c cs hpair hquote ih =>
    rw [doubleQuoted] at h
    · obtain ⟨⟨body', rest'⟩, hcs, heq⟩ := Option.map_eq_some_iff.mp h
      simp only [Prod.mk.injEq] at heq
      obtain ⟨rfl, rfl⟩ := heq
      obtain ⟨hsplit, hbody⟩ := ih hcs
      refine ⟨by rw [hsplit]; rfl, ?_⟩
      cases hbody with
      | @close a ha hslash =>
        refine DoubleBody.close (a := c :: a)
          (List.not_mem_cons_of_ne_of_not_mem (Ne.symm hquote) ha) ?_
        cases a with
        | nil =>
          -- a backslash right before the closing quote would have been read with it
          rintro hc
          exact hpair _ (by simpa using hc) hsplit
        | cons d ds => simpa using hslash
      | stuck ha hlast =>
        exact DoubleBody.stuck (List.not_mem_cons_of_ne_of_not_mem (Ne.symm hquote) ha) hlast
      | escape ha hb =>
        exact DoubleBody.escape (List.not_mem_cons_of_ne_of_not_mem (Ne.symm hquote) ha) hb
    · exact hpair
    · exact hquote

theorem doubleQuoted_append {a : Text} (ha : '"' ∉ a)
    (hslash : a.getLast? = some '\\' → t.head? ≠ some '"') :
    doubleQuoted (a ++ t) = (doubleQuoted t).map fun (body, rest) => (a ++ body, rest) := by
  induction a with
  | nil => cases h : doubleQuoted t <;> simp [h]
  | cons c cs ih =>
    obtain ⟨hc, hcs⟩ := not_or.mp (List.mem_cons.not.mp ha)
    have hslash' : cs.getLast? = some '\\' → t.head? ≠ some '"' := by
      intro hlast
      cases cs with
      | nil => cases hlast
      | cons d ds => exact hslash (by simpa using hlast)
    rw [List.cons_append, doubleQuoted, ih hcs hslash', Option.map_map]
    · rfl
    · rintro cs' rfl heq
      cases cs with
      | nil => exact hslash rfl (by rw [List.nil_append] at heq; rw [heq]; rfl)
      | cons d ds => exact hcs ((List.cons.inj heq).1 ▸ List.mem_cons_self)
    · exact Ne.symm hc

/-- A closed literal is read again, where no later quote can take the place of a closing quote
that follows a backslash. -/
theorem DoubleBody.read {last : Prop} (h : DoubleBody last body) {X : Text} (hX : last → '"' ∉ X) :
    doubleQuoted (body ++ X) = some (body, X) := by
  induction h with
  | close ha hslash =>
    rw [List.append_assoc, doubleQuoted_append ha fun hlast => absurd hlast hslash]
    rfl
  | stuck ha hlast =>
    rw [List.append_assoc, doubleQuoted_append ha (by simp)]
    simp [doubleQuoted, doubleQuoted_of_not_mem (hX hlast)]
  | escape ha hb ih =>
    rw [List.append_assoc, doubleQuoted_append ha (by simp), List.cons_append, List.cons_append,
      doubleQuoted, ih]
    rfl

end Tokenizer

end DqMadeEasy
