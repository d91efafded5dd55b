import DqMadeEasy.Compiler.Lexemes
import DqMadeEasy.Compiler.Substitutions

/-!
# Tokens of the normalised text

A substitution acts on the tokens one by one: `<>` becomes `!=`, the text of a quoted literal is
rewritten as a text of its own, and every other token stays. White space moves only between
tokens. The proof follows the scanning loop on the old text; each match of the substitution
starts where a token or the white space before it starts.
-/

namespace DqMadeEasy

variable [PyRuntime]

theorem Lexes.space_cons {c : Char} (hc : isSpace c = true) (t : Text) : Lexes (c :: t) [] t := by
  have h := Lexes.lstrip (c :: t)
  rw [Text.lstrip, List.dropWhile_cons, if_pos hc] at h
  have h' := Lexes.lstrip t
  unfold Lexes at h h' ⊢
  rw [h, Text.lstrip] at *
  rw [h']
  cases tokenizeExpression (t.dropWhile isSpace) <;> rfl

theorem Lexes.ok {t rest : Text} {tokens more : List Token} (h : Lexes t tokens rest)
    (hrest : tokenizeExpression rest = .ok more) : tokenizeExpression t = .ok (tokens ++ more) := by
  rw [Lexes, hrest] at h
  exact h

theorem tokenizeExpression_of_next_none {t : Text} (hne : t ≠ [])
    (h : Tokenizer.next t = none) : tokenizeExpression t = .error (.unrecognizedToken t) := by
  have hfuel : tokenizeExpression t = Tokenizer.run (t.length - 1 + 1) t := by
    rw [Nat.sub_add_cancel (List.length_pos_iff.mpr hne)]
    rfl
  rw [hfuel, Tokenizer.run_of_next_none hne h]

namespace Normalize

open Tokenizer

theorem inert_of_ascii {q : Char} (hascii : q.toNat < 128) (halnum : q.isAlphanum = false)
    (hunder : q ≠ '_') (hsymbol : isSymbol q = false) (hspace : isSpace q = false) : Inert q := by
  refine ⟨⟨?_, hsymbol⟩, hspace⟩
  rw [Text.isWord, PyRuntime.isAlnum_ascii q hascii, halnum, Bool.false_or]
  exact beq_eq_false_iff_ne.mpr hunder

theorem inert_single : Inert '\'' :=
  inert_of_ascii (by decide) (by decide) (by decide) (by decide) (by decide)
theorem inert_double : Inert '"' :=
  inert_of_ascii (by decide) (by decide) (by decide) (by decide) (by decide)
theorem inert_backslash : Inert '\\' :=
  inert_of_ascii (by decide) (by decide) (by decide) (by decide) (by decide)
theorem inert_colon : Inert ':' :=
  inert_of_ascii (by decide) (by decide) (by decide) (by decide) (by decide)
theorem inert_point : Inert '.' :=
  inert_of_ascii (by decide) (by decide) (by decide) (by decide) (by decide)

/-- A substitution of the normalisation: inert characters stop it, a match starts at white
space, at a symbol or at the start of a word, and its replacement starts with a blank. -/
structure Rewrites (m : Scan.Matcher Text) : Prop where
  stops : Scan.StopsAt Inert m
  replacement : ∀ {before t r rest}, m before t = some (r, rest) →
    (∃ r', r = ' ' :: r') ∧ ∀ x ∈ r, ¬Inert x
  starts : ∀ {before c cs found}, m before (c :: cs) = some found →
    isSpace c = true ∨ isSymbol c = true ∨
      (Text.isIdentStart c = true ∧ before.any Text.isWord = false)

namespace Rewrites

variable {m : Scan.Matcher Text}

/-- An inert character of the new text is one of the old text. -/
theorem exists_of_subFrom (h : Rewrites m) {q : Char} (hq : Inert q) {before : Option Char}
    {t x y : Text} (hsub : Scan.subFrom m 0 before t = x ++ q :: y) :
    ∃ a b, t = a ++ q :: b ∧ Scan.sub m b = y := by
  induction hlen : t.length using Nat.strong_induction_on generalizing t before x with
  | _ n ih =>
    cases t with
    | nil => cases x <;> cases hsub
    | cons c cs =>
      cases hm : m before (c :: cs) with
      | none =>
        rw [Scan.subFrom_none hm] at hsub
        cases x with
        | nil =>
          obtain ⟨rfl, rfl⟩ := List.cons.inj hsub
          exact ⟨[], cs, rfl, (h.stops.subFrom_fresh hq cs).symm⟩
        | cons d x =>
          obtain ⟨a, b, rfl, hb⟩ := ih cs.length (by simp [← hlen]) (List.cons.inj hsub).2 rfl
          exact ⟨c :: a, b, rfl, hb⟩
      | some found =>
        obtain ⟨r, rest⟩ := found
        obtain ⟨c', consumed, heq⟩ := h.stops.consumes hm
        have hshort : rest.length < n := by
          rw [← hlen, heq]
          simp only [List.cons_append, List.length_cons, List.length_append]
          omega
        rw [heq] at hm hsub ⊢
        rw [Scan.subFrom_match hm] at hsub
        -- the replacement contains no inert character, so this one comes later
        obtain ⟨x', rfl, hrest⟩ | ⟨s, hr, hs⟩ := List.append_eq_append_iff.mp hsub
        · obtain ⟨a, b, rfl, hb⟩ := ih rest.length hshort hrest rfl
          exact ⟨c' :: consumed ++ a, b, by simp, hb⟩
        · cases s with
          | nil =>
            obtain ⟨a, b, rfl, hb⟩ := ih rest.length hshort (x := []) hs.symm rfl
            exact ⟨c' :: consumed ++ a, b, by simp, hb⟩
          | cons d s =>
            obtain rfl : q = d := (List.cons.inj hs).1
            exact absurd hq ((h.replacement hm).2 q (by rw [hr]; simp))

theorem mem_of_mem_sub (h : Rewrites m) {q : Char} (hq : Inert q) {t : Text}
    (hmem : q ∈ Scan.sub m t) : q ∈ t := by
  obtain ⟨x, y, hxy⟩ := List.append_of_mem hmem
  obtain ⟨a, b, rfl, -⟩ := h.exists_of_subFrom hq hxy
  simp

theorem sub_ne_nil (h : Rewrites m) {t : Text} (hne : t ≠ []) : Scan.sub m t ≠ [] := by
  cases t with
  | nil => contradiction
  | cons c cs =>
    rw [Scan.sub]
    cases hm : m none (c :: cs) with
    | none =>
      rw [Scan.subFrom_none hm]
      exact List.cons_ne_nil _ _
    | some found =>
      obtain ⟨r, rest⟩ := found
      obtain ⟨⟨r', rfl⟩, -⟩ := h.replacement hm
      rw [Scan.subFrom, hm]
      exact List.cons_ne_nil _ _

theorem getLast_of_sub (h : Rewrites m) {q : Char} (hq : Inert q) {t : Text}
    (hlast : (Scan.sub m t).getLast? = some q) : t.getLast? = some q := by
  obtain ⟨x, hx⟩ := List.getLast?_eq_some_iff.mp hlast
  obtain ⟨a, b, rfl, hb⟩ := h.exists_of_subFrom hq hx
  cases b with
  | nil => simp
  | cons c cs => exact absurd hb (h.sub_ne_nil (by simp))

/-- The rewritten text follows a lexeme as the old one did. -/
theorem follows (h : Rewrites m) (before : Option Char) (t : Text) :
    Follows t (Scan.subFrom m 0 before t) := by
  have hmeets (before : Option Char) (t : Text) : Meets t (Scan.subFrom m 0 before t) := by
    cases t with
    | nil => exact .refl []
    | cons c cs =>
      cases hm : m before (c :: cs) with
      | none => exact .inl (by rw [Scan.subFrom_none hm]; rfl)
      | some found =>
        obtain ⟨r, rest⟩ := found
        obtain ⟨⟨r', rfl⟩, -⟩ := h.replacement hm
        refine .inr fun d hd => ?_
        rw [Scan.subFrom, hm] at hd
        obtain rfl : ' ' = d := by simpa using hd
        decide
  refine ⟨hmeets before t, fun r hr => ⟨Scan.sub m r, ?_, hmeets none r⟩⟩
  rw [hr, h.stops.subFrom_cons inert_point]

/-! ### Quoted literals -/

theorem singleBody (h : Rewrites m) {body : Text} (hbody : SingleBody body) :
    SingleBody (Scan.sub m body) := by
  induction hbody with
  | close ha =>
    rw [h.stops.sub_append inert_single]
    exact .close fun hmem => ha (h.mem_of_mem_sub inert_single hmem)
  | pair ha hb ih =>
    rw [h.stops.sub_append inert_single, h.stops.sub_cons inert_single]
    exact .pair (fun hmem => ha (h.mem_of_mem_sub inert_single hmem)) ih

theorem doubleBody (h : Rewrites m) {last : Prop} {body : Text} (hbody : DoubleBody last body) :
    DoubleBody last (Scan.sub m body) := by
  induction hbody with
  | close ha hslash =>
    rw [h.stops.sub_append inert_double]
    exact .close (fun hmem => ha (h.mem_of_mem_sub inert_double hmem))
      fun hlast => hslash (h.getLast_of_sub inert_backslash hlast)
  | stuck ha hlast =>
    rw [h.stops.sub_append inert_backslash, h.stops.sub_cons inert_double]
    exact .stuck (fun hmem => ha (h.mem_of_mem_sub inert_double hmem)) hlast
  | escape ha hb ih =>
    rw [h.stops.sub_append inert_backslash, h.stops.sub_cons inert_double]
    exact .escape (fun hmem => ha (h.mem_of_mem_sub inert_double hmem)) ih

end Rewrites

/-! ### Reading on -/

variable {cs body : Text} {c : Char}

theorem next_singleQuoted {rest : Text} (h : singleQuoted cs = some (body, rest)) :
    next ('\'' :: cs) = some (some (.string ('\'' :: body)), rest) := by
  rw [next, if_pos rfl, h]
  rfl

theorem next_doubleQuoted {rest : Text} (h : doubleQuoted cs = some (body, rest)) :
    next ('"' :: cs) = some (some (.string ('"' :: body)), rest) := by
  rw [next, h]
  rfl

theorem next_unclosed (h : singleQuoted cs = none) : next ('\'' :: cs) = none := by
  have hdigit : isDigit '\'' = false := by
    simp [isDigit, PyRuntime.digit_ascii '\'' (by decide)]
  have hnumber : number ('\'' :: cs) = none := by
    simp [number, unsignedNumber, hdigit]
  rw [next, h, hnumber]
  rfl

theorem isSpace_of_next {rest : Text} (h : next (c :: cs) = some (none, rest)) :
    isSpace c = true := by
  rw [next] at h
  split at h
  · assumption
  · iterate 11
      split at h
      · cases h
    cases h

/-- Where a string token comes from. -/
theorem string_of_next {t rest s : Text} (h : next t = some (some (.string s), rest)) :
    (∃ cs body, t = '\'' :: cs ∧ s = '\'' :: body ∧ singleQuoted cs = some (body, rest)) ∨
      ∃ cs body, t = '"' :: cs ∧ s = '"' :: body ∧ doubleQuoted cs = some (body, rest) := by
  cases t with
  | nil => cases h
  | cons c cs =>
    rw [next] at h
    iterate 7
      split at h
      · cases h
    split at h
    · rename_i body rest' hq
      cases h
      split at hq
      · rename_i hc
        exact .inl ⟨cs, body, by rw [hc], by rw [hc], hq⟩
      · cases hq
    split at h
    · rename_i body rest' hq
      cases h
      split at hq
      · rename_i hc
        exact .inr ⟨cs, body, by rw [hc], by rw [hc], hq⟩
      · cases hq
    split at h
    · cases h
    split at h
    · cases h
    split at h
    · rw [identToken] at h
      split at h <;> cases h
    · cases h

/-- The literal at the head of a text with tokens, read again after a substitution and before
another text. -/
theorem string_follows {t rest s : Text} (h : next t = some (some (.string s), rest))
    {more : List Token} (hrest : tokenizeExpression rest = .ok more) :
    ∃ q inside, Inert q ∧ isSpace q = false ∧ s = q :: inside ++ [q] ∧ t = s ++ rest ∧
      ∀ X, Meets rest X → ('"' ∈ X → '"' ∈ rest) →
        next (s ++ X) = some (some (.string s), X) ∧
        ∀ m, Rewrites m → next (Scan.sub m s ++ X) = some (some (.string (Scan.sub m s)), X) := by
  obtain ⟨cs, body, rfl, rfl, hq⟩ | ⟨cs, body, rfl, rfl, hq⟩ := string_of_next h
  · obtain ⟨inside, hinside, -⟩ := singleQuoted_shape hq
    obtain ⟨rfl, hbody, hclosed⟩ := singleBody_of_singleQuoted hq
    refine ⟨'\'', inside, inert_single, by decide, by rw [hinside]; rfl, rfl, fun X hX _ => ?_⟩
    have hhead : ∀ r, rest ≠ '\'' :: r := by
      rintro r rfl
      have hnone : next ('\'' :: r) = none := next_unclosed (hclosed rfl)
      rw [tokenizeExpression_of_next_none (by simp) hnone] at hrest
      cases hrest
    have hX' := hX.stop_at '\'' (by decide) hhead
    refine ⟨next_singleQuoted (hbody.read hX'), fun m hm => ?_⟩
    rw [hm.stops.sub_cons inert_single]
    exact next_singleQuoted ((hm.singleBody hbody).read hX')
  · obtain ⟨inside, hinside⟩ := doubleQuoted_shape hq
    obtain ⟨rfl, hbody⟩ := doubleBody_of_doubleQuoted hq
    refine ⟨'"', inside, inert_double, by decide, by rw [hinside]; rfl, rfl, fun X _ hX => ?_⟩
    have hlast : '"' ∉ rest → '"' ∉ X := fun hno hmem => hno (hX hmem)
    refine ⟨next_doubleQuoted (hbody.read hlast), fun m hm => ?_⟩
    rw [hm.stops.sub_cons inert_double]
    exact next_doubleQuoted ((hm.doubleBody hbody).read hlast)

/-- Inside a lexeme a substitution that starts at words, symbols or white space finds nothing. -/
theorem Rewrites.subFrom_inside {m : Scan.Matcher Text} (h : Rewrites m) (rest : Text)
    (hbody : ∀ d ∈ body, isSpace d = false ∧ isSymbol d = false)
    (hword : (∀ d ∈ body, Text.isIdentStart d = false) ∨ ∀ d ∈ c :: body, Text.isWord d = true) :
    ∃ before, Scan.subFrom m 0 (some c) (body ++ rest) = body ++ Scan.subFrom m 0 before rest := by
  induction body generalizing c with
  | nil => exact ⟨some c, rfl⟩
  | cons d ds ih =>
    obtain ⟨hspace, hsymbol⟩ := hbody d List.mem_cons_self
    have hnone : m (some c) (d :: (ds ++ rest)) = none := by
      cases hm : m (some c) (d :: (ds ++ rest)) with
      | none => rfl
      | some found =>
        rcases h.starts hm with hs | hs | ⟨hstart, hbefore⟩
        · rw [hspace] at hs; cases hs
        · rw [hsymbol] at hs; cases hs
        · rcases hword with hword | hword
          · rw [hword d List.mem_cons_self] at hstart; cases hstart
          · rw [Option.any_some, hword c List.mem_cons_self] at hbefore; cases hbefore
    obtain ⟨before, hrest⟩ := ih (c := d) (fun e he => hbody e (List.mem_cons_of_mem _ he))
      (hword.imp (fun h e he => h e (List.mem_cons_of_mem _ he))
        fun h e he => h e (List.mem_cons_of_mem _ he))
    refine ⟨before, ?_⟩
    rw [List.cons_append, Scan.subFrom_none hnone, hrest, List.cons_append]

theorem isWord_of_isIdentRest (h : Text.isIdentRest c = true) : Text.isWord c = true := by
  rw [Text.isIdentRest, Bool.or_eq_true] at h
  rcases h with h | h
  · have hrange := alphanum_range h
    rw [Text.isWord, PyRuntime.isAlnum_ascii c (by omega), h, Bool.true_or]
  · rw [Text.isWord, h, Bool.or_true]

omit [PyRuntime] in
theorem isSymbol_of_isIdentRest (h : Text.isIdentRest c = true) : isSymbol c = false := by
  cases hs : isSymbol c with
  | false => rfl
  | true =>
    simp only [isSymbol, Bool.or_eq_true, beq_iff_eq] at hs
    rcases hs with ((rfl | rfl) | rfl) | rfl <;> cases h

omit [PyRuntime] in
theorem isIdentRest_of_isIdentStart (h : Text.isIdentStart c = true) :
    Text.isIdentRest c = true := by
  rw [Text.isIdentStart, Bool.or_eq_true] at h
  rw [Text.isIdentRest, Char.isAlphanum, Bool.or_eq_true, Bool.or_eq_true]
  exact h.imp .inl id

theorem numberRest (h : isNumberRest c = true) :
    isSpace c = false ∧ isSymbol c = false ∧ Text.isIdentStart c = false := by
  rw [isNumberRest, Bool.or_eq_true, beq_iff_eq] at h
  rcases h with h | rfl
  · refine ⟨isSpace_of_isDigit c h, ?_, ?_⟩
    · cases hs : isSymbol c with
      | false => rfl
      | true =>
        simp only [isSymbol, Bool.or_eq_true, beq_iff_eq] at hs
        rcases hs with ((rfl | rfl) | rfl) | rfl <;>
          exact absurd rfl (ne_of_isDigit h (by decide) (by decide))
    · cases hs : Text.isIdentStart c with
      | false => rfl
      | true => rw [isDigit_of_isIdentStart hs] at h; cases h
  · exact ⟨by decide, by decide, by decide⟩

/-- A substitution that acts on tokens: `f` says what becomes of each token that satisfies `ok`. -/
structure Retokenizes (m : Scan.Matcher Text) (f : Token → Token) (ok : Token → Prop) : Prop
    extends Rewrites m where
  onMatch : ∀ {before t r rest tokens}, m before t = some (r, rest) →
    tokenizeExpression t = .ok tokens → (∀ token ∈ tokens, ok token) →
      ∃ found, Lexes t found rest ∧ ∀ X, Lexes (r ++ X) (found.map f) X
  inOperator : ∀ {before c d rest} {symbol : OpSymbol}, symbol.text = [c, d] →
    m before (c :: d :: rest) = none → ok (.op symbol) → m (some c) (d :: rest) = none
  keeps : ∀ {before t rest token}, m before t = none → next t = some (some token, rest) →
    (∀ s, token ≠ .string s) → f token = token
  string : ∀ s, f (.string s) = .string (Scan.sub m s)

namespace Retokenizes

variable {m : Scan.Matcher Text} {f : Token → Token} {ok : Token → Prop}

/-- No match starts inside a lexeme whose first character starts none. -/
theorem subFrom_lexeme (h : Retokenizes m f ok) {before : Option Char} {c : Char}
    {body rest : Text} {token : Token} (hm : m before (c :: body ++ rest) = none)
    (hinside : Inside c body token) (hok : ok token) :
    ∃ before', Scan.subFrom m 0 before (c :: body ++ rest) =
      c :: body ++ Scan.subFrom m 0 before' rest := by
  suffices hbody : ∃ before', Scan.subFrom m 0 (some c) (body ++ rest) =
      body ++ Scan.subFrom m 0 before' rest by
    obtain ⟨before', hbody⟩ := hbody
    rw [List.cons_append] at hm
    exact ⟨before', by rw [List.cons_append, Scan.subFrom_none hm, hbody, List.cons_append]⟩
  cases hinside with
  | single => exact ⟨some c, rfl⟩
  | typecast => exact ⟨none, h.stops.subFrom_cons inert_colon (some ':') rest⟩
  | operator htext =>
    exact ⟨_, Scan.subFrom_none (h.inOperator htext hm hok)⟩
  | number hc hbody =>
    exact h.subFrom_inside rest
      (fun d hd => ⟨(numberRest (hbody d hd)).1, (numberRest (hbody d hd)).2.1⟩)
      (.inl fun d hd => (numberRest (hbody d hd)).2.2)
  | ident hident =>
    rw [Text.isIdent, Bool.and_eq_true, List.all_eq_true] at hident
    refine h.subFrom_inside rest (fun d hd => ?_) (.inr fun d hd => ?_)
    · exact ⟨isSpace_of_isIdentRest d (hident.2 d hd), isSymbol_of_isIdentRest (hident.2 d hd)⟩
    · rcases List.mem_cons.mp hd with rfl | hd
      · exact isWord_of_isIdentRest (isIdentRest_of_isIdentStart hident.1)
      · exact isWord_of_isIdentRest (hident.2 d hd)

/-- The tokens of the new text are those of the old text, each one rewritten. -/
theorem tokenize_subFrom (h : Retokenizes m f ok) {before : Option Char} {t : Text}
    {tokens : List Token} (ht : tokenizeExpression t = .ok tokens)
    (hok : ∀ token ∈ tokens, ok token) :
    tokenizeExpression (Scan.subFrom m 0 before t) = .ok (tokens.map f) := by
  induction hlen : t.length using Nat.strong_induction_on generalizing t before tokens with
  | _ n ih =>
    cases t with
    | nil =>
      rw [tokenizeExpression_nil] at ht
      cases ht
      exact tokenizeExpression_nil
    | cons c cs =>
      cases hm : m before (c :: cs) with
      | some found =>
        obtain ⟨r, rest⟩ := found
        obtain ⟨found, hlexes, hreplaced⟩ := h.onMatch hm ht hok
        obtain ⟨more, hmore, rfl⟩ := hlexes.tokenize ht
        obtain ⟨c', consumed, heq⟩ := h.stops.consumes hm
        have hshort : rest.length < n := by
          rw [← hlen, heq]
          simp only [List.cons_append, List.length_cons, List.length_append]
          omega
        rw [heq] at hm ⊢
        rw [Scan.subFrom_match hm, List.map_append]
        exact (hreplaced _).ok (ih rest.length hshort hmore
          (fun token htoken => hok token (List.mem_append_right _ htoken)) rfl)
      | none =>
        by_cases hspace : isSpace c = true
        · have hlexes := Lexes.space_cons hspace cs
          obtain ⟨more, hmore, rfl⟩ := hlexes.tokenize ht
          rw [Scan.subFrom_none hm]
          exact (Lexes.space_cons hspace _).ok (ih cs.length (by simp [← hlen]) hmore hok rfl)
        · cases hnext : next (c :: cs) with
          | none =>
            rw [tokenizeExpression_of_next_none (by simp) hnext] at ht
            cases ht
          | some found =>
            obtain ⟨token, rest⟩ := found
            have hshort : rest.length < n := hlen ▸ next_length hnext
            cases token with
            | none => exact absurd (isSpace_of_next hnext) hspace
            | some token =>
              obtain ⟨more, hmore, rfl⟩ := (Lexes.of_next hnext).tokenize ht
              have hrest (before : Option Char) :
                  tokenizeExpression (Scan.subFrom m 0 before rest) = .ok (more.map f) :=
                ih rest.length hshort hmore
                  (fun token htoken => hok token (List.mem_append_right _ htoken)) rfl
              by_cases hstring : ∃ s, token = .string s
              · obtain ⟨s, rfl⟩ := hstring
                obtain ⟨q, inside, hq, -, hs, hsplit, hfollows⟩ := string_follows hnext hmore
                have hX : '"' ∈ Scan.sub m rest → '"' ∈ rest := h.mem_of_mem_sub inert_double
                have hread := (hfollows _ (h.follows none rest).1 hX).2 m h.toRewrites
                have hsub : Scan.subFrom m 0 before (c :: cs) = Scan.sub m s ++ Scan.sub m rest := by
                  rw [hsplit, hs, List.append_assoc, List.singleton_append,
                    h.stops.subFrom_append hq, h.stops.sub_append hq, h.stops.subFrom_cons hq,
                    h.stops.sub_cons hq, List.append_assoc]
                  rfl
                rw [hsub, List.map_append, List.map_singleton, h.string]
                exact (Lexes.of_next hread).ok (hrest none)
              · have hstring : ∀ s, token ≠ .string s := fun s hs => hstring ⟨s, hs⟩
                obtain ⟨c', body, hsplit, -, hinside, hfollows⟩ := next_follows hnext hstring
                rw [hsplit] at hm hnext ⊢
                obtain ⟨before', hsub⟩ := h.subFrom_lexeme hm hinside (hok token (by simp))
                rw [hsub, List.map_append, List.map_singleton, h.keeps hm hnext hstring]
                exact (Lexes.of_next (hfollows _ (h.follows before' rest))).ok (hrest before')

theorem tokenize_sub (h : Retokenizes m f ok) {t : Text} {tokens : List Token}
    (ht : tokenizeExpression t = .ok tokens) (hok : ∀ token ∈ tokens, ok token) :
    tokenizeExpression (Scan.sub m t) = .ok (tokens.map f) :=
  h.tokenize_subFrom ht hok

end Retokenizes

end Normalize

end DqMadeEasy
