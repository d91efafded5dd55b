import DqMadeEasy.Compiler.Retokenize

/-!
# The tokens of a normalised expression

Each of the six substitutions rewrites tokens, and so does their composition: the normalised text
has the tokens of the original, with `!=` for `<>` and with every quoted literal normalised on
its own.
-/

namespace DqMadeEasy

/-- `<>` and `!=` are one operator. -/
def Token.unified : Token → Token
  | .op .ltgt => .op .ne
  | token => token

def Token.mapString (g : Text → Text) : Token → Token
  | .string s => .string (g s)
  | token => token

namespace Normalize

open Tokenizer

variable [PyRuntime]

variable {c : Char} {w t : Text} {k : Keyword} {tokens : List Token}

theorem not_inert_of_isSpace (h : isSpace c = true) : ¬Inert c := fun hc => by
  rw [hc.2] at h
  cases h

theorem not_inert_of_isSymbol (h : isSymbol c = true) : ¬Inert c := fun hc => by
  rw [hc.1.2] at h
  cases h

theorem not_inert_of_isWord (h : Text.isWord c = true) : ¬Inert c := fun hc => by
  rw [hc.1.1] at h
  cases h

/-- A replacement is a text without inert characters between two blanks. -/
theorem padded (hw : ∀ x ∈ w, ¬Inert x) :
    (∃ r', ' ' :: w ++ [' '] = ' ' :: r') ∧ ∀ x ∈ ' ' :: w ++ [' '], ¬Inert x := by
  refine ⟨⟨w ++ [' '], rfl⟩, fun x hx => ?_⟩
  have hblank : ¬Inert ' ' := not_inert_of_isSpace (by decide)
  simp only [List.cons_append, List.mem_cons, List.mem_append, List.not_mem_nil, or_false] at hx
  rcases hx with rfl | hx | rfl
  · exact hblank
  · exact hw x hx
  · exact hblank

omit [PyRuntime] in
theorem spaced_some {symbol : Text → Option (Text × Text)} {before : Option Char} {r rest : Text}
    (h : spaced symbol before t = some (r, rest)) :
    ∃ w rest', symbol t.lstrip = some (w, rest') ∧ r = ' ' :: w ++ [' '] ∧ rest = rest'.lstrip := by
  rw [spaced] at h
  split at h
  · rename_i w rest' hs
    cases h
    exact ⟨w, rest', hs, rfl, rfl⟩
  · cases h

theorem rewrites_spaced {symbol : Text → Option (Text × Text)} (h : ReadsSymbols symbol)
    (hw : ∀ {t w rest}, symbol t = some (w, rest) → ∀ x ∈ w, isSymbol x = true) :
    Rewrites (spaced symbol) where
  stops := stopsAt_spaced h
  replacement hm := by
    obtain ⟨w, rest', hs, rfl, -⟩ := spaced_some hm
    exact padded fun x hx => not_inert_of_isSymbol (hw hs x hx)
  starts := by
    rintro before c cs ⟨r, rest⟩ hm
    obtain ⟨w, rest', hs, -, -⟩ := spaced_some hm
    by_cases hspace : isSpace c = true
    · exact .inl hspace
    · rw [Text.lstrip, List.dropWhile_cons, if_neg hspace] at hs
      obtain ⟨c', cs', heq, hall⟩ := h.consumes hs
      rw [(List.cons.inj heq).1]
      exact .inr (.inl (hall c' List.mem_cons_self))

omit [PyRuntime] in
theorem inequalitySymbol_some {rest : Text} (h : inequalitySymbol t = some (w, rest)) :
    t = '<' :: '>' :: rest ∧ w = ['!', '='] := by
  unfold inequalitySymbol at h
  split at h <;> cases h
  exact ⟨rfl, rfl⟩

omit [PyRuntime] in
/-- A comparison symbol is the operator of the token pattern, apart from `<>`. -/
theorem comparisonSymbol_some {rest : Text} (h : comparisonSymbol t = some (w, rest)) :
    (∃ symbol, w = symbol.text ∧ operator t = some (symbol, rest) ∧ symbol ≠ .ltgt ∧
        ∀ x ∈ w, isSymbol x = true) ∨
      ∃ r, t = '<' :: '>' :: r ∧ w = ['<'] := by
  unfold comparisonSymbol at h
  split at h <;> cases h
  · exact .inl ⟨.ge, rfl, rfl, by decide, by decide⟩
  · exact .inl ⟨.le, rfl, rfl, by decide, by decide⟩
  · exact .inl ⟨.ne, rfl, rfl, by decide, by decide⟩
  · exact .inl ⟨.eq, rfl, rfl, by decide, by decide⟩
  · rename_i hge
    refine .inl ⟨.gt, rfl, ?_, by decide, by decide⟩
    rw [operator]
    exact fun cs hcs => hge cs (by rw [hcs])
  · rename_i hle
    by_cases hgt : ∃ r, rest = '>' :: r
    · obtain ⟨r, rfl⟩ := hgt
      exact .inr ⟨r, rfl, rfl⟩
    · refine .inl ⟨.lt, rfl, ?_, by decide, by decide⟩
      rw [operator]
      · exact fun cs hcs => hle cs (by rw [hcs])
      · exact fun cs hcs => hgt ⟨cs, hcs⟩

theorem rewrites_inequality : Rewrites inequality := by
  rw [inequality_eq]
  refine rewrites_spaced readsSymbols_inequality fun hs => ?_
  rw [(inequalitySymbol_some hs).2]
  decide

theorem rewrites_comparison : Rewrites comparison := by
  rw [comparison_eq]
  refine rewrites_spaced readsSymbols_comparison fun hs => ?_
  obtain ⟨-, -, -, -, hall⟩ | ⟨-, -, rfl⟩ := comparisonSymbol_some hs
  · exact hall
  · decide

theorem Lexes.spacedOperator (symbol : OpSymbol) (X : Text) :
    Lexes (' ' :: symbol.text ++ [' '] ++ X) [.op symbol] X := by
  have hmeets : Meets (' ' :: X) (' ' :: X) := .refl _
  have hop : operator (symbol.text ++ ' ' :: X) = some (symbol, ' ' :: X) := by
    cases symbol <;> rfl
  have hblank := Lexes.space_cons (c := ' ') (by decide)
  have h := ((hblank (symbol.text ++ ' ' :: X)).trans (.of_next (next_operator hop))).trans
    (hblank X)
  simpa using h

theorem operator_of_next {rest : Text} {symbol : OpSymbol}
    (h : next t = some (some (.op symbol), rest)) : operator t = some (symbol, rest) := by
  cases t with
  | nil => cases h
  | cons c cs =>
    rw [next] at h
    iterate 6
      split at h
      · cases h
    split at h
    · rename_i hop
      cases h
      exact hop
    iterate 4
      split at h
      · cases h
    split at h
    · rw [identToken] at h
      split at h <;> cases h
    · cases h

omit [PyRuntime] in
/-- The operators of two characters. -/
theorem text_pair {symbol : OpSymbol} {d : Char} (h : symbol.text = [c, d]) :
    (symbol = .ge ∧ c = '>' ∧ d = '=') ∨ (symbol = .le ∧ c = '<' ∧ d = '=') ∨
      (symbol = .ne ∧ c = '!' ∧ d = '=') ∨ (symbol = .ltgt ∧ c = '<' ∧ d = '>') ∨
      (symbol = .notTilde ∧ c = '!' ∧ d = '~') := by
  cases symbol <;> simp [OpSymbol.text] at h <;> simp [← h.1, ← h.2]

theorem retokenizes_inequality :
    Retokenizes inequality (fun token => (token.mapString (Scan.sub inequality)).unified)
      fun _ => True where
  toRewrites := rewrites_inequality
  onMatch := by
    intro before t r rest tokens hm _ _
    rw [inequality_eq] at hm
    obtain ⟨w, rest', hs, rfl, rfl⟩ := spaced_some hm
    obtain ⟨ht, rfl⟩ := inequalitySymbol_some hs
    refine ⟨[.op .ltgt], ?_, fun X => Lexes.spacedOperator .ne X⟩
    have hop : operator t.lstrip = some (.ltgt, rest') := by rw [ht]; rfl
    exact ((Lexes.lstrip t).trans (.of_next (next_operator hop))).trans (Lexes.lstrip rest')
  inOperator := by
    intro before c d rest symbol htext _ _
    obtain ⟨-, -, rfl⟩ | ⟨-, -, rfl⟩ | ⟨-, -, rfl⟩ | ⟨-, -, rfl⟩ | ⟨-, -, rfl⟩ := text_pair htext <;>
      rfl
  keeps := by
    intro before t rest token hm hnext hstring
    cases token with
    | string s => exact absurd rfl (hstring s)
    | op symbol =>
      by_cases hsymbol : symbol = .ltgt
      · subst hsymbol
        obtain ⟨rfl, -⟩ := operator_follows (operator_of_next hnext)
        cases hm
      · cases symbol <;> first | rfl | exact absurd rfl hsymbol
    | _ => rfl
  string _ := rfl

theorem retokenizes_comparison :
    Retokenizes comparison (Token.mapString (Scan.sub comparison)) (· ≠ .op .ltgt) where
  toRewrites := rewrites_comparison
  onMatch := by
    intro before t r rest tokens hm ht hok
    rw [comparison_eq] at hm
    obtain ⟨w, rest', hs, rfl, rfl⟩ := spaced_some hm
    obtain ⟨symbol, rfl, hop, -, -⟩ | ⟨r, hr, -⟩ := comparisonSymbol_some hs
    · exact ⟨[.op symbol],
        ((Lexes.lstrip t).trans (.of_next (next_operator hop))).trans (Lexes.lstrip rest'),
        fun X => Lexes.spacedOperator symbol X⟩
    · have hop : operator t.lstrip = some (.ltgt, r) := by rw [hr]; rfl
      obtain ⟨more, -, rfl⟩ := ((Lexes.lstrip t).trans (.of_next (next_operator hop))).tokenize ht
      exact absurd rfl (hok (.op .ltgt) (by simp))
  inOperator := by
    intro before c d rest symbol htext hm hok
    obtain ⟨rfl, rfl, rfl⟩ | ⟨rfl, rfl, rfl⟩ | ⟨rfl, rfl, rfl⟩ | ⟨rfl, -, -⟩ | ⟨rfl, rfl, rfl⟩ :=
      text_pair htext
    · cases hm
    · cases hm
    · cases hm
    · exact absurd rfl hok
    · rfl
  keeps := by
    intro before t rest token _ _ hstring
    cases token with
    | string s => exact absurd rfl (hstring s)
    | _ => rfl
  string _ := rfl

/-- The three words that the normalisation pads. -/
def isLogical (k : Keyword) : Prop := k = .and ∨ k = .or ∨ k = .not

omit [PyRuntime] in
theorem plain_text (h : isLogical k) : k.text.all Text.isPlainCapital = true := by
  obtain rfl | rfl | rfl := h <;> decide

omit [PyRuntime] in
theorem isIdent_text (k : Keyword) : k.text.isIdent = true := by
  cases k <;> decide

theorem getLast_text (k : Keyword) : k.text.getLast?.any Text.isWord = true := by
  cases k <;> exact isWord_of_isAlpha (by decide)

/-- A logical word is the keyword token, in any case and before a text that ends it. -/
theorem lexes_word {u rest : Text} (hu : u.map Char.toUpper = k.text)
    (halpha : ∀ c ∈ u, c.isAlpha = true) (hrest : rest.head?.any Text.isWord = false) :
    Lexes (u ++ rest) [.keyword k] rest := by
  have hne : u ≠ [] := by
    rintro rfl
    cases k <;> cases hu
  have htoken : identToken u = .keyword k := by
    rw [identToken, Keyword.ofIdent, hu]
    rw [show Keyword.all.find? (fun k' => decide (k.text = k'.text)) = some k from by
      cases k <;> decide]
  rw [← htoken]
  refine Lexes.ident (Text.isIdent_of_alpha hne halpha) fun d hd => ?_
  cases hd' : Text.isIdentRest d with
  | false => rfl
  | true =>
    rw [Option.mem_def.mp hd, Option.any_some, isWord_of_isIdentRest hd'] at hrest
    cases hrest

theorem rewrites_logicalWord (hk : isLogical k) : Rewrites (logicalWord k.text) where
  stops := (stopsAt_logicalWord (plain_text hk) (by cases k <;> decide)).mono fun _ h => h.1
  replacement hm := by
    obtain ⟨rfl, -, -, u, -, hu, halpha⟩ := logicalWord_some (plain_text hk) hm
    refine padded fun x hx => not_inert_of_isWord ?_
    have hident := isIdent_text k
    cases htext : k.text with
    | nil => rw [htext] at hx; cases hx
    | cons c cs =>
      rw [htext] at hx hident
      rw [Text.isIdent, Bool.and_eq_true, List.all_eq_true] at hident
      rcases List.mem_cons.mp hx with rfl | hx
      · exact isWord_of_isIdentRest (isIdentRest_of_isIdentStart hident.1)
      · exact isWord_of_isIdentRest (hident.2 x hx)
  starts := by
    rintro before c cs ⟨r, rest⟩ hm
    obtain ⟨-, hleft, -, u, hsplit, hu, halpha⟩ := logicalWord_some (plain_text hk) hm
    cases u with
    | nil => cases k <;> cases hu
    | cons d ds =>
      obtain rfl : c = d := (List.cons.inj hsplit).1
      have hc := halpha c List.mem_cons_self
      refine .inr (.inr ⟨by rw [Text.isIdentStart, hc, Bool.true_or], ?_⟩)
      simpa [Scan.boundary, isWord_of_isAlpha hc] using hleft

theorem retokenizes_logicalWord (hk : isLogical k) :
    Retokenizes (logicalWord k.text) (Token.mapString (Scan.sub (logicalWord k.text)))
      fun _ => True where
  toRewrites := rewrites_logicalWord hk
  onMatch := by
    intro before t r rest tokens hm _ _
    obtain ⟨rfl, -, hright, u, rfl, hu, halpha⟩ := logicalWord_some (plain_text hk) hm
    have hrest : rest.head?.any Text.isWord = false := by
      simpa [Scan.boundary, getLast_text k] using hright
    refine ⟨[.keyword k], lexes_word hu halpha hrest, fun X => ?_⟩
    have hupper : k.text.map Char.toUpper = k.text := by cases k <;> decide
    have hcapital : ∀ c ∈ k.text, c.isAlpha = true := by
      obtain rfl | rfl | rfl := hk <;> decide
    have hblank := Lexes.space_cons (c := ' ') (by decide)
    have hend : (' ' :: X).head?.any Text.isWord = false := by
      simp [Text.isWord, PyRuntime.isAlnum_ascii ' ' (by decide)]
    have hword := lexes_word hupper hcapital hend
    simpa [Token.mapString] using ((hblank (k.text ++ ' ' :: X)).trans hword).trans (hblank X)
  inOperator := by
    intro before c d rest symbol htext _ _
    have hd : Text.isIdentStart d = false := by
      obtain ⟨-, -, rfl⟩ | ⟨-, -, rfl⟩ | ⟨-, -, rfl⟩ | ⟨-, -, rfl⟩ | ⟨-, -, rfl⟩ :=
        text_pair htext <;> decide
    cases hm : logicalWord k.text (some c) (d :: rest) with
    | none => rfl
    | some found =>
      obtain ⟨r, rest'⟩ := found
      obtain ⟨-, -, -, u, hsplit, hu, halpha⟩ := logicalWord_some (plain_text hk) hm
      cases u with
      | nil => cases k <;> cases hu
      | cons e es =>
        obtain rfl : d = e := (List.cons.inj hsplit).1
        rw [Text.isIdentStart, halpha d List.mem_cons_self] at hd
        cases hd
  keeps := by
    intro before t rest token _ _ hstring
    cases token with
    | string s => exact absurd rfl (hstring s)
    | _ => rfl
  string _ := rfl

theorem retokenizes_spaces :
    Retokenizes spaces (Token.mapString (Scan.sub spaces)) fun _ => True where
  stops := stopsAt_spaces
  replacement := by
    intro before t r rest hm
    rw [spaces] at hm
    split at hm <;> cases hm
    exact ⟨⟨[], rfl⟩, fun x hx => not_inert_of_isSpace (by
      obtain rfl : x = ' ' := by simpa using hx
      decide)⟩
  starts := by
    intro before c cs found hm
    rw [spaces] at hm
    split at hm
    · rename_i hspace
      exact .inl (by simpa using hspace)
    · cases hm
  onMatch := by
    intro before t r rest tokens hm _ _
    rw [spaces] at hm
    split at hm <;> cases hm
    exact ⟨[], Lexes.lstrip t, fun X => Lexes.space_cons (by decide) X⟩
  inOperator := by
    intro before c d rest symbol htext _ _
    have hd : isSpace d = false := by
      obtain ⟨-, -, rfl⟩ | ⟨-, -, rfl⟩ | ⟨-, -, rfl⟩ | ⟨-, -, rfl⟩ | ⟨-, -, rfl⟩ :=
        text_pair htext <;> decide
    simp [spaces, hd]
  keeps := by
    intro before t rest token _ _ hstring
    cases token with
    | string s => exact absurd rfl (hstring s)
    | _ => rfl
  string _ := rfl

/-! ### White space at the ends -/

omit [PyRuntime] in
theorem rstrip_append {l : Text} (hl : ∀ c ∈ l.getLast?, isSpace c = false) (x : Text) :
    (l ++ x).rdropWhile isSpace = l ++ x.rdropWhile isSpace := by
  have hkeep : l.reverse.dropWhile isSpace = l.reverse := by
    cases hrev : l.reverse with
    | nil => rfl
    | cons c cs =>
      have hc : c ∈ l.getLast? := by rw [← List.head?_reverse, hrev]; rfl
      rw [List.dropWhile_cons, hl c hc]
      rfl
  rw [List.rdropWhile, List.rdropWhile, List.reverse_append, List.dropWhile_append]
  split
  · rename_i hempty
    rw [List.isEmpty_iff.mp hempty, hkeep, List.reverse_reverse, List.reverse_nil, List.append_nil]
  · rw [List.reverse_append, List.reverse_reverse]

omit [PyRuntime] in
theorem meets_rstrip (t : Text) : Meets t (t.rdropWhile isSpace) := by
  obtain ⟨suffix, hsuffix⟩ := List.rdropWhile_prefix isSpace t
  cases hstrip : t.rdropWhile isSpace with
  | nil => exact .inr fun c hc => by cases hc
  | cons c cs =>
    rw [hstrip] at hsuffix
    exact .inl (by rw [← hsuffix]; rfl)

omit [PyRuntime] in
theorem follows_rstrip (t : Text) : Follows t (t.rdropWhile isSpace) := by
  refine ⟨meets_rstrip t, fun r hr => ⟨r.rdropWhile isSpace, ?_, meets_rstrip r⟩⟩
  rw [hr]
  exact rstrip_append (l := ['.']) (by simp; decide) r

theorem Inside.solid {body : Text} {token : Token} (h : Inside c body token)
    (hc : isSpace c = false) : ∀ d ∈ c :: body, isSpace d = false := by
  intro d hd
  rcases List.mem_cons.mp hd with rfl | hd
  · exact hc
  · cases h with
    | single => cases hd
    | typecast =>
      obtain rfl : d = ':' := by simpa using hd
      decide
    | operator htext =>
      rw [List.mem_singleton] at hd
      obtain ⟨-, -, rfl⟩ | ⟨-, -, rfl⟩ | ⟨-, -, rfl⟩ | ⟨-, -, rfl⟩ | ⟨-, -, rfl⟩ :=
        text_pair htext <;> rw [hd] <;> decide
    | number _ hbody => exact (numberRest (hbody d hd)).1
    | ident hident =>
      rw [Text.isIdent, Bool.and_eq_true, List.all_eq_true] at hident
      exact isSpace_of_isIdentRest d (hident.2 d hd)

/-- White space at the end of a text with tokens is no part of a literal. -/
theorem tokenize_rstrip (ht : tokenizeExpression t = .ok tokens) :
    tokenizeExpression (t.rdropWhile isSpace) = .ok tokens := by
  induction hlen : t.length using Nat.strong_induction_on generalizing t tokens with
  | _ n ih =>
    cases t with
    | nil => exact ht
    | cons c cs =>
      by_cases hspace : isSpace c = true
      · obtain ⟨more, hmore, rfl⟩ := (Lexes.space_cons hspace cs).tokenize ht
        have hcs := ih cs.length (by simp [← hlen]) hmore rfl
        rw [List.rdropWhile, List.reverse_cons, List.dropWhile_append]
        split
        · rename_i hempty
          have hnil : cs.rdropWhile isSpace = [] := by
            rw [List.rdropWhile, List.isEmpty_iff.mp hempty, List.reverse_nil]
          rw [hnil, tokenizeExpression_nil] at hcs
          cases hcs
          simp [hspace]
        · rw [List.reverse_append, List.reverse_singleton, List.singleton_append]
          exact (Lexes.space_cons hspace _).ok hcs
      · cases hnext : next (c :: cs) with
        | none =>
          rw [tokenizeExpression_of_next_none (by simp) hnext] at ht
          cases ht
        | some found =>
          obtain ⟨token, rest⟩ := found
          have hshort : rest.length < n := hlen ▸ next_length hnext
          cases token with
          | none => exact absurd (isSpace_of_next hnext) hspace
          | some token =>
            obtain ⟨more, hmore, rfl⟩ := (Lexes.of_next hnext).tokenize ht
            have hrest := ih rest.length hshort hmore rfl
            by_cases hstring : ∃ s, token = .string s
            · obtain ⟨s, rfl⟩ := hstring
              obtain ⟨q, inside, -, hq, hs, hsplit, hfollows⟩ := string_follows hnext hmore
              have hread := (hfollows _ (meets_rstrip rest)
                fun hmem => (List.rdropWhile_prefix isSpace rest).subset hmem).1
              have hlast : ∀ d ∈ s.getLast?, isSpace d = false := by
                rw [hs, List.getLast?_concat]
                simpa using hq
              rw [hsplit, rstrip_append hlast]
              exact (Lexes.of_next hread).ok hrest
            · have hstring : ∀ s, token ≠ .string s := fun s hs => hstring ⟨s, hs⟩
              obtain ⟨c', body, hsplit, hc, hinside, hfollows⟩ := next_follows hnext hstring
              have hsolid := Inside.solid hinside hc
              rw [hsplit, rstrip_append fun d hd => hsolid d (List.mem_of_mem_getLast? hd)]
              exact (Lexes.of_next (hfollows _ (follows_rstrip rest))).ok hrest

theorem tokenize_strip (ht : tokenizeExpression t = .ok tokens) :
    tokenizeExpression t.strip = .ok tokens := by
  obtain ⟨more, hmore, rfl⟩ := (Lexes.lstrip t).tokenize ht
  exact tokenize_rstrip hmore

/-! ### The composition -/

/-- The six substitutions one after the other, without the white space at the ends. -/
def substituted (t : Text) : Text :=
  Scan.sub spaces (Scan.sub (logicalWord "NOT") (Scan.sub (logicalWord "OR")
    (Scan.sub (logicalWord "AND") (Scan.sub comparison (Scan.sub inequality t)))))

theorem normalizeExpression_eq (t : Text) :
    normalizeExpression t = (substituted t.strip).strip := rfl

theorem substituted_append {q : Char} (hq : Inert q) (a b : Text) :
    substituted (a ++ q :: b) = substituted a ++ q :: substituted b := by
  have hand := (rewrites_logicalWord (k := .and) (.inl rfl)).stops.sub_append hq
  have hor := (rewrites_logicalWord (k := .or) (.inr (.inl rfl))).stops.sub_append hq
  have hnot := (rewrites_logicalWord (k := .not) (.inr (.inr rfl))).stops.sub_append hq
  simp only [Keyword.text] at hand hor hnot
  simp only [substituted, rewrites_inequality.stops.sub_append hq,
    rewrites_comparison.stops.sub_append hq, hand, hor, hnot, stopsAt_spaces.sub_append hq]

theorem normalizeExpression_quoted {q : Char} (hq : Inert q) (inside : Text) :
    normalizeExpression (q :: inside ++ [q]) = substituted (q :: inside ++ [q]) := by
  have hends (t : Text) : Text.strip (q :: t ++ [q]) = q :: t ++ [q] := by
    refine Text.strip_eq_self (by simpa using hq.2) ?_
    rw [List.getLast?_concat]
    simpa using hq.2
  have hsub : substituted (q :: inside ++ [q]) = q :: substituted inside ++ [q] := by
    have h := substituted_append hq [] (inside ++ [q])
    rw [List.nil_append, substituted_append hq inside []] at h
    exact h
  rw [normalizeExpression_eq, hends, hsub, hends]

omit [PyRuntime] in
theorem unified_ne_ltgt (token : Token) (g : Text → Text) :
    (token.mapString g).unified ≠ .op .ltgt := by
  cases token with
  | op symbol => cases symbol <;> simp [Token.mapString, Token.unified]
  | _ => simp [Token.mapString, Token.unified]

theorem tokenize_substituted (ht : tokenizeExpression t = .ok tokens) :
    tokenizeExpression (substituted t) =
      .ok (tokens.map fun token => (token.mapString substituted).unified) := by
  have hinequality := retokenizes_inequality.tokenize_sub ht (by simp)
  have hcomparison := retokenizes_comparison.tokenize_sub hinequality
    fun token htoken => by
      obtain ⟨token', -, rfl⟩ := List.mem_map.mp htoken
      exact unified_ne_ltgt token' _
  have hand := (retokenizes_logicalWord (k := .and) (.inl rfl)).tokenize_sub hcomparison (by simp)
  have hor := (retokenizes_logicalWord (k := .or) (.inr (.inl rfl))).tokenize_sub hand (by simp)
  have hnot := (retokenizes_logicalWord (k := .not) (.inr (.inr rfl))).tokenize_sub hor (by simp)
  have hspaces := retokenizes_spaces.tokenize_sub hnot (by simp)
  refine hspaces.trans ?_
  simp only [List.map_map, Except.ok.injEq]
  refine List.map_congr_left fun token _ => ?_
  cases token with
  | string s => rfl
  | op symbol => cases symbol <;> rfl
  | _ => rfl

/-- The string tokens of a text are quoted literals. -/
theorem quoted_of_mem (ht : tokenizeExpression t = .ok tokens) {s : Text}
    (hs : Token.string s ∈ tokens) :
    ∃ q inside, Inert q ∧ s = q :: inside ++ [q] := by
  induction hlen : t.length using Nat.strong_induction_on generalizing t tokens with
  | _ n ih =>
    cases t with
    | nil =>
      rw [tokenizeExpression_nil] at ht
      cases ht
      cases hs
    | cons c cs =>
      cases hnext : next (c :: cs) with
      | none =>
        rw [tokenizeExpression_of_next_none (by simp) hnext] at ht
        cases ht
      | some found =>
        obtain ⟨token, rest⟩ := found
        have hshort : rest.length < n := hlen ▸ next_length hnext
        cases token with
        | none =>
          obtain ⟨more, hmore, rfl⟩ := (Lexes.of_next_none hnext).tokenize ht
          exact ih rest.length hshort hmore hs rfl
        | some token =>
          obtain ⟨more, hmore, rfl⟩ := (Lexes.of_next hnext).tokenize ht
          rcases List.mem_cons.mp hs with rfl | hs
          · obtain ⟨q, inside, hq, -, hs, -, -⟩ := string_follows hnext hmore
            exact ⟨q, inside, hq, hs⟩
          · exact ih rest.length hshort hmore hs rfl

end Normalize

variable [PyRuntime]

theorem tokenize_normalizeExpression {t : Text} {tokens : List Token}
    (ht : tokenizeExpression t = .ok tokens) : tokenizeExpression (normalizeExpression t) =
      .ok (tokens.map fun token => (token.mapString normalizeExpression).unified) := by
  have hstrip := Normalize.tokenize_strip ht
  refine (Normalize.tokenize_strip (Normalize.tokenize_substituted hstrip)).trans ?_
  congr 1
  refine List.map_congr_left fun token htoken => ?_
  cases token with
  | string s =>
    obtain ⟨q, inside, hq, rfl⟩ := Normalize.quoted_of_mem hstrip htoken
    rw [Token.mapString, Token.mapString, Normalize.normalizeExpression_quoted hq]
  | _ => rfl

end DqMadeEasy
