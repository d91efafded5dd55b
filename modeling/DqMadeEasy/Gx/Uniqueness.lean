import DqMadeEasy.Compiler.Lexing
import DqMadeEasy.Gx.Translation
import DqMadeEasy.Logic.Fallible

/-!
# Uniqueness windows

The translation recognises the window text of a uniqueness rule before it looks at any
predicate. The text is not in the expression grammar: the call `COUNT(*)` is read as a field,
and the identifier after it is no operator. A filter that has a tree is therefore never taken
for a uniqueness rule.
-/

namespace DqMadeEasy

namespace Parser

theorem parseOr_of_predicate_error (fuel : ℕ) {ts : List Token} {error : AstParserError}
    (hnot : ∀ ts', ts ≠ .keyword .not :: ts') (hparen : ∀ ts', ts ≠ .lparen :: ts')
    (h : parsePredicate ts = .error error) : parseOr (fuel + 4) ts = .error error := by
  have hfactor : parseFactor (fuel + 1) ts = .error error := by
    rw [parseFactor]
    · rw [h]; rfl
    · exact hparen
  have hparseNot : parseNot (fuel + 2) ts = .error error := by
    rw [parseNot, hfactor]
    exact hnot
  rw [parseOr_succ, parseAnd_succ, hparseNot]
  rfl

end Parser

namespace Gx

variable [PyRuntime]

theorem lexes_of_skipSpaces {t rest : Text} (h : skipSpaces t = some rest) :
    Lexes t [] rest ∧ ∀ c ∈ t.head?, isSpace c = true := by
  cases t with
  | nil => cases h
  | cons c cs =>
    simp only [skipSpaces] at h
    split at h
    · rename_i hc
      cases h
      have hstrip := Lexes.lstrip (c :: cs)
      simp only [Text.lstrip, List.dropWhile_cons, hc, if_true] at hstrip
      exact ⟨hstrip, by simpa using hc⟩
    · cases h

omit [PyRuntime] in
theorem identToken_of_upper {ident word : Text} (h : ident.map Char.toUpper = word)
    (hword : ∀ k ∈ Keyword.all, word ≠ k.text) : Tokenizer.identToken ident = .ident ident := by
  have hnone : Keyword.ofIdent ident = none := by
    rw [Keyword.ofIdent, List.find?_eq_none]
    intro k hk
    simpa [h] using hword k hk
  rw [Tokenizer.identToken, hnone]

omit [PyRuntime] in
theorem isIdentRest_of_isSpace {c : Char} (h : isSpace c = true) : Text.isIdentRest c = false := by
  by_contra hne
  have hrange := isIdentRest_toNat (by simpa using hne)
  rw [isSpace_eq_false_of_range (by omega) (by omega)] at h
  cases h

/-- How a uniqueness window starts, in tokens. -/
theorem lexes_uniqueness {t rest : Text} (h : uniquenessPrefix t = some rest) :
    ∃ count window rest', Lexes t [.ident count, .lparen, .arith '*', .rparen, .ident window] rest' := by
  simp only [uniquenessPrefix, Option.bind_eq_bind, Option.bind_eq_some_iff] at h
  obtain ⟨t₁, h₁, t₂, h₂, t₃, h₃, t₄, h₄, -⟩ := h
  have hcount : "COUNT(*)".toList = "COUNT".toList ++ "(*)".toList := rfl
  rw [hcount, Text.dropWord_append, Option.bind_eq_some_iff] at h₁
  obtain ⟨t₀, h₀, h₁⟩ := h₁
  obtain ⟨count, rfl, hcount, halpha⟩ := Text.letters_of_dropWord (by decide) h₀
  obtain rfl := Text.punct_of_dropWord (by decide) h₁
  obtain ⟨window, rfl, hwindow, hwindow'⟩ := Text.letters_of_dropWord (by decide) h₃
  obtain ⟨hspaces, -⟩ := lexes_of_skipSpaces h₂
  have hcountIdent : count.isIdent = true :=
    Text.isIdent_of_alpha (by rintro rfl; simp at hcount) halpha
  have hwindowIdent : window.isIdent = true :=
    Text.isIdent_of_alpha (by rintro rfl; simp at hwindow) hwindow'
  have hend : ∀ d ∈ t₃.head?, Text.isIdentRest d = false := by
    intro d hd
    cases t₃ with
    | nil => cases hd
    | cons c cs =>
      obtain rfl : c = d := by simpa using hd
      by_cases hc : isSpace c = true
      · exact isIdentRest_of_isSpace hc
      · have hstrip : Text.lstrip (c :: cs) = c :: cs := by simp [Text.lstrip, hc]
        rw [hstrip] at h₄
        have hparen := Text.punct_of_dropWord (by decide) h₄
        rw [(List.cons.inj hparen).1]
        decide
  have hparen : ∀ d ∈ ("(*)".toList ++ t₁).head?, Text.isIdentRest d = false := by
    intro d hd
    obtain rfl : '(' = d := by simpa using hd
    decide
  have hfirst := Lexes.ident hcountIdent hparen
  rw [identToken_of_upper hcount (by decide)] at hfirst
  have hlast := Lexes.ident hwindowIdent hend
  rw [identToken_of_upper hwindow (by decide)] at hlast
  exact ⟨count, window, t₃, ((((hfirst.trans (Lexes.lparen _)).trans (Lexes.star _)).trans
    (Lexes.rparen _)).trans hspaces).trans hlast⟩

omit [PyRuntime] in
theorem parsePredicate_of_uniqueness (count window : Text) (more : List Token) :
    ∃ error, Parser.parsePredicate
      (.ident count :: .lparen :: .arith '*' :: .rparen :: .ident window :: more) = .error error := by
  have hfield : Parser.parseFieldReference
      (.ident count :: .lparen :: .arith '*' :: .rparen :: .ident window :: more) =
      .ok (count ++ "(*)", .ident window :: more) := by
    simp [Parser.parseFieldReference, Parser.parseSegments, Parser.parseCasts, Parser.parseCalls,
      Parser.depthAfter, Token.text]
  refine ⟨.message ("Unsupported predicate operator '" ++ String.ofList window ++ "'"), ?_⟩
  rw [Parser.parsePredicate, hfield]
  rfl

/-- The window text of a uniqueness rule is not in the grammar. -/
theorem parse_of_uniqueness {t : Text} (hstrip : t.strip = t)
    (h : (parseUniquenessColumns t).isSome = true) (ast : Ast) : parseExpression t ≠ .ok ast := by
  intro hparse
  obtain ⟨rest, hprefix⟩ : ∃ rest, uniquenessPrefix t = some rest := by
    rw [parseUniquenessColumns, hstrip] at h
    cases hp : uniquenessPrefix t with
    | none => simp [hp] at h
    | some rest => exact ⟨rest, rfl⟩
  obtain ⟨count, window, rest', hlex⟩ := lexes_uniqueness hprefix
  obtain ⟨tokens, htokens, hparse⟩ := ok_of_bind hparse
  obtain ⟨more, -, rfl⟩ := hlex.tokenize htokens
  obtain ⟨error, herror⟩ := parsePredicate_of_uniqueness count window more
  have hor := Parser.parseOr_of_predicate_error
    (4 * (more.length + 5)) (by simp) (by simp) herror
  rw [Parser.parseTokens] at hparse
  simp only [List.cons_append, List.nil_append, List.length_cons] at hparse
  rw [hor] at hparse
  cases hparse

end Gx

end DqMadeEasy
