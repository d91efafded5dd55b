import DqMadeEasy.Compiler.Compile
import DqMadeEasy.Compiler.Normalized

/-!
# Parentheses of the validator and of the tokenizer

The validator counts parentheses with a scan of its own. Where no quoted literal contains its own
quote, or is followed by it at once, the scan leaves every literal where the tokenizer does, and
its count is that of the parenthesis tokens.
-/

namespace DqMadeEasy

namespace Validate

open Tokenizer Normalize

/-- The depth after the parenthesis tokens; none after a closing parenthesis too many. -/
def depthAfter (depth : ℤ) : List Token → Option ℤ
  | [] => some depth
  | .lparen :: tokens => depthAfter (depth + 1) tokens
  | .rparen :: tokens => if depth - 1 < 0 then none else depthAfter (depth - 1) tokens
  | _ :: tokens => depthAfter depth tokens

def Balanced (tokens : List Token) : Prop := depthAfter 0 tokens = some 0

instance (tokens : List Token) : Decidable (Balanced tokens) :=
  inferInstanceAs (Decidable (_ = _))

def scanEnd : Option ℤ → ScanEnd
  | none => .unmatchedClosing
  | some depth => .finished .outside depth

/-- A character that the scan outside quotes passes over. -/
def isPassed (c : Char) : Bool := c != '\'' && c != '"' && c != '(' && c != ')'

theorem scanQuotes_outside (depth : ℤ) (c : Char) (cs : Text) :
    scanQuotes .outside depth (c :: cs) =
      if c = '\'' then scanQuotes .single depth cs
      else if c = '"' then scanQuotes .double depth cs
      else if c = '(' then scanQuotes .outside (depth + 1) cs
      else if c = ')' then
        if depth - 1 < 0 then .unmatchedClosing else scanQuotes .outside (depth - 1) cs
      else scanQuotes .outside depth cs := rfl

def inside (q : Char) : Quote := if q = '\'' then .single else .double

theorem scanQuotes_inside {q : Char} (hq : q = '\'' ∨ q = '"') (depth : ℤ) (c : Char) (cs : Text) :
    scanQuotes (inside q) depth (c :: cs) =
      if c = q ∧ cs.head? = some q then scanQuotes (inside q) depth cs
      else if c = q then scanQuotes .outside depth cs
      else scanQuotes (inside q) depth cs := by
  rcases hq with rfl | rfl <;> rfl

theorem scanQuotes_passed {u : Text} (hu : ∀ c ∈ u, isPassed c = true) (depth : ℤ) (cs : Text) :
    scanQuotes .outside depth (u ++ cs) = scanQuotes .outside depth cs := by
  induction u with
  | nil => rfl
  | cons c u ih =>
    have hc := hu c List.mem_cons_self
    simp only [isPassed, Bool.and_eq_true, bne_iff_ne] at hc
    obtain ⟨⟨⟨h₁, h₂⟩, h₃⟩, h₄⟩ := hc
    rw [List.cons_append, scanQuotes_outside, if_neg h₁, if_neg h₂, if_neg h₃, if_neg h₄,
      ih fun d hd => hu d (List.mem_cons_of_mem _ hd)]

/-- A literal without its own quote inside is passed over as a whole. -/
theorem scanQuotes_literal {q : Char} (hq : q = '\'' ∨ q = '"') {body : Text} (hbody : q ∉ body)
    {rest : Text} (hrest : rest.head? ≠ some q) (depth : ℤ) :
    scanQuotes .outside depth (q :: body ++ q :: rest) = scanQuotes .outside depth rest := by
  have hopen : scanQuotes .outside depth (q :: body ++ q :: rest) =
      scanQuotes (inside q) depth (body ++ q :: rest) := by
    rcases hq with rfl | rfl <;> rfl
  rw [hopen]
  clear hopen
  induction body with
  | nil =>
    rw [List.nil_append, scanQuotes_inside hq, if_neg fun h => hrest h.2, if_pos rfl]
  | cons c cs ih =>
    obtain ⟨hc, hcs⟩ := not_or.mp (List.mem_cons.not.mp hbody)
    rw [List.cons_append, scanQuotes_inside hq, if_neg fun h => hc h.1.symm, if_neg (Ne.symm hc),
      ih hcs]

/-- White space at the end of a text changes nothing. -/
theorem scanQuotes_append_spaces {u : Text} (hu : ∀ c ∈ u, isSpace c = true) (quote : Quote)
    (depth : ℤ) (t : Text) : scanQuotes quote depth (t ++ u) = scanQuotes quote depth t := by
  induction t generalizing quote depth with
  | nil =>
    rw [List.nil_append]
    induction u with
    | nil => rfl
    | cons c cs ih =>
      have hc := hu c List.mem_cons_self
      have hcs := ih fun d hd => hu d (List.mem_cons_of_mem _ hd)
      have hne (d : Char) (hd : isSpace d = false) : c ≠ d := by
        rintro rfl
        rw [hd] at hc
        cases hc
      have h₁ := hne '\'' (by decide)
      have h₂ := hne '"' (by decide)
      have h₃ := hne '(' (by decide)
      have h₄ := hne ')' (by decide)
      cases quote <;> simpa [scanQuotes, h₁, h₂, h₃, h₄] using hcs
  | cons c cs ih =>
    have hhead (d : Char) (hd : isSpace d = false) :
        (cs ++ u).head? = some d ↔ cs.head? = some d := by
      cases cs with
      | nil =>
        cases u with
        | nil => rfl
        | cons e es =>
          have he := hu e List.mem_cons_self
          simp only [List.nil_append, List.head?_cons, Option.some.injEq, List.head?_nil,
            reduceCtorEq, iff_false]
          rintro rfl
          rw [hd] at he
          cases he
      | cons d ds => rfl
    have h₁ := hhead '\'' (by decide)
    have h₂ := hhead '"' (by decide)
    cases quote <;> simp only [List.cons_append, scanQuotes, h₁, h₂, ih]

theorem scanQuotes_lstrip (depth : ℤ) (t : Text) :
    scanQuotes .outside depth t.lstrip = scanQuotes .outside depth t := by
  have hcut : t.takeWhile isSpace ++ t.dropWhile isSpace = t := List.takeWhile_append_dropWhile
  conv_rhs => rw [← hcut]
  rw [scanQuotes_passed, Text.lstrip]
  intro c hc
  have hspace := List.mem_takeWhile_imp hc
  have hne (d : Char) (hd : isSpace d = false) : c ≠ d := by
    rintro rfl
    rw [hd] at hspace
    cases hspace
  simp [isPassed, hne '\'' (by decide), hne '"' (by decide), hne '(' (by decide),
    hne ')' (by decide)]

theorem scanQuotes_strip (depth : ℤ) (t : Text) :
    scanQuotes .outside depth t.strip = scanQuotes .outside depth t := by
  have hcut : t.lstrip.rdropWhile isSpace ++ t.lstrip.rtakeWhile isSpace = t.lstrip :=
    List.rdropWhile_append_rtakeWhile
  rw [← scanQuotes_lstrip depth t, Text.strip, ← Text.lstrip]
  conv_rhs => rw [← hcut]
  rw [scanQuotes_append_spaces fun c hc => List.mem_rtakeWhile_imp hc]

/-! ### Lexemes -/

section Lexemes

variable [PyRuntime]

/-- The scanning loop of the tokenizer on a text reads a token and goes on behind it. -/
inductive Reads : Text → Token → Text → Prop
  | here {t rest : Text} {token : Token} (h : next t = some (some token, rest)) :
    Reads t token rest
  | later {t rest rest' : Text} {read : Option Token} {token : Token}
    (h : next t = some (read, rest)) (hrest : Reads rest token rest') : Reads t token rest'

/-- No quoted literal contains its own quote, be it doubled or escaped, and none is followed by
it at once. -/
def Unescaped (t : Text) : Prop :=
  ∀ s rest, Reads t (.string s) rest → ∀ q ∈ s.head?, q ∉ s.inner ∧ rest.head? ≠ some q

variable {t : Text}

theorem Unescaped.rest {rest : Text} {read : Option Token} (h : Unescaped t)
    (hnext : next t = some (read, rest)) : Unescaped rest :=
  fun s rest' hreads => h s rest' (.later hnext hreads)

theorem next_unclosedDouble {cs : Text} (h : doubleQuoted cs = none) : next ('"' :: cs) = none := by
  have hdigit : isDigit '"' = false := by
    simp [isDigit, PyRuntime.digit_ascii '"' (by decide)]
  have hnumber : number ('"' :: cs) = none := by
    simp [number, unsignedNumber, hdigit]
  rw [next, h, hnumber]
  rfl

theorem lstrip_of_next {rest : Text} (h : next t = some (none, rest)) : rest = t.lstrip := by
  cases t with
  | nil => cases h
  | cons c cs =>
    have hc := isSpace_of_next h
    rw [next, if_pos hc] at h
    cases h
    rw [Text.lstrip, List.dropWhile_cons, if_pos hc]

theorem literal_of_next {rest s : Text} (h : next t = some (some (.string s), rest)) :
    ∃ q body, (q = '\'' ∨ q = '"') ∧ s = q :: body ++ [q] ∧ t = s ++ rest := by
  obtain ⟨cs, body, rfl, rfl, hq⟩ | ⟨cs, body, rfl, rfl, hq⟩ := string_of_next h
  · obtain ⟨body, rfl, -⟩ := singleQuoted_shape hq
    exact ⟨'\'', body, .inl rfl, rfl, by rw [(singleBody_of_singleQuoted hq).1]; rfl⟩
  · obtain ⟨body, rfl⟩ := doubleQuoted_shape hq
    exact ⟨'"', body, .inr rfl, rfl, by rw [(doubleBody_of_doubleQuoted hq).1]; rfl⟩

/-- A token that is neither a literal nor a parenthesis contains no quote and no parenthesis. -/
theorem passed_of_next {rest : Text} {token : Token} (h : next t = some (some token, rest))
    (hstring : ∀ s, token ≠ .string s) (hopen : token ≠ .lparen) (hclose : token ≠ .rparen) :
    ∃ lexeme, t = lexeme ++ rest ∧ ∀ c ∈ lexeme, isPassed c = true := by
  obtain ⟨c, body, rfl, -, hinside, -⟩ := next_follows h hstring
  refine ⟨c :: body, rfl, fun d hd => ?_⟩
  rcases List.mem_cons.mp hd with rfl | hd
  · have h₁ : d ≠ '\'' := by
      rintro rfl
      cases hq : singleQuoted (body ++ rest) with
      | none => rw [List.cons_append, next_unclosed hq] at h; cases h
      | some found =>
        obtain ⟨literal, rest'⟩ := found
        rw [List.cons_append, next_singleQuoted hq] at h
        cases h
        exact hstring _ rfl
    have h₂ : d ≠ '"' := by
      rintro rfl
      cases hq : doubleQuoted (body ++ rest) with
      | none => rw [List.cons_append, next_unclosedDouble hq] at h; cases h
      | some found =>
        obtain ⟨literal, rest'⟩ := found
        rw [List.cons_append, next_doubleQuoted hq] at h
        cases h
        exact hstring _ rfl
    have h₃ : d ≠ '(' := by
      rintro rfl
      have hparen : next ('(' :: (body ++ rest)) = some (some .lparen, body ++ rest) := rfl
      rw [List.cons_append, hparen, Option.some.injEq, Prod.mk.injEq, Option.some.injEq] at h
      exact hopen h.1.symm
    have h₄ : d ≠ ')' := by
      rintro rfl
      have hparen : next (')' :: (body ++ rest)) = some (some .rparen, body ++ rest) := rfl
      rw [List.cons_append, hparen, Option.some.injEq, Prod.mk.injEq, Option.some.injEq] at h
      exact hclose h.1.symm
    simp [isPassed, h₁, h₂, h₃, h₄]
  · cases hinside with
    | single => cases hd
    | typecast =>
      obtain rfl : d = ':' := by simpa using hd
      decide
    | operator htext =>
      rw [List.mem_singleton] at hd
      obtain ⟨-, -, rfl⟩ | ⟨-, -, rfl⟩ | ⟨-, -, rfl⟩ | ⟨-, -, rfl⟩ | ⟨-, -, rfl⟩ :=
        text_pair htext <;> rw [hd] <;> decide
    | number _ hbody =>
      have hrest := hbody d hd
      rw [isNumberRest, Bool.or_eq_true, beq_iff_eq] at hrest
      rcases hrest with hdigit | rfl
      · simp [isPassed, ne_of_isDigit (d := '\'') hdigit (by decide) (by decide),
          ne_of_isDigit (d := '"') hdigit (by decide) (by decide),
          ne_of_isDigit (d := '(') hdigit (by decide) (by decide),
          ne_of_isDigit (d := ')') hdigit (by decide) (by decide)]
      · decide
    | ident hident =>
      rw [Text.isIdent, Bool.and_eq_true, List.all_eq_true] at hident
      have hrest := hident.2 d hd
      have hne (e : Char) (he : Text.isIdentRest e = false) : d ≠ e := by
        rintro rfl
        rw [he] at hrest
        cases hrest
      simp [isPassed, hne '\'' (by decide), hne '"' (by decide), hne '(' (by decide),
        hne ')' (by decide)]

theorem lparen_of_next {rest : Text} (h : next t = some (some .lparen, rest)) :
    t = '(' :: rest := by
  cases t with
  | nil => cases h
  | cons c cs =>
    rw [next] at h
    split at h
    · cases h
    split at h
    · rename_i hc
      cases h
      rw [hc]
    iterate 9
      split at h
      · cases h
    split at h
    · rw [identToken] at h
      split at h <;> cases h
    · cases h

theorem rparen_of_next {rest : Text} (h : next t = some (some .rparen, rest)) :
    t = ')' :: rest := by
  cases t with
  | nil => cases h
  | cons c cs =>
    rw [next] at h
    iterate 2
      split at h
      · cases h
    split at h
    · rename_i hc
      cases h
      rw [hc]
    iterate 8
      split at h
      · cases h
    split at h
    · rw [identToken] at h
      split at h <;> cases h
    · cases h

/-- The scan of the validator counts the parenthesis tokens. -/
theorem scanQuotes_tokens {tokens : List Token} (ht : tokenizeExpression t = .ok tokens)
    (hquotes : Unescaped t) (depth : ℤ) :
    scanQuotes .outside depth t = scanEnd (depthAfter depth tokens) := by
  induction hlen : t.length using Nat.strong_induction_on generalizing t tokens depth with
  | _ n ih =>
    cases hnext : next t with
    | none =>
      cases t with
      | nil =>
        rw [tokenizeExpression_nil] at ht
        cases ht
        rfl
      | cons c cs =>
        rw [tokenizeExpression_of_next_none (by simp) hnext] at ht
        cases ht
    | some found =>
      obtain ⟨read, rest⟩ := found
      have hshort : rest.length < n := hlen ▸ next_length hnext
      have hrest := hquotes.rest hnext
      cases read with
      | none =>
        obtain ⟨more, hmore, rfl⟩ := (Lexes.of_next_none hnext).tokenize ht
        rw [← scanQuotes_lstrip, ← lstrip_of_next hnext]
        exact ih rest.length hshort hmore hrest depth rfl
      | some token =>
        obtain ⟨more, hmore, rfl⟩ := (Lexes.of_next hnext).tokenize ht
        have hdepth (depth : ℤ) := ih rest.length hshort hmore hrest depth rfl
        rw [List.singleton_append]
        by_cases hstring : ∃ s, token = .string s
        · obtain ⟨s, rfl⟩ := hstring
          have hplain := hquotes s rest (.here hnext)
          obtain ⟨q, body, hq, rfl, rfl⟩ := literal_of_next hnext
          obtain ⟨hbody, hafter⟩ := hplain q rfl
          rw [List.cons_append, Text.inner_wrap] at hbody
          rw [List.append_assoc, List.singleton_append, scanQuotes_literal hq hbody hafter, hdepth]
          rfl
        · have hstring : ∀ s, token ≠ .string s := fun s hs => hstring ⟨s, hs⟩
          by_cases hopen : token = .lparen
          · subst hopen
            rw [lparen_of_next hnext, scanQuotes_outside, if_neg (by decide), if_neg (by decide),
              if_pos rfl, hdepth]
            rfl
          · by_cases hclose : token = .rparen
            · subst hclose
              rw [rparen_of_next hnext, scanQuotes_outside, if_neg (by decide), if_neg (by decide),
                if_neg (by decide), if_pos rfl, hdepth, depthAfter]
              split <;> rfl
            · obtain ⟨lexeme, rfl, hlexeme⟩ := passed_of_next hnext hstring hopen hclose
              rw [scanQuotes_passed hlexeme, hdepth]
              cases token <;> first | rfl | contradiction

end Lexemes

/-! ### The verdict -/

def scanErrors : List String :=
  ["Unbalanced parentheses: found a closing parenthesis without matching opening parenthesis",
    "Unclosed single quote in filter expression", "Unclosed double quote in filter expression",
    "Unbalanced parentheses in filter expression"]

/-- The marks that the validator refuses before it looks at quotes and parentheses. -/
def hasRefusedMark (expression : Text) : Bool :=
  decide (';' ∈ expression) || occurs "--" expression || occurs "/*" expression ||
    occurs "*/" expression

variable [PyRuntime]

/-- The validator reports unbalanced parentheses or an unterminated quote. -/
def ReportsScan (t : Text) : Prop := ∃ error ∈ scanErrors, validateFilterExpression t = some error

theorem connectiveError_not_mem (upper : Text) :
    ∀ error, connectiveError upper = some error → error ∉ scanErrors := by
  intro error h
  unfold connectiveError at h
  split at h
  · cases h; decide
  split at h
  · cases h; decide
  split at h
  · cases h; decide
  · cases h

/-- Which errors the validator reports, by the end of its scan. -/
theorem reportsScan_iff_scan (t : Text) : ReportsScan t ↔
    hasRefusedMark t.strip = false ∧
      scanQuotes .outside 0 t.strip ≠ .finished .outside 0 := by
  have hnone (error : String) (h : error ∉ scanErrors) :
      ¬∃ e ∈ scanErrors, some error = some e := by
    rintro ⟨e, he, heq⟩
    cases heq
    exact h he
  rw [ReportsScan, validateFilterExpression]
  by_cases hempty : t.strip = []
  · simp only [hempty, if_true]
    constructor
    · rintro ⟨e, he, heq⟩
      exact absurd ⟨e, he, heq⟩ (hnone _ (by decide))
    · rintro ⟨-, h⟩
      exact absurd rfl h
  by_cases hsemicolon : ';' ∈ t.strip
  · simp only [hempty, hsemicolon, if_true, if_false, hasRefusedMark, decide_true, Bool.true_or,
      Bool.true_eq_false, false_and, iff_false]
    exact hnone _ (by decide)
  by_cases hcomment : (occurs "--" t.strip || occurs "/*" t.strip ||
      occurs "*/" t.strip) = true
  · have hmark : hasRefusedMark t.strip = true := by
      rw [hasRefusedMark, Bool.or_assoc, Bool.or_assoc, ← Bool.or_assoc (occurs _ _), hcomment,
        Bool.or_true]
    simp only [hempty, hsemicolon, hcomment, hmark, if_true, if_false, Bool.true_eq_false,
      false_and, iff_false]
    exact hnone _ (by decide)
  · have hmark : hasRefusedMark t.strip = false := by
      rw [hasRefusedMark, Bool.or_assoc, Bool.or_assoc, ← Bool.or_assoc (occurs _ _)]
      simpa [hsemicolon] using hcomment
    simp only [hempty, hsemicolon, hcomment, hmark, if_false, true_and]
    cases hscan : scanQuotes .outside 0 t.strip with
    | unmatchedClosing => exact ⟨fun _ => by simp, fun _ => ⟨_, by simp [scanErrors], rfl⟩⟩
    | finished quote depth =>
      cases quote with
      | single => exact ⟨fun _ => by simp, fun _ => ⟨_, by simp [scanErrors], rfl⟩⟩
      | double => exact ⟨fun _ => by simp, fun _ => ⟨_, by simp [scanErrors], rfl⟩⟩
      | outside =>
        by_cases hdepth : depth = 0
        · subst hdepth
          refine ⟨?_, fun h => absurd rfl h⟩
          rintro ⟨e, he, heq⟩
          exact absurd he (connectiveError_not_mem _ e (by simpa using heq))
        · refine ⟨fun _ => by simpa using hdepth, fun _ => ?_⟩
          exact ⟨"Unbalanced parentheses in filter expression", by simp [scanErrors],
            by simp [hdepth]⟩

/-- The verdict on quotes and parentheses is that of the parenthesis tokens. -/
def AgreesOnParentheses (t : Text) : Prop :=
  ∀ tokens, tokenizeExpression t = .ok tokens → (ReportsScan t ↔ ¬Balanced tokens)

end Validate

section Example

open Validate

local instance sampleRuntimeBalance : PyRuntime := .ascii (fun _ => .nan) (fun _ => [])

end Example

end DqMadeEasy
