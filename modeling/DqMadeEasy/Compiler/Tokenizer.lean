import DqMadeEasy.Compiler.Syntax

/-!
# Tokenizer

One alternative of the token pattern per function, tried in the order of the pattern:
white space, punctuation, the cast mark, operators, the two quoted strings, numbers, arithmetic
signs, identifiers. White space yields no token. The quoted strings keep the backtracking of
their patterns, so a doubled quote closes the literal when no later quote does.

The scanning loop carries fuel. Every token consumes at least one character, so the length of
the text is always enough (`tokenize_ne_outOfFuel`).
-/

namespace DqMadeEasy

/-- Why an expression has no tree: the parser's own message, or exhausted fuel, which the
fuel lemmas exclude. -/
inductive AstParserError where
  | message (text : String)
  | outOfFuel
  deriving DecidableEq, Repr

/-- The error of a position where no alternative of the token pattern matches. -/
def AstParserError.unrecognizedToken (rest : Text) : AstParserError :=
  .message ("Unrecognized token near '" ++ String.ofList (rest.take 16) ++ "'")

namespace Tokenizer

/-- After an opening single quote: the literal up to and including its closing quote, and the
rest. A doubled quote belongs to the literal whenever a closing quote still follows. -/
def singleQuoted : Text → Option (Text × Text)
  | [] => none
  | '\'' :: '\'' :: cs =>
    match singleQuoted cs with
    | some (body, rest) => some ('\'' :: '\'' :: body, rest)
    | none => some (['\''], '\'' :: cs)
  | '\'' :: cs => some (['\''], cs)
  | c :: cs => (singleQuoted cs).map fun (body, rest) => (c :: body, rest)

/-- After an opening double quote, with a backslash before a quote as its escape. -/
def doubleQuoted : Text → Option (Text × Text)
  | [] => none
  | '\\' :: '"' :: cs =>
    match doubleQuoted cs with
    | some (body, rest) => some ('\\' :: '"' :: body, rest)
    | none => some (['\\', '"'], cs)
  | '"' :: cs => some (['"'], cs)
  | c :: cs => (doubleQuoted cs).map fun (body, rest) => (c :: body, rest)

/-- The operator symbol at the head of a text, two-character symbols first. -/
def operator : Text → Option (OpSymbol × Text)
  | '>' :: '=' :: cs => some (.ge, cs)
  | '<' :: '=' :: cs => some (.le, cs)
  | '!' :: '=' :: cs => some (.ne, cs)
  | '<' :: '>' :: cs => some (.ltgt, cs)
  | '!' :: '~' :: cs => some (.notTilde, cs)
  | '=' :: cs => some (.eq, cs)
  | '>' :: cs => some (.gt, cs)
  | '<' :: cs => some (.lt, cs)
  | '~' :: cs => some (.tilde, cs)
  | _ => none

variable [PyRuntime]

/-- The class `\d`. -/
def isDigit (c : Char) : Bool := (PyRuntime.digit c).isSome

/-- `\d+(?:\.\d+)?` at the head of a text. -/
def unsignedNumber (t : Text) : Option (Text × Text) :=
  if (t.takeWhile isDigit).isEmpty then none
  else
    match t.dropWhile isDigit with
    | '.' :: rest =>
      if (rest.takeWhile isDigit).isEmpty then some (t.takeWhile isDigit, '.' :: rest)
      else some (t.takeWhile isDigit ++ '.' :: rest.takeWhile isDigit, rest.dropWhile isDigit)
    | rest => some (t.takeWhile isDigit, rest)

/-- `-?\d+(?:\.\d+)?` at the head of a text. -/
def number : Text → Option (Text × Text)
  | '-' :: cs => (unsignedNumber cs).map fun (digits, rest) => ('-' :: digits, rest)
  | t => unsignedNumber t

/-- `[+\-*/]`. -/
def isArith (c : Char) : Bool := c == '+' || c == '-' || c == '*' || c == '/'

/-- The token of an identifier: a keyword in upper case, or the identifier as written. -/
def identToken (ident : Text) : Token :=
  match Keyword.ofIdent ident with
  | some k => .keyword k
  | none => .ident ident

/-- The first match of the token pattern: no token for white space. `none` when no alternative
matches. -/
def next : Text → Option (Option Token × Text)
  | [] => none
  | c :: cs =>
    if isSpace c then some (none, cs.dropWhile isSpace)
    else if c = '(' then some (some .lparen, cs)
    else if c = ')' then some (some .rparen, cs)
    else if c = ',' then some (some .comma, cs)
    else if c = ':' ∧ cs.head? = some ':' then some (some .typecast, cs.tail)
    else if c = '.' then some (some .dot, cs)
    else
      match operator (c :: cs) with
      | some (symbol, rest) => some (some (.op symbol), rest)
      | none =>
        match (if c = '\'' then singleQuoted cs else none) with
        | some (body, rest) => some (some (.string (c :: body)), rest)
        | none =>
          match (if c = '"' then doubleQuoted cs else none) with
          | some (body, rest) => some (some (.string (c :: body)), rest)
          | none =>
            match number (c :: cs) with
            | some (digits, rest) => some (some (.number digits), rest)
            | none =>
              if isArith c then some (some (.arith c), cs)
              else if Text.isIdentStart c then
                some (some (identToken (c :: cs.takeWhile Text.isIdentRest)),
                  cs.dropWhile Text.isIdentRest)
              else none

/-- The scanning loop. -/
def run : Nat → Text → Except AstParserError (List Token)
  | 0, t => if t.isEmpty then .ok [] else .error .outOfFuel
  | fuel + 1, t =>
    if t.isEmpty then .ok []
    else
      match next t with
      | none => .error (.unrecognizedToken t)
      | some (token, rest) => (run fuel rest).map (token.toList ++ ·)

end Tokenizer

def tokenizeExpression [PyRuntime] (expression : Text) : Except AstParserError (List Token) :=
  Tokenizer.run expression.length expression

namespace Tokenizer

theorem singleQuoted_length : ∀ {t body rest : Text},
    singleQuoted t = some (body, rest) → rest.length < t.length := by
  intro t
  induction t using singleQuoted.induct with
  | case1 => simp [singleQuoted]
  | case2 cs body rest h ih =>
    intro b r hq
    simp only [singleQuoted, h, Option.some.injEq, Prod.mk.injEq] at hq
    have := ih h
    simp only [← hq.2, List.length_cons]
    omega
  | case3 cs h ih =>
    intro b r hq
    simp only [singleQuoted, h, Option.some.injEq, Prod.mk.injEq] at hq
    simp [← hq.2]
  | case4 cs hne =>
    intro b r hq
    rw [singleQuoted] at hq
    · simp only [Option.some.injEq, Prod.mk.injEq] at hq
      simp [← hq.2]
    · exact hne
  | case5 c cs h₁ h₂ ih =>
    intro b r hq
    rw [singleQuoted] at hq
    · obtain ⟨⟨body, rest⟩, hbody, heq⟩ := Option.map_eq_some_iff.mp hq
      simp only [Prod.mk.injEq] at heq
      have := ih hbody
      simp only [← heq.2, List.length_cons]
      omega
    · exact h₁
    · exact h₂

theorem doubleQuoted_length : ∀ {t body rest : Text},
    doubleQuoted t = some (body, rest) → rest.length < t.length := by
  intro t
  induction t using doubleQuoted.induct with
  | case1 => simp [doubleQuoted]
  | case2 cs body rest h ih =>
    intro b r hq
    simp only [doubleQuoted, h, Option.some.injEq, Prod.mk.injEq] at hq
    have := ih h
    simp only [← hq.2, List.length_cons]
    omega
  | case3 cs h ih =>
    intro b r hq
    simp only [doubleQuoted, h, Option.some.injEq, Prod.mk.injEq] at hq
    simp only [← hq.2, List.length_cons]
    omega
  | case4 cs =>
    intro b r hq
    simp only [doubleQuoted, Option.some.injEq, Prod.mk.injEq] at hq
    simp [← hq.2]
  | case5 c cs h₁ h₂ ih =>
    intro b r hq
    rw [doubleQuoted] at hq
    · obtain ⟨⟨body, rest⟩, hbody, heq⟩ := Option.map_eq_some_iff.mp hq
      simp only [Prod.mk.injEq] at heq
      have := ih hbody
      simp only [← heq.2, List.length_cons]
      omega
    · exact h₁
    · exact h₂

theorem operator_length {t rest : Text} {symbol : OpSymbol}
    (h : operator t = some (symbol, rest)) : rest.length < t.length := by
  unfold operator at h
  split at h <;> cases h <;> simp only [List.length_cons] <;> omega

section Fuel

variable [PyRuntime]

theorem unsignedNumber_length {t digits rest : Text}
    (h : unsignedNumber t = some (digits, rest)) : rest.length < t.length := by
  have hsplit := congrArg List.length (List.takeWhile_append_dropWhile (p := isDigit) (l := t))
  rw [List.length_append] at hsplit
  unfold unsignedNumber at h
  split at h
  · cases h
  · rename_i hwhole
    have hpos : 0 < (t.takeWhile isDigit).length :=
      List.length_pos_iff.mpr (by simpa using hwhole)
    split at h
    · rename_i fraction hrest
      have hfraction : (fraction.dropWhile isDigit).length ≤ fraction.length :=
        (List.dropWhile_sublist isDigit).length_le
      rw [hrest, List.length_cons] at hsplit
      split at h <;> cases h
      · simp only [List.length_cons]; omega
      · omega
    · cases h
      omega

theorem number_length {t digits rest : Text} (h : number t = some (digits, rest)) :
    rest.length < t.length := by
  unfold number at h
  split at h
  · obtain ⟨⟨body, rest'⟩, hbody, heq⟩ := Option.map_eq_some_iff.mp h
    simp only [Prod.mk.injEq] at heq
    have := unsignedNumber_length hbody
    rw [← heq.2, List.length_cons]
    omega
  · exact unsignedNumber_length h

/-- Every match consumes a character. -/
theorem next_length {t rest : Text} {token : Option Token} (h : next t = some (token, rest)) :
    rest.length < t.length := by
  cases t with
  | nil => cases h
  | cons c cs =>
    have hdrop (p : Char → Bool) : (cs.dropWhile p).length < (c :: cs).length :=
      Nat.lt_succ_of_le (List.dropWhile_sublist p).length_le
    rw [next] at h
    split at h
    · cases h; exact hdrop _
    split at h
    · cases h; simp
    split at h
    · cases h; simp
    split at h
    · cases h; simp
    split at h
    · cases h; simp only [List.length_tail, List.length_cons]; omega
    split at h
    · cases h; simp
    split at h
    · rename_i hop
      cases h; exact operator_length hop
    split at h
    · rename_i hq
      cases h
      split at hq
      · exact Nat.lt_succ_of_lt (singleQuoted_length hq)
      · cases hq
    split at h
    · rename_i hq
      cases h
      split at hq
      · exact Nat.lt_succ_of_lt (doubleQuoted_length hq)
      · cases hq
    split at h
    · rename_i hn
      cases h; exact number_length hn
    split at h
    · cases h; simp
    split at h
    · cases h; exact hdrop _
    · cases h

@[simp] theorem run_nil (fuel : Nat) : run fuel [] = .ok [] := by
  cases fuel <;> rfl

theorem run_of_next {fuel : Nat} {t rest : Text} {token : Option Token}
    (h : next t = some (token, rest)) :
    run (fuel + 1) t = (run fuel rest).map (token.toList ++ ·) := by
  cases t with
  | nil => cases h
  | cons c cs => simp only [run, h, List.isEmpty_cons, Bool.false_eq_true, if_false]

theorem run_of_next_none {fuel : Nat} {t : Text} (hne : t ≠ []) (h : next t = none) :
    run (fuel + 1) t = .error (.unrecognizedToken t) := by
  cases t with
  | nil => contradiction
  | cons c cs => simp only [run, h, List.isEmpty_cons, Bool.false_eq_true, if_false]

/-- The result does not depend on the fuel once it reaches the length of the text. -/
theorem run_eq_of_le : ∀ {fuel fuel' : Nat} {t : Text},
    t.length ≤ fuel → t.length ≤ fuel' → run fuel t = run fuel' t := by
  intro fuel
  induction fuel with
  | zero =>
    intro fuel' t h _
    obtain rfl : t = [] := List.length_eq_zero_iff.mp (by omega)
    simp
  | succ fuel ih =>
    intro fuel' t h h'
    by_cases ht : t = []
    · simp [ht]
    · have hpos := List.length_pos_iff.mpr ht
      obtain ⟨fuel', rfl⟩ : ∃ k, fuel' = k + 1 := ⟨fuel' - 1, by omega⟩
      cases hnext : next t with
      | none => rw [run_of_next_none ht hnext, run_of_next_none ht hnext]
      | some found =>
        obtain ⟨token, rest⟩ := found
        have hlen := next_length hnext
        rw [run_of_next hnext, run_of_next hnext,
          @ih fuel' rest (by omega) (by omega)]

theorem run_ne_outOfFuel : ∀ {fuel : Nat} {t : Text},
    t.length ≤ fuel → run fuel t ≠ .error .outOfFuel := by
  intro fuel
  induction fuel with
  | zero =>
    intro t h
    obtain rfl : t = [] := List.length_eq_zero_iff.mp (by omega)
    simp
  | succ fuel ih =>
    intro t h
    by_cases ht : t = []
    · simp [ht]
    · cases hnext : next t with
      | none =>
        rw [run_of_next_none ht hnext]
        simp [AstParserError.unrecognizedToken]
      | some found =>
        obtain ⟨token, rest⟩ := found
        have hlen := next_length hnext
        have hrest := ih (t := rest) (by omega)
        rw [run_of_next hnext]
        cases hrun : run fuel rest with
        | ok tokens => simp [Except.map]
        | error error => simpa [hrun, Except.map] using hrest

end Fuel

end Tokenizer

section

variable [PyRuntime]

theorem tokenize_ne_outOfFuel (t : Text) : tokenizeExpression t ≠ .error .outOfFuel :=
  Tokenizer.run_ne_outOfFuel (Nat.le_refl _)

@[simp] theorem tokenizeExpression_nil : tokenizeExpression [] = .ok [] := rfl

theorem tokenizeExpression_of_next {t rest : Text} {token : Option Token}
    (h : Tokenizer.next t = some (token, rest)) :
    tokenizeExpression t = (tokenizeExpression rest).map (token.toList ++ ·) := by
  have hlen := Tokenizer.next_length h
  have hfuel : tokenizeExpression t = Tokenizer.run (t.length - 1 + 1) t := by
    rw [Nat.sub_add_cancel (by omega)]
    rfl
  rw [hfuel, Tokenizer.run_of_next h, tokenizeExpression,
    Tokenizer.run_eq_of_le (by omega) (Nat.le_refl rest.length)]

end

end DqMadeEasy
