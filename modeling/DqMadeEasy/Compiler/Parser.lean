import DqMadeEasy.Compiler.Tokenizer

/-!
# Expression parser

The recursive-descent grammar of the rule compiler: `OR` over `AND` over prefix `NOT` over
parenthesised expressions and predicates. Both binary connectives associate to the left. Each
function takes the remaining tokens and returns a node with the tokens after it, so the parser's
cursor is explicit.

A predicate starts with a field reference, which may be dotted, cast, or a function call whose
arguments are copied token by token. Operands are literals when they start with one, and
otherwise the source text up to the next connective at depth zero.

Recursion through parentheses carries fuel; `parse_ne_outOfFuel` shows that the fuel of
`parseTokens` is always enough.
-/

namespace DqMadeEasy

namespace Parser

def fail {α : Type} (text : String) : Except AstParserError α := .error (.message text)

/-- The error of `_expect` and of the literal parser: what was wanted and what was found. -/
def expected {α : Type} (want : String) : List Token → Except AstParserError α
  | [] => fail ("Expected '" ++ want ++ "' but reached end of expression")
  | t :: _ => fail ("Expected '" ++ want ++ "' but found '" ++ String.ofList t.text ++ "'")

/-- `_expect` on a token without payload. -/
def expect (want : Token) (name : String) (ts : List Token) : Except AstParserError (List Token) :=
  match ts with
  | t :: rest => if t = want then .ok rest else expected name ts
  | [] => expected name []

def parseLiteral : List Token → Except AstParserError (Operand × List Token)
  | .number text :: ts => .ok (⟨text, .number⟩, ts)
  | .string text :: ts => .ok (⟨text, .string⟩, ts)
  | .keyword .true_ :: ts => .ok (⟨"true", .boolean⟩, ts)
  | .keyword .false_ :: ts => .ok (⟨"false", .boolean⟩, ts)
  | [] => fail "Expected literal but reached end of expression"
  | t :: _ => fail ("Expected literal but found '" ++ String.ofList t.text ++ "'")

/-- Where an operand text ends at depth zero. -/
def stopsValue (stopOnComma : Bool) : Token → Bool
  | .keyword .and => true
  | .keyword .or => true
  | .rparen => true
  | .comma => stopOnComma
  | _ => false

def depthAfter (depth : Nat) : Token → Nat
  | .lparen => depth + 1
  | .rparen => depth - 1
  | _ => depth

/-- The token values of an operand text, up to a stop at depth zero. -/
def collectValue (stopOnComma : Bool) : Nat → List Token → List Text × List Token
  | _, [] => ([], [])
  | depth, t :: ts =>
    if depth = 0 ∧ stopsValue stopOnComma t = true then ([], t :: ts)
    else
      (t.text :: (collectValue stopOnComma (depthAfter depth t) ts).1,
        (collectValue stopOnComma (depthAfter depth t) ts).2)

/-- The pieces after the first, each with the space the compiler puts before it. `prev` is the
piece last written, its space included. -/
def renderRest (prev : Text) : List Text → Text
  | [] => []
  | piece :: rest =>
    if piece = [')'] ∨ piece = [','] ∨ prev = ['('] ∨ prev = ['.'] ∨ piece = ['.'] then
      piece ++ renderRest piece rest
    else (' ' :: piece) ++ renderRest (' ' :: piece) rest

def renderPieces : List Text → Text
  | [] => []
  | piece :: rest => Text.strip (piece ++ renderRest piece rest)

/-- `_parse_value_expression_with_stops`, which always stops at a closing parenthesis. -/
def parseValueExpression (stopOnComma : Bool) (ts : List Token) :
    Except AstParserError (Operand × List Token) :=
  if (collectValue stopOnComma 0 ts).1.isEmpty then
    fail "Expected predicate value but reached end of expression"
  else
    .ok (⟨renderPieces (collectValue stopOnComma 0 ts).1, .expression⟩,
      (collectValue stopOnComma 0 ts).2)

def parseValueOperand (stopOnComma : Bool) :
    List Token → Except AstParserError (Operand × List Token)
  | [] => fail "Expected predicate value but reached end of expression"
  | .number text :: ts => parseLiteral (.number text :: ts)
  | .string text :: ts => parseLiteral (.string text :: ts)
  | .keyword .true_ :: ts => parseLiteral (.keyword .true_ :: ts)
  | .keyword .false_ :: ts => parseLiteral (.keyword .false_ :: ts)
  | ts => parseValueExpression stopOnComma ts

/-- Dotted segments of a field reference. -/
def parseSegments : List Token → Except AstParserError (Text × List Token)
  | .dot :: .ident segment :: ts =>
    match parseSegments ts with
    | .ok (text, rest) => .ok ('.' :: segment ++ text, rest)
    | .error error => .error error
  | .dot :: ts => expected "IDENT" ts
  | ts => .ok ([], ts)

/-- Type casts of a field reference. -/
def parseCasts : List Token → Except AstParserError (Text × List Token)
  | .typecast :: [] => fail "Unexpected end of expression"
  | .typecast :: .ident target :: ts =>
    match parseCasts ts with
    | .ok (text, rest) => .ok (':' :: ':' :: target ++ text, rest)
    | .error error => .error error
  | .typecast :: .keyword target :: ts =>
    match parseCasts ts with
    | .ok (text, rest) => .ok (':' :: ':' :: target.text ++ text, rest)
    | .error error => .error error
  | .typecast :: t :: _ =>
    fail ("Expected type name after '::' but found '" ++ String.ofList t.text ++ "'")
  | ts => .ok ([], ts)

/-- Call arguments of a field reference, copied without spaces. Depth zero is outside a call. -/
def parseCalls : Nat → List Token → Except AstParserError (Text × List Token)
  | 0, .lparen :: ts =>
    match parseCalls 1 ts with
    | .ok (text, rest) => .ok ('(' :: text, rest)
    | .error error => .error error
  | 0, ts => .ok ([], ts)
  | _ + 1, [] => fail "Unexpected end of expression"
  | depth + 1, t :: ts =>
    match parseCalls (depthAfter (depth + 1) t) ts with
    | .ok (text, rest) => .ok (t.text ++ text, rest)
    | .error error => .error error

def parseFieldReference : List Token → Except AstParserError (Text × List Token)
  | .ident name :: ts => do
    let (segments, ts) ← parseSegments ts
    let (casts, ts) ← parseCasts ts
    let (calls, ts) ← parseCalls 0 ts
    .ok (name ++ segments ++ casts ++ calls, ts)
  | ts => expected "IDENT" ts

/-- The operands of an `IN` list after the first. -/
def parseInRest : Nat → List Token → Except AstParserError (List Operand × List Token)
  | fuel + 1, .comma :: ts => do
    let (value, ts) ← parseValueOperand true ts
    let (values, ts) ← parseInRest fuel ts
    .ok (value :: values, ts)
  | 0, .comma :: _ => .error .outOfFuel
  | _, ts => .ok ([], ts)

/-- The error after a `NOT` that no list, range or pattern operator follows. -/
def danglingNot {α : Type} (field : Text) : Except AstParserError α :=
  fail ("Expected IN, BETWEEN, LIKE or RLIKE after NOT for '" ++ String.ofList field ++ "'")

/-- A bare field reference, read as its own truth value. -/
def bareField (field : Text) (prefixedNot : Bool) (ts : List Token) :
    Except AstParserError (Predicate × List Token) :=
  if prefixedNot then danglingNot field else .ok (⟨field, .isTrue⟩, ts)

/-- The comparison an operator symbol stands for. -/
def comparisonOf : OpSymbol → Option Comparison
  | .eq => some .eq
  | .ne => some .ne
  | .ltgt => some .ne
  | .gt => some .gt
  | .ge => some .ge
  | .lt => some .lt
  | .le => some .le
  | .tilde => none
  | .notTilde => none

/-- The operator of `~` and `!~`, with or without a prefixed `NOT`. -/
def tildeOp (isNegated prefixedNot : Bool) : PatternOp :=
  if prefixedNot then (if isNegated then .rlike else .notRlike)
  else if isNegated then .notTilde
  else .rlike

/-- A comparison with its right operand; a prefixed `NOT` is refused after the operand. -/
def parseComparison (field : Text) (prefixedNot : Bool) (op : Comparison) (ts : List Token) :
    Except AstParserError (Predicate × List Token) := do
  let (operand, ts) ← parseValueOperand false ts
  if prefixedNot then fail "NOT is not allowed before comparison operators"
  else .ok (⟨field, .compare op operand⟩, ts)

def parsePattern (field : Text) (op : PatternOp) (ts : List Token) :
    Except AstParserError (Predicate × List Token) := do
  let (literal, ts) ← parseLiteral ts
  .ok (⟨field, .pattern op literal⟩, ts)

/-- The rest of a predicate after its field and an optional `NOT`. -/
def parseTest (field : Text) (prefixedNot : Bool) :
    List Token → Except AstParserError (Predicate × List Token)
  | .keyword .in_ :: ts => do
    let ts ← expect .lparen "LPAREN" ts
    let (value, ts) ← parseValueOperand true ts
    let (values, ts) ← parseInRest ts.length ts
    let ts ← expect .rparen "RPAREN" ts
    .ok (⟨field, .inList prefixedNot (value :: values)⟩, ts)
  | .keyword .between :: ts => do
    let (lower, ts) ← parseValueOperand false ts
    let ts ← expect (.keyword .and) "AND" ts
    let (upper, ts) ← parseValueOperand false ts
    .ok (⟨field, .between prefixedNot lower upper⟩, ts)
  | .keyword .like :: ts => parsePattern field (if prefixedNot then .notLike else .like) ts
  | .keyword .rlike :: ts => parsePattern field (if prefixedNot then .notRlike else .rlike) ts
  | [] => bareField field prefixedNot []
  | .keyword .and :: ts => bareField field prefixedNot (.keyword .and :: ts)
  | .keyword .or :: ts => bareField field prefixedNot (.keyword .or :: ts)
  | .rparen :: ts => bareField field prefixedNot (.rparen :: ts)
  | .op .tilde :: ts => parsePattern field (tildeOp false prefixedNot) ts
  | .op .notTilde :: ts => parsePattern field (tildeOp true prefixedNot) ts
  | .op symbol :: ts =>
    match comparisonOf symbol with
    | some op => parseComparison field prefixedNot op ts
    | none => fail ("Unsupported predicate operator '" ++ String.ofList symbol.text ++ "'")
  | t :: _ =>
    if prefixedNot then danglingNot field
    else fail ("Unsupported predicate operator '" ++ String.ofList t.text ++ "'")

def parsePredicate (ts : List Token) : Except AstParserError (Predicate × List Token) := do
  let (field, ts) ← parseFieldReference ts
  match ts with
  | .keyword .is :: .keyword .not :: ts => do
    let ts ← expect (.keyword .null) "NULL" ts
    .ok (⟨field, .isNotNull⟩, ts)
  | .keyword .is :: ts => do
    let ts ← expect (.keyword .null) "NULL" ts
    .ok (⟨field, .isNull⟩, ts)
  | .keyword .not :: ts => parseTest field true ts
  | ts => parseTest field false ts

mutual

def parseOr : Nat → List Token → Except AstParserError (Ast × List Token)
  | 0, _ => .error .outOfFuel
  | fuel + 1, ts => do
    let (node, ts) ← parseAnd fuel ts
    parseOrRest fuel node ts

/-- The loop of `_parse_or`. -/
def parseOrRest : Nat → Ast → List Token → Except AstParserError (Ast × List Token)
  | 0, _, _ => .error .outOfFuel
  | fuel + 1, node, .keyword .or :: ts => do
    let (right, ts) ← parseAnd fuel ts
    parseOrRest fuel (.logical .or node right) ts
  | _ + 1, node, ts => .ok (node, ts)

def parseAnd : Nat → List Token → Except AstParserError (Ast × List Token)
  | 0, _ => .error .outOfFuel
  | fuel + 1, ts => do
    let (node, ts) ← parseNot fuel ts
    parseAndRest fuel node ts

/-- The loop of `_parse_and`. -/
def parseAndRest : Nat → Ast → List Token → Except AstParserError (Ast × List Token)
  | 0, _, _ => .error .outOfFuel
  | fuel + 1, node, .keyword .and :: ts => do
    let (right, ts) ← parseNot fuel ts
    parseAndRest fuel (.logical .and node right) ts
  | _ + 1, node, ts => .ok (node, ts)

def parseNot : Nat → List Token → Except AstParserError (Ast × List Token)
  | 0, _ => .error .outOfFuel
  | fuel + 1, .keyword .not :: ts => do
    let (operand, ts) ← parseNot fuel ts
    .ok (.not operand, ts)
  | fuel + 1, ts => parseFactor fuel ts

def parseFactor : Nat → List Token → Except AstParserError (Ast × List Token)
  | 0, _ => .error .outOfFuel
  | fuel + 1, .lparen :: ts => do
    let (nested, ts) ← parseOr fuel ts
    let ts ← expect .rparen "RPAREN" ts
    .ok (nested, ts)
  | _ + 1, ts => do
    let (p, ts) ← parsePredicate ts
    .ok (.predicate p, ts)

end

/-- `_ExpressionParser.parse`. -/
def parseTokens (ts : List Token) : Except AstParserError Ast := do
  let (node, rest) ← parseOr (4 * ts.length + 4) ts
  match rest with
  | [] => .ok node
  | t :: _ => fail ("Unexpected token '" ++ String.ofList t.text ++ "'")

end Parser

/-- `_compile_expression_ast` on a non-empty expression. -/
def parseExpression [PyRuntime] (expression : Text) : Except AstParserError Ast := do
  let tokens ← tokenizeExpression expression
  Parser.parseTokens tokens

namespace Parser

/-! ### The fuel always suffices -/

/-- The parse ended, with at most `n` tokens left when it succeeded. -/
def Settles {α : Type} (n : Nat) : Except AstParserError (α × List Token) → Prop
  | .ok (_, rest) => rest.length ≤ n
  | .error error => error ≠ .outOfFuel

variable {α : Type} {n m : Nat}

theorem Settles.mono (hle : n ≤ m) :
    ∀ {r : Except AstParserError (α × List Token)}, Settles n r → Settles m r
  | .ok _, h => Nat.le_trans h hle
  | .error _, h => h

theorem Settles.fail (text : String) :
    Settles n (Parser.fail text : Except AstParserError (α × List Token)) := by
  simp [Settles, Parser.fail]

theorem Settles.expected (want : String) (ts : List Token) :
    Settles n (Parser.expected want ts : Except AstParserError (α × List Token)) := by
  cases ts <;> exact Settles.fail _

/-- Sequencing: the second parser starts where the first one ended. -/
theorem Settles.bind {β : Type} {r : Except AstParserError (α × List Token)}
    {f : α × List Token → Except AstParserError (β × List Token)} (hr : Settles n r)
    (hf : ∀ a rest, rest.length ≤ n → Settles m (f (a, rest))) :
    Settles m (r >>= f) := by
  cases r with
  | ok result => exact hf result.1 result.2 hr
  | error error => exact hr

theorem Settles.expect {β : Type} {want : Token} {name : String} {ts : List Token}
    {f : List Token → Except AstParserError (β × List Token)}
    (hf : ∀ rest, rest.length < ts.length → Settles m (f rest)) :
    Settles m (expect want name ts >>= f) := by
  cases ts with
  | nil => exact Settles.fail _
  | cons t rest =>
    by_cases ht : t = want
    · have hok : Parser.expect want name (t :: rest) = .ok rest := by simp [Parser.expect, ht]
      rw [hok]
      exact hf rest (by simp)
    · have herr : Parser.expect want name (t :: rest) = Parser.expected name (t :: rest) := by
        simp [Parser.expect, ht]
      rw [herr]
      exact Settles.fail _

theorem parseLiteral_settles (ts : List Token) : Settles (ts.length - 1) (parseLiteral ts) := by
  unfold parseLiteral
  split <;> first | exact Settles.fail _ | simp [Settles]

theorem collectValue_length (stopOnComma : Bool) : ∀ (ts : List Token) (depth : Nat),
    (collectValue stopOnComma depth ts).1.length + (collectValue stopOnComma depth ts).2.length =
      ts.length := by
  intro ts
  induction ts with
  | nil => intro depth; rfl
  | cons t ts ih =>
    intro depth
    rw [collectValue]
    split
    · simp
    · have := ih (depthAfter depth t)
      simp only [List.length_cons]
      omega

theorem parseValueExpression_settles (stopOnComma : Bool) (ts : List Token) :
    Settles (ts.length - 1) (parseValueExpression stopOnComma ts) := by
  have hlen := collectValue_length stopOnComma ts 0
  unfold parseValueExpression
  split
  · exact Settles.fail _
  · rename_i hparts
    have hpos : 0 < (collectValue stopOnComma 0 ts).1.length :=
      List.length_pos_iff.mpr (by simpa using hparts)
    simp only [Settles]
    omega

theorem parseValueOperand_settles (stopOnComma : Bool) (ts : List Token) :
    Settles (ts.length - 1) (parseValueOperand stopOnComma ts) := by
  unfold parseValueOperand
  split
  · exact Settles.fail _
  · exact parseLiteral_settles _
  · exact parseLiteral_settles _
  · exact parseLiteral_settles _
  · exact parseLiteral_settles _
  · exact parseValueExpression_settles stopOnComma ts

theorem Settles.decorate (hle : n ≤ m) (f : Text → Text) :
    ∀ {r : Except AstParserError (Text × List Token)}, Settles n r →
      Settles m (match r with
        | .ok (text, rest) => .ok (f text, rest)
        | .error error => .error error)
  | .ok _, h => Nat.le_trans h hle
  | .error _, h => h

theorem parseSegments_settles (ts : List Token) : Settles ts.length (parseSegments ts) := by
  fun_induction parseSegments ts with
  | case1 segment ts text rest h ih =>
    rw [h] at ih
    exact ih.mono (by simp only [List.length_cons]; omega)
  | case2 segment ts error h ih =>
    rw [h] at ih
    exact ih
  | case3 ts hne => exact Settles.expected _ _
  | case4 ts h₁ h₂ => exact Nat.le_refl _

theorem parseCasts_settles (ts : List Token) : Settles ts.length (parseCasts ts) := by
  fun_induction parseCasts ts with
  | case1 => exact Settles.fail _
  | case2 target ts text rest h ih =>
    rw [h] at ih
    exact ih.mono (by simp only [List.length_cons]; omega)
  | case3 target ts error h ih =>
    rw [h] at ih
    exact ih
  | case4 target ts text rest h ih =>
    rw [h] at ih
    exact ih.mono (by simp only [List.length_cons]; omega)
  | case5 target ts error h ih =>
    rw [h] at ih
    exact ih
  | case6 t ts h₁ h₂ => exact Settles.fail _
  | case7 ts h₁ h₂ h₃ h₄ => exact Nat.le_refl _

theorem parseCalls_settles : ∀ (ts : List Token) (depth : Nat),
    Settles ts.length (parseCalls depth ts) := by
  intro ts
  induction ts with
  | nil =>
    intro depth
    cases depth
    · exact Nat.le_refl _
    · exact Settles.fail _
  | cons t ts ih =>
    intro depth
    have hstep (depth' : Nat) (text : Text) :=
      (ih depth').decorate (m := (t :: ts).length) (by simp) (text ++ ·)
    cases depth with
    | zero =>
      by_cases ht : t = .lparen
      · subst ht
        exact hstep 1 ['(']
      · rw [parseCalls]
        · exact Nat.le_refl _
        · intro ts' h
          exact ht (List.cons.inj h).1
    | succ depth => exact hstep _ t.text

theorem parseFieldReference_settles (ts : List Token) :
    Settles (ts.length - 1) (parseFieldReference ts) := by
  unfold parseFieldReference
  split
  · rename_i name ts
    refine (parseSegments_settles ts).bind fun segments ts₁ h₁ => ?_
    refine (parseCasts_settles ts₁).bind fun casts ts₂ h₂ => ?_
    refine (parseCalls_settles ts₂ 0).bind fun calls ts₃ h₃ => ?_
    simp only [Settles, List.length_cons]
    omega
  · exact Settles.expected _ _

theorem parseInRest_settles : ∀ (fuel : Nat) (ts : List Token),
    ts.length ≤ fuel → Settles ts.length (parseInRest fuel ts) := by
  intro fuel
  induction fuel with
  | zero =>
    intro ts h
    obtain rfl : ts = [] := List.length_eq_zero_iff.mp (by omega)
    exact Nat.le_refl _
  | succ fuel ih =>
    intro ts h
    unfold parseInRest
    split
    · rename_i ts' hfuel
      obtain rfl := Nat.succ.inj hfuel
      simp only [List.length_cons] at h ⊢
      refine (parseValueOperand_settles true ts').bind fun value ts₁ h₁ => ?_
      refine ((ih ts₁ (by omega)).mono (m := ts₁.length) (Nat.le_refl _)).bind
        fun values ts₂ h₂ => ?_
      simp only [Settles]
      omega
    · rename_i hfuel
      cases hfuel
    · exact Nat.le_refl _

theorem bareField_settles (field : Text) (prefixedNot : Bool) (ts : List Token) :
    Settles ts.length (bareField field prefixedNot ts) := by
  unfold bareField
  split
  · exact Settles.fail _
  · exact Nat.le_refl _

theorem parsePattern_settles (field : Text) (op : PatternOp) (ts : List Token) :
    Settles ts.length (parsePattern field op ts) :=
  (parseLiteral_settles ts).bind fun _ _ h => Nat.le_trans h (Nat.sub_le _ _)

theorem parseComparison_settles (field : Text) (prefixedNot : Bool) (op : Comparison)
    (ts : List Token) : Settles ts.length (parseComparison field prefixedNot op ts) := by
  refine (parseValueOperand_settles false ts).bind fun operand rest h => ?_
  cases prefixedNot
  · exact Nat.le_trans h (Nat.sub_le _ _)
  · exact Settles.fail _

theorem parseTest_settles (field : Text) (prefixedNot : Bool) (ts : List Token) :
    Settles ts.length (parseTest field prefixedNot ts) := by
  unfold parseTest
  split
  · rename_i ts
    refine Settles.expect fun ts₁ h₁ => ?_
    refine (parseValueOperand_settles true ts₁).bind fun value ts₂ h₂ => ?_
    refine (parseInRest_settles ts₂.length ts₂ (Nat.le_refl _)).bind fun values ts₃ h₃ => ?_
    refine Settles.expect fun ts₄ h₄ => ?_
    simp only [Settles, List.length_cons]
    omega
  · rename_i ts
    refine (parseValueOperand_settles false ts).bind fun lower ts₁ h₁ => ?_
    refine Settles.expect fun ts₂ h₂ => ?_
    refine (parseValueOperand_settles false ts₂).bind fun upper ts₃ h₃ => ?_
    simp only [Settles, List.length_cons]
    omega
  · exact (parsePattern_settles _ _ _).mono (by simp)
  · exact (parsePattern_settles _ _ _).mono (by simp)
  · exact bareField_settles _ _ _
  · exact bareField_settles _ _ _
  · exact bareField_settles _ _ _
  · exact bareField_settles _ _ _
  · exact (parsePattern_settles _ _ _).mono (by simp)
  · exact (parsePattern_settles _ _ _).mono (by simp)
  · split
    · exact (parseComparison_settles _ _ _ _).mono (by simp)
    · exact Settles.fail _
  · split
    · exact Settles.fail _
    · exact Settles.fail _

/-- A predicate consumes at least its field. -/
theorem parsePredicate_settles (ts : List Token) :
    Settles (ts.length - 1) (parsePredicate ts) := by
  refine (parseFieldReference_settles ts).bind fun field ts₁ h₁ => ?_
  simp only
  split
  · rename_i ts₂
    refine Settles.expect fun ts₃ h₃ => ?_
    simp only [Settles, List.length_cons] at h₁ ⊢
    omega
  · rename_i ts₂ _
    refine Settles.expect fun ts₃ h₃ => ?_
    simp only [Settles, List.length_cons] at h₁ ⊢
    omega
  · simp only [List.length_cons] at h₁
    exact (parseTest_settles _ _ _).mono (by omega)
  · exact (parseTest_settles _ _ _).mono h₁

/-- What the fuel of every level suffices for, given how many tokens remain. -/
structure FuelSuffices (fuel : Nat) : Prop where
  or : ∀ ts : List Token, 4 * ts.length + 4 ≤ fuel → Settles (ts.length - 1) (parseOr fuel ts)
  orRest : ∀ (node : Ast) (ts : List Token), 4 * ts.length + 1 ≤ fuel →
    Settles ts.length (parseOrRest fuel node ts)
  and : ∀ ts : List Token, 4 * ts.length + 3 ≤ fuel → Settles (ts.length - 1) (parseAnd fuel ts)
  andRest : ∀ (node : Ast) (ts : List Token), 4 * ts.length + 1 ≤ fuel →
    Settles ts.length (parseAndRest fuel node ts)
  not : ∀ ts : List Token, 4 * ts.length + 2 ≤ fuel → Settles (ts.length - 1) (parseNot fuel ts)
  factor : ∀ ts : List Token, 4 * ts.length + 1 ≤ fuel →
    Settles (ts.length - 1) (parseFactor fuel ts)

theorem parseOr_succ (fuel : Nat) (ts : List Token) :
    parseOr (fuel + 1) ts = (parseAnd fuel ts >>= fun r => parseOrRest fuel r.1 r.2) := by
  rw [parseOr]

theorem parseAnd_succ (fuel : Nat) (ts : List Token) :
    parseAnd (fuel + 1) ts = (parseNot fuel ts >>= fun r => parseAndRest fuel r.1 r.2) := by
  rw [parseAnd]

theorem fuelSuffices (fuel : Nat) : FuelSuffices fuel := by
  induction fuel with
  | zero => constructor <;> intros <;> omega
  | succ fuel ih =>
    constructor
    · intro ts h
      rw [parseOr_succ]
      refine (ih.and ts (by omega)).bind fun node ts₁ h₁ => ?_
      exact (ih.orRest node ts₁ (by omega)).mono h₁
    · intro node ts h
      unfold parseOrRest
      split
      · contradiction
      · rename_i ts₁ hfuel
        obtain rfl := Nat.succ.inj hfuel
        simp only [List.length_cons] at h ⊢
        refine (ih.and ts₁ (by omega)).bind fun right ts₂ h₂ => ?_
        exact (ih.orRest _ ts₂ (by omega)).mono (by omega)
      · exact Nat.le_refl _
    · intro ts h
      rw [parseAnd_succ]
      refine (ih.not ts (by omega)).bind fun node ts₁ h₁ => ?_
      exact (ih.andRest node ts₁ (by omega)).mono h₁
    · intro node ts h
      unfold parseAndRest
      split
      · contradiction
      · rename_i ts₁ hfuel
        obtain rfl := Nat.succ.inj hfuel
        simp only [List.length_cons] at h ⊢
        refine (ih.not ts₁ (by omega)).bind fun right ts₂ h₂ => ?_
        exact (ih.andRest _ ts₂ (by omega)).mono (by omega)
      · exact Nat.le_refl _
    · intro ts h
      unfold parseNot
      split
      · contradiction
      · rename_i ts₁ hfuel
        obtain rfl := Nat.succ.inj hfuel
        simp only [List.length_cons] at h ⊢
        refine (ih.not ts₁ (by omega)).bind fun operand ts₂ h₂ => ?_
        simp only [Settles]
        omega
      · rename_i hfuel _
        obtain rfl := Nat.succ.inj hfuel
        exact ih.factor _ (by omega)
    · intro ts h
      unfold parseFactor
      split
      · contradiction
      · rename_i ts₁ hfuel
        obtain rfl := Nat.succ.inj hfuel
        simp only [List.length_cons] at h ⊢
        refine (ih.or ts₁ (by omega)).bind fun nested ts₂ h₂ => ?_
        refine Settles.expect fun ts₃ h₃ => ?_
        simp only [Settles]
        simp only at h₃
        omega
      · exact (parsePredicate_settles _).bind fun p ts₁ h₁ => h₁

theorem parseTokens_ne_outOfFuel (ts : List Token) : parseTokens ts ≠ .error .outOfFuel := by
  have h := (fuelSuffices (4 * ts.length + 4)).or ts (Nat.le_refl _)
  unfold parseTokens
  cases hor : parseOr (4 * ts.length + 4) ts with
  | error error =>
    rw [hor] at h
    simpa [Settles, bind, Except.bind] using h
  | ok result =>
    obtain ⟨node, rest⟩ := result
    cases rest <;> simp [bind, Except.bind, Parser.fail]

end Parser

end DqMadeEasy
