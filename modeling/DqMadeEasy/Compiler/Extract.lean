import DqMadeEasy.Compiler.Flatten
import DqMadeEasy.Compiler.Tokenizer
import DqMadeEasy.Gx.FieldRef
import DqMadeEasy.Text.Scan

/-!
# Extraction of predicates by regular expressions

The compiler's second reading of an expression: five patterns, one for each family of
predicates, scanned independently over the whole normalised text. Their matches are merged by
position and duplicates are dropped. A scan for logical words gives the connectives.

The patterns know nothing of string literals, of qualified or wrapped fields, or of one
another. The compiler uses them when an expression has no tree.
-/

namespace DqMadeEasy

namespace Extract

open Scan

/-- All ends of a double-quoted literal after its opening quote, the longest first. -/
def doubleQuotedEnds : Text → List (Text × Text)
  | [] => []
  | '\\' :: '"' :: cs =>
    (doubleQuotedEnds cs).map (fun (body, rest) => ('\\' :: '"' :: body, rest)) ++
      [(['\\', '"'], cs)]
  | '"' :: cs => [(['"'], cs)]
  | c :: cs => (doubleQuotedEnds cs).map fun (body, rest) => (c :: body, rest)

variable [PyRuntime]

/-- The ends of a literal at the head of a text, the preferred one first. A number or a
single-quoted literal that stops earlier is followed by a digit, a dot or a quote, which no
pattern continues with, so only their longest form is kept. -/
def literalEnds (t : Text) : List (Text × Text) :=
  match Tokenizer.number t with
  | some found => [found]
  | none =>
    match Text.dropWord "TRUE" t with
    | some rest => [(t.take 4, rest)]
    | none =>
      match Text.dropWord "FALSE" t with
      | some rest => [(t.take 5, rest)]
      | none =>
        match t with
        | '\'' :: cs =>
          match Tokenizer.singleQuoted cs with
          | some (body, rest) => [('\'' :: body, rest)]
          | none => []
        | '"' :: cs => (doubleQuotedEnds cs).map fun (body, rest) => ('"' :: body, rest)
        | _ => []

/-- `[A-Za-z_][A-Za-z0-9_]*` under `re.IGNORECASE`: the identifier and the text after it. -/
def ident (t : Text) : Option (Text × Text) :=
  if t.head?.any Gx.isIdentStartFolded then
    some (t.takeWhile Gx.isIdentRestFolded, t.dropWhile Gx.isIdentRestFolded)
  else none

/-- An identifier at a word boundary. -/
def field (prev : Option Char) (t : Text) : Option (Text × Text) :=
  if boundary prev t then ident t else none

/-- `\s+`. -/
def spaces1 (t : Text) : Option Text :=
  if t.head?.any isSpace then some (t.dropWhile isSpace) else none

/-- `(NOT\s+)?`. -/
def optionalNot (t : Text) : Bool × Text :=
  match (Text.dropWord "NOT" t).bind spaces1 with
  | some rest => (true, rest)
  | none => (false, t)

/-- A field, white space, and an optional `NOT`: the common head of three patterns. -/
def fieldAndNot (prev : Option Char) (t : Text) : Option (Text × Bool × Text) := do
  let (name, t) ← field prev t
  let t ← spaces1 t
  some (name, optionalNot t)

def inferLiteralType (raw : Text) : ValueType :=
  let literal := raw.strip
  if Text.isNumberText literal then .number
  else if Text.matchesWord "TRUE" literal || Text.matchesWord "FALSE" literal then
    .boolean
  else if literal.head? = some '\'' ∨ literal.head? = some '"' then .string
  else if literal.head? = some '(' ∧ literal.getLast? = some ')' then .list
  else .unknown

/-- `\s+AND\s+` after the lower bound, then the upper bound. -/
def upperLiteral (t : Text) : Option (Text × Text) := do
  let t ← spaces1 t
  let t ← Text.dropWord "AND" t
  let t ← spaces1 t
  (literalEnds t).head?

/-- `_PREDICATE_BETWEEN_REGEX`. -/
def between : Matcher FlatPredicate := fun prev t => do
  let (name, negated, t) ← fieldAndNot prev t
  let t ← Text.dropWord "BETWEEN" t
  let t ← spaces1 t
  let (lower, upper, rest) ← (literalEnds t).findSome? fun (lower, t) =>
    (upperLiteral t).map fun (upper, rest) => (lower, upper, rest)
  some (⟨name, if negated then .notBetween else .between,
    lower.strip ++ " AND " ++ upper.strip, .range⟩, rest)

/-- `_PREDICATE_IN_REGEX`. -/
def membership : Matcher FlatPredicate := fun prev t => do
  let (name, negated, t) ← fieldAndNot prev t
  let t ← Text.dropWord "IN" t
  let t := Text.lstrip t
  if t.head? = some '(' then
    match t.dropWhile (· != ')') with
    | ')' :: rest =>
      some (⟨name, if negated then .notIn else .in_,
        Text.strip (t.takeWhile (· != ')') ++ [')']), .list⟩, rest)
    | _ => none
  else none

/-- The operator of `LIKE|RLIKE|~|!~` at the head of a text, as written. -/
def patternOperator (t : Text) : Option (Text × Text) :=
  match Text.dropWord "LIKE" t with
  | some rest => some (t.take 4, rest)
  | none =>
    match Text.dropWord "RLIKE" t with
    | some rest => some (t.take 5, rest)
    | none =>
      match t with
      | '~' :: rest => some (['~'], rest)
      | '!' :: '~' :: rest => some (['!', '~'], rest)
      | _ => none

/-- The flat operator of an operator text in upper case. -/
def operatorOfText (negated : Bool) (t : Text) : Operator :=
  let upper := t.map Gx.identUpper
  if upper = "LIKE".toList then (if negated then .notLike else .like)
  else if upper = "RLIKE".toList then (if negated then .notRlike else .rlike)
  else if upper = "!~".toList ∧ !negated then .notTilde
  else .other ((if negated then "NOT ".toList else []) ++ upper)

/-- `_PREDICATE_LIKE_REGEX`. -/
def pattern : Matcher FlatPredicate := fun prev t => do
  let (name, negated, t) ← fieldAndNot prev t
  let (operator, t) ← patternOperator t
  let (literal, rest) ← (literalEnds (Text.lstrip t)).head?
  some (⟨name, operatorOfText negated operator, literal.strip, inferLiteralType literal.strip⟩,
    rest)

/-- `_PREDICATE_IS_NULL_REGEX`. -/
def nullity : Matcher FlatPredicate := fun prev t => do
  let (name, t) ← field prev t
  let t ← spaces1 t
  let t ← Text.dropWord "IS" t
  let t ← spaces1 t
  let (negated, t) := optionalNot t
  let rest ← Text.dropWord "NULL" t
  if boundary (some 'L') rest then
    some (⟨name, if negated then .isNotNull else .isNull, "NULL", .null⟩, rest)
  else none

/-- The operators of the comparison pattern. -/
def comparisonOperator : Text → Option (Operator × Text)
  | '=' :: rest => some (.eq, rest)
  | '!' :: '=' :: rest => some (.ne, rest)
  | '>' :: '=' :: rest => some (.ge, rest)
  | '<' :: '=' :: rest => some (.le, rest)
  | '>' :: rest => some (.gt, rest)
  | '<' :: rest => some (.lt, rest)
  | _ => none

/-- `_PREDICATE_COMPARISON_REGEX`. -/
def comparison : Matcher FlatPredicate := fun prev t => do
  let (name, t) ← field prev t
  let (operator, t) ← comparisonOperator (Text.lstrip t)
  let (literal, rest) ← (literalEnds (Text.lstrip t)).head?
  some (⟨name, operator, literal.strip, inferLiteralType literal⟩, rest)

/-- Stable insertion by position. -/
def insertByPosition (entry : ℕ × FlatPredicate) :
    List (ℕ × FlatPredicate) → List (ℕ × FlatPredicate)
  | [] => [entry]
  | other :: rest =>
    if entry.1 < other.1 then entry :: other :: rest else other :: insertByPosition entry rest

def sortByPosition (entries : List (ℕ × FlatPredicate)) : List (ℕ × FlatPredicate) :=
  entries.foldl (fun sorted entry => insertByPosition entry sorted) []

/-- The key by which duplicates are recognised. -/
def predicateKey (p : FlatPredicate) : Text × Operator × Text := (p.field, p.operator, p.value)

def dropDuplicates (predicates : List FlatPredicate) : List FlatPredicate :=
  predicates.foldl
    (fun kept p => if kept.any (fun q => predicateKey q = predicateKey p) then kept else kept ++ [p])
    []

def connectiveWords : List Text :=
  ["AND", "OR", "NOT", "IN", "BETWEEN", "LIKE",
    "RLIKE"]

def connectiveWord : Matcher Text := fun prev t =>
  connectiveWords.findSome? fun w =>
    (word w prev t).map fun (_, rest) => ((t.take w.length).map Gx.identUpper, rest)

/-- The loop of `_extract_logical_operators`: the `AND` of a range and a `NOT` before a list,
range or pattern word are not connectives. -/
def connectives (consumeBetweenAnd : Bool) : List Text → List LogicalOperator
  | [] => []
  | w :: rest =>
    if w = "BETWEEN".toList then connectives true rest
    else if w = "AND".toList ∧ consumeBetweenAnd then connectives false rest
    else if w = "NOT".toList ∧ (rest.head?.any fun next =>
        next = "IN".toList ∨ next = "BETWEEN".toList ∨ next = "LIKE".toList ∨
          next = "RLIKE".toList) then
      connectives consumeBetweenAnd rest
    else if w = "AND".toList then .and :: connectives consumeBetweenAnd rest
    else if w = "OR".toList then .or :: connectives consumeBetweenAnd rest
    else if w = "NOT".toList then .not :: connectives consumeBetweenAnd rest
    else connectives consumeBetweenAnd rest

end Extract

variable [PyRuntime]

def compilePredicates (normalized : Text) : List FlatPredicate :=
  let indexed :=
    Scan.find Extract.between normalized ++ Scan.find Extract.membership normalized ++
      Scan.find Extract.pattern normalized ++ Scan.find Extract.nullity normalized ++
      Scan.find Extract.comparison normalized
  Extract.dropDuplicates ((Extract.sortByPosition indexed).map Prod.snd)

def extractLogicalOperators (normalized : Text) : List LogicalOperator :=
  Extract.connectives false ((Scan.find Extract.connectiveWord normalized).map Prod.snd)

end DqMadeEasy
