import DqMadeEasy.Text.Value

/-!
# Literals of flat predicates

The lowering to expectations reads literals out of texts a second time: a lone literal, a
parenthesised list, and the two bounds of a range. A list is split at the commas outside quotes
and parentheses. A range is split at the first ` AND ` of its text, quoted or not.

Errors are `GxExpectationBuildError`s with the message of the source.
-/

namespace DqMadeEasy

/-- `GxExpectationBuildError`. -/
structure GxExpectationBuildError where
  message : String
  deriving DecidableEq, Repr

namespace Gx

/-- Raises a `GxExpectationBuildError`. -/
def raise {α : Type} (message : String) : Except GxExpectationBuildError α := .error ⟨message⟩

def stripSqlStringQuotes (value : Text) : Text :=
  let raw := value.strip
  if 2 ≤ raw.length ∧ raw.head? = some '\'' ∧ raw.getLast? = some '\'' then
    Text.replace "''" "'" raw.inner
  else if 2 ≤ raw.length ∧ raw.head? = some '"' ∧ raw.getLast? = some '"' then
    Text.replace ['\\', '\\'] ['\\'] (Text.replace ['\\', '"'] ['"'] raw.inner)
  else raw

def quotedBy (quote : Char) (raw : Text) : Bool :=
  raw.head? == some quote && raw.getLast? == some quote

section Literals

variable [PyRuntime]

/-- `_parse_sql_literal` on a stripped text. -/
def parseStrippedLiteral (raw : Text) : Except GxExpectationBuildError PyValue :=
  if raw = [] then raise "Empty literal"
  else if Text.matchesWord "TRUE" raw then .ok (.bool true)
  else if Text.matchesWord "FALSE" raw then .ok (.bool false)
  else
    match Text.intValue raw with
    | some n => .ok (.int n)
    | none =>
      match Text.decimalValue raw with
      | some q => .ok (.float (PyRuntime.roundFloat q))
      | none =>
        if raw.map Char.toUpper = "NULL" then .ok .none
        else if quotedBy '\'' raw || quotedBy '"' raw then .ok (.str (stripSqlStringQuotes raw))
        else raise ("Unsupported literal: " ++ String.ofList raw)

def parseSqlLiteral (value : Text) : Except GxExpectationBuildError PyValue :=
  parseStrippedLiteral value.strip

end Literals

/-- A finished item of a list: stripped, and dropped when nothing is left. -/
def flushItem (buffer : Text) : List Text :=
  if buffer.strip = [] then [] else [buffer.strip]

/-- The scanning loop of `_parse_in_list` and `_split_function_arguments`: the open quote, the
parenthesis depth, the item read so far, and the rest of the text. -/
def splitItems (quote : Option Char) (depth : ℤ) (buffer : Text) : Text → List Text
  | [] => flushItem buffer
  | c :: cs =>
    match quote with
    | some q =>
      if c = q then
        match cs with
        | d :: ds =>
          if q = '\'' ∧ d = '\'' then splitItems (some q) depth (buffer ++ [c, d]) ds
          else splitItems none depth (buffer ++ [c]) (d :: ds)
        | [] => splitItems none depth (buffer ++ [c]) []
      else splitItems (some q) depth (buffer ++ [c]) cs
    | none =>
      if c = '\'' ∨ c = '"' then splitItems (some c) depth (buffer ++ [c]) cs
      else if c = '(' then splitItems none (depth + 1) (buffer ++ [c]) cs
      else if c = ')' then splitItems none (depth - 1) (buffer ++ [c]) cs
      else if c = ',' ∧ depth = 0 then flushItem buffer ++ splitItems none depth [] cs
      else splitItems none depth (buffer ++ [c]) cs

def splitFunctionArguments (args : Text) : List Text :=
  if args.strip = [] then [] else splitItems none 0 [] args.strip

/-- A list item that is a call rather than a quoted text. -/
def isNestedItem (item : Text) : Bool :=
  item.contains '(' && !(item.head? == some '\'' || item.head? == some '"')

/-- After the lower bound: white space, `AND`, white space, and the upper bound to the end. The
upper bound has no line break. -/
def upperBoundText (t : Text) : Option Text :=
  if (t.takeWhile isSpace).isEmpty then none
  else
    match Text.dropWord "AND" (t.dropWhile isSpace) with
    | none => none
    | some rest =>
      if (rest.takeWhile isSpace).isEmpty then none
      else if (rest.dropWhile isSpace).isEmpty then none
      else if (rest.dropWhile isSpace).contains '\n' then none
      else some (rest.dropWhile isSpace)

/-- The lazy search for the lower bound: the shortest non-empty prefix, free of line breaks,
that an ` AND ` with an upper bound follows. -/
def splitBoundsFrom (lower : Text) : Text → Option (Text × Text)
  | [] => none
  | c :: cs =>
    match (if lower.isEmpty then none else upperBoundText (c :: cs)) with
    | some upper => some (lower, upper)
    | none => if c = '\n' then none else splitBoundsFrom (lower ++ [c]) cs

section Lists

variable [PyRuntime]

def parseInList (value : Text) : Except GxExpectationBuildError (List PyValue) :=
  let raw := value.strip
  if ¬(raw.head? = some '(' ∧ raw.getLast? = some ')') then
    raise ("IN list must be parenthesized, got: " ++ String.ofList raw)
  else if raw.inner.strip = [] then raise "IN list is empty"
  else
    let items := splitItems none 0 [] raw.inner.strip
    if items.any isNestedItem then
      raise ("IN list contains non-literal expressions: " ++ String.ofList raw)
    else do
      let parsed ← items.mapM parseSqlLiteral
      if parsed.contains .none then raise "IN list must not include NULL"
      else .ok parsed

/-- Both bounds of a range, neither of which may be `NULL`. -/
def boundsOf (lower upper : Text) : Except GxExpectationBuildError (PyValue × PyValue) := do
  let low ← parseSqlLiteral lower
  let high ← parseSqlLiteral upper
  if low = .none ∨ high = .none then raise "BETWEEN bounds must not be NULL"
  else .ok (low, high)

def parseBetweenBounds (value : Text) : Except GxExpectationBuildError (PyValue × PyValue) :=
  match splitBoundsFrom [] value.strip with
  | none =>
    raise ("BETWEEN value must be '<lower> AND <upper>', got: " ++ String.ofList value.strip)
  | some (lower, upper) => boundsOf lower upper

end Lists

end Gx

end DqMadeEasy
