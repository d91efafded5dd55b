import DqMadeEasy.Compiler.Syntax
import DqMadeEasy.Text.Scan

/-!
# Normalisation of filter expressions

`_normalize_expression` is a sequence of substitutions on the whole text: operators are padded,
the three logical words are padded and put in upper case, and runs of white space become one
space. None of the substitutions knows where a string literal begins or ends, so texts inside
quotes are rewritten as well.
-/

namespace DqMadeEasy

namespace Normalize

/-- `\s*<>\s*`, replaced by ` != `. -/
def inequality (_ : Option Char) (t : Text) : Option (Text × Text) :=
  match t.dropWhile isSpace with
  | '<' :: '>' :: rest => some (" != ", rest.dropWhile isSpace)
  | _ => none

/-- The operator symbol at the head of a text, in the order of the pattern. -/
def comparisonSymbol : Text → Option (Text × Text)
  | '>' :: '=' :: rest => some (['>', '='], rest)
  | '<' :: '=' :: rest => some (['<', '='], rest)
  | '!' :: '=' :: rest => some (['!', '='], rest)
  | '=' :: rest => some (['='], rest)
  | '>' :: rest => some (['>'], rest)
  | '<' :: rest => some (['<'], rest)
  | _ => none

/-- `\s*(>=|<=|!=|=|>|<)\s*`, replaced by the operator between single spaces. -/
def comparison (_ : Option Char) (t : Text) : Option (Text × Text) :=
  match comparisonSymbol (t.dropWhile isSpace) with
  | some (symbol, rest) => some (' ' :: symbol ++ [' '], rest.dropWhile isSpace)
  | none => none

/-- `\s+`, replaced by one space. -/
def spaces (_ : Option Char) (t : Text) : Option (Text × Text) :=
  if t.head?.any isSpace then some ([' '], t.dropWhile isSpace) else none

/-- `\bWORD\b` in any case, replaced by the upper-case word between single spaces. -/
def logicalWord [PyRuntime] (w : Text) (prev : Option Char) (t : Text) : Option (Text × Text) :=
  (Scan.word w prev t).map fun (_, rest) => (' ' :: w ++ [' '], rest)

end Normalize

def normalizeExpression [PyRuntime] (expression : Text) : Text :=
  let t := expression.strip
  let t := Scan.sub Normalize.inequality t
  let t := Scan.sub Normalize.comparison t
  let t := Scan.sub (Normalize.logicalWord "AND") t
  let t := Scan.sub (Normalize.logicalWord "OR") t
  let t := Scan.sub (Normalize.logicalWord "NOT") t
  Text.strip (Scan.sub Normalize.spaces t)

end DqMadeEasy
