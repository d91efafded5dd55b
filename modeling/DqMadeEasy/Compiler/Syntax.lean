import DqMadeEasy.Text.Python

/-!
# Tokens and expression trees

The vocabulary of the rule compiler: the tokens a filter expression is cut into, and the
abstract syntax tree the parser returns. A tree node is typed by its shape, so a predicate
cannot carry a range where its operator takes a list.

Operands keep their source text together with the kind of text it is. Nothing is decoded here:
the lowering decides what a literal denotes.
-/

namespace DqMadeEasy

/-- Reserved words of the expression grammar. -/
inductive Keyword where
  | and | or | not | is | null | in_ | between | like | rlike | true_ | false_
  deriving DecidableEq, Repr

namespace Keyword

/-- Upper-case spelling of a keyword. -/
def text : Keyword → Text
  | .and => "AND"
  | .or => "OR"
  | .not => "NOT"
  | .is => "IS"
  | .null => "NULL"
  | .in_ => "IN"
  | .between => "BETWEEN"
  | .like => "LIKE"
  | .rlike => "RLIKE"
  | .true_ => "TRUE"
  | .false_ => "FALSE"

/-- Every keyword, `_KEYWORDS`. -/
def all : List Keyword :=
  [.and, .or, .not, .is, .null, .in_, .between, .like, .rlike, .true_, .false_]

theorem mem_all (k : Keyword) : k ∈ all := by
  cases k <;> simp [all]

theorem text_injective : Function.Injective text := by
  intro a b h
  revert h
  cases a <;> cases b <;> decide

/-- The keyword an identifier spells, compared in upper case. -/
def ofIdent (ident : Text) : Option Keyword :=
  all.find? fun k => decide (ident.map Char.toUpper = k.text)

@[simp] theorem ofIdent_text (k : Keyword) : ofIdent k.text = some k := by
  cases k <;> decide

end Keyword

/-- Operator symbols of the `OP` token. -/
inductive OpSymbol where
  | ge | le | ne | ltgt | notTilde | eq | gt | lt | tilde
  deriving DecidableEq, Repr

/-- Spelling of an operator symbol. -/
def OpSymbol.text : OpSymbol → Text
  | .ge => ">="
  | .le => "<="
  | .ne => "!="
  | .ltgt => "<>"
  | .notTilde => "!~"
  | .eq => "="
  | .gt => ">"
  | .lt => "<"
  | .tilde => "~"

/-- Tokens of a filter expression. Both quote styles give a `string` token. -/
inductive Token where
  | lparen
  | rparen
  | comma
  | typecast
  | dot
  | op (symbol : OpSymbol)
  | string (text : Text)
  | number (text : Text)
  | arith (c : Char)
  | ident (text : Text)
  | keyword (k : Keyword)
  deriving DecidableEq, Repr

/-- The token value, `token[1]`. -/
def Token.text : Token → Text
  | .lparen => ['(']
  | .rparen => [')']
  | .comma => [',']
  | .typecast => [':', ':']
  | .dot => ['.']
  | .op symbol => symbol.text
  | .string text => text
  | .number text => text
  | .arith c => [c]
  | .ident text => text
  | .keyword k => k.text

/-- The `valueType` of an operand. -/
inductive OperandType where
  | number
  | string
  | boolean
  | expression
  deriving DecidableEq, Repr

/-- A literal or expression operand: its text and its kind. -/
structure Operand where
  value : Text
  valueType : OperandType
  deriving DecidableEq, Repr

/-- Comparison operators of the grammar; `<>` is read as `ne`. -/
inductive Comparison where
  | eq | ne | gt | ge | lt | le
  deriving DecidableEq, Repr

/-- Pattern operators of the grammar. `!~` keeps its own spelling in the tree. -/
inductive PatternOp where
  | like | notLike | rlike | notRlike | notTilde
  deriving DecidableEq, Repr

/-- What a predicate node asserts of its field. -/
inductive Test where
  | isNull
  | isNotNull
  | isTrue
  | compare (op : Comparison) (operand : Operand)
  | between (negated : Bool) (lower upper : Operand)
  | inList (negated : Bool) (values : List Operand)
  | pattern (op : PatternOp) (literal : Operand)
  deriving DecidableEq, Repr

/-- A predicate node: a field reference as written, and the test applied to it. -/
structure Predicate where
  field : Text
  test : Test
  deriving DecidableEq, Repr

/-- Operator of a logical node. -/
inductive Connective where
  | and | or
  deriving DecidableEq, Repr

/-- Expression trees of the parser. -/
inductive Ast where
  | predicate (p : Predicate)
  | logical (op : Connective) (left right : Ast)
  | not (operand : Ast)
  deriving DecidableEq, Repr

namespace Ast

def predicates : Ast → List Predicate
  | .predicate p => [p]
  | .logical _ left right => left.predicates ++ right.predicates
  | .not operand => operand.predicates

/-- The tree contains no unary `NOT`. -/
def negationFree : Ast → Bool
  | .predicate _ => true
  | .logical _ left right => left.negationFree && right.negationFree
  | .not _ => false

/-- The tree contains an `OR`. -/
def hasOr : Ast → Bool
  | .predicate _ => false
  | .logical .or _ _ => true
  | .logical .and left right => left.hasOr || right.hasOr
  | .not operand => operand.hasOr

end Ast

end DqMadeEasy
