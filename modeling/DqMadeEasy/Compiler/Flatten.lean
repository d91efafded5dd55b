import DqMadeEasy.Compiler.Syntax

/-!
# Flat predicates

The compiler publishes the predicates of a tree as flat records of texts: the operands of a
range are joined by ` AND `, those of a list by `, ` inside parentheses. The flat record keeps
the operand texts but not their boundaries, so reading it back is a second parse.
-/

namespace DqMadeEasy

/-- Operators of a flat predicate. The regular-expression extractor can also produce operator
texts the tree never has; they are kept as `other`. -/
inductive Operator where
  | isNull | isNotNull | isTrue
  | eq | ne | gt | ge | lt | le
  | between | notBetween
  | in_ | notIn
  | like | notLike | rlike | notRlike | notTilde
  | other (text : Text)
  deriving DecidableEq, Repr

/-- The `valueType` of a flat predicate. -/
inductive ValueType where
  | null | boolean | number | string | list | range | expression | unknown
  deriving DecidableEq, Repr

/-- A flat predicate of the intermediate model. -/
structure FlatPredicate where
  field : Text
  operator : Operator
  value : Text
  valueType : ValueType
  deriving DecidableEq, Repr

/-- Logical operators of the intermediate model. -/
inductive LogicalOperator where
  | and | or | not
  deriving DecidableEq, Repr

/-- The `filter` of an intermediate model. -/
structure FilterPayload where
  source : Text
  normalized : Text
  predicates : List FlatPredicate
  logicalOperators : List LogicalOperator
  ast : Option Ast

namespace Comparison

/-- Flat operator of a comparison. -/
def operator : Comparison → Operator
  | .eq => .eq
  | .ne => .ne
  | .gt => .gt
  | .ge => .ge
  | .lt => .lt
  | .le => .le

end Comparison

/-- Flat operator of a pattern test. -/
def PatternOp.operator : PatternOp → Operator
  | .like => .like
  | .notLike => .notLike
  | .rlike => .rlike
  | .notRlike => .notRlike
  | .notTilde => .notTilde

/-- Flat value type of an operand. -/
def OperandType.valueType : OperandType → ValueType
  | .number => .number
  | .string => .string
  | .boolean => .boolean
  | .expression => .expression

namespace Test

/-- The `operator` of a predicate node. -/
def operator : Test → Operator
  | .isNull => .isNull
  | .isNotNull => .isNotNull
  | .isTrue => .isTrue
  | .compare op _ => op.operator
  | .between false _ _ => .between
  | .between true _ _ => .notBetween
  | .inList false _ => .in_
  | .inList true _ => .notIn
  | .pattern op _ => op.operator

/-- The flat value text of a predicate node. -/
def valueText : Test → Text
  | .isNull => "NULL"
  | .isNotNull => "NULL"
  | .isTrue => "true"
  | .compare _ operand => operand.value
  | .between _ lower upper => lower.value ++ " AND " ++ upper.value
  | .inList _ values => '(' :: Text.join ", " (values.map Operand.value) ++ [')']
  | .pattern _ literal => literal.value

/-- The flat `valueType` of a predicate node. -/
def valueType : Test → ValueType
  | .isNull => .null
  | .isNotNull => .null
  | .isTrue => .boolean
  | .compare _ operand => operand.valueType.valueType
  | .between _ _ _ => .range
  | .inList _ _ => .list
  | .pattern _ literal => literal.valueType.valueType

end Test

/-- `_ast_predicate_to_flat`. -/
def Predicate.flatten (p : Predicate) : FlatPredicate where
  field := p.field
  operator := p.test.operator
  value := p.test.valueText
  valueType := p.test.valueType

namespace Ast

/-- `_collect_predicates_from_ast`. -/
def collectPredicates (ast : Ast) : List FlatPredicate :=
  ast.predicates.map Predicate.flatten

def connectiveOperator : Connective → LogicalOperator
  | .and => .and
  | .or => .or

/-- `_collect_logical_operators_from_ast`: in order, a `NOT` before its operand. -/
def collectLogicalOperators : Ast → List LogicalOperator
  | .predicate _ => []
  | .logical op left right =>
    left.collectLogicalOperators ++ connectiveOperator op :: right.collectLogicalOperators
  | .not operand => .not :: operand.collectLogicalOperators

theorem not_mem_collectLogicalOperators (ast : Ast) :
    .not ∈ ast.collectLogicalOperators ↔ ast.negationFree = false := by
  induction ast with
  | predicate p => simp [collectLogicalOperators, negationFree]
  | logical op left right ihl ihr =>
    have hop : LogicalOperator.not ≠ connectiveOperator op := by cases op <;> decide
    simp only [collectLogicalOperators, negationFree, List.mem_append, List.mem_cons, ihl, ihr,
      hop, false_or]
    cases left.negationFree <;> cases right.negationFree <;> simp
  | not operand ih => simp [collectLogicalOperators, negationFree]

theorem or_mem_collectLogicalOperators (ast : Ast) :
    .or ∈ ast.collectLogicalOperators ↔ ast.hasOr = true := by
  induction ast with
  | predicate p => simp [collectLogicalOperators, hasOr]
  | logical op left right ihl ihr =>
    cases op <;>
      simp [collectLogicalOperators, connectiveOperator, hasOr, List.mem_append, ihl, ihr]
  | not operand ih => simp [collectLogicalOperators, hasOr, ih]

end Ast

end DqMadeEasy
