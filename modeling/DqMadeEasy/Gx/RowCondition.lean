import DqMadeEasy.Compiler.Flatten
import DqMadeEasy.Gx.FieldRef
import DqMadeEasy.Logic.NormalForm

/-!
# Row conditions

A row condition selects the rows an expectation looks at. The lowerer turns an expression tree
into blocks of column tests, an `AND` pairing the blocks of its operands and an `OR` appending
them, and serialises the blocks as an `or` of `and`s, collapsing one-element lists. Trees with a
wrapped field or a pattern operator are not lowered: the normalised text is passed through.

`Condition.eval` gives a serialised condition a value in any bounded distributive lattice, from
the values of its column tests.
-/

namespace DqMadeEasy

namespace Gx

/-- One column test, the `serialized` part of `_RenderedCondition`. `membership` is the
comparison with operator `IN` or `NOT_IN`, whose parameter is a list. -/
inductive Atom where
  | comparison (column : Text) (op : Comparison) (parameter : PyValue)
  | membership (column : Text) (negated : Bool) (values : List PyValue)
  | nullity (column : Text) (isNull : Bool)
  deriving DecidableEq

def Atom.column : Atom → Text
  | .comparison column _ _ => column
  | .membership column _ _ => column
  | .nullity column _ => column

/-- A serialised row condition. -/
inductive Condition where
  | atom (a : Atom)
  | and (conditions : List Condition)
  | or (conditions : List Condition)
  | passThrough (filter : Text)

namespace Condition

mutual

/-- Equality of conditions is decidable. -/
def decEq : (a b : Condition) → Decidable (a = b)
  | .atom a, .atom b => decidable_of_iff (a = b) (by simp)
  | .and as, .and bs =>
    match decEqList as bs with
    | isTrue h => isTrue (by rw [h])
    | isFalse h => isFalse (by simpa using h)
  | .or as, .or bs =>
    match decEqList as bs with
    | isTrue h => isTrue (by rw [h])
    | isFalse h => isFalse (by simpa using h)
  | .passThrough s, .passThrough t => decidable_of_iff (s = t) (by simp)
  | .atom _, .and _ | .atom _, .or _ | .atom _, .passThrough _ => isFalse (by simp)
  | .and _, .atom _ | .and _, .or _ | .and _, .passThrough _ => isFalse (by simp)
  | .or _, .atom _ | .or _, .and _ | .or _, .passThrough _ => isFalse (by simp)
  | .passThrough _, .atom _ | .passThrough _, .and _ | .passThrough _, .or _ => isFalse (by simp)

/-- Equality of lists of conditions is decidable. -/
def decEqList : (as bs : List Condition) → Decidable (as = bs)
  | [], [] => isTrue rfl
  | [], _ :: _ => isFalse (by simp)
  | _ :: _, [] => isFalse (by simp)
  | a :: as, b :: bs =>
    match decEq a b, decEqList as bs with
    | isTrue h, isTrue h' => isTrue (by rw [h, h'])
    | isFalse h, _ => isFalse (by simp [h])
    | _, isFalse h => isFalse (by simp [h])

end

instance : DecidableEq Condition := decEq

variable {α : Type*} [DistribLattice α] [BoundedOrder α]

mutual

/-- Value of a condition from the values of its column tests and of its passed-through texts. -/
def eval (v : Atom → α) (text : Text → α) : Condition → α
  | .atom a => v a
  | .and conditions => evalAll v text conditions
  | .or conditions => evalAny v text conditions
  | .passThrough filter => text filter

def evalAll (v : Atom → α) (text : Text → α) : List Condition → α
  | [] => ⊤
  | condition :: rest => eval v text condition ⊓ evalAll v text rest

def evalAny (v : Atom → α) (text : Text → α) : List Condition → α
  | [] => ⊥
  | condition :: rest => eval v text condition ⊔ evalAny v text rest

end

theorem evalAll_atoms (v : Atom → α) (text : Text → α) (block : List Atom) :
    evalAll v text (block.map .atom) = NormalForm.evalBlock v block := by
  induction block with
  | nil => simp [evalAll]
  | cons a block ih => simp [evalAll, eval, ih]

end Condition

/-- Limits of `build_gx_row_condition_from_intermediate_model`. -/
def maxConditionBlocks : ℕ := 16

/-- Limits of `build_gx_row_condition_from_intermediate_model`. -/
def maxConditionStatements : ℕ := 100

/-- One serialised block: a single test stands for itself. -/
def serializeBlock : List Atom → Condition
  | [a] => .atom a
  | block => .and (block.map .atom)

def combineSerializedConditionBlocks (blocks : List (List Atom)) : Condition :=
  match blocks.map serializeBlock with
  | [block] => block
  | serialized => .or serialized

section Meaning

variable {α : Type*} [DistribLattice α] [BoundedOrder α]

theorem eval_serializeBlock (v : Atom → α) (text : Text → α) (block : List Atom) :
    (serializeBlock block).eval v text = NormalForm.evalBlock v block := by
  unfold serializeBlock
  split
  · simp [Condition.eval]
  · exact Condition.evalAll_atoms v text block

/-- Serialising blocks keeps their value: the collapsed forms do not change it. -/
theorem eval_combineSerializedConditionBlocks (v : Atom → α) (text : Text → α)
    (blocks : List (List Atom)) :
    (combineSerializedConditionBlocks blocks).eval v text = NormalForm.evalBlocks v blocks := by
  have hany (blocks : List (List Atom)) :
      Condition.evalAny v text (blocks.map serializeBlock) = NormalForm.evalBlocks v blocks := by
    induction blocks with
    | nil => rfl
    | cons block blocks ih =>
      simp only [List.map_cons, Condition.evalAny, NormalForm.evalBlocks_cons, ih,
        eval_serializeBlock]
  unfold combineSerializedConditionBlocks
  split
  · rename_i condition hsingle
    have := hany blocks
    rw [hsingle] at this
    simpa [Condition.evalAny] using this
  · exact hany blocks

end Meaning

/-- How a row condition was obtained. -/
inductive Representation where
  | structured
  | passThrough
  deriving DecidableEq, Repr

/-- The row-condition artifact. Counts are present for the structured form only. -/
structure RowConditionArtifact where
  conditionBlockCount : Option ℕ
  conditionStatementCount : Option ℕ
  serializedCondition : Condition
  representation : Representation
  deriving DecidableEq

/-- Spelling of a pattern operator, as the errors quote it. -/
def patternOpName : PatternOp → String
  | .like => "LIKE"
  | .notLike => "NOT LIKE"
  | .rlike => "RLIKE"
  | .notRlike => "NOT RLIKE"
  | .notTilde => "!~"

/-- `_requires_pass_through_row_condition`. -/
def requiresPassThrough : Ast → Bool
  | .predicate p =>
    (wrapperMatch p.field.strip).isSome ||
      match p.test with
      | .pattern op _ => decide (op ≠ .notTilde)
      | _ => false
  | .logical _ left right => requiresPassThrough left || requiresPassThrough right
  | .not operand => requiresPassThrough operand

def nonLiteralOperand {α : Type} (field value : Text) : Except GxExpectationBuildError α :=
  raise ("Predicate '" ++ String.ofList field ++ "' uses non-literal expression RHS '" ++
    String.ofList value.strip ++ "'")

section Lowering

variable [PyRuntime]

/-- `_literal_from_ast_value` on an operand. -/
def literalFromAst (operand : Operand) : Except GxExpectationBuildError PyValue :=
  parseSqlLiteral operand.value

/-- The blocks of one comparison. -/
def comparisonBlocks (field column : Text) (op : Comparison) (operand : Operand) :
    Except GxExpectationBuildError (List (List Atom)) :=
  if operand.valueType = .expression then nonLiteralOperand field operand.value
  else do
    let literal ← literalFromAst operand
    match op with
    | .eq => .ok [[.comparison column .eq literal]]
    | .ne => .ok [[.comparison column .ne literal]]
    | op =>
      if literal.isNumber then .ok [[.comparison column op literal]]
      else
        raise ("Numeric comparison requires numeric literal, got: " ++
          String.ofList operand.value.strip)

/-- The blocks of a range; its negation splits in two. -/
def rangeBlocks (column : Text) (negated : Bool) (lower upper : Operand) :
    Except GxExpectationBuildError (List (List Atom)) := do
  let (low, high) ← boundsOf lower.value upper.value
  if negated then
    .ok [[.comparison column .lt low], [.comparison column .gt high]]
  else
    .ok [[.comparison column .ge low, .comparison column .le high]]

/-- `_predicate_to_row_condition_blocks`. -/
def predicateToBlocks (p : Predicate) : Except GxExpectationBuildError (List (List Atom)) := do
  let field ← parseFieldRef p.field
  if field.wrapper.isSome then
    raise ("GX row_condition prototype does not support wrapped field references like '" ++
      String.ofList p.field ++ "'")
  else
    match p.test with
    | .isNotNull => .ok [[.nullity field.column false]]
    | .isNull => .ok [[.nullity field.column true]]
    | .isTrue => .ok [[.comparison field.column .eq (.bool true)]]
    | .compare op operand => comparisonBlocks p.field field.column op operand
    | .between negated lower upper => rangeBlocks field.column negated lower upper
    | .inList negated values => do
      let literals ← values.mapM literalFromAst
      .ok [[.membership field.column negated literals]]
    | .pattern op _ =>
      raise ("GX row_condition prototype does not support predicate operator '" ++
        patternOpName op ++ "'")

/-- `_ast_to_rendered_condition_blocks`. -/
def astToBlocks : Ast → Except GxExpectationBuildError (List (List Atom))
  | .predicate p => predicateToBlocks p
  | .logical op left right => do
    let leftBlocks ← astToBlocks left
    let rightBlocks ← astToBlocks right
    match op with
    | .and => .ok (NormalForm.cross leftBlocks rightBlocks)
    | .or => .ok (leftBlocks ++ rightBlocks)
  | .not _ => raise "GX row_condition prototype does not support unary operator 'NOT'"

/-- The text a pass-through condition carries: the normalised expression, or the source when
that is empty. -/
def passThroughFilter (payload : FilterPayload) : Text :=
  Text.strip (if payload.normalized = [] then payload.source else payload.normalized)

/-- `_build_pass_through_row_condition_artifact`. -/
def passThroughArtifact (payload : FilterPayload) :
    Except GxExpectationBuildError RowConditionArtifact :=
  if passThroughFilter payload = [] then
    raise ("GX row_condition prototype cannot build a pass-through filter " ++
      "without a normalized expression")
  else .ok ⟨none, none, .passThrough (passThroughFilter payload), .passThrough⟩

def statementCount (blocks : List (List Atom)) : ℕ := (blocks.map List.length).sum

/-- The structured artifact of a list of blocks, within the limits. -/
def structuredArtifact (blocks : List (List Atom)) :
    Except GxExpectationBuildError RowConditionArtifact :=
  if blocks = [] then raise "GX row_condition prototype produced no condition blocks"
  else if maxConditionBlocks < blocks.length then
    raise ("GX row_condition prototype expands to " ++ toString blocks.length ++
      " blocks which exceeds the limit of " ++ toString maxConditionBlocks)
  else if maxConditionStatements < statementCount blocks then
    raise ("GX row_condition prototype requires " ++ toString (statementCount blocks) ++
      " condition statements which exceeds the limit of " ++ toString maxConditionStatements)
  else
    .ok ⟨some blocks.length, some (statementCount blocks),
      combineSerializedConditionBlocks blocks, .structured⟩

/-- `build_gx_row_condition_from_intermediate_model`. -/
def buildRowCondition (payload : FilterPayload) :
    Except GxExpectationBuildError RowConditionArtifact :=
  match payload.ast with
  | none => raise "Intermediate model is missing filter AST"
  | some ast =>
    if requiresPassThrough ast then passThroughArtifact payload
    else do
      let blocks ← astToBlocks ast
      structuredArtifact blocks

end Lowering

/-- The conjuncts of a condition: those of an `and`, unless it has none. -/
def conjuncts : Condition → List Condition
  | .and (condition :: rest) => condition :: rest
  | condition => [condition]

/-- `_merge_serialized_row_conditions`. -/
def mergeRowConditions (existing : Option Condition) (attached : Condition) : Condition :=
  match existing with
  | none => attached
  | some existing => .and (conjuncts existing ++ conjuncts attached)

end Gx

end DqMadeEasy
