import DqMadeEasy.Gx.RowCondition
import DqMadeEasy.Logic.Fallible

/-!
# Trees with a row condition

The lowerer accepts a tree in two cases. A tree with a wrapped field or a pattern operator is
passed through as a text. Any other tree needs to be free of `NOT`, to consist of lowerable
predicates, and to stay within two limits: the number of blocks, which multiplies at an `AND`,
and the number of statements in them.

Both numbers are computed here from the tree alone.
-/

namespace DqMadeEasy

namespace NormalForm

/-- The atoms of paired blocks: each block of one side is copied for each block of the other. -/
theorem cross_atoms {ι : Type*} (left right : List (List ι)) :
    ((cross left right).map List.length).sum =
      right.length * (left.map List.length).sum + left.length * (right.map List.length).sum := by
  have hrow (block : List ι) (blocks : List (List ι)) :
      ((blocks.map fun other => block ++ other).map List.length).sum =
        blocks.length * block.length + (blocks.map List.length).sum := by
    induction blocks with
    | nil => simp
    | cons other blocks ih =>
      simp only [List.map_cons, List.sum_cons, List.length_append, List.length_cons, ih]
      ring
  induction left with
  | nil => simp [cross]
  | cons block left ih =>
    have hsplit : cross (block :: left) right =
        right.map (fun other => block ++ other) ++ cross left right := rfl
    rw [hsplit, List.map_append, List.sum_append, hrow, ih]
    simp only [List.map_cons, List.sum_cons, List.length_cons]
    ring

end NormalForm

def Test.blockCount : Test → ℕ
  | .between true _ _ => 2
  | _ => 1

def Test.statementCount : Test → ℕ
  | .between _ _ _ => 2
  | _ => 1

namespace Ast

/-- Number of blocks a tree is lowered to. -/
def blockCount : Ast → ℕ
  | .predicate p => p.test.blockCount
  | .logical .and left right => left.blockCount * right.blockCount
  | .logical .or left right => left.blockCount + right.blockCount
  | .not operand => operand.blockCount

/-- Number of statements in the blocks of a tree. -/
def statementCount : Ast → ℕ
  | .predicate p => p.test.statementCount
  | .logical .and left right =>
    right.blockCount * left.statementCount + left.blockCount * right.statementCount
  | .logical .or left right => left.statementCount + right.statementCount
  | .not operand => operand.statementCount

theorem blockCount_pos (ast : Ast) : 0 < ast.blockCount := by
  induction ast with
  | predicate p => rw [blockCount, Test.blockCount.eq_def]; split <;> decide
  | logical op left right ihl ihr =>
    cases op with
    | and => exact Nat.mul_pos ihl ihr
    | or => exact Nat.add_pos_left ihl _
  | not operand ih => exact ih

end Ast

namespace Gx

variable [PyRuntime]

/-- A text that denotes a literal other than `NULL`. -/
def denotesValue (t : Text) : Bool :=
  match parseSqlLiteral t with
  | .ok value => value != .none
  | .error _ => false

/-- A test with literal operands that the lowerer accepts. Order comparisons need a number. -/
def Test.lowers : Test → Bool
  | .isNull => true
  | .isNotNull => true
  | .isTrue => true
  | .compare op operand =>
    operand.valueType != .expression &&
      match parseSqlLiteral operand.value with
      | .ok value => op == .eq || op == .ne || value.isNumber
      | .error _ => false
  | .between _ lower upper => denotesValue lower.value && denotesValue upper.value
  | .inList _ values =>
    values.all fun operand =>
      match parseSqlLiteral operand.value with
      | .ok _ => true
      | .error _ => false
  | .pattern _ _ => false

/-- A predicate the lowerer accepts: a column without a wrapper, and such a test. -/
def Predicate.lowers (p : Predicate) : Bool :=
  match parseFieldRef p.field with
  | .ok ref => ref.wrapper == none && Test.lowers p.test
  | .error _ => false

/-- A tree the lowerer accepts within its limits. -/
def lowers (ast : Ast) : Bool :=
  ast.negationFree && ast.predicates.all Predicate.lowers &&
    decide (ast.blockCount ≤ maxConditionBlocks) &&
    decide (ast.statementCount ≤ maxConditionStatements)

/-- A computation that succeeds exactly when a condition holds, with a result of this shape. -/
def Yields {β : Type} (x : Except GxExpectationBuildError β) (accepted : Bool) (P : β → Prop) :
    Prop :=
  match x with
  | .ok b => accepted = true ∧ P b
  | .error _ => accepted = false

/-- The shape of the blocks of a test or a tree. -/
def HasCounts (blockCount statements : ℕ) (blocks : List (List Atom)) : Prop :=
  blocks.length = blockCount ∧ statementCount blocks = statements

theorem comparisonBlocks_yields (field column : Text) (op : Comparison) (operand : Operand) :
    Yields (comparisonBlocks field column op operand) (Test.lowers (.compare op operand))
      (HasCounts 1 1) := by
  rw [comparisonBlocks, Test.lowers]
  by_cases hexpression : operand.valueType = .expression
  · rw [if_pos hexpression, hexpression]
    rfl
  · have hliteral : (operand.valueType != OperandType.expression) = true := by
      simpa using hexpression
    rw [if_neg hexpression, hliteral, literalFromAst]
    cases parseSqlLiteral operand.value with
    | error e => rfl
    | ok value =>
      cases hnumber : value.isNumber <;> cases op <;>
        simp [Yields, HasCounts, statementCount, hnumber, raise]

theorem boundsOf_yields (lower upper : Text) :
    Yields (boundsOf lower upper) (denotesValue lower && denotesValue upper) fun _ => True := by
  rw [boundsOf, denotesValue, denotesValue]
  cases parseSqlLiteral lower with
  | error e => rfl
  | ok low =>
    cases parseSqlLiteral upper with
    | error e =>
      cases low <;> rfl
    | ok high =>
      by_cases hlow : low = .none <;> by_cases hhigh : high = .none <;>
        simp [Yields, hlow, hhigh, raise]

theorem rangeBlocks_yields (column : Text) (negated : Bool) (lower upper : Operand) :
    Yields (rangeBlocks column negated lower upper) (Test.lowers (.between negated lower upper))
      (HasCounts (Test.between negated lower upper).blockCount 2) := by
  have hbounds := boundsOf_yields lower.value upper.value
  rw [rangeBlocks, Test.lowers]
  cases hresult : boundsOf lower.value upper.value with
  | error e =>
    rw [hresult] at hbounds
    exact hbounds
  | ok bounds =>
    rw [hresult] at hbounds
    cases negated <;> exact ⟨hbounds.1, rfl, rfl⟩

theorem literals_yields (negated : Bool) (operands : List Operand) :
    Yields (operands.mapM literalFromAst) (Test.lowers (.inList negated operands))
      fun _ => True := by
  rw [Test.lowers]
  induction operands with
  | nil => exact ⟨rfl, trivial⟩
  | cons operand operands ih =>
    rw [List.mapM_cons, List.all_cons, literalFromAst]
    cases parseSqlLiteral operand.value with
    | error e => rfl
    | ok value =>
      cases hrest : operands.mapM literalFromAst with
      | error e =>
        rw [hrest] at ih
        simpa [Yields] using ih
      | ok values =>
        rw [hrest] at ih
        exact ⟨by simpa using ih.1, trivial⟩

theorem membership_yields (column : Text) (negated : Bool) (operands : List Operand) :
    Yields (do
        let literals ← operands.mapM literalFromAst
        .ok [[Atom.membership column negated literals]])
      (Test.lowers (.inList negated operands)) (HasCounts 1 1) := by
  have hvalues := literals_yields negated operands
  cases hresult : operands.mapM literalFromAst with
  | error e =>
    rw [hresult] at hvalues
    exact hvalues
  | ok literals =>
    rw [hresult] at hvalues
    exact ⟨hvalues.1, rfl, rfl⟩

/-- The lowerer accepts a predicate exactly when it is lowerable. -/
theorem predicateToBlocks_yields (p : Predicate) :
    Yields (predicateToBlocks p) (Predicate.lowers p)
      (HasCounts p.test.blockCount p.test.statementCount) := by
  obtain ⟨field, test⟩ := p
  rw [predicateToBlocks, Predicate.lowers]
  cases parseFieldRef field with
  | error e => rfl
  | ok ref =>
    obtain ⟨column, wrapper⟩ := ref
    cases wrapper with
    | some wrapper => rfl
    | none =>
      cases test with
      | isNull => exact ⟨rfl, rfl, rfl⟩
      | isNotNull => exact ⟨rfl, rfl, rfl⟩
      | isTrue => exact ⟨rfl, rfl, rfl⟩
      | compare op operand => exact comparisonBlocks_yields field column op operand
      | between negated lower upper => exact rangeBlocks_yields column negated lower upper
      | inList negated values => exact membership_yields column negated values
      | pattern op literal => rfl

/-- The lowerer accepts a tree exactly when it is free of `NOT` and all its predicates are
lowerable, and the sizes are those computed from the tree. -/
theorem astToBlocks_yields (ast : Ast) :
    Yields (astToBlocks ast) (ast.negationFree && ast.predicates.all Predicate.lowers)
      (HasCounts ast.blockCount ast.statementCount) := by
  induction ast with
  | predicate p =>
    have hpredicate := predicateToBlocks_yields p
    rw [astToBlocks]
    simpa [Ast.negationFree, Ast.predicates, Ast.blockCount, Ast.statementCount] using hpredicate
  | logical op left right ihl ihr =>
    rw [astToBlocks]
    cases hleft : astToBlocks left with
    | error e =>
      rw [hleft] at ihl
      have hno : (left.negationFree && left.predicates.all Predicate.lowers) = false := ihl
      simp only [error_bind, Yields, Ast.negationFree, Ast.predicates, List.all_append]
      revert hno
      cases left.negationFree <;> cases left.predicates.all Predicate.lowers <;> simp
    | ok leftBlocks =>
      rw [hleft] at ihl
      obtain ⟨haccepted, hlength, hcount⟩ := ihl
      cases hright : astToBlocks right with
      | error e =>
        rw [hright] at ihr
        have hno : (right.negationFree && right.predicates.all Predicate.lowers) = false := ihr
        simp only [ok_bind, error_bind, Yields, Ast.negationFree, Ast.predicates, List.all_append]
        revert hno
        cases right.negationFree <;> cases right.predicates.all Predicate.lowers <;> simp
      | ok rightBlocks =>
        rw [hright] at ihr
        obtain ⟨haccepted', hlength', hcount'⟩ := ihr
        simp only [Bool.and_eq_true] at haccepted haccepted'
        cases op with
        | and =>
          refine ⟨by simp [Ast.negationFree, Ast.predicates, haccepted, haccepted'], ?_, ?_⟩
          · rw [NormalForm.cross_length, hlength, hlength', Ast.blockCount]
          · rw [statementCount, NormalForm.cross_atoms, hlength, hlength', Ast.statementCount]
            simp only [statementCount] at hcount hcount'
            rw [hcount, hcount']
        | or =>
          refine ⟨by simp [Ast.negationFree, Ast.predicates, haccepted, haccepted'], ?_, ?_⟩
          · rw [List.length_append, hlength, hlength', Ast.blockCount]
          · simp only [statementCount] at hcount hcount' ⊢
            rw [List.map_append, List.sum_append, hcount, hcount', Ast.statementCount]
  | not operand ih => rfl

/-- A payload has a row condition exactly when it has a tree that is passed through, with a text
to pass, or lowered within the limits. -/
theorem buildRowCondition_isOk (payload : FilterPayload) :
    (∃ artifact, buildRowCondition payload = .ok artifact) ↔
      ∃ ast, payload.ast = some ast ∧
        if requiresPassThrough ast then passThroughFilter payload ≠ [] else lowers ast = true := by
  rw [buildRowCondition]
  cases payload.ast with
  | none => simp [raise]
  | some ast =>
    simp only [Option.some.injEq, exists_eq_left']
    split
    · rw [passThroughArtifact]
      split <;> simp_all [raise]
    · have hblocks := astToBlocks_yields ast
      rw [lowers]
      cases hresult : astToBlocks ast with
      | error e =>
        rw [hresult] at hblocks
        have hno : (ast.negationFree && ast.predicates.all Predicate.lowers) = false := hblocks
        simp [hno]
      | ok blocks =>
        rw [hresult] at hblocks
        obtain ⟨haccepted, hlength, hcount⟩ := hblocks
        have hne : blocks ≠ [] := by
          intro hnil
          have := ast.blockCount_pos
          rw [← hlength, hnil] at this
          simp at this
        simp only [ok_bind, structuredArtifact, hne, if_false, hlength, hcount, haccepted,
          Bool.true_and]
        by_cases hmax : maxConditionBlocks < ast.blockCount
        · simp [hmax, raise, Nat.not_le.mpr hmax]
        · by_cases hmax' : maxConditionStatements < ast.statementCount
          · simp [hmax, hmax', raise, Nat.not_le.mpr hmax']
          · simp [hmax, hmax', Nat.not_lt.mp hmax, Nat.not_lt.mp hmax']

end Gx

end DqMadeEasy
