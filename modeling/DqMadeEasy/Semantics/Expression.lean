import DqMadeEasy.Logic.Fallible
import DqMadeEasy.Semantics.Sample

/-!
# Meaning of expression trees

The truth of an expression tree on a row, in the three-valued logic of the query language. It is
stated from the grammar, not from the lowering: a comparison compares the field with its operand,
a range is two comparisons, a list is a disjunction of equalities, `LIKE` matches wildcards
against the whole text, and a bare field is its own truth value.

The meaning is parametric in how a field reference is read, so that the same definition also
says what a tree means when every reference is replaced by its bare column.
-/

namespace DqMadeEasy

namespace Engine

variable {Cell : Type*} (E : Engine Cell) [PyRuntime]

def operandCell (row : Row Cell) (operand : Operand) : Cell :=
  match Gx.parseSqlLiteral operand.value with
  | .ok value => E.lit value
  | .error _ => E.scalar row operand.value

def inRange (a low high : Cell) : Truth := E.compare .ge a low ⊓ E.compare .le a high

/-- Text test of a pattern operator. -/
def patternTest (op : PatternOp) (literal : Operand) (t : Text) : Bool :=
  match op with
  | .like => Pattern.wildcardMatches (Gx.stripSqlStringQuotes literal.value) t
  | .notLike => !Pattern.wildcardMatches (Gx.stripSqlStringQuotes literal.value) t
  | .rlike => E.rlike (Gx.stripSqlStringQuotes literal.value) t
  | .notRlike => !E.rlike (Gx.stripSqlStringQuotes literal.value) t
  | .notTilde => !E.rlike (Gx.stripSqlStringQuotes literal.value) t

/-- Truth of a test on the cell of its field. `bare` reads a bare field as a condition. -/
def testTruth (bare : Option Bool → Truth) (row : Row Cell) (a : Cell) : Test → Truth
  | .isNull => Truth.ofBool (E.isNull a)
  | .isNotNull => Truth.ofBool !E.isNull a
  | .isTrue => bare (E.boolean a)
  | .compare op operand => E.compare op a (E.operandCell row operand)
  | .between false low high => E.inRange a (E.operandCell row low) (E.operandCell row high)
  | .between true low high => (E.inRange a (E.operandCell row low) (E.operandCell row high)).not
  | .inList false values => E.isIn a (values.map (E.operandCell row))
  | .inList true values => (E.isIn a (values.map (E.operandCell row))).not
  | .pattern op literal => E.textTest (E.patternTest op literal) a

/-- Truth of a tree, given the cell of every field reference. -/
def truthWith (bare : Option Bool → Truth) (row : Row Cell) (field : Text → Cell) : Ast → Truth
  | .predicate p => E.testTruth bare row (field p.field) p.test
  | .logical .and left right =>
    truthWith bare row field left ⊓ truthWith bare row field right
  | .logical .or left right =>
    truthWith bare row field left ⊔ truthWith bare row field right
  | .not operand => (truthWith bare row field operand).not

def truth (row : Row Cell) (ast : Ast) : Truth :=
  E.truthWith Truth.ofOption row (E.scalar row) ast

def predicateTruth (row : Row Cell) (p : Predicate) : Truth :=
  E.testTruth Truth.ofOption row (E.scalar row p.field) p.test

/-- The two-valued reading of a bare field as SQL's `IS TRUE`, false on a missing cell. -/
def isTrueTest (b : Option Bool) : Truth := Truth.ofBool (b == some true)

def satisfies (row : Row Cell) (ast : Ast) : Prop := E.truth row ast = .yes

instance (row : Row Cell) (ast : Ast) : Decidable (E.satisfies row ast) :=
  inferInstanceAs (Decidable (E.truth row ast = .yes))

@[simp] theorem truth_predicate (row : Row Cell) (p : Predicate) :
    E.truth row (.predicate p) = E.predicateTruth row p := rfl

@[simp] theorem truth_and (row : Row Cell) (left right : Ast) :
    E.truth row (.logical .and left right) = E.truth row left ⊓ E.truth row right := rfl

@[simp] theorem truth_or (row : Row Cell) (left right : Ast) :
    E.truth row (.logical .or left right) = E.truth row left ⊔ E.truth row right := rfl

/-- Value of a serialised row condition on a row; `filter` evaluates passed-through texts. -/
def conditionTruth (filter : Text → Row Cell → Truth) (row : Row Cell)
    (condition : Gx.Condition) : Truth :=
  condition.eval (E.atomTruth row) fun t => filter t row

/-- The row condition reads each reference as its bare column: qualifiers and casts are gone. -/
def bareColumn (row : Row Cell) (field : Text) : Cell :=
  match Gx.parseFieldRef field with
  | .ok ref => row ref.column
  | .error _ => E.scalar row field

omit [PyRuntime] in
theorem bareColumn_of_unwrapped {row : Row Cell} {field : Text}
    (h : Gx.isUnwrapped field = true) : E.bareColumn row field = E.scalar row field := by
  obtain ⟨column, hcolumn⟩ := Option.isSome_iff_exists.mp h
  rw [bareColumn, Gx.parseFieldRef_of_unwrapped hcolumn, E.scalar_unwrapped row field column hcolumn]

end Engine

namespace Gx

variable {Cell : Type*} (E : Engine Cell) [PyRuntime]

/-! ### Row conditions mean their trees -/

theorem operandCell_of_ok {row : Row Cell} {operand : Operand} {value : PyValue}
    (h : parseSqlLiteral operand.value = .ok value) : E.operandCell row operand = E.lit value := by
  rw [Engine.operandCell, h]

theorem operandCells_of_ok {row : Row Cell} {operands : List Operand} {values : List PyValue}
    (h : operands.mapM literalFromAst = .ok values) :
    operands.map (E.operandCell row) = values.map E.lit := by
  induction mapM_ok h with
  | nil => rfl
  | cons hvalue hrest ih =>
    rw [List.map_cons, List.map_cons, operandCell_of_ok E hvalue, ih (mapM_of_forall₂ hrest)]

theorem comparisonBlocks_ok {field column : Text} {op : Comparison} {operand : Operand}
    {blocks : List (List Atom)} (h : comparisonBlocks field column op operand = .ok blocks) :
    ∃ value, parseSqlLiteral operand.value = .ok value ∧
      blocks = [[.comparison column op value]] := by
  unfold comparisonBlocks at h
  split at h
  · cases h
  · obtain ⟨value, hvalue, h⟩ := ok_of_bind h
    refine ⟨value, hvalue, ?_⟩
    cases op <;> simp only at h <;>
      first
        | (cases h; rfl)
        | (split at h <;> cases h; rfl)

theorem boundsOf_ok {lower upper : Text} {low high : PyValue}
    (h : boundsOf lower upper = .ok (low, high)) :
    parseSqlLiteral lower = .ok low ∧ parseSqlLiteral upper = .ok high ∧
      low ≠ .none ∧ high ≠ .none := by
  unfold boundsOf at h
  obtain ⟨low', hlow, h⟩ := ok_of_bind h
  obtain ⟨high', hhigh, h⟩ := ok_of_bind h
  split at h
  · cases h
  · rename_i hne
    cases h
    simp only [not_or] at hne
    exact ⟨hlow, hhigh, hne.1, hne.2⟩

/-- What the blocks of one predicate are worth: the predicate itself, with its field read as a
bare column. -/
theorem evalBlocks_predicateToBlocks {row : Row Cell} {p : Predicate}
    {blocks : List (List Atom)} (h : predicateToBlocks p = .ok blocks) :
    NormalForm.evalBlocks (E.atomTruth row) blocks =
      E.testTruth Truth.ofOption row (E.bareColumn row p.field) p.test := by
  obtain ⟨ref, href, h⟩ := ok_of_bind h
  have hbare : E.bareColumn row p.field = row ref.column := by rw [Engine.bareColumn, href]
  rw [hbare]
  split at h
  · cases h
  · split at h
    · rename_i htest
      cases h
      rw [htest]
      simp only [NormalForm.evalBlocks_cons, NormalForm.evalBlock_cons, NormalForm.evalBlock_nil,
        NormalForm.evalBlocks_nil, Engine.testTruth, Engine.atomTruth]
      cases E.isNull (row ref.column) <;> rfl
    · rename_i htest
      cases h
      rw [htest]
      simp only [NormalForm.evalBlocks_cons, NormalForm.evalBlock_cons, NormalForm.evalBlock_nil,
        NormalForm.evalBlocks_nil, Engine.testTruth, Engine.atomTruth]
      cases E.isNull (row ref.column) <;> rfl
    · rename_i htest
      cases h
      rw [htest]
      have hholds : (fun o => o == Ordering.eq) = Comparison.eq.holds := rfl
      simp only [NormalForm.evalBlocks_cons, NormalForm.evalBlock_cons, NormalForm.evalBlock_nil,
        NormalForm.evalBlocks_nil, Engine.testTruth, Engine.atomTruth, inf_top_eq, sup_bot_eq,
        E.boolean_eq, hholds]
      rfl
    · rename_i op operand htest
      obtain ⟨value, hvalue, rfl⟩ := comparisonBlocks_ok h
      rw [htest]
      simp only [NormalForm.evalBlocks_cons, NormalForm.evalBlock_cons, NormalForm.evalBlock_nil,
        NormalForm.evalBlocks_nil, Engine.testTruth, Engine.atomTruth, inf_top_eq, sup_bot_eq,
        operandCell_of_ok E hvalue]
    · rename_i negated lower upper htest
      obtain ⟨⟨low, high⟩, hbounds, h⟩ := ok_of_bind h
      obtain ⟨hlow, hhigh, -, -⟩ := boundsOf_ok hbounds
      rw [htest]
      cases negated with
      | false =>
        cases h
        simp only [NormalForm.evalBlocks_cons, NormalForm.evalBlock_cons,
          NormalForm.evalBlock_nil, NormalForm.evalBlocks_nil, Engine.testTruth, Engine.atomTruth,
          Engine.inRange, inf_top_eq, sup_bot_eq, operandCell_of_ok E hlow,
          operandCell_of_ok E hhigh]
      | true =>
        cases h
        -- the two blocks are the negated bounds, joined by De Morgan
        have hlt : E.compare .lt (row ref.column) (E.lit low) =
            (E.compare .ge (row ref.column) (E.lit low)).not := E.compare_negate .ge _ _
        have hgt : E.compare .gt (row ref.column) (E.lit high) =
            (E.compare .le (row ref.column) (E.lit high)).not := E.compare_negate .le _ _
        simp only [NormalForm.evalBlocks_cons, NormalForm.evalBlock_cons,
          NormalForm.evalBlock_nil, NormalForm.evalBlocks_nil, Engine.testTruth, Engine.atomTruth,
          Engine.inRange, inf_top_eq, sup_bot_eq, operandCell_of_ok E hlow,
          operandCell_of_ok E hhigh, hlt, hgt, Truth.not_inf]
    · rename_i negated values htest
      obtain ⟨literals, hliterals, h⟩ := ok_of_bind h
      cases h
      rw [htest]
      cases negated <;>
        simp only [NormalForm.evalBlocks_cons, NormalForm.evalBlock_cons,
          NormalForm.evalBlock_nil, NormalForm.evalBlocks_nil, Engine.testTruth, Engine.atomTruth,
          inf_top_eq, sup_bot_eq, operandCells_of_ok E hliterals]
    · cases h

variable {ast : Ast} {artifact : RowConditionArtifact}

/-- The blocks of a tree are worth the tree, with every field read as a bare column. -/
theorem evalBlocks_astToBlocks {row : Row Cell} :
    ∀ {blocks : List (List Atom)}, astToBlocks ast = .ok blocks →
      NormalForm.evalBlocks (E.atomTruth row) blocks =
        E.truthWith Truth.ofOption row (E.bareColumn row) ast := by
  induction ast with
  | predicate p => exact fun h => evalBlocks_predicateToBlocks E h
  | logical op left right ihl ihr =>
    intro blocks h
    obtain ⟨leftBlocks, hleft, h⟩ := ok_of_bind h
    obtain ⟨rightBlocks, hright, h⟩ := ok_of_bind h
    cases op with
    | and =>
      cases h
      rw [NormalForm.evalBlocks_cross, ihl hleft, ihr hright, Engine.truthWith]
    | or =>
      cases h
      rw [NormalForm.evalBlocks_append, ihl hleft, ihr hright, Engine.truthWith]
  | not operand ih =>
    intro blocks h
    cases h

omit [PyRuntime] in
theorem structuredArtifact_ok {blocks : List (List Atom)}
    (h : structuredArtifact blocks = .ok artifact) :
    artifact.serializedCondition = combineSerializedConditionBlocks blocks ∧
      artifact.representation = .structured ∧ blocks.length ≤ maxConditionBlocks ∧
      statementCount blocks ≤ maxConditionStatements := by
  unfold structuredArtifact at h
  split at h
  · cases h
  split at h
  · cases h
  split at h
  · cases h
  · cases h
    exact ⟨rfl, rfl, by omega, by omega⟩

omit [PyRuntime] in
theorem passThroughArtifact_ok {payload : FilterPayload}
    (h : passThroughArtifact payload = .ok artifact) :
    artifact.serializedCondition = .passThrough (passThroughFilter payload) ∧
      artifact.representation = .passThrough := by
  unfold passThroughArtifact at h
  split at h
  · cases h
  · cases h
    exact ⟨rfl, rfl⟩

/-- The two ways a row condition is built. -/
theorem buildRowCondition_ok {payload : FilterPayload}
    (h : buildRowCondition payload = .ok artifact) :
    ∃ ast, payload.ast = some ast ∧
      ((requiresPassThrough ast = true ∧ passThroughArtifact payload = .ok artifact) ∨
        (requiresPassThrough ast = false ∧ ∃ blocks, astToBlocks ast = .ok blocks ∧
          structuredArtifact blocks = .ok artifact)) := by
  unfold buildRowCondition at h
  split at h
  · cases h
  · rename_i ast hast
    refine ⟨ast, hast, ?_⟩
    split at h
    · rename_i hpass
      exact .inl ⟨hpass, h⟩
    · rename_i hpass
      obtain ⟨blocks, hblocks, h⟩ := ok_of_bind h
      exact .inr ⟨by simpa using hpass, blocks, hblocks, h⟩

theorem conditionTruth_of_structured {payload : FilterPayload} (hast : payload.ast = some ast)
    (h : buildRowCondition payload = .ok artifact)
    (hstructured : artifact.representation = .structured) (filter : Text → Row Cell → Truth)
    (row : Row Cell) :
    E.conditionTruth filter row artifact.serializedCondition =
      E.truthWith Truth.ofOption row (E.bareColumn row) ast := by
  obtain ⟨ast', hast', hcases⟩ := buildRowCondition_ok h
  obtain rfl : ast = ast' := by simpa [hast] using hast'
  rcases hcases with ⟨-, hpass⟩ | ⟨-, blocks, hblocks, hartifact⟩
  · rw [(passThroughArtifact_ok hpass).2] at hstructured
    cases hstructured
  · rw [(structuredArtifact_ok hartifact).1, Engine.conditionTruth,
      eval_combineSerializedConditionBlocks, evalBlocks_astToBlocks E hblocks]

theorem truthWith_congr {bare : Option Bool → Truth} {row : Row Cell} {field field' : Text → Cell}
    (h : ∀ p ∈ ast.predicates, field p.field = field' p.field) :
    E.truthWith bare row field ast = E.truthWith bare row field' ast := by
  induction ast with
  | predicate p => simp only [Engine.truthWith, h p (by simp [Ast.predicates])]
  | logical op left right ihl ihr =>
    have hleft := ihl fun p hp => h p (List.mem_append_left _ hp)
    have hright := ihr fun p hp => h p (List.mem_append_right _ hp)
    cases op <;> simp only [Engine.truthWith, hleft, hright]
  | not operand ih => simp only [Engine.truthWith, ih h]

/-- Reading a bare field with SQL's two-valued `IS TRUE` selects the same rows, as long as
nothing is negated. -/
theorem truthWith_isTrueTest {row : Row Cell} {field : Text → Cell} (h : ast.negationFree = true) :
    E.truthWith Engine.isTrueTest row field ast = .yes ↔
      E.truthWith Truth.ofOption row field ast = .yes := by
  induction ast with
  | predicate p =>
    simp only [Engine.truthWith]
    cases p.test with
    | isTrue =>
      simp only [Engine.testTruth, Engine.isTrueTest]
      cases E.boolean (field p.field) with
      | none => simp
      | some b => cases b <;> simp
    | between negated low high => cases negated <;> rfl
    | inList negated values => cases negated <;> rfl
    | isNull => rfl
    | isNotNull => rfl
    | compare op operand => rfl
    | pattern op literal => rfl
  | logical op left right ihl ihr =>
    simp only [Ast.negationFree, Bool.and_eq_true] at h
    cases op with
    | and => simp only [Engine.truthWith, Truth.inf_eq_yes, ihl h.1, ihr h.2]
    | or => simp only [Engine.truthWith, Truth.sup_eq_yes, ihl h.1, ihr h.2]
  | not operand ih => cases h

theorem negationFree_of_astToBlocks :
    ∀ {blocks : List (List Atom)}, astToBlocks ast = .ok blocks → ast.negationFree = true := by
  induction ast with
  | predicate p => exact fun _ => rfl
  | logical op left right ihl ihr =>
    intro blocks h
    obtain ⟨leftBlocks, hleft, h⟩ := ok_of_bind h
    obtain ⟨rightBlocks, hright, -⟩ := ok_of_bind h
    simp [Ast.negationFree, ihl hleft, ihr hright]
  | not operand ih =>
    intro blocks h
    cases h

/-- The filter `a NOT BETWEEN 2 AND 3 OR b` of the example below. -/
def negatedRangeFilter : FilterPayload where
  source := "a NOT BETWEEN 2 AND 3 OR b"
  normalized := "a NOT BETWEEN 2 AND 3 OR b"
  predicates := []
  logicalOperators := [.or]
  ast := some (.logical .or
    (.predicate ⟨['a'], .between true ⟨['2'], .number⟩ ⟨['3'], .number⟩⟩)
    (.predicate ⟨['b'], .isTrue⟩))

end Gx

end DqMadeEasy
