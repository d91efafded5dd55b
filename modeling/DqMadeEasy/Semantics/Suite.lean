import DqMadeEasy.Compiler.Compile
import DqMadeEasy.Gx.Uniqueness
import DqMadeEasy.Semantics.Check

/-!
# What a translated filter reports

A filter that has a tree is translated to one expectation for each of its predicates. Without an
`OR` the expectations stand alone; with one, each of them carries the whole filter as its row
condition. Either way the rows the suite reports are determined by the tree: the rows that are in
scope and do not pass the check of some predicate.

The scope is not the tree itself when a field has a cast, because the row condition reads the
bare column.
-/

namespace DqMadeEasy

namespace Gx

def RowScoped (kind : ExpectationKind) : Prop :=
  kind.checksRows = true ∧ kind.primaryColumn.isIdent = true

section Scoped

variable [PyRuntime]

omit [PyRuntime] in
theorem isIdent_of_argumentColumn {argument column : Text}
    (h : argumentColumn argument = .ok column) : column.isIdent = true := by
  obtain ⟨ref, href, rfl⟩ := argumentColumn_ok h
  exact isIdent_of_parseFieldRef href

variable {p : FlatPredicate} {kind : ExpectationKind}

theorem rowScoped_expressionBased (h : expressionBasedKind p = .ok (some kind)) :
    RowScoped kind := by
  have hcurrent (h : currentTimeKind p = .ok (some kind)) : RowScoped kind := by
    unfold currentTimeKind at h
    split at h
    · obtain ⟨column, hcolumn, h⟩ := ok_of_bind h
      cases h
      exact ⟨rfl, isIdent_of_argumentColumn hcolumn⟩
    · cases h
  unfold expressionBasedKind at h
  split at h
  · split at h
    · obtain ⟨kind', hkind, h⟩ := ok_of_bind h
      cases h
      unfold regexpMatchesKind at hkind
      split at hkind
      · cases hkind
      split at hkind
      · obtain ⟨column, hcolumn, hkind⟩ := ok_of_bind hkind
        cases hkind
        exact ⟨rfl, isIdent_of_argumentColumn hcolumn⟩
      · obtain ⟨column, hcolumn, hkind⟩ := ok_of_bind hkind
        obtain ⟨flags, -, hkind⟩ := ok_of_bind hkind
        cases hkind
        exact ⟨rfl, isIdent_of_argumentColumn hcolumn⟩
      · cases hkind
    split at h
    · obtain ⟨kind', hkind, h⟩ := ok_of_bind h
      cases h
      unfold dateDiffKind at hkind
      split at hkind
      · split at hkind
        · cases hkind
        split at hkind
        · cases hkind
        obtain ⟨bound, -, hkind⟩ := ok_of_bind hkind
        obtain ⟨column, hcolumn, hkind⟩ := ok_of_bind hkind
        cases hkind
        exact ⟨rfl, isIdent_of_argumentColumn hcolumn⟩
      · cases hkind
    split at h
    · obtain ⟨kind', hkind, h⟩ := ok_of_bind h
      cases h
      unfold timestampDiffKind at hkind
      split at hkind
      · split at hkind
        · cases hkind
        split at hkind
        · cases hkind
        obtain ⟨bound, -, hkind⟩ := ok_of_bind hkind
        obtain ⟨column, hcolumn, hkind⟩ := ok_of_bind hkind
        obtain ⟨start, -, hkind⟩ := ok_of_bind hkind
        cases hkind
        exact ⟨rfl, isIdent_of_argumentColumn hcolumn⟩
      · cases hkind
    · exact hcurrent h
  · exact hcurrent h

theorem rowScoped_operatorKind {column : Text} (hcolumn : column.isIdent = true)
    (h : operatorKind p column = .ok kind) : RowScoped kind := by
  have hequality {negated : Bool} {value : Text} (h : equalityKind negated column value = .ok kind) :
      RowScoped kind := by
    obtain ⟨literal, -, h⟩ := ok_of_bind h
    cases h
    exact ⟨rfl, hcolumn⟩
  have horder {op : Comparison} {value : Text} (h : orderKind op column value = .ok kind) :
      RowScoped kind := by
    obtain ⟨literal, -, h⟩ := ok_of_bind h
    split at h
    · cases h
      exact ⟨rfl, hcolumn⟩
    · cases h
  have hrange {negated : Bool} {value : Text} (h : rangeKind negated column value = .ok kind) :
      RowScoped kind := by
    obtain ⟨bounds, -, h⟩ := ok_of_bind h
    cases h
    exact ⟨rfl, hcolumn⟩
  have hlist {negated : Bool} {value : Text} (h : listKind negated column value = .ok kind) :
      RowScoped kind := by
    obtain ⟨values, -, h⟩ := ok_of_bind h
    cases h
    exact ⟨rfl, hcolumn⟩
  have hrlike {negated : Bool} {value : Text} (h : rlikeKind negated column value = .ok kind) :
      RowScoped kind := by
    unfold rlikeKind at h
    split at h
    · cases h
    · cases h
      exact ⟨rfl, hcolumn⟩
  unfold operatorKind at h
  split at h
  · cases h; exact ⟨rfl, hcolumn⟩
  · cases h; exact ⟨rfl, hcolumn⟩
  · cases h; exact ⟨rfl, hcolumn⟩
  · split at h
    · cases h
    · split at h
      · exact hequality h
      · exact hequality h
      · exact horder h
      · exact horder h
      · exact horder h
      · exact horder h
      · exact hrange h
      · exact hrange h
      · exact hlist h
      · exact hlist h
      · cases h; exact ⟨rfl, hcolumn⟩
      · cases h; exact ⟨rfl, hcolumn⟩
      · exact hrlike h
      · exact hrlike h
      · cases h

/-- Every expectation of the translation is about single rows and names a column. -/
theorem rowScoped_translatePredicate (h : translatePredicate p = .ok kind) : RowScoped kind := by
  obtain ⟨special, hspecial, h⟩ := ok_of_bind h
  cases special with
  | some kind' =>
    cases h
    exact rowScoped_expressionBased hspecial
  | none =>
    obtain ⟨ref, href, h⟩ := ok_of_bind h
    have hcolumn := isIdent_of_parseFieldRef href
    split at h
    · obtain ⟨literal, -, h⟩ := ok_of_bind h
      split at h
      · cases h
        refine ⟨?_, hcolumn⟩
        cases p.operator == .ne <;> rfl
      · exact rowScoped_operatorKind hcolumn h
    · exact rowScoped_operatorKind hcolumn h

omit [PyRuntime] in
theorem attachRowCondition_of_rowScoped (h : RowScoped kind) (condition : Condition) (tags : Meta) :
    attachRowCondition condition { kind := kind, tags := tags } =
      { kind := kind, rowCondition := some condition, tags := tags } := by
  have hne : kind.primaryColumn.strip ≠ [] := by
    rw [strip_of_isIdent h.2]
    intro hnil
    have := h.2
    rw [hnil] at this
    cases this
  have htakes := ExpectationKind.takesRowCondition_of_checksRows h.1
  simp [attachRowCondition, htakes, hne, mergeRowConditions]

/-- A suite translated from a tree. -/
theorem buildExpectations_of_ast {payload : FilterPayload} {ast : Ast} {tags : Meta}
    {suite : List Expectation} (hast : payload.ast = some ast)
    (hpredicates : payload.predicates = ast.collectPredicates)
    (hoperators : payload.logicalOperators = ast.collectLogicalOperators)
    (hwindow : parseUniquenessColumns (passThroughFilter payload) = none)
    (hallowlist : conditionalAllowlist (some ast) = .ok none)
    (h : buildExpectations payload tags = .ok suite) :
    ast.negationFree = true ∧ ∃ kinds,
      ast.collectPredicates.mapM translatePredicate = .ok kinds ∧
      ((ast.hasOr = false ∧ suite = kinds.map fun kind => { kind := kind, tags := tags }) ∨
        (ast.hasOr = true ∧ ∃ artifact, buildRowCondition payload = .ok artifact ∧
          suite = kinds.map fun kind =>
            { kind := kind, rowCondition := some artifact.serializedCondition, tags := tags })) := by
  unfold buildExpectations at h
  simp only [hwindow, hast, hallowlist, ok_bind, hoperators, hpredicates,
    Ast.not_mem_collectLogicalOperators, Ast.or_mem_collectLogicalOperators, reduceCtorEq,
    and_false, if_false] at h
  split at h
  · cases h
  rename_i hfree
  split at h
  · cases h
  obtain ⟨kinds, hkinds, h⟩ := ok_of_bind h
  refine ⟨by simpa using hfree, kinds, hkinds, ?_⟩
  split at h
  · rename_i hor
    obtain ⟨artifact, hartifact, h⟩ := ok_of_bind h
    cases h
    refine .inr ⟨hor, artifact, hartifact, ?_⟩
    rw [List.map_map]
    refine List.map_congr_left fun kind hkind => ?_
    obtain ⟨p, -, hp⟩ := mem_of_mapM hkinds hkind
    exact attachRowCondition_of_rowScoped (rowScoped_translatePredicate hp) _ _
  · rename_i hor
    cases h
    exact .inl ⟨by simpa using hor, rfl⟩

end Scoped

theorem conditionalAllowlist_of_hasOr [PyRuntime] {ast : Ast} (h : ast.hasOr = false) :
    conditionalAllowlist (some ast) = .ok none := by
  have hlength : (flattenBranches .or ast).length < 2 := by
    cases ast with
    | logical op left right =>
      cases op with
      | and => simp [flattenBranches]
      | or => cases h
    | predicate p => simp [flattenBranches]
    | not operand => simp [flattenBranches]
  simp [conditionalAllowlist, hlength]

end Gx

namespace Engine

open Gx Worker

variable {Cell : Type*} (E : Engine Cell) [PyRuntime]

def ReadsFilters (filter : Text → Row Cell → Truth) : Prop :=
  ∀ t ast, parseExpression t = .ok ast → ∀ row, filter t row = E.truth row ast

/-- How the row condition of a filter reads its own tree: a passed-through text as it is, a
structured condition with every field reduced to its bare column. -/
def scopeTruth (row : Row Cell) (ast : Ast) : Truth :=
  if requiresPassThrough ast then E.truth row ast
  else E.truthWith Truth.ofOption row (E.bareColumn row) ast

theorem scopeTruth_of_unwrapped {row : Row Cell} {ast : Ast}
    (h : ∀ p ∈ ast.predicates, isUnwrapped p.field = true) :
    E.scopeTruth row ast = E.truth row ast := by
  unfold scopeTruth
  split
  · rfl
  · exact truthWith_congr E fun p hp => E.bareColumn_of_unwrapped (h p hp)

def parsedFilter (t : Text) (row : Row Cell) : Truth :=
  match parseExpression t with
  | .ok ast => E.truth row ast
  | .error _ => .unknown

theorem readsFilters_parsedFilter : E.ReadsFilters E.parsedFilter := by
  intro t ast h row
  rw [parsedFilter, h]

def Reported (filter : Text → Row Cell → Truth) (suite : List Expectation) (row : Row Cell) :
    Prop :=
  ∃ expectation ∈ suite, reports E filter expectation row

end Engine

namespace Gx

open Worker

variable {Cell : Type*} {E : Engine Cell} [PyRuntime]

variable {filter : Text → Row Cell → Truth} {tags : Meta} {e : Text} {joinError : Option String}
  {ast : Ast}

/-- The expectations of a list of predicates, all with the same row condition, report the rows
in scope that fail some check. -/
theorem reported_iff {predicates : List Predicate} {kinds : List ExpectationKind}
    {condition : Option Condition} {row : Row Cell}
    (hkinds : (predicates.map Predicate.flatten).mapM translatePredicate = .ok kinds)
    (hwf : ∀ p ∈ predicates, ∀ operand ∈ p.test.operands, operand.WellFormed)
    (hpresent : ∀ p ∈ predicates, E.ComparedPresent row p) :
    E.Reported filter (kinds.map fun kind =>
        { kind := kind, rowCondition := condition, tags := tags }) row ↔
      (∀ c ∈ condition, E.conditionTruth filter row c = .yes) ∧
        ∃ p ∈ predicates, ¬E.Passes row p := by
  constructor
  · rintro ⟨expectation, hmem, hscope, failure, hfailure, hyes⟩
    obtain ⟨kind, hkind, rfl⟩ := List.mem_map.mp hmem
    refine ⟨hscope, ?_⟩
    obtain ⟨flat, hflat, htranslate⟩ := mem_of_mapM hkinds hkind
    obtain ⟨p, hp, rfl⟩ := List.mem_map.mp hflat
    obtain ⟨failure', hfailure', hiff⟩ :=
      failure_of_translatePredicate (hwf p hp) (hpresent p hp) htranslate
    obtain rfl : failure = failure' := Option.some.inj (hfailure.symm.trans hfailure')
    exact ⟨p, hp, hiff.mp hyes⟩
  · rintro ⟨hscope, p, hp, hfails⟩
    obtain ⟨kind, hkind, htranslate⟩ := mapM_mem hkinds (List.mem_map.mpr ⟨p, hp, rfl⟩)
    obtain ⟨failure, hfailure, hiff⟩ :=
      failure_of_translatePredicate (hwf p hp) (hpresent p hp) htranslate
    exact ⟨_, List.mem_map.mpr ⟨kind, hkind, rfl⟩, hscope, failure, hfailure, hiff.mpr hfails⟩

theorem conditionTruth_of_compiled {artifact : RowConditionArtifact}
    (hast : (compileRuleToIntermediateModel e joinError).filter.ast = some ast)
    (hartifact : buildRowCondition (compileRuleToIntermediateModel e joinError).filter =
      .ok artifact) (hfilter : E.ReadsFilters filter) (row : Row Cell) :
    E.conditionTruth filter row artifact.serializedCondition = E.scopeTruth row ast := by
  obtain ⟨hparse, -, -, htext⟩ := compile_of_ast hast
  obtain ⟨ast', hast', hcases⟩ := buildRowCondition_ok hartifact
  obtain rfl : ast = ast' := by simpa [hast] using hast'
  rcases hcases with ⟨hpass, hartifact'⟩ | ⟨hpass, blocks, hblocks, hstructured⟩
  · rw [Engine.scopeTruth, if_pos hpass, (passThroughArtifact_ok hartifact').1, htext]
    exact hfilter _ _ hparse row
  · rw [Engine.scopeTruth, if_neg (by simp [hpass])]
    exact conditionTruth_of_structured E hast hartifact (structuredArtifact_ok hstructured).2.1
      filter row

theorem no_window_of_compiled
    (hast : (compileRuleToIntermediateModel e joinError).filter.ast = some ast) :
    parseUniquenessColumns
      (passThroughFilter (compileRuleToIntermediateModel e joinError).filter) = none := by
  obtain ⟨hparse, -, -, htext⟩ := compile_of_ast hast
  rw [htext]
  by_contra hne
  exact parse_of_uniqueness (normalizeExpression_strip e) (Option.isSome_iff_ne_none.mpr hne) ast
    hparse

/-- The suite of a compiled filter. -/
theorem suite_of_compiled {suite : List Expectation}
    (hast : (compileRuleToIntermediateModel e joinError).filter.ast = some ast)
    (hallowlist : conditionalAllowlist (some ast) = .ok none)
    (hbuild : buildExpectations (compileRuleToIntermediateModel e joinError).filter tags =
      .ok suite) :
    ast.negationFree = true ∧ ∃ kinds,
      ast.collectPredicates.mapM translatePredicate = .ok kinds ∧
      ((ast.hasOr = false ∧ suite = kinds.map fun kind => { kind := kind, tags := tags }) ∨
        (ast.hasOr = true ∧ ∃ artifact,
          buildRowCondition (compileRuleToIntermediateModel e joinError).filter = .ok artifact ∧
          suite = kinds.map fun kind =>
            { kind := kind, rowCondition := some artifact.serializedCondition, tags := tags })) := by
  obtain ⟨-, hpredicates, hoperators, -⟩ := compile_of_ast hast
  exact buildExpectations_of_ast hast hpredicates hoperators (no_window_of_compiled hast)
    hallowlist hbuild

/-- What the suite of a compiled filter reports: the rows in its scope that fail some check. -/
theorem reported_of_compiled {suite : List Expectation} {row : Row Cell}
    (hast : (compileRuleToIntermediateModel e joinError).filter.ast = some ast)
    (hallowlist : conditionalAllowlist (some ast) = .ok none)
    (hbuild : buildExpectations (compileRuleToIntermediateModel e joinError).filter tags =
      .ok suite) (hfilter : ast.hasOr = true → E.ReadsFilters filter)
    (hpresent : ∀ p ∈ ast.predicates, E.ComparedPresent row p) :
    E.Reported filter suite row ↔
      (ast.hasOr = true → E.scopeTruth row ast = .yes) ∧ ∃ p ∈ ast.predicates, ¬E.Passes row p := by
  have hwf : ast.WellFormed := parse_wellFormed (compile_of_ast hast).1
  obtain ⟨-, kinds, hkinds, hsuite⟩ := suite_of_compiled hast hallowlist hbuild
  rcases hsuite with ⟨hor, rfl⟩ | ⟨hor, artifact, hartifact, rfl⟩
  · rw [reported_iff hkinds hwf hpresent]
    simp [hor]
  · rw [reported_iff hkinds hwf hpresent]
    simp [hor, conditionTruth_of_compiled hast hartifact (hfilter hor) row]

end Gx

end DqMadeEasy
