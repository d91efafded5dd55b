import DqMadeEasy.Semantics.Suite

/-!
# Filters and the rows they reject

A translated filter should report exactly the rows that do not satisfy it. A conjunction does, as
long as every conjunct survives the way to its check. A disjunction does not: each predicate is
checked on its own, on the rows that satisfy the whole filter, so a row is treated correctly only
if it satisfies the filter and every predicate in it.
-/

namespace DqMadeEasy

namespace Gx

/-! ### Disjunctions -/

section Disjunction

variable {Cell : Type*} (E : Engine Cell) [PyRuntime]

/-- When the suite of a filter with an `OR` treats a row correctly. A row that satisfies the
filter must pass the check of every predicate, unless the row condition leaves it out. A row that
does not satisfy the filter is reported only if the row condition, which drops casts, lets it in
and it fails some check. -/
def DisjunctionRespected (row : Row Cell) (ast : Ast) : Prop :=
  if E.truth row ast = .yes then
    E.scopeTruth row ast = .yes → ∀ p ∈ ast.predicates, E.Passes row p
  else E.scopeTruth row ast = .yes ∧ ∃ p ∈ ast.predicates, ¬E.Passes row p

/-- On unwrapped fields, a row is treated correctly exactly when it satisfies the filter and
passes the check of every predicate. -/
theorem disjunctionRespected_of_unwrapped {row : Row Cell} {ast : Ast}
    (h : ∀ p ∈ ast.predicates, isUnwrapped p.field = true) :
    DisjunctionRespected E row ast ↔
      E.satisfies row ast ∧ ∀ p ∈ ast.predicates, E.Passes row p := by
  unfold DisjunctionRespected Engine.satisfies
  rw [E.scopeTruth_of_unwrapped h]
  by_cases hsat : E.truth row ast = .yes <;> simp [hsat]

end Disjunction

section Example

local instance sampleRuntime : PyRuntime := Sample.runtime

/-- The filter `a = 1 OR b = 2`. -/
def eitherFilter : Text := "a = 1 OR b = 2"

/-- The tree of the filter. -/
def eitherAst : Ast :=
  .logical .or (.predicate ⟨['a'], .compare .eq ⟨['1'], .number⟩⟩)
    (.predicate ⟨['b'], .compare .eq ⟨['2'], .number⟩⟩)

/-- The suite of the filter: one membership for each predicate, both on the rows of the filter. -/
def eitherSuite : List Expectation :=
  let condition : Condition :=
    .or [.atom (.comparison ['a'] .eq (.int 1)), .atom (.comparison ['b'] .eq (.int 2))]
  [{ kind := .inSet false ['a'] [.int 1], rowCondition := some condition },
    { kind := .inSet false ['b'] [.int 2], rowCondition := some condition }]

/-- The row `a = i`, `b = j`. -/
def pairRow (i j : ℤ) : Row PyValue := Sample.row [(['a'], .int i), (['b'], .int j)]

theorem eitherFilter_facts :
    (compileRuleToIntermediateModel eitherFilter none).filter.ast = some eitherAst ∧
      buildExpectations (compileRuleToIntermediateModel eitherFilter none).filter {} =
        .ok eitherSuite ∧
      conditionalAllowlist (some eitherAst) = .ok none := by
  decide +kernel

theorem eitherFilter_compiles :
    (compileRuleToIntermediateModel eitherFilter none).filter.ast = some eitherAst :=
  eitherFilter_facts.1

theorem eitherFilter_builds :
    buildExpectations (compileRuleToIntermediateModel eitherFilter none).filter {} =
      .ok eitherSuite :=
  eitherFilter_facts.2.1

theorem eitherFilter_notAllowlist : conditionalAllowlist (some eitherAst) = .ok none :=
  eitherFilter_facts.2.2

theorem eitherSuite_reports (i j : ℤ) (hpresent : ∀ p ∈ eitherAst.predicates,
      Sample.plain.ComparedPresent (pairRow i j) p) :
    Sample.plain.Reported Sample.plain.parsedFilter eitherSuite (pairRow i j) ↔
      Sample.plain.scopeTruth (pairRow i j) eitherAst = .yes ∧
        ∃ p ∈ eitherAst.predicates, ¬Sample.plain.Passes (pairRow i j) p := by
  have hor : eitherAst.hasOr = true := rfl
  simpa [hor] using reported_of_compiled eitherFilter_compiles eitherFilter_notAllowlist
    eitherFilter_builds (fun _ => Sample.plain.readsFilters_parsedFilter) hpresent

-- A row that satisfies one predicate is let in, and fails the check of the other.
example : Sample.plain.scopeTruth (pairRow 5 2) eitherAst = .yes ∧
    ∃ p ∈ eitherAst.predicates, ¬Sample.plain.Passes (pairRow 5 2) p := by decide +kernel

end Example

/-! ### Conjunctions -/

section Conjunction

variable {Cell : Type*} (E : Engine Cell) [PyRuntime]

/-- A tree without `OR` and `NOT` holds exactly when all of its predicates do. -/
theorem truthWith_eq_yes_iff {bare : Option Bool → Truth} {row : Row Cell}
    {field : Text → Cell} {ast : Ast} (hor : ast.hasOr = false) (hfree : ast.negationFree = true) :
    E.truthWith bare row field ast = .yes ↔
      ∀ p ∈ ast.predicates, E.testTruth bare row (field p.field) p.test = .yes := by
  induction ast with
  | predicate p => simp [Engine.truthWith, Ast.predicates]
  | logical op left right ihl ihr =>
    cases op with
    | or => cases hor
    | and =>
      simp only [Ast.hasOr, Bool.or_eq_false_iff] at hor
      simp only [Ast.negationFree, Bool.and_eq_true] at hfree
      simp only [Engine.truthWith, Truth.inf_eq_yes, ihl hor.1 hfree.1, ihr hor.2 hfree.2,
        Ast.predicates, List.mem_append, or_imp, forall_and]
  | not operand ih => cases hfree

theorem satisfies_iff {row : Row Cell} {ast : Ast} (hor : ast.hasOr = false)
    (hfree : ast.negationFree = true) :
    E.satisfies row ast ↔ ∀ p ∈ ast.predicates, E.predicateTruth row p = .yes :=
  truthWith_eq_yes_iff E hor hfree

/-- When the suite of a conjunction treats a row correctly, given which conjuncts are kept as
written: a kept conjunct is violated, or the other conjuncts, taken together, are not changed by
the way their checks read them. -/
def ConjunctionRespected (kept : Predicate → Prop) (row : Row Cell) (ast : Ast) : Prop :=
  (∃ p ∈ ast.predicates, kept p ∧ E.predicateTruth row p ≠ .yes) ∨
    ((∀ p ∈ ast.predicates, ¬kept p → E.predicateTruth row p = .yes) ↔
      ∀ p ∈ ast.predicates, ¬kept p → E.Passes row p)

theorem conjunctionRespected_of_kept {kept : Predicate → Prop} {row : Row Cell} {ast : Ast}
    (h : ∀ p ∈ ast.predicates, kept p) : ConjunctionRespected E kept row ast :=
  .inr (iff_of_true (fun p hp hlost => absurd (h p hp) hlost)
    fun p hp hlost => absurd (h p hp) hlost)

theorem respected_iff {kept : Predicate → Prop} {row : Row Cell} {ast : Ast}
    (hkept : ∀ p ∈ ast.predicates, kept p → E.checkTruth row p = E.predicateTruth row p) :
    ((∀ p ∈ ast.predicates, E.predicateTruth row p = .yes) ↔
      ∀ p ∈ ast.predicates, E.Passes row p) ↔ ConjunctionRespected E kept row ast := by
  have hpasses : ∀ p ∈ ast.predicates, kept p →
      (E.Passes row p ↔ E.predicateTruth row p = .yes) := by
    intro p hp h
    rw [Engine.Passes, hkept p hp h]
  by_cases hviolated : ∃ p ∈ ast.predicates, kept p ∧ E.predicateTruth row p ≠ .yes
  · refine iff_of_true ?_ (.inl hviolated)
    obtain ⟨p, hp, hkeep, hno⟩ := hviolated
    exact iff_of_false (fun h => hno (h p hp))
      fun h => hno ((hpasses p hp hkeep).mp (h p hp))
  · have hsplit (P : Predicate → Prop)
        (hP : ∀ p ∈ ast.predicates, kept p → (P p ↔ E.predicateTruth row p = .yes)) :
        (∀ p ∈ ast.predicates, P p) ↔ ∀ p ∈ ast.predicates, ¬kept p → P p := by
      refine ⟨fun h p hp _ => h p hp, fun h p hp => ?_⟩
      by_cases hkeep : kept p
      · refine (hP p hp hkeep).mpr (by_contra fun hno => hviolated ⟨p, hp, hkeep, hno⟩)
      · exact h p hp hkeep
    rw [hsplit _ fun p _ _ => Iff.rfl, hsplit _ hpasses, ConjunctionRespected]
    simp only [hviolated, false_or]

end Conjunction

section Example

local instance sampleRuntime' : PyRuntime := Sample.runtime

/-- The filter `a LIKE 'x%'`. -/
def likeFilter : Text := "a LIKE 'x%'"

/-- The tree of the filter. -/
def likeAst : Ast := .predicate ⟨['a'], .pattern .like ⟨"'x%'", .string⟩⟩

/-- The filter `a NOT BETWEEN 2 AND 3 AND b LIKE 'x%'`. -/
def rangeAndLikeFilter : Text := "a NOT BETWEEN 2 AND 3 AND b LIKE 'x%'"

/-- The tree of the filter. -/
def rangeAndLikeAst : Ast :=
  .logical .and (.predicate ⟨['a'], .between true ⟨['2'], .number⟩ ⟨['3'], .number⟩⟩)
    (.predicate ⟨['b'], .pattern .like ⟨"'x%'", .string⟩⟩)

end Example

end Gx

end DqMadeEasy
