import DqMadeEasy.Worker.Loop

/-!
# What the evaluation loop counts

A pass through the loop body settles its expectation: exactly one counter grows by one, the
diagnostics it appends carry the expectation's index and are there exactly when it failed, and a
rule result it appends carries the index and the verdict. `evaluateExpectation_settles` proves
this for every branch, and `evaluateFrom_tally` carries it through the run.
-/

namespace DqMadeEasy

namespace Worker

variable [PyNumerals]

/-- `int(diagnostic["expectation_index"])`. -/
def expectationIndex? (diagnostic : Dict) : Option ℤ := (diagnostic.get "expectation_index").toInt?

def Marks (index : ℕ) (verdict : Bool) (result : Dict) : Prop :=
  ∃ checked failed total, result = buildRuleResult index verdict checked failed total

/-- The loop body settled the expectation at an index. -/
structure Settled (index : ℕ) (verdict : Bool) (s s' : LoopState) : Prop where
  passed : s'.passed = s.passed + verdict.toNat
  failed : s'.failed = s.failed + (!verdict).toNat
  diagnostics : ∃ new, s'.diagnostics = s.diagnostics ++ new ∧
    (∀ d ∈ new, expectationIndex? d = some (index : ℤ)) ∧ (new = [] ↔ verdict = true)
  ruleResults : ∃ new, s'.ruleResults = s.ruleResults ++ new ∧ ∀ r ∈ new, Marks index verdict r

namespace LoopState

theorem settled_pass (index : ℕ) (s : LoopState) : Settled index true s s.pass where
  passed := rfl
  failed := rfl
  diagnostics := ⟨[], by simp [pass], by simp, by simp⟩
  ruleResults := ⟨[], by simp [pass], by simp⟩

theorem settled_fail {index : ℕ} (s : LoopState) {diagnostic : Dict}
    (h : expectationIndex? diagnostic = some (index : ℤ)) :
    Settled index false s (s.fail diagnostic) where
  passed := rfl
  failed := rfl
  diagnostics := ⟨[diagnostic], rfl, by simpa using h, by simp⟩
  ruleResults := ⟨[], by simp [fail], by simp⟩

end LoopState

/-! ### Diagnostics carry the index -/

theorem expectationIndex_failedColumn (index : ℕ) (expectationType column : Text) (more : Dict) :
    expectationIndex? (failedColumnDiagnostic index expectationType column ++ more) =
      some (index : ℤ) := rfl

/-! ### Branches about a column -/

section Branches

variable {Frame : Type} (S : Spark Frame) (c : Call Frame)

/-- A branch that ends with `continue` has failed the expectation. -/
def Skips (s : LoopState) (result : Except PyError Branch) : Prop :=
  ∀ s', result = .ok (.next s') → Settled c.index false s s'

theorem skips_error (s : LoopState) (error : PyError) : Skips c s (.error error) := by
  intro s' h
  cases h

theorem skips_refuse (s : LoopState) (what : String) : Skips c s (c.refuse what) :=
  skips_error c s _

theorem skips_missing (s : LoopState) (name : Text) : Skips c s (.ok (c.missing name s)) := by
  intro s' h
  cases h
  exact s.settled_fail rfl

theorem skips_bind {α : Type} {s : LoopState} {x : Except PyError α}
    {f : α → Except PyError Branch} (h : ∀ a, x = .ok a → Skips c s (f a)) :
    Skips c s (x >>= f) := by
  intro s' hs
  obtain ⟨a, ha, hs⟩ := ok_of_bind hs
  exact h a ha s' hs

theorem skips_tested (s : LoopState) (hasFailure : Bool) (failureCondition : Option Column) :
    Skips c s (.ok (.tested hasFailure failureCondition)) := by
  intro s' h
  cases h

theorem skips_testRows (s : LoopState) (failureCondition : Column) :
    Skips c s (c.testRows S failureCondition) := by
  apply skips_bind
  intro failing _
  apply skips_bind
  intro first _
  apply skips_tested

theorem skips_ite {p : Prop} [Decidable p] {s : LoopState} {x y : Except PyError Branch}
    (hx : p → Skips c s x) (hy : ¬p → Skips c s y) : Skips c s (if p then x else y) := by
  split
  · exact hx ‹_›
  · exact hy ‹_›

theorem skips_beUnique (s : LoopState) : Skips c s (c.beUnique S s) := by
  apply skips_bind
  intro repeated _
  apply skips_tested

theorem skips_inSet (negated : Bool) (s : LoopState) : Skips c s (c.inSet S negated s) := by
  rw [Call.inSet]
  cases (c.kwargs.get "value_set").asList? with
  | none => apply skips_refuse
  | some valueSet => apply skips_testRows

theorem skips_between (negated : Bool) (s : LoopState) :
    Skips c s (c.between S negated s) := by
  apply skips_ite
  · intro _
    apply skips_refuse
  · intro _
    apply skips_testRows

variable [PyRuntime]

theorem skips_pairEqual (s : LoopState) : Skips c s (c.pairEqual S s) := by
  apply skips_ite
  · intro _
    apply skips_refuse
  · intro _
    apply skips_ite
    · intro _
      apply skips_missing
    · intro _
      apply skips_ite
      · intro _
        apply skips_missing
      · intro _
        apply skips_bind
        intro evaluated _
        apply skips_testRows

theorem skips_betweenForOther (s : LoopState) : Skips c s (c.betweenForOther S s) := by
  apply skips_ite
  · intro _
    apply skips_refuse
  · intro _
    apply skips_ite
    · intro _
      apply skips_refuse
    · intro _
      apply skips_ite
      · intro _
        apply skips_refuse
      · intro _
        apply skips_ite
        · intro _
          apply skips_missing
        · intro _
          apply skips_testRows

theorem skips_inSetForOther (s : LoopState) : Skips c s (c.inSetForOther S s) := by
  apply skips_ite
  · intro _
    apply skips_refuse
  · intro _
    apply skips_ite
    · intro _
      apply skips_refuse
    · intro _
      cases (c.kwargs.get "value_set").asList? with
      | none => apply skips_refuse
      | some valueSet =>
        apply skips_ite
        · intro _
          apply skips_missing
        · intro _
          apply skips_testRows

theorem skips_compareOther (condition : Column → Except PyError Column) (s : LoopState) :
    Skips c s (c.compareOther S condition s) := by
  apply skips_ite
  · intro _
    apply skips_refuse
  · intro _
    apply skips_ite
    · intro _
      apply skips_missing
    · intro _
      apply skips_bind
      intro failureCondition _
      apply skips_testRows

theorem skips_nonNullProportion (s : LoopState) : Skips c s (c.nonNullProportion S s) := by
  apply skips_bind
  intro rowCount _
  apply skips_bind
  intro proportion _
  apply skips_bind
  intro lowerOk _
  apply skips_bind
  intro upperOk _
  apply skips_tested

theorem skips_matchRegex (negated : Bool) (s : LoopState) :
    Skips c s (c.matchRegex S negated s) := by
  apply skips_ite
  · intro _
    apply skips_refuse
  · intro _
    apply skips_testRows

theorem skips_withinPastDays (s : LoopState) : Skips c s (c.withinPastDays S s) := by
  apply skips_ite
  · intro _
    apply skips_refuse
  · intro _
    apply skips_ite
    · intro _
      apply skips_refuse
    · intro _
      apply skips_bind
      intro bound _
      apply skips_testRows

theorem skips_maxLagHours (s : LoopState) : Skips c s (c.maxLagHours S s) := by
  apply skips_ite
  · intro _
    apply skips_refuse
  · intro _
    apply skips_ite
    · intro _
      apply skips_refuse
    · intro _
      apply skips_ite
      · intro _
        apply skips_missing
      · intro _
        apply skips_bind
        intro bound _
        apply skips_testRows

/-- Every branch about a column that ends with `continue` has failed the expectation. -/
theorem skips_branch (s : LoopState) : Skips c s (c.branch S s) := by
  have hall : ∀ b ∈ c.branches S, Skips c s (b.2 s) := by
    simp only [Call.branches, List.forall_mem_cons, List.not_mem_nil, false_imp_iff,
      implies_true, and_true]
    exact ⟨skips_testRows S c s _, skips_beUnique S c s, skips_pairEqual S c s,
      skips_betweenForOther S c s, skips_inSetForOther S c s, skips_compareOther S c _ s,
      skips_compareOther S c _ s, skips_compareOther S c _ s, skips_compareOther S c _ s,
      skips_testRows S c s _, skips_nonNullProportion S c s, skips_inSet S c false s,
      skips_inSet S c true s, skips_between S c false s, skips_between S c true s,
      skips_matchRegex S c false s, skips_matchRegex S c true s, skips_withinPastDays S c s,
      skips_maxLagHours S c s, skips_testRows S c s _⟩
  rw [Call.branch]
  cases hb : (c.branches S).find? fun b => b.1.toList = c.expectationType with
  | none => apply skips_error
  | some b => exact hall b (List.mem_of_find?_eq_some hb)

end Branches

/-! ### The loop body -/

section Body

variable {Frame : Type} (S : Spark Frame)

variable {s s' : LoopState} {expectationType : Text} {kwargs : Dict} {scopedDf : Frame}

theorem Settled.of_counts {index : ℕ} {verdict : Bool} {counts : List (ℕ × ℕ)}
    (h : Settled index verdict { s with computedRowCounts := counts } s') :
    Settled index verdict s s' :=
  ⟨h.passed, h.failed, h.diagnostics, h.ruleResults⟩

omit [PyNumerals] in
theorem getRowCount_ok {frame : Frame} {n : ℕ} (h : getRowCount S frame s = .ok (n, s')) :
    ∃ counts, s' = { s with computedRowCounts := counts } := by
  rw [getRowCount] at h
  cases hcached : s.computedRowCounts.lookup (S.address frame) with
  | some m =>
    rw [hcached] at h
    cases h
    exact ⟨s.computedRowCounts, rfl⟩
  | none =>
    rw [hcached] at h
    obtain ⟨m, _, h⟩ := ok_of_bind h
    cases h
    exact ⟨_, rfl⟩

/-- Row diagnostics carry the index. -/
theorem rowDiagnostics_index {primaryKeyFields : List Text} {c : Call Frame}
    {failureCondition : Option Column} {found : List Dict}
    (h : rowDiagnostics S primaryKeyFields c failureCondition = .ok found) :
    ∀ d ∈ found, expectationIndex? d = some (c.index : ℤ) := by
  intro d hd
  cases failureCondition with
  | none =>
    cases h
    cases hd
  | some condition =>
    rw [rowDiagnostics] at h
    split at h
    · cases h
      cases hd
    · obtain ⟨failing, _, h⟩ := ok_of_bind h
      obtain ⟨rows, _, h⟩ := ok_of_bind h
      cases h
      obtain ⟨row, _, hrow⟩ := List.mem_filterMap.mp hd
      obtain ⟨identifier, _, rfl⟩ := Option.map_eq_some_iff.mp hrow
      rfl

/-- The end of the body settles the expectation, with a rule result. -/
theorem finishColumn_settles {primaryKeyFields : List Text} {total : ℕ} {c : Call Frame}
    {hasFailure : Bool} {failureCondition : Option Column}
    (h : finishColumn S primaryKeyFields total c hasFailure failureCondition s = .ok s') :
    Settled c.index (!hasFailure) s s' := by
  rw [finishColumn] at h
  obtain ⟨⟨checked, s₁⟩, hcount, h⟩ := ok_of_bind h
  obtain ⟨counts, rfl⟩ := getRowCount_ok S hcount
  obtain ⟨recordsFailed, _, h⟩ := ok_of_bind h
  have hmarks : ∀ r ∈ [buildRuleResult c.index (!hasFailure) checked recordsFailed total],
      Marks c.index (!hasFailure) r := by
    intro r hr
    rw [List.mem_singleton] at hr
    exact ⟨checked, recordsFailed, total, hr⟩
  cases hasFailure with
  | false =>
    cases h
    exact ⟨rfl, rfl, ⟨[], (List.append_nil _).symm, by simp, by simp⟩, ⟨_, rfl, hmarks⟩⟩
  | true =>
    obtain ⟨found, hfound, h⟩ := ok_of_bind h
    by_cases hempty : found = []
    · simp only [hempty, ne_eq, not_true_eq_false, if_false] at h
      obtain ⟨rowIdentifier, _, h⟩ := ok_of_bind h
      cases h
      refine ⟨rfl, rfl, ⟨_, rfl, ?_, by simp⟩, ⟨_, rfl, hmarks⟩⟩
      intro d hd
      rw [List.mem_singleton] at hd
      subst hd
      exact expectationIndex_failedColumn c.index c.expectationType c.column _
    · simp only [ne_eq, hempty, not_false_eq_true, if_true] at h
      cases h
      exact ⟨rfl, rfl, ⟨found, rfl, rowDiagnostics_index S hfound, by simpa using hempty⟩,
        ⟨_, rfl, hmarks⟩⟩

theorem rowCountBranch_settles {index : ℕ}
    (h : rowCountBranch S index expectationType kwargs scopedDf s = .ok s') :
    ∃ verdict, Settled index verdict s s' := by
  rw [rowCountBranch] at h
  split at h
  · cases h
  · obtain ⟨⟨rowCount, s₁⟩, hcount, h⟩ := ok_of_bind h
    obtain ⟨counts, rfl⟩ := getRowCount_ok S hcount
    obtain ⟨ok, _, h⟩ := ok_of_bind h
    cases ok with
    | true =>
      cases h
      exact ⟨true, (LoopState.settled_pass index _).of_counts⟩
    | false =>
      cases h
      exact ⟨false, (LoopState.settled_fail _ rfl).of_counts⟩

variable [PyRuntime]

theorem settleNative_settles {df : Frame} {expectation : Dict} {outcome : Bool × Option Dict}
    (h : validate S df expectation = .ok outcome) (index : ℕ) (expectationType : Text)
    (s : LoopState) :
    Settled index outcome.1 s (settleNative index expectationType s outcome) := by
  rw [validate] at h
  split at h
  · cases h
  · split at h
    · cases h
    · cases h
      exact s.settled_pass index
    · cases h
      exact s.settled_fail rfl

theorem compoundBranch_settles {index : ℕ} {dfColumns : List Text}
    (h : compoundBranch S index expectationType kwargs dfColumns scopedDf s = .ok s') :
    ∃ verdict, Settled index verdict s s' := by
  dsimp only [compoundBranch] at h
  split at h
  · split at h
    · cases h
      exact ⟨false, s.settled_fail rfl⟩
    · obtain ⟨hasFailure, _, h⟩ := ok_of_bind h
      cases hasFailure with
      | false =>
        cases h
        exact ⟨true, s.settled_pass index⟩
      | true =>
        cases h
        exact ⟨false, s.settled_fail rfl⟩
  · cases h

theorem columnBranch_settles {primaryKeyFields : List Text} {total index : ℕ}
    {dfColumns : List Text}
    (h : columnBranch S primaryKeyFields total index expectationType kwargs dfColumns scopedDf s =
      .ok s') :
    ∃ verdict, Settled index verdict s s' := by
  rw [columnBranch] at h
  split at h
  · cases h
  · split at h
    · obtain ⟨rowIdentifier, _, h⟩ := ok_of_bind h
      cases h
      exact ⟨false, s.settled_fail rfl⟩
    · obtain ⟨branch, hbranch, h⟩ := ok_of_bind h
      cases branch with
      | next s₁ =>
        cases h
        exact ⟨false, skips_branch S _ s _ hbranch⟩
      | tested hasFailure failureCondition => exact ⟨_, finishColumn_settles S h⟩

/-- The loop body settles its expectation. -/
theorem evaluateExpectation_settles {df : Frame} {primaryKeyFields : List Text} {total index : ℕ}
    {expectation : Dict}
    (h : evaluateExpectation S df primaryKeyFields total index expectation s = .ok s') :
    ∃ verdict, Settled index verdict s s' := by
  rw [evaluateExpectation] at h
  split at h
  · rw [nativeBranch] at h
    split at h
    · cases h
      exact ⟨false, s.settled_fail rfl⟩
    · obtain ⟨outcome, hvalidate, h⟩ := ok_of_bind h
      cases h
      exact ⟨_, settleNative_settles S hvalidate index _ s⟩
  · obtain ⟨scopedDf, _, h⟩ := ok_of_bind h
    split at h
    · exact rowCountBranch_settles S h
    · split at h
      · exact compoundBranch_settles S h
      · split at h
        · obtain ⟨outcome, hvalidate, h⟩ := ok_of_bind h
          cases h
          exact ⟨_, settleNative_settles S hvalidate index _ s⟩
        · exact columnBranch_settles S h

end Body

/-! ### The run -/

/-- What a run from an index on counted, by the verdicts of its expectations. -/
structure Tally (index : ℕ) (verdicts : List Bool) (s s' : LoopState) : Prop where
  passed : s'.passed = s.passed + verdicts.count true
  failed : s'.failed = s.failed + verdicts.count false
  diagnostics : ∃ new, s'.diagnostics = s.diagnostics ++ new ∧
    (∀ d ∈ new, ∃ i, verdicts[i]? = some false ∧ expectationIndex? d = some ((index + i : ℕ) : ℤ)) ∧
    ∀ i, verdicts[i]? = some false → ∃ d ∈ new, expectationIndex? d = some ((index + i : ℕ) : ℤ)
  ruleResults : ∃ new, s'.ruleResults = s.ruleResults ++ new ∧
    ∀ r ∈ new, ∃ i verdict, verdicts[i]? = some verdict ∧ Marks (index + i) verdict r

theorem Tally.nil (index : ℕ) (s : LoopState) : Tally index [] s s :=
  ⟨rfl, rfl, ⟨[], by simp, by simp, by simp⟩, ⟨[], by simp, by simp⟩⟩

/-- A settled expectation, then the rest of the run. -/
theorem Tally.cons {index : ℕ} {verdict : Bool} {verdicts : List Bool} {s s₁ s' : LoopState}
    (hstep : Settled index verdict s s₁) (hrest : Tally (index + 1) verdicts s₁ s') :
    Tally index (verdict :: verdicts) s s' := by
  obtain ⟨new₁, hd₁, hindex₁, hempty⟩ := hstep.diagnostics
  obtain ⟨new₂, hd₂, hindex₂, hevery₂⟩ := hrest.diagnostics
  obtain ⟨results₁, hr₁, hmarks₁⟩ := hstep.ruleResults
  obtain ⟨results₂, hr₂, hmarks₂⟩ := hrest.ruleResults
  constructor
  · rw [hrest.passed, hstep.passed, List.count_cons]
    cases verdict with
    | true => simp; omega
    | false => simp
  · rw [hrest.failed, hstep.failed, List.count_cons]
    cases verdict with
    | true => simp
    | false => simp; omega
  · refine ⟨new₁ ++ new₂, by rw [hd₂, hd₁, List.append_assoc], ?_, ?_⟩
    · intro d hd
      rcases List.mem_append.mp hd with hd | hd
      · have hfalse : verdict = false := by
          cases verdict with
          | false => rfl
          | true => rw [hempty.mpr rfl] at hd; cases hd
        exact ⟨0, by simp [hfalse], by simpa using hindex₁ d hd⟩
      · obtain ⟨i, hi, hd⟩ := hindex₂ d hd
        exact ⟨i + 1, by simpa using hi, by rw [hd]; congr 2; omega⟩
    · intro i hi
      cases i with
      | zero =>
        simp only [List.getElem?_cons_zero, Option.some.injEq] at hi
        subst hi
        cases new₁ with
        | nil => simp at hempty
        | cons d new₁ => exact ⟨d, by simp, by simpa using hindex₁ d (by simp)⟩
      | succ i =>
        obtain ⟨d, hmem, hd⟩ := hevery₂ i (by simpa using hi)
        exact ⟨d, List.mem_append_right _ hmem, by rw [hd]; congr 2; omega⟩
  · refine ⟨results₁ ++ results₂, by rw [hr₂, hr₁, List.append_assoc], ?_⟩
    intro r hr
    rcases List.mem_append.mp hr with hr | hr
    · exact ⟨0, verdict, rfl, hmarks₁ r hr⟩
    · obtain ⟨i, v, hi, hmark⟩ := hmarks₂ r hr
      refine ⟨i + 1, v, by simpa using hi, ?_⟩
      rw [show index + (i + 1) = index + 1 + i by omega]
      exact hmark

section Run

variable [PyRuntime] {Frame : Type} (S : Spark Frame) (df : Frame) (primaryKeyFields : List Text)
  (total : ℕ)

/-- A run settles every expectation it walks. -/
theorem evaluateFrom_tally (expectations : List Dict) :
    ∀ {index : ℕ} {s s' : LoopState},
      evaluateFrom S df primaryKeyFields total index expectations s = .ok s' →
      ∃ verdicts, verdicts.length = expectations.length ∧ Tally index verdicts s s' := by
  induction expectations with
  | nil =>
    intro index s s' h
    cases h
    exact ⟨[], rfl, .nil index s⟩
  | cons expectation rest ih =>
    intro index s s' h
    obtain ⟨s₁, hstep, h⟩ := ok_of_bind h
    obtain ⟨verdict, hsettled⟩ := evaluateExpectation_settles S hstep
    obtain ⟨verdicts, hlength, htally⟩ := ih h
    exact ⟨verdict :: verdicts, by simp [hlength], .cons hsettled htally⟩

/-- A run over a concatenation is a run over the first part, then one over the second. -/
theorem evaluateFrom_append (xs ys : List Dict) :
    ∀ (index : ℕ) (s : LoopState),
      evaluateFrom S df primaryKeyFields total index (xs ++ ys) s =
        (evaluateFrom S df primaryKeyFields total index xs s >>=
          evaluateFrom S df primaryKeyFields total (index + xs.length) ys) := by
  induction xs with
  | nil =>
    intro index s
    rfl
  | cons x xs ih =>
    intro index s
    simp only [List.cons_append, evaluateFrom, List.length_cons]
    cases evaluateExpectation S df primaryKeyFields total index x s with
    | error error => rfl
    | ok s₁ =>
      rw [ok_bind, ok_bind, ih, show index + 1 + xs.length = index + (xs.length + 1) by omega]

end Run

end Worker

end DqMadeEasy
