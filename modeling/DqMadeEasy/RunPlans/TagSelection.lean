import DqMadeEasy.RunPlans.Creation

/-!
# Selecting suites by tag

The tags of a command are resolved to the ids of the rules that carry them, and a suite of the scope
is selected where it has one of these rules. The empty set of ids stands for a command without tags,
so tags that no rule carries select every suite of the scope.
-/

namespace DqMadeEasy

namespace RunPlans

open Artifacts Dispatch Planner Runs Worker

/-! ### The law -/

def HasTag (tagIds : List Text) (rule : TaggedRule) : Prop :=
  ∃ tag ∈ presentIds tagIds, tag ∈ presentIds rule.tagIds

instance (tagIds : List Text) (rule : TaggedRule) : Decidable (HasTag tagIds rule) :=
  inferInstanceAs (Decidable (∃ tag ∈ presentIds tagIds, tag ∈ presentIds rule.tagIds))

def Carries (records : List TaggedRule) (tagIds : List Text) (suite : GxArtifactEnvelope) : Prop :=
  ∃ record ∈ records, HasTag tagIds record ∧
    Text.strip record.id ∈ presentIds suite.compiledFrom.ruleIds

def Seed.suites (seed : Seed) : List GxArtifactEnvelope :=
  match seed.suiteSnapshot with
  | .single suite => [suite]
  | .grouped _ suites => suites

section Selection

variable [PyRuntime] [PyNumerals] {Artifact : Type}

/-- A seed of a scope contains a suite of the scope where one of the rules of the suite carries one of
the tags, and only there. Where no rule carries any of them, there is no seed. -/
structure SelectsByTag (services : SeedServices Artifact) (command : SeedCommand) : Prop where
  contains_iff : ∀ seed, resolveGroupedScopeSeed services command = .ok seed →
    ∀ row ∈ services.listArtifacts command.scope, ∀ suite,
      services.coerceSuiteEntity row = .ok suite →
        (snapshotSuite suite ∈ seed.suites ↔
          Carries services.listRuleRecords command.tagIds suite)
  no_seed : (∀ record ∈ services.listRuleRecords, ¬HasTag command.tagIds record) →
    ∀ seed, resolveGroupedScopeSeed services command ≠ .ok seed

/-- The scope makes a seed of all its suites: the registry has some, all of them can be run, and
there is a plan for them. -/
structure ScopeResolves (services : SeedServices Artifact) (command : SeedCommand) : Prop where
  valid : scopeIsValid command.scope command.tagIds = true
  nonempty : services.listArtifacts command.scope ≠ []
  runnable : ∀ row ∈ services.listArtifacts command.scope, ∃ suite,
    services.coerceSuiteEntity row = .ok suite ∧ Runnable suite
  planned : ∃ groupedPlan, services.buildPlan (services.listArtifacts command.scope) =
    .ok groupedPlan

/-! ### The tag filter -/

section Filter

variable {records : List TaggedRule} {tagIds : List Text} {suite : GxArtifactEnvelope}

omit [PyRuntime] [PyNumerals] in
theorem mem_presentIds {values : List Text} {t : Text} :
    t ∈ presentIds values ↔ t ≠ [] ∧ ∃ value ∈ values, Text.strip value = t := by
  simp [presentIds, and_comm]

omit [PyRuntime] [PyNumerals] in
theorem mem_ruleIdsForTags {id : Text} : id ∈ ruleIdsForTags records tagIds ↔
    id ≠ [] ∧ ∃ record ∈ records, HasTag tagIds record ∧ Text.strip record.id = id := by
  have htag : ∀ record : TaggedRule, HasTag tagIds record ↔
      (presentIds record.tagIds).any (· ∈ presentIds tagIds) = true := by
    intro record
    simp only [HasTag, List.any_eq_true, decide_eq_true_eq]
    exact exists_congr fun tag => and_comm
  simp only [ruleIdsForTags, mem_presentIds, List.mem_map, List.mem_filter, htag]
  grind

omit [PyRuntime] [PyNumerals] in
theorem ruleIdsForTags_ne_nil : ruleIdsForTags records tagIds ≠ [] ↔
    ∃ record ∈ records, HasTag tagIds record ∧ Text.strip record.id ≠ [] := by
  constructor
  · intro h
    obtain ⟨id, hid⟩ := List.exists_mem_of_ne_nil _ h
    obtain ⟨hne, record, hrecord, htag, rfl⟩ := mem_ruleIdsForTags.mp hid
    exact ⟨record, hrecord, htag, hne⟩
  · rintro ⟨record, hrecord, htag, hne⟩
    exact List.ne_nil_of_mem (mem_ruleIdsForTags.mpr ⟨hne, record, hrecord, htag, rfl⟩)

omit [PyRuntime] [PyNumerals] in
theorem passesTags_iff (hids : ruleIdsForTags records tagIds ≠ []) :
    passesTags (ruleIdsForTags records tagIds) suite = true ↔ Carries records tagIds suite := by
  rw [passesTags, List.isEmpty_eq_false_iff.mpr hids, Bool.false_or, List.any_eq_true]
  simp only [decide_eq_true_eq, mem_ruleIdsForTags]
  constructor
  · rintro ⟨id, hid, -, record, hrecord, htag, rfl⟩
    exact ⟨record, hrecord, htag, hid⟩
  · rintro ⟨record, hrecord, htag, hid⟩
    exact ⟨_, hid, (mem_presentIds.mp hid).1, record, hrecord, htag, rfl⟩

omit [PyRuntime] [PyNumerals] in
theorem Carries.of_compiledFrom {suite' : GxArtifactEnvelope}
    (h : suite.compiledFrom = suite'.compiledFrom) (hcarries : Carries records tagIds suite) :
    Carries records tagIds suite' := by
  rwa [Carries, ← h]

end Filter

/-! ### What is selected -/

variable {services : SeedServices Artifact} {command : SeedCommand} {seed : Seed}
  {matching : List Text} {row : Artifact}

/-- What a row of a scope gives. -/
theorem selectRow_ok {selected : Option (Artifact × GxArtifactEnvelope)} :
    selectRow services matching row = .ok selected ↔
      ∃ suite, services.coerceSuiteEntity row = .ok suite ∧
        ((passesTags matching suite = true ∧ Runnable suite ∧ selected = some (row, suite)) ∨
          (passesTags matching suite = false ∧ selected = none)) := by
  constructor
  · intro h
    obtain ⟨suite, hsuite, h⟩ := ok_of_bind h
    refine ⟨suite, hsuite, ?_⟩
    cases hpass : passesTags matching suite with
    | true =>
      rw [hpass, if_pos rfl] at h
      obtain ⟨_, hrunnable, h⟩ := ok_of_bind h
      exact .inl ⟨rfl, assertRunnable_ok.mp hrunnable, (Except.ok.inj h).symm⟩
    | false =>
      rw [hpass, if_neg Bool.false_ne_true] at h
      exact .inr ⟨rfl, (Except.ok.inj h).symm⟩
  · rintro ⟨suite, hsuite, ⟨hpass, hrunnable, rfl⟩ | ⟨hpass, rfl⟩⟩
    · rw [selectRow, hsuite, ok_bind, if_pos hpass, assertRunnable_ok.mpr hrunnable]
      rfl
    · rw [selectRow, hsuite, ok_bind, hpass, if_neg Bool.false_ne_true]
      rfl

/-- A seed of a scope is made of the rows that pass. -/
theorem resolveGroupedScopeSeed_ok :
    resolveGroupedScopeSeed services command = .ok seed ↔
      scopeIsValid command.scope command.tagIds = true ∧
      ∃ selected, (services.listArtifacts command.scope).mapM (selectRow services
          (ruleIdsForTags services.listRuleRecords command.tagIds)) = .ok selected ∧
        selected.filterMap id ≠ [] ∧
        ∃ groupedPlan, services.buildPlan ((selected.filterMap id).map Prod.fst) =
            .ok groupedPlan ∧
          seed = groupedSeed services command (selected.filterMap id) groupedPlan := by
  rw [resolveGroupedScopeSeed]
  split
  · rename_i hvalid
    constructor
    · intro h
      obtain ⟨selected, hselected, h⟩ := ok_of_bind h
      refine ⟨hvalid, selected, hselected, ?_⟩
      dsimp only at h
      split at h
      · cases h
      · rename_i hsome
        obtain ⟨groupedPlan, hplan, h⟩ := ok_of_bind h
        exact ⟨by simpa using hsome, groupedPlan, hplan, (Except.ok.inj h).symm⟩
    · rintro ⟨-, selected, hselected, hsome, groupedPlan, hplan, rfl⟩
      simp only [hselected, ok_bind]
      rw [if_neg (by simpa using hsome), hplan]
      rfl
  · rename_i hinvalid
    exact iff_of_false (by cases ·) fun h => hinvalid h.1

/-- A suite of a scope is in its seed where it passes the filter. -/
theorem mem_suites_iff (hseed : resolveGroupedScopeSeed services command = .ok seed)
    {suite : GxArtifactEnvelope} : suite ∈ seed.suites ↔
      ∃ row ∈ services.listArtifacts command.scope, ∃ envelope,
        services.coerceSuiteEntity row = .ok envelope ∧
        passesTags (ruleIdsForTags services.listRuleRecords command.tagIds) envelope = true ∧
        snapshotSuite envelope = suite := by
  obtain ⟨-, selected, hselected, -, groupedPlan, -, rfl⟩ := resolveGroupedScopeSeed_ok.mp hseed
  have hsuites : (groupedSeed services command (selected.filterMap id) groupedPlan).suites =
      (selected.filterMap id).map fun item => snapshotSuite item.2 := rfl
  rw [hsuites]
  constructor
  · intro hsuite
    obtain ⟨⟨row, envelope⟩, hitem, rfl⟩ := List.mem_map.mp hsuite
    obtain ⟨found, hfound, heq⟩ := List.mem_filterMap.mp hitem
    obtain ⟨row', hrow', hselect⟩ := mem_of_mapM hselected hfound
    obtain ⟨envelope', hcoerce, ⟨hpass, -, rfl⟩ | ⟨-, rfl⟩⟩ := selectRow_ok.mp hselect
    · cases heq
      exact ⟨row, hrow', envelope, hcoerce, hpass, rfl⟩
    · cases heq
  · rintro ⟨row, hrow, envelope, hcoerce, hpass, rfl⟩
    obtain ⟨found, hfound, hselect⟩ := mapM_mem hselected hrow
    obtain ⟨envelope', hcoerce', ⟨-, -, rfl⟩ | ⟨hfail, -⟩⟩ := selectRow_ok.mp hselect
    · cases hcoerce.symm.trans hcoerce'
      exact List.mem_map.mpr ⟨_, List.mem_filterMap.mpr ⟨_, hfound, rfl⟩, rfl⟩
    · cases hcoerce.symm.trans hcoerce'
      rw [hpass] at hfail
      cases hfail

/-- Where the filter is off, the scope makes a seed of all its suites, if it makes any. -/
theorem exists_seed_iff
    (hoff : ruleIdsForTags services.listRuleRecords command.tagIds = []) :
    (∃ seed, resolveGroupedScopeSeed services command = .ok seed) ↔
      ScopeResolves services command := by
  have hselect : ∀ row selected, selectRow services [] row = .ok selected ↔
      ∃ suite, services.coerceSuiteEntity row = .ok suite ∧ Runnable suite ∧
        selected = some (row, suite) := by
    intro row selected
    rw [selectRow_ok]
    simp [passesTags]
  -- every row is selected, so the rows of the selection are those of the scope
  have hrows : ∀ {rows : List Artifact} {selected : List (Option (Artifact × GxArtifactEnvelope))},
      rows.mapM (selectRow services []) = .ok selected →
        (selected.filterMap id).map Prod.fst = rows := by
    intro rows selected h
    induction mapM_ok h with
    | nil => rfl
    | cons hrow hrest ih =>
      obtain ⟨suite, -, -, rfl⟩ := (hselect _ _).mp hrow
      simpa using ih (mapM_of_forall₂ hrest)
  constructor
  · rintro ⟨seed, hseed⟩
    obtain ⟨hvalid, selected, hselected, hsome, groupedPlan, hplan, -⟩ :=
      resolveGroupedScopeSeed_ok.mp hseed
    rw [hoff] at hselected
    rw [hrows hselected] at hplan
    refine ⟨hvalid, ?_, ?_, groupedPlan, hplan⟩
    · rw [← hrows hselected]
      simpa using hsome
    · intro row hrow
      obtain ⟨found, -, hfound⟩ := mapM_mem hselected hrow
      obtain ⟨suite, hcoerce, hrunnable, -⟩ := (hselect _ _).mp hfound
      exact ⟨suite, hcoerce, hrunnable⟩
  · rintro ⟨hvalid, hnonempty, hrunnable, groupedPlan, hplan⟩
    obtain ⟨selected, hselected⟩ : ∃ selected,
        (services.listArtifacts command.scope).mapM (selectRow services []) = .ok selected := by
      apply exists_mapM
      intro row hrow
      obtain ⟨suite, hcoerce, hrunnable⟩ := hrunnable row hrow
      exact ⟨_, (hselect row _).mpr ⟨suite, hcoerce, hrunnable, rfl⟩⟩
    refine ⟨_, resolveGroupedScopeSeed_ok.mpr ⟨hvalid, selected, by rwa [hoff], ?_, groupedPlan, ?_,
      rfl⟩⟩
    · intro hnone
      rw [← hrows hselected, hnone] at hnonempty
      exact hnonempty rfl
    · rwa [hrows hselected]

theorem not_selectsByTag (hoff : ruleIdsForTags services.listRuleRecords command.tagIds = [])
    (hresolves : ScopeResolves services command) : ¬SelectsByTag services command := by
  intro hselects
  obtain ⟨seed, hseed⟩ := (exists_seed_iff hoff).mpr hresolves
  obtain ⟨row, hrow⟩ := List.exists_mem_of_ne_nil _ hresolves.nonempty
  obtain ⟨suite, hcoerce, -⟩ := hresolves.runnable row hrow
  have hmem : snapshotSuite suite ∈ seed.suites :=
    (mem_suites_iff hseed).mpr ⟨row, hrow, suite, hcoerce, by rw [hoff]; rfl, rfl⟩
  obtain ⟨record, hrecord, htag, hid⟩ :=
    (hselects.contains_iff seed hseed row hrow suite hcoerce).mp hmem
  exact ruleIdsForTags_ne_nil.mpr ⟨record, hrecord, htag, (mem_presentIds.mp hid).1⟩ hoff

/-- Suites are selected by tag exactly where a rule with an id carries one of the tags, or the scope
makes no seed anyway. -/
theorem selectsByTag_iff (services : SeedServices Artifact) (command : SeedCommand) :
    SelectsByTag services command ↔
      (∃ record ∈ services.listRuleRecords,
        HasTag command.tagIds record ∧ Text.strip record.id ≠ []) ∨
      ¬ScopeResolves services command := by
  rw [← ruleIdsForTags_ne_nil]
  constructor
  · intro hselects
    by_contra! hfails
    exact not_selectsByTag hfails.1 hfails.2 hselects
  · intro hcondition
    by_cases hoff : ruleIdsForTags services.listRuleRecords command.tagIds = []
    · have hnone : ∀ seed, resolveGroupedScopeSeed services command ≠ .ok seed := fun seed hseed =>
        hcondition.resolve_left (not_not_intro hoff) ((exists_seed_iff hoff).mp ⟨seed, hseed⟩)
      exact ⟨fun seed hseed => absurd hseed (hnone seed), fun _ => hnone⟩
    · constructor
      · intro seed hseed row hrow suite hcoerce
        rw [mem_suites_iff hseed]
        constructor
        · rintro ⟨row', -, envelope, -, hpass, hsnapshot⟩
          have hcompiled : (snapshotSuite envelope).compiledFrom =
              (snapshotSuite suite).compiledFrom := by rw [hsnapshot]
          exact ((passesTags_iff hoff).mp hpass).of_compiledFrom hcompiled
        · exact fun hcarries =>
            ⟨row, hrow, suite, hcoerce, (passesTags_iff hoff).mpr hcarries, rfl⟩
      · intro hnone
        obtain ⟨record, hrecord, htag, -⟩ := ruleIdsForTags_ne_nil.mp hoff
        exact absurd htag (hnone record hrecord)

end Selection

/-! ### A tag that no rule carries -/

section Sample

local instance sampleRuntimeTags : PyRuntime := .ascii (fun _ => .nan) (fun _ => [])

local instance sampleNumeralsTags : PyNumerals := ⟨fun _ => none, fun _ => none, id⟩

/-- A command for a scope with one suite, and for the tag `finance`. -/
def financeCommand : SeedCommand :=
  { liveCommand "grouped_scope" with tagIds := ["finance"] }

/-- The registry of that suite, whose rule has the tag `pii`. -/
def piiServices : SeedServices GxArtifactEnvelope :=
  { liveServices with listRuleRecords := [⟨"rule", ["pii"]⟩] }

/-- Rules with another tag let every suite of the scope pass. -/
theorem not_selectsByTag_of_other_tag : ¬SelectsByTag piiServices financeCommand := by
  have hoff : ruleIdsForTags piiServices.listRuleRecords financeCommand.tagIds = [] := by decide
  refine not_selectsByTag hoff ⟨by decide, List.cons_ne_nil _ _, ?_, _, rfl⟩
  intro row hrow
  rw [List.mem_singleton.mp hrow]
  exact ⟨liveSuite, rfl, liveSuite_runnable⟩

end Sample

end RunPlans

end DqMadeEasy
