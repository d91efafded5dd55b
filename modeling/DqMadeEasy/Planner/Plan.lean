import DqMadeEasy.Planner.Partition

/-!
# The plan of a list of suites

A suite occurs in the batches of its selected targets: its distinct resolved targets, restricted to
its incremental selection when it declares one. Each target of a suite has exactly one batch, which
lists the suites of the target. Suites whose stripped identifiers and versions are distinct give
the same plan in every order, and whether planning fails does not depend on the order either.
-/

namespace DqMadeEasy

namespace Planner

/-! ### Selected targets -/

def Selects (suite : Suite) (t : Text) : Prop :=
  t ∈ presentIds suite.dataObjectVersionIds ∧
    ∀ selection, suite.incrementalSelection = some selection →
      t ∈ presentIds selection.selectedDataObjectVersionIds

/-- The distinct resolved targets, restricted to the incremental selection. -/
def selectedTargets (suite : Suite) : List Text :=
  match suite.incrementalSelection with
  | none => (presentIds suite.dataObjectVersionIds).eraseDups
  | some selection =>
    (presentIds suite.dataObjectVersionIds).eraseDups.filter
      (· ∈ presentIds selection.selectedDataObjectVersionIds)

theorem mem_selectedTargets {suite : Suite} {t : Text} :
    t ∈ selectedTargets suite ↔ Selects suite t := by
  rw [selectedTargets, Selects]
  cases suite.incrementalSelection with
  | none => simp [List.mem_eraseDups]
  | some selection => simp [List.mem_eraseDups]

theorem nodup_selectedTargets (suite : Suite) : (selectedTargets suite).Nodup := by
  have hnodup : (presentIds suite.dataObjectVersionIds).eraseDups.Nodup :=
    Sorted.nodup_eraseDups _
  rw [selectedTargets]
  cases suite.incrementalSelection with
  | none => exact hnodup
  | some selection => exact hnodup.filter _

instance (suite : Suite) (t : Text) : Decidable (Selects suite t) :=
  decidable_of_iff _ mem_selectedTargets

def suiteKey (suite : Suite × Dict) : Text × ℕ := (suite.1.suiteId.strip, suite.1.suiteVersion)

def listing (suite : Suite × Dict) : Text × Dict :=
  (suite.1.suiteId.strip, withTargetIds suite.2 (selectedTargets suite.1))

section Prepare

variable [PyRuntime]

/-- A prepared suite has the selected targets, and its entry the selected envelope. -/
theorem prepare_ok {suite : Suite} {payload : Dict} {p : Prepared}
    (h : prepare suite payload = .ok p) :
    p.targetIds = selectedTargets suite ∧
      p.entry = ⟨suite.suiteId.strip, suite.suiteVersion, selectedTargets suite,
        withTargetIds payload (selectedTargets suite)⟩ := by
  rw [prepare] at h
  obtain ⟨resolved, hresolved, h⟩ := ok_of_bind h
  obtain ⟨selection, hselection, h⟩ := ok_of_bind h
  obtain ⟨targetIds, htargets, h⟩ := ok_of_bind h
  cases h
  have hselected : targetIds = selectedTargets suite := by
    have hresolved : resolved = (presentIds suite.dataObjectVersionIds).eraseDups := by
      rw [extractTargetIds] at hresolved
      dsimp only at hresolved
      split at hresolved
      · cases hresolved
      · split at hresolved
        · cases hresolved
        · cases hresolved
          rfl
    rw [extractIncrementalSelection] at hselection
    rw [selectedTargets]
    cases hdeclared : suite.incrementalSelection with
    | none =>
      rw [hdeclared] at hselection
      cases hselection
      cases htargets
      exact hresolved
    | some declared =>
      rw [hdeclared] at hselection
      dsimp only at hselection
      split at hselection
      · cases hselection
      · split at hselection
        · cases hselection
        · cases hselection
          rw [selectTargetIds] at htargets
          dsimp only at htargets
          split at htargets
          · cases htargets
          · split at htargets
            · cases htargets
            · cases htargets
              rw [hresolved]
  exact ⟨hselected, by rw [hselected]⟩

omit [PyRuntime] in
theorem present_of_mem_presentIds {values : List Text} {t : Text} (h : t ∈ presentIds values) :
    t.strip = t ∧ t ≠ [] := by
  rw [presentIds, List.mem_filter, List.mem_map] at h
  obtain ⟨⟨value, _, rfl⟩, hne⟩ := h
  exact ⟨Text.strip_strip value, by simpa using hne⟩

/-- A prepared suite has a target. -/
theorem exists_selects_of_prepare {suite : Suite} {payload : Dict} {p : Prepared}
    (h : prepare suite payload = .ok p) : ∃ t, Selects suite t := by
  have htargets := (prepare_ok h).1
  rw [prepare] at h
  obtain ⟨resolved, hresolved, h⟩ := ok_of_bind h
  obtain ⟨selection, _, h⟩ := ok_of_bind h
  obtain ⟨targetIds, hselect, h⟩ := ok_of_bind h
  cases h
  have hne : targetIds ≠ [] := by
    cases selection with
    | none =>
      cases hselect
      rw [extractTargetIds] at hresolved
      dsimp only at hresolved
      split at hresolved
      · cases hresolved
      · split at hresolved
        · cases hresolved
        · rename_i hpresent
          cases hresolved
          obtain ⟨t, ht⟩ := List.exists_mem_of_ne_nil _ hpresent
          exact List.ne_nil_of_mem (List.mem_eraseDups.mpr ht)
    | some selection =>
      rw [selectTargetIds] at hselect
      dsimp only at hselect
      split at hselect
      · cases hselect
      · split at hselect
        · cases hselect
        · rename_i hchosen
          cases hselect
          exact hchosen
  obtain ⟨t, ht⟩ := List.exists_mem_of_ne_nil _ hne
  dsimp only at htargets
  rw [htargets] at ht
  exact ⟨t, mem_selectedTargets.mp ht⟩

/-- The loop over the suites prepares them all and adds them in order. -/
theorem foldlM_addSuite_ok_iff (inputs : List (Suite × Dict)) :
    ∀ {batches batches' : Batches}, inputs.foldlM addSuite batches = .ok batches' ↔
      ∃ ps, inputs.mapM (fun s => prepare s.1 s.2) = .ok ps ∧
        ps.foldlM addPrepared batches = .ok batches' := by
  induction inputs with
  | nil =>
    intro batches batches'
    constructor
    · intro h
      exact ⟨[], rfl, h⟩
    · rintro ⟨ps, hps, h⟩
      cases hps
      exact h
  | cons input inputs ih =>
    intro batches batches'
    constructor
    · intro h
      rw [List.foldlM_cons, addSuite] at h
      obtain ⟨between, hadd, hrest⟩ := ok_of_bind h
      obtain ⟨p, hp, hadd⟩ := ok_of_bind hadd
      obtain ⟨ps, hps, hfold⟩ := ih.mp hrest
      refine ⟨p :: ps, ?_, ?_⟩
      · rw [List.mapM_cons, hp, ok_bind, hps]
        rfl
      · rw [List.foldlM_cons, hadd, ok_bind, hfold]
    · rintro ⟨ps, hps, hfold⟩
      rw [List.mapM_cons] at hps
      obtain ⟨p, hp, hps⟩ := ok_of_bind hps
      obtain ⟨rest, hrest, hps⟩ := ok_of_bind hps
      cases hps
      rw [List.foldlM_cons] at hfold
      obtain ⟨between, hadd, hfold⟩ := ok_of_bind hfold
      rw [List.foldlM_cons, addSuite, hp, ok_bind, hadd, ok_bind]
      exact ih.mpr ⟨rest, hrest, hfold⟩

/-- The plan of the batches of some suites. -/
def planOf (inputs : List (Suite × Dict)) (batches : Batches) : Plan :=
  match inputs with
  | [] => ⟨0, 0, none, none, []⟩
  | suite :: rest =>
    ⟨(suite :: rest).length, (sortBatches batches).length, some (overallPath (sortBatches batches)),
      some (overallChoice (sortBatches batches)), sortBatches batches⟩

/-- A plan is the plan of the grouped batches of the prepared suites, which fit together. -/
theorem buildPlan_ok_iff {Input : Type} {coerceSuite : Input → Except PlanError (Suite × Dict)}
    {suites : List Input} {plan : Plan} :
    buildPlan coerceSuite suites = .ok plan ↔
      ∃ inputs ps batches, suites.mapM coerceSuite = .ok inputs ∧
        inputs.mapM (fun s => prepare s.1 s.2) = .ok ps ∧
        ps.foldlM addPrepared [] = .ok batches ∧ plan = planOf inputs batches := by
  constructor
  · intro h
    rw [buildPlan] at h
    obtain ⟨inputs, hinputs, h⟩ := ok_of_bind h
    cases inputs with
    | nil =>
      cases h
      exact ⟨[], [], [], hinputs, rfl, rfl, rfl⟩
    | cons input inputs =>
      obtain ⟨batches, hfold, h⟩ := ok_of_bind h
      obtain ⟨ps, hps, hfold⟩ := (foldlM_addSuite_ok_iff _).mp hfold
      cases h
      exact ⟨input :: inputs, ps, batches, hinputs, hps, hfold, rfl⟩
  · rintro ⟨inputs, ps, batches, hinputs, hps, hfold, rfl⟩
    have hloop := (foldlM_addSuite_ok_iff inputs).mpr ⟨ps, hps, hfold⟩
    rw [buildPlan, hinputs, ok_bind]
    cases inputs with
    | nil => rfl
    | cons input inputs =>
      dsimp only
      rw [hloop]
      rfl

end Prepare

/-! ### The content of a plan -/

theorem Grouped.nil : Grouped [] [] :=
  ⟨List.nodup_nil, fun _ => rfl, fun _ hp => absurd hp List.not_mem_nil⟩

theorem map_sortBatches (batches : Batches) :
    (sortBatches batches).map Batch.dataObjectVersionId =
      Sorted.sortOn id (Assoc.keys batches) := by
  have htarget : ∀ t ∈ Sorted.sortOn id (Assoc.keys batches),
      ((Assoc.find? batches t).map (batchOf t)).map Batch.dataObjectVersionId = some t := by
    intro t ht
    rw [Sorted.mem_sortOn] at ht
    cases hfind : Assoc.find? batches t with
    | none => exact absurd ht (Assoc.find?_eq_none_iff.mp hfind)
    | some payload => rfl
  rw [sortBatches, List.map_filterMap, List.filterMap_congr htarget, List.filterMap_some]

theorem mem_sortBatches {batches : Batches} {batch : Batch} (h : batch ∈ sortBatches batches) :
    ∃ payload, Assoc.find? batches batch.dataObjectVersionId = some payload ∧
      batch = batchOf batch.dataObjectVersionId payload := by
  obtain ⟨t, _, hbatch⟩ := List.mem_filterMap.mp h
  obtain ⟨payload, hfind, rfl⟩ := Option.map_eq_some_iff.mp hbatch
  exact ⟨payload, hfind, rfl⟩

theorem Grouped.mem_keys_iff {ps : List Prepared} {batches : Batches} (h : Grouped ps batches)
    (t : Text) : t ∈ Assoc.keys batches ↔ ∃ p ∈ ps, t ∈ p.targetIds := by
  rw [← groupOf_isSome_iff, ← h.find, ← not_iff_not, ← Assoc.find?_eq_none_iff,
    Option.not_isSome_iff_eq_none]

def Batch.listings (batch : Batch) : List (Text × Dict) := batch.suiteIds.zip batch.suites

theorem batchOf_listings (t : Text) (payload : BatchPayload) :
    (batchOf t payload).listings.Perm
      (payload.suiteEntries.map fun entry => (entry.suiteId, entry.suiteEnvelope)) := by
  rw [Batch.listings, batchOf, List.zip_map']
  exact (Sorted.sortOn_perm _ _).map _

section Content

variable [PyRuntime] {inputs : List (Suite × Dict)} {ps : List Prepared}

/-- The prepared suites of a target come from the suites that select it, in order. -/
theorem sharing_prepared (h : inputs.mapM (fun s => prepare s.1 s.2) = .ok ps) (t : Text) :
    (sharing ps t).map (fun p => (p.entry.suiteId, p.entry.suiteEnvelope)) =
      (inputs.filter fun s => Selects s.1 t).map listing := by
  have hall := mapM_ok h
  clear h
  induction hall with
  | nil => rfl
  | @cons input p inputs ps hp _ ih =>
    obtain ⟨htargets, hentry⟩ := prepare_ok hp
    have hselects : t ∈ p.targetIds ↔ Selects input.1 t := by
      rw [htargets, mem_selectedTargets]
    rw [sharing] at ih ⊢
    by_cases ht : Selects input.1 t
    · rw [List.filter_cons_of_pos (by simpa using hselects.mpr ht),
        List.filter_cons_of_pos (by simpa using ht), List.map_cons, List.map_cons, ih, hentry,
        listing]
    · rw [List.filter_cons_of_neg (by simpa using mt hselects.mp ht),
        List.filter_cons_of_neg (by simpa using ht), ih]

theorem keys_prepared (h : inputs.mapM (fun s => prepare s.1 s.2) = .ok ps) :
    ps.map (fun p => p.entry.key) = inputs.map fun s => toLex (suiteKey s) := by
  have hall := mapM_ok h
  clear h
  induction hall with
  | nil => rfl
  | cons hp _ ih =>
    obtain ⟨_, hentry⟩ := prepare_ok hp
    rw [List.map_cons, List.map_cons, ih, hentry, SuiteEntry.key, suiteKey]

end Content

/-- The plan groups the suites by their selected targets. -/
structure Partitions (inputs : List (Suite × Dict)) (plan : Plan) : Prop where
  /-- The targets are strictly increasing. -/
  increasing : (plan.batches.map Batch.dataObjectVersionId).Pairwise (· < ·)
  /-- There is a batch for exactly the selected targets. -/
  targets : ∀ t, t ∈ plan.batches.map Batch.dataObjectVersionId ↔ ∃ s ∈ inputs, Selects s.1 t
  /-- A suite and one of its targets occur in one batch. -/
  unique : ∀ s ∈ inputs, ∀ t, Selects s.1 t →
    ∃! batch, batch ∈ plan.batches ∧ batch.dataObjectVersionId = t
  /-- A batch lists the suites of its target, each as often as it was given. -/
  content : ∀ batch ∈ plan.batches, batch.listings.Perm
    ((inputs.filter fun s => Selects s.1 batch.dataObjectVersionId).map listing)
  /-- The counts agree with the content. -/
  suiteCounts : ∀ batch ∈ plan.batches,
    batch.suiteIds.length = batch.suiteCount ∧ batch.suites.length = batch.suiteCount
  batchCount : plan.batchCount = plan.batches.length
  suiteCount : plan.suiteCount = inputs.length

section Content

variable [PyRuntime] {inputs : List (Suite × Dict)} {ps : List Prepared} {batches : Batches}

theorem exists_selects_iff (h : inputs.mapM (fun s => prepare s.1 s.2) = .ok ps) (t : Text) :
    (∃ p ∈ ps, t ∈ p.targetIds) ↔ ∃ s ∈ inputs, Selects s.1 t := by
  constructor
  · rintro ⟨p, hp, ht⟩
    obtain ⟨s, hs, hprepare⟩ := mem_of_mapM h hp
    rw [(prepare_ok hprepare).1, mem_selectedTargets] at ht
    exact ⟨s, hs, ht⟩
  · rintro ⟨s, hs, ht⟩
    obtain ⟨p, hp, hprepare⟩ := mapM_mem h hs
    refine ⟨p, hp, ?_⟩
    rw [(prepare_ok hprepare).1, mem_selectedTargets]
    exact ht

theorem batches_planOf (hps : inputs.mapM (fun s => prepare s.1 s.2) = .ok ps)
    (hgrouped : Grouped ps batches) : (planOf inputs batches).batches = sortBatches batches := by
  cases inputs with
  | nil =>
    cases hps
    cases batches with
    | nil => simp [planOf, sortBatches, Sorted.sortOn]
    | cons batch batches =>
      have hmem : batch.1 ∈ Assoc.keys (batch :: batches) := by simp
      obtain ⟨p, hp, _⟩ := (hgrouped.mem_keys_iff batch.1).mp hmem
      cases hp
  | cons input inputs => rfl

/-- The grouped batches of the prepared suites partition them. -/
theorem Grouped.partitions (hps : inputs.mapM (fun s => prepare s.1 s.2) = .ok ps)
    (hgrouped : Grouped ps batches) : Partitions inputs (planOf inputs batches) := by
  have hbatches := batches_planOf hps hgrouped
  have hincreasing : ((sortBatches batches).map Batch.dataObjectVersionId).Pairwise (· < ·) := by
    rw [map_sortBatches]
    exact Sorted.pairwise_lt_sortOn hgrouped.nodup
  have htargets : ∀ t, t ∈ (sortBatches batches).map Batch.dataObjectVersionId ↔
      ∃ s ∈ inputs, Selects s.1 t := by
    intro t
    rw [map_sortBatches, Sorted.mem_sortOn, hgrouped.mem_keys_iff, exists_selects_iff hps]
  constructor
  · rw [hbatches]
    exact hincreasing
  · rw [hbatches]
    exact htargets
  · intro s hs t ht
    rw [hbatches]
    obtain ⟨batch, hmem, htarget⟩ := List.mem_map.mp ((htargets t).mpr ⟨s, hs, ht⟩)
    refine ⟨batch, ⟨hmem, htarget⟩, ?_⟩
    rintro other ⟨hother, hsame⟩
    have hnodup : ((sortBatches batches).map Batch.dataObjectVersionId).Nodup :=
      hincreasing.imp fun h => h.ne
    exact List.inj_on_of_nodup_map hnodup hother hmem (hsame.trans htarget.symm)
  · rw [hbatches]
    intro batch hmem
    obtain ⟨payload, hfind, hbatch⟩ := mem_sortBatches hmem
    have hpayload := hgrouped.find batch.dataObjectVersionId
    rw [hfind, groupOf] at hpayload
    rw [← sharing_prepared hps]
    generalize batch.dataObjectVersionId = t at hpayload hbatch ⊢
    cases hsharing : sharing ps t with
    | nil =>
      rw [hsharing] at hpayload
      cases hpayload
    | cons p rest =>
      rw [hsharing] at hpayload
      cases hpayload
      rw [hbatch]
      have hlistings := batchOf_listings t ⟨p.incrementalSelection,
        (p :: rest).map Prepared.entry, (p :: rest).all Prepared.supportsSqlPushdown⟩
      rw [List.map_map] at hlistings
      exact hlistings
  · rw [hbatches]
    intro batch hmem
    obtain ⟨payload, _, hbatch⟩ := mem_sortBatches hmem
    rw [hbatch]
    exact ⟨List.length_map .., List.length_map ..⟩
  · cases inputs with
    | nil => rfl
    | cons input inputs => rfl
  · cases inputs with
    | nil => rfl
    | cons input inputs => rfl

end Content

/-! ### The order of the suites -/

section Order

variable {ps qs : List Prepared} {batches batches' : Batches}

/-- The batch of a target does not depend on the order of compatible suites with distinct keys. -/
theorem batchOf_groupOf_eq_of_perm (hperm : ps.Perm qs) (hcompatible : Compatible ps)
    (hkeys : (ps.map fun p => p.entry.key).Nodup) (t : Text) :
    (groupOf ps t).map (batchOf t) = (groupOf qs t).map (batchOf t) := by
  have hsharing : (sharing ps t).Perm (sharing qs t) := hperm.filter _
  have hshared : ((sharing ps t).map fun p => p.entry.key).Nodup :=
    hkeys.sublist (List.filter_sublist.map _)
  have hmem : ∀ p ∈ sharing ps t, p ∈ ps ∧ t ∈ p.targetIds := by
    intro p hp
    obtain ⟨hp, ht⟩ := List.mem_filter.mp hp
    exact ⟨hp, by simpa using ht⟩
  rw [groupOf, groupOf]
  generalize sharing ps t = xs at hsharing hshared hmem ⊢
  generalize sharing qs t = ys at hsharing ⊢
  cases xs with
  | nil => rw [hsharing.nil_eq]
  | cons p xs =>
    cases ys with
    | nil => cases hsharing.eq_nil
    | cons q ys =>
      have hq := hmem q (hsharing.mem_iff.mpr List.mem_cons_self)
      have hp := hmem p List.mem_cons_self
      have hselection : p.incrementalSelection = q.incrementalSelection :=
        hcompatible p hp.1 q hq.1 t hp.2 hq.2
      have hpushdown : (p :: xs).all Prepared.supportsSqlPushdown =
          (q :: ys).all Prepared.supportsSqlPushdown := hsharing.all_eq
      have hentries : sortEntries ((p :: xs).map Prepared.entry) =
          sortEntries ((q :: ys).map Prepared.entry) := by
        apply Sorted.sortOn_eq_of_perm (hsharing.map _)
        rw [List.map_map]
        exact hshared
      simp only [Option.map_some, batchOf, hselection, hpushdown, hentries]

/-- Permuted suites have the same sorted batches. -/
theorem sortBatches_eq_of_perm (hperm : ps.Perm qs) (h : Grouped ps batches)
    (h' : Grouped qs batches') (hkeys : (ps.map fun p => p.entry.key).Nodup) :
    sortBatches batches = sortBatches batches' := by
  have hsame : (Assoc.keys batches).Perm (Assoc.keys batches') := by
    rw [List.perm_ext_iff_of_nodup h.nodup h'.nodup]
    intro t
    rw [h.mem_keys_iff, h'.mem_keys_iff]
    constructor
    · rintro ⟨p, hp, ht⟩
      exact ⟨p, hperm.mem_iff.mp hp, ht⟩
    · rintro ⟨p, hp, ht⟩
      exact ⟨p, hperm.mem_iff.mpr hp, ht⟩
  have hsorted : Sorted.sortOn id (Assoc.keys batches) = Sorted.sortOn id (Assoc.keys batches') :=
    Sorted.sortOn_eq_of_perm hsame (by
      rw [List.map_id]
      exact h.nodup)
  rw [sortBatches, sortBatches, hsorted]
  apply List.filterMap_congr
  intro t _
  rw [h.find, h'.find]
  exact batchOf_groupOf_eq_of_perm hperm h.compatible hkeys t

end Order

/-! ### Plans -/

section Plans

variable [PyRuntime] {Input : Type} {coerceSuite : Input → Except PlanError (Suite × Dict)}

theorem nodup_targetIds {inputs : List (Suite × Dict)} {ps : List Prepared}
    (hps : inputs.mapM (fun s => prepare s.1 s.2) = .ok ps) : ∀ p ∈ ps, p.targetIds.Nodup := by
  intro p hp
  obtain ⟨s, _, hprepare⟩ := mem_of_mapM hps hp
  rw [(prepare_ok hprepare).1]
  exact nodup_selectedTargets s.1

theorem Grouped.of_foldlM {inputs : List (Suite × Dict)} {ps : List Prepared} {batches : Batches}
    (hps : inputs.mapM (fun s => prepare s.1 s.2) = .ok ps)
    (hfold : ps.foldlM Planner.addPrepared [] = .ok batches) : Grouped ps batches := by
  obtain ⟨hok, herror⟩ := Grouped.foldlM ps Grouped.nil (nodup_targetIds hps)
  rw [List.nil_append] at hok herror
  by_cases hcompatible : Compatible ps
  · obtain ⟨batches', hfold', hgrouped⟩ := hok hcompatible
    rw [hfold] at hfold'
    cases hfold'
    exact hgrouped
  · obtain ⟨error, hfold'⟩ := herror hcompatible
    rw [hfold] at hfold'
    cases hfold'

omit [PyRuntime] in
theorem planOf_eq_of_perm {inputs inputs' : List (Suite × Dict)} {batches batches' : Batches}
    (hperm : inputs'.Perm inputs) (hbatches : sortBatches batches = sortBatches batches') :
    planOf inputs batches = planOf inputs' batches' := by
  have hlength := hperm.length_eq
  cases inputs with
  | nil => rw [hperm.eq_nil]; rfl
  | cons input inputs =>
    cases inputs' with
    | nil => cases hlength
    | cons input' inputs' => rw [planOf, planOf, hbatches, hlength]

/-- Suites with distinct keys give the same plan in every order. -/
theorem buildPlan_eq_of_perm {suites suites' : List Input} (hperm : suites'.Perm suites)
    {inputs : List (Suite × Dict)} (hinputs : suites.mapM coerceSuite = .ok inputs)
    (hkeys : (inputs.map suiteKey).Nodup) {plan : Plan}
    (h : buildPlan coerceSuite suites = .ok plan) : buildPlan coerceSuite suites' = .ok plan := by
  obtain ⟨_, ps, batches, hcoerced, hps, hfold, rfl⟩ := buildPlan_ok_iff.mp h
  rw [hinputs] at hcoerced
  cases hcoerced
  obtain ⟨inputs', hinputs', hperm'⟩ := mapM_perm hperm hinputs
  obtain ⟨ps', hps', hprepared⟩ := mapM_perm hperm' hps
  have hgrouped := Grouped.of_foldlM hps hfold
  have hcompatible' : Compatible ps' := fun p hp q hq =>
    hgrouped.compatible p (hprepared.mem_iff.mp hp) q (hprepared.mem_iff.mp hq)
  obtain ⟨batches', hfold', _⟩ :=
    (Grouped.foldlM ps' Grouped.nil (nodup_targetIds hps')).1 hcompatible'
  have hdistinct : (ps.map fun p => p.entry.key).Nodup := by
    have hkeyed : inputs.map (fun s => toLex (suiteKey s)) = (inputs.map suiteKey).map toLex := by
      rw [List.map_map]
      rfl
    rw [keys_prepared hps, hkeyed]
    exact hkeys.map toLex.injective
  have hbatches := sortBatches_eq_of_perm hprepared.symm hgrouped
    (Grouped.of_foldlM hps' hfold') hdistinct
  exact buildPlan_ok_iff.mpr
    ⟨inputs', ps', batches', hinputs', hps', hfold', planOf_eq_of_perm hperm' hbatches⟩

end Plans

section Example

local instance sampleRuntimePlan : PyRuntime := .ascii (fun _ => .nan) (fun _ => [])

/-- A suite without selection or engine. -/
def sampleSuite (suiteId : String) (targets : List String) : Suite :=
  { suiteId := suiteId.toList, suiteVersion := 1
    dataObjectVersionIds := targets.map String.toList
    recommendedEngine := none, emitGeneratedSql := none
    incrementalSelection := none, executionContract := none }

/-- Two suites that share a target. -/
def sampleSuites : List (Suite × Dict) :=
  [(sampleSuite "b" ["t2", " t1", "t2"], []), (sampleSuite "a" ["t1"], [])]

/-- Two suites whose identifiers differ in a space only. -/
def spacedSuites : List (Suite × Dict) :=
  [(sampleSuite "a" ["t"], []), (sampleSuite "a " ["t"], [("note", .null)])]

end Example

end Planner

end DqMadeEasy
