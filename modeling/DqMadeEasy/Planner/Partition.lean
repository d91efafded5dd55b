import DqMadeEasy.Planner.Grouped

/-!
# What the planner groups

The batches after any part of the loop are determined by the prepared suites so far: the batch of
a target holds the entries of the suites that have the target, in order, their common incremental
selection, and the conjunction of their pushdown flags. From this the plan is a function of the
suites as a multiset, and the loop stops exactly when two suites that share a target declare
different selections.
-/

namespace DqMadeEasy

namespace Planner

def sharing (ps : List Prepared) (targetId : Text) : List Prepared :=
  ps.filter fun p => targetId ∈ p.targetIds

/-- The batch payload of a target, from the prepared suites. -/
def groupOf (ps : List Prepared) (targetId : Text) : Option BatchPayload :=
  match sharing ps targetId with
  | [] => none
  | p :: rest =>
    some ⟨p.incrementalSelection, (p :: rest).map Prepared.entry,
      (p :: rest).all Prepared.supportsSqlPushdown⟩

def Compatible (ps : List Prepared) : Prop :=
  ∀ p ∈ ps, ∀ q ∈ ps, ∀ t ∈ p.targetIds, t ∈ q.targetIds →
    p.incrementalSelection = q.incrementalSelection

/-- The batches group the prepared suites. -/
structure Grouped (ps : List Prepared) (batches : Batches) : Prop where
  nodup : (Assoc.keys batches).Nodup
  find : ∀ t, Assoc.find? batches t = groupOf ps t
  compatible : Compatible ps

/-- The payload of a target after one more suite. -/
def extendPayload (p : Prepared) (payload : Option BatchPayload) : BatchPayload :=
  let batch := payload.getD ⟨p.incrementalSelection, [], p.supportsSqlPushdown⟩
  { batch with
    supportsSqlPushdown :=
      if batch.supportsSqlPushdown then p.supportsSqlPushdown else batch.supportsSqlPushdown
    suiteEntries := batch.suiteEntries ++ [p.entry] }

variable {p : Prepared} {batches : Batches} {t : Text} {ps : List Prepared}

theorem addTarget_ok (h : ((Assoc.find? batches t).getD
      ⟨p.incrementalSelection, [], p.supportsSqlPushdown⟩).incrementalSelection =
        p.incrementalSelection) :
    addTarget p batches t =
      .ok (Assoc.update t (fun _ => extendPayload p (Assoc.find? batches t)) batches) := by
  rw [addTarget, if_neg (not_not.mpr h)]
  rfl

/-- The targets that remain to be extended all carry the suite's selection. -/
def Agrees (p : Prepared) (batches : Batches) (targets : List Text) : Prop :=
  ∀ t ∈ targets, ∀ payload, Assoc.find? batches t = some payload →
    payload.incrementalSelection = p.incrementalSelection

/-- The loop over the targets of one suite. -/
theorem addTargets_ok (targets : List Text) :
    ∀ {batches : Batches}, targets.Nodup → (Assoc.keys batches).Nodup →
      Agrees p batches targets →
      ∃ batches', targets.foldlM (addTarget p) batches = .ok batches' ∧
        (Assoc.keys batches').Nodup ∧
        ∀ t, Assoc.find? batches' t =
          if t ∈ targets then some (extendPayload p (Assoc.find? batches t))
          else Assoc.find? batches t := by
  induction targets with
  | nil =>
    intro batches _ hkeys _
    exact ⟨batches, rfl, hkeys, by simp⟩
  | cons target targets ih =>
    intro batches hnodup hkeys hagrees
    rw [List.nodup_cons] at hnodup
    have hhead : ((Assoc.find? batches target).getD
        ⟨p.incrementalSelection, [], p.supportsSqlPushdown⟩).incrementalSelection =
          p.incrementalSelection := by
      cases hfind : Assoc.find? batches target with
      | none => rfl
      | some payload => exact hagrees target (by simp) payload hfind
    have hstep := addTarget_ok hhead
    have hrest : Agrees p (Assoc.update target
        (fun _ => extendPayload p (Assoc.find? batches target)) batches) targets := by
      intro t ht payload hfind
      have hne : target ≠ t := by
        rintro rfl
        exact hnodup.1 ht
      rw [Assoc.find?_update, if_neg hne] at hfind
      exact hagrees t (List.mem_cons_of_mem _ ht) payload hfind
    obtain ⟨batches', hfold, hkeys', hfind⟩ :=
      ih hnodup.2 (Assoc.nodup_keys_update hkeys) hrest
    refine ⟨batches', by rw [List.foldlM_cons, hstep, ok_bind, hfold], hkeys', ?_⟩
    intro t
    rw [hfind, Assoc.find?_update]
    by_cases ht : target = t
    · subst ht
      simp [hnodup.1]
    · simp [ht, Ne.symm ht]

/-- A target with another selection stops the loop. -/
theorem addTargets_error (targets : List Text) :
    ∀ {batches : Batches}, targets.Nodup → ¬Agrees p batches targets →
      ∃ error, targets.foldlM (addTarget p) batches = .error error := by
  induction targets with
  | nil =>
    intro batches _ h
    exact absurd (by intro t ht; cases ht) h
  | cons target targets ih =>
    intro batches hnodup h
    rw [List.nodup_cons] at hnodup
    rw [List.foldlM_cons, addTarget]
    split
    · exact ⟨_, rfl⟩
    · rename_i hhead
      rw [ok_bind]
      apply ih hnodup.2
      intro hrest
      apply h
      intro t ht payload hfind
      rcases List.mem_cons.mp ht with rfl | ht
      · rw [hfind] at hhead
        exact not_not.mp hhead
      · apply hrest t ht payload
        have hne : target ≠ t := by
          rintro rfl
          exact hnodup.1 ht
        rw [Assoc.find?_update, if_neg hne, hfind]

/-! ### One more suite -/

theorem sharing_append (ps : List Prepared) (p : Prepared) (t : Text) :
    sharing (ps ++ [p]) t = if t ∈ p.targetIds then sharing ps t ++ [p] else sharing ps t := by
  by_cases ht : t ∈ p.targetIds
  · simp [sharing, ht]
  · simp [sharing, ht]

/-- The batch of a target after one more suite. -/
theorem groupOf_append (ps : List Prepared) (p : Prepared) (t : Text) :
    groupOf (ps ++ [p]) t =
      if t ∈ p.targetIds then some (extendPayload p (groupOf ps t)) else groupOf ps t := by
  rw [groupOf, sharing_append]
  by_cases ht : t ∈ p.targetIds
  · rw [if_pos ht, if_pos ht, groupOf]
    cases sharing ps t with
    | nil => simp [extendPayload]
    | cons q rest =>
      cases hall : (q :: rest).all Prepared.supportsSqlPushdown with
      | true =>
        simp only [List.all_cons] at hall
        simp [extendPayload, ← Bool.and_assoc, hall]
      | false =>
        simp only [List.all_cons] at hall
        simp [extendPayload, ← Bool.and_assoc, hall]
  · rw [if_neg ht, if_neg ht, groupOf]

theorem exists_of_groupOf {payload : BatchPayload} (h : groupOf ps t = some payload) :
    ∃ q ∈ ps, t ∈ q.targetIds ∧ payload.incrementalSelection = q.incrementalSelection := by
  rw [groupOf] at h
  cases hsharing : sharing ps t with
  | nil =>
    rw [hsharing] at h
    cases h
  | cons q rest =>
    rw [hsharing] at h
    cases h
    have hmem : q ∈ sharing ps t := by simp [hsharing]
    obtain ⟨hq, ht⟩ := List.mem_filter.mp hmem
    exact ⟨q, hq, by simpa using ht, rfl⟩

/-- A target of a prepared suite has a batch. -/
theorem groupOf_isSome_iff :
    (groupOf ps t).isSome ↔ ∃ p ∈ ps, t ∈ p.targetIds := by
  constructor
  · intro h
    obtain ⟨payload, hpayload⟩ := Option.isSome_iff_exists.mp h
    obtain ⟨q, hq, ht, _⟩ := exists_of_groupOf hpayload
    exact ⟨q, hq, ht⟩
  · rintro ⟨p, hp, ht⟩
    have hmem : p ∈ sharing ps t := List.mem_filter.mpr ⟨hp, by simpa using ht⟩
    rw [groupOf]
    cases hsharing : sharing ps t with
    | nil =>
      rw [hsharing] at hmem
      cases hmem
    | cons q rest => rfl

theorem Compatible.of_append {qs : List Prepared} (h : Compatible (ps ++ qs)) :
    Compatible ps := fun p hp q hq t ht ht' =>
  h p (List.mem_append_left _ hp) q (List.mem_append_left _ hq) t ht ht'

/-- The batches carry the suite's selection exactly when it fits the suites so far. -/
theorem Grouped.agrees_iff (h : Grouped ps batches) (p : Prepared) :
    Agrees p batches p.targetIds ↔ Compatible (ps ++ [p]) := by
  constructor
  · intro hagrees
    have hold : ∀ q ∈ ps, ∀ t ∈ p.targetIds, t ∈ q.targetIds →
        q.incrementalSelection = p.incrementalSelection := by
      intro q hq t ht ht'
      obtain ⟨payload, hpayload⟩ := Option.isSome_iff_exists.mp
        (groupOf_isSome_iff.mpr ⟨q, hq, ht'⟩)
      obtain ⟨r, hr, htr, hselection⟩ := exists_of_groupOf hpayload
      rw [h.compatible q hq r hr t ht' htr, ← hselection]
      exact hagrees t ht payload (by rw [h.find, hpayload])
    intro q hq r hr t ht ht'
    rcases List.mem_append.mp hq with hq | hq
    · rcases List.mem_append.mp hr with hr | hr
      · exact h.compatible q hq r hr t ht ht'
      · rw [List.mem_singleton.mp hr] at ht' ⊢
        exact hold q hq t ht' ht
    · rw [List.mem_singleton.mp hq] at ht ⊢
      rcases List.mem_append.mp hr with hr | hr
      · exact (hold r hr t ht ht').symm
      · rw [List.mem_singleton.mp hr]
  · intro hcompatible t ht payload hfind
    rw [h.find] at hfind
    obtain ⟨q, hq, htq, hselection⟩ := exists_of_groupOf hfind
    rw [hselection]
    exact hcompatible q (List.mem_append_left _ hq) p (by simp) t htq ht

/-- One more suite that fits. -/
theorem Grouped.addPrepared (h : Grouped ps batches) (hnodup : p.targetIds.Nodup)
    (hcompatible : Compatible (ps ++ [p])) :
    ∃ batches', addPrepared batches p = .ok batches' ∧ Grouped (ps ++ [p]) batches' := by
  obtain ⟨batches', hfold, hkeys, hfind⟩ :=
    addTargets_ok p.targetIds hnodup h.nodup ((h.agrees_iff p).mpr hcompatible)
  refine ⟨batches', hfold, hkeys, ?_, hcompatible⟩
  intro t
  rw [hfind, groupOf_append, h.find]

/-- The rest of the loop succeeds exactly when all suites fit together. -/
theorem Grouped.foldlM (qs : List Prepared) :
    ∀ {ps : List Prepared} {batches : Batches}, Grouped ps batches →
      (∀ q ∈ qs, q.targetIds.Nodup) →
      (Compatible (ps ++ qs) → ∃ batches', qs.foldlM Planner.addPrepared batches = .ok batches' ∧
        Grouped (ps ++ qs) batches') ∧
      (¬Compatible (ps ++ qs) → ∃ error, qs.foldlM Planner.addPrepared batches = .error error) := by
  induction qs with
  | nil =>
    intro ps batches h _
    rw [List.append_nil]
    exact ⟨fun _ => ⟨batches, rfl, h⟩, fun hnot => absurd h.compatible hnot⟩
  | cons q qs ih =>
    intro ps batches h hnodup
    have hq := hnodup q (by simp)
    rw [List.append_cons]
    by_cases hfits : Compatible (ps ++ [q])
    · obtain ⟨batches', hstep, hgrouped⟩ := h.addPrepared hq hfits
      rw [List.foldlM_cons, hstep, ok_bind]
      exact ih hgrouped fun r hr => hnodup r (List.mem_cons_of_mem _ hr)
    · obtain ⟨error, herror⟩ := addTargets_error q.targetIds hq (mt (h.agrees_iff q).mp hfits)
      refine ⟨fun hall => absurd hall.of_append hfits, fun _ => ⟨error, ?_⟩⟩
      rw [List.foldlM_cons, Planner.addPrepared, herror, error_bind]

end Planner

end DqMadeEasy
