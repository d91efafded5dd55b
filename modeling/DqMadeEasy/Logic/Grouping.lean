import Mathlib.Algebra.BigOperators.Group.List.Basic
import Mathlib.Data.List.Induction
import DqMadeEasy.Logic.Assoc

/-!
# Grouping and counting by a key

Items are grouped by a key in one pass: an item with a new key starts a group, and any other item is
added to the group of its key. A tally is the grouping that adds up weights. Groups can be filtered
and counted instead of their items when the filter and the new key do not tell the items of a group
apart.
-/

namespace DqMadeEasy

namespace Assoc

variable {κ β : Type*} [DecidableEq κ]

theorem perm_of_find?_eq {entries entries' : List (κ × β)} (hnodup : (keys entries).Nodup)
    (hnodup' : (keys entries').Nodup) (h : ∀ k, find? entries k = find? entries' k) :
    entries.Perm entries' := by
  apply (List.perm_ext_iff_of_nodup hnodup.of_map hnodup'.of_map).mpr
  rintro ⟨k, b⟩
  constructor
  · intro hmem
    apply mem_of_find?
    rw [← h, find?_of_mem hnodup hmem]
  · intro hmem
    apply mem_of_find?
    rw [h, find?_of_mem hnodup' hmem]

theorem length_update (key : κ) (f : Option β → β) (entries : List (κ × β)) :
    (update key f entries).length =
      if key ∈ keys entries then entries.length else entries.length + 1 := by
  have hkeys := congrArg List.length (keys_update key f entries)
  rw [keys, List.length_map] at hkeys
  rw [hkeys]
  split
  · rw [keys, List.length_map]
  · rw [List.length_append, keys, List.length_map, List.length_singleton]

section Assignments

variable {α : Type*} (keyOf : α → κ) (valueOf : α → β)

def assignAll (xs : List α) (entries : List (κ × β)) : List (κ × β) :=
  xs.foldl (fun entries a => update (keyOf a) (fun _ => valueOf a) entries) entries

theorem assignAll_append (xs : List α) (a : α) (entries : List (κ × β)) :
    assignAll keyOf valueOf (xs ++ [a]) entries =
      update (keyOf a) (fun _ => valueOf a) (assignAll keyOf valueOf xs entries) := by
  rw [assignAll, List.foldl_append]
  rfl

theorem nodup_keys_assignAll (xs : List α) : (keys (assignAll keyOf valueOf xs [])).Nodup := by
  induction xs using List.reverseRecOn with
  | nil => exact List.nodup_nil
  | append_singleton xs a ih =>
    rw [assignAll_append]
    exact nodup_keys_update ih

theorem mem_keys_assignAll {xs : List α} {key : κ} :
    key ∈ keys (assignAll keyOf valueOf xs []) ↔ ∃ a ∈ xs, keyOf a = key := by
  induction xs using List.reverseRecOn with
  | nil => exact iff_of_false List.not_mem_nil (by simp)
  | append_singleton xs a ih =>
    rw [assignAll_append, mem_keys_update, ih]
    simp [or_comm, eq_comm]

/-- Every entry is that of an item. -/
theorem exists_of_mem_assignAll {xs : List α} {key : κ} {value : β}
    (h : (key, value) ∈ assignAll keyOf valueOf xs []) :
    ∃ a ∈ xs, keyOf a = key ∧ valueOf a = value := by
  have hfind := find?_of_mem (nodup_keys_assignAll keyOf valueOf xs) h
  clear h
  induction xs using List.reverseRecOn with
  | nil => cases hfind
  | append_singleton xs a ih =>
    rw [assignAll_append, find?_update] at hfind
    split at hfind
    · rename_i hkey
      exact ⟨a, by simp, hkey, Option.some.inj hfind⟩
    · obtain ⟨b, hb, hentry⟩ := ih hfind
      exact ⟨b, List.mem_append_left _ hb, hentry⟩

theorem length_assignAll_le (xs : List α) :
    (assignAll keyOf valueOf xs []).length ≤ xs.length := by
  induction xs using List.reverseRecOn with
  | nil => exact Nat.le_refl 0
  | append_singleton xs a ih =>
    rw [assignAll_append, length_update, List.length_append, List.length_singleton]
    split
    · omega
    · omega

/-- Assignments that make as many entries as there are items append them one after the other. -/
theorem assignAll_of_length {xs : List α}
    (h : (assignAll keyOf valueOf xs []).length = xs.length) :
    assignAll keyOf valueOf xs [] = xs.map fun a => (keyOf a, valueOf a) := by
  induction xs using List.reverseRecOn with
  | nil => rfl
  | append_singleton xs a ih =>
    have hle := length_assignAll_le keyOf valueOf xs
    rw [assignAll_append, length_update, List.length_append, List.length_singleton] at h
    split at h
    · omega
    · rename_i hnew
      have hprevious := ih (by omega)
      rw [assignAll_append, update_of_find?_none (find?_eq_none_iff.mpr hnew), hprevious,
        List.map_append, List.map_singleton]

/-- Assignments to distinct keys make one entry each. -/
theorem assignAll_of_nodup {xs : List α} (h : (xs.map keyOf).Nodup) :
    assignAll keyOf valueOf xs [] = xs.map fun a => (keyOf a, valueOf a) := by
  induction xs using List.reverseRecOn with
  | nil => rfl
  | append_singleton xs a ih =>
    rw [List.map_append, List.map_singleton, List.nodup_append] at h
    have hnew : keyOf a ∉ keys (assignAll keyOf valueOf xs []) := by
      rw [mem_keys_assignAll]
      rintro ⟨b, hb, hsame⟩
      exact h.2.2 _ (List.mem_map_of_mem hb) _ (List.mem_singleton_self _) hsame
    rw [assignAll_append, update_of_find?_none (find?_eq_none_iff.mpr hnew), ih h.1,
      List.map_append, List.map_singleton]

end Assignments

end Assoc

namespace Grouping

variable {α β γ κ : Type*} [DecidableEq κ]

/-! ### Groups -/

def gather (start : α → β) (add : β → α → β) (group : Option β) (a : α) : β :=
  match group with
  | none => start a
  | some b => add b a

/-- The group of some items. -/
def gathered (start : α → β) (add : β → α → β) : List α → Option β
  | [] => none
  | a :: as => some (as.foldl add (start a))

def groupOn (keyOf : α → κ) (start : α → β) (add : β → α → β) (xs : List α) : List (κ × β) :=
  xs.foldl (fun groups a =>
    Assoc.update (keyOf a) (fun group => gather start add group a) groups) []

def fiber (keyOf : α → κ) (xs : List α) (k : κ) : List α := xs.filter fun a => keyOf a = k

variable {keyOf : α → κ} {start : α → β} {add : β → α → β} {xs : List α}

theorem gathered_append (as : List α) (a : α) :
    gathered start add (as ++ [a]) = some (gather start add (gathered start add as) a) := by
  cases as with
  | nil => rfl
  | cons head as => simp [gathered, gather]

theorem groupOn_append (xs : List α) (a : α) :
    groupOn keyOf start add (xs ++ [a]) =
      Assoc.update (keyOf a) (fun group => gather start add group a)
        (groupOn keyOf start add xs) := by
  rw [groupOn, List.foldl_append]
  rfl

@[simp] theorem mem_fiber {k : κ} {a : α} : a ∈ fiber keyOf xs k ↔ a ∈ xs ∧ keyOf a = k := by
  simp [fiber]

theorem fiber_append (xs : List α) (a : α) (k : κ) :
    fiber keyOf (xs ++ [a]) k =
      if keyOf a = k then fiber keyOf xs k ++ [a] else fiber keyOf xs k := by
  rw [fiber, fiber, List.filter_append, List.filter_singleton]
  by_cases h : keyOf a = k
  · simp [h]
  · simp [h]

theorem find?_groupOn (k : κ) :
    Assoc.find? (groupOn keyOf start add xs) k = gathered start add (fiber keyOf xs k) := by
  induction xs using List.reverseRecOn with
  | nil => rfl
  | append_singleton xs a ih =>
    rw [groupOn_append, Assoc.find?_update, fiber_append]
    split
    · rename_i hk
      subst hk
      rw [ih, gathered_append]
    · exact ih

theorem nodup_keys_groupOn : (Assoc.keys (groupOn keyOf start add xs)).Nodup := by
  induction xs using List.reverseRecOn with
  | nil => exact List.nodup_nil
  | append_singleton xs a ih =>
    rw [groupOn_append]
    exact Assoc.nodup_keys_update ih

theorem gathered_eq_none_iff {as : List α} : gathered start add as = none ↔ as = [] := by
  cases as with
  | nil => exact iff_of_true rfl rfl
  | cons a as => exact iff_of_false nofun nofun

theorem mem_keys_groupOn {k : κ} :
    k ∈ Assoc.keys (groupOn keyOf start add xs) ↔ ∃ a ∈ xs, keyOf a = k := by
  rw [← not_iff_not, ← Assoc.find?_eq_none_iff, find?_groupOn, gathered_eq_none_iff,
    List.eq_nil_iff_forall_not_mem]
  simp

theorem gathered_of_mem {entry : κ × β} (h : entry ∈ groupOn keyOf start add xs) :
    gathered start add (fiber keyOf xs entry.1) = some entry.2 := by
  rw [← find?_groupOn]
  exact Assoc.find?_of_mem nodup_keys_groupOn h

theorem exists_group {a : α} (ha : a ∈ xs) :
    ∃ entry ∈ groupOn keyOf start add xs, entry.1 = keyOf a := by
  have hkey : keyOf a ∈ Assoc.keys (groupOn keyOf start add xs) :=
    mem_keys_groupOn.mpr ⟨a, ha, rfl⟩
  obtain ⟨entry, hentry, hfst⟩ := List.mem_map.mp hkey
  exact ⟨entry, hentry, hfst⟩

/-- What the group of the items with a key satisfies, by induction on its items. -/
theorem gathered_induction {motive : List α → β → Prop} (hstart : ∀ a, motive [a] (start a))
    (hadd : ∀ as b a, motive as b → motive (as ++ [a]) (add b a)) {as : List α} {b : β}
    (h : gathered start add as = some b) : motive as b := by
  induction as using List.reverseRecOn generalizing b with
  | nil => cases h
  | append_singleton as a ih =>
    rw [gathered_append] at h
    obtain rfl := Option.some.inj h
    cases hprevious : gathered start add as with
    | none =>
      rw [gathered_eq_none_iff.mp hprevious]
      exact hstart a
    | some previous => exact hadd as previous a (ih hprevious)

/-! ### Sums over groups -/

section Sums

variable {M : Type*} [AddCommMonoid M]

def total (p : α → Prop) [DecidablePred p] (weight : α → M) (xs : List α) : M :=
  (xs.map fun a => if p a then weight a else 0).sum

theorem total_cons {p : α → Prop} [DecidablePred p] {weight : α → M} {a : α} :
    total p weight (a :: xs) = (if p a then weight a else 0) + total p weight xs := rfl

theorem total_perm {p : α → Prop} [DecidablePred p] {weight : α → M} {xs ys : List α}
    (h : xs.Perm ys) : total p weight xs = total p weight ys := (h.map _).sum_eq

theorem total_filter {p : α → Prop} [DecidablePred p] {q : α → Bool} {weight : α → M} :
    total p weight (xs.filter q) = total (fun a => q a = true ∧ p a) weight xs := by
  induction xs with
  | nil => rfl
  | cons a xs ih =>
    rw [total_cons, ← ih, List.filter_cons]
    by_cases hq : q a
    · simp [hq, total_cons]
    · simp [hq]

theorem total_map {f : γ → α} {p : α → Prop} [DecidablePred p] {weight : α → M} {zs : List γ} :
    total p weight (zs.map f) = total (fun z => p (f z)) (fun z => weight (f z)) zs := by
  rw [total, List.map_map]
  rfl

theorem total_filterMap {f : γ → Option α} {p : α → Prop} [DecidablePred p] {weight : α → M}
    {q : γ → Prop} [DecidablePred q] {weight' : γ → M} {zs : List γ}
    (hpass : ∀ z a, f z = some a → (p a ↔ q z) ∧ weight a = weight' z)
    (hskip : ∀ z, f z = none → ¬q z) :
    total p weight (zs.filterMap f) = total q weight' zs := by
  induction zs with
  | nil => rfl
  | cons z zs ih =>
    rw [total_cons, ← ih]
    cases hz : f z with
    | none => rw [List.filterMap_cons_none hz, if_neg (hskip z hz), zero_add]
    | some a =>
      obtain ⟨hiff, hweight⟩ := hpass z a hz
      rw [List.filterMap_cons_some hz, total_cons, hweight, if_congr hiff rfl rfl]

theorem sum_map_single {keys : List κ} (hnodup : keys.Nodup) {k : κ} (hk : k ∈ keys) (m : M) :
    (keys.map fun key => if k = key then m else 0).sum = m := by
  induction keys with
  | nil => cases hk
  | cons key keys ih =>
    rw [List.nodup_cons] at hnodup
    rw [List.map_cons, List.sum_cons]
    by_cases heq : k = key
    · have hzero : (keys.map fun key => if k = key then m else 0) = keys.map fun _ => (0 : M) := by
        apply List.map_congr_left
        rintro other hother
        rw [if_neg]
        rintro rfl
        exact hnodup.1 (heq ▸ hother)
      rw [if_pos heq, hzero]
      simp
    · rw [if_neg heq, zero_add]
      exact ih hnodup.2 ((List.mem_cons.mp hk).resolve_left heq)

/-- The sum over the items is the sum over the keys of the sums over their items. -/
theorem sum_map_fibers {keys : List κ} (hnodup : keys.Nodup) {weight : α → M}
    (hkeys : ∀ a ∈ xs, keyOf a ∈ keys) :
    (keys.map fun k => ((fiber keyOf xs k).map weight).sum).sum = (xs.map weight).sum := by
  induction xs with
  | nil => simp [fiber]
  | cons a xs ih =>
    have hsplit : ∀ k, ((fiber keyOf (a :: xs) k).map weight).sum =
        (if keyOf a = k then weight a else 0) + ((fiber keyOf xs k).map weight).sum := by
      intro k
      rw [fiber, List.filter_cons]
      by_cases h : keyOf a = k
      · simp [h, fiber]
      · simp [h, fiber]
    simp only [hsplit]
    rw [List.sum_map_add, sum_map_single hnodup (hkeys a List.mem_cons_self),
      ih fun b hb => hkeys b (List.mem_cons_of_mem _ hb), List.map_cons, List.sum_cons]

/-- Groups are summed as their items are, when a group passes the filter exactly if its items do,
and weighs as much as they do. -/
theorem total_groupOn {p : κ × β → Prop} [DecidablePred p] {q : α → Prop} [DecidablePred q]
    {weight : κ × β → M} {itemWeight : α → M}
    (hpass : ∀ entry ∈ groupOn keyOf start add xs, ∀ a ∈ xs, keyOf a = entry.1 → (p entry ↔ q a))
    (hweight : ∀ entry ∈ groupOn keyOf start add xs,
      weight entry = ((fiber keyOf xs entry.1).map itemWeight).sum) :
    total p weight (groupOn keyOf start add xs) = total q itemWeight xs := by
  have hentry : ∀ entry ∈ groupOn keyOf start add xs,
      (if p entry then weight entry else 0) =
        ((fiber keyOf xs entry.1).map fun a => if q a then itemWeight a else 0).sum := by
    intro entry hmem
    by_cases hp : p entry
    · rw [if_pos hp, hweight entry hmem]
      congr 1
      apply List.map_congr_left
      intro a ha
      rw [mem_fiber] at ha
      rw [if_pos ((hpass entry hmem a ha.1 ha.2).mp hp)]
    · have hzero : (fiber keyOf xs entry.1).map (fun a => if q a then itemWeight a else 0) =
          (fiber keyOf xs entry.1).map fun _ => 0 := by
        apply List.map_congr_left
        intro a ha
        rw [mem_fiber] at ha
        rw [if_neg fun hq => hp ((hpass entry hmem a ha.1 ha.2).mpr hq)]
      rw [if_neg hp, hzero]
      simp
  have hnodup : (Assoc.keys (groupOn keyOf start add xs)).Nodup := nodup_keys_groupOn
  have hkeys : ∀ a ∈ xs, keyOf a ∈ Assoc.keys (groupOn keyOf start add xs) :=
    fun a ha => mem_keys_groupOn.mpr ⟨a, ha, rfl⟩
  rw [total, List.map_congr_left hentry, total, ← sum_map_fibers hnodup hkeys, Assoc.keys,
    List.map_map]
  rfl

/-! ### Tallies -/

def tally (keyOf : α → κ) (weight : α → M) (xs : List α) : List (κ × M) :=
  xs.foldl (fun totals a => Assoc.update (keyOf a) (fun n => n.getD 0 + weight a) totals) []

theorem tally_eq_groupOn {weight : α → M} :
    tally keyOf weight xs = groupOn keyOf weight (fun n a => n + weight a) xs := by
  have hgather : ∀ a : α, (fun n : Option M => n.getD 0 + weight a) =
      fun n => gather weight (fun n a => n + weight a) n a := by
    intro a
    funext n
    cases n with
    | none => exact zero_add _
    | some n => rfl
  simp only [tally, hgather]
  rfl

theorem gathered_sum {weight : α → M} {as : List α} {m : M}
    (h : gathered weight (fun n a => n + weight a) as = some m) : m = (as.map weight).sum := by
  refine gathered_induction (motive := fun as m => m = (as.map weight).sum) ?_ ?_ h
  · intro a
    simp
  · rintro as _ a rfl
    simp

theorem nodup_keys_tally {weight : α → M} : (Assoc.keys (tally keyOf weight xs)).Nodup := by
  rw [tally_eq_groupOn]
  exact nodup_keys_groupOn

theorem sum_fiber {weight : α → M} (k : κ) :
    ((fiber keyOf xs k).map weight).sum = total (fun a => keyOf a = k) weight xs := by
  induction xs with
  | nil => rfl
  | cons a xs ih =>
    rw [total_cons, ← ih, fiber, List.filter_cons]
    by_cases h : keyOf a = k
    · simp [h, fiber]
    · simp [h, fiber]

/-- The total of a key that some item has. -/
theorem find?_tally {weight : α → M} {k : κ} :
    Assoc.find? (tally keyOf weight xs) k =
      if ∃ a ∈ xs, keyOf a = k then some (total (fun a => keyOf a = k) weight xs) else none := by
  rw [tally_eq_groupOn, find?_groupOn]
  split
  · rename_i h
    obtain ⟨a, ha, hk⟩ := h
    have hmem : a ∈ fiber keyOf xs k := mem_fiber.mpr ⟨ha, hk⟩
    cases hgathered : gathered weight (fun n a => n + weight a) (fiber keyOf xs k) with
    | none =>
      rw [gathered_eq_none_iff.mp hgathered] at hmem
      cases hmem
    | some m => rw [gathered_sum hgathered, sum_fiber]
  · rename_i h
    rw [gathered_eq_none_iff, List.eq_nil_iff_forall_not_mem]
    intro a ha
    rw [mem_fiber] at ha
    exact h ⟨a, ha⟩

theorem tally_perm {ys : List γ} {keyOf' : γ → κ} {weight : α → M} {weight' : γ → M}
    (hkeys : ∀ k, (∃ a ∈ xs, keyOf a = k) ↔ ∃ c ∈ ys, keyOf' c = k)
    (htotals : ∀ k,
      total (fun a => keyOf a = k) weight xs = total (fun c => keyOf' c = k) weight' ys) :
    (tally keyOf weight xs).Perm (tally keyOf' weight' ys) := by
  apply Assoc.perm_of_find?_eq nodup_keys_tally nodup_keys_tally
  intro k
  rw [find?_tally, find?_tally, htotals k, if_congr (hkeys k) rfl rfl]

theorem sum_tally {weight : α → M} :
    ((tally keyOf weight xs).map Prod.snd).sum = (xs.map weight).sum := by
  have hvalue : ∀ entry ∈ tally keyOf weight xs,
      entry.2 = ((fiber keyOf xs entry.1).map weight).sum := by
    intro entry hentry
    rw [tally_eq_groupOn] at hentry
    exact gathered_sum (gathered_of_mem hentry)
  have hnodup : (Assoc.keys (tally keyOf weight xs)).Nodup := nodup_keys_tally
  have hkeys : ∀ a ∈ xs, keyOf a ∈ Assoc.keys (tally keyOf weight xs) := by
    intro a ha
    rw [tally_eq_groupOn]
    exact mem_keys_groupOn.mpr ⟨a, ha, rfl⟩
  rw [List.map_congr_left hvalue, ← sum_map_fibers hnodup hkeys, Assoc.keys, List.map_map]
  rfl

theorem sum_fiber_entries {entries : List (κ × M)} (hnodup : (Assoc.keys entries).Nodup) (k : κ) :
    ((fiber Prod.fst entries k).map Prod.snd).sum = (Assoc.find? entries k).getD 0 := by
  induction entries with
  | nil => rfl
  | cons entry entries ih =>
    obtain ⟨k', m⟩ := entry
    rw [Assoc.keys_cons, List.nodup_cons] at hnodup
    rw [Assoc.find?_cons, fiber, List.filter_cons]
    by_cases hk : k' = k
    · have hnone : fiber Prod.fst entries k = [] := by
        apply List.eq_nil_iff_forall_not_mem.mpr
        intro entry hentry
        obtain ⟨hentry, hsame⟩ := mem_fiber.mp hentry
        exact hnodup.1 (List.mem_map.mpr ⟨entry, hentry, hsame.trans hk.symm⟩)
      rw [fiber] at hnone
      simp [hk, hnone]
    · rw [if_neg hk, ← ih hnodup.2, fiber]
      simp [hk]

/-- The values that are looked up by distinct keys, if these are all, add up to all values. -/
theorem sum_lookups {entries : List (κ × M)} {ks : List κ} (hnodup : (Assoc.keys entries).Nodup)
    (hks : ks.Nodup) (hall : ∀ k ∈ Assoc.keys entries, k ∈ ks) :
    (ks.map fun k => (Assoc.find? entries k).getD 0).sum = (entries.map Prod.snd).sum := by
  have hfibers : (ks.map fun k => ((fiber Prod.fst entries k).map Prod.snd).sum).sum =
      (entries.map Prod.snd).sum :=
    sum_map_fibers hks fun entry hentry => hall _ (List.mem_map_of_mem hentry)
  rw [← hfibers]
  congr 1
  apply List.map_congr_left
  intro k _
  exact (sum_fiber_entries hnodup k).symm

end Sums

end Grouping

end DqMadeEasy
