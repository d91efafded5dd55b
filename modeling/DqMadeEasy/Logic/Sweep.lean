import DqMadeEasy.Logic.Drain
import DqMadeEasy.Logic.Sorted

/-!
# Sweeping entries of a kind

Entries of one kind are listed in the order of their keys, some at a time, and erased as they are
listed. A page goes on after the last key of the page before. Since everything before that key is
erased, a page shows the first entries of the kind that are left, and the last page leaves none.
-/

namespace DqMadeEasy

namespace Sweep

variable {κ ν : Type} [LinearOrder κ] (kind : κ → Bool)

def remaining (after : Option κ) (xs : List (κ × ν)) : List κ :=
  Sorted.sortOn id ((xs.map Prod.fst).filter fun key => kind key && after.all fun k => decide (k < key))

def Ahead (after : Option κ) (xs : List (κ × ν)) : Prop :=
  ∀ key ∈ xs.map Prod.fst, kind key = true → ∀ k ∈ after, k < key

variable {kind} {after : Option κ} {xs : List (κ × ν)} {size : ℕ}

theorem ahead_none (kind : κ → Bool) (xs : List (κ × ν)) : Ahead kind none xs :=
  fun _ _ _ _ h => absurd h nofun

theorem mem_remaining {key : κ} : key ∈ remaining kind after xs ↔
    key ∈ xs.map Prod.fst ∧ kind key = true ∧ ∀ k ∈ after, k < key := by
  rw [remaining, Sorted.mem_sortOn, List.mem_filter, Bool.and_eq_true, Option.all_eq_true]
  simp only [decide_eq_true_eq, Option.mem_def]

theorem mem_remaining_of_ahead (h : Ahead kind after xs) {key : κ} :
    key ∈ remaining kind after xs ↔ key ∈ xs.map Prod.fst ∧ kind key = true := by
  rw [mem_remaining]
  exact and_congr_right fun hkey => and_iff_left_of_imp fun hkind => h key hkey hkind

theorem kind_of_mem_page {key : κ} (h : key ∈ (remaining kind after xs).take size) :
    kind key = true := (mem_remaining.mp (List.mem_of_mem_take h)).2.1

variable [DecidableEq κ]

omit [LinearOrder κ] in
theorem filter_eraseKeys {keys : List κ} (h : ∀ key ∈ keys, kind key = true) :
    (Drain.eraseKeys keys xs).filter (fun entry => !kind entry.1) =
      xs.filter fun entry => !kind entry.1 := by
  rw [Drain.eraseKeys, List.filter_filter]
  apply List.filter_congr
  intro entry _
  have := h entry.1
  grind

theorem eraseKeys_last_page (hahead : Ahead kind after xs)
    (hlast : (remaining kind after xs).length ≤ size) :
    Drain.eraseKeys ((remaining kind after xs).take size) xs =
      xs.filter fun entry => !kind entry.1 := by
  rw [List.take_of_length_le hlast, Drain.eraseKeys]
  apply List.filter_congr
  intro entry hentry
  have hremains : entry.1 ∈ remaining kind after xs ↔ _ ∧ _ := mem_remaining_of_ahead hahead
  rw [and_iff_right (List.mem_map_of_mem hentry)] at hremains
  simp [hremains]

/-- After a page that is not the last one, the rest is ahead of its last key. -/
theorem ahead_next_page (hahead : Ahead kind after xs) (hsize : 0 < size)
    (hmore : size < (remaining kind after xs).length) :
    ∃ last, ((remaining kind after xs).take size).getLast? = some last ∧
      Ahead kind (some last) (Drain.eraseKeys ((remaining kind after xs).take size) xs) := by
  have hnonempty : (remaining kind after xs).take size ≠ [] := by
    apply List.ne_nil_of_length_pos
    rw [List.length_take]
    omega
  refine ⟨_, List.getLast?_eq_some_getLast hnonempty, ?_⟩
  intro key hkey hkind last hlast
  obtain rfl := Option.some.inj hlast
  obtain ⟨entry, hentry, rfl⟩ := List.mem_map.mp hkey
  obtain ⟨hmem, hkept⟩ := List.mem_filter.mp hentry
  rw [decide_eq_true_eq] at hkept
  -- the key remains, and it is not on the page, so it comes after all keys of the page
  have hremains : entry.1 ∈ remaining kind after xs :=
    (mem_remaining_of_ahead hahead).mpr ⟨List.mem_map_of_mem hmem, hkind⟩
  have hlater : entry.1 ∈ (remaining kind after xs).drop size := by
    rw [← List.take_append_drop size (remaining kind after xs)] at hremains
    exact (List.mem_append.mp hremains).resolve_left hkept
  have hsorted := Sorted.pairwise_sortOn id
    ((xs.map Prod.fst).filter fun key => kind key && after.all fun k => decide (k < key))
  rw [← remaining, ← List.take_append_drop size (remaining kind after xs),
    List.pairwise_append] at hsorted
  have hlast := List.getLast_mem hnonempty
  have hle := hsorted.2.2 _ hlast _ hlater
  exact lt_of_le_of_ne hle fun heq => hkept (heq ▸ hlast)

/-- A page that is not the last one erases something of the kind. -/
theorem countP_next_page (hahead : Ahead kind after xs) (hsize : 0 < size)
    (hmore : size < (remaining kind after xs).length) :
    (Drain.eraseKeys ((remaining kind after xs).take size) xs).countP (fun entry => kind entry.1) <
      xs.countP fun entry => kind entry.1 := by
  obtain ⟨last, hlast, hnext⟩ := ahead_next_page hahead hsize hmore
  have hmem : last ∈ (remaining kind after xs).take size := List.mem_of_getLast? hlast
  obtain ⟨hkey, hkind, -⟩ := mem_remaining.mp (List.mem_of_mem_take hmem)
  obtain ⟨entry, hentry, rfl⟩ := List.mem_map.mp hkey
  have hsplit := List.countP_eq_countP_filter_add xs (fun entry => kind entry.1)
    fun entry => decide (entry.1 ∉ (remaining kind after xs).take size)
  have herased : 0 < (xs.filter fun entry =>
      !decide (entry.1 ∉ (remaining kind after xs).take size)).countP fun entry => kind entry.1 :=
    List.countP_pos_iff.mpr ⟨entry, List.mem_filter.mpr ⟨hentry, by simpa using hmem⟩, hkind⟩
  rw [Drain.eraseKeys]
  omega

end Sweep

end DqMadeEasy
