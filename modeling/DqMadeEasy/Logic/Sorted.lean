import Mathlib.Data.List.Sort

/-!
# Sorting by a key

A stable sort by a key depends on the order of its input only where keys are equal. When the keys
are distinct, permuted inputs are sorted to the same list. Erasing duplicates first makes a list of
keys distinct.
-/

namespace DqMadeEasy

namespace Sorted

theorem nodup_eraseDups {α : Type*} [BEq α] [LawfulBEq α] (xs : List α) :
    xs.eraseDups.Nodup := by
  induction hlength : xs.length using Nat.strong_induction_on generalizing xs with
  | _ n ih =>
    cases xs with
    | nil => simp
    | cons x xs =>
      rw [List.eraseDups_cons, List.nodup_cons]
      have hshorter : (xs.filter fun y => !y == x).length < n := by
        have := List.length_filter_le (fun y => !y == x) xs
        simp only [List.length_cons] at hlength
        omega
      refine ⟨?_, ih _ hshorter _ rfl⟩
      rw [List.mem_eraseDups]
      simp

variable {α κ : Type*} [LinearOrder κ]

def sortOn (key : α → κ) (xs : List α) : List α :=
  xs.insertionSort fun a b => key a ≤ key b

theorem sortOn_perm (key : α → κ) (xs : List α) : (sortOn key xs).Perm xs :=
  List.perm_insertionSort _ xs

theorem mem_sortOn {key : α → κ} {xs : List α} {a : α} : a ∈ sortOn key xs ↔ a ∈ xs :=
  (sortOn_perm key xs).mem_iff

theorem pairwise_sortOn (key : α → κ) (xs : List α) :
    (sortOn key xs).Pairwise fun a b => key a ≤ key b := by
  have : Std.Total fun a b : α => key a ≤ key b := ⟨fun a b => le_total (key a) (key b)⟩
  have : IsTrans α fun a b => key a ≤ key b := ⟨fun _ _ _ hab hbc => hab.trans hbc⟩
  exact List.pairwise_insertionSort _ xs

theorem sortOn_eq_of_perm {key : α → κ} {xs ys : List α} (hperm : xs.Perm ys)
    (hkeys : (xs.map key).Nodup) : sortOn key xs = sortOn key ys := by
  have hinj : ∀ a ∈ xs, ∀ b ∈ xs, key a = key b → a = b := List.inj_on_of_nodup_map hkeys
  apply List.Perm.eq_of_pairwise ?_ (pairwise_sortOn key xs) (pairwise_sortOn key ys)
  · exact (sortOn_perm key xs).trans (hperm.trans (sortOn_perm key ys).symm)
  · intro a b ha hb hab hba
    rw [mem_sortOn] at ha hb
    exact hinj a ha b (hperm.mem_iff.mpr hb) (le_antisymm hab hba)

theorem eq_of_perm_of_pairwise_lt {key : α → κ} {xs ys : List α} (hperm : xs.Perm ys)
    (hxs : xs.Pairwise fun a b => key a ≤ key b) (hys : ys.Pairwise fun a b => key a < key b) :
    xs = ys := by
  have hnodup : (ys.map key).Nodup := List.pairwise_map.mpr (hys.imp fun h => h.ne)
  have hinj : ∀ a ∈ ys, ∀ b ∈ ys, key a = key b → a = b := List.inj_on_of_nodup_map hnodup
  apply List.Perm.eq_of_pairwise ?_ hxs (hys.imp fun h => h.le) hperm
  intro a b ha hb hab hba
  exact hinj a (hperm.mem_iff.mp ha) b hb (le_antisymm hab hba)

theorem sortOn_eq_self {key : α → κ} {xs : List α} (h : xs.Pairwise fun a b => key a ≤ key b) :
    sortOn key xs = xs := h.insertionSort_eq

theorem pairwise_lt_sortOn {xs : List κ} (hnodup : xs.Nodup) :
    (sortOn id xs).Pairwise (· < ·) := by
  have hne : (sortOn id xs).Pairwise (· ≠ ·) := (sortOn_perm id xs).nodup_iff.mpr hnodup
  exact (pairwise_sortOn id xs).imp₂ (fun a b hle hne => lt_of_le_of_ne hle hne) hne

end Sorted

end DqMadeEasy
