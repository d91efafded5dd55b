import Mathlib.Data.List.TakeDrop
import Mathlib.Data.List.Perm.Basic

/-!
# Pages and stripes of a list

A list is split into pages by its positions, and into stripes by a key of its items. Both splits
lose nothing: the pages in their order are the list, and the stripes together are a permutation.
-/

namespace DqMadeEasy

namespace Splitting

variable {α : Type}

def page (xs : List α) (start size : ℕ) : List α := (xs.drop start).take size

theorem flatMap_page (xs : List α) (size count : ℕ) :
    (List.range count).flatMap (fun i => page xs (i * size) size) = xs.take (count * size) := by
  induction count with
  | zero => simp
  | succ count ih =>
    rw [List.range_succ, List.flatMap_append, ih, List.flatMap_singleton, page, Nat.succ_mul,
      List.take_add]

theorem flatMap_page_eq {xs : List α} {size count : ℕ} (h : xs.length ≤ count * size) :
    (List.range count).flatMap (fun i => page xs (i * size) size) = xs := by
  rw [flatMap_page, List.take_of_length_le h]

theorem page_zero {xs : List α} {size : ℕ} (h : xs.length ≤ size) : page xs 0 size = xs :=
  List.take_of_length_le h

variable (key : α → ℕ)

def stripe (xs : List α) (k : ℕ) : List α := xs.filter fun x => decide (key x = k)

/-- Stripes of different keys have no item in common. -/
theorem pairwise_disjoint_stripe (xs : List α) (count : ℕ) :
    ((List.range count).map (stripe key xs)).Pairwise List.Disjoint := by
  rw [List.pairwise_map]
  apply (List.nodup_range (n := count)).imp
  intro k k' hne x hx hx'
  rw [stripe, List.mem_filter, decide_eq_true_eq] at hx hx'
  exact hne (hx.2.symm.trans hx'.2)

/-- The first stripes are the items with the first keys. -/
theorem flatMap_stripe_perm (xs : List α) (count : ℕ) :
    ((List.range count).flatMap (stripe key xs)).Perm
      (xs.filter fun x => decide (key x < count)) := by
  induction count with
  | zero => simp
  | succ count ih =>
    rw [List.range_succ, List.flatMap_append, List.flatMap_singleton]
    -- an item below the next number has it as its key, or is below this one
    have hsplit := List.filter_append_perm (fun x => decide (key x < count))
      (xs.filter fun x => decide (key x < count + 1))
    refine ((ih.append_right _).trans (List.Perm.of_eq ?_)).trans hsplit
    rw [stripe, List.filter_filter, List.filter_filter]
    congr 1
    · apply List.filter_congr
      intro x _
      grind
    · apply List.filter_congr
      intro x _
      grind

theorem flatten_stripe_perm {xs : List α} {count : ℕ} (h : ∀ x ∈ xs, key x < count) :
    ((List.range count).map (stripe key xs)).flatten.Perm xs := by
  have hall : xs.filter (fun x => decide (key x < count)) = xs :=
    List.filter_eq_self.mpr fun x hx => decide_eq_true (h x hx)
  rw [← List.flatMap_def]
  exact (flatMap_stripe_perm key xs count).trans (List.Perm.of_eq hall)

end Splitting

end DqMadeEasy
