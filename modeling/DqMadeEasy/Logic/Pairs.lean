import Mathlib.Data.List.Perm.Basic

/-!
# Loops over the pairs of a list

Two nested loops visit every pair of positions of a list once. When what a pair yields does not
depend on the order of its two items, then the order of the list decides only in which order the
results come.
-/

namespace DqMadeEasy

namespace Pairs

variable {α β : Type}

/-- The results of two nested loops: every item with each later one. -/
def overPairs (f : α → α → List β) : List α → List β
  | [] => []
  | x :: xs => xs.flatMap (f x) ++ overPairs f xs

variable {f : α → α → List β}

theorem overPairs_cons (x : α) (xs : List α) :
    overPairs f (x :: xs) = xs.flatMap (f x) ++ overPairs f xs := rfl

/-- The loops with the results renamed. -/
theorem map_overPairs {γ : Type} (g : β → γ) (xs : List α) :
    (overPairs f xs).map g = overPairs (fun x y => (f x y).map g) xs := by
  induction xs with
  | nil => rfl
  | cons x xs ih => rw [overPairs_cons, overPairs_cons, List.map_append, List.map_flatMap, ih]

/-- The order of the list decides only in which order the results come. -/
theorem overPairs_perm (hsymm : ∀ x y, f x y = f y x) {xs ys : List α} (h : xs.Perm ys) :
    (overPairs f xs).Perm (overPairs f ys) := by
  induction h with
  | nil => exact .refl _
  | cons x hperm ih => exact (hperm.flatMap_right _).append ih
  | swap x y xs =>
    simp only [overPairs_cons, List.flatMap_cons, List.append_assoc]
    rw [hsymm y x]
    refine .append_left _ ?_
    rw [← List.append_assoc, ← List.append_assoc]
    exact .append_right _ List.perm_append_comm
  | trans _ _ ih₁ ih₂ => exact ih₁.trans ih₂

end Pairs

end DqMadeEasy
