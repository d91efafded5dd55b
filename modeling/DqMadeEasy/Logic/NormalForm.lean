import Mathlib.Order.Lattice
import Mathlib.Order.BoundedOrder.Basic
import Mathlib.Tactic.Ring

/-!
# Disjunctions of blocks

A block is a list of atoms read as their conjunction; a list of blocks is read as the
disjunction of its members. The value of such a normal form is taken in any bounded
distributive lattice, so the same lemmas serve two-valued and three-valued conditions.

Concatenating two lists of blocks computes the join of their values. Pairing every block of
one list with every block of the other computes the meet: this is where distributivity is
used, and it is the only place.
-/

namespace DqMadeEasy

namespace NormalForm

variable {ι κ α : Type*} [DistribLattice α] [BoundedOrder α]

def evalBlock (v : ι → α) (block : List ι) : α :=
  block.foldr (fun atom rest => v atom ⊓ rest) ⊤

def evalBlocks (v : ι → α) (blocks : List (List ι)) : α :=
  blocks.foldr (fun block rest => evalBlock v block ⊔ rest) ⊥

/-- Every block of `left` extended by every block of `right`, `left` being the outer loop. -/
def cross (left right : List (List ι)) : List (List ι) :=
  left.flatMap fun leftBlock => right.map fun rightBlock => leftBlock ++ rightBlock

@[simp] theorem evalBlock_nil (v : ι → α) : evalBlock v [] = ⊤ := rfl

@[simp] theorem evalBlock_cons (v : ι → α) (atom : ι) (block : List ι) :
    evalBlock v (atom :: block) = v atom ⊓ evalBlock v block := rfl

@[simp] theorem evalBlocks_nil (v : ι → α) : evalBlocks v [] = ⊥ := rfl

@[simp] theorem evalBlocks_cons (v : ι → α) (block : List ι) (blocks : List (List ι)) :
    evalBlocks v (block :: blocks) = evalBlock v block ⊔ evalBlocks v blocks := rfl

theorem evalBlock_append (v : ι → α) (left right : List ι) :
    evalBlock v (left ++ right) = evalBlock v left ⊓ evalBlock v right := by
  induction left with
  | nil => simp
  | cons atom left ih => simp only [List.cons_append, evalBlock_cons, ih, inf_assoc]

theorem evalBlocks_append (v : ι → α) (left right : List (List ι)) :
    evalBlocks v (left ++ right) = evalBlocks v left ⊔ evalBlocks v right := by
  induction left with
  | nil => simp
  | cons block left ih => simp only [List.cons_append, evalBlocks_cons, ih, sup_assoc]

theorem evalBlocks_map_append (v : ι → α) (block : List ι) (blocks : List (List ι)) :
    evalBlocks v (blocks.map fun other => block ++ other) =
      evalBlock v block ⊓ evalBlocks v blocks := by
  induction blocks with
  | nil => simp
  | cons other blocks ih =>
    simp only [List.map_cons, evalBlocks_cons, ih, evalBlock_append, inf_sup_left]

theorem evalBlocks_cross (v : ι → α) (left right : List (List ι)) :
    evalBlocks v (cross left right) = evalBlocks v left ⊓ evalBlocks v right := by
  induction left with
  | nil => simp [cross]
  | cons block left ih =>
    have hsplit : cross (block :: left) right =
        right.map (fun other => block ++ other) ++ cross left right := rfl
    rw [hsplit, evalBlocks_append, evalBlocks_map_append, ih, evalBlocks_cons, inf_sup_right]

theorem cross_length (left right : List (List ι)) :
    (cross left right).length = left.length * right.length := by
  induction left with
  | nil => simp [cross]
  | cons block left ih =>
    have hsplit : cross (block :: left) right =
        right.map (fun other => block ++ other) ++ cross left right := rfl
    rw [hsplit, List.length_append, List.length_map, ih, List.length_cons]
    ring

end NormalForm

end DqMadeEasy
