import Mathlib.Order.Lattice
import Mathlib.Order.BoundedOrder.Basic

/-!
# Three-valued truth

The truth values of a query language with missing values. They form the chain
`no < unknown < yes`; conjunction is its meet, disjunction its join, and negation turns it
upside down. A filter keeps a row only when its condition is `yes`.

Everything a condition needs from this logic is that the chain is a bounded distributive
lattice, which is what the normal-form lemmas are stated over.
-/

namespace DqMadeEasy

/-- The outcome of a condition on one row. -/
inductive Truth where
  | no
  | unknown
  | yes
  deriving DecidableEq, Repr

namespace Truth

/-- Position in the chain `no < unknown < yes`. -/
def rank : Truth → Nat
  | .no => 0
  | .unknown => 1
  | .yes => 2

theorem rank_injective : Function.Injective rank := by
  intro a b h
  cases a <;> cases b <;> simp_all [rank]

/-- Three-valued conjunction. -/
def and : Truth → Truth → Truth
  | .no, _ => .no
  | _, .no => .no
  | .unknown, _ => .unknown
  | _, .unknown => .unknown
  | .yes, .yes => .yes

/-- Three-valued disjunction. -/
def or : Truth → Truth → Truth
  | .yes, _ => .yes
  | _, .yes => .yes
  | .unknown, _ => .unknown
  | _, .unknown => .unknown
  | .no, .no => .no

/-- Three-valued negation: the unknown stays unknown. -/
def not : Truth → Truth
  | .no => .yes
  | .unknown => .unknown
  | .yes => .no

instance : LE Truth := ⟨fun a b => a.rank ≤ b.rank⟩

instance : DecidableLE Truth := fun a b => inferInstanceAs (Decidable (a.rank ≤ b.rank))

instance : PartialOrder Truth where
  le_refl a := Nat.le_refl a.rank
  le_trans _ _ _ := Nat.le_trans
  le_antisymm _ _ h k := rank_injective (Nat.le_antisymm h k)

instance : Lattice Truth where
  sup := or
  inf := and
  le_sup_left a b := by cases a <;> cases b <;> decide
  le_sup_right a b := by cases a <;> cases b <;> decide
  sup_le a b c h k := by cases a <;> cases b <;> first | exact h | exact k
  inf_le_left a b := by cases a <;> cases b <;> decide
  inf_le_right a b := by cases a <;> cases b <;> decide
  le_inf a b c h k := by cases b <;> cases c <;> first | exact h | exact k

instance : DistribLattice Truth where
  le_sup_inf a b c := by cases a <;> cases b <;> cases c <;> decide

instance : BoundedOrder Truth where
  top := .yes
  le_top a := by cases a <;> decide
  bot := .no
  bot_le a := by cases a <;> decide

@[simp] theorem top_eq : (⊤ : Truth) = .yes := rfl
@[simp] theorem bot_eq : (⊥ : Truth) = .no := rfl

/-- Two-valued truth embedded in the chain. -/
def ofBool : Bool → Truth
  | true => .yes
  | false => .no

/-- Truth of a test that is undefined on a missing value. -/
def ofOption : Option Bool → Truth
  | some b => ofBool b
  | none => .unknown

@[simp] theorem ofBool_true : ofBool true = .yes := rfl
@[simp] theorem ofBool_false : ofBool false = .no := rfl

@[simp] theorem ofBool_eq_yes {b : Bool} : ofBool b = .yes ↔ b = true := by
  cases b <;> simp [ofBool]

@[simp] theorem ofBool_eq_no {b : Bool} : ofBool b = .no ↔ b = false := by
  cases b <;> simp [ofBool]

@[simp] theorem ofBool_ne_unknown {b : Bool} : ofBool b ≠ .unknown := by
  cases b <;> simp [ofBool]

@[simp] theorem ofOption_some (b : Bool) : ofOption (some b) = ofBool b := rfl
@[simp] theorem ofOption_none : ofOption none = .unknown := rfl

@[simp] theorem not_not (a : Truth) : a.not.not = a := by cases a <;> rfl

theorem not_inf (a b : Truth) : (a ⊓ b).not = a.not ⊔ b.not := by
  cases a <;> cases b <;> rfl

variable {a : Truth}

@[simp] theorem not_eq_yes : a.not = .yes ↔ a = .no := by
  cases a <;> simp [not]

@[simp] theorem not_eq_no : a.not = .no ↔ a = .yes := by
  cases a <;> simp [not]

@[simp] theorem not_ofBool (b : Bool) : (ofBool b).not = ofBool !b := by
  cases b <;> rfl

@[simp] theorem ofBool_inf (a b : Bool) : ofBool a ⊓ ofBool b = ofBool (a && b) := by
  cases a <;> cases b <;> rfl

@[simp] theorem ofBool_sup (a b : Bool) : ofBool a ⊔ ofBool b = ofBool (a || b) := by
  cases a <;> cases b <;> rfl

@[simp] theorem yes_sup (a : Truth) : .yes ⊔ a = .yes := by cases a <;> rfl
@[simp] theorem no_sup (a : Truth) : .no ⊔ a = a := by cases a <;> rfl
@[simp] theorem sup_no (a : Truth) : a ⊔ .no = a := by cases a <;> rfl
@[simp] theorem yes_inf (a : Truth) : .yes ⊓ a = a := by cases a <;> rfl
@[simp] theorem inf_yes (a : Truth) : a ⊓ .yes = a := by cases a <;> rfl
@[simp] theorem no_inf (a : Truth) : .no ⊓ a = .no := by cases a <;> rfl

theorem sup_ne_unknown {b : Truth} (ha : a ≠ .unknown) (hb : b ≠ .unknown) :
    a ⊔ b ≠ .unknown := by
  revert ha hb
  cases a <;> cases b <;> decide

theorem inf_ne_unknown {b : Truth} (ha : a ≠ .unknown) (hb : b ≠ .unknown) :
    a ⊓ b ≠ .unknown := by
  revert ha hb
  cases a <;> cases b <;> decide

theorem not_ne_unknown (ha : a ≠ .unknown) : a.not ≠ .unknown := by
  revert ha
  cases a <;> decide

/-- The negation of a decided truth value. -/
theorem not_eq_yes_iff_ne (ha : a ≠ .unknown) : a.not = .yes ↔ a ≠ .yes := by
  revert ha
  cases a <;> decide

@[simp] theorem inf_eq_yes {b : Truth} : a ⊓ b = .yes ↔ a = .yes ∧ b = .yes := by
  cases a <;> cases b <;> decide

@[simp] theorem sup_eq_yes {b : Truth} : a ⊔ b = .yes ↔ a = .yes ∨ b = .yes := by
  cases a <;> cases b <;> decide

@[simp] theorem sup_eq_no {b : Truth} : a ⊔ b = .no ↔ a = .no ∧ b = .no := by
  cases a <;> cases b <;> decide

@[simp] theorem inf_eq_no {b : Truth} : a ⊓ b = .no ↔ a = .no ∨ b = .no := by
  cases a <;> cases b <;> decide

end Truth

end DqMadeEasy
