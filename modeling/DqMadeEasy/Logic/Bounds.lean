import Mathlib.Tactic.Linarith
import Mathlib.Analysis.Convex.Radon

/-!
# Bounds on one number

Comparisons of one unknown with constants: each describes a convex set of the line, so any number
of them can be met together when any two of them can. Two of them cannot exactly when one asks
for more than the other allows.
-/

namespace DqMadeEasy

/-- The comparisons with a constant. -/
inductive BoundOp where
  | lt | le | gt | ge | eq
  deriving DecidableEq

/-- A comparison of an unknown with a constant. -/
structure Bound (𝕜 : Type) where
  op : BoundOp
  value : 𝕜
  deriving DecidableEq

namespace Bound

/-- The bound is one from below; an equality is one from both sides. -/
def isLower (op : BoundOp) : Bool := op = .gt ∨ op = .ge ∨ op = .eq

def isUpper (op : BoundOp) : Bool := op = .lt ∨ op = .le ∨ op = .eq

/-- The bound leaves its own constant out. -/
def isStrict (op : BoundOp) : Bool := op = .lt ∨ op = .gt

section Order

variable {𝕜 : Type} [LinearOrder 𝕜]

/-- A number meets a bound. -/
def Holds (x : 𝕜) (b : Bound 𝕜) : Prop :=
  match b.op with
  | .lt => x < b.value
  | .le => x ≤ b.value
  | .gt => b.value < x
  | .ge => b.value ≤ x
  | .eq => x = b.value

/-- The first bound asks for more than the second one allows. -/
def Exceeds (lower upper : Bound 𝕜) : Prop :=
  isLower lower.op = true ∧ isUpper upper.op = true ∧
    (upper.value < lower.value ∨ (upper.value = lower.value ∧
      (isStrict lower.op = true ∨ isStrict upper.op = true)))

/-- Two bounds exclude each other. -/
def Excludes (a b : Bound 𝕜) : Prop := Exceeds a b ∨ Exceeds b a

variable {a b : Bound 𝕜} {x : 𝕜}

theorem Excludes.symm (h : Excludes a b) : Excludes b a := h.elim .inr .inl

theorem Holds.lower (h : Holds x b) (hlower : isLower b.op = true) :
    b.value ≤ x ∧ (isStrict b.op = true → b.value < x) := by
  obtain ⟨op, value⟩ := b
  cases op with
  | lt => cases hlower
  | le => cases hlower
  | gt => exact ⟨le_of_lt h, fun _ => h⟩
  | ge => exact ⟨h, fun h => by cases h⟩
  | eq => exact ⟨le_of_eq (show x = value from h).symm, fun h => by cases h⟩

theorem Holds.upper (h : Holds x b) (hupper : isUpper b.op = true) :
    x ≤ b.value ∧ (isStrict b.op = true → x < b.value) := by
  obtain ⟨op, value⟩ := b
  cases op with
  | lt => exact ⟨le_of_lt h, fun _ => h⟩
  | le => exact ⟨h, fun h => by cases h⟩
  | gt => cases hupper
  | ge => cases hupper
  | eq => exact ⟨le_of_eq h, fun h => by cases h⟩

theorem Exceeds.not_holds (h : Exceeds a b) (ha : Holds x a) :
    ¬ Holds x b := by
  intro hb
  obtain ⟨hlower, hupper, hvalues⟩ := h
  have hfrom := ha.lower hlower
  have hto := hb.upper hupper
  rcases hvalues with hless | ⟨heq, hstrict | hstrict⟩
  · exact absurd (hfrom.1.trans hto.1) (not_le_of_gt hless)
  · exact absurd (lt_of_lt_of_le (hfrom.2 hstrict) hto.1) (by rw [heq]; exact lt_irrefl _)
  · exact absurd (lt_of_le_of_lt hfrom.1 (hto.2 hstrict)) (by rw [heq]; exact lt_irrefl _)

/-- What a bound asks for, from below and from above. -/
theorem holds_iff :
    Holds x b ↔
      (isLower b.op = true → b.value ≤ x ∧ (isStrict b.op = true → b.value < x)) ∧
        (isUpper b.op = true → x ≤ b.value ∧ (isStrict b.op = true → x < b.value)) := by
  constructor
  · intro h
    exact ⟨h.lower, h.upper⟩
  · rintro ⟨hlower, hupper⟩
    obtain ⟨op, value⟩ := b
    cases op with
    | lt => exact (hupper rfl).2 rfl
    | le => exact (hupper rfl).1
    | gt => exact (hlower rfl).2 rfl
    | ge => exact (hlower rfl).1
    | eq => exact le_antisymm (hupper rfl).1 (hlower rfl).1

/-- A bound that does not exceed another one leaves room below it. -/
theorem values_of_not_exceeds (h : ¬ Exceeds a b) (hlower : isLower a.op = true)
    (hupper : isUpper b.op = true) :
    a.value ≤ b.value ∧
      (isStrict a.op = true ∨ isStrict b.op = true → a.value < b.value) := by
  have hle : a.value ≤ b.value := by
    apply le_of_not_gt
    intro hlt
    exact h ⟨hlower, hupper, .inl hlt⟩
  refine ⟨hle, fun hstrict => lt_of_le_of_ne hle fun heq => ?_⟩
  exact h ⟨hlower, hupper, .inr ⟨heq.symm, hstrict⟩⟩

/-- An equality is met at its constant, and so is any bound that it does not exclude. -/
theorem holds_of_eq (ha : a.op = .eq) (h : ¬ Excludes a b) :
    Holds a.value a ∧ Holds a.value b := by
  obtain ⟨hab, hba⟩ := not_or.mp h
  refine ⟨holds_iff.mpr ?_, holds_iff.mpr ⟨fun hlower => ?_, fun hupper => ?_⟩⟩
  · rw [ha]
    exact ⟨fun _ => ⟨le_refl _, nofun⟩, fun _ => ⟨le_refl _, nofun⟩⟩
  · obtain ⟨hle, hlt⟩ := values_of_not_exceeds hba hlower (by rw [ha]; rfl)
    exact ⟨hle, fun hstrict => hlt (.inl hstrict)⟩
  · obtain ⟨hle, hlt⟩ := values_of_not_exceeds hab (by rw [ha]; rfl) hupper
    exact ⟨hle, fun hstrict => hlt (.inr hstrict)⟩

theorem op_cases (op : BoundOp) :
    op = .eq ∨ (isLower op = true ∧ isUpper op = false) ∨
      (isLower op = false ∧ isUpper op = true) := by
  cases op with
  | lt => exact .inr (.inr ⟨rfl, rfl⟩)
  | le => exact .inr (.inr ⟨rfl, rfl⟩)
  | gt => exact .inr (.inl ⟨rfl, rfl⟩)
  | ge => exact .inr (.inl ⟨rfl, rfl⟩)
  | eq => exact .inl rfl

theorem holds_of_lower (hupper : isUpper b.op = false) (h : b.value < x) :
    Holds x b :=
  holds_iff.mpr ⟨fun _ => ⟨le_of_lt h, fun _ => h⟩, by simp [hupper]⟩

theorem holds_of_upper (hlower : isLower b.op = false) (h : x < b.value) :
    Holds x b :=
  holds_iff.mpr ⟨by simp [hlower], fun _ => ⟨le_of_lt h, fun _ => h⟩⟩

theorem not_excludes_self (b : Bound 𝕜) : ¬ Excludes b b := by
  rintro (h | h)
  all_goals
    obtain ⟨hlower, hupper, hless | ⟨-, hstrict⟩⟩ := h
    · exact lt_irrefl _ hless
    · rw [or_self] at hstrict
      obtain ⟨op, value⟩ := b
      cases op <;> simp_all [isLower, isUpper, isStrict]

end Order

section Line

variable {𝕜 : Type} [Field 𝕜] [LinearOrder 𝕜] [IsStrictOrderedRing 𝕜]

theorem convex_holds (b : Bound 𝕜) : Convex 𝕜 {x | Holds x b} := by
  obtain ⟨op, value⟩ := b
  cases op with
  | lt => exact convex_Iio value
  | le => exact convex_Iic value
  | gt => exact convex_Ioi value
  | ge => exact convex_Ici value
  | eq => exact convex_singleton value

theorem holds_midpoint {a b : Bound 𝕜} (h : ¬ Exceeds a b)
    (ha : isLower a.op = true ∧ isUpper a.op = false)
    (hb : isLower b.op = false ∧ isUpper b.op = true) :
    Holds ((a.value + b.value) / 2) a ∧ Holds ((a.value + b.value) / 2) b := by
  obtain ⟨hle, hlt⟩ := values_of_not_exceeds h ha.1 hb.2
  constructor
  · refine holds_iff.mpr ⟨fun _ => ⟨by linarith, fun hstrict => ?_⟩, by simp [ha.2]⟩
    have := hlt (.inl hstrict)
    linarith
  · refine holds_iff.mpr ⟨by simp [hb.1], fun _ => ⟨by linarith, fun hstrict => ?_⟩⟩
    have := hlt (.inr hstrict)
    linarith

/-- Two bounds of which neither exceeds the other are met together. -/
theorem exists_holds_pair {a b : Bound 𝕜} (h : ¬ Excludes a b) : ∃ x, Holds x a ∧ Holds x b := by
  have hswap : ¬ Excludes b a := fun hswap => h hswap.symm
  rcases op_cases a.op with ha | ha | ha
  · exact ⟨a.value, holds_of_eq ha h⟩
  · rcases op_cases b.op with hb | hb | hb
    · exact ⟨b.value, (holds_of_eq hb hswap).symm⟩
    · refine ⟨max a.value b.value + 1, holds_of_lower ha.2 ?_, holds_of_lower hb.2 ?_⟩
      · linarith [le_max_left a.value b.value]
      · linarith [le_max_right a.value b.value]
    · exact ⟨_, holds_midpoint (not_or.mp h).1 ha hb⟩
  · rcases op_cases b.op with hb | hb | hb
    · exact ⟨b.value, (holds_of_eq hb hswap).symm⟩
    · exact ⟨_, (holds_midpoint (not_or.mp hswap).1 hb ha).symm⟩
    · refine ⟨min a.value b.value - 1, holds_of_upper ha.1 ?_, holds_of_upper hb.1 ?_⟩
      · linarith [min_le_left a.value b.value]
      · linarith [min_le_right a.value b.value]

/-- Bounds are met together exactly when no two of them exclude each other: the line has
dimension one, so that by Helly's theorem it is enough to look at pairs. -/
theorem exists_holds_iff (bs : List (Bound 𝕜)) :
    (∃ x, ∀ b ∈ bs, Holds x b) ↔ ∀ a ∈ bs, ∀ b ∈ bs, ¬ Excludes a b := by
  classical
  constructor
  · rintro ⟨x, hx⟩ a ha b hb (h | h)
    · exact h.not_holds (hx a ha) (hx b hb)
    · exact h.not_holds (hx b hb) (hx a ha)
  · intro hpairs
    have hnonempty : (⋂ b ∈ bs.toFinset, {x : 𝕜 | Holds x b}).Nonempty := by
      refine Convex.helly_theorem' (fun b _ => convex_holds b) fun I hI hcard => ?_
      rw [Module.finrank_self] at hcard
      have hmem : ∀ b ∈ I, b ∈ bs := fun b hb => List.mem_toFinset.mp (hI hb)
      obtain h | h | h : I.card = 0 ∨ I.card = 1 ∨ I.card = 2 := by omega
      · rw [Finset.card_eq_zero] at h
        subst h
        exact ⟨0, by simp⟩
      · obtain ⟨a, rfl⟩ := Finset.card_eq_one.mp h
        obtain ⟨x, hx, -⟩ := exists_holds_pair (not_excludes_self a)
        exact ⟨x, by simpa using hx⟩
      · obtain ⟨a, b, -, rfl⟩ := Finset.card_eq_two.mp h
        obtain ⟨x, ha, hb⟩ := exists_holds_pair
          (hpairs a (hmem a (by simp)) b (hmem b (by simp)))
        exact ⟨x, by simpa using ⟨ha, hb⟩⟩
    obtain ⟨x, hx⟩ := hnonempty
    exact ⟨x, fun b hb => by simpa using Set.mem_iInter₂.mp hx b (List.mem_toFinset.mpr hb)⟩

/-! ### Several unknowns -/

section Unknowns

variable {ι : Type}

/-- Values of the unknowns meet a comparison of one of them. -/
def Satisfies (values : ι → 𝕜) (c : ι × Bound 𝕜) : Prop := Holds (values c.1) c.2

/-- Comparisons are met together exactly when no two comparisons of one unknown exclude each
other. -/
theorem exists_satisfies_iff [DecidableEq ι] (cs : List (ι × Bound 𝕜)) :
    (∃ values : ι → 𝕜, ∀ c ∈ cs, Satisfies values c) ↔
      ∀ c ∈ cs, ∀ d ∈ cs, c.1 = d.1 → ¬ Excludes c.2 d.2 := by
  have hfield (i : ι) : (∃ x, ∀ c ∈ cs, c.1 = i → Holds x c.2) ↔
      ∀ c ∈ cs, ∀ d ∈ cs, c.1 = i → d.1 = i → ¬ Excludes c.2 d.2 := by
    have h := exists_holds_iff ((cs.filter fun c => c.1 = i).map Prod.snd)
    simp only [List.mem_map, List.mem_filter, decide_eq_true_eq] at h
    constructor
    · rintro ⟨x, hx⟩ c hc d hd hci hdi
      refine h.mp ⟨x, ?_⟩ c.2 ⟨c, ⟨hc, hci⟩, rfl⟩ d.2 ⟨d, ⟨hd, hdi⟩, rfl⟩
      rintro b ⟨e, ⟨he, hei⟩, rfl⟩
      exact hx e he hei
    · intro hpairs
      obtain ⟨x, hx⟩ := h.mpr fun a ha b hb => by
        obtain ⟨c, ⟨hc, hci⟩, rfl⟩ := ha
        obtain ⟨d, ⟨hd, hdi⟩, rfl⟩ := hb
        exact hpairs c hc d hd hci hdi
      exact ⟨x, fun c hc hci => hx c.2 ⟨c, ⟨hc, hci⟩, rfl⟩⟩
  constructor
  · rintro ⟨values, hvalues⟩ c hc d hd heq
    refine (hfield d.1).mp ⟨values d.1, fun e he hei => ?_⟩ c hc d hd heq rfl
    rw [← hei]
    exact hvalues e he
  · intro hpairs
    have hchoice : ∀ i, ∃ x, ∀ c ∈ cs, c.1 = i → Holds x c.2 := fun i =>
      (hfield i).mpr fun c hc d hd hci hdi => hpairs c hc d hd (hci.trans hdi.symm)
    choose values hvalues using hchoice
    exact ⟨values, fun c hc => hvalues c.1 c hc rfl⟩

end Unknowns

end Line

end Bound

end DqMadeEasy
