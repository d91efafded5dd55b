import Mathlib.Data.List.Perm.Basic

/-!
# Fallible computations

Inversion rules for computations that either return a value or stop with an error. A caller
peels a successful computation apart with them instead of unfolding the monad.
-/

namespace DqMadeEasy

universe u v

variable {ε : Type v}

/-- A successful sequence is two successful steps. -/
theorem ok_of_bind {α β : Type u} {x : Except ε α} {f : α → Except ε β} {b : β}
    (h : (x >>= f) = .ok b) : ∃ a, x = .ok a ∧ f a = .ok b := by
  cases x with
  | ok a => exact ⟨a, rfl, h⟩
  | error e => cases h

/-- A sequence that stops does so in its first step or in its second. -/
theorem error_of_bind {α β : Type u} {x : Except ε α} {f : α → Except ε β} {e : ε}
    (h : (x >>= f) = .error e) : x = .error e ∨ ∃ a, x = .ok a ∧ f a = .error e := by
  cases x with
  | ok a => exact .inr ⟨a, rfl, h⟩
  | error e' =>
    cases h
    exact .inl rfl

@[simp] theorem ok_bind {α β : Type u} (a : α) (f : α → Except ε β) :
    ((.ok a : Except ε α) >>= f) = f a := rfl

@[simp] theorem error_bind {α β : Type u} (e : ε) (f : α → Except ε β) :
    ((.error e : Except ε α) >>= f) = .error e := rfl

theorem ok_of_map {α β : Type u} {x : Except ε α} {g : α → β} {b : β} (h : x.map g = .ok b) :
    ∃ a, x = .ok a ∧ g a = b := by
  cases x with
  | ok a => exact ⟨a, rfl, Except.ok.inj h⟩
  | error e => cases h

theorem exists_map_iff {α β : Type u} {x : Except ε α} {g : α → β} :
    (∃ b, x.map g = .ok b) ↔ ∃ a, x = .ok a := by
  cases x <;> simp [Except.map]

/-- A sequence returns when its first step does and then its second. -/
theorem exists_bind_iff {α β : Type u} {x : Except ε α} {f : α → Except ε β} :
    (∃ b, (x >>= f) = .ok b) ↔ ∃ a, x = .ok a ∧ ∃ b, f a = .ok b := by
  cases x <;> simp

/-- A computation whose last step cannot fail returns when the steps before do. -/
theorem exists_bind_ok_iff {α β : Type u} {x : Except ε α} {g : α → β} :
    (∃ b, (x >>= fun a => .ok (g a)) = .ok b) ↔ ∃ a, x = .ok a := by
  cases x <;> simp

theorem exists_of_isSome {α : Type u} {x : Except ε α} (h : x.toOption.isSome) :
    ∃ a, x = .ok a := by
  cases x with
  | error e => cases h
  | ok a => exact ⟨a, rfl⟩

/-- A successful traversal relates every element to its result, in order. -/
theorem mapM_ok {α β : Type u} {f : α → Except ε β} :
    ∀ {xs : List α} {ys : List β}, xs.mapM f = .ok ys →
      List.Forall₂ (fun x y => f x = .ok y) xs ys := by
  intro xs
  induction xs with
  | nil =>
    intro ys h
    cases h
    exact .nil
  | cons x xs ih =>
    intro ys h
    rw [List.mapM_cons] at h
    obtain ⟨y, hy, h⟩ := ok_of_bind h
    obtain ⟨rest, hrest, h⟩ := ok_of_bind h
    cases h
    exact .cons hy (ih hrest)

/-- Conversely, elementwise results make up the traversal's result. -/
theorem mapM_of_forall₂ {α β : Type u} {f : α → Except ε β} {xs : List α} {ys : List β}
    (h : List.Forall₂ (fun x y => f x = .ok y) xs ys) : xs.mapM f = .ok ys := by
  induction h with
  | nil => rfl
  | cons hx _ ih =>
    rw [List.mapM_cons, hx, ih]
    rfl

/-- The element at a position has the result at that position. -/
theorem mapM_getElem? {α β : Type u} {f : α → Except ε β} {xs : List α} {ys : List β}
    (h : xs.mapM f = .ok ys) {i : ℕ} {x : α} (hx : xs[i]? = some x) :
    ∃ y, ys[i]? = some y ∧ f x = .ok y := by
  induction mapM_ok h generalizing i with
  | nil => cases hx
  | @cons _ y _ _ hfx hrest ih =>
    cases i with
    | zero =>
      cases hx
      exact ⟨y, rfl, hfx⟩
    | succ i => exact ih (mapM_of_forall₂ hrest) hx

/-- Every result of a traversal comes from an element. -/
theorem mem_of_mapM {α β : Type u} {f : α → Except ε β} {xs : List α} {ys : List β}
    (h : xs.mapM f = .ok ys) {y : β} (hy : y ∈ ys) : ∃ x ∈ xs, f x = .ok y := by
  induction mapM_ok h with
  | nil => simp at hy
  | cons hx hrest ih =>
    rcases List.mem_cons.mp hy with rfl | hy
    · exact ⟨_, List.mem_cons_self, hx⟩
    · obtain ⟨x, hx, hfx⟩ := ih (mapM_of_forall₂ hrest) hy
      exact ⟨x, List.mem_cons_of_mem _ hx, hfx⟩

/-- Every element of a successful traversal has a result. -/
theorem mapM_mem {α β : Type u} {f : α → Except ε β} {xs : List α} {ys : List β}
    (h : xs.mapM f = .ok ys) {x : α} (hx : x ∈ xs) : ∃ y ∈ ys, f x = .ok y := by
  induction mapM_ok h with
  | nil => simp at hx
  | cons hfx hrest ih =>
    rcases List.mem_cons.mp hx with rfl | hx
    · exact ⟨_, List.mem_cons_self, hfx⟩
    · obtain ⟨y, hy, hfx⟩ := ih (mapM_of_forall₂ hrest) hx
      exact ⟨y, List.mem_cons_of_mem _ hy, hfx⟩

/-- What is related to an element on the right. -/
theorem exists_left_of_forall₂ {α β : Type} {R : α → β → Prop} {xs : List α} {ys : List β}
    (h : List.Forall₂ R xs ys) {y : β} (hy : y ∈ ys) : ∃ x ∈ xs, R x y := by
  induction h with
  | nil => cases hy
  | cons hxy _ ih =>
    obtain rfl | hy := List.mem_cons.mp hy
    · exact ⟨_, List.mem_cons_self, hxy⟩
    · obtain ⟨x, hx, hR⟩ := ih hy
      exact ⟨x, List.mem_cons_of_mem _ hx, hR⟩

/-- Related elements can be chosen one by one. -/
theorem exists_forall₂ {α β : Type} {R : α → β → Prop} {xs : List α}
    (h : ∀ x ∈ xs, ∃ y, R x y) : ∃ ys, List.Forall₂ R xs ys := by
  induction xs with
  | nil => exact ⟨[], .nil⟩
  | cons x xs ih =>
    rw [List.forall_mem_cons] at h
    obtain ⟨⟨y, hy⟩, h⟩ := h
    obtain ⟨ys, hys⟩ := ih h
    exact ⟨y :: ys, .cons hy hys⟩

/-- A traversal succeeds when every element has a result. -/
theorem exists_mapM {α β : Type u} {f : α → Except ε β} {xs : List α}
    (h : ∀ x ∈ xs, ∃ y, f x = .ok y) : ∃ ys, xs.mapM f = .ok ys := by
  induction xs with
  | nil => exact ⟨[], rfl⟩
  | cons x xs ih =>
    obtain ⟨y, hy⟩ := h x List.mem_cons_self
    obtain ⟨ys, hys⟩ := ih fun x hx => h x (List.mem_cons_of_mem _ hx)
    refine ⟨y :: ys, ?_⟩
    rw [List.mapM_cons, hy, hys]
    rfl

/-- A traversal whose results have the given images. -/
theorem exists_mapM_map {α β γ : Type u} {f : α → Except ε β} {g : β → γ} {xs : List α}
    {zs : List γ} (h : List.Forall₂ (fun x z => (f x).map g = .ok z) xs zs) :
    ∃ ys, xs.mapM f = .ok ys ∧ ys.map g = zs := by
  induction h with
  | nil => exact ⟨[], rfl, rfl⟩
  | @cons x z xs zs hx _ ih =>
    obtain ⟨ys, hys, rfl⟩ := ih
    cases hfx : f x with
    | error e =>
      rw [hfx] at hx
      cases hx
    | ok y =>
      rw [hfx] at hx
      cases hx
      refine ⟨y :: ys, ?_, rfl⟩
      rw [List.mapM_cons, hfx, hys]
      rfl

/-- A traversal of a permuted list gives the permuted results. -/
theorem mapM_perm {α β : Type u} {f : α → Except ε β} {xs xs' : List α} {ys : List β}
    (hperm : xs'.Perm xs) (h : xs.mapM f = .ok ys) :
    ∃ ys', xs'.mapM f = .ok ys' ∧ ys'.Perm ys := by
  obtain ⟨ys', hresults, hys⟩ := List.perm_comp_forall₂ hperm (mapM_ok h)
  exact ⟨ys', mapM_of_forall₂ hresults, hys⟩

/-- A traversal returns exactly when every element has a result. -/
theorem exists_mapM_iff {α β : Type u} {f : α → Except ε β} {xs : List α} :
    (∃ ys, xs.mapM f = .ok ys) ↔ ∀ x ∈ xs, ∃ y, f x = .ok y := by
  refine ⟨?_, exists_mapM⟩
  rintro ⟨ys, hys⟩ x hx
  obtain ⟨y, _, hy⟩ := mapM_mem hys hx
  exact ⟨y, hy⟩

/-- An optional step returns exactly when its value, if there is one, has a result. -/
theorem exists_optionMapM_iff {α β : Type u} {f : α → Except ε β} {o : Option α} :
    (∃ y, o.mapM f = .ok y) ↔ ∀ x ∈ o, ∃ y, f x = .ok y := by
  cases o with
  | none => exact iff_of_true ⟨none, rfl⟩ (by simp)
  | some x =>
    constructor
    · rintro ⟨y, hy⟩ _ ⟨⟩
      obtain ⟨y', hy', _⟩ := ok_of_map (g := some) (show (f x).map some = .ok y from hy)
      exact ⟨y', hy'⟩
    · intro h
      obtain ⟨y, hy⟩ := h x rfl
      refine ⟨some y, ?_⟩
      show (f x).map some = .ok (some y)
      rw [hy]
      rfl

/-- A loop that gathers the results of its rounds, and what each result adds to a second list, is a
traversal. -/
theorem foldlM_gather {α β γ : Type u} (f : α → Except ε β) (g : β → List γ) (xs : List α)
    (ys : List β) (zs : List γ) :
    xs.foldlM (fun acc x => do
        let y ← f x
        return (acc.1 ++ [y], acc.2 ++ g y)) (ys, zs) =
      (xs.mapM f).map fun found => (ys ++ found, zs ++ found.flatMap g) := by
  induction xs generalizing ys zs with
  | nil => simp [Except.map, pure, Except.pure]
  | cons x xs ih =>
    rw [List.foldlM_cons, List.mapM_cons]
    cases f x with
    | error e => rfl
    | ok y =>
      simp only [ok_bind, pure_bind, ih]
      cases xs.mapM f with
      | error e => rfl
      | ok found =>
        show Except.ok _ = Except.ok _
        simp

end DqMadeEasy
