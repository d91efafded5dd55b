import DqMadeEasy.Logic.Effect

/-!
# Atomic runs

A run is atomic when it leaves its state as it was if it stops. Once a run has written, it is atomic
only if it returns, provided that nothing it does later undoes the write: a measure that no later
step lowers shows that.
-/

namespace DqMadeEasy

namespace Effect

variable {σ ε α β : Type} {p : Effect σ ε α} {f : α → Effect σ ε β} {s between : σ} {a : α}

def Returns (p : Effect σ ε α) (s : σ) : Prop := ∃ a s', p.run s = (.ok a, s')

/-- The run from a state leaves it as it was, if it stops. -/
def Atomic (p : Effect σ ε α) (s : σ) : Prop := ∀ ⦃e s'⦄, p.run s = (.error e, s') → s' = s

/-- No run lowers the measure. -/
def Grows (m : σ → ℕ) (p : Effect σ ε α) : Prop := ∀ n, Keeps (fun s => n ≤ m s) p

theorem returns_bind (hp : p.run s = (.ok a, between)) :
    Returns (p >>= f) s ↔ Returns (f a) between := by
  rw [Returns, Returns, run_bind_ok hp]

theorem not_returns_bind {e : ε} (hp : p.run s = (.error e, between)) :
    ¬Returns (p >>= f) s := by
  rintro ⟨b, s', h⟩
  rw [run_bind_error hp] at h
  cases (Prod.mk.inj h).1

theorem returns_pure (a : α) (s : σ) : Returns (pure a : Effect σ ε α) s := ⟨a, s, rfl⟩

theorem returns_bind_pure {g : α → β} {s : σ} :
    Returns (p >>= fun a => pure (g a)) s ↔ Returns p s := by
  cases hrun : p.run s with
  | mk outcome between =>
    cases outcome with
    | ok a => exact iff_of_true ((returns_bind hrun).mpr (returns_pure _ _)) ⟨a, between, hrun⟩
    | error e =>
      refine iff_of_false (not_returns_bind hrun) ?_
      rintro ⟨a, s', h⟩
      cases hrun.symm.trans h

theorem Returns.atomic (h : Returns p s) : Atomic p s := by
  obtain ⟨a, s', h⟩ := h
  intro e s'' herror
  rw [h] at herror
  cases (Prod.mk.inj herror).1

theorem atomic_of_error {e : ε} (hp : p.run s = (.error e, s)) : Atomic p s := by
  intro e' s' h
  rw [hp] at h
  exact (Prod.mk.inj h).2.symm

/-- After a part that only reads, the rest decides. -/
theorem atomic_bind (hp : p.run s = (.ok a, s)) : Atomic (p >>= f) s ↔ Atomic (f a) s := by
  rw [Atomic, Atomic, run_bind_ok hp]

theorem atomic_bind_error {e : ε} (hp : p.run s = (.error e, s)) : Atomic (p >>= f) s :=
  atomic_of_error (run_bind_error hp)

/-- After a write that nothing undoes, a run is atomic exactly if it returns. -/
theorem atomic_bind_of_written {m : σ → ℕ} (hp : p.run s = (.ok a, between))
    (hwritten : m s < m between) (hf : Grows m (f a)) :
    Atomic (p >>= f) s ↔ Returns (f a) between := by
  have hgrown : m s < m ((f a).run between).2 := hf (m s + 1) between hwritten
  constructor
  · intro hatomic
    cases hrun : (f a).run between with
    | mk outcome s' =>
      cases outcome with
      | ok b => exact ⟨b, s', hrun⟩
      | error e =>
        have hsame : s' = s := hatomic ((run_bind_ok hp).trans hrun)
        rw [hrun, hsame] at hgrown
        exact absurd hgrown (Nat.lt_irrefl _)
  · intro hreturns
    exact Returns.atomic ((returns_bind hp).mpr hreturns)

namespace Grows

variable {m : σ → ℕ}

theorem of_reads (hp : Reads p) : Grows m p := by
  intro n s h
  rw [hp s]
  exact h

theorem bind (hp : Grows m p) (hf : ∀ a, Grows m (f a)) : Grows m (p >>= f) :=
  fun n => Keeps.bind (hp n) fun a => hf a n

theorem ite {c : Prop} [Decidable c] {p q : Effect σ ε α} (hp : Grows m p) (hq : Grows m q) :
    Grows m (if c then p else q) := by
  split
  · exact hp
  · exact hq

theorem foldlM {g : β → α → Effect σ ε β} (hg : ∀ b a, Grows m (g b a)) (xs : List α) (b : β) :
    Grows m (xs.foldlM g b) :=
  fun n => Keeps.foldlM (fun b a => hg b a n) xs b

end Grows

end Effect

end DqMadeEasy
