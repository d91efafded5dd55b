import DqMadeEasy.Logic.Fallible

/-!
# Effectful computations

A computation on a state that returns a value or stops with an error, and keeps its state in both
cases. Invariants of the state are carried through a program by one rule per construct, so a
program is read off its own structure and never unfolded into states.
-/

namespace DqMadeEasy

abbrev Effect (σ ε : Type) := ExceptT ε (StateM σ)

namespace Effect

variable {σ ε α β : Type}

/-- The outcome and the final state. -/
def run (p : Effect σ ε α) (s : σ) : Except ε α × σ := p s

/-- A state transformer as a computation. -/
def ofState (f : σ → Except ε α × σ) : Effect σ ε α := f

/-- A fallible value. -/
def ofExcept (x : Except ε α) : Effect σ ε α := ofState fun s => (x, s)

def raise (e : ε) : Effect σ ε α := ofExcept (.error e)

/-- `try` with a handler for every error. -/
def rescue (p : Effect σ ε α) (handler : ε → Effect σ ε α) : Effect σ ε α := ofState fun s =>
  match p.run s with
  | (.ok a, s') => (.ok a, s')
  | (.error e, s') => (handler e).run s'

/-- `try … finally`: an error of the cleanup replaces the outcome. -/
def finally_ (p : Effect σ ε α) (cleanup : Effect σ ε Unit) : Effect σ ε α := ofState fun s =>
  match cleanup.run (p.run s).2 with
  | (.ok _, s') => ((p.run s).1, s')
  | (.error e, s') => (.error e, s')

@[simp] theorem run_pure (a : α) (s : σ) : (pure a : Effect σ ε α).run s = (.ok a, s) := rfl

@[simp] theorem run_ofState (f : σ → Except ε α × σ) (s : σ) : (ofState f).run s = f s := rfl

@[simp] theorem run_ofExcept (x : Except ε α) (s : σ) :
    (ofExcept x : Effect σ ε α).run s = (x, s) := rfl

@[simp] theorem run_raise (e : ε) (s : σ) : (raise e : Effect σ ε α).run s = (.error e, s) := rfl

theorem run_bind (p : Effect σ ε α) (f : α → Effect σ ε β) (s : σ) :
    (p >>= f).run s =
      match p.run s with
      | (.ok a, s') => (f a).run s'
      | (.error e, s') => (.error e, s') := by
  show ExceptT.bindCont f (p s).1 (p s).2 = _
  rw [run]
  cases p s with
  | mk outcome s' => cases outcome <;> rfl

variable {p : Effect σ ε α} {f : α → Effect σ ε β} {s s' : σ}

theorem run_bind_ok {a : α} (h : p.run s = (.ok a, s')) : (p >>= f).run s = (f a).run s' := by
  rw [run_bind, h]

theorem run_bind_error {e : ε} (h : p.run s = (.error e, s')) :
    (p >>= f).run s = (.error e, s') := by
  rw [run_bind, h]

/-- A sequence that returns is two computations that return. -/
theorem ok_of_run_bind {b : β} (h : (p >>= f).run s = (.ok b, s')) :
    ∃ a between, p.run s = (.ok a, between) ∧ (f a).run between = (.ok b, s') := by
  rw [run_bind] at h
  cases hp : p.run s with
  | mk outcome between =>
    rw [hp] at h
    cases outcome with
    | ok a => exact ⟨a, between, rfl, h⟩
    | error e => cases h

theorem ok_of_run_ofExcept {x : Except ε α} {a : α}
    (h : (ofExcept x : Effect σ ε α).run s = (.ok a, s')) : x = .ok a ∧ s = s' := Prod.mk.inj h

theorem ofExcept_ok_bind (a : α) (f : α → Effect σ ε β) :
    (ofExcept (.ok a) : Effect σ ε α) >>= f = f a := rfl

theorem ofExcept_error_bind (e : ε) (f : α → Effect σ ε β) :
    (ofExcept (.error e) : Effect σ ε α) >>= f = raise e := rfl

/-! ### Invariants -/

/-- A run that starts with the invariant ends with it, whether it returns or stops. -/
def Keeps (I : σ → Prop) (p : Effect σ ε α) : Prop := ∀ s, I s → I (p.run s).2

namespace Keeps

variable {I : σ → Prop}

theorem pure (a : α) : Keeps I (pure a : Effect σ ε α) := fun _ h => h

theorem ofExcept (x : Except ε α) : Keeps I (ofExcept x : Effect σ ε α) := fun _ h => h

theorem raise (e : ε) : Keeps I (raise e : Effect σ ε α) := fun _ h => h

variable {p : Effect σ ε α}

/-- What holds after the first part of a sequence, and is kept by the second, holds after both. -/
theorem after_bind {f : α → Effect σ ε β} {s : σ} (hp : I (p.run s).2) (hf : ∀ a, Keeps I (f a)) :
    I ((p >>= f).run s).2 := by
  rw [run_bind]
  cases hrun : p.run s with
  | mk outcome s' =>
    rw [hrun] at hp
    cases outcome with
    | ok a => exact hf a s' hp
    | error e => exact hp

theorem bind {f : α → Effect σ ε β} (hp : Keeps I p) (hf : ∀ a, Keeps I (f a)) :
    Keeps I (p >>= f) :=
  fun s h => after_bind (hp s h) hf

theorem rescue {handler : ε → Effect σ ε α} (hp : Keeps I p) (hhandler : ∀ e, Keeps I (handler e)) :
    Keeps I (rescue p handler) := by
  intro s h
  have hnext := hp s h
  rw [Effect.rescue, run_ofState]
  cases hrun : p.run s with
  | mk outcome s' =>
    rw [hrun] at hnext
    cases outcome with
    | ok a => exact hnext
    | error e => exact hhandler e s' hnext

theorem finally_ {cleanup : Effect σ ε Unit} (hp : Keeps I p) (hcleanup : Keeps I cleanup) :
    Keeps I (finally_ p cleanup) := by
  intro s h
  have hnext := hcleanup _ (hp s h)
  rw [Effect.finally_, run_ofState]
  cases hrun : cleanup.run (p.run s).2 with
  | mk outcome s' =>
    rw [hrun] at hnext
    cases outcome with
    | ok _ => exact hnext
    | error e => exact hnext

theorem ite {c : Prop} [Decidable c] {q : Effect σ ε α} (hp : c → Keeps I p) (hq : ¬c → Keeps I q) :
    Keeps I (if c then p else q) := by
  split
  · exact hp ‹c›
  · exact hq ‹¬c›

theorem foldlM {f : β → α → Effect σ ε β} (hf : ∀ b a, Keeps I (f b a)) (xs : List α) :
    ∀ b, Keeps I (xs.foldlM f b) := by
  induction xs with
  | nil =>
    intro b
    exact Keeps.pure b
  | cons x xs ih =>
    intro b
    rw [List.foldlM_cons]
    exact bind (hf b x) ih

/-- What the turn of an item settles, and every turn keeps, holds when the loop returns. -/
theorem settled_of_foldlM {Q : α → σ → Prop} {f : β → α → Effect σ ε β}
    (hkeeps : ∀ x b y, Keeps (Q x) (f b y))
    (hturn : ∀ b x s b' s', (f b x).run s = (.ok b', s') → Q x s') {xs : List α} {b b' : β}
    {s s' : σ} (h : (xs.foldlM f b).run s = (.ok b', s')) : ∀ x ∈ xs, Q x s' := by
  induction xs generalizing b s with
  | nil => exact nofun
  | cons x xs ih =>
    rw [List.foldlM_cons] at h
    obtain ⟨next, between, hx, hrest⟩ := ok_of_run_bind h
    intro y hy
    obtain rfl | hy := List.mem_cons.mp hy
    · have hkept := foldlM (hkeeps y) xs next between (hturn b y s next between hx)
      rwa [hrest] at hkept
    · exact ih hrest y hy

end Keeps

/-! ### Failures that change nothing -/

def Reads (p : Effect σ ε α) : Prop := ∀ s, (p.run s).2 = s

/-- A run that stops leaves its state as it was. -/
def FailsClean (p : Effect σ ε α) : Prop :=
  ∀ ⦃s e s'⦄, p.run s = (.error e, s') → s' = s

@[simp] theorem run_get (s : σ) : (get : Effect σ ε σ).run s = (.ok s, s) := rfl

theorem reads_get : Reads (get : Effect σ ε σ) := fun _ => rfl

theorem reads_ofExcept (x : Except ε α) : Reads (ofExcept x : Effect σ ε α) := fun _ => rfl

variable {p : Effect σ ε α} {f : α → Effect σ ε β}

theorem Reads.bind (hp : Reads p) (hf : ∀ a, Reads (f a)) : Reads (p >>= f) := by
  intro s
  have hstate := hp s
  rw [run_bind]
  cases hrun : p.run s with
  | mk outcome between =>
    rw [hrun] at hstate
    cases hstate
    cases outcome with
    | ok a => exact hf a _
    | error e => rfl

/-- What only reads the state at the end changes nothing of it. -/
theorem snd_run_bind_reads {s : σ} (hf : ∀ a, Reads (f a)) : ((p >>= f).run s).2 = (p.run s).2 := by
  rw [run_bind]
  cases hrun : p.run s with
  | mk outcome between =>
    cases outcome with
    | ok a => exact hf a between
    | error e => rfl

/-- A sequence that returns after a read goes on in the state that was read. -/
theorem Reads.ok_of_run_bind (hp : Reads p) {s s' : σ} {b : β} (h : (p >>= f).run s = (.ok b, s')) :
    ∃ a, p.run s = (.ok a, s) ∧ (f a).run s = (.ok b, s') := by
  obtain ⟨a, between, ha, hrest⟩ := Effect.ok_of_run_bind h
  have hstate := hp s
  rw [ha] at hstate
  cases hstate
  exact ⟨a, ha, hrest⟩

namespace FailsClean

theorem of_reads {p : Effect σ ε α} (hp : Reads p) : FailsClean p := by
  intro s e s' h
  rw [← hp s, h]

theorem pure (a : α) : FailsClean (pure a : Effect σ ε α) := of_reads fun _ => rfl

theorem raise (e : ε) : FailsClean (raise e : Effect σ ε α) := of_reads fun _ => rfl

/-- Reading before a computation of this kind is of this kind. -/
theorem bind {p : Effect σ ε α} {f : α → Effect σ ε β} (hp : Reads p)
    (hf : ∀ a, FailsClean (f a)) : FailsClean (p >>= f) := by
  intro s e s' h
  have hstate := hp s
  rw [run_bind] at h
  cases hrun : p.run s with
  | mk outcome between =>
    rw [hrun] at h hstate
    cases hstate
    cases outcome with
    | ok a => exact hf a h
    | error _ => exact (Prod.mk.inj h).2.symm

theorem ite {c : Prop} [Decidable c] {p q : Effect σ ε α} (hp : FailsClean p)
    (hq : FailsClean q) : FailsClean (if c then p else q) := by
  split
  · exact hp
  · exact hq

end FailsClean

end Effect

end DqMadeEasy
