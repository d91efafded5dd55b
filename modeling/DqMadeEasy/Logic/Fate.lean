import DqMadeEasy.Logic.Effect

/-!
# How calls go

A call of a collaborator is served, is refused before it has an effect, or is interrupted: it has its
effect and raises. A caller sees the error of the last two alike.
-/

namespace DqMadeEasy

namespace Effect

/-- How a call goes. -/
inductive Fate (ε : Type) where
  | served
  | refused (e : ε)
  | interrupted (e : ε)

variable {σ τ ε ε' α : Type}

/-- A computation that meets its fate. -/
def Fate.meet (fate : Fate ε) (p : Effect σ ε α) : Effect σ ε α :=
  match fate with
  | .served => p
  | .refused e => raise e
  | .interrupted e => ofState fun s => (.error e, (p.run s).2)

@[simp] theorem Fate.served_meet (p : Effect σ ε α) : Fate.served.meet p = p := rfl

@[simp] theorem Fate.run_refused (e : ε) (p : Effect σ ε α) (s : σ) :
    ((Fate.refused e).meet p).run s = (.error e, s) := rfl

@[simp] theorem Fate.run_interrupted (e : ε) (p : Effect σ ε α) (s : σ) :
    ((Fate.interrupted e).meet p).run s = (.error e, (p.run s).2) := rfl

theorem Fate.snd_meet (fate : Fate ε) (p : Effect σ ε α) (s : σ) :
    ((fate.meet p).run s).2 = s ∨ ((fate.meet p).run s).2 = (p.run s).2 := by
  cases fate with
  | served => exact .inr rfl
  | refused e => exact .inl rfl
  | interrupted e => exact .inr rfl

theorem Fate.ok_of_run_meet {fate : Fate ε} {p : Effect σ ε α} {s s' : σ} {a : α}
    (h : (fate.meet p).run s = (.ok a, s')) : fate = .served ∧ p.run s = (.ok a, s') := by
  cases fate with
  | served => exact ⟨rfl, h⟩
  | refused e => cases (Prod.mk.inj h).1
  | interrupted e => cases (Prod.mk.inj h).1

theorem Fate.reads_meet (fate : Fate ε) {p : Effect σ ε α} (hp : Reads p) :
    Reads (fate.meet p) := by
  intro s
  rcases fate.snd_meet p s with h | h
  · exact h
  · rw [h, hp s]

/-- A part of a state. -/
structure Part (σ τ : Type) where
  get : σ → τ
  set : τ → σ → σ
  get_set : ∀ t s, get (set t s) = t
  set_get : ∀ s, set (get s) s = s

def Part.on (part : Part σ τ) (f : ε → ε') (p : Effect τ ε α) : Effect σ ε' α := ofState fun s =>
  (match (p.run (part.get s)).1 with
    | .ok a => .ok a
    | .error e => .error (f e), part.set (p.run (part.get s)).2 s)

namespace Part

variable {part : Part σ τ} {f : ε → ε'} {p : Effect τ ε α} {s : σ}

theorem run_on_ok {a : α} {t : τ} (h : p.run (part.get s) = (.ok a, t)) :
    (part.on f p).run s = (.ok a, part.set t s) := by
  rw [on, run_ofState, h]

theorem run_on_error {e : ε} {t : τ} (h : p.run (part.get s) = (.error e, t)) :
    (part.on f p).run s = (.error (f e), part.set t s) := by
  rw [on, run_ofState, h]

theorem ok_of_run_on {a : α} {s' : σ} (h : (part.on f p).run s = (.ok a, s')) :
    p.run (part.get s) = (.ok a, part.get s') := by
  rw [on, run_ofState] at h
  obtain ⟨houtcome, hstate⟩ := Prod.mk.inj h
  rw [← hstate, part.get_set]
  refine Prod.ext ?_ rfl
  cases hp : (p.run (part.get s)).1 with
  | ok b =>
    rw [hp] at houtcome
    cases houtcome
    rfl
  | error e =>
    rw [hp] at houtcome
    cases houtcome

theorem snd_on : ((part.on f p).run s).2 = part.set (p.run (part.get s)).2 s := rfl

theorem run_on_read (g : τ → α) : (part.on f (Fate.served.meet
    (ofState fun t => (.ok (g t), t) : Effect τ ε α))).run s = (.ok (g (part.get s)), s) := by
  have hread : (Fate.served.meet (ofState fun t => (.ok (g t), t) : Effect τ ε α)).run
      (part.get s) = (.ok (g (part.get s)), part.get s) := rfl
  rw [run_on_ok hread, part.set_get]

theorem of_run_on_read {fate : Fate ε} {g : τ → α} {a : α} {s' : σ} (h : (part.on f (fate.meet
    (ofState fun t => (.ok (g t), t) : Effect τ ε α))).run s = (.ok a, s')) :
    fate = .served ∧ g (part.get s) = a := by
  obtain ⟨hserved, hread⟩ := Fate.ok_of_run_meet (ok_of_run_on h)
  exact ⟨hserved, Except.ok.inj (Prod.mk.inj hread).1⟩

theorem reads_on (hp : Reads p) : Reads (part.on f p) := by
  intro s
  rw [snd_on, hp, part.set_get]

end Part

/-- `try` that hands on the outcome. -/
def attempt (p : Effect σ ε α) : Effect σ ε' (Except ε α) := ofState fun s =>
  (.ok (p.run s).1, (p.run s).2)

@[simp] theorem run_attempt (p : Effect σ ε α) (s : σ) :
    (attempt p : Effect σ ε' (Except ε α)).run s = (.ok (p.run s).1, (p.run s).2) := rfl

end Effect

end DqMadeEasy
