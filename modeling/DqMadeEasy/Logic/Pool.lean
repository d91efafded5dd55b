import Mathlib.Logic.Function.Basic
import DqMadeEasy.Logic.Outcome
import DqMadeEasy.Logic.Transition

/-!
# Processes at work on one state

Any number of processes take up tasks and run the program of each, interleaved at their calls, while
the world outside acts on the state too. A process may stop at any point. What a process at a point
of an outline knows withstands the others as long as they do no more than it relies on, and a
process makes only calls of the kind that its program makes.
-/

namespace DqMadeEasy

namespace Program

variable {Op : Type} {Answer : Op → Type} {σ ε α : Type}

def Ends (serves : (op : Op) → σ → Except ε (Answer op) → σ → Prop) (rely : σ → σ → Prop)
    (may : σ → Op → Prop) (Q : α → σ → Prop) (E : ε → σ → Prop) (p : Program Op Answer ε α)
    (s : σ) : Prop :=
  ∃ K : σ → Prop, Stable rely K ∧ K s ∧ p.Outcome serves rely may K Q E

namespace Ends

variable {serves : (op : Op) → σ → Except ε (Answer op) → σ → Prop} {rely : σ → σ → Prop}
variable {may : σ → Op → Prop} {Q : α → σ → Prop} {E : ε → σ → Prop} {s s' : σ}

/-- Others do not disturb it. -/
theorem undisturbed {p : Program Op Answer ε α} (h : p.Ends serves rely may Q E s)
    (hrely : rely s s') : p.Ends serves rely may Q E s' := by
  obtain ⟨K, hstable, hK, houtcome⟩ := h
  exact ⟨K, hstable, hstable s s' hK hrely, houtcome⟩

theorem call {op : Op} {next : Except ε (Answer op) → Program Op Answer ε α}
    {answer : Except ε (Answer op)} (h : (Program.call op next).Ends serves rely may Q E s)
    (hserve : serves op s answer s') : (next answer).Ends serves rely may Q E s' := by
  obtain ⟨K, _, hK, _, houtcome⟩ := h
  obtain ⟨K', hstable, hserves, hnext⟩ := houtcome answer
  exact ⟨K', hstable, hserves s s' hK hserve, hnext⟩

/-- It returned. -/
theorem done {a : α} (h : (Program.done a : Program Op Answer ε α).Ends serves rely may Q E s) :
    Q a s := by
  obtain ⟨K, _, hK, houtcome⟩ := h
  exact houtcome s hK

/-- It raised. -/
theorem raise {e : ε} (h : (Program.raise e : Program Op Answer ε α).Ends serves rely may Q E s) :
    E e s := by
  obtain ⟨K, _, hK, houtcome⟩ := h
  exact houtcome s hK

end Ends

end Program

/-- A state and the processes that work on it, each at a point of the program of its task. -/
structure Pool (Id Task σ : Type) (Op : Type) (Answer : Op → Type) (ε : Type) where
  shared : σ
  phase : Id → Option (Task × Program Op Answer ε Unit)

namespace Pool

/-- How a call goes: it is served, it has no effect, or it fails after it took effect. -/
inductive Fate (ε α : Type) where
  | served (a : α)
  | refused (e : ε)
  | interrupted (e : ε)

namespace Fate

variable {ε α : Type}

def answer : Fate ε α → Except ε α
  | .served a => .ok a
  | .refused e => .error e
  | .interrupted e => .error e

/-- The call took effect. -/
def effective : Fate ε α → Bool
  | .served _ => true
  | .refused _ => false
  | .interrupted _ => true

end Fate

/-- What processes do: the program of a task, what beginning it does to the state, the calls, each
in one of the ways that it can go, and what happens outside. -/
structure Workplace (Task σ Op : Type) (Answer : Op → Type) (ε : Type) (How : Op → Type)
    (Outside : Type) where
  program : Task → Program Op Answer ε Unit
  begin_ : Task → σ → Option σ
  perform : (op : Op) → How op → σ → Except ε (Answer op) × σ
  outside : Outside → σ → σ

/-- The labels of the steps. -/
inductive Event (Id Task Op : Type) (How : Op → Type) (Outside : Type) where
  | outside (o : Outside)
  | begin_ (worker : Id) (task : Task)
  | call (worker : Id) (op : Op) (how : How op)
  | finish (worker : Id)
  | crash (worker : Id)

variable {Id Task σ Op : Type} {Answer : Op → Type} {ε : Type} {How : Op → Type} {Outside : Type}

def idle (shared : σ) : Pool Id Task σ Op Answer ε := ⟨shared, fun _ => none⟩

/-- The pool with another state and another phase of one process. -/
def put [DecidableEq Id] (p : Pool Id Task σ Op Answer ε) (worker : Id) (shared : σ)
    (phase : Option (Task × Program Op Answer ε Unit)) : Pool Id Task σ Op Answer ε :=
  ⟨shared, Function.update p.phase worker phase⟩

section Steps

variable [DecidableEq Id] (site : Workplace Task σ Op Answer ε How Outside)

/-- The steps of the processes. -/
inductive Step : Pool Id Task σ Op Answer ε → Event Id Task Op How Outside →
    Pool Id Task σ Op Answer ε → Prop
  | outside (p : Pool Id Task σ Op Answer ε) (o : Outside) :
    Step p (.outside o) { p with shared := site.outside o p.shared }
  | begin_ {p : Pool Id Task σ Op Answer ε} {worker : Id} {task : Task} {shared : σ}
      (h : p.phase worker = none) (hbegin : site.begin_ task p.shared = some shared) :
    Step p (.begin_ worker task) (p.put worker shared (some (task, site.program task)))
  | call {p : Pool Id Task σ Op Answer ε} {worker : Id} {task : Task} {op : Op}
      {next : Except ε (Answer op) → Program Op Answer ε Unit} (how : How op)
      (h : p.phase worker = some (task, .call op next)) :
    Step p (.call worker op how) (p.put worker (site.perform op how p.shared).2
      (some (task, next (site.perform op how p.shared).1)))
  | done {p : Pool Id Task σ Op Answer ε} {worker : Id} {task : Task}
      (h : p.phase worker = some (task, .done ())) :
    Step p (.finish worker) (p.put worker p.shared none)
  | raised {p : Pool Id Task σ Op Answer ε} {worker : Id} {task : Task} {e : ε}
      (h : p.phase worker = some (task, .raise e)) :
    Step p (.finish worker) (p.put worker p.shared none)
  | crash (p : Pool Id Task σ Op Answer ε) (worker : Id) :
    Step p (.crash worker) (p.put worker p.shared none)

end Steps

theorem Step.call_to [DecidableEq Id] (site : Workplace Task σ Op Answer ε How Outside)
    {p p' : Pool Id Task σ Op Answer ε} {worker : Id} {task : Task} {op : Op}
    {next : Except ε (Answer op) → Program Op Answer ε Unit} (how : How op)
    (h : p.phase worker = some (task, .call op next))
    (hto : p' = p.put worker (site.perform op how p.shared).2
      (some (task, next (site.perform op how p.shared).1))) :
    Step site p (.call worker op how) p' := by
  subst hto
  exact .call how h

section Put

variable [DecidableEq Id] {p : Pool Id Task σ Op Answer ε} {worker other : Id} {shared : σ}
  {task : Task} {rest : Program Op Answer ε Unit}

@[simp] theorem shared_put (p : Pool Id Task σ Op Answer ε) (worker : Id) (shared : σ)
    (phase : Option (Task × Program Op Answer ε Unit)) :
    (p.put worker shared phase).shared = shared := rfl

theorem phase_put_self (p : Pool Id Task σ Op Answer ε) (worker : Id) (shared : σ)
    (phase : Option (Task × Program Op Answer ε Unit)) :
    (p.put worker shared phase).phase worker = phase :=
  Function.update_self ..

theorem phase_put_of_ne (h : other ≠ worker)
    (phase : Option (Task × Program Op Answer ε Unit)) :
    (p.put worker shared phase).phase other = p.phase other :=
  Function.update_of_ne h ..

/-- A process that is at work after one lost its task was at work before. -/
theorem phase_of_put_none (h : (p.put worker shared none).phase other = some (task, rest)) :
    other ≠ worker ∧ p.phase other = some (task, rest) := by
  by_cases hsame : other = worker
  · rw [hsame, phase_put_self] at h
    cases h
  · rw [phase_put_of_ne hsame] at h
    exact ⟨hsame, h⟩

/-- A process that is at work after one got to a point is that one or was at work before. -/
theorem phase_of_put_some {task' : Task} {rest' : Program Op Answer ε Unit}
    (h : (p.put worker shared (some (task', rest'))).phase other = some (task, rest)) :
    (other = worker ∧ task = task' ∧ rest = rest') ∨
      (other ≠ worker ∧ p.phase other = some (task, rest)) := by
  by_cases hsame : other = worker
  · rw [hsame, phase_put_self] at h
    cases h
    exact .inl ⟨hsame, rfl, rfl⟩
  · rw [phase_put_of_ne hsame] at h
    exact .inr ⟨hsame, h⟩

end Put

/-! ### A process that is not interleaved -/

section Execute

variable (site : Workplace Task σ Op Answer ε How Outside) (how : (op : Op) → How op)

def execute : Program Op Answer ε Unit → σ → σ
  | .done _, s => s
  | .raise _, s => s
  | .call op next, s => execute (next (site.perform op (how op) s).1) (site.perform op (how op) s).2

variable [DecidableEq Id] {site how} {worker : Id} {task : Task}
variable {meets : Pool Id Task σ Op Answer ε → Event Id Task Op How Outside → Prop}

variable (site how meets) in
/-- The run of a process through the rest of its program. -/
theorem runs_execute (p : Pool Id Task σ Op Answer ε)
    (hcall : ∀ p op, meets p (.call worker op (how op))) (hfinish : ∀ p, meets p (.finish worker))
    (rest : Program Op Answer ε Unit) (hphase : p.phase worker = some (task, rest)) :
    ∃ events p', Transition.Runs (Step site) meets p events p' ∧
      p'.shared = execute site how rest p.shared ∧ p'.phase worker = none ∧
      ∀ other, other ≠ worker → p'.phase other = p.phase other := by
  induction rest generalizing p with
  | done a =>
    exact ⟨_, _, .one (.done hphase) (hfinish p), rfl, phase_put_self .., fun _ hne =>
      phase_put_of_ne hne _⟩
  | raise e =>
    exact ⟨_, _, .one (.raised hphase) (hfinish p), rfl, phase_put_self .., fun _ hne =>
      phase_put_of_ne hne _⟩
  | call op next ih =>
    obtain ⟨events, p', hruns, hshared, hnone, hother⟩ := ih _ _ (phase_put_self p worker _ _)
    exact ⟨_, p', .cons (.call (how op) hphase) (hcall p op) hruns, hshared, hnone,
      fun other hne => (hother other hne).trans (phase_put_of_ne hne _)⟩

end Execute

/-! ### Calls of a kind -/

/-- All calls that processes have still to make are of a kind. -/
def Only (kind : Op → Prop) (p : Pool Id Task σ Op Answer ε) : Prop :=
  ∀ worker task rest, p.phase worker = some (task, rest) → rest.Only kind

theorem only_idle (kind : Op → Prop) (shared : σ) :
    Only kind (idle shared : Pool Id Task σ Op Answer ε) := by
  intro worker task rest h
  cases h

/-- Processes whose programs make calls of a kind only go on to do so. -/
theorem Only.step [DecidableEq Id] {site : Workplace Task σ Op Answer ε How Outside}
    {kind : Op → Prop} (hprogram : ∀ task, (site.program task).Only kind)
    {p p' : Pool Id Task σ Op Answer ε} {e : Event Id Task Op How Outside} (h : Only kind p)
    (hstep : Step site p e p') : Only kind p' := by
  intro other task' rest hother
  cases hstep with
  | outside o => exact h other task' rest hother
  | begin_ hphase hbegin =>
    rcases phase_of_put_some hother with ⟨_, rfl, rfl⟩ | ⟨_, hbefore⟩
    · exact hprogram task'
    · exact h other task' rest hbefore
  | call how hphase =>
    rcases phase_of_put_some hother with ⟨_, rfl, rfl⟩ | ⟨_, hbefore⟩
    · exact (h _ _ _ hphase).2 _
    · exact h other task' rest hbefore
  | done hphase => exact h other task' rest (phase_of_put_none hother).2
  | raised hphase => exact h other task' rest (phase_of_put_none hother).2
  | crash worker => exact h other task' rest (phase_of_put_none hother).2

end Pool

end DqMadeEasy
