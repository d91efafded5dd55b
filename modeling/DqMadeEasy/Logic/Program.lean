import DqMadeEasy.Logic.Effect

/-!
# Programs of calls

A program that awaits one call after another: it returns, raises, or makes a call and goes on with
the answer. Run alone it is a computation on a state. Run among others, anything may happen to the
state between two of its calls, so what it knows of the state has to withstand that: a proof outline
attaches to every point of the program a fact that does.
-/

namespace DqMadeEasy

/-- A program of calls whose answers have the given types. -/
inductive Program (Op : Type) (Answer : Op → Type) (ε α : Type) : Type where
  | done (a : α)
  | raise (e : ε)
  | call (op : Op) (next : Except ε (Answer op) → Program Op Answer ε α)

namespace Program

variable {Op : Type} {Answer : Op → Type} {σ ε α β : Type}

def bind (f : α → Program Op Answer ε β) : Program Op Answer ε α → Program Op Answer ε β
  | .done a => f a
  | .raise e => .raise e
  | .call op next => .call op fun answer => (next answer).bind f

instance : Monad (Program Op Answer ε) where
  pure := .done
  bind p f := p.bind f

def perform (op : Op) : Program Op Answer ε (Answer op) :=
  .call op fun
    | .ok a => .done a
    | .error e => .raise e

/-- A fallible value. -/
def ofExcept : Except ε α → Program Op Answer ε α
  | .ok a => .done a
  | .error e => .raise e

/-- `try` with a handler for every error. -/
def rescue (handler : ε → Program Op Answer ε α) : Program Op Answer ε α → Program Op Answer ε α
  | .done a => .done a
  | .raise e => handler e
  | .call op next => .call op fun answer => (next answer).rescue handler

@[simp] theorem done_bind (a : α) (f : α → Program Op Answer ε β) :
    (Program.done a >>= f : Program Op Answer ε β) = f a := rfl

@[simp] theorem raise_bind (e : ε) (f : α → Program Op Answer ε β) :
    (Program.raise e >>= f : Program Op Answer ε β) = .raise e := rfl

@[simp] theorem call_bind (op : Op) (next : Except ε (Answer op) → Program Op Answer ε α)
    (f : α → Program Op Answer ε β) :
    (Program.call op next >>= f : Program Op Answer ε β) =
      .call op fun answer => next answer >>= f := rfl

/-! ### Alone -/

section Exec

variable (serve : (op : Op) → Effect σ ε (Answer op))

/-- The program run alone. -/
def exec : Program Op Answer ε α → Effect σ ε α
  | .done a => pure a
  | .raise e => Effect.raise e
  | .call op next => Effect.ofState fun s =>
    (exec (next ((serve op).run s).1)).run ((serve op).run s).2

theorem exec_call (op : Op) (next : Except ε (Answer op) → Program Op Answer ε α) (s : σ) :
    ((Program.call op next).exec serve).run s =
      ((next ((serve op).run s).1).exec serve).run ((serve op).run s).2 := rfl

/-- A sequence runs its parts one after the other. -/
theorem exec_bind (p : Program Op Answer ε α) (f : α → Program Op Answer ε β) (s : σ) :
    ((p >>= f).exec serve).run s = (p.exec serve >>= fun a => (f a).exec serve).run s := by
  induction p generalizing s with
  | done a => rfl
  | raise e => rfl
  | call op next ih =>
    rw [call_bind, exec_call, ih, Effect.run_bind, Effect.run_bind, exec_call]

theorem exec_rescue (handler : ε → Program Op Answer ε α) (p : Program Op Answer ε α) (s : σ) :
    ((p.rescue handler).exec serve).run s =
      (Effect.rescue (p.exec serve) fun e => (handler e).exec serve).run s := by
  induction p generalizing s with
  | done a => rfl
  | raise e => rfl
  | call op next ih =>
    rw [rescue, exec_call, ih, Effect.rescue, Effect.rescue, Effect.run_ofState, Effect.run_ofState,
      exec_call]

theorem exec_perform (op : Op) (s : σ) :
    ((Program.perform op : Program Op Answer ε _).exec serve).run s = (serve op).run s := by
  rw [perform, exec_call]
  cases (serve op).run s with
  | mk outcome s' => cases outcome <;> rfl

theorem keeps_exec {serve : (op : Op) → Effect σ ε (Answer op)} {I : σ → Prop}
    (h : ∀ op, Effect.Keeps I (serve op)) (p : Program Op Answer ε α) :
    Effect.Keeps I (p.exec serve) := by
  induction p with
  | done a => exact Effect.Keeps.pure a
  | raise e => exact Effect.Keeps.raise e
  | call op next ih =>
    intro s hs
    exact ih _ _ (h op s hs)

end Exec

/-! ### Calls of a kind -/

def Only (kind : Op → Prop) : Program Op Answer ε α → Prop
  | .done _ => True
  | .raise _ => True
  | .call op next => kind op ∧ ∀ answer, (next answer).Only kind

namespace Only

variable {kind : Op → Prop}

theorem perform {op : Op} (h : kind op) :
    (Program.perform op : Program Op Answer ε _).Only kind := by
  refine ⟨h, fun answer => ?_⟩
  cases answer <;> trivial

theorem bind {p : Program Op Answer ε α} {f : α → Program Op Answer ε β} (h : p.Only kind)
    (hf : ∀ a, (f a).Only kind) : (p >>= f).Only kind := by
  induction p with
  | done a => exact hf a
  | raise e => trivial
  | call op next ih => exact ⟨h.1, fun answer => ih answer (h.2 answer)⟩

theorem ofExcept (x : Except ε α) :
    (Program.ofExcept x : Program Op Answer ε α).Only kind := by
  cases x <;> trivial

theorem exec_state {serve : (op : Op) → Effect σ ε (Answer op)} {p : Program Op Answer ε α}
    (h : p.Only kind) (hserve : ∀ op s, kind op → ((serve op).run s).2 = s) (s : σ) :
    ((p.exec serve).run s).2 = s := by
  induction p generalizing s with
  | done a => rfl
  | raise e => rfl
  | call op next ih =>
    rw [exec_call, ih _ (h.2 _), hserve op s h.1]

end Only

/-! ### What is returned -/

def Returns (Q : α → Prop) : Program Op Answer ε α → Prop
  | .done a => Q a
  | .raise _ => True
  | .call _ next => ∀ answer, (next answer).Returns Q

namespace Returns

variable {Q : α → Prop} {R : β → Prop}

theorem bind {p : Program Op Answer ε α} {f : α → Program Op Answer ε β} (h : p.Returns Q)
    (hf : ∀ a, Q a → (f a).Returns R) : (p >>= f).Returns R := by
  induction p with
  | done a => exact hf a h
  | raise e => trivial
  | call op next ih => exact fun answer => ih answer (h answer)

theorem true (p : Program Op Answer ε α) : p.Returns fun _ => True := by
  induction p with
  | done a => trivial
  | raise e => trivial
  | call op next ih => exact ih

theorem ofExcept {x : Except ε α} (h : ∀ a, x = .ok a → Q a) :
    (Program.ofExcept x : Program Op Answer ε α).Returns Q := by
  cases x with
  | ok a => exact h a rfl
  | error e => trivial

theorem of_exec {serve : (op : Op) → Effect σ ε (Answer op)} {p : Program Op Answer ε α}
    (h : p.Returns Q) {s s' : σ} {a : α} (hrun : (p.exec serve).run s = (.ok a, s')) : Q a := by
  induction p generalizing s with
  | done b =>
    cases hrun
    exact h
  | raise e => cases (Prod.mk.inj hrun).1
  | call op next ih => exact ih _ (h _) hrun

end Returns

/-! ### Among others -/

section Outline

/-- A fact that withstands what others do. -/
def Stable (rely : σ → σ → Prop) (K : σ → Prop) : Prop := ∀ s s', K s → rely s s' → K s'

variable (serves : (op : Op) → σ → Except ε (Answer op) → σ → Prop) (rely : σ → σ → Prop)
variable (may : σ → Op → Prop)

/-- From a state of which a fact is known, the program makes only calls that it may make, knows a
stable fact after each, and returns with a property. -/
def Outline : Program Op Answer ε α → (σ → Prop) → (α → σ → Prop) → Prop
  | .done a, K, Q => ∀ s, K s → Q a s
  | .raise _, _, _ => True
  | .call op next, K, Q => (∀ s, K s → may s op) ∧ ∀ answer, ∃ K' : σ → Prop, Stable rely K' ∧
      (∀ s s', K s → serves op s answer s' → K' s') ∧ (next answer).Outline K' Q

variable {serves rely may} {K K' : σ → Prop} {Q : α → σ → Prop} {R : β → σ → Prop}

namespace Outline

theorem weaken {p : Program Op Answer ε α} (h : p.Outline serves rely may K Q)
    (hK : ∀ s, K' s → K s) : p.Outline serves rely may K' Q := by
  cases p with
  | done a => exact fun s hs => h s (hK s hs)
  | raise e => trivial
  | call op next =>
    refine ⟨fun s hs => h.1 s (hK s hs), fun answer => ?_⟩
    obtain ⟨K'', hstable, hserves, hnext⟩ := h.2 answer
    exact ⟨K'', hstable, fun s s' hs => hserves s s' (hK s hs), hnext⟩

theorem assume {P : Prop} {p : Program Op Answer ε α}
    (h : P → p.Outline serves rely may (fun _ => True) Q) :
    p.Outline serves rely may (fun _ => P) Q := by
  by_cases hP : P
  · exact (h hP).weaken fun _ _ => trivial
  · -- Nothing is known of any state: no call is served from one.
    induction p with
    | done a => exact fun _ hfalse => absurd hfalse hP
    | raise e => trivial
    | call op next ih =>
      refine ⟨fun _ hfalse => absurd hfalse hP, fun answer => ⟨fun _ => P, fun _ _ h _ => h,
        fun _ _ h _ => h, ih answer fun h => absurd h hP⟩⟩

theorem bind {p : Program Op Answer ε α} {f : α → Program Op Answer ε β}
    (h : p.Outline serves rely may K Q) (hf : ∀ a, (f a).Outline serves rely may (Q a) R) :
    (p >>= f).Outline serves rely may K R := by
  induction p generalizing K with
  | done a => exact (hf a).weaken h
  | raise e => trivial
  | call op next ih =>
    refine ⟨h.1, fun answer => ?_⟩
    obtain ⟨K', hstable, hserves, hnext⟩ := h.2 answer
    exact ⟨K', hstable, hserves, ih answer hnext⟩

theorem ofExcept_bind {x : Except ε α} {f : α → Program Op Answer ε β}
    (h : ∀ a, x = .ok a → (f a).Outline serves rely may K R) :
    (Program.ofExcept x >>= f).Outline serves rely may K R := by
  cases x with
  | ok a => exact h a rfl
  | error e => trivial

theorem rescue {p : Program Op Answer ε α} {handler : ε → Program Op Answer ε α}
    (h : p.Outline serves rely may K Q)
    (hhandler : ∀ e, (handler e).Outline serves rely may (fun _ => True) Q) :
    (p.rescue handler).Outline serves rely may K Q := by
  induction p generalizing K with
  | done a => exact h
  | raise e => exact (hhandler e).weaken fun _ _ => trivial
  | call op next ih =>
    refine ⟨h.1, fun answer => ?_⟩
    obtain ⟨K', hstable, hserves, hnext⟩ := h.2 answer
    exact ⟨K', hstable, hserves, ih answer hnext⟩

theorem perform {op : Op} {Q : Answer op → σ → Prop} (hmay : ∀ s, K s → may s op)
    (hstable : ∀ a, Stable rely (Q a))
    (hserves : ∀ s a s', K s → serves op s (.ok a) s' → Q a s') :
    (Program.perform op : Program Op Answer ε _).Outline serves rely may K Q := by
  refine ⟨hmay, fun answer => ?_⟩
  cases answer with
  | ok a => exact ⟨Q a, hstable a, fun s s' hs h => hserves s a s' hs h, fun _ h => h⟩
  | error e => exact ⟨fun _ => True, fun _ _ _ _ => trivial, fun _ _ _ _ => trivial, trivial⟩

end Outline

def Follows (serves : (op : Op) → σ → Except ε (Answer op) → σ → Prop) (rely : σ → σ → Prop)
    (may : σ → Op → Prop) (p : Program Op Answer ε α) (s : σ) : Prop :=
  ∃ K : σ → Prop, Stable rely K ∧ K s ∧ p.Outline serves rely may K fun _ _ => True

namespace Follows

variable {p : Program Op Answer ε α} {s s' : σ}

/-- Others do not disturb it. -/
theorem undisturbed (h : Follows serves rely may p s) (hrely : rely s s') :
    Follows serves rely may p s' := by
  obtain ⟨K, hstable, hK, houtline⟩ := h
  exact ⟨K, hstable, hstable s s' hK hrely, houtline⟩

theorem permitted {op : Op} {next : Except ε (Answer op) → Program Op Answer ε α}
    (h : Follows serves rely may (.call op next) s) : may s op := by
  obtain ⟨K, _, hK, hmay, _⟩ := h
  exact hmay s hK

theorem call {op : Op} {next : Except ε (Answer op) → Program Op Answer ε α}
    {answer : Except ε (Answer op)} (h : Follows serves rely may (.call op next) s)
    (hserve : serves op s answer s') : Follows serves rely may (next answer) s' := by
  obtain ⟨K, _, hK, _, houtline⟩ := h
  obtain ⟨K', hstable, hserves, hnext⟩ := houtline answer
  exact ⟨K', hstable, hserves s s' hK hserve, hnext⟩

end Follows

end Outline

end Program

end DqMadeEasy
