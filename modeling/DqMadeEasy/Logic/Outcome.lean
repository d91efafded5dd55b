import DqMadeEasy.Logic.Program

/-!
# How programs end

A program returns or raises, and its handlers and its cleanup go on from either ending. What is
known of the state at both endings is an outline of the program that returns its own ending. A part
of a program that makes calls of one kind only keeps every fact that such calls keep, up to both
endings.
-/

namespace DqMadeEasy

namespace Program

variable {Op : Type} {Answer : Op → Type} {σ ε α β : Type}

def ending : Program Op Answer ε α → Program Op Answer ε (Except ε α)
  | .done a => .done (.ok a)
  | .raise e => .done (.error e)
  | .call op next => .call op fun answer => (next answer).ending

/-- `try` with a `finally`. -/
def ensure : Program Op Answer ε α → Program Op Answer ε Unit → Program Op Answer ε α
  | .done a, cleanup => cleanup >>= fun _ => .done a
  | .raise e, cleanup => cleanup >>= fun _ => .raise e
  | .call op next, cleanup => .call op fun answer => (next answer).ensure cleanup

/-! ### Both endings -/

section Outcome

variable (serves : (op : Op) → σ → Except ε (Answer op) → σ → Prop) (rely : σ → σ → Prop)
variable (may : σ → Op → Prop)

/-- The program returns with one property and raises with another. -/
def Outcome (p : Program Op Answer ε α) (K : σ → Prop) (Q : α → σ → Prop) (E : ε → σ → Prop) :
    Prop :=
  p.ending.Outline serves rely may K fun ended s =>
    match ended with
    | .ok a => Q a s
    | .error e => E e s

variable {serves rely may} {K K' : σ → Prop} {Q M : α → σ → Prop} {E N : ε → σ → Prop}
variable {R : β → σ → Prop}

namespace Outcome

variable {p : Program Op Answer ε α}

theorem outline (h : p.Outcome serves rely may K Q E) :
    p.Outline serves rely may K Q := by
  rw [Outcome] at h
  induction p generalizing K with
  | done a => exact h
  | raise e => trivial
  | call op next ih =>
    refine ⟨h.1, fun answer => ?_⟩
    obtain ⟨K', hstable, hserves, hnext⟩ := h.2 answer
    exact ⟨K', hstable, hserves, ih answer hnext⟩

theorem weaken (h : p.Outcome serves rely may K Q E) (hK : ∀ s, K' s → K s) :
    p.Outcome serves rely may K' Q E :=
  Outline.weaken h hK

theorem returning {Good : α → Prop} (h : p.Outcome serves rely may K Q E)
    (hreturns : p.Returns Good) :
    p.Outcome serves rely may K (fun a s => Q a s ∧ Good a) E := by
  rw [Outcome] at h ⊢
  induction p generalizing K with
  | done a => exact fun s hs => ⟨h s hs, hreturns⟩
  | raise e => exact h
  | call op next ih =>
    refine ⟨h.1, fun answer => ?_⟩
    obtain ⟨K', hstable, hserves, hnext⟩ := h.2 answer
    exact ⟨K', hstable, hserves, ih answer hnext (hreturns answer)⟩

theorem assume {P : Prop} (h : P → p.Outcome serves rely may (fun _ => True) Q E) :
    p.Outcome serves rely may (fun _ => P) Q E :=
  Outline.assume h

theorem mono (h : p.Outcome serves rely may K M N) (hQ : ∀ a s, M a s → Q a s)
    (hE : ∀ e s, N e s → E e s) :
    p.Outcome serves rely may K Q E := by
  rw [Outcome] at h ⊢
  induction p generalizing K with
  | done a => exact fun s hs => hQ a s (h s hs)
  | raise e => exact fun s hs => hE e s (h s hs)
  | call op next ih =>
    refine ⟨h.1, fun answer => ?_⟩
    obtain ⟨K', hstable, hserves, hnext⟩ := h.2 answer
    exact ⟨K', hstable, hserves, ih answer hnext⟩

theorem done {a : α} (h : ∀ s, K s → Q a s) :
    (Program.done a : Program Op Answer ε α).Outcome serves rely may K Q E := h

theorem raise {e : ε} (h : ∀ s, K s → E e s) :
    (Program.raise e : Program Op Answer ε α).Outcome serves rely may K Q E := h

theorem perform {op : Op} {Q : Answer op → σ → Prop} (hmay : ∀ s, K s → may s op)
    (hQ : ∀ a, Stable rely (Q a)) (hE : ∀ e, Stable rely (E e))
    (hreturns : ∀ s a s', K s → serves op s (.ok a) s' → Q a s')
    (hraises : ∀ s e s', K s → serves op s (.error e) s' → E e s') :
    (Program.perform op : Program Op Answer ε _).Outcome serves rely may K Q E := by
  refine ⟨hmay, fun answer => ?_⟩
  cases answer with
  | ok a => exact ⟨Q a, hQ a, fun s s' hs h => hreturns s a s' hs h, fun _ h => h⟩
  | error e => exact ⟨E e, hE e, fun s s' hs h => hraises s e s' hs h, fun _ h => h⟩

theorem bind {f : α → Program Op Answer ε β} (h : p.Outcome serves rely may K M E)
    (hf : ∀ a, (f a).Outcome serves rely may (M a) R E) :
    (p >>= f).Outcome serves rely may K R E := by
  rw [Outcome] at h
  induction p generalizing K with
  | done a => exact (hf a).weaken h
  | raise e => exact h
  | call op next ih =>
    refine ⟨h.1, fun answer => ?_⟩
    obtain ⟨K', hstable, hserves, hnext⟩ := h.2 answer
    exact ⟨K', hstable, hserves, ih answer hnext⟩

theorem rescue {handler : ε → Program Op Answer ε α} (h : p.Outcome serves rely may K Q N)
    (hhandler : ∀ e, (handler e).Outcome serves rely may (N e) Q E) :
    (p.rescue handler).Outcome serves rely may K Q E := by
  rw [Outcome] at h
  induction p generalizing K with
  | done a => exact h
  | raise e => exact (hhandler e).weaken h
  | call op next ih =>
    refine ⟨h.1, fun answer => ?_⟩
    obtain ⟨K', hstable, hserves, hnext⟩ := h.2 answer
    exact ⟨K', hstable, hserves, ih answer hnext⟩

theorem ensure {cleanup : Program Op Answer ε Unit} (h : p.Outcome serves rely may K M N)
    (hreturn : ∀ a, cleanup.Outcome serves rely may (M a) (fun _ => Q a) E)
    (hraise : ∀ e, cleanup.Outcome serves rely may (N e) (fun _ => E e) E) :
    (p.ensure cleanup).Outcome serves rely may K Q E := by
  rw [Outcome] at h
  induction p generalizing K with
  | done a => exact bind ((hreturn a).weaken h) fun _ => done fun _ hs => hs
  | raise e => exact bind ((hraise e).weaken h) fun _ => raise fun _ hs => hs
  | call op next ih =>
    refine ⟨h.1, fun answer => ?_⟩
    obtain ⟨K', hstable, hserves, hnext⟩ := h.2 answer
    exact ⟨K', hstable, hserves, ih answer hnext⟩

end Outcome

end Outcome

theorem Returns.ensure {Q : α → Prop} {p : Program Op Answer ε α}
    {cleanup : Program Op Answer ε Unit} (h : p.Returns Q) : (p.ensure cleanup).Returns Q := by
  induction p with
  | done a => exact (Returns.true cleanup).bind fun _ _ => h
  | raise e => exact (Returns.true cleanup).bind fun _ _ => trivial
  | call op next ih => exact fun answer => ih answer (h answer)

/-! ### Calls of one kind -/

/-- Every call of the program is of a kind, and as long as its calls raise nothing but tolerable
errors, so does the program. -/
def Within (kind : Op → Prop) (tolerable : ε → Prop) : Program Op Answer ε α → Prop
  | .done _ => True
  | .raise e => tolerable e
  | .call op next => kind op ∧ ∀ answer, (∀ e, answer = .error e → tolerable e) →
    (next answer).Within kind tolerable

namespace Within

variable {kind : Op → Prop} {tolerable : ε → Prop}

theorem perform {op : Op} (h : kind op) :
    (Program.perform op : Program Op Answer ε _).Within kind tolerable := by
  refine ⟨h, fun answer hanswer => ?_⟩
  cases answer with
  | ok a => trivial
  | error e => exact hanswer e rfl

variable {p : Program Op Answer ε α}

theorem bind {f : α → Program Op Answer ε β} (h : p.Within kind tolerable)
    (hf : ∀ a, (f a).Within kind tolerable) :
    (p >>= f).Within kind tolerable := by
  induction p with
  | done a => exact hf a
  | raise e => exact h
  | call op next ih => exact ⟨h.1, fun answer hanswer => ih answer (h.2 answer hanswer)⟩

/-- After a part that returns only values with a property, these values matter only. -/
theorem bind_returns {Good : α → Prop} {f : α → Program Op Answer ε β} (h : p.Within kind tolerable)
    (hreturns : p.Returns Good) (hf : ∀ a, Good a → (f a).Within kind tolerable) :
    (p >>= f).Within kind tolerable := by
  induction p with
  | done a => exact hf a hreturns
  | raise e => exact h
  | call op next ih =>
    exact ⟨h.1, fun answer hanswer => ih answer (h.2 answer hanswer) (hreturns answer)⟩

theorem ofExcept {x : Except ε α} (h : ∀ e, x = .error e → tolerable e) :
    (Program.ofExcept x : Program Op Answer ε α).Within kind tolerable := by
  cases x with
  | ok a => trivial
  | error e => exact h e rfl

theorem rescue {handler : ε → Program Op Answer ε α} (h : p.Within kind tolerable)
    (hhandler : ∀ e, tolerable e → (handler e).Within kind tolerable) :
    (p.rescue handler).Within kind tolerable := by
  induction p with
  | done a => trivial
  | raise e => exact hhandler e h
  | call op next ih => exact ⟨h.1, fun answer hanswer => ih answer (h.2 answer hanswer)⟩

theorem ensure {cleanup : Program Op Answer ε Unit} (h : p.Within kind tolerable)
    (hcleanup : cleanup.Within kind tolerable) :
    (p.ensure cleanup).Within kind tolerable := by
  induction p with
  | done a => exact bind hcleanup fun _ => trivial
  | raise e => exact bind hcleanup fun _ => h
  | call op next ih => exact ⟨h.1, fun answer hanswer => ih answer (h.2 answer hanswer)⟩

variable {serves : (op : Op) → σ → Except ε (Answer op) → σ → Prop} {rely : σ → σ → Prop}
variable {may : σ → Op → Prop} {K : σ → Prop}

/-- What calls of the kind keep, the program keeps up to both endings. -/
theorem outcome (h : p.Within kind tolerable) (hstable : Stable rely K)
    (hmay : ∀ op s, kind op → K s → may s op)
    (hserves : ∀ op s answer s', kind op → K s → serves op s answer s' →
      K s' ∧ ∀ e, answer = .error e → tolerable e) :
    p.Outcome serves rely may K (fun _ => K) fun e s => K s ∧ tolerable e := by
  induction p with
  | done a => exact Outcome.done fun _ hs => hs
  | raise e => exact Outcome.raise fun _ hs => ⟨hs, h⟩
  | call op next ih =>
    refine ⟨fun s hs => hmay op s h.1 hs, fun answer => ?_⟩
    by_cases hanswer : ∀ e, answer = .error e → tolerable e
    · exact ⟨K, hstable, fun s s' hs hcall => (hserves op s answer s' h.1 hs hcall).1,
        ih answer (h.2 answer hanswer)⟩
    · -- The call raises nothing else, so nothing goes on from here.
      refine ⟨fun _ => False, fun _ _ hs _ => hs, fun s s' hs hcall =>
        hanswer (hserves op s answer s' h.1 hs hcall).2, ?_⟩
      exact Outcome.assume (fun hfalse => hfalse.elim)

theorem of_exec {serve : (op : Op) → Effect σ ε (Answer op)} (h : p.Within kind tolerable)
    (hserve : ∀ op s e s', (serve op).run s = (.error e, s') → tolerable e) {s s' : σ} {e : ε}
    (hrun : (p.exec serve).run s = (.error e, s')) : tolerable e := by
  induction p generalizing s with
  | done a => cases (Prod.mk.inj hrun).1
  | raise e' =>
    cases hrun
    exact h
  | call op next ih =>
    exact ih _ (h.2 _ fun e he => hserve op s e ((serve op).run s).2 (Prod.ext he rfl)) hrun

end Within

end Program

end DqMadeEasy
