import DqMadeEasy.Logic.Transition

/-!
# Machines in lockstep

Two machines get the same calls. Where each call that meets a condition is answered alike by related
states and leaves related states, all calls of a run that meets the condition are answered alike.
-/

namespace DqMadeEasy

namespace Lockstep

open Transition

variable {σ τ γ α β : Type*}

def Pair (left : σ → γ → α × σ) (right : τ → γ → β × τ) (s : σ × τ) (call : γ) (s' : σ × τ) : Prop :=
  s' = ((left s.1 call).2, (right s.2 call).2)

variable {left : σ → γ → α × σ} {right : τ → γ → β × τ} {R : σ → τ → Prop} {Same : α → β → Prop}
  {meets : σ × τ → γ → Prop} {start s : σ × τ} {calls : List γ} {call : γ}

/-- A call of related states is answered alike and leaves them related. -/
def Simulates (left : σ → γ → α × σ) (right : τ → γ → β × τ) (R : σ → τ → Prop)
    (Same : α → β → Prop) (meets : σ × τ → γ → Prop) : Prop :=
  ∀ s t call, R s t → meets (s, t) call →
    Same (left s call).1 (right t call).1 ∧ R (left s call).2 (right t call).2

theorem Simulates.related (h : Simulates left right R Same meets) (hstart : R start.1 start.2)
    (hruns : Runs (Pair left right) meets start calls s) : R s.1 s.2 := by
  refine hruns.invariant (I := fun s => R s.1 s.2) hstart ?_
  rintro s call s' hs rfl hmeets
  exact (h s.1 s.2 call hs hmeets).2

theorem Simulates.same (h : Simulates left right R Same meets) (hstart : R start.1 start.2)
    (hruns : Runs (Pair left right) meets start calls s) (hmeets : meets s call) :
    Same (left s.1 call).1 (right s.2 call).1 :=
  (h s.1 s.2 call (h.related hstart hruns) hmeets).1

end Lockstep

end DqMadeEasy
