import Mathlib.Data.List.Basic

/-!
# Runs of a labelled transition relation

A run is a sequence of labelled steps each of which meets a condition on the state before it. What
holds at the start and is preserved by every step that meets the condition holds in every state
that such a run reaches.
-/

namespace DqMadeEasy

namespace Transition

variable {σ ε : Type*}

/-- Runs from a start whose steps all meet a condition, with their labels in order. -/
inductive Runs (step : σ → ε → σ → Prop) (meets : σ → ε → Prop) (start : σ) : List ε → σ → Prop
  | refl : Runs step meets start [] start
  | snoc {events : List ε} {s s' : σ} {e : ε} : Runs step meets start events s →
      step s e s' → meets s e → Runs step meets start (events ++ [e]) s'

variable {step : σ → ε → σ → Prop} {meets meets' : σ → ε → Prop} {start s s' : σ} {events : List ε}

namespace Runs

theorem invariant {I : σ → Prop} (h : Runs step meets start events s) (hstart : I start)
    (hstep : ∀ s e s', I s → step s e s' → meets s e → I s') : I s := by
  induction h with
  | refl => exact hstart
  | snoc _ hs hmeets ih => exact hstep _ _ _ ih hs hmeets

theorem mono (h : Runs step meets start events s) (hmeets : ∀ s e, meets s e → meets' s e) :
    Runs step meets' start events s := by
  induction h with
  | refl => exact .refl
  | snoc _ hs hm ih => exact .snoc ih hs (hmeets _ _ hm)

theorem one {e : ε} (hs : step s e s') (hmeets : meets s e) : Runs step meets s [e] s' :=
  .snoc .refl hs hmeets

theorem append {middle : σ} {events' : List ε} (h : Runs step meets start events middle)
    (h' : Runs step meets middle events' s) : Runs step meets start (events ++ events') s := by
  induction h' with
  | refl => rwa [List.append_nil]
  | snoc _ hs hm ih =>
    rw [← List.append_assoc]
    exact .snoc ih hs hm

theorem cons {middle : σ} {e : ε} (hs : step start e middle) (hmeets : meets start e)
    (h : Runs step meets middle events s) : Runs step meets start (e :: events) s :=
  append (one hs hmeets) h

end Runs

/-- All events meet the condition, each in the state that the ones before it lead to. -/
def MeetAll (next : σ → ε → σ) (meets : σ → ε → Prop) : List ε → σ → Prop
  | [], _ => True
  | e :: events, s => meets s e ∧ MeetAll next meets events (next s e)

instance decidableMeetAll (next : σ → ε → σ) (meets : σ → ε → Prop)
    [∀ s e, Decidable (meets s e)] : ∀ events s, Decidable (MeetAll next meets events s)
  | [], _ => inferInstanceAs (Decidable True)
  | e :: events, s =>
    have := decidableMeetAll next meets events (next s e)
    inferInstanceAs (Decidable (_ ∧ _))

theorem Runs.of_meetAll {next : σ → ε → σ} (hstep : ∀ s e, step s e (next s e))
    (h : MeetAll next meets events start) :
    Runs step meets start events (events.foldl next start) := by
  induction events generalizing start with
  | nil => exact .refl
  | cons e events ih => exact .cons (hstep start e) h.1 (ih h.2)

end Transition

end DqMadeEasy
