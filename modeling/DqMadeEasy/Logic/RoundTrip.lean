import DqMadeEasy.Logic.Fallible

/-!
# Round trips

An encoding may refuse a value. Its round trip keeps a value when the encoding accepts it and the
decoding gives it back. Where the decoding of a code is a normal form of the encoded value, the kept
values are the accepted ones in normal form.
-/

namespace DqMadeEasy

namespace RoundTrip

universe u v

variable {ε : Type v} {α β : Type u} {encode : α → Except ε β} {decode : β → α} {normal : α → α}

/-- The encoding accepts the value, and the decoding of its code is the value. -/
def Keeps (encode : α → Except ε β) (decode : β → α) (a : α) : Prop :=
  ∃ b, encode a = .ok b ∧ decode b = a

/-- The decoding of a code is a normal form of the encoded value. -/
def Normalizes (encode : α → Except ε β) (decode : β → α) (normal : α → α) : Prop :=
  ∀ a b, encode a = .ok b → decode b = normal a

theorem Normalizes.keeps_encoded_iff (h : Normalizes encode decode normal) {a : α} :
    Keeps encode decode a ↔ (∃ b, encode a = .ok b) ∧ normal a = a := by
  constructor
  · rintro ⟨b, hb, hdecode⟩
    exact ⟨⟨b, hb⟩, (h a b hb).symm.trans hdecode⟩
  · rintro ⟨⟨b, hb⟩, hnormal⟩
    exact ⟨b, hb, (h a b hb).trans hnormal⟩

/-- The round trip of a list keeps it when it keeps each item. -/
theorem keeps_mapM_iff {xs : List α} :
    Keeps (List.mapM encode) (List.map decode) xs ↔ ∀ x ∈ xs, Keeps encode decode x := by
  constructor
  · rintro ⟨ys, hys, hdecode⟩
    have hresults := mapM_ok hys
    have hback : List.Forall₂ (fun y x => decode y = x) ys xs := by
      rw [← List.forall₂_map_left_iff (R := fun a b => a = b), hdecode]
      exact List.forall₂_eq_eq_eq ▸ rfl
    intro x hx
    obtain ⟨i, hi, rfl⟩ := List.mem_iff_getElem.mp hx
    have hlength : i < ys.length := hresults.length_eq ▸ hi
    exact ⟨ys[i], (List.forall₂_iff_get.mp hresults).2 i hi hlength,
      (List.forall₂_iff_get.mp hback).2 i hlength hi⟩
  · intro h
    have hall : List.Forall₂ (fun x z => (encode x).map decode = .ok z) xs xs :=
      List.forall₂_same.mpr fun x hx => by
        obtain ⟨y, hy, hdecode⟩ := h x hx
        rw [hy, ← hdecode]
        rfl
    exact exists_mapM_map hall

/-- The round trip of an optional value keeps it when it keeps the value that is there. -/
theorem keeps_optionMapM_iff {o : Option α} :
    Keeps (Option.mapM encode) (Option.map decode) o ↔ ∀ x ∈ o, Keeps encode decode x := by
  cases o with
  | none => exact iff_of_true ⟨none, rfl, rfl⟩ (by simp)
  | some x =>
    constructor
    · rintro ⟨y, hy, hdecode⟩ _ ⟨⟩
      obtain ⟨code, hcode, rfl⟩ := ok_of_map (g := some) (show (encode x).map some = .ok y from hy)
      exact ⟨code, hcode, Option.some.inj hdecode⟩
    · intro h
      obtain ⟨y, hy, hdecode⟩ := h x rfl
      refine ⟨some y, ?_, congrArg some hdecode⟩
      show (encode x).map some = .ok (some y)
      rw [hy]
      rfl

end RoundTrip

end DqMadeEasy
