import Mathlib.Logic.Function.Basic
import Mathlib.Data.List.Chain

/-!
# Journals

A store that keeps one value for each key and writes down, for each change, where the value came
from and where it went. The entries of a key are then a chain: the first one starts from nothing,
each goes on from where the one before it led, and the last one leads to the value that is there.
-/

namespace DqMadeEasy

namespace Journal

variable {κ ν ρ : Type*}

/-- How the entries of a journal are read: the key of an entry, what it says the value was, and what
it says the value became. A value may be written down as a blank. -/
structure Reading (κ ν ρ : Type*) where
  key : ρ → κ
  source : ρ → Option ν
  target : ρ → ν
  shown : ν → Option ν

variable (reading : Reading κ ν ρ)

/-- The entries lead from nothing to a value, step by step. -/
structure LeadsTo (entries : List ρ) (value : Option ν) : Prop where
  starts : ∀ entry ∈ entries.head?, reading.source entry = none
  goesOn : entries.IsChain fun entry next =>
    reading.source next = reading.shown (reading.target entry)
  ends : entries.getLast?.map reading.target = value

/-- What a store shows of itself: its values and its journal. -/
structure View (κ ν ρ : Type*) where
  value : κ → Option ν
  entries : List ρ

variable [DecidableEq κ]

def View.entriesOf (view : View κ ν ρ) (key : κ) : List ρ :=
  view.entries.filter fun entry => reading.key entry = key

def Faithful (view : View κ ν ρ) : Prop :=
  ∀ key, LeadsTo reading (view.entriesOf reading key) (view.value key)

/-- A step writes down the change that it makes, or makes none. -/
inductive Writes (view view' : View κ ν ρ) : Prop
  | same : view'.value = view.value → view'.entries = view.entries → Writes view view'
  | change (entry : ρ) : view'.entries = view.entries ++ [entry] →
      reading.source entry = (view.value (reading.key entry)).bind reading.shown →
      view'.value = Function.update view.value (reading.key entry) (some (reading.target entry)) →
      Writes view view'

variable {reading} {view view' : View κ ν ρ}

omit [DecidableEq κ] in
theorem LeadsTo.nil : LeadsTo reading [] none := ⟨nofun, .nil, rfl⟩

omit [DecidableEq κ] in
/-- A change from the value that is there goes on with the chain. -/
theorem LeadsTo.append {entries : List ρ} {value : Option ν} {entry : ρ}
    (h : LeadsTo reading entries value)
    (hsource : reading.source entry = value.bind reading.shown) :
    LeadsTo reading (entries ++ [entry]) (some (reading.target entry)) := by
  have hends := h.ends
  refine ⟨?_, ?_, ?_⟩
  · cases entries with
    | nil =>
      rintro _ ⟨⟩
      rw [hsource, ← hends]
      rfl
    | cons first rest => exact h.starts
  · refine h.goesOn.append (.singleton entry) ?_
    rintro last hlast _ ⟨⟩
    have hlast : entries.getLast? = some last := hlast
    rw [hsource, ← hends, hlast]
    rfl
  · rw [List.getLast?_concat]
    rfl

/-- A step that writes down its change keeps the journal faithful. -/
theorem Writes.faithful (h : Writes reading view view') (hfaithful : Faithful reading view) :
    Faithful reading view' := by
  intro key
  cases h with
  | same hvalue hentries =>
    rw [View.entriesOf, hvalue, hentries]
    exact hfaithful key
  | change entry hentries hsource hvalue =>
    rw [View.entriesOf, hentries, hvalue, List.filter_append]
    by_cases hkey : reading.key entry = key
    · subst hkey
      rw [List.filter_cons_of_pos (by simp), List.filter_nil, Function.update_self]
      exact (hfaithful _).append hsource
    · rw [List.filter_cons_of_neg (by simpa using hkey), List.filter_nil, List.append_nil,
        Function.update_of_ne (Ne.symm hkey)]
      exact hfaithful key

end Journal

end DqMadeEasy
