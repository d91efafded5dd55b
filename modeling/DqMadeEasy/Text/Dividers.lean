import DqMadeEasy.Text.Scan

/-!
# Substitutions and dividing characters

A character that a pattern neither consumes nor looks past divides a substitution: the text
before it and the text after it are rewritten separately.
-/

namespace DqMadeEasy

namespace Text

/-- A property of the characters of a text is decided along the text, not over all characters. -/
instance (priority := 2000) decidableForallMem (p : Char → Prop) [DecidablePred p] (t : Text) :
    Decidable (∀ c ∈ t, p c) := List.decidableBAll p t

instance (priority := 2000) decidableExistsMem (p : Char → Prop) [DecidablePred p] (t : Text) :
    Decidable (∃ c ∈ t, p c) := List.decidableBEx p t

end Text

theorem takeWhile_append_stop {p : Char → Bool} {c : Char} (hc : p c = false) (cs tail : Text) :
    (cs ++ c :: tail).takeWhile p = cs.takeWhile p := by
  induction cs with
  | nil => simp [hc]
  | cons d ds ih =>
    rw [List.cons_append, List.takeWhile_cons, List.takeWhile_cons, ih]

theorem dropWhile_append_stop {p : Char → Bool} {c : Char} (hc : p c = false) (cs tail : Text) :
    (cs ++ c :: tail).dropWhile p = cs.dropWhile p ++ c :: tail := by
  induction cs with
  | nil => simp [hc]
  | cons d ds ih =>
    rw [List.cons_append, List.dropWhile_cons, List.dropWhile_cons, ih]
    split <;> rfl

namespace Scan

/-- A pattern that every character of a class stops: no match contains such a character, or
depends on what stands on the other side of one. -/
structure StopsAt (D : Char → Prop) (m : Matcher Text) : Prop where
  nil : ∀ before, m before [] = none
  consumes : ∀ {before t replacement rest}, m before t = some (replacement, rest) →
    ∃ c consumed, t = c :: consumed ++ rest
  split : ∀ {d}, D d → ∀ before a b, m before (a ++ d :: b) =
    (m before a).map fun (replacement, rest) => (replacement, rest ++ d :: b)
  fresh : ∀ {d}, D d → ∀ t, m (some d) t = m none t

namespace StopsAt

variable {D : Char → Prop} {m : Matcher Text}

theorem mono {D' : Char → Prop} (h : StopsAt D m) (hD : ∀ c, D' c → D c) : StopsAt D' m where
  nil := h.nil
  consumes := h.consumes
  split hd := h.split (hD _ hd)
  fresh hd := h.fresh (hD _ hd)

/-- After a dividing character a scan starts afresh. -/
theorem subFrom_fresh (h : StopsAt D m) {d : Char} (hd : D d) (t : Text) :
    subFrom m 0 (some d) t = sub m t := by
  cases t with
  | nil => rfl
  | cons c cs =>
    rw [sub, subFrom, subFrom, h.fresh hd]

/-- No match starts at a dividing character. -/
theorem none_at (h : StopsAt D m) {d : Char} (hd : D d) (before : Option Char) (t : Text) :
    m before (d :: t) = none := by
  simpa [h.nil] using h.split hd before [] t

theorem subFrom_cons (h : StopsAt D m) {d : Char} (hd : D d) (before : Option Char) (t : Text) :
    subFrom m 0 before (d :: t) = d :: sub m t := by
  rw [subFrom_none (h.none_at hd before t), h.subFrom_fresh hd]

/-- A substitution rewrites the two sides of a dividing character separately. -/
theorem subFrom_append (h : StopsAt D m) {d : Char} (hd : D d) (before : Option Char)
    (a b : Text) :
    subFrom m 0 before (a ++ d :: b) = subFrom m 0 before a ++ d :: sub m b := by
  induction hlen : a.length using Nat.strong_induction_on generalizing a before with
  | _ n ih =>
    cases a with
    | nil => exact h.subFrom_cons hd before b
    | cons c cs =>
      have hsplit := h.split hd before (c :: cs) b
      cases hm : m before (c :: cs) with
      | none =>
        rw [hm, List.cons_append] at hsplit
        rw [List.cons_append, subFrom_none hsplit, subFrom_none hm,
          ih cs.length (by simp [← hlen]) _ cs rfl, List.cons_append]
      | some found =>
        obtain ⟨replacement, rest⟩ := found
        obtain ⟨c', consumed, heq⟩ := h.consumes hm
        have hshort : rest.length < n := by
          rw [← hlen, heq]
          simp only [List.cons_append, List.length_cons, List.length_append]
          omega
        rw [hm] at hsplit
        rw [heq] at hsplit hm ⊢
        rw [List.append_assoc] at hsplit ⊢
        rw [subFrom_match hm, subFrom_match hsplit, ih rest.length hshort _ rest rfl,
          List.append_assoc]

theorem sub_append (h : StopsAt D m) {d : Char} (hd : D d) (a b : Text) :
    sub m (a ++ d :: b) = sub m a ++ d :: sub m b :=
  h.subFrom_append hd none a b

theorem sub_cons (h : StopsAt D m) {d : Char} (hd : D d) (t : Text) :
    sub m (d :: t) = d :: sub m t :=
  h.subFrom_cons hd none t

@[simp] theorem sub_nil (m : Matcher Text) : sub m [] = [] := rfl

end StopsAt

end Scan

end DqMadeEasy
