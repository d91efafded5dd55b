import DqMadeEasy.Text.Python

/-!
# Scanning for patterns

`re.sub`, `re.search` and `re.finditer` move through a text from left to right, try a pattern at
every position, and continue after a match. A pattern is given by its matcher: from the
character before a position and the text at the position to a result and the text after the
match. The three scans are structural recursions; a counter skips the characters that a match
has consumed.
-/

namespace DqMadeEasy

namespace Scan

/-- A pattern: the previous character, the text at a position, and the text after a match. -/
abbrev Matcher (α : Type) := Option Char → Text → Option (α × Text)

/-- `re.sub`, the matcher giving the replacement. -/
def subFrom (m : Matcher Text) : ℕ → Option Char → Text → Text
  | _, _, [] => []
  | skip + 1, _, c :: cs => subFrom m skip (some c) cs
  | 0, prev, c :: cs =>
    match m prev (c :: cs) with
    | some (replacement, rest) => replacement ++ subFrom m (cs.length - rest.length) (some c) cs
    | none => c :: subFrom m 0 (some c) cs

def sub (m : Matcher Text) (t : Text) : Text := subFrom m 0 none t

/-- `re.finditer`, with the position of every match. -/
def findFrom {α : Type} (m : Matcher α) : ℕ → ℕ → Option Char → Text → List (ℕ × α)
  | _, _, _, [] => []
  | skip + 1, position, _, c :: cs => findFrom m skip (position + 1) (some c) cs
  | 0, position, prev, c :: cs =>
    match m prev (c :: cs) with
    | some (found, rest) =>
      (position, found) :: findFrom m (cs.length - rest.length) (position + 1) (some c) cs
    | none => findFrom m 0 (position + 1) (some c) cs

/-- `re.finditer`. -/
def find {α : Type} (m : Matcher α) (t : Text) : List (ℕ × α) := findFrom m 0 0 none t

/-- Whether `re.search` finds a match. -/
def search {α : Type} (m : Matcher α) (t : Text) : Bool := !(find m t).isEmpty

theorem subFrom_skip (m : Matcher Text) (consumed rest : Text) (prev : Option Char) :
    subFrom m consumed.length prev (consumed ++ rest) =
      subFrom m 0 (if consumed = [] then prev else consumed.getLast?) rest := by
  induction consumed generalizing prev with
  | nil => rfl
  | cons c cs ih =>
    rw [List.length_cons, List.cons_append, subFrom, ih]
    cases cs <;> simp

/-- One step of `re.sub` where the pattern matches. -/
theorem subFrom_match {m : Matcher Text} {prev : Option Char} {c : Char}
    {consumed rest replacement : Text}
    (h : m prev (c :: consumed ++ rest) = some (replacement, rest)) :
    subFrom m 0 prev (c :: consumed ++ rest) =
      replacement ++ subFrom m 0 ((c :: consumed).getLast?) rest := by
  rw [List.cons_append] at h ⊢
  have hlen : (consumed ++ rest).length - rest.length = consumed.length := by simp
  rw [subFrom, h]
  simp only [hlen, subFrom_skip]
  cases consumed <;> simp

/-- One step of `re.sub` where the pattern does not match. -/
theorem subFrom_none {m : Matcher Text} {prev : Option Char} {c : Char} {cs : Text}
    (h : m prev (c :: cs) = none) :
    subFrom m 0 prev (c :: cs) = c :: subFrom m 0 (some c) cs := by
  rw [subFrom, h]

/-- Text in which the pattern matches nowhere is left alone. -/
theorem subFrom_eq_self {m : Matcher Text} :
    ∀ {t : Text} {prev : Option Char},
      (∀ before after, t = before ++ after → after ≠ [] →
        m (if before = [] then prev else before.getLast?) after = none) →
      subFrom m 0 prev t = t := by
  intro t
  induction t with
  | nil => intros; rfl
  | cons c cs ih =>
    intro prev h
    rw [subFrom_none (by simpa using h [] (c :: cs) rfl (by simp))]
    congr 1
    refine ih fun before after hsplit hne => ?_
    have := h (c :: before) after (by simp [hsplit]) hne
    cases before <;> simpa using this

/-! ### What a scan finds -/

section Found

variable {α : Type} {m : Matcher α}

/-- The results of `re.finditer` from a position on, without their positions. -/
def found (m : Matcher α) (prev : Option Char) (t : Text) : List α :=
  (findFrom m 0 0 prev t).map Prod.snd

theorem map_snd_findFrom (skip position : ℕ) (prev : Option Char) (t : Text) :
    (findFrom m skip position prev t).map Prod.snd =
      (findFrom m skip 0 prev t).map Prod.snd := by
  induction t generalizing skip position prev with
  | nil => cases skip <;> rfl
  | cons c cs ih =>
    cases skip with
    | succ skip => rw [findFrom, findFrom, ih skip (position + 1), ih skip (0 + 1)]
    | zero =>
      rw [findFrom, findFrom]
      cases m prev (c :: cs) with
      | none => simp only [ih 0 (position + 1), ih 0 (0 + 1)]
      | some result =>
        simp only [List.map_cons, ih _ (position + 1), ih _ (0 + 1)]

theorem findFrom_skip (consumed rest : Text) (position : ℕ) (prev : Option Char) :
    (findFrom m consumed.length position prev (consumed ++ rest)).map Prod.snd =
      found m (if consumed = [] then prev else consumed.getLast?) rest := by
  induction consumed generalizing position prev with
  | nil => exact map_snd_findFrom 0 position prev rest
  | cons c cs ih =>
    rw [List.length_cons, List.cons_append, findFrom, ih]
    cases cs <;> simp

theorem found_nil (prev : Option Char) : found m prev [] = [] := rfl

/-- One step of the scan where the pattern does not match. -/
theorem found_none {prev : Option Char} {c : Char} {cs : Text} (h : m prev (c :: cs) = none) :
    found m prev (c :: cs) = found m (some c) cs := by
  rw [found, findFrom, h]
  exact map_snd_findFrom 0 1 (some c) cs

theorem found_match {prev : Option Char} {c : Char} {consumed rest : Text} {result : α}
    (h : m prev (c :: consumed ++ rest) = some (result, rest)) :
    found m prev (c :: consumed ++ rest) =
      result :: found m ((c :: consumed).getLast?) rest := by
  rw [List.cons_append] at h ⊢
  have hlen : (consumed ++ rest).length - rest.length = consumed.length := by simp
  rw [found, findFrom, h]
  simp only [hlen, List.map_cons, findFrom_skip]
  cases consumed <;> simp

end Found

end Scan

section Words

variable [PyRuntime]

namespace Scan

/-- The assertion `\b` between the previous character and a text. -/
def boundary (prev : Option Char) (t : Text) : Bool :=
  prev.any Text.isWord != t.head?.any Text.isWord

/-- `\bWORD\b` under `re.IGNORECASE`, for an upper-case word. -/
def word (w : Text) (prev : Option Char) (t : Text) : Option (Unit × Text) :=
  if boundary prev t then
    match Text.dropWord w t with
    | some rest => if boundary w.getLast? rest then some ((), rest) else none
    | none => none
  else none

end Scan

end Words

end DqMadeEasy
