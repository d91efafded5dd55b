import DqMadeEasy.Text.Dividers

/-!
# The pieces of a text between white space

`str.split()` without an argument cuts a text at its white space and drops the empty pieces. It
cuts the two sides of a white-space character separately, and joining the pieces by single blanks
is what collapsing the white space leaves.
-/

namespace DqMadeEasy

namespace Text

/-- `str.split()`. -/
def split (t : Text) : List Text := (t.splitOnP isSpace).filter fun w => !w.isEmpty

def Solid (w : Text) : Prop := w ≠ [] ∧ ∀ c ∈ w, isSpace c = false

@[simp] theorem split_nil : split [] = [] := by
  simp [split, List.splitOnP_nil]

theorem split_append_space {c : Char} (hc : isSpace c = true) (a b : Text) :
    split (a ++ c :: b) = split a ++ split b := by
  rw [split, split, split, List.splitOnP_append_cons a b hc, List.filter_append]

theorem split_cons_space {c : Char} (hc : isSpace c = true) (t : Text) :
    split (c :: t) = split t := by
  simpa using split_append_space hc [] t

theorem split_solid {w : Text} (h : Solid w) : split w = [w] := by
  rw [split, List.splitOnP_eq_singleton fun c hc => by simp [h.2 c hc]]
  simp [h.1]

/-- A text is free of white space, or has a first white-space character. -/
theorem solid_or_space (t : Text) : t = [] ∨ Solid t ∨
    ∃ w c rest, t = w ++ c :: rest ∧ (∀ d ∈ w, isSpace d = false) ∧ isSpace c = true := by
  have hcut : (t.takeWhile fun c => !isSpace c) ++ (t.dropWhile fun c => !isSpace c) = t :=
    List.takeWhile_append_dropWhile
  have htake : ∀ d ∈ t.takeWhile fun c => !isSpace c, isSpace d = false :=
    fun d hd => by simpa using List.mem_takeWhile_imp hd
  cases hdrop : t.dropWhile fun c => !isSpace c with
  | nil =>
    rw [hdrop, List.append_nil] at hcut
    by_cases ht : t = []
    · exact .inl ht
    · exact .inr (.inl ⟨ht, hcut ▸ htake⟩)
  | cons c rest =>
    have hc := List.head?_dropWhile_not (fun c => !isSpace c) t
    rw [hdrop] at hc hcut
    exact .inr (.inr ⟨_, c, rest, hcut.symm, htake, by simpa using hc⟩)

theorem split_run {w x : Text} (hw : Solid w) (hx : ∀ c ∈ x.head?, isSpace c = true) :
    split (w ++ x) = w :: split x := by
  cases x with
  | nil => rw [List.append_nil, split_solid hw, split_nil]
  | cons c cs =>
    have hc := hx c rfl
    rw [split_append_space hc, split_cons_space hc, split_solid hw, List.singleton_append]

theorem solid_of_mem_split {t w : Text} (h : w ∈ split t) : Solid w := by
  induction hlen : t.length using Nat.strong_induction_on generalizing t with
  | _ n ih =>
    obtain rfl | hsolid | ⟨run, c, rest, rfl, hrun, hc⟩ := solid_or_space t
    · rw [split_nil] at h
      cases h
    · rw [split_solid hsolid, List.mem_singleton] at h
      exact h ▸ hsolid
    · rw [split_append_space hc] at h
      rcases List.mem_append.mp h with h | h
      · by_cases hne : run = []
        · rw [hne, split_nil] at h
          cases h
        · rw [split_solid ⟨hne, hrun⟩, List.mem_singleton] at h
          exact h ▸ ⟨hne, hrun⟩
      · refine ih rest.length ?_ h rfl
        rw [← hlen, List.length_append, List.length_cons]
        omega

theorem split_lstrip (t : Text) : split t.lstrip = split t := by
  induction t with
  | nil => rfl
  | cons c cs ih =>
    by_cases hc : isSpace c = true
    · rw [lstrip, List.dropWhile_cons, if_pos hc, split_cons_space hc]
      exact ih
    · rw [lstrip, List.dropWhile_cons, if_neg hc]

/-- Pieces joined by single blanks are cut apart again. -/
theorem split_join {ws : List Text} (h : ∀ w ∈ ws, Solid w) : split (join [' '] ws) = ws := by
  match ws with
  | [] => exact split_nil
  | [w] => exact split_solid (h w List.mem_cons_self)
  | w :: v :: ws =>
    have hrest : split (join [' '] (v :: ws)) = v :: ws :=
      split_join fun u hu => h u (List.mem_cons_of_mem _ hu)
    rw [join, List.append_assoc, List.singleton_append, split_append_space (by decide), hrest,
      split_solid (h w List.mem_cons_self), List.singleton_append]
    simp

def start (t : Text) : Option Bool := t.head?.map isSpace

/-- A character before two texts with the same pieces and the same start. -/
theorem split_cons_congr {c : Char} (hc : isSpace c = false) {x y : Text}
    (hsplit : split x = split y) (hstart : start x = start y) : split (c :: x) = split (c :: y) := by
  have hrun (t : Text) : ∃ w rest, t = w ++ rest ∧ (∀ d ∈ w, isSpace d = false) ∧
      (∀ d ∈ rest.head?, isSpace d = true) := by
    obtain rfl | hsolid | ⟨w, d, rest, rfl, hw, hd⟩ := solid_or_space t
    · exact ⟨[], [], rfl, by simp, by simp⟩
    · exact ⟨t, [], by simp, hsolid.2, by simp⟩
    · exact ⟨w, d :: rest, rfl, hw, by simpa using hd⟩
  obtain ⟨u, x, rfl, hu, hx⟩ := hrun x
  obtain ⟨v, y, rfl, hv, hy⟩ := hrun y
  have hcons (w rest : Text) (hw : ∀ d ∈ w, isSpace d = false)
      (hrest : ∀ d ∈ rest.head?, isSpace d = true) :
      split (c :: (w ++ rest)) = (c :: w) :: split rest :=
    split_run (w := c :: w) ⟨by simp, by simpa using ⟨hc, hw⟩⟩ hrest
  rw [hcons u x hu hx, hcons v y hv hy]
  cases u with
  | nil =>
    cases v with
    | nil => rw [List.nil_append, List.nil_append] at hsplit; rw [hsplit]
    | cons d ds =>
      -- the one text starts with white space or is empty, the other one does not
      rw [start, start, List.nil_append, List.cons_append, List.head?_cons, Option.map_some,
        hv d List.mem_cons_self] at hstart
      obtain ⟨e, he, hspace⟩ := Option.map_eq_some_iff.mp hstart
      rw [hx e he] at hspace
      cases hspace
  | cons d ds =>
    cases v with
    | nil =>
      rw [start, start, List.nil_append, List.cons_append, List.head?_cons, Option.map_some,
        hu d List.mem_cons_self] at hstart
      obtain ⟨e, he, hspace⟩ := Option.map_eq_some_iff.mp hstart.symm
      rw [hy e he] at hspace
      cases hspace
    | cons e es =>
      rw [split_run ⟨by simp, hu⟩ hx, split_run ⟨by simp, hv⟩ hy, List.cons.injEq] at hsplit
      rw [hsplit.1, hsplit.2]

end Text

namespace Scan

/-- A substitution that white space divides rewrites the pieces of a text one by one. -/
theorem StopsAt.split_sub {D : Char → Prop} {m : Matcher Text} (h : StopsAt D m)
    (hD : ∀ c, isSpace c = true → D c) (t : Text) :
    Text.split (sub m t) = (Text.split t).flatMap fun w => Text.split (sub m w) := by
  induction hlen : t.length using Nat.strong_induction_on generalizing t with
  | _ n ih =>
    obtain rfl | hsolid | ⟨run, c, rest, rfl, hrun, hc⟩ := Text.solid_or_space t
    · simp [sub, subFrom]
    · simp [Text.split_solid hsolid]
    · have hshort : rest.length < n := by
        rw [← hlen, List.length_append, List.length_cons]
        omega
      rw [h.sub_append (hD c hc), Text.split_append_space hc, Text.split_append_space hc,
        List.flatMap_append, ih rest.length hshort rest rfl]
      by_cases hne : run = []
      · simp [hne, sub, subFrom]
      · simp [Text.split_solid ⟨hne, hrun⟩]

/-! ### Padding -/

/-- A substitution that puts a text between two blanks. -/
structure Pads (m : Matcher Text) : Prop where
  consumes : ∀ {before t r rest}, m before t = some (r, rest) →
    ∃ c consumed, t = c :: consumed ++ rest
  pads : ∀ {before t r rest}, m before t = some (r, rest) →
    ∃ w, Text.Solid w ∧ r = ' ' :: w ++ [' ']

/-- The pattern matches nowhere in a text. -/
def Never {α : Type} (m : Matcher α) (before : Option Char) (t : Text) : Prop :=
  ∀ a b, t = a ++ b → b ≠ [] → m (if a = [] then before else a.getLast?) b = none

theorem never_cons {α : Type} {m : Matcher α} {before : Option Char} {c : Char} {cs : Text} :
    Never m before (c :: cs) ↔ m before (c :: cs) = none ∧ Never m (some c) cs := by
  constructor
  · intro h
    refine ⟨by simpa using h [] (c :: cs) rfl (by simp), fun a b hab hne => ?_⟩
    have hrest := h (c :: a) b (by rw [hab]; rfl) hne
    cases a <;> simpa using hrest
  · rintro ⟨hm, hcs⟩ a b hab hne
    cases a with
    | nil =>
      rw [List.nil_append] at hab
      rw [if_pos rfl, ← hab, hm]
    | cons d ds =>
      obtain ⟨rfl, hds⟩ := List.cons.inj hab
      have hrest := hcs ds b hds hne
      cases ds <;> simpa using hrest

variable {t w : Text}

/-- `re.search` fails exactly when the pattern matches nowhere. -/
theorem search_eq_false_iff {α : Type} {m : Matcher α} :
    search m t = false ↔ Never m none t := by
  have hfind (position : ℕ) (before : Option Char) (t : Text) :
      findFrom m 0 position before t = [] ↔ Never m before t := by
    induction t generalizing position before with
    | nil => exact ⟨fun _ a b hab hb => absurd (List.append_eq_nil_iff.mp hab.symm).2 hb, fun _ => rfl⟩
    | cons c cs ih =>
      rw [never_cons, findFrom]
      cases hm : m before (c :: cs) with
      | none => simpa using ih (position + 1) (some c)
      | some found => simp
  rw [search, Bool.not_eq_false', List.isEmpty_iff, find, hfind]

/-- A substitution leaves a text alone, or has a first match. -/
theorem Pads.first {m : Matcher Text} (h : Pads m) (before : Option Char) (t : Text) :
    Never m before t ∨ ∃ a b r rest last, t = a ++ b ∧
      m (if a = [] then before else a.getLast?) b = some (r, rest) ∧ (rest.length < b.length) ∧
      (∃ consumed, b = consumed ++ rest) ∧
      subFrom m 0 before t = a ++ r ++ subFrom m 0 last rest := by
  induction t generalizing before with
  | nil =>
    refine .inl fun a b hab hb => ?_
    exact absurd (List.append_eq_nil_iff.mp hab.symm).2 hb
  | cons c cs ih =>
    cases hm : m before (c :: cs) with
    | some found =>
      obtain ⟨r, rest⟩ := found
      obtain ⟨c', consumed, heq⟩ := h.consumes hm
      refine .inr ⟨[], c :: cs, r, rest, (c' :: consumed).getLast?, rfl, hm, ?_,
        ⟨c' :: consumed, heq⟩, ?_⟩
      · rw [heq, List.cons_append, List.length_cons, List.length_append]
        omega
      · rw [heq] at hm ⊢
        exact subFrom_match hm
    | none =>
      rcases ih (some c) with hnever | ⟨a, b, r, rest, last, rfl, hb, hlen, hconsumed, hsub⟩
      · exact .inl (never_cons.mpr ⟨hm, hnever⟩)
      · refine .inr ⟨c :: a, b, r, rest, last, rfl, ?_, hlen, hconsumed, ?_⟩
        · cases a <;> simpa using hb
        · rw [subFrom_none hm, hsub]
          rfl

theorem Never.sub_eq {m : Matcher Text} (h : Never m none t) : sub m t = t :=
  subFrom_eq_self h

/-- A run without white space leaves at least one piece. -/
theorem Pads.split_subFrom_ne_nil {m : Matcher Text} (h : Pads m) (before : Option Char)
    (ht : Text.Solid t) : Text.split (subFrom m 0 before t) ≠ [] := by
  intro hnil
  rcases h.first before t with hnever | ⟨a, b, r, rest, last, -, hm, -, -, hsub⟩
  · rw [subFrom_eq_self hnever, Text.split_solid ht] at hnil
    cases hnil
  · obtain ⟨w, hw, rfl⟩ := h.pads hm
    rw [hsub, List.append_assoc, List.cons_append, List.cons_append,
      Text.split_append_space (by decide), List.append_assoc, List.singleton_append,
      Text.split_append_space (by decide), Text.split_solid hw] at hnil
    simp at hnil

theorem length_le_flatMap {f : Text → List Text} {ws : List Text} (h : ∀ w ∈ ws, f w ≠ []) :
    ws.length ≤ (ws.flatMap f).length := by
  induction ws with
  | nil => simp
  | cons w ws ih =>
    have hw : 0 < (f w).length := List.length_pos_iff.mpr (h w List.mem_cons_self)
    have hws := ih fun v hv => h v (List.mem_cons_of_mem _ hv)
    rw [List.flatMap_cons, List.length_append, List.length_cons]
    omega

/-- Cutting every piece changes nothing exactly when no piece is changed. -/
theorem flatMap_eq_self_iff {f : Text → List Text} {ws : List Text} (h : ∀ w ∈ ws, f w ≠ []) :
    ws.flatMap f = ws ↔ ∀ w ∈ ws, f w = [w] := by
  induction ws with
  | nil => simp
  | cons w ws ih =>
    have hws : ∀ v ∈ ws, f v ≠ [] := fun v hv => h v (List.mem_cons_of_mem _ hv)
    rw [List.flatMap_cons, List.forall_mem_cons, ← ih hws]
    constructor
    · intro heq
      have hlen := congrArg List.length heq
      have hle := length_le_flatMap hws
      obtain ⟨v, vs, hv⟩ := List.exists_cons_of_ne_nil (h w List.mem_cons_self)
      rw [hv, List.cons_append] at heq
      rw [hv, List.cons_append, List.length_cons, List.length_append, List.length_cons] at hlen
      obtain rfl : vs = [] := List.length_eq_zero_iff.mp (by omega)
      obtain ⟨rfl, hrest⟩ := List.cons.inj heq
      exact ⟨hv, hrest⟩
    · rintro ⟨hw, hrest⟩
      rw [hw, hrest, List.singleton_append]

variable {D : Char → Prop} {m : Matcher Text}

/-- A substitution leaves a piece where there was one. -/
theorem Pads.split_ne_nil (h : Pads m) (hs : StopsAt D m) (hD : ∀ c, isSpace c = true → D c)
    (ht : Text.split t ≠ []) : Text.split (sub m t) ≠ [] := by
  obtain ⟨w, ws, hpieces⟩ := List.exists_cons_of_ne_nil ht
  have hw : Text.Solid w := Text.solid_of_mem_split (hpieces ▸ List.mem_cons_self)
  rw [hs.split_sub hD, hpieces, List.flatMap_cons]
  exact fun hnil => h.split_subFrom_ne_nil none hw (List.append_eq_nil_iff.mp hnil).1

/-! ### Matched texts and what stands between them -/

/-- The pieces of a text after a substitution are what stands between the matches, and the matched
texts. The first text is what was read since the last match. -/
theorem forall_mem_split_subFrom {P : Text → Option Char → Text → Prop} {Q : Text → Prop}
    (hnil : ∀ {read prev}, P read prev [] → Q read)
    (hnone : ∀ {read prev c cs}, P read prev (c :: cs) → m prev (c :: cs) = none →
      P (read ++ [c]) (some c) cs)
    (hsome : ∀ {read prev t r rest}, P read prev t → m prev t = some (r, rest) →
      ∃ c consumed w, t = c :: consumed ++ rest ∧ r = ' ' :: w ++ [' '] ∧ Text.Solid w ∧ Q read ∧
        Q w ∧ P [] (c :: consumed).getLast? rest)
    (read : Text) {t : Text} {prev : Option Char} (hsolid : ∀ c ∈ read ++ t, isSpace c = false)
    (h : P read prev t) : ∀ u ∈ Text.split (read ++ subFrom m 0 prev t), Q u := by
  induction hlen : t.length using Nat.strong_induction_on generalizing read prev t with
  | _ n ih =>
    have hread (hQ : Q read) : ∀ u ∈ Text.split read, Q u := by
      intro u hu
      by_cases hne : read = []
      · rw [hne, Text.split_nil] at hu
        cases hu
      · rw [Text.split_solid ⟨hne, fun c hc => hsolid c (List.mem_append_left _ hc)⟩,
          List.mem_singleton] at hu
        exact hu ▸ hQ
    cases t with
    | nil =>
      rw [subFrom, List.append_nil]
      exact hread (hnil h)
    | cons c cs =>
      cases hm : m prev (c :: cs) with
      | none =>
        rw [subFrom_none hm, ← List.singleton_append, ← List.append_assoc]
        exact ih cs.length (by simp [← hlen]) (read ++ [c]) (by simpa using hsolid) (hnone h hm) rfl
      | some found =>
        obtain ⟨r, rest⟩ := found
        obtain ⟨d, consumed, w, heq, rfl, hw, hQ, hQw, hrest⟩ := hsome h hm
        have hshort : rest.length < n := by
          rw [← hlen, heq, List.length_append, List.length_cons]
          omega
        have htail := ih rest.length hshort [] (fun e he => hsolid e (by
            rw [heq]
            simp only [List.nil_append] at he
            simp [he]))
          hrest rfl
        rw [heq] at hm ⊢
        intro u hu
        rw [subFrom_match hm, List.append_assoc, List.cons_append,
          Text.split_append_space (by decide), List.singleton_append,
          Text.split_append_space (by decide), Text.split_solid hw, List.mem_append,
          List.singleton_append, List.mem_cons] at hu
        rcases hu with hu | rfl | hu
        · exact hread hQ u hu
        · exact hQw
        · exact htail u hu

variable {a : Text}

/-- What was not matched in front of a text is not matched without it, where the two are divided. -/
theorem StopsAt.never_of_divided (h : StopsAt D m) (ht : t = [] ∨ ∀ d ∈ a.getLast?, D d)
    (hnone : ∀ x y, a = x ++ y → y ≠ [] →
      m (if x = [] then none else x.getLast?) (y ++ t) = none) : Never m none a := by
  intro x y hxy hy
  have hcut := hnone x y hxy hy
  rcases ht with rfl | hlast
  · rwa [List.append_nil] at hcut
  · obtain ⟨y, d, rfl⟩ := (List.eq_nil_or_concat' y).resolve_left hy
    have hd := hlast d (by simp [hxy])
    rw [List.append_assoc, List.singleton_append, h.split hd, Option.map_eq_none_iff] at hcut
    rw [h.split hd, hcut, Option.map_none]

/-- What is matched nowhere in a text is not matched behind a divided part of it. -/
theorem StopsAt.never_of_append (h : StopsAt D m) (ht : ∀ d ∈ t.head?, D d)
    (hnever : Never m none (a ++ t)) : Never m none t := by
  intro x y hxy hy
  have hcut := hnever (a ++ x) y (by rw [hxy, List.append_assoc]) hy
  cases x with
  | nil =>
    obtain ⟨d, y, rfl⟩ := List.exists_cons_of_ne_nil hy
    exact h.none_at (ht d (by rw [hxy]; rfl)) _ y
  | cons c cs =>
    rw [if_neg (by simp), List.getLast?_append_of_ne_nil _ (by simp)] at hcut
    rwa [if_neg (by simp)]

end Scan

end DqMadeEasy
