import Mathlib.Data.Int.Notation
import Mathlib.Data.List.Infix

/-!
# Collecting from a list up to a limit

A loop that examines one item after the other, keeps what it finds, and stops at a limit or at the
first item that cannot be examined.
-/

namespace DqMadeEasy

namespace Collect

variable {α β ε : Type}

/-- Whether so many results are enough. -/
def enough : Option ℤ → ℕ → Bool
  | none, _ => false
  | some limit, taken => decide (limit ≤ taken)

/-- The loop, with the number of the results before. -/
def collect (examine : α → Except ε (Option β)) (limit : Option ℤ) :
    ℕ → List α → Except ε (List β)
  | _, [] => .ok []
  | taken, x :: xs =>
    match examine x with
    | .error e => .error e
    | .ok none => collect examine limit taken xs
    | .ok (some y) =>
      if enough limit (taken + 1) then .ok [y]
      else (collect examine limit (taken + 1) xs).map (y :: ·)

variable {examine examine' : α → Except ε (Option β)} {limit : Option ℤ} {taken : ℕ} {x : α}
  {xs : List α} {y : β} {ys ys' : List β}

theorem collect_nil (examine : α → Except ε (Option β)) (limit : Option ℤ) (taken : ℕ) :
    collect examine limit taken [] = .ok [] := rfl

theorem collect_cons (examine : α → Except ε (Option β)) (limit : Option ℤ) (taken : ℕ) (x : α)
    (xs : List α) :
    collect examine limit taken (x :: xs) =
      match examine x with
      | .error e => .error e
      | .ok none => collect examine limit taken xs
      | .ok (some y) =>
        if enough limit (taken + 1) then .ok [y]
        else (collect examine limit (taken + 1) xs).map (y :: ·) := rfl

/-- What a loop that finds something first returns. -/
theorem collect_found (hx : examine x = .ok (some y)) :
    collect examine limit taken (x :: xs) =
      if enough limit (taken + 1) then .ok [y]
      else (collect examine limit (taken + 1) xs).map (y :: ·) := by
  rw [collect_cons, hx]

theorem collect_skipped (hx : examine x = .ok none) :
    collect examine limit taken (x :: xs) = collect examine limit taken xs := by
  rw [collect_cons, hx]

/-- A loop that ends examined its first item, and goes on unless that is enough. -/
theorem collect_cons_cases (h : collect examine limit taken (x :: xs) = .ok ys) :
    (examine x = .ok none ∧ collect examine limit taken xs = .ok ys) ∨
    (∃ y, examine x = .ok (some y) ∧ enough limit (taken + 1) = true ∧ ys = [y]) ∨
    (∃ y ys', examine x = .ok (some y) ∧ enough limit (taken + 1) = false ∧
      collect examine limit (taken + 1) xs = .ok ys' ∧ ys = y :: ys') := by
  cases hx : examine x with
  | error e => simp [collect_cons, hx] at h
  | ok found =>
    cases found with
    | none => exact .inl ⟨rfl, by rwa [collect_skipped hx] at h⟩
    | some y =>
      rw [collect_found hx] at h
      cases henough : enough limit (taken + 1) with
      | true =>
        rw [henough, if_pos rfl] at h
        exact .inr (.inl ⟨y, rfl, rfl, (Except.ok.inj h).symm⟩)
      | false =>
        rw [henough, if_neg Bool.false_ne_true] at h
        cases hrest : collect examine limit (taken + 1) xs with
        | error e => simp [hrest, Except.map] at h
        | ok rest =>
          rw [hrest] at h
          exact .inr (.inr ⟨y, rest, rfl, rfl, rfl, (Except.ok.inj h).symm⟩)

/-- What is kept was found in items that have a property, in their order. -/
theorem collect_sublist {γ : Type} {p : α → Bool} {f : β → γ} {g : α → γ}
    (hfound : ∀ x ∈ xs, ∀ y, examine x = .ok (some y) → p x = true ∧ f y = g x)
    (h : collect examine limit taken xs = .ok ys) :
    (ys.map f).Sublist ((xs.filter p).map g) := by
  induction xs generalizing taken ys with
  | nil =>
    rw [collect_nil] at h
    rw [← Except.ok.inj h]
    exact List.Sublist.slnil
  | cons x xs ih =>
    have hrest : ∀ x ∈ xs, ∀ y, examine x = .ok (some y) → p x = true ∧ f y = g x :=
      fun x hx => hfound x (List.mem_cons_of_mem _ hx)
    rcases collect_cons_cases h with ⟨-, hxs⟩ | ⟨y, hx, -, rfl⟩ | ⟨y, ys', hx, -, hxs, rfl⟩
    · refine (ih hrest hxs).trans (List.Sublist.map _ ?_)
      exact (List.sublist_cons_self x xs).filter p
    · obtain ⟨hp, hf⟩ := hfound x List.mem_cons_self y hx
      rw [List.filter_cons_of_pos hp, List.map_cons, List.map_cons, hf]
      exact (List.nil_sublist _).cons_cons _
    · obtain ⟨hp, hf⟩ := hfound x List.mem_cons_self y hx
      rw [List.filter_cons_of_pos hp, List.map_cons, List.map_cons, hf]
      exact (ih hrest hxs).cons_cons _

/-- Everything that is kept was found in an item. -/
theorem exists_of_mem_collect (h : collect examine limit taken xs = .ok ys) (hy : y ∈ ys) :
    ∃ x ∈ xs, examine x = .ok (some y) := by
  induction xs generalizing taken ys with
  | nil =>
    rw [collect_nil] at h
    rw [← Except.ok.inj h] at hy
    exact absurd hy List.not_mem_nil
  | cons x xs ih =>
    rcases collect_cons_cases h with ⟨-, hxs⟩ | ⟨y', hx, -, rfl⟩ | ⟨y', ys', hx, -, hxs, rfl⟩
    · obtain ⟨x', hx', hfound⟩ := ih hxs hy
      exact ⟨x', List.mem_cons_of_mem _ hx', hfound⟩
    · exact ⟨x, List.mem_cons_self, (List.mem_singleton.mp hy) ▸ hx⟩
    · rcases List.mem_cons.mp hy with rfl | hy
      · exact ⟨x, List.mem_cons_self, hx⟩
      · obtain ⟨x', hx', hfound⟩ := ih hxs hy
        exact ⟨x', List.mem_cons_of_mem _ hx', hfound⟩

/-- Without a limit, a loop that examines every item keeps what it finds. -/
theorem collect_eq_filterMap {f : α → Option β} (h : ∀ x ∈ xs, examine x = .ok (f x)) :
    collect examine none taken xs = .ok (xs.filterMap f) := by
  induction xs generalizing taken with
  | nil => rfl
  | cons x xs ih =>
    have hrest : ∀ taken, collect examine none taken xs = .ok (xs.filterMap f) :=
      fun _ => ih fun x hx => h x (List.mem_cons_of_mem _ hx)
    have hx := h x List.mem_cons_self
    cases hfound : f x with
    | none => rw [collect_skipped (hx.trans (by rw [hfound])), hrest, List.filterMap_cons_none hfound]
    | some y =>
      rw [collect_found (hx.trans (by rw [hfound])), hrest, List.filterMap_cons_some hfound]
      rfl

/-- Without a limit, a loop over items that stand for others keeps what stands for those that pass
a filter. -/
theorem collect_forall₂ {γ : Type} {cs : List γ} {R : γ → α → Prop} {S : γ → β → Prop}
    {p : γ → Bool} (hpass : ∀ c x, R c x → p c = true → ∃ y, examine x = .ok (some y) ∧ S c y)
    (hskip : ∀ c x, R c x → p c = false → examine x = .ok none) (h : List.Forall₂ R cs xs) :
    ∃ ys, collect examine none taken xs = .ok ys ∧ List.Forall₂ S (cs.filter p) ys := by
  induction h generalizing taken with
  | nil => exact ⟨[], rfl, .nil⟩
  | @cons c x cs xs hR _ ih =>
    cases hp : p c with
    | false =>
      obtain ⟨ys, hys, hS⟩ := @ih taken
      refine ⟨ys, ?_, ?_⟩
      · rw [collect_skipped (hskip c x hR hp), hys]
      · rwa [List.filter_cons_of_neg (by simp [hp])]
    | true =>
      obtain ⟨y, hy, hSy⟩ := hpass c x hR hp
      obtain ⟨ys, hys, hS⟩ := @ih (taken + 1)
      refine ⟨y :: ys, ?_, ?_⟩
      · rw [collect_found hy, hys]
        rfl
      · rw [List.filter_cons_of_pos hp]
        exact .cons hSy hS

/-- Without a limit, a loop that finds less keeps less. -/
theorem collect_mono (hfound : ∀ x ∈ xs, ∀ y found, examine x = .ok (some y) →
      examine' x = .ok found → found = some y) {taken' : ℕ} (h : collect examine none taken xs = .ok ys)
    (h' : collect examine' none taken' xs = .ok ys') : ys.Sublist ys' := by
  induction xs generalizing taken taken' ys ys' with
  | nil =>
    rw [collect_nil] at h
    rw [← Except.ok.inj h]
    exact List.nil_sublist _
  | cons x xs ih =>
    have hrest : ∀ x ∈ xs, ∀ y found, examine x = .ok (some y) → examine' x = .ok found →
        found = some y := fun x hx => hfound x (List.mem_cons_of_mem _ hx)
    rcases collect_cons_cases h with ⟨-, hxs⟩ | ⟨_, _, henough, _⟩ | ⟨y, rest, hx, -, hxs, rfl⟩
    · rcases collect_cons_cases h' with ⟨-, hxs'⟩ | ⟨_, _, henough, _⟩ |
        ⟨y', rest', -, -, hxs', rfl⟩
      · exact ih hrest hxs hxs'
      · exact absurd henough Bool.false_ne_true
      · exact (ih hrest hxs hxs').cons _
    · exact absurd henough Bool.false_ne_true
    · rcases collect_cons_cases h' with ⟨hnone, -⟩ | ⟨_, _, henough, _⟩ |
        ⟨y', rest', hy', -, hxs', rfl⟩
      · cases hfound x List.mem_cons_self y none hx hnone
      · exact absurd henough Bool.false_ne_true
      · cases hfound x List.mem_cons_self y (some y') hx hy'
        exact (ih hrest hxs hxs').cons_cons _

/-- The items before the first one that cannot be examined. -/
def reached (examine : α → Except ε (Option β)) (xs : List α) : List α :=
  xs.takeWhile fun x => (examine x).isOk

theorem reached_cons_ok {found : Option β} (hx : examine x = .ok found) :
    reached examine (x :: xs) = x :: reached examine xs :=
  List.takeWhile_cons_of_pos (by simp [hx, Except.isOk, Except.toBool])

theorem reached_cons_error {e : ε} (hx : examine x = .error e) :
    reached examine (x :: xs) = [] :=
  List.takeWhile_cons_of_neg (by simp [hx, Except.isOk, Except.toBool])

theorem reached_sublist (examine : α → Except ε (Option β)) (xs : List α) :
    (reached examine xs).Sublist xs := (List.takeWhile_prefix _).sublist

/-- A loop that ends does not get to an item that cannot be examined. -/
theorem collect_reached (h : collect examine limit taken xs = .ok ys) :
    collect examine limit taken (reached examine xs) = .ok ys := by
  induction xs generalizing taken ys with
  | nil => exact h
  | cons x xs ih =>
    rcases collect_cons_cases h with ⟨hx, hxs⟩ | ⟨y, hx, henough, rfl⟩ |
      ⟨y, ys', hx, henough, hxs, rfl⟩
    · rw [reached_cons_ok hx, collect_skipped hx, ih hxs]
    · rw [reached_cons_ok hx, collect_found hx, if_pos henough]
    · rw [reached_cons_ok hx, collect_found hx, henough, if_neg Bool.false_ne_true, ih hxs]
      rfl

/-- Without a limit, a loop that ends examines all items. -/
theorem reached_of_collect (h : collect examine none taken xs = .ok ys) :
    reached examine xs = xs := by
  induction xs generalizing taken ys with
  | nil => rfl
  | cons x xs ih =>
    rcases collect_cons_cases h with ⟨hx, hxs⟩ | ⟨y, hx, henough, rfl⟩ | ⟨y, ys', hx, -, hxs, rfl⟩
    · rw [reached_cons_ok hx, ih hxs]
    · exact absurd henough Bool.false_ne_true
    · rw [reached_cons_ok hx, ih hxs]

/-- What is found before an item that cannot be examined is kept at a limit. -/
theorem exists_collect_of_reached (hx : x ∈ reached examine xs)
    (hfound : examine x = .ok (some y)) (taken : ℕ) :
    ∃ limit ys, collect examine (some limit) taken xs = .ok ys ∧ (taken : ℤ) < limit ∧ y ∈ ys := by
  induction xs generalizing taken with
  | nil => exact absurd hx List.not_mem_nil
  | cons x' xs ih =>
    cases hexamine : examine x' with
    | error e =>
      rw [reached_cons_error hexamine] at hx
      exact absurd hx List.not_mem_nil
    | ok found =>
      rw [reached_cons_ok hexamine] at hx
      cases found with
      | none =>
        rcases List.mem_cons.mp hx with rfl | hx
        · cases hexamine.symm.trans hfound
        · obtain ⟨limit, ys, h, hlt, hy⟩ := ih hx taken
          exact ⟨limit, ys, by rw [collect_skipped hexamine, h], hlt, hy⟩
      | some y' =>
        rcases List.mem_cons.mp hx with rfl | hx
        · cases hexamine.symm.trans hfound
          refine ⟨taken + 1, [y], ?_, by omega, List.mem_singleton_self y⟩
          rw [collect_found hexamine, if_pos]
          simp [enough]
        · obtain ⟨limit, ys, h, hlt, hy⟩ := ih hx (taken + 1)
          refine ⟨limit, y' :: ys, ?_, by omega, List.mem_cons_of_mem _ hy⟩
          rw [collect_found hexamine, if_neg, h]
          · rfl
          · simp only [enough, decide_eq_true_eq]
            omega

/-- Loops without a limit that read their items alike, whatever they keep of them, all fail with the
first item that cannot be read, or every item can be read. -/
theorem collect_read {δ σ : Type} {read : α → Except ε δ} (keep : σ → α → δ → Option β)
    (xs : List α) :
    (∃ e, ∀ s taken, collect (fun x => (read x).map (keep s x)) none taken xs = .error e) ∨
    ∀ x ∈ xs, ∃ d, read x = .ok d := by
  induction xs with
  | nil => exact .inr fun x hx => absurd hx List.not_mem_nil
  | cons x xs ih =>
    cases hx : read x with
    | error e => exact .inl ⟨e, fun s taken => by simp only [collect_cons, hx, Except.map]⟩
    | ok d =>
      obtain ⟨e, hrest⟩ | hrest := ih
      · refine .inl ⟨e, fun s taken => ?_⟩
        rw [collect_cons]
        simp only [hx, Except.map]
        cases keep s x d with
        | none => exact hrest s taken
        | some y =>
          have hnext := hrest s (taken + 1)
          simp only [Except.map] at hnext
          simp only [enough, hnext]
          rfl
      · refine .inr fun x' hx' => ?_
        obtain rfl | hx' := List.mem_cons.mp hx'
        · exact ⟨d, hx⟩
        · exact hrest x' hx'

end Collect

end DqMadeEasy
