import Mathlib.Data.List.Induction
import Mathlib.Logic.Function.Basic
import Mathlib.Order.Lattice
import Mathlib.Data.List.Nodup

/-!
# Rows with a key

A list of rows as a table: a row is looked up by its key, replaced where it stands, or appended
where its key is new. Only the key of the row that is written is changed.
-/

namespace DqMadeEasy

namespace Keyed

variable {κ α : Type*} [DecidableEq κ] (key : α → κ)

def find? (rows : List α) (k : κ) : Option α := rows.find? fun row => key row = k

def replace (row : α) : List α → List α
  | [] => []
  | item :: items => if key item = key row then row :: items else item :: replace row items

variable {key} {rows : List α} {row : α} {k : κ}

theorem key_of_find? (h : find? key rows k = some row) : key row = k := by
  have hkey := List.find?_some h
  exact of_decide_eq_true hkey

/-- A row after a replacement is the new one or was there. -/
theorem mem_of_mem_replace {other : α} (h : other ∈ replace key row rows) :
    other = row ∨ other ∈ rows := by
  induction rows with
  | nil => cases h
  | cons item items ih =>
    rw [replace] at h
    split at h
    · exact (List.mem_cons.mp h).imp id (List.mem_cons_of_mem _)
    · rcases List.mem_cons.mp h with rfl | h
      · exact .inr List.mem_cons_self
      · exact (ih h).imp id (List.mem_cons_of_mem _)

theorem map_key_replace (row : α) (rows : List α) :
    (replace key row rows).map key = rows.map key := by
  induction rows with
  | nil => rfl
  | cons item items ih =>
    rw [replace]
    split
    · rename_i hkey
      rw [List.map_cons, List.map_cons, hkey]
    · rw [List.map_cons, List.map_cons, ih]

theorem find?_of_mem (hkeys : (rows.map key).Nodup) (h : row ∈ rows) :
    find? key rows (key row) = some row := by
  cases hfind : find? key rows (key row) with
  | none => exact absurd (List.find?_eq_none.mp hfind row h) (by simp)
  | some other =>
    rw [List.inj_on_of_nodup_map hkeys (List.mem_of_find?_eq_some hfind) h (key_of_find? hfind)]

theorem nodup_keys_append (hkeys : (rows.map key).Nodup) (h : find? key rows (key row) = none) :
    ((rows ++ [row]).map key).Nodup := by
  rw [List.map_append, List.map_singleton]
  refine List.nodup_append.mpr ⟨hkeys, List.nodup_singleton _, fun k hk k' hk' heq => ?_⟩
  obtain ⟨other, hother, rfl⟩ := List.mem_map.mp hk
  rw [List.mem_singleton.mp hk'] at heq
  exact absurd (List.find?_eq_none.mp h other hother) (by simp [heq])

/-- After a replacement the key that it is about has the new row. -/
theorem find?_replace (h : (find? key rows (key row)).isSome = true) (k : κ) :
    find? key (replace key row rows) k = if k = key row then some row else find? key rows k := by
  induction rows with
  | nil => cases h
  | cons item items ih =>
    rw [replace]
    by_cases hitem : key item = key row
    · rw [if_pos hitem]
      by_cases hk : k = key row
      · rw [if_pos hk, find?, List.find?_cons_of_pos (by simp [hk])]
      · rw [if_neg hk, find?, find?, List.find?_cons_of_neg (by simpa using Ne.symm hk),
          List.find?_cons_of_neg (by simpa [hitem] using Ne.symm hk)]
    · rw [if_neg hitem]
      have hrest : (find? key items (key row)).isSome = true := by
        rwa [find?, List.find?_cons_of_neg (by simpa using hitem)] at h
      by_cases hk : key item = k
      · have hne : k ≠ key row := hk ▸ hitem
        rw [if_neg hne, find?, find?, List.find?_cons_of_pos (by simpa using hk),
          List.find?_cons_of_pos (by simpa using hk)]
      · have ih := ih hrest
        rw [find?, find?] at ih
        rw [find?, find?, List.find?_cons_of_neg (by simpa using hk),
          List.find?_cons_of_neg (by simpa using hk), ih]

theorem find?_append (h : find? key rows (key row) = none) (k : κ) :
    find? key (rows ++ [row]) k = if k = key row then some row else find? key rows k := by
  rw [find?, List.find?_append]
  by_cases hk : k = key row
  · subst hk
    rw [if_pos rfl, show List.find? _ rows = none from h, Option.none_or,
      List.find?_cons_of_pos (by simp)]
  · rw [if_neg hk, List.find?_cons_of_neg (by simpa using Ne.symm hk), List.find?_nil, Option.or_none]
    rfl

theorem map_find?_replace {β : Type*} (f : α → β)
    (h : (find? key rows (key row)).isSome = true) :
    (fun k => (find? key (replace key row rows) k).map f) =
      Function.update (fun k => (find? key rows k).map f) (key row) (some (f row)) := by
  funext k
  rw [find?_replace h]
  by_cases hk : k = key row
  · subst hk
    rw [if_pos rfl, Function.update_self, Option.map_some]
  · rw [if_neg hk, Function.update_of_ne hk]

theorem map_find?_append {β : Type*} (f : α → β) (h : find? key rows (key row) = none) :
    (fun k => (find? key (rows ++ [row]) k).map f) =
      Function.update (fun k => (find? key rows k).map f) (key row) (some (f row)) := by
  funext k
  rw [find?_append h]
  by_cases hk : k = key row
  · subst hk
    rw [if_pos rfl, Function.update_self, Option.map_some]
  · rw [if_neg hk, Function.update_of_ne hk]

theorem replace_self (h : find? key rows (key row) = some row) : replace key row rows = rows := by
  induction rows with
  | nil => rfl
  | cons item items ih =>
    rw [replace]
    by_cases hitem : key item = key row
    · rw [find?, List.find?_cons_of_pos (by simpa using hitem)] at h
      rw [if_pos hitem, Option.some.inj h]
    · rw [find?, List.find?_cons_of_neg (by simpa using hitem)] at h
      rw [if_neg hitem, ih h]

section Highest

variable {β : Type*} [LinearOrder β] (rank : α → β)

/-- `max(rows, key=rank)`: the first row of the highest rank. -/
def highest? : List α → Option α
  | [] => none
  | row :: rows =>
    some (rows.foldl (fun best other => if rank best < rank other then other else best) row)

variable {rank}

/-- It is the first one of its rank. -/
theorem find?_of_highest? {rows : List α} {row : α} (h : highest? rank rows = some row) :
    rows.find? (fun other => rank other = rank row) = some row := by
  cases rows with
  | nil => cases h
  | cons first rows =>
    obtain rfl := Option.some.inj h
    -- No row that was passed over ranks higher.
    suffices hbest : ∀ best, best = rows.foldl
        (fun best other => if rank best < rank other then other else best) first →
        (first :: rows).find? (fun other => rank other = rank best) = some best ∧
          ∀ other ∈ first :: rows, rank other ≤ rank best from (hbest _ rfl).1
    clear h
    rintro _ rfl
    induction rows using List.reverseRecOn with
    | nil =>
      refine ⟨List.find?_cons_of_pos (by simp), fun other hother => ?_⟩
      rw [List.mem_singleton.mp hother]
      exact le_rfl
    | append_singleton rows last ih =>
      obtain ⟨hfind, hle⟩ := ih
      rw [List.foldl_append, List.foldl_cons, List.foldl_nil, ← List.cons_append]
      split
      · rename_i hlt
        refine ⟨?_, fun other hother => ?_⟩
        · rw [List.find?_append, List.find?_eq_none.mpr, Option.none_or,
            List.find?_cons_of_pos (by simp)]
          intro other hother
          simpa using ne_of_lt (lt_of_le_of_lt (hle other hother) hlt)
        · rcases List.mem_append.mp hother with hother | hother
          · exact le_of_lt (lt_of_le_of_lt (hle other hother) hlt)
          · rw [List.mem_singleton.mp hother]
      · rename_i hnot
        refine ⟨?_, fun other hother => ?_⟩
        · rw [List.find?_append, hfind, Option.some_or]
        · rcases List.mem_append.mp hother with hother | hother
          · exact hle other hother
          · rw [List.mem_singleton.mp hother]
            exact not_lt.mp hnot

end Highest

end Keyed

end DqMadeEasy
