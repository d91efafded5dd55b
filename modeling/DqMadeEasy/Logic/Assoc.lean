import Mathlib.Data.List.Nodup

/-!
# Association lists

An insertion-ordered map as a list of entries. Updating a key that is present changes its value in
place, and updating a new key appends it, so the keys of a map built by updates are distinct and
stand in the order of their first update.
-/

namespace DqMadeEasy

namespace Assoc

variable {α β : Type*} [DecidableEq α]

def find? : List (α × β) → α → Option β
  | [], _ => none
  | (k, v) :: entries, key => if k = key then some v else find? entries key

/-- The map with the value of a key changed, or set if the key is new. -/
def update (key : α) (f : Option β → β) : List (α × β) → List (α × β)
  | [] => [(key, f none)]
  | (k, v) :: entries =>
    if k = key then (k, f (some v)) :: entries else (k, v) :: update key f entries

def keys (entries : List (α × β)) : List α := entries.map Prod.fst

omit [DecidableEq α] in
@[simp] theorem keys_nil : keys ([] : List (α × β)) = [] := rfl

omit [DecidableEq α] in
@[simp] theorem keys_cons (entry : α × β) (entries : List (α × β)) :
    keys (entry :: entries) = entry.1 :: keys entries := rfl

@[simp] theorem find?_nil (key : α) : find? ([] : List (α × β)) key = none := rfl

theorem find?_cons (k : α) (v : β) (entries : List (α × β)) (key : α) :
    find? ((k, v) :: entries) key = if k = key then some v else find? entries key := rfl

@[simp] theorem update_nil (key : α) (f : Option β → β) :
    update key f [] = [(key, f none)] := rfl

theorem update_cons (key : α) (f : Option β → β) (k : α) (v : β) (entries : List (α × β)) :
    update key f ((k, v) :: entries) =
      if k = key then (k, f (some v)) :: entries else (k, v) :: update key f entries := rfl

theorem find?_update (key : α) (f : Option β → β) (entries : List (α × β)) (key' : α) :
    find? (update key f entries) key' =
      if key = key' then some (f (find? entries key)) else find? entries key' := by
  induction entries with
  | nil =>
    by_cases h : key = key'
    · simp [find?_cons, h]
    · simp [find?_cons, h]
  | cons entry entries ih =>
    obtain ⟨k, v⟩ := entry
    by_cases hk : k = key
    · subst hk
      by_cases h : k = key'
      · simp [update_cons, find?_cons, h]
      · simp [update_cons, find?_cons, h]
    · by_cases h : k = key'
      · subst h
        simp [update_cons, find?_cons, hk, Ne.symm hk]
      · simp [update_cons, find?_cons, hk, h, ih]

theorem keys_update (key : α) (f : Option β → β) (entries : List (α × β)) :
    keys (update key f entries) = if key ∈ keys entries then keys entries else keys entries ++ [key] := by
  induction entries with
  | nil => rfl
  | cons entry entries ih =>
    obtain ⟨k, v⟩ := entry
    by_cases hk : k = key
    · simp [update_cons, hk]
    · rw [update_cons, if_neg hk, keys_cons, ih, keys_cons]
      by_cases hmem : key ∈ keys entries
      · simp [hmem]
      · simp [hmem, Ne.symm hk]

variable {f : Option β → β}

theorem mem_keys_update {key key' : α} {entries : List (α × β)} :
    key' ∈ keys (update key f entries) ↔ key' = key ∨ key' ∈ keys entries := by
  rw [keys_update]
  split
  · constructor
    · exact .inr
    · rintro (rfl | h)
      · assumption
      · exact h
  · simp [or_comm]

theorem nodup_keys_update {key : α} {entries : List (α × β)} (h : (keys entries).Nodup) :
    (keys (update key f entries)).Nodup := by
  rw [keys_update]
  split
  · exact h
  · rename_i hmem
    apply List.Nodup.append h (by simp)
    simpa using hmem

theorem find?_eq_none_iff {entries : List (α × β)} {key : α} :
    find? entries key = none ↔ key ∉ keys entries := by
  induction entries with
  | nil => simp
  | cons entry entries ih =>
    obtain ⟨k, v⟩ := entry
    by_cases hk : k = key
    · simp [find?_cons, hk]
    · simp [find?_cons, hk, ih, Ne.symm hk]

/-- The first of two maps that has a key decides. -/
theorem find?_append (entries entries' : List (α × β)) (key : α) :
    find? (entries ++ entries') key = (find? entries key).or (find? entries' key) := by
  induction entries with
  | nil => rfl
  | cons entry entries ih =>
    obtain ⟨k, v⟩ := entry
    rw [List.cons_append, find?_cons, find?_cons]
    split
    · rfl
    · exact ih

theorem update_of_find?_none {entries : List (α × β)} {key : α} (h : find? entries key = none) :
    update key f entries = entries ++ [(key, f none)] := by
  induction entries with
  | nil => rfl
  | cons entry entries ih =>
    obtain ⟨k, v⟩ := entry
    rw [find?_cons] at h
    split at h
    · cases h
    · rename_i hne
      rw [update_cons, if_neg hne, ih h, List.cons_append]

theorem update_of_find? {entries : List (α × β)} {key : α} {value : β}
    (h : find? entries key = some value) : update key (fun _ => value) entries = entries := by
  induction entries with
  | nil => cases h
  | cons entry entries ih =>
    obtain ⟨k, v⟩ := entry
    rw [find?_cons] at h
    split at h
    · rename_i hk
      rw [update_cons, if_pos hk, ← Option.some.inj h]
    · rename_i hne
      rw [update_cons, if_neg hne, ih h]

theorem mem_of_find? {entries : List (α × β)} {key : α} {value : β}
    (h : find? entries key = some value) : (key, value) ∈ entries := by
  induction entries with
  | nil => cases h
  | cons entry entries ih =>
    obtain ⟨k, v⟩ := entry
    rw [find?_cons] at h
    split at h
    · rename_i hk
      cases h
      simp [hk]
    · exact List.mem_cons_of_mem _ (ih h)

/-- With distinct keys the entries are the values that look-ups find. -/
theorem find?_of_mem {entries : List (α × β)} (hnodup : (keys entries).Nodup) {key : α} {value : β}
    (h : (key, value) ∈ entries) : find? entries key = some value := by
  induction entries with
  | nil => cases h
  | cons entry entries ih =>
    obtain ⟨k, v⟩ := entry
    rw [keys_cons, List.nodup_cons] at hnodup
    rcases List.mem_cons.mp h with h | h
    · cases h
      simp [find?_cons]
    · have hne : k ≠ key := by
        rintro rfl
        exact hnodup.1 (List.mem_map.mpr ⟨(k, value), h, rfl⟩)
      rw [find?_cons, if_neg hne]
      exact ih hnodup.2 h

/-- An entry of an updated map has its new value, or was there before. -/
theorem mem_update {key : α} {entries : List (α × β)} {entry : α × β}
    (h : entry ∈ update key f entries) : entry.2 = f (find? entries key) ∨ entry ∈ entries := by
  induction entries with
  | nil =>
    cases List.mem_singleton.mp h
    exact .inl rfl
  | cons head entries ih =>
    obtain ⟨k, v⟩ := head
    rw [update_cons] at h
    rw [find?_cons]
    split at h
    · rename_i hk
      rw [if_pos hk]
      rcases List.mem_cons.mp h with rfl | h
      · exact .inl rfl
      · exact .inr (List.mem_cons_of_mem _ h)
    · rename_i hk
      rw [if_neg hk]
      rcases List.mem_cons.mp h with rfl | h
      · exact .inr List.mem_cons_self
      · exact (ih h).imp_right (List.mem_cons_of_mem _)

/-! ### Maps of values -/

section MapValues

variable {γ : Type*} (g : β → γ)

def mapValues (entries : List (α × β)) : List (α × γ) :=
  entries.map fun entry => (entry.1, g entry.2)

theorem find?_mapValues (entries : List (α × β)) (key : α) :
    find? (mapValues g entries) key = (find? entries key).map g := by
  induction entries with
  | nil => rfl
  | cons entry entries ih =>
    obtain ⟨k, v⟩ := entry
    show (if k = key then _ else find? (mapValues g entries) key) = _
    rw [find?_cons]
    split
    · rfl
    · exact ih

/-- Setting a value before the function is applied, or its image after. -/
theorem mapValues_update (key : α) (value : β) (entries : List (α × β)) :
    mapValues g (update key (fun _ => value) entries) =
      update key (fun _ => g value) (mapValues g entries) := by
  induction entries with
  | nil => rfl
  | cons entry entries ih =>
    obtain ⟨k, v⟩ := entry
    show mapValues g (if k = key then _ else _) = if k = key then _ else _
    split
    · rfl
    · exact congrArg (List.cons (k, g v)) ih

end MapValues

end Assoc

end DqMadeEasy
