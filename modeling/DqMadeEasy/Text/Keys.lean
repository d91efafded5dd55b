import DqMadeEasy.Text.Json

/-!
# Renaming the keys of a document

A function on keys is applied to every key of every dictionary of a value. Keys that become the same
are merged: the first one gives the place and the last one gives the value. A document whose
dictionaries have distinct keys is left as it is exactly when each of its keys is, and a look-up in
the renamed document finds what the only key with that new name had.
-/

namespace DqMadeEasy

namespace Dict

/-! ### Dictionary displays -/

theorem insert_of_notMem {d : Dict} {key : Text} (h : key ∉ Assoc.keys d) (value : Json) :
    d.insert key value = d ++ [(key, value)] := by
  induction d with
  | nil => rfl
  | cons e d ih =>
    obtain ⟨k, v⟩ := e
    rw [Assoc.keys_cons, List.mem_cons, not_or] at h
    rw [Dict.insert, Assoc.update, if_neg (Ne.symm h.1)]
    exact congrArg ((k, v) :: ·) (ih h.2)

theorem length_insert_of_mem {d : Dict} {key : Text} (h : key ∈ Assoc.keys d) (value : Json) :
    (d.insert key value).length = d.length := by
  have hkeys := congrArg List.length (Assoc.keys_update key (fun _ => value) d)
  rw [if_pos h, Assoc.keys, Assoc.keys, List.length_map, List.length_map] at hkeys
  exact hkeys

theorem length_insert_le (d : Dict) (key : Text) (value : Json) :
    (d.insert key value).length ≤ d.length + 1 := by
  by_cases h : key ∈ Assoc.keys d
  · rw [length_insert_of_mem h]
    omega
  · rw [insert_of_notMem h, List.length_append, List.length_singleton]

theorem merge_cons (d : Dict) (e : Text × Json) (entries : List (Text × Json)) :
    d.merge (e :: entries) = (d.insert e.1 e.2).merge entries := rfl

theorem length_merge_le (d : Dict) (entries : List (Text × Json)) :
    (d.merge entries).length ≤ d.length + entries.length := by
  induction entries generalizing d with
  | nil => exact le_refl _
  | cons e entries ih =>
    have hnext := ih (d.insert e.1 e.2)
    have hinsert := length_insert_le d e.1 e.2
    rw [merge_cons, List.length_cons]
    omega

/-- A display that loses no entry is the list of its entries. -/
theorem merge_eq_append_of_length {d : Dict} {entries : List (Text × Json)}
    (h : (d.merge entries).length = d.length + entries.length) :
    d.merge entries = d ++ entries := by
  induction entries generalizing d with
  | nil => exact (List.append_nil d).symm
  | cons e entries ih =>
    rw [merge_cons, List.length_cons] at h
    have hle := length_merge_le (d.insert e.1 e.2) entries
    have hnew : e.1 ∉ Assoc.keys d := by
      intro hmem
      rw [length_insert_of_mem hmem] at hle
      omega
    have hinsert : (d.insert e.1 e.2).length = d.length + 1 := by
      rw [insert_of_notMem hnew, List.length_append, List.length_singleton]
    rw [merge_cons, ih (by omega), insert_of_notMem hnew, List.append_assoc]
    rfl

theorem merge_eq_append {d : Dict} {entries : List (Text × Json)}
    (h : (Assoc.keys (d ++ entries)).Nodup) : d.merge entries = d ++ entries := by
  induction entries generalizing d with
  | nil => exact (List.append_nil d).symm
  | cons e entries ih =>
    have hnew : e.1 ∉ Assoc.keys d := by
      intro hmem
      rw [Assoc.keys, List.map_append, List.map_cons] at h
      exact (List.disjoint_of_nodup_append h) hmem List.mem_cons_self
    have happend : d ++ e :: entries = (d ++ [e]) ++ entries := by
      rw [List.append_assoc]
      rfl
    rw [happend] at h
    rw [merge_cons, insert_of_notMem hnew, happend]
    exact ih h

theorem ofEntries_eq_self {entries : List (Text × Json)} (h : (Assoc.keys entries).Nodup) :
    ofEntries entries = entries := merge_eq_append (d := []) h

theorem find?_merge {d : Dict} {entries : List (Text × Json)} {key : Text} {value : Json}
    (h : (d.merge entries).find? key = some value) :
    (key, value) ∈ entries ∨ d.find? key = some value := by
  induction entries generalizing d with
  | nil => exact .inr h
  | cons e entries ih =>
    rcases ih (d := d.insert e.1 e.2) h with hmem | hfind
    · exact .inl (List.mem_cons_of_mem _ hmem)
    · rw [find?, insert, Assoc.find?_update] at hfind
      split at hfind
      · rename_i hkey
        cases hfind
        subst hkey
        exact .inl List.mem_cons_self
      · exact .inr hfind

theorem mem_of_find?_ofEntries {entries : List (Text × Json)} {key : Text} {value : Json}
    (h : (ofEntries entries).find? key = some value) : (key, value) ∈ entries := by
  rcases find?_merge h with hmem | hfind
  · exact hmem
  · cases hfind

theorem mem_keys_merge {d : Dict} {entries : List (Text × Json)} {key : Text} :
    key ∈ Assoc.keys (d.merge entries) ↔ key ∈ Assoc.keys entries ∨ key ∈ Assoc.keys d := by
  induction entries generalizing d with
  | nil => simp [merge]
  | cons e entries ih =>
    rw [merge_cons, ih, Dict.insert, Assoc.mem_keys_update, Assoc.keys_cons, List.mem_cons]
    tauto

theorem mem_keys_ofEntries {entries : List (Text × Json)} {key : Text} :
    key ∈ Assoc.keys (ofEntries entries) ↔ key ∈ Assoc.keys entries := by
  rw [ofEntries, mem_keys_merge]
  simp

end Dict

namespace Json

/-! ### Renaming -/

mutual

def renameKeys (f : Text → Text) : Json → Json
  | .scalar value => .scalar value
  | .list items => .list (renameItems f items)
  | .dict entries => .dict (Dict.ofEntries (renameEntries f entries))

def renameItems (f : Text → Text) : List Json → List Json
  | [] => []
  | item :: items => renameKeys f item :: renameItems f items

def renameEntries (f : Text → Text) : List (Text × Json) → List (Text × Json)
  | [] => []
  | (key, value) :: entries => (f key, renameKeys f value) :: renameEntries f entries

end

mutual

/-- The keys of the dictionaries of a value, at every depth. -/
def allKeys : Json → List Text
  | .scalar _ => []
  | .list items => allKeysItems items
  | .dict entries => allKeysEntries entries

def allKeysItems : List Json → List Text
  | [] => []
  | item :: items => allKeys item ++ allKeysItems items

def allKeysEntries : List (Text × Json) → List Text
  | [] => []
  | (key, value) :: entries => key :: (allKeys value ++ allKeysEntries entries)

end

mutual

/-- No dictionary of a value has a key twice. -/
def DistinctKeys : Json → Prop
  | .scalar _ => True
  | .list items => DistinctKeysItems items
  | .dict entries => (Assoc.keys entries).Nodup ∧ DistinctKeysEntries entries

def DistinctKeysItems : List Json → Prop
  | [] => True
  | item :: items => DistinctKeys item ∧ DistinctKeysItems items

def DistinctKeysEntries : List (Text × Json) → Prop
  | [] => True
  | (_, value) :: entries => DistinctKeys value ∧ DistinctKeysEntries entries

end

variable {f : Text → Text}

theorem renameItems_eq (f : Text → Text) (items : List Json) :
    renameItems f items = items.map (renameKeys f) := by
  induction items with
  | nil => rfl
  | cons item items ih => rw [renameItems, ih, List.map_cons]

theorem renameEntries_eq (f : Text → Text) (entries : List (Text × Json)) :
    renameEntries f entries = entries.map fun e => (f e.1, renameKeys f e.2) := by
  induction entries with
  | nil => rfl
  | cons e entries ih =>
    obtain ⟨key, value⟩ := e
    rw [renameEntries, ih, List.map_cons]

theorem keys_renameEntries (f : Text → Text) (entries : List (Text × Json)) :
    Assoc.keys (renameEntries f entries) = (Assoc.keys entries).map f := by
  rw [renameEntries_eq, Assoc.keys, Assoc.keys, List.map_map, List.map_map]
  rfl

theorem distinctKeys_nil : (Json.dict []).DistinctKeys := ⟨List.nodup_nil, trivial⟩

theorem distinctKeysItems_iff {items : List Json} :
    DistinctKeysItems items ↔ ∀ item ∈ items, item.DistinctKeys := by
  induction items with
  | nil => simp [DistinctKeysItems]
  | cons item items ih => rw [DistinctKeysItems, ih, List.forall_mem_cons]

theorem distinctKeysEntries_iff {entries : List (Text × Json)} :
    DistinctKeysEntries entries ↔ ∀ e ∈ entries, e.2.DistinctKeys := by
  induction entries with
  | nil => simp [DistinctKeysEntries]
  | cons e entries ih =>
    obtain ⟨key, value⟩ := e
    rw [DistinctKeysEntries, ih, List.forall_mem_cons]

mutual

theorem renameKeys_eq_self {json : Json} (hdistinct : json.DistinctKeys)
    (hkeys : ∀ key ∈ json.allKeys, f key = key) : json.renameKeys f = json := by
  cases json with
  | scalar value => rfl
  | list items =>
    rw [renameKeys, renameItems_eq_self hdistinct hkeys]
  | dict entries =>
    rw [renameKeys, renameEntries_eq_self hdistinct.2 hkeys, Dict.ofEntries_eq_self hdistinct.1]

theorem renameItems_eq_self {items : List Json} (hdistinct : DistinctKeysItems items)
    (hkeys : ∀ key ∈ allKeysItems items, f key = key) : renameItems f items = items := by
  cases items with
  | nil => rfl
  | cons item items =>
    rw [allKeysItems, List.forall_mem_append] at hkeys
    rw [renameItems, renameKeys_eq_self hdistinct.1 hkeys.1, renameItems_eq_self hdistinct.2 hkeys.2]

theorem renameEntries_eq_self {entries : List (Text × Json)}
    (hdistinct : DistinctKeysEntries entries)
    (hkeys : ∀ key ∈ allKeysEntries entries, f key = key) : renameEntries f entries = entries := by
  cases entries with
  | nil => rfl
  | cons e entries =>
    obtain ⟨key, value⟩ := e
    rw [allKeysEntries, List.forall_mem_cons, List.forall_mem_append] at hkeys
    rw [renameEntries, hkeys.1, renameKeys_eq_self hdistinct.1 hkeys.2.1,
      renameEntries_eq_self hdistinct.2 hkeys.2.2]

end

/-- A display of renamed entries that is the list before the renaming merged nothing. -/
theorem renameEntries_of_ofEntries {entries : List (Text × Json)}
    (h : Dict.ofEntries (renameEntries f entries) = entries) : renameEntries f entries = entries := by
  have hlength : (Dict.merge [] (renameEntries f entries)).length =
      ([] : Dict).length + (renameEntries f entries).length := by
    rw [show Dict.merge [] (renameEntries f entries) = entries from h, renameEntries_eq,
      List.length_map]
    simp
  exact (Dict.merge_eq_append_of_length hlength).symm.trans h

mutual

theorem keys_of_renameKeys_eq {json : Json} (h : json.renameKeys f = json) :
    ∀ key ∈ json.allKeys, f key = key := by
  cases json with
  | scalar value =>
    intro key hkey
    cases hkey
  | list items =>
    rw [renameKeys, Json.list.injEq] at h
    exact keys_of_renameItems_eq h
  | dict entries =>
    rw [renameKeys, Json.dict.injEq] at h
    exact keys_of_renameEntries_eq (renameEntries_of_ofEntries h)

theorem keys_of_renameItems_eq {items : List Json} (h : renameItems f items = items) :
    ∀ key ∈ allKeysItems items, f key = key := by
  cases items with
  | nil =>
    intro key hkey
    cases hkey
  | cons item items =>
    rw [renameItems, List.cons.injEq] at h
    rw [allKeysItems, List.forall_mem_append]
    exact ⟨keys_of_renameKeys_eq h.1, keys_of_renameItems_eq h.2⟩

theorem keys_of_renameEntries_eq {entries : List (Text × Json)}
    (h : renameEntries f entries = entries) : ∀ key ∈ allKeysEntries entries, f key = key := by
  cases entries with
  | nil =>
    intro key hkey
    cases hkey
  | cons e entries =>
    obtain ⟨key, value⟩ := e
    rw [renameEntries, List.cons.injEq, Prod.mk.injEq] at h
    rw [allKeysEntries, List.forall_mem_cons, List.forall_mem_append]
    exact ⟨h.1.1, keys_of_renameKeys_eq h.1.2, keys_of_renameEntries_eq h.2⟩

end

end Json

namespace Dict

/-! ### Look-ups after a renaming -/

/-- A dictionary with every key renamed, at every depth. -/
def renameKeys (f : Text → Text) (d : Dict) : Dict := ofEntries (Json.renameEntries f d)

variable {f : Text → Text} {d : Dict} {name : Text}

theorem mem_keys_renameKeys : name ∈ Assoc.keys (d.renameKeys f) ↔ ∃ key ∈ Assoc.keys d, f key = name := by
  rw [renameKeys, mem_keys_ofEntries, Json.keys_renameEntries, List.mem_map]

/-- What a look-up in the renamed dictionary finds stood under a key with that new name. -/
theorem exists_of_find?_renameKeys {value : Json} (h : (d.renameKeys f).find? name = some value) :
    ∃ key value', (key, value') ∈ d ∧ f key = name ∧ value'.renameKeys f = value := by
  have hmem := mem_of_find?_ofEntries h
  rw [Json.renameEntries_eq, List.mem_map] at hmem
  obtain ⟨⟨key, value'⟩, hentry, heq⟩ := hmem
  cases heq
  exact ⟨key, value', hentry, rfl, rfl⟩

/-- A key that no other key is renamed to keeps its value, with the keys below renamed. -/
theorem find?_renameKeys_of_unique (hdistinct : (Assoc.keys d).Nodup) {key : Text} {value : Json}
    (hfind : d.find? key = some value) (hname : f key = name)
    (hunique : ∀ key' ∈ Assoc.keys d, f key' = name → key' = key) :
    (d.renameKeys f).find? name = some (value.renameKeys f) := by
  have hkey : key ∈ Assoc.keys d := List.mem_map.mpr ⟨_, Assoc.mem_of_find? hfind, rfl⟩
  have hmem : name ∈ Assoc.keys (d.renameKeys f) := mem_keys_renameKeys.mpr ⟨key, hkey, hname⟩
  cases hrenamed : (d.renameKeys f).find? name with
  | none => exact absurd hmem (Assoc.find?_eq_none_iff.mp hrenamed)
  | some found =>
    obtain ⟨key', value', hentry, hname', hvalue⟩ := exists_of_find?_renameKeys hrenamed
    have hsame : key' = key :=
      hunique key' (List.mem_map.mpr ⟨_, hentry, rfl⟩) hname'
    subst hsame
    have hfound := Assoc.find?_of_mem hdistinct hentry
    rw [find?] at hfind
    rw [hfind, Option.some.injEq] at hfound
    rw [← hvalue, hfound]

end Dict

end DqMadeEasy
