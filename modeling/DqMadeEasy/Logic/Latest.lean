import Mathlib.Data.List.Induction
import Mathlib.Order.Lattice
import DqMadeEasy.Logic.Assoc

/-!
# The highest item of each key

A loop that keeps one item of each key, the highest one that it has met. Where such a loop runs over
a part of the items only, what it keeps is the highest of all items of its key exactly where the
highest one is in the part.
-/

namespace DqMadeEasy

namespace Latest

variable {α κ ρ : Type*} [DecidableEq κ] [LinearOrder ρ] (key : α → κ) (rank : α → ρ)

def Highest (rows : List α) (a : α) : Prop := ∀ b ∈ rows, key b = key a → rank b ≤ rank a

/-- One of the highest items of each key. -/
structure IsLatest (rows latest : List α) : Prop where
  mem : ∀ a ∈ latest, a ∈ rows
  highest : ∀ a ∈ latest, Highest key rank rows a
  covered : ∀ a ∈ rows, ∃ b ∈ latest, key b = key a

/-- The map with an item kept for its key, unless the one that is there stays. -/
def keepBest (replaces : α → α → Bool) (latest : List (κ × α)) (a : α) : List (κ × α) :=
  match Assoc.find? latest (key a) with
  | none => Assoc.update (key a) (fun _ => a) latest
  | some b => if replaces b a then Assoc.update (key a) (fun _ => a) latest else latest

variable {key rank} {rows seen latest : List α} {entries : List (κ × α)} {a : α}
  {replaces : α → α → Bool}

omit [DecidableEq κ] in
theorem IsLatest.highest_iff {part : List α} (h : IsLatest key rank part latest) :
    (∀ a ∈ latest, Highest key rank rows a) ↔
      ∀ a ∈ part, ∃ b ∈ part, key b = key a ∧ Highest key rank rows b := by
  constructor
  · intro hhighest a ha
    obtain ⟨b, hb, hkey⟩ := h.covered a ha
    exact ⟨b, h.mem b hb, hkey, hhighest b hb⟩
  · intro hpasses a ha c hc hkey
    obtain ⟨b, hb, hsame, hhighest⟩ := hpasses a (h.mem a ha)
    have hle : rank b ≤ rank a := h.highest a ha b hb hsame
    exact (hhighest c hc (hkey.trans hsame.symm)).trans hle

omit [DecidableEq κ] in
theorem isLatest_nil : IsLatest key rank [] [] := ⟨nofun, nofun, nofun⟩

/-- The entries of the loop: each is the item of its key, and each key is kept once. -/
structure Kept (key : α → κ) (rank : α → ρ) (seen : List α) (entries : List (κ × α)) : Prop where
  keyed : ∀ entry ∈ entries, key entry.2 = entry.1
  distinct : (Assoc.keys entries).Nodup
  latest : IsLatest key rank seen (entries.map Prod.snd)

omit [LinearOrder ρ] in
theorem mem_values_iff (hkeyed : ∀ entry ∈ entries, key entry.2 = entry.1)
    (hdistinct : (Assoc.keys entries).Nodup) :
    a ∈ entries.map Prod.snd ↔ Assoc.find? entries (key a) = some a := by
  rw [List.mem_map]
  constructor
  · rintro ⟨⟨k, b⟩, hentry, rfl⟩
    rw [hkeyed (k, b) hentry]
    exact Assoc.find?_of_mem hdistinct hentry
  · intro hfind
    exact ⟨(key a, a), Assoc.mem_of_find? hfind, rfl⟩

/-- An item that is kept takes the place of the one that was there. -/
theorem Kept.update (h : Kept key rank seen entries)
    (hlow : ∀ b, Assoc.find? entries (key a) = some b → rank b ≤ rank a) :
    Kept key rank (seen ++ [a]) (Assoc.update (key a) (fun _ => a) entries) := by
  have hdistinct : (Assoc.keys (Assoc.update (key a) (fun _ => a) entries)).Nodup :=
    Assoc.nodup_keys_update h.distinct
  have hkeyed : ∀ entry ∈ Assoc.update (key a) (fun _ => a) entries,
      key entry.2 = entry.1 := by
    rintro ⟨k, b⟩ hentry
    have hfind := Assoc.find?_of_mem hdistinct hentry
    rw [Assoc.find?_update] at hfind
    split at hfind
    · rename_i hk
      cases hfind
      exact hk
    · exact h.keyed (k, b) (Assoc.mem_of_find? hfind)
  have hvalues : ∀ b, b ∈ (Assoc.update (key a) (fun _ => a) entries).map Prod.snd ↔
      b = a ∨ key a ≠ key b ∧ b ∈ entries.map Prod.snd := by
    intro b
    rw [mem_values_iff hkeyed hdistinct, mem_values_iff h.keyed h.distinct, Assoc.find?_update]
    split
    · rename_i hsame
      constructor
      · rintro ⟨⟩
        exact .inl rfl
      · rintro (rfl | ⟨hne, -⟩)
        · rfl
        · exact absurd hsame hne
    · rename_i hne
      constructor
      · exact fun hfind => .inr ⟨hne, hfind⟩
      · rintro (rfl | ⟨-, hfind⟩)
        · exact absurd rfl hne
        · exact hfind
  refine ⟨hkeyed, hdistinct, ⟨?_, ?_, ?_⟩⟩
  · intro b hb
    rw [List.mem_append, List.mem_singleton]
    obtain rfl | ⟨-, hold⟩ := (hvalues b).mp hb
    · exact .inr rfl
    · exact .inl (h.latest.mem b hold)
  · intro b hb c hc hkey
    rw [List.mem_append, List.mem_singleton] at hc
    obtain rfl | ⟨hne, hold⟩ := (hvalues b).mp hb
    · obtain hseen | rfl := hc
      · obtain ⟨d, hd, hdkey⟩ := h.latest.covered c hseen
        have hfind := (mem_values_iff h.keyed h.distinct).mp hd
        rw [hdkey, hkey] at hfind
        exact (h.latest.highest d hd c hseen hdkey.symm).trans (hlow d hfind)
      · exact le_rfl
    · obtain hseen | rfl := hc
      · exact h.latest.highest b hold c hseen hkey
      · exact absurd hkey hne
  · intro b hb
    rw [List.mem_append, List.mem_singleton] at hb
    by_cases hsame : key a = key b
    · exact ⟨a, (hvalues a).mpr (.inl rfl), hsame⟩
    · obtain hseen | rfl := hb
      · obtain ⟨c, hc, hkey⟩ := h.latest.covered b hseen
        exact ⟨c, (hvalues c).mpr (.inr ⟨fun h => hsame (h.trans hkey), hc⟩), hkey⟩
      · exact absurd rfl hsame

/-- An item that is not higher than the one that is there is passed over. -/
theorem Kept.pass {b : α} (h : Kept key rank seen entries)
    (hfind : Assoc.find? entries (key a) = some b) (hlow : rank a ≤ rank b) :
    Kept key rank (seen ++ [a]) entries := by
  have hb : b ∈ entries.map Prod.snd := by
    rw [List.mem_map]
    exact ⟨(key a, b), Assoc.mem_of_find? hfind, rfl⟩
  have hbkey : key b = key a := h.keyed (key a, b) (Assoc.mem_of_find? hfind)
  refine ⟨h.keyed, h.distinct, ⟨?_, ?_, ?_⟩⟩
  · intro c hc
    exact List.mem_append_left _ (h.latest.mem c hc)
  · intro c hc d hd hkey
    rw [List.mem_append, List.mem_singleton] at hd
    obtain hseen | rfl := hd
    · exact h.latest.highest c hc d hseen hkey
    · have hle : rank b ≤ rank c :=
        h.latest.highest c hc b (h.latest.mem b hb) (hbkey.trans hkey)
      exact hlow.trans hle
  · intro c hc
    rw [List.mem_append, List.mem_singleton] at hc
    obtain hseen | rfl := hc
    · exact h.latest.covered c hseen
    · exact ⟨b, hb, hbkey⟩

/-- The loop decides rightly: an item replaces only lower ones and passes over only higher ones. -/
def Decides (key : α → κ) (rank : α → ρ) (replaces : α → α → Bool) (b a : α) : Prop :=
  key b = key a →
    (replaces b a = true → rank b ≤ rank a) ∧ (replaces b a = false → rank a ≤ rank b)

theorem Kept.step (h : Kept key rank seen entries)
    (hdecides : ∀ b ∈ seen, Decides key rank replaces b a) :
    Kept key rank (seen ++ [a]) (keepBest key replaces entries a) := by
  rw [keepBest]
  split
  · rename_i hnone
    refine h.update ?_
    intro b hfind
    rw [hnone] at hfind
    cases hfind
  · rename_i b hfind
    have hentry := Assoc.mem_of_find? hfind
    have hseen : b ∈ seen := h.latest.mem b (List.mem_map.mpr ⟨(key a, b), hentry, rfl⟩)
    obtain ⟨hup, hdown⟩ := hdecides b hseen (h.keyed (key a, b) hentry)
    split
    · rename_i hreplaces
      refine h.update ?_
      intro c hc
      rw [hfind] at hc
      cases hc
      exact hup hreplaces
    · rename_i hstays
      exact h.pass hfind (hdown (Bool.eq_false_iff.mpr hstays))

theorem kept_foldl (h : rows.Pairwise (Decides key rank replaces)) :
    Kept key rank rows (rows.foldl (keepBest key replaces) []) := by
  induction rows using List.reverseRecOn with
  | nil => exact ⟨nofun, List.nodup_nil, isLatest_nil⟩
  | append_singleton rows a ih =>
    obtain ⟨hrows, -, hlast⟩ := List.pairwise_append.mp h
    rw [List.foldl_append]
    exact (ih hrows).step fun b hb => hlast b hb a (List.mem_singleton.mpr rfl)

theorem isLatest_foldl (h : rows.Pairwise (Decides key rank replaces)) :
    IsLatest key rank rows ((rows.foldl (keepBest key replaces) []).map Prod.snd) :=
  (kept_foldl h).latest

/-! ### Ties to the later item -/

/-- Whether an item is at least as high as the one that is there. -/
def atLeast (rank : α → ρ) (b a : α) : Bool := decide (rank b ≤ rank a)

omit [DecidableEq κ] in
theorem decides_atLeast (b a : α) : Decides key rank (atLeast rank) b a := by
  refine fun _ => ⟨of_decide_eq_true, fun h => ?_⟩
  exact (lt_of_not_ge (of_decide_eq_false h)).le

/-- The loop in which an item replaces every one that is not higher. -/
theorem kept_atLeast (key : α → κ) (rank : α → ρ) (rows : List α) :
    Kept key rank rows (rows.foldl (keepBest key (atLeast rank)) []) :=
  kept_foldl (List.pairwise_of_forall fun b a => decides_atLeast b a)

theorem find?_atLeast_append (h : Highest key rank rows a) :
    Assoc.find? ((rows ++ [a]).foldl (keepBest key (atLeast rank)) []) (key a) = some a := by
  have hkept := kept_atLeast key rank rows
  rw [List.foldl_append]
  show Assoc.find? (keepBest key (atLeast rank) _ a) (key a) = some a
  rw [keepBest]
  split
  · rw [Assoc.find?_update, if_pos rfl]
  · rename_i b hfind
    have hentry := Assoc.mem_of_find? hfind
    have hseen : b ∈ rows := hkept.latest.mem b (List.mem_map.mpr ⟨(key a, b), hentry, rfl⟩)
    have hle : rank b ≤ rank a := h b hseen (hkept.keyed (key a, b) hentry)
    rw [atLeast, if_pos (decide_eq_true hle), Assoc.find?_update, if_pos rfl]

/-- The item that the loop keeps for a key passes a test. -/
def Marked (key : α → κ) (rank : α → ρ) (p : α → Bool) (rows : List α) (k : κ) : Prop :=
  ∃ a, Assoc.find? (rows.foldl (keepBest key (atLeast rank)) []) k = some a ∧ p a = true

/-- The highest items of a key all pass the test, or none does. -/
def Agree (key : α → κ) (rank : α → ρ) (p : α → Bool) (rows : List α) (k : κ) : Prop :=
  ∀ a ∈ rows, ∀ b ∈ rows, key a = k → key b = k → Highest key rank rows a →
    Highest key rank rows b → p a = p b

variable {p : α → Bool} {rows' : List α} {k : κ}

theorem highest_of_find? (h : Assoc.find? (rows.foldl (keepBest key (atLeast rank)) []) k = some a) :
    a ∈ rows ∧ key a = k ∧ Highest key rank rows a := by
  have hkept := kept_atLeast key rank rows
  have hentry := Assoc.mem_of_find? h
  have hlatest : a ∈ (rows.foldl (keepBest key (atLeast rank)) []).map Prod.snd :=
    List.mem_map.mpr ⟨(k, a), hentry, rfl⟩
  exact ⟨hkept.latest.mem a hlatest, hkept.keyed (k, a) hentry, hkept.latest.highest a hlatest⟩

theorem exists_find? (h : a ∈ rows) :
    ∃ b, Assoc.find? (rows.foldl (keepBest key (atLeast rank)) []) (key a) = some b := by
  have hkept := kept_atLeast key rank rows
  obtain ⟨b, hb, hkey⟩ := hkept.latest.covered a h
  have hfind := (mem_values_iff hkept.keyed hkept.distinct).mp hb
  rw [hkey] at hfind
  exact ⟨b, hfind⟩

omit [DecidableEq κ] in
theorem Highest.perm (hperm : rows'.Perm rows) (h : Highest key rank rows a) :
    Highest key rank rows' a := fun b hb => h b (hperm.mem_iff.mp hb)

theorem marked_iff (h : Agree key rank p rows k) :
    Marked key rank p rows k ↔
      ∃ a ∈ rows, key a = k ∧ Highest key rank rows a ∧ p a = true := by
  constructor
  · rintro ⟨a, hfind, hp⟩
    obtain ⟨ha, hkey, hhighest⟩ := highest_of_find? hfind
    exact ⟨a, ha, hkey, hhighest, hp⟩
  · rintro ⟨a, ha, hkey, hhighest, hp⟩
    have hkept : ∃ b, Assoc.find? (rows.foldl (keepBest key (atLeast rank)) []) (key a) = some b :=
      exists_find? ha
    obtain ⟨b, hfind⟩ := hkept
    rw [hkey] at hfind
    obtain ⟨hb, hbkey, hbhighest⟩ := highest_of_find? hfind
    exact ⟨b, hfind, (h b hb a ha hbkey hkey hbhighest hhighest).trans hp⟩

/-- A key is marked in every order of the items or in none exactly where its highest items agree. -/
theorem marked_perm_iff : (∀ rows' : List α, rows'.Perm rows →
      (Marked key rank p rows' k ↔ Marked key rank p rows k)) ↔ Agree key rank p rows k := by
  constructor
  · intro h
    -- Each of the highest items is the one that is kept in some order: the one where it stands last.
    have hlast : ∀ a ∈ rows, key a = k → Highest key rank rows a →
        (Marked key rank p rows k ↔ p a = true) := by
      intro a ha hkey hhighest
      obtain ⟨before, after, rfl⟩ := List.append_of_mem ha
      have hperm : (before ++ after ++ [a]).Perm (before ++ a :: after) := by
        rw [List.append_assoc]
        exact (List.perm_append_singleton a after).append_left before
      have hrest : Highest key rank (before ++ after) a := fun b hb =>
        hhighest b (hperm.mem_iff.mp (List.mem_append_left _ hb))
      have hfind := find?_atLeast_append hrest
      rw [hkey] at hfind
      rw [← h _ hperm, Marked, hfind]
      simp
    intro a ha b hb hakey hbkey hahighest hbhighest
    rw [Bool.eq_iff_iff, ← hlast a ha hakey hahighest, ← hlast b hb hbkey hbhighest]
  · intro h rows' hperm
    have hagree : Agree key rank p rows' k := by
      intro a ha b hb hakey hbkey hahighest hbhighest
      exact h a (hperm.mem_iff.mp ha) b (hperm.mem_iff.mp hb) hakey hbkey
        (hahighest.perm hperm.symm) (hbhighest.perm hperm.symm)
    rw [marked_iff hagree, marked_iff h]
    constructor
    · rintro ⟨a, ha, hkey, hhighest, hp⟩
      exact ⟨a, hperm.mem_iff.mp ha, hkey, hhighest.perm hperm.symm, hp⟩
    · rintro ⟨a, ha, hkey, hhighest, hp⟩
      exact ⟨a, hperm.mem_iff.mpr ha, hkey, hhighest.perm hperm, hp⟩

end Latest

end DqMadeEasy
