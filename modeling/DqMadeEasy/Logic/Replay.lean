import DqMadeEasy.Logic.Assoc
import DqMadeEasy.Logic.Sorted

/-!
# Replaying a log

The rows of a log are put in the order of a key and merged, each into the entry of its subject. The
entry of a subject depends on the rows of that subject only. A row that comes last among them is
merged last, wherever the other rows of the log stand.
-/

namespace DqMadeEasy

namespace Replay

open Sorted

variable {ρ κ : Type*} [LinearOrder κ] {key : ρ → κ} {p : ρ → Bool} {rows : List ρ} {row : ρ}

def history (key : ρ → κ) (p : ρ → Bool) (rows : List ρ) : List ρ := (sortOn key rows).filter p

/-- A row that is below another one is put before it. -/
theorem orderedInsert_append {sorted : List ρ} {last : ρ} (hle : key row ≤ key last) :
    (sorted ++ [last]).orderedInsert (fun a b => key a ≤ key b) row =
      sorted.orderedInsert (fun a b => key a ≤ key b) row ++ [last] := by
  induction sorted with
  | nil => exact if_pos hle
  | cons a sorted ih =>
    rw [List.cons_append, List.orderedInsert_cons, List.orderedInsert_cons, ih]
    split <;> rfl

theorem sortOn_append (hlast : ∀ other ∈ rows, key other ≤ key row) :
    sortOn key (rows ++ [row]) = sortOn key rows ++ [row] := by
  induction rows with
  | nil => rfl
  | cons a rows ih =>
    have hrest := ih fun other hother => hlast other (List.mem_cons_of_mem _ hother)
    show (sortOn key (rows ++ [row])).orderedInsert (fun a b => key a ≤ key b) a = _
    rw [hrest, orderedInsert_append (hlast a List.mem_cons_self)]
    rfl

/-- Inserting a row before selecting is inserting it after, if it is selected. -/
theorem filter_orderedInsert {sorted : List ρ}
    (hsorted : sorted.Pairwise fun a b => key a ≤ key b) :
    (sorted.orderedInsert (fun a b => key a ≤ key b) row).filter p =
      if p row then (sorted.filter p).orderedInsert (fun a b => key a ≤ key b) row
      else sorted.filter p := by
  induction sorted with
  | nil =>
    rw [List.orderedInsert_nil, List.filter_singleton]
    cases p row <;> rfl
  | cons a sorted ih =>
    obtain ⟨hhead, htail⟩ := List.pairwise_cons.mp hsorted
    rw [List.orderedInsert_cons]
    by_cases hle : key row ≤ key a
    · -- Everything that is selected is above the row.
      rw [if_pos hle, List.filter_cons]
      cases hp : p row with
      | false => rfl
      | true =>
        rw [if_pos rfl, if_pos rfl]
        cases hselected : (a :: sorted).filter p with
        | nil => rfl
        | cons b selected =>
          have hmem : b ∈ a :: sorted := (List.mem_filter.mp (hselected ▸ List.mem_cons_self)).1
          have hb : key row ≤ key b := by
            obtain rfl | hmem := List.mem_cons.mp hmem
            · exact hle
            · exact hle.trans (hhead b hmem)
          rw [List.orderedInsert_cons, if_pos hb]
    · rw [if_neg hle, List.filter_cons, ih htail, List.filter_cons]
      cases hp : p row with
      | false => rfl
      | true =>
        rw [if_pos rfl, if_pos rfl]
        cases hpa : p a with
        | false => rfl
        | true =>
          rw [if_pos rfl, if_pos rfl, List.orderedInsert_cons, if_neg hle]

theorem history_eq_sortOn (rows : List ρ) : history key p rows = sortOn key (rows.filter p) := by
  rw [history]
  induction rows with
  | nil => rfl
  | cons a rows ih =>
    show ((sortOn key rows).orderedInsert (fun a b => key a ≤ key b) a).filter p = _
    rw [filter_orderedInsert (pairwise_sortOn key rows), ih, List.filter_cons]
    cases p a <;> rfl

theorem history_append_of_not (hp : p row = false) :
    history key p (rows ++ [row]) = history key p rows := by
  have hfilter : [row].filter p = [] := List.filter_cons_of_neg (by simp [hp])
  rw [history_eq_sortOn, history_eq_sortOn, List.filter_append, hfilter, List.append_nil]

/-- A row that comes last among the selected ones is last in the history. -/
theorem history_append (hp : p row = true)
    (hlast : ∀ other ∈ rows, p other = true → key other ≤ key row) :
    history key p (rows ++ [row]) = history key p rows ++ [row] := by
  rw [history_eq_sortOn, history_eq_sortOn, List.filter_append, List.filter_cons_of_pos hp,
    List.filter_nil]
  apply sortOn_append
  intro other hother
  obtain ⟨hmem, hselected⟩ := List.mem_filter.mp hother
  exact hlast other hmem hselected

section Entries

variable {σ β : Type*} [DecidableEq σ] {read : ρ → Option (σ × (Option β → β))} {s : σ}

/-- Merge a row into the entry of its subject. -/
def mergeRow (read : ρ → Option (σ × (Option β → β))) (entries : List (σ × β)) (row : ρ) :
    List (σ × β) :=
  match read row with
  | none => entries
  | some (s, merge) => Assoc.update s merge entries

def subject (read : ρ → Option (σ × (Option β → β))) (row : ρ) : Option σ := (read row).map Prod.fst

def concerns (read : ρ → Option (σ × (Option β → β))) (s : σ) (row : ρ) : Bool :=
  subject read row = some s

def mergeEntry (read : ρ → Option (σ × (Option β → β))) (entry : Option β) (row : ρ) : Option β :=
  match read row with
  | none => entry
  | some (_, merge) => some (merge entry)

/-- The entry of a subject is that of the rows that concern it. -/
theorem find?_foldl_mergeRow (s : σ) (entries : List (σ × β)) :
    Assoc.find? (rows.foldl (mergeRow read) entries) s =
      (rows.filter (concerns read s)).foldl (mergeEntry read) (Assoc.find? entries s) := by
  induction rows generalizing entries with
  | nil => rfl
  | cons row rows ih =>
    rw [List.foldl_cons, ih, mergeRow, List.filter_cons, concerns, subject]
    cases hread : read row with
    | none => rfl
    | some effect =>
      obtain ⟨other, merge⟩ := effect
      dsimp only [Option.map_some]
      rw [Assoc.find?_update]
      by_cases hsame : other = s
      · rw [if_pos hsame, if_pos (by rw [hsame]; exact decide_eq_true rfl), List.foldl_cons, hsame,
          mergeEntry, hread]
      · have hconcerns : ¬decide (some other = some s) = true := by
          rw [decide_eq_true_eq]
          exact fun heq => hsame (Option.some.inj heq)
        rw [if_neg hsame, if_neg hconcerns]

theorem nodup_keys_foldl_mergeRow {entries : List (σ × β)} (h : (Assoc.keys entries).Nodup) :
    (Assoc.keys (rows.foldl (mergeRow read) entries)).Nodup := by
  induction rows generalizing entries with
  | nil => exact h
  | cons row rows ih =>
    rw [List.foldl_cons]
    apply ih
    rw [mergeRow]
    split
    · exact h
    · exact Assoc.nodup_keys_update h

def replay (key : ρ → κ) (read : ρ → Option (σ × (Option β → β))) (rows : List ρ) :
    List (σ × β) :=
  (sortOn key rows).foldl (mergeRow read) []

theorem find?_replay (s : σ) :
    Assoc.find? (replay key read rows) s =
      (history key (concerns read s) rows).foldl (mergeEntry read) none :=
  find?_foldl_mergeRow s []

theorem nodup_keys_replay : (Assoc.keys (replay key read rows)).Nodup :=
  nodup_keys_foldl_mergeRow List.nodup_nil

theorem find?_replay_eq_none (h : ∀ row ∈ rows, subject read row ≠ some s) :
    Assoc.find? (replay key read rows) s = none := by
  have hnil : rows.filter (concerns read s) = [] := by
    rw [List.filter_eq_nil_iff]
    intro row hrow hconcerns
    exact h row hrow (of_decide_eq_true hconcerns)
  rw [find?_replay, history_eq_sortOn, hnil]
  rfl

/-- What every row makes of an entry holds of every entry that is replayed. -/
theorem replay_induction {motive : σ → β → Prop}
    (hmerge : ∀ row ∈ rows, ∀ s merge, read row = some (s, merge) →
      ∀ entry : Option β, (∀ b ∈ entry, motive s b) → motive s (merge entry)) :
    ∀ s b, Assoc.find? (replay key read rows) s = some b → motive s b := by
  have hfold : ∀ (sorted : List ρ) (entries : List (σ × β)), (∀ row ∈ sorted, row ∈ rows) →
      (∀ s b, Assoc.find? entries s = some b → motive s b) →
      ∀ s b, Assoc.find? (sorted.foldl (mergeRow read) entries) s = some b → motive s b := by
    intro sorted
    induction sorted with
    | nil => exact fun _ _ hentries => hentries
    | cons row sorted ih =>
      intro entries hmem hentries
      rw [List.foldl_cons]
      refine ih _ (fun other hother => hmem other (List.mem_cons_of_mem _ hother)) ?_
      intro s b hfind
      rw [mergeRow] at hfind
      cases hread : read row with
      | none =>
        rw [hread] at hfind
        exact hentries s b hfind
      | some effect =>
        obtain ⟨other, merge⟩ := effect
        rw [hread] at hfind
        dsimp only at hfind
        rw [Assoc.find?_update] at hfind
        split at hfind
        · rename_i hsame
          cases hfind
          rw [← hsame]
          exact hmerge row (hmem row List.mem_cons_self) other merge hread _ (hentries other)
        · exact hentries s b hfind
  exact hfold _ [] (fun _ hrow => mem_sortOn.mp hrow) fun _ _ h => by cases h

theorem find?_replay_append_of_ne (hne : subject read row ≠ some s) :
    Assoc.find? (replay key read (rows ++ [row])) s = Assoc.find? (replay key read rows) s := by
  have hconcerns : concerns read s row = false := decide_eq_false hne
  rw [find?_replay, find?_replay, history_append_of_not hconcerns]

theorem find?_replay_append {merge : Option β → β} (hread : read row = some (s, merge))
    (hlast : ∀ other ∈ rows, subject read other = some s → key other ≤ key row) :
    Assoc.find? (replay key read (rows ++ [row])) s =
      some (merge (Assoc.find? (replay key read rows) s)) := by
  have hconcerns : concerns read s row = true := by
    rw [concerns, subject, hread]
    exact decide_eq_true rfl
  have hhistory : history key (concerns read s) (rows ++ [row]) =
      history key (concerns read s) rows ++ [row] := by
    apply history_append hconcerns
    intro other hother hsame
    exact hlast other hother (of_decide_eq_true hsame)
  rw [find?_replay, find?_replay, hhistory, List.foldl_concat, mergeEntry, hread]

end Entries

end Replay

end DqMadeEasy
