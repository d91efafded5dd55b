import Mathlib.Data.List.Dedup

/-!
# Draining in batches

A loop that takes one batch after the other until it meets a short one. Every batch does as much of
what is left as its size allows, so a short one finds nothing left behind it. What the batches keep
is stated as a relation between the state before and after. The batch of a list of entries erases
the first keys, in some order, of the entries that have a property.
-/

namespace DqMadeEasy

namespace Drain

variable {σ ε : Type}

/-- The loop, with the total of the batches before. It ends with the first batch that is smaller
than its size, or fails with the batch that fails; without fuel it has no result. -/
def drain (batch : σ → Except ε (ℕ × σ)) (size : ℕ) : ℕ → ℕ → σ → Option (Except ε ℕ × σ)
  | 0, _, _ => none
  | fuel + 1, total, s =>
    match batch s with
    | .error e => some (.error e, s)
    | .ok (done, s') =>
      if done < size then some (.ok (total + done), s') else drain batch size fuel (total + done) s'

variable {batch : σ → Except ε (ℕ × σ)} {size : ℕ}

variable {fuel : ℕ} {s s' : σ}

theorem drain_short {total done : ℕ} (hbatch : batch s = .ok (done, s')) (hshort : done < size) :
    drain batch size (fuel + 1) total s = some (.ok (total + done), s') := by
  rw [drain, hbatch]
  exact if_pos hshort

theorem drain_full {total done : ℕ} (hbatch : batch s = .ok (done, s')) (hfull : ¬done < size) :
    drain batch size (fuel + 1) total s = drain batch size fuel (total + done) s' := by
  rw [drain, hbatch]
  exact if_neg hfull

theorem drain_error {total : ℕ} {e : ε} (hbatch : batch s = .error e) :
    drain batch size (fuel + 1) total s = some (.error e, s) := by
  rw [drain, hbatch]

/-- What one batch does: it takes from what is left as much as its size allows. -/
structure Takes (left : σ → ℕ) (size : ℕ) (keeps : σ → σ → Prop) (s s' : σ) (done : ℕ) : Prop where
  done_eq : done = min size (left s)
  left_eq : left s' + done = left s
  keeps : keeps s s'

/-- The loop does all that is left, and keeps what every batch keeps. -/
theorem drain_spec {left : σ → ℕ} (keeps : σ → σ → Prop) {invariant : σ → Prop} (hsize : 0 < size)
    (htrans : ∀ s s' s'', keeps s s' → keeps s' s'' → keeps s s'') (hbatch : ∀ s, invariant s →
      ∃ done s', batch s = .ok (done, s') ∧ Takes left size keeps s s' done ∧ invariant s')
    (total : ℕ) (hs : invariant s) (hfuel : left s < fuel) :
    ∃ s', drain batch size fuel total s = some (.ok (total + left s), s') ∧ left s' = 0 ∧
      keeps s s' := by
  induction fuel generalizing total s with
  | zero => omega
  | succ fuel ih =>
    obtain ⟨done, s', hdone, htakes, hs'⟩ := hbatch s hs
    have hmin := htakes.done_eq
    have hleft := htakes.left_eq
    by_cases hshort : done < size
    · refine ⟨s', ?_, by omega, htakes.keeps⟩
      rw [drain_short hdone hshort, show done = left s by omega]
    · -- a full batch makes what is left smaller, which the fuel counts
      obtain ⟨s'', hrest, hnone, hkeeps⟩ := ih (total + done) hs' (by omega)
      refine ⟨s'', ?_, hnone, htrans s s' s'' htakes.keeps hkeeps⟩
      rw [drain_full hdone hshort, hrest, Nat.add_assoc, Nat.add_comm done, hleft]

theorem drain_ne_ok {total n : ℕ} {e : ε} (hbatch : batch s = .error e) :
    drain batch size fuel total s ≠ some (.ok n, s') := by
  cases fuel with
  | zero => nofun
  | succ fuel =>
    rw [drain_error hbatch]
    nofun

/-! ### Erasing entries -/

section Entries

variable {κ ν : Type} [DecidableEq κ]

def eraseKeys (keys : List κ) (xs : List (κ × ν)) : List (κ × ν) :=
  xs.filter fun entry => decide (entry.1 ∉ keys)

theorem eraseKeys_sublist (keys : List κ) (xs : List (κ × ν)) :
    (eraseKeys keys xs).Sublist xs := List.filter_sublist

variable {xs ys : List (κ × ν)} {p : κ × ν → Bool} {keys : List κ}

omit [DecidableEq κ] in
theorem mem_keys_iff (hkeys : (xs.map Prod.fst).Nodup) {entry : κ × ν} (hentry : entry ∈ xs) :
    entry.1 ∈ (xs.filter p).map Prod.fst ↔ p entry = true := by
  constructor
  · intro h
    obtain ⟨entry', hentry', hkey⟩ := List.mem_map.mp h
    obtain ⟨hmem, hp⟩ := List.mem_filter.mp hentry'
    rwa [List.inj_on_of_nodup_map hkeys hentry hmem hkey.symm]
  · intro h
    exact List.mem_map_of_mem (List.mem_filter.mpr ⟨hentry, h⟩)

theorem countP_mem_keys (hkeys : (xs.map Prod.fst).Nodup) (hnodup : keys.Nodup)
    (hsubset : ∀ key ∈ keys, key ∈ xs.map Prod.fst) :
    xs.countP (fun entry => decide (entry.1 ∈ keys)) = keys.length := by
  have hfiltered : ((xs.map Prod.fst).filter fun key => decide (key ∈ keys)).Perm keys := by
    apply (List.perm_ext_iff_of_nodup (hkeys.filter _) hnodup).mpr
    intro key
    rw [List.mem_filter, decide_eq_true_eq]
    exact ⟨And.right, fun h => ⟨hsubset key h, h⟩⟩
  rw [← hfiltered.length_eq, ← List.countP_eq_length_filter, List.countP_map]
  rfl

/-- A batch that erases the first entries with a property leaves the entries without it. -/
theorem takes_eraseKeys (size : ℕ) (hperm : ys.Perm xs) (hkeys : (xs.map Prod.fst).Nodup) :
    Takes (List.countP p) size (fun xs xs' => xs'.filter (!p ·) = xs.filter (!p ·)) xs
      (eraseKeys (((ys.filter p).map Prod.fst).take size) xs)
      (((ys.filter p).map Prod.fst).take size).length := by
  have hlisted : ((ys.filter p).map Prod.fst).Perm ((xs.filter p).map Prod.fst) :=
    (hperm.filter p).map Prod.fst
  have htaken : ∀ entry ∈ xs, entry.1 ∈ ((ys.filter p).map Prod.fst).take size →
      p entry = true := fun entry hentry h =>
    (mem_keys_iff hkeys hentry).mp (hlisted.mem_iff.mp (List.mem_of_mem_take h))
  constructor
  · rw [List.length_take, hlisted.length_eq, List.length_map, ← List.countP_eq_length_filter]
  · have hnodup : (((ys.filter p).map Prod.fst).take size).Nodup :=
      (hlisted.nodup_iff.mpr (hkeys.sublist (List.filter_sublist.map _))).sublist
        (List.take_sublist _ _)
    have hcount := countP_mem_keys hkeys hnodup fun key hkey =>
      (List.filter_sublist.map _).mem (hlisted.mem_iff.mp (List.mem_of_mem_take hkey))
    -- an entry with the property stays or is erased
    rw [eraseKeys, List.countP_eq_countP_filter_add xs p fun entry =>
      decide (entry.1 ∉ ((ys.filter p).map Prod.fst).take size), ← hcount]
    apply congrArg
    rw [List.countP_filter]
    apply List.countP_congr
    intro entry hentry
    have := htaken entry hentry
    grind
  · rw [eraseKeys, List.filter_filter]
    apply List.filter_congr
    intro entry hentry
    cases hp : p entry with
    | true => rfl
    | false =>
      have hkept := mt (htaken entry hentry) (by rw [hp]; exact Bool.false_ne_true)
      simp [hkept]

end Entries

end Drain

end DqMadeEasy
