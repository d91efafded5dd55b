import Mathlib.Algebra.Order.Floor.Ring
import Mathlib.Data.Rat.Floor
import Mathlib.Tactic.FieldSimp
import Mathlib.Tactic.Linarith
import DqMadeEasy.Worker.Error
import Mathlib.Tactic.Positivity

/-!
# The plan for failed rows

The failed rows of a rule are a stream that is read batch by batch. The plan counts the rows and
the batches, and keeps a sample of bounded size.
-/

namespace DqMadeEasy

namespace SparkExpectations

open Worker

variable {Row : Type*}

/-- What the loop carries from batch to batch. -/
structure BatchTotals (Row : Type*) where
  sampleRows : List Row := []
  totalErrorCount : ℕ := 0
  chunkCount : ℕ := 0

/-- The plan of `build_error_management_plan`. -/
structure ErrorManagementPlan (Row : Type*) where
  storageStrategy : Text
  totalErrorCount : ℕ
  chunkCount : ℕ
  overflowed : Bool
  sampledErrorRows : List Row

/-- One turn of the loop. -/
def BatchTotals.add (maxSamples : ℕ) (totals : BatchTotals Row) (batch : List Row) :
    BatchTotals Row where
  sampleRows :=
    if totals.sampleRows.length < maxSamples then
      totals.sampleRows ++ batch.take (maxSamples - totals.sampleRows.length)
    else totals.sampleRows
  totalErrorCount := totals.totalErrorCount + batch.length
  chunkCount := totals.chunkCount + 1

/-- The loop: batches are taken from the stream until one is empty. -/
def readBatches (chunkSize maxSamples : ℕ) (failedRows : List Row) (totals : BatchTotals Row) :
    BatchTotals Row :=
  if failedRows.take chunkSize = [] then totals
  else readBatches chunkSize maxSamples (failedRows.drop chunkSize)
    (totals.add maxSamples (failedRows.take chunkSize))
  termination_by failedRows.length
  decreasing_by
    rename_i hbatch
    rw [List.take_eq_nil_iff, not_or] at hbatch
    have hlength := List.length_pos_of_ne_nil hbatch.2
    rw [List.length_drop]
    omega

def buildErrorManagementPlan (failedRows : List Row) (chunkSize maxSamples : ℤ) :
    Except PyError (ErrorManagementPlan Row) :=
  if chunkSize ≤ 0 then .error (.builtin "ValueError" "chunk_size must be greater than zero")
  else if maxSamples < 0 then .error (.builtin "ValueError" "max_samples must be non-negative")
  else
    let totals := readBatches chunkSize.toNat maxSamples.toNat failedRows {}
    .ok {
      storageStrategy := "chunked"
      totalErrorCount := totals.totalErrorCount
      chunkCount := totals.chunkCount
      overflowed := decide (0 < totals.totalErrorCount ∧ maxSamples < totals.totalErrorCount)
      sampledErrorRows := totals.sampleRows }

/-! ### What the loop computes -/

theorem readBatches_nil (chunkSize maxSamples : ℕ) (totals : BatchTotals Row) :
    readBatches chunkSize maxSamples [] totals = totals := by
  rw [readBatches, if_pos List.take_nil]

theorem readBatches_of_ne_nil {chunkSize : ℕ} (hchunk : 0 < chunkSize) (maxSamples : ℕ)
    {failedRows : List Row} (hrows : failedRows ≠ []) (totals : BatchTotals Row) :
    readBatches chunkSize maxSamples failedRows totals =
      readBatches chunkSize maxSamples (failedRows.drop chunkSize)
        (totals.add maxSamples (failedRows.take chunkSize)) := by
  rw [readBatches, if_neg]
  rw [List.take_eq_nil_iff, not_or]
  exact ⟨hchunk.ne', hrows⟩

theorem readBatches_induction {chunkSize : ℕ} (hchunk : 0 < chunkSize) (maxSamples : ℕ)
    (P : List Row → BatchTotals Row → Prop)
    (hstep : ∀ rows totals, rows ≠ [] → P rows totals →
      P (rows.drop chunkSize) (totals.add maxSamples (rows.take chunkSize)))
    (rows : List Row) (totals : BatchTotals Row) (h : P rows totals) :
    P [] (readBatches chunkSize maxSamples rows totals) := by
  induction hlength : rows.length using Nat.strong_induction_on generalizing rows totals with
  | _ n ih =>
    by_cases hrows : rows = []
    · subst hrows
      rwa [readBatches_nil]
    · have hpos := List.length_pos_of_ne_nil hrows
      rw [readBatches_of_ne_nil hchunk _ hrows]
      exact ih _ (by rw [List.length_drop]; omega) _ _ (hstep rows totals hrows h) rfl

theorem totalErrorCount_readBatches {chunkSize : ℕ} (hchunk : 0 < chunkSize) (maxSamples : ℕ)
    (failedRows : List Row) :
    (readBatches chunkSize maxSamples failedRows {}).totalErrorCount = failedRows.length := by
  have h := readBatches_induction hchunk maxSamples
    (fun rows totals => totals.totalErrorCount + rows.length = failedRows.length)
    (fun rows totals _ h => by
      rw [BatchTotals.add, List.length_take, List.length_drop]
      dsimp only
      omega)
    failedRows {} (by simp)
  simpa using h

/-- The sample is as much of the rows as fits. -/
theorem sampleRows_readBatches {chunkSize : ℕ} (hchunk : 0 < chunkSize) (maxSamples : ℕ)
    (failedRows : List Row) :
    (readBatches chunkSize maxSamples failedRows {}).sampleRows = failedRows.take maxSamples := by
  have h := readBatches_induction hchunk maxSamples
    (fun rows totals => ∃ done, done ++ rows = failedRows ∧
      totals.sampleRows = done.take maxSamples)
    (fun rows totals _ h => by
      obtain ⟨done, hdone, hsample⟩ := h
      refine ⟨done ++ rows.take chunkSize, ?_, ?_⟩
      · rw [List.append_assoc, List.take_append_drop, hdone]
      · rw [BatchTotals.add, hsample, List.take_append]
        dsimp only
        split
        · rename_i hlt
          have hfit : done.length ≤ maxSamples := by
            rw [List.length_take] at hlt
            omega
          rw [List.take_of_length_le hfit]
        · rename_i hfull
          have hnone : maxSamples - done.length = 0 := by
            rw [List.length_take] at hfull
            omega
          rw [hnone, List.take_zero, List.append_nil])
    failedRows {} ⟨[], rfl, List.take_nil.symm⟩
  obtain ⟨done, hdone, hsample⟩ := h
  rw [List.append_nil] at hdone
  rw [hsample, hdone]

/-- A batch is one of the chunks of the rows. -/
theorem ceil_div_batch {chunkSize length : ℕ} (hchunk : 0 < chunkSize) (hlength : 0 < length) :
    ⌈(length : ℚ) / chunkSize⌉ = ⌈((length - chunkSize : ℕ) : ℚ) / chunkSize⌉ + 1 := by
  have hpos : (0 : ℚ) < chunkSize := by exact_mod_cast hchunk
  by_cases hle : chunkSize ≤ length
  · have hcast : ((length - chunkSize : ℕ) : ℚ) = length - chunkSize := by
      rw [Nat.cast_sub hle]
    have hdiv : (length : ℚ) / chunkSize = ((length - chunkSize : ℕ) : ℚ) / chunkSize + 1 := by
      rw [hcast]
      field_simp
      ring
    rw [hdiv, Int.ceil_add_one]
  · have hzero : length - chunkSize = 0 := by omega
    rw [hzero, Nat.cast_zero, zero_div, Int.ceil_zero, zero_add, Int.ceil_eq_iff]
    have hlt : (length : ℚ) < chunkSize := by exact_mod_cast Nat.lt_of_not_le hle
    have hlength' : (0 : ℚ) < length := by exact_mod_cast hlength
    constructor
    · have := div_pos hlength' hpos
      push_cast
      linarith
    · rw [Int.cast_one, div_le_one hpos]
      exact hlt.le

theorem chunkCount_readBatches {chunkSize : ℕ} (hchunk : 0 < chunkSize) (maxSamples : ℕ)
    (failedRows : List Row) :
    ((readBatches chunkSize maxSamples failedRows {}).chunkCount : ℤ) =
      ⌈(failedRows.length : ℚ) / chunkSize⌉ := by
  have h := readBatches_induction hchunk maxSamples
    (fun rows totals => (totals.chunkCount : ℤ) + ⌈(rows.length : ℚ) / chunkSize⌉ =
      ⌈(failedRows.length : ℚ) / chunkSize⌉)
    (fun rows totals hrows h => by
      rw [ceil_div_batch hchunk (List.length_pos_of_ne_nil hrows)] at h
      rw [BatchTotals.add, List.length_drop, ← h]
      push_cast
      ring)
    failedRows {} (by simp)
  simpa using h

/-! ### The plan -/

/-- What a plan says about the failed rows. -/
structure ErrorManagementPlan.Describes (plan : ErrorManagementPlan Row) (failedRows : List Row)
    (chunkSize maxSamples : ℤ) : Prop where
  totalErrorCount : plan.totalErrorCount = failedRows.length
  chunkCount : (plan.chunkCount : ℤ) = ⌈(failedRows.length : ℚ) / chunkSize⌉
  sampledErrorRows : plan.sampledErrorRows = failedRows.take maxSamples.toNat
  overflowed : plan.overflowed = true ↔ maxSamples < failedRows.length

theorem describes_of_ok (failedRows : List Row) {chunkSize maxSamples : ℤ}
    (hchunk : 0 < chunkSize) (hsamples : 0 ≤ maxSamples) :
    ∃ plan, buildErrorManagementPlan failedRows chunkSize maxSamples = .ok plan ∧
      plan.Describes failedRows chunkSize maxSamples ∧ plan.storageStrategy = "chunked" := by
  have hpos : 0 < chunkSize.toNat := by omega
  refine ⟨_, by rw [buildErrorManagementPlan, if_neg hchunk.not_ge, if_neg hsamples.not_gt],
    ⟨totalErrorCount_readBatches hpos _ _, ?_, sampleRows_readBatches hpos _ _, ?_⟩, rfl⟩
  · have hcast : ((chunkSize.toNat : ℕ) : ℚ) = chunkSize := by
      exact_mod_cast Int.toNat_of_nonneg hchunk.le
    rw [chunkCount_readBatches hpos, hcast]
  · rw [decide_eq_true_iff, totalErrorCount_readBatches hpos]
    constructor
    · exact fun h => h.2
    · intro h
      exact ⟨by omega, h⟩

/-- The plan counts every failed row once, samples the first rows up to the limit, and overflows
exactly beyond it; only the number of chunks depends on their size. -/
theorem plan_describes (failedRows : List Row) (chunkSize maxSamples : ℤ)
    (hchunk : 0 < chunkSize) (hsamples : 0 ≤ maxSamples) :
    ∃ plan, buildErrorManagementPlan failedRows chunkSize maxSamples = .ok plan ∧
      plan.Describes failedRows chunkSize maxSamples ∧
      ∀ chunkSize' > 0, ∃ plan', buildErrorManagementPlan failedRows chunkSize' maxSamples =
        .ok plan' ∧ { plan with chunkCount := plan'.chunkCount } = plan' := by
  obtain ⟨plan, hplan, hdescribes, hstrategy⟩ := describes_of_ok failedRows hchunk hsamples
  refine ⟨plan, hplan, hdescribes, fun chunkSize' hchunk' => ?_⟩
  obtain ⟨plan', hplan', hdescribes', hstrategy'⟩ :=
    describes_of_ok failedRows hchunk' hsamples
  refine ⟨plan', hplan', ?_⟩
  have hoverflowed : plan.overflowed = plan'.overflowed :=
    Bool.eq_iff_iff.mpr (hdescribes.overflowed.trans hdescribes'.overflowed.symm)
  cases plan'
  simp only [ErrorManagementPlan.mk.injEq]
  exact ⟨hstrategy.trans hstrategy'.symm,
    hdescribes.totalErrorCount.trans hdescribes'.totalErrorCount.symm, trivial, hoverflowed,
    hdescribes.sampledErrorRows.trans hdescribes'.sampledErrorRows.symm⟩

/-- Five rows in chunks of two, with a sample of three. -/
theorem plan_describes_five :
    ∃ plan, buildErrorManagementPlan [1, 2, 3, 4, 5] 2 3 = .ok plan ∧
      plan.Describes [1, 2, 3, 4, 5] 2 3 := by
  obtain ⟨plan, hplan, hdescribes, -⟩ :=
    plan_describes [1, 2, 3, 4, 5] 2 3 (by decide) (by decide)
  exact ⟨plan, hplan, hdescribes⟩

end SparkExpectations

end DqMadeEasy
