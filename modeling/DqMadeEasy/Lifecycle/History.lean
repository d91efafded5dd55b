import Mathlib.Data.List.Chain
import Mathlib.Data.Prod.Lex
import DqMadeEasy.Lifecycle.Governed
import DqMadeEasy.Logic.Sorted

/-!
# The status history of a rule

Every call that changes the status of a rule adds a row to its history. So do lifecycle transitions,
audit events and recorded transitions, whose statuses belong to another table or come from the
caller. The history is listed in the order of the texts of its times and, where these are equal, of
random ids. `Continues` and `Timely` say of a call what makes the listed rows a chain of moves of
the status table that ends in the status of the rule.
-/

namespace DqMadeEasy

namespace Lifecycle

open Transition

/-! ### Listing -/

section Listing

/-- What rows are listed by: the text or value of a time, and the random id of the row of a rule at a
position. -/
structure Stamps (Stamp Id : Type) where
  changedAt : Instant → Stamp
  rowId : ℕ → Id

variable {Stamp Id : Type} [LinearOrder Stamp] [LinearOrder Id]

def Stamps.key (stamps : Stamps Stamp Id) (row : StatusHistoryRow × ℕ) : Stamp ×ₗ Id :=
  toLex (stamps.changedAt row.1.changedAt, stamps.rowId row.2)

/-- The rows of a rule, oldest first. -/
def sortedHistory (stamps : Stamps Stamp Id) (rows : List StatusHistoryRow) :
    List StatusHistoryRow :=
  (Sorted.sortOn stamps.key rows.zipIdx).map Prod.fst

/-- `list_rule_status_history` of a rule that is there. -/
def listRuleStatusHistory (stamps : Stamps Stamp Id) (rows : List StatusHistoryRow)
    (limit offset : ℤ) : List StatusHistoryRow :=
  ((sortedHistory stamps rows).reverse.drop (max 0 offset).toNat).take (max 1 (min 100 limit)).toNat

variable [PyRuntime]

/-- A status may come after another one: it is the same, or the table has the move. -/
def Follows (overrides : PolicyOverrides) (source target : Text) : Prop :=
  source = target ∨ isTransitionDefined overrides .rule source target = true

def Links (older newer : StatusHistoryRow) : Prop := newer.fromStatus = some older.toStatus

/-- Whatever part of a history is listed is a chain of moves, and the newest row has led to the
status of the rule. -/
def ChainListed (overrides : PolicyOverrides) (stamps : Stamps Stamp Id) (status : Text)
    (rows : List StatusHistoryRow) : Prop :=
  ∀ limit offset : ℤ,
    (listRuleStatusHistory stamps rows limit offset).reverse.IsChain Links ∧
    (∀ row ∈ listRuleStatusHistory stamps rows limit offset, ∀ source ∈ row.fromStatus,
      Follows overrides source row.toStatus) ∧
    (offset ≤ 0 → ∀ newest ∈ (listRuleStatusHistory stamps rows limit offset).head?,
      newest.toStatus = status)

/-- The rows of a rule, in the order in which they were written, are a chain of moves that leads to
its status, and stand in the order of their keys. -/
structure Chained (overrides : PolicyOverrides) (stamps : Stamps Stamp Id) (status : Text)
    (rows : List StatusHistoryRow) : Prop where
  linked : rows.IsChain Links
  followed : ∀ row ∈ rows, ∀ source ∈ row.fromStatus, Follows overrides source row.toStatus
  newest : ∀ row ∈ rows.getLast?, row.toStatus = status
  timed : rows.zipIdx.IsChain fun older newer => stamps.key older ≤ stamps.key newer

variable {overrides : PolicyOverrides} {stamps : Stamps Stamp Id} {status status' : Text}
  {rows : List StatusHistoryRow}

omit [PyRuntime] in
theorem sortedHistory_eq_self
    (h : rows.zipIdx.IsChain fun older newer => stamps.key older ≤ stamps.key newer) :
    sortedHistory stamps rows = rows := by
  have : IsTrans (StatusHistoryRow × ℕ) fun a b => stamps.key a ≤ stamps.key b :=
    ⟨fun _ _ _ hab hbc => hab.trans hbc⟩
  rw [sortedHistory, Sorted.sortOn_eq_self (List.isChain_iff_pairwise.mp h)]
  simp

/-- A chain is listed as a chain. -/
theorem Chained.listed (h : Chained overrides stamps status rows) :
    ChainListed overrides stamps status rows := by
  intro limit offset
  rw [listRuleStatusHistory, sortedHistory_eq_self h.timed]
  have hsublist : ((rows.reverse.drop (max 0 offset).toNat).take
      (max 1 (min 100 limit)).toNat).Sublist rows.reverse :=
    (List.take_sublist _ _).trans (List.drop_sublist _ _)
  refine ⟨?_, ?_, ?_⟩
  · have hinfix : (rows.reverse.drop (max 0 offset).toNat).take (max 1 (min 100 limit)).toNat <:+:
        rows.reverse :=
      (List.take_prefix _ _).isInfix.trans (List.drop_suffix _ _).isInfix
    apply h.linked.infix
    rw [← List.reverse_infix, List.reverse_reverse]
    exact hinfix
  · intro row hrow
    exact h.followed row (List.mem_reverse.mp (hsublist.mem hrow))
  · intro hoffset row hrow
    have hzero : (max 0 offset).toNat = 0 := by omega
    have hpos : (max 1 (min 100 limit)).toNat ≠ 0 := by omega
    apply h.newest row
    rwa [hzero, List.drop_zero, List.head?_take, if_neg hpos, List.head?_reverse] at hrow

/-- A row that goes on from the status of the rule and comes after the rows before it goes on with
the chain. -/
theorem Chained.append (h : Chained overrides stamps status rows) {row : StatusHistoryRow}
    (hfrom : row.fromStatus = some status) (hto : row.toStatus = status')
    (hfollows : Follows overrides status status')
    (htimely : ∀ last ∈ rows.getLast?,
      stamps.key (last, rows.length - 1) ≤ stamps.key (row, rows.length)) :
    Chained overrides stamps status' (rows ++ [row]) := by
  constructor
  · refine h.linked.append (.singleton row) ?_
    rintro last hlast _ ⟨⟩
    rw [Links, hfrom, h.newest last hlast]
  · intro other hother source hsource
    rcases List.mem_append.mp hother with hother | hother
    · exact h.followed other hother source hsource
    · obtain rfl := List.mem_singleton.mp hother
      rw [hfrom] at hsource
      cases hsource
      rwa [hto]
  · intro last hlast
    rw [List.getLast?_concat] at hlast
    cases hlast
    exact hto
  · rw [List.zipIdx_append]
    refine h.timed.append (.singleton _) ?_
    rintro last hlast _ ⟨⟩
    rw [List.getLast?_zipIdx] at hlast
    obtain ⟨row₀, hrow₀, rfl⟩ := Option.map_eq_some_iff.mp hlast
    simpa using htimely row₀ hrow₀

end Listing

/-! ### What a call writes down -/

/-- What the history of a rule is about: what governs the rule, the lifecycle status that a
transition of it starts from, and its rows. -/
structure Chronicle extends RuleState where
  lifecycleFrom : Text
  history : List StatusHistoryRow

section Writes

variable [PyRuntime]

/-- The rows with the one added that a transition is written down in, if any. -/
def Noted (now : Instant) (source : Option Text) (target : Text) (allowSameStatus : Bool)
    (rows rows' : List StatusHistoryRow) : Prop :=
  ∃ action changedBy reason details, rows' = rows ++
    (statusHistoryRow? now action source target changedBy reason details allowSameStatus).toList

/-- What a call does to a rule that is there and to its history, where `restored` is what a rollback
finds to restore. -/
inductive Writes (overrides : PolicyOverrides) (restored : Option Restored) :
    Operation → Chronicle → Chronicle → Prop
  | silent (op : Operation) {c c' : Chronicle} : c'.toRuleState = c.toRuleState →
      c'.history = c.history → Writes overrides restored op c c'
  | update (ruleId : Text) (now : Instant) (fields : RuleFields) {c c' : Chronicle} :
      ensureTransitionAllowed overrides .rule (some c.status)
        (InMemory.desiredStatus c.status c.active fields.active) = .ok () →
      c'.toRuleState = { c.toRuleState with
        active := fields.active
        lastApprovalStatus :=
          if c.status = "deactivated" then some "draft"
          else c.lastApprovalStatus } →
      Noted now (some c.status) c'.status true c.history c'.history →
      Writes overrides restored (.update ruleId now fields) c c'
  | activate (ruleId : Text) (now : Instant) {c c' : Chronicle} :
      ensureRuleTransitionAllowed overrides (some c.status) "activated" = .ok () →
      c'.toRuleState = { c.toRuleState with
        active := true
        lastApprovalStatus := some "approved" } →
      Noted now (some c.status) "activated" false c.history c'.history →
      Writes overrides restored (.activate ruleId now) c c'
  | deactivate (ruleId : Text) (now : Instant) {c c' : Chronicle} :
      ensureRuleTransitionAllowed overrides (some c.status) "deactivated" = .ok () →
      c'.toRuleState = { c.toRuleState with
        active := false
        lastApprovalStatus := some "deactivated" } →
      Noted now (some c.status) "deactivated" false c.history c'.history →
      Writes overrides restored (.deactivate ruleId now) c c'
  | softDelete (ruleId : Text) (now : Instant) (removedBy : Text) {c c' : Chronicle} :
      ensureRuleTransitionAllowed overrides (some c.status) "removed" = .ok () →
      c'.toRuleState = { c.toRuleState with
        removed := true
        lastApprovalStatus := some "removed" } →
      Noted now (some c.status) "removed" false c.history c'.history →
      Writes overrides restored (.softDelete ruleId now removedBy) c c'
  | recover (ruleId : Text) (now : Instant) (recoveredBy : Text) {c c' : Chronicle} :
      ensureRuleTransitionAllowed overrides (some c.status) "recovered" = .ok () →
      c'.toRuleState = ⟨false, false, some "recovered"⟩ →
      Noted now (some c.status) "recovered" false c.history c'.history →
      Writes overrides restored (.recover ruleId now recoveredBy) c c'
  | setLifecycleStatus (ruleId : Text) (now : Instant) (lifecycleStatus : Text)
      (changedBy reason : Option Text) {c c' : Chronicle} :
      c.removed = false → c'.toRuleState = c.toRuleState →
      Noted now (some c.lifecycleFrom)
        (canonicalizeStatusValue .ruleLifecycle (some lifecycleStatus)) false c.history
        c'.history →
      Writes overrides restored (.setLifecycleStatus ruleId now lifecycleStatus changedBy reason)
        c c'
  | rollback (ruleId : Text) (now : Instant) (toVersionId reason : Text)
      (requestedByUserId : Option Text) (skipApproval : Bool) (tags : Option (List Text))
      {c c' : Chronicle} (version : Restored) :
      restored = some version → c'.toRuleState = { c.toRuleState with active := version.active } →
      c'.history = c.history →
      Writes overrides restored
        (.rollback ruleId now toVersionId reason requestedByUserId skipApproval tags) c c'
  | recordAuditEvent (ruleId : Text) (now : Instant) (action : Text)
      (fromStatus toStatus changedBy reason : Option Text) (eventDetails : Option Dict)
      (resulting : Text) {c c' : Chronicle} :
      resulting = toStatus.getD [] ∨ toStatus.getD [] = [] ∧ resulting = c.status →
      c'.toRuleState = c.toRuleState → Noted now fromStatus resulting true c.history c'.history →
      Writes overrides restored
        (.recordAuditEvent ruleId now action fromStatus toStatus changedBy reason eventDetails) c c'
  | recordStatusTransition (ruleId : Text) (now : Instant) (fromStatus : Option Text)
      (toStatus : WorkflowStatus) (changedBy reason : Option Text) {c c' : Chronicle} :
      ensureTransitionAllowed overrides .rule fromStatus toStatus.text = .ok () →
      c'.toRuleState = { c.toRuleState with lastApprovalStatus := some toStatus.text } →
      Noted now fromStatus toStatus.text false c.history c'.history →
      Writes overrides restored
        (.recordStatusTransition ruleId now fromStatus toStatus changedBy reason) c c'

/-- What a call stores of a rule that it adds. -/
structure Begins (c : Chronicle) : Prop where
  removed : c.removed = false
  unrecorded : c.lastApprovalStatus = none
  noted : ∃ now, Noted now none (if c.active then "activated" else "draft") true []
    c.history

/-- The reading of the clock of a call that may write a row. -/
def Operation.now? : Operation → Option Instant
  | .create _ now _ _ => some now
  | .update _ now _ => some now
  | .activate _ now => some now
  | .deactivate _ now => some now
  | .softDelete _ now _ => some now
  | .recover _ now _ => some now
  | .setLifecycleStatus _ now _ _ _ => some now
  | .recordAuditEvent _ now _ _ _ _ _ _ => some now
  | .recordStatusTransition _ now _ _ _ _ => some now
  | .saveAsTemplate _ now _ _ _ _ => some now
  | .rollback .. | .updateVersionTags .. | .markForRollback .. | .setVersionValidation .. => none

/-- What a call must meet to go on with the history of its rule. An edit does not switch an active
rule off, unless the table has the move from `activated` to the status that is recorded; what is
removed is not switched; a lifecycle transition keeps the lifecycle status; a rollback keeps the
active flag; and the statuses that the caller of the audit methods names are the rule's own. -/
def Operation.Continues (overrides : PolicyOverrides) (restored : Option Restored) (c : Chronicle) :
    Operation → Prop
  | .update _ _ fields => c.removed = false → c.active = true → fields.active = false →
      Follows overrides "activated" (ruleStatusOf false false c.lastApprovalStatus)
  | .activate .. => c.removed = true →
      isTransitionDefined overrides .rule "removed" "activated" = false
  | .deactivate .. => c.removed = true →
      isTransitionDefined overrides .rule "removed" "deactivated" = false
  | .setLifecycleStatus _ _ lifecycleStatus _ _ => c.removed = false →
      normalizeRuleStatus (some c.lifecycleFrom) =
        normalizeRuleStatus (some (canonicalizeStatusValue .ruleLifecycle (some lifecycleStatus)))
  | .rollback .. => ∀ version ∈ restored, c.removed = false → version.active = c.active
  | .recordAuditEvent _ _ _ fromStatus toStatus _ _ _ =>
      normalizeRuleStatus fromStatus = c.status ∧
        (normalizeRuleStatus toStatus = [] ∨ normalizeRuleStatus toStatus = c.status)
  | .recordStatusTransition _ _ fromStatus toStatus _ _ =>
      ensureTransitionAllowed overrides .rule fromStatus toStatus.text = .ok () →
      normalizeRuleStatus fromStatus = c.status ∧ c.removed = false ∧ c.active = false
  | .create .. | .softDelete .. | .recover .. | .updateVersionTags .. | .markForRollback ..
  | .setVersionValidation .. | .saveAsTemplate .. => True

variable {Stamp Id : Type} [LinearOrder Stamp] [LinearOrder Id]

/-- The row that a call writes comes after the last one of its rule: by its time, or at the same time
by its id. -/
def Operation.Timely (stamps : Stamps Stamp Id) (rows : List StatusHistoryRow) (op : Operation) :
    Prop :=
  ∀ now ∈ op.now?, ∀ last ∈ rows.getLast?,
    stamps.changedAt last.changedAt < stamps.changedAt now ∨
      stamps.changedAt last.changedAt = stamps.changedAt now ∧
        stamps.rowId (rows.length - 1) ≤ stamps.rowId rows.length

variable {overrides : PolicyOverrides} {stamps : Stamps Stamp Id} {restored : Option Restored}
  {op : Operation} {c c' : Chronicle} {now : Instant} {status status' : Text}
  {rows rows' : List StatusHistoryRow}

/-- The rows are the same and so is the status, or one row leads from the one to the other. -/
inductive Extends (overrides : PolicyOverrides) (now : Instant) (status status' : Text)
    (rows rows' : List StatusHistoryRow) : Prop
  | same : rows' = rows → status' = status → Extends overrides now status status' rows rows'
  | row (row : StatusHistoryRow) : rows' = rows ++ [row] → row.fromStatus = some status →
      row.toStatus = status' → row.changedAt = now → Follows overrides status status' →
      Extends overrides now status status' rows rows'

variable {source : Option Text} {target : Text} {g : RuleState}

/-- What a transition is written down in. -/
theorem Noted.cases {same : Bool} (h : Noted now source target same rows rows') :
    (rows' = rows ∧ (normalizeRuleStatus (some target) = [] ∨
      normalizeRuleStatus source = normalizeRuleStatus (some target))) ∨
    ((same = true ∨ normalizeRuleStatus source = [] ∨
      normalizeRuleStatus source ≠ normalizeRuleStatus (some target)) ∧
      normalizeRuleStatus (some target) ≠ [] ∧ ∃ row : StatusHistoryRow, rows' = rows ++ [row] ∧
        row.fromStatus =
          (if normalizeRuleStatus source = [] then none else some (normalizeRuleStatus source)) ∧
        row.toStatus = normalizeRuleStatus (some target) ∧ row.changedAt = now) := by
  obtain ⟨action, changedBy, reason, details, rfl⟩ := h
  rw [statusHistoryRow?]
  split
  · rename_i hblank
    exact .inl ⟨List.append_nil _, .inl hblank⟩
  split
  · rename_i hsame
    exact .inl ⟨List.append_nil _, .inr hsame.2.1⟩
  · rename_i hblank hsame
    refine .inr ⟨?_, hblank, _, rfl, rfl, rfl, rfl⟩
    by_contra hnot
    push Not at hnot
    exact hsame ⟨hnot.2.1, hnot.2.2, by simpa using hnot.1⟩

theorem Noted.extends {same : Bool} (h : Noted now source target same rows rows')
    (hsource : normalizeRuleStatus source = status)
    (htarget : normalizeRuleStatus (some target) = status') (hne : status ≠ [])
    (hne' : status' ≠ []) (hfollows : Follows overrides status status') :
    Extends overrides now status status' rows rows' := by
  obtain ⟨hrows, hblank | hsame⟩ | ⟨-, -, row, hrows, hfrom, hto, hnow⟩ := h.cases
  · exact absurd (htarget ▸ hblank) hne'
  · exact .same hrows (by rw [← htarget, ← hsame, hsource])
  · rw [hsource, if_neg hne] at hfrom
    exact .row row hrows hfrom (hto.trans htarget) hnow hfollows

theorem status_canonical (h : g.Recorded) :
    normalizeRuleStatus (some g.status) = g.status ∧ g.status ≠ [] := by
  have hmem {status : Text} (hstatus : status ∈ recordedStatuses) :
      normalizeRuleStatus (some status) = status ∧ status ≠ [] :=
    ⟨canonicalizeStatusValue_recorded hstatus, (recordedStatuses_spec hstatus).2.2.2.1⟩
  by_cases hremoved : g.removed = true
  · rw [RuleState.status, ruleStatusOf, if_pos hremoved]
    exact hmem (by decide)
  · by_cases hactive : g.active = true
    · rw [RuleState.status, ruleStatusOf, if_neg hremoved, if_pos hactive]
      exact ⟨canonicalizeStatusValue_eq_self (by decide) (by decide) (by decide), by decide⟩
    · exact hmem (RuleState.status_mem h (Bool.eq_false_iff.mpr hactive))

theorem follows_of_ensure (hensure : ensureTransitionAllowed overrides .rule source target = .ok ())
    (hstatus : normalizeRuleStatus source = status) (hne : status ≠ [])
    (htarget : normalizeRuleStatus (some target) = target) : Follows overrides status target := by
  rw [normalizeRuleStatus] at hstatus htarget
  rw [ensureTransitionAllowed, hstatus, htarget] at hensure
  split at hensure
  · rename_i hsame
    exact .inl (hsame.resolve_left hne)
  split at hensure
  · exact .inr ‹_›
  · cases hensure

theorem normalizeRuleStatus_text {status : Text} (h : isStatusText status = true)
    (hpending : status ≠ "pending") (hdeclined : status ≠ "declined") :
    normalizeRuleStatus (some status) = status :=
  canonicalizeStatusValue_eq_self h hpending hdeclined

/-- An edit that meets the condition leads to a status that may follow. -/
theorem follows_update {g' : RuleState} {active : Bool} (hrecorded : g.Recorded)
    (hensure : ensureTransitionAllowed overrides .rule (some g.status)
      (InMemory.desiredStatus g.status g.active active) = .ok ()) (hstate : g' = { g with
      active := active
      lastApprovalStatus :=
        if g.status = "deactivated" then some "draft" else g.lastApprovalStatus })
    (hcontinues : g.removed = false → g.active = true → active = false →
      Follows overrides "activated" (ruleStatusOf false false g.lastApprovalStatus)) :
    Follows overrides g.status g'.status := by
  obtain ⟨hcanonical, hne⟩ := status_canonical hrecorded
  subst hstate
  by_cases hremoved : g.removed = true
  · left
    simp only [RuleState.status, ruleStatusOf, hremoved, if_true]
  rw [Bool.not_eq_true] at hremoved
  have hstatus : g.status = ruleStatusOf false g.active g.lastApprovalStatus := by
    rw [RuleState.status, hremoved]
  simp only [RuleState.status, hremoved] at hensure hcanonical hne ⊢
  rw [← hstatus] at hensure hcanonical hne ⊢
  cases hwas : g.active with
  | true =>
    have hactivated : g.status = "activated" := by
      rw [hstatus, hwas]
      rfl
    cases active with
    | true => exact .inl hactivated
    | false =>
      rw [hactivated]
      exact hcontinues hremoved hwas rfl
  | false =>
    rw [hwas] at hensure
    cases active with
    | true =>
      show Follows overrides g.status "activated"
      exact follows_of_ensure hensure hcanonical hne
        (normalizeRuleStatus_text (by decide) (by decide) (by decide))
    | false =>
      by_cases hdeactivated : g.status = "deactivated"
      · have hdraft : normalizeRuleStatus (some "draft") = "draft" :=
          normalizeRuleStatus_text (by decide) (by decide) (by decide)
        rw [if_pos hdeactivated]
        have hnext : ruleStatusOf false false (some "draft") = "draft" := by
          simp only [ruleStatusOf, Bool.false_eq_true, if_false, hdraft]
          decide
        rw [hnext]
        have hdesired : InMemory.desiredStatus g.status false false = "draft" := by
          rw [hdeactivated]
          decide
        rw [hdesired] at hensure
        exact follows_of_ensure hensure hcanonical hne hdraft
      · left
        rw [if_neg hdeactivated, hstatus, hwas]

/-- A rule whose move passes the check is not removed, unless the table has the move from
`removed`. -/
theorem kept_of_ensure
    (hensure : ensureTransitionAllowed overrides .rule (some g.status) target = .ok ())
    (htarget : normalizeRuleStatus (some target) = target) (hne : target ≠ "removed")
    (hundefined : g.removed = true →
      isTransitionDefined overrides .rule "removed" target = false) : g.removed = false := by
  by_contra hremoved
  rw [Bool.not_eq_false] at hremoved
  have hstatus : g.status = "removed" := by
    rw [RuleState.status, ruleStatusOf, if_pos hremoved]
  rw [hstatus] at hensure
  obtain heq | hdefined := follows_of_ensure hensure
    (normalizeRuleStatus_text (by decide) (by decide) (by decide)) (by decide) htarget
  · exact hne heq.symm
  · rw [hundefined hremoved] at hdefined
    cases hdefined

/-- A call keeps the recorded statuses to those that the methods record. -/
theorem Writes.recorded (h : Writes overrides restored op c c') (hrecorded : c.Recorded) :
    c'.Recorded := by
  cases h with
  | silent _ hstate => rwa [hstate]
  | update ruleId now fields _ hstate =>
    rw [hstate]
    split
    · exact recorded_some (by decide)
    · exact hrecorded
  | activate _ _ _ hstate => rw [hstate]; exact recorded_some (by decide)
  | deactivate _ _ _ hstate => rw [hstate]; exact recorded_some (by decide)
  | softDelete _ _ _ _ hstate => rw [hstate]; exact recorded_some (by decide)
  | recover _ _ _ _ hstate => rw [hstate]; exact recorded_some (by decide)
  | setLifecycleStatus _ _ _ _ _ _ hstate => rwa [hstate]
  | rollback _ _ _ _ _ _ _ _ _ hstate => rw [hstate]; exact hrecorded
  | recordAuditEvent _ _ _ _ _ _ _ _ _ _ hstate => rwa [hstate]
  | recordStatusTransition _ _ _ toStatus _ _ _ hstate =>
    rw [hstate]
    exact recorded_some toStatus.text_spec.1

/-- What a call that meets the condition writes down goes on with the history. -/
theorem Writes.extends (h : Writes overrides restored op c c') (hrecorded : c.Recorded)
    (hcontinues : op.Continues overrides restored c) :
    (c'.history = c.history ∧ c'.status = c.status) ∨
      ∃ now, op.now? = some now ∧ Extends overrides now c.status c'.status c.history c'.history := by
  obtain ⟨hcanonical, hne⟩ := status_canonical hrecorded
  obtain ⟨hcanonical', hne'⟩ := status_canonical (h.recorded hrecorded)
  have htext {status : Text} (hstatus : status ∈ recordedStatuses) :
      normalizeRuleStatus (some status) = status := canonicalizeStatusValue_recorded hstatus
  have hshown {status : Text} (hstatus : status ∈ recordedStatuses) :
      ruleStatusOf false false (some status) = status := by
    simp only [ruleStatusOf, Bool.false_eq_true, if_false, htext hstatus,
      if_neg (recordedStatuses_spec hstatus).2.2.2.1]
  cases h with
  | silent _ hstate hhistory => exact .inl ⟨hhistory, congrArg RuleState.status hstate⟩
  | update ruleId now fields hensure hstate hnoted =>
    refine .inr ⟨now, rfl, hnoted.extends hcanonical hcanonical' hne hne' ?_⟩
    exact follows_update hrecorded hensure hstate hcontinues
  | activate ruleId now hensure hstate hnoted =>
    have htarget : normalizeRuleStatus (some "activated") = "activated" :=
      normalizeRuleStatus_text (by decide) (by decide) (by decide)
    have hkept := kept_of_ensure hensure htarget (by decide) hcontinues
    have hstatus : c'.status = "activated" := by
      rw [hstate, RuleState.status, hkept]
      rfl
    rw [hstatus]
    exact .inr ⟨now, rfl, hnoted.extends hcanonical htarget hne (by decide)
      (follows_of_ensure hensure hcanonical hne htarget)⟩
  | deactivate ruleId now hensure hstate hnoted =>
    have htarget : normalizeRuleStatus (some "deactivated") = "deactivated" :=
      htext (by decide)
    have hkept := kept_of_ensure hensure htarget (by decide) hcontinues
    have hstatus : c'.status = "deactivated" := by
      rw [hstate, RuleState.status, hkept]
      exact hshown (by decide)
    rw [hstatus]
    exact .inr ⟨now, rfl, hnoted.extends hcanonical htarget hne (by decide)
      (follows_of_ensure hensure hcanonical hne htarget)⟩
  | softDelete ruleId now removedBy hensure hstate hnoted =>
    have hstatus : c'.status = "removed" := by
      rw [hstate]
      rfl
    rw [hstatus]
    exact .inr ⟨now, rfl, hnoted.extends hcanonical (htext (by decide)) hne (by decide)
      (follows_of_ensure hensure hcanonical hne (htext (by decide)))⟩
  | recover ruleId now recoveredBy hensure hstate hnoted =>
    have hstatus : c'.status = "recovered" := by
      rw [hstate]
      exact hshown (by decide)
    rw [hstatus]
    exact .inr ⟨now, rfl, hnoted.extends hcanonical (htext (by decide)) hne (by decide)
      (follows_of_ensure hensure hcanonical hne (htext (by decide)))⟩
  | setLifecycleStatus ruleId now lifecycleStatus changedBy reason hkept hstate hnoted =>
    left
    refine ⟨?_, congrArg RuleState.status hstate⟩
    have hsame := hcontinues hkept
    obtain ⟨hrows, -⟩ | ⟨hdiffers, hblank, -⟩ := hnoted.cases
    · exact hrows
    · rw [hsame] at hdiffers
      simp [hblank] at hdiffers
  | rollback ruleId now toVersionId reason requestedByUserId skipApproval tags version hfound hstate
      hhistory =>
    left
    refine ⟨hhistory, ?_⟩
    rw [hstate, RuleState.status, RuleState.status]
    by_cases hremoved : c.removed = true
    · simp only [ruleStatusOf, hremoved, if_true]
    · rw [hcontinues version hfound (Bool.eq_false_iff.mpr hremoved)]
  | recordAuditEvent ruleId now action fromStatus toStatus changedBy reason eventDetails resulting
      hresulting hstate hnoted =>
    have hstatus : c'.status = c.status := congrArg RuleState.status hstate
    obtain ⟨hsource, htarget⟩ := hcontinues
    have hcases : normalizeRuleStatus (some resulting) = [] ∨
        normalizeRuleStatus (some resulting) = c.status := by
      obtain rfl | ⟨-, rfl⟩ := hresulting
      · exact htarget
      · exact .inr hcanonical
    obtain hblank | hsame := hcases
    · left
      refine ⟨?_, hstatus⟩
      obtain ⟨hrows, -⟩ | ⟨-, hne, -⟩ := hnoted.cases
      · exact hrows
      · exact absurd hblank hne
    · rw [hstatus]
      exact .inr ⟨now, rfl, hnoted.extends hsource hsame hne hne (.inl rfl)⟩
  | recordStatusTransition ruleId now fromStatus toStatus changedBy reason hensure hstate hnoted =>
    obtain ⟨hsource, hkept, hinactive⟩ := hcontinues hensure
    obtain ⟨hmem, htarget⟩ := toStatus.text_spec
    have hstatus : c'.status = toStatus.text := by
      rw [hstate, RuleState.status, hkept, hinactive]
      exact hshown hmem
    rw [hstatus]
    exact .inr ⟨now, rfl, hnoted.extends hsource htarget hne (recordedStatuses_spec hmem).2.2.2.1
      (follows_of_ensure hensure hsource hne htarget)⟩

theorem Writes.chained (h : Writes overrides restored op c c') (hrecorded : c.Recorded)
    (hchained : Chained overrides stamps c.status c.history)
    (hcontinues : op.Continues overrides restored c) (htimely : op.Timely stamps c.history) :
    Chained overrides stamps c'.status c'.history := by
  obtain ⟨hhistory, hstatus⟩ | ⟨now, hnow, hextends⟩ := h.extends hrecorded hcontinues
  · rwa [hhistory, hstatus]
  cases hextends with
  | same hhistory hstatus => rwa [hhistory, hstatus]
  | row row hhistory hfrom hto htime hfollows =>
    rw [hhistory]
    refine hchained.append hfrom hto hfollows ?_
    intro last hlast
    rw [Stamps.key, Stamps.key, Prod.Lex.toLex_le_toLex, htime]
    exact htimely now hnow last hlast

theorem Begins.recorded (h : Begins c) : c.Recorded := by
  rw [RuleState.Recorded, h.unrecorded]
  exact .inl (canonicalizeStatusValue_eq_self rfl (by decide) (by decide))

/-- The history of a rule that is added is a chain of one row. -/
theorem Begins.chained (h : Begins c) : Chained overrides stamps c.status c.history := by
  obtain ⟨now, hnoted⟩ := h.noted
  have hblank : normalizeRuleStatus none = [] :=
    canonicalizeStatusValue_eq_self rfl (by decide) (by decide)
  have hstatus : c.status = if c.active then "activated".toList else "draft".toList := by
    rw [RuleState.status, h.removed, h.unrecorded, ruleStatusOf]
    simp only [hblank, if_true, Bool.false_eq_true, if_false]
  obtain ⟨htarget, hne⟩ := status_canonical h.recorded
  rw [← hstatus] at hnoted
  obtain ⟨-, hempty | hsame⟩ | ⟨-, -, row, hrows, hfrom, hto, -⟩ := hnoted.cases
  · exact absurd (htarget ▸ hempty) hne
  · rw [hblank, htarget] at hsame
    exact absurd hsame.symm hne
  · rw [hblank, if_pos rfl] at hfrom
    rw [htarget] at hto
    rw [List.nil_append] at hrows
    rw [hrows]
    refine ⟨.singleton row, ?_, ?_, .singleton _⟩
    · intro other hother source hsource
      rw [List.mem_singleton.mp hother, hfrom] at hsource
      cases hsource
    · rintro _ ⟨⟩
      exact hto

/-- A repository of rules with histories. -/
structure HistoryStore (overrides : PolicyOverrides) where
  State : Type
  Step : State → Operation → State → Prop
  chronicle? : State → Text → Option Chronicle
  /-- What a rollback finds to restore. -/
  restored? : State → Operation → Option Restored
  writes {s s' : State} {op : Operation} {ruleId : Text} {c' : Chronicle} : Step s op s' →
    chronicle? s' ruleId = some c' →
    (chronicle? s ruleId = none ∧ Begins c') ∨ ∃ c, chronicle? s ruleId = some c ∧
      (c' = c ∨ op.ruleId = ruleId ∧ Writes overrides (restored? s op) op c c')

variable (store : HistoryStore overrides) (stampsOf : Text → Stamps Stamp Id)

def HistoryStore.Meets (s : store.State) (op : Operation) : Prop :=
  ∀ c, store.chronicle? s op.ruleId = some c → op.Continues overrides (store.restored? s op) c ∧
    op.Timely (stampsOf op.ruleId) c.history

def HistoryStore.AllChained (s : store.State) : Prop :=
  ∀ ruleId c, store.chronicle? s ruleId = some c →
    c.Recorded ∧ Chained overrides (stampsOf ruleId) c.status c.history

variable {store stampsOf}

theorem HistoryStore.AllChained.step {s s' : store.State} (h : store.AllChained stampsOf s)
    (hstep : store.Step s op s') (hmeets : store.Meets stampsOf s op) :
    store.AllChained stampsOf s' := by
  intro ruleId c' hc'
  obtain ⟨-, hbegins⟩ | ⟨c, hc, rfl | ⟨hruleId, hwrites⟩⟩ := store.writes hstep hc'
  · exact ⟨hbegins.recorded, hbegins.chained⟩
  · exact h ruleId c' hc
  · obtain ⟨hrecorded, hchained⟩ := h ruleId c hc
    subst hruleId
    obtain ⟨hcontinues, htimely⟩ := hmeets c hc
    exact ⟨hwrites.recorded hrecorded, hwrites.chained hrecorded hchained hcontinues htimely⟩

variable (store stampsOf) in
/-- In every run from rules without history whose calls meet the condition, the history of every rule
is listed as a chain of moves that ends in its status. -/
def HistoryStore.HistoriesChained : Prop :=
  ∀ start ops s, Runs store.Step (store.Meets stampsOf) start ops s →
    (∀ ruleId c, store.chronicle? start ruleId = some c → c.Recorded ∧ c.history = []) →
    ∀ ruleId c, store.chronicle? s ruleId = some c →
      ChainListed overrides (stampsOf ruleId) c.status c.history

theorem HistoryStore.historiesChained : store.HistoriesChained stampsOf := by
  intro start ops s h hstart ruleId c hc
  have hall : store.AllChained stampsOf s := by
    refine h.invariant ?_ fun _ _ _ hall hstep hmeets => hall.step hstep hmeets
    intro ruleId c hc
    obtain ⟨hrecorded, hempty⟩ := hstart ruleId c hc
    rw [hempty]
    exact ⟨hrecorded, .nil, nofun, nofun, .nil⟩
  exact (hall ruleId c hc).2.listed

end Writes

/-! ### The in-memory repository -/

namespace InMemory

section Writes

variable [PyRuntime]

def StoredRule.chronicle (r : StoredRule) : Chronicle where
  toRuleState := StoredRule.state r
  lifecycleFrom := currentLifecycleStatus r
  history := r.history

variable {overrides : PolicyOverrides} {repo repo' : Repository} {op : Operation} {ruleId : Text}
  {r r' : StoredRule} {now : Instant} {restored : Option Restored}

theorem noted_recordTransition (action : Text) (fromStatus : Option Text) (toStatus : Text)
    (changedBy reason : Option Text) (details : Option Dict) (same : Bool) :
    Noted now fromStatus toStatus same r.history
      (r.recordTransition now action fromStatus toStatus changedBy reason details same).history :=
  ⟨action, changedBy, reason, details, rfl⟩

theorem writes_updated {fields : RuleFields}
    (h : updatedRule overrides now fields r = .ok (some r')) :
    Writes overrides restored (.update ruleId now fields) (StoredRule.chronicle r)
      (StoredRule.chronicle r') := by
  rw [updatedRule] at h
  obtain ⟨_, hensure, hstore⟩ := ok_of_bind h
  cases hstore
  exact .update ruleId now fields hensure rfl ⟨_, _, _, _, rfl⟩

theorem writes_activated (h : activatedRule overrides now r = .ok (some r')) :
    Writes overrides restored (.activate ruleId now) (StoredRule.chronicle r)
      (StoredRule.chronicle r') := by
  rw [activatedRule] at h
  obtain ⟨_, hensure, hstore⟩ := ok_of_bind h
  cases hstore
  exact .activate ruleId now hensure rfl ⟨_, _, _, _, rfl⟩

theorem writes_deactivated (h : deactivatedRule overrides now r = .ok (some r')) :
    Writes overrides restored (.deactivate ruleId now) (StoredRule.chronicle r)
      (StoredRule.chronicle r') := by
  rw [deactivatedRule] at h
  obtain ⟨_, hensure, hstore⟩ := ok_of_bind h
  cases hstore
  exact .deactivate ruleId now hensure rfl ⟨_, _, _, _, rfl⟩

theorem writes_softDeleted {removedBy : Text}
    (h : softDeletedRule overrides now removedBy r = .ok (some r')) :
    Writes overrides restored (.softDelete ruleId now removedBy) (StoredRule.chronicle r)
      (StoredRule.chronicle r') := by
  rw [softDeletedRule] at h
  obtain ⟨_, _, h⟩ := ok_of_bind h
  obtain ⟨_, _, h⟩ := ok_of_bind h
  obtain ⟨_, _, h⟩ := ok_of_bind h
  obtain ⟨_, hensure, hstore⟩ := ok_of_bind h
  cases hstore
  exact .softDelete ruleId now removedBy hensure rfl ⟨_, _, _, _, rfl⟩

theorem writes_recovered {recoveredBy : Text}
    (h : recoveredRule overrides now recoveredBy r = .ok (some r')) :
    Writes overrides restored (.recover ruleId now recoveredBy) (StoredRule.chronicle r)
      (StoredRule.chronicle r') := by
  rw [recoveredRule] at h
  obtain ⟨_, _, h⟩ := ok_of_bind h
  obtain ⟨_, hensure, hstore⟩ := ok_of_bind h
  cases hstore
  exact .recover ruleId now recoveredBy hensure rfl ⟨_, _, _, _, rfl⟩

theorem writes_lifecycle {lifecycleStatus : Text} {changedBy reason : Option Text}
    (h : lifecycleRule overrides now lifecycleStatus changedBy reason r = .ok (some r')) :
    Writes overrides restored (.setLifecycleStatus ruleId now lifecycleStatus changedBy reason)
      (StoredRule.chronicle r) (StoredRule.chronicle r') := by
  rw [lifecycleRule] at h
  split at h
  · cases h
  rename_i hremoved
  obtain ⟨_, _, h⟩ := ok_of_bind h
  obtain ⟨_, _, h⟩ := ok_of_bind h
  obtain ⟨_, _, hstore⟩ := ok_of_bind h
  cases hstore
  exact .setLifecycleStatus ruleId now lifecycleStatus changedBy reason
    (Bool.eq_false_iff.mpr hremoved) rfl ⟨_, _, _, _, rfl⟩

omit [PyRuntime] in
theorem history_rolledBack (toVersionId actorId reason : Text) (skipApproval : Bool)
    (tags : Option (List Text)) :
    (rolledBackRule now ruleId toVersionId actorId reason skipApproval tags r).2.history =
      r.history := by
  rw [rolledBackRule]
  split
  · rfl
  · simp only
    split
    · rfl
    · rfl

theorem writes_rolledBack {toVersionId actorId reason : Text} {requestedByUserId : Option Text}
    {skipApproval : Bool} {tags : Option (List Text)} (hfind : repo.find? ruleId = some r)
    (hop : op = .rollback ruleId now toVersionId reason requestedByUserId skipApproval tags) :
    Writes overrides (restored? repo op) op (StoredRule.chronicle r) (StoredRule.chronicle
      (rolledBackRule now ruleId toVersionId actorId reason skipApproval tags r).2) := by
  subst hop
  cases htarget : rollbackTarget? ruleId toVersionId r with
  | none =>
    obtain ⟨_, -, hentity, hdetails⟩ :=
      rolledBackRule_of_none now actorId reason skipApproval tags htarget
    refine .silent _ ?_ (history_rolledBack toVersionId actorId reason skipApproval tags)
    show StoredRule.state _ = StoredRule.state _
    rw [StoredRule.state, hentity, hdetails, StoredRule.state]
  | some snapshot =>
    obtain ⟨current, target, description, receipt, -, -, hrolled⟩ :=
      rolledBackRule_of_some now actorId reason skipApproval tags htarget
    rw [hrolled]
    refine .rollback ruleId now toVersionId reason requestedByUserId skipApproval tags
      ⟨snapshot.active, snapshot.versioned⟩ ?_ rfl rfl
    rw [restored?, hfind, Option.bind_some, htarget, Option.map_some]

theorem writes_transitioned {fromStatus : Option Text} {toStatus : WorkflowStatus}
    {changedBy reason : Option Text}
    (h : transitionedRule overrides now fromStatus toStatus.text changedBy reason r = .ok r') :
    Writes overrides restored
      (.recordStatusTransition ruleId now fromStatus toStatus changedBy reason)
      (StoredRule.chronicle r) (StoredRule.chronicle r') := by
  obtain ⟨hmem, hnorm⟩ := toStatus.text_spec
  rw [transitionedRule, hnorm] at h
  obtain ⟨_, hensure, hstore⟩ := ok_of_bind h
  simp only [if_neg (recordedStatuses_spec hmem).2.2.2.1] at hstore
  cases hstore
  exact .recordStatusTransition ruleId now fromStatus toStatus changedBy reason hensure rfl
    ⟨_, _, _, _, rfl⟩

theorem writes_versionMethod (versionId : Text) (change : VersionRow → VersionRow) :
    (versionMethod ruleId versionId change repo).2 = repo ∨
      ∃ r r', repo.find? ruleId = some r ∧
        Writes overrides restored op (StoredRule.chronicle r) (StoredRule.chronicle r') ∧
        (versionMethod ruleId versionId change repo).2 = repo.put ruleId r' := by
  rw [versionMethod]
  split
  · exact .inl rfl
  · rename_i r hfind
    split
    · exact .inl rfl
    · refine .inr ⟨r, _, hfind, ?_, rfl⟩
      exact .silent _ rfl rfl

theorem writes_method {change : StoredRule → Except RepositoryError (Option StoredRule)}
    {result : Repository → StoredRule → Option RuleRecord}
    (hwrites : ∀ r r', change r = .ok (some r') →
      Writes overrides restored op (StoredRule.chronicle r) (StoredRule.chronicle r')) :
    (repo.method ruleId change result).2 = repo ∨
      ∃ r r', repo.find? ruleId = some r ∧
        Writes overrides restored op (StoredRule.chronicle r) (StoredRule.chronicle r') ∧
        (repo.method ruleId change result).2 = repo.put ruleId r' := by
  obtain h | ⟨r, r', hfind, hchange, h⟩ := repo.method_cases ruleId change result
  · exact .inl h
  · exact .inr ⟨r, r', hfind, hwrites r r' hchange, h⟩

theorem Born.begins (h : Born repo op ruleId r') : Begins (StoredRule.chronicle r') := by
  cases h with
  | create _ now origin fields => exact ⟨rfl, rfl, now, _, _, _, _, rfl⟩
  | template _ now => exact ⟨rfl, rfl, now, _, _, _, _, rfl⟩

/-- What a call of a rule that it does not add writes. -/
theorem perform_writes (overrides : PolicyOverrides) (repo : Repository)
    (hnew : op.newId? = none) : perform overrides repo op = repo ∨
    ∃ r r', repo.find? op.ruleId = some r ∧
      Writes overrides (restored? repo op) op (StoredRule.chronicle r) (StoredRule.chronicle r') ∧
      perform overrides repo op = repo.put op.ruleId r' := by
  cases op with
  | create => cases hnew
  | saveAsTemplate => cases hnew
  | update ruleId now fields => exact writes_method fun _ _ => writes_updated
  | activate ruleId now => exact writes_method fun _ _ => writes_activated
  | deactivate ruleId now => exact writes_method fun _ _ => writes_deactivated
  | softDelete ruleId now removedBy => exact writes_method fun _ _ => writes_softDeleted
  | recover ruleId now recoveredBy => exact writes_method fun _ _ => writes_recovered
  | setLifecycleStatus ruleId now lifecycleStatus changedBy reason =>
    exact writes_method fun _ _ => writes_lifecycle
  | rollback ruleId now toVersionId reason requestedByUserId skipApproval tags =>
    rw [perform, executeRuleRollback, Operation.ruleId]
    split
    · exact .inl rfl
    · rename_i r hfind
      exact .inr ⟨r, _, hfind, writes_rolledBack hfind rfl, rfl⟩
  | updateVersionTags ruleId versionId tags => exact writes_versionMethod versionId _
  | markForRollback ruleId versionId marked => exact writes_versionMethod versionId _
  | setVersionValidation ruleId now validationStatus validatedBy =>
    rw [perform, setCurrentRuleVersionValidation, Operation.ruleId]
    split
    · exact .inl rfl
    · rename_i r hfind
      split
      · exact .inl rfl
      · refine .inr ⟨r, _, hfind, ?_, rfl⟩
        exact .silent _ rfl rfl
  | recordAuditEvent ruleId now action fromStatus toStatus changedBy reason eventDetails =>
    rw [perform, recordRuleAuditEvent, Operation.ruleId]
    split
    · exact .inl rfl
    · rename_i r hfind
      refine .inr ⟨r, _, hfind, ?_, rfl⟩
      refine .recordAuditEvent ruleId now action fromStatus toStatus changedBy reason eventDetails _
        ?_ rfl (noted_recordTransition action fromStatus _ changedBy reason eventDetails true)
      split
      · exact .inr ⟨‹_›, rfl⟩
      · exact .inl rfl
  | recordStatusTransition ruleId now fromStatus toStatus changedBy reason =>
    rw [perform, recordRuleStatusTransition, Operation.ruleId]
    split
    · exact .inl rfl
    · rename_i r hfind
      split
      · exact .inl rfl
      · rename_i r' hchange
        exact .inr ⟨r, r', hfind, writes_transitioned hchange, rfl⟩

/-- What a call stores of a rule that it adds. -/
theorem perform_born (overrides : PolicyOverrides) (repo : Repository) {added : Text}
    (hnew : op.newId? = some added) :
    perform overrides repo op = repo ∨
      ∃ r', Born repo op added r' ∧ perform overrides repo op = repo.put added r' := by
  cases op with
  | create ruleId now origin fields =>
    cases hnew
    refine .inr ⟨_, .create added now origin fields, ?_⟩
    rw [perform, createRuleRecord]
    split
    · rfl
    · rfl
  | saveAsTemplate templateId now ruleId templateName templateDescription createdBy =>
    cases hnew
    rw [perform, saveRuleAsTemplate]
    split
    · exact .inl rfl
    · rename_i source hfind
      exact .inr ⟨_, .template added now templateName templateDescription createdBy hfind, rfl⟩
  | _ => cases hnew

/-- The in-memory repository. -/
def historyStore (overrides : PolicyOverrides) : HistoryStore overrides where
  State := Repository
  Step := Step overrides
  chronicle? repo ruleId := (repo.find? ruleId).map StoredRule.chronicle
  restored? := restored?
  writes := by
    intro repo repo' op ruleId c' hstep hc'
    obtain ⟨r', hr', rfl⟩ := Option.map_eq_some_iff.mp hc'
    obtain ⟨hfresh, rfl⟩ := hstep
    cases hnew : op.newId? with
    | some added =>
      obtain hsame | ⟨r₀, hborn, hput⟩ := perform_born overrides repo hnew
      · rw [hsame] at hr'
        exact .inr ⟨_, by rw [hr', Option.map_some], .inl rfl⟩
      · rw [hput] at hr'
        by_cases hid : ruleId = added
        · subst hid
          rw [Repository.find?_put_self] at hr'
          cases hr'
          exact .inl ⟨by rw [hfresh ruleId hnew, Option.map_none], hborn.begins⟩
        · rw [Repository.find?_put_of_ne hid] at hr'
          exact .inr ⟨_, by rw [hr', Option.map_some], .inl rfl⟩
    | none =>
      obtain hsame | ⟨r, r₀, hr, hwrites, hput⟩ :=
        perform_writes overrides repo hnew
      · rw [hsame] at hr'
        exact .inr ⟨_, by rw [hr', Option.map_some], .inl rfl⟩
      · rw [hput] at hr'
        by_cases hid : ruleId = op.ruleId
        · subst hid
          rw [Repository.find?_put_self] at hr'
          cases hr'
          exact .inr ⟨_, by rw [hr, Option.map_some], .inr ⟨rfl, hwrites⟩⟩
        · rw [Repository.find?_put_of_ne hid] at hr'
          exact .inr ⟨_, by rw [hr', Option.map_some], .inl rfl⟩

end Writes

end InMemory

/-! ### The tables -/

namespace Postgres

section Writes

variable [PyRuntime] {overrides : PolicyOverrides} {draws : Draws} {tables : Tables}
  {op : Operation} {ruleId : Text} {rows rows' : StoredRows} {now : Instant}
  {restored : Option Restored}

/-- What the history of a rule is about. -/
def StoredRows.chronicle (rows : StoredRows) : Chronicle where
  toRuleState := StoredRows.state rows
  lifecycleFrom :=
    let current := canonicalizeStatusValue .ruleLifecycle rows.row.lifecycleStatus
    if current = [] then "active" else current
  history := rows.history

theorem writes_activated (h : activatedRows overrides now rows = .ok (some rows')) :
    Writes overrides restored (.activate ruleId now) rows.chronicle rows'.chronicle := by
  rw [activatedRows] at h
  split at h
  · cases h
  obtain ⟨_, hensure, hstore⟩ := ok_of_bind h
  cases hstore
  exact .activate ruleId now hensure rfl ⟨_, _, _, _, rfl⟩

theorem writes_deactivated (h : deactivatedRows overrides now rows = .ok (some rows')) :
    Writes overrides restored (.deactivate ruleId now) rows.chronicle rows'.chronicle := by
  rw [deactivatedRows] at h
  split at h
  · cases h
  obtain ⟨_, hensure, hstore⟩ := ok_of_bind h
  cases hstore
  exact .deactivate ruleId now hensure rfl ⟨_, _, _, _, rfl⟩

theorem writes_softDeleted {removedBy : Text}
    (h : softDeletedRows overrides now removedBy rows = .ok (some rows')) :
    Writes overrides restored (.softDelete ruleId now removedBy) rows.chronicle
      rows'.chronicle := by
  rw [softDeletedRows] at h
  obtain ⟨_, _, h⟩ := ok_of_bind h
  obtain ⟨_, _, h⟩ := ok_of_bind h
  obtain ⟨_, _, h⟩ := ok_of_bind h
  obtain ⟨_, hensure, hstore⟩ := ok_of_bind h
  cases hstore
  exact .softDelete ruleId now removedBy hensure rfl ⟨_, _, _, _, rfl⟩

theorem writes_recovered {recoveredBy : Text}
    (h : recoveredRows overrides now recoveredBy rows = .ok (some rows')) :
    Writes overrides restored (.recover ruleId now recoveredBy) rows.chronicle
      rows'.chronicle := by
  rw [recoveredRows] at h
  obtain ⟨_, _, h⟩ := ok_of_bind h
  obtain ⟨_, hensure, hstore⟩ := ok_of_bind h
  cases hstore
  exact .recover ruleId now recoveredBy hensure rfl ⟨_, _, _, _, rfl⟩

theorem writes_lifecycle {lifecycleStatus : Text} {changedBy reason : Option Text}
    (h : lifecycleRows overrides now lifecycleStatus changedBy reason rows = .ok (some rows')) :
    Writes overrides restored (.setLifecycleStatus ruleId now lifecycleStatus changedBy reason)
      rows.chronicle rows'.chronicle := by
  rw [lifecycleRows] at h
  split at h
  · cases h
  rename_i hdeleted
  obtain ⟨_, _, h⟩ := ok_of_bind h
  obtain ⟨_, _, h⟩ := ok_of_bind h
  obtain ⟨_, _, hstore⟩ := ok_of_bind h
  cases hstore
  exact .setLifecycleStatus ruleId now lifecycleStatus changedBy reason
    (Bool.eq_false_iff.mpr hdeleted) rfl ⟨_, _, _, _, rfl⟩

theorem writes_rolledBack {versionId rollbackId toVersionId actorId reason : Text}
    {requestedByUserId : Option Text} {skipApproval : Bool} {tags : Option (List Text)}
    (hfind : tables.find? ruleId = some rows)
    (h : rolledBackRows ruleId versionId rollbackId now toVersionId actorId reason tags rows =
      .ok (some rows'))
    (hop : op = .rollback ruleId now toVersionId reason requestedByUserId skipApproval tags) :
    Writes overrides (restored? tables op) op rows.chronicle rows'.chronicle := by
  subst hop
  rw [rolledBackRows] at h
  split at h
  · cases h
  rename_i hdeleted
  obtain ⟨_, hcurrent, h⟩ := ok_of_bind h
  obtain ⟨_, hmissing, h⟩ := ok_of_bind h
  obtain ⟨target, htarget, hstore⟩ := ok_of_bind h
  cases hstore
  refine .rollback ruleId now toVersionId reason requestedByUserId skipApproval tags
    ⟨target.active, RuleVersionRow.versioned target⟩ ?_ rfl rfl
  rw [restored?, hfind, Option.bind_some, rollbackTarget?, if_neg, eq_some_of_orRaise htarget,
    Option.map_some]
  rintro (hremoved | heq | hempty)
  · exact hdeleted hremoved
  · exact not_of_raiseIf hcurrent heq
  · exact not_of_raiseIf hmissing hempty

theorem writes_audited {action : Text} {fromStatus toStatus changedBy reason : Option Text}
    {eventDetails : Option Dict}
    (h : auditedRows now action fromStatus toStatus changedBy reason eventDetails rows =
      .ok (some rows')) :
    Writes overrides restored
      (.recordAuditEvent ruleId now action fromStatus toStatus changedBy reason eventDetails)
      rows.chronicle rows'.chronicle := by
  cases h
  refine .recordAuditEvent ruleId now action fromStatus toStatus changedBy reason eventDetails
    (toStatus.getD rows.row.deriveRuleStatus) ?_ rfl ⟨_, _, _, _, rfl⟩
  cases toStatus with
  | none => exact .inr ⟨rfl, rfl⟩
  | some _ => exact .inl rfl

theorem writes_transitioned {fromStatus : Option Text} {toStatus : WorkflowStatus}
    {changedBy reason : Option Text}
    (h : transitionedRows overrides now fromStatus toStatus.text changedBy reason rows =
      .ok (some rows')) :
    Writes overrides restored
      (.recordStatusTransition ruleId now fromStatus toStatus changedBy reason)
      rows.chronicle rows'.chronicle := by
  obtain ⟨hmem, hnorm⟩ := toStatus.text_spec
  rw [transitionedRows, hnorm] at h
  obtain ⟨_, hensure, hstore⟩ := ok_of_bind h
  simp only [if_neg (recordedStatuses_spec hmem).2.2.2.1] at hstore
  cases hstore
  exact .recordStatusTransition ruleId now fromStatus toStatus changedBy reason hensure rfl
    ⟨_, _, _, _, rfl⟩

theorem writes_validated {validationStatus : Text} {validatedBy : Option Text}
    (h : validatedRows now validationStatus validatedBy rows = .ok (some rows')) :
    Writes overrides restored op rows.chronicle rows'.chronicle := by
  rw [validatedRows] at h
  split at h
  · cases h
  split at h
  · cases h
  split at h
  · cases h
  cases h
  exact .silent op rfl rfl

theorem writes_changedVersion {versionId : Text} {change : RuleVersionRow → RuleVersionRow}
    (h : changedVersionRows versionId change rows = .ok (some rows')) :
    Writes overrides restored op rows.chronicle rows'.chronicle := by
  rw [changedVersionRows] at h
  split at h
  · cases h
  cases h
  exact .silent op rfl rfl

variable [PyNumerals]

theorem writes_updated {versionId : Text} {fields : RuleFields}
    (h : updatedRows overrides versionId now fields rows = .ok (some rows')) :
    Writes overrides restored (.update ruleId now fields) rows.chronicle rows'.chronicle := by
  rw [updatedRows] at h
  split at h
  · cases h
  obtain ⟨_, hensure, h⟩ := ok_of_bind h
  obtain ⟨_, _, hstore⟩ := ok_of_bind h
  cases hstore
  exact .update ruleId now fields hensure rfl ⟨_, _, _, _, rfl⟩

/-- What a call of a rule that it does not add writes. -/
theorem writes_of_changeOf {change : StoredRows → Except RepositoryError (Option StoredRows)}
    (hop : changeOf overrides draws op = some (ruleId, change))
    (hchange : change rows = .ok (some rows')) (hfind : tables.find? ruleId = some rows) :
    op.ruleId = ruleId ∧
      Writes overrides (restored? tables op) op rows.chronicle rows'.chronicle := by
  cases op with
  | create => cases hop
  | saveAsTemplate => cases hop
  | update => cases hop; exact ⟨rfl, writes_updated hchange⟩
  | activate => cases hop; exact ⟨rfl, writes_activated hchange⟩
  | deactivate => cases hop; exact ⟨rfl, writes_deactivated hchange⟩
  | softDelete => cases hop; exact ⟨rfl, writes_softDeleted hchange⟩
  | recover => cases hop; exact ⟨rfl, writes_recovered hchange⟩
  | setLifecycleStatus => cases hop; exact ⟨rfl, writes_lifecycle hchange⟩
  | rollback => cases hop; exact ⟨rfl, writes_rolledBack hfind hchange rfl⟩
  | updateVersionTags => cases hop; exact ⟨rfl, writes_changedVersion hchange⟩
  | markForRollback => cases hop; exact ⟨rfl, writes_changedVersion hchange⟩
  | setVersionValidation => cases hop; exact ⟨rfl, writes_validated hchange⟩
  | recordAuditEvent => cases hop; exact ⟨rfl, writes_audited hchange⟩
  | recordStatusTransition => cases hop; exact ⟨rfl, writes_transitioned hchange⟩

theorem Born.begins (h : Born draws tables op ruleId rows') : Begins rows'.chronicle := by
  cases h with
  | create _ now origin fields => exact ⟨rfl, rfl, now, _, _, _, _, rfl⟩
  | template _ now => exact ⟨rfl, rfl, now, _, _, _, _, rfl⟩

/-- The tables. -/
def historyStore (overrides : PolicyOverrides) : HistoryStore overrides where
  State := Tables
  Step := Step overrides
  chronicle? tables ruleId := (tables.find? ruleId).map StoredRows.chronicle
  restored? := restored?
  writes := by
    intro tables tables' op ruleId c' hstep hc'
    obtain ⟨rows', hrows', rfl⟩ := Option.map_eq_some_iff.mp hc'
    obtain ⟨hnone, _, hborn⟩ | ⟨rows, hrows, rfl | ⟨_, _, hop, hchange⟩⟩ := step_entry hstep hrows'
    · exact .inl ⟨by rw [hnone, Option.map_none], hborn.begins⟩
    · exact .inr ⟨_, by rw [hrows, Option.map_some], .inl rfl⟩
    · exact .inr ⟨_, by rw [hrows, Option.map_some], .inr (writes_of_changeOf hop hchange hrows)⟩

end Writes

end Postgres

/-! ### Runs -/

/-- In both repositories the calls that meet the condition keep the history of every rule a chain of
moves that ends in its status, however times are written and ids are drawn. -/
theorem histories_chained [PyRuntime] [PyNumerals] {Stamp Id : Type} [LinearOrder Stamp]
    [LinearOrder Id] (overrides : PolicyOverrides) (stampsOf : Text → Stamps Stamp Id) :
    (InMemory.historyStore overrides).HistoriesChained stampsOf ∧
      (Postgres.historyStore overrides).HistoriesChained stampsOf :=
  ⟨HistoryStore.historiesChained, HistoryStore.historiesChained⟩

section Sample

local instance sampleRuntimeHistories : PyRuntime := sampleRuntimeActivation

local instance sampleNumeralsHistories : PyNumerals := sampleNumeralsActivation

/-- Times are listed by their value, and ids grow. -/
def growingStamps : Text → Stamps ℕ ℕ := fun _ => ⟨id, id⟩

def sampleSubmission (now : Instant) (fromStatus : String) : Operation :=
  .recordStatusTransition "r" now (some fromStatus.toList) .pendingApproval none none

/-- A creation and a submission meet the condition, and the history is listed as a chain. -/
theorem histories_chained_submission : ∃ c,
    (InMemory.historyStore noOverrides).chronicle? (sampleRepository [sampleSubmission 2 "draft"])
      "r".toList = some c ∧
    ChainListed noOverrides (growingStamps "r".toList) c.status c.history := by
  have hruns : Runs (InMemory.historyStore noOverrides).Step
      ((InMemory.historyStore noOverrides).Meets growingStamps)
      (⟨[], ["user-admin".toList], List.mem_cons_self⟩ : InMemory.Repository)
      [sampleCreation, sampleSubmission 2 "draft"]
      (sampleRepository [sampleSubmission 2 "draft"]) := by
    refine .cons ⟨fun _ _ => rfl, rfl⟩ nofun (.one ⟨nofun, rfl⟩ ?_)
    intro c hc
    have hview : ((InMemory.historyStore noOverrides).chronicle? (sampleRepository [])
        "r".toList).map (fun c => (c.status, c.removed, c.active, c.history.map fun row =>
          row.changedAt)) = some ("draft".toList, false, false, [1]) := by
      decide +kernel
    obtain ⟨hstatus, hremoved, hactive, htimes⟩ : c.status = "draft".toList ∧ c.removed = false ∧
        c.active = false ∧ c.history.map (fun row => row.changedAt) = [1] := by
      have hc : (InMemory.historyStore noOverrides).chronicle? (sampleRepository []) "r".toList =
          some c := hc
      rw [hc] at hview
      simpa using hview
    constructor
    · intro _
      rw [hstatus]
      exact ⟨normalizeRuleStatus_text (by decide) (by decide) (by decide), hremoved, hactive⟩
    · rintro _ ⟨⟩ last hlast
      left
      have hmem : last.changedAt ∈ c.history.map fun row => row.changedAt :=
        List.mem_map_of_mem (List.mem_of_getLast? hlast)
      rw [htimes, List.mem_singleton] at hmem
      show last.changedAt < 2
      rw [hmem]
      decide
  have hfound : ((InMemory.historyStore noOverrides).chronicle?
      (sampleRepository [sampleSubmission 2 "draft"]) "r".toList).isSome = true := by
    decide +kernel
  obtain ⟨c, hc⟩ := Option.isSome_iff_exists.mp hfound
  exact ⟨c, hc, (histories_chained noOverrides growingStamps).1 _ _ _ hruns nofun "r".toList c hc⟩

instance : DecidableRel Links := fun older newer =>
  inferInstanceAs (Decidable (newer.fromStatus = some older.toStatus))

def sampleRows (events : List Operation) : List StatusHistoryRow :=
  (((InMemory.historyStore noOverrides).chronicle? (sampleRepository events) "r").map
    fun c => c.history).getD []

/-- Times are listed by their value, and every id is smaller than the one before it. -/
def shrinkingStamps : Stamps ℕ ℕ := ⟨id, fun n => 9 - n⟩

/-- A lifecycle transition, a submission from a status that the rule does not have, and two calls at
one reading of the clock: none of the histories is listed as a chain. -/
theorem histories_not_chained :
    (∀ status, ¬ChainListed noOverrides (growingStamps "r") status
      (sampleRows [.setLifecycleStatus "r" 2 "deprecated" none none])) ∧
    (∀ status, ¬ChainListed noOverrides (growingStamps "r") status
      (sampleRows [sampleSubmission 2 "rejected"])) ∧
    ∀ status, ¬ChainListed noOverrides shrinkingStamps status
      (sampleRows [sampleSubmission 1 "draft"]) := by
  have hbroken {stamps : Stamps ℕ ℕ} {rows : List StatusHistoryRow}
      (h : ¬(listRuleStatusHistory stamps rows 100 0).reverse.IsChain Links) (status : Text) :
      ¬ChainListed noOverrides stamps status rows := fun hlisted => h (hlisted 100 0).1
  refine ⟨hbroken ?_, hbroken ?_, hbroken ?_⟩
  · decide +kernel
  · decide +kernel
  · decide +kernel

end Sample

end Lifecycle

end DqMadeEasy
