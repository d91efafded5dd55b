import DqMadeEasy.Approvals.Repository
import DqMadeEasy.Lifecycle.Governance
import DqMadeEasy.Logic.Transition

/-!
# Separation of duties

An approval should be approved by someone else than its requester and through a transition of the
status table, and a decision should be final. The repository does not ask the table: a creation may
set any status, and a review may set any status, also over a decision and without a reviewer. The
machine remembers of every approval how its status changed.
-/

namespace DqMadeEasy

namespace Approvals

open Artifacts Lifecycle Transition Worker

/-! ### Statuses -/

def approvalStatusTransitions : List StatusTransitionDefinition :=
  [Lifecycle.transition "pending" "approved" ["dq:rules:approve"],
   Lifecycle.transition "pending" "rejected" ["dq:rules:approve"]]

section Statuses

variable [PyRuntime]

/-- `_canonicalize_status_value`, of an approval. -/
def canonicalizeStatus (status : Option Text) : Text :=
  if normalizeStatusValue status = "declined" then "rejected"
  else normalizeStatusValue status

/-- The row of a transition table that a move takes. -/
def transitionRow (transitions : List StatusTransitionDefinition) (fromStatus toStatus : Text) :
    Option StatusTransitionDefinition :=
  transitions.find? fun row =>
    decide (canonicalizeStatus (some row.fromStatus) = canonicalizeStatus (some fromStatus)) &&
      decide (canonicalizeStatus (some row.toStatus) = canonicalizeStatus (some toStatus))

/-- `_is_transition_defined_for_entity`, of an approval. -/
def isTransitionDefined (transitions : List StatusTransitionDefinition)
    (fromStatus toStatus : Text) : Bool := (transitionRow transitions fromStatus toStatus).isSome

def Approved (status : Text) : Prop := canonicalizeStatus (some status) = "approved"

def Decided (status : Text) : Prop :=
  Approved status ∨ canonicalizeStatus (some status) = "rejected"

instance (status : Text) : Decidable (Approved status) := inferInstanceAs (Decidable (_ = _))

instance (status : Text) : Decidable (Decided status) := inferInstanceAs (Decidable (_ ∨ _))

/-- The table reads both statuses as one. -/
def SameStatus (a b : Text) : Prop := canonicalizeStatus (some a) = canonicalizeStatus (some b)

instance (a b : Text) : Decidable (SameStatus a b) := inferInstanceAs (Decidable (_ = _))

theorem SameStatus.approved {a b : Text} (h : SameStatus a b) (ha : Approved a) : Approved b := by
  rw [Approved, ← h]
  exact ha

end Statuses

/-! ### The machine -/

/-- A change of the status of an approval. -/
structure Change where
  actorId : Option Text
  fromStatus : Text
  toStatus : Text

/-- An approval, whether it was there at the start, and how its status changed since. -/
structure Tracked where
  approval : Approval
  seeded : Bool
  changes : List Change

/-- The approvals with their changes, and the audit trail. -/
structure Machine where
  tracked : List (Text × Tracked)
  audit : List AuditEvent

def Machine.store (m : Machine) : Store where
  approvals := Assoc.mapValues Tracked.approval m.tracked
  audit := m.audit

/-- What is asked of the repository. -/
inductive Operation where
  | create (draw : Draw) (payload : Dict) (actorId : Option Text)
  | update (draw : Draw) (approvalId : Text) (payload : Dict) (actorId : Option Text)
  | delete (approvalId : Text) (actorId : Option Text)
  | appendAudit (event : AuditEvent)

section Machine

variable [PyRuntime] [PyNumerals]

/-- The repository after an operation. -/
def Operation.perform (store : Store) : Operation → Store
  | .create draw payload actorId => ((createApproval draw payload actorId).run store).2
  | .update draw approvalId payload actorId =>
    ((updateApproval draw approvalId payload actorId).run store).2
  | .delete approvalId actorId => ((deleteApproval approvalId actorId).run store).2
  | .appendAudit event => ((appendAuditEvent event).run store).2

def Accepts (payload : Dict) (created : Approval) : Prop :=
  (camelCaseKeys.map String.toList).filter (fun key => payload.contains key) = [] ∧
    ¬(created.gxRunPlanId.isSome ∧ created.gxRunPlanVersionId = none)

instance (payload : Dict) (created : Approval) : Decidable (Accepts payload created) :=
  inferInstanceAs (Decidable (_ ∧ _))

/-- An approval after a review. -/
def Tracked.reviewed (t : Tracked) (draw : Draw) (payload : Dict) (actorId : Option Text) :
    Tracked :=
  let approval := reviewedApproval draw payload actorId t.approval
  { t with
    approval := approval
    changes := if SameStatus t.approval.status approval.status then t.changes
      else t.changes ++ [⟨actorId, t.approval.status, approval.status⟩] }

/-- The approvals with their changes after an operation. -/
def Operation.track (tracked : List (Text × Tracked)) : Operation → List (Text × Tracked)
  | .create draw payload actorId =>
    if Accepts payload (createdApproval draw payload actorId) then
      tracked ++ [(draw.id, ⟨createdApproval draw payload actorId, false, []⟩)]
    else tracked
  | .update draw approvalId payload actorId =>
    match Assoc.find? tracked approvalId with
    | none => tracked
    | some t =>
      if SelfReview t.approval.requesterId actorId then tracked
      else Assoc.update approvalId (fun _ => t.reviewed draw payload actorId) tracked
  | .delete approvalId actorId =>
    match Assoc.find? tracked approvalId with
    | none => tracked
    | some t =>
      if ForeignCancel t.approval.requesterId actorId then tracked
      else tracked.eraseP fun entry => entry.1 = approvalId
  | .appendAudit _ => tracked

def advance (m : Machine) (operation : Operation) : Machine where
  tracked := operation.track m.tracked
  audit := (operation.perform m.store).audit

def Step (m : Machine) (operation : Operation) (m' : Machine) : Prop := m' = advance m operation

omit [PyRuntime] [PyNumerals] in
/-- A repository with approvals to begin with. -/
def start (seeds : List (Text × Approval)) (audit : List AuditEvent) : Machine where
  tracked := seeds.map fun seed => (seed.1, ⟨seed.2, true, []⟩)
  audit := audit

/-! ### The law -/

/-- An approval that is approved was there as such at the start, or a reviewer who is not its
requester moved it there by a transition of the table; and no decision was changed. -/
structure Dutiful (t : Tracked) : Prop where
  reviewed : Approved t.approval.status → (t.seeded = true ∧ t.changes = []) ∨
    ∃ change ∈ t.changes, Approved change.toStatus ∧
      isTransitionDefined approvalStatusTransitions change.fromStatus change.toStatus = true ∧
      strippedOr change.actorId ≠ [] ∧
      strippedOr change.actorId ≠ strippedOr t.approval.requesterId
  final : ∀ change ∈ t.changes, ¬Decided change.fromStatus

/-- A review that keeps the status, or decides what is not decided, and approves only by a transition
of the table and with a reviewer. -/
def Reviewable (existing : Approval) (payload : Dict) (actorId : Option Text) : Prop :=
  SameStatus existing.status (reviewedStatus payload existing) ∨
    ¬Decided existing.status ∧ (Approved (reviewedStatus payload existing) →
      isTransitionDefined approvalStatusTransitions existing.status
        (reviewedStatus payload existing) = true ∧ strippedOr actorId ≠ [])

instance (existing : Approval) (payload : Dict) (actorId : Option Text) :
    Decidable (Reviewable existing payload actorId) := inferInstanceAs (Decidable (_ ∨ _ ∧ _))

/-- A creation that is not approved, or a review of this kind. -/
def Careful (m : Machine) : Operation → Prop
  | .create _ payload _ => ¬Approved (textOrElse (payload.get "status") "pending")
  | .update _ approvalId payload actorId => ∀ existing ∈ m.store.find? approvalId,
      ¬SelfReview existing.requesterId actorId → Reviewable existing payload actorId
  | .delete .. | .appendAudit _ => True

instance (m : Machine) (operation : Operation) : Decidable (Careful m operation) := by
  unfold Careful
  split <;> infer_instance

/-- A review of this kind keeps the law. -/
theorem Dutiful.review {t : Tracked} {draw : Draw} {payload : Dict} {actorId : Option Text}
    (h : Dutiful t) (hself : ¬SelfReview t.approval.requesterId actorId)
    (hreviewable : Reviewable t.approval payload actorId) :
    Dutiful (t.reviewed draw payload actorId) := by
  have hstatus : (t.reviewed draw payload actorId).approval.status =
      reviewedStatus payload t.approval := rfl
  have hchanges : (t.reviewed draw payload actorId).changes =
      if SameStatus t.approval.status (reviewedStatus payload t.approval) then t.changes
      else t.changes ++ [⟨actorId, t.approval.status, reviewedStatus payload t.approval⟩] := rfl
  by_cases hsame : SameStatus t.approval.status (reviewedStatus payload t.approval)
  · rw [if_pos hsame] at hchanges
    constructor
    · intro happroved
      rw [hchanges]
      exact h.reviewed (SameStatus.approved (Eq.symm hsame) (hstatus ▸ happroved))
    · rw [hchanges]
      exact h.final
  · rw [if_neg hsame] at hchanges
    obtain ⟨hundecided, happroves⟩ := hreviewable.resolve_left hsame
    constructor
    · intro happroved
      obtain ⟨hdefined, hactor⟩ := happroves (hstatus ▸ happroved)
      refine .inr ⟨⟨actorId, t.approval.status, reviewedStatus payload t.approval⟩, ?_, happroved,
        hdefined, hactor, fun hequal => hself ⟨?_, hactor, hequal.symm⟩⟩
      · rw [hchanges]
        exact List.mem_append_right _ (List.mem_singleton_self _)
      · exact fun hnone => hactor (hequal.trans hnone)
    · rw [hchanges]
      intro change hmem
      rcases List.mem_append.mp hmem with hmem | hmem
      · exact h.final change hmem
      · rw [List.mem_singleton.mp hmem]
        exact hundecided

def AllDutiful (m : Machine) : Prop := ∀ entry ∈ m.tracked, Dutiful entry.2

theorem AllDutiful.step {m m' : Machine} {operation : Operation} (h : AllDutiful m)
    (hstep : Step m operation m') (hcareful : Careful m operation) : AllDutiful m' := by
  rw [Step] at hstep
  subst hstep
  intro entry hmem
  have hmem : entry ∈ operation.track m.tracked := hmem
  cases operation with
  | create draw payload actorId =>
    rw [Operation.track] at hmem
    split at hmem
    · rcases List.mem_append.mp hmem with hmem | hmem
      · exact h entry hmem
      · rw [List.mem_singleton.mp hmem]
        exact ⟨fun happroved => absurd happroved hcareful, nofun⟩
    · exact h entry hmem
  | update draw approvalId payload actorId =>
    rw [Operation.track] at hmem
    cases hfind : Assoc.find? m.tracked approvalId with
    | none =>
      rw [hfind] at hmem
      exact h entry hmem
    | some t =>
      rw [hfind] at hmem
      dsimp only at hmem
      split at hmem
      · exact h entry hmem
      · rename_i hself
        rcases Assoc.mem_update hmem with hnew | hold
        · rw [hnew]
          have hexisting : m.store.find? approvalId = some t.approval := by
            rw [Store.find?, Machine.store, Assoc.find?_mapValues, hfind, Option.map_some]
          exact (h _ (Assoc.mem_of_find? hfind)).review hself (hcareful _ hexisting hself)
        · exact h entry hold
  | delete approvalId actorId =>
    rw [Operation.track] at hmem
    split at hmem
    · exact h entry hmem
    · split at hmem
      · exact h entry hmem
      · exact h entry (List.mem_of_mem_eraseP hmem)
  | appendAudit event => exact h entry hmem

omit [PyNumerals] in
theorem allDutiful_start (seeds : List (Text × Approval)) (audit : List AuditEvent) :
    AllDutiful (start seeds audit) := by
  intro entry hmem
  obtain ⟨seed, -, rfl⟩ := List.mem_map.mp hmem
  exact ⟨fun _ => .inl ⟨rfl, rfl⟩, nofun⟩

/-- Approvals are approved by others than their requesters, and decided once. -/
theorem approvals_separate_duties {seeds : List (Text × Approval)} {audit : List AuditEvent}
    {operations : List Operation} {m : Machine}
    (h : Runs Step Careful (start seeds audit) operations m) {approvalId : Text} {t : Tracked}
    (hmem : (approvalId, t) ∈ m.tracked) : Dutiful t := by
  have hall : AllDutiful m :=
    h.invariant (allDutiful_start seeds audit) fun _ _ _ => AllDutiful.step
  exact hall (approvalId, t) hmem

end Machine

/-! ### Two approvals -/

section Example

local instance sampleRuntimeDuties : PyRuntime := .ascii (fun _ => .nan) (fun _ => [])

local instance sampleNumeralsDuties : PyNumerals := ⟨fun _ => none, fun _ => none, id⟩

def request (status : String) : Operation :=
  .create ⟨"1-1000", "2026-01-01T00:00:00Z"⟩
    [("rule_id", .text "rule"), ("status", .text status)] (some "requester")

def review (status reviewer : String) : Operation :=
  .update ⟨[], "2026-01-02T00:00:00Z"⟩ "1-1000" [("status", .text status)]
    (some reviewer.toList)

def reviewedRequest : List Operation := [request "pending", review "approved" "reviewer"]

theorem requests :
    (Transition.MeetAll advance Careful reviewedRequest (start [] []) ∧
      (Assoc.find? (reviewedRequest.foldl advance (start [] [])).tracked "1-1000".toList).any
        (fun t => t.approval.status = "approved".toList) = true) ∧
    (Assoc.find? (advance (start [] []) (request "approved")).tracked "1-1000".toList).any
      (fun t => decide (Approved t.approval.status) && t.changes.isEmpty && !t.seeded) = true := by
  decide +kernel

/-- An approval is created as approved. -/
theorem approvals_separate_duties_counterexample :
    ¬∀ (operations : List Operation) (m : Machine),
      Runs Step (fun _ _ => True) (start [] []) operations m →
        ∀ approvalId t, (approvalId, t) ∈ m.tracked → Dutiful t := by
  intro h
  obtain ⟨t, hfind, hstate⟩ := (Option.any_eq_true _ _).mp requests.2
  obtain ⟨⟨happroved, hchanges⟩, hseeded⟩ : (Approved t.approval.status ∧ t.changes = []) ∧
      t.seeded = false := by simpa using hstate
  have hdutiful := h [request "approved"] _ (Runs.one rfl trivial) _ t (Assoc.mem_of_find? hfind)
  rcases hdutiful.reviewed happroved with hstart | ⟨change, hmem, -⟩
  · rw [hseeded] at hstart
    exact Bool.false_ne_true hstart.1
  · rw [hchanges] at hmem
    cases hmem

theorem approvals_separate_duties_sample : ∃ t : Tracked,
    Assoc.find? (reviewedRequest.foldl advance (start [] [])).tracked "1-1000".toList = some t ∧
      t.approval.status = "approved".toList ∧ Dutiful t := by
  obtain ⟨t, hfind, hstatus⟩ := (Option.any_eq_true _ _).mp requests.1.2
  have hreached : Runs Step Careful (start [] []) reviewedRequest
      (reviewedRequest.foldl advance (start [] [])) :=
    Runs.of_meetAll (fun _ _ => rfl) requests.1.1
  exact ⟨t, hfind, of_decide_eq_true hstatus,
    approvals_separate_duties hreached (Assoc.mem_of_find? hfind)⟩

end Example

end Approvals

end DqMadeEasy
