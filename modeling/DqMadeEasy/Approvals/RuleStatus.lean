import DqMadeEasy.Approvals.Requests
import DqMadeEasy.Approvals.ReviewAtomicity
import DqMadeEasy.Lifecycle.Governed

/-!
# Two statuses of a rule

The approvals endpoints derive the status of a rule from its row and its approvals; the use cases of
the rules derive it from the row. They agree for every order of the approvals exactly where the row
decides by itself, or every approval has the status that the row has.
-/

namespace DqMadeEasy

namespace Approvals

namespace Review

open Artifacts Effect Lifecycle Lifecycle.InMemory RunPlans Runs Worker

/-! ### The derivations -/

section Derivations

variable [PyRuntime]

def deriveRuleStatusFromRow (row : RuleRecord) : Text :=
  ruleStatusOf row.removedAt.isSome row.active row.lastApprovalStatus

omit [PyRuntime] in
/-- What the derivations read of a row. -/
def rowState (row : RuleRecord) : RuleState :=
  ⟨row.removedAt.isSome, row.active, row.lastApprovalStatus⟩

omit [PyRuntime] in
def rowStatuses : List Text := ["deactivated", "removed", "recovered"].map String.toList

def RowDecides (g : RuleState) : Prop :=
  g.removed = true ∨ g.active = true ∨
    canonicalizeStatusValue .rule g.lastApprovalStatus ∈ rowStatuses

def Fits (status : Text) (approval : Approval) : Prop :=
  canonicalizeStatusValue .rule (some approval.status) = [] ∨
    canonicalizeStatusValue .rule (some approval.status) = status

def Settled (g : RuleState) (approvals : List Approval) : Prop :=
  RowDecides g ∨ ∀ approval ∈ approvals, Fits g.status approval

instance (g : RuleState) : Decidable (RowDecides g) := inferInstanceAs (Decidable (_ ∨ _ ∨ _))

instance (status : Text) (approval : Approval) : Decidable (Fits status approval) :=
  inferInstanceAs (Decidable (_ ∨ _))

instance (g : RuleState) (approvals : List Approval) : Decidable (Settled g approvals) :=
  inferInstanceAs (Decidable (_ ∨ ∀ approval ∈ approvals, _))

/-- The two derivations agree for every order of the approvals exactly if the row decides or the
approvals have its status. -/
theorem derivations_agree_iff (row : RuleRecord) (approvals : List Approval) :
    (∀ order : List Approval, order.Perm approvals →
      deriveApprovalRuleStatus row order = deriveRuleStatusFromRow row) ↔
      Settled (rowState row) approvals := by
  by_cases hremoved : row.removedAt.isSome = true
  · refine iff_of_true (fun order _ => ?_) (.inl (.inl hremoved))
    rw [deriveApprovalRuleStatus, deriveRuleStatusFromRow, ruleStatusOf, if_pos hremoved,
      if_pos hremoved]
  by_cases hactive : row.active = true
  · refine iff_of_true (fun order _ => ?_) (.inl (.inr (.inl hactive)))
    rw [deriveApprovalRuleStatus, deriveRuleStatusFromRow, ruleStatusOf, if_neg hremoved,
      if_neg hremoved, if_pos hactive, if_pos hactive]
  have hrow : deriveRuleStatusFromRow row =
      if canonicalizeStatusValue .rule row.lastApprovalStatus = [] then "draft".toList
      else canonicalizeStatusValue .rule row.lastApprovalStatus := by
    rw [deriveRuleStatusFromRow, ruleStatusOf, if_neg hremoved, if_neg hactive]
    rfl
  have hstatus : (rowState row).status = deriveRuleStatusFromRow row := rfl
  by_cases hdecided : canonicalizeStatusValue .rule row.lastApprovalStatus ∈ rowStatuses
  · refine iff_of_true (fun order _ => ?_) (.inl (.inr (.inr hdecided)))
    have hne : canonicalizeStatusValue .rule row.lastApprovalStatus ≠ [] := by
      intro hnil
      rw [hnil] at hdecided
      revert hdecided
      decide
    rw [deriveApprovalRuleStatus, if_neg hremoved, if_neg hactive, hrow, if_neg hne]
    exact if_pos hdecided
  · have hderive : ∀ order : List Approval, deriveApprovalRuleStatus row order =
        ((order.reverse.map fun approval =>
          canonicalizeStatusValue .rule (some approval.status)).find? fun status =>
            status ≠ []).getD (deriveRuleStatusFromRow row) := by
      intro order
      rw [deriveApprovalRuleStatus, if_neg hremoved, if_neg hactive, hrow]
      refine (if_neg hdecided).trans ?_
      cases List.find? (fun status : Text => decide (status ≠ [])) _ <;> rfl
    constructor
    · intro hagree
      refine .inr fun approval happroval => ?_
      rw [Fits, hstatus, or_iff_not_imp_left]
      intro hsays
      -- The order in which the approval is the last one.
      obtain ⟨before, after, rfl⟩ := List.append_of_mem happroval
      have hperm : (before ++ after ++ [approval]).Perm (before ++ approval :: after) := by
        rw [List.append_assoc]
        exact (List.perm_append_singleton _ _).append_left before
      have hlast := hagree _ hperm
      rw [hderive, List.reverse_append, List.reverse_singleton, List.singleton_append,
        List.map_cons, List.find?_cons_of_pos (by simpa using hsays)] at hlast
      exact hlast
    · rintro (hdecides | hfits) order hperm
      · obtain h | h | h := hdecides
        · exact absurd h hremoved
        · exact absurd h hactive
        · exact absurd h hdecided
      · rw [hderive]
        cases hfind : (order.reverse.map fun approval =>
            canonicalizeStatusValue .rule (some approval.status)).find? fun status =>
              status ≠ [] with
        | none => rfl
        | some status =>
          have hsays : status ≠ [] := by simpa using List.find?_some hfind
          obtain ⟨approval, hmem, rfl⟩ := List.mem_map.mp (List.mem_of_find?_eq_some hfind)
          have happroval := hperm.mem_iff.mp (List.mem_reverse.mp hmem)
          exact (hfits approval happroval).resolve_left hsays

/-- A recorded status has the canonical form of its text without the white space around it. -/
theorem canonicalizeStatusValue_strippedOrNone (status : Option Text) :
    canonicalizeStatusValue .rule (strippedOrNone status) =
      canonicalizeStatusValue .rule status := by
  have hnormal : normalizeStatusValue (strippedOrNone status) = normalizeStatusValue status := by
    rw [strippedOrNone]
    split
    · rename_i hblank
      rw [normalizeStatusValue, normalizeStatusValue, hblank]
      rfl
    · rw [normalizeStatusValue, normalizeStatusValue, Option.getD_some, Text.strip_strip]
  rw [canonicalizeStatusValue, canonicalizeStatusValue, hnormal]

/-- The row of a stored rule is settled as the rule is. -/
theorem settled_ruleRecord (ruleId : Text) (r : StoredRule) (approvals : List Approval) :
    Settled (rowState (ruleRecord ruleId r)) approvals ↔ Settled (StoredRule.state r) approvals := by
  cases hactive : r.entity.active with
  | true => exact iff_of_true (.inl (.inr (.inl hactive))) (.inl (.inr (.inl hactive)))
  | false =>
    have hlast : (rowState (ruleRecord ruleId r)).lastApprovalStatus =
        strippedOrNone r.details.lastApprovalStatus := by
      show strippedOrNone (r.details.lastApprovalStatus.or _) = _
      rw [hactive]
      cases r.details.lastApprovalStatus <;> rfl
    have hcanonical : canonicalizeStatusValue .rule
        (rowState (ruleRecord ruleId r)).lastApprovalStatus =
          canonicalizeStatusValue .rule r.details.lastApprovalStatus := by
      rw [hlast, canonicalizeStatusValue_strippedOrNone]
    have hstatus : (rowState (ruleRecord ruleId r)).status = (StoredRule.state r).status := by
      rw [RuleState.status, RuleState.status, ruleStatusOf, ruleStatusOf, normalizeRuleStatus,
        normalizeRuleStatus, hcanonical]
      rfl
    rw [Settled, Settled, RowDecides, RowDecides, hstatus, hcanonical]
    exact Iff.rfl

end Derivations

/-! ### What the steps make of a rule -/

section Aims

variable [PyRuntime] (overrides : PolicyOverrides)

/-- A rule after `record_rule_status_transition`, which the status table may refuse. -/
def recordedState (g : RuleState) (current : Option Text) (toStatus : Text) : RuleState :=
  if ensureTransitionAllowed overrides .rule current toStatus = .ok () then
    { g with lastApprovalStatus := some toStatus }
  else g

/-- A rule after an edit, a rollback or a recorded transition. The other calls make it a rule that
decides its status by itself, or leave it. -/
def aimOf (restored : Option Restored) (op : Lifecycle.Operation) (g : RuleState) : RuleState :=
  match op with
  | .update _ _ fields =>
    if ensureTransitionAllowed overrides .rule (some g.status)
        (InMemory.desiredStatus g.status g.active fields.active) = .ok () then
      { g with
        active := fields.active
        lastApprovalStatus :=
          if g.status = "deactivated" then some "draft" else g.lastApprovalStatus }
    else g
  | .rollback .. => { g with active := (restored.map Restored.active).getD g.active }
  | .recordStatusTransition _ _ fromStatus toStatus _ _ =>
    recordedState overrides g fromStatus toStatus.text
  | _ => g

omit [PyRuntime] in
def bornState (op : Lifecycle.Operation) : RuleState :=
  match op with
  | .create _ _ _ fields => ⟨false, fields.active, none⟩
  | _ => ⟨false, false, none⟩

variable {overrides} {restored : Option Restored} {op : Lifecycle.Operation} {g g' : Governed}
  {approvals : List Approval}

theorem rowDecides_recorded {removed active : Bool} {status : Text} (h : status ∈ rowStatuses) :
    RowDecides ⟨removed, active, some status⟩ := by
  have hrecorded : status ∈ recordedStatuses := by
    revert h
    revert status
    decide
  refine .inr (.inr ?_)
  show canonicalizeStatusValue .rule (some status) ∈ rowStatuses
  rw [canonicalizeStatusValue_recorded hrecorded]
  exact h

/-- A call leaves a rule settled that was so and is so after an edit, a rollback or a recorded
transition. -/
theorem settled_of_move (h : Move overrides restored op g g')
    (hsettled : Settled g.toRuleState approvals)
    (haim : Settled (aimOf overrides restored op g.toRuleState) approvals) :
    Settled g'.toRuleState approvals := by
  cases h with
  | same => exact hsettled
  | update ruleId now fields definition g hensure =>
    rw [aimOf, if_pos hensure] at haim
    exact haim
  | activate => exact .inl (.inr (.inl rfl))
  | deactivate => exact .inl (rowDecides_recorded (by decide))
  | softDelete => exact .inl (.inl rfl)
  | recover => exact .inl (rowDecides_recorded (by decide))
  | setLifecycleStatus => exact hsettled
  | rollback ruleId now toVersionId reason requestedBy skipApproval tags g version hrestored =>
    rw [aimOf, hrestored] at haim
    exact haim
  | recordStatusTransition ruleId now fromStatus toStatus changedBy reason g hensure =>
    rw [aimOf, recordedState, if_pos hensure] at haim
    exact haim

omit [PyRuntime] in
theorem bornState_of_newborn (h : Newborn op g') : g'.toRuleState = bornState op := by
  cases h <;> rfl

variable {current reason : Option Text} {toStatus : Text}

theorem state_transitionedRule {now : Instant} {changedBy : Option Text} {r r' : StoredRule}
    (hstatus : toStatus ∈ recordedStatuses)
    (h : transitionedRule overrides now current toStatus changedBy reason r = .ok r') :
    StoredRule.state r' = recordedState overrides (StoredRule.state r) current toStatus := by
  have hnorm : normalizeRuleStatus (some toStatus) = toStatus :=
    canonicalizeStatusValue_recorded hstatus
  rw [transitionedRule, hnorm] at h
  obtain ⟨_, hensure, hstore⟩ := ok_of_bind h
  simp only [if_neg (recordedStatuses_spec hstatus).2.2.2.1] at hstore
  cases hstore
  rw [recordedState, if_pos hensure]
  rfl

theorem recordedState_of_refused {now : Instant} {changedBy : Option Text} {r : StoredRule}
    {e : RepositoryError} (g : RuleState)
    (h : transitionedRule overrides now current toStatus changedBy reason r = .error e) :
    recordedState overrides g current toStatus = g := by
  rw [recordedState, if_neg]
  intro hensure
  rw [transitionedRule, hensure] at h
  cases h

/-- What a recorded transition stores of its rule, and of no other. -/
theorem find?_recorded {repo : InMemory.Repository} {ruleId other : Text} {now : Instant}
    {changedBy : Option Text} {r' : StoredRule} (hstatus : toStatus ∈ recordedStatuses)
    (h : (recordRuleStatusTransition overrides ruleId now current toStatus changedBy reason
      repo).2.find? other = some r') :
    ∃ r, repo.find? other = some r ∧ StoredRule.state r' =
      if other = ruleId then recordedState overrides (StoredRule.state r) current toStatus
      else StoredRule.state r := by
  rw [recordRuleStatusTransition] at h
  cases hfind : repo.find? ruleId with
  | none =>
    rw [hfind] at h
    have hother : other ≠ ruleId := by
      rintro rfl
      cases hfind.symm.trans h
    exact ⟨r', h, (if_neg hother).symm⟩
  | some r =>
    rw [hfind] at h
    dsimp only at h
    cases hchange : transitionedRule overrides now current toStatus changedBy reason r with
    | error e =>
      rw [hchange] at h
      refine ⟨r', h, ?_⟩
      rw [recordedState_of_refused _ hchange, ite_self]
    | ok changed =>
      rw [hchange] at h
      dsimp only at h
      by_cases hother : other = ruleId
      · subst hother
        rw [InMemory.Repository.find?_put_self] at h
        cases h
        refine ⟨r, hfind, ?_⟩
        rw [if_pos rfl]
        exact state_transitionedRule hstatus hchange
      · rw [InMemory.Repository.find?_put_of_ne hother] at h
        exact ⟨r', h, (if_neg hother).symm⟩

end Aims

/-! ### Rules and their approvals -/

section Worlds

variable {Content : Type} [PyRuntime]

omit [PyRuntime] in
def approvalsOf (ruleId : Text) (approvals : List (Text × Approval)) : List Approval :=
  (approvals.map Prod.snd).filter fun approval => approval.ruleId = ruleId

omit [PyRuntime] in
theorem mem_approvalsOf {ruleId : Text} {approvals : List (Text × Approval)}
    {approval : Approval} : approval ∈ approvalsOf ruleId approvals ↔
      approval ∈ approvals.map Prod.snd ∧ approval.ruleId = ruleId := by
  rw [approvalsOf, List.mem_filter, decide_eq_true_iff]

theorem Settled.mono {g : RuleState} {approvals approvals' : List Approval}
    (h : Settled g approvals) (hmem : ∀ approval ∈ approvals', approval ∈ approvals) :
    Settled g approvals' :=
  h.imp_right fun hfits approval happroval => hfits approval (hmem approval happroval)

/-- Every rule is settled, and every approval names its rule without white space around the id. -/
structure SettledWorld (w : ReviewWorld Content) : Prop where
  stripped : ∀ approval ∈ w.approvals.approvals.map Prod.snd,
    Text.strip approval.ruleId = approval.ruleId
  settled : ∀ ruleId r, w.rules.find? ruleId = some r →
    Settled (StoredRule.state r) (approvalsOf ruleId w.approvals.approvals)

namespace SettledWorld

variable {w w' : ReviewWorld Content}

theorem congr (h : SettledWorld w) (happrovals : w'.approvals.approvals = w.approvals.approvals)
    (hrules : w'.rules = w.rules) : SettledWorld w' := by
  refine ⟨?_, ?_⟩
  · rw [happrovals]
    exact h.stripped
  · rw [happrovals, hrules]
    exact h.settled

theorem shrunk (h : SettledWorld w)
    (hmem : ∀ approval ∈ w'.approvals.approvals.map Prod.snd,
      approval ∈ w.approvals.approvals.map Prod.snd)
    (hrules : w'.rules = w.rules) : SettledWorld w' where
  stripped approval happroval := h.stripped approval (hmem approval happroval)
  settled ruleId r hfind := (h.settled ruleId r (hrules ▸ hfind)).mono fun approval happroval =>
    mem_approvalsOf.mpr ((mem_approvalsOf.mp happroval).imp_left (hmem approval))

/-- A call of the rules repository. -/
theorem of_step {overrides : PolicyOverrides} {op : Lifecycle.Operation} (h : SettledWorld w)
    (hstep : InMemory.Step overrides w.rules op w'.rules)
    (happrovals : w'.approvals.approvals = w.approvals.approvals)
    (haim : ∀ r, w.rules.find? op.ruleId = some r →
      Settled (aimOf overrides (restored? w.rules op) op (StoredRule.state r))
        (approvalsOf op.ruleId w.approvals.approvals))
    (hborn : ∀ ruleId, op.newId? = some ruleId →
      Settled (bornState op) (approvalsOf ruleId w.approvals.approvals)) : SettledWorld w' := by
  refine ⟨happrovals ▸ h.stripped, fun ruleId r' hfind' => ?_⟩
  rw [happrovals]
  obtain ⟨-, hnew⟩ | ⟨r, hfind, rfl | hchanged⟩ := step_entry hstep hfind'
  · have hid : op.newId? = some ruleId := by
      cases hnew <;> rfl
    have hstate : StoredRule.state r' = bornState op := bornState_of_newborn hnew.newborn
    rw [hstate]
    exact hborn ruleId hid
  · exact h.settled ruleId r' hfind
  · obtain hsame | ⟨rfl, hmove⟩ := hchanged.move hfind
    · have hstate : StoredRule.state r' = StoredRule.state r :=
        congrArg Governed.toRuleState hsame
      rw [hstate]
      exact h.settled ruleId r hfind
    · exact settled_of_move hmove (h.settled _ r hfind) (haim r hfind)

/-- The approvals of one rule change, and what governs the rule. -/
theorem of_write (ruleId : Text) (aim : RuleState → RuleState) (h : SettledWorld w)
    (hstripped : ∀ approval ∈ w'.approvals.approvals.map Prod.snd,
      Text.strip approval.ruleId = approval.ruleId)
    (hothers : ∀ approval ∈ w'.approvals.approvals.map Prod.snd, approval.ruleId ≠ ruleId →
      approval ∈ w.approvals.approvals.map Prod.snd)
    (hrules : ∀ other r', w'.rules.find? other = some r' → ∃ r, w.rules.find? other = some r ∧
      StoredRule.state r' =
        if other = ruleId then aim (StoredRule.state r) else StoredRule.state r)
    (haim : ∀ r, w.rules.find? ruleId = some r →
      Settled (aim (StoredRule.state r)) (approvalsOf ruleId w'.approvals.approvals)) :
    SettledWorld w' := by
  refine ⟨hstripped, fun other r' hfind' => ?_⟩
  obtain ⟨r, hfind, hstate⟩ := hrules other r' hfind'
  rw [hstate]
  by_cases hother : other = ruleId
  · subst hother
    rw [if_pos rfl]
    exact haim r hfind
  · rw [if_neg hother]
    refine (h.settled other r hfind).mono fun approval happroval => ?_
    obtain ⟨hmem, rfl⟩ := mem_approvalsOf.mp happroval
    exact mem_approvalsOf.mpr ⟨hothers approval hmem hother, rfl⟩

end SettledWorld

end Worlds

/-! ### What the endpoints write -/

section Writes

variable {Content : Type} [PyRuntime] [PyNumerals] [PyDatetime] (S : ReviewServices Content)

omit [PyNumerals] [PyDatetime] in
/-- The rules after a request. -/
def requestedRules (command : RequestCommand) (checked : CheckedRequest)
    (rules : InMemory.Repository) : InMemory.Repository :=
  if checked.Records then
    (recordRuleStatusTransition S.overrides checked.ruleId command.now checked.currentRuleStatus
      "pending-approval" command.actorId (some "Approval requested") rules).2
  else rules

omit [PyNumerals] [PyDatetime] in
theorem run_recordRequest (command : RequestCommand) (checked : CheckedRequest)
    (w : ReviewWorld Content) : ((recordRequest S command checked).run w).2 =
      { w with rules := requestedRules S command checked w.rules } := by
  rw [recordRequest, requestedRules]
  split
  · rw [snd_run_bind_reads fun _ _ => rfl]
    rfl
  · rfl

omit [PyDatetime] in
/-- The repository refuses a request, or appends the approval. -/
theorem run_createApproval (draw : Draw) (payload : Dict) (actorId : Option Text) (store : Store) :
    (∃ e, (Approvals.createApproval draw payload actorId).run store = (.error e, store)) ∨
      ∃ audit, (Approvals.createApproval draw payload actorId).run store =
        (.ok (draw.id, createdApproval draw payload actorId),
          ⟨store.approvals ++ [(draw.id, createdApproval draw payload actorId)], audit⟩) := by
  rw [Approvals.createApproval, run_ofState]
  split
  · exact .inl ⟨_, rfl⟩
  · dsimp only
    split
    · exact .inl ⟨_, rfl⟩
    · exact .inr ⟨_, rfl⟩

/-- A request changes nothing of the rules and approvals, or adds the approval that was checked and
records it. -/
theorem createApproval_cases (command : RequestCommand) (w : ReviewWorld Content) :
    let w' := ((createApproval S command).run w).2
    (w'.approvals.approvals = w.approvals.approvals ∧ w'.rules = w.rules) ∨
      ∃ checked, checkRequest S command w = .ok checked ∧
        w'.approvals.approvals = w.approvals.approvals ++ [(command.draw.id,
          createdApproval command.draw (checked.payload command) command.actorId)] ∧
        w'.rules = requestedRules S command checked w.rules := by
  rw [createApproval, run_bind_ok (run_get w)]
  cases hcheck : checkRequest S command w with
  | error e => exact .inl ⟨rfl, rfl⟩
  | ok checked =>
    rw [ofExcept_ok_bind]
    obtain ⟨e, hrefused⟩ | ⟨audit, hcreated⟩ := run_createApproval command.draw
      (checked.payload command) command.actorId w.approvals
    · rw [run_bind_error (Part.run_on_error (s := w) hrefused)]
      exact .inl ⟨rfl, rfl⟩
    · rw [run_bind_ok (Part.run_on_ok (s := w) hcreated), snd_run_bind_reads fun _ _ => rfl,
        run_recordRequest]
      exact .inr ⟨checked, rfl, rfl, rfl⟩

omit [PyNumerals] [PyDatetime] in
/-- The review of an approval is recorded in the history of its rule. -/
def Checked.Recorded (checked : Checked) : Prop :=
  checked.currentRuleStatus.isSome = true ∧ checked.ruleId ≠ [] ∧
    checked.requested ∈ ["approved", "rejected"].map String.toList ∧
    checked.requestType ∉ ["deactivation", "gx_suite_repair"].map String.toList

omit [PyRuntime] in
instance (checked : Checked) : Decidable checked.Recorded :=
  inferInstanceAs (Decidable (_ ∧ _ ∧ _ ∧ _))

omit [PyNumerals] [PyDatetime] in
/-- The rules after a review, before it deactivates one. -/
def reviewedRules (command : ReviewCommand) (checked : Checked) (rules : InMemory.Repository) :
    InMemory.Repository :=
  if checked.Recorded then
    (recordRuleStatusTransition S.overrides checked.ruleId command.now checked.currentRuleStatus
      checked.requested command.actorId (some "Approval reviewed") rules).2
  else rules

omit [PyNumerals] [PyDatetime] in
theorem run_recordReview_rules (command : ReviewCommand) (checked : Checked)
    (w : ReviewWorld Content) :
    ((recordReview S command checked checked.requestType).run w).2 =
      { w with rules := reviewedRules S command checked w.rules } := by
  rw [recordReview, reviewedRules]
  cases hcurrent : checked.currentRuleStatus with
  | none =>
    have hnot : ¬checked.Recorded := by
      rintro ⟨hsome, -⟩
      rw [hcurrent] at hsome
      cases hsome
    rw [if_neg hnot]
    rfl
  | some current =>
    dsimp only
    by_cases hrecords : checked.ruleId ≠ [] ∧
        checked.requested ∈ ["approved", "rejected"].map String.toList ∧
        checked.requestType ∉ ["deactivation", "gx_suite_repair"].map String.toList
    · have hrecorded : checked.Recorded := ⟨by rw [hcurrent]; rfl, hrecords⟩
      rw [if_pos hrecords, if_pos hrecorded, snd_run_bind_reads fun _ _ => rfl]
      rfl
    · have hnot : ¬checked.Recorded := fun h => hrecords h.2
      rw [if_neg hrecords, if_neg hnot]
      rfl

def HoldsFacts (approvals : List (Text × Approval)) (rules : InMemory.Repository)
    (w : ReviewWorld Content) : Prop :=
  w.approvals.approvals = approvals ∧ w.rules = rules

variable {approvals : List (Text × Approval)} {rules : InMemory.Repository}

omit [PyDatetime] in
theorem keeps_revertSuite (command : ReviewCommand) (d : Deactivation)
    (suite : StoredArtifact Content) :
    Keeps (HoldsFacts approvals rules) (revertSuite S command d suite) := by
  refine Keeps.bind (Keeps.ofExcept _) fun typed => ?_
  refine Keeps.ite (fun _ => Keeps.pure ()) fun _ => ?_
  refine Keeps.bind (fun _ h => h) fun w => ?_
  refine Keeps.bind (fun _ h => h) fun _ => ?_
  refine Keeps.bind (Keeps.ofExcept _) fun artifact => ?_
  refine Keeps.bind (fun _ h => h) fun _ => ?_
  exact Keeps.foldlM (fun _ notice _ h => h) _ _

omit [PyDatetime] in
theorem keeps_revertSuites (command : ReviewCommand) (checked : Checked) (ruleId : Text) :
    Keeps (HoldsFacts approvals rules) (revertSuites S command checked ruleId) := by
  refine Keeps.bind (fun _ h => h) fun w => ?_
  exact Keeps.foldlM (fun _ suite => keeps_revertSuite S command _ suite) _ _

omit [PyDatetime] in
theorem run_deactivateReviewed_facts (command : ReviewCommand) (checked : Checked)
    (updated : Approval) (requestType ruleId : Text) (w : ReviewWorld Content) :
    let w' := ((deactivateReviewed S command checked updated requestType ruleId).run w).2
    w'.approvals.approvals = w.approvals.approvals ∧ (w'.rules = w.rules ∨
      ∃ deactivated, w'.rules = (deactivateRule S.overrides deactivated command.now w.rules).2) := by
  rw [deactivateReviewed]
  dsimp only
  split
  · rw [ofExcept_ok_bind]
    have hfacts := Keeps.after_bind (s := w)
      (I := HoldsFacts w.approvals.approvals (deactivateRule S.overrides ruleId command.now w.rules).2)
      (p := rulesPart.on ApiError.raised
        (methodEffect (deactivateRule S.overrides ruleId command.now)))
      (f := fun _ => revertSuites S command checked ruleId) ⟨rfl, rfl⟩
      fun _ => keeps_revertSuites S command checked ruleId
    exact ⟨hfacts.1, .inr ⟨ruleId, hfacts.2⟩⟩
  · exact ⟨rfl, .inl rfl⟩

omit [PyDatetime] in
/-- What follows the decision leaves the approvals, and records the review, and may deactivate a
rule. -/
theorem run_concludeReview (command : ReviewCommand) (checked : Checked) (updated : Approval)
    (w : ReviewWorld Content)
    (hblank : checked.requested = [] → checked.currentRuleStatus = none)
    (htype : checked.requested ≠ [] →
      normalizeApprovalRequestType checked.existing.requestType = .ok checked.requestType) :
    let w' := ((concludeReview S command checked updated).run w).2
    w'.approvals.approvals = w.approvals.approvals ∧
      (w'.rules = reviewedRules S command checked w.rules ∨ ∃ ruleId,
        w'.rules = (deactivateRule S.overrides ruleId command.now
          (reviewedRules S command checked w.rules)).2) := by
  have hunrecorded : checked.requested = [] → reviewedRules S command checked w.rules = w.rules := by
    intro hrequested
    rw [reviewedRules, if_neg]
    rintro ⟨hsome, -⟩
    rw [hblank hrequested] at hsome
    cases hsome
  have hrecord : ∀ requestType,
      normalizeApprovalRequestType checked.existing.requestType = .ok requestType →
      ((recordReview S command checked requestType).run w).2 =
        { w with rules := reviewedRules S command checked w.rules } := by
    intro requestType hok
    by_cases hrequested : checked.requested = []
    · rw [hunrecorded hrequested, recordReview, hblank hrequested]
      rfl
    · cases (htype hrequested).symm.trans hok
      exact run_recordReview_rules S command checked w
  rw [concludeReview]
  cases hnormal : normalizeApprovalRequestType checked.existing.requestType with
  | error e =>
    have hrequested : checked.requested = [] := by
      by_contra hne
      cases (htype hne).symm.trans hnormal
    exact ⟨rfl, .inl (hunrecorded hrequested).symm⟩
  | ok requestType =>
    rw [ofExcept_ok_bind, run_bind]
    have hstate := hrecord requestType hnormal
    cases hrun : (recordReview S command checked requestType).run w with
    | mk outcome w₁ =>
      rw [hrun] at hstate
      subst hstate
      cases outcome with
      | error e => exact ⟨rfl, .inl rfl⟩
      | ok _ =>
        dsimp only
        split
        · cases hafter : normalizeApprovalRequestType
              (textOr updated.requestType checked.existing.requestType) with
          | error e => exact ⟨rfl, .inl rfl⟩
          | ok requestType' =>
            rw [ofExcept_ok_bind]
            split
            · exact run_deactivateReviewed_facts S command checked updated requestType' _ _
            · exact ⟨rfl, .inl rfl⟩
        · exact ⟨rfl, .inl rfl⟩

omit [PyDatetime] in
/-- What a review that passes the checks has found of its rule. -/
theorem rule_of_checkReview {command : ReviewCommand} {w : ReviewWorld Content} {checked : Checked}
    (h : checkReview S command w = .ok checked) :
    checked.ruleId = Text.strip checked.existing.ruleId ∧
      (checked.requested = [] → checked.currentRuleStatus = none) := by
  rw [checkReview] at h
  split at h
  · cases h
  obtain ⟨_, -, h⟩ := ok_of_bind h
  split at h
  · cases h
  obtain ⟨existing, -, h⟩ := ok_of_bind h
  dsimp only at h
  split at h
  · cases h
    exact ⟨rfl, fun _ => rfl⟩
  · rename_i hrequested
    obtain ⟨requestType, -, h⟩ := ok_of_bind h
    dsimp only at h
    split at h
    · cases h
    obtain ⟨_, -, h⟩ := ok_of_bind h
    obtain ⟨planChange, -, h⟩ := ok_of_bind h
    cases h
    exact ⟨rfl, fun hblank => absurd hblank hrequested⟩

omit [PyDatetime] in
/-- The repository is asked for the decision of a review. -/
theorem settleReview_cases {command : ReviewCommand} {checked : Checked} {w : ReviewWorld Content}
    (hfound : Found command w checked)
    (hblank : checked.requested = [] → checked.currentRuleStatus = none) :
    let w' := ((settleReview S command checked).run w).2
    (w'.approvals.approvals = w.approvals.approvals ∧ w'.rules = w.rules) ∨
      ¬SelfReview checked.existing.requesterId command.actorId ∧
      w'.approvals.approvals = Assoc.update command.approvalId (fun _ =>
        reviewedApproval ⟨[], command.timestamp⟩ command.payload command.actorId
          checked.existing) w.approvals.approvals ∧
      (w'.rules = reviewedRules S command checked w.rules ∨ ∃ ruleId,
        w'.rules = (deactivateRule S.overrides ruleId command.now
          (reviewedRules S command checked w.rules)).2) := by
  rw [settleReview]
  by_cases hself : SelfReview checked.existing.requesterId command.actorId
  · obtain ⟨e, hrun⟩ := run_writeDecision_of_selfReview hfound.existing hself
    rw [run_bind_error hrun]
    exact .inl ⟨rfl, rfl⟩
  · obtain ⟨store, hrun, -, hstore⟩ := run_writeDecision hfound.existing hself
    rw [run_bind_ok hrun, snd_run_bind_reads fun _ _ => rfl]
    obtain ⟨hkept, hafter⟩ := run_concludeReview S command checked
      (reviewedApproval ⟨[], command.timestamp⟩ command.payload command.actorId
        checked.existing) { w with approvals := store } hblank hfound.requestType
    exact .inr ⟨hself, hkept.trans hstore, hafter⟩

/-- A review changes nothing of the rules and approvals, or writes a decision, records it and may
deactivate a rule. -/
theorem updateApproval_cases (command : ReviewCommand) (w : ReviewWorld Content) :
    let w' := ((updateApproval S command).run w).2
    (w'.approvals.approvals = w.approvals.approvals ∧ w'.rules = w.rules) ∨
      ∃ checked, checkReview S command w = .ok checked ∧ Decides S command checked w ∧
        w'.approvals.approvals = Assoc.update command.approvalId (fun _ =>
          reviewedApproval ⟨[], command.timestamp⟩ command.payload command.actorId
            checked.existing) w.approvals.approvals ∧
        (w'.rules = reviewedRules S command checked w.rules ∨ ∃ ruleId,
          w'.rules = (deactivateRule S.overrides ruleId command.now
            (reviewedRules S command checked w.rules)).2) := by
  rw [updateApproval, run_bind_ok (run_get w)]
  cases hcheck : checkReview S command w with
  | error e => exact .inl ⟨rfl, rfl⟩
  | ok checked =>
    rw [ofExcept_ok_bind]
    obtain ⟨hfound, hplanFound⟩ := found_of_checkReview hcheck
    obtain ⟨-, hblank⟩ := rule_of_checkReview S hcheck
    obtain ⟨plans, hplan⟩ : ∃ plans, (applyPlanChange command.actorId checked.planChange).run w =
        (.ok (), { w with plans := plans }) := by
      cases hchange : checked.planChange with
      | none => exact ⟨w.plans, rfl⟩
      | some change =>
        obtain ⟨plans, hrun, -⟩ := run_applyPlanChange command.actorId (hplanFound change hchange)
        exact ⟨plans, hrun⟩
    rw [run_bind_ok hplan, decideReview]
    rcases run_prepareDecision S command checked { w with plans := plans } with
      ⟨hpublishes, store, registry, hrun, hstore, -⟩ | ⟨-, hprepares, hrun⟩ |
      ⟨-, -, e, hrun⟩
    · rw [run_bind_ok hrun]
      have hfound' : Found command ⟨store, plans, w.rules, registry⟩ checked := hfound.congr hstore
      have hcases := settleReview_cases S hfound' hblank
      dsimp only at hcases hstore
      rw [hstore] at hcases
      exact hcases.imp_right fun h => ⟨checked, rfl, ⟨hpublishes.prepares, h.1⟩, h.2⟩
    · rw [run_bind_ok hrun]
      have hfound' : Found command { w with plans := plans } checked := hfound.congr rfl
      exact (settleReview_cases S hfound' hblank).imp_right fun h =>
        ⟨checked, rfl, ⟨hprepares, h.1⟩, h.2⟩
    · rw [run_bind_error hrun]
      exact .inl ⟨rfl, rfl⟩

end Writes

/-! ### Runs of rules and approvals -/

section Runs

variable {Content : Type} [PyRuntime] [PyNumerals] [PyDatetime] (S : ReviewServices Content)

omit [PyRuntime] [PyNumerals] [PyDatetime] in
/-- A call of the rules repository, or of an endpoint of the approvals. -/
inductive StatusEvent where
  | rule (op : Lifecycle.Operation)
  | request (command : RequestCommand)
  | review (command : ReviewCommand)
  | cancel (approvalId : Text) (actorId : Option Text)

/-- The steps of the rules and the approvals together. -/
def StatusStep (w : ReviewWorld Content) (event : StatusEvent) (w' : ReviewWorld Content) : Prop :=
  match event with
  | .rule op => ∃ rules, InMemory.Step S.overrides w.rules op rules ∧ w' = { w with rules := rules }
  | .request command => w' = ((createApproval S command).run w).2
  | .review command => w' = ((updateApproval S command).run w).2
  | .cancel approvalId actorId => w' = ((deleteApproval approvalId actorId).run w).2

/-- What an event is about to make of a rule and of its approvals is settled. -/
def AimsSettled (w : ReviewWorld Content) (event : StatusEvent) : Prop :=
  let approvals := w.approvals.approvals
  match event with
  | .rule op =>
    (∀ r, w.rules.find? op.ruleId = some r →
      Settled (aimOf S.overrides (restored? w.rules op) op (StoredRule.state r))
        (approvalsOf op.ruleId approvals)) ∧
      ∀ ruleId, op.newId? = some ruleId → Settled (bornState op) (approvalsOf ruleId approvals)
  | .request command => ∀ checked, checkRequest S command w = .ok checked →
    ∀ r, w.rules.find? checked.ruleId = some r →
      Settled (if checked.Records then recordedState S.overrides (StoredRule.state r)
          checked.currentRuleStatus "pending-approval" else StoredRule.state r)
        (approvalsOf checked.ruleId (approvals ++ [(command.draw.id,
          createdApproval command.draw (checked.payload command) command.actorId)]))
  | .review command => ∀ checked, checkReview S command w = .ok checked →
    Decides S command checked w → ∀ r, w.rules.find? checked.ruleId = some r →
      Settled (if checked.Recorded then recordedState S.overrides (StoredRule.state r)
          checked.currentRuleStatus checked.requested else StoredRule.state r)
        (approvalsOf checked.ruleId (Assoc.update command.approvalId (fun _ =>
          reviewedApproval ⟨[], command.timestamp⟩ command.payload command.actorId
            checked.existing) approvals))
  | .cancel _ _ => True

variable {S} {w w' : ReviewWorld Content}

omit [PyRuntime] [PyNumerals] [PyDatetime] in
theorem approvals_deleteApproval (approvalId : Text) (actorId : Option Text)
    (w : ReviewWorld Content) : let w' := ((deleteApproval approvalId actorId).run w).2
    w'.approvals.approvals.Sublist w.approvals.approvals ∧ w'.rules = w.rules := by
  rw [deleteApproval]
  split
  · exact ⟨List.Sublist.refl _, rfl⟩
  · rw [snd_run_bind_reads fun _ => reads_ofExcept _]
    refine ⟨?_, rfl⟩
    show (((Approvals.deleteApproval approvalId actorId).run w.approvals).2.approvals).Sublist _
    rw [Approvals.deleteApproval, run_ofState]
    split
    · exact List.Sublist.refl _
    · split
      · exact List.Sublist.refl _
      · exact List.eraseP_sublist

omit [PyDatetime] in
theorem SettledWorld.requested {command : RequestCommand} {checked : CheckedRequest}
    (h : SettledWorld w) (hstripped : Text.strip checked.ruleId = checked.ruleId)
    (happrovals : w'.approvals.approvals = w.approvals.approvals ++ [(command.draw.id,
      createdApproval command.draw (checked.payload command) command.actorId)])
    (hrules : w'.rules = requestedRules S command checked w.rules)
    (haim : ∀ r, w.rules.find? checked.ruleId = some r →
      Settled (if checked.Records then recordedState S.overrides (StoredRule.state r)
          checked.currentRuleStatus "pending-approval" else StoredRule.state r)
        (approvalsOf checked.ruleId w'.approvals.approvals)) : SettledWorld w' := by
  set created := createdApproval command.draw (checked.payload command) command.actorId
  have hcreated : created.ruleId = checked.ruleId := by
    show Json.strippedText (.scalar (.str checked.ruleId)) = checked.ruleId
    rw [Json.strippedText_str, hstripped]
  have hmem : ∀ approval ∈ w'.approvals.approvals.map Prod.snd,
      approval ∈ w.approvals.approvals.map Prod.snd ∨ approval = created := by
    intro approval happroval
    rw [happrovals, List.map_append, List.mem_append] at happroval
    exact happroval.imp_right List.mem_singleton.mp
  refine of_write checked.ruleId (fun g => if checked.Records then recordedState S.overrides g
    checked.currentRuleStatus "pending-approval" else g) h ?_ ?_ ?_ haim
  · intro approval happroval
    obtain hold | rfl := hmem approval happroval
    · exact h.stripped approval hold
    · rw [hcreated, hstripped]
  · intro approval happroval hother
    obtain hold | rfl := hmem approval happroval
    · exact hold
    · exact absurd hcreated hother
  · intro other r' hfind'
    rw [hrules, requestedRules] at hfind'
    by_cases hrecords : checked.Records
    · rw [if_pos hrecords] at hfind'
      simp only [if_pos hrecords]
      exact find?_recorded (by decide) hfind'
    · rw [if_neg hrecords] at hfind'
      simp only [if_neg hrecords, ite_self]
      exact ⟨r', hfind', rfl⟩

omit [PyDatetime] in
theorem SettledWorld.reviewed {command : ReviewCommand} {checked : Checked}
    (h : SettledWorld w) (hfound : Found command w checked)
    (hrule : checked.ruleId = Text.strip checked.existing.ruleId)
    (happrovals : w'.approvals.approvals = Assoc.update command.approvalId (fun _ =>
      reviewedApproval ⟨[], command.timestamp⟩ command.payload command.actorId checked.existing)
        w.approvals.approvals)
    (hrules : w'.rules = reviewedRules S command checked w.rules)
    (haim : ∀ r, w.rules.find? checked.ruleId = some r →
      Settled (if checked.Recorded then recordedState S.overrides (StoredRule.state r)
          checked.currentRuleStatus checked.requested else StoredRule.state r)
        (approvalsOf checked.ruleId w'.approvals.approvals)) : SettledWorld w' := by
  set reviewed := reviewedApproval ⟨[], command.timestamp⟩ command.payload command.actorId
    checked.existing
  have hexisting : checked.existing ∈ w.approvals.approvals.map Prod.snd :=
    List.mem_map.mpr ⟨_, Assoc.mem_of_find? hfound.existing, rfl⟩
  have hreviewed : reviewed.ruleId = checked.ruleId :=
    (hrule.trans (h.stripped _ hexisting)).symm
  have hmem : ∀ approval ∈ w'.approvals.approvals.map Prod.snd,
      approval ∈ w.approvals.approvals.map Prod.snd ∨ approval = reviewed := by
    intro approval happroval
    rw [happrovals] at happroval
    obtain ⟨entry, hentry, rfl⟩ := List.mem_map.mp happroval
    obtain hnew | hold := Assoc.mem_update hentry
    · exact .inr hnew
    · exact .inl (List.mem_map.mpr ⟨entry, hold, rfl⟩)
  refine of_write checked.ruleId (fun g => if checked.Recorded then recordedState S.overrides g
    checked.currentRuleStatus checked.requested else g) h ?_ ?_ ?_ haim
  · intro approval happroval
    obtain hold | rfl := hmem approval happroval
    · exact h.stripped approval hold
    · have hsame : reviewed.ruleId = checked.existing.ruleId := rfl
      rw [hsame]
      exact h.stripped _ hexisting
  · intro approval happroval hother
    obtain hold | rfl := hmem approval happroval
    · exact hold
    · exact absurd hreviewed hother
  · intro other r' hfind'
    rw [hrules, reviewedRules] at hfind'
    by_cases hrecorded : checked.Recorded
    · rw [if_pos hrecorded] at hfind'
      simp only [if_pos hrecorded]
      refine find?_recorded ?_ hfind'
      have hrequested := hrecorded.2.2.1
      revert hrequested
      generalize checked.requested = requested
      revert requested
      decide
    · rw [if_neg hrecorded] at hfind'
      simp only [if_neg hrecorded, ite_self]
      exact ⟨r', hfind', rfl⟩

omit [PyNumerals] [PyDatetime] in
theorem SettledWorld.deactivated {ruleId : Text} {now : Instant} (overrides : PolicyOverrides)
    (h : SettledWorld w) (happrovals : w'.approvals.approvals = w.approvals.approvals)
    (hrules : w'.rules = (deactivateRule overrides ruleId now w.rules).2) : SettledWorld w' := by
  have hstep : InMemory.Step overrides w.rules (.deactivate ruleId now) w'.rules := ⟨nofun, hrules⟩
  exact h.of_step hstep happrovals (fun r hfind => h.settled _ r hfind) nofun

theorem ruleId_of_checkRequest {command : RequestCommand} {checked : CheckedRequest}
    (h : checkRequest S command w = .ok checked) :
    Text.strip checked.ruleId = checked.ruleId := by
  rw [checkRequest] at h
  obtain ⟨_, -, h⟩ := ok_of_bind h
  obtain ⟨effectiveAt, -, h⟩ := ok_of_bind h
  dsimp only at h
  split at h
  · cases h
  · split at h
    · cases h
    · obtain ⟨requestType, -, h⟩ := ok_of_bind h
      split at h
      · obtain ⟨suiteRepair, -, h⟩ := ok_of_bind h
        obtain ⟨pending, -, h⟩ := ok_of_bind h
        split at h
        · cases h
        · obtain ⟨_, -, h⟩ := ok_of_bind h
          obtain ⟨_, -, h⟩ := ok_of_bind h
          cases h
          exact Json.strip_strippedText _
      · obtain ⟨_, -, h⟩ := ok_of_bind h
        obtain ⟨_, -, h⟩ := ok_of_bind h
        cases h
        exact Json.strip_strippedText _

/-- The step lemma. -/
theorem settledWorld_step {event : StatusEvent} (h : SettledWorld w)
    (hstep : StatusStep S w event w') (haims : AimsSettled S w event) : SettledWorld w' := by
  cases event with
  | rule op =>
    obtain ⟨rules, hrules, rfl⟩ := hstep
    exact h.of_step hrules rfl haims.1 haims.2
  | request command =>
    cases hstep
    obtain ⟨happrovals, hrules⟩ | ⟨checked, hcheck, happrovals, hrules⟩ :=
      createApproval_cases S command w
    · exact h.congr happrovals hrules
    · refine h.requested (ruleId_of_checkRequest hcheck) happrovals hrules fun r hfind => ?_
      rw [happrovals]
      exact haims checked hcheck r hfind
  | review command =>
    cases hstep
    obtain ⟨happrovals, hrules⟩ | ⟨checked, hcheck, hdecides, happrovals, hafter⟩ :=
      updateApproval_cases S command w
    · exact h.congr happrovals hrules
    · set w' := ((updateApproval S command).run w).2
      have hreviewed : SettledWorld { w' with rules := reviewedRules S command checked w.rules } := by
        refine h.reviewed (found_of_checkReview hcheck).1 (rule_of_checkReview S hcheck).1
          happrovals rfl fun r hfind => ?_
        dsimp only
        rw [happrovals]
        exact haims checked hcheck hdecides r hfind
      obtain hrules | ⟨ruleId, hrules⟩ := hafter
      · exact hreviewed.congr rfl hrules
      · exact hreviewed.deactivated S.overrides rfl hrules
  | cancel approvalId actorId =>
    cases hstep
    obtain ⟨happrovals, hrules⟩ := approvals_deleteApproval approvalId actorId w
    exact h.shrunk (fun approval happroval => (happrovals.map Prod.snd).subset happroval) hrules

/-- In a run whose steps leave each rule settled, the two derivations of the status of a rule agree
in every state that is reached, in whatever order the approvals of the rule are listed. -/
theorem rule_statuses_agree (S : ReviewServices Content) {start w : ReviewWorld Content}
    {events : List StatusEvent} (hstart : SettledWorld start)
    (hruns : Transition.Runs (StatusStep S) (AimsSettled S) start events w) :
    ∀ ruleId r, w.rules.find? ruleId = some r →
      ∀ order : List Approval, order.Perm (approvalsOf ruleId w.approvals.approvals) →
        deriveApprovalRuleStatus (ruleRecord ruleId r) order =
          deriveRuleStatusFromRow (ruleRecord ruleId r) := by
  have hsettled : SettledWorld w :=
    hruns.invariant hstart fun _ _ _ h hstep haims => settledWorld_step h hstep haims
  intro ruleId r hfind
  rw [derivations_agree_iff, settled_ruleRecord]
  exact hsettled.settled ruleId r hfind

end Runs

/-! ### A rule that is edited after its deactivation -/

section Example

local instance sampleRuntimeStatus : PyRuntime := .ascii (fun _ => .nan) (fun _ => [])

local instance sampleNumeralsStatus : PyNumerals := ⟨fun _ => none, fun _ => none, id⟩

local instance sampleDatetimeStatus : PyDatetime := .epoch

/-- Nothing is stored. -/
def untouchedWorld : ReviewWorld Unit where
  approvals := ⟨[], []⟩
  plans := []
  rules := requestedWorld.rules
  artifacts := ⟨[], []⟩

/-- The request of an approval of a type. -/
def sampleAsk (approvalId requestType : String) : RequestCommand where
  payload := [entry "rule_id" (.text "r"), entry "request_type" (.text requestType)]
  actorId := some "requester"
  grantedScopes := []
  draw := ⟨approvalId.toList, []⟩
  now := 0

def sampleGrant (approvalId : String) : ReviewCommand :=
  { selfApproval with
    approvalId := approvalId.toList
    actorId := some "reviewer" }

def sampleGranted : List StatusEvent :=
  [.rule sampleCreation, .request (sampleAsk "first" "activation"), .review (sampleGrant "first")]

/-- Then it is activated, deactivated by approval and edited. -/
def sampleReopened : List StatusEvent :=
  sampleGranted ++ [.rule (.activate "r" 4), .request (sampleAsk "second" "deactivation"),
    .review (sampleGrant "second"), .rule (.update "r" 7 (sampleFields false))]

/-- The world after an event. -/
def afterEvent (w : ReviewWorld Unit) : StatusEvent → ReviewWorld Unit
  | .rule op => { w with rules := InMemory.perform permissive.overrides w.rules op }
  | .request command => ((createApproval permissive command).run w).2
  | .review command => ((updateApproval permissive command).run w).2
  | .cancel approvalId actorId => ((deleteApproval approvalId actorId).run w).2

def FreshFor (w : ReviewWorld Unit) : StatusEvent → Prop
  | .rule op => (op.newId?.all fun ruleId => (w.rules.find? ruleId).isNone) = true
  | _ => True

instance (w : ReviewWorld Unit) : ∀ event, Decidable (FreshFor w event)
  | .rule _ => inferInstanceAs (Decidable (_ = true))
  | .request _ => inferInstanceAs (Decidable True)
  | .review _ => inferInstanceAs (Decidable True)
  | .cancel _ _ => inferInstanceAs (Decidable True)

theorem step_afterEvent {w : ReviewWorld Unit} {event : StatusEvent} (h : FreshFor w event) :
    StatusStep permissive w event (afterEvent w event) := by
  cases event with
  | rule op =>
    refine ⟨_, ⟨fun ruleId hid => ?_, rfl⟩, rfl⟩
    rw [FreshFor, hid] at h
    exact Option.isNone_iff_eq_none.mp h
  | request command => rfl
  | review command => rfl
  | cancel approvalId actorId => rfl

theorem runs_afterEvents {meets : ReviewWorld Unit → StatusEvent → Prop}
    {events : List StatusEvent} {w : ReviewWorld Unit}
    (h : Transition.MeetAll afterEvent (fun w event => FreshFor w event ∧ meets w event) events w) :
    Transition.Runs (StatusStep permissive) meets w events (events.foldl afterEvent w) := by
  induction events generalizing w with
  | nil => exact .refl
  | cons event events ih => exact .cons (step_afterEvent h.1.1) h.1.2 (ih h.2)

theorem settled_untouchedWorld : SettledWorld untouchedWorld where
  stripped _ happroval := absurd happroval List.not_mem_nil
  settled ruleId r hfind := by
    have hnone : untouchedWorld.rules.find? ruleId = none := rfl
    cases hnone.symm.trans hfind

/-- What holds of every value that two fallible reads return, decided. -/
theorem forall_of_all {ε α β : Type} {x : Except ε α} {read : α → Option β} {P : α → β → Prop}
    [∀ a b, Decidable (P a b)]
    (h : (x.toOption.all fun a => (read a).all fun b => decide (P a b)) = true) :
    ∀ a, x = .ok a → ∀ b, read a = some b → P a b := by
  rintro a rfl b hread
  rw [Except.toOption, Option.all_some, hread, Option.all_some] at h
  exact of_decide_eq_true h

/-- An approved request for an activation. -/
theorem rule_statuses_agree_granted :
    let w := sampleGranted.foldl afterEvent untouchedWorld
    ∀ ruleId r, w.rules.find? ruleId = some r →
      ∀ order : List Approval, order.Perm (approvalsOf ruleId w.approvals.approvals) →
        deriveApprovalRuleStatus (ruleRecord ruleId r) order =
          deriveRuleStatusFromRow (ruleRecord ruleId r) := by
  refine rule_statuses_agree permissive settled_untouchedWorld (runs_afterEvents
    ⟨⟨by decide +kernel, ?_⟩, ⟨trivial, ?_⟩, ⟨trivial, ?_⟩, trivial⟩)
  · refine ⟨fun r hfind => ?_, fun ruleId _ => .inr nofun⟩
    have hnone : untouchedWorld.rules.find? sampleCreation.ruleId = none := rfl
    cases hnone.symm.trans hfind
  · refine forall_of_all ?_
    decide +kernel
  · intro checked hcheck hdecides
    clear hdecides
    revert checked
    refine forall_of_all ?_
    decide +kernel

/-- The approvals endpoints take the rule for approved, the use cases for a draft. -/
theorem rule_statuses_agree_counterexample :
    ¬∀ (start w : ReviewWorld Unit) (events : List StatusEvent), SettledWorld start →
      Transition.Runs (StatusStep permissive) (fun _ _ => True) start events w →
      ∀ ruleId r, w.rules.find? ruleId = some r →
        ∀ order : List Approval, order.Perm (approvalsOf ruleId w.approvals.approvals) →
          deriveApprovalRuleStatus (ruleRecord ruleId r) order =
            deriveRuleStatusFromRow (ruleRecord ruleId r) := by
  intro h
  have hruns : Transition.Runs (StatusStep permissive) (fun _ _ => True) untouchedWorld
      sampleReopened (sampleReopened.foldl afterEvent untouchedWorld) :=
    runs_afterEvents (by decide +kernel)
  have hdiffer : ∃ r ∈ (sampleReopened.foldl afterEvent untouchedWorld).rules.find? "r",
      deriveApprovalRuleStatus (ruleRecord "r" r) (approvalsOf "r"
        (sampleReopened.foldl afterEvent untouchedWorld).approvals.approvals) ≠
          deriveRuleStatusFromRow (ruleRecord "r" r) := by
    decide +kernel
  obtain ⟨r, hfind, hne⟩ := hdiffer
  exact hne (h untouchedWorld _ _ settled_untouchedWorld hruns _ r hfind _ (.refl _))

end Example

end Review

end Approvals

end DqMadeEasy
