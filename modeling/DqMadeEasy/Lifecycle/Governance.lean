import DqMadeEasy.Text.Python

/-!
# Status governance

The statuses of a rule and the moves that its status table allows. A policy may override the table
of an entity, so every operation takes the overrides in force.
-/

namespace DqMadeEasy

namespace Lifecycle

/-- The entities whose statuses the rule repositories govern. -/
inductive StatusEntity where
  | rule | ruleLifecycle
  deriving DecidableEq, Repr

/-- An allowed move, with the scopes one of which it requires. -/
structure StatusTransitionDefinition where
  fromStatus : Text
  toStatus : Text
  requiredAnyScopes : List Text
  deriving DecidableEq

def transition (fromStatus toStatus : String) (scopes : List String) :
    StatusTransitionDefinition :=
  ⟨fromStatus.toList, toStatus.toList, scopes.map String.toList⟩

def ruleStatusTransitions : List StatusTransitionDefinition :=
  [transition "draft" "testing" ["dq:rules:test", "dq:rules:write"],
   transition "testing" "tested" ["dq:rules:test", "dq:rules:write"],
   transition "tested" "pending-approval" ["dq:rules:create", "dq:rules:write"],
   transition "draft" "pending-approval" ["dq:rules:create", "dq:rules:write"],
   transition "rejected" "pending-approval" ["dq:rules:create", "dq:rules:write"],
   transition "pending-approval" "approved" ["dq:rules:approve"],
   transition "pending-approval" "rejected" ["dq:rules:approve"],
   transition "approved" "activated" ["dq:rules:activate"],
   transition "activated" "deactivated" ["dq:rules:approve"],
   transition "deactivated" "draft" ["dq:rules:edit", "dq:rules:write"],
   transition "deactivated" "removed" ["dq:rules:delete", "dq:rules:write"],
   transition "removed" "recovered" ["dq:users:manage"],
   transition "recovered" "pending-approval" ["dq:rules:create", "dq:rules:write"],
   transition "rejected" "draft" ["dq:rules:edit", "dq:rules:write"]]

def ruleLifecycleStatusTransitions : List StatusTransitionDefinition :=
  [transition "active" "deprecated" ["dq:rules:write"],
   transition "active" "superseded" ["dq:rules:write"],
   transition "active" "retired" ["dq:rules:delete", "dq:rules:write"],
   transition "deprecated" "active" ["dq:rules:write"],
   transition "deprecated" "superseded" ["dq:rules:write"],
   transition "deprecated" "retired" ["dq:rules:delete", "dq:rules:write"],
   transition "superseded" "retired" ["dq:rules:delete", "dq:rules:write"]]

/-- `_STATUS_MODEL_POLICY_OVERRIDES`. -/
abbrev PolicyOverrides := StatusEntity → Option (List StatusTransitionDefinition)

/-- The transitions of `get_status_model_definition`. -/
def statusModelTransitions (overrides : PolicyOverrides) (entity : StatusEntity) :
    List StatusTransitionDefinition :=
  (overrides entity).getD
    (match entity with
    | .rule => ruleStatusTransitions
    | .ruleLifecycle => ruleLifecycleStatusTransitions)

section Statuses

variable [PyRuntime]

def normalizeStatusValue (value : Option Text) : Text :=
  Text.replace ['_'] ['-'] (PyRuntime.lower (Text.strip (value.getD [])))

def canonicalizeStatusValue (entity : StatusEntity) (status : Option Text) : Text :=
  let normalized := normalizeStatusValue status
  match entity with
  | .rule =>
    if normalized = "pending" then "pending-approval"
    else if normalized = "declined" then "rejected"
    else normalized
  | .ruleLifecycle => normalized

/-- `_is_transition_defined_for_entity`, at the table in force. -/
def isTransitionDefined (overrides : PolicyOverrides) (entity : StatusEntity)
    (fromStatus toStatus : Text) : Bool :=
  let expectedFrom := canonicalizeStatusValue entity (some fromStatus)
  let expectedTo := canonicalizeStatusValue entity (some toStatus)
  (statusModelTransitions overrides entity).any fun t =>
    decide (canonicalizeStatusValue entity (some t.fromStatus) = expectedFrom) &&
      decide (canonicalizeStatusValue entity (some t.toStatus) = expectedTo)

/-- `_is_transition_allowed_for_entity`: the first row of the move decides. `hasRequiredScope` is
the scope resolver of the authentication library. -/
def isTransitionAllowed (hasRequiredScope : List Text → List Text → Bool)
    (overrides : PolicyOverrides) (entity : StatusEntity) (fromStatus toStatus : Text)
    (grantedScopes : List Text) : Bool :=
  let expectedFrom := canonicalizeStatusValue entity (some fromStatus)
  let expectedTo := canonicalizeStatusValue entity (some toStatus)
  match (statusModelTransitions overrides entity).find? fun t =>
    decide (canonicalizeStatusValue entity (some t.fromStatus) = expectedFrom) &&
      decide (canonicalizeStatusValue entity (some t.toStatus) = expectedTo) with
  | some t => t.requiredAnyScopes.isEmpty || hasRequiredScope grantedScopes t.requiredAnyScopes
  | none => false

/-! ### The statuses that operations record -/

/-- The statuses that the operations write into a rule's record. -/
def recordedStatuses : List Text :=
  ["draft", "tested", "pending-approval", "approved", "rejected", "deactivated", "removed",
    "recovered"].map String.toList

def isStatusText (t : Text) : Bool :=
  t.all fun c => c.toNat < 128 && c.toLower == c && c != '_' && !isSpace c

/-- A status text is its own normal form. -/
theorem normalizeStatusValue_eq_self {status : Text} (h : isStatusText status = true) :
    normalizeStatusValue (some status) = status := by
  have hchar : ∀ c ∈ status,
      c.toNat < 128 ∧ c.toLower = c ∧ c ≠ '_' ∧ isSpace c = false := by
    intro c hc
    have := List.all_eq_true.mp h c hc
    simpa [and_assoc] using this
  have hstrip : Text.strip status = status := Text.strip_eq_self
    (fun c hc => (hchar c (List.mem_of_head? hc)).2.2.2)
    (fun c hc => (hchar c (List.mem_of_getLast? hc)).2.2.2)
  have hlower : PyRuntime.lower status = status := by
    rw [PyRuntime.lower_ascii status fun c hc => (hchar c hc).1]
    calc
      status.map Char.toLower = status.map id := List.map_congr_left fun c hc => (hchar c hc).2.1
      _ = status := List.map_id status
  rw [normalizeStatusValue, Option.getD_some, hstrip, hlower]
  exact Text.replace_eq_self _ fun hmem => (hchar '_' hmem).2.2.1 rfl

/-- A status text other than the two old spellings is its own canonical form. -/
theorem canonicalizeStatusValue_eq_self {status : Text} (h : isStatusText status = true)
    (hpending : status ≠ "pending") (hdeclined : status ≠ "declined") :
    canonicalizeStatusValue .rule (some status) = status := by
  show (if normalizeStatusValue (some status) = _ then _ else _) = status
  rw [normalizeStatusValue_eq_self h, if_neg hpending, if_neg hdeclined]

omit [PyRuntime] in
/-- What the operations record is canonical, and never the status of an active rule. -/
theorem recordedStatuses_spec {status : Text} (h : status ∈ recordedStatuses) :
    isStatusText status = true ∧ status ≠ "pending" ∧ status ≠ "declined" ∧
      status ≠ [] ∧ status ≠ "activated" := by
  revert status
  decide

theorem canonicalizeStatusValue_recorded {status : Text} (h : status ∈ recordedStatuses) :
    canonicalizeStatusValue .rule (some status) = status := by
  obtain ⟨htext, hpending, hdeclined, -, -⟩ := recordedStatuses_spec h
  exact canonicalizeStatusValue_eq_self htext hpending hdeclined

end Statuses

end Lifecycle

end DqMadeEasy
