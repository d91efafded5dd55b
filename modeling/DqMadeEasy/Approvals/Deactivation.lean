import Mathlib.Data.Char
import Mathlib.Data.List.Lex
import Mathlib.Data.Prod.Lex
import Mathlib.Data.List.ReduceOption
import DqMadeEasy.Exceptions.Times
import DqMadeEasy.Logic.Latest

/-!
# Pending deactivations

Which rules wait for the approval of a deactivation. The loop over the approvals looks at the
deactivation requests only, keeps the latest one of each rule by time and id, the later in the list
on a tie, and keeps the rules whose latest request is pending.
-/

namespace DqMadeEasy

namespace Approvals

/-- `OverflowError`: a time that is no `datetime` in UTC. -/
inductive OverflowError where
  | dateOutOfRange
  deriving DecidableEq

/-- `datetime.min` in UTC, in microseconds since the epoch. -/
def minimumTime : ℤ := -62135596800000000

/-- What the loop takes of a deactivation request. -/
structure DeactivationRequest where
  ruleId : Text
  timestampKey : ℤ ×ₗ Text
  status : Text

/-- `status == "pending"`. -/
def DeactivationRequest.pending (request : DeactivationRequest) : Bool :=
  decide (request.status = "pending")

/-- Every order of what a list yields is the order of what some order of the list yields. -/
theorem exists_perm_filterMap {α β : Type*} {f : α → Option β} {xs : List α} {ys : List β}
    (h : ys.Perm (xs.filterMap f)) : ∃ xs' : List α, xs'.Perm xs ∧ xs'.filterMap f = ys := by
  induction ys generalizing xs with
  | nil => exact ⟨xs, .refl xs, h.symm.eq_nil⟩
  | cons y ys ih =>
    obtain ⟨x, hx, hfx⟩ := List.mem_filterMap.mp (h.mem_iff.mp List.mem_cons_self)
    obtain ⟨before, after, rfl⟩ := List.append_of_mem hx
    have hmiddle : ((before ++ x :: after).filterMap f).Perm
        (y :: (before ++ after).filterMap f) := by
      rw [List.filterMap_append, List.filterMap_cons_some hfx, List.filterMap_append]
      exact List.perm_middle
    obtain ⟨xs', hperm, hys⟩ := ih ((h.trans hmiddle).cons_inv)
    refine ⟨x :: xs', (hperm.cons x).trans List.perm_middle.symm, ?_⟩
    rw [List.filterMap_cons_some hfx, hys]

section Requests

variable [PyRuntime] [PyNumerals] [PyDatetime]

/-- The `timestamp` of `approval_timestamp_key`. -/
def approvalTimestamp (approval : Dict) : Except OverflowError ℤ :=
  let rawRequestedAt := (approval.get "requestedAt").orElse (approval.get "requested_at")
  if rawRequestedAt.truthy then
    match Datetime.ofText rawRequestedAt.str with
    | none => .ok minimumTime
    | some parsed =>
      if !parsed.aware then .ok minimumTime
      else if Datetime.InRange parsed.microseconds then .ok parsed.microseconds
      else .error .dateOutOfRange
  else .ok minimumTime

def approvalTimestampKey (approval : Dict) : Except OverflowError (ℤ ×ₗ Text) := do
  let timestamp ← approvalTimestamp approval
  return toLex (timestamp, (approval.get "id").strippedText)

/-- `str(approval.get("ruleId") or approval.get("rule_id") or "").strip()`. -/
def ruleIdOf (approval : Dict) : Text :=
  ((approval.get "ruleId").orElse (approval.get "rule_id")).strippedText

/-- `str(approval.get("status") or "").strip().lower()`. -/
def statusOf (approval : Dict) : Text := PyRuntime.lower (approval.get "status").strippedText

/-- `str(approval.get("requestType") or approval.get("request_type") or "").strip().lower()`. -/
def requestTypeOf (approval : Dict) : Text :=
  PyRuntime.lower ((approval.get "requestType").orElse (approval.get "request_type")).strippedText

/-- The deactivation request that an approval is, if it is one of a rule. -/
def deactivationRequest (approval : Dict) : Except OverflowError (Option DeactivationRequest) :=
  if ruleIdOf approval = [] ∨ requestTypeOf approval ≠ "deactivation" then .ok none
  else do
    let timestampKey ← approvalTimestampKey approval
    return some ⟨ruleIdOf approval, timestampKey, statusOf approval⟩

/-- `current is None or timestamp_key >= current[0]`, and the assignment. -/
def keepLatest (latestByRule : List (Text × DeactivationRequest)) (request : DeactivationRequest) :
    List (Text × DeactivationRequest) :=
  Latest.keepBest DeactivationRequest.ruleId (Latest.atLeast DeactivationRequest.timestampKey)
    latestByRule request

/-- One turn of the loop. -/
def noteApproval (latestByRule : List (Text × DeactivationRequest)) (approval : Dict) :
    Except OverflowError (List (Text × DeactivationRequest)) := do
  match ← deactivationRequest approval with
  | none => return latestByRule
  | some request => return keepLatest latestByRule request

def buildPendingDeactivationRuleIds (approvals : List Dict) : Except OverflowError (List Text) := do
  let latestDeactivationByRule ← approvals.foldlM noteApproval []
  return (latestDeactivationByRule.filter fun entry => entry.2.pending).map Prod.fst

/-! ### The requests of a list -/

def deactivationRequests (approvals : List Dict) : List DeactivationRequest :=
  approvals.filterMap fun approval => ((deactivationRequest approval).toOption).join

/-- The loop reads every approval, and folds over the requests that it finds. -/
theorem foldlM_noteApproval (approvals : List Dict)
    (latestByRule : List (Text × DeactivationRequest)) :
    approvals.foldlM noteApproval latestByRule =
      (approvals.mapM deactivationRequest).map fun found =>
        found.reduceOption.foldl keepLatest latestByRule := by
  induction approvals generalizing latestByRule with
  | nil => rfl
  | cons approval approvals ih =>
    rw [List.foldlM_cons, List.mapM_cons, noteApproval]
    cases deactivationRequest approval with
    | error e => rfl
    | ok found =>
      simp only [ok_bind]
      cases found with
      | none =>
        simp only [pure, Except.pure, ok_bind, ih]
        cases approvals.mapM deactivationRequest <;> rfl
      | some request =>
        simp only [pure, Except.pure, ok_bind, ih]
        cases approvals.mapM deactivationRequest <;> rfl

variable {approvals : List Dict}

theorem reduceOption_of_mapM {found : List (Option DeactivationRequest)}
    (h : approvals.mapM deactivationRequest = .ok found) :
    found.reduceOption = deactivationRequests approvals := by
  have hall := mapM_ok h
  clear h
  induction hall with
  | nil => rfl
  | @cons approval request approvals found hread _ ih =>
    rw [deactivationRequests, List.filterMap_cons, hread]
    cases request with
    | none => exact ih
    | some request => exact congrArg (List.cons request) ih

theorem deactivationRequests_perm {approvals' : List Dict} (h : approvals'.Perm approvals) :
    (deactivationRequests approvals').Perm (deactivationRequests approvals) := h.filterMap _

/-- What the loop returns: the rules whose latest request is pending. -/
theorem mem_pendingDeactivation {ids : List Text}
    (h : buildPendingDeactivationRuleIds approvals = .ok ids) (ruleId : Text) :
    ruleId ∈ ids ↔ Latest.Marked DeactivationRequest.ruleId DeactivationRequest.timestampKey
      DeactivationRequest.pending (deactivationRequests approvals) ruleId := by
  obtain ⟨latest, hfold, hids⟩ := ok_of_bind h
  cases hids
  rw [foldlM_noteApproval] at hfold
  obtain ⟨found, hfound, rfl⟩ := ok_of_map hfold
  rw [reduceOption_of_mapM hfound]
  have hkept := Latest.kept_atLeast DeactivationRequest.ruleId DeactivationRequest.timestampKey
    (deactivationRequests approvals)
  constructor
  · intro hmem
    obtain ⟨⟨k, request⟩, hentry, rfl⟩ := List.mem_map.mp hmem
    obtain ⟨hentry, hpending⟩ := List.mem_filter.mp hentry
    exact ⟨request, Assoc.find?_of_mem hkept.distinct hentry, hpending⟩
  · rintro ⟨request, hfind, hpending⟩
    exact List.mem_map.mpr ⟨(ruleId, request),
      List.mem_filter.mpr ⟨Assoc.mem_of_find? hfind, hpending⟩, rfl⟩

/-- Approvals that can be read in one order can be read in every order. -/
theorem exists_build_of_perm {approvals' : List Dict} {ids : List Text}
    (hperm : approvals'.Perm approvals) (h : buildPendingDeactivationRuleIds approvals = .ok ids) :
    ∃ ids', buildPendingDeactivationRuleIds approvals' = .ok ids' := by
  obtain ⟨latest, hfold, -⟩ := ok_of_bind h
  rw [foldlM_noteApproval] at hfold
  obtain ⟨found, hfound, -⟩ := ok_of_map hfold
  obtain ⟨found', hfound', -⟩ := mapM_perm hperm hfound
  exact ⟨_, by rw [buildPendingDeactivationRuleIds, foldlM_noteApproval, hfound']; rfl⟩

def LatestAgree (approvals : List Dict) (ruleId : Text) : Prop :=
  Latest.Agree DeactivationRequest.ruleId DeactivationRequest.timestampKey
    DeactivationRequest.pending (deactivationRequests approvals) ruleId

def LatestPending (approvals : List Dict) (ruleId : Text) : Prop :=
  ∃ request ∈ deactivationRequests approvals, request.ruleId = ruleId ∧
    Latest.Highest DeactivationRequest.ruleId DeactivationRequest.timestampKey
      (deactivationRequests approvals) request ∧ request.pending = true

/-- Whether a rule waits for a deactivation is the same for every order of the approvals exactly
when its latest deactivation requests agree, and then it is whether that request is pending. -/
theorem pendingDeactivation_of_latest (approvals : List Dict) (ids : List Text) (ruleId : Text)
    (h : buildPendingDeactivationRuleIds approvals = .ok ids) :
    ((∀ approvals' : List Dict, approvals'.Perm approvals →
      ∃ ids', buildPendingDeactivationRuleIds approvals' = .ok ids' ∧
        (ruleId ∈ ids' ↔ ruleId ∈ ids)) ↔ LatestAgree approvals ruleId) ∧
    (LatestAgree approvals ruleId → (ruleId ∈ ids ↔ LatestPending approvals ruleId)) := by
  refine ⟨⟨?_, ?_⟩, ?_⟩
  · intro hsame
    refine Latest.marked_perm_iff.mp fun requests' hperm => ?_
    obtain ⟨approvals', hperm', rfl⟩ := exists_perm_filterMap hperm
    obtain ⟨ids', hids', hiff⟩ := hsame approvals' hperm'
    exact (mem_pendingDeactivation hids' ruleId).symm.trans
      (hiff.trans (mem_pendingDeactivation h ruleId))
  · intro hagree approvals' hperm
    obtain ⟨ids', hids'⟩ := exists_build_of_perm hperm h
    refine ⟨ids', hids', ?_⟩
    rw [mem_pendingDeactivation h, mem_pendingDeactivation hids']
    exact Latest.marked_perm_iff.mpr hagree _ (deactivationRequests_perm hperm)
  · intro hagree
    rw [mem_pendingDeactivation h]
    exact Latest.marked_iff hagree

end Requests

/-! ### A deactivation before an activation -/

section Sample

local instance sampleRuntimeDeactivation : PyRuntime := .ascii (fun _ => .nan) (fun _ => [])

local instance sampleNumeralsDeactivation : PyNumerals := ⟨fun _ => none, fun _ => none, id⟩

local instance sampleDatetimeDeactivation : PyDatetime := .epoch

def sampleApproval (id requestType status : String) (requestedAt : ℕ) : Dict :=
  [("id", .text id), ("ruleId", .text "r"), ("requestType", .text requestType),
   ("status", .text status), ("requestedAt", .scalar (.str (epochText requestedAt)))]

def LatestApproval (approvals : List Dict) (approval : Dict) : Prop :=
  ∀ other ∈ approvals, ruleIdOf other = ruleIdOf approval → ∀ key key',
    approvalTimestampKey other = .ok key → approvalTimestampKey approval = .ok key' → key ≤ key'

/-- A rule waits for its deactivation although an activation was requested, and approved, later. -/
theorem pendingDeactivation_not_latest :
    ¬ ∀ (approvals : List Dict) (ids : List Text),
      buildPendingDeactivationRuleIds approvals = .ok ids → ∀ ruleId, ruleId ≠ [] →
        (ruleId ∈ ids ↔ ∃ approval ∈ approvals, ruleIdOf approval = ruleId ∧
          LatestApproval approvals approval ∧ requestTypeOf approval = "deactivation" ∧
          statusOf approval = "pending") := by
  intro h
  have hbuild : buildPendingDeactivationRuleIds [sampleApproval "a" "deactivation" "pending" 1,
      sampleApproval "b" "activation" "approved" 2] = .ok ["r"] := by
    decide +kernel
  obtain ⟨approval, hmem, -, hlatest, htype, -⟩ :=
    (h _ _ hbuild "r" (by decide)).mp (List.mem_singleton.mpr rfl)
  rcases List.mem_pair.mp hmem with rfl | rfl
  · have hle := hlatest (sampleApproval "b" "activation" "approved" 2)
      (List.mem_pair.mpr (.inr rfl)) rfl (toLex (2, "b")) (toLex (1, "a"))
      (by decide +kernel) (by decide +kernel)
    exact absurd hle (by decide +kernel)
  · exact absurd htype (by decide +kernel)

/-- A later request that was approved settles the matter, also where it is listed first. -/
theorem pendingDeactivation_of_latest_settled :
    ∃ ids', buildPendingDeactivationRuleIds [sampleApproval "b" "deactivation" "approved" 2,
        sampleApproval "a" "deactivation" "pending" 1] = .ok ids' ∧
      ("r".toList ∈ ids' ↔ "r".toList ∈ ([] : List Text)) := by
  have hbuild : buildPendingDeactivationRuleIds [sampleApproval "a" "deactivation" "pending" 1,
      sampleApproval "b" "deactivation" "approved" 2] = .ok [] := by decide +kernel
  have hrequests : deactivationRequests [sampleApproval "a" "deactivation" "pending" 1,
      sampleApproval "b" "deactivation" "approved" 2] =
        [⟨"r".toList, toLex (1, "a".toList), "pending".toList⟩,
          ⟨"r".toList, toLex (2, "b".toList), "approved".toList⟩] := by rfl
  refine (pendingDeactivation_of_latest _ _ _ hbuild).1.mpr ?_ _ (List.Perm.swap _ _ [])
  rw [LatestAgree, hrequests]
  have hlast : ∀ request ∈ [DeactivationRequest.mk "r".toList (toLex (1, "a".toList))
        "pending".toList, ⟨"r".toList, toLex (2, "b".toList), "approved".toList⟩],
      Latest.Highest DeactivationRequest.ruleId DeactivationRequest.timestampKey
        [⟨"r".toList, toLex (1, "a".toList), "pending".toList⟩,
          ⟨"r".toList, toLex (2, "b".toList), "approved".toList⟩] request →
      request.pending = false := by
    intro request hmem hhighest
    rcases List.mem_pair.mp hmem with rfl | rfl
    · have hle := hhighest ⟨"r".toList, toLex (2, "b".toList), "approved".toList⟩
        (List.mem_pair.mpr (.inr rfl)) rfl
      exact absurd hle (by decide +kernel)
    · decide
  intro first hfirst second hsecond _ _ hhighest hhighest'
  rw [hlast first hfirst hhighest, hlast second hsecond hhighest']

end Sample

end Approvals

end DqMadeEasy
