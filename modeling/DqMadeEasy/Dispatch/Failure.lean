import DqMadeEasy.Dispatch.Process

/-!
# Reporting a failed dispatch

When a dispatch raises, the worker reports the run as failed through the synchronous wrapper and
then decides whether to remove the message: it does when the report was taken, or when the report
was refused in a way that `_should_discard_failed_message` recognizes. The report goes through
`api_request`, whose refusals carry another failure code than the one that is recognized.
-/

namespace DqMadeEasy

namespace Dispatch

open Worker

section Transport

variable {World Frame : Type} (V : Services World Frame)

/-- A request is either not sent, because there is no token, or sent and answered. -/
theorem run_apiRequest_cases (correlationId : Text) (request : Request) (w : Wire World) :
    (∃ (exc : LibraryError) (world : World),
      (apiRequest V correlationId request).run w = (.error exc.val, { w with world })) ∨
    ∃ (answer : Answer) (world : World),
      (apiRequest V correlationId request).run w = (apiResult answer,
        { w with world, exchanges := w.exchanges ++ [⟨request, answer⟩] }) := by
  rw [apiRequest]
  cases htoken : V.getToken correlationId w.world with
  | mk outcome world =>
    cases outcome with
    | error exc =>
      refine .inl ⟨exc, world, Effect.run_bind_error ?_⟩
      rw [getToken, call, Effect.run_ofState, htoken]
      rfl
    | ok _ =>
      have hrun : (getToken V correlationId).run w = (.ok (), { w with world }) := by
        rw [getToken, call, Effect.run_ofState, htoken]
        rfl
      refine .inr ⟨(V.request request world).1, (V.request request world).2, ?_⟩
      rw [Effect.run_bind_ok hrun]
      exact Effect.run_bind_ok rfl

theorem apiResult_ok_iff {answer : Answer} {request : Request} :
    (∃ body, apiResult answer = .ok body) ↔ (Exchange.mk request answer).accepted = true := by
  cases answer with
  | raised exc => simp [apiResult, Exchange.accepted]
  | unreachable exc => simp [apiResult, Exchange.accepted]
  | response statusCode text body =>
    by_cases h : 400 ≤ statusCode
    · simp [apiResult, Exchange.accepted, h]
    · simp [apiResult, Exchange.accepted, h, Nat.not_le.mp h]

/-- An exception of `api_request` is never one that discards a message. -/
theorem not_discard_of_apiResult {answer : Answer} {e : PyError} (h : apiResult answer = .error e) :
    e.shouldDiscardFailedMessage = false := by
  cases answer with
  | raised exc =>
    cases h
    rw [PyError.shouldDiscardFailedMessage, exc.property]
  | unreachable exc =>
    cases h
    rfl
  | response statusCode text body =>
    rw [apiResult] at h
    split at h
    · cases h
      rfl
    · cases h

/-- What the body of `report_run` does, when there is nothing to publish. -/
theorem run_reportRun_cases (report : RunReport) (hpublisher : report.kafkaPublisher = false)
    {count : ℕ} (hcount : pyLen report.violations = .ok count) (w : Wire World) :
    (∃ (exc : LibraryError) (world : World),
      (reportRun V report).body.run w = (.error exc.val, { w with world })) ∨
    ∃ (answer : Answer) (world : World),
      (reportRun V report).body.run w = ((apiResult answer).map fun _ => (),
        { w with
          world
          exchanges := w.exchanges ++
            [⟨.report report.runId (report.apiPayload count), answer⟩] }) := by
  have hpublish : (publishViolations V report).run w = (.ok (), w) := by
    rw [publishViolations, hpublisher]
    rfl
  have hlen : (Effect.ofExcept (pyLen report.violations) : Act World ℕ).run w = (.ok count, w) := by
    rw [Effect.run_ofExcept, hcount]
  rw [reportRun]
  dsimp only
  rw [Effect.run_bind_ok hpublish, Effect.run_bind_ok hlen]
  rcases run_apiRequest_cases V report.correlationId
    (.report report.runId (report.apiPayload count)) w with ⟨exc, world, hrun⟩ | ⟨answer, world, hrun⟩
  · exact .inl ⟨exc, world, Effect.run_bind_error hrun⟩
  · refine .inr ⟨answer, world, ?_⟩
    cases hresult : apiResult answer with
    | error e =>
      rw [hresult] at hrun
      exact Effect.run_bind_error hrun
    | ok body =>
      rw [hresult] at hrun
      exact Effect.run_bind_ok hrun

end Transport

section Failure

variable {World Frame : Type} (V : Services World Frame) [PyRuntime] [PyNumerals]

/-- The report of `_report_dispatch_failure`. -/
def failureReport (runId correlationId : Text) (payload : Dict) (exc : PyError)
    (completedAt : Text) : RunReport :=
  { runId, correlationId, newStatus := .failed
    changedBy := requestedByOf payload, reason := "GX worker execution failed"
    details := [entry "source" (.text "dq-engine-gx-worker"),
      entry "exception_type" (.text exc.className)]
    completedAt := some completedAt
    diagnostics := .list []
    failureCode := .text exc.coerceReportedFailure.1.failureCode
    failureMessage := .scalar (.str exc.coerceReportedFailure.2) }

/-- `_report_dispatch_failure`: whether there was a run to report. -/
def reportDispatchFailure (payload : Dict) (exc : PyError) : Act World Bool :=
  if runIdOf payload = [] then pure false
  else do
    let correlationId ← correlationIdOf V payload
    let completedAt ← utcNowIso V
    runReportRun V (failureReport (runIdOf payload) correlationId payload exc completedAt)
    pure true

/-- `payload` of the `except` clause: empty when the message cannot be parsed. -/
def failedPayload (rawMessage : Text) : Dict :=
  match parseDispatchPayload V.json rawMessage with
  | .ok payload => payload
  | .error _ => []

def messageRunId (rawMessage : Text) : Text := runIdOf (failedPayload V rawMessage)

/-- The failure report of the `except` clause: whether the message is to be removed. -/
def reportFailure (rawMessage : Text) (exc : PyError) : Act World Bool :=
  Effect.rescue (reportDispatchFailure V (failedPayload V rawMessage) exc) fun reportExc =>
    if reportExc.severity = .exception then pure reportExc.shouldDiscardFailedMessage
    else Effect.raise reportExc

/-- The computation returns and sends nothing. -/
def Silent {World α : Type} (p : Act World α) : Prop :=
  ∀ w, ∃ a w', p.run w = (.ok a, w') ∧ w'.exchanges = w.exchanges

theorem silent_correlationIdOf (payload : Dict) : Silent (correlationIdOf V payload) := by
  intro w
  rw [correlationIdOf]
  split
  · exact ⟨_, _, rfl, rfl⟩
  · exact ⟨_, _, rfl, rfl⟩

omit [PyRuntime] [PyNumerals] in
theorem silent_utcNowIso : Silent (utcNowIso V) := fun _ => ⟨_, _, rfl, rfl⟩

/-- The outcomes of a failure report: no run, nothing sent, or one report sent and answered. -/
theorem reportDispatchFailure_cases (payload : Dict) (exc : PyError) (w : Wire World) :
    (reportDispatchFailure V payload exc).run w = (.ok false, w) ∨
    (∃ e w', (reportDispatchFailure V payload exc).run w = (.error e, w') ∧
      e.shouldDiscardFailedMessage = false ∧ w'.exchanges = w.exchanges) ∨
    ∃ report answer w', w'.exchanges =
        w.exchanges ++ [⟨.report (runIdOf payload) report, answer⟩] ∧
      report.newStatus = .failed ∧
      (reportDispatchFailure V payload exc).run w = ((apiResult answer).map fun _ => true, w') := by
  rw [reportDispatchFailure]
  by_cases hrun : runIdOf payload = []
  · rw [if_pos hrun]
    exact .inl rfl
  rw [if_neg hrun]
  obtain ⟨correlationId, w₁, hcorrelation, hw₁⟩ := silent_correlationIdOf V payload w
  obtain ⟨completedAt, w₂, hnow, hw₂⟩ := silent_utcNowIso V w₁
  rw [Effect.run_bind_ok hcorrelation, Effect.run_bind_ok hnow, ← hw₁, ← hw₂]
  let report := failureReport (runIdOf payload) correlationId payload exc completedAt
  by_cases hloop : w₂.loopRunning
  · have hnested : (runReportRun V report).run w₂ = (.error (.builtin "RuntimeError"
        "asyncio.run() cannot be called from a running event loop"), w₂) := by
      rw [runReportRun, asyncioRun, Effect.run_ofState, if_pos hloop]
    exact .inr (.inl ⟨_, w₂, Effect.run_bind_error hnested, rfl, rfl⟩)
  have hstart : (runReportRun V report).run w₂ =
      (((reportRun V report).body.run { w₂ with loopRunning := true }).1,
        { ((reportRun V report).body.run { w₂ with loopRunning := true }).2 with
          loopRunning := false }) := by
    rw [runReportRun, asyncioRun, Effect.run_ofState, if_neg hloop]
  rcases run_reportRun_cases V report rfl rfl
    { w₂ with loopRunning := true } with ⟨e, world, hbody⟩ | ⟨answer, world, hbody⟩
  · rw [hbody] at hstart
    refine .inr (.inl ⟨e.val, _, Effect.run_bind_error hstart, ?_, rfl⟩)
    rw [PyError.shouldDiscardFailedMessage, e.property]
  · rw [hbody] at hstart
    refine .inr (.inr ⟨report.apiPayload 0, answer,
      { w₂ with
        world
        exchanges := w₂.exchanges ++ [⟨.report (runIdOf payload) (report.apiPayload 0), answer⟩]
        loopRunning := false }, rfl, rfl, ?_⟩)
    cases hresult : apiResult answer with
    | error e =>
      rw [hresult] at hstart
      exact Effect.run_bind_error hstart
    | ok body =>
      rw [hresult] at hstart
      exact Effect.run_bind_ok hstart

/-- A report that makes the worker remove the message ended its run. -/
theorem ok_true_of_reportFailure {rawMessage : Text} {exc : PyError} {w w' : Wire World}
    (h : (reportFailure V rawMessage exc).run w = (.ok true, w')) :
    ∃ last, w'.exchanges = w.exchanges ++ [last] ∧
      last.endsRun (messageRunId V rawMessage) = true ∧ last.accepted = true := by
  rw [reportFailure, Effect.rescue, Effect.run_ofState] at h
  rcases reportDispatchFailure_cases V (failedPayload V rawMessage) exc w with
    hrun | ⟨e, w₁, hrun, hdiscard, _⟩ | ⟨report, answer, w₁, hexchanges, hstatus, hrun⟩
  · rw [hrun] at h
    cases h
  · rw [hrun] at h
    dsimp only at h
    split at h
    · rw [hdiscard] at h
      cases h
    · cases h
  · rw [hrun] at h
    cases hresult : apiResult answer with
    | error e =>
      rw [hresult] at h
      dsimp only [Except.map] at h
      split at h
      · rw [not_discard_of_apiResult hresult] at h
        cases h
      · cases h
    | ok body =>
      rw [hresult] at h
      cases h
      refine ⟨_, hexchanges, ?_, apiResult_ok_iff.mp ⟨body, hresult⟩⟩
      rw [Exchange.endsRun, Exchange.reported]
      dsimp only
      rw [messageRunId, if_pos rfl, hstatus]
      rfl

/-- A report about a run that the API does not know leaves the message where it is. -/
theorem reportFailure_of_unknownRun {rawMessage : Text} {exc : PyError} {w : Wire World}
    {sent : List Exchange}
    (hsent : ((reportFailure V rawMessage exc).run w).2.exchanges = w.exchanges ++ sent)
    {runId : Text} {e : Exchange} (he : e ∈ sent) (hunknown : e.unknownRun runId = true) :
    ((reportFailure V rawMessage exc).run w).1 = .ok false := by
  rw [reportFailure, Effect.rescue, Effect.run_ofState] at hsent ⊢
  rcases reportDispatchFailure_cases V (failedPayload V rawMessage) exc w with
    hrun | ⟨reportExc, w₁, hrun, _, hexchanges⟩ | ⟨report, answer, w₁, hexchanges, _, hrun⟩
  · rw [hrun]
  · -- Nothing was sent, so nothing was answered.
    rw [hrun] at hsent
    dsimp only at hsent
    have hnothing : w.exchanges = w.exchanges ++ sent := by
      rw [← hsent, ← hexchanges]
      split <;> rfl
    rw [List.self_eq_append_right.mp hnothing] at he
    cases he
  · have hfinal : ((reportFailure V rawMessage exc).run w).2.exchanges = w₁.exchanges := by
      rw [reportFailure, Effect.rescue, Effect.run_ofState, hrun]
      cases apiResult answer with
      | error reportExc =>
        dsimp only [Except.map]
        split <;> rfl
      | ok body => rfl
    rw [reportFailure, Effect.rescue, Effect.run_ofState, hsent, hexchanges,
      List.append_cancel_left_eq] at hfinal
    rw [hfinal, List.mem_singleton] at he
    rw [he, Exchange.unknownRun, Bool.and_eq_true] at hunknown
    rw [hrun]
    cases answer with
    | raised exc => cases hunknown.2
    | unreachable exc => cases hunknown.2
    | response statusCode text body =>
      have hcode : statusCode = 404 := by simpa using hunknown.2
      subst hcode
      rfl

end Failure

end Dispatch

end DqMadeEasy
