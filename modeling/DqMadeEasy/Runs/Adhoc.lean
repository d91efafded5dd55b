import DqMadeEasy.Runs.Orphans

/-!
# Ad-hoc dispatches

A request without a plan resolves its suites and dispatches them one after the other. The scope is
checked against a suite just before the suite is dispatched, so what a rejection leaves behind depends
on the suites before it.
-/

namespace DqMadeEasy

namespace Runs

open Artifacts Worker

/-! ### The request -/

/-- `CreateAdhocGxSuiteRunsCommand`. -/
structure CreateAdhocGxSuiteRunsCommand where
  dataObjectVersionId : Option Text
  ruleId : Option Text
  ruleIds : Option (List Text)
  tagIds : Option (List Text)
  targetDataObjectVersionIds : Option (List Text)
  sourceOverrideUri : Option Text
  sourceOverrideFormat : Option Text
  sourceOverrideOptions : Option Dict
  status : Text
  latestOnly : Bool
  requestedBy : Option Text
  correlationId : Option Text

abbrev ResolveCandidateSuites :=
  Option Text → Option Text → List Text → Text → Bool → Except ApiError (List GxArtifactEnvelope)

def normalizeStrList (values : Option (List Text)) : List Text :=
  (values.getD []).filterMap nonBlank

def suiteRuleIds (suite : GxArtifactEnvelope) : List Text :=
  normalizeStrList (some suite.compiledFrom.ruleIds)

def suiteScopeTargets (suite : GxArtifactEnvelope) : List Text :=
  normalizeStrList (some suite.resolvedExecutionScope.dataObjectVersionIds)

def missingTargets (scope : List Text) (suite : GxArtifactEnvelope) : List Text :=
  scope.filter fun target => target ∉ suiteScopeTargets suite

/-- What the loop over the suites is given. -/
structure AdhocRequest where
  suites : List GxArtifactEnvelope
  executionScopeOverride : List Text
  sourceOverrideUri : Option Text
  sourceOverrideFormat : Option Text
  sourceOverrideOptions : Dict
  requestedBy : Option Text
  correlationId : Text

/-- What is checked before the selector is resolved. -/
def checkAdhocSelector (command : CreateAdhocGxSuiteRunsCommand) : Except ApiError Unit :=
  let targets := normalizeStrList command.targetDataObjectVersionIds
  if targets ≠ [] ∧ ∃ id ∈ normalizedText command.dataObjectVersionId, id ∉ targets then
    .error (.http 400 (errorDetail "conflicting_scope" ("data_object_version_id must be included " ++
      "in target_data_object_version_ids when both are provided") []))
  else if normalizedText command.dataObjectVersionId = none ∧ normalizedText command.ruleId = none ∧
      normalizeStrList command.tagIds = [] then
    .error (.http 422 (errorDetail "missing_selector"
      "Either data_object_version_id, rule_id, or tag_ids is required" []))
  else .ok ()

/-- The suites of a selector. -/
def selectAdhocSuites (resolve : ResolveCandidateSuites) (command : CreateAdhocGxSuiteRunsCommand) :
    Except ApiError (List GxArtifactEnvelope) := do
  let dataObjectVersionId := normalizedText command.dataObjectVersionId
  let ruleId := normalizedText command.ruleId
  let ruleIds := normalizeStrList command.ruleIds
  let tagIds := normalizeStrList command.tagIds
  let suites ← resolve dataObjectVersionId ruleId tagIds command.status command.latestOnly
  let selected := if ruleIds = [] then suites
    else suites.filter fun suite => (suiteRuleIds suite).any (· ∈ ruleIds)
  if suites = [] then
    .error (.http 404 (errorDetail "gx_suites_not_found"
      "No GX suites found for the requested selector"
      [entry "data_object_version_id" (optText dataObjectVersionId),
        entry "rule_id" (optText ruleId), entry "tag_ids" (texts tagIds)]))
  else if selected = [] then
    .error (.http 404 (errorDetail "gx_suites_not_found"
      "No GX suites matched the provided rule_ids filter" [entry "rule_ids" (texts ruleIds)]))
  else .ok selected

/-- `create_adhoc_gx_suite_runs` to its loop. -/
def prepareAdhoc (resolve : ResolveCandidateSuites) (fresh : Text)
    (command : CreateAdhocGxSuiteRunsCommand) : Except ApiError AdhocRequest := do
  checkAdhocSelector command
  let suites ← selectAdhocSuites resolve command
  let targets := normalizeStrList command.targetDataObjectVersionIds
  let scope := if targets = [] then (normalizedText command.dataObjectVersionId).toList else targets
  let sourceOverrideUri := normalizedText command.sourceOverrideUri
  let sourceOverrideFormat := normalizedText command.sourceOverrideFormat
  if sourceOverrideUri.isSome ∧ scope = [] then
    .error (.http 400 (errorDetail "missing_scope_for_override"
      ("source_override_uri requires an explicit execution scope (data_object_version_id or " ++
        "target_data_object_version_ids)") []))
  else if sourceOverrideUri.isSome ∧ sourceOverrideFormat = none then
    .error (.http 400 (errorDetail "missing_source_override_format"
      "source_override_format is required when source_override_uri is provided" []))
  else .ok {
    suites
    executionScopeOverride := scope
    sourceOverrideUri
    sourceOverrideFormat
    sourceOverrideOptions := command.sourceOverrideOptions.getD []
    requestedBy := command.requestedBy
    correlationId := textOr command.correlationId (some fresh) }

/-- The check of the scope against a suite. -/
def checkExecutionScope (request : AdhocRequest) (suite : GxArtifactEnvelope) :
    Except ApiError Unit :=
  match missingTargets request.executionScopeOverride suite with
  | [] => .ok ()
  | missing => .error (.http 422 (errorDetail "invalid_execution_scope"
      "One or more requested targets are not attached to this GX suite"
      [entry "suite_id" (.scalar (.str suite.suiteId)), entry "suite_version" (.int suite.suiteVersion),
        entry "missing_data_object_version_ids" (texts missing)]))

def overridesByTarget (request : AdhocRequest) : Dict :=
  request.sourceOverrideUri.elim [] fun uri =>
    request.executionScopeOverride.foldl (fun overrides target => overrides.insert target (.dict
      [entry "uri" (.scalar (.str uri)), entry "format" (optText request.sourceOverrideFormat),
        entry "options" (.dict request.sourceOverrideOptions)])) []

/-- The keys of the two queues. -/
structure QueueKeys where
  dispatch : Text
  joinPairMaterialization : Text

/-- The command that a suite is dispatched with. -/
def AdhocRequest.suiteCommand (request : AdhocRequest) (keys : QueueKeys)
    (suite : GxArtifactEnvelope) : EnqueueScheduledGxSuiteRunCommand where
  suite := suite
  requestedBy := request.requestedBy
  statusSource := "gx.runs.adhoc"
  statusReason := "GX suite run scheduled"
  runPlanId := none
  executionScopeOverride := request.executionScopeOverride
  sourceOverrides := overridesByTarget request
  correlationId := some request.correlationId
  queueKey := keys.dispatch
  joinPairMaterializationQueueKey := keys.joinPairMaterialization

/-! ### The loop -/

/-- The dispatches of a request, in their order. Each draws ids of its own, and its calls go as its
circumstances have it. -/
structure Dispatcher where
  callables : Callables
  keys : QueueKeys
  build : ℕ → EnqueueScheduledGxSuiteRunCommand → BuildDispatchPayload
  circumstances : ℕ → Call → Circumstances

section Loop

variable {Store Time : Type} [PyRuntime] [PyNumerals] (listing : Listing Store Time)
  (dispatcher : Dispatcher) (request : AdhocRequest)

/-- `enqueue_suite_run`, for the suite in a place. -/
def dispatchSuite (index : ℕ) (suite : GxArtifactEnvelope) :
    Effect (Backend Store) ApiError DispatchPayload :=
  let command := request.suiteCommand dispatcher.keys suite
  (enqueueScheduledGxSuiteRun dispatcher.callables (dispatcher.build index command)
    request.correlationId command).exec (alone listing (dispatcher.circumstances index))

/-- The loop over the suites. -/
def dispatchSuites (index : ℕ) :
    List GxArtifactEnvelope → Effect (Backend Store) ApiError (List DispatchPayload)
  | [] => pure []
  | suite :: suites => do
    Effect.ofExcept (checkExecutionScope request suite)
    let accepted ← dispatchSuite listing dispatcher request index suite
    let rest ← dispatchSuites (index + 1) suites
    return accepted :: rest

omit request in
def createAdhocGxSuiteRuns (resolve : ResolveCandidateSuites) (fresh : Text)
    (command : CreateAdhocGxSuiteRunsCommand) :
    Effect (Backend Store) ApiError (List DispatchPayload) := do
  let request ← Effect.ofExcept (prepareAdhoc resolve fresh command)
  dispatchSuites listing dispatcher request 0 request.suites

end Loop

/-! ### What a dispatch leaves -/

section Dispatches

variable {Store Time : Type} [PyRuntime] [PyNumerals] {listing : Listing Store Time}
  {dispatcher : Dispatcher} {request : AdhocRequest} {index : ℕ} {suite : GxArtifactEnvelope}
  {s : Backend Store}

def HasRun (listing : Listing Store Time) (id : Text) (s : Backend Store) : Prop :=
  ∃ run, listing.find? s.runs id = some run

omit [PyRuntime] in
/-- No call removes a run. -/
theorem keeps_hasRun (hlawful : listing.Lawful) (id : Text) (circumstances : Call → Circumstances)
    (call : Call) : Effect.Keeps (HasRun listing id) (alone listing circumstances call) := by
  intro s h
  obtain ⟨run, hrun⟩ := h
  rcases listing.snd_serve (circumstances call) call s with hsame | heffect
  · exact ⟨run, by rw [alone, hsame, hrun]⟩
  · rw [alone, heffect]
    cases call with
    | assertDispatchWorker | assertJoinPairMaterializationWorker | listRuns | enqueuePayload =>
      exact ⟨run, hrun⟩
    | createRun create =>
      rw [listing.snd_effect_createRun]
      rcases hlawful.create _ _ create s.runs with ⟨exc, hsame⟩ | ⟨hnone, _, _, _, hwrites, _⟩
      · exact ⟨run, by rw [hsame, hrun]⟩
      · have hne : id ≠ create.runId := by
          rintro rfl
          rw [hnone] at hrun
          cases hrun
        exact ⟨run, (hwrites.others id hne).trans hrun⟩
    | recordRunStatusTransition transition =>
      rw [listing.snd_effect_recordRunStatusTransition]
      rcases hlawful.transition _ _ transition s.runs with ⟨hsame, _⟩ | ⟨_, changed, _, _, _, _,
        hwrites⟩
      · exact ⟨run, by rw [hsame, hrun]⟩
      · by_cases hid : id = transition.runId
        · exact ⟨changed, by rw [hid]; exact hwrites.run⟩
        · exact ⟨run, (hwrites.others id hid).trans hrun⟩

/-- A dispatch stores its run: it gets to the creation, and that has its effect. -/
def StoresRun (listing : Listing Store Time) (dispatcher : Dispatcher) (request : AdhocRequest)
    (index : ℕ) (suite : GxArtifactEnvelope) (s : Backend Store) : Prop :=
  let command := request.suiteCommand dispatcher.keys suite
  ∃ redisUrl correlationId accepted create,
    (((prepareSuiteRun dispatcher.callables (dispatcher.build index command) request.correlationId
      command).exec (alone listing (dispatcher.circumstances index))).run s).1 =
        .ok (redisUrl, correlationId, accepted) ∧
    buildRunCreateForSuiteDispatch command accepted = .ok create ∧
    Creates listing (dispatcher.circumstances index (.createRun create)) create s

/-- The creation of a run that can be built is the call. -/
theorem run_createSuiteRun (listing : Listing Store Time) (circumstances : Call → Circumstances)
    (callables : Callables) (correlationId : Text) (s : Backend Store)
    {command : EnqueueScheduledGxSuiteRunCommand} {accepted : DispatchPayload} {create : RunCreate}
    (hcreate : buildRunCreateForSuiteDispatch command accepted = .ok create) :
    (((createSuiteRun callables command correlationId accepted).exec
        (alone listing circumstances)).run s).2 =
      ((alone listing circumstances (.createRun create)).run s).2 ∧
    ∀ u s', ((createSuiteRun callables command correlationId accepted).exec
        (alone listing circumstances)).run s = (.ok u, s') →
      (alone listing circumstances (.createRun create)).run s = (.ok u, s') := by
  have hcall : ((Request.createRun create : Request Time Unit).exec
      (alone listing circumstances)).run s =
        (alone listing circumstances (.createRun create)).run s := Program.exec_perform _ _ _
  rw [createSuiteRun, hcreate]
  constructor
  · rw [snd_rescue_raise]
    exact congrArg Prod.snd hcall
  · intro u s' h
    exact hcall.symm.trans (ok_of_rescue_raise h)

/-- What comes before the creation leaves the stores. -/
theorem snd_prepareSuiteRun (listing : Listing Store Time) (circumstances : Call → Circumstances)
    (callables : Callables) (build : BuildDispatchPayload) (fresh : Text)
    (command : EnqueueScheduledGxSuiteRunCommand) (s : Backend Store) :
    (((prepareSuiteRun callables build fresh command).exec (alone listing circumstances)).run s).2 =
      s :=
  (only_prepareSuiteRun callables build fresh command).exec_state snd_alone_of_asks s

/-- A dispatch that stores no run raises and leaves everything. -/
theorem run_dispatchSuite_of_not_stores (hlawful : listing.Lawful)
    (h : ¬StoresRun listing dispatcher request index suite s) :
    ∃ e, (dispatchSuite listing dispatcher request index suite).run s = (.error e, s) := by
  have hsame := snd_prepareSuiteRun listing (dispatcher.circumstances index) dispatcher.callables
    (dispatcher.build index (request.suiteCommand dispatcher.keys suite)) request.correlationId
    (request.suiteCommand dispatcher.keys suite) s
  rw [dispatchSuite, enqueueScheduledGxSuiteRun, Program.exec_bind, Effect.run_bind]
  cases hprepared : ((prepareSuiteRun dispatcher.callables
      (dispatcher.build index (request.suiteCommand dispatcher.keys suite)) request.correlationId
      (request.suiteCommand dispatcher.keys suite)).exec
        (alone listing (dispatcher.circumstances index))).run s with
  | mk outcome after =>
    rw [hprepared] at hsame
    have hafter : after = s := hsame
    cases outcome with
    | error e => exact ⟨e, by rw [hafter]⟩
    | ok prepared =>
      obtain ⟨redisUrl, correlationId, accepted⟩ := prepared
      dsimp only
      rw [hafter, Program.exec_bind, Effect.run_bind]
      cases hcreate : buildRunCreateForSuiteDispatch
          (request.suiteCommand dispatcher.keys suite) accepted with
      | error e =>
        rw [createSuiteRun, hcreate]
        exact ⟨_, rfl⟩
      | ok create =>
        obtain ⟨_, _, hprogress⟩ := of_buildRunCreateForSuiteDispatch hcreate
        have hnone : ¬Creates listing (dispatcher.circumstances index (.createRun create)) create s :=
          fun hcreates => h ⟨redisUrl, correlationId, accepted, create, by rw [hprepared], hcreate,
            hcreates⟩
        obtain ⟨hstate, hok⟩ := run_createSuiteRun listing (dispatcher.circumstances index)
          dispatcher.callables correlationId s hcreate
        obtain ⟨hunchanged, _⟩ := (serve_create hlawful _ hprogress s).resolve_right
          fun hstored => hnone hstored.1
        cases hrun : ((createSuiteRun dispatcher.callables
            (request.suiteCommand dispatcher.keys suite) correlationId accepted).exec
              (alone listing (dispatcher.circumstances index))).run s with
        | mk outcome' after' =>
          cases outcome' with
          | ok u => exact absurd (creates_of_ok (hok u after' hrun)).2 hnone
          | error e =>
            rw [hrun] at hstate
            exact ⟨e, Prod.ext rfl (hstate.trans hunchanged)⟩

/-- A dispatch that stores its run leaves a new run. -/
theorem exists_hasRun_of_stores (hlawful : listing.Lawful)
    (h : StoresRun listing dispatcher request index suite s) :
    ∃ id, ¬HasRun listing id s ∧
      HasRun listing id ((dispatchSuite listing dispatcher request index suite).run s).2 := by
  obtain ⟨redisUrl, correlationId, accepted, create, hprepared, hcreate, hcreates⟩ := h
  obtain ⟨_, _, hprogress⟩ := of_buildRunCreateForSuiteDispatch hcreate
  refine ⟨create.runId, ?_, ?_⟩
  · rintro ⟨run, hrun⟩
    obtain ⟨_, entity, hentity⟩ := hcreates
    rcases hlawful.create _ _ create s.runs with ⟨exc, hsame⟩ | ⟨hnone, _⟩
    · rw [hsame] at hentity
      cases hentity
    · rw [hnone] at hrun
      cases hrun
  · obtain ⟨_, hstored⟩ := (serve_create hlawful _ hprogress s).resolve_left
      fun hsame => hsame.2 hcreates
    obtain ⟨hstate, _⟩ := run_createSuiteRun listing (dispatcher.circumstances index)
      dispatcher.callables correlationId s hcreate
    obtain ⟨run, hfind, _⟩ := hstored.run
    have hrun : ((prepareSuiteRun dispatcher.callables
        (dispatcher.build index (request.suiteCommand dispatcher.keys suite)) request.correlationId
        (request.suiteCommand dispatcher.keys suite)).exec
          (alone listing (dispatcher.circumstances index))).run s =
            (.ok (redisUrl, correlationId, accepted), s) :=
      Prod.ext hprepared (snd_prepareSuiteRun listing _ _ _ _ _ s)
    rw [dispatchSuite, enqueueScheduledGxSuiteRun, Program.exec_bind, Effect.run_bind_ok hrun,
      Program.exec_bind]
    refine Effect.Keeps.after_bind ?_
      fun _ => Program.keeps_exec (keeps_hasRun hlawful _ _) _
    exact ⟨run, (congrArg (listing.find? ·.runs create.runId) hstate).trans hfind⟩

/-! ### What the loop leaves -/

/-- The loop goes through: every scope fits its suite, and every dispatch returns. -/
def GoesThrough (listing : Listing Store Time) (dispatcher : Dispatcher) (request : AdhocRequest) :
    ℕ → List GxArtifactEnvelope → Backend Store → Prop
  | _, [], _ => True
  | index, suite :: suites, s => missingTargets request.executionScopeOverride suite = [] ∧
    ∃ accepted s', (dispatchSuite listing dispatcher request index suite).run s =
      (.ok accepted, s') ∧ GoesThrough listing dispatcher request (index + 1) suites s'

omit [PyRuntime] [PyNumerals] in
theorem checkExecutionScope_of_missing (h : missingTargets request.executionScopeOverride suite = []) :
    checkExecutionScope request suite = .ok () := by
  rw [checkExecutionScope, h]

omit [PyRuntime] [PyNumerals] in
theorem exists_checkExecutionScope (h : missingTargets request.executionScopeOverride suite ≠ []) :
    ∃ e, checkExecutionScope request suite = .error e := by
  rw [checkExecutionScope]
  split
  · exact absurd ‹_› h
  · exact ⟨_, rfl⟩

/-- A loop returns exactly if it goes through. -/
theorem run_dispatchSuites {suites : List GxArtifactEnvelope} :
    (∃ payloads s', (dispatchSuites listing dispatcher request index suites).run s =
      (.ok payloads, s')) ↔ GoesThrough listing dispatcher request index suites s := by
  induction suites generalizing index s with
  | nil => exact iff_of_true ⟨[], s, rfl⟩ trivial
  | cons suite suites ih =>
    rw [dispatchSuites, GoesThrough]
    by_cases hmissing : missingTargets request.executionScopeOverride suite = []
    · rw [checkExecutionScope_of_missing hmissing, Effect.ofExcept_ok_bind]
      constructor
      · rintro ⟨payloads, s', hrun⟩
        obtain ⟨accepted, between, haccepted, hrest⟩ := Effect.ok_of_run_bind hrun
        obtain ⟨rest, after, hrest, _⟩ := Effect.ok_of_run_bind hrest
        exact ⟨hmissing, accepted, between, haccepted, ih.mp ⟨rest, after, hrest⟩⟩
      · rintro ⟨_, accepted, between, haccepted, hrest⟩
        obtain ⟨rest, after, hrest⟩ := ih.mpr hrest
        refine ⟨accepted :: rest, after, ?_⟩
        rw [Effect.run_bind_ok haccepted, Effect.run_bind_ok hrest]
        rfl
    · obtain ⟨e, he⟩ := exists_checkExecutionScope hmissing
      rw [he, Effect.ofExcept_error_bind]
      refine iff_of_false ?_ fun h => hmissing h.1
      rintro ⟨payloads, s', hrun⟩
      cases (Prod.mk.inj hrun).1

theorem keeps_dispatchSuites (hlawful : listing.Lawful) (id : Text)
    (suites : List GxArtifactEnvelope) (index : ℕ) :
    Effect.Keeps (HasRun listing id) (dispatchSuites listing dispatcher request index suites) := by
  induction suites generalizing index with
  | nil => exact Effect.Keeps.pure _
  | cons suite suites ih =>
    refine Effect.Keeps.bind (Effect.Keeps.ofExcept _) fun _ => ?_
    refine Effect.Keeps.bind (Program.keeps_exec (keeps_hasRun hlawful id _) _) fun accepted => ?_
    exact Effect.Keeps.bind (ih (index + 1)) fun rest => Effect.Keeps.pure _

/-! ### All or nothing -/

/-- A request that raises created no run and enqueued no dispatch. -/
def AdhocAtomic (listing : Listing Store Time) (dispatcher : Dispatcher)
    (resolve : ResolveCandidateSuites) (fresh : Text) (command : CreateAdhocGxSuiteRunsCommand)
    (s : Backend Store) : Prop :=
  ∀ e s', (createAdhocGxSuiteRuns listing dispatcher resolve fresh command).run s = (.error e, s') →
    (∀ id, HasRun listing id s' → HasRun listing id s) ∧ s'.queue = s.queue

/-- The scope does not fit the first suite, or its run is not stored, or the loop goes through. -/
def AdhocClean (listing : Listing Store Time) (dispatcher : Dispatcher) (request : AdhocRequest)
    (s : Backend Store) : Prop :=
  ∀ first rest, request.suites = first :: rest →
    missingTargets request.executionScopeOverride first ≠ [] ∨
      ¬StoresRun listing dispatcher request 0 first s ∨
      GoesThrough listing dispatcher request 0 request.suites s

theorem exists_hasRun_dispatchSuites (hlawful : listing.Lawful)
    (hmissing : missingTargets request.executionScopeOverride suite = [])
    (hstores : StoresRun listing dispatcher request index suite s)
    (suites : List GxArtifactEnvelope) :
    ∃ id, ¬HasRun listing id s ∧ HasRun listing id
      ((dispatchSuites listing dispatcher request index (suite :: suites)).run s).2 := by
  obtain ⟨id, hnew, hhas⟩ := exists_hasRun_of_stores hlawful hstores
  refine ⟨id, hnew, ?_⟩
  rw [dispatchSuites, checkExecutionScope_of_missing hmissing, Effect.ofExcept_ok_bind]
  refine Effect.Keeps.after_bind hhas fun accepted => ?_
  exact Effect.Keeps.bind (keeps_dispatchSuites hlawful id suites _) fun _ => Effect.Keeps.pure _

/-- A loop that raises created no run and enqueued no dispatch exactly if it is clean. -/
theorem dispatchSuites_atomic_iff (hlawful : listing.Lawful) :
    (∀ e s', (dispatchSuites listing dispatcher request 0 request.suites).run s = (.error e, s') →
      (∀ id, HasRun listing id s' → HasRun listing id s) ∧ s'.queue = s.queue) ↔
    AdhocClean listing dispatcher request s := by
  have hsame (e : ApiError) {e' : ApiError} {s' : Backend Store}
      (hrun : (dispatchSuites listing dispatcher request 0 request.suites).run s = (.error e, s))
      (hraised : (dispatchSuites listing dispatcher request 0 request.suites).run s =
        (.error e', s')) : (∀ id, HasRun listing id s' → HasRun listing id s) ∧
          s'.queue = s.queue := by
    rw [hrun] at hraised
    rw [← (Prod.mk.inj hraised).2]
    exact ⟨fun _ h => h, rfl⟩
  cases hsuites : request.suites with
  | nil =>
    refine iff_of_true (fun e s' hrun => ?_) fun first rest hcons => ?_
    · cases (Prod.mk.inj hrun).1
    · rw [hsuites] at hcons
      cases hcons
  | cons first rest =>
    rw [hsuites] at hsame
    have hclean : AdhocClean listing dispatcher request s ↔
        missingTargets request.executionScopeOverride first ≠ [] ∨
          ¬StoresRun listing dispatcher request 0 first s ∨
          GoesThrough listing dispatcher request 0 (first :: rest) s := by
      rw [AdhocClean, hsuites]
      simp only [List.cons.injEq]
      exact ⟨fun h => h first rest ⟨rfl, rfl⟩, fun h _ _ ⟨hfirst, _⟩ => hfirst ▸ h⟩
    rw [hclean]
    by_cases hmissing : missingTargets request.executionScopeOverride first = []
    · by_cases hstores : StoresRun listing dispatcher request 0 first s
      · obtain ⟨id, hnew, hhas⟩ := exists_hasRun_dispatchSuites hlawful hmissing hstores rest
        rw [← run_dispatchSuites]
        cases hrun : (dispatchSuites listing dispatcher request 0 (first :: rest)).run s with
        | mk outcome s' =>
          rw [hrun] at hhas
          cases outcome with
          | ok payloads =>
            refine iff_of_true (fun e s'' h => ?_) (.inr (.inr ⟨payloads, s', rfl⟩))
            cases (Prod.mk.inj h).1
          | error e =>
            refine iff_of_false (fun h => hnew ((h e s' rfl).1 id hhas)) ?_
            rintro (hne | hnot | ⟨payloads, s'', h⟩)
            · exact hne hmissing
            · exact hnot hstores
            · cases (Prod.mk.inj h).1
      · obtain ⟨e, hrun⟩ := run_dispatchSuite_of_not_stores hlawful hstores
        refine iff_of_true (fun e' s' h => hsame e ?_ h) (.inr (.inl hstores))
        rw [dispatchSuites, checkExecutionScope_of_missing hmissing, Effect.ofExcept_ok_bind,
          Effect.run_bind_error hrun]
    · obtain ⟨e, he⟩ := exists_checkExecutionScope hmissing
      refine iff_of_true (fun e' s' h => hsame e ?_ h) (.inl hmissing)
      rw [dispatchSuites, he, Effect.ofExcept_error_bind]
      rfl

end Dispatches

/-- The law of an ad-hoc request: if it raises, nothing was created or enqueued exactly where its loop
is clean, if it comes to that. -/
def AdhocLaw {Store Time : Type} [PyRuntime] [PyNumerals] (listing : Listing Store Time) : Prop :=
  ∀ (dispatcher : Dispatcher) (resolve : ResolveCandidateSuites) (fresh : Text)
    (command : CreateAdhocGxSuiteRunsCommand) (s : Backend Store),
    AdhocAtomic listing dispatcher resolve fresh command s ↔
      ∀ request, prepareAdhoc resolve fresh command = .ok request →
        AdhocClean listing dispatcher request s

theorem adhocLaw_of_lawful {Store Time : Type} [PyRuntime] [PyNumerals]
    {listing : Listing Store Time} (hlawful : listing.Lawful) : AdhocLaw listing := by
  intro dispatcher resolve fresh command s
  rw [AdhocAtomic, createAdhocGxSuiteRuns]
  cases hprepared : prepareAdhoc resolve fresh command with
  | error e =>
    rw [Effect.ofExcept_error_bind]
    refine iff_of_true (fun e' s' hrun => ?_) nofun
    rw [← (Prod.mk.inj hrun).2]
    exact ⟨fun _ h => h, rfl⟩
  | ok request =>
    rw [Effect.ofExcept_ok_bind, dispatchSuites_atomic_iff hlawful]
    exact ⟨fun h _ heq => Except.ok.inj heq ▸ h, fun h => h request rfl⟩

/-- An ad-hoc request is all or nothing, in both repositories, exactly where its first suite is
rejected before its run is stored or no suite is rejected. -/
theorem adhoc_atomic_iff [PyRuntime] [PyNumerals] [PyDatetime] :
    AdhocLaw InMemory.listing ∧ AdhocLaw Postgres.listing :=
  ⟨adhocLaw_of_lawful InMemory.listing_lawful, adhocLaw_of_lawful Postgres.listing_lawful⟩

section Example

local instance sampleRuntimeAdhoc : PyRuntime := .ascii (fun _ => .nan) (fun _ => [])

local instance sampleNumeralsAdhoc : PyNumerals := ⟨fun _ => none, fun _ => none, id⟩

local instance sampleDatetimeAdhoc : PyDatetime := .epoch

/-- A suite of the rule, on a target. -/
def suiteOn (suiteId target : String) : GxArtifactEnvelope where
  suiteId := suiteId.toList
  suiteVersion := 1
  suiteVersion_pos := Nat.one_pos
  artifactVersion := "1"
  assignmentScope := ⟨none, none, none, []⟩
  resolvedExecutionScope := ⟨[target.toList]⟩
  gxSuite := []
  distinctKeys := Json.distinctKeys_nil
  compiledFrom := ⟨["rule"], "1", []⟩
  executionHints := ⟨none, [], [], none, none⟩
  executionContract := some {
    engineType := some "gx"
    engineTarget := none
    executionShape := none
    traceability := none
    sourceMaterialization := none
    resolvedDataObjectVersionId := none
    resolvedDataDeliveryId := none
    resolvedDeliveryLocation := none
    deliveryResolutionMode := none
    selectionMode := none
    scopeSelector := []
    suiteRefs := []
    suiteCount := none
    batchCount := none
    extra := [] }
  savedBy := none
  sourcePipeline := none
  status := some "active"
  artifactHash := none

/-- The rule on one target. -/
def adhocOnTarget : CreateAdhocGxSuiteRunsCommand where
  dataObjectVersionId := none
  ruleId := some "rule"
  ruleIds := none
  tagIds := none
  targetDataObjectVersionIds := some ["first"]
  sourceOverrideUri := none
  sourceOverrideFormat := none
  sourceOverrideOptions := none
  status := "active"
  latestOnly := true
  requestedBy := none
  correlationId := some "corr"

/-- The dispatches when every call is served. -/
def servedDispatches : Dispatcher where
  callables := sampleCallables
  keys := ⟨"queue", "materialization"⟩
  build index _ _ := .ok (samplePayload (if index = 0 then "run" else "other run"))
  circumstances _ _ := ⟨.served, ⟨1, 1⟩, "history"⟩

def afterSecondRejected : Except ApiError (List DispatchPayload) × Backend InMemory.Store :=
  (createAdhocGxSuiteRuns InMemory.listing servedDispatches
    (fun _ _ _ _ _ => .ok [suiteOn "suite" "first", suiteOn "other suite" "second"])
    "corr" adhocOnTarget).run noRuns

/-- The second suite is rejected when the first has been dispatched. -/
theorem adhoc_atomic_counterexample :
    ¬∀ (dispatcher : Dispatcher) (resolve : ResolveCandidateSuites) (fresh : Text)
        (command : CreateAdhocGxSuiteRunsCommand) (s : Backend InMemory.Store),
      AdhocAtomic InMemory.listing dispatcher resolve fresh command s := by
  intro h
  have hstate : afterSecondRejected.1.isOk = false ∧ afterSecondRejected.2.queue.length = 1 := by
    decide +kernel
  cases hrun : afterSecondRejected with
  | mk outcome after =>
    rw [hrun] at hstate
    cases outcome with
    | ok payloads => cases hstate.1
    | error e =>
      have hatomic := h servedDispatches
        (fun _ _ _ _ _ => .ok [suiteOn "suite" "first", suiteOn "other suite" "second"])
        "corr" adhocOnTarget noRuns e after hrun
      rw [hatomic.2] at hstate
      cases hstate.2

end Example

end Runs

end DqMadeEasy
