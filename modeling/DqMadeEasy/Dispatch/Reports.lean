import DqMadeEasy.Dispatch.Process

/-!
# What a dispatch reports

Every request that a dispatch makes either reads from the API or reports the run as running: the
reports that would end the run are coroutines that nobody awaits. The invariant says so of the
record of requests, and each function of the dispatch keeps it.
-/

namespace DqMadeEasy

namespace Dispatch

open Worker

def OnlyRunning (start exchanges : List Exchange) : Prop :=
  ∃ sent, exchanges = start ++ sent ∧ ∀ e ∈ sent, ∀ runId, e.endsRun runId = false

def Exchange.isReport (exchange : Exchange) : Bool :=
  match exchange.request with
  | .report _ _ => true
  | _ => false

def ClosesRun (runId : Text) (sent : List Exchange) : Prop :=
  ∃ earlier last, sent.filter Exchange.isReport = earlier ++ [last] ∧ last.endsRun runId ∧
    ∀ e ∈ earlier, e.endsRun runId = false

/-- A request that the API took is not refused with 404. -/
theorem Exchange.unknownRun_of_accepted {exchange : Exchange} (h : exchange.accepted = true)
    (runId : Text) : exchange.unknownRun runId = false := by
  rw [Exchange.accepted] at h
  rw [Exchange.unknownRun]
  cases hanswer : exchange.answer with
  | response statusCode text body =>
    rw [hanswer] at h
    have hcode : statusCode ≠ 404 := by
      rintro rfl
      cases h
    simp [hcode]
  | unreachable exc => simp
  | raised exc => simp

theorem OnlyRunning.refl (start : List Exchange) : OnlyRunning start start :=
  ⟨[], (List.append_nil start).symm, fun _ h => absurd h List.not_mem_nil⟩

theorem OnlyRunning.send {start exchanges : List Exchange} (h : OnlyRunning start exchanges)
    {e : Exchange} (he : ∀ runId, e.endsRun runId = false) :
    OnlyRunning start (exchanges ++ [e]) := by
  obtain ⟨sent, rfl, hsent⟩ := h
  refine ⟨sent ++ [e], List.append_assoc .., ?_⟩
  intro e' he'
  rcases List.mem_append.mp he' with he' | he'
  · exact hsent e' he'
  · rw [List.mem_singleton.mp he']
    exact he

theorem OnlyRunning.not_closesRun {start exchanges : List Exchange}
    (h : OnlyRunning start exchanges) :
    ∃ sent, exchanges = start ++ sent ∧ ∀ runId, ¬ClosesRun runId sent := by
  obtain ⟨sent, hexchanges, hsent⟩ := h
  refine ⟨sent, hexchanges, ?_⟩
  rintro runId ⟨earlier, last, hreports, hlast, _⟩
  have hmem : last ∈ sent.filter Exchange.isReport := by
    rw [hreports]
    exact List.mem_append_right _ (List.mem_singleton_self last)
  rw [hsent last (List.mem_of_mem_filter hmem) runId] at hlast
  cases hlast

/-- The computation sends no report that ends a run. -/
def Quiet {World α : Type} (p : Act World α) : Prop :=
  ∀ start, Effect.Keeps (fun w : Wire World => OnlyRunning start w.exchanges) p

namespace Quiet

variable {World α β : Type}

theorem bind {p : Act World α} {f : α → Act World β} (hp : Quiet p) (hf : ∀ a, Quiet (f a)) :
    Quiet (p >>= f) := fun start => .bind (hp start) fun a => hf a start

theorem pure (a : α) : Quiet (pure a : Act World α) := fun _ => .pure a

theorem ofExcept (x : Except PyError α) : Quiet (Effect.ofExcept x : Act World α) :=
  fun _ => .ofExcept x

theorem raise (e : PyError) : Quiet (Effect.raise e : Act World α) := fun _ => .raise e

theorem rescue {p : Act World α} {handler : PyError → Act World α} (hp : Quiet p)
    (hhandler : ∀ e, Quiet (handler e)) : Quiet (Effect.rescue p handler) :=
  fun start => .rescue (hp start) fun e => hhandler e start

theorem finally_ {p : Act World α} {cleanup : Act World Unit} (hp : Quiet p)
    (hcleanup : Quiet cleanup) : Quiet (Effect.finally_ p cleanup) :=
  fun start => .finally_ (hp start) (hcleanup start)

theorem ite {c : Prop} [Decidable c] {p q : Act World α} (hp : Quiet p) (hq : Quiet q) :
    Quiet (if c then p else q) :=
  fun start => .ite (fun _ => hp start) fun _ => hq start

theorem foldlM {f : β → α → Act World β} (hf : ∀ b a, Quiet (f b a)) (xs : List α) (b : β) :
    Quiet (xs.foldlM f b) := fun start => .foldlM (fun b a => hf b a start) xs b

theorem call (service : World → Except PyError α × World) : Quiet (call service) :=
  fun _ _ h => h

theorem ask (service : World → α × World) : Quiet (ask service) := call _

theorem asyncioRun {coroutine : Coroutine World α} (h : Quiet coroutine.body) :
    Quiet (asyncioRun coroutine) := by
  intro start w hw
  rw [Dispatch.asyncioRun, Effect.run_ofState]
  split
  · exact hw
  · exact h start _ hw

end Quiet

section Transport

variable {World Frame : Type} (V : Services World Frame)

theorem quiet_send {request : Request}
    (h : ∀ answer runId, (Exchange.mk request answer).endsRun runId = false) :
    Quiet (send V request) := by
  intro start w hw
  exact hw.send (h _)

theorem quiet_apiRequest {request : Request} (correlationId : Text)
    (h : ∀ answer runId, (Exchange.mk request answer).endsRun runId = false) :
    Quiet (apiRequest V correlationId request) := by
  rw [apiRequest]
  refine .bind (.call _) fun _ => ?_
  refine .bind (quiet_send V h) fun answer => ?_
  exact .ofExcept _

/-- A report that a run is running ends no run. -/
theorem quiet_reportRun {report : RunReport} (h : report.newStatus = .running) :
    Quiet (reportRun V report).body := by
  have hpublish : Quiet (publishViolations V report) := by
    rw [publishViolations]
    exact .ite (.call _) (.pure ())
  rw [reportRun]
  refine .bind hpublish fun _ => ?_
  refine .bind (.ofExcept _) fun violationCount => ?_
  refine .bind (quiet_apiRequest V report.correlationId ?_) fun _ => .pure ()
  intro answer runId
  rw [Exchange.endsRun, Exchange.reported]
  dsimp only
  split
  · rw [RunReport.apiPayload, h]
    rfl
  · rfl

theorem quiet_apiReportExecutionProgress (report : ProgressReport) :
    Quiet (apiReportExecutionProgress V report) := by
  rw [apiReportExecutionProgress, runReportRun]
  exact .asyncioRun (quiet_reportRun V rfl)

/-- Reading from the API ends no run. -/
theorem quiet_gxApiRequest (config : Config) (correlationId : Text) {request : Request}
    (h : ∀ answer runId, (Exchange.mk request answer).endsRun runId = false) :
    Quiet (gxApiRequest V config correlationId request) := by
  have hsend : Quiet (gxApiSend V correlationId request) := by
    rw [gxApiSend]
    refine .bind (.call _) fun _ => ?_
    refine .bind (quiet_send V h) fun answer => ?_
    cases answer with
    | raised exc => exact .raise exc.val
    | unreachable exc => exact .raise exc.val
    | response statusCode text body => exact .pure _
  have hunavailable : ∀ exc, Quiet (gxApiUnavailable config exc : Act World Answer) := by
    intro exc
    rw [gxApiUnavailable]
    exact .ite (.raise _) (.raise _)
  rw [gxApiRequest]
  exact .bind (.rescue hsend hunavailable) fun answer => .ofExcept _

theorem quiet_apiGetSuiteEnvelope (config : Config) (suiteId : Text) (suiteVersion : ℤ)
    (correlationId : Text) :
    Quiet (apiGetSuiteEnvelope V config suiteId suiteVersion correlationId) := by
  rw [apiGetSuiteEnvelope]
  exact .bind (quiet_gxApiRequest V config correlationId fun _ _ => rfl) fun payload => .ofExcept _

theorem quiet_apiGetDataObjectVersion (config : Config) (versionId correlationId : Text) :
    Quiet (apiGetDataObjectVersion V config versionId correlationId) := by
  rw [apiGetDataObjectVersion]
  exact .bind (quiet_gxApiRequest V config correlationId fun _ _ => rfl) fun payload => .ofExcept _

end Transport

section Process

variable {World Frame : Type} (V : Services World Frame) (config : Config)

theorem quiet_readUriOf (normalizedUri : Text) : Quiet (readUriOf V normalizedUri) := by
  have hlocalize : Quiet (localize V normalizedUri) := by
    rw [localize]
    exact .bind (.call _) fun path _ _ h => h
  rw [readUriOf]
  exact .ite hlocalize (.pure _)

theorem quiet_openSource (location : SourceLocation) : Quiet (openSource V config location) := by
  rw [openSource]
  refine .bind (.ofExcept _) fun _ => ?_
  refine .bind (.ofExcept _) fun _ => ?_
  exact .bind (quiet_readUriOf V _) fun readUri => .pure _

theorem quiet_closeSources : Quiet (closeSources V) := by
  rw [closeSources]
  refine .bind (.ask _) fun _ => ?_
  refine .bind (fun _ _ h => h) fun tempDirs => ?_
  exact .foldlM (fun _ path => .call _) _ _

theorem quiet_reportProgress (ids : Identifiers) (reason : String) (details : Dict)
    (completedSteps totalSteps : ℕ) (label : String) :
    Quiet (reportProgress V ids reason details completedSteps totalSteps label) := by
  rw [reportProgress]
  exact quiet_apiReportExecutionProgress V _

/-- The last report of a path is built and dropped. -/
theorem quiet_close (ids : Identifiers) (closing : Closing) (totalSteps : ℕ) (ok : Bool)
    (diagnostics : List Dict) (resultSummary : Dict) :
    Quiet (close V ids closing totalSteps ok diagnostics resultSummary) := by
  rw [close]
  exact .bind (.ask _) fun completedAt => .pure ()

variable [PyRuntime] [PyNumerals]

theorem quiet_resolveLocationsForTargets (correlationId : Text) (targetIds : List Text)
    (payload : Dict) :
    Quiet (resolveLocationsForTargets V config correlationId targetIds payload) := by
  rw [resolveLocationsForTargets]
  refine .bind (.ofExcept _) fun overridden => .foldlM ?_ _ _
  intro locations targetId
  rw [resolveLocation]
  refine .ite (.pure _) ?_
  refine .bind (quiet_apiGetDataObjectVersion V config targetId correlationId) fun version => ?_
  exact .bind (.ofExcept _) fun location => .pure _

theorem quiet_buildEnrichedResultSummary (expectations : List Dict) (summary : EvaluationSummary)
    (diagnostics : List Dict) :
    Quiet (buildEnrichedResultSummary V expectations summary diagnostics) := by
  rw [buildEnrichedResultSummary]
  exact .bind (.ask _) fun now => .ofExcept _

theorem quiet_processSuite (df : Frame) (targetId normalizedUri : Text)
    (location : SourceLocation) (state : BatchState) (suitePayload : Json) :
    Quiet (processSuite V df targetId normalizedUri location state suitePayload) := by
  rw [processSuite]
  refine .bind (.ofExcept _) fun suite => ?_
  refine .bind (.ofExcept _) ?_
  rintro ⟨expectations, suiteTargets, primaryKeyFields⟩
  refine .bind (.ofExcept _) fun _ => ?_
  refine .bind (.ofExcept _) ?_
  rintro ⟨ok, summary, diagnostics⟩
  refine .bind (.ofExcept _) fun suiteVersion => ?_
  exact .bind (quiet_buildEnrichedResultSummary V _ _ _) fun enriched => .pure _

theorem quiet_processBatch (ids : Identifiers) (locations : List (Text × SourceLocation))
    (batchCount : ℕ) (state : GroupedState) (indexed : Json × ℕ) :
    Quiet (processBatch V config ids locations batchCount state indexed) := by
  rw [processBatch]
  refine .bind (.ofExcept _) fun batch => ?_
  refine .bind (.ofExcept _) fun targetId => ?_
  refine .bind (.ofExcept _) fun suites => ?_
  refine .bind (.ofExcept _) fun location => ?_
  refine .bind (quiet_openSource V config location) ?_
  rintro ⟨normalizedUri, readUri⟩
  refine .bind (.call _) fun df => ?_
  refine .bind (.foldlM (quiet_processSuite V df targetId normalizedUri location) _ _) fun final => ?_
  exact .bind (quiet_reportProgress V ids _ _ _ _ _) fun _ => .pure _

theorem quiet_processGroupedDispatchMessage (ids : Identifiers) (payload : Dict) :
    Quiet (processGroupedDispatchMessage V config ids payload) := by
  rw [processGroupedDispatchMessage]
  refine .bind (.ofExcept _) fun batches => ?_
  refine .bind (.call _) fun _ => ?_
  refine .bind (quiet_reportProgress V ids _ _ _ _ _) fun _ => ?_
  refine .bind (.ofExcept _) fun targetIds => ?_
  refine .bind (quiet_resolveLocationsForTargets V config _ targetIds payload) fun locations => ?_
  refine .bind (quiet_reportProgress V ids _ _ _ _ _) fun _ => ?_
  refine .bind (.call _) fun _ => ?_
  refine .bind (.finally_ (.foldlM (quiet_processBatch V config ids locations _) _ _)
    (quiet_closeSources V)) fun final => ?_
  exact quiet_close V ids _ _ _ _ _

/-- The engine path stops at the coroutine it takes for a response. -/
theorem run_processSparkExpectationsDispatchMessage (ids : Identifiers) (payload : Dict)
    (w : Wire World) :
    (processSparkExpectationsDispatchMessage V ids payload).run w =
      (.error (.builtin "AttributeError" "'coroutine' object has no attribute 'get'"), w) := by
  rw [processSparkExpectationsDispatchMessage]
  exact Effect.run_bind_error rfl

theorem quiet_processSparkExpectationsDispatchMessage (ids : Identifiers) (payload : Dict) :
    Quiet (processSparkExpectationsDispatchMessage V ids payload) := by
  intro start w hw
  rw [run_processSparkExpectationsDispatchMessage]
  exact hw

theorem quiet_processJoinPair (ids : Identifiers) (payload : Dict) (suite : SuiteRun) :
    Quiet (processJoinPair V config ids payload suite) := by
  have hevaluate : ∀ location normalizedUri,
      Quiet (evaluateJoinPair V config ids suite location normalizedUri) := by
    intro location normalizedUri
    rw [evaluateJoinPair]
    refine .bind (quiet_readUriOf V _) fun readUri => ?_
    refine .bind (.call _) fun df => ?_
    refine .bind (.ofExcept _) fun outcome => ?_
    exact .bind (quiet_reportProgress V ids _ _ _ _ _) fun _ => .pure _
  rw [processJoinPair]
  refine .bind (.ofExcept _) fun location => ?_
  refine .bind (quiet_reportProgress V ids _ _ _ _ _) fun _ => ?_
  refine .bind (.call _) fun _ => ?_
  refine .bind (.ofExcept _) fun _ => ?_
  refine .bind (.ofExcept _) fun _ => ?_
  refine .bind (.finally_ (hevaluate location _) (quiet_closeSources V)) ?_
  rintro ⟨ok, summary, diagnostics⟩
  refine .bind (quiet_buildEnrichedResultSummary V _ _ _) fun enriched => ?_
  exact quiet_close V ids _ _ _ _ _

theorem quiet_processTarget (ids : Identifiers) (suite : SuiteRun)
    (locations : List (Text × SourceLocation)) (state : TargetState) (indexed : Text × ℕ) :
    Quiet (processTarget V config ids suite locations state indexed) := by
  rw [processTarget]
  refine .bind (.ofExcept _) fun location => ?_
  refine .bind (quiet_openSource V config location) ?_
  rintro ⟨normalizedUri, readUri⟩
  refine .bind (.call _) fun df => ?_
  refine .bind (.ofExcept _) ?_
  rintro ⟨ok, summary, diagnostics⟩
  refine .bind (quiet_buildEnrichedResultSummary V _ _ _) fun enriched => ?_
  exact .bind (quiet_reportProgress V ids _ _ _ _ _) fun _ => .pure _

theorem quiet_processSingleObject (ids : Identifiers) (payload : Dict) (suite : SuiteRun) :
    Quiet (processSingleObject V config ids payload suite) := by
  rw [processSingleObject]
  refine .bind (quiet_resolveLocationsForTargets V config _ _ payload) fun locations => ?_
  refine .bind (quiet_reportProgress V ids _ _ _ _ _) fun _ => ?_
  refine .bind (.call _) fun _ => ?_
  refine .bind (.finally_ (.foldlM (quiet_processTarget V config ids suite locations) _ _)
    (quiet_closeSources V)) fun final => ?_
  exact quiet_close V ids _ _ _ _ _

theorem quiet_processSuiteDispatch (ids : Identifiers) (executionShape suiteId : Text)
    (suiteVersion : ℤ) (payload : Dict) :
    Quiet (processSuiteDispatch V config ids executionShape suiteId suiteVersion payload) := by
  rw [processSuiteDispatch]
  refine .bind (.call _) fun _ => ?_
  refine .bind (.ask _) fun startedAt => ?_
  refine .bind (.pure ()) fun _ => ?_
  refine .bind (quiet_apiGetSuiteEnvelope V config _ _ _) fun envelope => ?_
  refine .bind (.ofExcept _) ?_
  rintro ⟨expectations, resolved, primaryKeyFields⟩
  refine .bind (.ofExcept _) fun targetIds => ?_
  exact .ite (quiet_processJoinPair V config ids payload _)
    (quiet_processSingleObject V config ids payload _)

theorem quiet_routePayload (payload : Dict) (ids : Identifiers) :
    Quiet (routePayload V config payload ids) := by
  rw [routePayload]
  refine .ite (.ite (.ofExcept _) (quiet_processGroupedDispatchMessage V config ids payload)) ?_
  refine .ite (quiet_processSparkExpectationsDispatchMessage V ids payload) ?_
  exact .ite (.ofExcept _) (quiet_processSuiteDispatch V config ids _ _ _ payload)

/-- A dispatch sends no report that ends a run. -/
theorem quiet_processDispatchMessage (rawMessage : Text) :
    Quiet (processDispatchMessage V config rawMessage) := by
  rw [processDispatchMessage]
  refine .bind (.ofExcept _) fun payload => ?_
  have hcorrelation : Quiet (correlationIdOf V payload) := by
    rw [correlationIdOf]
    exact .ite (.bind (.ask _) fun hex => .pure _) (.pure _)
  exact .bind hcorrelation fun correlationId => quiet_routePayload V config payload _

/-- No dispatch that returns has closed a run: whatever was sent, its last report ends none. -/
theorem dispatch_never_closes (rawMessage : Text) {w w' : Wire World}
    (h : (processDispatchMessage V config rawMessage).run w = (.ok (), w')) :
    ∃ sent, w'.exchanges = w.exchanges ++ sent ∧ ∀ runId, ¬ClosesRun runId sent := by
  have hquiet := quiet_processDispatchMessage V config rawMessage w.exchanges w
    (OnlyRunning.refl w.exchanges)
  rw [h] at hquiet
  exact hquiet.not_closesRun

end Process

section Example

local instance sampleRuntimeDispatch : PyRuntime := .ascii (fun _ => .nan) (fun _ => [])

local instance sampleNumeralsDispatch : PyNumerals := ⟨fun _ => none, fun _ => none, id⟩

def sampleText (key value : String) : Text × Json := entry key (.text value)

/-- The message of a single-object dispatch. -/
def sampleMessage : Text :=
  ("\x7b\"run_id\":\"r1\",\"suite_id\":\"s1\",\"suite_version\":1,\"source_overrides\":" ++
    "\x7b\"v1\":\x7b\"uri\":\"s3://b/p\",\"format\":\"parquet\"\x7d\x7d\x7d").toList

/-- The sample message as `json.loads` reads it. -/
def samplePayload : Dict :=
  [sampleText "run_id" "r1", sampleText "suite_id" "s1", entry "suite_version" (.int 1),
    entry "source_overrides" (.dict [entry "v1"
      (.dict [sampleText "uri" "s3://b/p", sampleText "format" "parquet"])])]

/-- An envelope with one expectation and one target. -/
def sampleEnvelope : Dict :=
  [entry "gx_suite" (.dict [entry "expectations" (.list [.dict
      [sampleText "expectation_type" "expect_column_values_to_not_be_null",
        entry "kwargs" (.dict [sampleText "column" "a"])]])]),
    entry "resolved_execution_scope" (.dict
      [entry "data_object_version_ids" (.list [.text "v1"])])]

def sampleEngineMessage : Text :=
  ("\x7b\"run_id\":\"r1\",\"engine_type\":\"trino\",\"rule_payload\":" ++
    "\x7b\"id\":\"rule\"\x7d\x7d").toList

/-- The engine message as `json.loads` reads it. -/
def sampleEnginePayload : Dict :=
  [sampleText "run_id" "r1", sampleText "engine_type" "trino",
    entry "rule_payload" (.dict [sampleText "id" "rule"])]

/-- Services that are up: the API answers 200, and every source is the sample frame. -/
def sampleServices : Services Unit (List RowValue) where
  json raw := if raw = sampleMessage then .ok (.dict samplePayload)
    else if raw = sampleEngineMessage then .ok (.dict sampleEnginePayload)
    else .error (.builtin "JSONDecodeError" "Expecting value")
  now _ := ("2024-01-01T00:00:00Z", ())
  freshHex _ := ("0123456789ab", ())
  buildTokenProvider _ := (.ok (), ())
  getToken _ _ := (.ok (), ())
  request request _ := match request with
    | .suite _ _ => (.response 200 [] (.dict sampleEnvelope), ())
    | _ => (.response 200 [] .null, ())
  buildKafkaPublisher _ := (.ok false, ())
  publishViolations _ _ := (.ok (), ())
  stopKafkaPublisher _ := (.ok (), ())
  createSparkSession _ _ := (.ok (), ())
  stopSparkSession _ := ()
  download _ _ := (.ok "/tmp/p", ())
  cleanup _ _ := (.ok (), ())
  readDataset _ _ _ := (.ok sampleFrame, ())
  spark := sampleSpark
  executeEngineRulePayload _ _ _ _ _ := (.ok (.dict [entry "ok" (.scalar (.bool true))]), ())

/-- A worker with its storage configured. -/
def sampleConfig : Config :=
  ⟨"http://kong", 0, some "http://s3", some "key", some "secret"⟩

/-- A worker that has sent nothing. -/
def sampleWire : Wire Unit := ⟨(), [], [], false⟩

theorem sample_returns : ∃ w',
    (processDispatchMessage sampleServices sampleConfig sampleMessage).run sampleWire =
      (.ok (), w') := by
  have hok : ((processDispatchMessage sampleServices sampleConfig sampleMessage).run
      sampleWire).1.isOk = true := by decide +kernel
  cases h : (processDispatchMessage sampleServices sampleConfig sampleMessage).run sampleWire with
  | mk outcome w' =>
    rw [h] at hok
    cases outcome with
    | ok _ => exact ⟨w', rfl⟩
    | error e => cases hok

theorem sample_known : ((processDispatchMessage sampleServices sampleConfig sampleMessage).run
    sampleWire).2.exchanges.all Exchange.accepted = true := by decide +kernel

/-- The sample dispatch returns, and none of its requests ends a run or finds a run unknown. -/
theorem sample_unsettled : ∃ w',
    (processDispatchMessage sampleServices sampleConfig sampleMessage).run sampleWire =
      (.ok (), w') ∧
    ∀ e ∈ w'.exchanges, ∀ runId, e.endsRun runId = false ∧ e.unknownRun runId = false := by
  obtain ⟨w', h⟩ := sample_returns
  have hquiet := quiet_processDispatchMessage sampleServices sampleConfig sampleMessage []
    sampleWire (OnlyRunning.refl [])
  have hknown := sample_known
  rw [h] at hquiet hknown
  obtain ⟨sent, hsent, hends⟩ := hquiet
  refine ⟨w', h, ?_⟩
  intro e he runId
  have hmem : e ∈ sent := by
    rw [← List.nil_append sent, ← hsent]
    exact he
  exact ⟨hends e hmem runId,
    Exchange.unknownRun_of_accepted (List.all_eq_true.mp hknown e he) runId⟩

theorem dispatch_never_closes_sample : ∃ w' sent,
    (processDispatchMessage sampleServices sampleConfig sampleMessage).run sampleWire =
      (.ok (), w') ∧
    w'.exchanges = sampleWire.exchanges ++ sent ∧ ∀ runId, ¬ClosesRun runId sent := by
  obtain ⟨w', h⟩ := sample_returns
  obtain ⟨sent, hsent, hopen⟩ := dispatch_never_closes sampleServices sampleConfig sampleMessage h
  exact ⟨w', sent, h, hsent, hopen⟩

/-- A dispatch that returned with its run still open. -/
theorem dispatch_closes_counterexample :
    ¬∀ rawMessage (w w' : Wire Unit),
      (processDispatchMessage sampleServices sampleConfig rawMessage).run w = (.ok (), w') →
        ∃ runId sent, w'.exchanges = w.exchanges ++ sent ∧ ClosesRun runId sent := by
  intro hcloses
  obtain ⟨w', h⟩ := sample_returns
  obtain ⟨runId, sent, hsent, hclosed⟩ := hcloses sampleMessage sampleWire w' h
  have hquiet := quiet_processDispatchMessage sampleServices sampleConfig sampleMessage []
    sampleWire (OnlyRunning.refl [])
  rw [h] at hquiet
  obtain ⟨sent', hsent', hopen⟩ := hquiet.not_closesRun
  rw [hsent] at hsent'
  rw [List.append_cancel_left hsent'] at hclosed
  exact hopen runId hclosed

end Example

end Dispatch

end DqMadeEasy
