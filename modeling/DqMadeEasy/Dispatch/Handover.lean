import DqMadeEasy.Dispatch.JoinPair

/-!
# The hand-over of the join-pair worker

Any number of workers take jobs from the queue to the processing list and work on them, interleaved
at their calls. A call is served, fails, or fails after it took effect, and a worker may stop at any
point. The flag of the pre-filter is asked for with an argument too many, so no job gets as far as
its dispatch. What a worker knows at each of its calls is an outline of its program: as long as the
failures of its calls are tolerable, it removes its job only when the job is settled.
-/

namespace DqMadeEasy

namespace Dispatch

namespace JoinPair

open Worker

/-! ### The system -/

/-- How a call goes: it is served, it has no effect, or it fails after it took effect. -/
inductive Fate (α : Type) where
  | served (a : α)
  | refused (exc : PyError)
  | interrupted (exc : PyError)

namespace Fate

variable {α : Type}

def answer : Fate α → Except PyError α
  | .served a => .ok a
  | .refused exc => .error exc
  | .interrupted exc => .error exc

/-- The call took effect. -/
def effective : Fate α → Bool
  | .served _ => true
  | .refused _ => false
  | .interrupted _ => true

end Fate

/-- Where a worker process is. -/
inductive Phase (Frame : Type) where
  | down
  | idle
  | busy (rawJob : Text) (rest : Work Frame Unit)

/-- The calls that took effect, each with the job it was made for, in order. -/
abbrev Ledger (Frame : Type) := List (Text × Call Frame)

/-- The two lists of the store, the workers, and a record of what happened. -/
structure System (Id Frame : Type) where
  queue : List Text
  inProcess : List Text
  phase : Id → Phase Frame
  ledger : Ledger Frame
  /-- The jobs that were removed from the processing list. -/
  removed : List Text

/-- The labels of the steps. -/
inductive Event (Id Frame : Type) where
  | push (rawJob : Text)
  | start (worker : Id)
  | take (worker : Id) (rawJob : Text)
  | takeLost (worker : Id) (rawJob : Text)
  | call (worker : Id) (call : Call Frame) (fate : Fate (call.Answer Frame))
  | finish (worker : Id)
  | crash (worker : Id)

section Steps

variable {Id Frame : Type}

def recorded (rawJob : Text) (ledger : Ledger Frame) (call : Call Frame) (effective : Bool) :
    Ledger Frame :=
  if effective then ledger ++ [(rawJob, call)] else ledger

/-- The effect of a call on the two lists. -/
def System.carryOut (s : System Id Frame) : Call Frame → System Id Frame
  | .lrem rawJob =>
    { s with inProcess := s.inProcess.erase rawJob, removed := s.removed ++ [rawJob] }
  | _ => s

def System.afterCall (s : System Id Frame) (rawJob : Text) (call : Call Frame) (effective : Bool) :
    System Id Frame :=
  { if effective then s.carryOut call else s with
    ledger := recorded rawJob s.ledger call effective }

def System.setPhase [DecidableEq Id] (s : System Id Frame) (worker : Id) (phase : Phase Frame) :
    System Id Frame :=
  { s with phase := Function.update s.phase worker phase }

variable [DecidableEq Id] (env : Environment Frame) [PyRuntime] [PyNumerals]

/-- The steps of the system. -/
inductive Step : System Id Frame → Event Id Frame → System Id Frame → Prop
  | push (s : System Id Frame) (rawJob : Text) :
    Step s (.push rawJob) { s with queue := rawJob :: s.queue }
  | start {s : System Id Frame} {worker : Id} (h : s.phase worker = .down) :
    Step s (.start worker) (s.setPhase worker .idle)
  -- `brpoplpush` of a job
  | take {s : System Id Frame} {worker : Id} {rawJob : Text} {rest : List Text}
      (h : s.phase worker = .idle) (hqueue : s.queue = rest ++ [rawJob]) (hjob : rawJob ≠ []) :
    Step s (.take worker rawJob)
      ({ s with queue := rest, inProcess := rawJob :: s.inProcess }.setPhase worker
        (.busy rawJob (handleJob env rawJob)))
  -- an empty job is moved, and `continue`
  | skip {s : System Id Frame} {worker : Id} {rest : List Text} (h : s.phase worker = .idle)
      (hqueue : s.queue = rest ++ [[]]) :
    Step s (.take worker []) { s with queue := rest, inProcess := [] :: s.inProcess }
  -- `brpoplpush` moves a job and raises
  | takeLost {s : System Id Frame} {worker : Id} {rawJob : Text} {rest : List Text}
      (h : s.phase worker = .idle) (hqueue : s.queue = rest ++ [rawJob]) :
    Step s (.takeLost worker rawJob)
      ({ s with queue := rest, inProcess := rawJob :: s.inProcess }.setPhase worker .down)
  | call {s : System Id Frame} {worker : Id} {rawJob : Text} {call : Call Frame}
      {next : Except PyError (call.Answer Frame) → Work Frame Unit}
      (fate : Fate (call.Answer Frame)) (h : s.phase worker = .busy rawJob (.call call next)) :
    Step s (.call worker call fate)
      ((s.afterCall rawJob call fate.effective).setPhase worker (.busy rawJob (next fate.answer)))
  | done {s : System Id Frame} {worker : Id} {rawJob : Text}
      (h : s.phase worker = .busy rawJob (.done ())) :
    Step s (.finish worker) (s.setPhase worker .idle)
  | died {s : System Id Frame} {worker : Id} {rawJob : Text} {exc : PyError}
      (h : s.phase worker = .busy rawJob (.raise exc)) :
    Step s (.finish worker) (s.setPhase worker .down)
  | crash (s : System Id Frame) (worker : Id) : Step s (.crash worker) (s.setPhase worker .down)

end Steps

/-- Nothing is queued and no worker is up. -/
def System.initial {Id Frame : Type} : System Id Frame := ⟨[], [], fun _ => .down, [], []⟩

/-! ### The law -/

section Law

variable {Frame : Type} (env : Environment Frame) [PyRuntime] [PyNumerals]

def runOf (rawJob : Text) : Text :=
  match parseDispatchPayload env.json rawJob with
  | .ok payload => (identifiersOf payload).runId
  | .error _ => []

omit [PyRuntime] [PyNumerals] in
/-- The follow-up dispatch of the job was enqueued. -/
def Dispatched (ledger : Ledger Frame) (rawJob : Text) : Prop :=
  ∃ queueKey message, (rawJob, .lpush queueKey message) ∈ ledger

/-- A follow-up dispatch of the run was enqueued. -/
def DispatchedRun (ledger : Ledger Frame) (runId : Text) : Prop :=
  ∃ rawJob, runOf env rawJob = runId ∧ Dispatched ledger rawJob

omit [PyRuntime] [PyNumerals] in
def ReportedFailed (ledger : Ledger Frame) (runId : Text) : Prop :=
  ∃ rawJob report, (rawJob, .reportRun report) ∈ ledger ∧ report.newStatus = .failed ∧
    report.runId = runId

def Settled (ledger : Ledger Frame) (rawJob : Text) : Prop :=
  Dispatched ledger rawJob ∨ ReportedFailed ledger (runOf env rawJob)

/-- The claim's law: what was removed was settled, and no run was reported failed and dispatched. -/
structure HandedOver {Id : Type} (s : System Id Frame) : Prop where
  settled : ∀ rawJob ∈ s.removed, Settled env s.ledger rawJob
  exclusive : ∀ runId, ReportedFailed s.ledger runId → ¬DispatchedRun env s.ledger runId

omit [PyRuntime] [PyNumerals] in
/-- The failures that do not break the law: the calls of the materialization raise nothing but an
`Exception`, and the failure report reaches the API. -/
def Tolerable (call : Call Frame) (fate : Fate (call.Answer Frame)) : Prop :=
  ∀ exc, fate.answer = .error exc →
    match call with
    | .lrem _ | .lpush .. => True
    | .now => False
    | .reportRun _ => fate.effective = true
    | _ => exc.severity = .exception

def Careful {Id : Type} : System Id Frame → Event Id Frame → Prop
  | _, .take _ rawJob => rawJob ≠ [] → runOf env rawJob ≠ []
  | _, .call _ call fate => Tolerable call fate
  | _, .push _ | _, .start _ | _, .takeLost .. | _, .finish _ | _, .crash _ => True

end Law

/-! ### What a worker knows of its run -/

section Knowledge

variable {Frame : Type} (env : Environment Frame) (rawJob : Text) [PyRuntime] [PyNumerals]

omit [PyRuntime] [PyNumerals] in
def Serves (call : Call Frame) (ledger : Ledger Frame)
    (answer : Except PyError (call.Answer Frame)) (ledger' : Ledger Frame) : Prop :=
  ∃ fate : Fate (call.Answer Frame), fate.answer = answer ∧ Tolerable call fate ∧
    ledger' = recorded rawJob ledger call fate.effective

omit [PyRuntime] [PyNumerals] in
def Interferes (ledger ledger' : Ledger Frame) : Prop := ∃ others, ledger' = ledger ++ others

/-- What a call needs for the law. No call is to enqueue a dispatch. -/
def MayCall (ledger : Ledger Frame) : Call Frame → Prop
  | .lpush .. => False
  | .lrem job => job = rawJob ∧ Settled env ledger rawJob
  | _ => True

/-- The outlines of the parts of the worker's program. -/
abbrev Achieves {α : Type} (work : Work Frame α) (K : Ledger Frame → Prop)
    (Q : α → Ledger Frame → Prop) (E : PyError → Ledger Frame → Prop) : Prop :=
  work.Outcome (Serves rawJob) Interferes (MayCall env rawJob) K Q E

/-- A worker at a point of the outline of its program. -/
abbrev Justified (rest : Work Frame Unit) (ledger : Ledger Frame) : Prop :=
  rest.Follows (Serves rawJob) Interferes (MayCall env rawJob) ledger

variable {env rawJob} {ledger ledger' : Ledger Frame}

omit [PyRuntime] [PyNumerals] in
theorem Dispatched.append (h : Dispatched ledger rawJob) (more : Ledger Frame) :
    Dispatched (ledger ++ more) rawJob := by
  obtain ⟨queueKey, message, hmem⟩ := h
  exact ⟨queueKey, message, List.mem_append_left _ hmem⟩

omit [PyRuntime] [PyNumerals] in
theorem ReportedFailed.append {runId : Text} (h : ReportedFailed ledger runId)
    (more : Ledger Frame) : ReportedFailed (ledger ++ more) runId := by
  obtain ⟨job, report, hmem, hreport⟩ := h
  exact ⟨job, report, List.mem_append_left _ hmem, hreport⟩

theorem Settled.append (h : Settled env ledger rawJob) (more : Ledger Frame) :
    Settled env (ledger ++ more) rawJob :=
  h.imp (fun h => h.append more) fun h => h.append more

theorem stable_settled :
    Program.Stable Interferes fun ledger => Settled env ledger rawJob := by
  rintro ledger ledger' hsettled ⟨others, rfl⟩
  exact hsettled.append others

end Knowledge

/-! ### The outline of the program -/

def Call.prepares {Frame : Type} : Call Frame → Bool
  | .lpush .. | .now | .reportRun _ | .lrem _ => false
  | _ => true

section Outlines

variable {Frame : Type} {env : Environment Frame} {rawJob : Text} [PyRuntime] [PyNumerals]
variable {ledger ledger' : Ledger Frame}

omit [PyRuntime] [PyNumerals] in
/-- A preparing call raises nothing but an `Exception`. -/
theorem severity_of_tolerable {call : Call Frame} (hcall : call.prepares = true)
    {fate : Fate (call.Answer Frame)} (h : Tolerable call fate) {exc : PyError}
    (hexc : fate.answer = .error exc) : exc.severity = .exception := by
  have hfate := h exc hexc
  cases call with
  | lpush | now | reportRun | lrem => cases hcall
  | _ => exact hfate

/-- The kind of programs that prepare the dispatch. -/
abbrev Prepares {α : Type} (work : Work Frame α) : Prop :=
  work.Within (fun call => call.prepares = true) fun exc => exc.severity = .exception

omit [PyRuntime] [PyNumerals] in
theorem prepares_make {call : Call Frame} (h : call.prepares = true) : Prepares (make call) :=
  Program.Within.perform h

/-! ### The worker's own errors -/

omit [PyRuntime] [PyNumerals] in
/-- A computation of the worker raises nothing but `Exception`s. -/
def Ordinary {α : Type} (x : Except PyError α) : Prop :=
  ∀ exc, x = .error exc → exc.severity = .exception

omit [PyRuntime] [PyNumerals] in
theorem Ordinary.ok {α : Type} (a : α) : Ordinary (.ok a : Except PyError α) := by
  intro exc h
  cases h

omit [PyRuntime] [PyNumerals] in
theorem ordinary_executionError {α : Type} (message : Text) (failureCode : String) :
    Ordinary (executionError message failureCode : Except PyError α) := by
  intro exc h
  cases h
  rfl

theorem ordinary_requireMapping (sourceMaterialization : Dict) :
    Ordinary (requireMapping sourceMaterialization) := by
  rw [requireMapping]
  dsimp only
  split
  · exact .ok _
  · split
    · exact ordinary_executionError _ _
    · exact .ok _

omit [PyNumerals] in
theorem ordinary_resolveJoinType (joinType : Text) : Ordinary (resolveJoinType joinType) := by
  rw [resolveJoinType]
  split
  · exact .ok _
  · exact ordinary_executionError _ _

omit [PyRuntime] [PyNumerals] in
theorem ordinary_parseS3aUri (uri : Text) : Ordinary (parseS3aUri uri) := by
  rw [parseS3aUri]
  dsimp only
  split
  · exact ordinary_executionError _ _
  · split
    · exact ordinary_executionError _ _
    · exact .ok _

theorem ordinary_readJob (payload : Dict) : Ordinary (readJob payload) := by
  rw [readJob]
  dsimp only
  repeat' split
  all_goals first | exact .ok _ | exact ordinary_executionError _ _

theorem ordinary_coerceSourceLocation (version : Dict) (versionId : Text) :
    Ordinary (coerceSourceLocation version versionId) := by
  rw [coerceSourceLocation]
  repeat' split
  all_goals first | exact .ok _ | exact ordinary_executionError _ _

omit [PyRuntime] [PyNumerals] in
theorem ordinary_inferMaterializedSourceLocation (outputLocation : Text) :
    Ordinary (inferMaterializedSourceLocation outputLocation) := by
  rw [inferMaterializedSourceLocation]
  repeat' split
  all_goals first | exact .ok _ | exact ordinary_executionError _ _

omit [PyRuntime] [PyNumerals] in
theorem ordinary_assertSupportedUri (uri : Text) : Ordinary (assertSupportedUri uri) := by
  rw [assertSupportedUri]
  split
  · exact .ok _
  · exact ordinary_executionError _ _

omit [PyRuntime] [PyNumerals] in
theorem ordinary_requireS3ConfigForLocation (config : Config) (uri : Text) :
    Ordinary (requireS3ConfigForLocation config uri) := by
  intro exc h
  rw [requireS3ConfigForLocation] at h
  dsimp only at h
  split at h
  · cases h
  split at h
  · cases h
    rfl
  split at h
  · cases h
    rfl
  · cases h

omit [PyRuntime] [PyNumerals] in
theorem ordinary_parseDispatchPayload (json : Text → Except PyError Json) (rawJob : Text) :
    Ordinary (parseDispatchPayload json rawJob) := by
  intro exc h
  rw [parseDispatchPayload] at h
  split at h
  · cases h
    rfl
  · cases h
  · cases h
    rfl

/-! ### Up to the dispatch -/

variable (env : Environment Frame)

omit [PyRuntime] [PyNumerals] in
theorem prepares_exceptException {α : Type} {handler : PyError → Work Frame α} {work : Work Frame α}
    (h : Prepares work) (hhandler : ∀ exc, Prepares (handler exc)) :
    Prepares (exceptException handler work) := by
  apply Program.Within.rescue h
  intro exc hexc
  rw [if_pos hexc]
  exact hhandler exc

omit [PyRuntime] [PyNumerals] in
theorem prepares_progress (ids : Identifiers) (reason label : String) (details : Dict)
    (completedSteps : ℕ) :
    Prepares (progress ids reason label details completedSteps : Work Frame Unit) :=
  prepares_make rfl

theorem prepares_sourceLocation (ids : Identifiers) (versionId : Text) :
    Prepares (sourceLocation ids versionId : Work Frame SourceLocation) := by
  apply Program.Within.bind (prepares_make rfl)
  intro version
  apply Program.Within.bind
  · exact Program.Within.ofExcept (ordinary_coerceSourceLocation _ _)
  · exact fun _ => trivial

omit [PyNumerals] in
theorem ordinary_actualityPreFilterEnabled : Ordinary (actualityPreFilterEnabled env) := by
  intro exc h
  cases h
  rfl

theorem prepares_applyActualityDatePreFilter (left right : Frame) (sourceMaterialization : Dict) :
    Prepares (applyActualityDatePreFilter env left right sourceMaterialization) := by
  apply Program.Within.bind (Program.Within.ofExcept (ordinary_actualityPreFilterEnabled env))
  intro enabled
  dsimp only
  split
  · trivial
  split
  · trivial
  split
  · trivial
  split
  · exact prepares_exceptException (prepares_make rfl) fun _ => trivial
  · trivial

theorem prepares_buildJoinedDataframe (leftLocation rightLocation : SourceLocation)
    (sourceMaterialization : Dict) :
    Prepares (buildJoinedDataframe env leftLocation rightLocation sourceMaterialization) := by
  apply Program.Within.bind (Program.Within.ofExcept (ordinary_requireMapping _))
  intro joinKeyPairs
  apply Program.Within.bind (Program.Within.ofExcept (ordinary_resolveJoinType _))
  intro joinType
  apply Program.Within.bind (prepares_make rfl)
  intro left
  apply Program.Within.bind (prepares_make rfl)
  intro raw
  apply Program.Within.bind (prepares_applyActualityDatePreFilter env left raw _)
  intro right
  split
  · exact prepares_make rfl
  · exact Program.Within.ofExcept (ordinary_executionError _ _)

omit [PyRuntime] [PyNumerals] in
theorem prepares_writeFrame (df : Frame) (format bucket keyPrefix uri : Text) :
    Prepares (writeFrame df format bucket keyPrefix uri) := by
  rw [writeFrame]
  split
  · exact prepares_make rfl
  · split
    · exact prepares_make rfl
    · exact Program.Within.ofExcept (ordinary_executionError _ _)

omit [PyRuntime] [PyNumerals] in
theorem prepares_writeJoinedDataframe (df : Frame) (outputLocation : Text) :
    Prepares (writeJoinedDataframe env df outputLocation) := by
  apply Program.Within.bind
    (Program.Within.ofExcept (ordinary_inferMaterializedSourceLocation _))
  intro location
  apply Program.Within.bind (Program.Within.ofExcept (ordinary_assertSupportedUri _))
  intro _
  apply Program.Within.bind (Program.Within.ofExcept (ordinary_requireS3ConfigForLocation _ _))
  intro _
  apply Program.Within.bind (Program.Within.ofExcept (ordinary_parseS3aUri _))
  intro target
  apply Program.Within.bind (prepares_make rfl)
  intro _
  apply Program.Within.bind (prepares_writeFrame ..)
  intro _
  apply Program.Within.bind (prepares_make rfl)
  exact fun _ => trivial

theorem prepares_materialize (payload : Dict) : Prepares (materialize env payload) := by
  apply Program.Within.bind (Program.Within.ofExcept (ordinary_readJob _))
  intro job
  apply Program.Within.bind (prepares_progress ..)
  intro _
  apply Program.Within.bind (prepares_sourceLocation _ _)
  intro leftLocation
  apply Program.Within.bind (prepares_sourceLocation _ _)
  intro rightLocation
  apply Program.Within.bind
    (Program.Within.ofExcept (ordinary_inferMaterializedSourceLocation _))
  intro targetLocation
  apply Program.Within.bind (prepares_make rfl)
  intro _
  have hjoin : Prepares (materializeJoin env (identifiersOf payload) job leftLocation rightLocation
      (job.sourceMaterialization.get "output_location").strippedText) := by
    apply Program.Within.bind (prepares_progress ..)
    intro _
    apply Program.Within.bind (prepares_buildJoinedDataframe env _ _ _)
    exact fun joined => prepares_writeJoinedDataframe env joined _
  apply Program.Within.bind (hjoin.ensure (prepares_make rfl))
  exact fun _ => trivial

/-! ### No join is built -/

/-- The flag of the pre-filter raises, so no join is returned, whatever Spark answers. -/
theorem returns_buildJoinedDataframe (leftLocation rightLocation : SourceLocation)
    (sourceMaterialization : Dict) :
    (buildJoinedDataframe env leftLocation rightLocation sourceMaterialization).Returns
      fun _ => False := by
  apply (Program.Returns.true _).bind
  intro joinKeyPairs _
  apply (Program.Returns.true _).bind
  intro joinType _
  apply (Program.Returns.true _).bind
  intro left _
  apply (Program.Returns.true _).bind
  intro raw _
  have hfilter : (applyActualityDatePreFilter env left raw sourceMaterialization).Returns
      fun _ => False := trivial
  exact hfilter.bind fun _ hright => hright.elim

theorem returns_materialize (payload : Dict) :
    (materialize env payload).Returns fun _ => False := by
  apply (Program.Returns.true _).bind
  intro job _
  apply (Program.Returns.true _).bind
  intro _ _
  apply (Program.Returns.true _).bind
  intro leftLocation _
  apply (Program.Returns.true _).bind
  intro rightLocation _
  apply (Program.Returns.true _).bind
  intro targetLocation _
  apply (Program.Returns.true _).bind
  intro _ _
  have hjoin : (materializeJoin env (identifiersOf payload) job leftLocation rightLocation
      (job.sourceMaterialization.get "output_location").strippedText).Returns
        fun _ => False := by
    apply (Program.Returns.true _).bind
    intro _ _
    exact (returns_buildJoinedDataframe env _ _ _).bind fun _ hjoined => hjoined.elim
  exact hjoin.ensure.bind fun _ hwritten => hwritten.elim

theorem prepares_processJob : Prepares (processJob env rawJob) := by
  apply Program.Within.bind
    (Program.Within.ofExcept (ordinary_parseDispatchPayload env.json rawJob))
  intro payload
  exact (prepares_materialize env payload).bind_returns (returns_materialize env payload)
    fun _ hwritten => hwritten.elim

theorem returns_processJob : (processJob env rawJob).Returns fun _ => False := by
  apply (Program.Returns.true _).bind
  intro payload _
  exact (returns_materialize env payload).bind fun _ hwritten => hwritten.elim

variable {env}

/-- A job always ends with an `Exception`. -/
theorem achieves_processJob :
    Achieves env rawJob (processJob env rawJob) (fun _ => True) (fun _ _ => False)
      fun exc _ => exc.severity = .exception := by
  have hmay : ∀ (call : Call Frame) ledger, call.prepares = true → True →
      MayCall env rawJob ledger call := by
    intro call ledger hcall _
    cases call with
    | lpush | now | reportRun | lrem => cases hcall
    | _ => trivial
  have hprepares : Prepares (processJob env rawJob) := prepares_processJob env
  have hstable : Program.Stable Interferes fun _ : Ledger Frame => True := fun _ _ h _ => h
  have houtcome : Achieves env rawJob (processJob env rawJob) (fun _ => True) (fun _ _ => True)
      fun exc _ => True ∧ exc.severity = .exception :=
    hprepares.outcome hstable hmay
      fun call ledger answer ledger' hcall _ ⟨fate, hanswer, htolerable, _⟩ =>
        ⟨trivial, fun exc hexc => severity_of_tolerable hcall htolerable (hanswer.trans hexc)⟩
  exact (houtcome.returning (returns_processJob env)).mono (fun _ _ h => h.2) fun _ _ h => h.2

/-! ### Failures -/

/-- A failure is reported. -/
theorem achieves_reportFailure {ids : Identifiers} (hrun : ids.runId = runOf env rawJob)
    (exc : PyError) :
    Achieves env rawJob (reportFailure ids exc) (fun _ => True)
      (fun _ ledger => Settled env ledger rawJob) fun _ ledger => Settled env ledger rawJob := by
  have hfailed : ∀ (ledger : Ledger Frame) completedAt, Settled env
      (ledger ++ [(rawJob, .reportRun (failureReport ids exc completedAt))]) rawJob :=
    fun ledger completedAt => .inr ⟨rawJob, failureReport ids exc completedAt,
      List.mem_append_right _ List.mem_cons_self, rfl, hrun⟩
  apply Program.Outcome.bind (M := fun _ _ => True)
  · apply Program.Outcome.perform
    · exact fun _ _ => trivial
    · exact fun _ _ _ _ _ => trivial
    · exact fun _ => stable_settled
    · exact fun _ _ _ _ _ => trivial
    · rintro ledger other ledger' _ ⟨fate, hanswer, htolerable, rfl⟩
      exact (htolerable other hanswer).elim
  · intro completedAt
    apply Program.Outcome.perform
    · exact fun _ _ => trivial
    · exact fun _ => stable_settled
    · exact fun _ => stable_settled
    · rintro ledger a ledger' _ ⟨fate, hanswer, _, rfl⟩
      cases fate with
      | served => exact hfailed ledger completedAt
      | refused other | interrupted other => cases hanswer
    · rintro ledger other ledger' _ ⟨fate, hanswer, htolerable, rfl⟩
      have heffective : fate.effective = true := htolerable other hanswer
      rw [heffective]
      exact hfailed ledger completedAt

theorem achieves_handleFailure (hrun : runOf env rawJob ≠ []) (exc : PyError) :
    Achieves env rawJob (handleFailure env rawJob exc) (fun _ => True)
      (fun _ ledger => Settled env ledger rawJob) fun _ ledger => Settled env ledger rawJob := by
  rw [handleFailure]
  cases hparse : parseDispatchPayload env.json rawJob with
  | error error =>
    rw [runOf, hparse] at hrun
    exact absurd rfl hrun
  | ok payload =>
    have hids : runOf env rawJob = (identifiersOf payload).runId := by rw [runOf, hparse]
    dsimp only
    rw [if_neg (hids ▸ hrun)]
    apply Program.Outcome.rescue (achieves_reportFailure hids.symm exc)
    intro other
    split
    · exact Program.Outcome.done fun _ h => h
    · exact Program.Outcome.raise fun _ h => h

theorem achieves_handled (hrun : runOf env rawJob ≠ []) :
    Achieves env rawJob
      (exceptException (handleFailure env rawJob) (processJob env rawJob)) (fun _ => True)
      (fun _ ledger => Settled env ledger rawJob) fun _ ledger => Settled env ledger rawJob := by
  apply Program.Outcome.rescue (N := fun exc _ => exc.severity = .exception)
  · exact achieves_processJob.mono (fun _ _ h => h.elim) fun _ _ h => h
  intro exc
  by_cases hexc : exc.severity = .exception
  · rw [if_pos hexc]
    exact (achieves_handleFailure hrun exc).weaken fun _ _ => trivial
  · rw [if_neg hexc]
    exact Program.Outcome.raise fun _ h => absurd h hexc

theorem achieves_acknowledge :
    Achieves env rawJob (acknowledge rawJob) (fun ledger => Settled env ledger rawJob)
      (fun _ ledger => Settled env ledger rawJob) fun _ ledger => Settled env ledger rawJob := by
  have hrecorded : ∀ (ledger : Ledger Frame) (call : Call Frame) effective,
      Settled env ledger rawJob → Settled env (recorded rawJob ledger call effective) rawJob := by
    intro ledger call effective h
    cases effective with
    | false => exact h
    | true => exact h.append _
  apply Program.Outcome.rescue (N := fun _ ledger => Settled env ledger rawJob)
  · apply Program.Outcome.perform
    · exact fun _ h => ⟨rfl, h⟩
    · exact fun _ => stable_settled
    · exact fun _ => stable_settled
    · rintro ledger a ledger' h ⟨fate, _, _, rfl⟩
      exact hrecorded _ _ _ h
    · rintro ledger exc ledger' h ⟨fate, _, _, rfl⟩
      exact hrecorded _ _ _ h
  · intro exc
    split
    · exact Program.Outcome.done fun _ h => h
    · exact Program.Outcome.raise fun _ h => h

theorem achieves_handleJob (hrun : runOf env rawJob ≠ []) :
    Achieves env rawJob (handleJob env rawJob) (fun _ => True)
      (fun _ ledger => Settled env ledger rawJob) fun _ ledger => Settled env ledger rawJob :=
  (achieves_handled hrun).ensure (fun _ => achieves_acknowledge) fun _ => achieves_acknowledge

theorem justified_handleJob (hrun : runOf env rawJob ≠ []) :
    Justified env rawJob (handleJob env rawJob) ledger :=
  ⟨fun _ => True, fun _ _ h _ => h, trivial,
    ((achieves_handleJob hrun).mono (fun _ _ _ => trivial) fun _ _ h => h).outline⟩

end Outlines

end JoinPair

end Dispatch

end DqMadeEasy
