import DqMadeEasy.Dispatch.Handover
import DqMadeEasy.Logic.Transition

/-!
# Runs of the join-pair workers

In a run whose steps are careful every worker follows the outline of its program, and the calls of
the others only add to what it knows. A job leaves the processing list after its failure report, and
no run is dispatched.
-/

namespace DqMadeEasy

namespace Dispatch

namespace JoinPair

open Transition Worker

section Runs

variable {Id Frame : Type} [DecidableEq Id] (env : Environment Frame) [PyRuntime] [PyNumerals]

/-- The invariant of the runs whose steps are careful. -/
structure Sound (s : System Id Frame) : Prop where
  settled : ∀ rawJob ∈ s.removed, Settled env s.ledger rawJob
  /-- No dispatch was enqueued. -/
  notDispatched : ∀ rawJob, ¬Dispatched s.ledger rawJob
  /-- Every worker follows the outline of its program. -/
  justified : ∀ worker rawJob rest, s.phase worker = .busy rawJob rest →
    Justified env rawJob rest s.ledger

variable {env} {s : System Id Frame}

omit [DecidableEq Id] in
theorem sound_initial : Sound env (.initial : System Id Frame) where
  settled := fun _ h => absurd h List.not_mem_nil
  notDispatched := fun _ ⟨_, _, h⟩ => absurd h List.not_mem_nil
  justified := by
    intro worker rawJob rest h
    cases h

omit [DecidableEq Id] in
/-- The law holds where the invariant does. -/
theorem Sound.handedOver (h : Sound env s) : HandedOver env s where
  settled := h.settled
  exclusive := fun _ _ ⟨rawJob, _, hdispatched⟩ => h.notDispatched rawJob hdispatched

theorem Sound.rest (h : Sound env s) (queue inProcess : List Text) {worker : Id}
    {phase : Phase Frame}
    (hphase : ∀ rawJob rest, phase = .busy rawJob rest → Justified env rawJob rest s.ledger) :
    Sound env ({ s with queue, inProcess }.setPhase worker phase) where
  settled := h.settled
  notDispatched := h.notDispatched
  justified := by
    intro other rawJob rest hother
    have hupdated : Function.update s.phase worker phase other = .busy rawJob rest := hother
    by_cases hsame : other = worker
    · rw [hsame, Function.update_self] at hupdated
      exact hphase rawJob rest hupdated
    · rw [Function.update_of_ne hsame] at hupdated
      exact h.justified other rawJob rest hupdated

omit [DecidableEq Id] [PyRuntime] [PyNumerals] in
theorem exists_recorded (rawJob : Text) (ledger : Ledger Frame) (call : Call Frame)
    (effective : Bool) : ∃ more, recorded rawJob ledger call effective = ledger ++ more := by
  cases effective with
  | false => exact ⟨[], (List.append_nil _).symm⟩
  | true => exact ⟨[(rawJob, call)], rfl⟩

/-- A call of a worker whose failures are tolerable. -/
theorem Sound.call (h : Sound env s) {worker : Id} {rawJob : Text} {call : Call Frame}
    {next : Except PyError (call.Answer Frame) → Work Frame Unit}
    (hphase : s.phase worker = .busy rawJob (.call call next)) {fate : Fate (call.Answer Frame)}
    (htolerable : Tolerable call fate) :
    Sound env ((s.afterCall rawJob call fate.effective).setPhase worker
      (.busy rawJob (next fate.answer))) := by
  have hjustified := h.justified _ _ _ hphase
  have hmay := hjustified.permitted
  obtain ⟨more, hmore⟩ := exists_recorded rawJob s.ledger call fate.effective
  have hphases : (s.afterCall rawJob call fate.effective).phase = s.phase := by
    cases fate.effective <;> cases call <;> rfl
  have hremoved : ∀ job ∈ (s.afterCall rawJob call fate.effective).removed,
      Settled env s.ledger job := by
    intro job hjob
    cases heffective : fate.effective with
    | false =>
      rw [heffective] at hjob
      exact h.settled job hjob
    | true =>
      rw [heffective] at hjob
      cases call with
      | lrem removed =>
        rcases List.mem_append.mp hjob with hjob | hjob
        · exact h.settled job hjob
        · rw [List.mem_singleton.mp hjob, hmay.1]
          exact hmay.2
      | _ => exact h.settled job hjob
  constructor
  · intro job hjob
    show Settled env (recorded rawJob s.ledger call fate.effective) job
    rw [hmore]
    exact (hremoved job hjob).append more
  · rintro job ⟨queueKey, message, hmem⟩
    have hmem : (job, .lpush queueKey message) ∈ recorded rawJob s.ledger call fate.effective :=
      hmem
    cases heffective : fate.effective with
    | false =>
      rw [heffective] at hmem
      exact h.notDispatched job ⟨queueKey, message, hmem⟩
    | true =>
      rw [heffective] at hmem
      rcases List.mem_append.mp hmem with hmem | hmem
      · exact h.notDispatched job ⟨queueKey, message, hmem⟩
      · cases List.mem_singleton.mp hmem
        exact hmay
  · intro other job rest hother
    have hupdated : Function.update (s.afterCall rawJob call fate.effective).phase worker
        (.busy rawJob (next fate.answer)) other = .busy job rest := hother
    rw [hphases] at hupdated
    show Justified env job rest (recorded rawJob s.ledger call fate.effective)
    by_cases hsame : other = worker
    · rw [hsame, Function.update_self] at hupdated
      cases hupdated
      exact hjustified.call ⟨fate, rfl, htolerable, rfl⟩
    · rw [Function.update_of_ne hsame] at hupdated
      exact (h.justified other job rest hupdated).undisturbed ⟨more, hmore⟩

/-- The step lemma. -/
theorem Sound.step (h : Sound env s) {e : Event Id Frame} {s' : System Id Frame}
    (hstep : Step env s e s') (hcareful : Careful env s e) : Sound env s' := by
  have hidle : ∀ {worker : Id} (queue inProcess : List Text), s.phase worker = .idle →
      Sound env { s with queue, inProcess } := by
    intro worker queue inProcess hphase
    have hrest : Sound env ({ s with queue, inProcess }.setPhase worker .idle) :=
      h.rest queue inProcess (by rintro _ _ ⟨⟩)
    rwa [System.setPhase, ← hphase, Function.update_eq_self] at hrest
  cases hstep with
  | push rawJob => exact ⟨h.settled, h.notDispatched, h.justified⟩
  | start _ => exact h.rest s.queue s.inProcess (by rintro _ _ ⟨⟩)
  | take _ _ hjob =>
    refine h.rest _ _ ?_
    rintro rawJob rest ⟨⟩
    exact justified_handleJob (hcareful hjob)
  | skip hphase _ => exact hidle _ _ hphase
  | takeLost _ _ => exact h.rest _ _ (by rintro _ _ ⟨⟩)
  | call fate hphase => exact h.call hphase hcareful
  | done _ => exact h.rest s.queue s.inProcess (by rintro _ _ ⟨⟩)
  | died _ => exact h.rest s.queue s.inProcess (by rintro _ _ ⟨⟩)
  | crash worker => exact h.rest s.queue s.inProcess (by rintro _ _ ⟨⟩)

/-- In every run of any number of workers in which every job names a run and the failures of the
calls are tolerable, a job leaves the processing list only after its follow-up dispatch was enqueued
or its run was reported failed, and no run that was reported failed is dispatched. -/
theorem join_pair_handover {events : List (Event Id Frame)}
    (h : Runs (Step env) (Careful env) .initial events s) : HandedOver env s :=
  (h.invariant sound_initial fun _ _ _ hs hstep hcareful => hs.step hstep hcareful).handedOver

end Runs

/-! ### Concrete runs -/

section Driven

variable {Id Frame : Type} [DecidableEq Id] (env : Environment Frame) [PyRuntime] [PyNumerals]
variable (fate : (call : Call Frame) → Fate (call.Answer Frame))

omit [PyRuntime] [PyNumerals] in
/-- The calls of a program that take effect when every call has its fate. -/
def effects : Work Frame Unit → List (Call Frame)
  | .done _ | .raise _ => []
  | .call call next =>
    if (fate call).effective then call :: effects (next (fate call).answer)
    else effects (next (fate call).answer)

omit [PyRuntime] [PyNumerals] in
def Call.removes : Call Frame → Option Text
  | .lrem rawJob => some rawJob
  | _ => none

omit [DecidableEq Id] [PyRuntime] [PyNumerals] in
theorem removed_afterCall (s : System Id Frame) (rawJob : Text) (call : Call Frame) :
    (s.afterCall rawJob call true).removed = s.removed ++ [call].filterMap Call.removes := by
  cases call with
  | lrem job => rfl
  | _ => exact (List.append_nil _).symm

/-- A busy worker may make its calls one after another. -/
theorem runs_of_busy {meets : System Id Frame → Event Id Frame → Prop} {worker : Id}
    (hmeets : ∀ s call, meets s (.call worker call (fate call))) (rawJob : Text)
    (rest : Work Frame Unit) {s : System Id Frame} (hphase : s.phase worker = .busy rawJob rest) :
    ∃ events s', Runs (Step env) meets s events s' ∧
      s'.ledger = s.ledger ++ (effects fate rest).map (rawJob, ·) ∧
      s'.removed = s.removed ++ (effects fate rest).filterMap Call.removes := by
  induction rest generalizing s with
  | done a => exact ⟨[], s, .refl, (List.append_nil _).symm, (List.append_nil _).symm⟩
  | raise exc => exact ⟨[], s, .refl, (List.append_nil _).symm, (List.append_nil _).symm⟩
  | call call next ih =>
    let after := (s.afterCall rawJob call (fate call).effective).setPhase worker
      (.busy rawJob (next (fate call).answer))
    obtain ⟨events, s', hruns, hledger, hremoved⟩ :=
      ih (fate call).answer (s := after) (Function.update_self ..)
    refine ⟨_, s', .cons (Step.call (fate call) hphase) (hmeets s call) hruns, ?_, ?_⟩
    · rw [hledger, effects]
      show recorded rawJob s.ledger call (fate call).effective ++ _ = _
      cases (fate call).effective with
      | false => rfl
      | true => exact List.append_assoc ..
    · rw [hremoved, effects]
      show (s.afterCall rawJob call (fate call).effective).removed ++ _ = _
      cases (fate call).effective with
      | false => rfl
      | true =>
        rw [removed_afterCall, List.append_assoc, ← List.filterMap_append]
        rfl

end Driven

section Example

local instance sampleRuntimeHandover : PyRuntime := .ascii (fun _ => .nan) (fun _ => [])

local instance sampleNumeralsHandover : PyNumerals := ⟨fun _ => none, fun _ => none, id⟩

def sampleJob : Text := "job"

/-- A join of two datasets on their ids. -/
def samplePayload : Dict :=
  [entry "run_id" (.text "run"),
    entry "execution_contract" (.dict [entry "execution_shape" (.text "join_pair"),
      entry "source_materialization" (.dict [entry "join_keys" (.list [.text "id"]),
        entry "left_source" (.dict [entry "data_object_version_id" (.text "left")]),
        entry "right_source" (.dict [entry "data_object_version_id" (.text "right")]),
        entry "output_location" (.text "s3://bucket/format=parquet")])]),
    entry "next_dispatch_payload" (.dict [entry "queue_key" (.text "dispatch")])]

/-- Every message is the sample job, and every dataset has ids. -/
def sampleEnvironment : Environment Unit where
  json _ := .ok (.dict samplePayload)
  dumps _ := []
  columns _ := ["id"]
  getenv _ := none
  config := ⟨[], 0, some "endpoint", some "key", some "secret"⟩

/-- Every call is served. -/
def allServed : (call : Call Unit) → Fate (call.Answer Unit)
  | .getDataObjectVersion .. => .served
    [entry "storage_uri" (.text "s3://bucket/source"), entry "storage_format" (.text "parquet")]
  | .readDataset _ | .filterRight .. | .join .. => .served ()
  | .count _ => .served 0
  | .now => .served []
  | .reportProgress _ | .createSparkSession _ | .ensureBucketExists _ | .uploadParquet ..
  | .saveDelta .. | .stopSpark | .lpush .. | .reportRun _ | .lrem _ => .served ()

/-- What a call to an API that is down raises. -/
def outage : PyError := .builtin "ConnectionError" "API request failed"

/-- The API is down after the job was started. -/
def apiDown : (call : Call Unit) → Fate (call.Answer Unit)
  | .getDataObjectVersion .. => .refused outage
  | .reportRun _ => .refused outage
  | call => allServed call

/-- The system when the only worker has turned to the sample job. -/
def busySystem : System Unit Unit where
  queue := []
  inProcess := [sampleJob]
  phase _ := .busy sampleJob (handleJob sampleEnvironment sampleJob)
  ledger := []
  removed := []

/-- The worker turns to the job, for a condition that turning to a new run meets. -/
theorem runs_busySystem {meets : System Unit Unit → Event Unit Unit → Prop}
    (hmeets : ∀ s e, Careful sampleEnvironment s e → meets s e) :
    Runs (Step sampleEnvironment) meets .initial
      [.push sampleJob, .start (), .take () sampleJob] busySystem := by
  let pushed : System Unit Unit := { System.initial with queue := [sampleJob] }
  let idle : System Unit Unit := pushed.setPhase () .idle
  have hpush : Step sampleEnvironment .initial (.push sampleJob) pushed := .push _ _
  have hstart : Step sampleEnvironment pushed (.start ()) idle := .start rfl
  have htake : Step sampleEnvironment idle (.take () sampleJob) busySystem := by
    have hphase : busySystem.phase = Function.update idle.phase ()
        (.busy sampleJob (handleJob sampleEnvironment sampleJob)) := by
      funext worker
      rfl
    rw [show busySystem = { busySystem with phase := busySystem.phase } from rfl, hphase]
    exact .take rfl (List.nil_append [sampleJob]).symm (by decide)
  have hcareful : Careful sampleEnvironment idle (.take () sampleJob) :=
    fun _ => by decide
  exact .cons hpush (hmeets _ _ trivial) (.cons hstart (hmeets _ _ trivial)
    (.one htake (hmeets _ _ hcareful)))

theorem sample_effects :
    ((effects allServed (handleJob sampleEnvironment sampleJob)).filterMap Call.removes =
      [sampleJob]) ∧
    (effects apiDown (handleJob sampleEnvironment sampleJob)).filterMap Call.removes =
        [sampleJob] ∧
      (effects apiDown (handleJob sampleEnvironment sampleJob)).all (fun call => match call with
        | .lpush .. | .reportRun _ => false
        | _ => true) = true := by
  decide +kernel

theorem runs_sample {meets : System Unit Unit → Event Unit Unit → Prop}
    (hcareful : ∀ s e, Careful sampleEnvironment s e → meets s e)
    (fate : (call : Call Unit) → Fate (call.Answer Unit))
    (hmeets : ∀ s call, meets s (.call () call (fate call))) :
    ∃ events s, Runs (Step sampleEnvironment) meets .initial events s ∧
      s.ledger = (effects fate (handleJob sampleEnvironment sampleJob)).map (sampleJob, ·) ∧
      s.removed =
        (effects fate (handleJob sampleEnvironment sampleJob)).filterMap Call.removes := by
  obtain ⟨events, s, hruns, hledger, hremoved⟩ := runs_of_busy sampleEnvironment fate
    hmeets sampleJob (handleJob sampleEnvironment sampleJob) (s := busySystem) rfl
  exact ⟨_, s, (runs_busySystem hcareful).append hruns, hledger, hremoved⟩

theorem join_pair_handover_sample :
    ∃ (events : List (Event Unit Unit)) (s : System Unit Unit),
      Runs (Step sampleEnvironment) (Careful sampleEnvironment) .initial events s ∧
      s.removed = [sampleJob] ∧ HandedOver sampleEnvironment s := by
  have hmeets : ∀ (s : System Unit Unit) call,
      Careful sampleEnvironment s (.call () call (allServed call)) := by
    intro s call exc hexc
    cases call <;> cases hexc
  obtain ⟨events, s, hruns, _, hremoved⟩ := runs_sample (fun _ _ h => h) allServed hmeets
  exact ⟨events, s, hruns, hremoved.trans sample_effects.1, join_pair_handover hruns⟩

/-- When the API is down, the job is removed though its run was not reported. -/
theorem join_pair_handover_counterexample :
    ∃ (events : List (Event Unit Unit)) (s : System Unit Unit),
      Runs (Step sampleEnvironment) (fun _ _ => True) .initial events s ∧
        ∃ rawJob ∈ s.removed, ¬Settled sampleEnvironment s.ledger rawJob := by
  obtain ⟨_, hremoves, hsilent⟩ := sample_effects
  obtain ⟨events, s, hruns, hledger, hremoved⟩ :=
    runs_sample (fun _ _ _ => trivial) apiDown fun _ _ => trivial
  refine ⟨events, s, hruns, sampleJob, ?_, ?_⟩
  · rw [hremoved, hremoves]
    exact List.mem_cons_self
  rw [hledger]
  rintro (⟨queueKey, message, hmem⟩ | ⟨job, report, hmem, _⟩)
  · obtain ⟨call, hcall, heq⟩ := List.mem_map.mp hmem
    cases heq
    cases List.all_eq_true.mp hsilent _ hcall
  · obtain ⟨call, hcall, heq⟩ := List.mem_map.mp hmem
    cases heq
    cases List.all_eq_true.mp hsilent _ hcall

end Example

end JoinPair

end Dispatch

end DqMadeEasy
