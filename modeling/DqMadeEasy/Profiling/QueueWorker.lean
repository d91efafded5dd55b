import DqMadeEasy.Logic.Pool
import DqMadeEasy.Worker.Error

/-!
# The profiling worker

A worker takes a message off the queue, reports the profiling request that it names as started, runs
the job, and reports the request as completed or failed. The take is the only thing that removes a
message, and the reports are calls of the API that may fail. Every call may be served, may fail, or
may fail after it took effect, and a worker may stop at any point.
-/

namespace DqMadeEasy

namespace Profiling

open Worker

/-! ### What a worker does with a message -/

/-- What the worker calls. -/
inductive Call where
  /-- `status_store.set_started`. -/
  | setStarted (profilingRequestId jobId : Text) (correlationId : Option Text)
  /-- `status_store.set_completed`. -/
  | setCompleted (profilingRequestId : Text) (success : Bool)
      (errorMessage correlationId : Option Text)
  /-- `handle_etl_job`. -/
  | handleEtlJob (data : Dict)
  /-- `handle_test_data_job`. -/
  | handleTestDataJob (data : Dict)

abbrev Call.Answer : Call → Type
  | .setStarted .. | .setCompleted .. => Unit
  | .handleEtlJob _ | .handleTestDataJob _ => Dict

/-- What the worker does with a message. -/
abbrev Work (α : Type) := Program Call Call.Answer PyError α

def make (call : Call) : Work call.Answer := .perform call

/-- `except Exception`. -/
def exceptException {α : Type} (handler : PyError → Work α) (work : Work α) : Work α :=
  work.rescue fun exc => if exc.severity = .exception then handler exc else .raise exc

section Source

variable [PyRuntime] [PyNumerals]

def requestTypeFromData (data : Dict) : Text :=
  let given := PyRuntime.lower (Text.strip ((data.get "type").orElse (.text "profiling")).str)
  if given = [] then "profiling" else given

def profilingRequestId (data : Dict) : Text := (data.get "profiling_request_id").strippedText

/-- `str(data.get("correlation_id") or "").strip() or None`. -/
def correlationId (data : Dict) : Option Text :=
  let given := (data.get "correlation_id").strippedText
  if given = [] then none else some given

def reportEnd (data : Dict) (success : Bool) (errorMessage : Option Text) : Work Unit :=
  if profilingRequestId data ≠ [] then
    make (.setCompleted (profilingRequestId data) success errorMessage (correlationId data))
  else pure ()

/-- The start report of a job, when it names a request and a job. -/
def reportStart (data : Dict) : Work Unit :=
  let jobId := (data.get "job_id").strippedText
  if profilingRequestId data ≠ [] ∧ jobId ≠ [] then
    make (.setStarted (profilingRequestId data) jobId (correlationId data))
  else pure ()

def handleJob (data : Dict) : Work Dict :=
  if requestTypeFromData data = "test_data_generation" then make (.handleTestDataJob data)
  else do
    -- Outside the `try`.
    reportStart data
    let result ← exceptException
      (fun exc => do
        reportEnd data false (some exc.message)
        .raise exc)
      (make (.handleEtlJob data))
    reportEnd data true none
    pure result

/-- The body of the loop of `run_worker`, after the take. -/
def processItem (json : Text → Except PyError Json) (payload : Text) : Work Unit :=
  match json payload with
  | .error exc => if exc.severity = .exception then pure () else .raise exc
  | .ok (.dict data) =>
    exceptException (fun _ => pure ()) do
      let _ ← handleJob data
      pure ()
  -- `data.get('job_id')`, before the `try`
  | .ok _ => .raise (.builtin "AttributeError" "object has no attribute 'get'")

end Source

/-! ### The workers at the queue -/

/-- The queue, the calls that took effect in order, and the messages that were ever pushed. -/
structure Store where
  queue : List Text
  ledger : List Call
  pushed : List Text

/-- What happens to the queue from outside a turn of the worker. -/
inductive Outside where
  /-- `lpush`. -/
  | push (payload : Text)
  /-- `brpop` removes a message and its answer is lost. -/
  | takeLost

/-- Nothing was pushed. -/
def Store.initial : Store := ⟨[], [], []⟩

/-- The call, with its effect on the record. -/
def Store.perform (call : Call) (fate : Pool.Fate PyError call.Answer) (s : Store) :
    Except PyError call.Answer × Store :=
  (fate.answer, if fate.effective then { s with ledger := s.ledger ++ [call] } else s)

/-- `brpop` of a message. -/
def Store.take (payload : Text) (s : Store) : Option Store :=
  if s.queue.getLast? = some payload then some { s with queue := s.queue.dropLast } else none

section Site

variable [PyRuntime] [PyNumerals] (json : Text → Except PyError Json)

/-- The workers: taking a message up is taking it off the queue. -/
def site : Pool.Workplace Text Store Call Call.Answer PyError
    (fun call => Pool.Fate PyError call.Answer) Outside where
  program := processItem json
  begin_ := Store.take
  perform := Store.perform
  outside
    | .push payload, s => { s with queue := payload :: s.queue, pushed := payload :: s.pushed }
    | .takeLost, s => { s with queue := s.queue.dropLast }

/-- The request that a message names; empty for a message that names none. -/
def requestOf (payload : Text) : Text :=
  match json payload with
  | .ok (.dict data) => profilingRequestId data
  | _ => []

omit [PyRuntime] [PyNumerals] in
def Reported (s : Store) (requestId : Text) : Prop :=
  ∃ success errorMessage correlationId,
    .setCompleted requestId success errorMessage correlationId ∈ s.ledger

abbrev Workers (Id : Type) := Pool Id Text Store Call Call.Answer PyError

/-- The labels of their steps. -/
abbrev Event (Id : Type) :=
  Pool.Event Id Text Call (fun call => Pool.Fate PyError call.Answer) Outside

/-- The claim's law. A message that names a request is on the queue, or a live worker is at work on
it, or its request was reported completed or failed. -/
def NoJobLost {Id : Type} (p : Workers Id) : Prop :=
  ∀ payload ∈ p.shared.pushed, requestOf json payload ≠ [] →
    payload ∈ p.shared.queue ∨ Reported p.shared (requestOf json payload) ∨
      ∃ worker rest, p.phase worker = some (payload, rest)

/-- Only the workers that hold the message can still see to its request. -/
def AtStake (s : Store) (payload : Text) : Prop :=
  requestOf json payload ≠ [] ∧ payload ∉ s.queue ∧ ¬Reported s (requestOf json payload)

def GeneratesTestData (payload : Text) : Prop :=
  ∃ data, json payload = .ok (.dict data) ∧
    requestTypeFromData data = "test_data_generation"

omit [PyRuntime] [PyNumerals] in
/-- The ways a call of a turn may go: the start report does not raise, the job raises nothing but an
`Exception`, the final report arrives. -/
def Tolerable : (call : Call) → Pool.Fate PyError call.Answer → Prop
  | .setStarted .., fate => ∃ a, fate.answer = .ok a
  | .setCompleted .., fate => fate.effective = true
  | .handleEtlJob _, fate => ∀ exc, fate.answer = .error exc → exc.severity = .exception
  | .handleTestDataJob _, _ => True

/-- While a message is at stake, its take is answered, its job generates no test data, its worker
does not stop, and the calls of its worker go in tolerable ways. -/
def Careful {Id : Type} (p : Workers Id) : Event Id → Prop
  | .outside .takeLost => ∀ payload, p.shared.queue.getLast? = some payload →
    ¬AtStake json { p.shared with queue := p.shared.queue.dropLast } payload
  | .call worker call fate => ∀ payload rest, p.phase worker = some (payload, rest) →
    AtStake json p.shared payload → Tolerable call fate
  | .crash worker => ∀ payload rest, p.phase worker = some (payload, rest) →
    ¬AtStake json p.shared payload
  | .begin_ _ payload =>
    AtStake json { p.shared with queue := p.shared.queue.dropLast } payload →
      ¬GeneratesTestData json payload
  | .outside (.push _) | .finish _ => True

end Site

/-! ### The outline of a turn -/

section Outlines

def Serves (call : Call) (s : Store) (answer : Except PyError call.Answer) (s' : Store) : Prop :=
  ∃ fate, Tolerable call fate ∧ s.perform call fate = (answer, s')

/-- The others make calls and push messages. -/
def Grows (s s' : Store) : Prop := ∀ call ∈ s.ledger, call ∈ s'.ledger

/-- The outlines of the parts of a turn. -/
abbrev Achieves {α : Type} (work : Work α) (K : Store → Prop) (Q : α → Store → Prop)
    (E : PyError → Store → Prop) : Prop :=
  work.Outcome Serves Grows (fun _ _ => True) K Q E

theorem Reported.grows {requestId : Text} {s s' : Store} (h : Reported s requestId)
    (hgrows : Grows s s') : Reported s' requestId := by
  obtain ⟨success, errorMessage, correlationId, hmem⟩ := h
  exact ⟨success, errorMessage, correlationId, hgrows _ hmem⟩

theorem stable_reported (requestId : Text) :
    Program.Stable Grows fun s => Reported s requestId :=
  fun _ _ h hgrows => h.grows hgrows

theorem grows_perform (s : Store) (call : Call) (fate : Pool.Fate PyError call.Answer) :
    Grows s (s.perform call fate).2 := by
  intro other hmem
  rw [Store.perform]
  cases fate.effective with
  | true => exact List.mem_append_left _ hmem
  | false => exact hmem

theorem reported_of_serves {requestId : Text} {success : Bool}
    {errorMessage correlationId : Option Text} {s s' : Store} {answer : Except PyError Unit}
    (h : Serves (.setCompleted requestId success errorMessage correlationId) s answer s') :
    Reported s' requestId := by
  obtain ⟨fate, heffective, hperform⟩ := h
  have hs' := (Prod.mk.inj hperform).2
  change fate.effective = true at heffective
  rw [heffective] at hs'
  subst hs'
  exact ⟨success, errorMessage, correlationId, List.mem_append_right _ List.mem_cons_self⟩

variable [PyRuntime] [PyNumerals] {data : Dict}

theorem achieves_reportEnd (hrequest : profilingRequestId data ≠ []) (success : Bool)
    (errorMessage : Option Text) :
    Achieves (reportEnd data success errorMessage) (fun _ => True)
      (fun _ s => Reported s (profilingRequestId data))
      fun _ s => Reported s (profilingRequestId data) := by
  rw [reportEnd, if_pos hrequest]
  exact .perform (fun _ _ => trivial) (fun _ => stable_reported _) (fun _ => stable_reported _)
    (fun _ _ _ _ h => reported_of_serves h) fun _ _ _ _ h => reported_of_serves h

theorem achieves_reportStart (data : Dict) :
    Achieves (reportStart data) (fun _ => True) (fun _ _ => True) fun _ _ => False := by
  rw [reportStart]
  split
  swap
  · exact Program.Outcome.done fun _ _ => trivial
  refine .perform (fun _ _ => trivial) (fun _ _ _ _ _ => trivial) (fun _ _ _ h _ => h)
    (fun _ _ _ _ _ => trivial) fun s exc s' _ h => ?_
  obtain ⟨fate, ⟨a, hanswer⟩, hperform⟩ := h
  have hexc := (Prod.mk.inj hperform).1
  rw [hanswer] at hexc
  cases hexc

omit [PyRuntime] [PyNumerals] in
/-- The job raises nothing but an `Exception`. -/
theorem achieves_handleEtlJob (data : Dict) :
    Achieves (make (.handleEtlJob data)) (fun _ => True) (fun _ _ => True)
      fun exc _ => exc.severity = .exception := by
  refine .perform (fun _ _ => trivial) (fun _ _ _ _ _ => trivial) (fun _ _ _ h _ => h)
    (fun _ _ _ _ _ => trivial) fun s exc s' _ h => ?_
  obtain ⟨fate, htolerable, hperform⟩ := h
  exact htolerable exc (Prod.mk.inj hperform).1

omit [PyRuntime] [PyNumerals] in
/-- The rule of `except Exception`, around what raises nothing else. -/
theorem achieves_exceptException {α : Type} {work : Work α} {handler : PyError → Work α}
    {K : Store → Prop} {Q : α → Store → Prop} {E : PyError → Store → Prop}
    (h : Achieves work K Q fun exc _ => exc.severity = .exception)
    (hhandler : ∀ exc, Achieves (handler exc) (fun _ => True) Q E) :
    Achieves (exceptException handler work) K Q E := by
  refine Program.Outcome.rescue h fun exc => ?_
  refine Program.Outcome.assume fun hexception => ?_
  rw [if_pos hexception]
  exact hhandler exc

/-- A job that names a request and generates no test data reports the request at both endings. -/
theorem achieves_handleJob (hrequest : profilingRequestId data ≠ [])
    (htype : requestTypeFromData data ≠ "test_data_generation") :
    Achieves (handleJob data) (fun _ => True) (fun _ s => Reported s (profilingRequestId data))
      fun _ s => Reported s (profilingRequestId data) := by
  rw [handleJob, if_neg htype]
  have hstarted : Achieves (reportStart data) (fun _ => True) (fun _ _ => True)
      fun _ s => Reported s (profilingRequestId data) :=
    (achieves_reportStart data).mono (fun _ _ _ => trivial) fun _ _ h => h.elim
  refine hstarted.bind fun _ => ?_
  have hetl : Achieves (exceptException
      (fun exc => do
        reportEnd data false (some exc.message)
        .raise exc) (make (.handleEtlJob data))) (fun _ => True) (fun _ _ => True)
      fun _ s => Reported s (profilingRequestId data) :=
    achieves_exceptException (achieves_handleEtlJob data) fun exc =>
      ((achieves_reportEnd hrequest false (some exc.message)).bind fun _ =>
        Program.Outcome.raise fun _ h => h)
  refine hetl.bind fun result => ?_
  exact (achieves_reportEnd hrequest true none).bind fun _ => Program.Outcome.done fun _ h => h

variable (json : Text → Except PyError Json)

/-- A turn with a message that names a request reports the request. -/
theorem achieves_processItem {payload : Text} (hrequest : requestOf json payload ≠ [])
    (htype : ¬GeneratesTestData json payload) :
    Achieves (processItem json payload) (fun _ => True)
      (fun _ s => Reported s (requestOf json payload))
      fun _ s => Reported s (requestOf json payload) := by
  rw [processItem]
  rw [requestOf] at hrequest ⊢
  cases hjson : json payload with
  | error exc =>
    rw [hjson] at hrequest
    exact absurd rfl hrequest
  | ok value =>
    rw [hjson] at hrequest
    cases value with
    | scalar value => exact absurd rfl hrequest
    | list items => exact absurd rfl hrequest
    | dict data =>
      have hjob : Achieves (handleJob data >>= fun _ => pure ()) (fun _ => True)
          (fun _ s => Reported s (profilingRequestId data))
          fun _ s => Reported s (profilingRequestId data) :=
        (achieves_handleJob hrequest fun h => htype ⟨data, hjson, h⟩).bind fun _ => Program.Outcome.done fun _ h => h
      refine Program.Outcome.rescue hjob fun exc => ?_
      split
      · exact Program.Outcome.done fun _ h => h
      · exact Program.Outcome.raise fun _ h => h

end Outlines

/-! ### Runs -/

section Runs

open Transition

variable {Id : Type} [PyRuntime] [PyNumerals] (json : Text → Except PyError Json)

def SeesTo (payload : Text) (rest : Work Unit) (s : Store) : Prop :=
  rest.Ends Serves Grows (fun _ _ => True) (fun _ s => Reported s (requestOf json payload))
    (fun _ s => Reported s (requestOf json payload)) s

def Kept (p : Workers Id) (payload : Text) : Prop :=
  payload ∈ p.shared.queue ∨ Reported p.shared (requestOf json payload) ∨
    ∃ worker rest, p.phase worker = some (payload, rest) ∧ SeesTo json payload rest p.shared

/-- The invariant of the runs whose steps are careful. -/
def AllKept (p : Workers Id) : Prop :=
  ∀ payload ∈ p.shared.pushed, requestOf json payload ≠ [] → Kept json p payload

variable {json} {p : Workers Id}

theorem AllKept.noJobLost (h : AllKept json p) : NoJobLost json p := by
  intro payload hpushed hrequest
  rcases h payload hpushed hrequest with hqueue | hreported | ⟨worker, rest, hphase, _⟩
  · exact .inl hqueue
  · exact .inr (.inl hreported)
  · exact .inr (.inr ⟨worker, rest, hphase⟩)

theorem kept_of_not_atStake {s : Store} {payload : Text} (hrequest : requestOf json payload ≠ [])
    (h : ¬AtStake json s payload) :
    payload ∈ s.queue ∨ Reported s (requestOf json payload) := by
  by_contra hnot
  rw [not_or] at hnot
  exact h ⟨hrequest, hnot.1, hnot.2⟩

omit [PyRuntime] [PyNumerals] in
/-- A message on the queue is the next one, or it stays when that is taken off. -/
theorem mem_queue_cases {payload : Text} {queue : List Text} (h : payload ∈ queue) :
    queue.getLast? = some payload ∨ payload ∈ queue.dropLast := by
  rcases List.eq_nil_or_concat queue with rfl | ⟨rest, last, rfl⟩
  · cases h
  · rw [List.concat_eq_append] at h ⊢
    rw [List.getLast?_concat, List.dropLast_concat]
    exact (List.mem_append.mp h).symm.imp (fun h => congrArg some (List.mem_singleton.mp h).symm) id

omit [PyRuntime] [PyNumerals] in
theorem take_eq {payload : Text} {s s' : Store} (h : s.take payload = some s') :
    s.queue.getLast? = some payload ∧ s' = { s with queue := s.queue.dropLast } := by
  rw [Store.take] at h
  split at h
  · exact ⟨‹_›, (Option.some.inj h).symm⟩
  · cases h

omit [PyRuntime] [PyNumerals] in
theorem queue_perform (s : Store) (call : Call) (fate : Pool.Fate PyError call.Answer) :
    (s.perform call fate).2.queue = s.queue := by
  rw [Store.perform]
  cases fate.effective <;> rfl

omit [PyRuntime] [PyNumerals] in
theorem pushed_perform (s : Store) (call : Call) (fate : Pool.Fate PyError call.Answer) :
    (s.perform call fate).2.pushed = s.pushed := by
  rw [Store.perform]
  cases fate.effective <;> rfl

variable [DecidableEq Id]

theorem Kept.finish {payload task : Text} {worker : Id} {rest : Work Unit}
    (h : Kept json p payload) (hphase : p.phase worker = some (task, rest))
    (hended : SeesTo json task rest p.shared → Reported p.shared (requestOf json task)) :
    Kept json (p.put worker p.shared none) payload := by
  rcases h with hqueue | hreported | ⟨other, rest', hother, hsees⟩
  · exact .inl hqueue
  · exact .inr (.inl hreported)
  · by_cases hne : other = worker
    · subst hne
      cases hother.symm.trans hphase
      exact .inr (.inl (hended hsees))
    · refine .inr (.inr ⟨other, rest', ?_, hsees⟩)
      rw [Pool.phase_put_of_ne hne, hother]

/-- The step lemma. -/
theorem AllKept.step (h : AllKept json p) {e : Event Id} {p' : Workers Id}
    (hstep : Pool.Step (site json) p e p') (hcareful : Careful json p e) : AllKept json p' := by
  intro payload hpushed hrequest
  cases hstep with
  | outside o =>
    cases o with
    | push pushed =>
      rcases List.mem_cons.mp hpushed with rfl | hbefore
      · exact .inl List.mem_cons_self
      · rcases h payload hbefore hrequest with hqueue | hreported | hseen
        · exact .inl (List.mem_cons_of_mem _ hqueue)
        · exact .inr (.inl hreported)
        · obtain ⟨worker, rest, hphase, hsees⟩ := hseen
          exact .inr (.inr ⟨worker, rest, hphase, hsees.undisturbed fun _ hmem => hmem⟩)
    | takeLost =>
      rcases h payload hpushed hrequest with hqueue | hreported | hseen
      · have hcases := mem_queue_cases hqueue
        rcases hcases with hlast | hrest
        · rcases kept_of_not_atStake hrequest (hcareful payload hlast) with hkept | hkept
          · exact .inl hkept
          · exact .inr (.inl hkept)
        · exact .inl hrest
      · exact .inr (.inl hreported)
      · obtain ⟨worker, rest, hphase, hsees⟩ := hseen
        exact .inr (.inr ⟨worker, rest, hphase, hsees.undisturbed fun _ hmem => hmem⟩)
  | begin_ hphase hbegin =>
    rename_i worker task shared
    obtain ⟨hlast, rfl⟩ := take_eq hbegin
    rcases h payload hpushed hrequest with hqueue | hreported | ⟨other, rest, hother, hsees⟩
    · rcases mem_queue_cases hqueue with hnext | hrest
      · cases hnext.symm.trans hlast
        by_cases hstake : AtStake json { p.shared with queue := p.shared.queue.dropLast } payload
        · refine .inr (.inr ⟨worker, _, Pool.phase_put_self .., ?_⟩)
          exact ⟨fun _ => True, fun _ _ _ _ => trivial, trivial,
            achieves_processItem json hrequest (hcareful hstake)⟩
        · rcases kept_of_not_atStake hrequest hstake with hkept | hkept
          · exact .inl hkept
          · exact .inr (.inl hkept)
      · exact .inl hrest
    · exact .inr (.inl hreported)
    · have hne : other ≠ worker := by
        rintro rfl
        cases hother.symm.trans hphase
      refine .inr (.inr ⟨other, rest, ?_, hsees.undisturbed fun _ hmem => hmem⟩)
      rw [Pool.phase_put_of_ne hne, hother]
  | call fate hphase =>
    rename_i worker task op next
    have hgrows : Grows p.shared (p.shared.perform op fate).2 := grows_perform _ _ _
    have hqueue' : (p.shared.perform op fate).2.queue = p.shared.queue := queue_perform _ _ _
    have hkept : payload ∈ p.shared.queue ∨ Reported p.shared (requestOf json payload) →
        Kept json (p.put worker (p.shared.perform op fate).2
          (some (task, next (p.shared.perform op fate).1))) payload := by
      rintro (hqueue | hreported)
      · exact .inl (hqueue' ▸ hqueue)
      · exact .inr (.inl (hreported.grows hgrows))
    rcases h payload (pushed_perform p.shared op fate ▸ hpushed) hrequest with
      hqueue | hreported | ⟨other, rest, hother, hsees⟩
    · exact hkept (.inl hqueue)
    · exact hkept (.inr hreported)
    · by_cases hstake : AtStake json p.shared payload
      · by_cases hne : other = worker
        · -- The call of the worker that sees to the message.
          subst hne
          cases hother.symm.trans hphase
          refine .inr (.inr ⟨other, _, Pool.phase_put_self .., hsees.call ?_⟩)
          exact ⟨fate, hcareful _ _ hphase hstake, rfl⟩
        · refine .inr (.inr ⟨other, rest, ?_, hsees.undisturbed hgrows⟩)
          rw [Pool.phase_put_of_ne hne, hother]
      · exact hkept (kept_of_not_atStake hrequest hstake)
  | done hphase =>
    exact (h payload hpushed hrequest).finish hphase fun hsees => hsees.done
  | raised hphase =>
    exact (h payload hpushed hrequest).finish hphase fun hsees => hsees.raise
  | crash worker =>
    rcases h payload hpushed hrequest with hqueue | hreported | ⟨other, rest, hother, hsees⟩
    · exact .inl hqueue
    · exact .inr (.inl hreported)
    · by_cases hne : other = worker
      · rcases kept_of_not_atStake hrequest (hcareful payload rest (hne ▸ hother)) with hkept | hkept
        · exact .inl hkept
        · exact .inr (.inl hkept)
      · refine .inr (.inr ⟨other, rest, ?_, hsees⟩)
        rw [Pool.phase_put_of_ne hne, hother]

/-- The claim's law, in every state that a run with careful steps reaches. -/
theorem noJobLost_of_careful {events : List (Event Id)}
    (hruns : Runs (Pool.Step (site json)) (Careful json) (Pool.idle .initial) events p) :
    NoJobLost json p := by
  refine AllKept.noJobLost (hruns.invariant ?_ fun _ _ _ h => h.step)
  exact fun _ hpushed => absurd hpushed List.not_mem_nil

end Runs

section Samples

open Transition

local instance sampleRuntimeProfiling : PyRuntime := .ascii (fun _ => .nan) (fun _ => [])

local instance sampleNumeralsProfiling : PyNumerals := ⟨fun _ => none, fun _ => none, id⟩

def sampleMessage (_ : Text) : Except PyError Json :=
  .ok (.dict [("profiling_request_id", .text "request"), ("job_id", .text "job")])

def sampleServices : (call : Call) → Pool.Fate PyError call.Answer
  | .setStarted .. | .setCompleted .. => .served ()
  | .handleEtlJob _ | .handleTestDataJob _ => .served []

def sampleOutage : (call : Call) → Pool.Fate PyError call.Answer
  | .setStarted .. => .refused (.builtin "RuntimeError" "profiling worker cannot reach API")
  | call => sampleServices call

def sampleTaken : Workers Unit :=
  (Pool.idle ⟨[], [], ["message"]⟩ : Workers Unit).put () ⟨[], [], ["message"]⟩
    (some ("message", processItem sampleMessage "message"))

/-- The worker takes the message and goes through its turn. -/
theorem runs_sampleTaken (meets : Workers Unit → Event Unit → Prop)
    (fate : (call : Call) → Pool.Fate PyError call.Answer)
    (htake : ∀ p, meets p (.outside (.push "message")) ∧
      meets p (.begin_ () "message"))
    (hcall : ∀ p call, meets p (.call () call (fate call))) (hfinish : ∀ p, meets p (.finish ())) :
    ∃ (events : List (Event Unit)) (p : Workers Unit),
      Runs (Pool.Step (site sampleMessage)) meets (Pool.idle .initial) events p ∧
        p.shared = Pool.execute (site sampleMessage) fate
          (processItem sampleMessage "message") ⟨[], [], ["message"]⟩ ∧
        p.phase () = none := by
  obtain ⟨events, p, hruns, hshared, hphase, _⟩ := Pool.runs_execute (site sampleMessage) fate
    meets sampleTaken hcall hfinish (processItem sampleMessage "message") rfl
  have hbegin : Pool.Step (site sampleMessage)
      (Pool.idle ⟨["message"], [], ["message"]⟩ : Workers Unit)
      (.begin_ () "message") sampleTaken := .begin_ rfl rfl
  exact ⟨_, p, .cons (.outside _ _) (htake _).1 (.cons hbegin (htake _).2 hruns), hshared, hphase⟩

/-- A turn in which every call is served. -/
theorem noJobLost_of_careful_sample :
    ∃ (events : List (Event Unit)) (p : Workers Unit),
      Runs (Pool.Step (site sampleMessage)) (Careful sampleMessage) (Pool.idle .initial) events p ∧
        p.phase () = none ∧ NoJobLost sampleMessage p := by
  have htake : ¬GeneratesTestData sampleMessage "message" := by
    rintro ⟨data, hdata, htype⟩
    cases hdata
    exact absurd htype (by decide +kernel)
  have hcall : ∀ (p : Workers Unit) call,
      Careful sampleMessage p (.call () call (sampleServices call)) := by
    intro p call payload rest hphase _
    cases call with
    | setStarted => exact ⟨(), rfl⟩
    | setCompleted => rfl
    | handleEtlJob data =>
      intro exc hexc
      cases hexc
    | handleTestDataJob data => trivial
  obtain ⟨events, p, hruns, _, hphase⟩ := runs_sampleTaken (Careful sampleMessage) sampleServices
    (fun _ => ⟨trivial, fun _ => htake⟩) hcall fun _ => trivial
  exact ⟨events, p, hruns, hphase, noJobLost_of_careful hruns⟩

/-- The start of the job cannot be reported: its message is gone, no worker is at work on it, and
its request was reported neither completed nor failed. -/
theorem noJobLost_counterexample :
    ∃ (events : List (Event Unit)) (p : Workers Unit),
      Runs (Pool.Step (site sampleMessage)) (fun _ _ => True) (Pool.idle .initial) events p ∧
        p.phase () = none ∧ ¬NoJobLost sampleMessage p := by
  obtain ⟨events, p, hruns, hshared, hphase⟩ := runs_sampleTaken (fun _ _ => True) sampleOutage
    (fun _ => ⟨trivial, trivial⟩) (fun _ _ => trivial) fun _ => trivial
  have hstore : p.shared = ⟨[], [], ["message"]⟩ := hshared.trans rfl
  refine ⟨events, p, hruns, hphase, fun h => ?_⟩
  have hlost := h "message" (hstore ▸ List.mem_cons_self) (by decide +kernel)
  rw [hstore] at hlost
  rcases hlost with hqueue | ⟨_, _, _, hreport⟩ | ⟨worker, rest, hbusy⟩
  · exact List.not_mem_nil hqueue
  · exact List.not_mem_nil hreport
  · rw [hphase] at hbusy
    cases hbusy

end Samples

end Profiling

end DqMadeEasy
