import DqMadeEasy.Profiling.QueueWorker

/-!
# The loop of the profiling worker

The worker takes one message after the other and goes on whatever a job raises. A turn parses the
message, continues the trace that it carries, opens a span and runs the job, with metrics for its
ending. All of it may fail and is guarded, but for the look at the id of the job right after the
message was parsed, which only an object survives.
-/

namespace DqMadeEasy

namespace Profiling

open Worker

/-! ### What a turn calls -/

/-- What a turn calls: what a job calls, the tracer and the metrics. -/
inductive LoopCall where
  | job (call : Call)
  /-- `trace.get_tracer`. -/
  | getTracer
  /-- `propagate.extract`. -/
  | extract (carrier : Dict)
  /-- `tracer.start_as_current_span`, with or without a context. -/
  | startSpan (continued : Bool)
  /-- The entry of the `with` block of the span. -/
  | enterSpan
  /-- `span.is_recording`. -/
  | isRecording
  /-- `span.set_attribute`. -/
  | setAttribute (key : String) (value : Json)
  /-- The exit of the `with` block of the span. -/
  | exitSpan
  /-- `record_request`. -/
  | recordRequest (requestType : Text) (status : String)
  /-- `record_failure`. -/
  | recordFailure (requestType : Text) (failureType : String)

abbrev LoopCall.Answer : LoopCall → Type
  | .job call => call.Answer
  | .isRecording => Bool
  | _ => Unit

/-- What the worker does in a turn. -/
abbrev LoopWork (α : Type) := Program LoopCall LoopCall.Answer PyError α

def issue (call : LoopCall) : LoopWork call.Answer := .perform call

/-- `except Exception`. -/
def guarded {α : Type} (handler : PyError → LoopWork α) (work : LoopWork α) : LoopWork α :=
  work.rescue fun exc => if exc.severity = .exception then handler exc else .raise exc

def inTurn {α : Type} : Work α → LoopWork α
  | .done a => .done a
  | .raise exc => .raise exc
  | .call call next => .call (.job call) fun answer => inTurn (next answer)

/-- An `if` without an `else`. -/
def optionally (condition : Bool) (work : LoopWork Unit) : LoopWork Unit :=
  if condition then work else pure ()

/-- The metrics of a job that failed. -/
def recordEnd (requestType : Text) (exc : PyError) : LoopWork Unit := do
  issue (.recordRequest requestType "failure")
  issue (.recordFailure requestType exc.className)

section Turn

variable [PyRuntime] [PyNumerals]

/-- `_handle_job`, with its metrics. The loop always has a Redis client. -/
def handleJobMeasured (data : Dict) : LoopWork Dict :=
  let jobType := requestTypeFromData data
  if jobType = "test_data_generation" then do
    let result ← guarded
      (fun exc => do
        recordEnd jobType exc
        .raise exc)
      (issue (.job (.handleTestDataJob data)))
    issue (.recordRequest jobType "success")
    pure result
  else do
    inTurn (reportStart data)
    let result ← guarded
      (fun exc => do
        inTurn (reportEnd data false (some exc.message))
        recordEnd jobType exc
        .raise exc)
      (issue (.job (.handleEtlJob data)))
    inTurn (reportEnd data true none)
    issue (.recordRequest jobType "success")
    pure result

/-- Which of the modules of the tracer could be imported. -/
structure Tracing where
  trace : Bool
  propagate : Bool

omit [PyRuntime] [PyNumerals] in
/-- `carrier`. -/
def carrierOf (data : Dict) : Dict :=
  match data.get "headers" with
  | .dict headers => headers
  | _ => []

omit [PyRuntime] [PyNumerals] in
/-- Whether a trace is continued: `ctx is not None`. -/
def extractContext (tracing : Tracing) (data : Dict) : LoopWork Bool :=
  guarded (fun _ => pure false) <|
    if tracing.propagate = true ∧ carrierOf data ≠ [] then do
      issue (.extract (carrierOf data))
      pure true
    else pure false

/-- The `try` in the span. -/
def handleJobInSpan (data : Dict) : LoopWork Unit :=
  guarded (fun exc => .raise exc) do
    let recording ← issue .isRecording
    optionally recording do
      issue (.setAttribute "job_id" (data.get "job_id"))
      issue (.setAttribute "profiling_request_id" (data.get "profiling_request_id"))
      issue (.setAttribute "correlation_id" (data.get "correlation_id"))
    let _ ← handleJobMeasured data
    pure ()

/-- The `try` of a turn, without its handler. -/
def handleTraced (tracing : Tracing) (data : Dict) : LoopWork Unit := do
  optionally tracing.trace (issue .getTracer)
  let continued ← extractContext tracing data
  if tracing.trace then
    issue (.startSpan continued)
    issue .enterSpan
    (handleJobInSpan data).ensure (issue .exitSpan)
  else
    let _ ← handleJobMeasured data
    pure ()

/-- A turn of the loop of `run_worker`. The parser returns `none` where `json.loads` raises, which it
does with an `Exception`. -/
def turn (tracing : Tracing) (json : Text → Option Json) (payload : Text) : LoopWork Unit :=
  match json payload with
  | none => pure ()
  | some (.dict data) => guarded (fun _ => pure ()) (handleTraced tracing data)
  -- `data.get('job_id')`, outside the `try`
  | some _ => .raise (.builtin "AttributeError" "object has no attribute 'get'")

/-! ### The loop -/

/-- What `brpop` does. -/
inductive Take where
  /-- It gives a message. -/
  | message (payload : Text)
  /-- It gives nothing within its timeout. -/
  | nothing
  | raised (exc : PyError)

omit [PyRuntime] [PyNumerals] in
/-- `RedisTimeoutError`. -/
def isRedisTimeout (exc : PyError) : Bool :=
  decide (exc.moduleName = "redis.exceptions" ∧ exc.className = "TimeoutError")

omit [PyRuntime] [PyNumerals] in
def nextQueueItem : Take → Except PyError (Option Text)
  | .message payload => .ok (some payload)
  | .nothing => .ok none
  | .raised exc => if isRedisTimeout exc then .ok none else .error exc

/-- How the loop stands: it waits for the next item, or it ended. -/
inductive Ending where
  | waiting
  /-- `except KeyboardInterrupt`. -/
  | interrupted
  | raised (exc : PyError)

omit [PyRuntime] [PyNumerals] in
/-- What becomes of an exception that leaves the loop. -/
def Ending.ofError (exc : PyError) : Ending :=
  if exc.severity = .keyboardInterrupt then .interrupted else .raised exc

variable {σ : Type}

/-- The loop of `run_worker`: the messages whose turns ended, and how the loop stands. -/
def workerLoop (tracing : Tracing) (json : Text → Option Json)
    (serve : (call : LoopCall) → Effect σ PyError call.Answer) :
    List Take → σ → List Text × Ending
  | [], _ => ([], .waiting)
  | take :: takes, s =>
    match nextQueueItem take with
    | .error exc => ([], Ending.ofError exc)
    | .ok none => workerLoop tracing json serve takes s
    | .ok (some payload) =>
      match ((turn tracing json payload).exec serve).run s with
      | (.error exc, _) => ([], Ending.ofError exc)
      | (.ok (), s') =>
        let rest := workerLoop tracing json serve takes s'
        (payload :: rest.1, rest.2)

end Turn

/-! ### The law -/

def messages (takes : List Take) : List Text :=
  takes.filterMap fun
    | .message payload => some payload
    | _ => none

/-- The take ends the loop: the connection is lost, or the worker is interrupted. -/
def Take.lost (take : Take) : Bool :=
  match nextQueueItem take with
  | .error _ => true
  | .ok _ => false

/-- The worker survived: it handled the message of every take and waits for the next one, or it was
interrupted, or it handled every message until the connection was lost. -/
def Survived (takes : List Take) : List Text × Ending → Prop
  | (handled, .waiting) => handled = messages takes
  | (_, .interrupted) => True
  | (handled, .raised _) => ∃ before take after, takes = before ++ take :: after ∧
    take.lost = true ∧ handled = messages before

/-- A message that a turn can begin with: one that cannot be parsed, or an object. -/
def Parsable (json : Text → Option Json) (payload : Text) : Prop :=
  ∀ value ∈ json payload, ∃ data, value = .dict data

/-- The calls of a turn raise nothing but an `Exception` or an interrupt. -/
def Tame {σ : Type} (serve : (call : LoopCall) → Effect σ PyError call.Answer) : Prop :=
  ∀ call s exc s', (serve call).run s = (.error exc, s') → exc.severity ≠ .baseException

/-! ### What a turn raises -/

section Raising

variable {α : Type} {tolerable : PyError → Prop}

/-- A turn whose calls raise nothing but tolerable errors does not raise others itself. -/
abbrev RaisesOnly (tolerable : PyError → Prop) (work : LoopWork α) : Prop :=
  work.Within (fun _ => True) tolerable

theorem raisesOnly_issue (call : LoopCall) : RaisesOnly tolerable (issue call) :=
  Program.Within.perform trivial

theorem raisesOnly_pure (a : α) : RaisesOnly tolerable (pure a) := trivial

theorem raisesOnly_optionally {condition : Bool} {work : LoopWork Unit}
    (h : RaisesOnly tolerable work) : RaisesOnly tolerable (optionally condition work) := by
  rw [optionally]
  split
  · exact h
  · trivial

theorem raisesOnly_guarded {handler : PyError → LoopWork α} {work : LoopWork α}
    (hwork : RaisesOnly tolerable work)
    (hhandler : ∀ exc, tolerable exc → RaisesOnly tolerable (handler exc)) :
    RaisesOnly tolerable (guarded handler work) := by
  refine Program.Within.rescue hwork fun exc hexc => ?_
  split
  · exact hhandler exc hexc
  · exact hexc

theorem raisesOnly_inTurn {work : Work α} (h : work.Within (fun _ => True) tolerable) :
    RaisesOnly tolerable (inTurn work) := by
  induction work with
  | done a => trivial
  | raise exc => exact h
  | call call next ih => exact ⟨trivial, fun answer hanswer => ih answer (h.2 answer hanswer)⟩

theorem raisesOnly_recordEnd (requestType : Text) (exc : PyError) :
    RaisesOnly tolerable (recordEnd requestType exc) :=
  Program.Within.bind (raisesOnly_issue _) fun _ => raisesOnly_issue _

/-- What is guarded does not raise an `Exception`. -/
theorem severity_of_guarded {σ : Type}
    {serve : (call : LoopCall) → Effect σ PyError call.Answer} {work : LoopWork Unit} {s s' : σ}
    {exc : PyError}
    (h : ((guarded (fun _ => pure ()) work).exec serve).run s = (.error exc, s')) :
    exc.severity ≠ .exception := by
  rw [guarded, Program.exec_rescue, Effect.rescue, Effect.run_ofState] at h
  split at h
  · cases h
  · split at h
    · cases h
    · cases h
      assumption

variable [PyRuntime] [PyNumerals]

theorem raisesOnly_reportStart (data : Dict) : RaisesOnly tolerable (inTurn (reportStart data)) := by
  apply raisesOnly_inTurn
  rw [reportStart]
  split
  · exact Program.Within.perform trivial
  · trivial

theorem raisesOnly_reportEnd (data : Dict) (success : Bool) (errorMessage : Option Text) :
    RaisesOnly tolerable (inTurn (reportEnd data success errorMessage)) := by
  apply raisesOnly_inTurn
  rw [reportEnd]
  split
  · exact Program.Within.perform trivial
  · trivial

theorem raisesOnly_handleJobMeasured (data : Dict) :
    RaisesOnly tolerable (handleJobMeasured data) := by
  rw [handleJobMeasured]
  split
  · refine Program.Within.bind (raisesOnly_guarded (raisesOnly_issue _) fun exc hexc => ?_)
      fun result => Program.Within.bind (raisesOnly_issue _) fun _ => trivial
    exact Program.Within.bind (raisesOnly_recordEnd _ exc) fun _ => hexc
  · refine Program.Within.bind (raisesOnly_reportStart data) fun _ => ?_
    refine Program.Within.bind (raisesOnly_guarded (raisesOnly_issue _) fun exc hexc => ?_)
      fun result => ?_
    · refine Program.Within.bind (raisesOnly_reportEnd data _ _) fun _ => ?_
      exact Program.Within.bind (raisesOnly_recordEnd _ exc) fun _ => hexc
    · refine Program.Within.bind (raisesOnly_reportEnd data _ _) fun _ => ?_
      exact Program.Within.bind (raisesOnly_issue _) fun _ => trivial

omit [PyRuntime] [PyNumerals] in
theorem raisesOnly_extractContext (tracing : Tracing) (data : Dict) :
    RaisesOnly tolerable (extractContext tracing data) := by
  refine raisesOnly_guarded ?_ fun _ _ => raisesOnly_pure _
  split
  · exact Program.Within.bind (raisesOnly_issue _) fun _ => raisesOnly_pure _
  · trivial

theorem raisesOnly_handleJobInSpan (data : Dict) :
    RaisesOnly tolerable (handleJobInSpan data) := by
  refine raisesOnly_guarded (Program.Within.bind (raisesOnly_issue _) fun recording => ?_)
    fun exc hexc => hexc
  refine Program.Within.bind (raisesOnly_optionally ?_) fun _ =>
    Program.Within.bind (raisesOnly_handleJobMeasured data) fun _ => raisesOnly_pure _
  exact Program.Within.bind (raisesOnly_issue _) fun _ =>
    Program.Within.bind (raisesOnly_issue _) fun _ => raisesOnly_issue _

theorem raisesOnly_handleTraced (tracing : Tracing) (data : Dict) :
    RaisesOnly tolerable (handleTraced tracing data) := by
  refine Program.Within.bind (raisesOnly_optionally (raisesOnly_issue _)) fun _ => ?_
  refine Program.Within.bind (raisesOnly_extractContext tracing data) fun continued => ?_
  split
  · refine Program.Within.bind (raisesOnly_issue _) fun _ => ?_
    refine Program.Within.bind (raisesOnly_issue _) fun _ => ?_
    exact Program.Within.ensure (raisesOnly_handleJobInSpan data) (raisesOnly_issue _)
  · exact Program.Within.bind (raisesOnly_handleJobMeasured data) fun _ => raisesOnly_pure _

/-- A turn that begins with a message raises nothing but what leaves its handlers. -/
theorem severity_of_turn {σ : Type} {serve : (call : LoopCall) → Effect σ PyError call.Answer}
    {tracing : Tracing} {json : Text → Option Json} {payload : Text}
    (hparsable : Parsable json payload)
    (hserve : ∀ call s exc s', (serve call).run s = (.error exc, s') → tolerable exc) {s s' : σ}
    {exc : PyError} (h : ((turn tracing json payload).exec serve).run s = (.error exc, s')) :
    tolerable exc ∧ exc.severity ≠ .exception := by
  rw [turn] at h
  cases hjson : json payload with
  | none =>
    rw [hjson] at h
    cases (Prod.mk.inj h).1
  | some value =>
    obtain ⟨data, rfl⟩ := hparsable value hjson
    rw [hjson] at h
    refine ⟨?_, severity_of_guarded h⟩
    exact Program.Within.of_exec
      (raisesOnly_guarded (raisesOnly_handleTraced tracing data) fun _ _ => raisesOnly_pure ())
      hserve h

end Raising

/-! ### Survival -/

section Survival

theorem messages_cons (take : Take) (takes : List Take) :
    messages (take :: takes) = messages [take] ++ messages takes := by
  rw [messages, ← List.singleton_append, List.filterMap_append]
  rfl

theorem nextQueueItem_of_not_lost {take : Take} (h : take.lost = false) :
    nextQueueItem take = .ok (messages [take]).head? ∧ (messages [take]).length ≤ 1 := by
  cases take with
  | message payload => exact ⟨rfl, Nat.le_refl 1⟩
  | nothing => exact ⟨rfl, Nat.zero_le 1⟩
  | raised exc =>
    refine ⟨?_, Nat.zero_le 1⟩
    rw [Take.lost, nextQueueItem] at h
    rw [nextQueueItem]
    split
    · rfl
    · rename_i hother
      rw [if_neg hother] at h
      cases h

/-- After a take that does not end the loop, the worker survives as before it. -/
theorem survived_cons {take : Take} (hlost : take.lost = false) {takes : List Take}
    {run : List Text × Ending} :
    Survived (take :: takes) (messages [take] ++ run.1, run.2) ↔ Survived takes run := by
  obtain ⟨handled, ending⟩ := run
  cases ending with
  | waiting =>
    simp only [Survived]
    rw [messages_cons take takes]
    exact List.append_right_inj _
  | interrupted => exact Iff.rfl
  | raised exc =>
    constructor
    · rintro ⟨before, last, after, htakes, hlast, hhandled⟩
      cases before with
      | nil =>
        -- the take would be the one that ends the loop
        cases htakes
        rw [hlost] at hlast
        cases hlast
      | cons first before =>
        cases htakes
        rw [messages_cons take before, List.append_right_inj] at hhandled
        exact ⟨before, last, after, rfl, hlast, hhandled⟩
    · rintro ⟨before, last, after, rfl, hlast, rfl⟩
      exact ⟨take :: before, last, after, rfl, hlast, (messages_cons take before).symm⟩

variable [PyRuntime] [PyNumerals] {tracing : Tracing} {json : Text → Option Json} {σ : Type}
  {serve : (call : LoopCall) → Effect σ PyError call.Answer} {takes : List Take}

/-- The messages that are taken before the loop ends. -/
abbrev reachable (takes : List Take) : List Text :=
  messages (takes.takeWhile fun take => !take.lost)

theorem workerLoop_message {payload : Text} {s s' : σ}
    (hturn : ((turn tracing json payload).exec serve).run s = (.ok (), s')) :
    workerLoop tracing json serve (.message payload :: takes) s =
      (messages [.message payload] ++ (workerLoop tracing json serve takes s').1,
        (workerLoop tracing json serve takes s').2) := by
  simp only [workerLoop, nextQueueItem, hturn]
  rfl

theorem workerLoop_skip {take : Take} (hlost : take.lost = false) (hnone : messages [take] = [])
    (s : σ) : workerLoop tracing json serve (take :: takes) s =
      workerLoop tracing json serve takes s := by
  have hnext := (nextQueueItem_of_not_lost hlost).1
  rw [hnone] at hnext
  simp only [workerLoop, hnext, List.head?_nil]

/-- The worker survives messages that a turn can begin with. -/
theorem survived_of_parsable (htame : Tame serve)
    (hparsable : ∀ payload ∈ reachable takes, Parsable json payload) (s : σ) :
    Survived takes (workerLoop tracing json serve takes s) := by
  induction takes generalizing s with
  | nil => rfl
  | cons take takes ih =>
    cases hlost : take.lost with
    | true =>
      obtain ⟨exc, hexc⟩ : ∃ exc, nextQueueItem take = .error exc := by
        rw [Take.lost] at hlost
        split at hlost
        · exact ⟨_, ‹_›⟩
        · cases hlost
      simp only [workerLoop, hexc, Ending.ofError]
      split
      · trivial
      · exact ⟨[], take, takes, rfl, hlost, rfl⟩
    | false =>
      rw [reachable, List.takeWhile_cons_of_pos (by rw [hlost]; rfl), messages_cons] at hparsable
      have hrest : ∀ payload ∈ reachable takes, Parsable json payload := fun payload hpayload =>
        hparsable payload (List.mem_append_right _ hpayload)
      cases hmessage : messages [take] with
      | nil =>
        have hsurvived := (survived_cons hlost).mpr (ih hrest s)
        rw [hmessage, List.nil_append] at hsurvived
        rwa [workerLoop_skip hlost hmessage]
      | cons payload others =>
        obtain rfl : take = .message payload := by
          cases take <;> simp [messages] at hmessage
          rw [hmessage.1]
        cases hturn : ((turn tracing json payload).exec serve).run s with
        | mk outcome s' =>
          cases outcome with
          | ok value =>
            rw [workerLoop_message hturn]
            exact (survived_cons hlost).mpr (ih hrest s')
          | error exc =>
            -- only an interrupt gets out of the turn
            have hseverity := severity_of_turn
              (hparsable payload (List.mem_append_left _ List.mem_cons_self)) htame hturn
            have hinterrupt : exc.severity = .keyboardInterrupt := by
              cases h : exc.severity with
              | keyboardInterrupt => rfl
              | exception => exact absurd h hseverity.2
              | baseException => exact absurd h hseverity.1
            simp only [workerLoop, nextQueueItem, hturn, Ending.ofError]
            rw [if_pos hinterrupt]
            trivial

/-! ### Services that serve every call -/

/-- An answer to a call. -/
def quietAnswer : (call : LoopCall) → call.Answer
  | .job (.setStarted ..) | .job (.setCompleted ..) => ()
  | .job (.handleEtlJob _) | .job (.handleTestDataJob _) => ([] : Dict)
  | .isRecording => true
  | .getTracer | .extract _ | .startSpan _ | .enterSpan | .setAttribute .. | .exitSpan
  | .recordRequest .. | .recordFailure .. => ()

def quiet (call : LoopCall) : Effect Unit PyError call.Answer := pure (quietAnswer call)

omit [PyRuntime] [PyNumerals] in
theorem tame_quiet : Tame quiet := by
  intro call s exc s' h
  cases (Prod.mk.inj h).1

theorem turn_quiet {payload : Text} (hparsable : Parsable json payload) :
    ((turn tracing json payload).exec quiet).run () = (.ok (), ()) := by
  cases hturn : ((turn tracing json payload).exec quiet).run () with
  | mk outcome s' =>
    cases outcome with
    | ok value => rfl
    | error exc =>
      have hnever : ∀ call s exc s', (quiet call).run s = (.error exc, s') → False := by
        intro call s exc s' h
        cases (Prod.mk.inj h).1
      exact (severity_of_turn hparsable hnever hturn).1.elim

/-- A turn cannot begin with another message. -/
theorem turn_of_not_parsable {payload : Text} (h : ¬Parsable json payload) (tracing : Tracing)
    (serve : (call : LoopCall) → Effect σ PyError call.Answer) (s : σ) :
    ∃ exc, exc.severity = .exception ∧
      ((turn tracing json payload).exec serve).run s = (.error exc, s) := by
  refine ⟨.builtin "AttributeError" "object has no attribute 'get'", rfl, ?_⟩
  rw [turn]
  cases hjson : json payload with
  | none => exact absurd (fun value hvalue => by rw [hjson] at hvalue; cases hvalue) h
  | some value =>
    cases value with
    | scalar value => rfl
    | list items => rfl
    | dict data =>
      refine absurd (fun value hvalue => ?_) h
      rw [hjson] at hvalue
      exact ⟨data, (Option.some.inj hvalue).symm⟩

/-- Where every call is served, a worker that survives could begin a turn with every message. -/
theorem parsable_of_survived (h : Survived takes (workerLoop tracing json quiet takes ())) :
    ∀ payload ∈ reachable takes, Parsable json payload := by
  induction takes with
  | nil => exact fun payload hpayload => absurd hpayload List.not_mem_nil
  | cons take takes ih =>
    cases hlost : take.lost with
    | true =>
      intro payload hpayload
      rw [reachable, List.takeWhile_cons_of_neg (by rw [hlost]; exact Bool.false_ne_true)] at hpayload
      exact absurd hpayload List.not_mem_nil
    | false =>
      rw [reachable, List.takeWhile_cons_of_pos (by rw [hlost]; rfl), messages_cons]
      cases hmessage : messages [take] with
      | nil =>
        rw [workerLoop_skip hlost hmessage] at h
        exact ih ((survived_cons hlost).mp (by rwa [hmessage]))
      | cons first others =>
        obtain rfl : take = .message first := by
          cases take <;> simp [messages] at hmessage
          rw [hmessage.1]
        have hfirst : Parsable json first := by
          by_contra hnot
          obtain ⟨exc, hseverity, hturn⟩ := turn_of_not_parsable hnot tracing quiet ()
          -- the loop ended with nothing handled, though this take did not end it
          simp only [workerLoop, nextQueueItem, hturn, Ending.ofError] at h
          rw [if_neg (by rw [hseverity]; nofun)] at h
          obtain ⟨before, last, after, htakes, hlast, hhandled⟩ := h
          cases before with
          | nil =>
            cases htakes
            rw [hlost] at hlast
            cases hlast
          | cons first' before =>
            cases htakes
            cases hhandled
        rw [workerLoop_message (turn_quiet hfirst)] at h
        have hrest := ih ((survived_cons hlost).mp h)
        rw [← hmessage]
        intro payload hpayload
        obtain hpayload | hpayload := List.mem_append.mp hpayload
        · rw [List.mem_singleton.mp hpayload]
          exact hfirst
        · exact hrest payload hpayload

/-- The worker survives a sequence of takes, whatever its calls do short of ending the process,
exactly where every message before the end of the connection is an object or cannot be parsed. -/
theorem survives_iff_parsable (tracing : Tracing) (json : Text → Option Json) (takes : List Take) :
    (∀ (σ : Type) (serve : (call : LoopCall) → Effect σ PyError call.Answer) (s : σ), Tame serve →
      Survived takes (workerLoop tracing json serve takes s)) ↔
    ∀ payload ∈ reachable takes, Parsable json payload :=
  ⟨fun h => parsable_of_survived (h Unit quiet () tame_quiet),
    fun h _ _ s htame => survived_of_parsable htame h s⟩

end Survival

/-! ### A list on the queue -/

section Sample

local instance sampleRuntimeLoop : PyRuntime := .ascii (fun _ => .nan) (fun _ => [])

local instance sampleNumeralsLoop : PyNumerals := ⟨fun _ => none, fun _ => none, id⟩

def emptyValues (payload : Text) : Option Json :=
  if payload = "[]" then some (.list [])
  else if payload = "{}" then some (.dict [])
  else none

/-- A message that is the empty list ends the loop, and the next message is not taken, though every
call is served. -/
theorem list_ends_loop :
    let takes : List Take := [.message "[]", .message "{}"]
    let run := workerLoop ⟨false, false⟩ emptyValues quiet takes ()
    Tame quiet ∧ run.1 = [] ∧ ¬Survived takes run := by
  refine ⟨tame_quiet, by rfl, fun h => ?_⟩
  obtain ⟨data, hdata⟩ := parsable_of_survived h "[]" (by decide) (.list []) rfl
  cases hdata

end Sample

end Profiling

end DqMadeEasy
