import DqMadeEasy.Dispatch.Queue
import DqMadeEasy.Dispatch.Relay

/-!
# Delivery

In every run in which dispatches return only for settled messages, and recoveries find no other
worker with a message, messages are accounted for and recoveries spare the other workers. Without
the first condition a dispatch that returns takes its message out of the lists with its run open;
without the second a worker that starts requeues what the others are processing. A message whose run
the API does not know is never discarded: it stays in the processing list, and every restart brings
it back to the queue.
-/

namespace DqMadeEasy

namespace Dispatch

open Worker Transition

section Conservation

variable {Id : Type} {s : System Id}

/-- No message is in the lists more often than it was pushed, and workers hold pushed messages. -/
structure Conserved (s : System Id) : Prop where
  copies : ∀ message, (s.queue ++ s.inProcess).count message ≤ s.pushed.count message
  held : ∀ worker message, (s.phase worker).message? = some message → message ∈ s.pushed

namespace Conserved

theorem setPhase [DecidableEq Id] (h : Conserved s) {worker : Id} {phase : Phase}
    (hphase : ∀ message, phase.message? = some message → message ∈ s.pushed) :
    Conserved (s.setPhase worker phase) where
  copies := h.copies
  held := by
    intro other message hheld
    by_cases hother : other = worker
    · subst hother
      rw [System.setPhase_self] at hheld
      exact hphase message hheld
    · rw [System.setPhase_of_ne s hother] at hheld
      exact h.held other message hheld

/-- A worker that lets go of a message, or goes on with the one it holds. -/
theorem proceed [DecidableEq Id] (h : Conserved s) {worker : Id} {phase : Phase}
    (hphase : ∀ message, phase.message? = some message →
      (s.phase worker).message? = some message) : Conserved (s.setPhase worker phase) :=
  h.setPhase fun message hheld => h.held worker message (hphase message hheld)

theorem move (h : Conserved s) {queue inProcess : List Text}
    (hperm : (queue ++ inProcess).Perm (s.queue ++ s.inProcess)) :
    Conserved { s with queue, inProcess } where
  copies := fun message => (hperm.count_eq message).trans_le (h.copies message)
  held := h.held

theorem lrem (h : Conserved s) (executed : Bool) (message : Text) :
    Conserved (s.lrem executed message) where
  copies := by
    intro other
    have hsub : (s.lrem executed message).inProcess.Sublist s.inProcess := by
      cases executed
      · exact List.Sublist.refl _
      · exact List.erase_sublist
    exact ((hsub.append_left s.queue).count_le other).trans (h.copies other)
  held := h.held

theorem mem_pushed (h : Conserved s) {message : Text} (hmem : message ∈ s.queue ++ s.inProcess) :
    message ∈ s.pushed :=
  List.count_pos_iff.mp ((List.count_pos_iff.mpr hmem).trans_le (h.copies message))

/-- What a take does to the lists. -/
theorem take (h : Conserved s) {rest : List Text} {message : Text}
    (hlast : s.queue = rest ++ [message]) :
    Conserved { s with queue := rest, inProcess := message :: s.inProcess } := by
  refine h.move (.of_eq ?_)
  rw [hlast, List.append_assoc, List.singleton_append]

theorem step [DecidableEq Id] [PyRuntime] [PyNumerals] {World Frame : Type}
    {V : Services World Frame} {config : Config} (h : Conserved s) {e : Event Id} {s' : System Id}
    (hstep : Step V config s e s') : Conserved s' := by
  have hrecord (sent : List Exchange) : Conserved (s.record sent) := ⟨h.copies, h.held⟩
  cases hstep with
  | push message =>
    constructor
    · intro other
      have hcopies := h.copies other
      show (message :: (s.queue ++ s.inProcess)).count other ≤ (message :: s.pushed).count other
      rw [List.count_cons, List.count_cons]
      omega
    · exact fun worker other hheld => List.mem_cons_of_mem _ (h.held worker other hheld)
  | start _ => exact h.setPhase nofun
  | @recover worker rest message _ hlast =>
    refine h.move ?_
    rw [hlast, List.cons_append, ← List.append_assoc]
    exact (List.perm_append_singleton _ _).symm
  | recovered _ => exact h.setPhase nofun
  | @take worker rest message _ hlast =>
    refine (h.take hlast).setPhase fun other hother => ?_
    cases hother
    exact h.mem_pushed (by rw [hlast]; simp)
  | takeLost _ hlast => exact h.take hlast
  | returns _ hphase _ => exact (hrecord _).proceed fun _ hheld => hphase ▸ hheld
  | raises _ hphase _ _ => exact (hrecord _).proceed fun _ hheld => hphase ▸ hheld
  | interrupted _ => exact (hrecord _).setPhase nofun
  | remove _ => exact (h.lrem true _).setPhase nofun
  | removeFails executed _ hphase =>
    exact (h.lrem executed _).proceed fun _ hheld => hphase ▸ hheld
  | report _ hphase _ => exact (hrecord _).proceed fun _ hheld => hphase ▸ hheld
  | @settle _ _ _ failClosed executed _ =>
    refine (h.lrem _ _).setPhase fun _ hheld => ?_
    cases failClosed <;> cases hheld
  | crash _ => exact (hrecord _).setPhase nofun

end Conserved

end Conservation

section Delivery

variable {Id World Frame : Type} [DecidableEq Id] (V : Services World Frame) (config : Config)
variable [PyRuntime] [PyNumerals]

/-- Careful runs keep every message accounted for, and their recoveries spare other workers. -/
theorem careful_runs_deliver {events : List (Event Id)} {s : System Id}
    (h : Runs (Step V config) (Careful V) .initial events s) :
    Accounted V s ∧ ∀ e s', Step V config s e s' → Careful V s e → SparesOthers s e := by
  have hsound : Sound V s :=
    h.invariant Sound.initial fun _ _ _ hs hstep hcareful => hs.step config hstep hcareful
  refine ⟨hsound.accounted, ?_⟩
  intro e s' _ hcareful
  cases e with
  | recover worker message =>
    intro other hother hholds
    rw [hcareful other hother] at hholds
    cases hholds
  | _ => trivial

/-- Whatever the workers do, and wherever they stop, no message is duplicated in the lists, and none
is processed that was not pushed. -/
theorem messages_conserved {events : List (Event Id)} {s : System Id}
    (h : Runs (Step V config) (fun _ _ => True) .initial events s) : Conserved s :=
  h.invariant ⟨fun _ => Nat.le_refl _, nofun⟩ fun _ _ _ hs hstep _ => hs.step hstep

/-- A recovery that is not disturbed moves the whole processing list in front of the queue. -/
theorem recover_all {worker : Id} (inProcess : List Text) :
    ∀ s : System Id, s.inProcess = inProcess → s.phase worker = .recovering →
      ∃ events, Runs (Step V config) (fun _ _ => True) s events
        { s with queue := inProcess ++ s.queue, inProcess := [] } := by
  induction inProcess using List.reverseRecOn with
  | nil =>
    intro s hlist _
    refine ⟨[], ?_⟩
    rw [List.nil_append, ← hlist]
    exact .refl
  | append_singleton rest last ih =>
    intro s hlist hphase
    have hstep : Step V config s (.recover worker last)
        { s with queue := last :: s.queue, inProcess := rest } := .recover hphase hlist
    obtain ⟨events, hrun⟩ := ih { s with queue := last :: s.queue, inProcess := rest } rfl hphase
    refine ⟨.recover worker last :: events, .cons hstep trivial ?_⟩
    rw [List.append_assoc]
    exact hrun

theorem restart (s : System Id) (worker : Id) :
    ∃ events, Runs (Step V config) (fun _ _ => True) s events (s.setPhase worker .recovering) := by
  have hcrash : Step V config s (.crash worker) ((s.record []).setPhase worker .down) :=
    .crash .nothing
  have hstart : Step V config ((s.record []).setPhase worker .down) (.start worker)
      (((s.record []).setPhase worker .down).setPhase worker .recovering) :=
    .start (System.setPhase_self ..)
  refine ⟨[.crash worker, .start worker], .cons hcrash trivial (.one ?_ trivial)⟩
  have hsame : ((s.record []).setPhase worker .down).setPhase worker .recovering =
      s.setPhase worker .recovering := by
    rw [System.setPhase, System.setPhase, System.setPhase, System.record, List.append_nil,
      Function.update_idem]
  rw [← hsame]
  exact hstart

/-- A worker whose failure report is answered with 404 does not remove its message, and a restart
moves the message back to the queue. -/
theorem poison_message_stays {s s₁ s₂ : System Id} {worker : Id} {message : Text} {exc : PyError}
    {sent : List Exchange} {runId : Text} (hphase : s.phase worker = .raised message exc)
    (hreport : Step V config s (.report worker sent) s₁)
    (hunknown : ∃ e ∈ sent, e.unknownRun runId = true)
    (hsettle : Step V config s₁ (.settle worker) s₂) :
    s₂.inProcess = s.inProcess ∧
      (message ∈ s.inProcess → ∃ s₃ events, Runs (Step V config) (fun _ _ => True) s₂ events s₃ ∧
        message ∈ s₃.queue) := by
  have hkept : s₂.inProcess = s.inProcess := by
    cases hreport with
    | @report _ message' exc' world remove wire hraised hrun =>
      rw [hphase] at hraised
      cases hraised
      obtain ⟨e, he, hunknown⟩ := hunknown
      have hsent : ((reportFailure V message exc).run (freshWire world)).2.exchanges =
          (freshWire world).exchanges ++ wire.exchanges := by
        rw [hrun]
        rfl
      have houtcome := reportFailure_of_unknownRun V hsent he hunknown
      rw [hrun] at houtcome
      cases houtcome
      cases hsettle with
      | settle executed hsettling =>
        rw [System.setPhase_self] at hsettling
        cases hsettling
        rfl
  refine ⟨hkept, ?_⟩
  intro hmem
  obtain ⟨events, hrestart⟩ := restart V config s₂ worker
  obtain ⟨events', hrecover⟩ := recover_all V config s₂.inProcess (s₂.setPhase worker .recovering)
    rfl (System.setPhase_self ..)
  refine ⟨_, _, hrestart.append hrecover, ?_⟩
  rw [hkept]
  exact List.mem_append_left _ hmem

end Delivery

section Example

local instance sampleRuntimeDelivery : PyRuntime := sampleRuntimeDispatch

local instance sampleNumeralsDelivery : PyNumerals := sampleNumeralsDispatch

def pushedSystem (message : Text) : System Bool :=
  { System.initial with queue := [message], pushed := [message] }

/-- The first worker is up and has found nothing to recover. -/
def idleSystem (message : Text) : System Bool :=
  ((pushedSystem message).setPhase true .recovering).setPhase true .idle

def takenSystem (message : Text) : System Bool :=
  System.setPhase { idleSystem message with queue := [], inProcess := [message] } true
    (.processing message)

theorem takenSystem_run {World Frame : Type} (V : Services World Frame) (config : Config)
    (message : Text) :
    Runs (Step V config) (Careful V) .initial
      [.push message, .start true, .recovered true, .take true message] (takenSystem message) := by
  have hqueue : (idleSystem message).queue = [] ++ [message] := rfl
  have hpush : Step V config .initial (.push message) (pushedSystem message) := .push _ message
  have hstart : Step V config (pushedSystem message) (.start true)
      ((pushedSystem message).setPhase true .recovering) := .start rfl
  have hidle : Step V config ((pushedSystem message).setPhase true .recovering) (.recovered true)
      (idleSystem message) := .recovered (System.setPhase_self ..)
  have htake : Step V config (idleSystem message) (.take true message) (takenSystem message) :=
    .take (System.setPhase_self ..) hqueue
  exact .cons hpush trivial (.cons hstart trivial (.cons hidle trivial (.one htake trivial)))

theorem careful_runs_deliver_sample :
    Accounted sampleServices (takenSystem sampleMessage) :=
  (careful_runs_deliver sampleServices sampleConfig
    (takenSystem_run sampleServices sampleConfig sampleMessage)).1

theorem messages_conserved_sample : Conserved (takenSystem sampleMessage) :=
  messages_conserved sampleServices sampleConfig
    ((takenSystem_run sampleServices sampleConfig sampleMessage).mono fun _ _ _ => trivial)

def returnedSystem (message : Text) (sent : List Exchange) : System Bool :=
  ((takenSystem message).record sent).setPhase true (.returned message)

def removedSystem (message : Text) (sent : List Exchange) : System Bool :=
  ((returnedSystem message sent).lrem true message).setPhase true .idle

theorem settled_of_accounted {World Frame : Type} {V : Services World Frame} {message : Text}
    {sent : List Exchange} (h : Accounted V (removedSystem message sent)) :
    Settled V sent message := by
  have hempty : (removedSystem message sent).inProcess = [] := List.erase_cons_head ..
  rcases h message List.mem_cons_self with hqueue | hprocess | hsettled
  · cases hqueue
  · rw [hempty] at hprocess
    cases hprocess
  · exact hsettled

/-- A run that loses its message, and a recovery that requeues a message in process. -/
theorem delivery_counterexample :
    (∃ events s, Runs (Step sampleServices sampleConfig) (fun _ _ => True)
        (.initial : System Bool) events s ∧ ¬Accounted sampleServices s) ∧
    ∃ events s e s', Runs (Step sampleServices sampleConfig) (fun _ _ => True)
        (.initial : System Bool) events s ∧ Step sampleServices sampleConfig s e s' ∧
      ¬SparesOthers s e := by
  have htaken : Runs (Step sampleServices sampleConfig) (fun _ _ => True) .initial
      [.push sampleMessage, .start true, .recovered true, .take true sampleMessage]
      (takenSystem sampleMessage) :=
    (takenSystem_run sampleServices sampleConfig sampleMessage).mono fun _ _ _ => trivial
  constructor
  · obtain ⟨wire, hwire, hunsettled⟩ := sample_unsettled
    have hreturn : Step sampleServices sampleConfig (takenSystem sampleMessage)
        (.returns true sampleMessage) (returnedSystem sampleMessage wire.exchanges) :=
      .returns () (System.setPhase_self ..) hwire
    have hremove : Step sampleServices sampleConfig (returnedSystem sampleMessage wire.exchanges)
        (.remove true sampleMessage) (removedSystem sampleMessage wire.exchanges) :=
      .remove (System.setPhase_self ..)
    refine ⟨_, _, .snoc (.snoc htaken hreturn trivial) hremove trivial, ?_⟩
    intro haccounted
    obtain ⟨e, he, hsettled⟩ := settled_of_accounted haccounted
    obtain ⟨hends, hknown⟩ := hunsettled e he (messageRunId sampleServices sampleMessage)
    rcases hsettled with ⟨hend, _⟩ | hunknown
    · rw [hends] at hend
      cases hend
    · rw [hknown] at hunknown
      cases hunknown
  · have hstart : Step sampleServices sampleConfig (takenSystem sampleMessage) (.start false)
        ((takenSystem sampleMessage).setPhase false .recovering) := .start rfl
    have hlist : ((takenSystem sampleMessage).setPhase false .recovering).inProcess =
        [] ++ [sampleMessage] := rfl
    have hrecover : Step sampleServices sampleConfig
        ((takenSystem sampleMessage).setPhase false .recovering) (.recover false sampleMessage)
        { (takenSystem sampleMessage).setPhase false .recovering with
          queue := [sampleMessage], inProcess := [] } := .recover (System.setPhase_self ..) hlist
    refine ⟨_, _, _, _, .snoc htaken hstart trivial, hrecover, ?_⟩
    intro hspares
    exact hspares true (by decide) rfl

/-- The sample services, of an API that knows no run. -/
def forgetfulServices : Services Unit (List RowValue) :=
  { sampleServices with
    request := fun request _ => match request with
      | .report _ _ => (.response 404 [] .null, ())
      | _ => (.response 200 [] .null, ()) }

/-- The exception of the engine message. -/
def sampleException : PyError :=
  .builtin "AttributeError" "'coroutine' object has no attribute 'get'"

def raisedSystem (sent : List Exchange) : System Bool :=
  ((takenSystem sampleEngineMessage).record sent).setPhase true
    (.raised sampleEngineMessage sampleException)

def settlingSystem (sent reported : List Exchange) : System Bool :=
  ((raisedSystem sent).record reported).setPhase true (.settling sampleEngineMessage false false)

/-- The loop body ended with the message where it was. -/
def poisonedSystem (sent reported : List Exchange) : System Bool :=
  ((settlingSystem sent reported).lrem (false && true) sampleEngineMessage).setPhase true .idle

/-- The steps until the failure report of the engine message is answered with 404. -/
theorem poisonedSystem_run : ∃ sent reported,
    Step forgetfulServices sampleConfig (takenSystem sampleEngineMessage)
      (.raises true sampleEngineMessage) (raisedSystem sent) ∧
    Step forgetfulServices sampleConfig (raisedSystem sent) (.report true reported)
      (settlingSystem sent reported) ∧
    Step forgetfulServices sampleConfig (settlingSystem sent reported) (.settle true)
      (poisonedSystem sent reported) ∧
    ∃ e ∈ reported, e.unknownRun (messageRunId forgetfulServices sampleEngineMessage) = true := by
  have hparse : parseDispatchPayload forgetfulServices.json sampleEngineMessage =
      .ok sampleEnginePayload := sampleEngineMessage_parses
  have hopen : sampleException.shouldFailClosedWorker = false := by decide +kernel
  have hdispatch := run_engine_dispatch forgetfulServices sampleConfig hparse (by decide +kernel) (by decide +kernel) (freshWire ())
  have hreport : ((reportFailure forgetfulServices sampleEngineMessage sampleException).run
      (freshWire ())).1.toOption = some false := by decide +kernel
  have hunknown : ((reportFailure forgetfulServices sampleEngineMessage sampleException).run
      (freshWire ())).2.exchanges.any (fun e =>
        e.unknownRun (messageRunId forgetfulServices sampleEngineMessage)) = true := by
    decide +kernel
  cases hrun : (processDispatchMessage forgetfulServices sampleConfig sampleEngineMessage).run
      (freshWire ()) with
  | mk outcome wire =>
    cases hrun' : (reportFailure forgetfulServices sampleEngineMessage sampleException).run
        (freshWire ()) with
    | mk outcome' wire' =>
      rw [hrun] at hdispatch
      rw [hrun'] at hreport hunknown
      dsimp only at hdispatch
      subst hdispatch
      cases outcome' with
      | error e => cases hreport
      | ok remove =>
        cases hreport
        have hstep : Step forgetfulServices sampleConfig (raisedSystem wire.exchanges)
            (.report true wire'.exchanges) (((raisedSystem wire.exchanges).record
              wire'.exchanges).setPhase true (.settling sampleEngineMessage false
                sampleException.shouldFailClosedWorker)) :=
          .report () (System.setPhase_self ..) hrun'
        rw [hopen] at hstep
        refine ⟨wire.exchanges, wire'.exchanges,
          .raises () (System.setPhase_self ..) hrun (by decide), hstep,
          .settle true (System.setPhase_self ..), ?_⟩
        simpa using hunknown

def takes (message : Text) : Event Bool → Bool
  | .take _ other => other == message
  | _ => false

theorem poison_message_stays_sample : ∃ sent reported,
    (poisonedSystem sent reported).inProcess = (raisedSystem sent).inProcess := by
  obtain ⟨sent, reported, _, hreport, hsettle, hunknown⟩ := poisonedSystem_run
  exact ⟨sent, reported, (poison_message_stays forgetfulServices sampleConfig
    (System.setPhase_self ..) hreport hunknown hsettle).1⟩

/-- A message whose run the API does not know is processed twice. -/
theorem poison_counterexample : ∃ events s, Runs (Step forgetfulServices sampleConfig)
      (fun _ _ => True) (.initial : System Bool) events s ∧
    (∃ sent, .report true sent ∈ events ∧
      ∃ e ∈ sent, e.unknownRun (messageRunId forgetfulServices sampleEngineMessage) = true) ∧
    2 ≤ events.countP (takes sampleEngineMessage) := by
  obtain ⟨sent, reported, hraises, hreport, hsettle, hunknown⟩ := poisonedSystem_run
  have htaken : Runs (Step forgetfulServices sampleConfig) (fun _ _ => True) .initial
      [.push sampleEngineMessage, .start true, .recovered true, .take true sampleEngineMessage]
      (takenSystem sampleEngineMessage) :=
    (takenSystem_run forgetfulServices sampleConfig sampleEngineMessage).mono fun _ _ _ => trivial
  have hpoisoned := htaken.append (.cons hraises trivial (.cons hreport trivial
    (.one hsettle trivial)))
  obtain ⟨events, hrestart⟩ := restart forgetfulServices sampleConfig
    (poisonedSystem sent reported) true
  obtain ⟨events', hrecover⟩ := recover_all forgetfulServices sampleConfig
    [sampleEngineMessage] ((poisonedSystem sent reported).setPhase true .recovering) rfl
    (System.setPhase_self ..)
  generalize hs : { (poisonedSystem sent reported).setPhase true .recovering with
    queue := [sampleEngineMessage] ++ ((poisonedSystem sent reported).setPhase true
      .recovering).queue, inProcess := [] } = s at hrecover
  have hqueue : (s.setPhase true .idle).queue = [] ++ [sampleEngineMessage] := by
    rw [← hs]
    rfl
  have hidle : Step forgetfulServices sampleConfig s (.recovered true) (s.setPhase true .idle) := by
    refine .recovered ?_
    rw [← hs]
    rfl
  have htake : Step forgetfulServices sampleConfig (s.setPhase true .idle)
      (.take true sampleEngineMessage) _ := .take (System.setPhase_self ..) hqueue
  refine ⟨_, _, (hpoisoned.append (hrestart.append hrecover)).append
    (.cons hidle trivial (.one htake trivial)), ⟨reported, by simp, hunknown⟩, ?_⟩
  simp only [List.countP_append, List.countP_cons, takes, BEq.rfl]
  simp

end Example

end Dispatch

end DqMadeEasy
