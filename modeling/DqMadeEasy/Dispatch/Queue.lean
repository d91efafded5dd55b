import Mathlib.Logic.Function.Basic
import DqMadeEasy.Dispatch.Failure
import DqMadeEasy.Dispatch.Reports
import DqMadeEasy.Logic.Transition

/-!
# The dispatch queue

Several workers share one queue and one processing list. A worker takes a message from the right end
of the queue and puts it on the left of the processing list, processes it, and removes it by its
value. A worker that starts moves whatever the processing list holds back to the queue.

A step is one action of one worker: one command to the message store, one dispatch, or one failure
report. A worker may stop at any point, in the middle of a dispatch or of a report too. The ledger
records the requests of all workers with their answers; each call starts in a world of its own, so
nothing is assumed about how the workers' requests are interleaved.
-/

namespace DqMadeEasy

namespace Dispatch

open Worker Transition

/-- Where a worker stands. -/
inductive Phase where
  | down
  | recovering
  | idle
  | processing (message : Text)
  | returned (message : Text)
  | raised (message : Text) (exc : PyError)
  | settling (message : Text) (remove : Bool) (failClosed : Bool)

/-- The message that a live worker took and has not let go. -/
def Phase.message? : Phase → Option Text
  | .down | .recovering | .idle => none
  | .processing message => some message
  | .returned message => some message
  | .raised message _ => some message
  | .settling message _ _ => some message

/-- The store, the workers and the record of their requests. -/
structure System (Id : Type) where
  queue : List Text
  inProcess : List Text
  phase : Id → Phase
  ledger : List Exchange
  /-- The messages that were ever pushed. -/
  pushed : List Text

/-- The labels of the steps. -/
inductive Event (Id : Type) where
  | push (message : Text)
  | start (worker : Id)
  | recover (worker : Id) (message : Text)
  | recovered (worker : Id)
  | take (worker : Id) (message : Text)
  | takeLost (worker : Id) (message : Text)
  | returns (worker : Id) (message : Text)
  | raises (worker : Id) (message : Text)
  | interrupted (worker : Id)
  | remove (worker : Id) (message : Text)
  | removeFails (worker : Id) (message : Text)
  | report (worker : Id) (sent : List Exchange)
  | settle (worker : Id)
  | crash (worker : Id)

/-- A worker process that has made no request since it turned to a message. -/
def freshWire {World : Type} (world : World) : Wire World := ⟨world, [], [], false⟩

section Steps

variable {Id : Type}

def System.setPhase [DecidableEq Id] (s : System Id) (worker : Id) (phase : Phase) : System Id :=
  { s with phase := Function.update s.phase worker phase }

@[simp] theorem System.setPhase_self [DecidableEq Id] (s : System Id) (worker : Id)
    (phase : Phase) : (s.setPhase worker phase).phase worker = phase :=
  Function.update_self ..

@[simp] theorem System.setPhase_of_ne [DecidableEq Id] (s : System Id) {worker other : Id}
    (h : other ≠ worker) (phase : Phase) : (s.setPhase worker phase).phase other = s.phase other :=
  Function.update_of_ne h ..

/-- The system after requests of a worker. -/
def System.record (s : System Id) (sent : List Exchange) : System Id :=
  { s with ledger := s.ledger ++ sent }

/-- `lrem(processing, 1, message)`, when the store executed it. -/
def System.lrem (s : System Id) (executed : Bool) (message : Text) : System Id :=
  { s with inProcess := if executed then s.inProcess.erase message else s.inProcess }

variable {World Frame : Type} (V : Services World Frame) (config : Config) [PyRuntime] [PyNumerals]

/-- The requests that a worker may have made when it stops. -/
inductive Unfinished (phase : Phase) : List Exchange → Prop
  | nothing : Unfinished phase []
  | dispatch {message : Text} (world : World) {sent : List Exchange} :
      phase = .processing message →
      sent <+: ((processDispatchMessage V config message).run (freshWire world)).2.exchanges →
      Unfinished phase sent
  | report {message : Text} {exc : PyError} (world : World) {sent : List Exchange} :
      phase = .raised message exc →
      sent <+: ((reportFailure V message exc).run (freshWire world)).2.exchanges →
      Unfinished phase sent

/-- The steps of the system. -/
inductive Step [DecidableEq Id] : System Id → Event Id → System Id → Prop
  | push (s : System Id) (message : Text) :
      Step s (.push message) { s with
        queue := message :: s.queue, pushed := message :: s.pushed }
  | start {s : System Id} {worker : Id} : s.phase worker = .down →
      Step s (.start worker) (s.setPhase worker .recovering)
  /-- `rpoplpush(processing, queue)`. -/
  | recover {s : System Id} {worker : Id} {rest : List Text} {message : Text} :
      s.phase worker = .recovering → s.inProcess = rest ++ [message] →
      Step s (.recover worker message) { s with
        queue := message :: s.queue, inProcess := rest }
  /-- The processing list is empty, or the store raised. -/
  | recovered {s : System Id} {worker : Id} : s.phase worker = .recovering →
      Step s (.recovered worker) (s.setPhase worker .idle)
  /-- `brpoplpush(queue, processing)`. -/
  | take {s : System Id} {worker : Id} {rest : List Text} {message : Text} :
      s.phase worker = .idle → s.queue = rest ++ [message] →
      Step s (.take worker message) (System.setPhase { s with
        queue := rest, inProcess := message :: s.inProcess } worker (.processing message))
  /-- The store moved the message and its answer was lost. -/
  | takeLost {s : System Id} {worker : Id} {rest : List Text} {message : Text} :
      s.phase worker = .idle → s.queue = rest ++ [message] →
      Step s (.takeLost worker message) { s with
        queue := rest, inProcess := message :: s.inProcess }
  | returns {s : System Id} {worker : Id} {message : Text} (world : World) {wire : Wire World} :
      s.phase worker = .processing message →
      (processDispatchMessage V config message).run (freshWire world) = (.ok (), wire) →
      Step s (.returns worker message)
        ((s.record wire.exchanges).setPhase worker (.returned message))
  | raises {s : System Id} {worker : Id} {message : Text} (world : World) {exc : PyError}
      {wire : Wire World} : s.phase worker = .processing message →
      (processDispatchMessage V config message).run (freshWire world) = (.error exc, wire) →
      exc.severity ≠ .keyboardInterrupt →
      Step s (.raises worker message)
        ((s.record wire.exchanges).setPhase worker (.raised message exc))
  /-- `KeyboardInterrupt`, or an exception of the failure report that is not an `Exception`. -/
  | interrupted {s : System Id} {worker : Id} {sent : List Exchange} :
      Unfinished V config (s.phase worker) sent →
      Step s (.interrupted worker) ((s.record sent).setPhase worker .down)
  | remove {s : System Id} {worker : Id} {message : Text} :
      s.phase worker = .returned message →
      Step s (.remove worker message) ((s.lrem true message).setPhase worker .idle)
  /-- The store raised, whether or not it removed the message. -/
  | removeFails {s : System Id} {worker : Id} {message : Text} (executed : Bool)
      (exc : LibraryError) : s.phase worker = .returned message →
      Step s (.removeFails worker message)
        ((s.lrem executed message).setPhase worker (.raised message exc.val))
  | report {s : System Id} {worker : Id} {message : Text} {exc : PyError} (world : World)
      {remove : Bool} {wire : Wire World} : s.phase worker = .raised message exc →
      (reportFailure V message exc).run (freshWire world) = (.ok remove, wire) →
      Step s (.report worker wire.exchanges) ((s.record wire.exchanges).setPhase worker
        (.settling message remove exc.shouldFailClosedWorker))
  /-- The removal, which may fail, and then the end of the worker or of the loop body. -/
  | settle {s : System Id} {worker : Id} {message : Text} {remove failClosed : Bool}
      (executed : Bool) : s.phase worker = .settling message remove failClosed →
      Step s (.settle worker) ((s.lrem (remove && executed) message).setPhase worker
        (if failClosed then .down else .idle))
  | crash {s : System Id} {worker : Id} {sent : List Exchange} :
      Unfinished V config (s.phase worker) sent →
      Step s (.crash worker) ((s.record sent).setPhase worker .down)

def System.initial : System Id := ⟨[], [], fun _ => .down, [], []⟩

/-! ### Safety -/

/-- The run of a message was reported as ended and the API took the report, or the API answered a
report with 404. -/
def Settled (ledger : List Exchange) (message : Text) : Prop :=
  ∃ e ∈ ledger, (e.endsRun (messageRunId V message) = true ∧ e.accepted = true) ∨
    e.unknownRun (messageRunId V message) = true

/-- A message leaves both lists only when its run is settled. -/
def Accounted (s : System Id) : Prop :=
  ∀ message ∈ s.pushed,
    message ∈ s.queue ∨ message ∈ s.inProcess ∨ Settled V s.ledger message

/-- A recovery does not requeue a message that another live worker holds. -/
def SparesOthers (s : System Id) : Event Id → Prop
  | .recover worker message => ∀ other, other ≠ worker → (s.phase other).message? ≠ some message
  | _ => True

/-- A dispatch returns only when the run of its message is settled, and a recovery requeues messages
only while no other worker holds one. -/
def Careful (s : System Id) : Event Id → Prop
  | .returns _ message => Settled V s.ledger message
  | .recover worker _ => ∀ other, other ≠ worker → (s.phase other).message? = none
  | _ => True

/-- The invariant: messages are accounted for, and a worker removes only settled ones. -/
structure Sound (s : System Id) : Prop where
  accounted : Accounted V s
  returned : ∀ worker message, s.phase worker = .returned message → Settled V s.ledger message
  settling : ∀ worker message failClosed, s.phase worker = .settling message true failClosed →
    Settled V s.ledger message

variable {V} in
theorem Settled.append {ledger : List Exchange} {message : Text} (h : Settled V ledger message)
    (sent : List Exchange) : Settled V (ledger ++ sent) message := by
  obtain ⟨e, he, hsettled⟩ := h
  exact ⟨e, List.mem_append_left _ he, hsettled⟩

namespace Sound

variable {V} {s : System Id}

theorem initial : Sound V (.initial : System Id) where
  accounted := fun _ h => absurd h List.not_mem_nil
  returned := by
    intro worker message h
    cases h
  settling := by
    intro worker message failClosed h
    cases h

/-- More requests settle no less. -/
theorem record (h : Sound V s) (sent : List Exchange) : Sound V (s.record sent) where
  accounted := by
    intro message hmessage
    rcases h.accounted message hmessage with hqueue | hprocess | hsettled
    · exact .inl hqueue
    · exact .inr (.inl hprocess)
    · exact .inr (.inr (hsettled.append sent))
  returned := fun worker message hphase => (h.returned worker message hphase).append sent
  settling := fun worker message failClosed hphase =>
    (h.settling worker message failClosed hphase).append sent

/-- A new phase carries its own evidence. -/
theorem setPhase [DecidableEq Id] (h : Sound V s) {worker : Id} {phase : Phase}
    (hreturned : ∀ message, phase = .returned message → Settled V s.ledger message)
    (hsettling : ∀ message failClosed, phase = .settling message true failClosed →
      Settled V s.ledger message) : Sound V (s.setPhase worker phase) where
  accounted := h.accounted
  returned := by
    intro other message hphase
    by_cases hother : other = worker
    · subst hother
      rw [System.setPhase_self] at hphase
      exact hreturned message hphase
    · rw [System.setPhase_of_ne s hother] at hphase
      exact h.returned other message hphase
  settling := by
    intro other message failClosed hphase
    by_cases hother : other = worker
    · subst hother
      rw [System.setPhase_self] at hphase
      exact hsettling message failClosed hphase
    · rw [System.setPhase_of_ne s hother] at hphase
      exact h.settling other message failClosed hphase

theorem move (h : Sound V s) {queue inProcess : List Text}
    (hmove : ∀ message, message ∈ s.queue ∨ message ∈ s.inProcess →
      message ∈ queue ∨ message ∈ inProcess) : Sound V { s with queue, inProcess } where
  accounted := by
    intro message hmessage
    rcases h.accounted message hmessage with hqueue | hprocess | hsettled
    · exact or_assoc.mp (.inl (hmove message (.inl hqueue)))
    · exact or_assoc.mp (.inl (hmove message (.inr hprocess)))
    · exact .inr (.inr hsettled)
  returned := h.returned
  settling := h.settling

/-- A settled message may be removed. -/
theorem lrem (h : Sound V s) {executed : Bool} {message : Text}
    (hsettled : executed = true → Settled V s.ledger message) :
    Sound V (s.lrem executed message) where
  accounted := by
    intro other hother
    cases executed with
    | false => exact h.accounted other hother
    | true =>
      by_cases hsame : other = message
      · subst hsame
        exact .inr (.inr (hsettled rfl))
      · rcases h.accounted other hother with hqueue | hprocess | hdone
        · exact .inl hqueue
        · exact .inr (.inl ((List.mem_erase_of_ne hsame).mpr hprocess))
        · exact .inr (.inr hdone)
  returned := h.returned
  settling := h.settling

omit [PyRuntime] [PyNumerals] in
/-- The message at the right end of one list goes to the left end of the other. -/
theorem mem_of_moved {source target rest : List Text} {moved message : Text}
    (hsource : source = rest ++ [moved]) (h : message ∈ source ∨ message ∈ target) :
    message ∈ rest ∨ message ∈ moved :: target := by
  rcases h with h | h
  · rw [hsource, List.mem_append, List.mem_singleton] at h
    rcases h with h | rfl
    · exact .inl h
    · exact .inr List.mem_cons_self
  · exact .inr (List.mem_cons_of_mem _ h)

theorem settled_of_report {message : Text} {exc : PyError} {world : World} {wire : Wire World}
    (h : (reportFailure V message exc).run (freshWire world) = (.ok true, wire))
    (ledger : List Exchange) : Settled V (ledger ++ wire.exchanges) message := by
  obtain ⟨last, hexchanges, hends, haccepted⟩ := ok_true_of_reportFailure V h
  refine ⟨last, ?_, .inl ⟨hends, haccepted⟩⟩
  rw [hexchanges]
  simp

/-- A careful step keeps the invariant. -/
theorem step [DecidableEq Id] (h : Sound V s) {e : Event Id} {s' : System Id} (hstep : Step V config s e s')
    (hcareful : Careful V s e) : Sound V s' := by
  cases hstep with
  | push message =>
    constructor
    · intro other hother
      rcases List.mem_cons.mp hother with rfl | hother
      · exact .inl List.mem_cons_self
      · exact (h.accounted other hother).imp_left (List.mem_cons_of_mem _)
    · exact h.returned
    · exact h.settling
  | start _ => exact h.setPhase (by intros; contradiction) (by intros; contradiction)
  | recover _ hlast =>
    apply h.move
    intro message hmem
    exact (mem_of_moved hlast hmem.symm).symm
  | recovered _ => exact h.setPhase (by intros; contradiction) (by intros; contradiction)
  | take _ hlast =>
    exact (h.move fun message hmem => mem_of_moved hlast hmem).setPhase
      (by intros; contradiction) (by intros; contradiction)
  | takeLost _ hlast => exact h.move fun message hmem => mem_of_moved hlast hmem
  | @returns worker message world wire _ _ =>
    apply (h.record wire.exchanges).setPhase
    · intro other hphase
      cases hphase
      exact Settled.append hcareful wire.exchanges
    · intro other failClosed hphase
      cases hphase
  | raises _ _ _ _ =>
    exact (h.record _).setPhase (by intros; contradiction) (by intros; contradiction)
  | interrupted _ =>
    exact (h.record _).setPhase (by intros; contradiction) (by intros; contradiction)
  | @remove worker message hphase =>
    exact (h.lrem fun _ => h.returned worker message hphase).setPhase
      (by intros; contradiction) (by intros; contradiction)
  | @removeFails worker message executed exc hphase =>
    exact (h.lrem fun _ => h.returned worker message hphase).setPhase
      (by intros; contradiction) (by intros; contradiction)
  | @report worker message exc world remove wire _ hrun =>
    apply (h.record wire.exchanges).setPhase
    · intro other hphase
      cases hphase
    · intro other failClosed hphase
      cases hphase
      exact settled_of_report hrun s.ledger
  | @settle worker message remove failClosed executed hphase =>
    have hremoved : (remove && executed) = true → Settled V s.ledger message := by
      intro hremove
      rw [Bool.and_eq_true] at hremove
      rw [hremove.1] at hphase
      exact h.settling worker message failClosed hphase
    apply (h.lrem hremoved).setPhase
    · intro other hother
      cases failClosed <;> cases hother
    · intro other failClosed' hother
      cases failClosed <;> cases hother
  | crash _ =>
    exact (h.record _).setPhase (by intros; contradiction) (by intros; contradiction)

end Sound

end Steps

end Dispatch

end DqMadeEasy
