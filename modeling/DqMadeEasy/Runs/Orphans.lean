import DqMadeEasy.Runs.Backend

/-!
# Orphan runs

A run that is pending without a message for it is never executed. A request creates its run and then
pushes the message; what it does where one of the two raises decides whether it leaves an orphan. A
suite dispatch compensates for a push that raised an `Exception` and for nothing else; a grouped
dispatch compensates for nothing.
-/

namespace DqMadeEasy

namespace Runs

open Worker

def Queued (queue : List (Text × DispatchPayload)) (runId : Text) : Prop :=
  ∃ message ∈ queue, message.2.createdId = runId

def Fate.raises : Fate → Bool
  | .served => false
  | .refused _ | .interrupted _ => true

def Fate.hasEffect : Fate → Bool
  | .served | .interrupted _ => true
  | .refused _ => false

section Orphans

variable {Store Time : Type} (listing : Listing Store Time)

def NoOrphanBut (listing : Listing Store Time) (except : Text → Prop) (s : Backend Store) : Prop :=
  ∀ id run, listing.find? s.runs id = some run → run.status = .pending → ¬except id →
    Queued s.queue id

/-- Every pending run has its message in the queue. -/
def NoOrphan (listing : Listing Store Time) (s : Backend Store) : Prop :=
  NoOrphanBut listing (fun _ => False) s

def Creates (listing : Listing Store Time) (circumstances : Circumstances) (create : RunCreate)
    (s : Backend Store) : Prop :=
  circumstances.fate.hasEffect = true ∧ ∃ entity, ((listing.createRun circumstances.moment
    circumstances.historyId create).run s.runs).1 = .ok entity

/-- A run is stored without a message for it, and no message follows: the creation raises, or the
push is refused with an error that is not compensated for. -/
def Orphans (listing : Listing Store Time) (circumstances : Call → Circumstances)
    (create : RunCreate) (push : Call) (lost : ApiError → Prop) (s : Backend Store) : Prop :=
  Creates listing (circumstances (.createRun create)) create s ∧ ¬Queued s.queue create.runId ∧
    ((circumstances (.createRun create)).fate.raises = true ∨
      ∃ exc, (circumstances push).fate = .refused exc ∧ lost exc)

theorem queued_append {queue : List (Text × DispatchPayload)} {id : Text}
    (message : Text × DispatchPayload) (h : Queued queue id) : Queued (queue ++ [message]) id := by
  obtain ⟨found, hfound, hid⟩ := h
  exact ⟨found, List.mem_append_left _ hfound, hid⟩

theorem queued_pushed (queue : List (Text × DispatchPayload)) (key : Text)
    (payload : DispatchPayload) : Queued (queue ++ [(key, payload)]) payload.createdId :=
  ⟨(key, payload), List.mem_append_right _ (List.mem_singleton_self _), rfl⟩

variable {listing} {s : Backend Store} {id : Text} {run : Run Time}

theorem noOrphan_iff_queued (hbut : NoOrphanBut listing (· = id) s)
    (hfind : listing.find? s.runs id = some run) (hpending : run.status = .pending) :
    NoOrphan listing s ↔ Queued s.queue id := by
  constructor
  · exact fun h => h id run hfind hpending fun hfalse => hfalse
  · intro hqueued other run' hrun' hpending' _
    by_cases hid : other = id
    · rwa [hid]
    · exact hbut other run' hrun' hpending' hid

theorem noOrphan_push (hbut : NoOrphanBut listing (· = id) s) (key : Text)
    {payload : DispatchPayload} (hpayload : payload.createdId = id) :
    NoOrphan listing { s with queue := s.queue ++ [(key, payload)] } := by
  intro other run' hrun' hpending' _
  by_cases hid : other = id
  · rw [hid, ← hpayload]
    exact queued_pushed _ _ _
  · exact queued_append _ (hbut other run' hrun' hpending' hid)

/-- A transition of the run out of `pending` leaves no orphan. -/
theorem noOrphan_transition (hlawful : listing.Lawful) (hbut : NoOrphanBut listing (· = id) s)
    (hfind : listing.find? s.runs id = some run) {transition : StatusTransition}
    (hid : transition.runId = id) (hstatus : transition.newStatus ≠ .pending)
    (hstarted : transition.startedAt = none) (hcompleted : transition.completedAt = none)
    (moment : Moment) (historyId : Text) :
    NoOrphan listing { s with
      runs := ((listing.recordRunStatusTransition moment historyId transition).run s.runs).2 } := by
  rcases hlawful.transition moment historyId transition s.runs with ⟨_, hnone⟩ | ⟨_, changed, _,
      _, _, hchanged, hwrites⟩
  · rw [hid, hfind] at hnone
    cases hnone hstarted hcompleted
  · rw [hid] at hwrites
    intro other run' hrun' hpending' _
    by_cases hother : other = id
    · have hrun : some changed = some run' := by rw [← hwrites.run, ← hother]; exact hrun'
      cases hrun
      exact absurd (hchanged ▸ hpending') hstatus
    · refine hbut other run' ?_ hpending' hother
      rw [← hwrites.others other hother]
      exact hrun'

end Orphans

/-! ### A request alone -/

section Alone

variable {Store Time : Type} [PyNumerals] (listing : Listing Store Time)

def alone (circumstances : Call → Circumstances) (call : Call) :
    Effect (Backend Store) ApiError (Call.Answer Time call) :=
  listing.serve (circumstances call) call

variable {listing} {circumstances : Call → Circumstances} {s : Backend Store}

def Call.asks : Call → Prop
  | .assertDispatchWorker .. | .assertJoinPairMaterializationWorker .. | .listRuns _ => True
  | .createRun _ | .enqueuePayload .. | .recordRunStatusTransition _ => False

theorem snd_alone_of_asks (call : Call) (s : Backend Store) (h : call.asks) :
    ((alone listing circumstances call).run s).2 = s := by
  rcases listing.snd_serve (circumstances call) call s with hsame | heffect
  · exact hsame
  · rw [alone, heffect]
    cases call with
    | assertDispatchWorker | assertJoinPairMaterializationWorker | listRuns => rfl
    | createRun | enqueuePayload | recordRunStatusTransition => cases h

variable {α β : Type} {p : Request Time α} {s' after : Backend Store}

theorem snd_rescue_raise (f : ApiError → ApiError) (p : Request Time α) (s : Backend Store) :
    (((p.rescue fun exc => .raise (f exc)).exec (alone listing circumstances)).run s).2 =
      ((p.exec (alone listing circumstances)).run s).2 := by
  rw [Program.exec_rescue, Effect.rescue, Effect.run_ofState]
  split <;> (rename_i h; rw [h])
  rfl

/-- A handler that raises returns what the program returns. -/
theorem ok_of_rescue_raise {f : ApiError → ApiError} {s : Backend Store} {a : α}
    (h : ((p.rescue fun exc => .raise (f exc)).exec (alone listing circumstances)).run s =
      (.ok a, s')) : (p.exec (alone listing circumstances)).run s = (.ok a, s') := by
  rw [Program.exec_rescue, Effect.rescue, Effect.run_ofState] at h
  split at h
  · rename_i hrun
    rw [hrun, h]
  · cases (Prod.mk.inj h).1

/-- A handler that raises raises only what the program raised. -/
theorem error_of_rescue_raise {f : ApiError → ApiError} {s : Backend Store} {e : ApiError}
    (h : ((p.rescue fun exc => .raise (f exc)).exec (alone listing circumstances)).run s =
      (.error e, s')) : ∃ exc, (p.exec (alone listing circumstances)).run s = (.error exc, s') := by
  rw [Program.exec_rescue, Effect.rescue, Effect.run_ofState] at h
  split at h
  · cases (Prod.mk.inj h).1
  · rename_i exc between hrun
    refine ⟨exc, ?_⟩
    rw [hrun, show between = s' from (Prod.mk.inj h).2]

/-- Returning a value leaves the state. -/
theorem snd_bind_pure (p : Request Time α) (b : β) (s : Backend Store) :
    (((p >>= fun _ => (pure b : Request Time β)).exec (alone listing circumstances)).run s).2 =
      ((p.exec (alone listing circumstances)).run s).2 := by
  rw [Program.exec_bind, Effect.run_bind]
  cases (p.exec (alone listing circumstances)).run s with
  | mk outcome after => cases outcome <;> rfl

/-! ### The creation -/

/-- The run is stored and nothing else is changed. -/
structure StoredIn (listing : Listing Store Time) (create : RunCreate) (s after : Backend Store) :
    Prop where
  queue : after.queue = s.queue
  run : ∃ run, listing.find? after.runs create.runId = some run ∧ run.status = create.status
  others : ∀ id, id ≠ create.runId → listing.find? after.runs id = listing.find? s.runs id

/-- The effect of a creation: the run is stored, or it raises and nothing is changed. -/
theorem effect_create (hlawful : listing.Lawful) (moment : Moment) (historyId : Text)
    {create : RunCreate} (hprogress : create.executionProgress = none) (s : Backend Store) :
    let effect := (listing.effect moment historyId (.createRun create)).run s
    let stored := (listing.createRun moment historyId create).run s.runs
    (effect.2 = s ∧ ∀ entity, stored.1 ≠ .ok entity) ∨
      (∃ entity, stored.1 = .ok entity) ∧ StoredIn listing create s effect.2 := by
  intro effect stored
  have heffect : effect.2 = { s with runs := stored.2 } :=
    listing.snd_effect_createRun moment historyId create s
  rcases hlawful.create moment historyId create s.runs with ⟨exc, hsame⟩ |
    ⟨_, run, _, hstatus, hwrites, hok⟩
  · left
    have hstored : stored = (.error exc, s.runs) := hsame
    rw [heffect, hstored]
    exact ⟨rfl, fun entity h => by cases h⟩
  · right
    rw [heffect]
    exact ⟨hok hprogress, rfl, ⟨run, hwrites.run, hstatus⟩, hwrites.others⟩

/-- The state after a creation: the run is stored, or nothing is changed. -/
theorem serve_create (hlawful : listing.Lawful) (circumstances : Circumstances)
    {create : RunCreate} (hprogress : create.executionProgress = none) (s : Backend Store) :
    let after := ((listing.serve circumstances (.createRun create)).run s).2
    (after = s ∧ ¬Creates listing circumstances create s) ∨
      Creates listing circumstances create s ∧ StoredIn listing create s after := by
  intro after
  have hafter : after = ((listing.serve circumstances (.createRun create)).run s).2 := rfl
  have heffect := effect_create hlawful circumstances.moment circumstances.historyId hprogress s
  rw [Listing.serve] at hafter
  rw [Creates]
  cases hfate : circumstances.fate with
  | refused exc =>
    rw [hfate] at hafter
    exact .inl ⟨hafter, fun h => by cases h.1⟩
  | served | interrupted =>
    rw [hfate] at hafter
    rcases heffect with ⟨hsame, hnone⟩ | ⟨hok, hstored⟩
    · exact .inl ⟨hafter.trans hsame, fun h => hnone _ h.2.choose_spec⟩
    · exact .inr ⟨⟨rfl, hok⟩, hafter ▸ hstored⟩

theorem creates_of_ok {circumstances : Circumstances} {create : RunCreate} {s : Backend Store}
    {u : Call.Answer Time (.createRun create)}
    (h : (listing.serve circumstances (.createRun create)).run s = (.ok u, after)) :
    circumstances.fate.raises = false ∧ Creates listing circumstances create s := by
  have heffect := Listing.ok_of_serve h
  rw [Listing.serve] at h
  rw [Creates]
  cases hfate : circumstances.fate with
  | refused exc | interrupted exc =>
    rw [hfate] at h
    cases (Prod.mk.inj h).1
  | served =>
    exact ⟨rfl, rfl, ok_of_onRuns heffect⟩

theorem raises_of_error {circumstances : Circumstances} {create : RunCreate} {s : Backend Store}
    {exc : ApiError}
    (h : (listing.serve circumstances (.createRun create)).run s = (.error exc, after))
    (hcreates : Creates listing circumstances create s) :
    circumstances.fate.raises = true := by
  rw [Listing.serve] at h
  cases hfate : circumstances.fate with
  | refused _ | interrupted _ => rfl
  | served =>
    rw [hfate] at h
    obtain ⟨exc', herror⟩ := error_of_onRuns h
    obtain ⟨_, entity, hok⟩ := hcreates
    rw [hok] at herror
    cases herror

/-! ### The push -/

def Compensates (circumstances : Call → Circumstances) : Prop :=
  ∀ transition, (circumstances (.recordRunStatusTransition transition)).fate = .served

/-- The state after a push. -/
theorem snd_push {redisUrl key : Text} {payload : DispatchPayload} {s : Backend Store} :
    let push := Call.enqueuePayload redisUrl key payload
    let outcome := ((Request.enqueuePayload redisUrl key payload).exec
      (alone listing circumstances)).run s
    (circumstances push).fate = .served ∧
        outcome = (.ok (), { s with queue := s.queue ++ [(key, payload)] }) ∨
      (∃ exc, (circumstances push).fate = .interrupted exc ∧
        outcome = (.error exc, { s with queue := s.queue ++ [(key, payload)] })) ∨
      ∃ exc, (circumstances push).fate = .refused exc ∧ outcome = (.error exc, s) := by
  intro push outcome
  have houtcome : outcome = (alone listing circumstances push).run s := Program.exec_perform _ _ _
  rw [alone, Listing.serve] at houtcome
  cases hfate : (circumstances push).fate with
  | served =>
    rw [hfate] at houtcome
    exact .inl ⟨rfl, houtcome⟩
  | interrupted exc =>
    rw [hfate] at houtcome
    exact .inr (.inl ⟨exc, rfl, houtcome⟩)
  | refused exc =>
    rw [hfate] at houtcome
    exact .inr (.inr ⟨exc, rfl, houtcome⟩)

/-- The state after a compensation that is served. -/
theorem snd_compensation (hcompensates : Compensates circumstances) (transition : StatusTransition)
    (exc : ApiError) (s : Backend Store) :
    (((Request.recordRunStatusTransition transition >>= fun _ => (.raise exc : Request Time Unit)).exec
      (alone listing circumstances)).run s).2 = { s with
        runs := ((listing.recordRunStatusTransition
          (circumstances (.recordRunStatusTransition transition)).moment
          (circumstances (.recordRunStatusTransition transition)).historyId transition).run
          s.runs).2 } := by
  have hstate : ((alone listing circumstances (.recordRunStatusTransition transition)).run s).2 =
      { s with
        runs := ((listing.recordRunStatusTransition
          (circumstances (.recordRunStatusTransition transition)).moment
          (circumstances (.recordRunStatusTransition transition)).historyId transition).run
          s.runs).2 } := by
    rw [alone, Listing.serve, hcompensates transition]
    exact listing.snd_effect_recordRunStatusTransition _ _ _ _
  rw [Program.exec_bind, Effect.run_bind, ← hstate]
  have hperform : ((Request.recordRunStatusTransition transition : Request Time Unit).exec
      (alone listing circumstances)).run s =
      (alone listing circumstances (.recordRunStatusTransition transition)).run s :=
    Program.exec_perform _ _ _
  rw [hperform]
  cases (alone listing circumstances (.recordRunStatusTransition transition)).run s with
  | mk outcome after => cases outcome <;> rfl

variable {id : Text} {run : Run Time}

/-- A suite dispatch's push: an orphan is left where it is refused with what is no `Exception`. -/
theorem noOrphan_enqueueSuiteRun (hlawful : listing.Lawful)
    (hcompensates : Compensates circumstances) (command : EnqueueScheduledGxSuiteRunCommand)
    (redisUrl correlationId : Text) {accepted : DispatchPayload}
    (hids : accepted.reportedId = accepted.createdId)
    (hbut : NoOrphanBut listing (· = accepted.createdId) s)
    (hfind : listing.find? s.runs accepted.createdId = some run)
    (hpending : run.status = .pending) :
    NoOrphan listing (((enqueueSuiteRun command redisUrl correlationId accepted).exec
        (alone listing circumstances)).run s).2 ↔
      Queued s.queue accepted.createdId ∨ ¬∃ exc, (circumstances (.enqueuePayload redisUrl
        (accepted.queueKey.getD []) accepted)).fate = .refused exc ∧ exc.isException = false := by
  have hcompensated : ∀ (s' : Backend Store) (exc e : ApiError),
      NoOrphanBut listing (· = accepted.createdId) s' → s'.runs = s.runs →
      NoOrphan listing (((Request.recordRunStatusTransition
        (enqueueFailed command accepted exc) >>= fun _ => (.raise e : Request Time Unit)).exec
          (alone listing circumstances)).run s').2 := by
    intro s' exc e hbut' hruns
    rw [snd_compensation hcompensates]
    exact noOrphan_transition hlawful hbut' (hruns ▸ hfind) hids (by exact fun h => by cases h)
      rfl rfl _ _
  have hpushed : NoOrphan listing
      { s with queue := s.queue ++ [(accepted.queueKey.getD [], accepted)] } :=
    noOrphan_push hbut _ rfl
  rw [enqueueSuiteRun, Program.exec_rescue, Effect.rescue, Effect.run_ofState]
  rcases @snd_push Store Time _ listing circumstances redisUrl (accepted.queueKey.getD []) accepted s
    with ⟨hfate, hrun⟩ | ⟨exc, hfate, hrun⟩ | ⟨exc, hfate, hrun⟩
  · rw [hrun, hfate]
    exact iff_of_true hpushed (.inr (by rintro ⟨_, h, -⟩; cases h))
  · rw [hrun, hfate]
    refine iff_of_true ?_ (.inr (by rintro ⟨_, h, -⟩; cases h))
    dsimp only
    split
    · exact hcompensated _ exc _ (fun other run' h hp hne => queued_append _ (hbut other run' h hp hne))
        rfl
    · exact hpushed
  · rw [hrun, hfate]
    dsimp only
    split
    · rename_i hexception
      refine iff_of_true (hcompensated s exc _ hbut rfl) (.inr ?_)
      rintro ⟨_, h, hfalse⟩
      cases h
      rw [hexception] at hfalse
      cases hfalse
    · rename_i hexception
      refine (noOrphan_iff_queued hbut hfind hpending).trans (or_iff_left ?_).symm
      exact fun h => h ⟨exc, rfl, Bool.eq_false_iff.mpr hexception⟩

/-- A grouped dispatch's push: an orphan is left where it is refused. -/
theorem noOrphan_enqueueGrouped (redisUrl key : Text) {payload : DispatchPayload}
    (f : ApiError → ApiError) (hbut : NoOrphanBut listing (· = payload.createdId) s)
    (hfind : listing.find? s.runs payload.createdId = some run)
    (hpending : run.status = .pending) :
    NoOrphan listing (((Program.rescue (fun exc => .raise (f exc))
        (Request.enqueuePayload redisUrl key payload)).exec
          (alone listing circumstances)).run s).2 ↔
      Queued s.queue payload.createdId ∨
        ¬∃ exc, (circumstances (.enqueuePayload redisUrl key payload)).fate = .refused exc ∧
          True := by
  rw [snd_rescue_raise]
  rcases @snd_push Store Time _ listing circumstances redisUrl key payload s
    with ⟨hfate, hrun⟩ | ⟨exc, hfate, hrun⟩ | ⟨exc, hfate, hrun⟩
  · rw [hrun, hfate]
    exact iff_of_true (noOrphan_push hbut key rfl) (.inr (by rintro ⟨_, h, -⟩; cases h))
  · rw [hrun, hfate]
    exact iff_of_true (noOrphan_push hbut key rfl) (.inr (by rintro ⟨_, h, -⟩; cases h))
  · rw [hrun, hfate]
    exact (noOrphan_iff_queued hbut hfind hpending).trans
      (or_iff_left fun h => h ⟨exc, rfl, trivial⟩).symm

/-! ### The creation and then the push -/

omit [PyNumerals] in
theorem StoredIn.noOrphanBut (hs : NoOrphan listing s) {create : RunCreate}
    (h : StoredIn listing create s after) : NoOrphanBut listing (· = create.runId) after := by
  intro other run' hrun' hpending' hother
  rw [h.others other hother] at hrun'
  rw [h.queue]
  exact hs other run' hrun' hpending' fun hfalse => hfalse

/-- A run is created and then its message is pushed: what the push leaves decides, unless the creation
raises. -/
theorem noOrphan_createThenPush (hlawful : listing.Lawful) (hs : NoOrphan listing s)
    {create : RunCreate} (hprogress : create.executionProgress = none)
    (hpending : create.status = .pending) (f : ApiError → ApiError) (push : Request Time Unit)
    (pushCall : Call) (lost : ApiError → Prop) (a : α)
    (hpush : ∀ {s' : Backend Store} {run : Run Time}, NoOrphanBut listing (· = create.runId) s' →
      listing.find? s'.runs create.runId = some run → run.status = .pending →
      (NoOrphan listing ((push.exec (alone listing circumstances)).run s').2 ↔
        Queued s'.queue create.runId ∨
          ¬∃ exc, (circumstances pushCall).fate = .refused exc ∧ lost exc)) :
    NoOrphan listing (((Program.rescue (fun exc => .raise (f exc)) (Request.createRun create) >>=
        fun _ => push >>= fun _ => (pure a : Request Time α)).exec
          (alone listing circumstances)).run s).2 ↔
      ¬Orphans listing circumstances create pushCall lost s := by
  have hcall : ((Request.createRun create : Request Time Unit).exec
      (alone listing circumstances)).run s = (alone listing circumstances (.createRun create)).run s :=
    Program.exec_perform _ _ _
  have hserve := serve_create hlawful (circumstances (.createRun create)) hprogress s
  rw [Program.exec_bind, Effect.run_bind]
  cases hrun : ((Program.rescue (fun exc => .raise (f exc))
      (Request.createRun create : Request Time Unit)).exec (alone listing circumstances)).run s with
  | mk outcome after =>
    cases outcome with
    | ok u =>
      have hok := hcall.symm.trans (ok_of_rescue_raise hrun)
      obtain ⟨hraises, hcreates⟩ := creates_of_ok hok
      obtain ⟨_, hstored⟩ := hserve.resolve_left fun h => h.2 hcreates
      rw [show ((listing.serve (circumstances (.createRun create)) (.createRun create)).run s).2 =
        after from congrArg Prod.snd hok] at hstored
      obtain ⟨run, hfind, hstatus⟩ := hstored.run
      have hpushed := hpush (hstored.noOrphanBut hs) hfind (hstatus.trans hpending)
      rw [hstored.queue] at hpushed
      dsimp only
      rw [snd_bind_pure, hpushed, Orphans, hraises]
      simp only [hcreates, true_and, Bool.false_eq_true, false_or, not_and_or, not_not]
    | error exc =>
      obtain ⟨exc', herror⟩ := error_of_rescue_raise hrun
      have hraised := hcall.symm.trans herror
      rw [show ((listing.serve (circumstances (.createRun create)) (.createRun create)).run s).2 =
        after from congrArg Prod.snd hraised] at hserve
      dsimp only
      rcases hserve with ⟨hsame, hnone⟩ | ⟨hcreates, hstored⟩
      · rw [hsame]
        exact iff_of_true hs fun h => hnone h.1
      · obtain ⟨run, hfind, hstatus⟩ := hstored.run
        rw [noOrphan_iff_queued (hstored.noOrphanBut hs) hfind (hstatus.trans hpending),
          hstored.queue, Orphans, raises_of_error hraised hcreates]
        simp only [hcreates, true_and, true_or, and_true, not_not]

/-- A handler over a sequence whose first part returned. -/
theorem run_rescue_bind {handler : ApiError → Request Time β} {f : α → Request Time β}
    {s : Backend Store} {a : α} (h : (p.exec (alone listing circumstances)).run s = (.ok a, s')) :
    ((Program.rescue handler (p >>= f)).exec (alone listing circumstances)).run s =
      ((Program.rescue handler (f a)).exec (alone listing circumstances)).run s' := by
  rw [Program.exec_rescue, Program.exec_rescue, Effect.rescue, Effect.rescue, Effect.run_ofState,
    Effect.run_ofState, Program.exec_bind, Effect.run_bind, h]

/-- A handler over a sequence whose first part raised. -/
theorem run_rescue_bind_error {handler : ApiError → Request Time β} {f : α → Request Time β}
    {s : Backend Store} {e : ApiError}
    (h : (p.exec (alone listing circumstances)).run s = (.error e, s')) :
    ((Program.rescue handler (p >>= f)).exec (alone listing circumstances)).run s =
      ((handler e).exec (alone listing circumstances)).run s' := by
  rw [Program.exec_rescue, Effect.rescue, Effect.run_ofState, Program.exec_bind, Effect.run_bind, h]

end Alone

/-! ### The two requests -/

section Requests

variable {Store Time : Type} [PyRuntime] [PyNumerals]
variable {listing : Listing Store Time} {circumstances : Call → Circumstances} {s : Backend Store}

/-- A suite dispatch leaves an orphan: it gets to the creation of its run and then loses the message. -/
def SuiteOrphans (listing : Listing Store Time) (circumstances : Call → Circumstances)
    (callables : Callables) (build : BuildDispatchPayload) (fresh : Text)
    (command : EnqueueScheduledGxSuiteRunCommand) (s : Backend Store) : Prop :=
  ∃ redisUrl correlationId accepted create,
    (((prepareSuiteRun callables build fresh command).exec (alone listing circumstances)).run s).1 =
      .ok (redisUrl, correlationId, accepted) ∧
    buildRunCreateForSuiteDispatch command accepted = .ok create ∧
    Orphans listing circumstances create
      (.enqueuePayload redisUrl (accepted.queueKey.getD []) accepted)
      (fun exc => exc.isException = false) s

/-- A grouped dispatch leaves an orphan. -/
def GroupedOrphans (listing : Listing Store Time) (circumstances : Call → Circumstances)
    (callables : Callables) (build : BuildDispatchPayload) (fresh statusSource statusReason : Text)
    (command : CreateGroupedScopeGxRunCommand) (s : Backend Store) : Prop :=
  ∃ redisUrl payload create,
    (((prepareGroupedRun callables build fresh command).exec (alone listing circumstances)).run
      s).1 = .ok (redisUrl, payload) ∧
    (((assertNoActiveGxExecutionConflict (dispatchIdentityForConflict payload)).exec
      (alone listing circumstances)).run s).1 = .ok () ∧
    buildRunCreateForGroupedDispatch command.requestedBy statusSource statusReason payload =
      .ok create ∧
    Orphans listing circumstances create
      (.enqueuePayload redisUrl (textOr payload.queueKey (some command.queueKey)) payload)
      (fun _ => True) s

/-- `build_dispatch_payload` names the message after the run. -/
def NamedAfterRun (build : BuildDispatchPayload) : Prop :=
  ∀ correlationId payload, build correlationId = .ok payload →
    payload.queueMessageId = payload.runId

theorem only_guard (guard : Identity) :
    (assertNoActiveGxExecutionConflict guard : Request Time Unit).Only Call.asks := by
  rw [assertNoActiveGxExecutionConflict]
  split
  · trivial
  · refine Program.Only.bind (Program.Only.perform trivial) fun pending => ?_
    refine Program.Only.bind (Program.Only.perform trivial) fun running => ?_
    split <;> trivial

theorem only_prepareSuiteRun (callables : Callables) (build : BuildDispatchPayload) (fresh : Text)
    (command : EnqueueScheduledGxSuiteRunCommand) :
    (prepareSuiteRun callables build fresh command : Request Time _).Only Call.asks := by
  rw [prepareSuiteRun]
  split
  · trivial
  · trivial
  · refine Program.Only.bind (Program.Only.perform trivial) fun _ => ?_
    refine Program.Only.bind (Program.Only.ofExcept _) fun payload => ?_
    refine Program.Only.bind (only_guard _) fun _ => Program.Only.bind ?_ fun _ => trivial
    rw [acceptPayload]
    split
    · refine Program.Only.bind (Program.Only.perform trivial) fun _ => ?_
      exact Program.Only.bind (Program.Only.ofExcept _) fun _ => trivial
    · trivial

omit [PyNumerals] in
theorem only_prepareGroupedRun (callables : Callables) (build : BuildDispatchPayload)
    (fresh : Text) (command : CreateGroupedScopeGxRunCommand) :
    (prepareGroupedRun callables build fresh command : Request Time _).Only Call.asks := by
  refine Program.Only.bind (Program.Only.ofExcept _) fun _ => ?_
  split
  · trivial
  · trivial
  · refine Program.Only.bind (Program.Only.perform trivial) fun _ => ?_
    exact Program.Only.bind (Program.Only.ofExcept _) fun _ => trivial

omit [PyRuntime] [PyNumerals] in
theorem ids_set {payload : DispatchPayload} (h : payload.queueMessageId = payload.runId)
    {key : String} (value : Json) (hrun : key.toList ≠ "run_id")
    (hmessage : key.toList ≠ "queue_message_id") :
    (payload.set key value).queueMessageId = (payload.set key value).runId := by
  have hget : ∀ other : String, key.toList ≠ other.toList →
      textField (payload.set key value).fields other = textField payload.fields other := by
    intro other hother
    rw [textField, textField, Dict.get, Dict.get, Dict.find?, Dict.find?, DispatchPayload.set,
      Dict.insert, Assoc.find?_update, if_neg hother]
  rw [DispatchPayload.queueMessageId, DispatchPayload.runId, hget _ hrun, hget _ hmessage]
  exact h

omit [PyRuntime] [PyNumerals] in
theorem reportedId_of_ids {payload : DispatchPayload}
    (h : payload.queueMessageId = payload.runId) : payload.reportedId = payload.createdId := by
  rw [DispatchPayload.reportedId, DispatchPayload.createdId, h]

/-- The accepted payload names its message after its run. -/
theorem returns_prepareSuiteRun (callables : Callables) {build : BuildDispatchPayload}
    (hbuild : NamedAfterRun build) (fresh : Text) (command : EnqueueScheduledGxSuiteRunCommand) :
    (prepareSuiteRun callables build fresh command : Request Time _).Returns
      fun prepared => prepared.2.2.queueMessageId = prepared.2.2.runId := by
  rw [prepareSuiteRun]
  split
  · trivial
  · trivial
  · refine Program.Returns.bind (Program.Returns.true _) fun _ _ => ?_
    refine Program.Returns.bind (Program.Returns.ofExcept fun payload h => hbuild _ payload h)
      fun payload hpayload => ?_
    refine Program.Returns.bind (Program.Returns.true _) fun _ _ => ?_
    have htraced : ∀ {payload : DispatchPayload}, payload.queueMessageId = payload.runId →
        (payload.withTraceHeaders callables.injectTraceCarrier).queueMessageId =
          (payload.withTraceHeaders callables.injectTraceCarrier).runId :=
      fun h => ids_set h _ (by decide) (by decide)
    refine Program.Returns.bind (Q := fun accepted : DispatchPayload =>
      accepted.queueMessageId = accepted.runId) ?_ fun _ h => h
    rw [acceptPayload]
    split
    · refine Program.Returns.bind (Program.Returns.true _) fun _ _ => ?_
      refine Program.Returns.bind (Program.Returns.ofExcept fun accepted h => ?_)
        fun _ haccepted => htraced haccepted
      rw [buildJoinPairMaterializationHandoffPayload] at h
      split at h
      · cases h
      · cases h
        exact ids_set (ids_set (ids_set (htraced hpayload) _ (by decide) (by decide)) _ (by decide)
          (by decide)) _ (by decide) (by decide)
    · exact htraced hpayload

omit [PyNumerals] in
theorem of_buildRunCreateForSuiteDispatch {command : EnqueueScheduledGxSuiteRunCommand}
    {accepted : DispatchPayload} {create : RunCreate}
    (h : buildRunCreateForSuiteDispatch command accepted = .ok create) :
    create.runId = accepted.createdId ∧ create.status = .pending ∧
      create.executionProgress = none := by
  obtain ⟨_, _, h⟩ := ok_of_bind h
  obtain ⟨_, _, h⟩ := ok_of_bind h
  obtain ⟨_, _, h⟩ := ok_of_bind h
  cases h
  exact ⟨rfl, rfl, rfl⟩

omit [PyNumerals] in
theorem of_buildRunCreateForGroupedDispatch {requestedBy : Option Text}
    {statusSource statusReason : Text} {payload : DispatchPayload} {create : RunCreate}
    (h : buildRunCreateForGroupedDispatch requestedBy statusSource statusReason payload =
      .ok create) :
    create.runId = payload.createdId ∧ create.status = .pending ∧
      create.executionProgress = none := by
  obtain ⟨_, _, h⟩ := ok_of_bind h
  cases h
  exact ⟨rfl, rfl, rfl⟩

/-- A suite dispatch leaves no orphan exactly where it does not lose its message. -/
theorem noOrphan_suite (hlawful : listing.Lawful) (hs : NoOrphan listing s)
    (hcompensates : Compensates circumstances) (callables : Callables)
    {build : BuildDispatchPayload} (hbuild : NamedAfterRun build) (fresh : Text)
    (command : EnqueueScheduledGxSuiteRunCommand) :
    NoOrphan listing (((enqueueScheduledGxSuiteRun callables build fresh command).exec
        (alone listing circumstances)).run s).2 ↔
      ¬SuiteOrphans listing circumstances callables build fresh command s := by
  have hasks := (only_prepareSuiteRun callables build fresh command).exec_state
    (@snd_alone_of_asks Store Time _ listing circumstances) s
  rw [enqueueScheduledGxSuiteRun, Program.exec_bind, Effect.run_bind, SuiteOrphans]
  cases hprepared : ((prepareSuiteRun callables build fresh command).exec
      (alone listing circumstances)).run s with
  | mk outcome after =>
    rw [hprepared] at hasks
    have hafter : after = s := hasks
    rw [hafter] at hprepared ⊢
    cases outcome with
    | error exc => exact iff_of_true hs fun ⟨_, _, _, _, h, _⟩ => by cases h
    | ok prepared =>
      obtain ⟨redisUrl, correlationId, accepted⟩ := prepared
      have hids := (returns_prepareSuiteRun callables hbuild fresh command).of_exec hprepared
      let mapError : ApiError → ApiError := fun exc => if exc.isException then
        callables.mapPersistenceError
          ((normalizedText (some command.suite.suiteId)).getD "unknown-suite")
          accepted.reportedId correlationId exc else exc
      dsimp only
      cases hcreate : buildRunCreateForSuiteDispatch command accepted with
      | error exc =>
        have hcreation : createSuiteRun callables command correlationId accepted =
            (.raise (mapError exc) : Request Time Unit) := by
          rw [createSuiteRun, hcreate]
          rfl
        rw [hcreation]
        refine iff_of_true hs ?_
        rintro ⟨_, _, _, create, h, hbuilt, _⟩
        cases h
        rw [hcreate] at hbuilt
        cases hbuilt
      | ok create =>
        obtain ⟨hrunId, hstatus, hprogress⟩ := of_buildRunCreateForSuiteDispatch hcreate
        have hcreation : createSuiteRun callables command correlationId accepted =
            Program.rescue (fun exc => .raise (mapError exc))
              (Request.createRun create : Request Time Unit) := by
          rw [createSuiteRun, hcreate]
          rfl
        rw [hcreation]
        refine (noOrphan_createThenPush hlawful hs hprogress hstatus mapError
          (enqueueSuiteRun command redisUrl correlationId accepted)
          (.enqueuePayload redisUrl (accepted.queueKey.getD []) accepted)
          (fun exc => exc.isException = false) accepted ?_).trans
          (not_congr ⟨fun h => ⟨redisUrl, correlationId, accepted, create, rfl, hcreate, h⟩, ?_⟩)
        · intro s' run hbut hfind hpending
          rw [hrunId] at hbut hfind ⊢
          exact noOrphan_enqueueSuiteRun hlawful hcompensates command redisUrl correlationId
            (reportedId_of_ids hids) hbut hfind hpending
        · rintro ⟨_, _, _, create', h, hbuilt, horphans⟩
          cases h
          rw [hcreate] at hbuilt
          cases hbuilt
          exact horphans

/-- A grouped dispatch leaves no orphan exactly where it does not lose its message. -/
theorem noOrphan_grouped (hlawful : listing.Lawful) (hs : NoOrphan listing s)
    (callables : Callables) (build : BuildDispatchPayload) (fresh statusSource statusReason : Text)
    (command : CreateGroupedScopeGxRunCommand) :
    NoOrphan listing (((createGroupedScopeGxRun callables build fresh statusSource statusReason
        command).exec (alone listing circumstances)).run s).2 ↔
      ¬GroupedOrphans listing circumstances callables build fresh statusSource statusReason command
        s := by
  have hasks := (only_prepareGroupedRun callables build fresh command).exec_state
    (@snd_alone_of_asks Store Time _ listing circumstances) s
  rw [createGroupedScopeGxRun, Program.exec_bind, Effect.run_bind, GroupedOrphans]
  cases hprepared : ((prepareGroupedRun callables build fresh command).exec
      (alone listing circumstances)).run s with
  | mk outcome after =>
    rw [hprepared] at hasks
    have hafter : after = s := hasks
    rw [hafter]
    cases outcome with
    | error exc => exact iff_of_true hs fun ⟨_, _, _, h, _⟩ => by cases h
    | ok prepared =>
      obtain ⟨redisUrl, payload⟩ := prepared
      dsimp only
      rw [Program.exec_bind, Effect.run_bind, persistGroupedDispatchRun]
      have hguardAsks := (only_guard (dispatchIdentityForConflict payload)).exec_state
        (@snd_alone_of_asks Store Time _ listing circumstances) s
      cases hguard : ((assertNoActiveGxExecutionConflict (dispatchIdentityForConflict payload)).exec
          (alone listing circumstances)).run s with
      | mk guardOutcome guarded =>
        rw [hguard] at hguardAsks
        have hguarded : guarded = s := hguardAsks
        rw [hguarded] at hguard
        cases guardOutcome with
        | error exc =>
          rw [run_rescue_bind_error hguard]
          refine iff_of_true hs ?_
          rintro ⟨_, _, _, h, hpassed, _⟩
          cases h
          rw [hguard] at hpassed
          cases hpassed
        | ok u =>
          rw [run_rescue_bind hguard]
          cases hcreate : buildRunCreateForGroupedDispatch command.requestedBy statusSource
              statusReason payload with
          | error exc =>
            refine iff_of_true hs ?_
            rintro ⟨_, _, create, h, _, hbuilt, _⟩
            cases h
            rw [hcreate] at hbuilt
            cases hbuilt
          | ok create =>
            obtain ⟨hrunId, hstatus, hprogress⟩ := of_buildRunCreateForGroupedDispatch hcreate
            have hthen := @noOrphan_createThenPush Store Time _ listing circumstances s
              DispatchPayload hlawful hs create hprogress hstatus
              (groupedError 500 "Failed to persist grouped GX run")
              (Program.rescue (fun exc => .raise (groupedError 503
                "Failed to enqueue grouped GX dispatch payload" exc))
                (Request.enqueuePayload redisUrl (textOr payload.queueKey (some command.queueKey))
                  payload))
              (.enqueuePayload redisUrl (textOr payload.queueKey (some command.queueKey)) payload)
              (fun _ => True) payload (fun hbut hfind hpending => by
                rw [hrunId] at hbut hfind ⊢
                exact noOrphan_enqueueGrouped redisUrl _ _ hbut hfind hpending)
            rw [Program.exec_bind, Effect.run_bind] at hthen
            refine hthen.trans (not_congr ⟨fun h => ⟨redisUrl, payload, create, rfl,
              by rw [hguard], hcreate, h⟩, ?_⟩)
            rintro ⟨_, _, create', h, _, hbuilt, horphans⟩
            cases h
            rw [hcreate] at hbuilt
            cases hbuilt
            exact horphans

end Requests

/-- The law of both requests: they leave no orphan, whichever calls fail, exactly where the stored
run's message is not lost. -/
def OrphanLaw {Store Time : Type} [PyRuntime] [PyNumerals] (listing : Listing Store Time) : Prop :=
  ∀ (circumstances : Call → Circumstances) (s : Backend Store), NoOrphan listing s →
    Compensates circumstances →
    (∀ callables build fresh command, NamedAfterRun build →
      (NoOrphan listing (((enqueueScheduledGxSuiteRun callables build fresh command).exec
          (alone listing circumstances)).run s).2 ↔
        ¬SuiteOrphans listing circumstances callables build fresh command s)) ∧
    ∀ callables build fresh statusSource statusReason command,
      (NoOrphan listing (((createGroupedScopeGxRun callables build fresh statusSource statusReason
          command).exec (alone listing circumstances)).run s).2 ↔
        ¬GroupedOrphans listing circumstances callables build fresh statusSource statusReason
          command s)

theorem orphanLaw_of_lawful {Store Time : Type} [PyRuntime] [PyNumerals]
    {listing : Listing Store Time} (hlawful : listing.Lawful) : OrphanLaw listing :=
  fun _ _ hs hcompensates => ⟨fun callables _ fresh command hbuild =>
    noOrphan_suite hlawful hs hcompensates callables hbuild fresh command,
    noOrphan_grouped hlawful hs⟩

/-- No orphan pending run, in both repositories: where the compensation is served, a suite dispatch
leaves one exactly if it stores its run and then the creation raises or the push is refused with what
is no `Exception`, and a grouped dispatch exactly if it stores its run and then the creation raises or
the push is refused. -/
theorem no_orphan_iff [PyRuntime] [PyNumerals] [PyDatetime] :
    OrphanLaw InMemory.listing ∧ OrphanLaw Postgres.listing :=
  ⟨orphanLaw_of_lawful InMemory.listing_lawful, orphanLaw_of_lawful Postgres.listing_lawful⟩

section Example

local instance sampleRuntimeOrphans : PyRuntime := .ascii (fun _ => .nan) (fun _ => [])

local instance sampleNumeralsOrphans : PyNumerals := ⟨fun _ => none, fun _ => none, id⟩

local instance sampleDatetimeOrphans : PyDatetime := .epoch

def queueDown : Call → Circumstances
  | .enqueuePayload .. =>
    ⟨.refused (.raised (.builtin "ConnectionError" "queue")), ⟨1, 1⟩, "history"⟩
  | _ => ⟨.served, ⟨1, 1⟩, "history"⟩

def noRuns : Backend InMemory.Store := ⟨⟨[], []⟩, []⟩

/-- The stores after a grouped dispatch whose message could not be pushed. -/
def afterQueueDown : Backend InMemory.Store :=
  (((createGroupedScopeGxRun sampleCallables (fun _ => .ok (samplePayload "run")) "corr"
    "source" "reason" sampleGrouped).exec
      (alone InMemory.listing queueDown)).run noRuns).2

/-- A grouped dispatch does not compensate for a push that is refused. -/
theorem no_orphan_counterexample :
    NoOrphan InMemory.listing noRuns ∧ Compensates queueDown ∧
      ¬NoOrphan InMemory.listing afterQueueDown := by
  refine ⟨?_, fun _ => rfl, fun h => ?_⟩
  · intro id run h
    cases h
  · have hpending : (afterQueueDown.runs.find? "run").map (·.status) = some .pending := by
      decide +kernel
    have hempty : afterQueueDown.queue.length = 0 := by decide +kernel
    obtain ⟨run, hrun, hstatus⟩ := Option.map_eq_some_iff.mp hpending
    obtain ⟨message, hmem, _⟩ := h "run" run hrun hstatus fun hfalse => hfalse
    rw [List.length_eq_zero_iff.mp hempty] at hmem
    cases hmem

end Example

end Runs

end DqMadeEasy
