import DqMadeEasy.Runs.Backend

/-!
# At most one active run

The guard of a request is two listings, and the creation of its run is a later call. Requests are
interleaved at their calls. At most one run for a target is active when every run for it is created
by a request that guards the target and has not been disturbed since its first listing: no run for
the target became active in between. The outline of a request says what it knows of the runs at each
of its calls as long as it is not disturbed.
-/

namespace DqMadeEasy

namespace Runs

open Transition Worker

/-! ### Targets -/

/-- What at most one active run is to exist for. -/
inductive Target where
  | runPlan (id : Text)
  | suite (id : Text) (version : Option ℤ)

section Targets

variable [PyRuntime] [PyNumerals] {Time : Type}

def Target.isFor (target : Target) (run : RunContent Time) : Bool :=
  match target with
  | .runPlan id => activeRunPlanId run == some id
  | .suite id version => normalizedText run.suiteId == some id && run.suiteVersion == version

omit [PyRuntime] [PyNumerals] in
def Target.finds (target : Target) (run : RunContent Time) : Prop :=
  match target with
  | .runPlan _ => True
  | .suite id _ => run.suiteId = some id

omit [PyRuntime] [PyNumerals] in
/-- A guard that looks for the runs of the target. -/
def Identity.guards (guard : Identity) (target : Target) : Prop :=
  match target with
  | .runPlan id => normalizedText guard.runPlanId = some id
  | .suite id version => normalizedText guard.runPlanId = none ∧
      normalizedText guard.suiteId = some id ∧
      (guard.suiteVersion = none ∨ guard.suiteVersion = version)

omit [PyRuntime] [PyNumerals] in
theorem stripped_of_normalizedText {value : Option Text} {t : Text}
    (h : normalizedText value = some t) : Planner.stripped value = t := by
  cases value with
  | none => cases h
  | some s =>
    rw [normalizedText, Option.bind_some, nonBlank] at h
    split at h
    · cases h
    · exact Option.some.inj h

/-- Such a guard takes every active run for the target for a conflict. -/
theorem Identity.conflicts_of_guards {guard : Identity} {target : Target} {run : RunContent Time}
    (hguards : guard.guards target) (hfor : target.isFor run = true)
    (hactive : run.status.active = true) : guard.conflicts run = true := by
  rw [conflicts, hactive, Bool.true_and]
  cases target with
  | runPlan id =>
    rw [show normalizedText guard.runPlanId = some id from hguards]
    exact hfor
  | suite id version =>
    obtain ⟨hplan, hsuite, hversion⟩ := hguards
    rw [Target.isFor, Bool.and_eq_true, beq_iff_eq, beq_iff_eq] at hfor
    rw [hplan, hsuite]
    dsimp only
    rw [stripped_of_normalizedText hfor.1, beq_self_eq_true, Bool.true_and]
    rcases hversion with h | h
    · rw [h]
      rfl
    · rw [h, hfor.2, beq_self_eq_true, Bool.or_true]

omit [PyRuntime] [PyNumerals] in
theorem Identity.guards.selects {guard : Identity} {target : Target} {run : Run Time}
    (hguards : guard.guards target) (hfinds : target.finds run.toRunContent) :
    (guard.query run.status).selects run = true := by
  rw [RunQuery.selects, Identity.query]
  cases target with
  | runPlan id =>
    rw [show normalizedText guard.runPlanId = some id from hguards]
    simp
  | suite id version =>
    rw [hguards.1, hguards.2.1, show run.suiteId = some id from hfinds]
    simp

theorem Target.isFor_congr {Time' : Type} (target : Target) {run : RunContent Time}
    {run' : RunContent Time'} (h : SameObject run run') : target.isFor run = target.isFor run' := by
  cases target with
  | runPlan id => rw [isFor, isFor, activeRunPlanId, activeRunPlanId, h.handoffPayload]
  | suite id version => rw [isFor, isFor, h.suiteId, h.suiteVersion]

omit [PyRuntime] [PyNumerals] in
theorem Target.finds_congr {Time' : Type} {target : Target} {run : RunContent Time}
    {run' : RunContent Time'} (h : SameObject run run') (hfinds : target.finds run') :
    target.finds run := by
  cases target with
  | runPlan id => trivial
  | suite id version => exact h.suiteId.trans hfinds

end Targets

/-! ### The runs for a target -/

section Stores

variable {Store Time : Type} [PyRuntime] [PyNumerals]
variable (listing : Listing Store Time) (target : Target)

def ActiveAt (store : Store) (id : Text) (run : Run Time) : Prop :=
  listing.find? store id = some run ∧ target.isFor run.toRunContent = true ∧
    run.status.active = true

/-- The claim's law. -/
def AtMostOne (store : Store) : Prop :=
  ∀ id run id' run', ActiveAt listing target store id run →
    ActiveAt listing target store id' run' → id = id'

def Findable (store : Store) : Prop :=
  ∀ id run, ActiveAt listing target store id run → target.finds run.toRunContent

def NoActive (store : Store) : Prop := ∀ id run, ¬ActiveAt listing target store id run

def NoPending (store : Store) : Prop :=
  ∀ id run, ActiveAt listing target store id run → run.status ≠ .pending

def wasActive (store : Store) (id : Text) (run' : Run Time) : Bool :=
  (listing.find? store id).any fun run => target.isFor run.toRunContent && run.status.active &&
    (run'.status ≠ .pending || run.status = .pending)

def disturbs (store store' : Store) : Bool :=
  (listing.rows store').any fun row => target.isFor row.2.toRunContent && row.2.status.active &&
    !wasActive listing target store row.1 row.2

variable {listing target} {store store' : Store}

/-- An active run after an undisturbed change was active before it. -/
theorem activeAt_of_undisturbed (hlawful : listing.Lawful)
    (h : disturbs listing target store store' = false) {id : Text} {run' : Run Time}
    (hrun' : ActiveAt listing target store' id run') :
    ∃ run, ActiveAt listing target store id run ∧
      (run'.status = .pending → run.status = .pending) := by
  obtain ⟨hfind', hfor', hactive'⟩ := hrun'
  have hrow := List.any_eq_false.mp h (id, run') (hlawful.rows hfind')
  rw [hfor', hactive', Bool.true_and, Bool.true_and, Bool.not_eq_true', Bool.not_eq_false,
    wasActive] at hrow
  cases hfind : listing.find? store id with
  | none =>
    rw [hfind] at hrow
    cases hrow
  | some run =>
    rw [hfind, Option.any_some, Bool.and_eq_true, Bool.and_eq_true, Bool.or_eq_true,
      decide_eq_true_iff, decide_eq_true_iff] at hrow
    refine ⟨run, ⟨hfind, hrow.1.1, hrow.1.2⟩, fun hpending => ?_⟩
    exact hrow.2.resolve_left fun hne => hne hpending

theorem NoActive.undisturbed (hlawful : listing.Lawful)
    (h : disturbs listing target store store' = false) (hnone : NoActive listing target store) :
    NoActive listing target store' := by
  intro id run' hrun'
  obtain ⟨run, hrun, _⟩ := activeAt_of_undisturbed hlawful h hrun'
  exact hnone id run hrun

theorem NoPending.undisturbed (hlawful : listing.Lawful)
    (h : disturbs listing target store store' = false) (hnone : NoPending listing target store) :
    NoPending listing target store' := by
  intro id run' hrun' hpending
  obtain ⟨run, hrun, hbefore⟩ := activeAt_of_undisturbed hlawful h hrun'
  exact hnone id run hrun (hbefore hpending)

end Stores

/-! ### What changes the runs -/

section Changes

variable {Store Time : Type} [PyRuntime] [PyNumerals]
variable {listing : Listing Store Time} {target : Target} {store : Store}

/-- A transition that makes a finished run for the target active. -/
def Reopens (listing : Listing Store Time) (target : Target) (store : Store)
    (transition : StatusTransition) : Prop :=
  ∃ run, listing.find? store transition.runId = some run ∧
    target.isFor run.toRunContent = true ∧ run.status.active = false ∧
    transition.newStatus.active = true

/-- At most one run for the target is active, and a guard finds it. -/
structure Exclusive (listing : Listing Store Time) (target : Target) (store : Store) : Prop where
  unique : AtMostOne listing target store
  findable : Findable listing target store

/-- An active run after a creation was active before it, or is the one that was created. -/
theorem activeAt_create (hlawful : listing.Lawful) {moment : Moment} {historyId : Text}
    {create : RunCreate} {id : Text} {run : Run Time}
    (h : ActiveAt listing target
      ((listing.createRun moment historyId create).run store).2 id run) :
    ActiveAt listing target store id run ∨ id = create.runId ∧
      SameObject run.toRunContent create.toRunContent ∧ run.status = create.status := by
  rcases hlawful.create moment historyId create store with ⟨exc, hsame⟩ | ⟨_, run', hobject,
      hstatus, hwrites, _⟩
  · left
    rwa [hsame] at h
  · obtain ⟨hfind, hfor, hactive⟩ := h
    by_cases hid : id = create.runId
    · right
      rw [hid, hwrites.run] at hfind
      cases hfind
      exact ⟨hid, hobject, hstatus⟩
    · left
      rw [hwrites.others id hid] at hfind
      exact ⟨hfind, hfor, hactive⟩

/-- An active run after a transition that reopens none was active before it. -/
theorem activeAt_transition (hlawful : listing.Lawful) {moment : Moment} {historyId : Text}
    {transition : StatusTransition} (hreopens : ¬Reopens listing target store transition)
    {id : Text} {run' : Run Time}
    (h : ActiveAt listing target
      ((listing.recordRunStatusTransition moment historyId transition).run store).2 id run') :
    ∃ run, ActiveAt listing target store id run ∧
      SameObject run'.toRunContent run.toRunContent := by
  rcases hlawful.transition moment historyId transition store with ⟨hsame, _⟩ | ⟨run, changed, _,
      hrun, hobject, hstatus, hwrites⟩
  · rw [hsame] at h
    exact ⟨run', h, ⟨rfl, rfl, rfl⟩⟩
  · obtain ⟨hfind, hfor, hactive⟩ := h
    by_cases hid : id = transition.runId
    · rw [hid, hwrites.run] at hfind
      cases hfind
      rw [target.isFor_congr hobject] at hfor
      refine ⟨run, ⟨by rw [hid, hrun], hfor, ?_⟩, hobject⟩
      by_contra hfinished
      exact hreopens ⟨run, hrun, hfor, Bool.eq_false_iff.mpr hfinished, hstatus ▸ hactive⟩
    · rw [hwrites.others id hid] at hfind
      exact ⟨run', ⟨hfind, hfor, hactive⟩, ⟨rfl, rfl, rfl⟩⟩

/-- Creating a run for the target where none is active. -/
theorem Exclusive.create (hlawful : listing.Lawful) (h : Exclusive listing target store)
    {create : RunCreate}
    (hcreate : target.isFor create.toRunContent = true → create.status.active = true →
      NoActive listing target store ∧ target.finds create.toRunContent)
    (moment : Moment) (historyId : Text) :
    Exclusive listing target ((listing.createRun moment historyId create).run store).2 := by
  have hnew : ∀ {id run}, ActiveAt listing target
      ((listing.createRun moment historyId create).run store).2 id run →
      SameObject run.toRunContent create.toRunContent → run.status = create.status →
      NoActive listing target store ∧ target.finds create.toRunContent := by
    intro id run hrun hobject hstatus
    exact hcreate (target.isFor_congr hobject ▸ hrun.2.1) (hstatus ▸ hrun.2.2)
  constructor
  · intro id run id' run' hrun hrun'
    rcases activeAt_create hlawful hrun with hold | ⟨hid, hobject, hstatus⟩
    · rcases activeAt_create hlawful hrun' with hold' | ⟨hid', hobject', hstatus'⟩
      · exact h.unique id run id' run' hold hold'
      · exact absurd hold ((hnew hrun' hobject' hstatus').1 id run)
    · rcases activeAt_create hlawful hrun' with hold' | ⟨hid', _, _⟩
      · exact absurd hold' ((hnew hrun hobject hstatus).1 id' run')
      · rw [hid, hid']
  · intro id run hrun
    rcases activeAt_create hlawful hrun with hold | ⟨_, hobject, hstatus⟩
    · exact h.findable id run hold
    · exact Target.finds_congr hobject (hnew hrun hobject hstatus).2

theorem Exclusive.transition (hlawful : listing.Lawful) (h : Exclusive listing target store)
    {transition : StatusTransition} (hreopens : ¬Reopens listing target store transition)
    (moment : Moment) (historyId : Text) :
    Exclusive listing target
      ((listing.recordRunStatusTransition moment historyId transition).run store).2 := by
  constructor
  · intro id run id' run' hrun hrun'
    obtain ⟨before, hbefore, _⟩ := activeAt_transition hlawful hreopens hrun
    obtain ⟨before', hbefore', _⟩ := activeAt_transition hlawful hreopens hrun'
    exact h.unique id before id' before' hbefore hbefore'
  · intro id run hrun
    obtain ⟨before, hbefore, hobject⟩ := activeAt_transition hlawful hreopens hrun
    exact Target.finds_congr hobject (h.findable id before hbefore)

end Changes

/-! ### What a request knows -/

/-- What a request sees: the runs, and whether it was disturbed since its first listing. -/
structure View (Store : Type) where
  store : Store
  disturbed : Bool

/-- The listing that a guard begins with. -/
def Call.startsListing : Call → Bool
  | .listRuns query => query.status = .pending
  | .assertDispatchWorker .. | .assertJoinPairMaterializationWorker .. | .createRun _
  | .enqueuePayload .. | .recordRunStatusTransition _ => false

section Outlines

variable {Store Time : Type} [PyRuntime] [PyNumerals]
variable (listing : Listing Store Time) (target : Target)

/-- Another step: a request that was disturbed stays so, and one that is not was not. -/
def Interferes (view view' : View Store) : Prop :=
  view'.disturbed = (view.disturbed || disturbs listing target view.store view'.store)

/-- A call of the request, on runs that are findable. -/
def Serves (call : Call) (view : View Store) (answer : Except ApiError (Call.Answer Time call))
    (view' : View Store) : Prop :=
  Findable listing target view.store ∧ ∃ circumstances queue s',
    (listing.serve circumstances call).run ⟨view.store, queue⟩ = (answer, s') ∧
    view'.store = s'.runs ∧
    view'.disturbed = ((!call.startsListing && view.disturbed) ||
      disturbs listing target view.store view'.store)

/-- A run for the target is created only where none is active, unless the request was disturbed. -/
def MayCall (view : View Store) (call : Call) : Prop :=
  ∀ create, call = .createRun create → target.isFor create.toRunContent = true →
    view.disturbed = false → NoActive listing target view.store

abbrev Justified (program : Request Time DispatchPayload) (view : View Store) : Prop :=
  program.Follows (Serves listing target) (Interferes listing target) (MayCall listing target) view

abbrev Outlined {α : Type} (program : Request Time α) (K : View Store → Prop)
    (Q : α → View Store → Prop) : Prop :=
  program.Outline (Serves listing target) (Interferes listing target) (MayCall listing target) K Q

variable {listing target} {view view' : View Store}

def KnowsNone (listing : Listing Store Time) (target : Target) (view : View Store) : Prop :=
  view.disturbed = false → NoActive listing target view.store

theorem undisturbed_of_interferes (h : Interferes listing target view view')
    (hview : view'.disturbed = false) :
    view.disturbed = false ∧ disturbs listing target view.store view'.store = false := by
  rw [h, Bool.or_eq_false_iff] at hview
  exact hview

theorem stable_knowsNone (hlawful : listing.Lawful) :
    Program.Stable (Interferes listing target) (KnowsNone listing target) := by
  intro view view' hknows h hview
  obtain ⟨hbefore, hcalm⟩ := undisturbed_of_interferes h hview
  exact (hknows hbefore).undisturbed hlawful hcalm

theorem interferes_of_serves {call : Call} {answer : Except ApiError (Call.Answer Time call)}
    (hcall : call.startsListing = false) (h : Serves listing target call view answer view') :
    Interferes listing target view view' := by
  obtain ⟨_, _, _, _, _, _, hdisturbed⟩ := h
  rw [hcall, Bool.not_false, Bool.true_and] at hdisturbed
  exact hdisturbed

theorem outlined_other {call : Call} {K : View Store → Prop}
    (hK : Program.Stable (Interferes listing target) K) (hlists : call.startsListing = false)
    (hcreates : ∀ create, call ≠ .createRun create) :
    Outlined listing target (Program.perform call) K fun _ => K :=
  Program.Outline.perform (fun _ _ create h => absurd h (hcreates create)) (fun _ => hK)
    fun view _ view' h hserves => hK view view' h (interferes_of_serves hlists hserves)

theorem outlined_raise {α : Type} (exc : ApiError) (K : View Store → Prop)
    (Q : α → View Store → Prop) :
    Outlined listing target (.raise exc : Request Time α) K Q := trivial

/-- A listing that returns leaves the runs and returns all that its query selects. -/
theorem listed_of_serves {query : RunQuery} {runs : List (RunEntity Time)}
    (h : Serves listing target (.listRuns query) view (.ok runs) view') :
    view'.store = view.store ∧ Findable listing target view.store ∧
      ∀ row ∈ listing.rows view.store, query.selects row.2 = true →
        ∃ run ∈ runs, run.toRun = row.2 := by
  obtain ⟨hfindable, circumstances, queue, s', hserve, hstore, _⟩ := h
  have heffect := Listing.ok_of_serve hserve
  rw [Listing.effect, Effect.run_ofState] at heffect
  obtain ⟨hanswer, hstate⟩ := Prod.mk.inj heffect
  refine ⟨by rw [hstore, ← hstate], hfindable, fun row hrow hselects => ?_⟩
  cases hruns : listing.listRuns query view.store with
  | error exc =>
    rw [hruns] at hanswer
    cases hanswer
  | ok listed =>
    rw [hruns] at hanswer
    cases hanswer
    obtain ⟨run, hmem, hbuild⟩ := mapM_mem hruns (List.mem_filter.mpr ⟨hrow, hselects⟩)
    exact ⟨run, hmem, by rw [toRun_of_buildRunEntity hbuild]⟩

theorem none_listed {guard : Identity} (hlawful : listing.Lawful) (hguards : guard.guards target)
    {status : RunStatus} {runs : List (RunEntity Time)}
    (h : Serves listing target (.listRuns (guard.query status)) view (.ok runs) view')
    (hconflicts : ∀ run ∈ runs, guard.conflicts run.toRunContent = false) (id : Text)
    (run : Run Time) (hrun : ActiveAt listing target view'.store id run) : run.status ≠ status := by
  intro hstatus
  obtain ⟨hstore, hfindable, hlisted⟩ := listed_of_serves h
  rw [hstore] at hrun
  have hselects := hguards.selects (hfindable id run hrun)
  rw [hstatus] at hselects
  obtain ⟨listed, hmem, hrow⟩ := hlisted (id, run) (hlawful.rows hrun.1) hselects
  have hconflict := Identity.conflicts_of_guards hguards hrun.2.1 hrun.2.2
  rw [← show listed.toRun = run from hrow, hconflicts listed hmem] at hconflict
  cases hconflict

/-- The guard: where it returns, no run for the target is active, unless the request was
disturbed. -/
theorem outlined_guard (hlawful : listing.Lawful) {guard : Identity}
    (hguards : guard.guards target) :
    Outlined listing target (assertNoActiveGxExecutionConflict guard) (fun _ => True)
      fun _ => KnowsNone listing target := by
  have hsome : ((normalizedText guard.runPlanId).isNone && (normalizedText guard.suiteId).isNone) =
      false := by
    cases target with
    | runPlan id =>
      rw [show normalizedText guard.runPlanId = some id from hguards]
      rfl
    | suite id version =>
      rw [hguards.2.1]
      exact Bool.and_false _
  rw [assertNoActiveGxExecutionConflict, hsome]
  apply Program.Outline.bind (Q := fun runs view =>
    (∀ run ∈ runs, guard.conflicts run.toRunContent = false) → view.disturbed = false →
      NoPending listing target view.store)
  · refine Program.Outline.perform (fun _ _ _ h => by cases h) ?_ ?_
    · intro runs view view' hknows hinterferes hconflicts hview
      obtain ⟨hbefore, hcalm⟩ := undisturbed_of_interferes hinterferes hview
      exact (hknows hconflicts hbefore).undisturbed hlawful hcalm
    · intro view runs view' _ hserves hconflicts _
      exact none_listed hlawful hguards hserves hconflicts
  · intro pending
    apply Program.Outline.bind (Q := fun runs view =>
      (∀ run ∈ pending ++ runs, guard.conflicts run.toRunContent = false) →
        KnowsNone listing target view)
    · refine Program.Outline.perform (fun _ _ _ h => by cases h) ?_ ?_
      · exact fun runs view view' hknows h hconflicts =>
          stable_knowsNone hlawful view view' (hknows hconflicts) h
      · intro view runs view' hknows hserves hconflicts hview id run hrun
        obtain ⟨hbefore, _⟩ := undisturbed_of_interferes (interferes_of_serves rfl hserves) hview
        have hnoPending := hknows (fun r hr => hconflicts r (List.mem_append_left _ hr)) hbefore
        rw [← (listed_of_serves hserves).1] at hnoPending
        have hnotRunning := none_listed hlawful hguards hserves
          (fun r hr => hconflicts r (List.mem_append_right _ hr)) id run hrun
        have hnotPending := hnoPending id run hrun
        have hactive := hrun.2.2
        cases hstatus : run.status with
        | pending => exact hnotPending hstatus
        | running => exact hnotRunning hstatus
        | succeeded | failed | cancelled =>
          rw [hstatus] at hactive
          cases hactive
    · intro running
      cases hfind : (pending ++ running).find? fun run => guard.conflicts run.toRunContent with
      | some run => trivial
      | none =>
        intro view hknows
        exact hknows fun run hrun => Bool.eq_false_iff.mpr (List.find?_eq_none.mp hfind run hrun)

theorem stable_true : Program.Stable (Interferes listing target) fun _ => True :=
  fun _ _ _ _ => trivial

theorem outlined_create (create : RunCreate) :
    Outlined listing target (Request.createRun create) (KnowsNone listing target)
      fun _ _ => True :=
  Program.Outline.perform (fun _ hknows _ _ _ hview => hknows hview) (fun _ => stable_true)
    fun _ _ _ _ _ => trivial

theorem outlined_accept (hlawful : listing.Lawful) (callables : Callables)
    (command : EnqueueScheduledGxSuiteRunCommand) (redisUrl : Text) (payload : DispatchPayload) :
    Outlined listing target (acceptPayload callables command redisUrl payload)
      (KnowsNone listing target) fun _ => KnowsNone listing target := by
  rw [acceptPayload]
  split
  · apply Program.Outline.bind
      (outlined_other (stable_knowsNone hlawful) rfl fun _ h => by cases h)
    intro _
    exact Program.Outline.ofExcept_bind fun _ _ _ hknows => hknows
  · exact fun _ hknows => hknows

/-- A suite dispatch whose guard is for the target, up to its payload. -/
theorem outlined_prepare (hlawful : listing.Lawful) (callables : Callables)
    (build : BuildDispatchPayload) (fresh : Text) {command : EnqueueScheduledGxSuiteRunCommand}
    (hguards : command.identity.guards target) :
    Outlined listing target (prepareSuiteRun callables build fresh command)
      (fun _ => True) fun _ => KnowsNone listing target := by
  rw [prepareSuiteRun]
  split
  · exact outlined_raise _ _ _
  · exact outlined_raise _ _ _
  · apply Program.Outline.bind (outlined_other stable_true rfl fun _ h => by cases h)
    intro _
    apply Program.Outline.ofExcept_bind
    intro payload _
    apply Program.Outline.bind (outlined_guard hlawful hguards)
    intro _
    exact Program.Outline.bind (outlined_accept hlawful callables command _ payload)
      fun _ _ hknows => hknows

/-- A suite dispatch whose guard is for the target. -/
theorem outlined_suite (hlawful : listing.Lawful) (callables : Callables)
    (build : BuildDispatchPayload) (fresh : Text) {command : EnqueueScheduledGxSuiteRunCommand}
    (hguards : command.identity.guards target) :
    Outlined listing target (enqueueScheduledGxSuiteRun callables build fresh command)
      (fun _ => True) fun _ _ => True := by
  apply Program.Outline.bind (outlined_prepare hlawful callables build fresh hguards)
  rintro ⟨redisUrl, correlationId, accepted⟩
  refine Program.Outline.bind (Q := fun _ _ => True) ?_ fun _ => ?_
  · -- The creation of the run, with its handler.
    refine Program.Outline.rescue ?_ fun _ => outlined_raise _ _ _
    exact Program.Outline.ofExcept_bind fun create _ => outlined_create create
  · refine Program.Outline.bind (Q := fun _ _ => True) ?_ fun _ _ _ => trivial
    -- The push of the message, with the compensation.
    refine Program.Outline.rescue
      (outlined_other stable_true rfl fun _ h => by cases h) fun exc => ?_
    split
    · exact Program.Outline.bind (outlined_other stable_true rfl fun _ h => by cases h)
        fun _ => outlined_raise _ _ _
    · exact outlined_raise _ _ _

theorem outlined_prepareGrouped (callables : Callables) (build : BuildDispatchPayload)
    (fresh : Text) (command : CreateGroupedScopeGxRunCommand) :
    Outlined listing target (prepareGroupedRun callables build fresh command) (fun _ => True)
      fun prepared _ => build (textOr command.correlationId (some fresh)) = .ok prepared.2 := by
  apply Program.Outline.ofExcept_bind
  intro _ _
  split
  · exact outlined_raise _ _ _
  · exact outlined_raise _ _ _
  · apply Program.Outline.bind (outlined_other stable_true rfl fun _ h => by cases h)
    intro _
    apply Program.Outline.ofExcept_bind
    exact fun payload hbuild _ _ => hbuild

/-- A grouped dispatch whose payload's identity is for the target. -/
theorem outlined_grouped (hlawful : listing.Lawful) (callables : Callables)
    (build : BuildDispatchPayload) (fresh statusSource statusReason : Text)
    {command : CreateGroupedScopeGxRunCommand}
    (hguards : ∀ payload, build (textOr command.correlationId (some fresh)) = .ok payload →
      (dispatchIdentityForConflict payload).guards target) :
    Outlined listing target
      (createGroupedScopeGxRun callables build fresh statusSource statusReason command)
      (fun _ => True) fun _ _ => True := by
  apply Program.Outline.bind (outlined_prepareGrouped callables build fresh command)
  rintro ⟨redisUrl, payload⟩
  apply Program.Outline.assume
  intro hbuild
  refine Program.Outline.bind (Q := fun _ _ => True) ?_ fun _ => ?_
  · -- The guard and the creation of the run, with their handler.
    refine Program.Outline.rescue ?_ fun _ => outlined_raise _ _ _
    apply Program.Outline.bind (outlined_guard hlawful (hguards payload hbuild))
    intro _
    exact Program.Outline.ofExcept_bind fun create _ => outlined_create create
  · refine Program.Outline.bind (Q := fun _ _ => True) ?_ fun _ _ _ => trivial
    exact Program.Outline.rescue
      (outlined_other stable_true rfl fun _ h => by cases h) fun _ => outlined_raise _ _ _

end Outlines

/-! ### Interleaved requests -/

/-- A request as it is submitted. -/
inductive Submission where
  | suite (callables : Callables) (build : BuildDispatchPayload) (fresh : Text)
      (command : EnqueueScheduledGxSuiteRunCommand)
  | grouped (callables : Callables) (build : BuildDispatchPayload)
      (fresh statusSource statusReason : Text) (command : CreateGroupedScopeGxRunCommand)

/-- A request in progress: what its guard looks for, and what it has still to do. -/
structure Thread (Time : Type) where
  guard : Identity
  rest : Request Time DispatchPayload

/-- The stores, the requests by number, and for each whether a run for the target became active since
its first listing. -/
structure Scheduler (Store Time : Type) where
  backend : Backend Store
  threads : ℕ → Option (Thread Time)
  disturbed : ℕ → Bool

/-- What happens: a request is submitted, a request makes its next call, or the runs are changed by
others, the workers and the entry points without a guard. -/
inductive ScheduleEvent where
  | submit (i : ℕ) (submission : Submission)
  | call (i : ℕ) (circumstances : Circumstances)
  | transition (moment : Moment) (historyId : Text) (transition : StatusTransition)
  | create (moment : Moment) (historyId : Text) (create : RunCreate)

section Interleaving

variable {Store Time : Type} [PyRuntime] [PyNumerals]

def Submission.guard : Submission → Identity
  | .suite _ _ _ command => command.identity
  | .grouped _ build fresh _ _ command =>
    match build (textOr command.correlationId (some fresh)) with
    | .ok payload => dispatchIdentityForConflict payload
    | .error _ => ⟨none, none, none⟩

def Submission.program : Submission → Request Time DispatchPayload
  | .suite callables build fresh command => enqueueScheduledGxSuiteRun callables build fresh command
  | .grouped callables build fresh statusSource statusReason command =>
    createGroupedScopeGxRun callables build fresh statusSource statusReason command

def Submission.thread (submission : Submission) : Thread Time :=
  ⟨submission.guard, submission.program⟩

theorem Submission.outlined {listing : Listing Store Time} {target : Target}
    (hlawful : listing.Lawful) {submission : Submission}
    (hguards : submission.guard.guards target) :
    Outlined listing target (submission.program : Request Time DispatchPayload) (fun _ => True)
      fun _ _ => True := by
  cases submission with
  | suite callables build fresh command => exact outlined_suite hlawful callables build fresh hguards
  | grouped callables build fresh statusSource statusReason command =>
    refine outlined_grouped hlawful callables build fresh statusSource statusReason ?_
    intro payload hbuild
    rw [guard, hbuild] at hguards
    exact hguards

namespace Scheduler

variable (listing : Listing Store Time) (target : Target)

def start : Scheduler Store Time := ⟨⟨listing.empty, []⟩, fun _ => none, fun _ => false⟩

/-- The runs are changed. A request that begins its guard has not been disturbed before. -/
def change (s : Scheduler Store Time) (backend : Backend Store)
    (begins : ℕ → Bool) : Scheduler Store Time :=
  { s with
    backend
    disturbed := fun i => (!begins i && s.disturbed i) ||
      disturbs listing target s.backend.runs backend.runs }

/-- The scheduler after an event. -/
def next (s : Scheduler Store Time) : ScheduleEvent → Scheduler Store Time
  | .submit i submission =>
    { s with threads := fun j => if j = i then some submission.thread else s.threads j }
  | .call i circumstances =>
    match s.threads i with
    | some ⟨guard, .call op rest⟩ =>
      let served := (listing.serve circumstances op).run s.backend
      { s.change listing target served.2 fun j => j = i && op.startsListing with
        threads := fun j => if j = i then some ⟨guard, rest served.1⟩ else s.threads j }
    | _ => s
  | .transition moment historyId transition =>
    s.change listing target { s.backend with
      runs := ((listing.recordRunStatusTransition moment historyId transition).run
        s.backend.runs).2 } fun _ => false
  | .create moment historyId create =>
    s.change listing target { s.backend with
      runs := ((listing.createRun moment historyId create).run s.backend.runs).2 } fun _ => false

/-- A number is given to one request. -/
def Enabled (s : Scheduler Store Time) : ScheduleEvent → Prop
  | .submit i _ => s.threads i = none
  | .call .. | .transition .. | .create .. => True

def Step (s : Scheduler Store Time) (event : ScheduleEvent) (s' : Scheduler Store Time) : Prop :=
  Enabled s event ∧ s' = next listing target s event

/-- A call that a careful scheduler lets a request make: a run for the target is created by a request
that guards it, that has not been disturbed since its first listing, and whose run a guard finds. -/
def CarefulCall (s : Scheduler Store Time) (i : ℕ) (guard : Identity) : Call → Prop
  | .createRun create => target.isFor create.toRunContent = true →
      guard.guards target ∧ s.disturbed i = false ∧ target.finds create.toRunContent
  | .recordRunStatusTransition transition => ¬Reopens listing target s.backend.runs transition
  | .assertDispatchWorker .. | .assertJoinPairMaterializationWorker .. | .listRuns _
  | .enqueuePayload .. => True

/-- The condition on a step. -/
def Careful (s : Scheduler Store Time) : ScheduleEvent → Prop
  | .submit _ _ => True
  | .call i _ => ∀ guard op rest, s.threads i = some ⟨guard, .call op rest⟩ →
      CarefulCall listing target s i guard op
  | .transition _ _ transition => ¬Reopens listing target s.backend.runs transition
  | .create _ _ create =>
    ¬(target.isFor create.toRunContent = true ∧ create.status.active = true)

/-! ### The invariant -/

variable {listing target} {s : Scheduler Store Time}

/-- The invariant: at most one run for the target is active, and every request that guards the target
follows its outline. -/
structure Guarded (listing : Listing Store Time) (target : Target) (s : Scheduler Store Time) :
    Prop where
  exclusive : Exclusive listing target s.backend.runs
  justified : ∀ i thread, s.threads i = some thread → thread.guard.guards target →
    Justified listing target thread.rest ⟨s.backend.runs, s.disturbed i⟩

theorem interferes_change (s : Scheduler Store Time) (backend : Backend Store)
    {begins : ℕ → Bool} {i : ℕ} (h : begins i = false) :
    Interferes listing target ⟨s.backend.runs, s.disturbed i⟩
      ⟨backend.runs, (s.change listing target backend begins).disturbed i⟩ := by
  show ((!begins i && s.disturbed i) || _) = _
  rw [h]
  rfl

theorem Guarded.change (h : Guarded listing target s) {backend : Backend Store}
    (hexclusive : Exclusive listing target backend.runs) :
    Guarded listing target (s.change listing target backend fun _ => false) := by
  refine ⟨hexclusive, fun i thread hthread hguards => ?_⟩
  exact (h.justified i thread hthread hguards).undisturbed (interferes_change s backend rfl)

/-- A call in a careful step keeps the runs exclusive. -/
theorem Guarded.exclusive_serve (hlawful : listing.Lawful) (h : Guarded listing target s) {i : ℕ}
    {guard : Identity} {op : Call} {rest : Except ApiError (Call.Answer Time op) →
      Request Time DispatchPayload} (hthread : s.threads i = some ⟨guard, .call op rest⟩)
    (hcareful : CarefulCall listing target s i guard op) (circumstances : Circumstances) :
    Exclusive listing target ((listing.serve circumstances op).run s.backend).2.runs := by
  rcases listing.snd_serve circumstances op s.backend with hsame | heffect
  · rw [hsame]
    exact h.exclusive
  rw [heffect]
  cases op with
  | assertDispatchWorker | assertJoinPairMaterializationWorker | listRuns | enqueuePayload =>
    exact h.exclusive
  | createRun create =>
    rw [Listing.snd_effect_createRun]
    refine h.exclusive.create hlawful (fun hfor _ => ?_) _ _
    obtain ⟨hguards, hundisturbed, hfinds⟩ := hcareful hfor
    have hmay := (h.justified i _ hthread hguards).permitted
    exact ⟨hmay create rfl hfor hundisturbed, hfinds⟩
  | recordRunStatusTransition transition =>
    rw [Listing.snd_effect_recordRunStatusTransition]
    exact h.exclusive.transition hlawful hcareful _ _

/-- A careful step keeps the invariant. -/
theorem Guarded.next (hlawful : listing.Lawful) (h : Guarded listing target s)
    {event : ScheduleEvent} (hcareful : Careful listing target s event) :
    Guarded listing target (s.next listing target event) := by
  cases event with
  | submit i submission =>
    refine ⟨h.exclusive, fun j thread hthread hguards => ?_⟩
    rw [Scheduler.next] at hthread
    dsimp only at hthread
    split at hthread
    · cases hthread
      exact ⟨fun _ => True, stable_true, trivial, Submission.outlined hlawful hguards⟩
    · exact h.justified j thread hthread hguards
  | call i circumstances =>
    rw [Scheduler.next]
    split
    · rename_i guard op rest hthread
      have hexclusive := h.exclusive_serve hlawful hthread (hcareful _ _ _ hthread) circumstances
      refine ⟨hexclusive, fun j thread hj hguards => ?_⟩
      dsimp only at hj
      split at hj
      · -- The request itself goes on with the answer.
        rename_i hji
        cases hj
        refine (h.justified i _ hthread hguards).call
          ⟨h.exclusive.findable, circumstances, s.backend.queue, _, rfl, rfl, ?_⟩
        show ((!(decide (j = i) && op.startsListing) && s.disturbed j) || _) = _
        rw [hji, decide_eq_true rfl, Bool.true_and]
        rfl
      · rename_i hji
        have hother : (decide (j = i) && op.startsListing) = false := by
          rw [decide_eq_false hji]
          rfl
        exact (h.justified j thread hj hguards).undisturbed (@interferes_change Store Time _ _
          listing target s ((listing.serve circumstances op).run s.backend).2
          (fun j => decide (j = i) && op.startsListing) j hother)
    · exact h
  | transition moment historyId transition =>
    exact h.change (h.exclusive.transition hlawful hcareful moment historyId)
  | create moment historyId create =>
    exact h.change (h.exclusive.create hlawful
      (fun hfor hactive => absurd ⟨hfor, hactive⟩ hcareful) moment historyId)

theorem guarded_start (hlawful : listing.Lawful) :
    Guarded listing target (Scheduler.start listing) := by
  have hnone : ∀ id run, ¬ActiveAt listing target listing.empty id run := by
    intro id run hrun
    rw [ActiveAt, hlawful.empty] at hrun
    cases hrun.1
  exact ⟨⟨fun id run _ _ hrun => absurd hrun (hnone id run),
    fun id run hrun => absurd hrun (hnone id run)⟩, fun _ _ h => by cases h⟩

def OneActiveRun (listing : Listing Store Time)
    (meets : Target → Scheduler Store Time → ScheduleEvent → Prop) : Prop :=
  ∀ target events s, Runs (Scheduler.Step listing target) (meets target)
    (Scheduler.start listing) events s → AtMostOne listing target s.backend.runs

theorem oneActiveRun_of_lawful (hlawful : listing.Lawful) :
    OneActiveRun listing (Careful listing) := by
  intro target events s hrun
  have hguarded : Guarded listing target s := by
    refine hrun.invariant (guarded_start hlawful) ?_
    rintro s event s' hs ⟨_, rfl⟩ hcareful
    exact hs.next hlawful hcareful
  exact hguarded.exclusive.unique

end Scheduler

end Interleaving

/-- At most one active run, in both repositories: in every run of submissions, calls, transitions and
creations in which a run for the target is created only by a request that guards the target and has
not been disturbed since its first listing, and none is reopened, at most one run for the target is
active in every state. -/
theorem one_active_run [PyRuntime] [PyNumerals] [PyDatetime] :
    Scheduler.OneActiveRun InMemory.listing (Scheduler.Careful InMemory.listing) ∧
      Scheduler.OneActiveRun Postgres.listing (Scheduler.Careful Postgres.listing) :=
  ⟨Scheduler.oneActiveRun_of_lawful InMemory.listing_lawful,
    Scheduler.oneActiveRun_of_lawful Postgres.listing_lawful⟩

section Example

local instance sampleRuntimeSchedule : PyRuntime := .ascii (fun _ => .nan) (fun _ => [])

local instance sampleNumeralsSchedule : PyNumerals := ⟨fun _ => none, fun _ => none, id⟩

local instance sampleDatetimeSchedule : PyDatetime := .epoch

/-- The plan is dispatched. -/
def sampleSubmission (runId : String) : Submission :=
  .grouped sampleCallables (fun _ => .ok (samplePayload runId)) "corr" "source"
    "reason" sampleGrouped

def servedCall (i : ℕ) : ScheduleEvent := .call i ⟨.served, ⟨1, 1⟩, "history"⟩

def afterEvents (events : List ScheduleEvent) (s : Scheduler InMemory.Store Text) :
    Scheduler InMemory.Store Text :=
  events.foldl (Scheduler.next InMemory.listing (.runPlan "plan")) s

theorem runs_of_calls {events : List ScheduleEvent} {s : Scheduler InMemory.Store Text}
    (calls : List ℕ)
    (h : Runs (Scheduler.Step InMemory.listing (.runPlan "plan")) (fun _ _ => True)
      (Scheduler.start InMemory.listing) events s) :
    ∃ events', Runs (Scheduler.Step InMemory.listing (.runPlan "plan")) (fun _ _ => True)
      (Scheduler.start InMemory.listing) events' (afterEvents (calls.map servedCall) s) := by
  induction calls generalizing events s with
  | nil => exact ⟨events, h⟩
  | cons i calls ih =>
    have henabled : Scheduler.Enabled s (servedCall i) := trivial
    exact ih (h.snoc ⟨henabled, rfl⟩ trivial)

/-- Two dispatches of the plan have been submitted. -/
def submittedTwice : Scheduler InMemory.Store Text :=
  afterEvents [.submit 0 (sampleSubmission "run-1"), .submit 1 (sampleSubmission "run-2")]
    (Scheduler.start InMemory.listing)

/-- Both have made their listings, and then both create their run. -/
def createdTwice : Scheduler InMemory.Store Text :=
  afterEvents ([0, 0, 0, 1, 1, 1, 0, 1].map servedCall) submittedTwice

def sampleActive (s : Scheduler InMemory.Store Text) (id : String) : Bool :=
  (s.backend.runs.find? id.toList).any fun run =>
    (Target.runPlan "plan").isFor run.toRunContent && run.status.active

/-- Two requests that both list before either creates leave two active runs of one run plan. -/
theorem one_active_run_counterexample :
    ¬Scheduler.OneActiveRun InMemory.listing fun _ _ _ => True := by
  intro h
  have hsubmitted : Runs (Scheduler.Step InMemory.listing (.runPlan "plan")) (fun _ _ => True)
      (Scheduler.start InMemory.listing)
      ([] ++ [.submit 0 (sampleSubmission "run-1")] ++ [.submit 1 (sampleSubmission "run-2")])
      submittedTwice := .snoc (.snoc .refl ⟨rfl, rfl⟩ trivial) ⟨rfl, rfl⟩ trivial
  obtain ⟨events, hcreated⟩ := runs_of_calls [0, 0, 0, 1, 1, 1, 0, 1] hsubmitted
  have hunique := h (.runPlan "plan") events createdTwice hcreated
  have hactive : ∀ id : String, sampleActive createdTwice id = true →
      ∃ run, ActiveAt InMemory.listing (.runPlan "plan") createdTwice.backend.runs
        id.toList run := by
    intro id hid
    rw [sampleActive, Option.any_eq_true_iff_get] at hid
    obtain ⟨hsome, hrun⟩ := hid
    rw [Bool.and_eq_true] at hrun
    exact ⟨_, (Option.some_get hsome).symm, hrun.1, hrun.2⟩
  obtain ⟨run, hrun⟩ := hactive "run-1" (by decide +kernel)
  obtain ⟨run', hrun'⟩ := hactive "run-2" (by decide +kernel)
  exact absurd (hunique _ _ _ _ hrun hrun') (by decide)

end Example

end Runs

end DqMadeEasy
