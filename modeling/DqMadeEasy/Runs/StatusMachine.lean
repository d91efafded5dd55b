import Mathlib.Data.List.Chain
import DqMadeEasy.Logic.Transition
import DqMadeEasy.Runs.InMemory
import DqMadeEasy.Runs.Postgres
import DqMadeEasy.Runs.Report

/-!
# The status machine of runs

Neither repository guards a transition. A run keeps its terminal status, its history is a chain and
its failure code is its own when every transition that is recorded is orderly: it repeats a terminal
status, does not succeed over a failure code of an earlier report, and stamps its entry after the
earlier ones. What a method writes is stated once for both repositories, and the invariant is carried
from that.
-/

namespace DqMadeEasy

namespace Runs

open Transition Worker

/-! ### What the methods write -/

section Lawful

variable {Store Time : Type}

/-- A write to one run: its new state and the history entries that are added. -/
structure Writes (repository : RunRepository Store Time) (store after : Store) (runId : Text)
    (run : Run Time) (added : List StatusHistory) : Prop where
  run : repository.find? after runId = some run
  others : ∀ id, id ≠ runId → repository.find? after id = repository.find? store id
  entries : repository.entries after runId = repository.entries store runId ++ added
  otherEntries : ∀ id, id ≠ runId → repository.entries after id = repository.entries store id

/-- What is common to the two repositories. -/
structure Lawful (repository : RunRepository Store Time) : Prop where
  empty : ∀ id, repository.find? repository.empty id = none ∧
    repository.entries repository.empty id = []
  create : ∀ moment historyId (create : RunCreate) store,
    let after := ((repository.createRun moment historyId create).run store).2
    after = store ∨ repository.find? store create.runId = none ∧ ∃ run : Run Time,
      run.status = create.status ∧ run.failureCode = create.failureCode ∧
      Writes repository store after create.runId run
        [create.historyEntry historyId (repository.stamp moment)]
  unrecorded : ∀ moment historyId transition store,
    repository.records moment transition store = false →
    ((repository.recordRunStatusTransition moment historyId transition).run store).2 = store
  recorded : ∀ moment historyId transition store,
    repository.records moment transition store = true → ∃ run run' : Run Time,
      repository.find? store transition.runId = some run ∧
      run'.status = transition.newStatus ∧
      run'.failureCode = transition.failureCode.or run.failureCode ∧
      Writes repository store
        ((repository.recordRunStatusTransition moment historyId transition).run store).2
        transition.runId run'
        (if run.status = transition.newStatus then []
          else [transition.historyEntry historyId run.status (repository.stamp moment)])
  comments : ∀ moment runId comments store,
    let after := ((repository.updateRunComments moment runId comments).run store).2
    after = store ∨ ∃ run run' : Run Time, repository.find? store runId = some run ∧
      run'.status = run.status ∧ run'.failureCode = run.failureCode ∧
      Writes repository store after runId run' []
  lists : ∀ store runId rows, repository.Lists store runId rows →
    (repository.entries store runId).Pairwise
      (fun a b => repository.Ordered a.changedAt b.changedAt) →
    rows = repository.entries store runId

end Lawful

namespace InMemory

variable [PyRuntime] [PyNumerals] [PyDatetime]

/-- Replacing a run and adding entries of it. -/
theorem writes_put_append (store : Store) {runId : Text} (run : Run Text)
    {added : List StatusHistory} (hadded : ∀ entry ∈ added, entry.runId = runId) :
    Writes repository store ((store.put runId run).append added) runId run added := by
  constructor
  · exact Store.find?_put_self store runId run
  · intro id hid
    exact Store.find?_put_of_ne store run hid
  · show ((store.put runId run).append added).entries runId = store.entries runId ++ added
    rw [Store.entries_append, Store.entries_put,
      List.filter_eq_self.mpr fun entry h => decide_eq_true (hadded entry h)]
  · intro id hid
    show ((store.put runId run).append added).entries id = store.entries id
    rw [Store.entries_append, Store.entries_put, List.filter_eq_nil_iff.mpr, List.append_nil]
    intro entry h
    rw [decide_eq_true_iff, hadded entry h]
    exact Ne.symm hid

theorem writes_put (store : Store) (runId : Text) (run : Run Text) :
    Writes repository store (store.put runId run) runId run [] := by
  constructor
  · exact Store.find?_put_self store runId run
  · intro id hid
    exact Store.find?_put_of_ne store run hid
  · exact (List.append_nil _).symm
  · exact fun _ _ => rfl

theorem lawful : Lawful repository := by
  constructor
  · exact fun _ => ⟨rfl, rfl⟩
  · intro moment historyId create store after
    cases hfind : store.find? create.runId with
    | some run =>
      left
      show ((createRun moment historyId create).run store).2 = store
      rw [createRun, Effect.run_ofState, hfind]
    | none =>
      right
      have hafter : after = (store.put create.runId
          { create.toRunContent with
            metrics := createdMetrics create
            createdAt := moment.now
            updatedAt := moment.now }).append [create.historyEntry historyId moment.now] := by
        show ((createRun moment historyId create).run store).2 = _
        rw [createRun, Effect.run_ofState, hfind]
      rw [hafter]
      refine ⟨hfind, _, rfl, rfl, writes_put_append store _ ?_⟩
      intro entry h
      rw [List.mem_singleton.mp h]
      rfl
  · intro moment historyId transition store h
    have hfind : store.find? transition.runId = none := Option.not_isSome_iff_eq_none.mp (by
      rw [show (store.find? transition.runId).isSome = false from h]
      exact Bool.false_ne_true)
    show ((recordRunStatusTransition moment historyId transition).run store).2 = store
    rw [recordRunStatusTransition, Effect.run_ofState, hfind]
  · intro moment historyId transition store h
    obtain ⟨run, hfind⟩ := Option.isSome_iff_exists.mp h
    refine ⟨run, transitioned moment.now transition run, hfind, rfl, rfl, ?_⟩
    show Writes repository store
      ((recordRunStatusTransition moment historyId transition).run store).2 _ _ _
    rw [recordRunStatusTransition, Effect.run_ofState, hfind]
    dsimp only
    split
    · exact writes_put store _ _
    · apply writes_put_append
      intro entry h
      rw [List.mem_singleton.mp h]
      rfl
  · intro moment runId comments store after
    cases hfind : store.find? runId with
    | none =>
      left
      show ((updateRunComments moment runId comments).run store).2 = store
      rw [updateRunComments, Effect.run_ofState, hfind]
    | some run =>
      right
      have hafter : after = store.put runId
          { run with
            comments := if Text.strip (comments.getD []) = [] then none
              else some (Text.strip (comments.getD []))
            updatedAt := moment.now } := by
        show ((updateRunComments moment runId comments).run store).2 = _
        rw [updateRunComments, Effect.run_ofState, hfind]
      rw [hafter]
      refine ⟨run, _, hfind, ?_, ?_, writes_put store runId _⟩
      · rfl
      · rfl
  · intro store runId rows h hordered
    exact h.trans (Sorted.sortOn_eq_self hordered)

end InMemory

namespace Postgres

variable [PyRuntime] [PyNumerals] [PyDatetime]

/-- Replacing a row and adding history rows of it. -/
theorem writes_put_append (tables : Tables) {runId : Text} (run : Run Datetime)
    {added : List StatusHistory} (hadded : ∀ entry ∈ added, entry.runId = runId) :
    Writes repository tables ((tables.put runId run).append added) runId run added := by
  constructor
  · exact Tables.find?_put_self tables runId run
  · intro id hid
    exact Tables.find?_put_of_ne tables run hid
  · show ((tables.put runId run).append added).entries runId = tables.entries runId ++ added
    rw [Tables.entries_append, Tables.entries_put,
      List.filter_eq_self.mpr fun entry h => decide_eq_true (hadded entry h)]
  · intro id hid
    show ((tables.put runId run).append added).entries id = tables.entries id
    rw [Tables.entries_append, Tables.entries_put, List.filter_eq_nil_iff.mpr, List.append_nil]
    intro entry h
    rw [decide_eq_true_iff, hadded entry h]
    exact Ne.symm hid

/-- Replacing a row. -/
theorem writes_put (tables : Tables) (runId : Text) (run : Run Datetime) :
    Writes repository tables (tables.put runId run) runId run [] := by
  constructor
  · exact Tables.find?_put_self tables runId run
  · intro id hid
    exact Tables.find?_put_of_ne tables run hid
  · exact (List.append_nil _).symm
  · exact fun _ _ => rfl

omit [PyRuntime] [PyNumerals] in
theorem of_transitioned {now : ℕ} {transition : StatusTransition} {run row : Run Datetime}
    (h : transitioned now transition run = .ok row) :
    row.status = transition.newStatus ∧
      row.failureCode = transition.failureCode.or run.failureCode := by
  obtain ⟨_, _, h⟩ := ok_of_bind h
  obtain ⟨_, _, h⟩ := ok_of_bind h
  cases h
  exact ⟨rfl, rfl⟩

omit [PyRuntime] [PyNumerals] in
theorem of_createdRow {now : ℕ} {create : RunCreate} {row : Run Datetime}
    (h : createdRow now create = .ok row) :
    row.status = create.status ∧ row.failureCode = create.failureCode := by
  obtain ⟨_, _, h⟩ := ok_of_bind h
  obtain ⟨_, _, h⟩ := ok_of_bind h
  obtain ⟨_, _, h⟩ := ok_of_bind h
  cases h
  exact ⟨rfl, rfl⟩

theorem lawful : Lawful repository := by
  constructor
  · exact fun _ => ⟨rfl, rfl⟩
  · intro moment historyId create tables after
    have hafter : after = ((createRun moment historyId create).run tables).2 := rfl
    rw [createRun, Effect.run_ofState] at hafter
    cases hfind : tables.find? create.runId with
    | some run =>
      left
      rw [hfind] at hafter
      exact hafter
    | none =>
      cases hrow : createdRow moment.now create with
      | error exc =>
        left
        rw [hfind, hrow] at hafter
        exact hafter
      | ok row =>
        rw [hfind, hrow] at hafter
        dsimp only at hafter
        split at hafter
        · left
          exact hafter
        · right
          obtain ⟨hstatus, hcode⟩ := of_createdRow hrow
          rw [hafter]
          refine ⟨hfind, row, hstatus, hcode, writes_put_append tables row ?_⟩
          intro entry h
          rw [List.mem_singleton.mp h]
          rfl
  · intro moment historyId transition tables h
    have hrecords : ((tables.find? transition.runId).any fun run =>
      (transitioned moment.now transition run).isOk) = false := h
    show ((recordRunStatusTransition moment historyId transition).run tables).2 = tables
    rw [recordRunStatusTransition, Effect.run_ofState]
    cases hfind : tables.find? transition.runId with
    | none => rfl
    | some run =>
      rw [hfind] at hrecords
      cases hrow : transitioned moment.now transition run with
      | error exc =>
        dsimp only
        rw [hrow]
      | ok row =>
        rw [Option.any_some, hrow] at hrecords
        cases hrecords
  · intro moment historyId transition tables h
    have hrecords : ((tables.find? transition.runId).any fun run =>
      (transitioned moment.now transition run).isOk) = true := h
    cases hfind : tables.find? transition.runId with
    | none =>
      rw [hfind] at hrecords
      cases hrecords
    | some run =>
      cases hrow : transitioned moment.now transition run with
      | error exc =>
        rw [hfind, Option.any_some, hrow] at hrecords
        cases hrecords
      | ok row =>
        obtain ⟨hstatus, hcode⟩ := of_transitioned hrow
        refine ⟨run, row, hfind, hstatus, hcode, ?_⟩
        show Writes repository tables
          ((recordRunStatusTransition moment historyId transition).run tables).2 _ _ _
        rw [recordRunStatusTransition, Effect.run_ofState, hfind]
        dsimp only
        rw [hrow]
        dsimp only
        split
        · exact writes_put tables _ _
        · apply writes_put_append
          intro entry h
          rw [List.mem_singleton.mp h]
          rfl
  · intro moment runId comments tables after
    cases hfind : tables.find? runId with
    | none =>
      left
      show ((updateRunComments moment runId comments).run tables).2 = tables
      rw [updateRunComments, Effect.run_ofState, hfind]
    | some run =>
      right
      have hafter : after = tables.put runId
          { run with
            comments := if Text.strip (comments.getD []) = [] then none
              else some (Text.strip (comments.getD []))
            updatedAt := moment.now } := by
        show ((updateRunComments moment runId comments).run tables).2 = _
        rw [updateRunComments, Effect.run_ofState, hfind]
      rw [hafter]
      refine ⟨run, _, hfind, ?_, ?_, writes_put tables runId _⟩
      · rfl
      · rfl
  · intro tables runId rows h hordered
    exact Sorted.eq_of_perm_of_pairwise_lt h.1 h.2 hordered

end Postgres

/-! ### Events -/

/-- What is asked of the stores: a creation, a transition of the scheduler, a report of a worker, or
a comment. -/
inductive Event where
  | create (moment : Moment) (historyId : Text) (create : RunCreate)
  | transition (moment : Moment) (historyId : Text) (transition : StatusTransition)
  | report (lookups : Lookups) (moment : Moment) (historyId runId : Text) (body : ReportBody)
  | comment (moment : Moment) (runId : Text) (comments : Option Text)

/-- The transition that an event asks of the repository. -/
def Event.transition? : Event → Option (Moment × Text × StatusTransition)
  | .transition moment historyId change => some (moment, historyId, change)
  | .report _ moment historyId runId body =>
    (buildTransition runId body).toOption.map fun change => (moment, historyId, change)
  | .create .. | .comment .. => none

/-- The stores and, for every run, the failure code of the last write that was recorded. -/
structure State (Store : Type) where
  api : Api Store
  reported : Text → Option Text

section Machine

variable {Store Time : Type} (repository : RunRepository Store Time)
variable [PyRuntime] [PyNumerals] [PyDatetime]

/-- The stores after an event. -/
def perform (event : Event) (api : Api Store) : Api Store :=
  match event with
  | .create moment historyId create =>
    { api with runs := ((repository.createRun moment historyId create).run api.runs).2 }
  | .transition moment historyId transition =>
    { api with
      runs := ((repository.recordRunStatusTransition moment historyId transition).run api.runs).2 }
  | .report lookups moment historyId runId body =>
    ((reportExecutionRun repository lookups moment historyId runId body).run api).2
  | .comment moment runId comments =>
    { api with runs := ((repository.updateRunComments moment runId comments).run api.runs).2 }

omit [PyRuntime] [PyNumerals] [PyDatetime] in
/-- The failure codes after a recorded transition. -/
def noteTransition (moment : Moment) (transition : StatusTransition) (store : Store)
    (reported : Text → Option Text) : Text → Option Text :=
  if repository.records moment transition store = true then
    Function.update reported transition.runId transition.failureCode
  else reported

omit [PyDatetime] in
/-- The failure codes after an event. -/
def note (event : Event) (s : State Store) : Text → Option Text :=
  match event with
  | .create _ _ create =>
    if (repository.find? s.api.runs create.runId).isSome then s.reported
    else Function.update s.reported create.runId create.failureCode
  | .comment .. => s.reported
  | event => event.transition?.elim s.reported fun (moment, _, transition) =>
      noteTransition repository moment transition s.api.runs s.reported

def next (s : State Store) (event : Event) : State Store :=
  ⟨perform repository event s.api, note repository event s⟩

def Step (s : State Store) (event : Event) (s' : State Store) : Prop := s' = next repository s event

omit [PyRuntime] [PyNumerals] [PyDatetime] in
def start : State Store := ⟨⟨repository.empty, [], []⟩, fun _ => none⟩

/-! ### Orderly events -/

omit [PyRuntime] [PyNumerals] [PyDatetime] in
/-- A transition that the machine allows: it repeats a terminal status, it does not succeed over an
earlier failure code, and a new status is stamped after the earlier ones. -/
structure Allowed (store : Store) (moment : Moment) (transition : StatusTransition)
    (run : Run Time) : Prop where
  repeats : run.status.terminal = true → transition.newStatus = run.status
  succeeds : transition.newStatus = .succeeded → transition.failureCode = none →
    run.failureCode = none
  later : transition.newStatus ≠ run.status → ∀ entry ∈ repository.entries store transition.runId,
    repository.Ordered entry.changedAt (repository.stamp moment)

omit [PyDatetime] in
/-- Every transition of the event that is recorded is allowed. -/
def Orderly (s : State Store) (event : Event) : Prop :=
  ∀ moment historyId transition, event.transition? = some (moment, historyId, transition) →
    repository.records moment transition s.api.runs = true →
    ∀ run, repository.find? s.api.runs transition.runId = some run →
      Allowed repository s.api.runs moment transition run

/-! ### The properties -/

omit [PyRuntime] [PyNumerals] [PyDatetime] in
/-- Each entry starts from the status that the previous one led to. -/
def Chained (rows : List StatusHistory) : Prop :=
  rows.IsChain fun a b => b.fromStatus = some a.toStatus

omit [PyRuntime] [PyNumerals] [PyDatetime] in
/-- Every listed history is a chain, and the failure code of a succeeded run is the one of its last
write. -/
structure Sound (s : State Store) : Prop where
  history : ∀ runId rows, repository.Lists s.api.runs runId rows → Chained rows
  failureCode : ∀ runId run, repository.find? s.api.runs runId = some run →
    run.status = .succeeded → run.failureCode = s.reported runId

omit [PyRuntime] [PyNumerals] [PyDatetime] in
def KeepsTerminal (s s' : State Store) : Prop :=
  ∀ runId run, repository.find? s.api.runs runId = some run → run.status.terminal = true →
    ∃ run', repository.find? s'.api.runs runId = some run' ∧ run'.status = run.status

/-- The status machine under a condition on its events: every state that is reached is sound, and
keeps the terminal statuses of the earlier ones. -/
def StatusMachine (meets : State Store → Event → Prop) : Prop :=
  ∀ events s, Runs (Step repository) meets (start repository) events s →
    Sound repository s ∧
      ∀ events' s', Runs (Step repository) meets s events' s' → KeepsTerminal repository s s'

/-! ### The invariant -/

omit [PyRuntime] [PyNumerals] [PyDatetime] in
/-- A run as its store and the last failure code have it. -/
structure TrackedRun (store : Store) (reported : Text → Option Text) (runId : Text)
    (run : Run Time) : Prop where
  chained : Chained (repository.entries store runId)
  last : (repository.entries store runId).getLast?.map StatusHistory.toStatus = some run.status
  ordered : (repository.entries store runId).Pairwise
    fun a b => repository.Ordered a.changedAt b.changedAt
  failureCode : run.status = .succeeded → run.failureCode = reported runId

omit [PyRuntime] [PyNumerals] [PyDatetime] in
/-- An absent run has no history, and a present one is tracked. -/
structure Tracked (store : Store) (reported : Text → Option Text) (runId : Text) : Prop where
  absent : repository.find? store runId = none → repository.entries store runId = []
  present : ∀ run, repository.find? store runId = some run →
    TrackedRun repository store reported runId run

variable {repository} {store after : Store} {reported reported' : Text → Option Text}

omit [PyRuntime] [PyNumerals] [PyDatetime] in
/-- A write keeps the other runs tracked. -/
theorem Writes.tracked {runId : Text} {run : Run Time} {added : List StatusHistory}
    (hwrites : Writes repository store after runId run added)
    (hreported : ∀ id, id ≠ runId → reported' id = reported id)
    (htracked : ∀ id, Tracked repository store reported id)
    (hrun : TrackedRun repository after reported' runId run) (id : Text) :
    Tracked repository after reported' id := by
  by_cases hid : id = runId
  · subst hid
    constructor
    · intro h
      rw [hwrites.run] at h
      cases h
    · intro run' h
      rw [hwrites.run] at h
      cases h
      exact hrun
  · have h := htracked id
    constructor
    · intro habsent
      rw [hwrites.others id hid] at habsent
      rw [hwrites.otherEntries id hid]
      exact h.absent habsent
    · intro run' hpresent
      rw [hwrites.others id hid] at hpresent
      have hold := h.present run' hpresent
      have hentries := hwrites.otherEntries id hid
      constructor
      · rw [hentries]
        exact hold.chained
      · rw [hentries]
        exact hold.last
      · rw [hentries]
        exact hold.ordered
      · rw [hreported id hid]
        exact hold.failureCode

omit [PyRuntime] [PyNumerals] [PyDatetime] in
/-- A creation. -/
theorem Lawful.create_tracked (hlawful : Lawful repository) (moment : Moment) (historyId : Text)
    (create : RunCreate) (htracked : ∀ id, Tracked repository store reported id) (id : Text) :
    Tracked repository ((repository.createRun moment historyId create).run store).2
      (if (repository.find? store create.runId).isSome then reported
        else Function.update reported create.runId create.failureCode) id := by
  rcases hlawful.create moment historyId create store with hsame | ⟨hnone, run, hstatus, hcode, hwrites⟩
  · rw [hsame]
    split
    · exact htracked id
    · rename_i hnone
      by_cases hid : id = create.runId
      · subst hid
        constructor
        · exact (htracked create.runId).absent
        · intro run h
          rw [h] at hnone
          exact absurd rfl hnone
      · have h := htracked id
        refine ⟨h.absent, fun run hrun => ?_⟩
        obtain ⟨hchained, hlast, hordered, hcode⟩ := h.present run hrun
        refine ⟨hchained, hlast, hordered, ?_⟩
        rw [Function.update_of_ne hid]
        exact hcode
  · rw [hnone, Option.isSome_none, if_neg Bool.false_ne_true]
    refine hwrites.tracked (fun id hid => Function.update_of_ne hid _ _) htracked ?_ id
    have hentries := hwrites.entries
    rw [(htracked create.runId).absent hnone, List.nil_append] at hentries
    constructor
    · rw [hentries]
      exact .singleton _
    · rw [hentries, hstatus]
      rfl
    · rw [hentries]
      exact List.pairwise_singleton _ _
    · intro _
      rw [hcode, Function.update_self]

omit [PyRuntime] [PyNumerals] [PyDatetime] in
/-- A comment. -/
theorem Lawful.comment_tracked (hlawful : Lawful repository) (moment : Moment) (runId : Text)
    (comments : Option Text) (htracked : ∀ id, Tracked repository store reported id) (id : Text) :
    Tracked repository ((repository.updateRunComments moment runId comments).run store).2
      reported id := by
  rcases hlawful.comments moment runId comments store with
    hsame | ⟨run, run', hrun, hstatus, hcode, hwrites⟩
  · rw [hsame]
    exact htracked id
  · refine hwrites.tracked (fun _ _ => rfl) htracked ?_ id
    have hold := (htracked runId).present run hrun
    have hentries := hwrites.entries
    rw [List.append_nil] at hentries
    constructor
    · rw [hentries]
      exact hold.chained
    · rw [hentries, hstatus]
      exact hold.last
    · rw [hentries]
      exact hold.ordered
    · rw [hstatus, hcode]
      exact hold.failureCode

omit [PyRuntime] [PyNumerals] [PyDatetime] in
/-- A transition that is allowed where it is recorded. -/
theorem Lawful.transition_tracked (hlawful : Lawful repository) {moment : Moment}
    (historyId : Text) {transition : StatusTransition}
    (hallowed : repository.records moment transition store = true →
      ∀ run, repository.find? store transition.runId = some run →
        Allowed repository store moment transition run)
    (htracked : ∀ id, Tracked repository store reported id) (id : Text) :
    Tracked repository
      ((repository.recordRunStatusTransition moment historyId transition).run store).2
      (noteTransition repository moment transition store reported) id := by
  cases hrecords : repository.records moment transition store with
  | false =>
    rw [hlawful.unrecorded moment historyId transition store hrecords, noteTransition, hrecords,
      if_neg Bool.false_ne_true]
    exact htracked id
  | true =>
    obtain ⟨run, run', hrun, hstatus, hcode, hwrites⟩ :=
      hlawful.recorded moment historyId transition store hrecords
    obtain ⟨_, hsucceeds, hlater⟩ := hallowed hrecords run hrun
    have hold := (htracked transition.runId).present run hrun
    rw [noteTransition, hrecords, if_pos rfl]
    refine hwrites.tracked (fun id hid => Function.update_of_ne hid _ _) htracked ?_ id
    have hreported : run'.status = .succeeded →
        run'.failureCode = Function.update reported transition.runId transition.failureCode
          transition.runId := by
      intro hsucceeded
      rw [hcode, Function.update_self]
      rw [hstatus] at hsucceeded
      cases hown : transition.failureCode with
      | some code => rfl
      | none =>
        rw [hsucceeds hsucceeded hown]
        rfl
    have hentries := hwrites.entries
    by_cases hsame : run.status = transition.newStatus
    · rw [if_pos hsame, List.append_nil] at hentries
      constructor
      · rw [hentries]
        exact hold.chained
      · rw [hentries, hstatus, ← hsame]
        exact hold.last
      · rw [hentries]
        exact hold.ordered
      · exact hreported
    · rw [if_neg hsame] at hentries
      constructor
      · rw [hentries, Chained, List.isChain_append]
        refine ⟨hold.chained, .singleton _, ?_⟩
        intro entry hentry added hadded
        have hlast := hold.last
        rw [Option.mem_def.mp hentry] at hlast
        rw [List.head?_cons, Option.mem_some] at hadded
        rw [← hadded]
        exact congrArg some (Option.some.inj hlast).symm
      · rw [hentries, List.getLast?_append_of_ne_nil _ (List.cons_ne_nil _ _), hstatus]
        rfl
      · rw [hentries, List.pairwise_append]
        refine ⟨hold.ordered, List.pairwise_singleton _ _, ?_⟩
        intro entry hentry added hadded
        rw [List.mem_singleton.mp hadded]
        exact hlater (Ne.symm hsame) entry hentry
      · exact hreported

omit [PyRuntime] [PyNumerals] [PyDatetime] in
theorem Writes.status {runId : Text} {run : Run Time} {added : List StatusHistory}
    (hwrites : Writes repository store after runId run added)
    (hstatus : ∀ run', repository.find? store runId = some run' → run'.status.terminal = true →
      run.status = run'.status)
    {id : Text} {run' : Run Time} (hrun : repository.find? store id = some run')
    (hterminal : run'.status.terminal = true) :
    ∃ later, repository.find? after id = some later ∧ later.status = run'.status := by
  by_cases hid : id = runId
  · subst hid
    exact ⟨run, hwrites.run, hstatus run' hrun hterminal⟩
  · exact ⟨run', (hwrites.others id hid).trans hrun, rfl⟩

omit [PyRuntime] [PyNumerals] [PyDatetime] in
theorem Lawful.create_status (hlawful : Lawful repository) (moment : Moment) (historyId : Text)
    (create : RunCreate) {id : Text} {run : Run Time} (hrun : repository.find? store id = some run)
    (hterminal : run.status.terminal = true) :
    ∃ later, repository.find? ((repository.createRun moment historyId create).run store).2 id =
      some later ∧ later.status = run.status := by
  rcases hlawful.create moment historyId create store with hsame | ⟨hnone, _, _, _, hwrites⟩
  · rw [hsame]
    exact ⟨run, hrun, rfl⟩
  · refine hwrites.status ?_ hrun hterminal
    intro run' h
    rw [hnone] at h
    cases h

omit [PyRuntime] [PyNumerals] [PyDatetime] in
theorem Lawful.comment_status (hlawful : Lawful repository) (moment : Moment) (runId : Text)
    (comments : Option Text) {id : Text} {run : Run Time}
    (hrun : repository.find? store id = some run) (hterminal : run.status.terminal = true) :
    ∃ later, repository.find?
      ((repository.updateRunComments moment runId comments).run store).2 id = some later ∧
      later.status = run.status := by
  rcases hlawful.comments moment runId comments store with hsame | ⟨old, _, hold, hstatus, _, hwrites⟩
  · rw [hsame]
    exact ⟨run, hrun, rfl⟩
  · refine hwrites.status ?_ hrun hterminal
    intro run' h _
    rw [hold] at h
    cases h
    exact hstatus

omit [PyRuntime] [PyNumerals] [PyDatetime] in
theorem Lawful.transition_status (hlawful : Lawful repository) {moment : Moment}
    (historyId : Text) {transition : StatusTransition}
    (hallowed : repository.records moment transition store = true →
      ∀ run, repository.find? store transition.runId = some run →
        Allowed repository store moment transition run)
    {id : Text} {run : Run Time} (hrun : repository.find? store id = some run)
    (hterminal : run.status.terminal = true) :
    ∃ later, repository.find?
      ((repository.recordRunStatusTransition moment historyId transition).run store).2 id =
        some later ∧ later.status = run.status := by
  cases hrecords : repository.records moment transition store with
  | false =>
    rw [hlawful.unrecorded moment historyId transition store hrecords]
    exact ⟨run, hrun, rfl⟩
  | true =>
    obtain ⟨old, _, hold, hstatus, _, hwrites⟩ :=
      hlawful.recorded moment historyId transition store hrecords
    refine hwrites.status ?_ hrun hterminal
    intro run' h hterminal'
    rw [hstatus]
    exact (hallowed hrecords run' h).repeats hterminal'

/-! ### One step and runs -/

/-- What an event does to the runs: a creation, a comment, a transition, or nothing. -/
theorem runs_perform (repository : RunRepository Store Time) (event : Event) (s : State Store) :
    (∃ moment historyId create, event = .create moment historyId create) ∨
    (∃ moment runId comments, event = .comment moment runId comments) ∨
    (∃ moment historyId transition,
      event.transition? = some (moment, historyId, transition) ∧
      (perform repository event s.api).runs =
        ((repository.recordRunStatusTransition moment historyId transition).run s.api.runs).2 ∧
      note repository event s =
        noteTransition repository moment transition s.api.runs s.reported) ∨
    ((perform repository event s.api).runs = s.api.runs ∧ note repository event s = s.reported) := by
  cases event with
  | create moment historyId create => exact .inl ⟨moment, historyId, create, rfl⟩
  | comment moment runId comments => exact .inr (.inl ⟨moment, runId, comments, rfl⟩)
  | transition moment historyId transition =>
    exact .inr (.inr (.inl ⟨moment, historyId, transition, rfl, rfl, rfl⟩))
  | report lookups moment historyId runId body =>
    cases hbuild : buildTransition runId body with
    | ok transition =>
      have htransition : (Event.report lookups moment historyId runId body).transition? =
          some (moment, historyId, transition) := by
        rw [Event.transition?, hbuild]
        rfl
      refine .inr (.inr (.inl ⟨moment, historyId, transition, htransition, ?_, ?_⟩))
      · exact runs_reportExecutionRun repository hbuild s.api
      · show ((Event.report lookups moment historyId runId body).transition?.elim s.reported _) = _
        rw [htransition]
        rfl
    | error exc =>
      refine .inr (.inr (.inr ⟨?_, ?_⟩))
      · rw [perform, reportExecutionRun_invalid repository hbuild]
      · show ((Event.report lookups moment historyId runId body).transition?.elim s.reported _) = _
        rw [Event.transition?, hbuild]
        rfl

theorem tracked_step (hlawful : Lawful repository) {s s' : State Store} {event : Event}
    (hstep : Step repository s event s') (horderly : Orderly repository s event)
    (htracked : ∀ id, Tracked repository s.api.runs s.reported id) (id : Text) :
    Tracked repository s'.api.runs s'.reported id := by
  rw [Step] at hstep
  subst hstep
  rcases runs_perform repository event s with ⟨moment, historyId, create, rfl⟩ | ⟨moment, runId, comments, rfl⟩ |
    ⟨moment, historyId, transition, htransition, hruns, hnote⟩ | ⟨hruns, hnote⟩
  · exact hlawful.create_tracked moment historyId create htracked id
  · exact hlawful.comment_tracked moment runId comments htracked id
  · rw [next, hruns, hnote]
    exact hlawful.transition_tracked historyId (horderly _ _ _ htransition) htracked id
  · rw [next, hruns, hnote]
    exact htracked id

theorem keepsTerminal_step (hlawful : Lawful repository) {s s' : State Store} {event : Event}
    (hstep : Step repository s event s') (horderly : Orderly repository s event) :
    KeepsTerminal repository s s' := by
  intro id run hrun hterminal
  rw [Step] at hstep
  subst hstep
  rcases runs_perform repository event s with ⟨moment, historyId, create, rfl⟩ | ⟨moment, runId, comments, rfl⟩ |
    ⟨moment, historyId, transition, htransition, hruns, _⟩ | ⟨hruns, _⟩
  · exact hlawful.create_status moment historyId create hrun hterminal
  · exact hlawful.comment_status moment runId comments hrun hterminal
  · rw [next, hruns]
    exact hlawful.transition_status historyId (horderly _ _ _ htransition) hrun hterminal
  · rw [next, hruns]
    exact ⟨run, hrun, rfl⟩

omit [PyRuntime] [PyNumerals] [PyDatetime] in
/-- A state with tracked runs is sound. -/
theorem sound_of_tracked (hlawful : Lawful repository) {s : State Store}
    (htracked : ∀ id, Tracked repository s.api.runs s.reported id) : Sound repository s := by
  constructor
  · intro runId rows hrows
    cases hrun : repository.find? s.api.runs runId with
    | none =>
      have hentries := (htracked runId).absent hrun
      have hlisted := hlawful.lists _ _ _ hrows (by rw [hentries]; exact .nil)
      rw [hlisted, hentries]
      exact .nil
    | some run =>
      have hpresent := (htracked runId).present run hrun
      rw [hlawful.lists _ _ _ hrows hpresent.ordered]
      exact hpresent.chained
  · exact fun runId run hrun => ((htracked runId).present run hrun).failureCode

/-- Orderly runs are those of a status machine. -/
theorem Lawful.statusMachine (hlawful : Lawful repository) :
    StatusMachine repository (Orderly repository) := by
  intro events s hrun
  have hstart : ∀ id, Tracked repository (start repository).api.runs (start repository).reported id := by
    intro id
    obtain ⟨hnone, hentries⟩ := hlawful.empty id
    exact ⟨fun _ => hentries, fun run h => by rw [start, hnone] at h; cases h⟩
  refine ⟨sound_of_tracked hlawful ?_, ?_⟩
  · exact hrun.invariant hstart fun s e s' h hs horderly => tracked_step hlawful hs horderly h
  · intro events' s' hrest id run hfind hterminal
    refine hrest.invariant (I := fun s => ∃ run', repository.find? s.api.runs id = some run' ∧
      run'.status = run.status) ⟨run, hfind, rfl⟩ ?_
    rintro before event later ⟨current, hcurrent, hstatus⟩ hstep horderly
    obtain ⟨run', hrun', hrunStatus⟩ := keepsTerminal_step hlawful hstep horderly id current
      hcurrent (hstatus ▸ hterminal)
    exact ⟨run', hrun', hrunStatus.trans hstatus⟩

end Machine

/-- The status machine of runs, in both repositories: in every run of creations, transitions,
reports and comments whose recorded transitions repeat terminal statuses, do not succeed over an
earlier failure code and are stamped in order, terminal statuses stay, histories are chains, and a
succeeded run has no failure code of an earlier write. -/
theorem run_status_machine [PyRuntime] [PyNumerals] [PyDatetime] :
    StatusMachine InMemory.repository (Orderly InMemory.repository) ∧
      StatusMachine Postgres.repository (Orderly Postgres.repository) :=
  ⟨InMemory.lawful.statusMachine, Postgres.lawful.statusMachine⟩

section Example

local instance sampleRuntimeMachine : PyRuntime := .ascii (fun _ => .nan) (fun _ => [])

local instance sampleNumeralsMachine : PyNumerals := ⟨fun _ => none, fun _ => none, id⟩

local instance sampleDatetimeMachine : PyDatetime := .epoch

/-- A pending run is created. -/
def sampleCreate : RunCreate where
  runId := "run"
  suiteId := none
  suiteVersion := none
  ruleId := none
  ruleVersionId := none
  correlationId := "corr"
  requestedBy := none
  engineType := "gx"
  engineTarget := "spark"
  executionShape := "single_object"
  status := .pending
  submittedAt := "1970-01-01T00:00:00+00:00"
  startedAt := none
  completedAt := none
  executionProgress := none
  executionContract := none
  handoffPayload := none
  resultSummary := [entry "results" (.list [])]
  metrics := none
  diagnostics := []
  failureCode := none
  failureMessage := none
  comments := none
  performanceSummary := none
  statusReason := none
  statusDetails := []

/-- A report that has only a status. -/
def statusReport (status : RunStatus) : ReportBody :=
  { newStatus := status, changedBy := none, reason := none, details := none
    executionProgress := none, startedAt := none, completedAt := none, resultSummary := none
    metrics := none, performanceSummary := none, diagnostics := none, failureCode := none
    failureMessage := none }

/-- Neither a suite nor a rule is found. -/
def noLookups : Lookups := ⟨fun _ _ => .ok none, fun _ => .ok none⟩

def reportAt (reading : ℕ) (status : RunStatus) : Event :=
  .report noLookups ⟨reading, reading⟩ "history" "run" (statusReport status)

/-- The run is created and then succeeds. -/
def succeededState : State InMemory.Store :=
  next InMemory.repository (next InMemory.repository (start InMemory.repository)
    (.create ⟨1, 1⟩ "history" sampleCreate)) (reportAt 2 .succeeded)

/-- A report of progress arrives after the last report. -/
def lateState : State InMemory.Store := next InMemory.repository succeededState (reportAt 3 .running)

/-- A late report takes a succeeded run back to running. -/
theorem run_status_machine_counterexample :
    ¬StatusMachine InMemory.repository fun _ _ => True := by
  intro h
  have hreached : Runs (Step InMemory.repository) (fun _ _ => True) (start InMemory.repository)
      ([] ++ [.create ⟨1, 1⟩ "history" sampleCreate] ++ [reportAt 2 .succeeded])
      succeededState := .snoc (.snoc .refl rfl trivial) rfl trivial
  have hkeeps := (h _ _ hreached).2 _ lateState (.snoc .refl rfl trivial) "run"
  have hsucceeded : (succeededState.api.runs.find? "run").map (·.status) =
      some .succeeded := by decide +kernel
  have hrunning : (lateState.api.runs.find? "run").map (·.status) = some .running := by
    decide +kernel
  obtain ⟨run, hrun, hstatus⟩ := Option.map_eq_some_iff.mp hsucceeded
  obtain ⟨later, hlater, hsame⟩ := hkeeps run hrun (by rw [hstatus]; rfl)
  rw [show lateState.api.runs.find? "run" = some later from hlater, Option.map_some, hsame,
    hstatus] at hrunning
  cases hrunning

end Example

end Runs

end DqMadeEasy
