import DqMadeEasy.Runs.ResultEvent

/-!
# The in-memory store of result events

The store keeps the first event of a correlation, a run and a status. A second one is accepted only
where it is the same event, and then changes nothing.
-/

namespace DqMadeEasy

namespace Runs

open Worker

/-- The events of `InMemoryDqResultEventRepository` by their ids. -/
abbrev EventStore := List (Text × DqResultEvent)

namespace EventStore

def eventId (event : DqResultEvent) : Text :=
  event.correlation.correlationId ++ ':' :: event.correlation.runId.getD [] ++
    ':' :: event.runOutcome.status

/-- `record_result_event`. The payload of an event that was built passes its own validation. -/
def recordResultEvent (event : DqResultEvent) : Effect EventStore PyError DqResultEvent :=
  Effect.ofState fun store =>
    match Assoc.find? store (eventId event) with
    | some existing =>
      if existing = event then (.ok existing, store)
      else (.error (.builtin "ValueError" "DQ result event already exists with different payload"),
        store)
    | none => (.ok event, Assoc.update (eventId event) (fun _ => event) store)

theorem recordResultEvent_present (event : DqResultEvent) (store : EventStore) :
    (Assoc.find? ((recordResultEvent event).run store).2 (eventId event)).isSome := by
  rw [recordResultEvent, Effect.run_ofState]
  cases hfind : Assoc.find? store (eventId event) with
  | some existing =>
    dsimp only
    split <;> simp [hfind]
  | none => simp [Assoc.find?_update]

variable {event : DqResultEvent} {zone : Bool}

theorem recordResultEvent_unchanged {store : EventStore}
    (h : (Assoc.find? store (eventId event)).isSome) :
    ((recordResultEvent event).run store).2 = store := by
  obtain ⟨existing, hfind⟩ := Option.isSome_iff_exists.mp h
  rw [recordResultEvent, Effect.run_ofState, hfind]
  dsimp only
  split <;> rfl

/-- A recording that returns finds the event or appends it. -/
theorem values_of_recordResultEvent {recorded : DqResultEvent} {store after : EventStore}
    (h : (recordResultEvent event).run store = (.ok recorded, after)) :
    event ∈ store.map Prod.snd ∨ after.map Prod.snd = store.map Prod.snd ++ [event] := by
  rw [recordResultEvent, Effect.run_ofState] at h
  cases hfind : Assoc.find? store (eventId event) with
  | some existing =>
    rw [hfind] at h
    dsimp only at h
    split at h
    · rename_i hsame
      rw [← hsame]
      exact .inl (List.mem_map.mpr ⟨_, Assoc.mem_of_find? hfind, rfl⟩)
    · cases (Prod.mk.inj h).1
  | none =>
    rw [hfind] at h
    obtain ⟨_, rfl⟩ := Prod.mk.inj h
    right
    rw [Assoc.update_of_find?_none hfind, List.map_append]
    rfl

/-! ### Listing -/

/-- The arguments of `list_result_events`. -/
structure Query where
  ruleId : Option Text := none
  datasetId : Option Text := none
  domainId : Option Text := none
  dataProductId : Option Text := none
  severity : Option Text := none
  status : Option Text := none
  emittedAfter : Option Text := none
  emittedBefore : Option Text := none
  limit : ℤ := 100
  offset : ℤ := 0

variable [PyDatetime]

/-- `_parse_iso_datetime` of the store. -/
def parseIsoDatetime (value : Option Text) : Except PyError (Option Datetime) :=
  match value.bind nonBlank with
  | none => .ok none
  | some t => (Datetime.ofText t).elim
      (.error (.builtin "ValueError" "Invalid isoformat string")) fun d => .ok (some d)

omit [PyDatetime] in
/-- `a < b` of datetimes. -/
def datetimeLt (a b : Datetime) : Except PyError Bool :=
  if a.aware = b.aware then .ok (a.microseconds < b.microseconds)
  else .error
    (.builtin "TypeError" "can't compare offset-naive and offset-aware datetimes")

omit [PyDatetime] in
def textMatches (filter : Option Text) (value : Option Text) : Bool :=
  filter.elim true fun t => value.getD [] == t

/-- `_matches`. -/
def matchesQuery (query : Query) (after before : Option Datetime) (event : DqResultEvent) :
    Except PyError Bool :=
  if !(textMatches query.ruleId (some event.rule.id) &&
      textMatches query.datasetId (some event.dataset.id) &&
      textMatches query.domainId (event.domain.map DqResultDomain.id) &&
      textMatches query.dataProductId event.dataset.dataProductId &&
      textMatches query.severity (some event.severity) &&
      textMatches query.status (some event.runOutcome.status)) then .ok false
  else do
    let emittedAt ← parseIsoDatetime (some event.emittedAt)
    let early ← match after, emittedAt with
      | none, _ => .ok false
      | some _, none => .ok true
      | some bound, some d => datetimeLt d bound
    if early then return false
    let late ← match before, emittedAt with
      | none, _ => .ok false
      | some _, none => .ok true
      | some bound, some d => datetimeLt bound d
    return !late

def sortKey (event : DqResultEvent) : Except PyError (Datetime × Text) := do
  let emittedAt ← parseIsoDatetime (some event.emittedAt)
  -- `datetime.min` in UTC.
  return (emittedAt.getD ⟨-62135596800000000, true⟩, event.correlation.runId.getD [])

omit [PyDatetime] in
/-- `rows.sort(key=…, reverse=True)` of keyed rows: a stable sort, which compares all times and
stops where some have a time zone and some have none. -/
def sortRows (rows : List ((Datetime × Text) × DqResultEvent)) :
    Except PyError (List DqResultEvent) :=
  if rows.all (·.1.1.aware) || rows.all (!·.1.1.aware) then
    .ok ((Sorted.sortOn (fun row => toLex (row.1.1.microseconds, row.1.2)) rows.reverse).reverse.map
      Prod.snd)
  else .error (.builtin "TypeError" "can't compare offset-naive and offset-aware datetimes")

/-- The rows that match, in the order of the store. -/
def matchingRows (query : Query) (after before : Option Datetime) :
    List DqResultEvent → Except PyError (List DqResultEvent)
  | [] => .ok []
  | event :: events => do
    let matched ← matchesQuery query after before event
    let rest ← matchingRows query after before events
    return if matched then event :: rest else rest

def listResultEvents (store : EventStore) (query : Query) : Except PyError (List DqResultEvent) := do
  if query.limit < 0 ∨ query.offset < 0 then
    throw (.builtin "ValueError" "limit and offset must be non-negative")
  let after ← parseIsoDatetime query.emittedAfter
  let before ← parseIsoDatetime query.emittedBefore
  let rows ← matchingRows query after before (store.map Prod.snd)
  let keyed ← rows.mapM fun event => (sortKey event).map (·, event)
  let sorted ← sortRows keyed
  return (sorted.drop query.offset.toNat).take query.limit.toNat

/-! ### The events of a rule -/

def ruleQuery (store : EventStore) (ruleId : Text) : Query :=
  { ruleId := some ruleId, limit := store.length }

omit [PyDatetime] in
def ofRule (store : EventStore) (ruleId : Text) : List DqResultEvent :=
  (store.map Prod.snd).filter fun event => event.rule.id = ruleId

/-- Whether a time of emission has a time zone, `none` where it is no date. A blank one stands for
`datetime.min` in UTC. -/
def emissionZone (emittedAt : Text) : Option Bool :=
  match parseIsoDatetime (some emittedAt) with
  | .ok none => some true
  | .ok (some d) => some d.aware
  | .error _ => none

/-- The events can be sorted: their times are dates, all with a time zone or all without. -/
def Sortable (events : List DqResultEvent) : Prop :=
  ∃ zone, ∀ event ∈ events, emissionZone event.emittedAt = some zone

/-- An event has a sort key where its time of emission is a date. -/
theorem sortKey_ok :
    emissionZone event.emittedAt = some zone ↔
      ∃ key, sortKey event = .ok key ∧ key.1.aware = zone := by
  rw [emissionZone, sortKey]
  cases parseIsoDatetime (some event.emittedAt) with
  | error exc =>
    constructor
    · intro h
      cases h
    · rintro ⟨_, h, _⟩
      cases h
  | ok emittedAt =>
    cases emittedAt with
    | none =>
      constructor
      · intro h
        exact ⟨_, rfl, Option.some.inj h⟩
      · rintro ⟨_, h, hzone⟩
        cases h
        exact congrArg some hzone
    | some d =>
      constructor
      · intro h
        exact ⟨_, rfl, Option.some.inj h⟩
      · rintro ⟨_, h, hzone⟩
        cases h
        exact congrArg some hzone

theorem matchesQuery_rule (store : EventStore) (ruleId : Text) (event : DqResultEvent) :
    matchesQuery (ruleQuery store ruleId) none none event =
      if event.rule.id = ruleId then (parseIsoDatetime (some event.emittedAt)).map fun _ => true
      else .ok false := by
  rw [matchesQuery]
  by_cases h : event.rule.id = ruleId
  · rw [if_pos h]
    simp only [ruleQuery, textMatches, Option.elim_some, Option.getD_some, h, beq_self_eq_true,
      Option.elim_none, Bool.and_self, Bool.not_true, Bool.false_eq_true, if_false]
    cases parseIsoDatetime (some event.emittedAt) <;> rfl
  · rw [if_neg h]
    simp [ruleQuery, textMatches, h]

/-- The rows that match a rule are its events, if all of their times can be read. -/
theorem matchingRows_rule (store : EventStore) (ruleId : Text) (events rows : List DqResultEvent) :
    matchingRows (ruleQuery store ruleId) none none events = .ok rows ↔
      rows = events.filter (fun event => event.rule.id = ruleId) ∧
        ∀ event ∈ events, event.rule.id = ruleId → (emissionZone event.emittedAt).isSome := by
  induction events generalizing rows with
  | nil =>
    constructor
    · intro h
      cases h
      exact ⟨rfl, fun _ h => absurd h List.not_mem_nil⟩
    · rintro ⟨rfl, _⟩
      rfl
  | cons event events ih =>
    rw [matchingRows, matchesQuery_rule, List.forall_mem_cons, List.filter_cons]
    by_cases hrule : event.rule.id = ruleId
    · rw [if_pos hrule, decide_eq_true hrule, if_pos rfl, emissionZone]
      cases hparse : parseIsoDatetime (some event.emittedAt) with
      | error exc =>
        constructor
        · intro h
          cases h
        · rintro ⟨_, h, _⟩
          cases h hrule
      | ok emittedAt =>
        constructor
        · intro h
          obtain ⟨matched, hmatched, h⟩ := ok_of_bind h
          cases hmatched
          obtain ⟨rest, hrest, h⟩ := ok_of_bind h
          cases h
          obtain ⟨rfl, hzones⟩ := (ih rest).mp hrest
          refine ⟨rfl, fun _ => ?_, hzones⟩
          cases emittedAt <;> rfl
        · rintro ⟨rfl, _, hzones⟩
          have hrest := (ih _).mpr ⟨rfl, hzones⟩
          show (matchingRows _ none none events >>= _) = _
          rw [hrest]
          rfl
    · rw [if_neg hrule, decide_eq_false hrule, if_neg Bool.false_ne_true]
      constructor
      · intro h
        obtain ⟨matched, hmatched, h⟩ := ok_of_bind h
        cases hmatched
        obtain ⟨rest, hrest, h⟩ := ok_of_bind h
        cases h
        obtain ⟨rfl, hzones⟩ := (ih rest).mp hrest
        exact ⟨rfl, fun h => absurd h hrule, hzones⟩
      · rintro ⟨rfl, _, hzones⟩
        have hrest := (ih _).mpr ⟨rfl, hzones⟩
        show (matchingRows _ none none events >>= _) = _
        rw [hrest]
        rfl

omit [PyDatetime] in
theorem sortRows_ok {rows : List ((Datetime × Text) × DqResultEvent)} {sorted : List DqResultEvent}
    (h : sortRows rows = .ok sorted) :
    (∃ zone, ∀ row ∈ rows, row.1.1.aware = zone) ∧ sorted.Perm (rows.map Prod.snd) := by
  rw [sortRows] at h
  split at h
  · rename_i hzone
    cases h
    constructor
    · rcases Bool.or_eq_true_iff.mp hzone with hall | hall
      · exact ⟨true, fun row hrow => List.all_eq_true.mp hall row hrow⟩
      · exact ⟨false, fun row hrow => by simpa using List.all_eq_true.mp hall row hrow⟩
    · apply List.Perm.map
      exact (List.reverse_perm _).trans ((Sorted.sortOn_perm _ _).trans (List.reverse_perm _))
  · cases h

omit [PyDatetime] in
theorem exists_sortRows {rows : List ((Datetime × Text) × DqResultEvent)}
    (h : ∀ row ∈ rows, row.1.1.aware = zone) : ∃ sorted, sortRows rows = .ok sorted := by
  rw [sortRows, if_pos]
  · exact ⟨_, rfl⟩
  · rw [Bool.or_eq_true_iff, List.all_eq_true, List.all_eq_true]
    cases zone with
    | true => exact .inl h
    | false => exact .inr fun row hrow => by rw [h row hrow]; rfl

/-- The rows with their sort keys. -/
theorem keyed_ok {rows : List DqResultEvent} {keyed : List ((Datetime × Text) × DqResultEvent)}
    (h : (rows.mapM fun event => (sortKey event).map (·, event)) = .ok keyed) :
    keyed.map Prod.snd = rows ∧
      ∀ event ∈ rows, ∃ key, sortKey event = .ok key ∧ (key, event) ∈ keyed := by
  have hall := mapM_ok h
  clear h
  induction hall with
  | nil => exact ⟨rfl, fun _ h => absurd h List.not_mem_nil⟩
  | @cons event row rows keyed hhead _ ih =>
    cases hkey : sortKey event with
    | error exc =>
      rw [hkey] at hhead
      cases hhead
    | ok key =>
      rw [hkey] at hhead
      cases hhead
      refine ⟨by rw [List.map_cons, ih.1], ?_⟩
      intro other hother
      rcases List.mem_cons.mp hother with rfl | hother
      · exact ⟨key, hkey, List.mem_cons_self⟩
      · obtain ⟨key', hkey', hmem⟩ := ih.2 other hother
        exact ⟨key', hkey', List.mem_cons_of_mem _ hmem⟩

theorem exists_keyed {rows : List DqResultEvent}
    (h : ∀ event ∈ rows, emissionZone event.emittedAt = some zone) :
    ∃ keyed, (rows.mapM fun event => (sortKey event).map (·, event)) = .ok keyed ∧
      ∀ row ∈ keyed, row.1.1.aware = zone := by
  induction rows with
  | nil => exact ⟨[], rfl, fun _ h => absurd h List.not_mem_nil⟩
  | cons event rows ih =>
    rw [List.forall_mem_cons] at h
    obtain ⟨key, hkey, hzone⟩ := sortKey_ok.mp h.1
    obtain ⟨keyed, hkeyed, hzones⟩ := ih h.2
    refine ⟨(key, event) :: keyed, ?_, List.forall_mem_cons.mpr ⟨hzone, hzones⟩⟩
    rw [List.mapM_cons, hkey, hkeyed]
    rfl

theorem listResultEvents_ruleQuery (store : EventStore) (ruleId : Text) :
    listResultEvents store (ruleQuery store ruleId) =
      (matchingRows (ruleQuery store ruleId) none none (store.map Prod.snd) >>= fun rows =>
        (rows.mapM fun event => (sortKey event).map (·, event)) >>= fun keyed =>
        sortRows keyed >>= fun sorted => .ok (sorted.take store.length)) := by
  rw [listResultEvents, if_neg]
  · rfl
  · simp [ruleQuery]

/-- Listing the events of a rule returns exactly where they can be sorted, and then returns all of
them. -/
theorem listResultEvents_rule (store : EventStore) (ruleId : Text) :
    ((∃ events, listResultEvents store (ruleQuery store ruleId) = .ok events) ↔
      Sortable (store.ofRule ruleId)) ∧
    ∀ events, listResultEvents store (ruleQuery store ruleId) = .ok events →
      events.Perm (store.ofRule ruleId) := by
  have hreturns : ∀ events, listResultEvents store (ruleQuery store ruleId) = .ok events →
      Sortable (store.ofRule ruleId) ∧ events.Perm (store.ofRule ruleId) := by
    intro events h
    rw [listResultEvents_ruleQuery] at h
    obtain ⟨rows, hrows, hkeyed⟩ := ok_of_bind h
    obtain ⟨keyed, hkeyed, hsorted⟩ := ok_of_bind hkeyed
    obtain ⟨sorted, hsorted, hevents⟩ := ok_of_bind hsorted
    obtain ⟨rfl, _⟩ := (matchingRows_rule store ruleId _ rows).mp hrows
    obtain ⟨hmap, hkeys⟩ := keyed_ok hkeyed
    obtain ⟨⟨zone, hzone⟩, hperm⟩ := sortRows_ok hsorted
    rw [hmap] at hperm
    constructor
    · refine ⟨zone, fun event hevent => ?_⟩
      obtain ⟨key, hkey, hmem⟩ := hkeys event hevent
      exact sortKey_ok.mpr ⟨key, hkey, hzone _ hmem⟩
    · have hlength : sorted.length ≤ store.length := by
        rw [hperm.length_eq]
        exact (List.length_filter_le _ _).trans (by rw [List.length_map])
      rw [List.take_of_length_le hlength] at hevents
      cases hevents
      exact hperm
  refine ⟨⟨fun ⟨events, h⟩ => (hreturns events h).1, ?_⟩, fun events h => (hreturns events h).2⟩
  rintro ⟨zone, hzone⟩
  have hrows : matchingRows (ruleQuery store ruleId) none none (store.map Prod.snd) =
      .ok (store.ofRule ruleId) := by
    refine (matchingRows_rule store ruleId _ _).mpr ⟨rfl, fun event hevent hrule => ?_⟩
    rw [hzone event (List.mem_filter.mpr ⟨hevent, decide_eq_true hrule⟩)]
    rfl
  obtain ⟨keyed, hkeyed, hzones⟩ := exists_keyed hzone
  obtain ⟨sorted, hsorted⟩ := exists_sortRows hzones
  refine ⟨sorted.take store.length, ?_⟩
  rw [listResultEvents_ruleQuery, hrows, ok_bind, hkeyed, ok_bind, hsorted, ok_bind]

end EventStore

end Runs

end DqMadeEasy
