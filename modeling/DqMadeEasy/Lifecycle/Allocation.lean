import DqMadeEasy.Lifecycle.Atomicity

/-!
# The versions of published artifacts

A publication takes the version after the highest one in the history of its artifact. The history
names every artifact that is stored, so the artifacts of a run of activations have increasing
versions, although a version can be below the one that was asked for.
-/

namespace DqMadeEasy

namespace Artifacts

open Lifecycle

def AllocatesAbove (history : List ArtifactStatusHistory) (minimumVersion : ℤ) : Prop :=
  (∀ row ∈ history, row.version < allocateNextArtifactVersion history minimumVersion) ∧
    minimumVersion ≤ allocateNextArtifactVersion history minimumVersion

/-! ### The next version -/

theorem le_foldl_max (versions : List ℤ) (start : ℤ) :
    start ≤ versions.foldl max start ∧ ∀ version ∈ versions, version ≤ versions.foldl max start := by
  induction versions generalizing start with
  | nil => exact ⟨le_rfl, nofun⟩
  | cons version versions ih =>
    obtain ⟨hstart, hall⟩ := ih (max start version)
    rw [List.foldl_cons]
    refine ⟨(le_max_left _ _).trans hstart, fun other hother => ?_⟩
    rcases List.mem_cons.mp hother with rfl | hother
    · exact (le_max_right _ _).trans hstart
    · exact hall other hother

theorem foldl_max_mem (versions : List ℤ) (start : ℤ) :
    versions.foldl max start = start ∨ versions.foldl max start ∈ versions := by
  induction versions generalizing start with
  | nil => exact .inl rfl
  | cons version versions ih =>
    rw [List.foldl_cons]
    rcases ih (max start version) with heq | hmem
    · rw [heq]
      rcases max_choice start version with h | h
      · exact .inl h
      · exact .inr (List.mem_cons.mpr (.inl h))
    · exact .inr (List.mem_cons_of_mem _ hmem)

variable {history : List ArtifactStatusHistory} {minimumVersion : ℤ}

theorem lt_allocateNextArtifactVersion {row : ArtifactStatusHistory} (hrow : row ∈ history) :
    row.version < allocateNextArtifactVersion history minimumVersion := by
  have hle := (le_foldl_max (history.map ArtifactStatusHistory.version) 0).2 row.version
    (List.mem_map_of_mem hrow)
  have hone := le_max_left 1 minimumVersion
  rw [allocateNextArtifactVersion]
  split <;> omega

theorem allocateNextArtifactVersion_of_nonpos (h : ∀ row ∈ history, row.version ≤ 0) :
    allocateNextArtifactVersion history minimumVersion = max 1 minimumVersion := by
  have hmax : (history.map ArtifactStatusHistory.version).foldl max 0 ≤ 0 := by
    rcases foldl_max_mem (history.map ArtifactStatusHistory.version) 0 with heq | hmem
    · exact heq.le
    · obtain ⟨row, hrow, heq⟩ := List.mem_map.mp hmem
      exact heq ▸ h row hrow
  rw [allocateNextArtifactVersion]
  exact if_pos hmax

theorem exists_allocateNextArtifactVersion (minimumVersion : ℤ) {row : ArtifactStatusHistory}
    (hrow : row ∈ history) (hpos : 0 < row.version) :
    ∃ highest ∈ history, (∀ row ∈ history, row.version ≤ highest.version) ∧
      allocateNextArtifactVersion history minimumVersion = highest.version + 1 := by
  obtain ⟨-, hall⟩ := le_foldl_max (history.map ArtifactStatusHistory.version) 0
  have hmax := hall row.version (List.mem_map_of_mem hrow)
  have hmem := (foldl_max_mem (history.map ArtifactStatusHistory.version) 0).resolve_left
    (by omega)
  obtain ⟨highest, hhighest, heq⟩ := List.mem_map.mp hmem
  refine ⟨highest, hhighest, fun other hother => ?_, ?_⟩
  · rw [heq]
    exact hall _ (List.mem_map_of_mem hother)
  · rw [allocateNextArtifactVersion, heq]
    exact if_neg (by omega)

/-- The requested version is respected where no version of the history is positive, and where it is
at most one above a version of the history. -/
theorem allocatesAbove_iff :
    AllocatesAbove history minimumVersion ↔
      (∀ row ∈ history, row.version ≤ 0) ∨ ∃ row ∈ history, minimumVersion ≤ row.version + 1 := by
  by_cases hnone : ∀ row ∈ history, row.version ≤ 0
  · refine iff_of_true ⟨fun _ => lt_allocateNextArtifactVersion, ?_⟩ (.inl hnone)
    rw [allocateNextArtifactVersion_of_nonpos hnone]
    exact le_max_right 1 minimumVersion
  · obtain ⟨row, hrow, hpos⟩ : ∃ row ∈ history, 0 < row.version := by
      by_contra hall
      exact hnone fun row hrow => not_lt.mp fun hpos => hall ⟨row, hrow, hpos⟩
    obtain ⟨highest, hhighest, hall, heq⟩ :=
      exists_allocateNextArtifactVersion minimumVersion hrow hpos
    rw [AllocatesAbove, heq]
    constructor
    · exact fun h => .inr ⟨highest, hhighest, h.2⟩
    · rintro (hnonpos | ⟨other, hother, hle⟩)
      · exact absurd hnonpos hnone
      · refine ⟨fun row hrow => ?_, hle.trans ?_⟩
        · have := hall row hrow
          omega
        · have := hall other hother
          omega

/-- After version 1 comes version 2, also where version 5 is asked for. -/
theorem not_allocatesAbove : ¬∀ history minimumVersion, AllocatesAbove history minimumVersion := by
  intro h
  have hminimum := (h [⟨"gx_r", 1, none, "active", none, 0, none⟩] 5).2
  revert hminimum
  decide

/-! ### Registries -/

variable {Content : Type}

def Registry.Recorded (registry : Registry Content) : Prop :=
  ∀ item ∈ registry.artifacts, ∃ row ∈ registry.history, row.id = item.id ∧
    row.version = item.version

/-- One artifact is older than another, unless the two have different ids. -/
def StoredArtifact.Precedes (a b : StoredArtifact Content) : Prop := a.id = b.id → a.version < b.version

/-- A registry goes on from another: it has new artifacts after the old ones, of higher and higher
versions. -/
def Registry.Continues (before after : Registry Content) : Prop :=
  ∃ published, after.artifacts = before.artifacts ++ published ∧
    published.Pairwise StoredArtifact.Precedes ∧
    ∀ old ∈ before.artifacts, ∀ new ∈ published, old.Precedes new

theorem Registry.Continues.refl (registry : Registry Content) : registry.Continues registry :=
  ⟨[], (List.append_nil _).symm, .nil, fun _ _ _ hnew => absurd hnew List.not_mem_nil⟩

theorem Registry.Continues.trans {a b c : Registry Content} (hab : a.Continues b)
    (hbc : b.Continues c) : a.Continues c := by
  obtain ⟨first, hfirst, hfirstOrder, hfirstAbove⟩ := hab
  obtain ⟨second, hsecond, hsecondOrder, hsecondAbove⟩ := hbc
  refine ⟨first ++ second, by rw [hsecond, hfirst, List.append_assoc], ?_, ?_⟩
  · refine List.pairwise_append.mpr ⟨hfirstOrder, hsecondOrder, fun old hold new hnew => ?_⟩
    exact hsecondAbove old (hfirst ▸ List.mem_append_right _ hold) new hnew
  · intro old hold new hnew
    rcases List.mem_append.mp hnew with hnew | hnew
    · exact hfirstAbove old hold new hnew
    · exact hsecondAbove old (hfirst ▸ List.mem_append_left _ hold) new hnew

/-- A save under a version that is above the history appends the artifact and names it in the
history. -/
theorem Registry.saveArtifact_of_above (hashPayload : StoredArtifact Content → Text) (now : Instant)
    (envelope : ArtifactEnvelope Content) (status : Text) (savedBy sourcePipeline : Option Text)
    {registry : Registry Content} (hrecorded : registry.Recorded)
    (habove : ∀ row ∈ registry.history, row.id = envelope.id → row.version < envelope.version) :
    ∃ row, (registry.saveArtifact hashPayload now envelope status none savedBy sourcePipeline).2 =
      ⟨registry.artifacts ++ [envelope.stored status savedBy sourcePipeline],
        registry.history ++ [row]⟩ ∧ row.id = envelope.id ∧ row.version = envelope.version := by
  have hnew : registry.find? (envelope.stored status savedBy sourcePipeline).id
      (envelope.stored status savedBy sourcePipeline).version = none := by
    rw [Registry.find?, List.find?_eq_none]
    intro item hitem hfound
    obtain ⟨hid, hversion⟩ := of_decide_eq_true hfound
    obtain ⟨row, hrow, hrowId, hrowVersion⟩ := hrecorded item hitem
    have hlt := habove row hrow (hrowId.trans hid)
    have heq : row.version = envelope.version := hrowVersion.trans hversion
    omega
  rw [Registry.saveArtifact]
  simp only [hnew]
  exact ⟨_, rfl, rfl, rfl⟩

end Artifacts

namespace Lifecycle

open Artifacts InMemory

section Runs

/-- What a publication makes of a registry: nothing, or what the next version makes of it. -/
inductive Publication {Content : Type} (before : Registry Content) : Registry Content → Prop
  | none : Publication before before
  | save (hashPayload : StoredArtifact Content → Text) (now : Instant) (id : Text)
      (minimumVersion : ℤ) (content : Content) (savedBy : Option Text) :
      Publication before ((savePublished hashPayload now ⟨id, allocateNextArtifactVersion
        (before.listArtifactStatusHistory id) minimumVersion, content⟩ savedBy).run before).2

theorem Publication.continues {Content : Type} {before after : Registry Content}
    (h : Publication before after) (hrecorded : before.Recorded) :
    before.Continues after ∧ after.Recorded := by
  cases h with
  | none => exact ⟨.refl before, hrecorded⟩
  | save hashPayload now id minimumVersion content savedBy =>
    rw [savePublished, Effect.run_ofState]
    have habove : ∀ row ∈ before.history, row.id = id → row.version <
        allocateNextArtifactVersion (before.listArtifactStatusHistory id) minimumVersion :=
      fun row hrow hid => lt_allocateNextArtifactVersion
        (List.mem_filter.mpr ⟨hrow, decide_eq_true hid⟩)
    obtain ⟨row, hstate, hid, hversion⟩ := Registry.saveArtifact_of_above hashPayload now
      ⟨id, allocateNextArtifactVersion (before.listArtifactStatusHistory id) minimumVersion,
        content⟩ "active" savedBy (some "rule-compiler") hrecorded
      habove
    dsimp only at hid hversion ⊢
    rw [hstate]
    refine ⟨⟨[_], rfl, List.pairwise_singleton _ _, fun old hold new hnew hsame => ?_⟩, ?_⟩
    · obtain rfl := List.mem_singleton.mp hnew
      obtain ⟨oldRow, holdRow, holdId, holdVersion⟩ := hrecorded old hold
      rw [← holdVersion]
      exact lt_allocateNextArtifactVersion
        (List.mem_filter.mpr ⟨holdRow, decide_eq_true (holdId.trans hsame)⟩)
    · intro item hitem
      rcases List.mem_append.mp hitem with hitem | hitem
      · obtain ⟨oldRow, holdRow, hnames⟩ := hrecorded item hitem
        exact ⟨oldRow, List.mem_append_left _ holdRow, hnames⟩
      · obtain rfl := List.mem_singleton.mp hitem
        exact ⟨row, List.mem_append_right _ List.mem_cons_self, hid, hversion⟩

variable [PyRuntime] [PyNumerals] {Ir Suite Artifact Compiled : Type}
  {S : ActivationServices Ir Suite Artifact Compiled} {now : Instant}

/-! ### The persistence steps -/

omit [PyRuntime] [PyNumerals] in
theorem publication_persistGxSuite (input : BuildInput) (registry : Registry Suite) :
    Publication registry ((persistGxSuite S now input).run registry).2 := by
  rw [persistGxSuite]
  split
  · exact .none
  · rw [Effect.run_bind_ok (Effect.run_get registry)]
    dsimp only
    cases hsuite : S.buildSuite input ("gx_" ++ input.ruleId)
      (allocateNextArtifactVersion (registry.listArtifactStatusHistory
        ("gx_" ++ input.ruleId)) input.request.suiteVersion) with
    | error error => exact .none
    | ok suite => exact .save S.hashSuite now _ _ suite input.savedBy

theorem publication_persistValidationArtifact (input : BuildInput) (registry : Registry Artifact) :
    Publication registry ((persistValidationArtifact S now input).run registry).2 := by
  rw [persistValidationArtifact]
  split
  · exact .none
  · cases htarget : resolveTargetEngine S input.rule.details.dsl with
    | error error => exact .none
    | ok target =>
      obtain ⟨engine, semanticIr⟩ := target
      rw [Effect.ofExcept_ok_bind, Effect.run_bind_ok (Effect.run_get registry)]
      split
      · cases semanticIr with
        | none => exact .none
        | some ir =>
          dsimp only
          cases hartifact : S.buildSodacl ir input ("sodacl_" ++ input.ruleId)
            (allocateNextArtifactVersion (registry.listArtifactStatusHistory
              ("sodacl_" ++ input.ruleId)) input.request.suiteVersion) with
          | error error => exact .none
          | ok artifact => exact .save S.hashArtifact now _ _ artifact input.savedBy
      · dsimp only
        cases hsuite : S.buildSuite input ("gx_" ++ input.ruleId)
          (allocateNextArtifactVersion (registry.listArtifactStatusHistory
            ("gx_" ++ input.ruleId)) input.request.suiteVersion) with
        | error error => exact .none
        | ok suite =>
          rw [Effect.ofExcept_ok_bind]
          cases hartifact : S.artifactOfSuite suite with
          | error error => exact .none
          | ok artifact => exact .save S.hashArtifact now _ _ artifact input.savedBy

/-! ### Runs -/

omit [PyRuntime] [PyNumerals] in
/-- The registries of some stores go on from those of others. -/
def Stores.Continues (before after : Stores Suite Artifact Compiled) : Prop :=
  before.suites.Continues after.suites ∧ before.artifacts.Continues after.artifacts

omit [PyRuntime] [PyNumerals] in
/-- Both histories name every artifact. -/
def Stores.Recorded (stores : Stores Suite Artifact Compiled) : Prop :=
  stores.suites.Recorded ∧ stores.artifacts.Recorded

omit [PyRuntime] [PyNumerals] in
def Stores.GoneOn (start stores : Stores Suite Artifact Compiled) : Prop :=
  start.Continues stores ∧ stores.Recorded

variable {start : Stores Suite Artifact Compiled}

omit [PyRuntime] [PyNumerals] in
theorem goneOn_onSuites {p : Effect (Registry Suite) ActivationError Unit}
    (hp : ∀ registry, Publication registry (p.run registry).2) :
    (onSuites p : Effect (Stores Suite Artifact Compiled) ActivationError Unit).Keeps
      (Stores.GoneOn start) := by
  rintro stores ⟨⟨hsuites, hartifacts⟩, hrecorded, hrecorded'⟩
  obtain ⟨hcontinues, hafter⟩ := (hp stores.suites).continues hrecorded
  exact ⟨⟨hsuites.trans hcontinues, hartifacts⟩, hafter, hrecorded'⟩

omit [PyRuntime] [PyNumerals] in
theorem goneOn_onArtifacts {p : Effect (Registry Artifact) ActivationError Unit}
    (hp : ∀ registry, Publication registry (p.run registry).2) :
    (onArtifacts p : Effect (Stores Suite Artifact Compiled) ActivationError Unit).Keeps
      (Stores.GoneOn start) := by
  rintro stores ⟨⟨hsuites, hartifacts⟩, hrecorded, hrecorded'⟩
  obtain ⟨hcontinues, hafter⟩ := (hp stores.artifacts).continues hrecorded'
  exact ⟨⟨hsuites, hartifacts.trans hcontinues⟩, hrecorded, hafter⟩

theorem goneOn_publishArtifacts (engine : Text) (input : BuildInput) :
    (publishArtifacts S now engine input :
      Effect (Stores Suite Artifact Compiled) ActivationError Unit).Keeps
      (Stores.GoneOn start) := by
  rw [publishArtifacts]
  refine .ite (fun _ => ?_) fun _ => .ite (fun _ => ?_) fun _ => .raise _
  · exact .bind (goneOn_onSuites (publication_persistGxSuite input))
      fun _ => goneOn_onArtifacts (publication_persistValidationArtifact input)
  · exact goneOn_onArtifacts (publication_persistValidationArtifact input)

/-- An activation appends to the registries, whatever it ends in. -/
theorem goneOn_activateRule (overrides : PolicyOverrides) (command : ActivateRuleCommand) :
    (activateRule S overrides now command :
      Effect (Stores Suite Artifact Compiled) ActivationError RuleRecord).Keeps
      (Stores.GoneOn start) := by
  rw [activateRule]
  refine .bind (fun _ h => h) fun before => .bind (.ofExcept _) fun _ =>
    .bind (fun _ h => h) fun written => ?_
  cases written with
  | none => exact .raise _
  | some payload =>
    refine .bind (fun _ h => h) fun after => ?_
    cases getRuleById after.rules command.ruleId with
    | none => exact .pure _
    | some r =>
      refine .bind ?_ fun _ => .pure _
      rw [publishActivated]
      refine .bind (.ofExcept _) fun compiled => .bind (fun _ h => h) fun _ => ?_
      cases command.autoPublishRequest with
      | none => exact .pure _
      | some request => exact goneOn_publishArtifacts _ _

/-- What happens to the stores: an activation, whose services may answer anything, or a change of
the rules and of the compiler artifacts by anyone else. -/
inductive ActivationEvent (Ir Suite Artifact Compiled : Type) where
  | activate (services : ActivationServices Ir Suite Artifact Compiled)
    (overrides : PolicyOverrides) (now : Instant) (command : ActivateRuleCommand)
  | change (rules : Repository) (compiled : Compiled)

/-- The stores after an event. -/
def ActivationEvent.apply (stores : Stores Suite Artifact Compiled) :
    ActivationEvent Ir Suite Artifact Compiled → Stores Suite Artifact Compiled
  | .activate services overrides now command =>
    ((activateRule services overrides now command).run stores).2
  | .change rules compiled => { stores with rules, compiled }

def activations (events : List (ActivationEvent Ir Suite Artifact Compiled))
    (stores : Stores Suite Artifact Compiled) : Stores Suite Artifact Compiled :=
  events.foldl ActivationEvent.apply stores

theorem goneOn_apply {stores : Stores Suite Artifact Compiled} (h : start.GoneOn stores)
    (event : ActivationEvent Ir Suite Artifact Compiled) :
    start.GoneOn (event.apply stores) := by
  cases event with
  | activate services overrides now command => exact goneOn_activateRule overrides command stores h
  | change rules compiled => exact h

theorem goneOn_activations {stores : Stores Suite Artifact Compiled} (h : start.GoneOn stores)
    (events : List (ActivationEvent Ir Suite Artifact Compiled)) :
    start.GoneOn (activations events stores) := by
  induction events generalizing stores with
  | nil => exact h
  | cons event events ih => exact ih (goneOn_apply h event)

/-- The next version respects the requested one exactly under a condition on the history, and the
artifacts of every run of activations have increasing versions in each registry. -/
theorem allocation_of_activations :
    (∀ history minimumVersion, AllocatesAbove history minimumVersion ↔
      (∀ row ∈ history, row.version ≤ 0) ∨ ∃ row ∈ history, minimumVersion ≤ row.version + 1) ∧
    ∀ (events : List (ActivationEvent Ir Suite Artifact Compiled))
      (stores : Stores Suite Artifact Compiled), stores.Recorded →
      stores.Continues (activations events stores) :=
  ⟨fun _ _ => allocatesAbove_iff, fun events _ h =>
    (goneOn_activations ⟨⟨.refl _, .refl _⟩, h⟩ events).1⟩

end Runs

end Lifecycle

end DqMadeEasy
