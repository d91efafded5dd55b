import DqMadeEasy.Artifacts.Table
import DqMadeEasy.Logic.Journal
import DqMadeEasy.Logic.Transition

/-!
# Saves and status changes

What the in-memory repository and the table have in common: a save overwrites only the artifact that
its caller has seen, and every change of a status is written down. The laws are stated of a
repository in general, and proved of each of the two.
-/

namespace DqMadeEasy

namespace Artifacts

open Lifecycle

variable {Body : Type}

/-- How the status history is read. -/
def statusReading : Journal.Reading (Text × ℤ) Text ArtifactStatusHistory where
  key row := (row.id, row.version)
  source := ArtifactStatusHistory.fromStatus
  target := ArtifactStatusHistory.toStatus
  shown := statusOrNone

/-- A repository of artifacts, with the laws of its writes. The id that a save writes, the save that
its storage admits, and the save whose payload it gives back as it is are its own. -/
structure ArtifactRepository (Body : Type) where
  State : Type
  Error : Type
  empty : State
  save : SaveCommand Body → State → Except Error (EnvelopePayload Body × Text) × State
  patch : PatchCommand → State → State
  hashPayload : EnvelopePayload Body → Text
  savedKey : SaveCommand Body → Text × ℤ
  patchedKey : PatchCommand → State → Option (Text × ℤ)
  admits : SaveCommand Body → State → Prop
  keepsPayload : SaveCommand Body → Prop
  /-- The hash of the current artifact of a key. -/
  hash? : State → Text × ℤ → Option Text
  /-- The statuses and the status history. -/
  view : State → Journal.View (Text × ℤ) Text ArtifactStatusHistory
  view_empty : view empty = ⟨fun _ => none, []⟩
  save_writes : ∀ command state,
    Journal.Writes statusReading (view state) (view (save command state).2)
  patch_writes : ∀ command state,
    Journal.Writes statusReading (view state) (view (patch command state))
  /-- A save returns the hash of what is stored from then on. -/
  hash_of_save : ∀ {command state saved},
    (save command state).1 = .ok saved → hash? (save command state).2 (savedKey command) = some saved.2
  hash_save_of_ne : ∀ {command state key}, key ≠ savedKey command →
    hash? (save command state).2 key = hash? state key
  hash_patch_of_ne : ∀ {command state key}, patchedKey command state ≠ some key →
    hash? (patch command state) key = hash? state key
  /-- Other content is saved for the one who knows the current hash. -/
  overwrite_iff : ∀ {command state current}, hash? state (savedKey command) = some current →
    current ≠ hashPayload command.payload → admits command state →
    ((∃ saved, (save command state).1 = .ok saved) ↔ command.expectedExistingHash = some current)
  save_again : ∀ {command state saved} (now : Instant), keepsPayload command →
    (save command state).1 = .ok saved →
    save (command.again now) (save command state).2 = (.ok saved, (save command state).2)

namespace ArtifactRepository

variable (R : ArtifactRepository Body)

/-- A call of a repository. -/
inductive Event (Body : Type) where
  | save (command : SaveCommand Body)
  | patch (command : PatchCommand)

def next (state : R.State) : Event Body → R.State
  | .save command => (R.save command state).2
  | .patch command => R.patch command state

/-- The version that a call writes. -/
def writtenKey (state : R.State) : Event Body → Option (Text × ℤ)
  | .save command => some (R.savedKey command)
  | .patch command => R.patchedKey command state

/-- The runs of a repository whose calls meet a condition. -/
abbrev Runs (meets : R.State → Event Body → Prop) : R.State → List (Event Body) → R.State → Prop :=
  Transition.Runs (fun state event state' => state' = R.next state event) meets

variable {R} {start state : R.State} {events : List (Event Body)}

theorem faithful_of_runs (h : R.Runs (fun _ _ => True) R.empty events state) :
    Journal.Faithful statusReading (R.view state) := by
  refine h.invariant (I := fun state => Journal.Faithful statusReading (R.view state)) ?_ ?_
  · intro key
    rw [R.view_empty]
    exact Journal.LeadsTo.nil
  · rintro state event _ hfaithful rfl -
    cases event with
    | save command => exact (R.save_writes command state).faithful hfaithful
    | patch command => exact (R.patch_writes command state).faithful hfaithful

theorem hash_of_runs {key : Text × ℤ}
    (h : R.Runs (fun state event => R.writtenKey state event ≠ some key) start events state) :
    R.hash? state key = R.hash? start key := by
  refine h.invariant (I := fun state => R.hash? state key = R.hash? start key) rfl ?_
  rintro state event _ hsame rfl hother
  rw [← hsame]
  cases event with
  | save command => exact R.hash_save_of_ne fun hkey => hother (congrArg some hkey.symm)
  | patch command => exact R.hash_patch_of_ne hother

/-- What holds of a repository: a second save changes nothing, an overwrite needs the hash of the
last save, and the status history is a chain. -/
structure Guarded (R : ArtifactRepository Body) : Prop where
  /-- The same save once more, without an expected hash. -/
  again : ∀ command state saved now, R.keepsPayload command →
    (R.save command state).1 = .ok saved →
    R.save (command.again now) (R.save command state).2 = (.ok saved, (R.save command state).2)
  /-- Other content over the current artifact. -/
  overwrite : ∀ command state current, R.hash? state (R.savedKey command) = some current →
    current ≠ R.hashPayload command.payload → R.admits command state →
    ((∃ saved, (R.save command state).1 = .ok saved) ↔ command.expectedExistingHash = some current)
  /-- The hash that a save returns is that of the current artifact until the version is written. -/
  current : ∀ first start saved events state, (R.save first start).1 = .ok saved →
    R.Runs (fun state event => R.writtenKey state event ≠ some (R.savedKey first))
      (R.save first start).2 events state →
    R.hash? state (R.savedKey first) = some saved.2
  /-- The status history of a version leads from nothing to its status. -/
  chain : ∀ events state, R.Runs (fun _ _ => True) R.empty events state →
    ∀ key, Journal.LeadsTo statusReading ((R.view state).entriesOf statusReading key)
      ((R.view state).value key)

theorem guarded (R : ArtifactRepository Body) : R.Guarded where
  again _ _ _ now hkeeps hsaved := R.save_again now hkeeps hsaved
  overwrite _ _ _ hcurrent hother hadmits := R.overwrite_iff hcurrent hother hadmits
  current _ _ _ _ _ hsaved hruns := (hash_of_runs hruns).trans (R.hash_of_save hsaved)
  chain _ _ hruns := faithful_of_runs hruns

end ArtifactRepository

/-! ### The in-memory repository -/

namespace Registry

variable {Content : Type} {registry : Registry (ValidationContent Body)}
  {hashPayload : EnvelopePayload Body → Text} {command : SaveCommand Body}

def keyOf (item : StoredArtifact Content) : Text × ℤ := (item.id, item.version)

theorem find?_eq (registry : Registry Content) (key : Text × ℤ) :
    registry.find? key.1 key.2 = Keyed.find? keyOf registry.artifacts key := by
  rw [find?, Keyed.find?]
  congr 1
  funext item
  exact decide_eq_decide.mpr (Prod.ext_iff (x := (item.id, item.version)) (y := key)).symm

theorem replaceArtifact_eq (row : StoredArtifact Content) (items : List (StoredArtifact Content)) :
    replaceArtifact row items = Keyed.replace keyOf row items := by
  induction items with
  | nil => rfl
  | cons item items ih =>
    rw [replaceArtifact, Keyed.replace, ih]
    simp only [keyOf, Prod.mk.injEq]

def savedKey (command : SaveCommand Body) : Text × ℤ :=
  (command.envelope.id, command.envelope.version)

def hash? (hashPayload : EnvelopePayload Body → Text)
    (registry : Registry (ValidationContent Body)) (key : Text × ℤ) : Option Text :=
  (registry.find? key.1 key.2).map fun item => hashPayload item.payload

def view (registry : Registry Content) : Journal.View (Text × ℤ) Text ArtifactStatusHistory where
  value key := (registry.find? key.1 key.2).map StoredArtifact.status
  entries := registry.history

/-- What a save does: it adds the artifact, refuses to overwrite it, or overwrites it. -/
inductive Saved (hashPayload : EnvelopePayload Body → Text) (command : SaveCommand Body)
    (registry : Registry (ValidationContent Body)) :
    Except RepositoryError (EnvelopePayload Body × Text) × Registry (ValidationContent Body) → Prop
  | added : registry.find? command.envelope.id command.envelope.version = none →
      Saved hashPayload command registry (.ok (command.payload, hashPayload command.payload), {
        artifacts := registry.artifacts ++ [command.stored]
        history := registry.history ++ [⟨command.envelope.id, command.envelope.version, none,
          command.status, command.savedBy, command.now, none⟩] })
  | refused (item : StoredArtifact (ValidationContent Body)) (error : RepositoryError) :
      registry.find? command.envelope.id command.envelope.version = some item →
      hashPayload item.payload ≠ hashPayload command.payload →
      command.expectedExistingHash ≠ some (hashPayload item.payload) →
      Saved hashPayload command registry (.error error, registry)
  | overwritten (item : StoredArtifact (ValidationContent Body)) :
      registry.find? command.envelope.id command.envelope.version = some item →
      (hashPayload item.payload = hashPayload command.payload ∨
        command.expectedExistingHash = some (hashPayload item.payload)) →
      Saved hashPayload command registry (.ok (command.payload, hashPayload command.payload), {
        artifacts := replaceArtifact command.stored registry.artifacts
        history := if item.status = command.status then registry.history
          else registry.history ++ [⟨command.envelope.id, command.envelope.version,
            statusOrNone item.status, command.status, command.savedBy, command.now, none⟩] })

theorem save_cases (hashPayload : EnvelopePayload Body → Text) (command : SaveCommand Body)
    (registry : Registry (ValidationContent Body)) :
    Saved hashPayload command registry (save hashPayload command registry) := by
  have hrow : ∀ found, registry.find? command.envelope.id command.envelope.version = found →
      registry.find? (command.envelope.stored command.status command.savedBy
        command.sourcePipeline).id (command.envelope.stored command.status command.savedBy
          command.sourcePipeline).version = found := fun _ h => h
  rw [save, saveArtifact]
  dsimp only
  cases hfind : registry.find? command.envelope.id command.envelope.version with
  | none =>
    rw [hrow _ hfind]
    exact .added hfind
  | some item =>
    rw [hrow _ hfind]
    dsimp only
    split
    · rename_i hconflict
      exact .refused item _ hfind hconflict.1 hconflict.2
    · rename_i hsame
      rw [not_and_or, not_ne_iff, not_ne_iff] at hsame
      exact .overwritten item hfind hsame

theorem view_value (registry : Registry Content) : registry.view.value =
    fun key => (Keyed.find? keyOf registry.artifacts key).map StoredArtifact.status := by
  funext key
  exact congrArg (Option.map StoredArtifact.status) (registry.find?_eq key)

theorem hash?_eq (hashPayload : EnvelopePayload Body → Text)
    (registry : Registry (ValidationContent Body)) : registry.hash? hashPayload =
      fun key => (Keyed.find? keyOf registry.artifacts key).map
        fun item => hashPayload item.payload := by
  funext key
  exact congrArg (Option.map fun item => hashPayload item.payload) (registry.find?_eq key)

theorem isSome_find? (row : StoredArtifact Content) {item : StoredArtifact Content}
    {registry : Registry Content} (h : registry.find? row.id row.version = some item) :
    (Keyed.find? keyOf registry.artifacts (keyOf row)).isSome = true := by
  rw [← registry.find?_eq (keyOf row)]
  exact Option.isSome_of_eq_some h

theorem save_writes (hashPayload : EnvelopePayload Body → Text) (command : SaveCommand Body)
    (registry : Registry (ValidationContent Body)) :
    Journal.Writes statusReading registry.view (save hashPayload command registry).2.view := by
  have hcases := save_cases hashPayload command registry
  generalize save hashPayload command registry = result at hcases
  cases hcases with
  | added hnone =>
    have hfresh : Keyed.find? keyOf registry.artifacts (keyOf command.stored) = none :=
      (registry.find?_eq (keyOf command.stored)).symm.trans hnone
    refine .change _ rfl ?_ ?_
    · rw [view_value]
      exact (congrArg (fun found => (Option.map StoredArtifact.status found).bind statusOrNone)
        hfresh).symm
    · rw [view_value, view_value]
      exact Keyed.map_find?_append StoredArtifact.status hfresh
  | refused => exact .same rfl rfl
  | overwritten item hfind =>
    have hstatus : ∀ history, (⟨replaceArtifact command.stored registry.artifacts, history⟩ :
        Registry (ValidationContent Body)).view.value =
          Function.update registry.view.value (keyOf command.stored) (some command.status) := by
      intro history
      rw [view_value, view_value, replaceArtifact_eq]
      exact Keyed.map_find?_replace StoredArtifact.status (isSome_find? command.stored hfind)
    have hbefore : registry.view.value (keyOf command.stored) = some item.status :=
      congrArg (Option.map StoredArtifact.status) hfind
    by_cases hsame : item.status = command.status
    · refine .same ((hstatus _).trans ?_) (if_pos hsame)
      rw [← hsame, ← hbefore, Function.update_eq_self]
    · refine .change _ (if_neg hsame) ?_ (hstatus _)
      exact (congrArg (fun found => Option.bind found statusOrNone) hbefore).symm

theorem patch_cases (command : PatchCommand) (registry : Registry Content) :
    registry.patch command = registry ∨ ∃ target item : StoredArtifact Content,
      registry.patchTarget command = some target ∧
      registry.find? target.id target.version = some item ∧ keyOf item = keyOf target ∧
      registry.patch command = {
        artifacts := replaceArtifact { item with status := command.newStatus } registry.artifacts
        history := registry.history ++ [⟨item.id, item.version, statusOrNone item.status,
          command.newStatus, command.changedBy, command.now, command.reason⟩] } := by
  rw [patch]
  cases htarget : registry.patchTarget command with
  | none => exact .inl rfl
  | some target =>
    dsimp only
    rw [patchArtifactStatus]
    cases hfind : registry.find? target.id target.version with
    | none => exact .inl rfl
    | some item =>
      refine .inr ⟨target, item, rfl, hfind, ?_, rfl⟩
      exact Keyed.key_of_find? ((registry.find?_eq (keyOf target)).symm.trans hfind)

/-- The version that a change of status writes. -/
def patchedKey (command : PatchCommand) (registry : Registry Content) : Option (Text × ℤ) :=
  (registry.patchTarget command).map keyOf

theorem patch_writes (command : PatchCommand) (registry : Registry Content) :
    Journal.Writes statusReading registry.view (registry.patch command).view := by
  obtain hsame | ⟨target, item, -, hfind, hkey, hpatch⟩ := patch_cases command registry
  · rw [hsame]
    exact .same rfl rfl
  · rw [hpatch]
    have hsome : (Keyed.find? keyOf registry.artifacts
        (keyOf { item with status := command.newStatus })).isSome = true := by
      rw [show keyOf { item with status := command.newStatus } = keyOf target from hkey]
      exact isSome_find? target hfind
    refine .change _ rfl ?_ ?_
    · have hbefore : registry.view.value (keyOf item) = some item.status := by
        rw [hkey]
        exact congrArg (Option.map StoredArtifact.status) hfind
      exact (congrArg (fun found => Option.bind found statusOrNone) hbefore).symm
    · rw [view_value, view_value, replaceArtifact_eq]
      exact Keyed.map_find?_replace StoredArtifact.status hsome

/-- The hashes after a save that stores its artifact. -/
theorem hash_save (hashPayload : EnvelopePayload Body → Text) (command : SaveCommand Body)
    (registry : Registry (ValidationContent Body)) :
    (∃ error, save hashPayload command registry = (.error error, registry)) ∨
      (save hashPayload command registry).1 = .ok (command.payload, hashPayload command.payload) ∧
      (save hashPayload command registry).2.hash? hashPayload =
        Function.update (registry.hash? hashPayload) (savedKey command)
          (some (hashPayload command.payload)) := by
  have hcases := save_cases hashPayload command registry
  generalize save hashPayload command registry = result at hcases
  cases hcases with
  | added hnone =>
    have hfresh : Keyed.find? keyOf registry.artifacts (keyOf command.stored) = none :=
      (registry.find?_eq (keyOf command.stored)).symm.trans hnone
    refine .inr ⟨rfl, ?_⟩
    rw [hash?_eq, hash?_eq]
    exact Keyed.map_find?_append (fun item => hashPayload item.payload) hfresh
  | refused item error => exact .inl ⟨error, rfl⟩
  | overwritten item hfind =>
    refine .inr ⟨rfl, ?_⟩
    rw [hash?_eq, hash?_eq, replaceArtifact_eq]
    exact Keyed.map_find?_replace (fun item => hashPayload item.payload) (isSome_find? command.stored hfind)

theorem hash_patch_of_ne {command : PatchCommand} {key : Text × ℤ}
    (h : registry.patchedKey command ≠ some key) :
    (registry.patch command).hash? hashPayload key = registry.hash? hashPayload key := by
  obtain hsame | ⟨target, item, htarget, hfind, hkey, hpatch⟩ := patch_cases command registry
  · rw [hsame]
  · have hne : key ≠ keyOf { item with status := command.newStatus } := by
      rintro rfl
      refine h ?_
      rw [patchedKey, htarget]
      exact congrArg some hkey.symm
    have hsome : (Keyed.find? keyOf registry.artifacts
        (keyOf { item with status := command.newStatus })).isSome = true := by
      rw [show keyOf { item with status := command.newStatus } = keyOf target from hkey]
      exact isSome_find? target hfind
    rw [hpatch, hash?_eq, hash?_eq, replaceArtifact_eq,
      Keyed.map_find?_replace (fun item => hashPayload item.payload) hsome,
      Function.update_of_ne hne]

/-- Other content is saved for the one who knows the current hash. -/
theorem overwrite_iff {current : Text}
    (hcurrent : registry.hash? hashPayload (savedKey command) = some current)
    (hother : current ≠ hashPayload command.payload) :
    (∃ saved, (save hashPayload command registry).1 = .ok saved) ↔
      command.expectedExistingHash = some current := by
  have hcases := save_cases hashPayload command registry
  generalize save hashPayload command registry = result at hcases
  cases hcases with
  | added hnone =>
    rw [hash?, show registry.find? (savedKey command).1 (savedKey command).2 = none from hnone]
      at hcurrent
    cases hcurrent
  | refused item error hfind hconflict hexpected =>
    rw [hash?, show registry.find? (savedKey command).1 (savedKey command).2 = _ from hfind,
      Option.map_some] at hcurrent
    cases hcurrent
    exact iff_of_false nofun hexpected
  | overwritten item hfind hsame =>
    rw [hash?, show registry.find? (savedKey command).1 (savedKey command).2 = _ from hfind,
      Option.map_some] at hcurrent
    cases hcurrent
    exact iff_of_true ⟨_, rfl⟩ (hsame.resolve_left hother)

/-- The same save once more changes nothing. -/
theorem save_again {saved : EnvelopePayload Body × Text} (now : Instant)
    (hsaved : (save hashPayload command registry).1 = .ok saved) :
    save hashPayload (command.again now) (save hashPayload command registry).2 =
      (.ok saved, (save hashPayload command registry).2) := by
  obtain ⟨error, hrefused⟩ | ⟨hok, -⟩ := hash_save hashPayload command registry
  · rw [hrefused] at hsaved
    cases hsaved
  have hstored : Keyed.find? keyOf (save hashPayload command registry).2.artifacts
      (keyOf command.stored) = some command.stored := by
    have hcases := save_cases hashPayload command registry
    generalize save hashPayload command registry = result at hcases hok
    cases hcases with
    | added hnone =>
      have hfresh := (registry.find?_eq (keyOf command.stored)).symm.trans hnone
      rw [Keyed.find?_append hfresh, if_pos rfl]
    | refused => cases hok
    | overwritten item hfind =>
      rw [replaceArtifact_eq, Keyed.find?_replace (isSome_find? command.stored hfind), if_pos rfl]
  rw [hok] at hsaved
  cases hsaved
  generalize (save hashPayload command registry).2 = after at hstored ⊢
  have hfind : after.find? command.envelope.id command.envelope.version = some command.stored :=
    (after.find?_eq (keyOf command.stored)).trans hstored
  have hcases := save_cases hashPayload (command.again now) after
  generalize save hashPayload (command.again now) after = result at hcases
  cases hcases with
  | added hnone => cases hnone.symm.trans hfind
  | refused item error hfind' hconflict =>
    cases hfind'.symm.trans hfind
    exact absurd rfl hconflict
  | overwritten item hfind' =>
    cases hfind'.symm.trans hfind
    have hrows : replaceArtifact (command.again now).stored after.artifacts = after.artifacts := by
      rw [replaceArtifact_eq]
      exact Keyed.replace_self hstored
    have hstatus : command.stored.status = (command.again now).status := rfl
    rw [hrows, if_pos hstatus]
    rfl

/-- The in-memory repository. -/
def repository (hashPayload : EnvelopePayload Body → Text) : ArtifactRepository Body where
  State := Registry (ValidationContent Body)
  Error := RepositoryError
  empty := ⟨[], []⟩
  save := save hashPayload
  patch := patch
  hashPayload := hashPayload
  savedKey := savedKey
  patchedKey command registry := registry.patchedKey command
  admits _ _ := True
  keepsPayload _ := True
  hash? registry := registry.hash? hashPayload
  view := view
  view_empty := rfl
  save_writes := save_writes hashPayload
  patch_writes := patch_writes
  hash_of_save := by
    intro command registry saved hsaved
    obtain ⟨error, hrefused⟩ | ⟨hok, hhash⟩ := hash_save hashPayload command registry
    · rw [hrefused] at hsaved
      cases hsaved
    · rw [hok] at hsaved
      cases hsaved
      rw [hhash, Function.update_self]
  hash_save_of_ne := by
    intro command registry key hne
    obtain ⟨error, hrefused⟩ | ⟨-, hhash⟩ := hash_save hashPayload command registry
    · rw [hrefused]
    · rw [hhash, Function.update_of_ne hne]
  hash_patch_of_ne h := hash_patch_of_ne h
  overwrite_iff hcurrent hother _ := overwrite_iff hcurrent hother
  save_again now _ hsaved := save_again now hsaved

end Registry

/-! ### The table -/

namespace Postgres

namespace ArtifactTables

variable [PyDatetime] {hashPayload : EnvelopePayload Body → Text} {localToUtc : ℤ → ℤ}
  {command : SaveCommand Body} {tables : ArtifactTables Body}

omit [PyDatetime] in
def savedKey (command : SaveCommand Body) : Text × ℤ :=
  (Text.strip command.envelope.id, command.envelope.version)

/-- The row that a save is to write. -/
def writtenRow (localToUtc : ℤ → ℤ) (command : SaveCommand Body) (tables : ArtifactTables Body) :
    RegistryRow Body :=
  match tables.find? (savedKey command) with
  | none => insertedRow localToUtc command
  | some row => overwrittenRow localToUtc command row

def hash? (hashPayload : EnvelopePayload Body → Text) (tables : ArtifactTables Body)
    (key : Text × ℤ) : Option Text :=
  (Keyed.find? RegistryRow.key tables.rows key).map fun row => hashPayload (buildEnvelope row)

omit [PyDatetime] in
def view (tables : ArtifactTables Body) : Journal.View (Text × ℤ) Text ArtifactStatusHistory where
  value key := (Keyed.find? RegistryRow.key tables.rows key).map RegistryRow.status
  entries := tables.history

omit [PyDatetime] in
/-- The version that a change of status writes. -/
def patchedKey (command : PatchCommand) (tables : ArtifactTables Body) : Option (Text × ℤ) :=
  (tables.patchTarget command).map RegistryRow.key

/-- What a save does: it inserts a row, fails, or overwrites one. -/
inductive Saved (hashPayload : EnvelopePayload Body → Text) (localToUtc : ℤ → ℤ)
    (command : SaveCommand Body) (tables : ArtifactTables Body) :
    Except TableError (EnvelopePayload Body × Text) × ArtifactTables Body → Prop
  | added : tables.find? (savedKey command) = none →
      Storable (writtenRow localToUtc command tables) →
      Saved hashPayload localToUtc command tables
        (.ok (returned hashPayload (writtenRow localToUtc command tables)), {
          rows := tables.rows ++ [writtenRow localToUtc command tables]
          history := tables.history ++ [historyRow (writtenRow localToUtc command tables) none
            command.status command.savedBy none command.now] })
  | unstorable (error : TableError) : ¬Storable (writtenRow localToUtc command tables) →
      Saved hashPayload localToUtc command tables (.error error, tables)
  | refused (row : RegistryRow Body) (error : TableError) :
      tables.find? (savedKey command) = some row →
      hashPayload (buildEnvelope row) ≠ hashPayload command.payload →
      command.expectedExistingHash ≠ some (hashPayload (buildEnvelope row)) →
      Saved hashPayload localToUtc command tables (.error error, tables)
  | overwritten (row : RegistryRow Body) : tables.find? (savedKey command) = some row →
      (hashPayload (buildEnvelope row) = hashPayload command.payload ∨
        command.expectedExistingHash = some (hashPayload (buildEnvelope row))) →
      Storable (writtenRow localToUtc command tables) →
      Saved hashPayload localToUtc command tables
        (.ok (returned hashPayload (writtenRow localToUtc command tables)), {
          rows := Keyed.replace RegistryRow.key (writtenRow localToUtc command tables) tables.rows
          history := if row.status = command.status then tables.history
            else tables.history ++ [historyRow (writtenRow localToUtc command tables)
              (statusOrNone row.status) command.status command.savedBy none command.now] })

theorem writtenRow_of_none (localToUtc : ℤ → ℤ) (h : tables.find? (savedKey command) = none) :
    writtenRow localToUtc command tables = insertedRow localToUtc command := by
  rw [writtenRow, h]

theorem writtenRow_of_some (localToUtc : ℤ → ℤ) {row : RegistryRow Body}
    (h : tables.find? (savedKey command) = some row) :
    writtenRow localToUtc command tables = overwrittenRow localToUtc command row := by
  rw [writtenRow, h]

theorem key_writtenRow (localToUtc : ℤ → ℤ) (command : SaveCommand Body)
    (tables : ArtifactTables Body) :
    (writtenRow localToUtc command tables).key = savedKey command := by
  cases hfind : tables.find? (savedKey command) with
  | none =>
    rw [writtenRow_of_none localToUtc hfind]
    rfl
  | some row =>
    rw [writtenRow_of_some localToUtc hfind]
    have hkey : row.key = savedKey command := Keyed.key_of_find? hfind
    exact hkey

theorem status_writtenRow (localToUtc : ℤ → ℤ) (command : SaveCommand Body)
    (tables : ArtifactTables Body) :
    (writtenRow localToUtc command tables).status = command.status := by
  rw [writtenRow]
  split <;> rfl

theorem save_cases (hashPayload : EnvelopePayload Body → Text) (localToUtc : ℤ → ℤ)
    (command : SaveCommand Body) (tables : ArtifactTables Body) :
    Saved hashPayload localToUtc command tables (save hashPayload localToUtc command tables) := by
  rw [save]
  cases hfind : tables.find? (savedKey command) with
  | none =>
    rw [show tables.find? (Text.strip command.envelope.id, command.envelope.version) = none
      from hfind]
    have hrow := writtenRow_of_none localToUtc hfind
    dsimp only
    split
    · rename_i hstorable
      rw [← hrow] at hstorable ⊢
      exact .added hfind hstorable
    · rename_i hnot
      exact .unstorable _ (hrow ▸ hnot)
  | some row =>
    rw [show tables.find? (Text.strip command.envelope.id, command.envelope.version) = some row
      from hfind]
    have hrow := writtenRow_of_some localToUtc hfind
    dsimp only
    split
    · rename_i hconflict
      exact .refused row _ hfind hconflict.1 hconflict.2
    · rename_i hsame
      rw [not_and_or, not_ne_iff, not_ne_iff] at hsame
      split
      · rename_i hstorable
        rw [← hrow] at hstorable ⊢
        exact .overwritten row hfind hsame hstorable
      · rename_i hnot
        exact .unstorable _ (hrow ▸ hnot)

theorem isSome_find? {row : RegistryRow Body} (localToUtc : ℤ → ℤ)
    (h : tables.find? (savedKey command) = some row) :
    (Keyed.find? RegistryRow.key tables.rows
      (writtenRow localToUtc command tables).key).isSome = true := by
  rw [key_writtenRow]
  exact Option.isSome_of_eq_some h

theorem fresh_key (localToUtc : ℤ → ℤ) (h : tables.find? (savedKey command) = none) :
    Keyed.find? RegistryRow.key tables.rows (writtenRow localToUtc command tables).key = none := by
  rw [key_writtenRow]
  exact h

theorem save_writes (hashPayload : EnvelopePayload Body → Text) (localToUtc : ℤ → ℤ)
    (command : SaveCommand Body) (tables : ArtifactTables Body) :
    Journal.Writes statusReading tables.view
      (save hashPayload localToUtc command tables).2.view := by
  have hcases := save_cases hashPayload localToUtc command tables
  generalize save hashPayload localToUtc command tables = result at hcases
  have hstatus := status_writtenRow localToUtc command tables
  cases hcases with
  | added hnone =>
    have hfresh := fresh_key localToUtc hnone
    refine .change _ rfl ?_ ?_
    · exact (congrArg (fun found => (Option.map RegistryRow.status found).bind statusOrNone)
        hfresh).symm
    · have hvalue := Keyed.map_find?_append RegistryRow.status hfresh
      rw [hstatus] at hvalue
      exact hvalue
  | unstorable => exact .same rfl rfl
  | refused => exact .same rfl rfl
  | overwritten row hfind =>
    have hvalue := Keyed.map_find?_replace RegistryRow.status (isSome_find? localToUtc hfind)
    rw [hstatus] at hvalue
    have hbefore : tables.view.value (writtenRow localToUtc command tables).key =
        some row.status := by
      rw [key_writtenRow]
      exact congrArg (Option.map RegistryRow.status) hfind
    by_cases hsame : row.status = command.status
    · refine .same (hvalue.trans ?_) (if_pos hsame)
      rw [← hsame, ← hbefore]
      exact Function.update_eq_self _ _
    · refine .change _ (if_neg hsame) ?_ hvalue
      exact (congrArg (fun found => Option.bind found statusOrNone) hbefore).symm

/-- The hashes after a save that stores its artifact. -/
theorem hash_save (hashPayload : EnvelopePayload Body → Text) (localToUtc : ℤ → ℤ)
    (command : SaveCommand Body) (tables : ArtifactTables Body) :
    (∃ error, save hashPayload localToUtc command tables = (.error error, tables)) ∨
      (save hashPayload localToUtc command tables).1 =
        .ok (returned hashPayload (writtenRow localToUtc command tables)) ∧
      Storable (writtenRow localToUtc command tables) ∧
      Keyed.find? RegistryRow.key (save hashPayload localToUtc command tables).2.rows
        (savedKey command) = some (writtenRow localToUtc command tables) ∧
      (save hashPayload localToUtc command tables).2.hash? hashPayload =
        Function.update (tables.hash? hashPayload) (savedKey command)
          (some (hashPayload (buildEnvelope (writtenRow localToUtc command tables)))) := by
  have hcases := save_cases hashPayload localToUtc command tables
  generalize save hashPayload localToUtc command tables = result at hcases
  have hkey := key_writtenRow localToUtc command tables
  cases hcases with
  | added hnone hstorable =>
    have hfresh := fresh_key localToUtc hnone
    refine .inr ⟨rfl, hstorable, ?_, ?_⟩
    · dsimp only
      rw [Keyed.find?_append hfresh, if_pos hkey.symm]
    · rw [← hkey]
      exact Keyed.map_find?_append (fun row => hashPayload (buildEnvelope row)) hfresh
  | unstorable error => exact .inl ⟨error, rfl⟩
  | refused row error => exact .inl ⟨error, rfl⟩
  | overwritten row hfind _ hstorable =>
    refine .inr ⟨rfl, hstorable, ?_, ?_⟩
    · dsimp only
      rw [Keyed.find?_replace (isSome_find? localToUtc hfind), if_pos hkey.symm]
    · rw [← hkey]
      exact Keyed.map_find?_replace (fun row => hashPayload (buildEnvelope row))
        (isSome_find? localToUtc hfind)

/-- Other content is saved for the one who knows the current hash. -/
theorem overwrite_iff {current : Text}
    (hcurrent : tables.hash? hashPayload (savedKey command) = some current)
    (hother : current ≠ hashPayload command.payload)
    (hstorable : Storable (writtenRow localToUtc command tables)) :
    (∃ saved, (save hashPayload localToUtc command tables).1 = .ok saved) ↔
      command.expectedExistingHash = some current := by
  have hcases := save_cases hashPayload localToUtc command tables
  generalize save hashPayload localToUtc command tables = result at hcases
  cases hcases with
  | added hnone =>
    rw [hash?, show Keyed.find? RegistryRow.key tables.rows (savedKey command) = none from hnone] at hcurrent
    cases hcurrent
  | unstorable error hnot => exact absurd hstorable hnot
  | refused row error hfind hconflict hexpected =>
    rw [hash?, show Keyed.find? RegistryRow.key tables.rows (savedKey command) = _ from hfind,
      Option.map_some] at hcurrent
    cases hcurrent
    exact iff_of_false nofun hexpected
  | overwritten row hfind hsame =>
    rw [hash?, show Keyed.find? RegistryRow.key tables.rows (savedKey command) = _ from hfind,
      Option.map_some] at hcurrent
    cases hcurrent
    exact iff_of_true ⟨_, rfl⟩ (hsame.resolve_left hother)

omit [PyDatetime] in
/-- The row that a change of status finds is the one of its key. -/
theorem find?_patchTarget {command : PatchCommand} {row : RegistryRow Body}
    (h : tables.patchTarget command = some row) :
    Keyed.find? RegistryRow.key tables.rows row.key = some row := by
  rw [patchTarget] at h
  split at h
  · rw [find?] at h
    rw [Keyed.key_of_find? h]
    exact h
  · have hfind := Keyed.find?_of_highest? h
    rw [List.find?_filter] at hfind
    have hid : row.validationArtifactId = command.artifactId := by
      have hboth := List.find?_some hfind
      exact of_decide_eq_true (of_decide_eq_true hboth).1
    rw [Keyed.find?, ← hfind]
    congr 1
    funext other
    refine decide_eq_decide.mpr ?_
    rw [RegistryRow.key, RegistryRow.key, hid, Prod.mk.injEq, decide_eq_true_iff,
      decide_eq_true_iff]

omit [PyDatetime] in
theorem patch_cases (command : PatchCommand) (tables : ArtifactTables Body) :
    tables.patch command = tables ∨ ∃ row : RegistryRow Body,
      tables.patchTarget command = some row ∧ tables.patch command = {
        rows := Keyed.replace RegistryRow.key { row with status := command.newStatus } tables.rows
        history := tables.history ++ [historyRow row (statusOrNone row.status) command.newStatus
          command.changedBy command.reason command.now] } := by
  rw [patch]
  cases htarget : tables.patchTarget command with
  | none => exact .inl rfl
  | some row =>
    dsimp only
    split
    · exact .inr ⟨row, rfl, rfl⟩
    · exact .inl rfl

omit [PyDatetime] in
theorem patch_writes (command : PatchCommand) (tables : ArtifactTables Body) :
    Journal.Writes statusReading tables.view (tables.patch command).view := by
  obtain hsame | ⟨row, htarget, hpatch⟩ := patch_cases command tables
  · rw [hsame]
    exact .same rfl rfl
  · rw [hpatch]
    have hfind := find?_patchTarget htarget
    have hsome : (Keyed.find? RegistryRow.key tables.rows
        (RegistryRow.key { row with status := command.newStatus })).isSome = true :=
      Option.isSome_of_eq_some hfind
    refine .change _ rfl ?_ (Keyed.map_find?_replace RegistryRow.status hsome)
    exact (congrArg (fun found => (Option.map RegistryRow.status found).bind statusOrNone)
      hfind).symm

theorem hash_patch_of_ne {command : PatchCommand} {key : Text × ℤ}
    (h : tables.patchedKey command ≠ some key) :
    (tables.patch command).hash? hashPayload key = tables.hash? hashPayload key := by
  obtain hsame | ⟨row, htarget, hpatch⟩ := patch_cases command tables
  · rw [hsame]
  · have hfind := find?_patchTarget htarget
    have hsome : (Keyed.find? RegistryRow.key tables.rows
        (RegistryRow.key { row with status := command.newStatus })).isSome = true :=
      Option.isSome_of_eq_some hfind
    have hne : key ≠ RegistryRow.key { row with status := command.newStatus } := by
      rintro rfl
      refine h ?_
      rw [patchedKey, htarget]
      rfl
    rw [hpatch, hash?, hash?, Keyed.find?_replace hsome, if_neg hne]

/-! ### Payloads that the table gives back -/

/-- An envelope that the table rebuilds as it is: it names all three ids of its scope, its texts are
there, its ids stand without white space and its time is written as the table writes it. -/
structure Rebuilt (localToUtc : ℤ → ℤ) (command : SaveCommand Body) : Prop where
  id : Text.strip command.envelope.id = command.envelope.id
  contractVersion : command.envelope.content.artifactContractVersion ≠ []
  engineType : command.envelope.content.engineType ≠ []
  dataObjectId : command.envelope.content.assignmentScope.dataObjectId.isSome = true
  datasetId : command.envelope.content.assignmentScope.datasetId.isSome = true
  dataProductId : command.envelope.content.assignmentScope.dataProductId.isSome = true
  versionIds : coerceStringList command.envelope.content.resolvedExecutionScope.dataObjectVersionIds =
    command.envelope.content.resolvedExecutionScope.dataObjectVersionIds
  ruleIds : coerceStringList command.envelope.content.compiledFrom.ruleIds =
    command.envelope.content.compiledFrom.ruleIds
  compilerVersion : command.envelope.content.compiledFrom.compilerVersion ≠ []
  isTime : (Datetime.ofText
    (Text.strip command.envelope.content.compiledFrom.generatedAt)).isSome = true
  generatedAt : formatDatetime (parseGeneratedAt localToUtc command.now
    command.envelope.content.compiledFrom.generatedAt) =
      command.envelope.content.compiledFrom.generatedAt

omit [PyDatetime] in
theorem textOr_of_ne {a b : Text} (h : a ≠ []) : textOr a b = a := if_neg h

omit [PyDatetime] in
theorem valueOr_self (a : Option Text) : valueOr a a = a := ite_self a

/-- A time that can be read is read alike at any moment. -/
theorem parseGeneratedAt_congr {value : Text} (now now' : Instant)
    (h : (Datetime.ofText (Text.strip value)).isSome = true) :
    parseGeneratedAt localToUtc now value = parseGeneratedAt localToUtc now' value := by
  rw [parseGeneratedAt, parseGeneratedAt]
  cases hparsed : Datetime.ofText (Text.strip value) with
  | none =>
    rw [hparsed] at h
    cases h
  | some parsed => rfl

namespace Rebuilt

/-- The fields of the row that such a save writes. -/
theorem writtenRow_eq (h : Rebuilt localToUtc command) (tables : ArtifactTables Body) :
    writtenRow localToUtc command tables = insertedRow localToUtc command := by
  cases hfind : tables.find? (savedKey command) with
  | none => exact writtenRow_of_none localToUtc hfind
  | some row =>
    rw [writtenRow_of_some localToUtc hfind]
    have hkey : row.key = savedKey command := Keyed.key_of_find? hfind
    obtain ⟨hid, hversion⟩ := Prod.mk.inj hkey
    rw [overwrittenRow, insertedRow, hid, hversion, textOr_of_ne h.contractVersion,
      textOr_of_ne h.contractVersion, textOr_of_ne h.engineType, textOr_of_ne h.compilerVersion,
      textOr_of_ne h.compilerVersion]

/-- The table gives the payload of such a save back. -/
theorem buildEnvelope_eq (h : Rebuilt localToUtc command)
    (hstorable : Storable (insertedRow localToUtc command)) :
    buildEnvelope (insertedRow localToUtc command) = command.payload := by
  have hstatus : statusOrNone command.status = some command.status := by
    rw [statusOrNone, if_neg]
    intro hempty
    have hmem := hstorable.1
    rw [show (insertedRow localToUtc command).status = [] from hempty] at hmem
    revert hmem
    decide
  have hscope : ∀ {id : Option Text}, id.isSome = true → some (valueOr id id) = id.map some := by
    intro id hsome
    obtain ⟨value, rfl⟩ := Option.isSome_iff_exists.mp hsome
    rw [valueOr_self]
    rfl
  rw [buildEnvelope, insertedRow]
  simp only [textOr_of_ne h.contractVersion, textOr_of_ne h.compilerVersion, h.versionIds, h.ruleIds,
    h.id, h.generatedAt, hstatus, hscope h.dataObjectId, hscope h.datasetId, hscope h.dataProductId]
  rfl

end Rebuilt

/-- The same save of such an envelope once more changes nothing. -/
theorem save_again {saved : EnvelopePayload Body × Text} (now : Instant)
    (hrebuilt : Rebuilt localToUtc command)
    (hsaved : (save hashPayload localToUtc command tables).1 = .ok saved) :
    save hashPayload localToUtc (command.again now)
        (save hashPayload localToUtc command tables).2 =
      (.ok saved, (save hashPayload localToUtc command tables).2) := by
  obtain ⟨error, hfailed⟩ | ⟨hok, hstorable, hstored, -⟩ :=
    hash_save hashPayload localToUtc command tables
  · rw [hfailed] at hsaved
    cases hsaved
  rw [hrebuilt.writtenRow_eq] at hok hstorable hstored
  rw [hok] at hsaved
  cases hsaved
  generalize (save hashPayload localToUtc command tables).2 = after at hstored ⊢
  have hbuilt := hrebuilt.buildEnvelope_eq hstorable
  have hinserted : insertedRow localToUtc (command.again now) = insertedRow localToUtc command := by
    have hlater : insertedRow localToUtc (command.again now) = {
        insertedRow localToUtc command with
        generatedAt := parseGeneratedAt localToUtc now
          command.envelope.content.compiledFrom.generatedAt } := rfl
    rw [hlater, parseGeneratedAt_congr now command.now hrebuilt.isTime]
    rfl
  have hagain : Rebuilt localToUtc (command.again now) := {
    hrebuilt with
    generatedAt := by
      refine Eq.trans (congrArg formatDatetime ?_) hrebuilt.generatedAt
      exact parseGeneratedAt_congr now command.now hrebuilt.isTime }
  have hwritten : writtenRow localToUtc (command.again now) after =
      insertedRow localToUtc command := (hagain.writtenRow_eq after).trans hinserted
  have hcases := save_cases hashPayload localToUtc (command.again now) after
  generalize save hashPayload localToUtc (command.again now) after = result at hcases
  cases hcases with
  | added hnone => cases hnone.symm.trans hstored
  | unstorable error hnot =>
    rw [hwritten] at hnot
    exact absurd hstorable hnot
  | refused row error hfind hconflict =>
    cases hfind.symm.trans hstored
    rw [hbuilt] at hconflict
    exact absurd rfl hconflict
  | overwritten row hfind =>
    cases hfind.symm.trans hstored
    have hrows : Keyed.replace RegistryRow.key (insertedRow localToUtc command) after.rows =
        after.rows := Keyed.replace_self hstored
    have hstatus : (insertedRow localToUtc command).status = (command.again now).status := rfl
    rw [hwritten, hrows, if_pos hstatus]

/-- The table as a repository. -/
def repository (hashPayload : EnvelopePayload Body → Text) (localToUtc : ℤ → ℤ) :
    ArtifactRepository Body where
  State := ArtifactTables Body
  Error := TableError
  empty := ⟨[], []⟩
  save := save hashPayload localToUtc
  patch := patch
  hashPayload := hashPayload
  savedKey := savedKey
  patchedKey command tables := tables.patchedKey command
  admits command tables := Storable (writtenRow localToUtc command tables)
  keepsPayload := Rebuilt localToUtc
  hash? tables := tables.hash? hashPayload
  view := view
  view_empty := rfl
  save_writes := save_writes hashPayload localToUtc
  patch_writes := patch_writes
  hash_of_save := by
    intro command tables saved hsaved
    obtain ⟨error, hfailed⟩ | ⟨hok, -, -, hhash⟩ := hash_save hashPayload localToUtc command tables
    · rw [hfailed] at hsaved
      cases hsaved
    · rw [hok] at hsaved
      cases hsaved
      rw [hhash, Function.update_self]
      rfl
  hash_save_of_ne := by
    intro command tables key hne
    obtain ⟨error, hfailed⟩ | ⟨-, -, -, hhash⟩ := hash_save hashPayload localToUtc command tables
    · rw [hfailed]
    · rw [hhash, Function.update_of_ne hne]
  hash_patch_of_ne h := hash_patch_of_ne h
  overwrite_iff hcurrent hother hstorable := overwrite_iff hcurrent hother hstorable
  save_again now hrebuilt hsaved := save_again now hrebuilt hsaved

end ArtifactTables

end Postgres

def sampleHash (payload : EnvelopePayload Unit) : Text :=
  payload.status.getD [] ++ Text.join [','] payload.compiledFrom.ruleIds

/-- The save of the first version of a suite. -/
def sampleSave (ruleIds : List Text) (expectedExistingHash : Option Text) : SaveCommand Unit where
  envelope := sampleSuite 1 ruleIds
  status := "active"
  expectedExistingHash := expectedExistingHash
  savedBy := none
  sourcePipeline := none
  now := 0

/-- Its deactivation. -/
def samplePatch : PatchCommand where
  artifactId := "suite"
  artifactVersion := some 1
  newStatus := "disabled"
  changedBy := none
  reason := none
  now := 1

end Artifacts

end DqMadeEasy
