import DqMadeEasy.Dispatch.Grouped

/-!
# What a grouped dispatch preserves

The expectations of a planned suite are those of its GX suite, each with a type and arguments. The
grouped path evaluates what it reads of the message, after every key of the plan was put in snake
case. The two agree exactly for the GX envelopes whose expectations are runnable and whose arguments
have no key that snake case changes. A validation artifact has no GX suite at the place where the
worker looks for it.
-/

namespace DqMadeEasy

namespace Dispatch

open Planner Artifacts Worker

section Definitions

/-- The type and the arguments of an expectation, under the names that the worker looks up. -/
def evaluatedExpectation (expectation : Dict) : Json × Json :=
  (expectation.get "expectation_type", expectation.get "kwargs")

/-- The type and the arguments of a `GxSuiteExpectationEntity`, whose type is given by alias or by
name. -/
def plannedExpectation (expectation : Dict) : Json × Json :=
  (((expectation.find? "expectation_type") <|>
    (expectation.find? "expectationType")).getD .null, expectation.get "kwargs")

/-- `expectations` of a suite. -/
def rawExpectations (gxSuite : Dict) : List Json := (gxSuite.get "expectations").asList?.getD []

/-- The expectations of `build_gx_suite_entity`, which passes over what is not a mapping. -/
def plannedExpectations (gxSuite : Dict) : List (Json × Json) :=
  ((rawExpectations gxSuite).filterMap Json.asDict?).map plannedExpectation

variable [PyRuntime]

def SnakedOnce (d : Dict) (name : String) : Prop :=
  ∀ key ∈ Assoc.keys d, ∀ key' ∈ Assoc.keys d,
    toSnake key = name.toList → toSnake key' = name.toList → key = key'

/-- No two keys of a suite or of its expectations are merged into one that the worker reads. -/
def NothingMerged (gxSuite : Dict) : Prop :=
  SnakedOnce gxSuite "expectations" ∧
    ∀ expectation, .dict expectation ∈ rawExpectations gxSuite →
      SnakedOnce expectation "expectation_type" ∧ SnakedOnce expectation "kwargs"

variable [PyNumerals]

/-- An expectation with a type and with arguments, whose keys are their own snake case. -/
structure Dispatchable (expectation : Dict) : Prop where
  typeOnce : SnakedOnce expectation "expectation_type"
  kwargsOnce : SnakedOnce expectation "kwargs"
  hasType : (plannedExpectation expectation).1.strippedText ≠ []
  hasKwargs : (plannedExpectation expectation).2.dictOrEmpty ≠ []
  typeKeys : ∀ key ∈ (plannedExpectation expectation).1.allKeys, toSnake key = key
  kwargsKeys : ∀ key ∈ (plannedExpectation expectation).2.allKeys, toSnake key = key

/-- A suite with expectations that can all be dispatched. -/
structure DispatchableSuite (gxSuite : Dict) : Prop where
  expectationsOnce : SnakedOnce gxSuite "expectations"
  hasExpectations : rawExpectations gxSuite ≠ []
  expectations : ∀ item ∈ rawExpectations gxSuite,
    ∃ expectation, item = .dict expectation ∧ Dispatchable expectation

/-- A batch that the worker reads as planned: for the target of the batch, the suites that select
it, in the order of the batch, each with exactly its planned expectations. -/
def BatchPreserved (coerced : List (GxArtifactEnvelope × Dict)) (batch : Batch)
    (reading : Text × List (List Dict)) : Prop :=
  reading.1 = batch.dataObjectVersionId ∧
    ∃ chosen : List (GxArtifactEnvelope × Dict),
      chosen.Perm (coerced.filter fun c => Selects c.1.plannerSuite batch.dataObjectVersionId) ∧
      batch.suites = chosen.map (fun c => withTargetIds c.2 (selectedTargets c.1.plannerSuite)) ∧
      reading.2.map (List.map evaluatedExpectation) =
        chosen.map fun c => plannedExpectations c.1.gxSuite

/-- A message that takes the grouped path, is accepted by it and has the planned expectations
evaluated, with no key merged into another. -/
structure PreservesSuites (coerced : List (GxArtifactEnvelope × Dict)) (plan : Plan)
    (payload : Dict) : Prop where
  routed : executionShapeOf payload = "grouped_scope" ∧ runIdOf payload ≠ []
  accepted : ∃ readings, readGrouped payload = .ok readings ∧
    List.Forall₂ (BatchPreserved coerced) plan.batches readings
  unmerged : ∀ c ∈ coerced, NothingMerged c.1.gxSuite

end Definitions

section Expectations

/-! ### One expectation -/

variable {d : Dict}

theorem mem_keys_of_find? {key : Text} {value : Json} (h : d.find? key = some value) :
    key ∈ Assoc.keys d := List.mem_map.mpr ⟨_, Assoc.mem_of_find? h, rfl⟩

theorem find?_of_get {name : String} (h : d.get name ≠ .null) :
    d.find? name.toList = some (d.get name) := by
  rw [Dict.get] at h ⊢
  cases hfind : d.find? name.toList with
  | none =>
    rw [hfind] at h
    exact absurd rfl h
  | some value => rfl

theorem distinctKeys_of_find? (hdistinct : (Json.dict d).DistinctKeys) {key : Text} {value : Json}
    (hfind : d.find? key = some value) : value.DistinctKeys :=
  Json.distinctKeysEntries_iff.mp hdistinct.2 _ (Assoc.mem_of_find? hfind)

theorem ne_null_of_dictOrEmpty {value : Json} (h : value.dictOrEmpty ≠ []) : value ≠ .null := by
  rintro rfl
  exact h rfl

theorem exists_dicts {items : List Json} (h : ∀ item ∈ items, ∃ d, item = .dict d) :
    ∃ ds : List Dict, items = ds.map .dict := by
  induction items with
  | nil => exact ⟨[], rfl⟩
  | cons item items ih =>
    rw [List.forall_mem_cons] at h
    obtain ⟨⟨d, rfl⟩, h⟩ := h
    obtain ⟨ds, rfl⟩ := ih h
    exact ⟨d :: ds, rfl⟩

variable {gxSuite : Dict}

theorem plannedExpectations_of_dicts {ds : List Dict} (h : rawExpectations gxSuite = ds.map .dict) :
    plannedExpectations gxSuite = ds.map plannedExpectation := by
  have hdicts : (ds.map Json.dict).filterMap Json.asDict? = ds := by
    rw [List.filterMap_map]
    exact List.filterMap_some
  rw [plannedExpectations, h, hdicts]

/-- What stands in the expectations of a suite has distinct keys. -/
theorem distinctKeys_of_mem (hdistinct : (Json.dict gxSuite).DistinctKeys) {item : Json}
    (hmem : item ∈ rawExpectations gxSuite) : item.DistinctKeys := by
  rw [rawExpectations] at hmem
  cases hget : gxSuite.get "expectations" with
  | scalar value =>
    rw [hget] at hmem
    cases hmem
  | dict entries =>
    rw [hget] at hmem
    cases hmem
  | list items =>
    have hne : gxSuite.get "expectations" ≠ .null := by
      rw [hget]
      rintro ⟨⟩
    have hfind := find?_of_get hne
    rw [hget] at hmem hfind
    exact Json.distinctKeysItems_iff.mp (distinctKeys_of_find? hdistinct hfind) item hmem

variable [PyRuntime]

theorem toSnake_expectations : toSnake "expectations" = "expectations" :=
  (toSnake_ascii (ascii_of_all (by decide))).trans (by decide)

theorem toSnake_expectation_type : toSnake "expectation_type" = "expectation_type" :=
  (toSnake_ascii (ascii_of_all (by decide))).trans (by decide)

theorem toSnake_expectationType : toSnake "expectationType" = "expectation_type" :=
  (toSnake_ascii (ascii_of_all (by decide))).trans (by decide)

theorem toSnake_kwargs : toSnake "kwargs" = "kwargs" :=
  (toSnake_ascii (ascii_of_all (by decide))).trans (by decide)

theorem get_snakecaseDict (hdistinct : (Assoc.keys d).Nodup) {name : String}
    (honce : SnakedOnce d name) {key : Text} {value : Json} (hfind : d.find? key = some value)
    (hkey : toSnake key = name.toList) : (snakecaseDict d).get name = snakecasePayload value := by
  have hfound : (snakecaseDict d).find? name.toList = some (snakecasePayload value) := by
    apply Dict.find?_renameKeys_of_unique hdistinct hfind hkey
    intro key' hkey' hname
    exact honce key' hkey' key (mem_keys_of_find? hfind) hname hkey
  rw [Dict.get, hfound]
  rfl

theorem exists_key_of_type (h : (plannedExpectation d).1 ≠ .null) :
    ∃ key, d.find? key = some (plannedExpectation d).1 ∧
      toSnake key = "expectation_type" := by
  rw [plannedExpectation] at h ⊢
  cases halias : d.find? "expectation_type" with
  | some value => exact ⟨_, halias, toSnake_expectation_type⟩
  | none =>
    cases hname : d.find? "expectationType" with
    | some value => exact ⟨_, hname, toSnake_expectationType⟩
    | none =>
      rw [halias, hname] at h
      exact absurd rfl h

variable [PyNumerals]

theorem ne_null_of_strippedText {value : Json} (h : value.strippedText ≠ []) : value ≠ .null := by
  rintro rfl
  exact h rfl

/-- An expectation that can be dispatched is evaluated as planned, and no other one that the worker
accepts is. -/
theorem dispatchable_iff (hdistinct : (Json.dict d).DistinctKeys) :
    Dispatchable d ↔
      SnakedOnce d "expectation_type" ∧ SnakedOnce d "kwargs" ∧
      (evaluatedExpectation (snakecaseDict d)).1.strippedText ≠ [] ∧
      (evaluatedExpectation (snakecaseDict d)).2.dictOrEmpty ≠ [] ∧
      evaluatedExpectation (snakecaseDict d) = plannedExpectation d := by
  constructor
  · intro h
    obtain ⟨key, hfind, hkey⟩ := exists_key_of_type (ne_null_of_strippedText h.hasType)
    have htype : (evaluatedExpectation (snakecaseDict d)).1 = (plannedExpectation d).1 := by
      rw [evaluatedExpectation, get_snakecaseDict hdistinct.1 h.typeOnce hfind hkey]
      exact Json.renameKeys_eq_self (distinctKeys_of_find? hdistinct hfind) h.typeKeys
    have hfindKwargs := find?_of_get (ne_null_of_dictOrEmpty h.hasKwargs)
    have hkwargs : (evaluatedExpectation (snakecaseDict d)).2 = (plannedExpectation d).2 := by
      rw [evaluatedExpectation, get_snakecaseDict hdistinct.1 h.kwargsOnce hfindKwargs toSnake_kwargs]
      exact Json.renameKeys_eq_self (distinctKeys_of_find? hdistinct hfindKwargs) h.kwargsKeys
    refine ⟨h.typeOnce, h.kwargsOnce, ?_, ?_, Prod.ext htype hkwargs⟩
    · rw [htype]
      exact h.hasType
    · rw [hkwargs]
      exact h.hasKwargs
  · rintro ⟨htypeOnce, hkwargsOnce, htype, hkwargs, heq⟩
    rw [heq] at htype hkwargs
    obtain ⟨key, hfind, hkey⟩ := exists_key_of_type (ne_null_of_strippedText htype)
    have hfindKwargs := find?_of_get (ne_null_of_dictOrEmpty hkwargs)
    have hsameType := congrArg Prod.fst heq
    rw [evaluatedExpectation, get_snakecaseDict hdistinct.1 htypeOnce hfind hkey] at hsameType
    have hsameKwargs := congrArg Prod.snd heq
    rw [evaluatedExpectation,
      get_snakecaseDict hdistinct.1 hkwargsOnce hfindKwargs toSnake_kwargs] at hsameKwargs
    exact
      { typeOnce := htypeOnce
        kwargsOnce := hkwargsOnce
        hasType := htype
        hasKwargs := hkwargs
        typeKeys := Json.keys_of_renameKeys_eq hsameType
        kwargsKeys := Json.keys_of_renameKeys_eq hsameKwargs }

/-! ### One suite -/

/-- The expectations of a suite that `_assert_runnable_suite` returns. -/
def suiteExpectations (gxSuite : Dict) : Except PyError (List Dict) :=
  match rawExpectations gxSuite with
  | [] => executionError "GX suite has no executable expectations" "GX_SUITE_NOT_RUNNABLE"
  | rawExpectation :: rest => runnableExpectations 0 (rawExpectation :: rest)

theorem runnableExpectations_ok_iff {index : ℕ} {items : List Json} {expectations : List Dict} :
    runnableExpectations index items = .ok expectations ↔
      items = expectations.map .dict ∧ ∀ expectation ∈ expectations,
        (evaluatedExpectation expectation).1.strippedText ≠ [] ∧
        (evaluatedExpectation expectation).2.dictOrEmpty ≠ [] := by
  induction items generalizing index expectations with
  | nil =>
    constructor
    · intro h
      cases h
      exact ⟨rfl, by simp⟩
    · rintro ⟨hitems, _⟩
      rw [List.map_eq_nil_iff.mp hitems.symm]
      rfl
  | cons item items ih =>
    cases item with
    | scalar value =>
      constructor
      · intro h
        cases h
      · rintro ⟨hitems, _⟩
        cases expectations <;> cases hitems
    | list values =>
      constructor
      · intro h
        cases h
      · rintro ⟨hitems, _⟩
        cases expectations <;> cases hitems
    | dict entries =>
      rw [runnableExpectations]
      constructor
      · intro h
        split at h
        · cases h
        · rename_i htype
          split at h
          · cases h
          · rename_i hkwargs
            obtain ⟨rest, hrest, h⟩ := ok_of_bind h
            cases h
            obtain ⟨hitems, hall⟩ := ih.mp hrest
            refine ⟨by rw [hitems, List.map_cons], ?_⟩
            rw [List.forall_mem_cons]
            exact ⟨⟨htype, hkwargs⟩, hall⟩
      · rintro ⟨hitems, hall⟩
        cases expectations with
        | nil => cases hitems
        | cons expectation rest =>
          rw [List.map_cons, List.cons.injEq, Json.dict.injEq] at hitems
          rw [List.forall_mem_cons] at hall
          obtain ⟨rfl, hitems⟩ := hitems
          have htype : (Dict.get entries "expectation_type").strippedText ≠ [] := hall.1.1
          have hkwargs : (Dict.get entries "kwargs").dictOrEmpty ≠ [] := hall.1.2
          rw [if_neg htype, if_neg hkwargs, ih.mpr ⟨hitems, hall.2⟩]
          rfl

theorem suiteExpectations_ok_iff {expectations : List Dict} :
    suiteExpectations gxSuite = .ok expectations ↔
      rawExpectations gxSuite ≠ [] ∧ rawExpectations gxSuite = expectations.map .dict ∧
      ∀ expectation ∈ expectations,
        (evaluatedExpectation expectation).1.strippedText ≠ [] ∧
        (evaluatedExpectation expectation).2.dictOrEmpty ≠ [] := by
  rw [suiteExpectations]
  split
  · rename_i hraw
    constructor
    · intro h
      cases h
    · rintro ⟨hne, _⟩
      exact absurd hraw hne
  · rename_i hraw
    rw [runnableExpectations_ok_iff, hraw]
    simp

omit [PyNumerals] in
/-- The raw expectations after the renaming, when no key is merged into theirs. -/
theorem rawExpectations_snakecaseDict (hdistinct : (Assoc.keys gxSuite).Nodup)
    (honce : SnakedOnce gxSuite "expectations") (hne : rawExpectations gxSuite ≠ []) :
    rawExpectations (snakecaseDict gxSuite) = (rawExpectations gxSuite).map snakecasePayload := by
  rw [rawExpectations] at hne
  cases hget : gxSuite.get "expectations" with
  | scalar value =>
    rw [hget] at hne
    exact absurd rfl hne
  | dict entries =>
    rw [hget] at hne
    exact absurd rfl hne
  | list items =>
    have hgiven : gxSuite.get "expectations" ≠ .null := by
      rw [hget]
      rintro ⟨⟩
    have hfind := find?_of_get hgiven
    rw [rawExpectations, get_snakecaseDict hdistinct honce hfind toSnake_expectations,
      rawExpectations, hget]
    exact Json.renameItems_eq toSnake items

omit [PyNumerals] in
theorem exists_dict_of_snakecasePayload {value : Json} {entries : Dict}
    (h : snakecasePayload value = .dict entries) : ∃ d, value = .dict d ∧ snakecaseDict d = entries := by
  cases value with
  | scalar value => cases h
  | list items => cases h
  | dict d => exact ⟨d, rfl, Json.dict.inj h⟩

/-- A suite is evaluated as planned, with nothing merged, exactly when it can be dispatched. -/
theorem dispatchableSuite_iff (hdistinct : (Json.dict gxSuite).DistinctKeys) :
    DispatchableSuite gxSuite ↔
      NothingMerged gxSuite ∧ ∃ expectations,
        suiteExpectations (snakecaseDict gxSuite) = .ok expectations ∧
        expectations.map evaluatedExpectation = plannedExpectations gxSuite := by
  have hitem : ∀ d, .dict d ∈ rawExpectations gxSuite → (Json.dict d).DistinctKeys :=
    fun _ hmem => distinctKeys_of_mem hdistinct hmem
  constructor
  · intro h
    obtain ⟨ds, hds⟩ := exists_dicts fun item hmem => (h.expectations item hmem).imp fun _ => And.left
    have hall : ∀ d ∈ ds, Dispatchable d := by
      intro d hd
      obtain ⟨d', heq, hdispatchable⟩ := h.expectations (.dict d) (by
        rw [hds]
        exact List.mem_map_of_mem hd)
      cases heq
      exact hdispatchable
    have hiff : ∀ d ∈ ds, _ := fun d hd =>
      (dispatchable_iff (hitem d (hds ▸ List.mem_map_of_mem hd))).mp (hall d hd)
    refine ⟨⟨h.expectationsOnce, ?_⟩, ds.map snakecaseDict, ?_, ?_⟩
    · intro d hd
      rw [hds] at hd
      obtain ⟨d', hd', heq⟩ := List.mem_map.mp hd
      cases heq
      exact ⟨(hall d hd').typeOnce, (hall d hd').kwargsOnce⟩
    · rw [suiteExpectations_ok_iff,
        rawExpectations_snakecaseDict hdistinct.1 h.expectationsOnce h.hasExpectations]
      refine ⟨?_, ?_, ?_⟩
      · intro hnil
        exact h.hasExpectations (List.map_eq_nil_iff.mp hnil)
      · rw [hds, List.map_map, List.map_map]
        rfl
      · rw [List.forall_mem_map]
        intro d hd
        obtain ⟨_, _, htype, hkwargs, _⟩ := hiff d hd
        exact ⟨htype, hkwargs⟩
    · rw [plannedExpectations_of_dicts hds, List.map_map]
      apply List.map_congr_left
      intro d hd
      exact (hiff d hd).2.2.2.2
  · rintro ⟨⟨honce, hmerged⟩, expectations, hok, heq⟩
    obtain ⟨hne, hraw, hrunnable⟩ := suiteExpectations_ok_iff.mp hok
    have hplanned : rawExpectations gxSuite ≠ [] := by
      intro hnil
      rw [plannedExpectations, hnil, List.filterMap_nil, List.map_nil, List.map_eq_nil_iff] at heq
      rw [heq] at hraw
      exact hne hraw
    rw [rawExpectations_snakecaseDict hdistinct.1 honce hplanned] at hraw
    have hdicts : ∀ item ∈ rawExpectations gxSuite, ∃ d, item = .dict d := by
      intro item hmem
      have hsnake : snakecasePayload item ∈ expectations.map Json.dict := by
        rw [← hraw]
        exact List.mem_map_of_mem hmem
      obtain ⟨entries, _, hentries⟩ := List.mem_map.mp hsnake
      obtain ⟨d, rfl, _⟩ := exists_dict_of_snakecasePayload hentries.symm
      exact ⟨d, rfl⟩
    obtain ⟨ds, hds⟩ := exists_dicts hdicts
    have hexpectations : expectations = ds.map snakecaseDict := by
      rw [hds, List.map_map] at hraw
      have hinjective : Function.Injective Json.dict := fun _ _ => Json.dict.inj
      apply hinjective.list_map
      rw [← hraw, List.map_map]
      rfl
    subst hexpectations
    rw [plannedExpectations_of_dicts hds, List.map_map] at heq
    have heach : ∀ d ∈ ds, evaluatedExpectation (snakecaseDict d) = plannedExpectation d :=
      List.map_inj_left.mp heq
    rw [List.forall_mem_map] at hrunnable
    refine ⟨honce, hplanned, ?_⟩
    intro item hmem
    rw [hds] at hmem
    obtain ⟨d, hd, rfl⟩ := List.mem_map.mp hmem
    have hmem : .dict d ∈ rawExpectations gxSuite := by
      rw [hds]
      exact List.mem_map_of_mem hd
    exact ⟨d, rfl, (dispatchable_iff (hitem d hmem)).mpr
      ⟨(hmerged d hmem).1, (hmerged d hmem).2, (hrunnable d hd).1, (hrunnable d hd).2, heach d hd⟩⟩

end Expectations

section Envelopes

variable [PyRuntime]

/-! ### Dictionaries with known keys -/

def snakeSafe (keys : List String) : Bool :=
  asciiKeys (keys.map String.toList) && decide ((keys.map fun key => asciiSnake key.toList).Nodup)

theorem get_of_snakeSafe {d : Dict} (keys : List String) (hsafe : snakeSafe keys = true)
    (hkeys : Assoc.keys d = keys.map String.toList) (key name : String) {value : Json}
    (hname : asciiSnake key.toList = name.toList) (hfind : d.find? key.toList = some value) :
    (snakecaseDict d).get name = snakecasePayload value := by
  rw [snakeSafe, Bool.and_eq_true, decide_eq_true_eq, ← hkeys] at hsafe
  have hdistinct : ((Assoc.keys d).map asciiSnake).Nodup := by
    rw [hkeys, List.map_map]
    exact hsafe.2
  have hfound := find?_toSnake hsafe.1 hdistinct hfind
  rw [hname] at hfound
  rw [Dict.get, snakecaseDict, hfound]
  rfl

omit [PyRuntime] in
theorem snakecasePayload_texts [PyRuntime] (values : List Text) :
    snakecasePayload (texts values) = texts values := by
  rw [texts, snakecasePayload, Json.renameKeys, Json.renameItems_eq, List.map_map]
  rfl

/-! ### One envelope -/

def envelopeKeys : List String :=
  ["suiteId", "suiteVersion", "artifactVersion", "assignmentScope", "resolvedExecutionScope",
    "gxSuite", "compiledFrom", "executionHints", "executionContract", "savedBy", "sourcePipeline",
    "status", "artifactHash"]

def batchKeys : List String :=
  ["dataObjectVersionId", "incrementalSelection", "suiteCount", "suiteIds", "suites",
    "plannerChoice", "executionPath"]

/-- The lists of keys of the dictionaries of a payload. -/
def payloadKeys : List (List String) :=
  [envelopeKeys, batchKeys, ["dataObjectVersionIds"], ["suiteCount", "batchCount", "batches"],
    ["suiteCount", "batchCount", "plannerChoice", "batches"],
    ["suiteCount", "batchCount", "executionPath", "batches"],
    ["suiteCount", "batchCount", "executionPath", "plannerChoice", "batches"]]

omit [PyRuntime] in
theorem payloadKeys_safe : payloadKeys.all snakeSafe = true := by
  decide +kernel

omit [PyRuntime] in
theorem snakeSafe_of_mem {keys : List String} (h : keys ∈ payloadKeys) : snakeSafe keys = true :=
  List.all_eq_true.mp payloadKeys_safe keys h

omit [PyRuntime] in
theorem withTargetIds_modelDump (envelope : GxArtifactEnvelope) (ids : List Text) :
    withTargetIds envelope.modelDump ids =
      { envelope with resolvedExecutionScope := ⟨ids⟩ : GxArtifactEnvelope }.modelDump := rfl

theorem get_gxSuite (envelope : GxArtifactEnvelope) :
    (snakecaseDict envelope.modelDump).get "gx_suite" =
      .dict (snakecaseDict envelope.gxSuite) := by
  show _ = snakecasePayload (.dict envelope.gxSuite)
  exact get_of_snakeSafe envelopeKeys (snakeSafe_of_mem (by simp [payloadKeys])) rfl "gxSuite" "gx_suite" (by decide) rfl

theorem get_resolvedExecutionScope (envelope : GxArtifactEnvelope) :
    (snakecaseDict envelope.modelDump).get "resolved_execution_scope" =
      .dict (snakecaseDict envelope.resolvedExecutionScope.modelDump) := by
  show _ = snakecasePayload (.dict envelope.resolvedExecutionScope.modelDump)
  exact get_of_snakeSafe envelopeKeys (snakeSafe_of_mem (by simp [payloadKeys])) rfl "resolvedExecutionScope"
    "resolved_execution_scope" (by decide) rfl

theorem get_dataObjectVersionIds (scope : ResolvedExecutionScope) :
    (snakecaseDict scope.modelDump).get "data_object_version_ids" =
      texts scope.dataObjectVersionIds :=
  (get_of_snakeSafe ["dataObjectVersionIds"] (snakeSafe_of_mem (by simp [payloadKeys])) rfl "dataObjectVersionIds"
    "data_object_version_ids" (by decide) rfl).trans (snakecasePayload_texts _)

variable [PyNumerals]

/-- Identifiers that are stripped and not blank. -/
def Present (ids : List Text) : Prop := ∀ id ∈ ids, id.strip = id ∧ id ≠ []

theorem strippedTexts_of_present {ids : List Text} (h : Present ids) :
    strippedTexts (ids.map fun id => .scalar (.str id)) = ids := by
  have hstrip : (ids.map fun id => Json.scalar (.str id)).map (fun value => value.str.strip) =
      ids := by
    rw [List.map_map]
    exact (List.map_congr_left fun id hid => (h id hid).1).trans (List.map_id ids)
  rw [strippedTexts, hstrip, List.filter_eq_self]
  intro id hid
  simpa using (h id hid).2

theorem resolvedTargets_modelDump {envelope : GxArtifactEnvelope}
    (h : Present envelope.resolvedExecutionScope.dataObjectVersionIds) :
    resolvedTargets (snakecaseDict envelope.modelDump) =
      .ok envelope.resolvedExecutionScope.dataObjectVersionIds := by
  have hiterate : iterate ((texts envelope.resolvedExecutionScope.dataObjectVersionIds).orElse
      (.list [])) = .ok (envelope.resolvedExecutionScope.dataObjectVersionIds.map
        fun id => .scalar (.str id)) := by
    cases envelope.resolvedExecutionScope.dataObjectVersionIds with
    | nil => rfl
    | cons id ids => rfl
  rw [resolvedTargets, get_resolvedExecutionScope]
  dsimp only [Json.asDict?]
  rw [get_dataObjectVersionIds, hiterate, ok_bind, strippedTexts_of_present h]
  rfl

/-- The worker reads the expectations of an envelope that is attached to the target. -/
theorem readSuite_modelDump {targetId : Text} {envelope : GxArtifactEnvelope}
    (h : Present envelope.resolvedExecutionScope.dataObjectVersionIds)
    (htarget : targetId ∈ envelope.resolvedExecutionScope.dataObjectVersionIds) :
    (readSuite targetId (snakecasePayload (.dict envelope.modelDump))).map (fun r => r.2.1) =
      suiteExpectations (snakecaseDict envelope.gxSuite) := by
  have hne : envelope.resolvedExecutionScope.dataObjectVersionIds ≠ [] :=
    List.ne_nil_of_mem htarget
  have hexpect : ∀ message, expectDict (snakecasePayload (.dict envelope.modelDump)) message =
      .ok (snakecaseDict envelope.modelDump) := fun _ => rfl
  rw [readSuite, hexpect, ok_bind, assertRunnableSuite, get_gxSuite, suiteExpectations]
  dsimp only [Json.asDict?]
  rw [rawExpectations]
  cases ((snakecaseDict envelope.gxSuite).get "expectations").asList?.getD [] with
  | nil => rfl
  | cons raw rest =>
    dsimp only
    cases runnableExpectations 0 (raw :: rest) with
    | error e => rfl
    | ok expectations =>
      rw [ok_bind, resolvedTargets_modelDump h, ok_bind, if_neg hne, ok_bind]
      dsimp only
      rw [if_pos htarget]
      rfl

/-- The worker reads no validation artifact. -/
theorem readSuite_validation (targetId : Text) (artifact : ValidationArtifact) (ids : List Text) :
    ∃ e, readSuite targetId (snakecasePayload (.dict (withTargetIds artifact.payload ids))) =
      .error e := by
  have hkeys : ∀ key ∈ Assoc.keys (withTargetIds artifact.payload ids),
      key ∈ validationArtifactKeys := by
    intro key hkey
    rw [withTargetIds, Dict.insert, Assoc.mem_keys_update] at hkey
    rcases hkey with rfl | hkey
    · decide
    · exact artifact.declared key hkey
  have hnone : (snakecaseDict (withTargetIds artifact.payload ids)).get "gx_suite" = .null := by
    rw [Dict.get, snakecaseDict,
      find?_toSnake_eq_none (by decide +kernel) hkeys (by decide +kernel)]
    rfl
  have hexpect : ∀ message,
      expectDict (snakecasePayload (.dict (withTargetIds artifact.payload ids))) message =
        .ok (snakecaseDict (withTargetIds artifact.payload ids)) := fun _ => rfl
  rw [readSuite, hexpect, ok_bind, assertRunnableSuite, hnone]
  exact ⟨_, rfl⟩

/-! ### One batch -/

omit [PyNumerals] in
theorem get_dataObjectVersionId (batch : Batch) :
    (snakecaseDict batch.toDict).get "data_object_version_id" =
      .scalar (.str batch.dataObjectVersionId) := by
  show _ = snakecasePayload (.scalar (.str batch.dataObjectVersionId))
  exact get_of_snakeSafe batchKeys (snakeSafe_of_mem (by simp [payloadKeys])) rfl "dataObjectVersionId"
    "data_object_version_id" (by decide) rfl

omit [PyNumerals] in
theorem get_suites (batch : Batch) :
    (snakecaseDict batch.toDict).get "suites" =
      .list (batch.suites.map fun suite => snakecasePayload (.dict suite)) := by
  have hget : (snakecaseDict batch.toDict).get "suites" =
      snakecasePayload (.list (batch.suites.map .dict)) :=
    get_of_snakeSafe batchKeys (snakeSafe_of_mem (by simp [payloadKeys])) rfl "suites" "suites" (by decide) rfl
  rw [hget, snakecasePayload, Json.renameKeys, Json.renameItems_eq, List.map_map]
  rfl

theorem strippedText_target {batch : Batch}
    (hpresent : batch.dataObjectVersionId.strip = batch.dataObjectVersionId ∧
      batch.dataObjectVersionId ≠ []) :
    ((snakecaseDict batch.toDict).get "data_object_version_id").strippedText =
      batch.dataObjectVersionId := by
  rw [get_dataObjectVersionId, Json.strippedText, if_pos (by simpa [Json.truthy] using hpresent.2)]
  exact hpresent.1

/-- What the worker reads of a batch is its target and, in order, its suites. -/
theorem readBatch_ok_iff {batch : Batch} {reading : Text × List (List Dict)}
    (hpresent : batch.dataObjectVersionId.strip = batch.dataObjectVersionId ∧
      batch.dataObjectVersionId ≠ []) (hne : batch.suites ≠ []) :
    readBatch (snakecasePayload (.dict batch.toDict)) = .ok reading ↔
      reading.1 = batch.dataObjectVersionId ∧
      List.Forall₂ (fun suite expectations =>
        (readSuite batch.dataObjectVersionId (snakecasePayload (.dict suite))).map
          (fun r => r.2.1) = .ok expectations) batch.suites reading.2 := by
  have hexpect : ∀ message, expectDict (snakecasePayload (.dict batch.toDict)) message =
      .ok (snakecaseDict batch.toDict) := fun _ => rfl
  have htarget : batchTarget (snakecaseDict batch.toDict) = .ok batch.dataObjectVersionId := by
    rw [batchTarget, strippedText_target hpresent]
    exact if_neg hpresent.2
  have hsuites : batchSuites (snakecaseDict batch.toDict) batch.dataObjectVersionId =
      .ok (batch.suites.map fun suite => snakecasePayload (.dict suite)) := by
    rw [batchSuites, get_suites]
    cases hbatch : batch.suites with
    | nil => exact absurd hbatch hne
    | cons suite suites => rfl
  rw [readBatch, hexpect, ok_bind, htarget, ok_bind, hsuites, ok_bind]
  constructor
  · intro h
    obtain ⟨readings, hreadings, h⟩ := ok_of_bind h
    cases h
    refine ⟨rfl, ?_⟩
    rw [List.forall₂_map_right_iff]
    have hall := mapM_ok hreadings
    rw [List.forall₂_map_left_iff] at hall
    refine hall.imp ?_
    intro suite reading hread
    rw [hread]
    rfl
  · rintro ⟨htarget, hall⟩
    obtain ⟨target, expectations⟩ := reading
    dsimp only at htarget hall
    subst htarget
    obtain ⟨readings, hreadings, rfl⟩ := exists_mapM_map (List.forall₂_map_left_iff.mpr hall)
    rw [hreadings]
    rfl

/-! ### The message -/

omit [PyNumerals] in
theorem get_batches (plan : Plan) :
    (snakecaseDict plan.toDict).get "batches" =
      .list (plan.batches.map fun batch => snakecasePayload (.dict batch.toDict)) := by
  have hget : (snakecaseDict plan.toDict).get "batches" =
      snakecasePayload (.list (plan.batches.map fun batch => .dict batch.toDict)) := by
    obtain ⟨suiteCount, batchCount, executionPath, plannerChoice, batches⟩ := plan
    cases executionPath with
    | none =>
      cases plannerChoice with
      | none =>
        exact get_of_snakeSafe ["suiteCount", "batchCount", "batches"] (snakeSafe_of_mem (by simp [payloadKeys])) rfl
          "batches" "batches" (by decide) rfl
      | some choice =>
        exact get_of_snakeSafe ["suiteCount", "batchCount", "plannerChoice", "batches"]
          (snakeSafe_of_mem (by simp [payloadKeys])) rfl "batches" "batches" (by decide) rfl
    | some path =>
      cases plannerChoice with
      | none =>
        exact get_of_snakeSafe ["suiteCount", "batchCount", "executionPath", "batches"]
          (snakeSafe_of_mem (by simp [payloadKeys])) rfl "batches" "batches" (by decide) rfl
      | some choice =>
        exact get_of_snakeSafe
          ["suiteCount", "batchCount", "executionPath", "plannerChoice", "batches"]
          (snakeSafe_of_mem (by simp [payloadKeys])) rfl "batches" "batches" (by decide) rfl
  rw [hget, snakecasePayload, Json.renameKeys, Json.renameItems_eq, List.map_map]
  rfl

/-- The entries of a message that the worker's routing and its grouped path look up. -/
theorem get_of_buildPayload {request : GroupedDispatchRequest} {plan : Plan}
    {hex submittedAt : Text} {payload : Dict}
    (h : buildGroupedExecutionDispatchPayload request plan hex submittedAt = .ok payload) :
    payload.get "run_id" = .scalar (.str ("run-" ++ hex)) ∧
      payload.get "execution_shape" = .text "grouped_scope" ∧
      payload.get "grouped_execution_plan" = .dict (snakecaseDict plan.toDict) := by
  rw [buildGroupedExecutionDispatchPayload] at h
  obtain ⟨engineType, _, h⟩ := ok_of_bind h
  cases h
  cases request.requestedBy with
  | none => exact ⟨rfl, rfl, rfl⟩
  | some requestedBy => exact ⟨rfl, rfl, rfl⟩

/-- A message takes the grouped path. -/
theorem routed_of_buildPayload {request : GroupedDispatchRequest} {plan : Plan}
    {hex submittedAt : Text} {payload : Dict}
    (h : buildGroupedExecutionDispatchPayload request plan hex submittedAt = .ok payload) :
    executionShapeOf payload = "grouped_scope" ∧ runIdOf payload ≠ [] := by
  obtain ⟨hrun, hshape, _⟩ := get_of_buildPayload h
  constructor
  · rw [executionShapeOf, coerceStr, List.findSome?_cons, hshape]
    rfl
  · have hstrip : Text.strip ("run-" ++ hex) ≠ [] := by
      have hhead : Text.strip ("run-" ++ hex) =
          List.rdropWhile isSpace ("run-" ++ hex) := rfl
      rw [hhead, Ne, List.rdropWhile_eq_nil_iff]
      intro hall
      have hspace : isSpace 'r' = true := hall 'r' List.mem_cons_self
      cases hspace
    have hrunId : runIdOf payload = Text.strip ("run-" ++ hex) := by
      rw [runIdOf, coerceStr, List.findSome?_cons, hrun]
      simp only [Json.isNone, Json.str, PyValue.toText, hstrip, if_false, Bool.false_eq_true]
      rfl
    rw [hrunId]
    exact hstrip

/-- The batches that the worker reads are those of the plan. -/
theorem readGrouped_ok_iff {payload : Dict} {plan : Plan}
    (hplan : payload.get "grouped_execution_plan" = .dict (snakecaseDict plan.toDict))
    (hpresent : ∀ batch ∈ plan.batches, batch.dataObjectVersionId.strip =
      batch.dataObjectVersionId ∧ batch.dataObjectVersionId ≠ [])
    {readings : List (Text × List (List Dict))} :
    readGrouped payload = .ok readings ↔ plan.batches ≠ [] ∧
      List.Forall₂ (fun batch reading =>
        readBatch (snakecasePayload (.dict batch.toDict)) = .ok reading) plan.batches readings := by
  have hbatches : groupedBatches payload = match plan.batches with
      | [] => executionError "Grouped GX dispatch payload is missing execution batches"
        "GX_DISPATCH_INVALID_PAYLOAD"
      | batch :: batches => .ok ((batch :: batches).map fun batch =>
        snakecasePayload (.dict batch.toDict)) := by
    rw [groupedBatches, hplan]
    dsimp only [Json.asDict?]
    rw [get_batches]
    cases plan.batches with
    | nil => rfl
    | cons batch batches => rfl
  rw [readGrouped, hbatches]
  cases hplanned : plan.batches with
  | nil =>
    constructor
    · intro h
      cases h
    · rintro ⟨hne, _⟩
      exact absurd rfl hne
  | cons batch batches =>
    have htargets : ∃ targetIds, groupedTargets ((batch :: batches).map fun batch =>
        snakecasePayload (.dict batch.toDict)) = .ok targetIds := by
      have hmem : batch.dataObjectVersionId ∈ (((batch :: batches).map fun batch =>
          snakecasePayload (.dict batch.toDict)).filterMap fun batch => batch.asDict?.map fun batch =>
            (batch.get "data_object_version_id").strippedText).filter (· ≠ []) := by
        have hbatch := hpresent batch (hplanned ▸ List.mem_cons_self)
        rw [List.mem_filter, List.mem_filterMap]
        refine ⟨⟨snakecasePayload (.dict batch.toDict), ?_, ?_⟩, by simpa using hbatch.2⟩
        · rw [List.map_cons]
          exact List.mem_cons_self
        · rw [snakecasePayload_dict, Json.asDict?, Option.map_some, strippedText_target hbatch]
      rw [groupedTargets]
      exact ⟨_, if_neg (List.ne_nil_of_mem hmem)⟩
    obtain ⟨targetIds, htargets⟩ := htargets
    dsimp only
    rw [ok_bind, htargets, ok_bind]
    constructor
    · intro h
      exact ⟨List.cons_ne_nil _ _, List.forall₂_map_left_iff.mp (mapM_ok h)⟩
    · rintro ⟨_, hall⟩
      exact mapM_of_forall₂ (List.forall₂_map_left_iff.mpr hall)

end Envelopes

section Dispatches

/-! ### Related lists -/

theorem exists_of_forall₂ {α β : Type} {R S : α → β → Prop} {xs : List α} {ys : List β}
    (h : List.Forall₂ R xs ys) (h' : List.Forall₂ S xs ys) {x : α} (hx : x ∈ xs) :
    ∃ y, R x y ∧ S x y := by
  induction h with
  | nil => cases hx
  | cons hR _ ih =>
    cases h' with
    | cons hS h' =>
      rcases List.mem_cons.mp hx with rfl | hx
      · exact ⟨_, hR, hS⟩
      · exact ih h' hx

/-- Lists with the same images are related element by element. -/
theorem forall₂_map_eq_iff {α β γ : Type} {f : α → γ} {g : β → γ} {xs : List α} {ys : List β} :
    List.Forall₂ (fun x y => g y = f x) xs ys ↔ ys.map g = xs.map f := by
  rw [eq_comm, ← List.forall₂_eq_eq_eq, List.forall₂_map_left_iff, List.forall₂_map_right_iff]
  constructor
  · exact fun h => h.imp fun _ _ => Eq.symm
  · exact fun h => h.imp fun _ _ => Eq.symm

variable {coerced : List (GxArtifactEnvelope × Dict)} {plan : Plan}

/-! ### One dispatch -/

variable {batch : Batch}

/-- The payloads of a batch are those of the suites that select its target, in some order. -/
theorem exists_chosen (h : Partitions (coerced.map plannerInput) plan)
    (hbatch : batch ∈ plan.batches) :
    ∃ chosen : List (GxArtifactEnvelope × Dict),
      chosen.Perm (coerced.filter fun c => Selects c.1.plannerSuite batch.dataObjectVersionId) ∧
      batch.suites =
        chosen.map fun c => withTargetIds c.2 (selectedTargets c.1.plannerSuite) := by
  have hcontent := h.content batch hbatch
  rw [List.filter_map, List.map_map] at hcontent
  obtain ⟨chosen, hlistings, hperm⟩ := (iff_of_eq (congrFun (congrFun
    (List.eq_map_comp_perm (listing ∘ plannerInput)) batch.listings) _)).mpr hcontent
  refine ⟨chosen, hperm, ?_⟩
  have hcounts := h.suiteCounts batch hbatch
  have hsuites : batch.listings.map Prod.snd = batch.suites :=
    List.map_snd_zip (hcounts.2.trans hcounts.1.symm).le
  rw [← hsuites, hlistings, List.map_map]
  rfl

theorem present_target (h : Partitions (coerced.map plannerInput) plan)
    (hbatch : batch ∈ plan.batches) :
    batch.dataObjectVersionId.strip = batch.dataObjectVersionId ∧
      batch.dataObjectVersionId ≠ [] := by
  obtain ⟨s, _, hselects⟩ := (h.targets _).mp (List.mem_map_of_mem hbatch)
  exact present_of_mem_presentIds hselects.1

theorem suites_ne_nil (h : Partitions (coerced.map plannerInput) plan)
    (hbatch : batch ∈ plan.batches) : batch.suites ≠ [] := by
  obtain ⟨s, hs, hselects⟩ := (h.targets _).mp (List.mem_map_of_mem hbatch)
  obtain ⟨c, hc, rfl⟩ := List.mem_map.mp hs
  obtain ⟨chosen, hperm, hsuites⟩ := exists_chosen h hbatch
  have hmem : c ∈ chosen := by
    rw [hperm.mem_iff, List.mem_filter]
    exact ⟨hc, decide_eq_true hselects⟩
  rw [hsuites]
  exact List.ne_nil_of_mem (List.mem_map_of_mem hmem)

theorem present_selectedTargets (suite : Suite) : Present (selectedTargets suite) :=
  fun _ hid => present_of_mem_presentIds (mem_selectedTargets.mp hid).1

variable [PyRuntime] {project : ValidationArtifact → Except PlanError GxArtifactEnvelope}
  {inputs : List SuiteInput}

/-- What the planner returns groups the coerced suites, each of which has a target. -/
theorem partitions_of_buildSuitePlan (hcoerced : inputs.mapM (coerceSuite project) = .ok coerced)
    (hplan : buildSuitePlan project inputs = .ok plan) :
    Partitions (coerced.map plannerInput) plan ∧
      ∀ c ∈ coerced, ∃ t, Selects c.1.plannerSuite t := by
  obtain ⟨planned, ps, batches, hplanned, hps, hfold, rfl⟩ := buildPlan_ok_iff.mp hplan
  have hsame : planned = coerced.map plannerInput := by
    have hall : List.Forall₂ (fun input s =>
        (coerceSuite project input).map plannerInput = .ok s) inputs
        (coerced.map plannerInput) := by
      rw [List.forall₂_map_right_iff]
      refine (mapM_ok hcoerced).imp ?_
      intro input c hc
      rw [hc]
      rfl
    have hok := mapM_of_forall₂ hall
    rw [hplanned] at hok
    exact Except.ok.inj hok
  subst hsame
  refine ⟨Grouped.partitions hps (Grouped.of_foldlM hps hfold), ?_⟩
  intro c hc
  obtain ⟨p, _, hp⟩ := mapM_mem hps (List.mem_map_of_mem hc)
  exact exists_selects_of_prepare hp

variable [PyNumerals]

/-- The worker reads a suite of a target as it was planned. -/
def SuitePreserved (targetId : Text) (c : GxArtifactEnvelope × Dict) : Prop :=
  ∃ expectations,
    (readSuite targetId (snakecasePayload
      (.dict (withTargetIds c.2 (selectedTargets c.1.plannerSuite))))).map (fun r => r.2.1) =
        .ok expectations ∧
    expectations.map evaluatedExpectation = plannedExpectations c.1.gxSuite

theorem dispatchable_of_gx_iff {targetId : Text} {envelope : GxArtifactEnvelope}
    (htarget : Selects envelope.plannerSuite targetId) :
    DispatchableSuite envelope.gxSuite ↔
      NothingMerged envelope.gxSuite ∧ SuitePreserved targetId (envelope, envelope.modelDump) := by
  let narrowed : GxArtifactEnvelope :=
    { envelope with resolvedExecutionScope := ⟨selectedTargets envelope.plannerSuite⟩ }
  have hpresent : Present narrowed.resolvedExecutionScope.dataObjectVersionIds :=
    present_selectedTargets _
  have hmem : targetId ∈ narrowed.resolvedExecutionScope.dataObjectVersionIds :=
    mem_selectedTargets.mpr htarget
  have hread := readSuite_modelDump hpresent hmem
  rw [dispatchableSuite_iff envelope.distinctKeys, SuitePreserved]
  dsimp only
  rw [withTargetIds_modelDump, hread]

theorem not_suitePreserved_validation (targetId : Text) (envelope : GxArtifactEnvelope)
    (artifact : ValidationArtifact) : ¬SuitePreserved targetId (envelope, artifact.payload) := by
  rintro ⟨expectations, hread, _⟩
  obtain ⟨e, herror⟩ := readSuite_validation targetId artifact
    (selectedTargets envelope.plannerSuite)
  rw [herror] at hread
  cases hread

/-- A suite of a batch that is read as planned is read as planned. -/
theorem suitePreserved_of_batch {reading : Text × List (List Dict)}
    (hparts : Partitions (coerced.map plannerInput) plan) (hbatch : batch ∈ plan.batches)
    (hread : readBatch (snakecasePayload (.dict batch.toDict)) = .ok reading)
    (hpreserved : BatchPreserved coerced batch reading) {c : GxArtifactEnvelope × Dict}
    (hc : c ∈ coerced) (hselects : Selects c.1.plannerSuite batch.dataObjectVersionId) :
    SuitePreserved batch.dataObjectVersionId c := by
  obtain ⟨_, chosen, hperm, hsuites, hplanned⟩ := hpreserved
  have hall := ((readBatch_ok_iff (present_target hparts hbatch)
    (suites_ne_nil hparts hbatch)).mp hread).2
  rw [hsuites, List.forall₂_map_left_iff] at hall
  have hsame : List.Forall₂ (fun c expectations =>
      expectations.map evaluatedExpectation = plannedExpectations c.1.gxSuite) chosen reading.2 :=
    forall₂_map_eq_iff.mpr hplanned
  have hmem : c ∈ chosen := by
    rw [hperm.mem_iff, List.mem_filter]
    exact ⟨hc, decide_eq_true hselects⟩
  obtain ⟨expectations, hok, heq⟩ := exists_of_forall₂ hall hsame hmem
  exact ⟨expectations, hok, heq⟩

/-- A batch whose suites are read as planned is read as planned. -/
theorem batchPreserved_of_suites (hparts : Partitions (coerced.map plannerInput) plan)
    (hbatch : batch ∈ plan.batches)
    (h : ∀ c ∈ coerced, Selects c.1.plannerSuite batch.dataObjectVersionId →
      SuitePreserved batch.dataObjectVersionId c) :
    ∃ reading, readBatch (snakecasePayload (.dict batch.toDict)) = .ok reading ∧
      BatchPreserved coerced batch reading := by
  obtain ⟨chosen, hperm, hsuites⟩ := exists_chosen hparts hbatch
  have heach : ∀ c ∈ chosen, SuitePreserved batch.dataObjectVersionId c := by
    intro c hc
    rw [hperm.mem_iff, List.mem_filter] at hc
    exact h c hc.1 (of_decide_eq_true hc.2)
  obtain ⟨expectations, hall⟩ := exists_forall₂ heach
  refine ⟨(batch.dataObjectVersionId, expectations), ?_, rfl, chosen, hperm, hsuites, ?_⟩
  · rw [readBatch_ok_iff (present_target hparts hbatch) (suites_ne_nil hparts hbatch), hsuites,
      List.forall₂_map_left_iff]
    exact ⟨rfl, hall.imp fun _ _ => And.left⟩
  · exact forall₂_map_eq_iff.mp (hall.imp fun _ _ => And.right)

variable {request : GroupedDispatchRequest} {hex submittedAt : Text} {payload : Dict}

/-- The suites of a dispatch that preserves them are GX envelopes that can be dispatched. -/
theorem dispatchable_of_preserves (hcoerced : inputs.mapM (coerceSuite project) = .ok coerced)
    (hplan : buildSuitePlan project inputs = .ok plan)
    (hpayload : buildGroupedExecutionDispatchPayload request plan hex submittedAt = .ok payload)
    (h : PreservesSuites coerced plan payload) :
    inputs ≠ [] ∧ ∀ input ∈ inputs, ∃ envelope, input = .gx envelope ∧
      DispatchableSuite envelope.gxSuite := by
  obtain ⟨hparts, htargets⟩ := partitions_of_buildSuitePlan hcoerced hplan
  obtain ⟨readings, hread, hpreserved⟩ := h.accepted
  obtain ⟨hne, hbatches⟩ := (readGrouped_ok_iff (get_of_buildPayload hpayload).2.2
    fun batch hbatch => present_target hparts hbatch).mp hread
  constructor
  · rintro rfl
    cases hcoerced
    obtain ⟨batch, hbatch⟩ := List.exists_mem_of_ne_nil _ hne
    obtain ⟨s, hs, _⟩ := (hparts.targets _).mp (List.mem_map_of_mem hbatch)
    cases hs
  · intro input hinput
    obtain ⟨c, hc, hcoerce⟩ := mapM_mem hcoerced hinput
    obtain ⟨t, ht⟩ := htargets c hc
    obtain ⟨batch, hbatch, rfl⟩ := List.mem_map.mp
      ((hparts.targets t).mpr ⟨plannerInput c, List.mem_map_of_mem hc, ht⟩)
    obtain ⟨reading, hreading, hbatchPreserved⟩ := exists_of_forall₂ hbatches hpreserved hbatch
    have hsuite := suitePreserved_of_batch hparts hbatch hreading hbatchPreserved hc ht
    cases input with
    | gx envelope =>
      cases hcoerce
      exact ⟨envelope, rfl, (dispatchable_of_gx_iff ht).mpr ⟨h.unmerged _ hc, hsuite⟩⟩
    | validation artifact =>
      obtain ⟨envelope, _, hcoerce⟩ := ok_of_bind hcoerce
      cases hcoerce
      exact absurd hsuite (not_suitePreserved_validation _ envelope artifact)

/-- A dispatch of GX envelopes that can be dispatched preserves them. -/
theorem preserves_of_dispatchable (hcoerced : inputs.mapM (coerceSuite project) = .ok coerced)
    (hplan : buildSuitePlan project inputs = .ok plan)
    (hpayload : buildGroupedExecutionDispatchPayload request plan hex submittedAt = .ok payload)
    (hne : inputs ≠ []) (hgx : ∀ input ∈ inputs, ∃ envelope, input = .gx envelope ∧
      DispatchableSuite envelope.gxSuite) : PreservesSuites coerced plan payload := by
  obtain ⟨hparts, htargets⟩ := partitions_of_buildSuitePlan hcoerced hplan
  have hcoercedGx : ∀ c ∈ coerced, ∃ envelope : GxArtifactEnvelope,
      c = (envelope, envelope.modelDump) ∧ DispatchableSuite envelope.gxSuite := by
    intro c hc
    obtain ⟨input, hinput, hcoerce⟩ := mem_of_mapM hcoerced hc
    obtain ⟨envelope, rfl, hsuite⟩ := hgx input hinput
    cases hcoerce
    exact ⟨envelope, rfl, hsuite⟩
  have hbatches : ∀ batch ∈ plan.batches, ∃ reading,
      readBatch (snakecasePayload (.dict batch.toDict)) = .ok reading ∧
        BatchPreserved coerced batch reading := by
    intro batch hbatch
    apply batchPreserved_of_suites hparts hbatch
    intro c hc hselects
    obtain ⟨envelope, rfl, hsuite⟩ := hcoercedGx c hc
    exact ((dispatchable_of_gx_iff hselects).mp hsuite).2
  obtain ⟨readings, hall⟩ := exists_forall₂ hbatches
  have hplanned : plan.batches ≠ [] := by
    obtain ⟨input, hinput⟩ := List.exists_mem_of_ne_nil _ hne
    obtain ⟨c, hc, _⟩ := mapM_mem hcoerced hinput
    obtain ⟨t, ht⟩ := htargets c hc
    obtain ⟨batch, hbatch, _⟩ := List.mem_map.mp
      ((hparts.targets t).mpr ⟨plannerInput c, List.mem_map_of_mem hc, ht⟩)
    exact List.ne_nil_of_mem hbatch
  have hread : readGrouped payload = .ok readings :=
    (readGrouped_ok_iff (get_of_buildPayload hpayload).2.2
      fun batch hbatch => present_target hparts hbatch).mpr
      ⟨hplanned, hall.imp fun _ _ => And.left⟩
  constructor
  · exact routed_of_buildPayload hpayload
  · exact ⟨readings, hread, hall.imp fun _ _ => And.right⟩
  · intro c hc
    obtain ⟨t, ht⟩ := htargets c hc
    obtain ⟨envelope, rfl, hsuite⟩ := hcoercedGx c hc
    exact ((dispatchable_of_gx_iff ht).mp hsuite).1

/-- A grouped dispatch preserves the suites exactly when there are suites, all of them GX envelopes,
each with runnable expectations whose keys snake case keeps and does not merge. -/
theorem grouped_dispatch_preserves_iff
    (project : ValidationArtifact → Except PlanError GxArtifactEnvelope) (inputs : List SuiteInput)
    (request : GroupedDispatchRequest) (hex submittedAt : Text)
    {coerced : List (GxArtifactEnvelope × Dict)} {plan : Plan} {payload : Dict}
    (hcoerced : inputs.mapM (coerceSuite project) = .ok coerced)
    (hplan : buildSuitePlan project inputs = .ok plan)
    (hpayload : buildGroupedExecutionDispatchPayload request plan hex submittedAt = .ok payload) :
    PreservesSuites coerced plan payload ↔
      inputs ≠ [] ∧ ∀ input ∈ inputs, ∃ envelope, input = .gx envelope ∧
        DispatchableSuite envelope.gxSuite := by
  constructor
  · exact dispatchable_of_preserves hcoerced hplan hpayload
  · rintro ⟨hne, hgx⟩
    exact preserves_of_dispatchable hcoerced hplan hpayload hne hgx

end Dispatches

section Example

local instance sampleRuntimePreservation : PyRuntime := .ascii (fun _ => .nan) (fun _ => [])

local instance sampleNumeralsPreservation : PyNumerals := ⟨fun _ => none, fun _ => none, id⟩

def singleExpectation (expectationType : String) (kwargs : List (String × String)) : Dict :=
  [entry "expectations" (.list [.dict [entry "expectation_type" (.text expectationType),
    entry "kwargs" (.dict (kwargs.map fun e => entry e.1 (.text e.2)))]])]

/-- An envelope of a suite with one target. -/
def singleTarget (gxSuite : Dict) (distinctKeys : (Json.dict gxSuite).DistinctKeys) :
    GxArtifactEnvelope where
  suiteId := "s"
  suiteVersion := 1
  suiteVersion_pos := Nat.one_pos
  artifactVersion := "v1"
  assignmentScope := ⟨none, none, none, []⟩
  resolvedExecutionScope := ⟨["t"]⟩
  gxSuite := gxSuite
  distinctKeys := distinctKeys
  compiledFrom := ⟨["r"], "unknown", []⟩
  executionHints := ⟨none, [], [], none, none⟩
  executionContract := none
  savedBy := none
  sourcePipeline := none
  status := none
  artifactHash := none

/-- A request for the GX engine. -/
def sampleGroupedRequest : GroupedDispatchRequest where
  scopeSelector := []
  suiteRefs := [[entry "engineType" (.text "gx")]]
  correlationId := "c"
  requestedBy := none
  scheduledAt := []
  runPlanId := none
  runPlanVersionId := none
  sourceOverrides := []
  deliverySnapshot := none
  queueKey := "q"

def rejectArtifact (_ : ValidationArtifact) : Except PlanError GxArtifactEnvelope :=
  planError "GROUPED_EXECUTION suite envelope is invalid"

def nullSuite : GxArtifactEnvelope :=
  singleTarget (singleExpectation "expect_column_values_to_not_be_null" [("column", "a")])
    ⟨by decide, ⟨⟨by decide, trivial, ⟨by decide, trivial, trivial⟩, trivial⟩, trivial⟩, trivial⟩

/-- The suite of a comparison of two columns. -/
def pairSuite : GxArtifactEnvelope :=
  singleTarget (singleExpectation "expect_column_pair_values_to_be_equal"
      [("column_A", "a"), ("column_B", "b")])
    ⟨by decide, ⟨⟨by decide, trivial, ⟨by decide, trivial, trivial, trivial⟩, trivial⟩, trivial⟩,
      trivial⟩

/-- A single envelope is planned and dispatched. -/
theorem single_dispatches (envelope : GxArtifactEnvelope)
    (hplan : (buildSuitePlan rejectArtifact [.gx envelope]).isOk = true) :
    ∃ plan payload, buildSuitePlan rejectArtifact [.gx envelope] = .ok plan ∧
      buildGroupedExecutionDispatchPayload sampleGroupedRequest plan [] [] = .ok payload := by
  cases h : buildSuitePlan rejectArtifact [.gx envelope] with
  | error e =>
    rw [h] at hplan
    cases hplan
  | ok plan =>
    have hengine : dispatchEngineType sampleGroupedRequest = .ok "gx" := rfl
    cases hpayload : buildGroupedExecutionDispatchPayload sampleGroupedRequest plan [] [] with
    | error e =>
      rw [buildGroupedExecutionDispatchPayload, hengine] at hpayload
      cases hpayload
    | ok payload => exact ⟨plan, payload, rfl, hpayload⟩

theorem samples_planned :
    (buildSuitePlan rejectArtifact [.gx nullSuite]).isOk = true ∧
      (buildSuitePlan rejectArtifact [.gx pairSuite]).isOk = true := by
  decide +kernel

/-- The null check can be dispatched. -/
theorem dispatchable_nullSuite : DispatchableSuite nullSuite.gxSuite := by
  constructor
  · rw [SnakedOnce]
    decide +kernel
  · exact List.cons_ne_nil _ _
  · intro item hitem
    rw [List.mem_singleton.mp hitem]
    refine ⟨_, rfl, ?_⟩
    constructor
    · rw [SnakedOnce]
      decide +kernel
    · rw [SnakedOnce]
      decide +kernel
    · decide +kernel
    · exact List.cons_ne_nil _ _
    · intro key hkey
      cases hkey
    · decide +kernel

theorem grouped_dispatch_preserves_nullSuite :
    ∃ plan payload, PreservesSuites [(nullSuite, nullSuite.modelDump)] plan payload := by
  obtain ⟨plan, payload, hplan, hpayload⟩ := single_dispatches nullSuite samples_planned.1
  refine ⟨plan, payload, (grouped_dispatch_preserves_iff rejectArtifact [.gx nullSuite]
    sampleGroupedRequest [] [] rfl hplan hpayload).mpr ⟨by simp, ?_⟩⟩
  intro input hinput
  rw [List.mem_singleton] at hinput
  exact ⟨nullSuite, hinput, dispatchable_nullSuite⟩

/-- The two columns of a comparison are renamed, so it is not evaluated as planned. -/
theorem grouped_dispatch_counterexample :
    ¬∀ (inputs : List SuiteInput) (coerced : List (GxArtifactEnvelope × Dict)) (plan : Plan)
      (payload : Dict), inputs.mapM (coerceSuite rejectArtifact) = .ok coerced →
      buildSuitePlan rejectArtifact inputs = .ok plan →
      buildGroupedExecutionDispatchPayload sampleGroupedRequest plan [] [] = .ok payload →
      PreservesSuites coerced plan payload := by
  intro h
  obtain ⟨plan, payload, hplan, hpayload⟩ := single_dispatches pairSuite samples_planned.2
  have hcoerced : [SuiteInput.gx pairSuite].mapM (coerceSuite rejectArtifact) =
      .ok [(pairSuite, pairSuite.modelDump)] := rfl
  obtain ⟨_, hgx⟩ := dispatchable_of_preserves hcoerced hplan hpayload
    (h _ _ plan payload hcoerced hplan hpayload)
  obtain ⟨envelope, henvelope, hsuite⟩ := hgx _ List.mem_cons_self
  cases henvelope
  obtain ⟨expectation, hitem, hdispatchable⟩ := hsuite.expectations _ List.mem_cons_self
  cases hitem
  have hkey : toSnake "column_A" = "column_A" :=
    hdispatchable.kwargsKeys _ List.mem_cons_self
  revert hkey
  decide

end Example

end Dispatch

end DqMadeEasy
