import DqMadeEasy.Lifecycle.ActivateRule
import DqMadeEasy.Lifecycle.RuleState

/-!
# Failed activations

`activate_rule` writes the new status before the steps that compile and publish, and takes nothing
back when one of them fails. A failed call therefore leaves everything as it was only where it is
refused before the status is written, or where the rule was active already and no suite had been
saved when the step failed.
-/

namespace DqMadeEasy

namespace Lifecycle

open Artifacts InMemory

section Atomicity

variable [PyRuntime] [PyNumerals] {Ir Suite Artifact Compiled : Type}
  (S : ActivationServices Ir Suite Artifact Compiled)

/-- The rule's status and active flag, the suites and the validation artifacts are as before. -/
structure Untouched (ruleId : Text) (stores stores' : Stores Suite Artifact Compiled) : Prop where
  rule : (stores'.rules.find? ruleId).map (fun r => (r.currentStatus, r.entity.active)) =
    (stores.rules.find? ruleId).map fun r => (r.currentStatus, r.entity.active)
  suites : stores'.suites.artifacts = stores.suites.artifacts
  artifacts : stores'.artifacts.artifacts = stores.artifacts.artifacts

/-- An activation that raises leaves everything as it was. -/
def ActivationAtomic (overrides : PolicyOverrides) (now : Instant) (command : ActivateRuleCommand)
    (stores : Stores Suite Artifact Compiled) : Prop :=
  ∀ error stores', (activateRule S overrides now command).run stores = (.error error, stores') →
    Untouched command.ruleId stores stores'

/-- The checks pass, and the repository turns `r` into the activated `r'`. -/
structure Accepted (overrides : PolicyOverrides) (now : Instant) (command : ActivateRuleCommand)
    (rules : Repository) (r r' : StoredRule) : Prop where
  checked : checkActivation S overrides now command rules = .ok ()
  found : rules.find? command.ruleId = some r
  activated : activatedRule overrides now r = .ok (some r')
  visible : r.details.removedAt = none

def KeepsModel (compiled : Compiled) (r : StoredRule) (model : Dict) : Prop :=
  ∃ compiled', (keepCompilerArtifact S r model).run compiled = (.ok (), compiled')

/-- The suite of an activated rule is saved. -/
def SavesSuite (now : Instant) (command : ActivateRuleCommand)
    (stores : Stores Suite Artifact Compiled) (r : StoredRule) : Prop :=
  ∃ model request suites, compileForActivation S command.ruleId r = .ok ("gx", model) ∧
    KeepsModel S stores.compiled r model ∧ command.autoPublishRequest = some request ∧
    (persistGxSuite S now (command.buildInput r model request)).run stores.suites =
      (.ok (), suites) ∧ suites.artifacts ≠ stores.suites.artifacts

/-- Every step after the activation goes through: the rule compiles, its model is kept, and where a
publication is requested, the registries take what is published. -/
def Publishes (now : Instant) (command : ActivateRuleCommand)
    (stores : Stores Suite Artifact Compiled) (r : StoredRule) : Prop :=
  ∃ engine model, compileForActivation S command.ruleId r = .ok (engine, model) ∧
    KeepsModel S stores.compiled r model ∧
    ∀ request, command.autoPublishRequest = some request →
      (engine = "gx" → ∃ suites,
        (persistGxSuite S now (command.buildInput r model request)).run stores.suites =
          (.ok (), suites)) ∧
      ∃ artifacts, (persistValidationArtifact S now (command.buildInput r model request)).run
        stores.artifacts = (.ok (), artifacts)

variable {S} {overrides : PolicyOverrides} {now : Instant} {command : ActivateRuleCommand}
  {stores stores' : Stores Suite Artifact Compiled} {r r' : StoredRule}

/-! ### The persistence steps -/

omit [PyRuntime] [PyNumerals] in
theorem failsClean_savePublished {Content : Type} (hashPayload : StoredArtifact Content → Text)
    (envelope : ArtifactEnvelope Content) (savedBy : Option Text) :
    (savePublished hashPayload now envelope savedBy).FailsClean := by
  intro registry error registry' h
  obtain ⟨houtcome, hregistry⟩ := Prod.mk.inj h
  cases hsave : registry.saveArtifact hashPayload now envelope "active" none savedBy
    (some "rule-compiler") with
  | mk outcome saved =>
    rw [hsave] at houtcome hregistry
    cases outcome with
    | ok row => cases houtcome
    | error e =>
      rw [← hregistry]
      exact Registry.saveArtifact_error hsave

omit [PyRuntime] [PyNumerals] in
theorem failsClean_persistGxSuite (input : BuildInput) :
    (persistGxSuite S now input).FailsClean := by
  rw [persistGxSuite]
  refine .ite (.pure _) ?_
  refine .bind Effect.reads_get ?_
  intro registry
  refine .bind (Effect.reads_ofExcept _) ?_
  intro suite
  exact failsClean_savePublished _ _ _

theorem failsClean_persistValidationArtifact (input : BuildInput) :
    (persistValidationArtifact S now input).FailsClean := by
  rw [persistValidationArtifact]
  refine .ite (.pure _) ?_
  refine .bind (Effect.reads_ofExcept _) ?_
  rintro ⟨engine, semanticIr⟩
  refine .bind Effect.reads_get ?_
  intro registry
  refine .ite ?_ ?_
  · cases semanticIr with
    | none => exact .raise _
    | some ir =>
      refine .bind (Effect.reads_ofExcept _) ?_
      intro artifact
      exact failsClean_savePublished _ _ _
  · refine .bind (Effect.reads_ofExcept _) ?_
    intro suite
    refine .bind (Effect.reads_ofExcept _) ?_
    intro artifact
    exact failsClean_savePublished _ _ _

/-! ### The steps after the status is written -/

theorem engine_of_resolve {dsl : Option Dict} {target : Text × Option Ir}
    (h : resolveTargetEngine S dsl = .ok target) :
    target.1 = "gx" ∨ target.1 = "sodacl" := by
  cases dsl with
  | none =>
    cases h
    exact .inl rfl
  | some raw =>
    rw [resolveTargetEngine] at h
    split at h
    · cases h
      exact .inl rfl
    split at h
    · cases h
    split at h
    · cases h
    split at h
    · cases h
      assumption
    · cases h

theorem engine_of_compile {ruleId engine : Text} {model : Dict}
    (h : compileForActivation S ruleId r = .ok (engine, model)) :
    engine = "gx" ∨ engine = "sodacl" := by
  rw [compileForActivation] at h
  obtain ⟨target, hresolve, h⟩ := ok_of_bind h
  obtain ⟨_, -, h⟩ := ok_of_bind h
  cases h
  exact engine_of_resolve hresolve

/-- What a step that does not go through leaves: the rules and the validation artifacts as they
were, and the suites too unless one has been saved. -/
structure Stopped (S : ActivationServices Ir Suite Artifact Compiled) (now : Instant)
    (command : ActivateRuleCommand) (stores stores' : Stores Suite Artifact Compiled)
    (r : StoredRule) : Prop where
  rules : stores'.rules = stores.rules
  artifacts : stores'.artifacts = stores.artifacts
  suites : stores'.suites.artifacts = stores.suites.artifacts ↔ ¬SavesSuite S now command stores r

/-- How the publication of the artifacts of a target engine ends. -/
theorem publishArtifacts_cases {engine : Text}
    (hengine : engine = "gx" ∨ engine = "sodacl") (input : BuildInput)
    (stores : Stores Suite Artifact Compiled) :
    (∃ stores', (publishArtifacts S now engine input).run stores = (.ok (), stores') ∧
      (engine = "gx" → ∃ suites,
        (persistGxSuite S now input).run stores.suites = (.ok (), suites)) ∧
      ∃ artifacts, (persistValidationArtifact S now input).run stores.artifacts =
        (.ok (), artifacts)) ∨
    (∃ error, (publishArtifacts S now engine input).run stores = (.error error, stores) ∧
      ((engine = "gx" ∧
          (persistGxSuite S now input).run stores.suites = (.error error, stores.suites)) ∨
        (engine ≠ "gx" ∧ (persistValidationArtifact S now input).run stores.artifacts =
          (.error error, stores.artifacts)))) ∨
    ∃ error suites, engine = "gx" ∧
      (persistGxSuite S now input).run stores.suites = (.ok (), suites) ∧
      (persistValidationArtifact S now input).run stores.artifacts =
        (.error error, stores.artifacts) ∧
      (publishArtifacts S now engine input).run stores =
        (.error error, { stores with suites := suites }) := by
  rw [publishArtifacts]
  cases hartifacts : (persistValidationArtifact S now input).run stores.artifacts with
  | mk outcome artifacts =>
    by_cases hgx : engine = "gx"
    · rw [if_pos hgx]
      cases hsuites : (persistGxSuite S now input).run stores.suites with
      | mk outcome' suites =>
        have hon : (onSuites (persistGxSuite S now input)).run stores =
            (outcome', { stores with suites := suites }) := by
          rw [onSuites, Effect.run_ofState, hsuites]
        cases outcome' with
        | error error =>
          right; left
          have hkept := failsClean_persistGxSuite input hsuites
          rw [hkept] at hon
          exact ⟨error, Effect.run_bind_error hon, .inl ⟨hgx, by rw [hkept]⟩⟩
        | ok _ =>
          have hboth : (onSuites (persistGxSuite S now input) >>= fun _ =>
              onArtifacts (persistValidationArtifact S now input)).run stores =
                (outcome, { stores with suites := suites, artifacts := artifacts }) := by
            rw [Effect.run_bind_ok hon, onArtifacts, Effect.run_ofState, hartifacts]
          cases outcome with
          | ok _ => exact .inl ⟨_, hboth, fun _ => ⟨suites, rfl⟩, artifacts, rfl⟩
          | error error =>
            right; right
            have hkept := failsClean_persistValidationArtifact input hartifacts
            rw [hkept] at hboth
            exact ⟨error, suites, hgx, rfl, by rw [hkept], hboth⟩
    · rw [if_neg hgx, if_pos (hengine.resolve_left hgx)]
      have hon : (onArtifacts (persistValidationArtifact S now input)).run stores =
          (outcome, { stores with artifacts := artifacts }) := by
        rw [onArtifacts, Effect.run_ofState, hartifacts]
      cases outcome with
      | ok _ => exact .inl ⟨_, hon, fun h => absurd h hgx, artifacts, rfl⟩
      | error error =>
        right; left
        have hkept := failsClean_persistValidationArtifact input hartifacts
        rw [hkept] at hon
        exact ⟨error, hon, .inr ⟨hgx, by rw [hkept]⟩⟩

theorem run_publishActivated {engine : Text} {model : Dict} {compiled : Compiled}
    (hcompile : compileForActivation S command.ruleId r = .ok (engine, model))
    (hkeep : (keepCompilerArtifact S r model).run stores.compiled = (.ok (), compiled)) :
    (publishActivated S now command r).run stores =
      (match command.autoPublishRequest with
        | none => pure ()
        | some request => publishArtifacts S now engine (command.buildInput r model request) :
        Effect (Stores Suite Artifact Compiled) ActivationError Unit).run
        { stores with compiled := compiled } := by
  have hon : (onCompiled (keepCompilerArtifact S r model)).run stores =
      (.ok (), { stores with compiled := compiled }) := by
    rw [onCompiled, Effect.run_ofState, hkeep]
  rw [publishActivated, hcompile, Effect.run_bind_ok (Effect.run_ofExcept _ _)]
  exact Effect.run_bind_ok hon

/-- The steps after the status is written either all go through, or stop. -/
theorem publishActivated_cases (S : ActivationServices Ir Suite Artifact Compiled) (now : Instant)
    (command : ActivateRuleCommand) (stores : Stores Suite Artifact Compiled) (r : StoredRule) :
    (Publishes S now command stores r ∧
      ∃ stores', (publishActivated S now command r).run stores = (.ok (), stores')) ∨
    (¬Publishes S now command stores r ∧ ∃ error stores',
      (publishActivated S now command r).run stores = (.error error, stores') ∧
        Stopped S now command stores stores' r) := by
  cases hcompile : compileForActivation S command.ruleId r with
  | error error =>
    right
    constructor
    · rintro ⟨engine, model, h, -⟩
      rw [hcompile] at h
      cases h
    · refine ⟨error, stores, ?_, rfl, rfl, iff_of_true rfl ?_⟩
      · rw [publishActivated, hcompile]
        rfl
      · rintro ⟨model, request, suites, h, -⟩
        rw [hcompile] at h
        cases h
  | ok target =>
    obtain ⟨engine, model⟩ := target
    cases hkeep : (keepCompilerArtifact S r model).run stores.compiled with
    | mk outcome compiled =>
      cases outcome with
      | error error =>
        have hnot : ¬KeepsModel S stores.compiled r model := by
          rintro ⟨compiled', h⟩
          rw [hkeep] at h
          cases h
        right
        constructor
        · rintro ⟨engine', model', h, hkeeps, -⟩
          rw [hcompile] at h
          cases h
          exact hnot hkeeps
        · have hon : (onCompiled (keepCompilerArtifact S r model)).run stores =
              (.error error, { stores with compiled := compiled }) := by
            rw [onCompiled, Effect.run_ofState, hkeep]
          refine ⟨error, { stores with compiled := compiled }, ?_, rfl, rfl, iff_of_true rfl ?_⟩
          · rw [publishActivated, hcompile, Effect.run_bind_ok (Effect.run_ofExcept _ _)]
            exact Effect.run_bind_error hon
          · rintro ⟨model', request, suites, h, hkeeps, -⟩
            rw [hcompile] at h
            cases h
            exact hnot hkeeps
      | ok _ =>
        have hkeeps : KeepsModel S stores.compiled r model := ⟨compiled, hkeep⟩
        have hrun : (publishActivated S now command r).run stores = _ :=
          run_publishActivated hcompile hkeep
        cases hrequest : command.autoPublishRequest with
        | none =>
          rw [hrequest] at hrun
          left
          refine ⟨⟨engine, model, hcompile, hkeeps, ?_⟩, _, hrun⟩
          intro request h
          rw [hrequest] at h
          cases h
        | some request =>
          rw [hrequest] at hrun
          have hrequests : ∀ {request'}, command.autoPublishRequest = some request' →
              request' = request := by
            intro request' h
            rw [hrequest] at h
            exact (Option.some.inj h).symm
          obtain ⟨stores', hall, hsuites, hartifacts⟩ | ⟨error, hstop, hstep⟩ |
              ⟨error, suites, hgx, hsuites, hartifacts, hstop⟩ :=
            publishArtifacts_cases (engine_of_compile hcompile)
              (command.buildInput r model request) { stores with compiled := compiled }
          · left
            refine ⟨⟨engine, model, hcompile, hkeeps, ?_⟩, stores', hrun.trans hall⟩
            intro request' h
            cases hrequests h
            exact ⟨hsuites, hartifacts⟩
          · right
            constructor
            · rintro ⟨engine', model', h, -, hpublish⟩
              rw [hcompile] at h
              cases h
              obtain ⟨hsuites, artifacts, hartifacts⟩ := hpublish request hrequest
              obtain ⟨hgx, hsuite⟩ | ⟨-, hartifact⟩ := hstep
              · obtain ⟨suites, hsuites⟩ := hsuites hgx
                rw [hsuites] at hsuite
                cases hsuite
              · rw [hartifacts] at hartifact
                cases hartifact
            · refine ⟨error, _, hrun.trans hstop, rfl, rfl, iff_of_true rfl ?_⟩
              rintro ⟨model', request', suites, h, -, h', hsuites, -⟩
              rw [hcompile] at h
              cases h
              cases hrequests h'
              obtain ⟨-, hsuite⟩ | ⟨hgx, -⟩ := hstep
              · rw [hsuites] at hsuite
                cases hsuite
              · exact hgx rfl
          · right
            constructor
            · rintro ⟨engine', model', h, -, hpublish⟩
              rw [hcompile] at h
              cases h
              obtain ⟨-, artifacts, hartifacts'⟩ := hpublish request hrequest
              rw [hartifacts'] at hartifacts
              cases hartifacts
            · refine ⟨error, _, hrun.trans hstop, rfl, rfl, ?_⟩
              subst hgx
              constructor
              · rintro hsame ⟨model', request', suites', h, -, h', hsuites', hchanged⟩
                rw [hcompile] at h
                cases h
                cases hrequests h'
                rw [hsuites'] at hsuites
                cases hsuites
                exact hchanged hsame
              · intro hnot
                by_contra hchanged
                exact hnot ⟨model, request, suites, hcompile, hkeeps, hrequest, hsuites, hchanged⟩

/-! ### The use case -/

omit [PyNumerals] in
theorem activated_spec (h : activatedRule overrides now r = .ok (some r')) :
    r'.entity.active = true ∧ r'.details.removedAt = r.details.removedAt := by
  rw [activatedRule] at h
  obtain ⟨_, -, hstore⟩ := ok_of_bind h
  cases hstore
  exact ⟨rfl, rfl⟩

/-- An accepted call writes the activated rule and goes on to publish it. -/
theorem run_activateRule_of_accepted (h : Accepted S overrides now command stores.rules r r') :
    ∃ payload, (activateRule S overrides now command).run stores =
      (publishActivated S now command r' >>= fun _ => pure payload).run
        { stores with rules := stores.rules.put command.ruleId r' } := by
  have hwrite : ∃ payload, (writeActivation overrides now command.ruleId).run stores =
      (.ok (some payload), { stores with rules := stores.rules.put command.ruleId r' }) := by
    rw [writeActivation, Effect.run_ofState, activateRuleRecord, Repository.method, h.found]
    simp only [h.activated]
    exact ⟨_, rfl⟩
  obtain ⟨payload, hwrite⟩ := hwrite
  have hget : getRuleById (stores.rules.put command.ruleId r') command.ruleId = some r' := by
    rw [getRuleById, Repository.find?_put_self, Option.filter_some, (activated_spec h.activated).2,
      h.visible]
    rfl
  refine ⟨payload, ?_⟩
  rw [activateRule, Effect.run_bind_ok (Effect.run_get stores), h.checked,
    Effect.run_bind_ok (Effect.run_ofExcept _ _), Effect.run_bind_ok hwrite,
    Effect.run_bind_ok (Effect.run_get _)]
  simp only [hget]

/-- A call that is not accepted raises before it writes anything, or returns. -/
theorem run_activateRule_of_not_accepted {error : ActivationError}
    (h : ∀ r r', ¬Accepted S overrides now command stores.rules r r')
    (hrun : (activateRule S overrides now command).run stores = (.error error, stores')) :
    stores' = stores := by
  rw [activateRule, Effect.run_bind_ok (Effect.run_get stores)] at hrun
  cases hcheck : checkActivation S overrides now command stores.rules with
  | error refused =>
    rw [hcheck, Effect.run_bind_error (Effect.run_ofExcept _ _)] at hrun
    exact (Prod.mk.inj hrun).2.symm
  | ok _ =>
    rw [hcheck, Effect.run_bind_ok (Effect.run_ofExcept _ _)] at hrun
    cases hfind : stores.rules.find? command.ruleId with
    | none =>
      have hwrite : (writeActivation overrides now command.ruleId).run stores =
          (.ok none, stores) := by
        rw [writeActivation, Effect.run_ofState, activateRuleRecord, Repository.method, hfind]
        rfl
      rw [Effect.run_bind_ok hwrite] at hrun
      exact (Prod.mk.inj hrun).2.symm
    | some r =>
      cases hactivated : activatedRule overrides now r with
      | error refused =>
        have hwrite : ∃ raised, (writeActivation overrides now command.ruleId).run stores =
            (.error raised, stores) := by
          rw [writeActivation, Effect.run_ofState, activateRuleRecord, Repository.method, hfind]
          simp only [hactivated]
          exact ⟨_, rfl⟩
        obtain ⟨raised, hwrite⟩ := hwrite
        rw [Effect.run_bind_error hwrite] at hrun
        exact (Prod.mk.inj hrun).2.symm
      | ok result =>
        have hresult : ∃ r', result = some r' := by
          rw [activatedRule] at hactivated
          obtain ⟨_, -, hstore⟩ := ok_of_bind hactivated
          exact ⟨_, (Except.ok.inj hstore).symm⟩
        obtain ⟨r', rfl⟩ := hresult
        -- the rule is written, so what is missing is that the use case can read it back
        have hwrite : ∃ payload, (writeActivation overrides now command.ruleId).run stores =
            (.ok (some payload), { stores with rules := stores.rules.put command.ruleId r' }) := by
          rw [writeActivation, Effect.run_ofState, activateRuleRecord, Repository.method, hfind]
          simp only [hactivated]
          exact ⟨_, rfl⟩
        obtain ⟨payload, hwrite⟩ := hwrite
        have hget : getRuleById (stores.rules.put command.ruleId r') command.ruleId = none := by
          rw [getRuleById, Repository.find?_put_self, Option.filter_some,
            (activated_spec hactivated).2]
          cases hremoved : r.details.removedAt with
          | none => exact absurd ⟨hcheck, hfind, hactivated, hremoved⟩ (h r r')
          | some _ => rfl
        rw [Effect.run_bind_ok hwrite, Effect.run_bind_ok (Effect.run_get _)] at hrun
        simp only [hget] at hrun
        cases hrun

/-- An activation leaves everything as it was when it raises, exactly where an accepted call
publishes all that it is asked to, or finds the rule active and saves no suite. -/
theorem activation_atomic_iff (S : ActivationServices Ir Suite Artifact Compiled)
    (overrides : PolicyOverrides) (now : Instant) (command : ActivateRuleCommand)
    (stores : Stores Suite Artifact Compiled) :
    ActivationAtomic S overrides now command stores ↔
      ∀ r r', Accepted S overrides now command stores.rules r r' →
        Publishes S now command stores r' ∨
          (r.entity.active = true ∧ ¬SavesSuite S now command stores r') := by
  by_cases haccepted : ∃ r r', Accepted S overrides now command stores.rules r r'
  · obtain ⟨r, r', h⟩ := haccepted
    have hunique : ∀ {q q'}, Accepted S overrides now command stores.rules q q' →
        q = r ∧ q' = r' := by
      intro q q' hq
      have hsame : q = r := Option.some.inj (hq.found.symm.trans h.found)
      subst hsame
      exact ⟨rfl, Option.some.inj (Except.ok.inj (hq.activated.symm.trans h.activated))⟩
    obtain ⟨payload, hrun⟩ := run_activateRule_of_accepted h
    obtain ⟨hpublishes, stores', hall⟩ | ⟨hnot, error, stores', hstop, hstopped⟩ :=
      publishActivated_cases S now command
        { stores with rules := stores.rules.put command.ruleId r' } r'
    · constructor
      · rintro - q q' hq
        obtain ⟨rfl, rfl⟩ := hunique hq
        exact .inl hpublishes
      · rintro - error stores'' herror
        rw [hrun, Effect.run_bind_ok hall] at herror
        cases herror
    · have hraises : (activateRule S overrides now command).run stores = (.error error, stores') :=
        hrun.trans (Effect.run_bind_error hstop)
      obtain ⟨hactive', hremoved'⟩ := activated_spec h.activated
      constructor
      · intro hatomic q q' hq
        obtain ⟨rfl, rfl⟩ := hunique hq
        have huntouched := hatomic error stores' hraises
        right
        constructor
        · have hrule := huntouched.rule
          rw [hstopped.rules, Repository.find?_put_self, h.found] at hrule
          have hflag := (Prod.mk.inj (Option.some.inj hrule)).2
          rw [← hflag, hactive']
        · exact hstopped.suites.mp huntouched.suites
      · intro hall error' stores'' herror
        rw [hraises] at herror
        cases herror
        obtain hpublishes | ⟨hactive, hsuite⟩ := hall r r' h
        · exact absurd hpublishes hnot
        · constructor
          · rw [hstopped.rules, Repository.find?_put_self, h.found, Option.map_some,
              Option.map_some, StoredRule.currentStatus, StoredRule.currentStatus, hactive, hactive',
              hremoved']
            rfl
          · exact hstopped.suites.mpr hsuite
          · rw [hstopped.artifacts]
  · have hnone : ∀ r r', ¬Accepted S overrides now command stores.rules r r' :=
      fun r r' h => haccepted ⟨r, r', h⟩
    constructor
    · intro _ r r' h
      exact absurd h (hnone r r')
    · intro _ error stores' herror
      rw [run_activateRule_of_not_accepted hnone herror]
      exact ⟨rfl, rfl, rfl⟩

end Atomicity

section Sample

local instance sampleRuntimeAtomicity : PyRuntime := sampleRuntimeActivation

local instance sampleNumeralsAtomicity : PyNumerals := sampleNumeralsActivation

/-- Services whose only error is that of a suite without a data object version. -/
def sampleServices : ActivationServices Unit Unit Unit Unit where
  parseEffectiveAt _ := .ok none
  hasRequiredScope _ _ := true
  semanticIr _ := none
  preferredEngines _ := []
  ruleKind _ := []
  compileRule _ _ _ := .ok []
  upsertCompilerArtifact _ _ _ compiled := (.ok (), compiled)
  buildSuite input _ _ :=
    if (input.request.dataObjectVersionIds.map Text.strip).all List.isEmpty then
      .error (.other "ValueError")
    else .ok ()
  artifactOfSuite _ := .ok ()
  buildSodacl _ _ _ _ := .ok ()
  hashSuite _ := []
  hashArtifact _ := []

/-- An approved rule, and nothing published. -/
def sampleStores : Stores Unit Unit Unit where
  rules := sampleRepository sampleApproval
  suites := ⟨[], []⟩
  artifacts := ⟨[], []⟩
  compiled := ()

/-- A request that names a data object and a blank version of it. -/
def sampleActivation : ActivateRuleCommand where
  ruleId := "r"
  autoPublishRequest := some {
    dataObjectId := some "customers"
    dataObjectVersionIds := [" "] }

/-- The rule stays active after an activation that raises. -/
theorem failed_activation_activates :
    ¬ ∀ (Ir Suite Artifact Compiled : Type) (S : ActivationServices Ir Suite Artifact Compiled)
      (overrides : PolicyOverrides) (now : Instant) (command : ActivateRuleCommand)
      (stores : Stores Suite Artifact Compiled),
      ActivationAtomic S overrides now command stores := by
  intro h
  have hatomic := h _ _ _ _ sampleServices noOverrides 4 sampleActivation sampleStores
  have hraises : ((activateRule sampleServices noOverrides 4 sampleActivation).run
      sampleStores).1.toBool = false := by decide +kernel
  have hbefore : (sampleStores.rules.find? "r").map (fun r => r.entity.active) =
      some false := by decide +kernel
  have hafter : (((activateRule sampleServices noOverrides 4 sampleActivation).run
      sampleStores).2.rules.find? "r").map (fun r => r.entity.active) = some true := by
    decide +kernel
  cases hrun : (activateRule sampleServices noOverrides 4 sampleActivation).run sampleStores with
  | mk outcome stores' =>
    rw [hrun] at hraises hafter
    cases outcome with
    | ok _ => cases hraises
    | error error =>
      have hrule := congrArg (Option.map Prod.snd) (hatomic error stores' hrun).rule
      rw [Option.map_map, Option.map_map] at hrule
      have hflag := (hafter.symm.trans hrule).trans hbefore
      cases hflag

end Sample

end Lifecycle

end DqMadeEasy
