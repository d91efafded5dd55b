import DqMadeEasy.Dispatch.Reports

/-!
# Relaying the response of an engine

The orchestrator relays a response when its report callback is a coroutine function and it has no
progress callback: its last request is then the report of the response. The router neither awaits
the orchestrator nor passes such callbacks. It reads the coroutine as a response and raises; and
were the coroutine handed to `asyncio.run`, the progress callback would stop it before the report of
the response.
-/

namespace DqMadeEasy

namespace Dispatch

open Worker

/-- A report that carries the verdict, the failure code and the number of diagnostics of a
response. -/
def Carries [PyRuntime] (exchange : Exchange) (runId : Text) (response : Dict) : Prop :=
  ∃ payload, exchange.request = .report runId payload ∧
    payload.newStatus = responseStatus response ∧
    payload.failureCode = responseFailureCode response ∧
    pyLen ((response.get "diagnostics").orElse (.list [])) = .ok payload.violationCount

theorem Carries.endsRun [PyRuntime] {exchange : Exchange} {runId : Text} {response : Dict}
    (h : Carries exchange runId response) : exchange.endsRun runId = true := by
  obtain ⟨payload, hrequest, hstatus, _⟩ := h
  rw [Exchange.endsRun, Exchange.reported, hrequest]
  dsimp only
  rw [if_pos rfl, hstatus, responseStatus]
  split <;> rfl

namespace Fails

variable {World α β : Type}

end Fails

section Router

variable {World Frame : Type} (V : Services World Frame) (config : Config) [PyRuntime] [PyNumerals]

def Relays (rawMessage : Text) (w : Wire World) (response : Dict) : Prop :=
  ∃ w' sent runId, (processDispatchMessage V config rawMessage).run w = (.ok (), w') ∧
    w'.exchanges = w.exchanges ++ sent ∧ ∃ exchange ∈ sent, Carries exchange runId response

theorem not_relays (rawMessage : Text) (w : Wire World) (response : Dict) :
    ¬Relays V config rawMessage w response := by
  rintro ⟨w', sent, runId, h, hsent, exchange, hmem, hcarries⟩
  have hquiet := quiet_processDispatchMessage V config rawMessage w.exchanges w
    (OnlyRunning.refl w.exchanges)
  rw [h] at hquiet
  obtain ⟨sent', hsent', hends⟩ := hquiet
  rw [hsent] at hsent'
  rw [List.append_cancel_left hsent'] at hmem
  have hopen := hends exchange hmem runId
  rw [hcarries.endsRun] at hopen
  cases hopen

/-- A message for another engine raises an `AttributeError`, unless it has a grouped scope. -/
theorem run_engine_dispatch {rawMessage : Text} {payload : Dict}
    (hpayload : parseDispatchPayload V.json rawMessage = .ok payload)
    (hengine : engineTypeOf payload ∈ supportedExecutionEngines.filter (· ≠ "gx".toList))
    (hshape : executionShapeOf payload ≠ "grouped_scope".toList) (w : Wire World) :
    ((processDispatchMessage V config rawMessage).run w).1 =
      .error (.builtin "AttributeError" "'coroutine' object has no attribute 'get'") := by
  rw [processDispatchMessage, hpayload, Effect.run_bind_ok (Effect.run_ofExcept _ _)]
  have hcorrelation : ∃ correlationId w',
      (correlationIdOf V payload).run w = (.ok correlationId, w') := by
    rw [correlationIdOf]
    split
    · exact ⟨_, _, rfl⟩
    · exact ⟨_, _, rfl⟩
  obtain ⟨correlationId, w', hrun⟩ := hcorrelation
  rw [Effect.run_bind_ok hrun, routePayload, if_neg hshape, if_pos hengine,
    run_processSparkExpectationsDispatchMessage]

/-- A message for another engine raises an `AttributeError` unless it has a grouped scope, and it
relays no response in either case. -/
theorem engine_dispatch_never_relays (rawMessage : Text) (payload : Dict)
    (hpayload : parseDispatchPayload V.json rawMessage = .ok payload)
    (hengine : engineTypeOf payload ∈ supportedExecutionEngines.filter (· ≠ "gx".toList))
    (w : Wire World) :
    (executionShapeOf payload ≠ "grouped_scope".toList →
      ((processDispatchMessage V config rawMessage).run w).1 =
        .error (.builtin "AttributeError" "'coroutine' object has no attribute 'get'")) ∧
    ∀ response, ¬Relays V config rawMessage w response :=
  ⟨fun hshape => run_engine_dispatch V config hpayload hengine hshape w,
    not_relays V config rawMessage w⟩

end Router

section Example

local instance sampleRuntimeRelay : PyRuntime := sampleRuntimeDispatch

local instance sampleNumeralsRelay : PyNumerals := sampleNumeralsDispatch

theorem sampleEngineMessage_parses :
    parseDispatchPayload sampleServices.json sampleEngineMessage = .ok sampleEnginePayload := by
  rfl

theorem engine_dispatch_never_relays_sample :
    ((processDispatchMessage sampleServices sampleConfig sampleEngineMessage).run sampleWire).1 =
      .error (.builtin "AttributeError" "'coroutine' object has no attribute 'get'") :=
  (engine_dispatch_never_relays sampleServices sampleConfig sampleEngineMessage sampleEnginePayload
    sampleEngineMessage_parses (by decide +kernel) sampleWire).1 (by decide +kernel)

/-- A message that the engine executes and whose response is not relayed. -/
theorem engine_dispatch_counterexample :
    ¬∀ rawMessage payload rulePayload response (w : Wire Unit),
      parseDispatchPayload sampleServices.json rawMessage = .ok payload →
      engineTypeOf payload ∈ supportedExecutionEngines.filter (· ≠ "gx".toList) →
      payload.get "rule_payload" = .dict rulePayload →
      (∀ outputDir config world, (sampleServices.executeEngineRulePayload (engineTypeOf payload)
        rulePayload outputDir config world).1 = .ok (.dict response)) →
      Relays sampleServices sampleConfig rawMessage w response := by
  intro h
  exact not_relays sampleServices sampleConfig sampleEngineMessage sampleWire _
    (h sampleEngineMessage sampleEnginePayload [sampleText "id" "rule"] _ sampleWire
      sampleEngineMessage_parses
      (by decide +kernel) rfl (fun _ _ _ => rfl))

end Example

end Dispatch

end DqMadeEasy
