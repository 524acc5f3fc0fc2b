import Mathlib.Control.Basic
import SessionControl.Policy.Install
import SessionControl.Proofs.Trace.Result

/-!
# A policy and the roaming machine

A message of the policy server neither reads nor writes the machine of its session: in a session
with another machine it does the same to the rest, and leaves that other machine. It asks nothing
of the user plane and nothing of the peer, so the only collaborator it calls is the one that binds
pushed rules to bearers.

## Main definitions

- `Attempt.Quiet` — an attempt that calls no collaborator
- `Session.withMachine` — a session with another machine

## Main statements

- `Session.handlePolicy_withMachine` — a message does not depend on the machine
- `Session.quiet_compile`, `Session.calls_handlePolicy` — what a message calls
-/

namespace SessionControl

open Roaming (Machine)

/-! ## Attempts without calls -/

namespace Attempt

variable {α β : Type} {x : Attempt α} {f : α → Attempt β}

/-- An attempt that calls no collaborator, whatever comes of it. -/
def Quiet (x : Attempt α) : Prop :=
  x.run.calls = []

theorem quiet_pure (a : α) : Quiet (pure a) := rfl

theorem quiet_lift {x : Traced α} (h : x.calls = []) : Quiet (liftM x) :=
  (List.append_nil x.calls).trans h

theorem quiet_ofGraph (x : Except GraphFault α) : (ofGraph x).Quiet := by
  cases x <;> rfl

theorem quiet_require (fault : Fault) (o : Option α) : (require fault o).Quiet := by
  cases o <;> rfl

theorem quiet_ensure (fault : Fault) (condition : Bool) : (ensure fault condition).Quiet := by
  cases condition <;> rfl

theorem Quiet.bind (hx : x.Quiet) (hf : ∀ a, (f a).Quiet) : (x >>= f).Quiet := by
  unfold Quiet at hx hf ⊢
  cases hvalue : x.run.value with
  | ok a => rw [Traced.run_bind_of_ok hvalue, Traced.calls_bind, hx, hf a, List.append_nil]
  | error fault =>
    rw [Traced.run_bind_of_error hvalue, Traced.calls_bind, hx, Traced.calls_pure,
      List.append_nil]

end Attempt

namespace RuleGraph

theorem calls_removeMeter (g : RuleGraph) (id : UrrId) : (g.removeMeter id).calls = [] := by
  unfold removeMeter
  split
  · rfl
  · rfl

theorem calls_removeStaleMeters (g : RuleGraph) (groups : List UInt32) :
    (g.removeStaleMeters groups).calls = [] := by
  rw [removeStaleMeters]
  generalize g.staleMeters groups = ids
  induction ids generalizing g with
  | nil => rfl
  | cons id ids ih => rw [List.foldlM_cons, Traced.calls_bind, calls_removeMeter, ih]; rfl

theorem calls_ensureMeter (g : RuleGraph) (rules : List Policy.Rule) (group : UInt32) :
    (g.ensureMeter rules group).calls = [] := by
  unfold ensureMeter
  split
  · rfl
  · rfl

theorem calls_installMeters (config : MeterConfig) (rules : List Policy.Rule)
    (groups : List UInt32) (g : RuleGraph) : (installMeters config rules groups g).calls = [] := by
  induction groups generalizing g with
  | nil => rfl
  | cons group groups ih =>
    simp only [installMeters, Traced.calls_bind, calls_ensureMeter, ih, Traced.calls_pure,
      List.append_nil]

theorem quiet_applyMeters (uplink downlink : PdrId) (meters : List Meter) (g : RuleGraph) :
    (applyMeters uplink downlink meters g).Quiet := by
  induction meters generalizing g with
  | nil => exact Attempt.quiet_pure g
  | cons m ms ih =>
    refine (Attempt.quiet_lift rfl).bind fun _ => ?_
    refine (Attempt.quiet_ofGraph _).bind fun _ => ?_
    exact (Attempt.quiet_ofGraph _).bind fun g => ih g

end RuleGraph

namespace Session

open Attempt

/-! ## What a message calls -/

section Calls

variable (s : Session) (config : Config)

theorem calls_renewMeters (d : Policy.Decision) : (s.renewMeters config d).calls = [] := by
  unfold renewMeters
  split
  · rfl
  · simp only [RuleGraph.renewMeters, Traced.calls_bind, RuleGraph.calls_removeStaleMeters,
      RuleGraph.calls_installMeters, Traced.calls_pure, List.append_nil]

theorem quiet_addPdr (source : Interface) (far : FarId) : (s.addPdr source far).Quiet :=
  (quiet_ofGraph _).bind fun _ => quiet_pure _

theorem quiet_createForwarding : s.createForwarding.Quiet := by
  refine (quiet_require _ _).bind fun b => ?_
  refine Quiet.bind ?_ fun s => ?_
  · unfold ensureFromControlPdr
    split
    · exact quiet_pure s
    · exact (s.quiet_addPdr _ _).bind fun _ => quiet_pure _
  · unfold ensureToControlPdr
    split
    · exact quiet_pure _
    · exact (quiet_addPdr _ _ _).bind fun _ => quiet_pure _

theorem quiet_controlRules : s.controlRules.Quiet := by
  unfold controlRules
  split
  · rfl
  · rfl

theorem quiet_wireBearer (b : Bearer) : (s.wireBearer b).Quiet := by
  refine (quiet_ensure _ _).bind fun _ => (quiet_require _ _).bind fun header => ?_
  refine (quiet_ensure _ _).bind fun _ => (quiet_lift rfl).bind fun _ => ?_
  refine Quiet.bind ?_ fun address => quiet_pure _
  exact (quiet_ensure _ _).bind fun _ => quiet_pure _

theorem quiet_wireControl (rules : ControlRules) : (s.wireControl config rules).Quiet :=
  (quiet_require _ _).bind fun _ => (quiet_lift rfl).bind fun _ => quiet_pure _

theorem quiet_configureBearer : (s.configureBearer config).Quiet := by
  refine (quiet_require _ _).bind fun b => s.quiet_createForwarding.bind fun s => ?_
  refine s.quiet_controlRules.bind fun rules => (s.quiet_wireBearer b).bind fun s => ?_
  exact (s.quiet_wireControl config rules).bind fun s => quiet_pure _

theorem quiet_allocateEndpoints : s.allocateEndpoints.Quiet := by
  refine (quiet_require _ _).bind fun node => ?_
  split
  · refine (quiet_require _ _).bind fun uplink => ?_
    split
    · exact quiet_pure _
    · exact (quiet_require _ _).bind fun _ => (quiet_lift rfl).bind fun _ => quiet_pure _
  · rfl

theorem quiet_limitRates (b : Bearer) : (s.limitRates b).Quiet := by
  unfold limitRates
  split
  · exact quiet_pure _
  · refine (quiet_ofGraph _).bind fun _ => ?_
    exact (quiet_ofGraph _).bind fun _ => quiet_pure _

/-- An installation calls no collaborator. -/
theorem quiet_compile (d : Policy.Decision) : (s.compile config d).Quiet := by
  refine (quiet_lift (s.calls_renewMeters config d)).bind fun x => (quiet_lift rfl).bind fun s => ?_
  refine (s.quiet_configureBearer config).bind fun ⟨b, s⟩ => ?_
  refine s.quiet_allocateEndpoints.bind fun s => Quiet.bind ?_ fun s => ?_
  · exact (RuleGraph.quiet_applyMeters _ _ _ _).bind fun _ => quiet_pure _
  refine (quiet_lift rfl).bind fun s => (quiet_lift ?_).bind fun s => ?_
  · unfold updateRates
    split
    · rfl
    · rfl
  refine (quiet_lift ?_).bind fun s => s.quiet_limitRates b
  unfold updateQos
  split
  · rfl
  · rfl

theorem quiet_install (m : Policy.Message) : (s.install config m).Quiet := by
  refine (quiet_lift rfl).bind fun _ => (quiet_lift rfl).bind fun _ => ?_
  split
  · exact (quiet_lift rfl).bind fun _ => quiet_pure _
  · exact (s.quiet_compile config m.decision).bind fun s => quiet_pure _

/-- A pushed decision has its rules bound to bearers. No other message calls a collaborator. -/
theorem calls_handlePolicy (m : Policy.Message) :
    (s.handlePolicy config m).run.calls =
      if m.kind = .reauthorize then [.bind (m.decision.rules.map (·.name))] else [] := by
  unfold handlePolicy
  split <;> rename_i hkind <;> simp only [hkind, reduceCtorEq, ↓reduceIte]
  · exact (s.quiet_install config m).bind fun _ => quiet_pure _
  · exact (quiet_lift rfl : Quiet (liftM s.acknowledgeTermination)).bind fun _ => quiet_pure _
  · rfl
  · exact (quiet_lift rfl : Quiet (liftM (Traced.note (.updateIgnored s.imsi)))).bind
      fun _ => quiet_pure _

end Calls

/-! ## A session with another machine

Each stage of an installation reads fields in which the two sessions are alike, and writes fields
other than the machine. A stage that goes on from another one takes over what that one does. -/

/-- A session with another machine, and all else as it was. -/
def withMachine (machine : Machine) (s : Session) : Session :=
  { s with machine }

section Machine

variable (s : Session) (machine : Machine) (config : Config)

theorem withMachine_graph : (s.withMachine machine).graph = s.graph := rfl
theorem withMachine_bearer : (s.withMachine machine).bearer = s.bearer := rfl
theorem withMachine_rates : (s.withMachine machine).rates = s.rates := rfl
theorem withMachine_qos : (s.withMachine machine).qos = s.qos := rfl
theorem withMachine_ratesQer : (s.withMachine machine).ratesQer = s.ratesQer := rfl
theorem withMachine_isFor : (s.withMachine machine).isFor = s.isFor := rfl
theorem withMachine_refusal? : (s.withMachine machine).refusal? = s.refusal? := rfl

theorem withMachine_fromControlPdr :
    (s.withMachine machine).fromControlPdr = s.fromControlPdr := rfl

theorem withMachine_toControlPdr : (s.withMachine machine).toControlPdr = s.toControlPdr := rfl
theorem withMachine_toControlFar : (s.withMachine machine).toControlFar = s.toControlFar := rfl

theorem addPdr_withMachine (source : Interface) (far : FarId) :
    (s.withMachine machine).addPdr source far =
      Prod.map (fun a => a) (withMachine machine) <$> s.addPdr source far := by
  simp only [addPdr, map_bind, map_pure]
  rfl

theorem ensureFromControlPdr_withMachine (far : FarId) :
    (s.withMachine machine).ensureFromControlPdr far =
      withMachine machine <$> s.ensureFromControlPdr far := by
  unfold ensureFromControlPdr
  rw [withMachine_fromControlPdr]
  split
  · rfl
  · simp only [addPdr_withMachine, map_bind, map_pure, bind_map_left]
    rfl

theorem ensureToControlFar_withMachine :
    (s.withMachine machine).ensureToControlFar = s.ensureToControlFar.withMachine machine := by
  unfold ensureToControlFar
  rw [withMachine_toControlFar]
  split
  · rfl
  · rfl

theorem ensureToControlPdr_withMachine :
    (s.withMachine machine).ensureToControlPdr =
      withMachine machine <$> s.ensureToControlPdr := by
  unfold ensureToControlPdr
  rw [withMachine_toControlPdr]
  split
  · rfl
  · simp only [addPdr_withMachine, map_bind, map_pure, bind_map_left]
    rfl

theorem createForwarding_withMachine :
    (s.withMachine machine).createForwarding =
      withMachine machine <$> s.createForwarding := by
  simp only [createForwarding, ensureFromControlPdr_withMachine, ensureToControlFar_withMachine,
    ensureToControlPdr_withMachine, map_bind, bind_map_left]
  rfl

theorem controlRules_withMachine : (s.withMachine machine).controlRules = s.controlRules := rfl

theorem wireBearer_withMachine (b : Bearer) :
    (s.withMachine machine).wireBearer b = withMachine machine <$> s.wireBearer b := by
  simp only [wireBearer, map_bind, map_pure]
  rfl

theorem wireControl_withMachine (rules : ControlRules) :
    (s.withMachine machine).wireControl config rules =
      withMachine machine <$> s.wireControl config rules := by
  simp only [wireControl, map_bind, map_pure]
  rfl

theorem configureBearer_withMachine :
    (s.withMachine machine).configureBearer config =
      Prod.map (fun a => a) (withMachine machine) <$> s.configureBearer config := by
  simp only [configureBearer, createForwarding_withMachine, wireBearer_withMachine,
    wireControl_withMachine, controlRules_withMachine, map_bind, map_pure, bind_map_left]
  rfl

theorem allocateEndpoints_withMachine :
    (s.withMachine machine).allocateEndpoints =
      withMachine machine <$> s.allocateEndpoints := by
  simp only [allocateEndpoints, map_bind]
  refine bind_congr fun node => ?_
  rw [withMachine_bearer, withMachine_fromControlPdr, withMachine_toControlPdr]
  split
  · simp only [map_bind]
    refine bind_congr fun uplink => ?_
    split
    · rfl
    · simp only [map_bind, map_pure]
      rfl
  · rfl

theorem renewMeters_withMachine (d : Policy.Decision) :
    (s.withMachine machine).renewMeters config d =
      Prod.map (fun a => a) (withMachine machine) <$> s.renewMeters config d := by
  unfold renewMeters
  rw [withMachine_isFor]
  split
  · rfl
  · simp only [map_bind, map_pure]
    rfl

theorem storeRules_withMachine (rules : List Policy.Rule) :
    (s.withMachine machine).storeRules rules =
      withMachine machine <$> s.storeRules rules := by
  simp only [storeRules, map_bind, map_pure]
  rfl


theorem applyMeters_withMachine (b : Bearer) (meters : List RuleGraph.Meter) :
    (s.withMachine machine).applyMeters b meters =
      withMachine machine <$> s.applyMeters b meters := by
  simp only [applyMeters, map_bind, map_pure]
  rfl

theorem applyFlows_withMachine (b : Bearer) :
    (s.withMachine machine).applyFlows b = withMachine machine <$> s.applyFlows b := by
  simp only [applyFlows, map_bind, map_pure]
  rfl

theorem updateRates_withMachine (rates : RatePair) :
    (s.withMachine machine).updateRates rates = withMachine machine <$> s.updateRates rates := by
  unfold updateRates
  rw [withMachine_rates]
  split
  · rfl
  · rfl

theorem updateQos_withMachine (qos : Policy.Qos) :
    (s.withMachine machine).updateQos qos = withMachine machine <$> s.updateQos qos := by
  unfold updateQos
  rw [withMachine_qos]
  split
  · rfl
  · rfl

theorem dropRatesQer_withMachine :
    (s.withMachine machine).dropRatesQer = s.dropRatesQer.withMachine machine := by
  unfold dropRatesQer
  rw [withMachine_ratesQer]
  split
  · rfl
  · rfl

theorem ensureRatesQer_withMachine :
    (s.withMachine machine).ensureRatesQer =
      Prod.map (fun a => a) (withMachine machine) s.ensureRatesQer := by
  unfold ensureRatesQer
  rw [withMachine_ratesQer, withMachine_graph]
  split
  · rfl
  · rfl

theorem limitRates_withMachine (b : Bearer) :
    (s.withMachine machine).limitRates b = withMachine machine <$> s.limitRates b := by
  unfold limitRates
  rw [withMachine_rates]
  split
  · rw [dropRatesQer_withMachine]
    rfl
  · rw [ensureRatesQer_withMachine]
    simp only [map_bind, map_pure]
    rfl

/-- An installation does the same in a session with another machine. -/
theorem compile_withMachine (d : Policy.Decision) :
    (s.withMachine machine).compile config d = withMachine machine <$> s.compile config d := by
  simp only [compile, renewMeters_withMachine, storeRules_withMachine, configureBearer_withMachine,
    allocateEndpoints_withMachine, applyMeters_withMachine, applyFlows_withMachine,
    updateRates_withMachine, updateQos_withMachine, limitRates_withMachine, map_bind,
    bind_map_left, liftM_map, Prod.map]

theorem install_withMachine (m : Policy.Message) :
    (s.withMachine machine).install config m =
      Prod.map (fun a => a) (withMachine machine) <$> s.install config m := by
  unfold install
  rw [withMachine_refusal?]
  simp only [map_bind]
  refine bind_congr fun _ => bind_congr fun _ => ?_
  split
  · rfl
  · simp only [compile_withMachine, bind_map_left, map_bind, map_pure]
    rfl

theorem reauthorize_withMachine (d : Policy.Decision) :
    (s.withMachine machine).reauthorize d = withMachine machine <$> s.reauthorize d := by
  simp only [reauthorize, storeRules_withMachine, bind_map_left, map_bind, map_pure]
  rfl

/-- A message does the same in a session with another machine, with the same trace. -/
theorem handlePolicy_withMachine (m : Policy.Message) :
    (s.withMachine machine).handlePolicy config m =
      Prod.map (fun a => a) (withMachine machine) <$> s.handlePolicy config m := by
  unfold handlePolicy
  split
  · simp only [install_withMachine, bind_map_left, map_bind, map_pure]
    rfl
  · simp only [map_bind, map_pure]
    rfl
  · simp only [reauthorize_withMachine, liftM_map, bind_map_left, map_bind, map_pure]
    rfl
  · rfl

end Machine

end Session

end SessionControl
