import SessionControl.Proofs.Policy.FlowLimit
import SessionControl.Proofs.Policy.Shape

/-!
# Exempt sessions

A session of the voice service is not charged. Its decisions are installed whatever the policy
server reports and however many flows they have, and neither the session nor anything that is called
tells afterwards what was reported. An installation leaves the meters of such a session alone: those
that are there stay, with the rules that they apply to, and no run of messages adds one.

## Main definitions

- `RuleGraph.metered` — the meters that apply to each detection rule
- `Policy.BindingEngine.AddsNoMeter` — an engine leaves sessions of a network without meters

## Main statements

- `Session.install_eq_of_voice` — an installation of an exempt session looks at the decision only
- `Session.metered_compile` — it leaves the meters alone
- `Policy.BindingEngine.unmetered_of_run` — no meter is added in a run
- `Session.exempt_of_voice` — all of it
-/

namespace SessionControl

open Attempt

namespace RuleGraph

/-! ## Meters of detection rules -/

/-- The meters that apply to each detection rule. -/
def metered (g : RuleGraph) : List (PdrId × List UrrId) :=
  g.pdrs.map fun p => (p.id, p.urrs)

variable {g g' : RuleGraph}

theorem metered_updatePdr {f : Pdr → Pdr} (hf : ∀ p, ((f p).id, (f p).urrs) = (p.id, p.urrs))
    (g : RuleGraph) (id : PdrId) : (g.updatePdr id f).metered = g.metered := by
  rw [metered, updatePdr, map_updateFirst]
  · rfl
  · exact fun p _ => hf p

@[simp]
theorem metered_forwardInto (g : RuleGraph) (far : FarId) (header : OuterHeader) :
    (g.forwardInto far header).metered = g.metered := rfl

@[simp]
theorem metered_matchDevice (g : RuleGraph) (pdr : PdrId) (address : UeAddress) :
    (g.matchDevice pdr address).metered = g.metered := by
  rw [matchDevice, metered_updatePdr]
  exact fun _ => rfl

@[simp]
theorem metered_receiveAt (g : RuleGraph) (pdr : PdrId) (fTeid : FTeid) :
    (g.receiveAt pdr fTeid).metered = g.metered := by
  rw [receiveAt, metered_updatePdr]
  exact fun _ => rfl

@[simp]
theorem metered_matchSolicitations (g : RuleGraph) (pdr : PdrId) :
    (g.matchSolicitations pdr).metered = g.metered := by
  rw [matchSolicitations, metered_updatePdr]
  intro p
  split <;> rfl

theorem metered_associateQer {pdr : PdrId} {qer : QerId} (h : g.associateQer pdr qer = .ok g') :
    g'.metered = g.metered := by
  obtain ⟨-, -, rfl⟩ := associateQer_eq_ok.mp h
  rw [metered_updatePdr]
  exact fun _ => rfl

theorem QersChanged.metered (h : g.QersChanged g') : g'.metered = g.metered := by
  obtain ⟨onQers, h⟩ := h
  rw [h]
  simp [RuleGraph.metered]

/-- Rules that are added have no meter. -/
theorem Grown.metered (h : g.Grown g') :
    ∃ new : List PdrId, g'.metered = g.metered ++ new.map (·, []) := by
  obtain ⟨new, hpdrs, hurrs⟩ := h.pdrs
  refine ⟨new.map (·.id), ?_⟩
  have hnew : new.map (fun p => (p.id, p.urrs)) = (new.map (·.id)).map (·, []) := by
    rw [List.map_map]
    refine List.map_congr_left fun p hp => ?_
    rw [hurrs p hp]
    rfl
  rw [RuleGraph.metered, hpdrs, List.map_append, hnew]
  rfl

end RuleGraph

namespace Session

variable {s s' : Session} {config : Config} {d : Policy.Decision} {m m' : Policy.Message}
  {b : Bearer} {answer : Option UInt32} {name : String}

/-! ## Installations of an exempt session -/

theorem isFor_iff : s.isFor name = true ↔ ∃ n, s.name = some n ∧ n.toLower = name.toLower := by
  have hlower : ∀ n : String, n.toLower.toList = n.toList.map Char.toLower :=
    fun _ => String.toList_map
  rw [isFor]
  cases s.name with
  | none => simp
  | some n =>
    rw [beq_iff_eq, ← hlower, ← hlower, String.toList_inj]
    simp

/-- The decision of an exempt session is never refused. -/
theorem refusal?_of_voice (hvoice : s.isFor config.voiceNetwork = true) (m : Policy.Message) :
    s.refusal? config m = none := by
  rw [refusal?, if_pos hvoice]

/-- What else is in a message does not matter. -/
theorem install_eq_of_voice (hvoice : s.isFor config.voiceNetwork = true)
    (h : m.decision = m'.decision) : s.install config m = s.install config m' := by
  simp only [install, refusal?_of_voice hvoice, h]

theorem metered_wireForwarding (hok : (s.wireForwarding config b).result = .ok s') :
    s'.graph.metered = s.graph.metered := by
  simp only [wireForwarding, wireBearer, wireControl, result_bind_eq_ok, result_pure,
    Except.ok.injEq] at hok
  obtain ⟨_, -, _, ⟨_, -, _, -, _, -, _, -, _, -, rfl⟩, _, -, _, -, rfl⟩ := hok
  simp

theorem metered_allocateEndpoints (hok : s.allocateEndpoints.result = .ok s') :
    s'.graph.metered = s.graph.metered := by
  simp only [allocateEndpoints, result_bind_eq_ok] at hok
  obtain ⟨node, -, hrest⟩ := hok
  split at hrest
  · simp only [result_bind_eq_ok] at hrest
    obtain ⟨rule, -, hrest⟩ := hrest
    split at hrest
    · obtain rfl := Except.ok.inj hrest
      simp
    · simp only [result_bind_eq_ok, result_pure, Except.ok.injEq] at hrest
      obtain ⟨localEnd, -, _, -, rfl⟩ := hrest
      simp
  · cases hrest

theorem metered_applyFlows (s : Session) (b : Bearer) :
    (s.applyFlows b).value.graph.metered = s.graph.metered := by
  simp only [applyFlows, Traced.value_bind, Traced.value_pure]
  rw [RuleGraph.metered_updatePdr, RuleGraph.metered_updatePdr] <;> exact fun _ => rfl

/-- Wiring a session without meters leaves the rules with those that they have. -/
theorem metered_wire (hok : (s.wire config b []).result = .ok s') :
    s'.graph.metered = s.graph.metered := by
  simp only [wire, wireDetection, result_bind_eq_ok, result_lift, Except.ok.injEq] at hok
  obtain ⟨s₁, hforwarding, s₂, hends, s₃, hmeters, rfl⟩ := hok
  obtain rfl : s₂ = s₃ := Except.ok.inj hmeters
  rw [metered_applyFlows, metered_allocateEndpoints hends, metered_wireForwarding hforwarding]

theorem metered_limitRates (hok : (s.limitRates b).result = .ok s') :
    s'.graph.metered = s.graph.metered := by
  cases hzero : s.rates.isZero with
  | true =>
    rw [limitRates, if_pos hzero] at hok
    obtain rfl := Except.ok.inj hok
    exact (dropRatesQer_eq s).1.metered
  | false =>
    obtain ⟨g, ⟨g₁, hdown, hup⟩, rfl⟩ := (result_limitRates_of_pos hzero).mp hok
    calc
      g.metered = g₁.metered := RuleGraph.metered_associateQer hup
      _ = s.ensureRatesQer.2.graph.metered := RuleGraph.metered_associateQer hdown
      _ = s.graph.metered := (ensureRatesQer_frame s).1.metered

theorem renewed_of_voice (hvoice : s.isFor config.voiceNetwork = true) (d : Policy.Decision) :
    s.renewed config d = { s with rules := d.rules } := by
  rw [renewed, value_renewMeters_of_voice hvoice]

/-- An installation of an exempt session changes neither the reporting rules nor the rules that
they apply to. Detection rules may be added, and these are not metered. -/
theorem metered_compile (hvoice : s.isFor config.voiceNetwork = true)
    (hok : (s.compile config d).result = .ok s') :
    s'.graph.metering = s.graph.metering ∧
      ∃ new : List PdrId, s'.graph.metered = s.graph.metered ++ new.map (·, []) := by
  constructor
  · obtain ⟨-, -, -, -, -, hmetering, -⟩ := layout_compile hok
    rw [hmetering, renewed_of_voice hvoice]
  · obtain ⟨b, s₁, s₂, -, hcreate, hwire, hlimit⟩ := result_compile.mp hok
    rw [renewed_of_voice hvoice] at hcreate
    rw [value_renewMeters_of_voice hvoice] at hwire
    obtain ⟨new, hnew⟩ := (grown_createForwarding hcreate).1.metered
    have hlimited := metered_limitRates hlimit
    rw [graph_storeQuality] at hlimited
    exact ⟨new, by rw [hlimited, metered_wire hwire, hnew]⟩

/-- Neither does any message of the policy server change the reporting rules. -/
theorem metering_handlePolicy (hvoice : s.isFor config.voiceNetwork = true)
    (hok : (s.handlePolicy config m).result = .ok (answer, s')) :
    s'.graph.metering = s.graph.metering := by
  cases haccepts : s.accepts config m with
  | true => exact (metered_compile hvoice (handlePolicy_of_accepts hok haccepts)).1
  | false => rw [handlePolicy_of_not_accepts hok haccepts]

end Session

/-! ## Runs -/

namespace Policy.BindingEngine

variable {Memory : Type} {engine : BindingEngine Memory} {config : Config}
  {x y : Memory × Session} {m : Message} {ms : List Message} {answer : Option UInt32}
  {name : String}

/-- A session for a network that has no reporting rules, and that has been given the numbers of
such rules up to `last`. -/
structure Unmetered (name : String) (last : UrrId) (s : Session) : Prop where
  isFor : s.isFor name = true
  urrs : s.graph.urrs = []
  lastUrr : s.graph.lastUrr = last

/-- The engine leaves sessions for a network without reporting rules, and does not move them to
another network. -/
def AddsNoMeter (engine : BindingEngine Memory) (name : String) : Prop :=
  ∀ memory s x last, (engine memory s).result = .ok x → Unmetered name last s →
    Unmetered name last x.2

theorem Unmetered.handlePolicy {s s' : Session} {last : UrrId}
    (h : Unmetered config.voiceNetwork last s)
    (hok : (s.handlePolicy config m).result = .ok (answer, s')) :
    Unmetered config.voiceNetwork last s' := by
  obtain ⟨hurrs, hlast⟩ := Prod.mk.inj (Session.metering_handlePolicy h.isFor hok)
  exact ⟨(Session.isFor_handlePolicy hok _).trans h.isFor, hurrs.trans h.urrs,
    hlast.trans h.lastUrr⟩

/-- A run adds no reporting rule to an exempt session that has none. -/
theorem unmetered_of_run {last : UrrId} (hengine : engine.AddsNoMeter config.voiceNetwork)
    (h : Unmetered config.voiceNetwork last x.2) (hok : (engine.run config ms x).result = .ok y) :
    Unmetered config.voiceNetwork last y.2 := by
  refine inv_run ?_ ?_ h hok
  · exact fun memory s z => hengine memory s z last
  · exact fun _ _ _ _ hpolicy hs => hs.handlePolicy hpolicy

end Policy.BindingEngine

namespace Session

variable {s : Session} {config : Config} {network : String}

/-- Take a session for the voice network, whose name is compared without regard to the case of ASCII
letters. Messages with the same decision are installed in the same way, whatever they report and
however many flows the decision has: in the same fault, or with success and the same session. The
reporting rules and their counter are then as before, and so are the ones that apply to each
detection rule; a new detection rule has none. So no run of messages adds a reporting rule to such a
session if it has none, provided that the engine that binds pushed rules does not. -/
theorem exempt_of_voice (hname : s.name = some network)
    (hvoice : network.toLower = config.voiceNetwork.toLower) :
    (∀ m m' : Policy.Message, m.decision = m'.decision →
      s.install config m = s.install config m' ∧
      ((∃ fault, (s.install config m).result = .error fault) ∨
        ∃ s', (s.install config m).result = .ok (2001, s') ∧
          s'.graph.urrs = s.graph.urrs ∧ s'.graph.lastUrr = s.graph.lastUrr ∧
          ∃ new : List PdrId, s'.graph.pdrs.map (fun p => (p.id, p.urrs)) =
            s.graph.pdrs.map (fun p => (p.id, p.urrs)) ++ new.map (·, []))) ∧
    ∀ {Memory : Type} (engine : Policy.BindingEngine Memory),
      engine.AddsNoMeter config.voiceNetwork → s.graph.urrs = [] →
      ∀ (ms : List Policy.Message) (memory : Memory) (x : Memory × Session),
        (engine.run config ms (memory, s)).result = .ok x →
        x.2.graph.urrs = [] ∧ x.2.graph.lastUrr = s.graph.lastUrr := by
  have hexempt : s.isFor config.voiceNetwork = true := isFor_iff.mpr ⟨network, hname, hvoice⟩
  constructor
  · intro m m' hdecision
    refine ⟨install_eq_of_voice hexempt hdecision, ?_⟩
    cases hresult : (s.install config m).result with
    | error fault => exact .inl ⟨fault, rfl⟩
    | ok x =>
      obtain ⟨code, s'⟩ := x
      rw [result_install, refusal?_of_voice hexempt] at hresult
      obtain ⟨rfl, hcompile⟩ := hresult
      obtain ⟨hmetering, hnew⟩ := metered_compile hexempt hcompile
      obtain ⟨hurrs, hlast⟩ := Prod.mk.inj hmetering
      exact .inr ⟨s', rfl, hurrs, hlast, hnew⟩
  · intro Memory engine hengine hnone ms memory x hok
    obtain ⟨-, hurrs, hlast⟩ := Policy.BindingEngine.unmetered_of_run hengine
      ⟨hexempt, hnone, rfl⟩ hok
    exact ⟨hurrs, hlast⟩

/-- A session for the voice network. -/
def calling : Session :=
  { attached with name := some "iMs" }

/-- A decision with too many flows that comes with an error. -/
def crowdedFailure : Policy.Message :=
  { Policy.BindingEngine.crowded with resultCode := 5003, error := some 4010 }

/-- Rules of two rating groups that are installed and others that are pushed, in a run that begins
with the error. -/
def voiceMessages : List Policy.Message :=
  [crowdedFailure, { metering [10] with kind := .reauthorize }, metering [10, 20]]

theorem exempt_of_voice_calling :
    (∃ s', (calling.install {} Policy.BindingEngine.crowded).result = .ok (2001, s') ∧
      (calling.install {} crowdedFailure).result = .ok (2001, s') ∧ s'.graph.urrs = []) ∧
    ∃ x, (Policy.BindingEngine.noting.run {} voiceMessages ([], calling)).result = .ok x ∧
      x.2.rules = (metering [10, 20]).decision.rules ∧ x.2.graph.urrs = [] := by
  have hengine : Policy.BindingEngine.noting.AddsNoMeter ({} : Config).voiceNetwork := by
    intro memory s x last hbind hs
    obtain rfl := Except.ok.inj hbind
    exact ⟨hs.isFor, hs.urrs, hs.lastUrr⟩
  have hfor : calling.isFor ({} : Config).voiceNetwork = true := by decide
  obtain ⟨network, hname, hvoice⟩ := isFor_iff.mp hfor
  obtain ⟨hinstall, hrun⟩ := exempt_of_voice hname hvoice
  constructor
  · obtain ⟨hsame, ⟨fault, hfault⟩ | ⟨s', hs', hurrs, -⟩⟩ :=
      hinstall Policy.BindingEngine.crowded crowdedFailure rfl
    · have hok : (calling.install {} Policy.BindingEngine.crowded).result.isOk = true := by
        decide +kernel
      rw [hfault] at hok
      cases hok
    · exact ⟨s', hs', hsame ▸ hs', hurrs⟩
  · have hrules : (Policy.BindingEngine.noting.run {} voiceMessages ([], calling)).result.map
        (·.2.rules) = .ok (metering [10, 20]).decision.rules := by decide +kernel
    cases hx : (Policy.BindingEngine.noting.run {} voiceMessages ([], calling)).result with
    | error fault =>
      rw [hx] at hrules
      cases hrules
    | ok x =>
      rw [hx] at hrules
      obtain ⟨hurrs, -⟩ := hrun Policy.BindingEngine.noting hengine rfl voiceMessages [] x hx
      exact ⟨x, rfl, Except.ok.inj hrules, hurrs⟩

end Session

end SessionControl
