import SessionControl.Proofs.Policy.Charging
import SessionControl.Proofs.Policy.Frame

/-!
# Wiring a session again

Whatever has been installed before, an installation leaves the detection and forwarding rules of a
session as it would have left them right after the session was established: each wiring takes the
place of the one before it. The rules are compared without the enforcement and reporting rules that
are applied to them.

## Main definitions

- `RuleGraph.routing` — a graph without its enforcement and reporting rules
- `RuleGraph.withControl` — a graph to which the rules of the control plane have been added
- `Session.Unwired` — a session as it is before its first installation
- `Session.Wired`, `Session.Laid` — how its rules lie after an installation, and in any run
- `Session.Rewirable` — all that a wiring is read off is as it was at first

## Main statements

- `Session.Laid.rewirable` — a session whose rules of the control plane are there can be wired again
- `Session.Rewirable.wiredBy` — such sessions get the same wiring, but for their meters
- `Session.Rewirable.wired` — and their rules are then the same
-/

namespace SessionControl

open Attempt
open RuleGraph (Meter)

/-! ## Graphs without their limits and meters -/

/-- A detection rule without the enforcement and reporting rules that are applied to it. -/
def Pdr.routing (p : Pdr) : Pdr :=
  { p with qers := [], urrs := [] }

theorem Pdr.routing_eq_of_urrs {p q : Pdr} (h : q = { p with urrs := q.urrs }) :
    q.routing = p.routing := by
  rw [h]
  rfl

/-- The numbers of the rules that a wiring writes to are those of the bearer and the next ones of
the graph, in the order in which the rules of the control plane are added. -/
structure Wiring.RolesOf (w : Wiring) (g : RuleGraph) (b : Bearer) : Prop where
  uplink : w.uplink = b.uplinkPdr
  downlink : w.downlink = b.downlinkPdr
  fromControl : w.fromControl = g.lastPdr + 1
  toControl : w.toControl = g.lastPdr + 1 + 1
  downlinkFar : w.downlinkFar = b.downlinkFar
  toControlFar : w.toControlFar = g.lastFar + 1

theorem Wiring.RolesOf.sameRoles {w w' : Wiring} {g : RuleGraph} {b : Bearer}
    (h : w.RolesOf g b) (h' : w'.RolesOf g b) : w.SameRoles w' where
  uplink := h.uplink.trans h'.uplink.symm
  downlink := h.downlink.trans h'.downlink.symm
  fromControl := h.fromControl.trans h'.fromControl.symm
  toControl := h.toControl.trans h'.toControl.symm
  downlinkFar := h.downlinkFar.trans h'.downlinkFar.symm
  toControlFar := h.toControlFar.trans h'.toControlFar.symm

namespace RuleGraph

/-- A graph without its enforcement and reporting rules and the associations to them. -/
def routing (g : RuleGraph) : RuleGraph :=
  { g with
    pdrs := g.pdrs.map Pdr.routing
    qers := []
    urrs := []
    lastQer := 0
    lastUrr := 0 }

/-- A graph with the rules of the control plane: one that detects packets from it, which are
forwarded like those of the downlink, and one that detects packets for it, with its own forwarding
rule. -/
def withControl (g : RuleGraph) (downlinkFar : FarId) : RuleGraph :=
  ((g.withPdr .cpFunction downlinkFar).addFar .cpFunction).2.withPdr .access (g.lastFar + 1)

variable {g g' : RuleGraph} {w w' : Wiring}

theorem UrrsChanged.routing (h : g.UrrsChanged g') : g'.routing = g.routing := by
  obtain ⟨onUrrs, h⟩ := h
  rw [h]
  simp [RuleGraph.routing, Pdr.routing]

theorem QersChanged.routing (h : g.QersChanged g') : g'.routing = g.routing := by
  obtain ⟨onQers, h⟩ := h
  rw [h]
  simp [RuleGraph.routing, Pdr.routing]

theorem numbers_of_routing (h : g'.routing = g.routing) :
    g'.fars = g.fars ∧ g'.lastPdr = g.lastPdr ∧ g'.lastFar = g.lastFar := by
  have hfars : g'.routing.fars = g.routing.fars := by rw [h]
  have hlastPdr : g'.routing.lastPdr = g.routing.lastPdr := by rw [h]
  have hlastFar : g'.routing.lastFar = g.routing.lastFar := by rw [h]
  exact ⟨hfars, hlastPdr, hlastFar⟩

theorem routing_withControl (g : RuleGraph) (downlinkFar : FarId) :
    (g.withControl downlinkFar).routing = g.routing.withControl downlinkFar := by
  simp [routing, withControl, withPdr, addFar, Pdr.routing]

/-- What a wiring writes does not depend on the limits and meters of a rule. -/
theorem routing_mapRules (w : Wiring) (g : RuleGraph) :
    (g.mapRules w.pdr w.far).routing = (g.routing.mapRules w.pdr w.far).routing := by
  have hpdr : Pdr.routing ∘ w.pdr ∘ Pdr.routing = Pdr.routing ∘ w.pdr := by
    funext p
    rfl
  simp [routing, mapRules, hpdr]

/-- Wiring a graph again takes the place of the wiring before. -/
theorem routing_rewired (h : w.SameRoles w')
    (hg : g'.routing = (g.mapRules w'.pdr w'.far).routing) :
    (g'.mapRules w.pdr w.far).routing = (g.mapRules w.pdr w.far).routing := by
  rw [routing_mapRules, hg, ← routing_mapRules, mapRules_mapRules]
  have hpdr : Pdr.routing ∘ w.pdr ∘ w'.pdr = Pdr.routing ∘ w.pdr := by
    funext p
    exact Pdr.routing_eq_of_urrs (Wiring.pdr_pdr_of_roles h p)
  have hfar : w.far ∘ w'.far = w.far := by
    funext f
    exact Wiring.far_far_of_roles h f
  simp [routing, mapRules, hpdr, hfar]

theorem ingress_pdr?_mapRules (w : Wiring) (g : RuleGraph) (id : PdrId) :
    ((g.mapRules w.pdr w.far).pdr? id).map Pdr.ingress = (g.pdr? id).map Pdr.ingress := by
  rw [pdr?_mapRules w.pdr_id, Option.map_map]
  rfl

/-- What is read off a detection rule without its limits and meters is the same in graphs that
differ in these only. -/
theorem map_pdr?_of_routing {α : Type} {read : Pdr → α} (hread : ∀ p, read p.routing = read p)
    (h : g'.routing = g.routing) (id : PdrId) : (g'.pdr? id).map read = (g.pdr? id).map read := by
  have hrouting : ∀ g : RuleGraph, (g.routing.pdr? id).map read = (g.pdr? id).map read := by
    intro g
    have hid : ∀ p : Pdr, p.routing.id = p.id := fun _ => rfl
    have hfind : g.routing.pdr? id = (g.pdr? id).map Pdr.routing := find?_key_map hid id
    rw [hfind, Option.map_map]
    exact Option.map_congr fun p _ => hread p
  rw [← hrouting g', h, hrouting g]

theorem map_pdrs_of_routing {α : Type} {read : Pdr → α} (hread : ∀ p, read p.routing = read p)
    (h : g'.routing = g.routing) : g'.pdrs.map read = g.pdrs.map read := by
  have hrouting : ∀ g : RuleGraph, g.routing.pdrs.map read = g.pdrs.map read := by
    intro g
    rw [routing, List.map_map]
    exact List.map_congr_left fun p _ => hread p
  rw [← hrouting g', h, hrouting g]

theorem ingress_pdr?_of_routing (h : g'.routing = g.routing) (id : PdrId) :
    (g'.pdr? id).map Pdr.ingress = (g.pdr? id).map Pdr.ingress :=
  map_pdr?_of_routing (fun _ => rfl) h id

end RuleGraph

namespace Session

variable {s s₀ s₁ s' t₁ : Session} {config : Config} {d : Policy.Decision} {b b₀ b' : Bearer}
  {ms : List Meter} {w : Wiring}

/-! ## Before the first installation -/

/-- A session with its default bearer, and without the rules of the control plane. -/
structure Unwired (s : Session) (b : Bearer) : Prop where
  bearer : s.bearer = some b
  downlinkFar : (s.graph.far? b.downlinkFar).isSome
  fromControl : s.fromControlPdr = none
  toControl : s.toControlPdr = none
  toControlFar : s.toControlFar = none

theorem Established.unwired (h : s.Established) : ∃ b, s.Unwired b := by
  obtain ⟨id, index, imsi, name, ipv4, ipv6, node, ebi, peerEnd, h⟩ := h
  obtain rfl := Except.ok.inj h
  exact ⟨_, rfl, rfl, rfl, rfl, rfl⟩

/-- A session with the rules of the control plane. -/
def controlled (s : Session) (downlinkFar : FarId) : Session :=
  { s with
    graph := s.graph.withControl downlinkFar
    fromControlPdr := some (s.graph.lastPdr + 1)
    toControlPdr := some (s.graph.lastPdr + 1 + 1)
    toControlFar := some (s.graph.lastFar + 1) }

/-- The rules of the control plane are added to a session that has none of them. -/
theorem Unwired.result_createForwarding (h : s.Unwired b) :
    s.createForwarding.result = .ok (s.controlled b.downlinkFar) := by
  have hfrom : (s.ensureFromControlPdr b.downlinkFar).result = .ok { s with
      graph := s.graph.withPdr .cpFunction b.downlinkFar
      fromControlPdr := some (s.graph.lastPdr + 1) } := by
    rw [ensureFromControlPdr, if_neg (by simp [h.fromControl])]
    exact result_bind_eq_ok.mpr ⟨_, result_addPdr .cpFunction h.downlinkFar, rfl⟩
  simp only [createForwarding, result_bind_eq_ok, result_require_eq_ok]
  refine ⟨b, h.bearer, _, hfrom, ?_⟩
  rw [ensureToControlFar, if_neg (by simp [h.toControlFar]), ensureToControlPdr,
    if_neg (by simp [addFar, h.toControl])]
  refine result_bind_eq_ok.mpr ⟨_, result_addPdr .access ?_, rfl⟩
  rw [RuleGraph.far?, isSome_find?_key]
  simp [addFar, RuleGraph.addFar]

theorem Unwired.renewed (h : s.Unwired b) (config : Config) (d : Policy.Decision) :
    (s.renewed config d).Unwired b := by
  obtain ⟨hurrs, hrenewed⟩ := s.frame_renewed config d
  obtain ⟨hfars, -, -⟩ := RuleGraph.numbers_of_routing hurrs.routing
  refine ⟨?_, ?_, ?_, ?_, ?_⟩
  · rw [hrenewed]; exact h.bearer
  · rw [RuleGraph.far?, hfars]; exact h.downlinkFar
  · rw [hrenewed]; exact h.fromControl
  · rw [hrenewed]; exact h.toControl
  · rw [hrenewed]; exact h.toControlFar

/-! ## Whatever has been installed before -/

/-- What an established session keeps of its bearer: all but the local end, and that too if the node
picks the endpoints itself. -/
structure KeepsBearer (s₀ : Session) (b₀ b : Bearer) : Prop where
  eq : b = { b₀ with localEnd := b.localEnd }
  localEnd : ∀ n, s₀.node = some n → n.picksEndpoints = true → b.localEnd = b₀.localEnd

/-- Apart from its graph, its bearer and its policy, a session is as it was established, with the
rules of the control plane. -/
def Controlled (s₀ : Session) (b₀ b : Bearer) (s : Session) : Prop :=
  s = { s₀.controlled b₀.downlinkFar with
    bearer := some b
    rules := s.rules
    graph := s.graph
    rates := s.rates
    qos := s.qos
    changed := s.changed
    ratesQer := s.ratesQer }

/-- How an installation leaves a session: the wiring `w` was the last one, and as good as the
first one. -/
structure Wired (s₀ : Session) (b₀ b : Bearer) (w : Wiring) (s : Session) : Prop where
  bearer : s₀.KeepsBearer b₀ b
  frame : s₀.Controlled b₀ b s
  roles : w.RolesOf s₀.graph b₀
  routing : s.graph.routing =
    ((s₀.graph.withControl b₀.downlinkFar).mapRules w.pdr w.far).routing

/-- How the rules of a session lie in a run of messages: either nothing has been installed yet, or
the last installation has wired them. -/
inductive Laid (s₀ : Session) (b₀ : Bearer) (s : Session) : Prop
  | unwired (hs : s = { s₀ with rules := s.rules })
  | wired {b : Bearer} {w : Wiring} (h : Wired s₀ b₀ b w s)

/-- The rules of the control plane are there, and wiring the session comes to the same as wiring it
for the first time. -/
structure Rewirable (s₀ : Session) (b₀ b : Bearer) (s : Session) : Prop where
  bearer : s₀.KeepsBearer b₀ b
  frame : s₀.Controlled b₀ b s
  ingress : ∀ id, (s.graph.pdr? id).map Pdr.ingress =
    ((s₀.graph.withControl b₀.downlinkFar).pdr? id).map Pdr.ingress
  routing : ∀ w : Wiring, w.RolesOf s₀.graph b₀ → (s.graph.mapRules w.pdr w.far).routing =
    ((s₀.graph.withControl b₀.downlinkFar).mapRules w.pdr w.far).routing

theorem KeepsBearer.refl (s₀ : Session) (b₀ : Bearer) : s₀.KeepsBearer b₀ b₀ :=
  ⟨rfl, fun _ _ _ => rfl⟩

/-- In any run, adding the rules of the control plane leaves a session that can be wired as if for
the first time. -/
theorem Laid.rewirable (hs₀ : s₀.Unwired b₀) (h : Laid s₀ b₀ s)
    (hcreate : (s.renewed config d).createForwarding.result = .ok s₁) :
    ∃ b, s.bearer = some b ∧ Rewirable s₀ b₀ b s₁ ∧ s₁.rules = d.rules := by
  obtain ⟨hurrs, hrenewed⟩ := s.frame_renewed config d
  cases h with
  | unwired hs =>
    have hrouting : (s.renewed config d).graph.routing = s₀.graph.routing := by
      rw [hurrs.routing, hs]
    have hframe : s.renewed config d =
        { s₀ with rules := d.rules, graph := (s.renewed config d).graph } := by
      rw [hrenewed, hs]
    obtain ⟨-, hlastPdr, hlastFar⟩ := RuleGraph.numbers_of_routing hrouting
    have hunwired : s.Unwired b₀ := by
      rw [hs]
      exact ⟨hs₀.bearer, hs₀.downlinkFar, hs₀.fromControl, hs₀.toControl, hs₀.toControlFar⟩
    rw [(hunwired.renewed config d).result_createForwarding, Except.ok.injEq] at hcreate
    have hs₁ : s₁.graph.routing = (s₀.graph.withControl b₀.downlinkFar).routing := by
      rw [← hcreate, RuleGraph.routing_withControl, ← hrouting, ← RuleGraph.routing_withControl]
      rfl
    refine ⟨b₀, ?_, ⟨.refl s₀ b₀, ?_, ?_, ?_⟩, ?_⟩
    · rw [hs]; exact hs₀.bearer
    · rw [Controlled, ← hcreate, controlled, controlled, hlastPdr, hlastFar, hframe, hs₀.bearer]
    · exact RuleGraph.ingress_pdr?_of_routing hs₁
    · intro w _
      rw [RuleGraph.routing_mapRules, hs₁, ← RuleGraph.routing_mapRules]
    · rw [← hcreate, hframe]
      rfl
  | @wired b w h =>
    have hframe := h.frame
    rw [Controlled] at hframe
    have hbearer : s.bearer = some b := by rw [hframe]
    have hsame : (s.renewed config d).createForwarding.result = .ok (s.renewed config d) := by
      refine result_createForwarding_of_isSome (b := b) ?_ ?_ ?_ ?_
      · rw [hrenewed]; exact hbearer
      all_goals rw [hrenewed, hframe]; rfl
    obtain rfl := Except.ok.inj (hsame.symm.trans hcreate)
    have hrouting := hurrs.routing.trans h.routing
    refine ⟨b, hbearer, ⟨h.bearer, ?_, ?_, ?_⟩, ?_⟩
    · rw [Controlled, hrenewed, hframe]
    · intro id
      rw [RuleGraph.ingress_pdr?_of_routing hrouting, RuleGraph.ingress_pdr?_mapRules]
    · intro w' hw'
      exact RuleGraph.routing_rewired (hw'.sameRoles h.roles) hrouting
    · rw [hrenewed]

theorem PicksEnds.keepsBearer {fromControl : PdrId} {shared own : FTeid}
    (h : s.PicksEnds b fromControl shared own b') (hnode : s.node = s₀.node)
    (hkeeps : s₀.KeepsBearer b₀ b) : s₀.KeepsBearer b₀ b' := by
  cases h with
  | byNode _ _ _ => exact hkeeps
  | @here node _ localEnd hn _ hpicks _ =>
    refine ⟨?_, fun n hn₀ htrue => ?_⟩
    · rw [hkeeps.eq]
    · obtain rfl : n = node := Option.some.inj (hn₀.symm.trans (hnode.symm.trans hn))
      rw [hpicks] at htrue
      cases htrue

/-- The endpoints do not depend on what the local end of the bearer was before. -/
theorem PicksEnds.of_keepsBearer {fromControl : PdrId} {shared own : FTeid}
    (h : s.PicksEnds b fromControl shared own b') (hnode : s.node = s₀.node)
    (hkeeps : s₀.KeepsBearer b₀ b) : s.PicksEnds b₀ fromControl shared own b' := by
  have huplink : b.uplinkPdr = b₀.uplinkPdr := by rw [hkeeps.eq]
  cases h with
  | byNode hn hthere hpicks =>
    have hb : b = b₀ := by
      rw [hkeeps.eq, hkeeps.localEnd _ (hnode.symm.trans hn) hpicks]
    rw [hb] at hthere ⊢
    exact .byNode hn hthere hpicks
  | @here node rule localEnd hn hrule hpicks hend =>
    have hb : { b with localEnd } = { b₀ with localEnd } := by rw [hkeeps.eq]
    rw [huplink] at hrule
    rw [hb]
    exact .here hn hrule hpicks hend

namespace Rewirable

theorem roles (h : Rewirable s₀ b₀ b s) (hw : s.WiredBy config b ms w b') :
    w.RolesOf s₀.graph b₀ := by
  have hframe := h.frame
  rw [Controlled] at hframe
  have hb := h.bearer.eq
  have hfrom : s.fromControlPdr = some (s₀.graph.lastPdr + 1) := by rw [hframe]; rfl
  have hto : s.toControlPdr = some (s₀.graph.lastPdr + 1 + 1) := by rw [hframe]; rfl
  have hfar : s.toControlFar = some (s₀.graph.lastFar + 1) := by rw [hframe]; rfl
  exact {
    uplink := by rw [hw.uplink, hb]
    downlink := by rw [hw.downlink, hb]
    fromControl := Option.some.inj (hw.fromControl.symm.trans hfrom)
    toControl := Option.some.inj (hw.toControl.symm.trans hto)
    downlinkFar := by rw [hw.downlinkFar, hb]
    toControlFar := Option.some.inj (hw.toControlFar.symm.trans hfar) }

/-- After its wiring a session is as after its first one. -/
theorem wired (h : Rewirable s₀ b₀ b s) (hw : s.WiredBy config b ms w b')
    (hgraph : s'.graph.routing = (s.graph.mapRules w.pdr w.far).routing)
    (hs' : s' = { s with
      bearer := some b'
      graph := s'.graph
      rates := s'.rates
      qos := s'.qos
      changed := s'.changed
      ratesQer := s'.ratesQer }) : Wired s₀ b₀ b' w s' := by
  have hframe := h.frame
  rw [Controlled] at hframe
  refine ⟨hw.ends.keepsBearer ?_ h.bearer, ?_, h.roles hw, ?_⟩
  · rw [hframe]
    rfl
  · rw [Controlled, hs', hframe]
  · rw [hgraph, h.routing w (h.roles hw)]

/-- Two sessions that can be wired as if for the first time, with the same policy rules, get the
same wiring, each with its own meters. -/
theorem wiredBy {ms' : List Meter} (h : Rewirable s₀ b₀ b s) (h' : Rewirable s₀ b₀ b₀ t₁)
    (hrules : t₁.rules = s.rules) (hfar : (t₁.graph.far? b₀.downlinkFar).isSome)
    (hms' : ∀ m ∈ ms', (t₁.graph.urr? m.urr).isSome) (hw : s.WiredBy config b ms w b') :
    t₁.WiredBy config b₀ ms' { w with meters := ms'.map (·.urr) } b' := by
  have hframe := h.frame
  have hframe' := h'.frame
  rw [Controlled] at hframe hframe'
  have hroles := h.roles hw
  have hb := h.bearer.eq
  have hingress : ∀ id, (t₁.graph.pdr? id).map Pdr.ingress = (s.graph.pdr? id).map Pdr.ingress :=
    fun id => (h'.ingress id).trans (h.ingress id).symm
  have hdownlink : b.downlinkPdr = b₀.downlinkPdr := by rw [hb]
  have hdevice : t₁.device = s.device := by rw [hframe, hframe']; rfl
  have hindex : t₁.index = s.index := by rw [hframe, hframe']
  exact {
    uplink := hroles.uplink
    downlink := hroles.downlink
    downlinkThere := by
      have hthere := hw.downlinkThere
      rw [hdownlink, ← Option.isSome_map (f := Pdr.ingress), ← hingress, Option.isSome_map]
        at hthere
      exact hthere
    downlinkFar := hroles.downlinkFar
    downlinkFarThere := hfar
    fromControl := by rw [hroles.fromControl, hframe']; rfl
    toControl := by rw [hroles.toControl, hframe']; rfl
    toControlFar := by rw [hroles.toControlFar, hframe']; rfl
    device := hw.device.trans hdevice.symm
    deviceThere := by rw [hdevice]; exact hw.deviceThere
    peerHeader := by
      have hpeer := hw.peerHeader
      rw [hb] at hpeer
      exact hpeer
    ownHeader := by rw [hindex]; exact hw.ownHeader
    ends := by
      refine PicksEnds.of_keepsBearer ((PicksEnds.iff_of_ingress ?_ ?_ hingress).mpr hw.ends) ?_
        h.bearer
      · rw [hframe, hframe']
      · rw [hframe, hframe']
      · rw [hframe']; rfl
    meters := rfl
    metersThere := hms'
    uplinkFlows := by rw [hrules]; exact hw.uplinkFlows
    downlinkFlows := by rw [hrules]; exact hw.downlinkFlows }

end Rewirable

end Session

end SessionControl
