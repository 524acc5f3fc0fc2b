import SessionControl.Policy.Install
import SessionControl.Proofs.RuleGraph.Numbering
import SessionControl.Proofs.Trace.Result

/-!
# The wiring of a session

An installation writes to the rules of the default bearer and to those of the control plane in
several steps, and one rule may have more than one part. The steps come to one change of each
rule, in which the last write wins. What the change writes is read off the session, and not off
anything that it changes.

## Main definitions

- `Wiring` — what an installation writes to detection and forwarding rules
- `Wiring.pdr`, `Wiring.far` — the change of one rule
- `Session.WiredBy` — what is read off a session, and what has to be there
- `Session.wire` — the steps of an installation between its meters and its rates
- `RuleGraph.outline` — a graph without what the wiring writes to its rules

## Main statements

- `Session.result_wire` — the steps succeed exactly if the session can be wired, and then change
  each rule once
- `Wiring.pdr_pdr`, `Wiring.far_far` — wiring a rule a second time changes nothing
- `Session.frame_wire` — what wiring leaves alone
-/

namespace SessionControl

open Attempt
open RuleGraph (Meter)

/-! ## Changes of one rule -/

attribute [ext] Pdr

namespace Pdr

/-- A rule of the default bearer matches the addresses of the device. -/
def matchDevice (uplink downlink : PdrId) (device : UeAddress) (p : Pdr) : Pdr :=
  { p with
    ueAddress :=
      if p.id = uplink then some device
      else if p.id = downlink then some { device with isDestination := true }
      else p.ueAddress }

/-- Flows with the one of router solicitations, which is added if it is missing. -/
def withSolicitations (flows : List FlowFilter) : List FlowFilter :=
  if flows.any (·.description == routerSolicitation) then flows
  else flows ++ [.described routerSolicitation]

/-- The rule for the control plane matches router solicitations. -/
def matchSolicitations (toControl : PdrId) (p : Pdr) : Pdr :=
  { p with flows := if p.id = toControl then withSolicitations p.flows else p.flows }

/-- The uplink rule and the rules of the control plane have tunnel endpoints. -/
def receiveAt (uplink fromControl toControl : PdrId) (shared own : FTeid) (p : Pdr) : Pdr :=
  { p with
    fTeid :=
      if p.id = toControl then some shared
      else if p.id = fromControl then some own
      else if p.id = uplink then some shared
      else p.fTeid }

/-- Meters apply to the rules of the default bearer. -/
def meteredBy (uplink downlink : PdrId) (meters : List UrrId) (p : Pdr) : Pdr :=
  { p with
    urrs := if p.id = uplink ∨ p.id = downlink then insertAll meters p.urrs else p.urrs }

/-- The rules of the default bearer match the flows of the policy. -/
def matchFlows (uplink downlink : PdrId) (up down : List FlowFilter) (p : Pdr) : Pdr :=
  { p with
    flows :=
      if p.id = downlink then down
      else if p.id = uplink then up
      else p.flows }

/-- The tunnel index and the source of a detection rule, which endpoints are read off. -/
def ingress (p : Pdr) : UInt32 × Interface :=
  (p.teid, p.source)

/-- A change of detection rules keeps everything that is read off them elsewhere. -/
structure Keeps (onPdr : Pdr → Pdr) : Prop where
  id : ∀ p, (onPdr p).id = p.id
  precedence : ∀ p, (onPdr p).precedence = p.precedence
  source : ∀ p, (onPdr p).source = p.source
  teid : ∀ p, (onPdr p).teid = p.teid
  far : ∀ p, (onPdr p).far = p.far
  qers : ∀ p, (onPdr p).qers = p.qers

theorem Keeps.comp {onPdr onPdr' : Pdr → Pdr} (h' : Keeps onPdr') (h : Keeps onPdr) :
    Keeps (onPdr' ∘ onPdr) where
  id p := (h'.id _).trans (h.id p)
  precedence p := (h'.precedence _).trans (h.precedence p)
  source p := (h'.source _).trans (h.source p)
  teid p := (h'.teid _).trans (h.teid p)
  far p := (h'.far _).trans (h.far p)
  qers p := (h'.qers _).trans (h.qers p)

variable (uplink downlink fromControl toControl : PdrId)

theorem keeps_matchDevice (device : UeAddress) : Keeps (matchDevice uplink downlink device) :=
  ⟨fun _ => rfl, fun _ => rfl, fun _ => rfl, fun _ => rfl, fun _ => rfl, fun _ => rfl⟩

theorem keeps_matchSolicitations : Keeps (matchSolicitations toControl) :=
  ⟨fun _ => rfl, fun _ => rfl, fun _ => rfl, fun _ => rfl, fun _ => rfl, fun _ => rfl⟩

theorem keeps_receiveAt (shared own : FTeid) :
    Keeps (receiveAt uplink fromControl toControl shared own) :=
  ⟨fun _ => rfl, fun _ => rfl, fun _ => rfl, fun _ => rfl, fun _ => rfl, fun _ => rfl⟩

theorem keeps_meteredBy (meters : List UrrId) : Keeps (meteredBy uplink downlink meters) :=
  ⟨fun _ => rfl, fun _ => rfl, fun _ => rfl, fun _ => rfl, fun _ => rfl, fun _ => rfl⟩

theorem keeps_matchFlows (up down : List FlowFilter) :
    Keeps (matchFlows uplink downlink up down) :=
  ⟨fun _ => rfl, fun _ => rfl, fun _ => rfl, fun _ => rfl, fun _ => rfl, fun _ => rfl⟩

end Pdr

/-- One forwarding rule forwards into a tunnel. -/
def Far.forwardInto (far : FarId) (header : OuterHeader) (f : Far) : Far :=
  if f.id = far then { f with action := .forwardOnly, outerHeader := some header } else f

@[simp]
theorem Far.forwardInto_id (far : FarId) (header : OuterHeader) (f : Far) :
    (f.forwardInto far header).id = f.id := by
  rw [forwardInto]
  split <;> rfl

/-! ## Writes to rules with distinct numbers -/

namespace RuleGraph.Distinct

variable {g : RuleGraph} (h : g.Distinct)

include h

theorem forwardInto_eq (far : FarId) (header : OuterHeader) :
    g.forwardInto far header = g.mapRules (fun p => p) (Far.forwardInto far header) :=
  h.updateFar_eq far _

theorem matchSolicitations_eq (pdr : PdrId) :
    g.matchSolicitations pdr = g.mapRules (Pdr.matchSolicitations pdr) fun f => f := by
  rw [matchSolicitations, h.updatePdr_eq]
  congr 1
  funext p
  simp only [Pdr.matchSolicitations, Pdr.withSolicitations]
  split_ifs <;> rfl

theorem receiveAt_eq (uplink fromControl toControl : PdrId) (shared own : FTeid) :
    ((g.receiveAt uplink shared).receiveAt fromControl own).receiveAt toControl shared =
      g.mapRules (Pdr.receiveAt uplink fromControl toControl shared own) fun f => f := by
  have hfirst := h.updatePdr uplink (f := fun p => { p with fTeid := some shared }) fun _ => rfl
  have hsecond := hfirst.updatePdr fromControl (f := fun p => { p with fTeid := some own })
    fun _ => rfl
  rw [receiveAt, receiveAt, receiveAt, hsecond.updatePdr_eq, hfirst.updatePdr_eq,
    h.updatePdr_eq, mapRules_mapRules, mapRules_mapRules]
  -- The three numbers need not differ; where two of them agree, the later write counts.
  congr 1
  funext p
  simp only [Pdr.receiveAt, Function.comp_apply]
  split_ifs <;> simp_all

theorem matchFlows_eq (uplink downlink : PdrId) (up down : List FlowFilter) :
    (g.updatePdr uplink fun p => { p with flows := up }).updatePdr downlink
        (fun p => { p with flows := down }) =
      g.mapRules (Pdr.matchFlows uplink downlink up down) fun f => f := by
  have hfirst := h.updatePdr uplink (f := fun p => { p with flows := up }) fun _ => rfl
  rw [hfirst.updatePdr_eq, h.updatePdr_eq, mapRules_mapRules]
  congr 1
  funext p
  simp only [Pdr.matchFlows, Function.comp_apply]
  split_ifs <;> simp_all

/-- A meter that applies to both directions of the default bearer applies once to each. -/
theorem associateUrr_meteredBy {uplink downlink : PdrId} {urr : UrrId} {g' : RuleGraph}
    (hup : (g.pdr? uplink).isSome) (hdown : (g.pdr? downlink).isSome) :
    (∃ g₁, g.associateUrr uplink urr = .ok g₁ ∧ g₁.associateUrr downlink urr = .ok g') ↔
      (g.urr? urr).isSome ∧
        g' = g.mapRules (Pdr.meteredBy uplink downlink [urr]) fun f => f := by
  have hmap : (fun p : Pdr => if p.id = uplink ∨ p.id = downlink then
      { p with urrs := insertLast urr p.urrs } else p) = Pdr.meteredBy uplink downlink [urr] := by
    funext p
    simp only [Pdr.meteredBy, insertAll_cons, insertAll_nil]
    split <;> rfl
  rw [h.associateUrr_both, hmap]
  exact ⟨fun ⟨hurr, _, _, hg⟩ => ⟨hurr, hg⟩, fun ⟨hurr, hg⟩ => ⟨hurr, hup, hdown, hg⟩⟩

theorem result_applyMeters {uplink downlink : PdrId} {ms : List Meter} {g' : RuleGraph}
    (hup : (g.pdr? uplink).isSome) (hdown : (g.pdr? downlink).isSome) :
    (g.applyMeters uplink downlink ms).result = .ok g' ↔
      (∀ m ∈ ms, (g.urr? m.urr).isSome) ∧
        g' = g.mapRules (Pdr.meteredBy uplink downlink (ms.map (·.urr))) fun f => f := by
  induction ms generalizing g with
  | nil =>
    have hsame : g.mapRules (Pdr.meteredBy uplink downlink []) (fun f => f) = g :=
      mapRules_eq_self (fun p _ => by simp [Pdr.meteredBy]) fun _ _ => rfl
    simp only [applyMeters, result_pure, Except.ok.injEq, List.map_nil, hsame]
    simpa using eq_comm
  | cons m ms ih =>
    have hid : ∀ p, (Pdr.meteredBy uplink downlink [m.urr] p).id = p.id := fun _ => rfl
    have hdistinct : (g.mapRules (Pdr.meteredBy uplink downlink [m.urr]) fun f => f).Distinct :=
      h.mapRules hid fun _ => rfl
    have hmap : Pdr.meteredBy uplink downlink (ms.map (·.urr)) ∘
        Pdr.meteredBy uplink downlink [m.urr] =
        Pdr.meteredBy uplink downlink ((m :: ms).map (·.urr)) := by
      funext p
      simp only [Function.comp_apply, Pdr.meteredBy, List.map_cons, insertAll_cons, insertAll_nil]
      split <;> rfl
    -- The other meters find both directions of the bearer in the graph that the first one left.
    have hup' : ((g.mapRules (Pdr.meteredBy uplink downlink [m.urr]) fun f => f).pdr?
        uplink).isSome := by
      rw [pdr?_mapRules hid, Option.isSome_map]
      exact hup
    have hdown' : ((g.mapRules (Pdr.meteredBy uplink downlink [m.urr]) fun f => f).pdr?
        downlink).isSome := by
      rw [pdr?_mapRules hid, Option.isSome_map]
      exact hdown
    simp only [applyMeters, result_bind_eq_ok, result_lift, result_ofGraph_eq_ok,
      List.forall_mem_cons]
    constructor
    · rintro ⟨_, -, g₁, hfirst, g₂, hsecond, hrest⟩
      obtain ⟨hurr, rfl⟩ := (h.associateUrr_meteredBy hup hdown).mp ⟨g₁, hfirst, hsecond⟩
      obtain ⟨hurrs, rfl⟩ := (ih hdistinct hup' hdown').mp hrest
      exact ⟨⟨hurr, hurrs⟩, by rw [mapRules_mapRules, hmap]; rfl⟩
    · rintro ⟨⟨hurr, hurrs⟩, rfl⟩
      obtain ⟨g₁, hfirst, hsecond⟩ := (h.associateUrr_meteredBy hup hdown).mpr ⟨hurr, rfl⟩
      refine ⟨(), trivial, g₁, hfirst, _, hsecond, (ih hdistinct hup' hdown').mpr ⟨hurrs, ?_⟩⟩
      rw [mapRules_mapRules, hmap]
      rfl

theorem matchDevice_eq (uplink downlink : PdrId) (device : UeAddress) :
    (g.matchDevice downlink { device with isDestination := true }).matchDevice uplink device =
      g.mapRules (Pdr.matchDevice uplink downlink device) fun f => f := by
  have hfirst := h.updatePdr downlink
    (f := fun p => { p with ueAddress := some { device with isDestination := true } })
    fun _ => rfl
  rw [matchDevice, matchDevice, hfirst.updatePdr_eq, h.updatePdr_eq, mapRules_mapRules]
  congr 1
  funext p
  -- One rule may have both directions, and it gets the address of the uplink then.
  by_cases hd : p.id = downlink
  · by_cases hu : downlink = uplink
    · simp [Pdr.matchDevice, hd, hu]
    · simp [Pdr.matchDevice, hd, hu]
  · by_cases hu : p.id = uplink
    · simp [Pdr.matchDevice, hu, hu ▸ hd]
    · simp [Pdr.matchDevice, hd, hu]

end RuleGraph.Distinct

namespace Session

/-- Changes detection and forwarding rules of the graph of a session in place. -/
def mapRules (s : Session) (onPdr : Pdr → Pdr) (onFar : Far → Far) : Session :=
  { s with graph := s.graph.mapRules onPdr onFar }

/-- Changes the default bearer of a session. -/
def setBearer (s : Session) (b : Bearer) : Session :=
  { s with bearer := some b }

section MapRules

variable (s : Session) (onPdr onPdr' : Pdr → Pdr) (onFar onFar' : Far → Far)

@[simp] theorem rules_mapRules : (s.mapRules onPdr onFar).rules = s.rules := rfl

@[simp]
theorem graph_mapRules :
    (s.mapRules onPdr onFar).graph = s.graph.mapRules onPdr onFar := rfl

theorem mapRules_mapRules :
    (s.mapRules onPdr onFar).mapRules onPdr' onFar' =
      s.mapRules (onPdr' ∘ onPdr) (onFar' ∘ onFar) := by
  rw [mapRules, mapRules, mapRules, RuleGraph.mapRules_mapRules]

theorem setBearer_mapRules (b : Bearer) :
    (s.setBearer b).mapRules onPdr onFar = (s.mapRules onPdr onFar).setBearer b := rfl

@[simp] theorem graph_setBearer (b : Bearer) : (s.setBearer b).graph = s.graph := rfl

end MapRules

/-- The addresses of the device, whether or not there are any. -/
def device (s : Session) : UeAddress :=
  { addr := s.ipv4, addr6 := s.ipv6.map Prod.snd }

variable {s s' : Session} {b : Bearer}

theorem result_wireBearer (h : s.graph.Distinct) :
    (s.wireBearer b).result = .ok s' ↔
      ((s.graph.pdr? b.uplinkPdr).isSome ∧ (s.graph.pdr? b.downlinkPdr).isSome) ∧
      ∃ header, OuterHeader.to? b.peerEnd = some header ∧
        (s.graph.far? b.downlinkFar).isSome ∧ (s.device.addr.isSome ∨ s.device.addr6.isSome) ∧
        s' = s.mapRules (Pdr.matchDevice b.uplinkPdr b.downlinkPdr s.device)
          (Far.forwardInto b.downlinkFar header) := by
  have hgraph : ∀ header, ((s.graph.forwardInto b.downlinkFar header).matchDevice b.downlinkPdr
      { s.device with isDestination := true }).matchDevice b.uplinkPdr s.device =
      s.graph.mapRules (Pdr.matchDevice b.uplinkPdr b.downlinkPdr s.device)
        (Far.forwardInto b.downlinkFar header) := by
    intro header
    have hforward := h.mapRules (fun p => rfl) (Far.forwardInto_id b.downlinkFar header)
    rw [h.forwardInto_eq, hforward.matchDevice_eq, RuleGraph.mapRules_mapRules]
    rfl
  simp only [wireBearer, deviceAddress, result_bind_eq_ok, result_ensure_eq_ok, result_lift,
    result_pure, result_require_eq_ok, Except.ok.injEq]
  constructor
  · rintro ⟨_, hpdrs, header, hheader, _, hfar, _, -, _, ⟨_, haddr, rfl⟩, rfl⟩
    refine ⟨by simpa using hpdrs, header, hheader, hfar, by simpa [device] using haddr, ?_⟩
    rw [mapRules, ← hgraph header]
    rfl
  · rintro ⟨hpdrs, header, hheader, hfar, haddr, rfl⟩
    refine ⟨(), by simpa using hpdrs, header, hheader, (), hfar, (), trivial, s.device,
      ⟨(), by simpa [device] using haddr, rfl⟩, ?_⟩
    rw [mapRules, ← hgraph header]

theorem result_wireControl (h : s.graph.Distinct) {config : Config} {rules : ControlRules} :
    (s.wireControl config rules).result = .ok s' ↔
      ∃ header, OuterHeader.to? (config.tunnelEnd s.index) = some header ∧
        s' = s.mapRules (Pdr.matchSolicitations rules.pdr)
          (Far.forwardInto rules.far header) := by
  have hgraph : ∀ header, (s.graph.matchSolicitations rules.pdr).forwardInto rules.far header =
      s.graph.mapRules (Pdr.matchSolicitations rules.pdr)
        (Far.forwardInto rules.far header) := by
    intro header
    have hmatch : (s.graph.mapRules (Pdr.matchSolicitations rules.pdr) fun f => f).Distinct :=
      h.mapRules (fun _ => rfl) fun _ => rfl
    rw [h.matchSolicitations_eq, hmatch.forwardInto_eq, RuleGraph.mapRules_mapRules]
    rfl
  simp only [wireControl, result_bind_eq_ok, result_lift, result_pure, result_require_eq_ok,
    Except.ok.injEq]
  constructor
  · rintro ⟨header, hheader, _, -, rfl⟩
    exact ⟨header, hheader, by rw [mapRules, ← hgraph header]⟩
  · rintro ⟨header, hheader, rfl⟩
    exact ⟨header, hheader, (), trivial, by rw [mapRules, ← hgraph header]⟩

/-- The tunnel endpoints of a session: that of the uplink and of the rule to the control plane,
that of the rule from the control plane, and the bearer with its local end. Either the node is
asked to pick them, or they are picked here. -/
inductive PicksEnds (s : Session) (b : Bearer) (fromControl : PdrId) :
    FTeid → FTeid → Bearer → Prop
  | byNode {node : UserPlane.Node} (hnode : s.node = some node)
      (huplink : (s.graph.pdr? b.uplinkPdr).isSome) (hpicks : node.picksEndpoints = true) :
      PicksEnds s b fromControl (.chosenByNode (some defaultChoice)) (.chosenByNode none) b
  | here {node : UserPlane.Node} {rule : Pdr} {localEnd : Endpoint} (hnode : s.node = some node)
      (huplink : s.graph.pdr? b.uplinkPdr = some rule) (hpicks : node.picksEndpoints = false)
      (hend : advertisedEnd node s.name rule = some localEnd) :
      PicksEnds s b fromControl (.ofEndpoint localEnd)
        (.ofEndpoint { localEnd with
          teid := ((s.graph.pdr? fromControl).map (·.teid)).getD 0 })
        { b with localEnd }

namespace PicksEnds

variable {fromControl : PdrId} {shared own : FTeid} {b' : Bearer} {onPdr : Pdr → Pdr}

/-- The endpoints are read off the tunnel indices and the sources of detection rules only. -/
theorem iff_of_ingress (hnode : s'.node = s.node) (hname : s'.name = s.name)
    (hingress : ∀ id, (s'.graph.pdr? id).map Pdr.ingress = (s.graph.pdr? id).map Pdr.ingress) :
    s'.PicksEnds b fromControl shared own b' ↔ s.PicksEnds b fromControl shared own b' := by
  -- What is read off one of the sessions is read off the other one, so one direction is enough.
  have himp : ∀ {s s' : Session}, s'.node = s.node → s'.name = s.name →
      (∀ id, (s'.graph.pdr? id).map Pdr.ingress = (s.graph.pdr? id).map Pdr.ingress) →
      s.PicksEnds b fromControl shared own b' → s'.PicksEnds b fromControl shared own b' := by
    intro s s' hnode hname hingress hpick
    have huplink := hingress b.uplinkPdr
    have hown : ((s'.graph.pdr? fromControl).map (·.teid)).getD 0 =
        ((s.graph.pdr? fromControl).map (·.teid)).getD 0 := by
      have hfst := congrArg (Option.map Prod.fst) (hingress fromControl)
      rw [Option.map_map, Option.map_map] at hfst
      exact congrArg (Option.getD · 0) hfst
    cases hpick with
    | byNode hn hthere hpicks =>
      refine .byNode (hnode.trans hn) ?_ hpicks
      rw [← Option.isSome_map (f := Pdr.ingress), huplink, Option.isSome_map]
      exact hthere
    | @here _ rule _ hn hrule hpicks hend =>
      rw [hrule, Option.map_some, Option.map_eq_some_iff] at huplink
      obtain ⟨rule', hrule', hsame⟩ := huplink
      obtain ⟨hteid, hsource⟩ := Prod.mk.inj hsame
      rw [← hown]
      refine .here (hnode.trans hn) hrule' hpicks ?_
      simp only [advertisedEnd, hname, hteid, hsource] at hend ⊢
      exact hend
  exact ⟨himp hnode.symm hname.symm fun id => (hingress id).symm, himp hnode hname hingress⟩

theorem iff_of_pdr? (hnode : s'.node = s.node) (hname : s'.name = s.name)
    (hpdr : ∀ id, s'.graph.pdr? id = (s.graph.pdr? id).map onPdr)
    (hteid : ∀ p, (onPdr p).teid = p.teid) (hsource : ∀ p, (onPdr p).source = p.source) :
    s'.PicksEnds b fromControl shared own b' ↔ s.PicksEnds b fromControl shared own b' := by
  have hcomp : Pdr.ingress ∘ onPdr = Pdr.ingress := by
    funext p
    rw [Function.comp_apply, Pdr.ingress, hteid, hsource, Pdr.ingress]
  refine iff_of_ingress hnode hname fun id => ?_
  rw [hpdr, Option.map_map, hcomp]

theorem again (h : s.PicksEnds b fromControl shared own b') :
    s.PicksEnds b' fromControl shared own b' := by
  cases h with
  | byNode hnode huplink hpicks => exact .byNode hnode huplink hpicks
  | @here _ _ localEnd hnode huplink hpicks hend =>
    exact PicksEnds.here (b := { b with localEnd }) hnode huplink hpicks hend

theorem uplink (h : s.PicksEnds b fromControl shared own b') :
    (s.graph.pdr? b.uplinkPdr).isSome := by
  cases h with
  | byNode _ huplink _ => exact huplink
  | here _ huplink _ _ => exact Option.isSome_of_mem huplink

theorem bearer (h : s.PicksEnds b fromControl shared own b') :
    b' = { b with localEnd := b'.localEnd } := by
  cases h <;> rfl

end PicksEnds

theorem result_allocateEndpoints (h : s.graph.Distinct) (hbearer : s.bearer = some b) :
    s.allocateEndpoints.result = .ok s' ↔
      ∃ fromControl toControl shared own b', s.fromControlPdr = some fromControl ∧
        s.toControlPdr = some toControl ∧ s.PicksEnds b fromControl shared own b' ∧
        s' = (s.mapRules (Pdr.receiveAt b.uplinkPdr fromControl toControl shared own)
          fun f => f).setBearer b' := by
  simp only [allocateEndpoints, result_bind_eq_ok, result_require_eq_ok, hbearer]
  constructor
  · rintro ⟨node, hnode, hrest⟩
    split at hrest
    · rename_i bearer fromControl toControl hb hfrom hto
      obtain rfl := Option.some.inj hb
      simp only [result_bind_eq_ok, result_require_eq_ok] at hrest
      obtain ⟨rule, hrule, hrest⟩ := hrest
      refine ⟨fromControl, toControl, ?_⟩
      cases hpicks : node.picksEndpoints with
      | true =>
        rw [if_pos hpicks, result_pure, Except.ok.injEq, h.receiveAt_eq] at hrest
        exact ⟨_, _, b, hfrom, hto, .byNode hnode (Option.isSome_of_mem hrule) hpicks,
          hrest.symm⟩
      | false =>
        rw [if_neg (by simp [hpicks])] at hrest
        simp only [result_bind_eq_ok, result_require_eq_ok, result_lift, result_pure,
          h.receiveAt_eq, Except.ok.injEq] at hrest
        obtain ⟨localEnd, hend, _, -, rfl⟩ := hrest
        exact ⟨_, _, _, hfrom, hto, .here hnode hrule hpicks hend, rfl⟩
    · cases hrest
  · rintro ⟨fromControl, toControl, shared, own, b', hfrom, hto, hpick, rfl⟩
    simp only [hfrom, hto, result_bind_eq_ok, result_require_eq_ok]
    cases hpick with
    | byNode hnode huplink hpicks =>
      obtain ⟨rule, hrule⟩ := Option.isSome_iff_exists.mp huplink
      refine ⟨_, hnode, rule, hrule, ?_⟩
      rw [if_pos hpicks, result_pure, Except.ok.injEq, h.receiveAt_eq]
      simp [mapRules, setBearer, hfrom, hto]
    | here hnode huplink hpicks hend =>
      refine ⟨_, hnode, _, huplink, ?_⟩
      rw [if_neg (by simp [hpicks])]
      simp only [result_bind_eq_ok, result_require_eq_ok, result_lift, result_pure,
        h.receiveAt_eq, Except.ok.injEq]
      refine ⟨_, hend, (), trivial, ?_⟩
      simp [mapRules, setBearer, hfrom, hto]

theorem result_controlRules {rules : ControlRules} :
    s.controlRules.result = .ok rules ↔
      s.toControlPdr = some rules.pdr ∧ s.toControlFar = some rules.far := by
  rw [controlRules]
  cases hpdr : s.toControlPdr with
  | none => simp
  | some pdr =>
    cases hfar : s.toControlFar with
    | none => simp
    | some far =>
      obtain ⟨pdr', far'⟩ := rules
      simp

end Session

/-! ## All changes together -/

/-- What an installation writes to the detection and forwarding rules of a session. -/
structure Wiring where
  uplink : PdrId
  downlink : PdrId
  fromControl : PdrId
  toControl : PdrId
  downlinkFar : FarId
  toControlFar : FarId
  device : UeAddress
  /-- The headers of the tunnels to the peer and to this node. -/
  peerHeader : OuterHeader
  ownHeader : OuterHeader
  /-- The endpoint of the uplink and of the rule to the control plane. -/
  sharedEnd : FTeid
  /-- The endpoint of the rule from the control plane. -/
  fromEnd : FTeid
  meters : List UrrId
  uplinkFlows : List FlowFilter
  downlinkFlows : List FlowFilter

namespace Wiring

/-- The change of a detection rule. -/
def pdr (w : Wiring) (p : Pdr) : Pdr :=
  ((((p.matchDevice w.uplink w.downlink w.device).matchSolicitations w.toControl).receiveAt
    w.uplink w.fromControl w.toControl w.sharedEnd w.fromEnd).meteredBy
    w.uplink w.downlink w.meters).matchFlows w.uplink w.downlink w.uplinkFlows w.downlinkFlows

/-- The change of a forwarding rule. -/
def far (w : Wiring) (f : Far) : Far :=
  (f.forwardInto w.downlinkFar w.peerHeader).forwardInto w.toControlFar w.ownHeader

variable (w : Wiring)

theorem keeps_pdr : Pdr.Keeps w.pdr :=
  (Pdr.keeps_matchFlows w.uplink w.downlink w.uplinkFlows w.downlinkFlows).comp <|
    (Pdr.keeps_meteredBy w.uplink w.downlink w.meters).comp <|
    (Pdr.keeps_receiveAt w.uplink w.fromControl w.toControl w.sharedEnd w.fromEnd).comp <|
    (Pdr.keeps_matchSolicitations w.toControl).comp
      (Pdr.keeps_matchDevice w.uplink w.downlink w.device)

@[simp] theorem pdr_id (p : Pdr) : (w.pdr p).id = p.id := w.keeps_pdr.id p
@[simp] theorem far_id (f : Far) : (w.far f).id = f.id := by simp [far]

theorem pdr_urrs (p : Pdr) :
    (w.pdr p).urrs =
      if p.id = w.uplink ∨ p.id = w.downlink then insertAll w.meters p.urrs else p.urrs := rfl

/-- The last write of an address is that of the uplink. -/
theorem pdr_ueAddress (p : Pdr) :
    (w.pdr p).ueAddress =
      if p.id = w.uplink then some w.device
      else if p.id = w.downlink then some { w.device with isDestination := true }
      else p.ueAddress := rfl

/-- The last write of an endpoint is that of the rule to the control plane. -/
theorem pdr_fTeid (p : Pdr) :
    (w.pdr p).fTeid =
      if p.id = w.toControl then some w.sharedEnd
      else if p.id = w.fromControl then some w.fromEnd
      else if p.id = w.uplink then some w.sharedEnd
      else p.fTeid := rfl

/-- The last write of flows is that of the downlink. -/
theorem pdr_flows (p : Pdr) :
    (w.pdr p).flows =
      if p.id = w.downlink then w.downlinkFlows
      else if p.id = w.uplink then w.uplinkFlows
      else if p.id = w.toControl then Pdr.withSolicitations p.flows
      else p.flows := rfl

/-- The last write of a forwarding rule is that of the one to the control plane. -/
theorem far_eq (f : Far) :
    w.far f =
      if f.id = w.toControlFar then
        { f with action := .forwardOnly, outerHeader := some w.ownHeader }
      else if f.id = w.downlinkFar then
        { f with action := .forwardOnly, outerHeader := some w.peerHeader }
      else f := by
  by_cases hdown : f.id = w.downlinkFar
  · simp only [far, Far.forwardInto, if_pos hdown]
  · simp only [far, Far.forwardInto, if_neg hdown]

theorem pdr_withQers (p : Pdr) (qers : List QerId) :
    w.pdr { p with qers } = { w.pdr p with qers } := rfl

theorem withSolicitations_withSolicitations (flows : List FlowFilter) :
    Pdr.withSolicitations (Pdr.withSolicitations flows) = Pdr.withSolicitations flows := by
  by_cases hany : flows.any (·.description == routerSolicitation)
  · simp [Pdr.withSolicitations, hany]
  · simp [Pdr.withSolicitations, hany, FlowFilter.described]

/-- Two wirings write to the same rules. -/
structure SameRoles (w w' : Wiring) : Prop where
  uplink : w.uplink = w'.uplink
  downlink : w.downlink = w'.downlink
  fromControl : w.fromControl = w'.fromControl
  toControl : w.toControl = w'.toControl
  downlinkFar : w.downlinkFar = w'.downlinkFar
  toControlFar : w.toControlFar = w'.toControlFar

theorem SameRoles.refl : SameRoles w w := ⟨rfl, rfl, rfl, rfl, rfl, rfl⟩

variable {w} {w' : Wiring}

/-- Wiring a rule another time takes the place of the first time, but for the meters. -/
theorem pdr_pdr_of_roles (h : w.SameRoles w') (p : Pdr) :
    w.pdr (w'.pdr p) = { w.pdr p with urrs := (w.pdr (w'.pdr p)).urrs } := by
  -- Only four fields are written, and what each gets is decided by the number of the rule.
  have hdevice : (w.pdr (w'.pdr p)).ueAddress = (w.pdr p).ueAddress := by
    rw [pdr_ueAddress, pdr_ueAddress, pdr_ueAddress, pdr_id, h.uplink, h.downlink]
    split_ifs <;> rfl
  have hend : (w.pdr (w'.pdr p)).fTeid = (w.pdr p).fTeid := by
    rw [pdr_fTeid, pdr_fTeid, pdr_fTeid, pdr_id, h.uplink, h.fromControl, h.toControl]
    split_ifs <;> rfl
  have hflows : (w.pdr (w'.pdr p)).flows = (w.pdr p).flows := by
    rw [pdr_flows, pdr_flows, pdr_flows, pdr_id, h.uplink, h.downlink, h.toControl]
    split_ifs
    · rfl
    · rfl
    · exact withSolicitations_withSolicitations p.flows
    · rfl
  have hkeeps := w.keeps_pdr
  have hkeeps' := w'.keeps_pdr
  refine Pdr.ext (hkeeps.id _) ?_ ?_ ?_ hend hdevice hflows ?_ ?_ rfl
  · rw [hkeeps.precedence, hkeeps'.precedence, hkeeps.precedence]
  · rw [hkeeps.source, hkeeps'.source, hkeeps.source]
  · rw [hkeeps.teid, hkeeps'.teid, hkeeps.teid]
  · rw [hkeeps.far, hkeeps'.far, hkeeps.far]
  · rw [hkeeps.qers, hkeeps'.qers, hkeeps.qers]

theorem far_far_of_roles (h : w.SameRoles w') (f : Far) : w.far (w'.far f) = w.far f := by
  have hdestination : (w'.far f).destination = f.destination := by
    rw [far_eq]
    split_ifs <;> rfl
  rw [far_eq w (w'.far f), far_eq w f, far_id, h.toControlFar, h.downlinkFar]
  split_ifs with hto hdown
  · rw [hdestination]
  · rw [hdestination]
  · rw [far_eq, if_neg hto, if_neg hdown]

variable (w)

theorem pdr_pdr (p : Pdr) : w.pdr (w.pdr p) = w.pdr p := by
  have hmeters : (w.pdr (w.pdr p)).urrs = (w.pdr p).urrs := by
    rw [pdr_urrs, pdr_id, pdr_urrs]
    split
    · exact insertAll_insertAll
    · rfl
  rw [pdr_pdr_of_roles (.refl w), hmeters]

theorem far_far (f : Far) : w.far (w.far f) = w.far f :=
  far_far_of_roles (.refl w) f

end Wiring

namespace Session

variable {s s' : Session} {config : Config} {b b' : Bearer} {ms : List Meter} {w : Wiring}

/-! ## The steps of an installation -/

theorem result_applyMeters (h : s.graph.Distinct) (hup : (s.graph.pdr? b.uplinkPdr).isSome)
    (hdown : (s.graph.pdr? b.downlinkPdr).isSome) :
    (s.applyMeters b ms).result = .ok s' ↔
      (∀ m ∈ ms, (s.graph.urr? m.urr).isSome) ∧
        s' = s.mapRules (Pdr.meteredBy b.uplinkPdr b.downlinkPdr (ms.map (·.urr)))
          fun f => f := by
  simp only [applyMeters, result_bind_eq_ok, result_pure, Except.ok.injEq,
    h.result_applyMeters hup hdown]
  constructor
  · rintro ⟨g, ⟨hurrs, rfl⟩, rfl⟩
    exact ⟨hurrs, rfl⟩
  · rintro ⟨hurrs, rfl⟩
    exact ⟨_, ⟨hurrs, rfl⟩, rfl⟩

theorem value_applyFlows (h : s.graph.Distinct) :
    (s.applyFlows b).value =
      s.mapRules
        (Pdr.matchFlows b.uplinkPdr b.downlinkPdr ((Policy.uplinkFlows s.rules).map .described)
          ((Policy.downlinkFlows s.rules).map .described)) fun f => f := by
  rw [mapRules, ← h.matchFlows_eq]
  rfl

section Changed

variable {onPdr : Pdr → Pdr}

/-- A session whose detection rules have changed in place is metered like the session before. -/
theorem result_applyMeters_mapRules (h : s.graph.Distinct) (hid : ∀ p, (onPdr p).id = p.id)
    (hup : (s.graph.pdr? b.uplinkPdr).isSome) (hdown : (s.graph.pdr? b.downlinkPdr).isSome) :
    (((s.mapRules onPdr fun f => f).setBearer b').applyMeters b ms).result = .ok s' ↔
      (∀ m ∈ ms, (s.graph.urr? m.urr).isSome) ∧
        s' = (s.mapRules
          (Pdr.meteredBy b.uplinkPdr b.downlinkPdr (ms.map (·.urr)) ∘ onPdr)
          fun f => f).setBearer b' := by
  have hdistinct : (s.graph.mapRules onPdr fun f => f).Distinct := h.mapRules hid fun _ => rfl
  rw [result_applyMeters hdistinct]
  · rw [setBearer_mapRules, mapRules_mapRules]
    rfl
  · rw [graph_setBearer, graph_mapRules, RuleGraph.isSome_pdr?_mapRules hid]
    exact hup
  · rw [graph_setBearer, graph_mapRules, RuleGraph.isSome_pdr?_mapRules hid]
    exact hdown

theorem value_applyFlows_mapRules (h : s.graph.Distinct) (hid : ∀ p, (onPdr p).id = p.id) :
    (((s.mapRules onPdr fun f => f).setBearer b').applyFlows b).value =
      (s.mapRules
        (Pdr.matchFlows b.uplinkPdr b.downlinkPdr ((Policy.uplinkFlows s.rules).map .described)
          ((Policy.downlinkFlows s.rules).map .described) ∘ onPdr) fun f => f).setBearer b' := by
  have hdistinct : (s.graph.mapRules onPdr fun f => f).Distinct := h.mapRules hid fun _ => rfl
  rw [value_applyFlows hdistinct, setBearer_mapRules, mapRules_mapRules]
  rfl

end Changed

/-- The steps that set forwarding rules, with the addresses and flows that go with them. -/
def wireForwarding (s : Session) (config : Config) (b : Bearer) : Attempt Session := do
  let rules ← s.controlRules
  let s ← s.wireBearer b
  s.wireControl config rules

/-- The steps that set what detection rules match and who meters it. -/
def wireDetection (s : Session) (b : Bearer) (ms : List Meter) : Attempt Session := do
  let s ← s.allocateEndpoints
  let s ← s.applyMeters b ms
  s.applyFlows b

theorem result_wireForwarding (h : s.graph.Distinct) :
    (s.wireForwarding config b).result = .ok s' ↔
      ∃ toControl toControlFar peer own, s.toControlPdr = some toControl ∧
        s.toControlFar = some toControlFar ∧
        ((s.graph.pdr? b.uplinkPdr).isSome ∧ (s.graph.pdr? b.downlinkPdr).isSome) ∧
        OuterHeader.to? b.peerEnd = some peer ∧ (s.graph.far? b.downlinkFar).isSome ∧
        (s.device.addr.isSome ∨ s.device.addr6.isSome) ∧
        OuterHeader.to? (config.tunnelEnd s.index) = some own ∧
        s' = s.mapRules
          (Pdr.matchSolicitations toControl ∘
            Pdr.matchDevice b.uplinkPdr b.downlinkPdr s.device)
          (Far.forwardInto toControlFar own ∘ Far.forwardInto b.downlinkFar peer) := by
  have hdistinct : ∀ peer, (s.mapRules (Pdr.matchDevice b.uplinkPdr b.downlinkPdr s.device)
      (Far.forwardInto b.downlinkFar peer)).graph.Distinct := fun peer =>
    h.mapRules (fun _ => rfl) (Far.forwardInto_id b.downlinkFar peer)
  simp only [wireForwarding, result_bind_eq_ok, result_controlRules, result_wireBearer h]
  constructor
  · rintro ⟨rules, ⟨hto, hfar⟩, s₁, ⟨hpdrs, peer, hpeer, hdownFar, hdevice, rfl⟩, hcontrol⟩
    obtain ⟨own, hown, rfl⟩ := (result_wireControl (hdistinct peer)).mp hcontrol
    refine ⟨rules.pdr, rules.far, peer, own, hto, hfar, hpdrs, hpeer, hdownFar, hdevice, hown, ?_⟩
    rw [mapRules_mapRules]
  · rintro ⟨toControl, toControlFar, peer, own, hto, hfar, hpdrs, hpeer, hdownFar, hdevice, hown,
      rfl⟩
    refine ⟨⟨toControl, toControlFar⟩, ⟨hto, hfar⟩, _,
      ⟨hpdrs, peer, hpeer, hdownFar, hdevice, rfl⟩, ?_⟩
    refine (result_wireControl (hdistinct peer)).mpr ⟨own, hown, ?_⟩
    rw [mapRules_mapRules]

theorem result_wireDetection (h : s.graph.Distinct) (hbearer : s.bearer = some b)
    (hdown : (s.graph.pdr? b.downlinkPdr).isSome) :
    (s.wireDetection b ms).result = .ok s' ↔
      ∃ fromControl toControl shared own b', s.fromControlPdr = some fromControl ∧
        s.toControlPdr = some toControl ∧ s.PicksEnds b fromControl shared own b' ∧
        (∀ m ∈ ms, (s.graph.urr? m.urr).isSome) ∧
        s' = (s.mapRules
          (Pdr.matchFlows b.uplinkPdr b.downlinkPdr ((Policy.uplinkFlows s.rules).map .described)
              ((Policy.downlinkFlows s.rules).map .described) ∘
            Pdr.meteredBy b.uplinkPdr b.downlinkPdr (ms.map (·.urr)) ∘
            Pdr.receiveAt b.uplinkPdr fromControl toControl shared own)
          fun f => f).setBearer b' := by
  simp only [wireDetection, result_bind_eq_ok, result_allocateEndpoints h hbearer, result_lift,
    Except.ok.injEq]
  constructor
  · rintro ⟨s₁, ⟨fromControl, toControl, shared, own, b', hfrom, hto, hpick, rfl⟩, s₂, hmeters,
      rfl⟩
    have hreceive := Pdr.keeps_receiveAt b.uplinkPdr fromControl toControl shared own
    rw [result_applyMeters_mapRules h hreceive.id hpick.uplink hdown] at hmeters
    obtain ⟨hurrs, rfl⟩ := hmeters
    refine ⟨fromControl, toControl, shared, own, b', hfrom, hto, hpick, hurrs, ?_⟩
    exact value_applyFlows_mapRules h fun _ => rfl
  · rintro ⟨fromControl, toControl, shared, own, b', hfrom, hto, hpick, hurrs, rfl⟩
    refine ⟨_, ⟨fromControl, toControl, shared, own, b', hfrom, hto, hpick, rfl⟩,
      (s.mapRules (Pdr.meteredBy b.uplinkPdr b.downlinkPdr (ms.map (·.urr)) ∘
        Pdr.receiveAt b.uplinkPdr fromControl toControl shared own) fun f => f).setBearer b',
      ?_, ?_⟩
    · have hreceive := Pdr.keeps_receiveAt b.uplinkPdr fromControl toControl shared own
      exact (result_applyMeters_mapRules h hreceive.id hpick.uplink hdown).mpr ⟨hurrs, rfl⟩
    · exact value_applyFlows_mapRules h fun _ => rfl

/-! ## The wiring of a session -/

/-- What the wiring of a session is read off, and what has to be there for it. The bearer with
its new local end is `b'`. -/
structure WiredBy (s : Session) (config : Config) (b : Bearer) (ms : List Meter) (w : Wiring)
    (b' : Bearer) : Prop where
  uplink : w.uplink = b.uplinkPdr
  downlink : w.downlink = b.downlinkPdr
  downlinkThere : (s.graph.pdr? b.downlinkPdr).isSome
  downlinkFar : w.downlinkFar = b.downlinkFar
  downlinkFarThere : (s.graph.far? b.downlinkFar).isSome
  fromControl : s.fromControlPdr = some w.fromControl
  toControl : s.toControlPdr = some w.toControl
  toControlFar : s.toControlFar = some w.toControlFar
  device : w.device = s.device
  deviceThere : s.device.addr.isSome ∨ s.device.addr6.isSome
  peerHeader : OuterHeader.to? b.peerEnd = some w.peerHeader
  ownHeader : OuterHeader.to? (config.tunnelEnd s.index) = some w.ownHeader
  ends : s.PicksEnds b w.fromControl w.sharedEnd w.fromEnd b'
  meters : w.meters = ms.map (·.urr)
  metersThere : ∀ m ∈ ms, (s.graph.urr? m.urr).isSome
  uplinkFlows : w.uplinkFlows = (Policy.uplinkFlows s.rules).map .described
  downlinkFlows : w.downlinkFlows = (Policy.downlinkFlows s.rules).map .described

/-- The steps of an installation after the rules of the control plane are there and before the
rates are limited. -/
def wire (s : Session) (config : Config) (b : Bearer) (ms : List Meter) : Attempt Session := do
  let s ← s.wireForwarding config b
  s.wireDetection b ms

/-- Wiring succeeds exactly if everything that it is read off is there, and then changes each
rule once. -/
theorem result_wire (h : s.graph.Distinct) (hbearer : s.bearer = some b) :
    (s.wire config b ms).result = .ok s' ↔
      ∃ w b', s.WiredBy config b ms w b' ∧
        s' = (s.mapRules w.pdr w.far).setBearer b' := by
  have hdistinct : ∀ toControl toControlFar peer own, (s.mapRules
      (Pdr.matchSolicitations toControl ∘ Pdr.matchDevice b.uplinkPdr b.downlinkPdr s.device)
      (Far.forwardInto toControlFar own ∘ Far.forwardInto b.downlinkFar peer)).graph.Distinct := by
    intro toControl toControlFar peer own
    exact h.mapRules (fun _ => rfl) fun _ => by simp
  -- The first half changes nothing that the endpoints are read off.
  have hpicks : ∀ toControl (onFar : Far → Far) fromControl shared own b',
      (s.mapRules (Pdr.matchSolicitations toControl ∘
        Pdr.matchDevice b.uplinkPdr b.downlinkPdr s.device) onFar).PicksEnds b fromControl
          shared own b' ↔ s.PicksEnds b fromControl shared own b' := by
    intro toControl onFar fromControl shared own b'
    exact PicksEnds.iff_of_pdr? rfl rfl (RuleGraph.pdr?_mapRules fun _ => rfl)
      (fun _ => rfl) fun _ => rfl
  simp only [wire, result_bind_eq_ok, result_wireForwarding h]
  constructor
  · rintro ⟨s₁, ⟨toControl, toControlFar, peer, own, hto, hfar, ⟨hup, hdown⟩, hpeer, hdownFar,
      hdevice, hown, rfl⟩, hrest⟩
    rw [result_wireDetection (hdistinct ..) hbearer] at hrest
    · obtain ⟨fromControl, toControl', shared, fromEnd, b', hfrom, hto', hpick, hurrs, rfl⟩ := hrest
      -- Both halves look up the rule to the control plane, and it is the same one.
      obtain rfl : toControl' = toControl := Option.some.inj (hto'.symm.trans hto)
      let w : Wiring :=
        { uplink := b.uplinkPdr, downlink := b.downlinkPdr, fromControl, toControl := toControl',
          downlinkFar := b.downlinkFar, toControlFar, device := s.device,
          peerHeader := peer, ownHeader := own, sharedEnd := shared, fromEnd,
          meters := ms.map (·.urr)
          uplinkFlows := (Policy.uplinkFlows s.rules).map .described
          downlinkFlows := (Policy.downlinkFlows s.rules).map .described }
      refine ⟨w, b', ⟨rfl, rfl, hdown, rfl, hdownFar, hfrom, hto, hfar, rfl, hdevice, hpeer, hown,
        (hpicks ..).mp hpick, rfl, hurrs, rfl, rfl⟩, ?_⟩
      rw [mapRules_mapRules]
      rfl
    · rw [graph_mapRules, RuleGraph.isSome_pdr?_mapRules]
      · exact hdown
      · exact fun _ => rfl
  · rintro ⟨w, b', hw, rfl⟩
    refine ⟨_, ⟨w.toControl, w.toControlFar, w.peerHeader, w.ownHeader, hw.toControl,
      hw.toControlFar, ⟨hw.ends.uplink, hw.downlinkThere⟩, hw.peerHeader, hw.downlinkFarThere,
      hw.deviceThere, hw.ownHeader, rfl⟩, ?_⟩
    rw [result_wireDetection (hdistinct ..) hbearer]
    · refine ⟨w.fromControl, w.toControl, w.sharedEnd, w.fromEnd, b', hw.fromControl, hw.toControl,
        (hpicks ..).mpr hw.ends, hw.metersThere, ?_⟩
      rw [mapRules_mapRules, rules_mapRules, ← hw.uplinkFlows, ← hw.downlinkFlows, ← hw.meters,
        ← hw.uplink, ← hw.downlink, ← hw.downlinkFar, ← hw.device]
      rfl
    · rw [graph_mapRules, RuleGraph.isSome_pdr?_mapRules]
      · exact hw.downlinkThere
      · exact fun _ => rfl

/-! ## What the wiring leaves alone -/

end Session

/-- A detection rule without all that an installation writes to it, but for the limits of rates. -/
def Pdr.outline (p : Pdr) : Pdr :=
  { p with fTeid := none, ueAddress := none, flows := [], urrs := [] }

/-- A forwarding rule without what an installation writes to it. -/
def Far.outline (f : Far) : Far :=
  { f with action := {}, outerHeader := none }

namespace RuleGraph

/-- A graph without what the wiring of a session writes to its rules. -/
def outline (g : RuleGraph) : RuleGraph :=
  g.mapRules Pdr.outline Far.outline

variable {g g' : RuleGraph}

theorem counters_of_outline (h : g'.outline = g.outline) : g'.counters = g.counters := by
  have hcounters : g'.outline.counters = g.outline.counters := by rw [h]
  exact hcounters

theorem outline_updatePdr {f : Pdr → Pdr} (hf : ∀ p, (f p).outline = p.outline) (g : RuleGraph)
    (id : PdrId) : (g.updatePdr id f).outline = g.outline := by
  simp only [outline, mapRules, updatePdr, map_updateFirst fun p _ => hf p]

@[simp]
theorem outline_forwardInto (g : RuleGraph) (far : FarId) (header : OuterHeader) :
    (g.forwardInto far header).outline = g.outline := by
  simp only [outline, mapRules, forwardInto, updateFar]
  rw [map_updateFirst]
  exact fun _ _ => rfl

@[simp]
theorem outline_matchDevice (g : RuleGraph) (pdr : PdrId) (address : UeAddress) :
    (g.matchDevice pdr address).outline = g.outline := by
  rw [matchDevice, outline_updatePdr]
  exact fun _ => rfl

@[simp]
theorem outline_receiveAt (g : RuleGraph) (pdr : PdrId) (fTeid : FTeid) :
    (g.receiveAt pdr fTeid).outline = g.outline := by
  rw [receiveAt, outline_updatePdr]
  exact fun _ => rfl

@[simp]
theorem outline_matchSolicitations (g : RuleGraph) (pdr : PdrId) :
    (g.matchSolicitations pdr).outline = g.outline := by
  rw [matchSolicitations, outline_updatePdr]
  intro p
  split <;> rfl

theorem outline_associateUrr {pdr : PdrId} {urr : UrrId} (h : g.associateUrr pdr urr = .ok g') :
    g'.outline = g.outline := by
  obtain ⟨-, -, rfl⟩ := associateUrr_eq_ok.mp h
  rw [outline_updatePdr]
  exact fun _ => rfl

theorem outline_applyMeters {uplink downlink : PdrId} {ms : List Meter}
    (hok : (g.applyMeters uplink downlink ms).result = .ok g') : g'.outline = g.outline := by
  induction ms generalizing g with
  | nil =>
    rw [applyMeters, result_pure, Except.ok.injEq] at hok
    rw [hok]
  | cons m ms ih =>
    simp only [applyMeters, result_bind_eq_ok, result_ofGraph_eq_ok] at hok
    obtain ⟨_, -, g₁, hup, g₂, hdown, hrest⟩ := hok
    rw [ih hrest, outline_associateUrr hdown, outline_associateUrr hup]

end RuleGraph

namespace Session

variable {s s' : Session} {config : Config} {b : Bearer} {ms : List Meter}

theorem frame_wireForwarding (hok : (s.wireForwarding config b).result = .ok s') :
    s'.graph.outline = s.graph.outline ∧ s' = { s with graph := s'.graph } := by
  simp only [wireForwarding, wireBearer, wireControl, result_bind_eq_ok, result_pure,
    Except.ok.injEq] at hok
  obtain ⟨_, -, _, ⟨_, -, _, -, _, -, _, -, _, -, rfl⟩, _, -, _, -, rfl⟩ := hok
  exact ⟨by simp, rfl⟩

theorem frame_allocateEndpoints (hbearer : s.bearer = some b)
    (hok : s.allocateEndpoints.result = .ok s') :
    s'.graph.outline = s.graph.outline ∧
      ∃ localEnd, s' = { s with graph := s'.graph, bearer := some { b with localEnd } } := by
  simp only [allocateEndpoints, result_bind_eq_ok] at hok
  obtain ⟨node, -, hrest⟩ := hok
  split at hrest
  · next b' fromControl toControl hb' _ _ =>
    obtain rfl : b' = b := Option.some.inj (hb'.symm.trans hbearer)
    simp only [result_bind_eq_ok] at hrest
    obtain ⟨rule, -, hrest⟩ := hrest
    split at hrest
    · rw [result_pure, Except.ok.injEq] at hrest
      rw [← hrest]
      refine ⟨by simp, b'.localEnd, ?_⟩
      rw [← hbearer]
    · simp only [result_bind_eq_ok, result_pure, Except.ok.injEq] at hrest
      obtain ⟨localEnd, -, _, -, rfl⟩ := hrest
      exact ⟨by simp, localEnd, rfl⟩
  · cases hrest

theorem frame_applyMeters (hok : (s.applyMeters b ms).result = .ok s') :
    s'.graph.outline = s.graph.outline ∧ s' = { s with graph := s'.graph } := by
  simp only [applyMeters, result_bind_eq_ok, result_pure, Except.ok.injEq] at hok
  obtain ⟨g, hmeters, rfl⟩ := hok
  exact ⟨RuleGraph.outline_applyMeters hmeters, rfl⟩

theorem frame_applyFlows (s : Session) (b : Bearer) :
    (s.applyFlows b).value.graph.outline = s.graph.outline ∧
      (s.applyFlows b).value = { s with graph := (s.applyFlows b).value.graph } := by
  refine ⟨?_, rfl⟩
  simp only [applyFlows, Traced.value_bind, Traced.value_pure]
  rw [RuleGraph.outline_updatePdr, RuleGraph.outline_updatePdr] <;> exact fun _ => rfl

/-- Wiring a session gives its bearer a local end, and changes nothing else outside the graph. No
rule is added or removed. -/
theorem frame_wire (hbearer : s.bearer = some b) (hok : (s.wire config b ms).result = .ok s') :
    s'.graph.outline = s.graph.outline ∧
      ∃ localEnd, s' = { s with graph := s'.graph, bearer := some { b with localEnd } } := by
  simp only [wire, wireDetection, result_bind_eq_ok, result_lift, Except.ok.injEq] at hok
  obtain ⟨s₁, hforwarding, s₂, hends, s₃, hmeters, rfl⟩ := hok
  obtain ⟨hgraph₁, hs₁⟩ := frame_wireForwarding hforwarding
  have hbearer₁ : s₁.bearer = some b := by rw [hs₁, hbearer]
  obtain ⟨hgraph₂, localEnd, hs₂⟩ := frame_allocateEndpoints hbearer₁ hends
  obtain ⟨hgraph₃, hs₃⟩ := frame_applyMeters hmeters
  obtain ⟨hgraph₄, hs₄⟩ := frame_applyFlows s₃ b
  refine ⟨?_, localEnd, ?_⟩
  · rw [hgraph₄, hgraph₃, hgraph₂, hgraph₁]
  · rw [hs₄, hs₃, hs₂, hs₁]

end Session

end SessionControl
