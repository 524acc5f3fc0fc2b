import SessionControl.Proofs.Policy.Charging
import SessionControl.Proofs.Policy.Frame
import SessionControl.Proofs.Roaming.Step

/-!
# No promise is broken

A session that is established as it should be, with an address of the device, a node that has
endpoints and a peer that can be reached, never meets a fault afterwards: whatever the policy
server sends, whatever happens to the roaming machine, and however often the rules of the control
plane are asked for. What a stage of an installation needs of the session is kept by every stage,
and no counter of the rule graph has a say in it.

## Main definitions

- `RuleGraph.Retains` — no detection or forwarding rule goes away
- `Session.Equipped` — a session has all that an installation looks for
- `Session.Activity`, `Session.undergo` — what can happen to a session

## Main statements

- `Session.Equipped.exists_compile` — an installation succeeds, and leaves the session equipped
- `Session.Equipped.exists_undergo` — so does whatever else happens
- `Session.exists_result_undergoAll` — a session that is established properly meets no fault
-/

namespace SessionControl

open Attempt
open RuleGraph (Meter)

/-! ## Rules that stay -/

/-- The default bearer of a session, as it is set up. -/
def Bearer.established (id : UInt64) (ebi : UInt8) (peerEnd : Endpoint) : Bearer :=
  { id, ebi, uplinkPdr := 1, downlinkPdr := 2, uplinkFar := 1, downlinkFar := 2, peerEnd }

namespace RuleGraph

/-- The detection and forwarding rules of a graph are in another one as well. -/
structure Retains (g g' : RuleGraph) : Prop where
  pdrs : g.pdrs.map (·.id) ⊆ g'.pdrs.map (·.id)
  fars : g.fars.map (·.id) ⊆ g'.fars.map (·.id)

/-- The rules of a default bearer are in the graph. -/
structure Carries (g : RuleGraph) (b : Bearer) : Prop where
  uplink : (g.pdr? b.uplinkPdr).isSome
  downlink : (g.pdr? b.downlinkPdr).isSome
  downlinkFar : (g.far? b.downlinkFar).isSome

theorem carries_established (base : UInt32) (id : UInt64) (ebi : UInt8) (peerEnd : Endpoint) :
    (established base).Carries (.established id ebi peerEnd) :=
  ⟨rfl, rfl, rfl⟩

variable {g g' g'' : RuleGraph} {b : Bearer} {ms : List Meter}

namespace Retains

theorem of_ids (hpdrs : g'.pdrs.map (·.id) = g.pdrs.map (·.id))
    (hfars : g'.fars.map (·.id) = g.fars.map (·.id)) : g.Retains g' where
  pdrs := by rw [hpdrs]; exact List.Subset.refl _
  fars := by rw [hfars]; exact List.Subset.refl _

theorem refl (g : RuleGraph) : g.Retains g := of_ids rfl rfl

theorem trans (h : g.Retains g') (h' : g'.Retains g'') : g.Retains g'' where
  pdrs := List.Subset.trans h.pdrs h'.pdrs
  fars := List.Subset.trans h.fars h'.fars

theorem of_outline (h : g'.outline = g.outline) : g.Retains g' := by
  have hpdrs : ∀ g : RuleGraph, g.outline.pdrs.map (·.id) = g.pdrs.map (·.id) := by
    intro g
    simp [outline, mapRules, Pdr.outline]
  have hfars : ∀ g : RuleGraph, g.outline.fars.map (·.id) = g.fars.map (·.id) := by
    intro g
    simp [outline, mapRules, Far.outline]
  refine of_ids ?_ ?_
  · rw [← hpdrs g', h, hpdrs g]
  · rw [← hfars g', h, hfars g]

theorem isSome_pdr? (h : g.Retains g') {id : PdrId} (hid : (g.pdr? id).isSome) :
    (g'.pdr? id).isSome := by
  rw [pdr?, isSome_find?_key] at hid ⊢
  exact h.pdrs hid

theorem isSome_far? (h : g.Retains g') {id : FarId} (hid : (g.far? id).isSome) :
    (g'.far? id).isSome := by
  rw [far?, isSome_find?_key] at hid ⊢
  exact h.fars hid

end Retains

theorem Carries.mono (h : g.Carries b) (hg : g.Retains g') : g'.Carries b where
  uplink := hg.isSome_pdr? h.uplink
  downlink := hg.isSome_pdr? h.downlink
  downlinkFar := hg.isSome_far? h.downlinkFar

theorem UrrsChanged.retains (h : g.UrrsChanged g') : g.Retains g' := by
  obtain ⟨onUrrs, h⟩ := h
  rw [h]
  exact .of_ids (by simp) rfl

theorem QersChanged.retains (h : g.QersChanged g') : g.Retains g' := by
  obtain ⟨onQers, h⟩ := h
  rw [h]
  exact .of_ids (by simp) rfl

theorem MayAddPdr.retains (h : g.MayAddPdr g') : g.Retains g' := by
  obtain rfl | ⟨pdr, -, -, rfl⟩ := h
  · exact .refl _
  · exact ⟨by simp, List.Subset.refl _⟩

theorem MayAddFar.retains (h : g.MayAddFar g') : g.Retains g' := by
  obtain rfl | ⟨far, -, rfl⟩ := h
  · exact .refl _
  · exact ⟨List.Subset.refl _, by simp⟩

theorem exists_associateQer {pdr : PdrId} {qer : QerId} (hqer : (g.qer? qer).isSome)
    (hpdr : (g.pdr? pdr).isSome) :
    ∃ g', g.associateQer pdr qer = .ok g' ∧ g.Retains g' ∧ g'.qers = g.qers := by
  refine ⟨_, associateQer_eq_ok.mpr ⟨hqer, hpdr, rfl⟩, .of_ids ?_ rfl, rfl⟩
  rw [updatePdr, map_updateFirst]
  exact fun _ _ => rfl

/-- Meters can be applied to rules that are there if they are there themselves. -/
theorem exists_applyMeters (h : g.Carries b) (hms : ∀ m ∈ ms, (g.urr? m.urr).isSome) :
    ∃ g', (g.applyMeters b.uplinkPdr b.downlinkPdr ms).result = .ok g' := by
  induction ms generalizing g with
  | nil => exact ⟨g, rfl⟩
  | cons m ms ih =>
    rw [List.forall_mem_cons] at hms
    have happlied : ∀ {g₁ : RuleGraph} {pdr : PdrId}, g₁.Carries b → g₁.urrs = g.urrs →
        (g₁.pdr? pdr).isSome →
        ∃ g₂, g₁.associateUrr pdr m.urr = .ok g₂ ∧ g₂.Carries b ∧ g₂.urrs = g.urrs := by
      intro g₁ pdr hcarries hurrs hpdr
      have hurr : (g₁.urr? m.urr).isSome := by
        rw [urr?, hurrs]
        exact hms.1
      have hok := associateUrr_eq_ok.mpr ⟨hurr, hpdr, rfl⟩
      exact ⟨_, hok, hcarries.mono (.of_outline (outline_associateUrr hok)), hurrs⟩
    obtain ⟨g₁, hup, h₁, hurrs₁⟩ := happlied h rfl h.uplink
    obtain ⟨g₂, hdown, h₂, hurrs₂⟩ := happlied h₁ hurrs₁ h₁.downlink
    obtain ⟨g', hrest⟩ := ih h₂ fun m' hm' => by
      rw [urr?, hurrs₂]
      exact hms.2 m' hm'
    simp only [applyMeters, result_bind_eq_ok, result_ofGraph_eq_ok]
    exact ⟨g', (), rfl, g₁, hup, g₂, hdown, hrest⟩

/-- A renewal gives meters that are there, whether or not a number is given twice. -/
theorem isSome_urr?_renewMeters (g : RuleGraph) (config : MeterConfig)
    (rules : List Policy.Rule) :
    ∀ m ∈ (g.renewMeters config rules).value.1,
      ((g.renewMeters config rules).value.2.urr? m.urr).isSome := by
  intro m hm
  have hrenewal := (renewal_installMeters config rules (Policy.ratingGroups rules)
    (g.removeStaleMeters (Policy.ratingGroups rules)).value).1
  obtain ⟨u, hu, -⟩ := (hrenewal.metered m hm).settled
  exact Option.isSome_of_mem hu

end RuleGraph

theorem OuterHeader.isSome_to? {e : Endpoint} (h : e.isUnreachable = false) :
    (OuterHeader.to? e).isSome := by
  rw [OuterHeader.to?, h]
  rfl

namespace Session

variable {s s' : Session} {config : Config} {b : Bearer} {d : Policy.Decision} {ms : List Meter}

/-- A session has all that an installation looks for apart from the rules of the control plane,
which an installation adds. -/
structure Equipped (s : Session) (config : Config) (b : Bearer) : Prop where
  bearer : s.bearer = some b
  carried : s.graph.Carries b
  peer : b.peerEnd.isUnreachable = false
  toControlFar : ∀ id, s.toControlFar = some id → (s.graph.far? id).isSome
  device : s.device.addr.isSome ∨ s.device.addr6.isSome
  node : ∃ n, s.node = some n ∧ (n.picksEndpoints = true ∨ n.addresses ≠ [])
  tunnel : ∀ index, (config.tunnelEnd index).isUnreachable = false

/-- What a stage leaves alone that keeps the rules it finds. -/
theorem Equipped.of_retains (h : s.Equipped config b) (hgraph : s.graph.Retains s'.graph)
    {localEnd : Endpoint} (hbearer : s'.bearer = some { b with localEnd })
    (hfar : s'.toControlFar = s.toControlFar) (hipv4 : s'.ipv4 = s.ipv4)
    (hipv6 : s'.ipv6 = s.ipv6) (hnode : s'.node = s.node) :
    s'.Equipped config { b with localEnd } where
  bearer := hbearer
  carried := ⟨hgraph.isSome_pdr? h.carried.uplink, hgraph.isSome_pdr? h.carried.downlink,
    hgraph.isSome_far? h.carried.downlinkFar⟩
  peer := h.peer
  toControlFar := by
    intro id hid
    rw [hfar] at hid
    exact hgraph.isSome_far? (h.toControlFar id hid)
  device := by
    rw [Session.device, hipv4, hipv6]
    exact h.device
  node := by
    rw [hnode]
    exact h.node
  tunnel := h.tunnel

/-! ## The rules of the control plane -/

theorem exists_ensureFromControlPdr {far : FarId} (h : (s.graph.far? far).isSome) :
    ∃ s', (s.ensureFromControlPdr far).result = .ok s' := by
  rw [ensureFromControlPdr]
  split
  · exact ⟨s, rfl⟩
  · exact ⟨_, result_bind_eq_ok.mpr ⟨_, result_addPdr .cpFunction h, rfl⟩⟩

theorem exists_ensureToControlPdr (h : (s.graph.far? (s.toControlFar.getD 0)).isSome) :
    ∃ s', s.ensureToControlPdr.result = .ok s' := by
  rw [ensureToControlPdr]
  split
  · exact ⟨s, rfl⟩
  · exact ⟨_, result_bind_eq_ok.mpr ⟨_, result_addPdr .access h, rfl⟩⟩

/-- The rule that forwards to the control plane is there after it has been added if need be. -/
theorem isSome_far?_ensureToControlFar
    (h : ∀ id, s.toControlFar = some id → (s.graph.far? id).isSome) :
    ∃ id, s.ensureToControlFar.toControlFar = some id ∧
      (s.ensureToControlFar.graph.far? id).isSome := by
  rw [ensureToControlFar]
  split
  · next hsome =>
    obtain ⟨id, hid⟩ := Option.isSome_iff_exists.mp hsome
    exact ⟨id, hid, h id hid⟩
  · refine ⟨_, rfl, ?_⟩
    rw [RuleGraph.far?, isSome_find?_key]
    simp [addFar, RuleGraph.addFar]

theorem retains_createForwarding (h : s.createForwarding.result = .ok s') :
    s.graph.Retains s'.graph := by
  simp only [createForwarding, result_bind_eq_ok] at h
  obtain ⟨_, -, s₁, hfrom, hto⟩ := h
  have hfirst := (result_ensureFromControlPdr hfrom).1.retains
  have hsecond := (ensureToControlFar_eq s₁).1.retains
  exact hfirst.trans (hsecond.trans (result_ensureToControlPdr hto).1.retains)

theorem Equipped.exists_createForwarding (h : s.Equipped config b) :
    ∃ s', s.createForwarding.result = .ok s' ∧ s'.Equipped config b := by
  obtain ⟨s₁, hfrom⟩ := exists_ensureFromControlPdr h.carried.downlinkFar
  obtain ⟨hadd₁, -, hs₁⟩ := result_ensureFromControlPdr hfrom
  have hthere₁ : ∀ id, s₁.toControlFar = some id → (s₁.graph.far? id).isSome := by
    intro id hid
    rw [hs₁] at hid
    exact hadd₁.retains.isSome_far? (h.toControlFar id hid)
  obtain ⟨far, hfar, hthere⟩ := isSome_far?_ensureToControlFar hthere₁
  obtain ⟨-, -, hs₂⟩ := ensureToControlFar_eq s₁
  obtain ⟨s', hto⟩ := exists_ensureToControlPdr (s := s₁.ensureToControlFar) (by
    rw [hfar]
    exact hthere)
  obtain ⟨hadd₃, -, hs₃⟩ := result_ensureToControlPdr hto
  have hok : s.createForwarding.result = .ok s' := by
    simp only [createForwarding, result_bind_eq_ok, result_require_eq_ok]
    exact ⟨b, h.bearer, s₁, hfrom, hto⟩
  refine ⟨s', hok, ?_⟩
  exact {
    bearer := by rw [hs₃, hs₂, hs₁]; exact h.bearer
    carried := h.carried.mono (retains_createForwarding hok)
    peer := h.peer
    toControlFar := by
      intro id hid
      rw [hs₃, hfar] at hid
      obtain rfl := Option.some.inj hid
      exact hadd₃.retains.isSome_far? hthere
    device := by rw [hs₃, hs₂, hs₁]; exact h.device
    node := by rw [hs₃, hs₂, hs₁]; exact h.node
    tunnel := h.tunnel }

/-! ## The wiring -/

theorem Equipped.exists_wireForwarding (h : s.Equipped config b) (hto : s.toControlPdr.isSome)
    (hfar : s.toControlFar.isSome) : ∃ s', (s.wireForwarding config b).result = .ok s' := by
  obtain ⟨toControl, hto⟩ := Option.isSome_iff_exists.mp hto
  obtain ⟨far, hfar⟩ := Option.isSome_iff_exists.mp hfar
  obtain ⟨peer, hpeer⟩ := Option.isSome_iff_exists.mp (OuterHeader.isSome_to? h.peer)
  obtain ⟨own, hown⟩ :=
    Option.isSome_iff_exists.mp (OuterHeader.isSome_to? (h.tunnel s.index))
  have hpdrs : ((s.graph.pdr? b.uplinkPdr).isSome && (s.graph.pdr? b.downlinkPdr).isSome) =
      true := by
    rw [h.carried.uplink, h.carried.downlink]
    rfl
  have hdevice : (s.device.addr.isSome || s.device.addr6.isSome) = true := by
    simpa using h.device
  have hrules : s.controlRules.result = .ok ⟨toControl, far⟩ :=
    result_controlRules.mpr ⟨hto, hfar⟩
  simp only [wireForwarding, wireBearer, wireControl, deviceAddress, result_bind_eq_ok,
    result_ensure_eq_ok, result_require_eq_ok, result_lift, result_pure, Except.ok.injEq]
  exact ⟨_, _, hrules, _, ⟨(), hpdrs, peer, hpeer, (), h.carried.downlinkFar, (), trivial,
    s.device, ⟨(), hdevice, rfl⟩, rfl⟩, own, hown, (), trivial, rfl⟩

theorem isSome_advertisedEnd {node : UserPlane.Node} (h : node.addresses ≠ [])
    (network : Option String) (rule : Pdr) : (advertisedEnd node network rule).isSome := by
  rw [advertisedEnd]
  cases node.resource? network rule.source with
  | some r => rfl
  | none =>
    cases haddresses : node.addresses with
    | nil => exact absurd haddresses h
    | cons a as => cases a <;> rfl

theorem Equipped.exists_allocateEndpoints (h : s.Equipped config b)
    (hfrom : s.fromControlPdr.isSome) (hto : s.toControlPdr.isSome) :
    ∃ s', s.allocateEndpoints.result = .ok s' := by
  obtain ⟨fromControl, hfrom⟩ := Option.isSome_iff_exists.mp hfrom
  obtain ⟨toControl, hto⟩ := Option.isSome_iff_exists.mp hto
  obtain ⟨node, hnode, hends⟩ := h.node
  obtain ⟨rule, hrule⟩ := Option.isSome_iff_exists.mp h.carried.uplink
  simp only [allocateEndpoints, result_bind_eq_ok, result_require_eq_ok, hnode, h.bearer, hfrom,
    hto, Option.some.injEq, exists_eq_left']
  cases hpicks : node.picksEndpoints with
  | true => exact ⟨_, rule, hrule, rfl⟩
  | false =>
    have haddresses : node.addresses ≠ [] := by simpa [hpicks] using hends
    obtain ⟨localEnd, hend⟩ :=
      Option.isSome_iff_exists.mp (isSome_advertisedEnd haddresses s.name rule)
    simp only [Bool.false_eq_true, if_false, result_bind_eq_ok, result_require_eq_ok]
    exact ⟨_, rule, hrule, localEnd, hend, (), rfl, rfl⟩

theorem Equipped.exists_wire (h : s.Equipped config b) (hfrom : s.fromControlPdr.isSome)
    (hto : s.toControlPdr.isSome) (hfar : s.toControlFar.isSome)
    (hms : ∀ m ∈ ms, (s.graph.urr? m.urr).isSome) :
    ∃ s' localEnd, (s.wire config b ms).result = .ok s' ∧
      s'.Equipped config { b with localEnd } := by
  obtain ⟨s₁, hforwarding⟩ := h.exists_wireForwarding hto hfar
  obtain ⟨houtline₁, hs₁⟩ := frame_wireForwarding hforwarding
  have h₁ : s₁.Equipped config b := by
    refine h.of_retains (.of_outline houtline₁) ?_ ?_ ?_ ?_ ?_
    · rw [hs₁]; exact h.bearer
    all_goals rw [hs₁]
  obtain ⟨s₂, hends⟩ := h₁.exists_allocateEndpoints (by rw [hs₁]; exact hfrom)
    (by rw [hs₁]; exact hto)
  obtain ⟨houtline₂, localEnd, hs₂⟩ := frame_allocateEndpoints h₁.bearer hends
  have hurrs : s₂.graph.urrs = s.graph.urrs := by
    have houtline : s₂.graph.outline.urrs = s.graph.outline.urrs := by
      rw [houtline₂, houtline₁]
    exact houtline
  have hms₂ : ∀ m ∈ ms, (s₂.graph.urr? m.urr).isSome := by
    intro m hm
    rw [RuleGraph.urr?, hurrs]
    exact hms m hm
  obtain ⟨g, hmeters⟩ :=
    RuleGraph.exists_applyMeters (h₁.carried.mono (.of_outline houtline₂)) hms₂
  have hok : (s.wire config b ms).result =
      .ok (Session.applyFlows { s₂ with graph := g } b).value := by
    simp only [wire, wireDetection, applyMeters, result_bind_eq_ok, result_pure, result_lift,
      Except.ok.injEq]
    exact ⟨s₁, hforwarding, s₂, hends, _, ⟨g, hmeters, rfl⟩, rfl⟩
  obtain ⟨houtline, localEnd', hs'⟩ := frame_wire h.bearer hok
  refine ⟨_, localEnd', hok, h.of_retains (.of_outline houtline) ?_ ?_ ?_ ?_ ?_⟩
  all_goals rw [hs']

/-! ## The rates -/

theorem isSome_qer?_ensureRatesQer (s : Session) :
    (s.ensureRatesQer.2.graph.qer? s.ensureRatesQer.1).isSome := by
  rw [ensureRatesQer]
  split
  · next id hid =>
    have hthere : (s.graph.qer? id).isSome := (Option.filter_eq_some_iff.mp hid).2
    change ((s.graph.updateQer id fun q => { q with maximum := s.rates }).qer? id).isSome = true
    rw [RuleGraph.updateQer, RuleGraph.qer?, find?_key_updateFirst, Option.isSome_map]
    · exact hthere
    · exact fun _ => rfl
  · rw [RuleGraph.qer?, isSome_find?_key]
    simp [RuleGraph.addQer]

/-- The rates can be limited if the rules of the bearer are there, and then they stay there. -/
theorem exists_limitRates (h : s.graph.Carries b) :
    ∃ s', (s.limitRates b).result = .ok s' ∧ s.graph.Retains s'.graph := by
  cases hzero : s.rates.isZero with
  | true =>
    refine ⟨s.dropRatesQer, ?_, (dropRatesQer_eq s).1.retains⟩
    rw [limitRates, if_pos hzero]
    rfl
  | false =>
    have hensure := (ensureRatesQer_frame s).1.retains
    have hqer := isSome_qer?_ensureRatesQer s
    obtain ⟨g₁, hdown, hretains₁, hqers₁⟩ :=
      RuleGraph.exists_associateQer hqer (hensure.isSome_pdr? h.downlink)
    rw [RuleGraph.qer?, ← hqers₁] at hqer
    obtain ⟨g₂, hup, hretains₂, -⟩ := RuleGraph.exists_associateQer hqer
      (hretains₁.isSome_pdr? (hensure.isSome_pdr? h.uplink))
    exact ⟨_, (result_limitRates_of_pos hzero).mpr ⟨g₂, ⟨g₁, hdown, hup⟩, rfl⟩,
      hensure.trans (hretains₁.trans hretains₂)⟩

/-! ## The whole installation -/

theorem isSome_urr?_renewed (s : Session) (config : Config) (d : Policy.Decision) :
    ∀ m ∈ (s.renewMeters config d).value.1,
      ((s.renewed config d).graph.urr? m.urr).isSome := by
  rw [renewed, renewMeters]
  split
  · intro m hm
    exact absurd hm List.not_mem_nil
  · exact s.graph.isSome_urr?_renewMeters config.meter d.rules

/-- An installation succeeds on a session that is equipped, and leaves it equipped. -/
theorem Equipped.exists_compile (h : s.Equipped config b) (d : Policy.Decision) :
    ∃ s' localEnd, (s.compile config d).result = .ok s' ∧
      s'.Equipped config { b with localEnd } := by
  obtain ⟨hurrs, hrenewed⟩ := s.frame_renewed config d
  have h₀ : (s.renewed config d).Equipped config b := by
    refine h.of_retains hurrs.retains ?_ ?_ ?_ ?_ ?_
    · rw [hrenewed]; exact h.bearer
    all_goals rw [hrenewed]
  obtain ⟨s₁, hcreate, h₁⟩ := h₀.exists_createForwarding
  obtain ⟨hgrown, ⟨hfrom, hto, hfar⟩, -⟩ := grown_createForwarding hcreate
  have hms : ∀ m ∈ (s.renewMeters config d).value.1, (s₁.graph.urr? m.urr).isSome := by
    intro m hm
    rw [RuleGraph.urr?, hgrown.frame]
    exact s.isSome_urr?_renewed config d m hm
  obtain ⟨s₂, localEnd, hwire, h₂⟩ := h₁.exists_wire hfrom hto hfar hms
  have hcarries : (s₂.storeQuality d).graph.Carries b := by
    rw [graph_storeQuality]
    exact ⟨h₂.carried.uplink, h₂.carried.downlink, h₂.carried.downlinkFar⟩
  obtain ⟨s', hlimit, hretains⟩ := exists_limitRates hcarries
  rw [graph_storeQuality] at hretains
  have hs' := frame_limitRates hlimit
  rw [storeQuality_eq] at hs'
  refine ⟨s', localEnd, result_compile.mpr ⟨b, s₁, s₂, h₀.bearer, hcreate, hwire, hlimit⟩, ?_⟩
  refine h₂.of_retains hretains ?_ ?_ ?_ ?_ ?_
  · rw [hs']; exact h₂.bearer
  all_goals rw [hs']

/-! ## A new session -/

theorem result_createBearer_new (id : UInt64) (index : UInt32) (imsi : String)
    (name : Option String) (ipv4 : Option Address.V4) (ipv6 : Option (UInt8 × Address.V6))
    (node : Option UserPlane.Node) (ebi : UInt8) (peerEnd : Endpoint) :
    (createBearer { Session.new id index imsi name with ipv4, ipv6, node } ebi peerEnd).result =
      .ok { Session.new id index imsi name with
        ipv4, ipv6, node
        bearer := some (.established id ebi peerEnd)
        graph := .established (Teid.base index) } := rfl

/-! ## Whatever happens -/

theorem Equipped.exists_handlePolicy (h : s.Equipped config b) (m : Policy.Message) :
    ∃ answer s' localEnd, (s.handlePolicy config m).result = .ok (answer, s') ∧
      s'.Equipped config { b with localEnd } := by
  cases hkind : m.kind with
  | initialAnswer =>
    simp only [handlePolicy, hkind, result_bind_eq_ok, result_pure, Except.ok.injEq,
      Prod.mk.injEq]
    cases hrefusal : s.refusal? config m with
    | some refusal =>
      have hinstall : (s.install config m).result = .ok (refusal.answer, s) := by
        rw [result_install, hrefusal]
        exact ⟨rfl, rfl⟩
      exact ⟨_, s, b.localEnd, ⟨_, hinstall, rfl, rfl⟩, h⟩
    | none =>
      obtain ⟨s', localEnd, hcompile, h'⟩ := h.exists_compile m.decision
      have hinstall : (s.install config m).result = .ok (ResultCode.success, s') := by
        rw [result_install, hrefusal]
        exact ⟨rfl, hcompile⟩
      exact ⟨_, s', localEnd, ⟨_, hinstall, rfl, rfl⟩, h'⟩
  | terminationAnswer =>
    refine ⟨some ResultCode.success, s, b.localEnd, ?_, h⟩
    rw [handlePolicy, hkind]
    rfl
  | updateAnswer =>
    refine ⟨none, s, b.localEnd, ?_, h⟩
    rw [handlePolicy, hkind]
    rfl
  | reauthorize =>
    refine ⟨some ResultCode.success, { s with rules := m.decision.rules }, b.localEnd, ?_,
      ⟨h.bearer, h.carried, h.peer, h.toControlFar, h.device, h.node, h.tunnel⟩⟩
    rw [handlePolicy, hkind]
    rfl

/-- What can happen to a session: a message of the policy server, an event for its roaming
machine with whatever the collaborators answer, or that the rules of the control plane are asked
for. -/
inductive Activity where
  | policy (m : Policy.Message)
  | roaming (peers : Peers) (e : Roaming.Event)
  | forwarding

def undergo (config : Config) (s : Session) : Activity → Attempt Session
  | .policy m => do
    let (_, s) ← s.handlePolicy config m
    pure s
  | .roaming peers e => do
    let (_, s) ← s.dispatch config.responseTimer peers e
    pure s
  | .forwarding => s.createForwarding

def undergoAll (config : Config) (s : Session) (activities : List Activity) : Attempt Session :=
  activities.foldlM (undergo config) s

theorem Equipped.exists_undergo (h : s.Equipped config b) (a : Activity) :
    ∃ s' localEnd, (s.undergo config a).result = .ok s' ∧
      s'.Equipped config { b with localEnd } := by
  cases a with
  | policy m =>
    obtain ⟨answer, s', localEnd, hok, h'⟩ := h.exists_handlePolicy m
    exact ⟨s', localEnd, result_bind_eq_ok.mpr ⟨_, hok, rfl⟩, h'⟩
  | roaming peers e =>
    have hdispatch := s.session_dispatch config.responseTimer peers e
    refine ⟨(s.dispatch config.responseTimer peers e).value.2, b.localEnd, rfl, ?_⟩
    rw [hdispatch]
    exact ⟨h.bearer, h.carried, h.peer, h.toControlFar, h.device, h.node, h.tunnel⟩
  | forwarding =>
    obtain ⟨s', hok, h'⟩ := h.exists_createForwarding
    exact ⟨s', b.localEnd, hok, h'⟩

theorem Equipped.exists_undergoAll (h : s.Equipped config b) (activities : List Activity) :
    ∃ s', (s.undergoAll config activities).result = .ok s' := by
  have hstep : ∀ a ∈ activities, ∀ s, (∃ b, Equipped s config b) →
      ∃ s', (undergo config s a).result = .ok s' ∧ ∃ b, s'.Equipped config b := by
    rintro a - s ⟨b, hs⟩
    obtain ⟨s', localEnd, hok, hs'⟩ := hs.exists_undergo a
    exact ⟨s', hok, _, hs'⟩
  obtain ⟨s', hok, -⟩ := exists_result_foldlM hstep ⟨b, h⟩
  exact ⟨s', hok⟩

/-- A session meets no fault, neither when its default bearer is set up nor in anything that happens
afterwards, if the configuration is in order, the device has an address, the node picks endpoints
itself or has an address, and the peer has one. -/
theorem exists_result_undergoAll {id : UInt64} {index : UInt32} {imsi : String}
    {name : Option String} {ipv4 : Option Address.V4} {ipv6 : Option (UInt8 × Address.V6)}
    {node : UserPlane.Node} {ebi : UInt8} {peerEnd : Endpoint}
    (hconfig : config.check = .ok config) (hdevice : ipv4.isSome ∨ ipv6.isSome)
    (hnode : node.picksEndpoints = true ∨ node.addresses ≠ [])
    (hpeer : peerEnd.isUnreachable = false) (activities : List Activity) :
    ∃ s₀ s, (createBearer { Session.new id index imsi name with ipv4, ipv6, node := some node } ebi
        peerEnd).result = .ok s₀ ∧
      (s₀.undergoAll config activities).result = .ok s := by
  have htunnel : ∀ index, (config.tunnelEnd index).isUnreachable = false := by
    intro index
    have hflaw := (Config.check_eq_ok_iff.mp hconfig).1
    rw [Config.flaw?] at hflaw
    split_ifs at hflaw with _ _ _ hmissing
    exact Bool.not_eq_true _ ▸ hmissing
  have hnew := result_createBearer_new id index imsi name ipv4 ipv6 (some node) ebi peerEnd
  refine ⟨_, (Equipped.exists_undergoAll (b := .established id ebi peerEnd) ?_ activities).imp
    fun s hok => ⟨hnew, hok⟩⟩
  exact {
    bearer := rfl
    carried := RuleGraph.carries_established ..
    peer := hpeer
    toControlFar := by
      intro id hid
      cases hid
    device := by
      rw [Session.device, Option.isSome_map]
      exact hdevice
    node := ⟨node, rfl, hnode⟩
    tunnel := htunnel }

/-- The rules of the control plane are asked for, and two decisions are installed; in between the
peer asks for a session, the user-plane node refuses it, and the timer runs out. -/
def eventful : List Activity :=
  [.forwarding, .policy (metering [10, 20]),
    .roaming (.failing (some "busy") none) (.message 7 .createSessionRequest),
    .roaming .working (.timer 7), .forwarding, .policy (metering [20, 30])]

theorem exists_result_undergoAll_eventful :
    ∃ s₀ s, (createBearer { Session.new 1 1 "001010000000001" (some "internet") with
        ipv4 := none, ipv6 := some (64, default)
        node := some { addresses := [.v4 ⟨10, 0, 0, 9⟩] } } 5
        { teid := 7, addr := some ⟨10, 0, 0, 1⟩ }).result = .ok s₀ ∧
      (s₀.undergoAll {} eventful).result = .ok s := by
  have hconfig : ({} : Config).check = .ok {} := Config.check_eq_ok_iff.mpr ⟨by decide, rfl⟩
  exact exists_result_undergoAll hconfig (Or.inr rfl) (Or.inr (by decide)) rfl eventful

end Session

end SessionControl
