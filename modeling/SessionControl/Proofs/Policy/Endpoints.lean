import SessionControl.Proofs.Policy.Treatment
import SessionControl.Proofs.Policy.Tunnels

/-!
# Tunnel endpoints of a session

Where packets for a session are received. A user-plane node that picks tunnel endpoints itself is
asked to do so, and nobody here knows what it picks. For any other node an installation picks what
the node advertises. The rule of the uplink and the one to the control plane then have the endpoint
that becomes the local end of the bearer; the rule from the control plane has the same addresses and
another number. A resource may be without an address, and then the endpoints are as well.

## Main definitions

- `UserPlane.Node.Advertises` — the endpoint that a node advertises for a tunnel index
- `RuleGraph.Indexed` — the detection rules have the tunnel indices that follow a base
- `Session.EndsAt` — the endpoints that an installation gives to the rules and to the bearer
- `FTeid.Usable` — an endpoint says where packets are received, or leaves that to the node

## Main statements

- `Session.Operating.endsAt_compile` — what an installation makes of the endpoints
- `Session.ends_of_policyHistory` — the rules agree with each other and with the bearer
- `Session.usable_iff_of_policyHistory` — when all endpoints can be used
-/

namespace SessionControl

open Attempt

/-! ## What a node advertises -/

namespace UserPlane

/-- A resource is for a network and an interface, or for any of either. -/
def Resource.IsFor (r : Resource) (network : Option String) (source : Interface) : Prop :=
  (r.network = none ∨ r.network = network) ∧ (r.source = none ∨ r.source = some source)

theorem Resource.serves_iff {r : Resource} {network : Option String} {source : Interface} :
    r.serves network source = true ↔ r.IsFor network source := by
  simp [serves, IsFor]

namespace Node

variable {n : Node} {network : Option String} {source : Interface} {index : UInt32} {e : Endpoint}
  {r : Resource}

theorem resource?_eq_some_iff : n.resource? network source = some r ↔
    r.IsFor network source ∧ ∃ before after, n.resources = before ++ r :: after ∧
      ∀ x ∈ before, ¬x.IsFor network source := by
  simp only [resource?, List.find?_eq_some_iff_append, Resource.serves_iff, Bool.not_eq_true',
    Bool.eq_false_iff, ne_eq]

theorem resource?_eq_none_iff : n.resource? network source = none ↔
    ∀ x ∈ n.resources, ¬x.IsFor network source := by
  simp only [resource?, List.find?_eq_none, Resource.serves_iff]

/-- The endpoint that a node advertises for a tunnel index: that of its first resource for the
network and the interface, or else its first address. The index is mapped into the range of the
resource, if it has one. -/
inductive Advertises (n : Node) (network : Option String) (source : Interface) (index : UInt32) :
    Endpoint → Prop
  | resource {before after : List Resource} {r : Resource}
      (hresources : n.resources = before ++ r :: after) (hfor : r.IsFor network source)
      (hfirst : ∀ x ∈ before, ¬x.IsFor network source) :
      Advertises n network source index
        { teid := if r.rangeBits = 0 then index else Teid.inRange index r.rangeBits r.range
          addr := r.addr
          addr6 := r.addr6 }
  | addr {a : Address.V4} {rest : List Address.Any}
      (hnone : ∀ x ∈ n.resources, ¬x.IsFor network source)
      (haddr : n.addresses = .v4 a :: rest) :
      Advertises n network source index { teid := index, addr := some a }
  | addr6 {a : Address.V6} {rest : List Address.Any}
      (hnone : ∀ x ∈ n.resources, ¬x.IsFor network source)
      (haddr : n.addresses = .v6 a :: rest) :
      Advertises n network source index { teid := index, addr6 := some a }

theorem advertises_of_advertisedEnd {p : Pdr} (h : Session.advertisedEnd n network p = some e) :
    n.Advertises network p.source p.teid e := by
  rw [Session.advertisedEnd] at h
  cases hresource : n.resource? network p.source with
  | some r =>
    rw [hresource] at h
    obtain rfl := Option.some.inj h
    obtain ⟨hfor, before, after, hresources, hfirst⟩ := resource?_eq_some_iff.mp hresource
    have hteid : Teid.inRange p.teid r.rangeBits r.range =
        if r.rangeBits = 0 then p.teid else Teid.inRange p.teid r.rangeBits r.range := by
      by_cases hzero : r.rangeBits = 0
      · rw [if_pos hzero, Teid.inRange, if_pos hzero]
      · rw [if_neg hzero]
    rw [hteid]
    exact .resource hresources hfor hfirst
  | none =>
    rw [hresource] at h
    have hnone := resource?_eq_none_iff.mp hresource
    cases haddr : n.addresses with
    | nil =>
      rw [haddr] at h
      cases h
    | cons a rest =>
      rw [haddr] at h
      cases a with
      | v4 a =>
        obtain rfl := Option.some.inj h
        exact .addr hnone haddr
      | v6 a =>
        obtain rfl := Option.some.inj h
        exact .addr6 hnone haddr

namespace Advertises

/-- What is advertised has an address unless it is that of a resource without one. -/
theorem isSome_addr_iff (h : n.Advertises network source index e) :
    (e.addr.isSome ∨ e.addr6.isSome) ↔
      ∀ r, n.resource? network source = some r → r.addr.isSome ∨ r.addr6.isSome := by
  cases h with
  | resource hresources hfor hfirst =>
    have hresource := resource?_eq_some_iff.mpr ⟨hfor, _, _, hresources, hfirst⟩
    rw [hresource]
    exact ⟨fun haddr r hr => Option.some.inj hr ▸ haddr, fun hall => hall _ rfl⟩
  | addr hnone _ =>
    rw [resource?_eq_none_iff.mpr hnone]
    exact iff_of_true (.inl rfl) fun r hr => by cases hr
  | addr6 hnone _ =>
    rw [resource?_eq_none_iff.mpr hnone]
    exact iff_of_true (.inr rfl) fun r hr => by cases hr

/-- Mapped into a range or not, the low bits of the number are those of the index. -/
theorem toNat_teid_mod (h : n.Advertises network source index e) :
    e.teid.toNat % 2 ^ 25 = index.toNat % 2 ^ 25 := by
  cases h with
  | resource _ _ _ =>
    dsimp only
    split
    · rfl
    · exact Teid.toNat_inRange_mod ..
  | addr _ _ => rfl
  | addr6 _ _ => rfl

/-- So the number differs from the tunnel indices nearby. -/
theorem teid_ne {base : UInt32} (h : n.Advertises network source (base + 1) e) :
    e.teid ≠ base + 3 := by
  intro hteid
  have hmod := h.toNat_teid_mod
  rw [hteid, UInt32.toNat_add, UInt32.toNat_add] at hmod
  change (base.toNat + 3) % 2 ^ 32 % 2 ^ 25 = (base.toNat + 1) % 2 ^ 32 % 2 ^ 25 at hmod
  omega

end Advertises

end Node

end UserPlane

/-! ## Rules with the tunnel indices of a session -/

namespace RuleGraph

/-- The detection rules of a session with their tunnel indices, which follow `base`, and with
their endpoints. The rule of the downlink has none. -/
def tunnelsFrom (base : UInt32) (uplink fromControl toControl : Option FTeid) :
    List ((PdrId × Interface × UInt32) × Option FTeid) :=
  [((1, .access, base + 1), uplink), ((2, .core, base + 2), none),
    ((3, .cpFunction, base + 3), fromControl), ((4, .access, base + 4), toControl)]

/-- The detection rules have the tunnel indices that follow `base`, those of the default bearer and,
if they are there, those of the control plane. -/
structure Indexed (g : RuleGraph) (base : UInt32) (complete : Bool) : Prop where
  teidBase : g.teidBase = base
  tunnels : ∃ uplink fromControl toControl, g.pdrs.map Pdr.tunnel =
    (tunnelsFrom base uplink fromControl toControl).take (if complete then 4 else 2)

namespace Indexed

variable {g g' : RuleGraph} {base : UInt32} {complete : Bool} {w : Wiring}

theorem of_keepsTunnels (h : g.Indexed base complete) (hg : g.KeepsTunnels g') :
    g'.Indexed base complete where
  teidBase := hg.base.trans h.teidBase
  tunnels := by
    rw [hg.tunnels]
    exact h.tunnels

theorem withControl (h : g.Indexed base false) (hlayout : g.layout = .bearer) :
    (g.withControl 2).Indexed base true := by
  obtain ⟨hbase, uplink, fromControl, toControl, htunnels⟩ := h
  obtain ⟨-, -, hlastPdr, -⟩ := Layout.mk.inj hlayout
  refine ⟨hbase, uplink, none, none, ?_⟩
  simp only [RuleGraph.withControl, withPdr, addFar, hlastPdr, hbase, List.map_append, htunnels]
  rfl

/-- The tunnel index of the uplink rule and the one from the control plane. -/
theorem ingress_pdr? (h : g.Indexed base true) :
    (g.pdr? 1).map Pdr.ingress = some (base + 1, .access) ∧
      (g.pdr? 3).map Pdr.ingress = some (base + 3, .cpFunction) := by
  obtain ⟨-, uplink, fromControl, toControl, htunnels⟩ := h
  have hread : ∀ id, (g.pdr? id).map Pdr.ingress =
      ((tunnelsFrom base uplink fromControl toControl).find? (·.1.1 == id)).map
        fun x => (x.1.2.2, x.1.2.1) := by
    intro id
    have hid := congrArg (Option.map fun x => (x.1.2.2, x.1.2.1)) (g.map_tunnel_pdr? id)
    rw [Option.map_map, htunnels] at hid
    exact hid
  exact ⟨hread 1, hread 3⟩

/-- Wiring gives the rules their endpoints. -/
theorem tunnels_mapRules (h : g.Indexed base true) (hw : w.HasFirstNumbers) :
    (g.mapRules w.pdr w.far).pdrs.map Pdr.tunnel =
      tunnelsFrom base (some w.sharedEnd) (some w.fromEnd) (some w.sharedEnd) := by
  obtain ⟨-, uplink, fromControl, toControl, htunnels⟩ := h
  have hwired : (g.mapRules w.pdr w.far).pdrs.map Pdr.tunnel = (g.pdrs.map Pdr.tunnel).map
      fun x => (x.1, if x.1.1 = 4 then some w.sharedEnd else if x.1.1 = 3 then some w.fromEnd
        else if x.1.1 = 1 then some w.sharedEnd else x.2) := by
    rw [mapRules, List.map_map, List.map_map]
    refine List.map_congr_left fun p _ => ?_
    have horigin : (w.pdr p).origin = p.origin := by
      rw [Pdr.origin, w.pdr_id, w.keeps_pdr.source, w.keeps_pdr.teid, Pdr.origin]
    rw [Function.comp_apply, Function.comp_apply, Pdr.tunnel, Pdr.tunnel, horigin, w.pdr_fTeid,
      hw.toControl, hw.fromControl, hw.uplink, Pdr.origin]
  rw [hwired, htunnels]
  rfl

end Indexed

end RuleGraph

namespace Session

variable {s s' s₀ s₁ : Session} {config : Config} {d : Policy.Decision} {m : Policy.Message}
  {b b' : Bearer} {complete : Bool} {answer : Option UInt32} {base uplink fromControl : UInt32}
  {shared own : FTeid}

/-! ## Endpoints of an installation -/

/-- The endpoints that an installation gives to a session: the one that the uplink shares with the
rule to the control plane, that of the rule from the control plane, and the bearer with its local
end. The tunnel indices of the uplink and of the rule from the control plane are given. -/
inductive EndsAt (s : Session) (uplink fromControl : UInt32) (b : Bearer) :
    FTeid → FTeid → Bearer → Prop
  | byNode {node : UserPlane.Node} (hnode : s.node = some node)
      (hpicks : node.picksEndpoints = true) :
      EndsAt s uplink fromControl b (.chosenByNode (some defaultChoice)) (.chosenByNode none) b
  | here {node : UserPlane.Node} {e : Endpoint} (hnode : s.node = some node)
      (hpicks : node.picksEndpoints = false) (hend : node.Advertises s.name .access uplink e) :
      EndsAt s uplink fromControl b (.ofEndpoint e) (.ofEndpoint { e with teid := fromControl })
        { b with localEnd := e }

/-- Endpoints are picked for the tunnel indices that the rules have. -/
theorem PicksEnds.endsAt {id : PdrId} (h : s.PicksEnds b id shared own b')
    (huplink : (s.graph.pdr? b.uplinkPdr).map Pdr.ingress = some (uplink, .access))
    (hfrom : (s.graph.pdr? id).map (·.teid) = some fromControl) :
    s.EndsAt uplink fromControl b shared own b' := by
  cases h with
  | byNode hnode _ hpicks => exact .byNode hnode hpicks
  | here hnode hrule hpicks hend =>
    rw [hrule] at huplink
    obtain ⟨rfl, hsource⟩ := Prod.mk.inj (Option.some.inj huplink)
    have hadvertised := UserPlane.Node.advertises_of_advertisedEnd hend
    rw [hsource] at hadvertised
    rw [hfrom]
    exact .here hnode hpicks hadvertised

theorem EndsAt.of_eq (h : s.EndsAt uplink fromControl b shared own b') (hnode : s'.node = s.node)
    (hname : s'.name = s.name) : s'.EndsAt uplink fromControl b shared own b' := by
  cases h with
  | byNode hn hpicks => exact .byNode (hnode.trans hn) hpicks
  | here hn hpicks hend => exact .here (hnode.trans hn) hpicks (hname ▸ hend)

theorem LaidOut.indexed_createForwarding (h : s.LaidOut complete) (hbearer : s.bearer = some b)
    (hnumbers : HasFirstNumbers b) (hindexed : s.graph.Indexed base complete)
    (hok : s.createForwarding.result = .ok s') : s'.graph.Indexed base true := by
  rw [h.createForwarding_eq hbearer hnumbers hok]
  cases h with
  | bearer _ _ _ hlayout => exact hindexed.withControl hlayout
  | control => exact hindexed

/-- An installation gives the rules their endpoints, and leaves them their tunnel indices. -/
theorem Operating.endsAt_compile (h : s.Operating complete)
    (hindexed : s.graph.Indexed base complete) (hok : (s.compile config d).result = .ok s') :
    ∃ b b' shared own, s.bearer = some b ∧ s'.bearer = some b' ∧ s'.graph.teidBase = base ∧
      s'.graph.pdrs.map Pdr.tunnel =
        RuleGraph.tunnelsFrom base (some shared) (some own) (some shared) ∧
      s.EndsAt (base + 1) (base + 3) b shared own b' := by
  obtain ⟨b, hbearer, hnumbers⟩ := h.bearer
  obtain ⟨b', s₁, ms, w, hcreate, -, hwired, hroles, hchanged, hbearer'⟩ :=
    h.laidOut.exists_wired hbearer hnumbers hok
  obtain ⟨hurrs, hrenewed⟩ := s.frame_renewed config d
  obtain ⟨-, -, hcreated⟩ := grown_createForwarding hcreate
  have hindexed₁ : s₁.graph.Indexed base true := by
    refine (h.laidOut.renewed config d).indexed_createForwarding ?_ hnumbers
      (hindexed.of_keepsTunnels hurrs.keepsTunnels) hcreate
    rw [hrenewed]
    exact hbearer
  obtain ⟨hup, hfrom⟩ := hindexed₁.ingress_pdr?
  have hends : s₁.EndsAt (base + 1) (base + 3) b w.sharedEnd w.fromEnd b' := by
    refine hwired.ends.endsAt ?_ ?_
    · rw [hnumbers.uplinkPdr]
      exact hup
    · rw [hroles.fromControl]
      have hteid := congrArg (Option.map Prod.fst) hfrom
      rw [Option.map_map] at hteid
      exact hteid
  have hkeeps := hchanged.keepsTunnels
  refine ⟨b, b', w.sharedEnd, w.fromEnd, hbearer, hbearer', hkeeps.base.trans hindexed₁.teidBase, ?_, ?_⟩
  · rw [hkeeps.tunnels]
    exact hindexed₁.tunnels_mapRules hroles
  · refine hends.of_eq ?_ ?_
    · rw [hcreated, hrenewed]
    · rw [hcreated, hrenewed]

/-! ## Endpoints in a history -/

theorem Established.indexed (h : s.Established) :
    s.graph.Indexed (Teid.base s.index) false := by
  obtain ⟨id, index, imsi, name, ipv4, ipv6, node, ebi, peerEnd, h⟩ := h
  obtain rfl := Except.ok.inj h
  exact ⟨rfl, none, none, none, rfl⟩

theorem PolicyHistory.indexed (hs₀ : s₀.Established) (hrun : PolicyHistory s₀ complete s) :
    s.graph.Indexed (Teid.base s₀.index) complete := by
  induction hrun with
  | start => exact hs₀.indexed
  | @handle complete s s' config m answer hrun hok ih =>
    cases haccepts : s.accepts config m with
    | true =>
      obtain ⟨-, -, shared, own, -, -, hbase, htunnels, -⟩ :=
        (hrun.operating hs₀).endsAt_compile ih (handlePolicy_of_accepts hok haccepts)
      rw [Bool.or_true]
      exact ⟨hbase, some shared, some own, some shared, htunnels⟩
    | false =>
      rw [Bool.or_false, handlePolicy_of_not_accepts hok haccepts]
      exact ih

/-- The rules and the endpoints after an installation, whatever happened before it. -/
theorem PolicyHistory.endsAt (hs₀ : s₀.Established) (hrun : PolicyHistory s₀ complete s)
    (haccepts : s.accepts config m = true)
    (hok : (s.handlePolicy config m).result = .ok (answer, s')) :
    ∃ b b' shared own, s.bearer = some b ∧ s'.bearer = some b' ∧ HasFirstNumbers b' ∧
      s'.fromControlPdr = some 3 ∧ s'.toControlPdr = some 4 ∧
      s'.graph.pdrs.map Pdr.tunnel =
        RuleGraph.tunnelsFrom (Teid.base s₀.index) (some shared) (some own) (some shared) ∧
      s.EndsAt (Teid.base s₀.index + 1) (Teid.base s₀.index + 3) b shared own b' := by
  have hcompile := handlePolicy_of_accepts hok haccepts
  have hoperating := hrun.operating hs₀
  obtain ⟨⟨b₁, hb₁, hnumbers⟩, hlaidOut, -⟩ := (hoperating.compile hcompile).1
  obtain ⟨b, b', shared, own, hbearer, hbearer', -, htunnels, hends⟩ :=
    hoperating.endsAt_compile (hrun.indexed hs₀) hcompile
  obtain rfl : b₁ = b' := Option.some.inj (hb₁.symm.trans hbearer')
  cases hlaidOut with
  | control hfrom hto _ _ =>
    exact ⟨b, b₁, shared, own, hbearer, hbearer', hnumbers, hfrom, hto, htunnels, hends⟩

/-- A node with a resource for another network before the one that is meant. -/
def site : UserPlane.Node :=
  { resources := [{ network := some "ims", addr := some ⟨10, 0, 0, 8⟩ }, ranged] }

/-- A session whose rules have the tunnel indices that follow 256. -/
def sited : Session :=
  { located 1 with node := some site }

theorem established_sited : sited.Established :=
  ⟨1, 1, "001010000000001", some "internet", some ⟨10, 45, 0, 2⟩, none, some site, 5,
    { teid := 7, addr := some ⟨10, 0, 0, 1⟩ }, rfl⟩

end Session

/-! ## Endpoints that can be used -/

namespace FTeid

/-- The flags of an endpoint are those of the addresses that it has. -/
def FlagsMatch (e : FTeid) : Prop :=
  e.ipv4 = e.addr.isSome ∧ e.ipv6 = e.addr6.isSome

/-- An endpoint has an address, and flags that say which, or it is left to the node to pick it. -/
def Usable (e : FTeid) : Prop :=
  e.choose = true ∨ (e.addr.isSome ∨ e.addr6.isSome) ∧ e.FlagsMatch

instance (e : FTeid) : Decidable e.Usable :=
  inferInstanceAs (Decidable (_ ∨ (_ ∨ _) ∧ _ ∧ _))

theorem usable_chosenByNode (chooseId : Option UInt8) : (chosenByNode chooseId).Usable :=
  .inl rfl

theorem flagsMatch_ofEndpoint (e : Endpoint) : (ofEndpoint e).FlagsMatch :=
  ⟨rfl, rfl⟩

theorem usable_ofEndpoint_iff {e : Endpoint} :
    (ofEndpoint e).Usable ↔ e.addr.isSome ∨ e.addr6.isSome := by
  simp [Usable, FlagsMatch, ofEndpoint]

end FTeid

/-- What is asked of the endpoint of a rule can be asked of the one that is listed for it. -/
theorem RuleGraph.exists_fTeid_iff {g : RuleGraph} {id : PdrId} {e : FTeid} {P : FTeid → Prop}
    {origin : PdrId × Interface × UInt32}
    (h : (g.pdrs.map Pdr.tunnel).find? (·.1.1 == id) = some (origin, some e)) :
    (∃ p e', g.pdr? id = some p ∧ p.fTeid = some e' ∧ P e') ↔ P e := by
  rw [← map_tunnel_pdr?, Option.map_eq_some_iff] at h
  obtain ⟨p, hp, htunnel⟩ := h
  have he : p.fTeid = some e := (Prod.mk.inj htunnel).2
  constructor
  · rintro ⟨p', e', hp', he', hP⟩
    obtain rfl := Option.some.inj (hp'.symm.trans hp)
    obtain rfl := Option.some.inj (he'.symm.trans he)
    exact hP
  · intro hP
    exact ⟨p, e, hp, he, hP⟩

namespace Session

variable {s s' s₀ : Session} {config : Config} {m : Policy.Message} {b b' : Bearer}
  {complete : Bool} {answer : Option UInt32} {uplink fromControl : UInt32} {shared own : FTeid}

/-- The rules of the uplink and from and to the control plane are there, and each of them has an
endpoint that can be used. -/
def EndsUsable (s : Session) : Prop :=
  ∃ b fromControl toControl, s.bearer = some b ∧ s.fromControlPdr = some fromControl ∧
    s.toControlPdr = some toControl ∧
    ∀ id ∈ [b.uplinkPdr, fromControl, toControl],
      ∃ p e, s.graph.pdr? id = some p ∧ p.fTeid = some e ∧ e.Usable

/-- The node of a session picks endpoints, or what it advertises for the session has an address. -/
def Addressed (s : Session) : Prop :=
  ∃ node, s.node = some node ∧ (node.picksEndpoints = true ∨
    ∀ r, node.resource? s.name .access = some r → r.addr.isSome ∨ r.addr6.isSome)

theorem endsUsable_iff {fromControl toControl : PdrId} (hbearer : s.bearer = some b)
    (hfrom : s.fromControlPdr = some fromControl) (hto : s.toControlPdr = some toControl) :
    s.EndsUsable ↔ ∀ id ∈ [b.uplinkPdr, fromControl, toControl],
      ∃ p e, s.graph.pdr? id = some p ∧ p.fTeid = some e ∧ e.Usable := by
  constructor
  · rintro ⟨b', fromControl', toControl', hbearer', hfrom', hto', hall⟩
    obtain rfl := Option.some.inj (hbearer'.symm.trans hbearer)
    obtain rfl := Option.some.inj (hfrom'.symm.trans hfrom)
    obtain rfl := Option.some.inj (hto'.symm.trans hto)
    exact hall
  · intro hall
    exact ⟨b, fromControl, toControl, hbearer, hfrom, hto, hall⟩

theorem EndsAt.usable_iff (h : s.EndsAt uplink fromControl b shared own b') :
    (shared.Usable ∧ own.Usable) ↔ s.Addressed := by
  cases h with
  | byNode hnode hpicks =>
    exact iff_of_true ⟨FTeid.usable_chosenByNode _, FTeid.usable_chosenByNode _⟩
      ⟨_, hnode, .inl hpicks⟩
  | @here node e hnode hpicks hend =>
    rw [FTeid.usable_ofEndpoint_iff, FTeid.usable_ofEndpoint_iff, and_self, hend.isSome_addr_iff]
    constructor
    · intro hall
      exact ⟨node, hnode, .inr hall⟩
    · rintro ⟨node', hnode', hpicks' | hall⟩
      · obtain rfl := Option.some.inj (hnode'.symm.trans hnode)
        rw [hpicks] at hpicks'
        cases hpicks'
      · obtain rfl := Option.some.inj (hnode'.symm.trans hnode)
        exact hall

theorem EndsAt.flagsMatch (h : s.EndsAt uplink fromControl b shared own b') :
    (shared.choose = true ∨ shared.FlagsMatch) ∧ (own.choose = true ∨ own.FlagsMatch) := by
  cases h with
  | byNode => exact ⟨.inl rfl, .inl rfl⟩
  | here => exact ⟨.inr (FTeid.flagsMatch_ofEndpoint _), .inr (FTeid.flagsMatch_ofEndpoint _)⟩

/-- After an installation, the endpoints of the uplink and of the control plane can be used exactly
if the node of the session picks endpoints, or has no resource for the session, or if the first one
of those has an address. Other endpoints are without any address, as nobody looks whether a resource
has one. But whatever endpoint a rule has, its flags match its addresses, unless the node picks
it. -/
theorem usable_iff_of_policyHistory (hs₀ : s₀.Established) (hrun : PolicyHistory s₀ complete s)
    (haccepts : s.accepts config m = true)
    (hok : (s.handlePolicy config m).result = .ok (answer, s')) :
    (s'.EndsUsable ↔ s.Addressed) ∧
      ∀ p ∈ s'.graph.pdrs, ∀ e, p.fTeid = some e → e.choose = true ∨ e.FlagsMatch := by
  obtain ⟨b, b', shared, own, -, hbearer', hnumbers, hfrom, hto, htunnels, hends⟩ :=
    hrun.endsAt hs₀ haccepts hok
  constructor
  · have hread : ∀ id {origin} e, (RuleGraph.tunnelsFrom (Teid.base s₀.index) (some shared)
        (some own) (some shared)).find? (·.1.1 == id) = some (origin, some e) →
        ((∃ p e', s'.graph.pdr? id = some p ∧ p.fTeid = some e' ∧ e'.Usable) ↔ e.Usable) := by
      intro id _ e h
      rw [← htunnels] at h
      exact RuleGraph.exists_fTeid_iff h
    have huplink := hread 1 shared rfl
    have hfromControl := hread 3 own rfl
    have htoControl := hread 4 shared rfl
    rw [← hends.usable_iff, endsUsable_iff hbearer' hfrom hto, hnumbers.uplinkPdr,
      List.forall_mem_cons, List.forall_mem_cons, List.forall_mem_singleton, huplink, hfromControl,
      htoControl]
    exact ⟨fun h => ⟨h.1, h.2.1⟩, fun h => ⟨h.1, h.2, h.1⟩⟩
  · intro p hp e he
    have hmem := List.mem_map_of_mem (f := Pdr.tunnel) hp
    rw [htunnels, Pdr.tunnel, he] at hmem
    simp only [RuleGraph.tunnelsFrom, List.mem_cons, List.not_mem_nil, or_false, Prod.mk.injEq,
      Option.some.injEq, reduceCtorEq, and_false, false_or] at hmem
    obtain ⟨hshared, hown⟩ := hends.flagsMatch
    obtain ⟨-, rfl⟩ | ⟨-, rfl⟩ | ⟨-, rfl⟩ := hmem
    · exact hshared
    · exact hown
    · exact hshared

theorem usable_iff_of_policyHistory_sited :
    ∃ s s', PolicyHistory sited true s ∧
      (s.handlePolicy {} (metering [20])).result = .ok (some 2001, s') ∧ s'.EndsUsable ∧
      ∀ p ∈ s'.graph.pdrs, ∀ e, p.fTeid = some e → e.choose = true ∨ e.FlagsMatch := by
  let s := sited.afterPolicy {} (metering [10])
  let s' := s.afterPolicy {} (metering [20])
  have hok : (sited.handlePolicy {} (metering [10])).result = .ok (some 2001, s) := by
    decide +kernel
  have hok' : (s.handlePolicy {} (metering [20])).result = .ok (some 2001, s') := by
    decide +kernel
  have hsite : (s.node, s.name) = (some site, some "internet") := by decide +kernel
  have haccepts : s.accepts {} (metering [20]) = true := by decide +kernel
  have hrun : PolicyHistory sited true s := PolicyHistory.start.handle hok
  clear_value s s'
  obtain ⟨hnode, hname⟩ := Prod.mk.inj hsite
  have haddressed : s.Addressed := by
    refine ⟨site, hnode, .inr fun r hr => ?_⟩
    rw [hname] at hr
    obtain rfl : ranged = r := Option.some.inj hr
    exact .inl rfl
  obtain ⟨husable, hflags⟩ :=
    usable_iff_of_policyHistory established_sited hrun haccepts hok'
  exact ⟨s, s', hrun, hok', husable.mpr haddressed, hflags⟩

/-- A session whose node has an address, and a resource for all sessions that has none. -/
def unaddressed : Session :=
  { located 1 with node := some { resources := [{}], addresses := [.v4 ⟨10, 0, 0, 9⟩] } }

/-- It is not so that the endpoints of a session can be used whenever a decision has been
installed. -/
theorem not_forall_endsUsable :
    ¬∀ (s₀ s' : Session) (config : Config) (m : Policy.Message) (answer : Option UInt32),
      s₀.Established → s₀.accepts config m = true →
      (s₀.handlePolicy config m).result = .ok (answer, s') → s'.EndsUsable := by
  intro hall
  let s' := unaddressed.afterPolicy {} (metering [])
  have hestablished : unaddressed.Established :=
    ⟨1, 1, "001010000000001", some "internet", some ⟨10, 45, 0, 2⟩, none,
      some { resources := [{}], addresses := [.v4 ⟨10, 0, 0, 9⟩] }, 5,
      { teid := 7, addr := some ⟨10, 0, 0, 1⟩ }, rfl⟩
  have hok : (unaddressed.handlePolicy {} (metering [])).result = .ok (some 2001, s') := by
    decide +kernel
  have haccepts : unaddressed.accepts {} (metering []) = true := by decide +kernel
  have hnone : ∀ p ∈ s'.graph.pdrs, ∀ e ∈ p.fTeid, ¬e.Usable := by decide +kernel
  clear_value s'
  obtain ⟨b, _, _, -, -, -, husable⟩ :=
    hall unaddressed s' {} (metering []) _ hestablished haccepts hok
  obtain ⟨p, e, hp, he, husable⟩ := husable b.uplinkPdr (by simp)
  exact hnone p (List.mem_of_find?_eq_some hp) e he husable

end Session

end SessionControl
