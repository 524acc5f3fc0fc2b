import SessionControl.Proofs.Policy.Charging
import SessionControl.Proofs.Roaming.Step
import SessionControl.Proofs.RuleGraph.Tunnels

/-!
# Tunnel numbers of sessions

No two sessions are given the same tunnel index, as long as their own indexes are small enough to be
told apart and none of them makes more detection rules than it has tunnel indices for. On user-plane
nodes that leave the endpoints to the sessions this goes for the tunnel numbers as well: those that
are mapped into a range and those that are not are all different.

## Main definitions

- `Role`, `Session.pdrOf?` — the detection rules that have a part in a session
- `Session.Course` — what can happen to a session from its creation on
- `Session.Grows` — rules are added to a session, and may be given a part in it
- `Session.Separate` — the rules with a part in a session are there and differ
- `Session.ReceivesIn` — the tunnel numbers of a session are those of a resource
- `Session.Allotted` — both, for the resource of the last accepted installation

## Main statements

- `Session.Course.handlePolicy`, `Session.Course.dispatch` — messages of the policy server and
  events of the roaming machine are part of a course
- `Session.Grows.separate`, `Session.Grows.receivesIn` — what additions keep
- `Session.allotted_of_compile` — an installation sets the tunnel numbers
- `Session.Course.allotted` — what any course comes to
- `Session.tunnels_of_course` — tunnel indices and tunnel numbers of different sessions differ
-/

namespace SessionControl

open Attempt
open RuleGraph (Meter)

/-- The parts that detection rules have in a session, apart from the downlink. -/
inductive Role where
  | uplink
  | fromControl
  | toControl
  deriving DecidableEq

namespace Session

variable {s s' s'' : Session} {config : Config} {d : Policy.Decision} {b : Bearer} {ms : List Meter}

/-- The detection rule that has a part in a session. -/
def pdrOf? (s : Session) : Role → Option PdrId
  | .uplink => s.bearer.map (·.uplinkPdr)
  | .fromControl => s.fromControlPdr
  | .toControl => s.toControlPdr

/-- A session keeps its index, and the same detection rules have a part in it. -/
structure KeepsRoles (s s' : Session) : Prop where
  index : s'.index = s.index
  roles : s'.pdrOf? = s.pdrOf?

/-- The resource of its node that the endpoints of a session are picked from. There is none if the
node picks them itself, or if it has no resource for the uplink of the session. -/
def resource? (s : Session) : Option UserPlane.Resource :=
  match s.node with
  | some node => if node.picksEndpoints then none else node.resource? s.name .access
  | none => none

/-! ## Courses of a session -/

/-- What can happen to a session from its creation on, with the resource that the last accepted
installation picked the endpoints from. Detection rules are added, by request or with the default
bearer, of which there is one, or with the rules of the control plane, and decisions are installed.
Anything else may happen as well that leaves the detection rules with their tunnel endpoints and
their parts in the session. -/
inductive Course : Option UserPlane.Resource → Session → Prop
  | new (id : UInt64) (index : UInt32) (imsi : String) (name : Option String) :
      Course none (Session.new id index imsi name)
  | addPdr {r : Option UserPlane.Resource} {s s' : Session} {source : Interface} {far : FarId}
      {id : PdrId} (h : Course r s) (hok : (s.addPdr source far).result = .ok (id, s')) :
      Course r s'
  | createBearer {r : Option UserPlane.Resource} {s s' : Session} {ebi : UInt8}
      {peerEnd : Endpoint} (h : Course r s) (hnone : s.bearer = none)
      (hok : (s.createBearer ebi peerEnd).result = .ok s') : Course r s'
  | createForwarding {r : Option UserPlane.Resource} {s s' : Session} (h : Course r s)
      (hok : s.createForwarding.result = .ok s') : Course r s'
  | install {r : Option UserPlane.Resource} {s s' : Session} {config : Config}
      {m : Policy.Message} {answer : Option UInt32} (h : Course r s)
      (haccepts : s.accepts config m = true)
      (hok : (s.handlePolicy config m).result = .ok (answer, s')) : Course s.resource? s'
  | other {r : Option UserPlane.Resource} {s s' : Session} (h : Course r s)
      (hroles : s.KeepsRoles s') (hgraph : s.graph.KeepsTunnels s'.graph) : Course r s'

theorem KeepsRoles.of_eq (hindex : s'.index = s.index)
    (huplink : s'.pdrOf? .uplink = s.pdrOf? .uplink)
    (hfrom : s'.fromControlPdr = s.fromControlPdr) (hto : s'.toControlPdr = s.toControlPdr) :
    s.KeepsRoles s' := by
  refine ⟨hindex, funext fun k => ?_⟩
  cases k with
  | uplink => exact huplink
  | fromControl => exact hfrom
  | toControl => exact hto

theorem keepsRoles_withGraph (s : Session) (g : RuleGraph) : s.KeepsRoles { s with graph := g } :=
  .of_eq rfl rfl rfl rfl

/-- A message of the policy server is part of a course, whether or not it is accepted. -/
theorem Course.handlePolicy {r : Option UserPlane.Resource} {m : Policy.Message}
    {answer : Option UInt32} (h : Course r s)
    (hok : (s.handlePolicy config m).result = .ok (answer, s')) :
    Course (if s.accepts config m then s.resource? else r) s' := by
  cases haccepts : s.accepts config m with
  | true => exact h.install haccepts hok
  | false =>
    rw [handlePolicy_of_not_accepts hok haccepts]
    exact h.other (.of_eq rfl rfl rfl rfl) (.refl _)

/-- So is an event of the roaming machine. -/
theorem Course.dispatch {r : Option UserPlane.Resource} (h : Course r s)
    (timer : Roaming.ResponseTimer) (peers : Peers) (e : Roaming.Event) :
    Course r (s.dispatch timer peers e).value.2 := by
  rw [session_dispatch]
  exact h.other (.of_eq rfl rfl rfl rfl) (.refl _)

/-! ## Rules that are kept apart -/

/-- The tunnel indices of a session were counted up from its index, and the rules with a part in it
are there and differ. -/
structure Separate (s : Session) : Prop where
  base : s.graph.teidBase = Teid.base s.index
  counts : s.graph.CountsUp
  there : ∀ k id, s.pdrOf? k = some id →
    ∃ p, s.graph.pdr? id = some p ∧ (k = .uplink → p.source = .access)
  apart : ∀ k k' id, s.pdrOf? k = some id → s.pdrOf? k' = some id → k = k'

/-- The tunnel numbers of a session are those of a resource: that of the uplink is mapped into its
range, and that of the rule from the control plane is not. -/
structure ReceivesIn (s : Session) (r : UserPlane.Resource) (uplink fromControl : UInt32) :
    Prop where
  uplink : ∃ id index, s.pdrOf? .uplink = some id ∧ s.graph.Receives id index uplink ∧
    uplink = Teid.inRange index r.rangeBits r.range
  fromControl : ∃ id, s.pdrOf? .fromControl = some id ∧ s.graph.Receives id fromControl fromControl

/-- Detection rules are added to a session, and a new one may be given a part in it that no other
rule has. -/
inductive Grows : Session → Session → Prop
  | keep {s s' : Session} (hroles : s.KeepsRoles s') (hgraph : s.graph.KeepsTunnels s'.graph) :
      Grows s s'
  | add {s s' : Session} {source : Interface} {far : FarId} {id : PdrId} (role : Option Role)
      (hadd : s.graph.addPdr source far = .ok (id, s'.graph)) (hindex : s'.index = s.index)
      (hfree : ∀ k, role = some k → s.pdrOf? k = none)
      (huplink : role = some .uplink → source = .access)
      (hroles : ∀ k, s'.pdrOf? k = if role = some k then some id else s.pdrOf? k) : Grows s s'
  | trans {s s' s'' : Session} (h : Grows s s') (h' : Grows s' s'') : Grows s s''

theorem separate_new (id : UInt64) (index : UInt32) (imsi : String) (name : Option String) :
    (Session.new id index imsi name).Separate where
  base := rfl
  counts := .empty _
  there := by
    intro k id hid
    cases k <;> cases hid
  apart := by
    intro k k' id hid
    cases k <;> cases hid

theorem Separate.keeps (h : s.Separate) (hroles : s.KeepsRoles s')
    (hgraph : s.graph.KeepsOrigins s'.graph) : s'.Separate := by
  constructor
  case base =>
    rw [hgraph.base, hroles.index]
    exact h.base
  case counts => exact h.counts.mono hgraph
  case there =>
    intro k id hid
    rw [hroles.roles] at hid
    obtain ⟨p, hp, hsource⟩ := h.there k id hid
    have horigin := hgraph.origin_pdr? id
    rw [hp, Option.map_some, Option.map_eq_some_iff] at horigin
    obtain ⟨p', hp', hsame⟩ := horigin
    exact ⟨p', hp', fun hk => (Prod.mk.inj (Prod.mk.inj hsame).2).1.trans (hsource hk)⟩
  case apart =>
    rw [hroles.roles]
    exact h.apart

theorem Separate.add {source : Interface} {far : FarId} {id : PdrId} {role : Option Role}
    (h : s.Separate) (hadd : s.graph.addPdr source far = .ok (id, s'.graph))
    (hindex : s'.index = s.index) (huplink : role = some .uplink → source = .access)
    (hroles : ∀ k, s'.pdrOf? k = if role = some k then some id else s.pdrOf? k)
    (hroom : s.graph.pdrs.length < 255) (hsmall : s.index.toNat < 2 ^ 24) : s'.Separate := by
  have hbase : s.graph.teidBase.toNat + 255 < 2 ^ 32 := by
    rw [h.base, Teid.toNat_base hsmall]
    omega
  have hpdr := RuleGraph.pdr?_addPdr hadd
  have hfree := h.counts.pdr?_eq_none hadd hroom
  -- A rule that had a part before does not have the number of the new one.
  have hold : ∀ k, s.pdrOf? k ≠ some id := by
    intro k hk
    obtain ⟨p, hp, -⟩ := h.there k id hk
    rw [hfree] at hp
    cases hp
  constructor
  case base =>
    rw [(RuleGraph.pdrs_addPdr hadd).2.1, hindex]
    exact h.base
  case counts => exact h.counts.addPdr hadd hroom hbase
  case there =>
    intro k j hj
    rw [hroles] at hj
    split at hj
    · next hk =>
      obtain rfl := Option.some.inj hj
      refine ⟨_, by rw [hpdr, hfree, if_pos rfl, Option.none_or], ?_⟩
      rintro rfl
      exact huplink hk
    · obtain ⟨p, hp, hsource⟩ := h.there k j hj
      exact ⟨p, by rw [hpdr, hp, Option.some_or], hsource⟩
  case apart =>
    intro k k' j hj hj'
    rw [hroles] at hj hj'
    split at hj
    · next hk =>
      split at hj'
      · next hk' => exact Option.some.inj (hk.symm.trans hk')
      · exact absurd (hj'.trans hj.symm) (hold k')
    · split at hj'
      · exact absurd (hj.trans hj'.symm) (hold k)
      · exact h.apart k k' j hj hj'

namespace Grows

theorem index (h : s.Grows s') : s'.index = s.index := by
  induction h with
  | keep hroles _ => exact hroles.index
  | add _ _ hindex _ _ _ => exact hindex
  | trans _ _ ih ih' => exact ih'.trans ih

theorem length_le (h : s.Grows s') : s.graph.pdrs.length ≤ s'.graph.pdrs.length := by
  induction h with
  | keep _ hgraph => exact hgraph.keepsOrigins.length.ge
  | add _ hadd _ _ _ _ =>
    rw [(RuleGraph.pdrs_addPdr hadd).2.2.2, List.length_append]
    exact Nat.le_add_right _ _
  | trans _ _ ih ih' => exact ih.trans ih'

theorem separate (h : s.Grows s') (hs : s.Separate) (hsmall : s.index.toNat < 2 ^ 24)
    (hlength : s'.graph.pdrs.length ≤ 255) : s'.Separate := by
  induction h with
  | keep hroles hgraph => exact hs.keeps hroles hgraph.keepsOrigins
  | add role hadd hindex _ huplink hroles =>
    rw [(RuleGraph.pdrs_addPdr hadd).2.2.2, List.length_append, List.length_singleton] at hlength
    exact hs.add hadd hindex huplink hroles (by omega) hsmall
  | trans h h' ih ih' =>
    exact ih' (ih hs hsmall (h'.length_le.trans hlength)) (by rw [h.index]; exact hsmall) hlength

theorem receivesIn {r : UserPlane.Resource} {uplink fromControl : UInt32} (h : s.Grows s')
    (hs : s.ReceivesIn r uplink fromControl) : s'.ReceivesIn r uplink fromControl := by
  induction h with
  | keep hroles hgraph =>
    obtain ⟨⟨u, index, hu, hup, hmapped⟩, f, hf, hfrom⟩ := hs
    refine ⟨⟨u, index, ?_, hup.keepsTunnels hgraph, hmapped⟩, f, ?_, hfrom.keepsTunnels hgraph⟩
    · rw [hroles.roles]
      exact hu
    · rw [hroles.roles]
      exact hf
  | @add s s' source far id role hadd _ hfree _ hroles =>
    obtain ⟨⟨u, index, hu, hup, hmapped⟩, f, hf, hfrom⟩ := hs
    -- A part that a rule has is not given to another one.
    have hkept : ∀ {k j}, s.pdrOf? k = some j → s'.pdrOf? k = some j := by
      intro k j hj
      rw [hroles, if_neg]
      · exact hj
      · intro hk
        rw [hfree k hk] at hj
        cases hj
    exact ⟨⟨u, index, hkept hu, hup.addPdr hadd, hmapped⟩, f, hkept hf, hfrom.addPdr hadd⟩
  | trans _ _ ih ih' => exact ih' (ih hs)

end Grows

/-! ## Operations of a session -/

theorem result_addPdr_eq_ok {source : Interface} {far : FarId} {id : PdrId} :
    (s.addPdr source far).result = .ok (id, s') ↔
      ∃ g, s.graph.addPdr source far = .ok (id, g) ∧ s' = { s with graph := g } := by
  simp only [addPdr, result_bind_eq_ok, result_ofGraph_eq_ok, result_pure, Except.ok.injEq,
    Prod.mk.injEq]
  constructor
  · rintro ⟨⟨id', g⟩, hadd, rfl, rfl⟩
    exact ⟨g, hadd, rfl⟩
  · rintro ⟨g, hadd, rfl⟩
    exact ⟨(id, g), hadd, rfl, rfl⟩

theorem grows_addPdr {source : Interface} {far : FarId} {id : PdrId}
    (hok : (s.addPdr source far).result = .ok (id, s')) : s.Grows s' := by
  obtain ⟨g, hadd, rfl⟩ := result_addPdr_eq_ok.mp hok
  refine .add none hadd rfl ?_ ?_ ?_
  · intro k hk
    cases hk
  · intro hk
    cases hk
  · intro k
    cases k <;> rfl

theorem grows_createBearer {ebi : UInt8} {peerEnd : Endpoint} (hnone : s.bearer = none)
    (hok : (s.createBearer ebi peerEnd).result = .ok s') : s.Grows s' := by
  simp only [createBearer, result_bind_eq_ok, result_lift, result_pure, Except.ok.injEq] at hok
  obtain ⟨⟨uplink, s₁⟩, hup, ⟨downlink, s₂⟩, hdown, _, -, rfl⟩ := hok
  obtain ⟨g₁, hadd₁, rfl⟩ := result_addPdr_eq_ok.mp hup
  obtain ⟨g₂, hadd₂, rfl⟩ := result_addPdr_eq_ok.mp hdown
  have hfars : s.Grows ((s.addFar .core).2.addFar .access).2 :=
    .keep (.of_eq rfl rfl rfl rfl) ⟨rfl, rfl, rfl⟩
  -- The uplink rule might as well be given its part when it is added.
  have hfirst : Grows ((s.addFar .core).2.addFar .access).2
      { s with graph := g₁, bearer := some { (default : Bearer) with uplinkPdr := uplink } } := by
    refine .add (some .uplink) hadd₁ rfl ?_ (fun _ => rfl) ?_
    · rintro k ⟨⟩
      simp [pdrOf?, addFar, hnone]
    · intro k
      cases k <;> rfl
  refine hfars.trans (hfirst.trans (.add none hadd₂ rfl ?_ ?_ ?_))
  · intro k hk
    cases hk
  · intro hk
    cases hk
  · intro k
    cases k <;> rfl

/-- The rule from the control plane is added unless it is there. -/
theorem grows_ensureFromControlPdr {far : FarId}
    (hok : (s.ensureFromControlPdr far).result = .ok s') : s.Grows s' := by
  rw [ensureFromControlPdr] at hok
  split at hok
  · obtain rfl := Except.ok.inj hok
    exact .keep (.of_eq rfl rfl rfl rfl) (.refl _)
  · next hnone =>
    simp only [result_bind_eq_ok, result_pure, Except.ok.injEq] at hok
    obtain ⟨⟨id, s₁⟩, hok, rfl⟩ := hok
    obtain ⟨g, hadd, rfl⟩ := result_addPdr_eq_ok.mp hok
    refine .add (some .fromControl) hadd rfl ?_ ?_ ?_
    · rintro k ⟨⟩
      simpa [pdrOf?] using hnone
    · intro hk
      cases hk
    · intro k
      cases k <;> rfl

/-- So is the rule to the control plane. -/
theorem grows_ensureToControlPdr (hok : s.ensureToControlPdr.result = .ok s') : s.Grows s' := by
  rw [ensureToControlPdr] at hok
  split at hok
  · obtain rfl := Except.ok.inj hok
    exact .keep (.of_eq rfl rfl rfl rfl) (.refl _)
  · next hnone =>
    simp only [result_bind_eq_ok, result_pure, Except.ok.injEq] at hok
    obtain ⟨⟨id, s₁⟩, hok, rfl⟩ := hok
    obtain ⟨g, hadd, rfl⟩ := result_addPdr_eq_ok.mp hok
    refine .add (some .toControl) hadd rfl ?_ ?_ ?_
    · rintro k ⟨⟩
      simpa [pdrOf?] using hnone
    · intro hk
      cases hk
    · intro k
      cases k <;> rfl

theorem grows_createForwarding (hok : s.createForwarding.result = .ok s') : s.Grows s' := by
  simp only [createForwarding, result_bind_eq_ok, result_require_eq_ok] at hok
  obtain ⟨b, -, s₁, hfrom, hto⟩ := hok
  obtain ⟨hadd, -, hs₁⟩ := ensureToControlFar_eq s₁
  have hfar : s₁.Grows s₁.ensureToControlFar := by
    refine .keep ?_ hadd.keepsTunnels
    rw [hs₁]
    exact .of_eq rfl rfl rfl rfl
  exact (grows_ensureFromControlPdr hfrom).trans (hfar.trans (grows_ensureToControlPdr hto))

/-! ## Installations -/

theorem grows_renewed (s : Session) (config : Config) (d : Policy.Decision) :
    s.Grows (s.renewed config d) := by
  obtain ⟨hurrs, hs⟩ := s.frame_renewed config d
  refine .keep ?_ hurrs.keepsTunnels
  rw [hs]
  exact .of_eq rfl rfl rfl rfl

theorem grows_wireForwarding (hok : (s.wireForwarding config b).result = .ok s') : s.Grows s' := by
  simp only [wireForwarding, wireBearer, wireControl, result_bind_eq_ok, result_pure,
    Except.ok.injEq] at hok
  obtain ⟨_, -, _, ⟨_, -, _, -, _, -, _, -, device, -, rfl⟩, _, -, _, -, rfl⟩ := hok
  have hforward : ∀ (g : RuleGraph) far header, g.KeepsTunnels (g.forwardInto far header) :=
    fun _ _ _ => ⟨rfl, rfl, rfl⟩
  have hdevice : ∀ (g : RuleGraph) pdr device, g.KeepsTunnels (g.matchDevice pdr device) := by
    intro g pdr device
    refine .of_updatePdr ?_ g pdr
    exact fun _ => rfl
  have hsolicit : ∀ (g : RuleGraph) pdr, g.KeepsTunnels (g.matchSolicitations pdr) := by
    intro g pdr
    refine .of_updatePdr (fun p => ?_) g pdr
    split <;> rfl
  refine .keep (keepsRoles_withGraph s _) ?_
  exact (hforward _ _ _).trans ((hdevice _ _ _).trans ((hdevice _ _ _).trans
    ((hsolicit _ _).trans (hforward _ _ _))))

theorem grows_applyMeters (hok : (s.applyMeters b ms).result = .ok s') : s.Grows s' := by
  simp only [applyMeters, result_bind_eq_ok, result_pure, Except.ok.injEq] at hok
  obtain ⟨g, hmeters, rfl⟩ := hok
  exact .keep (keepsRoles_withGraph s g) (RuleGraph.keepsTunnels_applyMeters hmeters)

theorem grows_applyFlows (s : Session) (b : Bearer) : s.Grows (s.applyFlows b).value := by
  refine .keep (keepsRoles_withGraph s _) ?_
  refine .trans (.of_updatePdr ?_ s.graph b.uplinkPdr) (.of_updatePdr ?_ _ b.downlinkPdr)
  · exact fun _ => rfl
  · exact fun _ => rfl

theorem grows_limitRates (hok : (s.limitRates b).result = .ok s') : s.Grows s' := by
  have hframe := frame_limitRates hok
  refine .keep (by rw [hframe]; exact .of_eq rfl rfl rfl rfl) ?_
  cases hzero : s.rates.isZero with
  | true =>
    rw [limitRates, if_pos hzero, result_pure, Except.ok.injEq] at hok
    rw [← hok]
    exact (dropRatesQer_eq s).1.keepsTunnels
  | false =>
    obtain ⟨g, ⟨g₁, hdown, hup⟩, rfl⟩ := (result_limitRates_of_pos hzero).mp hok
    exact (ensureRatesQer_frame s).1.keepsTunnels.trans
      ((RuleGraph.keepsTunnels_associateQer hdown).trans (RuleGraph.keepsTunnels_associateQer hup))

/-- Apart from the allocation of endpoints, an installation only adds rules. -/
theorem grows_compile (hok : (s.compile config d).result = .ok s') :
    ∃ s₁ s₂, s.Grows s₁ ∧ s₁.resource? = s.resource? ∧ s₁.allocateEndpoints.result = .ok s₂ ∧
      s₂.Grows s' := by
  obtain ⟨b, s₁, s₅, hbearer, hcreate, hwire, hlimit⟩ := result_compile.mp hok
  simp only [wire, wireDetection, result_bind_eq_ok, result_lift, Except.ok.injEq] at hwire
  obtain ⟨s₂, hforwarding, s₃, hends, s₄, hmeters, rfl⟩ := hwire
  obtain ⟨-, hrenewed⟩ := s.frame_renewed config d
  obtain ⟨-, -, hcreated⟩ := grown_createForwarding hcreate
  obtain ⟨-, hforwarded⟩ := frame_wireForwarding hforwarding
  have hquality : (s₄.applyFlows b).value.Grows ((s₄.applyFlows b).value.storeQuality d) := by
    refine .keep ?_ ?_
    · rw [storeQuality_eq]
      exact .of_eq rfl rfl rfl rfl
    · rw [graph_storeQuality]
      exact .refl _
  refine ⟨s₂, s₃, ?_, ?_, hends, ?_⟩
  · exact (s.grows_renewed config d).trans
      ((grows_createForwarding hcreate).trans (grows_wireForwarding hforwarding))
  · rw [hforwarded, hcreated, hrenewed]
    rfl
  · exact (grows_applyMeters hmeters).trans
      ((s₄.grows_applyFlows b).trans (hquality.trans (grows_limitRates hlimit)))

theorem keepsOrigins_allocateEndpoints (hok : s.allocateEndpoints.result = .ok s') :
    s.KeepsRoles s' ∧ s.graph.KeepsOrigins s'.graph := by
  cases hbearer : s.bearer with
  | none =>
    simp only [allocateEndpoints, hbearer, result_bind_eq_ok] at hok
    obtain ⟨_, -, hthrow⟩ := hok
    cases hthrow
  | some b =>
    obtain ⟨houtline, localEnd, hs'⟩ := frame_allocateEndpoints hbearer hok
    refine ⟨?_, .of_outline houtline⟩
    rw [hs']
    refine .of_eq rfl ?_ rfl rfl
    simp only [pdrOf?, hbearer, Option.map_some]

/-- Endpoints that are picked here are those of the resource, and the tunnel number of the rule from
the control plane is the index that was set aside for it. -/
theorem receivesIn_allocateEndpoints {r : UserPlane.Resource} (hs : s.Separate)
    (hr : s.resource? = some r) (hok : s.allocateEndpoints.result = .ok s') :
    ∃ uplink fromControl, s'.ReceivesIn r uplink fromControl := by
  simp only [allocateEndpoints, result_bind_eq_ok, result_require_eq_ok] at hok
  obtain ⟨node, hnode, hok⟩ := hok
  simp only [resource?, hnode] at hr
  split at hr
  · cases hr
  · next hpicks =>
    split at hok
    · next b fromControl toControl hbearer hfrom hto =>
      obtain ⟨rule, hrule, hsource⟩ := hs.there .uplink b.uplinkPdr (by simp [pdrOf?, hbearer])
      obtain ⟨own, hown, -⟩ := hs.there .fromControl fromControl hfrom
      have hend : advertisedEnd node s.name rule = some
          { teid := Teid.inRange rule.teid r.rangeBits r.range, addr := r.addr,
            addr6 := r.addr6 } := by
        rw [advertisedEnd, hsource rfl, hr]
      simp only [if_neg hpicks, hrule, hown, hend, result_bind_eq_ok, result_require_eq_ok,
        Option.some.injEq, exists_eq_left', result_lift, result_pure, Except.ok.injEq,
        Option.map_some, Option.getD_some] at hok
      obtain ⟨_, -, rfl⟩ := hok
      have hruleId := RuleGraph.id_of_pdr? hrule
      have hownId := RuleGraph.id_of_pdr? hown
      have hup : fromControl ≠ b.uplinkPdr := by
        rintro rfl
        cases hs.apart .uplink .fromControl _ (by simp [pdrOf?, hbearer]) hfrom
      have hdown : fromControl ≠ toControl := by
        rintro rfl
        cases hs.apart .fromControl .toControl _ hfrom hto
      refine ⟨_, own.teid, ⟨b.uplinkPdr, rule.teid, rfl, ?_, rfl⟩, fromControl, hfrom, ?_⟩
      · -- The last write may be to the uplink rule as well, and it is of the same endpoint.
        refine ⟨{ rule with fTeid := some (.ofEndpoint {
          teid := Teid.inRange rule.teid r.rangeBits r.range, addr := r.addr
          addr6 := r.addr6 }) }, _, ?_, rfl, rfl, rfl, rfl⟩
        simp only [RuleGraph.pdr?_receiveAt, hrule, Option.map_some, hruleId, if_true,
          if_neg hup.symm]
        split <;> rfl
      · refine ⟨{ own with fTeid := some (.ofEndpoint {
          teid := own.teid, addr := r.addr, addr6 := r.addr6 }) }, _, ?_, rfl, rfl, rfl, rfl⟩
        simp only [RuleGraph.pdr?_receiveAt, hown, Option.map_some, hownId, if_neg hup, if_true,
          if_neg hdown]
    · cases hok

/-! ## Whole courses -/

/-- What a course comes to: the rules of a session are kept apart, and its tunnel numbers are those
of the resource that the last accepted installation picked them from. -/
structure Allotted (last : Option UserPlane.Resource) (s : Session) : Prop where
  separate : s.Separate
  receives : ∀ r, last = some r → ∃ uplink fromControl, s.ReceivesIn r uplink fromControl

/-- Additions keep it, as long as there is room for them. -/
theorem Grows.allotted {last : Option UserPlane.Resource} (h : s.Grows s')
    (hsmall : s'.index.toNat < 2 ^ 24) (hlength : s'.graph.pdrs.length ≤ 255)
    (hs : s.index.toNat < 2 ^ 24 → s.graph.pdrs.length ≤ 255 → s.Allotted last) :
    s'.Allotted last := by
  rw [h.index] at hsmall
  obtain ⟨hseparate, hreceives⟩ := hs hsmall (h.length_le.trans hlength)
  refine ⟨h.separate hseparate hsmall hlength, fun r hr => ?_⟩
  obtain ⟨uplink, fromControl, hin⟩ := hreceives r hr
  exact ⟨uplink, fromControl, h.receivesIn hin⟩

/-- An installation sets the tunnel numbers, if they are picked here. -/
theorem allotted_of_compile (hsmall : s'.index.toNat < 2 ^ 24)
    (hlength : s'.graph.pdrs.length ≤ 255) (hok : (s.compile config d).result = .ok s')
    (hs : s.index.toNat < 2 ^ 24 → s.graph.pdrs.length ≤ 255 → s.Separate) :
    s'.Allotted s.resource? := by
  obtain ⟨s₁, s₂, hgrows, hresource, hends, hgrows'⟩ := grows_compile hok
  obtain ⟨hroles, horigins⟩ := keepsOrigins_allocateEndpoints hends
  refine hgrows'.allotted hsmall hlength fun hsmall₂ hlength₂ => ?_
  rw [horigins.length] at hlength₂
  rw [hroles.index, hgrows.index] at hsmall₂
  have hs₁ : s₁.Separate :=
    hgrows.separate (hs hsmall₂ (hgrows.length_le.trans hlength₂)) hsmall₂ hlength₂
  exact ⟨hs₁.keeps hroles horigins, fun r hr =>
    receivesIn_allocateEndpoints hs₁ (hresource.trans hr) hends⟩

theorem Course.allotted {last : Option UserPlane.Resource} (h : Course last s)
    (hsmall : s.index.toNat < 2 ^ 24) (hlength : s.graph.pdrs.length ≤ 255) :
    s.Allotted last := by
  induction h with
  | new id index imsi name =>
    refine ⟨separate_new id index imsi name, fun r hr => ?_⟩
    cases hr
  | addPdr h hok ih => exact (grows_addPdr hok).allotted hsmall hlength ih
  | createBearer h hnone hok ih =>
    exact (grows_createBearer hnone hok).allotted hsmall hlength ih
  | createForwarding h hok ih => exact (grows_createForwarding hok).allotted hsmall hlength ih
  | install h haccepts hok ih =>
    exact allotted_of_compile hsmall hlength (handlePolicy_of_accepts hok haccepts)
      fun hsmall hlength => (ih hsmall hlength).separate
  | other h hroles hgraph ih => exact (Grows.keep hroles hgraph).allotted hsmall hlength ih

/-! ## Different sessions -/

/-- The index of a session can be read off the tunnel indices of its rules. -/
theorem Separate.toNat_teid_div (h : s.Separate) (hsmall : s.index.toNat < 2 ^ 24)
    (hlength : s.graph.pdrs.length ≤ 255) {p : Pdr} (hp : p ∈ s.graph.pdrs) :
    p.teid.toNat / 256 = s.index.toNat := by
  obtain ⟨hid, hteid⟩ := h.counts.of_mem hp
  rw [hteid, h.base, Teid.toNat_base hsmall]
  omega

/-- Both tunnel numbers of a session are made of tunnel indices of its own, which differ. -/
theorem ReceivesIn.exists_index {r : UserPlane.Resource} {uplink fromControl : UInt32}
    (h : s.ReceivesIn r uplink fromControl) (hs : s.Separate) (hsmall : s.index.toNat < 2 ^ 24)
    (hlength : s.graph.pdrs.length ≤ 255) :
    ∃ index : UInt32, uplink = Teid.inRange index r.rangeBits r.range ∧ index ≠ fromControl ∧
      index.toNat / 256 = s.index.toNat ∧ fromControl.toNat / 256 = s.index.toNat := by
  obtain ⟨⟨u, index, hu, ⟨p, _, hp, rfl, -, -, -⟩, hmapped⟩, f, hf, q, _, hq, rfl, -, -, -⟩ := h
  have hpmem := List.mem_of_find?_eq_some hp
  have hqmem := List.mem_of_find?_eq_some hq
  refine ⟨p.teid, hmapped, ?_, hs.toNat_teid_div hsmall hlength hpmem,
    hs.toNat_teid_div hsmall hlength hqmem⟩
  intro hteid
  -- Rules with the same tunnel index have the same number, and then the same part.
  have hnat := congrArg UInt32.toNat hteid
  rw [(hs.counts.of_mem hpmem).2, (hs.counts.of_mem hqmem).2] at hnat
  have hid : p.id = q.id := UInt16.toNat_inj.mp (Nat.add_left_cancel hnat)
  rw [RuleGraph.id_of_pdr? hp, RuleGraph.id_of_pdr? hq] at hid
  rw [← hid] at hf
  cases hs.apart .uplink .fromControl u hu hf

/-- Tunnel indices of a session with a small index fit into a range. -/
theorem lt_of_div_lt {n : Nat} (rangeBits : UInt8)
    (h : n / 256 < 2 ^ (24 - Teid.rangeWidth rangeBits)) :
    n < 2 ^ (32 - Teid.rangeWidth rangeBits) := by
  have hle := Teid.rangeWidth_le rangeBits
  have hpow : 2 ^ (32 - Teid.rangeWidth rangeBits) =
      2 ^ (24 - Teid.rangeWidth rangeBits) * 256 := by
    rw [show 32 - Teid.rangeWidth rangeBits = 24 - Teid.rangeWidth rangeBits + 8 by omega,
      Nat.pow_add]
  rw [hpow]
  exact Nat.lt_mul_of_div_lt h (by decide)

/-- Take any courses of sessions with different indexes below `2 ^ 24`, each of which has added 255
detection rules at most (none is ever removed). The rules of each session have been counted up, and
so have their tunnel indices, without an overflow; and all tunnel indices of all sessions are
different. If the last accepted installation of every session picked the endpoints from the same
resource, and the indexes fit into what its range leaves of a number, then the tunnel numbers of the
uplinks and of the rules from the control plane are there, the latter as they are and not in the
range, and they are all different. -/
theorem tunnels_of_course {ι : Type} {session : ι → Session}
    {last : ι → Option UserPlane.Resource} (hcourse : ∀ i, Course (last i) (session i))
    (hdistinct : Function.Injective fun i => (session i).index)
    (hsmall : ∀ i, (session i).index.toNat < 2 ^ 24)
    (hfew : ∀ i, (session i).graph.pdrs.length ≤ 255) :
    (∀ i, (session i).graph.pdrs.map (fun p => (p.id.toNat, p.teid.toNat)) =
      (List.range (session i).graph.pdrs.length).map fun k =>
        (k + 1, (session i).index.toNat * 256 + (k + 1))) ∧
    (∀ i, ((session i).graph.pdrs.map (·.teid)).Nodup) ∧
    (Pairwise fun i j => List.Disjoint ((session i).graph.pdrs.map (·.teid))
      ((session j).graph.pdrs.map (·.teid))) ∧
    ∀ r : UserPlane.Resource, (∀ i, last i = some r) →
      (∀ i, (session i).index.toNat < 2 ^ (24 - Teid.rangeWidth r.rangeBits)) →
      ∃ uplink fromControl : ι → UInt32,
        (∀ i, (session i).ReceivesIn r (uplink i) (fromControl i)) ∧
        Function.Injective (Sum.elim uplink fromControl) := by
  have hallotted := fun i => (hcourse i).allotted (hsmall i) (hfew i)
  have hseparate := fun i => (hallotted i).separate
  refine ⟨fun i => ?_, fun i => (hseparate i).counts.nodup_teids, ?_, ?_⟩
  · rw [(hseparate i).counts.numbers, (hseparate i).base, Teid.toNat_base (hsmall i)]
  · intro i j hij teid hi hj
    obtain ⟨p, hp, rfl⟩ := List.mem_map.mp hi
    obtain ⟨q, hq, hteid⟩ := List.mem_map.mp hj
    have hdiv := (hseparate j).toNat_teid_div (hsmall j) (hfew j) hq
    rw [hteid, (hseparate i).toNat_teid_div (hsmall i) (hfew i) hp] at hdiv
    exact hij (hdistinct (UInt32.toNat_inj.mp hdiv))
  · intro r hr hfits
    have hreceives := fun i => (hallotted i).receives r (hr i)
    choose uplink fromControl hreceives using hreceives
    have hindex := fun i => (hreceives i).exists_index (hseparate i) (hsmall i) (hfew i)
    choose index hmapped hdiffer hdiv hdiv' using hindex
    have hlt : ∀ i, (index i).toNat < 2 ^ (32 - Teid.rangeWidth r.rangeBits) :=
      fun i => lt_of_div_lt r.rangeBits (by rw [hdiv]; exact hfits i)
    have hlt' : ∀ i, (fromControl i).toNat < 2 ^ (32 - Teid.rangeWidth r.rangeBits) :=
      fun i => lt_of_div_lt r.rangeBits (by rw [hdiv']; exact hfits i)
    have hsame : ∀ {i j}, (session i).index.toNat = (session j).index.toNat → i = j :=
      fun h => hdistinct (UInt32.toNat_inj.mp h)
    -- A number that is mapped into the range and one that is not are of one session if they agree.
    have hcross : ∀ i j, uplink i ≠ fromControl j := by
      intro i j h
      rw [hmapped] at h
      have hindex := Teid.eq_of_inRange_eq (hlt i) (hlt' j) h
      obtain rfl : i = j := by
        refine hsame ?_
        rw [← hdiv i, ← hdiv' j, hindex]
      exact hdiffer i hindex
    refine ⟨uplink, fromControl, hreceives, ?_⟩
    rintro (i | i) (j | j) h
    · change uplink i = uplink j at h
      rw [hmapped, hmapped] at h
      rw [hsame (i := i) (j := j)]
      rw [← hdiv i, ← hdiv j, Teid.inRange_inj (hlt i) (hlt j) h]
    · exact absurd h (hcross i j)
    · exact absurd h.symm (hcross j i)
    · change fromControl i = fromControl j at h
      rw [hsame (i := i) (j := j)]
      rw [← hdiv' i, ← hdiv' j, h]

/-- Tunnel endpoints whose numbers begin with the bits 101. -/
def ranged : UserPlane.Resource :=
  { addr := some ⟨10, 0, 0, 9⟩, rangeBits := 3, range := 5 }

/-- A session with its default bearer, on a node with a range of tunnel numbers. -/
def located (index : UInt32) : Session :=
  { Session.new 1 index "001010000000001" (some "internet") with
    ipv4 := some ⟨10, 45, 0, 2⟩
    node := some { resources := [ranged] }
    bearer := some
      { id := 1, ebi := 5, uplinkPdr := 1, downlinkPdr := 2, uplinkFar := 1, downlinkFar := 2,
        peerEnd := { teid := 7, addr := some ⟨10, 0, 0, 1⟩ } }
    graph := .established (Teid.base index) }

theorem course_located (index : UInt32) : Course none (located index) := by
  have hplaced : Course none { Session.new 1 index "001010000000001" (some "internet") with
      ipv4 := some ⟨10, 45, 0, 2⟩, node := some { resources := [ranged] } } :=
    (Course.new 1 index "001010000000001" (some "internet")).other (.of_eq rfl rfl rfl rfl)
      (.refl _)
  have hok : (createBearer { Session.new 1 index "001010000000001" (some "internet") with
      ipv4 := some ⟨10, 45, 0, 2⟩, node := some { resources := [ranged] } } 5
      { teid := 7, addr := some ⟨10, 0, 0, 1⟩ }).result = .ok (located index) := rfl
  exact hplaced.createBearer rfl hok

/-- Two sessions with the same range. -/
def neighbour (first : Bool) : Session :=
  (located (if first then 1 else 2)).afterPolicy {} (metering [10])

theorem tunnels_of_course_neighbours : ∃ uplink fromControl : Bool → UInt32,
    (∀ i, (neighbour i).ReceivesIn ranged (uplink i) (fromControl i)) ∧
      Function.Injective (Sum.elim uplink fromControl) := by
  have hcourse : ∀ i, Course (some ranged) (neighbour i) := by
    have hok : ∀ i, ((located (if i then 1 else 2)).handlePolicy {} (metering [10])).result =
        .ok (some ResultCode.success, neighbour i) := by
      intro i
      cases i <;> rfl
    exact fun i => (course_located _).install (by cases i <;> rfl) (hok i)
  have hindex : ∀ i, (neighbour i).index = if i then 1 else 2 := by
    intro i
    cases i <;> rfl
  have hdistinct : Function.Injective fun i => (neighbour i).index := by
    intro i j h
    simp only [hindex] at h
    revert i j
    decide
  obtain ⟨-, -, -, hnumbers⟩ := tunnels_of_course hcourse hdistinct
    (fun i => by rw [hindex]; revert i; decide)
    (fun i => by cases i <;> decide +kernel)
  exact hnumbers ranged (fun _ => rfl) (fun i => by rw [hindex]; revert i; decide)

end Session

end SessionControl
