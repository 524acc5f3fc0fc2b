import SessionControl.Proofs.Policy.LastInstall
import SessionControl.Proofs.Policy.RateLimit
import SessionControl.Proofs.Policy.Refusal

/-!
# The shape of the rule graph

However often decisions are installed, a session has the rules of its default bearer, those of the
control plane from the first installation on, at most one rule that limits its rates, and no more
reporting rules than its last decision has rules. Installations find the rules that are there; they
do not pile up new ones.

## Main definitions

- `RuleGraph.layout` — the detection and forwarding rules with what they are there for
- `Session.HasRules` — a session has the rules of its default bearer, and perhaps the others
- `Session.ServiceRun` — everything that happens to a session after it has been established
- `Session.MetersWithin` — the reporting rules are some of those that given rules ask for

## Main statements

- `Session.layout_compile` — what an installation makes of the layout
- `Session.MetersWithin.compile` — an installation leaves no more meters than it asks for
- `Session.shape_of_serviceRun` — the shape of the graph over every run
-/

namespace SessionControl

open Attempt
open RuleGraph (Meter)

/-- What a detection rule is there for: its number, where packets come from and what forwards
them. -/
def Pdr.path (p : Pdr) : PdrId × Interface × FarId :=
  (p.id, p.source, p.far)

/-- What a forwarding rule is there for: its number and where packets go to. -/
def Far.target (f : Far) : FarId × Interface :=
  (f.id, f.destination)

namespace RuleGraph

/-! ## Layouts -/

/-- The detection and forwarding rules of a graph with what they are there for, and the last
numbers of either kind. -/
structure Layout where
  pdrs : List (PdrId × Interface × FarId)
  fars : List (FarId × Interface)
  lastPdr : PdrId
  lastFar : FarId

/-- The rules of a default bearer. -/
def Layout.bearer : Layout where
  pdrs := [(1, .access, 1), (2, .core, 2)]
  fars := [(1, .core), (2, .access)]
  lastPdr := 2
  lastFar := 2

/-- The rules of a default bearer and those of the control plane. -/
def Layout.control : Layout where
  pdrs := [(1, .access, 1), (2, .core, 2), (3, .cpFunction, 2), (4, .access, 3)]
  fars := [(1, .core), (2, .access), (3, .cpFunction)]
  lastPdr := 4
  lastFar := 3

def layout (g : RuleGraph) : Layout where
  pdrs := g.pdrs.map Pdr.path
  fars := g.fars.map Far.target
  lastPdr := g.lastPdr
  lastFar := g.lastFar

variable {g g' : RuleGraph}

theorem map_id_pdrs (g : RuleGraph) : g.pdrs.map (·.id) = g.layout.pdrs.map Prod.fst := by
  rw [layout, List.map_map]
  rfl

theorem map_id_fars (g : RuleGraph) : g.fars.map (·.id) = g.layout.fars.map Prod.fst := by
  rw [layout, List.map_map]
  rfl

theorem UrrsChanged.layout (h : g.UrrsChanged g') : g'.layout = g.layout := by
  obtain ⟨onUrrs, h⟩ := h
  rw [h]
  simp [RuleGraph.layout, Pdr.path]

theorem QersChanged.layout (h : g.QersChanged g') : g'.layout = g.layout := by
  obtain ⟨onQers, h⟩ := h
  rw [h]
  simp [RuleGraph.layout, Pdr.path]

theorem layout_of_outline (h : g'.outline = g.outline) : g'.layout = g.layout := by
  have hlayout : ∀ g : RuleGraph, g.outline.layout = g.layout := by
    intro g
    simp [layout, outline, mapRules, Pdr.path, Pdr.outline, Far.target, Far.outline]
  rw [← hlayout g', h, hlayout g]

theorem layout_associateQer {pdr : PdrId} {qer : QerId} (h : g.associateQer pdr qer = .ok g') :
    g'.layout = g.layout := by
  obtain ⟨-, -, rfl⟩ := associateQer_eq_ok.mp h
  rw [layout, updatePdr, map_updateFirst]
  · rfl
  · exact fun _ _ => rfl

theorem layout_withControl (h : g.layout = .bearer) : (g.withControl 2).layout = .control := by
  obtain ⟨hpdrs, hfars, hlastPdr, hlastFar⟩ := Layout.mk.inj h
  simp [layout, withControl, withPdr, addFar, Pdr.path, Far.target, hpdrs, hfars, hlastPdr,
    hlastFar, Layout.control]

/-! ## Reporting rules -/

/-- The reporting rules and the last number of one. -/
def metering (g : RuleGraph) : List Urr × UrrId :=
  (g.urrs, g.lastUrr)

theorem QersChanged.metering (h : g.QersChanged g') : g'.metering = g.metering := by
  obtain ⟨onQers, h⟩ := h
  rw [h]
  rfl

theorem metering_of_outline (h : g'.outline = g.outline) : g'.metering = g.metering := by
  have hmetering : g'.outline.metering = g.outline.metering := by rw [h]
  exact hmetering

theorem metering_associateQer {pdr : PdrId} {qer : QerId} (h : g.associateQer pdr qer = .ok g') :
    g'.metering = g.metering := by
  obtain ⟨-, -, rfl⟩ := associateQer_eq_ok.mp h
  rfl

end RuleGraph

namespace Session

variable {s s' s₀ : Session} {config : Config} {d : Policy.Decision} {b b₀ : Bearer}
  {installed : Option Policy.Decision} {complete : Bool}

/-! ## The rules of a session -/

/-- The detection and forwarding rules of a session: two of either kind for the directions of its
default bearer, and once they have been added, those to and from the control plane. Packets from
there are forwarded like those of the downlink. -/
inductive HasRules (s : Session) (b : Bearer) : Bool → Prop
  | bearer (hfrom : s.fromControlPdr = none) (hto : s.toControlPdr = none)
      (hfar : s.toControlFar = none)
      (hpdrs : s.graph.pdrs.map Pdr.path =
        [(b.uplinkPdr, .access, b.uplinkFar), (b.downlinkPdr, .core, b.downlinkFar)])
      (hfars : s.graph.fars.map Far.target = [(b.uplinkFar, .core), (b.downlinkFar, .access)]) :
      HasRules s b false
  | control {fromControl toControl : PdrId} {toControlFar : FarId}
      (hfrom : s.fromControlPdr = some fromControl) (hto : s.toControlPdr = some toControl)
      (hfar : s.toControlFar = some toControlFar)
      (hpdrs : s.graph.pdrs.map Pdr.path =
        [(b.uplinkPdr, .access, b.uplinkFar), (b.downlinkPdr, .core, b.downlinkFar),
          (fromControl, .cpFunction, b.downlinkFar), (toControl, .access, toControlFar)])
      (hfars : s.graph.fars.map Far.target =
        [(b.uplinkFar, .core), (b.downlinkFar, .access), (toControlFar, .cpFunction)]) :
      HasRules s b true

/-- What every run keeps of the rules: they have the numbers that they were given at first. -/
inductive LaidOut (s : Session) : Bool → Prop
  | bearer (hfrom : s.fromControlPdr = none) (hto : s.toControlPdr = none)
      (hfar : s.toControlFar = none) (hlayout : s.graph.layout = .bearer) : LaidOut s false
  | control (hfrom : s.fromControlPdr = some 3) (hto : s.toControlPdr = some 4)
      (hfar : s.toControlFar = some 3) (hlayout : s.graph.layout = .control) : LaidOut s true

/-- The rules of a bearer have the first numbers. -/
structure HasFirstNumbers (b : Bearer) : Prop where
  uplinkPdr : b.uplinkPdr = 1
  downlinkPdr : b.downlinkPdr = 2
  uplinkFar : b.uplinkFar = 1
  downlinkFar : b.downlinkFar = 2

theorem HasFirstNumbers.withLocalEnd (h : HasFirstNumbers b) (localEnd : Endpoint) :
    HasFirstNumbers { b with localEnd } :=
  ⟨h.uplinkPdr, h.downlinkPdr, h.uplinkFar, h.downlinkFar⟩

theorem Established.exists_bearer (h : s.Established) :
    ∃ b, s.bearer = some b ∧ HasFirstNumbers b := by
  obtain ⟨id, index, imsi, name, ipv4, ipv6, node, ebi, peerEnd, h⟩ := h
  obtain rfl := Except.ok.inj h
  exact ⟨_, rfl, rfl, rfl, rfl, rfl⟩

theorem Established.laidOut (h : s.Established) : s.LaidOut false := by
  obtain ⟨id, index, imsi, name, ipv4, ipv6, node, ebi, peerEnd, h⟩ := h
  obtain rfl := Except.ok.inj h
  exact .bearer rfl rfl rfl rfl

namespace LaidOut

theorem of_layout (h : s.LaidOut complete) (hlayout : s'.graph.layout = s.graph.layout)
    (hfrom : s'.fromControlPdr = s.fromControlPdr) (hto : s'.toControlPdr = s.toControlPdr)
    (hfar : s'.toControlFar = s.toControlFar) : s'.LaidOut complete := by
  cases h with
  | bearer hfrom₀ hto₀ hfar₀ hlayout₀ =>
    exact .bearer (hfrom.trans hfrom₀) (hto.trans hto₀) (hfar.trans hfar₀)
      (hlayout.trans hlayout₀)
  | control hfrom₀ hto₀ hfar₀ hlayout₀ =>
    exact .control (hfrom.trans hfrom₀) (hto.trans hto₀) (hfar.trans hfar₀)
      (hlayout.trans hlayout₀)

/-- The rules of the control plane are added at most once. -/
theorem createForwarding_eq (h : s.LaidOut complete) (hbearer : s.bearer = some b)
    (hnumbers : HasFirstNumbers b) (hok : s.createForwarding.result = .ok s') :
    s' = if complete then s else s.controlled 2 := by
  cases h with
  | bearer hfrom hto hfar hlayout =>
    have hthere : (s.graph.far? b.downlinkFar).isSome := by
      rw [RuleGraph.far?, isSome_find?_key, RuleGraph.map_id_fars, hlayout, hnumbers.downlinkFar]
      decide
    have hunwired : s.Unwired b := ⟨hbearer, hthere, hfrom, hto, hfar⟩
    rw [hunwired.result_createForwarding, hnumbers.downlinkFar] at hok
    exact (Except.ok.inj hok).symm
  | control hfrom hto hfar hlayout =>
    have hsame := result_createForwarding_of_isSome hbearer (by rw [hfrom]; rfl)
      (by rw [hto]; rfl) (by rw [hfar]; rfl)
    exact Except.ok.inj (hok.symm.trans hsame)

theorem createForwarding (h : s.LaidOut complete) (hbearer : s.bearer = some b)
    (hnumbers : HasFirstNumbers b) (hok : s.createForwarding.result = .ok s') :
    s'.LaidOut true := by
  rw [h.createForwarding_eq hbearer hnumbers hok]
  cases h with
  | bearer hfrom hto hfar hlayout =>
    -- The new rules get the numbers that follow those of the bearer.
    obtain ⟨-, -, hlastPdr, hlastFar⟩ := RuleGraph.Layout.mk.inj hlayout
    rw [if_neg Bool.false_ne_true]
    refine .control ?_ ?_ ?_ (RuleGraph.layout_withControl hlayout)
    · rw [controlled, hlastPdr]
      rfl
    · rw [controlled, hlastPdr]
      rfl
    · rw [controlled, hlastFar]
      rfl
  | control hfrom hto hfar hlayout => exact .control hfrom hto hfar hlayout

theorem hasRules (h : s.LaidOut complete) (hnumbers : HasFirstNumbers b) :
    s.HasRules b complete := by
  obtain ⟨huplinkPdr, hdownlinkPdr, huplinkFar, hdownlinkFar⟩ := hnumbers
  cases h with
  | bearer hfrom hto hfar hlayout =>
    obtain ⟨hpdrs, hfars, -, -⟩ := RuleGraph.Layout.mk.inj hlayout
    refine .bearer hfrom hto hfar ?_ ?_
    · rw [hpdrs, huplinkPdr, hdownlinkPdr, huplinkFar, hdownlinkFar]
    · rw [hfars, huplinkFar, hdownlinkFar]
  | control hfrom hto hfar hlayout =>
    obtain ⟨hpdrs, hfars, -, -⟩ := RuleGraph.Layout.mk.inj hlayout
    refine .control hfrom hto hfar ?_ ?_
    · rw [hpdrs, huplinkPdr, hdownlinkPdr, huplinkFar, hdownlinkFar]
    · rw [hfars, huplinkFar, hdownlinkFar]

theorem nodup_ids (h : s.LaidOut complete) :
    (s.graph.pdrs.map (·.id)).Nodup ∧ (s.graph.fars.map (·.id)).Nodup := by
  rw [RuleGraph.map_id_pdrs, RuleGraph.map_id_fars]
  cases h with
  | bearer _ _ _ hlayout =>
    rw [hlayout]
    decide
  | control _ _ _ hlayout =>
    rw [hlayout]
    decide

end LaidOut

/-! ## Installations -/

/-- Limiting the rates adds no detection, forwarding or reporting rule. -/
theorem layout_limitRates (hok : (s.limitRates b).result = .ok s') :
    s'.graph.layout = s.graph.layout ∧ s'.graph.metering = s.graph.metering := by
  cases hzero : s.rates.isZero with
  | true =>
    rw [limitRates, if_pos hzero, result_pure, Except.ok.injEq] at hok
    obtain ⟨hchanged, -⟩ := dropRatesQer_eq s
    rw [← hok]
    exact ⟨hchanged.layout, hchanged.metering⟩
  | false =>
    obtain ⟨g, ⟨g₁, hdown, hup⟩, rfl⟩ := (result_limitRates_of_pos hzero).mp hok
    obtain ⟨hchanged, -⟩ := ensureRatesQer_frame s
    constructor
    · exact (RuleGraph.layout_associateQer hup).trans
        ((RuleGraph.layout_associateQer hdown).trans hchanged.layout)
    · exact (RuleGraph.metering_associateQer hup).trans
        ((RuleGraph.metering_associateQer hdown).trans hchanged.metering)

/-- An installation adds the rules of the control plane and renews the meters; after that no
detection, forwarding or reporting rule is added. The bearer keeps everything but its local end. -/
theorem layout_compile (hok : (s.compile config d).result = .ok s') :
    ∃ b s₁, s.bearer = some b ∧ (s.renewed config d).createForwarding.result = .ok s₁ ∧
      s'.graph.layout = s₁.graph.layout ∧
      s'.graph.metering = (s.renewed config d).graph.metering ∧
      (s'.fromControlPdr = s₁.fromControlPdr ∧ s'.toControlPdr = s₁.toControlPdr ∧
        s'.toControlFar = s₁.toControlFar) ∧
      ∃ localEnd, s'.bearer = some { b with localEnd } := by
  obtain ⟨b, s₁, s₂, hbearer, hcreate, hwire, hlimit⟩ := result_compile.mp hok
  obtain ⟨-, hrenewed⟩ := s.frame_renewed config d
  obtain ⟨hgrown, -, hcreated⟩ := grown_createForwarding hcreate
  have hbearer₁ : s₁.bearer = some b := by rw [hcreated, hbearer]
  obtain ⟨houtline, localEnd, hwired⟩ := frame_wire hbearer₁ hwire
  obtain ⟨hlayout, hmetering⟩ := layout_limitRates hlimit
  have hlimited := frame_limitRates hlimit
  rw [storeQuality_eq] at hlimited
  rw [graph_storeQuality] at hlayout hmetering
  have hmetering₁ : s₁.graph.metering = (s.renewed config d).graph.metering := by
    rw [hgrown.frame]
    rfl
  refine ⟨b, s₁, ?_, hcreate, hlayout.trans (RuleGraph.layout_of_outline houtline),
    hmetering.trans ((RuleGraph.metering_of_outline houtline).trans hmetering₁), ?_, localEnd, ?_⟩
  · rw [hrenewed] at hbearer
    exact hbearer
  · rw [hlimited, hwired]
    exact ⟨rfl, rfl, rfl⟩
  · rw [hlimited, hwired]

theorem bearer_compile (hbearer : s.bearer = some b) (hok : (s.compile config d).result = .ok s') :
    ∃ localEnd, s'.bearer = some { b with localEnd } := by
  obtain ⟨b', -, hb', -, -, -, -, hbearer'⟩ := layout_compile hok
  obtain rfl : b' = b := Option.some.inj (hb'.symm.trans hbearer)
  exact hbearer'

/-- Renewing the meters and storing the rules of a decision leave the layout alone. -/
theorem LaidOut.renewed (h : s.LaidOut complete) (config : Config) (d : Policy.Decision) :
    (s.renewed config d).LaidOut complete := by
  obtain ⟨hurrs, hframe⟩ := s.frame_renewed config d
  refine h.of_layout hurrs.layout ?_ ?_ ?_
  all_goals rw [hframe]

theorem LaidOut.compile (h : s.LaidOut complete) (hbearer : s.bearer = some b)
    (hnumbers : HasFirstNumbers b) (hok : (s.compile config d).result = .ok s') :
    s'.LaidOut true := by
  obtain ⟨b', s₁, hb', hcreate, hlayout, -, ⟨hfrom, hto, hfar⟩, -⟩ := layout_compile hok
  obtain rfl : b' = b := Option.some.inj (hb'.symm.trans hbearer)
  obtain ⟨-, hframe⟩ := s.frame_renewed config d
  have hbearer' : (s.renewed config d).bearer = some b' := by
    rw [hframe]
    exact hb'
  exact ((h.renewed config d).createForwarding hbearer' hnumbers hcreate).of_layout hlayout hfrom
    hto hfar

end Session

/-! ## How many meters there are -/

namespace RuleGraph

variable {g g' : RuleGraph} {rules : List Policy.Rule}

/-- The reporting rules of a graph meter different rating groups, and each of these is the group of
one of the `rules`. -/
structure MetersWithin (g : RuleGraph) (rules : List Policy.Rule) : Prop where
  ids : AscendingUpTo g.lastUrr (g.urrs.map (·.id))
  groups_nodup : (g.urrs.map (·.ratingGroup)).Nodup
  within : ∀ x ∈ g.urrs.map (·.ratingGroup), x ∈ rules.map (·.ratingGroup)

namespace MetersWithin

theorem of_metering (h : g.MetersWithin rules) (hmetering : g'.metering = g.metering) :
    g'.MetersWithin rules := by
  obtain ⟨hurrs, hlast⟩ := Prod.mk.inj hmetering
  refine ⟨?_, ?_, ?_⟩
  · rw [hurrs, hlast]
    exact h.ids
  · rw [hurrs]
    exact h.groups_nodup
  · rw [hurrs]
    exact h.within

/-- There are no more meters than rules. -/
theorem length_le (h : g.MetersWithin rules) : g.urrs.length ≤ rules.length := by
  have hle := (List.subperm_of_subset h.groups_nodup h.within).length_le
  rwa [List.length_map, List.length_map] at hle

/-- A renewal leaves the meters of its own rules, unless the counter overflows. -/
theorem renewMeters (h : g.MetersWithin rules) (config : MeterConfig)
    {rules' : List Policy.Rule}
    (hadvance : Advances g.lastUrr (g.renewMeters config rules').value.2.lastUrr) :
    (g.renewMeters config rules').value.2.MetersWithin rules' where
  ids := ascending_renewMeters h.ids hadvance
  groups_nodup := nodup_urrGroups_renewMeters h.ids.nodup h.groups_nodup
  within := by
    intro x hx
    rw [mem_urrGroups_renewMeters config h.ids.nodup, mem_ratingGroups] at hx
    obtain ⟨-, r, hr, rfl⟩ := hx
    exact List.mem_map_of_mem hr

end MetersWithin

end RuleGraph

namespace Session

variable {s s' s₀ : Session} {config : Config} {d : Policy.Decision} {b b₀ : Bearer}
  {installed : Option Policy.Decision} {complete : Bool} {answer : Option UInt32}
  {m : Policy.Message}

/-- An installation leaves no more meters than its decision asks for, or none if the session is
exempt. -/
theorem metersWithin_compile {old : List Policy.Rule}
    (h : s.graph.MetersWithin (s.chargedRules config old))
    (hok : (s.compile config d).result = .ok s')
    (hadvance : Advances s.graph.lastUrr s'.graph.lastUrr) :
    s'.graph.MetersWithin (s.chargedRules config d.rules) := by
  obtain ⟨-, -, -, -, -, hmetering, -⟩ := layout_compile hok
  refine RuleGraph.MetersWithin.of_metering ?_ hmetering
  obtain ⟨-, hlast⟩ := Prod.mk.inj hmetering
  rw [hlast] at hadvance
  cases hvoice : s.isFor config.voiceNetwork with
  | true =>
    rw [chargedRules, if_pos hvoice] at h ⊢
    rw [renewed, value_renewMeters_of_voice hvoice]
    exact h
  | false =>
    rw [renewed, value_renewMeters hvoice] at hadvance ⊢
    rw [chargedRules, hvoice, if_neg Bool.false_ne_true]
    exact h.renewMeters config.meter hadvance

/-! ## Runs -/

/-- A run of all that happens to a session after it has been established: messages of the policy
server, roaming events, and requests for the rules of the control plane. None of them ends in a
fault, and the counter of reporting rules does not overflow. The run comes with the decision that
was installed last, and with whether the rules of the control plane have been asked for, by an
installation or by request. -/
inductive ServiceRun (config : Config) (s₀ : Session) :
    Option Policy.Decision → Bool → Session → Prop
  | start : ServiceRun config s₀ none false s₀
  | policy {installed : Option Policy.Decision} {complete : Bool} {s s' : Session}
      {m : Policy.Message} {answer : Option UInt32}
      (hrun : ServiceRun config s₀ installed complete s)
      (hok : (s.handlePolicy config m).result = .ok (answer, s'))
      (hadvance : Advances s.graph.lastUrr s'.graph.lastUrr) :
      ServiceRun config s₀ (if s.accepts config m then some m.decision else installed)
        (complete || s.accepts config m) s'
  | roaming {installed : Option Policy.Decision} {complete : Bool} {s : Session}
      (hrun : ServiceRun config s₀ installed complete s) (timer : Roaming.ResponseTimer)
      (peers : Peers) (event : Roaming.Event) :
      ServiceRun config s₀ installed complete (s.dispatch timer peers event).value.2
  | forwarding {installed : Option Policy.Decision} {complete : Bool} {s s' : Session}
      (hrun : ServiceRun config s₀ installed complete s)
      (hok : s.createForwarding.result = .ok s') : ServiceRun config s₀ installed true s'

/-- What every run keeps of a session that was established as `s₀` with the bearer `b₀`. -/
structure InShape (config : Config) (s₀ : Session) (b₀ : Bearer)
    (installed : Option Policy.Decision) (complete : Bool) (s : Session) : Prop where
  name : s.name = s₀.name
  bearer : ∃ localEnd, s.bearer = some { b₀ with localEnd }
  laidOut : s.LaidOut complete
  rates : s.RateControl
  meters : s.graph.MetersWithin (s₀.chargedRules config (installedRules installed))

theorem Established.inShape (h : s₀.Established) (hbearer : s₀.bearer = some b₀)
    (config : Config) : InShape config s₀ b₀ none false s₀ where
  name := rfl
  bearer := ⟨b₀.localEnd, hbearer⟩
  laidOut := h.laidOut
  rates := h.rateControl.1
  meters := by
    obtain ⟨⟨base, hgraph⟩, -⟩ := h.rules_eq
    rw [hgraph]
    exact ⟨.nil, .nil, fun x hx => absurd hx List.not_mem_nil⟩

namespace InShape

theorem handlePolicy (hnumbers : HasFirstNumbers b₀)
    (h : InShape config s₀ b₀ installed complete s)
    (hok : (s.handlePolicy config m).result = .ok (answer, s'))
    (hadvance : Advances s.graph.lastUrr s'.graph.lastUrr) :
    InShape config s₀ b₀ (if s.accepts config m then some m.decision else installed)
      (complete || s.accepts config m) s' := by
  obtain ⟨hname, ⟨localEnd, hbearer⟩, hlaidOut, hrates, hmeters⟩ := h
  have hrates' := (hrates.handlePolicy hok).1
  have hname' : s'.name = s₀.name := by
    rw [frame_handlePolicy hok]
    exact hname
  cases haccepts : s.accepts config m with
  | true =>
    have hcompile := handlePolicy_of_accepts hok haccepts
    obtain ⟨localEnd', hbearer'⟩ := bearer_compile hbearer hcompile
    have hcharged := fun rules => chargedRules_eq_of_name config rules hname
    rw [← hcharged] at hmeters
    have hmeters' := metersWithin_compile hmeters hcompile hadvance
    rw [hcharged] at hmeters'
    rw [Bool.or_true, if_pos rfl]
    exact ⟨hname', ⟨localEnd', hbearer'⟩,
      hlaidOut.compile hbearer (hnumbers.withLocalEnd localEnd) hcompile, hrates', hmeters'⟩
  | false =>
    have hs' := handlePolicy_of_not_accepts hok haccepts
    rw [Bool.or_false, if_neg Bool.false_ne_true]
    refine ⟨hname', ⟨localEnd, by rw [hs']; exact hbearer⟩, ?_, hrates', ?_⟩
    · refine hlaidOut.of_layout ?_ ?_ ?_ ?_
      all_goals rw [hs']
    · rw [hs']
      exact hmeters

theorem dispatch (h : InShape config s₀ b₀ installed complete s)
    (timer : Roaming.ResponseTimer) (peers : Peers) (event : Roaming.Event) :
    InShape config s₀ b₀ installed complete (s.dispatch timer peers event).value.2 := by
  obtain ⟨hname, hbearer, hlaidOut, hrates, hmeters⟩ := h
  rw [session_dispatch]
  exact ⟨hname, hbearer, hlaidOut.of_layout rfl rfl rfl rfl,
    hrates.of_limits rfl hrates.roles rfl rfl rfl, hmeters⟩

theorem createForwarding (hnumbers : HasFirstNumbers b₀)
    (h : InShape config s₀ b₀ installed complete s)
    (hok : s.createForwarding.result = .ok s') : InShape config s₀ b₀ installed true s' := by
  obtain ⟨hname, ⟨localEnd, hbearer⟩, hlaidOut, hrates, hmeters⟩ := h
  obtain ⟨hgrown, -, hframe⟩ := grown_createForwarding hok
  have hmetering : s'.graph.metering = s.graph.metering := by
    rw [hgrown.frame]
    rfl
  refine ⟨?_, ⟨localEnd, ?_⟩, hlaidOut.createForwarding hbearer (hnumbers.withLocalEnd _) hok,
    hrates.createForwarding hok, hmeters.of_metering hmetering⟩
  · rw [hframe]
    exact hname
  · rw [hframe]
    exact hbearer

end InShape

theorem ServiceRun.inShape (hs₀ : s₀.Established) (hbearer : s₀.bearer = some b₀)
    (hnumbers : HasFirstNumbers b₀) (hrun : ServiceRun config s₀ installed complete s) :
    InShape config s₀ b₀ installed complete s := by
  induction hrun with
  | start => exact hs₀.inShape hbearer config
  | policy hrun hok hadvance ih => exact ih.handlePolicy hnumbers hok hadvance
  | roaming hrun timer peers event ih => exact ih.dispatch timer peers event
  | forwarding hrun hok ih => exact ih.createForwarding hnumbers hok

/-- There is one rule that limits the rates, or none. -/
theorem RateControl.length_qers_le (h : s.RateControl) : s.graph.qers.length ≤ 1 := by
  have hlength := congrArg List.length h.ids
  rw [List.length_map] at hlength
  rw [hlength]
  cases s.ratesQer <;> simp

theorem length_chargedRules_le (s : Session) (config : Config) (rules : List Policy.Rule) :
    (s.chargedRules config rules).length ≤ rules.length := by
  rw [chargedRules]
  split
  · exact Nat.zero_le _
  · exact le_rfl

/-- The rule graph of an established session keeps its shape, and it does not grow with the number
of installations. After any run the bearer is the one of the beginning but for its local end. The
session has the two detection and the two forwarding rules of the bearer until the first decision is
installed or the rules of the control plane are requested, and from then on those rules and two
detection rules and one forwarding rule more; no two of them have the same number. There is at most
one enforcement rule. There are no more reporting rules than rules in the decision that was
installed last, and none before the first one. -/
theorem shape_of_serviceRun (hs₀ : s₀.Established)
    (hrun : ServiceRun config s₀ installed complete s) :
    ∃ b₀ localEnd, s₀.bearer = some b₀ ∧ s.bearer = some { b₀ with localEnd } ∧
      s.HasRules b₀ complete ∧
      ((s.graph.pdrs.map (·.id)).Nodup ∧ (s.graph.fars.map (·.id)).Nodup) ∧
      s.graph.qers.length ≤ 1 ∧ s.graph.urrs.length ≤ (installedRules installed).length := by
  obtain ⟨b₀, hbearer₀, hnumbers⟩ := hs₀.exists_bearer
  obtain ⟨-, ⟨localEnd, hbearer⟩, hlaidOut, hrates, hmeters⟩ := hrun.inShape hs₀ hbearer₀ hnumbers
  exact ⟨b₀, localEnd, hbearer₀, hbearer, hlaidOut.hasRules hnumbers, hlaidOut.nodup_ids,
    hrates.length_qers_le, hmeters.length_le.trans (s₀.length_chargedRules_le config _)⟩

/-- Two groups are metered, the session is created at the peer, the rules of the control plane are
requested again, and a decision with one group takes the place of the first one. -/
theorem shape_of_serviceRun_reinstalled :
    ∃ s b₀ localEnd, ServiceRun {} attached (some (metering [20]).decision) true s ∧
      s.graph.urrs.map (·.id) = [2] ∧ attached.bearer = some b₀ ∧
      s.bearer = some { b₀ with localEnd } ∧ s.HasRules b₀ true ∧ s.graph.qers.length ≤ 1 ∧
      s.graph.urrs.length ≤ 1 := by
  let s₁ := attached.afterPolicy {} (metering [10, 20])
  let s₂ := (s₁.dispatch (.ofSeconds 3) .working (.message 7 .createSessionRequest)).value.2
  let s₃ := s₂.afterPolicy {} (metering [20])
  have hok₁ : (attached.handlePolicy {} (metering [10, 20])).result = .ok (some 2001, s₁) := by
    decide +kernel
  have hforwarding : s₂.createForwarding.result = .ok s₂ := by decide +kernel
  have hok₃ : (s₂.handlePolicy {} (metering [20])).result = .ok (some 2001, s₃) := by
    decide +kernel
  have haccepts : s₂.accepts {} (metering [20]) = true := by decide +kernel
  have hrun := (((ServiceRun.start.policy hok₁ (by decide +kernel)).roaming (.ofSeconds 3) .working
    (.message 7 .createSessionRequest)).forwarding hforwarding).policy hok₃ (by decide +kernel)
  rw [if_pos haccepts, Bool.true_or] at hrun
  obtain ⟨b₀, localEnd, hbearer₀, hbearer, hrules, -, hqers, hurrs⟩ :=
    shape_of_serviceRun established_attached hrun
  exact ⟨s₃, b₀, localEnd, hrun, by decide +kernel, hbearer₀, hbearer, hrules, hqers, hurrs⟩

end Session

end SessionControl
