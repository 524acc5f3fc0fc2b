import SessionControl.Proofs.Policy.Shape

/-!
# How packets are treated

Which flows the detection rules of a session match, and what its forwarding rules do with packets.
An installation replaces the flows of the default bearer by those of its decision, however many
there have been, and leaves the rules of the control plane the flows that they were made for. It
lets packets pass to the device and to the control plane; to those of the uplink nothing is ever
done.

## Main definitions

- `Policy.matched` — the flows of a decision in some directions, as a detection rule carries them
- `RuleGraph.treatment` — what the rules of a graph match and do
- `Session.PolicyHistory` — any messages of the policy server that do not end in a fault
- `Session.Operating` — what every history keeps of an established session

## Main statements

- `Session.LaidOut.exists_wired` — an installation wires the rules once
- `Session.Operating.compile` — what an installation makes of the treatment
- `Session.filters_of_policyHistory` — which flows are matched after an installation
- `Session.forwards_iff_of_policyHistory` — which packets are forwarded in a history
-/

namespace SessionControl

open Attempt

/-! ## Flows of a decision -/

namespace Policy

/-- The flows of rules that are matched in one of some directions, in the order of the rules and of
the flows of each of them. Each has its description and the flag that says so. -/
def matched (rules : List Rule) (directions : List Direction) : List FlowFilter :=
  ((rules.flatMap (·.flows)).filter (·.direction ∈ directions)).map fun f =>
    { hasDescription := true, description := f.description }

theorem matched_eq_flatMap (rules : List Rule) {directions : List Direction}
    (isIn : Direction → Bool) (h : ∀ x, isIn x = decide (x ∈ directions)) :
    matched rules directions =
      (rules.flatMap fun r => (r.flows.filter (isIn ·.direction)).map (·.description)).map
        .described := by
  simp only [matched, h, List.filter_flatMap, List.map_flatMap, List.map_map]
  rfl

theorem matched_uplink (rules : List Rule) :
    matched rules [.uplinkOnly, .bidirectional] = (uplinkFlows rules).map .described :=
  matched_eq_flatMap rules Direction.hasUplink fun x => by cases x <;> rfl

theorem matched_downlink (rules : List Rule) :
    matched rules [.downlinkOnly, .bidirectional] = (downlinkFlows rules).map .described :=
  matched_eq_flatMap rules Direction.hasDownlink fun x => by cases x <;> rfl

end Policy

/-! ## What the rules of a graph match and do -/

namespace RuleGraph

/-- The flows that each detection rule matches, and what each forwarding rule does with packets. -/
structure Treatment where
  filters : List (PdrId × List FlowFilter)
  actions : List (FarId × ApplyAction)

namespace Treatment

/-- The rules of a default bearer before the first installation. -/
def idle : Treatment where
  filters := [(1, []), (2, [])]
  actions := [(1, {}), (2, {})]

/-- The same with new rules for the control plane. -/
def unwired : Treatment where
  filters := [(1, []), (2, []), (3, []), (4, [])]
  actions := [(1, {}), (2, {}), (3, {})]

/-- The rules after an installation, with the flows of either direction of the bearer. -/
def active (uplink downlink : List FlowFilter) : Treatment where
  filters := [(1, uplink), (2, downlink), (3, []), (4, [.described routerSolicitation])]
  actions := [(1, {}), (2, .forwardOnly), (3, .forwardOnly)]

end Treatment

def treatment (g : RuleGraph) : Treatment where
  filters := g.pdrs.map fun p => (p.id, p.flows)
  actions := g.fars.map fun f => (f.id, f.action)

variable {g g' : RuleGraph} {w : Wiring}

theorem UrrsChanged.treatment (h : g.UrrsChanged g') : g'.treatment = g.treatment := by
  obtain ⟨onUrrs, h⟩ := h
  rw [h]
  simp [RuleGraph.treatment]

theorem QersChanged.treatment (h : g.QersChanged g') : g'.treatment = g.treatment := by
  obtain ⟨onQers, h⟩ := h
  rw [h]
  simp [RuleGraph.treatment]

theorem treatment_withControl (hlayout : g.layout = .bearer) (h : g.treatment = .idle) :
    (g.withControl 2).treatment = .unwired := by
  obtain ⟨-, -, hlastPdr, hlastFar⟩ := Layout.mk.inj hlayout
  obtain ⟨hfilters, hactions⟩ := Treatment.mk.inj h
  simp [treatment, withControl, withPdr, addFar, hfilters, hactions, hlastPdr, hlastFar,
    Treatment.unwired]

end RuleGraph

/-- The wiring writes to the rules with the first numbers. -/
structure Wiring.HasFirstNumbers (w : Wiring) : Prop where
  uplink : w.uplink = 1
  downlink : w.downlink = 2
  fromControl : w.fromControl = 3
  toControl : w.toControl = 4
  downlinkFar : w.downlinkFar = 2
  toControlFar : w.toControlFar = 3

namespace RuleGraph

variable {g g' : RuleGraph} {w : Wiring}

theorem treatment_mapRules (hw : w.HasFirstNumbers)
    (h : g.treatment = .unwired ∨ ∃ uplink downlink, g.treatment = .active uplink downlink) :
    (g.mapRules w.pdr w.far).treatment = .active w.uplinkFlows w.downlinkFlows := by
  have hfilters : (g.mapRules w.pdr w.far).treatment.filters = g.treatment.filters.map fun x =>
      (x.1, if x.1 = 2 then w.downlinkFlows else if x.1 = 1 then w.uplinkFlows
        else if x.1 = 4 then Pdr.withSolicitations x.2 else x.2) := by
    simp [treatment, mapRules, w.pdr_flows, hw.uplink, hw.downlink, hw.toControl]
  have hactions : (g.mapRules w.pdr w.far).treatment.actions = g.treatment.actions.map fun x =>
      (x.1, if x.1 = 3 then .forwardOnly else if x.1 = 2 then .forwardOnly else x.2) := by
    simp only [treatment, mapRules, List.map_map]
    refine List.map_congr_left fun f _ => ?_
    simp only [Function.comp_apply, w.far_eq, hw.downlinkFar, hw.toControlFar]
    split_ifs <;> rfl
  rw [Treatment.mk.injEq, hfilters, hactions]
  obtain h | ⟨uplink, downlink, h⟩ := h
  · rw [h]
    exact ⟨rfl, rfl⟩
  · rw [h]
    exact ⟨rfl, rfl⟩

end RuleGraph

namespace Session

open Policy (matched)

variable {s s' s₀ s₁ : Session} {config : Config} {d : Policy.Decision} {m : Policy.Message}
  {b b' : Bearer} {ms : List RuleGraph.Meter} {w : Wiring} {complete : Bool}
  {answer : Option UInt32}

/-! ## Installations -/

theorem LaidOut.distinct (h : s.LaidOut complete) : s.graph.Distinct :=
  ⟨h.nodup_ids.1, h.nodup_ids.2⟩

theorem WiredBy.hasFirstNumbers (h : s.WiredBy config b ms w b') (hlaidOut : s.LaidOut true)
    (hnumbers : HasFirstNumbers b) : w.HasFirstNumbers := by
  cases hlaidOut with
  | control hfrom hto hfar _ =>
    refine ⟨?_, ?_, ?_, ?_, ?_, ?_⟩
    · rw [h.uplink, hnumbers.uplinkPdr]
    · rw [h.downlink, hnumbers.downlinkPdr]
    · exact Option.some.inj (h.fromControl.symm.trans hfrom)
    · exact Option.some.inj (h.toControl.symm.trans hto)
    · rw [h.downlinkFar, hnumbers.downlinkFar]
    · exact Option.some.inj (h.toControlFar.symm.trans hfar)

/-- An installation adds the rules of the control plane if they are not there, wires all rules, and
after that changes enforcement rules only. -/
theorem LaidOut.exists_wired (h : s.LaidOut complete) (hbearer : s.bearer = some b)
    (hnumbers : HasFirstNumbers b) (hok : (s.compile config d).result = .ok s') :
    ∃ b' s₁ ms w, (s.renewed config d).createForwarding.result = .ok s₁ ∧ s₁.LaidOut true ∧
      s₁.WiredBy config b ms w b' ∧ w.HasFirstNumbers ∧
      (s₁.graph.mapRules w.pdr w.far).QersChanged s'.graph ∧ s'.bearer = some b' := by
  obtain ⟨b₁, s₁, s₂, hb₁, hcreate, hwire, hlimit⟩ := result_compile.mp hok
  obtain ⟨-, hrenewed⟩ := s.frame_renewed config d
  obtain ⟨-, -, hcreated⟩ := grown_createForwarding hcreate
  have hbearer' : (s.renewed config d).bearer = some b := by rw [hrenewed, hbearer]
  obtain rfl : b₁ = b := Option.some.inj (hb₁.symm.trans hbearer')
  have hbearer₁ : s₁.bearer = some b₁ := by rw [hcreated, hb₁]
  have hlaidOut : s₁.LaidOut true :=
    (h.renewed config d).createForwarding hbearer' hnumbers hcreate
  -- Wiring and limiting the rates leave the numbers of the rules alone.
  obtain ⟨w, b', hwired, rfl⟩ := (result_wire hlaidOut.distinct hbearer₁).mp hwire
  have hdistinct : (s₁.graph.mapRules w.pdr w.far).Distinct :=
    hlaidOut.distinct.mapRules w.pdr_id w.far_id
  have hchanged := qersChanged_limitRates (by rw [graph_storeQuality]; exact hdistinct) hlimit
  rw [graph_storeQuality] at hchanged
  have hlimited := frame_limitRates hlimit
  rw [storeQuality_eq] at hlimited
  exact ⟨b', s₁, _, w, hcreate, hlaidOut, hwired, hwired.hasFirstNumbers hlaidOut hnumbers,
    hchanged, by rw [hlimited]; rfl⟩

/-- What every history keeps of an established session. Until the first installation its rules
match and do nothing, and from then on they are in use. -/
structure Operating (s : Session) (complete : Bool) : Prop where
  bearer : ∃ b, s.bearer = some b ∧ HasFirstNumbers b
  laidOut : s.LaidOut complete
  treatment : ∃ uplink downlink,
    s.graph.treatment = if complete then .active uplink downlink else .idle

theorem Established.operating (h : s.Established) : s.Operating false where
  bearer := h.exists_bearer
  laidOut := h.laidOut
  treatment := by
    obtain ⟨⟨base, hgraph⟩, -⟩ := h.rules_eq
    rw [hgraph]
    exact ⟨[], [], rfl⟩

namespace Operating

/-- A step that leaves the bearer and the rules alone. -/
theorem of_eq (h : s.Operating complete) (hbearer : s'.bearer = s.bearer)
    (hgraph : s'.graph = s.graph) (hfrom : s'.fromControlPdr = s.fromControlPdr)
    (hto : s'.toControlPdr = s.toControlPdr) (hfar : s'.toControlFar = s.toControlFar) :
    s'.Operating complete where
  bearer := hbearer ▸ h.bearer
  laidOut := h.laidOut.of_layout (by rw [hgraph]) hfrom hto hfar
  treatment := hgraph ▸ h.treatment

/-- The rules of a session that has those of the control plane are wired by an installation. -/
theorem createForwarding (h : s.Operating complete) (hok : s.createForwarding.result = .ok s') :
    s'.LaidOut true ∧ (s'.graph.treatment = .unwired ∨
      ∃ uplink downlink, s'.graph.treatment = .active uplink downlink) := by
  obtain ⟨⟨b, hbearer, hnumbers⟩, hlaidOut, uplink, downlink, htreatment⟩ := h
  refine ⟨hlaidOut.createForwarding hbearer hnumbers hok, ?_⟩
  rw [hlaidOut.createForwarding_eq hbearer hnumbers hok]
  cases hlaidOut with
  | bearer _ _ _ hlayout => exact .inl (RuleGraph.treatment_withControl hlayout htreatment)
  | control => exact .inr ⟨uplink, downlink, htreatment⟩

/-- Renewing the meters and storing the rules of a decision changes only these. -/
theorem renewed (h : s.Operating complete) (config : Config) (d : Policy.Decision) :
    (s.renewed config d).Operating complete := by
  obtain ⟨hurrs, hrenewed⟩ := s.frame_renewed config d
  refine ⟨?_, h.laidOut.renewed config d, ?_⟩
  · rw [hrenewed]
    exact h.bearer
  · rw [hurrs.treatment]
    exact h.treatment

/-- An installation leaves the rules in use, with the flows of its decision. -/
theorem compile (h : s.Operating complete) (hok : (s.compile config d).result = .ok s') :
    s'.Operating true ∧ s'.graph.treatment =
      .active (matched d.rules [.uplinkOnly, .bidirectional])
        (matched d.rules [.downlinkOnly, .bidirectional]) := by
  obtain ⟨b, hbearer, hnumbers⟩ := h.bearer
  obtain ⟨b', s₁, ms, w, hcreate, -, hwired, hroles, hchanged, hbearer'⟩ :=
    h.laidOut.exists_wired hbearer hnumbers hok
  obtain ⟨-, hrenewed⟩ := s.frame_renewed config d
  obtain ⟨-, -, hcreated⟩ := grown_createForwarding hcreate
  obtain ⟨-, htreatment⟩ := (h.renewed config d).createForwarding hcreate
  have hrules : s₁.rules = d.rules := by rw [hcreated, hrenewed]
  have hfinal : s'.graph.treatment =
      .active (matched d.rules [.uplinkOnly, .bidirectional])
        (matched d.rules [.downlinkOnly, .bidirectional]) := by
    rw [hchanged.treatment, RuleGraph.treatment_mapRules hroles htreatment, hwired.uplinkFlows,
      hwired.downlinkFlows, hrules, Policy.matched_uplink, Policy.matched_downlink]
  have hnumbers' : HasFirstNumbers b' := by
    rw [hwired.ends.bearer]
    exact hnumbers.withLocalEnd _
  exact ⟨⟨⟨b', hbearer', hnumbers'⟩, h.laidOut.compile hbearer hnumbers hok, _, _, hfinal⟩, hfinal⟩

theorem handlePolicy (h : s.Operating complete)
    (hok : (s.handlePolicy config m).result = .ok (answer, s')) :
    s'.Operating (complete || s.accepts config m) := by
  cases haccepts : s.accepts config m with
  | true =>
    rw [Bool.or_true]
    exact (h.compile (handlePolicy_of_accepts hok haccepts)).1
  | false =>
    rw [Bool.or_false, handlePolicy_of_not_accepts hok haccepts]
    exact h.of_eq rfl rfl rfl rfl rfl

end Operating

/-! ## Histories -/

/-- Any messages of the policy server to a session that was established as `s₀`, each handled under
settings of its own, none of which ends in a fault. A history comes with whether a decision has been
installed in it. -/
inductive PolicyHistory (s₀ : Session) : Bool → Session → Prop
  | start : PolicyHistory s₀ false s₀
  | handle {complete : Bool} {s s' : Session} {config : Config} {m : Policy.Message}
      {answer : Option UInt32} (hrun : PolicyHistory s₀ complete s)
      (hok : (s.handlePolicy config m).result = .ok (answer, s')) :
      PolicyHistory s₀ (complete || s.accepts config m) s'

theorem PolicyHistory.operating (hs₀ : s₀.Established) (hrun : PolicyHistory s₀ complete s) :
    s.Operating complete := by
  induction hrun with
  | start => exact hs₀.operating
  | handle hrun hok ih => exact ih.handlePolicy hok

/-- An installation of two rules, neither of which is metered. One flow is matched in both
directions, and one has the description of router solicitations. -/
def browsing : Policy.Message :=
  { kind := .initialAnswer
    decision :=
      { rules :=
        [{ name := "web", flows := [⟨.bidirectional, "permit out 6 from any to assigned"⟩] },
          { name := "dns", flows := [⟨.downlinkOnly, "permit out 17 from any to assigned"⟩,
            ⟨.uplinkOnly, "permit out 58 from ff02::2/128 to assigned"⟩] }] } }

end Session

/-! ## Which packets are forwarded -/

/-- Packets are passed on, and neither dropped nor kept back. -/
def Far.Forwards (f : Far) : Prop :=
  f.action.forward = true ∧ f.action.drop = false ∧ f.action.buffer = false

instance (f : Far) : Decidable f.Forwards :=
  inferInstanceAs (Decidable (_ ∧ _))

/-- A forwarding rule that a treatment speaks of is found under its number. -/
theorem RuleGraph.exists_far?_of_mem_actions {g : RuleGraph} {id : FarId} {action : ApplyAction}
    (h : g.Distinct) (hmem : (id, action) ∈ g.treatment.actions) :
    ∃ f, g.far? id = some f ∧ f.action = action := by
  obtain ⟨f, hf, heq⟩ := List.mem_map.mp hmem
  obtain ⟨hid, haction⟩ := Prod.mk.inj heq
  exact ⟨f, (find?_key_eq_some h.fars).mpr ⟨hf, hid⟩, haction⟩

namespace Session

variable {s s₀ : Session}

/-- From the first installation on, in any history, every detection rule has its forwarding rule,
and it forwards packets unless they come from the device and are for the network. With those nothing
is done at all: no installation says what is to be done with them. -/
theorem forwards_iff_of_policyHistory (hs₀ : s₀.Established) (hrun : PolicyHistory s₀ true s) :
    ∃ b, s.bearer = some b ∧ s.HasRules b true ∧ ∀ p ∈ s.graph.pdrs,
      ∃ f, s.graph.far? p.far = some f ∧ (f.Forwards ↔ p.id ≠ b.uplinkPdr) ∧
        (p.id = b.uplinkPdr → f.action = {}) := by
  obtain ⟨⟨b, hbearer, hnumbers⟩, hlaidOut, uplink, downlink, htreatment⟩ := hrun.operating hs₀
  rw [if_pos rfl] at htreatment
  refine ⟨b, hbearer, hlaidOut.hasRules hnumbers, fun p hp => ?_⟩
  have hidle : ∃ f, s.graph.far? 1 = some f ∧ f.action = {} :=
    RuleGraph.exists_far?_of_mem_actions hlaidOut.distinct <| by
      simp [htreatment, RuleGraph.Treatment.active]
  have hforwards : ∀ id, id = 2 ∨ id = 3 →
      ∃ f, s.graph.far? id = some f ∧ f.action = .forwardOnly := by
    intro id hid
    refine RuleGraph.exists_far?_of_mem_actions hlaidOut.distinct ?_
    simpa [htreatment, RuleGraph.Treatment.active] using Or.inr hid
  have hpath : p.path ∈ RuleGraph.Layout.control.pdrs := by
    cases hlaidOut with
    | control _ _ _ hlayout =>
      rw [← hlayout]
      exact List.mem_map_of_mem hp
  simp only [RuleGraph.Layout.control, Pdr.path, List.mem_cons, List.not_mem_nil, or_false,
    Prod.mk.injEq] at hpath
  rw [hnumbers.uplinkPdr]
  -- Only the rule of the uplink names the forwarding rule that does nothing.
  obtain ⟨hid, -, hfar⟩ | hother := hpath
  · obtain ⟨f, hf, haction⟩ := hidle
    refine ⟨f, hfar ▸ hf, ?_, fun _ => haction⟩
    simp [Far.Forwards, haction, hid]
  · have hid : p.id ≠ 1 := by
      obtain ⟨hid, -⟩ | ⟨hid, -⟩ | ⟨hid, -⟩ := hother <;> simp [hid]
    obtain ⟨f, hf, haction⟩ := hforwards p.far (by tauto)
    refine ⟨f, hf, ?_, fun heq => absurd heq hid⟩
    simp [Far.Forwards, haction, hid, ApplyAction.forwardOnly]

/-- A decision is installed, the policy server ends the session, and the decision is installed
again. -/
theorem forwards_iff_of_policyHistory_reinstalled :
    ∃ s b, PolicyHistory attached true s ∧ s.bearer = some b ∧ s.HasRules b true ∧
      ∀ p ∈ s.graph.pdrs, ∃ f, s.graph.far? p.far = some f ∧ (f.Forwards ↔ p.id ≠ b.uplinkPdr) ∧
        (p.id = b.uplinkPdr → f.action = {}) := by
  let s₁ := attached.afterPolicy {} browsing
  have hok₁ : (attached.handlePolicy {} browsing).result = .ok (some 2001, s₁) := by
    decide +kernel
  have hok₂ : (s₁.handlePolicy {} { kind := .terminationAnswer }).result =
      .ok (some 2001, s₁) := by decide +kernel
  have hok₃ : (s₁.handlePolicy {} browsing).result =
      .ok (some 2001, s₁.afterPolicy {} browsing) := by decide +kernel
  have hrun := ((PolicyHistory.start.handle hok₁).handle hok₂).handle hok₃
  obtain ⟨b, hbearer, hrules, hforwards⟩ := forwards_iff_of_policyHistory established_attached hrun
  exact ⟨_, b, hrun, hbearer, hrules, hforwards⟩

/-- It is not so that every detection rule has a forwarding rule that forwards after an
installation: the one of the uplink has not. -/
theorem not_forall_forwards : ¬∀ s₀ s : Session, s₀.Established → PolicyHistory s₀ true s →
    ∀ p ∈ s.graph.pdrs, ∃ f, s.graph.far? p.far = some f ∧ f.Forwards := by
  intro hall
  let s := attached.afterPolicy {} browsing
  have hok : (attached.handlePolicy {} browsing).result = .ok (some 2001, s) := by decide +kernel
  have hrun : PolicyHistory attached true s := PolicyHistory.start.handle hok
  obtain ⟨uplink, hmem, hfar⟩ : ∃ p ∈ s.graph.pdrs, p.far = 1 := by decide +kernel
  obtain ⟨f, hf, hforwards⟩ := hall attached s established_attached hrun uplink hmem
  have hidle : (s.graph.far? 1).map (·.action) = some {} := by decide +kernel
  rw [hfar] at hf
  rw [hf] at hidle
  have haction : f.action = {} := Option.some.inj hidle
  rw [Far.Forwards, haction] at hforwards
  exact Bool.false_ne_true hforwards.1

end Session

end SessionControl
