import SessionControl.Proofs.Policy.Progress
import SessionControl.Proofs.Policy.Renumbering
import SessionControl.Proofs.Policy.Rewiring

/-!
# The last installation wins

After any run of messages, an accepted installation leaves a session as the same message alone
would have left it right after the session was established. What may differ are the numbers of the
reporting rules, and with them their order, the rates and the quality of service with all that
follows from them, and the counters of enforcement and reporting rules.

## Main definitions

- `Session.Followed` — what every run of messages keeps, whether or not the session is exempt
- `Session.Fresh` — a session has the rules of its default bearer and no others
- `Session.SamePolicy` — two sessions are the same but for what an installation may leave behind

## Main statements

- `Session.Followed.handlePolicy` — every message keeps what every run keeps
- `Session.Fresh.exists_compile` — a decision that is installed late could have been installed first
- `Session.samePolicy_of_policyRun` — the last installation wins
-/

namespace SessionControl

open Attempt
open RuleGraph (Meter)

namespace Session

variable {s s₀ s₁ s' t t₁ : Session} {config : Config} {d : Policy.Decision} {b b₀ b' : Bearer}
  {ms : List Meter} {w : Wiring}

/-- The rules whose groups are metered: none for a session that is exempt. -/
def chargedRules (s : Session) (config : Config) (rules : List Policy.Rule) : List Policy.Rule :=
  if s.isFor config.voiceNetwork then [] else rules

/-- An installation does not touch the meters of a session that is exempt, of which there are
none. -/
theorem Compiled.metersFor_nil (h : s.Compiled config d s₁ b b' w s')
    (hvoice : s.isFor config.voiceNetwork = true)
    (hold : s.graph.MetersFor config.meter b.uplinkPdr b.downlinkPdr []) :
    s'.graph.MetersFor config.meter b.uplinkPdr b.downlinkPdr [] := by
  obtain ⟨hurrs, hfree, -, -⟩ := RuleGraph.MetersFor.nil_iff.mp hold
  have hvalue := value_renewMeters_of_voice hvoice d
  have hw := h.wired
  have hmeters : w.meters = [] := by
    rw [hw.meters, hvalue]
    rfl
  obtain ⟨onPdr, -, -, hpdr⟩ := h.pdr?
  refine RuleGraph.MetersFor.nil_iff.mpr ⟨?_, ?_, ?_, ?_⟩
  · rw [h.urrs, renewed, hvalue]
    exact hurrs
  · intro p hp
    obtain ⟨p₀, hp₀, -, hset⟩ := h.urrs_of_mem_pdrs hp
    obtain ⟨new, hpdrs, hnew⟩ := h.grown.pdrs
    have hp₀free : p₀.urrs = [] := by
      rw [hpdrs, List.mem_append, renewed, hvalue] at hp₀
      obtain hp₀ | hp₀ := hp₀
      · exact hfree p₀ hp₀
      · exact hnew p₀ hp₀
    rw [hset, hp₀free, hmeters, insertAll_nil, ite_self]
  · rw [hpdr, Option.isSome_map]
    exact hw.ends.uplink
  · rw [hpdr, Option.isSome_map]
    exact hw.downlinkThere

/-- An installation makes the meters of a session those of its decision, if it is metered. -/
theorem Compiled.metersFor_chargedRules (h : s.Compiled config d s₁ b b' w s')
    (hnumbered : s.graph.Numbered) {old : List Policy.Rule}
    (hold : s.graph.MetersFor config.meter b.uplinkPdr b.downlinkPdr (s.chargedRules config old)) :
    s'.graph.MetersFor config.meter b.uplinkPdr b.downlinkPdr (s.chargedRules config d.rules) := by
  cases hvoice : s.isFor config.voiceNetwork with
  | true =>
    rw [chargedRules, if_pos hvoice] at hold ⊢
    exact h.metersFor_nil hvoice hold
  | false =>
    have hmeters := h.metersFor hnumbered hvoice hold
    rw [h.wired.ends.bearer] at hmeters
    rw [chargedRules, hvoice, if_neg Bool.false_ne_true]
    exact hmeters

/-! ## Runs -/

/-- What every run of messages keeps, whether or not the session is exempt. -/
structure Followed (config : Config) (s₀ : Session) (b₀ : Bearer) (s : Session) : Prop where
  laid : Laid s₀ b₀ s
  numbered : s.graph.Numbered
  ascending : AscendingUpTo s.graph.lastUrr (s.graph.urrs.map (·.id))
  meters : ∃ rules, s.graph.MetersFor config.meter b₀.uplinkPdr b₀.downlinkPdr
    (s₀.chargedRules config rules)

theorem Laid.name (h : Laid s₀ b₀ s) : s.name = s₀.name := by
  cases h with
  | unwired hs => rw [hs]
  | wired h =>
    have hframe := h.frame
    rw [Controlled] at hframe
    rw [hframe]
    rfl

theorem chargedRules_eq_of_name (config : Config) (rules : List Policy.Rule)
    (h : s.name = s₀.name) : s.chargedRules config rules = s₀.chargedRules config rules := by
  rw [chargedRules, chargedRules, isFor, isFor, h]

/-- Only the renewal of the meters gives numbers to reporting rules. -/
theorem Compiled.lastUrr (h : s.Compiled config d s₁ b b' w s') :
    s'.graph.lastUrr = (s.renewed config d).graph.lastUrr := by
  obtain ⟨-, -, hlast⟩ := h.qersChanged.counters
  rw [hlast]
  change s₁.graph.lastUrr = _
  rw [h.grown.frame]

/-- An installation keeps the reporting rules in the order of their numbers. -/
theorem Compiled.ascending (h : s.Compiled config d s₁ b b' w s')
    (hascending : AscendingUpTo s.graph.lastUrr (s.graph.urrs.map (·.id)))
    (hadvance : Advances s.graph.lastUrr s'.graph.lastUrr) :
    AscendingUpTo s'.graph.lastUrr (s'.graph.urrs.map (·.id)) := by
  rw [h.lastUrr] at hadvance
  rw [h.lastUrr, h.urrs]
  cases hvoice : s.isFor config.voiceNetwork with
  | true =>
    rw [renewed, value_renewMeters_of_voice hvoice]
    exact hascending
  | false =>
    rw [renewed, value_renewMeters hvoice] at hadvance ⊢
    exact RuleGraph.ascending_renewMeters hascending hadvance

/-- An installation that is not the first one leaves a session wired as after the first one, and
with the meters of its decision. -/
theorem Followed.compile (hs₀ : s₀.Unwired b₀) (h : Followed config s₀ b₀ s)
    (hok : (s.compile config d).result = .ok s') (hadvance : s.graph.CountersAdvance s'.graph) :
    ∃ s₁ b b' w, Rewirable s₀ b₀ b s₁ ∧ s₁.rules = d.rules ∧
      s₁.WiredBy config b (s.renewMeters config d).value.1 w b' ∧ Wired s₀ b₀ b' w s' ∧
      s'.rules = d.rules ∧ s'.graph.Numbered ∧
      AscendingUpTo s'.graph.lastUrr (s'.graph.urrs.map (·.id)) ∧
      s'.graph.MetersFor config.meter b₀.uplinkPdr b₀.downlinkPdr
        (s₀.chargedRules config d.rules) := by
  obtain ⟨s₁, b, b', w, hcreate, hcompiled⟩ := compiled_of_created h.numbered hok hadvance
  obtain ⟨b₁, hb₁, hrewirable, hrules⟩ := h.laid.rewirable hs₀ hcreate
  obtain rfl : b₁ = b := Option.some.inj (hb₁.symm.trans hcompiled.bearer)
  obtain ⟨old, hold⟩ := h.meters
  have hup : b₀.uplinkPdr = b₁.uplinkPdr := by rw [hrewirable.bearer.eq]
  have hdown : b₀.downlinkPdr = b₁.downlinkPdr := by rw [hrewirable.bearer.eq]
  have hcharged := fun rules => chargedRules_eq_of_name config rules h.laid.name
  rw [← hcharged, hup, hdown] at hold
  have hmeters := hcompiled.metersFor_chargedRules h.numbered hold
  rw [hcharged, ← hup, ← hdown] at hmeters
  have hframe := hcompiled.frame
  refine ⟨s₁, b₁, b', w, hrewirable, hrules, hcompiled.wired, hrewirable.wired hcompiled.wired
    hcompiled.qersChanged.routing ?_, hcompiled.rules, hcompiled.numbered,
    hcompiled.ascending h.ascending hadvance.urr, hmeters⟩
  rw [hframe]

theorem Followed.handlePolicy {m : Policy.Message} {answer : Option UInt32}
    (hs₀ : s₀.Unwired b₀) (h : Followed config s₀ b₀ s)
    (hok : (s.handlePolicy config m).result = .ok (answer, s'))
    (hadvance : s.graph.CountersAdvance s'.graph) : Followed config s₀ b₀ s' := by
  cases haccepts : s.accepts config m with
  | true =>
    have hcompile := handlePolicy_of_accepts hok haccepts
    obtain ⟨_, _, _, _, -, -, -, hwired, -, hnumbered, hascending, hmeters⟩ :=
      h.compile hs₀ hcompile hadvance
    exact ⟨.wired hwired, hnumbered, hascending, _, hmeters⟩
  | false =>
    have hs' := handlePolicy_of_not_accepts hok haccepts
    obtain ⟨hlaid, hnumbered, hascending, hmeters⟩ := h
    rw [hs']
    refine ⟨?_, hnumbered, hascending, hmeters⟩
    cases hlaid with
    | unwired hs => exact .unwired (by rw [hs])
    | wired h =>
      refine .wired ⟨h.bearer, ?_, h.roles, h.routing⟩
      have hframe := h.frame
      rw [Controlled] at hframe ⊢
      rw [hframe]

theorem PolicyRun.followed {installed : Option Policy.Decision} (hs₀ : s₀.Unwired b₀)
    (hfollowed : Followed config s₀ b₀ s₀) (hrun : PolicyRun config s₀ installed s) :
    Followed config s₀ b₀ s := by
  induction hrun with
  | start => exact hfollowed
  | handle hrun hok hadvance ih => exact ih.handlePolicy hs₀ hok hadvance

/-! ## The same decision at first -/

/-- A session has the rules of its default bearer and no others, and nothing limits or meters
them. -/
structure Fresh (s : Session) (b : Bearer) : Prop where
  unwired : s.Unwired b
  carries : s.graph.Carries b
  numbered : s.graph.Numbered
  unmetered : s.graph.urrs = [] ∧ ∀ p ∈ s.graph.pdrs, p.urrs = []
  counters : s.graph.counters = (2, 2, 0, 0)

theorem Established.fresh (h : s.Established) : ∃ b, s.Fresh b := by
  obtain ⟨⟨base, hgraph⟩, b, hbearer, hup, hdown⟩ := h.rules_eq
  obtain ⟨b', hunwired⟩ := h.unwired
  obtain rfl : b' = b := Option.some.inj (hunwired.bearer.symm.trans hbearer)
  refine ⟨b', hunwired, ⟨?_, ?_, hunwired.downlinkFar⟩, h.numbered, ?_, ?_⟩
  · rw [hgraph, hup]; rfl
  · rw [hgraph, hdown]; rfl
  · rw [hgraph]
    exact ⟨rfl, by simp [RuleGraph.established]⟩
  · rw [hgraph]
    rfl

namespace Fresh

theorem followed (h : s.Fresh b) (config : Config) : Followed config s b s := by
  obtain ⟨hurrs, hfree⟩ := h.unmetered
  refine ⟨.unwired rfl, h.numbered, ?_, [], ?_⟩
  · rw [hurrs]
    exact .nil
  · rw [chargedRules, ite_self]
    exact RuleGraph.MetersFor.nil_iff.mpr ⟨hurrs, hfree, h.carries.uplink, h.carries.downlink⟩

/-- There is room for the rules of the control plane. -/
theorem countersAdvance_withControl (h : s₀.Fresh b₀) {g : RuleGraph}
    (hg : g.routing = s₀.graph.routing) (far : FarId) : g.CountersAdvance (g.withControl far) := by
  have hcounters := h.counters
  simp only [RuleGraph.counters, Prod.mk.injEq] at hcounters
  obtain ⟨hpdr, hfar, -, -⟩ := hcounters
  obtain ⟨-, hlastPdr, hlastFar⟩ := RuleGraph.numbers_of_routing hg
  constructor
  case pdr =>
    change g.lastPdr ≤ g.lastPdr + 1 + 1
    rw [hlastPdr, hpdr]
    decide
  case far =>
    change g.lastFar ≤ g.lastFar + 1
    rw [hlastFar, hfar]
    decide
  case qer => exact UInt32.le_refl _
  case urr => exact UInt32.le_refl _

/-- No enforcement or reporting rules have been numbered at first, so only the other counters could
fall behind. -/
theorem countersAdvance_of_le (h : s₀.Fresh b₀) {g : RuleGraph}
    (hpdr : s₀.graph.lastPdr ≤ g.lastPdr) (hfar : s₀.graph.lastFar ≤ g.lastFar) :
    s₀.graph.CountersAdvance g := by
  have hcounters := h.counters
  simp only [RuleGraph.counters, Prod.mk.injEq] at hcounters
  obtain ⟨-, -, hqer, hurr⟩ := hcounters
  refine ⟨hpdr, hfar, ?_, ?_⟩
  · rw [hqer]
    exact UInt32.zero_le
  · rw [hurr]
    exact UInt32.zero_le

/-- The counters of a session that has been wired once are ahead of where they were at first. -/
theorem countersAdvance (h : s₀.Fresh b₀) (hwired : Wired s₀ b₀ b w s) :
    s₀.graph.CountersAdvance s.graph := by
  obtain ⟨-, hlastPdr, hlastFar⟩ := RuleGraph.numbers_of_routing hwired.routing
  have hcontrol := h.countersAdvance_withControl rfl b₀.downlinkFar
  refine h.countersAdvance_of_le ?_ ?_
  · rw [hlastPdr]
    exact hcontrol.pdr
  · rw [hlastFar]
    exact hcontrol.far

/-- Adding the rules of the control plane for the first time gives no number twice. -/
theorem numbered_created (h : s₀.Fresh b₀)
    (hcreate : (s₀.renewed config d).createForwarding.result = .ok t₁) : t₁.graph.Numbered := by
  have hcounters := h.counters
  simp only [RuleGraph.counters, Prod.mk.injEq] at hcounters
  obtain ⟨-, -, -, hurr⟩ := hcounters
  have hrenewed : (s₀.renewed config d).graph.Numbered := by
    refine Session.numbered_renewed h.numbered ?_
    rw [hurr]
    exact UInt32.zero_le
  obtain ⟨hgrown, -, -⟩ := grown_createForwarding hcreate
  rw [(h.unwired.renewed config d).result_createForwarding, Except.ok.injEq] at hcreate
  refine hgrown.numbered hrenewed ?_
  rw [← hcreate]
  exact h.countersAdvance_withControl (s₀.frame_renewed config d).1.routing b₀.downlinkFar

/-- The rates of a session that has just been wired for the first time can be limited, which has no
part in how its packets are routed. -/
theorem exists_limitRates_wired {t₂ : Session} (hnumbered : t₁.graph.Numbered)
    (hcarries : t₁.graph.Carries b₀) (hqer : t₁.graph.lastQer = 0)
    (ht₂ : t₂ = (t₁.mapRules w.pdr w.far).setBearer b') (d : Policy.Decision) :
    ∃ t, ((t₂.storeQuality d).limitRates b₀).result = .ok t ∧
      t.graph.routing = (t₁.graph.mapRules w.pdr w.far).routing ∧
      t = { t₁ with
        bearer := some b'
        graph := t.graph
        rates := t.rates
        qos := t.qos
        changed := t.changed
        ratesQer := t.ratesQer } := by
  have hgraph : (t₂.storeQuality d).graph = t₁.graph.mapRules w.pdr w.far := by
    rw [graph_storeQuality, ht₂]
    rfl
  have hcarries₂ : (t₂.storeQuality d).graph.Carries b₀ := by
    refine hcarries.mono (.of_ids ?_ ?_)
    · rw [hgraph]
      simp [RuleGraph.mapRules]
    · rw [hgraph]
      simp [RuleGraph.mapRules]
  have hnumbered₂ : (t₂.storeQuality d).graph.Numbered := by
    rw [hgraph]
    exact hnumbered.mapRules w.pdr_id w.far_id
  have hqer₂ : (t₂.storeQuality d).graph.lastQer = 0 := by
    rw [hgraph]
    exact hqer
  obtain ⟨t, hlimit, -⟩ := exists_limitRates hcarries₂
  obtain ⟨hchanged, -, -, ht⟩ := limited_limitRates hnumbered₂ hlimit (hqer₂ ▸ UInt32.zero_le)
  refine ⟨t, hlimit, ?_, ?_⟩
  · rw [hchanged.routing, hgraph]
  · rw [ht, ht₂]
    rw [storeQuality_eq]
    rfl

/-- A decision that was installed in the end can be installed at first, and the wiring is the same
then, but for the meters. -/
theorem exists_compile (h : s₀.Fresh b₀) (hs₁ : Rewirable s₀ b₀ b s₁) (hrules : s₁.rules = d.rules)
    (hw : s₁.WiredBy config b ms w b') :
    ∃ t meters, (s₀.compile config d).result = .ok t ∧ Wired s₀ b₀ b' { w with meters } t := by
  obtain ⟨t₁, hcreate⟩ : ∃ t₁, (s₀.renewed config d).createForwarding.result = .ok t₁ :=
    ⟨_, (h.unwired.renewed config d).result_createForwarding⟩
  have hbearer := (h.unwired.renewed config d).bearer
  obtain ⟨hgrown, -, hcreated⟩ := grown_createForwarding hcreate
  obtain ⟨b₁, hb₁, ht₁, hrules₁⟩ := (Laid.unwired rfl).rewirable h.unwired hcreate
  obtain rfl : b₁ = b₀ := Option.some.inj (hb₁.symm.trans h.unwired.bearer)
  have hnumbered := h.numbered_created hcreate
  have hcarries : t₁.graph.Carries b₁ :=
    (h.carries.mono (s₀.frame_renewed config d).1.retains).mono (retains_createForwarding hcreate)
  have hms : ∀ m ∈ (s₀.renewMeters config d).value.1, (t₁.graph.urr? m.urr).isSome := by
    intro m hm
    rw [RuleGraph.urr?, hgrown.frame]
    exact s₀.isSome_urr?_renewed config d m hm
  have hqer : t₁.graph.lastQer = 0 := by
    have hcounters := h.counters
    simp only [RuleGraph.counters, Prod.mk.injEq] at hcounters
    obtain ⟨-, -, hqer, -⟩ := hcounters
    rw [hgrown.frame, renewed_eq h.numbered]
    exact hqer
  -- The session gets the wiring of the other one, with its own meters.
  obtain ⟨w', hw', hwired⟩ : ∃ w', w' = { w with meters := w'.meters } ∧
      t₁.WiredBy config b₁ (s₀.renewMeters config d).value.1 w' b' :=
    ⟨_, rfl, hs₁.wiredBy ht₁ (hrules₁.trans hrules.symm) hcarries.downlinkFar hms hw⟩
  have hbearer₁ : t₁.bearer = some b₁ := by rw [hcreated, hbearer]
  have hwire := (result_wire hnumbered.distinct hbearer₁).mpr ⟨w', b', hwired, rfl⟩
  obtain ⟨t, hlimit, hrouting, ht⟩ := exists_limitRates_wired hnumbered hcarries hqer rfl d
  have hcompile := result_compile.mpr ⟨b₁, t₁, _, hbearer, hcreate, hwire, hlimit⟩
  refine ⟨t, w'.meters, hcompile, ?_⟩
  rw [← hw']
  exact ht₁.wired hwired hrouting ht

end Fresh

/-! ## The last installation -/

/-- Two sessions are the same but for what a history of installations may leave behind: the numbers
of the reporting rules and the order in which these are applied, the counters of enforcement and
reporting rules, and the rates and the quality of service with the flags and the enforcement rule
that follow from them. -/
structure SamePolicy (s t : Session) : Prop where
  frame : t = { s with
    graph := t.graph
    rates := t.rates
    qos := t.qos
    changed := t.changed
    ratesQer := t.ratesQer }
  routing : t.graph.routing = s.graph.routing
  meters : ∃ rename, s.graph.SameMeters t.graph rename

theorem Wired.samePolicy {meters : List UrrId} (h : Wired s₀ b₀ b' w s)
    (h' : Wired s₀ b₀ b' { w with meters } t) (hrules : t.rules = s.rules)
    (hmeters : ∃ rename, s.graph.SameMeters t.graph rename) : s.SamePolicy t where
  frame := by
    have hframe := h.frame
    have hframe' := h'.frame
    rw [Controlled] at hframe hframe'
    rw [hframe', hframe, hrules]
  routing := by
    have hpdr : Pdr.routing ∘ ({ w with meters } : Wiring).pdr = Pdr.routing ∘ w.pdr := by
      funext p
      rfl
    rw [h.routing, h'.routing]
    simp only [RuleGraph.routing, RuleGraph.mapRules, List.map_map, hpdr]
    rfl
  meters := hmeters

/-- After any run of messages from an established session, an accepted installation gives the same
answer as on the established session itself, and leaves the session with the same policy. -/
theorem samePolicy_of_policyRun {installed : Option Policy.Decision} {m : Policy.Message}
    {answer : Option UInt32} (hs₀ : s₀.Established) (hrun : PolicyRun config s₀ installed s)
    (haccepts : s.accepts config m = true)
    (hok : (s.handlePolicy config m).result = .ok (answer, s'))
    (hadvance : s.graph.CountersAdvance s'.graph) :
    ∃ t, (s₀.handlePolicy config m).result = .ok (answer, t) ∧ s'.SamePolicy t := by
  obtain ⟨b₀, hfresh⟩ := hs₀.fresh
  have hfollowed₀ := hfresh.followed config
  have hfollowed := hrun.followed hfresh.unwired hfollowed₀
  obtain ⟨hanswer, hcompile⟩ := (result_handlePolicy_of_accepts haccepts).mp hok
  obtain ⟨s₁, b, b', w, hs₁, hrules₁, hw, hwired, hrules, -, hascending, hmeters⟩ :=
    hfollowed.compile hfresh.unwired hcompile hadvance
  obtain ⟨t, meters, htcompile, htwired⟩ := hfresh.exists_compile hs₁ hrules₁ hw
  obtain ⟨_, _, _, _, -, -, -, -, htrules, -, htascending, htmeters⟩ :=
    hfollowed₀.compile hfresh.unwired htcompile (hfresh.countersAdvance htwired)
  have haccepts₀ : s₀.accepts config m = true := by
    rw [accepts, ← refusal?_eq_of_name config m hfollowed.laid.name]
    exact haccepts
  have hsame := hmeters.sameMeters htmeters hascending.ascending htascending.ascending
  exact ⟨t, (result_handlePolicy_of_accepts haccepts₀).mpr ⟨hanswer, htcompile⟩,
    hwired.samePolicy htwired (htrules.trans hrules.symm) ⟨_, hsame⟩⟩

/-! ## Runs that end alike -/

theorem established_attached : attached.Established :=
  ⟨1, 1, "001010000000001", none, some ⟨10, 45, 0, 2⟩, none, some { picksEndpoints := true }, 5,
    { teid := 7, addr := some ⟨10, 0, 0, 1⟩ }, rfl⟩

/-- An installation on the established session, as a run. -/
theorem policyRun_attached {m : Policy.Message} {answer : Option UInt32}
    (haccepts : attached.accepts {} m = true)
    (hok : (attached.handlePolicy {} m).result = .ok (answer, s))
    (hadvance : attached.graph.CountersAdvance s.graph) :
    PolicyRun {} attached (some m.decision) s := by
  have hrun := PolicyRun.start.handle hok hadvance
  rw [if_pos haccepts] at hrun
  exact hrun

/-- A rating group goes, one stays and one comes, but no trace is left of the first installation. -/
theorem samePolicy_of_policyRun_metering :
    ∃ s s' t, PolicyRun {} attached (some (metering [10, 20]).decision) s ∧
      (s.handlePolicy {} (metering [30, 20])).result = .ok (some 2001, s') ∧
      (attached.handlePolicy {} (metering [30, 20])).result = .ok (some 2001, t) ∧
      s'.SamePolicy t := by
  have hrun : PolicyRun {} attached (some (metering [10, 20]).decision)
      (attached.afterPolicy {} (metering [10, 20])) :=
    policyRun_attached rfl rfl (by constructor <;> decide +kernel)
  have hok : ((attached.afterPolicy {} (metering [10, 20])).handlePolicy {}
      (metering [30, 20])).result = .ok (some 2001,
        (attached.afterPolicy {} (metering [10, 20])).afterPolicy {} (metering [30, 20])) := by rfl
  obtain ⟨t, ht, hsame⟩ := samePolicy_of_policyRun established_attached hrun rfl hok
    (by constructor <;> decide +kernel)
  exact ⟨_, _, t, hrun, hok, ht, hsame⟩

/-- The meter of a group that stays comes before that of a new one, whatever the order of their
rules; so the meters are not in the same order as after the same message alone, whatever their
numbers. -/
theorem not_sameOrder_metering :
    ∃ s s' t, PolicyRun {} attached (some (metering [30]).decision) s ∧
      s.accepts {} (metering [20, 30]) = true ∧
      (s.handlePolicy {} (metering [20, 30])).result = .ok (some 2001, s') ∧
      s.graph.CountersAdvance s'.graph ∧
      (attached.handlePolicy {} (metering [20, 30])).result = .ok (some 2001, t) ∧
      ¬∃ rename : UrrId → UrrId,
        (s'.graph.urrs.map fun u => { u with id := rename u.id }) = t.graph.urrs := by
  have hrun : PolicyRun {} attached (some (metering [30]).decision)
      (attached.afterPolicy {} (metering [30])) :=
    policyRun_attached rfl rfl (by constructor <;> decide +kernel)
  refine ⟨_, (attached.afterPolicy {} (metering [30])).afterPolicy {} (metering [20, 30]),
    attached.afterPolicy {} (metering [20, 30]), hrun, rfl, by rfl,
    by constructor <;> decide +kernel, by rfl, ?_⟩
  rintro ⟨rename, hsame⟩
  have hgroups := congrArg (List.map (·.ratingGroup)) hsame
  rw [List.map_map] at hgroups
  change ((attached.afterPolicy {} (metering [30])).afterPolicy {}
      (metering [20, 30])).graph.urrs.map (·.ratingGroup) = _ at hgroups
  revert hgroups
  decide +kernel

end Session

end SessionControl
