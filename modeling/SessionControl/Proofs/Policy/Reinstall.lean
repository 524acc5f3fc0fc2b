import SessionControl.Proofs.Policy.Install

/-!
# Installing a policy twice

Each stage of an installation leaves the session as the stage itself would make it, and no later
stage disturbs that. So installing the same decision a second time changes nothing but the flags
of what has to be signalled, which say what the last installation changed.

## Main definitions

- `Session.attached`, `Session.metering` — a session and installations to try things on
- `Session.afterPolicy` — a session after a message of the policy server

## Main statements

- `Session.Compiled.wired_again`, `Session.Compiled.mapRules_again` — the wiring that a session
  has is the one that it would get
- `Session.Compiled.result_compile` — compiling a decision a second time
- `Session.install_again` — installing the decision of a message a second time
-/

namespace SessionControl.Session

open Attempt
open RuleGraph (Meter)

variable {s s₁ s' : Session} {config : Config} {d : Policy.Decision} {b b' : Bearer}
  {w : Wiring}

namespace Compiled

/-- Apart from the default bearer, the rates, the quality of service and the flags, an
installation changes the rules only. -/
theorem frame (h : s.Compiled config d s₁ b b' w s') :
    s' = { s₁ with
      bearer := some b'
      rates := if Policy.ratesChanged s₁.rates d.rates then d.rates else s₁.rates
      qos := if Policy.qosChanged s₁.qos d.qos
        then { s₁.qos with index := d.qos.index, arp := d.qos.arp } else s₁.qos
      changed := s'.changed
      ratesQer := s'.ratesQer
      graph := s'.graph } := by
  have hfinal := h.final
  rw [storeQuality_eq] at hfinal
  rw [hfinal]
  rfl

theorem name (h : s.Compiled config d s₁ b b' w s') (hnumbered : s.graph.Numbered) :
    s'.name = s.name := by
  rw [h.frame, h.created, renewed_eq hnumbered config d]

theorem rules (h : s.Compiled config d s₁ b b' w s') : s'.rules = d.rules := by
  rw [h.frame, h.created]
  rfl

theorem urrs (h : s.Compiled config d s₁ b b' w s') :
    s'.graph.urrs = (s.renewed config d).graph.urrs := by
  obtain ⟨onQers, hgraph⟩ := h.qersChanged
  have hgrown := h.grown.frame
  rw [hgraph]
  change s₁.graph.urrs = _
  rw [hgrown]

theorem pdrs (h : s.Compiled config d s₁ b b' w s') :
    ∃ onQers : Pdr → List QerId,
      s'.graph.pdrs = s₁.graph.pdrs.map fun p => { w.pdr p with qers := onQers p } := by
  obtain ⟨onQers, hgraph⟩ := h.qersChanged
  refine ⟨fun p => onQers (w.pdr p), ?_⟩
  rw [hgraph, RuleGraph.mapRules, List.map_map]
  rfl

theorem fars (h : s.Compiled config d s₁ b b' w s') :
    s'.graph.fars = s₁.graph.fars.map w.far := by
  obtain ⟨onQers, hgraph⟩ := h.qersChanged
  rw [hgraph]
  rfl

/-- A detection rule is found with the same tunnel index and source as before the wiring. -/
theorem pdr? (h : s.Compiled config d s₁ b b' w s') :
    ∃ onPdr : Pdr → Pdr, (∀ p, (onPdr p).teid = p.teid) ∧ (∀ p, (onPdr p).source = p.source) ∧
      ∀ id, s'.graph.pdr? id = (s₁.graph.pdr? id).map onPdr := by
  obtain ⟨onQers, hpdrs⟩ := h.pdrs
  refine ⟨fun p => { w.pdr p with qers := onQers p }, w.keeps_pdr.teid, w.keeps_pdr.source,
    fun id => ?_⟩
  rw [RuleGraph.pdr?, hpdrs]
  exact find?_key_map (f := fun p => { w.pdr p with qers := onQers p }) w.pdr_id id

/-- The wiring that a session has got is the one that it would get. -/
theorem wired_again (h : s.Compiled config d s₁ b b' w s') :
    s'.WiredBy config b' (s.renewMeters config d).value.1 w b' := by
  obtain ⟨onPdr, hteid, hsource, hpdr⟩ := h.pdr?
  have hw := h.wired
  have hframe := h.frame
  have hb' := hw.ends.bearer
  have hfar : (s'.graph.far? b.downlinkFar).isSome := by
    rw [RuleGraph.far?, h.fars, find?_key_map w.far_id, Option.isSome_map]
    exact hw.downlinkFarThere
  have hurr : ∀ id, s'.graph.urr? id = s₁.graph.urr? id := by
    intro id
    rw [RuleGraph.urr?, RuleGraph.urr?, h.urrs, h.grown.frame]
  -- All that is read off a session outside its rules is as it was, but for the end of the bearer.
  exact {
    uplink := by rw [hb', hw.uplink]
    downlink := by rw [hb', hw.downlink]
    downlinkThere := by
      rw [hb', hpdr, Option.isSome_map]
      exact hw.downlinkThere
    downlinkFar := by rw [hb', hw.downlinkFar]
    downlinkFarThere := by rw [hb']; exact hfar
    fromControl := by rw [hframe]; exact hw.fromControl
    toControl := by rw [hframe]; exact hw.toControl
    toControlFar := by rw [hframe]; exact hw.toControlFar
    device := by rw [hframe]; exact hw.device
    deviceThere := by rw [hframe]; exact hw.deviceThere
    peerHeader := by rw [hb']; exact hw.peerHeader
    ownHeader := by rw [hframe]; exact hw.ownHeader
    ends := by
      refine (PicksEnds.iff_of_pdr? ?_ ?_ hpdr hteid hsource).mpr hw.ends.again
      · rw [hframe]
      · rw [hframe]
    meters := hw.meters
    metersThere := by
      intro m hm
      rw [hurr]
      exact hw.metersThere m hm
    uplinkFlows := by rw [hframe]; exact hw.uplinkFlows
    downlinkFlows := by rw [hframe]; exact hw.downlinkFlows }

theorem mapRules_again (h : s.Compiled config d s₁ b b' w s') :
    (s'.mapRules w.pdr w.far).setBearer b' = s' := by
  obtain ⟨onQers, hpdrs⟩ := h.pdrs
  have hpdr : ∀ p ∈ s'.graph.pdrs, w.pdr p = p := by
    intro p hp
    rw [hpdrs] at hp
    obtain ⟨p₀, -, rfl⟩ := List.mem_map.mp hp
    rw [w.pdr_withQers, w.pdr_pdr]
  have hfar : ∀ f ∈ s'.graph.fars, w.far f = f := by
    intro f hf
    rw [h.fars] at hf
    obtain ⟨f₀, -, rfl⟩ := List.mem_map.mp hf
    exact w.far_far f₀
  have hbearer : s'.bearer = some b' := by rw [h.frame]
  rw [mapRules, RuleGraph.mapRules_eq_self hpdr hfar, setBearer, ← hbearer]

/-- Renewing the meters of an installation changes nothing and gives the same meters. -/
theorem renewMeters_again (h : s.Compiled config d s₁ b b' w s') (hnumbered : s.graph.Numbered) :
    (s'.renewMeters config d).value = ((s.renewMeters config d).value.1, s') := by
  have hname := h.name hnumbered
  have hvoice : s'.isFor config.voiceNetwork = s.isFor config.voiceNetwork := by
    rw [isFor, isFor, hname]
  cases hs : s.isFor config.voiceNetwork with
  | true =>
    rw [value_renewMeters_of_voice hs, value_renewMeters_of_voice (hvoice.trans hs)]
  | false =>
    obtain ⟨hrenewal, hgroups⟩ :=
      RuleGraph.renewal_renewMeters config.meter d.rules hnumbered.urrs.nodup
    have hurrs : s'.graph.urrs = (s.graph.renewMeters config.meter d.rules).value.2.urrs := by
      rw [h.urrs, Session.renewed, value_renewMeters hs]
    -- Later stages keep the reporting rules, so every meter is still settled.
    have hsettled : (s'.graph.renewMeters config.meter d.rules).value =
        ((s.graph.renewMeters config.meter d.rules).value.1, s'.graph) := by
      refine RuleGraph.value_renewMeters_of_settled ?_ hgroups ?_
      · intro u hu
        rw [hurrs] at hu
        exact (RuleGraph.mem_urrGroups_renewMeters config.meter hnumbered.urrs.nodup).mp
          (List.mem_map_of_mem hu)
      · intro m hm
        exact (hrenewal.metered m hm).of_urrs hurrs
    rw [value_renewMeters hs, value_renewMeters (hvoice.trans hs), hsettled]

/-- Compiling a decision a second time changes nothing but the flags, which are cleared. -/
theorem result_compile (h : s.Compiled config d s₁ b b' w s') (hnumbered : s.graph.Numbered) :
    (s'.compile config d).result = .ok { s' with changed := {} } := by
  have hmeters := h.renewMeters_again hnumbered
  have hbearer : s'.bearer = some b' := by rw [h.frame]
  have hrenewed : s'.renewed config d = s' := by
    rw [Session.renewed, hmeters, ← h.rules]
  have hfrom : s'.fromControlPdr.isSome := by rw [h.frame]; exact h.control.1
  have hto : s'.toControlPdr.isSome := by rw [h.frame]; exact h.control.2.1
  have hfar : s'.toControlFar.isSome := by rw [h.frame]; exact h.control.2.2
  have hstored : s'.storeQuality d = { s' with changed := {} } := by
    refine storeQuality_of_stored ?_ ?_
    · rw [h.frame]
      exact Policy.ratesChanged_ite _ _
    · rw [h.frame]
      exact Policy.qosChanged_ite _ _
  refine Session.result_compile.mpr ⟨b', s', s', ?_, ?_, ?_, ?_⟩
  · rw [hrenewed, hbearer]
  · rw [hrenewed]
    exact result_createForwarding_of_isSome hbearer hfrom hto hfar
  · rw [hmeters]
    exact (result_wire h.numbered.distinct hbearer).mpr ⟨w, b', h.wired_again, h.mapRules_again.symm⟩
  · rw [hstored]
    -- Clearing the flags has no part in how the rates are limited.
    refine result_limitRates_of_limited h.numbered ?_
    rw [h.wired.ends.bearer]
    cases h.limited with
    | unlimited hzero hqer => exact .unlimited hzero hqer
    | limited hzero hqer hfind hmaximum hthere happlied =>
      exact .limited hzero hqer hfind hmaximum hthere happlied

end Compiled

theorem refusal?_eq_of_name (config : Config) (m : Policy.Message) (h : s'.name = s.name) :
    s'.refusal? config m = s.refusal? config m := by
  rw [refusal?, refusal?, isFor, isFor, h]

theorem result_install {m : Policy.Message} {code : UInt32} :
    (s.install config m).result = .ok (code, s') ↔
      match s.refusal? config m with
      | some refusal => code = refusal.answer ∧ s' = s
      | none => code = ResultCode.success ∧ (s.compile config m.decision).result = .ok s' := by
  simp only [install, result_bind_eq_ok]
  cases s.refusal? config m with
  | some refusal =>
    simp only [result_bind_eq_ok, result_lift, result_pure, Except.ok.injEq, Prod.mk.injEq]
    constructor
    · rintro ⟨_, -, _, -, _, -, hcode, hs⟩
      exact ⟨hcode.symm, hs.symm⟩
    · rintro ⟨hcode, hs⟩
      exact ⟨(), trivial, (), trivial, (), trivial, hcode.symm, hs.symm⟩
  | none =>
    simp only [result_bind_eq_ok, result_lift, result_pure, Except.ok.injEq, Prod.mk.injEq]
    constructor
    · rintro ⟨_, -, _, -, s₁, hcompile, hcode, rfl⟩
      exact ⟨hcode.symm, hcompile⟩
    · rintro ⟨hcode, hcompile⟩
      exact ⟨(), trivial, (), trivial, s', hcompile, hcode.symm, rfl⟩

/-- Installing the decision of a message a second time gives the same result code. A refused
decision leaves the session as it is; an accepted one clears both flags of what has changed, and
leaves everything else as it is. By `hadvance` the installation does not run out of numbers for its
rules, which would be a fault. -/
theorem install_again {m : Policy.Message} {code : UInt32} (hnumbered : s.graph.Numbered)
    (hok : (s.install config m).result = .ok (code, s'))
    (hadvance : s.graph.CountersAdvance s'.graph) :
    (s'.install config m).result = .ok (code,
      if (s.refusal? config m).isSome then s'
      else { s' with changed := { rates := false, qos := false } }) := by
  rw [result_install] at hok ⊢
  cases hrefusal : s.refusal? config m with
  | some refusal =>
    rw [hrefusal] at hok
    obtain ⟨hcode, rfl⟩ := hok
    rw [hrefusal]
    exact ⟨hcode, rfl⟩
  | none =>
    rw [hrefusal] at hok
    obtain ⟨hcode, hcompile⟩ := hok
    obtain ⟨s₁, b, b', w, hcompiled⟩ := compiled_of_result hnumbered hcompile hadvance
    rw [refusal?_eq_of_name config m (hcompiled.name hnumbered), hrefusal]
    exact ⟨hcode, hcompiled.result_compile hnumbered⟩

/-! ## A session with a policy -/

/-- A session with its default bearer, on a node that picks tunnel endpoints itself. -/
def attached : Session :=
  { Session.new 1 1 "001010000000001" none with
    ipv4 := some ⟨10, 45, 0, 2⟩
    node := some { picksEndpoints := true }
    bearer := some
      { id := 1, ebi := 5, uplinkPdr := 1, downlinkPdr := 2, uplinkFar := 1, downlinkFar := 2,
        peerEnd := { teid := 7, addr := some ⟨10, 0, 0, 1⟩ } }
    graph :=
      { teidBase := 256
        pdrs := [{ id := 1, source := .access, teid := 257, far := 1 },
          { id := 2, source := .core, teid := 258, far := 2 }]
        fars := [{ id := 1, destination := .core }, { id := 2, destination := .access }]
        lastPdr := 2
        lastFar := 2 } }

/-- An installation of one rule for each of some rating groups. -/
def metering (groups : List UInt32) : Policy.Message :=
  { kind := .initialAnswer
    decision :=
      { rates := ⟨1000, 2000⟩
        rules := groups.map fun x => { name := "data", ratingGroup := x } } }

/-- A session after a message of the policy server, as it was if the message ends in a fault. -/
def afterPolicy (s : Session) (config : Config) (m : Policy.Message) : Session :=
  match (s.handlePolicy config m).result with
  | .ok (_, s') => s'
  | .error _ => s

theorem install_again_metering :
    ((attached.afterPolicy {} (metering [10, 20, 10])).install {}
        (metering [10, 20, 10])).result =
      .ok (ResultCode.success,
        { attached.afterPolicy {} (metering [10, 20, 10]) with
          changed := { rates := false, qos := false } }) := by
  have hnumbered : attached.graph.Numbered := by
    constructor <;> constructor <;> simp [attached]
  have hok : (attached.install {} (metering [10, 20, 10])).result =
      .ok (ResultCode.success, attached.afterPolicy {} (metering [10, 20, 10])) := by rfl
  have hadvance : attached.graph.CountersAdvance
      (attached.afterPolicy {} (metering [10, 20, 10])).graph := by
    constructor <;> decide +kernel
  have haccepted : ¬(attached.refusal? {} (metering [10, 20, 10])).isSome = true := by decide
  have hagain := install_again hnumbered hok hadvance
  rw [if_neg haccepted] at hagain
  exact hagain

end SessionControl.Session
