import SessionControl.Proofs.Policy.Reinstall

/-!
# What is charged

Over any run of messages of the policy server, the reporting rules of a session are those of the
decision that was installed last: one for each of its rating groups, applied to both directions
of the default bearer and to nothing else.

## Main definitions

- `RuleGraph.MetersFor` — the reporting rules of a graph are those of given rules
- `RuleGraph.established` — the rules of a default bearer
- `Session.Established` — a session with its default bearer and no policy
- `Session.PolicyRun` — a run of messages, with the decision that was installed last

## Main statements

- `Session.Compiled.metersFor` — an installation makes the meters those of its decision
- `Session.metersFor_of_policyRun` — so they are over every run
-/

namespace SessionControl

open RuleGraph (Meter)

namespace RuleGraph

/-- The reporting rules of a graph meter the rating groups of `rules`, one each and none twice,
with the configured thresholds; both detection rules of the default bearer are metered by all of
them, and no other detection rule is metered. -/
structure MetersFor (g : RuleGraph) (config : MeterConfig) (uplink downlink : PdrId)
    (rules : List Policy.Rule) : Prop where
  groups_nodup : (g.urrs.map (·.ratingGroup)).Nodup
  mem_groups : ∀ x, x ∈ g.urrs.map (·.ratingGroup) ↔ x ≠ 0 ∧ ∃ r ∈ rules, r.ratingGroup = x
  ids_nodup : (g.urrs.map (·.id)).Nodup
  settings : ∀ u ∈ g.urrs, u.measurement = { duration := true, volume := true } ∧
    u.volume = { hasTotal := true, total := config.volume } ∧ u.seconds = config.seconds ∧
    u.triggers = { volumeThreshold := true, timeThreshold := true }
  uplinkThere : (g.pdr? uplink).isSome
  downlinkThere : (g.pdr? downlink).isSome
  metered : ∀ p ∈ g.pdrs, p.id = uplink ∨ p.id = downlink →
    p.urrs.Nodup ∧ ∀ id, id ∈ p.urrs ↔ id ∈ g.urrs.map (·.id)
  unmetered : ∀ p ∈ g.pdrs, p.id ≠ uplink → p.id ≠ downlink → p.urrs = []

/-- The rules that a session has before its first installation: those of its default bearer. -/
def established (base : UInt32) : RuleGraph :=
  { teidBase := base
    pdrs := [{ id := 1, source := .access, teid := base + 1, far := 1 },
      { id := 2, source := .core, teid := base + 2, far := 2 }]
    fars := [{ id := 1, destination := .core }, { id := 2, destination := .access }]
    lastPdr := 2
    lastFar := 2 }

theorem numbered_established (base : UInt32) : (established base).Numbered where
  pdrs := ⟨by simp [established], by simp [established]⟩
  fars := ⟨by simp [established], by simp [established]⟩
  qers := ⟨by simp [established], by simp [established]⟩
  urrs := ⟨by simp [established], by simp [established]⟩

/-! ## After a renewal -/

section Renewal

variable {config : MeterConfig} {rules : List Policy.Rule} {g : RuleGraph}

theorem nodup_urrGroups_renewMeters (hids : (g.urrs.map (·.id)).Nodup)
    (hgroups : (g.urrs.map (·.ratingGroup)).Nodup) :
    ((g.renewMeters config rules).value.2.urrs.map (·.ratingGroup)).Nodup := by
  rw [(renewal_renewMeters config rules hids).1.urrGroups, urrs_withoutUrrs_staleMeters hids]
  exact nodup_insertAll (hgroups.sublist (List.filter_sublist.map _))

/-- After a renewal every reporting rule is a meter with the configured thresholds. -/
theorem exists_meter_renewMeters (hids : (g.urrs.map (·.id)).Nodup)
    (hgroups : (g.urrs.map (·.ratingGroup)).Nodup)
    (hids' : ((g.renewMeters config rules).value.2.urrs.map (·.id)).Nodup) {u : Urr}
    (hu : u ∈ (g.renewMeters config rules).value.2.urrs) :
    (∃ m ∈ (g.renewMeters config rules).value.1, m.urr = u.id) ∧ meterSettings config u = u := by
  obtain ⟨hrenewal, hmeters⟩ := renewal_renewMeters config rules hids
  have hgroups' : ((g.renewMeters config rules).value.2.urrs.map (·.ratingGroup)).Nodup :=
    nodup_urrGroups_renewMeters hids hgroups
  have hgroup : u.ratingGroup ∈ (g.renewMeters config rules).value.1.map (·.ratingGroup) := by
    rw [hmeters]
    exact (mem_urrGroups_renewMeters config hids).mp (List.mem_map_of_mem hu)
  obtain ⟨m, hm, hmgroup⟩ := List.mem_map.mp hgroup
  obtain ⟨hfirst, v, hv, hset⟩ := hrenewal.metered m hm
  -- A meter names the first rule of its group, and a group has only one.
  have hmu : m.urr = u.id := by
    have hfind := (find?_key_eq_some hgroups').mpr ⟨hu, hmgroup.symm⟩
    rw [urrOfGroup?, hfind, Option.map_some] at hfirst
    exact (Option.some.inj hfirst).symm
  have hvu : v = u := by
    have hfind := (find?_key_eq_some hids').mpr ⟨hu, hmu.symm⟩
    exact Option.some.inj (hv.symm.trans hfind)
  rw [hvu] at hset
  exact ⟨⟨m, hm, hmu⟩, hset⟩

theorem mem_meters_renewMeters (hids : (g.urrs.map (·.id)).Nodup)
    (hgroups : (g.urrs.map (·.ratingGroup)).Nodup)
    (hids' : ((g.renewMeters config rules).value.2.urrs.map (·.id)).Nodup) {id : UrrId} :
    id ∈ (g.renewMeters config rules).value.1.map (·.urr) ↔
      id ∈ (g.renewMeters config rules).value.2.urrs.map (·.id) := by
  constructor
  · intro hid
    obtain ⟨m, hm, rfl⟩ := List.mem_map.mp hid
    obtain ⟨v, hv, -⟩ := ((renewal_renewMeters config rules hids).1.metered m hm).settled
    exact isSome_find?_key.mp (Option.isSome_of_mem hv)
  · intro hid
    obtain ⟨u, hu, rfl⟩ := List.mem_map.mp hid
    obtain ⟨⟨m, hm, hmu⟩, -⟩ := exists_meter_renewMeters hids hgroups hids' hu
    exact List.mem_map.mpr ⟨m, hm, hmu⟩

/-- After a renewal no detection rule refers to a reporting rule that is gone. -/
theorem urrs_of_mem_pdrs_renewMeters {uplink downlink : PdrId} {old : List Policy.Rule}
    (h : g.MetersFor config uplink downlink old) {p : Pdr}
    (hp : p ∈ (g.renewMeters config rules).value.2.pdrs) :
    p.urrs.Nodup ∧ (∀ id ∈ p.urrs, id ∈ (g.renewMeters config rules).value.2.urrs.map (·.id)) ∧
      (p.id ≠ uplink → p.id ≠ downlink → p.urrs = []) := by
  obtain ⟨hrenewal, -⟩ := renewal_renewMeters config rules h.ids_nodup
  rw [hrenewal.frame] at hp
  obtain ⟨p₀, hp₀, rfl⟩ := List.mem_map.mp hp
  by_cases hrole : p₀.id = uplink ∨ p₀.id = downlink
  · obtain ⟨hnodup, hmem⟩ := h.metered p₀ hp₀ hrole
    refine ⟨hnodup.filter _, ?_, fun hup hdown => absurd hrole (not_or.mpr ⟨hup, hdown⟩)⟩
    intro id hid
    obtain ⟨hid₀, hkept⟩ := List.mem_filter.mp hid
    obtain ⟨u, hu, rfl⟩ := List.mem_map.mp ((hmem id).mp hid₀)
    exact hrenewal.ids.subset (List.mem_map_of_mem (List.mem_filter.mpr ⟨hu, hkept⟩))
  · obtain ⟨hup, hdown⟩ := not_or.mp hrole
    have hnone : p₀.urrs = [] := h.unmetered p₀ hp₀ hup hdown
    simp [hnone]

end Renewal

end RuleGraph

namespace Session

variable {s s₁ s' : Session} {config : Config} {d : Policy.Decision} {b b' : Bearer}
  {w : Wiring}

theorem Compiled.urrs_of_mem_pdrs (h : s.Compiled config d s₁ b b' w s') {p : Pdr}
    (hp : p ∈ s'.graph.pdrs) :
    ∃ p₀ ∈ s₁.graph.pdrs, p₀.id = p.id ∧
      p.urrs = if p.id = b.uplinkPdr ∨ p.id = b.downlinkPdr
        then insertAll w.meters p₀.urrs else p₀.urrs := by
  obtain ⟨onQers, hpdrs⟩ := h.pdrs
  rw [hpdrs] at hp
  obtain ⟨p₀, hp₀, rfl⟩ := List.mem_map.mp hp
  refine ⟨p₀, hp₀, (w.pdr_id p₀).symm, ?_⟩
  dsimp only
  rw [w.pdr_id, w.pdr_urrs, h.wired.uplink, h.wired.downlink]

/-- An installation makes the meters of a session those of its decision. -/
theorem Compiled.metersFor (h : s.Compiled config d s₁ b b' w s') (hnumbered : s.graph.Numbered)
    (hvoice : s.isFor config.voiceNetwork = false) {old : List Policy.Rule}
    (hold : s.graph.MetersFor config.meter b.uplinkPdr b.downlinkPdr old) :
    s'.graph.MetersFor config.meter b'.uplinkPdr b'.downlinkPdr d.rules := by
  have hids := hnumbered.urrs.nodup
  have hids' := h.numbered.urrs.nodup
  have hvalue := value_renewMeters hvoice d
  have hurrs : s'.graph.urrs = (s.graph.renewMeters config.meter d.rules).value.2.urrs := by
    rw [h.urrs, renewed, hvalue]
  obtain ⟨onPdr, -, -, hpdr⟩ := h.pdr?
  have hw := h.wired
  have hmeters : w.meters = (s.graph.renewMeters config.meter d.rules).value.1.map (·.urr) := by
    rw [hw.meters, hvalue]
  rw [hurrs] at hids'
  -- Before it is wired, a rule refers to reporting rules that are there, and to none unless it
  -- is of the default bearer.
  have hbefore : ∀ p ∈ s₁.graph.pdrs, p.urrs.Nodup ∧
      (∀ id ∈ p.urrs, id ∈ s'.graph.urrs.map (·.id)) ∧
      (p.id ≠ b.uplinkPdr → p.id ≠ b.downlinkPdr → p.urrs = []) := by
    intro p hp
    obtain ⟨new, hpdrs, hnew⟩ := h.grown.pdrs
    rw [hpdrs, List.mem_append] at hp
    obtain hp | hp := hp
    · rw [hurrs]
      rw [renewed, hvalue] at hp
      exact RuleGraph.urrs_of_mem_pdrs_renewMeters hold hp
    · simp [hnew p hp]
  have hroles : b'.uplinkPdr = b.uplinkPdr ∧ b'.downlinkPdr = b.downlinkPdr := by
    rw [hw.ends.bearer]
    exact ⟨rfl, rfl⟩
  rw [hroles.1, hroles.2]
  exact {
    groups_nodup := by
      rw [hurrs]
      exact RuleGraph.nodup_urrGroups_renewMeters hids hold.groups_nodup
    mem_groups := by
      intro x
      rw [hurrs, RuleGraph.mem_urrGroups_renewMeters config.meter hids]
      exact mem_ratingGroups
    ids_nodup := h.numbered.urrs.nodup
    settings := by
      intro u hu
      rw [hurrs] at hu
      obtain ⟨-, hset⟩ := RuleGraph.exists_meter_renewMeters hids hold.groups_nodup hids' hu
      rw [← hset]
      exact ⟨rfl, rfl, rfl, rfl⟩
    uplinkThere := by
      rw [hpdr, Option.isSome_map]
      exact hw.ends.uplink
    downlinkThere := by
      rw [hpdr, Option.isSome_map]
      exact hw.downlinkThere
    metered := by
      intro p hp hrole
      obtain ⟨p₀, hp₀, -, hset⟩ := h.urrs_of_mem_pdrs hp
      obtain ⟨hnodup, hsub, -⟩ := hbefore p₀ hp₀
      rw [hset, if_pos hrole]
      refine ⟨nodup_insertAll hnodup, fun id => ?_⟩
      rw [mem_insertAll, hmeters,
        RuleGraph.mem_meters_renewMeters hids hold.groups_nodup hids', ← hurrs]
      exact ⟨fun hid => hid.elim (fun hid => hid) (hsub id), Or.inl⟩
    unmetered := by
      intro p hp hup hdown
      obtain ⟨p₀, hp₀, hid, hset⟩ := h.urrs_of_mem_pdrs hp
      rw [hset, if_neg (not_or.mpr ⟨hup, hdown⟩)]
      rw [← hid] at hup hdown
      exact (hbefore p₀ hp₀).2.2 hup hdown }

/-! ## Runs -/

/-- A session as it is established: a new one with the addresses of the device and its
user-plane node, and then its default bearer. -/
def Established (s : Session) : Prop :=
  ∃ id index imsi name ipv4 ipv6 node ebi peerEnd,
    (createBearer { Session.new id index imsi name with ipv4, ipv6, node } ebi peerEnd).result =
      .ok s

/-- A message asks for an installation that is not refused. -/
def accepts (s : Session) (config : Config) (m : Policy.Message) : Bool :=
  m.kind == .initialAnswer && (s.refusal? config m).isNone

/-- A run of messages of the policy server from `s₀` to `s`, none of which ends in a fault or
makes a counter overflow, and the decision that was installed last. -/
inductive PolicyRun (config : Config) (s₀ : Session) : Option Policy.Decision → Session → Prop
  | start : PolicyRun config s₀ none s₀
  | handle {installed : Option Policy.Decision} {s s' : Session} {m : Policy.Message}
      {answer : Option UInt32} (hrun : PolicyRun config s₀ installed s)
      (hok : (s.handlePolicy config m).result = .ok (answer, s'))
      (hadvance : s.graph.CountersAdvance s'.graph) :
      PolicyRun config s₀ (if s.accepts config m then some m.decision else installed) s'

/-- The rules that a session has installed, of which there are none before the first decision. -/
def installedRules : Option Policy.Decision → List Policy.Rule
  | none => []
  | some d => d.rules

/-- What every run keeps of a session that is not exempt from charging. -/
structure Charged (config : Config) (installed : Option Policy.Decision) (s : Session) :
    Prop where
  voice : s.isFor config.voiceNetwork = false
  numbered : s.graph.Numbered
  meters : ∃ b, s.bearer = some b ∧
    s.graph.MetersFor config.meter b.uplinkPdr b.downlinkPdr (installedRules installed)

/-- A session as it is established has the rules of its default bearer and no others. -/
theorem Established.rules_eq (h : s.Established) :
    (∃ base, s.graph = .established base) ∧
      ∃ b, s.bearer = some b ∧ b.uplinkPdr = 1 ∧ b.downlinkPdr = 2 := by
  obtain ⟨id, index, imsi, name, ipv4, ipv6, node, ebi, peerEnd, h⟩ := h
  obtain rfl := Except.ok.inj h
  exact ⟨⟨Teid.base index, rfl⟩, _, rfl, rfl, rfl⟩

theorem Established.numbered (h : s.Established) : s.graph.Numbered := by
  obtain ⟨⟨base, hgraph⟩, -⟩ := h.rules_eq
  rw [hgraph]
  exact RuleGraph.numbered_established base

theorem Established.charged (h : s.Established)
    (hvoice : s.isFor config.voiceNetwork = false) : Charged config none s := by
  obtain ⟨⟨base, hgraph⟩, b, hbearer, hup, hdown⟩ := h.rules_eq
  refine ⟨hvoice, h.numbered, b, hbearer, ?_⟩
  rw [hgraph, hup, hdown]
  constructor <;> simp [installedRules, RuleGraph.pdr?, RuleGraph.established]

/-- A message other than an accepted installation stores the rules that it pushes, or nothing. -/
theorem eq_of_not_accepts {m : Policy.Message} {answer : Option UInt32}
    (hok : (s.handlePolicy config m).result = .ok (answer, s'))
    (haccepts : s.accepts config m = false) :
    s' = if m.kind = .reauthorize then { s with rules := m.decision.rules } else s := by
  cases hkind : m.kind with
  | initialAnswer =>
    simp only [handlePolicy, hkind, Attempt.result_bind_eq_ok, Attempt.result_pure,
      Except.ok.injEq, Prod.mk.injEq] at hok
    obtain ⟨⟨code, s₁⟩, hinstall, -, rfl⟩ := hok
    rw [result_install] at hinstall
    cases hrefusal : s.refusal? config m with
    | some refusal =>
      rw [hrefusal] at hinstall
      exact hinstall.2
    | none => simp [accepts, hkind, hrefusal] at haccepts
  | terminationAnswer =>
    simp only [handlePolicy, hkind, Attempt.result_bind_eq_ok, Attempt.result_lift,
      Attempt.result_pure, Except.ok.injEq, Prod.mk.injEq] at hok
    obtain ⟨_, -, -, rfl⟩ := hok
    rfl
  | updateAnswer =>
    simp only [handlePolicy, hkind, Attempt.result_bind_eq_ok, Attempt.result_lift,
      Attempt.result_pure, Except.ok.injEq, Prod.mk.injEq] at hok
    obtain ⟨_, -, -, rfl⟩ := hok
    rfl
  | reauthorize =>
    simp only [handlePolicy, hkind, Attempt.result_bind_eq_ok, Attempt.result_lift,
      Attempt.result_pure, Except.ok.injEq, Prod.mk.injEq] at hok
    obtain ⟨_, rfl, -, rfl⟩ := hok
    rfl

/-- A message other than an accepted installation changes the stored policy rules at most. -/
theorem handlePolicy_of_not_accepts {m : Policy.Message} {answer : Option UInt32}
    (hok : (s.handlePolicy config m).result = .ok (answer, s'))
    (haccepts : s.accepts config m = false) : s' = { s with rules := s'.rules } := by
  rw [eq_of_not_accepts hok haccepts]
  split <;> rfl

/-- An accepted message installs its decision and is answered with success. -/
theorem result_handlePolicy_of_accepts {m : Policy.Message} {answer : Option UInt32}
    (haccepts : s.accepts config m = true) :
    (s.handlePolicy config m).result = .ok (answer, s') ↔
      answer = some ResultCode.success ∧ (s.compile config m.decision).result = .ok s' := by
  rw [accepts, Bool.and_eq_true, beq_iff_eq, Option.isNone_iff_eq_none] at haccepts
  obtain ⟨hkind, hrefusal⟩ := haccepts
  have hinstall : ∀ {x : UInt32 × Session}, (s.install config m).result = .ok x ↔
      x.1 = ResultCode.success ∧ (s.compile config m.decision).result = .ok x.2 := by
    intro x
    rw [result_install, hrefusal]
  simp only [handlePolicy, hkind, Attempt.result_bind_eq_ok, Attempt.result_pure,
    Except.ok.injEq, Prod.mk.injEq, hinstall]
  constructor
  · rintro ⟨⟨code, s₁⟩, ⟨hcode, hcompile⟩, rfl, rfl⟩
    exact ⟨congrArg some hcode, hcompile⟩
  · rintro ⟨rfl, hcompile⟩
    exact ⟨(ResultCode.success, s'), ⟨rfl, hcompile⟩, rfl, rfl⟩

theorem handlePolicy_of_accepts {m : Policy.Message} {answer : Option UInt32}
    (hok : (s.handlePolicy config m).result = .ok (answer, s'))
    (haccepts : s.accepts config m = true) :
    (s.compile config m.decision).result = .ok s' :=
  ((result_handlePolicy_of_accepts haccepts).mp hok).2

/-- Every message keeps the meters of a session those of the decision installed last. -/
theorem Charged.handlePolicy {installed : Option Policy.Decision} {m : Policy.Message}
    {answer : Option UInt32} (h : Charged config installed s)
    (hok : (s.handlePolicy config m).result = .ok (answer, s'))
    (hadvance : s.graph.CountersAdvance s'.graph) :
    Charged config (if s.accepts config m then some m.decision else installed) s' := by
  obtain ⟨hvoice, hnumbered, b, hbearer, hmeters⟩ := h
  cases haccepts : s.accepts config m with
  | false =>
    rw [handlePolicy_of_not_accepts hok haccepts]
    exact ⟨hvoice, hnumbered, b, hbearer, hmeters⟩
  | true =>
    have hcompile := handlePolicy_of_accepts hok haccepts
    obtain ⟨s₁, b₀, b', w, hcompiled⟩ := compiled_of_result hnumbered hcompile hadvance
    obtain rfl : b₀ = b := Option.some.inj (hcompiled.bearer.symm.trans hbearer)
    refine ⟨?_, hcompiled.numbered, b', by rw [hcompiled.frame], ?_⟩
    · rw [isFor, hcompiled.name hnumbered]
      exact hvoice
    · exact hcompiled.metersFor hnumbered hvoice hmeters

/-- What is kept by every message is kept by every run. -/
theorem PolicyRun.charged {s₀ : Session} {installed : Option Policy.Decision}
    (hs₀ : s₀.Established) (hvoice : s₀.isFor config.voiceNetwork = false)
    (hrun : PolicyRun config s₀ installed s) : Charged config installed s := by
  induction hrun with
  | start => exact hs₀.charged hvoice
  | handle hrun hok hadvance ih => exact ih.handlePolicy hok hadvance

/-- After any run of messages from an established session that is not exempt, the reporting
rules of the session are one for each rating group of the decision that was installed last, and
they apply to both directions of the default bearer and to nothing else. -/
theorem metersFor_of_policyRun {s₀ : Session} (hs₀ : s₀.Established)
    (hvoice : s₀.isFor config.voiceNetwork = false)
    (hrun : PolicyRun config s₀ (some d) s) :
    ∃ b, s.bearer = some b ∧
      s.graph.MetersFor config.meter b.uplinkPdr b.downlinkPdr d.rules :=
  (hrun.charged hs₀ hvoice).meters

/-- One group goes and one comes, with a refused installation in between. -/
theorem metersFor_of_policyRun_metering :
    ∃ s b, PolicyRun {} attached (some (metering [20, 30]).decision) s ∧ s.bearer = some b ∧
      s.graph.MetersFor {} b.uplinkPdr b.downlinkPdr (metering [20, 30]).decision.rules := by
  have hattached : attached.Established :=
    ⟨1, 1, "001010000000001", none, some ⟨10, 45, 0, 2⟩, none, some { picksEndpoints := true }, 5,
      { teid := 7, addr := some ⟨10, 0, 0, 1⟩ }, rfl⟩
  have hfirst : PolicyRun {} attached (some (metering [10, 20]).decision)
      (attached.afterPolicy {} (metering [10, 20])) :=
    .handle (m := metering [10, 20]) .start rfl (by constructor <;> decide +kernel)
  have hrefused : PolicyRun {} attached (some (metering [10, 20]).decision)
      (attached.afterPolicy {} (metering [10, 20])) :=
    .handle (m := { metering [40] with resultCode := 5003 }) hfirst rfl
      (by constructor <;> decide +kernel)
  have hlast : PolicyRun {} attached (some (metering [20, 30]).decision)
      ((attached.afterPolicy {} (metering [10, 20])).afterPolicy {} (metering [20, 30])) :=
    .handle (m := metering [20, 30]) hrefused rfl (by constructor <;> decide +kernel)
  obtain ⟨b, hb, hmeters⟩ := metersFor_of_policyRun hattached rfl hlast
  exact ⟨_, b, hlast, hb, hmeters⟩

end Session

end SessionControl
