import SessionControl.Proofs.Policy.Charging
import SessionControl.Proofs.Policy.Frame

/-!
# How the rates of a session are limited

After an installation the enforcement rules of a session are those that its rates ask for: none
if there are no rates, and otherwise one, which limits both directions of the default bearer to the
rates and nothing else. This holds whatever has become of the rates before, and as long as
nobody but the policy server sets them, the rule stays the same once it is there.

## Main definitions

- `Session.EnforcesRates` — the enforcement rules are those that the rates ask for
- `Session.RateControl` — what every event keeps, whether or not the rates are enforced
- `Session.follow`, `Session.followAll` — messages of the policy server, and rates that are set

## Main statements

- `Session.RateControl.limitRates` — the last stage of an installation
- `Session.enforcesRates_of_followAll` — the rates after an installation, and the rule that
  limits them
-/

namespace SessionControl

open Attempt

theorem RatePair.isZero_iff {r : RatePair} : r.isZero = true ↔ r = ⟨0, 0⟩ := by
  rcases r with ⟨uplink, downlink⟩
  simp [isZero]

/-- Rates that are stored in place of others are not zero. -/
theorem Policy.isZero_of_ratesChanged {stored incoming : RatePair}
    (h : ratesChanged stored incoming = true) : incoming.isZero = false := by
  by_contra hzero
  rw [Bool.not_eq_false, RatePair.isZero_iff] at hzero
  simp [hzero, ratesChanged, rateChanged] at h

namespace RuleGraph

variable {g g' : RuleGraph}

/-! ## Operations on enforcement rules and their associations -/

/-- The limits of a graph with one more detection rule, which has no enforcement rule. -/
def limitsWithPdr (g : RuleGraph) : List Qer × List (PdrId × List QerId) × PdrId :=
  (g.qers, g.applied ++ [(g.lastPdr + 1, [])], g.lastPdr + 1)

theorem limits_addPdr {source : Interface} {far : FarId} {id : PdrId}
    (h : g.addPdr source far = .ok (id, g')) : g'.limits = g.limitsWithPdr := by
  rw [addPdr] at h
  split at h
  · obtain ⟨-, rfl⟩ := Prod.mk.inj (Except.ok.inj h)
    simp [limits, limitsWithPdr, applied]
  · cases h

theorem applied_associateQer {pdr : PdrId} {qer : QerId} (h : g.associateQer pdr qer = .ok g') :
    g'.applied = updateFirst (·.1 == pdr) (fun x => (x.1, insertLast qer x.2)) g.applied ∧
      g'.qers = g.qers ∧ g'.lastPdr = g.lastPdr := by
  obtain ⟨-, -, rfl⟩ := associateQer_eq_ok.mp h
  exact ⟨map_updateFirst_comm (fun _ => rfl) fun _ => rfl, rfl, rfl⟩

/-- The only enforcement rule of a graph is removed with all associations to it. -/
theorem limits_removeQer {q : Qer} (h : g.qers = [q]) :
    (g.removeQer q.id).2.limits =
      ([], g.applied.map fun x => (x.1, x.2.filter (· != q.id)), g.lastPdr) := by
  have hfind : g.qer? q.id = some q := by simp [qer?, h]
  simp [removeQer, hfind, limits, applied, h]

end RuleGraph

namespace Session

variable {s s' s₀ : Session} {config : Config} {d : Policy.Decision} {b : Bearer}

/-- The enforcement rules of a session are those that its rates ask for. -/
inductive EnforcesRates (s : Session) (b : Bearer) : Prop
  | unlimited (hzero : s.rates = ⟨0, 0⟩) (hid : s.ratesQer = none) (hqers : s.graph.qers = [])
      (hfree : ∀ p ∈ s.graph.pdrs, p.qers = [])
  | limited (q : Qer) (hpos : s.rates ≠ ⟨0, 0⟩) (hid : s.ratesQer = some q.id)
      (hqers : s.graph.qers = [q]) (hmaximum : q.maximum = s.rates)
      (hthere : (s.graph.pdr? b.uplinkPdr).isSome ∧ (s.graph.pdr? b.downlinkPdr).isSome)
      (happlied : ∀ p ∈ s.graph.pdrs,
        p.qers = if p.id = b.uplinkPdr ∨ p.id = b.downlinkPdr then [q.id] else [])

/-- The detection rules of the control plane have not been added, or both of them have. -/
inductive ControlPdrs (s : Session) : List PdrId → Prop
  | missing (hfrom : s.fromControlPdr = none) (hto : s.toControlPdr = none)
      (hlast : s.graph.lastPdr = 2) : ControlPdrs s []
  | there (hfrom : s.fromControlPdr.isSome) (hto : s.toControlPdr.isSome) : ControlPdrs s [3, 4]

/-- The rule that limits the rates is the only enforcement rule there is, and it is applied to
both directions of the default bearer and to nothing else. -/
structure RateControl (s : Session) : Prop where
  roles : ∃ b, s.bearer = some b ∧ b.uplinkPdr = 1 ∧ b.downlinkPdr = 2
  ids : s.graph.qers.map (·.id) = s.ratesQer.toList
  applied : ∃ control, s.ControlPdrs control ∧ s.graph.applied =
    (1, s.ratesQer.toList) :: (2, s.ratesQer.toList) :: control.map fun id => (id, [])

theorem ControlPdrs.of_lastPdr {control : List PdrId} (h : s.ControlPdrs control)
    (hfrom : s'.fromControlPdr = s.fromControlPdr) (hto : s'.toControlPdr = s.toControlPdr)
    (hlast : s'.graph.lastPdr = s.graph.lastPdr) : s'.ControlPdrs control := by
  cases h with
  | missing hfrom₀ hto₀ hlast₀ =>
    exact .missing (hfrom.trans hfrom₀) (hto.trans hto₀) (hlast.trans hlast₀)
  | there hfrom₀ hto₀ => exact .there (hfrom ▸ hfrom₀) (hto ▸ hto₀)

namespace RateControl

theorem roles_of_bearer (h : s.RateControl) (hbearer : s.bearer = some b) :
    b.uplinkPdr = 1 ∧ b.downlinkPdr = 2 := by
  obtain ⟨b', hb', hroles⟩ := h.roles
  obtain rfl : b' = b := Option.some.inj (hb'.symm.trans hbearer)
  exact hroles

/-! ## The stages of an installation -/

/-- A stage that leaves the enforcement rules alone, and the rest that they depend on. -/
theorem of_limits (h : s.RateControl) (hlimits : s'.graph.limits = s.graph.limits)
    (hroles : ∃ b, s'.bearer = some b ∧ b.uplinkPdr = 1 ∧ b.downlinkPdr = 2)
    (hid : s'.ratesQer = s.ratesQer) (hfrom : s'.fromControlPdr = s.fromControlPdr)
    (hto : s'.toControlPdr = s.toControlPdr) : s'.RateControl := by
  simp only [RuleGraph.limits, Prod.mk.injEq] at hlimits
  obtain ⟨hqers, happlied, hlast⟩ := hlimits
  obtain ⟨control, hcontrol, hs⟩ := h.applied
  refine ⟨hroles, ?_, control, hcontrol.of_lastPdr hfrom hto hlast, ?_⟩
  · rw [hqers, hid]
    exact h.ids
  · rw [happlied, hid]
    exact hs

theorem renewed (h : s.RateControl) (config : Config) (d : Policy.Decision) :
    (s.renewed config d).RateControl := by
  obtain ⟨hurrs, hs⟩ := s.frame_renewed config d
  refine h.of_limits hurrs.limits ?_ ?_ ?_ ?_
  · rw [hs]
    exact h.roles
  all_goals rw [hs]

end RateControl

theorem limits_addPdr {source : Interface} {far : FarId} {id : PdrId}
    (hok : (s.addPdr source far).result = .ok (id, s')) :
    s'.graph.limits = s.graph.limitsWithPdr := by
  simp only [addPdr, result_bind_eq_ok, result_ofGraph_eq_ok, result_pure, Except.ok.injEq,
    Prod.mk.injEq] at hok
  obtain ⟨⟨id', g⟩, hadd, -, rfl⟩ := hok
  exact RuleGraph.limits_addPdr hadd

theorem limits_ensureFromControlPdr {far : FarId}
    (hok : (s.ensureFromControlPdr far).result = .ok s') :
    s'.graph.limits =
      if s.fromControlPdr.isSome then s.graph.limits else s.graph.limitsWithPdr := by
  rw [ensureFromControlPdr] at hok
  split at hok
  · next hsome =>
    obtain rfl := Except.ok.inj hok
    rw [if_pos hsome]
  · next hnone =>
    simp only [result_bind_eq_ok, result_pure, Except.ok.injEq] at hok
    obtain ⟨⟨id, s₁⟩, hadd, rfl⟩ := hok
    have hlimits := limits_addPdr hadd
    rw [if_neg hnone]
    exact hlimits

theorem limits_ensureToControlPdr (hok : s.ensureToControlPdr.result = .ok s') :
    s'.graph.limits =
      if s.toControlPdr.isSome then s.graph.limits else s.graph.limitsWithPdr := by
  rw [ensureToControlPdr] at hok
  split at hok
  · next hsome =>
    obtain rfl := Except.ok.inj hok
    rw [if_pos hsome]
  · next hnone =>
    simp only [result_bind_eq_ok, result_pure, Except.ok.injEq] at hok
    obtain ⟨⟨id, s₁⟩, hadd, rfl⟩ := hok
    have hlimits := limits_addPdr hadd
    rw [if_neg hnone]
    exact hlimits

theorem limits_ensureToControlFar (s : Session) :
    s.ensureToControlFar.graph.limits = s.graph.limits := by
  rw [ensureToControlFar]
  split <;> rfl

namespace RateControl

/-- The rules of the control plane are added without enforcement rules, unless they are there. -/
theorem createForwarding (h : s.RateControl) (hok : s.createForwarding.result = .ok s') :
    s'.RateControl := by
  obtain ⟨-, ⟨hfrom', hto', -⟩, hframe⟩ := grown_createForwarding hok
  have hroles : ∃ b, s'.bearer = some b ∧ b.uplinkPdr = 1 ∧ b.downlinkPdr = 2 := by
    rw [hframe]
    exact h.roles
  have hid : s'.ratesQer = s.ratesQer := by rw [hframe]
  simp only [Session.createForwarding, result_bind_eq_ok, result_require_eq_ok] at hok
  obtain ⟨_, -, s₁, hensureFrom, hensureTo⟩ := hok
  obtain ⟨-, -, hs₁⟩ := result_ensureFromControlPdr hensureFrom
  obtain ⟨-, -, hs₂⟩ := ensureToControlFar_eq s₁
  have hto₁ : s₁.ensureToControlFar.toControlPdr = s.toControlPdr := by rw [hs₂, hs₁]
  have hlimits₁ := limits_ensureFromControlPdr hensureFrom
  have hlimits₂ := limits_ensureToControlFar s₁
  have hlimits := limits_ensureToControlPdr hensureTo
  rw [hto₁] at hlimits
  obtain ⟨control, hcontrol, happlied⟩ := h.applied
  cases hcontrol with
  | missing hfrom hto hlast =>
    rw [hfrom] at hlimits₁
    rw [hto] at hlimits
    simp only [RuleGraph.limits, RuleGraph.limitsWithPdr, Option.isSome_none, Bool.false_eq_true,
      if_false, Prod.mk.injEq] at hlimits₁ hlimits₂ hlimits
    obtain ⟨hqers₁, happlied₁, hlast₁⟩ := hlimits₁
    obtain ⟨hqers₂, happlied₂, hlast₂⟩ := hlimits₂
    obtain ⟨hqers, happlied', -⟩ := hlimits
    refine ⟨hroles, ?_, [3, 4], .there hfrom' hto', ?_⟩
    · rw [hqers, hqers₂, hqers₁, hid]
      exact h.ids
    · rw [happlied', happlied₂, happlied₁, hlast₂, hlast₁, hlast, happlied, hid]
      rfl
  | there hfrom hto =>
    rw [if_pos hfrom] at hlimits₁
    rw [if_pos hto, hlimits₂, hlimits₁] at hlimits
    simp only [RuleGraph.limits, Prod.mk.injEq] at hlimits
    obtain ⟨hqers, happlied', -⟩ := hlimits
    refine ⟨hroles, ?_, [3, 4], .there hfrom' hto', ?_⟩
    · rw [hqers, hid]
      exact h.ids
    · rw [happlied', happlied, hid]

theorem wire {ms : List RuleGraph.Meter} (h : s.RateControl) (hbearer : s.bearer = some b)
    (hok : (s.wire config b ms).result = .ok s') : s'.RateControl := by
  obtain ⟨houtline, localEnd, hs⟩ := frame_wire hbearer hok
  refine h.of_limits (RuleGraph.limits_of_outline houtline) ?_ ?_ ?_ ?_
  · obtain ⟨hup, hdown⟩ := h.roles_of_bearer hbearer
    rw [hs]
    exact ⟨_, rfl, hup, hdown⟩
  all_goals rw [hs]

theorem storeQuality (h : s.RateControl) (d : Policy.Decision) :
    (s.storeQuality d).RateControl := by
  refine h.of_limits ?_ ?_ ?_ ?_ ?_
  · rw [graph_storeQuality]
  · rw [storeQuality_eq]
    exact h.roles
  all_goals rw [storeQuality_eq]

/-- The rule that limits the rates is removed together with what it is applied to. -/
theorem dropRatesQer (h : s.RateControl) : s.dropRatesQer.RateControl := by
  obtain ⟨control, hcontrol, happlied⟩ := h.applied
  have hids := h.ids
  cases hqer : s.ratesQer with
  | none =>
    have hsame : s.dropRatesQer = s := by rw [Session.dropRatesQer, hqer]
    rw [hsame]
    exact h
  | some id =>
    rw [hqer] at hids happlied
    obtain ⟨q, hqers, rfl⟩ : ∃ q, s.graph.qers = [q] ∧ q.id = id := by
      simpa [List.map_eq_singleton_iff] using hids
    have hlimits := RuleGraph.limits_removeQer hqers
    simp only [RuleGraph.limits, Prod.mk.injEq] at hlimits
    obtain ⟨hnone, hfree, hlast⟩ := hlimits
    have hdrop : s.dropRatesQer =
        { s with ratesQer := none, graph := (s.graph.removeQer q.id).2 } := by
      rw [Session.dropRatesQer, hqer]
    rw [hdrop]
    refine ⟨h.roles, ?_, control, hcontrol.of_lastPdr rfl rfl hlast, ?_⟩
    · rw [hnone]
      rfl
    · rw [hfree, happlied]
      simp

/-- The rule that limits the rates is set to them, or added if it is not there. -/
theorem ensureRatesQer (h : s.RateControl) :
    ∃ q, s.ensureRatesQer.1 = q.id ∧ q.maximum = s.rates ∧
      (∀ id, s.ratesQer = some id → q.id = id) ∧
      s.ensureRatesQer.2.graph.limits = ([q], s.graph.applied, s.graph.lastPdr) ∧
      s.ensureRatesQer.2 =
        { s with graph := s.ensureRatesQer.2.graph, ratesQer := some q.id } := by
  have hids := h.ids
  cases hqer : s.ratesQer with
  | none =>
    have hqers : s.graph.qers = [] := by simpa [hqer] using hids
    have hensure : s.ensureRatesQer = ((s.graph.addQer s.rates).1,
        { s with graph := (s.graph.addQer s.rates).2,
                 ratesQer := some (s.graph.addQer s.rates).1 }) := by
      rw [Session.ensureRatesQer, hqer]
      rfl
    rw [hensure]
    refine ⟨{ id := s.graph.lastQer + 1, maximum := s.rates }, rfl, rfl, by simp, ?_, rfl⟩
    simp [RuleGraph.limits, RuleGraph.addQer, RuleGraph.applied, hqers]
  | some id =>
    obtain ⟨q, hqers, rfl⟩ : ∃ q, s.graph.qers = [q] ∧ q.id = id := by
      simpa [hqer, List.map_eq_singleton_iff] using hids
    have hfilter : s.ratesQer.filter (fun id => (s.graph.qer? id).isSome) = some q.id := by
      simp [hqer, RuleGraph.qer?, hqers]
    have hensure : s.ensureRatesQer = (q.id, { s with
        graph := s.graph.updateQer q.id (fun q => { q with maximum := s.rates }) }) := by
      rw [Session.ensureRatesQer, hfilter]
    rw [hensure]
    refine ⟨{ q with maximum := s.rates }, rfl, rfl, by simp, ?_, by rw [← hqer]⟩
    simp [RuleGraph.limits, RuleGraph.updateQer, RuleGraph.applied, updateFirst, hqers]

/-- The last stage of an installation. A rule that limits the rates is kept if there are any. -/
theorem limitRates (h : s.RateControl) (hup : b.uplinkPdr = 1) (hdown : b.downlinkPdr = 2)
    (hok : (s.limitRates b).result = .ok s') :
    s'.RateControl ∧
      (s.rates.isZero = true → s'.ratesQer = none) ∧
      (s.rates.isZero = false →
        (∃ q, s'.graph.qers = [q] ∧ s'.ratesQer = some q.id ∧ q.maximum = s.rates) ∧
        ∀ id, s.ratesQer = some id → s'.ratesQer = some id) := by
  cases hzero : s.rates.isZero with
  | true =>
    rw [Session.limitRates, if_pos hzero, result_pure, Except.ok.injEq] at hok
    rw [← hok]
    refine ⟨h.dropRatesQer, fun _ => (dropRatesQer_eq s).2.2.1, ?_⟩
    exact fun hfalse => absurd hfalse.symm Bool.false_ne_true
  | false =>
    obtain ⟨g, ⟨g₁, hdownOk, hupOk⟩, rfl⟩ := (result_limitRates_of_pos hzero).mp hok
    obtain ⟨q, hid, hmaximum, hkept, hlimits, hs⟩ := h.ensureRatesQer
    obtain ⟨control, hcontrol, happlied⟩ := h.applied
    rw [hid, hdown] at hdownOk
    rw [hid, hup] at hupOk
    obtain ⟨happlied₁, hqers₁, hlast₁⟩ := RuleGraph.applied_associateQer hdownOk
    obtain ⟨happlied₂, hqers₂, hlast₂⟩ := RuleGraph.applied_associateQer hupOk
    simp only [RuleGraph.limits, Prod.mk.injEq] at hlimits
    obtain ⟨hqers, hsame, hlast⟩ := hlimits
    -- Either direction had the rule already, or had none.
    have hinsert : insertLast q.id s.ratesQer.toList = [q.id] := by
      cases hqer : s.ratesQer with
      | none => rfl
      | some id =>
        obtain rfl := hkept id hqer
        exact insertLast_of_mem List.mem_cons_self
    have hg : g.qers = [q] := by rw [hqers₂, hqers₁, hqers]
    have hlast' : g.lastPdr = s.graph.lastPdr := hlast₂.trans (hlast₁.trans hlast)
    rw [hs]
    refine ⟨⟨h.roles, ?_, control, hcontrol.of_lastPdr rfl rfl hlast', ?_⟩, by simp,
      fun _ => ⟨⟨q, hg, rfl, hmaximum⟩, ?_⟩⟩
    · rw [hg]
      rfl
    · change g.applied = _
      rw [happlied₂, happlied₁, hsame, happlied]
      simp [updateFirst, hinsert]
    · intro id hqer
      rw [← hkept id hqer]

/-- The rules of the control plane have other numbers than those of the default bearer. -/
theorem qers_of_mem_pdrs (h : s.RateControl) {p : Pdr} (hp : p ∈ s.graph.pdrs) :
    p.qers = if p.id = 1 ∨ p.id = 2 then s.ratesQer.toList else [] := by
  obtain ⟨control, hcontrol, happlied⟩ := h.applied
  have hpair : (p.id, p.qers) ∈ s.graph.applied := List.mem_map_of_mem hp
  rw [happlied] at hpair
  cases hcontrol with
  | missing _ _ _ =>
    simp only [List.map_nil, List.mem_cons, Prod.mk.injEq, List.not_mem_nil, or_false] at hpair
    obtain ⟨hid, hqers⟩ | ⟨hid, hqers⟩ := hpair <;> rw [hid, hqers] <;> rfl
  | there _ _ =>
    simp only [List.map_cons, List.map_nil, List.mem_cons, Prod.mk.injEq, List.not_mem_nil,
      or_false] at hpair
    obtain ⟨hid, hqers⟩ | ⟨hid, hqers⟩ | ⟨hid, hqers⟩ | ⟨hid, hqers⟩ := hpair <;>
      rw [hid, hqers] <;> rfl

theorem isSome_pdr? (h : s.RateControl) {id : PdrId} (hid : id = 1 ∨ id = 2) :
    (s.graph.pdr? id).isSome := by
  obtain ⟨control, -, happlied⟩ := h.applied
  have hids : s.graph.pdrs.map (·.id) = s.graph.applied.map Prod.fst := by
    rw [RuleGraph.applied, List.map_map]
    rfl
  rw [RuleGraph.pdr?, isSome_find?_key, hids, happlied]
  obtain rfl | rfl := hid
  · exact List.mem_cons_self
  · exact List.mem_cons_of_mem _ List.mem_cons_self

/-- The rates are enforced if the rule that limits them is there exactly if it should be. -/
theorem enforcesRates (h : s.RateControl) (hbearer : s.bearer = some b)
    (hoff : s.rates.isZero = true → s.ratesQer = none)
    (hon : s.rates.isZero = false →
      ∃ q, s.graph.qers = [q] ∧ s.ratesQer = some q.id ∧ q.maximum = s.rates) :
    s.EnforcesRates b := by
  obtain ⟨hup, hdown⟩ := h.roles_of_bearer hbearer
  have hids := h.ids
  cases hzero : s.rates.isZero with
  | true =>
    have hnone := hoff hzero
    rw [hnone] at hids
    refine .unlimited (RatePair.isZero_iff.mp hzero) hnone (List.map_eq_nil_iff.mp hids) ?_
    intro p hp
    rw [h.qers_of_mem_pdrs hp, hnone]
    exact ite_self []
  | false =>
    obtain ⟨q, hqers, hid, hmaximum⟩ := hon hzero
    have hpos : s.rates ≠ ⟨0, 0⟩ := by
      intro hr
      rw [RatePair.isZero_iff.mpr hr] at hzero
      cases hzero
    refine .limited q hpos hid hqers hmaximum ⟨?_, ?_⟩ ?_
    · exact h.isSome_pdr? (.inl hup)
    · exact h.isSome_pdr? (.inr hdown)
    · intro p hp
      rw [h.qers_of_mem_pdrs hp, hup, hdown, hid]
      rfl

/-- An installation enforces the rates of a session. If there were rates before, then there are
rates, and the rule that limits them is the same. -/
theorem compile (h : s.RateControl) (hok : (s.compile config d).result = .ok s') :
    s'.RateControl ∧ (∃ b, s'.bearer = some b ∧ s'.EnforcesRates b) ∧
      (s.rates.isZero = false → s'.rates.isZero = false ∧
        ∀ id, s.ratesQer = some id → s'.ratesQer = some id) := by
  obtain ⟨b, s₁, s₂, hbearer, hcreate, hwire, hlimit⟩ := result_compile.mp hok
  obtain ⟨-, hrenewed⟩ := s.frame_renewed config d
  obtain ⟨-, -, hcreated⟩ := grown_createForwarding hcreate
  have hbearer₁ : s₁.bearer = some b := by rw [hcreated, hbearer]
  obtain ⟨-, localEnd, hwired⟩ := frame_wire hbearer₁ hwire
  have hcontrol : (s₂.storeQuality d).RateControl :=
    (((h.renewed config d).createForwarding hcreate).wire hbearer₁ hwire).storeQuality d
  obtain ⟨hrates, hqer⟩ : (s₂.storeQuality d).rates =
      (if Policy.ratesChanged s.rates d.rates then d.rates else s.rates) ∧
      (s₂.storeQuality d).ratesQer = s.ratesQer := by
    rw [storeQuality_eq]
    rw [hwired, hcreated, hrenewed]
    exact ⟨rfl, rfl⟩
  obtain ⟨hup, hdown⟩ := (h.renewed config d).roles_of_bearer hbearer
  obtain ⟨hcontrol', hoff, hon⟩ := hcontrol.limitRates hup hdown hlimit
  have hrates' : s'.rates = (s₂.storeQuality d).rates := by rw [frame_limitRates hlimit]
  obtain ⟨b', hb', -⟩ := hcontrol'.roles
  rw [← hrates'] at hoff hon
  refine ⟨hcontrol', ⟨b', hb', hcontrol'.enforcesRates hb' hoff fun hpos => (hon hpos).1⟩, ?_⟩
  intro hpos
  have hpos' : s'.rates.isZero = false := by
    rw [hrates', hrates]
    split
    · next hchanged => exact Policy.isZero_of_ratesChanged hchanged
    · exact hpos
  rw [hqer] at hon
  exact ⟨hpos', (hon hpos').2⟩

end RateControl

/-! ## Runs -/

/-- A session as it is established has no rates and nothing that limits them. -/
theorem Established.rateControl (h : s.Established) : s.RateControl ∧ s.ratesQer = none := by
  obtain ⟨id, index, imsi, name, ipv4, ipv6, node, ebi, peerEnd, h⟩ := h
  obtain rfl := Except.ok.inj h
  exact ⟨⟨⟨_, rfl, rfl, rfl⟩, rfl, [], .missing rfl rfl rfl, rfl⟩, rfl⟩

end Session

/-- What may change the rates of a session: a message of the policy server, or somebody else who
sets them. -/
inductive RateEvent where
  | message (config : Config) (m : Policy.Message)
  | setRates (rates : RatePair)

namespace Session

variable {s s' s₀ : Session}

def follow (s : Session) : RateEvent → Attempt Session
  | .message config m => do
    let (_, s) ← s.handlePolicy config m
    pure s
  | .setRates rates => pure { s with rates }

def followAll (s : Session) (es : List RateEvent) : Attempt Session :=
  es.foldlM follow s

theorem result_follow_message {config : Config} {m : Policy.Message} :
    (s.follow (.message config m)).result = .ok s' ↔
      ∃ answer, (s.handlePolicy config m).result = .ok (answer, s') := by
  simp only [follow, result_bind_eq_ok, result_pure, Except.ok.injEq]
  constructor
  · rintro ⟨⟨answer, s₁⟩, hok, rfl⟩
    exact ⟨answer, hok⟩
  · rintro ⟨answer, hok⟩
    exact ⟨(answer, s'), hok, rfl⟩

/-- A message keeps the rule that limits the rates under control. If the rates are not zero, they do
not become so, and the rule is the same. -/
theorem RateControl.handlePolicy {config : Config} {m : Policy.Message} {answer : Option UInt32}
    (h : s.RateControl) (hok : (s.handlePolicy config m).result = .ok (answer, s')) :
    s'.RateControl ∧
      (s.accepts config m = true → ∃ b, s'.bearer = some b ∧ s'.EnforcesRates b) ∧
      (s.rates.isZero = false → s'.rates.isZero = false ∧
        ∀ id, s.ratesQer = some id → s'.ratesQer = some id) := by
  cases haccepts : s.accepts config m with
  | true =>
    obtain ⟨hcontrol, henforces, hkept⟩ := h.compile (handlePolicy_of_accepts hok haccepts)
    exact ⟨hcontrol, fun _ => henforces, hkept⟩
  | false =>
    have hs' := handlePolicy_of_not_accepts hok haccepts
    rw [hs']
    refine ⟨h.of_limits rfl h.roles rfl rfl rfl, ?_, fun hpos => ⟨hpos, fun _ hid => hid⟩⟩
    exact fun hfalse => absurd hfalse Bool.false_ne_true

theorem RateControl.follow {e : RateEvent} (h : s.RateControl)
    (hok : (s.follow e).result = .ok s') : s'.RateControl := by
  cases e with
  | message config m =>
    obtain ⟨answer, hm⟩ := result_follow_message.mp hok
    exact (h.handlePolicy hm).1
  | setRates rates =>
    obtain rfl := Except.ok.inj hok
    exact h.of_limits rfl h.roles rfl rfl rfl

/-- A rule that limits the rates is there only if there are rates. -/
structure Unassigned (s : Session) : Prop where
  control : s.RateControl
  pos : ∀ id, s.ratesQer = some id → s.rates.isZero = false

theorem Unassigned.handlePolicy {config : Config} {m : Policy.Message} {answer : Option UInt32}
    (h : s.Unassigned) (hok : (s.handlePolicy config m).result = .ok (answer, s')) :
    s'.Unassigned := by
  obtain ⟨hcontrol, henforces, -⟩ := h.control.handlePolicy hok
  refine ⟨hcontrol, fun id hid => ?_⟩
  cases haccepts : s.accepts config m with
  | true =>
    obtain ⟨b, -, henforced⟩ := henforces haccepts
    cases henforced with
    | unlimited _ hnone _ _ => rw [hnone] at hid; cases hid
    | limited q hpos _ _ _ _ _ =>
      rw [← Bool.not_eq_true, RatePair.isZero_iff]
      exact hpos
  | false =>
    rw [handlePolicy_of_not_accepts hok haccepts] at hid ⊢
    exact h.pos id hid

/-- Right after an installation that is accepted, in any run of messages of the policy server and of
rates that are set, a session has the enforcement rules that its rates ask for. If only messages
of the policy server arrive, a rule that limits the rates stays, with the same number. -/
theorem enforcesRates_of_followAll (hs₀ : s₀.Established) :
    (∀ es s config m answer s', (s₀.followAll es).result = .ok s → s.accepts config m = true →
      (s.handlePolicy config m).result = .ok (answer, s') →
      ∃ b, s'.bearer = some b ∧ s'.EnforcesRates b) ∧
    ∀ (ms ms' : List (Config × Policy.Message)) s s',
      (s₀.followAll (ms.map fun x => .message x.1 x.2)).result = .ok s →
      (s.followAll (ms'.map fun x => .message x.1 x.2)).result = .ok s' →
      ∀ q ∈ s.graph.qers, ∃ q' ∈ s'.graph.qers, q'.id = q.id := by
  obtain ⟨hcontrol₀, hnone₀⟩ := hs₀.rateControl
  refine ⟨?_, ?_⟩
  · intro es s config m answer s' hrun haccepts hok
    have hcontrol : s.RateControl :=
      inv_foldlM (fun _ _ _ _ h => h.follow) hcontrol₀ hrun
    exact (hcontrol.handlePolicy hok).2.1 haccepts
  · intro ms ms' s s' hrun hrun' q hq
    have hs : s.Unassigned := by
      refine inv_foldlM (P := Unassigned) ?_ ⟨hcontrol₀, by simp [hnone₀]⟩ hrun
      intro e he s s' h hok
      obtain ⟨⟨config, m⟩, -, rfl⟩ := List.mem_map.mp he
      obtain ⟨answer, hm⟩ := result_follow_message.mp hok
      exact h.handlePolicy hm
    have hid : s.ratesQer = some q.id := by
      have hmem : q.id ∈ s.graph.qers.map (·.id) := List.mem_map_of_mem hq
      rw [hs.control.ids] at hmem
      exact Option.mem_toList.mp hmem
    -- The same rule limits the rates throughout the rest of the run.
    obtain ⟨hs', hid'⟩ : s'.Unassigned ∧ s'.ratesQer = some q.id := by
      refine inv_foldlM (P := fun s => s.Unassigned ∧ s.ratesQer = some q.id) ?_ ⟨hs, hid⟩ hrun'
      rintro e he s s' ⟨h, hid⟩ hok
      obtain ⟨⟨config, m⟩, -, rfl⟩ := List.mem_map.mp he
      obtain ⟨answer, hm⟩ := result_follow_message.mp hok
      have hkept := (h.control.handlePolicy hm).2.2 (h.pos q.id hid)
      exact ⟨h.handlePolicy hm, hkept.2 q.id hid⟩
    have hmem : q.id ∈ s'.graph.qers.map (·.id) := by
      rw [hs'.control.ids, hid']
      exact List.mem_singleton.mpr rfl
    exact List.mem_map.mp hmem

/-! ## A session whose rates are set to zero -/

/-- A session after a run, as it was if the run ends in a fault. -/
def afterRates (s : Session) (es : List RateEvent) : Session :=
  match (s.followAll es).result with
  | .ok s' => s'
  | .error _ => s

/-- The installation of a decision with given rates and no rules. -/
def rating (rates : RatePair) : Policy.Message :=
  { kind := .initialAnswer, decision := { rates } }

/-- An installation, after which the rates are set to zero. -/
def zeroed : List RateEvent :=
  [.message {} (rating ⟨1000, 2000⟩), .setRates ⟨0, 0⟩]

/-- The rates are set to zero after an installation, and the next decision brings none. If they are
not, the next decision changes them, and the rule that limits them stays. -/
theorem enforcesRates_of_followAll_zeroed :
    (∃ s s' b, (attached.followAll zeroed).result = .ok s ∧
      (s.handlePolicy {} (rating ⟨0, 0⟩)).result = .ok (some 2001, s') ∧
      s'.bearer = some b ∧ s'.EnforcesRates b) ∧
    ∃ s s', (attached.followAll [.message {} (rating ⟨1000, 2000⟩)]).result = .ok s ∧
      (s.followAll [.message {} (rating ⟨5000, 0⟩)]).result = .ok s' ∧
      ∀ q ∈ s.graph.qers, ∃ q' ∈ s'.graph.qers, q'.id = q.id := by
  have hattached : attached.Established :=
    ⟨1, 1, "001010000000001", none, some ⟨10, 45, 0, 2⟩, none, some { picksEndpoints := true }, 5,
      { teid := 7, addr := some ⟨10, 0, 0, 1⟩ }, rfl⟩
  obtain ⟨henforces, hkept⟩ := enforcesRates_of_followAll hattached
  constructor
  · have hrun : (attached.followAll zeroed).result = .ok (attached.afterRates zeroed) := by rfl
    have hok : ((attached.afterRates zeroed).handlePolicy {} (rating ⟨0, 0⟩)).result =
        .ok (some 2001, (attached.afterRates zeroed).afterPolicy {} (rating ⟨0, 0⟩)) := by rfl
    obtain ⟨b, hb, henforced⟩ := henforces zeroed _ {} (rating ⟨0, 0⟩) _ _ hrun (by rfl) hok
    exact ⟨_, _, b, hrun, hok, hb, henforced⟩
  · have hrun : (attached.followAll [.message {} (rating ⟨1000, 2000⟩)]).result =
        .ok (attached.afterRates [.message {} (rating ⟨1000, 2000⟩)]) := by rfl
    have hrun' : ((attached.afterRates [.message {} (rating ⟨1000, 2000⟩)]).followAll
        [.message {} (rating ⟨5000, 0⟩)]).result =
        .ok ((attached.afterRates [.message {} (rating ⟨1000, 2000⟩)]).afterRates
          [.message {} (rating ⟨5000, 0⟩)]) := by rfl
    exact ⟨_, _, hrun, hrun',
      hkept [({}, rating ⟨1000, 2000⟩)] [({}, rating ⟨5000, 0⟩)] _ _ hrun hrun'⟩

end Session

end SessionControl
