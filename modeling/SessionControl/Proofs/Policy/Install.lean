import SessionControl.Proofs.Policy.Metering
import SessionControl.Proofs.Policy.Wiring

/-!
# The stages of an installation

What each stage of an installation does to a session, as one equation or inversion a stage. An
installation renews the meters, stores the rules, adds the rules of the control plane if they
are missing, wires the session, and limits the rates.

## Main definitions

- `RuleGraph.withPdr` — a graph with one more detection rule
- `RuleGraph.Grown` — what adding the rules of the control plane does to a graph
- `Session.Limited` — the rates of a session are limited as they should be
- `Session.Compiled` — how an installation came from one session to another

## Main statements

- `Session.grown_createForwarding` — adding the rules of the control plane
- `Session.value_updateRates`, `Session.value_updateQos` — storing rates and quality of service
- `Session.limited_limitRates`, `Session.result_limitRates_of_limited` — limiting rates, and
  limiting them again
- `Session.result_compile`, `Session.compiled_of_result` — an installation is the sequence of its
  stages, and each of them leaves what it should
-/

namespace SessionControl

open Attempt
open RuleGraph (Meter)

/-! ## The rules of the control plane -/

namespace RuleGraph

/-- A graph with one more detection rule, which is paired with a forwarding rule. -/
def withPdr (g : RuleGraph) (source : Interface) (far : FarId) : RuleGraph :=
  { g with
    pdrs := g.pdrs ++
      [{ id := g.lastPdr + 1, source, teid := g.teidBase + (g.lastPdr + 1).toUInt32, far }]
    lastPdr := g.lastPdr + 1 }

/-- At most one detection rule is added; it has the next number and no meter. -/
def MayAddPdr (g g' : RuleGraph) : Prop :=
  g' = g ∨ ∃ pdr : Pdr, pdr.id = g.lastPdr + 1 ∧ pdr.urrs = [] ∧
    g' = { g with pdrs := g.pdrs ++ [pdr], lastPdr := g.lastPdr + 1 }

/-- At most one forwarding rule is added, with the next number. -/
def MayAddFar (g g' : RuleGraph) : Prop :=
  g' = g ∨ ∃ far : Far, far.id = g.lastFar + 1 ∧
    g' = { g with fars := g.fars ++ [far], lastFar := g.lastFar + 1 }

/-- Detection rules without meters and forwarding rules are added, and nothing else changes. -/
structure Grown (g g' : RuleGraph) : Prop where
  frame : g' = { g with
    pdrs := g'.pdrs, fars := g'.fars, lastPdr := g'.lastPdr, lastFar := g'.lastFar }
  pdrs : ∃ new : List Pdr, g'.pdrs = g.pdrs ++ new ∧ ∀ p ∈ new, p.urrs = []
  numbered : g.Numbered → g.CountersAdvance g' → g'.Numbered

theorem MayAddPdr.numbered {g g' : RuleGraph} (h : g.MayAddPdr g') (hg : g.Numbered)
    (hadvance : Advances g.lastPdr g'.lastPdr) : g'.Numbered := by
  obtain rfl | ⟨pdr, hid, -, rfl⟩ := h
  · exact hg
  · have hlt : g.lastPdr < g.lastPdr + 1 := UInt16.lt_succ_of_advances hadvance
    refine { hg with pdrs := ?_ }
    rw [List.map_append, List.map_singleton, hid]
    exact hg.pdrs.append_next hlt

theorem MayAddFar.numbered {g g' : RuleGraph} (h : g.MayAddFar g') (hg : g.Numbered)
    (hadvance : Advances g.lastFar g'.lastFar) : g'.Numbered := by
  obtain rfl | ⟨far, hid, rfl⟩ := h
  · exact hg
  · have hlt : g.lastFar < g.lastFar + 1 := UInt32.lt_succ_of_advances hadvance
    refine { hg with fars := ?_ }
    rw [List.map_append, List.map_singleton, hid]
    exact hg.fars.append_next hlt

theorem MayAddPdr.lastPdr {g g' : RuleGraph} (h : g.MayAddPdr g') :
    g'.lastPdr = g.lastPdr ∨ g'.lastPdr = g.lastPdr + 1 := by
  obtain rfl | ⟨pdr, -, -, rfl⟩ := h
  · exact Or.inl rfl
  · exact Or.inr rfl

theorem MayAddPdr.pdrs {g g' : RuleGraph} (h : g.MayAddPdr g') :
    ∃ new : List Pdr, g'.pdrs = g.pdrs ++ new ∧ ∀ p ∈ new, p.urrs = [] := by
  obtain rfl | ⟨pdr, -, hurrs, rfl⟩ := h
  · exact ⟨[], (List.append_nil _).symm, by simp⟩
  · exact ⟨[pdr], rfl, by simpa using hurrs⟩

theorem MayAddPdr.lastFar {g g' : RuleGraph} (h : g.MayAddPdr g') : g'.lastFar = g.lastFar := by
  obtain rfl | ⟨pdr, -, -, rfl⟩ := h <;> rfl

theorem MayAddFar.pdrs {g g' : RuleGraph} (h : g.MayAddFar g') : g'.pdrs = g.pdrs := by
  obtain rfl | ⟨far, -, rfl⟩ := h <;> rfl

theorem MayAddFar.lastPdr {g g' : RuleGraph} (h : g.MayAddFar g') : g'.lastPdr = g.lastPdr := by
  obtain rfl | ⟨far, -, rfl⟩ := h <;> rfl

/-- One rule in each direction, with the one that forwards to the control plane between them. -/
theorem Grown.of_steps {g g₁ g₂ g' : RuleGraph} (h₁ : g.MayAddPdr g₁) (h₂ : g₁.MayAddFar g₂)
    (h₃ : g₂.MayAddPdr g') : g.Grown g' where
  frame := by
    obtain rfl | ⟨p, -, -, rfl⟩ := h₁ <;> obtain rfl | ⟨f, -, rfl⟩ := h₂ <;>
      obtain rfl | ⟨q, -, -, rfl⟩ := h₃ <;> rfl
  pdrs := by
    obtain ⟨new₁, hnew₁, hurrs₁⟩ := h₁.pdrs
    obtain ⟨new₃, hnew₃, hurrs₃⟩ := h₃.pdrs
    refine ⟨new₁ ++ new₃, ?_, ?_⟩
    · rw [hnew₃, h₂.pdrs, hnew₁, List.append_assoc]
    · intro p hp
      exact (List.mem_append.mp hp).elim (hurrs₁ p) (hurrs₃ p)
  numbered := by
    intro hg hadvance
    -- The counter moves by two at most, so it is ahead after the first step if it is at the end.
    have hpdr := hadvance.pdr
    have hlast₁ := h₁.lastPdr
    have hlast₃ := h₃.lastPdr
    rw [h₂.lastPdr] at hlast₃
    have hg₁ : g₁.Numbered := h₁.numbered hg (by grind)
    have hg₂ : g₂.Numbered := by
      refine h₂.numbered hg₁ ?_
      rw [h₁.lastFar, ← h₃.lastFar]
      exact hadvance.far
    refine h₃.numbered hg₂ ?_
    rw [h₂.lastPdr]
    grind

end RuleGraph

namespace Session

variable {s s' : Session}

theorem result_addPdr {far : FarId} (source : Interface) (h : (s.graph.far? far).isSome) :
    (s.addPdr source far).result =
      .ok (s.graph.lastPdr + 1, { s with graph := s.graph.withPdr source far }) := by
  rw [addPdr, RuleGraph.addPdr, if_pos h]
  rfl

theorem result_ensureFromControlPdr {far : FarId}
    (h : (s.ensureFromControlPdr far).result = .ok s') :
    s.graph.MayAddPdr s'.graph ∧ s'.fromControlPdr.isSome ∧
      s' = { s with graph := s'.graph, fromControlPdr := s'.fromControlPdr } := by
  rw [ensureFromControlPdr] at h
  split at h
  · next hsome =>
    obtain rfl := Except.ok.inj h
    exact ⟨Or.inl rfl, hsome, rfl⟩
  · simp only [addPdr, result_bind_eq_ok, result_ofGraph_eq_ok, result_pure, Except.ok.injEq]
      at h
    obtain ⟨_, ⟨⟨id, g⟩, hadd, rfl⟩, rfl⟩ := h
    obtain ⟨pdr, hid, hurrs, -, hg⟩ := RuleGraph.addPdr_eq_ok hadd
    exact ⟨Or.inr ⟨pdr, hid, hurrs, hg⟩, rfl, rfl⟩

theorem result_ensureToControlPdr (h : s.ensureToControlPdr.result = .ok s') :
    s.graph.MayAddPdr s'.graph ∧ s'.toControlPdr.isSome ∧
      s' = { s with graph := s'.graph, toControlPdr := s'.toControlPdr } := by
  rw [ensureToControlPdr] at h
  split at h
  · next hsome =>
    obtain rfl := Except.ok.inj h
    exact ⟨Or.inl rfl, hsome, rfl⟩
  · simp only [addPdr, result_bind_eq_ok, result_ofGraph_eq_ok, result_pure, Except.ok.injEq]
      at h
    obtain ⟨_, ⟨⟨id, g⟩, hadd, rfl⟩, rfl⟩ := h
    obtain ⟨pdr, hid, hurrs, -, hg⟩ := RuleGraph.addPdr_eq_ok hadd
    exact ⟨Or.inr ⟨pdr, hid, hurrs, hg⟩, rfl, rfl⟩

theorem ensureToControlFar_eq (s : Session) :
    s.graph.MayAddFar s.ensureToControlFar.graph ∧ s.ensureToControlFar.toControlFar.isSome ∧
      s.ensureToControlFar = { s with
        graph := s.ensureToControlFar.graph
        toControlFar := s.ensureToControlFar.toControlFar } := by
  rw [ensureToControlFar]
  split
  · next hsome => exact ⟨Or.inl rfl, hsome, rfl⟩
  · exact ⟨Or.inr ⟨_, rfl, rfl⟩, rfl, rfl⟩

/-- Adding the rules of the control plane grows the graph, and all three are there then. -/
theorem grown_createForwarding (h : s.createForwarding.result = .ok s') :
    s.graph.Grown s'.graph ∧
      (s'.fromControlPdr.isSome ∧ s'.toControlPdr.isSome ∧ s'.toControlFar.isSome) ∧
      s' = { s with
        graph := s'.graph
        fromControlPdr := s'.fromControlPdr
        toControlPdr := s'.toControlPdr
        toControlFar := s'.toControlFar } := by
  simp only [createForwarding, result_bind_eq_ok, result_require_eq_ok] at h
  obtain ⟨b, -, s₁, hfrom, hto⟩ := h
  obtain ⟨hadd₁, hsome₁, hs₁⟩ := result_ensureFromControlPdr hfrom
  obtain ⟨hadd₂, hsome₂, hs₂⟩ := ensureToControlFar_eq s₁
  obtain ⟨hadd₃, hsome₃, hs₃⟩ := result_ensureToControlPdr hto
  refine ⟨RuleGraph.Grown.of_steps hadd₁ hadd₂ hadd₃, ⟨?_, hsome₃, ?_⟩, ?_⟩
  · rw [hs₃, hs₂]
    exact hsome₁
  · rw [hs₃]
    exact hsome₂
  · rw [hs₃, hs₂, hs₁]

theorem result_createForwarding_of_isSome {b : Bearer} (hbearer : s.bearer = some b)
    (hfrom : s.fromControlPdr.isSome) (hto : s.toControlPdr.isSome)
    (hfar : s.toControlFar.isSome) : s.createForwarding.result = .ok s := by
  simp only [createForwarding, result_bind_eq_ok, result_require_eq_ok]
  refine ⟨b, hbearer, s, ?_, ?_⟩
  · rw [ensureFromControlPdr, if_pos hfrom, result_pure]
  · rw [ensureToControlFar, if_pos hfar, ensureToControlPdr, if_pos hto, result_pure]

end Session

/-! ## Rates and quality of service -/

namespace Policy

@[simp]
theorem rateChanged_self (rate : UInt64) : rateChanged rate rate = false := by
  simp [rateChanged]

/-- Rates that are stored do not differ from the stored ones. -/
theorem ratesChanged_ite (stored incoming : RatePair) :
    ratesChanged (if ratesChanged stored incoming then incoming else stored) incoming = false := by
  split
  · simp [ratesChanged]
  · next h => simpa using h

theorem qosChanged_ite (stored incoming : Qos) :
    qosChanged (if qosChanged stored incoming
      then { stored with index := incoming.index, arp := incoming.arp } else stored)
      incoming = false := by
  split
  · simp [qosChanged]
  · next h => simpa using h

end Policy

namespace Session

variable {s s' : Session}

theorem value_updateRates (s : Session) (rates : RatePair) :
    (s.updateRates rates).value = { s with
      rates := if Policy.ratesChanged s.rates rates then rates else s.rates
      changed := { s.changed with rates := Policy.ratesChanged s.rates rates } } := by
  rw [updateRates]
  cases Policy.ratesChanged s.rates rates <;> rfl

theorem value_updateQos (s : Session) (qos : Policy.Qos) :
    (s.updateQos qos).value = { s with
      qos := if Policy.qosChanged s.qos qos
        then { s.qos with index := qos.index, arp := qos.arp } else s.qos
      changed := { s.changed with qos := Policy.qosChanged s.qos qos } } := by
  rw [updateQos]
  cases Policy.qosChanged s.qos qos <;> rfl

/-- Storing rates and quality of service. -/
def storeQuality (s : Session) (d : Policy.Decision) : Session :=
  ((s.updateRates d.rates).value.updateQos d.qos).value

theorem storeQuality_eq (s : Session) (d : Policy.Decision) :
    s.storeQuality d = { s with
      rates := if Policy.ratesChanged s.rates d.rates then d.rates else s.rates
      qos := if Policy.qosChanged s.qos d.qos
        then { s.qos with index := d.qos.index, arp := d.qos.arp } else s.qos
      changed := { rates := Policy.ratesChanged s.rates d.rates
                   qos := Policy.qosChanged s.qos d.qos } } := by
  simp only [storeQuality, value_updateRates, value_updateQos]

@[simp]
theorem graph_storeQuality (s : Session) (d : Policy.Decision) :
    (s.storeQuality d).graph = s.graph := by
  rw [storeQuality_eq]

theorem storeQuality_of_stored {d : Policy.Decision}
    (hrates : Policy.ratesChanged s.rates d.rates = false)
    (hqos : Policy.qosChanged s.qos d.qos = false) :
    s.storeQuality d = { s with changed := {} } := by
  rw [storeQuality_eq, hrates, hqos]
  rfl

end Session

/-! ## Limiting the rates -/

namespace RuleGraph

/-- Nothing changes but enforcement rules and the associations to them. -/
def QersChanged (g g' : RuleGraph) : Prop :=
  ∃ onQers : Pdr → List QerId, g' = { g with
    qers := g'.qers
    lastQer := g'.lastQer
    pdrs := g.pdrs.map fun p => { p with qers := onQers p } }

namespace QersChanged

theorem of_qers {g : RuleGraph} (qers : List Qer) (lastQer : QerId) :
    g.QersChanged { g with qers, lastQer } := by
  refine ⟨(·.qers), ?_⟩
  rw [List.map_id']

theorem trans {g g' g'' : RuleGraph} (h : g.QersChanged g') (h' : g'.QersChanged g'') :
    g.QersChanged g'' := by
  obtain ⟨onQers, h⟩ := h
  obtain ⟨onQers', h'⟩ := h'
  refine ⟨fun p => onQers' { p with qers := onQers p }, ?_⟩
  rw [h', h, List.map_map]
  rfl

theorem counters {g g' : RuleGraph} (h : g.QersChanged g') :
    g'.lastPdr = g.lastPdr ∧ g'.lastFar = g.lastFar ∧ g'.lastUrr = g.lastUrr := by
  obtain ⟨onQers, h⟩ := h
  rw [h]
  exact ⟨rfl, rfl, rfl⟩

theorem distinct {g g' : RuleGraph} (h : g.QersChanged g') (hg : g.Distinct) : g'.Distinct := by
  obtain ⟨onQers, h⟩ := h
  rw [h]
  refine ⟨?_, hg.fars⟩
  rw [List.map_map]
  exact hg.pdrs

theorem of_mapRules {g : RuleGraph} {onPdr : Pdr → Pdr}
    (h : ∀ p, onPdr p = { p with qers := (onPdr p).qers }) :
    g.QersChanged (g.mapRules onPdr fun f => f) := by
  refine ⟨fun p => (onPdr p).qers, ?_⟩
  have hmap : g.pdrs.map onPdr = g.pdrs.map fun p => { p with qers := (onPdr p).qers } :=
    List.map_congr_left fun p _ => h p
  rw [mapRules, List.map_id', hmap]

end QersChanged

end RuleGraph

namespace Session

variable {s s' : Session} {b : Bearer}

/-- The rates of a session are limited as they should be: either there are none, and no rule
limits them, or one rule limits both directions of the default bearer to them. -/
inductive Limited (s : Session) (b : Bearer) : Prop
  | unlimited (hzero : s.rates.isZero = true) (hqer : s.ratesQer = none)
  | limited {id : QerId} {q : Qer} (hzero : s.rates.isZero = false)
      (hqer : s.ratesQer = some id) (hfind : s.graph.qer? id = some q)
      (hmaximum : q.maximum = s.rates)
      (hthere : (s.graph.pdr? b.downlinkPdr).isSome ∧ (s.graph.pdr? b.uplinkPdr).isSome)
      (happlied : ∀ p ∈ s.graph.pdrs, p.id = b.downlinkPdr ∨ p.id = b.uplinkPdr → id ∈ p.qers)

theorem dropRatesQer_eq (s : Session) :
    s.graph.QersChanged s.dropRatesQer.graph ∧
      (s.graph.Numbered → s.dropRatesQer.graph.Numbered) ∧ s.dropRatesQer.ratesQer = none ∧
      s.dropRatesQer = { s with graph := s.dropRatesQer.graph, ratesQer := none } := by
  cases hqer : s.ratesQer with
  | none =>
    have hsame : s.dropRatesQer = s := by rw [dropRatesQer, hqer]
    rw [hsame]
    exact ⟨.of_qers _ _, fun h => h, hqer, by rw [← hqer]⟩
  | some id =>
    have hdrop : s.dropRatesQer =
        { s with ratesQer := none, graph := (s.graph.removeQer id).2 } := by
      rw [dropRatesQer, hqer]
    rw [hdrop]
    cases hfind : s.graph.qer? id with
    | none =>
      have hsame : (s.graph.removeQer id).2 = s.graph := by rw [RuleGraph.removeQer, hfind]
      rw [hsame]
      exact ⟨.of_qers _ _, fun h => h, rfl, rfl⟩
    | some q =>
      have hsub : (s.graph.qers.eraseP (·.id == id)).Sublist s.graph.qers :=
        List.eraseP_sublist
      rw [RuleGraph.removeQer, hfind]
      refine ⟨⟨fun p => p.qers.filter (· != id), rfl⟩, fun h => ?_, rfl, rfl⟩
      refine { h with pdrs := ?_, qers := h.qers.sublist (hsub.map _) }
      rw [List.map_map]
      exact h.pdrs

theorem ensureRatesQer_frame (s : Session) :
    s.graph.QersChanged s.ensureRatesQer.2.graph ∧
      s.ensureRatesQer.2.ratesQer = some s.ensureRatesQer.1 ∧
      s.ensureRatesQer.2 = { s with
        graph := s.ensureRatesQer.2.graph, ratesQer := s.ensureRatesQer.2.ratesQer } := by
  rw [ensureRatesQer]
  split
  · next id hid =>
    have hqer : s.ratesQer = some id := (Option.filter_eq_some_iff.mp hid).1
    exact ⟨.of_qers _ _, hqer, rfl⟩
  · exact ⟨.of_qers _ _, rfl, rfl⟩

/-- The rule that limits the rates is set to them, unless the counter overflows. -/
theorem qer?_ensureRatesQer (h : s.graph.Numbered)
    (hadvance : Advances s.graph.lastQer s.ensureRatesQer.2.graph.lastQer) :
    s.ensureRatesQer.2.graph.Numbered ∧
      ∃ q, s.ensureRatesQer.2.graph.qer? s.ensureRatesQer.1 = some q ∧ q.maximum = s.rates := by
  rw [ensureRatesQer] at hadvance ⊢
  split
  · next id hid =>
    obtain ⟨q, hq⟩ := Option.isSome_iff_exists.mp (Option.filter_eq_some_iff.mp hid).2
    refine ⟨{ h with qers := ?_ }, { q with maximum := s.rates }, ?_, rfl⟩
    · rw [RuleGraph.updateQer, map_updateFirst]
      · exact h.qers
      · exact fun _ _ => rfl
    · have hqid : q.id = id := by simpa using List.find?_some hq
      rw [RuleGraph.updateQer, RuleGraph.qer?, find?_key_updateFirst, ← RuleGraph.qer?, hq,
        Option.map_some, if_pos hqid]
      exact fun _ => rfl
  · next hid =>
    rw [hid] at hadvance
    have hlt : s.graph.lastQer < s.graph.lastQer + 1 := UInt32.lt_succ_of_advances hadvance
    exact ⟨h.addQer s.rates hlt, _, h.qer?_addQer s.rates hlt, rfl⟩

theorem result_limitRates_of_pos (hzero : s.rates.isZero = false) :
    (s.limitRates b).result = .ok s' ↔
      ∃ g, (∃ g₁, s.ensureRatesQer.2.graph.associateQer b.downlinkPdr s.ensureRatesQer.1 = .ok g₁ ∧
          g₁.associateQer b.uplinkPdr s.ensureRatesQer.1 = .ok g) ∧
        s' = { s.ensureRatesQer.2 with graph := g } := by
  simp only [limitRates, hzero, Bool.false_eq_true, if_false, result_bind_eq_ok,
    result_ofGraph_eq_ok, result_pure, Except.ok.injEq]
  constructor
  · rintro ⟨g₁, hdown, g, hup, rfl⟩
    exact ⟨g, ⟨g₁, hdown, hup⟩, rfl⟩
  · rintro ⟨g, ⟨g₁, hdown, hup⟩, rfl⟩
    exact ⟨g₁, hdown, g, hup, rfl⟩

/-- Limiting the rates changes enforcement rules and the associations to them. -/
theorem qersChanged_limitRates (h : s.graph.Distinct) (hok : (s.limitRates b).result = .ok s') :
    s.graph.QersChanged s'.graph := by
  cases hzero : s.rates.isZero with
  | true =>
    rw [limitRates, if_pos hzero, result_pure, Except.ok.injEq] at hok
    rw [← hok]
    exact (dropRatesQer_eq s).1
  | false =>
    obtain ⟨g, hboth, rfl⟩ := (result_limitRates_of_pos hzero).mp hok
    obtain ⟨hchanged, -⟩ := ensureRatesQer_frame s
    obtain ⟨-, -, -, rfl⟩ := (hchanged.distinct h).associateQer_both.mp hboth
    refine hchanged.trans (.of_mapRules fun p => ?_)
    split <;> rfl

/-- Limiting the rates changes enforcement rules only, and leaves the rates limited as they
should be, unless the counter overflows. -/
theorem limited_limitRates (h : s.graph.Numbered) (hok : (s.limitRates b).result = .ok s')
    (hadvance : Advances s.graph.lastQer s'.graph.lastQer) :
    s.graph.QersChanged s'.graph ∧ s'.graph.Numbered ∧ s'.Limited b ∧
      s' = { s with graph := s'.graph, ratesQer := s'.ratesQer } := by
  refine ⟨qersChanged_limitRates h.distinct hok, ?_⟩
  cases hzero : s.rates.isZero with
  | true =>
    rw [limitRates, if_pos hzero, result_pure, Except.ok.injEq] at hok
    obtain ⟨-, hnumbered, hnone, hs⟩ := dropRatesQer_eq s
    rw [hok] at hnumbered hnone hs
    refine ⟨hnumbered h, .unlimited ?_ hnone, by rw [hs]⟩
    rw [hs]
    exact hzero
  | false =>
    obtain ⟨g, hboth, rfl⟩ := (result_limitRates_of_pos hzero).mp hok
    obtain ⟨-, hqer, hs⟩ := ensureRatesQer_frame s
    -- Applying the rule moves no counter, so the overflow could only be in finding or adding it.
    have hlast : g.lastQer = s.ensureRatesQer.2.graph.lastQer := by
      obtain ⟨g₁, hdown, hup⟩ := hboth
      obtain ⟨-, -, rfl⟩ := RuleGraph.associateQer_eq_ok.mp hdown
      obtain ⟨-, -, rfl⟩ := RuleGraph.associateQer_eq_ok.mp hup
      rfl
    obtain ⟨hnumbered, q, hq, hmaximum⟩ := qer?_ensureRatesQer h (hlast ▸ hadvance)
    obtain ⟨-, hdown, hup, rfl⟩ := hnumbered.distinct.associateQer_both.mp hboth
    have hid : ∀ p : Pdr, (if p.id = b.downlinkPdr ∨ p.id = b.uplinkPdr
        then { p with qers := insertLast s.ensureRatesQer.1 p.qers } else p).id = p.id := by
      intro p
      split <;> rfl
    refine ⟨hnumbered.mapRules hid fun _ => rfl, ?_, ?_⟩
    · refine .limited (q := q) ?_ hqer hq ?_ ⟨?_, ?_⟩ ?_
      · rw [hs]
        exact hzero
      · rw [hmaximum, hs]
      · rw [RuleGraph.isSome_pdr?_mapRules hid]
        exact hdown
      · rw [RuleGraph.isSome_pdr?_mapRules hid]
        exact hup
      · intro p hp hrole
        obtain ⟨p₀, -, rfl⟩ := List.mem_map.mp hp
        rw [hid] at hrole
        rw [if_pos hrole]
        exact mem_insertLast.mpr (Or.inl rfl)
    · rw [hs]

/-- Limiting rates that are limited as they should be changes nothing. -/
theorem result_limitRates_of_limited (h : s.graph.Numbered) (hlimited : s.Limited b) :
    (s.limitRates b).result = .ok s := by
  cases hlimited with
  | unlimited hzero hqer =>
    rw [limitRates, if_pos hzero, dropRatesQer, hqer, result_pure]
  | @limited id q hzero hqer hfind hmaximum hthere happlied =>
    -- Each of the three steps is a no-op: the rule is found, it is set, and it is applied.
    have hset : s.graph.updateQer id (fun q => { q with maximum := s.rates }) = s.graph := by
      rw [RuleGraph.updateQer, updateFirst_of_fixed]
      intro q' hq'
      obtain rfl : q' = q := Option.some.inj (hq'.symm.trans hfind)
      rw [← hmaximum]
    have hfilter : s.ratesQer.filter (fun id => (s.graph.qer? id).isSome) = some id := by
      rw [hqer, Option.filter_some, hfind]
      rfl
    have hensure : s.ensureRatesQer = (id, s) := by
      rw [ensureRatesQer, hfilter]
      simp only [hset]
    refine (result_limitRates_of_pos hzero).mpr ⟨s.graph, ?_, by rw [hensure]⟩
    rw [hensure]
    refine h.distinct.associateQer_both.mpr ⟨Option.isSome_of_mem hfind, hthere.1, hthere.2, ?_⟩
    refine (RuleGraph.mapRules_eq_self (fun p hp => ?_) fun _ _ => rfl).symm
    split
    · next hrole => rw [insertLast_of_mem (happlied p hp hrole)]
    · rfl

theorem counters_limitRates (hok : (s.limitRates b).result = .ok s') :
    s'.graph.lastPdr = s.graph.lastPdr ∧ s'.graph.lastFar = s.graph.lastFar ∧
      s'.graph.lastUrr = s.graph.lastUrr := by
  cases hzero : s.rates.isZero with
  | true =>
    rw [limitRates, if_pos hzero, result_pure, Except.ok.injEq] at hok
    rw [← hok]
    exact (dropRatesQer_eq s).1.counters
  | false =>
    obtain ⟨g, ⟨g₁, hdown, hup⟩, rfl⟩ := (result_limitRates_of_pos hzero).mp hok
    obtain ⟨-, -, rfl⟩ := RuleGraph.associateQer_eq_ok.mp hdown
    obtain ⟨-, -, rfl⟩ := RuleGraph.associateQer_eq_ok.mp hup
    have hensured := (ensureRatesQer_frame s).1.counters
    exact hensured

/-! ## The whole installation -/

theorem value_renewMeters_of_voice {config : Config} (h : s.isFor config.voiceNetwork = true)
    (d : Policy.Decision) : (s.renewMeters config d).value = ([], s) := by
  rw [renewMeters, if_pos h]
  rfl

theorem value_renewMeters {config : Config} (h : s.isFor config.voiceNetwork = false)
    (d : Policy.Decision) :
    (s.renewMeters config d).value =
      ((s.graph.renewMeters config.meter d.rules).value.1,
        { s with graph := (s.graph.renewMeters config.meter d.rules).value.2 }) := by
  rw [renewMeters, if_neg (by simp [h])]
  rfl

/-- The session whose rules and meters are those of a decision, before anything else. -/
def renewed (s : Session) (config : Config) (d : Policy.Decision) : Session :=
  { (s.renewMeters config d).value.2 with rules := d.rules }

theorem value_storeRules (s : Session) (rules : List Policy.Rule) :
    (s.storeRules rules).value = { s with rules } := rfl

/-- An installation is the sequence of its stages. -/
theorem result_compile {config : Config} {d : Policy.Decision} :
    (s.compile config d).result = .ok s' ↔
      ∃ b s₁ s₂, (s.renewed config d).bearer = some b ∧
        (s.renewed config d).createForwarding.result = .ok s₁ ∧
        (s₁.wire config b (s.renewMeters config d).value.1).result = .ok s₂ ∧
        ((s₂.storeQuality d).limitRates b).result = .ok s' := by
  simp only [compile, configureBearer, wire, wireForwarding, wireDetection, storeQuality,
    value_storeRules, result_bind_eq_ok, result_lift, result_require_eq_ok, result_pure,
    Except.ok.injEq]
  -- Both sides run the same steps, grouped differently.
  constructor
  · rintro ⟨_, rfl, _, rfl, ⟨b, s₃⟩, ⟨_, hb, s₁, hcreate, rules, hrules, s₂, hbearer, _, hcontrol,
      hpair⟩, s₄, hends, s₅, hmeters, _, rfl, _, rfl, _, rfl, hlimit⟩
    cases hpair
    exact ⟨b, s₁, _, hb, hcreate, ⟨s₃, ⟨rules, hrules, s₂, hbearer, hcontrol⟩, s₄, hends, s₅,
      hmeters, rfl⟩, hlimit⟩
  · rintro ⟨b, s₁, _, hb, hcreate, ⟨s₃, ⟨rules, hrules, s₂, hbearer, hcontrol⟩, s₄, hends, s₅,
      hmeters, rfl⟩, hlimit⟩
    exact ⟨_, rfl, _, rfl, (b, s₃), ⟨b, hb, s₁, hcreate, rules, hrules, s₂, hbearer, s₃, hcontrol,
      rfl⟩, s₄, hends, s₅, hmeters, _, rfl, _, rfl, _, rfl, hlimit⟩

theorem renewed_eq (h : s.graph.Numbered) (config : Config) (d : Policy.Decision) :
    s.renewed config d = { s with
      rules := d.rules
      graph := { s.graph with
        pdrs := (s.renewed config d).graph.pdrs
        urrs := (s.renewed config d).graph.urrs
        lastUrr := (s.renewed config d).graph.lastUrr } } := by
  rw [renewed, renewMeters]
  split
  · rfl
  · have hframe := (RuleGraph.renewal_renewMeters config.meter d.rules h.urrs.nodup).1.frame
    simp only [Traced.value_bind, Traced.value_pure]
    rw [hframe]
    rfl

theorem numbered_renewed (h : s.graph.Numbered) {config : Config} {d : Policy.Decision}
    (hadvance : Advances s.graph.lastUrr (s.renewed config d).graph.lastUrr) :
    (s.renewed config d).graph.Numbered := by
  rw [renewed, renewMeters] at hadvance ⊢
  split
  · exact h
  · next hvoice =>
    rw [if_neg hvoice] at hadvance
    exact h.renewMeters hadvance

/-- How an installation of a decision `d` came from `s` to `s'`: by way of the session `s₁` that
has all rules of the control plane, and by the wiring `w`, which gave the bearer `b` its new
form `b'`. -/
structure Compiled (s : Session) (config : Config) (d : Policy.Decision) (s₁ : Session)
    (b b' : Bearer) (w : Wiring) (s' : Session) : Prop where
  bearer : s.bearer = some b
  numbered_renewed : (s.renewed config d).graph.Numbered
  grown : (s.renewed config d).graph.Grown s₁.graph
  control : s₁.fromControlPdr.isSome ∧ s₁.toControlPdr.isSome ∧ s₁.toControlFar.isSome
  created : s₁ = { s.renewed config d with
    graph := s₁.graph
    fromControlPdr := s₁.fromControlPdr
    toControlPdr := s₁.toControlPdr
    toControlFar := s₁.toControlFar }
  numbered_created : s₁.graph.Numbered
  wired : s₁.WiredBy config b (s.renewMeters config d).value.1 w b'
  qersChanged : (s₁.graph.mapRules w.pdr w.far).QersChanged s'.graph
  numbered : s'.graph.Numbered
  limited : s'.Limited b
  final : s' = { ((s₁.mapRules w.pdr w.far).setBearer b').storeQuality d with
    graph := s'.graph, ratesQer := s'.ratesQer }

/-- An installation that succeeds goes through all of its stages, unless a counter overflows. -/
theorem compiled_of_created {config : Config} {d : Policy.Decision} (h : s.graph.Numbered)
    (hok : (s.compile config d).result = .ok s') (hadvance : s.graph.CountersAdvance s'.graph) :
    ∃ s₁ b b' w, (s.renewed config d).createForwarding.result = .ok s₁ ∧
      s.Compiled config d s₁ b b' w s' := by
  obtain ⟨b, s₁, s₂, hbearer, hcreate, hwire, hlimit⟩ := result_compile.mp hok
  have hrenewed := renewed_eq h config d
  obtain ⟨hgrown, hcontrol, hcreated⟩ := grown_createForwarding hcreate
  -- Each counter is moved by one stage only, so each stage moves it forwards.
  obtain ⟨hlastPdr, hlastFar, hlastUrr⟩ := counters_limitRates hlimit
  have hbearer₁ : s₁.bearer = some b := by rw [hcreated, hbearer]
  have hcounters := RuleGraph.counters_of_outline (frame_wire hbearer₁ hwire).1
  simp only [RuleGraph.counters, Prod.mk.injEq] at hcounters
  obtain ⟨hwirePdr, hwireFar, hwireQer, hwireUrr⟩ := hcounters
  rw [graph_storeQuality] at hlastPdr hlastFar hlastUrr
  have hgrownQer : s₁.graph.lastQer = (s.renewed config d).graph.lastQer := by rw [hgrown.frame]
  have hgrownUrr : s₁.graph.lastUrr = (s.renewed config d).graph.lastUrr := by rw [hgrown.frame]
  have hA : (s.renewed config d).graph.Numbered := by
    refine numbered_renewed h ?_
    rw [← hgrownUrr, ← hwireUrr, ← hlastUrr]
    exact hadvance.urr
  have h₁ : s₁.graph.Numbered := by
    refine hgrown.numbered hA ⟨?_, ?_, ?_, ?_⟩
    · rw [hrenewed, ← hwirePdr, ← hlastPdr]
      exact hadvance.pdr
    · rw [hrenewed, ← hwireFar, ← hlastFar]
      exact hadvance.far
    · rw [hgrownQer]
      exact UInt32.le_refl _
    · rw [hgrownUrr]
      exact UInt32.le_refl _
  obtain ⟨w, b', hwired, hs₂⟩ := (result_wire h₁.distinct hbearer₁).mp hwire
  have h₂ : (s₂.storeQuality d).graph.Numbered := by
    rw [graph_storeQuality, hs₂]
    exact h₁.mapRules w.pdr_id w.far_id
  have hadvanceQer : Advances (s₂.storeQuality d).graph.lastQer s'.graph.lastQer := by
    rw [graph_storeQuality, hwireQer, hgrownQer, hrenewed]
    exact hadvance.qer
  obtain ⟨hchanged, hnumbered, hlimited, hs'⟩ := limited_limitRates h₂ hlimit hadvanceQer
  rw [graph_storeQuality, hs₂] at hchanged
  rw [hs₂] at hs'
  rw [hrenewed] at hbearer
  exact ⟨s₁, b, b', w, hcreate, hbearer, hA, hgrown, hcontrol, hcreated, h₁, hwired, hchanged,
    hnumbered, hlimited, hs'⟩

theorem compiled_of_result {config : Config} {d : Policy.Decision} (h : s.graph.Numbered)
    (hok : (s.compile config d).result = .ok s') (hadvance : s.graph.CountersAdvance s'.graph) :
    ∃ s₁ b b' w, s.Compiled config d s₁ b b' w s' := by
  obtain ⟨s₁, b, b', w, -, hcompiled⟩ := compiled_of_created h hok hadvance
  exact ⟨s₁, b, b', w, hcompiled⟩

end Session

end SessionControl
