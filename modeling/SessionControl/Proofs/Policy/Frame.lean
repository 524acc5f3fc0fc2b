import SessionControl.Proofs.Policy.Install

/-!
# What an installation leaves alone

The stages of an installation before the last one do not touch the enforcement rules, and each
detection rule keeps those that are applied to it. Apart from its graph, a stage changes the part of
the session that it is there for. All of this holds of any session, whether or not a number of a
rule is given twice.

## Main definitions

- `RuleGraph.limits` — the enforcement rules, and which of them apply to which detection rule
- `RuleGraph.UrrsChanged` — nothing changes but reporting rules and the associations to them

## Main statements

- `Session.frame_renewed`, `Session.frame_limitRates` — what the first and the last stage keep
- `Session.stored_compile`, `Session.frame_compile` — what a whole installation stores, and what it
  keeps
-/

namespace SessionControl

open Attempt
open RuleGraph (Meter)

namespace RuleGraph

/-- The enforcement rules that are applied to each detection rule. -/
def applied (g : RuleGraph) : List (PdrId × List QerId) :=
  g.pdrs.map fun p => (p.id, p.qers)

/-- The enforcement rules, which of them are applied to each detection rule, and the last number
of a detection rule. -/
def limits (g : RuleGraph) : List Qer × List (PdrId × List QerId) × PdrId :=
  (g.qers, g.applied, g.lastPdr)

variable {g g' g'' : RuleGraph}

theorem limits_of_outline (h : g'.outline = g.outline) : g'.limits = g.limits := by
  have hlimits : ∀ g : RuleGraph, g.outline.limits = g.limits := by
    intro g
    simp [limits, applied, outline, mapRules, Pdr.outline]
  rw [← hlimits g', h, hlimits g]

/-- Nothing changes but reporting rules and the associations to them. -/
def UrrsChanged (g g' : RuleGraph) : Prop :=
  ∃ onUrrs : Pdr → List UrrId, g' = { g with
    urrs := g'.urrs
    lastUrr := g'.lastUrr
    pdrs := g.pdrs.map fun p => { p with urrs := onUrrs p } }

namespace UrrsChanged

theorem of_urrs (urrs : List Urr) (lastUrr : UrrId) : g.UrrsChanged { g with urrs, lastUrr } := by
  refine ⟨(·.urrs), ?_⟩
  rw [List.map_id']

theorem trans (h : g.UrrsChanged g') (h' : g'.UrrsChanged g'') : g.UrrsChanged g'' := by
  obtain ⟨onUrrs, h⟩ := h
  obtain ⟨onUrrs', h'⟩ := h'
  refine ⟨fun p => onUrrs' { p with urrs := onUrrs p }, ?_⟩
  rw [h', h, List.map_map]
  rfl

theorem limits (h : g.UrrsChanged g') : g'.limits = g.limits := by
  obtain ⟨onUrrs, h⟩ := h
  rw [h]
  simp [RuleGraph.limits, applied]

end UrrsChanged

theorem urrsChanged_removeUrr (g : RuleGraph) (id : UrrId) : g.UrrsChanged (g.removeUrr id).2 := by
  rw [removeUrr]
  cases g.urr? id with
  | none => exact .of_urrs _ _
  | some u => exact ⟨fun p => p.urrs.filter (· != id), rfl⟩

theorem urrsChanged_removeStaleMeters (g : RuleGraph) (groups : List UInt32) :
    g.UrrsChanged (g.removeStaleMeters groups).value := by
  rw [removeStaleMeters, Traced.value_foldlM]
  generalize g.staleMeters groups = ids
  induction ids generalizing g with
  | nil => exact .of_urrs _ _
  | cons id ids ih =>
    rw [List.foldl_cons, value_removeMeter]
    exact (g.urrsChanged_removeUrr id).trans (ih _)

theorem urrsChanged_renewMeters (g : RuleGraph) (config : MeterConfig)
    (rules : List Policy.Rule) : g.UrrsChanged (g.renewMeters config rules).value.2 := by
  refine (g.urrsChanged_removeStaleMeters (Policy.ratingGroups rules)).trans ?_
  -- What is added and set after the removals is in the store of the reporting rules.
  have hframe := (renewal_installMeters config rules (Policy.ratingGroups rules)
    (g.removeStaleMeters (Policy.ratingGroups rules)).value).1.frame
  rw [renewMeters, Traced.value_bind, hframe]
  exact .of_urrs _ _

end RuleGraph

namespace Session

variable {s s' : Session} {config : Config} {d : Policy.Decision} {b : Bearer} {ms : List Meter}

/-- Renewing the meters and storing the rules of a decision. -/
theorem frame_renewed (s : Session) (config : Config) (d : Policy.Decision) :
    s.graph.UrrsChanged (s.renewed config d).graph ∧
      s.renewed config d = { s with rules := d.rules, graph := (s.renewed config d).graph } := by
  rw [renewed, renewMeters]
  split
  · exact ⟨.of_urrs _ _, rfl⟩
  · exact ⟨s.graph.urrsChanged_renewMeters config.meter d.rules, rfl⟩

/-- Limiting the rates changes the graph and which rule limits them. -/
theorem frame_limitRates (hok : (s.limitRates b).result = .ok s') :
    s' = { s with graph := s'.graph, ratesQer := s'.ratesQer } := by
  cases hzero : s.rates.isZero with
  | true =>
    rw [limitRates, if_pos hzero, result_pure, Except.ok.injEq] at hok
    obtain ⟨-, -, hnone, hs⟩ := dropRatesQer_eq s
    rw [hok] at hnone hs
    rw [hnone]
    exact hs
  | false =>
    obtain ⟨g, -, rfl⟩ := (result_limitRates_of_pos hzero).mp hok
    rw [(ensureRatesQer_frame s).2.2]

/-- An installation stores the rules, the rates and the quality of its decision. Apart from that it
changes the default bearer and the packet rules. -/
theorem stored_compile (hok : (s.compile config d).result = .ok s') :
    s' = { s.storeQuality d with
      rules := d.rules
      graph := s'.graph
      bearer := s'.bearer
      fromControlPdr := s'.fromControlPdr
      toControlPdr := s'.toControlPdr
      toControlFar := s'.toControlFar
      ratesQer := s'.ratesQer } := by
  obtain ⟨b, s₁, s₂, hbearer, hcreate, hwire, hlimit⟩ := result_compile.mp hok
  obtain ⟨-, -, hcreated⟩ := grown_createForwarding hcreate
  obtain ⟨-, hrenewed⟩ := s.frame_renewed config d
  have hbearer₁ : s₁.bearer = some b := by rw [hcreated, hbearer]
  obtain ⟨-, localEnd, hwired⟩ := frame_wire hbearer₁ hwire
  have hs₂ : s₂ = { s with
      rules := d.rules
      graph := s₂.graph
      bearer := s₂.bearer
      fromControlPdr := s₂.fromControlPdr
      toControlPdr := s₂.toControlPdr
      toControlFar := s₂.toControlFar } := by
    rw [hwired, hcreated, hrenewed]
  have hquality : s₂.storeQuality d = { s.storeQuality d with
      rules := d.rules
      graph := s₂.graph
      bearer := s₂.bearer
      fromControlPdr := s₂.fromControlPdr
      toControlPdr := s₂.toControlPdr
      toControlFar := s₂.toControlFar } := by
    rw [storeQuality_eq, storeQuality_eq, hs₂]
  rw [frame_limitRates hlimit, hquality]

/-- An installation changes the policy of a session, its default bearer and its packet rules. -/
theorem frame_compile (hok : (s.compile config d).result = .ok s') :
    s' = { s with
      rates := s'.rates
      qos := s'.qos
      rules := s'.rules
      graph := s'.graph
      bearer := s'.bearer
      fromControlPdr := s'.fromControlPdr
      toControlPdr := s'.toControlPdr
      toControlFar := s'.toControlFar
      ratesQer := s'.ratesQer
      changed := s'.changed } := by
  have hstored := stored_compile hok
  rw [storeQuality_eq] at hstored
  rw [hstored]

/-- An installation stores the rules of its decision. -/
theorem rules_compile (hok : (s.compile config d).result = .ok s') : s'.rules = d.rules := by
  rw [stored_compile hok]

end Session

end SessionControl
