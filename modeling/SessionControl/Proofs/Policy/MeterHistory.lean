import SessionControl.Proofs.Policy.LastInstall

/-!
# The numbers of meters over a run

A meter is known to the user-plane node by its number, and reports come in under it; so a number has
to mean the same rating group for as long as the session lives. A group that stays from one
installed decision to the next keeps the number of its meter. A group that comes gets a number
beyond all that were ever given, even if it had a meter before.

## Main definitions

- `Session.MeterRun` — a run of messages with all meters that the session ever had
- `RuleGraph.Accounted` — what every run keeps of the numbers

## Main statements

- `RuleGraph.Accounted.renew` — a renewal keeps it
- `Session.stableMeters_of_meterRun` — numbers are stable over every run
-/

namespace SessionControl

open Policy (ratingGroups)
open RuleGraph (Meter)

namespace RuleGraph

variable {g g' : RuleGraph} {config : MeterConfig} {rules : List Policy.Rule} {used : List Meter}

/-! ## Numbers that are given -/

theorem lt_of_mem_numbersAfter {last id : UrrId} {n : Nat} (hroom : last.toNat + n < 2 ^ 32)
    (hid : id ∈ numbersAfter last n) : last < id := by
  induction n generalizing last with
  | zero => exact absurd hid List.not_mem_nil
  | succ n ih =>
    have hlt : last < last + 1 := lt_next_of_room (by omega)
    have hnat := UInt32.toNat_succ hlt
    rw [numbersAfter, List.mem_cons] at hid
    obtain rfl | hid := hid
    · exact hlt
    · exact UInt32.lt_trans hlt (ih (by omega) hid)

theorem pairwise_numbersAfter {last : UrrId} {n : Nat} (hroom : last.toNat + n < 2 ^ 32) :
    (numbersAfter last n).Pairwise (· < ·) :=
  (ascending_append_numbersAfter AscendingUpTo.nil hroom).ascending

/-- Where no group has two meters, a group finds its meter. -/
theorem urrOfGroup?_eq_some (hgroups : (g.urrs.map (·.ratingGroup)).Nodup) {m : Meter} :
    g.urrOfGroup? m.ratingGroup = some m.urr ↔ m ∈ g.meters := by
  rw [← map_ratingGroup_meters] at hgroups
  rw [urrOfGroup?_eq, Option.map_eq_some_iff]
  constructor
  · rintro ⟨m', hm', hurr⟩
    obtain ⟨hmem, hgroup⟩ := (find?_key_eq_some hgroups).mp hm'
    have hsame : m' = m := by
      cases m
      cases m'
      cases hgroup
      cases hurr
      rfl
    exact hsame ▸ hmem
  · intro hm
    exact ⟨m, (find?_key_eq_some hgroups).mpr ⟨hm, rfl⟩, rfl⟩

/-- A group that stays keeps the number of its meter. -/
theorem urrOfGroup?_renewMeters (config : MeterConfig) (hids : (g.urrs.map (·.id)).Nodup)
    (hgroups : (g.urrs.map (·.ratingGroup)).Nodup) {x : UInt32} (hx : x ∈ ratingGroups rules)
    (hold : x ∈ g.urrs.map (·.ratingGroup)) :
    ∃ id, g.urrOfGroup? x = some id ∧
      (g.renewMeters config rules).value.2.urrOfGroup? x = some id := by
  rw [← map_ratingGroup_meters] at hold
  obtain ⟨m, hm, rfl⟩ := List.mem_map.mp hold
  have hkept : m ∈ (g.renewMeters config rules).value.2.meters := by
    rw [(meters_renewMeters config rules hids).1]
    exact List.mem_append_left _ (List.mem_filter.mpr ⟨hm, by simpa using hx⟩)
  exact ⟨m.urr, (urrOfGroup?_eq_some hgroups).mpr hm,
    (urrOfGroup?_eq_some (nodup_urrGroups_renewMeters hids hgroups)).mpr hkept⟩

/-- The groups that come get the next numbers, in their order. -/
theorem map_urrOfGroup?_renewMeters (config : MeterConfig) (hids : (g.urrs.map (·.id)).Nodup)
    (hgroups : (g.urrs.map (·.ratingGroup)).Nodup) :
    (g.unmetered (ratingGroups rules)).map (g.renewMeters config rules).value.2.urrOfGroup? =
      (numbersAfter g.lastUrr (g.unmetered (ratingGroups rules)).length).map some := by
  obtain ⟨hnew, hnumbers⟩ := map_metersAfter g.lastUrr (g.unmetered (ratingGroups rules))
  have hfind : ∀ m ∈ metersAfter g.lastUrr (g.unmetered (ratingGroups rules)),
      (g.renewMeters config rules).value.2.urrOfGroup? m.ratingGroup = some m.urr := by
    intro m hm
    rw [urrOfGroup?_eq_some (nodup_urrGroups_renewMeters hids hgroups),
      (meters_renewMeters config rules hids).1]
    exact List.mem_append_right _ hm
  generalize metersAfter g.lastUrr (g.unmetered (ratingGroups rules)) = added
    at hnew hnumbers hfind
  rw [← hnumbers, ← hnew, List.map_map, List.map_map]
  exact List.map_congr_left hfind

/-! ## Everything that was ever used -/

/-- What every run keeps of the meters that were ever used: those of the graph are among them, no
number is beyond the counter, and no number stands for two groups. -/
structure Accounted (used : List Meter) (g : RuleGraph) : Prop where
  current : ∀ m ∈ g.meters, m ∈ used
  given : ∀ m ∈ used, m.urr ≤ g.lastUrr
  unambiguous : ∀ m ∈ used, ∀ m' ∈ used, m.urr = m'.urr → m = m'

namespace Accounted

theorem of_urrs (h : Accounted used g) (hurrs : g'.urrs = g.urrs)
    (hlast : g'.lastUrr = g.lastUrr) : Accounted used g' where
  current := by
    rw [meters, hurrs]
    exact h.current
  given := by
    rw [hlast]
    exact h.given
  unambiguous := h.unambiguous

/-- Meters that are used already may be added once more. -/
theorem again (h : Accounted used g) : Accounted (used ++ g.meters) g := by
  have hused : ∀ m ∈ used ++ g.meters, m ∈ used := fun m hm =>
    (List.mem_append.mp hm).elim (fun hm => hm) (h.current m)
  constructor
  · exact fun m hm => List.mem_append_left _ (h.current m hm)
  · exact fun m hm => h.given m (hused m hm)
  · exact fun m hm m' hm' => h.unambiguous m (hused m hm) m' (hused m' hm')

end Accounted

/-- A meter after a renewal was there before, or has a number that was never used. -/
theorem mem_meters_of_renewed (hids : (g.urrs.map (·.id)).Nodup)
    (hadvance : Advances g.lastUrr (g.renewMeters config rules).value.2.lastUrr) {m : Meter}
    (hm : m ∈ (g.renewMeters config rules).value.2.meters) : m ∈ g.meters ∨ g.lastUrr < m.urr := by
  rw [(meters_renewMeters config rules hids).1, List.mem_append] at hm
  obtain hm | hm := hm
  · exact .inl (List.mem_filter.mp hm).1
  · refine .inr (lt_of_mem_numbersAfter (room_renewMeters hids hadvance) ?_)
    rw [← (map_metersAfter _ _).2]
    exact List.mem_map_of_mem hm

/-- A renewal keeps account of all numbers, if the meters that it leaves are added to those ever
used. -/
theorem Accounted.renew (h : Accounted used g) (hnumbered : g.Numbered)
    (hadvance : Advances g.lastUrr (g.renewMeters config rules).value.2.lastUrr) :
    Accounted (used ++ (g.renewMeters config rules).value.2.meters)
      (g.renewMeters config rules).value.2 := by
  have hids' := (hnumbered.renewMeters hadvance).urrs
  rw [← map_urr_meters] at hids'
  have hnew := @mem_meters_of_renewed g config rules hnumbered.urrs.nodup hadvance
  generalize (g.renewMeters config rules).value.2 = g' at hadvance hids' hnew ⊢
  -- A number that was used is not the one of a meter that came.
  have hmixed : ∀ m ∈ used, ∀ m' ∈ g'.meters, m.urr = m'.urr → m = m' := by
    intro m hm m' hm' hurr
    obtain hold | hlt := hnew hm'
    · exact h.unambiguous m hm m' (h.current m' hold) hurr
    · rw [← hurr] at hlt
      exact absurd (h.given m hm) (UInt32.not_le.mpr hlt)
  constructor
  · exact fun m hm => List.mem_append_right _ hm
  · intro m hm
    obtain hm | hm := List.mem_append.mp hm
    · exact UInt32.le_trans (h.given m hm) hadvance
    · exact hids'.le _ (List.mem_map_of_mem hm)
  · intro m hm m' hm' hurr
    obtain hm | hm := List.mem_append.mp hm <;> obtain hm' | hm' := List.mem_append.mp hm'
    · exact h.unambiguous m hm m' hm' hurr
    · exact hmixed m hm m' hm' hurr
    · exact (hmixed m' hm' m hm hurr.symm).symm
    · exact List.inj_on_of_nodup_map hids'.nodup hm hm' hurr

end RuleGraph

namespace Session

variable {s s' s₀ : Session} {config : Config} {installed : Option Policy.Decision}
  {used : List Meter} {m : Policy.Message} {answer : Option UInt32}

/-- An accepted message does to the reporting rules what a renewal of the meters does. -/
theorem renewed_of_accepts (hvoice : s.isFor config.voiceNetwork = false)
    (hnumbered : s.graph.Numbered) (haccepts : s.accepts config m = true)
    (hok : (s.handlePolicy config m).result = .ok (answer, s'))
    (hadvance : s.graph.CountersAdvance s'.graph) :
    s'.graph.urrs = (s.graph.renewMeters config.meter m.decision.rules).value.2.urrs ∧
      s'.graph.lastUrr = (s.graph.renewMeters config.meter m.decision.rules).value.2.lastUrr := by
  obtain ⟨s₁, b, b', w, hcompiled⟩ :=
    compiled_of_result hnumbered (handlePolicy_of_accepts hok haccepts) hadvance
  rw [hcompiled.urrs, hcompiled.lastUrr, renewed, value_renewMeters hvoice]
  exact ⟨rfl, rfl⟩

/-- A run of messages of the policy server from `s₀` to `s`, none of which ends in a fault or makes
a counter overflow, with the decision that was installed last and all meters that the session ever
had: those at the start, and those after each message. -/
inductive MeterRun (config : Config) (s₀ : Session) :
    Option Policy.Decision → List Meter → Session → Prop
  | start : MeterRun config s₀ none s₀.graph.meters s₀
  | handle {installed : Option Policy.Decision} {used : List Meter} {s s' : Session}
      {m : Policy.Message} {answer : Option UInt32} (hrun : MeterRun config s₀ installed used s)
      (hok : (s.handlePolicy config m).result = .ok (answer, s'))
      (hadvance : s.graph.CountersAdvance s'.graph) :
      MeterRun config s₀ (if s.accepts config m then some m.decision else installed)
        (used ++ s'.graph.meters) s'

theorem MeterRun.policyRun (hrun : MeterRun config s₀ installed used s) :
    PolicyRun config s₀ installed s := by
  induction hrun with
  | start => exact .start
  | handle hrun hok hadvance ih => exact ih.handle hok hadvance

/-- Every message keeps account of the numbers. -/
theorem accounted_handlePolicy (hcharged : Charged config installed s)
    (h : s.graph.Accounted used) (hok : (s.handlePolicy config m).result = .ok (answer, s'))
    (hadvance : s.graph.CountersAdvance s'.graph) :
    s'.graph.Accounted (used ++ s'.graph.meters) := by
  cases haccepts : s.accepts config m with
  | true =>
    obtain ⟨hurrs, hlast⟩ :=
      renewed_of_accepts hcharged.voice hcharged.numbered haccepts hok hadvance
    have hadvance := hadvance.urr
    rw [hlast] at hadvance
    rw [RuleGraph.meters, hurrs]
    exact (h.renew hcharged.numbered hadvance).of_urrs hurrs hlast
  | false =>
    rw [handlePolicy_of_not_accepts hok haccepts]
    exact h.again

/-- An established session has no meters yet. -/
theorem Established.accounted (h : s.Established) : s.graph.Accounted s.graph.meters := by
  obtain ⟨⟨base, hgraph⟩, -⟩ := h.rules_eq
  rw [hgraph]
  constructor
  · exact fun m hm => hm
  · exact fun m hm => absurd hm List.not_mem_nil
  · exact fun m hm => absurd hm List.not_mem_nil

theorem MeterRun.accounted (hs₀ : s₀.Established)
    (hvoice : s₀.isFor config.voiceNetwork = false)
    (hrun : MeterRun config s₀ installed used s) : s.graph.Accounted used := by
  induction hrun with
  | start => exact hs₀.accounted
  | handle hrun hok hadvance ih =>
    exact accounted_handlePolicy (hrun.policyRun.charged hs₀ hvoice) ih hok hadvance

/-- The numbers of meters are stable over every run of messages from an established session that is
not exempt from charging. No number ever stands for two rating groups. If the next message is
accepted, a group that is in its decision and in the one installed before it keeps the number of its
meter. The groups that are not in the decision installed before it, in the order of their first
occurrence, get ascending numbers, each of them beyond all that the session ever had; so a group
that was dropped and returns gets a number that it never had. -/
theorem stableMeters_of_meterRun (hs₀ : s₀.Established)
    (hvoice : s₀.isFor config.voiceNetwork = false)
    (hrun : MeterRun config s₀ installed used s) :
    (∀ x ∈ used, ∀ y ∈ used, x.urr = y.urr → x.ratingGroup = y.ratingGroup) ∧
    ∀ m answer s', s.accepts config m = true →
      (s.handlePolicy config m).result = .ok (answer, s') →
      s.graph.CountersAdvance s'.graph →
      let before := ratingGroups (installedRules installed)
      let groups := ratingGroups m.decision.rules
      (∀ x ∈ groups, x ∈ before →
        ∃ id, s.graph.urrOfGroup? x = some id ∧ s'.graph.urrOfGroup? x = some id) ∧
      ∃ ids : List UrrId,
        (groups.filter (· ∉ before)).map s'.graph.urrOfGroup? = ids.map some ∧
        ids.Pairwise (· < ·) ∧ ∀ id ∈ ids, ∀ x ∈ used, x.urr < id := by
  have hcharged := hrun.policyRun.charged hs₀ hvoice
  have haccounted := hrun.accounted hs₀ hvoice
  refine ⟨fun x hx y hy hurr => by rw [haccounted.unambiguous x hx y hy hurr], ?_⟩
  intro m answer s' haccepts hok hadvance before groups
  have hids := hcharged.numbered.urrs.nodup
  obtain ⟨b, -, hmeters⟩ := hcharged.meters
  obtain ⟨hurrs, hlast⟩ :=
    renewed_of_accepts hcharged.voice hcharged.numbered haccepts hok hadvance
  have hfind : s'.graph.urrOfGroup? =
      (s.graph.renewMeters config.meter m.decision.rules).value.2.urrOfGroup? := by
    funext x
    rw [RuleGraph.urrOfGroup?, hurrs]
    rfl
  -- The groups of the last decision are those that have a meter.
  have hbefore : ∀ x, x ∈ s.graph.urrs.map (·.ratingGroup) ↔ x ∈ before := fun x =>
    (hmeters.mem_groups x).trans mem_ratingGroups.symm
  have hnew : groups.filter (· ∉ before) = s.graph.unmetered groups :=
    List.filter_congr fun x _ => by simp only [hbefore]
  have hroom := RuleGraph.room_renewMeters hids (hlast ▸ hadvance.urr)
  rw [hfind, hnew]
  refine ⟨fun x hx hold => RuleGraph.urrOfGroup?_renewMeters config.meter hids
    hmeters.groups_nodup hx ((hbefore x).mpr hold), _,
    RuleGraph.map_urrOfGroup?_renewMeters config.meter hids hmeters.groups_nodup,
    RuleGraph.pairwise_numbersAfter hroom, fun id hid x hx => ?_⟩
  exact UInt32.lt_of_le_of_lt (haccounted.given x hx) (RuleGraph.lt_of_mem_numbersAfter hroom hid)

/-- A group is dropped and returns, behind one that is new. -/
theorem stableMeters_of_meterRun_returning :
    ∃ used s s', MeterRun {} attached (some (metering [20]).decision) used s ∧
      (s.handlePolicy {} (metering [30, 10, 20])).result = .ok (some 2001, s') ∧
      ⟨10, 1⟩ ∈ used ∧ ⟨20, 2⟩ ∈ used ∧
      (∃ id, s.graph.urrOfGroup? 20 = some id ∧ s'.graph.urrOfGroup? 20 = some id) ∧
      ∃ ids : List UrrId, [30, 10].map s'.graph.urrOfGroup? = ids.map some ∧
        ids.Pairwise (· < ·) ∧ ∀ id ∈ ids, ∀ x ∈ used, x.urr < id := by
  let s₁ := attached.afterPolicy {} (metering [10, 20])
  let s₂ := s₁.afterPolicy {} (metering [20])
  let s₃ := s₂.afterPolicy {} (metering [30, 10, 20])
  have hok₁ : (attached.handlePolicy {} (metering [10, 20])).result = .ok (some 2001, s₁) := by
    decide +kernel
  have hok₂ : (s₁.handlePolicy {} (metering [20])).result = .ok (some 2001, s₂) := by
    decide +kernel
  have hok₃ : (s₂.handlePolicy {} (metering [30, 10, 20])).result = .ok (some 2001, s₃) := by
    decide +kernel
  have hrun := (MeterRun.start.handle hok₁ (by constructor <;> decide +kernel)).handle hok₂
    (by constructor <;> decide +kernel)
  have haccepts : s₁.accepts {} (metering [20]) = true := by decide +kernel
  rw [if_pos haccepts] at hrun
  obtain ⟨-, hnext⟩ := stableMeters_of_meterRun established_attached rfl hrun
  obtain ⟨hstays, ids, hids, hascending, hfresh⟩ := hnext (metering [30, 10, 20]) (some 2001) s₃
    (by decide +kernel) hok₃ (by constructor <;> decide +kernel)
  exact ⟨_, s₂, s₃, hrun, hok₃, by decide +kernel, by decide +kernel,
    hstays 20 (by decide) (by decide), ids, hids, hascending, hfresh⟩

end Session

end SessionControl
