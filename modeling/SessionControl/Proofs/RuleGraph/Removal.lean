import SessionControl.Proofs.RuleGraph.Numbering

/-!
# Removing a rule

To remove an enforcement or a reporting rule is to undo that it was added and everything that it
was associated with since, and to undo nothing else: associations of other rules may be made in
between, in any order, and stay as if the rule had never been there.

## Main definitions

- `RuleGraph.Association` — a detection rule and a rule that is applied to what it detects
- `RuleGraph.associateAll` — associations made one after the other
- `RuleGraph.without` — a graph without a rule and the associations to it
- `RuleGraph.WellFormed` — numbers are given once, and associations name rules that are there

## Main statements

- `RuleGraph.associateAll_eq_ok` — associations of rules that are there succeed
- `RuleGraph.without_applyAll` — a removal undoes the associations of its rule and no other
- `RuleGraph.remove_associateAll_add` — a rule that is added, associated and removed
-/

namespace SessionControl

namespace RuleGraph

/-- An enforcement or a reporting rule, by its number. -/
inductive AppliedRule where
  | qer (id : QerId)
  | urr (id : UrrId)
  deriving DecidableEq, Repr

/-- A detection rule, and a rule that is applied to what it detects. -/
structure Association where
  pdr : PdrId
  rule : AppliedRule
  deriving DecidableEq, Repr

namespace AppliedRule

/-- A detection rule with the rule applied to what it detects. -/
def applyTo : AppliedRule → Pdr → Pdr
  | qer id, p => { p with qers := insertLast id p.qers }
  | urr id, p => { p with urrs := insertLast id p.urrs }

/-- A detection rule without the rule. -/
def takeFrom : AppliedRule → Pdr → Pdr
  | qer id, p => { p with qers := p.qers.filter (· != id) }
  | urr id, p => { p with urrs := p.urrs.filter (· != id) }

@[simp]
theorem id_applyTo (r : AppliedRule) (p : Pdr) : (r.applyTo p).id = p.id := by
  cases r <;> rfl

@[simp]
theorem id_takeFrom (r : AppliedRule) (p : Pdr) : (r.takeFrom p).id = p.id := by
  cases r <;> rfl

theorem takeFrom_applyTo_self (r : AppliedRule) (p : Pdr) :
    r.takeFrom (r.applyTo p) = r.takeFrom p := by
  cases r <;> simp [takeFrom, applyTo, filter_insertLast_self]

/-- Taking a rule away does not touch another one. -/
theorem takeFrom_applyTo_of_ne {r r' : AppliedRule} (h : r' ≠ r) (p : Pdr) :
    r.takeFrom (r'.applyTo p) = r'.applyTo (r.takeFrom p) := by
  cases r with
  | qer id =>
    cases r' with
    | qer id' =>
      have hne : id' ≠ id := fun heq => h (by rw [heq])
      simp [takeFrom, applyTo, filter_insertLast_of_ne hne]
    | urr id' => rfl
  | urr id =>
    cases r' with
    | qer id' => rfl
    | urr id' =>
      have hne : id' ≠ id := fun heq => h (by rw [heq])
      simp [takeFrom, applyTo, filter_insertLast_of_ne hne]

end AppliedRule

/-! ## Associations -/

variable {g g' : RuleGraph}

/-- The rule is in its store. -/
def Holds (g : RuleGraph) : AppliedRule → Prop
  | .qer id => (g.qer? id).isSome
  | .urr id => (g.urr? id).isSome

instance (g : RuleGraph) (r : AppliedRule) : Decidable (g.Holds r) :=
  match r with
  | .qer id => inferInstanceAs (Decidable ((g.qer? id).isSome = true))
  | .urr id => inferInstanceAs (Decidable ((g.urr? id).isSome = true))

def associate (g : RuleGraph) (a : Association) : Except GraphFault RuleGraph :=
  match a.rule with
  | .qer id => g.associateQer a.pdr id
  | .urr id => g.associateUrr a.pdr id

/-- Makes associations one after the other. -/
def associateAll (g : RuleGraph) (as : List Association) : Except GraphFault RuleGraph :=
  as.foldlM associate g

/-- A graph after associations, if the rules are there. -/
def applyAll (g : RuleGraph) (as : List Association) : RuleGraph :=
  as.foldl (fun g a => g.updatePdr a.pdr a.rule.applyTo) g

theorem associate_eq_ok {a : Association} :
    g.associate a = .ok g' ↔
      g.Holds a.rule ∧ (g.pdr? a.pdr).isSome ∧ g' = g.updatePdr a.pdr a.rule.applyTo := by
  obtain ⟨pdr, rule⟩ := a
  cases rule with
  | qer id => exact associateQer_eq_ok
  | urr id => exact associateUrr_eq_ok

/-- Associations of rules that are there succeed. -/
theorem associateAll_eq_ok {as : List Association}
    (h : ∀ a ∈ as, g.Holds a.rule ∧ (g.pdr? a.pdr).isSome) :
    g.associateAll as = .ok (g.applyAll as) := by
  induction as generalizing g with
  | nil => rfl
  | cons a as ih =>
    obtain ⟨⟨hrule, hpdr⟩, hrest⟩ := List.forall_mem_cons.mp h
    have hfirst : g.associate a = .ok (g.updatePdr a.pdr a.rule.applyTo) :=
      associate_eq_ok.mpr ⟨hrule, hpdr, rfl⟩
    rw [associateAll, List.foldlM_cons, hfirst]
    refine ih fun b hb => ⟨?_, ?_⟩
    · -- An association leaves the stores of the rules that are applied alone.
      exact (hrest b hb).1
    · rw [isSome_pdr?_updatePdr a.rule.id_applyTo]
      exact (hrest b hb).2

/-- Associations change detection rules only. -/
theorem applyAll_eq (g : RuleGraph) (as : List Association) :
    g.applyAll as = { g with
      pdrs := as.foldl (fun ps a => updateFirst (·.id == a.pdr) a.rule.applyTo ps) g.pdrs } := by
  induction as generalizing g with
  | nil => rfl
  | cons a as ih => exact ih _

/-! ## Removals -/

/-- A graph without a rule and without the associations to it. -/
def without (g : RuleGraph) (r : AppliedRule) : RuleGraph :=
  match r with
  | .qer id => { g with qers := g.qers.eraseP (·.id == id), pdrs := g.pdrs.map r.takeFrom }
  | .urr id => { g with urrs := g.urrs.eraseP (·.id == id), pdrs := g.pdrs.map r.takeFrom }

/-- The associations of a rule are gone with it. -/
theorem without_updatePdr_self (g : RuleGraph) (pdr : PdrId) (r : AppliedRule) :
    (g.updatePdr pdr r.applyTo).without r = g.without r := by
  have hpdrs : (updateFirst (·.id == pdr) r.applyTo g.pdrs).map r.takeFrom =
      g.pdrs.map r.takeFrom := map_updateFirst (fun p _ => r.takeFrom_applyTo_self p) _
  cases r <;> simp only [without, updatePdr, hpdrs]

/-- The associations of another rule stay. -/
theorem without_updatePdr_of_ne (g : RuleGraph) (pdr : PdrId) {r r' : AppliedRule} (h : r' ≠ r) :
    (g.updatePdr pdr r'.applyTo).without r = (g.without r).updatePdr pdr r'.applyTo := by
  have hpdrs : (updateFirst (·.id == pdr) r'.applyTo g.pdrs).map r.takeFrom =
      updateFirst (·.id == pdr) r'.applyTo (g.pdrs.map r.takeFrom) :=
    map_updateFirst_comm (fun p => by rw [r.id_takeFrom]) (r.takeFrom_applyTo_of_ne h)
  cases r <;> simp only [without, updatePdr, hpdrs]

/-- A removal undoes the associations of its rule and no other. -/
theorem without_applyAll (g : RuleGraph) (r : AppliedRule) (as : List Association) :
    (g.applyAll as).without r = (g.without r).applyAll (as.filter (·.rule ≠ r)) := by
  induction as generalizing g with
  | nil => rfl
  | cons a as ih =>
    rw [applyAll, List.foldl_cons, ← applyAll, ih]
    by_cases h : a.rule = r
    · rw [List.filter_cons_of_neg (by simpa using h), ← h, without_updatePdr_self]
    · rw [List.filter_cons_of_pos (by simpa using h), without_updatePdr_of_ne _ _ h]
      rfl

theorem removeQer_eq_without {id : QerId} {q : Qer} (h : g.qer? id = some q) :
    g.removeQer id = (some q, g.without (.qer id)) := by
  rw [removeQer, h]
  rfl

theorem removeUrr_eq_without {id : UrrId} {u : Urr} (h : g.urr? id = some u) :
    g.removeUrr id = (some u, g.without (.urr id)) := by
  rw [removeUrr, h]
  rfl

/-- A rule that is not there cannot be removed, and nothing changes. -/
theorem removeQer_of_not_mem {id : QerId} (h : id ∉ g.qers.map (·.id)) :
    g.removeQer id = (none, g) := by
  have hnone : g.qer? id = none := by
    rw [← Option.not_isSome_iff_eq_none, qer?, isSome_find?_key]
    exact h
  rw [removeQer, hnone]

theorem removeUrr_of_not_mem {id : UrrId} (h : id ∉ g.urrs.map (·.id)) :
    g.removeUrr id = (none, g) := by
  have hnone : g.urr? id = none := by
    rw [← Option.not_isSome_iff_eq_none, urr?, isSome_find?_key]
    exact h
  rw [removeUrr, hnone]

/-! ## A rule that is added and removed -/

/-- No number is given twice, and each detection rule names rules that are there, once each. -/
structure WellFormed (g : RuleGraph) : Prop where
  numbered : g.Numbered
  qers_nodup : ∀ p ∈ g.pdrs, p.qers.Nodup
  qers : ∀ p ∈ g.pdrs, ∀ id ∈ p.qers, id ∈ g.qers.map (·.id)
  urrs_nodup : ∀ p ∈ g.pdrs, p.urrs.Nodup
  urrs : ∀ p ∈ g.pdrs, ∀ id ∈ p.urrs, id ∈ g.urrs.map (·.id)

/-- Nothing has been associated with a rule that is not there. -/
theorem map_takeFrom_eq_self {r : AppliedRule} (h : ∀ p ∈ g.pdrs, r.takeFrom p = p) :
    g.pdrs.map r.takeFrom = g.pdrs := by
  rw [List.map_congr_left h, List.map_id']

/-- A new enforcement rule leaves nothing behind but its number. -/
theorem WellFormed.without_addQer (h : g.WellFormed) (maximum : RatePair)
    (hadvance : Advances g.lastQer (g.lastQer + 1)) :
    (g.addQer maximum).2.without (.qer (g.addQer maximum).1) =
      { g with lastQer := g.lastQer + 1 } := by
  have hfresh : g.lastQer + 1 ∉ g.qers.map (·.id) :=
    h.numbered.qers.not_mem_of_lt (UInt32.lt_succ_of_advances hadvance)
  have hpdrs : g.pdrs.map (AppliedRule.qer (g.lastQer + 1)).takeFrom = g.pdrs := by
    refine map_takeFrom_eq_self fun p hp => ?_
    have hunused : g.lastQer + 1 ∉ p.qers := fun hid => hfresh (h.qers p hp _ hid)
    rw [AppliedRule.takeFrom, filter_bne_of_not_mem hunused]
  have hqers : (g.qers ++ [({ id := g.lastQer + 1, maximum } : Qer)]).eraseP
      (·.id == g.lastQer + 1) = g.qers := eraseP_key_concat hfresh rfl
  simp only [without, addQer, hpdrs, hqers]

/-- A new reporting rule leaves nothing behind but its number. -/
theorem WellFormed.without_addUrr (h : g.WellFormed) (ratingGroup : UInt32)
    (hadvance : Advances g.lastUrr (g.lastUrr + 1)) :
    (g.addUrr ratingGroup).2.without (.urr (g.addUrr ratingGroup).1) =
      { g with lastUrr := g.lastUrr + 1 } := by
  have hfresh : g.lastUrr + 1 ∉ g.urrs.map (·.id) :=
    h.numbered.urrs.not_mem_of_lt (UInt32.lt_succ_of_advances hadvance)
  have hpdrs : g.pdrs.map (AppliedRule.urr (g.lastUrr + 1)).takeFrom = g.pdrs := by
    refine map_takeFrom_eq_self fun p hp => ?_
    have hunused : g.lastUrr + 1 ∉ p.urrs := fun hid => hfresh (h.urrs p hp _ hid)
    rw [AppliedRule.takeFrom, filter_bne_of_not_mem hunused]
  have hurrs : (g.urrs ++ [({ id := g.lastUrr + 1, ratingGroup } : Urr)]).eraseP
      (·.id == g.lastUrr + 1) = g.urrs := eraseP_key_concat hfresh rfl
  simp only [without, addUrr, hpdrs, hurrs]

/-- A new rule and the rules of a graph are there after the addition. -/
theorem holds_addQer {r : AppliedRule} (maximum : RatePair)
    (h : r = .qer (g.addQer maximum).1 ∨ g.Holds r) : (g.addQer maximum).2.Holds r := by
  obtain rfl | h := h
  · rw [Holds, qer?, isSome_find?_key]
    simp [addQer]
  · cases r with
    | qer id =>
      rw [Holds, qer?, isSome_find?_key] at h ⊢
      rw [addQer, List.map_append]
      exact List.mem_append_left _ h
    | urr id => exact h

theorem holds_addUrr {r : AppliedRule} (ratingGroup : UInt32)
    (h : r = .urr (g.addUrr ratingGroup).1 ∨ g.Holds r) : (g.addUrr ratingGroup).2.Holds r := by
  obtain rfl | h := h
  · rw [Holds, urr?, isSome_find?_key]
    simp [addUrr]
  · cases r with
    | qer id => exact h
    | urr id =>
      rw [Holds, urr?, isSome_find?_key] at h ⊢
      rw [addUrr, List.map_append]
      exact List.mem_append_left _ h

/-- Associations of rules of a graph succeed whether or not those of a new rule are made too. -/
theorem associateAll_others {r : AppliedRule} {as : List Association}
    (h : ∀ a ∈ as, (a.rule = r ∨ g.Holds a.rule) ∧ (g.pdr? a.pdr).isSome) :
    g.associateAll (as.filter (·.rule ≠ r)) = .ok (g.applyAll (as.filter (·.rule ≠ r))) := by
  refine associateAll_eq_ok fun a ha => ?_
  obtain ⟨hmem, hne⟩ := List.mem_filter.mp ha
  obtain ⟨hrule, hpdr⟩ := h a hmem
  exact ⟨hrule.resolve_left (by simpa using hne), hpdr⟩

/-- In a well-formed graph a rule is added, associations are made, those of the new rule with any
detection rules, in any order and repeatedly, among those of rules that were there before, and the
new rule is removed. Each of these steps succeeds, unless the addition overflows the counter, which
is a fault. The removal gives the rule back as it was added and leaves exactly the graph in which
only the other associations were made, apart from the counter. A rule that is not there cannot be
removed, and nothing changes. -/
theorem remove_associateAll_add (h : g.WellFormed) (as : List Association) :
    (∀ maximum, Advances g.lastQer (g.lastQer + 1) →
      let new := (g.addQer maximum).1
      (∀ a ∈ as, (a.rule = .qer new ∨ g.Holds a.rule) ∧ (g.pdr? a.pdr).isSome) →
      ∃ g₁ g₂, (g.addQer maximum).2.associateAll as = .ok g₁ ∧
        g.associateAll (as.filter (·.rule ≠ .qer new)) = .ok g₂ ∧
        g₁.removeQer new =
          (some { id := new, maximum }, { g₂ with lastQer := g₂.lastQer + 1 })) ∧
    (∀ ratingGroup, Advances g.lastUrr (g.lastUrr + 1) →
      let new := (g.addUrr ratingGroup).1
      (∀ a ∈ as, (a.rule = .urr new ∨ g.Holds a.rule) ∧ (g.pdr? a.pdr).isSome) →
      ∃ g₁ g₂, (g.addUrr ratingGroup).2.associateAll as = .ok g₁ ∧
        g.associateAll (as.filter (·.rule ≠ .urr new)) = .ok g₂ ∧
        g₁.removeUrr new =
          (some { id := new, ratingGroup }, { g₂ with lastUrr := g₂.lastUrr + 1 })) ∧
    (∀ id, id ∉ g.qers.map (·.id) → g.removeQer id = (none, g)) ∧
    (∀ id, id ∉ g.urrs.map (·.id) → g.removeUrr id = (none, g)) := by
  refine ⟨?_, ?_, fun _ => removeQer_of_not_mem, fun _ => removeUrr_of_not_mem⟩
  · intro maximum hadvance new hall
    have hmade : (g.addQer maximum).2.associateAll as = .ok ((g.addQer maximum).2.applyAll as) :=
      associateAll_eq_ok fun a ha => ⟨holds_addQer maximum (hall a ha).1, (hall a ha).2⟩
    have hfound : ((g.addQer maximum).2.applyAll as).qer? new = some { id := new, maximum } := by
      have hfresh : g.lastQer + 1 ∉ g.qers.map (·.id) :=
        h.numbered.qers.not_mem_of_lt (UInt32.lt_succ_of_advances hadvance)
      rw [applyAll_eq]
      exact find?_key_concat hfresh rfl
    refine ⟨_, _, hmade, associateAll_others hall, ?_⟩
    rw [removeQer_eq_without hfound, without_applyAll, h.without_addQer maximum hadvance,
      applyAll_eq, applyAll_eq]
  · intro ratingGroup hadvance new hall
    have hmade : (g.addUrr ratingGroup).2.associateAll as =
        .ok ((g.addUrr ratingGroup).2.applyAll as) :=
      associateAll_eq_ok fun a ha => ⟨holds_addUrr ratingGroup (hall a ha).1, (hall a ha).2⟩
    have hfound : ((g.addUrr ratingGroup).2.applyAll as).urr? new =
        some { id := new, ratingGroup } := by
      have hfresh : g.lastUrr + 1 ∉ g.urrs.map (·.id) :=
        h.numbered.urrs.not_mem_of_lt (UInt32.lt_succ_of_advances hadvance)
      rw [applyAll_eq]
      exact find?_key_concat hfresh rfl
    refine ⟨_, _, hmade, associateAll_others hall, ?_⟩
    rw [removeUrr_eq_without hfound, without_applyAll, h.without_addUrr ratingGroup hadvance,
      applyAll_eq, applyAll_eq]

/-- A graph in which one direction is metered and the other one is limited. -/
def halfMetered : RuleGraph :=
  { pdrs := [{ id := 1, source := .access, teid := 1, far := 1, urrs := [1] },
      { id := 2, source := .core, teid := 2, far := 2, qers := [4] }]
    fars := [{ id := 1, destination := .core }, { id := 2, destination := .access }]
    qers := [{ id := 4, maximum := { uplink := 1000, downlink := 2000 } }]
    urrs := [{ id := 1, ratingGroup := 10 }]
    lastPdr := 2
    lastFar := 2
    lastQer := 4
    lastUrr := 1 }

theorem wellFormed_halfMetered : halfMetered.WellFormed where
  numbered := by constructor <;> constructor <;> simp [halfMetered]
  qers_nodup := by simp [halfMetered]
  qers := by simp [halfMetered]
  urrs_nodup := by simp [halfMetered]
  urrs := by simp [halfMetered]

/-- The other direction is metered and limited as well, while a second group is metered in both
directions for a time. -/
theorem remove_associateAll_add_halfMetered :
    ∃ g₁ g₂,
      (halfMetered.addUrr 20).2.associateAll [⟨2, .urr 2⟩, ⟨2, .urr 1⟩, ⟨1, .urr 2⟩, ⟨1, .qer 4⟩,
        ⟨2, .urr 2⟩] = .ok g₁ ∧
      halfMetered.associateAll [⟨2, .urr 1⟩, ⟨1, .qer 4⟩] = .ok g₂ ∧
      g₁.removeUrr 2 = (some { id := 2, ratingGroup := 20 }, { g₂ with lastUrr := 2 }) ∧
      halfMetered.removeUrr 3 = (none, halfMetered) := by
  obtain ⟨-, hurr, -, hmissing⟩ := remove_associateAll_add wellFormed_halfMetered
    [⟨2, .urr 2⟩, ⟨2, .urr 1⟩, ⟨1, .urr 2⟩, ⟨1, .qer 4⟩, ⟨2, .urr 2⟩]
  obtain ⟨g₁, g₂, hg₁, hg₂, hremoved⟩ := hurr 20 (by decide) (by decide)
  have hlast : g₂.lastUrr = 1 := by
    obtain rfl := Except.ok.inj hg₂
    rfl
  refine ⟨g₁, g₂, hg₁, hg₂, ?_, hmissing 3 (by decide)⟩
  rw [hlast] at hremoved
  exact hremoved

end RuleGraph

end SessionControl
