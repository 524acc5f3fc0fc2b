import SessionControl.Policy.Meters
import SessionControl.Proofs.RuleGraph.Numbering
import SessionControl.Proofs.Trace.Result
import Mathlib.Data.Finset.Card
import Mathlib.Order.Interval.Finset.Nat

/-!
# The meters of a rule graph

Renewing the meters of a graph removes those of groups that are gone, keeps those of groups that
are still there and adds the missing ones. Nothing but reporting rules and the associations to
removed ones is touched, and renewing a second time changes nothing.

## Main definitions

- `RuleGraph.meters` — the reporting rules of a graph as meters
- `RuleGraph.Metered` — a group is metered by a reporting rule with the configured thresholds
- `RuleGraph.Renewal` — what adding and setting meters does to a graph

## Main statements

- `mem_ratingGroups`, `nodup_ratingGroups` — the groups that rules need meters for
- `RuleGraph.value_removeStaleMeters` — removing stale meters filters rules and associations
- `RuleGraph.renewal_installMeters` — adding and setting meters is a renewal
- `RuleGraph.value_renewMeters_of_settled` — renewing settled meters changes nothing
-/

namespace SessionControl

open Policy (Rule noteGroup ratingGroups)

/-! ## Rating groups -/

section RatingGroups

theorem foldl_noteGroup (rules : List Rule) (known : List UInt32) :
    rules.foldl noteGroup known =
      insertAll ((rules.map (·.ratingGroup)).filter (· != 0)) known := by
  induction rules generalizing known with
  | nil => rfl
  | cons r rules ih =>
    rw [List.foldl_cons, ih, noteGroup, List.map_cons, List.filter_cons]
    by_cases hzero : r.ratingGroup = 0
    · simp [hzero]
    · simp [hzero]

theorem mem_ratingGroups {rules : List Rule} {x : UInt32} :
    x ∈ ratingGroups rules ↔ x ≠ 0 ∧ ∃ r ∈ rules, r.ratingGroup = x := by
  rw [ratingGroups, foldl_noteGroup, mem_insertAll, List.mem_filter, List.mem_map]
  simp [and_comm]

theorem nodup_ratingGroups (rules : List Rule) : (ratingGroups rules).Nodup := by
  rw [ratingGroups, foldl_noteGroup]
  exact nodup_insertAll List.nodup_nil

/-- There are fewer groups than numbers for their meters, since zero is no group. -/
theorem length_ratingGroups_lt (rules : List Rule) : (ratingGroups rules).length < 2 ^ 32 := by
  have hnodup : ((ratingGroups rules).map UInt32.toNat).Nodup :=
    (nodup_ratingGroups rules).map fun _ _ => UInt32.toNat_inj.mp
  have hsub : ((ratingGroups rules).map UInt32.toNat).toFinset ⊆ Finset.Ico 1 (2 ^ 32) := by
    intro n hn
    rw [List.mem_toFinset, List.mem_map] at hn
    obtain ⟨x, hx, rfl⟩ := hn
    have hne : x.toNat ≠ 0 := fun h => (mem_ratingGroups.mp hx).1 (UInt32.toNat_inj.mp h)
    have hlt : x.toNat < 2 ^ 32 := x.toNat_lt
    rw [Finset.mem_Ico]
    omega
  have hcard := Finset.card_le_card hsub
  rw [List.toFinset_card_of_nodup hnodup, List.length_map, Nat.card_Ico] at hcard
  omega

end RatingGroups

namespace RuleGraph

theorem lt_next_of_room {last : UrrId} (hroom : last.toNat + 1 < 2 ^ 32) : last < last + 1 := by
  rw [UInt32.lt_iff_toNat_lt, UInt32.toNat_add, UInt32.toNat_one]
  omega

/-- A counter that is not behind after fewer steps than there are numbers has not wrapped. -/
theorem room_of_le {last : UrrId} {n : Nat} (hn : n < 2 ^ 32)
    (h : last ≤ last + UInt32.ofNat n) : last.toNat + n < 2 ^ 32 := by
  rw [UInt32.le_iff_toNat_le, UInt32.toNat_add, UInt32.toNat_ofNat'] at h
  omega

/-! ## Removing stale meters -/

theorem value_removeMeter (g : RuleGraph) (id : UrrId) :
    (g.removeMeter id).value = (g.removeUrr id).2 := by
  rw [removeMeter]
  split
  · next h => rw [h]; rfl
  · next h => rw [h]; rfl

/-- The graph without some reporting rules and without the associations to them. -/
def withoutUrrs (g : RuleGraph) (ids : List UrrId) : RuleGraph :=
  { g with
    urrs := g.urrs.filter (·.id ∉ ids)
    pdrs := g.pdrs.map fun p => { p with urrs := p.urrs.filter (· ∉ ids) } }

theorem removeUrr_eq (g : RuleGraph) (hnodup : (g.urrs.map (·.id)).Nodup) {id : UrrId}
    (hid : id ∈ g.urrs.map (·.id)) : (g.removeUrr id).2 = g.withoutUrrs [id] := by
  have hsome : (g.urr? id).isSome := isSome_find?_key.mpr hid
  obtain ⟨u, hu⟩ := Option.isSome_iff_exists.mp hsome
  rw [removeUrr, hu]
  simp only [withoutUrrs]
  rw [eraseP_eq_filter hnodup]
  simp [bne, beq_eq_decide]

theorem foldl_removeUrr {ids : List UrrId} (hids : ids.Nodup) (g : RuleGraph)
    (hnodup : (g.urrs.map (·.id)).Nodup) (hsub : ∀ id ∈ ids, id ∈ g.urrs.map (·.id)) :
    ids.foldl (fun g id => (g.removeUrr id).2) g = g.withoutUrrs ids := by
  induction ids generalizing g with
  | nil => simp [withoutUrrs]
  | cons id ids ih =>
    obtain ⟨hfresh, hrest⟩ := List.nodup_cons.mp hids
    rw [List.foldl_cons, removeUrr_eq g hnodup (hsub id List.mem_cons_self)]
    have hnodup' : ((g.withoutUrrs [id]).urrs.map (·.id)).Nodup :=
      hnodup.sublist (List.filter_sublist.map _)
    -- The other rules are still there, since the numbers to remove are distinct.
    have hsub' : ∀ i ∈ ids, i ∈ (g.withoutUrrs [id]).urrs.map (·.id) := by
      intro i hi
      obtain ⟨u, hu, hui⟩ := List.mem_map.mp (hsub i (List.mem_cons_of_mem id hi))
      have hne : u.id ≠ id := by
        rw [hui]
        rintro rfl
        exact hfresh hi
      exact List.mem_map.mpr ⟨u, List.mem_filter.mpr ⟨hu, by simpa using hne⟩, hui⟩
    rw [ih hrest _ hnodup' hsub']
    simp only [withoutUrrs, List.filter_filter, List.map_map, Function.comp_def, List.mem_cons,
      not_or, List.mem_nil_iff, not_false_eq_true, and_true]
    simp [Bool.and_comm]

theorem mem_staleMeters {g : RuleGraph} (hnodup : (g.urrs.map (·.id)).Nodup) {u : Urr}
    (hu : u ∈ g.urrs) {groups : List UInt32} :
    u.id ∈ g.staleMeters groups ↔ u.ratingGroup ∉ groups := by
  rw [staleMeters, List.mem_map]
  constructor
  · rintro ⟨v, hv, hid⟩
    obtain ⟨hmem, hstale⟩ := List.mem_filter.mp hv
    have hvu : v = u := List.inj_on_of_nodup_map hnodup hmem hu hid
    rw [← hvu]
    simpa using hstale
  · intro hgone
    exact ⟨u, List.mem_filter.mpr ⟨hu, by simpa using hgone⟩, rfl⟩

/-- Removing stale meters keeps the reporting rules of the groups that are still there, and
removes the associations to the others. -/
theorem value_removeStaleMeters {g : RuleGraph} (hnodup : (g.urrs.map (·.id)).Nodup)
    (groups : List UInt32) :
    (g.removeStaleMeters groups).value = g.withoutUrrs (g.staleMeters groups) := by
  have hstale : (g.staleMeters groups).Sublist (g.urrs.map (·.id)) := List.filter_sublist.map _
  rw [removeStaleMeters, Traced.value_foldlM]
  simp only [value_removeMeter]
  exact foldl_removeUrr (hnodup.sublist hstale) g hnodup fun id hid => hstale.subset hid

theorem urrs_withoutUrrs_staleMeters {g : RuleGraph} (hnodup : (g.urrs.map (·.id)).Nodup)
    (groups : List UInt32) :
    (g.withoutUrrs (g.staleMeters groups)).urrs =
      g.urrs.filter (groups.contains ·.ratingGroup) := by
  refine List.filter_congr fun u hu => ?_
  have hiff : u.id ∈ g.staleMeters groups ↔ u.ratingGroup ∉ groups := mem_staleMeters hnodup hu
  by_cases hgroup : u.ratingGroup ∈ groups
  · simp [hgroup, hiff]
  · simp [hgroup, hiff]

theorem value_removeStaleMeters_of_subset {g : RuleGraph} {groups : List UInt32}
    (h : ∀ u ∈ g.urrs, u.ratingGroup ∈ groups) : (g.removeStaleMeters groups).value = g := by
  have hnone : g.staleMeters groups = [] := by
    rw [staleMeters, List.map_eq_nil_iff, List.filter_eq_nil_iff]
    intro u hu
    simp [h u hu]
  rw [removeStaleMeters, hnone]
  rfl

/-! ## Adding and setting meters -/

/-- A group is metered by the reporting rule that a meter names: it is the first one of the
group, and the rule with its number has the configured thresholds. -/
structure Metered (g : RuleGraph) (config : MeterConfig) (m : Meter) : Prop where
  first : g.urrOfGroup? m.ratingGroup = some m.urr
  settled : ∃ u, g.urr? m.urr = some u ∧ meterSettings config u = u

theorem Metered.of_urrs {g g' : RuleGraph} {config : MeterConfig} {m : Meter}
    (h : g.Metered config m) (hurrs : g'.urrs = g.urrs) : g'.Metered config m := by
  obtain ⟨hfirst, u, hu, hset⟩ := h
  refine ⟨?_, u, ?_, hset⟩
  · rw [urrOfGroup?, hurrs]
    exact hfirst
  · rw [urr?, hurrs]
    exact hu

/-- What adding reporting rules of `groups` and setting the meters `ms` does to a graph. Only
reporting rules are touched; those that were there stay where they are, and each new one has the
next number. -/
structure Renewal (config : MeterConfig) (groups : List UInt32) (g g' : RuleGraph)
    (ms : List Meter) : Prop where
  frame : g' = { g with urrs := g'.urrs, lastUrr := g'.lastUrr }
  urrGroups : g'.urrs.map (·.ratingGroup) = insertAll groups (g.urrs.map (·.ratingGroup))
  ids : g.urrs.map (·.id) <+: g'.urrs.map (·.id)
  metered : ∀ m ∈ ms, g'.Metered config m
  kept : ∀ m, g.Metered config m → g'.Metered config m
  counted : ∃ added, added ≤ groups.length ∧ g'.lastUrr = g.lastUrr + UInt32.ofNat added ∧
    (g.lastUrr.toNat + added < 2 ^ 32 → DistinctUpTo g.lastUrr (g.urrs.map (·.id)) →
      DistinctUpTo g'.lastUrr (g'.urrs.map (·.id)))

namespace Renewal

variable {config : MeterConfig} {groups groups' : List UInt32} {g g' g'' : RuleGraph}
  {ms ms' : List Meter}

theorem refl : Renewal config [] g g [] where
  frame := rfl
  urrGroups := rfl
  ids := List.prefix_rfl
  metered _ hm := absurd hm List.not_mem_nil
  kept _ h := h
  counted := ⟨0, Nat.le_refl 0, (UInt32.add_zero _).symm, fun _ h => h⟩

theorem trans (h : Renewal config groups g g' ms) (h' : Renewal config groups' g' g'' ms') :
    Renewal config (groups ++ groups') g g'' (ms ++ ms') where
  frame := by rw [h'.frame, h.frame]
  urrGroups := by rw [h'.urrGroups, h.urrGroups, insertAll_append]
  ids := h.ids.trans h'.ids
  metered m hm := by
    obtain hm | hm := List.mem_append.mp hm
    · exact h'.kept m (h.metered m hm)
    · exact h'.metered m hm
  kept m hm := h'.kept m (h.kept m hm)
  counted := by
    obtain ⟨added, hle, hlast, hdistinct⟩ := h.counted
    obtain ⟨added', hle', hlast', hdistinct'⟩ := h'.counted
    refine ⟨added + added', ?_, ?_, ?_⟩
    · rw [List.length_append]
      omega
    · rw [hlast', hlast, UInt32.ofNat_add, UInt32.add_assoc]
    · intro hroom hids
      -- There is room for all additions, so the counter has not wrapped after the first ones.
      have hnat : g'.lastUrr.toNat = g.lastUrr.toNat + added := by
        rw [hlast, UInt32.toNat_add, UInt32.toNat_ofNat']
        omega
      exact hdistinct' (by omega) (hdistinct (by omega) hids)

end Renewal

/-- The reporting rules of a graph as meters, without their settings. -/
def meters (g : RuleGraph) : List Meter :=
  g.urrs.map fun u => ⟨u.ratingGroup, u.id⟩

theorem urrOfGroup?_eq (g : RuleGraph) (x : UInt32) :
    g.urrOfGroup? x = (g.meters.find? (·.ratingGroup == x)).map (·.urr) := by
  rw [urrOfGroup?, meters, List.find?_map, Option.map_map]
  rfl

theorem map_urr_meters (g : RuleGraph) : g.meters.map (·.urr) = g.urrs.map (·.id) :=
  List.map_map

theorem map_ratingGroup_meters (g : RuleGraph) :
    g.meters.map (·.ratingGroup) = g.urrs.map (·.ratingGroup) :=
  List.map_map

/-- A rule keeps its number and its group when its thresholds are set. -/
theorem meters_updateUrr (config : MeterConfig) (g : RuleGraph) (id : UrrId) :
    (g.updateUrr id (meterSettings config)).meters = g.meters := by
  rw [meters, updateUrr, map_updateFirst]
  · rfl
  · exact fun _ _ => rfl

theorem isSome_urrOfGroup? {g : RuleGraph} {x : UInt32} :
    (g.urrOfGroup? x).isSome ↔ x ∈ g.urrs.map (·.ratingGroup) := by
  rw [urrOfGroup?, Option.isSome_map, isSome_find?_key]

theorem isSome_urr?_of_urrOfGroup? {g : RuleGraph} {x : UInt32} {id : UrrId}
    (h : g.urrOfGroup? x = some id) : (g.urr? id).isSome := by
  rw [urrOfGroup?, Option.map_eq_some_iff] at h
  obtain ⟨u, hu, hid⟩ := h
  rw [urr?, isSome_find?_key, ← hid]
  exact List.mem_map_of_mem (List.mem_of_find?_eq_some hu)

/-- Setting the thresholds of the first reporting rule of a group makes it the meter of the
group, and keeps every other meter. -/
theorem renewal_updateUrr (config : MeterConfig) {g : RuleGraph} {x : UInt32} {id : UrrId}
    (h : g.urrOfGroup? x = some id) :
    Renewal config [] g (g.updateUrr id (meterSettings config)) [⟨x, id⟩] := by
  have hmeters := meters_updateUrr config g id
  have hids : (g.updateUrr id (meterSettings config)).urrs.map (·.id) = g.urrs.map (·.id) := by
    rw [← map_urr_meters, hmeters, map_urr_meters]
  -- Every group finds the rule it found before.
  have hfirst : ∀ y, (g.updateUrr id (meterSettings config)).urrOfGroup? y =
      g.urrOfGroup? y := by
    intro y
    rw [urrOfGroup?_eq, urrOfGroup?_eq, hmeters]
  have hfind : ∀ j, (g.updateUrr id (meterSettings config)).urr? j =
      (g.urr? j).map fun u => if u.id = id then meterSettings config u else u :=
    find?_key_updateFirst (f := meterSettings config) (fun _ => rfl) id
  obtain ⟨u, hu⟩ := Option.isSome_iff_exists.mp (isSome_urr?_of_urrOfGroup? h)
  have huid : u.id = id := by simpa using List.find?_some hu
  exact {
    frame := rfl
    urrGroups := by rw [← map_ratingGroup_meters, hmeters, map_ratingGroup_meters]; rfl
    ids := by rw [hids]
    metered := by
      intro m hm
      obtain rfl := List.mem_singleton.mp hm
      refine ⟨(hfirst x).trans h, meterSettings config u, ?_, rfl⟩
      rw [hfind, hu, Option.map_some, if_pos huid]
    kept := by
      rintro m ⟨hm, v, hv, hset⟩
      refine ⟨(hfirst _).trans hm, _, by rw [hfind, hv, Option.map_some], ?_⟩
      split
      · rfl
      · exact hset
    counted := ⟨0, Nat.zero_le _, (UInt32.add_zero _).symm, fun _ hdist => hids ▸ hdist⟩ }

theorem renewal_addUrr (config : MeterConfig) {g : RuleGraph} {x : UInt32}
    (h : g.urrOfGroup? x = none) : Renewal config [x] g (g.addUrr x).2 [] where
  frame := rfl
  urrGroups := by
    have hfresh : x ∉ g.urrs.map (·.ratingGroup) := by
      rw [← isSome_urrOfGroup?, h]
      exact Bool.false_ne_true
    simp only [addUrr, List.map_append, List.map_singleton, insertAll_cons, insertAll_nil]
    rw [insertLast, if_neg hfresh]
  ids := by
    rw [addUrr, List.map_append]
    exact List.prefix_append _ _
  metered _ hm := absurd hm List.not_mem_nil
  kept := by
    rintro m ⟨hm, v, hv, hset⟩
    constructor
    · rw [urrOfGroup?, Option.map_eq_some_iff] at hm ⊢
      obtain ⟨u, hu, hid⟩ := hm
      exact ⟨u, by rw [addUrr, List.find?_append, hu, Option.some_or], hid⟩
    · exact ⟨v, by rw [addUrr, urr?, List.find?_append, ← urr?, hv, Option.some_or], hset⟩
  counted := by
    refine ⟨1, by simp, rfl, fun hroom hdist => ?_⟩
    rw [addUrr, List.map_append]
    exact hdist.append_next (lt_next_of_room hroom)

theorem renewal_ensureMeter (config : MeterConfig) (rules : List Rule) (g : RuleGraph)
    (x : UInt32) :
    Renewal config [x] g (g.ensureMeter rules x).value.2 [] ∧
      (g.ensureMeter rules x).value.2.urrOfGroup? x = some (g.ensureMeter rules x).value.1 := by
  cases h : g.urrOfGroup? x with
  | some id =>
    have hmem : x ∈ g.urrs.map (·.ratingGroup) :=
      isSome_urrOfGroup?.mp (Option.isSome_of_mem h)
    have hvalue : (g.ensureMeter rules x).value = (id, g) := by
      rw [ensureMeter, h]
      rfl
    rw [hvalue]
    refine ⟨{ Renewal.refl with urrGroups := ?_, counted := ?_ }, h⟩
    · rw [insertAll_of_subset (by simpa using hmem)]
    · exact ⟨0, Nat.zero_le _, (UInt32.add_zero _).symm, fun _ hdist => hdist⟩
  | none =>
    have hvalue : (g.ensureMeter rules x).value = g.addUrr x := by
      rw [ensureMeter, h]
      rfl
    rw [hvalue]
    refine ⟨renewal_addUrr config h, ?_⟩
    rw [urrOfGroup?, Option.map_eq_none_iff] at h
    rw [addUrr, urrOfGroup?, List.find?_append, h]
    simp

/-- Giving each group a meter adds and sets the meters of the groups, in their order. -/
theorem renewal_installMeters (config : MeterConfig) (rules : List Rule) (groups : List UInt32)
    (g : RuleGraph) :
    Renewal config groups g (installMeters config rules groups g).value.2
        (installMeters config rules groups g).value.1 ∧
      (installMeters config rules groups g).value.1.map (·.ratingGroup) = groups := by
  induction groups generalizing g with
  | nil => exact ⟨Renewal.refl, rfl⟩
  | cons x groups ih =>
    obtain ⟨hensure, hfirst⟩ := renewal_ensureMeter config rules g x
    have hset := renewal_updateUrr config hfirst
    obtain ⟨hrest, hmeters⟩ := ih ((g.ensureMeter rules x).value.2.updateUrr
      (g.ensureMeter rules x).value.1 (meterSettings config))
    rw [installMeters]
    simp only [Traced.value_bind, Traced.value_pure, List.map_cons, hmeters, and_true]
    exact (hensure.trans hset).trans hrest

/-! ## Renewing meters -/

/-- Renewing meters removes the stale ones and then renews the graph that is left. -/
theorem renewal_renewMeters (config : MeterConfig) (rules : List Rule) {g : RuleGraph}
    (hnodup : (g.urrs.map (·.id)).Nodup) :
    Renewal config (ratingGroups rules) (g.withoutUrrs (g.staleMeters (ratingGroups rules)))
        (g.renewMeters config rules).value.2 (g.renewMeters config rules).value.1 ∧
      (g.renewMeters config rules).value.1.map (·.ratingGroup) = ratingGroups rules := by
  rw [renewMeters, Traced.value_bind, value_removeStaleMeters hnodup]
  exact renewal_installMeters config rules _ _

/-- After a renewal the metered groups are those of the rules. -/
theorem mem_urrGroups_renewMeters (config : MeterConfig) {rules : List Rule} {g : RuleGraph}
    (hnodup : (g.urrs.map (·.id)).Nodup) {x : UInt32} :
    x ∈ (g.renewMeters config rules).value.2.urrs.map (·.ratingGroup) ↔
      x ∈ ratingGroups rules := by
  rw [(renewal_renewMeters config rules hnodup).1.urrGroups, mem_insertAll,
    urrs_withoutUrrs_staleMeters hnodup]
  constructor
  · rintro (hx | hx)
    · exact hx
    · obtain ⟨u, hu, rfl⟩ := List.mem_map.mp hx
      simpa using (List.mem_filter.mp hu).2
  · exact Or.inl

/-- A renewal gives no number twice, unless the counter overflows. -/
theorem Numbered.renewMeters {config : MeterConfig} {rules : List Rule} {g : RuleGraph}
    (h : g.Numbered) (hadvance : Advances g.lastUrr (g.renewMeters config rules).value.2.lastUrr) :
    (g.renewMeters config rules).value.2.Numbered := by
  have hrenewal := (renewal_renewMeters config rules h.urrs.nodup).1
  obtain ⟨added, hle, hlast, hdistinct⟩ := hrenewal.counted
  have hroom : g.lastUrr.toNat + added < 2 ^ 32 :=
    room_of_le (Nat.lt_of_le_of_lt hle (length_ratingGroups_lt rules)) (hlast ▸ hadvance)
  have hurrs := hdistinct hroom (h.urrs.sublist (List.filter_sublist.map _))
  rw [hrenewal.frame]
  exact {
    pdrs := by
      simp only [withoutUrrs, List.map_map, Function.comp_def]
      exact h.pdrs
    fars := h.fars
    qers := h.qers
    urrs := hurrs }

theorem updateUrr_of_metered {config : MeterConfig} {g : RuleGraph} {m : Meter}
    (h : g.Metered config m) : g.updateUrr m.urr (meterSettings config) = g := by
  obtain ⟨u, hu, hset⟩ := h.settled
  have hfixed : ∀ a, g.urrs.find? (·.id == m.urr) = some a → meterSettings config a = a := by
    intro a ha
    have hau : a = u := Option.some.inj (ha.symm.trans hu)
    rw [hau, hset]
  rw [updateUrr, updateFirst_of_fixed hfixed]

/-- Meters that are settled are found and stay as they are. -/
theorem value_installMeters_of_metered {config : MeterConfig} {rules : List Rule}
    {g : RuleGraph} {ms : List Meter} (h : ∀ m ∈ ms, g.Metered config m) :
    (installMeters config rules (ms.map (·.ratingGroup)) g).value = (ms, g) := by
  induction ms with
  | nil => rfl
  | cons m ms ih =>
    have hm := h m List.mem_cons_self
    have hensure : (g.ensureMeter rules m.ratingGroup).value = (m.urr, g) := by
      rw [ensureMeter, hm.first]
      rfl
    have hrest := ih fun m' hm' => h m' (List.mem_cons_of_mem m hm')
    rw [List.map_cons, installMeters]
    simp only [Traced.value_bind, Traced.value_pure, hensure, updateUrr_of_metered hm, hrest]

/-- Renewing meters that are settled changes nothing and gives the same meters. -/
theorem value_renewMeters_of_settled {config : MeterConfig} {rules : List Rule} {g : RuleGraph}
    {ms : List Meter} (hgroups : ∀ u ∈ g.urrs, u.ratingGroup ∈ ratingGroups rules)
    (hms : ms.map (·.ratingGroup) = ratingGroups rules) (h : ∀ m ∈ ms, g.Metered config m) :
    (g.renewMeters config rules).value = (ms, g) := by
  rw [renewMeters, Traced.value_bind, value_removeStaleMeters_of_subset hgroups, ← hms]
  exact value_installMeters_of_metered h

end RuleGraph

end SessionControl
