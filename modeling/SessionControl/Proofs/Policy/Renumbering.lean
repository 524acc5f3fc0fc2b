import SessionControl.Proofs.Policy.Charging
import SessionControl.Proofs.RuleGraph.Integrity

/-!
# Meters with other numbers

The reporting rules that meter the same rating groups with the same thresholds are the same but for
their numbers. A store of rules is in the order of its numbers, since a removal keeps the order and
a new rule gets the next number; so the numbers alone decide in which order the rules come.

## Main definitions

- `RuleGraph.SameMeters` — the reporting rules of two graphs are the same but for their numbers
- `RuleGraph.numbersAfter`, `RuleGraph.metersAfter` — the next numbers that a counter gives, and
  meters with them
- `RuleGraph.unmetered` — the groups that have no meter yet

## Main statements

- `RuleGraph.meters_renewMeters` — the meters after a renewal, with their numbers
- `RuleGraph.ascending_renewMeters` — a renewal keeps reporting rules in the order of their numbers
- `RuleGraph.MetersFor.sameMeters` — meters of the same rules are the same but for their numbers
- `RuleGraph.MetersFor.nil_iff` — the meters of no rules
-/

namespace SessionControl

namespace RuleGraph

/-! ## The order of the meters -/

section Order

variable {g : RuleGraph} {config : MeterConfig} {rules : List Policy.Rule}

/-- The next `n` numbers that a counter gives after `last`. -/
def numbersAfter (last : UrrId) : Nat → List UrrId
  | 0 => []
  | n + 1 => (last + 1) :: numbersAfter (last + 1) n

theorem ascending_append_numbersAfter {last : UrrId} {ids : List UrrId} {n : Nat}
    (h : AscendingUpTo last ids) (hroom : last.toNat + n < 2 ^ 32) :
    AscendingUpTo (last + UInt32.ofNat n) (ids ++ numbersAfter last n) := by
  induction n generalizing last ids with
  | zero =>
    rw [numbersAfter, List.append_nil]
    exact (UInt32.add_zero last).symm ▸ h
  | succ n ih =>
    have hlt : last < last + 1 := lt_next_of_room (by omega)
    have hnat := UInt32.toNat_succ hlt
    have hrest := ih (h.append_next hlt (UInt32.one_le_succ hlt)) (by omega)
    rw [List.append_assoc, UInt32.add_assoc, UInt32.add_comm 1] at hrest
    rw [UInt32.ofNat_add]
    exact hrest

/-- Meters of some groups with the next numbers, in their order. -/
def metersAfter (last : UrrId) (groups : List UInt32) : List Meter :=
  List.zipWith Meter.mk groups (numbersAfter last groups.length)

theorem map_metersAfter (last : UrrId) (groups : List UInt32) :
    (metersAfter last groups).map (·.ratingGroup) = groups ∧
      (metersAfter last groups).map (·.urr) = numbersAfter last groups.length := by
  induction groups generalizing last with
  | nil => exact ⟨rfl, rfl⟩
  | cons x groups ih =>
    obtain ⟨hgroups, hurrs⟩ := ih (last + 1)
    exact ⟨congrArg (x :: ·) hgroups, congrArg ((last + 1) :: ·) hurrs⟩

/-- The groups that have no meter yet. -/
def unmetered (g : RuleGraph) (groups : List UInt32) : List UInt32 :=
  groups.filter fun x => x ∉ g.urrs.map (·.ratingGroup)

/-- The groups that have no meter yet get new ones with the next numbers, in their order. All other
meters stay as they are. -/
theorem meters_installMeters (config : MeterConfig) (rules : List Policy.Rule)
    {groups : List UInt32} (hgroups : groups.Nodup) (g : RuleGraph) :
    (installMeters config rules groups g).value.2.meters =
        g.meters ++ metersAfter g.lastUrr (g.unmetered groups) ∧
      (installMeters config rules groups g).value.2.lastUrr =
        g.lastUrr + UInt32.ofNat (g.unmetered groups).length := by
  induction groups generalizing g with
  | nil => exact ⟨(List.append_nil _).symm, (UInt32.add_zero _).symm⟩
  | cons x groups ih =>
    obtain ⟨hx, hgroups⟩ := List.nodup_cons.mp hgroups
    have ih := ih hgroups
    simp only [installMeters, Traced.value_bind, Traced.value_pure]
    cases hfirst : g.urrOfGroup? x with
    | some id =>
      have hensure : (g.ensureMeter rules x).value = (id, g) := by
        rw [ensureMeter, hfirst]
        rfl
      have hmem : x ∈ g.urrs.map (·.ratingGroup) :=
        isSome_urrOfGroup?.mp (Option.isSome_of_mem hfirst)
      have hnew : (g.updateUrr id (meterSettings config)).unmetered groups =
          g.unmetered (x :: groups) := by
        rw [unmetered, unmetered, List.filter_cons_of_neg (by simpa using hmem),
          ← map_ratingGroup_meters, meters_updateUrr, map_ratingGroup_meters]
      obtain ⟨hmeters, hlast⟩ := ih (g.updateUrr id (meterSettings config))
      rw [hnew, meters_updateUrr] at hmeters
      rw [hnew] at hlast
      rw [hensure]
      exact ⟨hmeters, hlast⟩
    | none =>
      have hensure : (g.ensureMeter rules x).value = g.addUrr x := by
        rw [ensureMeter, hfirst]
        rfl
      have hadded : ((g.addUrr x).2.updateUrr (g.addUrr x).1 (meterSettings config)).meters =
          g.meters ++ [⟨x, g.lastUrr + 1⟩] := by
        rw [meters_updateUrr, addUrr, meters, List.map_append]
        rfl
      have hfresh : x ∉ g.urrs.map (·.ratingGroup) := by
        rw [← isSome_urrOfGroup?, hfirst]
        exact Bool.false_ne_true
      -- The group is not among those that are left, so its new meter makes no difference to them.
      have hnew : g.unmetered (x :: groups) =
          x :: ((g.addUrr x).2.updateUrr (g.addUrr x).1 (meterSettings config)).unmetered
            groups := by
        rw [unmetered, unmetered, List.filter_cons_of_pos (by simpa using hfresh),
          ← map_ratingGroup_meters (g.addUrr x |>.2.updateUrr _ _), hadded, List.map_append,
          map_ratingGroup_meters]
        refine congrArg (x :: ·) (List.filter_congr fun y hy => ?_)
        have hne : y ≠ x := fun h => hx (h ▸ hy)
        simp [hne]
      obtain ⟨hmeters, hlast⟩ := ih ((g.addUrr x).2.updateUrr (g.addUrr x).1 (meterSettings config))
      rw [hensure, hnew, List.length_cons]
      refine ⟨?_, ?_⟩
      · rw [hmeters, hadded, List.append_assoc]
        rfl
      · rw [hlast, UInt32.ofNat_add, UInt32.add_comm (UInt32.ofNat _), ← UInt32.add_assoc]
        rfl

/-- A renewal keeps the meters of the groups that stay, and gives those that come the next numbers,
in their order. -/
theorem meters_renewMeters (config : MeterConfig) (rules : List Policy.Rule)
    (hids : (g.urrs.map (·.id)).Nodup) :
    (g.renewMeters config rules).value.2.meters =
        g.meters.filter (·.ratingGroup ∈ Policy.ratingGroups rules) ++
          metersAfter g.lastUrr (g.unmetered (Policy.ratingGroups rules)) ∧
      (g.renewMeters config rules).value.2.lastUrr =
        g.lastUrr + UInt32.ofNat (g.unmetered (Policy.ratingGroups rules)).length := by
  let kept := g.withoutUrrs (g.staleMeters (Policy.ratingGroups rules))
  have hurrs : kept.urrs = g.urrs.filter ((Policy.ratingGroups rules).contains ·.ratingGroup) :=
    urrs_withoutUrrs_staleMeters hids (Policy.ratingGroups rules)
  have hkept : kept.meters = g.meters.filter (·.ratingGroup ∈ Policy.ratingGroups rules) := by
    rw [meters, hurrs, meters, List.filter_map]
    simp [Function.comp_def]
  -- A group of the rules has a meter before the others are removed if it has one after.
  have hnew : kept.unmetered (Policy.ratingGroups rules) =
      g.unmetered (Policy.ratingGroups rules) := by
    refine List.filter_congr fun x hx => ?_
    have hiff : x ∈ kept.urrs.map (·.ratingGroup) ↔ x ∈ g.urrs.map (·.ratingGroup) := by
      rw [hurrs]
      constructor
      · exact fun h => (List.filter_sublist.map _).subset h
      · intro h
        obtain ⟨u, hu, rfl⟩ := List.mem_map.mp h
        exact List.mem_map_of_mem (List.mem_filter.mpr ⟨hu, by simpa using hx⟩)
    simp only [hiff]
  have hinstalled := meters_installMeters config rules (nodup_ratingGroups rules) kept
  rw [hkept, hnew] at hinstalled
  rw [renewMeters, Traced.value_bind, value_removeStaleMeters hids]
  exact hinstalled

/-- A counter has room for the numbers that a renewal gives, unless it overflows. -/
theorem room_renewMeters (hids : (g.urrs.map (·.id)).Nodup)
    (hadvance : Advances g.lastUrr (g.renewMeters config rules).value.2.lastUrr) :
    g.lastUrr.toNat + (g.unmetered (Policy.ratingGroups rules)).length < 2 ^ 32 := by
  have hlen : (g.unmetered (Policy.ratingGroups rules)).length < 2 ^ 32 :=
    Nat.lt_of_le_of_lt (List.length_filter_le _ _) (length_ratingGroups_lt rules)
  rw [(meters_renewMeters config rules hids).2] at hadvance
  exact room_of_le hlen hadvance

/-- A renewal keeps the reporting rules in the order of their numbers, unless the counter
overflows. -/
theorem ascending_renewMeters (h : AscendingUpTo g.lastUrr (g.urrs.map (·.id)))
    (hadvance : Advances g.lastUrr (g.renewMeters config rules).value.2.lastUrr) :
    AscendingUpTo (g.renewMeters config rules).value.2.lastUrr
      ((g.renewMeters config rules).value.2.urrs.map (·.id)) := by
  obtain ⟨hmeters, hlast⟩ := meters_renewMeters config rules h.nodup
  have hroom := room_renewMeters h.nodup hadvance
  have hkept : AscendingUpTo g.lastUrr
      ((g.meters.filter (·.ratingGroup ∈ Policy.ratingGroups rules)).map (·.urr)) := by
    rw [← map_urr_meters] at h
    exact h.sublist (List.filter_sublist.map _)
  rw [← map_urr_meters, hmeters, hlast, List.map_append, (map_metersAfter _ _).2]
  exact ascending_append_numbersAfter hkept hroom

end Order

/-! ## The same meters -/

/-- The reporting rules of two graphs are the same but for their numbers, and apply to the same
detection rules. Both stores are in the order of their numbers, so that the rules of one graph come
in another order in the other one if their numbers do. -/
structure SameMeters (g g' : RuleGraph) (rename : UrrId → UrrId) : Prop where
  injective : ∀ i ∈ g.urrs.map (·.id), ∀ j ∈ g.urrs.map (·.id), rename i = rename j → i = j
  urrs : (g.urrs.map fun u => { u with id := rename u.id }).Perm g'.urrs
  ascending : (g.urrs.map (·.id)).Pairwise (· < ·)
  ascending' : (g'.urrs.map (·.id)).Pairwise (· < ·)
  applied : ∀ p ∈ g.pdrs, ∀ q ∈ g'.pdrs, p.id = q.id → (p.urrs.map rename).Perm q.urrs

/-- The number of the reporting rule that meters the same group in another graph. -/
def counterpart (g g' : RuleGraph) (id : UrrId) : UrrId :=
  ((g.urr? id).bind fun u => g'.urrOfGroup? u.ratingGroup).getD 0

variable {g g' : RuleGraph} {config : MeterConfig} {uplink downlink : PdrId}
  {rules : List Policy.Rule}

namespace MetersFor

/-- Each meter has a counterpart with the same group and the same settings. -/
theorem exists_counterpart (h : g.MetersFor config uplink downlink rules)
    (h' : g'.MetersFor config uplink downlink rules) {u : Urr} (hu : u ∈ g.urrs) :
    { u with id := g.counterpart g' u.id } ∈ g'.urrs := by
  have hgroup : u.ratingGroup ∈ g'.urrs.map (·.ratingGroup) := by
    rw [h'.mem_groups, ← h.mem_groups]
    exact List.mem_map_of_mem hu
  obtain ⟨v, hv, hvu⟩ := List.mem_map.mp hgroup
  have hnumber : g.counterpart g' u.id = v.id := by
    have hfirst : g.urr? u.id = some u := (find?_key_eq_some h.ids_nodup).mpr ⟨hu, rfl⟩
    have hsecond : g'.urrs.find? (·.ratingGroup == u.ratingGroup) = some v :=
      (find?_key_eq_some h'.groups_nodup).mpr ⟨hv, hvu⟩
    rw [counterpart, hfirst, Option.bind_some, urrOfGroup?, hsecond]
    rfl
  have hsame : { u with id := g.counterpart g' u.id } = v := by
    obtain ⟨hmeasurement, hvolume, hseconds, htriggers⟩ := h.settings u hu
    obtain ⟨hmeasurement', hvolume', hseconds', htriggers'⟩ := h'.settings v hv
    rw [hnumber, ← hvu, hmeasurement, hvolume, hseconds, htriggers, ← hmeasurement', ← hvolume',
      ← hseconds', ← htriggers']
  rw [hsame]
  exact hv

theorem counterpart_injective (h : g.MetersFor config uplink downlink rules)
    (h' : g'.MetersFor config uplink downlink rules) :
    ∀ i ∈ g.urrs.map (·.id), ∀ j ∈ g.urrs.map (·.id),
      g.counterpart g' i = g.counterpart g' j → i = j := by
  intro i hi j hj hij
  obtain ⟨u, hu, rfl⟩ := List.mem_map.mp hi
  obtain ⟨v, hv, rfl⟩ := List.mem_map.mp hj
  -- Counterparts with the same number are the same rule, so that they meter the same group.
  have hsame := List.inj_on_of_nodup_map h'.ids_nodup (h.exists_counterpart h' hu)
    (h.exists_counterpart h' hv) hij
  have hgroup := congrArg Urr.ratingGroup hsame
  rw [List.inj_on_of_nodup_map h.groups_nodup hu hv hgroup]

theorem perm_urrs (h : g.MetersFor config uplink downlink rules)
    (h' : g'.MetersFor config uplink downlink rules) :
    (g.urrs.map fun u => { u with id := g.counterpart g' u.id }).Perm g'.urrs := by
  have hnodup : (g.urrs.map fun u => { u with id := g.counterpart g' u.id }).Nodup := by
    refine (List.Nodup.of_map _ h.ids_nodup).map_on fun u hu v hv huv => ?_
    have hgroup := congrArg Urr.ratingGroup huv
    exact List.inj_on_of_nodup_map h.groups_nodup hu hv hgroup
  refine (List.perm_ext_iff_of_nodup hnodup (List.Nodup.of_map _ h'.ids_nodup)).mpr fun v => ?_
  constructor
  · intro hv
    obtain ⟨u, hu, rfl⟩ := List.mem_map.mp hv
    exact h.exists_counterpart h' hu
  · intro hv
    have hgroup : v.ratingGroup ∈ g.urrs.map (·.ratingGroup) := by
      rw [h.mem_groups, ← h'.mem_groups]
      exact List.mem_map_of_mem hv
    obtain ⟨u, hu, huv⟩ := List.mem_map.mp hgroup
    have hsame := List.inj_on_of_nodup_map h'.groups_nodup (h.exists_counterpart h' hu) hv huv
    exact List.mem_map.mpr ⟨u, hu, hsame⟩

/-- The meters of the same rules are the same but for their numbers. -/
theorem sameMeters (h : g.MetersFor config uplink downlink rules)
    (h' : g'.MetersFor config uplink downlink rules)
    (hascending : (g.urrs.map (·.id)).Pairwise (· < ·))
    (hascending' : (g'.urrs.map (·.id)).Pairwise (· < ·)) :
    g.SameMeters g' (g.counterpart g') where
  injective := h.counterpart_injective h'
  urrs := h.perm_urrs h'
  ascending := hascending
  ascending' := hascending'
  applied := by
    intro p hp q hq hpq
    by_cases hrole : p.id = uplink ∨ p.id = downlink
    · obtain ⟨hnodup, hmem⟩ := h.metered p hp hrole
      obtain ⟨hnodup', hmem'⟩ := h'.metered q hq (hpq ▸ hrole)
      have hids := (h.perm_urrs h').map (·.id)
      rw [List.map_map] at hids
      have hrenamed : (p.urrs.map (g.counterpart g')).Nodup :=
        hnodup.map_on fun i hi j hj hij =>
          h.counterpart_injective h' i ((hmem i).mp hi) j ((hmem j).mp hj) hij
      refine (List.perm_ext_iff_of_nodup hrenamed hnodup').mpr fun id => ?_
      rw [hmem', ← hids.mem_iff, List.mem_map, List.mem_map]
      constructor
      · rintro ⟨i, hi, rfl⟩
        obtain ⟨u, hu, rfl⟩ := List.mem_map.mp ((hmem i).mp hi)
        exact ⟨u, hu, rfl⟩
      · rintro ⟨u, hu, rfl⟩
        exact ⟨u.id, (hmem u.id).mpr (List.mem_map_of_mem hu), rfl⟩
    · obtain ⟨hup, hdown⟩ := not_or.mp hrole
      rw [h.unmetered p hp hup hdown, h'.unmetered q hq (hpq ▸ hup) (hpq ▸ hdown)]
      exact List.Perm.refl _

theorem nil_iff : g.MetersFor config uplink downlink [] ↔
    g.urrs = [] ∧ (∀ p ∈ g.pdrs, p.urrs = []) ∧ (g.pdr? uplink).isSome ∧
      (g.pdr? downlink).isSome := by
  constructor
  · intro h
    have hurrs : g.urrs = [] := by
      rw [List.eq_nil_iff_forall_not_mem]
      intro u hu
      obtain ⟨-, r, hr, -⟩ := (h.mem_groups _).mp (List.mem_map_of_mem hu)
      exact absurd hr List.not_mem_nil
    refine ⟨hurrs, fun p hp => ?_, h.uplinkThere, h.downlinkThere⟩
    by_cases hrole : p.id = uplink ∨ p.id = downlink
    · rw [List.eq_nil_iff_forall_not_mem]
      intro id hid
      have hmem := ((h.metered p hp hrole).2 id).mp hid
      rw [hurrs] at hmem
      exact absurd hmem List.not_mem_nil
    · obtain ⟨hup, hdown⟩ := not_or.mp hrole
      exact h.unmetered p hp hup hdown
  · rintro ⟨hurrs, hfree, hup, hdown⟩
    constructor
    case uplinkThere => exact hup
    case downlinkThere => exact hdown
    case unmetered => exact fun p hp _ _ => hfree p hp
    case metered =>
      intro p hp _
      rw [hfree p hp, hurrs]
      simp
    all_goals simp [hurrs]

end MetersFor

end RuleGraph

end SessionControl
