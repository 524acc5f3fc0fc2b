import Mathlib.Algebra.Group.Nat.Defs
import SessionControl.Proofs.RuleGraph.Numbering

/-!
# Intact rule graphs

A graph that starts empty and is changed by its own operations only stays intact: the rules of a
store stand in the order of their numbers, every detection rule refers to rules that are there,
and no number is given twice, not even after a removal. The rules may be written to in between,
as long as their numbers, tunnel indices and associations are left alone.

## Main definitions

- `AscendingUpTo` — numbers in ascending order, from one up to a last one
- `RuleGraph.Intact` — what holds of every graph that comes about in this way
- `RuleGraph.Step`, `RuleGraph.Run` — one operation, and operations with the numbers they gave

## Main statements

- `RuleGraph.Intact.step` — every operation keeps a graph intact
- `RuleGraph.Step.counters` — a number that is given was beyond its counter
- `RuleGraph.intact_of_run` — both over a whole run
-/

namespace SessionControl

/-! ## Numbers in ascending order -/

/-- Numbers in ascending order, from one up to `last`. -/
structure AscendingUpTo {κ : Type} [LE κ] [LT κ] [OfNat κ 1] (last : κ) (ids : List κ) :
    Prop where
  ascending : ids.Pairwise (· < ·)
  bounds : ∀ id ∈ ids, 1 ≤ id ∧ id ≤ last

namespace AscendingUpTo

variable {κ : Type} [LE κ] [LT κ] [OfNat κ 1] {last next : κ} {ids ids' : List κ}

theorem nil : AscendingUpTo last [] := ⟨List.Pairwise.nil, by simp⟩

theorem sublist (h : AscendingUpTo last ids) (hsub : ids'.Sublist ids) :
    AscendingUpTo last ids' where
  ascending := h.ascending.sublist hsub
  bounds id hid := h.bounds id (hsub.subset hid)

theorem nodup [Std.IsPreorder κ] [Std.LawfulOrderLT κ] (h : AscendingUpTo last ids) :
    ids.Nodup := by
  refine h.ascending.imp ?_
  rintro a b hlt rfl
  exact Std.lt_irrefl hlt

theorem append_next [Std.IsLinearOrder κ] [Std.LawfulOrderLT κ]
    (h : AscendingUpTo last ids) (hlt : last < next) (hone : 1 ≤ next) :
    AscendingUpTo next (ids ++ [next]) where
  ascending := by
    rw [List.pairwise_append]
    refine ⟨h.ascending, List.pairwise_singleton _ _, ?_⟩
    intro a ha b hb
    rw [List.mem_singleton] at hb
    rw [hb]
    exact Std.lt_of_le_of_lt (h.bounds a ha).2 hlt
  bounds := by
    intro id hid
    rw [List.mem_append, List.mem_singleton] at hid
    obtain hid | rfl := hid
    · obtain ⟨hone', hle⟩ := h.bounds id hid
      exact ⟨hone', Std.le_trans hle (Std.le_of_lt hlt)⟩
    · exact ⟨hone, Std.le_refl _⟩

end AscendingUpTo

theorem UInt16.toNat_succ {last : UInt16} (h : last < last + 1) :
    (last + 1).toNat = last.toNat + 1 := by
  have hlt : last.toNat < (last + 1).toNat := UInt16.lt_iff_toNat_lt.mp h
  rw [UInt16.toNat_add, UInt16.toNat_one] at hlt ⊢
  omega

theorem UInt16.one_le_succ {last : UInt16} (h : last < last + 1) : 1 ≤ last + 1 := by
  rw [UInt16.le_iff_toNat_le, toNat_succ h, UInt16.toNat_one]
  omega

/-- A counter that does not overflow passes the next number and no other. -/
theorem UInt16.le_succ_iff {last id : UInt16} (h : last < last + 1) :
    id ≤ last + 1 ↔ id ≤ last ∨ id = last + 1 := by
  rw [UInt16.le_iff_toNat_le, UInt16.le_iff_toNat_le, ← UInt16.toNat_inj, toNat_succ h]
  omega

theorem UInt32.toNat_succ {last : UInt32} (h : last < last + 1) :
    (last + 1).toNat = last.toNat + 1 := by
  have hlt : last.toNat < (last + 1).toNat := UInt32.lt_iff_toNat_lt.mp h
  rw [UInt32.toNat_add, UInt32.toNat_one] at hlt ⊢
  omega

theorem UInt32.one_le_succ {last : UInt32} (h : last < last + 1) : 1 ≤ last + 1 := by
  rw [UInt32.le_iff_toNat_le, toNat_succ h, UInt32.toNat_one]
  omega

/-- A counter that does not overflow passes the next number and no other. -/
theorem UInt32.le_succ_iff {last id : UInt32} (h : last < last + 1) :
    id ≤ last + 1 ↔ id ≤ last ∨ id = last + 1 := by
  rw [UInt32.le_iff_toNat_le, UInt32.le_iff_toNat_le, ← UInt32.toNat_inj, toNat_succ h]
  omega

namespace RuleGraph

/-! ## Intact graphs -/

/-- What a detection rule refers to is there, once each, and the tunnel index that was set aside
for it is the base of the graph plus its number. -/
structure Linked (g : RuleGraph) (p : Pdr) : Prop where
  far : p.far ∈ g.fars.map (·.id)
  qers_nodup : p.qers.Nodup
  qers : ∀ id ∈ p.qers, id ∈ g.qers.map (·.id)
  urrs_nodup : p.urrs.Nodup
  urrs : ∀ id ∈ p.urrs, id ∈ g.urrs.map (·.id)
  teid : p.teid.toNat = g.teidBase.toNat + p.id.toNat

/-- The numbers in each store ascend up to its counter, and every detection rule is linked. -/
structure Intact (g : RuleGraph) : Prop where
  pdrs : AscendingUpTo g.lastPdr (g.pdrs.map (·.id))
  fars : AscendingUpTo g.lastFar (g.fars.map (·.id))
  qers : AscendingUpTo g.lastQer (g.qers.map (·.id))
  urrs : AscendingUpTo g.lastUrr (g.urrs.map (·.id))
  linked : ∀ p ∈ g.pdrs, g.Linked p

/-- A change of a detection rule leaves alone what identifies the rule and what it refers to. -/
structure KeepsLinks (f : Pdr → Pdr) : Prop where
  id : ∀ p, (f p).id = p.id
  teid : ∀ p, (f p).teid = p.teid
  far : ∀ p, (f p).far = p.far
  qers : ∀ p, (f p).qers = p.qers
  urrs : ∀ p, (f p).urrs = p.urrs

/-! ## Operations -/

/-- The number of a rule, with the store that the rule is in. -/
inductive RuleId where
  | pdr (id : PdrId)
  | far (id : FarId)
  | qer (id : QerId)
  | urr (id : UrrId)
  deriving DecidableEq, Repr

/-- The counter of its store has reached the number. -/
def Counted (g : RuleGraph) : RuleId → Prop
  | .pdr id => id ≤ g.lastPdr
  | .far id => id ≤ g.lastFar
  | .qer id => id ≤ g.lastQer
  | .urr id => id ≤ g.lastUrr

/-- One operation on a rule graph, with the number that it gives, if it gives one. An addition
does not make the counter or the tunnel index overflow, and a write leaves alone what identifies
a rule and what it refers to. -/
inductive Step : RuleGraph → Option RuleId → RuleGraph → Prop
  | addFar (g : RuleGraph) (destination : Interface)
      (hadvance : Advances g.lastFar (g.lastFar + 1)) :
      Step g (some (.far (g.addFar destination).1)) (g.addFar destination).2
  | addPdr {g g' : RuleGraph} (source : Interface) (far : FarId) {id : PdrId}
      (hadd : g.addPdr source far = .ok (id, g')) (hadvance : Advances g.lastPdr (g.lastPdr + 1))
      (hteid : g.teidBase.toNat + id.toNat < 2 ^ 32) : Step g (some (.pdr id)) g'
  | addQer (g : RuleGraph) (maximum : RatePair) (hadvance : Advances g.lastQer (g.lastQer + 1)) :
      Step g (some (.qer (g.addQer maximum).1)) (g.addQer maximum).2
  | addUrr (g : RuleGraph) (ratingGroup : UInt32) (hadvance : Advances g.lastUrr (g.lastUrr + 1)) :
      Step g (some (.urr (g.addUrr ratingGroup).1)) (g.addUrr ratingGroup).2
  | associateQer {g g' : RuleGraph} (pdr : PdrId) (qer : QerId)
      (hassociate : g.associateQer pdr qer = .ok g') : Step g none g'
  | associateUrr {g g' : RuleGraph} (pdr : PdrId) (urr : UrrId)
      (hassociate : g.associateUrr pdr urr = .ok g') : Step g none g'
  | removeQer (g : RuleGraph) (id : QerId) : Step g none (g.removeQer id).2
  | removeUrr (g : RuleGraph) (id : UrrId) : Step g none (g.removeUrr id).2
  | writePdr (g : RuleGraph) (id : PdrId) {f : Pdr → Pdr} (hf : KeepsLinks f) :
      Step g none (g.updatePdr id f)
  | writeFar (g : RuleGraph) (id : FarId) {f : Far → Far} (hf : ∀ a, (f a).id = a.id) :
      Step g none (g.updateFar id f)
  | writeQer (g : RuleGraph) (id : QerId) {f : Qer → Qer} (hf : ∀ q, (f q).id = q.id) :
      Step g none (g.updateQer id f)
  | writeUrr (g : RuleGraph) (id : UrrId) {f : Urr → Urr} (hf : ∀ u, (f u).id = u.id) :
      Step g none (g.updateUrr id f)

/-- Operations on a graph that starts empty, with the numbers that they gave. -/
inductive Run (base : UInt32) : List RuleId → RuleGraph → Prop
  | start : Run base [] { teidBase := base }
  | step {issued : List RuleId} {given : Option RuleId} {g g' : RuleGraph}
      (hrun : Run base issued g) (hstep : Step g given g') : Run base (issued ++ given.toList) g'

/-! ## What one operation keeps -/

variable {g g' : RuleGraph}

/-- A rule stays linked as long as no rule that it refers to goes away. -/
theorem Linked.mono {p : Pdr} (h : g.Linked p) (hbase : g'.teidBase = g.teidBase)
    (hfars : g.fars.map (·.id) ⊆ g'.fars.map (·.id))
    (hqers : g.qers.map (·.id) ⊆ g'.qers.map (·.id))
    (hurrs : g.urrs.map (·.id) ⊆ g'.urrs.map (·.id)) : g'.Linked p where
  far := hfars h.far
  qers_nodup := h.qers_nodup
  qers id hid := hqers (h.qers id hid)
  urrs_nodup := h.urrs_nodup
  urrs id hid := hurrs (h.urrs id hid)
  teid := by rw [hbase]; exact h.teid

theorem Linked.keeps {p : Pdr} {f : Pdr → Pdr} (h : g.Linked p) (hf : KeepsLinks f) :
    g.Linked (f p) where
  far := by rw [hf.far]; exact h.far
  qers_nodup := by rw [hf.qers]; exact h.qers_nodup
  qers := by rw [hf.qers]; exact h.qers
  urrs_nodup := by rw [hf.urrs]; exact h.urrs_nodup
  urrs := by rw [hf.urrs]; exact h.urrs
  teid := by rw [hf.teid, hf.id]; exact h.teid

theorem Step.teidBase {given : Option RuleId} (h : Step g given g') :
    g'.teidBase = g.teidBase := by
  cases h with
  | addPdr source far hadd hroom hteid =>
    obtain ⟨pdr, -, -, -, rfl⟩ := addPdr_eq_ok hadd
    rfl
  | associateQer pdr qer hassociate =>
    obtain ⟨-, -, rfl⟩ := associateQer_eq_ok.mp hassociate
    rfl
  | associateUrr pdr urr hassociate =>
    obtain ⟨-, -, rfl⟩ := associateUrr_eq_ok.mp hassociate
    rfl
  | removeQer id =>
    rw [RuleGraph.removeQer]
    cases g.qer? id <;> rfl
  | removeUrr id =>
    rw [RuleGraph.removeUrr]
    cases g.urr? id <;> rfl
  | _ => rfl

namespace Intact

theorem empty (base : UInt32) : ({ teidBase := base } : RuleGraph).Intact where
  pdrs := .nil
  fars := .nil
  qers := .nil
  urrs := .nil
  linked _ hp := absurd hp List.not_mem_nil

/-- A change of one detection rule, after which the rule is linked if it was before. -/
theorem updatePdr (h : g.Intact) (id : PdrId) {f : Pdr → Pdr} (hid : ∀ p, (f p).id = p.id)
    (hf : ∀ p, g.Linked p → g.Linked (f p)) : (g.updatePdr id f).Intact where
  pdrs := by
    rw [RuleGraph.updatePdr, map_updateFirst]
    · exact h.pdrs
    · exact fun p _ => hid p
  fars := h.fars
  qers := h.qers
  urrs := h.urrs
  linked := by
    intro p hp
    have hlinked : g.Linked p := by
      obtain hp | ⟨q, hq, rfl⟩ := mem_of_mem_updateFirst hp
      · exact h.linked p hp
      · exact hf q (h.linked q hq)
    exact hlinked.mono rfl (List.Subset.refl _) (List.Subset.refl _) (List.Subset.refl _)

theorem addFar (h : g.Intact) (destination : Interface)
    (hadvance : Advances g.lastFar (g.lastFar + 1)) :
    (g.addFar destination).2.Intact where
  pdrs := h.pdrs
  fars := by
    rw [RuleGraph.addFar, List.map_append]
    have hlt := UInt32.lt_succ_of_advances hadvance
    exact h.fars.append_next hlt (UInt32.one_le_succ hlt)
  qers := h.qers
  urrs := h.urrs
  linked p hp := by
    refine (h.linked p hp).mono rfl ?_ (List.Subset.refl _) (List.Subset.refl _)
    rw [RuleGraph.addFar, List.map_append]
    exact List.subset_append_left _ _

theorem addQer (h : g.Intact) (maximum : RatePair) (hadvance : Advances g.lastQer (g.lastQer + 1)) :
    (g.addQer maximum).2.Intact where
  pdrs := h.pdrs
  fars := h.fars
  qers := by
    rw [RuleGraph.addQer, List.map_append]
    have hlt := UInt32.lt_succ_of_advances hadvance
    exact h.qers.append_next hlt (UInt32.one_le_succ hlt)
  urrs := h.urrs
  linked p hp := by
    refine (h.linked p hp).mono rfl (List.Subset.refl _) ?_ (List.Subset.refl _)
    rw [RuleGraph.addQer, List.map_append]
    exact List.subset_append_left _ _

theorem addUrr (h : g.Intact) (ratingGroup : UInt32)
    (hadvance : Advances g.lastUrr (g.lastUrr + 1)) :
    (g.addUrr ratingGroup).2.Intact where
  pdrs := h.pdrs
  fars := h.fars
  qers := h.qers
  urrs := by
    rw [RuleGraph.addUrr, List.map_append]
    have hlt := UInt32.lt_succ_of_advances hadvance
    exact h.urrs.append_next hlt (UInt32.one_le_succ hlt)
  linked p hp := by
    refine (h.linked p hp).mono rfl (List.Subset.refl _) (List.Subset.refl _) ?_
    rw [RuleGraph.addUrr, List.map_append]
    exact List.subset_append_left _ _

/-- A new detection rule refers to the forwarding rule that it was made for and to nothing else,
and its tunnel index does not overflow. -/
theorem addPdr {source : Interface} {far : FarId} {id : PdrId} (h : g.Intact)
    (hadd : g.addPdr source far = .ok (id, g')) (hadvance : Advances g.lastPdr (g.lastPdr + 1))
    (hteid : g.teidBase.toNat + id.toNat < 2 ^ 32) : g'.Intact := by
  rw [RuleGraph.addPdr] at hadd
  split at hadd
  · next hfar =>
    obtain ⟨rfl, rfl⟩ := Prod.mk.inj (Except.ok.inj hadd)
    exact {
      pdrs := by
        rw [List.map_append]
        have hlt := UInt16.lt_succ_of_advances hadvance
        exact h.pdrs.append_next hlt (UInt16.one_le_succ hlt)
      fars := h.fars
      qers := h.qers
      urrs := h.urrs
      linked := by
        intro p hp
        rw [List.mem_append, List.mem_singleton] at hp
        obtain hp | rfl := hp
        · exact (h.linked p hp).mono rfl (List.Subset.refl _) (List.Subset.refl _)
            (List.Subset.refl _)
        · exact {
            far := isSome_find?_key.mp hfar
            qers_nodup := List.nodup_nil
            qers := by simp
            urrs_nodup := List.nodup_nil
            urrs := by simp
            teid := by
              rw [UInt32.toNat_add, UInt16.toNat_toUInt32]
              exact Nat.mod_eq_of_lt hteid } }
  · cases hadd

theorem associateQer {pdr : PdrId} {qer : QerId} (h : g.Intact)
    (hassociate : g.associateQer pdr qer = .ok g') : g'.Intact := by
  obtain ⟨hqer, -, rfl⟩ := associateQer_eq_ok.mp hassociate
  refine h.updatePdr pdr (fun _ => rfl) fun p hp => ?_
  refine { hp with qers_nodup := nodup_insertLast hp.qers_nodup, qers := ?_ }
  intro id hid
  obtain rfl | hid := mem_insertLast.mp hid
  · exact isSome_find?_key.mp hqer
  · exact hp.qers id hid

theorem associateUrr {pdr : PdrId} {urr : UrrId} (h : g.Intact)
    (hassociate : g.associateUrr pdr urr = .ok g') : g'.Intact := by
  obtain ⟨hurr, -, rfl⟩ := associateUrr_eq_ok.mp hassociate
  refine h.updatePdr pdr (fun _ => rfl) fun p hp => ?_
  refine { hp with urrs_nodup := nodup_insertLast hp.urrs_nodup, urrs := ?_ }
  intro id hid
  obtain rfl | hid := mem_insertLast.mp hid
  · exact isSome_find?_key.mp hurr
  · exact hp.urrs id hid

/-- No detection rule refers to an enforcement rule that has been removed. -/
theorem removeQer (h : g.Intact) (id : QerId) : (g.removeQer id).2.Intact := by
  rw [RuleGraph.removeQer]
  cases g.qer? id with
  | none => exact h
  | some q =>
    have hpdrs : (g.pdrs.map fun p => { p with qers := p.qers.filter (· != id) }).map (·.id) =
        g.pdrs.map (·.id) := by
      rw [List.map_map]
      rfl
    refine { h with pdrs := ?_, qers := ?_, linked := ?_ }
    · rw [hpdrs]
      exact h.pdrs
    · exact h.qers.sublist (List.eraseP_sublist.map _)
    · intro p hp
      obtain ⟨p₀, hp₀, rfl⟩ := List.mem_map.mp hp
      have hlinked := h.linked p₀ hp₀
      refine { hlinked with qers_nodup := hlinked.qers_nodup.filter _, qers := ?_ }
      intro i hi
      obtain ⟨hmem, hne⟩ := List.mem_filter.mp hi
      exact mem_map_eraseP_key (hlinked.qers i hmem) (by simpa using hne)

/-- No detection rule refers to a reporting rule that has been removed. -/
theorem removeUrr (h : g.Intact) (id : UrrId) : (g.removeUrr id).2.Intact := by
  rw [RuleGraph.removeUrr]
  cases g.urr? id with
  | none => exact h
  | some u =>
    have hpdrs : (g.pdrs.map fun p => { p with urrs := p.urrs.filter (· != id) }).map (·.id) =
        g.pdrs.map (·.id) := by
      rw [List.map_map]
      rfl
    refine { h with pdrs := ?_, urrs := ?_, linked := ?_ }
    · rw [hpdrs]
      exact h.pdrs
    · exact h.urrs.sublist (List.eraseP_sublist.map _)
    · intro p hp
      obtain ⟨p₀, hp₀, rfl⟩ := List.mem_map.mp hp
      have hlinked := h.linked p₀ hp₀
      refine { hlinked with urrs_nodup := hlinked.urrs_nodup.filter _, urrs := ?_ }
      intro i hi
      obtain ⟨hmem, hne⟩ := List.mem_filter.mp hi
      exact mem_map_eraseP_key (hlinked.urrs i hmem) (by simpa using hne)

/-- A rule of another kind that is written to keeps its number, and with it every link. -/
theorem of_ids (h : g.Intact) (hpdrs : g'.pdrs = g.pdrs)
    (hfars : g'.fars.map (·.id) = g.fars.map (·.id))
    (hqers : g'.qers.map (·.id) = g.qers.map (·.id))
    (hurrs : g'.urrs.map (·.id) = g.urrs.map (·.id)) (hbase : g'.teidBase = g.teidBase)
    (hcounters : g'.counters = g.counters) : g'.Intact := by
  simp only [counters, Prod.mk.injEq] at hcounters
  obtain ⟨hlastPdr, hlastFar, hlastQer, hlastUrr⟩ := hcounters
  exact {
    pdrs := by rw [hpdrs, hlastPdr]; exact h.pdrs
    fars := by rw [hfars, hlastFar]; exact h.fars
    qers := by rw [hqers, hlastQer]; exact h.qers
    urrs := by rw [hurrs, hlastUrr]; exact h.urrs
    linked := by
      rw [hpdrs]
      intro p hp
      refine (h.linked p hp).mono hbase ?_ ?_ ?_
      · rw [hfars]; exact List.Subset.refl _
      · rw [hqers]; exact List.Subset.refl _
      · rw [hurrs]; exact List.Subset.refl _ }

/-- Every operation keeps a graph intact. -/
theorem step {given : Option RuleId} (h : g.Intact) (hstep : Step g given g') : g'.Intact := by
  cases hstep with
  | addFar destination hadvance => exact h.addFar destination hadvance
  | addPdr source far hadd hadvance hteid => exact h.addPdr hadd hadvance hteid
  | addQer maximum hadvance => exact h.addQer maximum hadvance
  | addUrr ratingGroup hadvance => exact h.addUrr ratingGroup hadvance
  | associateQer pdr qer hassociate => exact h.associateQer hassociate
  | associateUrr pdr urr hassociate => exact h.associateUrr hassociate
  | removeQer id => exact h.removeQer id
  | removeUrr id => exact h.removeUrr id
  | writePdr id hf => exact h.updatePdr id hf.id fun p hp => hp.keeps hf
  | writeFar id hf => exact h.of_ids rfl (map_updateFirst (fun a _ => hf a) _) rfl rfl rfl rfl
  | writeQer id hf => exact h.of_ids rfl rfl (map_updateFirst (fun q _ => hf q) _) rfl rfl rfl
  | writeUrr id hf => exact h.of_ids rfl rfl rfl (map_updateFirst (fun u _ => hf u) _) rfl rfl

end Intact

/-! ## Numbers are given once -/

theorem counted_iff_of_counters (h : g'.counters = g.counters) (i : RuleId) :
    g'.Counted i ↔ g.Counted i := by
  simp only [counters, Prod.mk.injEq] at h
  obtain ⟨hpdr, hfar, hqer, hurr⟩ := h
  cases i with
  | pdr id => rw [Counted, Counted, hpdr]
  | far id => rw [Counted, Counted, hfar]
  | qer id => rw [Counted, Counted, hqer]
  | urr id => rw [Counted, Counted, hurr]

theorem counters_removeQer (g : RuleGraph) (id : QerId) :
    (g.removeQer id).2.counters = g.counters := by
  rw [removeQer]
  cases g.qer? id <;> rfl

theorem counters_removeUrr (g : RuleGraph) (id : UrrId) :
    (g.removeUrr id).2.counters = g.counters := by
  rw [removeUrr]
  cases g.urr? id <;> rfl

/-- An operation either gives no number and moves no counter, or moves the counter of one store
to the number that it gives, which was beyond the counter. -/
theorem Step.counters {given : Option RuleId} (h : Step g given g') :
    (given = none ∧ g'.counters = g.counters) ∨
      ∃ i, given = some i ∧ ¬g.Counted i ∧ ∀ j, g'.Counted j ↔ g.Counted j ∨ j = i := by
  cases h with
  | addFar destination hadvance =>
    have hroom := UInt32.lt_succ_of_advances hadvance
    refine Or.inr ⟨_, rfl, Std.not_le.mpr hroom, fun j => ?_⟩
    cases j with
    | far id =>
      rw [RuleId.far.injEq]
      exact UInt32.le_succ_iff hroom
    | pdr id => simp [Counted, RuleGraph.addFar]
    | qer id => simp [Counted, RuleGraph.addFar]
    | urr id => simp [Counted, RuleGraph.addFar]
  | addPdr source far hadd hadvance hteid =>
    have hroom := UInt16.lt_succ_of_advances hadvance
    obtain ⟨pdr, -, -, rfl, rfl⟩ := addPdr_eq_ok hadd
    refine Or.inr ⟨_, rfl, Std.not_le.mpr hroom, fun j => ?_⟩
    cases j with
    | pdr id =>
      rw [RuleId.pdr.injEq]
      exact UInt16.le_succ_iff hroom
    | far id => simp [Counted]
    | qer id => simp [Counted]
    | urr id => simp [Counted]
  | addQer maximum hadvance =>
    have hroom := UInt32.lt_succ_of_advances hadvance
    refine Or.inr ⟨_, rfl, Std.not_le.mpr hroom, fun j => ?_⟩
    cases j with
    | qer id =>
      rw [RuleId.qer.injEq]
      exact UInt32.le_succ_iff hroom
    | pdr id => simp [Counted, RuleGraph.addQer]
    | far id => simp [Counted, RuleGraph.addQer]
    | urr id => simp [Counted, RuleGraph.addQer]
  | addUrr ratingGroup hadvance =>
    have hroom := UInt32.lt_succ_of_advances hadvance
    refine Or.inr ⟨_, rfl, Std.not_le.mpr hroom, fun j => ?_⟩
    cases j with
    | urr id =>
      rw [RuleId.urr.injEq]
      exact UInt32.le_succ_iff hroom
    | pdr id => simp [Counted, RuleGraph.addUrr]
    | far id => simp [Counted, RuleGraph.addUrr]
    | qer id => simp [Counted, RuleGraph.addUrr]
  | associateQer pdr qer hassociate =>
    obtain ⟨-, -, rfl⟩ := associateQer_eq_ok.mp hassociate
    exact Or.inl ⟨rfl, rfl⟩
  | associateUrr pdr urr hassociate =>
    obtain ⟨-, -, rfl⟩ := associateUrr_eq_ok.mp hassociate
    exact Or.inl ⟨rfl, rfl⟩
  | removeQer id => exact Or.inl ⟨rfl, g.counters_removeQer id⟩
  | removeUrr id => exact Or.inl ⟨rfl, g.counters_removeUrr id⟩
  | writePdr id hf => exact Or.inl ⟨rfl, rfl⟩
  | writeFar id hf => exact Or.inl ⟨rfl, rfl⟩
  | writeQer id hf => exact Or.inl ⟨rfl, rfl⟩
  | writeUrr id hf => exact Or.inl ⟨rfl, rfl⟩

/-! ## Runs -/

namespace Run

variable {base : UInt32} {issued : List RuleId}

theorem teidBase (h : Run base issued g) : g.teidBase = base := by
  induction h with
  | start => rfl
  | step _ hstep ih => rw [hstep.teidBase, ih]

theorem intact (h : Run base issued g) : g.Intact := by
  induction h with
  | start => exact .empty base
  | step _ hstep ih => exact ih.step hstep

/-- The numbers that have been given are distinct. They are within the counters, which no removal
moves back, and so is no number that is given next. -/
theorem issued_nodup (h : Run base issued g) : issued.Nodup ∧ ∀ i ∈ issued, g.Counted i := by
  induction h with
  | start => exact ⟨List.nodup_nil, by simp⟩
  | @step issued given g g' _ hstep ih =>
    obtain ⟨hnodup, hcounted⟩ := ih
    obtain ⟨rfl, hcounters⟩ | ⟨i, rfl, hfresh, hmoved⟩ := hstep.counters
    · rw [Option.toList_none, List.append_nil]
      refine ⟨hnodup, fun i hi => ?_⟩
      rw [counted_iff_of_counters hcounters]
      exact hcounted i hi
    · rw [Option.toList_some]
      constructor
      · rw [List.nodup_append]
        refine ⟨hnodup, List.nodup_singleton i, ?_⟩
        intro j hj k hk hjk
        rw [List.mem_singleton] at hk
        rw [hjk, hk] at hj
        exact hfresh (hcounted i hj)
      · intro j hj
        rw [hmoved]
        rw [List.mem_append, List.mem_singleton] at hj
        exact hj.imp_left (hcounted j)

end Run

/-- Operations on a graph that starts empty leave it intact, and give no number of a store twice,
not even after removals. In an intact graph a number finds the rule that has it, and there is no
other one. -/
theorem intact_of_run {base : UInt32} {issued : List RuleId} (h : Run base issued g) :
    g.Intact ∧ g.teidBase = base ∧ issued.Nodup ∧
      (∀ id p, g.pdr? id = some p ↔ p ∈ g.pdrs ∧ p.id = id) ∧
      (∀ id a, g.far? id = some a ↔ a ∈ g.fars ∧ a.id = id) ∧
      (∀ id q, g.qer? id = some q ↔ q ∈ g.qers ∧ q.id = id) ∧
      (∀ id u, g.urr? id = some u ↔ u ∈ g.urrs ∧ u.id = id) :=
  have hintact := h.intact
  ⟨hintact, h.teidBase, h.issued_nodup.1, fun _ _ => find?_key_eq_some hintact.pdrs.nodup,
    fun _ _ => find?_key_eq_some hintact.fars.nodup,
    fun _ _ => find?_key_eq_some hintact.qers.nodup,
    fun _ _ => find?_key_eq_some hintact.urrs.nodup⟩

/-- A graph in which a reporting rule has been removed and another one added after it. -/
def remetered : RuleGraph :=
  { teidBase := 256
    pdrs := [{ id := 1, precedence := 255, source := .access, teid := 257, far := 1, urrs := [2] }]
    fars := [{ id := 1, destination := .core }]
    urrs := [{ id := 2, ratingGroup := 20 }]
    lastPdr := 1
    lastFar := 1
    lastUrr := 2 }

theorem intact_of_run_remetered :
    remetered.Intact ∧ [RuleId.far 1, .pdr 1, .urr 1, .urr 2].Nodup ∧
      remetered.urr? 1 = none ∧ remetered.urr? 2 = some { id := 2, ratingGroup := 20 } := by
  have hstart : Run 256 [] { teidBase := 256 } := .start
  have hpaired := (hstart.step (.addFar _ .core (by decide))).step
    (.addPdr .access 1 rfl (by decide) (by decide))
  have hwritten := hpaired.step (.writePdr _ 1 (f := fun p => { p with precedence := 255 })
    ⟨fun _ => rfl, fun _ => rfl, fun _ => rfl, fun _ => rfl, fun _ => rfl⟩)
  have hmetered := (hwritten.step (.addUrr _ 10 (by decide))).step (.associateUrr 1 1 rfl)
  have hrun : Run 256 [.far 1, .pdr 1, .urr 1, .urr 2] remetered :=
    ((hmetered.step (.removeUrr _ 1)).step (.addUrr _ 20 (by decide))).step
      (.associateUrr 1 2 rfl)
  obtain ⟨hintact, -, hnodup, -, -, -, hurr⟩ := intact_of_run hrun
  exact ⟨hintact, hnodup, by decide, (hurr 2 _).mpr ⟨by decide, rfl⟩⟩

end RuleGraph

end SessionControl
