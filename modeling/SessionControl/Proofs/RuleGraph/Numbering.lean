import SessionControl.Proofs.Sequence
import SessionControl.RuleGraph.Graph

/-!
# The numbers of rules

A rule is found by the first one that has its number. Where no number is given twice the order
does not matter: a change of one rule is a map over its store, and a removal a filter. No
operation of a rule graph gives a number twice, as long as its counters do not overflow.

## Main definitions

- `Advances` — a counter has not overflowed
- `DistinctUpTo` — numbers without repetition, up to a last one
- `RuleGraph.Distinct` — no number of a detection or a forwarding rule is given twice
- `RuleGraph.Numbered` — no number is given twice, and none is beyond its counter
- `RuleGraph.CountersAdvance` — no counter has overflowed from one graph to a later one
- `RuleGraph.counters` — the last number given to a rule of each kind
- `RuleGraph.mapRules` — changes detection and forwarding rules in place

## Main statements

- `RuleGraph.Distinct.updatePdr_eq`, `RuleGraph.Distinct.updateFar_eq` — a change of one rule is
  a map over its store
- `RuleGraph.Distinct.associateQer_both`, `RuleGraph.Distinct.associateUrr_both` — one rule
  applied to two detection rules
-/

namespace SessionControl

/-! ## Counters -/

/-- A counter has not overflowed between one of its values and a later one. Counters are checked: an
addition that overflows one is a fault of the node, which does not go on from there. Here it wraps
around instead, and what is proved about runs leaves it out. An operation gives fewer numbers than
there are, so a counter that overflows falls behind where it was. -/
@[grind]
def Advances {κ : Type} [LE κ] (last last' : κ) : Prop :=
  last ≤ last'

instance {κ : Type} [LE κ] [DecidableLE κ] (last last' : κ) : Decidable (Advances last last') :=
  inferInstanceAs (Decidable (last ≤ last'))

theorem UInt16.lt_succ_of_advances {last : UInt16} (h : Advances last (last + 1)) :
    last < last + 1 := by
  grind

theorem UInt32.lt_succ_of_advances {last : UInt32} (h : Advances last (last + 1)) :
    last < last + 1 := by
  grind

/-! ## Distinct numbers -/

/-- Numbers without repetition, none of which is beyond `last`. -/
structure DistinctUpTo {κ : Type} [LE κ] (last : κ) (ids : List κ) : Prop where
  nodup : ids.Nodup
  le : ∀ id ∈ ids, id ≤ last

namespace DistinctUpTo

variable {κ : Type} [LE κ] {last next : κ} {ids ids' : List κ}

theorem append_next [LT κ] [Std.IsLinearOrder κ] [Std.LawfulOrderLT κ]
    (h : DistinctUpTo last ids) (hlt : last < next) : DistinctUpTo next (ids ++ [next]) := by
  have hlast : ∀ id ∈ ids, id < next := fun id hid => Std.lt_of_le_of_lt (h.le id hid) hlt
  constructor
  · rw [List.nodup_append]
    refine ⟨h.nodup, by simp, ?_⟩
    intro a ha b hb hab
    rw [List.mem_singleton] at hb
    have hself : next < next := by
      rw [← hb, ← hab] at hlast ⊢
      exact hlast a ha
    exact Std.lt_irrefl hself
  · intro id hid
    rw [List.mem_append, List.mem_singleton] at hid
    obtain hid | rfl := hid
    · exact Std.le_of_lt (hlast id hid)
    · exact Std.le_refl _

/-- A number beyond the last one has not been given. -/
theorem not_mem_of_lt [LT κ] [Std.IsLinearOrder κ] [Std.LawfulOrderLT κ]
    (h : DistinctUpTo last ids) (hlt : last < next) : next ∉ ids :=
  fun hmem => Std.not_le.mpr hlt (h.le next hmem)

theorem sublist (h : DistinctUpTo last ids) (hsub : ids'.Sublist ids) :
    DistinctUpTo last ids' where
  nodup := h.nodup.sublist hsub
  le id hid := h.le id (hsub.subset hid)

end DistinctUpTo

namespace RuleGraph

/-- No number is given to two detection rules, and none to two forwarding rules. -/
structure Distinct (g : RuleGraph) : Prop where
  pdrs : (g.pdrs.map (·.id)).Nodup
  fars : (g.fars.map (·.id)).Nodup

/-- In each store no number is given twice, and none is beyond the counter of the store. -/
structure Numbered (g : RuleGraph) : Prop where
  pdrs : DistinctUpTo g.lastPdr (g.pdrs.map (·.id))
  fars : DistinctUpTo g.lastFar (g.fars.map (·.id))
  qers : DistinctUpTo g.lastQer (g.qers.map (·.id))
  urrs : DistinctUpTo g.lastUrr (g.urrs.map (·.id))

/-- No counter has overflowed between a graph and a later one. -/
structure CountersAdvance (g g' : RuleGraph) : Prop where
  pdr : Advances g.lastPdr g'.lastPdr
  far : Advances g.lastFar g'.lastFar
  qer : Advances g.lastQer g'.lastQer
  urr : Advances g.lastUrr g'.lastUrr

/-- The last number given to a rule of each kind. -/
def counters (g : RuleGraph) : PdrId × FarId × QerId × UrrId :=
  (g.lastPdr, g.lastFar, g.lastQer, g.lastUrr)

/-- Changes detection and forwarding rules in place. -/
def mapRules (g : RuleGraph) (onPdr : Pdr → Pdr) (onFar : Far → Far) : RuleGraph :=
  { g with pdrs := g.pdrs.map onPdr, fars := g.fars.map onFar }

variable {g : RuleGraph} {onPdr onPdr' : Pdr → Pdr} {onFar onFar' : Far → Far}

theorem mapRules_mapRules :
    (g.mapRules onPdr onFar).mapRules onPdr' onFar' =
      g.mapRules (onPdr' ∘ onPdr) (onFar' ∘ onFar) := by
  simp [mapRules]

theorem mapRules_eq_self (hpdr : ∀ p ∈ g.pdrs, onPdr p = p) (hfar : ∀ f ∈ g.fars, onFar f = f) :
    g.mapRules onPdr onFar = g := by
  have hp : g.pdrs.map onPdr = g.pdrs := by
    rw [List.map_congr_left hpdr, List.map_id']
  have hf : g.fars.map onFar = g.fars := by
    rw [List.map_congr_left hfar, List.map_id']
  rw [mapRules, hp, hf]

theorem pdr?_mapRules (honPdr : ∀ p, (onPdr p).id = p.id) (id : PdrId) :
    (g.mapRules onPdr onFar).pdr? id = (g.pdr? id).map onPdr :=
  find?_key_map honPdr id

theorem isSome_pdr?_mapRules (honPdr : ∀ p, (onPdr p).id = p.id) (id : PdrId) :
    ((g.mapRules onPdr onFar).pdr? id).isSome = (g.pdr? id).isSome := by
  rw [pdr?_mapRules honPdr, Option.isSome_map]

theorem map_id_pdrs_mapRules (honPdr : ∀ p, (onPdr p).id = p.id) :
    (g.mapRules onPdr onFar).pdrs.map (·.id) = g.pdrs.map (·.id) := by
  simp [mapRules, honPdr]

theorem map_id_fars_mapRules (honFar : ∀ f, (onFar f).id = f.id) :
    (g.mapRules onPdr onFar).fars.map (·.id) = g.fars.map (·.id) := by
  simp [mapRules, honFar]

/-- A detection rule is added at the end, without enforcement and reporting rules. -/
theorem addPdr_eq_ok {source : Interface} {far : FarId} {id : PdrId} {g' : RuleGraph}
    (hadd : g.addPdr source far = .ok (id, g')) :
    ∃ pdr : Pdr, pdr.id = g.lastPdr + 1 ∧ pdr.urrs = [] ∧ id = g.lastPdr + 1 ∧
      g' = { g with pdrs := g.pdrs ++ [pdr], lastPdr := g.lastPdr + 1 } := by
  rw [addPdr] at hadd
  split at hadd
  · simp only [Except.ok.injEq, Prod.mk.injEq] at hadd
    exact ⟨_, rfl, rfl, hadd.1.symm, hadd.2.symm⟩
  · cases hadd

namespace Distinct

theorem mapRules (h : g.Distinct) (honPdr : ∀ p, (onPdr p).id = p.id)
    (honFar : ∀ f, (onFar f).id = f.id) : (g.mapRules onPdr onFar).Distinct where
  pdrs := by
    rw [map_id_pdrs_mapRules honPdr]
    exact h.pdrs
  fars := by
    rw [map_id_fars_mapRules honFar]
    exact h.fars

/-- A detection rule is changed wherever it is. -/
theorem updatePdr_eq (h : g.Distinct) (id : PdrId) (f : Pdr → Pdr) :
    g.updatePdr id f = g.mapRules (fun p => if p.id = id then f p else p) fun far => far := by
  rw [updatePdr, updateFirst_eq_map h.pdrs, RuleGraph.mapRules, List.map_id']

theorem updateFar_eq (h : g.Distinct) (id : FarId) (f : Far → Far) :
    g.updateFar id f = g.mapRules (fun pdr => pdr) fun a => if a.id = id then f a else a := by
  rw [updateFar, updateFirst_eq_map h.fars, RuleGraph.mapRules, List.map_id']

theorem updatePdr (h : g.Distinct) (id : PdrId) {f : Pdr → Pdr} (hf : ∀ p, (f p).id = p.id) :
    (g.updatePdr id f).Distinct := by
  rw [h.updatePdr_eq]
  refine h.mapRules (fun p => ?_) fun _ => rfl
  split
  · exact hf p
  · rfl

/-- A change that is made once or twice comes to the same, so rules of either number may be
changed one after the other. -/
theorem updatePdr_both (h : g.Distinct) (id id' : PdrId) {f : Pdr → Pdr}
    (hid : ∀ p, (f p).id = p.id) (hf : ∀ p, f (f p) = f p) :
    (g.updatePdr id f).updatePdr id' f =
      g.mapRules (fun p => if p.id = id ∨ p.id = id' then f p else p) fun a => a := by
  rw [(h.updatePdr id hid).updatePdr_eq, h.updatePdr_eq, mapRules_mapRules]
  congr 1
  funext p
  rw [Function.comp_apply]
  -- A rule is changed twice exactly if it has both numbers.
  by_cases hp : p.id = id
  · by_cases hp' : p.id = id'
    · rw [if_pos hp, hid, if_pos hp', if_pos (Or.inl hp), hf]
    · rw [if_pos hp, hid, if_neg hp', if_pos (Or.inl hp)]
  · by_cases hp' : p.id = id'
    · rw [if_neg hp, if_pos hp', if_pos (Or.inr hp')]
    · rw [if_neg hp, if_neg hp', if_neg (not_or.mpr ⟨hp, hp'⟩)]

end Distinct

namespace Numbered

theorem distinct (h : g.Numbered) : g.Distinct :=
  ⟨h.pdrs.nodup, h.fars.nodup⟩

theorem mapRules (h : g.Numbered) (honPdr : ∀ p, (onPdr p).id = p.id)
    (honFar : ∀ f, (onFar f).id = f.id) : (g.mapRules onPdr onFar).Numbered where
  pdrs := by
    rw [map_id_pdrs_mapRules honPdr]
    exact h.pdrs
  fars := by
    rw [map_id_fars_mapRules honFar]
    exact h.fars
  qers := h.qers
  urrs := h.urrs

theorem addQer (h : g.Numbered) (maximum : RatePair) (hlt : g.lastQer < g.lastQer + 1) :
    (g.addQer maximum).2.Numbered where
  pdrs := h.pdrs
  fars := h.fars
  qers := by
    rw [RuleGraph.addQer, List.map_append]
    exact h.qers.append_next hlt
  urrs := h.urrs

/-- A new enforcement rule is found under its number, which no other one has. -/
theorem qer?_addQer (h : g.Numbered) (maximum : RatePair) (hlt : g.lastQer < g.lastQer + 1) :
    (g.addQer maximum).2.qer? (g.addQer maximum).1 = some { id := g.lastQer + 1, maximum } := by
  have hnodup := (h.addQer maximum hlt).qers.nodup
  refine (find?_key_eq_some hnodup).mpr ⟨?_, rfl⟩
  rw [RuleGraph.addQer]
  exact List.mem_append_right _ (List.mem_singleton.mpr rfl)

end Numbered

/-! ## Associations -/

theorem isSome_pdr?_updatePdr {f : Pdr → Pdr} (hf : ∀ p, (f p).id = p.id) (id id' : PdrId) :
    ((g.updatePdr id f).pdr? id').isSome = (g.pdr? id').isSome := by
  rw [updatePdr, pdr?, find?_key_updateFirst hf, Option.isSome_map, ← pdr?]

theorem associateQer_eq_ok {pdr : PdrId} {qer : QerId} {g' : RuleGraph} :
    g.associateQer pdr qer = .ok g' ↔ (g.qer? qer).isSome ∧ (g.pdr? pdr).isSome ∧
      g' = g.updatePdr pdr fun p => { p with qers := insertLast qer p.qers } := by
  rw [associateQer]
  cases g.qer? qer with
  | none => simp
  | some q =>
    cases g.pdr? pdr with
    | none => simp
    | some p => simpa using eq_comm

theorem associateUrr_eq_ok {pdr : PdrId} {urr : UrrId} {g' : RuleGraph} :
    g.associateUrr pdr urr = .ok g' ↔ (g.urr? urr).isSome ∧ (g.pdr? pdr).isSome ∧
      g' = g.updatePdr pdr fun p => { p with urrs := insertLast urr p.urrs } := by
  rw [associateUrr]
  cases g.urr? urr with
  | none => simp
  | some u =>
    cases g.pdr? pdr with
    | none => simp
    | some p => simpa using eq_comm

/-- Two changes of detection rules, each on a condition that the first does not touch, are one
change of both. -/
theorem Distinct.updatePdr_both_iff (h : g.Distinct) (pdr pdr' : PdrId) {f : Pdr → Pdr}
    (hid : ∀ p, (f p).id = p.id) (hf : ∀ p, f (f p) = f p) (there : RuleGraph → Prop)
    (hthere : there (g.updatePdr pdr f) ↔ there g) {g' : RuleGraph} :
    (∃ g₁, (there g ∧ (g.pdr? pdr).isSome ∧ g₁ = g.updatePdr pdr f) ∧
        there g₁ ∧ (g₁.pdr? pdr').isSome ∧ g' = g₁.updatePdr pdr' f) ↔
      there g ∧ (g.pdr? pdr).isSome ∧ (g.pdr? pdr').isSome ∧
        g' = g.mapRules (fun p => if p.id = pdr ∨ p.id = pdr' then f p else p) fun a => a := by
  rw [← h.updatePdr_both pdr pdr' hid hf]
  constructor
  · rintro ⟨g₁, ⟨hg, hpdr, rfl⟩, -, hpdr', rfl⟩
    rw [isSome_pdr?_updatePdr hid] at hpdr'
    exact ⟨hg, hpdr, hpdr', rfl⟩
  · rintro ⟨hg, hpdr, hpdr', rfl⟩
    refine ⟨_, ⟨hg, hpdr, rfl⟩, hthere.mpr hg, ?_, rfl⟩
    rw [isSome_pdr?_updatePdr hid]
    exact hpdr'

/-- An enforcement rule that is applied to two detection rules is applied once to each. -/
theorem Distinct.associateQer_both (h : g.Distinct) {pdr pdr' : PdrId} {qer : QerId}
    {g' : RuleGraph} :
    (∃ g₁, g.associateQer pdr qer = .ok g₁ ∧ g₁.associateQer pdr' qer = .ok g') ↔
      (g.qer? qer).isSome ∧ (g.pdr? pdr).isSome ∧ (g.pdr? pdr').isSome ∧
        g' = g.mapRules (fun p => if p.id = pdr ∨ p.id = pdr'
          then { p with qers := insertLast qer p.qers } else p) fun f => f := by
  simp only [associateQer_eq_ok]
  exact h.updatePdr_both_iff pdr pdr' (f := fun p => { p with qers := insertLast qer p.qers })
    (fun _ => rfl) (fun p => by rw [insertLast_insertLast]) (fun g => (g.qer? qer).isSome) Iff.rfl

theorem Distinct.associateUrr_both (h : g.Distinct) {pdr pdr' : PdrId} {urr : UrrId}
    {g' : RuleGraph} :
    (∃ g₁, g.associateUrr pdr urr = .ok g₁ ∧ g₁.associateUrr pdr' urr = .ok g') ↔
      (g.urr? urr).isSome ∧ (g.pdr? pdr).isSome ∧ (g.pdr? pdr').isSome ∧
        g' = g.mapRules (fun p => if p.id = pdr ∨ p.id = pdr'
          then { p with urrs := insertLast urr p.urrs } else p) fun f => f := by
  simp only [associateUrr_eq_ok]
  exact h.updatePdr_both_iff pdr pdr' (f := fun p => { p with urrs := insertLast urr p.urrs })
    (fun _ => rfl) (fun p => by rw [insertLast_insertLast]) (fun g => (g.urr? urr).isSome) Iff.rfl

end RuleGraph

end SessionControl
