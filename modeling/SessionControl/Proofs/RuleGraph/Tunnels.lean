import SessionControl.Proofs.Policy.Frame

/-!
# Tunnel numbers

Each session index has 256 tunnel indices of its own, and a detection rule is given the one that
its number says. A user-plane node may ask for the top bits of a tunnel number to be those of its
range, and the rest of the number is then that of the index.

## Main definitions

- `Teid.rangeWidth` — how many bits of a number name the range
- `Teid.DividesNumbers` — the ranges of a width share the numbers out among them
- `RuleGraph.KeepsOrigins`, `RuleGraph.KeepsTunnels` — detection rules are neither added nor
  removed, and keep their tunnel indices, or their endpoints as well
- `RuleGraph.CountsUp` — the numbers of detection rules and their tunnel indices were counted up
- `RuleGraph.Receives` — a detection rule has a tunnel endpoint with a certain number

## Main statements

- `Teid.toNat_inRange` — a number in a range is put together from the range and the index
- `Teid.inRange_eq_iff` — when two indices are mapped to the same number
- `Teid.inRange_inj`, `Teid.eq_of_inRange_eq` — indices that fit into the range stay apart
- `Teid.dividesNumbers` — mapping indices into ranges divides the numbers
- `RuleGraph.CountsUp.addPdr` — another detection rule is counted up if there is room for it
-/

namespace SessionControl

open Attempt

/-! ## Numbers in a range -/

namespace Teid

/-- How many bits of a number name the range: seven at most. -/
def rangeWidth (rangeBits : UInt8) : Nat :=
  min rangeBits.toNat 7

theorem rangeWidth_le (rangeBits : UInt8) : rangeWidth rangeBits ≤ 7 :=
  Nat.min_le_right _ _

/-- An index that is small enough is shifted as a whole. -/
theorem toNat_base {index : UInt32} (h : index.toNat < 2 ^ 24) :
    (base index).toNat = index.toNat * 256 := by
  rw [base, UInt32.toNat_shiftLeft, Nat.shiftLeft_eq]
  change index.toNat * 256 % 2 ^ 32 = _
  omega

theorem toNat_indexBits (rangeBits : UInt8) :
    (indexBits rangeBits).toNat = 32 - rangeWidth rangeBits := by
  have hmin : (min rangeBits 7).toNat = rangeWidth rangeBits :=
    apply_ite UInt8.toNat (rangeBits ≤ 7) rangeBits 7
  have hle := rangeWidth_le rangeBits
  have hwide : (min rangeBits 7).toUInt32 ≤ 32 := by
    rw [UInt32.le_iff_toNat_le, UInt8.toNat_toUInt32, hmin]
    exact hle.trans (by decide)
  rw [indexBits, UInt32.toNat_sub_of_le _ _ hwide, UInt8.toNat_toUInt32, hmin]
  rfl

theorem one_shiftLeft_toNat {bits : UInt32} (h : bits.toNat < 32) :
    ((1 : UInt32) <<< bits).toNat = 2 ^ bits.toNat := by
  rw [UInt32.toNat_shiftLeft, Nat.mod_eq_of_lt h, Nat.shiftLeft_eq, UInt32.toNat_one, Nat.one_mul]
  exact Nat.mod_eq_of_lt (Nat.pow_lt_pow_right (by decide) h)

/-- The mask of the index keeps what is below the range. -/
theorem toNat_mask {bits : UInt32} (h : bits.toNat < 32) :
    ((1 : UInt32) <<< bits - 1).toNat = 2 ^ bits.toNat - 1 := by
  have hone : (1 : UInt32) ≤ 1 <<< bits := by
    rw [UInt32.le_iff_toNat_le, one_shiftLeft_toNat h]
    exact Nat.one_le_two_pow
  rw [UInt32.toNat_sub_of_le _ _ hone, one_shiftLeft_toNat h, UInt32.toNat_one]

theorem toNat_inRange (index : UInt32) (rangeBits range : UInt8) :
    (inRange index rangeBits range).toNat =
      range.toNat % 2 ^ rangeWidth rangeBits * 2 ^ (32 - rangeWidth rangeBits) +
        index.toNat % 2 ^ (32 - rangeWidth rangeBits) := by
  rw [inRange]
  split
  · next hzero =>
    rw [hzero]
    change index.toNat = range.toNat % 1 * 2 ^ 32 + index.toNat % 2 ^ 32
    rw [Nat.mod_one, Nat.zero_mul, Nat.zero_add, Nat.mod_eq_of_lt index.toNat_lt]
  · next hpos =>
    have hle := rangeWidth_le rangeBits
    have hbits := toNat_indexBits rangeBits
    have hpos' : rangeBits.toNat ≠ 0 := by
      intro hzero
      exact hpos (UInt8.toNat_inj.mp hzero)
    have hlt : (indexBits rangeBits).toNat < 32 := by
      rw [hbits, rangeWidth]
      omega
    have hmod : range.toNat * 2 ^ (32 - rangeWidth rangeBits) % 2 ^ 32 =
        range.toNat % 2 ^ rangeWidth rangeBits * 2 ^ (32 - rangeWidth rangeBits) := by
      rw [← Nat.mul_mod_mul_right, ← Nat.pow_add]
      congr 2
      omega
    rw [UInt32.toNat_or, UInt32.toNat_and, toNat_mask hlt, UInt32.toNat_shiftLeft,
      Nat.mod_eq_of_lt hlt, Nat.shiftLeft_eq, UInt8.toNat_toUInt32, hbits, hmod,
      Nat.and_two_pow_sub_one_eq_mod, ← Nat.shiftLeft_eq]
    exact (Nat.shiftLeft_add_eq_or_of_lt (Nat.mod_lt _ (Nat.two_pow_pos _)) _).symm

/-- The range is in the top bits of a number. -/
theorem toNat_inRange_div (index : UInt32) (rangeBits range : UInt8) :
    (inRange index rangeBits range).toNat / 2 ^ (32 - rangeWidth rangeBits) =
      range.toNat % 2 ^ rangeWidth rangeBits := by
  have hpos : 0 < 2 ^ (32 - rangeWidth rangeBits) := Nat.two_pow_pos _
  rw [toNat_inRange, Nat.mul_comm, Nat.mul_add_div hpos, Nat.div_eq_of_lt (Nat.mod_lt _ hpos),
    Nat.add_zero]

/-- The other bits are those of the index. -/
theorem toNat_inRange_mod_two_pow (index : UInt32) (rangeBits range : UInt8) :
    (inRange index rangeBits range).toNat % 2 ^ (32 - rangeWidth rangeBits) =
      index.toNat % 2 ^ (32 - rangeWidth rangeBits) := by
  rw [toNat_inRange, Nat.mul_comm, Nat.mul_add_mod, Nat.mod_mod]

/-- Whatever the range, the low 25 bits are those of the index. -/
theorem toNat_inRange_mod (index : UInt32) (rangeBits range : UInt8) :
    (inRange index rangeBits range).toNat % 2 ^ 25 = index.toNat % 2 ^ 25 := by
  have hdvd : 2 ^ 25 ∣ 2 ^ (32 - rangeWidth rangeBits) := by
    refine Nat.pow_dvd_pow 2 ?_
    have hle := rangeWidth_le rangeBits
    omega
  rw [← Nat.mod_mod_of_dvd _ hdvd, toNat_inRange_mod_two_pow, Nat.mod_mod_of_dvd _ hdvd]

/-- Numbers are the same if the bits are that they are put together from. -/
theorem inRange_eq_iff {i j : UInt32} {rangeBits range range' : UInt8} :
    inRange i rangeBits range = inRange j rangeBits range' ↔
      range.toNat % 2 ^ rangeWidth rangeBits = range'.toNat % 2 ^ rangeWidth rangeBits ∧
        i.toNat % 2 ^ (32 - rangeWidth rangeBits) = j.toNat % 2 ^ (32 - rangeWidth rangeBits) := by
  constructor
  · intro h
    constructor
    · rw [← toNat_inRange_div i, ← toNat_inRange_div j, h]
    · rw [← toNat_inRange_mod_two_pow i rangeBits range, h, toNat_inRange_mod_two_pow]
  · rintro ⟨hrange, hindex⟩
    rw [← UInt32.toNat_inj, toNat_inRange, toNat_inRange, hrange, hindex]

/-- An index that fits into a range is not changed by the other indices that do. -/
theorem inRange_inj {i j : UInt32} {rangeBits range : UInt8}
    (hi : i.toNat < 2 ^ (32 - rangeWidth rangeBits))
    (hj : j.toNat < 2 ^ (32 - rangeWidth rangeBits))
    (h : inRange i rangeBits range = inRange j rangeBits range) : i = j := by
  obtain ⟨-, hindex⟩ := inRange_eq_iff.mp h
  rw [Nat.mod_eq_of_lt hi, Nat.mod_eq_of_lt hj] at hindex
  exact UInt32.toNat_inj.mp hindex

/-- An index that is used as it is is in the range only if the range is the lowest one. -/
theorem eq_of_inRange_eq {i j : UInt32} {rangeBits range : UInt8}
    (hi : i.toNat < 2 ^ (32 - rangeWidth rangeBits))
    (hj : j.toNat < 2 ^ (32 - rangeWidth rangeBits)) (h : inRange i rangeBits range = j) :
    i = j := by
  have hnat := congrArg UInt32.toNat h
  rw [toNat_inRange, Nat.mod_eq_of_lt hi] at hnat
  have hlowest : range.toNat % 2 ^ rangeWidth rangeBits = 0 := by
    by_contra hpos
    have hone := Nat.mul_le_mul_right (2 ^ (32 - rangeWidth rangeBits))
      (Nat.one_le_iff_ne_zero.mpr hpos)
    omega
  rw [hlowest, Nat.zero_mul, Nat.zero_add] at hnat
  exact UInt32.toNat_inj.mp hnat

/-- Mapping indices into ranges divides the numbers: those of a range, which its top bits tell from
those of any other, have the bits of an index below. -/
structure DividesNumbers (rangeBits : UInt8) : Prop where
  /-- Without range bits there is one range, and an index is its number. -/
  whole : rangeWidth rangeBits = 0 → ∀ index range, inRange index rangeBits range = index
  /-- With range bits, numbers are shifted by less than their width. -/
  shift : rangeWidth rangeBits ≠ 0 →
    (indexBits rangeBits).toNat = 32 - rangeWidth rangeBits ∧ (indexBits rangeBits).toNat < 32 ∧
      (1 : UInt32) ≤ 1 <<< indexBits rangeBits
  joined : ∀ index range, (inRange index rangeBits range).toNat =
    range.toNat % 2 ^ rangeWidth rangeBits * 2 ^ (32 - rangeWidth rangeBits) +
      index.toNat % 2 ^ (32 - rangeWidth rangeBits)
  top : ∀ index range, (inRange index rangeBits range).toNat / 2 ^ (32 - rangeWidth rangeBits) =
    range.toNat % 2 ^ rangeWidth rangeBits
  rest : ∀ index range, (inRange index rangeBits range).toNat % 2 ^ (32 - rangeWidth rangeBits) =
    index.toNat % 2 ^ (32 - rangeWidth rangeBits)
  again : ∀ index range,
    inRange (inRange index rangeBits range) rangeBits range = inRange index rangeBits range
  injective : ∀ i j range, i.toNat < 2 ^ (32 - rangeWidth rangeBits) →
    j.toNat < 2 ^ (32 - rangeWidth rangeBits) →
    inRange i rangeBits range = inRange j rangeBits range → i = j
  apart : ∀ i j range range',
    range.toNat % 2 ^ rangeWidth rangeBits ≠ range'.toNat % 2 ^ rangeWidth rangeBits →
    inRange i rangeBits range ≠ inRange j rangeBits range'

/-- However many range bits a node asks for, and whatever the range and the index are, numbers are
divided among the ranges. -/
theorem dividesNumbers (rangeBits : UInt8) : DividesNumbers rangeBits where
  whole := by
    intro hzero index range
    rw [← UInt32.toNat_inj, toNat_inRange, hzero, Nat.pow_zero, Nat.mod_one, Nat.zero_mul,
      Nat.zero_add]
    exact Nat.mod_eq_of_lt index.toNat_lt
  shift := by
    intro hpos
    have hbits := toNat_indexBits rangeBits
    have hlt : (indexBits rangeBits).toNat < 32 := by omega
    refine ⟨hbits, hlt, ?_⟩
    rw [UInt32.le_iff_toNat_le, one_shiftLeft_toNat hlt]
    exact Nat.one_le_two_pow
  joined index range := toNat_inRange index rangeBits range
  top index range := toNat_inRange_div index rangeBits range
  rest index range := toNat_inRange_mod_two_pow index rangeBits range
  again index range := inRange_eq_iff.mpr ⟨rfl, toNat_inRange_mod_two_pow index rangeBits range⟩
  injective _ _ _ hi hj h := inRange_inj hi hj h
  apart _ _ _ _ hne h := hne (inRange_eq_iff.mp h).1

/-- Four range bits, of a range with a bit more than that. -/
example : inRange 0xffffffff 4 0x1a = 0xafffffff := by decide

end Teid

/-! ## Detection rules with their tunnel indices -/

/-- What a detection rule is given when it is added and keeps ever after. -/
def Pdr.origin (p : Pdr) : PdrId × Interface × UInt32 :=
  (p.id, p.source, p.teid)

/-- What a detection rule has to do with tunnels. -/
def Pdr.tunnel (p : Pdr) : (PdrId × Interface × UInt32) × Option FTeid :=
  (p.origin, p.fTeid)

namespace RuleGraph

variable {g g' g'' : RuleGraph} {id : PdrId}

/-- No detection rule is added or removed, and each keeps what it was given. -/
structure KeepsOrigins (g g' : RuleGraph) : Prop where
  base : g'.teidBase = g.teidBase
  last : g'.lastPdr = g.lastPdr
  origins : g'.pdrs.map Pdr.origin = g.pdrs.map Pdr.origin

/-- No detection rule is added or removed, and each keeps its tunnel endpoint as well. -/
structure KeepsTunnels (g g' : RuleGraph) : Prop where
  base : g'.teidBase = g.teidBase
  last : g'.lastPdr = g.lastPdr
  tunnels : g'.pdrs.map Pdr.tunnel = g.pdrs.map Pdr.tunnel

theorem KeepsOrigins.length (h : g.KeepsOrigins g') : g'.pdrs.length = g.pdrs.length := by
  have hlength := congrArg List.length h.origins
  rw [List.length_map, List.length_map] at hlength
  exact hlength

theorem KeepsOrigins.of_outline (h : g'.outline = g.outline) : g.KeepsOrigins g' := by
  have horigins : ∀ g : RuleGraph, g.outline.pdrs.map Pdr.origin = g.pdrs.map Pdr.origin := by
    intro g
    simp [outline, mapRules, Pdr.outline, Pdr.origin]
  have hbase : g'.outline.teidBase = g.outline.teidBase := by rw [h]
  have hlast : g'.outline.lastPdr = g.outline.lastPdr := by rw [h]
  refine ⟨hbase, hlast, ?_⟩
  rw [← horigins g', h, horigins g]

/-- What a rule was given can be read off the rules in their order. -/
theorem KeepsOrigins.origin_pdr? (h : g.KeepsOrigins g') (id : PdrId) :
    (g'.pdr? id).map Pdr.origin = (g.pdr? id).map Pdr.origin := by
  have hread : ∀ g : RuleGraph, (g.pdr? id).map Pdr.origin =
      (g.pdrs.map Pdr.origin).find? (·.1 == id) := by
    intro g
    rw [List.find?_map]
    rfl
  rw [hread g', h.origins, ← hread g]

/-- What a rule has to do with tunnels can be read off the rules in their order as well. -/
theorem map_tunnel_pdr? (g : RuleGraph) (id : PdrId) :
    (g.pdr? id).map Pdr.tunnel = (g.pdrs.map Pdr.tunnel).find? (·.1.1 == id) := by
  rw [List.find?_map]
  rfl

namespace KeepsTunnels

theorem refl (g : RuleGraph) : g.KeepsTunnels g := ⟨rfl, rfl, rfl⟩

theorem trans (h : g.KeepsTunnels g') (h' : g'.KeepsTunnels g'') : g.KeepsTunnels g'' where
  base := h'.base.trans h.base
  last := h'.last.trans h.last
  tunnels := h'.tunnels.trans h.tunnels

theorem keepsOrigins (h : g.KeepsTunnels g') : g.KeepsOrigins g' where
  base := h.base
  last := h.last
  origins := by
    have hfst := congrArg (List.map Prod.fst) h.tunnels
    rw [List.map_map, List.map_map] at hfst
    exact hfst

theorem tunnel_pdr? (h : g.KeepsTunnels g') (id : PdrId) :
    (g'.pdr? id).map Pdr.tunnel = (g.pdr? id).map Pdr.tunnel := by
  rw [map_tunnel_pdr?, h.tunnels, ← map_tunnel_pdr?]

theorem of_updatePdr {f : Pdr → Pdr} (hf : ∀ p, (f p).tunnel = p.tunnel) (g : RuleGraph)
    (id : PdrId) : g.KeepsTunnels (g.updatePdr id f) := by
  refine ⟨rfl, rfl, ?_⟩
  rw [updatePdr, map_updateFirst]
  exact fun p _ => hf p

end KeepsTunnels

theorem UrrsChanged.keepsTunnels (h : g.UrrsChanged g') : g.KeepsTunnels g' := by
  obtain ⟨onUrrs, h⟩ := h
  rw [h]
  exact ⟨rfl, rfl, by rw [List.map_map]; rfl⟩

theorem QersChanged.keepsTunnels (h : g.QersChanged g') : g.KeepsTunnels g' := by
  obtain ⟨onQers, h⟩ := h
  rw [h]
  exact ⟨rfl, rfl, by rw [List.map_map]; rfl⟩

theorem MayAddFar.keepsTunnels (h : g.MayAddFar g') : g.KeepsTunnels g' := by
  obtain rfl | ⟨far, -, rfl⟩ := h
  · exact .refl _
  · exact ⟨rfl, rfl, rfl⟩

theorem keepsTunnels_associateUrr {pdr : PdrId} {urr : UrrId}
    (h : g.associateUrr pdr urr = .ok g') : g.KeepsTunnels g' := by
  obtain ⟨-, -, rfl⟩ := associateUrr_eq_ok.mp h
  refine .of_updatePdr ?_ g pdr
  exact fun _ => rfl

theorem keepsTunnels_associateQer {pdr : PdrId} {qer : QerId}
    (h : g.associateQer pdr qer = .ok g') : g.KeepsTunnels g' := by
  obtain ⟨-, -, rfl⟩ := associateQer_eq_ok.mp h
  refine .of_updatePdr ?_ g pdr
  exact fun _ => rfl

theorem keepsTunnels_applyMeters {uplink downlink : PdrId} {ms : List Meter}
    (hok : (g.applyMeters uplink downlink ms).result = .ok g') : g.KeepsTunnels g' := by
  induction ms generalizing g with
  | nil =>
    rw [applyMeters, result_pure, Except.ok.injEq] at hok
    rw [hok]
    exact .refl _
  | cons m ms ih =>
    simp only [applyMeters, result_bind_eq_ok, result_ofGraph_eq_ok] at hok
    obtain ⟨_, -, g₁, hup, g₂, hdown, hrest⟩ := hok
    exact (keepsTunnels_associateUrr hup).trans ((keepsTunnels_associateUrr hdown).trans (ih hrest))

/-! ## Counting up -/

/-- The detection rules have the numbers from one on in the order in which they were added, and the
tunnel indices that follow the base of the graph. The numbers are those of unbounded arithmetic, so
no addition has overflowed. -/
structure CountsUp (g : RuleGraph) : Prop where
  last : g.lastPdr.toNat = g.pdrs.length
  numbers : g.pdrs.map (fun p => (p.id.toNat, p.teid.toNat)) =
    (List.range g.pdrs.length).map fun k => (k + 1, g.teidBase.toNat + (k + 1))

namespace CountsUp

theorem empty (base : UInt32) : ({ teidBase := base } : RuleGraph).CountsUp :=
  ⟨rfl, rfl⟩

theorem mono (h : g.CountsUp) (hg : g.KeepsOrigins g') : g'.CountsUp where
  last := by
    rw [hg.last, hg.length]
    exact h.last
  numbers := by
    have hmap := congrArg (List.map fun o => (o.1.toNat, o.2.2.toNat)) hg.origins
    rw [List.map_map, List.map_map] at hmap
    rw [hg.length, hg.base, ← h.numbers]
    exact hmap

theorem of_mem (h : g.CountsUp) {p : Pdr} (hp : p ∈ g.pdrs) :
    p.id.toNat ≤ g.pdrs.length ∧ p.teid.toNat = g.teidBase.toNat + p.id.toNat := by
  have hmem := List.mem_map_of_mem (f := fun p : Pdr => (p.id.toNat, p.teid.toNat)) hp
  rw [h.numbers, List.mem_map] at hmem
  obtain ⟨k, hk, heq⟩ := hmem
  obtain ⟨hid, hteid⟩ := Prod.mk.inj heq
  rw [List.mem_range] at hk
  rw [← hid, ← hteid]
  exact ⟨hk, rfl⟩

theorem nodup_teids (h : g.CountsUp) : (g.pdrs.map (·.teid)).Nodup := by
  have hteids : (g.pdrs.map (·.teid)).map UInt32.toNat =
      (List.range g.pdrs.length).map fun k => g.teidBase.toNat + (k + 1) := by
    have hsnd := congrArg (List.map Prod.snd) h.numbers
    rw [List.map_map, List.map_map] at hsnd
    rw [List.map_map]
    exact hsnd
  refine List.Nodup.of_map UInt32.toNat ?_
  rw [hteids]
  refine List.Nodup.map ?_ List.nodup_range
  intro k l hkl
  exact Nat.succ.inj (Nat.add_left_cancel hkl)

end CountsUp

/-- What an addition of a detection rule does to the rules and to the counter. -/
theorem pdrs_addPdr {source : Interface} {far : FarId} (hadd : g.addPdr source far = .ok (id, g')) :
    id = g.lastPdr + 1 ∧ g'.teidBase = g.teidBase ∧ g'.lastPdr = id ∧ g'.pdrs = g.pdrs ++
      [{ id, source, teid := g.teidBase + id.toUInt32, far }] := by
  rw [RuleGraph.addPdr] at hadd
  split at hadd
  · obtain ⟨rfl, rfl⟩ := Prod.mk.inj (Except.ok.inj hadd)
    exact ⟨rfl, rfl, rfl, rfl⟩
  · cases hadd

/-- Another rule is counted up if there is room for it. -/
theorem CountsUp.addPdr {source : Interface} {far : FarId} (h : g.CountsUp)
    (hadd : g.addPdr source far = .ok (id, g')) (hroom : g.pdrs.length < 255)
    (hbase : g.teidBase.toNat + 255 < 2 ^ 32) : g'.CountsUp := by
  obtain ⟨rfl, hbase', hlast, hpdrs⟩ := pdrs_addPdr hadd
  have hid : (g.lastPdr + 1).toNat = g.pdrs.length + 1 := by
    rw [UInt16.toNat_add, h.last, UInt16.toNat_one]
    omega
  have hteid : (g.teidBase + (g.lastPdr + 1).toUInt32).toNat =
      g.teidBase.toNat + (g.pdrs.length + 1) := by
    rw [UInt32.toNat_add, UInt16.toNat_toUInt32, hid]
    omega
  constructor
  case last =>
    rw [hlast, hid, hpdrs, List.length_append, List.length_singleton]
  case numbers =>
    rw [hpdrs, hbase', List.length_append, List.length_singleton, List.range_succ, List.map_append,
      List.map_append, h.numbers, List.map_singleton, List.map_singleton, hid, hteid]

/-- The number of a new rule is not taken. -/
theorem CountsUp.pdr?_eq_none {source : Interface} {far : FarId} (h : g.CountsUp)
    (hadd : g.addPdr source far = .ok (id, g')) (hroom : g.pdrs.length < 255) :
    g.pdr? id = none := by
  obtain ⟨rfl, -, -, -⟩ := pdrs_addPdr hadd
  rw [pdr?, List.find?_eq_none]
  intro p hp htaken
  have hid : p.id = g.lastPdr + 1 := by simpa using htaken
  have hle := (h.of_mem hp).1
  rw [hid, UInt16.toNat_add, h.last, UInt16.toNat_one] at hle
  omega

theorem pdr?_addPdr {source : Interface} {far : FarId} (hadd : g.addPdr source far = .ok (id, g'))
    (j : PdrId) : g'.pdr? j = (g.pdr? j).or
      (if j = id then some { id, source, teid := g.teidBase + id.toUInt32, far } else none) := by
  obtain ⟨-, -, -, hpdrs⟩ := pdrs_addPdr hadd
  rw [pdr?, hpdrs, List.find?_append, ← pdr?]
  congr 1
  by_cases hj : j = id
  · simp [hj]
  · have hne : (id == j) = false := beq_false_of_ne (Ne.symm hj)
    simp [hj, hne]

theorem id_of_pdr? {p : Pdr} (h : g.pdr? id = some p) : p.id = id := by
  simpa using List.find?_some h

/-! ## Tunnel endpoints -/

/-- The detection rule under a number has a tunnel endpoint whose number is `teid`; `index` is the
tunnel index that was set aside for the rule. The endpoint is not left to the user-plane node. -/
def Receives (g : RuleGraph) (id : PdrId) (index teid : UInt32) : Prop :=
  ∃ p e, g.pdr? id = some p ∧ p.teid = index ∧ p.fTeid = some e ∧ e.choose = false ∧
    e.teid = teid

theorem Receives.keepsTunnels {index teid : UInt32} (h : g.Receives id index teid)
    (hg : g.KeepsTunnels g') : g'.Receives id index teid := by
  obtain ⟨p, e, hp, hindex, he, hchoose, hteid⟩ := h
  have hsame := hg.tunnel_pdr? id
  rw [hp, Option.map_some, Option.map_eq_some_iff] at hsame
  obtain ⟨p', hp', htunnel⟩ := hsame
  obtain ⟨horigin, hend⟩ := Prod.mk.inj htunnel
  obtain ⟨-, hingress⟩ := Prod.mk.inj horigin
  obtain ⟨-, hindex'⟩ := Prod.mk.inj hingress
  exact ⟨p', e, hp', hindex'.trans hindex, hend.trans he, hchoose, hteid⟩

theorem Receives.addPdr {index teid : UInt32} {source : Interface} {far : FarId} {j : PdrId}
    (h : g.Receives j index teid) (hadd : g.addPdr source far = .ok (id, g')) :
    g'.Receives j index teid := by
  obtain ⟨p, e, hp, hrest⟩ := h
  refine ⟨p, e, ?_, hrest⟩
  rw [pdr?_addPdr hadd, hp, Option.some_or]

theorem pdr?_receiveAt (g : RuleGraph) (id j : PdrId) (e : FTeid) :
    (g.receiveAt id e).pdr? j =
      (g.pdr? j).map fun p => if p.id = id then { p with fTeid := some e } else p := by
  rw [receiveAt, updatePdr, pdr?, find?_key_updateFirst, ← pdr?]
  exact fun _ => rfl

end RuleGraph

end SessionControl
