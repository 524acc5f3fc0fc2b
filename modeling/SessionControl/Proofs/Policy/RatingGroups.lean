import Mathlib.Data.List.Sort
import SessionControl.Proofs.Policy.Metering

/-!
# The rating groups of rules

Which rating groups a list of rules has, and in which order. The order is that in which the meters
of new groups are given their numbers, so it has to be the same whenever the same rules arrive:
groups are listed as they are met first. Rules that are read after others add only groups that have
not been met, at the end.

## Main definitions

- `Policy.firstRule` — where the first rule of a group stands
- `Policy.GroupsOf` — a list has the groups of rules, in the order of their first rules

## Main statements

- `Policy.GroupsOf.concat` — one more rule
- `Policy.groupsOf_ratingGroups`, `Policy.GroupsOf.eq` — the groups are listed in this order, and
  there is no other list of them
- `Policy.ratingGroups_append` — the groups of rules that are read after others
-/

namespace SessionControl.Policy

variable {rules : List Rule} {groups groups' : List UInt32} {r : Rule} {x : UInt32}

/-- Where the first rule of a rating group stands, from zero; the number of rules if there is
none. -/
def firstRule (rules : List Rule) (x : UInt32) : Nat :=
  rules.findIdx (·.ratingGroup == x)

/-- A list has the rating groups of rules, each of them once, in the order of their first rules.
Zero is not a rating group. -/
structure GroupsOf (rules : List Rule) (groups : List UInt32) : Prop where
  nodup : groups.Nodup
  mem_iff : ∀ x, x ∈ groups ↔ x ≠ 0 ∧ ∃ r ∈ rules, r.ratingGroup = x
  ordered : groups.Pairwise fun x y => firstRule rules x < firstRule rules y

/-! ## Where groups are met first -/

theorem firstRule_lt_length :
    firstRule rules x < rules.length ↔ ∃ r ∈ rules, r.ratingGroup = x := by
  rw [firstRule, List.findIdx_lt_length]
  simp

/-- Another rule at the end does not matter for the groups that have been met. -/
theorem firstRule_concat_of_lt (h : firstRule rules x < rules.length) :
    firstRule (rules ++ [r]) x = firstRule rules x := by
  rw [firstRule, List.findIdx_append, ← firstRule, if_pos h]

theorem length_le_firstRule_concat (h : ¬firstRule rules x < rules.length) :
    rules.length ≤ firstRule (rules ++ [r]) x := by
  rw [firstRule, List.findIdx_append, ← firstRule, if_neg h]
  exact Nat.le_add_left _ _

/-! ## One rule after another -/

theorem GroupsOf.firstRule_lt (h : GroupsOf rules groups) (hx : x ∈ groups) :
    firstRule rules x < rules.length :=
  firstRule_lt_length.mpr ((h.mem_iff x).mp hx).2

/-- The group of one more rule comes last, if it is new and not zero. -/
theorem GroupsOf.concat (h : GroupsOf rules groups) (r : Rule) :
    GroupsOf (rules ++ [r]) (noteGroup groups r) where
  nodup := by
    rw [noteGroup]
    split
    · exact h.nodup
    · exact nodup_insertLast h.nodup
  mem_iff := by
    intro x
    have hgroup : x ∈ noteGroup groups r ↔ x ∈ groups ∨ x ≠ 0 ∧ r.ratingGroup = x := by
      rw [noteGroup]
      split
      · next hzero =>
        rw [hzero]
        simp [eq_comm]
      · next hpos =>
        rw [mem_insertLast, eq_comm]
        constructor
        · rintro (rfl | hx)
          · exact .inr ⟨hpos, rfl⟩
          · exact .inl hx
        · rintro (hx | ⟨-, rfl⟩)
          · exact .inr hx
          · exact .inl rfl
    rw [hgroup, h.mem_iff]
    simp only [List.mem_append, List.mem_singleton, or_and_right, exists_or, exists_eq_left]
    exact and_or_left.symm
  ordered := by
    have hkept : groups.Pairwise fun x y =>
        firstRule (rules ++ [r]) x < firstRule (rules ++ [r]) y := by
      refine h.ordered.imp_of_mem fun hx hy hlt => ?_
      rw [firstRule_concat_of_lt (h.firstRule_lt hx), firstRule_concat_of_lt (h.firstRule_lt hy)]
      exact hlt
    rw [noteGroup, insertLast]
    split_ifs with hzero hthere
    · exact hkept
    · exact hkept
    · -- The first rule of a new group is the new one, and the others come before it.
      have hnew : ¬firstRule rules r.ratingGroup < rules.length := by
        intro hlt
        exact hthere ((h.mem_iff _).mpr ⟨hzero, firstRule_lt_length.mp hlt⟩)
      refine List.pairwise_append.mpr ⟨hkept, List.pairwise_singleton _ _, ?_⟩
      intro x hx y hy
      obtain rfl := List.mem_singleton.mp hy
      rw [firstRule_concat_of_lt (h.firstRule_lt hx)]
      exact (h.firstRule_lt hx).trans_le (length_le_firstRule_concat hnew)

/-! ## All rules -/

theorem ratingGroups_concat (rules : List Rule) (r : Rule) :
    ratingGroups (rules ++ [r]) = noteGroup (ratingGroups rules) r :=
  List.foldl_concat _ _ _ _

theorem groupsOf_ratingGroups (rules : List Rule) : GroupsOf rules (ratingGroups rules) := by
  induction rules using List.reverseRecOn with
  | nil => exact ⟨List.nodup_nil, by simp [ratingGroups], List.Pairwise.nil⟩
  | append_singleton rules r ih =>
    rw [ratingGroups_concat]
    exact ih.concat r

/-- The groups of rules can be listed in this order in one way only. -/
theorem GroupsOf.eq (h : GroupsOf rules groups) (h' : GroupsOf rules groups') :
    groups = groups' := by
  have hperm : groups.Perm groups' := by
    rw [List.perm_ext_iff_of_nodup h.nodup h'.nodup]
    intro x
    rw [h.mem_iff, h'.mem_iff]
  have : Std.Antisymm fun x y => firstRule rules x < firstRule rules y :=
    ⟨fun x y hxy hyx => absurd hxy hyx.asymm⟩
  exact hperm.eq_of_pairwise' h.ordered h'.ordered

/-- Rules that are read after others add the groups that have not been met. -/
theorem ratingGroups_append (rules rules' : List Rule) :
    ratingGroups (rules ++ rules') =
      ratingGroups rules ++ (ratingGroups rules').filter (· ∉ ratingGroups rules) := by
  have happend : ratingGroups (rules ++ rules') = rules'.foldl noteGroup (ratingGroups rules) :=
    List.foldl_append
  rw [happend, foldl_noteGroup, insertAll_eq_append, ← foldl_noteGroup]
  rfl

/-- The rating groups of rules, each once, without zero and in the order in which they are met
first, are those that are collected; and of rules that are read after others only the groups that
have not been met are collected, after those that have. -/
theorem collected_ratingGroups (rules rules' : List Rule) :
    (∀ groups, GroupsOf rules groups ↔ groups = ratingGroups rules) ∧
      ratingGroups (rules ++ rules') =
        ratingGroups rules ++ (ratingGroups rules').filter (· ∉ ratingGroups rules) := by
  refine ⟨fun groups => ⟨fun h => h.eq (groupsOf_ratingGroups rules), ?_⟩,
    ratingGroups_append rules rules'⟩
  rintro rfl
  exact groupsOf_ratingGroups rules

/-- A rule without a group, and a group that is met twice. -/
example : ratingGroups [{ name := "a", ratingGroup := 20 }, { name := "b" },
    { name := "c", ratingGroup := 10 }, { name := "d", ratingGroup := 20 }] = [20, 10] := by
  decide

end SessionControl.Policy
