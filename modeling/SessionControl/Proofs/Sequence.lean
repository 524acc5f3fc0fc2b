import SessionControl.Sequence
import Mathlib.Data.List.Induction
import Mathlib.Data.List.Nodup

/-!
# Stores and lists without repetition

A change of the first element with a property, and additions of elements once. In a store in
which no key occurs twice, the order of the elements does not matter: a change of the element
with a key is a map over the store, and a removal is a filter.

## Main definitions

- `insertAll` — adds elements in order, each of them once

## Main statements

- `updateFirst_of_fixed`, `find?_key_updateFirst` — when a change changes nothing, and what is
  found after one
- `updateFirst_eq_map`, `eraseP_eq_filter`, `find?_key_eq_some` — stores without repeated keys
- `lookup_put`, `lookup_filter_ne` — the value under a key after a change and after a removal
- `find?_key_concat`, `eraseP_key_concat` — an element that was added at the end
- `filter_insertLast_self`, `filter_insertLast_of_ne` — taking out an element after an addition
- `mem_insertAll`, `nodup_insertAll`, `insertAll_of_subset` — the elements after additions
- `insertAll_eq_append` — additions to some elements, by additions to none
-/

namespace SessionControl

/-! ## The first element with a property -/

section First

variable {α : Type} {p : α → Bool} {f : α → α} {as : List α}

/-- Nothing changes where the first element with the property stays as it is. -/
theorem updateFirst_of_fixed (h : ∀ a, as.find? p = some a → f a = a) :
    updateFirst p f as = as := by
  induction as with
  | nil => rfl
  | cons a as ih =>
    rw [updateFirst]
    cases hp : p a with
    | true =>
      have hfa : f a = a := h a (by simp [hp])
      simp [hfa]
    | false =>
      have hrest : updateFirst p f as = as := ih fun b hb => h b (by simp [hp, hb])
      simp [hrest]

/-- The image of a change is the change of the image. -/
theorem map_updateFirst_comm {β : Type} {q : β → Bool} {f' : β → β} {g : α → β}
    (hp : ∀ a, q (g a) = p a) (hf : ∀ a, g (f a) = f' (g a)) :
    (updateFirst p f as).map g = updateFirst q f' (as.map g) := by
  induction as with
  | nil => rfl
  | cons a as ih =>
    rw [List.map_cons, updateFirst, updateFirst, hp]
    split
    · rw [List.map_cons, hf]
    · rw [List.map_cons, ih]

theorem mem_of_mem_updateFirst {b : α} (h : b ∈ updateFirst p f as) :
    b ∈ as ∨ ∃ a ∈ as, b = f a := by
  induction as with
  | nil => exact Or.inl h
  | cons a as ih =>
    rw [updateFirst] at h
    split at h
    · obtain rfl | h := List.mem_cons.mp h
      · exact Or.inr ⟨a, List.mem_cons_self, rfl⟩
      · exact Or.inl (List.mem_cons_of_mem a h)
    · obtain rfl | h := List.mem_cons.mp h
      · exact Or.inl List.mem_cons_self
      · obtain hb | ⟨c, hc, rfl⟩ := ih h
        · exact Or.inl (List.mem_cons_of_mem a hb)
        · exact Or.inr ⟨c, List.mem_cons_of_mem a hc, rfl⟩

end First

/-! ## Stores without repeated keys -/

section Keyed

variable {α κ : Type} [DecidableEq κ] {key : α → κ} {as : List α}

/-- Changing the element with a key is a map if no key occurs twice. -/
theorem updateFirst_eq_map (h : (as.map key).Nodup) (k : κ) (f : α → α) :
    updateFirst (key · == k) f as = as.map fun a => if key a = k then f a else a := by
  induction as with
  | nil => rfl
  | cons a as ih =>
    rw [List.map_cons, List.nodup_cons] at h
    obtain ⟨hfresh, htail⟩ := h
    rw [updateFirst, List.map_cons, ih htail]
    by_cases hk : key a = k
    · -- The key is used up, so the map changes nothing further on.
      have hrest : ∀ b ∈ as, (if key b = k then f b else b) = b := by
        intro b hb
        have hne : key b ≠ k := by
          intro hbk
          exact hfresh (hk ▸ hbk ▸ List.mem_map_of_mem hb)
        rw [if_neg hne]
      have hmap : (as.map fun b => if key b = k then f b else b) = as := by
        rw [List.map_congr_left hrest, List.map_id'']
        exact fun _ => rfl
      simp [hk, hmap]
    · simp [hk]

theorem eraseP_eq_filter (h : (as.map key).Nodup) (k : κ) :
    as.eraseP (key · == k) = as.filter (key · != k) := by
  induction as with
  | nil => rfl
  | cons a as ih =>
    rw [List.map_cons, List.nodup_cons] at h
    obtain ⟨hfresh, htail⟩ := h
    rw [List.eraseP_cons, List.filter_cons, ih htail]
    by_cases hk : key a = k
    · have hrest : as.filter (key · != k) = as := by
        rw [List.filter_eq_self]
        intro b hb
        have hne : key b ≠ k := by
          intro hbk
          exact hfresh (hk ▸ hbk ▸ List.mem_map_of_mem hb)
        simpa using hne
      simp [hk, hrest]
    · have hkey : (key a == k) = false := beq_false_of_ne hk
      simp [hk, hkey]

/-- Removing the first element with a key keeps all other keys. -/
theorem mem_map_eraseP_key {k j : κ} (h : j ∈ as.map key) (hne : j ≠ k) :
    j ∈ (as.eraseP (key · == k)).map key := by
  obtain ⟨a, ha, rfl⟩ := List.mem_map.mp h
  refine List.mem_map.mpr ⟨a, ?_, rfl⟩
  rw [List.mem_eraseP_of_neg]
  · exact ha
  · simpa using hne

/-- The element with a key is the only one with it if no key occurs twice. -/
theorem find?_key_eq_some (h : (as.map key).Nodup) {k : κ} {a : α} :
    as.find? (key · == k) = some a ↔ a ∈ as ∧ key a = k := by
  constructor
  · intro hfind
    exact ⟨List.mem_of_find?_eq_some hfind, by simpa using List.find?_some hfind⟩
  · rintro ⟨hmem, hkey⟩
    cases hfind : as.find? (key · == k) with
    | none =>
      have hne := List.find?_eq_none.mp hfind a hmem
      simp [hkey] at hne
    | some b =>
      have hb : key b = k := by simpa using List.find?_some hfind
      have hba := List.inj_on_of_nodup_map h (List.mem_of_find?_eq_some hfind) hmem
        (hb.trans hkey.symm)
      rw [hba]

/-- An element at the end is found under its key if no element before it has the key. -/
theorem find?_key_concat {k : κ} {a : α} (h : k ∉ as.map key) (ha : key a = k) :
    (as ++ [a]).find? (key · == k) = some a := by
  have hbefore : as.find? (key · == k) = none := by
    rw [List.find?_eq_none]
    intro b hb hkey
    exact h (eq_of_beq hkey ▸ List.mem_map_of_mem hb)
  simp [List.find?_append, hbefore, ha]

/-- An element at the end is the one that is removed if no element before it has its key. -/
theorem eraseP_key_concat {k : κ} {a : α} (h : k ∉ as.map key) (ha : key a = k) :
    (as ++ [a]).eraseP (key · == k) = as := by
  have hbefore : ∀ b ∈ as, ¬(key b == k) = true := by
    intro b hb hkey
    exact h (eq_of_beq hkey ▸ List.mem_map_of_mem hb)
  rw [List.eraseP_append_right _ hbefore]
  simp [ha]

theorem isSome_find?_key {k : κ} : (as.find? (key · == k)).isSome ↔ k ∈ as.map key := by
  simp

/-- After a change of the first element with a key, an element is found under its key if it was
found before. -/
theorem find?_key_updateFirst {f : α → α} (hf : ∀ a, key (f a) = key a) (k j : κ) :
    (updateFirst (key · == k) f as).find? (key · == j) =
      (as.find? (key · == j)).map fun a => if key a = k then f a else a := by
  induction as with
  | nil => rfl
  | cons a as ih =>
    rw [updateFirst]
    by_cases hj : key a = j
    · by_cases hk : key a = k
      · simp [hj, hf, hj ▸ hk]
      · simp [hj, hj ▸ hk]
    · by_cases hk : key a = k
      · -- The change was made here, and what is found further on has another key.
        have hrest : ∀ b, as.find? (key · == j) = some b → key b ≠ k := by
          intro b hb hbk
          have hbj : key b = j := by simpa using List.find?_some hb
          exact hj (hk.trans (hbk.symm.trans hbj))
        cases hfind : as.find? (key · == j) with
        | none => simp [hk, hf, hfind, hk ▸ hj]
        | some b => simp [hk, hf, hfind, hrest b hfind, hk ▸ hj]
      · simp [hj, hk, ih]

theorem find?_key_map {f : α → α} (hf : ∀ a, key (f a) = key a) (k : κ) :
    (as.map f).find? (key · == k) = (as.find? (key · == k)).map f := by
  rw [List.find?_map]
  have hcomp : ((key · == k) ∘ f) = (key · == k) := by
    funext a
    simp [hf]
  rw [hcomp]

end Keyed

/-! ## Lists of keys with values -/

section Lookup

variable {κ α : Type} [DecidableEq κ] {entries : List (κ × α)}

/-- After a change of the values under a key, each key has the value that it should have. -/
theorem lookup_put (k j : κ) (a : α) :
    (entries.map fun e => if e.1 = k then (k, a) else e).lookup j =
      if j = k then (entries.lookup k).map fun _ => a else entries.lookup j := by
  induction entries with
  | nil => simp
  | cons e entries ih =>
    obtain ⟨i, b⟩ := e
    rw [List.map_cons]
    by_cases hi : i = k
    · by_cases hj : j = k
      · simp [hi, hj]
      · have hne : (j == k) = false := beq_false_of_ne hj
        simp [hi, hj, hne, List.lookup_cons, ih]
    · by_cases hj : j = k
      · have hne : (k == i) = false := beq_false_of_ne (Ne.symm hi)
        rw [if_pos hj, hj] at ih
        simp [hi, hj, List.lookup_cons, hne, ih]
      · rw [if_neg hj] at ih
        simp [hi, hj, List.lookup_cons, ih]

/-- After the entries with a key have been removed, every other key has the value it had. -/
theorem lookup_filter_ne (k j : κ) :
    (entries.filter (·.1 != k)).lookup j = if j = k then none else entries.lookup j := by
  induction entries with
  | nil => simp
  | cons e entries ih =>
    obtain ⟨i, b⟩ := e
    by_cases hi : i = k
    · rw [List.filter_cons_of_neg (by simp [hi]), ih]
      by_cases hj : j = k
      · rw [if_pos hj, if_pos hj]
      · have hne : (j == i) = false := beq_false_of_ne (hi ▸ hj)
        rw [if_neg hj, if_neg hj, List.lookup_cons, hne]
    · rw [List.filter_cons_of_pos (by simpa using hi), List.lookup_cons, ih, List.lookup_cons]
      by_cases hj : j = k
      · have hne : (j == i) = false := beq_false_of_ne (hj ▸ Ne.symm hi)
        rw [if_pos hj, if_pos hj, hne]
      · rw [if_neg hj, if_neg hj]

end Lookup

/-! ## Adding elements once -/

section Insert

variable {α : Type} [DecidableEq α] {new known : List α}

theorem insertLast_insertLast (a : α) :
    insertLast a (insertLast a known) = insertLast a known :=
  insertLast_of_mem (mem_insertLast.mpr (Or.inl rfl))

theorem filter_bne_of_not_mem {a : α} (h : a ∉ known) : known.filter (· != a) = known := by
  rw [List.filter_eq_self]
  intro b hb
  exact bne_iff_ne.mpr fun heq => h (heq ▸ hb)

/-- An element that is taken out need not have been added. -/
theorem filter_insertLast_self (a : α) :
    (insertLast a known).filter (· != a) = known.filter (· != a) := by
  unfold insertLast
  split <;> simp

/-- An element may be added before or after another one is taken out. -/
theorem filter_insertLast_of_ne {a b : α} (h : b ≠ a) :
    (insertLast b known).filter (· != a) = insertLast b (known.filter (· != a)) := by
  by_cases hb : b ∈ known <;> simp [insertLast, hb, h]

/-- Adds elements in order, each of them unless it is there already. -/
def insertAll (new known : List α) : List α :=
  new.foldl (fun known a => insertLast a known) known

@[simp]
theorem insertAll_nil : insertAll [] known = known := rfl

@[simp]
theorem insertAll_cons (a : α) :
    insertAll (a :: new) known = insertAll new (insertLast a known) := rfl

theorem insertAll_append (new' : List α) :
    insertAll (new ++ new') known = insertAll new' (insertAll new known) :=
  List.foldl_append

@[simp]
theorem mem_insertAll {a : α} : a ∈ insertAll new known ↔ a ∈ new ∨ a ∈ known := by
  induction new generalizing known with
  | nil => simp
  | cons b new ih =>
    rw [insertAll_cons, ih, mem_insertLast, List.mem_cons]
    tauto

theorem nodup_insertAll (h : known.Nodup) : (insertAll new known).Nodup := by
  induction new generalizing known with
  | nil => exact h
  | cons a new ih => exact ih (nodup_insertLast h)

theorem insertAll_of_subset (h : ∀ a ∈ new, a ∈ known) : insertAll new known = known := by
  induction new with
  | nil => rfl
  | cons a new ih =>
    rw [insertAll_cons, insertLast_of_mem (h a List.mem_cons_self)]
    exact ih fun b hb => h b (List.mem_cons_of_mem a hb)

theorem insertAll_insertAll : insertAll new (insertAll new known) = insertAll new known :=
  insertAll_of_subset fun _ ha => mem_insertAll.mpr (Or.inl ha)

theorem insertAll_concat (a : α) :
    insertAll (new ++ [a]) known = insertLast a (insertAll new known) :=
  insertAll_append [a]

/-- What is added to some elements is what is added to none of them, but for those that are there
already. -/
theorem insertAll_eq_append :
    insertAll new known = known ++ (insertAll new []).filter (· ∉ known) := by
  induction new using List.reverseRecOn with
  | nil => simp
  | append_singleton new a ih =>
    rw [insertAll_concat, insertAll_concat, ih]
    by_cases hnew : a ∈ insertAll new []
    · have hthere : a ∈ known ++ (insertAll new []).filter (· ∉ known) := by
        by_cases hknown : a ∈ known <;> simp [hknown, hnew]
      rw [insertLast_of_mem hthere, insertLast_of_mem hnew]
    · by_cases hknown : a ∈ known <;> simp [insertLast, hnew, hknown]

end Insert

end SessionControl
