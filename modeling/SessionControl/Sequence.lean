/-!
# Ordered stores

Two operations on lists that keep the order of what is there: changing the first element with a
property, and adding an element at the end once.

## Main statements

- `map_updateFirst` — what the change keeps of every element
- `mem_insertLast`, `nodup_insertLast` — the elements after an addition, and that none repeats
-/

namespace SessionControl

/-- Changes the first element that satisfies `p`, if there is one. -/
def updateFirst {α : Type} (p : α → Bool) (f : α → α) : List α → List α
  | [] => []
  | a :: as => if p a then f a :: as else a :: updateFirst p f as

/-- Adds an element at the end unless it is there already. -/
def insertLast {α : Type} [DecidableEq α] (a : α) (as : List α) : List α :=
  if a ∈ as then as else as ++ [a]

variable {α : Type}

theorem map_updateFirst {β : Type} {p : α → Bool} {f : α → α} {g : α → β}
    (h : ∀ a, p a = true → g (f a) = g a) (as : List α) :
    (updateFirst p f as).map g = as.map g := by
  induction as with
  | nil => rfl
  | cons a as ih =>
    simp only [updateFirst]
    split
    · simp [h a ‹_›]
    · simp [ih]

variable [DecidableEq α]

@[simp]
theorem mem_insertLast {a b : α} {as : List α} : b ∈ insertLast a as ↔ b = a ∨ b ∈ as := by
  unfold insertLast
  split
  · constructor
    · exact Or.inr
    · rintro (rfl | h)
      · assumption
      · exact h
  · simp [or_comm]

theorem nodup_insertLast {a : α} {as : List α} (h : as.Nodup) : (insertLast a as).Nodup := by
  unfold insertLast
  split
  · exact h
  · rw [List.nodup_append]
    refine ⟨h, by simp, ?_⟩
    intro x hx y hy
    simp only [List.mem_singleton] at hy
    subst hy
    rintro rfl
    contradiction

theorem insertLast_of_mem {a : α} {as : List α} (h : a ∈ as) : insertLast a as = as := by
  simp [insertLast, h]

end SessionControl
