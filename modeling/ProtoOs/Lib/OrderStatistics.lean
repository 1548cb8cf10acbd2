import Mathlib

namespace OrderStatistics

variable {α : Type*} {r : α → α → Prop} {xs lo hi : List α} {x y m : α} {i j : Nat}

structure Extreme (r : α → α → Prop) (xs : List α) (m : α) : Prop where
  member : m ∈ xs
  before : ∀ y ∈ xs, r m y

abbrev Least [LE α] (xs : List α) (m : α) : Prop := Extreme (· ≤ ·) xs m
abbrev Greatest [LE α] (xs : List α) (m : α) : Prop := Extreme (· ≥ ·) xs m
abbrev Sorted [LE α] (xs : List α) : Prop := xs.Pairwise (· ≤ ·)

theorem Extreme.keep (extreme : Extreme r xs m) (kept : r m x) : Extreme r (xs ++ [x]) m where
  member := List.mem_append_left _ extreme.member
  before y member := by
    rcases List.mem_append.mp member with earlier | last
    · exact extreme.before y earlier
    · rw [List.mem_singleton.mp last]
      exact kept

theorem Extreme.replace (before : ∀ y ∈ xs, r x y) (refl : r x x) : Extreme r (xs ++ [x]) x where
  member := List.mem_append_right _ List.mem_cons_self
  before y member := by
    rcases List.mem_append.mp member with earlier | last
    · exact before y earlier
    · rw [List.mem_singleton.mp last]
      exact refl

/-! ## Sorted lists -/

variable [LE α]

theorem Sorted.insert (sorted : Sorted (lo ++ hi)) (below : ∀ y ∈ lo, y ≤ x)
    (above : ∀ y ∈ hi, x ≤ y) : Sorted (lo ++ x :: hi) := by
  obtain ⟨first, second, across⟩ := List.pairwise_append.mp sorted
  apply List.pairwise_append.mpr
  refine ⟨first, List.pairwise_cons.mpr ⟨above, second⟩, ?_⟩
  intro y low z member
  rcases List.mem_cons.mp member with rfl | high
  · exact below y low
  · exact across y low z high

variable [Std.IsPreorder α]

theorem Sorted.below_of_last (sorted : Sorted lo) (last : ∀ y ∈ lo.getLast?, y ≤ x) :
    ∀ y ∈ lo, y ≤ x := by
  induction lo using List.reverseRecOn with
  | nil => exact fun y member => absurd member List.not_mem_nil
  | append_singleton lo top =>
      have top_le : top ≤ x := last top (by simp)
      obtain ⟨_, _, across⟩ := List.pairwise_append.mp sorted
      intro y member
      rcases List.mem_append.mp member with low | final
      · exact Std.le_trans (across y low top List.mem_cons_self) top_le
      · rw [List.mem_singleton.mp final]
        exact top_le

theorem Sorted.le_of_le (sorted : Sorted xs) (lower : xs[i]? = some x) (upper : xs[j]? = some y)
    (order : i ≤ j) : x ≤ y := by
  obtain ⟨inside, rfl⟩ := List.getElem?_eq_some_iff.mp lower
  obtain ⟨inside', rfl⟩ := List.getElem?_eq_some_iff.mp upper
  rcases Nat.lt_or_eq_of_le order with before | rfl
  · exact List.pairwise_iff_getElem.mp sorted i j inside inside' before
  · exact Std.le_refl _

end OrderStatistics
