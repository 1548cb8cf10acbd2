import Mathlib

/-!
# Loops that fill a store place by place

`storeLoop place value n` is `for (i = 0; i < n; i++) store[place(i)] = value(i)`, where the value
may itself be read from the store as it stands at that turn of the loop.
-/

namespace Bytes

variable {α β : Type*} [DecidableEq α]

def storeLoop (place : Nat → α) (value : (α → β) → Nat → β) (n : Nat) (store : α → β) : α → β :=
  (List.range n).foldl (fun m i => Function.update m (place i) (value m i)) store

variable {place : Nat → α} {value : (α → β) → Nat → β} {store : α → β} {n : Nat}

@[simp] theorem storeLoop_zero : storeLoop place value 0 store = store := rfl

theorem storeLoop_succ : storeLoop place value (n + 1) store =
    Function.update (storeLoop place value n store) (place n)
      (value (storeLoop place value n store) n) := by
  simp [storeLoop, List.range_succ]

theorem storeLoop_outside {x : α} (outside : ∀ i < n, x ≠ place i) :
    storeLoop place value n store x = store x := by
  induction n with
  | zero => rfl
  | succ n ih =>
      rw [storeLoop_succ, Function.update_of_ne (outside n (Nat.lt_succ_self n))]
      exact ih fun i below => outside i (Nat.lt_succ_of_lt below)

theorem storeLoop_unread {v : Nat → β}
    (stable : ∀ i < n, ∀ m : α → β, (∀ x, (∀ j < i, x ≠ place j) → m x = store x) → value m i = v i)
    (distinct : ∀ i < n, ∀ j < n, place i = place j → i = j) {i : Nat} (below : i < n) :
    storeLoop place value n store (place i) = v i := by
  suffices prefixes : ∀ k ≤ n, i < k → storeLoop place value k store (place i) = v i from
    prefixes n (Nat.le_refl n) below
  intro k
  induction k with
  | zero => intro _ impossible; omega
  | succ k ih =>
      intro le lt
      rw [storeLoop_succ]
      by_cases last : i = k
      · subst last
        rw [Function.update_self]
        exact stable i below _ fun x outside => storeLoop_outside outside
      · have other : place i ≠ place k := fun equal => last (distinct i below k (by omega) equal)
        rw [Function.update_of_ne other]
        exact ih (by omega) (by omega)

theorem storeLoop_inside {v : Nat → β}
    (stable : ∀ m : α → β, (∀ x, (∀ i < n, x ≠ place i) → m x = store x) →
      ∀ i < n, value m i = v i)
    (distinct : ∀ i < n, ∀ j < n, place i = place j → i = j) {i : Nat} (below : i < n) :
    storeLoop place value n store (place i) = v i := by
  apply storeLoop_unread _ distinct below
  intro i below m same
  apply stable m _ i below
  intro x outside
  exact same x fun j lt => outside j (by omega)

/-! ## Copies in increasing order -/

section Forward

variable {d : Nat}

/-- The copy of the `n` places from `place 0` on to those from `place d` on. -/
def copyLoop (place : Nat → α) (d n : Nat) (store : α → β) : α → β :=
  storeLoop (fun i => place (i + d)) (fun m i => m (place i)) n store

theorem copyLoop_self (place : Nat → α) (n : Nat) (store : α → β) : copyLoop place 0 n store = store := by
  induction n with
  | zero => rfl
  | succ n ih =>
      unfold copyLoop at ih ⊢
      rw [storeLoop_succ, ih]
      exact Function.update_eq_self _ store

/-- A copy to places ahead of its source repeats the `d` bytes that come first. -/
theorem copyLoop_repeats (ahead : 0 < d)
    (distinct : ∀ i < n + d, ∀ j < n + d, place i = place j → i = j) {i : Nat} (below : i < n) :
    copyLoop place d n store (place (i + d)) = store (place (i % d)) := by
  suffices turns : ∀ k ≤ n, ∀ i < k, copyLoop place d k store (place (i + d)) = store (place (i % d)) from
    turns n (Nat.le_refl n) i below
  intro k
  induction k with
  | zero =>
      intro _ i impossible
      omega
  | succ k ih =>
      intro le i lt
      unfold copyLoop at ih ⊢
      rw [storeLoop_succ]
      by_cases last : i = k
      · subst last
        rw [Function.update_self]
        by_cases first : i < d
        · rw [Nat.mod_eq_of_lt first, storeLoop_outside]
          intro j earlier same
          have equal := distinct i (by omega) (j + d) (by omega) same
          omega
        · have back : i - d + d = i := by omega
          have read := ih (by omega) (i - d) (by omega)
          rw [back] at read
          rw [read, Nat.mod_eq_sub_mod (Nat.not_lt.mp first)]
      · have other : place (i + d) ≠ place (k + d) := fun same => last (by
          have equal := distinct (i + d) (by omega) (k + d) (by omega) same
          omega)
        rw [Function.update_of_ne other]
        exact ih (by omega) i (by omega)

/-- The bytes of a copy arrive as they were exactly where they repeat with the distance `d`. -/
theorem copyLoop_iff (distinct : ∀ i < n + d, ∀ j < n + d, place i = place j → i = j) :
    (∀ i < n, copyLoop place d n store (place (i + d)) = store (place i)) ↔
      ∀ i, i + d < n → store (place (i + d)) = store (place i) := by
  rcases Nat.eq_zero_or_pos d with rfl | ahead
  · rw [copyLoop_self]
    exact ⟨fun _ _ _ => rfl, fun _ _ _ => rfl⟩
  · constructor
    · intro arrives i below
      have first : copyLoop place d n store (place (i + d)) = store (place (i % d)) :=
        copyLoop_repeats ahead distinct (by omega)
      rw [← arrives (i + d) below, copyLoop_repeats ahead distinct below, Nat.add_mod_right, ← first]
      exact arrives i (by omega)
    · intro repeats i below
      rw [copyLoop_repeats ahead distinct below]
      induction i using Nat.strongRecOn with
      | ind i ih =>
          by_cases first : i < d
          · rw [Nat.mod_eq_of_lt first]
          · have back : i - d + d = i := by omega
            have before := repeats (i - d) (by omega)
            rw [back] at before
            rw [Nat.mod_eq_sub_mod (Nat.not_lt.mp first), before]
            exact ih (i - d) (by omega) (by omega)

end Forward

end Bytes
