import Mathlib

/-!
# Round robin

Slots stand in a circle, and some of them belong to users. A scheduler that elects the first ready
user behind the one it elected last passes over a ready user at most once for each other user.
-/

namespace RoundRobin

variable {n : Nat} {a c s u : Fin n} {users : Finset (Fin n)} {ready : Fin n → Prop}

/-- How far `s` lies behind `c` on the circle, where `c` itself comes last. -/
def behind (c s : Fin n) : Nat := if c < s then s.val - c.val else n + s.val - c.val

theorem behind_le (c s : Fin n) : behind c s ≤ behind c c := by
  unfold behind
  split_ifs <;> omega

theorem behind_inj (same : behind c a = behind c s) : a = s := by
  unfold behind at same
  split_ifs at same <;> omega

theorem behind_lt_of_lt (closer : behind c a < behind c s) (before : behind a u < behind a s) :
    behind c u < behind c s := by
  unfold behind at closer before ⊢
  split_ifs at closer before ⊢ <;> omega

/-- The users that can be elected before `s`, from `c` on. -/
def passing (users : Finset (Fin n)) (c s : Fin n) : Finset (Fin n) :=
  users.filter fun u => behind c u < behind c s

theorem mem_passing : u ∈ passing users c s ↔ u ∈ users ∧ behind c u < behind c s :=
  Finset.mem_filter

theorem passing_card_le (member : s ∈ users) : (passing users c s).card ≤ users.card - 1 := by
  rw [← Finset.card_erase_of_mem member]
  apply Finset.card_le_card
  intro u passes
  obtain ⟨user, before⟩ := mem_passing.mp passes
  apply Finset.mem_erase.mpr ⟨?_, user⟩
  rintro rfl
  exact lt_irrefl _ before

theorem passing_card_lt (member : a ∈ users) (closer : behind c a < behind c s) :
    (passing users a s).card < (passing users c s).card := by
  apply Finset.card_lt_card
  apply Finset.ssubset_iff_subset_ne.mpr ⟨?_, ?_⟩
  · intro u passes
    obtain ⟨user, before⟩ := mem_passing.mp passes
    exact mem_passing.mpr ⟨user, behind_lt_of_lt closer before⟩
  · intro same
    have here : a ∈ passing users c s := mem_passing.mpr ⟨member, closer⟩
    rw [← same] at here
    exact absurd (mem_passing.mp here).2 (behind_le a s).not_gt

/-- The first ready user behind `c`. -/
structure Elects (users : Finset (Fin n)) (ready : Fin n → Prop) (c s : Fin n) : Prop where
  user : s ∈ users
  willing : ready s
  first : ∀ u ∈ users, ready u → behind c s ≤ behind c u

theorem Elects.alone (elects : Elects users ready c c) (member : u ∈ users) (willing : ready u) :
    u = c :=
  (behind_inj ((elects.first u member willing).antisymm (behind_le c u))).symm

theorem Elects.passes (elects : Elects users ready c a) (member : s ∈ users) (willing : ready s)
    (other : a ≠ s) : (passing users a s).card < (passing users c s).card := by
  apply passing_card_lt elects.user
  exact lt_of_le_of_ne (elects.first s member willing) fun same => other (behind_inj same)

end RoundRobin
