import Mathlib

/-!
# Numerals

Digit characters in a base up to sixteen, and the numerals without leading zeros. `Nat.toDigits` is
the canonical numeral of a number; a numeral of fixed width is read off from its highest digit.
-/

namespace Numerals

variable {b d n v : Nat} {c : Char} {cs : List Char}

def digitValue (c : Char) : Nat := if c.isDigit then c.toNat - '0'.toNat else c.toNat - 'a'.toNat + 10

def value (b : Nat) (cs : List Char) : Nat := cs.foldl (fun n c => b * n + digitValue c) 0

/-- A numeral with digits of the base, and no leading zero but that of zero itself. -/
structure Canonical (b : Nat) (cs : List Char) : Prop where
  nonempty : cs ≠ []
  digits : ∀ c ∈ cs, ∃ d < b, c = d.digitChar
  leading : cs.head? = some '0' → cs = ['0']

theorem digitValue_digitChar (small : d < 16) : digitValue d.digitChar = d := by
  have all : ∀ d : Fin 16, digitValue d.val.digitChar = d.val := by decide
  exact all ⟨d, small⟩

theorem digitChar_ne_zero (small : d < 16) (positive : d ≠ 0) : d.digitChar ≠ '0' := by
  intro same
  apply positive
  rw [← digitValue_digitChar small, same]
  rfl

theorem value_append (cs : List Char) (c : Char) :
    value b (cs ++ [c]) = b * value b cs + digitValue c := by
  simp [value]

/-! ## Canonical numerals -/

theorem value_toDigits (two : 1 < b) (small : b ≤ 16) (n : Nat) : value b (Nat.toDigits b n) = n := by
  induction n using Nat.strongRecOn with
  | ind n ih =>
      rw [Nat.toDigits_eq_if two]
      split_ifs with single
      · simpa [value] using digitValue_digitChar (Nat.lt_of_lt_of_le single small)
      · have positive : 0 < n := by omega
        have digit : n % b < b := Nat.mod_lt n (by omega)
        rw [value_append, ih (n / b) (Nat.div_lt_self positive two),
          digitValue_digitChar (Nat.lt_of_lt_of_le digit small)]
        exact Nat.div_add_mod n b

theorem toDigits_digits (two : 1 < b) (n : Nat) :
    ∀ c ∈ Nat.toDigits b n, ∃ d < b, c = d.digitChar := by
  induction n using Nat.strongRecOn with
  | ind n ih =>
      intro c member
      rw [Nat.toDigits_eq_if two] at member
      split_ifs at member with single
      · exact ⟨n, single, List.mem_singleton.mp member⟩
      · rcases List.mem_append.mp member with earlier | last
        · exact ih (n / b) (Nat.div_lt_self (by omega) two) c earlier
        · exact ⟨n % b, Nat.mod_lt n (by omega), List.mem_singleton.mp last⟩

theorem toDigits_head (two : 1 < b) (small : b ≤ 16) (n : Nat)
    (leading : (Nat.toDigits b n).head? = some '0') : n = 0 := by
  induction n using Nat.strongRecOn with
  | ind n ih =>
      rw [Nat.toDigits_eq_if two] at leading
      split_ifs at leading with single
      · by_contra positive
        have other := digitChar_ne_zero (Nat.lt_of_lt_of_le single small) positive
        exact other (by simpa using leading)
      · obtain ⟨first, rest, digits⟩ :=
          List.exists_cons_of_ne_nil (Nat.toDigits_ne_nil (b := b) (n := n / b))
        rw [digits, List.cons_append, List.head?_cons] at leading
        have quotient : n / b = 0 := by
          apply ih (n / b) (Nat.div_lt_self (by omega) two)
          rw [digits]
          exact leading
        have positive := Nat.div_pos (Nat.not_lt.mp single) (by omega)
        omega

theorem toDigits_canonical (two : 1 < b) (small : b ≤ 16) (n : Nat) :
    Canonical b (Nat.toDigits b n) where
  nonempty := Nat.toDigits_ne_nil
  digits := toDigits_digits two n
  leading head := by
    rw [toDigits_head two small n head]
    exact Nat.toDigits_zero b

/-! ## Numerals of a fixed width -/

/-- The lowest `n` digits of `v`. -/
def padded (b v : Nat) : Nat → List Char
  | 0 => []
  | n + 1 => (v / b ^ n % b).digitChar :: padded b v n

theorem padded_succ (v n : Nat) :
    padded b v (n + 1) = padded b (v / b) n ++ [(v % b).digitChar] := by
  induction n with
  | zero => simp [padded]
  | succ n ih =>
      rw [padded, ih, padded, Nat.div_div_eq_div_mul, ← Nat.pow_succ']
      rfl

/-- A number with `n + 1` digits. -/
theorem toDigits_eq_padded (two : 1 < b) (n : Nat) (lower : n = 0 ∨ b ^ n ≤ v)
    (upper : v < b ^ (n + 1)) : Nat.toDigits b v = padded b v (n + 1) := by
  induction n generalizing v with
  | zero =>
      have single : v < b := by simpa using upper
      rw [Nat.toDigits_of_lt_base single]
      simp [padded, Nat.mod_eq_of_lt single]
  | succ n ih =>
      have low : b ^ (n + 1) ≤ v := lower.resolve_left (by omega)
      have quotient : b ^ n ≤ v / b := by
        rw [Nat.le_div_iff_mul_le (by omega), ← Nat.pow_succ]
        exact low
      have base : b ≤ v := by
        calc b = b ^ 1 := (Nat.pow_one b).symm
          _ ≤ b ^ (n + 1) := Nat.pow_le_pow_right (by omega) (by omega)
          _ ≤ v := low
      have below : v / b < b ^ (n + 1) := by
        rw [Nat.div_lt_iff_lt_mul (by omega), ← Nat.pow_succ]
        exact upper
      rw [Nat.toDigits_of_base_le two base, ih (.inr quotient) below, padded_succ (v := v)]

end Numerals
