import ProtoOs.Kernel.Bench
import ProtoOs.Lib.Numerals

namespace ProtoOs

open Numerals

variable {buf buf' : DigitBuffer} {i : Nat} {c : Char} {rest : List Char} {v : UInt64}

namespace DigitBuffer

theorem drain_store_above {j : Nat} (above : j ≤ i) (stored : buf.store i c = some buf') :
    buf'.drain j = buf.drain j := by
  induction j with
  | zero => rfl
  | succ j ih =>
      rw [drain, drain, ih (by omega), Cells.load_store_of_ne stored (by omega)]

theorem drain_store (stored : buf.store i c = some buf') (drained : buf.drain i = some rest) :
    buf'.drain (i + 1) = some (c :: rest) := by
  rw [drain, Cells.load_store stored, drain_store_above (Nat.le_refl i) stored, drained]
  rfl

theorem decimal_digit (v : UInt64) :
    Char.ofNat ('0'.toNat + (v % 10).toNat) = (v.toNat % 10).digitChar := by
  have all : ∀ d < 10, Char.ofNat ('0'.toNat + d) = d.digitChar := by decide
  rw [UInt64.toNat_mod]
  exact all _ (Nat.mod_lt _ (by decide))

theorem fill_digits (room : Nat) (positive : 0 < v) (fits : v.toNat < 10 ^ room)
    (inside : i + room ≤ 21) (drained : buf.drain i = some rest) :
    ∃ n buf', fill room v i buf = some (n, buf') ∧
      buf'.drain n = some (Nat.toDigits 10 v.toNat ++ rest) := by
  induction room generalizing v i buf rest with
  | zero =>
      rw [UInt64.lt_iff_toNat_lt] at positive
      exact absurd (Nat.lt_one_iff.mp fits) (Nat.ne_of_gt positive)
  | succ room ih =>
      obtain ⟨buf₁, stored⟩ := buf.store_inside (v.toNat % 10).digitChar (show i < 21 by omega)
      have next := drain_store stored drained
      have quotient : (v / 10).toNat = v.toNat / 10 := UInt64.toNat_div v 10
      rw [fill, if_pos positive, decimal_digit, stored, Option.bind_eq_bind, Option.bind_some]
      by_cases single : v.toNat < 10
      · have done : v / 10 = 0 := by
          rw [← UInt64.toNat_inj, quotient]
          exact Nat.div_eq_of_lt single
        refine ⟨i + 1, buf₁, ?_, ?_⟩
        · rw [done]
          cases room <;> rfl
        · rw [next, Nat.toDigits_of_lt_base single, Nat.mod_eq_of_lt single]
          rfl
      · have more : 0 < v / 10 := by
          rw [UInt64.lt_iff_toNat_lt, quotient]
          exact Nat.div_pos (Nat.not_lt.mp single) (by decide)
        obtain ⟨n, buf₂, filled, digits⟩ := ih more
          (by rw [quotient]; omega) (by omega) next
        refine ⟨n, buf₂, filled, ?_⟩
        rw [digits, quotient, Nat.toDigits_of_base_le (by decide) (Nat.not_lt.mp single),
          List.append_assoc]
        rfl

end DigitBuffer

theorem fill_spells {bound : Nat} (positive : 0 < v) (buf : DigitBuffer) (enough : 20 ≤ bound)
    (inside : bound ≤ 21) :
    ((DigitBuffer.fill bound v 0 buf).bind fun (i, buf) => buf.drain i) =
      some (Nat.toDigits 10 v.toNat) := by
  have fits : v.toNat < 10 ^ bound := by
    calc v.toNat < 2 ^ 64 := v.toNat_lt
      _ ≤ 10 ^ 20 := by decide
      _ ≤ 10 ^ bound := Nat.pow_le_pow_right (by decide) enough
  obtain ⟨n, buf', filled, digits⟩ := DigitBuffer.fill_digits bound positive fits
    (show 0 + bound ≤ 21 by omega) (show buf.drain 0 = some [] from rfl)
  rw [List.append_nil] at digits
  rw [filled, Option.bind_some]
  exact digits

theorem printkU64_digits (buf : DigitBuffer) (v : UInt64) :
    printkU64 buf v = some (Nat.toDigits 10 v.toNat) := by
  unfold printkU64
  split_ifs with zero
  · rw [zero]
    rfl
  · exact fill_spells (UInt64.pos_iff_ne_zero.mpr zero) buf (by decide) (by decide)

theorem benchEmitU64_digits (buf : DigitBuffer) (v : UInt64) :
    benchEmitU64 buf v = some (Nat.toDigits 10 v.toNat) := by
  unfold benchEmitU64
  split_ifs with zero
  · obtain ⟨buf₁, stored⟩ := buf.store_inside '0' (show 0 < 21 by decide)
    rw [stored, zero]
    exact DigitBuffer.drain_store stored rfl
  · exact fill_spells (UInt64.pos_iff_ne_zero.mpr zero) buf (by decide) (by decide)

/-! ## Hexadecimal -/

theorem nibble_toNat (v : UInt64) (inside : i < 16) :
    ((v >>> UInt64.ofNat (i * 4)) &&& 0xF).toUInt8.toNat = v.toNat / 16 ^ i % 16 := by
  have shift : (UInt64.ofNat (i * 4)).toNat % 64 = 4 * i := by
    rw [UInt64.toNat_ofNat_of_lt' (by simp [UInt64.size]; omega)]
    omega
  have digit : (v >>> UInt64.ofNat (i * 4) &&& 0xF).toNat = v.toNat / 16 ^ i % 16 := by
    rw [UInt64.toNat_and, UInt64.toNat_shiftRight, shift, Nat.shiftRight_eq_div_pow, Nat.pow_mul]
    exact Nat.and_two_pow_sub_one_eq_mod _ 4
  have small : v.toNat / 16 ^ i % 16 < 256 := by omega
  rw [UInt64.toNat_toUInt8, digit, Nat.mod_eq_of_lt small]

theorem hex_digit (v : UInt64) (i : Nat) :
    hex[v.toNat / 16 ^ i % 16]? = some (v.toNat / 16 ^ i % 16).digitChar := by
  have all : ∀ d < 16, hex[d]? = some d.digitChar := by decide
  exact all _ (Nat.mod_lt _ (by decide))

theorem hexNibbles_started (v : UInt64) {n : Nat} (inside : n ≤ 16) :
    hexNibbles v n true = some (padded 16 v.toNat n) := by
  induction n with
  | zero => rfl
  | succ n ih =>
      rw [hexNibbles, if_pos (.inr (.inl rfl)), nibble_toNat v inside, hex_digit, ih (by omega)]
      rfl

theorem hexNibbles_first {n : Nat} {started : Bool} (inside : n < 16)
    (lower : n = 0 ∨ 16 ^ n ≤ v.toNat) (fits : v.toNat < 16 ^ (n + 1)) :
    hexNibbles v (n + 1) started = some (Nat.toDigits 16 v.toNat) := by
  have spelled := nibble_toNat v inside
  have printed : ((v >>> UInt64.ofNat (n * 4)) &&& 0xF).toUInt8 ≠ 0 ∨ started ∨ n = 0 := by
    rcases lower with last | lower
    · exact .inr (.inr last)
    · left
      intro zero
      rw [zero, Nat.mod_eq_of_lt (Nat.div_lt_of_lt_mul (by rw [← Nat.pow_succ]; exact fits))]
        at spelled
      exact absurd spelled.symm (Nat.ne_of_gt (Nat.div_pos lower (by positivity)))
  rw [hexNibbles, if_pos printed, spelled, hex_digit, hexNibbles_started v (by omega),
    toDigits_eq_padded (by decide) n lower fits]
  rfl

theorem hexNibbles_digits {n : Nat} (inside : n < 16) (fits : v.toNat < 16 ^ (n + 1)) :
    hexNibbles v (n + 1) false = some (Nat.toDigits 16 v.toNat) := by
  induction n with
  | zero => exact hexNibbles_first inside (.inl rfl) fits
  | succ n ih =>
      by_cases lower : 16 ^ (n + 1) ≤ v.toNat
      · exact hexNibbles_first inside (.inr lower) fits
      · have zero : ((v >>> UInt64.ofNat ((n + 1) * 4)) &&& 0xF).toUInt8 = 0 := by
          rw [← UInt8.toNat_inj, nibble_toNat v inside, Nat.div_eq_of_lt (Nat.not_le.mp lower)]
          rfl
        have skipped : ¬(((v >>> UInt64.ofNat ((n + 1) * 4)) &&& 0xF).toUInt8 ≠ 0 ∨
            false = true ∨ n + 1 = 0) := by
          rw [zero]
          simp
        rw [hexNibbles, if_neg skipped]
        exact ih (by omega) (Nat.not_le.mp lower)

theorem printkHexU64_digits (v : UInt64) :
    printkHexU64 v = some (Nat.toDigits 16 v.toNat) :=
  hexNibbles_digits (by decide) v.toNat_lt

/-! ## Round trips -/

structure Spells (b : Nat) (v : UInt64) (cs : List Char) : Prop where
  canonical : Canonical b cs
  reads : value b cs = v.toNat

theorem spells_toDigits {b : Nat} (two : 1 < b) (small : b ≤ 16) (v : UInt64) :
    Spells b v (Nat.toDigits b v.toNat) where
  canonical := toDigits_canonical two small v.toNat
  reads := value_toDigits two small v.toNat

/-- Whatever the buffers hold, both decimal printers emit the canonical decimal within them, and
the hexadecimal printer the canonical hexadecimal. -/
theorem numbers_printed (v : UInt64) (buf buf' : DigitBuffer) :
    (∃ decimal, Spells 10 v decimal ∧ printkU64 buf v = some decimal ∧
      benchEmitU64 buf' v = some decimal) ∧
    ∃ hexadecimal, Spells 16 v hexadecimal ∧ printkHexU64 v = some hexadecimal := by
  constructor
  · exact ⟨_, spells_toDigits (by decide) (by decide) v, printkU64_digits buf v,
      benchEmitU64_digits buf' v⟩
  · exact ⟨_, spells_toDigits (by decide) (by decide) v, printkHexU64_digits v⟩

end ProtoOs
