import ProtoOs.Lib.Aarch64

/-!
# Address translation

The stage 1 walk of the EL1&0 regime with 4 KiB pages from level 1, which serves input sizes of 31
to 39 bits. Only the lower address range is translated, and writable memory may be executed at EL1
unless EL0 may write it.
-/

namespace Translation

open Aarch64

/-- What a translation grants. -/
structure Mapping where
  pa : UInt64
  el0Read : Bool
  el0Write : Bool
  el0Execute : Bool
  el1Execute : Bool
  /-- The memory attribute that the descriptor selects from MAIR. -/
  attr : UInt64
  deriving DecidableEq, Repr

/-- Device memory, by its encoding in MAIR. -/
def Mapping.device (m : Mapping) : Bool := m.attr >>> 4 = 0

def bit (d : UInt64) (i : UInt64) : Bool := (d >>> i) &&& 1 = 1

def index (va shift : UInt64) : UInt64 := (va >>> shift) &&& 0x1FF

/-- The address of the table that a descriptor or a base register points to. -/
def nextTable (d : UInt64) : UInt64 := d &&& 0x0000FFFFFFFFF000

/-- The mapping of a block or page descriptor, under the limits of the tables above it. -/
def leaf (mair limits d shift va : UInt64) : Option Mapping :=
  let offset : UInt64 := (1 <<< shift) - 1
  let el0 := bit d 6 && !bit limits 61
  let readOnly := bit d 7 || bit limits 62
  if bit d 10 then
    some {
      pa := (d &&& 0x0000FFFFFFFFF000 &&& ~~~offset) ||| (va &&& offset)
      el0Read := el0
      el0Write := el0 && !readOnly
      el0Execute := !(bit d 54 || bit limits 60)
      el1Execute := !(bit d 53 || bit limits 59 || (el0 && !readOnly))
      attr := (mair >>> ((8 : UInt64) * ((d >>> 2) &&& 7))) &&& 0xFF }
  else
    none

def walk (mem : Mem) (t0sz mair ttbr va : UInt64) : Option Mapping :=
  if va >>> (64 - t0sz) ≠ 0 then
    none
  else
    let d₁ := loadWord mem (nextTable ttbr + 8 * index va 30)
    if !bit d₁ 0 then none
    else if !bit d₁ 1 then leaf mair 0 d₁ 30 va
    else
      let d₂ := loadWord mem (nextTable d₁ + 8 * index va 21)
      if !bit d₂ 0 then none
      else if !bit d₂ 1 then leaf mair d₁ d₂ 21 va
      else
        let d₃ := loadWord mem (nextTable d₂ + 8 * index va 12)
        if bit d₃ 0 && bit d₃ 1 then leaf mair (d₁ ||| d₂) d₃ 12 va else none

/-! ## Fields -/

variable {d i va : UInt64}

theorem and_field (x n k : Nat) : x &&& (2 ^ n - 1) * 2 ^ k = x / 2 ^ k % 2 ^ n * 2 ^ k := by
  apply Nat.eq_of_testBit_eq
  intro b
  simp only [Nat.testBit_and, Nat.testBit_mul_two_pow, Nat.testBit_two_pow_sub_one,
    Nat.testBit_mod_two_pow, Nat.testBit_div_two_pow]
  by_cases low : k ≤ b
  · simp [low, Bool.and_comm]
  · simp [low]

theorem bit_eq (small : i.toNat < 64) : bit d i = decide (d.toNat / 2 ^ i.toNat % 2 = 1) := by
  have field : (d >>> i &&& 1).toNat = d.toNat / 2 ^ i.toNat % 2 := by
    rw [UInt64.toNat_and, UInt64.toNat_shiftRight, Nat.mod_eq_of_lt small,
      Nat.shiftRight_eq_div_pow]
    exact Nat.and_one_is_mod _
  unfold bit
  rw [← field]
  exact decide_eq_decide.mpr UInt64.toNat_inj.symm

theorem index_toNat (shift : i.toNat < 64) : (index va i).toNat = va.toNat / 2 ^ i.toNat % 512 := by
  unfold index
  rw [UInt64.toNat_and, UInt64.toNat_shiftRight, Nat.mod_eq_of_lt shift, Nat.shiftRight_eq_div_pow]
  exact Nat.and_two_pow_sub_one_eq_mod _ 9

theorem nextTable_toNat : (nextTable d).toNat = d.toNat / 2 ^ 12 % 2 ^ 36 * 2 ^ 12 := by
  rw [nextTable, UInt64.toNat_and]
  exact and_field _ 36 12

theorem block_or_offset {block : UInt64} (at_block : block.toNat = va.toNat / 2 ^ 21 * 2 ^ 21) :
    block ||| (va &&& 0x1FFFFF) = va := by
  apply UInt64.toNat_inj.mp
  rw [UInt64.toNat_or, UInt64.toNat_and, at_block]
  change _ ||| (va.toNat &&& 2 ^ 21 - 1) = _
  rw [Nat.and_two_pow_sub_one_eq_mod, Nat.mul_comm, ← Nat.two_pow_add_eq_or_of_lt]
  · exact Nat.div_add_mod va.toNat (2 ^ 21)
  · exact Nat.mod_lt _ (by decide)

end Translation
