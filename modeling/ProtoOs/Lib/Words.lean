import ProtoOs.Lib.Bytes

/-!
# Words in byte memory

A 64-bit word in memory is eight bytes, the least significant first. `place i` is the address of its
byte `i`.
-/

namespace Words

def littleEndian (byte : Nat → UInt8) : Nat → Nat
  | 0 => 0
  | n + 1 => littleEndian byte n + 256 ^ n * (byte n).toNat

variable {α : Type*} {place place' : Nat → α} {mem : α → UInt8} {v : UInt64}

def read (mem : α → UInt8) (place : Nat → α) : UInt64 :=
  .ofNat (littleEndian (fun i => mem (place i)) 8)

theorem littleEndian_congr {byte byte' : Nat → UInt8} {n : Nat} (same : ∀ i < n, byte i = byte' i) :
    littleEndian byte n = littleEndian byte' n := by
  induction n with
  | zero => rfl
  | succ n ih =>
      rw [littleEndian, littleEndian, same n (Nat.lt_succ_self n),
        ih fun i below => same i (Nat.lt_succ_of_lt below)]

/-- The bytes that a number is stored as spell the number. -/
theorem littleEndian_digits (v n : Nat) :
    littleEndian (fun i => UInt8.ofNat (v / 256 ^ i)) n = v % 256 ^ n := by
  induction n with
  | zero => simp [littleEndian, Nat.mod_one]
  | succ n ih =>
      rw [littleEndian, ih, Nat.pow_succ, Nat.mod_mul]
      simp

variable [DecidableEq α]

def write (place : Nat → α) (v : UInt64) (mem : α → UInt8) : α → UInt8 :=
  Bytes.storeLoop place (fun _ i => UInt8.ofNat (v.toNat / 256 ^ i)) 8 mem

theorem read_write (distinct : ∀ i < 8, ∀ j < 8, place i = place j → i = j) :
    read (write place v mem) place = v := by
  have bytes : ∀ i < 8, write place v mem (place i) = UInt8.ofNat (v.toNat / 256 ^ i) := by
    intro i below
    exact Bytes.storeLoop_inside (v := fun i => UInt8.ofNat (v.toNat / 256 ^ i))
      (fun _ _ _ _ => rfl) distinct below
  have small : v.toNat < 256 ^ 8 := v.toNat_lt
  unfold read
  rw [littleEndian_congr bytes, littleEndian_digits, Nat.mod_eq_of_lt small]
  simp

theorem read_write_apart (apart : ∀ i < 8, ∀ j < 8, place' i ≠ place j) :
    read (write place v mem) place' = read mem place' := by
  unfold read
  congr 1
  apply littleEndian_congr
  intro i below
  exact Bytes.storeLoop_outside (apart i below)

end Words
