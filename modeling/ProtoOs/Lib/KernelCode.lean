import ProtoOs.Lib.Aarch64

/-!
# Code of EL1

The instructions that only kernel code uses, and structures of words that lie apart.
-/

namespace Aarch64

inductive KernelInstr
  | plain (i : Instr)
  | movToSp (s : Fin 31)
  | addFromSp (d : Fin 31) (n : Nat)
  | unmaskIrq

def KernelInstr.exec (c : Cpu) : KernelInstr → Cpu
  | .plain i => i.exec c
  | .movToSp s => { c with sp := c.x s }
  | .addFromSp d n => c.setX d (c.sp + .ofNat n)
  | .unmaskIrq => { c with irqMasked := false }

def runKernel (code : List KernelInstr) (c : Cpu) : Cpu := code.foldl KernelInstr.exec c

/-! ## Areas -/

/-- Structures of `n` words, one for each index, none of which overlaps another. -/
structure Areas (T : Type*) (n : Nat) where
  address : T → UInt64
  aligned : ∀ t, (address t).toNat % 8 = 0
  room : ∀ t, (address t).toNat + 8 * n ≤ 2 ^ 64
  apart : ∀ t t', t ≠ t' → (address t).toNat + 8 * n ≤ (address t').toNat ∨
    (address t').toNat + 8 * n ≤ (address t).toNat

variable {T : Type*} {n m i : Nat} {areas : Areas T n} {t t' : T} {mem : Mem} {address v : UInt64}

theorem toNat_offset (room : address.toNat + 8 * n ≤ 2 ^ 64) (below : i < n) :
    (address + .ofNat (8 * i)).toNat = address.toNat + 8 * i := by
  rw [UInt64.toNat_add, UInt64.toNat_ofNat', Nat.mod_eq_of_lt (a := 8 * i) (by omega),
    Nat.mod_eq_of_lt (by omega)]

/-- A store at a word that ends before a structure, or starts after it, leaves the structure. -/
theorem slots_storeWord_outside {other : UInt64} (room : address.toNat + 8 * n ≤ 2 ^ 64)
    (aligned : address.toNat % 8 = 0) (aligned' : other.toNat % 8 = 0)
    (outside : other.toNat < address.toNat ∨ address.toNat + 8 * n ≤ other.toNat) :
    slots n (storeWord other v mem) address = slots n mem address := by
  funext i
  have place := toNat_offset room i.isLt
  apply loadWord_storeWord_apart aligned'
  · rw [place]
    omega
  · intro same
    have places := congrArg UInt64.toNat same
    have below := i.isLt
    omega

theorem Areas.slots_storeWord_other {off : Nat} (whole : off % 8 = 0) (below : off / 8 < n)
    (other : t ≠ t') : slots n (storeWord (areas.address t + .ofNat off) v mem) (areas.address t') =
      slots n mem (areas.address t') := by
  have place := toNat_offset (areas.room t) below
  rw [show 8 * (off / 8) = off by omega] at place
  have aligned := areas.aligned t
  apply slots_storeWord_outside (areas.room t') (areas.aligned t')
  · rw [place]
    omega
  · rw [place]
    rcases areas.apart t t' other with before | after
    · left
      omega
    · right
      omega

end Aarch64
