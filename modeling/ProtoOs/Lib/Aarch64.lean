import ProtoOs.Lib.Words

/-!
# Straight-line AArch64

The instructions that save and restore a register file: moves, moves to and from system registers,
and loads and stores of registers at an offset from a base. A structure whose members are all 64-bit
words is the list of its members.
-/

namespace Aarch64

/-! ## Memory -/

abbrev Mem := UInt64 → UInt8

def bytesAt (address : UInt64) (i : Nat) : UInt64 := address + .ofNat i

def loadWord (mem : Mem) (address : UInt64) : UInt64 := Words.read mem (bytesAt address)

def storeWord (address v : UInt64) (mem : Mem) : Mem := Words.write (bytesAt address) v mem

/-- A structure lies at an address. -/
def Holds (mem : Mem) (address : UInt64) (members : List UInt64) : Prop :=
  ∀ i (below : i < members.length), loadWord mem (address + .ofNat (8 * i)) = members[i]

def slots (n : Nat) (mem : Mem) (address : UInt64) (i : Fin n) : UInt64 :=
  loadWord mem (address + .ofNat (8 * i.val))

variable {mem : Mem} {address v : UInt64} {n off : Nat}

theorem holds_iff_slots {members : List UInt64} :
    Holds mem address members ↔ slots members.length mem address = members.get := by
  constructor
  · intro holds
    funext i
    exact holds i.val i.isLt
  · intro same i below
    exact congrFun same ⟨i, below⟩

theorem Holds.array {f : Fin n → UInt64} {rest : List UInt64}
    (holds : Holds mem address (List.ofFn f ++ rest)) (i : Fin n) :
    loadWord mem (address + .ofNat (8 * i.val)) = f i := by
  have below : i.val < (List.ofFn f).length := by simp
  rw [holds i.val (by simp; omega), List.getElem_append_left below, List.getElem_ofFn]

theorem bytesAt_offset (off i : Nat) :
    bytesAt (address + .ofNat off) i = address + .ofNat (off + i) := by
  rw [bytesAt, UInt64.add_assoc, ← UInt64.ofNat_add]

theorem bytesAt_inj {i j : Nat} (small : i < 2 ^ 64) (small' : j < 2 ^ 64)
    (same : address + UInt64.ofNat i = address + .ofNat j) : i = j := by
  have offsets := congrArg UInt64.toNat (UInt64.add_right_inj address |>.mp same)
  rwa [UInt64.toNat_ofNat', UInt64.toNat_ofNat', Nat.mod_eq_of_lt small,
    Nat.mod_eq_of_lt small'] at offsets

theorem loadWord_storeWord : loadWord (storeWord address v mem) address = v := by
  apply Words.read_write
  intro i small j small' same
  exact bytesAt_inj (by omega) (by omega) same

theorem loadWord_storeWord_apart {other : UInt64} (aligned : address.toNat % 8 = 0)
    (aligned' : other.toNat % 8 = 0) (apart : other ≠ address) :
    loadWord (storeWord address v mem) other = loadWord mem other := by
  apply Words.read_write_apart
  intro i small j small' same
  apply apart
  have below := address.toNat_lt
  have below' := other.toNat_lt
  have places := congrArg UInt64.toNat same
  simp only [bytesAt, UInt64.toNat_add, UInt64.toNat_ofNat'] at places
  apply UInt64.toNat_inj.mp
  omega

theorem slots_storeWord (aligned : off % 8 = 0) (below : off / 8 < n) (small : 8 * n < 2 ^ 64) :
    slots n (storeWord (address + .ofNat off) v mem) address =
      Function.update (slots n mem address) ⟨off / 8, below⟩ v := by
  funext i
  by_cases here : i = ⟨off / 8, below⟩
  · subst here
    have exact_ : 8 * (off / 8) = off := by omega
    rw [Function.update_self]
    simp only [slots, exact_, loadWord, storeWord]
    apply Words.read_write
    intro i _ j _ same
    rw [bytesAt_offset, bytesAt_offset] at same
    have offsets := bytesAt_inj (by omega) (by omega) same
    omega
  · have apart : i.val ≠ off / 8 := fun same => here (Fin.ext same)
    rw [Function.update_of_ne here]
    simp only [slots, loadWord, storeWord]
    apply Words.read_write_apart
    intro j _ l _ same
    rw [bytesAt_offset, bytesAt_offset] at same
    have offsets := bytesAt_inj (by omega) (by omega) same
    omega

/-! ## Instructions -/

inductive SysReg
  | spEl0
  | elrEl1
  | spsrEl1
  | esrEl1
  | farEl1
  deriving DecidableEq, Repr

/-- The state that the instructions work on, at EL1 with its own stack pointer. -/
structure Cpu where
  x : Fin 31 → UInt64
  sp : UInt64
  sys : SysReg → UInt64
  irqMasked : Bool
  mem : Mem

inductive Base
  | sp
  | x (r : Fin 31)

def Cpu.base (c : Cpu) : Base → UInt64
  | .sp => c.sp
  | .x r => c.x r

inductive Instr
  | subSp (n : Nat)
  | addSp (n : Nat)
  | movFromSp (d : Fin 31)
  | mov (d s : Fin 31)
  | stp (a b : Fin 31) (base : Base) (off : Nat)
  | str (s : Fin 31) (base : Base) (off : Nat)
  | ldp (a b : Fin 31) (base : Base) (off : Nat)
  | ldr (d : Fin 31) (base : Base) (off : Nat)
  | mrs (d : Fin 31) (r : SysReg)
  | msr (r : SysReg) (s : Fin 31)
  | maskIrq
  | isb

def Cpu.setX (c : Cpu) (d : Fin 31) (v : UInt64) : Cpu := { c with x := Function.update c.x d v }

def Cpu.store (c : Cpu) (address v : UInt64) : Cpu := { c with mem := storeWord address v c.mem }

def Instr.exec (c : Cpu) : Instr → Cpu
  | .subSp n => { c with sp := c.sp - .ofNat n }
  | .addSp n => { c with sp := c.sp + .ofNat n }
  | .movFromSp d => c.setX d c.sp
  | .mov d s => c.setX d (c.x s)
  | .stp a b base off =>
      (c.store (c.base base + .ofNat off) (c.x a)).store (c.base base + .ofNat (off + 8)) (c.x b)
  | .str s base off => c.store (c.base base + .ofNat off) (c.x s)
  | .ldp a b base off =>
      (c.setX a (loadWord c.mem (c.base base + .ofNat off))).setX b
        (loadWord c.mem (c.base base + .ofNat (off + 8)))
  | .ldr d base off => c.setX d (loadWord c.mem (c.base base + .ofNat off))
  | .mrs d r => c.setX d (c.sys r)
  | .msr r s => { c with sys := Function.update c.sys r (c.x s) }
  | .maskIrq => { c with irqMasked := true }
  | .isb => c

def run (code : List Instr) (c : Cpu) : Cpu := code.foldl Instr.exec c

end Aarch64
