import ProtoOs.Kernel.Config
import ProtoOs.Lib.Protection

namespace ProtoOs

open Aarch64

def mmuTableEntries : Nat := 512
def mmuPageShift : UInt64 := 12
def mmuL2BlockShift : UInt64 := 21
def mmuL2BlockSize : UInt64 := 1 <<< mmuL2BlockShift

def kernelMapBase : UInt64 := kernelLoadAddr
def kernelMapSize : UInt64 := kernelIdmapSize
def gicMapBase : UInt64 := 0x08000000
def pl011MapBase : UInt64 := 0x09000000

def descValid : UInt64 := (1 : UInt64) <<< 0
def descTable : UInt64 := (1 : UInt64) <<< 1
def descAf : UInt64 := (1 : UInt64) <<< 10
def descShInner : UInt64 := (3 : UInt64) <<< 8
def descApEl0Rw : UInt64 := (1 : UInt64) <<< 6
def descUxn : UInt64 := (1 : UInt64) <<< 54
def descPxn : UInt64 := (1 : UInt64) <<< 53

def attrIdxNormal : UInt64 := 0
def attrIdxDevice : UInt64 := 1

def tcrT0sz39bit : UInt64 := 25

/-- What `mmu_init` writes to MAIR_EL1. -/
def mair : UInt64 := (0xFF <<< (attrIdxNormal * 8)) ||| (0x00 <<< (attrIdxDevice * 8))

inductive PageTable
  | l1
  | l2Low
  | l2Kernel
  deriving DecidableEq, Repr

/-- Where the linker puts the tables. -/
structure TableMap where
  address : PageTable → UInt64
  aligned : ∀ t, (address t).toNat % 4096 = 0
  below : ∀ t, (address t).toNat < 2 ^ 48
  distinct : Function.Injective address

example : Nonempty TableMap :=
  ⟨{  address := fun
        | .l1 => 0x40010000
        | .l2Low => 0x40011000
        | .l2Kernel => 0x40012000
      aligned := by intro t; cases t <;> decide
      below := by intro t; cases t <;> decide
      distinct := by intro t t'; cases t <;> cases t' <;> decide }⟩

def l1Index (va : UInt64) : UInt64 := (va >>> 30) &&& 0x1FF

def l2Index (va : UInt64) : UInt64 := (va >>> mmuL2BlockShift) &&& 0x1FF

def tableDesc (pa : UInt64) : UInt64 :=
  (pa &&& ~~~((1 <<< mmuPageShift) - 1)) ||| descValid ||| descTable

def blockDescNormal (pa : UInt64) (el0Access : Bool) : UInt64 :=
  let desc := (pa &&& ~~~(mmuL2BlockSize - 1)) ||| descValid ||| descAf ||| descShInner |||
    (attrIdxNormal <<< 2)
  if el0Access then desc ||| (descApEl0Rw ||| descPxn) else desc ||| descUxn

def blockDescDevice (pa : UInt64) : UInt64 :=
  (pa &&& ~~~(mmuL2BlockSize - 1)) ||| descValid ||| descAf ||| (attrIdxDevice <<< 2) ||| descUxn |||
    descPxn

variable (tables : TableMap)

/-- The assignment `table[idx] = desc`. -/
def TableMap.setEntry (t : PageTable) (idx desc : UInt64) (mem : Mem) : Mem :=
  storeWord (tables.address t + 8 * idx) desc mem

def clearTables (mem : Mem) : Mem :=
  (List.range mmuTableEntries).foldl (fun mem i =>
    tables.setEntry .l2Kernel (.ofNat i) 0 (tables.setEntry .l2Low (.ofNat i) 0
      (tables.setEntry .l1 (.ofNat i) 0 mem))) mem

def map2mBlock (l2Table : PageTable) (va pa : UInt64) (isDevice el0Access : Bool) (mem : Mem) :
    Mem :=
  tables.setEntry l2Table (l2Index va)
    (if isDevice then blockDescDevice pa else blockDescNormal pa el0Access) mem

/-- One iteration of the loop over the kernel window. -/
def mapKernelBlock (offset : UInt64) (mem : Mem) : Mem :=
  let va := kernelMapBase + offset
  let el0Access := decide (va ≥ el0SandboxBase ∧ va < el0SandboxEnd)
  map2mBlock tables .l2Kernel va va false el0Access mem

def kernelOffsets : List UInt64 :=
  (List.range (kernelMapSize / mmuL2BlockSize).toNat).map fun i => .ofNat i * mmuL2BlockSize

def buildIdentityMap (mem : Mem) : Mem :=
  let mem := tables.setEntry .l1 (l1Index gicMapBase) (tableDesc (tables.address .l2Low)) mem
  let mem := tables.setEntry .l1 (l1Index kernelMapBase) (tableDesc (tables.address .l2Kernel)) mem
  let mem := map2mBlock tables .l2Low gicMapBase gicMapBase true false mem
  let mem := map2mBlock tables .l2Low pl011MapBase pl011MapBase true false mem
  kernelOffsets.foldl (fun mem offset => mapKernelBlock tables offset mem) mem

/-! ## `mmu_init` -/

def tcrEpd1 : UInt64 := (1 : UInt64) <<< 23
def tcrTg04k : UInt64 := (0 : UInt64) <<< 14
def tcrSh0Inner : UInt64 := (3 : UInt64) <<< 12
def tcrOrgn0WbWa : UInt64 := (1 : UInt64) <<< 10
def tcrIrgn0WbWa : UInt64 := (1 : UInt64) <<< 8
def tcrIps40bit : UInt64 := (2 : UInt64) <<< 32

def sctlrM : UInt64 := (1 : UInt64) <<< 0
def sctlrC : UInt64 := (1 : UInt64) <<< 2
def sctlrI : UInt64 := (1 : UInt64) <<< 12

/-- What `mmu_init` writes to TCR_EL1. -/
def tcr : UInt64 :=
  tcrT0sz39bit ||| tcrEpd1 ||| tcrTg04k ||| tcrSh0Inner ||| tcrOrgn0WbWa ||| tcrIrgn0WbWa |||
    tcrIps40bit

inductive MmuPanic
  | kernelMapWindowTooSmall
  | pageTablesOutsideKernelMap
  deriving DecidableEq, Repr

/-- `top` is the address of `__stack_top`. -/
def validateKernelWindow (top : UInt64) : Except MmuPanic Unit :=
  let kernelLimit := kernelMapBase + kernelMapSize
  if top ≥ kernelLimit then .error .kernelMapWindowTooSmall
  else if tables.address .l1 ≥ kernelLimit ∨ tables.address .l2Low ≥ kernelLimit ∨
      tables.address .l2Kernel ≥ kernelLimit then .error .pageTablesOutsideKernelMap
  else .ok ()

/-- The barriers and `ic iallu` change nothing that a `Regime` has; `tlbi vmalle1` empties the
TLB. -/
def mmuInit (top : UInt64) (r : Translation.Regime) : Except MmuPanic Translation.Regime :=
  let sctlr := r.sctlr
  if sctlr &&& sctlrM ≠ 0 then .ok r
  else match validateKernelWindow tables top with
    | .error p => .error p
    | .ok () =>
      let r := { r with mem := buildIdentityMap tables (clearTables tables r.mem) }
      let r := { r with mair := mair }
      let r := { r with ttbr0 := tables.address .l1 }
      let r := { r with ttbr1 := 0 }
      let r := { r with tcr := tcr }
      let r := { r with tlb := [] }
      .ok { r with sctlr := sctlr ||| (sctlrM ||| sctlrC ||| sctlrI) }

end ProtoOs
