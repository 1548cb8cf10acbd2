import Mathlib

/-!
# Build configuration and link map

`config.h`, `thread.h`, `ipc.h` and what the linker script fixes. A `Layout` is a link map: the
addresses the C code takes from the linker, with the facts the boot code relies on without
checking them.
-/

namespace ProtoOs

/-! ## `config.h` -/

def kernelLoadAddr : UInt64 := 0x40000000
def kernelIdmapSize : UInt64 := 0x01000000
def el0SandboxSize : UInt64 := 0x00200000
def el0SandboxBase : UInt64 := kernelLoadAddr + kernelIdmapSize - el0SandboxSize
def el0SandboxEnd : UInt64 := el0SandboxBase + el0SandboxSize
def el0CodeSize : UInt64 := 0x00010000
def el0CodeEnd : UInt64 := el0SandboxBase + el0CodeSize
def el0TaskCStackBottom : UInt64 := 0x40FA0000
def el0TaskCStackTop : UInt64 := 0x40FC0000
def el0TaskAStackBottom : UInt64 := 0x40FC0000
def el0TaskAStackTop : UInt64 := 0x40FE0000
def el0TaskBStackBottom : UInt64 := 0x40FE0000
def el0TaskBStackTop : UInt64 := 0x41000000

theorem el0SandboxBase_toNat : el0SandboxBase.toNat = 0x40E00000 := rfl
theorem el0SandboxEnd_toNat : el0SandboxEnd.toNat = 0x41000000 := rfl

/-- An address of the window that EL0 may read and write. -/
def InSandbox (address : UInt64) : Prop :=
  el0SandboxBase ≤ address ∧ address < el0SandboxEnd

instance (address : UInt64) : Decidable (InSandbox address) :=
  inferInstanceAs (Decidable (_ ∧ _))

theorem inSandbox_iff {address : UInt64} :
    InSandbox address ↔ 0x40E00000 ≤ address.toNat ∧ address.toNat < 0x41000000 := by
  rw [InSandbox, UInt64.le_iff_toNat_le, UInt64.lt_iff_toNat_lt, el0SandboxBase_toNat,
    el0SandboxEnd_toNat]

inductive Flavor
  | mono
  | micro
  deriving DecidableEq, Repr

def Flavor.str : Flavor → String
  | .mono => "MONO"
  | .micro => "MICRO"

inductive BenchMode
  | off
  | latency
  | recovery
  deriving DecidableEq, Repr

def BenchMode.str : BenchMode → String
  | .off => "OFF"
  | .latency => "LATENCY"
  | .recovery => "RECOVERY"

structure Config where
  flavor : Flavor
  mode : BenchMode
  debugTick : Bool
  deriving Repr

def Config.mono (cfg : Config) : Config := { cfg with flavor := .mono }

/-! ## `thread.h` and `ipc.h` -/

def threadQuantumTicks : UInt32 := 10
def threadStackSize : UInt64 := 4096

/-- `stack_top`: the 16-byte aligned end of a kernel stack. -/
def stackTop (stack size : UInt64) : UInt64 := (stack + size) &&& ~~~0xF

abbrev threadCount : Nat := 4
abbrev Slot := Fin threadCount

scoped instance neZeroThreadCount : NeZero threadCount := ⟨by decide⟩

abbrev slotTaskA : Slot := 0
abbrev slotTaskB : Slot := 1
abbrev slotTaskC : Slot := 2
abbrev slotIdle : Slot := 3

def ipcMsgSize : UInt64 := 256
def ipcOwnerNone : UInt32 := 0xFFFFFFFF
abbrev epCount : Nat := 3
abbrev EpId := Fin epCount

scoped instance neZeroEpCount : NeZero epCount := ⟨by decide⟩

abbrev epUart : EpId := 1
abbrev epBench : EpId := 2

def Slot.u32 (s : Slot) : UInt32 := UInt32.ofNat s.val

/-- The `int32_t` a slot is kept in where -1 stands for no slot. -/
def Slot.i32 (s : Slot) : Int32 := s.u32.toInt32

/-- `IPC_SLOT_NONE` and `SUPERVISOR_SLOT_NONE`. -/
def slotNone : Int32 := -1

/-- The entry of `g_threads` a `uint32_t` selects, none past the end of the table. -/
def slotOf? (w : UInt32) : Option Slot :=
  if h : w.toNat < threadCount then some ⟨w.toNat, h⟩ else none

@[simp] theorem slotOf?_u32 (s : Slot) : slotOf? s.u32 = some s := by
  revert s; decide

@[simp] theorem Slot.i32_toUInt32 (s : Slot) : s.i32.toUInt32 = s.u32 := rfl

@[simp] theorem Slot.u32_toInt32 (s : Slot) : s.u32.toInt32 = s.i32 := rfl

@[simp] theorem Slot.u32_inj {s s' : Slot} : s.u32 = s'.u32 ↔ s = s' := by
  revert s s'; decide

@[simp] theorem Slot.i32_inj {s s' : Slot} : s.i32 = s'.i32 ↔ s = s' := by
  revert s s'; decide

@[simp] theorem Slot.i32_ne_none (s : Slot) : s.i32 ≠ slotNone := by
  revert s; decide

@[simp] theorem Slot.none_ne_i32 (s : Slot) : slotNone ≠ s.i32 := s.i32_ne_none.symm

@[simp] theorem Slot.u32_ne_none (s : Slot) : s.u32 ≠ ipcOwnerNone := by
  revert s; decide

theorem slotOf?_eq_some {w : UInt32} {s : Slot} : slotOf? w = some s ↔ w = s.u32 := by
  constructor
  · intro found
    unfold slotOf? at found
    split at found
    · rename_i below
      cases found
      exact UInt32.toNat_inj.mp (by simp [Slot.u32])
    · cases found
  · rintro rfl
    exact slotOf?_u32 s

/-! ## The link map -/

structure Layout where
  /-- `__el0_task_a_entry` and its siblings. -/
  entry : Slot → UInt64
  /-- `__el0_task_a_stack_bottom` and its siblings. -/
  stackBottom : Slot → UInt64
  stackTop : Slot → UInt64
  sandboxEnd : UInt64
  /-- `g_stack_task_a` and its siblings. -/
  kernelStack : Slot → UInt64
  /-- The stack pointer of a thread at its call of `context_switch`. -/
  switchSp : Slot → UInt64
  /-- `&g_threads[slot].user.ctx`. -/
  userCtx : Slot → UInt64
  userTaskReturnToKernel : UInt64
  kernelStack_ne : ∀ s, ProtoOs.stackTop (kernelStack s) threadStackSize ≠ 0
  switchSp_ne : ∀ s, switchSp s ≠ 0
  userCtx_mapped : ∀ s, kernelLoadAddr ≤ userCtx s ∧
    userCtx s + 272 ≤ kernelLoadAddr + kernelIdmapSize

end ProtoOs
