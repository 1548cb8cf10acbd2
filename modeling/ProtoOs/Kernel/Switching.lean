import ProtoOs.Kernel.Thread
import ProtoOs.Kernel.Vectors
import ProtoOs.Lib.Coroutines
import ProtoOs.Lib.KernelCode

/-!
# Threads on the processor: `context_switch.S` and the EL1 interrupt entry of `vectors.S`

A thread is a slot, and the boot code, which `g_boot_ctx` stands for, is `none`. Between two
switches a thread computes, and the processor takes interrupts.
-/

namespace ProtoOs

open Aarch64 Transition

/-! ## `context_switch.S` -/

/-- What `context_switch` saves, in the order of `struct thread_ctx`. -/
def calleeSaved (c : Cpu) : List UInt64 :=
  [c.x 19, c.x 20, c.x 21, c.x 22, c.x 23, c.x 24, c.x 25, c.x 26, c.x 27, c.x 28, c.x 29, c.sp, c.x 30]

def storeCallee : List KernelInstr := [
  .plain .maskIrq,
  .plain (.str 19 (.x 0) 0),
  .plain (.str 20 (.x 0) 8),
  .plain (.str 21 (.x 0) 16),
  .plain (.str 22 (.x 0) 24),
  .plain (.str 23 (.x 0) 32),
  .plain (.str 24 (.x 0) 40),
  .plain (.str 25 (.x 0) 48),
  .plain (.str 26 (.x 0) 56),
  .plain (.str 27 (.x 0) 64),
  .plain (.str 28 (.x 0) 72),
  .plain (.str 29 (.x 0) 80),
  .plain (.movFromSp 2),
  .plain (.str 2 (.x 0) 88),
  .plain (.str 30 (.x 0) 96)]

def loadCallee : List KernelInstr := [
  .plain (.ldr 19 (.x 1) 0),
  .plain (.ldr 20 (.x 1) 8),
  .plain (.ldr 21 (.x 1) 16),
  .plain (.ldr 22 (.x 1) 24),
  .plain (.ldr 23 (.x 1) 32),
  .plain (.ldr 24 (.x 1) 40),
  .plain (.ldr 25 (.x 1) 48),
  .plain (.ldr 26 (.x 1) 56),
  .plain (.ldr 27 (.x 1) 64),
  .plain (.ldr 28 (.x 1) 72),
  .plain (.ldr 29 (.x 1) 80),
  .plain (.ldr 2 (.x 1) 88),
  .movToSp 2,
  .plain (.ldr 30 (.x 1) 96),
  .unmaskIrq]

def contextSwitchCode : List KernelInstr := storeCallee ++ loadCallee

/-! ## `vectors.S` -/

def saveContext : List KernelInstr := [
  .plain (.subSp frameSize),
  .plain (.stp 0 1 .sp 0),
  .plain (.stp 2 3 .sp 16),
  .plain (.stp 4 5 .sp 32),
  .plain (.stp 6 7 .sp 48),
  .plain (.stp 8 9 .sp 64),
  .plain (.stp 10 11 .sp 80),
  .plain (.stp 12 13 .sp 96),
  .plain (.stp 14 15 .sp 112),
  .plain (.stp 16 17 .sp 128),
  .plain (.stp 18 19 .sp 144),
  .plain (.stp 20 21 .sp 160),
  .plain (.stp 22 23 .sp 176),
  .plain (.stp 24 25 .sp 192),
  .plain (.stp 26 27 .sp 208),
  .plain (.stp 28 29 .sp 224),
  .plain (.str 30 .sp 240),
  .addFromSp 1 frameSize,
  .plain (.str 1 .sp 248),
  .plain (.mrs 1 .elrEl1),
  .plain (.str 1 .sp 256),
  .plain (.mrs 1 .spsrEl1),
  .plain (.str 1 .sp 264),
  .plain (.mrs 1 .esrEl1),
  .plain (.str 1 .sp 272),
  .plain (.mrs 1 .farEl1),
  .plain (.str 1 .sp 280)]

/-- `el1h_irq` up to its call of `exception_irq`. -/
def el1hIrqEntry : List KernelInstr := saveContext ++ [.plain (.movFromSp 0)]

/-! ## Threads -/

/-- `g_boot_ctx` and the contexts in `g_threads`. -/
abbrev ThreadContexts := Areas (Option Slot) 13

structure Core where
  cpu : Cpu
  current : Option Slot

/-- `eret` to the interrupted code. What the entry of the exception put in ELR and SPSR stays there. -/
def Cpu.eretEl1 (c : Cpu) : Cpu := { c with irqMasked := false }

variable (contexts : ThreadContexts)

/-- What runs between `el1h_irq`'s call of `exception_irq` and its return: it keeps the frame and the
stack pointer, as the procedure call standard says, and stores to no context. -/
structure Handles (before after : Cpu) : Prop where
  sp : after.sp = before.sp
  spEl0 : after.sys .spEl0 = before.sys .spEl0
  frame : slots 36 after.mem before.sp = slots 36 before.mem before.sp
  contexts : ∀ t, slots 13 after.mem (contexts.address t) = slots 13 before.mem (contexts.address t)

/-- The frame that an interrupt pushes lies on a stack, away from the contexts. -/
structure OnStack (c : Cpu) : Prop where
  aligned : c.sp.toNat % 8 = 0
  room : frameSize ≤ c.sp.toNat
  apart : ∀ t, c.sp.toNat ≤ (contexts.address t).toNat ∨
    (contexts.address t).toNat + 8 * 13 ≤ c.sp.toNat - frameSize

inductive Core.Step (s : Core) : CoroutineAction (Option Slot) → Core → Prop
  | work {cpu : Cpu} (others : ∀ t, t ≠ s.current →
      slots 13 cpu.mem (contexts.address t) = slots 13 s.cpu.mem (contexts.address t)) :
      Step s .work ⟨cpu, s.current⟩
  | interrupt {sys : SysReg → UInt64} {handled : Cpu} (enabled : s.cpu.irqMasked = false)
      (stack : OnStack contexts s.cpu) (taken : sys .spEl0 = s.cpu.sys .spEl0)
      (handles : Handles contexts (runKernel el1hIrqEntry { s.cpu with sys := sys, irqMasked := true })
        handled) : Step s .interrupt ⟨Cpu.eretEl1 (run restoreContext handled), s.current⟩
  | switch {t : Option Slot} (other : t ≠ s.current) (old : s.cpu.x 0 = contexts.address s.current)
      (new : s.cpu.x 1 = contexts.address t) :
      Step s (.switch t) ⟨runKernel contextSwitchCode s.cpu, t⟩

def coreSystem (start : Core → Prop) : System Core (CoroutineAction (Option Slot)) where
  init := start
  step s a s' := s.Step contexts a s'

/-! ## Concrete runs -/

def contextAddress : Option Slot → UInt64
  | none => kernelLoadAddr + 0x120000
  | some s => kernelLoadAddr + 0x120200 + 0x200 * s.u32.toUInt64

theorem contextAddress_aligned : ∀ t, (contextAddress t).toNat % 8 = 0 := by decide

theorem contextAddress_room : ∀ t, (contextAddress t).toNat + 8 * 13 ≤ 2 ^ 64 := by decide

theorem contextAddress_apart : ∀ t t', t ≠ t' →
    (contextAddress t).toNat + 8 * 13 ≤ (contextAddress t').toNat ∨
      (contextAddress t').toNat + 8 * 13 ≤ (contextAddress t).toNat := by decide

def sampleContexts : ThreadContexts :=
  ⟨contextAddress, contextAddress_aligned, contextAddress_room, contextAddress_apart⟩

def callSwitch (t u : Option Slot) (lr : UInt64) (mem : Mem) : Cpu :=
  { x := Function.update (Function.update (Function.update (fun i => .ofNat i.val) 0 (contextAddress t))
      1 (contextAddress u)) 30 lr
    sp := kernelLoadAddr + 0x130000, sys := fun _ => 0, irqMasked := false, mem := mem }

end ProtoOs
