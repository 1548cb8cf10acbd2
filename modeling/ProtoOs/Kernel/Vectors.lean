import ProtoOs.Kernel.State
import ProtoOs.Lib.Aarch64

/-!
# Register save and restore: `vectors.S` and `el0_resume.S`

The macros around the synchronous handler of EL0 and `el0_resume`, and the structures of the C code
that they fill and read. All members of `struct trap_frame` and `struct user_task_ctx` are 64-bit
words.
-/

namespace ProtoOs

open Aarch64

/-! ## Structures -/

def TrapFrame.members (tf : TrapFrame) : List UInt64 :=
  List.ofFn tf.x ++ [tf.sp, tf.elr, tf.spsr, tf.esr, tf.far]

def UserTaskCtx.members (ctx : UserTaskCtx) : List UInt64 :=
  List.ofFn ctx.x ++ [ctx.spEl0, ctx.elr, ctx.spsr]

/-- What an exception from EL0 leaves in the registers. -/
def frameOf (c : Cpu) : TrapFrame :=
  { x := c.x, sp := c.sys .spEl0, elr := c.sys .elrEl1, spsr := c.sys .spsrEl1, esr := c.sys .esrEl1
    far := c.sys .farEl1 }

/-- What `eret` to EL0 makes of the registers. -/
def eretOf (c : Cpu) : UserTaskCtx :=
  { x := c.x, spEl0 := c.sys .spEl0, elr := c.sys .elrEl1, spsr := c.sys .spsrEl1 }

/-! ## `vectors.S` -/

def frameSize : Nat := 36 * 8

def saveContextEl0 : List Instr := [
  .subSp frameSize,
  .stp 0 1 .sp 0,
  .stp 2 3 .sp 16,
  .stp 4 5 .sp 32,
  .stp 6 7 .sp 48,
  .stp 8 9 .sp 64,
  .stp 10 11 .sp 80,
  .stp 12 13 .sp 96,
  .stp 14 15 .sp 112,
  .stp 16 17 .sp 128,
  .stp 18 19 .sp 144,
  .stp 20 21 .sp 160,
  .stp 22 23 .sp 176,
  .stp 24 25 .sp 192,
  .stp 26 27 .sp 208,
  .stp 28 29 .sp 224,
  .str 30 .sp 240,
  .mrs 1 .spEl0,
  .str 1 .sp 248,
  .mrs 1 .elrEl1,
  .str 1 .sp 256,
  .mrs 1 .spsrEl1,
  .str 1 .sp 264,
  .mrs 1 .esrEl1,
  .str 1 .sp 272,
  .mrs 1 .farEl1,
  .str 1 .sp 280]

def restoreContext : List Instr := [
  .ldp 0 1 .sp 0,
  .ldp 2 3 .sp 16,
  .ldp 4 5 .sp 32,
  .ldp 6 7 .sp 48,
  .ldp 8 9 .sp 64,
  .ldp 10 11 .sp 80,
  .ldp 12 13 .sp 96,
  .ldp 14 15 .sp 112,
  .ldp 16 17 .sp 128,
  .ldp 18 19 .sp 144,
  .ldp 20 21 .sp 160,
  .ldp 22 23 .sp 176,
  .ldp 24 25 .sp 192,
  .ldp 26 27 .sp 208,
  .ldp 28 29 .sp 224,
  .ldr 30 .sp 240,
  .addSp frameSize]

def restoreSyncContext : List Instr := [
  .ldr 0 .sp 256,
  .msr .elrEl1 0,
  .ldr 0 .sp 264,
  .msr .spsrEl1 0] ++ restoreContext

/-- `el0_sync` up to its call of `exception_sync_el0`. -/
def el0SyncEntry : List Instr := saveContextEl0 ++ [.movFromSp 0]

/-! ## `el0_resume.S` -/

def el0Resume : List Instr := [
  .maskIrq,
  .mov 9 0,
  .ldr 10 (.x 9) 248,
  .msr .spEl0 10,
  .ldr 10 (.x 9) 256,
  .msr .elrEl1 10,
  .ldr 10 (.x 9) 264,
  .msr .spsrEl1 10,
  .ldr 1 (.x 9) 8,
  .ldr 2 (.x 9) 16,
  .ldr 3 (.x 9) 24,
  .ldr 4 (.x 9) 32,
  .ldr 5 (.x 9) 40,
  .ldr 6 (.x 9) 48,
  .ldr 7 (.x 9) 56,
  .ldr 8 (.x 9) 64,
  .ldr 11 (.x 9) 88,
  .ldr 12 (.x 9) 96,
  .ldr 13 (.x 9) 104,
  .ldr 14 (.x 9) 112,
  .ldr 15 (.x 9) 120,
  .ldr 16 (.x 9) 128,
  .ldr 17 (.x 9) 136,
  .ldr 18 (.x 9) 144,
  .ldr 19 (.x 9) 152,
  .ldr 20 (.x 9) 160,
  .ldr 21 (.x 9) 168,
  .ldr 22 (.x 9) 176,
  .ldr 23 (.x 9) 184,
  .ldr 24 (.x 9) 192,
  .ldr 25 (.x 9) 200,
  .ldr 26 (.x 9) 208,
  .ldr 27 (.x 9) 216,
  .ldr 28 (.x 9) 224,
  .ldr 29 (.x 9) 232,
  .ldr 30 (.x 9) 240,
  .ldr 0 (.x 9) 0,
  .ldr 10 (.x 9) 80,
  .ldr 9 (.x 9) 72,
  .isb]

end ProtoOs
