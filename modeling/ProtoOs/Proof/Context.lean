import ProtoOs.Kernel.Vectors
import ProtoOs.Proof.Resumption

/-!
# Registers across a call

A task executes again with the registers it trapped with, up to the result in x0. The register file
passes through `SAVE_CONTEXT_EL0` and, on the way back, either through `RESTORE_SYNC_CONTEXT` or
through the saved context and `el0_resume`.
-/

namespace ProtoOs

open Aarch64 Transition.System

variable {L : Layout} {cfg : Config} {m m₁ m₂ : Machine} {t : Slot} {tf : TrapFrame}
  {ctx regs : UserTaskCtx} {stores : List (SandboxAddress × UInt8)} {h h' : List (Machine × Action)}
  {c c' : Cpu}

/-! ## The macros -/

theorem el0SyncEntry_slots : slots 36 (run el0SyncEntry c).mem (c.sp - .ofNat frameSize) =
    (frameOf c).members.get := by
  simp only [run, el0SyncEntry, saveContextEl0, List.cons_append, List.nil_append, List.foldl_cons,
    List.foldl_nil, Instr.exec, Cpu.setX, Cpu.store, Cpu.base]
  simp (disch := decide) only [slots_storeWord]
  funext i
  fin_cases i
  all_goals rfl

theorem el0SyncEntry_holds :
    Holds (run el0SyncEntry c).mem ((run el0SyncEntry c).x 0) (frameOf c).members := by
  rw [holds_iff_slots]
  exact el0SyncEntry_slots

theorem restoreSyncContext_x (i : Fin 31) :
    (run restoreSyncContext c).x i = loadWord c.mem (c.sp + .ofNat (8 * i.val)) := by
  fin_cases i
  all_goals rfl

theorem el0Resume_x (i : Fin 31) :
    (run el0Resume c).x i = loadWord c.mem (c.x 0 + .ofNat (8 * i.val)) := by
  fin_cases i
  all_goals rfl

theorem restoreSyncContext_holds (holds : Holds c.mem c.sp tf.members) :
    eretOf (run restoreSyncContext c) =
      { x := tf.x, spEl0 := c.sys .spEl0, elr := tf.elr, spsr := tf.spsr } ∧
    (run restoreSyncContext c).sp = c.sp + .ofNat frameSize := by
  have x : (run restoreSyncContext c).x = tf.x := by
    funext i
    rw [restoreSyncContext_x]
    exact holds.array i
  have elr : (run restoreSyncContext c).sys .elrEl1 = tf.elr := holds 32 (by simp [TrapFrame.members])
  have spsr : (run restoreSyncContext c).sys .spsrEl1 = tf.spsr := holds 33 (by simp [TrapFrame.members])
  refine ⟨?_, rfl⟩
  rw [eretOf, x, elr, spsr]
  rfl

theorem el0Resume_holds (holds : Holds c.mem (c.x 0) ctx.members) :
    eretOf (run el0Resume c) = ctx := by
  have x : (run el0Resume c).x = ctx.x := by
    funext i
    rw [el0Resume_x]
    exact holds.array i
  have spEl0 : (run el0Resume c).sys .spEl0 = ctx.spEl0 := holds 31 (by simp [UserTaskCtx.members])
  have elr : (run el0Resume c).sys .elrEl1 = ctx.elr := holds 32 (by simp [UserTaskCtx.members])
  have spsr : (run el0Resume c).sys .spsrEl1 = ctx.spsr := holds 33 (by simp [UserTaskCtx.members])
  rw [eretOf, x, spEl0, elr, spsr]

/-! ## The way back -/

/-- The handler was called in `c`, with the frame that `SAVE_CONTEXT_EL0` filled, and the task
executes again with `regs`. The processor at the end of the handler is `c'`, of which the procedure
call standard says that its stack pointer is that of the call. -/
inductive WayBack (L : Layout) (cfg : Config) (m : Machine) (t : Slot)
    (stores : List (SandboxAddress × UInt8)) (c : Cpu) (m₁ m₂ : Machine) (regs : UserTaskCtx) : Prop
  | direct {k' : Kernel} {tf' : TrapFrame} (same : m₂ = m₁)
      (handled : exceptionSyncEl0 L cfg (m.kernel.setMem (userStores stores m.kernel.mem)) (frameOf c) =
        .ok (k', tf'))
      (restored : ∀ c' : Cpu, c'.sp = (run el0SyncEntry c).sp → c'.sys .spEl0 = c.sys .spEl0 →
        Holds c'.mem c'.sp tf'.members →
          eretOf (run restoreSyncContext c') = regs ∧ (run restoreSyncContext c').sp = c.sp)
  | redirected {k' : Kernel} {tf' : TrapFrame}
      (handled : exceptionSyncEl0 L cfg (m.kernel.setMem (userStores stores m.kernel.mem)) (frameOf c) =
        .ok (k', tf'))
      (left : ∀ c' : Cpu, c'.sp = (run el0SyncEntry c).sp → Holds c'.mem c'.sp tf'.members →
        (run restoreSyncContext c').sys .elrEl1 = L.userTaskReturnToKernel ∧
          (run restoreSyncContext c').sys .spsrEl1 = spsrEl1hMasked ∧
            (run restoreSyncContext c').sp = c.sp)
      (restored : ∀ c' : Cpu, Holds c'.mem (c'.x 0) (m₂.kernel.threads t).user.ctx.members →
        eretOf (run el0Resume c') = regs)

theorem frame_sp (sp : c'.sp = (run el0SyncEntry c).sp) : c'.sp + .ofNat frameSize = c.sp := by
  rw [sp]
  exact UInt64.sub_add_cancel c.sp (.ofNat frameSize)

theorem run_registers_kept (ran : (kernelSystem L cfg).Run h m)
    (next : NextExecution L cfg m t stores (frameOf c) m₁ h' m₂ regs) :
    Holds (run el0SyncEntry c).mem ((run el0SyncEntry c).x 0) (frameOf c).members ∧
      (∃ x0, regs = (frameOf c).after x0) ∧ WayBack L cfg m t stores c m₁ m₂ regs := by
  refine ⟨el0SyncEntry_holds, ?_⟩
  cases next.resumed (run_inv ran) with
  | @direct k' x0 same returned _ result =>
      have handled : exceptionSyncEl0 L cfg (m.kernel.setMem (userStores stores m.kernel.mem))
          (frameOf c) = .ok (k', (frameOf c).setX0 x0) := by
        simp [exceptionSyncEl0, next.svc, returned]
      refine ⟨⟨x0, result⟩, .direct same handled ?_⟩
      intro c' sp spEl0 holds
      obtain ⟨registers, popped⟩ := restoreSyncContext_holds holds
      refine ⟨?_, popped.trans (frame_sp sp)⟩
      rw [registers, result, spEl0]
      rfl
  | @redirected k' returned _ after loaded =>
      have handled : exceptionSyncEl0 L cfg (m.kernel.setMem (userStores stores m.kernel.mem))
          (frameOf c) = .ok (k', ((frameOf c).redirect L).setX0 0) := by
        simp [exceptionSyncEl0, next.svc, returned]
      refine ⟨?_, .redirected handled ?_ ?_⟩
      · rw [loaded]
        exact after.ctx
      · intro c' sp holds
        obtain ⟨registers, popped⟩ := restoreSyncContext_holds holds
        exact ⟨congrArg UserTaskCtx.elr registers, congrArg UserTaskCtx.spsr registers,
          popped.trans (frame_sp sp)⟩
      · intro c' holds
        rw [loaded]
        exact el0Resume_holds holds

def cpuOf (tf : TrapFrame) : Cpu where
  x := tf.x
  sp := kernelLoadAddr + 0x101000
  sys
    | .spEl0 => tf.sp
    | .elrEl1 => tf.elr
    | .spsrEl1 => tf.spsr
    | .esrEl1 => tf.esr
    | .farEl1 => tf.far
  irqMasked := true
  mem := fun _ => 0

theorem yieldTurn_seven : YieldTurn 7 :=
  ⟨_, _, _, _, _, _, rfl, rfl, rfl, rfl, rfl, rfl, rfl, rfl, rfl, rfl, rfl⟩

theorem run_registers_kept_yield : ∃ (m m₁ m₂ : Machine) (regs : UserTaskCtx),
    m₂.Executes slotTaskA regs ∧
      WayBack .sample .sample m slotTaskA [] (cpuOf (.svc sysYield [7])) m₁ m₂ regs := by
  obtain ⟨h, m, m₁, h', m₂, regs, ran, next, _⟩ := yieldTurn_seven.run
  exact ⟨m, m₁, m₂, regs, next.executes,
    (run_registers_kept (c := cpuOf (.svc sysYield [7])) ran next).2.2⟩

end ProtoOs
