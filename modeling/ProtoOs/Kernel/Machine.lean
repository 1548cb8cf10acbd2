import ProtoOs.Kernel.Syscall
import ProtoOs.Lib.System

/-!
# The machine

The control flow between EL0, the trap handlers, the EL1 continuation, the scheduler and the idle
loop. A `Phase` names the point that control has reached. The handlers run with interrupts masked
from the trap to `thread_resched_point`, so a trap is one step; from there to `el0_resume`
interrupts are enabled, and a timer tick may come at each phase. A tick reads `g_current` and
writes the tick counter, the quantum of the current thread and `g_resched_pending`, which is why
`thread_switch_to` is cut where it assigns `g_current`.
-/

namespace ProtoOs

inductive Phase
  | el0 (regs : UserTaskCtx)
  | pick (caller : Resume)
  | switch (next : Slot) (caller : Resume)
  | enter (prev : Option Slot) (next : Slot) (caller : Resume)
  | cont (at_ : Resume)
  | currentCtx
  | resume (t : Slot)
  | wfi
  | panic (p : Panic)

/-- Whether interrupts are enabled. EL0 runs with them masked (`SPSR_EL0T_MASKED`). -/
def Phase.irqEnabled : Phase → Bool
  | .el0 _ | .panic _ => false
  | _ => true

structure Machine where
  kernel : Kernel
  phase : Phase

/-! ## The EL1 continuation -/

@[simps! -fullyApplied] def Kernel.markTask (k : Kernel) (t : Slot) (state : ThreadState) (user : TaskState) : Kernel :=
  k.modifyThread t fun th => { th with state := state, user := { th.user with state := user } }

def exitReport (name : Option String) : List UartCall :=
  [.puts "[task] exit ", .puts (name.getD "unknown"), .puts "\n"]

/-- The exit and fault branch of `user_task_return_step`. -/
def userTaskDeath (k : Kernel) (t : Slot) : Except Panic Kernel :=
  let slot := (k.threads t).slot
  match ipcHandleTaskDeath ((k.record [.died slot]).markTask t .stopped .dead) slot with
  | .error p => .error p
  | .ok k => supervisorNoteTaskDeath k slot

/-- `user_task_return_step` up to its call of `thread_resched_point`. -/
def userTaskReturnStep (k : Kernel) : Except Panic (Kernel × Slot) :=
  match currentUserTask k .invalidCurrentUserTask with
  | .error p => .error p
  | .ok t =>
    let user := (k.threads t).user
    let step : Except Panic Kernel :=
      match user.returnReason with
      | .yield => .ok (k.markTask t .runnable .runnable)
      | .ipcBlock => .ok (k.markTask t .runnable .blocked)
      | .notifyBlock => .ok (k.markTask t .runnable .blocked)
      | .exit => userTaskDeath (k.emit (exitReport user.name)) t
      | .fault => userTaskDeath k t
      | .none => .error .unknownUserReturnReason
    match step with
    | .error p => .error p
    | .ok k => .ok (k.setResched true, t)

/-- `user_task_return_step` after its call of `thread_resched_point`. -/
def userTaskReturnTail (k : Kernel) (t : Slot) : Except Panic Kernel :=
  let th := k.threads t
  if k.current ≠ some t ∨ th.kind ≠ .userTask then .error .resumedOnNonUserThread
  else if th.state = .stopped ∨ th.user.state = .dead ∨ th.user.state = .blocked then
    .error .deadUserTaskResumed
  else
    .ok ((k.modifyThread t fun th =>
      { th with
        state := .running
        user := { th.user with state := .running, returnReason := .none } }).setCurrentTask (some t))

/-! ## Control flow -/

/-- `thread_resched_point`, called where `caller` continues. -/
def threadReschedPoint (k : Kernel) (caller : Resume) : Machine :=
  match threadReschedTake k with
  | (true, k) => ⟨k, .pick caller⟩
  | (false, k) => ⟨k, .cont caller⟩

/-- `eret` from the synchronous handler: to the continuation, when the frame was redirected there,
and to EL0 otherwise. -/
def eret (k : Kernel) (tf : TrapFrame) : Machine :=
  if tf.spsr &&& 0xF = 5 then
    match userTaskReturnStep k with
    | .error p => ⟨k, .panic p⟩
    | .ok (k, t) => threadReschedPoint k (.returnStep t)
  else ⟨k, .el0 { x := tf.x, spEl0 := tf.sp, elr := tf.elr, spsr := tf.spsr }⟩

def takeTrap (L : Layout) (cfg : Config) (k : Kernel) (tf : TrapFrame) : Machine :=
  match exceptionSyncEl0 L cfg k tf with
  | .error (p, k) => ⟨k, .panic p⟩
  | .ok (k, tf) => eret k tf

def resumeAt (k : Kernel) : Resume → Option Machine
  | .bootstrap .userTask arg =>
      match threadEntryUserTask k arg with
      | .error p => some ⟨k, .panic p⟩
      | .ok (k, t) => some ⟨k, .resume t⟩
  | .bootstrap .idle _ => some ⟨k, .wfi⟩
  | .returnStep t =>
      match userTaskReturnTail k t with
      | .error p => some ⟨k, .panic p⟩
      | .ok k => some ⟨k, .currentCtx⟩
  | .idleLoop => some ⟨k, .wfi⟩
  | .boot | .null => none

def advance (L : Layout) (m : Machine) : Option Machine :=
  let k := m.kernel
  match m.phase with
  | .el0 _ | .panic _ => none
  | .pick caller =>
      match pickNextThread k with
      | .error p => some ⟨k, .panic p⟩
      | .ok next => some ⟨k, .switch next caller⟩
  | .switch next caller =>
      if k.current = some next then some ⟨k, .cont caller⟩
      else some ⟨threadSwitchToMark k next, .enter k.current next caller⟩
  | .enter prev next caller =>
      match threadSwitchToEnter L k prev next caller with
      | .error p => some ⟨k, .panic p⟩
      | .ok (k, at_) => some ⟨k, .cont at_⟩
  | .cont at_ => resumeAt k at_
  | .currentCtx =>
      match threadCurrentUserCtx L k with
      | .error p => some ⟨k, .panic p⟩
      | .ok t => some ⟨k, .resume t⟩
  | .resume t => some ⟨k, .el0 (k.threads t).user.ctx⟩
  | .wfi => some (threadReschedPoint k .idleLoop)

/-! ## Runs -/

/-- A byte of the sandbox, the only memory the page tables let EL0 write. -/
abbrev SandboxAddress := { address : UInt64 // InSandbox address }

def userStores (stores : List (SandboxAddress × UInt8)) (mem : Memory) : Memory :=
  stores.foldl (fun mem store => Function.update mem store.1.val store.2) mem

def Machine.trapped (m : Machine) (stores : List (SandboxAddress × UInt8)) : Kernel :=
  m.kernel.setMem (userStores stores m.kernel.mem)

/-- The mode an exception from EL0 saves is EL0t. -/
def TrapFrame.fromEl0 (tf : TrapFrame) : Prop := tf.spsr &&& 0xF = 0

instance (tf : TrapFrame) : Decidable tf.fromEl0 := inferInstanceAs (Decidable (_ = _))

inductive Action
  | trap (stores : List (SandboxAddress × UInt8)) (tf : TrapFrame)
  | tick
  | advance

def Machine.step (L : Layout) (cfg : Config) (m : Machine) : Action → Option Machine
  | .trap stores tf =>
      match m.phase with
      | .el0 _ =>
          if tf.fromEl0 then
            some (takeTrap L cfg (m.kernel.setMem (userStores stores m.kernel.mem)) tf)
          else none
      | _ => none
  | .tick =>
      if m.phase.irqEnabled then some ⟨timerHandleIrq cfg m.kernel, m.phase⟩ else none
  | .advance => ProtoOs.advance L m

def Thread.bss : Thread :=
  { ctx := { sp := 0, lr := .null }, state := .runnable, kind := .idle, quantumLeft := 0, slot := 0
    user := { ctx := { x := fun _ => 0, spEl0 := 0, elr := 0, spsr := 0 }, state := .runnable
              returnReason := .none, userEntry := 0, userSp := 0, name := none, started := false } }

def Kernel.bss (mem : Memory) : Kernel :=
  { threads := fun _ => Thread.bss, current := none, currentTask := none, schedTicks := 0
    reschedPending := false, timerTicks := 0, endpoints := fun _ => Endpoint.initial 0
    pendingDeathSlot := slotNone, blockedSupervisorSlot := slotNone
    mem := mem, uart := [], log := [], accesses := [] }

/-- `kernel_main` from `thread_system_init` to the call of `thread_switch_to` in `thread_start`,
where interrupts have just been enabled. -/
def boot (L : Layout) (cfg : Config) (mem : Memory) : Except Panic Machine :=
  match threadSystemInit L (Kernel.bss mem) with
  | .error p => .error p
  | .ok k => .ok ⟨supervisorInit (ipcInit cfg k), .switch slotTaskA .boot⟩

def kernelSystem (L : Layout) (cfg : Config) : Transition.System Machine Action where
  init m := ∃ mem, boot L cfg mem = .ok m
  step m a m' := m.step L cfg a = some m'

/-! ## Concrete runs -/

def Layout.sample : Layout where
  entry s := el0SandboxBase + 0x1000 * s.u32.toUInt64
  stackBottom
    | 0 => el0TaskAStackBottom
    | 1 => el0TaskBStackBottom
    | _ => el0TaskCStackBottom
  stackTop
    | 0 => el0TaskAStackTop
    | 1 => el0TaskBStackTop
    | _ => el0TaskCStackTop
  sandboxEnd := el0SandboxBase + 0x8000
  kernelStack s := kernelLoadAddr + 0x100000 + threadStackSize * s.u32.toUInt64
  switchSp s := kernelLoadAddr + 0x100F00 + threadStackSize * s.u32.toUInt64
  userCtx s := kernelLoadAddr + 0x110000 + 0x200 * s.u32.toUInt64
  userTaskReturnToKernel := kernelLoadAddr + 0x1000
  kernelStack_ne := by decide
  switchSp_ne := by decide
  userCtx_mapped := by decide

/-- The trap frame of `svc` with x8 and the first argument registers given. -/
def TrapFrame.svc (nr : UInt64) (args : List UInt64) : TrapFrame :=
  { x := fun i => if i = 8 then nr else args.getD i.val 0, sp := el0TaskAStackTop
    elr := el0SandboxBase, spsr := spsrEl0tMasked, esr := 0x54000000, far := 0 }

def TrapFrame.fault (esr elr : UInt64) : TrapFrame :=
  { x := fun _ => 0, sp := el0TaskAStackTop, elr := elr, spsr := spsrEl0tMasked, esr := esr, far := elr }

def Config.sample : Config := { flavor := .micro, mode := .off, debugTick := false }

def runFromBoot (L : Layout) (cfg : Config) (actions : List Action) : Option Machine :=
  (boot L cfg fun _ => 0).toOption.bind fun m =>
    Transition.System.replay (Machine.step L cfg) m actions

theorem boot_of_toOption {L : Layout} {cfg : Config} {mem : Memory} {m : Machine}
    (booted : (boot L cfg mem).toOption = some m) : boot L cfg mem = .ok m := by
  cases result : boot L cfg mem with
  | error p =>
      rw [result] at booted
      cases booted
  | ok m =>
      rw [result] at booted
      cases booted
      rfl

theorem runFromBoot_run {L : Layout} {cfg : Config} {actions : List Action} {m : Machine}
    (ran : runFromBoot L cfg actions = some m) :
    ∃ h, (kernelSystem L cfg).Run h m ∧ ∀ p ∈ h, p.2 ∈ actions := by
  obtain ⟨first, booted, replayed⟩ := Option.bind_eq_some_iff.mp ran
  have start : (kernelSystem L cfg).Run [] first := .start ⟨_, boot_of_toOption booted⟩
  obtain ⟨h, run, members⟩ := start.replay (fun _ _ _ step => step) replayed
  exact ⟨h, run, fun p member => (members p member).resolve_left (by simp)⟩

def runUnder {σ : Type} (L : Layout) (cfg : Config) (policy : Transition.Policy σ Machine Action)
    (actions : List Action) : Option (Machine × σ) :=
  (boot L cfg fun _ => 0).toOption.bind fun m =>
    Transition.System.replay (policy.step (Machine.step L cfg)) (m, policy.init) actions

theorem runUnder_run {σ : Type} {L : Layout} {cfg : Config}
    {policy : Transition.Policy σ Machine Action} {actions : List Action} {p : Machine × σ}
    (ran : runUnder L cfg policy actions = some p) :
    ∃ h, ((kernelSystem L cfg).under policy).Run h p := by
  obtain ⟨first, booted, replayed⟩ := Option.bind_eq_some_iff.mp ran
  have start : ((kernelSystem L cfg).under policy).Run [] (first, policy.init) :=
    .start ⟨⟨_, boot_of_toOption booted⟩, rfl⟩
  obtain ⟨h, run, _⟩ := start.replay (fun _ _ _ taken => Transition.Policy.step_sound taken) replayed
  exact ⟨h, run⟩

end ProtoOs
