import ProtoOs.Kernel.State

/-!
# Threads and scheduler: `thread.c`

The functions that do not call into IPC or the supervisor. A pointer to a thread is `Option Slot`,
null being `none`.
-/

namespace ProtoOs

def threadIsSelectable (k : Kernel) : Option Slot → Bool
  | none => false
  | some s =>
      let t := k.threads s
      if t.state ≠ .runnable ∧ t.state ≠ .running then false
      else if t.kind = .userTask ∧ (t.user.state = .dead ∨ t.user.state = .blocked) then false
      else true

/-! ## Initialisation -/

def validateEl0Layout (L : Layout) : Except Panic Unit :=
  if L.sandboxEnd > el0CodeEnd then .error .el0CodeExceedsRegion
  else if L.entry slotTaskA < el0SandboxBase ∨ L.entry slotTaskA ≥ el0CodeEnd then
    .error .taskAEntryOutside
  else if L.entry slotTaskB < el0SandboxBase ∨ L.entry slotTaskB ≥ el0CodeEnd then
    .error .taskBEntryOutside
  else if L.entry slotTaskC < el0SandboxBase ∨ L.entry slotTaskC ≥ el0CodeEnd then
    .error .taskCEntryOutside
  else if L.stackBottom slotTaskC ≠ el0TaskCStackBottom ∨ L.stackTop slotTaskC ≠ el0TaskCStackTop ∨
      L.stackBottom slotTaskA ≠ el0TaskAStackBottom ∨ L.stackTop slotTaskA ≠ el0TaskAStackTop ∨
      L.stackBottom slotTaskB ≠ el0TaskBStackBottom ∨ L.stackTop slotTaskB ≠ el0TaskBStackTop then
    .error .el0StackSymbolMismatch
  else .ok ()

def threadInitSlot (L : Layout) (s : Slot) (kind : ThreadKind) (entry : ThreadEntry)
    (arg : Option Slot) (t : Thread) : Thread :=
  { ctx := { sp := stackTop (L.kernelStack s) threadStackSize, lr := .bootstrap entry arg }
    state := .runnable
    kind := kind
    quantumLeft := threadQuantumTicks
    slot := s.u32
    user := { ctx := t.user.ctx, state := .dead, returnReason := .none, userEntry := 0, userSp := 0,
              name := none, started := false } }

def userTaskInit (taskName : Option String) (entry userSp : UInt64) (t : Thread) : Thread :=
  { t with
    user := { ctx := { x := fun _ => 0, spEl0 := userSp, elr := entry, spsr := spsrEl0tMasked }
              state := .runnable, returnReason := .none, userEntry := entry, userSp := userSp,
              name := taskName, started := false } }

def taskName : Slot → String
  | 0 => "task_a"
  | 1 => "task_b"
  | 2 => "task_c"
  | 3 => "idle"

/-- The two calls `thread_system_init` makes for each task. -/
def initUserSlot (L : Layout) (s : Slot) (t : Thread) : Thread :=
  userTaskInit (some (taskName s)) (L.entry s) (L.stackTop s)
    (threadInitSlot L s .userTask .userTask (some s) t)

def threadSystemInit (L : Layout) (k : Kernel) : Except Panic Kernel :=
  match validateEl0Layout L with
  | .error p => .error p
  | .ok () => .ok
      (((({ k with schedTicks := 0, reschedPending := false, current := none, currentTask := none }
        : Kernel).modifyThread slotTaskA (initUserSlot L slotTaskA)).modifyThread
          slotTaskB (initUserSlot L slotTaskB)).modifyThread
          slotTaskC (initUserSlot L slotTaskC) |>.modifyThread
          slotIdle (threadInitSlot L slotIdle .idle .idle none))

/-! ## Scheduling -/

/-- `(start_slot + i) % THREAD_COUNT`. -/
def scanSlot (startSlot : UInt32) (i : Nat) : Slot := Fin.ofNat threadCount (startSlot.toNat + i)

def pickNextThread (k : Kernel) : Except Panic Slot :=
  let startSlot := match k.current with
    | some c => (k.threads c).slot
    | none => slotIdle.u32
  let scan := (List.range threadCount).findSome? fun i =>
    let idx := scanSlot startSlot (i + 1)
    if idx = slotIdle then none
    else if k.current ≠ some idx ∧ threadIsSelectable k (some idx) then some idx
    else none
  match scan, k.current with
  | some s, _ => .ok s
  | none, some c =>
      if threadIsSelectable k (some c) ∧ (k.threads c).slot ≠ slotIdle.u32 then .ok c
      else if threadIsSelectable k (some slotIdle) then .ok slotIdle
      else .error .noSelectableThreads
  | none, none =>
      if threadIsSelectable k (some slotIdle) then .ok slotIdle else .error .noSelectableThreads

/-- `thread_switch_to` up to the assignment of `g_current`, for a `next` other than `prev`. -/
def threadSwitchToMark (k : Kernel) (next : Slot) : Kernel :=
  let k := match k.current with
    | some prev =>
        if (k.threads prev).state = ThreadState.running then
          k.modifyThread prev fun t => { t with state := .runnable }
        else k
    | none => k
  (k.modifyThread next fun t => { t with state := .running }).setCurrent (some next)

/-- `context_switch`: what it saves of the thread it leaves (`g_boot_ctx` is never resumed). -/
def contextSwitch (L : Layout) (k : Kernel) (prev : Option Slot) (at_ : Resume) : Kernel :=
  match prev with
  | some p => k.modifyThread p fun t => { t with ctx := { sp := L.switchSp p, lr := at_ } }
  | none => k

/-- The rest of `thread_switch_to`, to the point where `next` is resumed. -/
def threadSwitchToEnter (L : Layout) (k : Kernel) (prev : Option Slot) (next : Slot) (at_ : Resume) :
    Except Panic (Kernel × Resume) :=
  let k := if (k.threads next).quantumLeft = 0 then
      k.modifyThread next fun t => { t with quantumLeft := threadQuantumTicks }
    else k
  let ctx := (k.threads next).ctx
  if ctx.lr = .null ∨ ctx.sp = 0 then .error .invalidNextThreadContext
  else .ok (contextSwitch L k prev at_, ctx.lr)

def threadTickIrq (k : Kernel) : Kernel :=
  let k := { k with schedTicks := k.schedTicks + 1 }
  match k.current with
  | none => k
  | some c =>
      let k := if (k.threads c).quantumLeft > 0 then
          k.modifyThread c fun t => { t with quantumLeft := t.quantumLeft - 1 }
        else k
      if (k.threads c).quantumLeft = 0 then
        (k.modifyThread c fun t => { t with quantumLeft := threadQuantumTicks }).setResched true
      else k

def timerHandleIrq (cfg : Config) (k : Kernel) : Kernel :=
  let k := threadTickIrq { k with timerTicks := k.timerTicks + 1 }
  if cfg.debugTick ∧ cfg.mode = .off ∧ k.timerTicks % 1000 = 0 then
    k.emit [.puts "[tick] ", .dec k.timerTicks, .puts "\n"]
  else k

def threadTicksNow (k : Kernel) : UInt64 := k.schedTicks

def threadRequestResched (k : Kernel) : Kernel := k.setResched true

/-! ## The current task -/

/-- `g_current_task`, checked to be the current thread and a user task. -/
def currentUserTask (k : Kernel) (p : Panic) : Except Panic Slot :=
  match k.currentTask with
  | none => .error p
  | some t =>
      if k.current ≠ some t ∨ (k.threads t).kind ≠ .userTask then .error p else .ok t

def threadCurrentUserSlot (k : Kernel) : Except Panic UInt32 :=
  match currentUserTask k .invalidCurrentUserTask with
  | .error p => .error p
  | .ok t => .ok (k.threads t).slot

def threadCurrentUserCtx (L : Layout) (k : Kernel) : Except Panic Slot :=
  match currentUserTask k .invalidCurrentUserTask with
  | .error p => .error p
  | .ok t =>
      if L.userCtx t < kernelLoadAddr ∨ L.userCtx t + 272 > kernelLoadAddr + kernelIdmapSize then
        .error .userContextOutsideKernelMap
      else if (k.threads t).user.ctx.elr < el0SandboxBase ∨
          (k.threads t).user.ctx.elr ≥ el0SandboxEnd then
        .error .userResumeElrOutsideSandbox
      else .ok t

/-- `thread_enter_el0`, up to `el0_resume`. -/
def threadEnterEl0 (k : Kernel) (t : Slot) : Kernel :=
  (k.setCurrentTask (some t)).modifyThread t fun th =>
    { th with state := .running, user := { th.user with state := .running } }

def threadEntryUserTask (k : Kernel) (arg : Option Slot) : Except Panic (Kernel × Slot) :=
  match arg with
  | none => .error .invalidUserTaskThread
  | some t =>
      if (k.threads t).kind ≠ .userTask then .error .invalidUserTaskThread
      else .ok (threadEnterEl0 (k.modifyThread t fun th =>
        { th with user := { th.user with started := true } }) t, t)

/-! ## Restart, wake and redirect -/

def threadUserRestart (k : Kernel) (slot : UInt32) : Kernel × Int :=
  match slotOf? slot with
  | none => (k, -1)
  | some s =>
      let t := k.threads s
      if t.kind ≠ .userTask then (k, -1)
      else if t.user.state ≠ .dead ∨ t.state ≠ .stopped then (k, -1)
      else if t.user.userEntry = 0 ∨ t.user.userSp = 0 ∨ t.user.name = none then (k, -1)
      else
        let k := k.modifyThread s fun t =>
          { userTaskInit t.user.name t.user.userEntry t.user.userSp t with state := .runnable }
        ((threadRequestResched k).record [.restarted slot], 0)

def Thread.wake (retval : UInt64) (t : Thread) : Thread :=
  { t with
    state := .runnable
    user := { t.user with
      ctx := { t.user.ctx with x := Function.update t.user.ctx.x 0 retval }
      state := .runnable } }

@[simps -fullyApplied] def Kernel.wake (k : Kernel) (s : Slot) (retval : UInt64) : Kernel :=
  { k with
    threads := Function.update k.threads s ((k.threads s).wake retval)
    log := k.log ++ [.woke s retval (k.threads s).user.state] }

def threadUserWakeWithX0 (k : Kernel) (slot : UInt32) (retval : UInt64) : Except Panic Kernel :=
  match slotOf? slot with
  | none => .error .wakeSlotOutOfRange
  | some s =>
      let t := k.threads s
      if t.kind ≠ .userTask then .error .wakeTargetNotUserTask
      else if t.state = .stopped ∨ t.user.state = .dead then .error .wakeTargetDead
      else .ok (k.wake s retval)

def Thread.saveFrame (tf : TrapFrame) (reason : TaskReturnReason) (t : Thread) : Thread :=
  { t with user := { t.user with
      ctx := { x := tf.x, spEl0 := tf.sp, elr := tf.elr, spsr := tf.spsr }
      returnReason := reason } }

@[simps! -fullyApplied] def Kernel.saveFrame (k : Kernel) (t : Slot) (tf : TrapFrame)
    (reason : TaskReturnReason) : Kernel :=
  k.modifyThread t (Thread.saveFrame tf reason)

def TrapFrame.redirect (tf : TrapFrame) (L : Layout) : TrapFrame :=
  { tf with elr := L.userTaskReturnToKernel, spsr := spsrEl1hMasked }

def threadUserTrapRedirect (L : Layout) (k : Kernel) (tf : TrapFrame) (reason : TaskReturnReason) :
    Except Panic (Kernel × TrapFrame) :=
  match currentUserTask k .trapRedirectWithoutUserTask with
  | .error p => .error p
  | .ok t =>
      if (k.threads t).ctx.lr = .null ∨ (k.threads t).ctx.sp = 0 then
        .error .currentUserThreadContextInvalid
      else if tf.elr < el0SandboxBase ∨ tf.elr ≥ el0SandboxEnd then .error .trapElrOutsideSandbox
      else .ok (k.saveFrame t tf reason, tf.redirect L)

/-- The lines `thread_user_fault` prints. -/
def faultReport (cfg : Config) (name : Option String) (tf : TrapFrame) : List UartCall :=
  let name := name.getD "unknown"
  match cfg.mode with
  | .recovery =>
      [.puts ("BENCH_META schema=1 phase=fault_injected flavor=" ++ cfg.flavor.str ++ " mode=" ++
        cfg.mode.str ++ " task="), .puts name, .puts " esr=0x", .hex tf.esr, .puts " elr=0x",
        .hex tf.elr, .puts " far=0x", .hex tf.far, .puts "\n"]
  | _ =>
      [.puts "[fault] ", .puts name, .puts " dead esr=0x", .hex tf.esr, .puts " elr=0x",
        .hex tf.elr, .puts " far=0x", .hex tf.far, .puts "\n"]

def threadUserFault (L : Layout) (cfg : Config) (k : Kernel) (tf : TrapFrame) :
    Except (Panic × Kernel) (Kernel × TrapFrame) :=
  match currentUserTask k .faultWithoutUserTask with
  | .error p => .error (p, k)
  | .ok t =>
      let k := k.emit (faultReport cfg (k.threads t).user.name tf)
      match threadUserTrapRedirect L k tf .fault with
      | .error p => .error (p, k)
      | .ok result => .ok result

/-- `thread_resched_point` up to the point where interrupts are enabled again: whether a
reschedule was pending, which is now consumed. -/
def threadReschedTake (k : Kernel) : Bool × Kernel := (k.reschedPending, k.setResched false)

end ProtoOs
