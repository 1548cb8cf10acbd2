import ProtoOs.Proof.AlikeTraps
import ProtoOs.Proof.Resumption
import ProtoOs.Lib.Lockstep

/-!
# The routed write is a call

`ipc_route_uart_write` and `ipc_syscall_call` with no room for a reply accept the same messages, and
no task but the caller can tell from then on which of the two was made.
-/

namespace ProtoOs

open Transition.System

variable {L : Layout} {cfg : Config} {k k' k₁ : Kernel} {m m' m₁ m₁' : Machine} {c : Slot}
  {hidden : Option Slot} {e : EpId}
  {a : Action} {tf call : TrapFrame} {d d' : Send} {v v' buf len replyPtr : UInt64} {shows : Prop}
  {out out' : List UartCall} {stores : List (SandboxAddress × UInt8)} {regs : UserTaskCtx}
  {x : UInt64 × UInt64 × UInt64} {h : List (Machine × Action)}
  {both : List ((Machine × Machine) × Action)}

/-! ## Alike machines in lockstep -/

theorem Alike.of_eq : Alike hidden shows [] [] k k :=
  ⟨fun _ => .refl, fun _ => .refl, rfl, rfl, rfl, rfl, rfl, ⟨k.uart, rfl, rfl⟩,
    fun _ => ⟨rfl, rfl, rfl⟩⟩

theorem ThreadAlike.setQuantum {s : Slot} {t t' : Thread} (alike : ThreadAlike hidden shows s t t')
    (quantum : UInt32) : ThreadAlike hidden shows s { t with quantumLeft := quantum }
      { t' with quantumLeft := quantum } := by
  cases alike with
  | mk _ ctx _ elr seen => exact ⟨quantum, ctx, fun _ => rfl, elr, seen⟩

def Kernel.charge (k : Kernel) (t : Slot) : Kernel :=
  let k := if (k.threads t).quantumLeft > 0 then
      k.modifyThread t fun th => { th with quantumLeft := th.quantumLeft - 1 }
    else k
  if (k.threads t).quantumLeft = 0 then
    (k.modifyThread t fun th => { th with quantumLeft := threadQuantumTicks }).setResched true
  else k

theorem charge_alike (alike : Alike hidden True out out' k k') (t : Slot) :
    Alike hidden True out out' (k.charge t) (k'.charge t) := by
  have sets {k k' : Kernel} (alike : Alike hidden True out out' k k') (f : UInt32 → UInt32) :
      Alike hidden True out out'
        (k.modifyThread t fun th => { th with quantumLeft := f th.quantumLeft })
        (k'.modifyThread t fun th => { th with quantumLeft := f th.quantumLeft }) := by
    apply alike.modifyThread
    rw [(alike.threads t).quantum trivial]
    exact (alike.threads t).setQuantum _
  have refills {k k' : Kernel} (alike : Alike hidden True out out' k k') : Alike hidden True out out'
      (if (k.threads t).quantumLeft = 0 then
        (k.modifyThread t fun th => { th with quantumLeft := threadQuantumTicks }).setResched true
      else k)
      (if (k'.threads t).quantumLeft = 0 then
        (k'.modifyThread t fun th => { th with quantumLeft := threadQuantumTicks }).setResched true
      else k') := by
    rw [(alike.threads t).quantum trivial]
    split_ifs
    · exact (sets alike fun _ => threadQuantumTicks).setResched true
    · exact alike
  apply refills
  rw [(alike.threads t).quantum trivial]
  split_ifs
  · exact sets alike fun n => n - 1
  · exact alike

def Kernel.countTick (k : Kernel) : Kernel := { k with schedTicks := k.schedTicks + 1 }

theorem threadTickIrq_eq (k : Kernel) : threadTickIrq k =
    match k.current with
    | none => k.countTick
    | some t => k.countTick.charge t := rfl

theorem threadTickIrq_charge (k : Kernel) :
    threadTickIrq k = k.current.elim k.countTick k.countTick.charge := by
  rw [threadTickIrq_eq]
  cases k.current with
  | none => rfl
  | some t => rfl

theorem threadTickIrq_alike (alike : Alike hidden True out out' k k') :
    Alike hidden True out out' (threadTickIrq k) (threadTickIrq k') := by
  obtain ⟨ticks, timer, pending⟩ := alike.time trivial
  have counted : Alike hidden True out out' k.countTick k'.countTick :=
    ⟨alike.threads, alike.endpoints, alike.current, alike.task, alike.pendingDeath,
      alike.supervisor, alike.mem, alike.printed,
      fun _ => ⟨by simp only [Kernel.countTick, ticks], timer, pending⟩⟩
  rw [threadTickIrq_charge, threadTickIrq_charge, alike.current]
  cases k.current with
  | none => exact counted
  | some t => exact charge_alike counted t

theorem timerHandleIrq_alike (alike : Alike hidden True out out' k k') :
    Alike hidden True out out' (timerHandleIrq cfg k) (timerHandleIrq cfg k') := by
  obtain ⟨ticks, timer, pending⟩ := alike.time trivial
  have counted : Alike hidden True out out' { k with timerTicks := k.timerTicks + 1 }
      { k' with timerTicks := k'.timerTicks + 1 } :=
    ⟨alike.threads, alike.endpoints, alike.current, alike.task, alike.pendingDeath,
      alike.supervisor, alike.mem, alike.printed, fun _ => ⟨ticks, by simp only [timer], pending⟩⟩
  have ticked := threadTickIrq_alike counted
  simp only [timerHandleIrq, (ticked.time trivial).2.1]
  split_ifs
  · exact ticked.emit _
  · exact ticked

theorem MachineAlike.el0 (alike : MachineAlike hidden shows out out' m m') :
    (∃ regs, m'.phase = .el0 regs) ↔ ∃ regs, m.phase = .el0 regs := by
  rcases alike.phase with same | ⟨_, regs, regs', phase, phase'⟩
  · rw [same]
  · exact ⟨fun _ => ⟨regs, phase⟩, fun _ => ⟨regs', phase'⟩⟩

theorem MachineAlike.irqEnabled (alike : MachineAlike hidden shows out out' m m') :
    m'.phase.irqEnabled = m.phase.irqEnabled := by
  rcases alike.phase with same | ⟨_, regs, regs', phase, phase'⟩
  · rw [same]
  · rw [phase, phase']
    rfl

theorem step_alike (inv : Inv L cfg m) (alike : MachineAlike hidden True out out' m m') (a : Action) :
    m.step L cfg a = none ∧ m'.step L cfg a = none ∨ ∃ m₁ m₁', m.step L cfg a = some m₁ ∧
      m'.step L cfg a = some m₁' ∧ MachineAlike hidden True out out' m₁ m₁' := by
  cases a with
  | advance => exact advance_alike inv alike (.inl trivial)
  | tick =>
      simp only [Machine.step, alike.irqEnabled]
      split_ifs with enabled
      · refine .inr ⟨_, _, rfl, rfl, timerHandleIrq_alike alike.kernel, ?_⟩
        rcases alike.phase with same | ⟨_, regs, _, phase, _⟩
        · exact .inl same
        · rw [phase] at enabled
          cases enabled
      · exact .inl ⟨rfl, rfl⟩
  | trap stores tf =>
      have steps {m : Machine} {regs : UserTaskCtx} (phase : m.phase = .el0 regs) :
          m.step L cfg (.trap stores tf) = if tf.fromEl0 then
            some (takeTrap L cfg (m.kernel.setMem (userStores stores m.kernel.mem)) tf) else none := by
        simp only [Machine.step, phase]
      have stays {m : Machine} (away : ¬ ∃ regs, m.phase = .el0 regs) :
          m.step L cfg (.trap stores tf) = none := by
        cases result : m.step L cfg (.trap stores tf) with
        | none => rfl
        | some m₁ =>
            obtain ⟨regs, phase, _⟩ := Machine.step_trap result
            exact absurd ⟨regs, phase⟩ away
      by_cases here : ∃ regs, m.phase = .el0 regs
      · obtain ⟨_, phase'⟩ := alike.el0.mpr here
        obtain ⟨_, phase⟩ := here
        rw [steps phase, steps phase', alike.kernel.mem]
        split_ifs
        · exact .inr ⟨_, _, rfl, rfl, takeTrap_alike (alike.kernel.setMem _) (.inl trivial)⟩
        · exact .inl ⟨rfl, rfl⟩
      · exact .inl ⟨stays here, stays fun there => here (alike.el0.mp there)⟩

/-- Two machines of the invariant that differ in what is hidden with the task `c` only. -/
structure Twins (L : Layout) (cfg : Config) (c : Slot) (m m' : Machine) : Prop where
  inv : Inv L cfg m
  inv' : Inv L cfg m'
  alike : MachineAlike (some c) True [] [] m m'

theorem twins_lockstep : Lockstep (kernelSystem L cfg) (Twins L cfg c) where
  answer m m' a m₁ twins step := by
    rcases step_alike twins.inv twins.alike a with ⟨stuck, _⟩ | ⟨_, m₁', _, step', _⟩
    · cases stuck.symm.trans step
    · exact ⟨m₁', step'⟩
  answered m m' a m₁' twins step' := by
    rcases step_alike twins.inv twins.alike a with ⟨_, stuck⟩ | ⟨m₁, _, step, _⟩
    · cases stuck.symm.trans step'
    · exact ⟨m₁, step⟩
  keep m m' a m₁ m₁' twins step step' := by
    refine ⟨(step_cases twins.inv step).2, (step_cases twins.inv' step').2, ?_⟩
    rcases step_alike twins.inv twins.alike a with ⟨stuck, _⟩ | ⟨_, _, here, here', alike⟩
    · cases stuck.symm.trans step
    · cases here.symm.trans step
      cases here'.symm.trans step'
      exact alike

/-! ## Invariants of alike machines -/

theorem ThreadOk.alike {s : Slot} {t t' : Thread} (ok : ThreadOk L s t)
    (alike : ThreadAlike hidden shows s t t') : ThreadOk L s t' where
  slot := alike.slot.trans ok.slot
  kind := alike.kind.trans ok.kind
  sp := by
    rw [alike.ctx]
    exact ok.sp
  lr := by
    rw [alike.ctx]
    exact ok.lr
  elr user := by
    rw [alike.elr]
    exact ok.elr user
  template user :=
    ⟨alike.entry.trans (ok.template user).entry, alike.stack.trans (ok.template user).stack,
      alike.name.trans (ok.template user).name⟩

theorem Alike.waiter (alike : Alike hidden shows out out' k k') (w : WaitPlace) :
    k'.waiter w = k.waiter w := by
  cases w with
  | caller e => exact (alike.endpoints e).caller
  | receiver e => exact (alike.endpoints e).receiver
  | supervisor => exact alike.supervisor

theorem KernelOk.alike {entering : Option Slot} (ok : KernelOk L cfg k entering)
    (alike : Alike hidden shows out out' k k')
    (woke : ∀ s x0 prior, .woke s x0 prior ∈ k'.log → .woke s x0 prior ∈ k.log) :
    KernelOk L cfg k' entering where
  valid := ok.valid
  threads s := (ok.threads s).alike (alike.threads s)
  waits := ok.waits.congr alike.waiter (fun s _ => by rw [(alike.threads s).task])
    fun e => (alike.endpoints e).owner
  owners e := (alike.endpoints e).owner.trans (ok.owners e)
  supervisor s := by
    rw [alike.waiter]
    exact ok.supervisor s
  woke s x0 prior member := ok.woke s x0 prior (woke s x0 prior member)

theorem OffCpu.alike {s : Slot} {t t' : Thread} (alike : ThreadAlike hidden shows s t t') :
    OffCpu s t' ↔ OffCpu s t := by
  simp only [OffCpu, alike.state, alike.task]

theorem Leaving.alike {t : Slot} (leaving : Leaving k t) (alike : Alike hidden shows out out' k k') :
    Leaving k' t where
  current := alike.current.trans leaving.current
  self := by
    have self := leaving.self
    simp only [Paused, OffCpu.alike (alike.threads t), (alike.threads t).state] at self ⊢
    exact self
  others u other := (OffCpu.alike (alike.threads u)).mpr (leaving.others u other)

theorem Inv.alike_pick {r : Resume} (inv : Inv L cfg ⟨k, .pick r⟩)
    (alike : Alike hidden shows out out' k k')
    (woke : ∀ s x0 prior, .woke s x0 prior ∈ k'.log → .woke s x0 prior ∈ k.log) :
    Inv L cfg ⟨k', .pick r⟩ := by
  cases inv with
  | running ok phaseOk =>
      cases phaseOk with
      | pick leaving => exact .running (ok.alike alike woke) (.pick (leaving.alike alike))

theorem Inv.alike_panic {p : Panic} (inv : Inv L cfg ⟨k, .panic p⟩)
    (alike : Alike hidden shows out out' k k')
    (woke : ∀ s x0 prior, .woke s x0 prior ∈ k'.log → .woke s x0 prior ∈ k.log) :
    Inv L cfg ⟨k', .panic p⟩ := by
  cases inv with
  | running _ phaseOk => cases phaseOk
  | halted ok => exact .halted (ok.alike alike woke)

/-! ## The two handlers -/

/-- The trap frame of the call of `EP_UART` with the same message and no room for a reply. -/
def TrapFrame.plainCall (tf : TrapFrame) (buf len replyPtr : UInt64) : TrapFrame :=
  { tf with x := fun i =>
      if i = 0 then 1 else if i = 1 then buf else if i = 2 then len else if i = 3 then replyPtr
      else if i = 4 then 0 else if i = 8 then sysIpcCall else tf.x i }

def trapResult (result : SysResult) : Machine :=
  match result with
  | .error (p, k) => ⟨k, .panic p⟩
  | .ok (k, tf, x0) => eret k (tf.setX0 x0)

theorem takeTrap_svc (svc : tf.exceptionClass = 0x15) :
    takeTrap L cfg k tf = trapResult (syscallDispatch L cfg k tf .el0) := by
  simp only [takeTrap, exceptionSyncEl0, svc, if_true, trapResult]
  cases syscallDispatch L cfg k tf .el0 with
  | error stop => rfl
  | ok result => rfl

theorem takeTrap_plainCall (svc : tf.exceptionClass = 0x15) :
    takeTrap L cfg k (tf.plainCall buf len replyPtr) =
      trapResult (ipcSyscallCall L k (tf.plainCall buf len replyPtr)) := by
  have same : (tf.plainCall buf len replyPtr).exceptionClass = 0x15 := svc
  rw [takeTrap_svc same]
  rfl

def checked (k : Kernel) (tf : TrapFrame) (d : Send) (accepted : SysResult) : SysResult :=
  if d.len > ipcMsgSize then .ok (k, tf, minusOne)
  else if (k.endpoints epUart).ownerSlot = ipcOwnerNone then .ok (k, tf, minusOne)
  else if ¬ el0BufRangeOk d.ptr d.len then .ok (k, tf, minusOne)
  else if (k.endpoints epUart).hasPending ∨ (k.endpoints epUart).blockedCallerSlot ≠ slotNone then
    .ok (k, tf, minusOne)
  else accepted

theorem checked_accepts (accepts : Accepts k epUart d) (accepted : SysResult) :
    checked k tf d accepted = accepted := by
  have short : ¬ ipcMsgSize < d.len := UInt64.not_lt.mpr accepts.length
  simp [checked, short, accepts.owned, accepts.range, accepts.quiet, accepts.free]

theorem checked_refuses (refuses : ¬ Accepts k epUart d) (accepted : SysResult) :
    checked k tf d accepted = .ok (k, tf, minusOne) := by
  simp only [checked]
  split_ifs with long unowned range busy
  · rfl
  · rfl
  · rfl
  · obtain ⟨quiet, free⟩ := not_or.mp busy
    exact absurd ⟨UInt64.not_lt.mp long, unowned, range, by simpa using quiet, not_not.mp free⟩ refuses
  · rfl

theorem ipcRouteUartWrite_checked : ipcRouteUartWrite L k tf buf len =
    checked k tf ⟨buf, len, 0, 0, len, true⟩ (ipcAccept L k tf epUart buf len 0 0 len true) := rfl

theorem ipcSyscallCall_checked (reply : el0BufRangeOk replyPtr 0) :
    ipcSyscallCall L k (tf.plainCall buf len replyPtr) =
      checked k (tf.plainCall buf len replyPtr) ⟨buf, len, replyPtr, 0, 0, false⟩
        (ipcAccept L k (tf.plainCall buf len replyPtr) epUart buf len replyPtr 0 0 false) := by
  have found : getEndpoint ((tf.plainCall buf len replyPtr).x 0) = some epUart := rfl
  have args : (tf.plainCall buf len replyPtr).x 1 = buf ∧ (tf.plainCall buf len replyPtr).x 2 = len ∧
      (tf.plainCall buf len replyPtr).x 3 = replyPtr ∧ (tf.plainCall buf len replyPtr).x 4 = 0 :=
    ⟨rfl, rfl, rfl, rfl⟩
  simp only [ipcSyscallCall, found, args, reply, not_true_eq_false, or_false]
  rfl

/-! ## The accepted call -/

theorem Accepts.congr (accepts : Accepts k e d) (ptr : d'.ptr = d.ptr) (len : d'.len = d.len) :
    Accepts k e d' :=
  ⟨len ▸ accepts.length, accepts.owned, by rw [ptr, len]; exact accepts.range, accepts.quiet,
    accepts.free⟩

structure SameMessage (d d' : Send) : Prop where
  ptr : d'.ptr = d.ptr
  len : d'.len = d.len
  cap : d.replyCap = 0
  cap' : d'.replyCap = 0

structure Registered (k : Kernel) (c : Slot) (e : EpId) (d : Send) : Prop where
  ready : Ready k c
  place : k.waiter (.caller e) = c.i32
  stored : k.descriptor (.caller e) = (d.replyPtr, d.replyCap, d.override)

theorem registerCaller_alike (same : SameMessage d d') :
    Alike (some c) True [] [] (k.registerCaller c e d) (k.registerCaller c e d') := by
  have unchanged : Alike (some c) True [] [] k k := .of_eq
  have recorded := unchanged.record [.accepted (k.newRequest c e d)] [.accepted (k.newRequest c e d')]
  apply recorded.modifyEndpoint
  rw [same.cap, same.cap']
  exact (recorded.endpoints e).register _ _ (.inl ⟨⟨c, rfl, rfl⟩, rfl⟩)

theorem parkRequest_alike (same : SameMessage d d') :
    Alike (some c) True [] [] (k.parkRequest c e d) (k.parkRequest c e d') := by
  have registered : Alike (some c) True [] [] (k.registerCaller c e d) (k.registerCaller c e d') :=
    registerCaller_alike same
  have copied := registered.copyIn (e := e) d.ptr d.len
  simp only [Kernel.parkRequest, same.ptr, same.len]
  exact copied.modifyEndpoint ((copied.endpoints e).park _ _ _)

theorem handOver_alike (same : SameMessage d d') (s : Slot) :
    Alike (some c) True [] [] (k.handOver c e d s) (k.handOver c e d' s) := by
  have registered : Alike (some c) True [] [] (k.registerCaller c e d) (k.registerCaller c e d') :=
    registerCaller_alike same
  let n := minU64 d.len (k.endpoints e).receiverBufCap
  let buf := (k.endpoints e).receiverBufPtr
  have copied : Alike (some c) True [] [] ((k.registerCaller c e d).copyUser buf d.ptr n)
      ((k.registerCaller c e d').copyUser buf d.ptr n) := registered.copyUser (.inr rfl)
  have woken : Alike (some c) True [] [] (((k.registerCaller c e d).copyUser buf d.ptr n).wake s n)
      (((k.registerCaller c e d').copyUser buf d.ptr n).wake s n) := copied.wake (.inr rfl)
  simp only [Kernel.handOver, same.ptr, same.len]
  apply Alike.setResched
  apply (woken.record _ _).modifyEndpoint
  exact (woken.endpoints e).clearReceiver

theorem ipcAccept_twins (ready : Ready k c) (awake : WaitersAwake k) (same : SameMessage d d')
    (tf tf' : TrapFrame) : ∃ k₁ k₁',
      ipcAccept L k tf e d.ptr d.len d.replyPtr d.replyCap d.override d.routed =
        syscallRedirect L k₁ tf .ipcBlock ∧
      ipcAccept L k tf' e d'.ptr d'.len d'.replyPtr d'.replyCap d'.override d'.routed =
        syscallRedirect L k₁' tf' .ipcBlock ∧
      Registered k₁ c e d ∧ Registered k₁' c e d' ∧ Alike (some c) True [] [] k₁ k₁' ∧
      ∀ s x0 prior, .woke s x0 prior ∈ k₁'.log → .woke s x0 prior ∈ k₁.log := by
  by_cases absent : (k.endpoints e).blockedReceiverSlot = slotNone
  · have parks (d : Send) : Registered (k.parkRequest c e d) c e d := by
      refine ⟨ready.congr rfl rfl rfl rfl rfl, ?_, ?_⟩
      · simp [waiter_parkRequest]
      · simp [Kernel.descriptor, Kernel.parkRequest, Kernel.registerCaller]
    refine ⟨_, _, ipcAccept_park ready absent d, ipcAccept_park ready absent d', parks d, parks d',
      parkRequest_alike same, fun s x0 prior member => ?_⟩
    simpa [Kernel.parkRequest, Kernel.registerCaller] using member
  · obtain ⟨s, waiting, target⟩ := awake.get (.receiver e) absent
    have hands (d : Send) : Registered (k.handOver c e d s) c e d := by
      refine ⟨?_, ?_, ?_⟩
      · have woken : Ready (k.wake s (minU64 d.len (k.endpoints e).receiverBufCap)) c :=
          ready_wake ready s _
        exact woken.congr rfl rfl rfl rfl rfl
      · simp [waiter_handOver, waiter_registerCaller]
      · simp [Kernel.descriptor, Kernel.handOver, Kernel.registerCaller]
    refine ⟨_, _, ipcAccept_handOver ready target waiting d, ipcAccept_handOver ready target waiting d',
      hands d, hands d', handOver_alike same s, fun u x0 prior member => ?_⟩
    simpa [Kernel.handOver, Kernel.registerCaller, same.len] using member

/-! ## From the handler to the scheduler -/

theorem returnStep_block (ready : Ready k c) (reason : (k.threads c).user.returnReason = .ipcBlock) :
    returnStep k = ⟨(k.markTask c .runnable .blocked).setResched false, .pick (.returnStep c)⟩ := by
  simp [returnStep, userTaskReturnStep, currentUserTask_ready ready, reason, Kernel.setResched]

theorem trapResult_block (ready : Ready k c) : trapResult (syscallRedirect L k tf .ipcBlock) =
    if InSandbox tf.elr then ⟨k.leaveBlocked c tf, .pick (.returnStep c)⟩
    else ⟨k, .panic .trapElrOutsideSandbox⟩ := by
  by_cases inside : InSandbox tf.elr
  · have el1 : ((tf.redirect L).setX0 0).spsr &&& 0xF = 5 := by
      show spsrEl1hMasked &&& 0xF = 5
      decide
    have saved : Ready (k.saveFrame c tf .ipcBlock) c :=
      ready.congr rfl rfl (by simp [Thread.saveFrame]) (by simp [Thread.saveFrame])
        (by simp [Thread.saveFrame])
    have reason : ((k.saveFrame c tf .ipcBlock).threads c).user.returnReason = .ipcBlock := by
      simp [Thread.saveFrame]
    simp only [syscallRedirect, threadUserTrapRedirect_inside ready inside, trapResult, eret_el1 el1,
      if_pos inside]
    exact returnStep_block saved reason
  · simp only [syscallRedirect, threadUserTrapRedirect_outside ready inside, trapResult,
      if_neg inside]

/-- The call `tf` of `c` on `EP_UART` has blocked and is not answered. -/
structure AwaitsReply (k : Kernel) (c : Slot) (tf : TrapFrame) (x : UInt64 × UInt64 × UInt64) :
    Prop where
  place : k.waiter (.caller epUart) = c.i32
  stored : k.descriptor (.caller epUart) = x
  ctx : (k.threads c).user.ctx = tf.after (tf.x 0)

theorem Registered.awaits (registered : Registered k c epUart d) (tf : TrapFrame) :
    AwaitsReply (k.leaveBlocked c tf) c tf (d.replyPtr, d.replyCap, d.override) where
  place := registered.place
  stored := registered.stored
  ctx := by
    rw [tf.after_self]
    simp [Kernel.leaveBlocked, Thread.saveFrame]

theorem ThreadAlike.saveFrames {t t' : Thread} {tf' : TrapFrame}
    (alike : ThreadAlike (some c) shows c t t') (elr : tf'.elr = tf.elr) :
    ThreadAlike (some c) shows c (t.saveFrame tf .ipcBlock) (t'.saveFrame tf' .ipcBlock) := by
  cases alike with
  | mk quantum _ time _ _ => exact ⟨quantum, _, time, elr, fun other => absurd rfl other⟩

theorem Alike.leaveBlocked {tf' : TrapFrame} (alike : Alike (some c) shows out out' k k')
    (elr : tf'.elr = tf.elr) :
    Alike (some c) shows out out' (k.leaveBlocked c tf) (k'.leaveBlocked c tf') :=
  ((alike.modifyThread ((alike.threads c).saveFrames elr)).markTask .runnable .blocked).setResched
    false

theorem plainCall_step (executes : m.Executes c regs) (mode : tf.fromEl0)
    (svc : tf.exceptionClass = 0x15) :
    m.step L cfg (.trap stores (tf.plainCall buf len replyPtr)) =
      some (trapResult (ipcSyscallCall L (m.trapped stores) (tf.plainCall buf len replyPtr))) := by
  have same : (tf.plainCall buf len replyPtr).fromEl0 := mode
  have taken : takeTrap L cfg (m.trapped stores) (tf.plainCall buf len replyPtr) = _ :=
    takeTrap_plainCall svc
  simp only [Machine.step, executes.1, if_pos same]
  exact congrArg some taken

/-- Both handlers have refused, or both have registered the caller. -/
inductive SentAlike (L : Layout) (k : Kernel) (c : Slot) (tf call : TrapFrame) (d d' : Send) :
    SysResult → SysResult → Prop
  | refused : SentAlike L k c tf call d d' (.ok (k, call, minusOne)) (.ok (k, tf, minusOne))
  | accepted {k₁ k₁' : Kernel} (registered : Registered k₁ c epUart d)
      (registered' : Registered k₁' c epUart d') (alike : Alike (some c) True [] [] k₁ k₁')
      (woke : ∀ s x0 prior, .woke s x0 prior ∈ k₁'.log → .woke s x0 prior ∈ k₁.log) :
      SentAlike L k c tf call d d' (syscallRedirect L k₁ call .ipcBlock)
        (syscallRedirect L k₁' tf .ipcBlock)

theorem route_call_sent (ready : Ready k c) (awake : WaitersAwake k)
    (reply : el0BufRangeOk replyPtr 0) :
    SentAlike L k c tf (tf.plainCall buf len replyPtr) ⟨buf, len, replyPtr, 0, 0, false⟩
      ⟨buf, len, 0, 0, len, true⟩ (ipcSyscallCall L k (tf.plainCall buf len replyPtr))
      (ipcRouteUartWrite L k tf buf len) := by
  rw [ipcSyscallCall_checked reply, ipcRouteUartWrite_checked]
  by_cases accepts : Accepts k epUart ⟨buf, len, replyPtr, 0, 0, false⟩
  · have accepts' : Accepts k epUart ⟨buf, len, 0, 0, len, true⟩ := accepts.congr rfl rfl
    have same : SameMessage ⟨buf, len, replyPtr, 0, 0, false⟩ ⟨buf, len, 0, 0, len, true⟩ :=
      ⟨rfl, rfl, rfl, rfl⟩
    obtain ⟨k₁, k₁', call, route, registered, registered', alike, woke⟩ :=
      ipcAccept_twins (L := L) (e := epUart) ready awake same (tf.plainCall buf len replyPtr) tf
    rw [checked_accepts accepts, checked_accepts accepts', call, route]
    exact .accepted registered registered' alike woke
  · have refuses : ¬ Accepts k epUart ⟨buf, len, 0, 0, len, true⟩ :=
      fun accepts' => accepts (accepts'.congr rfl rfl)
    rw [checked_refuses accepts, checked_refuses refuses]
    exact .refused

theorem SentAlike.twins {call : TrapFrame} {plain route : SysResult}
    (sent : SentAlike L k c tf call d d' plain route) (ok : KernelOk L cfg k none)
    (active : Active k c) (inv : Inv L cfg (trapResult plain)) (mode : tf.fromEl0)
    (mode' : call.fromEl0) (elr : tf.elr = call.elr) :
    Twins L cfg c (trapResult plain) (trapResult route) := by
  cases sent with
  | refused =>
      have backs (tf : TrapFrame) (mode : tf.fromEl0) :
          trapResult (.ok (k, tf, minusOne)) = ⟨k, .el0 (tf.after minusOne)⟩ := eret_back mode minusOne
      rw [backs call mode', backs tf mode]
      exact ⟨.running ok (.el0 active), .running ok (.el0 active),
        .of_eq, .inr ⟨active.current, _, _, rfl, rfl⟩⟩
  | accepted registered registered' alike woke =>
      rw [trapResult_block registered.ready] at inv ⊢
      rw [trapResult_block registered'.ready, elr]
      by_cases inside : InSandbox call.elr
      · rw [if_pos inside] at inv ⊢
        rw [if_pos inside]
        have left := alike.leaveBlocked elr
        exact ⟨inv, inv.alike_pick left woke, left, .inl rfl⟩
      · rw [if_neg inside] at inv ⊢
        rw [if_neg inside]
        exact ⟨inv, inv.alike_panic alike woke, alike, .inl rfl⟩

/-! ## The answer -/

/-- A step of both machines ends the wait of `c` in each. -/
structure EndsWaits (L : Layout) (cfg : Config) (c : Slot) (p : Machine × Machine) (a : Action)
    (q : Machine × Machine) : Prop where
  plain : EndsWait L cfg c p.1 a q.1
  routed : EndsWait L cfg c p.2 a q.2

/-- The trap of `task_b` that ended the waits of `c`, and the results of the plain call and of the
routed write. -/
inductive Answered (L : Layout) (cfg : Config) (c : Slot) (len : UInt64)
    (h : List ((Machine × Machine) × Action)) : UInt64 → UInt64 → Prop
  | replied {p q : Machine × Machine} {stores : List (SandboxAddress × UInt8)} {tf : TrapFrame}
      (member : (p, .trap stores tf) ∈ h) (ends : EndsWaits L cfg c p (.trap stores tf) q)
      (owner : p.2.kernel.current = some slotTaskB)
      (replies : Replies p.2.kernel slotTaskB tf epUart)
      (unwritten : q.1.kernel.mem = userStores stores p.1.kernel.mem ∧
        q.2.kernel.mem = userStores stores p.2.kernel.mem) : Answered L cfg c len h 0 len
  | died {p q : Machine × Machine} {stores : List (SandboxAddress × UInt8)} {tf : TrapFrame}
      (member : (p, .trap stores tf) ∈ h) (ends : EndsWaits L cfg c p (.trap stores tf) q)
      (owner : p.2.kernel.current = some slotTaskB) (dies : tf.Dies) :
      Answered L cfg c len h minusOne minusOne

theorem Answered.append {h₂ : List ((Machine × Machine) × Action)}
    (answered : Answered L cfg c len both v v') : Answered L cfg c len (both ++ h₂) v v' := by
  cases answered with
  | replied member ends owner replies unwritten =>
      exact .replied (List.mem_append_left _ member) ends owner replies unwritten
  | died member ends owner dies => exact .died (List.mem_append_left _ member) ends owner dies

inductive ReplyStep (cfg : Config) (m : Machine) (a : Action) (k' : Kernel) (c : Slot)
    (tf : TrapFrame) (x : UInt64 × UInt64 × UInt64) : Prop
  | waits (awaits : AwaitsReply k' c tf x) (state : (k'.threads c).user.state = .blocked)
  | woken {stores : List (SandboxAddress × UInt8)} {tf' : TrapFrame} {u : Slot} {v : UInt64}
      (trap : a = .trap stores tf') (current : m.kernel.current = some u)
      (value : WakeValue cfg m.kernel u tf' (.caller epUart) v)
      (ctx : (k'.threads c).user.ctx = tf.after v) (state : (k'.threads c).user.state = .runnable)

theorem AwaitsReply.step (awaits : AwaitsReply m.kernel c tf x) (inv : Inv L cfg m)
    (away : ∀ regs, ¬ m.Executes c regs) (step : m.step L cfg a = some m₁) :
    ReplyStep cfg m a m₁.kernel c tf x := by
  have ok := inv.kernelOk (Machine.step_calm step)
  obtain ⟨user, blocked⟩ := ok.recorded awaits.place
  cases step_task inv step user fun regs phase current => away regs ⟨phase, current⟩ with
  | kept kept =>
      exact .waits ⟨(kept.waits _).mpr awaits.place, (kept.stored _ awaits.place).trans awaits.stored,
        kept.ctx.trans awaits.ctx⟩ (kept.blocked.mpr blocked)
  | restarted here _ _ call =>
      subst here
      exact absurd (call.restartable.dead.symm.trans blocked) (by decide)
  | @woken stores tf' u w v trap current value woken =>
      obtain rfl : w = .caller epUart := ok.only woken.place awaits.place
      refine .woken trap current value ?_ ?_
      · rw [woken.thread]
        simp [Thread.wake, awaits.ctx, TrapFrame.after]
      · rw [woken.thread]
        simp [Thread.wake]

theorem reply_unwritten {u : Slot} {tf' : TrapFrame} (inv : Inv L cfg m)
    (step : m.step L cfg (.trap stores tf') = some m₁) (replies : Replies m.kernel u tf' epUart)
    (cap : (m.kernel.endpoints epUart).callerReplyCap = 0) :
    m₁.kernel.mem = userStores stores m.kernel.mem := by
  have none_copied (n : UInt64) : minU64 n 0 = 0 := by
    unfold minU64
    split_ifs with below
    · exact absurd below (UInt64.not_lt.mpr UInt64.zero_le)
    · rfl
  cases (step_cases inv step).1 with
  | quiet untrapped => exact absurd rfl (untrapped stores tf')
  | away _ _ _ effect => cases effect.of_reply replies.asks
  | outside _ _ _ effect => cases effect.of_reply replies.asks
  | back _ _ _ effect =>
      cases effect.of_reply replies.asks with
      | refused => rfl
      | answer found' =>
          cases found'.symm.trans replies.found
          simp [Kernel.answer, cap, none_copied]

/-- Where the two calls of `c` stand. -/
inductive Fate (L : Layout) (cfg : Config) (c : Slot) (tf call : TrapFrame) (len replyPtr : UInt64)
    (h : List ((Machine × Machine) × Action)) (m m' : Machine) : Prop
  | waiting (plain : AwaitsReply m.kernel c call (replyPtr, 0, 0))
      (routed : AwaitsReply m'.kernel c tf (0, 0, len))
  | answered {v v' : UInt64} (answered : Answered L cfg c len h v v')
      (ctx : (m.kernel.threads c).user.ctx = call.after v)
      (ctx' : (m'.kernel.threads c).user.ctx = tf.after v')
      (state : (m.kernel.threads c).user.state ≠ .blocked ∧ (m.kernel.threads c).user.state ≠ .dead)
  | halted (phase : m'.phase = .panic .trapElrOutsideSandbox)

theorem MachineAlike.executes (alike : MachineAlike hidden shows out out' m m') :
    (∃ regs, m'.Executes c regs) ↔ ∃ regs, m.Executes c regs := by
  constructor
  · rintro ⟨regs, phase, current⟩
    obtain ⟨regs', phase'⟩ := alike.el0.mp ⟨regs, phase⟩
    exact ⟨regs', phase', alike.kernel.current.symm.trans current⟩
  · rintro ⟨regs, phase, current⟩
    obtain ⟨regs', phase'⟩ := alike.el0.mpr ⟨regs, phase⟩
    exact ⟨regs', phase', alike.kernel.current.trans current⟩

theorem AwaitsReply.result {u : Slot} {tf' : TrapFrame} {ptr override : UInt64}
    (awaits : AwaitsReply m.kernel c tf (ptr, 0, override))
    (value : WakeValue cfg m.kernel u tf' (.caller epUart) v) :
    Replies m.kernel u tf' epUart ∧ v = override ∨
      tf'.Dies ∧ (m.kernel.endpoints epUart).ownerSlot = u.u32 ∧ v = minusOne := by
  have stored := awaits.stored
  simp only [Kernel.descriptor, Prod.mk.injEq] at stored
  obtain ⟨_, cap, override⟩ := stored
  cases value with
  | replied replies => exact .inl ⟨replies, Send.replyResult cap override⟩
  | ownerDied dies owner => exact .inr ⟨dies, owner, rfl⟩

/-- The same wake ends the waits of `c` in both machines. -/
theorem AwaitsReply.answered {call : TrapFrame} {stores : List (SandboxAddress × UInt8)}
    {tf' : TrapFrame} {u : Slot} (plain : AwaitsReply m.kernel c call (replyPtr, 0, 0))
    (routed : AwaitsReply m'.kernel c tf (0, 0, len)) (inv : Inv L cfg m) (inv' : Inv L cfg m')
    (step : m.step L cfg (.trap stores tf') = some m₁)
    (step' : m'.step L cfg (.trap stores tf') = some m₁')
    (state : (m₁.kernel.threads c).user.state = .runnable)
    (state' : (m₁'.kernel.threads c).user.state = .runnable)
    (current : m'.kernel.current = some u)
    (value : WakeValue cfg m.kernel u tf' (.caller epUart) v)
    (value' : WakeValue cfg m'.kernel u tf' (.caller epUart) v')
    (member : ((m, m'), .trap stores tf') ∈ both) : Answered L cfg c len both v v' := by
  have ok := inv.kernelOk (Machine.step_calm step)
  have ok' := inv'.kernelOk (Machine.step_calm step')
  have ends : EndsWaits L cfg c (m, m') (.trap stores tf') (m₁, m₁') :=
    ⟨⟨step, (ok.recorded plain.place).2, state⟩, ⟨step', (ok'.recorded routed.place).2, state'⟩⟩
  have server (owner : (m'.kernel.endpoints epUart).ownerSlot = u.u32) : u = slotTaskB :=
    Slot.u32_inj.mp (owner.symm.trans (ok'.owners epUart))
  rcases routed.result value' with ⟨replies', rfl⟩ | ⟨dies, owned, rfl⟩
  · obtain ⟨replies, rfl⟩ : Replies m.kernel u tf' epUart ∧ v = 0 := by
      rcases plain.result value with replied | ⟨dies, _, _⟩
      · exact replied
      · exact absurd replies'.asks (dies.not_asks (by decide))
    have stored := plain.stored
    have stored' := routed.stored
    simp only [Kernel.descriptor, Prod.mk.injEq] at stored stored'
    obtain rfl := server replies'.owner
    exact .replied member ends current replies' ⟨reply_unwritten inv step replies stored.2.1,
      reply_unwritten inv' step' replies' stored'.2.1⟩
  · obtain rfl : v = minusOne := by
      rcases plain.result value with ⟨replies, _⟩ | ⟨_, _, minus⟩
      · exact absurd replies.asks (dies.not_asks (by decide))
      · exact minus
    obtain rfl := server owned
    exact .died member ends current dies

theorem Fate.step {call : TrapFrame}
    (fate : Fate L cfg c tf call len replyPtr both m m') (twins : Twins L cfg c m m')
    (user : c ≠ slotIdle) (away : ∀ regs, ¬ m'.Executes c regs) (step : m.step L cfg a = some m₁)
    (step' : m'.step L cfg a = some m₁') :
    Fate L cfg c tf call len replyPtr (both ++ [((m, m'), a)]) m₁ m₁' := by
  have aside : ∀ regs, ¬ m.Executes c regs := fun regs executes =>
    (twins.alike.executes.mpr ⟨regs, executes⟩).elim away
  have after : Twins L cfg c m₁ m₁' := twins_lockstep.keep m m' a m₁ m₁' twins step step'
  have same : (m₁'.kernel.threads c).user.state = (m₁.kernel.threads c).user.state :=
    (after.alike.kernel.threads c).task
  cases fate with
  | halted phase => exact absurd phase (Machine.step_calm step' _)
  | answered answered ctx ctx' state =>
      have state' : (m'.kernel.threads c).user.state ≠ .blocked ∧
          (m'.kernel.threads c).user.state ≠ .dead := by
        rw [(twins.alike.kernel.threads c).task]
        exact state
      have kept := step_kept twins.inv step user
        (fun regs phase current => aside regs ⟨phase, current⟩) state
      have kept' := step_kept twins.inv' step' user
        (fun regs phase current => away regs ⟨phase, current⟩) state'
      exact .answered answered.append (kept.ctx.trans ctx) (kept'.ctx.trans ctx') (kept.awake state)
  | waiting plain routed =>
      cases plain.step twins.inv aside step with
      | waits plain₁ state =>
          cases routed.step twins.inv' away step' with
          | waits routed₁ => exact .waiting plain₁ routed₁
          | woken _ _ _ _ state' => cases state'.symm.trans (same.trans state)
      | @woken stores tf' u v trap current value ctx state =>
          cases routed.step twins.inv' away step' with
          | waits _ state' => cases state'.symm.trans (same.trans state)
          | @woken _ _ u' v' trap' current' value' ctx' state' =>
              cases trap.symm.trans trap'
              subst trap
              obtain rfl : u' = u := Option.some_inj.mp
                (current'.symm.trans (twins.alike.kernel.current.trans current))
              have answered : Answered L cfg c len (both ++ [((m, m'), .trap stores tf')]) v v' :=
                plain.answered routed twins.inv twins.inv' step step' state state' current' value
                  value' (by simp)
              exact .answered answered ctx ctx' (by simp [state])

theorem path_fate {call : TrapFrame} {p q : Machine × Machine}
    (path : (kernelSystem L cfg).both.Path p both q) (twins : Twins L cfg c p.1 p.2)
    (fate : Fate L cfg c tf call len replyPtr [] p.1 p.2) (user : c ≠ slotIdle)
    (between : ∀ step ∈ both, ∀ regs, ¬ step.1.2.Executes c regs) :
    Fate L cfg c tf call len replyPtr both q.1 q.2 := by
  induction path with
  | refl => exact fate
  | @step h q a q' path taken ih =>
      have here : Twins L cfg c q.1 q.2 := twins_lockstep.path twins path
      have before := ih fun step member => between step (List.mem_append_left _ member)
      exact before.step here user (between (q, a) (by simp)) taken.1 taken.2

theorem path_answered {call : TrapFrame} {p q : Machine × Machine}
    (path : (kernelSystem L cfg).both.Path p both q) (twins : Twins L cfg c p.1 p.2)
    (fate : Fate L cfg c tf call len replyPtr [] p.1 p.2) (user : c ≠ slotIdle)
    (start : ∀ regs, ¬ p.2.Executes c regs)
    (between : ∀ step ∈ both, ∀ regs, ¬ step.1.2.Executes c regs)
    (executes : q.2.Executes c regs) : ∃ v v', Answered L cfg c len both v v' ∧
      q.1.Executes c (call.after v) ∧ regs = tf.after v' := by
  cases path with
  | refl => exact absurd executes (start regs)
  | @step h p' a _ path taken =>
      have before : Twins L cfg c p'.1 p'.2 := twins_lockstep.path twins path
      have after : Twins L cfg c q.1 q.2 := twins_lockstep.path twins (path.step taken)
      have away : ∀ regs, ¬ p'.2.Executes c regs := between (p', a) (by simp)
      have aside : ∀ regs, ¬ p'.1.Executes c regs := fun regs here =>
        (before.alike.executes.mpr ⟨regs, here⟩).elim away
      obtain ⟨regs', executes'⟩ := after.alike.executes.mp ⟨regs, executes⟩
      have loaded := step_executes before.inv' taken.2 away executes
      have loaded' := step_executes before.inv taken.1 aside executes'
      cases path_fate (path.step taken) twins fate user between with
      | halted phase => cases executes.1.symm.trans phase
      | waiting plain routed =>
          obtain ⟨ok, active⟩ := executes.active after.inv'
          cases (ok.recorded routed.place).2.symm.trans active.running
      | answered answered ctx ctx' =>
          refine ⟨_, _, answered, ?_, loaded.trans ctx'⟩
          rw [← ctx, ← loaded']
          exact executes'

/-! ## The routed write -/

/-- The handlers of a routed write and of a plain call give results that nobody but `c` can tell
apart, and `c` by the value of x0. -/
structure RouteIsCall (L : Layout) (cfg : Config) (k : Kernel) (c : Slot) (tf call : TrapFrame)
    (len : UInt64) (route plain : SysResult) : Prop where
  result : route = .ok (k, tf, minusOne) ∧ plain = .ok (k, call, minusOne) ∨
    ∃ k₁ k₁', route = syscallRedirect L k₁ tf .ipcBlock ∧ plain = syscallRedirect L k₁' call .ipcBlock
  actions : ∀ as, (kernelSystem L cfg).Takes (trapResult plain) as ↔
    (kernelSystem L cfg).Takes (trapResult route) as
  unseen : ∀ h q, (kernelSystem L cfg).both.Path (trapResult plain, trapResult route) h q →
    MachineAlike (some c) True [] [] q.1 q.2
  resumes : plain ≠ .ok (k, call, minusOne) → ∀ h q regs,
    (kernelSystem L cfg).both.Path (trapResult plain, trapResult route) h q →
      (∀ step ∈ h, ∀ regs, ¬ step.1.2.Executes c regs) → q.2.Executes c regs →
        ∃ v v', Answered L cfg c len h v v' ∧ q.1.Executes c (call.after v) ∧ regs = tf.after v'

theorem SentAlike.routeIsCall {call : TrapFrame} {plain route : SysResult}
    (sent : SentAlike L k c tf call ⟨buf, len, replyPtr, 0, 0, false⟩ ⟨buf, len, 0, 0, len, true⟩
      plain route)
    (twins : Twins L cfg c (trapResult plain) (trapResult route)) (user : c ≠ slotIdle)
    (elr : tf.elr = call.elr) : RouteIsCall L cfg k c tf call len route plain := by
  refine ⟨?_, fun as => twins_lockstep.takes twins,
    fun h q path => (twins_lockstep.path twins path).alike, fun accepted h q regs path => ?_⟩
  · cases sent with
    | refused => exact .inl ⟨rfl, rfl⟩
    | accepted => exact .inr ⟨_, _, rfl, rfl⟩
  · cases sent with
    | refused => exact absurd rfl accepted
    | @accepted k₁ k₁' registered registered' =>
        rw [trapResult_block registered.ready, trapResult_block registered'.ready, elr] at twins path
        by_cases inside : InSandbox call.elr
        · rw [if_pos inside, if_pos inside] at twins path
          exact path_answered path twins (.waiting (registered.awaits call) (registered'.awaits tf)) user
            fun regs executes => by cases executes.1
        · rw [if_neg inside, if_neg inside] at twins path
          have halted : Fate L cfg c tf call len replyPtr [] ⟨k₁, .panic .trapElrOutsideSandbox⟩
              ⟨k₁', .panic .trapElrOutsideSandbox⟩ := .halted rfl
          exact path_answered path twins halted user fun regs executes => by cases executes.1

/-- A routed write and a call with the same message and no room for a reply are told apart by the
result of their caller only: the owner's reply gives it `len` and 0, and the owner's death gives
both -1. -/
theorem run_route_call (run : (kernelSystem L cfg).Run h m) (executes : m.Executes c regs)
    (mode : tf.fromEl0) (svc : tf.exceptionClass = 0x15) (reply : el0BufRangeOk replyPtr 0) :
    RouteIsCall L cfg (m.trapped stores) c tf (tf.plainCall buf len replyPtr) len
      (ipcRouteUartWrite L (m.trapped stores) tf buf len)
      (ipcSyscallCall L (m.trapped stores) (tf.plainCall buf len replyPtr)) := by
  have inv := run_inv run
  obtain ⟨ok, active⟩ := executes.trapped inv stores
  have step : m.step L cfg (.trap stores (tf.plainCall buf len replyPtr)) = some _ :=
    plainCall_step executes mode svc
  have sent : SentAlike L (m.trapped stores) c tf (tf.plainCall buf len replyPtr)
      ⟨buf, len, replyPtr, 0, 0, false⟩ ⟨buf, len, 0, 0, len, true⟩ _ _ :=
    route_call_sent (active.ready ok) (active.awake ok) reply
  have twins := sent.twins ok active (step_cases inv step).2 mode mode rfl
  exact sent.routeIsCall twins active.user rfl

/-- `task_b` receives the message of three bytes and replies with two, and the other tasks yield until
`task_a` executes again. -/
def answerTurn : List Action :=
  List.replicate 5 .advance ++ .trap [] (.svc sysIpcRecv [1, el0SandboxBase, 8]) ::
    .trap [] (.svc sysIpcReply [1, el0SandboxBase, 2]) :: .trap [] (.svc sysYield []) ::
      (List.replicate 5 .advance ++ .trap [] (.svc sysYield []) :: List.replicate 6 .advance)

/-- `task_a` writes three bytes, or calls with them, and resumes with 3, or with 0. -/
theorem run_route_call_write : ∃ (m : Machine) (regs : UserTaskCtx) (write call : TrapFrame)
    (h : List ((Machine × Machine) × Action)) (q : Machine × Machine),
    m.Executes slotTaskA regs ∧ write = .svc sysWrite [el0SandboxBase, 3] ∧
      call = write.plainCall el0SandboxBase 3 el0SandboxBase ∧
        RouteIsCall .sample .sample (m.trapped []) slotTaskA write call 3
          (ipcRouteUartWrite .sample (m.trapped []) write el0SandboxBase 3)
          (ipcSyscallCall .sample (m.trapped []) call) ∧
            Answered .sample .sample slotTaskA 3 h 0 3 ∧
              q.1.Executes slotTaskA (call.after 0) ∧ q.2.Executes slotTaskA (write.after 3) := by
  obtain ⟨m, regs, write, call, h, q, regs', ran, executes, wrote, called, accepted, traced, silent,
    again, three⟩ : ∃ (m : Machine) (regs : UserTaskCtx) (write call : TrapFrame)
      (h : List ((Machine × Machine) × Action)) (q : Machine × Machine) (regs' : UserTaskCtx),
      runFromBoot .sample .sample (List.replicate 4 .advance) = some m ∧
        m.Executes slotTaskA regs ∧ write = .svc sysWrite [el0SandboxBase, 3] ∧
          call = write.plainCall el0SandboxBase 3 el0SandboxBase ∧
            (trapResult (ipcSyscallCall .sample (m.trapped []) call)).phase = .pick (.returnStep slotTaskA) ∧
              trace (pairStep (Machine.step .sample .sample))
                (trapResult (ipcSyscallCall .sample (m.trapped []) call),
                  trapResult (ipcRouteUartWrite .sample (m.trapped []) write el0SandboxBase 3))
                answerTurn = some (h, q) ∧
                  (h.all fun p => !p.1.2.executing slotTaskA) = true ∧
                    q.2.Executes slotTaskA regs' ∧ regs'.x 0 = 3 :=
    ⟨_, _, _, _, _, _, _, rfl, ⟨rfl, rfl⟩, rfl, rfl, rfl, rfl, rfl, ⟨rfl, rfl⟩, rfl⟩
  obtain ⟨_, run, _⟩ := runFromBoot_run ran
  have mode : write.fromEl0 := by
    rw [wrote]
    decide
  have svc : write.exceptionClass = 0x15 := by
    rw [wrote]
    decide
  subst called
  have same : RouteIsCall .sample .sample (m.trapped []) slotTaskA write
      (write.plainCall el0SandboxBase 3 el0SandboxBase) 3
      (ipcRouteUartWrite .sample (m.trapped []) write el0SandboxBase 3)
      (ipcSyscallCall .sample (m.trapped []) (write.plainCall el0SandboxBase 3 el0SandboxBase)) :=
    run_route_call run executes mode svc (by decide)
  have sent : ipcSyscallCall .sample (m.trapped []) (write.plainCall el0SandboxBase 3 el0SandboxBase) ≠
      .ok (m.trapped [], write.plainCall el0SandboxBase 3 el0SandboxBase, minusOne) := by
    intro refused
    have called : (write.plainCall el0SandboxBase 3 el0SandboxBase).fromEl0 := mode
    have returns : trapResult (.ok (m.trapped [], write.plainCall el0SandboxBase 3 el0SandboxBase,
        minusOne)) = ⟨m.trapped [], .el0 _⟩ := eret_back called minusOne
    rw [refused, returns] at accepted
    cases accepted
  have path : (kernelSystem .sample .sample).both.Path _ h q :=
    path_of_trace (fun p a q taken => pairStep_sound (fun _ _ _ step => step) taken) traced
  have between : ∀ step ∈ h, ∀ regs, ¬ step.1.2.Executes slotTaskA regs := by
    intro step member regs executes
    have here := List.all_eq_true.mp silent step member
    simp [executes.executing] at here
  obtain ⟨v, v', answered, plain, resumed⟩ := same.resumes sent h q regs' path between again
  have result : v' = 3 := by simpa [resumed, TrapFrame.after] using three
  subst resumed result
  refine ⟨m, regs, write, _, h, q, executes, wrote, rfl, same, ?_⟩
  cases answered with
  | replied member ends owner replies unwritten =>
      exact ⟨.replied member ends owner replies unwritten, plain, again⟩

end ProtoOs
