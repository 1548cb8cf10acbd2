import ProtoOs.Kernel.Machine

/-!
# What a trap does

The handlers check, at each step, facts that hold of every reachable kernel. Where these hold, a
handler is one of a few kernel transitions that cannot panic; `exceptionSyncEl0_cases` lists them
once, and the invariants are proved from the list.
-/

namespace ProtoOs

variable {L : Layout} {cfg : Config} {k : Kernel} {t s : Slot} {e : EpId} {tf : TrapFrame}

/-! ## The current task -/

/-- The checks that the kernel makes of the task whose trap it handles. -/
structure Ready (k : Kernel) (t : Slot) : Prop where
  current : k.current = some t
  task : k.currentTask = some t
  kind : (k.threads t).kind = .userTask
  slot : (k.threads t).slot = t.u32
  lr : (k.threads t).ctx.lr ≠ .null
  sp : (k.threads t).ctx.sp ≠ 0

theorem Ready.congr {k' : Kernel} (ready : Ready k t) (current : k'.current = k.current)
    (task : k'.currentTask = k.currentTask) (kind : (k'.threads t).kind = (k.threads t).kind)
    (slot : (k'.threads t).slot = (k.threads t).slot)
    (ctx : (k'.threads t).ctx = (k.threads t).ctx) : Ready k' t :=
  ⟨current ▸ ready.current, task ▸ ready.task, kind ▸ ready.kind, slot ▸ ready.slot,
    ctx ▸ ready.lr, ctx ▸ ready.sp⟩

theorem currentUserTask_ready (ready : Ready k t) (p : Panic) : currentUserTask k p = .ok t := by
  simp [currentUserTask, ready.task, ready.current, ready.kind]

theorem threadCurrentUserSlot_ready (ready : Ready k t) :
    threadCurrentUserSlot k = .ok t.u32 := by
  simp [threadCurrentUserSlot, currentUserTask_ready ready, ready.slot]

theorem inSandbox_of_checks {a : UInt64} : ¬ (a < el0SandboxBase ∨ a ≥ el0SandboxEnd) ↔ InSandbox a := by
  simp [InSandbox]

theorem threadUserTrapRedirect_inside (ready : Ready k t) (inside : InSandbox tf.elr)
    (reason : TaskReturnReason) : threadUserTrapRedirect L k tf reason =
      .ok (k.saveFrame t tf reason, tf.redirect L) := by
  have checks := inSandbox_of_checks.mpr inside
  simp only [threadUserTrapRedirect, currentUserTask_ready ready, ready.lr, ready.sp, checks,
    or_self, if_false]

theorem threadUserTrapRedirect_outside (ready : Ready k t) (outside : ¬ InSandbox tf.elr)
    (reason : TaskReturnReason) :
    threadUserTrapRedirect L k tf reason = .error .trapElrOutsideSandbox := by
  have checks : tf.elr < el0SandboxBase ∨ tf.elr ≥ el0SandboxEnd :=
    not_not.mp fun inside => outside (inSandbox_of_checks.mp inside)
  simp only [threadUserTrapRedirect, currentUserTask_ready ready, ready.lr, ready.sp, checks,
    or_self, if_false, if_true]

/-! ## Waiting tasks -/

structure Wakeable (k : Kernel) (s : Slot) : Prop where
  kind : (k.threads s).kind = .userTask
  state : (k.threads s).state ≠ .stopped
  alive : (k.threads s).user.state ≠ .dead

theorem Wakeable.congr {k' : Kernel} (target : Wakeable k s) (same : k'.threads s = k.threads s) :
    Wakeable k' s :=
  ⟨same ▸ target.kind, same ▸ target.state, same ▸ target.alive⟩

theorem threadUserWakeWithX0_wakeable (target : Wakeable k s) (retval : UInt64) :
    threadUserWakeWithX0 k s.u32 retval = .ok (k.wake s retval) := by
  simp [threadUserWakeWithX0, target.kind, target.state, target.alive]

inductive WaitPlace
  | caller (e : EpId)
  | receiver (e : EpId)
  | supervisor
  deriving DecidableEq, Repr

def Kernel.waiter (k : Kernel) : WaitPlace → Int32
  | .caller e => (k.endpoints e).blockedCallerSlot
  | .receiver e => (k.endpoints e).blockedReceiverSlot
  | .supervisor => k.blockedSupervisorSlot

def WaitersAwake (k : Kernel) : Prop :=
  ∀ w, k.waiter w = slotNone ∨ ∃ s, k.waiter w = s.i32 ∧ Wakeable k s

theorem WaitersAwake.get (awake : WaitersAwake k) (w : WaitPlace) (recorded : k.waiter w ≠ slotNone) :
    ∃ s, k.waiter w = s.i32 ∧ Wakeable k s :=
  (awake w).resolve_left recorded

/-! ## The transitions of IPC -/

/-- What a caller hands to `ipcAccept`. -/
structure Send where
  ptr : UInt64
  len : UInt64
  replyPtr : UInt64
  replyCap : UInt64
  override : UInt64
  routed : Bool

namespace Kernel

def newRequest (k : Kernel) (t : Slot) (e : EpId) (d : Send) : Request :=
  { id := k.log.length, ep := e, caller := t.u32, len := d.len, replyCap := d.replyCap
    routed := d.routed }

def registerCaller (k : Kernel) (t : Slot) (e : EpId) (d : Send) : Kernel :=
  (k.record [.accepted (k.newRequest t e d)]).modifyEndpoint e fun ep =>
    { ep with
      blockedCallerSlot := t.i32, callerReplyPtr := d.replyPtr, callerReplyCap := d.replyCap
      callerResultOverride := d.override, callerReq := some (k.newRequest t e d) }

def parkRequest (k : Kernel) (t : Slot) (e : EpId) (d : Send) : Kernel :=
  ((k.registerCaller t e d).copyIn e d.ptr d.len).modifyEndpoint e fun ep =>
    { ep with pendingLen := d.len, hasPending := true, pendingReq := some (k.newRequest t e d) }

def handOver (k : Kernel) (t : Slot) (e : EpId) (d : Send) (s : Slot) : Kernel :=
  let ep := k.endpoints e
  let n := minU64 d.len ep.receiverBufCap
  ((((((k.registerCaller t e d).copyUser ep.receiverBufPtr d.ptr n).wake s n).record
    [.delivered (k.newRequest t e d) s.u32 ep.receiverBufCap n]).modifyEndpoint e
      endpointClearReceiver).setResched true)

def takePending (k : Kernel) (t : Slot) (e : EpId) (ptr cap : UInt64) : Kernel :=
  let ep := k.endpoints e
  let n := minU64 ep.pendingLen cap
  ((k.copyOut e ptr n).record (ep.pendingReq.toList.map fun r =>
    .delivered r t.u32 cap n)).modifyEndpoint e endpointClearPending

def listen (k : Kernel) (t : Slot) (e : EpId) (ptr cap : UInt64) : Kernel :=
  k.modifyEndpoint e fun ep =>
    { ep with blockedReceiverSlot := t.i32, receiverBufPtr := ptr, receiverBufCap := cap }

def replyResult (ep : Endpoint) (len : UInt64) : UInt64 :=
  if ep.callerResultOverride ≠ 0 then ep.callerResultOverride else minU64 len ep.callerReplyCap

def answer (k : Kernel) (t : Slot) (e : EpId) (ptr len : UInt64) (s : Slot) : Kernel :=
  let ep := k.endpoints e
  let ret := replyResult ep len
  (((((k.copyUser ep.callerReplyPtr ptr (minU64 len ep.callerReplyCap)).wake s ret).record
    (ep.callerReq.toList.map fun r => .completed r s.u32 (.reply t.u32 len) ret)).modifyEndpoint e
      endpointClearCaller).setResched true)

end Kernel

/-! ## The handlers where their checks pass -/

theorem ipcAccept_park (ready : Ready k t) (free : (k.endpoints e).blockedReceiverSlot = slotNone)
    (d : Send) : ipcAccept L k tf e d.ptr d.len d.replyPtr d.replyCap d.override d.routed =
      (syscallRedirect L (k.parkRequest t e d) tf .ipcBlock) := by
  simp only [ipcAccept, threadCurrentUserSlot_ready ready]
  simp [Kernel.parkRequest, Kernel.registerCaller, Kernel.newRequest, free]

theorem ipcAccept_handOver (ready : Ready k t) (target : Wakeable k s)
    (waiting : (k.endpoints e).blockedReceiverSlot = s.i32)
    (d : Send) : ipcAccept L k tf e d.ptr d.len d.replyPtr d.replyCap d.override d.routed =
      (syscallRedirect L (k.handOver t e d s) tf .ipcBlock) := by
  simp only [ipcAccept, threadCurrentUserSlot_ready ready]
  have target' (n : UInt64) : Wakeable ((k.registerCaller t e d).copyUser
      (k.endpoints e).receiverBufPtr d.ptr n) s := target.congr rfl
  have woken (n : UInt64) := threadUserWakeWithX0_wakeable (target' n)
  simp only [Kernel.registerCaller, Kernel.newRequest] at woken
  simp [Kernel.handOver, Kernel.registerCaller, Kernel.newRequest, waiting, woken,
    threadRequestResched]

/-! ## The transitions a trap can make -/

inductive Outcome
  | back (x0 : UInt64)
  | away (reason : TaskReturnReason)

def Outcome.result (L : Layout) (k₁ : Kernel) (tf : TrapFrame) : Outcome → SysResult
  | .back x0 => .ok (k₁, tf, x0)
  | .away reason => syscallRedirect L k₁ tf reason

structure Asks (tf : TrapFrame) (nr : UInt64) : Prop where
  svc : tf.exceptionClass = 0x15
  number : tf.x 8 = nr

/-- The two ways to hand a message to an endpoint. -/
inductive Sends (cfg : Config) (t : Slot) (tf : TrapFrame) : EpId → Send → Prop
  | call {e : EpId} (asks : Asks tf sysIpcCall) (found : getEndpoint (tf.x 0) = some e)
      (reply : el0BufRangeOk (tf.x 3) (tf.x 4)) :
      Sends cfg t tf e ⟨tf.x 1, tf.x 2, tf.x 3, tf.x 4, 0, false⟩
  | route (asks : Asks tf sysWrite) (micro : cfg.flavor = .micro)
      (client : t ≠ slotTaskB ∧ t ≠ slotTaskC) (range : el0WriteRangeOk (tf.x 0) (tf.x 1)) :
      Sends cfg t tf epUart ⟨tf.x 0, tf.x 1, 0, 0, tf.x 1, true⟩

structure Accepts (k : Kernel) (e : EpId) (d : Send) : Prop where
  length : d.len ≤ ipcMsgSize
  owned : (k.endpoints e).ownerSlot ≠ ipcOwnerNone
  range : el0BufRangeOk d.ptr d.len
  quiet : (k.endpoints e).hasPending = false
  free : (k.endpoints e).blockedCallerSlot = slotNone

def Thread.restart (t : Thread) : Thread :=
  { userTaskInit t.user.name t.user.userEntry t.user.userSp t with state := .runnable }

def Kernel.restartTask (k : Kernel) (s : Slot) : Kernel :=
  (threadRequestResched (k.modifyThread s Thread.restart)).record [.restarted s.u32]

structure Restartable (t : Thread) : Prop where
  kind : t.kind = .userTask
  dead : t.user.state = .dead
  stopped : t.state = .stopped
  entry : t.user.userEntry ≠ 0
  stack : t.user.userSp ≠ 0
  name : t.user.name ≠ none

inductive Refuses (cfg : Config) (k : Kernel) (t : Slot) (tf : TrapFrame) : Prop
  | write (asks : Asks tf sysWrite)
      (no : el0WriteRangeOk (tf.x 0) (tf.x 1) →
        (cfg.flavor = .micro ∧ t ≠ slotTaskB ∧ t ≠ slotTaskC) ∧
          ¬ Accepts k epUart ⟨tf.x 0, tf.x 1, 0, 0, tf.x 1, true⟩)
  | call (asks : Asks tf sysIpcCall)
      (no : ∀ e, getEndpoint (tf.x 0) = some e → el0BufRangeOk (tf.x 3) (tf.x 4) →
        ¬ Accepts k e ⟨tf.x 1, tf.x 2, tf.x 3, tf.x 4, 0, false⟩)
  | recv (asks : Asks tf sysIpcRecv)
      (no : ∀ e, getEndpoint (tf.x 0) = some e → el0BufRangeOk (tf.x 1) (tf.x 2) →
        (k.endpoints e).ownerSlot = t.u32 →
          (k.endpoints e).hasPending = false ∧ (k.endpoints e).blockedReceiverSlot ≠ slotNone)
  | reply (asks : Asks tf sysIpcReply)
      (no : ∀ e, getEndpoint (tf.x 0) = some e → tf.x 2 ≤ ipcMsgSize →
        el0BufRangeOk (tf.x 1) (tf.x 2) → (k.endpoints e).ownerSlot = t.u32 →
          (k.endpoints e).blockedCallerSlot = slotNone)
  | wait (asks : Asks tf sysSuperviseWait)
      (no : t = slotTaskC → k.pendingDeathSlot = slotNone ∧ k.blockedSupervisorSlot ≠ slotNone)
  | restart (asks : Asks tf sysTaskRestart)
      (no : t = slotTaskC → tf.x 0 = slotTaskB.u32.toUInt64 →
        ¬ Restartable (k.threads slotTaskB))
  | unknown (svc : tf.exceptionClass = 0x15)
      (number : tf.x 8 ∉ [sysYield, sysTimeTicks, sysWrite, sysExit, sysIpcCall, sysIpcRecv,
        sysIpcReply, sysSuperviseWait, sysTaskRestart])

theorem Refuses.svc (refuses : Refuses cfg k t tf) : tf.exceptionClass = 0x15 := by
  cases refuses with
  | write asks | call asks | recv asks | reply asks | wait asks | restart asks => exact asks.svc
  | unknown svc => exact svc

theorem Sends.svc {d : Send} (sends : Sends cfg t tf e d) : tf.exceptionClass = 0x15 := by
  cases sends with
  | call asks | route asks => exact asks.svc

inductive Effect (cfg : Config) (k : Kernel) (t : Slot) (tf : TrapFrame) : Kernel → Outcome → Prop
  | refused (refuses : Refuses cfg k t tf) : Effect cfg k t tf k (.back minusOne)
  | ticks (asks : Asks tf sysTimeTicks) : Effect cfg k t tf k (.back k.schedTicks)
  | write (asks : Asks tf sysWrite) (range : el0WriteRangeOk (tf.x 0) (tf.x 1))
      (direct : ¬ (cfg.flavor = .micro ∧ t ≠ slotTaskB ∧ t ≠ slotTaskC)) :
      Effect cfg k t tf (uartWriteDirect k (tf.x 0) (tf.x 1)) (.back (tf.x 1))
  | yield (asks : Asks tf sysYield) : Effect cfg k t tf k (.away .yield)
  | exit (asks : Asks tf sysExit) : Effect cfg k t tf k (.away .exit)
  | fault (fault : tf.exceptionClass ≠ 0x15) :
      Effect cfg k t tf (k.emit (faultReport cfg (k.threads t).user.name tf)) (.away .fault)
  | park {e : EpId} {d : Send} (sends : Sends cfg t tf e d) (accepts : Accepts k e d)
      (absent : (k.endpoints e).blockedReceiverSlot = slotNone) :
      Effect cfg k t tf (k.parkRequest t e d) (.away .ipcBlock)
  | handOver {e : EpId} {d : Send} {s : Slot} (sends : Sends cfg t tf e d) (accepts : Accepts k e d)
      (waiting : (k.endpoints e).blockedReceiverSlot = s.i32) (target : Wakeable k s) :
      Effect cfg k t tf (k.handOver t e d s) (.away .ipcBlock)
  | take {e : EpId} (asks : Asks tf sysIpcRecv) (found : getEndpoint (tf.x 0) = some e)
      (range : el0BufRangeOk (tf.x 1) (tf.x 2)) (owner : (k.endpoints e).ownerSlot = t.u32)
      (pending : (k.endpoints e).hasPending = true) :
      Effect cfg k t tf (k.takePending t e (tf.x 1) (tf.x 2))
        (.back (minU64 (k.endpoints e).pendingLen (tf.x 2)))
  | listen {e : EpId} (asks : Asks tf sysIpcRecv) (found : getEndpoint (tf.x 0) = some e)
      (range : el0BufRangeOk (tf.x 1) (tf.x 2)) (owner : (k.endpoints e).ownerSlot = t.u32)
      (quiet : (k.endpoints e).hasPending = false)
      (absent : (k.endpoints e).blockedReceiverSlot = slotNone) :
      Effect cfg k t tf (k.listen t e (tf.x 1) (tf.x 2)) (.away .ipcBlock)
  | answer {e : EpId} {s : Slot} (asks : Asks tf sysIpcReply) (found : getEndpoint (tf.x 0) = some e)
      (length : tf.x 2 ≤ ipcMsgSize) (range : el0BufRangeOk (tf.x 1) (tf.x 2))
      (owner : (k.endpoints e).ownerSlot = t.u32)
      (waiting : (k.endpoints e).blockedCallerSlot = s.i32) (target : Wakeable k s) :
      Effect cfg k t tf (k.answer t e (tf.x 1) (tf.x 2) s) (.back 0)
  | report (asks : Asks tf sysSuperviseWait) (supervisor : t = slotTaskC)
      (pending : k.pendingDeathSlot ≠ slotNone) :
      Effect cfg k t tf
        ((k.record [.reported k.pendingDeathSlot.toUInt32]).setPendingDeath slotNone)
        (.back k.pendingDeathSlot.toUInt32.toUInt64)
  | await (asks : Asks tf sysSuperviseWait) (supervisor : t = slotTaskC)
      (quiet : k.pendingDeathSlot = slotNone) (absent : k.blockedSupervisorSlot = slotNone) :
      Effect cfg k t tf (k.setBlockedSupervisor t.i32) (.away .notifyBlock)
  | restart (asks : Asks tf sysTaskRestart) (supervisor : t = slotTaskC)
      (target : tf.x 0 = slotTaskB.u32.toUInt64) (restartable : Restartable (k.threads slotTaskB)) :
      Effect cfg k t tf (k.restartTask slotTaskB) (.back 0)

def Explained (L : Layout) (cfg : Config) (k : Kernel) (t : Slot) (tf : TrapFrame)
    (result : SysResult) : Prop :=
  ∃ k₁ o, Effect cfg k t tf k₁ o ∧ result = o.result L k₁ tf

theorem Refuses.explained (refuses : Refuses cfg k t tf) :
    Explained L cfg k t tf (.ok (k, tf, minusOne)) :=
  ⟨k, .back minusOne, .refused refuses, rfl⟩

theorem ipcAccept_explained (ready : Ready k t) (awake : WaitersAwake k) {d : Send}
    (sends : Sends cfg t tf e d) (accepts : Accepts k e d) : Explained L cfg k t tf
      (ipcAccept L k tf e d.ptr d.len d.replyPtr d.replyCap d.override d.routed) := by
  by_cases absent : (k.endpoints e).blockedReceiverSlot = slotNone
  · exact ⟨_, .away .ipcBlock, .park sends accepts absent, ipcAccept_park ready absent d⟩
  · obtain ⟨s, waiting, target⟩ := awake.get (.receiver e) absent
    exact ⟨_, .away .ipcBlock, .handOver sends accepts waiting target,
      ipcAccept_handOver ready target waiting d⟩

theorem ipcSyscallCall_explained (ready : Ready k t) (awake : WaitersAwake k)
    (asks : Asks tf sysIpcCall) : Explained L cfg k t tf (ipcSyscallCall L k tf) := by
  let d : Send := ⟨tf.x 1, tf.x 2, tf.x 3, tf.x 4, 0, false⟩
  simp only [ipcSyscallCall]
  cases found : getEndpoint (tf.x 0) with
  | none => exact Refuses.explained (.call asks fun e here => by simp [found] at here)
  | some e =>
      by_cases reply : el0BufRangeOk (tf.x 3) (tf.x 4)
      · by_cases accepts : Accepts k e d
        · have long : ¬ ipcMsgSize < tf.x 2 := UInt64.not_lt.mpr accepts.length
          simp only [d] at accepts
          simpa [long, accepts.owned, accepts.range, reply, accepts.quiet, accepts.free] using
            ipcAccept_explained (L := L) ready awake (.call asks found reply) accepts
        · have refused : Explained L cfg k t tf (.ok (k, tf, minusOne)) :=
            Refuses.explained (.call asks fun u here _ => by cases found.symm.trans here; exact accepts)
          simp only
          split_ifs with long unowned range busy
          all_goals try exact refused
          simp only [not_or, not_not, Bool.not_eq_true, Bool.not_eq_false] at range busy
          exact absurd ⟨UInt64.not_lt.mp long, unowned, range.1, busy.1, busy.2⟩ accepts
      · have refused : Explained L cfg k t tf (.ok (k, tf, minusOne)) :=
          Refuses.explained (.call asks fun _ _ range => absurd range reply)
        simp only [reply]
        split_ifs with long unowned range
        all_goals first | exact refused | simp at range

theorem ipcRouteUartWrite_explained (ready : Ready k t) (awake : WaitersAwake k)
    (asks : Asks tf sysWrite) (micro : cfg.flavor = .micro)
    (client : t ≠ slotTaskB ∧ t ≠ slotTaskC) (range : el0WriteRangeOk (tf.x 0) (tf.x 1)) :
    Explained L cfg k t tf (ipcRouteUartWrite L k tf (tf.x 0) (tf.x 1)) := by
  have found : getEndpoint 1 = some epUart := by decide
  simp only [ipcRouteUartWrite, found]
  by_cases accepts : Accepts k epUart ⟨tf.x 0, tf.x 1, 0, 0, tf.x 1, true⟩
  · have long := UInt64.not_lt.mpr accepts.length
    simpa [long, accepts.owned, accepts.range, accepts.quiet, accepts.free] using
      ipcAccept_explained (L := L) ready awake (.route asks micro client range) accepts
  · have refused : Explained L cfg k t tf (.ok (k, tf, minusOne)) :=
      Refuses.explained (.write asks fun _ => ⟨⟨micro, client⟩, accepts⟩)
    split_ifs with long unowned bad busy
    all_goals try exact refused
    simp only [not_or, not_not, Bool.not_eq_true] at bad busy
    exact absurd ⟨UInt64.not_lt.mp long, unowned, bad, busy.1, busy.2⟩ accepts

theorem ipcSyscallRecv_explained (ready : Ready k t) (asks : Asks tf sysIpcRecv) :
    Explained L cfg k t tf (ipcSyscallRecv L k tf) := by
  simp only [ipcSyscallRecv, threadCurrentUserSlot_ready ready]
  cases found : getEndpoint (tf.x 0) with
  | none => exact Refuses.explained (.recv asks fun e here => by simp [found] at here)
  | some e =>
      have refused (no : el0BufRangeOk (tf.x 1) (tf.x 2) → (k.endpoints e).ownerSlot = t.u32 →
          (k.endpoints e).hasPending = false ∧ (k.endpoints e).blockedReceiverSlot ≠ slotNone) :
          Explained L cfg k t tf (.ok (k, tf, minusOne)) :=
        Refuses.explained (.recv asks fun u here => by cases found.symm.trans here; exact no)
      simp only
      by_cases unowned : (k.endpoints e).ownerSlot = ipcOwnerNone
      · rw [if_pos unowned]
        exact refused fun _ owner => absurd (owner.symm.trans unowned) (Slot.u32_ne_none t)
      by_cases range : el0BufRangeOk (tf.x 1) (tf.x 2)
      swap
      · rw [if_neg unowned, if_pos range]
        exact refused fun ok => absurd ok range
      by_cases owner : (k.endpoints e).ownerSlot = t.u32
      swap
      · rw [if_neg unowned, if_neg (not_not.mpr range), if_pos owner]
        exact refused fun _ own => absurd own owner
      rw [if_neg unowned, if_neg (not_not.mpr range), if_neg (not_not.mpr owner)]
      split_ifs with pending absent
      · exact ⟨_, .back _, .take asks found range owner pending, rfl⟩
      · exact refused fun _ _ => ⟨by simpa using pending, absent⟩
      · exact ⟨_, .away .ipcBlock, .listen asks found range owner (by simpa using pending)
          (by simpa using absent), rfl⟩

theorem ipcSyscallReply_explained (ready : Ready k t) (awake : WaitersAwake k)
    (asks : Asks tf sysIpcReply) : Explained L cfg k t tf (ipcSyscallReply k tf) := by
  simp only [ipcSyscallReply, threadCurrentUserSlot_ready ready]
  cases found : getEndpoint (tf.x 0) with
  | none => exact Refuses.explained (.reply asks fun e here => by simp [found] at here)
  | some e =>
      have refused (no : tf.x 2 ≤ ipcMsgSize → el0BufRangeOk (tf.x 1) (tf.x 2) →
          (k.endpoints e).ownerSlot = t.u32 → (k.endpoints e).blockedCallerSlot = slotNone) :
          Explained L cfg k t tf (.ok (k, tf, minusOne)) :=
        Refuses.explained (.reply asks fun u here => by cases found.symm.trans here; exact no)
      simp only
      by_cases long : tf.x 2 > ipcMsgSize
      · rw [if_pos long]
        exact refused fun short => absurd short (UInt64.not_le.mpr long)
      by_cases unowned : (k.endpoints e).ownerSlot = ipcOwnerNone
      · rw [if_neg long, if_pos unowned]
        exact refused fun _ _ owner => absurd (owner.symm.trans unowned) (Slot.u32_ne_none t)
      by_cases range : el0BufRangeOk (tf.x 1) (tf.x 2)
      swap
      · rw [if_neg long, if_neg unowned, if_pos range]
        exact refused fun _ ok => absurd ok range
      by_cases owner : (k.endpoints e).ownerSlot = t.u32
      swap
      · rw [if_neg long, if_neg unowned, if_neg (not_not.mpr range), if_pos owner]
        exact refused fun _ _ own => absurd own owner
      by_cases absent : (k.endpoints e).blockedCallerSlot = slotNone
      · simp only [long, range, owner, absent, if_true, if_false, not_true_eq_false, ne_eq]
        split_ifs
        all_goals exact refused fun _ _ _ => absent
      obtain ⟨s, waiting, target⟩ := awake.get (.caller e) absent
      refine ⟨_, .back 0, .answer asks found (UInt64.not_lt.mp long) range owner waiting target, ?_⟩
      have target' (n : UInt64) : Wakeable (k.copyUser (k.endpoints e).callerReplyPtr (tf.x 1) n) s :=
        target.congr rfl
      change (k.endpoints e).blockedCallerSlot = s.i32 at waiting
      simp [long, range, owner, waiting, threadUserWakeWithX0_wakeable (target' _), Outcome.result,
        Kernel.answer, Kernel.replyResult, threadRequestResched]

theorem supervisorSyscallWait_explained (ready : Ready k t) (asks : Asks tf sysSuperviseWait) :
    Explained L cfg k t tf (supervisorSyscallWait L k tf) := by
  simp only [supervisorSyscallWait, threadCurrentUserSlot_ready ready]
  split_ifs with other pending absent
  · exact Refuses.explained (.wait asks fun supervisor => by simp [supervisor] at other)
  all_goals
    have supervisor : t = slotTaskC := by simpa using other
  · exact ⟨_, .back _, .report asks supervisor pending, rfl⟩
  · exact Refuses.explained (.wait asks fun _ => ⟨not_not.mp pending, absent⟩)
  · exact ⟨_, .away .notifyBlock,
      .await asks supervisor (not_not.mp pending) (not_not.mp absent), rfl⟩

theorem threadUserRestart_restartable (slot : Slot) (ok : Restartable (k.threads slot)) :
    threadUserRestart k slot.u32 = (k.restartTask slot, 0) := by
  simp [threadUserRestart, ok.kind, ok.dead, ok.stopped, ok.entry, ok.stack, ok.name,
    Kernel.restartTask]
  rfl

theorem threadUserRestart_refused (slot : Slot) (no : ¬ Restartable (k.threads slot)) :
    threadUserRestart k slot.u32 = (k, -1) := by
  simp only [threadUserRestart, slotOf?_u32]
  split_ifs with kind alive blank
  · rfl
  · rfl
  · rfl
  · simp only [not_or, not_not] at kind alive blank
    exact absurd ⟨kind, alive.1, alive.2, blank.1, blank.2.1, blank.2.2⟩ no

theorem supervisorSyscallRestart_explained (ready : Ready k t) (asks : Asks tf sysTaskRestart) :
    Explained L cfg k t tf (supervisorSyscallRestart k tf (tf.x 0)) := by
  simp only [supervisorSyscallRestart, threadCurrentUserSlot_ready ready]
  by_cases supervisor : t = slotTaskC
  swap
  · have other : t.u32 ≠ slotTaskC.u32 := by simpa using supervisor
    rw [if_pos other]
    exact Refuses.explained (.restart asks fun here => absurd here supervisor)
  by_cases target : tf.x 0 = slotTaskB.u32.toUInt64
  swap
  · rw [if_neg (by simp [supervisor]), if_pos target]
    exact Refuses.explained (.restart asks fun _ here => absurd here target)
  have slot : (tf.x 0).toUInt32 = slotTaskB.u32 := by rw [target]; rfl
  rw [if_neg (by simp [supervisor]), if_neg (not_not.mpr target), slot]
  by_cases restartable : Restartable (k.threads slotTaskB)
  · rw [threadUserRestart_restartable slotTaskB restartable]
    exact ⟨_, .back 0, .restart asks supervisor target restartable, rfl⟩
  · rw [threadUserRestart_refused slotTaskB restartable]
    exact Refuses.explained (.restart asks fun _ _ => restartable)

theorem syscallWrite_explained (ready : Ready k t) (awake : WaitersAwake k)
    (asks : Asks tf sysWrite) : Explained L cfg k t tf (syscallWrite L cfg k tf .el0) := by
  have long_refused (micro : cfg.flavor = .micro) (client : t ≠ slotTaskB ∧ t ≠ slotTaskC)
      (long : tf.x 1 > ipcMsgSize) : Refuses cfg k t tf :=
    .write asks fun _ => ⟨⟨micro, client⟩, fun accepts =>
      absurd accepts.length (UInt64.not_le.mpr long)⟩
  simp only [syscallWrite, threadCurrentUserSlot_ready ready]
  split_ifs with null range el1 micro client long
  · refine Refuses.explained (.write asks fun ok => ?_)
    simp [el0WriteRangeOk, null] at ok
  · exact Refuses.explained (.write asks fun ok => absurd ok range.2)
  · cases el1
  all_goals
    have ok : el0WriteRangeOk (tf.x 0) (tf.x 1) := by simpa using range
  · exact Refuses.explained (long_refused micro (by simpa using client) long)
  · exact ipcRouteUartWrite_explained ready awake asks micro (by simpa using client) ok
  · refine ⟨_, .back _, .write asks ok (fun routed => client ?_), rfl⟩
    simpa using routed.2
  · exact ⟨_, .back _, .write asks ok (fun routed => micro routed.1), rfl⟩

theorem syscallDispatch_explained (ready : Ready k t) (awake : WaitersAwake k)
    (svc : tf.exceptionClass = 0x15) :
    Explained L cfg k t tf (syscallDispatch L cfg k tf .el0) := by
  have asks {nr : UInt64} (number : tf.x 8 = nr) : Asks tf nr := ⟨svc, number⟩
  simp only [syscallDispatch, ne_eq, not_true_eq_false, if_true, if_false]
  split_ifs with n n n n n n n n n
  · exact ⟨_, .away .yield, .yield (asks n), rfl⟩
  · exact ⟨_, .back _, .ticks (asks n), rfl⟩
  · exact syscallWrite_explained ready awake (asks n)
  · exact ⟨_, .away .exit, .exit (asks n), rfl⟩
  · exact ipcSyscallCall_explained ready awake (asks n)
  · exact ipcSyscallRecv_explained ready (asks n)
  · exact ipcSyscallReply_explained ready awake (asks n)
  · exact supervisorSyscallWait_explained ready (asks n)
  · exact supervisorSyscallRestart_explained ready (asks n)
  · exact Refuses.explained (.unknown svc (by simp [*]))

/-! ## The step from a trap -/

theorem wakeable_wake (other : Slot) (retval : UInt64) (target : Wakeable k s) :
    Wakeable (k.wake other retval) s := by
  by_cases same : s = other
  · subst same
    exact ⟨by simpa [Thread.wake] using target.kind, by simp [Thread.wake], by simp [Thread.wake]⟩
  · exact ⟨by simpa [same] using target.kind, by simpa [same] using target.state,
      by simpa [same] using target.alive⟩

theorem ready_wake (ready : Ready k t) (other : Slot) (retval : UInt64) :
    Ready (k.wake other retval) t := by
  by_cases same : t = other
  · subst same
    exact ready.congr rfl rfl (by simp [Thread.wake]) (by simp [Thread.wake]) (by simp [Thread.wake])
  · exact ready.congr rfl rfl (by simp [same]) (by simp [same]) (by simp [same])

theorem Effect.ready {k₁ : Kernel} {reason : TaskReturnReason}
    (effect : Effect cfg k t tf k₁ (.away reason)) (ready : Ready k t) : Ready k₁ t := by
  cases effect with
  | yield => exact ready
  | exit => exact ready
  | fault => exact ready.congr rfl rfl rfl rfl rfl
  | park => exact ready.congr rfl rfl rfl rfl rfl
  | @handOver e d s =>
      let sent := (k.registerCaller t e d).copyUser (k.endpoints e).receiverBufPtr d.ptr
        (minU64 d.len (k.endpoints e).receiverBufCap)
      have sentReady : Ready sent t := ready.congr rfl rfl rfl rfl rfl
      exact (ready_wake sentReady s _).congr rfl rfl rfl rfl rfl
  | listen => exact ready.congr rfl rfl rfl rfl rfl
  | await => exact ready.congr rfl rfl rfl rfl rfl

def returnStep (k : Kernel) : Machine :=
  match userTaskReturnStep k with
  | .error p => ⟨k, .panic p⟩
  | .ok (k, t) => ⟨k.setResched false, .pick (.returnStep t)⟩

def TrapFrame.after (tf : TrapFrame) (x0 : UInt64) : UserTaskCtx :=
  { x := Function.update tf.x 0 x0, spEl0 := tf.sp, elr := tf.elr, spsr := tf.spsr }

def Outcome.machine (k₁ : Kernel) (t : Slot) (tf : TrapFrame) : Outcome → Machine
  | .back x0 => ⟨k₁, .el0 (tf.after x0)⟩
  | .away reason =>
      if InSandbox tf.elr then returnStep (k₁.saveFrame t tf reason)
      else ⟨k₁, .panic .trapElrOutsideSandbox⟩

theorem userTaskReturnStep_resched {k' : Kernel} (returned : userTaskReturnStep k = .ok (k', t)) :
    k'.reschedPending = true := by
  unfold userTaskReturnStep at returned
  split at returned
  · cases returned
  simp only at returned
  split at returned
  · cases returned
  · cases returned
    rfl

theorem eret_el1 (mode : tf.spsr &&& 0xF = 5) : eret k tf = returnStep k := by
  rw [eret, if_pos mode, returnStep]
  cases returned : userTaskReturnStep k with
  | error p => rfl
  | ok result => simp [threadReschedPoint, threadReschedTake, userTaskReturnStep_resched returned]

theorem eret_back (el0 : tf.fromEl0) (x0 : UInt64) :
    eret k (tf.setX0 x0) = ⟨k, .el0 (tf.after x0)⟩ := by
  have mode : tf.spsr &&& 0xF ≠ 5 := by rw [show tf.spsr &&& 0xF = 0 from el0]; decide
  simp [eret, TrapFrame.setX0, TrapFrame.after, mode]

theorem takeTrap_cases (ready : Ready k t) (awake : WaitersAwake k) (el0 : tf.fromEl0) :
    ∃ k₁ o, Effect cfg k t tf k₁ o ∧ takeTrap L cfg k tf = o.machine k₁ t tf := by
  have el1 : spsrEl1hMasked &&& 0xF = 5 := by decide
  by_cases svc : tf.exceptionClass = 0x15
  · obtain ⟨k₁, o, effect, result⟩ := syscallDispatch_explained (L := L) ready awake svc
    refine ⟨k₁, o, effect, ?_⟩
    simp only [takeTrap, exceptionSyncEl0, svc, if_true, result]
    cases o with
    | back x0 => exact eret_back el0 x0
    | away reason =>
        have ready₁ := effect.ready ready
        by_cases inside : InSandbox tf.elr
        · have mode : ((tf.redirect L).setX0 0).spsr &&& 0xF = 5 := el1
          simp [Outcome.result, syscallRedirect, Outcome.machine, inside,
            threadUserTrapRedirect_inside ready₁ inside, eret_el1 mode]
        · simp [Outcome.result, syscallRedirect, Outcome.machine, inside,
            threadUserTrapRedirect_outside ready₁ inside]
  · have effect : Effect cfg k t tf _ _ := .fault svc
    refine ⟨_, _, effect, ?_⟩
    have ready₁ := effect.ready ready
    simp only [takeTrap, exceptionSyncEl0, svc, if_false, threadUserFault,
      currentUserTask_ready ready]
    by_cases inside : InSandbox tf.elr
    · have mode : (tf.redirect L).spsr &&& 0xF = 5 := el1
      simp [Outcome.machine, inside, threadUserTrapRedirect_inside ready₁ inside, eret_el1 mode]
    · simp [Outcome.machine, inside, threadUserTrapRedirect_outside ready₁ inside]

end ProtoOs
