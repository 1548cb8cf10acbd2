import ProtoOs.Kernel.Thread

namespace ProtoOs

/-! ## Endpoints -/

def endpointValid (epId : UInt64) : Prop := epId > 0 ∧ epId < 3

instance (epId : UInt64) : Decidable (endpointValid epId) :=
  inferInstanceAs (Decidable (_ ∧ _))

/-- `&g_endpoints[ep_id]`: the index carries the proof that it is below `EP_COUNT`. -/
def getEndpoint (epId : UInt64) : Option EpId :=
  if h : endpointValid epId then some ⟨epId.toNat, UInt64.lt_iff_toNat_lt.mp h.2⟩ else none

@[simps] def endpointClearPending (ep : Endpoint) : Endpoint :=
  { ep with hasPending := false, pendingLen := 0, pendingReq := none }

@[simps] def endpointClearCaller (ep : Endpoint) : Endpoint :=
  { ep with
    blockedCallerSlot := slotNone, callerReplyPtr := 0, callerReplyCap := 0,
    callerResultOverride := 0, callerReq := none }

@[simps] def endpointClearReceiver (ep : Endpoint) : Endpoint :=
  { ep with blockedReceiverSlot := slotNone, receiverBufPtr := 0, receiverBufCap := 0 }

def el0BufRangeOk (buf len : UInt64) : Bool :=
  if buf = 0 then false
  else if len = 0 then buf ≥ el0SandboxBase ∧ buf < el0SandboxEnd
  else if buf < el0SandboxBase ∨ buf ≥ el0SandboxEnd then false
  else if len > el0SandboxEnd - buf then false
  else true

def Endpoint.initial (owner : UInt32) : Endpoint :=
  { ownerSlot := owner, hasPending := false, pendingLen := 0, pendingMsg := fun _ => 0
    blockedCallerSlot := slotNone, callerReplyPtr := 0, callerReplyCap := 0
    callerResultOverride := 0
    blockedReceiverSlot := slotNone, receiverBufPtr := 0, receiverBufCap := 0
    pendingReq := none, callerReq := none }

/-- The owners `ipc_init` assigns: `EP_BENCH` has one in the latency build only. -/
def initialOwner (cfg : Config) (e : EpId) : UInt32 :=
  if e = epUart then slotTaskB.u32
  else if e = epBench ∧ cfg.mode = .latency then slotTaskC.u32
  else ipcOwnerNone

def ipcInit (cfg : Config) (k : Kernel) : Kernel :=
  { k with endpoints := fun e => Endpoint.initial (initialOwner cfg e) }

/-! ## Copies

Each call of `bytes_copy` in `ipc.c` is guarded by a test that the length is not zero. -/

namespace Kernel

@[simps -fullyApplied] def copyUser (k : Kernel) (dst src len : UInt64) : Kernel :=
  { k with
    mem := if len > 0 then bytesCopy dst src len k.mem else k.mem
    accesses := k.accesses ++ (List.range len.toNat).flatMap fun i =>
      [.user src i, .user dst i] }

@[simps -fullyApplied] def copyOut (k : Kernel) (e : EpId) (dst len : UInt64) : Kernel :=
  { k with
    mem := if len > 0 then bytesCopyOut dst len (k.endpoints e).pendingMsg k.mem else k.mem
    accesses := k.accesses ++ (List.range len.toNat).flatMap fun i =>
      [.pendingMsg i, .user dst i] }

@[simps! -fullyApplied] def copyIn (k : Kernel) (e : EpId) (src len : UInt64) : Kernel :=
  (k.touch ((List.range len.toNat).flatMap fun i =>
    [.user src i, .pendingMsg i])).modifyEndpoint e fun ep =>
      { ep with
        pendingMsg := if len > 0 then bytesCopyIn src len k.mem ep.pendingMsg else ep.pendingMsg }

end Kernel

/-! ## Task death -/

/-- The history of an endpoint whose caller is resolved by the death of the owner. -/
def Endpoint.abortEvents (ep : Endpoint) : List Event :=
  (ep.callerReq.toList.map fun r =>
    .completed r ep.blockedCallerSlot.toUInt32 .ownerDeath minusOne) ++
  ep.pendingReq.toList.map .discarded

/-- One turn of the loop of `ipc_handle_task_death`. -/
def ipcDeathAt (slot : UInt32) (k : Kernel) (e : EpId) : Except Panic Kernel :=
  let k := if (k.endpoints e).blockedReceiverSlot = slot.toInt32 then
      k.modifyEndpoint e endpointClearReceiver
    else k
  let ep := k.endpoints e
  if ep.ownerSlot = slot ∧ ep.blockedCallerSlot ≠ slotNone then
    match threadUserWakeWithX0 k ep.blockedCallerSlot.toUInt32 minusOne with
    | .error p => .error p
    | .ok k => .ok (threadRequestResched
        ((k.record ep.abortEvents).modifyEndpoint e
          (endpointClearPending ∘ endpointClearCaller)))
  else if ep.blockedCallerSlot = slot.toInt32 then
    .ok ((k.record (ep.pendingReq.toList.map .discarded)).modifyEndpoint e
      (endpointClearPending ∘ endpointClearCaller))
  else .ok k

def ipcHandleTaskDeath (k : Kernel) (slot : UInt32) : Except Panic Kernel :=
  (List.finRange epCount).foldlM (ipcDeathAt slot) k

/-! ## System calls

Each returns the kernel, the trap frame as it leaves it and the value for x0, or panics with the
kernel as it is at that point. -/

abbrev SysResult := Except (Panic × Kernel) (Kernel × TrapFrame × UInt64)

/-- `thread_user_trap_redirect(tf, reason); return 0;`. -/
def syscallRedirect (L : Layout) (k : Kernel) (tf : TrapFrame) (reason : TaskReturnReason) :
    SysResult :=
  match threadUserTrapRedirect L k tf reason with
  | .error p => .error (p, k)
  | .ok (k, tf) => .ok (k, tf, 0)

/-- What `ipc_syscall_call` and `ipc_route_uart_write` both do once their checks have passed:
register the caller, hand the message to a blocked receiver or park it, and block the caller. They
differ in the reply descriptor they store. -/
def ipcAccept (L : Layout) (k : Kernel) (tf : TrapFrame) (e : EpId)
    (sendPtr sendLen replyPtr replyCap override : UInt64) (routed : Bool) : SysResult :=
  match threadCurrentUserSlot k with
  | .error p => .error (p, k)
  | .ok callerSlot =>
    let r : Request :=
      { id := k.log.length, ep := e, caller := callerSlot, len := sendLen, replyCap := replyCap
        routed := routed }
    let k := (k.record [.accepted r]).modifyEndpoint e fun ep =>
      { ep with
        blockedCallerSlot := callerSlot.toInt32, callerReplyPtr := replyPtr
        callerReplyCap := replyCap, callerResultOverride := override, callerReq := some r }
    let ep := k.endpoints e
    let step : Except (Panic × Kernel) Kernel :=
      if ep.blockedReceiverSlot ≠ slotNone then
        let delivered := minU64 sendLen ep.receiverBufCap
        let k := k.copyUser ep.receiverBufPtr sendPtr delivered
        match threadUserWakeWithX0 k ep.blockedReceiverSlot.toUInt32 delivered with
        | .error p => .error (p, k)
        | .ok k => .ok (threadRequestResched
            ((k.record [.delivered r ep.blockedReceiverSlot.toUInt32 ep.receiverBufCap
              delivered]).modifyEndpoint e endpointClearReceiver))
      else
        .ok ((k.copyIn e sendPtr sendLen).modifyEndpoint e fun ep =>
          { ep with pendingLen := sendLen, hasPending := true, pendingReq := some r })
    match step with
    | .error stop => .error stop
    | .ok k => syscallRedirect L k tf .ipcBlock

def ipcSyscallCall (L : Layout) (k : Kernel) (tf : TrapFrame) : SysResult :=
  let sendPtr := tf.x 1
  let sendLen := tf.x 2
  let replyPtr := tf.x 3
  let replyCap := tf.x 4
  match getEndpoint (tf.x 0) with
  | none => .ok (k, tf, minusOne)
  | some e =>
    let ep := k.endpoints e
    if sendLen > ipcMsgSize then .ok (k, tf, minusOne)
    else if ep.ownerSlot = ipcOwnerNone then .ok (k, tf, minusOne)
    else if ¬ el0BufRangeOk sendPtr sendLen ∨ ¬ el0BufRangeOk replyPtr replyCap then
      .ok (k, tf, minusOne)
    else if ep.hasPending ∨ ep.blockedCallerSlot ≠ slotNone then .ok (k, tf, minusOne)
    else ipcAccept L k tf e sendPtr sendLen replyPtr replyCap 0 false

def ipcRouteUartWrite (L : Layout) (k : Kernel) (tf : TrapFrame) (buf len : UInt64) : SysResult :=
  match getEndpoint 1 with
  | none => .ok (k, tf, minusOne)
  | some e =>
    let ep := k.endpoints e
    if len > ipcMsgSize then .ok (k, tf, minusOne)
    else if ep.ownerSlot = ipcOwnerNone then .ok (k, tf, minusOne)
    else if ¬ el0BufRangeOk buf len then .ok (k, tf, minusOne)
    else if ep.hasPending ∨ ep.blockedCallerSlot ≠ slotNone then .ok (k, tf, minusOne)
    else ipcAccept L k tf e buf len 0 0 len true

def ipcSyscallRecv (L : Layout) (k : Kernel) (tf : TrapFrame) : SysResult :=
  let recvPtr := tf.x 1
  let recvCap := tf.x 2
  match getEndpoint (tf.x 0) with
  | none => .ok (k, tf, minusOne)
  | some e =>
    let ep := k.endpoints e
    if ep.ownerSlot = ipcOwnerNone then .ok (k, tf, minusOne)
    else if ¬ el0BufRangeOk recvPtr recvCap then .ok (k, tf, minusOne)
    else
      match threadCurrentUserSlot k with
      | .error p => .error (p, k)
      | .ok currentSlot =>
        if ep.ownerSlot ≠ currentSlot then .ok (k, tf, minusOne)
        else if ep.hasPending then
          let delivered := minU64 ep.pendingLen recvCap
          let k := k.copyOut e recvPtr delivered
          let k := (k.record (ep.pendingReq.toList.map fun r =>
            .delivered r currentSlot recvCap delivered)).modifyEndpoint e endpointClearPending
          .ok (k, tf, delivered)
        else if ep.blockedReceiverSlot ≠ slotNone then .ok (k, tf, minusOne)
        else
          let k := k.modifyEndpoint e fun ep =>
            { ep with
              blockedReceiverSlot := currentSlot.toInt32, receiverBufPtr := recvPtr
              receiverBufCap := recvCap }
          syscallRedirect L k tf .ipcBlock

def ipcSyscallReply (k : Kernel) (tf : TrapFrame) : SysResult :=
  let replyPtr := tf.x 1
  let replyLen := tf.x 2
  match getEndpoint (tf.x 0) with
  | none => .ok (k, tf, minusOne)
  | some e =>
    let ep := k.endpoints e
    if replyLen > ipcMsgSize then .ok (k, tf, minusOne)
    else if ep.ownerSlot = ipcOwnerNone then .ok (k, tf, minusOne)
    else if ¬ el0BufRangeOk replyPtr replyLen then .ok (k, tf, minusOne)
    else
      match threadCurrentUserSlot k with
      | .error p => .error (p, k)
      | .ok currentSlot =>
        if ep.ownerSlot ≠ currentSlot then .ok (k, tf, minusOne)
        else if ep.blockedCallerSlot = slotNone then .ok (k, tf, minusOne)
        else
          let copied := minU64 replyLen ep.callerReplyCap
          let k := k.copyUser ep.callerReplyPtr replyPtr copied
          let wakeRet := if ep.callerResultOverride ≠ 0 then ep.callerResultOverride else copied
          match threadUserWakeWithX0 k ep.blockedCallerSlot.toUInt32 wakeRet with
          | .error p => .error (p, k)
          | .ok k =>
            let k := (k.record (ep.callerReq.toList.map fun r =>
              .completed r ep.blockedCallerSlot.toUInt32 (.reply currentSlot replyLen)
                wakeRet)).modifyEndpoint e endpointClearCaller
            .ok (threadRequestResched k, tf, 0)

end ProtoOs
