import ProtoOs.Kernel.Config
import ProtoOs.Lib.Bytes

/-!
# Kernel state

The data of `thread.h`, `arch.h`, `ipc.c` and `supervisor.c`, the sandbox memory and the calls made
to the UART driver. The last two fields of `Kernel`, and the last two of `Endpoint`, are history:
the code sets them where it performs the step they record, and never reads them.
-/

namespace ProtoOs

/-! ## Panics -/

inductive Panic
  | el0CodeExceedsRegion
  | taskAEntryOutside
  | taskBEntryOutside
  | taskCEntryOutside
  | el0StackSymbolMismatch
  | noSelectableThreads
  | invalidNextThreadContext
  | invalidUserTaskThread
  | invalidCurrentUserTask
  | unknownUserReturnReason
  | resumedOnNonUserThread
  | deadUserTaskResumed
  | userContextOutsideKernelMap
  | userResumeElrOutsideSandbox
  | wakeSlotOutOfRange
  | wakeTargetNotUserTask
  | wakeTargetDead
  | trapRedirectWithoutUserTask
  | currentUserThreadContextInvalid
  | trapElrOutsideSandbox
  | faultWithoutUserTask
  deriving DecidableEq, Repr

/-! ## Threads -/

inductive ThreadState
  | runnable
  | running
  | stopped
  deriving DecidableEq, Repr

inductive ThreadKind
  | idle
  | userTask
  deriving DecidableEq, Repr

inductive TaskState
  | runnable
  | running
  | blocked
  | dead
  deriving DecidableEq, Repr

inductive TaskReturnReason
  | none
  | yield
  | exit
  | fault
  | ipcBlock
  | notifyBlock
  deriving DecidableEq, Repr

inductive ThreadEntry
  | userTask
  | idle
  deriving DecidableEq, Repr

/-- Where `context_switch` resumes a thread. The callee-saved registers and the stack frames a
resume point finds are its arguments: `thread_bootstrap` loads its entry and argument from x19 and
x20, and the tail of `user_task_return_step` keeps its local `t`. -/
inductive Resume
  | null
  | bootstrap (entry : ThreadEntry) (arg : Option Slot)
  | returnStep (t : Slot)
  | idleLoop
  | boot
  deriving DecidableEq, Repr

structure ThreadCtx where
  sp : UInt64
  lr : Resume

scoped instance neZeroRegisters : NeZero 31 := ⟨by decide⟩

structure UserTaskCtx where
  x : Fin 31 → UInt64
  spEl0 : UInt64
  elr : UInt64
  spsr : UInt64

structure UserTask where
  ctx : UserTaskCtx
  state : TaskState
  returnReason : TaskReturnReason
  userEntry : UInt64
  userSp : UInt64
  name : Option String
  started : Bool

structure Thread where
  ctx : ThreadCtx
  state : ThreadState
  kind : ThreadKind
  quantumLeft : UInt32
  slot : UInt32
  user : UserTask

structure TrapFrame where
  x : Fin 31 → UInt64
  sp : UInt64
  elr : UInt64
  spsr : UInt64
  esr : UInt64
  far : UInt64

def spsrEl0tMasked : UInt64 := 0x3C0
def spsrEl1hMasked : UInt64 := 0x3C5

def minusOne : UInt64 := -1

/-! ## Memory -/

abbrev Memory := UInt64 → UInt8

def minU64 (a b : UInt64) : UInt64 := if a < b then a else b

/-- `bytes_copy` between two buffers of EL0 memory. -/
def bytesCopy (dst src len : UInt64) (mem : Memory) : Memory :=
  Bytes.storeLoop (fun i => dst + .ofNat i) (fun m i => m (src + .ofNat i)) len.toNat mem

/-- `bytes_copy` from `pending_msg` to a buffer of EL0 memory. -/
def bytesCopyOut (dst len : UInt64) (msg : Nat → UInt8) (mem : Memory) : Memory :=
  Bytes.storeLoop (fun i => dst + .ofNat i) (fun _ i => msg i) len.toNat mem

/-- `bytes_copy` from a buffer of EL0 memory to `pending_msg`. -/
def bytesCopyIn (src len : UInt64) (mem : Memory) (msg : Nat → UInt8) : Nat → UInt8 :=
  Bytes.storeLoop id (fun _ i => mem (src + .ofNat i)) len.toNat msg

def readBytes (mem : Memory) (ptr len : UInt64) : List UInt8 :=
  (List.range len.toNat).map fun i => mem (ptr + .ofNat i)

/-! ## History -/

structure Request where
  id : Nat
  ep : EpId
  caller : UInt32
  len : UInt64
  replyCap : UInt64
  routed : Bool

inductive Completion
  | reply (owner : UInt32) (len : UInt64)
  | ownerDeath

inductive Event
  | accepted (r : Request)
  | delivered (r : Request) (receiver : UInt32) (cap n : UInt64)
  | completed (r : Request) (caller : UInt32) (how : Completion) (x0 : UInt64)
  | discarded (r : Request)
  | woke (slot : Slot) (x0 : UInt64) (prior : TaskState)
  | died (slot : UInt32)
  | reported (slot : UInt32)
  | overwritten (slot : UInt32)
  | restarted (slot : UInt32)

/-- An access of the kernel to byte `index` behind a pointer that came from EL0, or of
`pending_msg`. -/
inductive Access
  | user (ptr : UInt64) (index : Nat)
  | pendingMsg (index : Nat)

/-! ## Endpoints and the kernel -/

structure Endpoint where
  ownerSlot : UInt32
  hasPending : Bool
  pendingLen : UInt64
  pendingMsg : Nat → UInt8
  blockedCallerSlot : Int32
  callerReplyPtr : UInt64
  callerReplyCap : UInt64
  callerResultOverride : UInt64
  blockedReceiverSlot : Int32
  receiverBufPtr : UInt64
  receiverBufCap : UInt64
  pendingReq : Option Request
  callerReq : Option Request

inductive UartCall
  | puts (s : String)
  | dec (v : UInt64)
  | hex (v : UInt64)
  | write (bytes : List UInt8)

structure Kernel where
  threads : Slot → Thread
  current : Option Slot
  currentTask : Option Slot
  schedTicks : UInt64
  reschedPending : Bool
  timerTicks : UInt64
  endpoints : EpId → Endpoint
  pendingDeathSlot : Int32
  blockedSupervisorSlot : Int32
  mem : Memory
  uart : List UartCall
  log : List Event
  accesses : List Access

namespace Kernel

@[simps -fullyApplied] def modifyThread (k : Kernel) (s : Slot) (f : Thread → Thread) : Kernel :=
  { k with threads := Function.update k.threads s (f (k.threads s)) }

@[simps -fullyApplied] def modifyEndpoint (k : Kernel) (e : EpId) (f : Endpoint → Endpoint) : Kernel :=
  { k with endpoints := Function.update k.endpoints e (f (k.endpoints e)) }

@[simps -fullyApplied] def setMem (k : Kernel) (mem : Memory) : Kernel := { k with mem := mem }

@[simps -fullyApplied] def emit (k : Kernel) (calls : List UartCall) : Kernel := { k with uart := k.uart ++ calls }

@[simps -fullyApplied] def record (k : Kernel) (events : List Event) : Kernel := { k with log := k.log ++ events }

@[simps -fullyApplied] def touch (k : Kernel) (accesses : List Access) : Kernel :=
  { k with accesses := k.accesses ++ accesses }

@[simps -fullyApplied] def setResched (k : Kernel) (pending : Bool) : Kernel := { k with reschedPending := pending }

@[simps -fullyApplied] def setPendingDeath (k : Kernel) (slot : Int32) : Kernel := { k with pendingDeathSlot := slot }

@[simps -fullyApplied] def setBlockedSupervisor (k : Kernel) (slot : Int32) : Kernel :=
  { k with blockedSupervisorSlot := slot }

@[simps -fullyApplied] def setCurrent (k : Kernel) (current : Option Slot) : Kernel := { k with current := current }

@[simps -fullyApplied] def setCurrentTask (k : Kernel) (task : Option Slot) : Kernel := { k with currentTask := task }

end Kernel

end ProtoOs
