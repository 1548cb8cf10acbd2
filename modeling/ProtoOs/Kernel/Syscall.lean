import ProtoOs.Kernel.Supervisor

/-!
# System call dispatch: `syscall.c` and the exception entries of `arch.c`
-/

namespace ProtoOs

inductive SyscallOrigin
  | el1
  | el0
  deriving DecidableEq, Repr

def sysYield : UInt64 := 0
def sysTimeTicks : UInt64 := 1
def sysWrite : UInt64 := 2
def sysExit : UInt64 := 3
def sysIpcCall : UInt64 := 4
def sysIpcRecv : UInt64 := 5
def sysIpcReply : UInt64 := 6
def sysSuperviseWait : UInt64 := 7
def sysTaskRestart : UInt64 := 8

def el0WriteRangeOk (buf len : UInt64) : Bool :=
  if buf = 0 then false
  else if len = 0 then buf ≥ el0SandboxBase ∧ buf < el0SandboxEnd
  else if buf < el0SandboxBase ∨ buf ≥ el0SandboxEnd then false
  else if len > el0SandboxEnd - buf then false
  else true

/-- `uart_write_direct`, which returns its length. -/
def uartWriteDirect (k : Kernel) (buf len : UInt64) : Kernel :=
  (k.touch ((List.range len.toNat).map fun i => .user buf i)).emit
    [.write (readBytes k.mem buf len)]

def syscallWrite (L : Layout) (cfg : Config) (k : Kernel) (tf : TrapFrame)
    (origin : SyscallOrigin) : SysResult :=
  let buf := tf.x 0
  let len := tf.x 1
  if buf = 0 then .ok (k, tf, minusOne)
  else if origin = .el0 ∧ ¬ el0WriteRangeOk buf len then .ok (k, tf, minusOne)
  else if origin = .el1 then .ok (uartWriteDirect k buf len, tf, len)
  else if cfg.flavor = .micro then
    match threadCurrentUserSlot k with
    | .error p => .error (p, k)
    | .ok slot =>
      if slot ≠ slotTaskB.u32 ∧ slot ≠ slotTaskC.u32 then
        if len > ipcMsgSize then .ok (k, tf, minusOne) else ipcRouteUartWrite L k tf buf len
      else .ok (uartWriteDirect k buf len, tf, len)
  else .ok (uartWriteDirect k buf len, tf, len)

def syscallDispatch (L : Layout) (cfg : Config) (k : Kernel) (tf : TrapFrame)
    (origin : SyscallOrigin) : SysResult :=
  let nr := tf.x 8
  if nr = sysYield then
    if origin = .el0 then syscallRedirect L k tf .yield else .ok (k, tf, 0)
  else if nr = sysTimeTicks then .ok (k, tf, threadTicksNow k)
  else if nr = sysWrite then syscallWrite L cfg k tf origin
  else if nr = sysExit then
    if origin ≠ .el0 then .ok (k, tf, minusOne) else syscallRedirect L k tf .exit
  else if nr = sysIpcCall then
    if origin ≠ .el0 then .ok (k, tf, minusOne) else ipcSyscallCall L k tf
  else if nr = sysIpcRecv then
    if origin ≠ .el0 then .ok (k, tf, minusOne) else ipcSyscallRecv L k tf
  else if nr = sysIpcReply then
    if origin ≠ .el0 then .ok (k, tf, minusOne) else ipcSyscallReply k tf
  else if nr = sysSuperviseWait then
    if origin ≠ .el0 then .ok (k, tf, minusOne) else supervisorSyscallWait L k tf
  else if nr = sysTaskRestart then
    if origin ≠ .el0 then .ok (k, tf, minusOne) else supervisorSyscallRestart k tf (tf.x 0)
  else .ok (k, tf, minusOne)

def TrapFrame.exceptionClass (tf : TrapFrame) : UInt64 := (tf.esr >>> 26) &&& 0x3F

def TrapFrame.setX0 (tf : TrapFrame) (ret : UInt64) : TrapFrame :=
  { tf with x := Function.update tf.x 0 ret }

def exceptionSyncEl0 (L : Layout) (cfg : Config) (k : Kernel) (tf : TrapFrame) :
    Except (Panic × Kernel) (Kernel × TrapFrame) :=
  if tf.exceptionClass = 0x15 then
    match syscallDispatch L cfg k tf .el0 with
    | .error stop => .error stop
    | .ok (k, tf, ret) => .ok (k, tf.setX0 ret)
  else threadUserFault L cfg k tf

end ProtoOs
