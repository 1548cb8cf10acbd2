import ProtoOs.Kernel.Machine

/-!
# EL0 programs: `user_tasks.c`

The shipped programs, cut at their system calls: from the point a program has reached and from what
its last call returned follow its next call and the point after it. That a task runs its program
says that no other task overwrites its code, its registers or its frame.
-/

namespace ProtoOs

/-! ## Calls -/

inductive Call
  | svc (nr : UInt64) (args : List UInt64)
  | brk
  deriving DecidableEq, Repr

def Call.Raises (tf : TrapFrame) : Call → Prop
  | .svc nr args => tf.exceptionClass = 0x15 ∧ tf.x 8 = nr ∧
      ∀ arg ∈ args.zipIdx, tf.x (Fin.ofNat 31 arg.2) = arg.1
  | .brk => tf.exceptionClass = 0x3C

instance (tf : TrapFrame) : (call : Call) → Decidable (call.Raises tf)
  | .svc _ _ => inferInstanceAs (Decidable (_ ∧ _ ∧ _))
  | .brk => inferInstanceAs (Decidable (_ = _))

def Call.frame : Call → TrapFrame
  | .svc nr args => .svc nr args
  | .brk => .fault 0xF0000000 el0SandboxBase

def el0WriteRet (buf len : UInt64) : Call := .svc sysWrite [buf, len]
def el0IpcRecv (epId recvPtr recvCap : UInt64) : Call := .svc sysIpcRecv [epId, recvPtr, recvCap]
def el0IpcReply (epId replyPtr replyLen : UInt64) : Call :=
  .svc sysIpcReply [epId, replyPtr, replyLen]
def el0SuperviseWait : Call := .svc sysSuperviseWait [0, 0]
def el0TaskRestart (slot : UInt64) : Call := .svc sysTaskRestart [slot, 0]

/-! ## Data -/

def uartReadyMsg : String := "[uart] ready\n"
def supReadyMsg : String := "[sup] ready\n"
def supRestartedMsg : String := "[sup] restarted uart\n"

/-- Where the compiler and the linker put the objects of `user_tasks.c`. -/
structure Image where
  uartReadyMsg : UInt64
  supReadyMsg : UInt64
  supRestartedMsg : UInt64
  crashedOnce : UInt64
  /-- `recv_buf` of `task_b`, and of `task_c` in the latency build. -/
  recvBufB : UInt64
  recvBufC : UInt64
  crashedOnce_data : el0SandboxBase ≤ crashedOnce ∧ crashedOnce ≤ el0CodeEnd - 4
  recvBufB_stack : el0TaskBStackBottom ≤ recvBufB ∧ recvBufB ≤ el0TaskBStackTop - ipcMsgSize
  recvBufC_stack : el0TaskCStackBottom ≤ recvBufC ∧ recvBufC ≤ el0TaskCStackTop - ipcMsgSize

def Image.sample : Image where
  uartReadyMsg := el0SandboxBase + 0x4000
  supReadyMsg := el0SandboxBase + 0x4010
  supRestartedMsg := el0SandboxBase + 0x4020
  crashedOnce := el0SandboxBase + 0x5000
  recvBufB := el0TaskBStackTop - 0x200
  recvBufC := el0TaskCStackTop - 0x200
  crashedOnce_data := by decide
  recvBufB_stack := by decide
  recvBufC_stack := by decide

variable (cfg : Config) (img : Image)

/-! ## `task_b` -/

/-- The points of `__el0_task_b_entry`. -/
inductive TaskB
  | entry
  | ready
  | received
  | written
  | replied
  deriving DecidableEq, Repr

def Image.crashed (mem : Memory) : Prop := readBytes mem img.crashedOnce 4 ≠ [0, 0, 0, 0]

instance (mem : Memory) : Decidable (img.crashed mem) := inferInstanceAs (Decidable (_ ≠ _))

/-- Behind the injected crash is the entry, where the restarted task begins. -/
def el0TaskBEntry (mem : Memory) (x0 : UInt64) : TaskB → Call × TaskB
  | .entry =>
      match cfg.mode with
      | .off => (el0WriteRet img.uartReadyMsg (.ofNat uartReadyMsg.length), .ready)
      | _ => (el0IpcRecv 1 img.recvBufB ipcMsgSize, .received)
  | .ready => (el0IpcRecv 1 img.recvBufB ipcMsgSize, .received)
  | .received =>
      if x0 ≠ minusOne then (el0WriteRet img.recvBufB x0, .written)
      else (el0IpcRecv 1 img.recvBufB ipcMsgSize, .received)
  | .written => (el0IpcReply 1 img.recvBufB 0, .replied)
  | .replied =>
      if cfg.mode ≠ .latency ∧ ¬ img.crashed mem then (.brk, .entry)
      else (el0IpcRecv 1 img.recvBufB ipcMsgSize, .received)

def StoresIn (stores : List (SandboxAddress × UInt8)) (place : UInt64 → Prop) : Prop :=
  ∀ store ∈ stores, place store.1.val

instance (stores : List (SandboxAddress × UInt8)) (place : UInt64 → Prop) [DecidablePred place] :
    Decidable (StoresIn stores place) :=
  List.decidableBAll (fun store : SandboxAddress × UInt8 => place store.1.val) stores

@[simp] theorem storesIn_nil (place : UInt64 → Prop) : StoresIn [] place := by simp [StoresIn]

/-- `task_b` stores to its stack, where it leaves `recv_buf` to the kernel, and sets the flag before
the crash. -/
def Image.TaskBStores (mem : Memory) (stores : List (SandboxAddress × UInt8)) (call : Call) : Prop :=
  (StoresIn stores fun address => el0TaskBStackBottom ≤ address ∧ address < el0TaskBStackTop ∧
      (address < img.recvBufB ∨ img.recvBufB + ipcMsgSize ≤ address) ∨
    call = .brk ∧ img.crashedOnce ≤ address ∧ address < img.crashedOnce + 4) ∧
  (call = .brk → readBytes (userStores stores mem) img.crashedOnce 4 = [1, 0, 0, 0])

instance (mem : Memory) (stores : List (SandboxAddress × UInt8)) (call : Call) :
    Decidable (img.TaskBStores mem stores call) := inferInstanceAs (Decidable (_ ∧ _))

/-! ## `task_c` -/

/-- The points of `__el0_task_c_entry`: the last two belong to the latency build, the others to the
supervisor. -/
inductive TaskC
  | entry
  | wrote
  | waited
  | restarted
  | received
  | replied
  deriving DecidableEq, Repr

def el0TaskCEntry (x0 : UInt64) : TaskC → Call × TaskC
  | .entry =>
      match cfg.mode with
      | .off => (el0WriteRet img.supReadyMsg (.ofNat supReadyMsg.length), .wrote)
      | .recovery => (el0SuperviseWait, .waited)
      | .latency => (el0IpcRecv 2 img.recvBufC ipcMsgSize, .received)
  | .wrote => (el0SuperviseWait, .waited)
  | .waited =>
      if x0 = slotTaskB.u32.toUInt64 then (el0TaskRestart slotTaskB.u32.toUInt64, .restarted)
      else (el0SuperviseWait, .waited)
  | .restarted =>
      if x0 = 0 ∧ cfg.mode = .off then
        (el0WriteRet img.supRestartedMsg (.ofNat supRestartedMsg.length), .wrote)
      else (el0SuperviseWait, .waited)
  | .received =>
      if x0 ≠ minusOne then (el0IpcReply 2 img.recvBufC x0, .replied)
      else (el0IpcRecv 2 img.recvBufC ipcMsgSize, .received)
  | .replied => (el0IpcRecv 2 img.recvBufC ipcMsgSize, .received)

/-- `task_c` runs the shipped program; the other tasks trap as they like with an ELR inside the
sandbox. -/
def supervised : Transition.Policy TaskC Machine Action where
  init := .entry
  next pc m a _ :=
    match m.phase, a with
    | .el0 regs, .trap _ tf =>
        if ¬ InSandbox tf.elr then none
        else if m.kernel.current = some slotTaskC then
          if (el0TaskCEntry cfg img (regs.x 0) pc).1.Raises tf then
            some (el0TaskCEntry cfg img (regs.x 0) pc).2
          else none
        else some pc
    | _, _ => some pc

/-! ## A client of the UART -/

def OtherStack (address : UInt64) : Prop :=
  el0TaskCStackBottom ≤ address ∧ address < el0TaskCStackTop ∨
    el0TaskBStackBottom ≤ address ∧ address < el0TaskBStackTop

instance (address : UInt64) : Decidable (OtherStack address) := inferInstanceAs (Decidable (_ ∨ _))

/-- A client writes buffers that `el0_write_range_ok` accepts, yields and reads the time. Neither its
stores nor its buffers touch the stacks of the other tasks. -/
def ClientTrap (stores : List (SandboxAddress × UInt8)) (tf : TrapFrame) : Prop :=
  tf.exceptionClass = 0x15 ∧ StoresIn stores (¬ OtherStack ·) ∧
    (tf.x 8 = sysYield ∨ tf.x 8 = sysTimeTicks ∨
      tf.x 8 = sysWrite ∧ el0WriteRangeOk (tf.x 0) (tf.x 1) ∧ tf.x 1 ≤ ipcMsgSize ∧
        ∀ i < (tf.x 1).toNat, ¬ OtherStack (tf.x 0 + .ofNat i))

instance (stores : List (SandboxAddress × UInt8)) (tf : TrapFrame) :
    Decidable (ClientTrap stores tf) := inferInstanceAs (Decidable (_ ∧ _ ∧ _))

/-- The points of the servers, the payloads of the client's writes, their results, whether its last
call was a write, and the calls of the UART driver made for its payloads. -/
structure Service where
  b : TaskB
  c : TaskC
  issued : List (List UInt8)
  returned : List UInt64
  writing : Bool
  emitted : List UartCall

def Machine.output (m m' : Machine) : List UartCall := m'.kernel.uart.drop m.kernel.uart.length

/-- A trap of the client, which sees in x0 the result of its last call. -/
def Service.client (p : Service) (x0 : UInt64) (mem : Memory) (tf : TrapFrame)
    (output : List UartCall) : Service :=
  { p with
    issued := if tf.x 8 = sysWrite then p.issued ++ [readBytes mem (tf.x 0) (tf.x 1)] else p.issued
    returned := if p.writing then p.returned ++ [x0] else p.returned
    writing := tf.x 8 = sysWrite
    emitted := p.emitted ++ output }

/-- A trap of `task_b`: its call after `received` writes a payload. -/
def Service.server (p : Service) (b : TaskB) (output : List UartCall) : Service :=
  { p with b := b, emitted := if b = .written then p.emitted ++ output else p.emitted }

def Service.results (p : Service) (x0 : UInt64) : List UInt64 :=
  p.returned ++ if p.writing then [x0] else []

def ClientRuns (m : Machine) : Prop :=
  (∃ regs, m.phase = .el0 regs) ∧ m.kernel.current = some slotTaskA

/-- `task_a` is a client of the UART, `task_b` and `task_c` run the shipped programs. -/
def serving : Transition.Policy Service Machine Action where
  init := { b := .entry, c := .entry, issued := [], returned := [], writing := false, emitted := [] }
  next p m a m' :=
    match m.phase, a with
    | .el0 regs, .trap stores tf =>
        let b := el0TaskBEntry cfg img m.kernel.mem (regs.x 0) p.b
        let c := el0TaskCEntry cfg img (regs.x 0) p.c
        if ¬ InSandbox tf.elr then none
        else if m.kernel.current = some slotTaskA then
          if ClientTrap stores tf then
            some (p.client (regs.x 0) (userStores stores m.kernel.mem) tf (m.output m'))
          else none
        else if m.kernel.current = some slotTaskB then
          if b.1.Raises tf ∧ img.TaskBStores m.kernel.mem stores b.1 then
            some (p.server b.2 (m.output m'))
          else none
        else if m.kernel.current = some slotTaskC then
          if c.1.Raises tf ∧ StoresIn stores fun address =>
              el0TaskCStackBottom ≤ address ∧ address < el0TaskCStackTop then
            some { p with c := c.2 }
          else none
        else none
    | _, _ => some p

/-! ## A client of the echo server -/

/-- `task_c` of the latency build stores to its stack, where it leaves `recv_buf` to the kernel. -/
def Image.TaskCStores (stores : List (SandboxAddress × UInt8)) : Prop :=
  StoresIn stores fun address => el0TaskCStackBottom ≤ address ∧ address < el0TaskCStackTop ∧
    (address < img.recvBufC ∨ img.recvBufC + ipcMsgSize ≤ address)

instance (stores : List (SandboxAddress × UInt8)) : Decidable (img.TaskCStores stores) :=
  inferInstanceAs (Decidable (StoresIn _ _))

/-- The buffers that a write or a call hands to the kernel, with their lengths. -/
def TrapFrame.buffers (tf : TrapFrame) : List (UInt64 × UInt64) :=
  if tf.exceptionClass ≠ 0x15 then []
  else if tf.x 8 = sysWrite then [(tf.x 0, tf.x 1)]
  else if tf.x 8 = sysIpcCall then [(tf.x 1, tf.x 2), (tf.x 3, tf.x 4)]
  else []

/-- Neither the stores of a task nor its buffers touch the stacks of the other tasks. -/
def KeepsOut (stores : List (SandboxAddress × UInt8)) (tf : TrapFrame) : Prop :=
  StoresIn stores (¬ OtherStack ·) ∧
    ∀ buffer ∈ tf.buffers, ∀ i < buffer.2.toNat, ¬ OtherStack (buffer.1 + .ofNat i)

instance (stores : List (SandboxAddress × UInt8)) (tf : TrapFrame) : Decidable (KeepsOut stores tf) :=
  have : Decidable (∀ buffer ∈ tf.buffers, ∀ i < buffer.2.toNat,
      ¬ OtherStack (buffer.1 + .ofNat i)) :=
    List.decidableBAll (fun buffer : UInt64 × UInt64 => ∀ i < buffer.2.toNat,
      ¬ OtherStack (buffer.1 + .ofNat i)) tf.buffers
  inferInstanceAs (Decidable (_ ∧ _))

/-- `el0_ipc_call` on `EP_BENCH`, with a message that fits and buffers that the kernel accepts. -/
def BenchCall (tf : TrapFrame) : Prop :=
  tf.exceptionClass = 0x15 ∧ tf.x 8 = sysIpcCall ∧ tf.x 0 = 2 ∧ tf.x 2 ≤ ipcMsgSize ∧
    el0BufRangeOk (tf.x 1) (tf.x 2) ∧ el0BufRangeOk (tf.x 3) (tf.x 4)

instance (tf : TrapFrame) : Decidable (BenchCall tf) := inferInstanceAs (Decidable (_ ∧ _))

/-- A call of the echo server: the frame of its trap and the kernel that finds it. -/
structure EchoRequest where
  tf : TrapFrame
  kernel : Kernel

/-- The points of the servers, and the last trap of `task_a` where it is a call of the echo server. -/
structure Echo where
  b : TaskB
  c : TaskC
  call : Option EchoRequest

/-- A trap of `task_a`, which finds the kernel `k`. -/
def Echo.client (p : Echo) (tf : TrapFrame) (k : Kernel) : Echo :=
  { p with call := if BenchCall tf then some ⟨tf, k⟩ else none }

/-- `task_a` traps as it likes, `task_b` and `task_c` run the shipped programs. -/
def echoing : Transition.Policy Echo Machine Action where
  init := { b := .entry, c := .entry, call := none }
  next p m a _ :=
    match m.phase, a with
    | .el0 regs, .trap stores tf =>
        let b := el0TaskBEntry cfg img m.kernel.mem (regs.x 0) p.b
        let c := el0TaskCEntry cfg img (regs.x 0) p.c
        if ¬ InSandbox tf.elr then none
        else if m.kernel.current = some slotTaskA then
          if KeepsOut stores tf then
            some (p.client tf (m.kernel.setMem (userStores stores m.kernel.mem)))
          else none
        else if m.kernel.current = some slotTaskB then
          if b.1.Raises tf ∧ img.TaskBStores m.kernel.mem stores b.1 then some { p with b := b.2 }
          else none
        else if m.kernel.current = some slotTaskC then
          if c.1.Raises tf ∧ img.TaskCStores stores then some { p with c := c.2 } else none
        else none
    | _, _ => some p

end ProtoOs
