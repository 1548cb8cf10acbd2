import ProtoOs.Proof.Attendance
import ProtoOs.Proof.Data

/-!
# The echo service

`task_c` of the latency build returns each message to `task_a`. `Answers` says what a call of
`task_a` on `EP_BENCH` still waits for, and `EchoOk` adds how far the two servers are.
-/

namespace ProtoOs

variable {L : Layout} {cfg : Config} {img : Image} {k k₁ k₂ k' : Kernel} {m m' : Machine} {t s : Slot}
  {e : EpId} {tf : TrapFrame} {a : Action} {o : Outcome} {x y xa xa' : UInt64} {p p' : Echo}
  {bytes : List UInt8} {d : Send} {call : Option EchoRequest} {msg msg' : Option (List UInt8)} {pt pt' : Point}
  {srv : Server} {stores : List (SandboxAddress × UInt8)} {xs : Slot → UInt64}

/-! ## The two servers -/

theorem Image.recvBufC_toNat (img : Image) {i : Nat} (below : i < 256) :
    (img.recvBufC + .ofNat i).toNat = img.recvBufC.toNat + i := by
  obtain ⟨_, high⟩ := img.recvBufC_stack
  have top : (el0TaskCStackTop - ipcMsgSize).toNat = 0x40FBFF00 := by decide
  rw [UInt64.le_iff_toNat_le, top] at high
  rw [UInt64.toNat_add, UInt64.toNat_ofNat', Nat.mod_eq_of_lt (a := i) (by omega)]
  exact Nat.mod_eq_of_lt (by omega)

theorem recvBufC_inside (img : Image) {i : Nat} (below : i < 256) :
    el0TaskCStackBottom ≤ img.recvBufC + .ofNat i ∧ img.recvBufC + .ofNat i < el0TaskCStackTop := by
  obtain ⟨low, high⟩ := img.recvBufC_stack
  have top : (el0TaskCStackTop - ipcMsgSize).toNat = 0x40FBFF00 := by decide
  have bottom : el0TaskCStackBottom.toNat = 0x40FA0000 := by decide
  have ends : el0TaskCStackTop.toNat = 0x40FC0000 := by decide
  have place := img.recvBufC_toNat below
  rw [UInt64.le_iff_toNat_le, top] at high
  rw [UInt64.le_iff_toNat_le, bottom] at low
  rw [UInt64.le_iff_toNat_le, UInt64.lt_iff_toNat_lt, place, bottom, ends]
  omega

def Image.uartServer (img : Image) : Server where
  slot := slotTaskB
  ep := epUart
  id := 1
  buf := img.recvBufB
  user := by decide
  other := by decide
  found := getEndpoint_uart
  range _ short := recvBufB_range short
  stack _ below := ProtoOs.recvBufB_stack below
  owner _ _ := rfl

def Image.echoServer (img : Image) : Server where
  slot := slotTaskC
  ep := epBench
  id := 2
  buf := img.recvBufC
  user := by decide
  other := by decide
  found := getEndpoint_bench
  range _ short := messageBuffer_range (UInt64.le_trans (by decide) img.recvBufC_stack.1)
    (UInt64.le_trans img.recvBufC_stack.2 (by decide)) short
  stack _ below := .inl (recvBufC_inside img below)
  owner _ mode := by rw [initialOwner, if_neg (by decide), if_pos ⟨rfl, mode⟩]

theorem uart_apart (img : Image) : img.uartServer.Apart img.echoServer where
  slot := (by decide : slotTaskB ≠ slotTaskC)
  ep := (by decide : epUart ≠ epBench)
  bufs _ belowB _ belowC same :=
    taskCStack_outside (recvBufC_inside img belowC).2 belowB same.symm

theorem echo_apart (img : Image) : img.echoServer.Apart img.uartServer where
  slot := (by decide : slotTaskC ≠ slotTaskB)
  ep := (by decide : epBench ≠ epUart)
  bufs _ belowC _ belowB := taskCStack_outside (recvBufC_inside img belowC).2 belowB

def TaskB.point : TaskB → Point
  | .entry | .ready | .replied => .ready
  | .received => .received
  | .written => .handled

def TaskC.point : TaskC → Point
  | .received => .received
  | _ => .ready

theorem recv_makes (srv : Server) (raises : (el0IpcRecv srv.id srv.buf ipcMsgSize).Raises tf)
    (start : pt = .ready ∨ pt = .received ∧ x = minusOne) : srv.Makes x tf pt .received :=
  .recv raises.asks (raises.arg 0 rfl) (raises.arg 1 rfl) (raises.arg 2 rfl) start

theorem taskB_makes {mem : Memory} {b : TaskB} (mode : cfg.mode = .latency)
    (raises : (el0TaskBEntry cfg img mem x b).1.Raises tf) :
    img.uartServer.Makes x tf b.point (el0TaskBEntry cfg img mem x b).2.point := by
  cases b with
  | entry =>
      simp only [el0TaskBEntry, mode] at raises ⊢
      exact recv_makes img.uartServer raises (.inl rfl)
  | ready => exact recv_makes img.uartServer raises (.inl rfl)
  | received =>
      by_cases failed : x = minusOne
      · simp only [el0TaskBEntry, failed, ne_eq, not_true_eq_false, if_false] at raises ⊢
        exact recv_makes img.uartServer raises (.inr ⟨rfl, rfl⟩)
      · simp only [el0TaskBEntry, ne_eq, failed, not_false_eq_true, if_true] at raises ⊢
        exact .write raises.asks
  | written =>
      exact .reply raises.asks (raises.arg 0 rfl) (raises.arg 1 rfl) (.inr ⟨rfl, raises.arg 2 rfl⟩)
  | replied =>
      simp only [el0TaskBEntry, mode, ne_eq, not_true_eq_false, false_and, if_false] at raises ⊢
      exact recv_makes img.uartServer raises (.inl rfl)

theorem taskC_makes {c : TaskC} (mode : cfg.mode = .latency) (echoes : c.Echoes)
    (raises : (el0TaskCEntry cfg img x c).1.Raises tf) :
    img.echoServer.Makes x tf c.point (el0TaskCEntry cfg img x c).2.point := by
  rcases echoes with rfl | rfl | rfl
  · simp only [el0TaskCEntry, mode] at raises ⊢
    exact recv_makes img.echoServer raises (.inl rfl)
  · by_cases failed : x = minusOne
    · simp only [el0TaskCEntry, failed, ne_eq, not_true_eq_false, if_false] at raises ⊢
      exact recv_makes img.echoServer raises (.inr ⟨rfl, rfl⟩)
    · simp only [el0TaskCEntry, ne_eq, failed, not_false_eq_true, if_true] at raises ⊢
      exact .reply raises.asks (raises.arg 0 rfl) (raises.arg 1 rfl) (.inl ⟨rfl, raises.arg 2 rfl⟩)
  · exact recv_makes img.echoServer raises (.inl rfl)

/-! ## A call of the echo server -/

def EchoRequest.count (call : EchoRequest) : UInt64 := minU64 (call.tf.x 2) (call.tf.x 4)

def TrapFrame.called (tf : TrapFrame) : Send := ⟨tf.x 1, tf.x 2, tf.x 3, tf.x 4, 0, false⟩

def EchoRequest.history (call : EchoRequest) : List Event :=
  call.kernel.log ++ [.accepted (call.kernel.newRequest slotTaskA epBench call.tf.called)]

/-- The call returned `min(send_len, reply_cap)`, the reply buffer starts with the bytes sent, and
otherwise the memory outside the stacks of the servers is as the call found it. -/
structure EchoRequest.Returned (call : EchoRequest) (k : Kernel) (xa : UInt64) : Prop where
  result : xa = call.count
  content : readBytes k.mem (call.tf.x 3) call.count =
    readBytes call.kernel.mem (call.tf.x 1) call.count
  frame : ∀ address, ¬ OtherStack address →
    (∀ i < call.count.toNat, address ≠ call.tf.x 3 + .ofNat i) →
      k.mem address = call.kernel.mem address

/-- What the last call still waits for, where x0 of `task_a` holds `xa` and the server has `msg` to
answer. -/
inductive Answers (k : Kernel) (xa : UInt64) : Option EchoRequest → Option (List UInt8) → Prop
  | nothing : Answers k xa none none
  | waiting {call : EchoRequest} (accepted : call.history <+: k.log)
      (ptr : (k.endpoints epBench).callerReplyPtr = call.tf.x 3)
      (cap : (k.endpoints epBench).callerReplyCap = call.tf.x 4)
      (override : (k.endpoints epBench).callerResultOverride = 0)
      (mem : ∀ address, ¬ OtherStack address → k.mem address = call.kernel.mem address) :
      Answers k xa (some call) (some (readBytes call.kernel.mem (call.tf.x 1) (call.tf.x 2)))
  | returned {call : EchoRequest} (accepted : call.history <+: k.log)
      (awake : (k.threads slotTaskA).user.state ≠ .blocked) (alive : (k.threads slotTaskA).user.state ≠ .dead)
      (apart : ∀ i < call.count.toNat, ¬ OtherStack (call.tf.x 3 + .ofNat i))
      (returned : call.Returned k xa) : Answers k xa (some call) none

structure KeepsCall (k k₁ : Kernel) : Prop where
  log : k.log <+: k₁.log
  ptr : (k₁.endpoints epBench).callerReplyPtr = (k.endpoints epBench).callerReplyPtr
  cap : (k₁.endpoints epBench).callerReplyCap = (k.endpoints epBench).callerReplyCap
  override : (k₁.endpoints epBench).callerResultOverride =
    (k.endpoints epBench).callerResultOverride
  mem : ∀ address, ¬ OtherStack address → k₁.mem address = k.mem address
  blocked : (k₁.threads slotTaskA).user.state = .blocked ↔
    (k.threads slotTaskA).user.state = .blocked
  dead : (k₁.threads slotTaskA).user.state = .dead ↔ (k.threads slotTaskA).user.state = .dead

theorem Answers.keeps (answers : Answers k xa call msg) (keeps : KeepsCall k k₁) :
    Answers k₁ xa call msg := by
  cases answers with
  | nothing => exact .nothing
  | waiting accepted ptr cap override mem =>
      exact .waiting (accepted.trans keeps.log) (keeps.ptr.trans ptr) (keeps.cap.trans cap)
        (keeps.override.trans override) fun address outside =>
          (keeps.mem address outside).trans (mem address outside)
  | returned accepted awake alive apart returned =>
      refine .returned (accepted.trans keeps.log) (mt keeps.blocked.mp awake) (mt keeps.dead.mp alive)
        apart ⟨returned.result, ?_, fun address outside others =>
          (keeps.mem address outside).trans (returned.frame address outside others)⟩
      rw [← returned.content]
      exact readBytes_congr fun i below => keeps.mem _ (apart i below)

theorem keepsCall_quiet (quiet : Quiet k k₁) (users : SameUsers k k₁) : KeepsCall k k₁ where
  log := quiet.log ▸ List.prefix_rfl
  ptr := by rw [quiet.endpoints]
  cap := by rw [quiet.endpoints]
  override := by rw [quiet.endpoints]
  mem _ _ := by rw [quiet.mem]
  blocked := users.blocked slotTaskA
  dead := users.dead slotTaskA

theorem keepsCall_stores (inside : StoresIn stores OtherStack) :
    KeepsCall k (k.setMem (userStores stores k.mem)) where
  log := List.prefix_rfl
  ptr := rfl
  cap := rfl
  override := rfl
  mem _ outside := userStores_outside fun store member same => outside (same ▸ inside store member)
  blocked := Iff.rfl
  dead := Iff.rfl

theorem Server.Acts.keepsCall (acts : srv.Acts k tf msg pt msg' pt' k' y)
    (attends : srv.Attends k x msg pt) (same : msg' = msg) : KeepsCall k k' := by
  have mem : ∀ address, ¬ OtherStack address → k'.mem address = k.mem address := by
    intro address outside
    refine acts.mem attends (fun i below here => outside (here ▸ srv.stack i below)) ?_
    intro held replied
    exact absurd (same.symm.trans replied) held
  have other := srv.other.symm
  cases acts with
  | take =>
      refine ⟨List.prefix_append _ _, ?_, ?_, ?_, mem, Iff.rfl, Iff.rfl⟩
      · simp only [Kernel.takePending, Kernel.modifyEndpoint_endpoints]
        by_cases here : epBench = srv.ep <;> simp [here]
      · simp only [Kernel.takePending, Kernel.modifyEndpoint_endpoints]
        by_cases here : epBench = srv.ep <;> simp [here]
      · simp only [Kernel.takePending, Kernel.modifyEndpoint_endpoints]
        by_cases here : epBench = srv.ep <;> simp [here]
  | listen =>
      refine ⟨List.prefix_rfl, ?_, ?_, ?_, mem, ?_, ?_⟩
      · by_cases here : epBench = srv.ep <;> simp [Kernel.leaveBlocked, Kernel.listen, here]
      · by_cases here : epBench = srv.ep <;> simp [Kernel.leaveBlocked, Kernel.listen, here]
      · by_cases here : epBench = srv.ep <;> simp [Kernel.leaveBlocked, Kernel.listen, here]
      · simp [Kernel.leaveBlocked, Kernel.listen, other]
      · simp [Kernel.leaveBlocked, Kernel.listen, other]
  | write prints =>
      rcases prints with rfl | rfl
      · exact ⟨List.prefix_rfl, rfl, rfl, rfl, mem, Iff.rfl, Iff.rfl⟩
      · exact ⟨List.prefix_rfl, rfl, rfl, rfl, mem, Iff.rfl, Iff.rfl⟩
  | answer => cases same

theorem Answers.answer (answers : Answers k xa call (some bytes))
    (attends : img.echoServer.Attends k x (some bytes) .received) :
    Answers (k.answer slotTaskC epBench img.recvBufC (.ofNat bytes.length) slotTaskA)
      (((k.answer slotTaskC epBench img.recvBufC (.ofNat bytes.length) slotTaskA).threads
        slotTaskA).user.ctx.x 0) call none := by
  cases attends with
  | delivered awaited _ _ _ content =>
  cases answers with
  | @waiting call accepted ptr cap override mem =>
      rw [payload_length] at content ⊢
      have apart : ∀ i < call.count.toNat, ¬ OtherStack (call.tf.x 3 + .ofNat i) := by
        intro i below
        have reply := awaited.reply i
        change i < (k.endpoints epBench).callerReplyCap.toNat →
          ¬ OtherStack ((k.endpoints epBench).callerReplyPtr + .ofNat i) at reply
        rw [ptr, cap] at reply
        exact reply (Nat.lt_of_lt_of_le below (minU64_le_right _ _))
      have sent : ∀ i < call.count.toNat, k.mem (img.recvBufC + .ofNat i) =
          call.kernel.mem (call.tf.x 1 + .ofNat i) := by
        intro i below
        refine List.map_inj_left.mp content i (List.mem_range.mpr ?_)
        exact Nat.lt_of_lt_of_le below (minU64_le_left _ _)
      have small : call.count.toNat ≤ 256 := by
        refine Nat.le_trans (minU64_le_left _ _) ?_
        have short := awaited.short
        rwa [readBytes_length] at short
      have copied : (k.answer slotTaskC epBench img.recvBufC (call.tf.x 2) slotTaskA).mem =
          if call.count > 0 then bytesCopy (call.tf.x 3) img.recvBufC call.count k.mem else k.mem := by
        simp only [Kernel.answer, Kernel.setResched_mem, Kernel.modifyEndpoint_mem, Kernel.record_mem,
          Kernel.wake_mem, Kernel.copyUser_mem, ptr, cap]
        rfl
      refine .returned (accepted.trans ?_) ?_ ?_ apart ⟨?_, ?_, ?_⟩
      · simp [Kernel.answer]
      · simp [Kernel.answer, Thread.wake]
      · simp [Kernel.answer, Thread.wake]
      · simp [Kernel.answer, Thread.wake, Kernel.replyResult, override, cap, EchoRequest.count]
      · refine List.map_congr_left fun i member => ?_
        have below : i < call.count.toNat := List.mem_range.mp member
        have some_ : call.count > 0 := UInt64.lt_iff_toNat_lt.mpr (Nat.zero_lt_of_lt below)
        have disjoint : ∀ i < call.count.toNat, ∀ j < call.count.toNat,
            img.recvBufC + .ofNat i ≠ call.tf.x 3 + .ofNat j := by
          intro i belowI j belowJ same
          refine apart j belowJ ?_
          rw [← same]
          exact img.echoServer.stack i (Nat.lt_of_lt_of_le belowI small)
        rw [copied, if_pos some_, bytesCopy_at disjoint below, sent i below]
      · intro address outside others
        rw [copied, ← mem address outside]
        split
        · exact Bytes.storeLoop_outside others
        · rfl

/-! ## The state of the service -/

structure EchoOk (img : Image) (k : Kernel) (xs : Slot → UInt64) (p : Echo) : Prop where
  echoes : p.c.Echoes
  uart : ∃ msg, img.uartServer.Attends k (xs slotTaskB) msg p.b.point ∧ (p.call ≠ none → msg = none)
  bench : ∃ msg, img.echoServer.Attends k (xs slotTaskC) msg p.c.point ∧
    Answers k (xs slotTaskA) p.call msg
  aliveB : (k.threads slotTaskB).user.state ≠ .dead
  aliveC : (k.threads slotTaskC).user.state ≠ .dead
  unsupervised : k.blockedSupervisorSlot = slotNone

theorem EchoOk.keeps (ok : EchoOk img k xs p) (uart : img.uartServer.Keeps k k₁)
    (echo : img.echoServer.Keeps k k₁) (call : KeepsCall k k₁)
    (supervisor : k₁.blockedSupervisorSlot = k.blockedSupervisorSlot) : EchoOk img k₁ xs p := by
  obtain ⟨msgB, attendsB, idle⟩ := ok.uart
  obtain ⟨msgC, attendsC, answers⟩ := ok.bench
  exact ⟨ok.echoes, ⟨msgB, attendsB.keeps uart, idle⟩,
    ⟨msgC, attendsC.keeps echo, answers.keeps call⟩, mt uart.dead.mp ok.aliveB,
    mt echo.dead.mp ok.aliveC, supervisor.trans ok.unsupervised⟩

/-! A trap of `task_a`. -/

theorem BenchCall.sends (bench : BenchCall tf) (cfg : Config) :
    Sends cfg slotTaskA tf epBench tf.called :=
  .call ⟨bench.1, bench.2.1⟩ (bench.2.2.1 ▸ getEndpoint_bench) bench.2.2.2.2.2

theorem BenchCall.accepted (bench : BenchCall tf) (kernel : KernelOk L cfg k none)
    (mode : cfg.mode = .latency) (attends : img.echoServer.Attends k x none pt) :
    Accepts k epBench tf.called where
  length := bench.2.2.2.1
  owned := by
    have owner : (k.endpoints epBench).ownerSlot = slotTaskC.u32 := img.echoServer.owns kernel mode
    rw [owner]
    exact Slot.u32_ne_none _
  range := bench.2.2.2.2.1
  quiet := attends.free.2
  free := attends.free.1

theorem getEndpoint_eq_bench {id : UInt64} (found : getEndpoint id = some epBench) : id = 2 := by
  simp only [getEndpoint] at found
  split at found
  · rename_i valid
    have value : id.toNat = 2 := congrArg Fin.val (Option.some_inj.mp found)
    exact UInt64.toNat_inj.mp value
  · cases found

theorem benchCall_of_sends (sends : Sends cfg slotTaskA tf e d) (accepts : Accepts k e d)
    (bench : e = epBench) : BenchCall tf ∧ d = tf.called := by
  cases sends with
  | call asks found reply =>
      have id : tf.x 0 = 2 := getEndpoint_eq_bench (bench ▸ found)
      exact ⟨⟨asks.svc, asks.number, id, accepts.length, accepts.range, reply⟩, rfl⟩
  | route => exact absurd bench (by decide)

theorem Accepts.endpoint (accepts : Accepts k e d) (kernel : KernelOk L cfg k none) :
    e = epUart ∨ e = epBench := by
  have owned := accepts.owned
  rw [kernel.owners] at owned
  by_contra neither
  obtain ⟨uart, bench⟩ := not_or.mp neither
  exact owned (by simp [initialOwner, uart, bench])

theorem Hands.alive (hands : Hands k e d k₁) (other : s ≠ slotTaskA)
    (alive : (k.threads s).user.state ≠ .dead) (tf : TrapFrame) :
    ((k₁.leaveBlocked slotTaskA tf).threads s).user.state ≠ .dead := by
  cases hands with
  | park => simpa [Kernel.leaveBlocked, Kernel.parkRequest, Kernel.registerCaller, other] using alive
  | @handOver u =>
      by_cases woken : s = u
      · subst woken
        simp [Kernel.leaveBlocked, Kernel.handOver, Thread.wake, other]
      · simpa [Kernel.leaveBlocked, Kernel.handOver, Kernel.registerCaller, other, woken] using alive

theorem Hands.waiting (hands : Hands k epBench tf.called k₁)
    (mem : ∀ address, ¬ OtherStack address → k₁.mem address = k.mem address) :
    Answers (k₁.leaveBlocked slotTaskA tf) xa (some ⟨tf, k⟩)
      (some (readBytes k.mem (tf.x 1) (tf.x 2))) := by
  cases hands with
  | park =>
      refine @Answers.waiting _ _ ⟨tf, k⟩ List.prefix_rfl ?_ ?_ ?_ mem
      · simp [Kernel.leaveBlocked, Kernel.parkRequest, Kernel.registerCaller, TrapFrame.called]
      · simp [Kernel.leaveBlocked, Kernel.parkRequest, Kernel.registerCaller, TrapFrame.called]
      · simp [Kernel.leaveBlocked, Kernel.parkRequest, Kernel.registerCaller, TrapFrame.called]
  | handOver =>
      refine @Answers.waiting _ _ ⟨tf, k⟩ ?_ ?_ ?_ ?_ mem
      · simp [Kernel.leaveBlocked, Kernel.handOver, Kernel.registerCaller, EchoRequest.history]
      · simp [Kernel.leaveBlocked, Kernel.handOver, Kernel.registerCaller, TrapFrame.called]
      · simp [Kernel.leaveBlocked, Kernel.handOver, Kernel.registerCaller, TrapFrame.called]
      · simp [Kernel.leaveBlocked, Kernel.handOver, Kernel.registerCaller, TrapFrame.called]

theorem Echo.client_bench (p : Echo) (bench : BenchCall tf) (k : Kernel) :
    (p.client tf k).call = some ⟨tf, k⟩ := if_pos bench

theorem Echo.client_other (p : Echo) (other : ¬ BenchCall tf) (k : Kernel) :
    (p.client tf k).call = none := if_neg other

theorem keepsOut_outside (keeps : KeepsOut stores tf) (srv : Server) :
    ∀ store ∈ stores, ∀ i < 256, store.1.val ≠ srv.buf + .ofNat i :=
  fun store member i below same => keeps.1 store member (same ▸ srv.stack i below)

theorem EchoOk.client (ok : EchoOk img k xs p) (mode : cfg.mode = .latency)
    (saved : ∀ s, s ≠ slotTaskA → xs s = (k.threads s).user.ctx.x 0) (keeps : KeepsOut stores tf)
    (kernel : KernelOk L cfg (k.setMem (userStores stores k.mem)) none)
    (active : Active (k.setMem (userStores stores k.mem)) slotTaskA)
    (acts : ClientActs cfg (k.setMem (userStores stores k.mem)) tf k') {xs' : Slot → UInt64}
    (saved' : ∀ s, s ≠ slotTaskA → xs' s = (k'.threads s).user.ctx.x 0) :
    EchoOk img k' xs' (p.client tf (k.setMem (userStores stores k.mem))) := by
  have clientB : slotTaskB ≠ slotTaskA := by decide
  have clientC : slotTaskC ≠ slotTaskA := by decide
  obtain ⟨msgB, attendsB, _⟩ := ok.uart
  obtain ⟨msgC, attendsC, _⟩ := ok.bench
  rw [saved _ clientB] at attendsB
  rw [saved _ clientC] at attendsC
  have storedB : img.uartServer.Attends (k.setMem (userStores stores k.mem))
      (((k.setMem (userStores stores k.mem)).threads slotTaskB).user.ctx.x 0) msgB p.b.point :=
    attendsB.keeps (Server.keeps_stores (keepsOut_outside keeps img.uartServer))
  have storedC : img.echoServer.Attends (k.setMem (userStores stores k.mem))
      (((k.setMem (userStores stores k.mem)).threads slotTaskC).user.ctx.x 0) msgC p.c.point :=
    attendsC.keeps (Server.keeps_stores (keepsOut_outside keeps img.echoServer))
  have aliveB : ((k.setMem (userStores stores k.mem)).threads slotTaskB).user.state ≠ .dead := ok.aliveB
  have aliveC : ((k.setMem (userStores stores k.mem)).threads slotTaskC).user.state ≠ .dead := ok.aliveC
  have unsupervised : (k.setMem (userStores stores k.mem)).blockedSupervisorSlot = slotNone :=
    ok.unsupervised
  clear attendsB attendsC
  generalize k.setMem (userStores stores k.mem) = k₀ at *
  cases storedB.none_of_active kernel active
  cases storedC.none_of_active kernel active
  cases acts with
  | aside declines threads endpoints mem supervisor =>
      have quiet : ¬ BenchCall tf := fun bench =>
        declines _ _ (bench.sends cfg) (bench.accepted kernel mode storedC)
      have keepsB : img.uartServer.Keeps k₀ k' :=
        .of_thread (by rw [endpoints]) (fun _ _ => by rw [mem]) (threads slotTaskB clientB)
      have keepsC : img.echoServer.Keeps k₀ k' :=
        .of_thread (by rw [endpoints]) (fun _ _ => by rw [mem]) (threads slotTaskC clientC)
      refine ⟨ok.echoes, ⟨none, ?_, fun _ => rfl⟩, ⟨none, ?_, ?_⟩, mt keepsB.dead.mp aliveB,
        mt keepsC.dead.mp aliveC, supervisor⟩
      · rw [saved' _ clientB, threads _ clientB]
        exact storedB.keeps keepsB
      · rw [saved' _ clientC, threads _ clientC]
        exact storedC.keeps keepsC
      · rw [p.client_other quiet]
        exact .nothing
  | @sends e d k₁ sends accepts hands =>
      have outside := keeps.send sends
      have supervisor : (k₁.leaveBlocked slotTaskA tf).blockedSupervisorSlot = slotNone := by
        cases hands
        all_goals exact unsupervised
      have awakeB := hands.alive clientB aliveB tf
      have awakeC := hands.alive clientC aliveC tf
      rcases accepts.endpoint kernel with rfl | rfl
      · have quiet : ¬ BenchCall tf := fun bench =>
          absurd (sends.unique (bench.sends cfg)).1 (by decide)
        obtain ⟨keepsC, same⟩ := storedB.sent_elsewhere kernel mode (echo_apart img) hands tf
        have uart : img.uartServer.Attends (k₁.leaveBlocked slotTaskA tf) (xs' slotTaskB)
            (some (readBytes k₀.mem d.ptr d.len)) p.b.point := by
          rw [saved' _ clientB]
          exact storedB.sent kernel mode accepts outside hands
        have bench : img.echoServer.Attends (k₁.leaveBlocked slotTaskA tf) (xs' slotTaskC) none
            p.c.point := by
          rw [saved' _ clientC, show (k₁.leaveBlocked slotTaskA tf).threads slotTaskC = _ from same]
          exact storedC.keeps keepsC
        refine ⟨ok.echoes, ⟨_, uart, fun busy => absurd (p.client_other quiet _) busy⟩, ⟨none, bench, ?_⟩, awakeB,
          awakeC, supervisor⟩
        rw [p.client_other quiet]
        exact .nothing
      · obtain ⟨call, rfl⟩ := benchCall_of_sends sends accepts rfl
        obtain ⟨keepsB, same⟩ := storedC.sent_elsewhere kernel mode (uart_apart img) hands tf
        have mem : ∀ address, ¬ OtherStack address → k₁.mem address = k₀.mem address :=
          fun address out => storedC.sent_mem kernel mode hands fun i below here =>
            out (here ▸ img.echoServer.stack i below)
        have uart : img.uartServer.Attends (k₁.leaveBlocked slotTaskA tf) (xs' slotTaskB) none
            p.b.point := by
          rw [saved' _ clientB, show (k₁.leaveBlocked slotTaskA tf).threads slotTaskB = _ from same]
          exact storedB.keeps keepsB
        have bench : img.echoServer.Attends (k₁.leaveBlocked slotTaskA tf) (xs' slotTaskC)
            (some (readBytes k₀.mem (tf.x 1) (tf.x 2))) p.c.point := by
          rw [saved' _ clientC]
          exact storedC.sent kernel mode accepts outside hands
        refine ⟨ok.echoes, ⟨none, uart, fun _ => rfl⟩, ⟨_, bench, ?_⟩, awakeB, awakeC, supervisor⟩
        rw [p.client_bench call]
        exact hands.waiting mem

/-! A trap of a server. -/

theorem EchoOk.uart_acts {b' : TaskB} (ok : EchoOk img k xs p) (active : Active k slotTaskB)
    (saved : ∀ s, s ≠ slotTaskB → xs s = (k.threads s).user.ctx.x 0)
    {xs' : Slot → UInt64} (saved' : ∀ s, s ≠ slotTaskB → xs' s = (k'.threads s).user.ctx.x 0)
    (acts : ∀ msg, img.uartServer.Attends k (xs slotTaskB) msg p.b.point →
      ∃ msg', img.uartServer.Acts k tf msg p.b.point msg' b'.point k' (xs' slotTaskB)) :
    EchoOk img k' xs' { p with b := b' } := by
  obtain ⟨msg, attends, idle⟩ := ok.uart
  obtain ⟨msgC, attendsC, answers⟩ := ok.bench
  obtain ⟨msg', acts⟩ := acts msg attends
  obtain ⟨keepsC, threadC⟩ := acts.keeps attends (echo_apart img)
  have same (busy : p.call ≠ none) : msg' = msg := by
    rcases acts.same_or_answer with same | ⟨_, bytes, _, here, _⟩
    · exact same
    · cases (idle busy).symm.trans here
  refine ⟨ok.echoes, ⟨msg', acts.attends attends active, fun busy => (same busy).trans (idle busy)⟩,
    ⟨msgC, ?_, ?_⟩, acts.alive active, mt keepsC.dead.mp ok.aliveC,
    acts.supervisor.trans ok.unsupervised⟩
  · have register : xs' slotTaskC = xs slotTaskC := by
      rw [saved slotTaskC (by decide), saved' slotTaskC (by decide),
        show k'.threads slotTaskC = k.threads slotTaskC from threadC]
    rw [register]
    exact attendsC.keeps keepsC
  · by_cases busy : p.call = none
    · rw [busy] at answers ⊢
      cases answers
      exact .nothing
    · have register : xs' slotTaskA = xs slotTaskA := by
        rw [saved slotTaskA (by decide), saved' slotTaskA (by decide), acts.client (same busy)]
      rw [register]
      exact answers.keeps (acts.keepsCall attends (same busy))

theorem EchoOk.echo_acts {c' : TaskC} (ok : EchoOk img k xs p) (active : Active k slotTaskC)
    (saved : ∀ s, s ≠ slotTaskC → xs s = (k.threads s).user.ctx.x 0)
    {xs' : Slot → UInt64} (saved' : ∀ s, s ≠ slotTaskC → xs' s = (k'.threads s).user.ctx.x 0)
    (echoes : c'.Echoes)
    (acts : ∀ msg, img.echoServer.Attends k (xs slotTaskC) msg p.c.point →
      ∃ msg', img.echoServer.Acts k tf msg p.c.point msg' c'.point k' (xs' slotTaskC)) :
    EchoOk img k' xs' { p with c := c' } := by
  obtain ⟨msgB, attendsB, idle⟩ := ok.uart
  obtain ⟨msg, attends, answers⟩ := ok.bench
  obtain ⟨msg', acts⟩ := acts msg attends
  obtain ⟨keepsB, threadB⟩ := acts.keeps attends (uart_apart img)
  refine ⟨echoes, ⟨msgB, ?_, idle⟩, ⟨msg', acts.attends attends active, ?_⟩,
    mt keepsB.dead.mp ok.aliveB, acts.alive active, acts.supervisor.trans ok.unsupervised⟩
  · have register : xs' slotTaskB = xs slotTaskB := by
      rw [saved slotTaskB (by decide), saved' slotTaskB (by decide),
        show k'.threads slotTaskB = k.threads slotTaskB from threadB]
    rw [register]
    exact attendsB.keeps keepsB
  · rcases acts.same_or_answer with same | ⟨rfl, bytes, len, rfl, length, rfl⟩
    · have register : xs' slotTaskA = xs slotTaskA := by
        rw [saved slotTaskA (by decide), saved' slotTaskA (by decide), acts.client same]
      rw [register, same]
      exact answers.keeps (acts.keepsCall attends same)
    · rcases length with ⟨received, rfl⟩ | ⟨handled, _⟩
      · rw [saved' slotTaskA (by decide)]
        rw [received] at attends
        exact answers.answer attends
      · -- `task_c` writes nothing
        cases point : p.c with
        | received | entry | wrote | waited | restarted | replied =>
            rw [point] at handled
            cases handled

end ProtoOs
