import ProtoOs.Kernel.Programs
import ProtoOs.Proof.Calls
import ProtoOs.Proof.Copies
import ProtoOs.Proof.Schedule
import ProtoOs.Proof.UserAccess
import ProtoOs.Proof.WaitRegistration

/-!
# The UART service

A write of `task_a` goes through the stages of `Stage`, whether it waits in `pending_msg` or meets
a blocked receiver. `Relays` accounts for the payloads emitted and the results returned.
-/

namespace ProtoOs

variable {L : Layout} {cfg : Config} {img : Image} {k k₁ k₂ : Kernel} {m m' : Machine} {t s : Slot}
  {tf : TrapFrame} {a : Action} {o : Outcome} {p p' : Service} {b b' : TaskB} {xa xb : UInt64}
  {payload : List UInt8}

/-! ## Stages -/

inductive Stage
  | idle
  | pending (payload : List UInt8)
  | delivered (payload : List UInt8)
  | written (payload : List UInt8)

def Stage.outstanding : Stage → List (List UInt8)
  | .pending payload | .delivered payload => [payload]
  | _ => []

/-- What the last write returns, where x0 of `task_a` holds `xa`. -/
def Stage.result (xa : UInt64) : Stage → UInt64
  | .idle => xa
  | .pending payload | .delivered payload | .written payload => .ofNat payload.length

@[simp] theorem Stage.result_idle : Stage.result xa .idle = xa := rfl

structure Calling (k : Kernel) (payload : List UInt8) : Prop where
  caller : (k.endpoints epUart).blockedCallerSlot = slotTaskA.i32
  result : (k.endpoints epUart).callerResultOverride = .ofNat payload.length
  cap : (k.endpoints epUart).callerReplyCap = 0
  blocked : (k.threads slotTaskA).user.state = .blocked
  short : payload.length ≤ 256

inductive Resting (img : Image) (k : Kernel) : TaskB → Prop
  | entry (awake : (k.threads slotTaskB).user.state ≠ .blocked) : Resting img k .entry
  | ready (awake : (k.threads slotTaskB).user.state ≠ .blocked)
      (alive : (k.threads slotTaskB).user.state ≠ .dead) : Resting img k .ready
  | received (blocked : (k.threads slotTaskB).user.state = .blocked)
      (receiver : (k.endpoints epUart).blockedReceiverSlot = slotTaskB.i32)
      (buffer : (k.endpoints epUart).receiverBufPtr = img.recvBufB)
      (cap : (k.endpoints epUart).receiverBufCap = ipcMsgSize) : Resting img k .received
  | replied (running : (k.threads slotTaskB).user.state = .running) : Resting img k .replied

inductive At (img : Image) (k : Kernel) (xb : UInt64) : Stage → TaskB → Prop
  | idle {b : TaskB} (free : (k.endpoints epUart).blockedCallerSlot = slotNone)
      (empty : (k.endpoints epUart).hasPending = false)
      (awake : (k.threads slotTaskA).user.state ≠ .blocked) (resting : Resting img k b) :
      At img k xb .idle b
  | pending {payload : List UInt8} {b : TaskB} (calling : Calling k payload)
      (full : (k.endpoints epUart).hasPending = true)
      (length : (k.endpoints epUart).pendingLen = .ofNat payload.length)
      (content : (List.range payload.length).map (k.endpoints epUart).pendingMsg = payload)
      (awake : (k.threads slotTaskB).user.state ≠ .blocked)
      (starting : b = .entry ∨ b = .ready ∧ (k.threads slotTaskB).user.state ≠ .dead) :
      At img k xb (.pending payload) b
  | delivered {payload : List UInt8} (calling : Calling k payload)
      (empty : (k.endpoints epUart).hasPending = false)
      (awake : (k.threads slotTaskB).user.state ≠ .blocked)
      (alive : (k.threads slotTaskB).user.state ≠ .dead) (told : xb = .ofNat payload.length)
      (content : readBytes k.mem img.recvBufB (.ofNat payload.length) = payload) :
      At img k xb (.delivered payload) .received
  | written {payload : List UInt8} (calling : Calling k payload)
      (empty : (k.endpoints epUart).hasPending = false)
      (awake : (k.threads slotTaskB).user.state ≠ .blocked)
      (alive : (k.threads slotTaskB).user.state ≠ .dead) : At img k xb (.written payload) .written

structure Accounts (stage : Stage) (xa : UInt64) (p : Service) : Prop where
  emitted : p.issued.map UartCall.write = p.emitted ++ stage.outstanding.map UartCall.write
  returned : p.issued.map (fun payload => UInt64.ofNat payload.length) =
    p.returned ++ if p.writing then [stage.result xa] else []
  writing : stage ≠ .idle → p.writing = true
  short : ∀ payload ∈ p.issued, payload.length ≤ 256

/-- The state of the service, where x0 of `task_a` and of `task_b` hold `xa` and `xb`. -/
structure Relays (cfg : Config) (img : Image) (k : Kernel) (xa xb : UInt64) (p : Service) : Prop where
  stage : ∃ stage, At img k xb stage p.b ∧ Accounts stage xa p
  bench : (k.endpoints epBench).hasPending = false ∧
    (k.endpoints epBench).blockedCallerSlot = slotNone
  client : (k.threads slotTaskA).user.state ≠ .dead
  server : cfg.mode = .latency → (k.threads slotTaskB).user.state ≠ .dead

/-! ## Steps that take no part in the service -/

structure Bystands (img : Image) (k k₁ : Kernel) : Prop where
  endpoint : k₁.endpoints epUart = k.endpoints epUart
  bench : (k₁.endpoints epBench).hasPending = (k.endpoints epBench).hasPending ∧
    (k₁.endpoints epBench).blockedCallerSlot = (k.endpoints epBench).blockedCallerSlot
  content : ∀ i < 256, k₁.mem (img.recvBufB + .ofNat i) = k.mem (img.recvBufB + .ofNat i)
  ctx : (k₁.threads slotTaskA).user.ctx = (k.threads slotTaskA).user.ctx
  client : ((k₁.threads slotTaskA).user.state = .blocked ↔
      (k.threads slotTaskA).user.state = .blocked) ∧
    ((k₁.threads slotTaskA).user.state = .dead ↔ (k.threads slotTaskA).user.state = .dead)
  blocked : (k₁.threads slotTaskB).user.state = .blocked ↔
    (k.threads slotTaskB).user.state = .blocked
  alive : (k.threads slotTaskB).user.state ≠ .dead →
    (k₁.threads slotTaskB).user.state ≠ .dead ∧
      (k₁.threads slotTaskB).user.ctx = (k.threads slotTaskB).user.ctx
  running : (k.threads slotTaskB).user.state = .running →
    (k₁.threads slotTaskB).user.state = .running

theorem Bystands.trans (first : Bystands img k k₁) (second : Bystands img k₁ k₂) :
    Bystands img k k₂ where
  endpoint := second.endpoint.trans first.endpoint
  bench := ⟨second.bench.1.trans first.bench.1, second.bench.2.trans first.bench.2⟩
  content i below := (second.content i below).trans (first.content i below)
  ctx := second.ctx.trans first.ctx
  client := ⟨second.client.1.trans first.client.1, second.client.2.trans first.client.2⟩
  blocked := second.blocked.trans first.blocked
  alive live :=
    have ⟨live₁, ctx₁⟩ := first.alive live
    have ⟨live₂, ctx₂⟩ := second.alive live₁
    ⟨live₂, ctx₂.trans ctx₁⟩
  running before := second.running (first.running before)

theorem bystands_of_threads (client : k₁.threads slotTaskA = k.threads slotTaskA)
    (server : k₁.threads slotTaskB = k.threads slotTaskB)
    (endpoint : k₁.endpoints epUart = k.endpoints epUart)
    (bench : (k₁.endpoints epBench).hasPending = (k.endpoints epBench).hasPending ∧
      (k₁.endpoints epBench).blockedCallerSlot = (k.endpoints epBench).blockedCallerSlot)
    (mem : k₁.mem = k.mem) : Bystands img k k₁ where
  endpoint := endpoint
  bench := bench
  content _ _ := by rw [mem]
  ctx := by rw [client]
  client := by rw [client]; exact ⟨Iff.rfl, Iff.rfl⟩
  blocked := by rw [server]
  alive live := by rw [server]; exact ⟨live, rfl⟩
  running before := by rw [server]; exact before

theorem quiet_bystands (quiet : Quiet k k₁) (users : SameUsers k k₁) : Bystands img k k₁ where
  endpoint := by rw [quiet.endpoints]
  bench := by rw [quiet.endpoints]; exact ⟨rfl, rfl⟩
  content _ _ := by rw [quiet.mem]
  ctx := users.ctx slotTaskA
  client := ⟨users.blocked slotTaskA, users.dead slotTaskA⟩
  blocked := users.blocked slotTaskB
  alive live := ⟨mt (users.dead slotTaskB).mp live, users.ctx slotTaskB⟩
  running before := by
    rcases users.state slotTaskB with same | ⟨_, entered⟩
    · exact same.trans before
    · exact entered

theorem stores_bystand {stores : List (SandboxAddress × UInt8)}
    (outside : ∀ store ∈ stores, ∀ i < 256, store.1.val ≠ img.recvBufB + .ofNat i) :
    Bystands img k (k.setMem (userStores stores k.mem)) where
  endpoint := rfl
  bench := ⟨rfl, rfl⟩
  content i below := userStores_outside fun store member => outside store member i below
  ctx := rfl
  client := ⟨Iff.rfl, Iff.rfl⟩
  blocked := Iff.rfl
  alive live := ⟨live, rfl⟩
  running := id

theorem Calling.bystands (calling : Calling k payload) (same : Bystands img k k₁) :
    Calling k₁ payload := by
  refine ⟨?_, ?_, ?_, same.client.1.mpr calling.blocked, calling.short⟩
  all_goals rw [same.endpoint]
  · exact calling.caller
  · exact calling.result
  · exact calling.cap

theorem Resting.bystands (resting : Resting img k b) (same : Bystands img k k₁) :
    Resting img k₁ b := by
  cases resting with
  | entry awake => exact .entry (mt same.blocked.mp awake)
  | ready awake alive => exact .ready (mt same.blocked.mp awake) (same.alive alive).1
  | received blocked receiver buffer cap =>
      refine .received (same.blocked.mpr blocked) ?_ ?_ ?_
      all_goals rw [same.endpoint]
      · exact receiver
      · exact buffer
      · exact cap
  | replied running => exact .replied (same.running running)

theorem Resting.congr (resting : Resting img k b)
    (thread : k₁.threads slotTaskB = k.threads slotTaskB)
    (endpoint : k₁.endpoints epUart = k.endpoints epUart) : Resting img k₁ b := by
  cases resting with
  | entry awake => exact .entry (by rw [thread]; exact awake)
  | ready awake alive => exact .ready (by rw [thread]; exact awake) (by rw [thread]; exact alive)
  | received blocked receiver buffer cap =>
      exact .received (by rw [thread]; exact blocked) (by rw [endpoint]; exact receiver)
        (by rw [endpoint]; exact buffer) (by rw [endpoint]; exact cap)
  | replied running => exact .replied (by rw [thread]; exact running)

theorem content_of_bystands (same : Bystands img k k₁) (short : payload.length ≤ 256) :
    readBytes k₁.mem img.recvBufB (.ofNat payload.length) =
      readBytes k.mem img.recvBufB (.ofNat payload.length) := by
  apply readBytes_congr
  intro i below
  apply same.content i
  rw [UInt64.toNat_ofNat'] at below
  exact Nat.lt_of_lt_of_le (Nat.lt_of_lt_of_le below (Nat.mod_le _ _)) short

theorem At.bystands {stage : Stage} {xb' : UInt64} (at_ : At img k xb stage b)
    (same : Bystands img k k₁) (told : (k.threads slotTaskB).user.state ≠ .dead → xb' = xb) :
    At img k₁ xb' stage b := by
  cases at_ with
  | idle free empty awake resting =>
      exact .idle (by rw [same.endpoint]; exact free) (by rw [same.endpoint]; exact empty)
        (mt same.client.1.mp awake) (resting.bystands same)
  | pending calling full length content awake starting =>
      refine .pending (calling.bystands same) ?_ ?_ ?_ (mt same.blocked.mp awake)
        (starting.imp_right fun ⟨here, alive⟩ => ⟨here, (same.alive alive).1⟩)
      all_goals rw [same.endpoint]
      · exact full
      · exact length
      · exact content
  | delivered calling empty awake alive here content =>
      exact .delivered (calling.bystands same) (by rw [same.endpoint]; exact empty)
        (mt same.blocked.mp awake) (same.alive alive).1 ((told alive).trans here)
        ((content_of_bystands same calling.short).trans content)
  | written calling empty awake alive =>
      exact .written (calling.bystands same) (by rw [same.endpoint]; exact empty)
        (mt same.blocked.mp awake) (same.alive alive).1

theorem Relays.bystands {xb' : UInt64} (ok : Relays cfg img k xa xb p) (same : Bystands img k k₁)
    (told : (k.threads slotTaskB).user.state ≠ .dead → xb' = xb) :
    Relays cfg img k₁ xa xb' p := by
  obtain ⟨stage, at_, accounts⟩ := ok.stage
  refine ⟨⟨stage, at_.bystands same told, accounts⟩, ?_, mt same.client.2.mp ok.client,
    fun build => (same.alive (ok.server build)).1⟩
  rw [same.bench.1, same.bench.2]
  exact ok.bench

/-! ## `task_c` -/

def serverMessages (img : Image) : List (UInt64 × UInt64) :=
  [(img.uartReadyMsg, .ofNat uartReadyMsg.length), (img.supReadyMsg, .ofNat supReadyMsg.length),
    (img.supRestartedMsg, .ofNat supRestartedMsg.length)]

inductive TaskCCall (img : Image) (tf : TrapFrame) : Prop
  | write (asks : Asks tf sysWrite) (own : (tf.x 0, tf.x 1) ∈ serverMessages img)
  | wait (asks : Asks tf sysSuperviseWait)
  | restart (asks : Asks tf sysTaskRestart)
  | recv (asks : Asks tf sysIpcRecv) (bench : tf.x 0 = 2)
  | reply (asks : Asks tf sysIpcReply) (bench : tf.x 0 = 2)

theorem Call.Raises.asks {nr : UInt64} {args : List UInt64} (raises : (Call.svc nr args).Raises tf) :
    Asks tf nr :=
  ⟨raises.1, raises.2.1⟩

theorem Call.Raises.arg {nr arg : UInt64} {args : List UInt64}
    (raises : (Call.svc nr args).Raises tf) (i : Nat) (here : args[i]? = some arg) :
    tf.x (Fin.ofNat 31 i) = arg :=
  raises.2.2 (arg, i) (List.mem_zipIdx_iff_getElem?.mpr here)

theorem Call.Raises.writes {ptr len : UInt64} (raises : (el0WriteRet ptr len).Raises tf)
    (own : (ptr, len) ∈ serverMessages img) : (tf.x 0, tf.x 1) ∈ serverMessages img := by
  have buffer : tf.x 0 = ptr := raises.arg 0 rfl
  have length : tf.x 1 = len := raises.arg 1 rfl
  rw [buffer, length]
  exact own

theorem taskCCall {pc : TaskC} {x0 : UInt64} (raises : (el0TaskCEntry cfg img x0 pc).1.Raises tf) :
    TaskCCall img tf := by
  cases pc with
  | entry =>
      cases build : cfg.mode with
      | off =>
          simp only [el0TaskCEntry, build] at raises
          exact .write raises.asks (raises.writes (by simp [serverMessages]))
      | recovery =>
          simp only [el0TaskCEntry, build] at raises
          exact .wait raises.asks
      | latency =>
          simp only [el0TaskCEntry, build] at raises
          exact .recv raises.asks (raises.arg 0 rfl)
  | wrote => exact .wait raises.asks
  | waited =>
      simp only [el0TaskCEntry] at raises
      split at raises
      · exact .restart raises.asks
      · exact .wait raises.asks
  | restarted =>
      simp only [el0TaskCEntry] at raises
      split at raises
      · exact .write raises.asks (raises.writes (by simp [serverMessages]))
      · exact .wait raises.asks
  | received =>
      simp only [el0TaskCEntry] at raises
      split at raises
      · exact .reply raises.asks (raises.arg 0 rfl)
      · exact .recv raises.asks (raises.arg 0 rfl)
  | replied => exact .recv raises.asks (raises.arg 0 rfl)

theorem getEndpoint_bench : getEndpoint 2 = some epBench := by decide

theorem getEndpoint_uart : getEndpoint 1 = some epUart := by decide

theorem Effect.taskC_bystands (effect : Effect cfg k slotTaskC tf k₁ o) (call : TaskCCall img tf)
    (empty : (k.endpoints epBench).hasPending = false)
    (free : (k.endpoints epBench).blockedCallerSlot = slotNone) :
    Bystands img k k₁ ∧ ∀ reason, o = .away reason → reason = .ipcBlock ∨ reason = .notifyBlock := by
  have bench {e : EpId} (found : getEndpoint (tf.x 0) = some e) (here : tf.x 0 = 2) : e = epBench := by
    rw [here, getEndpoint_bench] at found
    exact (Option.some_inj.mp found).symm
  cases call with
  | write asks =>
      cases effect.of_write asks with
      | refused => exact ⟨bystands_of_threads rfl rfl rfl ⟨rfl, rfl⟩ rfl, by nofun⟩
      | direct => exact ⟨bystands_of_threads rfl rfl rfl ⟨rfl, rfl⟩ rfl, by nofun⟩
      | park _ client | handOver _ client => exact absurd rfl client.2
  | wait asks =>
      cases effect.of_wait asks with
      | refused => exact ⟨bystands_of_threads rfl rfl rfl ⟨rfl, rfl⟩ rfl, by nofun⟩
      | report => exact ⟨bystands_of_threads rfl rfl rfl ⟨rfl, rfl⟩ rfl, by nofun⟩
      | await => exact ⟨bystands_of_threads rfl rfl rfl ⟨rfl, rfl⟩ rfl, by rintro _ ⟨⟩; simp⟩
  | restart asks =>
      cases effect.of_restart asks with
      | refused => exact ⟨bystands_of_threads rfl rfl rfl ⟨rfl, rfl⟩ rfl, by nofun⟩
      | restart _ _ restartable =>
          have dead := restartable.dead
          have other : slotTaskA ≠ slotTaskB := by decide
          refine ⟨⟨rfl, ⟨rfl, rfl⟩, fun _ _ => rfl, ?_, ?_, ?_, fun live => absurd dead live, ?_⟩,
            by nofun⟩
          · simp [Kernel.restartTask, threadRequestResched, other]
          · simp [Kernel.restartTask, threadRequestResched, other]
          · simp [Kernel.restartTask, threadRequestResched, Thread.restart, userTaskInit, dead]
          · simp [dead]
  | recv asks here =>
      cases effect.of_recv asks with
      | refused => exact ⟨bystands_of_threads rfl rfl rfl ⟨rfl, rfl⟩ rfl, by nofun⟩
      | take found _ pending =>
          rw [bench found here, empty] at pending
          cases pending
      | listen found =>
          cases bench found here
          refine ⟨bystands_of_threads rfl rfl (listen_on.elsewhere epUart (by decide)) ?_ rfl,
            by rintro _ ⟨⟩; simp⟩
          simp [Kernel.listen]
  | reply asks here =>
      cases effect.of_reply asks with
      | refused => exact ⟨bystands_of_threads rfl rfl rfl ⟨rfl, rfl⟩ rfl, by nofun⟩
      | answer found _ _ _ waiting =>
          rw [bench found here, free] at waiting
          exact absurd waiting (Slot.none_ne_i32 _)

theorem leaves_bystands {reason : TaskReturnReason} (client : t ≠ slotTaskA) (server : t ≠ slotTaskB)
    (left : Left (k.saveFrame t tf reason) t reason k₁)
    (blocks : reason = .ipcBlock ∨ reason = .notifyBlock) : Bystands img k (k₁.setResched false) := by
  cases left.blocked blocks
  refine bystands_of_threads ?_ ?_ rfl ⟨rfl, rfl⟩ rfl
  · simp [client.symm]
  · simp [server.symm]

/-! ## The client -/

theorem At.alive (at_ : At img k xb (.delivered payload) b) :
    (k.threads slotTaskB).user.state ≠ .dead := by
  cases at_ with
  | delivered _ _ _ alive => exact alive

theorem Accounts.idle_of {stage : Stage} (at_ : At img k xb stage b)
    (awake : (k.threads slotTaskA).user.state ≠ .blocked) : stage = .idle := by
  cases at_ with
  | idle => rfl
  | pending calling | delivered calling | written calling => exact absurd calling.blocked awake

theorem Accounts.silent (accounts : Accounts .idle xa p) (other : tf.x 8 ≠ sysWrite) (mem : Memory)
    (xa' : UInt64) : Accounts .idle xa' (p.client xa mem tf []) := by
  have returned := accounts.returned
  refine ⟨?_, ?_, fun busy => absurd rfl busy, by simpa [Service.client, other] using accounts.short⟩
  · simpa [Service.client, other] using accounts.emitted
  · cases writing : p.writing with
    | true => simpa [Service.client, other, writing] using returned
    | false => simpa [Service.client, other, writing] using returned

theorem payload_length {mem : Memory} {ptr len : UInt64} :
    UInt64.ofNat (readBytes mem ptr len).length = len := by
  rw [readBytes_length, UInt64.ofNat_toNat]

theorem short_payload {mem : Memory} {ptr len : UInt64} (short : len ≤ ipcMsgSize) :
    (readBytes mem ptr len).length ≤ 256 := by
  rw [readBytes_length]
  exact UInt64.le_iff_toNat_le.mp short

theorem Accounts.issue {stage : Stage} {output : List UartCall} {mem : Memory} {xa' : UInt64}
    (accounts : Accounts .idle xa p) (write : tf.x 8 = sysWrite) (short : tf.x 1 ≤ ipcMsgSize)
    (output_eq : output ++ stage.outstanding.map .write = [.write (readBytes mem (tf.x 0) (tf.x 1))])
    (result : stage.result xa' = tf.x 1) : Accounts stage xa' (p.client xa mem tf output) := by
  refine ⟨?_, ?_, fun _ => by simp [Service.client, write], ?_⟩
  · have emitted := accounts.emitted
    simp only [Stage.outstanding, List.map_nil, List.append_nil] at emitted
    simp [Service.client, write, emitted, output_eq]
  · have returned := accounts.returned
    cases writing : p.writing with
    | true =>
        rw [writing] at returned
        simp [Service.client, write, writing, returned, result]
    | false =>
        rw [writing] at returned
        simp [Service.client, write, writing, returned, result]
  · simp only [Service.client, write, if_true]
    intro payload member
    rcases List.mem_append.mp member with earlier | now
    · exact accounts.short payload earlier
    · rw [List.mem_singleton.mp now]
      exact short_payload short

theorem KernelOk.uart_owner (ok : KernelOk L cfg k none) :
    (k.endpoints epUart).ownerSlot = slotTaskB.u32 := by
  rw [ok.owners, initialOwner, if_pos rfl]

theorem recvBufB_stack {i : Nat} (below : i < 256) : OtherStack (img.recvBufB + .ofNat i) := by
  obtain ⟨low, high⟩ := img.recvBufB_stack
  have top : (el0TaskBStackTop - ipcMsgSize).toNat = 0x40FFFF00 := by decide
  have bottom : el0TaskBStackBottom.toNat = 0x40FE0000 := by decide
  have ends : el0TaskBStackTop.toNat = 0x41000000 := by decide
  rw [UInt64.le_iff_toNat_le, top] at high
  rw [UInt64.le_iff_toNat_le, bottom] at low
  have place : (img.recvBufB + .ofNat i).toNat = img.recvBufB.toNat + i := by
    rw [UInt64.toNat_add, UInt64.toNat_ofNat', Nat.mod_eq_of_lt (a := i) (by omega)]
    exact Nat.mod_eq_of_lt (by omega)
  refine .inr ⟨?_, ?_⟩
  · rw [UInt64.le_iff_toNat_le, place, bottom]
    omega
  · rw [UInt64.lt_iff_toNat_lt, place, ends]
    omega

theorem uart_accepts (ok : KernelOk L cfg k none)
    (free : (k.endpoints epUart).blockedCallerSlot = slotNone)
    (empty : (k.endpoints epUart).hasPending = false) (range : el0WriteRangeOk (tf.x 0) (tf.x 1))
    (short : tf.x 1 ≤ ipcMsgSize) : Accepts k epUart tf.routed :=
  ⟨short, by rw [ok.uart_owner]; exact Slot.u32_ne_none _, range, empty, free⟩

theorem Relays.client_back {stores : List (SandboxAddress × UInt8)} {y : UInt64}
    (ok : Relays cfg img k xa ((k.threads slotTaskB).user.ctx.x 0) p) (kernel : KernelOk L cfg k none)
    (active : Active k slotTaskA) (trap : ClientTrap stores tf)
    (effect : Effect cfg k slotTaskA tf k₁ (.back y)) : ∃ output, k₁.uart = k.uart ++ output ∧
      Relays cfg img k₁ y ((k₁.threads slotTaskB).user.ctx.x 0) (p.client xa k.mem tf output) := by
  obtain ⟨stage, at_, accounts⟩ := ok.stage
  cases Accounts.idle_of at_ active.not_blocked
  obtain ⟨svc, _, calls⟩ := trap
  rcases calls with yields | ticks | ⟨write, range, short, _⟩
  · cases (effect.of_yield ⟨svc, yields⟩).1
  · obtain ⟨_, rfl⟩ := effect.of_ticks ⟨svc, ticks⟩
    refine ⟨[], by simp, ⟨.idle, at_, accounts.silent ?_ k₁.mem y⟩, ok.bench, ok.client, ok.server⟩
    rw [ticks]
    decide
  · cases effect.of_write ⟨svc, write⟩ with
    | refused no =>
        cases at_ with
        | idle free empty =>
            exact absurd (uart_accepts kernel free empty range short) (no range).2
    | direct =>
        have same : Bystands img k (uartWriteDirect k (tf.x 0) (tf.x 1)) :=
          bystands_of_threads rfl rfl rfl ⟨rfl, rfl⟩ rfl
        refine ⟨_, rfl, ⟨.idle, at_.bystands same fun _ => rfl, ?_⟩, ok.bench, ok.client, ok.server⟩
        exact accounts.issue write short (by simp [Stage.outstanding]) rfl

theorem parked_at (at_ : At img k xb .idle b) (active : Active k slotTaskA)
    (short : tf.x 1 ≤ ipcMsgSize)
    (absent : (k.endpoints epUart).blockedReceiverSlot = slotNone) (reason : TaskReturnReason) :
    At img (((k.parkRequest slotTaskA epUart tf.routed).saveFrame slotTaskA tf reason).markTask
      slotTaskA .runnable .blocked) xb (.pending (readBytes k.mem (tf.x 0) (tf.x 1))) b := by
  cases at_ with
  | idle free empty awake resting =>
      have other : slotTaskB ≠ slotTaskA := by decide
      have off := active.others slotTaskB other
      have content : (List.range (readBytes k.mem (tf.x 0) (tf.x 1)).length).map
          ((k.parkRequest slotTaskA epUart tf.routed).endpoints epUart).pendingMsg =
            readBytes k.mem (tf.x 0) (tf.x 1) := by
        rw [readBytes_length]
        refine List.map_congr_left fun i member => ?_
        have below : i < (tf.x 1).toNat := List.mem_range.mp member
        have some_ : tf.x 1 > 0 := UInt64.lt_iff_toNat_lt.mpr (Nat.zero_lt_of_lt below)
        simp only [Kernel.parkRequest, Kernel.registerCaller, TrapFrame.routed]
        simp [some_, bytesCopyIn_at below]
      obtain ⟨awakeB, starting⟩ : (k.threads slotTaskB).user.state ≠ .blocked ∧
          (b = .entry ∨ b = .ready ∧ (k.threads slotTaskB).user.state ≠ .dead) := by
        cases resting with
        | entry awake => exact ⟨awake, .inl rfl⟩
        | ready awake alive => exact ⟨awake, .inr ⟨rfl, alive⟩⟩
        | received _ receiver => exact absurd (absent.symm.trans receiver) (Slot.none_ne_i32 _)
        | replied running => exact absurd running (off.not_running (by decide))
      refine .pending ⟨?_, ?_, ?_, by simp, short_payload short⟩ ?_ ?_ content ?_ ?_
      · simp [Kernel.parkRequest, Kernel.registerCaller]
      · simp [Kernel.parkRequest, Kernel.registerCaller, TrapFrame.routed]
      · simp [Kernel.parkRequest, Kernel.registerCaller, TrapFrame.routed]
      · simp [Kernel.parkRequest]
      · simp [Kernel.parkRequest, TrapFrame.routed]
      · simpa [other, Kernel.parkRequest, Kernel.registerCaller] using awakeB
      · simpa [other, Kernel.parkRequest, Kernel.registerCaller] using starting

theorem handed_at (at_ : At img k xb .idle b) (kernel : KernelOk L cfg k none)
    (short : tf.x 1 ≤ ipcMsgSize)
    (apart : ∀ i < (tf.x 1).toNat, ¬ OtherStack (tf.x 0 + .ofNat i))
    (waiting : (k.endpoints epUart).blockedReceiverSlot = s.i32) (reason : TaskReturnReason) :
    At img (((k.handOver slotTaskA epUart tf.routed s).saveFrame slotTaskA tf reason).markTask
        slotTaskA .runnable .blocked)
      (((k.handOver slotTaskA epUart tf.routed s).threads slotTaskB).user.ctx.x 0)
      (.delivered (readBytes k.mem (tf.x 0) (tf.x 1))) b := by
  cases at_ with
  | idle free empty awake resting =>
      have other : slotTaskB ≠ slotTaskA := by decide
      have here : s = slotTaskB :=
        Slot.u32_inj.mp ((kernel.receiver_owner waiting).symm.trans kernel.uart_owner)
      subst here
      have waits := (kernel.recorded (w := .receiver epUart) waiting).2
      cases resting with
      | entry awake => exact absurd waits awake
      | ready awake => exact absurd waits awake
      | replied running => exact absurd (running.symm.trans waits) (by nofun)
      | received _ _ buffer cap =>
          have whole : minU64 (tf.x 1) (k.endpoints epUart).receiverBufCap = tf.x 1 := by
            rw [cap, minU64_of_le short]
          have small : (tf.x 1).toNat ≤ 256 := UInt64.le_iff_toNat_le.mp short
          have content : readBytes (k.handOver slotTaskA epUart tf.routed slotTaskB).mem img.recvBufB
              (.ofNat (readBytes k.mem (tf.x 0) (tf.x 1)).length) =
                readBytes k.mem (tf.x 0) (tf.x 1) := by
            rw [payload_length]
            refine List.map_congr_left fun i member => ?_
            have below : i < (tf.x 1).toNat := List.mem_range.mp member
            have some_ : tf.x 1 > 0 := UInt64.lt_iff_toNat_lt.mpr (Nat.zero_lt_of_lt below)
            have disjoint : ∀ i < (tf.x 1).toNat, ∀ j < (tf.x 1).toNat,
                tf.x 0 + .ofNat i ≠ img.recvBufB + .ofNat j := by
              intro i belowI j belowJ same
              refine apart i belowI ?_
              rw [same]
              exact recvBufB_stack (Nat.lt_of_lt_of_le belowJ small)
            simp only [Kernel.handOver, Kernel.registerCaller, TrapFrame.routed, whole]
            simp [some_, buffer, bytesCopy_at disjoint below]
          refine .delivered ⟨?_, ?_, ?_, by simp, short_payload short⟩ ?_ ?_ ?_ ?_ content
          · simp [Kernel.handOver, Kernel.registerCaller]
          · simp [Kernel.handOver, Kernel.registerCaller, TrapFrame.routed]
          · simp [Kernel.handOver, Kernel.registerCaller, TrapFrame.routed]
          · simpa [Kernel.handOver, Kernel.registerCaller] using empty
          · simp [other, Kernel.handOver, Thread.wake]
          · simp [other, Kernel.handOver, Thread.wake]
          · rw [payload_length]
            simp only [Kernel.handOver, TrapFrame.routed, whole]
            simp [Thread.wake]

theorem yielded_at (at_ : At img k xb .idle b) : At img ((k.saveFrame slotTaskA tf .yield).markTask
    slotTaskA .runnable .runnable) xb .idle b := by
  cases at_ with
  | idle free empty _ resting =>
      have other : slotTaskB ≠ slotTaskA := by decide
      exact .idle free empty (by simp) (resting.congr (by simp [other]) rfl)

theorem Relays.client_away {stores : List (SandboxAddress × UInt8)} {reason : TaskReturnReason}
    (ok : Relays cfg img k xa ((k.threads slotTaskB).user.ctx.x 0) p) (kernel : KernelOk L cfg k none)
    (active : Active k slotTaskA) (trap : ClientTrap stores tf)
    (effect : Effect cfg k slotTaskA tf k₁ (.away reason))
    (left : Left (k₁.saveFrame slotTaskA tf reason) slotTaskA reason k₂) :
    k₂.uart = k.uart ∧ Relays cfg img k₂ ((k₂.threads slotTaskA).user.ctx.x 0)
      ((k₂.threads slotTaskB).user.ctx.x 0) (p.client xa k.mem tf []) := by
  obtain ⟨stage, at_, accounts⟩ := ok.stage
  cases Accounts.idle_of at_ active.not_blocked
  obtain ⟨svc, _, calls⟩ := trap
  have other : slotTaskB ≠ slotTaskA := by decide
  rcases calls with yields | ticks | ⟨write, range, short, apart⟩
  · obtain ⟨yield, rfl⟩ := effect.of_yield ⟨svc, yields⟩
    cases yield
    cases left.lives (by simp)
    have noWrite : tf.x 8 ≠ sysWrite := by
      rw [yields]
      decide
    have silent := accounts.silent noWrite k₁.mem
    exact ⟨rfl, ⟨.idle, yielded_at at_, silent _⟩, ok.bench, by simp, by simpa [other] using ok.server⟩
  · cases (effect.of_ticks ⟨svc, ticks⟩).1
  · cases effect.of_write ⟨svc, write⟩ with
    | park _ _ _ absent =>
        cases left.lives (by simp)
        have bench : (k.parkRequest slotTaskA epUart tf.routed).endpoints epBench = k.endpoints epBench :=
          parkRequest_on.elsewhere epBench (by decide)
        refine ⟨rfl, ⟨_, parked_at at_ active short absent .ipcBlock, ?_⟩, ?_, by simp, ?_⟩
        · exact accounts.issue write short rfl payload_length
        · simpa [bench] using ok.bench
        · simpa [other, Kernel.parkRequest, Kernel.registerCaller] using ok.server
    | @handOver s _ _ _ waiting =>
        cases left.lives (by simp)
        have bench : (k.handOver slotTaskA epUart tf.routed s).endpoints epBench = k.endpoints epBench :=
          handOver_on.elsewhere epBench (by decide)
        have handed := handed_at at_ kernel short apart waiting .ipcBlock
        refine ⟨rfl, ⟨.delivered (readBytes k.mem (tf.x 0) (tf.x 1)), ?_,
          accounts.issue write short rfl payload_length⟩, ?_, by simp, fun _ => handed.alive⟩
        · simp only [Kernel.markTask_threads, Kernel.saveFrame_threads, ne_eq, other,
            not_false_eq_true, Function.update_of_ne]
          exact handed
        · simpa [bench] using ok.bench

/-! ## The server -/

inductive ServerCall (cfg : Config) (img : Image) (xb : UInt64) (tf : TrapFrame) :
    TaskB → TaskB → Prop
  | announce (asks : Asks tf sysWrite) (own : (tf.x 0, tf.x 1) ∈ serverMessages img) :
      ServerCall cfg img xb tf .entry .ready
  | recv {b : TaskB} (asks : Asks tf sysIpcRecv) (uart : tf.x 0 = 1) (buffer : tf.x 1 = img.recvBufB)
      (cap : tf.x 2 = ipcMsgSize) (elsewhere : b ≠ .written)
      (failed : b = .received → xb = minusOne) : ServerCall cfg img xb tf b .received
  | write (asks : Asks tf sysWrite) (buffer : tf.x 0 = img.recvBufB) (len : tf.x 1 = xb) :
      ServerCall cfg img xb tf .received .written
  | reply (asks : Asks tf sysIpcReply) (uart : tf.x 0 = 1) (buffer : tf.x 1 = img.recvBufB)
      (len : tf.x 2 = 0) : ServerCall cfg img xb tf .written .replied
  | crash (fault : tf.exceptionClass ≠ 0x15) (build : cfg.mode ≠ .latency) :
      ServerCall cfg img xb tf .replied .entry

theorem serverCall {mem : Memory} (raises : (el0TaskBEntry cfg img mem xb b).1.Raises tf) :
    ServerCall cfg img xb tf b (el0TaskBEntry cfg img mem xb b).2 := by
  have recv {b : TaskB} (raises : (el0IpcRecv 1 img.recvBufB ipcMsgSize).Raises tf)
      (elsewhere : b ≠ .written) (failed : b = .received → xb = minusOne) :
      ServerCall cfg img xb tf b .received :=
    .recv raises.asks (raises.arg 0 rfl) (raises.arg 1 rfl) (raises.arg 2 rfl) elsewhere failed
  cases b with
  | entry =>
      cases build : cfg.mode with
      | off =>
          simp only [el0TaskBEntry, build] at raises ⊢
          exact .announce raises.asks (raises.writes (by simp [serverMessages]))
      | recovery | latency =>
          simp only [el0TaskBEntry, build] at raises ⊢
          exact recv raises (by nofun) (by nofun)
  | ready => exact recv raises (by nofun) (by nofun)
  | received =>
      by_cases failed : xb = minusOne
      · simp only [el0TaskBEntry, failed, ne_eq, not_true_eq_false, if_false] at raises ⊢
        exact failed ▸ recv raises (by nofun) fun _ => failed
      · simp only [el0TaskBEntry, ne_eq, failed, not_false_eq_true, if_true] at raises ⊢
        exact .write raises.asks (raises.arg 0 rfl) (raises.arg 1 rfl)
  | written => exact .reply raises.asks (raises.arg 0 rfl) (raises.arg 1 rfl) (raises.arg 2 rfl)
  | replied =>
      by_cases crashes : cfg.mode ≠ .latency ∧ ¬ img.crashed mem
      · simp only [el0TaskBEntry, crashes, not_false_eq_true, and_self, ne_eq, if_true] at raises ⊢
        refine .crash ?_ crashes.1
        rw [show tf.exceptionClass = 0x3C from raises]
        decide
      · simp only [el0TaskBEntry, crashes, if_false] at raises ⊢
        exact recv raises (by nofun) (by nofun)

theorem Accounts.serve {stage : Stage} (accounts : Accounts stage xa p) (other : b' ≠ .written)
    (output : List UartCall) : Accounts stage xa (p.server b' output) := by
  refine ⟨?_, accounts.returned, accounts.writing, accounts.short⟩
  simpa [Service.server, other] using accounts.emitted

theorem Accounts.take (accounts : Accounts (.pending payload) xa p) (output : List UartCall) :
    Accounts (.delivered payload) xa (p.server .received output) :=
  ⟨accounts.emitted, accounts.returned, fun _ => accounts.writing (by nofun), accounts.short⟩

theorem Accounts.emit (accounts : Accounts (.delivered payload) xa p) :
    Accounts (.written payload) xa (p.server .written [.write payload]) := by
  refine ⟨?_, accounts.returned, fun _ => accounts.writing (by nofun), accounts.short⟩
  simpa [Service.server, Stage.outstanding] using accounts.emitted

theorem Accounts.settle (accounts : Accounts (.written payload) xa p) (output : List UartCall) :
    Accounts .idle (.ofNat payload.length) (p.server .replied output) :=
  ⟨accounts.emitted, accounts.returned, fun busy => absurd rfl busy, accounts.short⟩

theorem length_ne_minusOne {n : Nat} (short : n ≤ 256) : UInt64.ofNat n ≠ minusOne := by
  intro same
  have values := congrArg UInt64.toNat same
  rw [UInt64.toNat_ofNat', show minusOne.toNat = 2 ^ 64 - 1 from rfl] at values
  omega

theorem messageBuffer_range {buf len : UInt64} (low : el0SandboxBase ≤ buf)
    (high : buf ≤ el0SandboxEnd - ipcMsgSize) (short : len ≤ ipcMsgSize) : el0BufRangeOk buf len := by
  have top : (el0SandboxEnd - ipcMsgSize).toNat = 0x40FFFF00 := by decide
  have size : ipcMsgSize.toNat = 256 := by decide
  rw [UInt64.le_iff_toNat_le] at low high short
  rw [top] at high
  rw [size] at short
  rw [el0SandboxBase_toNat] at low
  rw [el0BufRangeOk_iff, Buffer, el0SandboxBase_toNat, el0SandboxEnd_toNat]
  omega

theorem recvBufB_range {len : UInt64} (short : len ≤ ipcMsgSize) : el0BufRangeOk img.recvBufB len :=
  messageBuffer_range (UInt64.le_trans (by decide) img.recvBufB_stack.1) img.recvBufB_stack.2 short

theorem recvBufC_range : el0BufRangeOk img.recvBufC ipcMsgSize :=
  messageBuffer_range (UInt64.le_trans (by decide) img.recvBufC_stack.1)
    (UInt64.le_trans img.recvBufC_stack.2 (by decide)) (UInt64.le_refl _)

theorem At.announce {stage : Stage} (at_ : At img k xb stage .entry) (active : Active k slotTaskB)
    (same : Bystands img k k₁) (y : UInt64) : At img k₁ y stage .ready := by
  have alive : (k.threads slotTaskB).user.state ≠ .dead := by
    rw [active.running]
    nofun
  cases at_ with
  | idle free empty awake =>
      have ready : At img k y .idle .ready := .idle free empty awake (.ready active.not_blocked alive)
      exact ready.bystands same fun _ => rfl
  | pending calling full length content awake =>
      have ready : At img k y (.pending _) .ready :=
        .pending calling full length content awake (.inr ⟨rfl, alive⟩)
      exact ready.bystands same fun _ => rfl

theorem taken_at {stage : Stage} (at_ : At img k xb stage b) (active : Active k slotTaskB)
    (pending : (k.endpoints epUart).hasPending = true) :
    ∃ payload, stage = .pending payload ∧
      At img (k.takePending slotTaskB epUart img.recvBufB ipcMsgSize)
        (minU64 (k.endpoints epUart).pendingLen ipcMsgSize) (.delivered payload) .received := by
  have alive : (k.threads slotTaskB).user.state ≠ .dead := by
    rw [active.running]
    nofun
  cases at_ with
  | idle _ empty | delivered _ empty | written _ empty =>
      rw [empty] at pending
      cases pending
  | @pending payload _ calling _ length content =>
      have small : payload.length % 2 ^ 64 = payload.length :=
        Nat.mod_eq_of_lt (Nat.lt_of_le_of_lt calling.short (by decide))
      have whole : minU64 (k.endpoints epUart).pendingLen ipcMsgSize = .ofNat payload.length := by
        rw [length, minU64_of_le]
        rw [UInt64.le_iff_toNat_le, UInt64.toNat_ofNat', small]
        exact calling.short
      have read : readBytes (k.takePending slotTaskB epUart img.recvBufB ipcMsgSize).mem
          img.recvBufB (.ofNat payload.length) = payload := by
        refine Eq.trans ?_ content
        rw [readBytes, UInt64.toNat_ofNat', small]
        refine List.map_congr_left fun i member => ?_
        have below : i < (UInt64.ofNat payload.length).toNat := by
          rw [UInt64.toNat_ofNat', small]
          exact List.mem_range.mp member
        have some_ : UInt64.ofNat payload.length > 0 :=
          UInt64.lt_iff_toNat_lt.mpr (Nat.zero_lt_of_lt below)
        simp only [Kernel.takePending, whole]
        simp [some_, bytesCopyOut_at below]
      refine ⟨payload, rfl, ?_⟩
      rw [whole]
      refine .delivered ⟨?_, ?_, ?_, calling.blocked, calling.short⟩ ?_ active.not_blocked alive rfl read
      · simpa [Kernel.takePending] using calling.caller
      · simpa [Kernel.takePending] using calling.result
      · simpa [Kernel.takePending] using calling.cap
      · simp [Kernel.takePending]

inductive OwnerRecv (k : Kernel) (t : Slot) (e : EpId) (ptr cap : UInt64) : Kernel → Outcome → Prop
  | take (pending : (k.endpoints e).hasPending = true) :
      OwnerRecv k t e ptr cap (k.takePending t e ptr cap)
        (.back (minU64 (k.endpoints e).pendingLen cap))
  | listen (quiet : (k.endpoints e).hasPending = false) :
      OwnerRecv k t e ptr cap (k.listen t e ptr cap) (.away .ipcBlock)

theorem Effect.owner_recv {e : EpId} {ptr cap : UInt64} (effect : Effect cfg k t tf k₁ o)
    (kernel : KernelOk L cfg k none) (active : Active k t) (asks : Asks tf sysIpcRecv)
    (owner : (k.endpoints e).ownerSlot = t.u32) (found : getEndpoint (tf.x 0) = some e)
    (buffer : tf.x 1 = ptr) (length : tf.x 2 = cap) (range : el0BufRangeOk ptr cap) :
    OwnerRecv k t e ptr cap k₁ o := by
  subst buffer length
  cases effect.of_recv asks with
  | refused no =>
      have listening := (no e found range owner).2
      obtain ⟨s, at_, _⟩ := (active.awake kernel).get (.receiver e) listening
      have here : s = t := Slot.u32_inj.mp ((kernel.receiver_owner at_).symm.trans owner)
      exact absurd (kernel.recorded (w := .receiver e) at_).2 (here ▸ active.not_blocked)
  | take here _ pending =>
      cases Option.some_inj.mp (found.symm.trans here)
      exact .take pending
  | listen here _ quiet =>
      cases Option.some_inj.mp (found.symm.trans here)
      exact .listen quiet

theorem Effect.server_recv (effect : Effect cfg k slotTaskB tf k₁ o) (kernel : KernelOk L cfg k none)
    (active : Active k slotTaskB) (asks : Asks tf sysIpcRecv) (uart : tf.x 0 = 1)
    (buffer : tf.x 1 = img.recvBufB) (cap : tf.x 2 = ipcMsgSize) :
    OwnerRecv k slotTaskB epUart img.recvBufB ipcMsgSize k₁ o :=
  effect.owner_recv kernel active asks kernel.uart_owner (uart ▸ getEndpoint_uart) buffer cap
    (recvBufB_range (UInt64.le_refl _))

theorem Relays.server_back {y : UInt64}
    (ok : Relays cfg img k ((k.threads slotTaskA).user.ctx.x 0) xb p) (kernel : KernelOk L cfg k none)
    (active : Active k slotTaskB) (call : ServerCall cfg img xb tf p.b b')
    (effect : Effect cfg k slotTaskB tf k₁ (.back y)) :
    ∃ output, k₁.uart = k.uart ++ output ∧
      Relays cfg img k₁ ((k₁.threads slotTaskA).user.ctx.x 0) y (p.server b' output) := by
  obtain ⟨⟨stage, at_, accounts⟩, bench, client, server⟩ := ok
  generalize p.b = b at at_ call
  cases call with
  | announce asks =>
      cases effect.of_write asks with
      | refused =>
          have same : Bystands img k k := bystands_of_threads rfl rfl rfl ⟨rfl, rfl⟩ rfl
          exact ⟨[], by simp, ⟨stage, at_.announce active same _, accounts.serve (by nofun) []⟩, bench,
            client, server⟩
      | direct =>
          have same : Bystands img k (uartWriteDirect k (tf.x 0) (tf.x 1)) :=
            bystands_of_threads rfl rfl rfl ⟨rfl, rfl⟩ rfl
          exact ⟨_, rfl, ⟨stage, at_.announce active same _, accounts.serve (by nofun) _⟩, bench,
            client, server⟩
  | recv asks uart buffer cap =>
      cases effect.server_recv kernel active asks uart buffer cap with
      | take pending =>
          obtain ⟨payload, rfl, taken⟩ := taken_at at_ active pending
          refine ⟨[], by simp [Kernel.takePending], ⟨_, taken, accounts.take []⟩, ?_, client, server⟩
          rw [takePending_on.elsewhere epBench (by decide)]
          exact bench
  | write asks buffer len =>
      cases at_ with
      | idle _ _ _ resting =>
          cases resting with
          | received blocked => exact absurd blocked active.not_blocked
      | pending _ _ _ _ _ starting => simp at starting
      | @delivered payload calling empty awake alive told content =>
          have short : xb ≤ ipcMsgSize := by
            rw [told, UInt64.le_iff_toNat_le, UInt64.toNat_ofNat']
            exact Nat.le_trans (Nat.mod_le _ _) calling.short
          cases effect.of_write asks with
          | refused no =>
              have range : el0WriteRangeOk (tf.x 0) (tf.x 1) := by
                rw [buffer, len]
                exact recvBufB_range short
              exact absurd rfl (no range).1.2.1
          | direct =>
              have same : Bystands img k (uartWriteDirect k (tf.x 0) (tf.x 1)) :=
                bystands_of_threads rfl rfl rfl ⟨rfl, rfl⟩ rfl
              have read : readBytes k.mem (tf.x 0) (tf.x 1) = payload := by
                rw [buffer, len, told, content]
              refine ⟨[.write payload], ?_, ⟨_, ?_, accounts.emit⟩, bench, client, server⟩
              · rw [← read]
                rfl
              · exact .written (calling.bystands same) empty awake alive
  | reply asks uart buffer len =>
      cases at_ with
      | idle _ _ _ resting => cases resting
      | pending _ _ _ _ _ starting => simp at starting
      | @written payload calling empty =>
          cases effect.of_reply asks with
          | refused no =>
              have found : getEndpoint (tf.x 0) = some epUart := uart ▸ getEndpoint_uart
              have range : el0BufRangeOk (tf.x 1) (tf.x 2) := by
                rw [buffer, len]
                exact recvBufB_range (by decide)
              have free := no epUart found (by rw [len]; decide) range kernel.uart_owner
              exact absurd (free.symm.trans calling.caller) (Slot.none_ne_i32 _)
          | answer found _ _ _ waiting =>
              rw [uart, getEndpoint_uart] at found
              cases Option.some_inj.mp found
              cases Slot.i32_inj.mp (calling.caller.symm.trans waiting)
              have other : slotTaskB ≠ slotTaskA := by decide
              have result : Kernel.replyResult (k.endpoints epUart) (tf.x 2) = .ofNat payload.length := by
                rw [Kernel.replyResult, calling.result, calling.cap, len]
                by_cases zero : UInt64.ofNat payload.length = 0
                · simp [zero, minU64]
                · simp [zero]
              refine ⟨[], by simp [Kernel.answer], ⟨.idle, ?_, ?_⟩, ?_, ?_, ?_⟩
              · refine .idle ?_ ?_ ?_ (.replied ?_)
                · simp [Kernel.answer]
                · simpa [Kernel.answer] using empty
                · simp [Kernel.answer, Thread.wake]
                · simpa [Kernel.answer, other] using active.running
              · have woken : ((k.answer slotTaskB epUart (tf.x 1) (tf.x 2) slotTaskA).threads
                    slotTaskA).user.ctx.x 0 = .ofNat payload.length := by
                  simp [Kernel.answer, Thread.wake, result]
                rw [woken]
                exact accounts.settle []
              · rw [answer_on.elsewhere epBench (by decide)]
                exact bench
              · simp [Kernel.answer, Thread.wake]
              · simpa [Kernel.answer, other] using server
  | crash fault => cases (effect.of_fault fault).1

theorem Relays.server_away {reason : TaskReturnReason}
    (ok : Relays cfg img k ((k.threads slotTaskA).user.ctx.x 0) xb p) (kernel : KernelOk L cfg k none)
    (active : Active k slotTaskB) (call : ServerCall cfg img xb tf p.b b')
    (effect : Effect cfg k slotTaskB tf k₁ (.away reason)) (inside : InSandbox tf.elr)
    (left : Left (k₁.saveFrame slotTaskB tf reason) slotTaskB reason k₂) (output : List UartCall) :
    Relays cfg img k₂ ((k₂.threads slotTaskA).user.ctx.x 0) ((k₂.threads slotTaskB).user.ctx.x 0)
      (p.server b' output) := by
  obtain ⟨okSaved, saved⟩ := effect.saved kernel active inside
  obtain ⟨⟨stage, at_, accounts⟩, bench, client, server⟩ := ok
  generalize p.b = b at at_ call
  have other : slotTaskA ≠ slotTaskB := by decide
  cases call with
  | announce asks | write asks =>
      cases effect.of_write asks with
      | park _ client | handOver _ client => exact absurd rfl client.1
  | reply asks => cases effect.of_reply asks
  | recv asks uart buffer cap elsewhere failed =>
      cases effect.server_recv kernel active asks uart buffer cap with
      | listen quiet =>
          cases left.lives (by simp)
          cases at_ with
          | pending _ full =>
              rw [full] at quiet
              cases quiet
          | written => exact absurd rfl elsewhere
          | delivered calling _ _ _ told =>
              exact absurd (told.symm.trans (failed rfl)) (length_ne_minusOne calling.short)
          | idle free empty awake =>
              have elsewhere : (k.listen slotTaskB epUart img.recvBufB ipcMsgSize).endpoints epBench =
                  k.endpoints epBench := listen_on.elsewhere epBench (by decide)
              refine ⟨⟨.idle, ?_, ?_⟩, ?_, ?_, ?_⟩
              · refine .idle ?_ ?_ ?_ (.received ?_ ?_ ?_ ?_)
                · simpa [Kernel.listen] using free
                · simpa [Kernel.listen] using empty
                · simpa [Kernel.listen, other] using awake
                · simp
                · simp [Kernel.listen]
                · simp [Kernel.listen]
                · simp [Kernel.listen]
              · simp only [Kernel.markTask_threads, Kernel.saveFrame_threads, ne_eq, other,
                  not_false_eq_true, Function.update_of_ne]
                exact accounts.serve (by simp) output
              · simpa [elsewhere] using bench
              · simpa [Kernel.listen, other] using client
              · simp
  | crash fault build =>
      obtain ⟨faulted, rfl⟩ := effect.of_fault fault
      cases faulted
      cases at_ with
      | pending _ _ _ _ _ starting => simp at starting
      | idle free empty awake =>
          have same : k₂.threads slotTaskA = k.threads slotTaskA := by
            rw [left.awake okSaved saved other (by simpa [other] using awake)]
            simp [other]
          have dead := (left.dead (.inr rfl) okSaved saved).1
          have uart := left.spares (e := epUart) free
          have away := left.spares (e := epBench) bench.2
          refine ⟨⟨.idle, ?_, ?_⟩, ?_, ?_, fun latency => absurd latency build⟩
          · refine .idle ?_ ?_ ?_ (.entry ?_)
            · rw [uart]
              exact free
            · rw [uart]
              exact empty
            · rw [same]
              exact awake
            · rw [dead]
              simp
          · rw [same]
            exact accounts.serve (by simp) output
          · rw [away]
            exact bench
          · rw [same]
            exact client

/-! ## The steps of the machine -/

inductive ServiceTrap (cfg : Config) (img : Image) (m : Machine) (p : Service)
    (stores : List (SandboxAddress × UInt8)) (tf : TrapFrame) (output : List UartCall) :
    Slot → Service → Prop
  | client (trap : ClientTrap stores tf) :
      ServiceTrap cfg img m p stores tf output slotTaskA
        (p.client (m.x0 slotTaskA) (userStores stores m.kernel.mem) tf output)
  | server {b' : TaskB} (call : ServerCall cfg img (m.x0 slotTaskB) tf p.b b') :
      ServiceTrap cfg img m p stores tf output slotTaskB (p.server b' output)
  | other {c' : TaskC} (call : TaskCCall img tf) :
      ServiceTrap cfg img m p stores tf output slotTaskC { p with c := c' }

theorem Image.recvBufB_toNat (img : Image) {i : Nat} (below : i < 256) :
    (img.recvBufB + .ofNat i).toNat = img.recvBufB.toNat + i := by
  obtain ⟨_, high⟩ := img.recvBufB_stack
  have top : (el0TaskBStackTop - ipcMsgSize).toNat = 0x40FFFF00 := by decide
  rw [UInt64.le_iff_toNat_le, top] at high
  rw [UInt64.toNat_add, UInt64.toNat_ofNat', Nat.mod_eq_of_lt (a := i) (by omega)]
  exact Nat.mod_eq_of_lt (by omega)

theorem taskBStores_outside {mem : Memory} {stores : List (SandboxAddress × UInt8)} {call : Call}
    (stored : img.TaskBStores mem stores call) :
    ∀ store ∈ stores, ∀ i < 256, store.1.val ≠ img.recvBufB + .ofNat i := by
  intro store member i below same
  have place := img.recvBufB_toNat below
  rw [← same] at place
  obtain ⟨low, high⟩ := img.recvBufB_stack
  have size : ipcMsgSize.toNat = 256 := by decide
  have top : (el0TaskBStackTop - ipcMsgSize).toNat = 0x40FFFF00 := by decide
  rw [UInt64.le_iff_toNat_le, top] at high
  rcases stored.1 store member with ⟨_, _, before | behind⟩ | ⟨_, _, flag⟩
  · rw [UInt64.lt_iff_toNat_lt] at before
    omega
  · rw [UInt64.le_iff_toNat_le, UInt64.toNat_add, size] at behind
    omega
  · have data := img.crashedOnce_data.2
    have code : (el0CodeEnd - 4).toNat = 0x40E0FFFC := by decide
    have bottom : el0TaskBStackBottom.toNat = 0x40FE0000 := by decide
    have four : (4 : UInt64).toNat = 4 := by decide
    rw [UInt64.le_iff_toNat_le, code] at data
    rw [UInt64.le_iff_toNat_le, bottom] at low
    rw [UInt64.lt_iff_toNat_lt, UInt64.toNat_add, four] at flag
    omega

theorem taskCStack_outside {address : UInt64} (below : address < el0TaskCStackTop) {i : Nat}
    (inside : i < 256) : address ≠ img.recvBufB + .ofNat i := by
  intro same
  have place := img.recvBufB_toNat inside
  have low := img.recvBufB_stack.1
  have apart : el0TaskCStackTop.toNat ≤ el0TaskBStackBottom.toNat := by decide
  rw [← same] at place
  rw [UInt64.lt_iff_toNat_lt] at below
  rw [UInt64.le_iff_toNat_le] at low
  omega

theorem serving_untrapped (untrapped : ∀ stores tf, a ≠ .trap stores tf)
    (next : (serving cfg img).next p m a m' = some p') : p' = p := by
  cases a with
  | trap stores tf => exact absurd rfl (untrapped stores tf)
  | tick | advance =>
      simp only [serving] at next
      split at next
      · contradiction
      · exact (Option.some_inj.mp next).symm

theorem serving_trap {stores : List (SandboxAddress × UInt8)} {regs : UserTaskCtx}
    (phase : m.phase = .el0 regs) (current : m.kernel.current = some t)
    (next : (serving cfg img).next p m (.trap stores tf) m' = some p') :
    InSandbox tf.elr ∧ ServiceTrap cfg img m p stores tf (m.output m') t p' ∧
      ∀ store ∈ stores, ∀ i < 256, store.1.val ≠ img.recvBufB + .ofNat i := by
  have x0 : m.x0 t = regs.x 0 := Machine.x0_el0 phase current
  simp only [serving, phase, current, Option.some_inj] at next
  split_ifs at next with inside client trap server raises other calls
  · cases next
    subst client
    rw [← x0]
    refine ⟨inside, .client trap, fun store member i below same => ?_⟩
    exact trap.2.1 store member (same ▸ recvBufB_stack below)
  · cases next
    subst server
    rw [← x0] at raises ⊢
    exact ⟨inside, .server (serverCall raises.1), taskBStores_outside raises.2⟩
  · cases next
    subst other
    exact ⟨inside, .other (taskCCall calls.1),
      fun store member i below => taskCStack_outside (calls.2 store member).2 below⟩

/-- The state of a run in which the programs serve `task_a`. -/
structure Relaying (L : Layout) (cfg : Config) (img : Image) (m : Machine) (p : Service) : Prop where
  inv : Inv L cfg m
  calm : ∀ q, m.phase ≠ .panic q
  relays : Relays cfg img m.kernel (m.x0 slotTaskA) (m.x0 slotTaskB) p

theorem Relays.setC (ok : Relays cfg img k xa xb p) (c : TaskC) :
    Relays cfg img k xa xb { p with c := c } := by
  obtain ⟨stage, at_, accounts⟩ := ok.stage
  exact ⟨⟨stage, at_, accounts.emitted, accounts.returned, accounts.writing, accounts.short⟩,
    ok.bench, ok.client, ok.server⟩

theorem Relays.saved (ok : Relays cfg img k ((k.threads slotTaskA).user.ctx.x 0)
    ((k.threads slotTaskB).user.ctx.x 0) p) (same : Bystands img k k₁) :
    Relays cfg img k₁ ((k₁.threads slotTaskA).user.ctx.x 0)
      ((k₁.threads slotTaskB).user.ctx.x 0) p := by
  rw [same.ctx]
  exact ok.bystands same fun live => by rw [(same.alive live).2]

theorem resched_bystands (pending : Bool) : Bystands img k (k.setResched pending) :=
  bystands_of_threads rfl rfl rfl ⟨rfl, rfl⟩ rfl

theorem output_of_uart {output : List UartCall} (uart : m'.kernel.uart = m.kernel.uart ++ output) :
    m.output m' = output := by
  rw [Machine.output, uart, List.drop_left]

theorem Relaying.quiet (ok : Relaying L cfg img m p) (untrapped : ∀ stores tf, a ≠ .trap stores tf)
    (step : m.step L cfg a = some m') (quiet : Quiet m.kernel m'.kernel)
    (calm : ∀ q, m'.phase ≠ .panic q) : Relaying L cfg img m' p := by
  have moves := quiet_moves ok.inv untrapped step
  have masked := quiet_masked untrapped step
  refine ⟨(step_cases ok.inv step).2, calm, ?_⟩
  rw [quiet_x0 moves masked, quiet_x0 moves masked]
  exact ok.relays.bystands (quiet_bystands quiet moves.users) fun _ => rfl

theorem Relaying.back {stores : List (SandboxAddress × UInt8)} {regs : UserTaskCtx} {y : UInt64}
    (ok : Relaying L cfg img m p) (phase : m.phase = .el0 regs) (active : Active m.kernel t)
    (inv : Inv L cfg ⟨k₁, .el0 (tf.after y)⟩)
    (effect : Effect cfg (m.kernel.setMem (userStores stores m.kernel.mem)) t tf k₁ (.back y))
    (outside : ∀ store ∈ stores, ∀ i < 256, store.1.val ≠ img.recvBufB + .ofNat i)
    (trap : ServiceTrap cfg img m p stores tf (m.output ⟨k₁, .el0 (tf.after y)⟩) t p') :
    Relaying L cfg img ⟨k₁, .el0 (tf.after y)⟩ p' := by
  have kernel := (ok.inv.active phase).1.setMem (userStores stores m.kernel.mem)
  have stored : Active (m.kernel.setMem (userStores stores m.kernel.mem)) t :=
    active.congr rfl rfl rfl
  have before := ok.relays.bystands (stores_bystand outside) fun _ => rfl
  have active₁ := (effect.keeps kernel stored).2
  refine ⟨inv, by nofun, ?_⟩
  cases trap with
  | client trap =>
      rw [Machine.x0_other (s := slotTaskB) active.current (by decide)] at before
      rw [Machine.x0_el0 rfl active₁.current,
        Machine.x0_other (s := slotTaskB) active₁.current (by decide)]
      obtain ⟨output, uart, after⟩ := before.client_back kernel stored trap effect
      rw [output_of_uart uart]
      exact after
  | server call =>
      rw [Machine.x0_other (s := slotTaskA) active.current (by decide)] at before
      rw [Machine.x0_other (s := slotTaskA) active₁.current (by decide),
        Machine.x0_el0 rfl active₁.current]
      obtain ⟨output, uart, after⟩ := before.server_back kernel stored call effect
      rw [output_of_uart uart]
      exact after
  | other call =>
      obtain ⟨same, _⟩ := effect.taskC_bystands call before.bench.1 before.bench.2
      rw [Machine.x0_other (s := slotTaskA) active.current (by decide),
        Machine.x0_other (s := slotTaskB) active.current (by decide)] at before
      rw [Machine.x0_other (s := slotTaskA) active₁.current (by decide),
        Machine.x0_other (s := slotTaskB) active₁.current (by decide)]
      exact (before.saved same).setC _

theorem Relaying.away {stores : List (SandboxAddress × UInt8)} {regs : UserTaskCtx}
    {reason : TaskReturnReason} (ok : Relaying L cfg img m p) (phase : m.phase = .el0 regs)
    (active : Active m.kernel t) (inv : Inv L cfg ⟨k₂.setResched false, .pick (.returnStep t)⟩)
    (effect : Effect cfg (m.kernel.setMem (userStores stores m.kernel.mem)) t tf k₁ (.away reason))
    (inside : InSandbox tf.elr) (left : Left (k₁.saveFrame t tf reason) t reason k₂)
    (outside : ∀ store ∈ stores, ∀ i < 256, store.1.val ≠ img.recvBufB + .ofNat i)
    (trap : ServiceTrap cfg img m p stores tf
      (m.output ⟨k₂.setResched false, .pick (.returnStep t)⟩) t p') :
    Relaying L cfg img ⟨k₂.setResched false, .pick (.returnStep t)⟩ p' := by
  have kernel := (ok.inv.active phase).1.setMem (userStores stores m.kernel.mem)
  have stored : Active (m.kernel.setMem (userStores stores m.kernel.mem)) t :=
    active.congr rfl rfl rfl
  have before := ok.relays.bystands (stores_bystand outside) fun _ => rfl
  refine ⟨inv, by nofun, ?_⟩
  show Relays cfg img (k₂.setResched false) ((k₂.threads slotTaskA).user.ctx.x 0)
    ((k₂.threads slotTaskB).user.ctx.x 0) p'
  cases trap with
  | client trap =>
      rw [Machine.x0_other (s := slotTaskB) active.current (by decide)] at before
      obtain ⟨uart, after⟩ := before.client_away kernel stored trap effect left
      have silent : m.output ⟨k₂.setResched false, .pick (.returnStep slotTaskA)⟩ = [] :=
        output_of_uart (by simpa using uart)
      rw [silent]
      exact after.bystands (resched_bystands false) fun _ => rfl
  | server call =>
      rw [Machine.x0_other (s := slotTaskA) active.current (by decide)] at before
      have after := before.server_away kernel stored call effect inside left
      exact (after _).bystands (resched_bystands false) fun _ => rfl
  | other call =>
      obtain ⟨same, blocks⟩ := effect.taskC_bystands call before.bench.1 before.bench.2
      rw [Machine.x0_other (s := slotTaskA) active.current (by decide),
        Machine.x0_other (s := slotTaskB) active.current (by decide)] at before
      have both := same.trans (leaves_bystands (by decide) (by decide) left (blocks reason rfl))
      exact (before.saved both).setC _

theorem Relaying.step (ok : Relaying L cfg img m p) (step : m.step L cfg a = some m')
    (next : (serving cfg img).next p m a m' = some p') : Relaying L cfg img m' p' := by
  obtain ⟨stepped, inv⟩ := step_cases ok.inv step
  cases stepped with
  | quiet untrapped quiet calm =>
      rw [serving_untrapped untrapped next]
      exact ok.quiet untrapped step quiet fun q panics => ok.calm q (calm q panics)
  | back phase active _ effect =>
      obtain ⟨_, trap, outside⟩ := serving_trap phase active.current next
      exact ok.back phase active inv effect outside trap
  | away phase active _ effect inside left =>
      obtain ⟨_, trap, outside⟩ := serving_trap phase active.current next
      exact ok.away phase active inv effect inside left outside trap
  | outside phase active _ _ outside =>
      exact absurd (serving_trap phase active.current next).1 outside

theorem Booted.relaying {mem : Memory} (booted : Booted L cfg mem m) :
    Relaying L cfg img m (serving cfg img).init := by
  have ready (s : Slot) (user : s ≠ slotIdle) : (m.kernel.threads s).user.state = .runnable := by
    rw [booted.users s user]
    rfl
  refine ⟨booted.inv, by simp [booted.phase], ⟨⟨.idle, ?_, rfl, rfl, fun busy => absurd rfl busy,
    by simp [serving]⟩, ?_, ?_, ?_⟩⟩
  · refine .idle ?_ ?_ ?_ (.entry ?_)
    · simp [booted.endpoints, Endpoint.initial]
    · simp [booted.endpoints, Endpoint.initial]
    · simp [ready slotTaskA (by decide)]
    · simp [ready slotTaskB (by decide)]
  · simp [booted.endpoints, Endpoint.initial]
  · simp [ready slotTaskA (by decide)]
  · simp [ready slotTaskB (by decide)]

theorem run_relaying {h : List ((Machine × Service) × Action)}
    (run : ((kernelSystem L cfg).under (serving cfg img)).Run h (m, p)) :
    Relaying L cfg img m p := by
  refine run.invariant (I := fun q => Relaying L cfg img q.1 q.2) ?_ ?_
  · rintro ⟨m, p⟩ ⟨⟨mem, booted⟩, start⟩
    cases start
    exact (boot_booted booted).relaying
  · rintro ⟨m, p⟩ a ⟨m', p'⟩ ok ⟨step, next⟩
    exact Relaying.step ok step next

end ProtoOs
