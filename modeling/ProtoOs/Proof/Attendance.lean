import ProtoOs.Proof.Resumption
import ProtoOs.Proof.UartProgress

/-!
# A server of `task_a`

In the latency build `task_b` and `task_c` each own an endpoint, on which they receive, look at the
message and reply. `Attends` says how far a server is with the message of `task_a`. A trap of the
server or of `task_a` is one of a few transitions of the kernel, and each takes the server from one
stage to the next and leaves the other server as it is.
-/

namespace ProtoOs

variable {L : Layout} {cfg : Config} {img : Image} {k k₁ k₂ : Kernel} {t s : Slot} {e : EpId}
  {tf : TrapFrame} {o : Outcome} {x y : UInt64} {bytes : List UInt8} {d : Send}

/-- A server: its slot, its endpoint with the id it passes for it, and its receive buffer. -/
structure Server where
  slot : Slot
  ep : EpId
  id : UInt64
  buf : UInt64
  user : slot ≠ slotIdle
  other : slot ≠ slotTaskA
  found : getEndpoint id = some ep
  range : ∀ len ≤ ipcMsgSize, el0BufRangeOk buf len
  stack : ∀ i < 256, OtherStack (buf + .ofNat i)
  owner : ∀ cfg : Config, cfg.mode = .latency → initialOwner cfg ep = slot.u32

/-- What a server does next: receive, look at what it received, reply. -/
inductive Point
  | ready
  | received
  | handled
  deriving DecidableEq

variable {srv srv' : Server} {msg msg' : Option (List UInt8)} {pt pt' : Point}

namespace Server

/-- `task_a` is blocked on the endpoint, with a reply buffer outside the stacks of the servers. -/
structure Awaited (srv : Server) (k : Kernel) (bytes : List UInt8) : Prop where
  caller : (k.endpoints srv.ep).blockedCallerSlot = slotTaskA.i32
  short : bytes.length ≤ 256
  reply : ∀ i < (k.endpoints srv.ep).callerReplyCap.toNat,
    ¬ OtherStack ((k.endpoints srv.ep).callerReplyPtr + .ofNat i)

/-- How far the server is with the message of `task_a`, where its x0 holds `x`. -/
inductive Attends (srv : Server) (k : Kernel) (x : UInt64) : Option (List UInt8) → Point → Prop
  | idle (free : (k.endpoints srv.ep).blockedCallerSlot = slotNone)
      (empty : (k.endpoints srv.ep).hasPending = false)
      (awake : (k.threads srv.slot).user.state ≠ .blocked) : Attends srv k x none .ready
  | listening (free : (k.endpoints srv.ep).blockedCallerSlot = slotNone)
      (empty : (k.endpoints srv.ep).hasPending = false)
      (blocked : (k.threads srv.slot).user.state = .blocked)
      (receiver : (k.endpoints srv.ep).blockedReceiverSlot = srv.slot.i32)
      (buffer : (k.endpoints srv.ep).receiverBufPtr = srv.buf)
      (cap : (k.endpoints srv.ep).receiverBufCap = ipcMsgSize) : Attends srv k x none .received
  | pending {bytes : List UInt8} (awaited : srv.Awaited k bytes)
      (full : (k.endpoints srv.ep).hasPending = true)
      (length : (k.endpoints srv.ep).pendingLen = .ofNat bytes.length)
      (content : (List.range bytes.length).map (k.endpoints srv.ep).pendingMsg = bytes)
      (awake : (k.threads srv.slot).user.state ≠ .blocked) : Attends srv k x (some bytes) .ready
  | delivered {bytes : List UInt8} (awaited : srv.Awaited k bytes)
      (empty : (k.endpoints srv.ep).hasPending = false)
      (awake : (k.threads srv.slot).user.state ≠ .blocked) (told : x = .ofNat bytes.length)
      (content : readBytes k.mem srv.buf (.ofNat bytes.length) = bytes) :
      Attends srv k x (some bytes) .received
  | handled {bytes : List UInt8} (awaited : srv.Awaited k bytes)
      (empty : (k.endpoints srv.ep).hasPending = false)
      (awake : (k.threads srv.slot).user.state ≠ .blocked) : Attends srv k x (some bytes) .handled

theorem Attends.free (attends : srv.Attends k x none pt) :
    (k.endpoints srv.ep).blockedCallerSlot = slotNone ∧ (k.endpoints srv.ep).hasPending = false := by
  cases attends with
  | idle free empty => exact ⟨free, empty⟩
  | listening free empty => exact ⟨free, empty⟩

theorem Attends.awaited (attends : srv.Attends k x (some bytes) pt) : srv.Awaited k bytes := by
  cases attends with
  | pending awaited | delivered awaited | handled awaited => exact awaited

theorem Attends.awake (attends : srv.Attends k x (some bytes) pt) :
    (k.threads srv.slot).user.state ≠ .blocked := by
  cases attends with
  | pending _ _ _ _ awake => exact awake
  | delivered _ _ awake => exact awake
  | handled _ _ awake => exact awake

theorem Attends.none_of_active (attends : srv.Attends k x msg pt) (kernel : KernelOk L cfg k none)
    (active : Active k slotTaskA) : msg = none := by
  cases msg with
  | none => rfl
  | some bytes =>
      have blocked := (kernel.recorded (w := .caller srv.ep) attends.awaited.caller).2
      exact absurd blocked active.not_blocked

/-! ## Steps that the server takes no part in -/

structure Keeps (srv : Server) (k k₁ : Kernel) : Prop where
  endpoint : k₁.endpoints srv.ep = k.endpoints srv.ep
  content : ∀ i < 256, k₁.mem (srv.buf + .ofNat i) = k.mem (srv.buf + .ofNat i)
  blocked : (k₁.threads srv.slot).user.state = .blocked ↔ (k.threads srv.slot).user.state = .blocked
  dead : (k₁.threads srv.slot).user.state = .dead ↔ (k.threads srv.slot).user.state = .dead

theorem Keeps.of_thread (endpoint : k₁.endpoints srv.ep = k.endpoints srv.ep)
    (content : ∀ i < 256, k₁.mem (srv.buf + .ofNat i) = k.mem (srv.buf + .ofNat i))
    (thread : k₁.threads srv.slot = k.threads srv.slot) : srv.Keeps k k₁ :=
  ⟨endpoint, content, by rw [thread], by rw [thread]⟩

theorem keeps_quiet (quiet : Quiet k k₁) (users : SameUsers k k₁) : srv.Keeps k k₁ where
  endpoint := by rw [quiet.endpoints]
  content _ _ := by rw [quiet.mem]
  blocked := users.blocked srv.slot
  dead := users.dead srv.slot

theorem keeps_stores {stores : List (SandboxAddress × UInt8)}
    (outside : ∀ store ∈ stores, ∀ i < 256, store.1.val ≠ srv.buf + .ofNat i) :
    srv.Keeps k (k.setMem (userStores stores k.mem)) :=
  .of_thread rfl (fun i below => userStores_outside fun store member => outside store member i below)
    rfl

theorem Awaited.congr (awaited : srv.Awaited k bytes)
    (caller : (k₁.endpoints srv.ep).blockedCallerSlot = (k.endpoints srv.ep).blockedCallerSlot)
    (ptr : (k₁.endpoints srv.ep).callerReplyPtr = (k.endpoints srv.ep).callerReplyPtr)
    (cap : (k₁.endpoints srv.ep).callerReplyCap = (k.endpoints srv.ep).callerReplyCap) :
    srv.Awaited k₁ bytes := by
  refine ⟨caller.trans awaited.caller, awaited.short, ?_⟩
  rw [ptr, cap]
  exact awaited.reply

theorem toNat_length (short : bytes.length ≤ 256) :
    (UInt64.ofNat bytes.length).toNat = bytes.length := by
  rw [UInt64.toNat_ofNat']
  omega

theorem Attends.keeps (attends : srv.Attends k x msg pt) (keeps : srv.Keeps k k₁) :
    srv.Attends k₁ x msg pt := by
  have endpoint := keeps.endpoint
  have awaited {bytes : List UInt8} (before : srv.Awaited k bytes) : srv.Awaited k₁ bytes :=
    before.congr (by rw [endpoint]) (by rw [endpoint]) (by rw [endpoint])
  cases attends with
  | idle free empty awake =>
      exact .idle (by rw [endpoint]; exact free) (by rw [endpoint]; exact empty)
        (mt keeps.blocked.mp awake)
  | listening free empty blocked receiver buffer cap =>
      refine .listening ?_ ?_ (keeps.blocked.mpr blocked) ?_ ?_ ?_
      all_goals rw [endpoint]
      · exact free
      · exact empty
      · exact receiver
      · exact buffer
      · exact cap
  | pending before full length content awake =>
      refine .pending (awaited before) ?_ ?_ ?_ (mt keeps.blocked.mp awake)
      all_goals rw [endpoint]
      · exact full
      · exact length
      · exact content
  | delivered before empty awake told content =>
      refine .delivered (awaited before) (by rw [endpoint]; exact empty) (mt keeps.blocked.mp awake)
        told (Eq.trans (readBytes_congr fun i below => ?_) content)
      rw [toNat_length before.short] at below
      exact keeps.content i (Nat.lt_of_lt_of_le below before.short)
  | handled before empty awake =>
      exact .handled (awaited before) (by rw [endpoint]; exact empty) (mt keeps.blocked.mp awake)

/-! ## The traps of the server -/

inductive Makes (srv : Server) (x : UInt64) (tf : TrapFrame) : Point → Point → Prop
  | recv {pt : Point} (asks : Asks tf sysIpcRecv) (endpoint : tf.x 0 = srv.id)
      (buffer : tf.x 1 = srv.buf) (cap : tf.x 2 = ipcMsgSize)
      (start : pt = .ready ∨ pt = .received ∧ x = minusOne) : Makes srv x tf pt .received
  | write (asks : Asks tf sysWrite) : Makes srv x tf .received .handled
  | reply {pt : Point} (asks : Asks tf sysIpcReply) (endpoint : tf.x 0 = srv.id)
      (buffer : tf.x 1 = srv.buf)
      (length : pt = .received ∧ tf.x 2 = x ∨ pt = .handled ∧ tf.x 2 = 0) : Makes srv x tf pt .ready

inductive Acts (srv : Server) (k : Kernel) (tf : TrapFrame) :
    Option (List UInt8) → Point → Option (List UInt8) → Point → Kernel → UInt64 → Prop
  | take {bytes : List UInt8} (pending : (k.endpoints srv.ep).hasPending = true) :
      Acts srv k tf (some bytes) .ready (some bytes) .received
        (k.takePending srv.slot srv.ep srv.buf ipcMsgSize)
        (minU64 (k.endpoints srv.ep).pendingLen ipcMsgSize)
  | listen {y : UInt64} : Acts srv k tf none .ready none .received
      ((k.listen srv.slot srv.ep srv.buf ipcMsgSize).leaveBlocked srv.slot tf) y
  | write {bytes : List UInt8} {k₁ : Kernel} {y : UInt64}
      (prints : k₁ = k ∨ k₁ = uartWriteDirect k (tf.x 0) (tf.x 1)) :
      Acts srv k tf (some bytes) .received (some bytes) .handled k₁ y
  | answer {bytes : List UInt8} {pt : Point} {len : UInt64}
      (length : pt = .received ∧ len = .ofNat bytes.length ∨ pt = .handled ∧ len = 0) :
      Acts srv k tf (some bytes) pt none .ready (k.answer srv.slot srv.ep srv.buf len slotTaskA) 0

theorem owns (srv : Server) (kernel : KernelOk L cfg k none) (mode : cfg.mode = .latency) :
    (k.endpoints srv.ep).ownerSlot = srv.slot.u32 :=
  (kernel.owners srv.ep).trans (srv.owner cfg mode)

theorem not_client (srv : Server) : ¬ (srv.slot ≠ slotTaskB ∧ srv.slot ≠ slotTaskC) :=
  (by decide : ∀ s : Slot, s ≠ slotIdle → s ≠ slotTaskA → ¬ (s ≠ slotTaskB ∧ s ≠ slotTaskC)) srv.slot
    srv.user srv.other

theorem recv_cases (srv : Server) (kernel : KernelOk L cfg k none) (active : Active k srv.slot)
    (mode : cfg.mode = .latency) (asks : Asks tf sysIpcRecv) (endpoint : tf.x 0 = srv.id)
    (buffer : tf.x 1 = srv.buf) (cap : tf.x 2 = ipcMsgSize) (effect : Effect cfg k srv.slot tf k₁ o) :
    OwnerRecv k srv.slot srv.ep srv.buf ipcMsgSize k₁ o :=
  effect.owner_recv kernel active asks (srv.owns kernel mode) (endpoint ▸ srv.found) buffer cap
    (srv.range _ (UInt64.le_refl _))

theorem Attends.some_of_active (attends : srv.Attends k x msg pt) (active : Active k srv.slot)
    (held : pt ≠ .ready) : ∃ bytes, msg = some bytes := by
  cases attends with
  | idle => exact absurd rfl held
  | pending => exact absurd rfl held
  | listening _ _ blocked => exact absurd blocked active.not_blocked
  | delivered => exact ⟨_, rfl⟩
  | handled => exact ⟨_, rfl⟩

theorem Attends.told (attends : srv.Attends k x (some bytes) .received) : x = .ofNat bytes.length := by
  cases attends with
  | delivered _ _ _ told => exact told

theorem Attends.at_start (attends : srv.Attends k x msg pt) (active : Active k srv.slot)
    (start : pt = .ready ∨ pt = .received ∧ x = minusOne) : pt = .ready := by
  rcases start with ready | ⟨rfl, failed⟩
  · exact ready
  · obtain ⟨bytes, rfl⟩ := attends.some_of_active active (by nofun)
    exact absurd (attends.told.symm.trans failed) (length_ne_minusOne attends.awaited.short)

theorem Attends.pending_iff (attends : srv.Attends k x msg .ready) :
    (k.endpoints srv.ep).hasPending = true ↔ ∃ bytes, msg = some bytes := by
  cases attends with
  | idle _ empty => simp [empty]
  | pending _ full => simp [full]

theorem acts_back (attends : srv.Attends k x msg pt) (kernel : KernelOk L cfg k none)
    (active : Active k srv.slot) (mode : cfg.mode = .latency) (makes : srv.Makes x tf pt pt')
    (effect : Effect cfg k srv.slot tf k₁ (.back y)) : ∃ msg', srv.Acts k tf msg pt msg' pt' k₁ y := by
  cases makes with
  | recv asks endpoint buffer cap start =>
      cases attends.at_start active start
      cases srv.recv_cases kernel active mode asks endpoint buffer cap effect with
      | take pending =>
          obtain ⟨bytes, rfl⟩ := attends.pending_iff.mp pending
          exact ⟨_, .take pending⟩
  | write asks =>
      obtain ⟨bytes, rfl⟩ := attends.some_of_active active (by nofun)
      cases effect.of_write asks with
      | refused => exact ⟨_, .write (.inl rfl)⟩
      | direct => exact ⟨_, .write (.inr rfl)⟩
  | reply asks endpoint buffer length =>
      have held : pt ≠ .ready := by
        rcases length with ⟨rfl, _⟩ | ⟨rfl, _⟩
        · nofun
        · nofun
      obtain ⟨bytes, rfl⟩ := attends.some_of_active active held
      have awaited := attends.awaited
      have found : getEndpoint (tf.x 0) = some srv.ep := endpoint ▸ srv.found
      have told : pt = .received ∧ tf.x 2 = .ofNat bytes.length ∨ pt = .handled ∧ tf.x 2 = 0 := by
        rcases length with ⟨rfl, len⟩ | handled
        · exact .inl ⟨rfl, len.trans attends.told⟩
        · exact .inr handled
      have fits : tf.x 2 ≤ ipcMsgSize := by
        rcases told with ⟨_, len⟩ | ⟨_, len⟩
        · rw [len, UInt64.le_iff_toNat_le, toNat_length awaited.short]
          exact awaited.short
        · rw [len]
          decide
      cases effect.of_reply asks with
      | refused no =>
          have free := no srv.ep found fits (buffer ▸ srv.range _ fits) (srv.owns kernel mode)
          exact absurd (free.symm.trans awaited.caller) (Slot.none_ne_i32 _)
      | answer here _ _ _ waiting =>
          cases Option.some_inj.mp (found.symm.trans here)
          cases Slot.i32_inj.mp (awaited.caller.symm.trans waiting)
          rw [buffer]
          exact ⟨none, .answer told⟩

theorem acts_away {reason : TaskReturnReason} (attends : srv.Attends k x msg pt)
    (kernel : KernelOk L cfg k none) (active : Active k srv.slot) (mode : cfg.mode = .latency)
    (makes : srv.Makes x tf pt pt') (effect : Effect cfg k srv.slot tf k₁ (.away reason))
    (left : Left (k₁.saveFrame srv.slot tf reason) srv.slot reason k₂) (y : UInt64) :
    ∃ msg', srv.Acts k tf msg pt msg' pt' (k₂.setResched false) y := by
  cases makes with
  | recv asks endpoint buffer cap start =>
      cases attends.at_start active start
      cases srv.recv_cases kernel active mode asks endpoint buffer cap effect with
      | listen quiet =>
          cases left.blocked (.inl rfl)
          cases attends with
          | idle => exact ⟨none, .listen⟩
          | pending _ full =>
              rw [full] at quiet
              cases quiet
  | write asks =>
      cases effect.of_write asks with
      | park _ client | handOver _ client => exact absurd client srv.not_client
  | reply asks => cases effect.of_reply asks

/-! ## Where a trap of the server leads -/

theorem Attends.takes (attends : srv.Attends k x (some bytes) .ready) :
    srv.Attends (k.takePending srv.slot srv.ep srv.buf ipcMsgSize)
      (minU64 (k.endpoints srv.ep).pendingLen ipcMsgSize) (some bytes) .received := by
  cases attends with
  | pending awaited _ length content awake =>
      have size : (UInt64.ofNat bytes.length).toNat = bytes.length := toNat_length awaited.short
      have whole : minU64 (k.endpoints srv.ep).pendingLen ipcMsgSize = .ofNat bytes.length := by
        rw [length, minU64_of_le]
        rw [UInt64.le_iff_toNat_le, size]
        exact awaited.short
      have read : readBytes (k.takePending srv.slot srv.ep srv.buf ipcMsgSize).mem srv.buf
          (.ofNat bytes.length) = bytes := by
        refine Eq.trans ?_ content
        rw [readBytes, size]
        refine List.map_congr_left fun i member => ?_
        have below : i < (UInt64.ofNat bytes.length).toNat := by
          rw [size]
          exact List.mem_range.mp member
        have some_ : UInt64.ofNat bytes.length > 0 :=
          UInt64.lt_iff_toNat_lt.mpr (Nat.zero_lt_of_lt below)
        simp only [Kernel.takePending, whole]
        simp [some_, bytesCopyOut_at below]
      refine .delivered (awaited.congr ?_ ?_ ?_) ?_ awake whole read
      · simp [Kernel.takePending]
      · simp [Kernel.takePending]
      · simp [Kernel.takePending]
      · simp [Kernel.takePending]

theorem Acts.attends {k' : Kernel} (acts : srv.Acts k tf msg pt msg' pt' k' y)
    (attends : srv.Attends k x msg pt) (active : Active k srv.slot) :
    srv.Attends k' y msg' pt' := by
  cases acts with
  | take => exact attends.takes
  | listen =>
      obtain ⟨free, empty⟩ := attends.free
      refine .listening ?_ ?_ ?_ ?_ ?_ ?_
      · simpa [Kernel.leaveBlocked, Kernel.listen] using free
      · simpa [Kernel.leaveBlocked, Kernel.listen] using empty
      · simp [Kernel.leaveBlocked]
      · simp [Kernel.leaveBlocked, Kernel.listen]
      · simp [Kernel.leaveBlocked, Kernel.listen]
      · simp [Kernel.leaveBlocked, Kernel.listen]
  | write prints =>
      cases attends with
      | delivered awaited empty awake =>
          rcases prints with rfl | rfl
          · exact .handled awaited empty awake
          · exact .handled (awaited.congr rfl rfl rfl) empty awake
  | answer length =>
      have other := srv.other
      refine .idle (by simp [Kernel.answer]) ?_ ?_
      · cases attends with
        | pending => simp at length
        | delivered _ empty | handled _ empty => simpa [Kernel.answer] using empty
      · simpa [Kernel.answer, other] using active.not_blocked

theorem Acts.alive {k' : Kernel} (acts : srv.Acts k tf msg pt msg' pt' k' y)
    (active : Active k srv.slot) : (k'.threads srv.slot).user.state ≠ .dead := by
  have alive : (k.threads srv.slot).user.state ≠ .dead := by
    rw [active.running]
    nofun
  cases acts with
  | take => exact alive
  | listen => simp [Kernel.leaveBlocked]
  | write prints =>
      rcases prints with rfl | rfl
      · exact alive
      · exact alive
  | answer => simpa [Kernel.answer, srv.other] using alive

theorem Acts.mem {k' : Kernel} (acts : srv.Acts k tf msg pt msg' pt' k' y)
    (attends : srv.Attends k x msg pt) {address : UInt64}
    (outside : ∀ i < 256, address ≠ srv.buf + .ofNat i)
    (unreplied : msg ≠ none → msg' = none → ∀ i < (k.endpoints srv.ep).callerReplyCap.toNat,
      address ≠ (k.endpoints srv.ep).callerReplyPtr + .ofNat i) : k'.mem address = k.mem address := by
  cases acts with
  | take =>
      simp only [Kernel.takePending, Kernel.modifyEndpoint_mem, Kernel.record_mem, Kernel.copyOut_mem]
      split
      · refine Bytes.storeLoop_outside fun i below => outside i ?_
        exact Nat.lt_of_lt_of_le below (minU64_le_right _ _)
      · rfl
  | listen => rfl
  | write prints =>
      rcases prints with rfl | rfl
      · rfl
      · rfl
  | answer =>
      simp only [Kernel.answer, Kernel.setResched_mem, Kernel.modifyEndpoint_mem, Kernel.record_mem,
        Kernel.wake_mem, Kernel.copyUser_mem]
      split
      · refine Bytes.storeLoop_outside fun i below => unreplied (by simp) rfl i ?_
        exact Nat.lt_of_lt_of_le below (minU64_le_right _ _)
      · rfl

structure Apart (srv srv' : Server) : Prop where
  slot : srv.slot ≠ srv'.slot
  ep : srv.ep ≠ srv'.ep
  bufs : ∀ i < 256, ∀ j < 256, srv.buf + .ofNat i ≠ srv'.buf + .ofNat j

theorem Acts.keeps {k' : Kernel} (acts : srv'.Acts k tf msg pt msg' pt' k' y)
    (attends : srv'.Attends k x msg pt) (apart : srv.Apart srv') :
    srv.Keeps k k' ∧ k'.threads srv.slot = k.threads srv.slot := by
  have ep := apart.ep
  have content : ∀ i < 256, k'.mem (srv.buf + .ofNat i) = k.mem (srv.buf + .ofNat i) := by
    intro i below
    refine acts.mem attends (apart.bufs i below) fun held _ j inside same => ?_
    cases msg with
    | none => exact held rfl
    | some bytes => exact attends.awaited.reply j inside (same ▸ srv.stack i below)
  have thread : k'.threads srv.slot = k.threads srv.slot := by
    cases acts with
    | take => rfl
    | listen => simp [Kernel.leaveBlocked, Kernel.listen, apart.slot]
    | write prints =>
        rcases prints with rfl | rfl
        · rfl
        · rfl
    | answer => simp [Kernel.answer, srv.other]
  refine ⟨.of_thread ?_ content thread, thread⟩
  cases acts with
  | take => exact takePending_on.elsewhere srv.ep ep
  | listen => exact listen_on.elsewhere srv.ep ep
  | write prints =>
      rcases prints with rfl | rfl
      · rfl
      · rfl
  | answer => exact answer_on.elsewhere srv.ep ep

theorem Acts.same_or_answer {k' : Kernel} (acts : srv.Acts k tf msg pt msg' pt' k' y) :
    msg' = msg ∨ msg' = none ∧ ∃ bytes len, msg = some bytes ∧
      (pt = .received ∧ len = .ofNat bytes.length ∨ pt = .handled ∧ len = 0) ∧
        k' = k.answer srv.slot srv.ep srv.buf len slotTaskA := by
  cases acts with
  | take | listen | write => exact .inl rfl
  | @answer bytes pt len length => exact .inr ⟨rfl, bytes, len, rfl, length, rfl⟩

theorem Acts.client {k' : Kernel} (acts : srv.Acts k tf msg pt msg' pt' k' y) (same : msg' = msg) :
    k'.threads slotTaskA = k.threads slotTaskA := by
  have other := srv.other.symm
  cases acts with
  | take => rfl
  | listen => simp [Kernel.leaveBlocked, Kernel.listen, other]
  | write prints =>
      rcases prints with rfl | rfl
      · rfl
      · rfl
  | answer => cases same

theorem Acts.supervisor {k' : Kernel} (acts : srv.Acts k tf msg pt msg' pt' k' y) :
    k'.blockedSupervisorSlot = k.blockedSupervisorSlot := by
  cases acts with
  | take | listen | answer => rfl
  | write prints =>
      rcases prints with rfl | rfl
      · rfl
      · rfl

/-! ## The calls left -/

/-- The calls of the server until it waits for a message. -/
def work (srv : Server) (k : Kernel) : Point → Nat
  | .ready => if (k.endpoints srv.ep).hasPending then 4 else 1
  | .received => if (k.threads srv.slot).user.state = .blocked then 0 else 3
  | .handled => 2

theorem work_le (srv : Server) (k : Kernel) (pt : Point) : srv.work k pt ≤ 4 := by
  cases pt with
  | ready | received =>
      simp only [work]
      split
      · simp
      · simp
  | handled => simp [work]

theorem Keeps.work (keeps : srv.Keeps k k₁) (pt : Point) : srv.work k₁ pt = srv.work k pt := by
  cases pt with
  | ready => simp only [Server.work, keeps.endpoint]
  | received => simp only [Server.work, keeps.blocked]
  | handled => rfl

theorem Acts.lower {k' : Kernel} (acts : srv.Acts k tf msg pt msg' pt' k' y)
    (attends : srv.Attends k x msg pt) (active : Active k srv.slot) :
    srv.work k' pt' < srv.work k pt := by
  have after := acts.attends attends active
  cases acts with
  | take pending =>
      simp only [work, pending, if_true]
      split
      · simp
      · simp
  | listen =>
      cases after with
      | listening _ _ blocked =>
          simp only [work, blocked, if_true]
          split
          · simp
          · simp
  | write =>
      simp [work, active.not_blocked]
  | answer length =>
      simp only [work, after.free.2]
      rcases length with ⟨rfl, _⟩ | ⟨rfl, _⟩
      · simp [active.not_blocked]
      · simp

end Server

/-! ## The traps of `task_a` -/

structure Send.Outside (d : Send) : Prop where
  message : ∀ i < d.len.toNat, ¬ OtherStack (d.ptr + .ofNat i)
  reply : ∀ i < d.replyCap.toNat, ¬ OtherStack (d.replyPtr + .ofNat i)

theorem KeepsOut.send {stores : List (SandboxAddress × UInt8)} (keeps : KeepsOut stores tf)
    (sends : Sends cfg t tf e d) : d.Outside := by
  have buffers := keeps.2
  cases sends with
  | call asks =>
      have other : sysIpcCall ≠ sysWrite := by decide
      simp only [TrapFrame.buffers, asks.svc, asks.number, other, ne_eq, not_true_eq_false, if_false,
        if_true] at buffers
      exact ⟨buffers (tf.x 1, tf.x 2) (by simp), buffers (tf.x 3, tf.x 4) (by simp)⟩
  | route asks =>
      simp only [TrapFrame.buffers, asks.svc, asks.number, ne_eq, not_true_eq_false, if_false,
        if_true] at buffers
      exact ⟨buffers (tf.x 0, tf.x 1) (by simp), by simp⟩

inductive Hands (k : Kernel) (e : EpId) (d : Send) : Kernel → Prop
  | park (absent : (k.endpoints e).blockedReceiverSlot = slotNone) :
      Hands k e d (k.parkRequest slotTaskA e d)
  | handOver {s : Slot} (waiting : (k.endpoints e).blockedReceiverSlot = s.i32) :
      Hands k e d (k.handOver slotTaskA e d s)

inductive ClientActs (cfg : Config) (k : Kernel) (tf : TrapFrame) : Kernel → Prop
  | aside {k' : Kernel} (declines : ∀ e d, Sends cfg slotTaskA tf e d → ¬ Accepts k e d)
      (threads : ∀ s, s ≠ slotTaskA → k'.threads s = k.threads s)
      (endpoints : k'.endpoints = k.endpoints) (mem : k'.mem = k.mem)
      (supervisor : k'.blockedSupervisorSlot = slotNone) : ClientActs cfg k tf k'
  | sends {e : EpId} {d : Send} {k₁ : Kernel} (sends : Sends cfg slotTaskA tf e d)
      (accepts : Accepts k e d) (hands : Hands k e d k₁) :
      ClientActs cfg k tf (k₁.leaveBlocked slotTaskA tf)

theorem initialOwner_client (cfg : Config) (e : EpId) : initialOwner cfg e ≠ slotTaskA.u32 := by
  unfold initialOwner
  split_ifs
  · decide
  · decide
  · decide

theorem KernelOk.unowned (kernel : KernelOk L cfg k none) (e : EpId) :
    (k.endpoints e).ownerSlot ≠ slotTaskA.u32 := by
  rw [kernel.owners]
  exact initialOwner_client cfg e

theorem Aborts.of_unowned (aborts : Aborts t k k₁)
    (unowned : ∀ e, (k.endpoints e).ownerSlot ≠ t.u32) : k₁ = k := by
  induction aborts with
  | refl => rfl
  | @abort k' e s _ owner _ _ ih =>
      subst ih
      exact absurd owner (unowned e)

theorem Left.of_unowned {reason : TaskReturnReason} (left : Left k t reason k₁)
    (unowned : ∀ e, (k.endpoints e).ownerSlot ≠ t.u32)
    (quiet : k.blockedSupervisorSlot = slotNone) :
    (∀ s, s ≠ t → k₁.threads s = k.threads s) ∧ k₁.endpoints = k.endpoints ∧ k₁.mem = k.mem ∧
      k₁.blockedSupervisorSlot = slotNone := by
  cases left with
  | yield => exact ⟨fun s other => by simp [other], rfl, rfl, quiet⟩
  | block => exact ⟨fun s other => by simp [other], rfl, rfl, quiet⟩
  | death _ _ _ aborts _ noted =>
      cases aborts.of_unowned unowned
      cases noted with
      | woke waiting => exact absurd (quiet.symm.trans waiting) (Slot.none_ne_i32 _)
      | kept => exact ⟨fun s other => by simp [Kernel.dying, other], rfl, rfl, quiet⟩
      | overwrote => exact ⟨fun s other => by simp [Kernel.dying, other], rfl, rfl, quiet⟩

theorem client_back (kernel : KernelOk L cfg k none) (quiet : k.blockedSupervisorSlot = slotNone)
    (effect : Effect cfg k slotTaskA tf k₁ (.back y)) : ClientActs cfg k tf k₁ := by
  have declines : ∀ e d, Sends cfg slotTaskA tf e d → ¬ Accepts k e d := by
    intro e d sends
    cases effect.of_sends sends with
    | refused no => exact no
  cases effect with
  | refused | ticks | write => exact .aside declines (fun _ _ => rfl) rfl rfl quiet
  | take _ _ _ owner | answer _ _ _ _ owner => exact absurd owner (kernel.unowned _)
  | report _ supervisor | restart _ supervisor => exact absurd supervisor (by decide)

theorem client_away {reason : TaskReturnReason} (kernel : KernelOk L cfg k none)
    (quiet : k.blockedSupervisorSlot = slotNone)
    (effect : Effect cfg k slotTaskA tf k₁ (.away reason))
    (left : Left (k₁.saveFrame slotTaskA tf reason) slotTaskA reason k₂) :
    ClientActs cfg k tf (k₂.setResched false) := by
  have declines (other : reason ≠ .ipcBlock) : ∀ e d, Sends cfg slotTaskA tf e d → ¬ Accepts k e d := by
    intro e d sends
    cases effect.of_sends sends with
    | park | handOver => exact absurd rfl other
  have aside (threads : k₁.threads = k.threads) (endpoints : k₁.endpoints = k.endpoints)
      (mem : k₁.mem = k.mem) (supervisor : k₁.blockedSupervisorSlot = slotNone)
      (other : reason ≠ .ipcBlock) : ClientActs cfg k tf (k₂.setResched false) := by
    have unowned : ∀ e, (k₁.endpoints e).ownerSlot ≠ slotTaskA.u32 := by
      rw [endpoints]
      exact kernel.unowned
    obtain ⟨threads₂, endpoints₂, mem₂, supervisor₂⟩ := left.of_unowned unowned supervisor
    refine .aside (declines other) (fun s other => ?_) (endpoints₂.trans endpoints) (mem₂.trans mem)
      supervisor₂
    refine (threads₂ s other).trans ?_
    simp [other, threads]
  cases effect with
  | yield => exact aside rfl rfl rfl quiet (by nofun)
  | exit => exact aside rfl rfl rfl quiet (by nofun)
  | fault => exact aside rfl rfl rfl quiet (by nofun)
  | park sends accepts absent =>
      cases left.blocked (.inl rfl)
      exact .sends sends accepts (.park absent)
  | handOver sends accepts waiting =>
      cases left.blocked (.inl rfl)
      exact .sends sends accepts (.handOver waiting)
  | listen _ _ _ owner => exact absurd owner (kernel.unowned _)
  | await _ supervisor => exact absurd supervisor (by decide)

/-! A message reaches its server, and leaves the other server as it is. -/

namespace Server

theorem Attends.receiver (attends : srv.Attends k x none pt) (kernel : KernelOk L cfg k none)
    (mode : cfg.mode = .latency) (waiting : (k.endpoints srv.ep).blockedReceiverSlot = s.i32) :
    s = srv.slot ∧ pt = .received ∧ (k.endpoints srv.ep).receiverBufPtr = srv.buf ∧
      (k.endpoints srv.ep).receiverBufCap = ipcMsgSize := by
  have here : s = srv.slot :=
    Slot.u32_inj.mp ((kernel.receiver_owner waiting).symm.trans (srv.owns kernel mode))
  have waits := (kernel.recorded (w := .receiver srv.ep) waiting).2
  cases attends with
  | idle _ _ awake => exact absurd (here ▸ waits) awake
  | listening _ _ _ _ buffer cap => exact ⟨here, rfl, buffer, cap⟩

theorem Attends.sent (attends : srv.Attends k x none pt) (kernel : KernelOk L cfg k none)
    (mode : cfg.mode = .latency) (accepts : Accepts k srv.ep d) (outside : d.Outside)
    (hands : Hands k srv.ep d k₁) :
    srv.Attends (k₁.leaveBlocked slotTaskA tf)
      (((k₁.leaveBlocked slotTaskA tf).threads srv.slot).user.ctx.x 0)
      (some (readBytes k.mem d.ptr d.len)) pt := by
  have other := srv.other
  have short : (readBytes k.mem d.ptr d.len).length ≤ 256 := short_payload accepts.length
  cases hands with
  | park absent =>
      cases attends with
      | listening _ _ _ receiver => exact absurd (absent.symm.trans receiver) (Slot.none_ne_i32 _)
      | idle free empty awake =>
          have content : (List.range (readBytes k.mem d.ptr d.len).length).map
              ((k.parkRequest slotTaskA srv.ep d).endpoints srv.ep).pendingMsg =
                readBytes k.mem d.ptr d.len := by
            rw [readBytes_length]
            refine List.map_congr_left fun i member => ?_
            have below : i < d.len.toNat := List.mem_range.mp member
            have some_ : d.len > 0 := UInt64.lt_iff_toNat_lt.mpr (Nat.zero_lt_of_lt below)
            simp only [Kernel.parkRequest, Kernel.registerCaller]
            simp [some_, bytesCopyIn_at below]
          refine .pending ⟨?_, short, ?_⟩ ?_ ?_ content ?_
          · simp [Kernel.leaveBlocked, Kernel.parkRequest, Kernel.registerCaller]
          · simpa [Kernel.leaveBlocked, Kernel.parkRequest, Kernel.registerCaller] using outside.reply
          · simp [Kernel.leaveBlocked, Kernel.parkRequest]
          · simp [Kernel.leaveBlocked, Kernel.parkRequest]
          · simpa [Kernel.leaveBlocked, Kernel.parkRequest, Kernel.registerCaller, other] using awake
  | @handOver s waiting =>
      obtain ⟨rfl, rfl, buffer, cap⟩ := attends.receiver kernel mode waiting
      obtain ⟨_, empty⟩ := attends.free
      have whole : minU64 d.len (k.endpoints srv.ep).receiverBufCap = d.len := by
        rw [cap, minU64_of_le accepts.length]
      have small : d.len.toNat ≤ 256 := UInt64.le_iff_toNat_le.mp accepts.length
      have content : readBytes (k.handOver slotTaskA srv.ep d srv.slot).mem srv.buf
          (.ofNat (readBytes k.mem d.ptr d.len).length) = readBytes k.mem d.ptr d.len := by
        rw [payload_length]
        refine List.map_congr_left fun i member => ?_
        have below : i < d.len.toNat := List.mem_range.mp member
        have some_ : d.len > 0 := UInt64.lt_iff_toNat_lt.mpr (Nat.zero_lt_of_lt below)
        have disjoint : ∀ i < d.len.toNat, ∀ j < d.len.toNat, d.ptr + .ofNat i ≠ srv.buf + .ofNat j := by
          intro i belowI j belowJ same
          refine outside.message i belowI ?_
          rw [same]
          exact srv.stack j (Nat.lt_of_lt_of_le belowJ small)
        simp only [Kernel.handOver, Kernel.registerCaller, whole]
        simp [some_, buffer, bytesCopy_at disjoint below]
      refine .delivered ⟨?_, short, ?_⟩ ?_ ?_ ?_ content
      · simp [Kernel.leaveBlocked, Kernel.handOver, Kernel.registerCaller]
      · simpa [Kernel.leaveBlocked, Kernel.handOver, Kernel.registerCaller] using outside.reply
      · simpa [Kernel.leaveBlocked, Kernel.handOver, Kernel.registerCaller] using empty
      · simp [Kernel.leaveBlocked, Kernel.handOver, Thread.wake, other]
      · rw [payload_length]
        simp only [Kernel.leaveBlocked, Kernel.handOver, whole]
        simp [Thread.wake, other]

theorem Attends.sent_mem (attends : srv.Attends k x none pt) (kernel : KernelOk L cfg k none)
    (mode : cfg.mode = .latency) (hands : Hands k srv.ep d k₁) {address : UInt64}
    (outside : ∀ i < 256, address ≠ srv.buf + .ofNat i) : k₁.mem address = k.mem address := by
  cases hands with
  | park => rfl
  | handOver waiting =>
      obtain ⟨rfl, rfl, buffer, cap⟩ := attends.receiver kernel mode waiting
      simp only [Kernel.handOver, Kernel.setResched_mem, Kernel.modifyEndpoint_mem, Kernel.record_mem,
        Kernel.wake_mem, Kernel.copyUser_mem, Kernel.registerCaller, buffer, cap]
      split
      · refine Bytes.storeLoop_outside fun i below => outside i ?_
        exact Nat.lt_of_lt_of_le below (minU64_le_right _ _)
      · rfl

theorem Attends.sent_elsewhere (attends : srv'.Attends k x none pt) (kernel : KernelOk L cfg k none)
    (mode : cfg.mode = .latency) (apart : srv.Apart srv') (hands : Hands k srv'.ep d k₁)
    (tf : TrapFrame) :
    srv.Keeps k (k₁.leaveBlocked slotTaskA tf) ∧
      (k₁.leaveBlocked slotTaskA tf).threads srv.slot = k.threads srv.slot := by
  have other := srv.other
  have content (i : Nat) (below : i < 256) : k₁.mem (srv.buf + .ofNat i) = k.mem (srv.buf + .ofNat i) :=
    attends.sent_mem kernel mode hands (apart.bufs i below)
  have thread : (k₁.leaveBlocked slotTaskA tf).threads srv.slot = k.threads srv.slot := by
    cases hands with
    | park => simp [Kernel.leaveBlocked, Kernel.parkRequest, Kernel.registerCaller, other]
    | handOver waiting =>
        obtain ⟨rfl, _⟩ := attends.receiver kernel mode waiting
        simp [Kernel.leaveBlocked, Kernel.handOver, Kernel.registerCaller, other, apart.slot]
  refine ⟨.of_thread ?_ content thread, thread⟩
  cases hands with
  | park => exact parkRequest_on.elsewhere srv.ep apart.ep
  | handOver => exact handOver_on.elsewhere srv.ep apart.ep

end Server

end ProtoOs
