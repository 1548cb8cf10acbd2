import ProtoOs.Proof.Slots
import ProtoOs.Proof.UserAccess

/-!
# The bytes of messages and replies

A message that is parked in `pending_msg` arrives as it was sent. A message that is handed to a
blocked receiver, and a reply, is copied from buffer to buffer in increasing order, and arrives as it
was sent unless the receiving buffer begins within it.
-/

namespace ProtoOs

open Transition.System

variable {L : Layout} {cfg : Config} {k k₁ : Kernel} {m m' : Machine} {t : Slot} {e : EpId}
  {tf : TrapFrame} {stores : List (SandboxAddress × UInt8)} {h : List (Machine × Action)}
  {mem mem' : Memory} {src dst n : UInt64} {msg message : Nat → UInt8} {source : Option UInt64}

/-! ## Copies -/

/-- The first `n` bytes of the buffer at `dst` are those of the message, and the others as before. -/
structure Arrives (mem mem' : Memory) (dst n : UInt64) (message : Nat → UInt8) : Prop where
  inside : ∀ i < n.toNat, mem' (dst + .ofNat i) = message i
  outside : ∀ address, (∀ i < n.toNat, address ≠ dst + .ofNat i) → mem' address = mem address

theorem Arrives.unique {mem'' : Memory} (first : Arrives mem mem' dst n message)
    (second : Arrives mem mem'' dst n message) : mem' = mem'' := by
  funext address
  by_cases inside : ∃ i < n.toNat, address = dst + .ofNat i
  · obtain ⟨i, below, rfl⟩ := inside
    rw [first.inside i below, second.inside i below]
  · have outside : ∀ i < n.toNat, address ≠ dst + .ofNat i :=
      fun i below here => inside ⟨i, below, here⟩
    rw [first.outside address outside, second.outside address outside]

theorem copyUser_mem : (k.copyUser dst src n).mem = bytesCopy dst src n k.mem :=
  guarded fun none => by subst none; rfl

theorem copyOut_mem : (k.copyOut e dst n).mem = bytesCopyOut dst n (k.endpoints e).pendingMsg k.mem :=
  guarded fun none => by subst none; rfl

theorem bytesCopy_arrives (short : n.toNat ≤ ipcMsgSize.toNat) :
    Arrives mem (bytesCopy dst src n mem) dst n (fun i => mem (src + .ofNat i)) ↔
      ∀ s ∈ some src, Repeats mem s (dst - s).toNat n.toNat := by
  simp only [Option.mem_some_iff, forall_eq']
  rw [← bytesCopy_iff short]
  refine ⟨fun arrives => arrives.inside, fun inside => ⟨inside, fun address outside => ?_⟩⟩
  exact Bytes.storeLoop_outside outside

theorem bytesCopyOut_arrives (same : ∀ i < n.toNat, msg i = message i) :
    Arrives mem (bytesCopyOut dst n msg mem) dst n message :=
  ⟨fun i below => (bytesCopyOut_at below).trans (same i below),
    fun _ outside => Bytes.storeLoop_outside outside⟩

/-! ## Transfers -/

/-- A trap that delivers a message or replies: the buffer it copies from, if any, the one it copies
to, the length, and the bytes that the sender's buffer held at the trap of the call or the reply. -/
inductive Transfers (cfg : Config) (h : List (Machine × Action)) (m : Machine)
    (stores : List (SandboxAddress × UInt8)) (tf : TrapFrame) :
    Option UInt64 → UInt64 → UInt64 → (Nat → UInt8) → Prop
  | handOver {e : EpId} {t : Slot} {d : Send} {ptr cap : UInt64}
      (current : m.kernel.current = some t) (sends : Sends cfg t tf e d)
      (accepts : Accepts (m.trapped stores) e d)
      (waiting : (m.kernel.endpoints e).blockedReceiverSlot ≠ slotNone)
      (listened : Latest (Listens e) h (ptr, cap)) :
      Transfers cfg h m stores tf (some d.ptr) ptr (minU64 d.len cap)
        fun i => (m.trapped stores).mem (d.ptr + .ofNat i)
  | take {e : EpId} {t : Slot} {d : Send} {sent : Memory} (current : m.kernel.current = some t)
      (asks : Asks tf sysIpcRecv) (found : getEndpoint (tf.x 0) = some e)
      (range : el0BufRangeOk (tf.x 1) (tf.x 2)) (owner : (m.kernel.endpoints e).ownerSlot = t.u32)
      (pending : (m.kernel.endpoints e).hasPending = true)
      (called : Latest (Calls cfg e) h (d, sent)) :
      Transfers cfg h m stores tf none (tf.x 1) (minU64 d.len (tf.x 2))
        fun i => sent (d.ptr + .ofNat i)
  | reply {e : EpId} {t : Slot} {d : Send} {sent : Memory} (current : m.kernel.current = some t)
      (asks : Asks tf sysIpcReply) (found : getEndpoint (tf.x 0) = some e)
      (length : tf.x 2 ≤ ipcMsgSize) (range : el0BufRangeOk (tf.x 1) (tf.x 2))
      (owner : (m.kernel.endpoints e).ownerSlot = t.u32)
      (waiting : (m.kernel.endpoints e).blockedCallerSlot ≠ slotNone)
      (called : Latest (Calls cfg e) h (d, sent)) :
      Transfers cfg h m stores tf (some (tf.x 1)) d.replyPtr (minU64 (tf.x 2) d.replyCap)
        fun i => (m.trapped stores).mem (tf.x 1 + .ofNat i)

/-- A trap that hands a message to a blocked receiver, takes a pending one, or replies. -/
inductive Conveys (cfg : Config) (m : Machine) (stores : List (SandboxAddress × UInt8))
    (tf : TrapFrame) : Prop
  | handOver {e : EpId} {t : Slot} {d : Send} (current : m.kernel.current = some t)
      (sends : Sends cfg t tf e d) (accepts : Accepts (m.trapped stores) e d)
      (waiting : (m.kernel.endpoints e).blockedReceiverSlot ≠ slotNone) : Conveys cfg m stores tf
  | take {e : EpId} {t : Slot} (current : m.kernel.current = some t) (asks : Asks tf sysIpcRecv)
      (found : getEndpoint (tf.x 0) = some e) (range : el0BufRangeOk (tf.x 1) (tf.x 2))
      (owner : (m.kernel.endpoints e).ownerSlot = t.u32)
      (pending : (m.kernel.endpoints e).hasPending = true) : Conveys cfg m stores tf
  | reply {e : EpId} {t : Slot} (current : m.kernel.current = some t) (asks : Asks tf sysIpcReply)
      (found : getEndpoint (tf.x 0) = some e) (length : tf.x 2 ≤ ipcMsgSize)
      (range : el0BufRangeOk (tf.x 1) (tf.x 2)) (owner : (m.kernel.endpoints e).ownerSlot = t.u32)
      (waiting : (m.kernel.endpoints e).blockedCallerSlot ≠ slotNone) : Conveys cfg m stores tf

theorem run_receiver (run : (kernelSystem L cfg).Run h m)
    (waiting : (m.kernel.endpoints e).blockedReceiverSlot ≠ slotNone) :
    Latest (Listens e) h (m.kernel.endpoints e).receiveBuffer := by
  obtain ⟨b, latest, holds⟩ := (receiver_register e).latest (fun _ _ run => run_inv run) run waiting
  rwa [← holds] at latest

theorem run_caller {d : Send} {sent : Memory} (run : (kernelSystem L cfg).Run h m)
    (waiting : (m.kernel.endpoints e).blockedCallerSlot ≠ slotNone)
    (called : Latest (Calls cfg e) h (d, sent)) :
    (m.kernel.endpoints e).replyBuffer = (d.replyPtr, d.replyCap) := by
  obtain ⟨x, latest, holds⟩ := (caller_register e).latest (fun _ _ run => run_inv run) run waiting
  obtain rfl := latest.unique (fun _ _ _ _ calls calls' => calls.unique calls') called
  exact holds

theorem run_message {d : Send} {sent : Memory} (run : (kernelSystem L cfg).Run h m)
    (pending : (m.kernel.endpoints e).hasPending = true)
    (called : Latest (Calls cfg e) h (d, sent)) : HoldsMessage (m.kernel.endpoints e) (d, sent) := by
  obtain ⟨x, latest, holds⟩ := (message_register e).latest (fun _ _ run => run_inv run) run
    (by simp [pending])
  obtain rfl := latest.unique (fun _ _ _ _ calls calls' => calls.unique calls') called
  exact holds

theorem handOver_mem {d : Send} {s : Slot} : (k.handOver t e d s).mem =
    bytesCopy (k.endpoints e).receiverBufPtr d.ptr (minU64 d.len (k.endpoints e).receiverBufCap)
      k.mem := by
  have copied : (k.handOver t e d s).mem = ((k.registerCaller t e d).copyUser
      (k.endpoints e).receiverBufPtr d.ptr (minU64 d.len (k.endpoints e).receiverBufCap)).mem := rfl
  rw [copied, copyUser_mem]
  rfl

theorem answer_mem {ptr len : UInt64} {s : Slot} : (k.answer t e ptr len s).mem =
    bytesCopy (k.endpoints e).callerReplyPtr ptr (minU64 len (k.endpoints e).callerReplyCap)
      k.mem := by
  have copied : (k.answer t e ptr len s).mem = (k.copyUser (k.endpoints e).callerReplyPtr ptr
      (minU64 len (k.endpoints e).callerReplyCap)).mem := rfl
  rw [copied, copyUser_mem]

theorem takePending_mem {ptr cap : UInt64} : (k.takePending t e ptr cap).mem =
    bytesCopyOut ptr (minU64 (k.endpoints e).pendingLen cap) (k.endpoints e).pendingMsg k.mem := by
  have copied : (k.takePending t e ptr cap).mem =
      (k.copyOut e ptr (minU64 (k.endpoints e).pendingLen cap)).mem := rfl
  rw [copied, copyOut_mem]

theorem Transfers.arrives_iff (transfer : Transfers cfg h m stores tf source dst n message)
    (run : (kernelSystem L cfg).Run h m)
    (step : m.step L cfg (.trap stores tf) = some m') :
    Arrives (m.trapped stores).mem m'.kernel.mem dst n message ↔
      ∀ src ∈ source, Repeats (m.trapped stores).mem src (dst - src).toNat n.toNat := by
  obtain ⟨t, k₁, o, here, _, effect, mem, _⟩ := trap_effect (run_inv run) step
  rw [mem]
  cases transfer with
  | @handOver e _ d ptr cap current sends accepts waiting listened =>
      obtain rfl := Option.some_inj.mp (here.symm.trans current)
      have buffer := listened.unique (fun _ _ _ _ first second => first.unique second)
        (run_receiver run waiting)
      obtain ⟨rfl, rfl⟩ := Prod.mk.inj buffer
      cases effect.of_sends sends with
      | refused no => exact absurd accepts no
      | park _ absent => exact absurd absent waiting
      | handOver =>
          have short : (minU64 d.len (m.kernel.endpoints e).receiverBufCap).toNat ≤
              ipcMsgSize.toNat :=
            Nat.le_trans (minU64_le_left _ _) (UInt64.le_iff_toNat_le.mp accepts.length)
          rw [handOver_mem]
          exact bytesCopy_arrives short
  | @take e _ d sent current asks found range owner pending called =>
      obtain rfl := Option.some_inj.mp (here.symm.trans current)
      obtain ⟨length, content⟩ := run_message run pending called
      refine ⟨fun _ => by simp, fun _ => ?_⟩
      cases effect.of_recv asks with
      | take found' =>
          cases found'.symm.trans found
          rw [takePending_mem]
          have length' : ((m.trapped stores).endpoints e).pendingLen = d.len := length
          rw [length']
          apply bytesCopyOut_arrives
          intro i below
          exact content i (Nat.lt_of_lt_of_le below (minU64_le_left _ _))
      | listen found' _ quiet =>
          cases found'.symm.trans found
          cases quiet.symm.trans pending
      | refused no =>
          cases (no e found range owner).1.symm.trans pending
  | @reply e _ d sent current asks found length range owner waiting called =>
      obtain rfl := Option.some_inj.mp (here.symm.trans current)
      obtain ⟨pointer, capacity⟩ := Prod.mk.inj (run_caller run waiting called)
      cases effect.of_reply asks with
      | answer found' =>
          cases found'.symm.trans found
          have short : (minU64 (tf.x 2) d.replyCap).toNat ≤ ipcMsgSize.toNat :=
            Nat.le_trans (minU64_le_left _ _) (UInt64.le_iff_toNat_le.mp length)
          have pointer' : ((m.trapped stores).endpoints e).callerReplyPtr = d.replyPtr := pointer
          have capacity' : ((m.trapped stores).endpoints e).callerReplyCap = d.replyCap := capacity
          rw [answer_mem, pointer', capacity']
          exact bytesCopy_arrives short
      | refused no => exact absurd (no e found length range owner) waiting

theorem run_called (run : (kernelSystem L cfg).Run h m)
    (held : (m.kernel.endpoints e).hasPending = true ∨
      (m.kernel.endpoints e).blockedCallerSlot ≠ slotNone) : ∃ x, Latest (Calls cfg e) h x := by
  rcases held with pending | waiting
  · obtain ⟨x, called, _⟩ := (message_register e).latest (fun _ _ run => run_inv run) run
      (by simp [pending])
    exact ⟨x, called⟩
  · obtain ⟨x, called, _⟩ := (caller_register e).latest (fun _ _ run => run_inv run) run waiting
    exact ⟨x, called⟩

theorem Conveys.transfers (conveys : Conveys cfg m stores tf) (run : (kernelSystem L cfg).Run h m) :
    ∃ source dst n message, Transfers cfg h m stores tf source dst n message := by
  cases conveys with
  | handOver current sends accepts waiting =>
      exact ⟨_, _, _, _, .handOver current sends accepts waiting (run_receiver run waiting)⟩
  | take current asks found range owner pending =>
      obtain ⟨⟨d, sent⟩, called⟩ := run_called run (.inl pending)
      exact ⟨_, _, _, _, .take current asks found range owner pending called⟩
  | reply current asks found length range owner waiting =>
      obtain ⟨⟨d, sent⟩, called⟩ := run_called run (.inr waiting)
      exact ⟨_, _, _, _, .reply current asks found length range owner waiting called⟩

/-- Every message that a recv takes or a call hands over, and every reply, arrives as it was sent
exactly where the part of it that the receiving buffer overlaps repeats what comes before. -/
theorem run_arrives_iff (run : (kernelSystem L cfg).Run h m)
    (step : m.step L cfg (.trap stores tf) = some m') :
    (Conveys cfg m stores tf → ∃ source dst n message,
      Transfers cfg h m stores tf source dst n message) ∧
    ∀ source dst n message, Transfers cfg h m stores tf source dst n message →
      (Arrives (m.trapped stores).mem m'.kernel.mem dst n message ↔
        ∀ src ∈ source, Repeats (m.trapped stores).mem src (dst - src).toNat n.toNat) :=
  ⟨fun conveys => conveys.transfers run,
    fun _ _ _ _ transfer => transfer.arrives_iff run step⟩

def receiveAt (ptr : UInt64) : List Action :=
  List.replicate 4 .advance ++ .trap [] (.svc sysYield []) ::
    (List.replicate 5 .advance ++ .trap [] (.svc sysIpcRecv [1, ptr, 4]) ::
      (List.replicate 5 .advance ++ .trap [] (.svc sysYield []) :: List.replicate 6 .advance))

def twoBytes : List (SandboxAddress × UInt8) :=
  [(⟨el0SandboxBase, by decide⟩, 1), (⟨el0SandboxBase + 1, by decide⟩, 2)]

def sendTwo : TrapFrame := .svc sysIpcCall [1, el0SandboxBase, 2, el0SandboxBase + 128, 4]

def sendsTwo : Send := ⟨el0SandboxBase, 2, el0SandboxBase + 128, 4, 0, false⟩

theorem sendTwo_sends : Sends .sample slotTaskA sendTwo epUart sendsTwo :=
  .call ⟨by decide, rfl⟩ rfl (by decide)

theorem sendTwo_transfers {ptr : UInt64} (run : (kernelSystem .sample .sample).Run h m)
    (current : m.kernel.current = some slotTaskA)
    (waiting : (m.kernel.endpoints epUart).blockedReceiverSlot = slotTaskB.i32)
    (buffer : (m.kernel.endpoints epUart).receiveBuffer = (ptr, 4))
    (accepts : Accepts (m.trapped twoBytes) epUart sendsTwo) :
    Transfers .sample h m twoBytes sendTwo (some el0SandboxBase) ptr (minU64 2 4)
      fun i => (m.trapped twoBytes).mem (el0SandboxBase + .ofNat i) := by
  have occupied : (m.kernel.endpoints epUart).blockedReceiverSlot ≠ slotNone := by
    rw [waiting]
    decide
  have listened := run_receiver run occupied
  rw [buffer] at listened
  exact .handOver current sendTwo_sends accepts occupied listened

theorem run_arrives_iff_apart : ∃ m m' : Machine,
    m.step .sample .sample (.trap twoBytes sendTwo) = some m' ∧
      Arrives (m.trapped twoBytes).mem m'.kernel.mem (el0SandboxBase + 64) 2
        fun i => (m.trapped twoBytes).mem (el0SandboxBase + .ofNat i) := by
  obtain ⟨m, m', ran, current, waiting, buffer, accepts, step⟩ : ∃ m m' : Machine,
      runFromBoot .sample .sample (receiveAt (el0SandboxBase + 64)) = some m ∧
        m.kernel.current = some slotTaskA ∧
          (m.kernel.endpoints epUart).blockedReceiverSlot = slotTaskB.i32 ∧
            (m.kernel.endpoints epUart).receiveBuffer = (el0SandboxBase + 64, 4) ∧
              Accepts (m.trapped twoBytes) epUart sendsTwo ∧
                m.step .sample .sample (.trap twoBytes sendTwo) = some m' :=
    ⟨_, _, rfl, rfl, rfl, rfl, ⟨by decide, by decide, by decide, rfl, rfl⟩, rfl⟩
  obtain ⟨h, run, _⟩ := runFromBoot_run ran
  have transfer := sendTwo_transfers run current waiting buffer accepts
  refine ⟨m, m', step, ((run_arrives_iff run step).2 _ _ _ _ transfer).mpr ?_⟩
  rintro src ⟨⟩ i below
  exfalso
  have distance : (el0SandboxBase + 64 - el0SandboxBase).toNat = 64 := by decide
  have length : (minU64 2 4).toNat = 2 := by decide
  omega

/-- The buffer of the receiver begins one byte into the message, whose second byte is lost. -/
theorem overlap_garbles : ∃ h m m' source dst n message, (kernelSystem .sample .sample).Run h m ∧
    Transfers .sample h m twoBytes sendTwo source dst n message ∧
      m.step .sample .sample (.trap twoBytes sendTwo) = some m' ∧
        ¬ Arrives (m.trapped twoBytes).mem m'.kernel.mem dst n message := by
  obtain ⟨m, m', ran, current, waiting, buffer, accepts, step, arrived, sent⟩ : ∃ m m' : Machine,
      runFromBoot .sample .sample (receiveAt (el0SandboxBase + 1)) = some m ∧
        m.kernel.current = some slotTaskA ∧
          (m.kernel.endpoints epUart).blockedReceiverSlot = slotTaskB.i32 ∧
            (m.kernel.endpoints epUart).receiveBuffer = (el0SandboxBase + 1, 4) ∧
              Accepts (m.trapped twoBytes) epUart sendsTwo ∧
                m.step .sample .sample (.trap twoBytes sendTwo) = some m' ∧
                  m'.kernel.mem (el0SandboxBase + 1 + .ofNat 1) = 1 ∧
                    (m.trapped twoBytes).mem (el0SandboxBase + .ofNat 1) = 2 :=
    ⟨_, _, rfl, rfl, rfl, rfl, ⟨by decide, by decide, by decide, rfl, rfl⟩, rfl, rfl, rfl⟩
  obtain ⟨h, run, _⟩ := runFromBoot_run ran
  have transfer := sendTwo_transfers run current waiting buffer accepts
  refine ⟨h, m, m', _, _, _, _, run, transfer, step, fun arrives => ?_⟩
  have second : m'.kernel.mem (el0SandboxBase + 1 + .ofNat 1) =
      (m.trapped twoBytes).mem (el0SandboxBase + .ofNat 1) := arrives.inside 1 (by decide)
  rw [arrived, sent] at second
  exact absurd second (by decide)

end ProtoOs
