import ProtoOs.Proof.Messages
import ProtoOs.Proof.Turns

/-!
# The rendezvous

A call and the receive that takes its message may come in either order. The message is handed over
in one and waits in `pending_msg` in the other, and no task can tell which it was.
-/

namespace ProtoOs

open Transition.System

variable {L : Layout} {cfg : Config} {k k₁ : Kernel} {m m' m₂ m₄ n₂ n₄ : Machine} {s t c : Slot}
  {e : EpId} {a : Action} {tf tfc tfo : TrapFrame} {o : Outcome} {d : Send} {regs : UserTaskCtx}
  {idlers : Slot → Prop} {h : List (Machine × Action)} {v : View} {ptr cap : UInt64} {owner : Slot}

/-! ## On the view -/

def Endpoint.withCaller (ep : Endpoint) (t : Slot) (d : Send) : Endpoint :=
  { ep with
    blockedCallerSlot := t.i32, callerReplyPtr := d.replyPtr, callerReplyCap := d.replyCap
    callerResultOverride := d.override }

namespace View

def block (v : View) (t : Slot) : View := { v with state := Function.update v.state t .blocked }

def listen (v : View) (t : Slot) (e : EpId) (ptr cap : UInt64) : View :=
  { v with
    endpoints := Function.update v.endpoints e
      { v.endpoints e with
        blockedReceiverSlot := t.i32, receiverBufPtr := ptr, receiverBufCap := cap } }

def handOver (v : View) (t : Slot) (e : EpId) (d : Send) (s : Slot) : View :=
  let ep := v.endpoints e
  { v with
    mem := bytesCopy ep.receiverBufPtr d.ptr (minU64 d.len ep.receiverBufCap) v.mem
    endpoints := Function.update v.endpoints e (endpointClearReceiver (ep.withCaller t d))
    state := Function.update v.state s .runnable }

def park (v : View) (t : Slot) (e : EpId) (d : Send) : View :=
  { v with
    endpoints := Function.update v.endpoints e
      { (v.endpoints e).withCaller t d with
        hasPending := true, pendingLen := d.len
        pendingMsg := fun i => if i < d.len.toNat then v.mem (d.ptr + .ofNat i) else 0 } }

def take (v : View) (e : EpId) (ptr cap : UInt64) : View :=
  let ep := v.endpoints e
  { v with
    mem := bytesCopyOut ptr (minU64 ep.pendingLen cap) ep.pendingMsg v.mem
    endpoints := Function.update v.endpoints e
      { ep with hasPending := false, pendingLen := 0, pendingMsg := fun _ => 0 } }

/-- The call of `t` is received into the buffer at `ptr`. -/
def rendezvous (v : View) (t : Slot) (e : EpId) (d : Send) (ptr cap : UInt64) : View :=
  { v with
    mem := bytesCopy ptr d.ptr (minU64 d.len cap) v.mem
    endpoints := Function.update v.endpoints e ((v.endpoints e).withCaller t d)
    state := Function.update v.state t .blocked }

end View

structure Endpoint.Idle (ep : Endpoint) : Prop where
  quiet : ep.hasPending = false
  free : ep.blockedCallerSlot = slotNone
  absent : ep.blockedReceiverSlot = slotNone

theorem View.listen_handOver (none : (v.endpoints e).blockedReceiverSlot = slotNone)
    (cleared : (v.endpoints e).Cleared) (ready : v.state s = .runnable) :
    (((v.listen s e ptr cap).block s).handOver t e d s).block t = v.rendezvous t e d ptr cap := by
  obtain ⟨noPtr, noCap⟩ := cleared.receiver none
  apply View.ext
  · simp [View.block, View.handOver, View.listen, View.rendezvous]
  · simp [View.block, View.handOver, View.listen, View.rendezvous, Endpoint.withCaller,
      endpointClearReceiver, none, noPtr, noCap]
  · rfl
  · rfl
  · funext u
    by_cases same : u = t
    · subst same
      simp [View.block, View.rendezvous]
    · by_cases other : u = s
      · subst other
        simp [View.block, View.handOver, View.rendezvous, same, ready]
      · simp [View.block, View.handOver, View.listen, View.rendezvous, same, other]

def Send.Apart (d : Send) (ptr cap : UInt64) : Prop :=
  ∀ i < d.len.toNat, ∀ j < cap.toNat, d.ptr + .ofNat i ≠ ptr + .ofNat j

theorem View.park_take (quiet : (v.endpoints e).hasPending = false) (cleared : (v.endpoints e).Cleared)
    (blank : (v.endpoints e).pendingMsg = fun _ => 0) (apart : d.Apart ptr cap) :
    (((v.park t e d).block t).take e ptr cap) = v.rendezvous t e d ptr cap := by
  apply View.ext
  · simp only [View.take, View.block, View.park, View.rendezvous, Function.update_self]
    have sent : Arrives v.mem (bytesCopy ptr d.ptr (minU64 d.len cap) v.mem) ptr (minU64 d.len cap)
        fun i => v.mem (d.ptr + .ofNat i) := by
      refine ⟨fun i below => bytesCopy_at ?_ below, fun _ => Bytes.storeLoop_outside⟩
      intro i below j below'
      exact apart i (Nat.lt_of_lt_of_le below (minU64_le_left _ _)) j
        (Nat.lt_of_lt_of_le below' (minU64_le_right _ _))
    apply Arrives.unique (bytesCopyOut_arrives _) sent
    intro i below
    exact if_pos (Nat.lt_of_lt_of_le below (minU64_le_left _ _))
  · simp [View.take, View.block, View.park, View.rendezvous, Endpoint.withCaller, quiet,
      cleared.message quiet, blank]
  · rfl
  · rfl
  · rfl

/-! ## The kernel and its view -/

theorem view_endpoints {ep : Endpoint} (on : OnEndpoint k k₁ e)
    (here : (k₁.endpoints e).visible = ep) :
    k₁.view.endpoints = Function.update k.view.endpoints e ep := by
  funext u
  by_cases same : u = e
  · subst same
    simpa [Kernel.view] using here
  · simp [Kernel.view, same, on.elsewhere u same]

theorem view_leaveBlocked : (k.leaveBlocked t tf).view = k.view.block t := by
  apply View.ext
  · rfl
  · rfl
  · rfl
  · rfl
  · funext u
    by_cases same : u = t
    · subst same
      simp [Kernel.view, View.block, Kernel.leaveBlocked, TaskState.unscheduled]
    · simp [Kernel.view, View.block, Kernel.leaveBlocked, same]

theorem view_listen : (k.listen t e ptr cap).view = k.view.listen t e ptr cap := by
  apply View.ext
  · rfl
  · apply view_endpoints listen_on
    simp [Kernel.listen, Kernel.view, Endpoint.visible]
  · rfl
  · rfl
  · rfl

theorem view_park : (k.parkRequest t e d).view = k.view.park t e d := by
  apply View.ext
  · rfl
  · apply view_endpoints parkRequest_on
    have message : (fun i => if i < d.len.toNat then
        (if d.len > 0 then bytesCopyIn d.ptr d.len k.mem (k.endpoints e).pendingMsg
          else (k.endpoints e).pendingMsg) i else 0) =
        fun i => if i < d.len.toNat then k.mem (d.ptr + .ofNat i) else 0 := by
      funext i
      by_cases below : i < d.len.toNat
      · have long : d.len > 0 := UInt64.lt_iff_toNat_lt.mpr (Nat.zero_lt_of_lt below)
        rw [if_pos below, if_pos below, if_pos long]
        exact bytesCopyIn_at below
      · rw [if_neg below, if_neg below]
    simpa [Kernel.parkRequest, Kernel.registerCaller, Kernel.view, Endpoint.visible,
      Endpoint.withCaller] using message
  · rfl
  · rfl
  · rfl

theorem view_handOver : (k.handOver t e d s).view = k.view.handOver t e d s := by
  apply View.ext
  · exact handOver_mem (s := s)
  · apply view_endpoints handOver_on
    simp [Kernel.handOver, Kernel.registerCaller, Kernel.view, Endpoint.visible,
      Endpoint.withCaller, endpointClearReceiver]
  · rfl
  · rfl
  · funext u
    by_cases same : u = s
    · subst same
      simp [Kernel.view, View.handOver, Kernel.handOver, Thread.wake, TaskState.unscheduled]
    · simp [Kernel.view, View.handOver, Kernel.handOver, Kernel.registerCaller, same]

theorem view_take (pending : (k.endpoints e).hasPending = true) :
    (k.takePending t e ptr cap).view = k.view.take e ptr cap := by
  apply View.ext
  · show (k.takePending t e ptr cap).mem = _
    rw [takePending_mem]
    apply Arrives.unique (bytesCopyOut_arrives _) (bytesCopyOut_arrives fun _ _ => rfl)
    intro i below
    have inside := Nat.lt_of_lt_of_le below (minU64_le_left _ _)
    simp [Kernel.view, Endpoint.visible, pending, inside]
  · apply view_endpoints takePending_on
    simp [Kernel.takePending, Kernel.view, Endpoint.visible, endpointClearPending]
  · rfl
  · rfl
  · rfl

/-! ## Turns at an endpoint -/

structure Receives (k : Kernel) (t : Slot) (tf : TrapFrame) (e : EpId) : Prop where
  asks : Asks tf sysIpcRecv
  found : getEndpoint (tf.x 0) = some e
  range : el0BufRangeOk (tf.x 1) (tf.x 2)
  owner : (k.endpoints e).ownerSlot = t.u32

/-- How a turn of `t` ends, where `woken` is the task that it wakes. -/
structure TurnEnds (L : Layout) (cfg : Config) (idlers : Slot → Prop) (m : Machine) (t : Slot)
    (woken : Option Slot) (m' : Machine) (v : View) (regs : UserTaskCtx) : Prop where
  inv : Inv L cfg m'
  ready : m.kernel.view.state t = .runnable
  view : m'.kernel.view = v
  own : m'.registers t = regs
  others : ∀ s, s ≠ t → woken ≠ some s → ¬ idlers s ∨ m.kernel.view.state s = .blocked →
    m'.registers s = m.registers s

theorem Turned.visible (turned : Turned L cfg idlers m t tf m' k k₁ o) (e : EpId) :
    (k.endpoints e).visible = (m.kernel.endpoints e).visible :=
  congrFun (congrArg View.endpoints turned.view) e

theorem Turned.inside {reason : TaskReturnReason}
    (turned : Turned L cfg idlers m t tf m' k k₁ (.away reason))
    (calm : ∀ p, m'.phase ≠ .panic p) : InSandbox tf.elr := by
  by_contra outside
  have panics := turned.trapped.outside reason rfl outside
  exact absurd rfl (panics ▸ calm .trapElrOutsideSandbox)

theorem Turned.blocks (turned : Turned L cfg idlers m t tf m' k k₁ (.away .ipcBlock))
    (inside : InSandbox tf.elr) {woken : Option Slot}
    (kept : ∀ s, s ≠ t → woken ≠ some s → (k₁.threads s).user.ctx = (k.threads s).user.ctx) :
    TurnEnds L cfg idlers m t woken m' (k₁.view.block t) (tf.after (tf.x 0)) := by
  have left := turned.trapped.block rfl inside
  have saved (s : Slot) : m'.registers s = ((k₁.leaveBlocked t tf).threads s).user.ctx := by
    rw [left]
    exact Machine.registers_saved (by nofun)
  refine ⟨turned.inv, ?_, ?_, ?_, fun s other asleep stays => ?_⟩
  · rw [← turned.view]
    exact turned.active.unscheduled
  · rw [left]
    exact view_leaveBlocked
  · rw [saved, tf.after_self]
    simp [Kernel.leaveBlocked, Thread.saveFrame]
  · rw [saved, ← turned.saved s other stays, ← kept s other asleep]
    simp [Kernel.leaveBlocked, other]

theorem Turn.listens (turn : Turn L cfg idlers m t tf m') (inv : Inv L cfg m)
    (receives : Receives m.kernel t tf e) (idle : (m.kernel.endpoints e).Idle)
    (calm : ∀ p, m'.phase ≠ .panic p) : TurnEnds L cfg idlers m t none m'
      ((m.kernel.view.listen t e (tf.x 1) (tf.x 2)).block t) (tf.after (tf.x 0)) := by
  obtain ⟨k, k₁, o, turned⟩ := turn.turned inv
  have same := turned.visible e
  rw [← turned.view, ← view_listen]
  cases turned.trapped.effect.of_recv receives.asks with
  | listen found =>
      cases found.symm.trans receives.found
      exact turned.blocks (turned.inside calm) fun _ _ _ => rfl
  | take found _ pending =>
      cases found.symm.trans receives.found
      have quiet : (k.endpoints e).hasPending = false :=
        (congrArg Endpoint.hasPending same).trans idle.quiet
      cases pending.symm.trans quiet
  | refused no =>
      have owner : (k.endpoints e).ownerSlot = t.u32 :=
        (congrArg Endpoint.ownerSlot same).trans receives.owner
      have absent : (k.endpoints e).blockedReceiverSlot = slotNone :=
        (congrArg Endpoint.blockedReceiverSlot same).trans idle.absent
      exact absurd absent (no e receives.found receives.range owner).2

theorem Turn.takes (turn : Turn L cfg idlers m t tf m') (inv : Inv L cfg m)
    (receives : Receives m.kernel t tf e) (pending : (m.kernel.endpoints e).hasPending = true) :
    TurnEnds L cfg idlers m t none m' (m.kernel.view.take e (tf.x 1) (tf.x 2))
      (tf.after (minU64 (m.kernel.endpoints e).pendingLen (tf.x 2))) := by
  obtain ⟨k, k₁, o, turned⟩ := turn.turned inv
  have same := turned.visible e
  have pending' : (k.endpoints e).hasPending = true :=
    (congrArg Endpoint.hasPending same).trans pending
  have length : (k.endpoints e).pendingLen = (m.kernel.endpoints e).pendingLen :=
    (congrArg Endpoint.pendingLen same).trans rfl
  rw [← turned.view, ← view_take (t := t) pending', ← length]
  cases turned.trapped.effect.of_recv receives.asks with
  | take found =>
      cases found.symm.trans receives.found
      have back := turned.trapped.back _ rfl
      subst back
      have current : (k.takePending t e (tf.x 1) (tf.x 2)).current = some t := turned.active.current
      refine ⟨turned.inv, ?_, rfl, Machine.registers_el0 rfl current, fun s other _ stays => ?_⟩
      · rw [← turned.view]
        exact turned.active.unscheduled
      · rw [← turned.saved s other stays, Machine.registers_saved]
        · rfl
        · exact fun _ _ here => other (Option.some_inj.mp (here.symm.trans current))
  | listen found _ quiet =>
      cases found.symm.trans receives.found
      cases pending'.symm.trans quiet
  | refused no =>
      have owner : (k.endpoints e).ownerSlot = t.u32 :=
        (congrArg Endpoint.ownerSlot same).trans receives.owner
      cases pending'.symm.trans (no e receives.found receives.range owner).1

theorem Accepts.kept (accepts : Accepts k e d)
    (owner : (k₁.endpoints e).ownerSlot = (k.endpoints e).ownerSlot)
    (pending : (k₁.endpoints e).hasPending = (k.endpoints e).hasPending)
    (caller : (k₁.endpoints e).blockedCallerSlot = (k.endpoints e).blockedCallerSlot) :
    Accepts k₁ e d :=
  ⟨accepts.length, owner ▸ accepts.owned, accepts.range, pending.trans accepts.quiet,
    caller.trans accepts.free⟩

theorem Accepts.visible (accepts : Accepts k e d)
    (same : (k₁.endpoints e).visible = (k.endpoints e).visible) : Accepts k₁ e d := by
  apply accepts.kept
  · exact (congrArg Endpoint.ownerSlot same).trans rfl
  · exact (congrArg Endpoint.hasPending same).trans rfl
  · exact (congrArg Endpoint.blockedCallerSlot same).trans rfl

theorem Turn.inside (turn : Turn L cfg idlers m t tf m') (inv : Inv L cfg m)
    (sends : Sends cfg t tf e d) (accepts : Accepts m.kernel e d)
    (calm : ∀ p, m'.phase ≠ .panic p) : InSandbox tf.elr := by
  obtain ⟨k, k₁, o, turned⟩ := turn.turned inv
  cases turned.trapped.effect.of_sends sends with
  | refused no => exact absurd (accepts.visible (turned.visible e)) no
  | park => exact turned.inside calm
  | handOver => exact turned.inside calm

theorem Turn.parks (turn : Turn L cfg idlers m t tf m') (inv : Inv L cfg m)
    (sends : Sends cfg t tf e d) (accepts : Accepts m.kernel e d)
    (absent : (m.kernel.endpoints e).blockedReceiverSlot = slotNone)
    (inside : InSandbox tf.elr) : TurnEnds L cfg idlers m t none m'
      ((m.kernel.view.park t e d).block t) (tf.after (tf.x 0)) := by
  obtain ⟨k, k₁, o, turned⟩ := turn.turned inv
  have same := turned.visible e
  rw [← turned.view, ← view_park]
  cases turned.trapped.effect.of_sends sends with
  | refused no => exact absurd (accepts.visible same) no
  | park => exact turned.blocks inside fun _ _ _ => rfl
  | @handOver s _ waiting =>
      have absent' : (k.endpoints e).blockedReceiverSlot = slotNone :=
        (congrArg Endpoint.blockedReceiverSlot same).trans absent
      exact absurd (absent'.symm.trans waiting) s.none_ne_i32

theorem Turn.handsOver (turn : Turn L cfg idlers m t tf m') (inv : Inv L cfg m)
    (sends : Sends cfg t tf e d) (accepts : Accepts m.kernel e d)
    (waiting : (m.kernel.endpoints e).blockedReceiverSlot = s.i32)
    (asleep : m.kernel.view.state s = .blocked) (inside : InSandbox tf.elr) :
    TurnEnds L cfg idlers m t (some s) m' ((m.kernel.view.handOver t e d s).block t)
        (tf.after (tf.x 0)) ∧
      m'.registers s = { m.registers s with
        x := Function.update (m.registers s).x 0
          (minU64 d.len (m.kernel.endpoints e).receiverBufCap) } := by
  obtain ⟨k, k₁, o, turned⟩ := turn.turned inv
  have same := turned.visible e
  have cap : (k.endpoints e).receiverBufCap = (m.kernel.endpoints e).receiverBufCap :=
    (congrArg Endpoint.receiverBufCap same).trans rfl
  have other : s ≠ t := by
    rintro rfl
    rw [← turned.view] at asleep
    cases turned.active.unscheduled.symm.trans asleep
  have saved := turned.saved s other (.inr asleep)
  rw [← turned.view, ← view_handOver, ← saved, ← cap]
  cases turned.trapped.effect.of_sends sends with
  | refused no => exact absurd (accepts.visible same) no
  | park _ absent =>
      have waiting' : (k.endpoints e).blockedReceiverSlot = s.i32 :=
        (congrArg Endpoint.blockedReceiverSlot same).trans waiting
      exact absurd (absent.symm.trans waiting') s.none_ne_i32
  | @handOver u _ here =>
      have waiting' : (k.endpoints e).blockedReceiverSlot = s.i32 :=
        (congrArg Endpoint.blockedReceiverSlot same).trans waiting
      obtain rfl := Slot.i32_inj.mp (here.symm.trans waiting')
      refine ⟨turned.blocks inside fun w _ apart => ?_, ?_⟩
      · have away : w ≠ u := fun same => apart (congrArg some same.symm)
        simp [Kernel.handOver, Kernel.registerCaller, away]
      · rw [turned.trapped.block rfl inside, Machine.registers_saved (by simp)]
        simp [Kernel.leaveBlocked, Kernel.handOver, Kernel.registerCaller, Thread.wake, other]

/-! ## The two orders -/

/-- What a call of `c` and a receive of `owner` on the idle endpoint `e` lead to. -/
structure Met (idlers : Slot → Prop) (m : Machine) (e : EpId) (owner c : Slot)
    (tfo tfc : TrapFrame) (d : Send) (m' : Machine) : Prop where
  view : m'.kernel.view = m.kernel.view.rendezvous c e d (tfo.x 1) (tfo.x 2)
  receiver : m'.registers owner = tfo.after (minU64 d.len (tfo.x 2))
  caller : m'.registers c = tfc.after (tfc.x 0)
  others : ∀ s, s ≠ owner → s ≠ c → ¬ idlers s → m'.registers s = m.registers s

theorem Endpoint.Cleared.visible {ep : Endpoint} (cleared : ep.Cleared) : ep.visible.Cleared :=
  ⟨cleared.message, cleared.receiver⟩

theorem met_waiting (inv : Inv L cfg m) (idle : (m.kernel.endpoints e).Idle)
    (cleared : (m.kernel.endpoints e).Cleared) (receives : Receives m.kernel owner tfo e)
    (sends : Sends cfg c tfc e d) (accepts : Accepts m.kernel e d)
    (first : Turn L cfg idlers m owner tfo m₂) (second : Turn L cfg idlers m₂ c tfc m₄)
    (inside : InSandbox tfc.elr) : Met idlers m e owner c tfo tfc d m₄ := by
  have listened := first.listens inv receives idle second.calm
  have here : (m₂.kernel.endpoints e).visible = { (m.kernel.endpoints e).visible with
      blockedReceiverSlot := owner.i32, receiverBufPtr := tfo.x 1, receiverBufCap := tfo.x 2 } := by
    have same := congrFun (congrArg View.endpoints listened.view) e
    simpa [View.block, View.listen, Kernel.view] using same
  have accepts₂ : Accepts m₂.kernel e d := by
    apply accepts.kept
    · exact (congrArg Endpoint.ownerSlot here).trans rfl
    · exact (congrArg Endpoint.hasPending here).trans rfl
    · exact (congrArg Endpoint.blockedCallerSlot here).trans rfl
  have asleep : m₂.kernel.view.state owner = .blocked := by
    rw [listened.view]
    simp [View.block]
  obtain ⟨ends, woken⟩ := second.handsOver listened.inv sends accepts₂
    (congrArg Endpoint.blockedReceiverSlot here) asleep inside
  refine ⟨?_, ?_, ends.own, fun s notOwner notCaller busy => ?_⟩
  · rw [ends.view, listened.view]
    exact View.listen_handOver idle.absent cleared.visible listened.ready
  · have cap : (m₂.kernel.endpoints e).receiverBufCap = tfo.x 2 :=
      (congrArg Endpoint.receiverBufCap here).trans rfl
    rw [woken, listened.own, cap]
    simp [TrapFrame.after]
  · have apart : some owner ≠ some s := fun same => notOwner (Option.some_inj.mp same).symm
    rw [ends.others s notCaller apart (.inl busy), listened.others s notOwner (by simp) (.inl busy)]

theorem met_parked (inv : Inv L cfg m) (idle : (m.kernel.endpoints e).Idle)
    (cleared : (m.kernel.endpoints e).Cleared) (receives : Receives m.kernel owner tfo e)
    (sends : Sends cfg c tfc e d) (accepts : Accepts m.kernel e d)
    (apart : d.Apart (tfo.x 1) (tfo.x 2))
    (first : Turn L cfg idlers m c tfc n₂) (second : Turn L cfg idlers n₂ owner tfo n₄) :
    Met idlers m e owner c tfo tfc d n₄ := by
  have parked := first.parks inv sends accepts idle.absent
    (first.inside inv sends accepts second.calm)
  have here := congrFun (congrArg View.endpoints parked.view) e
  simp only [View.block, View.park, Kernel.view, Function.update_self] at here
  have length : (n₂.kernel.endpoints e).pendingLen = d.len :=
    (congrArg Endpoint.pendingLen here).trans rfl
  have owned : (n₂.kernel.endpoints e).ownerSlot = owner.u32 :=
    (congrArg Endpoint.ownerSlot here).trans receives.owner
  have asleep : n₂.kernel.view.state c = .blocked := by
    rw [parked.view]
    simp [View.block]
  have taken := second.takes parked.inv ⟨receives.asks, receives.found, receives.range, owned⟩
    (congrArg Endpoint.hasPending here)
  have other : c ≠ owner := by
    rintro rfl
    cases asleep.symm.trans taken.ready
  refine ⟨?_, ?_, ?_, fun s notOwner notCaller busy => ?_⟩
  · rw [taken.view, parked.view]
    apply View.park_take idle.quiet cleared.visible _ apart
    simp [Kernel.view, Endpoint.visible, idle.quiet]
  · rw [taken.own, length]
  · rw [taken.others c other (by simp) (.inr asleep), parked.own]
  · rw [taken.others s notOwner (by simp) (.inl busy),
      parked.others s notCaller (by simp) (.inl busy)]

/-- The endpoint serves a call of `c`. -/
structure Endpoint.Serves (ep : Endpoint) (c : Slot) (d : Send) : Prop where
  quiet : ep.hasPending = false
  absent : ep.blockedReceiverSlot = slotNone
  caller : ep.blockedCallerSlot = c.i32
  replyPtr : ep.callerReplyPtr = d.replyPtr
  replyCap : ep.callerReplyCap = d.replyCap
  override : ep.callerResultOverride = d.override

theorem Met.serves (met : Met idlers m e owner c tfo tfc d m')
    (idle : (m.kernel.endpoints e).Idle) : (m'.kernel.endpoints e).Serves c d := by
  have here := congrFun (congrArg View.endpoints met.view) e
  simp only [View.rendezvous, Kernel.view, Function.update_self] at here
  exact {
    quiet := (congrArg Endpoint.hasPending here).trans idle.quiet
    absent := (congrArg Endpoint.blockedReceiverSlot here).trans idle.absent
    caller := (congrArg Endpoint.blockedCallerSlot here).trans rfl
    replyPtr := (congrArg Endpoint.callerReplyPtr here).trans rfl
    replyCap := (congrArg Endpoint.callerReplyCap here).trans rfl
    override := (congrArg Endpoint.callerResultOverride here).trans rfl }

/-- Whether the call or the receive comes first, the tasks see the same kernel, the endpoint serves
the call and its owner has the message. -/
theorem run_rendezvous (run : (kernelSystem L cfg).Run h m) (idle : (m.kernel.endpoints e).Idle)
    (receives : Receives m.kernel owner tfo e) (sends : Sends cfg c tfc e d)
    (length : d.len ≤ ipcMsgSize) (range : el0BufRangeOk d.ptr d.len)
    (apart : d.Apart (tfo.x 1) (tfo.x 2))
    (waits : Turn L cfg idlers m owner tfo m₂) (delivers : Turn L cfg idlers m₂ c tfc m₄)
    (parks : Turn L cfg idlers m c tfc n₂) (takes : Turn L cfg idlers n₂ owner tfo n₄) :
    m₄.kernel.view = n₄.kernel.view ∧
      (∀ s, s = owner ∨ s = c ∨ ¬ idlers s → m₄.registers s = n₄.registers s) ∧
        ∀ m', m' = m₄ ∨ m' = n₄ → (m'.kernel.endpoints e).Serves c d ∧
          m'.Resumes L cfg owner (tfo.after (minU64 d.len (tfo.x 2))) := by
  have inv := run_inv run
  have cleared := cleared_data.run run e
  have accepts : Accepts m.kernel e d :=
    ⟨length, fun unowned => owner.u32_ne_none (receives.owner.symm.trans unowned), range, idle.quiet,
      idle.free⟩
  have inside := parks.inside inv sends accepts takes.calm
  have waiting := met_waiting inv idle cleared receives sends accepts waits delivers inside
  have parked := met_parked inv idle cleared receives sends accepts apart parks takes
  refine ⟨waiting.view.trans parked.view.symm, fun s seen => ?_, ?_⟩
  · by_cases isOwner : s = owner
    · rw [isOwner, waiting.receiver, parked.receiver]
    · by_cases isCaller : s = c
      · rw [isCaller, waiting.caller, parked.caller]
      · have busy := (seen.resolve_left isOwner).resolve_left isCaller
        rw [waiting.others s isOwner isCaller busy, parked.others s isOwner isCaller busy]
  · rintro m' (rfl | rfl)
    · refine ⟨waiting.serves idle, ?_⟩
      rw [← waiting.receiver]
      exact resumes_registers (delivers.keeps (waits.keeps inv)) owner
    · refine ⟨parked.serves idle, ?_⟩
      rw [← parked.receiver]
      exact resumes_registers (takes.keeps (parks.keeps inv)) owner

/-- The yields that let `task_b` run before `task_a`, and `task_a` again after it. -/
def letB : List Action := .trap [] (.svc sysYield []) :: List.replicate 5 .advance

def letA : List Action :=
  List.replicate 5 .advance ++ .trap [] (.svc sysYield []) :: List.replicate 6 .advance

theorem yields_idle {a : Action} (member : a ∈ letB ∨ a ∈ letA ∨ a ∈ List.replicate 5 .advance) :
    a = .advance ∨ ∃ tf, a = .trap [] tf ∧ Asks tf sysYield := by
  have yields : Asks (.svc sysYield []) sysYield := ⟨by decide, rfl⟩
  simp only [letA, letB, List.mem_cons, List.mem_append, List.mem_replicate] at member
  rcases member with (rfl | ⟨_, rfl⟩) | (⟨_, rfl⟩ | rfl | ⟨_, rfl⟩) | ⟨_, rfl⟩
  · exact .inr ⟨_, rfl, yields⟩
  · exact .inl rfl
  · exact .inl rfl
  · exact .inr ⟨_, rfl, yields⟩
  · exact .inl rfl
  · exact .inl rfl

def receiveFour : TrapFrame := .svc sysIpcRecv [1, el0SandboxBase + 64, 4]

theorem run_rendezvous_call : ∃ m₄ n₄ : Machine, m₄.kernel.view = n₄.kernel.view ∧
    m₄.registers slotTaskB = n₄.registers slotTaskB ∧
      (m₄.kernel.endpoints epUart).Serves slotTaskA sendsTwo := by
  obtain ⟨m, m₁, m₂, m₃, m₄, n₂, n₃, n₄, boots, quiet, free, absent, owned, yields, waits, more,
      delivers, parks, later, takes, turnB, turnA, turnA', turnB'⟩ :
      ∃ m m₁ m₂ m₃ m₄ n₂ n₃ n₄ : Machine,
      runFromBoot .sample .sample (List.replicate 4 .advance) = some m ∧
      (m.kernel.endpoints epUart).hasPending = false ∧
      (m.kernel.endpoints epUart).blockedCallerSlot = slotNone ∧
      (m.kernel.endpoints epUart).blockedReceiverSlot = slotNone ∧
      (m.kernel.endpoints epUart).ownerSlot = slotTaskB.u32 ∧
      replay (Machine.step .sample .sample) m letB = some m₁ ∧
      m₁.step .sample .sample (.trap [] receiveFour) = some m₂ ∧
      replay (Machine.step .sample .sample) m₂ letA = some m₃ ∧
      m₃.step .sample .sample (.trap [] sendTwo) = some m₄ ∧
      m.step .sample .sample (.trap [] sendTwo) = some n₂ ∧
      replay (Machine.step .sample .sample) n₂ (List.replicate 5 .advance) = some n₃ ∧
      n₃.step .sample .sample (.trap [] receiveFour) = some n₄ ∧
      m₁.kernel.current = some slotTaskB ∧ m₃.kernel.current = some slotTaskA ∧
      m.kernel.current = some slotTaskA ∧ n₃.kernel.current = some slotTaskB :=
    ⟨_, _, _, _, _, _, _, _, rfl, rfl, rfl, rfl, rfl, rfl, rfl, rfl, rfl, rfl, rfl, rfl, rfl, rfl,
      rfl, rfl⟩
  obtain ⟨h, run, _⟩ := runFromBoot_run boots
  have inv := run_inv run
  have waiting : Turn .sample .sample (fun _ => True) m slotTaskB receiveFour m₂ :=
    .of_replay inv yields (fun _ member => yields_idle (.inl member)) turnB waits
  have delivered : Turn .sample .sample (fun _ => True) m₂ slotTaskA sendTwo m₄ :=
    .of_replay (waiting.keeps inv) more (fun _ member => yields_idle (.inr (.inl member))) turnA delivers
  have parked : Turn .sample .sample (fun _ => True) m slotTaskA sendTwo n₂ :=
    .of_replay inv (show replay (Machine.step .sample .sample) m [] = some m from rfl) (by nofun)
      turnA' parks
  have taken : Turn .sample .sample (fun _ => True) n₂ slotTaskB receiveFour n₄ :=
    .of_replay (parked.keeps inv) later (fun _ member => yields_idle (.inr (.inr member))) turnB' takes
  have apart : sendsTwo.Apart (receiveFour.x 1) (receiveFour.x 2) := by
    show ∀ i < 2, ∀ j < 4, el0SandboxBase + .ofNat i ≠ el0SandboxBase + 64 + .ofNat j
    decide
  obtain ⟨view, registers, served⟩ := run_rendezvous run ⟨quiet, free, absent⟩
    ⟨⟨by decide, rfl⟩, rfl, by decide, owned⟩ sendTwo_sends (by decide) (by decide) apart
    waiting delivered parked taken
  exact ⟨m₄, n₄, view, registers slotTaskB (.inl rfl), (served m₄ (.inl rfl)).1⟩

end ProtoOs
