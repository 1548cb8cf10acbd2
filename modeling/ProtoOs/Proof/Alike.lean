import ProtoOs.Proof.Schedule

/-!
# Kernels that differ in what is hidden

Two kernels are alike where they differ at most in the history, in the registers of one task `c` and
the reply that its caller slot describes, and, unless time shows, in the clock. What the kernel does
with one of them it does with the other.
-/

namespace ProtoOs

variable {L : Layout} {cfg : Config} {k k' : Kernel} {m m' : Machine} {c : Option Slot} {s : Slot} {e : EpId}
  {shows : Prop} {out out' : List UartCall} {t t' : Thread} {ep ep' : Endpoint} {tf : TrapFrame}

/-! ## The relation -/

inductive ThreadAlike (c : Option Slot) (shows : Prop) (s : Slot) (t : Thread) : Thread → Prop
  | mk (quantum : UInt32) (ctx : UserTaskCtx) (time : shows → quantum = t.quantumLeft)
      (elr : ctx.elr = t.user.ctx.elr) (seen : c ≠ some s → ctx = t.user.ctx) :
      ThreadAlike c shows s t { t with quantumLeft := quantum, user := { t.user with ctx := ctx } }

/-- The reply of a caller that receives no bytes is hidden with its registers. -/
inductive EndpointAlike (c : Option Slot) (ep : Endpoint) : Endpoint → Prop
  | mk (ptr override : UInt64) (pending caller : Option Request)
      (reply : (∃ s, c = some s ∧ ep.blockedCallerSlot = s.i32) ∧ ep.callerReplyCap = 0 ∨
        ptr = ep.callerReplyPtr ∧ override = ep.callerResultOverride) :
      EndpointAlike c ep { ep with
        callerReplyPtr := ptr, callerResultOverride := override, pendingReq := pending
        callerReq := caller }

/-- What was printed since the UART had received `out` and `out'`. -/
structure Alike (c : Option Slot) (shows : Prop) (out out' : List UartCall) (k k' : Kernel) : Prop where
  threads : ∀ s, ThreadAlike c shows s (k.threads s) (k'.threads s)
  endpoints : ∀ e, EndpointAlike c (k.endpoints e) (k'.endpoints e)
  current : k'.current = k.current
  task : k'.currentTask = k.currentTask
  pendingDeath : k'.pendingDeathSlot = k.pendingDeathSlot
  supervisor : k'.blockedSupervisorSlot = k.blockedSupervisorSlot
  mem : k'.mem = k.mem
  printed : ∃ calls, k.uart = out ++ calls ∧ k'.uart = out' ++ calls
  time : shows → k'.schedTicks = k.schedTicks ∧ k'.timerTicks = k.timerTicks ∧
    k'.reschedPending = k.reschedPending

namespace ThreadAlike

theorem refl : ThreadAlike c shows s t t := ⟨_, _, fun _ => rfl, rfl, fun _ => rfl⟩

variable (alike : ThreadAlike c shows s t t')

include alike

theorem symm : ThreadAlike c shows s t' t := by
  cases alike with
  | mk quantum ctx time elr seen =>
      exact ⟨t.quantumLeft, t.user.ctx, fun shown => (time shown).symm, elr.symm,
        fun other => (seen other).symm⟩

theorem state : t'.state = t.state := by cases alike; rfl

theorem kind : t'.kind = t.kind := by cases alike; rfl

theorem slot : t'.slot = t.slot := by cases alike; rfl

theorem ctx : t'.ctx = t.ctx := by cases alike; rfl

theorem task : t'.user.state = t.user.state := by cases alike; rfl

theorem reason : t'.user.returnReason = t.user.returnReason := by cases alike; rfl

theorem entry : t'.user.userEntry = t.user.userEntry := by cases alike; rfl

theorem stack : t'.user.userSp = t.user.userSp := by cases alike; rfl

theorem name : t'.user.name = t.user.name := by cases alike; rfl

theorem elr : t'.user.ctx.elr = t.user.ctx.elr := by cases alike; assumption

theorem seen (other : c ≠ some s) : t'.user.ctx = t.user.ctx := by
  cases alike with
  | mk _ _ _ _ seen => exact seen other

theorem quantum (visible : shows) : t'.quantumLeft = t.quantumLeft := by
  cases alike with
  | mk _ _ time => exact time visible

theorem mark (state : ThreadState) (user : TaskState) : ThreadAlike c shows s
    { t with state := state, user := { t.user with state := user } }
    { t' with state := state, user := { t'.user with state := user } } := by
  cases alike with
  | mk quantum ctx time elr seen => exact ⟨quantum, ctx, time, elr, seen⟩

theorem setState (state : ThreadState) :
    ThreadAlike c shows s { t with state := state } { t' with state := state } := by
  cases alike with
  | mk quantum ctx time elr seen => exact ⟨quantum, ctx, time, elr, seen⟩

theorem setCtx (ctx : ThreadCtx) :
    ThreadAlike c shows s { t with ctx := ctx } { t' with ctx := ctx } := by
  cases alike with
  | mk quantum user time elr seen => exact ⟨quantum, user, time, elr, seen⟩

theorem start : ThreadAlike c shows s { t with user := { t.user with started := true } }
    { t' with user := { t'.user with started := true } } := by
  cases alike with
  | mk quantum ctx time elr seen => exact ⟨quantum, ctx, time, elr, seen⟩

theorem settle (state : ThreadState) (task : TaskState) (reason : TaskReturnReason) :
    ThreadAlike c shows s
      { t with state := state, user := { t.user with state := task, returnReason := reason } }
      { t' with state := state, user := { t'.user with state := task, returnReason := reason } } := by
  cases alike with
  | mk quantum ctx time elr seen => exact ⟨quantum, ctx, time, elr, seen⟩

theorem refill : ThreadAlike c shows s
    (if t.quantumLeft = 0 then { t with quantumLeft := threadQuantumTicks } else t)
    (if t'.quantumLeft = 0 then { t' with quantumLeft := threadQuantumTicks } else t') := by
  cases alike with
  | mk quantum ctx time elr seen =>
      have visible : shows → (if quantum = 0 then threadQuantumTicks else quantum) =
          if t.quantumLeft = 0 then threadQuantumTicks else t.quantumLeft := fun shown => by
        rw [time shown]
      by_cases spent : t.quantumLeft = 0
      · by_cases spent' : quantum = 0
        · simp only [spent, spent', if_true]
          exact ⟨_, ctx, fun _ => rfl, elr, seen⟩
        · simp only [spent, spent', if_true, if_false] at visible ⊢
          exact ⟨quantum, ctx, visible, elr, seen⟩
      · by_cases spent' : quantum = 0
        · simp only [spent, spent', if_true, if_false] at visible ⊢
          exact ⟨_, ctx, visible, elr, seen⟩
        · simp only [spent, spent', if_false] at visible ⊢
          exact ⟨quantum, ctx, visible, elr, seen⟩

theorem saveFrame (reason : TaskReturnReason) :
    ThreadAlike c shows s (t.saveFrame tf reason) (t'.saveFrame tf reason) := by
  cases alike with
  | mk quantum ctx time elr seen => exact ⟨quantum, _, time, rfl, fun _ => rfl⟩

theorem wake {v v' : UInt64} (same : c = some s ∨ v' = v) :
    ThreadAlike c shows s (t.wake v) (t'.wake v') := by
  cases alike with
  | mk quantum ctx time elr seen =>
      refine ⟨quantum, { ctx with x := Function.update ctx.x 0 v' }, time, elr, fun other => ?_⟩
      rw [seen other, same.resolve_left other]
      rfl

theorem restart : ThreadAlike c shows s t.restart t'.restart := by
  cases alike with
  | mk quantum ctx time elr seen => exact ⟨quantum, _, time, rfl, fun _ => rfl⟩

end ThreadAlike

theorem ThreadAlike.requantum (alike : ThreadAlike c False s t t') (quantum : UInt32) :
    ThreadAlike c False s { t with quantumLeft := quantum } t' := by
  cases alike with
  | mk quantum ctx time elr seen => exact ⟨quantum, ctx, False.elim, elr, seen⟩

namespace EndpointAlike

theorem refl : EndpointAlike c ep ep := ⟨_, _, _, _, .inr ⟨rfl, rfl⟩⟩

variable (alike : EndpointAlike c ep ep')

include alike

theorem symm : EndpointAlike c ep' ep := by
  cases alike with
  | mk ptr override pending caller reply =>
      exact ⟨ep.callerReplyPtr, ep.callerResultOverride, ep.pendingReq, ep.callerReq,
        reply.imp_right fun ⟨samePtr, sameOverride⟩ => ⟨samePtr.symm, sameOverride.symm⟩⟩

theorem owner : ep'.ownerSlot = ep.ownerSlot := by cases alike; rfl

theorem pending : ep'.hasPending = ep.hasPending := by cases alike; rfl

theorem length : ep'.pendingLen = ep.pendingLen := by cases alike; rfl

theorem message : ep'.pendingMsg = ep.pendingMsg := by cases alike; rfl

theorem caller : ep'.blockedCallerSlot = ep.blockedCallerSlot := by cases alike; rfl

theorem replyCap : ep'.callerReplyCap = ep.callerReplyCap := by cases alike; rfl

theorem receiver : ep'.blockedReceiverSlot = ep.blockedReceiverSlot := by cases alike; rfl

theorem receiverPtr : ep'.receiverBufPtr = ep.receiverBufPtr := by cases alike; rfl

theorem receiverCap : ep'.receiverBufCap = ep.receiverBufCap := by cases alike; rfl

theorem reply : (∃ s, c = some s ∧ ep.blockedCallerSlot = s.i32) ∧ ep.callerReplyCap = 0 ∨
    ep'.callerReplyPtr = ep.callerReplyPtr ∧
      ep'.callerResultOverride = ep.callerResultOverride := by
  cases alike with
  | mk _ _ _ _ reply => exact reply

theorem setMessage (msg : Nat → UInt8) :
    EndpointAlike c { ep with pendingMsg := msg } { ep' with pendingMsg := msg } := by
  cases alike with
  | mk ptr override pending caller reply => exact ⟨ptr, override, pending, caller, reply⟩

theorem park (len : UInt64) (req req' : Option Request) : EndpointAlike c
    { ep with pendingLen := len, hasPending := true, pendingReq := req }
    { ep' with pendingLen := len, hasPending := true, pendingReq := req' } := by
  cases alike with
  | mk ptr override pending caller reply => exact ⟨ptr, override, req', caller, reply⟩

theorem listen (slot : Int32) (buf cap : UInt64) : EndpointAlike c
    { ep with blockedReceiverSlot := slot, receiverBufPtr := buf, receiverBufCap := cap }
    { ep' with blockedReceiverSlot := slot, receiverBufPtr := buf, receiverBufCap := cap } := by
  cases alike with
  | mk ptr override pending caller reply => exact ⟨ptr, override, pending, caller, reply⟩

theorem register {slot : Int32} {cap ptr ptr' override override' : UInt64} (req req' : Option Request)
    (reply : (∃ s, c = some s ∧ slot = Slot.i32 s) ∧ cap = 0 ∨ ptr' = ptr ∧ override' = override) : EndpointAlike c
      { ep with
        blockedCallerSlot := slot, callerReplyPtr := ptr, callerReplyCap := cap
        callerResultOverride := override, callerReq := req }
      { ep' with
        blockedCallerSlot := slot, callerReplyPtr := ptr', callerReplyCap := cap
        callerResultOverride := override', callerReq := req' } := by
  cases alike with
  | mk _ _ pending _ _ => exact ⟨ptr', override', pending, req', reply⟩

theorem clearPending : EndpointAlike c (endpointClearPending ep) (endpointClearPending ep') := by
  cases alike with
  | mk ptr override _ caller reply => exact ⟨ptr, override, none, caller, reply⟩

theorem clearCaller : EndpointAlike c (endpointClearCaller ep) (endpointClearCaller ep') := by
  cases alike with
  | mk _ _ pending _ _ => exact ⟨0, 0, pending, none, .inr ⟨rfl, rfl⟩⟩

theorem clearReceiver : EndpointAlike c (endpointClearReceiver ep) (endpointClearReceiver ep') := by
  cases alike with
  | mk ptr override pending caller reply => exact ⟨ptr, override, pending, caller, reply⟩

end EndpointAlike

namespace Alike

theorem refl : Alike c shows k.uart k.uart k k :=
  ⟨fun _ => .refl, fun _ => .refl, rfl, rfl, rfl, rfl, rfl, ⟨[], by simp⟩, fun _ => ⟨rfl, rfl, rfl⟩⟩

variable (alike : Alike c shows out out' k k')

include alike

theorem symm : Alike c shows out' out k' k := by
  obtain ⟨calls, printed, printed'⟩ := alike.printed
  refine ⟨fun s => (alike.threads s).symm, fun e => (alike.endpoints e).symm, alike.current.symm,
    alike.task.symm, alike.pendingDeath.symm, alike.supervisor.symm, alike.mem.symm,
    ⟨calls, printed', printed⟩, fun shown => ?_⟩
  obtain ⟨ticks, timer, pending⟩ := alike.time shown
  exact ⟨ticks.symm, timer.symm, pending.symm⟩

theorem modifyThread {f f' : Thread → Thread}
    (same : ThreadAlike c shows s (f (k.threads s)) (f' (k'.threads s))) :
    Alike c shows out out' (k.modifyThread s f) (k'.modifyThread s f') := by
  refine ⟨fun u => ?_, alike.endpoints, alike.current, alike.task, alike.pendingDeath,
    alike.supervisor, alike.mem, alike.printed, alike.time⟩
  by_cases here : u = s
  · subst here
    simpa using same
  · simpa [here] using alike.threads u

theorem modifyEndpoint {f f' : Endpoint → Endpoint}
    (same : EndpointAlike c (f (k.endpoints e)) (f' (k'.endpoints e))) :
    Alike c shows out out' (k.modifyEndpoint e f) (k'.modifyEndpoint e f') := by
  refine ⟨alike.threads, fun u => ?_, alike.current, alike.task, alike.pendingDeath,
    alike.supervisor, alike.mem, alike.printed, alike.time⟩
  by_cases here : u = e
  · subst here
    simpa using same
  · simpa [here] using alike.endpoints u

theorem record (events events' : List Event) :
    Alike c shows out out' (k.record events) (k'.record events') :=
  ⟨alike.threads, alike.endpoints, alike.current, alike.task, alike.pendingDeath, alike.supervisor,
    alike.mem, alike.printed, alike.time⟩

theorem touch (accesses accesses' : List Access) :
    Alike c shows out out' (k.touch accesses) (k'.touch accesses') :=
  ⟨alike.threads, alike.endpoints, alike.current, alike.task, alike.pendingDeath, alike.supervisor,
    alike.mem, alike.printed, alike.time⟩

theorem setMem (mem : Memory) : Alike c shows out out' (k.setMem mem) (k'.setMem mem) :=
  ⟨alike.threads, alike.endpoints, alike.current, alike.task, alike.pendingDeath, alike.supervisor,
    rfl, alike.printed, alike.time⟩

theorem emit (calls : List UartCall) : Alike c shows out out' (k.emit calls) (k'.emit calls) := by
  obtain ⟨before, printed, printed'⟩ := alike.printed
  refine ⟨alike.threads, alike.endpoints, alike.current, alike.task, alike.pendingDeath,
    alike.supervisor, alike.mem, ⟨before ++ calls, ?_, ?_⟩, alike.time⟩
  · simp [printed]
  · simp [printed']

theorem setResched (pending : Bool) :
    Alike c shows out out' (k.setResched pending) (k'.setResched pending) :=
  ⟨alike.threads, alike.endpoints, alike.current, alike.task, alike.pendingDeath, alike.supervisor,
    alike.mem, alike.printed, fun visible => ⟨(alike.time visible).1, (alike.time visible).2.1, rfl⟩⟩

theorem setPendingDeath (slot : Int32) :
    Alike c shows out out' (k.setPendingDeath slot) (k'.setPendingDeath slot) :=
  ⟨alike.threads, alike.endpoints, alike.current, alike.task, rfl, alike.supervisor, alike.mem,
    alike.printed, alike.time⟩

theorem setBlockedSupervisor (slot : Int32) :
    Alike c shows out out' (k.setBlockedSupervisor slot) (k'.setBlockedSupervisor slot) :=
  ⟨alike.threads, alike.endpoints, alike.current, alike.task, alike.pendingDeath, rfl, alike.mem,
    alike.printed, alike.time⟩

theorem setCurrent (current : Option Slot) :
    Alike c shows out out' (k.setCurrent current) (k'.setCurrent current) :=
  ⟨alike.threads, alike.endpoints, rfl, alike.task, alike.pendingDeath, alike.supervisor, alike.mem,
    alike.printed, alike.time⟩

theorem setCurrentTask (task : Option Slot) :
    Alike c shows out out' (k.setCurrentTask task) (k'.setCurrentTask task) :=
  ⟨alike.threads, alike.endpoints, alike.current, rfl, alike.pendingDeath, alike.supervisor,
    alike.mem, alike.printed, alike.time⟩

theorem rebase : Alike c shows k.uart k'.uart k k' :=
  ⟨alike.threads, alike.endpoints, alike.current, alike.task, alike.pendingDeath, alike.supervisor,
    alike.mem, ⟨[], by simp, by simp⟩, alike.time⟩

theorem markTask (state : ThreadState) (user : TaskState) :
    Alike c shows out out' (k.markTask s state user) (k'.markTask s state user) :=
  alike.modifyThread ((alike.threads s).mark state user)

theorem saveFrame (reason : TaskReturnReason) :
    Alike c shows out out' (k.saveFrame s tf reason) (k'.saveFrame s tf reason) :=
  alike.modifyThread ((alike.threads s).saveFrame reason)

theorem wake {v v' : UInt64} (same : c = some s ∨ v' = v) :
    Alike c shows out out' (k.wake s v) (k'.wake s v') :=
  (alike.modifyThread ((alike.threads s).wake same)).record
    [.woke s v (k.threads s).user.state] [.woke s v' (k'.threads s).user.state]

theorem copyUser {dst dst' src len : UInt64} (same : len = 0 ∨ dst' = dst) :
    Alike c shows out out' (k.copyUser dst src len) (k'.copyUser dst' src len) := by
  have copied : (k'.copyUser dst' src len).mem = (k.copyUser dst src len).mem := by
    rcases same with rfl | rfl
    · simpa using alike.mem
    · simp [alike.mem]
  exact ⟨alike.threads, alike.endpoints, alike.current, alike.task, alike.pendingDeath,
    alike.supervisor, copied, alike.printed, alike.time⟩

theorem copyOut (dst len : UInt64) :
    Alike c shows out out' (k.copyOut e dst len) (k'.copyOut e dst len) := by
  have copied : (k'.copyOut e dst len).mem = (k.copyOut e dst len).mem := by
    simp [alike.mem, (alike.endpoints e).message]
  exact ⟨alike.threads, alike.endpoints, alike.current, alike.task, alike.pendingDeath,
    alike.supervisor, copied, alike.printed, alike.time⟩

theorem copyIn (src len : UInt64) :
    Alike c shows out out' (k.copyIn e src len) (k'.copyIn e src len) := by
  refine (alike.touch _ _).modifyEndpoint ?_
  rw [Kernel.touch_endpoints, Kernel.touch_endpoints, alike.mem, (alike.endpoints e).message]
  exact (alike.endpoints e).setMessage _

end Alike

end ProtoOs
