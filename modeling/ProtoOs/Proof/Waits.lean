import ProtoOs.Proof.Trap
import ProtoOs.Lib.Waiting

/-!
# Wait slots

The wait slots of the endpoints and of the supervisor form a `Waiting.Table`. Registering a task,
waking it and marking it blocked are the operations of the table.
-/

namespace ProtoOs

variable {L : Layout} {cfg : Config} {k k' : Kernel} {t s : Slot} {e : EpId} {tf : TrapFrame}

def Kernel.occupant (k : Kernel) (w : WaitPlace) : Option Slot := slotOf? (k.waiter w).toUInt32

theorem occupant_eq_some {w : WaitPlace} : k.occupant w = some s ↔ k.waiter w = s.i32 := by
  rw [Kernel.occupant, slotOf?_eq_some]
  constructor
  · intro same
    rw [← Slot.u32_toInt32, ← same]
    rfl
  · intro same
    rw [same]
    rfl

theorem occupant_of_none {w : WaitPlace} (vacant : k.waiter w = slotNone) : k.occupant w = none := by
  rw [Kernel.occupant, vacant]
  decide

/-- `entering` is the task that has registered in the trap being handled and is still marked
running. -/
structure WaitsOk (k : Kernel) (entering : Option Slot) : Prop where
  valid : ∀ w, k.waiter w = slotNone ∨ ∃ s, s ≠ slotIdle ∧ k.waiter w = s.i32
  table : ∃ T : Waiting.Table WaitPlace Slot, T.occupant = k.occupant ∧
    ∀ s, s ≠ slotIdle → (T.Waits s ↔ (k.threads s).user.state = .blocked ∨ entering = some s)
  receiver : ∀ e, k.waiter (.receiver e) = slotNone ∨
    k.waiter (.receiver e) = (k.endpoints e).ownerSlot.toInt32

theorem WaitsOk.state_of_recorded {entering : Option Slot} (ok : WaitsOk k entering) {w : WaitPlace}
    (recorded : k.waiter w = s.i32) :
    s ≠ slotIdle ∧ ((k.threads s).user.state = .blocked ∨ entering = some s) := by
  have user : s ≠ slotIdle := by
    rcases ok.valid w with vacant | ⟨u, user, same⟩
    · simp [vacant] at recorded
    · rwa [show s = u by simpa using recorded.symm.trans same]
  obtain ⟨T, occupant, waits⟩ := ok.table
  exact ⟨user, (waits s user).mp ⟨w, by rw [occupant]; exact occupant_eq_some.mpr recorded⟩⟩

theorem WaitsOk.congr {entering : Option Slot} (ok : WaitsOk k entering)
    (waiters : ∀ w, k'.waiter w = k.waiter w)
    (states : ∀ s, s ≠ slotIdle → ((k'.threads s).user.state = .blocked ↔
      (k.threads s).user.state = .blocked))
    (owners : ∀ e, (k'.endpoints e).ownerSlot = (k.endpoints e).ownerSlot) :
    WaitsOk k' entering := by
  obtain ⟨T, occupant, waits⟩ := ok.table
  refine ⟨fun w => waiters w ▸ ok.valid w, ⟨T, ?_, fun s user => ?_⟩, fun e => ?_⟩
  · rw [occupant]
    funext w
    simp [Kernel.occupant, waiters]
  · rw [waits s user, states s user]
  · rw [waiters, owners]
    exact ok.receiver e

theorem WaitsOk.register (ok : WaitsOk k none) {p : WaitPlace} (user : t ≠ slotIdle)
    (running : (k.threads t).user.state ≠ .blocked) (free : k.waiter p = slotNone)
    (waiters : ∀ w, k'.waiter w = if w = p then t.i32 else k.waiter w)
    (states : ∀ s, (k'.threads s).user.state = (k.threads s).user.state)
    (owners : ∀ e, (k'.endpoints e).ownerSlot = (k.endpoints e).ownerSlot)
    (own : ∀ e, p = .receiver e → (k.endpoints e).ownerSlot = t.u32) : WaitsOk k' (some t) := by
  obtain ⟨T, occupant, waits⟩ := ok.table
  have idle : ¬ T.Waits t := by simpa [waits t user] using running
  refine ⟨fun w => ?_, ⟨T.register p t idle, ?_, fun s other => ?_⟩, fun e => ?_⟩
  · rw [waiters w]
    split_ifs
    · exact .inr ⟨t, user, rfl⟩
    · exact ok.valid w
  · funext w
    by_cases here : w = p
    · simp [Waiting.Table.register, here, Kernel.occupant, waiters]
    · simp [Waiting.Table.register, here, Kernel.occupant, waiters, occupant]
  · have vacant : T.occupant p = none := by rw [occupant]; exact occupant_of_none free
    rw [Waiting.Table.waits_register vacant, waits s other, states s]
    simp [or_comm, eq_comm]
  · rw [waiters, owners]
    split_ifs with here
    · exact .inr (by rw [own e here.symm]; rfl)
    · exact ok.receiver e

theorem WaitsOk.release {entering : Option Slot} (ok : WaitsOk k entering) {p : WaitPlace}
    (recorded : k.waiter p = s.i32) (other : entering ≠ some s)
    (waiters : ∀ w, k'.waiter w = if w = p then slotNone else k.waiter w)
    (woken : (k'.threads s).user.state ≠ .blocked)
    (states : ∀ u, u ≠ s → (k'.threads u).user.state = (k.threads u).user.state)
    (owners : ∀ e, (k'.endpoints e).ownerSlot = (k.endpoints e).ownerSlot) :
    WaitsOk k' entering := by
  obtain ⟨T, occupant, waits⟩ := ok.table
  have here : T.occupant p = some s := by rw [occupant]; exact occupant_eq_some.mpr recorded
  refine ⟨fun w => ?_, ⟨T.release p, ?_, fun u user => ?_⟩, fun e => ?_⟩
  · rw [waiters w]
    split_ifs
    · exact .inl rfl
    · exact ok.valid w
  · funext w
    by_cases same : w = p
    · subst same
      rw [occupant_of_none (by simp [waiters])]
      simp [Waiting.Table.release]
    · simp [Waiting.Table.release, same, Kernel.occupant, waiters, occupant]
  · rw [Waiting.Table.waits_release here, waits u user]
    by_cases same : u = s
    · subst same
      simp [woken, other]
    · simp [states u same, same]
  · rw [waiters, owners]
    split_ifs
    · exact .inl rfl
    · exact ok.receiver e

theorem WaitsOk.settle (ok : WaitsOk k (some t))
    (waiters : ∀ w, k'.waiter w = k.waiter w) (blocked : (k'.threads t).user.state = .blocked)
    (states : ∀ u, u ≠ t → (k'.threads u).user.state = (k.threads u).user.state)
    (owners : ∀ e, (k'.endpoints e).ownerSlot = (k.endpoints e).ownerSlot) : WaitsOk k' none := by
  obtain ⟨T, occupant, waits⟩ := ok.table
  refine ⟨fun w => waiters w ▸ ok.valid w, ⟨T, ?_, fun s other => ?_⟩, fun e => ?_⟩
  · rw [occupant]
    funext w
    simp [Kernel.occupant, waiters]
  · rw [waits s other]
    by_cases same : s = t
    · simp [same, blocked]
    · simp [states s same, Ne.symm same]
  · rw [waiters, owners]
    exact ok.receiver e

/-! ## The wait slots of each transition -/

structure OnEndpoint (k k' : Kernel) (e : EpId) : Prop where
  elsewhere : ∀ u, u ≠ e → k'.endpoints u = k.endpoints u
  supervisor : k'.blockedSupervisorSlot = k.blockedSupervisorSlot
  owner : (k'.endpoints e).ownerSlot = (k.endpoints e).ownerSlot

theorem OnEndpoint.waiter (on : OnEndpoint k k' e) (w : WaitPlace) : k'.waiter w =
    if w = .caller e then (k'.endpoints e).blockedCallerSlot
    else if w = .receiver e then (k'.endpoints e).blockedReceiverSlot else k.waiter w := by
  cases w with
  | caller u =>
      by_cases same : u = e
      · simp [Kernel.waiter, same]
      · simp [Kernel.waiter, same, on.elsewhere u same]
  | receiver u =>
      by_cases same : u = e
      · simp [Kernel.waiter, same]
      · simp [Kernel.waiter, same, on.elsewhere u same]
  | supervisor => simp [Kernel.waiter, on.supervisor]

theorem OnEndpoint.owners (on : OnEndpoint k k' e) (u : EpId) :
    (k'.endpoints u).ownerSlot = (k.endpoints u).ownerSlot := by
  by_cases same : u = e
  · rw [same, on.owner]
  · rw [on.elsewhere u same]

variable {d : Send} {ptr cap len : UInt64}

theorem registerCaller_on : OnEndpoint k (k.registerCaller t e d) e :=
  ⟨fun u other => by simp [Kernel.registerCaller, other], rfl, by simp [Kernel.registerCaller]⟩

theorem parkRequest_on : OnEndpoint k (k.parkRequest t e d) e :=
  ⟨fun u other => by simp [Kernel.parkRequest, Kernel.registerCaller, other], rfl,
    by simp [Kernel.parkRequest, Kernel.registerCaller]⟩

theorem handOver_on : OnEndpoint k (k.handOver t e d s) e :=
  ⟨fun u other => by simp [Kernel.handOver, Kernel.registerCaller, other], rfl,
    by simp [Kernel.handOver, Kernel.registerCaller]⟩

theorem takePending_on : OnEndpoint k (k.takePending t e ptr cap) e :=
  ⟨fun u other => by simp [Kernel.takePending, other], rfl, by simp [Kernel.takePending]⟩

theorem listen_on : OnEndpoint k (k.listen t e ptr cap) e :=
  ⟨fun u other => by simp [Kernel.listen, other], rfl, by simp [Kernel.listen]⟩

theorem answer_on : OnEndpoint k (k.answer t e ptr len s) e :=
  ⟨fun u other => by simp [Kernel.answer, other], rfl, by simp [Kernel.answer]⟩

theorem waiter_registerCaller (w : WaitPlace) : (k.registerCaller t e d).waiter w =
    if w = .caller e then t.i32 else k.waiter w := by
  rw [registerCaller_on.waiter]
  split_ifs with caller receiver
  · simp [Kernel.registerCaller]
  · simp [Kernel.registerCaller, receiver, Kernel.waiter]
  · rfl

theorem waiter_parkRequest (w : WaitPlace) : (k.parkRequest t e d).waiter w =
    if w = .caller e then t.i32 else k.waiter w := by
  rw [parkRequest_on.waiter]
  split_ifs with caller receiver
  · simp [Kernel.parkRequest, Kernel.registerCaller]
  · simp [Kernel.parkRequest, Kernel.registerCaller, receiver, Kernel.waiter]
  · rfl

theorem waiter_handOver (w : WaitPlace) : (k.handOver t e d s).waiter w =
    if w = .receiver e then slotNone else (k.registerCaller t e d).waiter w := by
  rw [handOver_on.waiter, waiter_registerCaller]
  by_cases receiver : w = .receiver e
  · simp [receiver, Kernel.handOver]
  · simp [receiver, Kernel.handOver, Kernel.registerCaller]

theorem waiter_takePending (w : WaitPlace) :
    (k.takePending t e ptr cap).waiter w = k.waiter w := by
  rw [takePending_on.waiter]
  split_ifs with caller receiver
  · simp [Kernel.takePending, caller, Kernel.waiter]
  · simp [Kernel.takePending, receiver, Kernel.waiter]
  · rfl

theorem waiter_listen (w : WaitPlace) : (k.listen t e ptr cap).waiter w =
    if w = .receiver e then t.i32 else k.waiter w := by
  rw [listen_on.waiter]
  by_cases receiver : w = .receiver e
  · simp [receiver, Kernel.listen]
  · split_ifs with caller
    · simp [caller, Kernel.listen, Kernel.waiter]
    · rfl

theorem waiter_answer (w : WaitPlace) : (k.answer t e ptr len s).waiter w =
    if w = .caller e then slotNone else k.waiter w := by
  rw [answer_on.waiter]
  split_ifs with caller receiver
  · simp [Kernel.answer]
  · simp [Kernel.answer, receiver, Kernel.waiter]
  · rfl

theorem waiter_setBlockedSupervisor (slot : Int32) (w : WaitPlace) :
    (k.setBlockedSupervisor slot).waiter w = if w = .supervisor then slot else k.waiter w := by
  cases w <;> simp [Kernel.waiter]

end ProtoOs
