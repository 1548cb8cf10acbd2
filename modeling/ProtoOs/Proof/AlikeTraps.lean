import ProtoOs.Proof.Alike

namespace ProtoOs

variable {L : Layout} {cfg : Config} {k k' : Kernel} {m m' : Machine} {c : Option Slot} {s t : Slot} {e : EpId}
  {shows : Prop} {out out' : List UartCall} {tf : TrapFrame} {α ε : Type}

inductive Both (E : ε → ε → Prop) (R : α → α → Prop) : Except ε α → Except ε α → Prop
  | error {x y : ε} (related : E x y) : Both E R (.error x) (.error y)
  | ok {a b : α} (related : R a b) : Both E R (.ok a) (.ok b)

theorem Both.cases {E : ε → ε → Prop} {R : α → α → Prop} {first second : Except ε α}
    (both : Both E R first second) :
    (∃ x y, first = .error x ∧ second = .error y ∧ E x y) ∨
      ∃ a b, first = .ok a ∧ second = .ok b ∧ R a b := by
  cases both with
  | error related => exact .inl ⟨_, _, rfl, rfl, related⟩
  | ok related => exact .inr ⟨_, _, rfl, rfl, related⟩

structure Beside (R : Kernel → Kernel → Prop) (a b : Kernel × α) : Prop where
  kernel : R a.1 b.1
  value : b.2 = a.2

structure Stops (R : Kernel → Kernel → Prop) (a b : Panic × Kernel) : Prop where
  panic : b.1 = a.1
  kernel : R a.2 b.2

abbrev Handled (c : Option Slot) (shows : Prop) (out out' : List UartCall) :
    Except (Panic × Kernel) (Kernel × α) → Except (Panic × Kernel) (Kernel × α) → Prop :=
  Both (Stops (Alike c shows out out')) (Beside (Alike c shows out out'))

theorem Handled.stop {p : Panic} (alike : Alike c shows out out' k k') :
    Handled (α := α) c shows out out' (.error (p, k)) (.error (p, k')) :=
  .error ⟨rfl, alike⟩

theorem Handled.return {a : α} (alike : Alike c shows out out' k k') :
    Handled c shows out out' (.ok (k, a)) (.ok (k', a)) :=
  .ok ⟨alike, rfl⟩

theorem Handled.ite {p : Prop} [Decidable p] {a b a' b' : Except (Panic × Kernel) (Kernel × α)}
    (yes : p → Handled c shows out out' a b) (no : ¬ p → Handled c shows out out' a' b') :
    Handled c shows out out' (if p then a else a') (if p then b else b') := by
  by_cases holds : p
  · simpa [holds] using yes holds
  · simpa [holds] using no holds

/-! ## The current task -/

theorem currentUserTask_alike (alike : Alike c shows out out' k k') (p : Panic) :
    currentUserTask k' p = currentUserTask k p := by
  simp only [currentUserTask, alike.task, alike.current]
  cases k.currentTask with
  | none => rfl
  | some t => simp only [(alike.threads t).kind]

theorem threadCurrentUserSlot_alike (alike : Alike c shows out out' k k') :
    threadCurrentUserSlot k' = threadCurrentUserSlot k := by
  simp only [threadCurrentUserSlot, currentUserTask_alike alike]
  cases currentUserTask k .invalidCurrentUserTask with
  | error p => rfl
  | ok t => simp only [(alike.threads t).slot]

theorem threadUserTrapRedirect_alike (L : Layout) (tf : TrapFrame)
    (alike : Alike c shows out out' k k') (reason : TaskReturnReason) : Both (· = ·) (Beside (Alike c shows out out'))
      (threadUserTrapRedirect L k tf reason) (threadUserTrapRedirect L k' tf reason) := by
  simp only [threadUserTrapRedirect, currentUserTask_alike alike]
  cases currentUserTask k .trapRedirectWithoutUserTask with
  | error p => exact .error rfl
  | ok t =>
      simp only [(alike.threads t).ctx]
      split_ifs
      · exact .error rfl
      · exact .error rfl
      · exact .ok ⟨alike.saveFrame reason, rfl⟩

theorem syscallRedirect_alike (alike : Alike c shows out out' k k') (reason : TaskReturnReason) :
    Handled c shows out out' (syscallRedirect L k tf reason) (syscallRedirect L k' tf reason) := by
  simp only [syscallRedirect]
  rcases (threadUserTrapRedirect_alike L tf alike reason).cases with
    ⟨p, _, first, second, rfl⟩ | ⟨⟨k₁, tf₁⟩, ⟨k₁', tf₁'⟩, first, second, ⟨kernel, value⟩⟩
  · rw [first, second]
    exact .stop alike
  · cases value
    rw [first, second]
    exact .return kernel

theorem threadUserWakeWithX0_alike (alike : Alike c shows out out' k k') (slot : UInt32)
    (v v' : UInt64) (same : (∃ s, c = some s ∧ slot = s.u32) ∨ v' = v) : Both (· = ·) (Alike c shows out out')
      (threadUserWakeWithX0 k slot v) (threadUserWakeWithX0 k' slot v') := by
  simp only [threadUserWakeWithX0]
  cases found : slotOf? slot with
  | none => exact .error rfl
  | some s =>
      have here : slot = s.u32 := slotOf?_eq_some.mp found
      simp only [(alike.threads s).kind, (alike.threads s).state, (alike.threads s).task]
      split_ifs
      · exact .error rfl
      · exact .error rfl
      · refine .ok (alike.wake (same.imp_left ?_))
        rintro ⟨u, hidden, named⟩
        rw [hidden, Slot.u32_inj.mp (here.symm.trans named)]

/-! ## IPC -/

/-- `ipcAccept` up to the registration of the caller. -/
def Kernel.registerSend (k : Kernel) (e : EpId) (r : Request) (replyPtr override : UInt64) : Kernel :=
  (k.record [.accepted r]).modifyEndpoint e fun ep =>
    { ep with
      blockedCallerSlot := r.caller.toInt32, callerReplyPtr := replyPtr, callerReplyCap := r.replyCap
      callerResultOverride := override, callerReq := some r }

/-- `ipcAccept` from there on. -/
def ipcHandOn (L : Layout) (k : Kernel) (tf : TrapFrame) (e : EpId) (ptr : UInt64) (r : Request) :
    SysResult :=
  let ep := k.endpoints e
  let step : Except (Panic × Kernel) Kernel :=
    if ep.blockedReceiverSlot ≠ slotNone then
      let delivered := minU64 r.len ep.receiverBufCap
      let k := k.copyUser ep.receiverBufPtr ptr delivered
      match threadUserWakeWithX0 k ep.blockedReceiverSlot.toUInt32 delivered with
      | .error p => .error (p, k)
      | .ok k => .ok (threadRequestResched
          ((k.record [.delivered r ep.blockedReceiverSlot.toUInt32 ep.receiverBufCap
            delivered]).modifyEndpoint e endpointClearReceiver))
    else
      .ok ((k.copyIn e ptr r.len).modifyEndpoint e fun ep =>
        { ep with pendingLen := r.len, hasPending := true, pendingReq := some r })
  match step with
  | .error stop => .error stop
  | .ok k => syscallRedirect L k tf .ipcBlock

theorem ipcHandOn_alike (alike : Alike c shows out out' k k') (ptr : UInt64) {r r' : Request}
    (len : r'.len = r.len) :
    Handled c shows out out' (ipcHandOn L k tf e ptr r) (ipcHandOn L k' tf e ptr r') := by
  have same := alike.endpoints e
  simp only [ipcHandOn, same.receiver, same.receiverPtr, same.receiverCap, len]
  by_cases waits : (k.endpoints e).blockedReceiverSlot ≠ slotNone
  · simp only [if_pos waits]
    let n := minU64 r.len (k.endpoints e).receiverBufCap
    have copied : Alike c shows out out' (k.copyUser (k.endpoints e).receiverBufPtr ptr n)
        (k'.copyUser (k.endpoints e).receiverBufPtr ptr n) := alike.copyUser (.inr rfl)
    rcases (threadUserWakeWithX0_alike copied (k.endpoints e).blockedReceiverSlot.toUInt32 n n
      (.inr rfl)).cases with ⟨p, _, first, second, rfl⟩ | ⟨k₁, k₁', first, second, woken⟩
    · rw [first, second]
      exact .stop copied
    · rw [first, second]
      apply syscallRedirect_alike
      refine Alike.setResched ((woken.record _ _).modifyEndpoint ?_) true
      exact (woken.endpoints e).clearReceiver
  · simp only [if_neg waits]
    apply syscallRedirect_alike
    have copied := alike.copyIn (e := e) ptr r.len
    exact copied.modifyEndpoint ((copied.endpoints e).park _ _ _)

theorem ipcAccept_eq (k : Kernel) (ptr len replyPtr replyCap override : UInt64) (routed : Bool) :
    ipcAccept L k tf e ptr len replyPtr replyCap override routed =
      match threadCurrentUserSlot k with
      | .error p => .error (p, k)
      | .ok slot =>
          let r : Request :=
            { id := k.log.length, ep := e, caller := slot, len := len, replyCap := replyCap
              routed := routed }
          ipcHandOn L (k.registerSend e r replyPtr override) tf e ptr r := rfl

theorem ipcAccept_alike (alike : Alike c shows out out' k k')
    (ptr len replyPtr replyCap override : UInt64) (routed : Bool) : Handled c shows out out'
      (ipcAccept L k tf e ptr len replyPtr replyCap override routed)
      (ipcAccept L k' tf e ptr len replyPtr replyCap override routed) := by
  rw [ipcAccept_eq k, ipcAccept_eq k', threadCurrentUserSlot_alike alike]
  cases threadCurrentUserSlot k with
  | error p => exact .stop alike
  | ok slot =>
      apply ipcHandOn_alike
      · refine (alike.record _ _).modifyEndpoint ?_
        exact (alike.endpoints e).register _ _ (.inr ⟨rfl, rfl⟩)
      · rfl

theorem ipcSyscallCall_alike (alike : Alike c shows out out' k k') :
    Handled c shows out out' (ipcSyscallCall L k tf) (ipcSyscallCall L k' tf) := by
  simp only [ipcSyscallCall]
  cases getEndpoint (tf.x 0) with
  | none => exact .return alike
  | some e =>
      simp only [(alike.endpoints e).owner, (alike.endpoints e).pending, (alike.endpoints e).caller]
      split_ifs
      all_goals first | exact .return alike | exact ipcAccept_alike alike _ _ _ _ _ _

theorem ipcRouteUartWrite_alike (alike : Alike c shows out out' k k') (buf len : UInt64) :
    Handled c shows out out' (ipcRouteUartWrite L k tf buf len)
      (ipcRouteUartWrite L k' tf buf len) := by
  simp only [ipcRouteUartWrite]
  cases getEndpoint 1 with
  | none => exact .return alike
  | some e =>
      simp only [(alike.endpoints e).owner, (alike.endpoints e).pending, (alike.endpoints e).caller]
      split_ifs
      all_goals first | exact .return alike | exact ipcAccept_alike alike _ _ _ _ _ _

theorem ipcSyscallRecv_alike (alike : Alike c shows out out' k k') :
    Handled c shows out out' (ipcSyscallRecv L k tf) (ipcSyscallRecv L k' tf) := by
  simp only [ipcSyscallRecv, threadCurrentUserSlot_alike alike]
  cases getEndpoint (tf.x 0) with
  | none => exact .return alike
  | some e =>
      have same := alike.endpoints e
      simp only [same.owner, same.pending, same.length, same.receiver]
      cases threadCurrentUserSlot k with
      | error p =>
          simp only
          split_ifs
          all_goals first | exact .return alike | exact .stop alike
      | ok slot =>
          simp only
          split_ifs
          all_goals try exact .return alike
          · have copied := alike.copyOut (e := e) (tf.x 1) (minU64 (k.endpoints e).pendingLen (tf.x 2))
            refine .return ((copied.record _ _).modifyEndpoint ?_)
            exact (copied.endpoints e).clearPending
          · apply syscallRedirect_alike
            exact alike.modifyEndpoint (same.listen _ _ _)

/-- What a reply returns to its caller is hidden with the reply. -/
theorem ipcSyscallReply_alike (alike : Alike c shows out out' k k') :
    Handled c shows out out' (ipcSyscallReply k tf) (ipcSyscallReply k' tf) := by
  simp only [ipcSyscallReply, threadCurrentUserSlot_alike alike]
  cases getEndpoint (tf.x 0) with
  | none => exact .return alike
  | some e =>
      have same := alike.endpoints e
      simp only [same.owner, same.caller, same.replyCap]
      cases threadCurrentUserSlot k with
      | error p =>
          simp only
          split_ifs
          all_goals first | exact .return alike | exact .stop alike
      | ok slot =>
          let n := minU64 (tf.x 2) (k.endpoints e).callerReplyCap
          let ret (k : Kernel) := if (k.endpoints e).callerResultOverride ≠ 0 then
            (k.endpoints e).callerResultOverride else n
          have copied : Alike c shows out out'
              (k.copyUser (k.endpoints e).callerReplyPtr (tf.x 1) n)
              (k'.copyUser (k'.endpoints e).callerReplyPtr (tf.x 1) n) := by
            apply alike.copyUser
            rcases same.reply with ⟨_, none⟩ | ⟨ptr, _⟩
            · left
              simp [n, none, minU64]
            · exact .inr ptr
          have hidden : (∃ s, c = some s ∧ (k.endpoints e).blockedCallerSlot.toUInt32 = s.u32) ∨
              ret k' = ret k := by
            rcases same.reply with ⟨⟨s, hidden, caller⟩, _⟩ | ⟨_, override⟩
            · exact .inl ⟨s, hidden, by rw [caller]; rfl⟩
            · exact .inr (by simp only [ret, override])
          apply Handled.ite fun _ => .return alike
          intro _
          apply Handled.ite fun _ => .return alike
          intro _
          apply Handled.ite fun _ => .return alike
          intro _
          apply Handled.ite fun _ => .return alike
          intro _
          apply Handled.ite fun _ => .return alike
          intro _
          rcases (threadUserWakeWithX0_alike copied (k.endpoints e).blockedCallerSlot.toUInt32 (ret k)
            (ret k') hidden).cases with ⟨p, _, first, second, rfl⟩ | ⟨k₁, k₁', first, second, woken⟩
          · rw [first, second]
            exact .stop copied
          · rw [first, second]
            refine .return (Alike.setResched ((woken.record _ _).modifyEndpoint ?_) true)
            exact (woken.endpoints e).clearCaller

/-! ## Supervision -/

theorem threadUserRestart_alike (alike : Alike c shows out out' k k') (slot : UInt32) :
    Alike c shows out out' (threadUserRestart k slot).1 (threadUserRestart k' slot).1 ∧
      (threadUserRestart k' slot).2 = (threadUserRestart k slot).2 := by
  simp only [threadUserRestart]
  cases slotOf? slot with
  | none => exact ⟨alike, rfl⟩
  | some s =>
      have same := alike.threads s
      simp only [same.kind, same.task, same.state, same.entry, same.stack, same.name]
      split_ifs
      · exact ⟨alike, rfl⟩
      · exact ⟨alike, rfl⟩
      · exact ⟨alike, rfl⟩
      · exact ⟨((alike.modifyThread same.restart).setResched true).record _ _, rfl⟩

theorem supervisorSyscallWait_alike (alike : Alike c shows out out' k k') :
    Handled c shows out out' (supervisorSyscallWait L k tf) (supervisorSyscallWait L k' tf) := by
  simp only [supervisorSyscallWait, threadCurrentUserSlot_alike alike, alike.pendingDeath,
    alike.supervisor]
  cases threadCurrentUserSlot k with
  | error p => exact .stop alike
  | ok slot =>
      apply Handled.ite fun _ => .return alike
      intro _
      apply Handled.ite
      · exact fun _ => .return ((alike.record _ _).setPendingDeath slotNone)
      intro _
      apply Handled.ite fun _ => .return alike
      exact fun _ => syscallRedirect_alike (alike.setBlockedSupervisor slot.toInt32) .notifyBlock

theorem supervisorSyscallRestart_alike (alike : Alike c shows out out' k k') (slot : UInt64) :
    Handled c shows out out' (supervisorSyscallRestart k tf slot)
      (supervisorSyscallRestart k' tf slot) := by
  obtain ⟨restarted, ret⟩ := threadUserRestart_alike alike slot.toUInt32
  simp only [supervisorSyscallRestart, threadCurrentUserSlot_alike alike, ret]
  cases threadCurrentUserSlot k with
  | error p => exact .stop alike
  | ok current =>
      apply Handled.ite fun _ => .return alike
      intro _
      apply Handled.ite fun _ => .return alike
      intro _
      exact .ite (fun _ => .return restarted) fun _ => .return restarted

/-- One turn of the loop of `ipc_handle_task_death` after its first test. -/
def resolveCallerAt (slot : UInt32) (k : Kernel) (e : EpId) : Except Panic Kernel :=
  let ep := k.endpoints e
  if ep.ownerSlot = slot ∧ ep.blockedCallerSlot ≠ slotNone then
    match threadUserWakeWithX0 k ep.blockedCallerSlot.toUInt32 minusOne with
    | .error p => .error p
    | .ok k => .ok (threadRequestResched
        ((k.record ep.abortEvents).modifyEndpoint e
          (endpointClearPending ∘ endpointClearCaller)))
  else if ep.blockedCallerSlot = slot.toInt32 then
    .ok ((k.record (ep.pendingReq.toList.map .discarded)).modifyEndpoint e
      (endpointClearPending ∘ endpointClearCaller))
  else .ok k

theorem resolveCallerAt_alike (alike : Alike c shows out out' k k') (slot : UInt32) (e : EpId) :
    Both (· = ·) (Alike c shows out out') (resolveCallerAt slot k e) (resolveCallerAt slot k' e) := by
  have same := alike.endpoints e
  simp only [resolveCallerAt, same.owner, same.caller]
  split_ifs
  · rcases (threadUserWakeWithX0_alike alike (k.endpoints e).blockedCallerSlot.toUInt32 minusOne
      minusOne (.inr rfl)).cases with ⟨p, _, first, second, rfl⟩ | ⟨k₁, k₁', first, second, woken⟩
    · rw [first, second]
      exact .error rfl
    · rw [first, second]
      refine .ok (Alike.setResched ((woken.record _ _).modifyEndpoint ?_) true)
      exact (woken.endpoints e).clearCaller.clearPending
  · exact .ok ((alike.record _ _).modifyEndpoint same.clearCaller.clearPending)
  · exact .ok alike

theorem ipcDeathAt_alike (alike : Alike c shows out out' k k') (slot : UInt32) (e : EpId) :
    Both (· = ·) (Alike c shows out out') (ipcDeathAt slot k e) (ipcDeathAt slot k' e) := by
  apply resolveCallerAt_alike
  rw [(alike.endpoints e).receiver]
  split_ifs
  · exact alike.modifyEndpoint (alike.endpoints e).clearReceiver
  · exact alike

theorem ipcHandleTaskDeath_alike (alike : Alike c shows out out' k k') (slot : UInt32) :
    Both (· = ·) (Alike c shows out out') (ipcHandleTaskDeath k slot) (ipcHandleTaskDeath k' slot) := by
  unfold ipcHandleTaskDeath
  generalize List.finRange epCount = es
  induction es generalizing k k' with
  | nil => exact .ok alike
  | cons e es ih =>
      simp only [List.foldlM_cons]
      rcases (ipcDeathAt_alike alike slot e).cases with
        ⟨p, _, first, second, rfl⟩ | ⟨k₁, k₁', first, second, after⟩
      · rw [first, second]
        exact .error rfl
      · rw [first, second]
        exact ih after

theorem supervisorNoteTaskDeath_alike (alike : Alike c shows out out' k k') (slot : UInt32) :
    Both (· = ·) (Alike c shows out out') (supervisorNoteTaskDeath k slot)
      (supervisorNoteTaskDeath k' slot) := by
  let cleared (k : Kernel) := if slot.toInt32 = k.blockedSupervisorSlot then
      k.setBlockedSupervisor slotNone
    else k
  have after : Alike c shows out out' (cleared k) (cleared k') := by
    simp only [cleared, alike.supervisor]
    split_ifs
    · exact alike.setBlockedSupervisor slotNone
    · exact alike
  have unfolds (k : Kernel) : supervisorNoteTaskDeath k slot =
      if slot.toNat ≥ threadCount then .ok k
      else if (cleared k).blockedSupervisorSlot ≠ slotNone then
        match threadUserWakeWithX0 (cleared k) (cleared k).blockedSupervisorSlot.toUInt32
            slot.toUInt64 with
        | .error p => .error p
        | .ok k => .ok (threadRequestResched
            ((k.record [.reported slot]).setBlockedSupervisor slotNone))
      else .ok (((cleared k).record (if (cleared k).pendingDeathSlot ≠ slotNone then
          [.overwritten (cleared k).pendingDeathSlot.toUInt32] else [])).setPendingDeath
            slot.toInt32) := rfl
  rw [unfolds k, unfolds k', after.supervisor]
  by_cases beyond : slot.toNat ≥ threadCount
  · simp only [beyond, if_true]
    exact .ok alike
  · simp only [beyond, if_false]
    by_cases waits : (cleared k).blockedSupervisorSlot ≠ slotNone
    · simp only [if_pos waits]
      rcases (threadUserWakeWithX0_alike after (cleared k).blockedSupervisorSlot.toUInt32
        slot.toUInt64 slot.toUInt64 (.inr rfl)).cases with
        ⟨p, _, first, second, rfl⟩ | ⟨k₁, k₁', first, second, woken⟩
      · rw [first, second]
        exact .error rfl
      · rw [first, second]
        exact .ok (((woken.record _ _).setBlockedSupervisor slotNone).setResched true)
    · simp only [if_neg waits]
      exact .ok ((after.record _ _).setPendingDeath slot.toInt32)

/-! ## Traps -/

theorem uartWriteDirect_alike (alike : Alike c shows out out' k k') (buf len : UInt64) :
    Alike c shows out out' (uartWriteDirect k buf len) (uartWriteDirect k' buf len) := by
  unfold uartWriteDirect
  rw [alike.mem]
  exact (alike.touch _ _).emit _

theorem syscallWrite_alike (alike : Alike c shows out out' k k') (origin : SyscallOrigin) :
    Handled c shows out out' (syscallWrite L cfg k tf origin) (syscallWrite L cfg k' tf origin) := by
  have direct := uartWriteDirect_alike alike (tf.x 0) (tf.x 1)
  simp only [syscallWrite, threadCurrentUserSlot_alike alike]
  apply Handled.ite fun _ => .return alike
  intro _
  apply Handled.ite fun _ => .return alike
  intro _
  apply Handled.ite fun _ => .return direct
  intro _
  apply Handled.ite _ fun _ => .return direct
  intro _
  cases threadCurrentUserSlot k with
  | error p => exact .stop alike
  | ok slot =>
      apply Handled.ite _ fun _ => .return direct
      intro _
      exact .ite (fun _ => .return alike) fun _ => ipcRouteUartWrite_alike alike _ _

/-- The tick counter is the only part of the clock that a call returns. -/
theorem syscallDispatch_alike (alike : Alike c shows out out' k k')
    (timeless : shows ∨ tf.x 8 ≠ sysTimeTicks) (origin : SyscallOrigin) : Handled c shows out out'
      (syscallDispatch L cfg k tf origin) (syscallDispatch L cfg k' tf origin) := by
  have refused : Handled c shows out out' (.ok (k, tf, minusOne)) (.ok (k', tf, minusOne)) :=
    .return alike
  simp only [syscallDispatch]
  apply Handled.ite
  · exact fun _ => .ite (fun _ => syscallRedirect_alike alike .yield) fun _ => .return alike
  intro _
  apply Handled.ite
  · intro asks
    have ticks : threadTicksNow k' = threadTicksNow k :=
      (alike.time (timeless.resolve_right (not_not.mpr asks))).1
    rw [ticks]
    exact .return alike
  intro _
  apply Handled.ite fun _ => syscallWrite_alike alike origin
  intro _
  apply Handled.ite
  · exact fun _ => .ite (fun _ => refused) fun _ => syscallRedirect_alike alike .exit
  intro _
  apply Handled.ite
  · exact fun _ => .ite (fun _ => refused) fun _ => ipcSyscallCall_alike alike
  intro _
  apply Handled.ite
  · exact fun _ => .ite (fun _ => refused) fun _ => ipcSyscallRecv_alike alike
  intro _
  apply Handled.ite
  · exact fun _ => .ite (fun _ => refused) fun _ => ipcSyscallReply_alike alike
  intro _
  apply Handled.ite
  · exact fun _ => .ite (fun _ => refused) fun _ => supervisorSyscallWait_alike alike
  intro _
  apply Handled.ite _ fun _ => refused
  exact fun _ => .ite (fun _ => refused) fun _ => supervisorSyscallRestart_alike alike (tf.x 0)

theorem exceptionSyncEl0_alike (alike : Alike c shows out out' k k')
    (timeless : shows ∨ ¬ Asks tf sysTimeTicks) : Handled c shows out out'
      (exceptionSyncEl0 L cfg k tf) (exceptionSyncEl0 L cfg k' tf) := by
  simp only [exceptionSyncEl0]
  by_cases svc : tf.exceptionClass = 0x15
  · have silent : shows ∨ tf.x 8 ≠ sysTimeTicks :=
      timeless.imp_right fun other asks => other ⟨svc, asks⟩
    simp only [svc, if_true]
    have handled : Handled c shows out out' (syscallDispatch L cfg k tf .el0)
        (syscallDispatch L cfg k' tf .el0) := syscallDispatch_alike alike silent .el0
    rcases handled.cases with
      ⟨⟨p, k₁⟩, ⟨_, k₁'⟩, first, second, ⟨panic, kernel⟩⟩ |
        ⟨⟨k₁, tf₁, x0⟩, ⟨k₁', _⟩, first, second, ⟨kernel, value⟩⟩
    · cases panic
      rw [first, second]
      exact .stop kernel
    · cases value
      rw [first, second]
      exact .return kernel
  · simp only [svc, if_false, threadUserFault, currentUserTask_alike alike]
    cases currentUserTask k .faultWithoutUserTask with
    | error p => exact .stop alike
    | ok t =>
        simp only [(alike.threads t).name]
        have reported := alike.emit (faultReport cfg (k.threads t).user.name tf)
        rcases (threadUserTrapRedirect_alike L tf reported .fault).cases with
          ⟨p, _, first, second, rfl⟩ | ⟨⟨k₁, tf₁⟩, ⟨k₁', _⟩, first, second, ⟨kernel, value⟩⟩
        · rw [first, second]
          exact .stop reported
        · cases value
          rw [first, second]
          exact .return kernel

theorem userTaskDeath_alike (alike : Alike c shows out out' k k') (t : Slot) :
    Both (· = ·) (Alike c shows out out') (userTaskDeath k t) (userTaskDeath k' t) := by
  simp only [userTaskDeath, (alike.threads t).slot]
  have dying := (alike.record [.died (k.threads t).slot] [.died (k.threads t).slot]).markTask
    (s := t) .stopped .dead
  rcases (ipcHandleTaskDeath_alike dying (k.threads t).slot).cases with
    ⟨p, _, first, second, rfl⟩ | ⟨k₁, k₁', first, second, after⟩
  · rw [first, second]
    exact .error rfl
  · rw [first, second]
    exact supervisorNoteTaskDeath_alike after _

theorem userTaskReturnStep_alike (alike : Alike c shows out out' k k') :
    Both (· = ·) (Beside (Alike c shows out out')) (userTaskReturnStep k) (userTaskReturnStep k') := by
  simp only [userTaskReturnStep, currentUserTask_alike alike]
  cases currentUserTask k .invalidCurrentUserTask with
  | error p => exact .error rfl
  | ok t =>
      have marked (state : TaskState) := alike.markTask (s := t) .runnable state
      have death {k k' : Kernel} (alike : Alike c shows out out' k k') :
          Both (· = ·) (Beside (Alike c shows out out'))
            (match userTaskDeath k t with
              | .error p => .error p
              | .ok k => .ok (k.setResched true, t))
            (match userTaskDeath k' t with
              | .error p => .error p
              | .ok k => .ok (k.setResched true, t)) := by
        rcases (userTaskDeath_alike alike t).cases with
          ⟨p, _, first, second, rfl⟩ | ⟨k₁, k₁', first, second, after⟩
        · rw [first, second]
          exact .error rfl
        · rw [first, second]
          exact .ok ⟨after.setResched true, rfl⟩
      simp only [(alike.threads t).reason, (alike.threads t).name]
      cases (k.threads t).user.returnReason with
      | none => exact .error rfl
      | yield => exact .ok ⟨(marked .runnable).setResched true, rfl⟩
      | ipcBlock => exact .ok ⟨(marked .blocked).setResched true, rfl⟩
      | notifyBlock => exact .ok ⟨(marked .blocked).setResched true, rfl⟩
      | exit => exact death (alike.emit _)
      | fault => exact death alike

/-- Two machines at the same point. -/
structure MachineAlike (c : Option Slot) (shows : Prop) (out out' : List UartCall) (m m' : Machine) :
    Prop where
  kernel : Alike c shows out out' m.kernel m'.kernel
  phase : m'.phase = m.phase ∨ m.kernel.current = c ∧ ∃ regs regs' : UserTaskCtx,
    m.phase = .el0 regs ∧ m'.phase = .el0 regs'

theorem threadReschedPoint_alike (alike : Alike c shows out out' k k')
    (pending : k'.reschedPending = k.reschedPending) (caller : Resume) :
    MachineAlike c shows out out' (threadReschedPoint k caller) (threadReschedPoint k' caller) := by
  simp only [threadReschedPoint, threadReschedTake, pending]
  cases k.reschedPending with
  | true => exact ⟨alike.setResched false, .inl rfl⟩
  | false => exact ⟨alike.setResched false, .inl rfl⟩

theorem takeTrap_alike (alike : Alike c shows out out' k k')
    (timeless : shows ∨ ¬ Asks tf sysTimeTicks) :
    MachineAlike c shows out out' (takeTrap L cfg k tf) (takeTrap L cfg k' tf) := by
  simp only [takeTrap]
  have handled : Handled c shows out out' (exceptionSyncEl0 L cfg k tf)
      (exceptionSyncEl0 L cfg k' tf) := exceptionSyncEl0_alike alike timeless
  rcases handled.cases with
    ⟨⟨p, k₁⟩, ⟨_, k₁'⟩, first, second, ⟨panic, kernel⟩⟩ |
      ⟨⟨k₁, tf₁⟩, ⟨k₁', _⟩, first, second, ⟨kernel, value⟩⟩
  · cases panic
    rw [first, second]
    exact ⟨kernel, .inl rfl⟩
  · cases value
    rw [first, second]
    simp only [eret]
    by_cases redirected : tf₁.spsr &&& 0xF = 5
    · simp only [redirected, if_true]
      rcases (userTaskReturnStep_alike kernel).cases with
        ⟨p, _, first, second, rfl⟩ | ⟨⟨k₂, t⟩, ⟨k₂', _⟩, first, second, ⟨kernel₂, value⟩⟩
      · rw [first, second]
        exact ⟨kernel, .inl rfl⟩
      · cases value
        have pending := userTaskReturnStep_resched first
        have pending' := userTaskReturnStep_resched second
        rw [first, second]
        exact threadReschedPoint_alike kernel₂ (pending'.trans pending.symm) _
    · simp only [redirected, if_false]
      exact ⟨kernel, .inl rfl⟩

/-! ## The scheduler -/

theorem threadIsSelectable_alike (alike : Alike c shows out out' k k') (s : Option Slot) :
    threadIsSelectable k' s = threadIsSelectable k s := by
  cases s with
  | none => rfl
  | some s =>
      simp only [threadIsSelectable, (alike.threads s).state, (alike.threads s).kind,
        (alike.threads s).task]

theorem pickNextThread_alike (alike : Alike c shows out out' k k') :
    pickNextThread k' = pickNextThread k := by
  have slots (s : Slot) : (k'.threads s).slot = (k.threads s).slot := (alike.threads s).slot
  simp only [pickNextThread, alike.current, threadIsSelectable_alike alike, slots]

theorem threadSwitchToMark_alike (alike : Alike c shows out out' k k') (next : Slot) :
    Alike c shows out out' (threadSwitchToMark k next) (threadSwitchToMark k' next) := by
  have runs {k k' : Kernel} (alike : Alike c shows out out' k k') (s : Slot) (state : ThreadState) :
      Alike c shows out out' (k.modifyThread s fun t => { t with state := state })
        (k'.modifyThread s fun t => { t with state := state }) :=
    alike.modifyThread ((alike.threads s).setState state)
  simp only [threadSwitchToMark, alike.current]
  apply Alike.setCurrent
  apply runs
  cases k.current with
  | none => exact alike
  | some prev =>
      simp only [(alike.threads prev).state]
      split_ifs
      · exact runs alike prev .runnable
      · exact alike

theorem contextSwitch_alike (alike : Alike c shows out out' k k') (prev : Option Slot) (at_ : Resume) :
    Alike c shows out out' (contextSwitch L k prev at_) (contextSwitch L k' prev at_) := by
  cases prev with
  | none => exact alike
  | some p =>
      simp only [contextSwitch]
      exact alike.modifyThread ((alike.threads p).setCtx _)

theorem threadSwitchToEnter_alike (alike : Alike c shows out out' k k') (prev : Option Slot)
    (next : Slot) (at_ : Resume) : Both (· = ·) (Beside (Alike c shows out out'))
      (threadSwitchToEnter L k prev next at_) (threadSwitchToEnter L k' prev next at_) := by
  let refilled (k : Kernel) := if (k.threads next).quantumLeft = 0 then
      k.modifyThread next fun t => { t with quantumLeft := threadQuantumTicks }
    else k
  have folds (k : Kernel) : refilled k = k.modifyThread next fun t =>
      if t.quantumLeft = 0 then { t with quantumLeft := threadQuantumTicks } else t := by
    by_cases spent : (k.threads next).quantumLeft = 0
    · simp [refilled, spent, Kernel.modifyThread]
    · simp [refilled, spent, Kernel.modifyThread]
  have after : Alike c shows out out' (refilled k) (refilled k') := by
    rw [folds k, folds k']
    exact alike.modifyThread (alike.threads next).refill
  have unfolds (k : Kernel) : threadSwitchToEnter L k prev next at_ =
      if ((refilled k).threads next).ctx.lr = .null ∨ ((refilled k).threads next).ctx.sp = 0 then
        .error .invalidNextThreadContext
      else .ok (contextSwitch L (refilled k) prev at_, ((refilled k).threads next).ctx.lr) := rfl
  rw [unfolds k, unfolds k', (after.threads next).ctx]
  split_ifs
  · exact .error rfl
  · exact .ok ⟨contextSwitch_alike after prev at_, rfl⟩

theorem threadEnterEl0_alike (alike : Alike c shows out out' k k') (t : Slot) :
    Alike c shows out out' (threadEnterEl0 k t) (threadEnterEl0 k' t) := by
  have registered := alike.setCurrentTask (some t)
  unfold threadEnterEl0
  exact registered.modifyThread ((registered.threads t).mark .running .running)

theorem resumeAt_alike (alike : Alike c shows out out' k k') (at_ : Resume) :
    resumeAt k at_ = none ∧ resumeAt k' at_ = none ∨ ∃ m m', resumeAt k at_ = some m ∧
      resumeAt k' at_ = some m' ∧ MachineAlike c shows out out' m m' := by
  cases at_ with
  | null => exact .inl ⟨rfl, rfl⟩
  | boot => exact .inl ⟨rfl, rfl⟩
  | idleLoop => exact .inr ⟨_, _, rfl, rfl, alike, .inl rfl⟩
  | returnStep t =>
      simp only [resumeAt, userTaskReturnTail, alike.current, (alike.threads t).kind,
        (alike.threads t).state, (alike.threads t).task]
      right
      split_ifs
      · exact ⟨_, _, rfl, rfl, alike, .inl rfl⟩
      · exact ⟨_, _, rfl, rfl, alike, .inl rfl⟩
      · exact ⟨_, _, rfl, rfl, (alike.modifyThread ((alike.threads t).settle _ _ _)).setCurrentTask _,
          .inl rfl⟩
  | bootstrap entry arg =>
      cases entry with
      | idle => exact .inr ⟨_, _, rfl, rfl, alike, .inl rfl⟩
      | userTask =>
          right
          cases arg with
          | none => exact ⟨_, _, rfl, rfl, alike, .inl rfl⟩
          | some t =>
              simp only [resumeAt, threadEntryUserTask, (alike.threads t).kind]
              split_ifs
              · exact ⟨_, _, rfl, rfl, alike, .inl rfl⟩
              · have started : Alike c shows out out'
                    (k.modifyThread t fun th => { th with user := { th.user with started := true } })
                    (k'.modifyThread t fun th => { th with user := { th.user with started := true } }) :=
                  alike.modifyThread (alike.threads t).start
                exact ⟨_, _, rfl, rfl, threadEnterEl0_alike started t, .inl rfl⟩

theorem threadCurrentUserCtx_alike (alike : Alike c shows out out' k k') :
    threadCurrentUserCtx L k' = threadCurrentUserCtx L k := by
  simp only [threadCurrentUserCtx, currentUserTask_alike alike]
  cases currentUserTask k .invalidCurrentUserTask with
  | error p => rfl
  | ok t => simp only [(alike.threads t).elr]

/-- The idle loop asks the clock whether to reschedule. -/
theorem advance_alike (inv : Inv L cfg m) (alike : MachineAlike c shows out out' m m')
    (awake : shows ∨ m.phase ≠ .wfi) : advance L m = none ∧ advance L m' = none ∨
      ∃ m₁ m₁', advance L m = some m₁ ∧ advance L m' = some m₁' ∧
        MachineAlike c shows out out' m₁ m₁' := by
  obtain ⟨k, phase⟩ := m
  obtain ⟨k', phase'⟩ := m'
  obtain ⟨alike, same | ⟨_, regs, regs', first, second⟩⟩ := alike
  swap
  · simp only at first second
    subst first second
    exact .inl ⟨rfl, rfl⟩
  simp only at same alike awake
  subst same
  cases phase' with
  | el0 | panic => exact .inl ⟨rfl, rfl⟩
  | pick caller =>
      simp only [advance, pickNextThread_alike alike]
      right
      cases pickNextThread k with
      | error p => exact ⟨_, _, rfl, rfl, alike, .inl rfl⟩
      | ok next => exact ⟨_, _, rfl, rfl, alike, .inl rfl⟩
  | switch next caller =>
      simp only [advance, alike.current]
      right
      split_ifs
      · exact ⟨_, _, rfl, rfl, alike, .inl rfl⟩
      · exact ⟨_, _, rfl, rfl, threadSwitchToMark_alike alike next, .inl rfl⟩
  | enter prev next caller =>
      simp only [advance]
      right
      rcases (threadSwitchToEnter_alike (L := L) alike prev next caller).cases with
        ⟨p, _, first, second, rfl⟩ | ⟨⟨k₁, at_⟩, ⟨k₁', _⟩, first, second, ⟨kernel, value⟩⟩
      · rw [first, second]
        exact ⟨_, _, rfl, rfl, alike, .inl rfl⟩
      · cases value
        rw [first, second]
        exact ⟨_, _, rfl, rfl, kernel, .inl rfl⟩
  | cont at_ => exact resumeAt_alike alike at_
  | currentCtx =>
      simp only [advance, threadCurrentUserCtx_alike alike]
      right
      cases threadCurrentUserCtx L k with
      | error p => exact ⟨_, _, rfl, rfl, alike, .inl rfl⟩
      | ok t => exact ⟨_, _, rfl, rfl, alike, .inl rfl⟩
  | resume t =>
      refine .inr ⟨_, _, rfl, rfl, alike, ?_⟩
      by_cases hidden : c = some t
      · cases inv with
        | running _ phaseOk =>
            cases phaseOk with
            | resume active => exact .inr ⟨active.current.trans hidden.symm, _, _, rfl, rfl⟩
      · exact .inl (by simp only [(alike.threads t).seen hidden])
  | wfi =>
      have pending : k'.reschedPending = k.reschedPending :=
        (alike.time (awake.resolve_right fun other => other rfl)).2.2
      exact .inr ⟨_, _, rfl, rfl, threadReschedPoint_alike alike pending _⟩

end ProtoOs
