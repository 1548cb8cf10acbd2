import ProtoOs.Proof.Waits

/-!
# What the EL1 continuation does

A task that left EL0 is marked by the reason it left for. Where it died, the callers of its
endpoints are woken and the supervisor is notified. `returnStep_left` lists the outcomes.
-/

namespace ProtoOs

variable {L : Layout} {cfg : Config} {k k' : Kernel} {t s : Slot} {e : EpId} {tf : TrapFrame}
  {reason : TaskReturnReason}

/-! ## The endpoints of a dead task -/

def Kernel.abortCaller (k : Kernel) (e : EpId) (s : Slot) : Kernel :=
  (((k.wake s minusOne).record (k.endpoints e).abortEvents).modifyEndpoint e
    (endpointClearPending ∘ endpointClearCaller)).setResched true

inductive Aborts (t : Slot) : Kernel → Kernel → Prop
  | refl {k : Kernel} : Aborts t k k
  | abort {k k' : Kernel} {e : EpId} {s : Slot} (before : Aborts t k k')
      (owner : (k'.endpoints e).ownerSlot = t.u32)
      (waiting : (k'.endpoints e).blockedCallerSlot = s.i32) (target : Wakeable k' s) :
      Aborts t k (k'.abortCaller e s)

def Unrecorded (k : Kernel) (t : Slot) : Prop := ∀ w, k.waiter w ≠ t.i32

def Settled (t : Slot) (k : Kernel) (e : EpId) : Prop :=
  (k.endpoints e).ownerSlot = t.u32 → (k.endpoints e).blockedCallerSlot = slotNone

theorem abortCaller_on : OnEndpoint k (k.abortCaller e s) e :=
  ⟨fun u other => by simp [Kernel.abortCaller, other], rfl, by simp [Kernel.abortCaller]⟩

theorem waiter_abortCaller (w : WaitPlace) : (k.abortCaller e s).waiter w =
    if w = .caller e then slotNone else k.waiter w := by
  rw [abortCaller_on.waiter]
  split_ifs with caller receiver
  · simp [Kernel.abortCaller]
  · simp [Kernel.abortCaller, receiver, Kernel.waiter]
  · rfl

theorem Unrecorded.abortCaller (gone : Unrecorded k t) : Unrecorded (k.abortCaller e s) t := by
  intro w
  rw [waiter_abortCaller]
  split_ifs
  · exact Slot.none_ne_i32 t
  · exact gone w

theorem WaitersAwake.abortCaller (awake : WaitersAwake k) : WaitersAwake (k.abortCaller e s) := by
  intro w
  rw [waiter_abortCaller]
  split_ifs
  · exact .inl rfl
  · rcases awake w with vacant | ⟨u, recorded, target⟩
    · exact .inl vacant
    · exact .inr ⟨u, recorded, (wakeable_wake s minusOne target).congr rfl⟩

theorem Settled.abortCaller {u : EpId} (settled : Settled t k u) :
    Settled t (k.abortCaller e s) u := by
  intro owner
  have caller := waiter_abortCaller (k := k) (e := e) (s := s) (.caller u)
  simp only [Kernel.waiter] at caller
  rw [caller]
  split_ifs
  · rfl
  · exact settled (abortCaller_on.owners u ▸ owner)

theorem ipcDeathAt_settled (gone : Unrecorded k t) (settled : Settled t k e) :
    ipcDeathAt t.u32 k e = .ok k := by
  have receiver : (k.endpoints e).blockedReceiverSlot ≠ t.i32 := gone (.receiver e)
  have caller : (k.endpoints e).blockedCallerSlot ≠ t.i32 := gone (.caller e)
  by_cases owner : (k.endpoints e).ownerSlot = t.u32
  · simp [ipcDeathAt, receiver, owner, settled owner]
  · simp [ipcDeathAt, receiver, owner, caller]

theorem ipcDeathAt_abort (gone : Unrecorded k t) (owner : (k.endpoints e).ownerSlot = t.u32)
    (waiting : (k.endpoints e).blockedCallerSlot = s.i32) (target : Wakeable k s) :
    ipcDeathAt t.u32 k e = .ok (k.abortCaller e s) := by
  have receiver : (k.endpoints e).blockedReceiverSlot ≠ t.i32 := gone (.receiver e)
  simp [ipcDeathAt, receiver, owner, waiting, threadUserWakeWithX0_wakeable target,
    threadRequestResched, Kernel.abortCaller]

theorem ipcDeathAt_aborts (gone : Unrecorded k' t) (awake : WaitersAwake k')
    (before : Aborts t k k') : ∃ k₁, ipcDeathAt t.u32 k' e = .ok k₁ ∧ Aborts t k k₁ ∧
      Unrecorded k₁ t ∧ WaitersAwake k₁ ∧ Settled t k₁ e ∧
      ∀ u, Settled t k' u → Settled t k₁ u := by
  by_cases settled : Settled t k' e
  · exact ⟨k', ipcDeathAt_settled gone settled, before, gone, awake, settled, fun _ keep => keep⟩
  · obtain ⟨owner, caller⟩ := Classical.not_imp.mp settled
    obtain ⟨s, waiting, target⟩ := awake.get (.caller e) caller
    refine ⟨k'.abortCaller e s, ipcDeathAt_abort gone owner waiting target,
      .abort before owner waiting target, gone.abortCaller, awake.abortCaller, ?_,
      fun u keep => keep.abortCaller⟩
    intro _
    simp [Kernel.abortCaller]

theorem foldl_ipcDeathAt (es : List EpId) (gone : Unrecorded k' t) (awake : WaitersAwake k')
    (before : Aborts t k k') : ∃ k₁, es.foldlM (ipcDeathAt t.u32) k' = .ok k₁ ∧ Aborts t k k₁ ∧
      Unrecorded k₁ t ∧ WaitersAwake k₁ ∧ (∀ e ∈ es, Settled t k₁ e) ∧
      ∀ u, Settled t k' u → Settled t k₁ u := by
  induction es generalizing k' with
  | nil => exact ⟨k', rfl, before, gone, awake, by simp, fun _ keep => keep⟩
  | cons e es ih =>
      obtain ⟨k₁, turn, before₁, gone₁, awake₁, here, keep₁⟩ := ipcDeathAt_aborts (e := e) gone awake before
      obtain ⟨k₂, rest, before₂, gone₂, awake₂, there, keep₂⟩ := ih gone₁ awake₁ before₁
      refine ⟨k₂, ?_, before₂, gone₂, awake₂, ?_, fun u keep => keep₂ u (keep₁ u keep)⟩
      · rw [List.foldlM_cons, turn]
        exact rest
      · intro u member
        rcases List.mem_cons.mp member with rfl | later
        · exact keep₂ u here
        · exact there u later

theorem ipcHandleTaskDeath_aborts (gone : Unrecorded k t) (awake : WaitersAwake k) :
    ∃ k₁, ipcHandleTaskDeath k t.u32 = .ok k₁ ∧ Aborts t k k₁ ∧ Unrecorded k₁ t ∧
      WaitersAwake k₁ ∧ ∀ e, Settled t k₁ e := by
  obtain ⟨k₁, done, aborts, gone₁, awake₁, settled, _⟩ :=
    foldl_ipcDeathAt (List.finRange epCount) gone awake .refl
  exact ⟨k₁, done, aborts, gone₁, awake₁, fun e => settled e (List.mem_finRange e)⟩

/-! ## The notification of the supervisor -/

inductive Noted (t : Slot) (k : Kernel) : Kernel → Prop
  | woke {s : Slot} (waiting : k.blockedSupervisorSlot = s.i32) (target : Wakeable k s) :
      Noted t k ((((k.wake s t.u32.toUInt64).record [.reported t.u32]).setBlockedSupervisor
        slotNone).setResched true)
  | kept (absent : k.blockedSupervisorSlot = slotNone) (free : k.pendingDeathSlot = slotNone) :
      Noted t k (k.setPendingDeath t.i32)
  | overwrote (absent : k.blockedSupervisorSlot = slotNone)
      (full : k.pendingDeathSlot ≠ slotNone) :
      Noted t k ((k.record [.overwritten k.pendingDeathSlot.toUInt32]).setPendingDeath t.i32)

theorem supervisorNoteTaskDeath_noted (gone : Unrecorded k t) (awake : WaitersAwake k) :
    ∃ k₁, supervisorNoteTaskDeath k t.u32 = .ok k₁ ∧ Noted t k k₁ := by
  have inTable : ¬ (t.u32.toNat ≥ threadCount) := (by decide : ∀ u : Slot, ¬ (u.u32.toNat ≥ 4)) t
  have other : t.i32 ≠ k.blockedSupervisorSlot := fun same => gone .supervisor same.symm
  by_cases absent : k.blockedSupervisorSlot = slotNone
  · by_cases free : k.pendingDeathSlot = slotNone
    · refine ⟨_, ?_, .kept absent free⟩
      have silent : k.record [] = k := by simp [Kernel.record]
      simp [supervisorNoteTaskDeath, inTable, absent, free, silent]
    · refine ⟨_, ?_, .overwrote absent free⟩
      simp [supervisorNoteTaskDeath, inTable, absent, free]
  · obtain ⟨s, waiting, target⟩ := awake.get .supervisor absent
    have waiting : k.blockedSupervisorSlot = s.i32 := waiting
    rw [waiting] at other
    refine ⟨_, ?_, .woke waiting target⟩
    simp [supervisorNoteTaskDeath, inTable, waiting, other, threadUserWakeWithX0_wakeable target,
      threadRequestResched]

/-! ## The return step -/

def Kernel.dying (k : Kernel) (t : Slot) : Kernel :=
  (k.record [.died t.u32]).markTask t .stopped .dead

def exitPrint (k : Kernel) (t : Slot) : TaskReturnReason → List UartCall
  | .exit => exitReport (k.threads t).user.name
  | _ => []

inductive Left (k : Kernel) (t : Slot) (reason : TaskReturnReason) : Kernel → Prop
  | yield (voluntary : reason = .yield) : Left k t reason (k.markTask t .runnable .runnable)
  | block (blocks : reason = .ipcBlock ∨ reason = .notifyBlock) :
      Left k t reason (k.markTask t .runnable .blocked)
  | death {k₁ k₂ : Kernel} (dies : reason = .exit ∨ reason = .fault)
      (handled : ipcHandleTaskDeath ((k.emit (exitPrint k t reason)).dying t) t.u32 = .ok k₁)
      (notified : supervisorNoteTaskDeath k₁ t.u32 = .ok k₂)
      (aborts : Aborts t ((k.emit (exitPrint k t reason)).dying t) k₁)
      (settled : ∀ e, Settled t k₁ e) (noted : Noted t k₁ k₂) : Left k t reason k₂

theorem userTaskDeath_left (slot : (k.threads t).slot = t.u32) (gone : Unrecorded k t)
    (awake : WaitersAwake k) : ∃ k₁ k₂, userTaskDeath k t = .ok k₂ ∧
      ipcHandleTaskDeath (k.dying t) t.u32 = .ok k₁ ∧ supervisorNoteTaskDeath k₁ t.u32 = .ok k₂ ∧
      Aborts t (k.dying t) k₁ ∧ (∀ e, Settled t k₁ e) ∧ Noted t k₁ k₂ := by
  have awakeDying : WaitersAwake (k.dying t) := by
    intro w
    rcases awake w with vacant | ⟨s, recorded, target⟩
    · exact .inl vacant
    · have other : s ≠ t := by
        rintro rfl
        exact gone w recorded
      refine .inr ⟨s, recorded, ?_, ?_, ?_⟩
      · simpa [Kernel.dying, other] using target.kind
      · simpa [Kernel.dying, other] using target.state
      · simpa [Kernel.dying, other] using target.alive
  obtain ⟨k₁, resolved, aborts, gone₁, awake₁, settled⟩ :=
    ipcHandleTaskDeath_aborts (k := k.dying t) gone awakeDying
  obtain ⟨k₂, notified, noted⟩ := supervisorNoteTaskDeath_noted gone₁ awake₁
  refine ⟨k₁, k₂, ?_, resolved, notified, aborts, settled, noted⟩
  simp only [userTaskDeath, slot]
  rw [show ipcHandleTaskDeath ((k.record [.died t.u32]).markTask t .stopped .dead) t.u32 = .ok k₁
    from resolved]
  exact notified

theorem returnStep_left (ready : Ready k t)
    (returns : (k.threads t).user.returnReason = reason) (given : reason ≠ .none)
    (fatal : reason = .exit ∨ reason = .fault → Unrecorded k t ∧ WaitersAwake k) :
    ∃ k₁, Left k t reason k₁ ∧ returnStep k = ⟨k₁.setResched false, .pick (.returnStep t)⟩ := by
  cases reason with
  | none => exact absurd rfl given
  | yield =>
      refine ⟨_, .yield rfl, ?_⟩
      simp [returnStep, userTaskReturnStep, currentUserTask_ready ready, returns, Kernel.setResched]
  | ipcBlock =>
      refine ⟨_, .block (.inl rfl), ?_⟩
      simp [returnStep, userTaskReturnStep, currentUserTask_ready ready, returns, Kernel.setResched]
  | notifyBlock =>
      refine ⟨_, .block (.inr rfl), ?_⟩
      simp [returnStep, userTaskReturnStep, currentUserTask_ready ready, returns, Kernel.setResched]
  | exit =>
      obtain ⟨gone, awake⟩ := fatal (.inl rfl)
      have printed : Ready (k.emit (exitPrint k t .exit)) t := ready.congr rfl rfl rfl rfl rfl
      have printedAwake : WaitersAwake (k.emit (exitPrint k t .exit)) := fun w =>
        (awake w).imp_right (Exists.imp fun _ => And.imp_right fun target => target.congr rfl)
      obtain ⟨k₁, k₂, death, handled, notified, aborts, settled, noted⟩ := userTaskDeath_left printed.slot gone printedAwake
      refine ⟨k₂, .death (.inl rfl) handled notified aborts settled noted, ?_⟩
      rw [show exitPrint k t .exit = exitReport (k.threads t).user.name from rfl] at death
      simp [returnStep, userTaskReturnStep, currentUserTask_ready ready, returns, death,
        Kernel.setResched]
  | fault =>
      obtain ⟨gone, awake⟩ := fatal (.inr rfl)
      obtain ⟨k₁, k₂, death, handled, notified, aborts, settled, noted⟩ := userTaskDeath_left ready.slot gone awake
      have silent : k.emit (exitPrint k t .fault) = k := by simp [exitPrint, Kernel.emit]
      refine ⟨k₂, .death (.inr rfl) (by rwa [silent]) notified (by rwa [silent]) settled noted, ?_⟩
      simp [returnStep, userTaskReturnStep, currentUserTask_ready ready, returns, death,
        Kernel.setResched]

end ProtoOs
