import ProtoOs.Proof.Calls
import ProtoOs.Proof.Schedule

/-!
# What a step does to a task that does not execute

A task that is off EL0 keeps its saved context and its place in the wait slots, until a step wakes
it with the result that its place stands for, or restarts it after its death.
-/

namespace ProtoOs

variable {L : Layout} {cfg : Config} {k k' k'' k₁ : Kernel} {m m' : Machine} {t s : Slot} {e : EpId}
  {tf : TrapFrame} {a : Action} {o : Outcome} {w : WaitPlace} {v : UInt64}
  {reason : TaskReturnReason} {value : WaitPlace → UInt64 → Prop}

/-! ## Wakes -/

def wakes (s : Slot) (log : List Event) : List UInt64 :=
  log.filterMap fun
    | .woke u x0 _ => if u = s then some x0 else none
    | _ => none

@[simp] theorem wakes_append (log log' : List Event) :
    wakes s (log ++ log') = wakes s log ++ wakes s log' :=
  List.filterMap_append

/-- What the kernel has stored for the task that waits at a place. -/
def Kernel.descriptor (k : Kernel) : WaitPlace → UInt64 × UInt64 × UInt64
  | .caller e =>
      ((k.endpoints e).callerReplyPtr, (k.endpoints e).callerReplyCap,
        (k.endpoints e).callerResultOverride)
  | .receiver e => ((k.endpoints e).receiverBufPtr, (k.endpoints e).receiverBufCap, 0)
  | .supervisor => (0, 0, 0)

theorem OnEndpoint.descriptor (on : OnEndpoint k k' e)
    (here : w = .caller e ∨ w = .receiver e → k'.descriptor w = k.descriptor w) :
    k'.descriptor w = k.descriptor w := by
  cases w with
  | caller u =>
      by_cases same : u = e
      · exact here (.inl (by rw [same]))
      · simp [Kernel.descriptor, on.elsewhere u same]
  | receiver u =>
      by_cases same : u = e
      · exact here (.inr (by rw [same]))
      · simp [Kernel.descriptor, on.elsewhere u same]
  | supervisor => rfl

def TrapFrame.Dies (tf : TrapFrame) : Prop := tf.exceptionClass ≠ 0x15 ∨ Asks tf sysExit

theorem TrapFrame.Dies.not_asks {nr : UInt64} (dies : tf.Dies) (stays : nr ≠ sysExit) :
    ¬ Asks tf nr := by
  intro asks
  rcases dies with fault | exits
  · exact fault asks.svc
  · exact stays (asks.number.symm.trans exits.number)

theorem Sends.lives {d : Send} (sends : Sends cfg t tf e d) : ¬ tf.Dies := by
  intro dies
  cases sends with
  | call asks => exact dies.not_asks (by decide) asks
  | route asks => exact dies.not_asks (by decide) asks

structure Replies (k : Kernel) (t : Slot) (tf : TrapFrame) (e : EpId) : Prop where
  asks : Asks tf sysIpcReply
  found : getEndpoint (tf.x 0) = some e
  length : tf.x 2 ≤ ipcMsgSize
  range : el0BufRangeOk (tf.x 1) (tf.x 2)
  owner : (k.endpoints e).ownerSlot = t.u32

/-- The values that a trap of `t` can wake the task of a place with. -/
inductive WakeValue (cfg : Config) (k : Kernel) (t : Slot) (tf : TrapFrame) :
    WaitPlace → UInt64 → Prop
  | delivered {e : EpId} {d : Send} (sends : Sends cfg t tf e d) (accepts : Accepts k e d) :
      WakeValue cfg k t tf (.receiver e) (minU64 d.len (k.endpoints e).receiverBufCap)
  | replied {e : EpId} (replies : Replies k t tf e) :
      WakeValue cfg k t tf (.caller e) (Kernel.replyResult (k.endpoints e) (tf.x 2))
  | ownerDied {e : EpId} (dies : tf.Dies) (owner : (k.endpoints e).ownerSlot = t.u32) :
      WakeValue cfg k t tf (.caller e) minusOne
  | notified (dies : tf.Dies) : WakeValue cfg k t tf .supervisor t.u32.toUInt64

/-! ## What a trap of another task does -/

structure Spared (k k' : Kernel) (s : Slot) : Prop where
  thread : k'.threads s = k.threads s
  logged : wakes s k'.log = wakes s k.log
  waits : ∀ w, k'.waiter w = s.i32 ↔ k.waiter w = s.i32
  stored : ∀ w, k.waiter w = s.i32 → k'.descriptor w = k.descriptor w

structure Woken (k k' : Kernel) (s : Slot) (w : WaitPlace) (v : UInt64) : Prop where
  place : k.waiter w = s.i32
  thread : k'.threads s = (k.threads s).wake v
  logged : wakes s k'.log = wakes s k.log ++ [v]

inductive Touched (k k' : Kernel) (s : Slot) (value : WaitPlace → UInt64 → Prop) : Prop
  | spared (spared : Spared k k' s)
  | woken {w : WaitPlace} {v : UInt64} (value : value w v) (woken : Woken k k' s w v)

theorem Spared.refl : Spared k k s := ⟨rfl, rfl, fun _ => Iff.rfl, fun _ _ => rfl⟩

theorem Spared.trans (first : Spared k k' s) (second : Spared k' k'' s) : Spared k k'' s where
  thread := second.thread.trans first.thread
  logged := second.logged.trans first.logged
  waits w := (second.waits w).trans (first.waits w)
  stored w at_ := (second.stored w ((first.waits w).mpr at_)).trans (first.stored w at_)

theorem Touched.trans (first : Touched k k' s value) (second : Touched k' k'' s value)
    (recorded : ∀ w, k'.waiter w = s.i32 → (k'.threads s).user.state = .blocked) :
    Touched k k'' s value := by
  cases first with
  | spared spared =>
      cases second with
      | spared next => exact .spared (spared.trans next)
      | woken value woken =>
          refine .woken value ⟨(spared.waits _).mp woken.place, ?_, ?_⟩
          · rw [woken.thread, spared.thread]
          · rw [woken.logged, spared.logged]
  | woken value woken =>
      cases second with
      | spared next =>
          exact .woken value ⟨woken.place, next.thread.trans woken.thread,
            next.logged.trans woken.logged⟩
      | woken _ again =>
          have blocked := recorded _ again.place
          rw [woken.thread] at blocked
          cases blocked

theorem waiter_update_iff {p : WaitPlace} {u : Int32} (waiters : ∀ w, k'.waiter w = if w = p then u else k.waiter w)
    (new : u ≠ s.i32) (old : k.waiter p ≠ s.i32) (w : WaitPlace) :
    k'.waiter w = s.i32 ↔ k.waiter w = s.i32 := by
  rw [waiters]
  split_ifs with here
  · subst here
    simp [new, old]
  · exact Iff.rfl

theorem Spared.of_endpoint (on : OnEndpoint k k' e) (thread : k'.threads s = k.threads s)
    (logged : wakes s k'.log = wakes s k.log) (waits : ∀ w, k'.waiter w = s.i32 ↔ k.waiter w = s.i32)
    (stored : ∀ w, w = .caller e ∨ w = .receiver e → k.waiter w = s.i32 →
      k'.descriptor w = k.descriptor w) : Spared k k' s :=
  ⟨thread, logged, waits, fun w at_ => on.descriptor fun here => stored w here at_⟩

theorem Spared.of_waiters (thread : k'.threads s = k.threads s)
    (logged : wakes s k'.log = wakes s k.log) (endpoints : k'.endpoints = k.endpoints)
    (supervisor : k'.blockedSupervisorSlot = s.i32 ↔ k.blockedSupervisorSlot = s.i32) :
    Spared k k' s := by
  refine ⟨thread, logged, fun w => ?_, fun w _ => ?_⟩
  · cases w with
    | caller | receiver => simp [Kernel.waiter, endpoints]
    | supervisor => exact supervisor
  · cases w with
    | caller | receiver => simp [Kernel.descriptor, endpoints]
    | supervisor => rfl

structure RestartCall (k : Kernel) (t : Slot) (tf : TrapFrame) (k₁ : Kernel) (o : Outcome) : Prop where
  asks : Asks tf sysTaskRestart
  supervisor : t = slotTaskC
  target : tf.x 0 = slotTaskB.u32.toUInt64
  restartable : Restartable (k.threads slotTaskB)
  kernel : k₁ = k.restartTask slotTaskB
  result : o = .back 0

theorem Effect.touched (effect : Effect cfg k t tf k₁ o) (other : t ≠ s) :
    Touched k k₁ s (WakeValue cfg k t tf) ∨ s = slotTaskB ∧ RestartCall k t tf k₁ o := by
  have new : t.i32 ≠ s.i32 := by simpa using other
  cases effect with
  | refused | ticks | yield | exit => exact .inl (.spared .refl)
  | write | fault => exact .inl (.spared (.of_waiters rfl rfl rfl Iff.rfl))
  | @park e d sends accepts absent =>
      refine .inl (.spared (.of_endpoint parkRequest_on rfl ?_ ?_ ?_))
      · simp [Kernel.parkRequest, Kernel.registerCaller, wakes]
      · exact waiter_update_iff waiter_parkRequest new
          (by rw [show k.waiter (.caller e) = slotNone from accepts.free]; exact Slot.none_ne_i32 s)
      · rintro w (rfl | rfl) at_
        · exact absurd (accepts.free.symm.trans at_) (Slot.none_ne_i32 s)
        · simp [Kernel.descriptor, Kernel.parkRequest, Kernel.registerCaller]
  | @handOver e d u sends accepts waiting target =>
      by_cases same : u = s
      · subst same
        refine .inl (.woken (.delivered sends accepts) ⟨waiting, ?_, ?_⟩)
        · simp [Kernel.handOver, Kernel.registerCaller]
        · simp [Kernel.handOver, Kernel.registerCaller, wakes]
      · have receiver : (k.registerCaller t e d).waiter (.receiver e) = u.i32 := by
          rw [waiter_registerCaller, if_neg (by simp)]
          exact waiting
        have registered := waiter_update_iff (s := s) (waiter_registerCaller (k := k) (e := e) (d := d)) new
          (by rw [show k.waiter (.caller e) = slotNone from accepts.free]; exact Slot.none_ne_i32 s)
        have delivered := waiter_update_iff (s := s) (waiter_handOver (k := k) (t := t) (e := e) (d := d)
          (s := u)) (Slot.none_ne_i32 s) (by rw [receiver]; simpa using same)
        refine .inl (.spared (.of_endpoint handOver_on ?_ ?_ (fun w => (delivered w).trans (registered w)) ?_))
        · simp [Kernel.handOver, Kernel.registerCaller, Ne.symm same]
        · simp [Kernel.handOver, Kernel.registerCaller, wakes, same]
        · rintro w (rfl | rfl) at_
          · exact absurd (accepts.free.symm.trans at_) (Slot.none_ne_i32 s)
          · exact absurd (Slot.i32_inj.mp (waiting.symm.trans at_)) same
  | @take e =>
      refine .inl (.spared (.of_endpoint takePending_on rfl ?_ ?_ ?_))
      · simp [Kernel.takePending, wakes]
      · intro w
        rw [waiter_takePending]
      · rintro w (rfl | rfl) at_
        · simp [Kernel.descriptor, Kernel.takePending]
        · simp [Kernel.descriptor, Kernel.takePending]
  | @listen e _ _ _ _ _ absent =>
      refine .inl (.spared (.of_endpoint listen_on rfl rfl ?_ ?_))
      · exact waiter_update_iff waiter_listen new
          (by rw [show k.waiter (.receiver e) = slotNone from absent]; exact Slot.none_ne_i32 s)
      · rintro w (rfl | rfl) at_
        · simp [Kernel.descriptor, Kernel.listen]
        · exact absurd (absent.symm.trans at_) (Slot.none_ne_i32 s)
  | @answer e u asks found length range owner waiting target =>
      by_cases same : u = s
      · subst same
        refine .inl (.woken (.replied ⟨asks, found, length, range, owner⟩) ⟨waiting, ?_, ?_⟩)
        · simp [Kernel.answer]
        · simp [Kernel.answer, wakes]
      · refine .inl (.spared (.of_endpoint answer_on ?_ ?_ ?_ ?_))
        · simp [Kernel.answer, Ne.symm same]
        · simp [Kernel.answer, wakes, same]
        · exact waiter_update_iff waiter_answer (Slot.none_ne_i32 s)
            (by rw [show k.waiter (.caller e) = u.i32 from waiting]; simpa using same)
        · rintro w (rfl | rfl) at_
          · exact absurd (Slot.i32_inj.mp (waiting.symm.trans at_)) same
          · simp [Kernel.descriptor, Kernel.answer]
  | report => exact .inl (.spared (.of_waiters rfl (by simp [wakes]) rfl Iff.rfl))
  | await _ _ _ absent =>
      refine .inl (.spared (.of_waiters rfl rfl rfl ?_))
      simp [absent, new]
  | restart asks supervisor target restartable =>
      by_cases same : s = slotTaskB
      · exact .inr ⟨same, asks, supervisor, target, restartable, rfl, rfl⟩
      · refine .inl (.spared (.of_waiters ?_ ?_ rfl Iff.rfl))
        · simp [Kernel.restartTask, threadRequestResched, same]
        · simp [Kernel.restartTask, threadRequestResched, wakes]

/-! ## What a death does -/

theorem Aborts.touched (aborts : Aborts t k k') (ok : KernelOk L cfg k none) (leaving : Leaving k t)
    (owned : ∀ e, (k.endpoints e).ownerSlot = t.u32 → value (.caller e) minusOne) :
    Touched k k' s value := by
  induction aborts with
  | refl => exact .spared .refl
  | @abort k' e u before owner waiting target ih =>
      obtain ⟨ok', leaving'⟩ := before.keeps ok leaving
      refine ih.trans ?_ fun w at_ => (ok'.recorded at_).2
      by_cases same : u = s
      · subst same
        refine .woken (owned e ?_) ⟨waiting, ?_, ?_⟩
        · exact ((ok.owners e).trans (ok'.owners e).symm).trans owner
        · simp [Kernel.abortCaller]
        · simp [Kernel.abortCaller, wakes, Endpoint.abortEvents]
      · refine .spared (.of_endpoint abortCaller_on ?_ ?_ ?_ ?_)
        · simp [Kernel.abortCaller, Ne.symm same]
        · simp [Kernel.abortCaller, wakes, Endpoint.abortEvents, same]
        · exact waiter_update_iff waiter_abortCaller (Slot.none_ne_i32 s)
            (by rw [show k'.waiter (.caller e) = u.i32 from waiting]; simpa using same)
        · rintro w (rfl | rfl) at_
          · exact absurd (Slot.i32_inj.mp (waiting.symm.trans at_)) same
          · simp [Kernel.descriptor, Kernel.abortCaller]

theorem Noted.touched (noted : Noted t k k') (told : value .supervisor t.u32.toUInt64) :
    Touched k k' s value := by
  cases noted with
  | @woke u waiting target =>
      by_cases same : u = s
      · subst same
        refine .woken told ⟨waiting, ?_, ?_⟩
        · simp
        · simp [wakes]
      · refine .spared ⟨?_, ?_, ?_, ?_⟩
        · simp [Ne.symm same]
        · simp [wakes, same]
        · refine waiter_update_iff (p := .supervisor) (u := slotNone) ?_ (Slot.none_ne_i32 s) ?_
          · rintro (_ | _ | _) <;> rfl
          · rw [show k.waiter .supervisor = u.i32 from waiting]
            simpa using same
        · rintro (_ | _ | _) _
          · rfl
          · rfl
          · rfl
  | kept => exact .spared (.of_waiters rfl rfl rfl Iff.rfl)
  | overwrote => exact .spared (.of_waiters rfl (by simp [wakes]) rfl Iff.rfl)

theorem Left.touched (left : Left k t reason k')
    (ok : KernelOk L cfg k (if reason = .ipcBlock ∨ reason = .notifyBlock then some t else none))
    (active : Active k t) (other : t ≠ s)
    (owned : ∀ e, reason = .exit ∨ reason = .fault → (k.endpoints e).ownerSlot = t.u32 →
      value (.caller e) minusOne)
    (noted : reason = .exit ∨ reason = .fault → value .supervisor t.u32.toUInt64) :
    Touched k k' s value := by
  cases left with
  | yield => exact .spared (.of_waiters (by simp [Ne.symm other]) rfl rfl Iff.rfl)
  | block => exact .spared (.of_waiters (by simp [Ne.symm other]) rfl rfl Iff.rfl)
  | @death k₁ _ dies _ _ aborts _ told =>
      obtain ⟨dying, leaving⟩ := active.dies dies ok
      have marked : Spared k ((k.emit (exitPrint k t reason)).dying t) s :=
        .of_waiters (by simp [Kernel.dying, Ne.symm other]) (by simp [Kernel.dying, wakes]) rfl Iff.rfl
      have aborted : Touched _ k₁ s value :=
        aborts.touched dying leaving fun e owner => owned e dies owner
      have after := (aborts.keeps dying leaving).1
      refine Touched.trans (.spared marked) (aborted.trans (told.touched (noted dies)) ?_) ?_
      · exact fun w at_ => (after.recorded at_).2
      · exact fun w at_ => (dying.recorded at_).2

/-! ## The step of the machine -/

structure Kept (k k' : Kernel) (s : Slot) : Prop where
  ctx : (k'.threads s).user.ctx = (k.threads s).user.ctx
  state : (k'.threads s).user.state = (k.threads s).user.state ∨
    (k.threads s).user.state = .runnable ∧ (k'.threads s).user.state = .running
  stopped : (k.threads s).user.state = .dead → (k'.threads s).state = (k.threads s).state
  logged : wakes s k'.log = wakes s k.log
  waits : ∀ w, k'.waiter w = s.i32 ↔ k.waiter w = s.i32
  stored : ∀ w, k.waiter w = s.i32 → k'.descriptor w = k.descriptor w

inductive TaskStep (cfg : Config) (m : Machine) (a : Action) (k' : Kernel) (s : Slot) : Prop
  | kept (kept : Kept m.kernel k' s)
  | woken {stores : List (SandboxAddress × UInt8)} {tf : TrapFrame} {t : Slot} {w : WaitPlace}
      {v : UInt64} (trap : a = .trap stores tf) (current : m.kernel.current = some t)
      (value : WakeValue cfg m.kernel t tf w v) (woken : Woken m.kernel k' s w v)
  | restarted {stores : List (SandboxAddress × UInt8)} {tf : TrapFrame} (here : s = slotTaskB)
      (trap : a = .trap stores tf) (current : m.kernel.current = some slotTaskC)
      (restarts : RestartCall (m.kernel.setMem (userStores stores m.kernel.mem)) slotTaskC tf k'
        (.back 0))

theorem Kept.blocked (kept : Kept k k' s) :
    (k'.threads s).user.state = .blocked ↔ (k.threads s).user.state = .blocked := by
  rcases kept.state with same | ⟨ready, running⟩
  · rw [same]
  · simp [ready, running]

theorem Kept.dead (kept : Kept k k' s) :
    (k'.threads s).user.state = .dead ↔ (k.threads s).user.state = .dead := by
  rcases kept.state with same | ⟨ready, running⟩
  · rw [same]
  · simp [ready, running]

theorem Kept.awake (kept : Kept k k' s)
    (awake : (k.threads s).user.state ≠ .blocked ∧ (k.threads s).user.state ≠ .dead) :
    (k'.threads s).user.state ≠ .blocked ∧ (k'.threads s).user.state ≠ .dead :=
  ⟨fun here => awake.1 (kept.blocked.mp here), fun here => awake.2 (kept.dead.mp here)⟩

theorem Spared.kept (spared : Spared k k' s) : Kept k k' s :=
  ⟨by rw [spared.thread], .inl (by rw [spared.thread]), fun _ => by rw [spared.thread], spared.logged,
    spared.waits, spared.stored⟩

theorem Quiet.kept (quiet : Quiet k k') (users : SameUsers k k')
    (stopped : (k.threads s).user.state = .dead → (k'.threads s).state = (k.threads s).state) :
    Kept k k' s := by
  refine ⟨users.ctx s, users.state s, stopped, by rw [quiet.log], fun w => ?_, fun w _ => ?_⟩
  · rw [quiet.waiter]
  · cases w with
    | caller | receiver => simp [Kernel.descriptor, quiet.endpoints]
    | supervisor => rfl

theorem PhaseOk.off {phase : Phase} (ok : PhaseOk k phase) (user : s ≠ slotIdle)
    (running : (k.threads s).user.state ≠ .running) (ready : (k.threads s).user.state ≠ .runnable) :
    OffCpu s (k.threads s) := by
  have active {t : Slot} (active : Active k t) : OffCpu s (k.threads s) := by
    apply active.others s
    rintro rfl
    exact running active.running
  have returning {t : Slot} (returning : Returning k t) : OffCpu s (k.threads s) := by
    apply returning.others s
    rintro rfl
    exact ready (returning.ready user)
  cases ok with
  | el0 here | currentCtx here | resume here => exact active here
  | pick leaving | switch leaving | wfi leaving => exact leaving.off user
  | switchFirst _ off => exact off s
  | enter here | cont here => exact returning here

theorem Machine.step_trap {stores : List (SandboxAddress × UInt8)}
    (step : m.step L cfg (.trap stores tf) = some m') : ∃ regs, m.phase = .el0 regs ∧ tf.fromEl0 ∧
      m' = takeTrap L cfg (m.kernel.setMem (userStores stores m.kernel.mem)) tf := by
  simp only [Machine.step] at step
  split at step
  · rename_i regs phase
    split_ifs at step with mode
    cases step
    exact ⟨regs, phase, mode, rfl⟩
  · cases step

theorem Machine.step_calm (step : m.step L cfg a = some m') (p : Panic) : m.phase ≠ .panic p := by
  intro panics
  cases a with
  | trap stores tf => simp [Machine.step, panics] at step
  | tick => simp [Machine.step, panics, Phase.irqEnabled] at step
  | advance => simp [Machine.step, ProtoOs.advance, panics] at step

theorem Inv.stopped (inv : Inv L cfg m) (calm : ∀ p, m.phase ≠ .panic p) (user : s ≠ slotIdle)
    (dead : (m.kernel.threads s).user.state = .dead) : (m.kernel.threads s).state = .stopped := by
  cases inv with
  | running _ phaseOk =>
      have off := phaseOk.off user (by rw [dead]; nofun) (by rw [dead]; nofun)
      simp only at dead
      simpa [OffCpu, user, dead] using off
  | halted => exact absurd rfl (calm _)

theorem quiet_kept (inv : Inv L cfg m) (untrapped : ∀ stores tf, a ≠ .trap stores tf)
    (user : s ≠ slotIdle) (step : m.step L cfg a = some m') : Kept m.kernel m'.kernel s := by
  obtain ⟨stepped, inv'⟩ := step_cases inv step
  cases stepped with
  | quiet _ quiet calm =>
      have users := (quiet_moves inv untrapped step).users
      have before := Machine.step_calm step
      apply quiet.kept users
      intro dead
      rw [inv.stopped before user dead,
        inv'.stopped (fun p panics => before p (calm p panics)) user ((users.dead s).mpr dead)]
  | back | away | outside => exact absurd rfl (untrapped _ _)

theorem Effect.dies (effect : Effect cfg k t tf k₁ (.away reason))
    (fatal : reason = .exit ∨ reason = .fault) : tf.Dies := by
  cases effect with
  | exit asks => exact .inr asks
  | fault fault => exact .inl fault
  | yield | park | handOver | listen | await => simp at fatal

theorem Effect.left_touched (effect : Effect cfg k t tf k₁ (.away reason))
    (left : Left (k₁.saveFrame t tf reason) t reason k') (ok : KernelOk L cfg k none)
    (active : Active k t) (inside : InSandbox tf.elr) (other : t ≠ s) :
    Touched k k' s (WakeValue cfg k t tf) := by
  obtain ⟨okSaved, activeSaved⟩ := effect.saved ok active inside
  have first : Touched k k₁ s (WakeValue cfg k t tf) := by
    rcases effect.touched other with touched | ⟨_, restarts⟩
    · exact touched
    · cases restarts.result
  have saved : Touched k₁ (k₁.saveFrame t tf reason) s (WakeValue cfg k t tf) :=
    .spared (.of_waiters (by simp [Ne.symm other]) rfl rfl Iff.rfl)
  have recorded (w : WaitPlace) (at_ : k₁.waiter w = s.i32) : (k₁.threads s).user.state = .blocked := by
    have entering := (okSaved.waits.state_of_recorded (w := w) at_).2
    rw [show (k₁.saveFrame t tf reason).threads s = k₁.threads s by simp [Ne.symm other]] at entering
    refine entering.resolve_right fun registers => ?_
    split_ifs at registers
    exact other (Option.some_inj.mp registers)
  refine (first.trans saved recorded).trans (left.touched okSaved activeSaved other ?_ ?_) ?_
  · intro e fatal owner
    exact .ownerDied (effect.dies fatal) ((ok.owners e).trans (okSaved.owners e).symm |>.trans owner)
  · exact fun fatal => .notified (effect.dies fatal)
  · intro w at_
    rw [show (k₁.saveFrame t tf reason).threads s = k₁.threads s by simp [Ne.symm other]]
    exact recorded w at_

theorem Touched.step {stores : List (SandboxAddress × UInt8)}
    (touched : Touched (m.kernel.setMem (userStores stores m.kernel.mem)) k' s
      (WakeValue cfg (m.kernel.setMem (userStores stores m.kernel.mem)) t tf))
    (current : m.kernel.current = some t) : TaskStep cfg m (.trap stores tf) k' s := by
  cases touched with
  | spared spared => exact .kept (Spared.kept ⟨spared.thread, spared.logged, spared.waits, spared.stored⟩)
  | woken value woken =>
      refine .woken rfl current ?_ ⟨woken.place, woken.thread, woken.logged⟩
      cases value with
      | delivered sends accepts => exact .delivered sends ⟨accepts.length, accepts.owned,
          accepts.range, accepts.quiet, accepts.free⟩
      | replied replies => exact .replied ⟨replies.asks, replies.found, replies.length,
          replies.range, replies.owner⟩
      | ownerDied dies owner => exact .ownerDied dies owner
      | notified dies => exact .notified dies

theorem trap_touched {stores : List (SandboxAddress × UInt8)} (inv : Inv L cfg m)
    (step : m.step L cfg (.trap stores tf) = some m') (current : m.kernel.current = some t)
    (other : t ≠ s) :
    Touched (m.kernel.setMem (userStores stores m.kernel.mem)) m'.kernel s
        (WakeValue cfg (m.kernel.setMem (userStores stores m.kernel.mem)) t tf) ∨
      s = slotTaskB ∧ RestartCall (m.kernel.setMem (userStores stores m.kernel.mem)) t tf m'.kernel
        (.back 0) := by
  cases (step_cases inv step).1 with
  | quiet untrapped => exact absurd rfl (untrapped stores tf)
  | back _ active _ effect =>
      obtain rfl := Option.some_inj.mp (active.current.symm.trans current)
      rcases effect.touched other with touched | ⟨here, restarts⟩
      · exact .inl touched
      · obtain ⟨asks, supervisor, target, restartable, kernel, result⟩ := restarts
        exact .inr ⟨here, asks, supervisor, target, restartable, kernel, rfl⟩
  | outside _ active _ effect =>
      obtain rfl := Option.some_inj.mp (active.current.symm.trans current)
      rcases effect.touched other with touched | ⟨_, restarts⟩
      · exact .inl touched
      · cases restarts.result
  | away phase active _ effect inside left =>
      obtain rfl := Option.some_inj.mp (active.current.symm.trans current)
      have ok := (inv.active phase).1.setMem (userStores stores m.kernel.mem)
      have stored : Active (m.kernel.setMem (userStores stores m.kernel.mem)) _ :=
        active.congr rfl rfl rfl
      cases effect.left_touched left ok stored inside other with
      | spared spared =>
          exact .inl (.spared ⟨spared.thread, spared.logged, spared.waits, spared.stored⟩)
      | woken value woken => exact .inl (.woken value ⟨woken.place, woken.thread, woken.logged⟩)

theorem step_task (inv : Inv L cfg m) (step : m.step L cfg a = some m') (user : s ≠ slotIdle)
    (away : ∀ regs, m.phase = .el0 regs → m.kernel.current ≠ some s) :
    TaskStep cfg m a m'.kernel s := by
  cases a with
  | tick | advance => exact .kept (quiet_kept inv (by nofun) user step)
  | trap stores tf =>
      obtain ⟨regs, phase, _⟩ := Machine.step_trap step
      obtain ⟨_, t, active⟩ := inv.active phase
      have other : t ≠ s := fun same => away regs phase (same ▸ active.current)
      rcases trap_touched inv step active.current other with touched | ⟨here, restarts⟩
      · exact touched.step active.current
      · obtain rfl := restarts.supervisor
        exact .restarted here rfl active.current restarts

theorem step_kept (inv : Inv L cfg m) (step : m.step L cfg a = some m') (user : s ≠ slotIdle)
    (away : ∀ regs, m.phase = .el0 regs → m.kernel.current ≠ some s)
    (awake : (m.kernel.threads s).user.state ≠ .blocked ∧ (m.kernel.threads s).user.state ≠ .dead) :
    Kept m.kernel m'.kernel s := by
  have ok := inv.kernelOk (Machine.step_calm step)
  cases step_task inv step user away with
  | kept kept => exact kept
  | woken _ _ _ woken => exact absurd (ok.recorded woken.place).2 awake.1
  | restarted here _ _ call =>
      subst here
      exact absurd call.restartable.dead awake.2

end ProtoOs
