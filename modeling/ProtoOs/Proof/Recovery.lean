import ProtoOs.Lib.Progress
import ProtoOs.Proof.Supervised

/-!
# Recovery of the UART server

Under the shipped supervisor a dead `task_b` is restarted before any other task runs. From its death
on, control goes to `task_c`, which knows of the death already or finds it pending.
-/

namespace ProtoOs

open Transition.System

variable {L : Layout} {cfg : Config} {img : Image} {k k₁ : Kernel} {m m' : Machine} {t s : Slot}
  {tf : TrapFrame} {a : Action} {o : Outcome} {pc pc' : TaskC} {x0 : UInt64}

/-! ## The steps of the machine -/

theorem Quiet.unnoticed (quiet : Quiet k k₁) (users : SameUsers k k₁) : Unnoticed k k₁ where
  user := users.ctx slotTaskC
  state := ⟨users.dead slotTaskC, users.blocked slotTaskC⟩
  server := users.dead slotTaskB
  pending := quiet.pendingDeath
  supervisor := quiet.supervisor

/-- The state of a run with the supervisor at `pc`: while `task_b` is dead, the scheduler is to
choose the task behind it, or has chosen the supervisor. -/
structure Recovering (L : Layout) (cfg : Config) (m : Machine) (pc : TaskC) : Prop where
  inv : Inv L cfg m
  calm : ∀ p, m.phase ≠ .panic p
  knows : Supervised m.kernel (m.x0 slotTaskC) pc
  heads : (m.kernel.threads slotTaskB).user.state = .dead →
    m.phase = .pick (continuation slotTaskB) ∧ m.kernel.current = some slotTaskB ∨
      m.heading = some slotTaskC

theorem Recovering.quiet (ok : Recovering L cfg m pc)
    (untrapped : ∀ stores tf, a ≠ .trap stores tf) (step : m.step L cfg a = some m')
    (quiet : Quiet m.kernel m'.kernel) (calm : ∀ p, m'.phase ≠ .panic p) :
    Recovering L cfg m' pc := by
  have moves := quiet_moves ok.inv untrapped step
  have masked := quiet_masked untrapped step
  refine ⟨(step_cases ok.inv step).2, calm, ?_, fun dead => ?_⟩
  · rw [quiet_x0 moves masked]
    exact ok.knows.unnoticed (quiet.unnoticed moves.users)
  · have died := (moves.users.dead slotTaskB).mp dead
    rcases ok.heads died with ⟨picks, current⟩ | heads
    · rcases moves.picks _ picks with ⟨still, same⟩ | ⟨next, picked, heads⟩
      · exact .inl ⟨still, same.trans current⟩
      · -- the scan starts behind `task_b`, at the supervisor, which neither waits nor is dead
        right
        have kernel := ok.inv.kernelOk ok.calm
        obtain ⟨alive, awake⟩ := ok.knows.awake died
        obtain ⟨t, leaving⟩ := ok.inv.leaving picks
        have off : OffCpu slotTaskC (m.kernel.threads slotTaskC) := leaving.off (by decide)
        have selectable : threadIsSelectable m.kernel (some slotTaskC) :=
          (selectable_user kernel (by decide) off).mpr (off.ready (by decide) alive awake)
        rw [pickNextThread_first kernel current (by decide) (by decide) (by decide) selectable] at picked
        cases picked
        exact heads
    · exact .inr (moves.heads slotTaskC (by decide) heads)

theorem supervised_untrapped (untrapped : ∀ stores tf, a ≠ .trap stores tf)
    (next : (supervised cfg img).next pc m a m' = some pc') : pc' = pc := by
  cases a with
  | trap stores tf => exact absurd rfl (untrapped stores tf)
  | tick | advance =>
      simp only [supervised] at next
      split at next
      · contradiction
      · exact (Option.some_inj.mp next).symm

inductive SupervisedTrap (x0 : UInt64) (pc : TaskC) (tf : TrapFrame) (t : Slot) : TaskC → Prop
  | supervisor {pc' : TaskC} (here : t = slotTaskC) (call : SupervisorCall x0 pc tf pc') :
      SupervisedTrap x0 pc tf t pc'
  | other (other : t ≠ slotTaskC) : SupervisedTrap x0 pc tf t pc

theorem supervised_trap {stores : List (SandboxAddress × UInt8)} {regs : UserTaskCtx}
    (mode : cfg.mode ≠ .latency) (supervises : pc.Supervises) (phase : m.phase = .el0 regs)
    (current : m.kernel.current = some t)
    (next : (supervised cfg img).next pc m (.trap stores tf) m' = some pc') :
    InSandbox tf.elr ∧ SupervisedTrap (m.x0 slotTaskC) pc tf t pc' := by
  simp only [supervised, phase] at next
  split_ifs at next with inside here raises
  · cases next
    refine ⟨inside, .supervisor (Option.some_inj.mp (current.symm.trans here)) ?_⟩
    rw [Machine.x0_el0 phase here]
    exact supervisorCall mode supervises raises
  · cases next
    exact ⟨inside, .other fun same => here (same ▸ current)⟩

theorem setMem_unnoticed (mem : Memory) : Unnoticed k (k.setMem mem) :=
  ⟨rfl, ⟨Iff.rfl, Iff.rfl⟩, Iff.rfl, rfl, rfl⟩

theorem Effect.passes (effect : Effect cfg k t tf k₁ o) (ok : KernelOk L cfg k none)
    (other : t ≠ slotTaskC) (alive : (k.threads slotTaskB).user.state ≠ .dead)
    (waiting : (k.threads slotTaskC).user.state = .blocked →
      k.blockedSupervisorSlot = slotTaskC.i32) : Unnoticed k k₁ := by
  obtain ⟨user, pending, supervisor⟩ := effect.unnoticed ok other waiting
  refine ⟨by rw [user], by simp [user], ?_, pending, supervisor⟩
  refine iff_of_false (fun dead => ?_) alive
  rw [(effect.roused slotTaskB).state_of (by nofun) dead] at dead
  exact alive dead

theorem saveFrame_unnoticed (tf : TrapFrame) (reason : TaskReturnReason) (other : t ≠ slotTaskC) :
    Unnoticed k (k.saveFrame t tf reason) := by
  refine ⟨by simp [Ne.symm other], by simp [Ne.symm other], ?_, rfl, rfl⟩
  by_cases server : slotTaskB = t
  · subst server
    simp [Thread.saveFrame]
  · simp [server]

theorem markTask_unnoticed {state : ThreadState} {user : TaskState} (other : t ≠ slotTaskC)
    (lives : user ≠ .dead) (alive : (k.threads slotTaskB).user.state ≠ .dead) :
    Unnoticed k (k.markTask t state user) := by
  refine ⟨by simp [Ne.symm other], by simp [Ne.symm other], ?_, rfl, rfl⟩
  by_cases server : slotTaskB = t
  · subst server
    simp [lives, alive]
  · simp [server]

theorem Unnoticed.trans {k₂ : Kernel} (first : Unnoticed k k₁) (second : Unnoticed k₁ k₂) :
    Unnoticed k k₂ :=
  ⟨second.user.trans first.user, ⟨second.state.1.trans first.state.1,
    second.state.2.trans first.state.2⟩, second.server.trans first.server,
    second.pending.trans first.pending, second.supervisor.trans first.supervisor⟩

theorem Recovering.alive_of_other {regs : UserTaskCtx} (ok : Recovering L cfg m pc)
    (phase : m.phase = .el0 regs) (current : m.kernel.current = some t) (other : t ≠ slotTaskC) :
    (m.kernel.threads slotTaskB).user.state ≠ .dead := by
  intro dead
  rcases ok.heads dead with ⟨pick, _⟩ | heads
  · cases phase.symm.trans pick
  · simp only [Machine.heading, phase] at heads
    exact other (Option.some_inj.mp (current.symm.trans heads))

theorem Recovering.back {stores : List (SandboxAddress × UInt8)} {regs : UserTaskCtx} {y : UInt64}
    (ok : Recovering L cfg m pc) (phase : m.phase = .el0 regs) (active : Active m.kernel t)
    (inv : Inv L cfg ⟨k₁, .el0 (tf.after y)⟩)
    (effect : Effect cfg (m.kernel.setMem (userStores stores m.kernel.mem)) t tf k₁ (.back y))
    (trap : SupervisedTrap (m.x0 slotTaskC) pc tf t pc') :
    Recovering L cfg ⟨k₁, .el0 (tf.after y)⟩ pc' := by
  have kernel := (ok.inv.active phase).1.setMem (userStores stores m.kernel.mem)
  have stored : Active (m.kernel.setMem (userStores stores m.kernel.mem)) t :=
    active.congr rfl rfl rfl
  have before := ok.knows.unnoticed (setMem_unnoticed (userStores stores m.kernel.mem))
  obtain ⟨_, active₁⟩ := effect.keeps kernel stored
  cases trap with
  | supervisor here call =>
      subst here
      refine ⟨inv, by nofun, ?_, fun _ => .inr active₁.current⟩
      rw [Machine.x0_el0 rfl active₁.current]
      exact before.back kernel stored call effect
  | other other =>
      have alive := ok.alive_of_other phase active.current other
      have same := effect.passes kernel other alive before.waiting
      refine ⟨inv, by nofun, ?_, fun dead => absurd (same.server.mp dead) alive⟩
      rw [Machine.x0_other active.current other] at before
      rw [Machine.x0_other active₁.current other, same.user]
      exact before.unnoticed same

theorem Supervised.of_blocked (free : k.pendingDeathSlot = slotNone)
    (alive : (k.threads slotTaskB).user.state ≠ .dead)
    (supervisor : k.blockedSupervisorSlot = slotTaskC.i32)
    (blocked : (k.threads slotTaskC).user.state = .blocked) : Supervised k x0 .waited := by
  refine ⟨⟨by nofun, by nofun⟩, by simp [blocked], fun _ => supervisor, fun _ => rfl, ?_⟩
  refine .alive alive ?_ fun knows => knows.2.1 blocked
  rw [free]
  exact Slot.none_ne_i32 slotTaskB

theorem Recovering.away {stores : List (SandboxAddress × UInt8)} {regs : UserTaskCtx}
    {reason : TaskReturnReason} {k₂ : Kernel} (ok : Recovering L cfg m pc)
    (phase : m.phase = .el0 regs) (active : Active m.kernel t)
    (inv : Inv L cfg ⟨k₂.setResched false, .pick (.returnStep t)⟩)
    (effect : Effect cfg (m.kernel.setMem (userStores stores m.kernel.mem)) t tf k₁ (.away reason))
    (inside : InSandbox tf.elr) (left : Left (k₁.saveFrame t tf reason) t reason k₂)
    (trap : SupervisedTrap (m.x0 slotTaskC) pc tf t pc') :
    Recovering L cfg ⟨k₂.setResched false, .pick (.returnStep t)⟩ pc' := by
  have kernel := (ok.inv.active phase).1.setMem (userStores stores m.kernel.mem)
  have stored : Active (m.kernel.setMem (userStores stores m.kernel.mem)) t :=
    active.congr rfl rfl rfl
  have before := ok.knows.unnoticed (setMem_unnoticed (userStores stores m.kernel.mem))
  obtain ⟨okSaved, saved⟩ := effect.saved kernel stored inside
  have current : k₂.current = some t := (left.keeps okSaved saved).2.current
  cases trap with
  | supervisor here call =>
      subst here
      obtain ⟨rfl, rfl, free, rfl, alive⟩ := before.away call effect
      cases left.lives (by simp)
      have different : slotTaskB ≠ slotTaskC := by decide
      refine ⟨inv, by nofun, .of_blocked free ?_ rfl (by simp), fun dead => ?_⟩
      · simpa [different] using alive
      · exact absurd (by simpa [different] using dead) alive
  | other other =>
      have alive := ok.alive_of_other phase active.current other
      have same := (effect.passes kernel other alive before.waiting).trans
        (saveFrame_unnoticed tf reason other)
      have alive₁ := mt same.server.mp alive
      rw [Machine.x0_other active.current other] at before
      have before₁ := before.unnoticed same
      refine ⟨inv, by nofun, ?_, fun dead => .inl ?_⟩
      · show Supervised (k₂.setResched false) ((k₂.threads slotTaskC).user.ctx.x 0) pc
        have resched : Unnoticed k₂ (k₂.setResched false) :=
          ⟨rfl, ⟨Iff.rfl, Iff.rfl⟩, Iff.rfl, rfl, rfl⟩
        apply Supervised.unnoticed _ resched
        by_cases dies : reason = .exit ∨ reason = .fault
        · exact left.supervised dies okSaved saved other alive₁ (same.user ▸ before₁)
        · cases left.lives dies
          have lives : (if reason = .yield then TaskState.runnable else .blocked) ≠ .dead := by
            split_ifs
            · nofun
            · nofun
          have marked : Unnoticed (k₁.saveFrame t tf reason) ((k₁.saveFrame t tf reason).markTask t
            .runnable (if reason = .yield then .runnable else .blocked)) :=
              markTask_unnoticed other lives alive₁
          rw [marked.user]
          exact (same.user ▸ before₁).unnoticed marked
      · cases left.dies alive₁ dead
        exact ⟨rfl, current⟩

theorem Recovering.step (mode : cfg.mode ≠ .latency) (ok : Recovering L cfg m pc)
    (step : m.step L cfg a = some m') (next : (supervised cfg img).next pc m a m' = some pc') :
    Recovering L cfg m' pc' := by
  obtain ⟨stepped, inv⟩ := step_cases ok.inv step
  cases stepped with
  | quiet untrapped quiet calm =>
      rw [supervised_untrapped untrapped next]
      exact ok.quiet untrapped step quiet fun p panics => ok.calm p (calm p panics)
  | back phase active _ effect =>
      have trap := supervised_trap mode ok.knows.supervises phase active.current next
      exact ok.back phase active inv effect trap.2
  | away phase active _ effect inside left =>
      have trap := supervised_trap mode ok.knows.supervises phase active.current next
      exact ok.away phase active inv effect inside left trap.2
  | outside phase active _ _ outside =>
      have trap := supervised_trap mode ok.knows.supervises phase active.current next
      exact absurd trap.1 outside

theorem Booted.recovering {mem : Memory} (booted : Booted L cfg mem m) :
    Recovering L cfg m .entry := by
  have ready (s : Slot) (user : s ≠ slotIdle) : (m.kernel.threads s).user.state = .runnable := by
    rw [booted.users s user]
    rfl
  have none (s : Slot) : slotNone ≠ s.i32 := Slot.none_ne_i32 s
  refine ⟨booted.inv, by simp [booted.phase], ⟨⟨by nofun, by nofun⟩, ?_, ?_, ?_, ?_⟩, ?_⟩
  · simp [ready slotTaskC (by decide)]
  · simp [ready slotTaskC (by decide)]
  · rw [booted.supervisor]
    exact fun at_ => absurd at_ (none _)
  · refine .alive (by simp [ready slotTaskB (by decide)]) ?_ (by nofun)
    rw [booted.pendingDeath]
    exact none _
  · simp [ready slotTaskB (by decide)]

theorem run_recovering {h : List ((Machine × TaskC) × Action)} (mode : cfg.mode ≠ .latency)
    (run : ((kernelSystem L cfg).under (supervised cfg img)).Run h (m, pc)) :
    Recovering L cfg m pc := by
  refine run.invariant (I := fun p => Recovering L cfg p.1 p.2) ?_ ?_
  · rintro ⟨m, pc⟩ ⟨⟨mem, booted⟩, start⟩
    cases start
    exact (boot_booted booted).recovering
  · rintro ⟨m, pc⟩ a ⟨m', pc'⟩ ok ⟨step, next⟩
    exact Recovering.step mode ok step next

/-! ## The restart -/

structure Restarts (m : Machine) (a : Action) (m' : Machine) : Prop where
  supervisor : m.kernel.current = some slotTaskC
  call : ∃ stores tf, a = .trap stores tf ∧ Asks tf sysTaskRestart ∧
    tf.x 0 = slotTaskB.u32.toUInt64 ∧ m'.phase = .el0 (tf.after 0)
  state : (m'.kernel.threads slotTaskB).state = .runnable
  user : (m'.kernel.threads slotTaskB).user.state = .runnable

def TaskC.callsLeft (x0 : UInt64) : TaskC → Nat
  | .waited => if x0 = slotTaskB.u32.toUInt64 then 1 else 2
  | .wrote => 2
  | _ => 3

theorem Supervised.back_of_dead (ok : Supervised k x0 pc) (kernel : KernelOk L cfg k none)
    (active : Active k slotTaskC) (dead : (k.threads slotTaskB).user.state = .dead)
    (call : SupervisorCall x0 pc tf pc') {y : UInt64}
    (effect : Effect cfg k slotTaskC tf k₁ (.back y)) :
    (Asks tf sysTaskRestart ∧ tf.x 0 = slotTaskB.u32.toUInt64 ∧ y = 0 ∧
      k₁ = k.restartTask slotTaskB) ∨
    (k₁.threads slotTaskB).user.state = .dead ∧ pc'.callsLeft y < pc.callsLeft x0 := by
  cases call with
  | write asks starts =>
      have left : pc.callsLeft x0 = 3 := by rcases starts with rfl | rfl <;> rfl
      rw [left]
      cases effect.of_write asks with
      | refused | direct => exact .inr ⟨dead, Nat.lt_succ_self 2⟩
  | wait asks other =>
      cases effect.of_wait asks with
      | refused no =>
          obtain ⟨s, at_, _⟩ := (active.awake kernel).get .supervisor (no rfl).2
          have here := kernel.supervisor s at_
          subst here
          exact absurd at_ (active.unrecorded kernel .supervisor)
      | report full =>
          refine .inr ⟨dead, ?_⟩
          cases ok.known with
          | alive alive => exact absurd dead alive
          | pending _ _ pending =>
              have told : TaskC.callsLeft k.pendingDeathSlot.toUInt32.toUInt64 .waited = 1 :=
                if_pos (pending_toUInt64.mpr pending)
              rw [told]
              cases pc with
              | waited => simp [TaskC.callsLeft, other rfl]
              | _ => simp [TaskC.callsLeft]
          | known _ _ aware => exact absurd aware.2.2 (other aware.1)
  | restart asks target =>
      cases effect.of_restart asks with
      | refused no =>
          exact absurd (restartable_of_dead kernel (by decide) (active.others _ (by decide)) dead)
            (no rfl target)
      | restart => exact .inl ⟨asks, target, rfl, rfl⟩

theorem Recovering.trap_of_dead {stores : List (SandboxAddress × UInt8)}
    (mode : cfg.mode ≠ .latency) (ok : Recovering L cfg m pc)
    (dead : (m.kernel.threads slotTaskB).user.state = .dead)
    (step : m.step L cfg (.trap stores tf) = some m')
    (next : (supervised cfg img).next pc m (.trap stores tf) m' = some pc') :
    Restarts m (.trap stores tf) m' ∨
      (m'.kernel.threads slotTaskB).user.state = .dead ∧ m'.phase.distance = 0 ∧
        pc'.callsLeft (m'.x0 slotTaskC) < pc.callsLeft (m.x0 slotTaskC) := by
  have current {t : Slot} {regs : UserTaskCtx} (phase : m.phase = .el0 regs) (active : Active m.kernel t) :
      t = slotTaskC := by
    by_contra other
    exact ok.alive_of_other phase active.current other dead
  cases (step_cases ok.inv step).1 with
  | quiet untrapped => exact absurd rfl (untrapped _ _)
  | back phase active _ effect =>
      obtain ⟨_, trap⟩ := supervised_trap mode ok.knows.supervises phase active.current next
      cases current phase active
      cases trap with
      | other other => exact absurd rfl other
      | supervisor _ call =>
          have kernel := (ok.inv.active phase).1.setMem (userStores stores m.kernel.mem)
          have stored : Active (m.kernel.setMem (userStores stores m.kernel.mem)) slotTaskC :=
            active.congr rfl rfl rfl
          have before := ok.knows.unnoticed (setMem_unnoticed (userStores stores m.kernel.mem))
          rcases before.back_of_dead kernel stored dead call effect with
            ⟨asks, target, rfl, rfl⟩ | ⟨still, fewer⟩
          · refine .inl ⟨active.current, ⟨stores, tf, rfl, asks, target, rfl⟩, ?_, ?_⟩
            all_goals simp [Kernel.restartTask, threadRequestResched, Thread.restart, userTaskInit]
          · refine .inr ⟨still, rfl, ?_⟩
            rw [Machine.x0_el0 rfl (effect.keeps kernel stored).2.current]
            exact fewer
  | away phase active _ effect =>
      obtain ⟨_, trap⟩ := supervised_trap mode ok.knows.supervises phase active.current next
      cases current phase active
      cases trap with
      | other other => exact absurd rfl other
      | supervisor _ call =>
          have before := ok.knows.unnoticed (setMem_unnoticed (userStores stores m.kernel.mem))
          exact absurd dead (before.away call effect).2.2.2.2
  | outside phase active _ _ outside =>
      exact absurd (supervised_trap mode ok.knows.supervises phase active.current next).1 outside

/-! ## Progress -/

def recoveryRank (p : Machine × TaskC) : Nat :=
  p.1.phase.distance + p.2.callsLeft (p.1.x0 slotTaskC)

theorem recoveryRank_le (p : Machine × TaskC) : recoveryRank p ≤ 9 := by
  have calls : p.2.callsLeft (p.1.x0 slotTaskC) ≤ 3 := by
    cases p.2 with
    | waited =>
        simp only [TaskC.callsLeft]
        split
        all_goals simp
    | _ => simp [TaskC.callsLeft]
  exact Nat.add_le_add p.1.phase.distance_le calls

theorem Recovering.lower (mode : cfg.mode ≠ .latency) (ok : Recovering L cfg m pc)
    (dead : (m.kernel.threads slotTaskB).user.state = .dead)
    (still : (m'.kernel.threads slotTaskB).user.state = .dead)
    (step : m.step L cfg a = some m') (next : (supervised cfg img).next pc m a m' = some pc') :
    recoveryRank (m', pc') + (if a.own then 1 else 0) ≤ recoveryRank (m, pc) := by
  have quiet (untrapped : ∀ stores tf, a ≠ .trap stores tf) :
      pc'.callsLeft (m'.x0 slotTaskC) = pc.callsLeft (m.x0 slotTaskC) := by
    rw [supervised_untrapped untrapped next, quiet_x0 (quiet_moves ok.inv untrapped step)
      (quiet_masked untrapped step)]
  simp only [recoveryRank]
  cases a with
  | tick => simp [Action.own, quiet (by nofun), tick_phase step]
  | advance =>
      have busy : m.phase ≠ .wfi := by
        intro idles
        rcases ok.heads dead with ⟨pick, _⟩ | heads
        · cases idles.symm.trans pick
        · simp only [Machine.heading, idles] at heads
          cases heads.symm.trans (ok.inv.idling idles)
      have nearer := advance_distance busy step
      simp only [Action.own, quiet (by nofun), if_true]
      omega
  | trap stores tf =>
      rcases ok.trap_of_dead mode dead step next with restarts | ⟨_, phase, fewer⟩
      · rw [restarts.user] at still
        cases still
      · simp only [Action.own, phase, if_true]
        omega

def Call.Short : Call → Prop
  | .svc _ args => args.length ≤ 8
  | .brk => True

theorem svc_exceptionClass (nr : UInt64) (args : List UInt64) :
    (TrapFrame.svc nr args).exceptionClass = 0x15 := by
  show ((0x54000000 : UInt64) >>> 26) &&& 0x3F = 0x15
  decide

theorem svc_fromEl0 (nr : UInt64) (args : List UInt64) : (TrapFrame.svc nr args).fromEl0 := by
  show spsrEl0tMasked &&& 0xF = 0
  decide

theorem svc_inSandbox (nr : UInt64) (args : List UInt64) : InSandbox (TrapFrame.svc nr args).elr := by
  show InSandbox el0SandboxBase
  decide

theorem Call.frame_raises (call : Call) (short : call.Short) :
    call.Raises call.frame ∧ call.frame.fromEl0 ∧ InSandbox call.frame.elr := by
  cases call with
  | brk => exact ⟨rfl, rfl, by decide⟩
  | svc nr args =>
      refine ⟨⟨svc_exceptionClass nr args, rfl, ?_⟩, svc_fromEl0 nr args, svc_inSandbox nr args⟩
      rintro ⟨arg, i⟩ member
      have here : args[i]? = some arg := List.mem_zipIdx_iff_getElem?.mp member
      have small : i < 8 := Nat.lt_of_lt_of_le (List.getElem?_eq_some_iff.mp here).1 short
      have value : (Fin.ofNat 31 i).val = i := Nat.mod_eq_of_lt (by omega)
      have other : Fin.ofNat 31 i ≠ 8 := fun same => by
        rw [Fin.ext_iff, value] at same
        exact absurd same (Nat.ne_of_lt small)
      show (if Fin.ofNat 31 i = 8 then nr else args.getD (Fin.ofNat 31 i).val 0) = arg
      rw [if_neg other, value, List.getD_eq_getElem?_getD, here]
      rfl

theorem Call.frame_step {regs : UserTaskCtx} (call : Call) (L : Layout) (cfg : Config) (short : call.Short)
    (phase : m.phase = .el0 regs) (stores : List (SandboxAddress × UInt8)) :
    ∃ m', m.step L cfg (.trap stores call.frame) = some m' := by
  simp [Machine.step, phase, (call.frame_raises short).2.1]

theorem el0TaskCEntry_short : (el0TaskCEntry cfg img x0 pc).1.Short := by
  cases pc with
  | entry | waited | restarted | received =>
      simp only [el0TaskCEntry]
      split
      all_goals exact Nat.le_of_ble_eq_true rfl
  | wrote | replied => exact Nat.le_of_ble_eq_true rfl

theorem Recovering.enabled (ok : Recovering L cfg m pc)
    (dead : (m.kernel.threads slotTaskB).user.state = .dead) :
    ∃ a m' pc', a.own ∧ m.step L cfg a = some m' ∧
      (supervised cfg img).next pc m a m' = some pc' := by
  by_cases masked : ∃ regs, m.phase = .el0 regs
  · obtain ⟨regs, phase⟩ := masked
    have current : m.kernel.current = some slotTaskC := by
      rcases ok.heads dead with ⟨pick, _⟩ | heads
      · cases phase.symm.trans pick
      · simpa [Machine.heading, phase] using heads
    obtain ⟨raises, _, inside⟩ := (el0TaskCEntry cfg img (regs.x 0) pc).1.frame_raises
      el0TaskCEntry_short
    obtain ⟨m', step⟩ : ∃ m', m.step L cfg (.trap [] (el0TaskCEntry cfg img (regs.x 0) pc).1.frame) =
        some m' := Call.frame_step _ L cfg el0TaskCEntry_short phase []
    have next : (supervised cfg img).next pc m
        (.trap [] (el0TaskCEntry cfg img (regs.x 0) pc).1.frame) m' =
          some (el0TaskCEntry cfg img (regs.x 0) pc).2 := by
      simp [supervised, phase, inside, current, raises]
    exact ⟨_, m', _, rfl, step, next⟩
  · obtain ⟨m', step⟩ := advance_enabled ok.inv ok.calm fun regs phase => masked ⟨regs, phase⟩
    refine ⟨.advance, m', pc, rfl, step, ?_⟩
    simp [supervised]

/-- The recovery of `task_b` from a state of a run. -/
structure Recovers (L : Layout) (cfg : Config) (img : Image) (m : Machine) (pc : TaskC) : Prop where
  /-- While `task_b` is dead, only the supervisor executes. -/
  alone : (m.kernel.threads slotTaskB).user.state = .dead →
    ∀ regs, m.phase = .el0 regs → m.kernel.current = some slotTaskC
  /-- A report that names `task_b` leads to its restart. -/
  report : ∀ regs, m.phase = .el0 regs → m.kernel.current = some slotTaskC → pc = .waited →
    regs.x 0 = slotTaskB.u32.toUInt64 → ∀ a m' pc', m.step L cfg a = some m' →
      (supervised cfg img).next pc m a m' = some pc' → Restarts m a m'
  /-- Nothing else revives `task_b`. -/
  revived : (m.kernel.threads slotTaskB).user.state = .dead → ∀ a m' pc',
    m.step L cfg a = some m' → (supervised cfg img).next pc m a m' = some pc' →
      (m'.kernel.threads slotTaskB).user.state ≠ .dead → Restarts m a m'
  enabled : (m.kernel.threads slotTaskB).user.state = .dead → ∃ a m' pc', a.own ∧
    m.step L cfg a = some m' ∧ (supervised cfg img).next pc m a m' = some pc'
  /-- The restart comes within nine steps of the machine that are not interrupts. -/
  within : (m.kernel.threads slotTaskB).user.state = .dead → ∀ h p,
    ((kernelSystem L cfg).under (supervised cfg img)).Path (m, pc) h p →
      9 < h.countP (fun q => q.2.own) →
        (p.1.kernel.threads slotTaskB).user.state ≠ .dead ∨
          ∃ q ∈ h, (q.1.1.kernel.threads slotTaskB).user.state ≠ .dead

theorem Recovering.reported (ok : Recovering L cfg m pc)
    {regs : UserTaskCtx} (phase : m.phase = .el0 regs) (current : m.kernel.current = some slotTaskC)
    (waited : pc = .waited) (told : regs.x 0 = slotTaskB.u32.toUInt64) :
    (m.kernel.threads slotTaskB).user.state = .dead ∧ pc.callsLeft (m.x0 slotTaskC) = 1 := by
  have x0 : m.x0 slotTaskC = slotTaskB.u32.toUInt64 := (Machine.x0_el0 phase current).trans told
  obtain ⟨kernel, t, active⟩ := ok.inv.active phase
  cases Option.some_inj.mp (active.current.symm.trans current)
  refine ⟨?_, by simp [waited, x0, TaskC.callsLeft]⟩
  cases ok.knows.known with
  | alive _ _ unaware => exact absurd ⟨waited, active.not_blocked, x0⟩ unaware
  | pending dead | known dead => exact dead

theorem Recovering.recovers (mode : cfg.mode ≠ .latency) (ok : Recovering L cfg m pc) :
    Recovers L cfg img m pc := by
  refine ⟨fun dead regs phase => ?_, ?_, ?_, ok.enabled, ?_⟩
  · by_contra other
    obtain ⟨_, t, active⟩ := ok.inv.active phase
    rw [active.current] at other
    exact ok.alive_of_other phase active.current (by simpa using other) dead
  · intro regs phase current waited told a m' pc' step next
    obtain ⟨dead, last⟩ := ok.reported phase current waited told
    cases a with
    | tick => exact absurd phase (quiet_masked (by nofun) step regs)
    | advance => exact absurd phase (quiet_masked (by nofun) step regs)
    | trap stores tf =>
        rcases ok.trap_of_dead mode dead step next with restarts | ⟨_, _, fewer⟩
        · exact restarts
        · rw [last] at fewer
          have called : 0 < pc'.callsLeft (m'.x0 slotTaskC) := by
            cases pc' with
            | waited =>
                simp only [TaskC.callsLeft]
                split
                all_goals simp
            | _ => simp [TaskC.callsLeft]
          omega
  · intro dead a m' pc' step next revived
    cases a with
    | tick | advance =>
        have moves := quiet_moves ok.inv (by nofun) step
        exact absurd ((moves.users.dead slotTaskB).mpr dead) revived
    | trap stores tf =>
        rcases ok.trap_of_dead mode dead step next with restarts | ⟨still, _⟩
        · exact restarts
        · exact absurd still revived
  · intro dead h p path long
    apply path.reaches (fun p => Recovering L cfg p.1 p.2)
      (fun p => (p.1.kernel.threads slotTaskB).user.state ≠ .dead) Action.own recoveryRank ok
    · rintro ⟨m, pc⟩ a ⟨m', pc'⟩ ok ⟨step, next⟩
      exact ok.step mode step next
    · rintro ⟨m, pc⟩ a ⟨m', pc'⟩ ok dead still ⟨step, next⟩
      exact ok.lower mode (not_not.mp dead) (not_not.mp still) step next
    · exact Nat.lt_of_le_of_lt (recoveryRank_le (m, pc)) long

theorem run_recovers {h : List ((Machine × TaskC) × Action)} (mode : cfg.mode ≠ .latency)
    (run : ((kernelSystem L cfg).under (supervised cfg img)).Run h (m, pc)) :
    Recovers L cfg img m pc :=
  (run_recovering mode run).recovers mode

theorem run_recovers_exit : ∃ h m, ((kernelSystem .sample .sample).under
      (supervised .sample .sample)).Run h (m, .entry) ∧
    (m.kernel.threads slotTaskB).user.state = .dead ∧
    Recovers .sample .sample .sample m .entry := by
  obtain ⟨m, ran, dead⟩ : ∃ m, runUnder .sample .sample (supervised .sample .sample)
      (List.replicate 4 .advance ++ [.trap [] (.svc sysYield [])] ++ List.replicate 5 .advance ++
        [.trap [] (.svc sysExit [])]) = some (m, .entry) ∧
      (m.kernel.threads slotTaskB).user.state = .dead := ⟨_, rfl, rfl⟩
  obtain ⟨h, run⟩ := runUnder_run ran
  exact ⟨h, m, run, dead, run_recovers (by decide) run⟩

end ProtoOs
