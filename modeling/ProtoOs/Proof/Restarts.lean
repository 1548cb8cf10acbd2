import ProtoOs.Proof.Decisions
import ProtoOs.Proof.DeathFrame
import ProtoOs.Proof.Messages
import ProtoOs.Proof.Rendezvous
import ProtoOs.Proof.Supervised

/-!
# Restarts

A restarted task resumes in the middle of `user_task_return_step`, and a task that starts for the
first time comes from `thread_bootstrap`. Both enter EL0 with the same registers and the same marks.
-/

namespace ProtoOs

open Transition.System

variable {L : Layout} {cfg : Config} {k : Kernel} {m m' m₁ m₂ : Machine} {s t next : Slot}
  {e : EpId} {a : Action} {h h' : List (Machine × Action)} {regs : UserTaskCtx} {x : Send × Memory}
  {d : Send} {sent : Memory} {n : Nat}

/-! ## The first entry -/

def initialRegisters (L : Layout) (s : Slot) : UserTaskCtx :=
  { x := fun _ => 0, spEl0 := L.stackTop s, elr := L.entry s, spsr := spsrEl0tMasked }

/-- The task enters EL0 as it does for the first time. -/
structure FirstEntry (L : Layout) (m : Machine) (s : Slot) (regs : UserTaskCtx) : Prop where
  registers : regs = initialRegisters L s
  running : (m.kernel.threads s).state = .running
  task : (m.kernel.threads s).user.state = .running
  reason : (m.kernel.threads s).user.returnReason = .none
  current : m.kernel.current = some s
  currentTask : m.kernel.currentTask = some s

structure Entering (L : Layout) (k : Kernel) (s : Slot) : Prop where
  ctx : (k.threads s).user.ctx = initialRegisters L s
  ready : (k.threads s).user.state = .runnable ∨ (k.threads s).user.state = .running
  reason : (k.threads s).user.returnReason = .none

theorem resumeAt_reason {at_ : Resume} (step : resumeAt k at_ = some m') (s : Slot) :
    (m'.kernel.threads s).user.returnReason = (k.threads s).user.returnReason ∨
      (m'.kernel.threads s).user.returnReason = .none := by
  cases at_ with
  | null | boot => cases step
  | idleLoop =>
      cases step
      exact .inl rfl
  | returnStep t =>
      simp only [resumeAt, userTaskReturnTail] at step
      split_ifs at step
      · cases step
        exact .inl rfl
      · cases step
        exact .inl rfl
      · cases step
        by_cases same : s = t
        · exact .inr (by simp [same])
        · exact .inl (by simp [same])
  | bootstrap entry arg =>
      cases entry with
      | idle =>
          cases step
          exact .inl rfl
      | userTask =>
          cases arg with
          | none =>
              cases step
              exact .inl rfl
          | some t =>
              simp only [resumeAt, threadEntryUserTask] at step
              split_ifs at step
              · cases step
                exact .inl rfl
              · cases step
                by_cases same : s = t
                · exact .inl (by simp [threadEnterEl0, same])
                · exact .inl (by simp [threadEnterEl0, same])

theorem quiet_reason (untrapped : ∀ stores tf, a ≠ .trap stores tf)
    (step : m.step L cfg a = some m') (s : Slot) :
    (m'.kernel.threads s).user.returnReason = (m.kernel.threads s).user.returnReason ∨
      (m'.kernel.threads s).user.returnReason = .none := by
  cases a with
  | trap stores tf => exact absurd rfl (untrapped stores tf)
  | tick =>
      simp only [Machine.step] at step
      split_ifs at step
      cases step
      have ticks : Ticks m.kernel (timerHandleIrq cfg m.kernel) := timerHandleIrq_ticks
      exact .inl (by rw [ticks.user])
  | advance =>
      obtain ⟨k, phase⟩ := m
      cases phase with
      | el0 | panic => cases step
      | cont => exact resumeAt_reason step s
      | resume =>
          cases step
          exact .inl rfl
      | pick | currentCtx =>
          simp only [Machine.step, advance] at step
          split at step
          all_goals
            cases step
            exact .inl rfl
      | switch next caller =>
          simp only [Machine.step, advance] at step
          split_ifs at step
          · cases step
            exact .inl rfl
          · cases step
            exact .inl (by rw [threadSwitchToMark_user])
      | enter prev next caller =>
          simp only [Machine.step, advance] at step
          split at step
          · cases step
            exact .inl rfl
          · rename_i entered
            cases step
            exact .inl (by rw [(threadSwitchToEnter_user entered).1])
      | wfi =>
          cases step
          simp only [threadReschedPoint, threadReschedTake]
          cases k.reschedPending with
          | true => exact .inl rfl
          | false => exact .inl rfl

theorem Entering.step (entering : Entering L m.kernel s) (inv : Inv L cfg m) (user : s ≠ slotIdle)
    (away : ∀ regs, ¬ m.Executes s regs) (step : m.step L cfg a = some m') :
    Entering L m'.kernel s := by
  by_cases untrapped : ∀ stores tf, a ≠ .trap stores tf
  · have users := (quiet_moves inv untrapped step).users
    refine ⟨(users.ctx s).trans entering.ctx, ?_, ?_⟩
    · rcases users.state s with same | ⟨_, running⟩
      · rw [same]
        exact entering.ready
      · exact .inr running
    · rcases quiet_reason untrapped step s with same | none
      · exact same.trans entering.reason
      · exact none
  · simp only [not_forall, not_not] at untrapped
    obtain ⟨stores, tf, rfl⟩ := untrapped
    obtain ⟨regs, phase, _⟩ := Machine.step_trap step
    obtain ⟨ok, t, active⟩ := inv.active phase
    have other : t ≠ s := by
      rintro rfl
      exact away regs ⟨phase, active.current⟩
    rcases trap_touched inv step active.current other with touched | ⟨rfl, restarts⟩
    · cases touched with
      | spared spared =>
          obtain ⟨ctx, ready, reason⟩ := entering
          have same : m'.kernel.threads s = m.kernel.threads s := spared.thread
          exact ⟨by rw [same]; exact ctx, by rw [same]; exact ready, by rw [same]; exact reason⟩
      | woken _ woken =>
          have blocked := (ok.recorded woken.place).2
          rcases entering.ready with ready | running
          · cases blocked.symm.trans ready
          · cases blocked.symm.trans running
    · have dead : (m.kernel.threads slotTaskB).user.state = .dead := restarts.restartable.dead
      rcases entering.ready with ready | running
      · cases dead.symm.trans ready
      · cases dead.symm.trans running

theorem Entering.path (entering : Entering L m.kernel s) (inv : Inv L cfg m) (user : s ≠ slotIdle)
    (path : (kernelSystem L cfg).Path m h m') (away : ∀ p ∈ h, ∀ regs, ¬ p.1.Executes s regs) :
    Inv L cfg m' ∧ Entering L m'.kernel s := by
  induction path with
  | refl => exact ⟨inv, entering⟩
  | @step h m₁ a m' _ taken ih =>
      obtain ⟨inv₁, entering₁⟩ := ih fun p member => away p (List.mem_append_left _ member)
      exact ⟨(step_cases inv₁ taken).2, entering₁.step inv₁ user (away (m₁, a) (by simp)) taken⟩

theorem Entering.enters (entering : Entering L m.kernel s) (inv : Inv L cfg m) (user : s ≠ slotIdle)
    (start : ∀ regs, ¬ m.Executes s regs) (path : (kernelSystem L cfg).Path m h m')
    (away : ∀ p ∈ h, ∀ regs, ¬ p.1.Executes s regs) (executes : m'.Executes s regs) :
    FirstEntry L m' s regs := by
  obtain ⟨inv', entering'⟩ := entering.path inv user path away
  obtain ⟨_, active⟩ := executes.active inv'
  have loaded : regs = (m'.kernel.threads s).user.ctx := by
    cases path with
    | refl => exact absurd executes (start regs)
    | @step h m₁ a _ path taken =>
        obtain ⟨inv₁, _⟩ := entering.path inv user path fun p member =>
          away p (List.mem_append_left _ member)
        exact step_executes inv₁ taken (away (m₁, a) (by simp)) executes
  exact ⟨loaded.trans entering'.ctx, active.state, active.running, entering'.reason, active.current,
    active.task⟩

theorem Booted.entering {mem : Memory} (booted : Booted L cfg mem m) (user : s ≠ slotIdle) :
    Entering L m.kernel s := by
  constructor
  · rw [booted.users s user]
    rfl
  · rw [booted.users s user]
    exact .inl rfl
  · rw [booted.users s user]
    rfl

theorem restartTask_entering (ok : KernelOk L cfg k none) (user : s ≠ slotIdle) :
    Entering L (k.restartTask s) s := by
  have template := (ok.threads s).template user
  refine ⟨?_, .inl ?_, ?_⟩
  · simp [Kernel.restartTask, threadRequestResched, Thread.restart, userTaskInit, template.entry,
      template.stack, initialRegisters]
  · simp [Kernel.restartTask, threadRequestResched, Thread.restart, userTaskInit]
  · simp [Kernel.restartTask, threadRequestResched, Thread.restart, userTaskInit]

/-! ## The restart -/

theorem RestartReturns.step (returns : RestartReturns L cfg m a t slotTaskB.u32.toUInt64)
    (inv : Inv L cfg m) (step : m.step L cfg a = some m') :
    ∃ (stores : List (SandboxAddress × UInt8)) (tf : TrapFrame),
      KernelOk L cfg (m.trapped stores) none ∧
        m' = ⟨(m.trapped stores).restartTask slotTaskB, .el0 (tf.after 0)⟩ := by
  obtain ⟨_, _, dead, revived⟩ := restart_returns inv step returns
  obtain ⟨stores, tf, _, rfl, current, asks, _⟩ := returns
  obtain ⟨regs, phase, _⟩ := Machine.step_trap step
  have executes : m.Executes t regs := ⟨phase, current⟩
  refine ⟨stores, tf, (executes.trapped inv stores).1, ?_⟩
  obtain ⟨k₁, o, trapped⟩ := executes.step inv step
  cases trapped.effect.of_restart asks with
  | restart => exact trapped.back 0 rfl
  | refused =>
      rw [trapped.back minusOne rfl] at revived
      exact absurd ⟨dead.task, dead.thread⟩ revived

theorem restart_succeeds {tf : TrapFrame} (inv : Inv L cfg m) (executes : m.Executes slotTaskC regs)
    (dead : (m.kernel.threads slotTaskB).user.state = .dead) (asks : Asks tf sysTaskRestart)
    (target : tf.x 0 = slotTaskB.u32.toUInt64) (stores : List (SandboxAddress × UInt8)) :
    RestartReturns L cfg m (.trap stores tf) slotTaskC slotTaskB.u32.toUInt64 := by
  obtain ⟨ok, active⟩ := executes.trapped inv stores
  have restartable := restartable_of_dead ok (by decide) (active.others slotTaskB (by decide)) dead
  exact RestartCall.returns inv executes.1 executes.2 ⟨asks, rfl, target, restartable, rfl, rfl⟩

/-! ## Pending messages -/

theorem Effect.holds {tf : TrapFrame} {k₁ : Kernel} {o : Outcome} (effect : Effect cfg k t tf k₁ o)
    (unreceived : ¬ Receives k t tf e) (pending : (k.endpoints e).hasPending = true) :
    (k₁.endpoints e).hasPending = true := by
  have elsewhere {u : EpId} (on : OnEndpoint k k₁ u) (other : e ≠ u) :
      (k₁.endpoints e).hasPending = true := by
    rw [on.elsewhere e other]
    exact pending
  cases effect with
  | refused | ticks | write | yield | exit | fault | report | await | restart => exact pending
  | @park u _ _ accepts =>
      by_cases here : e = u
      · subst here
        cases accepts.quiet.symm.trans pending
      · exact elsewhere parkRequest_on here
  | @handOver u _ _ _ accepts =>
      by_cases here : e = u
      · subst here
        cases accepts.quiet.symm.trans pending
      · exact elsewhere handOver_on here
  | @take u asks found range owner =>
      by_cases here : e = u
      · subst here
        exact absurd ⟨asks, found, range, owner⟩ unreceived
      · exact elsewhere takePending_on here
  | @listen u _ _ _ _ quiet =>
      by_cases here : e = u
      · subst here
        cases quiet.symm.trans pending
      · exact elsewhere listen_on here
  | @answer u =>
      by_cases here : e = u
      · subst here
        simpa [Kernel.answer] using pending
      · exact elsewhere answer_on here

theorem step_pending (inv : Inv L cfg m) (step : m.step L cfg a = some m')
    (owner : (m.kernel.endpoints e).ownerSlot = s.u32)
    (unreceived : ¬ m.Traps (fun k t tf => Receives k t tf e) a) (lives : ¬ DiesAt L cfg m a s)
    (pending : (m.kernel.endpoints e).hasPending = true) :
    (m'.kernel.endpoints e).hasPending = true := by
  have owner' := (step_owner inv step e).trans owner
  have held {stores : List (SandboxAddress × UInt8)} {tf : TrapFrame} {t : Slot} {k₁ : Kernel}
      {o : Outcome} (trap : a = .trap stores tf) (current : m.kernel.current = some t)
      (effect : Effect cfg (m.trapped stores) t tf k₁ o) : (k₁.endpoints e).hasPending = true := by
    subst trap
    exact effect.holds (fun receives => unreceived ⟨t, current, receives⟩) pending
  cases (step_cases inv step).1 with
  | quiet _ quiet =>
      rw [quiet.endpoints]
      exact pending
  | back _ active _ effect => exact held rfl active.current effect
  | outside _ active _ effect => exact held rfl active.current effect
  | @away stores tf t _ k₁ k₂ reason phase active _ effect inside left =>
      have holds := held rfl active.current effect
      by_cases fatal : reason = .exit ∨ reason = .fault
      · rcases left.caller (e := e) with same | ⟨own, _⟩
        · exact (congrArg Endpoint.hasPending same).trans holds
        · obtain rfl := Slot.u32_inj.mp (own.symm.trans owner')
          obtain ⟨ok, stored⟩ := Machine.Executes.trapped ⟨phase, active.current⟩ inv stores
          obtain ⟨okSaved, activeSaved⟩ := effect.saved ok stored inside
          obtain ⟨task, thread⟩ := left.dead fatal okSaved activeSaved
          exact absurd ⟨active.current, ⟨_, _, rfl, effect.dies fatal⟩, _, step, task, thread⟩ lives
      · rw [show ((k₂.setResched false).endpoints e) = k₂.endpoints e from rfl,
          left.endpoints (not_or.mp fatal)]
        exact holds

theorem path_pending_message (inv : Inv L cfg m) (path : (kernelSystem L cfg).Path m h m')
    (owner : (m.kernel.endpoints e).ownerSlot = s.u32)
    (unreceived : ∀ p ∈ h, ¬ p.1.Traps (fun k t tf => Receives k t tf e) p.2)
    (lives : ∀ p ∈ h, ¬ DiesAt L cfg p.1 p.2 s)
    (pending : (m.kernel.endpoints e).hasPending = true)
    (holds : HoldsMessage (m.kernel.endpoints e) x) :
    (m'.kernel.endpoints e).hasPending = true ∧ HoldsMessage (m'.kernel.endpoints e) x := by
  suffices kept : Inv L cfg m' ∧ (m'.kernel.endpoints e).ownerSlot = s.u32 ∧
      (m'.kernel.endpoints e).hasPending = true ∧ HoldsMessage (m'.kernel.endpoints e) x from kept.2.2
  induction path with
  | refl => exact ⟨inv, owner, pending, holds⟩
  | @step h m₁ a m' _ taken ih =>
      obtain ⟨inv₁, owner₁, pending₁, holds₁⟩ := ih
        (fun p member => unreceived p (List.mem_append_left _ member))
        (fun p member => lives p (List.mem_append_left _ member))
      have pending' := step_pending inv₁ taken owner₁ (unreceived (m₁, a) (by simp))
        (lives (m₁, a) (by simp)) pending₁
      have silent (y : Send × Memory) : ¬ Calls cfg e m₁ a y := by
        rintro ⟨_, _, accepts⟩
        cases accepts.quiet.symm.trans pending₁
      obtain ⟨_, same⟩ := (step_keepsSent inv₁ taken silent).1 pending'
      exact ⟨(step_cases inv₁ taken).2, (step_owner inv₁ taken e).trans owner₁, pending',
        holds₁.kept same⟩

theorem receives_message {tf : TrapFrame} {stores : List (SandboxAddress × UInt8)}
    (inv : Inv L cfg m) (executes : m.Executes t regs)
    (receives : Receives (m.trapped stores) t tf e)
    (pending : (m.kernel.endpoints e).hasPending = true)
    (holds : HoldsMessage (m.kernel.endpoints e) (d, sent))
    (step : m.step L cfg (.trap stores tf) = some m') :
    m'.phase = .el0 (tf.after (minU64 d.len (tf.x 2))) ∧
      Arrives (m.trapped stores).mem m'.kernel.mem (tf.x 1) (minU64 d.len (tf.x 2))
        fun i => sent (d.ptr + .ofNat i) := by
  obtain ⟨k₁, o, trapped⟩ := executes.step inv step
  obtain ⟨length, content⟩ := holds
  have length' : ((m.trapped stores).endpoints e).pendingLen = d.len := length
  cases trapped.effect.of_recv receives.asks with
  | take found' =>
      cases found'.symm.trans receives.found
      rw [trapped.back _ rfl, length']
      refine ⟨rfl, ?_⟩
      rw [takePending_mem, length']
      apply bytesCopyOut_arrives
      intro i below
      exact content i (Nat.lt_of_lt_of_le below (minU64_le_left _ _))
  | listen found' _ quiet =>
      cases found'.symm.trans receives.found
      cases quiet.symm.trans pending
  | refused no =>
      cases (no e receives.found receives.range receives.owner).1.symm.trans pending

/-! ## The way to EL0 -/

theorem step_heading (inv : Inv L cfg m) (user : t ≠ slotIdle) (heading : m.heading = some t)
    (away : ∀ regs, ¬ m.Executes t regs) (step : m.step L cfg a = some m') :
    m'.heading = some t ∧ m'.phase.distance + (if a.own then 1 else 0) ≤ m.phase.distance := by
  cases a with
  | trap stores tf =>
      obtain ⟨regs, phase, _⟩ := Machine.step_trap step
      simp only [Machine.heading, phase] at heading
      exact absurd ⟨phase, heading⟩ (away regs)
  | tick =>
      refine ⟨(tick_moves step).heads t user heading, ?_⟩
      rw [tick_phase step]
      exact le_rfl
  | advance =>
      refine ⟨(advance_moves inv step).heads t user heading, advance_distance ?_ step⟩
      intro idles
      simp only [Machine.heading, idles] at heading
      exact user (Option.some_inj.mp (heading.symm.trans (inv.idling idles)))

theorem path_heading (inv : Inv L cfg m) (user : t ≠ slotIdle) (heading : m.heading = some t)
    (path : (kernelSystem L cfg).Path m h m') (away : ∀ p ∈ h, ∀ regs, ¬ p.1.Executes t regs) :
    (h.countP fun p => p.2.own) ≤ m.phase.distance := by
  obtain ⟨_, bound⟩ := path.countP_le (fun m => Inv L cfg m ∧ m.heading = some t)
    (fun m _ => ∀ regs, ¬ m.Executes t regs) (fun _ a => a.own) (fun m => m.phase.distance)
    ⟨inv, heading⟩ (fun m a m' ok away step => by
      obtain ⟨heads, lower⟩ := step_heading ok.1 user ok.2 away step
      exact ⟨⟨(step_cases ok.1 step).2, heads⟩, lower⟩) away
  omega

theorem heading_arrives (inv : Inv L cfg m) (user : t ≠ slotIdle) (heading : m.heading = some t)
    (calm : ∀ p, m.phase ≠ .panic p) : ∃ h m', (kernelSystem L cfg).Path m h m' ∧
      (Inv L cfg m' ∧ m'.kernel.view = m.kernel.view) ∧ ∃ regs, m'.Executes t regs := by
  obtain ⟨h, m', path, ⟨inv', _, _, view⟩, executes⟩ :
      ∃ h m', (kernelSystem L cfg).Path m h m' ∧ (Inv L cfg m' ∧ m'.heading = some t ∧
        (∀ p, m'.phase ≠ .panic p) ∧ m'.kernel.view = m.kernel.view) ∧
          ∃ regs, m'.Executes t regs := by
    apply Path.arrives (fun m' => Inv L cfg m' ∧ m'.heading = some t ∧
      (∀ p, m'.phase ≠ .panic p) ∧ m'.kernel.view = m.kernel.view)
      (fun m' => ∃ regs, m'.Executes t regs) (fun m' => m'.phase.distance) ⟨inv, heading, calm, rfl⟩
    rintro m₁ ⟨inv₁, heading₁, calm₁, view₁⟩ waits
    have masked (regs : UserTaskCtx) (phase : m₁.phase = .el0 regs) : False := by
      simp only [Machine.heading, phase] at heading₁
      exact waits ⟨regs, phase, heading₁⟩
    obtain ⟨m₂, taken⟩ := advance_enabled inv₁ calm₁ masked
    have step : m₁.step L cfg .advance = some m₂ := taken
    obtain ⟨heading₂, lower⟩ := step_heading inv₁ user heading₁ (fun regs here => waits ⟨regs, here⟩) step
    have calm₂ (p : Panic) : m₂.phase ≠ .panic p := by
      cases (step_cases inv₁ step).1 with
      | quiet _ _ calm => exact fun panics => calm₁ p (calm p panics)
    have scheduled : Scheduled (fun _ => True) m₁ m₂ := quiet_scheduled inv₁ (by nofun) step
    have same : m₂.kernel.view = m₁.kernel.view := scheduled.view
    refine ⟨.advance, m₂, step, ⟨(step_cases inv₁ step).2, heading₂, calm₂, same.trans view₁⟩, ?_⟩
    simp only [Action.own, if_true] at lower
    exact lower
  exact ⟨h, m', path, ⟨inv', view⟩, executes⟩

theorem Inv.selectable_view (inv : Inv L cfg m) (calm : ∀ p, m.phase ≠ .panic p)
    (user : s ≠ slotIdle) :
    threadIsSelectable m.kernel (some s) ↔ m.kernel.view.state s = .runnable := by
  rw [inv.selectable_iff calm user]
  cases state : (m.kernel.threads s).user.state with
  | runnable | running | blocked | dead => simp [Kernel.view, state, TaskState.unscheduled]

theorem hands_over {r : Resume} (inv : Inv L cfg m) (pick : m.phase = .pick r)
    (current : m.kernel.current = some t) (user : next ≠ slotIdle)
    (ready : m.kernel.view.state next = .runnable)
    (first : ∀ u, u ≠ slotIdle → m.kernel.view.state u = .runnable →
      RoundRobin.behind t next ≤ RoundRobin.behind t u) :
    ∃ h m', (kernelSystem L cfg).Path m h m' ∧
      (Inv L cfg m' ∧ m'.kernel.view = m.kernel.view) ∧ ∃ regs, m'.Executes next regs := by
  have calm (p : Panic) : m.phase ≠ .panic p := by
    rw [pick]
    simp
  obtain ⟨t', leaving⟩ := inv.leaving pick
  obtain rfl := Option.some_inj.mp (leaving.current.symm.trans current)
  obtain ⟨chosen, picked, chooses⟩ := pickNextThread_chooses (inv.kernelOk calm) leaving
  have willing : threadIsSelectable m.kernel (some next) := (inv.selectable_view calm user).mpr ready
  have same : chosen = next := by
    cases chooses with
    | idle _ none => exact absurd willing (none next user)
    | task elects =>
        have other := mem_userSlots.mp elects.user
        have closest := first chosen other ((inv.selectable_view calm other).mp elects.willing)
        exact RoundRobin.behind_inj
          ((elects.first next (mem_userSlots.mpr user) willing).antisymm closest)
  subst same
  obtain ⟨k, phase⟩ := m
  cases pick
  have step : Machine.step L cfg ⟨k, .pick r⟩ .advance = some ⟨k, .switch chosen r⟩ := by
    simp only [Machine.step, advance, picked]
  obtain ⟨h, m', path, kept, executes⟩ :=
    heading_arrives (step_cases inv step).2 user rfl (by simp)
  exact ⟨_, m', .cons step path, kept, executes⟩

/-! ## Cycles -/

/-- `t` executes, the tasks `gone` are dead, and the others are ready. -/
structure Lineup (L : Layout) (cfg : Config) (t : Slot) (gone : Slot → Prop) (m : Machine) : Prop where
  inv : Inv L cfg m
  executes : ∃ regs, m.Executes t regs
  dead : ∀ s, s ≠ slotIdle → gone s → m.kernel.view.state s = .dead
  ready : ∀ s, s ≠ slotIdle → ¬ gone s → m.kernel.view.state s = .runnable

variable {gone : Slot → Prop}

theorem Lineup.of_view (inv : Inv L cfg m') (executes : ∃ regs, m'.Executes next regs)
    (view : m'.kernel.view = m.kernel.view)
    (dead : ∀ s, s ≠ slotIdle → gone s → m.kernel.view.state s = .dead)
    (ready : ∀ s, s ≠ slotIdle → ¬ gone s → m.kernel.view.state s = .runnable) :
    Lineup L cfg next gone m' := by
  refine ⟨inv, executes, fun s user off => ?_, fun s user on => ?_⟩
  · rw [view]
    exact dead s user off
  · rw [view]
    exact ready s user on

structure Follows (gone : Slot → Prop) (t next : Slot) : Prop where
  user : next ≠ slotIdle
  present : ¬ gone next
  first : ∀ u, u ≠ slotIdle → ¬ gone u → RoundRobin.behind t next ≤ RoundRobin.behind t u

theorem Lineup.hands_over {r : Resume} (follows : Follows gone t next) (inv : Inv L cfg m)
    (pick : m.phase = .pick r) (current : m.kernel.current = some t)
    (dead : ∀ s, s ≠ slotIdle → gone s → m.kernel.view.state s = .dead)
    (ready : ∀ s, s ≠ slotIdle → ¬ gone s → m.kernel.view.state s = .runnable) :
    ∃ h m', (kernelSystem L cfg).Path m h m' ∧ Lineup L cfg next gone m' := by
  obtain ⟨h, m', path, ⟨inv', view⟩, executes⟩ := ProtoOs.hands_over inv pick current follows.user
    (ready next follows.user follows.present) fun u user awake => follows.first u user fun off => by
      cases (dead u user off).symm.trans awake
  exact ⟨h, m', path, .of_view inv' executes view dead ready⟩

theorem Machine.Executes.svc (executes : m.Executes t regs) (nr : UInt64) (args : List UInt64) :
    ∃ m', m.step L cfg (.trap [] (.svc nr args)) = some m' := by
  have mode : (TrapFrame.svc nr args).fromEl0 := by
    show (0x3C0 : UInt64) &&& 0xF = 0
    decide
  refine ⟨takeTrap L cfg (m.trapped []) (.svc nr args), ?_⟩
  simp only [Machine.step, executes.1, mode, if_true]
  rfl

theorem svc_asks (nr : UInt64) (args : List UInt64) : Asks (.svc nr args) nr :=
  ⟨by show (0x54000000 : UInt64) >>> 26 &&& 0x3F = 0x15; decide, rfl⟩

theorem svc_inside (nr : UInt64) (args : List UInt64) : InSandbox (TrapFrame.svc nr args).elr := by
  show InSandbox el0SandboxBase
  decide

theorem Lineup.yields (lineup : Lineup L cfg t gone m) (follows : Follows gone t next) :
    ∃ h m', (kernelSystem L cfg).Path m h m' ∧ Lineup L cfg next gone m' := by
  obtain ⟨regs, executes⟩ := lineup.executes
  obtain ⟨m₁, step⟩ : ∃ m₁, m.step L cfg (.trap [] (.svc sysYield [])) = some m₁ := executes.svc _ _
  have inv₁ := (step_cases lineup.inv step).2
  have scheduled : Scheduled (fun _ => True) m m₁ :=
    yield_scheduled lineup.inv executes trivial (svc_asks _ _) step
  have view := scheduled.view
  obtain ⟨k₁, o, trapped⟩ := executes.step lineup.inv step
  obtain ⟨rfl, rfl⟩ := trapped.effect.of_yield (svc_asks _ _)
  have left := trapped.yield rfl (svc_inside _ _)
  obtain ⟨h, m', path, after⟩ := Lineup.hands_over follows inv₁ (by rw [left])
    (by rw [left]; exact executes.2) (by rw [view]; exact lineup.dead)
    (by rw [view]; exact lineup.ready)
  exact ⟨_, m', .cons step path, after⟩

theorem Lineup.exits (lineup : Lineup L cfg t (fun _ => False) m) (follows : Follows (· = t) t next) :
    ∃ m₁ h m', m.step L cfg (.trap [] (.svc sysExit [])) = some m₁ ∧
      DiesAt L cfg m (.trap [] (.svc sysExit [])) t ∧ (kernelSystem L cfg).Path m₁ h m' ∧
        Lineup L cfg next (· = t) m' := by
  obtain ⟨regs, executes⟩ := lineup.executes
  obtain ⟨ok, active⟩ := executes.active lineup.inv
  obtain ⟨m₁, step⟩ : ∃ m₁, m.step L cfg (.trap [] (.svc sysExit [])) = some m₁ := executes.svc _ _
  have inv₁ := (step_cases lineup.inv step).2
  have dies : (TrapFrame.svc sysExit []).Dies := .inr (svc_asks _ _)
  obtain ⟨gone, _⟩ := step_fatal lineup.inv step executes.2 dies (svc_inside _ _)
  have left : m₁.phase = .pick (.returnStep t) ∧ m₁.kernel.current = some t := by
    obtain ⟨⟨u, _, before, after⟩, _⟩ := trap_current lineup.inv step
    obtain rfl := Option.some_inj.mp (before.symm.trans executes.2)
    refine ⟨?_, after⟩
    cases (step_cases lineup.inv step).1 with
    | quiet untrapped => exact absurd rfl (untrapped _ _)
    | back _ _ _ effect =>
        obtain ⟨_, away, _⟩ := effect.of_dies dies
        cases away
    | outside _ _ _ _ outside => exact absurd (svc_inside _ _) outside
    | away _ other =>
        obtain rfl := Option.some_inj.mp (other.current.symm.trans executes.2)
        rfl
  have dead : m₁.kernel.Dead t :=
    ⟨gone, inv₁.stopped (by rw [left.1]; nofun) active.user gone⟩
  have others (s : Slot) (user : s ≠ slotIdle) (other : s ≠ t) :
      m₁.kernel.view.state s = .runnable := by
    have ready := lineup.ready s user not_false
    rcases trap_touched lineup.inv step executes.2 (Ne.symm other) with touched | ⟨_, restarts⟩
    · cases touched with
      | spared spared =>
          rw [← ready]
          exact congrArg (fun th => th.user.state.unscheduled) spared.thread
      | woken _ woken =>
          have blocked := (ok.recorded woken.place).2
          simp [Kernel.view, blocked, TaskState.unscheduled] at ready
    · exact absurd restarts.asks (dies.not_asks (by decide))
  obtain ⟨h, m', path, after⟩ := Lineup.hands_over follows inv₁ left.1 left.2
    (fun s _ same => by
      rw [same]
      simp [Kernel.view, gone, TaskState.unscheduled]) others
  exact ⟨m₁, h, m', step, ⟨executes.2, ⟨_, _, rfl, dies⟩, m₁, step, dead⟩, path, after⟩

def restartCall : TrapFrame := .svc sysTaskRestart [slotTaskB.u32.toUInt64]

theorem Lineup.restarts (lineup : Lineup L cfg slotTaskC (· = slotTaskB) m) :
    ∃ m', m.step L cfg (.trap [] restartCall) = some m' ∧
      RestartReturns L cfg m (.trap [] restartCall) slotTaskC slotTaskB.u32.toUInt64 ∧
        Lineup L cfg slotTaskC (fun _ => False) m' := by
  obtain ⟨regs, executes⟩ := lineup.executes
  obtain ⟨m₁, step⟩ : ∃ m₁, m.step L cfg (.trap [] restartCall) = some m₁ := executes.svc _ _
  have inv₁ := (step_cases lineup.inv step).2
  have dead : (m.kernel.threads slotTaskB).user.state = .dead := by
    have gone := lineup.dead slotTaskB (by decide) rfl
    cases state : (m.kernel.threads slotTaskB).user.state with
    | dead => rfl
    | runnable | running | blocked => simp [Kernel.view, state, TaskState.unscheduled] at gone
  have asks : Asks restartCall sysTaskRestart := svc_asks _ _
  have returns := restart_succeeds lineup.inv executes dead asks rfl []
  obtain ⟨stores, tf, _, rfl⟩ := returns.step lineup.inv step
  refine ⟨_, step, returns, inv₁, ⟨_, rfl, executes.2⟩, fun _ _ off => off.elim, fun s user _ => ?_⟩
  by_cases same : s = slotTaskB
  · simp [same, Kernel.view, Kernel.restartTask, threadRequestResched, Thread.restart, userTaskInit,
      TaskState.unscheduled]
  · rw [← lineup.ready s user same]
    simp [Kernel.view, Kernel.restartTask, threadRequestResched, same, Machine.trapped]

/-- A run in which `task_b` dies and is restarted, `n` times. -/
inductive Cycles (L : Layout) (cfg : Config) : Nat → List (Machine × Action) → Machine → Prop
  | start {h : List (Machine × Action)} {m : Machine} (run : (kernelSystem L cfg).Run h m) :
      Cycles L cfg 0 h m
  | cycle {n : Nat} {h h₁ h₂ : List (Machine × Action)} {m m₁ m₂ m₃ m₄ : Machine} {a b : Action}
      (before : Cycles L cfg n h m) (path : (kernelSystem L cfg).Path m h₁ m₁)
      (dies : DiesAt L cfg m₁ a slotTaskB) (death : m₁.step L cfg a = some m₂)
      (path' : (kernelSystem L cfg).Path m₂ h₂ m₃)
      (returns : RestartReturns L cfg m₃ b slotTaskC slotTaskB.u32.toUInt64)
      (restart : m₃.step L cfg b = some m₄) :
      Cycles L cfg (n + 1) (h ++ h₁ ++ [(m₁, a)] ++ h₂ ++ [(m₃, b)]) m₄

theorem Cycles.run (cycles : Cycles L cfg n h m) : (kernelSystem L cfg).Run h m := by
  induction cycles with
  | start run => exact run
  | cycle _ path _ death path' _ restart ih =>
      exact (((ih.extend path).step death).extend path').step restart

theorem follows_none : Follows (fun _ => False) slotTaskA slotTaskB ∧
    Follows (fun _ => False) slotTaskC slotTaskA :=
  ⟨⟨by decide, not_false, by decide⟩, ⟨by decide, not_false, by decide⟩⟩

theorem follows_dead : Follows (· = slotTaskB) slotTaskB slotTaskC :=
  ⟨by decide, by decide, by decide⟩

theorem Booted.lineup {mem : Memory} (booted : Booted L cfg mem m) : ∃ h m',
    (kernelSystem L cfg).Path m h m' ∧ Lineup L cfg slotTaskA (fun _ => False) m' := by
  have heading : m.heading = some slotTaskA := by
    simp only [Machine.heading, booted.phase]
  obtain ⟨h, m', path, ⟨inv, view⟩, executes⟩ :=
    heading_arrives booted.inv (by decide) heading (by rw [booted.phase]; nofun)
  refine ⟨h, m', path, .of_view inv executes view (fun _ _ off => off.elim) fun s user _ => ?_⟩
  simp only [Kernel.view, booted.users s user]
  rfl

theorem Lineup.cycle (lineup : Lineup L cfg slotTaskA (fun _ => False) m')
    (cycles : Cycles L cfg n h m) (path : (kernelSystem L cfg).Path m h' m') :
    ∃ h' m', Cycles L cfg (n + 1) h' m' ∧ ∃ h'' m'', (kernelSystem L cfg).Path m' h'' m'' ∧
      Lineup L cfg slotTaskA (fun _ => False) m'' := by
  obtain ⟨h₁, m₁, path₁, server⟩ := lineup.yields follows_none.1
  obtain ⟨m₂, h₂, m₃, death, dies, path₂, supervisor⟩ := server.exits follows_dead
  obtain ⟨m₄, restart, returns, revived⟩ := supervisor.restarts
  exact ⟨_, m₄, .cycle cycles (path.trans path₁) dies death path₂ returns restart,
    revived.yields follows_none.2⟩

theorem cycles_exist (run : (kernelSystem L cfg).Run h m) (n : Nat) :
    ∃ h m, Cycles L cfg n h m ∧ ∃ h' m', (kernelSystem L cfg).Path m h' m' ∧
      Lineup L cfg slotTaskA (fun _ => False) m' := by
  induction n with
  | zero =>
      obtain ⟨m₀, mem, booted⟩ := run.started
      exact ⟨[], m₀, .start (.start ⟨mem, booted⟩), (boot_booted booted).lineup⟩
  | succ n ih =>
      obtain ⟨h, m, cycles, h', m', path, lineup⟩ := ih
      exact lineup.cycle cycles path

/-! ## Runs -/

/-- The step from `m`, which a run `h` has led to, to `m₁` makes `task_b` as it was at its start. -/
structure RestartsAfresh (L : Layout) (cfg : Config) (h : List (Machine × Action)) (m m₁ : Machine) :
    Prop where
  endpoints : m₁.kernel.endpoints = m.kernel.endpoints
  others : ∀ s, s ≠ slotTaskB → m₁.kernel.threads s = m.kernel.threads s
  enters : ∀ h' m₂ regs, (kernelSystem L cfg).Path m₁ h' m₂ →
    (∀ p ∈ h', ∀ regs, ¬ p.1.Executes slotTaskB regs) → m₂.Executes slotTaskB regs →
      FirstEntry L m₂ slotTaskB regs
  arrives : ∀ h' m₂ r, (kernelSystem L cfg).Path m₁ h' m₂ → m₂.phase = .switch slotTaskB r →
    (∃ h'' m₃ regs, (kernelSystem L cfg).Path m₂ h'' m₃ ∧ m₃.Executes slotTaskB regs) ∧
      ∀ h'' m₃, (kernelSystem L cfg).Path m₂ h'' m₃ →
        (∀ p ∈ h'', ∀ regs, ¬ p.1.Executes slotTaskB regs) → (h''.countP fun p => p.2.own) ≤ 5
  message : ∀ e d sent, (m.kernel.endpoints e).ownerSlot = slotTaskB.u32 →
    (m.kernel.endpoints e).hasPending = true → Latest (Calls cfg e) h (d, sent) →
      ∀ h' m₂, (kernelSystem L cfg).Path m₁ h' m₂ →
        (∀ p ∈ h', ¬ p.1.Traps (fun k t tf => Receives k t tf e) p.2) →
        (∀ p ∈ h', ¬ DiesAt L cfg p.1 p.2 slotTaskB) →
          (m₂.kernel.endpoints e).hasPending = true ∧ ∀ stores tf regs m₃,
            m₂.Executes slotTaskB regs → Receives (m₂.trapped stores) slotTaskB tf e →
              m₂.step L cfg (.trap stores tf) = some m₃ →
                m₃.phase = .el0 (tf.after (minU64 d.len (tf.x 2))) ∧
                  Arrives (m₂.trapped stores).mem m₃.kernel.mem (tf.x 1) (minU64 d.len (tf.x 2))
                    fun i => sent (d.ptr + .ofNat i)

/-- The first entry after boot, and restarts without end. -/
structure RestartsForever (L : Layout) (cfg : Config) : Prop where
  first : ∀ m₀ h m regs, (kernelSystem L cfg).init m₀ → (kernelSystem L cfg).Path m₀ h m →
    (∀ p ∈ h, ∀ regs, ¬ p.1.Executes slotTaskB regs) → m.Executes slotTaskB regs →
      FirstEntry L m slotTaskB regs
  succeeds : ∀ h m regs stores tf, (kernelSystem L cfg).Run h m → m.Executes slotTaskC regs →
    (m.kernel.threads slotTaskB).user.state = .dead → Asks tf sysTaskRestart →
      tf.x 0 = slotTaskB.u32.toUInt64 →
        RestartReturns L cfg m (.trap stores tf) slotTaskC slotTaskB.u32.toUInt64
  cycles : ∀ n, ∃ h m, (kernelSystem L cfg).Run h m ∧ Cycles L cfg n h m

theorem run_restarts (run : (kernelSystem L cfg).Run h m)
    (returns : RestartReturns L cfg m a slotTaskC slotTaskB.u32.toUInt64)
    (step : m.step L cfg a = some m₁) :
    RestartsAfresh L cfg h m m₁ ∧ RestartsForever L cfg := by
  have inv := run_inv run
  have inv₁ := (step_cases inv step).2
  have current : m.kernel.current = some slotTaskC := by
    obtain ⟨_, _, _, _, current, _⟩ := returns
    exact current
  obtain ⟨stores, tf, ok, rfl⟩ := returns.step inv step
  have absent (regs : UserTaskCtx) :
      ¬ Machine.Executes ⟨(m.trapped stores).restartTask slotTaskB, .el0 (tf.after 0)⟩ slotTaskB regs := by
    intro executes
    cases executes.2.symm.trans current
  refine ⟨⟨rfl, fun s other => ?_, ?_, ?_, ?_⟩, ?_, ?_, fun n => ?_⟩
  · simp [Kernel.restartTask, threadRequestResched, other, Machine.trapped]
  · intro h' m₂ regs path away executes
    exact (restartTask_entering ok (by decide)).enters inv₁ (by decide) absent path away executes
  · intro h' m₂ r path phase
    have inv₂ := run_inv ((run.step step).extend path)
    have heading : m₂.heading = some slotTaskB := by
      simp only [Machine.heading, phase]
    constructor
    · obtain ⟨h'', m₃, path', _, regs, executes⟩ :=
        heading_arrives inv₂ (by decide) heading (by rw [phase]; simp)
      exact ⟨h'', m₃, regs, path', executes⟩
    · intro h'' m₃ path' away
      have bound := path_heading inv₂ (by decide) heading path' away
      simpa [phase, Phase.distance] using bound
  · intro e d sent owner pending called h' m₂ path unreceived lives
    have inv₂ := run_inv ((run.step step).extend path)
    have holds : HoldsMessage (m.kernel.endpoints e) (d, sent) := run_message run pending called
    obtain ⟨pending₂, holds₂⟩ :=
      path_pending_message inv₁ path owner unreceived lives pending holds
    refine ⟨pending₂, fun stores tf regs m₃ executes receives step₂ => ?_⟩
    exact receives_message inv₂ executes receives pending₂ holds₂ step₂
  · rintro m₀ h₀ m' regs ⟨mem, booted⟩ path away executes
    have start := boot_booted booted
    refine (start.entering (by decide)).enters start.inv (by decide) ?_ path away executes
    intro regs here
    cases here.1.symm.trans start.phase
  · exact fun h m regs stores tf run executes dead asks target =>
      restart_succeeds (run_inv run) executes dead asks target stores
  · obtain ⟨h, m, cycles, _⟩ := cycles_exist run n
    exact ⟨h, m, cycles.run, cycles⟩

def callThenRestart : List Action :=
  List.replicate 4 .advance ++ .trap [] (.svc sysYield []) ::
    (List.replicate 5 .advance ++ .trap [] (.svc sysExit []) ::
      (List.replicate 5 .advance ++ .trap [] (.svc sysYield []) ::
        (List.replicate 6 .advance ++ .trap [] callUart :: List.replicate 6 .advance)))

theorem run_restarts_call : ∃ h m m₁, (m.kernel.endpoints epUart).hasPending = true ∧
    m.step .sample .sample (.trap [] restartCall) = some m₁ ∧
      RestartsAfresh .sample .sample h m m₁ ∧ RestartsForever .sample .sample := by
  obtain ⟨m, m₁, k', ran, current, pending, returned, step⟩ : ∃ (m m₁ : Machine) (k' : Kernel),
      runFromBoot .sample .sample callThenRestart = some m ∧
        m.kernel.current = some slotTaskC ∧ (m.kernel.endpoints epUart).hasPending = true ∧
          syscallDispatch .sample .sample (m.kernel.setMem (userStores [] m.kernel.mem)) restartCall
            .el0 = .ok (k', restartCall, 0) ∧
            m.step .sample .sample (.trap [] restartCall) = some m₁ :=
    ⟨_, _, _, rfl, rfl, rfl, rfl, rfl⟩
  obtain ⟨h, run, _⟩ := runFromBoot_run ran
  have asks : Asks restartCall sysTaskRestart := ⟨by decide, rfl⟩
  exact ⟨h, m, m₁, pending, step,
    run_restarts run ⟨[], restartCall, k', rfl, current, asks, rfl, returned⟩ step⟩

end ProtoOs
