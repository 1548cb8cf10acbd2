import ProtoOs.Proof.Tasks
import ProtoOs.Lib.Progress

namespace ProtoOs

open Transition.System

variable {L : Layout} {cfg : Config} {k : Kernel} {m m' : Machine} {t s : Slot} {a : Action}
  {tf : TrapFrame} {slot : UInt64} {h : List (Machine × Action)}

structure Kernel.Dead (k : Kernel) (s : Slot) : Prop where
  task : (k.threads s).user.state = .dead
  thread : (k.threads s).state = .stopped

/-- The task is as its death left it in `k`, and control neither is at it nor comes to it. -/
structure Rests (k : Kernel) (s : Slot) (m : Machine) : Prop where
  dead : m.kernel.Dead s
  ctx : (m.kernel.threads s).user.ctx = (k.threads s).user.ctx
  unpicked : pickNextThread m.kernel ≠ .ok s
  unswitched : ∀ r, m.phase ≠ .switch s r
  silent : ∀ regs, m.phase = .el0 regs → m.kernel.current ≠ some s

def RestartReturns (L : Layout) (cfg : Config) (m : Machine) (a : Action) (t : Slot)
    (slot : UInt64) : Prop :=
  ∃ stores tf k', a = .trap stores tf ∧ m.kernel.current = some t ∧ Asks tf sysTaskRestart ∧
    tf.x 0 = slot ∧ syscallDispatch L cfg (m.kernel.setMem (userStores stores m.kernel.mem)) tf .el0 =
      .ok (k', tf, 0)

def DiesAt (L : Layout) (cfg : Config) (m : Machine) (a : Action) (s : Slot) : Prop :=
  m.kernel.current = some s ∧ (∃ stores tf, a = .trap stores tf ∧ tf.Dies) ∧
    ∃ m', m.step L cfg a = some m' ∧ m'.kernel.Dead s

/-! ## Rest -/

theorem pickNextThread_sound {next : Slot} (picked : pickNextThread k = .ok next) :
    threadIsSelectable k (some next) := by
  unfold pickNextThread at picked
  simp only at picked
  split at picked
  · rename_i found
    obtain ⟨i, _, here⟩ := List.exists_of_findSome?_eq_some found
    split_ifs at here with skip choice
    cases here
    cases picked
    exact choice.2
  · split_ifs at picked with self idle
    · cases picked
      exact self.1
    · cases picked
      exact idle
  · split_ifs at picked with idle
    cases picked
    exact idle

theorem Kernel.Dead.unselectable (dead : k.Dead s) : ¬ threadIsSelectable k (some s) := by
  simp [threadIsSelectable, dead.thread]

theorem Inv.rests (inv : Inv L cfg m) (dead : m.kernel.Dead s)
    (ctx : (m.kernel.threads s).user.ctx = (k.threads s).user.ctx) : Rests k s m where
  dead := dead
  ctx := ctx
  unpicked picked := dead.unselectable (pickNextThread_sound picked)
  unswitched r switches := by
    cases inv with
    | halted => cases switches
    | running _ phaseOk =>
        cases switches
        cases phaseOk with
        | switchFirst _ _ selectable | switch _ selectable => exact dead.unselectable selectable
  silent regs el0 current := by
    obtain ⟨_, t, active⟩ := inv.active el0
    obtain rfl := Option.some_inj.mp (active.current.symm.trans current)
    have running := active.running
    rw [dead.task] at running
    cases running

/-! ## The restart -/

theorem restart_returns (inv : Inv L cfg m) (step : m.step L cfg a = some m')
    (returns : RestartReturns L cfg m a t slot) : t = slotTaskC ∧
      slot = slotTaskB.u32.toUInt64 ∧ m.kernel.Dead slotTaskB ∧ ¬ m'.kernel.Dead slotTaskB := by
  obtain ⟨stores, tf, k', rfl, current, asks, rfl, returned⟩ := returns
  obtain ⟨regs, phase, mode, rfl⟩ := Machine.step_trap step
  obtain ⟨ok, u, active⟩ := inv.active phase
  obtain rfl := Option.some_inj.mp (active.current.symm.trans current)
  have okStored := ok.setMem (userStores stores m.kernel.mem)
  have stored : Active (m.kernel.setMem (userStores stores m.kernel.mem)) u := active.congr rfl rfl rfl
  obtain ⟨k₁, o, effect, result⟩ : Explained L cfg _ _ tf _ :=
    syscallDispatch_explained (stored.ready okStored) (stored.awake okStored) asks.svc
  have machine : takeTrap L cfg (m.kernel.setMem (userStores stores m.kernel.mem)) tf =
      ⟨k', .el0 (tf.after 0)⟩ := by
    simp only [takeTrap, exceptionSyncEl0, asks.svc, if_true, returned]
    exact eret_back mode 0
  rw [returned] at result
  cases effect.of_restart asks with
  | refused => cases result
  | restart supervisor target restartable =>
      cases result
      refine ⟨supervisor, target, ⟨restartable.dead, restartable.stopped⟩, fun dead => ?_⟩
      have task := dead.task
      rw [machine] at task
      simp [Kernel.restartTask, threadRequestResched, Thread.restart, userTaskInit] at task

theorem RestartCall.returns {stores : List (SandboxAddress × UInt8)} {k' : Kernel} (inv : Inv L cfg m)
    {regs : UserTaskCtx} (phase : m.phase = .el0 regs) (current : m.kernel.current = some slotTaskC)
    (call : RestartCall (m.kernel.setMem (userStores stores m.kernel.mem)) slotTaskC tf k' (.back 0)) :
    RestartReturns L cfg m (.trap stores tf) slotTaskC slotTaskB.u32.toUInt64 := by
  obtain ⟨ok, t, active⟩ := inv.active phase
  obtain rfl := Option.some_inj.mp (active.current.symm.trans current)
  have okStored := ok.setMem (userStores stores m.kernel.mem)
  have stored : Active (m.kernel.setMem (userStores stores m.kernel.mem)) slotTaskC :=
    active.congr rfl rfl rfl
  obtain ⟨k₁, o, effect, result⟩ : Explained L cfg _ _ tf _ :=
    syscallDispatch_explained (stored.ready okStored) (stored.awake okStored) call.asks.svc
  refine ⟨stores, tf, k₁, rfl, current, call.asks, call.target, ?_⟩
  cases effect.of_restart call.asks with
  | refused no => exact absurd call.restartable (no rfl call.target)
  | restart => exact result

theorem step_dead (inv : Inv L cfg m) (user : s ≠ slotIdle) (dead : m.kernel.Dead s)
    (step : m.step L cfg a = some m') :
    m'.kernel.Dead s ∧ (m'.kernel.threads s).user.ctx = (m.kernel.threads s).user.ctx ∨
      s = slotTaskB ∧ RestartReturns L cfg m a slotTaskC slotTaskB.u32.toUInt64 := by
  have silent := (inv.rests dead rfl).silent
  have ok := inv.kernelOk (Machine.step_calm step)
  cases step_task inv step user silent with
  | kept kept =>
      refine .inl ⟨⟨kept.dead.mpr dead.task, ?_⟩, kept.ctx⟩
      rw [kept.stopped dead.task, dead.thread]
  | woken _ _ _ woken =>
      have blocked := (ok.recorded woken.place).2
      rw [dead.task] at blocked
      cases blocked
  | restarted here trap current call =>
      subst trap
      obtain ⟨regs, phase, _⟩ := Machine.step_trap step
      exact .inr ⟨here, call.returns inv phase current⟩

theorem Inv.dies_cases {regs : UserTaskCtx} (inv : Inv L cfg m) (phase : m.phase = .el0 regs)
    (current : m.kernel.current = some s) (step : m.step L cfg a = some m') (dead : m'.kernel.Dead s) :
    ∃ stores tf, a = .trap stores tf ∧ tf.Dies ∧ ∃ k₁ k₂ reason,
      Effect cfg (m.kernel.setMem (userStores stores m.kernel.mem)) s tf k₁ (.away reason) ∧
        (reason = .exit ∨ reason = .fault) ∧ InSandbox tf.elr ∧
          Left (k₁.saveFrame s tf reason) s reason k₂ ∧
            m' = ⟨k₂.setResched false, .pick (.returnStep s)⟩ := by
  obtain ⟨ok, t, active⟩ := inv.active phase
  have running {k₁ : Kernel} {o : Outcome} {stores : List (SandboxAddress × UInt8)}
      {tf : TrapFrame} {u : Slot} (trapped : Active m.kernel u)
      (effect : Effect cfg (m.kernel.setMem (userStores stores m.kernel.mem)) u tf k₁ o) :
      ¬ k₁.Dead s := by
    obtain rfl := Option.some_inj.mp (trapped.current.symm.trans current)
    intro dead
    have stored : Active (m.kernel.setMem (userStores stores m.kernel.mem)) u :=
      trapped.congr rfl rfl rfl
    have after := (effect.keeps (ok.setMem _) stored).2.running
    rw [dead.task] at after
    cases after
  cases (step_cases inv step).1 with
  | quiet untrapped => exact absurd phase (quiet_masked untrapped step regs)
  | back _ trapped _ effect => exact absurd dead (running trapped effect)
  | outside _ trapped _ effect => exact absurd dead (running trapped effect)
  | @away stores tf u _ k₁ k₂ reason _ trapped _ effect inside left =>
      obtain rfl := Option.some_inj.mp (trapped.current.symm.trans current)
      have task := dead.task
      cases left with
      | yield => simp at task
      | block => simp at task
      | death dies handled notified aborts settled noted =>
          exact ⟨stores, tf, rfl, effect.dies dies, k₁, k₂, reason, effect, dies, inside,
            .death dies handled notified aborts settled noted, rfl⟩

theorem step_dies (inv : Inv L cfg m) (user : s ≠ slotIdle) (alive : ¬ m.kernel.Dead s)
    (step : m.step L cfg a = some m') (dead : m'.kernel.Dead s) : DiesAt L cfg m a s := by
  have living : (m.kernel.threads s).user.state ≠ .dead := fun gone =>
    alive ⟨gone, inv.stopped (Machine.step_calm step) user gone⟩
  by_cases away : ∀ regs, m.phase = .el0 regs → m.kernel.current ≠ some s
  · exfalso
    cases step_task inv step user away with
    | kept kept => exact living (kept.dead.mp dead.task)
    | woken _ _ _ woken =>
        have ready := dead.task
        rw [woken.thread] at ready
        cases ready
    | restarted here _ _ call =>
        have ready := dead.task
        subst here
        rw [call.kernel] at ready
        simp [Kernel.restartTask, threadRequestResched, Thread.restart, userTaskInit] at ready
  · simp only [not_forall, not_not] at away
    obtain ⟨regs, phase, current⟩ := away
    obtain ⟨stores, tf, trap, dies, _⟩ := inv.dies_cases phase current step dead
    exact ⟨current, ⟨stores, tf, trap, dies⟩, m', step, dead⟩

/-! ## Runs -/

theorem path_rests (inv : Inv L cfg m) (user : s ≠ slotIdle) (dead : m.kernel.Dead s)
    (path : (kernelSystem L cfg).Path m h m')
    (unrestarted : ∀ p ∈ h, s = slotTaskB →
      ¬ RestartReturns L cfg p.1 p.2 slotTaskC slotTaskB.u32.toUInt64) :
    Inv L cfg m' ∧ Rests m.kernel s m' := by
  induction path with
  | refl => exact ⟨inv, inv.rests dead rfl⟩
  | @step h m' a m'' _ taken ih =>
      obtain ⟨inv', rests⟩ := ih fun p member => unrestarted p (List.mem_append_left _ member)
      have inv'' := (step_cases inv' taken).2
      rcases step_dead inv' user rests.dead taken with ⟨dead', ctx⟩ | ⟨here, returns⟩
      · exact ⟨inv'', inv''.rests dead' (ctx.trans rests.ctx)⟩
      · exact absurd returns (unrestarted (m', a) (by simp) here)

theorem run_dead_until_restart (run : (kernelSystem L cfg).Run h m) :
    (∀ s h' m', s ≠ slotIdle → m.kernel.Dead s → (kernelSystem L cfg).Path m h' m' →
      (∀ p ∈ h', s = slotTaskB →
        ¬ RestartReturns L cfg p.1 p.2 slotTaskC slotTaskB.u32.toUInt64) → Rests m.kernel s m') ∧
    (∀ a m' t slot, m.step L cfg a = some m' → RestartReturns L cfg m a t slot →
      t = slotTaskC ∧ slot = slotTaskB.u32.toUInt64 ∧ m.kernel.Dead slotTaskB) ∧
    ∀ a m₁ h' m₂ a₂ m₃ t slot t₂ slot₂, m.step L cfg a = some m₁ →
      RestartReturns L cfg m a t slot → (kernelSystem L cfg).Path m₁ h' m₂ →
        m₂.step L cfg a₂ = some m₃ → RestartReturns L cfg m₂ a₂ t₂ slot₂ →
          ∃ p ∈ h', DiesAt L cfg p.1 p.2 slotTaskB := by
  have inv := run_inv run
  refine ⟨fun s h' m' user dead path unrestarted => ?_, fun a m' t slot step returns => ?_, ?_⟩
  · exact (path_rests inv user dead path unrestarted).2
  · obtain ⟨supervisor, target, dead, _⟩ := restart_returns inv step returns
    exact ⟨supervisor, target, dead⟩
  · intro a m₁ h' m₂ a₂ m₃ t slot t₂ slot₂ step returns path step₂ returns₂
    obtain ⟨_, _, _, alive⟩ := restart_returns inv step returns
    have inv₂ := run_inv ((run.step step).extend path)
    obtain ⟨_, _, dead, _⟩ := restart_returns inv₂ step₂ returns₂
    obtain ⟨p, member, ⟨h₁, path₁⟩, living, q, died, dead⟩ :=
      path.enters (P := fun m => m.kernel.Dead slotTaskB) alive dead
    have inv₁ := run_inv ((run.step step).extend path₁)
    exact ⟨p, member, step_dies inv₁ (by decide) living died dead⟩

theorem run_dead_until_restart_exit : ∃ m m' m'' : Machine,
    m.step .sample .sample .advance = some m' ∧ m'.step .sample .sample .advance = some m'' ∧
      Rests m.kernel slotTaskA m'' := by
  obtain ⟨m, m', m'', ran, dead, stopped, first, second⟩ : ∃ m m' m'' : Machine,
      runFromBoot .sample .sample (List.replicate 4 .advance ++ [.trap [] (.svc sysExit [])]) = some m ∧
        (m.kernel.threads slotTaskA).user.state = .dead ∧
          (m.kernel.threads slotTaskA).state = .stopped ∧
            m.step .sample .sample .advance = some m' ∧
              m'.step .sample .sample .advance = some m'' := ⟨_, _, _, rfl, rfl, rfl, rfl, rfl⟩
  obtain ⟨h, run, _⟩ := runFromBoot_run ran
  exact ⟨m, m', m'', first, second, (run_dead_until_restart run).1 slotTaskA _ m'' (by decide)
    ⟨dead, stopped⟩ (.step (.step .refl first) second) fun _ _ other => absurd other (by decide)⟩

end ProtoOs
