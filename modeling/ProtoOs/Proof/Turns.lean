import ProtoOs.Proof.Resumption

namespace ProtoOs

open Transition.System

variable {L : Layout} {cfg : Config} {k k₁ : Kernel} {m m' m₁ : Machine} {s t : Slot} {a : Action}
  {tf : TrapFrame} {o : Outcome} {regs : UserTaskCtx} {idlers : Slot → Prop}
  {stores : List (SandboxAddress × UInt8)} {h : List (Machine × Action)}

/-! ## The view -/

def TaskState.unscheduled : TaskState → TaskState
  | .running => .runnable
  | state => state

/-- An endpoint without the bytes of `pending_msg` outside the message, and without its history. -/
def Endpoint.visible (ep : Endpoint) : Endpoint :=
  { ep with
    pendingMsg := fun i => if ep.hasPending ∧ i < ep.pendingLen.toNat then ep.pendingMsg i else 0
    pendingReq := none, callerReq := none }

/-- The kernel without the fields of the scheduler: `g_current`, `g_current_task`, the tick counters,
`g_resched_pending`, and of each thread its state, its quantum, its kernel context and its return
reason. The saved contexts are part of `Machine.registers`. -/
@[ext] structure View where
  mem : Memory
  endpoints : EpId → Endpoint
  pendingDeathSlot : Int32
  blockedSupervisorSlot : Int32
  state : Slot → TaskState

def Kernel.view (k : Kernel) : View where
  mem := k.mem
  endpoints e := (k.endpoints e).visible
  pendingDeathSlot := k.pendingDeathSlot
  blockedSupervisorSlot := k.blockedSupervisorSlot
  state s := (k.threads s).user.state.unscheduled

theorem SameUsers.unscheduled {k' : Kernel} (users : SameUsers k k') (s : Slot) :
    (k'.threads s).user.state.unscheduled = (k.threads s).user.state.unscheduled := by
  rcases users.state s with same | ⟨ready, running⟩
  · rw [same]
  · rw [ready, running]
    rfl

theorem Active.unscheduled (active : Active k t) : k.view.state t = .runnable := by
  simp [Kernel.view, active.running, TaskState.unscheduled]

/-! ## A trap -/

theorem Machine.Executes.registers (executes : m.Executes t regs) : m.registers t = regs :=
  Machine.registers_el0 executes.1 executes.2

theorem Machine.Executes.registers_other (executes : m.Executes t regs) (other : s ≠ t) :
    m.registers s = (m.kernel.threads s).user.ctx :=
  Machine.registers_saved fun _ _ here =>
    other (Option.some_inj.mp (here.symm.trans executes.2))

/-- The effect of a trap, and where it leads. -/
structure Trapped (cfg : Config) (k : Kernel) (t : Slot) (tf : TrapFrame) (m' : Machine)
    (k₁ : Kernel) (o : Outcome) : Prop where
  effect : Effect cfg k t tf k₁ o
  back : ∀ x0, o = .back x0 → m' = ⟨k₁, .el0 (tf.after x0)⟩
  block : o = .away .ipcBlock → InSandbox tf.elr →
    m' = ⟨k₁.leaveBlocked t tf, .pick (.returnStep t)⟩
  yield : o = .away .yield → InSandbox tf.elr →
    m' = ⟨((k₁.saveFrame t tf .yield).markTask t .runnable .runnable).setResched false,
      .pick (.returnStep t)⟩
  outside : ∀ reason, o = .away reason → ¬ InSandbox tf.elr →
    m' = ⟨k₁, .panic .trapElrOutsideSandbox⟩

theorem Machine.Executes.step (executes : m.Executes t regs) (inv : Inv L cfg m)
    (step : m.step L cfg (.trap stores tf) = some m') :
    ∃ k₁ o, Trapped cfg (m.trapped stores) t tf m' k₁ o := by
  cases (step_cases inv step).1 with
  | quiet untrapped => exact absurd rfl (untrapped stores tf)
  | @back _ _ u _ k₁ x0 _ active _ effect =>
      obtain rfl := Option.some_inj.mp (active.current.symm.trans executes.2)
      refine ⟨k₁, .back x0, effect, ?_, by nofun, by nofun, by nofun⟩
      rintro _ ⟨⟩
      rfl
  | @away _ _ u _ k₁ k₂ reason _ active _ effect inside left =>
      obtain rfl := Option.some_inj.mp (active.current.symm.trans executes.2)
      refine ⟨k₁, .away reason, effect, by nofun, ?_, ?_, fun _ _ out => absurd inside out⟩
      · rintro ⟨⟩ _
        rw [left.blocked (.inl rfl)]
        rfl
      · rintro ⟨⟩ _
        rw [left.lives (by simp), if_pos rfl]
  | @outside _ _ u _ k₁ reason _ active _ effect out =>
      obtain rfl := Option.some_inj.mp (active.current.symm.trans executes.2)
      exact ⟨k₁, .away reason, effect, by nofun, fun _ inside => absurd inside out,
        fun _ inside => absurd inside out, fun _ _ _ => rfl⟩

theorem panic_stuck {p : Panic} (panics : m.phase = .panic p) : m.step L cfg a = none := by
  cases a with
  | trap => simp [Machine.step, panics]
  | tick => simp [Machine.step, panics, Phase.irqEnabled]
  | advance => simp [Machine.step, advance, panics]

/-! ## The scheduler -/

/-- A step of the scheduler, or a yield of one of the tasks `idlers`. -/
inductive Schedules (idlers : Slot → Prop) (m : Machine) : Action → Prop
  | tick : Schedules idlers m .tick
  | advance : Schedules idlers m .advance
  | yield {s : Slot} {tf : TrapFrame} (current : m.kernel.current = some s) (idles : idlers s)
      (asks : Asks tf sysYield) : Schedules idlers m (.trap [] tf)

/-- What the scheduler keeps: the view, and the registers of the tasks that do not yield. -/
structure Scheduled (idlers : Slot → Prop) (m m' : Machine) : Prop where
  view : m'.kernel.view = m.kernel.view
  registers : ∀ s, ¬ idlers s ∨ m.kernel.view.state s = .blocked → m'.registers s = m.registers s

theorem Scheduled.refl : Scheduled idlers m m := ⟨rfl, fun _ _ => rfl⟩

theorem Scheduled.trans (first : Scheduled idlers m m₁) (second : Scheduled idlers m₁ m') :
    Scheduled idlers m m' := by
  refine ⟨second.view.trans first.view, fun s stays => ?_⟩
  rw [second.registers s (by rwa [first.view]), first.registers s stays]

theorem quiet_scheduled (inv : Inv L cfg m) (untrapped : ∀ stores tf, a ≠ .trap stores tf)
    (step : m.step L cfg a = some m') : Scheduled idlers m m' := by
  have moves := quiet_moves inv untrapped step
  cases (step_cases inv step).1 with
  | back | away | outside => exact absurd rfl (untrapped _ _)
  | quiet _ quiet =>
      refine ⟨?_, fun s _ => quiet_registers moves (quiet_masked untrapped step)⟩
      apply View.ext
      · exact quiet.mem
      · funext e
        simp only [Kernel.view, quiet.endpoints]
      · exact quiet.pendingDeath
      · exact quiet.supervisor
      · funext s
        exact moves.users.unscheduled s

theorem yield_scheduled (inv : Inv L cfg m) (executes : m.Executes t regs) (idles : idlers t)
    (asks : Asks tf sysYield) (step : m.step L cfg (.trap [] tf) = some m') :
    Scheduled idlers m m' := by
  obtain ⟨_, active⟩ := executes.active inv
  have ready := active.unscheduled
  have others {s : Slot} (stays : ¬ idlers s ∨ m.kernel.view.state s = .blocked) : s ≠ t := by
    rintro rfl
    rcases stays with awake | blocked
    · exact awake idles
    · cases ready.symm.trans blocked
  obtain ⟨k₁, o, trapped⟩ := executes.step inv step
  obtain ⟨rfl, rfl⟩ := trapped.effect.of_yield asks
  by_cases inside : InSandbox tf.elr
  · rw [trapped.yield rfl inside]
    refine ⟨?_, fun s stays => ?_⟩
    · apply View.ext
      · rfl
      · rfl
      · rfl
      · rfl
      · funext s
        by_cases same : s = t
        · subst same
          rw [ready]
          simp [Kernel.view, TaskState.unscheduled]
        · simp [Kernel.view, same, Machine.trapped]
    · rw [executes.registers_other (others stays), Machine.registers_saved (by nofun)]
      simp [others stays, Machine.trapped]
  · rw [trapped.outside .yield rfl inside]
    refine ⟨rfl, fun s stays => ?_⟩
    rw [executes.registers_other (others stays), Machine.registers_saved (by nofun)]
    rfl

theorem step_scheduled (inv : Inv L cfg m) (schedules : Schedules idlers m a)
    (step : m.step L cfg a = some m') : Scheduled idlers m m' := by
  cases schedules with
  | tick => exact quiet_scheduled inv (by nofun) step
  | advance => exact quiet_scheduled inv (by nofun) step
  | yield current idles asks =>
      obtain ⟨regs, phase, _⟩ := Machine.step_trap step
      exact yield_scheduled inv ⟨phase, current⟩ idles asks step

theorem path_scheduled (inv : Inv L cfg m) (path : (kernelSystem L cfg).Path m h m')
    (schedules : ∀ p ∈ h, Schedules idlers p.1 p.2) : Inv L cfg m' ∧ Scheduled idlers m m' := by
  induction path with
  | refl => exact ⟨inv, .refl⟩
  | @step h m₁ a m' _ taken ih =>
      obtain ⟨inv₁, before⟩ := ih fun p member => schedules p (List.mem_append_left _ member)
      have after := step_scheduled inv₁ (schedules (m₁, a) (by simp)) taken
      exact ⟨(step_cases inv₁ taken).2, before.trans after⟩

/-- The next registers with which `t` executes, whoever executes before it. -/
def Machine.Resumes (L : Layout) (cfg : Config) (m : Machine) (t : Slot) (regs : UserTaskCtx) :
    Prop :=
  ∀ h m' regs', (kernelSystem L cfg).Path m h m' → (∀ p ∈ h, Schedules (· ≠ t) p.1 p.2) →
    m'.Executes t regs' → regs' = regs

theorem resumes_registers (inv : Inv L cfg m) (t : Slot) : m.Resumes L cfg t (m.registers t) := by
  intro h m' regs path schedules executes
  obtain ⟨_, scheduled⟩ := path_scheduled inv path schedules
  rw [← executes.registers]
  exact scheduled.registers t (.inl fun other => other rfl)

theorem schedules_replay {as : List Action} (inv : Inv L cfg m)
    (ran : replay (Machine.step L cfg) m as = some m')
    (idle : ∀ a ∈ as, a = .advance ∨ ∃ tf, a = .trap [] tf ∧ Asks tf sysYield) :
    ∃ h, (kernelSystem L cfg).Path m h m' ∧ ∀ p ∈ h, Schedules (fun _ => True) p.1 p.2 := by
  induction as generalizing m with
  | nil =>
      cases ran
      exact ⟨[], .refl, fun p member => absurd member List.not_mem_nil⟩
  | cons a as ih =>
      obtain ⟨m₁, step, rest⟩ := Option.bind_eq_some_iff.mp ran
      obtain ⟨h, path, schedules⟩ := ih (step_cases inv step).2 rest
        fun b member => idle b (List.mem_cons_of_mem _ member)
      refine ⟨(m, a) :: h, .cons step path, fun p member => ?_⟩
      rcases List.mem_cons.mp member with rfl | later
      · rcases idle a List.mem_cons_self with rfl | ⟨tf, rfl, asks⟩
        · exact .advance
        · obtain ⟨_, phase, _⟩ := Machine.step_trap step
          obtain ⟨_, t, active⟩ := inv.active phase
          exact .yield active.current trivial asks
      · exact schedules p later

/-! ## Turns -/

/-- The scheduler hands the processor to the task `t`, which traps. -/
inductive Turn (L : Layout) (cfg : Config) (idlers : Slot → Prop) (m : Machine) (t : Slot)
    (tf : TrapFrame) (m' : Machine) : Prop
  | mk {h : List (Machine × Action)} {m₁ : Machine} {regs : UserTaskCtx}
      (path : (kernelSystem L cfg).Path m h m₁) (schedules : ∀ p ∈ h, Schedules idlers p.1 p.2)
      (executes : m₁.Executes t regs) (step : m₁.step L cfg (.trap [] tf) = some m')

theorem Turn.of_replay {as : List Action} (inv : Inv L cfg m)
    (ran : replay (Machine.step L cfg) m as = some m₁)
    (idle : ∀ a ∈ as, a = .advance ∨ ∃ tf, a = .trap [] tf ∧ Asks tf sysYield)
    (current : m₁.kernel.current = some t) (step : m₁.step L cfg (.trap [] tf) = some m') :
    Turn L cfg (fun _ => True) m t tf m' := by
  obtain ⟨h, path, schedules⟩ := schedules_replay inv ran idle
  obtain ⟨_, phase, _⟩ := Machine.step_trap step
  exact .mk path schedules ⟨phase, current⟩ step

structure Turned (L : Layout) (cfg : Config) (idlers : Slot → Prop) (m : Machine) (t : Slot)
    (tf : TrapFrame) (m' : Machine) (k k₁ : Kernel) (o : Outcome) : Prop where
  inv : Inv L cfg m'
  ok : KernelOk L cfg k none
  active : Active k t
  trapped : Trapped cfg k t tf m' k₁ o
  view : k.view = m.kernel.view
  saved : ∀ s, s ≠ t → ¬ idlers s ∨ m.kernel.view.state s = .blocked →
    (k.threads s).user.ctx = m.registers s

theorem Turn.turned (turn : Turn L cfg idlers m t tf m') (inv : Inv L cfg m) :
    ∃ k k₁ o, Turned L cfg idlers m t tf m' k k₁ o := by
  cases turn with
  | @mk _ m₁ _ path schedules executes step =>
      obtain ⟨inv₁, scheduled⟩ := path_scheduled inv path schedules
      obtain ⟨ok, active⟩ := executes.trapped inv₁ []
      obtain ⟨k₁, o, trapped⟩ := executes.step inv₁ step
      refine ⟨_, k₁, o, (step_cases inv₁ step).2, ok, active, trapped, scheduled.view, ?_⟩
      intro s other stays
      rw [← scheduled.registers s stays, executes.registers_other other]
      rfl

theorem Turn.keeps (turn : Turn L cfg idlers m t tf m') (inv : Inv L cfg m) : Inv L cfg m' := by
  obtain ⟨_, _, _, turned⟩ := turn.turned inv
  exact turned.inv

theorem Turn.calm (turn : Turn L cfg idlers m t tf m') (p : Panic) : m.phase ≠ .panic p := by
  intro panics
  cases turn with
  | mk path _ executes =>
      have stays (m : Machine) (a : Action) (m' : Machine) (here : m.phase = .panic p)
          (step : m.step L cfg a = some m') : m'.phase = .panic p := by
        cases (panic_stuck here).symm.trans step
      cases (path.keeps panics stays).symm.trans executes.1

end ProtoOs
