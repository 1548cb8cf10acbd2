import ProtoOs.Proof.Decisions
import ProtoOs.Proof.Switching

namespace ProtoOs

open Aarch64 Transition Transition.System

variable {contexts : ThreadContexts} {code : Resume → UInt64} {L : Layout} {cfg : Config} {k k₁ k₂ : Kernel} {m m' : Machine} {s t : Slot} {e : EpId}
  {d : Send} {tf : TrapFrame} {o : Outcome} {a : Action} {reason : TaskReturnReason}

/-! ## What a trap leaves to the scheduler -/

/-- Of the threads, only the tasks and the states change. -/
def OnlyTasks (k k₁ : Kernel) : Prop :=
  ∀ s, ∃ state user, k₁.threads s = { k.threads s with state := state, user := user }

theorem OnlyTasks.of_eq (same : k₁.threads = k.threads) : OnlyTasks k k₁ := by
  intro s
  exact ⟨_, _, congrFun same s⟩

theorem OnlyTasks.trans (first : OnlyTasks k k₁) (second : OnlyTasks k₁ k₂) : OnlyTasks k k₂ := by
  intro s
  obtain ⟨_, _, before⟩ := first s
  obtain ⟨state, user, after⟩ := second s
  exact ⟨state, user, by rw [after, before]⟩

theorem OnlyTasks.update {th : Thread} (threads : k₁.threads = Function.update k.threads s th)
    (kept : ∃ state user, th = { k.threads s with state := state, user := user }) :
    OnlyTasks k k₁ := by
  intro u
  rw [threads]
  by_cases same : u = s
  · subst same
    rw [Function.update_self]
    exact kept
  · rw [Function.update_of_ne same]
    exact ⟨_, _, rfl⟩

theorem Effect.onlyTasks (effect : Effect cfg k t tf k₁ o) : OnlyTasks k k₁ := by
  cases effect with
  | refused | ticks | write | yield | exit | fault | park | take | listen | report | await =>
      exact .of_eq rfl
  | handOver | answer => exact .update rfl ⟨_, _, rfl⟩
  | restart => exact .update rfl ⟨_, _, rfl⟩

theorem Aborts.onlyTasks (aborts : Aborts t k k₁) : OnlyTasks k k₁ := by
  induction aborts with
  | refl => exact .of_eq rfl
  | abort _ _ _ _ ih => exact ih.trans (.update rfl ⟨_, _, rfl⟩)

theorem Noted.onlyTasks (noted : Noted t k k₁) : OnlyTasks k k₁ := by
  cases noted with
  | woke => exact .update rfl ⟨_, _, rfl⟩
  | kept | overwrote => exact .of_eq rfl

theorem Left.onlyTasks (left : Left k t reason k₁) : OnlyTasks k k₁ := by
  cases left with
  | yield | block => exact .update rfl ⟨_, _, rfl⟩
  | death _ _ _ aborts _ noted =>
      have dying : OnlyTasks k ((k.emit (exitPrint k t reason)).dying t) := .update rfl ⟨_, _, rfl⟩
      exact (dying.trans aborts.onlyTasks).trans noted.onlyTasks

theorem trap_onlyTasks {stores : List (SandboxAddress × UInt8)} (inv : Inv L cfg m)
    (step : m.step L cfg (.trap stores tf) = some m') : OnlyTasks m.kernel m'.kernel := by
  have stored : OnlyTasks m.kernel (m.kernel.setMem (userStores stores m.kernel.mem)) := .of_eq rfl
  cases (step_cases inv step).1 with
  | quiet untrapped => exact absurd rfl (untrapped stores tf)
  | back _ _ _ effect => exact stored.trans effect.onlyTasks
  | @away _ _ t _ k₁ k₂ reason _ _ _ effect _ left =>
      have frame : OnlyTasks k₁ (k₁.saveFrame t tf reason) := .update rfl ⟨_, _, rfl⟩
      have resched : OnlyTasks k₂ (k₂.setResched false) := .of_eq rfl
      exact ((stored.trans effect.onlyTasks).trans frame).trans (left.onlyTasks.trans resched)
  | outside _ _ _ effect => exact stored.trans effect.onlyTasks

theorem threadSwitchToMark_onlyTasks {next : Slot} : OnlyTasks k (threadSwitchToMark k next) := by
  intro s
  rw [threadSwitchToMark_threads]
  split_ifs
  · exact ⟨_, _, rfl⟩
  · exact ⟨_, _, rfl⟩
  · exact ⟨_, _, rfl⟩

theorem threadEntryUserTask_keeps {arg : Option Slot}
    (entered : threadEntryUserTask k arg = .ok (k₁, t)) :
    OnlyTasks k k₁ ∧ k₁.current = k.current := by
  cases arg with
  | none => cases entered
  | some u =>
      simp only [threadEntryUserTask] at entered
      split_ifs at entered
      cases entered
      have started : OnlyTasks k (k.modifyThread t fun th =>
          { th with user := { th.user with started := true } }) := .update rfl ⟨_, _, rfl⟩
      exact ⟨started.trans (.update rfl ⟨_, _, rfl⟩), rfl⟩

theorem userTaskReturnTail_keeps (returned : userTaskReturnTail k t = .ok k₁) :
    OnlyTasks k k₁ ∧ k₁.current = k.current := by
  simp only [userTaskReturnTail] at returned
  split_ifs at returned
  cases returned
  exact ⟨.update rfl ⟨_, _, rfl⟩, rfl⟩

theorem resumeAt_onlyTasks {at_ : Resume} (step : resumeAt k at_ = some m') :
    OnlyTasks k m'.kernel := by
  cases at_ with
  | null | boot => cases step
  | idleLoop =>
      cases step
      exact .of_eq rfl
  | bootstrap entry arg =>
      cases entry with
      | idle =>
          cases step
          exact .of_eq rfl
      | userTask =>
          simp only [resumeAt] at step
          split at step
          · cases step
            exact .of_eq rfl
          · rename_i k₁ t entered
            cases step
            exact (threadEntryUserTask_keeps entered).1
  | returnStep t =>
      simp only [resumeAt] at step
      split at step
      · cases step
        exact .of_eq rfl
      · rename_i k₁ returned
        cases step
        exact (userTaskReturnTail_keeps returned).1

theorem advance_onlyTasks (step : advance L m = some m')
    (elsewhere : ∀ prev next caller, m.phase ≠ .enter prev next caller) :
    OnlyTasks m.kernel m'.kernel := by
  obtain ⟨k, phase⟩ := m
  cases phase with
  | el0 | panic => cases step
  | pick caller =>
      simp only [advance] at step
      split at step
      · cases step
        exact .of_eq rfl
      · cases step
        exact .of_eq rfl
  | switch next caller =>
      simp only [advance] at step
      split_ifs at step with same
      · cases step
        exact .of_eq rfl
      · cases step
        exact threadSwitchToMark_onlyTasks
  | enter prev next caller => exact absurd rfl (elsewhere prev next caller)
  | cont at_ => exact resumeAt_onlyTasks step
  | currentCtx =>
      simp only [advance] at step
      split at step
      · cases step
        exact .of_eq rfl
      · cases step
        exact .of_eq rfl
  | resume t =>
      cases step
      exact .of_eq rfl
  | wfi =>
      cases step
      unfold threadReschedPoint threadReschedTake
      cases k.reschedPending with
      | true => exact .of_eq rfl
      | false => exact .of_eq rfl

theorem contextSwitch_ctx {prev : Option Slot} {caller : Resume} :
    ((contextSwitch L k prev caller).threads s).ctx =
      if prev = some s then ⟨L.switchSp s, caller⟩ else (k.threads s).ctx := by
  cases prev with
  | none => rfl
  | some p =>
      by_cases same : p = s
      · subst same
        simp [contextSwitch]
      · have other : s ≠ p := Ne.symm same
        simp [contextSwitch, same, other]

theorem threadSwitchToEnter_ctx {prev : Option Slot} {next : Slot} {caller at_ : Resume}
    (entered : threadSwitchToEnter L k prev next caller = .ok (k₁, at_)) :
    at_ = (k.threads next).ctx.lr ∧ ∀ s, (k₁.threads s).ctx =
      if prev = some s then ⟨L.switchSp s, caller⟩ else (k.threads s).ctx := by
  obtain ⟨k₀, ticks, refilled⟩ : ∃ k₀, Ticks k k₀ ∧ threadSwitchToEnter L k prev next caller =
      if (k₀.threads next).ctx.lr = .null ∨ (k₀.threads next).ctx.sp = 0 then
        .error .invalidNextThreadContext
      else .ok (contextSwitch L k₀ prev caller, (k₀.threads next).ctx.lr) := by
    unfold threadSwitchToEnter
    split_ifs
    · exact ⟨_, ticks_quantum next fun _ => threadQuantumTicks, by simp only⟩
    · exact ⟨k, Ticks.rfl, by simp only⟩
  have same (s : Slot) : (k₀.threads s).ctx = (k.threads s).ctx := by
    obtain ⟨q, threads⟩ := ticks.threads s
    rw [threads]
  rw [refilled] at entered
  split_ifs at entered
  cases entered
  constructor
  · rw [same]
  · intro s
    rw [contextSwitch_ctx, same]

/-! ## The machine on the processor -/

/-- The saved contexts hold the stack pointer and the resume point of each thread. -/
def Shows (contexts : ThreadContexts) (code : Resume → UInt64) (k : Kernel) (mem : Mem) : Prop :=
  ∀ s : Slot, saved contexts mem (some s) 11 = (k.threads s).ctx.sp ∧
    saved contexts mem (some s) 12 = code (k.threads s).ctx.lr

/-- The thread whose registers are live: `g_current` is assigned before `context_switch` is called. -/
def Machine.onCpu (m : Machine) : Option Slot :=
  match m.phase with
  | .enter prev _ _ => prev
  | _ => m.kernel.current

/-- A step of the machine that the processor takes. The compiled `thread_switch_to` calls
`context_switch` with its own stack pointer and return address; no other code stores to a context. -/
inductive JointStep (contexts : ThreadContexts) (code : Resume → UInt64) (L : Layout) (cfg : Config)
    (p : Machine × Core) : Action → Machine × Core → Prop
  | interrupt {m' : Machine} {core : Core} (taken : p.1.step L cfg .tick = some m')
      (interrupted : p.2.Step contexts .interrupt core) : JointStep contexts code L cfg p .tick (m', core)
  | switch {m' : Machine} {core : Core} {prev : Option Slot} {next : Slot} {caller : Resume}
      (phase : p.1.phase = .enter prev next caller) (taken : p.1.step L cfg .advance = some m')
      (sp : ∀ t, prev = some t → p.2.cpu.sp = L.switchSp t) (returns : p.2.cpu.x 30 = code caller)
      (switched : p.2.Step contexts (.switch (some next)) core) :
      JointStep contexts code L cfg p .advance (m', core)
  | work {a : Action} {m' : Machine} {cpu : Cpu} (taken : p.1.step L cfg a = some m') (calm : a ≠ .tick)
      (elsewhere : a = .advance → ∀ prev next caller, p.1.phase ≠ .enter prev next caller)
      (kept : saved contexts cpu.mem = saved contexts p.2.cpu.mem) :
      JointStep contexts code L cfg p a (m', ⟨cpu, p.2.current⟩)

def jointSystem (contexts : ThreadContexts) (code : Resume → UInt64) (L : Layout) (cfg : Config) :
    System (Machine × Core) Action where
  init p := (∃ mem, boot L cfg mem = .ok p.1) ∧ p.2.current = none ∧
    Shows contexts code p.1.kernel p.2.cpu.mem
  step := JointStep contexts code L cfg

structure Joined (contexts : ThreadContexts) (code : Resume → UInt64) (L : Layout) (cfg : Config)
    (p : Machine × Core) : Prop where
  inv : Inv L cfg p.1
  shows_ : Shows contexts code p.1.kernel p.2.cpu.mem
  current : p.2.current = p.1.onCpu

/-! ## Runs -/

theorem Shows.of_ctx {mem mem' : Mem} (shows_ : Shows contexts code k mem)
    (ctx : ∀ s, (k₁.threads s).ctx = (k.threads s).ctx)
    (kept : saved contexts mem' = saved contexts mem) : Shows contexts code k₁ mem' := by
  intro s
  rw [kept, ctx]
  exact shows_ s

theorem OnlyTasks.ctx (only : OnlyTasks k k₁) (s : Slot) :
    (k₁.threads s).ctx = (k.threads s).ctx := by
  obtain ⟨_, _, same⟩ := only s
  rw [same]

theorem Ticks.ctx (ticks : Ticks k k₁) (s : Slot) : (k₁.threads s).ctx = (k.threads s).ctx := by
  obtain ⟨_, same⟩ := ticks.threads s
  rw [same]

theorem Machine.onCpu_of_ne (elsewhere : ∀ prev next caller, m.phase ≠ .enter prev next caller) :
    m.onCpu = m.kernel.current := by
  unfold Machine.onCpu
  split
  · rename_i enters
    exact absurd enters (elsewhere _ _ _)
  · rfl

theorem trap_onCpu {stores : List (SandboxAddress × UInt8)} (inv : Inv L cfg m)
    (step : m.step L cfg (.trap stores tf) = some m') : m'.onCpu = m.onCpu := by
  obtain ⟨⟨t, _, before, after⟩, _⟩ := trap_current inv step
  obtain ⟨regs, phase, _⟩ := Machine.step_trap step
  have here : m.onCpu = m.kernel.current := Machine.onCpu_of_ne (by simp [phase])
  have there : m'.onCpu = m'.kernel.current := by
    cases (step_cases inv step).1 with
    | quiet untrapped => exact absurd rfl (untrapped stores tf)
    | back | away | outside => rfl
  rw [here, there, before, after]

theorem resumeAt_onCpu {at_ : Resume} (step : resumeAt k at_ = some m') : m'.onCpu = k.current := by
  cases at_ with
  | null | boot => cases step
  | idleLoop =>
      cases step
      rfl
  | bootstrap entry arg =>
      cases entry with
      | idle =>
          cases step
          rfl
      | userTask =>
          simp only [resumeAt] at step
          split at step
          · cases step
            rfl
          · rename_i entered
            cases step
            exact (threadEntryUserTask_keeps entered).2
  | returnStep t =>
      simp only [resumeAt] at step
      split at step
      · cases step
        rfl
      · rename_i returned
        cases step
        exact (userTaskReturnTail_keeps returned).2

theorem advance_onCpu (step : m.step L cfg .advance = some m')
    (elsewhere : ∀ prev next caller, m.phase ≠ .enter prev next caller) : m'.onCpu = m.onCpu := by
  rw [Machine.onCpu_of_ne elsewhere]
  obtain ⟨k, phase⟩ := m
  cases phase with
  | switch next caller =>
      simp only [Machine.step, advance] at step
      split_ifs at step
      · cases step
        rfl
      · cases step
        rfl
  | el0 | panic => cases step
  | enter prev next caller => exact absurd rfl (elsewhere prev next caller)
  | cont at_ => exact resumeAt_onCpu step
  | pick | currentCtx =>
      simp only [Machine.step, advance] at step
      split at step
      · cases step
        rfl
      · cases step
        rfl
  | resume =>
      cases step
      rfl
  | wfi =>
      cases step
      unfold threadReschedPoint threadReschedTake
      cases k.reschedPending with
      | true => rfl
      | false => rfl

theorem eretEl1_mem {c : Cpu} : (Cpu.eretEl1 c).mem = c.mem := rfl

theorem Core.Step.interrupt_saved {core core' : Core} (step : core.Step contexts .interrupt core') :
    saved contexts core'.cpu.mem = saved contexts core.cpu.mem ∧ core'.current = core.current := by
  cases step with
  | @interrupt sys handled _ stack _ handles =>
      have pushed : OnStack contexts { core.cpu with sys := sys, irqMasked := true } :=
        ⟨stack.aligned, stack.room, stack.apart⟩
      obtain ⟨_, _, _, kept⟩ := interrupt_kept pushed handles
      constructor
      · rw [eretEl1_mem, kept]
      · rfl

theorem Core.Step.switch_saved {core core' : Core} (step : core.Step contexts (.switch u) core') :
    saved contexts core'.cpu.mem =
      Function.update (saved contexts core.cpu.mem) core.current (live core.cpu) ∧
    live core'.cpu = saved contexts core.cpu.mem u ∧ core'.cpu.irqMasked = false ∧
      core'.current = u := by
  cases step with
  | switch other old new =>
      exact ⟨contextSwitchCode_saved old, contextSwitchCode_live old new (Ne.symm other), rfl, rfl⟩

/-- `context_switch` takes the machine's thread in `next` up where its context says. -/
structure Resumes (code : Resume → UInt64) (k : Kernel) (next : Slot) (p : Machine × Core) : Prop where
  phase : p.1.phase = .cont (k.threads next).ctx.lr
  belongs : (k.threads next).ctx.lr.belongs next
  lr : p.2.cpu.x 30 = code (k.threads next).ctx.lr
  sp : p.2.cpu.sp = (k.threads next).ctx.sp
  unmasked : p.2.cpu.irqMasked = false
  current : p.2.current = some next

theorem Joined.switch {p : Machine × Core} {core : Core} {prev : Option Slot} {next : Slot}
    {caller : Resume} (joined : Joined contexts code L cfg p) (phase : p.1.phase = .enter prev next caller)
    (taken : p.1.step L cfg .advance = some m') (sp : ∀ t, prev = some t → p.2.cpu.sp = L.switchSp t)
    (returns : p.2.cpu.x 30 = code caller) (switched : p.2.Step contexts (.switch (some next)) core) :
    Joined contexts code L cfg (m', core) ∧ Resumes code p.1.kernel next (m', core) := by
  obtain ⟨⟨k, _⟩, core₀⟩ := p
  obtain ⟨inv, shows_, current⟩ := joined
  cases phase
  obtain ⟨saves, file, unmasked, there⟩ := switched.switch_saved
  have after := (step_cases inv taken).2
  rcases inv with ⟨ok, phaseOk⟩ | _
  cases phaseOk with
  | enter returning _ left =>
      obtain ⟨k₁, at_, entered, _, _, returned, belongs⟩ := threadSwitchToEnter_ok ok returning left
      obtain ⟨rfl, ctx⟩ := threadSwitchToEnter_ctx entered
      simp only [Machine.step, advance, entered, Option.some_inj] at taken
      subst taken
      refine ⟨⟨after, ?_, there.trans returned.current.symm⟩, rfl, belongs, ?_, ?_, unmasked, there⟩
      · intro s
        rw [ctx, saves, current]
        by_cases same : prev = some s
        · subst same
          rw [if_pos rfl]
          simp only [Machine.onCpu, Function.update_self]
          exact ⟨sp s rfl, returns⟩
        · rw [if_neg same]
          simp only [Machine.onCpu, Function.update_of_ne (Ne.symm same)]
          exact shows_ s
      · exact (congrFun file 12).trans (shows_ next).2
      · exact (congrFun file 11).trans (shows_ next).1

theorem Joined.step {p p' : Machine × Core} (joined : Joined contexts code L cfg p)
    (step : JointStep contexts code L cfg p a p') : Joined contexts code L cfg p' := by
  cases step with
  | switch phase taken sp returns switched =>
      exact (joined.switch phase taken sp returns switched).1
  | interrupt taken interrupted =>
      have after := (step_cases joined.inv taken).2
      obtain ⟨kept, current⟩ := interrupted.interrupt_saved
      simp only [Machine.step] at taken
      split_ifs at taken
      cases taken
      have ticks : Ticks p.1.kernel (timerHandleIrq cfg p.1.kernel) := timerHandleIrq_ticks
      refine ⟨after, joined.shows_.of_ctx ticks.ctx kept, ?_⟩
      rw [current, joined.current]
      unfold Machine.onCpu
      cases p.1.phase with
      | enter => rfl
      | _ => exact ticks.current.symm
  | work taken calm elsewhere kept =>
      have after := (step_cases joined.inv taken).2
      cases a with
      | tick => exact absurd rfl calm
      | trap stores tf =>
          exact ⟨after, joined.shows_.of_ctx (trap_onlyTasks joined.inv taken).ctx kept,
            joined.current.trans (trap_onCpu joined.inv taken).symm⟩
      | advance =>
          exact ⟨after, joined.shows_.of_ctx (advance_onlyTasks taken (elsewhere rfl)).ctx kept,
            joined.current.trans (advance_onCpu taken (elsewhere rfl)).symm⟩

theorem joint_joined {p : Machine × Core} {h : List ((Machine × Core) × Action)}
    (run : (jointSystem contexts code L cfg).Run h p) : Joined contexts code L cfg p := by
  apply run.invariant
  · rintro p ⟨⟨mem, booted⟩, current, shows_⟩
    have first := boot_booted booted
    refine ⟨first.inv, shows_, ?_⟩
    rw [current, Machine.onCpu_of_ne (by simp [first.phase]), first.current]
  · intro p a p' joined step
    exact joined.step step

/-- The processor returns from `context_switch` where the machine resumes the thread. -/
theorem switch_resumes {p p' : Machine × Core} {h : List ((Machine × Core) × Action)}
    {prev : Option Slot} {next : Slot} {caller : Resume}
    (run : (jointSystem contexts code L cfg).Run h p) (phase : p.1.phase = .enter prev next caller)
    (step : JointStep contexts code L cfg p .advance p') : Resumes code p.1.kernel next p' := by
  cases step with
  | switch phase' taken sp returns switched =>
      cases phase.symm.trans phase'
      exact ((joint_joined run).switch phase taken sp returns switched).2
  | work _ _ elsewhere => exact absurd phase (elsewhere rfl _ _ _)

/-! ## Every run has a processor -/

/-- The registers at a call of `context_switch`, where the machine is at one. -/
def AtSwitch (contexts : ThreadContexts) (code : Resume → UInt64) (L : Layout) (m : Machine) (c : Cpu) :
    Prop :=
  ∀ prev next caller, m.phase = .enter prev next caller →
    (∀ t, prev = some t → c.sp = L.switchSp t) ∧ c.x 30 = code caller ∧
      c.x 0 = contexts.address prev ∧ c.x 1 = contexts.address (some next)

theorem atSwitch_some (contexts : ThreadContexts) (code : Resume → UInt64) (L : Layout) (m : Machine)
    (mem : Mem) : ∃ c, c.mem = mem ∧ AtSwitch contexts code L m c := by
  by_cases enters : ∃ prev next caller, m.phase = .enter prev next caller
  · obtain ⟨prev, next, caller, phase⟩ := enters
    let x : Fin 31 → UInt64 := fun i =>
      if i = 30 then code caller else contexts.address (if i = 0 then prev else some next)
    refine ⟨⟨x, (prev.map L.switchSp).getD 0, fun _ => 0, false, mem⟩, rfl, ?_⟩
    intro _ _ _ phase'
    cases phase.symm.trans phase'
    refine ⟨fun t here => ?_, rfl, rfl, rfl⟩
    subst here
    rfl
  · exact ⟨⟨fun _ => 0, 0, fun _ => 0, false, mem⟩, rfl,
      fun prev next caller phase => absurd ⟨prev, next, caller, phase⟩ enters⟩

theorem Inv.entering {prev : Option Slot} {next : Slot} {caller : Resume} (inv : Inv L cfg m)
    (phase : m.phase = .enter prev next caller) : prev ≠ some next := by
  cases inv with
  | running _ phaseOk =>
      cases phase
      cases phaseOk with
      | enter _ _ left => exact fun same => (left next same).1 rfl
  | halted => cases phase

/-- A run without ticks is that of the machine in a joint run. -/
theorem run_accompanied {h : List (Machine × Action)} (run : (kernelSystem L cfg).Run h m)
    (starts : ∀ mem m, boot L cfg mem = .ok m → ∃ mem, Shows contexts code m.kernel mem)
    (untimed : ∀ r ∈ h, r.2 ≠ .tick) : ∃ h' core,
      (jointSystem contexts code L cfg).Run h' (m, core) ∧ AtSwitch contexts code L m core.cpu := by
  induction run with
  | @start m first =>
      obtain ⟨mem, booted⟩ := first
      obtain ⟨stored, shows_⟩ := starts mem m booted
      obtain ⟨c, rfl, atSwitch⟩ := atSwitch_some contexts code L m stored
      exact ⟨[], ⟨c, none⟩, .start ⟨⟨mem, booted⟩, rfl, shows_⟩, atSwitch⟩
  | @step h m a m' run step ih =>
      obtain ⟨h', core, joint, atSwitch⟩ := ih fun r member => untimed r (List.mem_append_left _ member)
      have calm : a ≠ .tick := untimed (m, a) (by simp)
      have joined := joint_joined joint
      by_cases enters : a = .advance ∧ ∃ prev next caller, m.phase = .enter prev next caller
      · obtain ⟨rfl, prev, next, caller, phase⟩ := enters
        obtain ⟨sp, lr, old, new⟩ := atSwitch prev next caller phase
        have current : core.current = prev := by
          rw [joined.current, Machine.onCpu, phase]
        have other : some next ≠ core.current := by
          rw [current]
          exact (joined.inv.entering phase).symm
        rw [← current] at old
        have switched : core.Step contexts (.switch (some next)) _ := .switch other old new
        obtain ⟨_, resumes⟩ := joined.switch phase step sp lr switched
        refine ⟨_, _, joint.step (.switch phase step sp lr switched), fun _ _ _ phase' => ?_⟩
        cases resumes.phase.symm.trans phase'
      · obtain ⟨c, kept, atSwitch'⟩ := atSwitch_some contexts code L m' core.cpu.mem
        refine ⟨_, ⟨c, core.current⟩, joint.step (.work step calm ?_ (by rw [kept])), atSwitch'⟩
        exact fun advances prev next caller phase => enters ⟨advances, prev, next, caller, phase⟩

def resumeAddress : Resume → UInt64
  | .null => 0
  | .bootstrap .. => kernelLoadAddr + 0x2000
  | .returnStep _ => kernelLoadAddr + 0x2100
  | .idleLoop => kernelLoadAddr + 0x2200
  | .boot => kernelLoadAddr + 0x2300

/-- The contexts that `thread_system_init` leaves, with the stacks of `L`. -/
def contextMemory (L : Layout) : Mem :=
  (List.finRange threadCount).foldl (fun mem s =>
    storeWord (contextAddress (some s) + .ofNat 96) (kernelLoadAddr + 0x2000)
      (storeWord (contextAddress (some s) + .ofNat 88) (stackTop (L.kernelStack s) threadStackSize) mem))
    fun _ => 0

theorem contextMemory_holds : ∀ s : Slot,
    saved sampleContexts (contextMemory .sample) (some s) 11 =
      stackTop (Layout.sample.kernelStack s) threadStackSize ∧
    saved sampleContexts (contextMemory .sample) (some s) 12 = kernelLoadAddr + 0x2000 := by
  decide

theorem contextMemory_shows {m : Machine} {mem : Memory}
    (booted : boot .sample .sample mem = .ok m) :
    Shows sampleContexts resumeAddress m.kernel (contextMemory .sample) := by
  have first := boot_booted booted
  intro s
  obtain ⟨sp, lr⟩ := contextMemory_holds s
  by_cases idle : s = slotIdle
  · subst idle
    rw [first.idle]
    exact ⟨sp, lr⟩
  · rw [first.users s idle]
    exact ⟨sp, lr⟩

set_option maxRecDepth 4000 in
/-- `task_a` goes on in its call of `context_switch`, after `task_b` and `task_c` have yielded. -/
theorem switch_resumes_yield : ∃ (p p' : Machine × Core) (h : List ((Machine × Core) × Action)),
    (jointSystem sampleContexts resumeAddress .sample .sample).Run h p ∧
      p.1.phase = .enter (some slotTaskC) slotTaskA (.returnStep slotTaskC) ∧
        (p.1.kernel.threads slotTaskA).ctx.lr = .returnStep slotTaskA ∧
          Resumes resumeAddress p.1.kernel slotTaskA p' := by
  obtain ⟨m, m', ran, phase, lr, taken⟩ : ∃ m m', runFromBoot .sample .sample
      (List.replicate 4 .advance ++ .trap [] (.svc sysYield []) :: List.replicate 5 .advance ++
        .trap [] (.svc sysYield []) :: List.replicate 5 .advance ++
          [.trap [] (.svc sysYield []), .advance, .advance]) = some m ∧
      m.phase = .enter (some slotTaskC) slotTaskA (.returnStep slotTaskC) ∧
        (m.kernel.threads slotTaskA).ctx.lr = .returnStep slotTaskA ∧
          m.step .sample .sample .advance = some m' := ⟨_, _, rfl, rfl, rfl, rfl⟩
  obtain ⟨h, run, actions⟩ := runFromBoot_run ran
  have untimed : ∀ r ∈ h, r.2 ≠ .tick := by
    intro r member timed
    have played := actions r member
    simp [timed] at played
  obtain ⟨h', core, joint, atSwitch⟩ := run_accompanied run
    (fun _ _ booted => ⟨_, contextMemory_shows booted⟩) untimed
  obtain ⟨sp, returns, old, new⟩ := atSwitch _ _ _ phase
  have current : core.current = some slotTaskC := by
    rw [(joint_joined joint).current, Machine.onCpu, phase]
  rw [← current] at old
  have switched : core.Step sampleContexts (.switch (some slotTaskA)) _ :=
    .switch (by rw [current]; decide) old new
  exact ⟨_, _, _, joint, phase, lr, switch_resumes joint phase (.switch phase taken sp returns switched)⟩

end ProtoOs
