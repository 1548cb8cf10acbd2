import ProtoOs.Lib.Stutter
import ProtoOs.Proof.AlikeTraps
import ProtoOs.Proof.Decisions

/-!
# Timer ticks

Tasks are not preempted: a tick counts, and asks for a reschedule that only the idle loop can notice.
The idle thread runs where no task is ready, and so for ever.
-/

namespace ProtoOs

open Transition.System

variable {L : Layout} {cfg : Config} {k k' k₁ : Kernel} {m m' m₁ m₁' : Machine} {t s : Slot}
  {a b : Action} {c : Option Slot} {out out' : List UartCall} {tf : TrapFrame} {program : Program}
  {mem : Memory} {h h' : List (Machine × Action)}

/-! ## The idle thread -/

structure Idles (m : Machine) : Prop where
  current : m.kernel.current = some slotIdle
  barren : Barren m.kernel
  phase : m.phase = .wfi ∨ m.phase = .pick .idleLoop ∨ m.phase = .switch slotIdle .idleLoop ∨
    m.phase = .cont .idleLoop

theorem Barren.picks (ok : KernelOk L cfg k none) (barren : Barren k) (leaving : Leaving k t) :
    pickNextThread k = .ok slotIdle := by
  obtain ⟨next, picked, selectable⟩ := pickNextThread_selectable ok leaving
  by_cases idle : next = slotIdle
  · rw [picked, idle]
  · have kind := (ok.threads next).kind
    rw [if_neg idle] at kind
    rcases barren next idle with state | state
    · simp [threadIsSelectable, kind, state] at selectable
    · simp [threadIsSelectable, kind, state] at selectable

theorem Idles.advance (inv : Inv L cfg m) (idles : Idles m) (step : advance L m = some m') :
    Idles m' ∧ ∃ pending, m'.kernel = m.kernel.setResched pending := by
  obtain ⟨k, phase⟩ := m
  have same : ∃ pending, k = k.setResched pending := ⟨k.reschedPending, rfl⟩
  obtain ⟨current, barren, here⟩ := idles
  simp only at current barren here
  rcases here with rfl | rfl | rfl | rfl
  · simp only [ProtoOs.advance, threadReschedPoint, threadReschedTake, Option.some_inj] at step
    cases pending : k.reschedPending with
    | true =>
        rw [pending] at step
        subst step
        exact ⟨⟨current, barren, .inr (.inl rfl)⟩, false, rfl⟩
    | false =>
        rw [pending] at step
        subst step
        exact ⟨⟨current, barren, .inr (.inr (.inr rfl))⟩, false, rfl⟩
  · obtain ⟨t, leaving⟩ := inv.leaving rfl
    have picked := barren.picks (inv.kernelOk (by simp)) leaving
    simp only [ProtoOs.advance, picked, Option.some_inj] at step
    subst step
    exact ⟨⟨current, barren, .inr (.inr (.inl rfl))⟩, same⟩
  · simp only [ProtoOs.advance, current, if_true, Option.some_inj] at step
    subst step
    exact ⟨⟨current, barren, .inr (.inr (.inr rfl))⟩, same⟩
  · cases step
    exact ⟨⟨current, barren, .inl rfl⟩, same⟩

/-! ## Programs -/

/-- The code of EL0: what a task stores before its next trap, and the trap, from its registers and
the memory. -/
abbrev Program := Slot → UserTaskCtx → Memory → Option (List (SandboxAddress × UInt8) × TrapFrame)

def Program.Timeless (program : Program) : Prop :=
  ∀ t regs mem stores tf, program t regs mem = some (stores, tf) → ¬ Asks tf sysTimeTicks

def Program.Makes (program : Program) (m : Machine) : Action → Prop
  | .trap stores tf => ∃ t regs, m.kernel.current = some t ∧ m.phase = .el0 regs ∧
      program t regs m.kernel.mem = some (stores, tf)
  | _ => True

/-- The kernel with its tasks, from a boot with the given memory. -/
def programSystem (L : Layout) (cfg : Config) (program : Program) (mem : Memory) :
    Transition.System Machine Action where
  init m := boot L cfg mem = .ok m
  step m a m' := m.step L cfg a = some m' ∧ program.Makes m a

def Endpoint.fields (ep : Endpoint) : Endpoint := { ep with pendingReq := none, callerReq := none }

def Kernel.timeless (k : Kernel) : Kernel :=
  { k with
    threads := fun s => { k.threads s with quantumLeft := 0 }
    endpoints := fun e => (k.endpoints e).fields
    schedTicks := 0, timerTicks := 0, reschedPending := false
    uart := [], log := [], accesses := [] }

/-- What a task does between two entries of the kernel, and what the trap that ends it returns and
prints. -/
structure Execution where
  task : Option Slot
  regs : UserTaskCtx
  stores : List (SandboxAddress × UInt8)
  trap : TrapFrame
  returned : Option TrapFrame
  printed : List UartCall
  kernel : Kernel

def execution? (L : Layout) (cfg : Config) (m : Machine) : Action → Option Execution
  | .trap stores tf =>
      match m.phase with
      | .el0 regs =>
          let k := m.kernel.setMem (userStores stores m.kernel.mem)
          some
            { task := m.kernel.current, regs := regs, stores := stores, trap := tf
              returned := (exceptionSyncEl0 L cfg k tf).toOption.map fun r => r.2
              printed := (takeTrap L cfg k tf).kernel.uart.drop m.kernel.uart.length
              kernel := m.kernel.timeless }
      | _ => none
  | _ => none

def executions (L : Layout) (cfg : Config) (h : List (Machine × Action)) : List Execution :=
  observed (execution? L cfg) h

/-- What only traps change. -/
structure Shown where
  endpoints : EpId → Endpoint
  pendingDeath : Int32
  supervisor : Int32
  mem : Memory
  regs : Slot → UserTaskCtx

def Kernel.shown (k : Kernel) : Shown where
  endpoints e := (k.endpoints e).fields
  pendingDeath := k.pendingDeathSlot
  supervisor := k.blockedSupervisorSlot
  mem := k.mem
  regs s := (k.threads s).user.ctx

/-! ## Machines at the same point -/

theorem Alike.ticks (alike : Alike c False out out' k k') (ticks : Ticks k k₁) :
    Alike c False k₁.uart k'.uart k₁ k' := by
  refine ⟨fun s => ?_, fun e => ?_, alike.current.trans ticks.current.symm,
    alike.task.trans ticks.task.symm, alike.pendingDeath.trans ticks.pendingDeath.symm,
    alike.supervisor.trans ticks.supervisor.symm, alike.mem.trans ticks.mem.symm,
    ⟨[], by simp, by simp⟩, False.elim⟩
  · obtain ⟨q, same⟩ := ticks.threads s
    rw [same]
    exact (alike.threads s).requantum q
  · rw [ticks.endpoints]
    exact alike.endpoints e

theorem EndpointAlike.fields {ep ep' : Endpoint} (alike : EndpointAlike none ep ep') :
    ep'.fields = ep.fields := by
  cases alike with
  | mk ptr override pending caller reply =>
      obtain ⟨rfl, rfl⟩ := reply.resolve_left (by simp)
      rfl

theorem ThreadAlike.timeless {t t' : Thread} (alike : ThreadAlike none False s t t') :
    { t' with quantumLeft := 0 } = { t with quantumLeft := 0 } := by
  cases alike with
  | mk quantum ctx time elr seen =>
      rw [seen nofun]

theorem Alike.timeless (alike : Alike none False out out' k k') : k'.timeless = k.timeless := by
  have endpoints : (fun e => (k'.endpoints e).fields) = fun e => (k.endpoints e).fields := by
    funext e
    exact (alike.endpoints e).fields
  have threads : (fun s => { k'.threads s with quantumLeft := 0 }) =
      fun s => { k.threads s with quantumLeft := 0 } := by
    funext s
    exact (alike.threads s).timeless
  simp only [Kernel.timeless, endpoints, threads, alike.current, alike.task, alike.pendingDeath,
    alike.supervisor, alike.mem]

theorem Alike.shown (alike : Alike none False out out' k k') : k.shown = k'.shown := by
  have endpoints : (fun e => (k.endpoints e).fields) = fun e => (k'.endpoints e).fields := by
    funext e
    exact (alike.endpoints e).fields.symm
  have regs : (fun s => (k.threads s).user.ctx) = fun s => (k'.threads s).user.ctx := by
    funext s
    exact ((alike.threads s).seen nofun).symm
  simp only [Kernel.shown, endpoints, regs, alike.pendingDeath, alike.supervisor, alike.mem]

structure SamePoint (L : Layout) (cfg : Config) (m m' : Machine) : Prop where
  inv : Inv L cfg m
  inv' : Inv L cfg m'
  idle : IdleOk m
  idle' : IdleOk m'
  kernel : Alike none False m.kernel.uart m'.kernel.uart m.kernel m'.kernel
  phase : m'.phase = m.phase ∨ Idles m ∧ Idles m'

theorem SamePoint.symm (same : SamePoint L cfg m m') : SamePoint L cfg m' m :=
  ⟨same.inv', same.inv, same.idle', same.idle, same.kernel.symm,
    same.phase.imp Eq.symm And.symm⟩

def Unseen (m : Machine) (a : Action) : Prop := a = .tick ∨ Idles m

theorem Idles.of_alike (idles : Idles m) (kernel : Alike none False out out' m.kernel m'.kernel)
    (phase : m'.phase = m.phase) : Idles m' := by
  refine ⟨kernel.current.trans idles.current, fun s user => ?_, phase ▸ idles.phase⟩
  rw [(kernel.threads s).task]
  exact idles.barren s user

theorem Idles.ticked (idles : Idles m) (step : m.step L cfg .tick = some m₁) : Idles m₁ := by
  have users := (tick_moves step).users
  simp only [Machine.step] at step
  split_ifs at step
  cases step
  have ticks : Ticks m.kernel (timerHandleIrq cfg m.kernel) := timerHandleIrq_ticks
  exact ⟨ticks.current.trans idles.current, idles.barren.users users, idles.phase⟩

theorem Idles.untrapped (idles : Idles m) {stores : List (SandboxAddress × UInt8)} :
    m.step L cfg (.trap stores tf) ≠ some m₁ := by
  intro step
  obtain ⟨regs, phase, _⟩ := Machine.step_trap step
  rcases idles.phase with here | here | here | here
  all_goals
    rw [phase] at here
    cases here

theorem SamePoint.stutter (same : SamePoint L cfg m m') (step : m.step L cfg a = some m₁)
    (unseen : Unseen m a) : SamePoint L cfg m₁ m' := by
  have inv := (step_cases same.inv step).2
  have idle := step_idleOk same.inv same.idle step
  have idles : Idles m → Idles m₁ ∧ Alike none False m₁.kernel.uart m'.kernel.uart m₁.kernel m'.kernel →
      SamePoint L cfg m₁ m' := by
    rintro here ⟨there, kernel⟩
    refine ⟨inv, same.inv', idle, same.idle', kernel, .inr ⟨there, ?_⟩⟩
    rcases same.phase with phase | ⟨_, idles'⟩
    · exact here.of_alike same.kernel phase
    · exact idles'
  cases a with
  | trap stores tf => exact absurd step (unseen.resolve_left nofun).untrapped
  | advance =>
      have here := unseen.resolve_left nofun
      obtain ⟨there, pending, kernel⟩ := here.advance same.inv step
      refine idles here ⟨there, ?_⟩
      rw [kernel]
      exact same.kernel.ticks (ticks_setResched pending)
  | tick =>
      have ticked := step
      simp only [Machine.step] at step
      split_ifs at step
      cases step
      have kernel : Alike none False (timerHandleIrq cfg m.kernel).uart m'.kernel.uart
          (timerHandleIrq cfg m.kernel) m'.kernel := same.kernel.ticks timerHandleIrq_ticks
      rcases same.phase with phase | ⟨here, idles'⟩
      · exact ⟨inv, same.inv', idle, same.idle', kernel, .inl phase⟩
      · exact ⟨inv, same.inv', idle, same.idle', kernel, .inr ⟨here.ticked ticked, idles'⟩⟩

theorem SamePoint.of_alike (inv : Inv L cfg m) (inv' : Inv L cfg m') (idle : IdleOk m)
    (idle' : IdleOk m') (alike : MachineAlike none False out out' m m') : SamePoint L cfg m m' := by
  refine ⟨inv, inv', idle, idle', alike.kernel.rebase, .inl (alike.phase.resolve_right ?_)⟩
  rintro ⟨vacant, regs, _, phase, _⟩
  obtain ⟨_, t, active⟩ := inv.active phase
  rw [active.current] at vacant
  cases vacant

theorem Handled.values {α : Type} {first second : Except (Panic × Kernel) (Kernel × α)}
    (handled : Handled c False out out' first second) :
    (second.toOption.map fun r => r.2) = first.toOption.map fun r => r.2 := by
  rcases handled.cases with ⟨_, _, rfl, rfl, _⟩ | ⟨_, _, rfl, rfl, beside⟩
  · rfl
  · exact congrArg some beside.value

theorem SamePoint.trap {stores : List (SandboxAddress × UInt8)} {regs : UserTaskCtx}
    (same : SamePoint L cfg m m') (phase : m'.phase = m.phase) (el0 : m.phase = .el0 regs)
    (silent : ¬ Asks tf sysTimeTicks) (step : m.step L cfg (.trap stores tf) = some m₁) :
    ∃ m₁', m'.step L cfg (.trap stores tf) = some m₁' ∧
      execution? L cfg m' (.trap stores tf) = execution? L cfg m (.trap stores tf) ∧
        MachineAlike none False m.kernel.uart m'.kernel.uart m₁ m₁' := by
  obtain ⟨_, _, mode, rfl⟩ := Machine.step_trap step
  have stored := same.kernel.setMem (userStores stores m.kernel.mem)
  have after : MachineAlike none False m.kernel.uart m'.kernel.uart (takeTrap L cfg _ tf)
      (takeTrap L cfg _ tf) := takeTrap_alike stored (.inr silent)
  have handled : Handled none False m.kernel.uart m'.kernel.uart (exceptionSyncEl0 L cfg _ tf)
      (exceptionSyncEl0 L cfg _ tf) := exceptionSyncEl0_alike stored (.inr silent)
  have mem : m'.kernel.mem = m.kernel.mem := same.kernel.mem
  have step' : m'.step L cfg (.trap stores tf) =
      some (takeTrap L cfg (m'.kernel.setMem (userStores stores m.kernel.mem)) tf) := by
    simp [Machine.step, phase, el0, mode, mem]
  refine ⟨_, step', ?_, after⟩
  obtain ⟨calls, printed, printed'⟩ := after.kernel.printed
  simp only [execution?, phase, el0, mem, same.kernel.current, same.kernel.timeless,
    handled.values, printed, printed', List.drop_left]

theorem SamePoint.answer (timeless : program.Timeless) (same : SamePoint L cfg m m')
    (step : (programSystem L cfg program mem).step m a m₁) (seen : ¬ Unseen m a) :
    ∃ m₁', (programSystem L cfg program mem).step m' a m₁' ∧ ¬ Unseen m' a ∧
      execution? L cfg m' a = execution? L cfg m a ∧ SamePoint L cfg m₁ m₁' := by
  obtain ⟨step, makes⟩ := step
  obtain ⟨notTick, busy⟩ := not_or.mp seen
  have phase : m'.phase = m.phase := same.phase.resolve_right fun idles => busy idles.1
  have seen' : ¬ Unseen m' a :=
    not_or.mpr ⟨notTick, fun idles => busy (idles.of_alike same.kernel.symm phase.symm)⟩
  have lands {m₁' : Machine} (step' : m'.step L cfg a = some m₁')
      (after : MachineAlike none False m.kernel.uart m'.kernel.uart m₁ m₁') :
      SamePoint L cfg m₁ m₁' :=
    .of_alike (step_cases same.inv step).2 (step_cases same.inv' step').2
      (step_idleOk same.inv same.idle step) (step_idleOk same.inv' same.idle' step') after
  cases a with
  | tick => exact absurd rfl notTick
  | trap stores tf =>
      obtain ⟨t, regs, current, el0, runs⟩ := makes
      have silent : ¬ Asks tf sysTimeTicks := timeless t regs _ stores tf runs
      obtain ⟨m₁', step', execution, after⟩ := same.trap phase el0 silent step
      refine ⟨m₁', ⟨step', t, regs, same.kernel.current.trans current, phase.trans el0, ?_⟩, seen',
        execution, lands step' after⟩
      rw [same.kernel.mem]
      exact runs
  | advance =>
      have awake : m.phase ≠ .wfi := fun waits =>
        have current := same.inv.idling waits
        busy ⟨current, same.idle.current current, .inl waits⟩
      rcases advance_alike same.inv ⟨same.kernel, .inl phase⟩ (.inr awake) with
        ⟨stuck, _⟩ | ⟨m₂, m₁', first, second, after⟩
      · cases stuck.symm.trans step
      · obtain rfl := Option.some_inj.mp (first.symm.trans step)
        exact ⟨m₁', ⟨second, trivial⟩, seen', rfl, lands second after⟩

theorem SamePoint.action {m₁' : Machine} (same : SamePoint L cfg m m')
    (step : (programSystem L cfg program mem).step m a m₁) (seen : ¬ Unseen m a)
    (step' : (programSystem L cfg program mem).step m' b m₁') (seen' : ¬ Unseen m' b) : b = a := by
  have phase : m'.phase = m.phase := same.phase.resolve_right fun idles => seen (.inr idles.1)
  have el0 {m m₁ : Machine} {stores : List (SandboxAddress × UInt8)} {tf : TrapFrame}
      (step : m.step L cfg (.trap stores tf) = some m₁) : ∃ regs, m.phase = .el0 regs := by
    obtain ⟨regs, phase, _⟩ := Machine.step_trap step
    exact ⟨regs, phase⟩
  have masked {m m₁ : Machine} (step : m.step L cfg .advance = some m₁) (regs : UserTaskCtx) :
      m.phase ≠ .el0 regs := quiet_masked (fun _ _ impossible => by cases impossible) step regs
  cases a with
  | tick => exact absurd (.inl rfl) seen
  | advance =>
      cases b with
      | tick => exact absurd (.inl rfl) seen'
      | advance => rfl
      | trap stores tf =>
          obtain ⟨regs, here⟩ := el0 step'.1
          exact absurd (phase.symm.trans here) (masked step.1 regs)
  | trap stores tf =>
      cases b with
      | tick => exact absurd (.inl rfl) seen'
      | advance =>
          obtain ⟨regs, here⟩ := el0 step.1
          exact absurd (phase.trans here) (masked step'.1 regs)
      | trap stores' tf' =>
          obtain ⟨t, regs, current, here, runs⟩ := step.2
          obtain ⟨t', regs', current', here', runs'⟩ := step'.2
          obtain rfl := Option.some_inj.mp
            (current'.symm.trans (same.kernel.current.trans current))
          obtain rfl := Phase.el0.inj (here'.symm.trans (phase.trans here))
          rw [same.kernel.mem, runs] at runs'
          cases runs'
          rfl

theorem Unseen.silent (unseen : Unseen m a) : execution? L cfg m a = none := by
  rcases unseen with rfl | idles
  · rfl
  · cases a with
    | tick | advance => rfl
    | trap stores tf =>
        rcases idles.phase with phase | phase | phase | phase
        all_goals simp [execution?, phase]

theorem inStep (timeless : program.Timeless) : InStep (programSystem L cfg program mem)
    (SamePoint L cfg) Unseen (execution? L cfg) where
  symm _ _ same := same.symm
  quiet _ _ unseen := unseen.silent
  stutter _ _ _ _ same step unseen := same.stutter step.1 unseen
  answer m m' a m₁ same step seen := by
    obtain ⟨m₁', step', seen', _⟩ := same.answer timeless step seen
    exact ⟨m₁', step', seen'⟩
  agree m m' a m₁ b m₁' same step seen step' seen' := by
    obtain rfl := same.action step seen step' seen'
    obtain ⟨m₂, answered, _, execution, after⟩ := same.answer timeless step seen
    obtain rfl := Option.some_inj.mp (answered.1.symm.trans step'.1)
    exact ⟨rfl, execution, after⟩

theorem step_shown (inv : Inv L cfg m) (step : m.step L cfg a = some m')
    (unseen : execution? L cfg m a = none) : m'.kernel.shown = m.kernel.shown := by
  have untrapped (stores : List (SandboxAddress × UInt8)) (tf : TrapFrame) : a ≠ .trap stores tf := by
    rintro rfl
    obtain ⟨regs, phase, _⟩ := Machine.step_trap step
    simp [execution?, phase] at unseen
  have users := (quiet_moves inv untrapped step).users
  cases (step_cases inv step).1 with
  | quiet _ quiet =>
      have regs : (fun s => (m'.kernel.threads s).user.ctx) =
          fun s => (m.kernel.threads s).user.ctx := by
        funext s
        exact users.ctx s
      simp only [Kernel.shown, quiet.endpoints, quiet.pendingDeath, quiet.supervisor, quiet.mem, regs]
  | back | away | outside => exact absurd rfl (untrapped _ _)

/-- Wherever ticks come, the tasks execute in the same order, with the same registers, results and
output, on a kernel that differs in its clock only; and neither run is held up. -/
theorem run_ticks_unseen {m₀ : Machine} (timeless : program.Timeless)
    (booted : boot L cfg mem = .ok m₀) (path : (programSystem L cfg program mem).Path m₀ h m)
    (path' : (programSystem L cfg program mem).Path m₀ h' m') :
    (executions L cfg h <+: executions L cfg h' ∨ executions L cfg h' <+: executions L cfg h) ∧
      (executions L cfg h = executions L cfg h' → m.kernel.shown = m'.kernel.shown) ∧
        ∃ h₂ m₂, (programSystem L cfg program mem).Path m' h₂ m₂ ∧
          executions L cfg h <+: executions L cfg (h' ++ h₂) := by
  have inv : Inv L cfg m₀ := (boot_booted booted).inv
  have idle : IdleOk m₀ := (boot_booted booted).idleOk
  have same : SamePoint L cfg m₀ m₀ := ⟨inv, inv, idle, idle, .refl, .inl rfl⟩
  have paced : InStep (programSystem L cfg program mem) (SamePoint L cfg) Unseen (execution? L cfg) :=
    inStep timeless
  refine ⟨paced.prefixes same path path', ?_, paced.catchesUp same path path'⟩
  apply paced.views (fun m m' same => same.kernel.shown) (fun m m' same => same.inv) _ _ same path path'
  · exact fun m a m' inv step => (step_cases inv step.1).2
  · exact fun m a m' inv step unseen => step_shown inv step.1 unseen

/-! ## Traces of a program -/

def Program.action (program : Program) (m : Machine) (ticks : Bool) : Option Action :=
  if ticks then some .tick
  else match m.phase, m.kernel.current with
    | .el0 regs, some t => (program t regs m.kernel.mem).map fun made => .trap made.1 made.2
    | .el0 _, none => none
    | _, _ => some .advance

theorem Program.action_makes {ticks : Bool} (chosen : program.action m ticks = some a) :
    program.Makes m a := by
  unfold Program.action at chosen
  split at chosen
  · cases chosen
    trivial
  · split at chosen
    · rename_i phase current
      obtain ⟨made, runs, rfl⟩ := Option.map_eq_some_iff.mp chosen
      exact ⟨_, _, current, phase, runs⟩
    · cases chosen
    · cases chosen
      trivial

/-- The path of a program, with ticks where the list has them. -/
def Program.trace (program : Program) (L : Layout) (cfg : Config) :
    Machine → List Bool → Option (List (Machine × Action) × Machine)
  | m, [] => some ([], m)
  | m, ticks :: rest =>
      (program.action m ticks).bind fun a => (m.step L cfg a).bind fun m' =>
        (program.trace L cfg m' rest).map fun p => ((m, a) :: p.1, p.2)

theorem Program.trace_path {clock : List Bool} (traced : program.trace L cfg m clock = some (h, m')) :
    (programSystem L cfg program mem).Path m h m' := by
  induction clock generalizing m h with
  | nil =>
      cases traced
      exact .refl
  | cons ticks rest ih =>
      obtain ⟨a, chosen, stepped⟩ := Option.bind_eq_some_iff.mp traced
      obtain ⟨m₁, step, later⟩ := Option.bind_eq_some_iff.mp stepped
      obtain ⟨p, traced', same⟩ := Option.map_eq_some_iff.mp later
      cases same
      exact .cons ⟨step, Program.action_makes chosen⟩ (ih traced')

def exiting : Program := fun _ _ _ => some ([], .svc sysExit [])

theorem exiting_timeless : exiting.Timeless := by
  intro t regs mem stores tf runs asks
  cases runs
  exact absurd asks.number (by decide)

set_option maxRecDepth 4000 in
/-- The tasks exit, without ticks and with a tick on the way of `task_a` to EL0 and another in the idle
loop. -/
theorem run_ticks_unseen_exit : ∃ (h h' : List (Machine × Action)) (m m' : Machine),
    (∃ (i : Nat) (r : Machine × Action), h'[i]? = some r ∧ r.2 = .tick ∧ r.1.phase = .wfi) ∧
      (executions .sample .sample h).length = 3 ∧
        executions .sample .sample h = executions .sample .sample h' ∧
          m.kernel.shown = m'.kernel.shown := by
  obtain ⟨m₀, h, m, h', m', booted, traced, traced', idle, three, three'⟩ :
      ∃ (m₀ : Machine) (h : List (Machine × Action)) (m : Machine) (h' : List (Machine × Action))
        (m' : Machine), boot .sample .sample (fun _ => 0) = .ok m₀ ∧
          exiting.trace .sample .sample m₀ (.replicate 22 false) = some (h, m) ∧
            exiting.trace .sample .sample m₀ (.replicate 3 false ++ [true] ++ .replicate 18 false ++
              [true] ++ .replicate 3 false) = some (h', m') ∧
              (∃ (i : Nat) (r : Machine × Action), h'[i]? = some r ∧ r.2 = .tick ∧
                r.1.phase = .wfi) ∧ (executions .sample .sample h).length = 3 ∧
                  (executions .sample .sample h').length = 3 :=
    ⟨_, _, _, _, _, rfl, rfl, rfl, ⟨22, _, rfl, rfl, rfl⟩, rfl, rfl⟩
  have path : (programSystem .sample .sample exiting fun _ => 0).Path m₀ h m :=
    Program.trace_path traced
  have path' : (programSystem .sample .sample exiting fun _ => 0).Path m₀ h' m' :=
    Program.trace_path traced'
  obtain ⟨prefixes, shown, _⟩ := run_ticks_unseen exiting_timeless booted path path'
  have same : executions .sample .sample h = executions .sample .sample h' := by
    rcases prefixes with before | before
    · exact before.eq_of_length (three.trans three'.symm)
    · exact (before.eq_of_length (three'.trans three.symm)).symm
  exact ⟨h, h', m, m', idle, three, same, shown same⟩

end ProtoOs
