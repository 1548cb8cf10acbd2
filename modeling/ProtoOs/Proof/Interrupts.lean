import ProtoOs.Kernel.Interrupts
import ProtoOs.Lib.Progress
import ProtoOs.Proof.Data

namespace ProtoOs

open Transition

variable {L : Layout} {cfg : Config} {b b' : Board} {g : Gic} {t : Timer} {v freq : UInt64}

/-! ## The controller -/

structure Gic.Ready (g : Gic) : Prop where
  distributor : g.distributor = 1
  interface : g.interface = 1
  enabled : g.enabled &&& (1 <<< timerIrqId) ≠ 0
  priority : (g.priority >>> timerPriorityShift) &&& 0xFF < g.mask

theorem Gic.Ready.signals (ready : g.Ready) (line : Bool) :
    g.signals line = (line && !g.active) := by
  unfold Gic.signals
  rw [ready.distributor, ready.interface]
  simp [ready.enabled, ready.priority]

theorem Gic.Ready.of_active {active : Bool} (ready : g.Ready) : { g with active := active }.Ready :=
  ⟨ready.distributor, ready.interface, ready.enabled, ready.priority⟩

theorem set_bits (w bits : UInt32) : (w &&& ~~~bits ||| bits) &&& bits = bits := by
  apply UInt32.toBitVec_inj.mp
  ext i below
  simp only [UInt32.toBitVec_and, UInt32.toBitVec_or, UInt32.toBitVec_not, BitVec.getElem_and,
    BitVec.getElem_or, BitVec.getElem_not]
  grind

theorem gicInit_ready (g : Gic) : (gicInit g).Ready where
  distributor := rfl
  interface := rfl
  enabled := by
    show (g.enabled &&& ~~~(1 <<< timerIrqId) ||| 1 <<< timerIrqId) &&& (1 <<< timerIrqId) ≠ 0
    rw [set_bits]
    decide
  priority := by
    show ((g.priority &&& ~~~((0xFF : UInt32) <<< timerPriorityShift) |||
      (0x80 : UInt32) <<< timerPriorityShift) >>> timerPriorityShift) &&& 0xFF < 0xFF
    have cleared : ~~~((0xFF : UInt32) <<< timerPriorityShift) >>> timerPriorityShift = 0 := by
      decide
    have set : ((0x80 : UInt32) <<< timerPriorityShift) >>> timerPriorityShift = 0x80 := by decide
    rw [UInt32.shiftRight_or, UInt32.shiftRight_and, cleared, set, UInt32.and_zero, UInt32.zero_or]
    decide

theorem Gic.Ready.acknowledge (ready : g.Ready) (idle : g.active = false) :
    g.acknowledge true = (timerIrqId, { g with active := true }) := by
  rw [Gic.acknowledge, ready.signals, idle]
  rfl

/-! ## The timer -/

theorem tickInterval_pos : 0 < (tickInterval freq).toNat := by
  unfold tickInterval
  split_ifs with zero
  · decide
  · rw [← UInt64.toNat_inj] at zero
    exact Nat.pos_of_ne_zero zero

theorem tickInterval_lt (small : freq < 0x100000000) : (tickInterval freq).toNat < 2 ^ 31 := by
  unfold tickInterval
  split_ifs
  · decide
  · rw [UInt64.toNat_div]
    have below : freq.toNat < 0x100000000 := small
    have thousand : (1000 : UInt64).toNat = 1000 := rfl
    rw [thousand]
    omega

theorem signed_small (small : v.toNat < 2 ^ 31) : v.toUInt32.toInt32.toInt = v.toNat := by
  have kept : v.toUInt32.toBitVec.toNat = v.toNat := by
    show v.toUInt32.toNat = v.toNat
    rw [UInt64.toNat_toUInt32]
    exact Nat.mod_eq_of_lt (Nat.lt_trans small (by decide))
  show v.toUInt32.toBitVec.toInt = v.toNat
  rw [BitVec.toInt_eq_toNat_of_lt (by rw [kept]; omega), kept]

theorem Timer.asserted_iff (on : t.ctl = 1) : t.asserted = true ↔ t.cval ≤ t.count := by
  have unmasked : (1 : UInt64) &&& 2 = 0 := by decide
  unfold Timer.asserted
  rw [on]
  simp [unmasked]

def Timer.remaining (t : Timer) : Int := max (t.cval - t.count) 0

theorem Timer.remaining_due (due : t.cval ≤ t.count) : t.remaining = 0 :=
  max_eq_right (by omega)

theorem Timer.remaining_count : ({ t with count := t.count + 1 } : Timer).remaining +
    (if t.cval ≤ t.count then 0 else 1) = t.remaining := by
  show max (t.cval - (t.count + 1)) 0 + _ = max (t.cval - t.count) 0
  split_ifs
  · omega
  · omega

theorem Timer.remaining_writeTval (small : v.toNat < 2 ^ 31) :
    (t.writeTval v).remaining = v.toNat := by
  show max (t.count + v.toUInt32.toInt32.toInt - t.count) 0 = v.toNat
  rw [signed_small small]
  omega

/-! ## The clock of the kernel -/

def ticks (h : List (Machine × Action)) : Nat := h.countP (·.2.isTick)

theorem ticks_snoc {h : List (Machine × Action)} (p : Machine × Action) :
    ticks (h ++ [p]) = ticks h + if p.2.isTick then 1 else 0 := by
  rw [ticks, List.countP_append, List.countP_singleton]
  rfl

section Clock

variable {k k₁ : Kernel} {m m' : Machine} {a : Action} {s : Slot} {tf : TrapFrame} {o : Outcome}
  {reason : TaskReturnReason}

theorem Effect.clock (effect : Effect cfg k s tf k₁ o) : k₁.schedTicks = k.schedTicks := by
  cases effect with
  | refused | ticks | write | yield | exit | fault | park | handOver | take | listen | answer
  | report | await | restart => rfl

theorem Aborts.clock (aborts : Aborts s k k₁) : k₁.schedTicks = k.schedTicks := by
  induction aborts with
  | refl => rfl
  | abort _ _ _ _ ih => exact ih

theorem Left.clock (left : Left k s reason k₁) : k₁.schedTicks = k.schedTicks := by
  cases left with
  | yield | block => rfl
  | death _ _ _ aborts _ noted =>
      have same := aborts.clock
      cases noted with
      | woke | kept | overwrote => exact same

theorem timerHandleIrq_clock : (timerHandleIrq cfg k).schedTicks = k.schedTicks + 1 := by
  unfold timerHandleIrq threadTickIrq
  simp only
  cases k.current with
  | none => split_ifs <;> rfl
  | some c =>
      simp only
      split_ifs
      all_goals rfl

theorem resumeAt_clock {at_ : Resume} (step : resumeAt k at_ = some m) :
    m.kernel.schedTicks = k.schedTicks := by
  unfold resumeAt at step
  split at step
  · unfold threadEntryUserTask at step
    split at step
    · cases step
      rfl
    · rename_i entered
      cases step
      split at entered
      · cases entered
      · split_ifs at entered
        cases entered
        rfl
  · cases step
    rfl
  · unfold userTaskReturnTail at step
    split at step
    · cases step
      rfl
    · rename_i returned
      simp only at returned
      split_ifs at returned
      cases returned
      cases step
      rfl
  · cases step
    rfl
  · cases step
  · cases step

theorem advance_clock (step : advance L m = some m') :
    m'.kernel.schedTicks = m.kernel.schedTicks := by
  obtain ⟨k, phase⟩ := m
  unfold advance at step
  cases phase with
  | el0 | panic => cases step
  | pick =>
      simp only at step
      split at step
      all_goals cases step
      all_goals rfl
  | switch next =>
      simp only at step
      split_ifs at step
      · cases step
        rfl
      · cases step
        show (threadSwitchToMark k next).schedTicks = k.schedTicks
        unfold threadSwitchToMark
        split
        · split
          all_goals rfl
        · rfl
  | enter prev next caller =>
      simp only at step
      split at step
      · cases step
        rfl
      · rename_i entered
        cases step
        have left (k : Kernel) : (contextSwitch L k prev caller).schedTicks = k.schedTicks := by
          cases prev
          all_goals rfl
        unfold threadSwitchToEnter at entered
        simp only at entered
        split_ifs at entered
        all_goals cases entered
        all_goals exact left _
  | cont at_ => exact resumeAt_clock step
  | currentCtx =>
      simp only at step
      split at step
      all_goals cases step
      all_goals rfl
  | resume =>
      cases step
      rfl
  | wfi =>
      cases step
      show (threadReschedPoint k .idleLoop).kernel.schedTicks = k.schedTicks
      unfold threadReschedPoint threadReschedTake
      cases k.reschedPending
      all_goals rfl

theorem step_clock (inv : Inv L cfg m) (step : m.step L cfg a = some m') :
    m'.kernel.schedTicks = m.kernel.schedTicks + if a.isTick then 1 else 0 := by
  cases a with
  | tick =>
      simp only [Machine.step] at step
      split_ifs at step
      cases step
      exact timerHandleIrq_clock
  | advance =>
      rw [advance_clock step]
      exact (UInt64.add_zero _).symm
  | trap stores tf =>
      have same : m'.kernel.schedTicks = m.kernel.schedTicks := by
        cases (step_cases inv step).1 with
        | quiet untrapped => exact absurd rfl (untrapped stores tf)
        | back _ _ _ effect => exact effect.clock
        | away _ _ _ effect _ left => exact left.clock.trans effect.clock
        | outside _ _ _ effect => exact effect.clock
      rw [same]
      exact (UInt64.add_zero _).symm

theorem run_clock {h : List (Machine × Action)} (run : (kernelSystem L cfg).Run h m) :
    m.kernel.schedTicks = UInt64.ofNat (ticks h) := by
  induction run with
  | start first =>
      obtain ⟨mem, booted⟩ := first
      simp only [boot, threadSystemInit] at booted
      split at booted
      · cases booted
      · rename_i ready
        cases valid : validateEl0Layout L with
        | error p => simp [valid] at ready
        | ok u =>
            simp only [valid, Except.ok.injEq] at ready booted
            subst ready
            subst booted
            rfl
  | @step h m a m' before taken ih =>
      rw [step_clock (run_inv before) taken, ih, ticks_snoc, UInt64.ofNat_add]
      congr 1
      split_ifs
      all_goals rfl

end Clock

/-! ## The board -/

def elapsed (h : List (Board × BoardAction)) : Nat := h.countP (·.2.isCount)

/-- How long an interrupt of the timer has waited for its handler. -/
def late (h : List (Board × BoardAction)) : Nat :=
  h.countP fun p => p.2.isCount && p.1.timer.asserted

def interrupts (h : List (Board × BoardAction)) : Nat := h.countP (·.2.isIrq)

def IrqPoint.due : IrqPoint → Nat
  | .acknowledge | .timer _ => 1
  | .away | .finish _ => 0

def Board.Attends (b : Board) : Prop :=
  match b.point with
  | .away => b.gic.active = false
  | .acknowledge =>
      b.gic.active = false ∧ b.timer.cval ≤ b.timer.count ∧ b.machine.phase.irqEnabled = true
  | .timer iar =>
      iar = timerIrqId ∧ b.timer.cval ≤ b.timer.count ∧ b.machine.phase.irqEnabled = true
  | .finish iar => iar = timerIrqId

structure Board.Timed (L : Layout) (cfg : Config) (h : List (Board × BoardAction))
    (h' : List (Machine × Action)) (b : Board) : Prop where
  runs : (kernelSystem L cfg).Run h' b.machine
  ready : b.gic.Ready
  on : b.timer.ctl = 1
  positive : 0 < b.interval.toNat
  small : b.interval.toNat < 2 ^ 31
  attends : b.Attends
  counted : interrupts h = ticks h' + b.point.due
  near : b.timer.remaining ≤ b.interval.toNat
  time : (elapsed h : Int) + b.timer.remaining = (ticks h' + 1) * b.interval.toNat + late h

theorem init_timed (first : (boardSystem L cfg).init b) : b.Timed L cfg [] [] := by
  obtain ⟨mem, g, t, booted, idle, freq, gic, timer, interval, away⟩ := first
  have small := tickInterval_lt freq
  have armed : b.timer.remaining = b.interval.toNat := by
    rw [timer, interval]
    exact Timer.remaining_writeTval small
  refine ⟨.start ⟨mem, booted⟩, gic ▸ gicInit_ready g, by rw [timer]; rfl,
    interval ▸ tickInterval_pos, interval ▸ small, ?_, by rw [away]; rfl, armed.le, ?_⟩
  · unfold Board.Attends
    rw [away, gic]
    exact idle
  · rw [armed]
    simp [elapsed, late, ticks]

section Steps

variable {h : List (Board × BoardAction)} {h' : List (Machine × Action)}

theorem elapsed_snoc (p : Board × BoardAction) :
    elapsed (h ++ [p]) = elapsed h + if p.2.isCount then 1 else 0 := by
  rw [elapsed, List.countP_append, List.countP_singleton]
  rfl

theorem late_snoc (p : Board × BoardAction) : late (h ++ [p]) =
    late h + if p.2.isCount && p.1.timer.asserted then 1 else 0 := by
  rw [late, List.countP_append, List.countP_singleton]
  rfl

theorem interrupts_snoc (p : Board × BoardAction) :
    interrupts (h ++ [p]) = interrupts h + if p.2.isIrq then 1 else 0 := by
  rw [interrupts, List.countP_append, List.countP_singleton]
  rfl

theorem Board.Timed.count (timed : b.Timed L cfg h h') :
    Timed L cfg (h ++ [(b, .count)]) h'
      { b with timer := { b.timer with count := b.timer.count + 1 } } := by
  obtain ⟨runs, ready, on, positive, small, attends, counted, near, time⟩ := timed
  have passes := Timer.remaining_count (t := b.timer)
  refine ⟨runs, ready, on, positive, small, ?_, by rw [interrupts_snoc]; exact counted, ?_, ?_⟩
  · unfold Attends at attends ⊢
    cases point : b.point with
    | away | finish => simpa only [point] using attends
    | acknowledge | timer =>
        simp only [point] at attends ⊢
        obtain ⟨first, due, enabled⟩ := attends
        exact ⟨first, by omega, enabled⟩
  · split_ifs at passes
    all_goals simp only
    all_goals omega
  · have asserted := Timer.asserted_iff on
    rw [elapsed_snoc, late_snoc]
    by_cases due : b.timer.cval ≤ b.timer.count
    · rw [if_pos due] at passes
      simp only [BoardAction.isCount, asserted.mpr due, Bool.and_self, if_true]
      push_cast
      linarith
    · rw [if_neg due] at passes
      simp only [BoardAction.isCount, mt asserted.mp due, Bool.and_false, if_true]
      push_cast
      linarith

theorem Board.Timed.run {a : Action} {m : Machine} (timed : b.Timed L cfg h h')
    (away : b.point = .away) (work : a.isTick = false) (step : b.machine.step L cfg a = some m) :
    Timed L cfg (h ++ [(b, .run a)]) (h' ++ [(b.machine, a)]) { b with machine := m } := by
  obtain ⟨runs, ready, on, positive, small, attends, counted, near, time⟩ := timed
  have same : ticks (h' ++ [(b.machine, a)]) = ticks h' := by
    rw [ticks_snoc, work]
    rfl
  refine ⟨runs.step step, ready, on, positive, small, ?_, ?_, near, ?_⟩
  · unfold Attends at attends ⊢
    simpa only [away] using attends
  · rw [interrupts_snoc, same]
    exact counted
  · rw [elapsed_snoc, late_snoc, same]
    exact time

theorem Board.Timed.irq (timed : b.Timed L cfg h h') (away : b.point = .away)
    (enabled : b.machine.phase.irqEnabled = true) (signals : b.gic.signals b.timer.asserted = true) :
    Timed L cfg (h ++ [(b, .irq)]) h' { b with point := .acknowledge } := by
  obtain ⟨runs, ready, on, positive, small, attends, counted, near, time⟩ := timed
  rw [ready.signals, Bool.and_eq_true] at signals
  refine ⟨runs, ready, on, positive, small, ?_, ?_, near, ?_⟩
  · unfold Attends at attends ⊢
    rw [away] at attends
    exact ⟨attends, (Timer.asserted_iff on).mp signals.1, enabled⟩
  · rw [away] at counted
    rw [interrupts_snoc]
    exact congrArg (· + 1) counted
  · rw [elapsed_snoc, late_snoc]
    exact time

theorem Board.Timed.handle (timed : b.Timed L cfg h h') (step : b.handle L cfg = some b') :
    ∃ h', b'.Timed L cfg (h ++ [(b, .handle)]) h' := by
  obtain ⟨runs, ready, on, positive, small, attends, counted, near, time⟩ := timed
  unfold Attends at attends
  unfold Board.handle at step
  cases point : b.point with
  | away => simp [point] at step
  | acknowledge =>
      simp only [point] at step attends counted
      obtain ⟨idle, due, enabled⟩ := attends
      have timer : timerIrqId &&& 0x3FF = timerIrqId := by decide
      simp only [(Timer.asserted_iff on).mpr due, ready.acknowledge idle, timer, if_true,
        Option.some_inj] at step
      subst step
      refine ⟨h', runs, ready.of_active, on, positive, small, ⟨rfl, due, enabled⟩, ?_, near, ?_⟩
      · rw [interrupts_snoc]
        exact counted
      · rw [elapsed_snoc, late_snoc]
        exact time
  | timer iar =>
      simp only [point] at step attends counted
      obtain ⟨rfl, due, enabled⟩ := attends
      obtain ⟨m, ticked, rfl⟩ := Option.map_eq_some_iff.mp step
      have restarted := Timer.remaining_writeTval (t := b.timer) small
      have taken : (kernelSystem L cfg).step b.machine .tick m := ticked
      refine ⟨h' ++ [(b.machine, .tick)], runs.step taken, ready, on, positive, small, rfl, ?_,
        restarted.le, ?_⟩
      · rw [interrupts_snoc, ticks_snoc]
        exact counted
      · rw [Timer.remaining_due due] at time
        rw [elapsed_snoc, late_snoc, ticks_snoc, restarted]
        simp only [BoardAction.isCount, Action.isTick, Bool.false_and, if_true]
        push_cast
        linarith
  | finish iar =>
      simp only [point] at step attends counted
      subst attends
      cases step
      refine ⟨h', runs, ready.of_active, on, positive, small, rfl, ?_, near, ?_⟩
      · rw [interrupts_snoc]
        exact counted
      · rw [elapsed_snoc, late_snoc]
        exact time

theorem Board.Timed.step {a : BoardAction} (timed : b.Timed L cfg h h')
    (step : b.step L cfg a = some b') : ∃ h', b'.Timed L cfg (h ++ [(b, a)]) h' := by
  cases a with
  | count =>
      cases step
      exact ⟨h', timed.count⟩
  | run a =>
      simp only [Board.step] at step
      split_ifs at step with may
      obtain ⟨m, taken, rfl⟩ := Option.map_eq_some_iff.mp step
      exact ⟨_, timed.run may.1 may.2 taken⟩
  | irq =>
      simp only [Board.step] at step
      split_ifs at step with may
      cases step
      exact ⟨h', timed.irq may.1 may.2.1 may.2.2⟩
  | handle => exact timed.handle step

theorem run_timed (run : (boardSystem L cfg).Run h b) : ∃ h', b.Timed L cfg h h' := by
  induction run with
  | start first => exact ⟨[], init_timed first⟩
  | step _ taken ih =>
      obtain ⟨h', timed⟩ := ih
      exact timed.step taken

theorem Board.Timed.handles (timed : b.Timed L cfg h h') (begun : b.point ≠ .away) :
    ∃ b', b.handle L cfg = some b' := by
  have attends := timed.attends
  unfold Attends at attends
  unfold Board.handle
  cases point : b.point with
  | away => exact absurd point begun
  | acknowledge | finish => exact ⟨_, rfl⟩
  | timer iar =>
      rw [point] at attends
      exact ⟨_, by rw [Machine.step, if_pos attends.2.2]; rfl⟩

/-- The machine runs as the kernel does by itself, with a tick for each interrupt, and its clock
tells how many there were. The time that has passed is that of the ticks, that since the last of
them, and that for which interrupts have waited. An interrupt that is due can be taken whenever
interrupts are enabled. -/
theorem board_keeps_time (run : (boardSystem L cfg).Run h b) :
    ∃ h', (kernelSystem L cfg).Run h' b.machine ∧ interrupts h = ticks h' + b.point.due ∧
      b.machine.kernel.schedTicks = UInt64.ofNat (ticks h') ∧
      0 < b.interval.toNat ∧ b.timer.remaining ≤ b.interval.toNat ∧
      (elapsed h : Int) + b.timer.remaining = (ticks h' + 1) * b.interval.toNat + late h ∧
      (b.timer.asserted = true → b.machine.phase.irqEnabled = true →
        ∃ a b', (a = .irq ∨ a = .handle) ∧ b.step L cfg a = some b') := by
  obtain ⟨h', timed⟩ := run_timed run
  refine ⟨h', timed.runs, timed.counted, run_clock timed.runs, timed.positive, timed.near,
    timed.time, fun due enabled => ?_⟩
  by_cases away : b.point = .away
  · have idle := timed.attends
    unfold Board.Attends at idle
    rw [away] at idle
    have signals : b.gic.signals b.timer.asserted = true := by
      rw [timed.ready.signals, due, idle]
      rfl
    exact ⟨.irq, _, .inl rfl, if_pos ⟨away, enabled, signals⟩⟩
  · obtain ⟨b', handled⟩ := timed.handles away
    exact ⟨.handle, b', .inr rfl, handled⟩

end Steps

/-- A timer of 1 kHz interrupts at each count. -/
def Board.sample (m : Machine) : Board where
  machine := m
  gic := gicInit ⟨0, 0, 0, 0, 0, false⟩
  timer := timerInit ⟨1000, 0, 0, 0, 0⟩
  interval := tickInterval 1000
  point := .away

/-- An interrupt whose handler runs to its end, while the counter counts on. -/
theorem board_keeps_time_tick : ∃ h b h', (boardSystem .sample .sample).Run h b ∧
    b.point = .away ∧ interrupts h = 1 ∧ elapsed h = 2 ∧ b.machine.kernel.schedTicks = 1 ∧
      (kernelSystem .sample .sample).Run h' b.machine ∧ 1 = ticks h' ∧
        (elapsed h : Int) + b.timer.remaining = (ticks h' + 1) * b.interval.toNat + late h := by
  obtain ⟨m, h, b, booted, traced, away, clock, once, counted⟩ : ∃ m h b,
      boot .sample .sample (fun _ => 0) = .ok m ∧
        System.trace (Board.step .sample .sample) (Board.sample m)
          [.count, .irq, .handle, .handle, .count, .handle] = some (h, b) ∧
        b.point = .away ∧ b.machine.kernel.schedTicks = 1 ∧ interrupts h = 1 ∧ elapsed h = 2 :=
    ⟨_, _, _, rfl, rfl, rfl, rfl, rfl, rfl⟩
  have start : (boardSystem .sample .sample).Run [] (Board.sample m) :=
    .start ⟨_, ⟨0, 0, 0, 0, 0, false⟩, ⟨1000, 0, 0, 0, 0⟩, booted, rfl, by decide, rfl, rfl, rfl, rfl⟩
  have run : (boardSystem .sample .sample).Run h b :=
    start.extend (System.path_of_trace (fun _ _ _ step => step) traced)
  obtain ⟨h', runs, interrupts, _, _, _, time, _⟩ := board_keeps_time run
  rw [once, away] at interrupts
  exact ⟨h, b, h', run, away, once, counted, clock, runs, interrupts, time⟩

end ProtoOs
