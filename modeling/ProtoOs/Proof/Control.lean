import ProtoOs.Proof.Invariant

/-!
# Control flow

`PhaseOk` says which thread control belongs to at each phase. `step_cases` describes a step of the
machine: it is quiet, or a trap whose effect is one of those of `Effect`. With `Inv.step` it is
what the properties of runs are proved from.
-/

namespace ProtoOs

variable {L : Layout} {cfg : Config} {k k' : Kernel} {m m' : Machine} {t s next : Slot}
  {a : Action} {entering : Option Slot}

/-! ## Phases -/

/-- Where the thread of a slot calls `thread_resched_point`. -/
def continuation (s : Slot) : Resume := if s = slotIdle then .idleLoop else .returnStep s

theorem continuation_belongs (s : Slot) : (continuation s).belongs s := by
  by_cases idle : s = slotIdle
  · simp [continuation, Resume.belongs, idle]
  · simp [continuation, Resume.belongs, idle]

/-- A thread that `context_switch` is about to enter, or has entered. -/
structure Returning (k : Kernel) (t : Slot) : Prop where
  current : k.current = some t
  idle : t = slotIdle → (k.threads t).state = .running
  state : (k.threads t).state = .runnable ∨ (k.threads t).state = .running
  ready : t ≠ slotIdle → (k.threads t).user.state = .runnable
  others : ∀ u, u ≠ t → OffCpu u (k.threads u)

inductive PhaseOk (k : Kernel) : Phase → Prop
  | el0 {t : Slot} {regs : UserTaskCtx} (active : Active k t) : PhaseOk k (.el0 regs)
  | pick {t : Slot} (leaving : Leaving k t) : PhaseOk k (.pick (continuation t))
  | switchFirst (current : k.current = none) (off : ∀ u, OffCpu u (k.threads u))
      (selectable : threadIsSelectable k (some slotTaskA)) : PhaseOk k (.switch slotTaskA .boot)
  | switch {t next : Slot} (leaving : Leaving k t) (selectable : threadIsSelectable k (some next)) :
      PhaseOk k (.switch next (continuation t))
  | enter {prev : Option Slot} {next : Slot} {caller : Resume} (returning : Returning k next)
      (running : (k.threads next).state = .running)
      (left : ∀ p, prev = some p → p ≠ next ∧ caller = continuation p) :
      PhaseOk k (.enter prev next caller)
  | cont {t : Slot} {at_ : Resume} (returning : Returning k t) (belongs : at_.belongs t) :
      PhaseOk k (.cont at_)
  | currentCtx {t : Slot} (active : Active k t) : PhaseOk k .currentCtx
  | resume {t : Slot} (active : Active k t) : PhaseOk k (.resume t)
  | wfi (leaving : Leaving k slotIdle) : PhaseOk k .wfi

/-- The only panic is that of the trap redirection; it may find the task registered already. -/
inductive Inv (L : Layout) (cfg : Config) : Machine → Prop
  | running {k : Kernel} {phase : Phase} (ok : KernelOk L cfg k none) (phaseOk : PhaseOk k phase) :
      Inv L cfg ⟨k, phase⟩
  | halted {k : Kernel} {entering : Option Slot} (ok : KernelOk L cfg k entering) :
      Inv L cfg ⟨k, .panic .trapElrOutsideSandbox⟩

theorem Inv.kernelOk (inv : Inv L cfg m) (calm : ∀ p, m.phase ≠ .panic p) :
    KernelOk L cfg m.kernel none := by
  cases inv with
  | running ok => exact ok
  | halted => exact absurd rfl (calm _)

theorem Inv.active {regs : UserTaskCtx} (inv : Inv L cfg m) (el0 : m.phase = .el0 regs) :
    KernelOk L cfg m.kernel none ∧ ∃ t, Active m.kernel t := by
  cases inv with
  | running ok phaseOk =>
      cases el0
      cases phaseOk with
      | @el0 t _ active => exact ⟨ok, t, active⟩
  | halted => cases el0

theorem Inv.leaving {r : Resume} (inv : Inv L cfg m) (pick : m.phase = .pick r) :
    ∃ t, Leaving m.kernel t := by
  cases inv with
  | running ok phaseOk =>
      cases pick
      cases phaseOk with
      | @pick t leaving => exact ⟨t, leaving⟩
  | halted => cases pick

theorem Inv.idling (inv : Inv L cfg m) (wfi : m.phase = .wfi) : m.kernel.current = some slotIdle := by
  cases inv with
  | running ok phaseOk =>
      cases wfi
      cases phaseOk with
      | wfi leaving => exact leaving.current
  | halted => cases wfi

/-! ## The scheduler -/

theorem selectable_idle (ok : KernelOk L cfg k none)
    (state : (k.threads slotIdle).state = .runnable ∨ (k.threads slotIdle).state = .running) :
    threadIsSelectable k (some slotIdle) := by
  have kind := (ok.threads slotIdle).kind
  rcases state with state | state
  · simp [threadIsSelectable, kind, state]
  · simp [threadIsSelectable, kind, state]

theorem selectable_user (ok : KernelOk L cfg k none) (user : s ≠ slotIdle)
    (off : OffCpu s (k.threads s)) : threadIsSelectable k (some s) ↔
      (k.threads s).state = .runnable ∧ (k.threads s).user.state = .runnable := by
  have kind := (ok.threads s).kind
  simp only [user, if_false, OffCpu] at kind off
  rcases off with ⟨state, ready | blocked⟩ | ⟨state, dead⟩
  · simp [threadIsSelectable, kind, state, ready]
  · simp [threadIsSelectable, kind, state, blocked]
  · simp [threadIsSelectable, state]

theorem pickNextThread_selectable (ok : KernelOk L cfg k none) (leaving : Leaving k t) :
    ∃ next, pickNextThread k = .ok next ∧ threadIsSelectable k (some next) := by
  have idle : threadIsSelectable k (some slotIdle) := by
    by_cases same : t = slotIdle
    · subst same
      exact selectable_idle ok (.inr (by simpa [Paused] using leaving.self))
    · exact selectable_idle ok (.inl (by simpa [OffCpu] using leaving.others slotIdle (Ne.symm same)))
  simp only [pickNextThread, leaving.current]
  split
  · rename_i found
    obtain ⟨i, _, picked⟩ := List.exists_of_findSome?_eq_some found
    split_ifs at picked with skip choice
    refine ⟨_, rfl, ?_⟩
    rw [← Option.some_inj.mp picked]
    exact choice.2
  · rename_i c same
    cases same
    split_ifs with self
    · exact ⟨_, rfl, self.1⟩
    · exact ⟨_, rfl, idle⟩
  · rename_i impossible
    cases impossible

theorem threadSwitchToMark_ok (ok : KernelOk L cfg k none) :
    KernelOk L cfg (threadSwitchToMark k next) none := by
  have marks (k : Kernel) (ok : KernelOk L cfg k none) (s : Slot) (state : ThreadState) :
      KernelOk L cfg (k.modifyThread s fun t => { t with state := state }) none :=
    ok.modifyThread ⟨(ok.threads s).slot, (ok.threads s).kind, (ok.threads s).sp, (ok.threads s).lr,
      (ok.threads s).elr, (ok.threads s).template⟩ Iff.rfl
  have finish (k : Kernel) (ok : KernelOk L cfg k none) : KernelOk L cfg
      ((k.modifyThread next fun t => { t with state := .running }).setCurrent (some next)) none :=
    (marks k ok next .running).congr rfl (fun _ => rfl) (by rintro (_ | _ | _) <;> rfl)
      (fun _ _ _ member => member)
  unfold threadSwitchToMark
  split
  · split
    · exact finish _ (marks k ok _ .runnable)
    · exact finish k ok
  · exact finish k ok

theorem threadSwitchToMark_threads (s : Slot) : (threadSwitchToMark k next).threads s =
    if s = next then { k.threads s with state := .running }
    else if k.current = some s ∧ (k.threads s).state = .running then
      { k.threads s with state := .runnable }
    else k.threads s := by
  unfold threadSwitchToMark
  cases current : k.current with
  | none => by_cases same : s = next <;> simp [same]
  | some p =>
      by_cases running : (k.threads p).state = .running
      · by_cases same : s = next
        · subst same
          by_cases isPrev : s = p
          · subst isPrev
            simp [running]
          · simp [running, isPrev]
        · by_cases isPrev : s = p
          · subst isPrev
            simp [running, same]
          · have other : p ≠ s := Ne.symm isPrev
            simp [running, same, isPrev, other]
      · by_cases same : s = next
        · simp [running, same]
        · by_cases isPrev : s = p
          · subst isPrev
            simp [running, same]
          · simp [running, same, Ne.symm isPrev]

theorem threadSwitchToMark_current : (threadSwitchToMark k next).current = some next := by
  unfold threadSwitchToMark
  rfl

structure Selected (k : Kernel) (s : Slot) : Prop where
  state : (k.threads s).state = .runnable ∨ (k.threads s).state = .running
  ready : s ≠ slotIdle → (k.threads s).user.state = .runnable

theorem Leaving.selected (ok : KernelOk L cfg k none) (leaving : Leaving k t)
    (selectable : threadIsSelectable k (some next)) : Selected k next := by
  by_cases idle : next = slotIdle
  · subst idle
    refine ⟨?_, fun user => absurd rfl user⟩
    by_cases same : t = slotIdle
    · subst same
      exact .inr (by simpa [Paused] using leaving.self)
    · exact .inl (by simpa [OffCpu] using leaving.others slotIdle (Ne.symm same))
  · obtain ⟨state, ready⟩ := (selectable_user ok idle (leaving.off idle)).mp selectable
    exact ⟨.inl state, fun _ => ready⟩

theorem returning_of_mark (selected : Selected k next)
    (others : ∀ u, u ≠ next → (k.current = some u ∧ (k.threads u).state = .running ∧ u = slotIdle) ∨
      OffCpu u (k.threads u)) : Returning (threadSwitchToMark k next) next := by
  refine ⟨threadSwitchToMark_current, fun _ => ?_, .inr ?_, fun user => ?_, fun u other => ?_⟩
  · simp [threadSwitchToMark_threads]
  · simp [threadSwitchToMark_threads]
  · simpa [threadSwitchToMark_threads] using selected.ready user
  · rw [threadSwitchToMark_threads, if_neg other]
    rcases others u other with ⟨current, running, idle⟩ | off
    · subst idle
      simp [current, running, OffCpu]
    · split_ifs with leaves
      · have idle : u ≠ slotIdle := by
          rintro rfl
          simp [OffCpu, leaves.2] at off
        simp [OffCpu, idle, leaves.2] at off
      · exact off

theorem Leaving.returning_mark (ok : KernelOk L cfg k none) (leaving : Leaving k t)
    (selectable : threadIsSelectable k (some next)) :
    Returning (threadSwitchToMark k next) next := by
  refine returning_of_mark (leaving.selected ok selectable) fun u _ => ?_
  by_cases same : u = t
  · subst same
    by_cases idle : u = slotIdle
    · exact .inl ⟨leaving.current, by simpa [Paused, idle] using leaving.self, idle⟩
    · exact .inr (by simpa [Paused, idle] using leaving.self)
  · exact .inr (leaving.others u same)

theorem Leaving.returning (ok : KernelOk L cfg k none) (leaving : Leaving k t)
    (selectable : threadIsSelectable k (some t)) : Returning k t := by
  have selected := leaving.selected ok selectable
  exact ⟨leaving.current, fun idle => by simpa [Paused, idle] using leaving.self,
    selected.state, selected.ready, leaving.others⟩

/-! ## Steps that leave the tasks' data alone -/

/-- Output that does not come from `uart_write_direct`. -/
def KernelText (calls : List UartCall) : Prop := ∀ bytes, .write bytes ∉ calls

theorem KernelText.nil : KernelText [] := by simp [KernelText]

theorem KernelText.append {calls calls' : List UartCall} (text : KernelText calls)
    (text' : KernelText calls') : KernelText (calls ++ calls') := by
  intro bytes member
  rcases List.mem_append.mp member with before | after
  · exact text bytes before
  · exact text' bytes after

structure Quiet (k k' : Kernel) : Prop where
  endpoints : k'.endpoints = k.endpoints
  pendingDeath : k'.pendingDeathSlot = k.pendingDeathSlot
  supervisor : k'.blockedSupervisorSlot = k.blockedSupervisorSlot
  mem : k'.mem = k.mem
  log : k'.log = k.log
  accesses : k'.accesses = k.accesses
  uart : ∃ calls, k'.uart = k.uart ++ calls ∧ KernelText calls

theorem Quiet.scheduled {threads : Slot → Thread} {current task : Option Slot} {ticks timer : UInt64}
    {resched : Bool} : Quiet k { k with
      threads := threads, current := current, currentTask := task, schedTicks := ticks
      timerTicks := timer, reschedPending := resched } where
  endpoints := rfl
  pendingDeath := rfl
  supervisor := rfl
  mem := rfl
  log := rfl
  accesses := rfl
  uart := ⟨[], (List.append_nil _).symm, .nil⟩

theorem Quiet.rfl : Quiet k k := Quiet.scheduled

theorem Quiet.waiter (quiet : Quiet k k') (w : WaitPlace) : k'.waiter w = k.waiter w := by
  cases w <;> simp [Kernel.waiter, quiet.endpoints, quiet.supervisor]

theorem threadSwitchToMark_quiet : Quiet k (threadSwitchToMark k next) := by
  unfold threadSwitchToMark
  split
  · split
    · exact Quiet.scheduled
    · exact Quiet.scheduled
  · exact Quiet.scheduled

/-- `Quiet` with threads that differ at most in their quantum. -/
structure Ticks (k k' : Kernel) : Prop extends Quiet k k' where
  threads : ∀ s, ∃ q, k'.threads s = { k.threads s with quantumLeft := q }
  current : k'.current = k.current
  task : k'.currentTask = k.currentTask

theorem Ticks.rfl : Ticks k k := ⟨Quiet.rfl, fun _ => ⟨_, Eq.refl _⟩, Eq.refl _, Eq.refl _⟩

theorem Ticks.trans {k'' : Kernel} (first : Ticks k k') (second : Ticks k' k'') : Ticks k k'' where
  endpoints := second.endpoints.trans first.endpoints
  pendingDeath := second.pendingDeath.trans first.pendingDeath
  supervisor := second.supervisor.trans first.supervisor
  mem := second.mem.trans first.mem
  log := second.log.trans first.log
  accesses := second.accesses.trans first.accesses
  uart := by
    obtain ⟨calls, printed, text⟩ := first.uart
    obtain ⟨calls', printed', text'⟩ := second.uart
    exact ⟨calls ++ calls', by rw [printed', printed, List.append_assoc], text.append text'⟩
  threads s := by
    obtain ⟨q, before⟩ := first.threads s
    obtain ⟨r, after⟩ := second.threads s
    exact ⟨r, by rw [after, before]⟩
  current := second.current.trans first.current
  task := second.task.trans first.task

theorem ticks_quantum (c : Slot) (f : UInt32 → UInt32) :
    Ticks k (k.modifyThread c fun t => { t with quantumLeft := f t.quantumLeft }) := by
  refine ⟨Quiet.scheduled, fun s => ?_, Eq.refl _, Eq.refl _⟩
  by_cases same : s = c
  · subst same
    exact ⟨_, by simp; rfl⟩
  · exact ⟨(k.threads s).quantumLeft, by simp [same]⟩

theorem ticks_setResched (pending : Bool) : Ticks k (k.setResched pending) :=
  ⟨Quiet.scheduled, fun _ => ⟨_, Eq.refl _⟩, Eq.refl _, Eq.refl _⟩

theorem threadTickIrq_ticks : Ticks k (threadTickIrq k) := by
  have counted : Ticks k { k with schedTicks := k.schedTicks + 1 } :=
    ⟨Quiet.scheduled, fun _ => ⟨_, Eq.refl _⟩, Eq.refl _, Eq.refl _⟩
  refine counted.trans ?_
  unfold threadTickIrq
  cases k.current with
  | none => exact Ticks.rfl
  | some c =>
      simp only
      split_ifs
      · exact (ticks_quantum c fun q => q - 1).trans
          ((ticks_quantum c fun _ => threadQuantumTicks).trans (ticks_setResched true))
      · exact ticks_quantum c fun q => q - 1
      · exact (ticks_quantum c fun _ => threadQuantumTicks).trans (ticks_setResched true)
      · exact Ticks.rfl

theorem timerHandleIrq_ticks : Ticks k (timerHandleIrq cfg k) := by
  have counted : Ticks k { k with timerTicks := k.timerTicks + 1 } :=
    ⟨Quiet.scheduled, fun _ => ⟨_, Eq.refl _⟩, Eq.refl _, Eq.refl _⟩
  have ticked := counted.trans threadTickIrq_ticks
  unfold timerHandleIrq
  simp only
  split_ifs
  · exact ticked.trans ⟨⟨Eq.refl _, Eq.refl _, Eq.refl _, Eq.refl _, Eq.refl _, Eq.refl _,
      ⟨_, Eq.refl _, by simp [KernelText]⟩⟩, fun _ => ⟨_, Eq.refl _⟩, Eq.refl _, Eq.refl _⟩
  · exact ticked

theorem KernelOk.of_quiet (ok : KernelOk L cfg k none) (quiet : Quiet k k')
    (threads : ∀ s, ThreadOk L s (k'.threads s))
    (states : ∀ s, s ≠ slotIdle → ((k'.threads s).user.state = .blocked ↔
      (k.threads s).user.state = .blocked)) : KernelOk L cfg k' none where
  valid := ok.valid
  threads := threads
  waits := ok.waits.congr quiet.waiter states fun e => by rw [quiet.endpoints]
  owners e := by rw [quiet.endpoints]; exact ok.owners e
  supervisor s := by rw [quiet.waiter]; exact ok.supervisor s
  woke := by rw [quiet.log]; exact ok.woke

theorem Ticks.kernelOk (ticks : Ticks k k') (ok : KernelOk L cfg k none) : KernelOk L cfg k' none := by
  refine ok.of_quiet ticks.toQuiet (fun s => ?_) fun s _ => ?_
  · obtain ⟨q, same⟩ := ticks.threads s
    have before := ok.threads s
    rw [same]
    exact ⟨before.slot, before.kind, before.sp, before.lr, before.elr, before.template⟩
  · obtain ⟨q, same⟩ := ticks.threads s
    rw [same]

theorem Ticks.off (ticks : Ticks k k') (off : OffCpu s (k.threads s)) : OffCpu s (k'.threads s) := by
  obtain ⟨q, same⟩ := ticks.threads s
  rw [same]
  exact off

theorem Ticks.active (ticks : Ticks k k') (active : Active k t) : Active k' t := by
  obtain ⟨q, same⟩ := ticks.threads t
  exact ⟨active.user, ticks.current ▸ active.current, ticks.task ▸ active.task,
    by rw [same]; exact active.state, by rw [same]; exact active.running,
    fun u other => ticks.off (active.others u other)⟩

theorem Ticks.leaving (ticks : Ticks k k') (leaving : Leaving k t) : Leaving k' t := by
  obtain ⟨q, same⟩ := ticks.threads t
  exact ⟨ticks.current ▸ leaving.current, by rw [same]; exact leaving.self,
    fun u other => ticks.off (leaving.others u other)⟩

theorem Ticks.returning (ticks : Ticks k k') (returning : Returning k t) : Returning k' t := by
  obtain ⟨q, same⟩ := ticks.threads t
  exact ⟨ticks.current ▸ returning.current, by rw [same]; exact returning.idle,
    by rw [same]; exact returning.state, by rw [same]; exact returning.ready,
    fun u other => ticks.off (returning.others u other)⟩

theorem Ticks.selectable (ticks : Ticks k k') :
    threadIsSelectable k' (some s) = threadIsSelectable k (some s) := by
  obtain ⟨q, same⟩ := ticks.threads s
  simp [threadIsSelectable, same]

theorem Ticks.phaseOk {phase : Phase} (ticks : Ticks k k') (ok : PhaseOk k phase) :
    PhaseOk k' phase := by
  cases ok with
  | el0 active => exact .el0 (ticks.active active)
  | pick leaving => exact .pick (ticks.leaving leaving)
  | switchFirst current off selectable =>
      exact .switchFirst (ticks.current.trans current) (fun u => ticks.off (off u))
        (ticks.selectable.trans selectable)
  | switch leaving selectable =>
      exact .switch (ticks.leaving leaving) (ticks.selectable.trans selectable)
  | @enter _ next _ returning running left =>
      obtain ⟨q, same⟩ := ticks.threads next
      exact .enter (ticks.returning returning) (by rw [same]; exact running) left
  | cont returning belongs => exact .cont (ticks.returning returning) belongs
  | currentCtx active => exact .currentCtx (ticks.active active)
  | resume active => exact .resume (ticks.active active)
  | wfi leaving => exact .wfi (ticks.leaving leaving)

/-! ## The kernel's own steps -/

structure Moved (L : Layout) (cfg : Config) (k : Kernel) (m : Machine) : Prop where
  quiet : Quiet k m.kernel
  inv : Inv L cfg m
  calm : ∀ p, m.phase ≠ .panic p

theorem threadSwitchToEnter_ok {prev : Option Slot} {caller : Resume}
    (ok : KernelOk L cfg k none) (returning : Returning k next)
    (left : ∀ p, prev = some p → p ≠ next ∧ caller = continuation p) :
    ∃ k₁ at_, threadSwitchToEnter L k prev next caller = .ok (k₁, at_) ∧ Quiet k k₁ ∧
      KernelOk L cfg k₁ none ∧ Returning k₁ next ∧ at_.belongs next := by
  -- the quantum is set before the context is checked, and the context saved after
  obtain ⟨k₀, ticks, entered⟩ : ∃ k₀, Ticks k k₀ ∧
      threadSwitchToEnter L k prev next caller =
        if (k₀.threads next).ctx.lr = .null ∨ (k₀.threads next).ctx.sp = 0 then
          .error .invalidNextThreadContext
        else .ok (contextSwitch L k₀ prev caller, (k₀.threads next).ctx.lr) := by
    unfold threadSwitchToEnter
    split_ifs
    · exact ⟨_, ticks_quantum next fun _ => threadQuantumTicks, by simp only⟩
    · exact ⟨k, Ticks.rfl, by simp only⟩
  have ok₀ := ticks.kernelOk ok
  have returning₀ := ticks.returning returning
  have context : ¬ ((k₀.threads next).ctx.lr = .null ∨ (k₀.threads next).ctx.sp = 0) := by
    simp [Resume.belongs_ne_null (ok₀.threads next).lr, (ok₀.threads next).sp]
  refine ⟨contextSwitch L k₀ prev caller, (k₀.threads next).ctx.lr, ?_, ?_⟩
  · rw [entered, if_neg context]
  have belongs := (ok₀.threads next).lr
  cases prev with
  | none => exact ⟨ticks.toQuiet, ok₀, returning₀, belongs⟩
  | some p =>
      obtain ⟨different, here⟩ := left p rfl
      have saved : ThreadOk L p { k₀.threads p with ctx := ⟨L.switchSp p, caller⟩ } := by
        have before := ok₀.threads p
        refine ⟨before.slot, before.kind, L.switchSp_ne p, ?_, before.elr, before.template⟩
        rw [here]
        exact continuation_belongs p
      refine ⟨⟨ticks.endpoints, ticks.pendingDeath, ticks.supervisor, ticks.mem, ticks.log,
        ticks.accesses, ticks.uart⟩,
        ok₀.modifyThread (f := fun t => { t with ctx := ⟨L.switchSp p, caller⟩ }) saved Iff.rfl, ?_,
        belongs⟩
      have kept : (contextSwitch L k₀ (some p) caller).threads next = k₀.threads next := by
        simp [contextSwitch, Ne.symm different]
      refine ⟨returning₀.current, by rw [kept]; exact returning₀.idle,
        by rw [kept]; exact returning₀.state, by rw [kept]; exact returning₀.ready, fun u other => ?_⟩
      by_cases same : u = p
      · subst same
        simpa [contextSwitch, OffCpu] using returning₀.others u other
      · simpa [contextSwitch, same] using returning₀.others u other

theorem Returning.active (returning : Returning k t) (user : t ≠ slotIdle) {f : Thread → Thread}
    (state : (f (k.threads t)).state = .running) (running : (f (k.threads t)).user.state = .running) :
    Active ((k.modifyThread t f).setCurrentTask (some t)) t := by
  refine ⟨user, returning.current, rfl, ?_, ?_, fun u other => ?_⟩
  · simpa using state
  · simpa using running
  · simpa [other] using returning.others u other

theorem ThreadOk.update {th th' : Thread} (ok : ThreadOk L s th) (slot : th'.slot = th.slot)
    (kind : th'.kind = th.kind) (ctx : th'.ctx = th.ctx) (user : th'.user.ctx = th.user.ctx)
    (template : s ≠ slotIdle → Template L s th'.user) : ThreadOk L s th' :=
  ⟨slot ▸ ok.slot, kind ▸ ok.kind, ctx ▸ ok.sp, ctx ▸ ok.lr, user ▸ ok.elr, template⟩

theorem KernelOk.enterTask (ok : KernelOk L cfg k none) (returning : Returning k t)
    (user : t ≠ slotIdle) {f : Thread → Thread} (keeps : ThreadOk L t (f (k.threads t)))
    (running : (f (k.threads t)).user.state = .running) :
    KernelOk L cfg ((k.modifyThread t f).setCurrentTask (some t)) none := by
  have entered : KernelOk L cfg (k.modifyThread t f) none :=
    ok.modifyThread keeps (by simp [running, returning.ready user])
  exact entered.congr rfl (fun _ => rfl) (by rintro (_ | _ | _) <;> rfl) (fun _ _ _ member => member)

theorem resumeAt_ok {at_ : Resume} (ok : KernelOk L cfg k none) (returning : Returning k t)
    (belongs : at_.belongs t) : ∃ m, resumeAt k at_ = some m ∧ Moved L cfg k m := by
  by_cases idle : t = slotIdle
  · have leaving : Leaving k slotIdle := by
      subst idle
      exact ⟨returning.current, by simpa [Paused] using returning.idle rfl, returning.others⟩
    simp only [Resume.belongs, idle, if_true] at belongs
    rcases belongs with rfl | rfl
    · exact ⟨_, rfl, Quiet.rfl, .running ok (.wfi leaving), by simp⟩
    · exact ⟨_, rfl, Quiet.rfl, .running ok (.wfi leaving), by simp⟩
  · have kind : (k.threads t).kind = .userTask := by rw [(ok.threads t).kind, if_neg idle]
    have template := (ok.threads t).template idle
    simp only [Resume.belongs, idle, if_false] at belongs
    rcases belongs with rfl | rfl
    · -- the first entry, which sets `started`
      let f (th : Thread) : Thread :=
        { th with
          state := .running, user := { th.user with started := true, state := .running } }
      have entered : threadEntryUserTask k (some t) =
          .ok ((k.modifyThread t f).setCurrentTask (some t), t) := by
        simp [threadEntryUserTask, kind, threadEnterEl0, Kernel.modifyThread, Kernel.setCurrentTask, f]
      refine ⟨⟨(k.modifyThread t f).setCurrentTask (some t), .resume t⟩, by simp [resumeAt, entered],
        Quiet.scheduled, .running ?_ (.resume (returning.active idle rfl rfl)), by simp⟩
      exact ok.enterTask returning idle ((ok.threads t).update rfl rfl rfl rfl
        fun _ => ⟨template.entry, template.stack, template.name⟩) rfl
    · let f (th : Thread) : Thread :=
        { th with
          state := .running
          user := { th.user with state := .running, returnReason := .none } }
      have stopped : (k.threads t).state ≠ .stopped := by
        rcases returning.state with state | state
        · simp [state]
        · simp [state]
      have entered : userTaskReturnTail k t = .ok ((k.modifyThread t f).setCurrentTask (some t)) := by
        simp [userTaskReturnTail, returning.current, kind, stopped, returning.ready idle, f]
      refine ⟨⟨(k.modifyThread t f).setCurrentTask (some t), .currentCtx⟩, by simp [resumeAt, entered],
        Quiet.scheduled, .running ?_ (.currentCtx (returning.active idle rfl rfl)),
        by simp⟩
      exact ok.enterTask returning idle ((ok.threads t).update rfl rfl rfl rfl
        fun _ => ⟨template.entry, template.stack, template.name⟩) rfl

theorem threadCurrentUserCtx_ok (ok : KernelOk L cfg k none) (active : Active k t) :
    threadCurrentUserCtx L k = .ok t := by
  have mapped := L.userCtx_mapped t
  have inside := (ok.threads t).elr active.user
  have low : ¬ (L.userCtx t < kernelLoadAddr ∨
      L.userCtx t + 272 > kernelLoadAddr + kernelIdmapSize) := by
    simp only [not_or, UInt64.not_lt, gt_iff_lt]
    exact mapped
  simp only [threadCurrentUserCtx, currentUserTask_ready (active.ready ok), if_neg low,
    if_neg (inSandbox_of_checks.mpr inside)]

theorem threadReschedPoint_ok (ok : KernelOk L cfg k none) (leaving : Leaving k slotIdle) :
    Moved L cfg k (threadReschedPoint k .idleLoop) := by
  have ticks := ticks_setResched (k := k) false
  have leaving' := ticks.leaving leaving
  unfold threadReschedPoint threadReschedTake
  cases pending : k.reschedPending with
  | true => exact ⟨ticks.toQuiet, .running (ticks.kernelOk ok) (.pick leaving'), by nofun⟩
  | false =>
      refine ⟨ticks.toQuiet, .running (ticks.kernelOk ok)
        (.cont (t := slotIdle) ?_ (by simp [Resume.belongs])), by nofun⟩
      have state : ((k.setResched false).threads slotIdle).state = .running := by
        simpa [Paused] using leaving'.self
      exact ⟨leaving'.current, fun _ => state, .inr state, fun user => absurd rfl user,
        leaving'.others⟩

theorem advance_moved (inv : Inv L cfg m) (step : advance L m = some m') :
    Moved L cfg m.kernel m' := by
  obtain ⟨k, phase⟩ := m
  rcases inv with ⟨ok, phaseOk⟩ | _
  swap
  · cases step
  cases phaseOk with
  | el0 => cases step
  | @pick t leaving =>
      obtain ⟨next, picked, selectable⟩ := pickNextThread_selectable ok leaving
      simp only [advance, picked, Option.some_inj] at step
      subst step
      exact ⟨Quiet.rfl, .running ok (.switch leaving selectable), by nofun⟩
  | switchFirst current off selectable =>
      have different : k.current ≠ some slotTaskA := by simp [current]
      simp only [advance, if_neg different, Option.some_inj] at step
      subst step
      have selected := (selectable_user ok (by decide) (off slotTaskA)).mp selectable
      refine ⟨threadSwitchToMark_quiet, .running (threadSwitchToMark_ok ok) ?_, by nofun⟩
      refine .enter (returning_of_mark ⟨.inl selected.1, fun _ => selected.2⟩ fun u _ => .inr (off u))
        ?_ (by simp [current])
      simp [threadSwitchToMark_threads]
  | @switch t next leaving selectable =>
      simp only [advance] at step
      by_cases same : t = next
      · subst same
        rw [if_pos leaving.current, Option.some_inj] at step
        subst step
        exact ⟨Quiet.rfl, .running ok (.cont (leaving.returning ok selectable)
          (continuation_belongs t)), by nofun⟩
      · have different : k.current ≠ some next := by
          rw [leaving.current]
          simpa using same
        rw [if_neg different, Option.some_inj] at step
        subst step
        refine ⟨threadSwitchToMark_quiet, .running (threadSwitchToMark_ok ok)
          (.enter (leaving.returning_mark ok selectable) ?_ ?_), by nofun⟩
        · simp [threadSwitchToMark_threads]
        · intro p from_
          cases leaving.current.symm.trans from_
          exact ⟨same, rfl⟩
  | @enter prev next caller returning _ left =>
      obtain ⟨k₁, at_, entered, quiet, ok₁, returning₁, belongs⟩ :=
        threadSwitchToEnter_ok ok returning left
      simp only [advance, entered, Option.some_inj] at step
      subst step
      exact ⟨quiet, .running ok₁ (.cont returning₁ belongs), by nofun⟩
  | cont returning belongs =>
      obtain ⟨m₁, resumed, moved⟩ := resumeAt_ok ok returning belongs
      simp only [advance, resumed, Option.some_inj] at step
      subst step
      exact moved
  | currentCtx active =>
      simp only [advance, threadCurrentUserCtx_ok ok active, Option.some_inj] at step
      subst step
      exact ⟨Quiet.rfl, .running ok (.resume active), by nofun⟩
  | resume active =>
      simp only [advance, Option.some_inj] at step
      subst step
      exact ⟨Quiet.rfl, .running ok (.el0 active), by nofun⟩
  | wfi leaving =>
      simp only [advance, Option.some_inj] at step
      subst step
      exact threadReschedPoint_ok ok leaving

/-! ## The machine -/

inductive Stepped (L : Layout) (cfg : Config) (m : Machine) : Action → Machine → Prop
  | quiet {a : Action} {m' : Machine} (untrapped : ∀ stores tf, a ≠ .trap stores tf)
      (quiet : Quiet m.kernel m'.kernel) (calm : ∀ p, m'.phase = .panic p → m.phase = .panic p) :
      Stepped L cfg m a m'
  | back {stores : List (SandboxAddress × UInt8)} {tf : TrapFrame} {t : Slot} {regs : UserTaskCtx}
      {k₁ : Kernel} {x0 : UInt64} (phase : m.phase = .el0 regs) (active : Active m.kernel t)
      (el0 : tf.fromEl0)
      (effect : Effect cfg (m.kernel.setMem (userStores stores m.kernel.mem)) t tf k₁ (.back x0)) :
      Stepped L cfg m (.trap stores tf) ⟨k₁, .el0 (tf.after x0)⟩
  | away {stores : List (SandboxAddress × UInt8)} {tf : TrapFrame} {t : Slot} {regs : UserTaskCtx}
      {k₁ k₂ : Kernel} {reason : TaskReturnReason} (phase : m.phase = .el0 regs)
      (active : Active m.kernel t) (el0 : tf.fromEl0)
      (effect : Effect cfg (m.kernel.setMem (userStores stores m.kernel.mem)) t tf k₁ (.away reason))
      (inside : InSandbox tf.elr) (left : Left (k₁.saveFrame t tf reason) t reason k₂) :
      Stepped L cfg m (.trap stores tf) ⟨k₂.setResched false, .pick (.returnStep t)⟩
  | outside {stores : List (SandboxAddress × UInt8)} {tf : TrapFrame} {t : Slot}
      {regs : UserTaskCtx} {k₁ : Kernel} {reason : TaskReturnReason} (phase : m.phase = .el0 regs)
      (active : Active m.kernel t) (el0 : tf.fromEl0)
      (effect : Effect cfg (m.kernel.setMem (userStores stores m.kernel.mem)) t tf k₁ (.away reason))
      (outside : ¬ InSandbox tf.elr) :
      Stepped L cfg m (.trap stores tf)
        ⟨k₁, .panic .trapElrOutsideSandbox⟩

theorem KernelOk.setMem (ok : KernelOk L cfg k entering) (mem : Memory) :
    KernelOk L cfg (k.setMem mem) entering :=
  ok.congr rfl (fun _ => rfl) (by rintro (_ | _ | _) <;> rfl) (fun _ _ _ member => member)

theorem step_cases (inv : Inv L cfg m) (step : m.step L cfg a = some m') :
    Stepped L cfg m a m' ∧ Inv L cfg m' := by
  cases a with
  | tick =>
      simp only [Machine.step] at step
      split_ifs at step
      simp only [Option.some_inj] at step
      subst step
      obtain ⟨k, phase⟩ := m
      rcases inv with ⟨ok, phaseOk⟩ | _
      swap
      · contradiction
      have ticks : Ticks k (timerHandleIrq cfg k) := timerHandleIrq_ticks
      exact ⟨.quiet (by simp) ticks.toQuiet (fun _ same => same), .running (ticks.kernelOk ok)
        (ticks.phaseOk phaseOk)⟩
  | advance =>
      have moved := advance_moved inv step
      exact ⟨.quiet (by simp) moved.quiet fun p panics => absurd panics (moved.calm p), moved.inv⟩
  | trap stores tf =>
      obtain ⟨k, phase⟩ := m
      rcases inv with ⟨ok, phaseOk⟩ | _
      swap
      · cases step
      simp only [Machine.step] at step
      split at step
      swap
      · cases step
      split_ifs at step with el0
      simp only [Option.some_inj] at step
      cases phaseOk with
      | @el0 t regs active =>
          have okStored := ok.setMem (userStores stores k.mem)
          have stored : Active (k.setMem (userStores stores k.mem)) t := active.congr rfl rfl rfl
          obtain ⟨k₁, o, effect, taken⟩ :=
            takeTrap_cases (L := L) (stored.ready okStored) (stored.awake okStored) el0
          obtain ⟨ok₁, active₁⟩ := effect.keeps okStored stored
          rw [taken] at step
          subst step
          cases o with
          | back x0 => exact ⟨.back rfl active el0 effect, .running ok₁ (.el0 active₁)⟩
          | away reason =>
              by_cases inside : InSandbox tf.elr
              · obtain ⟨okSaved, saved⟩ := effect.saved okStored stored inside
                have returns : ((k₁.saveFrame t tf reason).threads t).user.returnReason = reason := by
                  simp [Thread.saveFrame]
                obtain ⟨k₂, left, returned⟩ := returnStep_left (saved.ready okSaved) returns
                    effect.registering_eq.1
                  fun dies => by
                    have awake : ¬ (reason = .ipcBlock ∨ reason = .notifyBlock) := by
                      rcases dies with rfl | rfl
                      · simp
                      · simp
                    rw [if_neg awake] at okSaved
                    exact ⟨saved.unrecorded okSaved, saved.awake okSaved⟩
                obtain ⟨ok₂, leaving⟩ := left.keeps okSaved saved
                have resched := ticks_setResched (k := k₂) false
                have here : continuation t = .returnStep t := by simp [continuation, active.user]
                simp only [Outcome.machine, if_pos inside, returned]
                refine ⟨.away rfl active el0 effect inside left, .running (resched.kernelOk ok₂) ?_⟩
                rw [← here]
                exact .pick (resched.leaving leaving)
              · simp only [Outcome.machine, if_neg inside]
                exact ⟨.outside rfl active el0 effect inside, .halted ok₁⟩

/-! ## Boot -/

theorem ThreadOk.init (valid : validateEl0Layout L = .ok ()) (user : s ≠ slotIdle) (th : Thread) :
    ThreadOk L s (initUserSlot L s th) where
  slot := rfl
  kind := by simp [initUserSlot, userTaskInit, threadInitSlot, user]
  sp := L.kernelStack_ne s
  lr := by simp [initUserSlot, userTaskInit, threadInitSlot, Resume.belongs, user]
  elr _ := entry_inSandbox valid user
  template _ := ⟨rfl, rfl, rfl⟩

theorem ThreadOk.initIdle (th : Thread) :
    ThreadOk L slotIdle (threadInitSlot L slotIdle .idle .idle none th) where
  slot := rfl
  kind := rfl
  sp := L.kernelStack_ne slotIdle
  lr := by simp [threadInitSlot, Resume.belongs]
  elr user := absurd rfl user
  template user := absurd rfl user

/-- What `kernel_main` has set up when it calls `thread_start`. -/
structure Booted (L : Layout) (cfg : Config) (mem : Memory) (m : Machine) : Prop where
  valid : validateEl0Layout L = .ok ()
  phase : m.phase = .switch slotTaskA .boot
  current : m.kernel.current = none
  users : ∀ s, s ≠ slotIdle → m.kernel.threads s = initUserSlot L s Thread.bss
  idle : m.kernel.threads slotIdle = threadInitSlot L slotIdle .idle .idle none Thread.bss
  endpoints : ∀ e, m.kernel.endpoints e = Endpoint.initial (initialOwner cfg e)
  pendingDeath : m.kernel.pendingDeathSlot = slotNone
  supervisor : m.kernel.blockedSupervisorSlot = slotNone
  mem : m.kernel.mem = mem
  uart : m.kernel.uart = []
  log : m.kernel.log = []
  accesses : m.kernel.accesses = []

theorem boot_booted {mem : Memory} (booted : boot L cfg mem = .ok m) : Booted L cfg mem m := by
  simp only [boot, threadSystemInit] at booted
  cases valid : validateEl0Layout L with
  | error p => simp [valid] at booted
  | ok u =>
      simp only [valid, Except.ok.injEq] at booted
      subst booted
      refine ⟨valid, rfl, rfl, fun s user => ?_, ?_, fun _ => rfl, rfl, rfl, rfl, rfl, rfl, rfl⟩
      · match s, user with
        | 0, _ => rfl
        | 1, _ => rfl
        | 2, _ => rfl
        | 3, user => exact absurd rfl user
      · rfl

theorem Booted.inv {mem : Memory} (booted : Booted L cfg mem m) : Inv L cfg m := by
  obtain ⟨k, phase⟩ := m
  have endpoints : ∀ e, k.endpoints e = Endpoint.initial (initialOwner cfg e) := booted.endpoints
  have waiters (w : WaitPlace) : k.waiter w = slotNone := by
    cases w with
    | caller e => simp [Kernel.waiter, endpoints e, Endpoint.initial]
    | receiver e => simp [Kernel.waiter, endpoints e, Endpoint.initial]
    | supervisor => exact booted.supervisor
  have ready (s : Slot) (user : s ≠ slotIdle) : (k.threads s).user.state = .runnable := by
    rw [booted.users s user]
    rfl
  have off (s : Slot) : OffCpu s (k.threads s) := by
    by_cases idle : s = slotIdle
    · subst idle
      rw [booted.idle]
      rfl
    · rw [booted.users s idle]
      simp [OffCpu, idle, initUserSlot, userTaskInit, threadInitSlot]
  have ok : KernelOk L cfg k none := by
    refine ⟨booted.valid, fun s => ?_, ⟨fun w => .inl (waiters w), ⟨Waiting.Table.empty, ?_, ?_⟩,
      fun e => .inl (waiters _)⟩, fun e => ?_, fun s at_ => ?_, ?_⟩
    · by_cases idle : s = slotIdle
      · subst idle
        rw [booted.idle]
        exact .initIdle _
      · rw [booted.users s idle]
        exact .init booted.valid idle _
    · funext w
      simp [Waiting.Table.empty, occupant_of_none (waiters w)]
    · intro s user
      simp [ready s user]
    · simp [endpoints e, Endpoint.initial]
    · exact absurd ((waiters .supervisor).symm.trans at_) (Slot.none_ne_i32 s)
    · intro s x0 prior member
      rw [booted.log] at member
      cases member
  refine .running ok ?_
  have phase : phase = .switch slotTaskA .boot := booted.phase
  subst phase
  refine .switchFirst booted.current off ((selectable_user ok (by decide) (off _)).mpr ?_)
  exact ⟨by rw [booted.users slotTaskA (by decide)]; rfl, ready slotTaskA (by decide)⟩

/-! ## Runs -/

theorem run_inv {h : List (Machine × Action)} (run : (kernelSystem L cfg).Run h m) : Inv L cfg m := by
  refine run.invariant ?_ fun _ _ _ inv step => (step_cases inv step).2
  rintro m ⟨mem, booted⟩
  exact (boot_booted booted).inv

end ProtoOs
