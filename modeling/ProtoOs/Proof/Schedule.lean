import ProtoOs.Proof.Data

namespace ProtoOs

variable {L : Layout} {cfg : Config} {k k' k₁ : Kernel} {m m' : Machine} {s t next : Slot}
  {a : Action}

/-! ## The tasks under the scheduler -/

structure SameUsers (k k' : Kernel) : Prop where
  ctx : ∀ s, (k'.threads s).user.ctx = (k.threads s).user.ctx
  state : ∀ s, (k'.threads s).user.state = (k.threads s).user.state ∨
    (k.threads s).user.state = .runnable ∧ (k'.threads s).user.state = .running

theorem SameUsers.of_eq (same : ∀ s, (k'.threads s).user = (k.threads s).user) : SameUsers k k' :=
  ⟨fun s => by rw [same], fun s => .inl (by rw [same])⟩

theorem SameUsers.dead (users : SameUsers k k') (s : Slot) :
    (k'.threads s).user.state = .dead ↔ (k.threads s).user.state = .dead := by
  rcases users.state s with same | ⟨ready, running⟩
  · rw [same]
  · simp [ready, running]

theorem SameUsers.blocked (users : SameUsers k k') (s : Slot) :
    (k'.threads s).user.state = .blocked ↔ (k.threads s).user.state = .blocked := by
  rcases users.state s with same | ⟨ready, running⟩
  · rw [same]
  · simp [ready, running]

theorem Ticks.user (ticks : Ticks k k') (s : Slot) : (k'.threads s).user = (k.threads s).user := by
  obtain ⟨q, same⟩ := ticks.threads s
  rw [same]

theorem Ticks.users (ticks : Ticks k k') : SameUsers k k' := .of_eq ticks.user

theorem threadSwitchToMark_user (s : Slot) :
    ((threadSwitchToMark k next).threads s).user = (k.threads s).user := by
  rw [threadSwitchToMark_threads]
  split_ifs
  · rfl
  · rfl
  · rfl

theorem threadSwitchToMark_users : SameUsers k (threadSwitchToMark k next) :=
  .of_eq threadSwitchToMark_user

theorem threadSwitchToEnter_user {prev : Option Slot} {caller at_ : Resume}
    (entered : threadSwitchToEnter L k prev next caller = .ok (k₁, at_)) :
    (∀ s, (k₁.threads s).user = (k.threads s).user) ∧ k₁.current = k.current := by
  have saved (k : Kernel) :
      (∀ s, ((contextSwitch L k prev caller).threads s).user = (k.threads s).user) ∧
        (contextSwitch L k prev caller).current = k.current := by
    cases prev with
    | none => exact ⟨fun _ => rfl, rfl⟩
    | some p =>
        refine ⟨fun s => ?_, rfl⟩
        by_cases same : s = p
        · subst same
          simp [contextSwitch]
        · simp [contextSwitch, same]
  unfold threadSwitchToEnter at entered
  simp only at entered
  by_cases spent : (k.threads next).quantumLeft = 0
  · rw [if_pos spent] at entered
    split at entered
    · cases entered
    · cases entered
      obtain ⟨users, current⟩ :=
        saved (k.modifyThread next fun t => { t with quantumLeft := threadQuantumTicks })
      have ticks : Ticks k (k.modifyThread next fun t => { t with quantumLeft := threadQuantumTicks }) :=
        ticks_quantum next fun _ => threadQuantumTicks
      exact ⟨fun s => (users s).trans (ticks.user s), current⟩
  · rw [if_neg spent] at entered
    split at entered
    · cases entered
    · cases entered
      exact saved k

theorem threadSwitchToEnter_users {prev : Option Slot} {caller at_ : Resume}
    (entered : threadSwitchToEnter L k prev next caller = .ok (k₁, at_)) :
    SameUsers k k₁ ∧ k₁.current = k.current :=
  ⟨.of_eq (threadSwitchToEnter_user entered).1, (threadSwitchToEnter_user entered).2⟩

/-! ## Where control goes -/

def Machine.heading (m : Machine) : Option Slot :=
  match m.phase with
  | .pick _ => none
  | .switch next _ => some next
  | _ => m.kernel.current

/-- A step of the kernel on its own. -/
structure Moves (m m' : Machine) : Prop where
  users : SameUsers m.kernel m'.kernel
  picks : ∀ r, m.phase = .pick r → m'.phase = .pick r ∧ m'.kernel.current = m.kernel.current ∨
    ∃ next, pickNextThread m.kernel = .ok next ∧ m'.heading = some next
  heads : ∀ t, t ≠ slotIdle → m.heading = some t → m'.heading = some t
  enters : ∀ regs, m'.phase = .el0 regs → ∃ t, m'.kernel.current = some t ∧
    regs = (m'.kernel.threads t).user.ctx

theorem tick_moves (step : m.step L cfg .tick = some m') : Moves m m' := by
  obtain ⟨k, phase⟩ := m
  simp only [Machine.step] at step
  split_ifs at step with enabled
  simp only [Option.some_inj] at step
  subst step
  have ticks : Ticks k (timerHandleIrq cfg k) := timerHandleIrq_ticks
  refine ⟨ticks.users, fun r picks => .inl ⟨picks, ticks.current⟩, fun t _ heads => ?_, ?_⟩
  · rw [← heads]
    cases phase with
    | pick | switch => rfl
    | _ => exact ticks.current
  · rintro regs here
    simp only at here
    subst here
    cases enabled

theorem users_enter (returning : Returning k t) (user : t ≠ slotIdle) {f : Thread → Thread}
    (ctx : (f (k.threads t)).user.ctx = (k.threads t).user.ctx)
    (running : (f (k.threads t)).user.state = .running) :
    SameUsers k ((k.modifyThread t f).setCurrentTask (some t)) := by
  refine ⟨fun s => ?_, fun s => ?_⟩
  · by_cases same : s = t
    · subst same
      simpa using ctx
    · simp [same]
  · by_cases same : s = t
    · subst same
      exact .inr ⟨returning.ready user, by simpa using running⟩
    · exact .inl (by simp [same])

theorem resumeAt_moves {at_ : Resume} (ok : KernelOk L cfg k none) (returning : Returning k t)
    (belongs : at_.belongs t) (step : resumeAt k at_ = some m') : Moves ⟨k, .cont at_⟩ m' := by
  by_cases idle : t = slotIdle
  · have wfi : m' = ⟨k, .wfi⟩ := by
      simp only [Resume.belongs, idle, if_true] at belongs
      rcases belongs with rfl | rfl
      · exact (Option.some_inj.mp step).symm
      · exact (Option.some_inj.mp step).symm
    subst wfi
    exact ⟨.of_eq fun _ => rfl, by simp, fun _ _ heads => heads, by simp⟩
  · have kind : (k.threads t).kind = .userTask := by rw [(ok.threads t).kind, if_neg idle]
    simp only [Resume.belongs, idle, if_false] at belongs
    rcases belongs with rfl | rfl
    · have entered : m' = ⟨(k.modifyThread t fun th => { th with
          state := .running, user := { th.user with started := true, state := .running } }
            ).setCurrentTask (some t), .resume t⟩ := by
        simpa [resumeAt, threadEntryUserTask, kind, threadEnterEl0, Kernel.modifyThread,
          Kernel.setCurrentTask] using step.symm
      subst entered
      exact ⟨users_enter returning idle rfl rfl, by simp, fun _ _ heads => heads, by simp⟩
    · have stopped : (k.threads t).state ≠ .stopped := by
        rcases returning.state with state | state
        · simp [state]
        · simp [state]
      have entered : m' = ⟨(k.modifyThread t fun th => { th with
          state := .running
          user := { th.user with state := .running, returnReason := .none } }
            ).setCurrentTask (some t), .currentCtx⟩ := by
        simpa [resumeAt, userTaskReturnTail, returning.current, kind, stopped,
          returning.ready idle] using step.symm
      subst entered
      exact ⟨users_enter returning idle rfl rfl, by simp, fun _ _ heads => heads, by simp⟩

theorem advance_moves (inv : Inv L cfg m) (step : advance L m = some m') : Moves m m' := by
  obtain ⟨k, phase⟩ := m
  rcases inv with ⟨ok, phaseOk⟩ | _
  swap
  · cases step
  cases phaseOk with
  | el0 => cases step
  | @pick t leaving =>
      obtain ⟨next, picked, _⟩ := pickNextThread_selectable ok leaving
      simp only [advance, picked, Option.some_inj] at step
      subst step
      exact ⟨.of_eq fun _ => rfl, fun _ _ => .inr ⟨next, picked, rfl⟩,
        fun _ _ heads => (by cases heads), by simp⟩
  | switchFirst current off selectable =>
      have different : k.current ≠ some slotTaskA := by simp [current]
      simp only [advance, if_neg different, Option.some_inj] at step
      subst step
      exact ⟨threadSwitchToMark_users, by simp, fun t _ heads => heads, by simp⟩
  | @switch t next leaving selectable =>
      simp only [advance] at step
      split_ifs at step with same
      · simp only [Option.some_inj] at step
        subst step
        refine ⟨.of_eq fun _ => rfl, by simp, fun t _ heads => ?_, by simp⟩
        exact same.trans heads
      · simp only [Option.some_inj] at step
        subst step
        exact ⟨threadSwitchToMark_users, by simp, fun t _ heads => heads, by simp⟩
  | @enter prev next caller returning _ left =>
      obtain ⟨k₁, at_, entered, _⟩ := threadSwitchToEnter_ok ok returning left
      simp only [advance, entered, Option.some_inj] at step
      subst step
      obtain ⟨users, current⟩ := threadSwitchToEnter_users entered
      exact ⟨users, by simp, fun t _ heads => current.trans heads, by simp⟩
  | cont returning belongs => exact resumeAt_moves ok returning belongs step
  | currentCtx active =>
      simp only [advance, threadCurrentUserCtx_ok ok active, Option.some_inj] at step
      subst step
      exact ⟨.of_eq fun _ => rfl, by simp, fun _ _ heads => heads, by simp⟩
  | @resume t active =>
      simp only [advance, Option.some_inj] at step
      subst step
      refine ⟨.of_eq fun _ => rfl, by simp, fun _ _ heads => heads, ?_⟩
      rintro regs ⟨⟩
      exact ⟨t, active.current, rfl⟩
  | wfi leaving =>
      simp only [advance, Option.some_inj] at step
      subst step
      have users : SameUsers k (threadReschedPoint k .idleLoop).kernel := by
        unfold threadReschedPoint threadReschedTake
        cases k.reschedPending with
        | true => exact .of_eq fun _ => rfl
        | false => exact .of_eq fun _ => rfl
      refine ⟨users, by simp, fun t user heads => ?_, fun regs el0 => ?_⟩
      · exact absurd (Option.some_inj.mp (heads.symm.trans leaving.current)) user
      · unfold threadReschedPoint threadReschedTake at el0
        cases pending : k.reschedPending with
        | true => simp [pending] at el0
        | false => simp [pending] at el0

theorem quiet_moves (inv : Inv L cfg m) (untrapped : ∀ stores tf, a ≠ .trap stores tf)
    (step : m.step L cfg a = some m') : Moves m m' := by
  cases a with
  | trap stores tf => exact absurd rfl (untrapped stores tf)
  | tick => exact tick_moves step
  | advance => exact advance_moves inv step

/-! ## The registers of a task -/

def Machine.registers (m : Machine) (s : Slot) : UserTaskCtx :=
  match m.phase with
  | .el0 regs => if m.kernel.current = some s then regs else (m.kernel.threads s).user.ctx
  | _ => (m.kernel.threads s).user.ctx

theorem Machine.registers_el0 {regs : UserTaskCtx} (phase : m.phase = .el0 regs)
    (current : m.kernel.current = some s) : m.registers s = regs := by
  simp [Machine.registers, phase, current]

theorem Machine.registers_saved (away : ∀ regs, m.phase = .el0 regs → m.kernel.current ≠ some s) :
    m.registers s = (m.kernel.threads s).user.ctx := by
  unfold Machine.registers
  split
  · rename_i regs phase
    rw [if_neg (away regs phase)]
  · rfl

theorem quiet_masked (untrapped : ∀ stores tf, a ≠ .trap stores tf)
    (step : m.step L cfg a = some m') (regs : UserTaskCtx) : m.phase ≠ .el0 regs := by
  intro phase
  cases a with
  | trap stores tf => exact untrapped stores tf rfl
  | tick => simp [Machine.step, phase, Phase.irqEnabled] at step
  | advance => simp [Machine.step, advance, phase] at step

theorem quiet_registers (moves : Moves m m') (masked : ∀ regs, m.phase ≠ .el0 regs) :
    m'.registers s = m.registers s := by
  rw [Machine.registers_saved fun regs phase => absurd phase (masked regs), ← moves.users.ctx s]
  by_cases entered : ∃ regs, m'.phase = .el0 regs ∧ m'.kernel.current = some s
  · obtain ⟨regs, phase, current⟩ := entered
    obtain ⟨t, here, loaded⟩ := moves.enters regs phase
    rw [Machine.registers_el0 phase current, loaded, Option.some_inj.mp (here.symm.trans current)]
  · exact Machine.registers_saved fun regs phase current => entered ⟨regs, phase, current⟩

/-! ## What a call returns -/

/-- What the last call of a task returns, in its registers or in its saved context. -/
def Machine.x0 (m : Machine) (s : Slot) : UInt64 :=
  match m.phase with
  | .el0 regs => if m.kernel.current = some s then regs.x 0 else (m.kernel.threads s).user.ctx.x 0
  | _ => (m.kernel.threads s).user.ctx.x 0

theorem Machine.x0_registers (m : Machine) (s : Slot) : m.x0 s = (m.registers s).x 0 := by
  unfold Machine.x0 Machine.registers
  split
  · split_ifs
    · rfl
    · rfl
  · rfl

theorem Machine.x0_el0 {regs : UserTaskCtx} (phase : m.phase = .el0 regs)
    (current : m.kernel.current = some s) : m.x0 s = regs.x 0 := by
  rw [Machine.x0_registers, Machine.registers_el0 phase current]

theorem Machine.x0_other (current : m.kernel.current = some t) (other : t ≠ s) :
    m.x0 s = (m.kernel.threads s).user.ctx.x 0 := by
  rw [Machine.x0_registers, Machine.registers_saved]
  exact fun _ _ here => other (Option.some_inj.mp (current.symm.trans here))

theorem quiet_x0 (moves : Moves m m') (masked : ∀ regs, m.phase ≠ .el0 regs) :
    m'.x0 s = m.x0 s := by
  rw [Machine.x0_registers, Machine.x0_registers, quiet_registers moves masked]

/-! ## The way to EL0 -/

def Action.own : Action → Bool
  | .tick => false
  | _ => true

theorem tick_phase (step : m.step L cfg .tick = some m') : m'.phase = m.phase := by
  simp only [Machine.step] at step
  split_ifs at step
  cases step
  rfl

/-- The most steps that the kernel takes from a phase to EL0, where it does not enter the idle loop. -/
def Phase.distance : Phase → Nat
  | .pick _ => 6
  | .switch .. => 5
  | .enter .. => 4
  | .cont _ => 3
  | .currentCtx => 2
  | .resume _ => 1
  | .el0 _ | .wfi | .panic _ => 0

theorem Phase.distance_le (phase : Phase) : phase.distance ≤ 6 := by
  cases phase with
  | _ => simp [Phase.distance]

theorem resumeAt_distance {at_ : Resume} (step : resumeAt k at_ = some m') : m'.phase.distance < 3 := by
  unfold resumeAt at step
  split at step
  case h_1 | h_3 =>
    split at step
    all_goals
      cases step
      simp [Phase.distance]
  case h_2 | h_4 =>
    cases step
    simp [Phase.distance]
  case h_5 | h_6 => cases step

theorem advance_distance (busy : m.phase ≠ .wfi) (step : advance L m = some m') :
    m'.phase.distance < m.phase.distance := by
  obtain ⟨k, phase⟩ := m
  cases phase with
  | el0 | panic => cases step
  | wfi => exact absurd rfl busy
  | cont => exact resumeAt_distance step
  | resume =>
      cases step
      exact Nat.one_pos
  | pick | switch | enter | currentCtx =>
      simp only [advance] at step
      split at step
      all_goals
        cases step
        simp [Phase.distance]

theorem advance_enabled (inv : Inv L cfg m) (calm : ∀ p, m.phase ≠ .panic p)
    (masked : ∀ regs, m.phase ≠ .el0 regs) : ∃ m', advance L m = some m' := by
  obtain ⟨k, phase⟩ := m
  cases inv with
  | halted => exact absurd rfl (calm _)
  | running ok phaseOk =>
      cases phaseOk with
      | el0 => exact absurd rfl (masked _)
      | cont returning belongs =>
          obtain ⟨m', resumed, _⟩ := resumeAt_ok ok returning belongs
          exact ⟨m', resumed⟩
      | resume | wfi => exact ⟨_, rfl⟩
      | pick | switchFirst | switch | enter | currentCtx =>
          simp only [advance]
          split
          all_goals exact ⟨_, rfl⟩

/-! ## The choice -/

theorem pickNextThread_first (ok : KernelOk L cfg k none) (current : k.current = some t)
    (user : next ≠ slotIdle) (behind : scanSlot t.u32 1 = next) (other : next ≠ t)
    (selectable : threadIsSelectable k (some next)) : pickNextThread k = .ok next := by
  have different : ¬ t = next := fun same => other same.symm
  simp [pickNextThread, current, (ok.threads t).slot, List.range_succ, threadCount, behind, user,
    different, selectable]

theorem pickNextThread_user (ok : KernelOk L cfg k none) (leaving : Leaving k t) (user : s ≠ slotIdle)
    (selectable : threadIsSelectable k (some s)) :
    ∃ next, next ≠ slotIdle ∧ pickNextThread k = .ok next := by
  simp only [pickNextThread, leaving.current, (ok.threads t).slot]
  split
  · rename_i next found
    obtain ⟨i, _, picked⟩ := List.exists_of_findSome?_eq_some found
    split_ifs at picked with skip
    exact ⟨next, Option.some_inj.mp picked ▸ skip, rfl⟩
  · rename_i c missed same
    cases same
    -- the scan meets every slot, so that only the current thread can be ready
    have here : s = t := by
      by_contra different
      obtain ⟨i, below, place⟩ :=
        (by decide : ∀ t s : Slot, ∃ i, i < threadCount ∧ scanSlot t.u32 (i + 1) = s) t s
      have turn := List.findSome?_eq_none_iff.mp missed i (List.mem_range.mpr below)
      rw [place, if_neg user, if_pos ⟨by simpa using Ne.symm different, selectable⟩] at turn
      cases turn
    subst here
    rw [if_pos ⟨selectable, by simpa [(ok.threads s).slot] using user⟩]
    exact ⟨s, user, rfl⟩
  · rename_i impossible
    cases impossible

/-! ## The tasks under a trap -/

def Roused (k k₁ : Kernel) (s : Slot) : Prop :=
  (k₁.threads s).user = (k.threads s).user ∨ (k₁.threads s).user.state = .runnable

theorem Roused.refl : Roused k k s := .inl rfl

theorem Roused.of_eq (threads : k₁.threads = k.threads) : Roused k k₁ s := by
  rw [Roused, threads]
  exact .inl rfl

theorem Roused.state_of {state : TaskState} (roused : Roused k k₁ s) (other : state ≠ .runnable)
    (after : (k₁.threads s).user.state = state) : (k₁.threads s).user = (k.threads s).user := by
  rcases roused with same | ready
  · exact same
  · exact absurd (after.symm.trans ready) other

theorem Roused.trans {k₂ : Kernel} (first : Roused k k₁ s) (second : Roused k₁ k₂ s) :
    Roused k k₂ s := by
  rcases second with same | ready
  · rw [Roused, same]
    exact first
  · exact .inr ready

theorem roused_update {u : Slot} {f : Thread → Thread}
    (ready : (f (k.threads u)).user.state = .runnable)
    (threads : k₁.threads = Function.update k.threads u (f (k.threads u))) : Roused k k₁ s := by
  rw [Roused, threads]
  by_cases same : s = u
  · subst same
    exact .inr (by simpa using ready)
  · exact .inl (by simp [same])

theorem Effect.roused {tf : TrapFrame} {o : Outcome} (effect : Effect cfg k t tf k₁ o) (s : Slot) :
    Roused k k₁ s := by
  cases effect with
  | refused | ticks | write | yield | exit | fault | park | take | listen | report | await =>
      exact .of_eq rfl
  | handOver => exact roused_update rfl rfl
  | answer => exact roused_update rfl rfl
  | restart => exact roused_update rfl rfl

theorem Aborts.roused (aborts : Aborts t k k₁) (s : Slot) : Roused k k₁ s := by
  induction aborts with
  | refl => exact .refl
  | abort _ _ _ _ ih => exact ih.trans (roused_update rfl rfl)

theorem Noted.roused (noted : Noted t k k₁) (s : Slot) : Roused k k₁ s := by
  cases noted with
  | woke => exact roused_update rfl rfl
  | kept => exact .of_eq rfl
  | overwrote => exact .of_eq rfl

theorem Left.roused {reason : TaskReturnReason} (left : Left k t reason k₁) (other : s ≠ t) :
    Roused k k₁ s := by
  cases left with
  | yield => exact .inl (by simp [other])
  | block => exact .inl (by simp [other])
  | death _ _ _ aborts _ noted =>
      have dying : Roused k ((k.emit (exitPrint k t reason)).dying t) s :=
        .inl (by simp [Kernel.dying, other])
      exact (dying.trans (aborts.roused s)).trans (noted.roused s)

theorem Left.lives {reason : TaskReturnReason} (left : Left k t reason k₁)
    (lives : ¬ (reason = .exit ∨ reason = .fault)) :
    k₁ = k.markTask t .runnable (if reason = .yield then .runnable else .blocked) := by
  cases left with
  | yield voluntary => rw [if_pos voluntary]
  | block blocks =>
      rw [if_neg]
      rcases blocks with rfl | rfl
      · nofun
      · nofun
  | death dies => exact absurd dies lives

theorem Left.blocked {reason : TaskReturnReason} (left : Left k t reason k₁)
    (blocks : reason = .ipcBlock ∨ reason = .notifyBlock) : k₁ = k.markTask t .runnable .blocked := by
  rcases blocks with rfl | rfl
  · exact left.lives (by simp)
  · exact left.lives (by simp)

/-! ## An endpoint without a caller -/

theorem Aborts.spares {e : EpId} (aborts : Aborts t k k₁)
    (free : (k.endpoints e).blockedCallerSlot = slotNone) : k₁.endpoints e = k.endpoints e := by
  induction aborts with
  | refl => rfl
  | @abort k' u s before _ waiting _ ih =>
      have different : e ≠ u := by
        rintro rfl
        rw [ih, free] at waiting
        exact Slot.none_ne_i32 s waiting
      exact (abortCaller_on.elsewhere e different).trans ih

theorem Left.spares {e : EpId} {reason : TaskReturnReason} (left : Left k t reason k₁)
    (free : (k.endpoints e).blockedCallerSlot = slotNone) : k₁.endpoints e = k.endpoints e := by
  cases left with
  | yield | block => rfl
  | death _ _ _ aborts _ noted =>
      rw [noted.endpoints]
      exact aborts.spares free

end ProtoOs
