import ProtoOs.Proof.Return
import ProtoOs.Lib.System

/-!
# The kernel invariant

`KernelOk` relates the thread table and the wait slots; `PhaseOk` says what the phase of the machine
adds to it. `Effect.keeps` and `Left.keeps` carry both through a trap.
-/

namespace ProtoOs

variable {L : Layout} {cfg : Config} {k k' : Kernel} {t s : Slot} {e : EpId} {tf : TrapFrame}
  {entering : Option Slot} {reason : TaskReturnReason}

/-! ## Threads -/

def Resume.belongs (s : Slot) (r : Resume) : Prop :=
  if s = slotIdle then r = .bootstrap .idle none ∨ r = .idleLoop
  else r = .bootstrap .userTask (some s) ∨ r = .returnStep s

theorem Resume.belongs_ne_null {r : Resume} (belongs : r.belongs s) : r ≠ .null := by
  unfold Resume.belongs at belongs
  split at belongs
  all_goals
    rcases belongs with rfl | rfl
    · nofun
    · nofun

/-- What no step of the kernel changes in the restart data of a task. -/
structure Template (L : Layout) (s : Slot) (u : UserTask) : Prop where
  entry : u.userEntry = L.entry s
  stack : u.userSp = L.stackTop s
  name : u.name = some (taskName s)

structure ThreadOk (L : Layout) (s : Slot) (th : Thread) : Prop where
  slot : th.slot = s.u32
  kind : th.kind = if s = slotIdle then .idle else .userTask
  sp : th.ctx.sp ≠ 0
  lr : th.ctx.lr.belongs s
  elr : s ≠ slotIdle → InSandbox th.user.ctx.elr
  template : s ≠ slotIdle → Template L s th.user

def OffCpu (s : Slot) (th : Thread) : Prop :=
  if s = slotIdle then th.state = .runnable
  else th.state = .runnable ∧ (th.user.state = .runnable ∨ th.user.state = .blocked) ∨
    th.state = .stopped ∧ th.user.state = .dead

theorem OffCpu.ready {th : Thread} (off : OffCpu s th) (user : s ≠ slotIdle)
    (alive : th.user.state ≠ .dead) (awake : th.user.state ≠ .blocked) :
    th.state = .runnable ∧ th.user.state = .runnable := by
  simp only [OffCpu, user, if_false] at off
  rcases off with ⟨state, ready | blocked⟩ | ⟨_, dead⟩
  · exact ⟨state, ready⟩
  · exact absurd blocked awake
  · exact absurd dead alive

theorem OffCpu.not_running {th : Thread} (off : OffCpu s th) (user : s ≠ slotIdle) :
    th.user.state ≠ .running := by
  simp only [OffCpu, user, if_false] at off
  rcases off with ⟨_, state | state⟩ | ⟨_, state⟩
  · simp [state]
  · simp [state]
  · simp [state]

theorem OffCpu.of_blocked {th : Thread} (off : OffCpu s th) (user : s ≠ slotIdle)
    (blocked : th.user.state = .blocked) : th.state = .runnable := by
  simp only [OffCpu, user, if_false, blocked] at off
  simpa using off

theorem entry_inSandbox (valid : validateEl0Layout L = .ok ()) (user : s ≠ slotIdle) :
    InSandbox (L.entry s) := by
  have code : el0CodeEnd.toNat ≤ el0SandboxEnd.toNat := by decide
  unfold validateEl0Layout at valid
  split_ifs at valid with _ a b c
  simp only [not_or, UInt64.not_lt, ge_iff_le, UInt64.not_le] at a b c
  have inside {address : UInt64} (low : el0SandboxBase ≤ address) (high : address < el0CodeEnd) :
      InSandbox address :=
    ⟨low, UInt64.lt_iff_toNat_lt.mpr (Nat.lt_of_lt_of_le (UInt64.lt_iff_toNat_lt.mp high) code)⟩
  match s, user with
  | 0, _ => exact inside a.1 a.2
  | 1, _ => exact inside b.1 b.2
  | 2, _ => exact inside c.1 c.2
  | 3, user => exact absurd rfl user

/-! ## The kernel -/

structure KernelOk (L : Layout) (cfg : Config) (k : Kernel) (entering : Option Slot) : Prop where
  valid : validateEl0Layout L = .ok ()
  threads : ∀ s, ThreadOk L s (k.threads s)
  waits : WaitsOk k entering
  owners : ∀ e, (k.endpoints e).ownerSlot = initialOwner cfg e
  supervisor : ∀ s, k.waiter .supervisor = s.i32 → s = slotTaskC
  woke : ∀ s x0 prior, .woke s x0 prior ∈ k.log → prior = .blocked

theorem KernelOk.congr (ok : KernelOk L cfg k entering) (threads : k'.threads = k.threads)
    (owners : ∀ e, (k'.endpoints e).ownerSlot = (k.endpoints e).ownerSlot)
    (waiters : ∀ w, k'.waiter w = k.waiter w)
    (log : ∀ s x0 prior, .woke s x0 prior ∈ k'.log → .woke s x0 prior ∈ k.log) :
    KernelOk L cfg k' entering where
  valid := ok.valid
  threads s := threads ▸ ok.threads s
  waits := ok.waits.congr waiters (fun s _ => by rw [threads]) owners
  owners e := (owners e).trans (ok.owners e)
  supervisor s := by rw [waiters]; exact ok.supervisor s
  woke s x0 prior member := ok.woke s x0 prior (log s x0 prior member)

theorem KernelOk.recorded (ok : KernelOk L cfg k none) {w : WaitPlace} (at_ : k.waiter w = s.i32) :
    s ≠ slotIdle ∧ (k.threads s).user.state = .blocked := by
  simpa using ok.waits.state_of_recorded at_

theorem KernelOk.wakeable (ok : KernelOk L cfg k none) {w : WaitPlace} (at_ : k.waiter w = s.i32)
    (off : OffCpu s (k.threads s)) : Wakeable k s := by
  obtain ⟨user, blocked⟩ := ok.recorded at_
  refine ⟨?_, ?_, ?_⟩
  · rw [(ok.threads s).kind, if_neg user]
  · rw [off.of_blocked user blocked]
    nofun
  · rw [blocked]
    nofun

theorem KernelOk.register (ok : KernelOk L cfg k none) {p : WaitPlace} (user : t ≠ slotIdle)
    (running : (k.threads t).user.state ≠ .blocked) (free : k.waiter p = slotNone)
    (threads : k'.threads = k.threads)
    (owners : ∀ e, (k'.endpoints e).ownerSlot = (k.endpoints e).ownerSlot)
    (waiters : ∀ w, k'.waiter w = if w = p then t.i32 else k.waiter w)
    (own : ∀ e, p = .receiver e → (k.endpoints e).ownerSlot = t.u32)
    (supervisor : p = .supervisor → t = slotTaskC)
    (log : ∀ s x0 prior, .woke s x0 prior ∈ k'.log → .woke s x0 prior ∈ k.log) :
    KernelOk L cfg k' (some t) where
  valid := ok.valid
  threads s := threads ▸ ok.threads s
  waits := ok.waits.register user running free waiters (fun s => by rw [threads]) owners own
  owners e := (owners e).trans (ok.owners e)
  supervisor s := by
    rw [waiters]
    split_ifs with here
    · intro same
      rw [← Slot.i32_inj.mp same]
      exact supervisor here.symm
    · exact ok.supervisor s
  woke s x0 prior member := ok.woke s x0 prior (log s x0 prior member)

theorem ThreadOk.wake {th : Thread} (ok : ThreadOk L s th) (retval : UInt64) :
    ThreadOk L s (th.wake retval) :=
  ⟨ok.slot, ok.kind, ok.sp, ok.lr, ok.elr,
    fun user => ⟨(ok.template user).entry, (ok.template user).stack, (ok.template user).name⟩⟩

theorem KernelOk.release (ok : KernelOk L cfg k entering) {p : WaitPlace}
    (at_ : k.waiter p = s.i32) (other : entering ≠ some s) (retval : UInt64)
    (threads : k'.threads = Function.update k.threads s ((k.threads s).wake retval))
    (owners : ∀ e, (k'.endpoints e).ownerSlot = (k.endpoints e).ownerSlot)
    (waiters : ∀ w, k'.waiter w = if w = p then slotNone else k.waiter w)
    (log : ∀ u x0 prior, .woke u x0 prior ∈ k'.log →
      .woke u x0 prior ∈ k.log ∨ prior = (k.threads s).user.state) : KernelOk L cfg k' entering where
  valid := ok.valid
  threads u := by
    rw [threads]
    by_cases same : u = s
    · subst same
      rw [Function.update_self]
      exact (ok.threads u).wake retval
    · rw [Function.update_of_ne same]
      exact ok.threads u
  waits := by
    refine ok.waits.release at_ other waiters ?_ (fun u different => ?_) owners
    · simp [threads, Thread.wake]
    · rw [threads, Function.update_of_ne different]
  owners e := (owners e).trans (ok.owners e)
  supervisor u := by
    rw [waiters]
    split_ifs
    · intro impossible
      exact absurd impossible (Slot.none_ne_i32 u)
    · exact ok.supervisor u
  woke u x0 prior member := by
    rcases log u x0 prior member with earlier | now
    · exact ok.woke u x0 prior earlier
    · have state := (ok.waits.state_of_recorded at_).2
      rw [now]
      exact state.resolve_right other

/-! ## The running task -/

structure Active (k : Kernel) (t : Slot) : Prop where
  user : t ≠ slotIdle
  current : k.current = some t
  task : k.currentTask = some t
  state : (k.threads t).state = .running
  running : (k.threads t).user.state = .running
  others : ∀ u, u ≠ t → OffCpu u (k.threads u)

theorem Active.congr (active : Active k t) (threads : k'.threads = k.threads)
    (current : k'.current = k.current) (task : k'.currentTask = k.currentTask) : Active k' t :=
  ⟨active.user, current ▸ active.current, task ▸ active.task, threads ▸ active.state,
    threads ▸ active.running, threads ▸ active.others⟩

theorem Active.update (active : Active k t) {f : Thread → Thread} (different : s ≠ t)
    (off : OffCpu s (f (k.threads s)))
    (threads : k'.threads = Function.update k.threads s (f (k.threads s)))
    (current : k'.current = k.current) (task : k'.currentTask = k.currentTask) : Active k' t := by
  refine ⟨active.user, current ▸ active.current, task ▸ active.task, ?_, ?_, fun u other => ?_⟩
  · rw [threads, Function.update_of_ne different.symm]
    exact active.state
  · rw [threads, Function.update_of_ne different.symm]
    exact active.running
  · rw [threads]
    by_cases same : u = s
    · subst same
      rw [Function.update_self]
      exact off
    · rw [Function.update_of_ne same]
      exact active.others u other

theorem Active.not_blocked (active : Active k t) : (k.threads t).user.state ≠ .blocked := by
  rw [active.running]
  nofun

theorem Active.ready (active : Active k t) (ok : KernelOk L cfg k entering) : Ready k t where
  current := active.current
  task := active.task
  kind := by rw [(ok.threads t).kind, if_neg active.user]
  slot := (ok.threads t).slot
  lr := Resume.belongs_ne_null (ok.threads t).lr
  sp := (ok.threads t).sp

theorem Active.ne_of_recorded (active : Active k t) (ok : KernelOk L cfg k none) {w : WaitPlace}
    (at_ : k.waiter w = s.i32) : s ≠ t := by
  rintro rfl
  exact active.not_blocked (ok.recorded at_).2

theorem Active.unrecorded (active : Active k t) (ok : KernelOk L cfg k none) : Unrecorded k t :=
  fun _ at_ => active.ne_of_recorded ok at_ rfl

theorem Active.awake (active : Active k t) (ok : KernelOk L cfg k none) : WaitersAwake k := by
  intro w
  rcases ok.waits.valid w with vacant | ⟨s, _, at_⟩
  · exact .inl vacant
  · exact .inr ⟨s, at_, ok.wakeable at_ (active.others s (active.ne_of_recorded ok at_))⟩

theorem OffCpu.wake {th : Thread} (user : s ≠ slotIdle) (retval : UInt64) :
    OffCpu s (th.wake retval) := by
  simp [OffCpu, user, Thread.wake]

/-! ## System calls -/

def Outcome.registering (t : Slot) : Outcome → Option Slot
  | .away .ipcBlock | .away .notifyBlock => some t
  | _ => none

theorem ThreadOk.restart {th : Thread} (ok : ThreadOk L s th) (user : s ≠ slotIdle)
    (valid : validateEl0Layout L = .ok ()) : ThreadOk L s th.restart where
  slot := ok.slot
  kind := ok.kind
  sp := ok.sp
  lr := ok.lr
  elr _ := by
    rw [show th.restart.user.ctx.elr = L.entry s from (ok.template user).entry]
    exact entry_inSandbox valid user
  template _ := ⟨(ok.template user).entry, (ok.template user).stack, (ok.template user).name⟩

theorem KernelOk.restartTask (ok : KernelOk L cfg k none) (user : s ≠ slotIdle)
    (dead : (k.threads s).user.state = .dead) : KernelOk L cfg (k.restartTask s) none := by
  have states (u : Slot) : ((k.restartTask s).threads u).user.state = .blocked ↔
      (k.threads u).user.state = .blocked := by
    by_cases same : u = s
    · subst same
      simp [Kernel.restartTask, threadRequestResched, Thread.restart, userTaskInit, dead]
    · simp [Kernel.restartTask, threadRequestResched, same]
  refine ⟨ok.valid, fun u => ?_, ok.waits.congr ?_ (fun u _ => states u) fun _ => rfl, ok.owners,
    ok.supervisor, fun u x0 prior member => ok.woke u x0 prior ?_⟩
  · by_cases same : u = s
    · subst same
      simpa [Kernel.restartTask, threadRequestResched] using
        (ok.threads u).restart user ok.valid
    · simpa [Kernel.restartTask, threadRequestResched, same] using ok.threads u
  · intro w
    cases w <;> rfl
  · simpa [Kernel.restartTask, threadRequestResched] using member

theorem Effect.keeps {k₁ : Kernel} {o : Outcome} (ok : KernelOk L cfg k none) (active : Active k t)
    (effect : Effect cfg k t tf k₁ o) : KernelOk L cfg k₁ (o.registering t) ∧ Active k₁ t := by
  cases effect with
  | refused | ticks | yield | exit => exact ⟨ok, active⟩
  | write =>
      exact ⟨ok.congr rfl (fun _ => rfl) (by rintro (_ | _ | _) <;> rfl) (fun _ _ _ member => member),
        active.congr rfl rfl rfl⟩
  | fault =>
      exact ⟨ok.congr rfl (fun _ => rfl) (by rintro (_ | _ | _) <;> rfl) (fun _ _ _ member => member),
        active.congr rfl rfl rfl⟩
  | @park e d _ accepts _ =>
      refine ⟨ok.register (p := .caller e) active.user active.not_blocked accepts.free rfl
        parkRequest_on.owners waiter_parkRequest (by simp) (by simp) ?_, active.congr rfl rfl rfl⟩
      simp [Kernel.parkRequest, Kernel.registerCaller]
  | @handOver e d s _ accepts waiting _ =>
      have registered : KernelOk L cfg (k.registerCaller t e d) (some t) :=
        ok.register (p := .caller e) active.user active.not_blocked accepts.free rfl
          registerCaller_on.owners waiter_registerCaller (by simp) (by simp)
          (by simp [Kernel.registerCaller])
      have at_ : (k.registerCaller t e d).waiter (.receiver e) = s.i32 := by
        rw [waiter_registerCaller, if_neg (by simp)]
        exact waiting
      have different : s ≠ t := active.ne_of_recorded ok (w := .receiver e) waiting
      have user : s ≠ slotIdle := (ok.recorded (w := .receiver e) waiting).1
      refine ⟨registered.release at_ (fun same => different (Option.some_inj.mp same).symm)
          (minU64 d.len (k.endpoints e).receiverBufCap) rfl (fun u => ?_) waiter_handOver ?_,
        active.update different (OffCpu.wake user _) rfl rfl rfl⟩
      · rw [handOver_on.owners, registerCaller_on.owners]
      · intro u x0 prior member
        simp only [Kernel.handOver, Kernel.registerCaller] at member ⊢
        simp at member ⊢
        rcases member with earlier | ⟨_, _, prior⟩
        · exact .inl earlier
        · exact .inr prior
  | take =>
      refine ⟨ok.congr rfl takePending_on.owners waiter_takePending ?_, active.congr rfl rfl rfl⟩
      simp [Kernel.takePending]
  | @listen e _ _ _ owner _ absent =>
      refine ⟨ok.register (p := .receiver e) active.user active.not_blocked absent rfl
        listen_on.owners waiter_listen ?_ (by simp) (fun _ _ _ member => member),
        active.congr rfl rfl rfl⟩
      rintro u ⟨rfl⟩
      exact owner
  | @answer e s _ _ _ _ _ waiting _ =>
      have different : s ≠ t := active.ne_of_recorded ok (w := .caller e) waiting
      have user : s ≠ slotIdle := (ok.recorded (w := .caller e) waiting).1
      refine ⟨ok.release (p := .caller e) waiting (by simp) _ rfl answer_on.owners waiter_answer ?_,
        active.update different (OffCpu.wake user _) rfl rfl rfl⟩
      intro u x0 prior member
      simp only [Kernel.answer] at member
      simp at member
      rcases member with earlier | ⟨_, _, prior⟩
      · exact .inl earlier
      · exact .inr prior
  | report =>
      refine ⟨ok.congr rfl (fun _ => rfl) (by rintro (_ | _ | _) <;> rfl) ?_, active.congr rfl rfl rfl⟩
      simp
  | await _ supervisor _ absent =>
      refine ⟨ok.register (p := .supervisor) active.user active.not_blocked absent rfl (fun _ => rfl)
        (waiter_setBlockedSupervisor _) (by simp) (fun _ => supervisor)
        (fun _ _ _ member => member), active.congr rfl rfl rfl⟩
  | restart _ supervisor _ restartable =>
      have different : slotTaskB ≠ t := by rw [supervisor]; decide
      refine ⟨ok.restartTask (by decide) restartable.dead,
        active.update different ?_ rfl rfl rfl⟩
      simp [OffCpu, Thread.restart, userTaskInit]

/-! ## The return step -/

def Paused (s : Slot) (th : Thread) : Prop :=
  if s = slotIdle then th.state = .running else OffCpu s th

/-- The current thread no longer runs its task, and no other thread runs. -/
structure Leaving (k : Kernel) (t : Slot) : Prop where
  current : k.current = some t
  self : Paused t (k.threads t)
  others : ∀ u, u ≠ t → OffCpu u (k.threads u)

theorem Leaving.congr (leaving : Leaving k t) (threads : k'.threads = k.threads)
    (current : k'.current = k.current) : Leaving k' t :=
  ⟨current ▸ leaving.current, threads ▸ leaving.self, threads ▸ leaving.others⟩

theorem Leaving.off (leaving : Leaving k t) (user : s ≠ slotIdle) : OffCpu s (k.threads s) := by
  by_cases same : s = t
  · subst same
    simpa [Paused, user] using leaving.self
  · exact leaving.others s same

theorem Leaving.wake (leaving : Leaving k t) (user : s ≠ slotIdle) (retval : UInt64)
    (threads : k'.threads = Function.update k.threads s ((k.threads s).wake retval))
    (current : k'.current = k.current) : Leaving k' t := by
  have woken : OffCpu s (k'.threads s) := by
    rw [threads, Function.update_self]
    exact OffCpu.wake user retval
  have kept (u : Slot) (other : u ≠ s) : k'.threads u = k.threads u := by
    rw [threads, Function.update_of_ne other]
  refine ⟨current ▸ leaving.current, ?_, fun u different => ?_⟩
  · by_cases same : t = s
    · subst same
      simpa [Paused, user] using woken
    · rw [kept t same]
      exact leaving.self
  · by_cases same : u = s
    · subst same
      exact woken
    · rw [kept u same]
      exact leaving.others u different

theorem KernelOk.modifyThread (ok : KernelOk L cfg k entering) {f : Thread → Thread}
    (keeps : ThreadOk L s (f (k.threads s)))
    (state : (f (k.threads s)).user.state = .blocked ↔ (k.threads s).user.state = .blocked) :
    KernelOk L cfg (k.modifyThread s f) entering where
  valid := ok.valid
  threads u := by
    by_cases same : u = s
    · subst same
      simpa using keeps
    · simpa [same] using ok.threads u
  waits := by
    refine ok.waits.congr (by rintro (_ | _ | _) <;> rfl) (fun u _ => ?_) fun _ => rfl
    by_cases same : u = s
    · subst same
      simpa using state
    · simp [same]
  owners := ok.owners
  supervisor := ok.supervisor
  woke := ok.woke

theorem ThreadOk.mark {th : Thread} (ok : ThreadOk L s th) (state : ThreadState)
    (user : TaskState) :
    ThreadOk L s { th with state := state, user := { th.user with state := user } } :=
  ⟨ok.slot, ok.kind, ok.sp, ok.lr, ok.elr,
    fun user => ⟨(ok.template user).entry, (ok.template user).stack, (ok.template user).name⟩⟩

theorem KernelOk.mark (ok : KernelOk L cfg k entering) {state : ThreadState} {user : TaskState}
    (awake : user ≠ .blocked) (running : (k.threads t).user.state ≠ .blocked) :
    KernelOk L cfg (k.markTask t state user) entering :=
  ok.modifyThread ((ok.threads t).mark state user) (by simp [awake, running])

theorem ThreadOk.saveFrame {th : Thread} (ok : ThreadOk L s th) (inside : InSandbox tf.elr) :
    ThreadOk L s (th.saveFrame tf reason) :=
  ⟨ok.slot, ok.kind, ok.sp, ok.lr, fun _ => inside,
    fun user => ⟨(ok.template user).entry, (ok.template user).stack, (ok.template user).name⟩⟩

theorem KernelOk.saveFrame (ok : KernelOk L cfg k entering) (inside : InSandbox tf.elr) :
    KernelOk L cfg (k.saveFrame t tf reason) entering :=
  ok.modifyThread ((ok.threads t).saveFrame inside) Iff.rfl

theorem Active.saveFrame (active : Active k t) : Active (k.saveFrame t tf reason) t := by
  refine ⟨active.user, active.current, active.task, ?_, ?_, fun u other => ?_⟩
  · simpa [Thread.saveFrame] using active.state
  · simpa [Thread.saveFrame] using active.running
  · simpa [other] using active.others u other

theorem Active.mark (active : Active k t) {state : ThreadState} {user : TaskState}
    (off : OffCpu t ((k.markTask t state user).threads t)) :
    Leaving (k.markTask t state user) t := by
  refine ⟨active.current, ?_, fun u other => ?_⟩
  · simpa [Paused, active.user] using off
  · simpa [other] using active.others u other

theorem KernelOk.settle (ok : KernelOk L cfg k (some t)) :
    KernelOk L cfg (k.markTask t .runnable .blocked) none where
  valid := ok.valid
  threads u := by
    by_cases same : u = t
    · subst same
      simpa using (ok.threads u).mark .runnable .blocked
    · simpa [same] using ok.threads u
  waits := by
    refine ok.waits.settle (by rintro (_ | _ | _) <;> rfl) (by simp) (fun u other => ?_) fun _ => rfl
    simp [other]
  owners := ok.owners
  supervisor := ok.supervisor
  woke := ok.woke

theorem Aborts.keeps {k₁ : Kernel} (aborts : Aborts t k k₁) (ok : KernelOk L cfg k none)
    (leaving : Leaving k t) : KernelOk L cfg k₁ none ∧ Leaving k₁ t := by
  induction aborts with
  | refl => exact ⟨ok, leaving⟩
  | @abort k' e s _ _ waiting _ ih =>
      obtain ⟨ok', leaving'⟩ := ih
      have at_ : k'.waiter (.caller e) = s.i32 := waiting
      refine ⟨ok'.release at_ (by nofun) minusOne rfl abortCaller_on.owners waiter_abortCaller ?_,
        leaving'.wake (ok'.recorded at_).1 minusOne rfl rfl⟩
      intro u x0 prior member
      simp only [Kernel.abortCaller] at member
      simp [Endpoint.abortEvents] at member
      rcases member with earlier | ⟨_, _, prior⟩
      · exact .inl earlier
      · exact .inr prior

theorem Noted.keeps {k₁ : Kernel} (noted : Noted t k k₁) (ok : KernelOk L cfg k none)
    (leaving : Leaving k t) : KernelOk L cfg k₁ none ∧ Leaving k₁ t := by
  cases noted with
  | @woke s waiting _ =>
      have at_ : k.waiter .supervisor = s.i32 := waiting
      refine ⟨ok.release at_ (by nofun) t.u32.toUInt64 rfl (fun _ => rfl) ?_ ?_,
        leaving.wake (ok.recorded at_).1 t.u32.toUInt64 rfl rfl⟩
      · rintro (_ | _ | _) <;> rfl
      · intro u x0 prior member
        simp at member
        rcases member with earlier | ⟨_, _, prior⟩
        · exact .inl earlier
        · exact .inr prior
  | kept =>
      exact ⟨ok.congr rfl (fun _ => rfl) (by rintro (_ | _ | _) <;> rfl) (fun _ _ _ member => member),
        leaving.congr rfl rfl⟩
  | overwrote =>
      exact ⟨ok.congr rfl (fun _ => rfl) (by rintro (_ | _ | _) <;> rfl) (by simp),
        leaving.congr rfl rfl⟩

theorem Effect.registering_eq {k₁ : Kernel} (effect : Effect cfg k t tf k₁ (.away reason)) :
    reason ≠ .none ∧ (Outcome.away reason).registering t =
      if reason = .ipcBlock ∨ reason = .notifyBlock then some t else none := by
  cases effect
  all_goals exact ⟨by nofun, rfl⟩

theorem Effect.saved {k₁ : Kernel} (effect : Effect cfg k t tf k₁ (.away reason))
    (ok : KernelOk L cfg k none) (active : Active k t) (inside : InSandbox tf.elr) :
    KernelOk L cfg (k₁.saveFrame t tf reason)
        (if reason = .ipcBlock ∨ reason = .notifyBlock then some t else none) ∧
      Active (k₁.saveFrame t tf reason) t := by
  obtain ⟨ok₁, active₁⟩ := effect.keeps ok active
  rw [effect.registering_eq.2] at ok₁
  exact ⟨ok₁.saveFrame inside, active₁.saveFrame⟩

theorem Active.dying (active : Active k t) (ok : KernelOk L cfg k none) :
    KernelOk L cfg (k.dying t) none ∧ Leaving (k.dying t) t := by
  have logged : KernelOk L cfg (k.record [.died t.u32]) none :=
    ok.congr rfl (fun _ => rfl) (by rintro (_ | _ | _) <;> rfl) (by simp)
  have activeLogged : Active (k.record [.died t.u32]) t := active.congr rfl rfl rfl
  refine ⟨logged.mark (by nofun) active.not_blocked, activeLogged.mark ?_⟩
  simp [OffCpu, active.user]

theorem Active.dies (active : Active k t) (dies : reason = .exit ∨ reason = .fault)
    (ok : KernelOk L cfg k (if reason = .ipcBlock ∨ reason = .notifyBlock then some t else none)) :
    KernelOk L cfg ((k.emit (exitPrint k t reason)).dying t) none ∧
      Leaving ((k.emit (exitPrint k t reason)).dying t) t := by
  have awake : ¬ (reason = .ipcBlock ∨ reason = .notifyBlock) := by
    rcases dies with rfl | rfl
    · nofun
    · nofun
  rw [if_neg awake] at ok
  have printed : KernelOk L cfg (k.emit (exitPrint k t reason)) none :=
    ok.congr rfl (fun _ => rfl) (by rintro (_ | _ | _) <;> rfl) (fun _ _ _ member => member)
  have activePrinted : Active (k.emit (exitPrint k t reason)) t := active.congr rfl rfl rfl
  exact activePrinted.dying printed

theorem Left.keeps {k₁ : Kernel} (left : Left k t reason k₁)
    (ok : KernelOk L cfg k (if reason = .ipcBlock ∨ reason = .notifyBlock then some t else none))
    (active : Active k t) : KernelOk L cfg k₁ none ∧ Leaving k₁ t := by
  cases left with
  | yield voluntary =>
      subst voluntary
      refine ⟨KernelOk.mark ok (by nofun) active.not_blocked, active.mark ?_⟩
      simp [OffCpu, active.user]
  | block blocks =>
      rw [if_pos blocks] at ok
      refine ⟨ok.settle, active.mark ?_⟩
      simp [OffCpu, active.user]
  | death dies _ _ aborts _ noted =>
      obtain ⟨dying, leaving⟩ := active.dies dies ok
      obtain ⟨okAborted, leavingAborted⟩ := aborts.keeps dying leaving
      exact noted.keeps okAborted leavingAborted

/-! A task that is not blocked is in no wait slot, so that the death of a task leaves it as it is. -/

theorem Aborts.awake {k₁ : Kernel} (aborts : Aborts t k k₁) (ok : KernelOk L cfg k none)
    (leaving : Leaving k t) (awake : (k.threads s).user.state ≠ .blocked) :
    k₁.threads s = k.threads s := by
  induction aborts with
  | refl => rfl
  | @abort k' e u before _ waiting _ ih =>
      obtain ⟨ok', _⟩ := before.keeps ok leaving
      have different : s ≠ u := by
        rintro rfl
        have blocked := (ok'.recorded (w := .caller e) waiting).2
        rw [ih] at blocked
        exact awake blocked
      rw [← ih]
      simp [Kernel.abortCaller, different]

theorem Noted.awake {k₁ : Kernel} (noted : Noted t k k₁) (ok : KernelOk L cfg k none)
    (awake : (k.threads s).user.state ≠ .blocked) : k₁.threads s = k.threads s := by
  cases noted with
  | kept => rfl
  | overwrote => rfl
  | @woke u waiting _ =>
      have different : s ≠ u := by
        rintro rfl
        exact awake (ok.recorded (w := .supervisor) waiting).2
      simp [different]

theorem Left.awake {k₁ : Kernel} (left : Left k t reason k₁)
    (ok : KernelOk L cfg k (if reason = .ipcBlock ∨ reason = .notifyBlock then some t else none))
    (active : Active k t) (other : s ≠ t) (awake : (k.threads s).user.state ≠ .blocked) :
    k₁.threads s = k.threads s := by
  cases left with
  | yield => simp [other]
  | block => simp [other]
  | death dies _ _ aborts _ noted =>
      obtain ⟨dying, leaving⟩ := active.dies dies ok
      have same : ((k.emit (exitPrint k t reason)).dying t).threads s = k.threads s := by
        simp [Kernel.dying, other]
      rw [← same] at awake
      have aborted := aborts.awake dying leaving awake
      rw [noted.awake (aborts.keeps dying leaving).1 (aborted ▸ awake), aborted, same]

theorem Left.dead {k₁ : Kernel} (left : Left k t reason k₁) (dies : reason = .exit ∨ reason = .fault)
    (ok : KernelOk L cfg k (if reason = .ipcBlock ∨ reason = .notifyBlock then some t else none))
    (active : Active k t) :
    (k₁.threads t).user.state = .dead ∧ (k₁.threads t).state = .stopped := by
  cases left with
  | yield voluntary =>
      subst voluntary
      rcases dies with dies | dies
      · cases dies
      · cases dies
  | block blocks =>
      rcases blocks with rfl | rfl
      · rcases dies with dies | dies
        · cases dies
        · cases dies
      · rcases dies with dies | dies
        · cases dies
        · cases dies
  | death _ _ _ aborts _ noted =>
      obtain ⟨dying, leaving⟩ := active.dies dies ok
      have dead : (((k.emit (exitPrint k t reason)).dying t).threads t).user.state = .dead := by
        simp [Kernel.dying]
      have awake : (((k.emit (exitPrint k t reason)).dying t).threads t).user.state ≠ .blocked := by
        rw [dead]
        simp
      have aborted := aborts.awake dying leaving awake
      rw [noted.awake (aborts.keeps dying leaving).1 (aborted ▸ awake), aborted]
      simp [Kernel.dying]

end ProtoOs
