import ProtoOs.Kernel.Programs
import ProtoOs.Proof.Calls
import ProtoOs.Proof.Schedule
import ProtoOs.Proof.Supervision

/-!
# The shipped supervisor

What `task_c` knows of the deaths of `task_b`. A dead `task_b` is pending or was reported to
`task_c`, unless it is reported by the wake that ends the wait of `task_c`.
-/

namespace ProtoOs

variable {L : Layout} {cfg : Config} {img : Image} {k k₁ : Kernel} {t s : Slot} {tf : TrapFrame}
  {o : Outcome} {pc pc' : TaskC} {x0 : UInt64}

/-! ## The calls of the supervisor -/

/-- What the supervisor calls where its last call returned `x0`, and the point it goes to. -/
inductive SupervisorCall (x0 : UInt64) (pc : TaskC) (tf : TrapFrame) : TaskC → Prop
  | write (asks : Asks tf sysWrite) (starts : pc = .entry ∨ pc = .restarted) :
      SupervisorCall x0 pc tf .wrote
  | wait (asks : Asks tf sysSuperviseWait)
      (other : pc = .waited → x0 ≠ slotTaskB.u32.toUInt64) : SupervisorCall x0 pc tf .waited
  | restart (asks : Asks tf sysTaskRestart) (target : tf.x 0 = slotTaskB.u32.toUInt64)
      (waited : pc = .waited) (told : x0 = slotTaskB.u32.toUInt64) :
      SupervisorCall x0 pc tf .restarted

def TaskC.Supervises (pc : TaskC) : Prop := pc ≠ .received ∧ pc ≠ .replied

theorem supervisorCall (mode : cfg.mode ≠ .latency) (supervises : pc.Supervises)
    (raises : (el0TaskCEntry cfg img x0 pc).1.Raises tf) :
    SupervisorCall x0 pc tf (el0TaskCEntry cfg img x0 pc).2 := by
  have write {buf len : UInt64} (raises : (el0WriteRet buf len).Raises tf) : Asks tf sysWrite :=
    ⟨raises.1, raises.2.1⟩
  have wait (raises : el0SuperviseWait.Raises tf) : Asks tf sysSuperviseWait :=
    ⟨raises.1, raises.2.1⟩
  cases pc with
  | entry =>
      cases build : cfg.mode with
      | off =>
          simp only [el0TaskCEntry, build] at raises ⊢
          exact .write (write raises) (by simp)
      | recovery =>
          simp only [el0TaskCEntry, build] at raises ⊢
          exact .wait (wait raises) (by nofun)
      | latency => exact absurd build mode
  | wrote => exact .wait (wait raises) (by nofun)
  | waited =>
      by_cases told : x0 = slotTaskB.u32.toUInt64
      · simp only [el0TaskCEntry, told, if_true] at raises ⊢
        exact .restart ⟨raises.1, raises.2.1⟩ (raises.2.2 (_, 0) (by simp)) rfl rfl
      · simp only [el0TaskCEntry, told, if_false] at raises ⊢
        exact .wait (wait raises) fun _ => told
  | restarted =>
      by_cases writes : x0 = 0 ∧ cfg.mode = .off
      · simp only [el0TaskCEntry, writes, and_self, if_true] at raises ⊢
        exact .write (write raises) (by simp)
      · simp only [el0TaskCEntry, writes, if_false] at raises ⊢
        exact .wait (wait raises) (by nofun)
  | received => exact absurd rfl supervises.1
  | replied => exact absurd rfl supervises.2

theorem SupervisorCall.supervises (call : SupervisorCall x0 pc tf pc') : pc'.Supervises := by
  cases call with
  | write | wait | restart => exact ⟨by nofun, by nofun⟩

/-! ## What the supervisor knows -/

/-- The last call of `task_c`, which returned or is about to return `x0`, reported `task_b`. -/
def Knows (k : Kernel) (x0 : UInt64) (pc : TaskC) : Prop :=
  pc = .waited ∧ (k.threads slotTaskC).user.state ≠ .blocked ∧ x0 = slotTaskB.u32.toUInt64

/-- A dead `task_b` is either pending or known, and a live one neither. -/
inductive Known (k : Kernel) (x0 : UInt64) (pc : TaskC) : Prop
  | alive (alive : (k.threads slotTaskB).user.state ≠ .dead)
      (free : k.pendingDeathSlot ≠ slotTaskB.i32) (unaware : ¬ Knows k x0 pc)
  | pending (dead : (k.threads slotTaskB).user.state = .dead)
      (awake : (k.threads slotTaskC).user.state ≠ .blocked)
      (pending : k.pendingDeathSlot = slotTaskB.i32) (unaware : ¬ Knows k x0 pc)
  | known (dead : (k.threads slotTaskB).user.state = .dead)
      (free : k.pendingDeathSlot ≠ slotTaskB.i32) (aware : Knows k x0 pc)

structure Supervised (k : Kernel) (x0 : UInt64) (pc : TaskC) : Prop where
  supervises : pc.Supervises
  alive : (k.threads slotTaskC).user.state ≠ .dead
  waiting : (k.threads slotTaskC).user.state = .blocked → k.blockedSupervisorSlot = slotTaskC.i32
  waited : k.blockedSupervisorSlot = slotTaskC.i32 → pc = .waited
  known : Known k x0 pc

theorem Supervised.awake (ok : Supervised k x0 pc) (dead : (k.threads slotTaskB).user.state = .dead) :
    (k.threads slotTaskC).user.state ≠ .dead ∧ (k.threads slotTaskC).user.state ≠ .blocked := by
  refine ⟨ok.alive, ?_⟩
  cases ok.known with
  | alive alive => exact absurd dead alive
  | pending _ awake => exact awake
  | known _ _ aware => exact aware.2.1

structure Unnoticed (k k₁ : Kernel) : Prop where
  user : (k₁.threads slotTaskC).user.ctx = (k.threads slotTaskC).user.ctx
  state : ((k₁.threads slotTaskC).user.state = .dead ↔ (k.threads slotTaskC).user.state = .dead) ∧
    ((k₁.threads slotTaskC).user.state = .blocked ↔ (k.threads slotTaskC).user.state = .blocked)
  server : (k₁.threads slotTaskB).user.state = .dead ↔ (k.threads slotTaskB).user.state = .dead
  pending : k₁.pendingDeathSlot = k.pendingDeathSlot
  supervisor : k₁.blockedSupervisorSlot = k.blockedSupervisorSlot

theorem Supervised.unnoticed (ok : Supervised k x0 pc) (same : Unnoticed k k₁) :
    Supervised k₁ x0 pc := by
  have knows : Knows k₁ x0 pc ↔ Knows k x0 pc := by rw [Knows, Knows, ne_eq, ne_eq, same.state.2]
  refine ⟨ok.supervises, mt same.state.1.mp ok.alive, fun blocked => ?_, fun at_ => ?_, ?_⟩
  · rw [same.supervisor]
    exact ok.waiting (same.state.2.mp blocked)
  · rw [same.supervisor] at at_
    exact ok.waited at_
  · cases ok.known with
    | alive alive free unaware =>
        exact .alive (mt same.server.mp alive) (same.pending ▸ free) (mt knows.mp unaware)
    | pending dead awake pending unaware =>
        exact .pending (same.server.mpr dead) (mt same.state.2.mp awake)
          (same.pending.trans pending) (mt knows.mp unaware)
    | known dead free aware =>
        exact .known (same.server.mpr dead) (same.pending ▸ free) (knows.mpr aware)

/-! ## The steps of the other tasks -/

theorem KernelOk.unwoken (ok : KernelOk L cfg k none)
    (waiting : (k.threads slotTaskC).user.state = .blocked →
      k.blockedSupervisorSlot = slotTaskC.i32) {w : WaitPlace} (other : w ≠ .supervisor)
    (here : k.waiter w = s.i32) : s ≠ slotTaskC := by
  rintro rfl
  exact other (ok.only here (waiting (ok.recorded here).2))

theorem Effect.unnoticed (effect : Effect cfg k t tf k₁ o) (ok : KernelOk L cfg k none)
    (other : t ≠ slotTaskC)
    (waiting : (k.threads slotTaskC).user.state = .blocked →
      k.blockedSupervisorSlot = slotTaskC.i32) :
    (k₁.threads slotTaskC).user = (k.threads slotTaskC).user ∧
      k₁.pendingDeathSlot = k.pendingDeathSlot ∧
      k₁.blockedSupervisorSlot = k.blockedSupervisorSlot := by
  cases effect with
  | refused | ticks | write | yield | exit | fault | park | take | listen => exact ⟨rfl, rfl, rfl⟩
  | @handOver e _ s _ _ at_ =>
      have different : slotTaskC ≠ s := (ok.unwoken waiting (w := .receiver e) (by simp) at_).symm
      exact ⟨by simp [Kernel.handOver, Kernel.registerCaller, different], rfl, rfl⟩
  | @answer e s _ _ _ _ _ at_ =>
      have different : slotTaskC ≠ s := (ok.unwoken waiting (w := .caller e) (by simp) at_).symm
      exact ⟨by simp [Kernel.answer, different], rfl, rfl⟩
  | report _ supervisor | await _ supervisor | restart _ supervisor =>
      exact absurd supervisor other

theorem Aborts.unnoticed (aborts : Aborts t k k₁) (ok : KernelOk L cfg k none)
    (leaving : Leaving k t)
    (waiting : (k.threads slotTaskC).user.state = .blocked →
      k.blockedSupervisorSlot = slotTaskC.i32) :
    (k₁.threads slotTaskC).user = (k.threads slotTaskC).user := by
  induction aborts with
  | refl => rfl
  | @abort k' e s before _ at_ _ ih =>
      have ok' := (before.keeps ok leaving).1
      have different : slotTaskC ≠ s := by
        refine (ok'.unwoken (fun blocked => ?_) (w := .caller e) (by nofun) at_).symm
        rw [before.supervisor]
        exact waiting (ih ▸ blocked)
      simp [Kernel.abortCaller, different, ih]

/-- How `task_c` is told of the death of another task: by the wake that ends its wait, or by the
pending notification. -/
inductive Told (t : Slot) (k k₁ : Kernel) : Prop
  | woken (waiting : k.blockedSupervisorSlot = slotTaskC.i32)
      (ready : (k₁.threads slotTaskC).user.state = .runnable)
      (report : (k₁.threads slotTaskC).user.ctx.x 0 = t.u32.toUInt64)
      (pending : k₁.pendingDeathSlot = k.pendingDeathSlot)
      (supervisor : k₁.blockedSupervisorSlot = slotNone)
  | noted (absent : k.blockedSupervisorSlot = slotNone)
      (user : (k₁.threads slotTaskC).user = (k.threads slotTaskC).user)
      (pending : k₁.pendingDeathSlot = t.i32) (supervisor : k₁.blockedSupervisorSlot = slotNone)

theorem Left.told {reason : TaskReturnReason} (left : Left k t reason k₁)
    (dies : reason = .exit ∨ reason = .fault)
    (kernel : KernelOk L cfg k (if reason = .ipcBlock ∨ reason = .notifyBlock then some t else none))
    (active : Active k t) (other : t ≠ slotTaskC)
    (waiting : (k.threads slotTaskC).user.state = .blocked →
      k.blockedSupervisorSlot = slotTaskC.i32) : Told t k k₁ := by
  have lives : ¬ (reason = .yield ∨ reason = .ipcBlock ∨ reason = .notifyBlock) := by
    rcases dies with rfl | rfl
    · simp
    · simp
  cases left with
  | yield voluntary => exact absurd (.inl voluntary) lives
  | block blocks => exact absurd (.inr blocks) lives
  | @death k' _ _ _ _ aborts _ noted =>
      obtain ⟨dying, leaving⟩ := active.dies dies kernel
      have marked : ((k.emit (exitPrint k t reason)).dying t).threads slotTaskC =
          k.threads slotTaskC := by
        simp [Kernel.dying, Ne.symm other]
      have same : (k'.threads slotTaskC).user = (k.threads slotTaskC).user := by
        rw [aborts.unnoticed dying leaving (by rw [marked]; exact waiting), marked]
      have supervisor : k'.blockedSupervisorSlot = k.blockedSupervisorSlot := aborts.supervisor
      have pending : k'.pendingDeathSlot = k.pendingDeathSlot := aborts.silences.pending
      cases noted with
      | @woke s at_ =>
          have shipped : s = slotTaskC := (aborts.keeps dying leaving).1.supervisor s at_
          subst shipped
          exact .woken (supervisor ▸ at_) (by simp [Thread.wake]) (by simp [Thread.wake]) pending rfl
      | kept absent _ => exact .noted (supervisor ▸ absent) same rfl absent
      | overwrote absent _ => exact .noted (supervisor ▸ absent) same rfl absent

theorem Left.dies {reason : TaskReturnReason} (left : Left k t reason k₁)
    (alive : (k.threads s).user.state ≠ .dead) (dead : (k₁.threads s).user.state = .dead) :
    t = s := by
  by_contra different
  rw [(left.roused (Ne.symm different)).state_of (by nofun) dead] at dead
  exact alive dead

theorem Left.supervised {reason : TaskReturnReason} (left : Left k t reason k₁)
    (dies : reason = .exit ∨ reason = .fault)
    (kernel : KernelOk L cfg k (if reason = .ipcBlock ∨ reason = .notifyBlock then some t else none))
    (active : Active k t) (other : t ≠ slotTaskC)
    (alive : (k.threads slotTaskB).user.state ≠ .dead)
    (ok : Supervised k ((k.threads slotTaskC).user.ctx.x 0) pc) :
    Supervised k₁ ((k₁.threads slotTaskC).user.ctx.x 0) pc := by
  have dead : (k₁.threads slotTaskB).user.state = .dead ↔ t = slotTaskB := by
    constructor
    · exact left.dies alive
    · rintro rfl
      exact (left.dead dies kernel active).1
  have slots : t.u32.toUInt64 = slotTaskB.u32.toUInt64 ↔ t = slotTaskB :=
    (by decide : ∀ t : Slot, t.u32.toUInt64 = slotTaskB.u32.toUInt64 ↔ t = slotTaskB) t
  obtain ⟨free, unaware⟩ : k.pendingDeathSlot ≠ slotTaskB.i32 ∧
      ¬ Knows k ((k.threads slotTaskC).user.ctx.x 0) pc := by
    cases ok.known with
    | alive _ free unaware => exact ⟨free, unaware⟩
    | pending dead | known dead => exact absurd dead alive
  cases left.told dies kernel active other ok.waiting with
  | woken waiting ready report pending supervisor =>
      have waited := ok.waited waiting
      refine ⟨ok.supervises, by simp [ready], by simp [ready], ?_, ?_⟩
      · rw [supervisor]
        exact fun at_ => absurd at_ (Slot.none_ne_i32 slotTaskC)
      · rw [← pending] at free
        by_cases server : t = slotTaskB
        · exact .known (dead.mpr server) free ⟨waited, by simp [ready], report.trans (slots.mpr server)⟩
        · exact .alive (mt dead.mp server) free fun knows =>
            server (slots.mp (report.symm.trans knows.2.2))
  | noted absent user pending supervisor =>
      have awake : (k.threads slotTaskC).user.state ≠ .blocked := fun blocked =>
        Slot.none_ne_i32 slotTaskC (absent.symm.trans (ok.waiting blocked))
      have unaware' : ¬ Knows k₁ ((k₁.threads slotTaskC).user.ctx.x 0) pc := by
        rw [Knows, user]
        exact unaware
      refine ⟨ok.supervises, by rw [user]; exact ok.alive, ?_, ?_, ?_⟩
      · rw [user]
        exact fun blocked => absurd blocked awake
      · rw [supervisor]
        exact fun at_ => absurd at_ (Slot.none_ne_i32 slotTaskC)
      · by_cases server : t = slotTaskB
        · exact .pending (dead.mpr server) (by rw [user]; exact awake) (by rw [pending, server]) unaware'
        · refine .alive (mt dead.mp server) ?_ unaware'
          rw [pending]
          exact fun same => server (Slot.i32_inj.mp same)

/-! ## The steps of the supervisor -/

theorem stackTop_ne (valid : validateEl0Layout L = .ok ()) (user : s ≠ slotIdle) :
    L.stackTop s ≠ 0 := by
  unfold validateEl0Layout at valid
  split_ifs at valid with _ _ _ _ tops
  simp only [not_or, not_not] at tops
  obtain ⟨_, top_c, _, top_a, _, top_b⟩ := tops
  match s, user with
  | 0, _ => exact top_a ▸ by decide
  | 1, _ => exact top_b ▸ by decide
  | 2, _ => exact top_c ▸ by decide
  | 3, user => exact absurd rfl user

theorem restartable_of_dead (ok : KernelOk L cfg k none) (user : s ≠ slotIdle)
    (off : OffCpu s (k.threads s)) (dead : (k.threads s).user.state = .dead) :
    Restartable (k.threads s) := by
  have template := (ok.threads s).template user
  have entry := entry_inSandbox ok.valid user
  refine ⟨by rw [(ok.threads s).kind, if_neg user], dead, ?_, ?_, ?_, ?_⟩
  · simpa [OffCpu, user, dead] using off
  · rw [template.entry]
    intro null
    rw [null] at entry
    exact absurd entry (by decide)
  · rw [template.stack]
    exact stackTop_ne ok.valid user
  · rw [template.name]
    simp

theorem pending_toUInt64 {slot : Int32} :
    slot.toUInt32.toUInt64 = slotTaskB.u32.toUInt64 ↔ slot = slotTaskB.i32 := by
  have wide : slot.toUInt32.toUInt64 = slotTaskB.u32.toUInt64 ↔
      slot.toUInt32 = slotTaskB.i32.toUInt32 := UInt32.toUInt64_inj
  rw [wide]
  exact ⟨congrArg Int32.ofUInt32, congrArg Int32.toUInt32⟩

theorem Supervised.back (ok : Supervised k x0 pc) (kernel : KernelOk L cfg k none)
    (active : Active k slotTaskC) (call : SupervisorCall x0 pc tf pc') {y : UInt64}
    (effect : Effect cfg k slotTaskC tf k₁ (.back y)) : Supervised k₁ y pc' := by
  obtain ⟨kernel₁, active₁⟩ := effect.keeps kernel active
  have running : (k₁.threads slotTaskC).user.state = .running := active₁.running
  have unrecorded : k₁.blockedSupervisorSlot ≠ slotTaskC.i32 :=
    active₁.unrecorded kernel₁ .supervisor
  refine ⟨call.supervises, by simp [running], by simp [running], fun at_ => absurd at_ unrecorded, ?_⟩
  have awake : (k.threads slotTaskC).user.state ≠ .blocked := active.not_blocked
  cases call with
  | write asks starts =>
      have unaware : ¬ Knows k₁ y .wrote := by nofun
      have same : (k₁.threads slotTaskB).user.state = (k.threads slotTaskB).user.state ∧
          k₁.pendingDeathSlot = k.pendingDeathSlot := by
        cases effect.of_write asks with
        | refused | direct => exact ⟨rfl, rfl⟩
      cases ok.known with
      | alive alive free => exact .alive (same.1 ▸ alive) (same.2 ▸ free) unaware
      | pending dead _ pending =>
          exact .pending (same.1 ▸ dead) active₁.not_blocked (same.2 ▸ pending) unaware
      | known _ _ aware => exact absurd aware.1 (by rcases starts with rfl | rfl <;> nofun)
  | wait asks other =>
      cases effect.of_wait asks with
      | refused no =>
          obtain ⟨s, at_, _⟩ := (active.awake kernel).get .supervisor (no rfl).2
          have here := kernel.supervisor s at_
          subst here
          exact absurd at_ (active.unrecorded kernel .supervisor)
      | report full =>
          have none : slotNone ≠ slotTaskB.i32 := Slot.none_ne_i32 slotTaskB
          cases ok.known with
          | alive alive free _ =>
              exact .alive alive none fun knows => free (pending_toUInt64.mp knows.2.2)
          | pending dead _ pending _ =>
              exact .known dead none ⟨rfl, awake, pending_toUInt64.mpr pending⟩
          | known _ _ aware => exact absurd aware.2.2 (other aware.1)
  | restart asks target waited told =>
      have aware : Knows k x0 pc := ⟨waited, awake, told⟩
      obtain ⟨dead, free⟩ : (k.threads slotTaskB).user.state = .dead ∧
          k.pendingDeathSlot ≠ slotTaskB.i32 := by
        cases ok.known with
        | alive _ _ unaware | pending _ _ _ unaware => exact absurd aware unaware
        | known dead free => exact ⟨dead, free⟩
      cases effect.of_restart asks with
      | refused no =>
          exact absurd (restartable_of_dead kernel (by decide) (active.others _ (by decide)) dead)
            (no rfl target)
      | restart =>
          refine .alive ?_ free (by nofun)
          simp [Kernel.restartTask, threadRequestResched, Thread.restart, userTaskInit]

theorem Supervised.away {reason : TaskReturnReason} (ok : Supervised k x0 pc)
    (call : SupervisorCall x0 pc tf pc')
    (effect : Effect cfg k slotTaskC tf k₁ (.away reason)) :
    reason = .notifyBlock ∧ pc' = .waited ∧ k.pendingDeathSlot = slotNone ∧
      k₁ = k.setBlockedSupervisor slotTaskC.i32 ∧ (k.threads slotTaskB).user.state ≠ .dead := by
  cases call with
  | write asks =>
      cases effect.of_write asks with
      | park _ client | handOver _ client => exact absurd rfl client.2
  | wait asks other =>
      cases effect.of_wait asks with
      | await quiet =>
          refine ⟨rfl, rfl, quiet, rfl, fun dead => ?_⟩
          cases ok.known with
          | alive alive => exact alive dead
          | pending _ _ pending => exact Slot.none_ne_i32 slotTaskB (quiet.symm.trans pending)
          | known _ _ aware => exact other aware.1 aware.2.2
  | restart asks => cases effect.of_restart asks

end ProtoOs
