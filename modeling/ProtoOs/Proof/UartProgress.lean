import ProtoOs.Proof.Recovery
import ProtoOs.Proof.UartOutput

/-!
# The UART service makes progress

While `task_a` does not execute, some task is ready, and each call of the two servers lowers what is
left of their work. So `task_a` returns to EL0, with the result of its last write.
-/

namespace ProtoOs

open Transition.System

variable {L : Layout} {cfg : Config} {img : Image} {k k₁ k₂ : Kernel} {m m' : Machine} {t s : Slot}
  {tf : TrapFrame} {a : Action} {o : Outcome} {p p' : Service} {b b' : TaskB} {c c' : TaskC}
  {xa xb xc y : UInt64}

/-! ## A task is ready -/

/-- The points of `task_c` in the latency build. -/
def TaskC.Echoes (c : TaskC) : Prop := c = .entry ∨ c = .received ∨ c = .replied

def Busy (m : Machine) : Prop :=
  (∃ r, m.phase = .pick r) ∨ ∃ t, t ≠ slotIdle ∧ m.heading = some t

structure Served (L : Layout) (cfg : Config) (img : Image) (m : Machine) (p : Service) : Prop where
  relaying : Relaying L cfg img m p
  recovering : cfg.mode ≠ .latency → Recovering L cfg m p.c
  echoes : cfg.mode = .latency → p.c.Echoes
  busy : Busy m

theorem serving_supervised (next : (serving cfg img).next p m a m' = some p') :
    (supervised cfg img).next p.c m a m' = some p'.c := by
  cases a with
  | tick | advance =>
      simp only [serving] at next
      split at next
      · contradiction
      · cases next
        simp [supervised]
  | trap stores tf =>
      simp only [serving] at next
      split at next
      · rename_i regs stores tf phase trap
        cases trap
        split_ifs at next with inside client trap server raises other calls
        · cases next
          have other : slotTaskA ≠ slotTaskC := by decide
          simp [supervised, phase, inside, client, other, Service.client]
        · cases next
          have other : slotTaskB ≠ slotTaskC := by decide
          simp [supervised, phase, inside, server, other, Service.server]
        · cases next
          simp [supervised, phase, inside, other, calls.1]
      · rename_i untrapped
        cases next
        simp only [supervised]

theorem el0TaskCEntry_echoes (mode : cfg.mode = .latency) (echoes : c.Echoes) :
    (el0TaskCEntry cfg img xc c).2.Echoes := by
  rcases echoes with rfl | rfl | rfl
  · simp [el0TaskCEntry, mode, TaskC.Echoes]
  · simp only [el0TaskCEntry]
    split
    · exact .inr (.inr rfl)
    · exact .inr (.inl rfl)
  · exact .inr (.inl rfl)

theorem Served.ready (ok : Served L cfg img m p) {r : Resume} (pick : m.phase = .pick r) :
    ∃ s, s ≠ slotIdle ∧ threadIsSelectable m.kernel (some s) := by
  have kernel := ok.relaying.inv.kernelOk ok.relaying.calm
  obtain ⟨t, leaving⟩ := ok.relaying.inv.leaving pick
  have selectable {s : Slot} (user : s ≠ slotIdle) (alive : (m.kernel.threads s).user.state ≠ .dead)
      (awake : (m.kernel.threads s).user.state ≠ .blocked) :
      ∃ s, s ≠ slotIdle ∧ threadIsSelectable m.kernel (some s) :=
    ⟨s, user, (selectable_user kernel user (leaving.off user)).mpr
      ((leaving.off user).ready user alive awake)⟩
  obtain ⟨stage, at_, _⟩ := ok.relaying.relays.stage
  generalize p.b = b at at_
  cases at_ with
  | idle _ _ awake => exact selectable (s := slotTaskA) (by decide) ok.relaying.relays.client awake
  | delivered _ _ awake alive => exact selectable (s := slotTaskB) (by decide) alive awake
  | written _ _ awake alive => exact selectable (s := slotTaskB) (by decide) alive awake
  | pending _ _ _ _ awake =>
      by_cases dead : (m.kernel.threads slotTaskB).user.state = .dead
      · have mode : cfg.mode ≠ .latency := fun latency => ok.relaying.relays.server latency dead
        obtain ⟨alive, awake⟩ := (ok.recovering mode).knows.awake dead
        exact selectable (s := slotTaskC) (by decide) alive awake
      · exact selectable (s := slotTaskB) (by decide) dead awake

theorem Served.stays_busy (ok : Served L cfg img m p) (step : m.step L cfg a = some m')
    (calm : ∀ q, m'.phase ≠ .panic q) : Busy m' := by
  obtain ⟨stepped, _⟩ := step_cases ok.relaying.inv step
  cases stepped with
  | quiet untrapped =>
      have moves := quiet_moves ok.relaying.inv untrapped step
      rcases ok.busy with ⟨r, pick⟩ | ⟨t, user, heads⟩
      · rcases moves.picks r pick with ⟨still, _⟩ | ⟨next, picked, heads⟩
        · exact .inl ⟨r, still⟩
        · obtain ⟨t, leaving⟩ := ok.relaying.inv.leaving pick
          obtain ⟨s, user, selectable⟩ := ok.ready pick
          obtain ⟨chosen, user₁, picked₁⟩ := pickNextThread_user
            (ok.relaying.inv.kernelOk ok.relaying.calm) leaving user selectable
          rw [picked₁] at picked
          cases picked
          exact .inr ⟨_, user₁, heads⟩
      · exact .inr ⟨t, user, moves.heads t user heads⟩
  | @back stores _ t _ _ _ phase active _ effect =>
      have kernel := (ok.relaying.inv.active phase).1.setMem (userStores stores m.kernel.mem)
      have stored : Active (m.kernel.setMem (userStores stores m.kernel.mem)) t :=
        active.congr rfl rfl rfl
      exact .inr ⟨_, active.user, (effect.keeps kernel stored).2.current⟩
  | away => exact .inl ⟨_, rfl⟩
  | outside => exact absurd rfl (calm _)

theorem Served.step (ok : Served L cfg img m p) (step : m.step L cfg a = some m')
    (next : (serving cfg img).next p m a m' = some p') : Served L cfg img m' p' := by
  have relaying := ok.relaying.step step next
  refine ⟨relaying, fun mode => ?_, fun latency => ?_, ok.stays_busy step relaying.calm⟩
  · exact (ok.recovering mode).step mode step (serving_supervised next)
  · have echoes := ok.echoes latency
    have goes := serving_supervised next
    simp only [supervised] at goes
    split at goes
    · split_ifs at goes
      · rw [← Option.some_inj.mp goes]
        exact el0TaskCEntry_echoes latency echoes
      · rw [← Option.some_inj.mp goes]
        exact echoes
    · rw [← Option.some_inj.mp goes]
      exact echoes

theorem run_served {h : List ((Machine × Service) × Action)}
    (run : ((kernelSystem L cfg).under (serving cfg img)).Run h (m, p)) : Served L cfg img m p := by
  refine run.invariant (I := fun q => Served L cfg img q.1 q.2) ?_ ?_
  · rintro ⟨m, p⟩ ⟨⟨mem, booted⟩, start⟩
    cases start
    have booted := boot_booted booted
    refine ⟨booted.relaying, fun _ => booted.recovering, fun _ => .inl rfl,
      .inr ⟨slotTaskA, by decide, ?_⟩⟩
    rw [Machine.heading, booted.phase]
  · rintro ⟨m, p⟩ a ⟨m', p'⟩ ok ⟨step, next⟩
    exact Served.step ok step next

/-! ## The work left -/

/-- The calls of `task_b` until it waits for a write. Its crash counts for the calls of `task_c` that
follow it. -/
def serverWork (k : Kernel) : TaskB → Nat
  | .entry => if (k.endpoints epUart).hasPending then 13 else 2
  | .ready => if (k.endpoints epUart).hasPending then 12 else 1
  | .received => if (k.threads slotTaskB).user.state = .blocked then 0 else 11
  | .written => 10
  | .replied => 9

def TaskC.burst (xc : UInt64) : TaskC → Nat
  | .waited => if xc = slotTaskB.u32.toUInt64 then 3 else 1
  | .wrote | .replied => 1
  | _ => 2

/-- The calls of `task_c` until it waits, with those that a pending death adds. -/
def supervisorWork (k : Kernel) (xc : UInt64) (c : TaskC) : Nat :=
  if (k.threads slotTaskC).user.state = .blocked then 0
  else c.burst xc + if k.pendingDeathSlot = slotNone then 0 else 3

theorem burst_bounds (c : TaskC) (xc : UInt64) : 1 ≤ c.burst xc ∧ c.burst xc ≤ 3 := by
  cases c with
  | waited =>
      simp only [TaskC.burst]
      split
      · simp
      · simp
  | _ => simp [TaskC.burst]

theorem supervisorWork_le (k : Kernel) (xc : UInt64) (c : TaskC) : supervisorWork k xc c ≤ 6 := by
  have bound := (burst_bounds c xc).2
  unfold supervisorWork
  split_ifs
  · simp
  · omega
  · omega

theorem supervisorWork_awake (awake : (k.threads slotTaskC).user.state ≠ .blocked) :
    supervisorWork k xc c = c.burst xc + if k.pendingDeathSlot = slotNone then 0 else 3 :=
  if_neg awake

theorem serverWork_le (k : Kernel) (b : TaskB) : serverWork k b ≤ 13 := by
  cases b with
  | entry | ready | received =>
      simp only [serverWork]
      split
      · simp
      · simp
  | written | replied => simp [serverWork]

theorem serverWork_congr (endpoint : k₁.endpoints epUart = k.endpoints epUart)
    (blocked : (k₁.threads slotTaskB).user.state = .blocked ↔
      (k.threads slotTaskB).user.state = .blocked) : serverWork k₁ b = serverWork k b := by
  cases b with
  | entry | ready => simp only [serverWork, endpoint]
  | received => simp only [serverWork, blocked]
  | written | replied => rfl

theorem serverWork_bystands (same : Bystands img k k₁) : serverWork k₁ b = serverWork k b :=
  serverWork_congr same.endpoint same.blocked

/-! The calls of `task_c`. -/

theorem supervisor_back_work {y : UInt64} (kernel : KernelOk L cfg k none)
    (active : Active k slotTaskC) (call : SupervisorCall xc c tf c')
    (effect : Effect cfg k slotTaskC tf k₁ (.back y)) :
    supervisorWork k₁ y c' < supervisorWork k xc c := by
  have active₁ := (effect.keeps kernel active).2
  rw [supervisorWork_awake active.not_blocked, supervisorWork_awake active₁.not_blocked]
  cases call with
  | write asks starts =>
      have burst : c.burst xc = 2 := by rcases starts with rfl | rfl <;> rfl
      cases effect.of_write asks with
      | refused | direct =>
          rw [burst]
          exact Nat.add_lt_add_right (Nat.lt_succ_self 1) _
  | wait asks =>
      cases effect.of_wait asks with
      | refused no =>
          obtain ⟨s, at_, _⟩ := (active.awake kernel).get .supervisor (no rfl).2
          cases kernel.supervisor s at_
          exact absurd at_ (active.unrecorded kernel .supervisor)
      | report full =>
          have before := (burst_bounds c xc).1
          have after := (burst_bounds .waited k.pendingDeathSlot.toUInt32.toUInt64).2
          simp only [Kernel.setPendingDeath_pendingDeathSlot, if_true, full, if_false]
          omega
  | restart asks target waited told =>
      have burst : c.burst xc = 3 := by
        rw [waited]
        exact if_pos told
      rw [burst]
      cases effect.of_restart asks with
      | refused | restart => exact Nat.add_lt_add_right (Nat.lt_succ_self 2) _

inductive EchoCall (img : Image) (tf : TrapFrame) : TaskC → TaskC → Prop
  | recv {c : TaskC} (asks : Asks tf sysIpcRecv) (bench : tf.x 0 = 2) (buffer : tf.x 1 = img.recvBufC)
      (cap : tf.x 2 = ipcMsgSize) : EchoCall img tf c .received
  | reply (asks : Asks tf sysIpcReply) (bench : tf.x 0 = 2) : EchoCall img tf .received .replied

theorem echoCall (mode : cfg.mode = .latency) (echoes : c.Echoes)
    (raises : (el0TaskCEntry cfg img xc c).1.Raises tf) :
    EchoCall img tf c (el0TaskCEntry cfg img xc c).2 := by
  have recv {c : TaskC} (raises : (el0IpcRecv 2 img.recvBufC ipcMsgSize).Raises tf) :
      EchoCall img tf c .received :=
    .recv raises.asks (raises.arg 0 rfl) (raises.arg 1 rfl) (raises.arg 2 rfl)
  rcases echoes with rfl | rfl | rfl
  · simp only [el0TaskCEntry, mode] at raises ⊢
    exact recv raises
  · by_cases failed : xc = minusOne
    · simp only [el0TaskCEntry, failed, ne_eq, not_true_eq_false, if_false] at raises ⊢
      exact recv raises
    · simp only [el0TaskCEntry, ne_eq, failed, not_false_eq_true, if_true] at raises ⊢
      exact .reply raises.asks (raises.arg 0 rfl)
  · exact recv raises

theorem echo_back_work {y : UInt64} (mode : cfg.mode = .latency) (kernel : KernelOk L cfg k none)
    (active : Active k slotTaskC) (empty : (k.endpoints epBench).hasPending = false)
    (call : EchoCall img tf c c') (effect : Effect cfg k slotTaskC tf k₁ (.back y)) :
    supervisorWork k₁ y c' < supervisorWork k xc c := by
  have active₁ := (effect.keeps kernel active).2
  rw [supervisorWork_awake active.not_blocked, supervisorWork_awake active₁.not_blocked]
  cases call with
  | recv asks bench buffer cap =>
      have owner : (k.endpoints epBench).ownerSlot = slotTaskC.u32 := by
        rw [kernel.owners, initialOwner, if_neg (by decide), if_pos ⟨rfl, mode⟩]
      cases effect.owner_recv kernel active asks owner (bench ▸ getEndpoint_bench) buffer cap
        recvBufC_range with
      | take pending =>
          rw [empty] at pending
          cases pending
  | reply asks =>
      cases effect.of_reply asks with
      | refused | answer => exact Nat.add_lt_add_right (Nat.lt_succ_self 1) _

/-! The calls of `task_b`. -/

theorem server_back_work {stage : Stage} {y : UInt64} (at_ : At img k xb stage b)
    (kernel : KernelOk L cfg k none) (active : Active k slotTaskB)
    (call : ServerCall cfg img xb tf b b') (effect : Effect cfg k slotTaskB tf k₁ (.back y)) :
    serverWork k₁ b' < serverWork k b ∧ k₁.threads slotTaskC = k.threads slotTaskC ∧
      k₁.pendingDeathSlot = k.pendingDeathSlot := by
  cases call with
  | announce asks =>
      cases effect.of_write asks with
      | refused | direct =>
          refine ⟨?_, rfl, rfl⟩
          show (if (k.endpoints epUart).hasPending then 12 else 1) <
            (if (k.endpoints epUart).hasPending then 13 else 2)
          split
          · simp
          · simp
  | recv asks uart buffer cap =>
      cases effect.server_recv kernel active asks uart buffer cap with
      | take pending =>
          refine ⟨?_, rfl, rfl⟩
          have received : serverWork (k.takePending slotTaskB epUart img.recvBufB ipcMsgSize)
              .received = 11 := if_neg active.not_blocked
          rw [received]
          cases at_ with
          | idle _ empty | delivered _ empty | written _ empty =>
              rw [empty] at pending
              cases pending
          | pending _ _ _ _ _ starting =>
              rcases starting with rfl | ⟨rfl, _⟩
              · simp [serverWork, pending]
              · simp [serverWork, pending]
  | write asks =>
      have received : serverWork k .received = 11 := if_neg active.not_blocked
      rw [received]
      cases effect.of_write asks with
      | refused | direct => exact ⟨Nat.lt_succ_self 10, rfl, rfl⟩
  | reply asks uart =>
      cases effect.of_reply asks with
      | refused => exact ⟨Nat.lt_succ_self 9, rfl, rfl⟩
      | answer found _ _ _ waiting =>
          rw [uart, getEndpoint_uart] at found
          cases Option.some_inj.mp found
          cases at_ with
          | idle _ _ _ resting => cases resting
          | pending _ _ _ _ _ starting => simp at starting
          | written calling =>
              cases Slot.i32_inj.mp (calling.caller.symm.trans waiting)
              have other : slotTaskC ≠ slotTaskA := by decide
              exact ⟨Nat.lt_succ_self 9, by simp [Kernel.answer, other], rfl⟩
  | crash fault => cases (effect.of_fault fault).1

theorem server_away_work {stage : Stage} {reason : TaskReturnReason} (at_ : At img k xb stage b)
    (kernel : KernelOk L cfg k none) (active : Active k slotTaskB)
    (call : ServerCall cfg img xb tf b b') (effect : Effect cfg k slotTaskB tf k₁ (.away reason))
    (left : Left (k₁.saveFrame slotTaskB tf reason) slotTaskB reason k₂) :
    (serverWork k₂ b' < serverWork k b ∧ k₂.threads slotTaskC = k.threads slotTaskC ∧
      k₂.pendingDeathSlot = k.pendingDeathSlot) ∨ serverWork k₂ b' = 2 ∧ serverWork k b = 9 := by
  cases call with
  | announce asks | write asks =>
      cases effect.of_write asks with
      | park _ client | handOver _ client => exact absurd rfl client.1
  | reply asks => cases effect.of_reply asks
  | recv asks uart buffer cap elsewhere failed =>
      cases effect.server_recv kernel active asks uart buffer cap with
      | listen quiet =>
          cases left.blocked (.inl rfl)
          have other : slotTaskC ≠ slotTaskB := by decide
          refine .inl ⟨?_, by simp [Kernel.listen, other], rfl⟩
          have waits : serverWork (((k.listen slotTaskB epUart img.recvBufB ipcMsgSize).saveFrame
              slotTaskB tf .ipcBlock).markTask slotTaskB .runnable .blocked) .received = 0 := by
            simp [serverWork]
          rw [waits]
          cases at_ with
          | pending _ full =>
              rw [full] at quiet
              cases quiet
          | written => exact absurd rfl elsewhere
          | delivered calling _ _ _ told =>
              exact absurd (told.symm.trans (failed rfl)) (length_ne_minusOne calling.short)
          | idle _ _ _ resting =>
              cases resting with
              | received blocked => exact absurd blocked active.not_blocked
              | entry | ready | replied => simp [serverWork, quiet]
  | crash fault =>
      obtain ⟨faulted, rfl⟩ := effect.of_fault fault
      cases at_ with
      | pending _ _ _ _ _ starting => simp at starting
      | idle free empty =>
          have uart := left.spares (e := epUart) free
          refine .inr ⟨?_, rfl⟩
          have idle : (k₂.endpoints epUart).hasPending = false := by
            rw [uart]
            exact empty
          simp [serverWork, idle]

/-! ## Every step leads to `task_a` -/

/-- The calls of the servers until `task_a` executes. -/
def serviceWork (m : Machine) (p : Service) : Nat :=
  serverWork m.kernel p.b + supervisorWork m.kernel (m.x0 slotTaskC) p.c

theorem serving_taskC {stores : List (SandboxAddress × UInt8)} {regs : UserTaskCtx}
    (phase : m.phase = .el0 regs) (current : m.kernel.current = some slotTaskC)
    (next : (serving cfg img).next p m (.trap stores tf) m' = some p') :
    (el0TaskCEntry cfg img (m.x0 slotTaskC) p.c).1.Raises tf ∧
      p' = { p with c := (el0TaskCEntry cfg img (m.x0 slotTaskC) p.c).2 } := by
  have client : slotTaskC ≠ slotTaskA := by decide
  have server : slotTaskC ≠ slotTaskB := by decide
  rw [Machine.x0_el0 phase current]
  simp only [serving, phase, current, Option.some_inj, client, server, if_false, if_true] at next
  split_ifs at next with inside calls
  · exact ⟨calls.1, (Option.some_inj.mp next).symm⟩

theorem Served.taskC_back_work {y : UInt64} (ok : Served L cfg img m p)
    (kernel : KernelOk L cfg k none) (active : Active k slotTaskC)
    (empty : (k.endpoints epBench).hasPending = false)
    (raises : (el0TaskCEntry cfg img xc p.c).1.Raises tf)
    (effect : Effect cfg k slotTaskC tf k₁ (.back y)) :
    supervisorWork k₁ y (el0TaskCEntry cfg img xc p.c).2 < supervisorWork k xc p.c := by
  by_cases latency : cfg.mode = .latency
  · exact echo_back_work latency kernel active empty (echoCall latency (ok.echoes latency) raises)
      effect
  · have call := supervisorCall latency (ok.recovering latency).knows.supervises raises
    exact supervisor_back_work kernel active call effect

theorem supervisor_away_work {reason : TaskReturnReason} (active : Active k slotTaskC)
    (left : Left (k₁.saveFrame slotTaskC tf reason) slotTaskC reason k₂)
    (blocks : reason = .ipcBlock ∨ reason = .notifyBlock) (x y : UInt64) (c c' : TaskC) :
    supervisorWork k₂ y c' < supervisorWork k x c := by
  cases left.blocked blocks
  have waits : supervisorWork ((k₁.saveFrame slotTaskC tf reason).markTask slotTaskC .runnable
      .blocked) y c' = 0 := by
    simp [supervisorWork]
  rw [waits, supervisorWork_awake active.not_blocked]
  have positive := (burst_bounds c x).1
  omega

theorem Served.back_work {stores : List (SandboxAddress × UInt8)} {regs : UserTaskCtx} {y : UInt64}
    (ok : Served L cfg img m p) (phase : m.phase = .el0 regs) (active : Active m.kernel t)
    (client : t ≠ slotTaskA)
    (effect : Effect cfg (m.kernel.setMem (userStores stores m.kernel.mem)) t tf k₁ (.back y))
    (next : (serving cfg img).next p m (.trap stores tf) ⟨k₁, .el0 (tf.after y)⟩ = some p') :
    serviceWork ⟨k₁, .el0 (tf.after y)⟩ p' < serviceWork m p := by
  obtain ⟨_, trap, outside⟩ := serving_trap phase active.current next
  have kernel := (ok.relaying.inv.active phase).1.setMem (userStores stores m.kernel.mem)
  have stored : Active (m.kernel.setMem (userStores stores m.kernel.mem)) t :=
    active.congr rfl rfl rfl
  have same : Bystands img m.kernel (m.kernel.setMem (userStores stores m.kernel.mem)) :=
    stores_bystand outside
  have active₁ := (effect.keeps kernel stored).2
  cases trap with
  | client => exact absurd rfl client
  | server call =>
      obtain ⟨stage, at_, _⟩ := ok.relaying.relays.stage
      obtain ⟨fewer, thread, pending⟩ :=
        server_back_work (at_.bystands same fun _ => rfl) kernel stored call effect
      rw [serviceWork, serviceWork, Machine.x0_other active.current (by decide),
        Machine.x0_other active₁.current (by decide)]
      simp only [supervisorWork, thread, pending]
      exact Nat.add_lt_add_right fewer _
  | other call =>
      obtain ⟨raises, goes⟩ := serving_taskC phase active.current next
      obtain ⟨passes, _⟩ := effect.taskC_bystands call ok.relaying.relays.bench.1
        ok.relaying.relays.bench.2
      have returned : Machine.x0 ⟨k₁, .el0 (tf.after y)⟩ slotTaskC = y := by
        rw [Machine.x0_el0 rfl active₁.current]
        rfl
      rw [goes, serviceWork, serviceWork, returned, serverWork_bystands (same.trans passes)]
      apply Nat.add_lt_add_left
      exact ok.taskC_back_work (k := m.kernel.setMem (userStores stores m.kernel.mem)) kernel stored
        ok.relaying.relays.bench.1 raises effect

theorem Served.away_work {stores : List (SandboxAddress × UInt8)} {regs : UserTaskCtx}
    {reason : TaskReturnReason} (ok : Served L cfg img m p) (phase : m.phase = .el0 regs)
    (active : Active m.kernel t) (client : t ≠ slotTaskA)
    (effect : Effect cfg (m.kernel.setMem (userStores stores m.kernel.mem)) t tf k₁ (.away reason))
    (left : Left (k₁.saveFrame t tf reason) t reason k₂)
    (next : (serving cfg img).next p m (.trap stores tf)
      ⟨k₂.setResched false, .pick (.returnStep t)⟩ = some p') :
    serviceWork ⟨k₂.setResched false, .pick (.returnStep t)⟩ p' < serviceWork m p := by
  obtain ⟨_, trap, outside⟩ := serving_trap phase active.current next
  have kernel := (ok.relaying.inv.active phase).1.setMem (userStores stores m.kernel.mem)
  have stored : Active (m.kernel.setMem (userStores stores m.kernel.mem)) t :=
    active.congr rfl rfl rfl
  have same : Bystands img m.kernel (m.kernel.setMem (userStores stores m.kernel.mem)) :=
    stores_bystand outside
  cases trap with
  | client => exact absurd rfl client
  | @server b₁ call =>
      obtain ⟨stage, at_, _⟩ := ok.relaying.relays.stage
      rcases server_away_work (at_.bystands same fun _ => rfl) kernel stored call effect left with
        ⟨fewer, thread, pending⟩ | ⟨after, before⟩
      · rw [serviceWork, serviceWork, Machine.x0_other active.current (by decide)]
        simp only [Machine.x0, supervisorWork, Kernel.setResched_threads, thread,
          Kernel.setResched_pendingDeathSlot, pending]
        exact Nat.add_lt_add_right fewer _
      · -- the crash gives work to the supervisor, less than it takes from the server
        have supervisor := supervisorWork_le (k₂.setResched false)
          ((k₂.threads slotTaskC).user.ctx.x 0) p.c
        have crashed : serverWork (k₂.setResched false) b₁ = 2 := after
        have replied : serverWork m.kernel p.b = 9 := before
        show serverWork (k₂.setResched false) b₁ + supervisorWork (k₂.setResched false)
          ((k₂.threads slotTaskC).user.ctx.x 0) p.c < _
        rw [serviceWork, replied, crashed]
        omega
  | other call =>
      obtain ⟨_, goes⟩ := serving_taskC phase active.current next
      obtain ⟨passes, blocks⟩ := effect.taskC_bystands call ok.relaying.relays.bench.1
        ok.relaying.relays.bench.2
      have reasons := blocks reason rfl
      have leaves : Bystands img k₁ (k₂.setResched false) :=
        leaves_bystands (by decide) (by decide) left reasons
      rw [goes, serviceWork, serviceWork, serverWork_bystands ((same.trans passes).trans leaves)]
      apply Nat.add_lt_add_left
      have fewer := supervisor_away_work active left reasons
      exact fewer _ _ _ _

theorem quiet_work (inv : Inv L cfg m) (untrapped : ∀ stores tf, a ≠ .trap stores tf)
    (step : m.step L cfg a = some m') (quiet : Quiet m.kernel m'.kernel) :
    serviceWork m' p = serviceWork m p := by
  have moves := quiet_moves inv untrapped step
  rw [serviceWork, serviceWork, quiet_x0 moves (quiet_masked untrapped step),
    serverWork_congr (by rw [quiet.endpoints]) (moves.users.blocked slotTaskB)]
  simp only [supervisorWork, moves.users.blocked, quiet.pendingDeath]

/-- The steps until `task_a` executes, without interrupts. -/
def serviceRank (q : Machine × Service) : Nat := q.1.phase.distance + 7 * serviceWork q.1 q.2

theorem serviceRank_le (q : Machine × Service) : serviceRank q ≤ 139 := by
  have distance := q.1.phase.distance_le
  have server := serverWork_le q.1.kernel q.2.b
  have supervisor := supervisorWork_le q.1.kernel (q.1.x0 slotTaskC) q.2.c
  unfold serviceRank serviceWork
  omega

theorem rank_of_work {q q' : Machine × Service} (fewer : serviceWork q'.1 q'.2 < serviceWork q.1 q.2) :
    serviceRank q' + 1 ≤ serviceRank q := by
  have distance := q'.1.phase.distance_le
  unfold serviceRank
  omega

theorem Served.lower (ok : Served L cfg img m p) (waits : ¬ ClientRuns m)
    (step : m.step L cfg a = some m') (next : (serving cfg img).next p m a m' = some p') :
    serviceRank (m', p') + (if a.own then 1 else 0) ≤ serviceRank (m, p) := by
  have other {regs : UserTaskCtx} {t : Slot} (phase : m.phase = .el0 regs)
      (active : Active m.kernel t) : t ≠ slotTaskA := by
    rintro rfl
    exact waits ⟨⟨regs, phase⟩, active.current⟩
  cases (step_cases ok.relaying.inv step).1 with
  | quiet untrapped quiet =>
      have work : serviceWork m' p = serviceWork m p :=
        quiet_work ok.relaying.inv untrapped step quiet
      rw [serving_untrapped untrapped next]
      simp only [serviceRank, work]
      cases a with
      | trap stores tf => exact absurd rfl (untrapped stores tf)
      | tick =>
          have phase : m'.phase = m.phase := by
            simp only [Machine.step] at step
            split_ifs at step
            cases step
            rfl
          simp [Action.own, phase]
      | advance =>
          have busy : m.phase ≠ .wfi := by
            intro idles
            rcases ok.busy with ⟨r, pick⟩ | ⟨t, user, heads⟩
            · cases idles.symm.trans pick
            · simp only [Machine.heading, idles] at heads
              exact user (Option.some_inj.mp (heads.symm.trans (ok.relaying.inv.idling idles)))
          have nearer := advance_distance busy step
          simp only [Action.own, if_true]
          omega
  | back phase active _ effect =>
      exact rank_of_work (ok.back_work phase active (other phase active) effect next)
  | away phase active _ effect _ left =>
      exact rank_of_work (ok.away_work phase active (other phase active) effect left next)
  | outside phase active _ _ outside =>
      exact absurd (serving_trap phase active.current next).1 outside

/-! ## The servers can go on -/

theorem el0TaskBEntry_short {mem : Memory} : (el0TaskBEntry cfg img mem xb b).1.Short := by
  cases b with
  | entry | received | replied =>
      simp only [el0TaskBEntry]
      split
      all_goals first | trivial | exact Nat.le_of_ble_eq_true rfl
  | ready | written => exact Nat.le_of_ble_eq_true rfl

theorem crashedOnce_toNat {i : Nat} (below : i < 5) :
    (img.crashedOnce + .ofNat i).toNat = img.crashedOnce.toNat + i := by
  have high := img.crashedOnce_data.2
  have code : (el0CodeEnd - 4).toNat = 0x40E0FFFC := by decide
  rw [UInt64.le_iff_toNat_le, code] at high
  rw [UInt64.toNat_add, UInt64.toNat_ofNat']
  omega

theorem crashedOnce_inSandbox {i : Nat} (below : i < 4) : InSandbox (img.crashedOnce + .ofNat i) := by
  obtain ⟨low, high⟩ := img.crashedOnce_data
  have code : (el0CodeEnd - 4).toNat = 0x40E0FFFC := by decide
  rw [UInt64.le_iff_toNat_le, code] at high
  rw [UInt64.le_iff_toNat_le, el0SandboxBase_toNat] at low
  rw [inSandbox_iff, crashedOnce_toNat (by omega)]
  omega

theorem taskBStores_some (img : Image) (mem : Memory) (call : Call) :
    ∃ stores, img.TaskBStores mem stores call := by
  by_cases crash : call = .brk
  · -- the store of 1 to the flag, a `uint32_t`
    have inside : ∀ i < [(1 : UInt8), 0, 0, 0].length, InSandbox (img.crashedOnce + .ofNat i) :=
      fun i below => crashedOnce_inSandbox below
    refine ⟨storesAt img.crashedOnce [1, 0, 0, 0] inside, fun store member => .inr ⟨crash, ?_⟩,
      fun _ => storesAt_read (by simp : [(1 : UInt8), 0, 0, 0].length < 2 ^ 64)⟩
    obtain ⟨i, rfl⟩ := List.mem_ofFn.mp member
    have place : (img.crashedOnce + .ofNat i).toNat = img.crashedOnce.toNat + i :=
      crashedOnce_toNat (Nat.lt_succ_of_lt i.isLt)
    have ends : (img.crashedOnce + 4).toNat = img.crashedOnce.toNat + 4 :=
      crashedOnce_toNat (i := 4) (by decide)
    have below : i.val < 4 := i.isLt
    rw [UInt64.le_iff_toNat_le, UInt64.lt_iff_toNat_lt, ends, place]
    omega
  · exact ⟨[], by simp, fun here => absurd here crash⟩

theorem Served.enabled (ok : Served L cfg img m p) (waits : ¬ ClientRuns m) :
    ∃ a m' p', a.own ∧ m.step L cfg a = some m' ∧ (serving cfg img).next p m a m' = some p' := by
  by_cases masked : ∃ regs, m.phase = .el0 regs
  · obtain ⟨regs, phase⟩ := masked
    obtain ⟨_, t, active⟩ := ok.relaying.inv.active phase
    have current := active.current
    obtain rfl | rfl | rfl | rfl :=
      (by decide : ∀ t : Slot, t = slotTaskA ∨ t = slotTaskB ∨ t = slotTaskC ∨ t = slotIdle) t
    · exact absurd ⟨⟨regs, phase⟩, current⟩ waits
    · let call := (el0TaskBEntry cfg img m.kernel.mem (regs.x 0) p.b).1
      have short : call.Short := el0TaskBEntry_short
      obtain ⟨stores, stored⟩ := taskBStores_some img m.kernel.mem call
      obtain ⟨m', step⟩ := call.frame_step L cfg short phase stores
      obtain ⟨raises, _, inside⟩ := call.frame_raises short
      have server : slotTaskB ≠ slotTaskA := by decide
      have next : (serving cfg img).next p m (.trap stores call.frame) m' = some (p.server
          (el0TaskBEntry cfg img m.kernel.mem (regs.x 0) p.b).2 (m.output m')) := by
        simp only [serving, phase, current, Option.some_inj, inside, not_true_eq_false, if_false, server,
          if_true]
        exact if_pos ⟨raises, stored⟩
      exact ⟨_, m', _, rfl, step, next⟩
    · let call := (el0TaskCEntry cfg img (regs.x 0) p.c).1
      have short : call.Short := el0TaskCEntry_short
      obtain ⟨m', step⟩ := call.frame_step L cfg short phase []
      obtain ⟨raises, _, inside⟩ := call.frame_raises short
      have client : slotTaskC ≠ slotTaskA := by decide
      have server : slotTaskC ≠ slotTaskB := by decide
      have next : (serving cfg img).next p m (.trap [] call.frame) m' =
          some { p with c := (el0TaskCEntry cfg img (regs.x 0) p.c).2 } := by
        simp only [serving, phase, current, Option.some_inj, inside, not_true_eq_false, if_false, client,
          server, if_true]
        exact if_pos ⟨raises, by simp⟩
      exact ⟨_, m', _, rfl, step, next⟩
    · exact absurd rfl active.user
  · obtain ⟨m', step⟩ := advance_enabled ok.relaying.inv ok.relaying.calm fun regs phase =>
      masked ⟨regs, phase⟩
    refine ⟨.advance, m', p, rfl, step, ?_⟩
    simp [serving]

/-! ## Runs with given writes -/

theorem serving_issued (waits : ¬ ClientRuns m) (next : (serving cfg img).next p m a m' = some p') :
    p'.issued = p.issued := by
  cases a with
  | tick | advance => rw [serving_untrapped (by nofun) next]
  | trap stores tf =>
      simp only [serving] at next
      split at next
      · rename_i regs _ _ phase _
        split_ifs at next with _ client
        · exact absurd ⟨⟨regs, phase⟩, client⟩ waits
        · cases next
          rfl
        · cases next
          rfl
      · cases next
        rfl

theorem run_returns {h : List ((Machine × Service) × Action)}
    (run : ((kernelSystem L cfg).under (serving cfg img)).Run h (m, p)) : ∃ h' m' p',
      ((kernelSystem L cfg).under (serving cfg img)).Run h' (m', p') ∧ ClientRuns m' ∧
        p'.issued = p.issued := by
  obtain ⟨h', ⟨m', p'⟩, path, ⟨_, issued⟩, returned⟩ : ∃ h' q',
      ((kernelSystem L cfg).under (serving cfg img)).Path (m, p) h' q' ∧
        (Served L cfg img q'.1 q'.2 ∧ q'.2.issued = p.issued) ∧ ClientRuns q'.1 := by
    apply Path.arrives (fun q => Served L cfg img q.1 q.2 ∧ q.2.issued = p.issued)
      (fun q => ClientRuns q.1) serviceRank ⟨run_served run, rfl⟩
    rintro ⟨m, q⟩ ⟨ok, issued⟩ waits
    obtain ⟨a, m', q', own, step, next⟩ := ok.enabled waits
    have lower := ok.lower waits step next
    simp only [own, if_true] at lower
    exact ⟨a, (m', q'), ⟨step, next⟩, ⟨ok.step step next, (serving_issued waits next).trans issued⟩,
      lower⟩
  exact ⟨h ++ h', m', p', run.extend path, returned, issued⟩

theorem stackA_toNat {i : Nat} (below : i < 256) :
    (el0TaskAStackBottom + .ofNat i).toNat = 0x40FC0000 + i := by
  have bottom : el0TaskAStackBottom.toNat = 0x40FC0000 := by decide
  rw [UInt64.toNat_add, UInt64.toNat_ofNat', bottom]
  omega

theorem stackA_apart {i : Nat} (below : i < 256) : ¬ OtherStack (el0TaskAStackBottom + .ofNat i) := by
  have place := stackA_toNat below
  rintro (⟨_, c⟩ | ⟨b, _⟩)
  · have top : el0TaskCStackTop.toNat = 0x40FC0000 := by decide
    rw [UInt64.lt_iff_toNat_lt, top] at c
    omega
  · have bottom : el0TaskBStackBottom.toNat = 0x40FE0000 := by decide
    rw [UInt64.le_iff_toNat_le, bottom] at b
    omega

theorem ClientRuns.writes {payload : List UInt8} (runs : ClientRuns m) (L : Layout) (cfg : Config)
    (img : Image) (p : Service) (short : payload.length ≤ 256) :
    ∃ a m' p', m.step L cfg a = some m' ∧ (serving cfg img).next p m a m' = some p' ∧
      p'.issued = p.issued ++ [payload] := by
  obtain ⟨⟨regs, phase⟩, current⟩ := runs
  have inside : ∀ i < payload.length, InSandbox (el0TaskAStackBottom + .ofNat i) := by
    intro i below
    rw [inSandbox_iff, stackA_toNat (by omega)]
    omega
  let stores := storesAt el0TaskAStackBottom payload inside
  let tf := TrapFrame.svc sysWrite [el0TaskAStackBottom, .ofNat payload.length]
  have length : (UInt64.ofNat payload.length).toNat = payload.length := by
    rw [UInt64.toNat_ofNat']
    omega
  have fits : UInt64.ofNat payload.length ≤ ipcMsgSize := by
    rw [UInt64.le_iff_toNat_le, length]
    exact short
  have trap : ClientTrap stores tf := by
    refine ⟨svc_exceptionClass _ _, fun store member => ?_, .inr (.inr ⟨rfl, ?_, fits, fun i below => ?_⟩)⟩
    · obtain ⟨i, rfl⟩ := List.mem_ofFn.mp member
      exact stackA_apart (by omega)
    · have low : el0SandboxBase ≤ el0TaskAStackBottom := by decide
      have high : el0TaskAStackBottom ≤ el0SandboxEnd - ipcMsgSize := by decide
      exact messageBuffer_range low high fits
    · have inPayload : i < (UInt64.ofNat payload.length).toNat := below
      exact stackA_apart (by omega)
  have el0 : tf.fromEl0 := svc_fromEl0 _ _
  obtain ⟨m', step⟩ : ∃ m', m.step L cfg (.trap stores tf) = some m' := by
    simp [Machine.step, phase, el0]
  have next : (serving cfg img).next p m (.trap stores tf) m' = some
      (p.client (regs.x 0) (userStores stores m.kernel.mem) tf (m.output m')) := by
    have inside : InSandbox tf.elr := svc_inSandbox _ _
    simp only [serving, phase, current, inside, not_true_eq_false, if_false, if_true]
    exact if_pos trap
  have written : readBytes (userStores stores m.kernel.mem) (tf.x 0) (tf.x 1) = payload :=
    storesAt_read (by omega)
  have asks : tf.x 8 = sysWrite := rfl
  refine ⟨_, m', _, step, next, ?_⟩
  simp only [Service.client, asks, if_true, written]

theorem run_issues {mem : Memory} {first : Machine} (booted : boot L cfg mem = .ok first)
    (payloads : List (List UInt8)) (short : ∀ payload ∈ payloads, payload.length ≤ 256) :
    ∃ h m p, ((kernelSystem L cfg).under (serving cfg img)).Run h (m, p) ∧ ClientRuns m ∧
      p.issued = payloads := by
  induction payloads using List.reverseRecOn with
  | nil =>
      have start : ((kernelSystem L cfg).under (serving cfg img)).Run [] (first, (serving cfg img).init) :=
        .start ⟨⟨mem, booted⟩, rfl⟩
      exact run_returns start
  | append_singleton payloads payload ih =>
      obtain ⟨h, m, p, run, runs, issued⟩ :=
        ih fun earlier member => short earlier (List.mem_append_left _ member)
      obtain ⟨a, m', p', step, next, more⟩ := runs.writes L cfg img p
        (short payload (by simp))
      have extended : ((kernelSystem L cfg).under (serving cfg img)).Run (h ++ [((m, p), a)]) (m', p') :=
        run.step ⟨step, next⟩
      obtain ⟨h', m'', p'', run', runs', same⟩ := run_returns extended
      exact ⟨h', m'', p'', run', runs', by rw [same, more, issued]⟩

/-! ## The MICRO kernel refines the MONO kernel -/

/-- The writes of `task_a` at a state of a run. -/
structure Writes (L : Layout) (cfg : Config) (img : Image) (m : Machine) (p : Service) : Prop where
  /-- The payloads are printed once and in the order of the writes. -/
  order : p.emitted <+: p.issued.map UartCall.write
  /-- Where `task_a` executes, each payload is printed, and each write has returned its length. -/
  emitted : ClientRuns m → p.emitted = p.issued.map UartCall.write
  returned : ClientRuns m →
    p.results (m.x0 slotTaskA) = p.issued.map fun payload => UInt64.ofNat payload.length
  succeeded : ClientRuns m → minusOne ∉ p.results (m.x0 slotTaskA)
  enabled : ¬ ClientRuns m → ∃ a m' p', a.own ∧ m.step L cfg a = some m' ∧
    (serving cfg img).next p m a m' = some p'
  /-- `task_a` executes again within 139 steps of the machine that are not interrupts. -/
  within : ¬ ClientRuns m → ∀ h q, ((kernelSystem L cfg).under (serving cfg img)).Path (m, p) h q →
    139 < h.countP (fun r => r.2.own) → ClientRuns q.1 ∨ ∃ r ∈ h, ClientRuns r.1.1

theorem Served.settled (ok : Served L cfg img m p) (runs : ClientRuns m) :
    Accounts .idle (m.x0 slotTaskA) p := by
  obtain ⟨⟨regs, phase⟩, current⟩ := runs
  obtain ⟨_, t, active⟩ := ok.relaying.inv.active phase
  cases Option.some_inj.mp (active.current.symm.trans current)
  obtain ⟨stage, at_, accounts⟩ := ok.relaying.relays.stage
  cases Accounts.idle_of at_ active.not_blocked
  exact accounts

theorem Accounts.all_emitted (accounts : Accounts .idle xa p) :
    p.emitted = p.issued.map UartCall.write := by
  have emitted := accounts.emitted
  simp only [Stage.outstanding, List.map_nil, List.append_nil] at emitted
  exact emitted.symm

theorem Accounts.all_returned (accounts : Accounts .idle xa p) :
    p.results xa = p.issued.map fun payload => UInt64.ofNat payload.length :=
  accounts.returned.symm

theorem Accounts.succeeded (accounts : Accounts .idle xa p) : minusOne ∉ p.results xa := by
  intro failed
  rw [accounts.all_returned] at failed
  obtain ⟨payload, member, length⟩ := List.mem_map.mp failed
  exact length_ne_minusOne (accounts.short payload member) length

theorem Served.writes (ok : Served L cfg img m p) : Writes L cfg img m p := by
  refine ⟨?_, fun runs => (ok.settled runs).all_emitted, fun runs => (ok.settled runs).all_returned,
    fun runs => (ok.settled runs).succeeded, ok.enabled, ?_⟩
  · obtain ⟨stage, _, accounts⟩ := ok.relaying.relays.stage
    rw [accounts.emitted]
    exact List.prefix_append _ _
  · intro waits h q path long
    apply path.reaches (fun q => Served L cfg img q.1 q.2) (fun q => ClientRuns q.1) Action.own
      serviceRank ok
    · rintro ⟨m, p⟩ a ⟨m', p'⟩ ok ⟨step, next⟩
      exact ok.step step next
    · rintro ⟨m, p⟩ a ⟨m', p'⟩ ok waits _ ⟨step, next⟩
      exact ok.lower waits step next
    · exact Nat.lt_of_le_of_lt (serviceRank_le (m, p)) long

/-- A run of the service, beside those of the MONO kernel with the same writes. -/
structure RefinesMono (L : Layout) (cfg : Config) (img : Image)
    (h : List ((Machine × Service) × Action)) (m : Machine) (p : Service) : Prop where
  /-- The payloads are all that the UART gets besides the text of the kernel and the messages of the
  servers about themselves. -/
  printed : Printed L cfg img h m p
  writes : Writes L cfg img m p
  mono : ∃ h' m' p', ((kernelSystem L cfg.mono).under (serving cfg.mono img)).Run h' (m', p') ∧
    ClientRuns m' ∧ p'.issued = p.issued
  agrees : ClientRuns m → ∀ h' m' p',
    ((kernelSystem L cfg.mono).under (serving cfg.mono img)).Run h' (m', p') → ClientRuns m' →
      p'.issued = p.issued → Printed L cfg.mono img h' m' p' ∧
        payloadOutput L cfg img h = payloadOutput L cfg.mono img h' ∧
        p.results (m.x0 slotTaskA) = p'.results (m'.x0 slotTaskA)

theorem boot_mono {mem : Memory} (booted : boot L cfg mem = .ok m) :
    ∃ m', boot L cfg.mono mem = .ok m' := by
  unfold boot at booted ⊢
  split at booted
  · cases booted
  · exact ⟨_, rfl⟩

theorem run_refinesMono {h : List ((Machine × Service) × Action)}
    (run : ((kernelSystem L cfg).under (serving cfg img)).Run h (m, p)) :
    RefinesMono L cfg img h m p := by
  have served := run_served run
  have printed := run_printed run
  have writes := served.writes
  refine ⟨printed, writes, ?_, fun runs h' m' p' run' runs' same => ?_⟩
  · obtain ⟨_, ⟨_, booted⟩, _⟩ := run.started
    obtain ⟨_, booted⟩ := boot_mono booted
    obtain ⟨stage, _, accounts⟩ := served.relaying.relays.stage
    exact run_issues booted p.issued accounts.short
  · have printed' := run_printed run'
    have writes' := (run_served run').writes
    refine ⟨printed', ?_, ?_⟩
    · rw [← printed.payloads, ← printed'.payloads, writes.emitted runs, writes'.emitted runs', same]
    · rw [writes.returned runs, writes'.returned runs', same]

/-- A write of two bytes, after which `task_b` crashes and `task_c` restarts it. -/
def crashRun : List Action :=
  let store (address : UInt64) (inside : InSandbox address) (byte : UInt8) :
      SandboxAddress × UInt8 := (⟨address, inside⟩, byte)
  List.replicate 4 .advance ++
    [.trap [store el0TaskAStackBottom (by decide) 104, store (el0TaskAStackBottom + 1) (by decide) 105]
      (.svc sysWrite [el0TaskAStackBottom, 2])] ++
    List.replicate 5 .advance ++
    [.trap [] (.svc sysWrite [Image.sample.uartReadyMsg, 13]),
      .trap [] (.svc sysIpcRecv [1, Image.sample.recvBufB, 256]),
      .trap [] (.svc sysWrite [Image.sample.recvBufB, 2]),
      .trap [] (.svc sysIpcReply [1, Image.sample.recvBufB, 0]),
      .trap [store Image.sample.crashedOnce (by decide) 1,
        store (Image.sample.crashedOnce + 1) (by decide) 0,
        store (Image.sample.crashedOnce + 2) (by decide) 0,
        store (Image.sample.crashedOnce + 3) (by decide) 0] Call.brk.frame] ++
    List.replicate 5 .advance ++
    [.trap [] (.svc sysWrite [Image.sample.supReadyMsg, 12]),
      .trap [] (.svc sysSuperviseWait [0, 0]),
      .trap [] (.svc sysTaskRestart [1, 0]),
      .trap [] (.svc sysWrite [Image.sample.supRestartedMsg, 21]),
      .trap [] (.svc sysSuperviseWait [0, 0])] ++
    List.replicate 6 .advance

set_option maxRecDepth 4000 in
theorem run_refinesMono_crash : ∃ h m p, ((kernelSystem .sample .sample).under
      (serving .sample .sample)).Run h (m, p) ∧
    ClientRuns m ∧ p.issued = [[104, 105]] ∧ RefinesMono .sample .sample .sample h m p := by
  obtain ⟨m, p, ran, runs, issued⟩ : ∃ m p,
      runUnder .sample .sample (serving .sample .sample) crashRun = some (m, p) ∧
        ClientRuns m ∧ p.issued = [[104, 105]] := ⟨_, _, rfl, ⟨⟨_, rfl⟩, rfl⟩, rfl⟩
  obtain ⟨h, run⟩ := runUnder_run ran
  exact ⟨h, m, p, run, runs, issued, run_refinesMono run⟩

end ProtoOs
