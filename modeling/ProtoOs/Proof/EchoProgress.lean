import ProtoOs.Proof.EchoService

namespace ProtoOs

open Transition.System

variable {L : Layout} {cfg : Config} {img : Image} {k k₁ k₂ k' : Kernel} {m m' : Machine} {t s : Slot}
  {tf : TrapFrame} {a : Action} {o : Outcome} {x y : UInt64} {p p' : Echo}
  {stores : List (SandboxAddress × UInt8)}
  {xs : Slot → UInt64}

/-! ## The traps of the programs -/

structure InStacks (img : Image) (stores : List (SandboxAddress × UInt8)) : Prop where
  place : StoresIn stores OtherStack
  uart : ∀ store ∈ stores, ∀ i < 256, store.1.val ≠ img.uartServer.buf + .ofNat i
  echo : ∀ store ∈ stores, ∀ i < 256, store.1.val ≠ img.echoServer.buf + .ofNat i

theorem taskB_inStacks {mem : Memory} {call : Call} (stored : img.TaskBStores mem stores call)
    (runs : call ≠ .brk) : InStacks img stores := by
  have stack : ∀ store ∈ stores, el0TaskBStackBottom ≤ store.1.val ∧ store.1.val < el0TaskBStackTop := by
    intro store member
    rcases stored.1 store member with ⟨low, high, _⟩ | ⟨crash, _⟩
    · exact ⟨low, high⟩
    · exact absurd crash runs
  refine ⟨fun store member => .inr (stack store member), taskBStores_outside stored, ?_⟩
  intro store member i below same
  have low := (stack store member).1
  have high := (recvBufC_inside img below).2
  have apart : el0TaskCStackTop.toNat ≤ el0TaskBStackBottom.toNat := by decide
  change store.1.val = img.recvBufC + .ofNat i at same
  rw [← same, UInt64.lt_iff_toNat_lt] at high
  rw [UInt64.le_iff_toNat_le] at low
  omega

theorem taskC_inStacks (stored : img.TaskCStores stores) : InStacks img stores := by
  refine ⟨fun store member => .inl ⟨(stored store member).1, (stored store member).2.1⟩,
    fun store member i below => taskCStack_outside (stored store member).2.1 below, ?_⟩
  intro store member i below same
  have place := img.recvBufC_toNat below
  have high := img.recvBufC_stack.2
  have size : ipcMsgSize.toNat = 256 := by decide
  have top : (el0TaskCStackTop - ipcMsgSize).toNat = 0x40FBFF00 := by decide
  change store.1.val = img.recvBufC + .ofNat i at same
  rw [← same] at place
  rw [UInt64.le_iff_toNat_le, top] at high
  rcases (stored store member).2.2 with before | behind
  · rw [UInt64.lt_iff_toNat_lt] at before
    omega
  · rw [UInt64.le_iff_toNat_le, UInt64.toNat_add, size] at behind
    omega

theorem el0TaskBEntry_runs {mem : Memory} {b : TaskB} (mode : cfg.mode = .latency) :
    (el0TaskBEntry cfg img mem x b).1 ≠ .brk := by
  cases b with
  | entry | replied => simp [el0TaskBEntry, mode, el0IpcRecv]
  | received =>
      simp only [el0TaskBEntry]
      split
      · intro brk
        cases brk
      · intro brk
        cases brk
  | ready | written => simp [el0TaskBEntry, el0IpcRecv, el0IpcReply]

inductive EchoTrap (img : Image) (m : Machine) (p : Echo) (stores : List (SandboxAddress × UInt8))
    (tf : TrapFrame) : Slot → Echo → Prop
  | client (keeps : KeepsOut stores tf) : EchoTrap img m p stores tf slotTaskA
      (p.client tf (m.kernel.setMem (userStores stores m.kernel.mem)))
  | uart {b' : TaskB} (makes : img.uartServer.Makes (m.x0 slotTaskB) tf p.b.point b'.point)
      (inside : InStacks img stores) : EchoTrap img m p stores tf slotTaskB { p with b := b' }
  | echo {c' : TaskC} (makes : img.echoServer.Makes (m.x0 slotTaskC) tf p.c.point c'.point)
      (echoes : c'.Echoes) (inside : InStacks img stores) :
      EchoTrap img m p stores tf slotTaskC { p with c := c' }

theorem echoing_untrapped (untrapped : ∀ stores tf, a ≠ .trap stores tf)
    (next : (echoing cfg img).next p m a m' = some p') : p' = p := by
  cases a with
  | trap stores tf => exact absurd rfl (untrapped stores tf)
  | tick | advance =>
      simp only [echoing] at next
      split at next
      · contradiction
      · exact (Option.some_inj.mp next).symm

theorem echoing_trap {regs : UserTaskCtx} (mode : cfg.mode = .latency) (echoes : p.c.Echoes)
    (phase : m.phase = .el0 regs) (current : m.kernel.current = some t)
    (next : (echoing cfg img).next p m (.trap stores tf) m' = some p') :
    InSandbox tf.elr ∧ EchoTrap img m p stores tf t p' := by
  have x0 : m.x0 t = regs.x 0 := Machine.x0_el0 phase current
  simp only [echoing, phase, current, Option.some_inj] at next
  split_ifs at next with inside client keeps server raises other calls
  · cases next
    subst client
    exact ⟨inside, .client keeps⟩
  · cases next
    subst server
    rw [← x0] at raises ⊢
    exact ⟨inside, .uart (taskB_makes mode raises.1) (taskB_inStacks raises.2 (el0TaskBEntry_runs mode))⟩
  · cases next
    subst other
    rw [← x0] at calls ⊢
    exact ⟨inside, .echo (taskC_makes mode echoes calls.1) (el0TaskCEntry_echoes mode echoes)
      (taskC_inStacks calls.2)⟩

/-! ## The steps of the machine -/

/-- What a trap does where it comes back and where it leaves EL0. -/
structure TrapActs (cfg : Config) (m : Machine) (t : Slot) (stores : List (SandboxAddress × UInt8))
    (tf : TrapFrame) (m' : Machine) : Prop where
  active : Active (m.kernel.setMem (userStores stores m.kernel.mem)) t
  saved : ∀ s, s ≠ t → m'.x0 s = (m'.kernel.threads s).user.ctx.x 0
  client : t = slotTaskA → m.kernel.blockedSupervisorSlot = slotNone →
    ClientActs cfg (m.kernel.setMem (userStores stores m.kernel.mem)) tf m'.kernel
  server : ∀ srv : Server, srv.slot = t → ∀ x msg pt pt',
    srv.Attends (m.kernel.setMem (userStores stores m.kernel.mem)) x msg pt → srv.Makes x tf pt pt' →
      ∃ msg', srv.Acts (m.kernel.setMem (userStores stores m.kernel.mem)) tf msg pt msg' pt' m'.kernel
        (m'.x0 t)

theorem trapActs_back {regs : UserTaskCtx} (inv : Inv L cfg m) (mode : cfg.mode = .latency)
    (phase : m.phase = .el0 regs) (active : Active m.kernel t)
    (effect : Effect cfg (m.kernel.setMem (userStores stores m.kernel.mem)) t tf k₁ (.back y)) :
    TrapActs cfg m t stores tf ⟨k₁, .el0 (tf.after y)⟩ := by
  have kernel := (inv.active phase).1.setMem (userStores stores m.kernel.mem)
  have stored : Active (m.kernel.setMem (userStores stores m.kernel.mem)) t :=
    active.congr rfl rfl rfl
  have active₁ := (effect.keeps kernel stored).2
  refine ⟨stored, fun s other => Machine.x0_other active₁.current other.symm, ?_, ?_⟩
  · rintro rfl quiet
    exact client_back kernel quiet effect
  · rintro srv rfl x msg pt pt' attends makes
    have returned : Machine.x0 ⟨k₁, .el0 (tf.after y)⟩ srv.slot = y := by
      rw [Machine.x0_el0 rfl active₁.current]
      rfl
    rw [returned]
    exact Server.acts_back attends kernel stored mode makes effect

theorem trapActs_away {regs : UserTaskCtx} {reason : TaskReturnReason} (inv : Inv L cfg m)
    (mode : cfg.mode = .latency) (phase : m.phase = .el0 regs) (active : Active m.kernel t)
    (effect : Effect cfg (m.kernel.setMem (userStores stores m.kernel.mem)) t tf k₁ (.away reason))
    (left : Left (k₁.saveFrame t tf reason) t reason k₂) :
    TrapActs cfg m t stores tf ⟨k₂.setResched false, .pick (.returnStep t)⟩ := by
  have kernel := (inv.active phase).1.setMem (userStores stores m.kernel.mem)
  have stored : Active (m.kernel.setMem (userStores stores m.kernel.mem)) t :=
    active.congr rfl rfl rfl
  refine ⟨stored, fun _ _ => rfl, ?_, ?_⟩
  · rintro rfl quiet
    exact client_away kernel quiet effect left
  · rintro srv rfl x msg pt pt' attends makes
    exact Server.acts_away attends kernel stored mode makes effect left _

/-- The state of a run in which the servers answer `task_a`. -/
structure Echoing (L : Layout) (cfg : Config) (img : Image) (m : Machine) (p : Echo) : Prop where
  inv : Inv L cfg m
  calm : ∀ q, m.phase ≠ .panic q
  ok : EchoOk img m.kernel m.x0 p
  busy : p.call ≠ none → Busy m

theorem EchoOk.stored (ok : EchoOk img k xs p) (inside : InStacks img stores) :
    EchoOk img (k.setMem (userStores stores k.mem)) xs p :=
  ok.keeps (Server.keeps_stores inside.uart) (Server.keeps_stores inside.echo)
    (keepsCall_stores inside.place) rfl

theorem Echoing.trap {regs : UserTaskCtx} (ok : Echoing L cfg img m p) (mode : cfg.mode = .latency)
    (phase : m.phase = .el0 regs) (active : Active m.kernel t)
    (trap : EchoTrap img m p stores tf t p') (acts : TrapActs cfg m t stores tf m') :
    EchoOk img m'.kernel m'.x0 p' := by
  have kernel := (ok.inv.active phase).1.setMem (userStores stores m.kernel.mem)
  have saved : ∀ s, s ≠ t → m.x0 s = (m.kernel.threads s).user.ctx.x 0 :=
    fun s other => Machine.x0_other active.current other.symm
  cases trap with
  | client keeps =>
      exact ok.ok.client mode saved keeps kernel acts.active
        (acts.client rfl ok.ok.unsupervised) acts.saved
  | uart makes inside =>
      exact (ok.ok.stored inside).uart_acts acts.active saved acts.saved fun msg attends =>
        acts.server img.uartServer rfl _ msg _ _ attends makes
  | echo makes echoes inside =>
      exact (ok.ok.stored inside).echo_acts acts.active saved acts.saved echoes fun msg attends =>
        acts.server img.echoServer rfl _ msg _ _ attends makes

theorem Answers.awake {xa : UInt64} {call : Option EchoRequest} (answers : Answers k xa call none)
    (busy : call ≠ none) :
    (k.threads slotTaskA).user.state ≠ .blocked ∧ (k.threads slotTaskA).user.state ≠ .dead := by
  cases answers with
  | nothing => exact absurd rfl busy
  | returned _ awake alive => exact ⟨awake, alive⟩

theorem Echoing.ready (ok : Echoing L cfg img m p) (busy : p.call ≠ none) {r : Resume}
    (pick : m.phase = .pick r) : ∃ s, s ≠ slotIdle ∧ threadIsSelectable m.kernel (some s) := by
  have kernel := ok.inv.kernelOk ok.calm
  obtain ⟨t, leaving⟩ := ok.inv.leaving pick
  have selectable {s : Slot} (user : s ≠ slotIdle) (alive : (m.kernel.threads s).user.state ≠ .dead)
      (awake : (m.kernel.threads s).user.state ≠ .blocked) :
      ∃ s, s ≠ slotIdle ∧ threadIsSelectable m.kernel (some s) :=
    ⟨s, user, (selectable_user kernel user (leaving.off user)).mpr
      ((leaving.off user).ready user alive awake)⟩
  obtain ⟨msg, attends, answers⟩ := ok.ok.bench
  cases msg with
  | none =>
      obtain ⟨awake, alive⟩ := answers.awake busy
      exact selectable (s := slotTaskA) (by decide) alive awake
  | some bytes => exact selectable (s := slotTaskC) (by decide) ok.ok.aliveC attends.awake

theorem Echoing.quiet_busy (ok : Echoing L cfg img m p) (busy : p.call ≠ none)
    (untrapped : ∀ stores tf, a ≠ .trap stores tf) (step : m.step L cfg a = some m') : Busy m' := by
  have moves := quiet_moves ok.inv untrapped step
  rcases ok.busy busy with ⟨r, pick⟩ | ⟨t, user, heads⟩
  · rcases moves.picks r pick with ⟨still, _⟩ | ⟨next, picked, heads⟩
    · exact .inl ⟨r, still⟩
    · obtain ⟨t, leaving⟩ := ok.inv.leaving pick
      obtain ⟨s, user, selectable⟩ := ok.ready busy pick
      obtain ⟨chosen, user₁, picked₁⟩ :=
        pickNextThread_user (ok.inv.kernelOk ok.calm) leaving user selectable
      rw [picked₁] at picked
      cases picked
      exact .inr ⟨_, user₁, heads⟩
  · exact .inr ⟨t, user, moves.heads t user heads⟩

theorem Echoing.quiet (ok : Echoing L cfg img m p) (untrapped : ∀ stores tf, a ≠ .trap stores tf)
    (step : m.step L cfg a = some m') (quiet : Quiet m.kernel m'.kernel) :
    EchoOk img m'.kernel m'.x0 p := by
  have moves := quiet_moves ok.inv untrapped step
  have masked := quiet_masked untrapped step
  have same : m'.x0 = m.x0 := by
    funext s
    exact quiet_x0 moves masked
  rw [same]
  exact ok.ok.keeps (Server.keeps_quiet quiet moves.users) (Server.keeps_quiet quiet moves.users)
    (keepsCall_quiet quiet moves.users) quiet.supervisor

theorem Echoing.step (ok : Echoing L cfg img m p) (mode : cfg.mode = .latency)
    (step : m.step L cfg a = some m') (next : (echoing cfg img).next p m a m' = some p') :
    Echoing L cfg img m' p' := by
  obtain ⟨stepped, inv⟩ := step_cases ok.inv step
  cases stepped with
  | quiet untrapped quiet calm =>
      rw [echoing_untrapped untrapped next]
      exact ⟨inv, fun q panics => ok.calm q (calm q panics), ok.quiet untrapped step quiet,
        fun busy => ok.quiet_busy busy untrapped step⟩
  | @back stores tf t regs k₁ y phase active _ effect =>
      obtain ⟨_, trap⟩ := echoing_trap mode ok.ok.echoes phase active.current next
      have acts := trapActs_back ok.inv mode phase active effect
      have kernel := (ok.inv.active phase).1.setMem (userStores stores m.kernel.mem)
      refine ⟨inv, by nofun, ok.trap mode phase active trap acts, fun _ => .inr ⟨t, active.user, ?_⟩⟩
      exact (effect.keeps kernel acts.active).2.current
  | away phase active _ effect _ left =>
      obtain ⟨_, trap⟩ := echoing_trap mode ok.ok.echoes phase active.current next
      have acts := trapActs_away ok.inv mode phase active effect left
      exact ⟨inv, by nofun, ok.trap mode phase active trap acts, fun _ => .inl ⟨_, rfl⟩⟩
  | outside phase active _ _ outside =>
      exact absurd (echoing_trap mode ok.ok.echoes phase active.current next).1 outside

theorem Booted.echoing {mem : Memory} (booted : Booted L cfg mem m) :
    Echoing L cfg img m (echoing cfg img).init := by
  have ready (s : Slot) (user : s ≠ slotIdle) : (m.kernel.threads s).user.state = .runnable := by
    rw [booted.users s user]
    rfl
  have idle (srv : Server) : srv.Attends m.kernel (m.x0 srv.slot) none .ready := by
    refine .idle ?_ ?_ ?_
    · simp [booted.endpoints, Endpoint.initial]
    · simp [booted.endpoints, Endpoint.initial]
    · simp [ready srv.slot srv.user]
  refine ⟨booted.inv, by simp [booted.phase], ⟨.inl rfl, ⟨none, idle img.uartServer, fun _ => rfl⟩,
    ⟨none, idle img.echoServer, .nothing⟩, ?_, ?_, ?_⟩, fun busy => absurd rfl busy⟩
  · simp [ready slotTaskB (by decide)]
  · simp [ready slotTaskC (by decide)]
  · exact booted.supervisor

theorem run_echoing {h : List ((Machine × Echo) × Action)} (mode : cfg.mode = .latency)
    (run : ((kernelSystem L cfg).under (echoing cfg img)).Run h (m, p)) : Echoing L cfg img m p := by
  refine run.invariant (I := fun q => Echoing L cfg img q.1 q.2) ?_ ?_
  · rintro ⟨m, p⟩ ⟨⟨mem, booted⟩, start⟩
    cases start
    exact (boot_booted booted).echoing
  · rintro ⟨m, p⟩ a ⟨m', p'⟩ ok ⟨step, next⟩
    exact Echoing.step ok mode step next

/-! ## Every step leads to `task_a` -/

/-- The calls of the servers until both wait. -/
def echoWork (img : Image) (k : Kernel) (p : Echo) : Nat :=
  img.uartServer.work k p.b.point + img.echoServer.work k p.c.point

theorem echoWork_stores (p : Echo) (inside : InStacks img stores) :
    echoWork img (k.setMem (userStores stores k.mem)) p = echoWork img k p := by
  rw [echoWork, (Server.keeps_stores inside.uart).work, (Server.keeps_stores inside.echo).work]
  rfl

theorem Echoing.trap_work {regs : UserTaskCtx} (ok : Echoing L cfg img m p)
    (waits : ¬ ClientRuns m) (phase : m.phase = .el0 regs) (current : m.kernel.current = some t)
    (trap : EchoTrap img m p stores tf t p') (acts : TrapActs cfg m t stores tf m') :
    echoWork img m'.kernel p' < echoWork img m.kernel p := by
  cases trap with
  | client => exact absurd ⟨⟨regs, phase⟩, current⟩ waits
  | uart makes inside =>
      obtain ⟨msg, attends, _⟩ := (ok.ok.stored inside).uart
      obtain ⟨msg', acted⟩ := acts.server img.uartServer rfl _ msg _ _ attends makes
      rw [← echoWork_stores p inside, echoWork, (acted.keeps attends (echo_apart img)).1.work]
      exact Nat.add_lt_add_right (acted.lower attends acts.active) _
  | echo makes _ inside =>
      obtain ⟨msg, attends, _⟩ := (ok.ok.stored inside).bench
      obtain ⟨msg', acted⟩ := acts.server img.echoServer rfl _ msg _ _ attends makes
      rw [← echoWork_stores p inside, echoWork, (acted.keeps attends (uart_apart img)).1.work]
      exact Nat.add_lt_add_left (acted.lower attends acts.active) _

/-- The steps until `task_a` executes, without interrupts. -/
def echoRank (img : Image) (q : Machine × Echo) : Nat :=
  q.1.phase.distance + 7 * echoWork img q.1.kernel q.2

theorem echoRank_le (img : Image) (q : Machine × Echo) : echoRank img q ≤ 62 := by
  have distance := q.1.phase.distance_le
  have uart := img.uartServer.work_le q.1.kernel q.2.b.point
  have echo := img.echoServer.work_le q.1.kernel q.2.c.point
  unfold echoRank echoWork
  omega

theorem echoRank_of_work {q q' : Machine × Echo}
    (fewer : echoWork img q'.1.kernel q'.2 < echoWork img q.1.kernel q.2) :
    echoRank img q' + 1 ≤ echoRank img q := by
  have distance := q'.1.phase.distance_le
  unfold echoRank
  omega

theorem Echoing.lower (ok : Echoing L cfg img m p) (mode : cfg.mode = .latency) (busy : p.call ≠ none)
    (waits : ¬ ClientRuns m) (step : m.step L cfg a = some m')
    (next : (echoing cfg img).next p m a m' = some p') :
    echoRank img (m', p') + (if a.own then 1 else 0) ≤ echoRank img (m, p) := by
  cases (step_cases ok.inv step).1 with
  | quiet untrapped quiet =>
      have moves := quiet_moves ok.inv untrapped step
      have work : echoWork img m'.kernel p = echoWork img m.kernel p := by
        rw [echoWork, (Server.keeps_quiet quiet moves.users).work,
          (Server.keeps_quiet quiet moves.users).work]
        rfl
      rw [echoing_untrapped untrapped next]
      simp only [echoRank, work]
      cases a with
      | trap stores tf => exact absurd rfl (untrapped stores tf)
      | tick => simp [Action.own, tick_phase step]
      | advance =>
          have heads : m.phase ≠ .wfi := by
            intro idles
            rcases ok.busy busy with ⟨r, pick⟩ | ⟨t, user, heads⟩
            · cases idles.symm.trans pick
            · simp only [Machine.heading, idles] at heads
              exact user (Option.some_inj.mp (heads.symm.trans (ok.inv.idling idles)))
          have nearer := advance_distance heads step
          simp only [Action.own, if_true]
          omega
  | back phase active _ effect =>
      obtain ⟨_, trap⟩ := echoing_trap mode ok.ok.echoes phase active.current next
      have acts := trapActs_back ok.inv mode phase active effect
      exact echoRank_of_work (ok.trap_work waits phase active.current trap acts)
  | away phase active _ effect _ left =>
      obtain ⟨_, trap⟩ := echoing_trap mode ok.ok.echoes phase active.current next
      have acts := trapActs_away ok.inv mode phase active effect left
      exact echoRank_of_work (ok.trap_work waits phase active.current trap acts)
  | outside phase active _ _ outside =>
      exact absurd (echoing_trap mode ok.ok.echoes phase active.current next).1 outside

theorem echoing_call (waits : ¬ ClientRuns m) (next : (echoing cfg img).next p m a m' = some p') :
    p'.call = p.call := by
  cases a with
  | tick | advance => rw [echoing_untrapped (by nofun) next]
  | trap stores tf =>
      simp only [echoing] at next
      split at next
      · rename_i regs _ _ phase _
        split_ifs at next with _ client
        · exact absurd ⟨⟨regs, phase⟩, client⟩ waits
        · cases next
          rfl
        · cases next
          rfl
      · cases next
        rfl

theorem Echoing.enabled (ok : Echoing L cfg img m p) (waits : ¬ ClientRuns m) :
    ∃ a m' p', a.own ∧ m.step L cfg a = some m' ∧ (echoing cfg img).next p m a m' = some p' := by
  by_cases masked : ∃ regs, m.phase = .el0 regs
  · obtain ⟨regs, phase⟩ := masked
    obtain ⟨_, t, active⟩ := ok.inv.active phase
    have current := active.current
    obtain rfl | rfl | rfl | rfl :=
      (by decide : ∀ t : Slot, t = slotTaskA ∨ t = slotTaskB ∨ t = slotTaskC ∨ t = slotIdle) t
    · exact absurd ⟨⟨regs, phase⟩, current⟩ waits
    · let call := (el0TaskBEntry cfg img m.kernel.mem (regs.x 0) p.b).1
      have short : call.Short := el0TaskBEntry_short
      obtain ⟨stores, stored⟩ := taskBStores_some img m.kernel.mem call
      obtain ⟨m', step⟩ := call.frame_step L cfg short phase stores
      obtain ⟨raises, _, inside⟩ := call.frame_raises short
      have server : slotTaskB ≠ slotTaskA := by decide
      have next : (echoing cfg img).next p m (.trap stores call.frame) m' =
          some { p with b := (el0TaskBEntry cfg img m.kernel.mem (regs.x 0) p.b).2 } := by
        simp only [echoing, phase, current, Option.some_inj, inside, not_true_eq_false, if_false,
          server, if_true]
        exact if_pos ⟨raises, stored⟩
      exact ⟨_, m', _, rfl, step, next⟩
    · let call := (el0TaskCEntry cfg img (regs.x 0) p.c).1
      have short : call.Short := el0TaskCEntry_short
      obtain ⟨m', step⟩ := call.frame_step L cfg short phase []
      obtain ⟨raises, _, inside⟩ := call.frame_raises short
      have client : slotTaskC ≠ slotTaskA := by decide
      have server : slotTaskC ≠ slotTaskB := by decide
      have next : (echoing cfg img).next p m (.trap [] call.frame) m' =
          some { p with c := (el0TaskCEntry cfg img (regs.x 0) p.c).2 } := by
        simp only [echoing, phase, current, Option.some_inj, inside, not_true_eq_false, if_false,
          client, server, if_true]
        exact if_pos ⟨raises, by simp [Image.TaskCStores]⟩
      exact ⟨_, m', _, rfl, step, next⟩
    · exact absurd rfl active.user
  · obtain ⟨m', step⟩ := advance_enabled ok.inv ok.calm fun regs phase => masked ⟨regs, phase⟩
    refine ⟨.advance, m', p, rfl, step, ?_⟩
    simp [echoing]

/-! ## The round trip -/

/-- The last trap of `task_a`, at a state of a run where it is a call of the echo server. -/
structure RoundTrip (L : Layout) (cfg : Config) (img : Image) (m : Machine) (p : Echo)
    (call : EchoRequest) : Prop where
  accepted : call.history <+: m.kernel.log
  /-- Where `task_a` executes again, the call has returned the message. -/
  returned : ClientRuns m → call.Returned m.kernel (m.x0 slotTaskA)
  enabled : ¬ ClientRuns m → ∃ a m' p', a.own ∧ m.step L cfg a = some m' ∧
    (echoing cfg img).next p m a m' = some p'
  /-- `task_a` executes again within 62 steps of the machine that are not interrupts. -/
  within : ¬ ClientRuns m → ∀ h q, ((kernelSystem L cfg).under (echoing cfg img)).Path (m, p) h q →
    62 < h.countP (fun r => r.2.own) → ClientRuns q.1 ∨ ∃ r ∈ h, ClientRuns r.1.1

/-- The calls of the echo server at a state of a run. -/
structure RoundTrips (L : Layout) (cfg : Config) (img : Image) (m : Machine) (p : Echo) : Prop where
  /-- Each call is the one accounted for in the state that it leads to. -/
  called : ∀ stores tf m' p', ClientRuns m → BenchCall tf →
    m.step L cfg (.trap stores tf) = some m' →
      (echoing cfg img).next p m (.trap stores tf) m' = some p' →
        p'.call = some ⟨tf, m.kernel.setMem (userStores stores m.kernel.mem)⟩
  trips : ∀ call, p.call = some call → RoundTrip L cfg img m p call

theorem Answers.accepted {xa : UInt64} {call : EchoRequest} {msg : Option (List UInt8)}
    (answers : Answers k xa (some call) msg) : call.history <+: k.log := by
  cases answers with
  | waiting accepted => exact accepted
  | returned accepted => exact accepted

theorem Answers.returned_of_none {xa : UInt64} {call : EchoRequest}
    (answers : Answers k xa (some call) none) : call.Returned k xa := by
  cases answers with
  | returned _ _ _ _ returned => exact returned

theorem Echoing.returned {call : EchoRequest} (ok : Echoing L cfg img m p) (here : p.call = some call)
    (runs : ClientRuns m) : call.Returned m.kernel (m.x0 slotTaskA) := by
  obtain ⟨⟨regs, phase⟩, current⟩ := runs
  obtain ⟨kernel, t, active⟩ := ok.inv.active phase
  cases Option.some_inj.mp (active.current.symm.trans current)
  obtain ⟨msg, attends, answers⟩ := ok.ok.bench
  cases attends.none_of_active kernel active
  rw [here] at answers
  exact answers.returned_of_none

theorem echoing_called (runs : ClientRuns m) (bench : BenchCall tf)
    (next : (echoing cfg img).next p m (.trap stores tf) m' = some p') :
    p'.call = some ⟨tf, m.kernel.setMem (userStores stores m.kernel.mem)⟩ := by
  obtain ⟨⟨regs, phase⟩, current⟩ := runs
  simp only [echoing, phase, current, if_true] at next
  split_ifs at next
  cases next
  exact p.client_bench bench _

theorem Echoing.within (ok : Echoing L cfg img m p) (mode : cfg.mode = .latency) {call : EchoRequest}
    (here : p.call = some call) {h : List ((Machine × Echo) × Action)} {q : Machine × Echo}
    (path : ((kernelSystem L cfg).under (echoing cfg img)).Path (m, p) h q)
    (long : 62 < h.countP fun r => r.2.own) : ClientRuns q.1 ∨ ∃ r ∈ h, ClientRuns r.1.1 := by
  by_contra missed
  have before : ∀ r ∈ h, ¬ ClientRuns r.1.1 := fun r member runs => missed (.inr ⟨r, member, runs⟩)
  have start := echoRank_le img (m, p)
  have bound := path.countP_le (fun q => Echoing L cfg img q.1 q.2 ∧ q.2.call = some call)
    (fun q _ => ¬ ClientRuns q.1) (fun _ a => a.own) (echoRank img) ⟨ok, here⟩ ?_ before
  · omega
  · rintro ⟨m, p⟩ a ⟨m', p'⟩ ⟨ok, here⟩ waits ⟨step, next⟩
    have busy : p.call ≠ none := by simp [show p.call = some call from here]
    exact ⟨⟨ok.step mode step next, (echoing_call waits next).trans here⟩,
      ok.lower mode busy waits step next⟩

theorem run_roundTrips {h : List ((Machine × Echo) × Action)} (mode : cfg.mode = .latency)
    (run : ((kernelSystem L cfg).under (echoing cfg img)).Run h (m, p)) :
    RoundTrips L cfg img m p := by
  have ok := run_echoing mode run
  refine ⟨fun stores tf m' p' runs bench _ next => echoing_called runs bench next, fun call here => ?_⟩
  refine ⟨?_, ok.returned here, ok.enabled, fun _ h q path long => ok.within mode here path long⟩
  obtain ⟨_, _, answers⟩ := ok.ok.bench
  rw [here] at answers
  exact answers.accepted

def latencyBuild : Config := { Config.sample with mode := .latency }

theorem inSandbox_first : InSandbox el0TaskAStackBottom := by decide
theorem inSandbox_second : InSandbox (el0TaskAStackBottom + 1) := by decide
theorem inSandbox_third : InSandbox (el0TaskAStackBottom + 2) := by decide

/-- `task_a` sends three bytes before `task_c` has received, with room for two in its reply buffer, and
then sends the buffer on to itself while `task_c` waits. -/
def echoRun : List Action :=
  let store (address : UInt64) (inside : InSandbox address) (byte : UInt8) :
      SandboxAddress × UInt8 := (⟨address, inside⟩, byte)
  List.replicate 4 .advance ++
    [.trap [store el0TaskAStackBottom inSandbox_first 104,
      store (el0TaskAStackBottom + 1) inSandbox_second 105,
      store (el0TaskAStackBottom + 2) inSandbox_third 33]
      (.svc sysIpcCall [2, el0TaskAStackBottom, 3, el0TaskAStackBottom + 8, 2])] ++
    List.replicate 5 .advance ++
    [.trap [] (.svc sysIpcRecv [1, Image.sample.recvBufB, 256])] ++
    List.replicate 5 .advance ++
    [.trap [] (.svc sysIpcRecv [2, Image.sample.recvBufC, 256]),
      .trap [] (.svc sysIpcReply [2, Image.sample.recvBufC, 3]),
      .trap [] (.svc sysIpcRecv [2, Image.sample.recvBufC, 256])] ++
    List.replicate 6 .advance ++
    [.trap [] (.svc sysIpcCall [2, el0TaskAStackBottom + 8, 2, el0TaskAStackBottom + 8, 4])] ++
    List.replicate 6 .advance ++
    [.trap [] (.svc sysIpcReply [2, Image.sample.recvBufC, 2]),
      .trap [] (.svc sysIpcRecv [2, Image.sample.recvBufC, 256])] ++
    List.replicate 6 .advance

set_option maxRecDepth 4000 in
theorem run_roundTrips_twice : ∃ h m p, ((kernelSystem .sample latencyBuild).under
      (echoing latencyBuild .sample)).Run h (m, p) ∧
    ClientRuns m ∧ p.call.isSome ∧ m.x0 slotTaskA = 2 ∧ RoundTrips .sample latencyBuild .sample m p := by
  obtain ⟨m, p, ran, runs, called, result⟩ : ∃ m p,
      runUnder .sample latencyBuild (echoing latencyBuild .sample) echoRun = some (m, p) ∧
        ClientRuns m ∧ p.call.isSome ∧ m.x0 slotTaskA = 2 :=
    ⟨_, _, rfl, ⟨⟨_, rfl⟩, rfl⟩, rfl, rfl⟩
  obtain ⟨h, run⟩ := runUnder_run ran
  exact ⟨h, m, p, run, runs, called, result, run_roundTrips rfl run⟩

end ProtoOs
