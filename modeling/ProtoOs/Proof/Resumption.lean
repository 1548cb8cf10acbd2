import ProtoOs.Proof.Tasks
import ProtoOs.Proof.WaitRegistration
import ProtoOs.Lib.Progress

/-!
# From a call to the next execution

Between a call of a task and the next time it executes in EL0, its saved context keeps every register
but x0, and x0 is written by the wake of a call that blocked. What it executes with then is its saved
context.
-/

namespace ProtoOs

open Transition.System

variable {L : Layout} {cfg : Config} {k k₁ k' : Kernel} {m m₁ m₂ m' : Machine} {t s : Slot}
  {a : Action} {tf : TrapFrame} {w : WaitPlace} {v : UInt64} {regs : UserTaskCtx}
  {stores : List (SandboxAddress × UInt8)} {reason : TaskReturnReason}
  {h h' : List (Machine × Action)} {d : UInt64 × UInt64 × UInt64} {base : List UInt64}

def Machine.Executes (m : Machine) (t : Slot) (regs : UserTaskCtx) : Prop :=
  m.phase = .el0 regs ∧ m.kernel.current = some t

/-! ## Calls that block -/

def Kernel.leaveBlocked (k : Kernel) (t : Slot) (tf : TrapFrame) : Kernel :=
  ((k.saveFrame t tf .ipcBlock).markTask t .runnable .blocked).setResched false

/-- Where a call waits, and what it leaves there. -/
inductive WaitsAt (tf : TrapFrame) : WaitPlace → UInt64 × UInt64 × UInt64 → Prop
  | call {e : EpId} (asks : Asks tf sysIpcCall) (found : getEndpoint (tf.x 0) = some e) :
      WaitsAt tf (.caller e) (tf.x 3, tf.x 4, 0)
  | write (asks : Asks tf sysWrite) : WaitsAt tf (.caller epUart) (0, 0, tf.x 1)
  | recv {e : EpId} (asks : Asks tf sysIpcRecv) (found : getEndpoint (tf.x 0) = some e) :
      WaitsAt tf (.receiver e) (tf.x 1, tf.x 2, 0)
  | wait (asks : Asks tf sysSuperviseWait) : WaitsAt tf .supervisor (0, 0, 0)

/-- A call that the owner of an endpoint is to answer. -/
inductive CallsOn (tf : TrapFrame) : EpId → Prop
  | call {e : EpId} (asks : Asks tf sysIpcCall) (found : getEndpoint (tf.x 0) = some e) : CallsOn tf e
  | write (asks : Asks tf sysWrite) : CallsOn tf epUart

/-- The result of a call that blocked, by the trap `tf'` of the task `u` that woke it. -/
inductive ResultOf (cfg : Config) (k : Kernel) (tf : TrapFrame) (u : Slot) (tf' : TrapFrame) :
    UInt64 → Prop
  | delivered {e : EpId} {d : Send} (asks : Asks tf sysIpcRecv)
      (found : getEndpoint (tf.x 0) = some e) (sends : Sends cfg u tf' e d) (accepts : Accepts k e d) :
      ResultOf cfg k tf u tf' (minU64 d.len (tf.x 2))
  | copied {e : EpId} (asks : Asks tf sysIpcCall) (found : getEndpoint (tf.x 0) = some e)
      (replies : Replies k u tf' e) : ResultOf cfg k tf u tf' (minU64 (tf'.x 2) (tf.x 4))
  | written (asks : Asks tf sysWrite) (replies : Replies k u tf' epUart) :
      ResultOf cfg k tf u tf' (tf.x 1)
  | ownerDied {e : EpId} (calls : CallsOn tf e) (dies : tf'.Dies)
      (owner : (k.endpoints e).ownerSlot = u.u32) : ResultOf cfg k tf u tf' minusOne
  | reported (asks : Asks tf sysSuperviseWait) (dies : tf'.Dies) :
      ResultOf cfg k tf u tf' u.u32.toUInt64

/-- The step ends the wait of a task. -/
structure EndsWait (L : Layout) (cfg : Config) (t : Slot) (m : Machine) (a : Action) (m' : Machine) :
    Prop where
  step : m.step L cfg a = some m'
  blocked : (m.kernel.threads t).user.state = .blocked
  awake : (m'.kernel.threads t).user.state = .runnable

/-- The step that ends the wait of `t` is the trap of the task that it is woken by, with its result. -/
structure WakesWith (L : Layout) (cfg : Config) (tf : TrapFrame) (t : Slot) (m : Machine) (a : Action)
    (v : UInt64) : Prop where
  ends : ∃ m', EndsWait L cfg t m a m' ∧ wakes t m'.kernel.log = wakes t m.kernel.log ++ [v]
  waker : ∃ stores tf' u, a = .trap stores tf' ∧ m.kernel.current = some u ∧
    ResultOf cfg m.kernel tf u tf' v

theorem Send.replyResult {ep : Endpoint} {len : UInt64} (cap : ep.callerReplyCap = 0)
    (override : ep.callerResultOverride = v) : Kernel.replyResult ep len = v := by
  unfold Kernel.replyResult
  rw [override, cap]
  split_ifs with given
  · rfl
  · have zero : v = 0 := not_not.mp given
    rw [zero]
    unfold minU64
    split_ifs with below
    · exact UInt64.not_lt.mpr (UInt64.zero_le) below |>.elim
    · rfl

theorem WaitsAt.result {u : Slot} {tf' : TrapFrame} (waits : WaitsAt tf w d)
    (stored : k.descriptor w = d) (value : WakeValue cfg k u tf' w v) :
    ResultOf cfg k tf u tf' v := by
  cases waits with
  | @call e asks found =>
      simp only [Kernel.descriptor, Prod.mk.injEq] at stored
      obtain ⟨_, cap, override⟩ := stored
      cases value with
      | replied replies =>
          have copied : ResultOf cfg k tf u tf' _ := .copied asks found replies
          simpa [Kernel.replyResult, override, cap] using copied
      | ownerDied dies owner => exact .ownerDied (.call asks found) dies owner
  | write asks =>
      simp only [Kernel.descriptor, Prod.mk.injEq] at stored
      obtain ⟨_, cap, override⟩ := stored
      cases value with
      | replied replies =>
          rw [Send.replyResult cap override]
          exact .written asks replies
      | ownerDied dies owner => exact .ownerDied (.write asks) dies owner
  | recv asks found =>
      simp only [Kernel.descriptor, Prod.mk.injEq] at stored
      obtain ⟨_, cap, _⟩ := stored
      cases value with
      | delivered sends accepts =>
          rw [cap]
          exact .delivered asks found sends accepts
  | wait asks =>
      cases value with
      | notified dies => exact .reported asks dies

/-! ## Between the call and the next execution -/

/-- The state of a task in the steps `h` after its call `tf`. -/
inductive Pending (L : Layout) (cfg : Config) (tf : TrapFrame) (t : Slot) (base : List UInt64)
    (h : List (Machine × Action)) (k : Kernel) : Prop
  | blocked {w : WaitPlace} {d : UInt64 × UInt64 × UInt64} (waits : WaitsAt tf w d)
      (place : k.waiter w = t.i32) (stored : k.descriptor w = d)
      (ctx : (k.threads t).user.ctx = tf.after (tf.x 0))
      (state : (k.threads t).user.state = .blocked) (logged : wakes t k.log = base)
  | woken {v : UInt64} (woken : ∃ p ∈ h, WakesWith L cfg tf t p.1 p.2 v)
      (ctx : (k.threads t).user.ctx = tf.after v)
      (state : (k.threads t).user.state ≠ .blocked ∧ (k.threads t).user.state ≠ .dead)
      (logged : wakes t k.log = base ++ [v])
  | yielded (asks : Asks tf sysYield) (ctx : (k.threads t).user.ctx = tf.after (tf.x 0))
      (state : (k.threads t).user.state ≠ .blocked ∧ (k.threads t).user.state ≠ .dead)
      (logged : wakes t k.log = base)

theorem Pending.ctx (pending : Pending L cfg tf t base h k) :
    ∃ x0, (k.threads t).user.ctx = tf.after x0 := by
  cases pending with
  | blocked _ _ _ ctx | woken _ ctx | yielded _ ctx => exact ⟨_, ctx⟩

theorem Pending.living (pending : Pending L cfg tf t base h k) : (k.threads t).user.state ≠ .dead := by
  cases pending with
  | blocked _ _ _ _ state =>
      rw [state]
      nofun
  | woken _ _ state | yielded _ _ state => exact state.2

theorem Pending.step (pending : Pending L cfg tf t base h m.kernel) (inv : Inv L cfg m)
    (user : t ≠ slotIdle) (away : ∀ regs, ¬ m.Executes t regs) (step : m.step L cfg a = some m') :
    Pending L cfg tf t base (h ++ [(m, a)]) m'.kernel := by
  have ok := inv.kernelOk (Machine.step_calm step)
  cases step_task inv step user fun regs phase current => away regs ⟨phase, current⟩ with
  | restarted here _ _ call =>
      subst here
      exact absurd call.restartable.dead pending.living
  | kept kept =>
      cases pending with
      | @blocked w d waits place stored ctx blocked logged =>
          exact .blocked waits ((kept.waits w).mpr place) ((kept.stored w place).trans stored)
            (kept.ctx.trans ctx) (kept.blocked.mpr blocked) (kept.logged.trans logged)
      | woken woken ctx awake logged =>
          obtain ⟨p, member, wakes⟩ := woken
          exact .woken ⟨p, List.mem_append_left _ member, wakes⟩ (kept.ctx.trans ctx) (kept.awake awake)
            (kept.logged.trans logged)
      | yielded asks ctx awake logged =>
          exact .yielded asks (kept.ctx.trans ctx) (kept.awake awake) (kept.logged.trans logged)
  | @woken stores tf' u w' v trap current value woken =>
      have blocked := (ok.recorded woken.place).2
      cases pending with
      | woken _ _ awake => exact absurd blocked awake.1
      | yielded _ _ awake => exact absurd blocked awake.1
      | @blocked w d waits place stored ctx _ logged =>
          obtain rfl : w' = w := ok.only woken.place place
          have awake : (m'.kernel.threads t).user.state = .runnable := by
            rw [woken.thread]
            simp [Thread.wake]
          refine .woken ⟨(m, a), by simp, ⟨m', ⟨step, blocked, awake⟩, woken.logged⟩, stores, tf', u,
            trap, current, waits.result stored value⟩ ?_ ?_ ?_
          · rw [woken.thread]
            simp [Thread.wake, ctx, TrapFrame.after]
          · rw [woken.thread]
            simp [Thread.wake]
          · rw [woken.logged, logged]

/-! ## The trap -/

theorem TrapFrame.after_self (tf : TrapFrame) :
    tf.after (tf.x 0) = { x := tf.x, spEl0 := tf.sp, elr := tf.elr, spsr := tf.spsr } := by
  simp [TrapFrame.after]

theorem Effect.waitsAt (effect : Effect cfg k t tf k₁ (.away reason)) (ok : KernelOk L cfg k none)
    (active : Active k t) (blocks : reason = .ipcBlock ∨ reason = .notifyBlock) :
    ∃ w d, WaitsAt tf w d ∧ k₁.waiter w = t.i32 ∧ k₁.descriptor w = d ∧
      wakes t k₁.log = wakes t k.log := by
  cases effect with
  | yield | exit | fault => simp at blocks
  | @park e d sends =>
      refine ⟨.caller e, (d.replyPtr, d.replyCap, d.override), ?_, ?_, ?_, ?_⟩
      · cases sends with
        | call asks found => exact .call asks found
        | route asks => exact .write asks
      · simp [waiter_parkRequest]
      · simp [Kernel.descriptor, Kernel.parkRequest, Kernel.registerCaller]
      · simp [Kernel.parkRequest, Kernel.registerCaller, wakes]
  | @handOver e d s sends _ waiting =>
      have different : s ≠ t := active.ne_of_recorded ok (w := .receiver e) waiting
      refine ⟨.caller e, (d.replyPtr, d.replyCap, d.override), ?_, ?_, ?_, ?_⟩
      · cases sends with
        | call asks found => exact .call asks found
        | route asks => exact .write asks
      · simp [waiter_handOver, waiter_registerCaller]
      · simp [Kernel.descriptor, Kernel.handOver, Kernel.registerCaller]
      · simp [Kernel.handOver, Kernel.registerCaller, wakes, different]
  | @listen e asks found =>
      refine ⟨.receiver e, (tf.x 1, tf.x 2, 0), .recv asks found, ?_, ?_, rfl⟩
      · simp [waiter_listen]
      · simp [Kernel.descriptor, Kernel.listen]
  | await asks => exact ⟨.supervisor, (0, 0, 0), .wait asks, rfl, rfl, rfl⟩

theorem Effect.pending (effect : Effect cfg k t tf k₁ (.away reason)) (ok : KernelOk L cfg k none)
    (active : Active k t) (svc : tf.exceptionClass = 0x15) (stays : tf.x 8 ≠ sysExit)
    (left : Left (k₁.saveFrame t tf reason) t reason k') :
    Pending L cfg tf t (wakes t k.log) [] k' := by
  have lives : ¬ (reason = .exit ∨ reason = .fault) := by
    intro fatal
    rcases effect.dies fatal with fault | asks
    · exact fault svc
    · exact stays asks.number
  have after := left.lives lives
  by_cases voluntary : reason = .yield
  · subst voluntary
    rw [if_pos rfl] at after
    cases effect with
    | yield asks =>
        refine .yielded asks ?_ ?_ ?_
        · rw [after, tf.after_self]
          simp [Thread.saveFrame]
        · rw [after]
          simp
        · rw [after]
          rfl
  · have blocks : reason = .ipcBlock ∨ reason = .notifyBlock := by
      cases effect with
      | yield => exact absurd rfl voluntary
      | exit | fault => simp at lives
      | park | handOver | listen | await => simp
    obtain ⟨w, d, waits, place, stored, logged⟩ := effect.waitsAt ok active blocks
    rw [if_neg voluntary] at after
    refine .blocked waits ?_ ?_ ?_ ?_ ?_
    · rw [← place, after]
      cases w <;> rfl
    · rw [← stored, after]
      cases w <;> rfl
    · rw [after, tf.after_self]
      simp [Thread.saveFrame]
    · rw [after]
      simp
    · rw [← logged, after]
      rfl

/-! ## The next execution -/

theorem Machine.Executes.active (executes : m.Executes t regs) (inv : Inv L cfg m) :
    KernelOk L cfg m.kernel none ∧ Active m.kernel t := by
  obtain ⟨ok, u, active⟩ := inv.active executes.1
  obtain rfl := Option.some_inj.mp (active.current.symm.trans executes.2)
  exact ⟨ok, active⟩

theorem Machine.Executes.trapped (executes : m.Executes t regs) (inv : Inv L cfg m)
    (stores : List (SandboxAddress × UInt8)) :
    KernelOk L cfg (m.trapped stores) none ∧ Active (m.trapped stores) t := by
  obtain ⟨ok, active⟩ := executes.active inv
  exact ⟨ok.setMem _, active.congr rfl rfl rfl⟩

theorem step_executes (inv : Inv L cfg m) (step : m.step L cfg a = some m')
    (away : ∀ regs, ¬ m.Executes t regs) (executes : m'.Executes t regs) :
    regs = (m'.kernel.threads t).user.ctx := by
  obtain ⟨phase, current⟩ := executes
  cases (step_cases inv step).1 with
  | quiet untrapped =>
      obtain ⟨u, here, loaded⟩ := (quiet_moves inv untrapped step).enters regs phase
      rw [loaded, Option.some_inj.mp (here.symm.trans current)]
  | away | outside => cases phase
  | @back stores tf u regs' k₁ _ el0 active _ effect =>
      have ok := (inv.active el0).1.setMem (userStores stores m.kernel.mem)
      have stored : Active (m.kernel.setMem (userStores stores m.kernel.mem)) u :=
        active.congr rfl rfl rfl
      have here := (effect.keeps ok stored).2.current
      rw [Option.some_inj.mp (here.symm.trans current)] at active
      exact absurd ⟨el0, active.current⟩ (away regs')

theorem path_pending (inv : Inv L cfg m₁) (user : t ≠ slotIdle)
    (pending : Pending L cfg tf t base [] m₁.kernel) (path : (kernelSystem L cfg).Path m₁ h' m₂)
    (between : ∀ p ∈ h', ∀ regs, ¬ p.1.Executes t regs) :
    Inv L cfg m₂ ∧ Pending L cfg tf t base h' m₂.kernel := by
  induction path with
  | refl => exact ⟨inv, pending⟩
  | @step h' m a m₂ _ taken ih =>
      obtain ⟨inv', pending'⟩ := ih fun p member => between p (List.mem_append_left _ member)
      exact ⟨(step_cases inv' taken).2,
        pending'.step inv' user (between (m, a) (by simp)) taken⟩

structure NextExecution (L : Layout) (cfg : Config) (m : Machine) (t : Slot)
    (stores : List (SandboxAddress × UInt8)) (tf : TrapFrame) (m₁ : Machine)
    (h' : List (Machine × Action)) (m₂ : Machine) (regs : UserTaskCtx) : Prop where
  caller : ∃ regs, m.Executes t regs
  svc : tf.exceptionClass = 0x15
  stays : tf.x 8 ≠ sysExit
  trap : m.step L cfg (.trap stores tf) = some m₁
  path : (kernelSystem L cfg).Path m₁ h' m₂
  between : ∀ p ∈ h', ∀ regs, ¬ p.1.Executes t regs
  executes : m₂.Executes t regs

/-- Either the call returned at once, or its task left the processor and came back. -/
inductive Resumed (L : Layout) (cfg : Config) (m : Machine) (t : Slot)
    (stores : List (SandboxAddress × UInt8)) (tf : TrapFrame) (m₁ : Machine)
    (h' : List (Machine × Action)) (m₂ : Machine) (regs : UserTaskCtx) : Prop
  | direct {k' : Kernel} {x0 : UInt64} (same : m₂ = m₁)
      (returned : syscallDispatch L cfg (m.kernel.setMem (userStores stores m.kernel.mem)) tf .el0 =
        .ok (k', tf, x0))
      (awake : (m₁.kernel.threads t).user.state ≠ .blocked) (result : regs = tf.after x0)
      (other : tf.x 8 ≠ sysYield)
  | redirected {k' : Kernel}
      (returned : syscallDispatch L cfg (m.kernel.setMem (userStores stores m.kernel.mem)) tf .el0 =
        .ok (k', tf.redirect L, 0))
      (before : Pending L cfg tf t (wakes t m.kernel.log) [] m₁.kernel)
      (after : Pending L cfg tf t (wakes t m.kernel.log) h' m₂.kernel)
      (loaded : regs = (m₂.kernel.threads t).user.ctx)

theorem returnStep_away (k : Kernel) (regs : UserTaskCtx) : (returnStep k).phase ≠ .el0 regs := by
  unfold returnStep
  split
  · nofun
  · nofun

theorem dispatch_of_back (inv : Inv L cfg m) (svc : tf.exceptionClass = 0x15)
    (trap : m.step L cfg (.trap stores tf) = some ⟨k', .el0 regs⟩) : ∃ x0,
      syscallDispatch L cfg (m.kernel.setMem (userStores stores m.kernel.mem)) tf .el0 =
        .ok (k', tf, x0) ∧ regs = tf.after x0 := by
  obtain ⟨_, el0, mode, taken⟩ := Machine.step_trap trap
  obtain ⟨ok, t, active⟩ := inv.active el0
  have okStored := ok.setMem (userStores stores m.kernel.mem)
  have stored : Active (m.kernel.setMem (userStores stores m.kernel.mem)) t := active.congr rfl rfl rfl
  obtain ⟨k₁, o, effect, result⟩ : Explained L cfg _ _ tf _ :=
    syscallDispatch_explained (stored.ready okStored) (stored.awake okStored) svc
  simp only [takeTrap, exceptionSyncEl0, svc, if_true, result] at taken
  cases o with
  | back x0 =>
      simp only [Outcome.result, eret_back mode] at taken
      cases taken
      exact ⟨x0, result, rfl⟩
  | away reason =>
      exfalso
      have ready := effect.ready (stored.ready okStored)
      by_cases inside : InSandbox tf.elr
      · have el1 : ((tf.redirect L).setX0 0).spsr &&& 0xF = 5 := by
          show spsrEl1hMasked &&& 0xF = 5
          decide
        simp only [Outcome.result, syscallRedirect, threadUserTrapRedirect_inside ready inside,
          eret_el1 el1] at taken
        exact returnStep_away _ regs (by rw [← taken])
      · simp only [Outcome.result, syscallRedirect, threadUserTrapRedirect_outside ready inside] at taken
        cases taken

theorem dispatch_of_away {r : Resume} (inv : Inv L cfg m) (svc : tf.exceptionClass = 0x15)
    (trap : m.step L cfg (.trap stores tf) = some ⟨k', .pick r⟩) : ∃ k₁,
      syscallDispatch L cfg (m.kernel.setMem (userStores stores m.kernel.mem)) tf .el0 =
        .ok (k₁, tf.redirect L, 0) := by
  obtain ⟨_, el0, mode, taken⟩ := Machine.step_trap trap
  obtain ⟨ok, t, active⟩ := inv.active el0
  have okStored := ok.setMem (userStores stores m.kernel.mem)
  have stored : Active (m.kernel.setMem (userStores stores m.kernel.mem)) t := active.congr rfl rfl rfl
  obtain ⟨k₁, o, effect, result⟩ : Explained L cfg _ _ tf _ :=
    syscallDispatch_explained (stored.ready okStored) (stored.awake okStored) svc
  cases o with
  | back x0 =>
      simp only [takeTrap, exceptionSyncEl0, svc, if_true, result, Outcome.result,
        eret_back mode] at taken
      cases taken
  | away reason =>
      have ready := effect.ready (stored.ready okStored)
      by_cases inside : InSandbox tf.elr
      · rw [result, Outcome.result, syscallRedirect, threadUserTrapRedirect_inside ready inside]
        exact ⟨_, rfl⟩
      · simp only [takeTrap, exceptionSyncEl0, svc, if_true, result, Outcome.result, syscallRedirect,
          threadUserTrapRedirect_outside ready inside] at taken
        cases taken

theorem NextExecution.resumed (next : NextExecution L cfg m t stores tf m₁ h' m₂ regs)
    (inv : Inv L cfg m) : Resumed L cfg m t stores tf m₁ h' m₂ regs := by
  obtain ⟨⟨_, caller⟩, svc, stays, trap, path, between, executes⟩ := next
  obtain ⟨ok, active⟩ := caller.active inv
  have okStored := ok.setMem (userStores stores m.kernel.mem)
  have stored : Active (m.kernel.setMem (userStores stores m.kernel.mem)) t := active.congr rfl rfl rfl
  have mine {u : Slot} (other : Active m.kernel u) : u = t :=
    Option.some_inj.mp (other.current.symm.trans active.current)
  obtain ⟨stepped, inv₁⟩ := step_cases inv trap
  cases stepped with
  | quiet untrapped => exact absurd rfl (untrapped stores tf)
  | @back _ _ u _ k₁ _ _ here _ effect =>
      obtain rfl := mine here
      obtain ⟨x0, returned, after⟩ := dispatch_of_back inv svc trap
      have active₁ := (effect.keeps okStored stored).2
      rcases path.head with ⟨rfl, rfl⟩ | ⟨a, rest, rfl⟩
      · refine .direct rfl returned ?_ ?_ fun yields => ?_
        · rw [active₁.running]
          nofun
        · rw [← after]
          have same := executes.1
          cases same
          rfl
        · cases (effect.of_yield ⟨svc, yields⟩).1
      · exact absurd ⟨rfl, active₁.current⟩ (between _ List.mem_cons_self (tf.after _))
  | outside =>
      have halted := path.keeps (I := fun m => m.phase = .panic .trapElrOutsideSandbox) rfl
        fun m a m' panics taken => absurd panics (Machine.step_calm taken _)
      cases executes.1.symm.trans halted
  | @away _ _ u _ k₁ k₂ reason _ here _ effect inside left =>
      obtain rfl := mine here
      have pending : Pending L cfg tf u (wakes u m.kernel.log) [] (k₂.setResched false) := by
        cases effect.pending okStored stored svc stays left with
        | blocked waits place stored ctx state logged =>
            exact .blocked waits place stored ctx state logged
        | woken woken ctx state logged => exact .woken woken ctx state logged
        | yielded asks ctx state logged => exact .yielded asks ctx state logged
      obtain ⟨_, after⟩ := path_pending inv₁ active.user pending path between
      obtain ⟨k', returned⟩ := dispatch_of_away inv svc trap
      refine .redirected returned pending after ?_
      cases path with
      | refl => cases executes.1
      | @step h' m₃ a _ path taken =>
          have inv₃ := (path_pending inv₁ active.user pending path fun p member =>
            between p (List.mem_append_left _ member)).1
          exact step_executes inv₃ taken (between (m₃, a) (by simp)) executes

/-! ## Results -/

/-- x0 holds the result of the call: what the dispatcher returned, or what the task was woken with. -/
structure HoldsResult (L : Layout) (cfg : Config) (m : Machine) (t : Slot)
    (stores : List (SandboxAddress × UInt8)) (tf : TrapFrame) (m₁ : Machine)
    (h' : List (Machine × Action)) (m₂ : Machine) (regs : UserTaskCtx) : Prop where
  dispatched : (m₁.kernel.threads t).user.state ≠ .blocked → ∃ k' tf',
    syscallDispatch L cfg (m.kernel.setMem (userStores stores m.kernel.mem)) tf .el0 =
      .ok (k', tf', regs.x 0)
  woken : (m₁.kernel.threads t).user.state = .blocked →
    wakes t m₂.kernel.log = wakes t m.kernel.log ++ [regs.x 0] ∧
      ∃ p ∈ h', WakesWith L cfg tf t p.1 p.2 (regs.x 0)

theorem WaitsAt.other (waits : WaitsAt tf w d) : tf.x 8 ≠ sysYield := by
  cases waits with
  | call asks | write asks | recv asks | wait asks =>
      rw [asks.number]
      decide

theorem ResultOf.other {u : Slot} {tf' : TrapFrame} (result : ResultOf cfg k tf u tf' v) :
    tf.x 8 ≠ sysYield := by
  cases result with
  | delivered asks | copied asks | written asks | reported asks =>
      rw [asks.number]
      decide
  | ownerDied calls =>
      cases calls with
      | call asks | write asks =>
          rw [asks.number]
          decide

theorem run_result_iff (run : (kernelSystem L cfg).Run h m)
    (next : NextExecution L cfg m t stores tf m₁ h' m₂ regs) :
    HoldsResult L cfg m t stores tf m₁ h' m₂ regs ↔ (tf.x 8 = sysYield → tf.x 0 = 0) := by
  have inv := run_inv run
  have running := (next.executes.active (run_inv ((run.step next.trap).extend next.path))).2.running
  cases next.resumed inv with
  | @direct k' x0 same returned awake result other =>
      refine ⟨fun _ yields => absurd yields other, fun _ => ⟨fun _ => ⟨k', tf, ?_⟩, ?_⟩⟩
      · rw [returned, result]
        simp [TrapFrame.after]
      · exact fun blocked => absurd blocked awake
  | redirected dispatched before after loaded =>
      cases after with
      | blocked _ _ _ _ blocked =>
          rw [running] at blocked
          cases blocked
      | @woken v woken ctx _ logged =>
          obtain ⟨p, member, wakes⟩ := woken
          have other : tf.x 8 ≠ sysYield := by
            obtain ⟨_, _, _, _, _, result⟩ := wakes.waker
            exact result.other
          have x0 : regs.x 0 = v := by
            rw [loaded, ctx]
            simp [TrapFrame.after]
          rw [← x0] at logged wakes
          refine ⟨fun _ yields => absurd yields other, fun _ => ⟨fun awake => ?_, fun _ => ?_⟩⟩
          · exfalso
            cases before with
            | blocked _ _ _ _ blocked => exact awake blocked
            | woken woken =>
                obtain ⟨_, impossible, _⟩ := woken
                cases impossible
            | yielded asks => exact other asks.number
          · exact ⟨logged, p, member, wakes⟩
      | yielded asks ctx =>
          have x0 : regs.x 0 = tf.x 0 := by
            rw [loaded, ctx]
            simp [TrapFrame.after]
          have awake : (m₁.kernel.threads t).user.state ≠ .blocked := by
            cases before with
            | blocked waits => exact absurd asks.number waits.other
            | woken _ _ awake | yielded _ _ awake => exact awake.1
          constructor
          · intro holds _
            obtain ⟨k', tf', returned⟩ := holds.dispatched awake
            rw [dispatched, x0] at returned
            simp only [Except.ok.injEq, Prod.mk.injEq] at returned
            exact returned.2.2.symm
          · intro zero
            rw [zero asks.number] at x0
            rw [← x0] at dispatched
            exact ⟨fun _ => ⟨_, _, dispatched⟩, fun blocked => absurd blocked awake⟩

/-! ## A yield -/

def Machine.executing (m : Machine) (t : Slot) : Bool :=
  match m.phase with
  | .el0 _ => m.kernel.current = some t
  | _ => false

theorem Machine.Executes.executing (executes : m.Executes t regs) : m.executing t = true := by
  simp [Machine.executing, executes.1, executes.2]

def yieldTurn : List Action :=
  List.replicate 5 .advance ++ .trap [] (.svc sysYield []) ::
    (List.replicate 5 .advance ++ .trap [] (.svc sysYield []) :: List.replicate 6 .advance)

/-- `task_a` yields with a value in x0 and takes its next turn with the same value. -/
def YieldTurn (x0 : UInt64) : Prop :=
  ∃ (m : Machine) (regs₀ : UserTaskCtx) (m₁ : Machine) (h' : List (Machine × Action))
    (m₂ : Machine) (regs : UserTaskCtx),
    runFromBoot .sample .sample (List.replicate 4 .advance) = some m ∧ m.phase = .el0 regs₀ ∧
      m.kernel.current = some slotTaskA ∧
        m.step .sample .sample (.trap [] (.svc sysYield [x0])) = some m₁ ∧
          trace (Machine.step .sample .sample) m₁ yieldTurn = some (h', m₂) ∧
            (h'.all fun p => !p.1.executing slotTaskA) = true ∧ m₂.phase = .el0 regs ∧
              m₂.kernel.current = some slotTaskA ∧
                (m₁.kernel.threads slotTaskA).user.state = .runnable ∧ regs.x 0 = x0 ∧
                  (syscallDispatch .sample .sample (m.kernel.setMem (userStores [] m.kernel.mem))
                    (.svc sysYield [x0]) .el0).toOption.map (fun r => r.2.2) = some 0

theorem YieldTurn.run (turn : YieldTurn x0) : ∃ h m m₁ h' m₂ regs,
    (kernelSystem .sample .sample).Run h m ∧
      NextExecution .sample .sample m slotTaskA [] (.svc sysYield [x0]) m₁ h' m₂ regs ∧
        (m₁.kernel.threads slotTaskA).user.state = .runnable ∧ regs.x 0 = x0 ∧
          (syscallDispatch .sample .sample (m.kernel.setMem (userStores [] m.kernel.mem))
            (.svc sysYield [x0]) .el0).toOption.map (fun r => r.2.2) = some 0 := by
  obtain ⟨m, regs₀, m₁, h', m₂, regs, ran, phase, current, step, traced, silent, phase', current',
    rest⟩ := turn
  obtain ⟨h, run, _⟩ := runFromBoot_run ran
  have number : sysYield ≠ sysExit := by decide
  have svc : ((0x54000000 : UInt64) >>> 26) &&& 0x3F = 0x15 := by decide
  refine ⟨h, m, m₁, h', m₂, regs, run, ⟨⟨regs₀, phase, current⟩, svc, number, step, ?_, ?_,
    phase', current'⟩, rest⟩
  · exact path_of_trace (fun _ _ _ taken => taken) traced
  · intro p member regs executes
    have here := List.all_eq_true.mp silent p member
    simp [executes.executing] at here

theorem yieldTurn_zero : YieldTurn 0 :=
  ⟨_, _, _, _, _, _, rfl, rfl, rfl, rfl, rfl, rfl, rfl, rfl, rfl, rfl, rfl⟩

theorem yieldTurn_five : YieldTurn 5 :=
  ⟨_, _, _, _, _, _, rfl, rfl, rfl, rfl, rfl, rfl, rfl, rfl, rfl, rfl, rfl⟩

theorem run_result_iff_yield : ∃ m m₁ h' m₂ regs, HoldsResult .sample .sample m slotTaskA []
    (.svc sysYield [0]) m₁ h' m₂ regs := by
  obtain ⟨h, m, m₁, h', m₂, regs, run, next, _⟩ := yieldTurn_zero.run
  exact ⟨m, m₁, h', m₂, regs, (run_result_iff run next).mpr fun _ => rfl⟩

/-- `task_a` yields with 5 in x0, and executes again with 5 in x0. -/
theorem yield_result_lost : ¬ ∀ (L : Layout) (cfg : Config) (h : List (Machine × Action))
    (m : Machine) (t : Slot) (stores : List (SandboxAddress × UInt8)) (tf : TrapFrame) (m₁ : Machine)
    (h' : List (Machine × Action)) (m₂ : Machine) (regs : UserTaskCtx), (kernelSystem L cfg).Run h m →
      NextExecution L cfg m t stores tf m₁ h' m₂ regs →
        HoldsResult L cfg m t stores tf m₁ h' m₂ regs := by
  intro claim
  obtain ⟨h, m, m₁, h', m₂, regs, run, next, awake, x0, result⟩ := yieldTurn_five.run
  obtain ⟨k', tf', dispatched⟩ :=
    (claim _ _ h m _ _ _ m₁ h' m₂ regs run next).dispatched (by rw [awake]; nofun)
  rw [dispatched, x0] at result
  cases result

end ProtoOs
