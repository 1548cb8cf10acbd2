import ProtoOs.Proof.DeathCleanup
import ProtoOs.Proof.Protocol
import ProtoOs.Proof.Slots

namespace ProtoOs

open Transition.System

variable {L : Layout} {cfg : Config} {k k₁ : Kernel} {m m' : Machine} {s t : Slot} {e : EpId}
  {a : Action} {tf : TrapFrame} {o : Outcome} {d : Send} {reason : TaskReturnReason}
  {stores : List (SandboxAddress × UInt8)} {h : List (Machine × Action)}

/-! ## Answers -/

/-- The owner of the endpoint is another task, which lives or can be restarted. -/
def Answerable (k : Kernel) (e : EpId) (s : Slot) : Prop :=
  ∃ o : Slot, (k.endpoints e).ownerSlot = o.u32 ∧ o ≠ s ∧
    ((k.threads o).user.state = .dead → o = slotTaskB ∧ (k.threads slotTaskC).user.state ≠ .dead)

/-- A reply can come to every blocked caller. -/
def NoOrphans (k : Kernel) : Prop :=
  ∀ e s, (k.endpoints e).blockedCallerSlot = s.i32 → Answerable k e s

/-- A call that nobody can answer returns -1. -/
def RejectsVain (L : Layout) (cfg : Config) (m : Machine) (a : Action) : Prop :=
  ∀ stores tf t e d m', a = .trap stores tf → m.kernel.current = some t → Sends cfg t tf e d →
    ¬ Answerable m.kernel e t → m.step L cfg a = some m' →
      m' = ⟨m.trapped stores, .el0 (tf.after minusOne)⟩

/-- The two ways to leave a caller without an answer. -/
inductive Strands (cfg : Config) (k : Kernel) (t : Slot) (tf : TrapFrame) : Prop
  | call {e : EpId} {d : Send} (sends : Sends cfg t tf e d) (accepts : Accepts k e d)
      (vain : ¬ Answerable k e t)
  | supervisor {e : EpId} (self : t = slotTaskC) (dies : tf.Dies) (inside : InSandbox tf.elr)
      (owner : (k.endpoints e).ownerSlot = slotTaskB.u32)
      (dead : (k.threads slotTaskB).user.state = .dead)
      (waiting : (k.endpoints e).blockedCallerSlot ≠ slotNone)

/-! ## Callers -/

theorem Effect.caller (effect : Effect cfg k t tf k₁ o)
    (waits : (k₁.endpoints e).blockedCallerSlot = s.i32) :
    (k.endpoints e).blockedCallerSlot = s.i32 ∨ s = t ∧ ∃ d, Sends cfg t tf e d ∧ Accepts k e d := by
  have elsewhere {u : EpId} (on : OnEndpoint k k₁ u) (other : e ≠ u) :
      (k.endpoints e).blockedCallerSlot = s.i32 := by
    rw [← on.elsewhere e other]
    exact waits
  cases effect with
  | refused | ticks | write | yield | exit | fault | report | await | restart => exact .inl waits
  | @park u d sends accepts =>
      by_cases here : e = u
      · subst here
        have same : t = s := by simpa [Kernel.parkRequest, Kernel.registerCaller] using waits
        exact .inr ⟨same.symm, d, sends, accepts⟩
      · exact .inl (elsewhere parkRequest_on here)
  | @handOver u d _ sends accepts =>
      by_cases here : e = u
      · subst here
        have same : t = s := by simpa [Kernel.handOver, Kernel.registerCaller] using waits
        exact .inr ⟨same.symm, d, sends, accepts⟩
      · exact .inl (elsewhere handOver_on here)
  | @take u =>
      by_cases here : e = u
      · subst here
        exact .inl (by simpa [Kernel.takePending] using waits)
      · exact .inl (elsewhere takePending_on here)
  | @listen u =>
      by_cases here : e = u
      · subst here
        exact .inl (by simpa [Kernel.listen] using waits)
      · exact .inl (elsewhere listen_on here)
  | @answer u =>
      by_cases here : e = u
      · subst here
        simp [Kernel.answer] at waits
      · exact .inl (elsewhere answer_on here)

theorem Aborts.others (aborts : Aborts t k k₁) (other : (k₁.endpoints e).ownerSlot ≠ t.u32) :
    k₁.endpoints e = k.endpoints e := by
  induction aborts with
  | refl => rfl
  | @abort k' u s _ owner _ _ ih =>
      by_cases here : e = u
      · subst here
        exact absurd (by simpa [Kernel.abortCaller] using owner) other
      · have same : (k'.abortCaller u s).endpoints e = k'.endpoints e := abortCaller_on.elsewhere e here
        rw [same] at other ⊢
        exact ih other

theorem Left.caller (left : Left k t reason k₁) : k₁.endpoints e = k.endpoints e ∨
    (k₁.endpoints e).ownerSlot = t.u32 ∧ (k₁.endpoints e).blockedCallerSlot = slotNone := by
  cases left with
  | yield | block => exact .inl rfl
  | @death k' _ _ _ _ aborts settled noted =>
      rw [noted.endpoints]
      by_cases own : (k'.endpoints e).ownerSlot = t.u32
      · exact .inr ⟨own, settled e own⟩
      · exact .inl (aborts.others own)

/-! ## The step of the machine -/

theorem step_owner (inv : Inv L cfg m) (step : m.step L cfg a = some m') (e : EpId) :
    (m'.kernel.endpoints e).ownerSlot = (m.kernel.endpoints e).ownerSlot := by
  have owned := (inv.kernelOk (Machine.step_calm step)).owners e
  have trapped {stores : List (SandboxAddress × UInt8)} {tf : TrapFrame} {t : Slot} {k₁ : Kernel}
      {o : Outcome} (active : Active m.kernel t) (effect : Effect cfg (m.trapped stores) t tf k₁ o) :
      (k₁.endpoints e).ownerSlot = (m.kernel.endpoints e).ownerSlot := by
    have ok := (inv.kernelOk (Machine.step_calm step)).setMem (userStores stores m.kernel.mem)
    exact ((effect.keeps ok (active.congr rfl rfl rfl)).1.owners e).trans owned.symm
  cases (step_cases inv step).1 with
  | quiet _ quiet => rw [quiet.endpoints]
  | back _ active _ effect | outside _ active _ effect => exact trapped active effect
  | away =>
      have ok := (step_cases inv step).2.kernelOk (by nofun)
      exact (ok.owners e).trans owned.symm

theorem step_caller (inv : Inv L cfg m) (step : m.step L cfg a = some m')
    (waits : (m'.kernel.endpoints e).blockedCallerSlot = s.i32) :
    (m.kernel.endpoints e).blockedCallerSlot = s.i32 ∨
      ∃ stores tf d, a = .trap stores tf ∧ m.kernel.current = some s ∧ Sends cfg s tf e d ∧
        Accepts (m.trapped stores) e d := by
  have trapped {stores : List (SandboxAddress × UInt8)} {tf : TrapFrame} {t : Slot} {k₁ : Kernel}
      {o : Outcome} (active : Active m.kernel t) (effect : Effect cfg (m.trapped stores) t tf k₁ o)
      (waits : (k₁.endpoints e).blockedCallerSlot = s.i32) :
      (m.kernel.endpoints e).blockedCallerSlot = s.i32 ∨
        ∃ stores' tf' d, Action.trap stores tf = .trap stores' tf' ∧ m.kernel.current = some s ∧
          Sends cfg s tf' e d ∧ Accepts (m.trapped stores') e d := by
    rcases effect.caller waits with before | ⟨rfl, d, sends, accepts⟩
    · exact .inl before
    · exact .inr ⟨stores, tf, d, rfl, active.current, sends, accepts⟩
  cases (step_cases inv step).1 with
  | quiet _ quiet =>
      rw [quiet.endpoints] at waits
      exact .inl waits
  | back _ active _ effect => exact trapped active effect waits
  | outside _ active _ effect => exact trapped active effect waits
  | away _ active _ effect _ left =>
      apply trapped active effect
      rcases left.caller (e := e) with same | ⟨_, free⟩
      · exact (congrArg Endpoint.blockedCallerSlot same).symm.trans waits
      · exact absurd (free.symm.trans waits) (Slot.none_ne_i32 s)

inductive DiesIn (m : Machine) (t : Slot) (m' : Machine) : Action → Prop
  | mk {stores : List (SandboxAddress × UInt8)} {tf : TrapFrame}
      (current : m.kernel.current = some t) (dies : tf.Dies) (inside : InSandbox tf.elr)
      (dead : m'.kernel.Dead t) : DiesIn m t m' (.trap stores tf)

theorem DiesIn.diesAt (dies : DiesIn m t m' a) (step : m.step L cfg a = some m') :
    DiesAt L cfg m a t := by
  cases dies with
  | mk current dies _ dead => exact ⟨current, ⟨_, _, rfl, dies⟩, m', step, dead⟩

theorem step_gone (inv : Inv L cfg m) (step : m.step L cfg a = some m')
    (gone : (m'.kernel.threads s).user.state = .dead) :
    (m.kernel.threads s).user.state = .dead ∨ DiesIn m s m' a := by
  have trapped {stores : List (SandboxAddress × UInt8)} {tf : TrapFrame} {t : Slot} {k₁ : Kernel}
      {o : Outcome} (effect : Effect cfg (m.trapped stores) t tf k₁ o)
      (gone : (k₁.threads s).user.state = .dead) : (m.kernel.threads s).user.state = .dead := by
    have same := (effect.roused s).state_of (by decide) gone
    exact (congrArg UserTask.state same).symm.trans gone
  cases (step_cases inv step).1 with
  | quiet untrapped => exact .inl (((quiet_moves inv untrapped step).users.dead s).mp gone)
  | back _ _ _ effect => exact .inl (trapped effect gone)
  | outside _ _ _ effect => exact .inl (trapped effect gone)
  | @away stores tf t _ k₁ k₂ reason phase active _ effect inside left =>
      by_cases other : s = t
      · subst other
        by_cases dies : reason = .exit ∨ reason = .fault
        · have ok := (inv.active phase).1.setMem (userStores stores m.kernel.mem)
          obtain ⟨ok₁, active₁⟩ := effect.saved ok (active.congr rfl rfl rfl) inside
          obtain ⟨task, thread⟩ := left.dead dies ok₁ active₁
          exact .inr (.mk active.current (effect.dies dies) inside ⟨task, thread⟩)
        · rw [left.lives dies] at gone
          split_ifs at gone with voluntary
          · simp at gone
          · simp at gone
      · have same := (left.roused other).state_of (by decide) gone
        have kept : ((k₁.saveFrame t tf reason).threads s).user = (k₁.threads s).user := by
          simp [other]
        refine .inl (trapped effect ?_)
        rw [← kept, ← same]
        exact gone

theorem step_lasts (inv : Inv L cfg m) (step : m.step L cfg a = some m') (user : s ≠ slotIdle)
    (other : ∀ stores tf, a = .trap stores tf → ¬ Asks tf sysTaskRestart)
    (gone : (m.kernel.threads s).user.state = .dead) :
    (m'.kernel.threads s).user.state = .dead := by
  have dead : m.kernel.Dead s := ⟨gone, inv.stopped (Machine.step_calm step) user gone⟩
  rcases step_dead inv user dead step with ⟨dead', _⟩ | ⟨_, restarts⟩
  · exact dead'.task
  · obtain ⟨stores, tf, _, trap, _, asks, _⟩ := restarts
    exact absurd asks (other stores tf trap)

theorem KernelOk.owner_user (ok : KernelOk L cfg k none) (owner : (k.endpoints e).ownerSlot = s.u32) :
    s ≠ slotIdle := by
  rintro rfl
  rw [ok.owners e, initialOwner] at owner
  split_ifs at owner
  · exact absurd owner (by decide)
  · exact absurd owner (by decide)
  · exact absurd owner (by decide)

theorem Sends.not_asks {nr : UInt64} (sends : Sends cfg t tf e d) (call : nr ≠ sysIpcCall)
    (write : nr ≠ sysWrite) : ¬ Asks tf nr := by
  intro asks
  cases sends with
  | call asks' => exact call (asks.unique asks')
  | route asks' => exact write (asks.unique asks')

theorem Effect.of_dies (effect : Effect cfg k t tf k₁ o) (dies : tf.Dies) :
    ∃ reason, o = .away reason ∧ (reason = .exit ∨ reason = .fault) ∧ k₁.endpoints = k.endpoints := by
  cases effect with
  | exit => exact ⟨.exit, rfl, .inl rfl, rfl⟩
  | fault => exact ⟨.fault, rfl, .inr rfl, rfl⟩
  | refused refuses =>
      cases refuses with
      | write asks | call asks | recv asks | reply asks | wait asks | restart asks =>
          exact absurd asks (dies.not_asks (by decide))
      | unknown svc unlisted =>
          rcases dies with fault | exits
          · exact absurd svc fault
          · simp [exits.number] at unlisted
  | ticks asks | write asks | yield asks | take asks | listen asks | answer asks | report asks
  | await asks | restart asks => exact absurd asks (dies.not_asks (by decide))
  | park sends | handOver sends => exact absurd dies sends.lives

theorem step_fatal (inv : Inv L cfg m) (step : m.step L cfg (.trap stores tf) = some m')
    (current : m.kernel.current = some t) (dies : tf.Dies) (inside : InSandbox tf.elr) :
    (m'.kernel.threads t).user.state = .dead ∧
      ∀ e, (m'.kernel.endpoints e).ownerSlot ≠ t.u32 →
        m'.kernel.endpoints e = m.kernel.endpoints e := by
  cases (step_cases inv step).1 with
  | quiet untrapped => exact absurd rfl (untrapped stores tf)
  | back _ _ _ effect =>
      obtain ⟨_, away, _⟩ := effect.of_dies dies
      cases away
  | outside _ _ _ _ outside => exact absurd inside outside
  | @away _ _ u _ k₁ k₂ _ phase active _ effect _ left =>
      obtain rfl := Option.some_inj.mp (active.current.symm.trans current)
      obtain ⟨reason, away, fatal, kept⟩ := effect.of_dies dies
      cases away
      have ok := (inv.active phase).1.setMem (userStores stores m.kernel.mem)
      obtain ⟨ok₁, active₁⟩ := effect.saved ok (active.congr rfl rfl rfl) inside
      refine ⟨(left.dead fatal ok₁ active₁).1, fun e other => ?_⟩
      rcases left.caller (e := e) with same | ⟨owner, _⟩
      · exact same.trans (congrFun kept e)
      · exact absurd owner other

theorem Answerable.step (answerable : Answerable m.kernel e s) (inv : Inv L cfg m)
    (step : m.step L cfg a = some m')
    (owner : ∀ o, (m.kernel.endpoints e).ownerSlot = o.u32 → ¬ DiesIn m o m' a)
    (supervisor : (m.kernel.endpoints e).ownerSlot = slotTaskB.u32 →
      (m.kernel.threads slotTaskB).user.state = .dead → ¬ DiesIn m slotTaskC m' a) :
    Answerable m'.kernel e s := by
  obtain ⟨o, own, other, lives⟩ := answerable
  refine ⟨o, (step_owner inv step e).trans own, other, fun gone => ?_⟩
  rcases step_gone inv step gone with before | dies
  · obtain ⟨rfl, alive⟩ := lives before
    refine ⟨rfl, fun gone' => ?_⟩
    rcases step_gone inv step gone' with before' | dies
    · exact alive before'
    · exact supervisor own before dies
  · exact absurd dies (owner o own)

theorem Answerable.before (answerable : Answerable m'.kernel e s) (inv : Inv L cfg m)
    (step : m.step L cfg a = some m')
    (other : ∀ stores tf, a = .trap stores tf → ¬ Asks tf sysTaskRestart) :
    Answerable m.kernel e s := by
  obtain ⟨o, own, apart, lives⟩ := answerable
  have owner := (step_owner inv step e).symm.trans own
  have user := (inv.kernelOk (Machine.step_calm step)).owner_user owner
  refine ⟨o, owner, apart, fun gone => ?_⟩
  obtain ⟨rfl, alive⟩ := lives (step_lasts inv step user other gone)
  exact ⟨rfl, fun gone' => alive (step_lasts inv step (by decide) other gone')⟩

/-! ## Steps that strand nobody -/

theorem strands_orphan (inv : Inv L cfg m) (step : m.step L cfg a = some m')
    (strands : m.Traps (Strands cfg) a) : ¬ NoOrphans m'.kernel := by
  cases a with
  | tick | advance => exact strands.elim
  | trap stores tf =>
      obtain ⟨u, current, strands⟩ := strands
      obtain ⟨t, k₁, o, taken⟩ := trap_taken inv step
      obtain rfl := Option.some_inj.mp (current.symm.trans taken.active.current)
      intro after
      cases strands with
      | @call e d sends accepts vain =>
          have waits : (m'.kernel.endpoints e).blockedCallerSlot = u.i32 := by
            cases taken.effect.of_sends sends with
            | refused no => exact absurd accepts no
            | park =>
                rw [taken.endpoints (by simp)]
                simp [Kernel.parkRequest, Kernel.registerCaller]
            | handOver =>
                rw [taken.endpoints (by simp)]
                simp [Kernel.handOver, Kernel.registerCaller]
          apply vain
          refine (after e u waits).before inv step ?_
          rintro _ _ ⟨⟩ restarts
          exact sends.not_asks (by decide) (by decide) restarts
      | @supervisor e self dies inside owner dead waiting =>
          subst self
          obtain ⟨gone, kept⟩ := step_fatal inv step current dies inside
          have owner' := (step_owner inv step e).trans owner
          have same := kept e (by rw [owner']; decide)
          obtain ⟨s, waits⟩ : ∃ s : Slot, (m.kernel.endpoints e).blockedCallerSlot = s.i32 := by
            rcases taken.ok.waits.valid (.caller e) with vacant | ⟨s, _, waits⟩
            · exact absurd vacant waiting
            · exact ⟨s, waits⟩
          obtain ⟨o, own, _, lives⟩ := after e s (by rw [same]; exact waits)
          obtain rfl := Slot.u32_inj.mp (own.symm.trans owner')
          refine (lives (step_lasts inv step (by decide) ?_ dead)).2 gone
          rintro _ _ ⟨⟩ restarts
          exact dies.not_asks (by decide) restarts

theorem step_noOrphans (inv : Inv L cfg m) (before : NoOrphans m.kernel)
    (step : m.step L cfg a = some m') (fine : ¬ m.Traps (Strands cfg) a) : NoOrphans m'.kernel := by
  intro e s waits
  rcases step_caller inv step waits with old | ⟨stores, tf, d, rfl, current, sends, accepts⟩
  · apply (before e s old).step inv step
    · intro o own dies
      obtain ⟨_, _, emptied⟩ := (dies.diesAt step).endpoints inv step
      have free := (emptied e ((step_owner inv step e).trans own)).1
      exact absurd (free.symm.trans waits) (Slot.none_ne_i32 s)
    · intro own gone dies
      cases dies with
      | mk current dies inside =>
          refine fine ⟨slotTaskC, current, .supervisor rfl dies inside own gone ?_⟩
          exact fun free => absurd (free.symm.trans old) (Slot.none_ne_i32 s)
  · have answerable : Answerable m.kernel e s := by
      by_contra vain
      exact fine ⟨s, current, .call sends accepts vain⟩
    apply answerable.step inv step
    · rintro o _ (⟨_, dies, _, _⟩)
      exact sends.lives dies
    · rintro _ _ (⟨_, dies, _, _⟩)
      exact sends.lives dies

theorem step_rejects (inv : Inv L cfg m) (fine : ¬ m.Traps (Strands cfg) a) :
    RejectsVain L cfg m a := by
  rintro stores tf t e d m' rfl current sends vain step
  obtain ⟨u, k₁, o, taken⟩ := trap_taken inv step
  obtain rfl := Option.some_inj.mp (current.symm.trans taken.active.current)
  cases taken.effect.of_sends sends with
  | refused => exact taken.back _ rfl
  | park accepts => exact absurd ⟨t, current, .call sends accepts vain⟩ fine
  | handOver accepts => exact absurd ⟨t, current, .call sends accepts vain⟩ fine

/-- No caller of a run is stranded exactly where no accepted call lacks an owner that can answer it
and the supervisor does not die while a caller waits for the dead `task_b`. -/
theorem run_noOrphans_iff (run : (kernelSystem L cfg).Run h m) :
    ((∀ p ∈ h, NoOrphans p.1.kernel ∧ RejectsVain L cfg p.1 p.2) ∧ NoOrphans m.kernel) ↔
      ∀ p ∈ h, ¬ p.1.Traps (Strands cfg) p.2 := by
  have states : ((∀ p ∈ h, NoOrphans p.1.kernel) ∧ NoOrphans m.kernel) ↔
      ∀ p ∈ h, ¬ p.1.Traps (Strands cfg) p.2 := by
    apply run.good_iff (Inv L cfg) (fun m => NoOrphans m.kernel) (fun m a => m.Traps (Strands cfg) a)
    · rintro m ⟨mem, booted⟩
      refine ⟨(boot_booted booted).inv, fun e s waits => ?_⟩
      rw [(boot_booted booted).endpoints e] at waits
      exact absurd waits (Slot.none_ne_i32 s)
    · exact fun m a m' inv step => (step_cases inv step).2
    · intro m a m' inv before step
      constructor
      · exact fun after strands => strands_orphan inv step strands after
      · exact step_noOrphans inv before step
  constructor
  · rintro ⟨earlier, now⟩
    exact states.mp ⟨fun p member => (earlier p member).1, now⟩
  · intro fine
    obtain ⟨earlier, now⟩ := states.mpr fine
    refine ⟨fun p member => ⟨earlier p member, ?_⟩, now⟩
    obtain ⟨_, run'⟩ := run.reachable_of_mem member
    exact step_rejects (run_inv run') (fine p member)

def callUart : TrapFrame := .svc sysIpcCall [1, el0SandboxBase, 4, el0SandboxBase, 4]

theorem run_noOrphans_iff_call : ∃ h m, (kernelSystem .sample .sample).Run h m ∧
    (m.kernel.endpoints epUart).blockedCallerSlot = slotTaskA.i32 ∧
      (∀ p ∈ h, NoOrphans p.1.kernel ∧ RejectsVain .sample .sample p.1 p.2) ∧
        NoOrphans m.kernel := by
  obtain ⟨m, m', ran, current, owner, ready, step, waits⟩ : ∃ m m' : Machine,
      runFromBoot .sample .sample (List.replicate 4 .advance) = some m ∧
        m.kernel.current = some slotTaskA ∧
          (m.kernel.endpoints epUart).ownerSlot = slotTaskB.u32 ∧
            (m.kernel.threads slotTaskB).user.state = .runnable ∧
              m.step .sample .sample (.trap [] callUart) = some m' ∧
                (m'.kernel.endpoints epUart).blockedCallerSlot = slotTaskA.i32 :=
    ⟨_, _, rfl, rfl, rfl, rfl, rfl, rfl⟩
  obtain ⟨h, run, members⟩ := runFromBoot_run ran
  refine ⟨_, m', run.step step, waits, (run_noOrphans_iff (run.step step)).mpr fun p member => ?_⟩
  rcases List.mem_append.mp member with earlier | last
  · rw [List.eq_of_mem_replicate (members p earlier)]
    exact not_false
  · rw [List.mem_singleton.mp last]
    rintro ⟨t, here, strands⟩
    obtain rfl := Option.some_inj.mp (here.symm.trans current)
    cases strands with
    | call sends _ vain =>
        apply vain
        cases sends with
        | call _ found =>
            cases found
            refine ⟨slotTaskB, owner, by decide, fun dead => ?_⟩
            cases dead.symm.trans ready
        | route asks => exact absurd asks.number (by decide)
    | supervisor self => cases self

def callDead : List Action :=
  List.replicate 4 .advance ++ .trap [] (.svc sysYield []) ::
    (List.replicate 5 .advance ++ .trap [] (.svc sysExit []) ::
      (List.replicate 5 .advance ++ .trap [] (.svc sysExit []) ::
        (List.replicate 6 .advance ++ [.trap [] callUart])))

/-- `task_a` waits for a reply that can never come. -/
theorem callDead_orphan : ¬ ∀ (L : Layout) (cfg : Config) (h : List (Machine × Action)) (m : Machine),
    (kernelSystem L cfg).Run h m → NoOrphans m.kernel := by
  intro claim
  obtain ⟨m, ran, owner, waits, dead, supervisor⟩ : ∃ m : Machine,
      runFromBoot .sample .sample callDead = some m ∧
        (m.kernel.endpoints epUart).ownerSlot = slotTaskB.u32 ∧
          (m.kernel.endpoints epUart).blockedCallerSlot = slotTaskA.i32 ∧
            (m.kernel.threads slotTaskB).user.state = .dead ∧
              (m.kernel.threads slotTaskC).user.state = .dead := ⟨_, rfl, rfl, rfl, rfl, rfl⟩
  obtain ⟨h, run, _⟩ := runFromBoot_run ran
  obtain ⟨o, own, _, lives⟩ := claim _ _ h m run epUart slotTaskA waits
  obtain rfl := Slot.u32_inj.mp (own.symm.trans owner)
  exact (lives dead).2 supervisor

end ProtoOs
