import ProtoOs.Proof.Orphans

namespace ProtoOs

open Transition.System

variable {L : Layout} {cfg : Config} {k k₁ : Kernel} {m m' : Machine} {s t u : Slot} {a : Action}
  {reason : TaskReturnReason} {h : List (Machine × Action)}

structure Released (k k₁ : Kernel) (u : Slot) (v : UInt64) : Prop where
  thread : k₁.threads u = (k.threads u).wake v
  logged : wakes u k₁.log = wakes u k.log ++ [v]
  waits : ∀ w, k₁.waiter w ≠ u.i32

inductive AfterDeath (k k₁ : Kernel) (s u : Slot) : Prop
  | caller {e : EpId} (waited : (k.endpoints e).blockedCallerSlot = u.i32)
      (owner : (k.endpoints e).ownerSlot = s.u32) (released : Released k k₁ u minusOne)
  | supervisor (waited : k.blockedSupervisorSlot = u.i32)
      (released : Released k k₁ u s.u32.toUInt64)
  | bystander (caller : ∀ e, (k.endpoints e).ownerSlot = s.u32 →
        (k.endpoints e).blockedCallerSlot ≠ u.i32)
      (supervisor : k.blockedSupervisorSlot ≠ u.i32) (spared : Spared k k₁ u)

structure DeathTouches (k k₁ : Kernel) (s : Slot) : Prop where
  others : ∀ u, u ≠ s → u ≠ slotIdle → AfterDeath k k₁ s u
  self : wakes s k₁.log = wakes s k.log
  endpoints : ∀ e, (k.endpoints e).ownerSlot ≠ s.u32 → k₁.endpoints e = k.endpoints e
  owners : ∀ e, (k₁.endpoints e).ownerSlot = (k.endpoints e).ownerSlot

/-! ## The return step -/

theorem Noted.heard (noted : Noted t k k₁) : k₁.blockedSupervisorSlot = slotNone := by
  cases noted with
  | woke => rfl
  | kept absent => exact absent
  | overwrote absent => exact absent

theorem Left.heard (left : Left k t reason k₁) (dies : reason = .exit ∨ reason = .fault) :
    k₁.blockedSupervisorSlot = slotNone := by
  cases left with
  | yield voluntary => simp [voluntary] at dies
  | block blocks => rcases blocks with rfl | rfl <;> simp at dies
  | death _ _ _ _ _ noted => exact noted.heard

theorem Left.unwoken (left : Left k t reason k₁) (dies : reason = .exit ∨ reason = .fault)
    (ok : KernelOk L cfg k (if reason = .ipcBlock ∨ reason = .notifyBlock then some t else none))
    (active : Active k t) : wakes t k₁.log = wakes t k.log := by
  cases left with
  | yield => rfl
  | block => rfl
  | @death k' _ _ _ _ aborts _ noted =>
      obtain ⟨dying, leaving⟩ := active.dies dies ok
      have unrecorded (w : WaitPlace) : ((k.emit (exitPrint k t reason)).dying t).waiter w ≠ t.i32 := by
        intro recorded
        have blocked := (dying.recorded recorded).2
        simp [Kernel.dying] at blocked
      have aborted : Touched _ k' t fun _ _ => True := aborts.touched dying leaving fun _ _ => trivial
      have told : Touched k' k₁ t fun _ _ => True := noted.touched trivial
      have recorded (w : WaitPlace) (at_ : k'.waiter w = t.i32) := ((aborts.keeps dying leaving).1.recorded at_).2
      have logged : wakes t ((k.emit (exitPrint k t reason)).dying t).log = wakes t k.log := by
        simp [Kernel.dying, wakes]
      cases aborted.trans told recorded with
      | spared spared => exact spared.logged.trans logged
      | woken _ woken => exact absurd woken.place (unrecorded _)

/-! ## The step of the machine -/

theorem run_death_touches (run : (kernelSystem L cfg).Run h m) (dies : DiesAt L cfg m a s)
    (step : m.step L cfg a = some m') : DeathTouches m.kernel m'.kernel s := by
  have inv := run_inv run
  obtain ⟨ok', _, left'⟩ := dies.endpoints inv step
  obtain ⟨current, ⟨stores, tf, rfl, fatal⟩, m₁, step₁, dead⟩ := dies
  obtain rfl := Option.some_inj.mp (step.symm.trans step₁)
  obtain ⟨regs, phase, _⟩ := Machine.step_trap step
  obtain ⟨_, _, same, _, k₁, k₂, reason, effect, dying, inside, left, rfl⟩ :=
    inv.dies_cases phase current step dead
  cases same
  obtain ⟨ok, t, active⟩ := inv.active phase
  obtain rfl := Option.some_inj.mp (active.current.symm.trans current)
  have okStored := ok.setMem (userStores stores m.kernel.mem)
  have stored : Active (m.kernel.setMem (userStores stores m.kernel.mem)) t := active.congr rfl rfl rfl
  have owners := step_owner inv step
  refine ⟨fun u other user => ?_, ?_, fun e other => ?_, owners⟩
  · have released {w : WaitPlace} {v : UInt64}
        (woken : Woken (m.kernel.setMem (userStores stores m.kernel.mem)) (k₂.setResched false) u w v) :
        Released m.kernel (k₂.setResched false) u v := by
      refine ⟨woken.thread, woken.logged, fun w named => ?_⟩
      have blocked := (ok'.recorded named).2
      rw [woken.thread] at blocked
      cases blocked
    rcases trap_touched inv step current (Ne.symm other) with touched | ⟨_, restarts⟩
    · cases touched with
      | spared spared =>
          refine .bystander (fun e owner waits => ?_) (fun waits => ?_)
            ⟨spared.thread, spared.logged, spared.waits, spared.stored⟩
          · have waits' := (spared.waits (.caller e)).mpr waits
            have free := (left' e ((owners e).trans owner)).1
            exact absurd (free.symm.trans waits') (Slot.none_ne_i32 u)
          · have waits' := (spared.waits .supervisor).mpr waits
            exact absurd ((left.heard dying).symm.trans waits') (Slot.none_ne_i32 u)
      | woken value woken =>
          cases value with
          | delivered sends => exact absurd fatal sends.lives
          | replied replies => exact absurd replies.asks (fatal.not_asks (by decide))
          | ownerDied _ owner => exact .caller woken.place owner (released woken)
          | notified => exact .supervisor woken.place (released woken)
    · exact absurd restarts.asks (fatal.not_asks (by decide))
  · obtain ⟨okSaved, activeSaved⟩ := effect.saved okStored stored inside
    have unchanged : k₁.log = m.kernel.log := by
      cases effect with
      | exit | fault => rfl
      | yield | park | handOver | listen | await => simp at dying
    calc wakes t k₂.log = wakes t k₁.log := left.unwoken dying okSaved activeSaved
      _ = wakes t m.kernel.log := by rw [unchanged]
  · exact (step_fatal inv step current fatal inside).2 e (by rw [owners e]; exact other)

/-- `task_a` calls the UART server, `task_b` yields, `task_c` waits for a death, and `task_b`
exits. -/
def awaitedDeath : List Action :=
  List.replicate 4 .advance ++ .trap [] callUart ::
    (List.replicate 5 .advance ++ .trap [] (.svc sysYield []) ::
      (List.replicate 5 .advance ++ .trap [] (.svc sysSuperviseWait []) :: List.replicate 6 .advance))

theorem run_death_touches_exit : ∃ m m' : Machine,
    m.step .sample .sample (.trap [] (.svc sysExit [])) = some m' ∧
      DeathTouches m.kernel m'.kernel slotTaskB ∧ wakes slotTaskA m'.kernel.log = [minusOne] ∧
        wakes slotTaskC m'.kernel.log = [slotTaskB.u32.toUInt64] := by
  obtain ⟨m, m', ran, current, step, task, thread, caller, supervisor⟩ : ∃ m m' : Machine,
      runFromBoot .sample .sample awaitedDeath = some m ∧ m.kernel.current = some slotTaskB ∧
        m.step .sample .sample (.trap [] (.svc sysExit [])) = some m' ∧
          (m'.kernel.threads slotTaskB).user.state = .dead ∧
            (m'.kernel.threads slotTaskB).state = .stopped ∧
              wakes slotTaskA m'.kernel.log = [minusOne] ∧
                wakes slotTaskC m'.kernel.log = [slotTaskB.u32.toUInt64] :=
    ⟨_, _, rfl, rfl, rfl, rfl, rfl, rfl, rfl⟩
  obtain ⟨h, run, _⟩ := runFromBoot_run ran
  have exits : Asks (.svc sysExit []) sysExit := ⟨by decide, rfl⟩
  have dies : DiesAt .sample .sample m (.trap [] (.svc sysExit [])) slotTaskB :=
    ⟨current, ⟨[], _, rfl, .inr exits⟩, m', step, task, thread⟩
  exact ⟨m, m', step, run_death_touches run dies step, caller, supervisor⟩

end ProtoOs
