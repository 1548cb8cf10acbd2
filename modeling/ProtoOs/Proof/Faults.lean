import ProtoOs.Proof.Control

/-!
# Panics and faults

Where every trap carries an ELR inside the sandbox no panic is reached. A fault is contained exactly
when its ELR lies inside the sandbox: the redirection of the trap checks it before the task dies.
-/

namespace ProtoOs

open Transition.System

variable {L : Layout} {cfg : Config} {k k₁ : Kernel} {m m' : Machine} {t : Slot} {tf : TrapFrame}
  {stores : List (SandboxAddress × UInt8)} {regs : UserTaskCtx} {h : List (Machine × Action)}

/-! ## Panics -/

def Action.ElrInside : Action → Prop
  | .trap _ tf => InSandbox tf.elr
  | _ => True

theorem step_calm {a : Action} (inv : Inv L cfg m) (calm : ∀ p, m.phase ≠ .panic p)
    (inside : a.ElrInside) (step : m.step L cfg a = some m') (p : Panic) : m'.phase ≠ .panic p := by
  cases (step_cases inv step).1 with
  | quiet _ _ calm' => exact fun panics => calm p (calm' p panics)
  | back => nofun
  | away => nofun
  | outside _ _ _ _ outside => exact absurd inside outside

theorem run_no_panic (run : (kernelSystem L cfg).Run h m) (inside : ∀ p ∈ h, p.2.ElrInside)
    (p : Panic) : m.phase ≠ .panic p := by
  refine (run.invariantWhere (fun m => Inv L cfg m ∧ ∀ p, m.phase ≠ .panic p)
    (fun _ a => a.ElrInside) ?_ ?_ inside).2 p
  · rintro m ⟨mem, booted⟩
    refine ⟨(boot_booted booted).inv, fun p panics => ?_⟩
    rw [(boot_booted booted).phase] at panics
    cases panics
  · rintro m a m' ⟨inv, calm⟩ inside step
    exact ⟨(step_cases inv step).2, step_calm inv calm inside step⟩

theorem run_no_panic_fault : ∃ h m, (kernelSystem .sample .sample).Run h m ∧
    (m.kernel.threads slotTaskA).user.state = .dead ∧
      ∀ p, m.phase ≠ .panic p := by
  let actions : List Action := List.replicate 4 .advance ++
    [.trap [] (.fault 0xF2000000 el0SandboxBase)]
  have inside : ∀ a ∈ actions, a.ElrInside := by
    intro a member
    simp only [actions, List.mem_append, List.mem_replicate, List.mem_singleton] at member
    rcases member with ⟨_, rfl⟩ | rfl
    · trivial
    · exact ⟨by decide, by decide⟩
  obtain ⟨m, ran, dead⟩ : ∃ m, runFromBoot .sample .sample actions = some m ∧
      (m.kernel.threads slotTaskA).user.state = .dead := ⟨_, rfl, rfl⟩
  obtain ⟨h, run, members⟩ := runFromBoot_run ran
  exact ⟨h, m, run, dead, run_no_panic run fun p member => inside p.2 (members p member)⟩

/-! ## Faults -/

/-- The kernel in which the death of a task that faulted is handled. -/
def Kernel.faulted (k : Kernel) (cfg : Config) (t : Slot) (tf : TrapFrame) : Kernel :=
  ((k.emit (faultReport cfg (k.threads t).user.name tf)).saveFrame t tf .fault).dying t

/-- The fault of `t` killed `t`, its death was handled, and control goes on to another thread. -/
structure Contained (L : Layout) (cfg : Config) (k : Kernel) (t : Slot) (tf : TrapFrame)
    (m' : Machine) : Prop where
  dead : (m'.kernel.threads t).user.state = .dead
  stopped : (m'.kernel.threads t).state = .stopped
  handled : ∃ k₁ k₂, ipcHandleTaskDeath (k.faulted cfg t tf) t.u32 = .ok k₁ ∧
    supervisorNoteTaskDeath k₁ t.u32 = .ok k₂ ∧ m'.kernel = k₂.setResched false
  goesOn : ∃ next m'' at_, replay (Machine.step L cfg) m' (List.replicate 3 .advance) = some m'' ∧
    next ≠ t ∧ m''.kernel.current = some next ∧ m''.phase = .cont at_ ∧ at_.belongs next

theorem Leaving.goesOn (ok : KernelOk L cfg k none) (leaving : Leaving k t)
    (unselectable : ¬ threadIsSelectable k (some t)) : ∃ next m' at_,
      replay (Machine.step L cfg) ⟨k, .pick (continuation t)⟩ (List.replicate 3 .advance) = some m' ∧
        next ≠ t ∧ m'.kernel.current = some next ∧ m'.phase = .cont at_ ∧ at_.belongs next := by
  obtain ⟨next, picked, selectable⟩ := pickNextThread_selectable ok leaving
  have different : next ≠ t := by
    rintro rfl
    exact unselectable selectable
  have switches : k.current ≠ some next := by
    rw [leaving.current]
    simpa using different.symm
  have left (p : Slot) (from_ : k.current = some p) : p ≠ next ∧ continuation t = continuation p := by
    cases leaving.current.symm.trans from_
    exact ⟨different.symm, rfl⟩
  obtain ⟨k₁, at_, entered, _, _, returning, belongs⟩ :=
    threadSwitchToEnter_ok (threadSwitchToMark_ok ok) (leaving.returning_mark ok selectable) left
  refine ⟨next, ⟨k₁, .cont at_⟩, at_, ?_, different, returning.current, rfl, belongs⟩
  simp [replay, List.replicate, Machine.step, advance, picked, switches, entered]

theorem contained_of_left {k₂ : Kernel} (ok : KernelOk L cfg k none) (active : Active k t)
    (inside : InSandbox tf.elr)
    (left : Left ((k.emit (faultReport cfg (k.threads t).user.name tf)).saveFrame t tf .fault) t
      .fault k₂) : Contained L cfg k t tf ⟨k₂.setResched false, .pick (.returnStep t)⟩ := by
  have okReported : KernelOk L cfg (k.emit (faultReport cfg (k.threads t).user.name tf)) none :=
    ok.congr rfl (fun _ => rfl) (by rintro (_ | _ | _) <;> rfl) (fun _ _ _ member => member)
  have reported : Active (k.emit (faultReport cfg (k.threads t).user.name tf)) t :=
    active.congr rfl rfl rfl
  have okSaved : KernelOk L cfg (Kernel.saveFrame _ t tf .fault) none := okReported.saveFrame inside
  have saved : Active (Kernel.saveFrame _ t tf .fault) t := reported.saveFrame
  obtain ⟨ok₂, leaving⟩ := left.keeps okSaved saved
  obtain ⟨dead, stopped⟩ := left.dead (.inr rfl) okSaved saved
  cases left with
  | yield voluntary => cases voluntary
  | block blocks =>
      rcases blocks with blocks | blocks
      · cases blocks
      · cases blocks
  | @death k₁ _ _ handled notified aborts _ noted =>
      have silent (k : Kernel) : k.emit (exitPrint k t .fault) = k := by
        simp [exitPrint, Kernel.emit]
      rw [silent] at handled aborts
      have resched := ticks_setResched (k := k₂) false
      have here : continuation t = .returnStep t := by simp [continuation, active.user]
      refine ⟨dead, stopped, ⟨k₁, k₂, handled, notified, rfl⟩, ?_⟩
      rw [← here]
      refine (resched.leaving leaving).goesOn (resched.kernelOk ok₂) ?_
      simp [threadIsSelectable, stopped]

theorem fault_contained_iff (run : (kernelSystem L cfg).Run h m)
    (current : m.kernel.current = some t) (fault : tf.exceptionClass ≠ 0x15)
    (step : m.step L cfg (.trap stores tf) = some m') :
    Contained L cfg (m.kernel.setMem (userStores stores m.kernel.mem)) t tf m' ↔
      InSandbox tf.elr := by
  have inv := run_inv run
  have only {u : Slot} (active : Active m.kernel u) : u = t :=
    Option.some_inj.mp (active.current.symm.trans current)
  cases (step_cases inv step).1 with
  | quiet untrapped => exact absurd rfl (untrapped stores tf)
  | back _ _ _ effect =>
      exfalso
      cases effect with
      | refused refuses => exact fault refuses.svc
      | ticks asks | write asks | take asks | answer asks | report asks | restart asks =>
          exact fault asks.svc
  | away el0 active _ effect inside left =>
      refine ⟨fun _ => inside, fun _ => ?_⟩
      have ok := (inv.active el0).1
      obtain rfl := only active
      cases effect with
      | fault =>
          exact contained_of_left (ok.setMem _) (active.congr rfl rfl rfl) inside left
      | yield asks | exit asks | listen asks | await asks => exact absurd asks.svc fault
      | park sends | handOver sends => exact absurd sends.svc fault
  | outside _ _ _ _ outside =>
      refine ⟨fun contained => ?_, fun inside => absurd inside outside⟩
      obtain ⟨_, _, _, ran, _⟩ := contained.goesOn
      simp [replay, List.replicate, Machine.step, advance] at ran

theorem fault_contained_iff_brk : ∃ m m' : Machine, Contained .sample .sample m.kernel
    slotTaskA (.fault 0xF2000000 el0SandboxBase) m' := by
  obtain ⟨m, ran, current, m', step⟩ : ∃ m : Machine,
      runFromBoot .sample .sample (List.replicate 4 .advance) = some m ∧
        m.kernel.current = some slotTaskA ∧ ∃ m', m.step .sample .sample
          (.trap [] (.fault 0xF2000000 el0SandboxBase)) = some m' :=
    ⟨_, rfl, rfl, _, rfl⟩
  obtain ⟨h, run, _⟩ := runFromBoot_run ran
  exact ⟨m, m', (fault_contained_iff run current (by decide) step).mpr ⟨by decide, by decide⟩⟩

/-- `task_a` branches to address 0: the instruction abort has ELR 0. -/
theorem fault_not_contained : ¬ ∀ (L : Layout) (cfg : Config) (h : List (Machine × Action))
    (m m' : Machine) (t : Slot) (stores : List (SandboxAddress × UInt8)) (tf : TrapFrame),
      (kernelSystem L cfg).Run h m → m.kernel.current = some t → tf.exceptionClass ≠ 0x15 →
        m.step L cfg (.trap stores tf) = some m' →
          Contained L cfg (m.kernel.setMem (userStores stores m.kernel.mem)) t tf m' := by
  intro claim
  have current : (runFromBoot .sample .sample (List.replicate 4 .advance)).map
      (fun m => m.kernel.current) = some (some slotTaskA) := rfl
  have faulted : ((runFromBoot .sample .sample (List.replicate 4 .advance)).bind fun m =>
      m.step .sample .sample (.trap [] (.fault 0x82000000 0))).map Machine.phase =
        some (.panic .trapElrOutsideSandbox) := rfl
  obtain ⟨m', taken, panics⟩ := Option.map_eq_some_iff.mp faulted
  obtain ⟨m, ran, step⟩ := Option.bind_eq_some_iff.mp taken
  obtain ⟨h, run, _⟩ := runFromBoot_run ran
  rw [ran] at current
  have current : m.kernel.current = some slotTaskA := Option.some_inj.mp current
  obtain ⟨_, _, _, ran, _⟩ :=
    (claim _ _ h m m' slotTaskA [] _ run current (by decide) step).goesOn
  simp [replay, List.replicate, Machine.step, advance, panics] at ran

end ProtoOs
