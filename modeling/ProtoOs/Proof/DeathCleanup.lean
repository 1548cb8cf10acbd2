import ProtoOs.Proof.Lifecycle
import ProtoOs.Proof.Requests

namespace ProtoOs

open Transition.System Messaging

variable {L : Layout} {cfg : Config} {k k₁ : Kernel} {m m' : Machine} {t s : Slot} {e : EpId}
  {a : Action} {h : List (Machine × Action)} {reason : TaskReturnReason}

/-- The endpoints of `s` are empty, no endpoint names it, and what its next incarnation receives on
them was sent after the death. -/
structure LeavesEmpty (L : Layout) (cfg : Config) (s : Slot) (m : Machine) : Prop where
  owned : ∀ e, (m.kernel.endpoints e).ownerSlot = s.u32 → (m.kernel.endpoints e).hasPending = false ∧
    (m.kernel.endpoints e).blockedCallerSlot = slotNone ∧
      (m.kernel.endpoints e).blockedReceiverSlot = slotNone
  unnamed : ∀ e, (m.kernel.endpoints e).blockedCallerSlot ≠ s.i32 ∧
    (m.kernel.endpoints e).blockedReceiverSlot ≠ s.i32
  fresh : ∀ h m' new, (kernelSystem L cfg).Path m h m' → m'.kernel.log = m.kernel.log ++ new →
    ∀ r receiver cap n, .delivered r receiver cap n ∈ new →
      (m.kernel.endpoints r.ep).ownerSlot = s.u32 → .accepted r ∈ new

/-- The message of a caller that is no longer blocked. -/
def Abandoned (ep : Endpoint) : Prop := ep.hasPending = true ∧ ep.blockedCallerSlot = slotNone

instance (ep : Endpoint) : Decidable (Abandoned ep) := inferInstanceAs (Decidable (_ ∧ _))

/-! ## The death -/

theorem Aborts.endpoint (aborts : Aborts t k k₁) (e : EpId) : k₁.endpoints e = k.endpoints e ∨
    (k.endpoints e).blockedCallerSlot ≠ slotNone ∧ (k₁.endpoints e).hasPending = false := by
  induction aborts with
  | refl => exact .inl rfl
  | @abort k' u c _ _ waiting _ ih =>
      by_cases here : e = u
      · subst here
        refine .inr ⟨?_, by simp [Kernel.abortCaller]⟩
        rcases ih with same | ⟨caller, _⟩
        · rw [← same, waiting]
          exact (Slot.none_ne_i32 c).symm
        · exact caller
      · have same : (k'.abortCaller u c).endpoints e = k'.endpoints e := abortCaller_on.elsewhere e here
        rw [same]
        exact ih

theorem Left.endpoint (left : Left k t reason k₁) (dead : reason = .exit ∨ reason = .fault)
    (owner : (k₁.endpoints e).ownerSlot = t.u32) : (k₁.endpoints e).blockedCallerSlot = slotNone ∧
      ((k₁.endpoints e).hasPending = true ↔ Abandoned (k.endpoints e)) := by
  cases left with
  | yield voluntary => simp [voluntary] at dead
  | block blocks => rcases blocks with rfl | rfl <;> simp at dead
  | @death k' _ _ _ _ aborts settled noted =>
      rw [noted.endpoints] at owner ⊢
      refine ⟨settled e owner, ?_⟩
      rcases aborts.endpoint e with same | ⟨caller, emptied⟩
      · have vacant := settled e owner
        rw [same] at vacant ⊢
        exact ⟨fun pending => ⟨pending, vacant⟩, fun abandoned => abandoned.1⟩
      · rw [emptied]
        exact ⟨nofun, fun abandoned => absurd abandoned.2 caller⟩

theorem DiesAt.endpoints (inv : Inv L cfg m) (dies : DiesAt L cfg m a s)
    (step : m.step L cfg a = some m') : KernelOk L cfg m'.kernel none ∧ m'.kernel.Dead s ∧
      ∀ e, (m'.kernel.endpoints e).ownerSlot = s.u32 →
        (m'.kernel.endpoints e).blockedCallerSlot = slotNone ∧
          ((m'.kernel.endpoints e).hasPending = true ↔ Abandoned (m.kernel.endpoints e)) := by
  obtain ⟨current, ⟨stores, tf, rfl, _⟩, m₁, step₁, dead⟩ := dies
  obtain rfl := Option.some_inj.mp (step.symm.trans step₁)
  obtain ⟨regs, phase, _⟩ := Machine.step_trap step
  obtain ⟨_, _, same, _, k₁, k₂, reason, effect, fatal, _, left, rfl⟩ :=
    inv.dies_cases phase current step dead
  cases same
  have kept : (k₁.saveFrame s tf reason).endpoints = m.kernel.endpoints := by
    cases effect with
    | exit | fault => rfl
    | yield | park | handOver | listen | await => simp at fatal
  refine ⟨(step_cases inv step).2.kernelOk (by nofun), dead, fun e owner => ?_⟩
  rw [← kept]
  exact left.endpoint fatal owner

theorem KernelOk.dead_unnamed (ok : KernelOk L cfg k none) (dead : k.Dead s) (w : WaitPlace) :
    k.waiter w ≠ s.i32 := by
  intro named
  have blocked := (ok.recorded named).2
  rw [dead.task] at blocked
  cases blocked

theorem KernelOk.dead_receiver (ok : KernelOk L cfg k none) (dead : k.Dead s)
    (owner : (k.endpoints e).ownerSlot = s.u32) : (k.endpoints e).blockedReceiverSlot = slotNone := by
  rcases ok.waits.valid (.receiver e) with vacant | ⟨u, _, waits⟩
  · exact vacant
  · obtain rfl := Slot.u32_inj.mp ((ok.receiver_owner waits).symm.trans owner)
    exact absurd waits (ok.dead_unnamed dead (.receiver e))

/-! ## The messages of the next incarnation -/

theorem RequestsOk.fresh {new : List Event} {r : Request} {receiver : UInt32} {cap n : UInt64}
    (ok : RequestsOk cfg k) (ok₁ : RequestsOk cfg k₁) (grows : k₁.log = k.log ++ new)
    (member : .delivered r receiver cap n ∈ new)
    (quiet : (k.endpoints r.ep).hasPending = false) : .accepted r ∈ new := by
  obtain ⟨c, mirrors⟩ := (ok.endpoints r.ep).channel
  obtain ⟨c₁, mirrors₁⟩ := (ok₁.endpoints r.ep).channel
  have accepts : c₁.accepted = c.accepted ++ acceptedOn r.ep new := by
    rw [← mirrors₁.accepted, grows, ← mirrors.accepted]
    exact requestsOn_append _
  have delivers : c₁.delivered = c.delivered ++ deliveredOn r.ep new := by
    rw [← mirrors₁.delivered, grows, ← mirrors.delivered]
    exact requestsOn_append _
  have discards : c₁.discarded = c.discarded ++ discardedOn r.ep new := by
    rw [← mirrors₁.discarded, grows, ← mirrors.discarded]
    exact requestsOn_append _
  exact accepted_mem (c.delivered_fresh ((ok.endpoints r.ep).quiet mirrors quiet) accepts delivers
    discards (mem_deliveredOn member))

theorem run_death_iff (run : (kernelSystem L cfg).Run h m) (dies : DiesAt L cfg m a s)
    (step : m.step L cfg a = some m') : LeavesEmpty L cfg s m' ↔
      ∀ e, (m.kernel.endpoints e).ownerSlot = s.u32 → ¬ Abandoned (m.kernel.endpoints e) := by
  have inv := run_inv run
  obtain ⟨ok', dead, left⟩ := dies.endpoints inv step
  have kept (e : EpId) : (m'.kernel.endpoints e).ownerSlot = (m.kernel.endpoints e).ownerSlot :=
    (ok'.owners e).trans ((inv.kernelOk (Machine.step_calm step)).owners e).symm
  constructor
  · intro empty e owner abandoned
    obtain ⟨_, pending⟩ := left e ((kept e).trans owner)
    have emptied := (empty.owned e ((kept e).trans owner)).1
    rw [pending.mpr abandoned] at emptied
    cases emptied
  · intro attended
    have emptied (e : EpId) (owner : (m'.kernel.endpoints e).ownerSlot = s.u32) :
        (m'.kernel.endpoints e).hasPending = false := by
      rw [Bool.eq_false_iff]
      exact fun pending => attended e ((kept e).symm.trans owner) ((left e owner).2.mp pending)
    refine ⟨fun e owner => ⟨emptied e owner, (left e owner).1, ok'.dead_receiver dead owner⟩,
      fun e => ⟨ok'.dead_unnamed dead (.caller e), ok'.dead_unnamed dead (.receiver e)⟩, ?_⟩
    intro h' m'' new path grows r receiver cap n member owner
    have requests : RequestsOk cfg m'.kernel := requests_data.run (run.step step)
    have later : RequestsOk cfg m''.kernel := requests_data.run ((run.step step).extend path)
    exact requests.fresh later grows member (emptied r.ep owner)

/-- `task_b` exits while a message is parked and its sender waits. -/
theorem run_death_iff_exit : ∃ m m' : Machine,
    m.step .sample .sample (.trap [] (.svc sysExit [])) = some m' ∧
      (m.kernel.endpoints epUart).hasPending = true ∧
        (m.kernel.endpoints epUart).blockedCallerSlot = slotTaskA.i32 ∧ m'.kernel.Dead slotTaskB ∧
          m'.x0 slotTaskA = minusOne ∧ LeavesEmpty .sample .sample slotTaskB m' := by
  obtain ⟨m, m', ran, current, step, task, thread, pending, caller, woken, attended⟩ :
      ∃ m m' : Machine, runFromBoot .sample .sample (List.replicate 4 .advance ++
          .trap [] (.svc sysIpcCall [1, el0SandboxBase, 4, el0SandboxBase, 4]) ::
            List.replicate 5 .advance) = some m ∧ m.kernel.current = some slotTaskB ∧
        m.step .sample .sample (.trap [] (.svc sysExit [])) = some m' ∧
          (m'.kernel.threads slotTaskB).user.state = .dead ∧
            (m'.kernel.threads slotTaskB).state = .stopped ∧
              (m.kernel.endpoints epUart).hasPending = true ∧
                (m.kernel.endpoints epUart).blockedCallerSlot = slotTaskA.i32 ∧
                  m'.x0 slotTaskA = minusOne ∧ ∀ e, ¬ Abandoned (m.kernel.endpoints e) :=
    ⟨_, _, rfl, rfl, rfl, rfl, rfl, rfl, rfl, rfl, by decide⟩
  obtain ⟨h, run, _⟩ := runFromBoot_run ran
  have exits : Asks (.svc sysExit []) sysExit := ⟨by decide, rfl⟩
  have dies : DiesAt .sample .sample m (.trap [] (.svc sysExit [])) slotTaskB :=
    ⟨current, ⟨[], _, rfl, .inr exits⟩, m', step, task, thread⟩
  exact ⟨m, m', step, pending, caller, ⟨task, thread⟩, woken,
    (run_death_iff run dies step).mpr fun e _ => attended e⟩

def replyUnreceived : List Action :=
  List.replicate 4 .advance ++
    .trap [] (.svc sysIpcCall [1, el0SandboxBase, 4, el0SandboxBase, 4]) ::
      (List.replicate 5 .advance ++ [.trap [] (.svc sysIpcReply [1, el0SandboxBase, 4])])

def restartAndReceive : List Action :=
  List.replicate 5 .advance ++ .trap [] (.svc sysTaskRestart [1]) :: .trap [] (.svc sysYield []) ::
    (List.replicate 6 .advance ++ .trap [] (.svc sysYield []) ::
      (List.replicate 6 .advance ++ [.trap [] (.svc sysIpcRecv [1, el0SandboxBase, 4])]))

/-- `task_b` exits after an early reply, and its next incarnation receives the message that was
sent before. -/
theorem death_leaves_message : ¬ ∀ (L : Layout) (cfg : Config) (h : List (Machine × Action))
    (m : Machine) (a : Action) (s : Slot) (m' : Machine), (kernelSystem L cfg).Run h m →
      DiesAt L cfg m a s → m.step L cfg a = some m' → LeavesEmpty L cfg s m' := by
  intro claim
  obtain ⟨m, m', h', m'', new, r, cap, n, ran, current, step, task, thread, owner, traced, grows,
      received, unsent⟩ :
      ∃ (m m' : Machine) (h' : List (Machine × Action)) (m'' : Machine) (new : List Event)
        (r : Request) (cap n : UInt64), runFromBoot .sample .sample replyUnreceived = some m ∧
          m.kernel.current = some slotTaskB ∧
            m.step .sample .sample (.trap [] (.svc sysExit [])) = some m' ∧
              (m'.kernel.threads slotTaskB).user.state = .dead ∧
                (m'.kernel.threads slotTaskB).state = .stopped ∧
                  (m'.kernel.endpoints epUart).ownerSlot = slotTaskB.u32 ∧
                  trace (Machine.step .sample .sample) m' restartAndReceive = some (h', m'') ∧
                    m''.kernel.log = m'.kernel.log ++ (new ++ [.delivered r slotTaskB.u32 cap n]) ∧
                      r.ep = epUart ∧ (new.filterMap Event.accept?) = [] := by
    exact ⟨_, _, _, _, [.restarted slotTaskB.u32], _, _, _, rfl, rfl, rfl, rfl, rfl, rfl, rfl, rfl,
      rfl, rfl⟩
  obtain ⟨h, run, _⟩ := runFromBoot_run ran
  have exits : Asks (.svc sysExit []) sysExit := ⟨by decide, rfl⟩
  have dies : DiesAt .sample .sample m (.trap [] (.svc sysExit [])) slotTaskB :=
    ⟨current, ⟨[], _, rfl, .inr exits⟩, m', step, task, thread⟩
  have path : (kernelSystem .sample .sample).Path m' h' m'' :=
    path_of_trace (fun _ _ _ taken => taken) traced
  have sent := (claim _ _ h m _ _ m' run dies step).fresh h' m'' _ path grows r slotTaskB.u32 cap n
    (by simp) (by rw [received]; exact owner)
  have member : r ∈ new.filterMap Event.accept? := by
    rcases List.mem_append.mp sent with sent | sent
    · exact List.mem_filterMap.mpr ⟨_, sent, rfl⟩
    · simp at sent
  simp [unsent] at member

end ProtoOs
