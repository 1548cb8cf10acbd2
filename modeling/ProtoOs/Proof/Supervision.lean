import ProtoOs.Proof.Requests
import ProtoOs.Lib.Mailbox

/-!
# Death notifications

The supervisor's notifications are those of a one-slot mailbox: each death is reported, is lost to
a later death, or is pending. A notification is lost exactly where a task dies while another
notification is pending and the supervisor does not wait.
-/

namespace ProtoOs

open Messaging

variable {L : Layout} {cfg : Config} {k k₁ : Kernel} {m m' : Machine} {h : List (Machine × Action)}
  {t s : Slot} {tf : TrapFrame} {a : Action} {o : Outcome} {new : List Event}

/-! ## The history of the notifications -/

namespace Event

def died? : Event → Option UInt32
  | .died w => some w
  | _ => none

def reported? : Event → Option UInt32
  | .reported w => some w
  | _ => none

def overwritten? : Event → Option UInt32
  | .overwritten w => some w
  | _ => none

def notice : Event → Bool
  | .died _ | .reported _ | .overwritten _ => true
  | _ => false

end Event

/-- The slots of the events that `f` picks from the history. -/
def noticesOf (f : Event → Option UInt32) (log : List Event) : List UInt32 := log.filterMap f

theorem noticesOf_append (f : Event → Option UInt32) (log new : List Event) :
    noticesOf f (log ++ new) = noticesOf f log ++ noticesOf f new :=
  List.filterMap_append

def pendingDeaths (k : Kernel) : List UInt32 :=
  if k.pendingDeathSlot = slotNone then [] else [k.pendingDeathSlot.toUInt32]

/-- The mailbox that the pending slot and the history make up. -/
structure Notifies (b : Mailbox Slot) (k : Kernel) : Prop where
  posted : noticesOf Event.died? k.log = b.posted.map Slot.u32
  taken : noticesOf Event.reported? k.log = b.taken.map Slot.u32
  lost : noticesOf Event.overwritten? k.log = b.lost.map Slot.u32
  held : k.pendingDeathSlot = (b.held.map Slot.i32).getD slotNone

theorem died?_silent {ev : Event} (silent : ev.notice = false) : ev.died? = none := by
  cases ev with
  | died => cases silent
  | _ => rfl

theorem reported?_silent {ev : Event} (silent : ev.notice = false) : ev.reported? = none := by
  cases ev with
  | reported => cases silent
  | _ => rfl

theorem overwritten?_silent {ev : Event} (silent : ev.notice = false) :
    ev.overwritten? = none := by
  cases ev with
  | overwritten => cases silent
  | _ => rfl

theorem noticesOf_silent {f : Event → Option UInt32}
    (about : ∀ ev : Event, ev.notice = false → f ev = none)
    (silent : ∀ ev ∈ new, ev.notice = false) : noticesOf f new = [] :=
  List.filterMap_eq_nil_iff.mpr fun ev member => about ev (silent ev member)

theorem noticesOf_death {f : Event → Option UInt32}
    (about : ∀ ev : Event, ev.notice = false → f ev = none) {w : UInt32} {tail : List Event}
    (silent : ∀ ev ∈ new, ev.notice = false) :
    noticesOf f (.died w :: new ++ tail) = noticesOf f [.died w] ++ noticesOf f tail := by
  rw [noticesOf_append, show .died w :: new = [.died w] ++ new from rfl, noticesOf_append,
    noticesOf_silent about silent, List.append_nil]

/-! ## The steps -/

/-- The notification of the death of `t`: the supervisor waits for it and is woken with it, or it
is kept as pending, in the place of the one that was pending. -/
inductive DeathNotice (t : Slot) (k k₁ : Kernel) : Prop
  | wake {new : List Event} (waiting : k.blockedSupervisorSlot = slotTaskC.i32)
      (logged : k₁.log = k.log ++ (.died t.u32 :: new ++
        [.woke slotTaskC t.u32.toUInt64 .blocked, .reported t.u32]))
      (silent : ∀ ev ∈ new, ev.notice = false) (pending : k₁.pendingDeathSlot = k.pendingDeathSlot)
  | keep {new : List Event} (absent : k.blockedSupervisorSlot = slotNone)
      (free : k.pendingDeathSlot = slotNone) (logged : k₁.log = k.log ++ .died t.u32 :: new)
      (silent : ∀ ev ∈ new, ev.notice = false) (pending : k₁.pendingDeathSlot = t.i32)
  | overwrite {new : List Event} (absent : k.blockedSupervisorSlot = slotNone)
      (full : k.pendingDeathSlot ≠ slotNone)
      (logged : k₁.log = k.log ++ (.died t.u32 :: new ++
        [.overwritten k.pendingDeathSlot.toUInt32]))
      (silent : ∀ ev ∈ new, ev.notice = false) (pending : k₁.pendingDeathSlot = t.i32)

/-- What a step of the machine does to the notifications. -/
inductive StepNotice (m : Machine) (a : Action) (m' : Machine) : Prop
  | silent {new : List Event} (logged : m'.kernel.log = m.kernel.log ++ new)
      (silent : ∀ ev ∈ new, ev.notice = false)
      (pending : m'.kernel.pendingDeathSlot = m.kernel.pendingDeathSlot)
      (waits : m.kernel.blockedSupervisorSlot ≠ slotNone →
        m'.kernel.blockedSupervisorSlot = m.kernel.blockedSupervisorSlot)
      (refused : ∀ stores tf regs, a = .trap stores tf → Asks tf sysSuperviseWait →
        m'.phase = .el0 regs → regs.x 0 = minusOne)
  | report {stores : List (SandboxAddress × UInt8)} {tf : TrapFrame} {regs : UserTaskCtx}
      (isTrap : a = .trap stores tf) (asks : Asks tf sysSuperviseWait)
      (current : m.kernel.current = some slotTaskC) (full : m.kernel.pendingDeathSlot ≠ slotNone)
      (logged : m'.kernel.log = m.kernel.log ++ [.reported m.kernel.pendingDeathSlot.toUInt32])
      (pending : m'.kernel.pendingDeathSlot = slotNone) (el0 : m'.phase = .el0 regs)
      (returns : regs.x 0 = m.kernel.pendingDeathSlot.toUInt32.toUInt64)
  | death {t : Slot} (user : t ≠ slotIdle) (notice : DeathNotice t m.kernel m'.kernel)

structure Silences (k k₁ : Kernel) : Prop where
  log : ∃ new, k₁.log = k.log ++ new ∧ ∀ ev ∈ new, ev.notice = false
  pending : k₁.pendingDeathSlot = k.pendingDeathSlot
  waits : k.blockedSupervisorSlot ≠ slotNone → k₁.blockedSupervisorSlot = k.blockedSupervisorSlot

theorem Silences.refl : Silences k k := ⟨⟨[], (List.append_nil _).symm, by simp⟩, rfl, fun _ => rfl⟩

theorem Silences.trans {k₂ : Kernel} (first : Silences k k₁) (second : Silences k₁ k₂) :
    Silences k k₂ := by
  obtain ⟨new, logged, silent⟩ := first.log
  obtain ⟨rest, restLogged, restSilent⟩ := second.log
  refine ⟨⟨new ++ rest, by rw [restLogged, logged, List.append_assoc], ?_⟩,
    second.pending.trans first.pending, fun waiting => ?_⟩
  · intro ev member
    rcases List.mem_append.mp member with earlier | later
    · exact silent ev earlier
    · exact restSilent ev later
  · have same := first.waits waiting
    rw [second.waits (same ▸ waiting), same]

theorem Effect.notice (effect : Effect cfg k t tf k₁ o) :
    (Silences k k₁ ∧ ∀ x0, Asks tf sysSuperviseWait → o = .back x0 → x0 = minusOne) ∨
      (Asks tf sysSuperviseWait ∧ t = slotTaskC ∧ k.pendingDeathSlot ≠ slotNone ∧
        k₁ = (k.record [.reported k.pendingDeathSlot.toUInt32]).setPendingDeath slotNone ∧
        o = .back k.pendingDeathSlot.toUInt32.toUInt64) := by
  have other {nr : UInt64} (asks : Asks tf nr) (different : nr ≠ sysSuperviseWait)
      (x0 : UInt64) : Asks tf sysSuperviseWait → o = .back x0 → x0 = minusOne :=
    fun wait _ => absurd (asks.number.symm.trans wait.number) different
  cases effect with
  | refused =>
      refine .inl ⟨.refl, ?_⟩
      rintro x0 _ ⟨⟩
      rfl
  | ticks asks => exact .inl ⟨.refl, other asks (by decide)⟩
  | write asks => exact .inl ⟨⟨Silences.refl.log, rfl, fun _ => rfl⟩, other asks (by decide)⟩
  | yield asks | exit asks => exact .inl ⟨.refl, by nofun⟩
  | fault => exact .inl ⟨⟨Silences.refl.log, rfl, fun _ => rfl⟩, by nofun⟩
  | @park e d =>
      refine .inl ⟨⟨⟨[.accepted (k.newRequest t e d)], rfl, ?_⟩, rfl, fun _ => rfl⟩, by nofun⟩
      simp [Event.notice]
  | handOver =>
      refine .inl ⟨⟨⟨_, handOver_serving.logged, ?_⟩, rfl, fun _ => rfl⟩, by nofun⟩
      simp [Event.notice]
  | take asks =>
      refine .inl ⟨⟨⟨_, rfl, ?_⟩, rfl, fun _ => rfl⟩, other asks (by decide)⟩
      simp [Event.notice]
  | listen => exact .inl ⟨⟨Silences.refl.log, rfl, fun _ => rfl⟩, by nofun⟩
  | @answer e s asks =>
      have logged : (k.answer t e (tf.x 1) (tf.x 2) s).log = k.log ++ _ :=
        List.append_assoc k.log [.woke s _ _] _
      refine .inl ⟨⟨⟨_, logged, ?_⟩, rfl, fun _ => rfl⟩, other asks (by decide)⟩
      simp [Event.notice]
  | report asks supervisor full => exact .inr ⟨asks, supervisor, full, rfl, rfl⟩
  | await _ _ _ absent =>
      exact .inl ⟨⟨Silences.refl.log, rfl, fun waiting => absurd absent waiting⟩, by nofun⟩
  | restart asks =>
      refine .inl ⟨⟨⟨[.restarted slotTaskB.u32], rfl, ?_⟩, rfl, fun _ => rfl⟩, other asks (by decide)⟩
      simp [Event.notice]

theorem Aborts.silences (aborts : Aborts t k k₁) : Silences k k₁ := by
  induction aborts with
  | refl => exact .refl
  | @abort k' e s _ _ _ _ ih =>
      refine ih.trans ⟨⟨.woke s minusOne (k'.threads s).user.state :: (k'.endpoints e).abortEvents,
        by simp [Kernel.abortCaller], ?_⟩, rfl, fun _ => rfl⟩
      intro ev member
      simp only [Endpoint.abortEvents, List.mem_append, List.mem_cons, List.mem_map] at member
      rcases member with rfl | ⟨_, _, rfl⟩ | ⟨_, _, rfl⟩
      · rfl
      · rfl
      · rfl

theorem Aborts.supervisor (aborts : Aborts t k k₁) :
    k₁.blockedSupervisorSlot = k.blockedSupervisorSlot := by
  induction aborts with
  | refl => rfl
  | abort _ _ _ _ ih => exact ih

theorem Left.notice {reason : TaskReturnReason} (left : Left k t reason k₁)
    (ok : KernelOk L cfg k (if reason = .ipcBlock ∨ reason = .notifyBlock then some t else none))
    (active : Active k t) :
    Silences k k₁ ∨ (reason = .exit ∨ reason = .fault) ∧ DeathNotice t k k₁ := by
  cases left with
  | yield => exact .inl ⟨Silences.refl.log, rfl, fun _ => rfl⟩
  | block => exact .inl ⟨Silences.refl.log, rfl, fun _ => rfl⟩
  | @death k₁ _ dies _ _ aborts _ noted =>
      refine .inr ⟨dies, ?_⟩
      obtain ⟨new, logged, silent⟩ := aborts.silences.log
      have pending : k₁.pendingDeathSlot = k.pendingDeathSlot := aborts.silences.pending
      have supervisor : k₁.blockedSupervisorSlot = k.blockedSupervisorSlot := aborts.supervisor
      have died : k₁.log = k.log ++ .died t.u32 :: new := by
        rw [logged]
        simp [Kernel.dying]
      cases noted with
      | @woke s waiting target =>
          obtain ⟨dying, leaving⟩ := active.dies dies ok
          have okAborted := (aborts.keeps dying leaving).1
          have blocked := (okAborted.recorded (w := .supervisor) waiting).2
          have shipped : s = slotTaskC := okAborted.supervisor s waiting
          subst shipped
          refine .wake (supervisor ▸ waiting) ?_ silent pending
          simp [died, blocked]
      | kept absent free =>
          exact .keep (supervisor ▸ absent) (pending ▸ free) died silent rfl
      | overwrote absent full =>
          refine .overwrite (supervisor ▸ absent) (pending ▸ full) ?_ silent rfl
          rw [← pending]
          simp [died]

theorem Effect.sameData {reason : TaskReturnReason} (effect : Effect cfg k t tf k₁ (.away reason))
    (dies : reason = .exit ∨ reason = .fault) : SameData k k₁ := by
  cases effect with
  | exit | fault => exact ⟨rfl, rfl, rfl, rfl, rfl⟩
  | yield | park | handOver | listen | await =>
      rcases dies with dies | dies
      · cases dies
      · cases dies

theorem DeathNotice.congr {k' : Kernel} (notice : DeathNotice t k' k₁) (same : SameData k k') :
    DeathNotice t k k₁ := by
  obtain ⟨_, pendingDeath, supervisor, log, _⟩ := same
  cases notice with
  | wake waiting logged silent pending =>
      exact .wake (supervisor ▸ waiting) (log ▸ logged) silent (pendingDeath ▸ pending)
  | keep absent free logged silent pending =>
      exact .keep (supervisor ▸ absent) (pendingDeath ▸ free) (log ▸ logged) silent pending
  | overwrite absent full logged silent pending =>
      rw [pendingDeath, log] at logged
      exact .overwrite (supervisor ▸ absent) (pendingDeath ▸ full) logged silent pending

theorem step_notice (inv : Inv L cfg m) (step : m.step L cfg a = some m') : StepNotice m a m' := by
  cases (step_cases inv step).1 with
  | quiet untrapped quiet =>
      refine .silent (by rw [quiet.log, List.append_nil]) (by simp) quiet.pendingDeath
        (fun _ => quiet.supervisor) ?_
      intro stores tf _ isTrap
      exact absurd isTrap (untrapped stores tf)
  | @back stores tf t regs k₁ x0 phase active _ effect =>
      rcases effect.notice with ⟨silences, refused⟩ | ⟨asks, supervisor, full, reported, returns⟩
      · obtain ⟨new, logged, silent⟩ := silences.log
        refine .silent logged silent silences.pending silences.waits ?_
        rintro _ _ _ ⟨⟩ asks ⟨⟩
        rw [← refused x0 asks rfl]
        simp [TrapFrame.after]
      · cases returns
        subst reported supervisor
        refine .report rfl asks active.current full rfl rfl rfl ?_
        simp [TrapFrame.after]
  | @away stores tf t regs k₁ k₂ reason phase active _ effect inside left =>
      have ok := (inv.active phase).1.setMem (userStores stores m.kernel.mem)
      have stored : Active (m.kernel.setMem (userStores stores m.kernel.mem)) t :=
        active.congr rfl rfl rfl
      obtain ⟨okSaved, saved⟩ := effect.saved ok stored inside
      rcases left.notice okSaved saved with rest | ⟨dies, notice⟩
      · rcases effect.notice with ⟨silences, _⟩ | ⟨_, _, _, _, returns⟩
        · have later : Silences k₁ k₂ := ⟨rest.log, rest.pending, rest.waits⟩
          have both := silences.trans later
          obtain ⟨new, logged, silent⟩ := both.log
          exact .silent logged silent both.pending both.waits (by simp)
        · cases returns
      · obtain ⟨endpoints, pendingDeath, supervisor, log, accesses⟩ := effect.sameData dies
        have same : SameData m.kernel (k₁.saveFrame t tf reason) :=
          ⟨endpoints, pendingDeath, supervisor, log, accesses⟩
        have after : DeathNotice t m.kernel k₂ := notice.congr same
        refine .death active.user ?_
        cases after with
        | wake waiting logged silent pending => exact .wake waiting logged silent pending
        | keep absent free logged silent pending => exact .keep absent free logged silent pending
        | overwrite absent full logged silent pending =>
            exact .overwrite absent full logged silent pending
  | @outside stores tf t regs k₁ reason phase active _ effect =>
      rcases effect.notice with ⟨silences, _⟩ | ⟨_, _, _, _, returns⟩
      · obtain ⟨new, logged, silent⟩ := silences.log
        exact .silent logged silent silences.pending silences.waits (by simp)
      · cases returns

/-! ## Runs -/

theorem Notifies.extend {b b' : Mailbox Slot} (notifies : Notifies b k)
    (logged : k₁.log = k.log ++ new)
    (posted : b'.posted.map Slot.u32 = b.posted.map Slot.u32 ++ noticesOf Event.died? new)
    (taken : b'.taken.map Slot.u32 = b.taken.map Slot.u32 ++ noticesOf Event.reported? new)
    (lost : b'.lost.map Slot.u32 = b.lost.map Slot.u32 ++ noticesOf Event.overwritten? new)
    (held : k₁.pendingDeathSlot = (b'.held.map Slot.i32).getD slotNone) : Notifies b' k₁ where
  posted := by rw [posted, ← notifies.posted, logged, noticesOf_append]
  taken := by rw [taken, ← notifies.taken, logged, noticesOf_append]
  lost := by rw [lost, ← notifies.lost, logged, noticesOf_append]
  held := held

theorem Notifies.held_some {b : Mailbox Slot} (notifies : Notifies b k)
    (full : k.pendingDeathSlot ≠ slotNone) : ∃ s, b.held = some s ∧ k.pendingDeathSlot = s.i32 := by
  have held := notifies.held
  cases inside : b.held with
  | none =>
      rw [inside] at held
      exact absurd held full
  | some s =>
      rw [inside] at held
      exact ⟨s, rfl, held⟩

theorem Notifies.held_none {b : Mailbox Slot} (notifies : Notifies b k)
    (free : k.pendingDeathSlot = slotNone) : b.held = none := by
  cases inside : b.held with
  | none => rfl
  | some s =>
      have held := notifies.held
      rw [inside, free] at held
      exact absurd held (Slot.none_ne_i32 s)

theorem DeathNotice.notifies {b : Mailbox Slot} (notice : DeathNotice t k k₁)
    (notifies : Notifies b k) : ∃ b', Notifies b' k₁ := by
  cases notice with
  | wake _ logged silent pending =>
      refine ⟨b.pass t, notifies.extend logged ?_ ?_ ?_ (pending.trans notifies.held)⟩
      · rw [noticesOf_death (fun _ => died?_silent) silent]
        exact List.map_append
      · rw [noticesOf_death (fun _ => reported?_silent) silent]
        exact List.map_append
      · rw [noticesOf_death (fun _ => overwritten?_silent) silent]
        exact (List.append_nil _).symm
  | @keep new _ free logged silent pending =>
      rw [← List.append_nil (Event.died t.u32 :: new)] at logged
      refine ⟨b.post t, notifies.extend logged ?_ ?_ ?_ pending⟩
      · rw [noticesOf_death (fun _ => died?_silent) silent]
        exact List.map_append
      · rw [noticesOf_death (fun _ => reported?_silent) silent]
        exact (List.append_nil _).symm
      · rw [noticesOf_death (fun _ => overwritten?_silent) silent, Mailbox.post_lost,
          notifies.held_none free]
        exact List.map_append
  | overwrite _ full logged silent pending =>
      obtain ⟨s, held, here⟩ := notifies.held_some full
      refine ⟨b.post t, notifies.extend logged ?_ ?_ ?_ pending⟩
      · rw [noticesOf_death (fun _ => died?_silent) silent]
        exact List.map_append
      · rw [noticesOf_death (fun _ => reported?_silent) silent]
        exact (List.append_nil _).symm
      · rw [noticesOf_death (fun _ => overwritten?_silent) silent, Mailbox.post_lost, held, here]
        exact List.map_append

theorem StepNotice.notifies {b : Mailbox Slot} (step : StepNotice m a m')
    (notifies : Notifies b m.kernel) : ∃ b', Notifies b' m'.kernel := by
  cases step with
  | silent logged silent pending =>
      refine ⟨b, notifies.extend logged ?_ ?_ ?_ (pending.trans notifies.held)⟩
      · rw [noticesOf_silent (fun _ => died?_silent) silent, List.append_nil]
      · rw [noticesOf_silent (fun _ => reported?_silent) silent, List.append_nil]
      · rw [noticesOf_silent (fun _ => overwritten?_silent) silent, List.append_nil]
  | report _ _ _ full logged pending =>
      obtain ⟨s, held, here⟩ := notifies.held_some full
      refine ⟨b.take, notifies.extend logged ?_ ?_ ?_ pending⟩
      · exact (List.append_nil _).symm
      · rw [Mailbox.take_taken, held, here]
        exact List.map_append
      · exact (List.append_nil _).symm
  | death _ notice => exact notice.notifies notifies

/-- The deaths, where the supervisor has not died itself, are those of the other two tasks; each was
reported, was overwritten, or is pending. -/
structure Notified (k : Kernel) : Prop where
  account : (noticesOf Event.died? k.log).Perm (noticesOf Event.reported? k.log ++ noticesOf Event.overwritten? k.log ++ pendingDeaths k)
  tasks : .died slotTaskC.u32 ∉ k.log → ∀ w ∈ noticesOf Event.died? k.log, w = slotTaskA.u32 ∨ w = slotTaskB.u32

theorem Notifies.account {b : Mailbox Slot} (notifies : Notifies b k) :
    (noticesOf Event.died? k.log).Perm (noticesOf Event.reported? k.log ++ noticesOf Event.overwritten? k.log ++ pendingDeaths k) := by
  have pending : pendingDeaths k = b.held.toList.map Slot.u32 := by
    rw [pendingDeaths, notifies.held]
    cases b.held with
    | none => simp
    | some s => simp
  rw [notifies.posted, notifies.taken, notifies.lost, pending, ← List.map_append, ← List.map_append]
  exact b.account.map Slot.u32

theorem StepNotice.tasks (step : StepNotice m a m')
    (tasks : ∀ w ∈ noticesOf Event.died? m.kernel.log, ∃ t, t ≠ slotIdle ∧ w = Slot.u32 t) :
    ∀ w ∈ noticesOf Event.died? m'.kernel.log, ∃ t, t ≠ slotIdle ∧ w = Slot.u32 t := by
  have quiet {new : List Event} (logged : m'.kernel.log = m.kernel.log ++ new)
      (silent : noticesOf Event.died? new = []) :
      ∀ w ∈ noticesOf Event.died? m'.kernel.log, ∃ t, t ≠ slotIdle ∧ w = Slot.u32 t := by
    rw [logged, noticesOf_append, silent, List.append_nil]
    exact tasks
  have death {new : List Event} {t : Slot} (user : t ≠ slotIdle)
      (logged : m'.kernel.log = m.kernel.log ++ new) (dies : noticesOf Event.died? new = [t.u32]) :
      ∀ w ∈ noticesOf Event.died? m'.kernel.log, ∃ t, t ≠ slotIdle ∧ w = Slot.u32 t := by
    rw [logged, noticesOf_append, dies]
    intro w member
    rcases List.mem_append.mp member with earlier | now
    · exact tasks w earlier
    · exact ⟨t, user, List.mem_singleton.mp now⟩
  cases step with
  | silent logged silent => exact quiet logged (noticesOf_silent (fun _ => died?_silent) silent)
  | report _ _ _ _ logged => exact quiet logged rfl
  | death user notice =>
      cases notice with
      | wake _ logged silent | overwrite _ _ logged silent =>
          exact death user logged (noticesOf_death (fun _ => died?_silent) silent)
      | @keep new _ _ logged silent =>
          rw [← List.append_nil (Event.died _ :: new)] at logged
          exact death user logged (noticesOf_death (fun _ => died?_silent) silent)

theorem run_notifies (run : (kernelSystem L cfg).Run h m) : (∃ b, Notifies b m.kernel) ∧
    ∀ w ∈ noticesOf Event.died? m.kernel.log, ∃ t, t ≠ slotIdle ∧ w = Slot.u32 t := by
  refine (run.invariant (I := fun m => Inv L cfg m ∧ (∃ b, Notifies b m.kernel) ∧
    ∀ w ∈ noticesOf Event.died? m.kernel.log, ∃ t, t ≠ slotIdle ∧ w = Slot.u32 t) ?_ ?_).2
  · rintro m ⟨mem, booted⟩
    have booted := boot_booted booted
    refine ⟨booted.inv, ⟨.empty, ?_, ?_, ?_, booted.pendingDeath⟩, ?_⟩
    all_goals rw [booted.log]
    · rfl
    · rfl
    · rfl
    · intro w member
      cases member
  · rintro m a m' ⟨inv, ⟨b, notifies⟩, tasks⟩ step
    have notice := step_notice inv step
    exact ⟨(step_cases inv step).2, notice.notifies notifies, notice.tasks tasks⟩

theorem run_notified (run : (kernelSystem L cfg).Run h m) : Notified m.kernel ∧
    ∀ a m', m.step L cfg a = some m' → StepNotice m a m' := by
  obtain ⟨⟨b, notifies⟩, tasks⟩ := run_notifies run
  refine ⟨⟨notifies.account, fun alive w member => ?_⟩, fun a m' => step_notice (run_inv run)⟩
  obtain ⟨t, user, here⟩ := tasks w member
  subst here
  have supervisor : t ≠ slotTaskC := by
    rintro rfl
    obtain ⟨ev, logged, picked⟩ := List.mem_filterMap.mp member
    cases ev with
    | died =>
        cases picked
        exact alive logged
    | _ => cases picked
  match t with
  | 0 => exact .inl rfl
  | 1 => exact .inr rfl
  | 2 => exact absurd rfl supervisor
  | 3 => exact absurd rfl user

theorem run_notified_exit : ∃ h m, (kernelSystem .sample .sample).Run h m ∧
    noticesOf Event.died? m.kernel.log = [slotTaskA.u32] ∧ Notified m.kernel := by
  obtain ⟨m, ran, died⟩ : ∃ m, runFromBoot .sample .sample (List.replicate 4 .advance ++
      [.trap [] (.svc sysExit [])]) = some m ∧ noticesOf Event.died? m.kernel.log = [slotTaskA.u32] :=
    ⟨_, rfl, rfl⟩
  obtain ⟨h, run, _⟩ := runFromBoot_run ran
  exact ⟨h, m, run, died, (run_notified run).1⟩

/-- `task_b` exits, then `task_a` exits, before the supervisor waits: the death of `task_b` is lost. -/
theorem notification_lost : ¬ ∀ (L : Layout) (cfg : Config) (h : List (Machine × Action))
    (m : Machine), (kernelSystem L cfg).Run h m → .died slotTaskC.u32 ∉ m.kernel.log →
      (noticesOf Event.died? m.kernel.log).Perm (noticesOf Event.reported? m.kernel.log ++ pendingDeaths m.kernel) := by
  intro claim
  obtain ⟨m, ran, died, reported, pending⟩ : ∃ m, runFromBoot .sample .sample
      (List.replicate 4 .advance ++ [.trap [] (.svc sysYield [])] ++ List.replicate 5 .advance ++
        [.trap [] (.svc sysExit [])] ++ List.replicate 5 .advance ++
        [.trap [] (.svc sysYield [])] ++ List.replicate 6 .advance ++
        [.trap [] (.svc sysExit [])]) = some m ∧
      noticesOf Event.died? m.kernel.log = [slotTaskB.u32, slotTaskA.u32] ∧ noticesOf Event.reported? m.kernel.log = [] ∧
      pendingDeaths m.kernel = [slotTaskA.u32] := ⟨_, rfl, rfl, rfl, rfl⟩
  obtain ⟨h, run, _⟩ := runFromBoot_run ran
  have alive : .died slotTaskC.u32 ∉ m.kernel.log := by
    intro member
    have here : slotTaskC.u32 ∈ noticesOf Event.died? m.kernel.log := List.mem_filterMap.mpr ⟨_, member, rfl⟩
    rw [died] at here
    exact absurd here (by decide)
  have account := claim _ _ h m run alive
  rw [died, reported, pending] at account
  exact absurd account.length_eq (by decide)

end ProtoOs
