import ProtoOs.Lib.Rendezvous
import ProtoOs.Lib.Simulation
import ProtoOs.Proof.Orphans
import ProtoOs.Proof.Supervised

/-!
# The kernel is a rendezvous

With the registers, the buffers and the scheduler left out, every run of the kernel is a run of
`Messaging.Rendezvous`. What a trap asks of it is read off the trap alone.
-/

namespace ProtoOs

open Messaging Transition

variable {L : Layout} {cfg : Config} {k k₁ k₂ : Kernel} {t u b : Slot} {e : EpId} {tf : TrapFrame}
  {o : Outcome} {m m' : Machine} {reason : TaskReturnReason}

/-! ## What a trap asks for -/

/-- `task_c` learns of deaths, and `SYS_task_restart` takes the slot of `task_b` only. -/
def office (cfg : Config) : Office Slot EpId where
  owner e := slotOf? (initialOwner cfg e)
  watcher := slotTaskC
  revivable := slotTaskB

def deedAt (t : Slot) (found : Option EpId) (deed : EpId → Deed Slot EpId) (valid : Prop)
    [Decidable valid] : Deed Slot EpId :=
  match found with
  | some e => if valid then deed e else .other t
  | none => .other t

/-- Where an argument is out of range, a call does nothing whatever the endpoint holds. -/
def deedOf (cfg : Config) (t : Slot) (tf : TrapFrame) : Deed Slot EpId :=
  if tf.exceptionClass ≠ 0x15 ∨ tf.x 8 = sysExit then .die t
  else if tf.x 8 = sysWrite then
    deedAt t (some epUart) (.send t) ((cfg.flavor = .micro ∧ t ≠ slotTaskB ∧ t ≠ slotTaskC) ∧
      el0WriteRangeOk (tf.x 0) (tf.x 1) ∧ tf.x 1 ≤ ipcMsgSize ∧ el0BufRangeOk (tf.x 0) (tf.x 1))
  else if tf.x 8 = sysIpcCall then
    deedAt t (getEndpoint (tf.x 0)) (.send t) (el0BufRangeOk (tf.x 3) (tf.x 4) ∧
      tf.x 2 ≤ ipcMsgSize ∧ el0BufRangeOk (tf.x 1) (tf.x 2))
  else if tf.x 8 = sysIpcRecv then
    deedAt t (getEndpoint (tf.x 0)) (.receive t) (el0BufRangeOk (tf.x 1) (tf.x 2))
  else if tf.x 8 = sysIpcReply then
    deedAt t (getEndpoint (tf.x 0)) (.answer t)
      (tf.x 2 ≤ ipcMsgSize ∧ el0BufRangeOk (tf.x 1) (tf.x 2))
  else if tf.x 8 = sysSuperviseWait then .watch t
  else if tf.x 8 = sysTaskRestart then
    if tf.x 0 = slotTaskB.u32.toUInt64 then .revive t else .other t
  else .other t

/-- The steps of the timer and of the scheduler are no deeds. -/
def Machine.Does (cfg : Config) (m : Machine) (a : Action) (deed : Deed Slot EpId) : Prop :=
  match a with
  | .trap _ tf => ∃ t, m.kernel.current = some t ∧ deed = deedOf cfg t tf
  | .tick | .advance => deed = .rest

theorem deedOf_dies (dies : tf.Dies) : deedOf cfg t tf = .die t := by
  rw [deedOf, if_pos]
  exact dies.imp_right fun asks => asks.number

theorem Asks.deed_write (asks : Asks tf sysWrite) : deedOf cfg t tf = deedAt t (some epUart)
    (.send t) ((cfg.flavor = .micro ∧ t ≠ slotTaskB ∧ t ≠ slotTaskC) ∧
      el0WriteRangeOk (tf.x 0) (tf.x 1) ∧ tf.x 1 ≤ ipcMsgSize ∧
        el0BufRangeOk (tf.x 0) (tf.x 1)) := by
  simp [deedOf, asks.svc, asks.number, sysWrite, sysExit]

theorem Asks.deed_call (asks : Asks tf sysIpcCall) : deedOf cfg t tf =
    deedAt t (getEndpoint (tf.x 0)) (.send t) (el0BufRangeOk (tf.x 3) (tf.x 4) ∧
      tf.x 2 ≤ ipcMsgSize ∧ el0BufRangeOk (tf.x 1) (tf.x 2)) := by
  simp [deedOf, asks.svc, asks.number, sysWrite, sysExit, sysIpcCall]

theorem Asks.deed_recv (asks : Asks tf sysIpcRecv) : deedOf cfg t tf =
    deedAt t (getEndpoint (tf.x 0)) (.receive t) (el0BufRangeOk (tf.x 1) (tf.x 2)) := by
  simp [deedOf, asks.svc, asks.number, sysWrite, sysExit, sysIpcCall, sysIpcRecv]

theorem Asks.deed_reply (asks : Asks tf sysIpcReply) : deedOf cfg t tf =
    deedAt t (getEndpoint (tf.x 0)) (.answer t)
      (tf.x 2 ≤ ipcMsgSize ∧ el0BufRangeOk (tf.x 1) (tf.x 2)) := by
  simp [deedOf, asks.svc, asks.number, sysWrite, sysExit, sysIpcCall, sysIpcRecv, sysIpcReply]

theorem Asks.deed_wait (asks : Asks tf sysSuperviseWait) : deedOf cfg t tf = .watch t := by
  simp [deedOf, asks.svc, asks.number, sysWrite, sysExit, sysIpcCall, sysIpcRecv, sysIpcReply,
    sysSuperviseWait]

theorem Asks.deed_restart (asks : Asks tf sysTaskRestart) : deedOf cfg t tf =
    if tf.x 0 = slotTaskB.u32.toUInt64 then .revive t else .other t := by
  simp [deedOf, asks.svc, asks.number, sysWrite, sysExit, sysIpcCall, sysIpcRecv, sysIpcReply,
    sysSuperviseWait, sysTaskRestart]

/-! ## The rendezvous of a kernel -/

def place : WaitFor EpId → WaitPlace
  | .reply e => .caller e
  | .request e => .receiver e
  | .death => .supervisor

theorem place_injective : Function.Injective place := by
  rintro (_ | _ | _) (_ | _ | _) ⟨⟩
  all_goals rfl

theorem place_eq_iff {w : WaitFor EpId} (w' : WaitFor EpId) : place w = place w' ↔ w = w' :=
  place_injective.eq_iff

structure Outline where
  waiter : WaitFor EpId → Int32
  dead : Slot → Prop
  pending : EpId → Prop
  news : Int32

@[simps] def Kernel.outline (k : Kernel) : Outline where
  waiter w := k.waiter (place w)
  dead u := u = slotIdle ∨ (k.threads u).user.state = .dead
  pending e := (k.endpoints e).hasPending = true
  news := k.pendingDeathSlot

namespace Outline

variable {v : Outline}

@[ext] theorem ext {v v' : Outline} (waiter : ∀ w, v.waiter w = v'.waiter w)
    (dead : ∀ u, v.dead u ↔ v'.dead u) (pending : ∀ e, v.pending e ↔ v'.pending e)
    (news : v.news = v'.news) : v = v' := by
  cases v
  cases v'
  congr
  · funext w
    exact waiter w
  · funext u
    exact propext (dead u)
  · funext e
    exact propext (pending e)

@[simps] def set (v : Outline) (w : WaitFor EpId) (x : Int32) : Outline :=
  { v with waiter := fun w' => if w' = w then x else v.waiter w' }

@[simps] def mark (v : Outline) (e : EpId) (b : Prop) : Outline :=
  { v with pending := fun u => if u = e then b else v.pending u }

@[simps] def tell (v : Outline) (news : Int32) : Outline := { v with news := news }

@[simps] def revive (v : Outline) (t : Slot) : Outline :=
  { v with dead := fun u => u ≠ t ∧ v.dead u }

@[simps] def bury (cfg : Config) (v : Outline) (t : Slot) : Outline where
  waiter
    | .reply e => if (office cfg).owner e = some t then slotNone else v.waiter (.reply e)
    | .request e => v.waiter (.request e)
    | .death => slotNone
  dead u := u = t ∨ v.dead u
  pending e := v.pending e ∧ ((office cfg).owner e = some t → v.waiter (.reply e) = slotNone)
  news := v.news

end Outline

structure Portrays (v : Outline) (s : Rendezvous Slot EpId) : Prop where
  waits : ∀ u w, s.standing u = .waiting w ↔ v.waiter w = u.i32
  dead : ∀ u, s.standing u = .dead ↔ v.dead u
  letter : ∀ e, s.letter e ↔ v.pending e
  news : v.news = (s.news.map Slot.i32).getD slotNone

namespace Portrays

variable {v : Outline} {s : Rendezvous Slot EpId} {w : WaitFor EpId}

theorem ready (portrays : Portrays v s) (free : ∀ w, v.waiter w ≠ u.i32) (alive : ¬v.dead u) :
    s.standing u = .ready := by
  cases standing : s.standing u with
  | ready => rfl
  | waiting w => exact absurd ((portrays.waits u w).mp standing) (free w)
  | dead => exact absurd ((portrays.dead u).mp standing) alive

theorem nobody (portrays : Portrays v s) (vacant : v.waiter w = slotNone) (u : Slot) :
    s.standing u ≠ .waiting w := by
  rw [Ne, portrays.waits, vacant]
  exact Slot.none_ne_i32 u

theorem register (portrays : Portrays v s) (acts : s.standing t = .ready)
    (vacant : v.waiter w = slotNone) : Portrays (v.set w t.i32) (s.put t (.waiting w)) where
  waits u x := by
    rw [Rendezvous.standing_put, Outline.set_waiter]
    have unrecorded : v.waiter x ≠ t.i32 := by
      rw [Ne, ← portrays.waits, acts]
      simp
    by_cases self : u = t <;> by_cases here : x = w
    · simp [self, here]
    · simp [self, here, Ne.symm here, unrecorded]
    · simp [self, here, portrays.nobody vacant u, Ne.symm self]
    · simp [self, here, portrays.waits]
  dead u := by
    rw [Rendezvous.standing_put, Outline.set_dead, ← portrays.dead]
    split_ifs with self
    · simp [self, acts]
    · rfl
  letter := portrays.letter
  news := portrays.news

theorem release (portrays : Portrays v s) (waiting : s.standing b = .waiting w) :
    Portrays (v.set w slotNone) (s.put b .ready) where
  waits u x := by
    rw [Rendezvous.standing_put, Outline.set_waiter]
    have here : v.waiter w = b.i32 := (portrays.waits b w).mp waiting
    by_cases self : u = b <;> by_cases same : x = w
    · simp [self, same]
    · simp [self, same, ← portrays.waits, waiting, Ne.symm same]
    · simp [self, same, portrays.waits, here, Ne.symm self]
    · simp [self, same, portrays.waits]
  dead u := by
    rw [Rendezvous.standing_put, Outline.set_dead, ← portrays.dead]
    split_ifs with self
    · simp [self, waiting]
    · rfl
  letter := portrays.letter
  news := portrays.news

theorem mark (portrays : Portrays v s) (p : Prop) : Portrays (v.mark e p) (s.mark e p) where
  waits := portrays.waits
  dead := portrays.dead
  letter u := by
    rw [Outline.mark_pending]
    refine Iff.trans (iff_of_eq (Function.update_apply s.letter e p u)) ?_
    split_ifs
    · rfl
    · exact portrays.letter u
  news := portrays.news

theorem tell (portrays : Portrays v s) (news : Option Slot) :
    Portrays (v.tell ((news.map Slot.i32).getD slotNone)) (s.tell news) :=
  ⟨portrays.waits, portrays.dead, portrays.letter, rfl⟩

theorem revive (portrays : Portrays v s) (gone : s.standing b = .dead) :
    Portrays (v.revive b) (s.put b .ready) where
  waits u w := by
    rw [Rendezvous.standing_put, Outline.revive_waiter, ← portrays.waits]
    split_ifs with self
    · simp [self, gone]
    · rfl
  dead u := by
    rw [Rendezvous.standing_put, Outline.revive_dead, ← portrays.dead]
    split_ifs with self
    · simp [self]
    · simp [self]
  letter := portrays.letter
  news := portrays.news

def Valid (v : Outline) : Prop := ∀ w, v.waiter w = slotNone ∨ ∃ u : Slot, v.waiter w = u.i32

theorem vacant_iff (portrays : Portrays v s) (valid : Valid v) :
    v.waiter w = slotNone ↔ ∀ u, s.standing u ≠ .waiting w := by
  constructor
  · exact portrays.nobody
  · intro nobody
    apply (valid w).resolve_right
    rintro ⟨u, here⟩
    exact nobody u ((portrays.waits u w).mpr here)

theorem bury (portrays : Portrays v s) (acts : s.standing t = .ready) (valid : Valid v) :
    Portrays (v.bury cfg t) (Rendezvous.bury (office cfg) s t) where
  waits u w := by
    have unrecorded : v.waiter w ≠ t.i32 := by
      rw [Ne, ← portrays.waits, acts]
      simp
    rw [Rendezvous.bury_waiting, portrays.waits]
    by_cases self : u = t
    · subst self
      cases w with
      | request e => simpa using unrecorded
      | death => simp
      | reply e =>
          by_cases owner : (office cfg).owner e = some u
          · simp [owner]
          · simpa [owner] using unrecorded
    · cases w with
      | request e => simp [self]
      | death => simp
      | reply e =>
          by_cases owner : (office cfg).owner e = some t
          · simp [owner]
          · simp [owner, self]
  dead u := by rw [Rendezvous.bury_dead, portrays.dead, Outline.bury_dead]
  letter e := by
    rw [Outline.bury_pending, ← portrays.letter, portrays.vacant_iff valid]
    refine and_congr_right fun _ => ⟨fun other owner u waiting => other u waiting owner, ?_⟩
    exact fun vacant u waiting owner => vacant owner u waiting
  news := portrays.news

end Portrays

/-! ## The steps of the kernel, seen from the rendezvous -/

variable {d : Send} {ptr cap len : UInt64} {s : Rendezvous Slot EpId}

theorem outline_wake (target : Wakeable k b) (retval : UInt64) :
    ((k.wake b retval).threads u).user.state = .dead ↔ (k.threads u).user.state = .dead := by
  by_cases same : u = b
  · subst same
    simp [Thread.wake, target.alive]
  · simp [same]

theorem outline_parkRequest :
    (k.parkRequest t e d).outline = (k.outline.set (.reply e) t.i32).mark e True := by
  ext u
  · exact (waiter_parkRequest (place u)).trans (if_congr (place_eq_iff (.reply e)) rfl rfl)
  · rfl
  · by_cases here : u = e
    · simp [here, Kernel.parkRequest]
    · simp [here, parkRequest_on.elsewhere u here]
  · rfl

theorem outline_handOver (target : Wakeable k b) (quiet : (k.endpoints e).hasPending = false) :
    (k.handOver t e d b).outline = (k.outline.set (.reply e) t.i32).set (.request e) slotNone := by
  ext u
  · refine (waiter_handOver (place u)).trans (if_congr (place_eq_iff (.request e)) rfl ?_)
    exact (waiter_registerCaller (place u)).trans
      (if_congr (place_eq_iff (.reply e)) rfl rfl)
  · exact or_congr_right (outline_wake target _)
  · by_cases here : u = e
    · simp [here, Kernel.handOver, Kernel.registerCaller, quiet]
    · simp [handOver_on.elsewhere u here]
  · rfl

theorem outline_takePending : (k.takePending t e ptr cap).outline = k.outline.mark e False := by
  ext u
  · exact waiter_takePending (place u)
  · rfl
  · by_cases here : u = e
    · simp [here, Kernel.takePending]
    · simp [here, takePending_on.elsewhere u here]
  · rfl

theorem outline_listen : (k.listen t e ptr cap).outline = k.outline.set (.request e) t.i32 := by
  ext u
  · exact (waiter_listen (place u)).trans (if_congr (place_eq_iff (.request e)) rfl rfl)
  · rfl
  · by_cases here : u = e
    · simp [here, Kernel.listen]
    · simp [listen_on.elsewhere u here]
  · rfl

theorem outline_answer (target : Wakeable k b) :
    (k.answer t e ptr len b).outline = k.outline.set (.reply e) slotNone := by
  ext u
  · exact (waiter_answer (place u)).trans (if_congr (place_eq_iff (.reply e)) rfl rfl)
  · exact or_congr_right (outline_wake target _)
  · by_cases here : u = e
    · simp [here, Kernel.answer]
    · simp [answer_on.elsewhere u here]
  · rfl

theorem outline_setBlockedSupervisor (x : Int32) :
    (k.setBlockedSupervisor x).outline = k.outline.set .death x := by
  ext u
  · exact (waiter_setBlockedSupervisor x (place u)).trans (if_congr (place_eq_iff .death) rfl rfl)
  · rfl
  · rfl
  · rfl

theorem outline_restartTask (user : b ≠ slotIdle) :
    (k.restartTask b).outline = k.outline.revive b := by
  ext u
  · rfl
  · by_cases same : u = b
    · subst same
      simp [Kernel.restartTask, threadRequestResched, Thread.restart, userTaskInit, user]
    · simp [Kernel.restartTask, threadRequestResched, same]
  · rfl
  · rfl

theorem outline_mark {state : ThreadState} {user : TaskState} (lives : user ≠ .dead)
    (alive : (k.threads t).user.state ≠ .dead) : (k.markTask t state user).outline = k.outline := by
  ext u
  · rfl
  · by_cases same : u = t
    · subst same
      simp [lives, alive]
    · simp [same]
  · rfl
  · rfl

theorem outline_saveFrame : (k.saveFrame t tf reason).outline = k.outline := by
  ext u
  · rfl
  · by_cases same : u = t
    · subst same
      simp [Thread.saveFrame]
    · simp [same]
  · rfl
  · rfl

/-! ## A trap of a task that lives on -/

theorem owner_iff (ok : KernelOk L cfg k none) :
    (office cfg).owner e = some t ↔ (k.endpoints e).ownerSlot = t.u32 := by
  rw [ok.owners]
  exact slotOf?_eq_some

theorem owned_iff (ok : KernelOk L cfg k none) :
    (office cfg).owner e ≠ none ↔ (k.endpoints e).ownerSlot ≠ ipcOwnerNone := by
  rw [ok.owners]
  show slotOf? (initialOwner cfg e) ≠ none ↔ _
  unfold initialOwner
  split_ifs
  · simp
  · simp
  · decide

theorem KernelOk.outline_valid (ok : KernelOk L cfg k none) : Portrays.Valid k.outline := by
  intro w
  rcases ok.waits.valid (place w) with vacant | ⟨u, _, here⟩
  · exact .inl vacant
  · exact .inr ⟨u, here⟩

theorem open_iff (ok : KernelOk L cfg k none) (portrays : Portrays k.outline s) :
    Rendezvous.Open (office cfg) s e ↔ (k.endpoints e).ownerSlot ≠ ipcOwnerNone ∧
      (k.endpoints e).hasPending = false ∧ (k.endpoints e).blockedCallerSlot = slotNone := by
  have free : (k.endpoints e).blockedCallerSlot = slotNone ↔
      ∀ u, s.standing u ≠ .waiting (.reply e) :=
    portrays.vacant_iff ok.outline_valid (w := .reply e)
  have empty : (k.endpoints e).hasPending = false ↔ ¬s.letter e := by
    rw [portrays.letter]
    simp
  rw [← owned_iff ok, empty, free]
  constructor
  · exact fun opened => ⟨opened.owned, opened.empty, opened.free⟩
  · rintro ⟨owned, empty, free⟩
    exact ⟨owned, empty, free⟩

theorem deedOf_sends (sends : Sends cfg t tf e d) (length : d.len ≤ ipcMsgSize)
    (range : el0BufRangeOk d.ptr d.len) : deedOf cfg t tf = .send t e := by
  cases sends with
  | call asks found reply =>
      rw [asks.deed_call, found]
      exact if_pos ⟨reply, length, range⟩
  | route asks micro client write =>
      rw [asks.deed_write]
      exact if_pos ⟨⟨micro, client⟩, write, length, range⟩

theorem deedOf_other (svc : tf.exceptionClass = 0x15) (number : tf.x 8 ∉ [sysWrite, sysExit,
    sysIpcCall, sysIpcRecv, sysIpcReply, sysSuperviseWait, sysTaskRestart]) :
    deedOf cfg t tf = .other t := by
  simp only [List.mem_cons, List.not_mem_nil, or_false, not_or] at number
  simp [deedOf, svc, number]

theorem step_deedAt {found : Option EpId} {deed : EpId → Deed Slot EpId} {valid : Prop}
    [Decidable valid] (acts : s.standing t = .ready)
    (refused : ∀ e, found = some e → valid → Rendezvous.Step (office cfg) s (deed e) s) :
    Rendezvous.Step (office cfg) s (deedAt t found deed valid) s := by
  cases found with
  | none => exact .other acts
  | some e =>
      by_cases fine : valid
      · rw [deedAt, if_pos fine]
        exact refused e rfl fine
      · rw [deedAt, if_neg fine]
        exact .other acts

theorem Active.stands (active : Active k t) (ok : KernelOk L cfg k none)
    (portrays : Portrays k.outline s) : s.standing t = .ready := by
  apply portrays.ready fun w => active.unrecorded ok (place w)
  rintro (idle | dead)
  · exact active.user idle
  · rw [active.running] at dead
    cases dead

theorem Refuses.stays (refuses : Refuses cfg k t tf) (ok : KernelOk L cfg k none)
    (active : Active k t) (portrays : Portrays k.outline s) :
    Rendezvous.Step (office cfg) s (deedOf cfg t tf) s := by
  have acts := active.stands ok portrays
  have busy {e : EpId} {d : Send} (no : ¬Accepts k e d) (length : d.len ≤ ipcMsgSize)
      (range : el0BufRangeOk d.ptr d.len) : Rendezvous.Step (office cfg) s (.send t e) s := by
    apply Rendezvous.Step.busy acts
    rw [open_iff ok portrays]
    rintro ⟨owned, quiet, free⟩
    exact no ⟨length, owned, range, quiet, free⟩
  cases refuses with
  | write asks no =>
      rw [asks.deed_write]
      apply step_deedAt acts
      rintro e found ⟨_, write, length, range⟩
      cases found
      exact busy (no write).2 length range
  | call asks no =>
      rw [asks.deed_call]
      apply step_deedAt acts
      rintro e found ⟨reply, length, range⟩
      exact busy (no e found reply) length range
  | recv asks no =>
      rw [asks.deed_recv]
      apply step_deedAt acts
      intro e found range
      apply Rendezvous.Step.foreign acts
      intro owner
      have owns := (owner_iff ok).mp owner
      have waiting := (no e found range owns).2
      have self := (ok.waits.receiver e).resolve_left waiting
      rw [owns] at self
      exact active.unrecorded ok (.receiver e) self
  | reply asks no =>
      rw [asks.deed_reply]
      apply step_deedAt acts
      rintro e found ⟨length, range⟩
      apply Rendezvous.Step.unasked acts
      intro owner
      exact portrays.nobody (w := .reply e) (no e found length range ((owner_iff ok).mp owner))
  | wait asks no =>
      rw [asks.deed_wait]
      apply Rendezvous.Step.blind acts
      intro supervisor
      obtain ⟨b, _, here⟩ := (ok.waits.valid .supervisor).resolve_left (no supervisor).2
      have watcher : b = t := (ok.supervisor b here).trans supervisor.symm
      exact active.unrecorded ok .supervisor (watcher ▸ here)
  | restart asks no =>
      rw [asks.deed_restart]
      split_ifs with target
      · apply Rendezvous.Step.alive acts
        intro supervisor gone
        apply no supervisor target
        have user : slotTaskB ≠ slotIdle := by decide
        have other : slotTaskB ≠ t := by
          rw [show t = slotTaskC from supervisor]
          decide
        apply restartable_of_dead ok user (active.others slotTaskB other)
        exact ((portrays.dead slotTaskB).mp gone).resolve_left user
      · exact .other acts
  | unknown svc number =>
      rw [deedOf_other svc]
      · exact .other acts
      · intro listed
        apply number
        simp only [List.mem_cons, List.not_mem_nil, or_false] at listed ⊢
        tauto

theorem Effect.specified (effect : Effect cfg k t tf k₁ o) (ok : KernelOk L cfg k none)
    (active : Active k t) (portrays : Portrays k.outline s) (lives : ¬tf.Dies) :
    ∃ s', Rendezvous.Step (office cfg) s (deedOf cfg t tf) s' ∧ Portrays k₁.outline s' := by
  have acts := active.stands ok portrays
  cases effect with
  | refused refuses => exact ⟨s, refuses.stays ok active portrays, portrays⟩
  | ticks asks | yield asks =>
      rw [deedOf_other asks.svc (by rw [asks.number]; decide)]
      exact ⟨s, .other acts, portrays⟩
  | write asks _ direct =>
      rw [asks.deed_write]
      exact ⟨s, step_deedAt acts fun _ _ valid => absurd valid.1 direct, portrays⟩
  | exit asks => exact absurd (.inr asks) lives
  | fault fault => exact absurd (.inl fault) lives
  | park sends accepts absent =>
      rw [deedOf_sends sends accepts.length accepts.range, outline_parkRequest]
      have opened := (open_iff ok portrays).mpr ⟨accepts.owned, accepts.quiet, accepts.free⟩
      exact ⟨_, .leave acts opened (portrays.nobody absent),
        (portrays.register (w := .reply _) acts accepts.free).mark True⟩
  | @handOver e d b sends accepts waiting target =>
      rw [deedOf_sends sends accepts.length accepts.range, outline_handOver target accepts.quiet]
      have opened := (open_iff ok portrays).mpr ⟨accepts.owned, accepts.quiet, accepts.free⟩
      have receives : s.standing b = .waiting (.request e) := (portrays.waits b _).mpr waiting
      have registered := portrays.register (w := .reply e) acts accepts.free
      refine ⟨_, .handOver acts opened receives, registered.release ?_⟩
      rw [Rendezvous.standing_put, if_neg (active.ne_of_recorded ok (w := .receiver e) waiting)]
      exact receives
  | take asks found range owner pending =>
      rw [asks.deed_recv, found, outline_takePending]
      have letter := (portrays.letter _).mpr pending
      rw [deedAt, if_pos range]
      exact ⟨_, .take acts ((owner_iff ok).mpr owner) letter, portrays.mark False⟩
  | @listen e asks found range owner quiet absent =>
      rw [asks.deed_recv, found, outline_listen]
      have empty : ¬s.letter e := by
        rw [portrays.letter]
        simp [quiet]
      rw [deedAt, if_pos range]
      exact ⟨_, .listen acts ((owner_iff ok).mpr owner) empty, portrays.register acts absent⟩
  | answer asks found length range owner waiting target =>
      rw [asks.deed_reply, found, outline_answer target]
      have calls := (portrays.waits _ (.reply _)).mpr waiting
      rw [deedAt, if_pos ⟨length, range⟩]
      exact ⟨_, .reply acts ((owner_iff ok).mpr owner) calls, portrays.release calls⟩
  | report asks supervisor pending =>
      rw [asks.deed_wait]
      cases supervisor
      cases known : s.news with
      | none => exact absurd (by rw [← Kernel.outline_news, portrays.news, known]; rfl) pending
      | some u => exact ⟨_, .learn acts known, portrays.tell none⟩
  | await asks supervisor quiet absent =>
      rw [asks.deed_wait, outline_setBlockedSupervisor]
      cases supervisor
      have silent : s.news = none := by
        cases known : s.news with
        | none => rfl
        | some u =>
            have here := portrays.news
            rw [known, Kernel.outline_news, quiet] at here
            exact absurd here (Slot.none_ne_i32 u)
      exact ⟨_, .await acts silent, portrays.register acts absent⟩
  | restart asks supervisor target restartable =>
      rw [asks.deed_restart, if_pos target, outline_restartTask (by decide)]
      cases supervisor
      have gone := (portrays.dead slotTaskB).mpr (.inr restartable.dead)
      exact ⟨_, .revive acts gone, portrays.revive gone⟩

/-! ## A death -/

theorem Aborts.outline_waiter (aborts : Aborts t k k₁) {w : WaitPlace}
    (other : ∀ e, w ≠ .caller e) : k₁.waiter w = k.waiter w := by
  induction aborts with
  | refl => rfl
  | abort _ _ _ _ ih => rw [waiter_abortCaller, if_neg (other _), ih]

theorem Aborts.outline_dead (aborts : Aborts t k k₁) :
    (k₁.threads u).user.state = .dead ↔ (k.threads u).user.state = .dead := by
  induction aborts with
  | refl => rfl
  | abort _ _ _ target ih => exact (outline_wake target _).trans ih

theorem Aborts.outline_news (aborts : Aborts t k k₁) :
    k₁.pendingDeathSlot = k.pendingDeathSlot := by
  induction aborts with
  | refl => rfl
  | abort _ _ _ _ ih => exact ih

theorem Aborts.buries (aborts : Aborts t k k₁) (settled : ∀ e, Settled t k₁ e)
    (ok : KernelOk L cfg k₁ none) (gone : (k.threads t).user.state = .dead) :
    (k₁.setBlockedSupervisor slotNone).outline = k.outline.bury cfg t := by
  rw [outline_setBlockedSupervisor]
  ext u
  · cases u with
    | request e => exact aborts.outline_waiter (w := .receiver e) (by simp)
    | death => rfl
    | reply e =>
        show k₁.waiter (.caller e) = if (office cfg).owner e = some t then slotNone
          else k.waiter (.caller e)
        split_ifs with owner
        · exact settled e ((owner_iff ok).mp owner)
        · have foreign := aborts.others fun owns => owner ((owner_iff ok).mpr owns)
          rw [Kernel.waiter, Kernel.waiter, foreign]
  · show _ ∨ _ ↔ _ ∨ _ ∨ _
    rw [aborts.outline_dead]
    constructor
    · exact .inr
    · rintro (rfl | dead)
      · exact .inr gone
      · exact dead
  · show (k₁.endpoints u).hasPending = true ↔ (k.endpoints u).hasPending = true ∧
      ((office cfg).owner u = some t → (k.endpoints u).blockedCallerSlot = slotNone)
    by_cases owner : (office cfg).owner u = some t
    · have vacant := settled u ((owner_iff ok).mp owner)
      rcases aborts.endpoint u with same | ⟨caller, emptied⟩
      · rw [same] at vacant ⊢
        simp [vacant]
      · simp [emptied, owner, caller]
    · rw [aborts.others fun owns => owner ((owner_iff ok).mpr owns)]
      simp [owner]
  · exact aborts.outline_news

theorem outline_dying {calls : List UartCall} :
    ((k.emit calls).dying t).outline.bury cfg t = k.outline.bury cfg t := by
  ext u
  · rfl
  · by_cases same : u = t
    · simp [same]
    · simp [same, Kernel.dying]
  · rfl
  · rfl

theorem Left.buries (left : Left k t reason k₂) (dies : reason = .exit ∨ reason = .fault)
    (ok : KernelOk L cfg k none) (active : Active k t) (portrays : Portrays k.outline s) :
    ∃ s', Rendezvous.Step (office cfg) s (.die t) s' ∧ Portrays k₂.outline s' := by
  have acts := active.stands ok portrays
  have awake : ¬(reason = .ipcBlock ∨ reason = .notifyBlock) := by
    rcases dies with rfl | rfl
    all_goals simp
  cases left with
  | yield voluntary => simp [voluntary] at dies
  | block blocks => exact absurd blocks awake
  | @death k₁ _ _ _ _ aborts settled noted =>
      obtain ⟨dying, leaving⟩ := active.dies dies (by rw [if_neg awake]; exact ok)
      have buried : Portrays (k.outline.bury cfg t) (Rendezvous.bury (office cfg) s t) :=
        portrays.bury acts ok.outline_valid
      have here := aborts.buries settled (aborts.keeps dying leaving).1 (by simp [Kernel.dying])
      rw [outline_dying] at here
      have supervisor : k₁.blockedSupervisorSlot = k.outline.waiter .death :=
        aborts.outline_waiter (w := .supervisor) (by simp)
      cases noted with
      | @woke b waiting target =>
          have watching := (portrays.waits b .death).mpr (supervisor.symm.trans waiting)
          refine ⟨_, .mourned acts watching, ?_⟩
          rw [← here] at buried
          have woken : ((((k₁.wake b t.u32.toUInt64).record [.reported t.u32]).setBlockedSupervisor
              slotNone).setResched true).outline = (k₁.setBlockedSupervisor slotNone).outline := by
            ext u
            · rfl
            · exact or_congr_right (outline_wake target _)
            · rfl
            · rfl
          rw [woken]
          exact buried
      | kept absent | overwrote absent =>
          have nobody := portrays.nobody (supervisor.symm.trans absent)
          have silent : k₁.setBlockedSupervisor slotNone = k₁ := by
            rw [← absent]
            rfl
          rw [silent] at here
          refine ⟨_, .unnoticed acts nobody, ?_⟩
          have told := buried.tell (some t)
          rw [← here] at told
          exact told

theorem Left.outline (left : Left k t reason k₂) (lives : ¬(reason = .exit ∨ reason = .fault))
    (active : Active k t) : k₂.outline = k.outline := by
  have alive : (k.threads t).user.state ≠ .dead := by
    rw [active.running]
    simp
  cases left with
  | yield => exact outline_mark (by simp) alive
  | block => exact outline_mark (by simp) alive
  | death dies => exact absurd dies lives

theorem Effect.outline_dies (effect : Effect cfg k t tf k₁ o) (dies : tf.Dies) :
    k₁.outline = k.outline := by
  obtain ⟨reason, rfl, rfl | rfl, _⟩ := effect.of_dies dies
  · cases effect
    rfl
  · cases effect
    rfl

theorem step_die (acts : s.standing t = .ready) :
    ∃ s', Rendezvous.Step (office cfg) s (.die t) s' := by
  by_cases watched : ∃ u, s.standing u = .waiting .death
  · obtain ⟨u, watching⟩ := watched
    exact ⟨_, .mourned acts watching⟩
  · exact ⟨_, .unnoticed acts (not_exists.mp watched)⟩

/-! ## Runs -/

/-- A halted kernel may have stopped with half a step done. -/
structure Specified (L : Layout) (cfg : Config) (m : Machine) (s : Rendezvous Slot EpId) :
    Prop where
  inv : Inv L cfg m
  portrays : (∀ p, m.phase ≠ .panic p) → Portrays m.kernel.outline s

theorem Booted.specified {mem : Memory} (booted : Booted L cfg mem m) :
    Specified L cfg m (Rendezvous.start (· ≠ slotIdle)) := by
  refine ⟨booted.inv, fun _ => ⟨fun u w => ?_, fun u => ?_, fun e => ?_, booted.pendingDeath⟩⟩
  · have vacant : m.kernel.outline.waiter w = slotNone := by
      cases w with
      | reply e | request e => simp [place, Kernel.waiter, booted.endpoints, Endpoint.initial]
      | death => simpa [place, Kernel.waiter] using booted.supervisor
    rw [vacant, Rendezvous.start]
    simp only
    split_ifs
    all_goals simp
  · rw [Rendezvous.start]
    by_cases idle : u = slotIdle
    · simp [idle]
    · simp [idle, booted.users u idle, initUserSlot, userTaskInit]
  · simp [Rendezvous.start, booted.endpoints, Endpoint.initial]

theorem Quiet.outline (quiet : Quiet m.kernel m'.kernel)
    (dead : ∀ u, u ≠ slotIdle → ((m'.kernel.threads u).user.state = .dead ↔
      (m.kernel.threads u).user.state = .dead)) : m'.kernel.outline = m.kernel.outline := by
  ext u
  · exact quiet.waiter (place u)
  · by_cases idle : u = slotIdle
    · simp [idle]
    · simp [idle, dead u idle]
  · simp [quiet.endpoints]
  · exact quiet.pendingDeath

theorem step_specified {a : Action} {m' : Machine} (specified : Specified L cfg m s)
    (step : m.step L cfg a = some m') : ∃ deed s', m.Does cfg a deed ∧
      Rendezvous.Step (office cfg) s deed s' ∧ Specified L cfg m' s' := by
  obtain ⟨inv, portrays⟩ := specified
  have portrays := portrays (Machine.step_calm step)
  obtain ⟨stepped, inv'⟩ := step_cases inv step
  cases stepped with
  | quiet untrapped quiet =>
      refine ⟨.rest, s, ?_, .rest, inv', fun _ => ?_⟩
      · cases a with
        | trap stores tf => exact absurd rfl (untrapped stores tf)
        | tick | advance => rfl
      · rw [quiet.outline fun u user => (quiet_kept inv untrapped user step).dead]
        exact portrays
  | @back stores tf t _ k₁ _ phase active _ effect =>
      have ok := (inv.active phase).1.setMem (userStores stores m.kernel.mem)
      have lives : ¬tf.Dies := by
        intro dies
        obtain ⟨_, away, _⟩ := effect.of_dies dies
        cases away
      obtain ⟨s', does, here⟩ := effect.specified ok (active.congr rfl rfl rfl) portrays lives
      exact ⟨_, s', ⟨t, active.current, rfl⟩, does, inv', fun _ => here⟩
  | @away stores tf t _ k₁ k₂ reason phase active _ effect inside left =>
      have ok := (inv.active phase).1.setMem (userStores stores m.kernel.mem)
      have stored : Active (m.kernel.setMem (userStores stores m.kernel.mem)) t :=
        active.congr rfl rfl rfl
      obtain ⟨okSaved, saved⟩ := effect.saved ok stored inside
      have same : (k₁.saveFrame t tf reason).outline = k₁.outline := outline_saveFrame
      by_cases dies : tf.Dies
      · obtain ⟨_, away, fatal, _⟩ := effect.of_dies dies
        cases away
        have awake : ¬(reason = .ipcBlock ∨ reason = .notifyBlock) := by
          rcases fatal with rfl | rfl
          all_goals simp
        rw [if_neg awake] at okSaved
        have before : Portrays (k₁.saveFrame t tf reason).outline s := by
          rw [same, effect.outline_dies dies]
          exact portrays
        obtain ⟨s', does, here⟩ := left.buries fatal okSaved saved before
        exact ⟨_, s', ⟨t, active.current, rfl⟩, deedOf_dies dies ▸ does, inv', fun _ => here⟩
      · obtain ⟨s', does, here⟩ := effect.specified ok stored portrays dies
        refine ⟨_, s', ⟨t, active.current, rfl⟩, does, inv', fun _ => ?_⟩
        have lives : ¬(reason = .exit ∨ reason = .fault) := fun fatal => dies (effect.dies fatal)
        rw [← same, ← left.outline lives saved] at here
        exact here
  | @outside stores tf t _ k₁ reason phase active _ effect =>
      have ok := (inv.active phase).1.setMem (userStores stores m.kernel.mem)
      have stored : Active (m.kernel.setMem (userStores stores m.kernel.mem)) t :=
        active.congr rfl rfl rfl
      have halts (calm : ∀ p, Phase.panic .trapElrOutsideSandbox ≠ .panic p) (s') :
          Portrays k₁.outline s' := absurd rfl (calm _)
      by_cases dies : tf.Dies
      · obtain ⟨s', does⟩ : ∃ s', Rendezvous.Step (office cfg) s (.die t) s' :=
          step_die (stored.stands ok portrays)
        exact ⟨_, s', ⟨t, active.current, rfl⟩, deedOf_dies dies ▸ does, inv', (halts · s')⟩
      · obtain ⟨s', does, _⟩ := effect.specified ok stored portrays dies
        exact ⟨_, s', ⟨t, active.current, rfl⟩, does, inv', (halts · s')⟩

theorem kernel_simulation : (kernelSystem L cfg).Simulation
    (Rendezvous.system (office cfg) (· ≠ slotIdle)) (Specified L cfg) (Machine.Does cfg) where
  start m first := by
    obtain ⟨mem, booted⟩ := first
    exact ⟨_, rfl, (boot_booted booted).specified⟩
  step m s a m' specified step := step_specified specified step

theorem run_specified {h : List (Machine × Action)} (run : (kernelSystem L cfg).Run h m) :
    ∃ s, Specified L cfg m s := by
  obtain ⟨_, s, _, specified, _⟩ := kernel_simulation.run run
  exact ⟨s, specified⟩

/-- Every run of the kernel is a run of the rendezvous: what a trap asks of it happens there. -/
theorem kernel_specified : (kernelSystem L cfg).Simulation
    (Rendezvous.system (office cfg) (· ≠ slotIdle)) (Specified L cfg) (Machine.Does cfg) ∧
      ∀ h m, (kernelSystem L cfg).Run h m →
        ∃ h' s, (Rendezvous.system (office cfg) (· ≠ slotIdle)).Run h' s ∧ Specified L cfg m s ∧
          System.Simulation.Follows (Specified L cfg) (Machine.Does cfg) h h' :=
  ⟨kernel_simulation, fun _ _ run => kernel_simulation.run run⟩

/-- A task that waits goes on only when a counterpart sends, answers or dies. -/
theorem wait_ends {h : List (Machine × Action)} {a : Action} {w : WaitFor EpId}
    (run : (kernelSystem L cfg).Run h m) (step : m.step L cfg a = some m')
    (calm : ∀ p, m'.phase ≠ .panic p) (waits : m.kernel.waiter (place w) = u.i32)
    (goes : m'.kernel.waiter (place w) ≠ u.i32) :
    ∃ stores tf t, a = .trap stores tf ∧ m.kernel.current = some t ∧
      Rendezvous.Ends (office cfg) w (deedOf cfg t tf) := by
  obtain ⟨s, specified⟩ := run_specified run
  obtain ⟨deed, s', does, happens, after⟩ := step_specified specified step
  have before := specified.portrays (Machine.step_calm step)
  have ends : Rendezvous.Ends (office cfg) w deed := by
    rcases happens.ends_of_wait ((before.waits u w).mpr waits) with still | ⟨_, ends⟩
    · exact absurd (((after.portrays calm).waits u w).mp still) goes
    · exact ends
  cases a with
  | trap stores tf =>
      obtain ⟨t, current, rfl⟩ := does
      exact ⟨stores, tf, t, rfl, current, ends⟩
  | tick | advance =>
      cases does
      cases ends

theorem wait_ends_abandoned : ∃ h m m' a, (kernelSystem .sample .sample).Run h m ∧
    m.step .sample .sample a = some m' ∧ m.kernel.waiter (place (.reply epUart)) = slotTaskA.i32 ∧
    ∃ stores tf t, a = .trap stores tf ∧ m.kernel.current = some t ∧
      Rendezvous.Ends (office .sample) (.reply epUart) (deedOf .sample t tf) := by
  obtain ⟨m, m', ran, waits, step, woken, phase⟩ : ∃ m m', runFromBoot .sample .sample
      (List.replicate 4 .advance ++
        [.trap [] (.svc sysIpcCall [1, el0SandboxBase, 4, el0SandboxBase, 4])] ++
          List.replicate 5 .advance) = some m ∧
      m.kernel.waiter (place (.reply epUart)) = slotTaskA.i32 ∧
      m.step .sample .sample (.trap [] (.svc sysExit [])) = some m' ∧
      m'.kernel.waiter (place (.reply epUart)) = slotNone ∧
      m'.phase = .pick (.returnStep slotTaskB) := ⟨_, _, rfl, rfl, rfl, rfl, rfl⟩
  obtain ⟨h, run, _⟩ := runFromBoot_run ran
  refine ⟨h, m, m', _, run, step, waits, ?_⟩
  exact wait_ends run step (by simp [phase]) waits (woken ▸ Slot.none_ne_i32 slotTaskA)

end ProtoOs
