import ProtoOs.Proof.Requests
import ProtoOs.Proof.Tasks

/-!
# What each step reports of the requests

Every wait that a step ends, every receive and reply that it answers and every call that it accepts
has its event in the history, and only the death of the owner gives a request up.
-/

namespace ProtoOs

variable {L : Layout} {cfg : Config} {k k' k₁ k₂ : Kernel} {m m' : Machine}
  {h : List (Machine × Action)} {a : Action} {t s : Slot} {e : EpId} {tf : TrapFrame} {o : Outcome}
  {new new' : List Event} {w : WaitPlace} {x0 n : UInt64} {reason : TaskReturnReason}

/-! ## The waits that end -/

/-- The event that records how the wait of `s` at a place ended. -/
inductive WaitEnd (k : Kernel) (s : Slot) : WaitPlace → UInt64 → Event → Prop
  | delivered {e : EpId} {r : Request} {n : UInt64} (here : r.ep = e) :
      WaitEnd k s (.receiver e) n (.delivered r s.u32 (k.endpoints e).receiverBufCap n)
  | completed {e : EpId} {r : Request} {how : Completion} {x0 : UInt64} (here : r.ep = e)
      (registered : (k.endpoints e).callerReq = some r) :
      WaitEnd k s (.caller e) x0 (.completed r s.u32 how x0)
  | reported {u : UInt32} : WaitEnd k s .supervisor u.toUInt64 (.reported u)

structure Ended (k k₁ : Kernel) (new : List Event) (w : WaitPlace) (s : Slot) (x0 : UInt64) :
    Prop where
  before : k.waiter w = s.i32
  after : k₁.waiter w ≠ s.i32
  event : ∃ ev, WaitEnd k s w x0 ev ∧ [.woke s x0 .blocked, ev] <:+: new

structure WaitsAccounted (k k₁ : Kernel) (new : List Event) : Prop where
  ended : ∀ w s, k.waiter w = Slot.i32 s → k₁.waiter w ≠ s.i32 → ∃ x0, Ended k k₁ new w s x0
  woken : ∀ s x0 prior, .woke s x0 prior ∈ new → ∃ w, Ended k k₁ new w s x0

theorem WaitsAccounted.quiet (waits : ∀ w s, k.waiter w = Slot.i32 s → k₁.waiter w = s.i32)
    (silent : ∀ s x0 prior, .woke s x0 prior ∉ new) : WaitsAccounted k k₁ new :=
  ⟨fun w s at_ gone => absurd (waits w s at_) gone,
    fun s x0 prior member => absurd member (silent s x0 prior)⟩

theorem WaitsAccounted.fill {p : WaitPlace} {u : Int32} (free : k.waiter p = slotNone)
    (waiters : ∀ w, k₁.waiter w = if w = p then u else k.waiter w)
    (silent : ∀ s x0 prior, .woke s x0 prior ∉ new) : WaitsAccounted k k₁ new := by
  refine .quiet (fun w s at_ => ?_) silent
  rw [waiters]
  split_ifs with here
  · subst here
    exact absurd (free.symm.trans at_) (Slot.none_ne_i32 s)
  · exact at_

theorem WaitsAccounted.one {ev : Event} (before : k.waiter w = s.i32)
    (ends : WaitEnd k s w x0 ev) (recorded : [.woke s x0 .blocked, ev] <:+: new)
    (others : ∀ w', w' ≠ w → ∀ u, k.waiter w' = Slot.i32 u → k₁.waiter w' = u.i32)
    (cleared : k₁.waiter w = slotNone) (only : ∀ u v prior, .woke u v prior ∈ new → u = s ∧ v = x0) :
    WaitsAccounted k k₁ new := by
  have ended : Ended k k₁ new w s x0 :=
    ⟨before, by rw [cleared]; exact Slot.none_ne_i32 s, ev, ends, recorded⟩
  refine ⟨fun w' u at_ gone => ?_, fun u v prior member => ?_⟩
  · by_cases same : w' = w
    · subst same
      obtain rfl : s = u := Slot.i32_inj.mp (ended.before.symm.trans at_)
      exact ⟨x0, ended⟩
    · exact absurd (others w' same u at_) gone
  · obtain ⟨rfl, rfl⟩ := only u v prior member
    exact ⟨w, ended⟩

/-- A transition that begins no wait and keeps what the events of the others are about. -/
def BeginsNone (k k₁ : Kernel) : Prop :=
  ∀ w s, k₁.waiter w = Slot.i32 s →
    k.waiter w = s.i32 ∧ ∀ x0 ev, WaitEnd k₁ s w x0 ev → WaitEnd k s w x0 ev

theorem BeginsNone.of_endpoints (endpoints : k₁.endpoints = k.endpoints)
    (supervisor : ∀ s, k₁.blockedSupervisorSlot = Slot.i32 s → k.blockedSupervisorSlot = s.i32) :
    BeginsNone k k₁ := by
  intro w s at_
  refine ⟨?_, fun x0 ev ends => ?_⟩
  · cases w with
    | caller | receiver =>
        simp only [Kernel.waiter, endpoints] at at_ ⊢
        exact at_
    | supervisor => exact supervisor s at_
  · cases ends with
    | delivered here =>
        rw [endpoints]
        exact .delivered here
    | completed here registered => exact .completed here (endpoints ▸ registered)
    | reported => exact .reported

theorem BeginsNone.trans (first : BeginsNone k k') (second : BeginsNone k' k₁) :
    BeginsNone k k₁ := by
  intro w s at_
  obtain ⟨at', event⟩ := second w s at_
  obtain ⟨here, event'⟩ := first w s at'
  exact ⟨here, fun x0 ev ends => event' x0 ev (event x0 ev ends)⟩

theorem WaitsAccounted.trans (first : WaitsAccounted k k' new) (second : WaitsAccounted k' k₁ new')
    (begins : BeginsNone k k') (begins' : BeginsNone k' k₁) : WaitsAccounted k k₁ (new ++ new') := by
  have early {w : WaitPlace} {s : Slot} {x0 : UInt64} (ended : Ended k k' new w s x0) :
      Ended k k₁ (new ++ new') w s x0 := by
    obtain ⟨ev, ends, recorded⟩ := ended.event
    exact ⟨ended.before, fun at_ => ended.after (begins' w s at_).1, ev, ends,
      recorded.trans (List.prefix_append _ _).isInfix⟩
  have late {w : WaitPlace} {s : Slot} {x0 : UInt64} (ended : Ended k' k₁ new' w s x0) :
      Ended k k₁ (new ++ new') w s x0 := by
    obtain ⟨ev, ends, recorded⟩ := ended.event
    obtain ⟨before, event⟩ := begins w s ended.before
    exact ⟨before, ended.after, ev, event _ _ ends, recorded.trans (List.suffix_append _ _).isInfix⟩
  refine ⟨fun w s at_ gone => ?_, fun s x0 prior member => ?_⟩
  · by_cases still : k'.waiter w = s.i32
    · obtain ⟨x0, ended⟩ := second.ended w s still gone
      exact ⟨x0, late ended⟩
    · obtain ⟨x0, ended⟩ := first.ended w s at_ still
      exact ⟨x0, early ended⟩
  · rcases List.mem_append.mp member with now | later
    · obtain ⟨w, ended⟩ := first.woken s x0 prior now
      exact ⟨w, early ended⟩
    · obtain ⟨w, ended⟩ := second.woken s x0 prior later
      exact ⟨w, late ended⟩

theorem takePending_new {ptr cap : UInt64} (ok : RequestsOk cfg k)
    (pending : (k.endpoints e).hasPending = true)
    (logged : (k.takePending t e ptr cap).log = k.log ++ new) : ∃ p, p.ep = e ∧
      new = [.delivered p t.u32 cap (minU64 (k.endpoints e).pendingLen cap)] := by
  obtain ⟨p, held⟩ := (ok.endpoints e).held pending
  have here := (ok.endpoints e).pending_ep held
  exact ⟨p, here,
    (List.append_cancel_left ((takePending_serving held here).logged.symm.trans logged)).symm⟩

theorem answer_new {ptr len : UInt64} (ok : RequestsOk cfg k) (kernel : KernelOk L cfg k none)
    (waiting : (k.endpoints e).blockedCallerSlot = s.i32)
    (logged : (k.answer t e ptr len s).log = k.log ++ new) : ∃ r, r.ep = e ∧
      (k.endpoints e).callerReq = some r ∧
        new = [.woke s (Kernel.replyResult (k.endpoints e) len) .blocked,
          .completed r s.u32 (.reply t.u32 len) (Kernel.replyResult (k.endpoints e) len)] := by
  have blocked := (kernel.recorded (w := .caller e) waiting).2
  obtain ⟨r, registered, _⟩ := (ok.endpoints e).caller_some waiting
  have here := (ok.endpoints e).awaiting_ep registered
  exact ⟨r, here, registered,
    (List.append_cancel_left ((answer_serving registered here blocked).logged.symm.trans logged)).symm⟩

theorem Effect.accounted (effect : Effect cfg k t tf k₁ o) (ok : RequestsOk cfg k)
    (kernel : KernelOk L cfg k none) (logged : k₁.log = k.log ++ new) : WaitsAccounted k k₁ new := by
  cases effect with
  | refused | ticks | yield | exit | write | fault =>
      obtain rfl : new = [] := List.self_eq_append_right.mp logged
      exact .quiet (fun w s at_ => at_) (by simp)
  | park _ accepts =>
      obtain rfl := List.append_cancel_left (parkRequest_serving.logged.symm.trans logged)
      exact .fill (show k.waiter (.caller _) = slotNone from accepts.free) waiter_parkRequest (by simp)
  | @handOver e d s _ accepts waiting =>
      have blocked := (kernel.recorded (w := .receiver e) waiting).2
      obtain rfl := List.append_cancel_left (handOver_serving.logged.symm.trans logged)
      have here : (k.newRequest t e d).ep = e := rfl
      rw [blocked]
      refine .one (w := .receiver e) waiting (.delivered here) (List.suffix_cons _ _).isInfix
        (fun w other u at_ => ?_) ((waiter_handOver _).trans (if_pos rfl)) (by simp +contextual)
      rw [waiter_handOver, if_neg other, waiter_registerCaller]
      split_ifs with caller
      · subst caller
        exact absurd (accepts.free.symm.trans at_) (Slot.none_ne_i32 u)
      · exact at_
  | take _ _ _ _ pending =>
      obtain ⟨_, _, rfl⟩ := takePending_new ok pending logged
      exact .quiet (fun w s at_ => (waiter_takePending w).trans at_) (by simp)
  | listen _ _ _ _ _ absent =>
      obtain rfl : new = [] := List.self_eq_append_right.mp logged
      exact .fill (show k.waiter (.receiver _) = slotNone from absent) waiter_listen (by simp)
  | @answer e s _ _ _ _ _ waiting =>
      obtain ⟨r, here, registered, rfl⟩ := answer_new ok kernel waiting logged
      exact .one (w := .caller e) waiting (.completed here registered) List.infix_rfl
        (fun w other u at_ => (waiter_answer w).trans (if_neg other) |>.trans at_)
        ((waiter_answer _).trans (if_pos rfl)) (by simp +contextual)
  | report | restart =>
      obtain rfl := List.append_cancel_left logged
      exact .quiet (fun w s at_ => by cases w <;> exact at_) (by simp)
  | await _ _ _ absent =>
      obtain rfl : new = [] := List.self_eq_append_right.mp logged
      exact .fill (show k.waiter .supervisor = slotNone from absent)
        (fun w => waiter_setBlockedSupervisor _ w) (by simp)

/-! ## What a death adds -/

inductive OfDeath (cfg : Config) (t : Slot) : Event → Prop
  | died : OfDeath cfg t (.died t.u32)
  | woke {s : Slot} {x0 : UInt64} {prior : TaskState} : OfDeath cfg t (.woke s x0 prior)
  | completed {r : Request} {caller : UInt32} {x0 : UInt64} (owner : initialOwner cfg r.ep = t.u32) :
      OfDeath cfg t (.completed r caller .ownerDeath x0)
  | discarded {r : Request} (owner : initialOwner cfg r.ep = t.u32) : OfDeath cfg t (.discarded r)
  | reported {u : UInt32} : OfDeath cfg t (.reported u)
  | overwritten {u : UInt32} : OfDeath cfg t (.overwritten u)

structure DeathReports (cfg : Config) (t : Slot) (k k₁ : Kernel) (new : List Event) : Prop where
  logged : k₁.log = k.log ++ new
  waits : WaitsAccounted k k₁ new
  begins : BeginsNone k k₁
  events : ∀ ev ∈ new, OfDeath cfg t ev

theorem DeathReports.trans (first : DeathReports cfg t k k' new)
    (second : DeathReports cfg t k' k₁ new') : DeathReports cfg t k k₁ (new ++ new') where
  logged := by rw [second.logged, first.logged, List.append_assoc]
  waits := first.waits.trans second.waits first.begins second.begins
  begins := first.begins.trans second.begins
  events ev member := by
    rcases List.mem_append.mp member with now | later
    · exact first.events ev now
    · exact second.events ev later

theorem abortCaller_reports (ok : RequestsOk cfg k) (kernel : KernelOk L cfg k none)
    (owner : (k.endpoints e).ownerSlot = t.u32)
    (waiting : (k.endpoints e).blockedCallerSlot = s.i32) :
    ∃ new, DeathReports cfg t k (k.abortCaller e s) new := by
  obtain ⟨r, registered, _⟩ := (ok.endpoints e).caller_some waiting
  have here := (ok.endpoints e).awaiting_ep registered
  have pendingHere : ∀ p ∈ (k.endpoints e).pendingReq, p.ep = e :=
    fun p held => (ok.endpoints e).pending_ep held
  have blocked := (kernel.recorded (w := .caller e) waiting).2
  have owned : initialOwner cfg e = t.u32 := (kernel.owners e).symm.trans owner
  refine ⟨_, (abortCaller_serving registered here pendingHere waiting blocked).logged, ?_, ?_, ?_⟩
  · exact .one (w := .caller e) waiting (.completed here registered)
      (List.prefix_append _ _).isInfix
      (fun w other u at_ => (waiter_abortCaller w).trans (if_neg other) |>.trans at_)
      ((waiter_abortCaller _).trans (if_pos rfl)) (by simp +contextual)
  · intro w u at_
    rw [waiter_abortCaller] at at_
    split_ifs at at_ with caller
    · exact absurd at_ (Slot.none_ne_i32 u)
    · refine ⟨at_, fun x0 ev ends => ?_⟩
      cases ends with
      | @delivered u' _ _ there =>
          have same : ((k.abortCaller e s).endpoints u').receiverBufCap =
              (k.endpoints u').receiverBufCap := by
            by_cases same : u' = e
            · simp [Kernel.abortCaller, same]
            · rw [abortCaller_on.elsewhere u' same]
          rw [same]
          exact .delivered there
      | @completed u' _ _ _ there held =>
          have other : u' ≠ e := fun same => caller (by rw [same])
          rw [abortCaller_on.elsewhere u' other] at held
          exact .completed there held
      | reported => exact .reported
  · intro ev member
    simp only [List.cons_append, List.nil_append, List.mem_cons, List.mem_map,
      Option.mem_toList] at member
    rcases member with rfl | rfl | ⟨p, held, rfl⟩
    · exact .woke
    · exact .completed (here ▸ owned)
    · exact .discarded (pendingHere p held ▸ owned)

theorem Aborts.reports (aborts : Aborts t k k₁) (ok : RequestsOk cfg k)
    (kernel : KernelOk L cfg k none) (leaving : Leaving k t) (died : .died t.u32 ∈ k.log) :
    ∃ new, DeathReports cfg t k k₁ new := by
  suffices reports : (∃ new, DeathReports cfg t k k₁ new) ∧ RequestsOk cfg k₁ ∧
      .died t.u32 ∈ k₁.log from reports.1
  induction aborts with
  | refl =>
      exact ⟨⟨[], (List.append_nil _).symm, .quiet (fun w s at_ => at_) (by simp),
        .of_endpoints rfl fun _ at_ => at_, by simp⟩, ok, died⟩
  | @abort k' e s before owner waiting _ ih =>
      obtain ⟨⟨new, earlier⟩, ok', died'⟩ := ih
      have kernel' := (before.keeps kernel leaving).1
      obtain ⟨new', now⟩ := abortCaller_reports ok' kernel' owner waiting
      exact ⟨⟨_, earlier.trans now⟩, abortCaller_requestsOk ok' kernel' died' owner waiting,
        by rw [now.logged]; exact List.mem_append_left _ died'⟩

theorem Noted.reports (noted : Noted t k k₁) (kernel : KernelOk L cfg k none) :
    ∃ new, DeathReports cfg t k k₁ new := by
  cases noted with
  | @woke s waiting =>
      have blocked := (kernel.recorded (w := .supervisor) waiting).2
      refine ⟨[.woke s t.u32.toUInt64 .blocked, .reported t.u32], ?_, ?_, ?_, ?_⟩
      · simp [blocked]
      · refine .one (w := .supervisor) waiting .reported List.infix_rfl (fun w other u at_ => ?_) rfl
          (by simp +contextual)
        cases w with
        | caller | receiver => exact at_
        | supervisor => exact absurd rfl other
      · exact .of_endpoints rfl fun u at_ => absurd at_ (Slot.none_ne_i32 u)
      · intro ev member
        simp only [List.mem_cons, List.not_mem_nil, or_false] at member
        rcases member with rfl | rfl
        · exact .woke
        · exact .reported
  | kept =>
      exact ⟨[], (List.append_nil _).symm, .quiet (fun w s at_ => by cases w <;> exact at_) (by simp),
        .of_endpoints rfl fun _ at_ => at_, by simp⟩
  | overwrote =>
      refine ⟨_, rfl, .quiet (fun w s at_ => by cases w <;> exact at_) (by simp),
        .of_endpoints rfl fun _ at_ => at_, fun ev member => ?_⟩
      cases List.mem_singleton.mp member
      exact .overwritten

theorem Left.reports (left : Left k t reason k₁) (ok : RequestsOk cfg k)
    (kernel : KernelOk L cfg k (if reason = .ipcBlock ∨ reason = .notifyBlock then some t else none))
    (active : Active k t) :
    (¬ (reason = .exit ∨ reason = .fault) ∧ k₁.log = k.log ∧ ∀ w, k₁.waiter w = k.waiter w) ∨
      (reason = .exit ∨ reason = .fault) ∧
        ∃ new, DeathReports cfg t k k₁ new ∧ .died t.u32 ∈ new := by
  cases left with
  | yield voluntary =>
      exact .inl ⟨by simp [voluntary], rfl, fun w => by cases w <;> rfl⟩
  | block blocks =>
      refine .inl ⟨?_, rfl, fun w => by cases w <;> rfl⟩
      rcases blocks with rfl | rfl
      · simp
      · simp
  | @death k₁ _ dies _ _ aborts _ noted =>
      obtain ⟨dying, leaving⟩ := active.dies dies kernel
      have marked : RequestsOk cfg ((k.emit (exitPrint k t reason)).dying t) :=
        ok.logged rfl rfl (by simp [Event.request?])
      have first : DeathReports cfg t k ((k.emit (exitPrint k t reason)).dying t) [.died t.u32] := by
        refine ⟨rfl, .quiet (fun w s at_ => by cases w <;> exact at_) (by simp),
          .of_endpoints rfl fun _ at_ => at_, fun ev member => ?_⟩
        cases List.mem_singleton.mp member
        exact .died
      obtain ⟨aborted, aborting⟩ := aborts.reports marked dying leaving (by simp [Kernel.dying])
      obtain ⟨notes, noting⟩ := noted.reports (aborts.keeps dying leaving).1
      exact .inr ⟨dies, _, (first.trans aborting).trans noting, by simp⟩

/-! ## What a trap adds -/

/-- The events of a trap of `t`, before the death of `t`. -/
inductive OfTrap (cfg : Config) (k k₁ : Kernel) (t : Slot) (tf : TrapFrame) (o : Outcome)
    (new : List Event) : Event → Prop
  | accepted {e : EpId} {d : Send} (sends : Sends cfg t tf e d) :
      OfTrap cfg k k₁ t tf o new (.accepted (k.newRequest t e d))
  | woke {s : Slot} {x0 : UInt64} {prior : TaskState} : OfTrap cfg k k₁ t tf o new (.woke s x0 prior)
  | handed {r : Request} {s : Slot} {n : UInt64} (ended : Ended k k₁ new (.receiver r.ep) s n) :
      OfTrap cfg k k₁ t tf o new (.delivered r s.u32 (k.endpoints r.ep).receiverBufCap n)
  | taken {r : Request} {n : UInt64} (asks : Asks tf sysIpcRecv)
      (found : getEndpoint (tf.x 0) = some r.ep) (returns : o = .back n) :
      OfTrap cfg k k₁ t tf o new (.delivered r t.u32 (tf.x 2) n)
  | answered {r : Request} {caller : UInt32} {x0 : UInt64} (replies : Replies k t tf r.ep) :
      OfTrap cfg k k₁ t tf o new (.completed r caller (.reply t.u32 (tf.x 2)) x0)
  | reported {u : UInt32} : OfTrap cfg k k₁ t tf o new (.reported u)
  | restarted {u : UInt32} : OfTrap cfg k k₁ t tf o new (.restarted u)

theorem Effect.ofTrap (effect : Effect cfg k t tf k₁ o) (ok : RequestsOk cfg k)
    (kernel : KernelOk L cfg k none) (logged : k₁.log = k.log ++ new) :
    ∀ ev ∈ new, OfTrap cfg k k₁ t tf o new ev := by
  have waits := effect.accounted ok kernel logged
  cases effect with
  | refused | ticks | yield | exit | write | fault | listen | await =>
      obtain rfl : new = [] := List.self_eq_append_right.mp logged
      simp
  | park sends =>
      obtain rfl := List.append_cancel_left (parkRequest_serving.logged.symm.trans logged)
      intro ev member
      cases List.mem_singleton.mp member
      exact .accepted sends
  | @handOver e d s sends _ waiting =>
      obtain rfl := List.append_cancel_left (handOver_serving.logged.symm.trans logged)
      intro ev member
      have woken := waits.woken s _ _ (List.mem_cons_of_mem _ List.mem_cons_self)
      simp only [List.mem_cons, List.not_mem_nil, or_false] at member
      rcases member with rfl | rfl | rfl
      · exact .accepted sends
      · exact .woke
      · obtain ⟨w, ended⟩ := woken
        obtain rfl : w = .receiver e := kernel.only ended.before waiting
        have here : (k.newRequest t e d).ep = e := rfl
        exact .handed (r := k.newRequest t e d) ended
  | @take e asks found _ _ pending =>
      obtain ⟨p, here, rfl⟩ := takePending_new ok pending logged
      intro ev member
      cases List.mem_singleton.mp member
      exact .taken asks (here ▸ found) rfl
  | @answer e s asks found length range owner waiting =>
      obtain ⟨r, here, _, rfl⟩ := answer_new ok kernel waiting logged
      intro ev member
      simp only [List.mem_cons, List.not_mem_nil, or_false] at member
      rcases member with rfl | rfl
      · exact .woke
      · subst here
        exact .answered ⟨asks, found, length, range, owner⟩
  | report =>
      obtain rfl := List.append_cancel_left logged
      intro ev member
      cases List.mem_singleton.mp member
      exact .reported
  | restart =>
      obtain rfl := List.append_cancel_left logged
      intro ev member
      cases List.mem_singleton.mp member
      exact .restarted

theorem Effect.sent {d : Send} (effect : Effect cfg k t tf k₁ o) (sends : Sends cfg t tf e d)
    (logged : k₁.log = k.log ++ new) :
    o = .back minusOne ∧ new = [] ∨ .accepted (k.newRequest t e d) ∈ new := by
  cases effect.of_sends sends with
  | refused => exact .inl ⟨rfl, List.self_eq_append_right.mp logged⟩
  | park =>
      obtain rfl := List.append_cancel_left (parkRequest_serving.logged.symm.trans logged)
      exact .inr (by simp)
  | handOver =>
      obtain rfl := List.append_cancel_left (handOver_serving.logged.symm.trans logged)
      exact .inr (by simp)

theorem Effect.received (effect : Effect cfg k t tf k₁ (.back n)) (ok : RequestsOk cfg k)
    (asks : Asks tf sysIpcRecv) (fine : n ≠ minusOne) (logged : k₁.log = k.log ++ new) :
    ∃ r, getEndpoint (tf.x 0) = some r.ep ∧ .delivered r t.u32 (tf.x 2) n ∈ new := by
  cases effect.of_recv asks with
  | refused => exact absurd rfl fine
  | @take e found _ pending =>
      obtain ⟨p, here, rfl⟩ := takePending_new ok pending logged
      exact ⟨p, here ▸ found, List.mem_singleton_self _⟩

theorem Effect.replied (effect : Effect cfg k t tf k₁ (.back n)) (ok : RequestsOk cfg k)
    (kernel : KernelOk L cfg k none) (asks : Asks tf sysIpcReply) (fine : n ≠ minusOne)
    (logged : k₁.log = k.log ++ new) : ∃ r caller x0, getEndpoint (tf.x 0) = some r.ep ∧
      .completed r caller (.reply t.u32 (tf.x 2)) x0 ∈ new := by
  cases effect.of_reply asks with
  | refused => exact absurd rfl fine
  | @answer e s found _ _ _ waiting =>
      obtain ⟨r, here, _, rfl⟩ := answer_new ok kernel waiting logged
      exact ⟨r, s.u32, _, here ▸ found, List.mem_cons_of_mem _ List.mem_cons_self⟩

/-! ## What a step reports -/

/-- A receive of `s` on `e` with the capacity `cap` returns `n` at once. -/
structure ReceivesAtOnce (m : Machine) (a : Action) (m' : Machine) (s : Slot) (e : EpId)
    (cap n : UInt64) : Prop where
  trap : ∃ stores tf, a = .trap stores tf ∧ Asks tf sysIpcRecv ∧ getEndpoint (tf.x 0) = some e ∧
    tf.x 2 = cap
  current : m.kernel.current = some s
  returns : ∃ regs, m'.phase = .el0 regs ∧ regs.x 0 = n

/-- What the events `new` of a step tell. A call or routed write is refused with -1 and leaves no
trace, or is accepted; each delivery and each completion goes with the return or the wake that
reports it, and the other way round; and a request is given up only where its owner dies. -/
structure StepReports (cfg : Config) (m : Machine) (a : Action) (m' : Machine) (new : List Event) :
    Prop where
  logged : m'.kernel.log = m.kernel.log ++ new
  waits : WaitsAccounted m.kernel m'.kernel new
  rejected : ∀ stores tf regs, a = .trap stores tf → Asks tf sysIpcCall ∨ Asks tf sysWrite →
    m'.phase = .el0 regs → new = [] ∧ m'.kernel.endpoints = m.kernel.endpoints
  sent : ∀ stores tf t e d, a = .trap stores tf → m.kernel.current = some t → Sends cfg t tf e d →
    (∃ regs, m'.phase = .el0 regs ∧ regs.x 0 = minusOne) ∨
      .accepted ((m.trapped stores).newRequest t e d) ∈ new
  accepted : ∀ r, .accepted r ∈ new → ∃ stores tf t e d, a = .trap stores tf ∧
    m.kernel.current = some t ∧ Sends cfg t tf e d ∧ r = (m.trapped stores).newRequest t e d
  received : ∀ s e cap n, ReceivesAtOnce m a m' s e cap n → n ≠ minusOne →
    ∃ r, r.ep = e ∧ .delivered r s.u32 cap n ∈ new
  delivered : ∀ r receiver cap n, .delivered r receiver cap n ∈ new → ∃ s, receiver = Slot.u32 s ∧
    (ReceivesAtOnce m a m' s r.ep cap n ∨ cap = (m.kernel.endpoints r.ep).receiverBufCap ∧
      Ended m.kernel m'.kernel new (.receiver r.ep) s n)
  replied : ∀ stores tf t regs, a = .trap stores tf → m.kernel.current = some t →
    Asks tf sysIpcReply → m'.phase = .el0 regs → regs.x 0 ≠ minusOne →
      ∃ r caller x0, getEndpoint (tf.x 0) = some r.ep ∧
        .completed r caller (.reply t.u32 (tf.x 2)) x0 ∈ new
  completed : ∀ r caller owner len x0, .completed r caller (.reply owner len) x0 ∈ new →
    ∃ stores tf t, a = .trap stores tf ∧ m.kernel.current = some t ∧ owner = t.u32 ∧ len = tf.x 2 ∧
      Replies m.kernel t tf r.ep
  abandoned : ∀ r, .discarded r ∈ new ∨ (∃ caller x0, .completed r caller .ownerDeath x0 ∈ new) →
    .died (initialOwner cfg r.ep) ∈ new
  died : ∀ u, .died u ∈ new → ∃ stores tf t, a = .trap stores tf ∧ m.kernel.current = some t ∧
    u = t.u32 ∧ tf.Dies ∧ (m'.kernel.threads t).user.state = .dead

theorem Ended.congr (ended : Ended k k' new w s x0) (endpoints : k₁.endpoints = k.endpoints)
    (before : k₁.waiter w = k.waiter w) (after : k₂.waiter w = k'.waiter w) :
    Ended k₁ k₂ new w s x0 := by
  obtain ⟨at_, gone, ev, ends, recorded⟩ := ended
  refine ⟨before.trans at_, fun still => gone (after.symm.trans still), ev, ?_, recorded⟩
  cases ends with
  | delivered here => exact endpoints ▸ .delivered here
  | completed here registered => exact .completed here (endpoints ▸ registered)
  | reported => exact .reported

theorem WaitsAccounted.congr (accounted : WaitsAccounted k k' new)
    (endpoints : k₁.endpoints = k.endpoints) (before : ∀ w, k₁.waiter w = k.waiter w)
    (after : ∀ w, k₂.waiter w = k'.waiter w) : WaitsAccounted k₁ k₂ new := by
  refine ⟨fun w s at_ gone => ?_, fun s x0 prior member => ?_⟩
  · obtain ⟨x0, ended⟩ := accounted.ended w s ((before w).symm.trans at_)
      fun still => gone ((after w).trans still)
    exact ⟨x0, ended.congr endpoints (before w) (after w)⟩
  · obtain ⟨w, ended⟩ := accounted.woken s x0 prior member
    exact ⟨w, ended.congr endpoints (before w) (after w)⟩

theorem Effect.logs (effect : Effect cfg k t tf k₁ o) : ∃ new, k₁.log = k.log ++ new := by
  cases effect with
  | refused | ticks | yield | exit | write | fault | listen | await =>
      exact ⟨[], (List.append_nil _).symm⟩
  | park => exact ⟨_, parkRequest_serving.logged⟩
  | handOver => exact ⟨_, handOver_serving.logged⟩
  | take | report | restart => exact ⟨_, rfl⟩
  | answer => exact ⟨_, by simp [Kernel.answer]; rfl⟩

theorem waiter_trapped (stores : List (SandboxAddress × UInt8)) (w : WaitPlace) :
    (m.trapped stores).waiter w = m.kernel.waiter w := by
  cases w <;> rfl

theorem Effect.stepReports {stores : List (SandboxAddress × UInt8)}
    (effect : Effect cfg (m.trapped stores) t tf k₁ o) (ok : RequestsOk cfg m.kernel)
    (kernel : KernelOk L cfg (m.trapped stores) none) (current : m.kernel.current = some t)
    (log : m'.kernel.log = k₁.log) (endpoints : m'.kernel.endpoints = k₁.endpoints)
    (waiter : ∀ w, m'.kernel.waiter w = k₁.waiter w)
    (phase : ∀ regs, m'.phase = .el0 regs ↔ ∃ x0, o = .back x0 ∧ regs = tf.after x0) :
    ∃ new, StepReports cfg m (.trap stores tf) m' new := by
  have stored : RequestsOk cfg (m.trapped stores) := ⟨ok.endpoints, ok.history⟩
  have mine {u : Slot} (here : m.kernel.current = some u) : u = t :=
    Option.some_inj.mp (here.symm.trans current)
  have returns {regs : UserTaskCtx} (el0 : m'.phase = .el0 regs) : o = .back (regs.x 0) := by
    obtain ⟨x0, rfl, rfl⟩ := (phase regs).mp el0
    simp [TrapFrame.after]
  obtain ⟨new, logged⟩ := effect.logs
  have events := effect.ofTrap stored kernel logged
  refine ⟨new, log.trans logged, ?_, ?_, ?_, ?_, ?_, ?_, ?_, ?_, ?_, ?_⟩
  · exact (effect.accounted stored kernel logged).congr rfl (fun w => (waiter_trapped stores w).symm)
      waiter
  · rintro _ _ regs ⟨⟩ asks el0
    have back := returns el0
    cases effect with
    | refused | ticks | write =>
        exact ⟨List.self_eq_append_right.mp logged, endpoints⟩
    | yield | exit | fault | park | handOver | listen | await => cases back
    | take other | answer other | report other | restart other =>
        rcases asks with call | write
        · exact absurd (other.unique call) (by decide)
        · exact absurd (other.unique write) (by decide)
  · rintro _ _ u e d ⟨⟩ here sends
    obtain rfl := mine here
    rcases effect.sent sends logged with ⟨refused, _⟩ | accepted
    · exact .inl ⟨_, (phase _).mpr ⟨_, refused, rfl⟩, by simp [TrapFrame.after]⟩
    · exact .inr accepted
  · intro r member
    cases events _ member with
    | accepted sends => exact ⟨_, _, _, _, _, rfl, current, sends, rfl⟩
  · rintro u e cap n ⟨⟨_, _, ⟨⟩, asks, found, rfl⟩, here, regs, el0, rfl⟩ fine
    obtain rfl := mine here
    obtain rfl := returns el0
    obtain ⟨r, found', delivered⟩ := effect.received stored asks fine logged
    exact ⟨r, Option.some_inj.mp (found'.symm.trans found), delivered⟩
  · intro r receiver cap n member
    cases events _ member with
    | handed ended =>
        exact ⟨_, rfl, .inr ⟨rfl, ended.congr rfl (waiter_trapped stores _).symm (waiter _)⟩⟩
    | taken asks found returned =>
        exact ⟨t, rfl, .inl ⟨⟨stores, tf, rfl, asks, found, rfl⟩, current, _,
          (phase _).mpr ⟨n, returned, rfl⟩, by simp [TrapFrame.after]⟩⟩
  · rintro _ _ u regs ⟨⟩ here asks el0 fine
    obtain rfl := mine here
    obtain rfl := returns el0
    exact effect.replied stored kernel asks fine logged
  · intro r caller owner len x0 member
    cases events _ member with
    | answered replies =>
        exact ⟨_, _, _, rfl, current, rfl, rfl, replies.asks, replies.found, replies.length,
          replies.range, replies.owner⟩
  · rintro r (member | ⟨caller, x0, member⟩)
    · cases events _ member
    · cases events _ member
  · intro u member
    cases events _ member

theorem Effect.dying (effect : Effect cfg k t tf k₁ (.away reason))
    (dies : reason = .exit ∨ reason = .fault) : k₁.log = k.log ∧ k₁.endpoints = k.endpoints ∧
      k₁.blockedSupervisorSlot = k.blockedSupervisorSlot := by
  cases effect with
  | exit | fault => exact ⟨rfl, rfl, rfl⟩
  | yield | park | handOver | listen | await => simp at dies

theorem DeathReports.stepReports {stores : List (SandboxAddress × UInt8)}
    (reports : DeathReports cfg t k k₁ new) (died : .died t.u32 ∈ new) (dies : tf.Dies)
    (current : m.kernel.current = some t) (before : k.log = m.kernel.log)
    (endpoints : m.kernel.endpoints = k.endpoints) (waiter : ∀ w, m.kernel.waiter w = k.waiter w)
    (dead : (k₁.threads t).user.state = .dead) {p : Phase} (away : ∀ regs, p ≠ .el0 regs)
    {resched : Bool} :
    StepReports cfg m (.trap stores tf) ⟨k₁.setResched resched, p⟩ new := by
  refine ⟨?_, ?_, ?_, ?_, ?_, ?_, ?_, ?_, ?_, ?_, ?_⟩
  · exact before ▸ reports.logged
  · exact reports.waits.congr endpoints waiter fun w => by cases w <;> rfl
  · exact fun _ _ regs _ _ el0 => absurd el0 (away regs)
  · rintro _ _ u e d ⟨⟩ _ sends
    exact absurd dies sends.lives
  · intro r member
    cases reports.events _ member
  · rintro u e cap n ⟨_, _, regs, el0, _⟩
    exact absurd el0 (away regs)
  · intro r receiver cap n member
    cases reports.events _ member
  · exact fun _ _ _ regs _ _ _ el0 => absurd el0 (away regs)
  · intro r caller owner len x0 member
    cases reports.events _ member
  · rintro r (member | ⟨caller, x0, member⟩)
    · cases reports.events _ member with
      | discarded owner => exact owner ▸ died
    · cases reports.events _ member with
      | completed owner => exact owner ▸ died
  · intro u member
    cases reports.events _ member
    exact ⟨_, _, _, rfl, current, rfl, dies, dead⟩

theorem step_reports (inv : Inv L cfg m) (ok : RequestsOk cfg m.kernel)
    (step : m.step L cfg a = some m') : ∃ new, StepReports cfg m a m' new := by
  have stored (stores : List (SandboxAddress × UInt8)) : RequestsOk cfg (m.trapped stores) :=
    ⟨ok.endpoints, ok.history⟩
  cases (step_cases inv step).1 with
  | quiet untrapped quiet =>
      refine ⟨[], by rw [quiet.log, List.append_nil],
        .quiet (fun w s at_ => (quiet.waiter w).trans at_) (by simp), ?_, ?_, by simp, ?_, by simp, ?_,
        by simp, by simp, by simp⟩
      · exact fun stores tf _ isTrap => absurd isTrap (untrapped stores tf)
      · exact fun stores tf _ _ _ isTrap => absurd isTrap (untrapped stores tf)
      · rintro s e cap n ⟨⟨stores, tf, isTrap, _⟩, _, _⟩
        exact absurd isTrap (untrapped stores tf)
      · exact fun stores tf _ _ isTrap => absurd isTrap (untrapped stores tf)
  | @back stores _ _ _ _ x0 phase active _ effect =>
      have kernel := (inv.active phase).1.setMem (userStores stores m.kernel.mem)
      refine effect.stepReports ok kernel active.current rfl rfl (fun _ => rfl) fun regs => ?_
      constructor
      · rintro ⟨⟩
        exact ⟨x0, rfl, rfl⟩
      · rintro ⟨_, ⟨⟩, rfl⟩
        rfl
  | @outside stores _ _ _ _ _ phase active _ effect =>
      have kernel := (inv.active phase).1.setMem (userStores stores m.kernel.mem)
      exact effect.stepReports ok kernel active.current rfl rfl (fun _ => rfl) fun regs => by simp
  | @away stores tf t _ k₁ k₂ reason phase active _ effect inside left =>
      have kernel := (inv.active phase).1.setMem (userStores stores m.kernel.mem)
      have active' : Active (m.kernel.setMem (userStores stores m.kernel.mem)) t :=
        active.congr rfl rfl rfl
      obtain ⟨okSaved, activeSaved⟩ := effect.saved kernel active' inside
      have after := effect.requestsOk (stored stores) kernel
      have saved : RequestsOk cfg (k₁.saveFrame t tf reason) := ⟨after.endpoints, after.history⟩
      rcases left.reports saved okSaved activeSaved with ⟨lives, log, waiter⟩ | ⟨dies, new, reports, died⟩
      · refine effect.stepReports ok kernel active.current log ?_ (fun w => ?_) fun regs => by simp
        · rw [left.lives lives]
          rfl
        · refine Eq.trans ?_ ((waiter w).trans ?_)
          · cases w <;> rfl
          · cases w <;> rfl
      · obtain ⟨log, endpoints, supervisor⟩ := effect.dying dies
        have dead := (left.dead dies okSaved activeSaved).1
        refine ⟨new, reports.stepReports died (effect.dies dies) active.current log endpoints.symm
          (fun w => ?_) dead (by simp)⟩
        cases w with
        | caller | receiver =>
            simp only [Kernel.waiter, Kernel.saveFrame_endpoints, endpoints]
            rfl
        | supervisor => exact supervisor.symm

/-! ## Exactly-once delivery and single completion -/

/-- What an endpoint has done with the requests it accepted. -/
structure Serves (k : Kernel) (e : EpId) : Prop where
  distinct : (acceptedOn e k.log).Nodup
  inOrder : (deliveredOn e k.log).Sublist (acceptedOn e k.log)
  account : (acceptedOn e k.log).Perm
    (deliveredOn e k.log ++ discardedOn e k.log ++ (k.endpoints e).pendingReq.toList)
  held : (k.endpoints e).hasPending = (k.endpoints e).pendingReq.isSome
  completedOnce : (completedOn e k.log).Nodup
  completedAccepted : ∀ r ∈ completedOn e k.log, r ∈ acceptedOn e k.log

theorem RequestsOk.serves (ok : RequestsOk cfg k) (e : EpId) : Serves k e := by
  obtain ⟨c, mirrors⟩ := (ok.endpoints e).channel
  refine ⟨?_, ?_, ?_, (ok.endpoints e).pending, ?_, ?_⟩
  · rw [mirrors.accepted]
    exact c.distinct
  · rw [mirrors.accepted, mirrors.delivered]
    exact (List.sublist_append_left _ _).trans c.order
  · rw [mirrors.accepted, mirrors.delivered, mirrors.discarded, mirrors.pending]
    exact c.account
  · rw [mirrors.completed]
    exact c.once
  · rw [mirrors.completed, mirrors.accepted]
    exact c.known

theorem run_serves (run : (kernelSystem L cfg).Run h m) :
    (∀ e, Serves m.kernel e) ∧ HistoryOk cfg m.kernel.log ∧
      ∀ a m', m.step L cfg a = some m' → ∃ new, StepReports cfg m a m' new := by
  have ok : RequestsOk cfg m.kernel := requests_data.run run
  exact ⟨ok.serves, ok.history, fun a m' step => step_reports (run_inv run) ok step⟩

theorem run_serves_call : ∃ h m, (kernelSystem .sample .sample).Run h m ∧
    (completedOn epUart m.kernel.log).length = 1 ∧ Serves m.kernel epUart := by
  obtain ⟨m, ran, completed⟩ : ∃ m, runFromBoot .sample .sample (List.replicate 4 .advance ++
      [.trap [] (.svc sysIpcCall [1, el0SandboxBase, 4, el0SandboxBase, 4])] ++
      List.replicate 5 .advance ++ [.trap [] (.svc sysIpcRecv [1, el0SandboxBase, 4]),
        .trap [] (.svc sysIpcReply [1, el0SandboxBase, 4])]) = some m ∧
      (completedOn epUart m.kernel.log).length = 1 := ⟨_, rfl, rfl⟩
  obtain ⟨h, run, _⟩ := runFromBoot_run ran
  exact ⟨h, m, run, completed, (run_serves run).1 epUart⟩

end ProtoOs
