import ProtoOs.Proof.Calls
import ProtoOs.Proof.Requests

/-!
# The request/reply protocol

The kernel lets a server answer a caller whose request it has not received yet, and wait for a
request while a caller awaits its reply. These are the two ways out of the protocol: where a run
takes neither, every endpoint stays in one of four states, and every reply answers the request
delivered last.
-/

namespace ProtoOs

open Messaging

variable {L : Layout} {cfg : Config} {k k₁ : Kernel} {m m' : Machine} {h : List (Machine × Action)}
  {t s : Slot} {e : EpId} {tf : TrapFrame} {a : Action} {o : Outcome} {new : List Event}

/-! ## Leaving the protocol -/

/-- The owner answers its caller before it has received the request. -/
structure RepliesEarly (k : Kernel) (t : Slot) (tf : TrapFrame) (e : EpId) : Prop where
  asks : Asks tf sysIpcReply
  found : getEndpoint (tf.x 0) = some e
  length : tf.x 2 ≤ ipcMsgSize
  range : el0BufRangeOk (tf.x 1) (tf.x 2)
  owner : (k.endpoints e).ownerSlot = t.u32
  waiting : (k.endpoints e).blockedCallerSlot ≠ slotNone
  pending : (k.endpoints e).hasPending = true

/-- The owner waits for a request while a caller awaits its reply. -/
structure ListensInService (k : Kernel) (t : Slot) (tf : TrapFrame) (e : EpId) : Prop where
  asks : Asks tf sysIpcRecv
  found : getEndpoint (tf.x 0) = some e
  range : el0BufRangeOk (tf.x 1) (tf.x 2)
  owner : (k.endpoints e).ownerSlot = t.u32
  waiting : (k.endpoints e).blockedCallerSlot ≠ slotNone
  quiet : (k.endpoints e).hasPending = false

theorem RepliesEarly.effect (early : RepliesEarly k t tf e) (effect : Effect cfg k t tf k₁ o) :
    o = .back 0 ∧ (k₁.endpoints e).hasPending = true ∧
      (k₁.endpoints e).blockedCallerSlot = slotNone := by
  cases effect.of_reply early.asks with
  | refused no =>
      exact absurd (no e early.found early.length early.range early.owner) early.waiting
  | answer found =>
      cases found.symm.trans early.found
      refine ⟨rfl, ?_, ?_⟩
      · simpa [Kernel.answer] using early.pending
      · simp [Kernel.answer]

theorem ListensInService.effect (listens : ListensInService k t tf e)
    (effect : Effect cfg k t tf k₁ o) (absent : (k.endpoints e).blockedReceiverSlot = slotNone) :
    o = .away .ipcBlock ∧ (k₁.endpoints e).blockedCallerSlot ≠ slotNone ∧
      (k₁.endpoints e).blockedReceiverSlot ≠ slotNone := by
  cases effect.of_recv listens.asks with
  | refused no => exact absurd absent (no e listens.found listens.range listens.owner).2
  | take found _ pending =>
      cases found.symm.trans listens.found
      rw [listens.quiet] at pending
      cases pending
  | listen found =>
      cases found.symm.trans listens.found
      refine ⟨rfl, ?_, ?_⟩
      · simpa [Kernel.listen] using listens.waiting
      · simp [Kernel.listen]

def Machine.Traps (m : Machine) (does : Kernel → Slot → TrapFrame → Prop) : Action → Prop
  | .trap stores tf => ∃ t, m.kernel.current = some t ∧
      does (m.kernel.setMem (userStores stores m.kernel.mem)) t tf
  | _ => False

theorem Left.endpoints {reason : TaskReturnReason} (left : Left k t reason k₁)
    (lives : reason ≠ .exit ∧ reason ≠ .fault) : k₁.endpoints = k.endpoints := by
  cases left with
  | yield | block => rfl
  | death dies =>
      rcases dies with rfl | rfl
      · exact absurd rfl lives.1
      · exact absurd rfl lives.2

/-- A trap with the effect `k₁` and the outcome `o`; what follows the effect leaves the endpoints
alone unless the task dies. -/
structure TrapTaken (L : Layout) (cfg : Config) (m : Machine)
    (stores : List (SandboxAddress × UInt8)) (tf : TrapFrame) (m' : Machine) (t : Slot)
    (k₁ : Kernel) (o : Outcome) : Prop where
  ok : KernelOk L cfg m.kernel none
  active : Active m.kernel t
  effect : Effect cfg (m.kernel.setMem (userStores stores m.kernel.mem)) t tf k₁ o
  back : ∀ x0, o = .back x0 → m' = ⟨k₁, .el0 (tf.after x0)⟩
  away : ∀ reason regs, o = .away reason → m'.phase ≠ .el0 regs
  endpoints : o ≠ .away .exit ∧ o ≠ .away .fault → m'.kernel.endpoints = k₁.endpoints

theorem trap_taken {stores : List (SandboxAddress × UInt8)} (inv : Inv L cfg m)
    (step : m.step L cfg (.trap stores tf) = some m') :
    ∃ t k₁ o, TrapTaken L cfg m stores tf m' t k₁ o := by
  cases (step_cases inv step).1 with
  | quiet untrapped => exact absurd rfl (untrapped stores tf)
  | @back _ _ t _ k₁ x0 phase active _ effect =>
      refine ⟨t, k₁, .back x0, (inv.active phase).1, active, effect, ?_, by nofun, fun _ => rfl⟩
      rintro _ ⟨⟩
      rfl
  | @away _ _ t _ k₁ k₂ reason phase active _ effect _ left =>
      refine ⟨t, k₁, .away reason, (inv.active phase).1, active, effect, by nofun, by nofun, ?_⟩
      exact fun lives => left.endpoints (by simpa using lives)
  | @outside _ _ t _ k₁ reason phase active _ effect =>
      exact ⟨t, k₁, .away reason, (inv.active phase).1, active, effect, by nofun, by nofun,
        fun _ => rfl⟩

/-! ## The states of the protocol -/

/-- Which of the pending message, the blocked caller and the blocked receiver an endpoint may hold
at a time. -/
inductive Endpoint.Legal (ep : Endpoint) : Prop
  | idle (quiet : ep.hasPending = false) (free : ep.blockedCallerSlot = slotNone)
      (absent : ep.blockedReceiverSlot = slotNone)
  | receiverWaiting (quiet : ep.hasPending = false) (free : ep.blockedCallerSlot = slotNone)
      (present : ep.blockedReceiverSlot ≠ slotNone)
  | requestPending (pending : ep.hasPending = true) (waiting : ep.blockedCallerSlot ≠ slotNone)
      (absent : ep.blockedReceiverSlot = slotNone)
  | inService (quiet : ep.hasPending = false) (waiting : ep.blockedCallerSlot ≠ slotNone)
      (absent : ep.blockedReceiverSlot = slotNone)

theorem Endpoint.legal_iff {ep : Endpoint} : ep.Legal ↔
    (ep.hasPending = true → ep.blockedCallerSlot ≠ slotNone) ∧
      (ep.blockedCallerSlot ≠ slotNone → ep.blockedReceiverSlot = slotNone) := by
  constructor
  · intro legal
    cases legal with
    | idle quiet free absent => exact ⟨by simp [quiet], fun _ => absent⟩
    | receiverWaiting quiet free present => exact ⟨by simp [quiet], fun waiting => absurd free waiting⟩
    | requestPending pending waiting absent => exact ⟨fun _ => waiting, fun _ => absent⟩
    | inService quiet waiting absent => exact ⟨fun _ => waiting, fun _ => absent⟩
  · rintro ⟨held, exclusive⟩
    by_cases free : ep.blockedCallerSlot = slotNone
    · have quiet : ep.hasPending = false := by
        cases pending : ep.hasPending with
        | false => rfl
        | true => exact absurd free (held pending)
      by_cases absent : ep.blockedReceiverSlot = slotNone
      · exact .idle quiet free absent
      · exact .receiverWaiting quiet free absent
    · cases pending : ep.hasPending with
      | false => exact .inService pending free (exclusive free)
      | true => exact .requestPending pending free (exclusive free)

def EndpointsLegal (k : Kernel) : Prop := ∀ e, (k.endpoints e).Legal

theorem EndpointsLegal.update (legal : EndpointsLegal k) (on : OnEndpoint k k₁ e)
    (here : (k₁.endpoints e).Legal) : EndpointsLegal k₁ := by
  intro u
  by_cases same : u = e
  · rw [same]
    exact here
  · rw [on.elsewhere u same]
    exact legal u

/-- The trap of a task that leaves the protocol at some endpoint. -/
def BreaksProtocol (k : Kernel) (t : Slot) (tf : TrapFrame) : Prop :=
  ∃ e, RepliesEarly k t tf e ∨ ListensInService k t tf e

theorem Effect.legal (effect : Effect cfg k t tf k₁ o) (legal : EndpointsLegal k)
    (fine : ¬ BreaksProtocol k t tf) : EndpointsLegal k₁ := by
  cases effect with
  | refused | ticks | yield | exit | write | fault | report | await | restart => exact legal
  | @park e d _ accepts absent =>
      apply legal.update parkRequest_on
      apply Endpoint.Legal.requestPending
      · simp [Kernel.parkRequest]
      · simp [Kernel.parkRequest, Kernel.registerCaller]
      · simpa [Kernel.parkRequest, Kernel.registerCaller] using absent
  | @handOver e d s _ accepts =>
      apply legal.update handOver_on
      apply Endpoint.Legal.inService
      · simpa [Kernel.handOver, Kernel.registerCaller] using accepts.quiet
      · simp [Kernel.handOver, Kernel.registerCaller]
      · simp [Kernel.handOver, Kernel.registerCaller]
  | @take e _ _ _ _ pending =>
      obtain ⟨held, exclusive⟩ := Endpoint.legal_iff.mp (legal e)
      apply legal.update takePending_on
      apply Endpoint.Legal.inService
      · simp [Kernel.takePending]
      · simpa [Kernel.takePending] using held pending
      · simpa [Kernel.takePending] using exclusive (held pending)
  | @listen e asks found range owner quiet _ =>
      have free : (k.endpoints e).blockedCallerSlot = slotNone :=
        not_not.mp fun waiting => fine ⟨e, .inr ⟨asks, found, range, owner, waiting, quiet⟩⟩
      apply legal.update listen_on
      apply Endpoint.Legal.receiverWaiting
      · simpa [Kernel.listen] using quiet
      · simpa [Kernel.listen] using free
      · simp [Kernel.listen]
  | @answer e s asks found length range owner waiting _ =>
      have present : (k.endpoints e).blockedCallerSlot ≠ slotNone := by
        rw [waiting]
        exact s.i32_ne_none
      have quiet : (k.endpoints e).hasPending = false := Bool.eq_false_iff.mpr fun pending =>
        fine ⟨e, .inl ⟨asks, found, length, range, owner, present, pending⟩⟩
      apply legal.update answer_on
      apply Endpoint.Legal.idle
      · simpa [Kernel.answer] using quiet
      · simp [Kernel.answer]
      · simpa [Kernel.answer] using (Endpoint.legal_iff.mp (legal e)).2 present

theorem abortCaller_legal (legal : EndpointsLegal k)
    (waiting : (k.endpoints e).blockedCallerSlot = s.i32) : EndpointsLegal (k.abortCaller e s) := by
  have absent := (Endpoint.legal_iff.mp (legal e)).2 (by simp [waiting])
  apply legal.update abortCaller_on
  apply Endpoint.Legal.idle
  · simp [Kernel.abortCaller]
  · simp [Kernel.abortCaller]
  · simpa [Kernel.abortCaller] using absent

theorem legal_data :
    DataInvariant L cfg (fun k t tf => ¬ BreaksProtocol k t tf) EndpointsLegal where
  start mem m booted e := by
    rw [booted.endpoints e]
    exact .idle rfl rfl rfl
  congr k k' same legal e := by
    rw [same.endpoints]
    exact legal e
  effect _ _ _ _ _ _ _ fine legal effect := effect.legal legal fine
  died _ _ legal := legal
  abort _ _ _ _ _ _ _ waiting legal := abortCaller_legal legal waiting
  noted _ _ _ _ noted legal := by
    cases noted with
    | woke | kept | overwrote => exact legal

theorem step_illegal (inv : Inv L cfg m) (legal : EndpointsLegal m.kernel)
    (breaks : m.Traps BreaksProtocol a) (step : m.step L cfg a = some m') :
    ¬ EndpointsLegal m'.kernel := by
  cases a with
  | tick | advance => exact breaks.elim
  | trap stores tf =>
      obtain ⟨u, current, e, leaves⟩ := breaks
      obtain ⟨t, k₁, o, taken⟩ := trap_taken inv step
      cases current.symm.trans taken.active.current
      intro after
      have here := Endpoint.legal_iff.mp (after e)
      rcases leaves with early | listens
      · obtain ⟨rfl, pending, free⟩ := early.effect taken.effect
        rw [taken.endpoints (by simp)] at here
        exact here.1 pending free
      · have absent := (Endpoint.legal_iff.mp (legal e)).2 listens.waiting
        obtain ⟨rfl, waiting, present⟩ := listens.effect taken.effect absent
        rw [taken.endpoints (by simp)] at here
        exact present (here.2 waiting)

theorem run_legal_iff (run : (kernelSystem L cfg).Run h m) :
    ((∀ p ∈ h, EndpointsLegal p.1.kernel) ∧ EndpointsLegal m.kernel) ↔
      ∀ p ∈ h, ¬ p.1.Traps BreaksProtocol p.2 := by
  apply run.good_iff (Inv L cfg) (fun m => EndpointsLegal m.kernel)
    (fun m a => m.Traps BreaksProtocol a)
  · rintro m ⟨mem, booted⟩
    exact ⟨(boot_booted booted).inv, legal_data.start mem m (boot_booted booted)⟩
  · exact fun m a m' inv step => (step_cases inv step).2
  · intro m a m' inv legal step
    constructor
    · exact fun after breaks => step_illegal inv legal breaks step after
    · intro fine
      apply legal_data.step inv legal _ step
      intro stores tf t isTrap current breaks
      subst isTrap
      exact fine ⟨t, current, breaks⟩

theorem run_legal_iff_call : ∃ h m, (kernelSystem .sample .sample).Run h m ∧
    (m.kernel.endpoints epUart).hasPending = true ∧
      (∀ p ∈ h, EndpointsLegal p.1.kernel) ∧ EndpointsLegal m.kernel := by
  obtain ⟨m, ran, pending⟩ : ∃ m, runFromBoot .sample .sample (List.replicate 4 .advance ++
      [.trap [] (.svc sysIpcCall [1, el0SandboxBase, 4, el0SandboxBase, 4])]) = some m ∧
      (m.kernel.endpoints epUart).hasPending = true := ⟨_, rfl, rfl⟩
  obtain ⟨h, run, members⟩ := runFromBoot_run ran
  refine ⟨h, m, run, pending, (run_legal_iff run).mpr fun p member breaks => ?_⟩
  rcases List.mem_append.mp (members p member) with advance | call
  · rw [List.eq_of_mem_replicate advance] at breaks
    exact breaks
  · rw [List.mem_singleton.mp call] at breaks
    obtain ⟨t, _, e, early | listens⟩ := breaks
    · exact absurd early.asks.number (by decide)
    · exact absurd listens.asks.number (by decide)

def earlyReply : List Action :=
  List.replicate 4 .advance ++
    [.trap [] (.svc sysIpcCall [1, el0SandboxBase, 4, el0SandboxBase, 4])] ++
    List.replicate 5 .advance ++ [.trap [] (.svc sysIpcReply [1, el0SandboxBase, 4])]

theorem illegal_earlyReply : ¬ ∀ (L : Layout) (cfg : Config) (h : List (Machine × Action))
    (m : Machine), (kernelSystem L cfg).Run h m → EndpointsLegal m.kernel := by
  intro claim
  obtain ⟨m, ran, pending, free⟩ : ∃ m, runFromBoot .sample .sample earlyReply = some m ∧
      (m.kernel.endpoints epUart).hasPending = true ∧
        (m.kernel.endpoints epUart).blockedCallerSlot = slotNone := ⟨_, rfl, rfl, rfl⟩
  obtain ⟨h, run, _⟩ := runFromBoot_run ran
  exact (Endpoint.legal_iff.mp (claim _ _ h m run epUart)).1 pending free

/-! ## Pairing -/

def Paired (k : Kernel) : Prop := ∀ e, ∃ c, Mirrors c k.log e (k.endpoints e) ∧ c.Paired

theorem Paired.update (paired : Paired k) (serving : Serving k k₁ e new)
    (here : ∃ c, Mirrors c k₁.log e (k₁.endpoints e) ∧ c.Paired) : Paired k₁ := by
  intro u
  by_cases same : u = e
  · rw [same]
    exact here
  · obtain ⟨c, mirrors, ok⟩ := paired u
    rw [serving.logged, serving.on.elsewhere u same]
    exact ⟨c, mirrors.other (serving.away same), ok⟩

theorem Paired.logged (paired : Paired k) (endpoints : k₁.endpoints = k.endpoints)
    (logged : k₁.log = k.log ++ new) (silent : ∀ ev ∈ new, ev.request? = none) : Paired k₁ := by
  intro u
  obtain ⟨c, mirrors, ok⟩ := paired u
  rw [logged, endpoints]
  refine ⟨c, mirrors.other fun ev member r picked => ?_, ok⟩
  rw [silent ev member] at picked
  cases picked

theorem Effect.paired (effect : Effect cfg k t tf k₁ o) (paired : Paired k) (ok : RequestsOk cfg k)
    (kernel : KernelOk L cfg k none) (fine : ∀ e, ¬ RepliesEarly k t tf e) : Paired k₁ := by
  cases effect with
  | refused | ticks | yield | exit | write | fault | await => exact paired
  | report => exact paired.logged rfl rfl (by simp [Event.request?])
  | restart => exact paired.logged rfl rfl (by simp [Event.request?])
  | @park e d _ accepts =>
      obtain ⟨c, mirrors, _⟩ := paired e
      have fresh := (ok.endpoints e).fresh mirrors (r := k.newRequest t e d) rfl
      have quiet := (ok.endpoints e).quiet mirrors accepts.quiet
      exact paired.update parkRequest_serving ⟨_, parkRequest_mirrors mirrors fresh quiet, .park⟩
  | @handOver e d s _ accepts =>
      obtain ⟨c, mirrors, _⟩ := paired e
      have fresh := (ok.endpoints e).fresh mirrors (r := k.newRequest t e d) rfl
      have quiet := (ok.endpoints e).quiet mirrors accepts.quiet
      exact paired.update handOver_serving ⟨_, handOver_mirrors mirrors fresh quiet, .handOver⟩
  | @take e _ _ _ _ pending =>
      obtain ⟨c, mirrors, before⟩ := paired e
      obtain ⟨p, held⟩ := (ok.endpoints e).held pending
      have here := (ok.endpoints e).pending_ep held
      exact paired.update (takePending_serving held here)
        ⟨_, takePending_mirrors mirrors here (mirrors.pending ▸ held), before.take⟩
  | @listen e =>
      obtain ⟨c, mirrors, before⟩ := paired e
      exact paired.update listen_serving ⟨c, listen_mirrors mirrors, before⟩
  | @answer e s asks found length range owner waiting _ =>
      obtain ⟨c, mirrors, _⟩ := paired e
      obtain ⟨r, registered, _⟩ := (ok.endpoints e).caller_some waiting
      have here := (ok.endpoints e).awaiting_ep registered
      have blocked := (kernel.recorded (w := .caller e) waiting).2
      have quiet : (k.endpoints e).hasPending = false := Bool.eq_false_iff.mpr fun pending =>
        fine e ⟨asks, found, length, range, owner, by simp [waiting], pending⟩
      exact paired.update (answer_serving registered here blocked)
        ⟨_, answer_mirrors mirrors here (mirrors.awaiting ▸ registered) blocked,
          .complete ((ok.endpoints e).quiet mirrors quiet)⟩

theorem abortCaller_paired (paired : Paired k) (ok : RequestsOk cfg k)
    (kernel : KernelOk L cfg k none) (waiting : (k.endpoints e).blockedCallerSlot = s.i32) :
    Paired (k.abortCaller e s) := by
  obtain ⟨c, mirrors, _⟩ := paired e
  obtain ⟨r, registered, _⟩ := (ok.endpoints e).caller_some waiting
  have here := (ok.endpoints e).awaiting_ep registered
  have blocked := (kernel.recorded (w := .caller e) waiting).2
  have pendingHere : ∀ p ∈ (k.endpoints e).pendingReq, p.ep = e :=
    fun p held => (ok.endpoints e).pending_ep held
  exact paired.update (abortCaller_serving registered here pendingHere waiting blocked)
    ⟨_, abortCaller_mirrors mirrors here pendingHere (mirrors.awaiting ▸ registered) waiting blocked,
      .discard⟩

theorem paired_data : DataInvariant L cfg (fun k t tf => ∀ e, ¬ RepliesEarly k t tf e)
    (fun k => RequestsOk cfg k ∧ Paired k) where
  start mem m booted := by
    refine ⟨requests_data.start mem m booted, fun e => ?_⟩
    rw [booted.log, booted.endpoints e]
    exact ⟨.empty, ⟨rfl, rfl, rfl, rfl, rfl, rfl⟩, Channel.paired_empty⟩
  congr k k' same ok := by
    refine ⟨(requests_data (L := L)).congr k k' same ok.1, ?_⟩
    rw [ProtoOs.Paired, same.log, same.endpoints]
    exact ok.2
  effect _ _ _ _ _ kernel _ fine ok effect :=
    ⟨effect.requestsOk ok.1 kernel, effect.paired ok.2 ok.1 kernel fine⟩
  died k t ok := ⟨(requests_data (L := L)).died k t ok.1, ok.2.logged rfl rfl (by simp [Event.request?])⟩
  abort k t e s kernel died owner waiting ok :=
    ⟨abortCaller_requestsOk ok.1 kernel died owner waiting,
      abortCaller_paired ok.2 ok.1 kernel waiting⟩
  noted k t k₁ _ noted ok := by
    refine ⟨noted.requestsOk ok.1, ?_⟩
    cases noted with
    | @woke s =>
        have logged := List.append_assoc k.log [.woke s t.u32.toUInt64 (k.threads s).user.state]
          [.reported t.u32]
        exact ok.2.logged rfl logged (by simp [Event.request?])
    | kept => exact ok.2
    | overwrote => exact ok.2.logged rfl rfl (by simp [Event.request?])

/-- Where the reply returns 0, it completes the request `r` of the caller that the endpoint has
registered, and `r` is the request delivered last. -/
def RepliesToLast (L : Layout) (cfg : Config) (m : Machine) (a : Action) : Prop :=
  ∀ stores tf e m' regs, a = .trap stores tf → Asks tf sysIpcReply →
    getEndpoint (tf.x 0) = some e → m.step L cfg a = some m' → m'.phase = .el0 regs →
    regs.x 0 = 0 → ∃ s r x0, (m.kernel.endpoints e).blockedCallerSlot = Slot.i32 s ∧
      (m.kernel.endpoints e).callerReq = some r ∧ r.caller = s.u32 ∧
      m'.kernel.log = m.kernel.log ++ [.woke s x0 .blocked,
        .completed r s.u32 (.reply (m.kernel.endpoints e).ownerSlot (tf.x 2)) x0] ∧
      (deliveredOn e m.kernel.log).getLast? = some r

theorem repliesToLast_iff (inv : Inv L cfg m) (ok : RequestsOk cfg m.kernel)
    (paired : Paired m.kernel) (step : m.step L cfg a = some m') : RepliesToLast L cfg m a ↔
      ¬ m.Traps (fun k t tf => ∃ e, RepliesEarly k t tf e) a := by
  -- The channel of `e` says whether the request of the caller was delivered last.
  have last {e : EpId} {r : Request} (registered : (m.kernel.endpoints e).callerReq = some r) :
      (deliveredOn e m.kernel.log).getLast? = some r ↔
        (m.kernel.endpoints e).hasPending = false := by
    obtain ⟨c, mirrors, pairs⟩ := paired e
    rw [mirrors.delivered, pairs.last_iff (mirrors.awaiting.symm.trans registered),
      (ok.endpoints e).pending, mirrors.pending]
    simp
  constructor
  · intro answers breaks
    cases a with
    | tick | advance => exact breaks
    | trap stores tf =>
        obtain ⟨u, current, e, early⟩ := breaks
        obtain ⟨t, k₁, o, taken⟩ := trap_taken inv step
        cases current.symm.trans taken.active.current
        obtain ⟨back, _⟩ := early.effect taken.effect
        have here := taken.back 0 back
        obtain ⟨s, r, _, _, registered, _, _, delivered⟩ := answers stores tf e m' (tf.after 0)
          rfl early.asks early.found step (by rw [here]) (by simp [TrapFrame.after])
        have quiet := (last registered).mp delivered
        rw [show (m.kernel.endpoints e).hasPending = true from early.pending] at quiet
        cases quiet
  · rintro fine stores tf e m' regs rfl asks found step' el0 zero
    obtain ⟨t, k₁, o, taken⟩ := trap_taken inv step'
    have effect := taken.effect
    have back := taken.back
    cases effect.of_reply asks with
    | refused =>
        rw [back minusOne rfl] at el0
        cases el0
        exact absurd zero (by simp [TrapFrame.after, minusOne])
    | @answer u s found' length range owner waiting =>
        cases found'.symm.trans found
        have kernel := taken.ok.setMem (userStores stores m.kernel.mem)
        obtain ⟨r, registered, describes⟩ := (ok.endpoints e).caller_some waiting
        have here := (ok.endpoints e).awaiting_ep registered
        have blocked := (kernel.recorded (w := .caller e) waiting).2
        have serving : Serving (m.kernel.setMem (userStores stores m.kernel.mem))
            (Kernel.answer _ t e (tf.x 1) (tf.x 2) s) e _ := answer_serving registered here blocked
        have quiet : (m.kernel.endpoints e).hasPending = false :=
          Bool.eq_false_iff.mpr fun pending =>
            fine ⟨t, taken.active.current, e, asks, found, length, range, owner,
              fun free => Slot.none_ne_i32 s (free.symm.trans waiting), pending⟩
        refine ⟨s, r, Kernel.replyResult (m.kernel.endpoints e) (tf.x 2), waiting, registered,
          describes.caller, ?_, (last registered).mpr quiet⟩
        rw [back 0 rfl, show (m.kernel.endpoints e).ownerSlot = t.u32 from owner]
        exact serving.logged

theorem run_repliesToLast_iff (run : (kernelSystem L cfg).Run h m) :
    (∀ p ∈ h, RepliesToLast L cfg p.1 p.2) ↔
      ∀ p ∈ h, ¬ p.1.Traps (fun k t tf => ∃ e, RepliesEarly k t tf e) p.2 := by
  apply run.steps_iff (fun m => Inv L cfg m ∧ RequestsOk cfg m.kernel ∧ Paired m.kernel)
    (RepliesToLast L cfg) (fun m a => m.Traps (fun k t tf => ∃ e, RepliesEarly k t tf e) a)
  · rintro m ⟨mem, booted⟩
    exact ⟨(boot_booted booted).inv, paired_data.start mem m (boot_booted booted)⟩
  · rintro m a m' ⟨inv, ok, paired⟩ fine step
    refine ⟨(step_cases inv step).2, paired_data.step inv ⟨ok, paired⟩ ?_ step⟩
    intro stores tf t isTrap current e early
    subst isTrap
    exact fine ⟨t, current, e, early⟩
  · rintro m a m' ⟨inv, ok, paired⟩ step
    exact repliesToLast_iff inv ok paired step

theorem run_repliesToLast_iff_serves : ∃ h m, (kernelSystem .sample .sample).Run h m ∧
    (completedOn epUart m.kernel.log).length = 1 ∧
      ∀ p ∈ h, RepliesToLast .sample .sample p.1 p.2 := by
  obtain ⟨m, m', ran, step, quiet, completed⟩ : ∃ m m', runFromBoot .sample .sample
      (List.replicate 4 .advance ++
        [.trap [] (.svc sysIpcCall [1, el0SandboxBase, 4, el0SandboxBase, 4])] ++
        List.replicate 5 .advance ++ [.trap [] (.svc sysIpcRecv [1, el0SandboxBase, 4])]) = some m ∧
      m.step .sample .sample (.trap [] (.svc sysIpcReply [1, el0SandboxBase, 4])) = some m' ∧
      (m.kernel.endpoints epUart).hasPending = false ∧
      (completedOn epUart m'.kernel.log).length = 1 := ⟨_, _, rfl, rfl, rfl, rfl⟩
  obtain ⟨h, run, members⟩ := runFromBoot_run ran
  refine ⟨_, m', run.step step, completed, (run_repliesToLast_iff (run.step step)).mpr ?_⟩
  intro p member breaks
  rcases List.mem_append.mp member with earlier | last
  · have asked := members p earlier
    simp only [List.mem_append, List.mem_replicate, List.mem_singleton] at asked
    rcases asked with ((⟨_, advance⟩ | call) | ⟨_, advance⟩) | receive
    · rw [advance] at breaks
      exact breaks
    · rw [call] at breaks
      obtain ⟨t, _, e, early⟩ := breaks
      exact absurd early.asks.number (by decide)
    · rw [advance] at breaks
      exact breaks
    · rw [receive] at breaks
      obtain ⟨t, _, e, early⟩ := breaks
      exact absurd early.asks.number (by decide)
  · rw [List.mem_singleton.mp last] at breaks
    obtain ⟨t, _, e, early⟩ := breaks
    have here : e = epUart := Option.some_inj.mp (early.found.symm.trans (by decide))
    subst here
    exact absurd (early.pending.symm.trans quiet) (by decide)

theorem unpaired_earlyReply : ¬ ∀ (L : Layout) (cfg : Config) (h : List (Machine × Action))
    (m : Machine) (a : Action), (kernelSystem L cfg).Run h m → RepliesToLast L cfg m a := by
  intro claim
  obtain ⟨m, m', ran, step, el0, undelivered⟩ : ∃ m m', runFromBoot .sample .sample
      (List.replicate 4 .advance ++
        [.trap [] (.svc sysIpcCall [1, el0SandboxBase, 4, el0SandboxBase, 4])] ++
        List.replicate 5 .advance) = some m ∧
      m.step .sample .sample (.trap [] (.svc sysIpcReply [1, el0SandboxBase, 4])) = some m' ∧
      (∃ regs, m'.phase = .el0 regs ∧ regs.x 0 = 0) ∧ deliveredOn epUart m.kernel.log = [] :=
    ⟨_, _, rfl, rfl, ⟨_, rfl, rfl⟩, rfl⟩
  obtain ⟨h, run, _⟩ := runFromBoot_run ran
  obtain ⟨regs, el0, zero⟩ := el0
  obtain ⟨_, r, _, _, _, _, _, last⟩ := claim _ _ h m _ run [] _ epUart m' regs rfl
    ⟨by decide, by decide⟩ (by decide) step el0 zero
  rw [undelivered] at last
  cases last

end ProtoOs
