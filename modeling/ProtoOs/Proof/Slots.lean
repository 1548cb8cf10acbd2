import ProtoOs.Proof.Calls
import ProtoOs.Proof.Copies
import ProtoOs.Proof.Data
import ProtoOs.Lib.Latest

namespace ProtoOs

open Transition.System

variable {L : Layout} {cfg : Config} {k k₁ : Kernel} {m m' : Machine} {t : Slot} {e : EpId}
  {a : Action} {tf : TrapFrame} {o : Outcome} {d d' : Send} {ep ep' ep'' : Endpoint}
  {reason : TaskReturnReason} {stores : List (SandboxAddress × UInt8)}
  {h : List (Machine × Action)} {mem : Memory} {x y : Send × Memory} {b c : UInt64 × UInt64}

/-! ## The calls and receives of a run -/

/-- A call or a routed write that the endpoint accepts, with the memory it traps with. -/
inductive Calls (cfg : Config) (e : EpId) (m : Machine) : Action → Send × Memory → Prop
  | mk {stores : List (SandboxAddress × UInt8)} {tf : TrapFrame} {t : Slot} {d : Send}
      (current : m.kernel.current = some t) (sends : Sends cfg t tf e d)
      (accepts : Accepts (m.trapped stores) e d) :
      Calls cfg e m (.trap stores tf) (d, (m.trapped stores).mem)

structure BlocksReceiving (k : Kernel) (t : Slot) (tf : TrapFrame) (e : EpId) : Prop where
  asks : Asks tf sysIpcRecv
  found : getEndpoint (tf.x 0) = some e
  range : el0BufRangeOk (tf.x 1) (tf.x 2)
  owner : (k.endpoints e).ownerSlot = t.u32
  quiet : (k.endpoints e).hasPending = false
  absent : (k.endpoints e).blockedReceiverSlot = slotNone

inductive Listens (e : EpId) (m : Machine) : Action → UInt64 × UInt64 → Prop
  | mk {stores : List (SandboxAddress × UInt8)} {tf : TrapFrame} {t : Slot}
      (current : m.kernel.current = some t) (blocks : BlocksReceiving (m.trapped stores) t tf e) :
      Listens e m (.trap stores tf) (tf.x 1, tf.x 2)

theorem Calls.unique (calls : Calls cfg e m a x) (calls' : Calls cfg e m a y) : x = y := by
  cases calls with
  | mk current sends =>
      cases calls' with
      | mk current' sends' =>
          cases current.symm.trans current'
          rw [(sends.unique sends').2]

theorem Listens.unique (listens : Listens e m a b) (listens' : Listens e m a c) : b = c := by
  cases listens with
  | mk => cases listens' with
    | mk => rfl

/-! ## The handlers -/

/-- The slot is empty, or holds what it held. -/
def Keeps {α : Type} (full : Endpoint → Prop) (content : Endpoint → α) (ep ep' : Endpoint) : Prop :=
  full ep' → full ep ∧ content ep' = content ep

def Endpoint.message (ep : Endpoint) : UInt64 × (Nat → UInt8) := (ep.pendingLen, ep.pendingMsg)

def Endpoint.replyBuffer (ep : Endpoint) : UInt64 × UInt64 := (ep.callerReplyPtr, ep.callerReplyCap)

def Endpoint.receiveBuffer (ep : Endpoint) : UInt64 × UInt64 := (ep.receiverBufPtr, ep.receiverBufCap)

abbrev KeepsMessage := Keeps (fun ep => ep.hasPending = true) Endpoint.message

abbrev KeepsCaller := Keeps (fun ep => ep.blockedCallerSlot ≠ slotNone) Endpoint.replyBuffer

abbrev KeepsReceiver := Keeps (fun ep => ep.blockedReceiverSlot ≠ slotNone) Endpoint.receiveBuffer

theorem Keeps.refl {α : Type} {full : Endpoint → Prop} {content : Endpoint → α} :
    Keeps full content ep ep := fun here => ⟨here, rfl⟩

theorem Keeps.trans {α : Type} {full : Endpoint → Prop} {content : Endpoint → α}
    (first : Keeps full content ep ep') (second : Keeps full content ep' ep'') :
    Keeps full content ep ep'' := by
  intro here
  obtain ⟨before, same⟩ := second here
  obtain ⟨earlier, same'⟩ := first before
  exact ⟨earlier, same.trans same'⟩

theorem Keeps.of_eq {α : Type} {full : Endpoint → Prop} {content : Endpoint → α} (same : ep' = ep) :
    Keeps full content ep ep' := same ▸ .refl

structure KeepsSlots (ep ep' : Endpoint) : Prop where
  message : KeepsMessage ep ep'
  caller : KeepsCaller ep ep'
  receiver : KeepsReceiver ep ep'

theorem KeepsSlots.of_eq (same : ep' = ep) : KeepsSlots ep ep' := ⟨.of_eq same, .of_eq same, .of_eq same⟩

theorem Effect.keepsSent (effect : Effect cfg k t tf k₁ o)
    (silent : ∀ d, Sends cfg t tf e d → ¬ Accepts k e d) :
    KeepsMessage (k.endpoints e) (k₁.endpoints e) ∧ KeepsCaller (k.endpoints e) (k₁.endpoints e) := by
  have elsewhere {u : EpId} (on : OnEndpoint k k₁ u) (other : e ≠ u) :
      KeepsMessage (k.endpoints e) (k₁.endpoints e) ∧ KeepsCaller (k.endpoints e) (k₁.endpoints e) :=
    ⟨.of_eq (on.elsewhere e other), .of_eq (on.elsewhere e other)⟩
  cases effect with
  | refused | ticks | write | yield | exit | fault | report | await | restart =>
      exact ⟨.refl, .refl⟩
  | @park u d sends accepts =>
      by_cases here : e = u
      · subst here
        exact absurd accepts (silent d sends)
      · exact elsewhere parkRequest_on here
  | @handOver u d _ sends accepts =>
      by_cases here : e = u
      · subst here
        exact absurd accepts (silent d sends)
      · exact elsewhere handOver_on here
  | @take u =>
      by_cases here : e = u
      · subst here
        refine ⟨fun full => ?_, fun full => ⟨?_, ?_⟩⟩
        · simp [Kernel.takePending] at full
        · simpa [Kernel.takePending] using full
        · simp [Kernel.takePending, Endpoint.replyBuffer]
      · exact elsewhere takePending_on here
  | @listen u =>
      by_cases here : e = u
      · subst here
        simp [Keeps, Kernel.listen, Endpoint.message, Endpoint.replyBuffer]
      · exact elsewhere listen_on here
  | @answer u s =>
      by_cases here : e = u
      · subst here
        have answered : (k.answer t e (tf.x 1) (tf.x 2) s).endpoints e =
            endpointClearCaller (k.endpoints e) := by simp [Kernel.answer]
        rw [answered]
        exact ⟨fun full => ⟨full, rfl⟩, fun full => absurd rfl full⟩
      · exact elsewhere answer_on here

theorem Effect.keepsReceiver (effect : Effect cfg k t tf k₁ o)
    (silent : ¬ BlocksReceiving k t tf e) :
    KeepsReceiver (k.endpoints e) (k₁.endpoints e) := by
  cases effect with
  | refused | ticks | write | yield | exit | fault | report | await | restart => exact .refl
  | @park u =>
      by_cases here : e = u
      · subst here
        simp [Keeps, Kernel.parkRequest, Kernel.registerCaller, Endpoint.receiveBuffer]
      · exact .of_eq (parkRequest_on.elsewhere e here)
  | @handOver u =>
      by_cases here : e = u
      · subst here
        simp [Keeps, Kernel.handOver]
      · exact .of_eq (handOver_on.elsewhere e here)
  | @take u =>
      by_cases here : e = u
      · subst here
        simp [Keeps, Kernel.takePending, Endpoint.receiveBuffer]
      · exact .of_eq (takePending_on.elsewhere e here)
  | @listen u asks found range owner quiet absent =>
      by_cases here : e = u
      · subst here
        exact absurd ⟨asks, found, range, owner, quiet, absent⟩ silent
      · exact .of_eq (listen_on.elsewhere e here)
  | @answer u =>
      by_cases here : e = u
      · subst here
        simp [Keeps, Kernel.answer, Endpoint.receiveBuffer]
      · exact .of_eq (answer_on.elsewhere e here)

theorem Aborts.keepsSlots (aborts : Aborts t k k₁) (e : EpId) :
    KeepsSlots (k.endpoints e) (k₁.endpoints e) := by
  induction aborts with
  | refl => exact .of_eq rfl
  | @abort k' u s _ _ _ _ ih =>
      by_cases here : e = u
      · subst here
        refine ⟨ih.message.trans ?_, ih.caller.trans ?_, ih.receiver.trans ?_⟩
        · simp [Keeps, Kernel.abortCaller]
        · simp [Keeps, Kernel.abortCaller]
        · simp [Keeps, Kernel.abortCaller, Endpoint.receiveBuffer]
      · have same : (k'.abortCaller u s).endpoints e = k'.endpoints e := abortCaller_on.elsewhere e here
        rw [same]
        exact ih

theorem Left.keepsSlots (left : Left k t reason k₁) (e : EpId) :
    KeepsSlots (k.endpoints e) (k₁.endpoints e) := by
  cases left with
  | yield | block => exact .of_eq rfl
  | death _ _ _ aborts _ noted =>
      rw [noted.endpoints]
      exact aborts.keepsSlots e

/-! ## Empty slots -/

/-- What an endpoint keeps of a message and of a receiver is zero where there is none. -/
structure Endpoint.Cleared (ep : Endpoint) : Prop where
  message : ep.hasPending = false → ep.pendingLen = 0
  receiver : ep.blockedReceiverSlot = slotNone → ep.receiverBufPtr = 0 ∧ ep.receiverBufCap = 0

theorem Effect.cleared (effect : Effect cfg k t tf k₁ o) (cleared : ∀ e, (k.endpoints e).Cleared)
    (e : EpId) : (k₁.endpoints e).Cleared := by
  have update {u : EpId} (on : OnEndpoint k k₁ u) (here : (k₁.endpoints u).Cleared) :
      (k₁.endpoints e).Cleared := by
    by_cases same : e = u
    · rw [same]
      exact here
    · rw [on.elsewhere e same]
      exact cleared e
  cases effect with
  | refused | ticks | write | yield | exit | fault | report | await | restart => exact cleared e
  | @park u =>
      apply update parkRequest_on
      refine ⟨fun quiet => ?_, fun absent => ?_⟩
      · simp [Kernel.parkRequest] at quiet
      · simpa [Kernel.parkRequest, Kernel.registerCaller] using (cleared u).receiver
          (by simpa [Kernel.parkRequest, Kernel.registerCaller] using absent)
  | @handOver u _ _ _ accepts =>
      apply update handOver_on
      refine ⟨fun _ => ?_, fun _ => ?_⟩
      · simpa [Kernel.handOver, Kernel.registerCaller] using (cleared u).message accepts.quiet
      · simp [Kernel.handOver]
  | @take u =>
      apply update takePending_on
      refine ⟨fun _ => ?_, fun absent => ?_⟩
      · simp [Kernel.takePending]
      · simpa [Kernel.takePending] using (cleared u).receiver
          (by simpa [Kernel.takePending] using absent)
  | @listen u _ _ _ _ quiet =>
      apply update listen_on
      refine ⟨fun _ => ?_, fun absent => ?_⟩
      · simpa [Kernel.listen] using (cleared u).message quiet
      · simp [Kernel.listen] at absent
  | @answer u =>
      apply update answer_on
      refine ⟨fun quiet => ?_, fun absent => ?_⟩
      · simpa [Kernel.answer] using (cleared u).message (by simpa [Kernel.answer] using quiet)
      · simpa [Kernel.answer] using (cleared u).receiver (by simpa [Kernel.answer] using absent)

theorem cleared_data :
    DataInvariant L cfg (fun _ _ _ => True) fun k => ∀ e, (k.endpoints e).Cleared where
  start mem m booted e := by
    rw [booted.endpoints e]
    exact ⟨fun _ => rfl, fun _ => ⟨rfl, rfl⟩⟩
  congr k k' same cleared e := by
    rw [same.endpoints]
    exact cleared e
  effect _ _ _ _ _ _ _ _ cleared effect := effect.cleared cleared
  died _ _ cleared := cleared
  abort k t u s _ _ _ _ cleared e := by
    by_cases same : e = u
    · subst same
      refine ⟨fun _ => ?_, fun absent => ?_⟩
      · simp [Kernel.abortCaller]
      · simpa [Kernel.abortCaller] using (cleared e).receiver
          (by simpa [Kernel.abortCaller] using absent)
    · rw [abortCaller_on.elsewhere e same]
      exact cleared e
  noted _ _ _ _ noted cleared := by
    rw [noted.endpoints]
    exact cleared

/-! ## A trap -/

theorem trap_effect (inv : Inv L cfg m) (step : m.step L cfg (.trap stores tf) = some m') :
    ∃ t k₁ o, m.kernel.current = some t ∧ Active m.kernel t ∧
      Effect cfg (m.trapped stores) t tf k₁ o ∧ m'.kernel.mem = k₁.mem ∧
        ∀ e, KeepsSlots (k₁.endpoints e) (m'.kernel.endpoints e) := by
  cases (step_cases inv step).1 with
  | quiet untrapped => exact absurd rfl (untrapped stores tf)
  | back _ active _ effect =>
      exact ⟨_, _, _, active.current, active, effect, rfl, fun _ => .of_eq rfl⟩
  | outside _ active _ effect =>
      exact ⟨_, _, _, active.current, active, effect, rfl, fun _ => .of_eq rfl⟩
  | away _ active _ effect _ left =>
      exact ⟨_, _, _, active.current, active, effect, left.mem, left.keepsSlots⟩

/-! ## The slots of a run -/

theorem step_untrapped (inv : Inv L cfg m) (step : m.step L cfg a = some m')
    (untrapped : ∀ stores tf, a ≠ .trap stores tf) : m'.kernel.endpoints = m.kernel.endpoints := by
  cases (step_cases inv step).1 with
  | quiet _ quiet => exact quiet.endpoints
  | back | away | outside => exact absurd rfl (untrapped _ _)

theorem step_keepsSent (inv : Inv L cfg m) (step : m.step L cfg a = some m')
    (silent : ∀ x, ¬ Calls cfg e m a x) :
    KeepsMessage (m.kernel.endpoints e) (m'.kernel.endpoints e) ∧
      KeepsCaller (m.kernel.endpoints e) (m'.kernel.endpoints e) := by
  by_cases trapped : ∃ stores tf, a = .trap stores tf
  · obtain ⟨stores, tf, rfl⟩ := trapped
    obtain ⟨t, k₁, o, current, _, effect, _, keeps⟩ := trap_effect inv step
    have sent := effect.keepsSent fun d sends accepts => silent _ (.mk current sends accepts)
    exact ⟨sent.1.trans (keeps e).message, sent.2.trans (keeps e).caller⟩
  · have same := step_untrapped inv step fun stores tf trap => trapped ⟨stores, tf, trap⟩
    rw [same]
    exact ⟨.refl, .refl⟩

theorem step_keepsReceiver (inv : Inv L cfg m) (step : m.step L cfg a = some m')
    (silent : ∀ b, ¬ Listens e m a b) :
    KeepsReceiver (m.kernel.endpoints e) (m'.kernel.endpoints e) := by
  by_cases trapped : ∃ stores tf, a = .trap stores tf
  · obtain ⟨stores, tf, rfl⟩ := trapped
    obtain ⟨t, k₁, o, current, _, effect, _, keeps⟩ := trap_effect inv step
    exact (effect.keepsReceiver fun blocks => silent _ (.mk current blocks)).trans (keeps e).receiver
  · have same := step_untrapped inv step fun stores tf trap => trapped ⟨stores, tf, trap⟩
    rw [same]
    exact .refl

def HoldsMessage (ep : Endpoint) (x : Send × Memory) : Prop :=
  ep.pendingLen = x.1.len ∧ ∀ i < x.1.len.toNat, ep.pendingMsg i = x.2 (x.1.ptr + .ofNat i)

theorem HoldsMessage.kept (holds : HoldsMessage ep x) (same : ep'.message = ep.message) :
    HoldsMessage ep' x := by
  obtain ⟨length, content⟩ := Prod.mk.inj same
  exact ⟨length.trans holds.1, fun i below => (congrFun content i).trans (holds.2 i below)⟩

theorem parkRequest_holds :
    HoldsMessage ((k.parkRequest t e d).endpoints e) (d, k.mem) := by
  refine ⟨by simp [Kernel.parkRequest], fun i below => ?_⟩
  have long : d.len > 0 := UInt64.lt_iff_toNat_lt.mpr (Nat.zero_lt_of_lt below)
  have copied : ((k.parkRequest t e d).endpoints e).pendingMsg =
      bytesCopyIn d.ptr d.len k.mem (k.endpoints e).pendingMsg := by
    simp [Kernel.parkRequest, Kernel.registerCaller, long]
  rw [copied]
  exact bytesCopyIn_at below

theorem Calls.stored (calls : Calls cfg e m a x) (inv : Inv L cfg m)
    (step : m.step L cfg a = some m') :
    ((m'.kernel.endpoints e).hasPending = true → HoldsMessage (m'.kernel.endpoints e) x) ∧
      ((m'.kernel.endpoints e).blockedCallerSlot ≠ slotNone →
        (m'.kernel.endpoints e).replyBuffer = (x.1.replyPtr, x.1.replyCap)) := by
  cases calls with
  | @mk stores tf t d current sends accepts =>
      obtain ⟨t', k₁, o, current', _, effect, _, keeps⟩ := trap_effect inv step
      obtain rfl := Option.some_inj.mp (current.symm.trans current')
      cases effect.of_sends sends with
      | refused no => exact absurd accepts no
      | park =>
          refine ⟨fun full => ?_, fun full => ?_⟩
          · exact parkRequest_holds.kept ((keeps e).message full).2
          · rw [((keeps e).caller full).2]
            simp [Endpoint.replyBuffer, Kernel.parkRequest, Kernel.registerCaller]
      | @handOver s =>
          refine ⟨fun full => ?_, fun full => ?_⟩
          · have pending := ((keeps e).message full).1
            have quiet : (((m.trapped stores).handOver t e d s).endpoints e).hasPending = false := by
              simpa [Kernel.handOver, Kernel.registerCaller] using accepts.quiet
            cases quiet.symm.trans pending
          · rw [((keeps e).caller full).2]
            simp [Endpoint.replyBuffer, Kernel.handOver, Kernel.registerCaller]

theorem Listens.stored (listens : Listens e m a b) (inv : Inv L cfg m)
    (step : m.step L cfg a = some m')
    (full : (m'.kernel.endpoints e).blockedReceiverSlot ≠ slotNone) :
    (m'.kernel.endpoints e).receiveBuffer = b := by
  cases listens with
  | @mk stores tf t current blocks =>
      obtain ⟨t', k₁, o, current', _, effect, _, keeps⟩ := trap_effect inv step
      obtain rfl := Option.some_inj.mp (current.symm.trans current')
      rw [((keeps e).receiver full).2]
      cases effect.of_recv blocks.asks with
      | listen found =>
          cases found.symm.trans blocks.found
          simp [Endpoint.receiveBuffer, Kernel.listen]
      | take found _ pending =>
          cases found.symm.trans blocks.found
          cases blocks.quiet.symm.trans pending
      | refused no =>
          exact absurd blocks.absent (no e blocks.found blocks.range blocks.owner).2

theorem message_register (e : EpId) : Register (kernelSystem L cfg) (Inv L cfg) (Calls cfg e)
    (fun m x => HoldsMessage (m.kernel.endpoints e) x)
    (fun m => (m.kernel.endpoints e).hasPending = false) where
  start m first := by
    obtain ⟨mem, booted⟩ := first
    simp [(boot_booted booted).endpoints, Endpoint.initial]
  write m a m' x inv step calls := by
    cases full : (m'.kernel.endpoints e).hasPending with
    | false => exact .inl rfl
    | true => exact .inr ((calls.stored inv step).1 full)
  keep m a m' inv step silent := by
    cases full : (m'.kernel.endpoints e).hasPending with
    | false => exact .inl rfl
    | true =>
        obtain ⟨before, same⟩ := (step_keepsSent inv step silent).1 full
        exact .inr ⟨by simp [before], fun x holds => holds.kept same⟩

theorem caller_register (e : EpId) : Register (kernelSystem L cfg) (Inv L cfg) (Calls cfg e)
    (fun m x => (m.kernel.endpoints e).replyBuffer = (x.1.replyPtr, x.1.replyCap))
    (fun m => (m.kernel.endpoints e).blockedCallerSlot = slotNone) where
  start m first := by
    obtain ⟨mem, booted⟩ := first
    simp [(boot_booted booted).endpoints, Endpoint.initial]
  write m a m' x inv step calls := by
    by_cases empty : (m'.kernel.endpoints e).blockedCallerSlot = slotNone
    · exact .inl empty
    · exact .inr ((calls.stored inv step).2 empty)
  keep m a m' inv step silent := by
    by_cases empty : (m'.kernel.endpoints e).blockedCallerSlot = slotNone
    · exact .inl empty
    · obtain ⟨before, same⟩ := (step_keepsSent inv step silent).2 empty
      exact .inr ⟨before, fun x holds => same.trans holds⟩

theorem receiver_register (e : EpId) : Register (kernelSystem L cfg) (Inv L cfg) (Listens e)
    (fun m b => (m.kernel.endpoints e).receiveBuffer = b)
    (fun m => (m.kernel.endpoints e).blockedReceiverSlot = slotNone) where
  start m first := by
    obtain ⟨mem, booted⟩ := first
    simp [(boot_booted booted).endpoints, Endpoint.initial]
  write m a m' b inv step listens := by
    by_cases empty : (m'.kernel.endpoints e).blockedReceiverSlot = slotNone
    · exact .inl empty
    · exact .inr (listens.stored inv step empty)
  keep m a m' inv step silent := by
    by_cases empty : (m'.kernel.endpoints e).blockedReceiverSlot = slotNone
    · exact .inl empty
    · obtain ⟨before, same⟩ := step_keepsReceiver inv step silent empty
      exact .inr ⟨before, fun b holds => same.trans holds⟩

end ProtoOs
