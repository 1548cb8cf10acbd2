import ProtoOs.Proof.WaitRegistration
import ProtoOs.Proof.Data
import ProtoOs.Lib.Channel

namespace ProtoOs

open Messaging

variable {L : Layout} {cfg : Config} {k k₁ : Kernel} {t s : Slot} {e u : EpId} {tf : TrapFrame} {log new : List Event} {ep ep' : Endpoint} {r : Request}

/-! ## The history of an endpoint -/

namespace Event

def accept? : Event → Option Request
  | .accepted r => some r
  | _ => none

def deliver? : Event → Option Request
  | .delivered r _ _ _ => some r
  | _ => none

def discard? : Event → Option Request
  | .discarded r => some r
  | _ => none

def complete? : Event → Option Request
  | .completed r _ _ _ => some r
  | _ => none

def request? : Event → Option Request
  | .accepted r | .delivered r _ _ _ | .discarded r | .completed r _ _ _ => some r
  | _ => none

end Event

def requestsOn (e : EpId) (f : Event → Option Request) (log : List Event) : List Request :=
  (log.filterMap f).filter fun r => r.ep = e

abbrev acceptedOn (e : EpId) (log : List Event) := requestsOn e Event.accept? log
abbrev deliveredOn (e : EpId) (log : List Event) := requestsOn e Event.deliver? log
abbrev discardedOn (e : EpId) (log : List Event) := requestsOn e Event.discard? log
abbrev completedOn (e : EpId) (log : List Event) := requestsOn e Event.complete? log

@[simp] theorem requestsOn_nil (f : Event → Option Request) : requestsOn e f [] = [] := rfl

@[simp] theorem requestsOn_append (f : Event → Option Request) :
    requestsOn e f (log ++ new) = requestsOn e f log ++ requestsOn e f new := by
  simp [requestsOn]

theorem requestsOn_away {f : Event → Option Request}
    (about : ∀ ev r, f ev = some r → ev.request? = some r)
    (away : ∀ ev ∈ new, ∀ r, ev.request? = some r → r.ep ≠ e) : requestsOn e f new = [] := by
  rw [requestsOn, List.filter_eq_nil_iff]
  intro r member
  obtain ⟨ev, here, picked⟩ := List.mem_filterMap.mp member
  simpa using away ev here r (about ev r picked)

theorem ep_of_mem {f : Event → Option Request} (member : r ∈ requestsOn e f log) : r.ep = e := by
  simpa [requestsOn] using (List.mem_filter.mp member).2

theorem mem_deliveredOn {receiver : UInt32} {cap n : UInt64}
    (member : .delivered r receiver cap n ∈ log) : r ∈ deliveredOn r.ep log :=
  List.mem_filter.mpr ⟨List.mem_filterMap.mpr ⟨_, member, rfl⟩, by simp⟩

theorem accepted_mem (member : r ∈ acceptedOn e log) : .accepted r ∈ log := by
  obtain ⟨ev, inLog, picked⟩ := List.mem_filterMap.mp (List.mem_filter.mp member).1
  cases ev with
  | accepted =>
      cases picked
      exact inLog
  | _ => cases picked

/-- The channel an endpoint and its history make up. -/
structure Mirrors (c : Channel Request) (log : List Event) (e : EpId) (ep : Endpoint) : Prop where
  accepted : acceptedOn e log = c.accepted
  delivered : deliveredOn e log = c.delivered
  discarded : discardedOn e log = c.discarded
  completed : completedOn e log = c.completed
  pending : ep.pendingReq = c.pending
  awaiting : ep.callerReq = c.awaiting

theorem Mirrors.extend {c c' : Channel Request} (mirrors : Mirrors c log e ep)
    (accepted : c'.accepted = c.accepted ++ acceptedOn e new)
    (delivered : c'.delivered = c.delivered ++ deliveredOn e new)
    (discarded : c'.discarded = c.discarded ++ discardedOn e new)
    (completed : c'.completed = c.completed ++ completedOn e new)
    (pending : ep'.pendingReq = c'.pending) (awaiting : ep'.callerReq = c'.awaiting) :
    Mirrors c' (log ++ new) e ep' where
  accepted := by rw [accepted, ← mirrors.accepted]; exact requestsOn_append _
  delivered := by rw [delivered, ← mirrors.delivered]; exact requestsOn_append _
  discarded := by rw [discarded, ← mirrors.discarded]; exact requestsOn_append _
  completed := by rw [completed, ← mirrors.completed]; exact requestsOn_append _
  pending := pending
  awaiting := awaiting

/-- What an endpoint stores of the request whose caller `s` it has registered. -/
structure Describes (s : Slot) (r : Request) (ep : Endpoint) : Prop where
  caller : r.caller = s.u32
  cap : ep.callerReplyCap = r.replyCap
  override : ep.callerResultOverride = if r.routed then r.len else 0
  routed : r.routed → r.replyCap = 0

structure EndpointOk (log : List Event) (e : EpId) (ep : Endpoint) : Prop where
  channel : ∃ c, Mirrors c log e ep
  ids : ∀ r ∈ acceptedOn e log, r.id < log.length
  pending : ep.hasPending = ep.pendingReq.isSome
  length : ∀ r ∈ ep.pendingReq, r.len = ep.pendingLen
  caller : ep.blockedCallerSlot = slotNone ∧ ep.callerReq = none ∨
    ∃ s r, ep.blockedCallerSlot = Slot.i32 s ∧ ep.callerReq = some r ∧ Describes s r ep

theorem EndpointOk.pending_ep (ok : EndpointOk log e ep) (held : ep.pendingReq = some r) :
    r.ep = e := by
  obtain ⟨c, mirrors⟩ := ok.channel
  have inPending : c.pending = some r := mirrors.pending ▸ held
  have member : r ∈ c.accepted := c.order.subset (by simp [inPending])
  rw [← mirrors.accepted] at member
  exact ep_of_mem member

theorem EndpointOk.awaiting_ep (ok : EndpointOk log e ep) (held : ep.callerReq = some r) :
    r.ep = e := by
  obtain ⟨c, mirrors⟩ := ok.channel
  have member : r ∈ c.accepted := (c.unanswered r (mirrors.awaiting ▸ held)).1
  rw [← mirrors.accepted] at member
  exact ep_of_mem member

theorem EndpointOk.caller_some (ok : EndpointOk log e ep) (at_ : ep.blockedCallerSlot = s.i32) :
    ∃ r, ep.callerReq = some r ∧ Describes s r ep := by
  rcases ok.caller with ⟨vacant, _⟩ | ⟨u, r, here, held, describes⟩
  · exact absurd (vacant.symm.trans at_) (Slot.none_ne_i32 s)
  · have same : u = s := Slot.i32_inj.mp (here.symm.trans at_)
    subst same
    exact ⟨r, held, describes⟩

theorem EndpointOk.ids_accept (ok : EndpointOk log e ep) (id : r.id = log.length)
    (silent : ∀ ev ∈ new, ev.accept? = none) :
    ∀ a ∈ acceptedOn e (log ++ .accepted r :: new), a.id < (log ++ .accepted r :: new).length := by
  intro a member
  obtain ⟨inLog, _⟩ := List.mem_filter.mp member
  obtain ⟨ev, inLog, picked⟩ := List.mem_filterMap.mp inLog
  simp only [List.length_append, List.length_cons]
  rcases List.mem_append.mp inLog with earlier | now
  · have before : a ∈ acceptedOn e log := by
      refine List.mem_filter.mpr ⟨List.mem_filterMap.mpr ⟨ev, earlier, picked⟩, ?_⟩
      simpa using ep_of_mem member
    have := ok.ids a before
    omega
  · rcases List.mem_cons.mp now with rfl | later
    · cases picked
      omega
    · rw [silent ev later] at picked
      cases picked

theorem EndpointOk.ids_silent (ok : EndpointOk log e ep) (silent : ∀ ev ∈ new, ev.accept? = none) :
    ∀ a ∈ acceptedOn e (log ++ new), a.id < (log ++ new).length := by
  intro a member
  have none : acceptedOn e new = [] := by
    rw [acceptedOn, requestsOn, List.filterMap_eq_nil_iff.mpr silent]
    rfl
  rw [acceptedOn, requestsOn_append] at member
  rcases List.mem_append.mp member with earlier | now
  · rw [List.length_append]
    exact Nat.lt_add_right _ (ok.ids a earlier)
  · rw [show requestsOn e Event.accept? new = [] from none] at now
    cases now

theorem Mirrors.other {c : Channel Request} (mirrors : Mirrors c log u ep)
    (away : ∀ ev ∈ new, ∀ r, ev.request? = some r → r.ep ≠ u) : Mirrors c (log ++ new) u ep := by
  apply mirrors.extend
  · rw [acceptedOn, requestsOn_away _ away, List.append_nil]
    intro ev r picked
    cases ev with
    | accepted => exact picked
    | _ => cases picked
  · rw [deliveredOn, requestsOn_away _ away, List.append_nil]
    intro ev r picked
    cases ev with
    | delivered => exact picked
    | _ => cases picked
  · rw [discardedOn, requestsOn_away _ away, List.append_nil]
    intro ev r picked
    cases ev with
    | discarded => exact picked
    | _ => cases picked
  · rw [completedOn, requestsOn_away _ away, List.append_nil]
    intro ev r picked
    cases ev with
    | completed => exact picked
    | _ => cases picked
  · exact mirrors.pending
  · exact mirrors.awaiting

theorem EndpointOk.other (ok : EndpointOk log u ep)
    (away : ∀ ev ∈ new, ∀ r, ev.request? = some r → r.ep ≠ u) : EndpointOk (log ++ new) u ep := by
  obtain ⟨c, mirrors⟩ := ok.channel
  refine ⟨⟨c, mirrors.other away⟩, fun r member => ?_, ok.pending, ok.length, ok.caller⟩
  have before : r ∈ acceptedOn u log := by
    rw [mirrors.accepted, ← (mirrors.other away).accepted]
    exact member
  rw [List.length_append]
  exact Nat.lt_add_right _ (ok.ids r before)

/-! ## The whole history -/

/-- What a completion returns to the caller. -/
def Completion.Returns (cfg : Config) (r : Request) (x0 : UInt64) : Completion → Prop
  | .reply owner len => owner = initialOwner cfg r.ep ∧
      x0 = if r.routed then r.len else minU64 len r.replyCap
  | .ownerDeath => x0 = minusOne

structure HistoryOk (cfg : Config) (log : List Event) : Prop where
  delivered : ∀ r receiver cap n, .delivered r receiver cap n ∈ log →
    receiver = initialOwner cfg r.ep ∧ n = minU64 r.len cap
  completed : ∀ r caller how x0, .completed r caller how x0 ∈ log →
    how.Returns cfg r x0 ∧ (how = .ownerDeath → .died (initialOwner cfg r.ep) ∈ log) ∧
      ∃ s, r.caller = Slot.u32 s ∧ [.woke s x0 .blocked, .completed r caller how x0] <:+: log
  discarded : ∀ r, .discarded r ∈ log → .died (initialOwner cfg r.ep) ∈ log

structure RequestsOk (cfg : Config) (k : Kernel) : Prop where
  endpoints : ∀ e, EndpointOk k.log e (k.endpoints e)
  history : HistoryOk cfg k.log

theorem HistoryOk.append (ok : HistoryOk cfg log)
    (delivered : ∀ r receiver cap n, .delivered r receiver cap n ∈ new →
      receiver = initialOwner cfg r.ep ∧ n = minU64 r.len cap)
    (completed : ∀ r caller how x0, .completed r caller how x0 ∈ new →
      how.Returns cfg r x0 ∧ (how = .ownerDeath → .died (initialOwner cfg r.ep) ∈ log) ∧
        ∃ s, r.caller = Slot.u32 s ∧ [.woke s x0 .blocked, .completed r caller how x0] <:+: new)
    (discarded : ∀ r, .discarded r ∈ new → .died (initialOwner cfg r.ep) ∈ log) :
    HistoryOk cfg (log ++ new) where
  delivered r receiver cap n member := by
    rcases List.mem_append.mp member with earlier | now
    · exact ok.delivered r receiver cap n earlier
    · exact delivered r receiver cap n now
  completed r caller how x0 member := by
    rcases List.mem_append.mp member with earlier | now
    · obtain ⟨returns, died, s, caller, woken⟩ := ok.completed r caller how x0 earlier
      exact ⟨returns, fun death => List.mem_append_left _ (died death), s, caller,
        woken.trans (List.prefix_append log new).isInfix⟩
    · obtain ⟨returns, died, s, caller, woken⟩ := completed r caller how x0 now
      exact ⟨returns, fun death => List.mem_append_left _ (died death), s, caller,
        woken.trans (List.suffix_append log new).isInfix⟩
  discarded r member := by
    rcases List.mem_append.mp member with earlier | now
    · exact List.mem_append_left _ (ok.discarded r earlier)
    · exact List.mem_append_left _ (discarded r now)

theorem HistoryOk.silent (ok : HistoryOk cfg log)
    (silent : ∀ ev ∈ new, ev.deliver? = none ∧ ev.complete? = none ∧ ev.discard? = none) :
    HistoryOk cfg (log ++ new) := by
  refine ok.append ?_ ?_ ?_
  · intro r receiver cap n member
    cases (silent _ member).1
  · intro r caller how x0 member
    cases (silent _ member).2.1
  · intro r member
    cases (silent _ member).2.2

/-- A transition that adds `new` to the history of one endpoint. -/
structure Serving (k k₁ : Kernel) (e : EpId) (new : List Event) : Prop where
  on : OnEndpoint k k₁ e
  logged : k₁.log = k.log ++ new
  about : ∀ ev ∈ new, ∀ r, ev.request? = some r → r.ep = e

theorem Serving.away (serving : Serving k k₁ e new) (other : u ≠ e) :
    ∀ ev ∈ new, ∀ r, ev.request? = some r → r.ep ≠ u := by
  intro ev member r picked
  rw [serving.about ev member r picked]
  exact other.symm

theorem RequestsOk.update (ok : RequestsOk cfg k) (serving : Serving k k₁ e new)
    (here : EndpointOk (k.log ++ new) e (k₁.endpoints e)) (history : HistoryOk cfg (k.log ++ new)) :
    RequestsOk cfg k₁ := by
  refine ⟨fun u => ?_, serving.logged ▸ history⟩
  rw [serving.logged]
  by_cases same : u = e
  · rw [same]
    exact here
  · rw [serving.on.elsewhere u same]
    exact (ok.endpoints u).other (serving.away same)

theorem RequestsOk.logged (ok : RequestsOk cfg k) (endpoints : k₁.endpoints = k.endpoints)
    (logged : k₁.log = k.log ++ new) (silent : ∀ ev ∈ new, ev.request? = none) :
    RequestsOk cfg k₁ := by
  refine ⟨fun u => ?_, ?_⟩
  · rw [logged, endpoints]
    refine (ok.endpoints u).other fun ev member r picked => ?_
    rw [silent ev member] at picked
    cases picked
  · rw [logged]
    refine ok.history.silent fun ev member => ?_
    have none := silent ev member
    cases ev
    all_goals first | exact ⟨rfl, rfl, rfl⟩ | cases none

/-! ## The transitions -/

theorem EndpointOk.fresh (ok : EndpointOk log e ep) {c : Channel Request} (mirrors : Mirrors c log e ep)
    (id : r.id = log.length) : r ∉ c.accepted := by
  intro member
  rw [← mirrors.accepted] at member
  exact absurd (ok.ids r member) (by omega)

theorem EndpointOk.quiet (ok : EndpointOk log e ep) {c : Channel Request} (mirrors : Mirrors c log e ep)
    (quiet : ep.hasPending = false) : c.pending = none := by
  have none := ok.pending.symm.trans quiet
  rw [← mirrors.pending]
  simpa using none

theorem EndpointOk.held (ok : EndpointOk log e ep) (pending : ep.hasPending = true) :
    ∃ p, ep.pendingReq = some p :=
  Option.isSome_iff_exists.mp (ok.pending.symm.trans pending)

theorem Sends.describes {d : Send} (sends : Sends cfg t tf e d)
    (cap : ep.callerReplyCap = d.replyCap) (override : ep.callerResultOverride = d.override) :
    Describes t (k.newRequest t e d) ep := by
  cases sends with
  | call => exact ⟨rfl, cap, override, by simp [Kernel.newRequest]⟩
  | route => exact ⟨rfl, cap, override, fun _ => rfl⟩

theorem parkRequest_serving {d : Send} :
    Serving k (k.parkRequest t e d) e [.accepted (k.newRequest t e d)] := by
  refine ⟨parkRequest_on, rfl, ?_⟩
  intro ev member r picked
  cases List.mem_singleton.mp member
  cases picked
  rfl

theorem parkRequest_mirrors {d : Send} {c : Channel Request}
    (mirrors : Mirrors c k.log e (k.endpoints e)) (fresh : k.newRequest t e d ∉ c.accepted)
    (quiet : c.pending = none) : Mirrors (c.park (k.newRequest t e d) fresh quiet)
      (k.parkRequest t e d).log e ((k.parkRequest t e d).endpoints e) := by
  apply mirrors.extend
  · simp [Channel.park, acceptedOn, requestsOn, Event.accept?, Kernel.newRequest]
  · exact (List.append_nil _).symm
  · exact (List.append_nil _).symm
  · exact (List.append_nil _).symm
  · simp [Kernel.parkRequest, Channel.park]
  · simp [Kernel.parkRequest, Kernel.registerCaller, Channel.park]

theorem parkRequest_requestsOk {d : Send} (ok : RequestsOk cfg k) (sends : Sends cfg t tf e d)
    (accepts : Accepts k e d) : RequestsOk cfg (k.parkRequest t e d) := by
  obtain ⟨c, mirrors⟩ := (ok.endpoints e).channel
  have fresh := (ok.endpoints e).fresh mirrors (r := k.newRequest t e d) rfl
  have quiet := (ok.endpoints e).quiet mirrors accepts.quiet
  apply ok.update parkRequest_serving
  · refine ⟨⟨_, parkRequest_mirrors mirrors fresh quiet⟩, ?_, ?_, ?_,
      .inr ⟨t, k.newRequest t e d, ?_, ?_, ?_⟩⟩
    · exact (ok.endpoints e).ids_accept rfl (by simp)
    · simp [Kernel.parkRequest]
    · simp [Kernel.parkRequest, Kernel.newRequest]
    · simp [Kernel.parkRequest, Kernel.registerCaller]
    · simp [Kernel.parkRequest, Kernel.registerCaller]
    · apply sends.describes
      · simp [Kernel.parkRequest, Kernel.registerCaller]
      · simp [Kernel.parkRequest, Kernel.registerCaller]
  · refine ok.history.silent fun ev member => ?_
    cases List.mem_singleton.mp member
    exact ⟨rfl, rfl, rfl⟩

theorem handOver_serving {d : Send} : Serving k (k.handOver t e d s) e
    [.accepted (k.newRequest t e d),
      .woke s (minU64 d.len (k.endpoints e).receiverBufCap) (k.threads s).user.state,
      .delivered (k.newRequest t e d) s.u32 (k.endpoints e).receiverBufCap
        (minU64 d.len (k.endpoints e).receiverBufCap)] := by
  refine ⟨handOver_on, by simp [Kernel.handOver, Kernel.registerCaller], ?_⟩
  intro ev member r picked
  simp only [List.mem_cons, List.not_mem_nil, or_false] at member
  rcases member with rfl | rfl | rfl
  · cases picked
    rfl
  · cases picked
  · cases picked
    rfl

theorem handOver_mirrors {d : Send} {c : Channel Request}
    (mirrors : Mirrors c k.log e (k.endpoints e)) (fresh : k.newRequest t e d ∉ c.accepted)
    (quiet : c.pending = none) : Mirrors (c.handOver (k.newRequest t e d) fresh quiet)
      (k.handOver t e d s).log e ((k.handOver t e d s).endpoints e) := by
  rw [handOver_serving.logged]
  apply mirrors.extend
  · simp [Channel.handOver, acceptedOn, requestsOn, Event.accept?, Kernel.newRequest]
  · simp [Channel.handOver, deliveredOn, requestsOn, List.filterMap_cons, Event.deliver?,
      Kernel.newRequest]
  · exact (List.append_nil _).symm
  · exact (List.append_nil _).symm
  · simpa [Kernel.handOver, Kernel.registerCaller, Channel.handOver] using
      mirrors.pending.trans quiet
  · simp [Kernel.handOver, Kernel.registerCaller, Channel.handOver]

theorem handOver_requestsOk {d : Send} (ok : RequestsOk cfg k) (kernel : KernelOk L cfg k none)
    (sends : Sends cfg t tf e d) (accepts : Accepts k e d)
    (waiting : (k.endpoints e).blockedReceiverSlot = s.i32) :
    RequestsOk cfg (k.handOver t e d s) := by
  obtain ⟨c, mirrors⟩ := (ok.endpoints e).channel
  have fresh := (ok.endpoints e).fresh mirrors (r := k.newRequest t e d) rfl
  have quiet := (ok.endpoints e).quiet mirrors accepts.quiet
  have owner : s.u32 = initialOwner cfg e := by
    rw [← kernel.owners e]
    exact (kernel.receiver_owner waiting).symm
  have here := handOver_mirrors mirrors fresh quiet (s := s)
  rw [handOver_serving.logged] at here
  apply ok.update handOver_serving
  · refine ⟨⟨_, here⟩, ?_, ?_, ?_, .inr ⟨t, k.newRequest t e d, ?_, ?_, ?_⟩⟩
    · exact (ok.endpoints e).ids_accept rfl (by simp [Event.accept?])
    · simpa [Kernel.handOver, Kernel.registerCaller] using (ok.endpoints e).pending
    · simpa [Kernel.handOver, Kernel.registerCaller] using (ok.endpoints e).length
    · simp [Kernel.handOver, Kernel.registerCaller]
    · simp [Kernel.handOver, Kernel.registerCaller]
    · apply sends.describes
      · simp [Kernel.handOver, Kernel.registerCaller]
      · simp [Kernel.handOver, Kernel.registerCaller]
  · refine ok.history.append ?_ (by simp) (by simp)
    intro a receiver cap n' member
    simp only [List.mem_cons, List.not_mem_nil, or_false] at member
    rcases member with impossible | impossible | here
    · cases impossible
    · cases impossible
    · cases here
      exact ⟨owner, rfl⟩

theorem takePending_serving {p : Request} {ptr cap : UInt64}
    (held : (k.endpoints e).pendingReq = some p) (here : p.ep = e) :
    Serving k (k.takePending t e ptr cap) e
      [.delivered p t.u32 cap (minU64 (k.endpoints e).pendingLen cap)] := by
  refine ⟨takePending_on, by simp [Kernel.takePending, held], ?_⟩
  intro ev member r picked
  cases List.mem_singleton.mp member
  cases picked
  exact here

theorem takePending_mirrors {p : Request} {ptr cap : UInt64} {c : Channel Request}
    (mirrors : Mirrors c k.log e (k.endpoints e)) (here : p.ep = e) (waiting : c.pending = some p) :
    Mirrors (c.take p waiting) (k.takePending t e ptr cap).log e
      ((k.takePending t e ptr cap).endpoints e) := by
  rw [(takePending_serving (mirrors.pending.trans waiting) here).logged]
  apply mirrors.extend
  · exact (List.append_nil _).symm
  · simp [Channel.take, deliveredOn, requestsOn, Event.deliver?, here]
  · exact (List.append_nil _).symm
  · exact (List.append_nil _).symm
  · simp [Kernel.takePending, Channel.take]
  · simpa [Kernel.takePending, Channel.take] using mirrors.awaiting

theorem takePending_requestsOk {ptr cap : UInt64} (ok : RequestsOk cfg k)
    (kernel : KernelOk L cfg k none) (owner : (k.endpoints e).ownerSlot = t.u32)
    (pending : (k.endpoints e).hasPending = true) : RequestsOk cfg (k.takePending t e ptr cap) := by
  obtain ⟨c, mirrors⟩ := (ok.endpoints e).channel
  obtain ⟨p, held⟩ := (ok.endpoints e).held pending
  have here := (ok.endpoints e).pending_ep held
  have waiting : c.pending = some p := mirrors.pending ▸ held
  have after : Mirrors (c.take p waiting) (k.takePending t e ptr cap).log e
      ((k.takePending t e ptr cap).endpoints e) := takePending_mirrors mirrors here waiting
  rw [(takePending_serving held here).logged] at after
  apply ok.update (takePending_serving held here)
  · refine ⟨⟨_, after⟩, ?_, ?_, ?_, ?_⟩
    · exact (ok.endpoints e).ids_silent (by simp [Event.accept?])
    · simp [Kernel.takePending]
    · simp [Kernel.takePending]
    · rcases (ok.endpoints e).caller with vacant | ⟨u, r, at_, registered, describes⟩
      · exact .inl (by simpa [Kernel.takePending] using vacant)
      · refine .inr ⟨u, r, ?_, ?_, describes.caller, ?_, ?_, describes.routed⟩
        · simpa [Kernel.takePending] using at_
        · simpa [Kernel.takePending] using registered
        · simpa [Kernel.takePending] using describes.cap
        · simpa [Kernel.takePending] using describes.override
  · refine ok.history.append ?_ (by simp) (by simp)
    intro a receiver cap' n' member
    cases List.mem_singleton.mp member
    refine ⟨?_, ?_⟩
    · rw [here, ← owner]
      exact kernel.owners e
    · rw [(ok.endpoints e).length p held]

theorem listen_serving {ptr cap : UInt64} : Serving k (k.listen t e ptr cap) e [] :=
  ⟨listen_on, (List.append_nil _).symm, by simp⟩

theorem listen_mirrors {ptr cap : UInt64} {c : Channel Request}
    (mirrors : Mirrors c k.log e (k.endpoints e)) :
    Mirrors c (k.listen t e ptr cap).log e ((k.listen t e ptr cap).endpoints e) := by
  refine ⟨mirrors.accepted, mirrors.delivered, mirrors.discarded, mirrors.completed, ?_, ?_⟩
  · simpa [Kernel.listen] using mirrors.pending
  · simpa [Kernel.listen] using mirrors.awaiting

theorem listen_requestsOk {ptr cap : UInt64} (ok : RequestsOk cfg k) :
    RequestsOk cfg (k.listen t e ptr cap) := by
  obtain ⟨c, mirrors⟩ := (ok.endpoints e).channel
  have after : Mirrors c (k.listen t e ptr cap).log e ((k.listen t e ptr cap).endpoints e) :=
    listen_mirrors mirrors
  refine ok.update listen_serving ?_ (ok.history.silent (by simp))
  rw [List.append_nil]
  refine ⟨⟨c, after⟩, (ok.endpoints e).ids, ?_, ?_, ?_⟩
  · simpa [Kernel.listen] using (ok.endpoints e).pending
  · simpa [Kernel.listen] using (ok.endpoints e).length
  · rcases (ok.endpoints e).caller with vacant | ⟨u, r, at_, registered, describes⟩
    · exact .inl (by simpa [Kernel.listen] using vacant)
    · refine .inr ⟨u, r, ?_, ?_, describes.caller, ?_, ?_, describes.routed⟩
      · simpa [Kernel.listen] using at_
      · simpa [Kernel.listen] using registered
      · simpa [Kernel.listen] using describes.cap
      · simpa [Kernel.listen] using describes.override

/-- The override of a routed write is its length, and a length of zero is what the copy returns. -/
theorem Describes.replyResult (describes : Describes s r ep) (len : UInt64) :
    Kernel.replyResult ep len = if r.routed then r.len else minU64 len r.replyCap := by
  rw [Kernel.replyResult, describes.override, describes.cap]
  cases routed : r.routed with
  | false => simp
  | true =>
      by_cases empty : r.len = 0
      · simp [empty, describes.routed routed, minU64]
      · simp [empty]

theorem answer_serving {ptr len : UInt64} (registered : (k.endpoints e).callerReq = some r)
    (here : r.ep = e) (blocked : (k.threads s).user.state = .blocked) :
    Serving k (k.answer t e ptr len s) e
      [.woke s (Kernel.replyResult (k.endpoints e) len) .blocked,
        .completed r s.u32 (.reply t.u32 len) (Kernel.replyResult (k.endpoints e) len)] := by
  refine ⟨answer_on, by simp [Kernel.answer, registered, blocked], ?_⟩
  intro ev member a picked
  simp only [List.mem_cons, List.not_mem_nil, or_false] at member
  rcases member with rfl | rfl
  · cases picked
  · cases picked
    exact here

theorem answer_mirrors {ptr len : UInt64} {c : Channel Request}
    (mirrors : Mirrors c k.log e (k.endpoints e)) (here : r.ep = e)
    (awaiting : c.awaiting = some r) (blocked : (k.threads s).user.state = .blocked) :
    Mirrors (c.complete r awaiting) (k.answer t e ptr len s).log e
      ((k.answer t e ptr len s).endpoints e) := by
  rw [(answer_serving (mirrors.awaiting.trans awaiting) here blocked).logged]
  apply mirrors.extend
  · exact (List.append_nil _).symm
  · exact (List.append_nil _).symm
  · exact (List.append_nil _).symm
  · simp [Channel.complete, completedOn, requestsOn, List.filterMap_cons, Event.complete?, here]
  · simpa [Kernel.answer, Channel.complete] using mirrors.pending
  · simp [Kernel.answer, Channel.complete]

theorem answer_requestsOk {ptr len : UInt64} (ok : RequestsOk cfg k)
    (kernel : KernelOk L cfg k none) (owner : (k.endpoints e).ownerSlot = t.u32)
    (waiting : (k.endpoints e).blockedCallerSlot = s.i32) :
    RequestsOk cfg (k.answer t e ptr len s) := by
  obtain ⟨c, mirrors⟩ := (ok.endpoints e).channel
  obtain ⟨r, registered, describes⟩ := (ok.endpoints e).caller_some waiting
  have here := (ok.endpoints e).awaiting_ep registered
  have awaiting : c.awaiting = some r := mirrors.awaiting ▸ registered
  have blocked := (kernel.recorded (w := .caller e) waiting).2
  have after : Mirrors (c.complete r awaiting) (k.answer t e ptr len s).log e
      ((k.answer t e ptr len s).endpoints e) := answer_mirrors mirrors here awaiting blocked
  rw [(answer_serving registered here blocked).logged] at after
  apply ok.update (answer_serving registered here blocked)
  · refine ⟨⟨_, after⟩, ?_, ?_, ?_, .inl ⟨?_, ?_⟩⟩
    · exact (ok.endpoints e).ids_silent (by simp [Event.accept?])
    · simpa [Kernel.answer] using (ok.endpoints e).pending
    · simpa [Kernel.answer] using (ok.endpoints e).length
    · simp [Kernel.answer]
    · simp [Kernel.answer]
  · refine ok.history.append (by simp) ?_ (by simp)
    intro a caller how x0 member
    simp only [List.mem_cons, List.not_mem_nil, or_false] at member
    rcases member with impossible | same
    · cases impossible
    · cases same
      refine ⟨⟨?_, describes.replyResult len⟩, by simp, s, describes.caller, List.infix_rfl⟩
      rw [here, ← owner]
      exact kernel.owners e

theorem abortCaller_serving (registered : (k.endpoints e).callerReq = some r) (here : r.ep = e)
    (pendingHere : ∀ p ∈ (k.endpoints e).pendingReq, p.ep = e)
    (waiting : (k.endpoints e).blockedCallerSlot = s.i32)
    (blocked : (k.threads s).user.state = .blocked) : Serving k (k.abortCaller e s) e
      ([.woke s minusOne .blocked, .completed r s.u32 .ownerDeath minusOne] ++
        (k.endpoints e).pendingReq.toList.map .discarded) := by
  refine ⟨abortCaller_on, ?_, ?_⟩
  · simp [Kernel.abortCaller, Endpoint.abortEvents, registered, waiting, blocked]
  · intro ev member a picked
    simp only [List.cons_append, List.nil_append, List.mem_cons, List.mem_map,
      Option.mem_toList] at member
    rcases member with rfl | rfl | ⟨p, held, rfl⟩
    · cases picked
    · cases picked
      exact here
    · cases picked
      exact pendingHere _ held

theorem abortCaller_mirrors {c : Channel Request} (mirrors : Mirrors c k.log e (k.endpoints e))
    (here : r.ep = e) (pendingHere : ∀ p ∈ (k.endpoints e).pendingReq, p.ep = e)
    (awaiting : c.awaiting = some r) (waiting : (k.endpoints e).blockedCallerSlot = s.i32)
    (blocked : (k.threads s).user.state = .blocked) : Mirrors (c.complete r awaiting).discard
      (k.abortCaller e s).log e ((k.abortCaller e s).endpoints e) := by
  have discards : discardedOn e ((k.endpoints e).pendingReq.toList.map .discarded) =
      c.pending.toList := by
    rw [← mirrors.pending]
    cases held : (k.endpoints e).pendingReq with
    | none => rfl
    | some p => simp [discardedOn, requestsOn, Event.discard?, pendingHere p held]
  have others {f : Event → Option Request} (silent : ∀ p, f (.discarded p) = none) :
      requestsOn e f ((k.endpoints e).pendingReq.toList.map .discarded) = [] := by
    rw [requestsOn, List.filterMap_eq_nil_iff.mpr]
    · rfl
    · simp [silent]
  rw [(abortCaller_serving (mirrors.awaiting.trans awaiting) here pendingHere waiting
    blocked).logged]
  apply mirrors.extend
  · rw [acceptedOn, requestsOn_append, others fun _ => rfl]
    exact (List.append_nil _).symm
  · rw [deliveredOn, requestsOn_append, others fun _ => rfl]
    exact (List.append_nil _).symm
  · rw [discardedOn, requestsOn_append]
    exact congrArg (c.discarded ++ ·) discards.symm
  · rw [completedOn, requestsOn_append, others fun _ => rfl]
    simp [Channel.discard, Channel.complete, requestsOn, List.filterMap_cons, Event.complete?, here]
  · simp [Kernel.abortCaller, Channel.discard]
  · simp [Kernel.abortCaller, Channel.discard, Channel.complete]

theorem abortCaller_requestsOk (ok : RequestsOk cfg k) (kernel : KernelOk L cfg k none)
    (died : .died t.u32 ∈ k.log) (owner : (k.endpoints e).ownerSlot = t.u32)
    (waiting : (k.endpoints e).blockedCallerSlot = s.i32) : RequestsOk cfg (k.abortCaller e s) := by
  obtain ⟨c, mirrors⟩ := (ok.endpoints e).channel
  obtain ⟨r, registered, describes⟩ := (ok.endpoints e).caller_some waiting
  have here := (ok.endpoints e).awaiting_ep registered
  have awaiting : c.awaiting = some r := mirrors.awaiting ▸ registered
  have blocked := (kernel.recorded (w := .caller e) waiting).2
  have ownerDied : .died (initialOwner cfg e) ∈ k.log := by
    rw [← kernel.owners e, owner]
    exact died
  have pendingHere : ∀ p ∈ (k.endpoints e).pendingReq, p.ep = e :=
    fun p held => (ok.endpoints e).pending_ep held
  have after := abortCaller_mirrors mirrors here pendingHere awaiting waiting blocked
  have serving : Serving k (k.abortCaller e s) e _ :=
    abortCaller_serving registered here pendingHere waiting blocked
  rw [serving.logged] at after
  apply ok.update serving
  · refine ⟨⟨_, after⟩, ?_, ?_, ?_, .inl ⟨?_, ?_⟩⟩
    · refine (ok.endpoints e).ids_silent ?_
      simp [Event.accept?]
    · simp [Kernel.abortCaller]
    · simp [Kernel.abortCaller]
    · simp [Kernel.abortCaller]
    · simp [Kernel.abortCaller]
  · refine ok.history.append (by simp) ?_ ?_
    · intro a caller how x0 member
      simp only [List.cons_append, List.nil_append, List.mem_cons, List.mem_map] at member
      rcases member with impossible | same | ⟨_, _, impossible⟩
      · cases impossible
      · cases same
        refine ⟨rfl, fun _ => here ▸ ownerDied, s, describes.caller, ?_⟩
        exact (List.prefix_append _ _).isInfix
      · cases impossible
    · intro a member
      simp only [List.cons_append, List.nil_append, List.mem_cons, List.mem_map,
        Option.mem_toList] at member
      rcases member with impossible | impossible | ⟨p, held, same⟩
      · cases impossible
      · cases impossible
      · cases same
        rw [pendingHere _ held]
        exact ownerDied

theorem Effect.requestsOk {o : Outcome} (effect : Effect cfg k t tf k₁ o) (ok : RequestsOk cfg k)
    (kernel : KernelOk L cfg k none) : RequestsOk cfg k₁ := by
  cases effect with
  | refused | ticks | yield | exit | write | fault | await => exact ⟨ok.endpoints, ok.history⟩
  | park sends accepts => exact parkRequest_requestsOk ok sends accepts
  | handOver sends accepts waiting => exact handOver_requestsOk ok kernel sends accepts waiting
  | take _ _ _ owner pending => exact takePending_requestsOk ok kernel owner pending
  | listen => exact listen_requestsOk ok
  | answer _ _ _ _ owner waiting => exact answer_requestsOk ok kernel owner waiting
  | report =>
      refine ok.logged rfl rfl ?_
      simp [Event.request?]
  | restart =>
      refine ok.logged rfl rfl ?_
      simp [Event.request?]

theorem Noted.requestsOk (noted : Noted t k k₁) (ok : RequestsOk cfg k) : RequestsOk cfg k₁ := by
  cases noted with
  | @woke s =>
      have logged := List.append_assoc k.log [.woke s t.u32.toUInt64 (k.threads s).user.state]
        [.reported t.u32]
      refine ok.logged rfl logged ?_
      simp [Event.request?]
  | kept => exact ⟨ok.endpoints, ok.history⟩
  | overwrote =>
      refine ok.logged rfl rfl ?_
      simp [Event.request?]

theorem requests_data : DataInvariant L cfg (fun _ _ _ => True) (RequestsOk cfg) where
  start mem m booted := by
    refine ⟨fun e => ?_, ?_⟩
    · rw [booted.log, booted.endpoints e]
      refine ⟨⟨.empty, rfl, rfl, rfl, rfl, rfl, rfl⟩, ?_, rfl, ?_, .inl ⟨rfl, rfl⟩⟩
      · intro r member
        cases member
      · nofun
    · rw [booted.log]
      refine ⟨?_, ?_, ?_⟩
      · intro r receiver cap n member
        cases member
      · intro r caller how x0 member
        cases member
      · intro r member
        cases member
  congr k k' same ok := by
    refine ⟨fun e => ?_, same.log ▸ ok.history⟩
    rw [same.log, same.endpoints]
    exact ok.endpoints e
  effect _ _ _ _ _ kernel _ _ ok effect := effect.requestsOk ok kernel
  died k t ok := ok.logged rfl rfl (by simp [Event.request?])
  abort _ _ _ _ kernel died owner waiting ok := abortCaller_requestsOk ok kernel died owner waiting
  noted _ _ _ _ noted ok := noted.requestsOk ok

end ProtoOs
