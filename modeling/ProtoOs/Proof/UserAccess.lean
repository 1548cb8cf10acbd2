import ProtoOs.Proof.Copies
import ProtoOs.Proof.Data

/-!
# Accesses through user pointers

Both range checkers accept the buffers that lie in the sandbox. A pointer that is stored for a later
copy was accepted with its length, so every byte the kernel touches through it lies in the sandbox. The
bytes that a step leaves are those that its accesses carry.
-/

namespace ProtoOs

variable {L : Layout} {cfg : Config} {k k₁ k₂ : Kernel} {m m' : Machine} {h : List (Machine × Action)}
  {t s : Slot} {e : EpId} {tf : TrapFrame} {ptr len n dst src : UInt64} {ep : Endpoint} {a : Action}
  {made : List Access} {reason : TaskReturnReason}

/-! ## The range checkers -/

def Buffer (ptr len : UInt64) : Prop :=
  el0SandboxBase.toNat ≤ ptr.toNat ∧ ptr.toNat < el0SandboxEnd.toNat ∧
    ptr.toNat + len.toNat ≤ el0SandboxEnd.toNat

theorem el0BufRangeOk_iff : el0BufRangeOk ptr len ↔ Buffer ptr len := by
  have null : ptr = 0 ↔ ptr.toNat = 0 := by rw [← UInt64.toNat_inj]; rfl
  have empty : len = 0 ↔ len.toNat = 0 := by rw [← UInt64.toNat_inj]; rfl
  have rest (below : ptr.toNat < 0x41000000) :
      (el0SandboxEnd - ptr).toNat = 0x41000000 - ptr.toNat := by
    rw [UInt64.toNat_sub_of_le]
    · rfl
    · exact UInt64.le_iff_toNat_le.mpr (by rw [el0SandboxEnd_toNat]; omega)
  unfold el0BufRangeOk Buffer
  simp only [null, empty, el0SandboxBase_toNat, el0SandboxEnd_toNat, ge_iff_le, gt_iff_lt,
    UInt64.le_iff_toNat_le, UInt64.lt_iff_toNat_lt]
  by_cases below : ptr.toNat < 0x41000000
  · rw [rest below]
    split_ifs
    all_goals simp
    all_goals omega
  · split_ifs
    all_goals simp
    all_goals omega

theorem el0WriteRangeOk_eq : el0WriteRangeOk ptr len = el0BufRangeOk ptr len := rfl

/-! ## Accesses -/

/-- The byte lies in the sandbox, and its address was computed without wrapping around. -/
def Access.InBounds : Access → Prop
  | .user ptr i => (ptr + .ofNat i).toNat = ptr.toNat + i ∧ InSandbox (ptr + .ofNat i)
  | .pendingMsg i => i < ipcMsgSize.toNat

theorem Buffer.user {i : Nat} (buffer : Buffer ptr len) (below : i < len.toNat) :
    (Access.user ptr i).InBounds := by
  obtain ⟨low, _, high⟩ := buffer
  rw [el0SandboxBase_toNat] at low
  rw [el0SandboxEnd_toNat] at high
  have exact_ : (ptr + .ofNat i).toNat = ptr.toNat + i := by
    rw [UInt64.toNat_add, UInt64.toNat_ofNat']
    omega
  exact ⟨exact_, inSandbox_iff.mpr (by omega)⟩

theorem minU64_le_left (a b : UInt64) : (minU64 a b).toNat ≤ a.toNat := by
  unfold minU64
  split_ifs with lt
  · exact Nat.le_refl _
  · exact UInt64.le_iff_toNat_le.mp (UInt64.not_lt.mp lt)

theorem minU64_le_right (a b : UInt64) : (minU64 a b).toNat ≤ b.toNat := by
  unfold minU64
  split_ifs with lt
  · exact Nat.le_of_lt (UInt64.lt_iff_toNat_lt.mp lt)
  · exact Nat.le_refl _

/-! ## Stored pointers -/

/-- What an endpoint has stored for later copies. -/
structure BuffersOk (ep : Endpoint) : Prop where
  receiver : ep.blockedReceiverSlot ≠ slotNone → Buffer ep.receiverBufPtr ep.receiverBufCap
  caller : ep.blockedCallerSlot ≠ slotNone →
    ep.callerReplyCap = 0 ∨ Buffer ep.callerReplyPtr ep.callerReplyCap
  pending : ep.hasPending → ep.pendingLen.toNat ≤ ipcMsgSize.toNat

structure AccessesOk (k : Kernel) : Prop where
  stored : ∀ e, BuffersOk (k.endpoints e)
  made : ∀ a ∈ k.accesses, a.InBounds

theorem AccessesOk.update (ok : AccessesOk k)
    (elsewhere : ∀ u, u ≠ e → k₁.endpoints u = k.endpoints u) (here : BuffersOk (k₁.endpoints e))
    {new : List Access} (accesses : k₁.accesses = k.accesses ++ new)
    (made : ∀ a ∈ new, a.InBounds) : AccessesOk k₁ where
  stored u := by
    by_cases same : u = e
    · rw [same]
      exact here
    · rw [elsewhere u same]
      exact ok.stored u
  made a member := by
    rw [accesses] at member
    rcases List.mem_append.mp member with earlier | now
    · exact ok.made a earlier
    · exact made a now

theorem copy_inBounds {f : Nat → List Access} (turn : ∀ i < n.toNat, ∀ a ∈ f i, a.InBounds) :
    ∀ a ∈ (List.range n.toNat).flatMap f, a.InBounds := by
  intro a member
  obtain ⟨i, below, access⟩ := List.mem_flatMap.mp member
  exact turn i (List.mem_range.mp below) a access

theorem Sends.buffers {d : Send} (sends : Sends cfg t tf e d)
    (accepts : Accepts k e d) : Buffer d.ptr d.len ∧ d.len.toNat ≤ ipcMsgSize.toNat ∧
      (d.replyCap = 0 ∨ Buffer d.replyPtr d.replyCap) := by
  refine ⟨el0BufRangeOk_iff.mp accepts.range, UInt64.le_iff_toNat_le.mp accepts.length, ?_⟩
  cases sends with
  | call _ _ reply => exact .inr (el0BufRangeOk_iff.mp reply)
  | route => exact .inl rfl

theorem Effect.accessesOk {o : Outcome} (effect : Effect cfg k t tf k₁ o) (ok : AccessesOk k) :
    AccessesOk k₁ := by
  cases effect with
  | refused | ticks | yield | exit | fault | report | await | restart => exact ⟨ok.stored, ok.made⟩
  | write _ range =>
      refine ⟨ok.stored, fun a member => ?_⟩
      simp only [uartWriteDirect, Kernel.emit_accesses, Kernel.touch_accesses, List.mem_append,
        List.mem_map, List.mem_range] at member
      rcases member with earlier | ⟨i, below, rfl⟩
      · exact ok.made a earlier
      · exact (el0BufRangeOk_iff.mp range).user below
  | @park e d sends accepts absent =>
      obtain ⟨source, length, reply⟩ := sends.buffers accepts
      refine ok.update (e := e) parkRequest_on.elsewhere ?_ rfl (copy_inBounds fun i below a member => ?_)
      · refine ⟨fun present => ?_, fun _ => ?_, fun _ => ?_⟩
        · simp [Kernel.parkRequest, Kernel.registerCaller, absent] at present
        · simpa [Kernel.parkRequest, Kernel.registerCaller] using reply
        · simpa [Kernel.parkRequest, Kernel.registerCaller] using length
      · simp only [List.mem_cons, List.not_mem_nil, or_false] at member
        rcases member with rfl | rfl
        · exact source.user below
        · exact Nat.lt_of_lt_of_le below length
  | @handOver e d s sends accepts waiting =>
      obtain ⟨source, _, reply⟩ := sends.buffers accepts
      have target := (ok.stored e).receiver (by rw [waiting]; exact Slot.i32_ne_none s)
      refine ok.update (e := e) handOver_on.elsewhere ?_ rfl (copy_inBounds fun i below a member => ?_)
      · refine ⟨fun present => ?_, fun _ => ?_, fun pending => ?_⟩
        · simp [Kernel.handOver] at present
        · simpa [Kernel.handOver, Kernel.registerCaller] using reply
        · simp [Kernel.handOver, Kernel.registerCaller, accepts.quiet] at pending
      · simp only [List.mem_cons, List.not_mem_nil, or_false] at member
        rcases member with rfl | rfl
        · exact source.user (Nat.lt_of_lt_of_le below (minU64_le_left _ _))
        · exact target.user (Nat.lt_of_lt_of_le below (minU64_le_right _ _))
  | @take e _ _ range _ pending =>
      have length := (ok.stored e).pending pending
      refine ok.update (e := e) takePending_on.elsewhere ?_ rfl
        (copy_inBounds fun i below a member => ?_)
      · refine ⟨fun present => ?_, fun present => ?_, fun pending => ?_⟩
        · simpa [Kernel.takePending] using
            (ok.stored e).receiver (by simpa [Kernel.takePending] using present)
        · simpa [Kernel.takePending] using
            (ok.stored e).caller (by simpa [Kernel.takePending] using present)
        · simp [Kernel.takePending] at pending
      · simp only [List.mem_cons, List.not_mem_nil, or_false] at member
        rcases member with rfl | rfl
        · exact Nat.lt_of_lt_of_le below (Nat.le_trans (minU64_le_left _ _) length)
        · exact (el0BufRangeOk_iff.mp range).user (Nat.lt_of_lt_of_le below (minU64_le_right _ _))
  | @listen e _ _ range _ quiet _ =>
      refine ok.update (e := e) listen_on.elsewhere ?_ (List.append_nil _).symm (by simp)
      refine ⟨fun _ => ?_, fun present => ?_, fun pending => ?_⟩
      · simpa [Kernel.listen] using el0BufRangeOk_iff.mp range
      · simpa [Kernel.listen] using (ok.stored e).caller (by simpa [Kernel.listen] using present)
      · simp [Kernel.listen, quiet] at pending
  | @answer e s _ _ _ range _ waiting _ =>
      have target := (ok.stored e).caller (by rw [waiting]; exact Slot.i32_ne_none s)
      refine ok.update (e := e) answer_on.elsewhere ?_ rfl (copy_inBounds fun i below a member => ?_)
      · refine ⟨fun present => ?_, fun present => ?_, fun pending => ?_⟩
        · simpa [Kernel.answer] using
            (ok.stored e).receiver (by simpa [Kernel.answer] using present)
        · simp [Kernel.answer] at present
        · simpa [Kernel.answer] using (ok.stored e).pending (by simpa [Kernel.answer] using pending)
      · simp only [List.mem_cons, List.not_mem_nil, or_false] at member
        have inReply := Nat.lt_of_lt_of_le below (minU64_le_left _ _)
        have inCap := Nat.lt_of_lt_of_le below (minU64_le_right _ _)
        rcases member with rfl | rfl
        · exact (el0BufRangeOk_iff.mp range).user inReply
        · rcases target with none | target
          · rw [none] at inCap
            exact absurd inCap (Nat.not_lt_zero i)
          · exact target.user inCap

theorem abortCaller_accessesOk (ok : AccessesOk k) : AccessesOk (k.abortCaller e s) := by
  refine ok.update (e := e) abortCaller_on.elsewhere ?_ (List.append_nil _).symm (by simp)
  refine ⟨fun present => ?_, fun present => ?_, fun pending => ?_⟩
  · simpa [Kernel.abortCaller] using
      (ok.stored e).receiver (by simpa [Kernel.abortCaller] using present)
  · simp [Kernel.abortCaller] at present
  · simp [Kernel.abortCaller] at pending

theorem Noted.accessesOk (noted : Noted t k k₁) (ok : AccessesOk k) : AccessesOk k₁ := by
  cases noted
  all_goals exact ⟨ok.stored, ok.made⟩

theorem accesses_data : DataInvariant L cfg (fun _ _ _ => True) AccessesOk where
  start mem m booted := by
    refine ⟨fun e => ?_, fun a member => ?_⟩
    · rw [booted.endpoints e]
      exact ⟨fun present => absurd rfl present, fun present => absurd rfl present, by nofun⟩
    · rw [booted.accesses] at member
      cases member
  congr k k' same ok := ⟨same.endpoints ▸ ok.stored, same.accesses ▸ ok.made⟩
  effect _ _ _ _ _ _ _ _ ok effect := effect.accessesOk ok
  died _ _ ok := ⟨ok.stored, ok.made⟩
  abort _ _ _ _ _ _ _ _ ok := abortCaller_accessesOk ok
  noted _ _ _ _ noted ok := noted.accessesOk ok

/-! ## The bytes behind the accesses -/

/-- The memory of the tasks and a `pending_msg`. -/
structure Contents where
  mem : Memory
  msg : Nat → UInt8

namespace Contents

def load (c : Contents) : Access → UInt8
  | .user ptr i => c.mem (ptr + .ofNat i)
  | .pendingMsg i => c.msg i

def store (c : Contents) (value : UInt8) : Access → Contents
  | .user ptr i => { c with mem := Function.update c.mem (ptr + .ofNat i) value }
  | .pendingMsg i => { c with msg := Function.update c.msg i value }

/-- Loads and stores in turn. -/
def carry (c : Contents) : List Access → Contents
  | source :: target :: rest => (c.store (c.load source) target).carry rest
  | _ => c

theorem carry_pairs (source target : Nat → Access) (is : List Nat) (c : Contents) :
    c.carry (is.flatMap fun i => [source i, target i]) =
      is.foldl (fun c i => c.store (c.load (source i)) (target i)) c := by
  induction is generalizing c with
  | nil => rfl
  | cons i is ih => exact ih _

theorem carry_user (c : Contents) (dst src n : UInt64) :
    c.carry ((List.range n.toNat).flatMap fun i => [.user src i, .user dst i]) =
      { c with mem := bytesCopy dst src n c.mem } := by
  rw [carry_pairs, bytesCopy, Bytes.storeLoop]
  refine List.foldl_hom (fun mem => { c with mem := mem }) ?_
  exact fun _ _ => rfl

theorem carry_out (c : Contents) (dst n : UInt64) :
    c.carry ((List.range n.toNat).flatMap fun i => [.pendingMsg i, .user dst i]) =
      { c with mem := bytesCopyOut dst n c.msg c.mem } := by
  rw [carry_pairs, bytesCopyOut, Bytes.storeLoop]
  refine List.foldl_hom (fun mem => { c with mem := mem }) ?_
  exact fun _ _ => rfl

theorem carry_in (c : Contents) (src n : UInt64) :
    c.carry ((List.range n.toNat).flatMap fun i => [.user src i, .pendingMsg i]) =
      { c with msg := bytesCopyIn src n c.mem c.msg } := by
  rw [carry_pairs, bytesCopyIn, Bytes.storeLoop]
  refine List.foldl_hom (fun msg => { c with msg := msg }) ?_
  exact fun _ _ => rfl

theorem carry_outside {address : UInt64} {c : Contents}
    (outside : ∀ ptr i, .user ptr i ∈ made → ptr + .ofNat i ≠ address) :
    (c.carry made).mem address = c.mem address := by
  fun_induction carry c made with
  | case1 c source target rest ih =>
      rw [ih fun ptr i member => outside ptr i (by simp [member])]
      cases target with
      | user ptr i => exact Function.update_of_ne (outside ptr i (by simp)).symm _ _
      | pendingMsg => rfl
  | case2 => rfl

end Contents

def Kernel.contents (k : Kernel) (e : EpId) : Contents := ⟨k.mem, (k.endpoints e).pendingMsg⟩

theorem guarded {α : Type} {copied kept : α} (empty : n = 0 → copied = kept) :
    (if n > 0 then copied else kept) = copied := by
  split_ifs with some_
  · rfl
  · exact (empty (UInt64.le_zero_iff.mp (UInt64.not_lt.mp some_))).symm

theorem copyUser_contents :
    (k.copyUser dst src n).contents e = (k.contents e).carry
      ((List.range n.toNat).flatMap fun i => [.user src i, .user dst i]) := by
  rw [Contents.carry_user]
  simp only [Kernel.contents, Kernel.copyUser_mem, Kernel.copyUser_endpoints]
  rw [guarded fun none => by subst none; rfl]

theorem copyOut_contents :
    (k.copyOut e dst n).contents e = (k.contents e).carry
      ((List.range n.toNat).flatMap fun i => [.pendingMsg i, .user dst i]) := by
  rw [Contents.carry_out]
  simp only [Kernel.contents, Kernel.copyOut_mem, Kernel.copyOut_endpoints]
  rw [guarded fun none => by subst none; rfl]

theorem copyIn_contents :
    (k.copyIn e src n).contents e = (k.contents e).carry
      ((List.range n.toNat).flatMap fun i => [.user src i, .pendingMsg i]) := by
  rw [Contents.carry_in]
  simp only [Kernel.contents, Kernel.copyIn_mem, Kernel.copyIn_endpoints, Function.update_self]
  rw [guarded fun none => by subst none; rfl]

/-- The accesses `made` carry bytes, at most one `pending_msg` among them. -/
def Copies (k k₁ : Kernel) (made : List Access) : Prop :=
  ∃ e, k₁.contents e = (k.contents e).carry made ∧
    ∀ u, u ≠ e → (k₁.endpoints u).pendingMsg = (k.endpoints u).pendingMsg

/-- What becomes of the bytes that the accesses `made` load. -/
inductive Touches (k k₁ : Kernel) (made : List Access) : Prop
  | copied (copies : Copies k k₁ made)
  | printed (same : ∀ e, k₁.contents e = k.contents e)
      (uart : k₁.uart = k.uart ++ [.write (made.map (k.contents epUart).load)])

theorem Copies.none (same : ∀ e, k₁.contents e = k.contents e) : Copies k k₁ [] :=
  ⟨epUart, same epUart, fun u _ => congrArg Contents.msg (same u)⟩

theorem Copies.then (copies : Copies k k₁ made) (same : ∀ e, k₂.contents e = k₁.contents e) :
    Copies k k₂ made := by
  obtain ⟨e, carried, elsewhere⟩ := copies
  exact ⟨e, (same e).trans carried,
    fun u other => (congrArg Contents.msg (same u)).trans (elsewhere u other)⟩

theorem Copies.on (on : OnEndpoint k k₁ e) (carried : k₁.contents e = (k.contents e).carry made) :
    Copies k k₁ made :=
  ⟨e, carried, fun u other => by rw [on.elsewhere u other]⟩

theorem Effect.touches {o : Outcome} (effect : Effect cfg k t tf k₁ o) :
    ∃ made, k₁.accesses = k.accesses ++ made ∧ Touches k k₁ made ∧
      ∀ reason, o = .away reason → Copies k k₁ made := by
  have quiet (same : ∀ e, k₁.contents e = k.contents e) (accesses : k₁.accesses = k.accesses) :
      ∃ made, k₁.accesses = k.accesses ++ made ∧ Touches k k₁ made ∧
        ∀ reason, o = .away reason → Copies k k₁ made :=
    ⟨[], by rw [accesses, List.append_nil], .copied (.none same), fun _ _ => .none same⟩
  have copied {made : List Access} (accesses : k₁.accesses = k.accesses ++ made)
      (copies : Copies k k₁ made) : ∃ made, k₁.accesses = k.accesses ++ made ∧ Touches k k₁ made ∧
        ∀ reason, o = .away reason → Copies k k₁ made :=
    ⟨made, accesses, .copied copies, fun _ _ => copies⟩
  cases effect with
  | refused | ticks | yield | exit | fault | report | await | restart =>
      exact quiet (fun _ => rfl) rfl
  | write =>
      refine ⟨_, rfl, .printed (fun _ => rfl) ?_, by nofun⟩
      simp only [uartWriteDirect, Kernel.emit_uart, Kernel.touch_uart, List.map_map]
      rfl
  | listen =>
      refine copied (List.append_nil _).symm (.on listen_on ?_)
      simp [Kernel.contents, Kernel.listen, Contents.carry]
  | park =>
      refine copied rfl (.on parkRequest_on ?_)
      rw [← copyIn_contents]
      simp [Kernel.contents, Kernel.parkRequest, Kernel.registerCaller]
  | handOver =>
      refine copied rfl (.on handOver_on ?_)
      rw [← copyUser_contents]
      simp [Kernel.contents, Kernel.handOver, Kernel.registerCaller, endpointClearReceiver]
  | take =>
      refine copied rfl (.on takePending_on ?_)
      rw [← copyOut_contents]
      simp [Kernel.contents, Kernel.takePending, endpointClearPending]
  | answer =>
      refine copied rfl (.on answer_on ?_)
      rw [← copyUser_contents]
      simp [Kernel.contents, Kernel.answer, endpointClearCaller]

theorem Aborts.contents (aborts : Aborts t k k₁) :
    (∀ e, k₁.contents e = k.contents e) ∧ k₁.accesses = k.accesses := by
  induction aborts with
  | refl => exact ⟨fun _ => rfl, rfl⟩
  | @abort k' u s _ _ _ _ ih =>
      refine ⟨fun e => ?_, ih.2⟩
      rw [← ih.1 e]
      by_cases here : e = u
      · simp [Kernel.contents, Kernel.abortCaller, here, endpointClearPending, endpointClearCaller]
      · simp [Kernel.contents, Kernel.abortCaller, here]

theorem Left.contents (left : Left k t reason k₁) :
    (∀ e, k₁.contents e = k.contents e) ∧ k₁.accesses = k.accesses := by
  cases left with
  | yield | block => exact ⟨fun _ => rfl, rfl⟩
  | death _ _ _ aborts _ noted =>
      have same := aborts.contents
      cases noted with
      | woke | kept | overwrote => exact same

def Action.stores : Action → List (SandboxAddress × UInt8)
  | .trap stores _ => stores
  | _ => []

/-- A step touches the bytes that it records, after the stores of the program. -/
structure Accessed (m : Machine) (a : Action) (m' : Machine) : Prop where
  touches : ∃ made, m'.kernel.accesses = m.kernel.accesses ++ made ∧
    Touches (m.trapped a.stores) m'.kernel made
  confined : ∀ address, ¬ InSandbox address → m'.kernel.mem address = m.kernel.mem address

theorem step_touches (inv : Inv L cfg m) (step : m.step L cfg a = some m') :
    ∃ made, m'.kernel.accesses = m.kernel.accesses ++ made ∧
      Touches (m.trapped a.stores) m'.kernel made := by
  cases (step_cases inv step).1 with
  | quiet untrapped quiet =>
      have same : m.trapped a.stores = m.kernel := by
        cases a with
        | trap stores tf => exact absurd rfl (untrapped stores tf)
        | tick | advance => rfl
      rw [same]
      exact ⟨[], by rw [quiet.accesses, List.append_nil], .copied (.none fun e => by
        rw [Kernel.contents, Kernel.contents, quiet.mem, quiet.endpoints])⟩
  | back _ _ _ effect | outside _ _ _ effect =>
      obtain ⟨made, accesses, touches, _⟩ := effect.touches
      exact ⟨made, accesses, touches⟩
  | away _ _ _ effect _ left =>
      obtain ⟨made, accesses, _, copies⟩ := effect.touches
      obtain ⟨same, kept⟩ := left.contents
      exact ⟨made, kept.trans accesses, .copied ((copies _ rfl).then same)⟩

theorem step_accessed (inv : Inv L cfg m) (bounds : ∀ access ∈ m'.kernel.accesses, access.InBounds)
    (step : m.step L cfg a = some m') : Accessed m a m' := by
  have touched := step_touches inv step
  refine ⟨touched, fun address outside => ?_⟩
  obtain ⟨made, accesses, touches⟩ := touched
  have stored : (m.trapped a.stores).mem address = m.kernel.mem address :=
    userStores_outside fun store _ same => outside (same ▸ store.1.property)
  rw [← stored]
  cases touches with
  | printed same => exact congrArg (Contents.mem · address) (same epUart)
  | copied copies =>
      obtain ⟨e, carried, _⟩ := copies
      refine (congrArg (Contents.mem · address) carried).trans (Contents.carry_outside ?_)
      intro ptr i member same
      have bound := bounds (.user ptr i) (by rw [accesses]; exact List.mem_append_right _ member)
      exact outside (same ▸ bound.2)

theorem getEndpoint_inTable {id : UInt64} (found : getEndpoint id = some e) :
    e.val = id.toNat ∧ id.toNat < epCount := by
  unfold getEndpoint at found
  split at found
  · rename_i valid
    cases found
    exact ⟨rfl, UInt64.lt_iff_toNat_lt.mp valid.2⟩
  · cases found

theorem run_accesses_inBounds (run : (kernelSystem L cfg).Run h m) :
    (∀ a ∈ m.kernel.accesses, a.InBounds) ∧
      (∀ a m', m.step L cfg a = some m' → Accessed m a m') ∧
        (∀ id e, getEndpoint id = some e → e.val = id.toNat ∧ id.toNat < epCount) ∧
          (∀ ptr len, el0WriteRangeOk ptr len = el0BufRangeOk ptr len) ∧
            ∀ ptr len, el0BufRangeOk ptr len ↔ Buffer ptr len := by
  refine ⟨(accesses_data.run run).made, fun a m' step => ?_, fun _ _ => getEndpoint_inTable,
    fun _ _ => el0WriteRangeOk_eq, fun _ _ => el0BufRangeOk_iff⟩
  exact step_accessed (run_inv run) (accesses_data.run (run.step step)).made step

set_option maxRecDepth 4000 in
/-- The message of `task_a` is copied to `pending_msg` and from there to `task_b`, and the reply
through the pointer that the call has stored. -/
theorem run_accesses_inBounds_call : ∃ h m, (kernelSystem .sample .sample).Run h m ∧
    m.kernel.accesses.length = 24 ∧ ∀ a ∈ m.kernel.accesses, a.InBounds := by
  obtain ⟨m, ran, length⟩ : ∃ m, runFromBoot .sample .sample (List.replicate 4 .advance ++
      [.trap [] (.svc sysIpcCall [1, el0SandboxBase, 4, el0SandboxBase + 64, 4])] ++
      List.replicate 5 .advance ++
      [.trap [] (.svc sysIpcRecv [1, el0SandboxBase + 128, 256]),
        .trap [] (.svc sysIpcReply [1, el0SandboxBase + 128, 4])]) = some m ∧
        m.kernel.accesses.length = 24 := ⟨_, rfl, rfl⟩
  obtain ⟨h, run, _⟩ := runFromBoot_run ran
  exact ⟨h, m, run, length, (run_accesses_inBounds run).1⟩

end ProtoOs
