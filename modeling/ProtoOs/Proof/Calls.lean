import ProtoOs.Proof.Trap

namespace ProtoOs

variable {cfg : Config} {k k₁ : Kernel} {t s : Slot} {e : EpId} {tf : TrapFrame} {o : Outcome}
  {nr : UInt64}

theorem Asks.unique {nr' : UInt64} (asks : Asks tf nr) (other : Asks tf nr') : nr = nr' :=
  asks.number.symm.trans other.number

theorem Effect.of_yield (effect : Effect cfg k t tf k₁ o) (asks : Asks tf sysYield) :
    o = .away .yield ∧ k₁ = k := by
  cases effect with
  | yield => exact ⟨rfl, rfl⟩
  | refused refuses =>
      cases refuses with
      | write other | call other | recv other | reply other | wait other | restart other =>
          exact absurd (other.unique asks) (by decide)
      | unknown _ unlisted => simp [asks.number] at unlisted
  | fault other => exact absurd asks.svc other
  | ticks other | write other | exit other | take other | listen other | answer other
  | report other | await other | restart other => exact absurd (other.unique asks) (by decide)
  | park sends | handOver sends =>
      cases sends with
      | call other | route other => exact absurd (other.unique asks) (by decide)

theorem Effect.of_ticks (effect : Effect cfg k t tf k₁ o) (asks : Asks tf sysTimeTicks) :
    o = .back k.schedTicks ∧ k₁ = k := by
  cases effect with
  | ticks => exact ⟨rfl, rfl⟩
  | refused refuses =>
      cases refuses with
      | write other | call other | recv other | reply other | wait other | restart other =>
          exact absurd (other.unique asks) (by decide)
      | unknown _ unlisted => simp [asks.number] at unlisted
  | fault other => exact absurd asks.svc other
  | yield other | write other | exit other | take other | listen other | answer other
  | report other | await other | restart other => exact absurd (other.unique asks) (by decide)
  | park sends | handOver sends =>
      cases sends with
      | call other | route other => exact absurd (other.unique asks) (by decide)

def TrapFrame.routed (tf : TrapFrame) : Send := ⟨tf.x 0, tf.x 1, 0, 0, tf.x 1, true⟩

inductive WriteEffect (cfg : Config) (k : Kernel) (t : Slot) (tf : TrapFrame) :
    Kernel → Outcome → Prop
  | refused (no : el0WriteRangeOk (tf.x 0) (tf.x 1) →
      (cfg.flavor = .micro ∧ t ≠ slotTaskB ∧ t ≠ slotTaskC) ∧ ¬ Accepts k epUart tf.routed) :
      WriteEffect cfg k t tf k (.back minusOne)
  | direct (direct : ¬ (cfg.flavor = .micro ∧ t ≠ slotTaskB ∧ t ≠ slotTaskC)) :
      WriteEffect cfg k t tf (uartWriteDirect k (tf.x 0) (tf.x 1)) (.back (tf.x 1))
  | park (micro : cfg.flavor = .micro) (client : t ≠ slotTaskB ∧ t ≠ slotTaskC)
      (accepts : Accepts k epUart tf.routed)
      (absent : (k.endpoints epUart).blockedReceiverSlot = slotNone) :
      WriteEffect cfg k t tf (k.parkRequest t epUart tf.routed) (.away .ipcBlock)
  | handOver {s : Slot} (micro : cfg.flavor = .micro) (client : t ≠ slotTaskB ∧ t ≠ slotTaskC)
      (accepts : Accepts k epUart tf.routed)
      (waiting : (k.endpoints epUart).blockedReceiverSlot = s.i32) :
      WriteEffect cfg k t tf (k.handOver t epUart tf.routed s) (.away .ipcBlock)

theorem Effect.of_write (effect : Effect cfg k t tf k₁ o) (asks : Asks tf sysWrite) :
    WriteEffect cfg k t tf k₁ o := by
  cases effect with
  | write _ _ direct => exact .direct direct
  | refused refuses =>
      cases refuses with
      | write _ no => exact .refused no
      | call other | recv other | reply other | wait other | restart other =>
          exact absurd (other.unique asks) (by decide)
      | unknown _ unlisted => simp [asks.number] at unlisted
  | park sends accepts absent =>
      cases sends with
      | route _ micro client => exact .park micro client accepts absent
      | call other => exact absurd (other.unique asks) (by decide)
  | handOver sends accepts waiting =>
      cases sends with
      | route _ micro client => exact .handOver micro client accepts waiting
      | call other => exact absurd (other.unique asks) (by decide)
  | fault other => exact absurd asks.svc other
  | ticks other | yield other | exit other | take other | listen other | answer other
  | report other | await other | restart other => exact absurd (other.unique asks) (by decide)

inductive RecvEffect (k : Kernel) (t : Slot) (tf : TrapFrame) : Kernel → Outcome → Prop
  | refused (no : ∀ e, getEndpoint (tf.x 0) = some e → el0BufRangeOk (tf.x 1) (tf.x 2) →
      (k.endpoints e).ownerSlot = t.u32 →
        (k.endpoints e).hasPending = false ∧ (k.endpoints e).blockedReceiverSlot ≠ slotNone) :
      RecvEffect k t tf k (.back minusOne)
  | take {e : EpId} (found : getEndpoint (tf.x 0) = some e)
      (owner : (k.endpoints e).ownerSlot = t.u32) (pending : (k.endpoints e).hasPending = true) :
      RecvEffect k t tf (k.takePending t e (tf.x 1) (tf.x 2))
        (.back (minU64 (k.endpoints e).pendingLen (tf.x 2)))
  | listen {e : EpId} (found : getEndpoint (tf.x 0) = some e)
      (owner : (k.endpoints e).ownerSlot = t.u32) (quiet : (k.endpoints e).hasPending = false)
      (absent : (k.endpoints e).blockedReceiverSlot = slotNone) :
      RecvEffect k t tf (k.listen t e (tf.x 1) (tf.x 2)) (.away .ipcBlock)

theorem Effect.of_recv (effect : Effect cfg k t tf k₁ o) (asks : Asks tf sysIpcRecv) :
    RecvEffect k t tf k₁ o := by
  cases effect with
  | take _ found _ owner pending => exact .take found owner pending
  | listen _ found _ owner quiet absent => exact .listen found owner quiet absent
  | refused refuses =>
      cases refuses with
      | recv _ no => exact .refused no
      | write other | call other | reply other | wait other | restart other =>
          exact absurd (other.unique asks) (by decide)
      | unknown _ unlisted => simp [asks.number] at unlisted
  | fault other => exact absurd asks.svc other
  | ticks other | write other | yield other | exit other | answer other | report other
  | await other | restart other => exact absurd (other.unique asks) (by decide)
  | park sends | handOver sends =>
      cases sends with
      | call other | route other => exact absurd (other.unique asks) (by decide)

inductive ReplyEffect (k : Kernel) (t : Slot) (tf : TrapFrame) : Kernel → Outcome → Prop
  | refused (no : ∀ e, getEndpoint (tf.x 0) = some e → tf.x 2 ≤ ipcMsgSize →
      el0BufRangeOk (tf.x 1) (tf.x 2) → (k.endpoints e).ownerSlot = t.u32 →
        (k.endpoints e).blockedCallerSlot = slotNone) : ReplyEffect k t tf k (.back minusOne)
  | answer {e : EpId} {s : Slot} (found : getEndpoint (tf.x 0) = some e)
      (length : tf.x 2 ≤ ipcMsgSize) (range : el0BufRangeOk (tf.x 1) (tf.x 2))
      (owner : (k.endpoints e).ownerSlot = t.u32)
      (waiting : (k.endpoints e).blockedCallerSlot = s.i32) :
      ReplyEffect k t tf (k.answer t e (tf.x 1) (tf.x 2) s) (.back 0)

theorem Effect.of_reply (effect : Effect cfg k t tf k₁ o) (asks : Asks tf sysIpcReply) :
    ReplyEffect k t tf k₁ o := by
  cases effect with
  | answer _ found length range owner waiting => exact .answer found length range owner waiting
  | refused refuses =>
      cases refuses with
      | reply _ no => exact .refused no
      | write other | call other | recv other | wait other | restart other =>
          exact absurd (other.unique asks) (by decide)
      | unknown _ unlisted => simp [asks.number] at unlisted
  | fault other => exact absurd asks.svc other
  | ticks other | write other | yield other | exit other | take other | listen other
  | report other | await other | restart other => exact absurd (other.unique asks) (by decide)
  | park sends | handOver sends =>
      cases sends with
      | call other | route other => exact absurd (other.unique asks) (by decide)

inductive WaitEffect (k : Kernel) (t : Slot) : Kernel → Outcome → Prop
  | refused (no : t = slotTaskC →
      k.pendingDeathSlot = slotNone ∧ k.blockedSupervisorSlot ≠ slotNone) :
      WaitEffect k t k (.back minusOne)
  | report (full : k.pendingDeathSlot ≠ slotNone) :
      WaitEffect k t ((k.record [.reported k.pendingDeathSlot.toUInt32]).setPendingDeath slotNone)
        (.back k.pendingDeathSlot.toUInt32.toUInt64)
  | await (quiet : k.pendingDeathSlot = slotNone) :
      WaitEffect k t (k.setBlockedSupervisor t.i32) (.away .notifyBlock)

theorem Effect.of_wait (effect : Effect cfg k t tf k₁ o) (asks : Asks tf sysSuperviseWait) :
    WaitEffect k t k₁ o := by
  cases effect with
  | report _ _ full => exact .report full
  | await _ _ quiet => exact .await quiet
  | refused refuses =>
      cases refuses with
      | wait _ no => exact .refused no
      | write other | call other | recv other | reply other | restart other =>
          exact absurd (other.unique asks) (by decide)
      | unknown _ unlisted => simp [asks.number] at unlisted
  | fault other => exact absurd asks.svc other
  | ticks other | write other | yield other | exit other | take other | listen other
  | answer other | restart other => exact absurd (other.unique asks) (by decide)
  | park sends | handOver sends =>
      cases sends with
      | call other | route other => exact absurd (other.unique asks) (by decide)

inductive RestartEffect (k : Kernel) (t : Slot) (tf : TrapFrame) : Kernel → Outcome → Prop
  | refused (no : t = slotTaskC → tf.x 0 = slotTaskB.u32.toUInt64 →
      ¬ Restartable (k.threads slotTaskB)) : RestartEffect k t tf k (.back minusOne)
  | restart (supervisor : t = slotTaskC) (target : tf.x 0 = slotTaskB.u32.toUInt64)
      (restartable : Restartable (k.threads slotTaskB)) :
      RestartEffect k t tf (k.restartTask slotTaskB) (.back 0)

theorem Effect.of_restart (effect : Effect cfg k t tf k₁ o) (asks : Asks tf sysTaskRestart) :
    RestartEffect k t tf k₁ o := by
  cases effect with
  | restart _ supervisor target restartable => exact .restart supervisor target restartable
  | refused refuses =>
      cases refuses with
      | restart _ no => exact .refused no
      | write other | call other | recv other | reply other | wait other =>
          exact absurd (other.unique asks) (by decide)
      | unknown _ unlisted => simp [asks.number] at unlisted
  | fault other => exact absurd asks.svc other
  | ticks other | write other | yield other | exit other | take other | listen other
  | answer other | report other | await other => exact absurd (other.unique asks) (by decide)
  | park sends | handOver sends =>
      cases sends with
      | call other | route other => exact absurd (other.unique asks) (by decide)

theorem Effect.of_fault (effect : Effect cfg k t tf k₁ o) (fault : tf.exceptionClass ≠ 0x15) :
    o = .away .fault ∧ k₁ = k.emit (faultReport cfg (k.threads t).user.name tf) := by
  cases effect with
  | fault => exact ⟨rfl, rfl⟩
  | refused refuses => exact absurd refuses.svc fault
  | ticks asks | write asks | yield asks | exit asks | take asks | listen asks | answer asks
  | report asks | await asks | restart asks => exact absurd asks.svc fault
  | park sends | handOver sends => exact absurd sends.svc fault

/-! ## Messages -/

theorem Sends.unique {e' : EpId} (sends : Sends cfg t tf e d) (sends' : Sends cfg t tf e' d') :
    e = e' ∧ d = d' := by
  cases sends with
  | call asks found =>
      cases sends' with
      | call _ found' =>
          cases found.symm.trans found'
          exact ⟨rfl, rfl⟩
      | route asks' => exact absurd (asks.unique asks') (by decide)
  | route asks =>
      cases sends' with
      | call asks' => exact absurd (asks.unique asks') (by decide)
      | route => exact ⟨rfl, rfl⟩

inductive SendEffect (k : Kernel) (t : Slot) (e : EpId) (d : Send) : Kernel → Outcome → Prop
  | refused (no : ¬ Accepts k e d) : SendEffect k t e d k (.back minusOne)
  | park (accepts : Accepts k e d) (absent : (k.endpoints e).blockedReceiverSlot = slotNone) :
      SendEffect k t e d (k.parkRequest t e d) (.away .ipcBlock)
  | handOver {s : Slot} (accepts : Accepts k e d)
      (waiting : (k.endpoints e).blockedReceiverSlot = s.i32) :
      SendEffect k t e d (k.handOver t e d s) (.away .ipcBlock)

theorem Effect.of_sends (effect : Effect cfg k t tf k₁ o) (sends : Sends cfg t tf e d) :
    SendEffect k t e d k₁ o := by
  cases effect with
  | park sends' accepts absent =>
      obtain ⟨rfl, rfl⟩ := sends.unique sends'
      exact .park accepts absent
  | handOver sends' accepts waiting =>
      obtain ⟨rfl, rfl⟩ := sends.unique sends'
      exact .handOver accepts waiting
  | refused refuses =>
      apply SendEffect.refused
      intro accepts
      cases refuses with
      | write asks no =>
          cases sends with
          | call asks' => exact absurd (asks.unique asks') (by decide)
          | route _ _ _ range => exact (no range).2 accepts
      | call asks no =>
          cases sends with
          | call _ found reply => exact no _ found reply accepts
          | route asks' => exact absurd (asks.unique asks') (by decide)
      | recv asks | reply asks | wait asks | restart asks =>
          cases sends with
          | call asks' | route asks' => exact absurd (asks.unique asks') (by decide)
      | unknown _ unlisted =>
          cases sends with
          | call asks | route asks => simp [asks.number] at unlisted
  | write asks _ direct =>
      cases sends with
      | call asks' => exact absurd (asks.unique asks') (by decide)
      | route _ micro client => exact absurd ⟨micro, client⟩ direct
  | fault fault => exact absurd sends.svc fault
  | ticks asks | yield asks | exit asks | take asks | listen asks | answer asks | report asks
  | await asks | restart asks =>
      cases sends with
      | call asks' | route asks' => exact absurd (asks.unique asks') (by decide)

end ProtoOs
