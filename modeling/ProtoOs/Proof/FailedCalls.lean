import ProtoOs.Proof.UserAccess

namespace ProtoOs

variable {L : Layout} {cfg : Config} {k k₁ k' : Kernel} {m : Machine} {h : List (Machine × Action)}
  {t : Slot} {tf tf' : TrapFrame} {stores : List (SandboxAddress × UInt8)} {regs : UserTaskCtx}
  {len x0 : UInt64}

/-! ## Results that are not -1 -/

theorem ne_minusOne_of_lt (small : len.toNat < 2 ^ 32) : len ≠ minusOne := by
  rintro rfl
  exact absurd small (by decide)

theorem Buffer.ne_minusOne {ptr : UInt64} (buffer : Buffer ptr len) : len ≠ minusOne := by
  obtain ⟨_, _, high⟩ := buffer
  rw [el0SandboxEnd_toNat] at high
  apply ne_minusOne_of_lt
  omega

/-- Of the transitions that return to the caller, only those that do nothing return -1. -/
theorem Effect.failed (effect : Effect cfg k t tf k₁ (.back x0)) (accesses : AccessesOk k)
    (failed : x0 = minusOne) : k₁ = k := by
  cases effect with
  | refused | ticks => rfl
  | write _ range => exact absurd failed (el0BufRangeOk_iff.mp range).ne_minusOne
  | @take e _ _ _ _ pending =>
      have length := (accesses.stored e).pending pending
      have bound := minU64_le_left (k.endpoints e).pendingLen (tf.x 2)
      have small : ipcMsgSize.toNat < 2 ^ 32 := by decide
      exact absurd failed (ne_minusOne_of_lt (by omega))
  | answer | restart => exact absurd failed (by decide)
  | report =>
      have small := k.pendingDeathSlot.toUInt32.toNat_lt
      exact absurd failed (ne_minusOne_of_lt (by simpa using small))

/-! ## The dispatcher -/

theorem syscallRedirect_ne_minusOne {reason : TaskReturnReason}
    (returned : syscallRedirect L k tf reason = .ok (k', tf', x0)) : x0 ≠ minusOne := by
  unfold syscallRedirect at returned
  split at returned
  · cases returned
  · cases returned
    decide

theorem syscallDispatch_failed (ready : Ready k t) (awake : WaitersAwake k)
    (accesses : AccessesOk k) (svc : tf.exceptionClass = 0x15)
    (failed : syscallDispatch L cfg k tf .el0 = .ok (k', tf', minusOne)) :
    k' = k ∧ tf' = tf := by
  obtain ⟨k₁, o, effect, result⟩ := syscallDispatch_explained (L := L) ready awake svc
  rw [result] at failed
  cases o with
  | away => exact absurd rfl (syscallRedirect_ne_minusOne failed)
  | back x0 =>
      cases failed
      exact ⟨effect.failed accesses rfl, rfl⟩

/-! ## Runs -/

theorem run_failed_unchanged (run : (kernelSystem L cfg).Run h m) (el0 : m.phase = .el0 regs)
    (mode : tf.fromEl0) (svc : tf.exceptionClass = 0x15)
    (failed : syscallDispatch L cfg (m.kernel.setMem (userStores stores m.kernel.mem)) tf .el0 =
      .ok (k', tf', minusOne)) :
    k' = m.kernel.setMem (userStores stores m.kernel.mem) ∧ tf' = tf ∧
      m.step L cfg (.trap stores tf) =
        some ⟨m.kernel.setMem (userStores stores m.kernel.mem), .el0 (tf.after minusOne)⟩ := by
  obtain ⟨ok, t, active⟩ := (run_inv run).active el0
  have okStored := ok.setMem (userStores stores m.kernel.mem)
  have stored : Active (m.kernel.setMem (userStores stores m.kernel.mem)) t := active.congr rfl rfl rfl
  have before := accesses_data.run run
  have accesses : AccessesOk (m.kernel.setMem (userStores stores m.kernel.mem)) :=
    ⟨before.stored, before.made⟩
  obtain ⟨kernel, frame⟩ :=
    syscallDispatch_failed (stored.ready okStored) (stored.awake okStored) accesses svc failed
  subst kernel frame
  have returned : takeTrap L cfg (m.kernel.setMem (userStores stores m.kernel.mem)) tf' =
      ⟨m.kernel.setMem (userStores stores m.kernel.mem), .el0 (tf'.after minusOne)⟩ := by
    simp only [takeTrap, exceptionSyncEl0, svc, if_true, failed]
    exact eret_back mode minusOne
  refine ⟨rfl, rfl, ?_⟩
  simp only [Machine.step, el0, mode, if_true, returned]

theorem run_failed_unchanged_long : ∃ m m' : Machine,
    m.step .sample .sample (.trap [] (.svc sysIpcCall [1, el0SandboxBase, 257, el0SandboxBase, 4])) =
      some m' ∧ m'.kernel = m.kernel.setMem m.kernel.mem := by
  let tf : TrapFrame := .svc sysIpcCall [1, el0SandboxBase, 257, el0SandboxBase, 4]
  obtain ⟨m, regs, k', tf', ran, el0, failed⟩ : ∃ (m : Machine) (regs : UserTaskCtx) (k' : Kernel)
      (tf' : TrapFrame), runFromBoot .sample .sample (List.replicate 4 .advance) = some m ∧
        m.phase = .el0 regs ∧ syscallDispatch .sample .sample
          (m.kernel.setMem (userStores [] m.kernel.mem)) tf .el0 = .ok (k', tf', minusOne) :=
    ⟨_, _, _, _, rfl, rfl, rfl⟩
  obtain ⟨h, run, _⟩ := runFromBoot_run ran
  obtain ⟨_, _, step⟩ := run_failed_unchanged run el0 (by decide) (by decide) failed
  exact ⟨m, _, step, rfl⟩

end ProtoOs
