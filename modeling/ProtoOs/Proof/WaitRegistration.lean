import ProtoOs.Proof.Control

namespace ProtoOs

variable {L : Layout} {cfg : Config} {m : Machine} {h : List (Machine × Action)}

structure WaitsRegistered (k : Kernel) : Prop where
  blocked : ∀ s, s ≠ slotIdle →
    ((k.threads s).user.state = .blocked ↔ ∃! w, k.waiter w = s.i32)
  unrecorded : ∀ s, s ≠ slotIdle → (k.threads s).user.state ≠ .blocked →
    ∀ w, k.waiter w ≠ s.i32
  receiver : ∀ e (s : Slot), (k.endpoints e).blockedReceiverSlot = s.i32 → (k.endpoints e).ownerSlot = s.u32
  woken : ∀ s x0 prior, .woke s x0 prior ∈ k.log → prior = .blocked

theorem KernelOk.waits_iff {k : Kernel} (ok : KernelOk L cfg k none) {s : Slot} (user : s ≠ slotIdle) :
    (k.threads s).user.state = .blocked ↔ ∃! w, k.waiter w = s.i32 := by
  obtain ⟨T, occupant, waits⟩ := ok.waits.table
  have recorded (w : WaitPlace) : T.occupant w = some s ↔ k.waiter w = s.i32 := by
    rw [occupant, occupant_eq_some]
  have blocked : T.Waits s ↔ (k.threads s).user.state = .blocked := by simpa using waits s user
  rw [← blocked]
  constructor
  · intro waiting
    obtain ⟨w, here, only⟩ := T.waits_existsUnique waiting
    exact ⟨w, (recorded w).mp here, fun v there => only v ((recorded v).mpr there)⟩
  · rintro ⟨w, here, _⟩
    exact ⟨w, (recorded w).mpr here⟩

theorem KernelOk.only {k : Kernel} (ok : KernelOk L cfg k none) {s : Slot} {w v : WaitPlace}
    (here : k.waiter w = s.i32) (there : k.waiter v = s.i32) : w = v := by
  obtain ⟨user, blocked⟩ := ok.recorded here
  obtain ⟨place, _, only⟩ := (ok.waits_iff user).mp blocked
  rw [only w here, only v there]

theorem KernelOk.receiver_owner {k : Kernel} (ok : KernelOk L cfg k none) {e : EpId} {s : Slot}
    (at_ : (k.endpoints e).blockedReceiverSlot = s.i32) : (k.endpoints e).ownerSlot = s.u32 := by
  rcases ok.waits.receiver e with vacant | owner
  · exact absurd (vacant.symm.trans at_) (Slot.none_ne_i32 s)
  · have same : (k.endpoints e).ownerSlot.toInt32 = s.i32 := owner.symm.trans at_
    calc (k.endpoints e).ownerSlot = (k.endpoints e).ownerSlot.toInt32.toUInt32 := rfl
      _ = s.u32 := by rw [same]; rfl

theorem run_waitsRegistered (run : (kernelSystem L cfg).Run h m) (calm : ∀ p, m.phase ≠ .panic p) :
    WaitsRegistered m.kernel := by
  have ok := (run_inv run).kernelOk calm
  exact ⟨fun _ user => ok.waits_iff user, fun _ _ awake _ at_ => awake (ok.recorded at_).2,
    fun _ _ at_ => ok.receiver_owner at_, ok.woke⟩

theorem run_waitsRegistered_call : ∃ h m, (kernelSystem .sample .sample).Run h m ∧
    (m.kernel.threads slotTaskA).user.state = .blocked ∧ WaitsRegistered m.kernel := by
  obtain ⟨m, ran, blocked, phase⟩ : ∃ m, runFromBoot .sample .sample (List.replicate 4 .advance ++
      [.trap [] (.svc sysIpcCall [1, el0SandboxBase, 4, el0SandboxBase, 4])]) = some m ∧
      (m.kernel.threads slotTaskA).user.state = .blocked ∧
        m.phase = .pick (.returnStep slotTaskA) := ⟨_, rfl, rfl, rfl⟩
  obtain ⟨h, run, _⟩ := runFromBoot_run ran
  exact ⟨h, m, run, blocked, run_waitsRegistered run (by simp [phase])⟩

end ProtoOs
