import ProtoOs.Kernel.Ipc

namespace ProtoOs

def supervisorInit (k : Kernel) : Kernel :=
  (k.setPendingDeath slotNone).setBlockedSupervisor slotNone

def supervisorNoteTaskDeath (k : Kernel) (slot : UInt32) : Except Panic Kernel :=
  if slot.toNat ≥ threadCount then .ok k
  else
    let k := if slot.toInt32 = k.blockedSupervisorSlot then k.setBlockedSupervisor slotNone else k
    if k.blockedSupervisorSlot ≠ slotNone then
      match threadUserWakeWithX0 k k.blockedSupervisorSlot.toUInt32 slot.toUInt64 with
      | .error p => .error p
      | .ok k => .ok (threadRequestResched
          ((k.record [.reported slot]).setBlockedSupervisor slotNone))
    else
      let dropped := if k.pendingDeathSlot ≠ slotNone then
          [.overwritten k.pendingDeathSlot.toUInt32]
        else []
      .ok ((k.record dropped).setPendingDeath slot.toInt32)

def supervisorSyscallWait (L : Layout) (k : Kernel) (tf : TrapFrame) : SysResult :=
  match threadCurrentUserSlot k with
  | .error p => .error (p, k)
  | .ok currentSlot =>
    if currentSlot ≠ slotTaskC.u32 then .ok (k, tf, minusOne)
    else if k.pendingDeathSlot ≠ slotNone then
      let slot := k.pendingDeathSlot.toUInt32
      .ok ((k.record [.reported slot]).setPendingDeath slotNone, tf, slot.toUInt64)
    else if k.blockedSupervisorSlot ≠ slotNone then .ok (k, tf, minusOne)
    else syscallRedirect L (k.setBlockedSupervisor currentSlot.toInt32) tf .notifyBlock

def supervisorSyscallRestart (k : Kernel) (tf : TrapFrame) (slot : UInt64) : SysResult :=
  match threadCurrentUserSlot k with
  | .error p => .error (p, k)
  | .ok currentSlot =>
    if currentSlot ≠ slotTaskC.u32 then .ok (k, tf, minusOne)
    else if slot ≠ slotTaskB.u32.toUInt64 then .ok (k, tf, minusOne)
    else
      let (k, ret) := threadUserRestart k slot.toUInt32
      if ret ≠ 0 then .ok (k, tf, minusOne) else .ok (k, tf, 0)

end ProtoOs
