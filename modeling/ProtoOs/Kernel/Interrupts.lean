import ProtoOs.Kernel.Machine

/-!
# Timer interrupts: `gic.c` and `timer.c`

The interrupt controller and the virtual timer, and the handler between the exception and its
return. A tick of the machine is the call of `timer_handle_irq`.
-/

namespace ProtoOs

def gicdBase : UInt64 := 0x08000000
def giccBase : UInt64 := 0x08010000
def gicdCtlr : UInt64 := gicdBase + 0x000
def gicdIsenabler0 : UInt64 := gicdBase + 0x100
def gicdIcenabler0 : UInt64 := gicdBase + 0x180
def gicdIpriorityr : UInt64 := gicdBase + 0x400
def giccCtlr : UInt64 := giccBase + 0x000
def giccPmr : UInt64 := giccBase + 0x004
def giccEoir : UInt64 := giccBase + 0x010

def timerIrqId : UInt32 := 27

/-- The register with the priority of the timer interrupt, and where it is there. -/
def timerPriorityr : UInt64 := gicdIpriorityr + (timerIrqId / 4 * 4).toUInt64
def timerPriorityShift : UInt32 := timerIrqId % 4 * 8

/-! ## The devices -/

/-- The distributor and the CPU interface. The timer is the only source of interrupts. -/
structure Gic where
  distributor : UInt32
  enabled : UInt32
  priority : UInt32
  interface : UInt32
  mask : UInt32
  active : Bool

namespace Gic

def read (g : Gic) (address : UInt64) : UInt32 := if address = timerPriorityr then g.priority else 0

def write (g : Gic) (address : UInt64) (value : UInt32) : Gic :=
  if address = gicdCtlr then { g with distributor := value }
  else if address = gicdIsenabler0 then { g with enabled := g.enabled ||| value }
  else if address = gicdIcenabler0 then { g with enabled := g.enabled &&& ~~~value }
  else if address = timerPriorityr then { g with priority := value }
  else if address = giccCtlr then { g with interface := value }
  else if address = giccPmr then { g with mask := value }
  else if address = giccEoir ∧ value &&& 0x3FF = timerIrqId then { g with active := false }
  else g

/-- Whether the processor is interrupted. An active interrupt is not signalled again. -/
def signals (g : Gic) (line : Bool) : Bool :=
  line && !g.active && g.distributor &&& 1 ≠ 0 && g.interface &&& 1 ≠ 0 &&
    g.enabled &&& (1 <<< timerIrqId) ≠ 0 && (g.priority >>> timerPriorityShift) &&& 0xFF < g.mask

/-- A read of `GICC_IAR`. Where nothing is signalled, it is the spurious interrupt. -/
def acknowledge (g : Gic) (line : Bool) : UInt32 × Gic :=
  if g.signals line then (timerIrqId, { g with active := true }) else (1023, g)

end Gic

def gicInit (g : Gic) : Gic :=
  let g := (g.write gicdCtlr 0).write giccCtlr 0
  let val := g.read timerPriorityr
  let val := val &&& ~~~((0xFF : UInt32) <<< timerPriorityShift)
  let val := val ||| ((0x80 : UInt32) <<< timerPriorityShift)
  let g := g.write timerPriorityr val
  let g := (g.write gicdIcenabler0 (1 <<< timerIrqId)).write gicdIsenabler0 (1 <<< timerIrqId)
  ((g.write giccPmr 0xFF).write giccCtlr 1).write gicdCtlr 1

/-- The virtual timer. Its counter does not wrap within the life of a machine. -/
structure Timer where
  cntfrq : UInt64
  count : Int
  cval : Int
  ctl : UInt64
  cntkctl : UInt64

namespace Timer

/-- `CNTV_TVAL` is the signed distance, of 32 bits, from the counter. -/
def writeTval (t : Timer) (v : UInt64) : Timer :=
  { t with cval := t.count + v.toUInt32.toInt32.toInt }

def asserted (t : Timer) : Bool := t.ctl &&& 1 ≠ 0 && t.ctl &&& 2 = 0 && t.cval ≤ t.count

end Timer

def tickInterval (freq : UInt64) : UInt64 := if freq / 1000 = 0 then 1 else freq / 1000

def timerInit (t : Timer) : Timer :=
  let t := { t with cntkctl := t.cntkctl ||| ((1 : UInt64) <<< 1) }
  { t.writeTval (tickInterval t.cntfrq) with ctl := 1 }

/-! ## The board -/

inductive IrqPoint
  | away
  | acknowledge
  | timer (iar : UInt32)
  | finish (iar : UInt32)
  deriving DecidableEq

structure Board where
  machine : Machine
  gic : Gic
  timer : Timer
  interval : UInt64
  point : IrqPoint

inductive BoardAction
  | count
  | run (a : Action)
  | irq
  | handle

def BoardAction.isCount : BoardAction → Bool
  | .count => true
  | _ => false

def BoardAction.isIrq : BoardAction → Bool
  | .irq => true
  | _ => false

def Action.isTick : Action → Bool
  | .tick => true
  | _ => false

/-- `gic_handle_irq`, an access at a time. -/
def Board.handle (L : Layout) (cfg : Config) (b : Board) : Option Board :=
  match b.point with
  | .away => none
  | .acknowledge =>
      let (iar, gic) := b.gic.acknowledge b.timer.asserted
      some { b with gic := gic, point := if iar &&& 0x3FF = timerIrqId then .timer iar else .finish iar }
  | .timer iar =>
      (b.machine.step L cfg .tick).map fun m =>
        { b with machine := m, timer := b.timer.writeTval b.interval, point := .finish iar }
  | .finish iar => some { b with gic := b.gic.write giccEoir iar, point := .away }

/-- The processor runs, or is in the handler, while the counter counts. -/
def Board.step (L : Layout) (cfg : Config) (b : Board) : BoardAction → Option Board
  | .count => some { b with timer := { b.timer with count := b.timer.count + 1 } }
  | .run a =>
      if b.point = .away ∧ a.isTick = false then
        (b.machine.step L cfg a).map fun m => { b with machine := m }
      else none
  | .irq =>
      if b.point = .away ∧ b.machine.phase.irqEnabled ∧ b.gic.signals b.timer.asserted then
        some { b with point := .acknowledge }
      else none
  | .handle => b.handle L cfg

/-- From `arch_enable_irq`, after `gic_init` and `timer_init`. `CNTFRQ` has 32 bits. -/
def boardSystem (L : Layout) (cfg : Config) : Transition.System Board BoardAction where
  init b := ∃ mem g t, boot L cfg mem = .ok b.machine ∧ g.active = false ∧ t.cntfrq < 0x100000000 ∧
    b.gic = gicInit g ∧ b.timer = timerInit t ∧ b.interval = tickInterval t.cntfrq ∧ b.point = .away
  step b a b' := b.step L cfg a = some b'

end ProtoOs
