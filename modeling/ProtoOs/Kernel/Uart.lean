import ProtoOs.Lib.Progress

/-!
# The UART: `uart_pl011.c`

The driver is the list of accesses that it still has to make, and the PL011 sends while it waits.
-/

namespace ProtoOs

def uartBase : UInt64 := 0x09000000
def uartDr : UInt64 := uartBase + 0x00
def uartIbrd : UInt64 := uartBase + 0x24
def uartFbrd : UInt64 := uartBase + 0x28
def uartLcrh : UInt64 := uartBase + 0x2C
def uartCr : UInt64 := uartBase + 0x30
def uartImsc : UInt64 := uartBase + 0x38
def uartIcr : UInt64 := uartBase + 0x44

/-! ## The driver -/

inductive UartAccess
  | write (address : UInt64) (value : UInt32)
  /-- `while (mmio_read(UART_FR) & (1 << 5)) { }` -/
  | await
  deriving DecidableEq, Repr

namespace Uart

def init : List UartAccess :=
  [.write uartCr 0, .write uartIcr 0x7FF, .write uartIbrd 13, .write uartFbrd 1,
    .write uartLcrh ((3 : UInt32) <<< 5), .write uartImsc 0,
    .write uartCr (((1 : UInt32) <<< 9) ||| ((1 : UInt32) <<< 8) ||| 1)]

def send (c : UInt8) : List UartAccess := [.await, .write uartDr c.toUInt32]

def newline : UInt8 := 10
def carriageReturn : UInt8 := 13

def putc (c : UInt8) : List UartAccess :=
  (if c = newline then send carriageReturn else []) ++ send c

/-- A string ends before its first zero. -/
def puts (s : List UInt8) : List UartAccess := (s.takeWhile (· ≠ 0)).flatMap putc

def writeDirect (buf : List UInt8) : List UartAccess := buf.flatMap putc

end Uart

/-! ## The device -/

/-- The transmit side. The last three fields are no registers: the divisor in use, what was written
to a full queue, and whether the line was set up while the UART was on. -/
structure Pl011 where
  ibrd : UInt32
  fbrd : UInt32
  lcrh : UInt32
  cr : UInt32
  imsc : UInt32
  queue : List UInt8
  wire : List UInt8
  divisor : UInt32 × UInt32
  lost : List UInt8
  misused : Bool
  deriving DecidableEq

namespace Pl011

def enabled (d : Pl011) : Bool := d.cr &&& 1 ≠ 0

def transmits (d : Pl011) : Bool := d.enabled && d.cr &&& 0x100 ≠ 0

/-- Without FIFOs (LCRH.FEN) the queue is one holding register. -/
def depth (d : Pl011) : Nat := if d.lcrh &&& 0x10 = 0 then 1 else 16

def full (d : Pl011) : Bool := d.depth ≤ d.queue.length

/-- TXFF, TXFE and RXFE. -/
def fr (d : Pl011) : UInt32 :=
  (if d.full then 0x20 else 0) ||| (if d.queue = [] then 0x80 else 0) ||| 0x10

/-- A write of LCRH brings the divisor registers into use. -/
def write (d : Pl011) (address : UInt64) (value : UInt32) : Pl011 :=
  if address = uartDr then
    if d.full then { d with lost := d.lost ++ [value.toUInt8] }
    else { d with queue := d.queue ++ [value.toUInt8] }
  else if address = uartIbrd then { d with ibrd := value, misused := d.misused || d.enabled }
  else if address = uartFbrd then { d with fbrd := value, misused := d.misused || d.enabled }
  else if address = uartLcrh then
    { d with lcrh := value, divisor := (d.ibrd, d.fbrd), misused := d.misused || d.enabled }
  else if address = uartCr then { d with cr := value }
  else if address = uartImsc then { d with imsc := value }
  else d

end Pl011

/-! ## Both -/

structure UartState where
  code : List UartAccess
  device : Pl011
  deriving DecidableEq

inductive UartAction
  | access
  | transmit
  deriving DecidableEq, Repr

def UartState.step (s : UartState) : UartAction → Option UartState
  | .access =>
      match s.code with
      | [] => none
      | .write address value :: code => some ⟨code, s.device.write address value⟩
      | .await :: code => if s.device.fr &&& ((1 : UInt32) <<< 5) ≠ 0 then some s else some ⟨code, s.device⟩
  | .transmit =>
      match s.device.queue with
      | [] => none
      | b :: queue =>
          if s.device.transmits then
            some ⟨s.code, { s.device with queue := queue, wire := s.device.wire ++ [b] }⟩
          else none

/-- From power on, where nothing is queued, until the bytes are written. -/
def uartSystem (bytes : List UInt8) : Transition.System UartState UartAction where
  init s := s.code = Uart.init ++ Uart.writeDirect bytes ∧ s.device.queue = [] ∧
    s.device.wire = [] ∧ s.device.lost = [] ∧ s.device.misused = false
  step s a s' := s.step a = some s'

end ProtoOs
