import ProtoOs.Lib.Cells

/-!
# Number printers: `printk.c`

A printer returns the characters that it emits. The digit buffer holds anything at first, and an
access past its end gives `none`.
-/

namespace ProtoOs

/-- `char buf[21]`. -/
abbrev DigitBuffer := Cells Char 21

namespace DigitBuffer

/-- The loop `while (value > 0 && i < bound)`, where `room` is what is left of `bound` above `i`. -/
def fill : Nat → UInt64 → Nat → DigitBuffer → Option (Nat × DigitBuffer)
  | 0, _, i, buf => some (i, buf)
  | room + 1, value, i, buf =>
      if 0 < value then do
        let buf ← buf.store i (.ofNat ('0'.toNat + (value % 10).toNat))
        fill room (value / 10) (i + 1) buf
      else
        some (i, buf)

/-- The loop `while (i > 0)`, which emits the digits from the last one stored. -/
def drain (buf : DigitBuffer) : Nat → Option (List Char)
  | 0 => some []
  | i + 1 => do
      let c ← buf.load i
      let rest ← drain buf i
      some (c :: rest)

end DigitBuffer

def printkU64 (buf : DigitBuffer) (v : UInt64) : Option (List Char) :=
  if v = 0 then
    some ['0']
  else do
    let (i, buf) ← DigitBuffer.fill 20 v 0 buf
    buf.drain i

def hex : List Char := "0123456789abcdef".toList

/-- The loop over the nibbles below `i`. -/
def hexNibbles (v : UInt64) : Nat → Bool → Option (List Char)
  | 0, _ => some []
  | i + 1, started =>
      let nibble := ((v >>> UInt64.ofNat (i * 4)) &&& 0xF).toUInt8
      if nibble ≠ 0 ∨ started ∨ i = 0 then do
        let c ← hex[nibble.toNat]?
        let rest ← hexNibbles v i true
        some (c :: rest)
      else
        hexNibbles v i started

def printkHexU64 (v : UInt64) : Option (List Char) := hexNibbles v 16 false

example : printkU64 (.replicate 21 '?') 1200 = some "1200".toList := by decide

end ProtoOs
