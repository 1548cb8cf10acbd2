import ProtoOs.Kernel.Bench
import ProtoOs.Kernel.Thread
import ProtoOs.Lib.TextTools

/-!
# Benchmark logs: `aggregate_bench.sh`

The lines that the kernel and the tasks emit in the benchmark builds, as the UART sends them, and
what the script extracts from them.
-/

namespace ProtoOs

open TextTools

/-! ## Log lines -/

def uartPutc (c : Char) : List Char := if c = '\n' then ['\r', c] else [c]

def UartCall.characters (buf : DigitBuffer) : UartCall → Option (List Char)
  | .puts s => some s.toList
  | .dec v => printkU64 buf v
  | .hex v => printkHexU64 v
  | .write bytes => some (bytes.map fun byte => Char.ofNat byte.toNat)

abbrev LogCall := BenchEmit ⊕ UartCall

def LogCall.characters (buf : DigitBuffer) : LogCall → Option (List Char)
  | .inl call => call.characters buf
  | .inr call => call.characters buf

inductive LogLine
  | latency (cfg : Config) (test : BenchTest)
      (iter failures minCycles medianCycles maxCycles totalCycles : UInt64)
  | recovery (cfg : Config) (iter failures cycles : UInt64)
  | metaStart (cfg : Config) (iterations cntfrqHz : UInt64)
  | faultInjected (flavor : Flavor) (task : Slot) (tf : TrapFrame)
  | metaEnd (cfg : Config) (iterations cntfrqHz : UInt64)

def LogLine.calls : LogLine → List LogCall
  | .latency cfg test iter failures minCycles medianCycles maxCycles totalCycles =>
      (latencyResult cfg iter test.name failures minCycles medianCycles maxCycles totalCycles).map .inl
  | .recovery cfg iter failures cycles => (recoveryResult cfg iter failures cycles).map .inl
  | .metaStart cfg iterations cntfrqHz => (ProtoOs.metaStart cfg iterations cntfrqHz).map .inr
  | .faultInjected flavor task tf =>
      (faultReport ⟨flavor, .recovery, false⟩ (some (taskName task)) tf).map .inr
  | .metaEnd cfg iterations cntfrqHz => (ProtoOs.metaEnd cfg iterations cntfrqHz).map .inl

/-- What calls emit one after another, where `stack n` is in the digit buffer of the call `n`. -/
def emitted : (Nat → DigitBuffer) → List LogCall → Option (List Char)
  | _, [] => some []
  | stack, call :: calls => do
      let cs ← call.characters (stack 0)
      let rest ← emitted (fun n => stack (n + 1)) calls
      some (cs ++ rest)

def logText (stack : Nat → DigitBuffer) (log : List LogLine) : Option (List Char) :=
  (emitted stack (log.flatMap LogLine.calls)).map fun cs => cs.flatMap uartPutc

/-! ## The script -/

inductive LogTest
  | latency (test : BenchTest)
  | recoveryWindow
  deriving DecidableEq, Repr

def LogTest.name : LogTest → String
  | .latency test => test.name
  | .recoveryWindow => "recovery_window"

inductive ResultField
  | iter
  | failures
  | minCycles
  | medianCycles
  | maxCycles
  | totalCycles
  | cycles
  deriving DecidableEq, Repr

def ResultField.name : ResultField → String
  | .iter => "iter"
  | .failures => "failures"
  | .minCycles => "min_cycles"
  | .medianCycles => "median_cycles"
  | .maxCycles => "max_cycles"
  | .totalCycles => "total_cycles"
  | .cycles => "cycles"

/-- `extract` on one log. -/
def extract (text : List Char) (test field : String) : List (List Char) :=
  (((lines text).filter (selects fun _ => literal ("BENCH test=" ++ test ++ " ").toList)).flatMap
    (only (labelled field.toList) true 0)).map (secondField '=')

def LogLine.value (test : LogTest) (field : ResultField) : LogLine → Option UInt64
  | .latency _ test' iter failures minCycles medianCycles maxCycles totalCycles =>
      if test = .latency test' then
        match field with
        | .iter => some iter
        | .failures => some failures
        | .minCycles => some minCycles
        | .medianCycles => some medianCycles
        | .maxCycles => some maxCycles
        | .totalCycles => some totalCycles
        | .cycles => none
      else
        none
  | .recovery _ iter failures cycles =>
      if test = .recoveryWindow then
        match field with
        | .iter => some iter
        | .failures => some failures
        | .cycles => some cycles
        | _ => none
      else
        none
  | _ => none

end ProtoOs
