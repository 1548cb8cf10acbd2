import ProtoOs.Kernel.Aggregate
import ProtoOs.Lib.LineSearch
import ProtoOs.Lib.Numerals

/-!
# The scripts: `validate_bench_log.sh` and the report of `aggregate_bench.sh`
-/

namespace ProtoOs

open TextTools

/-! ## `validate_bench_log.sh` -/

inductive LogPart
  | start
  | stop
  | faultInjected
  | result (test : LogTest)
  deriving DecidableEq, Repr

def LogPart.pieces : LogPart → List (List Char)
  | .start => ["BENCH_META ".toList, "phase=start".toList]
  | .stop => ["BENCH_META ".toList, "phase=end".toList]
  | .faultInjected => ["BENCH_META ".toList, "phase=fault_injected".toList]
  | .result test => [("BENCH test=" ++ test.name ++ " ").toList]

def LogPart.pattern (part : LogPart) : List Char := ".*".toList.intercalate part.pieces

inductive BenchKind
  | latency
  | recovery
  deriving DecidableEq, Repr

def BenchKind.name : BenchKind → String
  | .latency => "latency"
  | .recovery => "recovery"

def BenchKind.required : BenchKind → List LogPart
  | .recovery => [.start, .stop, .faultInjected, .result .recoveryWindow]
  | .latency => [.start, .stop, .result (.latency .sysWrite), .result (.latency .ipcRoundtrip)]

/-- The line that a script prints, and its exit status. -/
structure ScriptResult where
  line : List Char
  exit : Nat

/-- The last `echo` of the script, where `nonzero` is what `awk` printed. -/
def verdict (log : List Char) (kind : BenchKind) (missing : List LogPart)
    (nonzero : List (List Char)) : ScriptResult :=
  if missing = [] then
    if nonzero ≠ [] then
      ⟨log ++ ": OK (".toList ++ kind.name.toList ++ ") WARN non-zero ".toList ++
        nonzero.flatMap fun field => field ++ [' '], 0⟩
    else
      ⟨log ++ ": OK (".toList ++ kind.name.toList ++ ")".toList, 0⟩
  else
    ⟨log ++ ": BAD (".toList ++ kind.name.toList ++ ") missing: ".toList ++
      [' '].intercalate (missing.map LogPart.pattern), 1⟩

def validateBenchLog (log text : List Char) : ScriptResult :=
  let greps (part : LogPart) : Bool := (lines text).any (finds part.pieces)
  let kind : BenchKind := if greps .faultInjected then .recovery else .latency
  let missing := kind.required.filter fun part => !greps part
  let nonzero := ((lines text).flatMap (only (numbered "failures".toList) true 0)).filter
    fun field => secondField '=' field ≠ ['0']
  verdict log kind missing nonzero

/-! ## `aggregate_bench.sh` -/

/-- `extract` on the logs that the glob names, with its exit status. The script runs under
`set -euo pipefail`: a log from which the pipeline gets nothing makes a `grep` fail, and this ends the
loop. -/
def extractLogs (test field : String) : List (List Char) → List (List Char) × Nat
  | [] => ([], 0)
  | text :: texts =>
      let values := extract text test field
      if values = [] then ([], 1)
      else
        let rest := extractLogs test field texts
        (values ++ rest.1, rest.2)

/-- `sort -n` on lines of digits. -/
def sortN (ls : List (List Char)) : List (List Char) :=
  ls.mergeSort fun a b => Numerals.value 10 a ≤ Numerals.value 10 b

/-- What depends on the `awk` at hand: the result of arithmetic, and how `%d` prints a number that is
not negative. -/
structure Awk where
  round : ℚ → ℚ
  printfD : ℚ → List Char

def summarise (awk : Awk) (ls : List (List Char)) : List Char :=
  let a (i : Nat) : ℚ := awk.round (Numerals.value 10 ((sortN ls).getD (i - 1) []))
  let n := ls.length
  if n = 0 then
    "  (no samples)\n".toList
  else
    let med :=
      if n % 2 = 1 then a ((n + 1) / 2) else awk.round (awk.round (a (n / 2) + a (n / 2 + 1)) / 2)
    "  n=".toList ++ awk.printfD n ++ " min=".toList ++ awk.printfD (a 1) ++ " median=".toList ++
      awk.printfD med ++ " max=".toList ++ awk.printfD (a n) ++ ['\n']

structure ReportResult where
  text : List Char
  status : Nat

/-- `report` on the logs that the glob names. A status other than 0 ends the script. -/
def report (awk : Awk) (label : String) (texts : List (List Char)) (test field : String) :
    ReportResult :=
  let extracted := extractLogs test field texts
  ⟨label.toList ++ ['\n'] ++ summarise awk extracted.1, extracted.2⟩

end ProtoOs
