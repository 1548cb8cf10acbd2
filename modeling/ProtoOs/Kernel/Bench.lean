import ProtoOs.Kernel.Printk
import ProtoOs.Kernel.State

/-!
# Benchmarks: `user_tasks.c`

What the benchmark task computes from its counter readings, and the lines that it emits.
-/

namespace ProtoOs

def benchIterations : UInt64 := 1000
def benchWritePayloadSize : UInt64 := 1
def benchIpcPayloadSize : UInt64 := 1

inductive BenchTest
  | sysWrite
  | ipcRoundtrip
  deriving DecidableEq, Repr

def BenchTest.payloadSize : BenchTest → UInt64
  | .sysWrite => benchWritePayloadSize
  | .ipcRoundtrip => benchIpcPayloadSize

/-! ## Numbers -/

def benchEmitU64 (buf : DigitBuffer) (value : UInt64) : Option (List Char) := do
  let (i, buf) ←
    if value = 0 then do
      let buf ← buf.store 0 '0'
      some (1, buf)
    else
      DigitBuffer.fill 21 value 0 buf
  DigitBuffer.drain buf i

/-! ## Samples -/

/-- What one iteration reads: the counter before and after the call, and what the call returned. -/
structure Attempt where
  start : UInt64
  retval : UInt64
  stop : UInt64

def Attempt.elapsed (attempt : Attempt) : UInt64 := attempt.stop - attempt.start

structure Statistics (n : Nat) where
  samples : Cells UInt64 n
  minCycles : UInt64
  maxCycles : UInt64
  totalCycles : UInt64
  failures : UInt64
  successCount : UInt64

/-- One iteration of a collection loop. -/
def Statistics.collect {n : Nat} (payloadSize : UInt64) (s : Statistics n) (attempt : Attempt) :
    Option (Statistics n) :=
  if attempt.retval ≠ payloadSize then
    some { s with failures := s.failures + 1 }
  else do
    let elapsed := attempt.elapsed
    let samples ← s.samples.store s.successCount.toNat elapsed
    let successCount := s.successCount + 1
    some {
      samples
      successCount
      totalCycles := s.totalCycles + elapsed
      minCycles := if successCount = 1 ∨ elapsed < s.minCycles then elapsed else s.minCycles
      maxCycles := if elapsed > s.maxCycles then elapsed else s.maxCycles
      failures := s.failures }

def collectSamples {n : Nat} (payloadSize : UInt64) (samples : Cells UInt64 n)
    (attempts : Vector Attempt n) : Option (Statistics n) :=
  attempts.toList.foldlM (Statistics.collect payloadSize)
    { samples, minCycles := 0, maxCycles := 0, totalCycles := 0, failures := 0, successCount := 0 }

def benchCollectWriteSamples {n : Nat} (samples : Cells UInt64 n) (attempts : Vector Attempt n) :
    Option (Statistics n) :=
  collectSamples benchWritePayloadSize samples attempts

def benchCollectIpcSamples {n : Nat} (samples : Cells UInt64 n) (attempts : Vector Attempt n) :
    Option (Statistics n) :=
  collectSamples benchIpcPayloadSize samples attempts

def BenchTest.collectSamples {n : Nat} :
    BenchTest → Cells UInt64 n → Vector Attempt n → Option (Statistics n)
  | .sysWrite => benchCollectWriteSamples
  | .ipcRoundtrip => benchCollectIpcSamples

/-! ## Median -/

/-- The loop `while (j > 0 && samples[j - 1] > key)`. -/
def shift {n : Nat} (key : UInt64) : Nat → Cells UInt64 n → Option (Nat × Cells UInt64 n)
  | 0, samples => some (0, samples)
  | j + 1, samples => do
      let below ← samples.load j
      if below > key then do
        let samples ← samples.store (j + 1) below
        shift key j samples
      else
        some (j + 1, samples)

/-- One iteration of the loop of `bench_sort_u64`. -/
def insertSample {n : Nat} (samples : Cells UInt64 n) (i : Nat) : Option (Cells UInt64 n) := do
  let key ← samples.load i
  let (j, samples) ← shift key i samples
  samples.store j key

def benchSortU64 {n : Nat} (samples : Cells UInt64 n) (count : UInt64) : Option (Cells UInt64 n) :=
  (List.range' 1 (count.toNat - 1)).foldlM insertSample samples

/-- The median, and the samples that it leaves. -/
def benchMedianU64 {n : Nat} (samples : Cells UInt64 n) (count : UInt64) :
    Option (UInt64 × Cells UInt64 n) :=
  if count = 0 then
    some (0, samples)
  else do
    let samples ← benchSortU64 samples count
    let mid := count / 2
    if count &&& 1 = 0 then do
      let lower ← samples.load (mid - 1).toNat
      let upper ← samples.load mid.toNat
      some (lower + (upper - lower) / 2, samples)
    else do
      let median ← samples.load mid.toNat
      some (median, samples)

example : benchMedianU64 #v[9, 4, 7, 1] 4 = some (5, #v[1, 4, 7, 9]) := by decide

/-! ## Lines -/

/-- A call of `bench_emit_str` or of `bench_emit_u64`. -/
inductive BenchEmit
  | str (s : String)
  | u64 (value : UInt64)

def BenchEmit.characters (buf : DigitBuffer) : BenchEmit → Option (List Char)
  | .str s => some s.toList
  | .u64 value => benchEmitU64 buf value

def BenchTest.name : BenchTest → String
  | .sysWrite => "sys_write"
  | .ipcRoundtrip => "ipc_roundtrip"

def metaEnd (cfg : Config) (iterations cntfrqHz : UInt64) : List BenchEmit :=
  [.str "BENCH_META schema=1 phase=end flavor=", .str cfg.flavor.str, .str " mode=",
    .str cfg.mode.str, .str " cntfrq_hz=", .u64 cntfrqHz, .str " iterations=", .u64 iterations,
    .str "\n"]

def benchEmitMetaEnd (cfg : Config) (cntfrqHz : UInt64) : List BenchEmit :=
  metaEnd cfg benchIterations cntfrqHz

def latencyResult (cfg : Config) (iterations : UInt64) (testName : String)
    (failures minCycles medianCycles maxCycles totalCycles : UInt64) : List BenchEmit :=
  [.str "BENCH test=", .str testName, .str " flavor=", .str cfg.flavor.str, .str " iter=",
    .u64 iterations, .str " failures=", .u64 failures, .str " min_cycles=", .u64 minCycles,
    .str " median_cycles=", .u64 medianCycles, .str " max_cycles=", .u64 maxCycles,
    .str " total_cycles=", .u64 totalCycles, .str "\n"]

def benchEmitLatencyResult (cfg : Config) (testName : String)
    (failures minCycles medianCycles maxCycles totalCycles : UInt64) : List BenchEmit :=
  latencyResult cfg benchIterations testName failures minCycles medianCycles maxCycles totalCycles

def recoveryResult (cfg : Config) (iterations failures cycles : UInt64) : List BenchEmit :=
  [.str "BENCH test=recovery_window flavor=", .str cfg.flavor.str, .str " iter=", .u64 iterations,
    .str " failures=", .u64 failures, .str " cycles=", .u64 cycles, .str "\n"]

def benchEmitRecoveryResult (cfg : Config) (failures cycles : UInt64) : List BenchEmit :=
  recoveryResult cfg 1 failures cycles

/-- The line that `kernel_main` prints when it starts a benchmark. -/
def metaStart (cfg : Config) (iterations cntfrqHz : UInt64) : List UartCall :=
  [.puts ("BENCH_META schema=1 phase=start flavor=" ++ cfg.flavor.str ++ " mode=" ++ cfg.mode.str ++
    " cntfrq_hz="), .dec cntfrqHz, .puts " iterations=", .dec iterations, .puts "\n"]

end ProtoOs
