import ProtoOs.Proof.Reports
import ProtoOs.Proof.Uart

namespace ProtoOs

open Transition

variable {stack : Nat → DigitBuffer} {log : List LogLine} {cs : List Char} {c : Char}
  {s : UartState}

def UartState.received (s : UartState) : List Char :=
  s.device.wire.map fun byte => Char.ofNat byte.toNat

/-! ## Characters and bytes -/

def Ascii (cs : List Char) : Prop := ∀ c ∈ cs, c.toNat < 128

instance asciiDecidable (cs : List Char) : Decidable (Ascii cs) :=
  decidable_of_iff (cs.all fun c => c.toNat.blt 128) (by simp [Ascii])

theorem byte_char (ascii : c.toNat < 128) : Char.ofNat c.toUInt8.toNat = c := by
  have kept : c.toUInt8.toNat = c.toNat := by
    rw [← Char.toUInt8_val, UInt32.toNat_toUInt8]
    exact Nat.mod_eq_of_lt (Nat.lt_trans ascii (by decide))
  rw [kept, Char.ofNat_toNat]

theorem crlf_char (ascii : c.toNat < 128) :
    (crlf c.toUInt8).map (fun byte => Char.ofNat byte.toNat) = uartPutc c := by
  unfold crlf uartPutc
  by_cases newline : c = '\n'
  · subst newline
    rfl
  · have other : c.toUInt8 ≠ Uart.newline := by
      intro same
      have char := byte_char ascii
      rw [same] at char
      exact newline char.symm
    rw [if_neg newline, if_neg other, List.map_singleton, byte_char ascii]

theorem crlf_text (ascii : Ascii cs) :
    ((cs.map Char.toUInt8).flatMap crlf).map (fun byte => Char.ofNat byte.toNat) =
      cs.flatMap uartPutc := by
  induction cs with
  | nil => rfl
  | cons c cs ih =>
      obtain ⟨here, later⟩ := List.forall_mem_cons.mp ascii
      rw [List.map_cons, List.flatMap_cons, List.flatMap_cons, List.map_append, crlf_char here,
        ih later]

/-! ## The log is ASCII -/

theorem ascii_digits {b : Nat} (two : 1 < b) (small : b ≤ 16) (n : Nat) :
    Ascii (Nat.toDigits b n) := by
  have digits : Ascii hex := by decide
  exact fun c member => digits c (digits_member two small member)

theorem LogLine.ascii (line : LogLine) : ∀ call ∈ line.calls, Ascii call.text := by
  have number (v : UInt64) := ascii_digits (b := 10) (by decide) (by decide) v.toNat
  have address (v : UInt64) := ascii_digits (b := 16) (by decide) (by decide) v.toNat
  have flavor (flavor : Flavor) : Ascii flavor.str.toList := by cases flavor <;> decide
  have none : ∀ call ∈ ([] : List LogCall), Ascii call.text :=
    fun _ member => absurd member List.not_mem_nil
  cases line with
  | latency cfg test iter failures minCycles medianCycles maxCycles totalCycles =>
      have name : Ascii test.name.toList := by cases test <;> decide
      simp only [calls, latencyResult, List.map, List.forall_mem_cons]
      exact ⟨by decide, name, by decide, flavor cfg.flavor, by decide, number iter, by decide,
        number failures, by decide, number minCycles, by decide, number medianCycles, by decide,
        number maxCycles, by decide, number totalCycles, by decide, none⟩
  | recovery cfg iter failures cycles =>
      simp only [calls, recoveryResult, List.map, List.forall_mem_cons]
      exact ⟨by decide, flavor cfg.flavor, by decide, number iter, by decide, number failures,
        by decide, number cycles, by decide, none⟩
  | metaEnd cfg iterations cntfrqHz =>
      have mode : Ascii cfg.mode.str.toList := by cases cfg.mode <;> decide
      simp only [calls, ProtoOs.metaEnd, List.map, List.forall_mem_cons]
      exact ⟨by decide, flavor cfg.flavor, by decide, mode, by decide, number cntfrqHz, by decide,
        number iterations, by decide, none⟩
  | metaStart cfg iterations cntfrqHz =>
      simp only [calls, ProtoOs.metaStart, List.map, List.forall_mem_cons]
      refine ⟨?_, number cntfrqHz, by decide, number iterations, by decide, none⟩
      cases cfg.flavor <;> cases cfg.mode <;> decide
  | faultInjected flavor task tf =>
      have name : Ascii (taskName task).toList := by
        revert task
        decide
      simp only [calls, faultReport, Option.getD_some, List.map, List.forall_mem_cons]
      refine ⟨?_, name, by decide, address tf.esr, by decide, address tf.elr, by decide,
        address tf.far, by decide, none⟩
      cases flavor <;> decide

theorem emitted_ascii (emits : emitted stack (log.flatMap LogLine.calls) = some cs) : Ascii cs := by
  rw [emitted_text] at emits
  cases emits
  intro c member
  obtain ⟨call, inside, here⟩ := List.mem_flatMap.mp member
  obtain ⟨line, _, called⟩ := List.mem_flatMap.mp inside
  exact line.ascii call called c here

/-! ## Delivery -/

theorem run_finishes (bytes : List UInt8) : ∃ h s, (uartSystem bytes).Run h s ∧ s.code = [] ∧
    s.device.queue = [] := by
  let first : UartState := { powerOn with code := Uart.init ++ Uart.writeDirect bytes }
  have start : (uartSystem bytes).Run [] first := .start ⟨rfl, rfl, rfl, rfl, rfl⟩
  obtain ⟨h, s, path, _, done⟩ : ∃ h s, (uartSystem bytes).Path first h s ∧
      (uartSystem bytes).Reachable s ∧ s.code = [] ∧ s.device.queue = [] := by
    refine System.Path.arrives _ _ UartState.rank start.reachable ?_
    rintro s ⟨h, run⟩ unfinished
    obtain ⟨first, rest, _, sends⟩ := run_transmits run
    rcases sends.stage.goes with done | ⟨a, s', taken, changed⟩
    · exact absurd done unfinished
    · rcases step_rank taken with same | lower
      · exact absurd same changed
      · exact ⟨a, s', taken, (run.step taken).reachable, lower⟩
  exact ⟨_, s, start.extend path, done⟩

/-- Once the driver and the UART are done with a log, its text has arrived, and the script extracts
from it the values that the lines record. -/
theorem log_delivered {h : List (UartState × UartAction)}
    (emits : emitted stack (log.flatMap LogLine.calls) = some cs)
    (run : (uartSystem (cs.map Char.toUInt8)).Run h s) (ended : s.code = [])
    (idle : s.device.queue = []) : logText stack log = some s.received ∧
      ∀ (test : LogTest) (field : ResultField), extract s.received test.name field.name =
        (log.filterMap (·.value test field)).map digitsOf := by
  obtain ⟨first, rest, _, sends⟩ := run_transmits run
  have wire := sends.order
  rw [idle, (sends.stage.done ended).1, List.append_nil, List.append_nil] at wire
  have arrived : logText stack log = some s.received := by
    rw [logText, emits, UartState.received, wire, crlf_text (emitted_ascii emits)]
    rfl
  refine ⟨arrived, fun test field => ?_⟩
  obtain ⟨text, sent, split⟩ := log_lines stack log
  cases arrived.symm.trans sent
  rw [extract, split, read_log]

theorem log_delivered_sample : ∃ s : UartState, s.code = [] ∧
    extract s.received "recovery_window" "cycles" = ["900".toList] := by
  obtain ⟨text, sent, _⟩ := log_lines (fun _ => .replicate 21 '?') (sampleLog 900)
  obtain ⟨cs, emits, _⟩ := Option.map_eq_some_iff.mp sent
  obtain ⟨h, s, run, ended, idle⟩ := run_finishes (cs.map Char.toUInt8)
  have read := (log_delivered emits run ended idle).2 .recoveryWindow .cycles
  exact ⟨s, ended, read⟩

end ProtoOs
