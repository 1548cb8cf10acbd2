import ProtoOs.Kernel.Aggregate
import ProtoOs.Proof.Numbers

namespace ProtoOs

open TextTools

variable {stack : Nat → DigitBuffer} {x : Char} {n : Nat} {line : LogLine} {test : LogTest}
  {field : ResultField}

/-! ## Emission -/

def LogCall.text : LogCall → List Char
  | .inl (.str s) => s.toList
  | .inl (.u64 v) => Nat.toDigits 10 v.toNat
  | .inr (.puts s) => s.toList
  | .inr (.dec v) => Nat.toDigits 10 v.toNat
  | .inr (.hex v) => Nat.toDigits 16 v.toNat
  | .inr (.write bytes) => bytes.map fun byte => Char.ofNat byte.toNat

theorem LogCall.characters_text (buf : DigitBuffer) (call : LogCall) :
    call.characters buf = some call.text := by
  rcases call with (s | v) | (s | v | v | bytes)
  · rfl
  · exact benchEmitU64_digits buf v
  · rfl
  · exact printkU64_digits buf v
  · exact printkHexU64_digits v
  · rfl

theorem emitted_text (stack : Nat → DigitBuffer) (calls : List LogCall) :
    emitted stack calls = some (calls.flatMap LogCall.text) := by
  induction calls generalizing stack with
  | nil => rfl
  | cons call calls ih =>
      rw [emitted, call.characters_text, ih]
      rfl

theorem uart_plain {cs : List Char} (plain : '\n' ∉ cs) : cs.flatMap uartPutc = cs := by
  induction cs with
  | nil => rfl
  | cons c cs ih =>
      have other : c ≠ '\n' := fun same => plain (List.mem_cons.mpr (.inl same.symm))
      rw [List.flatMap_cons, uartPutc, if_neg other,
        ih fun member => plain (List.mem_cons_of_mem _ member)]
      rfl

/-! ## Lines -/

def digitsOf (v : UInt64) : List Char := Nat.toDigits 10 v.toNat

def LogLine.body (line : LogLine) : List Char := line.calls.dropLast.flatMap LogCall.text

theorem LogLine.calls_text (line : LogLine) :
    line.calls.flatMap LogCall.text = line.body ++ ['\n'] := by
  have ending : ∃ calls last, line.calls = calls ++ [last] ∧ LogCall.text last = ['\n'] := by
    cases line with
    | latency | recovery | metaEnd => exact ⟨_, .inl (.str "\n"), (List.dropLast_append_getLast (List.cons_ne_nil _ _)).symm, rfl⟩
    | metaStart | faultInjected => exact ⟨_, .inr (.puts "\n"), (List.dropLast_append_getLast (List.cons_ne_nil _ _)).symm, rfl⟩
  obtain ⟨calls, last, split, newline⟩ := ending
  rw [body, split, List.dropLast_concat, List.flatMap_append, List.flatMap_singleton, newline]

theorem digits_member {b : Nat} (two : 1 < b) (small : b ≤ 16) (member : x ∈ Nat.toDigits b n) :
    x ∈ hex := by
  obtain ⟨d, below, rfl⟩ := Numerals.toDigits_digits two n x member
  have all : ∀ d < 16, d.digitChar ∈ hex := by decide
  exact all d (by omega)

theorem digits_plain {b : Nat} (two : 1 < b) (small : b ≤ 16) (other : x ∉ hex) :
    x ∉ Nat.toDigits b n :=
  fun member => other (digits_member two small member)

/-- Neither the letter that opens a line nor the end of a line. -/
def Inner (cs : List Char) : Prop := 'B' ∉ cs ∧ '\n' ∉ cs

instance (cs : List Char) : Decidable (Inner cs) := inferInstanceAs (Decidable (_ ∧ _))

theorem inner_digits {b : Nat} (two : 1 < b) (small : b ≤ 16) (n : Nat) : Inner (Nat.toDigits b n) :=
  ⟨digits_plain two small (by decide), digits_plain two small (by decide)⟩

theorem inner_flavor (flavor : Flavor) : Inner flavor.str.toList := by
  cases flavor <;> decide

theorem inner_mode (mode : BenchMode) : Inner mode.str.toList := by
  cases mode <;> decide

theorem inner_test (test : BenchTest) : Inner test.name.toList := by
  cases test <;> decide

theorem inner_task (task : Slot) : Inner (taskName task).toList := by
  revert task
  decide

theorem inner_flatMap {calls : List LogCall} (each : ∀ call ∈ calls, Inner call.text) :
    Inner (calls.flatMap LogCall.text) := by
  constructor
  · intro member
    obtain ⟨call, inside, here⟩ := List.mem_flatMap.mp member
    exact (each call inside).1 here
  · intro member
    obtain ⟨call, inside, here⟩ := List.mem_flatMap.mp member
    exact (each call inside).2 here

theorem LogLine.body_inner (line : LogLine) : ∃ rest, line.body = 'B' :: rest ∧ Inner rest := by
  have opened {first : LogCall} {calls : List LogCall} {cs : List Char}
      (start : first.text = 'B' :: cs) (inner : Inner cs)
      (each : ∀ call ∈ calls, Inner call.text) :
      ∃ rest, (first :: calls).flatMap LogCall.text = 'B' :: rest ∧ Inner rest := by
    have later := inner_flatMap each
    refine ⟨cs ++ calls.flatMap LogCall.text, by rw [List.flatMap_cons, start]; rfl, ?_, ?_⟩
    · simp [inner.1, later.1]
    · simp [inner.2, later.2]
  have number (v : UInt64) := inner_digits (b := 10) (by decide) (by decide) v.toNat
  have address (v : UInt64) := inner_digits (b := 16) (by decide) (by decide) v.toNat
  have none : ∀ call ∈ ([] : List LogCall), Inner call.text := fun _ member => absurd member List.not_mem_nil
  cases line with
  | latency cfg test iter failures minCycles medianCycles maxCycles totalCycles =>
      simp only [body, calls, latencyResult, List.map, List.dropLast]
      have start : LogCall.text (.inl (.str "BENCH test=")) = 'B' :: "ENCH test=".toList := rfl
      apply opened start (by decide)
      simp only [List.forall_mem_cons]
      exact ⟨inner_test test, by decide, inner_flavor cfg.flavor, by decide, number iter, by decide,
        number failures, by decide, number minCycles, by decide, number medianCycles, by decide,
        number maxCycles, by decide, number totalCycles, none⟩
  | recovery cfg iter failures cycles =>
      simp only [body, calls, recoveryResult, List.map, List.dropLast]
      have start : LogCall.text (.inl (.str "BENCH test=recovery_window flavor=")) =
          'B' :: "ENCH test=recovery_window flavor=".toList := rfl
      apply opened start (by decide)
      simp only [List.forall_mem_cons]
      exact ⟨inner_flavor cfg.flavor, by decide, number iter, by decide, number failures, by decide,
        number cycles, none⟩
  | metaEnd cfg iterations cntfrqHz =>
      simp only [body, calls, ProtoOs.metaEnd, List.map, List.dropLast]
      have start : LogCall.text (.inl (.str "BENCH_META schema=1 phase=end flavor=")) =
          'B' :: "ENCH_META schema=1 phase=end flavor=".toList := rfl
      apply opened start (by decide)
      simp only [List.forall_mem_cons]
      exact ⟨inner_flavor cfg.flavor, by decide, inner_mode cfg.mode, by decide, number cntfrqHz,
        by decide, number iterations, none⟩
  | metaStart cfg iterations cntfrqHz =>
      simp only [body, calls, ProtoOs.metaStart, List.map, List.dropLast]
      have start : LogCall.text (.inr (.puts ("BENCH_META schema=1 phase=start flavor=" ++
          cfg.flavor.str ++ " mode=" ++ cfg.mode.str ++ " cntfrq_hz="))) =
          'B' :: ("ENCH_META schema=1 phase=start flavor=".toList ++ cfg.flavor.str.toList ++
            " mode=".toList ++ cfg.mode.str.toList ++ " cntfrq_hz=".toList) := by
        simp [LogCall.text]
      apply opened start
      · cases cfg.flavor <;> cases cfg.mode <;> decide
      · simp only [List.forall_mem_cons]
        exact ⟨number cntfrqHz, by decide, number iterations, none⟩
  | faultInjected flavor task tf =>
      simp only [body, calls, faultReport, Option.getD_some, List.map, List.dropLast]
      have start : LogCall.text (.inr (.puts ("BENCH_META schema=1 phase=fault_injected flavor=" ++
          flavor.str ++ " mode=" ++ BenchMode.recovery.str ++ " task="))) =
          'B' :: ("ENCH_META schema=1 phase=fault_injected flavor=".toList ++ flavor.str.toList ++
            " mode=RECOVERY task=".toList) := by
        simp [LogCall.text, BenchMode.str]
      apply opened start
      · cases flavor <;> decide
      · simp only [List.forall_mem_cons]
        exact ⟨inner_task task, by decide, address tf.esr, by decide, address tf.elr, by decide,
          address tf.far, none⟩

theorem log_lines (stack : Nat → DigitBuffer) (log : List LogLine) :
    ∃ text, logText stack log = some text ∧ lines text = log.map fun line => line.body ++ ['\r'] := by
  have sent (line : LogLine) : (line.calls.flatMap fun call => call.text.flatMap uartPutc) =
      line.body ++ ['\r'] ++ ['\n'] := by
    obtain ⟨rest, body, inner⟩ := line.body_inner
    have plain : '\n' ∉ line.body := by
      rw [body]
      simp [inner.2]
    rw [← List.flatMap_assoc, line.calls_text, List.flatMap_append, uart_plain plain,
      List.append_assoc]
    rfl
  refine ⟨(log.map fun line => line.body ++ ['\r']).flatMap fun line => line ++ ['\n'], ?_, ?_⟩
  · rw [logText, emitted_text, Option.map_some, List.flatMap_assoc, List.flatMap_assoc,
      List.flatMap_map]
    simp only [sent]
  · apply lines_flatMap
    intro text member
    obtain ⟨line, _, rfl⟩ := List.mem_map.mp member
    obtain ⟨rest, body, inner⟩ := line.body_inner
    rw [body]
    simp [inner.2]

/-! ## Selection -/

/-- The test whose results a line gives. -/
def LogLine.test? : LogLine → Option LogTest
  | .latency _ test .. => some (.latency test)
  | .recovery .. => some .recoveryWindow
  | _ => none

theorem pattern_text (test : LogTest) : ("BENCH test=" ++ test.name ++ " ").toList =
    "BENCH test=".toList ++ (test.name.toList ++ [' ']) := by
  simp

theorem LogLine.metadata_opens (other : line.test? = none) :
    ∃ rest, line.body = "BENCH_".toList ++ rest := by
  cases line with
  | latency | recovery => cases other
  | metaEnd => exact ⟨_, rfl⟩
  | metaStart cfg iterations cntfrqHz =>
      simp only [body, calls, ProtoOs.metaStart, List.map, List.dropLast, List.flatMap_cons,
        LogCall.text, String.toList_append, List.append_assoc]
      exact ⟨_, rfl⟩
  | faultInjected flavor task tf =>
      simp only [body, calls, faultReport, List.map, List.dropLast, List.flatMap_cons,
        LogCall.text, String.toList_append, List.append_assoc]
      exact ⟨_, rfl⟩

theorem LogLine.prefix_iff (line : LogLine) (test : LogTest) :
    ("BENCH test=" ++ test.name ++ " ").toList <+: line.body ++ ['\r'] ↔ line.test? = some test := by
  have metadata (other : line.test? = none) :
      ¬("BENCH test=" ++ test.name ++ " ").toList <+: line.body ++ ['\r'] := by
    rintro ⟨after, same⟩
    obtain ⟨rest, body⟩ := line.metadata_opens other
    rw [pattern_text, body] at same
    have letters := congrArg (·[5]?) same
    exact absurd letters (by simp)
  have result (test' : LogTest) (here : line.test? = some test') :
      ("BENCH test=".toList ++ (test.name.toList ++ [' '])).isPrefixOf (line.body ++ ['\r']) =
        decide (test' = test) := by
    cases line with
    | latency cfg written =>
        cases here
        rcases test with (test | _)
        · cases test <;> cases written <;> rfl
        · cases written <;> rfl
    | recovery =>
        cases here
        rcases test with (test | _)
        · cases test <;> rfl
        · rfl
    | metaStart | faultInjected | metaEnd => cases here
  cases kind : line.test? with
  | none => exact iff_of_false (metadata kind) (by simp)
  | some test' =>
      rw [← List.isPrefixOf_iff_prefix, pattern_text, result test' kind, decide_eq_true_iff,
        Option.some.injEq]

theorem LogLine.selected_iff (line : LogLine) (test : LogTest) :
    selects (fun _ => literal ("BENCH test=" ++ test.name ++ " ").toList) (line.body ++ ['\r']) ↔
      line.test? = some test := by
  rw [selects_literal, ← line.prefix_iff test]
  obtain ⟨rest, body, inner⟩ := line.body_inner
  have letter : 'B' ∈ ("BENCH test=" ++ test.name ++ " ").toList := by
    simp
  constructor
  · intro inside
    rw [body, List.cons_append] at inside ⊢
    rcases List.infix_cons_iff.mp inside with first | later
    · exact first
    · have here := later.subset letter
      simp [inner.1] at here
  · exact List.IsPrefix.isInfix

/-! ## Records -/

def LogLine.record : LogLine → Record
  | .latency cfg test iter failures minCycles medianCycles maxCycles totalCycles => {
      head := "BENCH".toList
      pairs := [("test".toList, test.name.toList), ("flavor".toList, cfg.flavor.str.toList),
        ("iter".toList, digitsOf iter), ("failures".toList, digitsOf failures),
        ("min_cycles".toList, digitsOf minCycles), ("median_cycles".toList, digitsOf medianCycles),
        ("max_cycles".toList, digitsOf maxCycles), ("total_cycles".toList, digitsOf totalCycles)]
      tail := ['\r'] }
  | .recovery cfg iter failures cycles => {
      head := "BENCH".toList
      pairs := [("test".toList, "recovery_window".toList), ("flavor".toList, cfg.flavor.str.toList),
        ("iter".toList, digitsOf iter), ("failures".toList, digitsOf failures),
        ("cycles".toList, digitsOf cycles)]
      tail := ['\r'] }
  | _ => ⟨[], [], []⟩

theorem LogLine.record_text (result : line.test? = some test) :
    line.body ++ ['\r'] = line.record.text := by
  cases line with
  | latency | recovery => rfl
  | metaStart | faultInjected | metaEnd => cases result

theorem digitsOf_digits (v : UInt64) : digitsOf v ≠ [] ∧ Digits (digitsOf v) := by
  refine ⟨Nat.toDigits_ne_nil, fun c member => ?_⟩
  obtain ⟨d, below, rfl⟩ := Numerals.toDigits_digits (by decide) v.toNat c member
  have all : ∀ d < 10, d.digitChar ∈ "0123456789".toList := by decide
  exact all d below

theorem digitsOf_plain (v : UInt64) (other : x ∉ hex) : x ∉ digitsOf v :=
  digits_plain (by decide) (by decide) other

theorem LogLine.record_wellFormed (line : LogLine) (field : ResultField)
    (result : line.test? = some test) : line.record.WellFormed field.name.toList := by
  have blank (v : UInt64) : ' ' ∉ digitsOf v := digitsOf_plain v (by decide)
  have flavor (flavor : Flavor) : ' ' ∉ flavor.str.toList := by cases flavor <;> decide
  have name (test : BenchTest) : ' ' ∉ test.name.toList := by cases test <;> decide
  have word (value : List Char) : "test".toList = field.name.toList → value ≠ [] ∧ Digits value := by
    intro same
    exact absurd same (by cases field <;> decide)
  have word' (value : List Char) :
      "flavor".toList = field.name.toList → value ≠ [] ∧ Digits value := by
    intro same
    exact absurd same (by cases field <;> decide)
  have none {P : List Char × List Char → Prop} : ∀ entry ∈ [], P entry :=
    fun _ member => absurd member List.not_mem_nil
  have opens : 'B' ∉ field.name.toList ++ ['='] := by cases field <;> decide
  cases line with
  | latency cfg test iter failures minCycles medianCycles maxCycles totalCycles =>
      constructor
      · exact ⟨'B', "ENCH".toList, rfl, by decide, opens, by decide⟩
      · simp only [record, List.forall_mem_cons]
        exact ⟨by decide, by decide, by decide, by decide, by decide, by decide, by decide,
          by decide, none⟩
      · simp only [record, List.forall_mem_cons]
        exact ⟨name test, flavor cfg.flavor, blank iter, blank failures, blank minCycles,
          blank medianCycles, blank maxCycles, blank totalCycles, none⟩
      · simp only [record, List.forall_mem_cons]
        exact ⟨word _, word' _, fun _ => digitsOf_digits iter, fun _ => digitsOf_digits failures,
          fun _ => digitsOf_digits minCycles, fun _ => digitsOf_digits medianCycles,
          fun _ => digitsOf_digits maxCycles, fun _ => digitsOf_digits totalCycles, none⟩
      · exact fun c member => List.mem_singleton.mp member ▸ by decide
  | recovery cfg iter failures cycles =>
      constructor
      · exact ⟨'B', "ENCH".toList, rfl, by decide, opens, by decide⟩
      · simp only [record, List.forall_mem_cons]
        exact ⟨by decide, by decide, by decide, by decide, by decide, none⟩
      · simp only [record, List.forall_mem_cons]
        exact ⟨by decide, flavor cfg.flavor, blank iter, blank failures, blank cycles, none⟩
      · simp only [record, List.forall_mem_cons]
        exact ⟨word _, word' _, fun _ => digitsOf_digits iter, fun _ => digitsOf_digits failures,
          fun _ => digitsOf_digits cycles, none⟩
      · exact fun c member => List.mem_singleton.mp member ▸ by decide
  | metaStart | faultInjected | metaEnd => cases result

theorem LogLine.field_pairs (line : LogLine) (field : ResultField)
    (result : line.test? = some test) :
    line.record.pairs.filter (·.1 = field.name.toList) =
      ((line.value test field).map fun v => (field.name.toList, digitsOf v)).toList := by
  cases line with
  | latency cfg written =>
      cases result
      simp only [value, if_true]
      cases field <;> rfl
  | recovery =>
      cases result
      cases field <;> rfl
  | metaStart | faultInjected | metaEnd => cases result

theorem LogLine.value_other (line : LogLine) (field : ResultField)
    (other : line.test? ≠ some test) : line.value test field = none := by
  cases line with
  | latency => exact if_neg fun same => other (congrArg some same.symm)
  | recovery => exact if_neg fun same => other (congrArg some same.symm)
  | metaStart | faultInjected | metaEnd => rfl

theorem LogLine.read (line : LogLine) (field : ResultField) (result : line.test? = some test) :
    (only (labelled field.name.toList) true 0 (line.body ++ ['\r'])).map (secondField '=') =
      ((line.value test field).map digitsOf).toList := by
  have plain : '=' ∉ field.name.toList := by cases field <;> decide
  rw [line.record_text result, only_record plain (line.record_wellFormed field result),
    line.field_pairs field result]
  cases line.value test field with
  | none => rfl
  | some v =>
      simp only [Option.map_some, Option.toList_some, List.map_cons, List.map_nil]
      rw [secondField_pair plain (digitsOf_plain v (by decide))]

/-- From any sequence of lines, with any numbers in them, the script extracts the decimals of a
field in the lines of a test, in their order. -/
theorem extract_recorded (stack : Nat → DigitBuffer) (log : List LogLine) :
    ∃ text, logText stack log = some text ∧ ∀ (test : LogTest) (field : ResultField),
      extract text test.name field.name =
        (log.filterMap (·.value test field)).map fun v => Nat.toDigits 10 v.toNat := by
  obtain ⟨text, sent, split⟩ := log_lines stack log
  refine ⟨text, sent, fun test field => ?_⟩
  rw [extract, split]
  clear sent split text
  induction log with
  | nil => rfl
  | cons line log ih =>
      rw [List.map_cons]
      by_cases result : line.test? = some test
      · rw [List.filter_cons_of_pos ((line.selected_iff test).mpr result), List.flatMap_cons,
          List.map_append, line.read field result, ih]
        cases value : line.value test field with
        | none => rw [List.filterMap_cons_none value]; rfl
        | some v => rw [List.filterMap_cons_some value]; rfl
      · rw [List.filter_cons_of_neg fun selected => result ((line.selected_iff test).mp selected), ih,
          List.filterMap_cons_none (line.value_other field result)]

end ProtoOs
