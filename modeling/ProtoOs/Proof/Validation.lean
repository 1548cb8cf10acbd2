import ProtoOs.Kernel.Scripts
import ProtoOs.Proof.Extraction

namespace ProtoOs

open TextTools

/-! ## Records -/

def address (v : UInt64) : List Char := '0' :: 'x' :: Nat.toDigits 16 v.toNat

def metadata (phase : List Char) (pairs : List (List Char × List Char)) : Record where
  head := "BENCH_META".toList
  pairs := ("schema".toList, ['1']) :: ("phase".toList, phase) :: pairs
  tail := ['\r']

def LogLine.fields : LogLine → Record
  | .metaStart cfg iterations cntfrqHz => metadata "start".toList
      [("flavor".toList, cfg.flavor.str.toList), ("mode".toList, cfg.mode.str.toList),
        ("cntfrq_hz".toList, digitsOf cntfrqHz), ("iterations".toList, digitsOf iterations)]
  | .faultInjected flavor task tf => metadata "fault_injected".toList
      [("flavor".toList, flavor.str.toList), ("mode".toList, "RECOVERY".toList),
        ("task".toList, (taskName task).toList), ("esr".toList, address tf.esr),
        ("elr".toList, address tf.elr), ("far".toList, address tf.far)]
  | .metaEnd cfg iterations cntfrqHz => metadata "end".toList
      [("flavor".toList, cfg.flavor.str.toList), ("mode".toList, cfg.mode.str.toList),
        ("cntfrq_hz".toList, digitsOf cntfrqHz), ("iterations".toList, digitsOf iterations)]
  | line => line.record

theorem LogLine.fields_text (line : LogLine) : line.body ++ ['\r'] = line.fields.text := by
  cases line with
  | latency | recovery | metaEnd => rfl
  | metaStart | faultInjected =>
      apply congrArg (· ++ ['\r'])
      simp only [body, calls, ProtoOs.metaStart, faultReport, List.map, List.dropLast,
        List.flatMap_cons, LogCall.text, String.toList_append, List.append_assoc]
      rfl

/-! ## Parts -/

def LogLine.part : LogLine → LogPart
  | .latency _ test .. => .result (.latency test)
  | .recovery .. => .result .recoveryWindow
  | .metaStart .. => .start
  | .faultInjected .. => .faultInjected
  | .metaEnd .. => .stop

theorem LogLine.part_result (line : LogLine) (test : LogTest) :
    line.part = .result test ↔ line.test? = some test := by
  cases line with
  | latency | recovery => simp [part, LogLine.test?]
  | metaStart | faultInjected | metaEnd => simp [part, LogLine.test?]

theorem finds_metadata {word rest : List Char} (free : 'p' ∉ rest) :
    finds ["BENCH_META ".toList, 'p' :: ("hase=".toList ++ word)]
      ("BENCH_META ".toList ++ ("schema=1 ".toList ++ 'p' :: ("hase=".toList ++ rest))) ↔
        word <+: rest := by
  have once : 'p' ∉ "hase=".toList ++ rest := by
    simp [free]
  have before : 'p' ∉ "BENCH_META ".toList ++ "schema=1 ".toList := by decide
  rw [← List.prefix_append_right_inj "hase=".toList]
  constructor
  · intro found
    obtain ⟨first, after, same, later⟩ := finds_cons.mp found
    have whole := finds_suffix ⟨first ++ "BENCH_META ".toList, same.symm⟩ later
    rw [← List.append_assoc, finds_at before once] at whole
    exact whole.1
  · intro first
    refine finds_cons.mpr ⟨[], _, rfl, ?_⟩
    exact (finds_at (by decide) once).mpr ⟨first, rfl⟩

def LogLine.phase : LogLine → List Char
  | .metaStart .. => "start".toList
  | .faultInjected .. => "fault_injected".toList
  | .metaEnd .. => "end".toList
  | _ => []

theorem LogLine.metadata_text (line : LogLine) (other : line.test? = none) : ∃ rest, 'p' ∉ line.phase ++ rest ∧
    line.fields.text = "BENCH_META ".toList ++ ("schema=1 ".toList ++ 'p' :: ("hase=".toList ++
      (line.phase ++ rest))) := by
  have free (phase : List Char) (pairs : List (List Char × List Char)) (plain : 'p' ∉ phase)
      (others : ∀ entry ∈ pairs, 'p' ∉ entry.1 ∧ 'p' ∉ entry.2) : ∃ rest, 'p' ∉ phase ++ rest ∧
        (metadata phase pairs).text = "BENCH_META ".toList ++ ("schema=1 ".toList ++ 'p' ::
          ("hase=".toList ++ (phase ++ rest))) := by
    refine ⟨pairs.flatMap (fun entry => pair entry.1 entry.2) ++ ['\r'], ?_, ?_⟩
    · intro member
      rcases List.mem_append.mp member with word | later
      · exact plain word
      · rcases List.mem_append.mp later with inside | last
        · obtain ⟨entry, inside, here⟩ := List.mem_flatMap.mp inside
          simp [pair, others entry inside] at here
        · simp at last
    · rw [← List.append_assoc phase]
      rfl
  have digits (v : UInt64) : 'p' ∉ digitsOf v := digitsOf_plain v (by decide)
  have hexes (v : UInt64) : 'p' ∉ address v := by
    have plain : 'p' ∉ Nat.toDigits 16 v.toNat := digits_plain (by decide) (by decide) (by decide)
    simp [address, plain]
  have flavors (flavor : Flavor) : 'p' ∉ flavor.str.toList := by cases flavor <;> decide
  have modes (mode : BenchMode) : 'p' ∉ mode.str.toList := by cases mode <;> decide
  have names : ∀ task, 'p' ∉ (taskName task).toList := by decide
  cases line with
  | latency | recovery => cases other
  | metaStart cfg iterations cntfrqHz =>
      apply free "start".toList _ (by decide)
      simp [digits, flavors, modes]
  | metaEnd cfg iterations cntfrqHz =>
      apply free "end".toList _ (by decide)
      simp [digits, flavors, modes]
  | faultInjected flavor task tf =>
      apply free "fault_injected".toList _ (by decide)
      simp [hexes, flavors, names]

theorem LogLine.not_metadata (line : LogLine) {ps : List (List Char)} (result : line.test? ≠ none) :
    ¬finds ("BENCH_META ".toList :: ps) (line.body ++ ['\r']) := by
  obtain ⟨rest, body, inner⟩ := line.body_inner
  have once : 'B' ∉ rest ++ ['\r'] := by
    simp [inner.1]
  intro found
  rw [body] at found
  obtain ⟨⟨after, same⟩, _⟩ := (finds_at (w := []) (p := "ENCH_META ".toList) List.not_mem_nil once).mp found
  have opened : line.body ++ ['\r'] = "BENCH_META ".toList ++ after := by
    rw [body]
    exact congrArg ('B' :: ·) same.symm
  cases line with
  | latency | recovery =>
      have letters : some ' ' = some '_' := congrArg (·[5]?) opened
      exact absurd letters (by decide)
  | metaStart | faultInjected | metaEnd => exact result rfl

theorem not_prefix_of_ne {c d : Char} {s t : List Char} (other : c ≠ d) : ¬(c :: s) <+: d :: t :=
  fun first => other (List.cons_prefix_cons.mp first).1

theorem LogLine.phase_iff (line : LogLine) (other : line.test? = none) (rest : List Char) :
    ("start".toList <+: line.phase ++ rest ↔ line.part = .start) ∧
      ("end".toList <+: line.phase ++ rest ↔ line.part = .stop) ∧
        ("fault_injected".toList <+: line.phase ++ rest ↔ line.part = .faultInjected) := by
  have se : 's' ≠ 'e' := by decide
  have sf : 's' ≠ 'f' := by decide
  have ef : 'e' ≠ 'f' := by decide
  cases line with
  | latency | recovery => cases other
  | metaStart =>
      exact ⟨iff_of_true (List.prefix_append ..) rfl,
        iff_of_false (not_prefix_of_ne se.symm) (by simp [part]),
        iff_of_false (not_prefix_of_ne sf.symm) (by simp [part])⟩
  | faultInjected =>
      exact ⟨iff_of_false (not_prefix_of_ne sf) (by simp [part]),
        iff_of_false (not_prefix_of_ne ef) (by simp [part]),
        iff_of_true (List.prefix_append ..) rfl⟩
  | metaEnd =>
      exact ⟨iff_of_false (not_prefix_of_ne se) (by simp [part]),
        iff_of_true (List.prefix_append ..) rfl,
        iff_of_false (not_prefix_of_ne ef.symm) (by simp [part])⟩

theorem LogLine.finds_iff (line : LogLine) (part : LogPart) :
    finds part.pieces (line.body ++ ['\r']) ↔ line.part = part := by
  cases kind : line.test? with
  | some test =>
      have some_ : line.test? ≠ none := by simp [kind]
      cases part with
      | result test =>
          rw [line.part_result, ← line.selected_iff, selects_literal, LogPart.pieces, finds_singleton]
      | start | stop | faultInjected =>
          refine iff_of_false (line.not_metadata some_) fun same => ?_
          cases line <;> simp [LogLine.part, LogLine.test?] at same kind
  | none =>
      obtain ⟨rest, free, text⟩ := line.metadata_text kind
      obtain ⟨start, stop, fault⟩ := line.phase_iff kind rest
      rw [line.fields_text, text]
      cases part with
      | result test =>
          rw [line.part_result, ← line.selected_iff, selects_literal, LogPart.pieces, finds_singleton,
            line.fields_text, text]
      | start => exact (finds_metadata free).trans start
      | stop => exact (finds_metadata free).trans stop
      | faultInjected => exact (finds_metadata free).trans fault

/-! ## Failures -/

def LogLine.failures : LogLine → Option UInt64
  | .latency _ _ _ failures .. => some failures
  | .recovery _ _ failures _ => some failures
  | _ => none

theorem searchable_other {l v : List Char} (label : '=' ∉ l ∧ ¬"failures".toList <:+ l)
    (value : '=' ∉ v) : SearchablePair "failures".toList (l, v) :=
  ⟨label.1, value, fun suffix => absurd suffix label.2⟩

theorem searchable_cons {label : List Char} {entry : List Char × List Char}
    {pairs : List (List Char × List Char)} (first : SearchablePair label entry)
    (rest : ∀ entry ∈ pairs, SearchablePair label entry) :
    ∀ entry' ∈ entry :: pairs, SearchablePair label entry' :=
  List.forall_mem_cons.mpr ⟨first, rest⟩

theorem LogLine.searchable (line : LogLine) : line.fields.Searchable "failures".toList := by
  have digits (v : UInt64) : '=' ∉ digitsOf v := digitsOf_plain v (by decide)
  have hexes (v : UInt64) : '=' ∉ address v := by
    have plain : '=' ∉ Nat.toDigits 16 v.toNat := digits_plain (by decide) (by decide) (by decide)
    simp [address, plain]
  have flavors (flavor : Flavor) : '=' ∉ flavor.str.toList := by cases flavor <;> decide
  have modes (mode : BenchMode) : '=' ∉ mode.str.toList := by cases mode <;> decide
  have tests (test : BenchTest) : '=' ∉ test.name.toList := by cases test <;> decide
  have names : ∀ task, '=' ∉ (taskName task).toList := by decide
  have named : '=' ∉ "failures".toList := by decide
  have failure (v : UInt64) : SearchablePair "failures".toList ("failures".toList, digitsOf v) :=
    ⟨named, digits v, fun _ => ⟨rfl, digitsOf_digits v⟩⟩
  have none : ∀ entry ∈ [], SearchablePair "failures".toList entry :=
    fun _ member => absurd member List.not_mem_nil
  have head : '=' ∉ "BENCH".toList ∧ '=' ∉ "BENCH_META".toList := by decide
  have tail : '=' ∉ ['\r'] ∧ ∀ c ∈ ['\r'], c ∉ "0123456789".toList :=
    ⟨by decide, fun c member => List.mem_singleton.mp member ▸ by decide⟩
  have schema : '=' ∉ ['1'] := by decide
  cases line with
  | latency cfg test =>
      refine ⟨head.1, ?_, tail⟩
      exact searchable_cons (searchable_other (by decide) (tests _)) <|
        searchable_cons (searchable_other (by decide) (flavors _)) <|
        searchable_cons (searchable_other (by decide) (digits _)) <|
        searchable_cons (failure _) <|
        searchable_cons (searchable_other (by decide) (digits _)) <|
        searchable_cons (searchable_other (by decide) (digits _)) <|
        searchable_cons (searchable_other (by decide) (digits _)) <|
        searchable_cons (searchable_other (by decide) (digits _)) none
  | recovery cfg =>
      refine ⟨head.1, ?_, tail⟩
      exact searchable_cons (searchable_other (by decide) (by decide)) <|
        searchable_cons (searchable_other (by decide) (flavors _)) <|
        searchable_cons (searchable_other (by decide) (digits _)) <|
        searchable_cons (failure _) <|
        searchable_cons (searchable_other (by decide) (digits _)) none
  | metaStart cfg | metaEnd cfg =>
      refine ⟨head.2, ?_, tail⟩
      exact searchable_cons (searchable_other (by decide) schema) <|
        searchable_cons (searchable_other (by decide) (by decide)) <|
        searchable_cons (searchable_other (by decide) (flavors _)) <|
        searchable_cons (searchable_other (by decide) (modes _)) <|
        searchable_cons (searchable_other (by decide) (digits _)) <|
        searchable_cons (searchable_other (by decide) (digits _)) none
  | faultInjected flavor task tf =>
      refine ⟨head.2, ?_, tail⟩
      exact searchable_cons (searchable_other (by decide) schema) <|
        searchable_cons (searchable_other (by decide) (by decide)) <|
        searchable_cons (searchable_other (by decide) (flavors _)) <|
        searchable_cons (searchable_other (by decide) (by decide)) <|
        searchable_cons (searchable_other (by decide) (names _)) <|
        searchable_cons (searchable_other (by decide) (hexes _)) <|
        searchable_cons (searchable_other (by decide) (hexes _)) <|
        searchable_cons (searchable_other (by decide) (hexes _)) none

theorem LogLine.failures_pairs (line : LogLine) :
    line.fields.pairs.filter (·.1 = "failures".toList) =
      (line.failures.map fun v => ("failures".toList, digitsOf v)).toList := by
  cases line with
  | latency | recovery | metaStart | faultInjected | metaEnd => rfl

theorem zero_iff (v : UInt64) : digitsOf v = ['0'] ↔ v = 0 := by
  constructor
  · intro same
    have value := Numerals.value_toDigits (b := 10) (by decide) (by decide) v.toNat
    rw [← digitsOf, same] at value
    exact UInt64.toNat_inj.mp value.symm
  · rintro rfl
    rfl

def failureText (v : UInt64) : List Char := "failures=".toList ++ digitsOf v

theorem LogLine.warned (line : LogLine) :
    (only (numbered "failures".toList) true 0 (line.body ++ ['\r'])).filter
        (fun field => secondField '=' field ≠ ['0']) =
      (line.failures.toList.filter (· ≠ 0)).map failureText := by
  rw [line.fields_text, only_numbered_record (by decide) (by decide) (by decide) line.searchable,
    line.failures_pairs]
  cases line.failures with
  | none => rfl
  | some v =>
      have second : secondField '=' ("failures".toList ++ '=' :: digitsOf v) = digitsOf v :=
        secondField_numbered (by decide) (digitsOf_plain v (by decide))
      by_cases zero : v = 0
      · subst zero
        rfl
      · have shown : digitsOf v ≠ ['0'] := fun same => zero ((zero_iff v).mp same)
        have kept : decide (secondField '=' ("failures".toList ++ '=' :: digitsOf v) ≠ ['0']) = true := by
          rw [second, decide_eq_true shown]
        have kept' : decide (v ≠ 0) = true := decide_eq_true zero
        simp only [Option.map_some, Option.toList_some, List.map_cons, List.map_nil, List.filter_cons,
          kept, kept', if_true, List.filter_nil]
        rfl

/-! ## The verdict -/

def logKind (log : List LogLine) : BenchKind :=
  if .faultInjected ∈ log.map LogLine.part then .recovery else .latency

def missingParts (log : List LogLine) : List LogPart :=
  (logKind log).required.filter (· ∉ log.map LogLine.part)

def nonzeroFailures (log : List LogLine) : List UInt64 :=
  (log.filterMap LogLine.failures).filter (· ≠ 0)

theorem greps_iff (log : List LogLine) (part : LogPart) :
    (log.map fun line => line.body ++ ['\r']).any (finds part.pieces) ↔
      part ∈ log.map LogLine.part := by
  simp [LogLine.finds_iff]

theorem warned_log (log : List LogLine) :
    ((log.map fun line => line.body ++ ['\r']).flatMap
        (only (numbered "failures".toList) true 0)).filter (fun field => secondField '=' field ≠ ['0']) =
      (nonzeroFailures log).map failureText := by
  induction log with
  | nil => rfl
  | cons line log ih =>
      rw [List.map_cons, List.flatMap_cons, List.filter_append, ih, line.warned]
      cases failures : line.failures with
      | none => rw [nonzeroFailures, nonzeroFailures, List.filterMap_cons_none failures]; rfl
      | some v =>
          rw [nonzeroFailures, nonzeroFailures, List.filterMap_cons_some failures,
            ← List.map_append, ← List.singleton_append, List.filter_append]
          rfl

/-- On any sequence of lines, with any numbers in them, the script passes the logs that have all parts
of their kind, names the missing parts of the others, and warns of the counts of failures that are not
zero. -/
theorem validate_exact (stack : Nat → DigitBuffer) (name : List Char) (log : List LogLine) :
    ∃ text, logText stack log = some text ∧ validateBenchLog name text =
      verdict name (logKind log) (missingParts log) ((nonzeroFailures log).map failureText) := by
  obtain ⟨text, sent, split⟩ := log_lines stack log
  refine ⟨text, sent, ?_⟩
  have greps (part : LogPart) : (lines text).any (finds part.pieces) =
      decide (part ∈ log.map LogLine.part) := by
    rw [split, Bool.eq_iff_iff, greps_iff, decide_eq_true_iff]
  rw [validateBenchLog]
  simp only [greps]
  rw [split, warned_log]
  simp only [missingParts, logKind, decide_eq_true_iff, decide_not]

end ProtoOs
