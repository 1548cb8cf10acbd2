import ProtoOs.Lib.OrderStatistics
import ProtoOs.Proof.Validation

namespace ProtoOs

open TextTools

variable {awk : Awk} {limit : ℕ} {vs : List UInt64} {sorted : List ℕ}

/-! ## Sorting -/

def sortedValues (vs : List UInt64) : List ℕ := (sortN (vs.map digitsOf)).map (Numerals.value 10)

theorem sortedValues_perm : (sortedValues vs).Perm (vs.map UInt64.toNat) := by
  have perm := (List.mergeSort_perm (vs.map digitsOf)
    fun a b => Numerals.value 10 a ≤ Numerals.value 10 b).map (Numerals.value 10)
  have values : (vs.map digitsOf).map (Numerals.value 10) = vs.map UInt64.toNat := by
    rw [List.map_map]
    apply List.map_congr_left
    intro v _
    exact Numerals.value_toDigits (by decide) (by decide) v.toNat
  rw [values] at perm
  exact perm

theorem sortedValues_sorted : OrderStatistics.Sorted (sortedValues vs) := by
  apply List.pairwise_map.mpr
  apply (List.pairwise_mergeSort _ _ (vs.map digitsOf)).imp
  · intro a b before
    exact of_decide_eq_true before
  · intro a b c first second
    exact decide_eq_true (Nat.le_trans (of_decide_eq_true first) (of_decide_eq_true second))
  · intro a b
    rw [Bool.or_eq_true, decide_eq_true_iff, decide_eq_true_iff]
    exact Nat.le_total _ _

/-! ## Arithmetic -/

/-- The arithmetic is exact on the halves of the whole numbers up to twice the limit, and `%d` prints
their whole parts. The limit is 2 ^ 31 - 1 where `%d` saturates there, and 2 ^ 52 where only the
arithmetic sets one. -/
structure Awk.ExactTo (awk : Awk) (limit : ℕ) : Prop where
  whole : ∀ n : ℕ, n ≤ 2 * limit → awk.round n = n
  half : ∀ n : ℕ, n ≤ 2 * limit → awk.round (n / 2) = n / 2
  printfD : ∀ n : ℕ, n ≤ 2 * limit → awk.printfD (n / 2) = Nat.toDigits 10 (n / 2)

theorem Awk.ExactTo.printfD_whole (exact_ : awk.ExactTo limit) {n : ℕ} (below : n ≤ limit) :
    awk.printfD n = Nat.toDigits 10 n := by
  have printed := exact_.printfD (2 * n) (by omega)
  have half : ((2 * n : ℕ) : ℚ) / 2 = n := by
    push_cast
    ring
  rwa [half, Nat.mul_div_cancel_left n (by decide)] at printed

/-! ## Statistics -/

def middle (sorted : List ℕ) : ℕ :=
  if sorted.length % 2 = 1 then sorted.getD (sorted.length / 2) 0
  else (sorted.getD (sorted.length / 2 - 1) 0 + sorted.getD (sorted.length / 2) 0) / 2

def statisticsText (sorted : List ℕ) : List Char :=
  if sorted = [] then "  (no samples)\n".toList
  else "  n=".toList ++ Nat.toDigits 10 sorted.length ++ " min=".toList ++
    Nat.toDigits 10 (sorted.getD 0 0) ++ " median=".toList ++ Nat.toDigits 10 (middle sorted) ++
    " max=".toList ++ Nat.toDigits 10 (sorted.getD (sorted.length - 1) 0) ++ ['\n']

theorem sortedValues_small (small : ∀ v ∈ vs, v.toNat ≤ limit) (i : ℕ) :
    (sortedValues vs).getD i 0 ≤ limit := by
  rcases Nat.lt_or_ge i (sortedValues vs).length with inside | outside
  · rw [List.getD_eq_getElem _ _ inside]
    have member := sortedValues_perm.mem_iff.mp (List.getElem_mem inside)
    obtain ⟨v, here, same⟩ := List.mem_map.mp member
    rw [← same]
    exact small v here
  · rw [List.getD_eq_default _ _ outside]
    exact Nat.zero_le _

theorem sortedValues_length : (sortedValues vs).length = vs.length := by
  rw [sortedValues_perm.length_eq, List.length_map]

theorem summarise_exact (exact_ : awk.ExactTo limit) (few : vs.length ≤ limit)
    (small : ∀ v ∈ vs, v.toNat ≤ limit) :
    summarise awk (vs.map digitsOf) = statisticsText (sortedValues vs) := by
  have bounded (i : ℕ) := sortedValues_small small i
  have read (i : ℕ) : awk.round (Numerals.value 10 ((sortN (vs.map digitsOf)).getD i [])) =
      ((sortedValues vs).getD i 0 : ℕ) := by
    have here : Numerals.value 10 ((sortN (vs.map digitsOf)).getD i []) =
        (sortedValues vs).getD i 0 := (List.getD_map _ _ (Numerals.value 10)).symm
    have below := bounded i
    rw [here]
    exact exact_.whole _ (by omega)
  have length : (sortedValues vs).length = vs.length := sortedValues_length
  generalize sortedValues vs = sorted at read length bounded ⊢
  simp only [summarise, List.length_map, ← length, read, statisticsText]
  by_cases empty : sorted = []
  · rw [if_pos (by simp [empty]), if_pos empty]
  · have some_ : sorted.length ≠ 0 := fun none => empty (List.length_eq_zero_iff.mp none)
    rw [if_neg some_, if_neg empty, exact_.printfD_whole (length ▸ few),
      exact_.printfD_whole (bounded _), exact_.printfD_whole (bounded _)]
    congr 6
    rw [middle]
    by_cases odd : sorted.length % 2 = 1
    · rw [if_pos odd, if_pos odd, exact_.printfD_whole (bounded _)]
      congr 2
      omega
    · rw [if_neg odd, if_neg odd]
      have sum : (sorted.getD (sorted.length / 2 - 1) 0 : ℚ) + sorted.getD (sorted.length / 2) 0 =
          ((sorted.getD (sorted.length / 2 - 1) 0 + sorted.getD (sorted.length / 2) 0 : ℕ) : ℚ) := by
        push_cast
        rfl
      have below := bounded (sorted.length / 2 - 1)
      have below' := bounded (sorted.length / 2)
      have total : sorted.getD (sorted.length / 2 - 1) 0 + sorted.getD (sorted.length / 2) 0 ≤
          2 * limit := by omega
      rw [Nat.add_sub_cancel, sum, exact_.whole _ total, exact_.half _ total, exact_.printfD _ total]

/-! ## Sessions -/

theorem read_log (log : List LogLine) (test : LogTest) (field : ResultField) :
    (((log.map fun line => line.body ++ ['\r']).filter
      (selects fun _ => literal ("BENCH test=" ++ test.name ++ " ").toList)).flatMap
        (only (labelled field.name.toList) true 0)).map (secondField '=') =
      (log.filterMap (·.value test field)).map digitsOf := by
  induction log with
  | nil => rfl
  | cons line log ih =>
      rw [List.map_cons]
      by_cases result : line.test? = some test
      · have selected := (line.selected_iff test).mpr result
        rw [List.filter_cons_of_pos selected, List.flatMap_cons, List.map_append, ih,
          line.read field result, List.filterMap_cons]
        cases line.value test field with
        | none => rfl
        | some v => rfl
      · have other : ¬selects (fun _ => literal ("BENCH test=" ++ test.name ++ " ").toList)
            (line.body ++ ['\r']) := fun selected => result ((line.selected_iff test).mp selected)
        rw [List.filter_cons_of_neg other, ih, List.filterMap_cons_none (line.value_other field result)]

/-- What a log records of a test in a field. -/
def recordedIn (test : LogTest) (field : ResultField) (log : List LogLine) : List UInt64 :=
  log.filterMap (·.value test field)

/-- What the logs before the first without a value record. -/
def recorded (test : LogTest) (field : ResultField) (logs : List (List LogLine)) : List UInt64 :=
  (logs.takeWhile fun log => recordedIn test field log ≠ []).flatMap (recordedIn test field)

theorem extractLogs_cons {text : List Char} {texts : List (List Char)} {log : List LogLine}
    {logs : List (List LogLine)} {test : LogTest} {field : ResultField}
    (first : extract text test.name field.name = (recordedIn test field log).map digitsOf)
    (rest : extractLogs test.name field.name texts = ((recorded test field logs).map digitsOf,
      if ∀ log ∈ logs, recordedIn test field log ≠ [] then 0 else 1)) :
    extractLogs test.name field.name (text :: texts) = ((recorded test field (log :: logs)).map digitsOf,
      if ∀ log' ∈ log :: logs, recordedIn test field log' ≠ [] then 0 else 1) := by
  simp only [extractLogs, first, List.map_eq_nil_iff, List.forall_mem_cons, recorded]
  by_cases none : recordedIn test field log = []
  · simp [none]
  · simp [none, rest, recorded]

theorem session_read (stack : ℕ → DigitBuffer) (logs : List (List LogLine)) (test : LogTest)
    (field : ResultField) : ∃ texts, logs.mapM (logText stack) = some texts ∧
      extractLogs test.name field.name texts = ((recorded test field logs).map digitsOf,
        if ∀ log ∈ logs, recordedIn test field log ≠ [] then 0 else 1) := by
  induction logs with
  | nil => exact ⟨[], rfl, by simp [extractLogs, recorded]⟩
  | cons log logs ih =>
      obtain ⟨texts, sent, rest⟩ := ih
      obtain ⟨text, first, split⟩ := log_lines stack log
      refine ⟨text :: texts, ?_, extractLogs_cons ?_ rest⟩
      · rw [List.mapM_cons, first, sent]
        rfl
      · rw [extract, split, read_log, recordedIn]

/-- For a session of logs with any lines, the report gives the number, the least, the middle and the
greatest of the values that the lines of a test record in a field, up to the first log without one. It
succeeds when there is no such log. -/
theorem report_exact (exact_ : awk.ExactTo limit) (stack : ℕ → DigitBuffer) (label : String)
    (logs : List (List LogLine)) (test : LogTest) (field : ResultField)
    (few : (recorded test field logs).length ≤ limit)
    (small : ∀ v ∈ recorded test field logs, v.toNat ≤ limit) :
    ∃ texts sorted, logs.mapM (logText stack) = some texts ∧
      sorted.Perm ((recorded test field logs).map UInt64.toNat) ∧ OrderStatistics.Sorted sorted ∧
      report awk label texts test.name field.name = ⟨label.toList ++ ['\n'] ++ statisticsText sorted,
        if ∀ log ∈ logs, recordedIn test field log ≠ [] then 0 else 1⟩ := by
  obtain ⟨texts, sent, read⟩ := session_read stack logs test field
  refine ⟨texts, _, sent, sortedValues_perm, sortedValues_sorted, ?_⟩
  rw [report, read, summarise_exact exact_ few small]

def sampleLog (cycles : UInt64) : List LogLine :=
  [.metaStart ⟨.micro, .recovery, false⟩ 1000 62500000, .recovery ⟨.micro, .recovery, false⟩ 1 0 cycles]

/-- An `awk` with a `%d` that saturates. -/
def saturatingAwk : Awk := ⟨id, fun q => Nat.toDigits 10 (min ⌊q⌋.toNat (2 ^ 31 - 1))⟩

theorem saturatingAwk_exact : saturatingAwk.ExactTo (2 ^ 31 - 1) := by
  refine ⟨fun _ _ => rfl, fun _ _ => rfl, fun n below => ?_⟩
  have floor : ⌊(n : ℚ) / 2⌋ = ((n / 2 : ℕ) : ℤ) := by
    exact_mod_cast Nat.floor_div_eq_div (K := ℚ) n 2
  have saturated : min (n / 2) (2 ^ 31 - 1) = n / 2 := by omega
  simp only [saturatingAwk, floor, Int.toNat_natCast, saturated]

/-- The third log has no line of the test, so that the fourth is not read. -/
theorem report_exact_cut : ∃ texts sorted,
    [sampleLog 900, sampleLog 700, [], sampleLog 800].mapM (logText fun _ => .replicate 21 '?') =
        some texts ∧
      sorted.Perm [900, 700] ∧ OrderStatistics.Sorted sorted ∧
      report saturatingAwk "runs" texts "recovery_window" "cycles" =
        ⟨"runs".toList ++ ['\n'] ++ statisticsText sorted, 1⟩ := by
  apply report_exact saturatingAwk_exact (fun _ => .replicate 21 '?') "runs"
    [sampleLog 900, sampleLog 700, [], sampleLog 800] .recoveryWindow .cycles
  · simp [recorded, recordedIn, sampleLog, LogLine.value]
  · simp [recorded, recordedIn, sampleLog, LogLine.value]

end ProtoOs
