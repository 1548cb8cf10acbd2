import ProtoOs.Kernel.Bench
import ProtoOs.Lib.OrderStatistics

namespace ProtoOs

open OrderStatistics

variable {n : Nat} {samples samples' : Cells UInt64 n} {key count median : UInt64}
  {pre rest sorted : List UInt64}

/-! ## Sort -/

theorem shift_splits (key : UInt64) (pre : List UInt64) {hole : UInt64}
    (list : samples.toList = pre ++ hole :: rest) :
    ∃ lo hi hole' samples', pre = lo ++ hi ∧
      shift key pre.length samples = some (lo.length, samples') ∧
      samples'.toList = lo ++ hole' :: (hi ++ rest) ∧
      (∀ y ∈ hi, key ≤ y) ∧ ∀ y ∈ lo.getLast?, y ≤ key := by
  induction pre using List.reverseRecOn generalizing hole rest samples with
  | nil =>
      refine ⟨[], [], hole, samples, rfl, rfl, list, ?_, ?_⟩
      · exact fun y member => absurd member List.not_mem_nil
      · exact fun y member => absurd member (by simp)
  | append_singleton pre below ih =>
      have loaded : samples.load pre.length = some below := by
        rw [Cells.load_toList, list]
        simp
      have inside : pre.length + 1 < n := by
        have length := congrArg List.length list
        simp only [Vector.length_toList, List.length_append, List.length_cons, List.length_nil]
          at length
        omega
      rw [List.length_append, List.length_singleton, shift, loaded, Option.bind_eq_bind,
        Option.bind_some]
      by_cases larger : below > key
      · obtain ⟨samples₁, stored⟩ := Cells.store_inside samples below inside
        have moved : samples₁.toList = pre ++ below :: (below :: rest) := by
          rw [(Cells.store_toList stored).2, list]
          simp
        obtain ⟨lo, hi, hole', samples', rfl, shifted, list', above, last⟩ := ih moved
        refine ⟨lo, hi ++ [below], hole', samples', ?_, ?_, ?_, ?_, last⟩
        · exact List.append_assoc ..
        · rw [if_pos larger, stored]
          exact shifted
        · rw [list']
          simp
        · intro y member
          rcases List.mem_append.mp member with high | final
          · exact above y high
          · rw [List.mem_singleton.mp final]
            exact Std.le_of_lt larger
      · refine ⟨pre ++ [below], [], hole, samples, ?_, ?_, list, ?_, ?_⟩
        · exact (List.append_nil _).symm
        · rw [if_neg larger, List.length_append, List.length_singleton]
        · exact fun y member => absurd member List.not_mem_nil
        · intro y final
          rw [List.getLast?_concat, Option.mem_some_iff] at final
          exact final ▸ Std.not_lt.mp larger

theorem insertSample_sorts (list : samples.toList = pre ++ key :: rest) (sorted : Sorted pre) :
    ∃ pre' samples', insertSample samples pre.length = some samples' ∧
      samples'.toList = pre' ++ rest ∧ Sorted pre' ∧ pre'.Perm (pre ++ [key]) := by
  have loaded : samples.load pre.length = some key := by
    rw [Cells.load_toList, list]
    simp
  obtain ⟨lo, hi, hole, samples₁, rfl, shifted, list₁, above, last⟩ := shift_splits key pre list
  have inside : lo.length < n := by
    have length := congrArg List.length list₁
    simp only [Vector.length_toList, List.length_append, List.length_cons] at length
    omega
  obtain ⟨samples', stored⟩ := Cells.store_inside samples₁ key inside
  refine ⟨lo ++ key :: hi, samples', ?_, ?_, ?_, ?_⟩
  · rw [insertSample, loaded, Option.bind_eq_bind, Option.bind_some, shifted]
    exact stored
  · rw [(Cells.store_toList stored).2, list₁]
    simp
  · have lower := Sorted.below_of_last (List.pairwise_append.mp sorted).1 last
    exact Sorted.insert sorted lower above
  · rw [List.append_assoc]
    exact (List.perm_append_singleton key hi).symm.append_left lo

theorem insertSamples_sort (todo : List UInt64) (list : samples.toList = pre ++ todo ++ rest)
    (sorted : Sorted pre) :
    ∃ pre' samples',
      (List.range' pre.length todo.length).foldlM insertSample samples = some samples' ∧
      samples'.toList = pre' ++ rest ∧ Sorted pre' ∧ pre'.Perm (pre ++ todo) := by
  induction todo generalizing pre samples with
  | nil => exact ⟨pre, samples, rfl, by simpa using list, sorted, by simp⟩
  | cons key todo ih =>
      have next : samples.toList = pre ++ key :: (todo ++ rest) := by simpa using list
      obtain ⟨pre₁, samples₁, inserted, list₁, sorted₁, perm₁⟩ := insertSample_sorts next sorted
      obtain ⟨pre', samples', folded, list', sorted', perm'⟩ :=
        ih (by simpa using list₁) sorted₁
      refine ⟨pre', samples', ?_, list', sorted', ?_⟩
      · have length : pre₁.length = pre.length + 1 := by simpa using perm₁.length_eq
        rw [List.length_cons, List.range'_succ, List.foldlM_cons, inserted, ← length]
        exact folded
      · calc pre'.Perm (pre₁ ++ todo) := perm'
          _ |>.Perm (pre ++ [key] ++ todo) := perm₁.append_right todo
          _ = pre ++ key :: todo := by simp

structure SortedFirst (count : Nat) (samples samples' : Cells UInt64 n) : Prop where
  permuted : (samples'.toList.take count).Perm (samples.toList.take count)
  sorted : Sorted (samples'.toList.take count)
  untouched : samples'.toList.drop count = samples.toList.drop count

theorem benchSortU64_sorts (samples : Cells UInt64 n) (fits : count.toNat ≤ n) :
    ∃ samples', benchSortU64 samples count = some samples' ∧
      SortedFirst count.toNat samples samples' := by
  have length : (samples.toList.take count.toNat).length = count.toNat := by
    rw [List.length_take, Vector.length_toList, Nat.min_eq_left fits]
  have split := (List.take_append_drop count.toNat samples.toList).symm
  cases first : samples.toList.take count.toNat with
  | nil =>
      rw [first] at length
      refine ⟨samples, ?_, .refl _, ?_, rfl⟩
      · rw [benchSortU64, ← length]
        rfl
      · rw [first]
        exact .nil
  | cons first' todo =>
      rw [first] at length split
      have single : Sorted [first'] := List.pairwise_singleton ..
      obtain ⟨sorted, samples', folded, list, ordered, perm⟩ := insertSamples_sort todo split single
      have size : count.toNat = sorted.length := by rw [perm.length_eq, ← length]; rfl
      refine ⟨samples', ?_, ?_, ?_, ?_⟩
      · rw [benchSortU64, ← length]
        exact folded
      · rw [first, list, size, List.take_left]
        exact perm
      · rw [list, size, List.take_left]
        exact ordered
      · rw [list, size, List.drop_left, ← size]

/-! ## Median -/

/-- The middle of a sorted list, rounded down between its two middle elements. -/
structure Median (sorted : List UInt64) (median : UInt64) : Prop where
  none : sorted = [] → median = 0
  odd : sorted.length % 2 = 1 → sorted[sorted.length / 2]? = some median
  even : sorted ≠ [] → sorted.length % 2 = 0 → ∃ lower upper,
    sorted[sorted.length / 2 - 1]? = some lower ∧ sorted[sorted.length / 2]? = some upper ∧
    median.toNat = (lower.toNat + upper.toNat) / 2

theorem Median.of_odd {c : Nat} (length : sorted.length = c) (parity : c % 2 = 1)
    (middle : sorted[c / 2]? = some median) : Median sorted median := by
  subst length
  constructor
  · rintro rfl
    exact absurd parity (by decide)
  · exact fun _ => middle
  · exact fun _ other => absurd (parity.symm.trans other) (by decide)

theorem Median.of_even {lower upper : UInt64} {c : Nat} (length : sorted.length = c)
    (parity : c % 2 = 0) (below : sorted[c / 2 - 1]? = some lower)
    (middle : sorted[c / 2]? = some upper)
    (value : median.toNat = (lower.toNat + upper.toNat) / 2) : Median sorted median := by
  subst length
  constructor
  · rintro rfl
    exact absurd middle (by simp)
  · exact fun other => absurd (parity.symm.trans other) (by decide)
  · exact fun _ _ => ⟨lower, upper, below, middle, value⟩

theorem midpoint_toNat {lower upper : UInt64} (order : lower ≤ upper) :
    (lower + (upper - lower) / 2).toNat = (lower.toNat + upper.toNat) / 2 := by
  have bound := upper.toNat_lt
  have half : ((upper - lower) / 2).toNat = (upper.toNat - lower.toNat) / 2 := by
    rw [UInt64.toNat_div, UInt64.toNat_sub_of_le _ _ order]
    rfl
  rw [UInt64.le_iff_toNat_le] at order
  rw [UInt64.toNat_add, half, Nat.mod_eq_of_lt (by omega)]
  omega

theorem even_iff : count &&& 1 = 0 ↔ count.toNat % 2 = 0 := by
  rw [← UInt64.toNat_inj, UInt64.toNat_and]
  change count.toNat &&& 1 = 0 ↔ _
  rw [Nat.and_one_is_mod]

theorem SortedFirst.length (first : SortedFirst count.toNat samples samples')
    (fits : count.toNat ≤ n) : (samples'.toList.take count.toNat).length = count.toNat := by
  rw [first.permuted.length_eq, List.length_take, Vector.length_toList, Nat.min_eq_left fits]

theorem load_first (samples : Cells UInt64 n) {i : Nat} (fits : count.toNat ≤ n) (below : i < count.toNat) :
    ∃ x, samples.load i = some x ∧ (samples.toList.take count.toNat)[i]? = some x := by
  have inside : i < samples.toList.length := by
    rw [Vector.length_toList]
    omega
  refine ⟨samples.toList[i], ?_, ?_⟩
  · rw [Cells.load_toList]
    exact List.getElem?_eq_getElem inside
  · rw [List.getElem?_take_of_lt below]
    exact List.getElem?_eq_getElem inside

theorem benchMedianU64_median (samples : Cells UInt64 n) (fits : count.toNat ≤ n) :
    ∃ median samples', benchMedianU64 samples count = some (median, samples') ∧
      SortedFirst count.toNat samples samples' ∧
      Median (samples'.toList.take count.toNat) median := by
  by_cases zero : count = 0
  · refine ⟨0, samples, if_pos zero, ⟨.refl _, ?_, rfl⟩, fun _ => rfl, ?_, ?_⟩ <;> simp [zero]
  · obtain ⟨samples', sorted, first⟩ := benchSortU64_sorts samples fits
    have length := first.length fits
    have positive : 0 < count.toNat := UInt64.lt_iff_toNat_lt.mp (UInt64.pos_iff_ne_zero.mpr zero)
    have mid : (count / 2).toNat = count.toNat / 2 := UInt64.toNat_div count 2
    obtain ⟨upper, loaded, at_mid⟩ := load_first samples' fits
      (show count.toNat / 2 < count.toNat by omega)
    rw [← mid] at loaded
    by_cases even : count.toNat % 2 = 0
    · have one : (1 : UInt64) ≤ count / 2 := by
        rw [UInt64.le_iff_toNat_le, mid]
        change 1 ≤ _
        omega
      have below_mid : (count / 2 - 1).toNat = count.toNat / 2 - 1 := by
        rw [UInt64.toNat_sub_of_le _ _ one, mid]
        rfl
      obtain ⟨lower, loaded', at_below⟩ := load_first samples' fits
        (show count.toNat / 2 - 1 < count.toNat by omega)
      rw [← below_mid] at loaded'
      have order : lower ≤ upper := Sorted.le_of_le first.sorted at_below at_mid (Nat.sub_le ..)
      refine ⟨lower + (upper - lower) / 2, samples', ?_, first,
        .of_even length even at_below at_mid (midpoint_toNat order)⟩
      rw [benchMedianU64, if_neg zero, sorted, Option.bind_eq_bind, Option.bind_some,
        if_pos (even_iff.mpr even), loaded', Option.bind_eq_bind, Option.bind_some, loaded]
      rfl
    · have odd : count.toNat % 2 = 1 := Nat.mod_two_ne_zero.mp even
      refine ⟨upper, samples', ?_, first, .of_odd length odd at_mid⟩
      rw [benchMedianU64, if_neg zero, sorted, Option.bind_eq_bind, Option.bind_some,
        if_neg (fun bit => even (even_iff.mp bit)), loaded]
      rfl

/-! ## Collection -/

def elapsedCycles (payloadSize : UInt64) (attempts : List Attempt) : List UInt64 :=
  (attempts.filter fun attempt => attempt.retval = payloadSize).map Attempt.elapsed

structure Summary (xs : List UInt64) (least greatest total : UInt64) : Prop where
  none : xs = [] → least = 0 ∧ greatest = 0 ∧ total = 0
  least : xs ≠ [] → Least xs least
  greatest : xs ≠ [] → Greatest xs greatest
  total : total.toNat = (xs.map UInt64.toNat).sum % 2 ^ 64

structure Collected (payloadSize : UInt64) (done : List Attempt) (s : Statistics n) : Prop where
  failures : s.failures.toNat + (elapsedCycles payloadSize done).length = done.length
  count : s.successCount.toNat = (elapsedCycles payloadSize done).length
  samples : s.samples.toList.take s.successCount.toNat = elapsedCycles payloadSize done
  summary : Summary (elapsedCycles payloadSize done) s.minCycles s.maxCycles s.totalCycles

variable {xs : List UInt64} {least greatest total payloadSize x : UInt64} {done todo : List Attempt}
  {attempt : Attempt} {s : Statistics n}

theorem Summary.snoc (summary : Summary xs least greatest total) (x : UInt64) :
    Summary (xs ++ [x]) (if xs = [] ∨ x < least then x else least)
      (if x > greatest then x else greatest) (total + x) where
  none empty := absurd empty (by simp)
  least _ := by
    by_cases empty : xs = []
    · rw [if_pos (.inl empty)]
      exact .replace (by simp [empty]) (Std.le_refl x)
    · have earlier := summary.least empty
      split_ifs with lower
      · have lower : x ≤ least := Std.le_of_lt (lower.resolve_left empty)
        exact .replace (fun y member => Std.le_trans lower (earlier.before y member)) (Std.le_refl x)
      · exact earlier.keep (Std.not_lt.mp fun below => lower (.inr below))
  greatest _ := by
    by_cases empty : xs = []
    · have top : (if x > greatest then x else greatest) = x := by
        rw [(summary.none empty).2.1]
        split_ifs with positive
        · rfl
        · exact (UInt64.le_zero_iff.mp (Std.not_lt.mp positive)).symm
      rw [top]
      exact .replace (by simp [empty]) (Std.le_refl x)
    · have earlier := summary.greatest empty
      split_ifs with higher
      · have higher : greatest ≤ x := Std.le_of_lt higher
        exact .replace (fun y member => Std.le_trans (earlier.before y member) higher) (Std.le_refl x)
      · exact earlier.keep (Std.not_lt.mp higher)
  total := by
    rw [UInt64.toNat_add, summary.total]
    simp

theorem elapsedCycles_failed (failed : attempt.retval ≠ payloadSize) :
    elapsedCycles payloadSize (done ++ [attempt]) = elapsedCycles payloadSize done := by
  simp [elapsedCycles, failed]

theorem elapsedCycles_succeeded (succeeded : attempt.retval = payloadSize) :
    elapsedCycles payloadSize (done ++ [attempt]) =
      elapsedCycles payloadSize done ++ [attempt.elapsed] := by
  simp [elapsedCycles, succeeded]

theorem Statistics.collect_succeeded (succeeded : attempt.retval = payloadSize)
    (stored : s.samples.store s.successCount.toNat attempt.elapsed = some samples) :
    s.collect payloadSize attempt = some {
      samples
      successCount := s.successCount + 1
      totalCycles := s.totalCycles + attempt.elapsed
      minCycles := if s.successCount + 1 = 1 ∨ attempt.elapsed < s.minCycles then attempt.elapsed
        else s.minCycles
      maxCycles := if attempt.elapsed > s.maxCycles then attempt.elapsed else s.maxCycles
      failures := s.failures } := by
  rw [Statistics.collect, if_neg (not_not.mpr succeeded)]
  simp only [stored, Option.bind_eq_bind, Option.bind_some]

theorem counter_succ {c : UInt64} (below : c.toNat + 1 < 2 ^ 64) :
    (c + 1).toNat = c.toNat + 1 := by
  rw [UInt64.toNat_add]
  exact Nat.mod_eq_of_lt below

theorem Collected.step (collected : Collected payloadSize done s) (attempt : Attempt)
    (room : done.length < n) (fits : n < 2 ^ 64) :
    ∃ s', s.collect payloadSize attempt = some s' ∧
      Collected payloadSize (done ++ [attempt]) s' := by
  have failures := collected.failures
  have count := collected.count
  by_cases failed : attempt.retval ≠ payloadSize
  · refine ⟨_, if_pos failed, ?_⟩
    constructor
    · rw [elapsedCycles_failed failed, counter_succ (by omega), List.length_append,
        List.length_singleton]
      omega
    · rw [elapsedCycles_failed failed]
      exact count
    · rw [elapsedCycles_failed failed]
      exact collected.samples
    · rw [elapsedCycles_failed failed]
      exact collected.summary
  · have succeeded : attempt.retval = payloadSize := not_not.mp failed
    have inside : s.successCount.toNat < n := by omega
    obtain ⟨samples, stored⟩ := s.samples.store_inside attempt.elapsed inside
    have counted : (s.successCount + 1).toNat = s.successCount.toNat + 1 :=
      counter_succ (by omega)
    have first : s.successCount + 1 = 1 ↔ elapsedCycles payloadSize done = [] := by
      rw [← UInt64.toNat_inj, counted, count, ← List.length_eq_zero_iff]
      exact Nat.add_eq_right
    refine ⟨_, Statistics.collect_succeeded succeeded stored, ?_⟩
    constructor
    · rw [elapsedCycles_succeeded succeeded, List.length_append, List.length_append,
        List.length_singleton, List.length_singleton]
      change s.failures.toNat + _ = _
      omega
    · rw [elapsedCycles_succeeded succeeded, counted, count, List.length_append,
        List.length_singleton]
    · rw [elapsedCycles_succeeded succeeded, ← collected.samples, counted]
      exact Cells.take_store stored
    · rw [elapsedCycles_succeeded succeeded]
      simp only [first]
      exact collected.summary.snoc attempt.elapsed

theorem Collected.run (collected : Collected payloadSize done s) (todo : List Attempt)
    (room : done.length + todo.length ≤ n) (fits : n < 2 ^ 64) :
    ∃ s', todo.foldlM (Statistics.collect payloadSize) s = some s' ∧
      Collected payloadSize (done ++ todo) s' := by
  induction todo generalizing done s with
  | nil => exact ⟨s, rfl, by rwa [List.append_nil]⟩
  | cons attempt todo ih =>
      rw [List.length_cons] at room
      obtain ⟨s₁, step, collected₁⟩ := collected.step attempt (by omega) fits
      obtain ⟨s', run, collected'⟩ := ih collected₁ (by simp; omega)
      rw [List.append_assoc] at collected'
      refine ⟨s', ?_, collected'⟩
      rw [List.foldlM_cons, step]
      exact run

theorem BenchTest.collects (test : BenchTest) (samples : Cells UInt64 n) (attempts : Vector Attempt n)
    (fits : n < 2 ^ 64) :
    ∃ s, test.collectSamples samples attempts = some s ∧
      Collected test.payloadSize attempts.toList s := by
  have start : Collected test.payloadSize []
      { samples, minCycles := 0, maxCycles := 0, totalCycles := 0, failures := 0, successCount := 0 } :=
    ⟨rfl, rfl, rfl, fun _ => ⟨rfl, rfl, rfl⟩, fun more => absurd rfl more, fun more => absurd rfl more,
      rfl⟩
  obtain ⟨s, run, collected⟩ := start.run attempts.toList (by simp) fits
  refine ⟨s, ?_, collected⟩
  cases test <;> exact run

/-! ## The published numbers -/

theorem median_between (first : SortedFirst count.toNat samples samples')
    (middle : Median (samples'.toList.take count.toNat) median)
    (summary : Summary (samples.toList.take count.toNat) least greatest total) :
    least ≤ median ∧ median ≤ greatest := by
  by_cases empty : samples.toList.take count.toNat = []
  · have none := summary.none empty
    have sorted_empty := first.permuted
    rw [empty] at sorted_empty
    rw [middle.none sorted_empty.eq_nil, none.1, none.2.1]
    exact ⟨Std.le_refl 0, Std.le_refl 0⟩
  · have inside {i : Nat} {x : UInt64} (found : (samples'.toList.take count.toNat)[i]? = some x) :
        least ≤ x ∧ x ≤ greatest := by
      have member := first.permuted.mem_iff.mp (List.mem_of_getElem? found)
      exact ⟨(summary.least empty).before x member, (summary.greatest empty).before x member⟩
    rcases Nat.mod_two_eq_zero_or_one (samples'.toList.take count.toNat).length with even | odd
    · have nonempty : samples'.toList.take count.toNat ≠ [] := by
        intro sorted_empty
        rw [← List.length_eq_zero_iff, first.permuted.length_eq, List.length_eq_zero_iff]
          at sorted_empty
        exact empty sorted_empty
      obtain ⟨lower, upper, at_below, at_mid, value⟩ := middle.even nonempty even
      have below := inside at_below
      have above := inside at_mid
      simp only [UInt64.le_iff_toNat_le] at *
      omega
    · exact inside (middle.odd odd)

/-- What a benchmark test computes from its attempts. -/
structure Exact (payloadSize : UInt64) (attempts : List Attempt) (s : Statistics n)
    (median : UInt64) (sorted : Cells UInt64 n) : Prop where
  counted : s.failures.toNat + s.successCount.toNat = attempts.length
  samples : s.samples.toList.take s.successCount.toNat = elapsedCycles payloadSize attempts
  summary : Summary (elapsedCycles payloadSize attempts) s.minCycles s.maxCycles s.totalCycles
  sort : SortedFirst s.successCount.toNat s.samples sorted
  middle : Median (sorted.toList.take s.successCount.toNat) median
  between : s.minCycles ≤ median ∧ median ≤ s.maxCycles

/-- Whatever the counter reads and the calls return, the statistics are those of the successful
attempts, and no access leaves the array of samples. -/
theorem statistics_exact (test : BenchTest) (iterations : UInt64)
    (samples : Cells UInt64 iterations.toNat) (attempts : Vector Attempt iterations.toNat) :
    ∃ s median sorted, test.collectSamples samples attempts = some s ∧
      benchMedianU64 s.samples s.successCount = some (median, sorted) ∧
      Exact test.payloadSize attempts.toList s median sorted := by
  obtain ⟨s, collects, collected⟩ := test.collects samples attempts iterations.toNat_lt
  have counted : s.failures.toNat + s.successCount.toNat = attempts.toList.length := by
    rw [collected.count]
    exact collected.failures
  have inside : s.successCount.toNat ≤ iterations.toNat := by
    rw [Vector.length_toList] at counted
    omega
  obtain ⟨median, sorted, medians, sort, middle⟩ := benchMedianU64_median s.samples inside
  refine ⟨s, median, sorted, collects, medians, counted, collected.samples, collected.summary, sort,
    middle, ?_⟩
  apply median_between sort middle
  rw [collected.samples]
  exact collected.summary

end ProtoOs
