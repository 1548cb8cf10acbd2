import Mathlib

/-!
# Text tools

`grep`, `grep -o` and the fields of `awk` on a text of complete lines, and what they find in a
record: a word and then pairs ` label=value`.
-/

namespace TextTools

/-! ## Lines -/

/-- The lines of a text, each of them ended by a newline. -/
def lines (text : List Char) : List (List Char) := (text.splitOn '\n').dropLast

/-- The second field of a line, as `awk` prints it. -/
def secondField (separator : Char) (line : List Char) : List Char :=
  (line.splitOn separator)[1]?.getD []

theorem lines_cons {line text : List Char} (complete : '\n' ∉ line) :
    lines (line ++ '\n' :: text) = line :: lines text := by
  rw [lines, List.splitOn_append_cons_self_of_not_mem complete,
    List.dropLast_cons_of_ne_nil (List.splitOn_ne_nil _ _)]
  rfl

theorem lines_flatMap (ls : List (List Char)) (complete : ∀ line ∈ ls, '\n' ∉ line) :
    lines (ls.flatMap fun line => line ++ ['\n']) = ls := by
  induction ls with
  | nil => rfl
  | cons line ls ih =>
      rw [List.flatMap_cons, List.append_assoc, List.singleton_append,
        lines_cons (complete line List.mem_cons_self),
        ih fun line member => complete line (List.mem_cons_of_mem _ member)]

/-! ## Patterns -/

abbrev Pattern := Bool → RegularExpression Char

def lineStart : Pattern := fun start => if start then 1 else 0

def literal (cs : List Char) : RegularExpression Char := (cs.map .char).prod

def oneOf (cs : List Char) : RegularExpression Char := (cs.map .char).sum

def digit : RegularExpression Char := oneOf "0123456789".toList

def selects (p : Pattern) (line : List Char) : Bool :=
  line.tails.any fun rest => rest.inits.any (p (rest.length = line.length)).rmatch

/-- The length of the longest match at the head. -/
def longest (r : RegularExpression Char) (s : List Char) : Nat :=
  Nat.findGreatest (fun n => r.rmatch (s.take n)) s.length

/-- What `grep -o` prints for a line: from left to right the longest match at each place, where
`skip` characters belong to the last match. -/
def only (p : Pattern) : Bool → Nat → List Char → List (List Char)
  | _, _, [] => []
  | _, skip + 1, _ :: s => only p false skip s
  | start, 0, c :: s =>
      match longest (p start) (c :: s) with
      | 0 => only p false 0 s
      | n + 1 => (c :: s).take (n + 1) :: only p false n s

/-- The pattern `(^| )label=[0-9]+`. -/
def labelled (label : List Char) : Pattern := fun start =>
  (lineStart start + .char ' ') * literal (label ++ ['=']) * (digit * digit.star)

variable {r : RegularExpression Char} {p : Pattern} {c : Char} {cs s ds label : List Char}
  {start : Bool}

theorem literal_rmatch : (literal cs).rmatch s ↔ s = cs := by
  induction cs generalizing s with
  | nil => exact RegularExpression.one_rmatch_iff s
  | cons c cs ih =>
      change (RegularExpression.char c * literal cs).rmatch s ↔ _
      rw [RegularExpression.mul_rmatch_iff]
      simp only [RegularExpression.char_rmatch_iff, ih]
      constructor
      · rintro ⟨t, u, rfl, rfl, rfl⟩
        rfl
      · rintro rfl
        exact ⟨[c], cs, rfl, rfl, rfl⟩

theorem oneOf_rmatch : (oneOf cs).rmatch s ↔ ∃ c ∈ cs, s = [c] := by
  induction cs with
  | nil =>
      change (0 : RegularExpression Char).rmatch s ↔ _
      simp
  | cons c cs ih =>
      change (RegularExpression.char c + oneOf cs).rmatch s ↔ _
      rw [RegularExpression.add_rmatch_iff, ih, RegularExpression.char_rmatch_iff]
      simp

theorem selects_literal (cs line : List Char) : selects (fun _ => literal cs) line ↔ cs <:+: line := by
  simp only [selects, List.any_eq_true, List.mem_tails, List.mem_inits, literal_rmatch]
  constructor
  · rintro ⟨rest, tail, part, init, rfl⟩
    exact init.isInfix.trans tail.isInfix
  · rintro ⟨before, after, rfl⟩
    refine ⟨cs ++ after, ?_, cs, List.prefix_append .., rfl⟩
    rw [List.append_assoc]
    exact List.suffix_append ..

/-! ## Labelled numbers -/

def Digits (ds : List Char) : Prop := ∀ c ∈ ds, c ∈ "0123456789".toList

theorem star_digit_rmatch : (digit.star).rmatch s ↔ Digits s := by
  rw [RegularExpression.star_rmatch_iff]
  constructor
  · rintro ⟨parts, rfl, single⟩ c member
    obtain ⟨part, inside, here⟩ := List.mem_flatten.mp member
    obtain ⟨d, isDigit, rfl⟩ := oneOf_rmatch.mp (single part inside).2
    rw [List.mem_singleton.mp here]
    exact isDigit
  · intro digits
    refine ⟨s.map ([·]), ?_, ?_⟩
    · rw [← List.flatMap_def, List.flatMap_singleton']
    · intro part member
      obtain ⟨d, inside, rfl⟩ := List.mem_map.mp member
      exact ⟨List.cons_ne_nil _ _, oneOf_rmatch.mpr ⟨d, digits d inside, rfl⟩⟩

theorem number_rmatch : (digit * digit.star).rmatch s ↔ s ≠ [] ∧ Digits s := by
  rw [RegularExpression.mul_rmatch_iff]
  simp only [star_digit_rmatch]
  constructor
  · rintro ⟨t, u, rfl, first, rest⟩
    obtain ⟨d, isDigit, rfl⟩ := oneOf_rmatch.mp first
    refine ⟨List.cons_ne_nil _ _, ?_⟩
    intro c member
    rcases List.mem_cons.mp member with rfl | later
    · exact isDigit
    · exact rest c later
  · rintro ⟨nonempty, digits⟩
    obtain ⟨d, rest, rfl⟩ := List.exists_cons_of_ne_nil nonempty
    refine ⟨[d], rest, rfl, oneOf_rmatch.mpr ⟨d, digits d List.mem_cons_self, rfl⟩, ?_⟩
    exact fun c member => digits c (List.mem_cons_of_mem _ member)

theorem labelled_rmatch : (labelled label start).rmatch s ↔
    ∃ ds, ds ≠ [] ∧ Digits ds ∧
      (s = ' ' :: (label ++ '=' :: ds) ∨ start = true ∧ s = label ++ '=' :: ds) := by
  have blank (t : List Char) : (lineStart start + RegularExpression.char ' ').rmatch t ↔
      t = [' '] ∨ start = true ∧ t = [] := by
    rw [RegularExpression.add_rmatch_iff, RegularExpression.char_rmatch_iff]
    cases start <;> simp [lineStart, or_comm]
  rw [labelled, RegularExpression.mul_rmatch_iff]
  simp only [number_rmatch]
  constructor
  · rintro ⟨t, ds, rfl, head, nonempty, digits⟩
    obtain ⟨first, name, rfl, here, named⟩ := (RegularExpression.mul_rmatch_iff _ _ _).mp head
    rw [literal_rmatch.mp named]
    refine ⟨ds, nonempty, digits, ?_⟩
    rcases (blank first).mp here with rfl | ⟨starts, rfl⟩
    · left
      simp
    · right
      exact ⟨starts, by simp⟩
  · rintro ⟨ds, nonempty, digits, rfl | ⟨starts, rfl⟩⟩
    · refine ⟨' ' :: (label ++ ['=']), ds, by simp, ?_, nonempty, digits⟩
      exact (RegularExpression.mul_rmatch_iff _ _ _).mpr
        ⟨[' '], label ++ ['='], rfl, (blank _).mpr (.inl rfl), literal_rmatch.mpr rfl⟩
    · refine ⟨label ++ ['='], ds, by simp, ?_, nonempty, digits⟩
      exact (RegularExpression.mul_rmatch_iff _ _ _).mpr
        ⟨[], label ++ ['='], rfl, (blank _).mpr (.inr ⟨starts, rfl⟩), literal_rmatch.mpr rfl⟩

/-! ## Matches -/

theorem longest_eq_zero (none : ∀ n, 0 < n → ¬r.rmatch (s.take n)) : longest r s = 0 :=
  Nat.findGreatest_eq_zero_iff.mpr fun n positive _ => none n positive

theorem longest_eq {m : List Char} (found : r.rmatch m) (top : ∀ n, r.rmatch ((m ++ s).take n) →
    n ≤ (m ++ s).length → n ≤ m.length) : longest r (m ++ s) = m.length := by
  rw [longest, Nat.findGreatest_eq_iff]
  refine ⟨by simp, ?_, ?_⟩
  · intro _
    rw [List.take_left]
    exact found
  · intro n longer inside matched
    exact absurd (top n matched inside) (Nat.not_le.mpr longer)

theorem only_skip (m : List Char) : only p false m.length (m ++ s) = only p false 0 s := by
  induction m with
  | nil => rfl
  | cons c m ih => exact ih

theorem only_unmatched (none : longest (p start) (c :: s) = 0) :
    only p start 0 (c :: s) = only p false 0 s := by
  rw [only, none]

theorem only_matched {m : List Char} (nonempty : m ≠ [])
    (found : longest (p start) (m ++ s) = m.length) :
    only p start 0 (m ++ s) = m :: only p false 0 s := by
  obtain ⟨c, m, rfl⟩ := List.exists_cons_of_ne_nil nonempty
  rw [List.cons_append] at found ⊢
  rw [only, found]
  simp [only_skip]

/-! ## Records -/

/-- The text ` label=value`. -/
def pair (label value : List Char) : List Char := ' ' :: (label ++ '=' :: value)

structure Record where
  head : List Char
  pairs : List (List Char × List Char)
  tail : List Char

def Record.text (record : Record) : List Char :=
  record.head ++ record.pairs.flatMap (fun entry => pair entry.1 entry.2) ++ record.tail

/-- No value ends the text of another, and a label that is looked for labels numbers. -/
structure Record.WellFormed (record : Record) (label : List Char) : Prop where
  head : ∃ c rest, record.head = c :: rest ∧ c ≠ ' ' ∧ c ∉ label ++ ['='] ∧ ' ' ∉ rest
  labels : ∀ entry ∈ record.pairs, '=' ∉ entry.1 ∧ ' ' ∉ entry.1
  values : ∀ entry ∈ record.pairs, ' ' ∉ entry.2
  numbers : ∀ entry ∈ record.pairs, entry.1 = label → entry.2 ≠ [] ∧ Digits entry.2
  tail : ∀ c ∈ record.tail, c ≠ ' ' ∧ c ∉ "0123456789".toList

theorem take_head {n : Nat} (positive : 0 < n) : ∃ t, (c :: s).take n = c :: t := by
  obtain ⟨n, rfl⟩ := Nat.exists_eq_succ_of_ne_zero (Nat.ne_of_gt positive)
  exact ⟨s.take n, rfl⟩

theorem only_plain (w : List Char) (plain : ' ' ∉ w) :
    only (labelled label) false 0 (w ++ s) = only (labelled label) false 0 s := by
  induction w with
  | nil => rfl
  | cons c w ih =>
      have unmatched : longest (labelled label false) (c :: (w ++ s)) = 0 := by
        apply longest_eq_zero
        intro n positive matched
        obtain ⟨t, here⟩ := take_head (c := c) (s := w ++ s) positive
        obtain ⟨ds, _, _, blank | start⟩ := labelled_rmatch.mp matched
        · rw [here] at blank
          exact plain (List.mem_cons.mpr (.inl (List.cons.inj blank).1.symm))
        · exact absurd start.1 Bool.false_ne_true
      rw [List.cons_append, only_unmatched unmatched]
      exact ih fun member => plain (List.mem_cons_of_mem _ member)

/-- A match at a pair has the label of the pair. -/
theorem pair_at_head {label' value t : List Char} (inside : '=' ∉ label) (inside' : '=' ∉ label')
    (same : ' ' :: (label ++ '=' :: ds) ++ t = pair label' value ++ s) :
    label = label' ∧ ds ++ t = value ++ s := by
  have names : label ++ '=' :: (ds ++ t) = label' ++ '=' :: (value ++ s) := by
    simpa [pair] using same
  have fields := congrArg (List.splitOn '=') names
  rw [List.splitOn_append_cons_self_of_not_mem inside,
    List.splitOn_append_cons_self_of_not_mem inside'] at fields
  obtain rfl := (List.cons.inj fields).1
  exact ⟨rfl, (List.cons.inj (List.append_cancel_left names)).2⟩

theorem digits_at_head {t value : List Char} (digits : Digits ds)
    (ends : ∀ c ∈ s.head?, c ∉ "0123456789".toList) (same : ds ++ t = value ++ s) :
    ds.length ≤ value.length := by
  rcases List.append_eq_append_iff.mp same with ⟨more, rfl, _⟩ | ⟨more, rfl, rest⟩
  · simp
  · cases more with
    | nil => simp
    | cons c more =>
        exact absurd (digits c (by simp)) (ends c (by simp [rest]))

theorem only_other {label' value : List Char} (inside : '=' ∉ label) (inside' : '=' ∉ label')
    (other : label' ≠ label) (plain : ' ' ∉ label') (plain' : ' ' ∉ value) :
    only (labelled label) false 0 (pair label' value ++ s) = only (labelled label) false 0 s := by
  have unmatched : longest (labelled label false) (pair label' value ++ s) = 0 := by
    apply longest_eq_zero
    intro n positive matched
    obtain ⟨ds, _, _, blank | start⟩ := labelled_rmatch.mp matched
    · have whole := (List.take_append_drop n (pair label' value ++ s)).symm
      rw [blank] at whole
      exact other (pair_at_head inside inside' whole.symm).1.symm
    · exact absurd start.1 Bool.false_ne_true
  have rest : ' ' ∉ label' ++ '=' :: value := by
    simp [plain, plain']
  rw [pair, List.cons_append] at unmatched ⊢
  rw [only_unmatched unmatched]
  exact only_plain _ rest

theorem only_found {value : List Char} (inside : '=' ∉ label) (nonempty : value ≠ [])
    (digits : Digits value) (ends : ∀ c ∈ s.head?, c ∉ "0123456789".toList) :
    only (labelled label) false 0 (pair label value ++ s) =
      pair label value :: only (labelled label) false 0 s := by
  apply only_matched (List.cons_ne_nil _ _)
  apply longest_eq (m := pair label value)
  · exact labelled_rmatch.mpr ⟨value, nonempty, digits, .inl rfl⟩
  · intro n matched within
    obtain ⟨ds, _, digits', blank | start⟩ := labelled_rmatch.mp matched
    · have whole := (List.take_append_drop n (pair label value ++ s)).symm
      have length := congrArg List.length blank
      rw [blank] at whole
      have bound := digits_at_head digits' ends (pair_at_head inside inside whole.symm).2
      rw [List.length_take, Nat.min_eq_left within] at length
      simp only [pair, List.length_cons, List.length_append] at length ⊢
      omega
    · exact absurd start.1 Bool.false_ne_true

theorem only_head {w : List Char} (blank : c ≠ ' ') (other : c ∉ label ++ ['=']) (plain : ' ' ∉ w) :
    only (labelled label) true 0 (c :: w ++ s) = only (labelled label) false 0 s := by
  have unmatched : longest (labelled label true) (c :: (w ++ s)) = 0 := by
    apply longest_eq_zero
    intro n positive matched
    obtain ⟨t, here⟩ := take_head (c := c) (s := w ++ s) positive
    obtain ⟨ds, _, _, first | ⟨_, first⟩⟩ := labelled_rmatch.mp matched
    · rw [here] at first
      exact blank (List.cons.inj first).1
    · rw [here] at first
      apply other
      cases label with
      | nil => exact List.mem_singleton.mpr (List.cons.inj first).1
      | cons l label => exact List.mem_cons.mpr (.inl (List.cons.inj first).1)
  rw [List.cons_append, only_unmatched unmatched]
  exact only_plain w plain

theorem only_pairs {pairs : List (List Char × List Char)} {tail : List Char} (inside : '=' ∉ label)
    (labels : ∀ entry ∈ pairs, '=' ∉ entry.1 ∧ ' ' ∉ entry.1)
    (values : ∀ entry ∈ pairs, ' ' ∉ entry.2)
    (numbers : ∀ entry ∈ pairs, entry.1 = label → entry.2 ≠ [] ∧ Digits entry.2)
    (ends : ∀ c ∈ tail, c ≠ ' ' ∧ c ∉ "0123456789".toList) :
    only (labelled label) false 0 (pairs.flatMap (fun entry => pair entry.1 entry.2) ++ tail) =
      (pairs.filter (·.1 = label)).map fun entry => pair entry.1 entry.2 := by
  induction pairs with
  | nil =>
      have plain : ' ' ∉ tail := fun member => (ends ' ' member).1 rfl
      have none : only (labelled label) false 0 (tail ++ []) = only (labelled label) false 0 [] :=
        only_plain tail plain
      rw [List.append_nil] at none
      exact none
  | cons entry pairs ih =>
      have rest := ih (fun e member => labels e (List.mem_cons_of_mem _ member))
        (fun e member => values e (List.mem_cons_of_mem _ member))
        (fun e member => numbers e (List.mem_cons_of_mem _ member))
      have named := labels entry List.mem_cons_self
      rw [List.flatMap_cons, List.append_assoc]
      by_cases same : entry.1 = label
      · obtain ⟨nonempty, digits⟩ := numbers entry List.mem_cons_self same
        rw [List.filter_cons_of_pos (by simpa using same), List.map_cons, same,
          only_found inside nonempty digits, rest]
        intro c first
        cases pairs with
        | nil => exact (ends c (List.mem_of_mem_head? first)).2
        | cons next pairs =>
            have blank : c = ' ' := by simpa [pair, eq_comm] using first
            rw [blank]
            decide
      · rw [List.filter_cons_of_neg (by simpa using same),
          only_other inside named.1 same named.2 (values entry List.mem_cons_self), rest]

/-- The matches in a record are the pairs with the label. -/
theorem only_record {record : Record} (inside : '=' ∉ label) (wellFormed : record.WellFormed label) :
    only (labelled label) true 0 record.text =
      (record.pairs.filter (·.1 = label)).map fun entry => pair entry.1 entry.2 := by
  obtain ⟨c, rest, head, blank, other, plain⟩ := wellFormed.head
  rw [Record.text, head, List.append_assoc, only_head blank other plain,
    only_pairs inside wellFormed.labels wellFormed.values wellFormed.numbers wellFormed.tail]

theorem secondField_pair {value : List Char} (inside : '=' ∉ label) (inside' : '=' ∉ value) :
    secondField '=' (pair label value) = value := by
  have first : '=' ∉ ' ' :: label := by
    intro member
    rcases List.mem_cons.mp member with equal | later
    · exact absurd equal (by decide)
    · exact inside later
  rw [secondField, pair, ← List.cons_append, List.splitOn_append_cons_self_of_not_mem first,
    List.splitOn_eq_singleton inside']
  rfl

end TextTools
