import ProtoOs.Lib.TextTools

/-!
# Searching lines

Patterns of literals with `.*` between them, and `grep -o` for a label and a number that may stand
anywhere in a line.
-/

namespace TextTools

variable {p label w s t u v : List Char} {ps : List (List Char)} {c : Char} {start : Bool}

/-! ## Wildcards -/

/-- Whether `grep` selects a line by the pieces of a pattern, with `.*` between them. -/
def finds : List (List Char) → List Char → Bool
  | [], _ => true
  | p :: ps, line => line.tails.any fun rest => p.isPrefixOf rest && finds ps (rest.drop p.length)

theorem finds_cons : finds (p :: ps) s ↔ ∃ before after, s = before ++ p ++ after ∧ finds ps after := by
  simp only [finds, List.any_eq_true, List.mem_tails, Bool.and_eq_true, List.isPrefixOf_iff_prefix]
  constructor
  · rintro ⟨_, ⟨before, rfl⟩, ⟨after, rfl⟩, found⟩
    rw [List.drop_left] at found
    exact ⟨before, after, by simp, found⟩
  · rintro ⟨before, after, rfl, found⟩
    refine ⟨p ++ after, ⟨before, by simp⟩, List.prefix_append .., ?_⟩
    rw [List.drop_left]
    exact found

theorem finds_suffix (suffix : t <:+ s) (found : finds ps t) : finds ps s := by
  cases ps with
  | nil => rfl
  | cons p ps =>
      obtain ⟨first, rfl⟩ := suffix
      obtain ⟨before, after, rfl, rest⟩ := finds_cons.mp found
      exact finds_cons.mpr ⟨first ++ before, after, by simp, rest⟩

theorem finds_singleton : finds [p] s ↔ p <:+: s := by
  rw [finds_cons]
  constructor
  · rintro ⟨before, after, rfl, _⟩
    exact ⟨before, after, rfl⟩
  · rintro ⟨before, after, same⟩
    exact ⟨before, after, same.symm, rfl⟩

theorem finds_at (before : c ∉ w) (after : c ∉ s) :
    finds ((c :: p) :: ps) (w ++ c :: s) ↔ p <+: s ∧ finds ps (s.drop p.length) := by
  rw [finds_cons]
  constructor
  · rintro ⟨before', after', same, found⟩
    have split : w = before' ∧ s = p ++ after' := by
      rw [List.append_assoc, List.cons_append] at same
      rcases List.append_eq_append_iff.mp same with ⟨more, rfl, rest⟩ | ⟨more, rfl, rest⟩
      · cases more with
        | nil => exact ⟨by simp, (List.cons.inj rest).2⟩
        | cons d more =>
            rw [(List.cons.inj rest).2] at after
            simp at after
      · cases more with
        | nil => exact ⟨by simp, (List.cons.inj rest).2.symm⟩
        | cons d more =>
            rw [(List.cons.inj rest).1] at before
            simp at before
    obtain ⟨_, rfl⟩ := split
    rw [List.drop_left]
    exact ⟨List.prefix_append .., found⟩
  · rintro ⟨⟨after', rfl⟩, found⟩
    rw [List.drop_left] at found
    exact ⟨w, after', by simp, found⟩

/-! ## Numbers anywhere -/

/-- The pattern `label=[0-9]+`. -/
def numbered (label : List Char) : Pattern := fun _ =>
  literal (label ++ ['=']) * (digit * digit.star)

theorem numbered_rmatch :
    (numbered label start).rmatch s ↔ ∃ ds, ds ≠ [] ∧ Digits ds ∧ s = label ++ '=' :: ds := by
  rw [numbered, RegularExpression.mul_rmatch_iff]
  simp only [number_rmatch, literal_rmatch]
  constructor
  · rintro ⟨_, ds, rfl, rfl, nonempty, digits⟩
    exact ⟨ds, nonempty, digits, by simp⟩
  · rintro ⟨ds, nonempty, digits, rfl⟩
    exact ⟨label ++ ['='], ds, by simp, rfl, nonempty, digits⟩

theorem numbered_unmatched (absent : ¬(label ++ ['=']) <+: s) : longest (numbered label start) s = 0 := by
  apply longest_eq_zero
  intro n _ matched
  obtain ⟨ds, _, _, here⟩ := numbered_rmatch.mp matched
  apply absent
  have first : (label ++ ['=']) <+: s.take n := by
    rw [here]
    exact ⟨ds, by simp⟩
  exact first.trans (List.take_prefix n s)

theorem only_numbered_skip (absent : ∀ u, u ≠ [] → u <:+ w → ¬(label ++ ['=']) <+: u ++ s) :
    only (numbered label) start 0 (w ++ s) = only (numbered label) false 0 s := by
  induction w generalizing start with
  | nil =>
      cases s with
      | nil => rfl
      | cons c s => rfl
  | cons c w ih =>
      have here : ¬(label ++ ['=']) <+: c :: (w ++ s) :=
        absent (c :: w) (List.cons_ne_nil _ _) (List.suffix_refl _)
      rw [List.cons_append, only_unmatched (numbered_unmatched here)]
      exact ih fun u nonempty suffix => absent u nonempty (suffix.trans (List.suffix_cons c w))

/-- Before the next blank there is no `=`. -/
def Barred (s : List Char) : Prop := '=' ∉ s.takeWhile (· ≠ ' ')

theorem Barred.absent (barred : Barred s) (plain : ' ' ∉ label) (free : '=' ∉ u) :
    ¬(label ++ ['=']) <+: u ++ s := by
  rintro ⟨rest, same⟩
  rw [List.append_assoc, List.singleton_append] at same
  rcases List.append_eq_append_iff.mp same with ⟨more, rfl, rest'⟩ | ⟨more, rfl, rest'⟩
  · cases more with
    | nil =>
        rw [List.nil_append] at rest'
        apply barred
        rw [← rest']
        simp
    | cons d more =>
        rw [(List.cons.inj rest').1] at free
        simp at free
  · apply barred
    have kept : more.takeWhile (· ≠ ' ') = more := by
      rw [List.takeWhile_eq_self_iff]
      intro d member
      simp only [decide_eq_true_eq]
      rintro rfl
      exact plain (List.mem_append_right _ member)
    rw [rest', List.takeWhile_append]
    split
    · simp
    · rename_i short
      exact absurd (by rw [kept]) short

theorem barred_pair (s : List Char) : Barred (pair label v ++ s) := by
  rw [Barred, pair, List.cons_append, List.takeWhile_cons_of_neg (by simp)]
  exact List.not_mem_nil

theorem barred_plain (free : '=' ∉ s) : Barred s :=
  fun member => free ((List.takeWhile_prefix _).subset member)

theorem barred_pairs (pairs : List (List Char × List Char)) (free : '=' ∉ t) :
    Barred (pairs.flatMap (fun entry => pair entry.1 entry.2) ++ t) := by
  cases pairs with
  | nil => exact barred_plain free
  | cons entry pairs =>
      rw [List.flatMap_cons, List.append_assoc]
      exact barred_pair _

/-- The label ends in the one looked for only where it is that one and labels a number. -/
structure SearchablePair (label : List Char) (entry : List Char × List Char) : Prop where
  named : '=' ∉ entry.1
  value : '=' ∉ entry.2
  number : label <:+ entry.1 → entry.1 = label ∧ entry.2 ≠ [] ∧ Digits entry.2

structure Record.Searchable (record : Record) (label : List Char) : Prop where
  head : '=' ∉ record.head
  pairs : ∀ entry ∈ record.pairs, SearchablePair label entry
  tail : '=' ∉ record.tail ∧ ∀ c ∈ record.tail, c ∉ "0123456789".toList

theorem not_prefix_blank (nonempty : label ≠ []) (plain : ' ' ∉ label) :
    ¬(label ++ ['=']) <+: ' ' :: s := by
  rintro ⟨rest, same⟩
  obtain ⟨c, label, rfl⟩ := List.exists_cons_of_ne_nil nonempty
  rw [List.cons_append, List.cons_append] at same
  rw [(List.cons.inj same).1] at plain
  exact plain List.mem_cons_self

theorem label_unique (inside : '=' ∉ label) (inside' : '=' ∉ u)
    (first : (label ++ ['=']) <+: u ++ '=' :: s) : label = u := by
  obtain ⟨rest, same⟩ := first
  rw [List.append_assoc, List.singleton_append] at same
  have fields := congrArg (List.splitOn '=') same
  rw [List.splitOn_append_cons_self_of_not_mem inside,
    List.splitOn_append_cons_self_of_not_mem inside'] at fields
  exact (List.cons.inj fields).1

section Pairs

variable (nonempty : label ≠ []) (plain : ' ' ∉ label)

include nonempty plain

theorem only_numbered_found (some_ : v ≠ []) (digits : Digits v)
    (ends : ∀ c ∈ s.head?, c ∉ "0123456789".toList) :
    only (numbered label) start 0 (pair label v ++ s) =
      (label ++ '=' :: v) :: only (numbered label) false 0 s := by
  have blank : longest (numbered label start) (' ' :: (label ++ '=' :: v ++ s)) = 0 :=
    numbered_unmatched (not_prefix_blank nonempty plain)
  rw [pair, List.cons_append, only_unmatched blank]
  apply only_matched (by simp)
  apply longest_eq
  · exact numbered_rmatch.mpr ⟨v, some_, digits, rfl⟩
  · intro n matched within
    obtain ⟨ds, _, digits', here⟩ := numbered_rmatch.mp matched
    have whole := (List.take_append_drop n (label ++ '=' :: v ++ s)).symm
    have length := congrArg List.length here
    rw [here] at whole
    have rest : ds ++ (label ++ '=' :: v ++ s).drop n = v ++ s := by
      simpa using whole.symm
    have bound := digits_at_head digits' ends rest
    rw [List.length_take, Nat.min_eq_left within] at length
    simp only [List.length_cons, List.length_append] at length ⊢
    omega

variable (inside : '=' ∉ label)

include inside

theorem only_numbered_other {l : List Char} (inside' : '=' ∉ l) (free : '=' ∉ v) (barred : Barred s)
    (other : ¬label <:+ l) :
    only (numbered label) start 0 (pair l v ++ s) = only (numbered label) false 0 s := by
  apply only_numbered_skip
  intro u some_ suffix
  rcases List.suffix_cons_iff.mp suffix with rfl | later
  · exact not_prefix_blank nonempty plain
  · obtain ⟨before, same⟩ := later
    rcases List.append_eq_append_iff.mp same with ⟨l', rfl, rfl⟩ | ⟨more, rfl, rest⟩
    · intro first
      rw [List.append_assoc, List.cons_append] at first
      have free' : '=' ∉ l' := fun member => inside' (List.mem_append_right _ member)
      exact other ⟨before, by rw [label_unique inside free' first]⟩
    · cases more with
      | nil =>
          obtain rfl : '=' :: v = u := rest
          intro first
          rw [List.cons_append] at first
          exact nonempty (label_unique (u := []) inside List.not_mem_nil first)
      | cons d more =>
          apply barred.absent plain
          intro member
          apply free
          rw [(List.cons.inj rest).2]
          exact List.mem_append_right _ member

theorem only_numbered_pairs {pairs : List (List Char × List Char)}
    (searchable : ∀ entry ∈ pairs, SearchablePair label entry) (free : '=' ∉ t) (ends : ∀ c ∈ t, c ∉ "0123456789".toList) :
    only (numbered label) start 0 (pairs.flatMap (fun entry => pair entry.1 entry.2) ++ t) =
      (pairs.filter (·.1 = label)).map fun entry => label ++ '=' :: entry.2 := by
  induction pairs generalizing start with
  | nil =>
      have none : only (numbered label) start 0 (t ++ []) = only (numbered label) false 0 [] := by
        apply only_numbered_skip
        intro u _ suffix
        apply (barred_plain List.not_mem_nil).absent plain
        exact fun member => free (suffix.subset member)
      rw [List.append_nil] at none
      exact none
  | cons entry pairs ih =>
      have rest := @ih false fun e member => searchable e (List.mem_cons_of_mem _ member)
      obtain ⟨inside', value, number⟩ := searchable entry List.mem_cons_self
      rw [List.flatMap_cons, List.append_assoc]
      by_cases same : entry.1 = label
      · obtain ⟨_, some_, digits⟩ := number ⟨[], same.symm⟩
        rw [List.filter_cons_of_pos (by simpa using same), List.map_cons, same,
          only_numbered_found nonempty plain some_ digits, rest]
        intro c first
        cases pairs with
        | nil => exact ends c (List.mem_of_mem_head? first)
        | cons next pairs =>
            have blank : c = ' ' := by simpa [pair, eq_comm] using first
            rw [blank]
            decide
      · have other : ¬label <:+ entry.1 := fun suffix =>
          same (number suffix).1
        rw [List.filter_cons_of_neg (by simpa using same),
          only_numbered_other nonempty plain inside inside' value
            (barred_pairs pairs free) other, rest]

theorem only_numbered_record {record : Record} (searchable : record.Searchable label) :
    only (numbered label) true 0 record.text =
      (record.pairs.filter (·.1 = label)).map fun entry => label ++ '=' :: entry.2 := by
  rw [Record.text, List.append_assoc, only_numbered_skip,
    only_numbered_pairs nonempty plain inside searchable.pairs searchable.tail.1 searchable.tail.2]
  intro u _ suffix
  apply (barred_pairs record.pairs searchable.tail.1).absent plain
  exact fun member => searchable.head (suffix.subset member)

end Pairs

theorem secondField_numbered (inside : '=' ∉ label) (free : '=' ∉ v) :
    secondField '=' (label ++ '=' :: v) = v := by
  rw [secondField, List.splitOn_append_cons_self_of_not_mem inside, List.splitOn_eq_singleton free]
  rfl

end TextTools
