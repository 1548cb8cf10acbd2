import ProtoOs.Lib.System

/-!
# Progress by rank

A path is a run from any state. Where each counted step towards a goal lowers a rank, and no other
step raises it, a path cannot take more counted steps than the rank at its start before it meets
the goal.
-/

namespace Transition

namespace System

variable {S A : Type*} {sys : System S A} {h h' : List (S × A)} {s s' : S}

inductive Path (sys : System S A) (s : S) : List (S × A) → S → Prop
  | refl : Path sys s [] s
  | step {h s' a s''} : Path sys s h s' → sys.step s' a s'' → Path sys s (h ++ [(s', a)]) s''

theorem Run.extend (run : sys.Run h s) (path : sys.Path s h' s') : sys.Run (h ++ h') s' := by
  induction path with
  | refl => simpa using run
  | step _ taken ih => simpa using ih.step taken

theorem Path.cons {a : A} {s₁ : S} (taken : sys.step s a s₁) (path : sys.Path s₁ h s') :
    sys.Path s ((s, a) :: h) s' := by
  induction path with
  | refl => exact .step .refl taken
  | step _ next ih => exact .step ih next

theorem Path.trans {s₁ : S} (path : sys.Path s h s₁) (rest : sys.Path s₁ h' s') :
    sys.Path s (h ++ h') s' := by
  induction rest with
  | refl => simpa using path
  | step _ taken ih => simpa using ih.step taken

/-- The path of a list of actions, where the step function allows each of them. -/
def trace (step : S → A → Option S) : S → List A → Option (List (S × A) × S)
  | s, [] => some ([], s)
  | s, a :: as => (step s a).bind fun s' => (trace step s' as).map fun p => ((s, a) :: p.1, p.2)

theorem path_of_trace {step : S → A → Option S} {as : List A}
    (sound : ∀ s a s', step s a = some s' → sys.step s a s')
    (traced : trace step s as = some (h, s')) : sys.Path s h s' := by
  induction as generalizing s h with
  | nil =>
      cases traced
      exact .refl
  | cons a as ih =>
      obtain ⟨s₁, first, rest⟩ := Option.bind_eq_some_iff.mp traced
      obtain ⟨p, traced', same⟩ := Option.map_eq_some_iff.mp rest
      cases same
      exact .cons (sound s a s₁ first) (ih traced')

theorem Path.head (path : sys.Path s h s') : h = [] ∧ s' = s ∨ ∃ a h₁, h = (s, a) :: h₁ := by
  induction path with
  | refl => exact .inl ⟨rfl, rfl⟩
  | @step h s' a s'' _ _ ih =>
      rcases ih with ⟨rfl, rfl⟩ | ⟨b, h₁, rfl⟩
      · exact .inr ⟨a, [], rfl⟩
      · exact .inr ⟨b, h₁ ++ [(s', a)], rfl⟩

theorem Path.keeps (path : sys.Path s h s') {I : S → Prop} (start : I s)
    (keep : ∀ s a s', I s → sys.step s a s' → I s') : I s' := by
  induction path with
  | refl => exact start
  | step _ taken ih => exact keep _ _ _ ih taken

/-- A path into a set enters it at one of its steps. -/
theorem Path.enters (path : sys.Path s h s') {P : S → Prop} (before : ¬ P s) (after : P s') :
    ∃ p ∈ h, (∃ h₁, sys.Path s h₁ p.1) ∧ ¬ P p.1 ∧ ∃ q, sys.step p.1 p.2 q ∧ P q := by
  induction path with
  | refl => exact absurd after before
  | @step h s' a s'' path taken ih =>
      by_cases here : P s'
      · obtain ⟨p, member, enters⟩ := ih here
        exact ⟨p, List.mem_append_left _ member, enters⟩
      · exact ⟨(s', a), by simp, ⟨h, path⟩, here, s'', taken, after⟩

theorem Path.reaches (path : sys.Path s h s') (I goal : S → Prop) (counts : A → Bool)
    (rank : S → Nat) (start : I s) (keep : ∀ s a s', I s → sys.step s a s' → I s')
    (lower : ∀ s a s', I s → ¬ goal s → ¬ goal s' → sys.step s a s' →
      rank s' + (if counts a then 1 else 0) ≤ rank s)
    (long : rank s < h.countP fun p => counts p.2) : goal s' ∨ ∃ p ∈ h, goal p.1 := by
  by_contra missed
  obtain ⟨last, earlier⟩ := not_or.mp missed
  have before : ∀ p ∈ h, ¬ goal p.1 := fun p member met => earlier ⟨p, member, met⟩
  suffices bound : rank s' + (h.countP fun p => counts p.2) ≤ rank s by omega
  clear long missed earlier
  induction path with
  | refl => simp
  | @step h s' a s'' path taken ih =>
      have here : ¬ goal s' := before (s', a) (by simp)
      have bound := ih here fun p member => before p (List.mem_append_left _ member)
      have lowered := lower s' a s'' (path.keeps start keep) here last taken
      rw [List.countP_append]
      simp only [List.countP_singleton]
      omega

/-- Where each counted step lowers the rank and no step raises it, a path cannot take more counted
steps than the rank at its start. -/
theorem Path.countP_le (path : sys.Path s h s') (I : S → Prop) (fine : S → A → Prop)
    (counts : S → A → Bool) (rank : S → Nat) (start : I s)
    (lower : ∀ s a s', I s → fine s a → sys.step s a s' →
      I s' ∧ rank s' + (if counts s a then 1 else 0) ≤ rank s)
    (all : ∀ p ∈ h, fine p.1 p.2) :
    I s' ∧ rank s' + (h.countP fun p => counts p.1 p.2) ≤ rank s := by
  induction path with
  | refl => exact ⟨start, by simp⟩
  | @step h s' a s'' path taken ih =>
      obtain ⟨keeps, bound⟩ := ih fun p member => all p (List.mem_append_left _ member)
      obtain ⟨keeps', lowered⟩ := lower s' a s'' keeps (all (s', a) (by simp)) taken
      refine ⟨keeps', ?_⟩
      rw [List.countP_append]
      simp only [List.countP_singleton]
      omega

/-- Where from each state a step can lower the rank, a path leads to the goal. -/
theorem Path.arrives (I goal : S → Prop) (rank : S → Nat) (start : I s)
    (progress : ∀ s, I s → ¬ goal s → ∃ a s', sys.step s a s' ∧ I s' ∧ rank s' < rank s) :
    ∃ h s', sys.Path s h s' ∧ I s' ∧ goal s' := by
  induction ranked : rank s using Nat.strongRecOn generalizing s with
  | ind n ih =>
      by_cases met : goal s
      · exact ⟨[], s, .refl, start, met⟩
      · obtain ⟨a, s₁, taken, keeps, lower⟩ := progress s start met
        obtain ⟨h, s', path, arrived⟩ := ih (rank s₁) (ranked ▸ lower) keeps rfl
        exact ⟨(s, a) :: h, s', .cons taken path, arrived⟩

end System

end Transition
