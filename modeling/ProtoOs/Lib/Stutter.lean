import ProtoOs.Lib.Progress

/-!
# Runs up to silent steps

Two states are in step where each answers a step of the other that is not silent, with the same
action and the same observation. The observations along two paths from such states are the same as
far as both go, wherever the silent steps stand.
-/

namespace Transition

namespace System

variable {S A O V : Type*} {sys : System S A} {R : S → S → Prop} {silent : S → A → Prop}
  {emit : S → A → Option O} {s s' s₁ t t₁ : S} {a : A} {h h' : List (S × A)}

structure InStep (sys : System S A) (R : S → S → Prop) (silent : S → A → Prop)
    (emit : S → A → Option O) : Prop where
  symm : ∀ s t, R s t → R t s
  quiet : ∀ s a, silent s a → emit s a = none
  stutter : ∀ s t a s', R s t → sys.step s a s' → silent s a → R s' t
  answer : ∀ s t a s', R s t → sys.step s a s' → ¬ silent s a →
    ∃ t', sys.step t a t' ∧ ¬ silent t a
  agree : ∀ s t a s' b t', R s t → sys.step s a s' → ¬ silent s a → sys.step t b t' →
    ¬ silent t b → b = a ∧ emit t b = emit s a ∧ R s' t'

def observed (emit : S → A → Option O) (h : List (S × A)) : List O :=
  h.filterMap fun p => emit p.1 p.2

@[simp] theorem observed_nil : observed emit [] = [] := rfl

@[simp] theorem observed_append :
    observed emit (h ++ h') = observed emit h ++ observed emit h' := by
  simp [observed]

theorem observed_step : observed emit (h ++ [(s, a)]) = observed emit h ++ (emit s a).toList := by
  cases emits : emit s a with
  | none => simp [observed, emits]
  | some o => simp [observed, emits]

namespace InStep

variable (paced : InStep sys R silent emit)

include paced

theorem answers (related : R s t) (path : sys.Path s h s₁) : ∃ h' t₁, sys.Path t h' t₁ ∧
    observed emit h' = observed emit h ∧ R s₁ t₁ := by
  induction path with
  | refl => exact ⟨[], t, .refl, rfl, related⟩
  | @step h s₁ a s₂ _ taken ih =>
      obtain ⟨h', t₁, path', same, here⟩ := ih
      by_cases quiet : silent s₁ a
      · refine ⟨h', t₁, path', ?_, paced.stutter s₁ t₁ a s₂ here taken quiet⟩
        rw [observed_step, paced.quiet s₁ a quiet, same]
        simp
      · obtain ⟨t₂, answered, loud⟩ := paced.answer s₁ t₁ a s₂ here taken quiet
        obtain ⟨_, emits, there⟩ := paced.agree s₁ t₁ a s₂ a t₂ here taken quiet answered loud
        refine ⟨h' ++ [(t₁, a)], t₂, path'.step answered, ?_, there⟩
        rw [observed_step, observed_step, emits, same]

/-- Along a path, the other state has observed nothing yet, or has answered. -/
theorem meets (related : R s t) (taken : sys.step s a s') (loud : ¬ silent s a)
    (path : sys.Path t h t₁) : R s t₁ ∧ observed emit h = [] ∨
      ∃ t₂ h₂, R s' t₂ ∧ sys.Path t₂ h₂ t₁ ∧
        observed emit h = (emit s a).toList ++ observed emit h₂ := by
  induction path with
  | refl => exact .inl ⟨related, rfl⟩
  | @step h t₁ b t₂ _ moved ih =>
      rcases ih with ⟨here, nothing⟩ | ⟨t₃, h₃, there, rest, seen⟩
      · by_cases quiet : silent t₁ b
        · have kept := paced.stutter t₁ s b t₂ (paced.symm s t₁ here) moved quiet
          refine .inl ⟨paced.symm t₂ s kept, ?_⟩
          rw [observed_step, nothing, paced.quiet t₁ b quiet]
          rfl
        · obtain ⟨_, emits, there⟩ := paced.agree s t₁ a s' b t₂ here taken loud moved quiet
          refine .inr ⟨t₂, [], there, .refl, ?_⟩
          rw [observed_step, nothing, emits]
          simp
      · refine .inr ⟨t₃, h₃ ++ [(t₁, b)], there, rest.step moved, ?_⟩
        rw [observed_step, observed_step, seen, List.append_assoc]

theorem continues (related : R s t) (path : sys.Path s h s₁) (path' : sys.Path t h' t₁) :
    (∃ t₂ h₂, R s₁ t₂ ∧ sys.Path t₂ h₂ t₁ ∧
      observed emit h' = observed emit h ++ observed emit h₂) ∨
    ∃ s₂ h₂, R s₂ t₁ ∧ sys.Path s₂ h₂ s₁ ∧
      observed emit h = observed emit h' ++ observed emit h₂ := by
  induction path with
  | refl => exact .inl ⟨t, h', related, path', rfl⟩
  | @step h s₁ a s₂ _ taken ih =>
      rcases ih with ⟨t₂, h₂, here, rest, seen⟩ | ⟨s₃, h₃, there, rest, seen⟩
      · by_cases quiet : silent s₁ a
        · refine .inl ⟨t₂, h₂, paced.stutter s₁ t₂ a s₂ here taken quiet, rest, ?_⟩
          rw [observed_step, paced.quiet s₁ a quiet, seen]
          simp
        · rcases paced.meets here taken quiet rest with ⟨still, nothing⟩ | ⟨t₃, h₃, there, rest', more⟩
          · refine .inr ⟨s₁, [(s₁, a)], still, .step .refl taken, ?_⟩
            rw [observed_append, seen, nothing, List.append_nil]
          · refine .inl ⟨t₃, h₃, there, rest', ?_⟩
            rw [seen, more, observed_step, List.append_assoc]
      · refine .inr ⟨s₃, h₃ ++ [(s₁, a)], there, rest.step taken, ?_⟩
        rw [observed_step, observed_step, seen, List.append_assoc]

theorem prefixes (related : R s t) (path : sys.Path s h s₁) (path' : sys.Path t h' t₁) :
    observed emit h <+: observed emit h' ∨ observed emit h' <+: observed emit h := by
  rcases paced.continues related path path' with ⟨_, _, _, _, seen⟩ | ⟨_, _, _, _, seen⟩
  · exact .inl ⟨_, seen.symm⟩
  · exact .inr ⟨_, seen.symm⟩

/-- What only the observed steps change is the same after the same observations. -/
theorem views {view : S → V} {I : S → Prop} (equal : ∀ s t, R s t → view s = view t)
    (valid : ∀ s t, R s t → I s) (keep : ∀ s a s', I s → sys.step s a s' → I s')
    (kept : ∀ s a s', I s → sys.step s a s' → emit s a = none → view s' = view s) (related : R s t)
    (path : sys.Path s h s₁) (path' : sys.Path t h' t₁)
    (same : observed emit h = observed emit h') : view s₁ = view t₁ := by
  have unseen {s s' : S} {h : List (S × A)} (start : I s) (path : sys.Path s h s')
      (nothing : observed emit h = []) : I s' ∧ view s' = view s := by
    induction path with
    | refl => exact ⟨start, rfl⟩
    | @step h s₁ a s₂ _ taken ih =>
        rw [observed_step, List.append_eq_nil_iff, Option.toList_eq_nil_iff] at nothing
        obtain ⟨here, before⟩ := ih nothing.1
        exact ⟨keep s₁ a s₂ here taken, (kept s₁ a s₂ here taken nothing.2).trans before⟩
  rcases paced.continues related path path' with ⟨t₂, h₂, here, rest, seen⟩ | ⟨s₂, h₂, here, rest, seen⟩
  · rw [same, List.self_eq_append_right] at seen
    have start := valid t₂ s₁ (paced.symm s₁ t₂ here)
    exact (equal s₁ t₂ here).trans (unseen start rest seen).2.symm
  · rw [same, List.self_eq_append_right] at seen
    exact (unseen (valid s₂ t₁ here) rest seen).2.trans (equal s₂ t₁ here)

/-- The path that has observed less can go on. -/
theorem catchesUp (related : R s t) (path : sys.Path s h s₁) (path' : sys.Path t h' t₁) :
    ∃ h₂ t₂, sys.Path t₁ h₂ t₂ ∧ observed emit h <+: observed emit (h' ++ h₂) := by
  rcases paced.continues related path path' with ⟨_, h₂, _, _, seen⟩ | ⟨s₂, h₂, here, rest, seen⟩
  · exact ⟨[], t₁, .refl, by rw [List.append_nil]; exact ⟨_, seen.symm⟩⟩
  · obtain ⟨h₃, t₂, path₂, same, _⟩ := paced.answers here rest
    have caught : observed emit (h' ++ h₃) = observed emit h :=
      observed_append.trans ((congrArg _ same).trans seen.symm)
    exact ⟨h₃, t₂, path₂, caught ▸ List.prefix_rfl⟩

end InStep

end System

end Transition
