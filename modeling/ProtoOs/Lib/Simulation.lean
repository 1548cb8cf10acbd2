import ProtoOs.Lib.Progress

namespace Transition

namespace System

variable {S A T B : Type*} {sys : System S A} {spec : System T B} {R : S → T → Prop}
  {label : S → A → B → Prop} {s s' : S} {t : T} {h : List (S × A)}

structure Simulation (sys : System S A) (spec : System T B) (R : S → T → Prop)
    (label : S → A → B → Prop) : Prop where
  start : ∀ s, sys.init s → ∃ t, spec.init t ∧ R s t
  step : ∀ s t a s', R s t → sys.step s a s' → ∃ b t', label s a b ∧ spec.step t b t' ∧ R s' t'

namespace Simulation

/-- The steps of two histories, one by one. -/
abbrev Follows (R : S → T → Prop) (label : S → A → B → Prop) :
    List (S × A) → List (T × B) → Prop :=
  List.Forall₂ fun p q => R p.1 q.1 ∧ label p.1 p.2 q.2

theorem follows_append {h' : List (T × B)} {a : A} {b : B} (follows : Follows R label h h')
    (related : R s t) (labelled : label s a b) :
    Follows R label (h ++ [(s, a)]) (h' ++ [(t, b)]) := by
  induction follows with
  | nil => exact .cons ⟨related, labelled⟩ .nil
  | cons first _ ih => exact .cons first ih

variable (simulation : Simulation sys spec R label)

include simulation

theorem path (related : R s t) (path : sys.Path s h s') :
    ∃ h' t', spec.Path t h' t' ∧ R s' t' ∧ Follows R label h h' := by
  induction path with
  | refl => exact ⟨[], t, .refl, related, .nil⟩
  | @step h s₁ a s₂ _ taken ih =>
      obtain ⟨h', t₁, path', here, follows⟩ := ih
      obtain ⟨b, t₂, labelled, answer, there⟩ := simulation.step s₁ t₁ a s₂ here taken
      exact ⟨_, t₂, path'.step answer, there, follows_append follows here labelled⟩

theorem run (run : sys.Run h s) :
    ∃ h' t, spec.Run h' t ∧ R s t ∧ Follows R label h h' := by
  induction run with
  | start first =>
      obtain ⟨t, first', related⟩ := simulation.start _ first
      exact ⟨[], t, .start first', related, .nil⟩
  | @step h s₁ a s₂ _ taken ih =>
      obtain ⟨h', t₁, run', here, follows⟩ := ih
      obtain ⟨b, t₂, labelled, answer, there⟩ := simulation.step s₁ t₁ a s₂ here taken
      exact ⟨_, t₂, run'.step answer, there, follows_append follows here labelled⟩

end Simulation

end System

end Transition
