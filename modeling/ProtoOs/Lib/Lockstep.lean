import ProtoOs.Lib.Progress

namespace Transition

namespace System

variable {S A : Type*} {sys : System S A} {R : S → S → Prop} {s t s' : S} {as : List A}
  {h : List (S × A)} {p q : S × S} {H : List ((S × S) × A)}

/-- Two copies of the system, each step of which is a step of both with one action. -/
def both (sys : System S A) : System (S × S) A where
  init p := sys.init p.1 ∧ sys.init p.2
  step p a q := sys.step p.1 a q.1 ∧ sys.step p.2 a q.2

/-- The actions can be taken one after the other. -/
def Takes (sys : System S A) (s : S) (as : List A) : Prop :=
  ∃ h s', sys.Path s h s' ∧ h.map Prod.snd = as

/-- The step of both copies, where the step function allows it in each. -/
def pairStep (step : S → A → Option S) (p : S × S) (a : A) : Option (S × S) :=
  (step p.1 a).bind fun s => (step p.2 a).map fun t => (s, t)

theorem pairStep_sound {step : S → A → Option S} {a : A}
    (sound : ∀ s a s', step s a = some s' → sys.step s a s') (taken : pairStep step p a = some q) :
    sys.both.step p a q := by
  obtain ⟨s, first, rest⟩ := Option.bind_eq_some_iff.mp taken
  obtain ⟨t, second, rfl⟩ := Option.map_eq_some_iff.mp rest
  exact ⟨sound _ _ _ first, sound _ _ _ second⟩

theorem Path.right (path : sys.both.Path p H q) :
    sys.Path p.2 (H.map fun step => (step.1.2, step.2)) q.2 := by
  induction path with
  | refl => exact .refl
  | step _ taken ih =>
      rw [List.map_append]
      exact ih.step taken.2

/-- Related states can take the same actions, and are related after each. -/
structure Lockstep (sys : System S A) (R : S → S → Prop) : Prop where
  answer : ∀ s t a s', R s t → sys.step s a s' → ∃ t', sys.step t a t'
  answered : ∀ s t a t', R s t → sys.step t a t' → ∃ s', sys.step s a s'
  keep : ∀ s t a s' t', R s t → sys.step s a s' → sys.step t a t' → R s' t'

namespace Lockstep

variable (paced : Lockstep sys R)

include paced

theorem symm : Lockstep sys fun t s => R s t where
  answer t s := paced.answered s t
  answered t s := paced.answer s t
  keep t s a t' s' related step step' := paced.keep s t a s' t' related step' step

theorem path (related : R s t) (path : sys.both.Path (s, t) H q) : R q.1 q.2 := by
  induction path with
  | refl => exact related
  | step _ taken ih => exact paced.keep _ _ _ _ _ ih taken.1 taken.2

theorem follows (related : R s t) (path : sys.Path s h s') :
    ∃ H t', sys.both.Path (s, t) H (s', t') ∧ H.map Prod.snd = h.map Prod.snd := by
  induction path with
  | refl => exact ⟨[], t, .refl, rfl⟩
  | @step h s' a s'' _ taken ih =>
      obtain ⟨H, t', together, same⟩ := ih
      obtain ⟨t'', answer⟩ := paced.answer s' t' a s'' (paced.path related together) taken
      refine ⟨H ++ [((s', t'), a)], t'', together.step ⟨taken, answer⟩, ?_⟩
      rw [List.map_append, List.map_append, same]
      rfl

theorem takes (related : R s t) : sys.Takes s as ↔ sys.Takes t as := by
  have goes {R : S → S → Prop} (paced : Lockstep sys R) {s t : S} (related : R s t)
      (takes : sys.Takes s as) : sys.Takes t as := by
    obtain ⟨h, s', path, actions⟩ := takes
    obtain ⟨H, t', together, same⟩ := paced.follows related path
    refine ⟨_, t', together.right, ?_⟩
    rw [List.map_map]
    exact same.trans actions
  exact ⟨goes paced related, goes paced.symm related⟩

end Lockstep

end System

end Transition
