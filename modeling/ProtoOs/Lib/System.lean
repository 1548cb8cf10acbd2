import Mathlib

/-!
# Transition systems

Runs carry their history, so a property of every step of a run is a property of the list of
pairs of a state and the action taken there.
-/

namespace Transition

structure System (S : Type*) (A : Type*) where
  init : S → Prop
  step : S → A → S → Prop

variable {S A σ : Type*}

namespace System

inductive Run (sys : System S A) : List (S × A) → S → Prop
  | start {s} : sys.init s → Run sys [] s
  | step {h s a s'} : Run sys h s → sys.step s a s' → Run sys (h ++ [(s, a)]) s'

def Reachable (sys : System S A) (s : S) : Prop := ∃ h, sys.Run h s

variable {sys : System S A} {h : List (S × A)} {s : S}

theorem Run.reachable (run : sys.Run h s) : sys.Reachable s := ⟨h, run⟩

theorem Run.started (run : sys.Run h s) : ∃ s, sys.init s := by
  induction run with
  | start first => exact ⟨_, first⟩
  | step _ _ ih => exact ih

/-- What holds at the start, and is kept by every step whose action meets `ok`, holds at the end
of every run all of whose steps meet `ok`. -/
theorem Run.invariantWhere (run : sys.Run h s) (I : S → Prop) (ok : S → A → Prop)
    (start : ∀ s, sys.init s → I s)
    (step : ∀ s a s', I s → ok s a → sys.step s a s' → I s')
    (all : ∀ p ∈ h, ok p.1 p.2) : I s := by
  induction run with
  | start first => exact start _ first
  | @step h s a s' _ taken ih =>
      have before : I s := ih fun p member => all p (List.mem_append_left _ member)
      exact step s a s' before (all (s, a) (by simp)) taken

theorem Run.invariant {I : S → Prop} (start : ∀ s, sys.init s → I s)
    (step : ∀ s a s', I s → sys.step s a s' → I s') (run : sys.Run h s) : I s :=
  run.invariantWhere I (fun _ _ => True) start (fun s a s' keep _ => step s a s' keep)
    fun _ _ => trivial

/-- Every state a run went through is the end of a run of its own. -/
theorem Run.reachable_of_mem (run : sys.Run h s) {p : S × A} (member : p ∈ h) :
    sys.Reachable p.1 := by
  induction run with
  | start _ => simp at member
  | step run _ ih =>
      rcases List.mem_append.mp member with earlier | last
      · exact ih earlier
      · rw [List.mem_singleton.mp last]
        exact run.reachable

/-- Where each step from a good state leads to a good state exactly when it is not a bad step,
a run stays within the good states exactly when it takes no bad step. -/
theorem Run.good_iff (run : sys.Run h s) (I good : S → Prop) (bad : S → A → Prop)
    (start : ∀ s, sys.init s → I s ∧ good s)
    (keep : ∀ s a s', I s → sys.step s a s' → I s')
    (step : ∀ s a s', I s → good s → sys.step s a s' → (good s' ↔ ¬ bad s a)) :
    ((∀ p ∈ h, good p.1) ∧ good s) ↔ ∀ p ∈ h, ¬ bad p.1 p.2 := by
  have invariant {h s} (run : sys.Run h s) : I s :=
    run.invariant (fun s first => (start s first).1) keep
  induction run with
  | start first => simp [(start _ first).2]
  | @step h s a s' run taken ih =>
      simp only [List.mem_append, List.mem_singleton, or_imp, forall_and, forall_eq, ← ih]
      constructor
      · rintro ⟨⟨earlier, now⟩, next⟩
        exact ⟨⟨earlier, now⟩, (step s a s' (invariant run) now taken).mp next⟩
      · rintro ⟨⟨earlier, now⟩, fine⟩
        exact ⟨⟨earlier, now⟩, (step s a s' (invariant run) now taken).mpr fine⟩

/-- Where a step from a state of `J` has a property exactly when it is not bad, and a step that is
not bad keeps `J`, all steps of a run have the property exactly when none of them is bad. -/
theorem Run.steps_iff (run : sys.Run h s) (J : S → Prop) (prop bad : S → A → Prop)
    (start : ∀ s, sys.init s → J s)
    (keep : ∀ s a s', J s → ¬ bad s a → sys.step s a s' → J s')
    (exact : ∀ s a s', J s → sys.step s a s' → (prop s a ↔ ¬ bad s a)) :
    (∀ p ∈ h, prop p.1 p.2) ↔ ∀ p ∈ h, ¬ bad p.1 p.2 := by
  induction run with
  | start _ => simp
  | @step h s a s' run taken ih =>
      simp only [List.mem_append, List.mem_singleton, or_imp, forall_and, forall_eq, ← ih]
      have now (earlier : ∀ p ∈ h, prop p.1 p.2) : prop s a ↔ ¬ bad s a :=
        exact s a s' (run.invariantWhere J (fun s a => ¬ bad s a) start keep (ih.mp earlier)) taken
      constructor
      · rintro ⟨earlier, holds⟩
        exact ⟨earlier, (now earlier).mp holds⟩
      · rintro ⟨earlier, fine⟩
        exact ⟨earlier, (now earlier).mpr fine⟩

/-! ## Runs of a step function -/

/-- The state after a list of actions, where the step function allows each of them. -/
def replay (step : S → A → Option S) : S → List A → Option S
  | s, [] => some s
  | s, a :: as => (step s a).bind fun s' => replay step s' as

theorem Run.replay {step : S → A → Option S} {as : List A} {s' : S} (run : sys.Run h s)
    (sound : ∀ s a s', step s a = some s' → sys.step s a s')
    (replayed : replay step s as = some s') :
    ∃ h', sys.Run h' s' ∧ ∀ p ∈ h', p ∈ h ∨ p.2 ∈ as := by
  induction as generalizing h s with
  | nil =>
      cases replayed
      exact ⟨h, run, fun _ member => .inl member⟩
  | cons a as ih =>
      obtain ⟨s₁, first, rest⟩ := Option.bind_eq_some_iff.mp replayed
      obtain ⟨h', run', members⟩ := ih (run.step (sound s a s₁ first)) rest
      refine ⟨h', run', fun p member => ?_⟩
      rcases members p member with earlier | later
      · rcases List.mem_append.mp earlier with old | new
        · exact .inl old
        · rw [List.mem_singleton.mp new]
          exact .inr List.mem_cons_self
      · exact .inr (List.mem_cons_of_mem a later)

end System

/-! ## Runs under a policy -/

/-- A program: its own state, and how it goes on with each step that it allows. -/
structure Policy (σ S A : Type*) where
  init : σ
  next : σ → S → A → S → Option σ

namespace System

def under (sys : System S A) (policy : Policy σ S A) : System (S × σ) A where
  init p := sys.init p.1 ∧ p.2 = policy.init
  step p a p' := sys.step p.1 a p'.1 ∧ policy.next p.2 p.1 a p'.1 = some p'.2

end System

def Policy.step (policy : Policy σ S A) (step : S → A → Option S) (p : S × σ) (a : A) :
    Option (S × σ) :=
  (step p.1 a).bind fun s => (policy.next p.2 p.1 a s).map fun c => (s, c)

theorem Policy.step_sound {policy : Policy σ S A} {step : S → A → Option S} {p p' : S × σ} {a : A}
    (taken : policy.step step p a = some p') :
    step p.1 a = some p'.1 ∧ policy.next p.2 p.1 a p'.1 = some p'.2 := by
  obtain ⟨s, stepped, goes⟩ := Option.bind_eq_some_iff.mp taken
  obtain ⟨c, allowed, rfl⟩ := Option.map_eq_some_iff.mp goes
  exact ⟨stepped, allowed⟩

end Transition
