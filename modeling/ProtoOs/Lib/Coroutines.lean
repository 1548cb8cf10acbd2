import ProtoOs.Lib.Progress

/-!
# Coroutines

Each coroutine has a file of its own. The one that runs may change its own file, and a switch to
another changes none.
-/

namespace Transition

variable {T F : Type*}

structure Coroutines (T F : Type*) where
  current : T
  file : T → F

inductive CoroutineAction (T : Type*)
  | work
  | interrupt
  | switch (t : T)

inductive Coroutines.Step (s : Coroutines T F) : CoroutineAction T → Coroutines T F → Prop
  | work {file : T → F} (others : ∀ t, t ≠ s.current → file t = s.file t) :
      Step s .work ⟨s.current, file⟩
  | interrupt : Step s .interrupt s
  | switch {t : T} : Step s (.switch t) ⟨t, s.file⟩

def coroutines (start : Coroutines T F → Prop) : System (Coroutines T F) (CoroutineAction T) where
  init := start
  step s a s' := s.Step a s'

namespace Coroutines

variable {start : Coroutines T F → Prop} {s s' : Coroutines T F} {a : CoroutineAction T} {t : T}
  {h : List (Coroutines T F × CoroutineAction T)}

theorem Step.file_of_ne (step : s.Step a s') (other : t ≠ s.current) : s'.file t = s.file t := by
  cases step with
  | work others => exact others t other
  | interrupt => rfl
  | switch => rfl

theorem Step.current_of_switch {u : T} (step : s.Step (.switch u) s') : s'.current = u := by
  cases step
  rfl

theorem Step.file_of_switch {u : T} (step : s.Step (.switch u) s') : s'.file = s.file := by
  cases step
  rfl

/-- What does not run keeps its file. -/
theorem path_file (path : (coroutines start).Path s h s') (absent : ∀ p ∈ h, p.1.current ≠ t) :
    s'.file t = s.file t := by
  induction path with
  | refl => rfl
  | @step h s₁ a s₂ _ taken ih =>
      have earlier : s₁.file t = s.file t := ih fun p member => absent p (List.mem_append_left _ member)
      have away : t ≠ s₁.current := fun here => absent (s₁, a) (by simp) here.symm
      exact (Step.file_of_ne taken away).trans earlier

end Coroutines

end Transition
