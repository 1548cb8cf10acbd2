import Mathlib

/-!
# Tables of waiting tasks

A table has places, each recording at most one task, and records no task at two places. A task
waits when some place records it; it then waits at exactly one.
-/

namespace Waiting

variable {P T : Type*}

structure Table (P T : Type*) where
  occupant : P → Option T
  once : ∀ p q t, occupant p = some t → occupant q = some t → p = q

namespace Table

def Waits (w : Table P T) (t : T) : Prop := ∃ p, w.occupant p = some t

def empty : Table P T := ⟨fun _ => none, by simp⟩

@[simp] theorem not_waits_empty (t : T) : ¬ (empty : Table P T).Waits t := by
  simp [empty, Waits]

theorem waits_existsUnique {w : Table P T} {t : T} (waits : w.Waits t) :
    ∃! p, w.occupant p = some t := by
  obtain ⟨p, recorded⟩ := waits
  exact ⟨p, recorded, fun q other => w.once q p t other recorded⟩

variable [DecidableEq P]

def register (w : Table P T) (p : P) (t : T) (idle : ¬ w.Waits t) : Table P T where
  occupant := Function.update w.occupant p (some t)
  once := by
    intro q r u atQ atR
    by_cases isQ : q = p <;> by_cases isR : r = p
    · rw [isQ, isR]
    · subst isQ
      rw [Function.update_self, Option.some_inj] at atQ
      rw [Function.update_of_ne isR] at atR
      exact absurd ⟨r, atQ ▸ atR⟩ idle
    · subst isR
      rw [Function.update_self, Option.some_inj] at atR
      rw [Function.update_of_ne isQ] at atQ
      exact absurd ⟨q, atR ▸ atQ⟩ idle
    · rw [Function.update_of_ne isQ] at atQ
      rw [Function.update_of_ne isR] at atR
      exact w.once q r u atQ atR

def release (w : Table P T) (p : P) : Table P T where
  occupant := Function.update w.occupant p none
  once := by
    intro q r u atQ atR
    have keptQ : w.occupant q = some u := by
      by_cases isQ : q = p
      · simp [isQ] at atQ
      · simpa [isQ] using atQ
    have keptR : w.occupant r = some u := by
      by_cases isR : r = p
      · simp [isR] at atR
      · simpa [isR] using atR
    exact w.once q r u keptQ keptR

theorem waits_register {w : Table P T} {p : P} {t : T} {idle : ¬ w.Waits t}
    (free : w.occupant p = none) (u : T) :
    (w.register p t idle).Waits u ↔ u = t ∨ w.Waits u := by
  constructor
  · rintro ⟨q, recorded⟩
    by_cases isQ : q = p
    · subst isQ
      simp only [register, Function.update_self, Option.some_inj] at recorded
      exact .inl recorded.symm
    · exact .inr ⟨q, by simpa [register, isQ] using recorded⟩
  · rintro (rfl | ⟨q, recorded⟩)
    · exact ⟨p, by simp [register]⟩
    · have isQ : q ≠ p := by
        rintro rfl
        simp [free] at recorded
      exact ⟨q, by simpa [register, isQ] using recorded⟩

theorem waits_release {w : Table P T} {p : P} {t : T} (recorded : w.occupant p = some t) (u : T) :
    (w.release p).Waits u ↔ w.Waits u ∧ u ≠ t := by
  constructor
  · rintro ⟨q, other⟩
    have isQ : q ≠ p := by
      rintro rfl
      simp [release] at other
    have kept : w.occupant q = some u := by simpa [release, isQ] using other
    refine ⟨⟨q, kept⟩, ?_⟩
    rintro rfl
    exact isQ (w.once q p u kept recorded)
  · rintro ⟨⟨q, kept⟩, different⟩
    have isQ : q ≠ p := by
      rintro rfl
      exact different (Option.some_inj.mp (kept.symm.trans recorded))
    exact ⟨q, by simpa [release, isQ] using kept⟩

end Table

end Waiting
