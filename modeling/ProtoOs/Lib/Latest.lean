import ProtoOs.Lib.System

/-!
# What was written last

A register is written by some steps of a run and may be emptied by others. Where it is not empty, it
holds what was written last.
-/

namespace Transition

namespace System

variable {S A X : Type*} {sys : System S A} {I : S → Prop} {W : S → A → X → Prop}
  {holds : S → X → Prop} {empty : S → Prop} {h : List (S × A)} {s : S} {x y : X}

inductive Latest (W : S → A → X → Prop) : List (S × A) → X → Prop
  | here {h s a x} (writes : W s a x) : Latest W (h ++ [(s, a)]) x
  | later {h s a x} (before : Latest W h x) (silent : ∀ y, ¬ W s a y) : Latest W (h ++ [(s, a)]) x

theorem Latest.unique (functional : ∀ s a x y, W s a x → W s a y → x = y) (latest : Latest W h x)
    (latest' : Latest W h y) : x = y := by
  induction latest with
  | @here h s a x writes =>
      generalize same : h ++ [(s, a)] = h' at latest'
      cases latest' with
      | here writes' =>
          obtain ⟨rfl, rfl⟩ := Prod.mk.inj (List.append_inj_right' same rfl |> List.cons.inj |>.1)
          exact functional s a x y writes writes'
      | later _ silent =>
          obtain ⟨rfl, rfl⟩ := Prod.mk.inj (List.append_inj_right' same rfl |> List.cons.inj |>.1)
          exact absurd writes (silent x)
  | @later h s a x _ silent ih =>
      generalize same : h ++ [(s, a)] = h' at latest'
      cases latest' with
      | here writes' =>
          obtain ⟨rfl, rfl⟩ := Prod.mk.inj (List.append_inj_right' same rfl |> List.cons.inj |>.1)
          exact absurd writes' (silent y)
      | later before =>
          obtain rfl := List.append_inj_left' same rfl
          exact ih before

/-- `I` holds of the reachable states. -/
structure Register (sys : System S A) (I : S → Prop) (W : S → A → X → Prop)
    (holds : S → X → Prop) (empty : S → Prop) : Prop where
  start : ∀ s, sys.init s → empty s
  write : ∀ s a s' x, I s → sys.step s a s' → W s a x → empty s' ∨ holds s' x
  keep : ∀ s a s', I s → sys.step s a s' → (∀ x, ¬ W s a x) →
    empty s' ∨ ¬ empty s ∧ ∀ x, holds s x → holds s' x

theorem Register.latest (register : Register sys I W holds empty)
    (sound : ∀ h s, sys.Run h s → I s) (run : sys.Run h s) (full : ¬ empty s) :
    ∃ x, Latest W h x ∧ holds s x := by
  induction run with
  | start first => exact absurd (register.start _ first) full
  | @step h s a s' run taken ih =>
      have here := sound h s run
      by_cases writes : ∃ x, W s a x
      · obtain ⟨x, writes⟩ := writes
        exact ⟨x, .here writes, (register.write s a s' x here taken writes).resolve_left full⟩
      · have silent : ∀ x, ¬ W s a x := fun x written => writes ⟨x, written⟩
        obtain ⟨before, kept⟩ := (register.keep s a s' here taken silent).resolve_left full
        obtain ⟨x, latest, holds⟩ := ih before
        exact ⟨x, .later latest silent, kept x holds⟩

end System

end Transition
