import Mathlib

abbrev Cells (α : Type*) (n : Nat) := Vector α n

namespace Cells

variable {α : Type*} {n i j : Nat} {x y : α} {cells cells' : Cells α n}

def load (cells : Cells α n) (i : Nat) : Option α := cells[i]?

def store (cells : Cells α n) (i : Nat) (x : α) : Option (Cells α n) :=
  if inside : i < n then some (cells.set i x) else none

theorem load_toList (cells : Cells α n) (i : Nat) : cells.load i = cells.toList[i]? :=
  (Vector.getElem?_toList ..).symm

theorem store_inside (cells : Cells α n) (x : α) (inside : i < n) :
    ∃ cells', cells.store i x = some cells' :=
  ⟨_, dif_pos inside⟩

theorem store_toList (stored : cells.store i x = some cells') :
    i < n ∧ cells'.toList = cells.toList.set i x := by
  unfold store at stored
  split_ifs at stored with inside
  cases stored
  exact ⟨inside, Vector.toList_set ..⟩

theorem load_store (stored : cells.store i x = some cells') : cells'.load i = some x := by
  obtain ⟨inside, list⟩ := store_toList stored
  rw [load_toList, list, List.getElem?_set_self (by rwa [Vector.length_toList])]

theorem load_store_of_ne (stored : cells.store i x = some cells') (other : i ≠ j) :
    cells'.load j = cells.load j := by
  rw [load_toList, (store_toList stored).2, List.getElem?_set_ne other, load_toList]

theorem take_store (stored : cells.store i x = some cells') :
    cells'.toList.take (i + 1) = cells.toList.take i ++ [x] := by
  obtain ⟨inside, list⟩ := store_toList stored
  have inside' : i < (cells.toList.set i x).length := by
    rwa [List.length_set, Vector.length_toList]
  rw [list, List.take_succ_eq_append_getElem inside', List.getElem_set_self, List.take_set_of_le]
  exact Nat.le_refl i

end Cells
