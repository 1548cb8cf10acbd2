import Mathlib

/-!
# One-slot mailboxes

A mailbox holds at most one post, and a new post takes the place of the old one. What was posted
has been taken, has been lost to a later post, or is held. The lists are the history.
-/

namespace Messaging

variable {α : Type*}

structure Mailbox (α : Type*) where
  posted : List α
  taken : List α
  lost : List α
  held : Option α
  account : posted.Perm (taken ++ lost ++ held.toList)

namespace Mailbox

theorem nil_account : ([] : List α).Perm ([] ++ [] ++ (none : Option α).toList) := by simp

def empty : Mailbox α := ⟨[], [], [], none, nil_account⟩

@[simps] def post (b : Mailbox α) (a : α) : Mailbox α where
  posted := b.posted ++ [a]
  taken := b.taken
  lost := b.lost ++ b.held.toList
  held := some a
  account := by simpa using b.account.append_right [a]

@[simps] def take (b : Mailbox α) : Mailbox α where
  posted := b.posted
  taken := b.taken ++ b.held.toList
  lost := b.lost
  held := none
  account := by
    have moved : (b.lost ++ b.held.toList).Perm (b.held.toList ++ b.lost) := List.perm_append_comm
    simpa using b.account.trans (by simpa using moved.append_left b.taken)

@[simps] def pass (b : Mailbox α) (a : α) : Mailbox α where
  posted := b.posted ++ [a]
  taken := b.taken ++ [a]
  lost := b.lost
  held := b.held
  account := by
    have moved : (b.lost ++ b.held.toList ++ [a]).Perm ([a] ++ (b.lost ++ b.held.toList)) :=
      List.perm_append_comm
    simpa using (b.account.append_right [a]).trans (by simpa using moved.append_left b.taken)

end Mailbox

end Messaging
