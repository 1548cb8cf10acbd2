import Mathlib

/-!
# Request channels

A channel accepts requests, hands each of them to a server and completes each of them to its
client. One request may wait to be handed over, and one may wait for its completion; the two are
kept apart, as a request may be completed before it is handed over. The lists are the history.
-/

namespace Messaging

variable {R : Type*}

structure Channel (R : Type*) where
  accepted : List R
  delivered : List R
  discarded : List R
  completed : List R
  pending : Option R
  awaiting : Option R
  distinct : accepted.Nodup
  order : (delivered ++ pending.toList).Sublist accepted
  account : accepted.Perm (delivered ++ discarded ++ pending.toList)
  once : completed.Nodup
  known : ∀ r ∈ completed, r ∈ accepted
  unanswered : ∀ r ∈ awaiting, r ∈ accepted ∧ r ∉ completed

namespace Channel

def empty : Channel R :=
  ⟨[], [], [], [], none, none, .nil, by simp, by simp, .nil, by simp, by simp⟩

variable {c : Channel R} {r : R}

def park (c : Channel R) (r : R) (fresh : r ∉ c.accepted) (quiet : c.pending = none) : Channel R where
  accepted := c.accepted ++ [r]
  delivered := c.delivered
  discarded := c.discarded
  completed := c.completed
  pending := some r
  awaiting := some r
  distinct := by
    rw [List.nodup_append]
    refine ⟨c.distinct, List.nodup_singleton r, ?_⟩
    rintro a member b here rfl
    rw [List.mem_singleton.mp here] at member
    exact fresh member
  order := by
    have before := c.order
    rw [quiet] at before
    exact List.Sublist.append (by simpa using before) (List.Sublist.refl [r])
  account := by
    have before := c.account
    rw [quiet] at before
    exact List.Perm.append_right [r] (by simpa using before)
  once := c.once
  known a member := List.mem_append_left _ (c.known a member)
  unanswered a here := by
    cases here
    exact ⟨by simp, fun answered => fresh (c.known r answered)⟩

def handOver (c : Channel R) (r : R) (fresh : r ∉ c.accepted) (quiet : c.pending = none) :
    Channel R where
  accepted := c.accepted ++ [r]
  delivered := c.delivered ++ [r]
  discarded := c.discarded
  completed := c.completed
  pending := none
  awaiting := some r
  distinct := (c.park r fresh quiet).distinct
  order := by simpa [quiet] using c.order
  account := by
    have before := (c.park r fresh quiet).account
    simp only [park, Option.toList_some] at before
    refine before.trans ?_
    rw [Option.toList_none, List.append_nil, List.append_assoc, List.append_assoc]
    exact List.Perm.append_left _ List.perm_append_comm
  once := c.once
  known a member := List.mem_append_left _ (c.known a member)
  unanswered := (c.park r fresh quiet).unanswered

def take (c : Channel R) (r : R) (waiting : c.pending = some r) : Channel R where
  accepted := c.accepted
  delivered := c.delivered ++ [r]
  discarded := c.discarded
  completed := c.completed
  pending := none
  awaiting := c.awaiting
  distinct := c.distinct
  order := by simpa [waiting] using c.order
  account := by
    have before := c.account
    rw [waiting] at before
    refine before.trans ?_
    rw [Option.toList_none, List.append_nil, List.append_assoc, List.append_assoc]
    exact List.Perm.append_left _ List.perm_append_comm
  once := c.once
  known := c.known
  unanswered := c.unanswered

def complete (c : Channel R) (r : R) (waiting : c.awaiting = some r) : Channel R where
  accepted := c.accepted
  delivered := c.delivered
  discarded := c.discarded
  completed := c.completed ++ [r]
  pending := c.pending
  awaiting := none
  distinct := c.distinct
  order := c.order
  account := c.account
  once := by
    rw [List.nodup_append]
    refine ⟨c.once, List.nodup_singleton r, ?_⟩
    rintro a member b here rfl
    rw [List.mem_singleton.mp here] at member
    exact (c.unanswered r waiting).2 member
  known a member := by
    rcases List.mem_append.mp member with earlier | now
    · exact c.known a earlier
    · rw [List.mem_singleton.mp now]
      exact (c.unanswered r waiting).1
  unanswered := by simp

def discard (c : Channel R) : Channel R where
  accepted := c.accepted
  delivered := c.delivered
  discarded := c.discarded ++ c.pending.toList
  completed := c.completed
  pending := none
  awaiting := c.awaiting
  distinct := c.distinct
  order := by simpa using (List.sublist_append_left _ _).trans c.order
  account := by simpa using c.account
  once := c.once
  known := c.known
  unanswered := c.unanswered

theorem pending_undelivered (c : Channel R) (waiting : c.pending = some r) : r ∉ c.delivered := by
  have parts := (c.order.nodup c.distinct)
  rw [waiting, List.nodup_append] at parts
  exact fun member => parts.2.2 r member r (by simp) rfl

/-- Where nothing waited to be handed over, what is handed over later was accepted later. -/
theorem delivered_fresh {c' : Channel R} {accepted delivered discarded : List R}
    (quiet : c.pending = none) (accepts : c'.accepted = c.accepted ++ accepted)
    (delivers : c'.delivered = c.delivered ++ delivered)
    (discards : c'.discarded = c.discarded ++ discarded) (member : r ∈ delivered) : r ∈ accepted := by
  have known : r ∈ c'.accepted := c'.order.subset (by simp [delivers, member])
  rw [accepts] at known
  rcases List.mem_append.mp known with earlier | later
  swap
  · exact later
  exfalso
  have old : r ∈ c.delivered ++ c.discarded := by simpa [quiet] using c.account.subset earlier
  have once := c'.account.nodup_iff.mp c'.distinct
  rw [delivers, discards] at once
  simp only [List.nodup_append, List.mem_append] at once
  rcases List.mem_append.mp old with taken | dropped
  · exact once.1.1.2.2 r taken r member rfl
  · exact once.1.2.2 r (.inr member) r (.inl dropped) rfl

/-! ## Pairing -/

/-- A request that waits to be handed over is the one whose client waits, and otherwise the client
that waits is that of the request handed over last. -/
def Paired (c : Channel R) : Prop :=
  (∀ r ∈ c.pending, c.awaiting = some r) ∧
    (c.pending = none → ∀ r ∈ c.awaiting, c.delivered.getLast? = some r)

theorem paired_empty : (empty : Channel R).Paired := by simp [Paired, empty]

theorem Paired.park {fresh : r ∉ c.accepted} {quiet : c.pending = none} :
    (c.park r fresh quiet).Paired := by
  simp [Paired, Channel.park]

theorem Paired.handOver {fresh : r ∉ c.accepted} {quiet : c.pending = none} :
    (c.handOver r fresh quiet).Paired := by
  simp [Paired, Channel.handOver]

theorem Paired.take {waiting : c.pending = some r} (paired : c.Paired) :
    (c.take r waiting).Paired := by
  have same : c.awaiting = some r := paired.1 r waiting
  simp [Paired, Channel.take, same]

theorem Paired.complete {waiting : c.awaiting = some r} (quiet : c.pending = none) :
    (c.complete r waiting).Paired := by
  simp [Paired, Channel.complete, quiet]

theorem Paired.discard {waiting : c.awaiting = some r} : (c.complete r waiting).discard.Paired := by
  simp [Paired, Channel.complete, Channel.discard]

/-- In a paired channel a client is answered for the request handed over last exactly when nothing
waits to be handed over. -/
theorem Paired.last_iff (paired : c.Paired) (waiting : c.awaiting = some r) :
    c.delivered.getLast? = some r ↔ c.pending = none := by
  constructor
  · intro last
    cases held : c.pending with
    | none => rfl
    | some p =>
        have same : p = r := by simpa [waiting] using (paired.1 p held).symm
        subst same
        exact absurd (List.mem_of_getLast? last) (c.pending_undelivered held)
  · exact fun quiet => paired.2 quiet r waiting

end Channel

end Messaging
