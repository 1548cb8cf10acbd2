import ProtoOs.Lib.Progress

/-!
# Rendezvous

Tasks that send requests to the owners of endpoints and wait for their replies, and a watcher of
deaths. What a task waits for is all that is known of it: there are no queues and no registers.
-/

namespace Messaging

open Transition

variable {T E : Type*}

inductive WaitFor (E : Type*)
  | reply (e : E)
  | request (e : E)
  | death
  deriving DecidableEq

inductive Standing (E : Type*)
  | ready
  | waiting (w : WaitFor E)
  | dead

/-- Who owns the endpoints, who watches for deaths, and whom the watcher may revive. -/
structure Office (T E : Type*) where
  owner : E → Option T
  watcher : T
  revivable : T

/-- A letter is a request that no one has received yet. -/
structure Rendezvous (T E : Type*) where
  standing : T → Standing E
  letter : E → Prop
  news : Option T

inductive Deed (T E : Type*)
  | send (t : T) (e : E)
  | receive (t : T) (e : E)
  | answer (t : T) (e : E)
  | watch (t : T)
  | revive (t : T)
  | die (t : T)
  | other (t : T)
  | rest

namespace Rendezvous

def start (alive : T → Prop) [DecidablePred alive] : Rendezvous T E where
  standing t := if alive t then .ready else .dead
  letter _ := False
  news := none

variable [DecidableEq T]

def put (s : Rendezvous T E) (t : T) (x : Standing E) : Rendezvous T E :=
  { s with standing := Function.update s.standing t x }

def mark [DecidableEq E] (s : Rendezvous T E) (e : E) (b : Prop) : Rendezvous T E :=
  { s with letter := Function.update s.letter e b }

def tell (s : Rendezvous T E) (news : Option T) : Rendezvous T E := { s with news := news }

/-- A request finds the endpoint without a letter, and no one waiting for a reply of it. -/
structure Open (o : Office T E) (s : Rendezvous T E) (e : E) : Prop where
  owned : o.owner e ≠ none
  empty : ¬s.letter e
  free : ∀ u, s.standing u ≠ .waiting (.reply e)

/-- Whoever waited for a reply of `t` goes on without one, and its letter is thrown away. -/
def bury (o : Office T E) (s : Rendezvous T E) (t : T) : Rendezvous T E where
  standing u :=
    if u = t then .dead
    else match s.standing u with
      | .waiting (.reply e) => if o.owner e = some t then .ready else .waiting (.reply e)
      | .waiting .death => .ready
      | x => x
  letter e := s.letter e ∧ ∀ u, s.standing u = .waiting (.reply e) → o.owner e ≠ some t
  news := s.news

variable [DecidableEq E]

inductive Step (o : Office T E) (s : Rendezvous T E) : Deed T E → Rendezvous T E → Prop
  | handOver {t r : T} {e : E} (acts : s.standing t = .ready) (open_ : Open o s e)
      (waiting : s.standing r = .waiting (.request e)) :
      Step o s (.send t e) ((s.put t (.waiting (.reply e))).put r .ready)
  | leave {t : T} {e : E} (acts : s.standing t = .ready) (open_ : Open o s e)
      (nobody : ∀ r, s.standing r ≠ .waiting (.request e)) :
      Step o s (.send t e) ((s.put t (.waiting (.reply e))).mark e True)
  | busy {t : T} {e : E} (acts : s.standing t = .ready) (closed : ¬Open o s e) :
      Step o s (.send t e) s
  | take {t : T} {e : E} (acts : s.standing t = .ready) (owner : o.owner e = some t)
      (letter : s.letter e) : Step o s (.receive t e) (s.mark e False)
  | listen {t : T} {e : E} (acts : s.standing t = .ready) (owner : o.owner e = some t)
      (empty : ¬s.letter e) : Step o s (.receive t e) (s.put t (.waiting (.request e)))
  | foreign {t : T} {e : E} (acts : s.standing t = .ready) (owner : o.owner e ≠ some t) :
      Step o s (.receive t e) s
  | reply {t u : T} {e : E} (acts : s.standing t = .ready) (owner : o.owner e = some t)
      (waiting : s.standing u = .waiting (.reply e)) : Step o s (.answer t e) (s.put u .ready)
  | unasked {t : T} {e : E} (acts : s.standing t = .ready)
      (none : o.owner e = some t → ∀ u, s.standing u ≠ .waiting (.reply e)) :
      Step o s (.answer t e) s
  | learn {u : T} (acts : s.standing o.watcher = .ready) (known : s.news = some u) :
      Step o s (.watch o.watcher) (s.tell none)
  | await (acts : s.standing o.watcher = .ready) (quiet : s.news = none) :
      Step o s (.watch o.watcher) (s.put o.watcher (.waiting .death))
  | blind {t : T} (acts : s.standing t = .ready) (other : t ≠ o.watcher) : Step o s (.watch t) s
  | revive (acts : s.standing o.watcher = .ready) (gone : s.standing o.revivable = .dead) :
      Step o s (.revive o.watcher) (s.put o.revivable .ready)
  | alive {t : T} (acts : s.standing t = .ready)
      (none : t = o.watcher → s.standing o.revivable ≠ .dead) : Step o s (.revive t) s
  | mourned {t u : T} (acts : s.standing t = .ready) (watching : s.standing u = .waiting .death) :
      Step o s (.die t) (bury o s t)
  | unnoticed {t : T} (acts : s.standing t = .ready)
      (nobody : ∀ u, s.standing u ≠ .waiting .death) :
      Step o s (.die t) ((bury o s t).tell (some t))
  | other {t : T} (acts : s.standing t = .ready) : Step o s (.other t) s
  | rest : Step o s .rest s

def system (o : Office T E) (alive : T → Prop) [DecidablePred alive] :
    System (Rendezvous T E) (Deed T E) where
  init s := s = start alive
  step := Step o

variable {o : Office T E} {s s' : Rendezvous T E} {d : Deed T E} {t u : T} {w : WaitFor E}

/-! ## What ends a wait -/

/-- The deeds of the counterparts of a wait. -/
inductive Ends (o : Office T E) : WaitFor E → Deed T E → Prop
  | answered {t : T} {e : E} (owner : o.owner e = some t) : Ends o (.reply e) (.answer t e)
  | abandoned {t : T} {e : E} (owner : o.owner e = some t) : Ends o (.reply e) (.die t)
  | requested {t : T} {e : E} : Ends o (.request e) (.send t e)
  | died {t : T} : Ends o .death (.die t)

omit [DecidableEq E] in
theorem standing_put {x : Standing E} :
    (s.put t x).standing u = if u = t then x else s.standing u := by
  by_cases same : u = t
  · subst same
    simp [put]
  · simp [put, same]

omit [DecidableEq E] in
theorem bury_waiting : (bury o s t).standing u = .waiting w ↔
    u ≠ t ∧ s.standing u = .waiting w ∧ w ≠ .death ∧ ∀ e, w = .reply e → o.owner e ≠ some t := by
  by_cases self : u = t
  · simp [bury, self]
  · rcases standing : s.standing u with _ | (e | e | _) | _
    · simp [bury, self, standing]
    · by_cases owner : o.owner e = some t
      · simp only [bury, self, standing, owner, if_true, if_false]
        constructor
        · rintro ⟨⟩
        · rintro ⟨_, same, _, other⟩
          cases same
          exact absurd owner (other e rfl)
      · simp only [bury, self, standing, owner, if_false]
        constructor
        · rintro ⟨⟩
          exact ⟨self, rfl, by simp, fun _ same => by cases same; exact owner⟩
        · exact fun kept => kept.2.1
    · simp only [bury, self, standing, if_false]
      constructor
      · rintro ⟨⟩
        exact ⟨self, rfl, by simp, by simp⟩
      · exact fun kept => kept.2.1
    · simp only [bury, self, standing, if_false]
      constructor
      · rintro ⟨⟩
      · rintro ⟨_, same, other, _⟩
        cases same
        exact absurd rfl other
    · simp [bury, self, standing]

omit [DecidableEq E] in
theorem bury_dead : (bury o s t).standing u = .dead ↔ u = t ∨ s.standing u = .dead := by
  by_cases self : u = t
  · simp [bury, self]
  · rcases standing : s.standing u with _ | (e | e | _) | _
    · simp [bury, self, standing]
    · by_cases owner : o.owner e = some t
      · simp [bury, self, standing, owner]
      · simp [bury, self, standing, owner]
    · simp [bury, self, standing]
    · simp [bury, self, standing]
    · simp [bury, self, standing]

omit [DecidableEq E] in
theorem standing_bury (waiting : s.standing u = .waiting w) (other : u ≠ t) :
    (bury o s t).standing u = .waiting w ∨
      (bury o s t).standing u = .ready ∧ Ends o w (.die t) := by
  simp only [bury, other, if_false, waiting]
  cases w with
  | request e => exact .inl rfl
  | death => exact .inr ⟨rfl, .died⟩
  | reply e =>
      by_cases owner : o.owner e = some t
      · exact .inr ⟨if_pos owner, .abandoned owner⟩
      · exact .inl (if_neg owner)

/-- What a task waits for ends by the deed of a counterpart, and then the task is ready. -/
theorem Step.ends_of_wait (step : Step o s d s') (waiting : s.standing u = .waiting w) :
    s'.standing u = .waiting w ∨ s'.standing u = .ready ∧ Ends o w d := by
  have busy {t : T} (acts : s.standing t = .ready) : u ≠ t := by
    rintro rfl
    rw [acts] at waiting
    cases waiting
  cases step with
  | busy | take | foreign | unasked | learn | blind | alive | other | rest => exact .inl waiting
  | leave acts =>
      left
      show (s.put _ _).standing u = _
      rw [standing_put, if_neg (busy acts)]
      exact waiting
  | listen acts | await acts =>
      left
      rw [standing_put, if_neg (busy acts)]
      exact waiting
  | @handOver t r e acts _ here =>
      rw [standing_put, standing_put, if_neg (busy acts)]
      split_ifs with same
      · subst same
        cases here.symm.trans waiting
        exact .inr ⟨rfl, .requested⟩
      · exact .inl waiting
  | @reply t r e acts owner here =>
      rw [standing_put]
      split_ifs with same
      · subst same
        cases here.symm.trans waiting
        exact .inr ⟨rfl, .answered owner⟩
      · exact .inl waiting
  | revive _ gone =>
      left
      rw [standing_put, if_neg, waiting]
      rintro rfl
      rw [gone] at waiting
      cases waiting
  | mourned acts => exact standing_bury waiting (busy acts)
  | unnoticed acts => exact standing_bury waiting (busy acts)

end Rendezvous

end Messaging
