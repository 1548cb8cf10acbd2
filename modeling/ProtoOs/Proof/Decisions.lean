import ProtoOs.Lib.Progress
import ProtoOs.Lib.RoundRobin
import ProtoOs.Proof.Tasks

/-!
# Scheduling decisions

A decision elects the first ready task behind the current one, so that a task that stays ready is
passed over at most once for each other task. The idle thread is elected where no task is ready,
and from then on it runs for ever.
-/

namespace ProtoOs

open Transition.System

variable {L : Layout} {cfg : Config} {k k' : Kernel} {m m' : Machine} {t s next : Slot}
  {a : Action} {h : List (Machine × Action)}

/-! ## The election -/

def userSlots : Finset (Fin threadCount) := Finset.univ.erase slotIdle

theorem mem_userSlots : s ∈ userSlots ↔ s ≠ slotIdle := by
  simp [userSlots]

/-- A call of `pick_next_thread` where `c` is the current thread. -/
inductive Chooses (k : Kernel) (c : Slot) : Slot → Prop
  | task {next : Slot}
      (elects : RoundRobin.Elects userSlots (fun s => threadIsSelectable k (some s)) c next) :
      Chooses k c next
  | idle (selectable : threadIsSelectable k (some slotIdle))
      (none : ∀ s, s ≠ slotIdle → ¬ threadIsSelectable k (some s)) : Chooses k c slotIdle

theorem behind_scanSlot (c : Slot) (i : Nat) (below : i < threadCount) :
    RoundRobin.behind c (scanSlot c.u32 (i + 1)) = i + 1 :=
  (by decide : ∀ c : Slot, ∀ i : Fin threadCount,
    RoundRobin.behind c (scanSlot c.u32 (i.val + 1)) = i.val + 1) c ⟨i, below⟩

theorem scanSlot_behind (c s : Slot) : ∃ i, i < threadCount ∧ scanSlot c.u32 (i + 1) = s ∧
    RoundRobin.behind c s = i + 1 :=
  (by decide : ∀ c s : Slot, ∃ i, i < threadCount ∧ scanSlot c.u32 (i + 1) = s ∧
    RoundRobin.behind c s = i + 1) c s

theorem behind_self (c : Slot) : RoundRobin.behind c c = threadCount := by
  simp [RoundRobin.behind, threadCount]

def scanned (k : Kernel) (c : Slot) (i : Nat) : Option Slot :=
  if scanSlot c.u32 (i + 1) = slotIdle then none
  else if some c ≠ some (scanSlot c.u32 (i + 1)) ∧
      threadIsSelectable k (some (scanSlot c.u32 (i + 1))) then
    some (scanSlot c.u32 (i + 1))
  else none

theorem pickNextThread_scanned (current : k.current = some t) (slot : (k.threads t).slot = t.u32) :
    pickNextThread k = match (List.range threadCount).findSome? (scanned k t) with
      | some next => .ok next
      | none =>
          if threadIsSelectable k (some t) ∧ t ≠ slotIdle then .ok t
          else if threadIsSelectable k (some slotIdle) then .ok slotIdle
          else .error .noSelectableThreads := by
  unfold scanned
  simp only [pickNextThread, current, slot]
  generalize List.findSome? _ _ = found
  cases found with
  | none => simp only [slot, ne_eq, Slot.u32_inj]
  | some => rfl

theorem scanned_eq_some {i : Nat} (found : scanned k t i = some next) :
    next = scanSlot t.u32 (i + 1) ∧ next ≠ slotIdle ∧ next ≠ t ∧
      threadIsSelectable k (some next) := by
  unfold scanned at found
  split_ifs at found with skip choice
  cases found
  exact ⟨rfl, skip, fun same => choice.1 (by rw [same]), choice.2⟩

theorem scanned_eq_none {i : Nat} (missed : scanned k t i = none) (user : s ≠ slotIdle)
    (place : scanSlot t.u32 (i + 1) = s) (other : s ≠ t) :
    ¬ threadIsSelectable k (some s) := by
  intro ready
  have different : some t ≠ some s := by simpa using Ne.symm other
  simp [scanned, place, user, different, ready] at missed

theorem pickNextThread_chooses (ok : KernelOk L cfg k none) (leaving : Leaving k t) :
    ∃ next, pickNextThread k = .ok next ∧ Chooses k t next := by
  rw [pickNextThread_scanned leaving.current (ok.threads t).slot]
  cases scan : (List.range threadCount).findSome? (scanned k t) with
  | some next =>
      obtain ⟨before, i, after, split, found, missed⟩ := List.findSome?_eq_some_iff.mp scan
      obtain ⟨rfl, user, _, ready⟩ := scanned_eq_some found
      have below : i < threadCount := List.mem_range.mp (by rw [split]; simp)
      refine ⟨_, rfl, .task ⟨mem_userSlots.mpr user, ready, fun u member willing => ?_⟩⟩
      by_contra closer
      rw [behind_scanSlot t i below] at closer
      obtain ⟨j, inside, place, distance⟩ := scanSlot_behind t u
      have earlier : j < i := by omega
      -- the scan has passed the place of `u`
      have passed : j ∈ before := by
        have member : j ∈ before ++ i :: after := split ▸ List.mem_range.mpr inside
        have sorted : (before ++ i :: after).Pairwise (· < ·) := split ▸ List.pairwise_lt_range
        rcases List.mem_append.mp member with early | late
        · exact early
        · rcases List.mem_cons.mp late with rfl | later
          · exact absurd earlier (lt_irrefl _)
          · have order := List.rel_of_pairwise_cons (List.pairwise_append.mp sorted).2.1 later
            omega
      have other : u ≠ t := by
        rintro rfl
        rw [behind_self] at distance
        omega
      exact scanned_eq_none (missed j passed) (mem_userSlots.mp member) place other willing
  | none =>
      have missed := List.findSome?_eq_none_iff.mp scan
      have unready (s : Slot) (user : s ≠ slotIdle) (other : s ≠ t) :
          ¬ threadIsSelectable k (some s) := by
        obtain ⟨i, below, place, _⟩ := scanSlot_behind t s
        exact scanned_eq_none (missed i (List.mem_range.mpr below)) user place other
      simp only
      split_ifs with self idle
      · refine ⟨t, rfl, .task ⟨mem_userSlots.mpr self.2, self.1, fun u member willing => ?_⟩⟩
        by_cases same : u = t
        · rw [same]
        · exact absurd willing (unready u (mem_userSlots.mp member) same)
      · refine ⟨slotIdle, rfl, .idle idle fun s user ready => ?_⟩
        by_cases same : s = t
        · subst same
          exact self ⟨ready, user⟩
        · exact unready s user same ready
      · obtain ⟨_, picked, selectable⟩ := pickNextThread_selectable ok leaving
        rw [pickNextThread_scanned leaving.current (ok.threads t).slot, scan] at picked
        simp [self, idle] at picked

/-! ## Between decisions -/

/-- The thread that the next decision starts from. -/
def Machine.base (m : Machine) : Option Slot :=
  match m.phase with
  | .switch next _ => some next
  | _ => m.kernel.current

def Machine.decides (m : Machine) : Action → Bool
  | .advance => match m.phase with
    | .pick _ => true
    | _ => false
  | _ => false

inductive Steers (m : Machine) (a : Action) (m' : Machine) : Prop
  | stays (idle : m.decides a = false) (current : m'.kernel.current = m.kernel.current)
      (base : m'.base = m.base)
  | switches {next : Slot} {r : Resume} (idle : m.decides a = false) (phase : m.phase = .switch next r)
      (current : m'.kernel.current = some next) (base : m'.base = some next)
  | decides {next : Slot} {r : Resume} (decides : m.decides a = true) (phase : m.phase = .pick r)
      (picked : pickNextThread m.kernel = .ok next) (current : m'.kernel.current = m.kernel.current)
      (base : m'.base = some next)

theorem resumeAt_current {r : Resume} (step : resumeAt k r = some m') :
    m'.kernel.current = k.current ∧ ∀ next r', m'.phase ≠ .switch next r' := by
  cases r with
  | null | boot => cases step
  | idleLoop =>
      cases step
      exact ⟨rfl, by simp⟩
  | returnStep t =>
      simp only [resumeAt, userTaskReturnTail] at step
      split_ifs at step
      all_goals
        cases step
        exact ⟨rfl, by simp⟩
  | bootstrap entry arg =>
      cases entry with
      | idle =>
          cases step
          exact ⟨rfl, by simp⟩
      | userTask =>
          cases arg with
          | none =>
              cases step
              exact ⟨rfl, by simp⟩
          | some t =>
              simp only [resumeAt, threadEntryUserTask] at step
              split_ifs at step
              all_goals
                cases step
                exact ⟨rfl, by simp⟩

theorem Steers.of_current (idle : m.decides a = false)
    (unswitched : ∀ next r, m.phase ≠ .switch next r)
    (current : m'.kernel.current = m.kernel.current ∧ ∀ next r, m'.phase ≠ .switch next r) :
    Steers m a m' := by
  refine .stays idle current.1 ?_
  have base {m : Machine} (here : ∀ next r, m.phase ≠ .switch next r) : m.base = m.kernel.current := by
    unfold Machine.base
    split
    · rename_i switches
      exact absurd switches (here _ _)
    · rfl
  rw [base current.2, base unswitched]
  exact current.1

theorem advance_switch {r : Resume} (phase : m.phase = .switch next r)
    (step : advance L m = some m') : m'.kernel.current = some next ∧ m'.base = some next := by
  obtain ⟨k, _⟩ := m
  cases phase
  simp only [advance] at step
  split_ifs at step with same
  · cases step
    exact ⟨same, same⟩
  · cases step
    exact ⟨threadSwitchToMark_current, threadSwitchToMark_current⟩

theorem advance_steers (inv : Inv L cfg m) (step : advance L m = some m') : Steers m .advance m' := by
  obtain ⟨k, phase⟩ := m
  rcases inv with ⟨kernel, phaseOk⟩ | _
  swap
  · cases step
  cases phaseOk with
  | el0 => cases step
  | @pick t leaving =>
      obtain ⟨next, picked, _⟩ := pickNextThread_selectable kernel leaving
      simp only [advance, picked, Option.some_inj] at step
      subst step
      exact .decides rfl rfl picked rfl rfl
  | switchFirst | switch =>
      obtain ⟨current, base⟩ := advance_switch rfl step
      exact .switches rfl rfl current base
  | @enter prev next caller returning _ left =>
      obtain ⟨k₁, at_, entered, _⟩ := threadSwitchToEnter_ok kernel returning left
      simp only [advance, entered, Option.some_inj] at step
      subst step
      exact .of_current rfl (by simp) ⟨(threadSwitchToEnter_users entered).2, by simp⟩
  | cont => exact .of_current rfl (by simp) (resumeAt_current step)
  | currentCtx active =>
      simp only [advance, threadCurrentUserCtx_ok kernel active, Option.some_inj] at step
      subst step
      exact .of_current rfl (by simp) ⟨rfl, by simp⟩
  | resume =>
      simp only [advance, Option.some_inj] at step
      subst step
      exact .of_current rfl (by simp) ⟨rfl, by simp⟩
  | wfi =>
      simp only [advance, Option.some_inj] at step
      subst step
      refine .of_current rfl (by simp) ?_
      unfold threadReschedPoint threadReschedTake
      cases k.reschedPending with
      | true => exact ⟨rfl, by simp⟩
      | false => exact ⟨rfl, by simp⟩

theorem trap_current {stores : List (SandboxAddress × UInt8)} {tf : TrapFrame} (inv : Inv L cfg m)
    (step : m.step L cfg (.trap stores tf) = some m') :
    (∃ t, t ≠ slotIdle ∧ m.kernel.current = some t ∧ m'.kernel.current = some t) ∧
      ∀ next r, m'.phase ≠ .switch next r := by
  cases (step_cases inv step).1 with
  | quiet untrapped => exact absurd rfl (untrapped stores tf)
  | back phase active _ effect | outside phase active _ effect =>
      have stored : Active (m.kernel.setMem (userStores stores m.kernel.mem)) _ :=
        active.congr rfl rfl rfl
      have after := (effect.keeps ((inv.active phase).1.setMem _) stored).2
      exact ⟨⟨_, active.user, active.current, after.current⟩, nofun⟩
  | away phase active _ effect inside left =>
      have stored : Active (m.kernel.setMem (userStores stores m.kernel.mem)) _ :=
        active.congr rfl rfl rfl
      obtain ⟨okSaved, saved⟩ := effect.saved ((inv.active phase).1.setMem _) stored inside
      exact ⟨⟨_, active.user, active.current, (left.keeps okSaved saved).2.current⟩, nofun⟩

theorem step_steers (inv : Inv L cfg m) (step : m.step L cfg a = some m') : Steers m a m' := by
  cases a with
  | advance => exact advance_steers inv step
  | tick =>
      simp only [Machine.step] at step
      split_ifs at step
      cases step
      have ticks : Ticks m.kernel (timerHandleIrq cfg m.kernel) := timerHandleIrq_ticks
      refine .stays rfl ticks.current ?_
      unfold Machine.base
      cases m.phase with
      | switch => rfl
      | _ => exact ticks.current
  | trap stores tf =>
      obtain ⟨⟨t, _, before, after⟩, unswitched⟩ := trap_current inv step
      obtain ⟨regs, phase, _⟩ := Machine.step_trap step
      refine .of_current rfl (fun next r switches => ?_) ⟨after.trans before.symm, unswitched⟩
      cases phase.symm.trans switches

/-! ## The idle thread -/

def Barren (k : Kernel) : Prop :=
  ∀ s, s ≠ slotIdle → (k.threads s).user.state = .blocked ∨ (k.threads s).user.state = .dead

theorem Barren.users (barren : Barren k) (users : SameUsers k k') : Barren k' := fun s user =>
  (barren s user).imp (users.blocked s).mpr (users.dead s).mpr

theorem Leaving.barren (ok : KernelOk L cfg k none) (leaving : Leaving k t)
    (picked : pickNextThread k = .ok slotIdle) : Barren k := by
  intro s user
  have off := leaving.off user
  have unready : ¬ threadIsSelectable k (some s) := by
    intro ready
    obtain ⟨next, other, picks⟩ := pickNextThread_user ok leaving user ready
    rw [picked] at picks
    exact other (Except.ok.inj picks).symm
  rw [selectable_user ok user off] at unready
  simp only [OffCpu, user, if_false] at off
  rcases off with ⟨state, ready | blocked⟩ | ⟨_, dead⟩
  · exact absurd ⟨state, ready⟩ unready
  · exact .inl blocked
  · exact .inr dead

/-- Control only comes to the idle thread where no task is ready. -/
structure IdleOk (m : Machine) : Prop where
  current : m.kernel.current = some slotIdle → Barren m.kernel
  switch : ∀ r, m.phase = .switch slotIdle r → Barren m.kernel

theorem IdleOk.base (ok : IdleOk m) (idle : m.base = some slotIdle) : Barren m.kernel := by
  obtain ⟨k, phase⟩ := m
  cases phase with
  | switch next r =>
      cases idle
      exact ok.switch r rfl
  | _ => exact ok.current idle

theorem Machine.base_switch {r : Resume} (phase : m.phase = .switch next r) : m.base = some next := by
  simp [Machine.base, phase]

theorem step_idleOk (inv : Inv L cfg m) (ok : IdleOk m) (step : m.step L cfg a = some m') :
    IdleOk m' := by
  by_cases untrapped : ∀ stores tf, a ≠ .trap stores tf
  · have users := (quiet_moves inv untrapped step).users
    cases step_steers inv step with
    | stays _ current base =>
        refine ⟨fun idle => ?_, fun r phase => ?_⟩
        · exact (ok.current (current.symm.trans idle)).users users
        · exact (ok.base (base.symm.trans (Machine.base_switch phase))).users users
    | switches _ phase current base =>
        refine ⟨fun idle => ?_, fun r phase' => ?_⟩
        · cases current.symm.trans idle
          exact (ok.switch _ phase).users users
        · cases base.symm.trans (Machine.base_switch phase')
          exact (ok.switch _ phase).users users
    | decides _ phase picked current base =>
        refine ⟨fun idle => ?_, fun r phase' => ?_⟩
        · exact (ok.current (current.symm.trans idle)).users users
        · cases base.symm.trans (Machine.base_switch phase')
          obtain ⟨t, leaving⟩ := inv.leaving phase
          exact (leaving.barren (inv.kernelOk (Machine.step_calm step)) picked).users users
  · simp only [not_forall, not_not] at untrapped
    obtain ⟨stores, tf, rfl⟩ := untrapped
    obtain ⟨⟨t, user, _, after⟩, unswitched⟩ := trap_current inv step
    refine ⟨fun idle => ?_, fun r phase => absurd phase (unswitched _ r)⟩
    exact absurd (Option.some_inj.mp (after.symm.trans idle)) user

theorem Booted.idleOk {mem : Memory} (booted : Booted L cfg mem m) : IdleOk m := by
  refine ⟨fun current => ?_, fun r switches => ?_⟩
  · rw [booted.current] at current
    cases current
  · rw [booted.phase] at switches
    cases switches

theorem run_idleOk (run : (kernelSystem L cfg).Run h m) : IdleOk m := by
  have both : Inv L cfg m ∧ IdleOk m := by
    apply Run.invariant ?_ ?_ run
    · rintro m ⟨mem, booted⟩
      exact ⟨(boot_booted booted).inv, (boot_booted booted).idleOk⟩
    · exact fun m a m' ok step => ⟨(step_cases ok.1 step).2, step_idleOk ok.1 ok.2 step⟩
  exact both.2

theorem Barren.unready {entering : Option Slot} (barren : Barren k) (ok : KernelOk L cfg k entering)
    (user : s ≠ slotIdle) : ¬ threadIsSelectable k (some s) := by
  have kind := (ok.threads s).kind
  rw [if_neg user] at kind
  rcases barren s user with state | state
  · simp [threadIsSelectable, kind, state]
  · simp [threadIsSelectable, kind, state]

theorem IdleOk.unready (idleOk : IdleOk m) (inv : Inv L cfg m)
    (current : m.kernel.current = some slotIdle) (user : s ≠ slotIdle) :
    ¬ threadIsSelectable m.kernel (some s) := by
  have barren := idleOk.current current
  cases inv with
  | running ok => exact barren.unready ok user
  | halted ok => exact barren.unready ok user

theorem step_remains (inv : Inv L cfg m) (idleOk : IdleOk m) (step : m.step L cfg a = some m')
    (idle : m.kernel.current = some slotIdle) : m'.kernel.current = some slotIdle := by
  cases step_steers inv step with
  | stays _ current | decides _ _ _ current => exact current.trans idle
  | @switches next _ _ phase current =>
      rw [current]
      by_contra other
      have user : next ≠ slotIdle := fun same => other (by rw [same])
      apply idleOk.unready inv idle user
      cases inv with
      | halted => cases phase
      | running _ phaseOk =>
          cases phase
          cases phaseOk with
          | switchFirst _ _ selectable | switch _ selectable => exact selectable

/-! ## Readiness -/

theorem PhaseOk.unstopped {phase : Phase} (ok : PhaseOk k phase) (user : s ≠ slotIdle)
    (alive : (k.threads s).user.state ≠ .dead) :
    (k.threads s).state = .runnable ∨ (k.threads s).state = .running := by
  have off (off : OffCpu s (k.threads s)) :
      (k.threads s).state = .runnable ∨ (k.threads s).state = .running := by
    simp only [OffCpu, user, if_false] at off
    rcases off with ⟨state, _⟩ | ⟨_, dead⟩
    · exact .inl state
    · exact absurd dead alive
  have active {t : Slot} (active : Active k t) :
      (k.threads s).state = .runnable ∨ (k.threads s).state = .running := by
    by_cases same : s = t
    · rw [same]
      exact .inr active.state
    · exact off (active.others s same)
  have returning {t : Slot} (returning : Returning k t) :
      (k.threads s).state = .runnable ∨ (k.threads s).state = .running := by
    by_cases same : s = t
    · rw [same]
      exact returning.state
    · exact off (returning.others s same)
  cases ok with
  | el0 here | currentCtx here | resume here => exact active here
  | pick leaving | switch leaving | wfi leaving => exact off (leaving.off user)
  | switchFirst _ all => exact off (all s)
  | enter here | cont here => exact returning here

theorem Inv.selectable_iff (inv : Inv L cfg m) (calm : ∀ p, m.phase ≠ .panic p)
    (user : s ≠ slotIdle) : threadIsSelectable m.kernel (some s) ↔
      (m.kernel.threads s).user.state ≠ .blocked ∧ (m.kernel.threads s).user.state ≠ .dead := by
  cases inv with
  | halted => exact absurd rfl (calm _)
  | @running k phase ok phaseOk =>
      have kind := (ok.threads s).kind
      rw [if_neg user] at kind
      by_cases dead : (k.threads s).user.state = .dead
      · simp [threadIsSelectable, kind, dead]
      · by_cases blocked : (k.threads s).user.state = .blocked
        · simp [threadIsSelectable, kind, blocked]
        · rcases phaseOk.unstopped user dead with state | state
          · simp [threadIsSelectable, kind, state, dead, blocked]
          · simp [threadIsSelectable, kind, state, dead, blocked]

theorem quiet_selectable (inv : Inv L cfg m) (untrapped : ∀ stores tf, a ≠ .trap stores tf)
    (user : s ≠ slotIdle) (step : m.step L cfg a = some m') :
    threadIsSelectable m'.kernel (some s) ↔ threadIsSelectable m.kernel (some s) := by
  have users := (quiet_moves inv untrapped step).users
  have calm := Machine.step_calm step
  obtain ⟨stepped, inv'⟩ := step_cases inv step
  cases stepped with
  | quiet _ _ panics =>
      have calm' (p : Panic) (here : m'.phase = .panic p) := calm p (panics p here)
      rw [inv.selectable_iff calm user, inv'.selectable_iff calm' user, ne_eq, ne_eq, users.blocked,
        users.dead]
  | back | away | outside => exact absurd rfl (untrapped _ _)

/-! ## Passes -/

/-- The most decisions that can pass over the task, as long as it stays ready. -/
def passRank (s : Slot) (m : Machine) : Nat :=
  (m.base.map fun c => (RoundRobin.passing userSlots c s).card).getD (userSlots.card - 1)

theorem passRank_le (user : s ≠ slotIdle) (m : Machine) : passRank s m ≤ userSlots.card - 1 := by
  unfold passRank
  cases m.base with
  | none => exact le_rfl
  | some c => exact RoundRobin.passing_card_le (mem_userSlots.mpr user)

def PassesOver (s : Slot) (m : Machine) (a : Action) : Prop :=
  m.decides a → threadIsSelectable m.kernel (some s) ∧ pickNextThread m.kernel ≠ .ok s

theorem step_passRank (inv : Inv L cfg m) (user : s ≠ slotIdle) (passes : PassesOver s m a)
    (step : m.step L cfg a = some m') :
    passRank s m' + (if m.decides a then 1 else 0) ≤ passRank s m := by
  cases step_steers inv step with
  | stays idle _ base => simp [passRank, idle, base]
  | switches idle phase _ base => simp [passRank, idle, base, Machine.base_switch phase]
  | @decides next r decides phase picked _ base =>
      obtain ⟨ready, other⟩ := passes decides
      obtain ⟨t, leaving⟩ := inv.leaving phase
      obtain ⟨next', picked', chooses⟩ :=
        pickNextThread_chooses (inv.kernelOk (Machine.step_calm step)) leaving
      cases picked.symm.trans picked'
      have here : m.base = some t := by
        unfold Machine.base
        rw [phase]
        exact leaving.current
      cases chooses with
      | idle _ none => exact absurd ready (none s user)
      | task elects =>
          have lower := elects.passes (mem_userSlots.mpr user) ready fun same => other (same ▸ picked)
          simp only [passRank, here, base, decides, if_true, Option.map_some, Option.getD_some]
          omega

/-! ## Runs -/

/-- What the scheduler does at a state, and from there on. -/
structure FairDecisions (L : Layout) (cfg : Config) (m : Machine) : Prop where
  chooses : ∀ r, m.phase = .pick r → ∃ c next, m.kernel.current = some c ∧
    pickNextThread m.kernel = .ok next ∧ Chooses m.kernel c next
  alone : ∀ r c, m.phase = .pick r → m.kernel.current = some c → pickNextThread m.kernel = .ok c →
    ∀ s, s ≠ slotIdle → threadIsSelectable m.kernel (some s) → s = c
  passes : ∀ s h m', s ≠ slotIdle → (kernelSystem L cfg).Path m h m' →
    (∀ p ∈ h, PassesOver s p.1 p.2) → (h.countP fun p => p.1.decides p.2) ≤ userSlots.card - 1
  rouses : ∀ s a m', s ≠ slotIdle → m.step L cfg a = some m' → (∀ stores tf, a ≠ .trap stores tf) →
    (threadIsSelectable m'.kernel (some s) ↔ threadIsSelectable m.kernel (some s))
  barren : m.kernel.current = some slotIdle → ∀ s, s ≠ slotIdle →
    ¬ threadIsSelectable m.kernel (some s)
  enters : ∀ r h m', m.phase = .switch slotIdle r → (kernelSystem L cfg).Path m h m' →
    m'.kernel.current = some slotIdle ∨ m'.phase = .switch slotIdle r ∧ ∀ p ∈ h, p.2 = .tick
  remains : ∀ h m', m.kernel.current = some slotIdle → (kernelSystem L cfg).Path m h m' →
    m'.kernel.current = some slotIdle

theorem run_fairDecisions (run : (kernelSystem L cfg).Run h m) : FairDecisions L cfg m := by
  have inv := run_inv run
  have idleOk := run_idleOk run
  have kept {h' : List (Machine × Action)} {m' : Machine} (path : (kernelSystem L cfg).Path m h' m') :
      Inv L cfg m' ∧ IdleOk m' := ⟨run_inv (run.extend path), run_idleOk (run.extend path)⟩
  have remains {h' : List (Machine × Action)} {m' : Machine} (path : (kernelSystem L cfg).Path m h' m')
      (idle : m.kernel.current = some slotIdle) : m'.kernel.current = some slotIdle := by
    induction path with
    | refl => exact idle
    | step path taken ih => exact step_remains (kept path).1 (kept path).2 taken ih
  have chosen {r : Resume} (phase : m.phase = .pick r) : ∃ c next, m.kernel.current = some c ∧
      pickNextThread m.kernel = .ok next ∧ Chooses m.kernel c next := by
    obtain ⟨t, leaving⟩ := inv.leaving phase
    obtain ⟨next, picked, chooses⟩ :=
      pickNextThread_chooses (inv.kernelOk (by rw [phase]; nofun)) leaving
    exact ⟨t, next, leaving.current, picked, chooses⟩
  refine ⟨fun r phase => chosen phase, ?_, fun s h' m' user path passes => ?_, ?_, ?_, ?_, ?_⟩
  · intro r c phase current picked s user ready
    obtain ⟨t, next, current', picked', chooses⟩ := chosen phase
    cases current.symm.trans current'
    cases picked.symm.trans picked'
    cases chooses with
    | task elects => exact elects.alone (mem_userSlots.mpr user) ready
    | idle _ none => exact absurd ready (none s user)
  · obtain ⟨_, bound⟩ := path.countP_le (Inv L cfg) (PassesOver s) Machine.decides (passRank s) inv
      (fun m a m' inv passes step => ⟨(step_cases inv step).2, step_passRank inv user passes step⟩)
      passes
    have most := passRank_le user m
    omega
  · exact fun s a m' user step untrapped => quiet_selectable inv untrapped user step
  · exact fun idle s user => idleOk.unready inv idle user
  · intro r h' m' phase path
    induction path with
    | refl => exact .inr ⟨phase, by simp⟩
    | @step h' m' a m'' path taken ih =>
        rcases ih with idle | ⟨here, ticks⟩
        · exact .inl (step_remains (kept path).1 (kept path).2 taken idle)
        · cases a with
          | trap stores tf =>
              obtain ⟨regs, el0, _⟩ := Machine.step_trap taken
              cases here.symm.trans el0
          | advance => exact .inl (advance_switch here taken).1
          | tick =>
              refine .inr ⟨(tick_phase taken).trans here, fun p member => ?_⟩
              · rcases List.mem_append.mp member with earlier | last
                · exact ticks p earlier
                · rw [List.mem_singleton.mp last]
  · exact fun h' m' idle path => remains path idle

theorem run_fairDecisions_call : ∃ m r, m.phase = .pick r ∧ pickNextThread m.kernel = .ok slotTaskB ∧
    FairDecisions .sample .sample m := by
  obtain ⟨m, r, ran, phase, picked⟩ : ∃ m r, runFromBoot .sample .sample
      (List.replicate 4 .advance ++
        [.trap [] (.svc sysIpcCall [1, el0SandboxBase, 4, el0SandboxBase, 4])]) = some m ∧
      m.phase = .pick r ∧ pickNextThread m.kernel = .ok slotTaskB := ⟨_, _, rfl, rfl, rfl⟩
  obtain ⟨h, run, _⟩ := runFromBoot_run ran
  exact ⟨m, r, phase, picked, run_fairDecisions run⟩

end ProtoOs
