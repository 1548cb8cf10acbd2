import ProtoOs.Kernel.Aggregate
import ProtoOs.Kernel.Uart

namespace ProtoOs

open Transition

variable {bytes rest : List UInt8} {s s' : UartState} {d : Pl011} {b c : UInt8}

def crlf (c : UInt8) : List UInt8 :=
  if c = Uart.newline then [Uart.carriageReturn, c] else [c]

/-! ## The accesses -/

theorem putc_eq : Uart.putc c = (crlf c).flatMap Uart.send := by
  unfold Uart.putc crlf
  split_ifs
  · simp
  · simp

theorem writeDirect_eq : Uart.writeDirect bytes = (bytes.flatMap crlf).flatMap Uart.send := by
  induction bytes with
  | nil => rfl
  | cons c bytes ih =>
      unfold Uart.writeDirect at ih ⊢
      rw [List.flatMap_cons, List.flatMap_cons, List.flatMap_append, ih, putc_eq]

theorem fr_full : d.fr &&& ((1 : UInt32) <<< 5) ≠ 0 ↔ d.full = true := by
  unfold Pl011.fr
  by_cases full : d.full <;> by_cases empty : d.queue = []
  all_goals simp only [full, empty, if_true, if_false]
  all_goals decide

theorem write_dr : d.write uartDr b.toUInt32 =
    if d.full then { d with lost := d.lost ++ [b] } else { d with queue := d.queue ++ [b] } := by
  unfold Pl011.write
  rw [if_pos rfl]
  simp

/-! ## The line -/

structure Pl011.Ready (d : Pl011) : Prop where
  divisor : d.divisor = (13, 1)
  line : d.lcrh = (3 : UInt32) <<< 5
  masked : d.imsc = 0
  on : d.cr = ((1 : UInt32) <<< 9) ||| ((1 : UInt32) <<< 8) ||| 1

theorem Pl011.Ready.transmits (ready : d.Ready) : d.transmits = true := by
  unfold Pl011.transmits Pl011.enabled
  rw [ready.on]
  decide

theorem Pl011.Ready.full_iff (ready : d.Ready) : d.full = true ↔ d.queue ≠ [] := by
  have depth : d.depth = 1 := by
    unfold Pl011.depth
    rw [ready.line]
    decide
  unfold Pl011.full
  rw [depth, decide_eq_true_iff]
  exact List.length_pos_iff

def Pl011.setup (d : Pl011) (n : Nat) : Pl011 :=
  (Uart.init.take n).foldl (fun d access =>
    match access with
    | .write address value => d.write address value
    | .await => d) d

theorem Pl011.setup_off (d : Pl011) {n : Nat} (started : 0 < n) (small : n < 7) :
    (d.setup n).enabled = false := by
  have cleared : (d.setup n).cr = 0 := by
    interval_cases n
    all_goals rfl
  unfold enabled
  rw [cleared]
  decide

theorem Pl011.setup_kept (d : Pl011) {n : Nat} (small : n ≤ 7) :
    (d.setup n).queue = d.queue ∧ (d.setup n).wire = d.wire ∧ (d.setup n).lost = d.lost ∧
      (d.setup n).misused = d.misused := by
  have ibrd : (d.setup 3).misused = d.misused := by
    show (d.misused || (d.setup 2).enabled) = _
    rw [d.setup_off (by decide) (by decide), Bool.or_false]
  have fbrd : (d.setup 4).misused = d.misused := by
    show ((d.setup 3).misused || (d.setup 3).enabled) = _
    rw [ibrd, d.setup_off (by decide) (by decide), Bool.or_false]
  have lcrh : (d.setup 5).misused = d.misused := by
    show ((d.setup 4).misused || (d.setup 4).enabled) = _
    rw [fbrd, d.setup_off (by decide) (by decide), Bool.or_false]
  interval_cases n
  · exact ⟨rfl, rfl, rfl, rfl⟩
  · exact ⟨rfl, rfl, rfl, rfl⟩
  · exact ⟨rfl, rfl, rfl, rfl⟩
  · exact ⟨rfl, rfl, rfl, ibrd⟩
  · exact ⟨rfl, rfl, rfl, fbrd⟩
  · exact ⟨rfl, rfl, rfl, lcrh⟩
  · exact ⟨rfl, rfl, rfl, lcrh⟩
  · exact ⟨rfl, rfl, rfl, lcrh⟩

theorem Pl011.setup_ready (d : Pl011) : (d.setup 7).Ready := by
  constructor
  all_goals rfl

theorem Pl011.setup_next (d : Pl011) {n : Nat} {address : UInt64} {value : UInt32}
    (next : Uart.init[n]? = some (.write address value)) :
    (d.setup n).write address value = d.setup (n + 1) := by
  unfold Pl011.setup
  rw [List.take_add_one, next, List.foldl_append]
  rfl

theorem init_next {n : Nat} (small : n < 7) : ∃ address value,
    Uart.init[n]? = some (.write address value) ∧
      Uart.init.drop n = .write address value :: Uart.init.drop (n + 1) := by
  interval_cases n
  all_goals exact ⟨_, _, rfl, rfl⟩

/-! ## The stages of the driver -/

/-- The driver sets up the line, or looks for room, or has found room for a byte. `rest` is what it
has still to write. -/
inductive UartStage (first : Pl011) (rest : List UInt8) : UartState → Prop
  | setup {n : Nat} (small : n < 7) :
      UartStage first rest ⟨Uart.init.drop n ++ rest.flatMap Uart.send, first.setup n⟩
  | seeks {d : Pl011} (ready : d.Ready) : UartStage first rest ⟨rest.flatMap Uart.send, d⟩
  | found {d : Pl011} {b : UInt8} {tail : List UInt8} (ready : d.Ready) (room : d.full = false)
      (same : rest = b :: tail) :
      UartStage first rest ⟨.write uartDr b.toUInt32 :: tail.flatMap Uart.send, d⟩

/-- What the wire has, what is queued and what is still to write make up the text. -/
structure Transmits (text : List UInt8) (first : Pl011) (s : UartState) (rest : List UInt8) :
    Prop where
  stage : UartStage first rest s
  order : s.device.wire ++ s.device.queue ++ rest = text
  kept : s.device.lost = []
  careful : s.device.misused = false

variable {text : List UInt8} {first : Pl011}

theorem Transmits.access (sends : Transmits text first s rest) (clean : first.lost = [])
    (proper : first.misused = false) (step : s.step .access = some s') : ∃ rest, Transmits text first s' rest := by
  obtain ⟨stage, order, kept, careful⟩ := sends
  cases stage with
  | @setup n small =>
      obtain ⟨address, value, next, code⟩ := init_next small
      simp only [UartState.step, code, List.cons_append, Option.some_inj] at step
      subst step
      rw [first.setup_next next]
      obtain ⟨queue, wire, lost, misused⟩ := first.setup_kept (show n + 1 ≤ 7 from small)
      obtain ⟨queue', wire', _, _⟩ := first.setup_kept (Nat.le_of_lt small)
      simp only [queue', wire'] at order
      refine ⟨rest, ?_, ?_, ?_, ?_⟩
      · rcases Nat.lt_or_eq_of_le (show n + 1 ≤ 7 from small) with more | last
        · exact .setup more
        · rw [last]
          exact .seeks first.setup_ready
      · simp only [queue, wire]
        exact order
      · exact lost.trans clean
      · exact misused.trans proper
  | @seeks d ready =>
      cases rest with
      | nil => cases step
      | cons b tail =>
          simp only [UartState.step, List.flatMap_cons, Uart.send, List.cons_append,
            List.nil_append] at step
          split_ifs at step with full
          · cases step
            exact ⟨b :: tail, .seeks ready, order, kept, careful⟩
          · cases step
            rw [fr_full, Bool.not_eq_true] at full
            exact ⟨b :: tail, .found ready full rfl, order, kept, careful⟩
  | @found d b tail ready room same =>
      subst same
      simp only [UartState.step, Option.some_inj, write_dr, room] at step
      subst step
      refine ⟨tail, .seeks ⟨ready.divisor, ready.line, ready.masked, ready.on⟩, ?_, kept, careful⟩
      simpa using order

theorem Transmits.transmit (sends : Transmits text first s rest) (quiet : first.queue = [])
    (step : s.step .transmit = some s') : Transmits text first s' rest := by
  obtain ⟨code, d⟩ := s
  simp only [UartState.step] at step
  split at step
  · cases step
  · rename_i b queue waiting
    split_ifs at step
    cases step
    obtain ⟨stage, order, kept, careful⟩ := sends
    refine ⟨?_, by simpa [waiting] using order, kept, careful⟩
    cases stage with
    | @setup n small =>
        have idle := (first.setup_kept (Nat.le_of_lt small)).1
        rw [idle, quiet] at waiting
        cases waiting
    | seeks ready => exact .seeks ⟨ready.divisor, ready.line, ready.masked, ready.on⟩
    | found ready room same =>
        have full := ready.full_iff.mpr (by rw [waiting]; simp)
        rw [room] at full
        cases full

theorem run_transmits {h : List (UartState × UartAction)} (run : (uartSystem bytes).Run h s) :
    ∃ first rest, first.queue = [] ∧ Transmits (bytes.flatMap crlf) first s rest := by
  have invariant : ∃ first rest, first.queue = [] ∧ first.lost = [] ∧ first.misused = false ∧
      Transmits (bytes.flatMap crlf) first s rest := by
    refine run.invariant (I := fun s => ∃ first rest, first.queue = [] ∧ first.lost = [] ∧
      first.misused = false ∧ Transmits (bytes.flatMap crlf) first s rest) ?_ ?_
    · rintro ⟨code, d⟩ ⟨rfl, quiet, fresh, clean, proper⟩
      refine ⟨d, bytes.flatMap crlf, quiet, clean, proper, ?_, by simp_all, clean, proper⟩
      rw [writeDirect_eq]
      exact .setup (n := 0) (by decide)
    · rintro s a s' ⟨first, rest, quiet, clean, proper, sends⟩ step
      cases a with
      | access =>
          obtain ⟨rest', sends'⟩ := sends.access clean proper step
          exact ⟨first, rest', quiet, clean, proper, sends'⟩
      | transmit => exact ⟨first, rest, quiet, clean, proper, sends.transmit quiet step⟩
  obtain ⟨first, rest, quiet, _, _, sends⟩ := invariant
  exact ⟨first, rest, quiet, sends⟩

theorem UartStage.done {first : Pl011} (stage : UartStage first rest s) (ended : s.code = []) :
    rest = [] ∧ s.device.Ready := by
  cases stage with
  | @setup n small =>
      have long : (Uart.init.drop n).length = 7 - n := List.length_drop
      rw [(List.append_eq_nil_iff.mp ended).1, List.length_nil] at long
      omega
  | seeks ready =>
      cases rest with
      | nil => exact ⟨rfl, ready⟩
      | cons b tail => cases ended
  | found => cases ended

/-- A newline, before a UART whose registers are all zero. -/
def powerOn : UartState where
  code := Uart.init ++ Uart.writeDirect [Uart.newline]
  device :=
    { ibrd := 0, fbrd := 0, lcrh := 0, cr := 0, imsc := 0, queue := [], wire := []
      divisor := (0, 0), lost := [], misused := false }

theorem run_newline : ∃ h s, (uartSystem [Uart.newline]).Run h s ∧ s.code = [] := by
  have start : (uartSystem [Uart.newline]).Run [] powerOn := .start ⟨rfl, rfl, rfl, rfl, rfl⟩
  have finishes : (System.replay UartState.step powerOn
      (List.replicate 10 .access ++ [.transmit, .access, .access])).map (·.code) = some [] := rfl
  obtain ⟨s, replayed, ended⟩ := Option.map_eq_some_iff.mp finishes
  obtain ⟨h, run, _⟩ := start.replay (fun _ _ _ step => step) replayed
  exact ⟨h, s, run, ended⟩

/-- However the driver and the UART take turns, no byte overruns the UART, the line is set up while
the UART is off, and what is sent and queued is the text up to where the driver is. -/
theorem uart_transmits {h : List (UartState × UartAction)} (run : (uartSystem bytes).Run h s) :
    s.device.lost = [] ∧ s.device.misused = false ∧
      s.device.wire ++ s.device.queue <+: bytes.flatMap crlf ∧
        (s.code = [] → s.device.Ready ∧ s.device.wire ++ s.device.queue = bytes.flatMap crlf) := by
  obtain ⟨first, rest, _, sends⟩ := run_transmits run
  refine ⟨sends.kept, sends.careful, ⟨rest, sends.order⟩, fun ended => ?_⟩
  obtain ⟨finished, ready⟩ := sends.stage.done ended
  have order := sends.order
  rw [finished, List.append_nil] at order
  exact ⟨ready, order⟩

theorem uart_transmits_newline : ∃ h s, (uartSystem [Uart.newline]).Run h s ∧
    s.device.lost = [] ∧ s.device.Ready ∧
    s.device.wire ++ s.device.queue = [Uart.carriageReturn, Uart.newline] := by
  obtain ⟨h, s, run, ended⟩ := run_newline
  obtain ⟨kept, _, _, sent⟩ := uart_transmits run
  exact ⟨h, s, run, kept, sent ended⟩

/-! ## Progress -/

/-- An access takes a place in the code, and a byte one in the queue later on. -/
def UartState.rank (s : UartState) : Nat := 2 * s.code.length + s.device.queue.length

theorem write_queue (address : UInt64) (value : UInt32) :
    (d.write address value).queue.length ≤ d.queue.length + 1 := by
  unfold Pl011.write
  split_ifs
  all_goals simp

theorem step_rank {a : UartAction} (step : s.step a = some s') :
    s' = s ∨ s'.rank + 1 ≤ s.rank := by
  obtain ⟨code, d⟩ := s
  cases a with
  | access =>
      cases code with
      | nil => cases step
      | cons next code =>
          cases next with
          | write address value =>
              cases step
              right
              have longer := write_queue (d := d) address value
              simp only [UartState.rank, List.length_cons]
              omega
          | await =>
              simp only [UartState.step] at step
              split_ifs at step
              · cases step
                exact .inl rfl
              · cases step
                right
                simp only [UartState.rank, List.length_cons]
                omega
  | transmit =>
      simp only [UartState.step] at step
      split at step
      · cases step
      · rename_i waiting
        split_ifs at step
        cases step
        right
        simp only [UartState.rank, waiting, List.length_cons]
        omega

theorem init_rank (first : (uartSystem bytes).init s) :
    s.rank = 14 + 4 * (bytes.flatMap crlf).length := by
  obtain ⟨code, quiet, _⟩ := first
  have sends (text : List UInt8) : (text.flatMap Uart.send).length = 2 * text.length := by
    induction text with
    | nil => rfl
    | cons b text ih =>
        rw [List.flatMap_cons, List.length_append, ih, List.length_cons]
        show 2 + _ = _
        omega
  rw [UartState.rank, code, quiet, writeDirect_eq, List.length_append, sends]
  show 2 * (7 + _) + 0 = _
  omega

theorem UartState.shorter {code code' : List UartAccess} {d' : Pl011}
    (shorter : code'.length < code.length) : (⟨code', d'⟩ : UartState) ≠ ⟨code, d⟩ := by
  intro same
  cases same
  exact Nat.lt_irrefl _ shorter

theorem Pl011.Ready.drains {code : List UartAccess} (ready : d.Ready) (waiting : d.queue ≠ []) :
    ∃ s', UartState.step ⟨code, d⟩ .transmit = some s' ∧ s' ≠ ⟨code, d⟩ := by
  obtain ⟨b, queue, holds⟩ := List.exists_cons_of_ne_nil waiting
  refine ⟨⟨code, { d with queue := queue, wire := d.wire ++ [b] }⟩, ?_, ?_⟩
  · simp only [UartState.step, holds, ready.transmits, if_true]
  · intro same
    have queues := congrArg (fun s => s.device.queue.length) same
    simp [holds] at queues

theorem UartStage.goes {first : Pl011} (stage : UartStage first rest s) :
    s.code = [] ∧ s.device.queue = [] ∨ ∃ a s', s.step a = some s' ∧ s' ≠ s := by
  cases stage with
  | @setup n small =>
      right
      obtain ⟨address, value, _, code⟩ := init_next small
      rw [code]
      exact ⟨.access, _, rfl, UartState.shorter (Nat.lt_succ_self _)⟩
  | @seeks d ready =>
      by_cases idle : d.queue = []
      · cases rest with
        | nil => exact .inl ⟨rfl, idle⟩
        | cons b tail =>
            right
            have room : ¬d.fr &&& ((1 : UInt32) <<< 5) ≠ 0 := by
              rw [fr_full, ready.full_iff]
              exact not_not.mpr idle
            exact ⟨.access, _, if_neg room, UartState.shorter (Nat.lt_succ_self _)⟩
      · right
        obtain ⟨s', taken, changed⟩ : ∃ s', UartState.step ⟨rest.flatMap Uart.send, d⟩ .transmit =
            some s' ∧ s' ≠ ⟨rest.flatMap Uart.send, d⟩ := ready.drains idle
        exact ⟨.transmit, s', taken, changed⟩
  | found => exact .inr ⟨.access, _, rfl, UartState.shorter (Nat.lt_succ_self _)⟩

/-- However the driver and the UART take turns, they make no more steps than these but for polls of
a full UART, and until all is sent one of them can. -/
theorem uart_completes {h : List (UartState × UartAction)} (run : (uartSystem bytes).Run h s) :
    (h.countP fun p => p.1.step p.2 ≠ some p.1) ≤ 14 + 4 * (bytes.flatMap crlf).length ∧
      (s.code = [] ∧ s.device.queue = [] ∧ s.device.wire = bytes.flatMap crlf ∨
        ∃ a s', s.step a = some s' ∧ s' ≠ s) := by
  constructor
  · suffices bound : s.rank + (h.countP fun p => p.1.step p.2 ≠ some p.1) ≤
        14 + 4 * (bytes.flatMap crlf).length by omega
    induction run with
    | start first =>
        rw [init_rank first]
        simp
    | @step h s a s' _ taken ih =>
        rw [List.countP_append, List.countP_singleton]
        rcases step_rank taken with same | lower
        · subst same
          have polls : s'.step a = some s' := taken
          simpa [polls] using ih
        · split_ifs <;> omega
  · obtain ⟨first, rest, _, sends⟩ := run_transmits run
    rcases sends.stage.goes with ⟨ended, idle⟩ | goes
    · left
      have sent := sends.order
      rw [idle, (sends.stage.done ended).1, List.append_nil, List.append_nil] at sent
      exact ⟨ended, idle, sent⟩
    · exact .inr goes

theorem uart_completes_newline : ∃ h s, (uartSystem [Uart.newline]).Run h s ∧
    (h.countP fun p => p.1.step p.2 ≠ some p.1) ≤ 22 ∧
    (s.device.queue = [] ∧ s.device.wire = [Uart.carriageReturn, Uart.newline] ∨
      ∃ a s', s.step a = some s' ∧ s' ≠ s) := by
  obtain ⟨h, s, run, _⟩ := run_newline
  obtain ⟨bounded, sent⟩ := uart_completes run
  exact ⟨h, s, run, bounded, sent.imp And.right id⟩

end ProtoOs
