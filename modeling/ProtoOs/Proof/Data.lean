import ProtoOs.Proof.Control

/-!
# Invariants of the kernel's data

A property of the endpoints, the supervisor's slots and the history is kept by a run if it is kept
by the effects of a trap and by the transitions of a death. `fine` is what is asked of each trap.
-/

namespace ProtoOs

variable {L : Layout} {cfg : Config} {k k' : Kernel} {m m' : Machine} {t : Slot} {a : Action}
  {fine : Kernel → Slot → TrapFrame → Prop} {J : Kernel → Prop}

/-- Two kernels that differ at most in threads, memory, counters and output. -/
structure SameData (k k' : Kernel) : Prop where
  endpoints : k'.endpoints = k.endpoints
  pendingDeath : k'.pendingDeathSlot = k.pendingDeathSlot
  supervisor : k'.blockedSupervisorSlot = k.blockedSupervisorSlot
  log : k'.log = k.log
  accesses : k'.accesses = k.accesses

theorem Quiet.sameData (quiet : Quiet k k') : SameData k k' :=
  ⟨quiet.endpoints, quiet.pendingDeath, quiet.supervisor, quiet.log, quiet.accesses⟩

structure DataInvariant (L : Layout) (cfg : Config) (fine : Kernel → Slot → TrapFrame → Prop)
    (J : Kernel → Prop) : Prop where
  start : ∀ mem m, Booted L cfg mem m → J m.kernel
  congr : ∀ k k', SameData k k' → J k → J k'
  effect : ∀ k t tf k₁ o, KernelOk L cfg k none → Active k t → fine k t tf → J k →
    Effect cfg k t tf k₁ o → J k₁
  died : ∀ k (t : Slot), J k → J (k.record [.died t.u32])
  abort : ∀ k (t : Slot) e (s : Slot), KernelOk L cfg k none → .died t.u32 ∈ k.log →
    (k.endpoints e).ownerSlot = t.u32 → (k.endpoints e).blockedCallerSlot = s.i32 →
      J k → J (k.abortCaller e s)
  noted : ∀ k t k₁, KernelOk L cfg k none → Noted t k k₁ → J k → J k₁

namespace DataInvariant

theorem aborts {k₁ : Kernel} (data : DataInvariant L cfg fine J) (aborts : Aborts t k k₁)
    (ok : KernelOk L cfg k none) (leaving : Leaving k t) (died : .died t.u32 ∈ k.log)
    (before : J k) : J k₁ := by
  suffices after : J k₁ ∧ .died t.u32 ∈ k₁.log from after.1
  induction aborts with
  | refl => exact ⟨before, died⟩
  | @abort k' e s earlier owner waiting _ ih =>
      refine ⟨data.abort k' t e s (earlier.keeps ok leaving).1 ih.2 owner waiting ih.1, ?_⟩
      simp [Kernel.abortCaller, ih.2]

theorem left {k₁ : Kernel} {reason : TaskReturnReason} (data : DataInvariant L cfg fine J)
    (left : Left k t reason k₁)
    (ok : KernelOk L cfg k (if reason = .ipcBlock ∨ reason = .notifyBlock then some t else none))
    (active : Active k t) (before : J k) : J k₁ := by
  cases left with
  | yield => exact data.congr k _ ⟨rfl, rfl, rfl, rfl, rfl⟩ before
  | block => exact data.congr k _ ⟨rfl, rfl, rfl, rfl, rfl⟩ before
  | @death k₁ _ dies _ _ aborts _ noted =>
      obtain ⟨dying, leaving⟩ := active.dies dies ok
      have emitted : J (k.emit (exitPrint k t reason)) :=
        data.congr k _ ⟨rfl, rfl, rfl, rfl, rfl⟩ before
      have marked : J ((k.emit (exitPrint k t reason)).dying t) :=
        data.congr ((k.emit (exitPrint k t reason)).record [.died t.u32]) _ ⟨rfl, rfl, rfl, rfl, rfl⟩ (data.died _ t emitted)
      exact data.noted k₁ t _ (aborts.keeps dying leaving).1 noted
        (data.aborts aborts dying leaving (by simp [Kernel.dying]) marked)

theorem step (data : DataInvariant L cfg fine J) (inv : Inv L cfg m) (before : J m.kernel)
    (allowed : ∀ stores tf t, a = .trap stores tf → m.kernel.current = some t →
      fine (m.kernel.setMem (userStores stores m.kernel.mem)) t tf)
    (step : m.step L cfg a = some m') : J m'.kernel := by
  have after {stores : List (SandboxAddress × UInt8)} {tf : TrapFrame} {t : Slot}
      {regs : UserTaskCtx} {k₁ : Kernel} {o : Outcome} (isTrap : a = .trap stores tf)
      (phase : m.phase = .el0 regs) (active : Active m.kernel t)
      (effect : Effect cfg (m.kernel.setMem (userStores stores m.kernel.mem)) t tf k₁ o) :
      J k₁ ∧ KernelOk L cfg k₁ (o.registering t) ∧ Active k₁ t := by
    have ok := (inv.active phase).1.setMem (userStores stores m.kernel.mem)
    have stored : Active (m.kernel.setMem (userStores stores m.kernel.mem)) t :=
      active.congr rfl rfl rfl
    exact ⟨data.effect _ t tf k₁ o ok stored (allowed stores tf t isTrap active.current)
      (data.congr m.kernel _ ⟨rfl, rfl, rfl, rfl, rfl⟩ before) effect, effect.keeps ok stored⟩
  cases (step_cases inv step).1 with
  | quiet _ quiet => exact data.congr m.kernel _ quiet.sameData before
  | back phase active _ effect => exact (after rfl phase active effect).1
  | @away stores tf t _ k₁ k₂ reason phase active _ effect inside left =>
      obtain ⟨after₁, ok₁, active₁⟩ := after rfl phase active effect
      rw [effect.registering_eq.2] at ok₁
      have saved : J (k₁.saveFrame t tf reason) :=
        data.congr k₁ _ ⟨rfl, rfl, rfl, rfl, rfl⟩ after₁
      have after₂ : J k₂ := data.left left (ok₁.saveFrame inside) active₁.saveFrame saved
      exact data.congr k₂ _ ⟨rfl, rfl, rfl, rfl, rfl⟩ after₂
  | outside phase active _ effect _ => exact (after rfl phase active effect).1

/-- An invariant that asks nothing of the traps. -/
theorem run (data : DataInvariant L cfg (fun _ _ _ => True) J) {h : List (Machine × Action)}
    (run : (kernelSystem L cfg).Run h m) : J m.kernel := by
  refine (run.invariant (I := fun m => Inv L cfg m ∧ J m.kernel) ?_ ?_).2
  · rintro m ⟨mem, booted⟩
    exact ⟨(boot_booted booted).inv, data.start mem m (boot_booted booted)⟩
  · rintro m a m' ⟨inv, before⟩ step
    exact ⟨(step_cases inv step).2, data.step inv before (fun _ _ _ _ _ => trivial) step⟩

end DataInvariant

/-! ## What the way to the scheduler leaves -/

variable {k₁ : Kernel} {tf : TrapFrame} {o : Outcome} {reason : TaskReturnReason}

theorem Noted.endpoints (noted : Noted t k k₁) : k₁.endpoints = k.endpoints := by
  cases noted with
  | woke | kept | overwrote => rfl

theorem Aborts.mem (aborts : Aborts t k k₁) : k₁.mem = k.mem := by
  induction aborts with
  | refl => rfl
  | abort _ _ _ _ ih => exact ih

theorem Left.mem (left : Left k t reason k₁) : k₁.mem = k.mem := by
  cases left with
  | yield | block => rfl
  | death _ _ _ aborts _ noted =>
      have same := aborts.mem
      cases noted with
      | woke | kept | overwrote => exact same

/-! ## The output -/

/-- What a step prints: the bytes of a write, or text of the kernel. -/
inductive Prints (mem : Memory) (tf : TrapFrame) : List UartCall → Prop
  | text {calls : List UartCall} (text : KernelText calls) : Prints mem tf calls
  | write (asks : Asks tf sysWrite) : Prints mem tf [.write (readBytes mem (tf.x 0) (tf.x 1))]

theorem faultReport_text {name : Option String} : KernelText (faultReport cfg name tf) := by
  unfold faultReport
  split
  · simp [KernelText]
  · simp [KernelText]

theorem exitPrint_text : KernelText (exitPrint k t reason) := by
  unfold exitPrint
  split
  · simp [KernelText, exitReport]
  · exact .nil

theorem Effect.uart (effect : Effect cfg k t tf k₁ o) :
    ∃ calls, k₁.uart = k.uart ++ calls ∧ Prints k.mem tf calls ∧
      ∀ reason, o = .away reason → KernelText calls := by
  cases effect with
  | refused | ticks | yield | exit | park | handOver | take | listen | answer | report | await
  | restart => exact ⟨[], (List.append_nil _).symm, .text .nil, fun _ _ => .nil⟩
  | write asks => exact ⟨_, rfl, .write asks, by nofun⟩
  | fault => exact ⟨_, rfl, .text faultReport_text, fun _ _ => faultReport_text⟩

theorem Aborts.uart (aborts : Aborts t k k₁) : k₁.uart = k.uart := by
  induction aborts with
  | refl => rfl
  | abort _ _ _ _ ih => exact ih

theorem Left.uart (left : Left k t reason k₁) :
    ∃ calls, k₁.uart = k.uart ++ calls ∧ KernelText calls := by
  cases left with
  | yield | block => exact ⟨[], (List.append_nil _).symm, .nil⟩
  | @death k₁ _ _ _ _ aborts _ noted =>
      have printed : k₁.uart = k.uart ++ exitPrint k t reason := aborts.uart
      cases noted with
      | woke | kept | overwrote => exact ⟨_, printed, exitPrint_text⟩

/-- The calls of the UART driver in a step. -/
inductive Output (m : Machine) : Action → List UartCall → Prop
  | text {a : Action} {calls : List UartCall} (text : KernelText calls) : Output m a calls
  | trap {stores : List (SandboxAddress × UInt8)} {tf : TrapFrame} {calls : List UartCall}
      (prints : Prints (m.trapped stores).mem tf calls) : Output m (.trap stores tf) calls

theorem step_uart (inv : Inv L cfg m) (step : m.step L cfg a = some m') :
    ∃ calls, m'.kernel.uart = m.kernel.uart ++ calls ∧ Output m a calls := by
  cases (step_cases inv step).1 with
  | quiet _ quiet =>
      obtain ⟨calls, printed, text⟩ := quiet.uart
      exact ⟨calls, printed, .text text⟩
  | back _ _ _ effect | outside _ _ _ effect =>
      obtain ⟨calls, printed, prints, _⟩ := effect.uart
      exact ⟨calls, printed, .trap prints⟩
  | away _ _ _ effect _ left =>
      obtain ⟨calls, printed, _, text⟩ := effect.uart
      obtain ⟨calls', printed', text'⟩ := left.uart
      exact ⟨calls ++ calls', by rw [← List.append_assoc]; exact printed'.trans (congrArg (· ++ calls') printed),
        .text ((text _ rfl).append text')⟩

end ProtoOs
