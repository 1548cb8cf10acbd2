import ProtoOs.Kernel.Switching
import ProtoOs.Lib.Simulation
import ProtoOs.Proof.Context

namespace ProtoOs

open Aarch64 Transition Transition.System

variable {contexts : ThreadContexts} {c handled : Cpu} {s s' s₁ s₂ s₃ : Core} {t u : Option Slot}
  {start : Core → Prop} {h : List (Core × CoroutineAction (Option Slot))}

/-! ## `context_switch` -/

def live (c : Cpu) : Fin 13 → UInt64 := (calleeSaved c).get

def saved (contexts : ThreadContexts) (mem : Mem) (t : Option Slot) : Fin 13 → UInt64 :=
  slots 13 mem (contexts.address t)

theorem storeCallee_saves : slots 13 (runKernel storeCallee c).mem (c.x 0) = live c := by
  simp only [runKernel, storeCallee, List.foldl_cons, List.foldl_nil, KernelInstr.exec, Instr.exec,
    Cpu.setX, Cpu.store, Cpu.base]
  simp (disch := decide) only [slots_storeWord, Function.update_of_ne, Function.update_self]
  funext i
  fin_cases i
  all_goals rfl

theorem storeCallee_other (old : c.x 0 = contexts.address t) (other : t ≠ u) :
    saved contexts (runKernel storeCallee c).mem u = saved contexts c.mem u := by
  simp only [saved, runKernel, storeCallee, List.foldl_cons, List.foldl_nil, KernelInstr.exec,
    Instr.exec, Cpu.setX, Cpu.store, Cpu.base]
  simp (disch := decide) only [Function.update_of_ne, old]
  simp (disch := first | decide | exact other) only [Areas.slots_storeWord_other]

theorem loadCallee_live : live (runKernel loadCallee c) = slots 13 c.mem (c.x 1) := by
  funext i
  fin_cases i
  all_goals rfl

theorem contextSwitchCode_eq :
    runKernel contextSwitchCode c = runKernel loadCallee (runKernel storeCallee c) := by
  rw [contextSwitchCode, runKernel, List.foldl_append]
  rfl

theorem contextSwitchCode_live (old : c.x 0 = contexts.address t) (new : c.x 1 = contexts.address u)
    (other : t ≠ u) : live (runKernel contextSwitchCode c) = saved contexts c.mem u := by
  have next : (runKernel storeCallee c).x 1 = contexts.address u := new
  rw [contextSwitchCode_eq, loadCallee_live, next]
  exact storeCallee_other old other

theorem contextSwitchCode_saved (old : c.x 0 = contexts.address t) :
    saved contexts (runKernel contextSwitchCode c).mem =
      Function.update (saved contexts c.mem) t (live c) := by
  have kept : (runKernel contextSwitchCode c).mem = (runKernel storeCallee c).mem := by
    rw [contextSwitchCode_eq]
    rfl
  funext v
  rw [kept]
  by_cases same : v = t
  · subst same
    rw [Function.update_self, saved, ← old]
    exact storeCallee_saves
  · rw [Function.update_of_ne same]
    exact storeCallee_other old (Ne.symm same)

/-! ## Interrupts -/

theorem el1hIrqEntry_slots : slots 36 (runKernel el1hIrqEntry c).mem (c.sp - .ofNat frameSize) =
    (List.ofFn c.x ++ [c.sp - .ofNat frameSize + .ofNat frameSize, c.sys .elrEl1, c.sys .spsrEl1,
      c.sys .esrEl1, c.sys .farEl1]).get := by
  simp only [runKernel, el1hIrqEntry, saveContext, List.cons_append, List.nil_append, List.foldl_cons,
    List.foldl_nil, KernelInstr.exec, Instr.exec, Cpu.setX, Cpu.store, Cpu.base]
  simp (disch := decide) only [slots_storeWord]
  funext i
  fin_cases i
  all_goals rfl

theorem OnStack.store {off : Nat} {mem : Mem} {v : UInt64} (stack : OnStack contexts c)
    (whole : off % 8 = 0) (below : off / 8 < 36) :
    saved contexts (storeWord (c.sp - .ofNat frameSize + .ofNat off) v mem) t =
      saved contexts mem t := by
  have room : 288 ≤ c.sp.toNat := stack.room
  have pushed : (c.sp - .ofNat frameSize).toNat = c.sp.toNat - 288 :=
    UInt64.toNat_sub_of_le _ _ (UInt64.le_iff_toNat_le.mpr room)
  have top := c.sp.toNat_lt
  have fits : (c.sp - .ofNat frameSize).toNat + 8 * 36 ≤ 2 ^ 64 := by omega
  have place := toNat_offset fits below
  rw [show 8 * (off / 8) = off by omega, pushed] at place
  have aligned := stack.aligned
  apply slots_storeWord_outside (contexts.room t) (contexts.aligned t)
  · rw [place]
    omega
  · rw [place]
    have frame : frameSize = 288 := rfl
    rcases stack.apart t with above | below'
    · left
      omega
    · right
      omega

theorem el1hIrqEntry_saved (stack : OnStack contexts c) :
    saved contexts (runKernel el1hIrqEntry c).mem t = saved contexts c.mem t := by
  simp only [runKernel, el1hIrqEntry, saveContext, List.cons_append, List.nil_append, List.foldl_cons,
    List.foldl_nil, KernelInstr.exec, Instr.exec, Cpu.setX, Cpu.store, Cpu.base]
  simp (disch := first | decide | exact stack) only [OnStack.store]

theorem restoreContext_x (i : Fin 31) :
    (run restoreContext c).x i = loadWord c.mem (c.sp + .ofNat (8 * i.val)) := by
  fin_cases i
  all_goals rfl

theorem restoreContext_keeps : (run restoreContext c).mem = c.mem ∧
    (run restoreContext c).sp = c.sp + .ofNat frameSize ∧
      (run restoreContext c).sys .spEl0 = c.sys .spEl0 :=
  ⟨rfl, rfl, rfl⟩

theorem el1hIrqEntry_keeps : (runKernel el1hIrqEntry c).sp = c.sp - .ofNat frameSize ∧
    (runKernel el1hIrqEntry c).sys .spEl0 = c.sys .spEl0 :=
  ⟨rfl, rfl⟩

theorem interrupt_kept (stack : OnStack contexts c)
    (handles : Handles contexts (runKernel el1hIrqEntry c) handled) :
    (run restoreContext handled).x = c.x ∧ (run restoreContext handled).sp = c.sp ∧
      (run restoreContext handled).sys .spEl0 = c.sys .spEl0 ∧
        saved contexts (run restoreContext handled).mem = saved contexts c.mem := by
  obtain ⟨mem, top, spEl0⟩ := restoreContext_keeps (c := handled)
  obtain ⟨pushed, spEl0'⟩ := el1hIrqEntry_keeps (c := c)
  have sp : handled.sp = c.sp - .ofNat frameSize := handles.sp.trans pushed
  refine ⟨?_, ?_, ?_, ?_⟩
  · have slots_ := handles.frame
    rw [pushed, el1hIrqEntry_slots, ← sp] at slots_
    have frame : Holds handled.mem handled.sp (List.ofFn c.x ++ [handled.sp + .ofNat frameSize,
        c.sys .elrEl1, c.sys .spsrEl1, c.sys .esrEl1, c.sys .farEl1]) := holds_iff_slots.mpr slots_
    funext i
    rw [restoreContext_x]
    exact frame.array i
  · rw [top, sp]
    exact UInt64.sub_add_cancel c.sp (.ofNat frameSize)
  · rw [spEl0, handles.spEl0, spEl0']
  · funext t
    rw [mem]
    exact (handles.contexts t).trans (el1hIrqEntry_saved stack)

/-! ## Coroutines -/

structure Represents (contexts : ThreadContexts) (s : Core)
    (r : Coroutines (Option Slot) (Fin 13 → UInt64)) : Prop where
  current : r.current = s.current
  running : r.file s.current = live s.cpu
  others : ∀ t, t ≠ s.current → r.file t = saved contexts s.cpu.mem t

theorem live_congr {c' : Cpu} (x : c'.x = c.x) (sp : c'.sp = c.sp) : live c' = live c := by
  cases c
  cases c'
  cases x
  cases sp
  rfl

theorem Represents.interrupt {c' : Cpu} {r : Coroutines (Option Slot) (Fin 13 → UInt64)}
    (represents : Represents contexts s r) (x : c'.x = s.cpu.x) (sp : c'.sp = s.cpu.sp)
    (kept : saved contexts c'.mem = saved contexts s.cpu.mem) :
    Represents contexts ⟨Cpu.eretEl1 c', s.current⟩ r where
  current := represents.current
  running := represents.running.trans (live_congr x sp).symm
  others t other := (represents.others t other).trans (congrFun kept t).symm

theorem Represents.switch {c' : Cpu} {r : Coroutines (Option Slot) (Fin 13 → UInt64)}
    (represents : Represents contexts s r) (other : t ≠ s.current)
    (entered : live c' = saved contexts s.cpu.mem t)
    (left : saved contexts c'.mem = Function.update (saved contexts s.cpu.mem) s.current (live s.cpu)) :
    Represents contexts ⟨c', t⟩ ⟨t, r.file⟩ where
  current := rfl
  running := (represents.others t other).trans entered.symm
  others u away := by
    show r.file u = saved contexts c'.mem u
    rw [left]
    by_cases same : u = s.current
    · subst same
      rw [Function.update_self]
      exact represents.running
    · rw [Function.update_of_ne same]
      exact represents.others u same

theorem step_represents {a : CoroutineAction (Option Slot)}
    {r : Coroutines (Option Slot) (Fin 13 → UInt64)} (represents : Represents contexts s r)
    (step : s.Step contexts a s') : ∃ r', r.Step a r' ∧ Represents contexts s' r' := by
  cases step with
  | @work cpu kept =>
      obtain ⟨current, file⟩ := r
      obtain ⟨rfl, running, others⟩ := represents
      refine ⟨⟨s.current, Function.update file s.current (live cpu)⟩, .work ?_, rfl, ?_, ?_⟩
      · intro t other
        exact Function.update_of_ne other _ _
      · exact Function.update_self ..
      · intro t other
        exact (Function.update_of_ne other _ _).trans ((others t other).trans (kept t other).symm)
  | @interrupt sys handled enabled stack taken handles =>
      have pushed : OnStack contexts { s.cpu with sys := sys, irqMasked := true } :=
        ⟨stack.aligned, stack.room, stack.apart⟩
      obtain ⟨x, sp, _, kept⟩ := interrupt_kept pushed handles
      exact ⟨r, .interrupt, represents.interrupt x sp kept⟩
  | @switch t other old new =>
      exact ⟨⟨t, r.file⟩, .switch, represents.switch other
        (contextSwitchCode_live old new (Ne.symm other)) (contextSwitchCode_saved old)⟩

def files (contexts : ThreadContexts) (s : Core) : Coroutines (Option Slot) (Fin 13 → UInt64) :=
  ⟨s.current, Function.update (saved contexts s.cpu.mem) s.current (live s.cpu)⟩

theorem represents_files : Represents contexts s (files contexts s) :=
  ⟨rfl, Function.update_self .., fun _ other => Function.update_of_ne other ..⟩

theorem core_simulation : Simulation (coreSystem contexts start)
    (coroutines fun r => ∃ s, start s ∧ r = files contexts s) (Represents contexts)
    fun _ a b => a = b where
  start s first := ⟨files contexts s, ⟨s, first, rfl⟩, represents_files⟩
  step _ _ a _ related step := by
    obtain ⟨r', step', related'⟩ := step_represents related step
    exact ⟨a, r', rfl, step', related'⟩

theorem absent_of_follows {h' : List (Coroutines (Option Slot) (Fin 13 → UInt64) ×
      CoroutineAction (Option Slot))}
    (follows : Simulation.Follows (Represents contexts) (fun _ a b => a = b) h h')
    (absent : ∀ p ∈ h, p.1.current ≠ t) : ∀ q ∈ h', q.1.current ≠ t := by
  induction follows with
  | nil => simp
  | @cons p q h h' first _ ih =>
      have rest := ih fun p member => absent p (List.mem_cons_of_mem _ member)
      intro p' member
      rcases List.mem_cons.mp member with rfl | later
      · rw [first.1.current]
        exact absent p List.mem_cons_self
      · exact rest p' later

/-- A thread that switched away is switched back to with the callee-saved registers, the stack pointer
and the return address of its call, whatever ran and whatever was interrupted in between. -/
theorem switch_returns (away : s.Step contexts (.switch u) s₁)
    (path : (coreSystem contexts start).Path s₁ h s₂) (absent : ∀ p ∈ h, p.1.current ≠ s.current)
    (back : s₂.Step contexts (.switch s.current) s₃) :
    calleeSaved s₃.cpu = calleeSaved s.cpu ∧ s₃.cpu.irqMasked = false := by
  obtain ⟨r₁, left, related₁⟩ := step_represents (r := files contexts s) represents_files away
  obtain ⟨h', r₂, path', related₂, follows⟩ := core_simulation.path related₁ path
  obtain ⟨r₃, returned, related₃⟩ := step_represents related₂ back
  have kept := Coroutines.path_file path' (absent_of_follows follows absent)
  have here : s₃.current = s.current := related₃.current.symm.trans returned.current_of_switch
  constructor
  · have file : live s₃.cpu = live s.cpu := calc
      live s₃.cpu = r₃.file s.current := here ▸ related₃.running.symm
      _ = r₂.file s.current := congrFun returned.file_of_switch _
      _ = r₁.file s.current := kept
      _ = (files contexts s).file s.current := congrFun left.file_of_switch _
      _ = live s.cpu := Function.update_self ..
    exact List.ext_get rfl fun i below _ => congrFun file ⟨i, below⟩
  · cases back
    rfl

theorem callSwitch_called (t u : Option Slot) (lr : UInt64) (mem : Mem) : (callSwitch t u lr mem).x 0 = contextAddress t ∧
    (callSwitch t u lr mem).x 1 = contextAddress u ∧ (callSwitch t u lr mem).mem = mem :=
  ⟨rfl, rfl, rfl⟩

theorem switch_returns_round : ∃ s₁ s₂ s₃ : Core,
    Core.Step sampleContexts ⟨callSwitch none (some slotTaskA) 3 fun _ => 0, none⟩
      (.switch (some slotTaskA)) s₁ ∧ s₁.Step sampleContexts .work s₂ ∧
      s₂.Step sampleContexts (.switch none) s₃ ∧
      calleeSaved s₃.cpu = calleeSaved (callSwitch none (some slotTaskA) 3 fun _ => 0) := by
  have apart : some slotTaskA ≠ none := by simp
  obtain ⟨old, new, _⟩ := callSwitch_called none (some slotTaskA) 3 fun _ => 0
  generalize callSwitch none (some slotTaskA) 3 (fun _ => 0) = c at old new ⊢
  obtain ⟨old', new', mem⟩ := callSwitch_called (some slotTaskA) none 7
    (runKernel contextSwitchCode c).mem
  generalize callSwitch (some slotTaskA) none 7 (runKernel contextSwitchCode c).mem = c' at old' new' mem
  have away : Core.Step sampleContexts ⟨c, none⟩ (.switch (some slotTaskA)) _ := .switch apart old new
  have works : Core.Step sampleContexts ⟨runKernel contextSwitchCode c, some slotTaskA⟩ .work
      ⟨c', some slotTaskA⟩ := .work fun _ _ => by rw [mem]
  have back : Core.Step sampleContexts ⟨c', some slotTaskA⟩ (.switch none) _ :=
    .switch (Ne.symm apart) old' new'
  have path : (coreSystem sampleContexts fun _ => True).Path _ _ _ := .step .refl works
  exact ⟨_, _, _, away, works, back, (switch_returns away path (by simp) back).1⟩

end ProtoOs
