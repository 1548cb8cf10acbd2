import ProtoOs.Proof.PageTables

namespace ProtoOs

open Aarch64 Translation

variable {tables : TableMap} {r r' : Regime} {va : UInt64} {mem : Mem}

def TableMap.Guards (tables : TableMap) (a : UInt64) : Prop :=
  ∃ t, ∃ i < 4096, a = tables.address t + .ofNat i

/-- The linker puts `.bss` before the sandbox. -/
def TableMap.Linked (tables : TableMap) : Prop :=
  ∀ t, (tables.address t).toNat + 4096 ≤ el0SandboxBase.toNat

instance kernelWindowDecidable (va : UInt64) : Decidable (InKernelWindow va) :=
  inferInstanceAs (Decidable (_ ∧ _))

instance mmioDecidable (va : UInt64) : Decidable (InMmio va) :=
  inferInstanceAs (Decidable (_ ∧ _ ∨ _ ∧ _))

def isolationMap (va : UInt64) : Answer :=
  if InKernelWindow va then .granted (normalMapping va (InSandbox va))
  else if InMmio va then .granted (deviceMapping va)
  else .fault

/-- `mmu_init`, started with the MMU off, and then any stores but of the kernel to the tables. -/
def mmuSystem (tables : TableMap) : Transition.System Regime Regime.Event :=
  Regime.system tables.Guards fun r => ∃ before top, before.enabled = false ∧
    bit before.sctlr 19 = false ∧ bit before.sctlr 25 = false ∧ mmuInit tables top before = .ok r

structure Isolated (tables : TableMap) (r : Regime) : Prop where
  walks : ∀ va, r.translate va = isolationMap va
  cached : ∀ va m, (va, m) ∈ r.tlb → isolationMap va = .granted m
  again : ∀ top, mmuInit tables top r = .ok r

/-! ## The walk stays within the tables -/

theorem TableMap.guards_word {t : PageTable} {j : UInt64} (inside : j.toNat < 512) {i : Nat}
    (small : i < 8) : tables.Guards (bytesAt (tables.address t + 8 * j) i) := by
  refine ⟨t, 8 * j.toNat + i, by omega, ?_⟩
  have word : 8 * j = .ofNat (8 * j.toNat) := by
    rw [UInt64.ofNat_mul, UInt64.ofNat_toNat]
    rfl
  rw [word, bytesAt_offset]

theorem TableMap.next_built {n : Nat}
    (table : bit (tables.built .l1 n) 0 && bit (tables.built .l1 n) 1) :
    ∃ t, t ≠ .l1 ∧ nextTable (tables.built .l1 n) = tables.address t := by
  unfold built at table ⊢
  simp only at table ⊢
  split_ifs at table ⊢
  · exact ⟨.l2Kernel, by decide, (tables.pointsTo .l2Kernel).next⟩
  · exact ⟨.l2Low, by decide, (tables.pointsTo .l2Low).next⟩
  · cases table

theorem TableMap.reads_built {a : UInt64} (reads_ : a ∈ reads (buildIdentityMap tables
      (clearTables tables mem)) (tables.address .l1) va) :
    ∃ t, ∃ j : UInt64, j.toNat < 512 ∧ a = tables.address t + 8 * j := by
  have small (shift : UInt64) (below : shift.toNat < 64) : (index va shift).toNat < 512 := by
    rw [index_toNat below]
    exact Nat.mod_lt _ (by decide)
  have small₁ := small 30 (by decide)
  have first : loadWord (buildIdentityMap tables (clearTables tables mem))
      (tables.address .l1 + 8 * index va 30) = tables.built .l1 (index va 30).toNat :=
    entry_built small₁
  unfold reads at reads_
  simp only [tables.base, first] at reads_
  by_cases table : bit (tables.built .l1 (index va 30).toNat) 0 &&
      bit (tables.built .l1 (index va 30).toNat) 1
  · obtain ⟨t, second, next⟩ := next_built table
    have small₂ := small 21 (by decide)
    have held : loadWord (buildIdentityMap tables (clearTables tables mem))
        (tables.address t + 8 * index va 21) = tables.built t (index va 21).toNat :=
      entry_built small₂
    simp only [table, next, held, built_block second, Bool.and_false, if_true] at reads_
    rcases List.mem_cons.mp reads_ with rfl | reads_
    · exact ⟨.l1, index va 30, small₁, rfl⟩
    · rw [List.mem_singleton.mp reads_]
      exact ⟨t, index va 21, small₂, rfl⟩
  · rw [if_neg table] at reads_
    rw [List.mem_singleton.mp reads_]
    exact ⟨.l1, index va 30, small₁, rfl⟩

/-! ## The map -/

theorem bit_testBit {d i : UInt64} (small : i.toNat < 64) : bit d i = d.toNat.testBit i.toNat := by
  rw [bit_eq small, Nat.testBit_eq_decide_div_mod_eq]

theorem bit_or {d d' i : UInt64} (small : i.toNat < 64) :
    bit (d ||| d') i = (bit d i || bit d' i) := by
  rw [bit_testBit small, bit_testBit small, bit_testBit small, UInt64.toNat_or, Nat.testBit_or]

theorem tcr_covered {sctlr : UInt64} (wxn : bit sctlr 19 = false) (endian : bit sctlr 25 = false) :
    Covered sctlr tcr := by
  refine ⟨by simp [wxn], by simp [endian], ?_⟩
  decide

theorem TableMap.walk_eq {sctlr : UInt64} (covered : Covered sctlr tcr) :
    answer sctlr tcr va (tables.walk mem va) = isolationMap va := by
  have closed : bit tcr 23 = true := by decide
  have opened : bit tcr 7 = false := by decide
  have low (small : va.toNat < 2 ^ 31) : bit va 55 = false := by
    rw [bit_eq (by decide), Nat.div_eq_of_lt]
    · rfl
    · exact small.trans (by decide)
  unfold answer isolationMap
  rw [if_neg (not_not.mpr covered)]
  by_cases window : InKernelWindow va
  · have inside := inKernelWindow_iff.mp window
    rw [low (by omega), walk_window window, opened, if_pos window]
    simp
  · by_cases mmio : InMmio va
    · have inside := inMmio_iff.mp mmio
      rw [low (by omega), walk_mmio mmio, opened, if_neg window, if_pos mmio]
      simp
    · rw [walk_unmapped (by simp [window, mmio]), closed, opened, if_neg window, if_neg mmio]
      simp

theorem isolationMap_writable {m : Mapping} (granted : isolationMap va = .granted m)
    (may : m.el0Write) : InSandbox va ∧ m.pa = va := by
  unfold isolationMap at granted
  split_ifs at granted
  · cases granted
    exact ⟨of_decide_eq_true may, rfl⟩
  · cases granted
    cases may

theorem TableMap.Linked.apart (linked : tables.Linked) (sandbox : InSandbox va) :
    ¬tables.Guards va := by
  rintro ⟨t, i, small, rfl⟩
  have below := linked t
  have base : el0SandboxBase.toNat = 0x40E00000 := rfl
  have sum : (tables.address t + .ofNat i).toNat = (tables.address t).toNat + i := by
    rw [UInt64.toNat_add, UInt64.toNat_ofNat', Nat.mod_eq_of_lt (show i < 2 ^ 64 by omega)]
    exact Nat.mod_eq_of_lt (by omega)
  rw [inSandbox_iff, sum] at sandbox
  omega

/-! ## `mmu_init` -/

theorem enabled_iff {r : Regime} : r.enabled = false ↔ r.sctlr &&& sctlrM = 0 := by
  unfold Regime.enabled
  rw [bit_eq (by decide), ← UInt64.toNat_inj, UInt64.toNat_and]
  change decide (r.sctlr.toNat / 1 % 2 = 1) = false ↔ r.sctlr.toNat &&& 1 = 0
  rw [Nat.and_one_is_mod, Nat.div_one, decide_eq_false_iff_not]
  omega

theorem mmuInit_enabled {top : UInt64} (on : r.enabled = true) :
    mmuInit tables top r = .ok r := by
  have set : r.sctlr &&& sctlrM ≠ 0 := by
    rw [Ne, ← enabled_iff, on]
    decide
  exact if_pos set

def TableMap.regime (tables : TableMap) (sctlr : UInt64) (prior : Mem) : Regime where
  sctlr := sctlr ||| (sctlrM ||| sctlrC ||| sctlrI)
  mair := mair
  tcr := tcr
  ttbr0 := tables.address .l1
  ttbr1 := 0
  mem := buildIdentityMap tables (clearTables tables prior)
  tlb := []

theorem mmuInit_eq {top : UInt64} (off : r.enabled = false) (done : mmuInit tables top r = .ok r') :
    r' = tables.regime r.sctlr r.mem := by
  have clear : ¬r.sctlr &&& sctlrM ≠ 0 := not_not.mpr (enabled_iff.mp off)
  unfold mmuInit at done
  simp only [if_neg clear] at done
  split at done
  · cases done
  · cases done
    rfl

theorem mmuInit_sealed {top : UInt64} (linked : tables.Linked) (off : r.enabled = false)
    (wxn : bit r.sctlr 19 = false) (endian : bit r.sctlr 25 = false)
    (done : mmuInit tables top r = .ok r') :
    Regime.Sealed tables.Guards r' ∧ r'.translate = isolationMap ∧ r'.enabled = true := by
  obtain rfl := mmuInit_eq off done
  have covered : Covered (r.sctlr ||| (sctlrM ||| sctlrC ||| sctlrI)) tcr := by
    apply tcr_covered
    · rw [bit_or (by decide), wxn]
      decide
    · rw [bit_or (by decide), endian]
      decide
  have map : (tables.regime r.sctlr r.mem).translate = isolationMap := by
    have size : tcrT0sz tcr = tcrT0sz39bit := by decide
    funext va
    show answer _ _ va (Translation.walk _ (tcrT0sz tcr) _ _ va) = _
    rw [size]
    exact TableMap.walk_eq covered
  refine ⟨⟨fun va a reads_ i small => ?_, fun va m granted may => ?_, ?_⟩, map, ?_⟩
  · obtain ⟨t, j, inside, rfl⟩ := TableMap.reads_built reads_
    exact TableMap.guards_word inside small
  · rw [map] at granted
    obtain ⟨sandbox, identity⟩ := isolationMap_writable granted may
    exact identity ▸ linked.apart sandbox
  · intro va m member
    cases member
  · unfold Regime.enabled TableMap.regime
    rw [bit_or (by decide), Bool.or_eq_true]
    exact .inr (by decide)

/-! ## Runs -/

theorem step_enabled {guarded : UInt64 → Prop} {event : Regime.Event}
    (step : Regime.Step guarded r event r') : r'.enabled = r.enabled := by
  cases step with
  | fill | evict | userStore | kernelStore => rfl

theorem run_sealed {h : List (Regime × Regime.Event)} (linked : tables.Linked)
    (run : (mmuSystem tables).Run h r) :
    Regime.Sealed tables.Guards r ∧ r.translate = isolationMap ∧ r.enabled = true := by
  induction run with
  | start first =>
      obtain ⟨before, top, off, wxn, endian, done⟩ := first
      exact mmuInit_sealed linked off wxn endian done
  | step _ taken ih =>
      obtain ⟨sealed_, map, on⟩ := ih
      obtain ⟨sealed', same⟩ := sealed_.step taken
      exact ⟨sealed', same.trans map, (step_enabled taken).trans on⟩

/-- In every state after `mmu_init` each address is translated to what the map says, from the tables
and from the TLB, and EL0 has stored to the sandbox only. -/
theorem isolation_kept {h : List (Regime × Regime.Event)} (linked : tables.Linked)
    (run : (mmuSystem tables).Run h r) : Isolated tables r ∧
      ∀ p ∈ h, ∀ va m b, p.2 = .userStore va m b → InSandbox va ∧ m.pa = va := by
  constructor
  · obtain ⟨sealed_, map, on⟩ := run_sealed linked run
    refine ⟨congrFun map, fun va m member => ?_, fun top => mmuInit_enabled on⟩
    rw [← map]
    exact sealed_.cached va m member
  · induction run with
    | start => simp
    | @step h r e r' before taken ih =>
        intro p member va m b stores
        rcases List.mem_append.mp member with earlier | last
        · exact ih p earlier va m b stores
        · obtain ⟨sealed_, map, _⟩ := run_sealed linked before
          cases List.mem_singleton.mp last
          cases stores
          cases taken with
          | userStore uses may =>
              have granted := sealed_.uses uses
              rw [map] at granted
              exact isolationMap_writable granted may

def sampleTables : TableMap where
  address
    | .l1 => 0x40010000
    | .l2Low => 0x40011000
    | .l2Kernel => 0x40012000
  aligned := by intro t; cases t <;> decide
  below := by intro t; cases t <;> decide
  distinct := by intro t t'; cases t <;> cases t' <;> decide

theorem isolation_kept_store : ∃ h r, (mmuSystem sampleTables).Run h r ∧
    Isolated sampleTables r ∧ h ≠ [] ∧
    ∀ p ∈ h, ∀ va m b, p.2 = .userStore va m b → InSandbox va ∧ m.pa = va := by
  have linked : sampleTables.Linked := by
    intro t
    cases t <;> decide
  obtain ⟨r, done⟩ : ∃ r, mmuInit sampleTables 0x40030000
      { sctlr := 0, mair := 0, tcr := 0, ttbr0 := 0, ttbr1 := 0, mem := fun _ => 0, tlb := [] } =
        .ok r := ⟨_, rfl⟩
  have start : (mmuSystem sampleTables).Run [] r :=
    .start ⟨_, _, by decide, by decide, by decide, done⟩
  have map := (run_sealed linked start).2.1
  have uses : r.Uses el0SandboxBase (normalMapping el0SandboxBase true) :=
    .inr (by rw [map]; decide)
  have stored := start.step (Regime.Step.userStore (b := 7) uses rfl)
  obtain ⟨kept, stores⟩ := isolation_kept linked stored
  exact ⟨_, _, stored, kept, by simp, stores⟩

end ProtoOs
