import ProtoOs.Kernel.Mmu

namespace ProtoOs

open Aarch64 Translation

variable {tables : TableMap} {t t' : PageTable} {i j d va : UInt64} {mem : Mem}

/-! ## Tables -/

def TableMap.entry (tables : TableMap) (mem : Mem) (t : PageTable) (i : UInt64) : UInt64 :=
  loadWord mem (tables.address t + 8 * i)

theorem TableMap.entry_address (inside : i.toNat < 512) :
    (tables.address t + 8 * i).toNat = (tables.address t).toNat + 8 * i.toNat := by
  have below := tables.below t
  rw [UInt64.toNat_add, UInt64.toNat_mul]
  change (_ + 8 * i.toNat % 2 ^ 64) % 2 ^ 64 = _
  omega

theorem TableMap.entry_setEntry (inside : i.toNat < 512) (inside' : j.toNat < 512) :
    tables.entry (tables.setEntry t i d mem) t' j =
      if t' = t ∧ j = i then d else tables.entry mem t' j := by
  have aligned := tables.aligned t
  have aligned' := tables.aligned t'
  have place : (tables.address t + 8 * i).toNat = _ := entry_address inside
  have place' : (tables.address t' + 8 * j).toNat = _ := entry_address inside'
  unfold entry setEntry
  split_ifs with same
  · rw [same.1, same.2, loadWord_storeWord]
  · apply loadWord_storeWord_apart
    · omega
    · omega
    · intro collides
      have places := congrArg UInt64.toNat collides
      rw [place, place'] at places
      have table : t' = t := by
        apply tables.distinct
        apply UInt64.toNat_inj.mp
        omega
      refine same ⟨table, UInt64.toNat_inj.mp ?_⟩
      rw [table] at places
      omega

theorem TableMap.entry_clear (n : Nat) (small : n ≤ 512) (inside : j.toNat < n) :
    tables.entry ((List.range n).foldl (fun mem i =>
      tables.setEntry .l2Kernel (.ofNat i) 0 (tables.setEntry .l2Low (.ofNat i) 0
        (tables.setEntry .l1 (.ofNat i) 0 mem))) mem) t j = 0 := by
  induction n with
  | zero => omega
  | succ n ih =>
      have index : (UInt64.ofNat n).toNat = n := UInt64.toNat_ofNat_of_lt' (by change n < 2 ^ 64; omega)
      rw [List.range_succ, List.foldl_concat]
      simp only [entry_setEntry (index.trans_lt small) (show j.toNat < 512 by omega)]
      split_ifs with kernel low l1
      · rfl
      · rfl
      · rfl
      · have other : j ≠ .ofNat n := by
          intro same
          cases t <;> simp_all
        have below : j.toNat < n := by
          have apart : j.toNat ≠ n := fun same => other (UInt64.toNat_inj.mp (same.trans index.symm))
          omega
        exact ih (by omega) below

theorem TableMap.entry_clearTables (inside : j.toNat < 512) :
    tables.entry (clearTables tables mem) t j = 0 :=
  entry_clear 512 (Nat.le_refl _) inside

def kernelDesc (n : Nat) : UInt64 :=
  let va := kernelMapBase + .ofNat n * mmuL2BlockSize
  blockDescNormal va (decide (va ≥ el0SandboxBase ∧ va < el0SandboxEnd))

theorem mapKernelBlock_eq {n : Nat} (small : n < 8) :
    mapKernelBlock tables (.ofNat n * mmuL2BlockSize) mem =
      tables.setEntry .l2Kernel (.ofNat n) (kernelDesc n) mem := by
  have index : ∀ n < 8, l2Index (kernelMapBase + .ofNat n * mmuL2BlockSize) = .ofNat n := by decide
  rw [mapKernelBlock, map2mBlock, index n small, if_neg Bool.false_ne_true]
  rfl

theorem TableMap.entry_kernel (n : Nat) (small : n ≤ 8) (inside : j.toNat < 512) :
    tables.entry (((List.range n).map fun i => UInt64.ofNat i * mmuL2BlockSize).foldl
      (fun mem offset => mapKernelBlock tables offset mem) mem) t j =
      if t = .l2Kernel ∧ j.toNat < n then kernelDesc j.toNat else tables.entry mem t j := by
  induction n with
  | zero => simp
  | succ n ih =>
      have index : (UInt64.ofNat n).toNat = n := UInt64.toNat_ofNat_of_lt' (by change n < 2 ^ 64; omega)
      rw [List.range_succ, List.map_append, List.map_singleton, List.foldl_concat,
        mapKernelBlock_eq small, entry_setEntry (by omega) inside, ih (by omega)]
      by_cases last : j = .ofNat n
      · subst last
        simp only [and_true, index, Nat.lt_irrefl, and_false, if_false, Nat.lt_succ_self]
      · have apart : j.toNat ≠ n := fun same => last (UInt64.toNat_inj.mp (same.trans index.symm))
        have iff : j.toNat < n + 1 ↔ j.toNat < n := by omega
        simp only [last, and_false, if_false, iff]

def TableMap.built (tables : TableMap) : PageTable → Nat → UInt64
  | .l1, i => if i = 1 then tableDesc (tables.address .l2Kernel)
      else if i = 0 then tableDesc (tables.address .l2Low) else 0
  | .l2Low, i => if i = 72 then blockDescDevice pl011MapBase
      else if i = 64 then blockDescDevice gicMapBase else 0
  | .l2Kernel, i => if i < 8 then kernelDesc i else 0

theorem TableMap.entry_built (inside : j.toNat < 512) :
    tables.entry (buildIdentityMap tables (clearTables tables mem)) t j = tables.built t j.toNat := by
  have gic : l2Index gicMapBase = 64 := rfl
  have pl011 : l2Index pl011MapBase = 72 := rfl
  have low : l1Index gicMapBase = 0 := rfl
  have kernel : l1Index kernelMapBase = 1 := rfl
  have blocks : (kernelMapSize / mmuL2BlockSize).toNat = 8 := rfl
  have at_index {i : UInt64} : j = i ↔ j.toNat = i.toNat := UInt64.toNat_inj.symm
  simp only [buildIdentityMap, kernelOffsets, blocks, entry_kernel 8 (Nat.le_refl 8) inside,
    map2mBlock, gic, pl011, low, kernel]
  rw [entry_setEntry (by decide) inside, entry_setEntry (by decide) inside,
    entry_setEntry (by decide) inside, entry_setEntry (by decide) inside,
    entry_clearTables inside]
  simp only [at_index]
  cases t <;> simp [built]

/-! ## Walk -/

theorem tableDesc_toNat (aligned : d.toNat % 4096 = 0) : (tableDesc d).toNat = d.toNat + 3 := by
  have below := d.toNat_lt
  have page : (d &&& ~~~((1 <<< mmuPageShift) - 1)).toNat = 2 ^ 12 * (d.toNat / 2 ^ 12) := by
    rw [UInt64.toNat_and]
    change d.toNat &&& (2 ^ 52 - 1) * 2 ^ 12 = _
    rw [and_field]
    omega
  unfold tableDesc
  rw [UInt64.toNat_or, UInt64.toNat_or, page, Nat.or_assoc]
  change 2 ^ 12 * (d.toNat / 2 ^ 12) ||| 3 = _
  rw [← Nat.two_pow_add_eq_or_of_lt (by decide)]
  omega

structure PointsTo (tables : TableMap) (t : PageTable) (d : UInt64) : Prop where
  next : nextTable d = tables.address t
  valid : bit d 0 = true
  table : bit d 1 = true
  unlimited : ∀ i ∈ [59, 60, 61, 62], bit d i = false

theorem TableMap.base (tables : TableMap) (t : PageTable) :
    nextTable (tables.address t) = tables.address t := by
  have aligned := tables.aligned t
  have below := tables.below t
  apply UInt64.toNat_inj.mp
  rw [nextTable_toNat]
  omega

theorem TableMap.pointsTo (tables : TableMap) (t : PageTable) :
    PointsTo tables t (tableDesc (tables.address t)) := by
  have aligned := tables.aligned t
  have below := tables.below t
  have value := tableDesc_toNat aligned
  constructor
  · apply UInt64.toNat_inj.mp
    rw [nextTable_toNat, value]
    omega
  · rw [bit_eq (by decide), value, decide_eq_true_iff]
    change _ / 1 % 2 = 1
    omega
  · rw [bit_eq (by decide), value, decide_eq_true_iff]
    change _ / 2 % 2 = 1
    omega
  · intro i member
    have high : i.toNat < 64 ∧ 48 < i.toNat := by
      simp only [List.mem_cons, List.not_mem_nil, or_false] at member
      rcases member with rfl | rfl | rfl | rfl <;> decide
    have small : (tables.address t).toNat + 3 < 2 ^ i.toNat :=
      calc (tables.address t).toNat + 3 < 2 ^ 49 := by omega
        _ ≤ 2 ^ i.toNat := Nat.pow_le_pow_right (by decide) high.2
    rw [bit_eq high.1, value, Nat.div_eq_of_lt small]
    rfl

theorem PointsTo.leaf {limits : UInt64} (points : PointsTo tables t limits) :
    leaf mair limits d 21 va = leaf mair 0 d 21 va := by
  unfold Translation.leaf
  simp only [points.unlimited 59 (by decide), points.unlimited 60 (by decide),
    points.unlimited 61 (by decide), points.unlimited 62 (by decide)]
  rfl

/-- The tables as `mmu_init` builds them, whatever they held. -/
def TableMap.walk (tables : TableMap) (prior : Mem) (va : UInt64) : Option Mapping :=
  Translation.walk (buildIdentityMap tables (clearTables tables prior)) tcrT0sz39bit mair
    (tables.address .l1) va

theorem TableMap.walk_outside (outside : 2 ^ 39 ≤ va.toNat) : tables.walk mem va = none := by
  have range : va >>> (64 - tcrT0sz39bit) ≠ 0 := by
    intro zero
    have quotient := congrArg UInt64.toNat zero
    rw [UInt64.toNat_shiftRight, Nat.shiftRight_eq_div_pow] at quotient
    change va.toNat / 2 ^ 39 = 0 at quotient
    omega
  exact if_pos range

theorem TableMap.walk_inside (inside : va.toNat < 2 ^ 39) :
    tables.walk mem va =
      let d₁ := tables.built .l1 (va.toNat / 2 ^ 30)
      if !bit d₁ 0 then none
      else if !bit d₁ 1 then Translation.leaf mair 0 d₁ 30 va
      else
        let mem := buildIdentityMap tables (clearTables tables mem)
        let d₂ := loadWord mem (nextTable d₁ + 8 * index va 21)
        if !bit d₂ 0 then none
        else if !bit d₂ 1 then Translation.leaf mair d₁ d₂ 21 va
        else
          let d₃ := loadWord mem (nextTable d₂ + 8 * index va 12)
          if bit d₃ 0 && bit d₃ 1 then Translation.leaf mair (d₁ ||| d₂) d₃ 12 va else none := by
  have range : ¬va >>> (64 - tcrT0sz39bit) ≠ 0 := by
    rw [not_not, ← UInt64.toNat_inj, UInt64.toNat_shiftRight, Nat.shiftRight_eq_div_pow]
    exact Nat.div_eq_of_lt inside
  have index₁ : (index va 30).toNat = va.toNat / 2 ^ 30 := by
    rw [index_toNat (by decide)]
    exact Nat.mod_eq_of_lt (by change va.toNat / 2 ^ 30 < 512; omega)
  have first : tables.entry (buildIdentityMap tables (clearTables tables mem)) .l1 (index va 30) =
      tables.built .l1 (index va 30).toNat := entry_built (by omega)
  unfold TableMap.walk Translation.walk
  rw [if_neg range, tables.base, ← index₁, ← first]
  rfl

theorem TableMap.built_block (second : t ≠ .l1) (n : Nat) : bit (tables.built t n) 1 = false := by
  have kernel : ∀ n < 8, bit (kernelDesc n) 1 = false := by decide
  cases t with
  | l1 => exact absurd rfl second
  | l2Low =>
      simp only [built]
      split_ifs <;> rfl
  | l2Kernel =>
      simp only [built]
      split_ifs with small
      · exact kernel n small
      · rfl

theorem TableMap.walk_table (inside : va.toNat < 2 ^ 39) (second : t ≠ .l1)
    (next : tables.built .l1 (va.toNat / 2 ^ 30) = tableDesc (tables.address t))
    (holds : tables.built t (va.toNat / 2 ^ 21 % 512) = d) :
    tables.walk mem va = if bit d 0 then Translation.leaf mair 0 d 21 va else none := by
  have points := tables.pointsTo t
  have block : bit d 1 = false := holds ▸ built_block second _
  have index₂ : (index va 21).toNat = va.toNat / 2 ^ 21 % 512 := index_toNat (by decide)
  have held : tables.entry (buildIdentityMap tables (clearTables tables mem)) t (index va 21) = d := by
    rw [entry_built (by omega), index₂, holds]
  unfold TableMap.entry at held
  rw [walk_inside inside, next]
  simp only [points.valid, points.table, points.next, held, block, points.leaf]
  cases valid : bit d 0 <;> rfl

theorem TableMap.walk_low (low : va.toNat / 2 ^ 30 = 0)
    (holds : tables.built .l2Low (va.toNat / 2 ^ 21) = d) :
    tables.walk mem va = if bit d 0 then Translation.leaf mair 0 d 21 va else none := by
  apply walk_table (t := .l2Low) (by omega) (by decide)
  · rw [low]
    rfl
  · rw [Nat.mod_eq_of_lt (by omega), holds]

theorem TableMap.walk_kernel (kernel : va.toNat / 2 ^ 30 = 1)
    (holds : tables.built .l2Kernel (va.toNat / 2 ^ 21 - 512) = d) :
    tables.walk mem va = if bit d 0 then Translation.leaf mair 0 d 21 va else none := by
  have index₂ : va.toNat / 2 ^ 21 % 512 = va.toNat / 2 ^ 21 - 512 := by omega
  apply walk_table (t := .l2Kernel) (by omega) (by decide)
  · rw [kernel]
    rfl
  · rw [index₂, holds]

theorem TableMap.walk_beyond (beyond : 2 ≤ va.toNat / 2 ^ 30) : tables.walk mem va = none := by
  by_cases inside : va.toNat < 2 ^ 39
  · have empty : tables.built .l1 (va.toNat / 2 ^ 30) = 0 := by
      simp only [built]
      rw [if_neg (by omega), if_neg (by omega)]
    rw [walk_inside inside, empty]
    rfl
  · exact walk_outside (Nat.not_lt.mp inside)

/-! ## The map -/

def InBlock (base va : UInt64) : Prop := base ≤ va ∧ va < base + mmuL2BlockSize

def InMmio (va : UInt64) : Prop := InBlock gicMapBase va ∨ InBlock pl011MapBase va

def InKernelWindow (va : UInt64) : Prop := kernelMapBase ≤ va ∧ va < kernelMapBase + kernelMapSize

/-- What the page tables are for. -/
structure Isolates (va : UInt64) (result : Option Mapping) : Prop where
  faults : result = none ↔ ¬(InKernelWindow va ∨ InMmio va)
  identity : ∀ m ∈ result, m.pa = va
  el0Read : (∃ m ∈ result, m.el0Read) ↔ InSandbox va
  el0Write : (∃ m ∈ result, m.el0Write) ↔ InSandbox va
  el0Execute : (∃ m ∈ result, m.el0Execute) ↔ InSandbox va
  el1Execute : (∃ m ∈ result, m.el1Execute) ↔ InKernelWindow va ∧ ¬InSandbox va
  device : (∃ m ∈ result, m.device) ↔ InMmio va

theorem inMmio_iff : InMmio va ↔ va.toNat / 2 ^ 21 = 64 ∨ va.toNat / 2 ^ 21 = 72 := by
  have gic : gicMapBase.toNat = 64 * 2 ^ 21 := rfl
  have gicEnd : (gicMapBase + mmuL2BlockSize).toNat = 65 * 2 ^ 21 := rfl
  have pl011 : pl011MapBase.toNat = 72 * 2 ^ 21 := rfl
  have pl011End : (pl011MapBase + mmuL2BlockSize).toNat = 73 * 2 ^ 21 := rfl
  simp only [InMmio, InBlock, UInt64.le_iff_toNat_le, UInt64.lt_iff_toNat_lt, gic, gicEnd, pl011,
    pl011End]
  omega

theorem inKernelWindow_iff :
    InKernelWindow va ↔ 512 ≤ va.toNat / 2 ^ 21 ∧ va.toNat / 2 ^ 21 < 520 := by
  have base : kernelMapBase.toNat = 512 * 2 ^ 21 := rfl
  have limit : (kernelMapBase + kernelMapSize).toNat = 520 * 2 ^ 21 := rfl
  simp only [InKernelWindow, UInt64.le_iff_toNat_le, UInt64.lt_iff_toNat_lt, base, limit]
  omega

theorem inSandbox_iff_block : InSandbox va ↔ va.toNat / 2 ^ 21 = 519 := by
  rw [inSandbox_iff]
  omega

theorem TableMap.walk_unmapped (unmapped : ¬(InKernelWindow va ∨ InMmio va)) :
    tables.walk mem va = none := by
  rw [inKernelWindow_iff, inMmio_iff] at unmapped
  obtain low | kernel | beyond :
      va.toNat / 2 ^ 30 = 0 ∨ va.toNat / 2 ^ 30 = 1 ∨ 2 ≤ va.toNat / 2 ^ 30 := by omega
  · have empty : tables.built .l2Low (va.toNat / 2 ^ 21) = 0 := by
      simp only [built]
      rw [if_neg (by omega), if_neg (by omega)]
    rw [walk_low low empty]
    rfl
  · have empty : tables.built .l2Kernel (va.toNat / 2 ^ 21 - 512) = 0 := by
      simp only [built]
      rw [if_neg (by omega)]
    rw [walk_kernel kernel empty]
    rfl
  · exact walk_beyond beyond

def deviceMapping (va : UInt64) : Mapping where
  pa := va
  el0Read := false
  el0Write := false
  el0Execute := false
  el1Execute := false
  attr := 0x00

def normalMapping (va : UInt64) (el0Access : Bool) : Mapping where
  pa := va
  el0Read := el0Access
  el0Write := el0Access
  el0Execute := el0Access
  el1Execute := !el0Access
  attr := 0xFF

theorem leaf_device {base : UInt64} (device : base = gicMapBase ∨ base = pl011MapBase)
    (at_block : base.toNat = va.toNat / 2 ^ 21 * 2 ^ 21) :
    leaf mair 0 (blockDescDevice base) 21 va = some (deviceMapping va) := by
  have granted : leaf mair 0 (blockDescDevice base) 21 va =
      some (deviceMapping (base ||| (va &&& 0x1FFFFF))) := by
    rcases device with rfl | rfl <;> rfl
  rw [granted, block_or_offset at_block]

theorem leaf_kernel {n : Nat} (inside : n < 8) (at_block : va.toNat / 2 ^ 21 = 512 + n) :
    leaf mair 0 (kernelDesc n) 21 va = some (normalMapping va (n = 7)) := by
  have granted : leaf mair 0 (kernelDesc n) 21 va = some
      (normalMapping ((kernelMapBase + .ofNat n * mmuL2BlockSize) ||| (va &&& 0x1FFFFF)) (n = 7)) := by
    interval_cases n <;> rfl
  have address : ∀ n < 8, (kernelMapBase + .ofNat n * mmuL2BlockSize).toNat = (512 + n) * 2 ^ 21 := by
    decide
  have block : (kernelMapBase + .ofNat n * mmuL2BlockSize).toNat = va.toNat / 2 ^ 21 * 2 ^ 21 := by
    rw [address n inside, at_block]
  rw [granted, block_or_offset block]

theorem TableMap.walk_mmio (mmio : InMmio va) : tables.walk mem va = some (deviceMapping va) := by
  rw [inMmio_iff] at mmio
  have low : va.toNat / 2 ^ 30 = 0 := by omega
  rcases mmio with gic | pl011
  · have holds : tables.built .l2Low (va.toNat / 2 ^ 21) = blockDescDevice gicMapBase := by
      rw [gic]
      rfl
    rw [walk_low low holds, leaf_device (.inl rfl) (by rw [gic]; rfl)]
    rfl
  · have holds : tables.built .l2Low (va.toNat / 2 ^ 21) = blockDescDevice pl011MapBase := by
      rw [pl011]
      rfl
    rw [walk_low low holds, leaf_device (.inr rfl) (by rw [pl011]; rfl)]
    rfl

theorem TableMap.walk_window (window : InKernelWindow va) :
    tables.walk mem va = some (normalMapping va (InSandbox va)) := by
  rw [inKernelWindow_iff] at window
  have kernel : va.toNat / 2 ^ 30 = 1 := by omega
  have small : va.toNat / 2 ^ 21 - 512 < 8 := by omega
  have holds : tables.built .l2Kernel (va.toNat / 2 ^ 21 - 512) =
      kernelDesc (va.toNat / 2 ^ 21 - 512) := by
    simp only [built]
    rw [if_pos small]
  have valid : ∀ n < 8, bit (kernelDesc n) 0 = true := by decide
  have sandbox : va.toNat / 2 ^ 21 - 512 = 7 ↔ InSandbox va := by
    rw [inSandbox_iff_block]
    omega
  rw [walk_kernel kernel holds, if_pos (valid _ small), leaf_kernel small (by omega)]
  simp only [sandbox]

theorem isolates_some {m : Mapping} (mapped : InKernelWindow va ∨ InMmio va) (identity : m.pa = va)
    (el0Read : m.el0Read ↔ InSandbox va) (el0Write : m.el0Write ↔ InSandbox va)
    (el0Execute : m.el0Execute ↔ InSandbox va)
    (el1Execute : m.el1Execute ↔ InKernelWindow va ∧ ¬InSandbox va)
    (device : m.device ↔ InMmio va) : Isolates va (some m) := by
  constructor
  · simp [mapped]
  · simpa using identity
  · simpa using el0Read
  · simpa using el0Write
  · simpa using el0Execute
  · simpa using el1Execute
  · simpa using device

/-- Whatever the tables held before, the walk over the tables that the kernel builds grants every
address what the map says. -/
theorem walk_isolates (tables : TableMap) (prior : Mem) (va : UInt64) :
    Isolates va (tables.walk prior va) := by
  have apart : InKernelWindow va → ¬InMmio va := by
    rw [inKernelWindow_iff, inMmio_iff]
    omega
  have inner : InSandbox va → InKernelWindow va := by
    rw [inKernelWindow_iff, inSandbox_iff_block]
    omega
  by_cases window : InKernelWindow va
  · have normal : ¬(normalMapping va (InSandbox va)).device := by
      change ¬decide ((0xFF : UInt64) >>> 4 = 0) = true
      decide
    rw [TableMap.walk_window window]
    apply isolates_some (.inl window) rfl
    · exact decide_eq_true_iff
    · exact decide_eq_true_iff
    · exact decide_eq_true_iff
    · simp [normalMapping, window]
    · exact iff_of_false normal (apart window)
  · have outside : ¬InSandbox va := fun inside => window (inner inside)
    by_cases mmio : InMmio va
    · have device : (deviceMapping va).device := by
        change decide ((0x00 : UInt64) >>> 4 = 0) = true
        decide
      rw [TableMap.walk_mmio mmio]
      apply isolates_some (.inr mmio) rfl
      · exact iff_of_false Bool.false_ne_true outside
      · exact iff_of_false Bool.false_ne_true outside
      · exact iff_of_false Bool.false_ne_true outside
      · exact iff_of_false Bool.false_ne_true fun mapped => window mapped.1
      · exact iff_of_true device mmio
    · rw [TableMap.walk_unmapped (by simp [window, mmio])]
      constructor <;> simp [window, mmio, outside]

end ProtoOs
