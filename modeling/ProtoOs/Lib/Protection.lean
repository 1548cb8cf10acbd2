import ProtoOs.Lib.Progress
import ProtoOs.Lib.Translation

/-!
# Memory protection over time

The translation registers, the memory behind them and the TLB, which may hold what a walk granted at
any earlier time. Where no store that the tables allow reaches the tables, they grant the same for
ever.
-/

namespace Translation

open Aarch64 Transition

structure Regime where
  sctlr : UInt64
  mair : UInt64
  tcr : UInt64
  ttbr0 : UInt64
  ttbr1 : UInt64
  mem : Mem
  tlb : List (UInt64 × Mapping)

/-- What becomes of an access; `beyond` are the configurations that `walk` does not cover. -/
inductive Answer
  | granted (m : Mapping)
  | fault
  | beyond
  deriving DecidableEq

namespace Regime

variable {r r' : Regime} {va pa a : UInt64} {m : Mapping} {b : UInt8}

def enabled (r : Regime) : Bool := bit r.sctlr 0

end Regime

def tcrT0sz (tcr : UInt64) : UInt64 := tcr &&& 0x3F

/-- Little-endian tables of 4 KiB pages from level 1, and no write-implies-execute-never. -/
def Covered (sctlr tcr : UInt64) : Prop :=
  !bit sctlr 19 ∧ !bit sctlr 25 ∧ (tcr >>> 14) &&& 3 = 0 ∧ 25 ≤ tcrT0sz tcr ∧ tcrT0sz tcr ≤ 33

instance coveredDecidable (sctlr tcr : UInt64) : Decidable (Covered sctlr tcr) :=
  inferInstanceAs (Decidable (_ ∧ _))

/-- What the registers make of a walk. The upper range is that of TTBR1, which TCR.EPD1 closes. -/
def answer (sctlr tcr va : UInt64) (walked : Option Mapping) : Answer :=
  if ¬Covered sctlr tcr then .beyond
  else if bit va 55 then
    if bit tcr 23 then .fault else .beyond
  else if bit tcr 7 then .fault
  else match walked with
    | some m => .granted m
    | none => .fault

namespace Regime

def translate (r : Regime) (va : UInt64) : Answer :=
  answer r.sctlr r.tcr va (walk r.mem (tcrT0sz r.tcr) r.mair r.ttbr0 va)

/-- What an access to `va` may be translated by. -/
def Uses (r : Regime) (va : UInt64) (m : Mapping) : Prop :=
  (va, m) ∈ r.tlb ∨ r.translate va = .granted m

inductive Event
  | fill (va : UInt64)
  | evict
  | userStore (va : UInt64) (m : Mapping) (b : UInt8)
  | kernelStore (pa : UInt64) (b : UInt8)

/-- The kernel stores anywhere but to the guarded bytes, EL0 where it may. -/
inductive Step (guarded : UInt64 → Prop) (r : Regime) : Event → Regime → Prop
  | fill {va : UInt64} {m : Mapping} (walks : r.translate va = .granted m) :
      Step guarded r (.fill va) { r with tlb := (va, m) :: r.tlb }
  | evict {tlb : List (UInt64 × Mapping)} (fewer : tlb ⊆ r.tlb) :
      Step guarded r .evict { r with tlb := tlb }
  | userStore {va : UInt64} {m : Mapping} {b : UInt8} (uses : r.Uses va m) (may : m.el0Write) :
      Step guarded r (.userStore va m b) { r with mem := Function.update r.mem m.pa b }
  | kernelStore {pa : UInt64} {b : UInt8} (free : ¬guarded pa) :
      Step guarded r (.kernelStore pa b) { r with mem := Function.update r.mem pa b }

def system (guarded : UInt64 → Prop) (first : Regime → Prop) : System Regime Event where
  init := first
  step := Step guarded

end Regime

/-! ## What a walk reads -/

variable {mem mem' : Mem} {ttbr mair t0sz va a : UInt64}

def reads (mem : Mem) (ttbr va : UInt64) : List UInt64 :=
  let a₁ := nextTable ttbr + 8 * index va 30
  let d₁ := loadWord mem a₁
  if bit d₁ 0 && bit d₁ 1 then
    let a₂ := nextTable d₁ + 8 * index va 21
    let d₂ := loadWord mem a₂
    if bit d₂ 0 && bit d₂ 1 then [a₁, a₂, nextTable d₂ + 8 * index va 12] else [a₁, a₂]
  else [a₁]

theorem loadWord_congr (same : ∀ i < 8, mem' (bytesAt a i) = mem (bytesAt a i)) :
    loadWord mem' a = loadWord mem a := by
  unfold loadWord Words.read
  rw [Words.littleEndian_congr same]

theorem descriptors_congr (same : ∀ a ∈ reads mem ttbr va, loadWord mem' a = loadWord mem a) :
    let d₁ := loadWord mem (nextTable ttbr + 8 * index va 30)
    let a₂ := nextTable d₁ + 8 * index va 21
    let a₃ := nextTable (loadWord mem a₂) + 8 * index va 12
    loadWord mem' (nextTable ttbr + 8 * index va 30) = d₁ ∧
      (bit d₁ 0 && bit d₁ 1 → loadWord mem' a₂ = loadWord mem a₂ ∧
        (bit (loadWord mem a₂) 0 && bit (loadWord mem a₂) 1 →
          loadWord mem' a₃ = loadWord mem a₃)) := by
  unfold reads at same
  simp only at same ⊢
  refine ⟨?_, fun table => ⟨?_, fun table' => ?_⟩⟩
  · apply same
    split_ifs
    all_goals simp
  · apply same
    rw [if_pos table]
    split_ifs
    all_goals simp
  · apply same
    rw [if_pos table, if_pos table']
    simp

theorem reads_congr (same : ∀ a ∈ reads mem ttbr va, loadWord mem' a = loadWord mem a) :
    reads mem' ttbr va = reads mem ttbr va := by
  obtain ⟨first, rest⟩ := descriptors_congr same
  unfold reads
  by_cases table : bit (loadWord mem (nextTable ttbr + 8 * index va 30)) 0 &&
      bit (loadWord mem (nextTable ttbr + 8 * index va 30)) 1
  · simp only [first, (rest table).1]
  · simp only [first, if_neg table]

theorem walk_congr (same : ∀ a ∈ reads mem ttbr va, loadWord mem' a = loadWord mem a) :
    walk mem' t0sz mair ttbr va = walk mem t0sz mair ttbr va := by
  obtain ⟨first, rest⟩ := descriptors_congr same
  unfold walk
  simp only [first]
  cases valid : bit (loadWord mem (nextTable ttbr + 8 * index va 30)) 0 with
  | false => simp
  | true =>
      cases table : bit (loadWord mem (nextTable ttbr + 8 * index va 30)) 1 with
      | false => simp
      | true =>
          obtain ⟨second, third⟩ := rest (by rw [valid, table]; rfl)
          simp only [second]
          let d₂ := loadWord mem (nextTable (loadWord mem (nextTable ttbr + 8 * index va 30)) +
            8 * index va 21)
          cases valid' : bit d₂ 0 with
          | false => simp
          | true =>
              cases table' : bit d₂ 1 with
              | false => simp
              | true => rw [third (by rw [valid', table']; rfl)]

namespace Regime

/-! ## Guarded tables -/

variable {r r' : Regime} {guarded : UInt64 → Prop} {event : Event} {m : Mapping}

/-- The tables lie among the guarded bytes, EL0 may write none of these, and the TLB holds nothing
but what the tables say. -/
structure Sealed (guarded : UInt64 → Prop) (r : Regime) : Prop where
  tables : ∀ va, ∀ a ∈ reads r.mem r.ttbr0 va, ∀ i < 8, guarded (bytesAt a i)
  closed : ∀ va m, r.translate va = .granted m → m.el0Write → ¬guarded m.pa
  cached : ∀ va m, (va, m) ∈ r.tlb → r.translate va = .granted m

theorem Sealed.uses (sealed_ : Sealed guarded r) (uses : r.Uses va m) :
    r.translate va = .granted m := by
  rcases uses with cached | walks
  · exact sealed_.cached va m cached
  · exact walks

theorem Sealed.store (sealed_ : Sealed guarded r) {pa : UInt64} (free : ¬guarded pa) (b : UInt8) :
    Sealed guarded { r with mem := Function.update r.mem pa b } ∧
      Regime.translate { r with mem := Function.update r.mem pa b } = r.translate := by
  have same (va a : UInt64) (member : a ∈ reads r.mem r.ttbr0 va) :
      loadWord (Function.update r.mem pa b) a = loadWord r.mem a := by
    apply loadWord_congr
    intro i below
    apply Function.update_of_ne
    intro here
    exact free (here ▸ sealed_.tables va a member i below)
  have keeps : Regime.translate { r with mem := Function.update r.mem pa b } = r.translate := by
    funext va
    exact congrArg (answer r.sctlr r.tcr va) (walk_congr (same va))
  refine ⟨⟨fun va a member => ?_, ?_, ?_⟩, keeps⟩
  · simp only [reads_congr (same va)] at member
    exact sealed_.tables va a member
  · rw [keeps]
    exact sealed_.closed
  · rw [keeps]
    exact sealed_.cached

theorem Sealed.step (sealed_ : Sealed guarded r) (step : Step guarded r event r') :
    Sealed guarded r' ∧ r'.translate = r.translate := by
  cases step with
  | fill walks =>
      refine ⟨⟨sealed_.tables, sealed_.closed, fun va m member => ?_⟩, rfl⟩
      rcases List.mem_cons.mp member with same | earlier
      · cases same
        exact walks
      · exact sealed_.cached va m earlier
  | evict fewer =>
      exact ⟨⟨sealed_.tables, sealed_.closed, fun va m member =>
        sealed_.cached va m (fewer member)⟩, rfl⟩
  | userStore uses may => exact sealed_.store (sealed_.closed _ _ (sealed_.uses uses) may) _
  | kernelStore free => exact sealed_.store free _

end Regime

end Translation
