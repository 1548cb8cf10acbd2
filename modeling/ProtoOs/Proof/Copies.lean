import ProtoOs.Kernel.Machine

namespace ProtoOs

variable {mem mem' : Memory} {msg : Nat → UInt8} {ptr src dst len : UInt64}
  {stores : List (SandboxAddress × UInt8)}

theorem minU64_of_le {a b : UInt64} (le : a ≤ b) : minU64 a b = a := by
  unfold minU64
  split_ifs with lt
  · rfl
  · exact (UInt64.le_antisymm le (UInt64.not_lt.mp lt)).symm

theorem offset_inj {i j : Nat} (below : i < len.toNat) (below' : j < len.toNat)
    (same : dst + .ofNat i = dst + .ofNat j) : i = j := by
  have small := len.toNat_lt
  have offsets : (UInt64.ofNat i).toNat = (UInt64.ofNat j).toNat :=
    congrArg UInt64.toNat (UInt64.add_right_inj dst |>.mp same)
  rwa [UInt64.toNat_ofNat', UInt64.toNat_ofNat', Nat.mod_eq_of_lt (by omega),
    Nat.mod_eq_of_lt (by omega)] at offsets

@[simp] theorem readBytes_length : (readBytes mem ptr len).length = len.toNat := by
  simp [readBytes]

theorem readBytes_congr (same : ∀ i < len.toNat, mem' (ptr + .ofNat i) = mem (ptr + .ofNat i)) :
    readBytes mem' ptr len = readBytes mem ptr len :=
  List.map_congr_left fun i member => same i (List.mem_range.mp member)

theorem userStores_outside {address : UInt64} (outside : ∀ s ∈ stores, s.1.val ≠ address) :
    userStores stores mem address = mem address := by
  unfold userStores
  induction stores generalizing mem with
  | nil => rfl
  | cons store stores ih =>
      rw [List.foldl_cons, ih fun s member => outside s (List.mem_cons_of_mem _ member)]
      exact Function.update_of_ne (outside store List.mem_cons_self).symm _ _

theorem userStores_at {store : SandboxAddress × UInt8} (member : store ∈ stores)
    (apart : stores.Pairwise fun s s' => s'.1.val ≠ s.1.val) :
    userStores stores mem store.1.val = store.2 := by
  induction stores generalizing mem with
  | nil => cases member
  | cons first stores ih =>
      obtain ⟨fresh, apart⟩ := List.pairwise_cons.mp apart
      show userStores stores _ _ = _
      rcases List.mem_cons.mp member with rfl | later
      · rw [userStores_outside fresh]
        exact Function.update_self _ _ _
      · exact ih later apart

def storesAt (base : UInt64) (bytes : List UInt8)
    (inside : ∀ i < bytes.length, InSandbox (base + UInt64.ofNat i)) : List (SandboxAddress × UInt8) :=
  List.ofFn fun i : Fin bytes.length => (⟨base + UInt64.ofNat i.val, inside i.val i.isLt⟩, bytes.get i)

theorem storesAt_read {base : UInt64} {bytes : List UInt8}
    {inside : ∀ i < bytes.length, InSandbox (base + UInt64.ofNat i)} (small : bytes.length < 2 ^ 64) :
    readBytes (userStores (storesAt base bytes inside) mem) base (.ofNat bytes.length) = bytes := by
  have length : (UInt64.ofNat bytes.length).toNat = bytes.length := by
    rw [UInt64.toNat_ofNat', Nat.mod_eq_of_lt small]
  have apart : (storesAt base bytes inside).Pairwise fun s s' => s'.1.val ≠ s.1.val := by
    rw [List.pairwise_iff_getElem]
    intro i j belowI belowJ before same
    simp only [storesAt, List.length_ofFn] at belowI belowJ
    simp only [storesAt, List.getElem_ofFn] at same
    rw [← length] at belowI belowJ
    have here : i = j := offset_inj belowI belowJ same.symm
    omega
  apply List.ext_getElem (by simp [length])
  intro i _ below
  simp only [readBytes, List.getElem_map, List.getElem_range]
  have stored : ((⟨base + UInt64.ofNat i, inside i below⟩, bytes.get ⟨i, below⟩) : SandboxAddress × UInt8) ∈
      storesAt base bytes inside := List.mem_ofFn.mpr ⟨⟨i, below⟩, rfl⟩
  exact userStores_at stored apart

theorem bytesCopyOut_at {i : Nat} (below : i < len.toNat) :
    bytesCopyOut dst len msg mem (dst + .ofNat i) = msg i := by
  unfold bytesCopyOut
  apply Bytes.storeLoop_inside (v := msg) _ _ below
  · intro _ _ _ _
    rfl
  · intro _ below _ below'
    exact offset_inj below below'

theorem bytesCopyIn_at {i : Nat} (below : i < len.toNat) :
    bytesCopyIn src len mem msg i = mem (src + .ofNat i) := by
  unfold bytesCopyIn
  apply Bytes.storeLoop_inside (v := fun i => mem (src + .ofNat i)) _ _ below
  · intro _ _ _ _
    rfl
  · intro _ _ _ _
    exact id

theorem bytesCopy_at (disjoint : ∀ i < len.toNat, ∀ j < len.toNat,
    src + .ofNat i ≠ dst + .ofNat j) {i : Nat} (below : i < len.toNat) :
    bytesCopy dst src len mem (dst + .ofNat i) = mem (src + .ofNat i) := by
  unfold bytesCopy
  apply Bytes.storeLoop_inside (v := fun i => mem (src + .ofNat i)) _ _ below
  · intro m outside i below
    exact outside _ fun j below' => disjoint i below j below'
  · intro _ below _ below'
    exact offset_inj below below'

def Repeats (mem : Memory) (ptr : UInt64) (d n : Nat) : Prop :=
  ∀ i, i + d < n → mem (ptr + .ofNat (i + d)) = mem (ptr + .ofNat i)

theorem offset_add (src dst : UInt64) (i : Nat) : src + .ofNat (i + (dst - src).toNat) = dst + .ofNat i := by
  rw [UInt64.ofNat_add, UInt64.ofNat_toNat]
  grind

/-- What a copy leaves in its destination, however the buffers lie. -/
theorem bytesCopy_iff (short : len.toNat ≤ ipcMsgSize.toNat) :
    (∀ i < len.toNat, bytesCopy dst src len mem (dst + .ofNat i) = mem (src + .ofNat i)) ↔
      Repeats mem src (dst - src).toNat len.toNat := by
  have small : ipcMsgSize.toNat = 256 := by decide
  by_cases ahead : (dst - src).toNat < len.toNat
  · have same : bytesCopy dst src len mem =
        Bytes.copyLoop (fun i => src + .ofNat i) (dst - src).toNat len.toNat mem := by
      unfold bytesCopy Bytes.copyLoop
      simp only [offset_add]
    rw [same]
    simp only [← offset_add src dst]
    apply Bytes.copyLoop_iff
    intro i below j below' equal
    have wide : (UInt64.ofNat 512).toNat = 512 := rfl
    exact offset_inj (show i < (UInt64.ofNat 512).toNat by omega) (show j < _ by omega) equal
  · have apart : Repeats mem src (dst - src).toNat len.toNat := fun i below => by omega
    refine ⟨fun _ => apart, fun _ i below => ?_⟩
    unfold bytesCopy
    apply Bytes.storeLoop_unread (v := fun i => mem (src + .ofNat i)) _ _ below
    · intro i below m unread
      apply unread
      intro j before equal
      have distance : dst - src = .ofNat i - .ofNat j := by grind
      have index (n : Nat) (le : n ≤ i) : (UInt64.ofNat n).toNat = n := by
        rw [UInt64.toNat_ofNat', Nat.mod_eq_of_lt (by omega)]
      rw [distance, UInt64.toNat_sub_of_le, index i (Nat.le_refl i), index j (by omega)] at ahead
      · omega
      · rw [UInt64.le_iff_toNat_le, index i (Nat.le_refl i), index j (by omega)]
        omega
    · intro _ below _ below'
      exact offset_inj below below'

end ProtoOs
