import Mathlib.Data.List.Chain
import IowarpCore.Types.Numbers

/-!
# The bump heap

`hshm::ipc::Heap<ATOMIC>` hands out offsets from `heap_` upwards: `Allocate(size, align)` rounds
the current offset up with `AlignSize`, adds `size`, throws `OUT_OF_MEMORY` if the end passes
`max_size_`, and otherwise installs the end with `compare_exchange_weak`. Every quantity is a
`size_t`, so both additions wrap, and `AlignSize` divides by `align`.

This module takes one thread: a `compare_exchange_weak` that fails spuriously reloads the same
offset and computes the same values, so one pass of the loop is the whole call (the concurrent
loop is `IowarpCore.Memory.AtomicHeap`). Over the naturals, `bump` is what the call is meant
to do; the two agree whenever nothing wraps (`allocate_eq_bump`). An `align` of 0 divides by zero,
and a `size` that makes `aligned_off + size` wrap succeeds and lowers the offset.
-/

namespace IowarpCore.Memory.BumpHeap

open IowarpCore.Types.Numbers

set_option autoImplicit false

/-- The state of a `Heap`: `heap_` and `max_size_`. -/
structure Heap where
  heap : SizeT
  maxSize : SizeT
  deriving DecidableEq, Repr

/-- What `Allocate` throws. A division by zero is undefined behaviour; the model stops there. -/
inductive HeapError
  | outOfMemory (endOff maxSize : SizeT)
  | divideByZero
  deriving DecidableEq, Repr

/-- The text `HSHM_THROW_ERROR(OUT_OF_MEMORY, ...)` is given. -/
def HeapError.message : HeapError → String
  | .outOfMemory endOff maxSize =>
      "Heap allocation exceeded max size: " ++ toString endOff.toNat ++ " > " ++
        toString maxSize.toNat
  | .divideByZero => ""

/-- `AlignSize(size, align)`; `none` where it divides by zero. -/
def alignSize (size align : SizeT) : Option SizeT :=
  if align = 0 then none else some ((size + align - 1) / align * align)

/-- One pass of the body of `Allocate`'s loop from the loaded offset `off`: the aligned offset and
the end offset, or what it throws. -/
def attempt (off maxSize size align : SizeT) : Except HeapError (SizeT × SizeT) :=
  match alignSize off align with
  | none => .error .divideByZero
  | some alignedOff =>
      let endOff := alignedOff + size
      if endOff > maxSize then .error (.outOfMemory endOff maxSize) else .ok (alignedOff, endOff)

/-- `Allocate(size, align)` with no other thread: the returned offset and the heap after it. -/
def Heap.allocate (h : Heap) (size align : SizeT) : Except HeapError (SizeT × Heap) :=
  (attempt h.heap h.maxSize size align).map fun (alignedOff, endOff) =>
    (alignedOff, { h with heap := endOff })

/-- One call `Allocate(size, align)`, caught if it throws: what it returned, and the heap after
it. -/
def Heap.call (h : Heap) (size align : SizeT) : Except HeapError SizeT × Heap :=
  match h.allocate size align with
  | .ok (off, next) => (.ok off, next)
  | .error e => (.error e, h)

/-- Successive calls, each caught if it throws. -/
def Heap.run (h : Heap) : List (SizeT × SizeT) → List (Except HeapError SizeT × Heap)
  | [] => []
  | (size, align) :: calls => h.call size align :: (h.call size align).2.run calls

/-- The ranges `[offset, offset + size)` the successful calls of a run returned. -/
def ranges : List (SizeT × SizeT) → List (Except HeapError SizeT × Heap) → List (Nat × Nat)
  | (size, _) :: calls, (.ok off, _) :: steps =>
      (off.toNat, off.toNat + size.toNat) :: ranges calls steps
  | _ :: calls, (.error _, _) :: steps => ranges calls steps
  | _, _ => []

/-- Neither an `align` of 0 nor a size that wraps is caught: the first divides by zero, the second
succeeds and moves the offset from 16 down to 8. -/
theorem allocate_align_zero_or_wrapping_size :
    (Heap.mk 0 64).allocate 8 0 = .error .divideByZero ∧
      (Heap.mk 16 1000).allocate (BitVec.ofNat 64 (2 ^ 64 - 8)) 8 = .ok (16, Heap.mk 8 1000) :=
  ⟨rfl, rfl⟩

/-! ## Over the naturals -/

/-- `AlignSize` over the naturals: `off` rounded up to a multiple of `align`. -/
def alignUp (off align : Nat) : Nat := (off + align - 1) / align * align

/-- What `Allocate` is meant to do: bump allocation over the naturals. -/
def Heap.bump (h : Heap) (size align : SizeT) : Except HeapError (SizeT × Heap) :=
  let alignedOff := alignUp h.heap.toNat align.toNat
  let endOff := alignedOff + size.toNat
  if h.maxSize.toNat < endOff then .error (.outOfMemory (BitVec.ofNat 64 endOff) h.maxSize)
  else .ok (BitVec.ofNat 64 alignedOff, { h with heap := BitVec.ofNat 64 endOff })

theorem align_up_bounds (off align : Nat) (positive : 0 < align) :
    align ∣ alignUp off align ∧ off ≤ alignUp off align ∧ alignUp off align + 1 ≤ off + align := by
  have split := Nat.div_add_mod (off + align - 1) align
  have remainder := Nat.mod_lt (off + align - 1) positive
  have swap : (off + align - 1) / align * align = align * ((off + align - 1) / align) :=
    Nat.mul_comm _ _
  refine ⟨Nat.dvd_mul_left _ _, ?_, ?_⟩ <;> simp only [alignUp] <;> omega

theorem toNat_pos_of_ne_zero {align : SizeT} (nonzero : align ≠ 0) : 0 < align.toNat := by
  rcases Nat.eq_zero_or_pos align.toNat with zero | positive
  · exact absurd (BitVec.eq_of_toNat_eq (by simpa using zero)) nonzero
  · exact positive

/-- `AlignSize` computes `alignUp` when `off + align` does not pass `2^64`. -/
theorem align_size_toNat (off align : SizeT) (nonzero : align ≠ 0)
    (noWrap : off.toNat + align.toNat ≤ 2 ^ 64) :
    ∃ alignedOff, alignSize off align = some alignedOff ∧
      alignedOff.toNat = alignUp off.toNat align.toNat := by
  have positive := toNat_pos_of_ne_zero nonzero
  have sum : (off + align - 1).toNat = off.toNat + align.toNat - 1 := by
    rw [BitVec.toNat_sub, BitVec.toNat_add, show (1 : SizeT).toNat = 1 from rfl]
    omega
  have bounds := align_up_bounds off.toNat align.toNat positive
  refine ⟨_, if_neg nonzero, ?_⟩
  rw [BitVec.toNat_mul, BitVec.toNat_udiv, sum]
  exact Nat.mod_eq_of_lt (by simp only [alignUp] at bounds; omega)

/-- Neither `size_t` addition of `Allocate(size, align)` from the offset `off` wraps: neither
`off + align - 1` in `AlignSize` nor `aligned_off + size`. -/
def NoWrap (off size align : SizeT) : Prop :=
  off.toNat + align.toNat ≤ 2 ^ 64 ∧ alignUp off.toNat align.toNat + size.toNat < 2 ^ 64

instance (off size align : SizeT) : Decidable (NoWrap off size align) :=
  inferInstanceAs (Decidable (_ ∧ _))

/-- With no wraparound, `Allocate` does what `bump` says. -/
theorem allocate_eq_bump (h : Heap) (size align : SizeT) (nonzero : align ≠ 0)
    (noWrap : NoWrap h.heap size align) : h.allocate size align = h.bump size align := by
  obtain ⟨alignedOff, aligned, alignedValue⟩ := align_size_toNat h.heap align nonzero noWrap.1
  have endValue : (alignedOff + size).toNat = alignedOff.toNat + size.toNat := by
    rw [BitVec.toNat_add]
    exact Nat.mod_eq_of_lt (alignedValue ▸ noWrap.2)
  have alignedEq : alignedOff = BitVec.ofNat 64 (alignUp h.heap.toNat align.toNat) := by
    rw [← alignedValue, BitVec.ofNat_toNat, BitVec.setWidth_eq]
  have endEq : BitVec.ofNat 64 (alignUp h.heap.toNat align.toNat) + size =
      BitVec.ofNat 64 (alignUp h.heap.toNat align.toNat + size.toNat) := by
    rw [← alignedEq, ← alignedValue, ← endValue, BitVec.ofNat_toNat, BitVec.setWidth_eq]
  simp only [Heap.allocate, attempt, aligned, Heap.bump, GT.gt, BitVec.lt_def, endValue,
    alignedValue]
  split <;> simp [Except.map, alignedEq, endEq]

/-! ## The contract of one call, and of a run -/

/-- The contract of one caught `Allocate(size, align)` from `h`: it throws `OUT_OF_MEMORY` exactly
when the aligned end passes `max_size`, leaving the heap as it was, and otherwise returns an
aligned offset at or above the old one, whose range ends within `max_size`, and moves the offset
to that end. -/
def AllocateSpec (h : Heap) (size align : SizeT) : Except HeapError SizeT × Heap → Prop
  | (.error e, next) =>
      next = h ∧ h.maxSize.toNat < alignUp h.heap.toNat align.toNat + size.toNat ∧
        ∃ endOff, e = .outOfMemory endOff h.maxSize
  | (.ok off, next) =>
      align.toNat ∣ off.toNat ∧ h.heap.toNat ≤ off.toNat ∧
        off.toNat + size.toNat ≤ h.maxSize.toNat ∧ next = { h with heap := off + size } ∧
        (off + size).toNat = off.toNat + size.toNat

theorem call_of_bump {h : Heap} {size align : SizeT} (positive : 0 < align.toNat)
    (same : h.allocate size align = h.bump size align) :
    AllocateSpec h size align (h.call size align) := by
  have bounds := align_up_bounds h.heap.toNat align.toNat positive
  have maxBound := h.maxSize.isLt
  unfold Heap.call
  rw [same]
  by_cases over : h.maxSize.toNat < alignUp h.heap.toNat align.toNat + size.toNat
  · simp only [Heap.bump, if_pos over]
    exact ⟨rfl, over, _, rfl⟩
  · simp only [Heap.bump, if_neg over]
    have alignedValue : (BitVec.ofNat 64 (alignUp h.heap.toNat align.toNat)).toNat =
        alignUp h.heap.toNat align.toNat := by
      rw [BitVec.toNat_ofNat]; exact Nat.mod_eq_of_lt (by omega)
    have endValue : (BitVec.ofNat 64 (alignUp h.heap.toNat align.toNat) + size).toNat =
        alignUp h.heap.toNat align.toNat + size.toNat := by
      rw [BitVec.toNat_add, alignedValue]; exact Nat.mod_eq_of_lt (by omega)
    refine ⟨?_, ?_, ?_, ?_, ?_⟩
    · rw [alignedValue]; exact bounds.1
    · rw [alignedValue]; exact bounds.2.1
    · rw [alignedValue]; omega
    · congr 1
      apply BitVec.eq_of_toNat_eq
      rw [endValue]
      simp only [BitVec.toNat_ofNat]
      omega
    · rw [endValue, alignedValue]

/-- Every call with a nonzero `align` that wraps neither addition keeps the contract. -/
theorem call_spec (h : Heap) (size align : SizeT) (nonzero : align ≠ 0)
    (noWrap : NoWrap h.heap size align) : AllocateSpec h size align (h.call size align) :=
  call_of_bump (toNat_pos_of_ne_zero nonzero) (allocate_eq_bump h size align nonzero noWrap)

/-- A call that keeps the contract keeps the heap within its bound. -/
theorem AllocateSpec.within {h : Heap} {size align : SizeT} {step : Except HeapError SizeT × Heap}
    (spec : AllocateSpec h size align step) (within : h.heap ≤ h.maxSize) :
    step.2.maxSize = h.maxSize ∧ step.2.heap ≤ h.maxSize ∧ h.heap.toNat ≤ step.2.heap.toNat := by
  rw [BitVec.le_def] at within ⊢
  match step, spec with
  | (.error _, _), ⟨rfl, _⟩ => exact ⟨rfl, within, le_rfl⟩
  | (.ok off, _), ⟨_, above, inside, rfl, endValue⟩ =>
      exact ⟨rfl, by simp only [endValue]; omega, by simp only [endValue]; omega⟩

/-- Each call of a run from `h` has a nonzero `align` and wraps neither addition at the offset the
heap has when the call is made. -/
def Heap.WellFormed : Heap → List (SizeT × SizeT) → Prop
  | _, [] => True
  | h, (size, align) :: calls =>
      align ≠ 0 ∧ NoWrap h.heap size align ∧ (h.call size align).2.WellFormed calls

instance Heap.decidableWellFormed :
    (h : Heap) → (calls : List (SizeT × SizeT)) → Decidable (h.WellFormed calls)
  | _, [] => isTrue trivial
  | h, (size, align) :: calls =>
      haveI := Heap.decidableWellFormed (h.call size align).2 calls
      inferInstanceAs (Decidable (_ ∧ _ ∧ _))

/-- Every call of a run keeps the contract, from the heap the calls before it left. -/
def Heap.RunContract : Heap → List (SizeT × SizeT) → Prop
  | _, [] => True
  | h, (size, align) :: calls =>
      AllocateSpec h size align (h.call size align) ∧ (h.call size align).2.RunContract calls

theorem run_contract (h : Heap) (calls : List (SizeT × SizeT)) (wellFormed : h.WellFormed calls) :
    h.RunContract calls := by
  induction calls generalizing h with
  | nil => trivial
  | cons call calls ih =>
      obtain ⟨size, align⟩ := call
      obtain ⟨nonzero, noWrap, rest⟩ := wellFormed
      exact ⟨call_spec h size align nonzero noWrap, ih _ rest⟩

/-- Along a run the offset never decreases and stays within `max_size`, and the successful
calls return ranges inside `[initial_offset, max_size]`, each ending where the next may begin. -/
def Heap.RunBounds (h : Heap) (calls : List (SizeT × SizeT)) : Prop :=
  (h.heap.toNat :: (h.run calls).map fun step => step.2.heap.toNat).Chain' (· ≤ ·) ∧
    (∀ step ∈ h.run calls, step.2.maxSize = h.maxSize ∧ step.2.heap ≤ h.maxSize) ∧
    (ranges calls (h.run calls)).Pairwise (fun r s => r.2 ≤ s.1) ∧
    ∀ r ∈ ranges calls (h.run calls), h.heap.toNat ≤ r.1 ∧ r.2 ≤ h.maxSize.toNat

theorem run_bounds (h : Heap) (calls : List (SizeT × SizeT)) (within : h.heap ≤ h.maxSize)
    (wellFormed : h.WellFormed calls) : h.RunBounds calls := by
  unfold Heap.RunBounds
  induction calls generalizing h with
  | nil => simp [Heap.run, ranges, List.chain'_singleton]
  | cons call calls ih =>
      obtain ⟨size, align⟩ := call
      obtain ⟨nonzero, noWrap, rest⟩ := wellFormed
      have spec := call_spec h size align nonzero noWrap
      obtain ⟨sameMax, nextWithin, rises⟩ := spec.within within
      obtain ⟨chain, steps, disjoint, inside⟩ := ih (h.call size align).2 (sameMax ▸ nextWithin) rest
      rw [sameMax] at steps inside
      simp only [Heap.run, List.map_cons, List.chain'_cons, List.mem_cons, forall_eq_or_imp]
      refine ⟨⟨rises, chain⟩, ⟨⟨sameMax, nextWithin⟩, steps⟩, ?_⟩
      generalize h.call size align = step at spec rises disjoint inside
      obtain ⟨result, next⟩ := step
      cases result with
      | error e =>
          obtain ⟨rfl, -⟩ := spec
          exact ⟨disjoint, inside⟩
      | ok off =>
          obtain ⟨-, above, fits, rfl, endValue⟩ := spec
          simp only [ranges, List.pairwise_cons, List.mem_cons, forall_eq_or_imp]
          simp only [endValue] at inside
          exact ⟨⟨fun r member => (inside r member).1, disjoint⟩, ⟨above, fits⟩,
            fun r member => ⟨by have := (inside r member).1; omega, (inside r member).2⟩⟩

/-- From `initial_offset ≤ max_size`, with nonzero alignments and no call wrapping an addition at
its own offset, every call keeps the contract and the run stays within its bounds. -/
theorem heap_run_contract (h : Heap) (calls : List (SizeT × SizeT)) (within : h.heap ≤ h.maxSize)
    (wellFormed : h.WellFormed calls) : h.RunContract calls ∧ h.RunBounds calls :=
  ⟨run_contract h calls wellFormed, run_bounds h calls within wellFormed⟩

/-- Four calls on a 64-byte heap: a `SIZE_MAX` request that throws without wrapping, one aligned
up, one that throws, one that fits. -/
def sampleCalls : List (SizeT × SizeT) := [(-1, 8), (5, 8), (100, 8), (4, 16)]

theorem heap_run_contract_sample :
    (Heap.mk 0 64).heap ≤ (Heap.mk 0 64).maxSize ∧ (Heap.mk 0 64).WellFormed sampleCalls ∧
      (Heap.mk 0 64).RunContract sampleCalls ∧ (Heap.mk 0 64).RunBounds sampleCalls :=
  have within : (Heap.mk 0 64).heap ≤ (Heap.mk 0 64).maxSize := by decide
  have wellFormed : (Heap.mk 0 64).WellFormed sampleCalls := by decide
  ⟨within, wellFormed, heap_run_contract _ _ within wellFormed⟩

end IowarpCore.Memory.BumpHeap
