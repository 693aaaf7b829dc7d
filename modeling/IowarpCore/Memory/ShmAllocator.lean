import IowarpCore.Types.Numbers

/-!
# Allocators, offset pointers and full pointers

An allocator owns the bytes `[buffer_, buffer_ + buffer_size_)` of this process. An
`OffsetPointer` is an offset into them, a `Pointer` adds the `AllocatorId` it names, and a
`FullPtr<T>` pairs a native `T *` with a `Pointer`. The resolving constructors of `FullPtr` check
`ContainsPtr` and throw `PTR_NOT_IN_ALLOCATOR` otherwise; the one taking a `Pointer` checks only
its offset and keeps its `alloc_id_`, as the design asks (`FullPtr::from(allocator, Pointer)`
validates the offset). The arithmetic operators move `ptr_` by whole `T`s and `shm_` by bytes.

`BaseAllocator<CoreAllocT>` turns the offsets its core allocator returns into `FullPtr`s as
`buffer_ + off`, null offset included, and `NewObjs` constructs objects unless `ptr_` is null.
The core allocator is a template parameter, so its calls are given as functions.

`MemoryAlignment::AlignTo` divides by its `alignment`, so 0 traps, and it takes the remainder by
`alignment` but adds the page size, so it aligns only to divisors of the page size
(`align_to_aligned_iff`); `AlignToPageSize` rounds up (`align_to_page_size_rounds_up`).
-/

namespace IowarpCore.Memory.ShmAllocator

open IowarpCore.Types.Numbers

set_option autoImplicit false

/-- `AllocatorId`: two `i32`s, compared through the union's `u64` view, that is, both at once. -/
structure AllocatorId where
  major : BitVec 32
  minor : BitVec 32
  deriving DecidableEq, Repr

def AllocatorId.getNull : AllocatorId := ⟨-1, -1⟩

structure OffsetPointer where
  off : SizeT
  deriving DecidableEq, Repr

/-- `OffsetPointer::GetNull()`: the offset `(size_t)-1`. -/
def OffsetPointer.getNull : OffsetPointer := ⟨-1⟩

def OffsetPointer.isNull (p : OffsetPointer) : Bool := p.off = -1

/-- `Pointer`: `alloc_id_`, and the offset held by `off_`. -/
structure Pointer where
  allocId : AllocatorId
  off : SizeT
  deriving DecidableEq, Repr

def Pointer.getNull : Pointer := ⟨AllocatorId.getNull, -1⟩

/-- `FullPtr<T>`: `ptr_` as an address, and `shm_`. -/
structure FullPtr where
  ptr : SizeT
  shm : Pointer
  deriving DecidableEq, Repr

/-- `FullPtr::IsNull()`: `ptr_ == nullptr`. -/
def FullPtr.isNull (p : FullPtr) : Bool := p.ptr = 0

/-- The part of an `Allocator` pointers are resolved against. A mapped range does not run past the
top of the address space. -/
structure Allocator where
  id : AllocatorId
  buffer : SizeT
  bufferSize : SizeT
  mapped : buffer.toNat + bufferSize.toNat < 2 ^ 64

def Allocator.containsPtr (a : Allocator) (ptr : SizeT) : Bool :=
  a.buffer ≤ ptr && ptr < a.buffer + a.bufferSize

/-- The two `ContainsPtr` overloads for shared pointers: the offset is below `buffer_size_`. -/
def Allocator.containsOffset (a : Allocator) (off : SizeT) : Bool := off < a.bufferSize

def Allocator.containsOffsetPointer (a : Allocator) (p : OffsetPointer) : Bool :=
  a.containsOffset p.off

/-- `ContainsPtr(const PointerBase &ptr)`: its `alloc_id_` is not looked at. -/
def Allocator.containsPointer (a : Allocator) (p : Pointer) : Bool := a.containsOffset p.off

/-- What the resolving constructors throw: `PTR_NOT_IN_ALLOCATOR`. -/
inductive PointerError
  | ptrNotInAllocator
  deriving DecidableEq, Repr

/-- `FullPtr(ctx_alloc, ptr)` for a native pointer. -/
def FullPtr.ofNative (a : Allocator) (ptr : SizeT) : Except PointerError FullPtr :=
  if a.containsPtr ptr then .ok ⟨ptr, ⟨a.id, ptr - a.buffer⟩⟩ else .error .ptrNotInAllocator

/-- The full pointer to offset `off` of `a`, naming `allocId`. -/
def resolveOffset (a : Allocator) (allocId : AllocatorId) (off : SizeT) : FullPtr :=
  ⟨a.buffer + off, ⟨allocId, off⟩⟩

/-- `FullPtr(ctx_alloc, shm)` for an `OffsetPointer`. -/
def FullPtr.ofOffsetPointer (a : Allocator) (shm : OffsetPointer) : Except PointerError FullPtr :=
  if a.containsOffsetPointer shm then .ok (resolveOffset a a.id shm.off)
  else .error .ptrNotInAllocator

/-- `FullPtr(ctx_alloc, shm)` for a `Pointer`: the result keeps `shm.alloc_id_`. -/
def FullPtr.ofPointer (a : Allocator) (shm : Pointer) : Except PointerError FullPtr :=
  if a.containsPointer shm then .ok (resolveOffset a shm.allocId shm.off)
  else .error .ptrNotInAllocator

def Pointer.add (p : Pointer) (size : SizeT) : Pointer := ⟨p.allocId, p.off + size⟩

def Pointer.sub (p : Pointer) (size : SizeT) : Pointer := ⟨p.allocId, p.off - size⟩

/-- `FullPtr<T>::operator+(size)`, `T` taking `elemSize` bytes. -/
def FullPtr.add (elemSize : SizeT) (p : FullPtr) (size : SizeT) : FullPtr :=
  ⟨p.ptr + size * elemSize, p.shm.add size⟩

def FullPtr.sub (elemSize : SizeT) (p : FullPtr) (size : SizeT) : FullPtr :=
  ⟨p.ptr - size * elemSize, p.shm.sub size⟩

/-- The arithmetic operators of `FullPtr`. -/
inductive PtrOp
  | add (size : SizeT)
  | sub (size : SizeT)
  | addAssign (size : SizeT)
  | subAssign (size : SizeT)
  | preIncrement
  | preDecrement
  | postIncrement
  | postDecrement

/-- What an operator returns, and the value it leaves in the pointer it is applied to. -/
def FullPtr.apply (elemSize : SizeT) (p : FullPtr) : PtrOp → FullPtr × FullPtr
  | .add size => (p.add elemSize size, p)
  | .sub size => (p.sub elemSize size, p)
  | .addAssign size => (p.add elemSize size, p.add elemSize size)
  | .subAssign size => (p.sub elemSize size, p.sub elemSize size)
  | .preIncrement => (p.add elemSize 1, p.add elemSize 1)
  | .preDecrement => (p.sub elemSize 1, p.sub elemSize 1)
  | .postIncrement => (p, p.add elemSize 1)
  | .postDecrement => (p, p.sub elemSize 1)

/-- An allocator with id 1.0 over 4 KiB at `0x1000`. -/
def sampleAllocator : Allocator := ⟨⟨1, 0⟩, 0x1000, 4096, by decide⟩

/-- A `Pointer` naming allocator 2.0 resolves in allocator 1.0 and keeps its id; and `+ 1` on a
`FullPtr<u32>` moves `ptr_` four bytes but `shm_` one. -/
theorem full_ptr_of_foreign_pointer_and_typed_step :
    FullPtr.ofPointer sampleAllocator ⟨⟨2, 0⟩, 0⟩ = .ok ⟨0x1000, ⟨⟨2, 0⟩, 0⟩⟩ ∧
      (FullPtr.apply 4 ⟨0x1000, ⟨⟨1, 0⟩, 0⟩⟩ (.add 1)).1 = ⟨0x1004, ⟨⟨1, 0⟩, 1⟩⟩ :=
  ⟨rfl, rfl⟩

/-! ## `BaseAllocator` -/

/-- The calls of the core allocator `BaseAllocator` wraps; the `MemContext` is left out. -/
structure CoreAllocator where
  allocateOffset : SizeT → OffsetPointer
  alignedAllocateOffset : SizeT → SizeT → OffsetPointer
  reallocateOffsetNoNullCheck : OffsetPointer → SizeT → OffsetPointer

/-- `_NullAllocator`: allocation returns the null offset, reallocation the offset it is given. -/
def nullAllocator : CoreAllocator :=
  ⟨fun _ => .getNull, fun _ _ => .getNull, fun p _ => p⟩

/-- The `FullPtr` the allocating calls build from a core offset: `shm_` names the allocator, and
`ptr_` is `buffer_ + off`. -/
def wrapOffset (a : Allocator) (off : OffsetPointer) : FullPtr := resolveOffset a a.id off.off

def allocate (core : CoreAllocator) (a : Allocator) (size : SizeT) : FullPtr :=
  wrapOffset a (core.allocateOffset size)

def alignedAllocate (core : CoreAllocator) (a : Allocator) (size alignment : SizeT) : FullPtr :=
  wrapOffset a (core.alignedAllocateOffset size alignment)

/-- `Allocate(ctx, size, alignment)`: `Allocate` when `alignment` is 0. -/
def allocateAligned (core : CoreAllocator) (a : Allocator) (size alignment : SizeT) : FullPtr :=
  if alignment = 0 then allocate core a size else alignedAllocate core a size alignment

/-- `Reallocate(ctx, p, new_size)`: `Allocate` when `p` is null. -/
def reallocate (core : CoreAllocator) (a : Allocator) (p : FullPtr) (newSize : SizeT) : FullPtr :=
  if p.isNull then allocate core a newSize
  else wrapOffset a (core.reallocateOffsetNoNullCheck ⟨p.shm.off⟩ newSize)

/-- `AllocateObjs<T>(ctx, count)`: `count * sizeof(T)` bytes, the product taken in `size_t`. -/
def allocateObjs (core : CoreAllocator) (a : Allocator) (elemSize count : SizeT) : FullPtr :=
  allocate core a (count * elemSize)

/-- `ConstructObjs<T>(ptr, old_count, new_count)`: the addresses it constructs at, none for a null
`ptr`. -/
def constructObjs (elemSize ptr oldCount newCount : SizeT) : List SizeT :=
  if ptr = 0 then []
  else ((List.range newCount.toNat).drop oldCount.toNat).map
    fun i => ptr + BitVec.ofNat 64 i * elemSize

/-- `NewObjs<T>(ctx, count)`: the pointer it returns, and where it ran constructors. -/
def newObjs (core : CoreAllocator) (a : Allocator) (elemSize count : SizeT) :
    FullPtr × List SizeT :=
  let allocated := allocateObjs core a elemSize count
  (allocated, constructObjs elemSize allocated.ptr 0 count)

/-- `_NullAllocator` over a buffer at `0x1000`: `Allocate` returns `ptr_ = 0xfff`, which is not
null, and `NewObjs` of one 8-byte object constructs it there; and `NewObjs` of `2^61` such objects
asks the core allocator for 0 bytes. -/
theorem null_allocator_allocate_not_null :
    (allocate nullAllocator sampleAllocator 16).isNull = false ∧
      newObjs nullAllocator sampleAllocator 8 1 =
        (⟨0xfff, ⟨⟨1, 0⟩, -1⟩⟩, [0xfff]) ∧
      ∀ core : CoreAllocator, allocateObjs core sampleAllocator 8 (BitVec.ofNat 64 (2 ^ 61)) =
        allocate core sampleAllocator 0 :=
  ⟨rfl, rfl, fun _ => rfl⟩

/-! ## Freeing what `BaseAllocator` allocated -/

/-- What `Free` throws: `INVALID_FREE`. -/
inductive FreeError
  | invalidFree
  deriving DecidableEq, Repr

/-- `Free(ctx, p)`: `INVALID_FREE` for a null `ptr_`, and otherwise the offset it hands the core
allocator's `FreeOffsetNoNullCheck`. -/
def free (p : FullPtr) : Except FreeError OffsetPointer :=
  if p.isNull then .error .invalidFree else .ok ⟨p.shm.off⟩

/-- `DestructObjs<T>(ptr, count)`: the addresses it runs destructors at, none for a null `ptr`. -/
def destructObjs (elemSize ptr count : SizeT) : List SizeT :=
  if ptr = 0 then []
  else (List.range count.toNat).map fun i => ptr + BitVec.ofNat 64 i * elemSize

/-- `DelObjs<T>(ctx, p, count)`: where it ran destructors, and what `Free` did. -/
def delObjs (elemSize : SizeT) (p : FullPtr) (count : SizeT) :
    List SizeT × Except FreeError OffsetPointer :=
  (destructObjs elemSize p.ptr count, free p)

def delObj (elemSize : SizeT) (p : FullPtr) : List SizeT × Except FreeError OffsetPointer :=
  delObjs elemSize p 1

def newObj (core : CoreAllocator) (a : Allocator) (elemSize : SizeT) : FullPtr × List SizeT :=
  newObjs core a elemSize 1

/-- `ReallocateObjs<T>(ctx, p, new_count)`: the pointer it returns, which it also leaves in `p`. -/
def reallocateObjs (core : CoreAllocator) (a : Allocator) (elemSize : SizeT) (p : FullPtr)
    (newCount : SizeT) : FullPtr :=
  reallocate core a p (newCount * elemSize)

/-! ## What a `FullPtr` of an allocator denotes -/

/-- The `FullPtr`s a program gets from `a`, for an element type of `elemSize` bytes: from a
resolving constructor or an allocating call of `BaseAllocator`, then through the arithmetic
operators. The index is the `alloc_id_` the pointer was built with. -/
inductive Derived (a : Allocator) (core : CoreAllocator) (elemSize : SizeT) :
    AllocatorId → FullPtr → Prop
  | native {ptr : SizeT} {p : FullPtr} (resolved : FullPtr.ofNative a ptr = .ok p) :
      Derived a core elemSize a.id p
  | offsetPointer {shm : OffsetPointer} {p : FullPtr}
      (resolved : FullPtr.ofOffsetPointer a shm = .ok p) : Derived a core elemSize a.id p
  | pointer {shm : Pointer} {p : FullPtr} (resolved : FullPtr.ofPointer a shm = .ok p) :
      Derived a core elemSize shm.allocId p
  | allocate (size : SizeT) : Derived a core elemSize a.id (allocate core a size)
  | alignedAllocate (size alignment : SizeT) :
      Derived a core elemSize a.id (alignedAllocate core a size alignment)
  | allocateAligned (size alignment : SizeT) :
      Derived a core elemSize a.id (allocateAligned core a size alignment)
  | reallocate (p : FullPtr) (newSize : SizeT) :
      Derived a core elemSize a.id (reallocate core a p newSize)
  | returned {origin : AllocatorId} {p : FullPtr} (op : PtrOp)
      (derived : Derived a core elemSize origin p) : Derived a core elemSize origin (p.apply elemSize op).1
  | updated {origin : AllocatorId} {p : FullPtr} (op : PtrOp)
      (derived : Derived a core elemSize origin p) : Derived a core elemSize origin (p.apply elemSize op).2

/-- `ptr_` is `buffer_ + off_`, and `alloc_id_` is `allocId`. -/
def Denotes (a : Allocator) (allocId : AllocatorId) (p : FullPtr) : Prop :=
  p.ptr = a.buffer + p.shm.off ∧ p.shm.allocId = allocId

theorem resolve_offset_denotes (a : Allocator) (allocId : AllocatorId) (off : SizeT) :
    Denotes a allocId (resolveOffset a allocId off) :=
  ⟨rfl, rfl⟩

theorem exists_ok_ite {c : Prop} [Decidable c] {x : FullPtr} :
    (∃ p, (if c then (.ok x : Except PointerError FullPtr) else .error .ptrNotInAllocator) =
      .ok p) ↔ c := by
  by_cases holds : c <;> simp [holds]

theorem ok_of_ite {c : Prop} [Decidable c] {x p : FullPtr}
    (resolved : (if c then (.ok x : Except PointerError FullPtr) else .error .ptrNotInAllocator) =
      .ok p) : c ∧ p = x := by
  by_cases holds : c <;> simp_all

/-- Byte-sized arithmetic moves both halves alike and keeps `alloc_id_`. -/
theorem Denotes.apply {a : Allocator} {allocId : AllocatorId} {p : FullPtr}
    (denotes : Denotes a allocId p) (op : PtrOp) :
    Denotes a allocId (p.apply 1 op).1 ∧ Denotes a allocId (p.apply 1 op).2 := by
  obtain ⟨ptr, allocated⟩ := denotes
  have added (size : SizeT) : Denotes a allocId (p.add 1 size) :=
    ⟨by simp only [FullPtr.add, Pointer.add, ptr]; bv_omega, allocated⟩
  have subtracted (size : SizeT) : Denotes a allocId (p.sub 1 size) :=
    ⟨by simp only [FullPtr.sub, Pointer.sub, ptr]; bv_omega, allocated⟩
  cases op with
  | add size => exact ⟨added size, ptr, allocated⟩
  | sub size => exact ⟨subtracted size, ptr, allocated⟩
  | addAssign size => exact ⟨added size, added size⟩
  | subAssign size => exact ⟨subtracted size, subtracted size⟩
  | preIncrement => exact ⟨added 1, added 1⟩
  | preDecrement => exact ⟨subtracted 1, subtracted 1⟩
  | postIncrement => exact ⟨⟨ptr, allocated⟩, added 1⟩
  | postDecrement => exact ⟨⟨ptr, allocated⟩, subtracted 1⟩

/-- Every `FullPtr` obtained from `a` with byte-sized arithmetic has `ptr_ = buffer_ + off_`,
and keeps the `alloc_id_` it was built with. -/
theorem derived_denotes {a : Allocator} {core : CoreAllocator} {origin : AllocatorId}
    {p : FullPtr} (derived : Derived a core 1 origin p) : Denotes a origin p := by
  induction derived with
  | native resolved =>
      obtain ⟨-, rfl⟩ := ok_of_ite resolved
      exact ⟨by rw [BitVec.add_comm, BitVec.sub_add_cancel], rfl⟩
  | offsetPointer resolved =>
      obtain ⟨-, rfl⟩ := ok_of_ite resolved
      exact resolve_offset_denotes _ _ _
  | pointer resolved =>
      obtain ⟨-, rfl⟩ := ok_of_ite resolved
      exact resolve_offset_denotes _ _ _
  | allocate => exact resolve_offset_denotes _ _ _
  | alignedAllocate => exact resolve_offset_denotes _ _ _
  | allocateAligned =>
      unfold allocateAligned
      split <;> exact resolve_offset_denotes _ _ _
  | reallocate =>
      unfold reallocate
      split <;> exact resolve_offset_denotes _ _ _
  | returned op _ denotes => exact (denotes.apply op).1
  | updated op _ denotes => exact (denotes.apply op).2

theorem Allocator.end_toNat (a : Allocator) :
    (a.buffer + a.bufferSize).toNat = a.buffer.toNat + a.bufferSize.toNat := by
  rw [BitVec.toNat_add]
  exact Nat.mod_eq_of_lt a.mapped

theorem Allocator.contains_ptr_iff (a : Allocator) (ptr : SizeT) :
    a.containsPtr ptr ↔
      a.buffer.toNat ≤ ptr.toNat ∧ ptr.toNat < a.buffer.toNat + a.bufferSize.toNat := by
  simp [Allocator.containsPtr, BitVec.le_def, BitVec.lt_def, a.end_toNat]

theorem Allocator.contains_offset_iff (a : Allocator) (off : SizeT) :
    a.containsOffset off ↔ off.toNat < a.bufferSize.toNat := by
  simp [Allocator.containsOffset, BitVec.lt_def]

/-- Native to `Pointer` and back: the same `FullPtr`. -/
theorem of_native_of_pointer {a : Allocator} {ptr : SizeT} {p : FullPtr}
    (resolved : FullPtr.ofNative a ptr = .ok p) : FullPtr.ofPointer a p.shm = .ok p := by
  obtain ⟨inside, rfl⟩ := ok_of_ite resolved
  rw [a.contains_ptr_iff] at inside
  have offset : (ptr - a.buffer).toNat = ptr.toNat - a.buffer.toNat := by
    rw [BitVec.toNat_sub]
    omega
  rw [FullPtr.ofPointer, Allocator.containsPointer,
    if_pos ((a.contains_offset_iff _).mpr (by simp only [offset]; omega))]
  simp only [resolveOffset, BitVec.add_comm a.buffer, BitVec.sub_add_cancel]

/-- `Pointer` to native and back: the same offset, now naming `a`. -/
theorem of_pointer_of_native {a : Allocator} {shm : Pointer} {p : FullPtr}
    (resolved : FullPtr.ofPointer a shm = .ok p) :
    FullPtr.ofNative a p.ptr = .ok ⟨p.ptr, ⟨a.id, shm.off⟩⟩ := by
  obtain ⟨inside, rfl⟩ := ok_of_ite resolved
  rw [Allocator.containsPointer, a.contains_offset_iff] at inside
  have mapped := a.mapped
  have address : (a.buffer + shm.off).toNat = a.buffer.toNat + shm.off.toNat := by
    rw [BitVec.toNat_add]
    exact Nat.mod_eq_of_lt (by omega)
  rw [FullPtr.ofNative, if_pos ((a.contains_ptr_iff _).mpr (by simp only [resolveOffset, address]; omega))]
  simp only [resolveOffset, BitVec.add_comm a.buffer shm.off, BitVec.add_sub_cancel]

/-- For any allocator `a`, with byte-sized elements: every `FullPtr` obtained from `a` has
`ptr_ = buffer_ + off_` and the `alloc_id_` it was built with, `a`'s or the resolved `Pointer`'s;
the native constructor succeeds exactly inside `[buffer_, buffer_ + buffer_size_)`, the shared
ones exactly for offsets below `buffer_size_`, whatever `alloc_id_` says; native to `Pointer` to
native is the identity, and `Pointer` to native to `Pointer` keeps the offset and names `a`. -/
theorem full_ptr_resolves (a : Allocator) (core : CoreAllocator) :
    (∀ origin p, Derived a core 1 origin p → Denotes a origin p) ∧
      (∀ ptr, (∃ p, FullPtr.ofNative a ptr = .ok p) ↔
        a.buffer.toNat ≤ ptr.toNat ∧ ptr.toNat < a.buffer.toNat + a.bufferSize.toNat) ∧
      (∀ shm, (∃ p, FullPtr.ofOffsetPointer a shm = .ok p) ↔
        shm.off.toNat < a.bufferSize.toNat) ∧
      (∀ shm, (∃ p, FullPtr.ofPointer a shm = .ok p) ↔ shm.off.toNat < a.bufferSize.toNat) ∧
      (∀ ptr p, FullPtr.ofNative a ptr = .ok p → FullPtr.ofPointer a p.shm = .ok p) ∧
      (∀ shm p, FullPtr.ofPointer a shm = .ok p →
        FullPtr.ofNative a p.ptr = .ok ⟨p.ptr, ⟨a.id, shm.off⟩⟩) :=
  ⟨fun _ _ => derived_denotes, fun ptr => exists_ok_ite.trans (a.contains_ptr_iff ptr),
    fun shm => exists_ok_ite.trans (a.contains_offset_iff shm.off),
    fun shm => exists_ok_ite.trans (a.contains_offset_iff shm.off),
    fun _ _ => of_native_of_pointer, fun _ _ => of_pointer_of_native⟩

/-! ## Allocator ids as indices -/

/-- `AllocatorId::ToIndex()`: `major_ * 2 + minor_`, computed in `i32` and returned as
`uint32_t`. -/
def AllocatorId.toIndex (id : AllocatorId) : BitVec 32 := id.major * 2 + id.minor

/-! ## `MemoryAlignment` -/

/-- `MemoryAlignment::AlignTo(alignment, size)`, `pageSize` being `HSHM_SYSTEM_INFO->page_size_`:
the remainder is taken by `alignment`, and the page size is added. An `alignment` of 0 divides by
zero, which traps (`none`). -/
def alignTo (pageSize alignment size : SizeT) : Option SizeT :=
  if alignment = 0 then none
  else
    let pageOff := size % alignment
    some (if pageOff ≠ 0 then size + pageSize - pageOff else size)

def alignToPageSize (pageSize size : SizeT) : Option SizeT := alignTo pageSize pageSize size

theorem align_to_toNat {pageSize alignment size aligned : SizeT}
    (fits : size.toNat + pageSize.toNat < 2 ^ 64) (computed : alignTo pageSize alignment size = some aligned) :
    aligned.toNat = if size.toNat % alignment.toNat = 0 then size.toNat
      else size.toNat + pageSize.toNat - size.toNat % alignment.toNat := by
  have offLe : size.toNat % alignment.toNat ≤ size.toNat := Nat.mod_le _ _
  have offZero : size % alignment = 0 ↔ size.toNat % alignment.toNat = 0 := by
    rw [BitVec.toNat_eq, BitVec.toNat_umod]; rfl
  unfold alignTo at computed
  split at computed
  · cases computed
  · cases computed
    by_cases aligned : size.toNat % alignment.toNat = 0
    · rw [if_neg (not_not.mpr (offZero.mpr aligned)), if_pos aligned]
    · rw [if_pos (mt offZero.mp aligned), if_neg aligned, BitVec.toNat_sub, BitVec.toNat_add,
        BitVec.toNat_umod]
      omega

theorem align_to_eq_none {pageSize alignment size : SizeT} :
    alignTo pageSize alignment size = none ↔ alignment = 0 := by
  unfold alignTo
  split <;> simp_all

/-- `AlignToPageSize` rounds up to the nearest multiple of a positive page size. -/
theorem align_to_page_size_rounds_up (pageSize size : SizeT) (positive : 0 < pageSize.toNat)
    (fits : size.toNat + pageSize.toNat < 2 ^ 64) :
    ∃ aligned, alignToPageSize pageSize size = some aligned ∧ pageSize.toNat ∣ aligned.toNat ∧
      size.toNat ≤ aligned.toNat ∧ aligned.toNat < size.toNat + pageSize.toNat := by
  have below := Nat.mod_lt size.toNat positive
  have whole := Nat.div_add_mod size.toNat pageSize.toNat
  have nonzero : pageSize ≠ 0 := fun zero => by simp [zero] at positive
  have computes : alignToPageSize pageSize size ≠ none := mt align_to_eq_none.mp nonzero
  obtain ⟨aligned, computed⟩ := Option.ne_none_iff_exists'.mp computes
  refine ⟨aligned, computed, ?_⟩
  rw [align_to_toNat fits computed]
  split
  · exact ⟨Nat.dvd_of_mod_eq_zero ‹_›, le_rfl, by omega⟩
  · exact ⟨⟨size.toNat / pageSize.toNat + 1, by rw [Nat.mul_add, Nat.mul_one]; omega⟩, by omega,
      by omega⟩

theorem align_to_page_size_rounds_up_one_past_page :
    0 < (4096 : SizeT).toNat ∧ (4097 : SizeT).toNat + (4096 : SizeT).toNat < 2 ^ 64 ∧
      ∃ aligned, alignToPageSize 4096 4097 = some aligned ∧ (4096 : SizeT).toNat ∣ aligned.toNat ∧
        (4097 : SizeT).toNat ≤ aligned.toNat ∧ aligned.toNat < (4097 : SizeT).toNat + (4096 : SizeT).toNat :=
  ⟨by decide, by decide, align_to_page_size_rounds_up 4096 4097 (by decide) (by decide)⟩

/-- `AlignTo` traps exactly for an `alignment` of 0; otherwise it takes the remainder by
`alignment` but adds the page size, so it returns a multiple of `alignment` exactly when `size`
already is one or `alignment` divides the page size. -/
theorem align_to_aligned_iff (pageSize alignment size : SizeT)
    (fits : size.toNat + pageSize.toNat < 2 ^ 64) :
    (alignTo pageSize alignment size = none ↔ alignment = 0) ∧
      ∀ aligned, alignTo pageSize alignment size = some aligned →
        (alignment.toNat ∣ aligned.toNat ↔
          alignment.toNat ∣ size.toNat ∨ alignment.toNat ∣ pageSize.toNat) := by
  refine ⟨align_to_eq_none, fun aligned computed => ?_⟩
  rw [align_to_toNat fits computed]
  split
  · simp only [Nat.dvd_of_mod_eq_zero ‹_›, true_or]
  · have base : alignment.toNat ∣ size.toNat - size.toNat % alignment.toNat := Nat.dvd_sub_mod _
    have offLe : size.toNat % alignment.toNat ≤ size.toNat := Nat.mod_le _ _
    rw [show size.toNat + pageSize.toNat - size.toNat % alignment.toNat =
        size.toNat - size.toNat % alignment.toNat + pageSize.toNat by omega,
      Nat.dvd_add_right base, Nat.dvd_iff_mod_eq_zero (n := size.toNat)]
    simp only [‹¬_›, false_or]

theorem align_to_unaligned_on_small_pages :
    (1 : SizeT).toNat + (4096 : SizeT).toNat < 2 ^ 64 ∧
      alignTo 4096 8192 1 = some 4096 ∧ alignTo 4096 0 1 = none ∧
      ¬ (8192 : SizeT).toNat ∣ (4096 : SizeT).toNat :=
  have fits : (1 : SizeT).toNat + (4096 : SizeT).toNat < 2 ^ 64 := by decide
  ⟨fits, rfl, (align_to_aligned_iff 4096 0 1 fits).1.mpr rfl,
    fun aligned => absurd ((align_to_aligned_iff 4096 8192 1 fits).2 4096 rfl |>.mp aligned)
      (by decide)⟩

example : alignTo 4096 64 65 = some 4160 ∧ alignToPageSize 4096 4097 = some 8192 := ⟨rfl, rfl⟩

end IowarpCore.Memory.ShmAllocator
