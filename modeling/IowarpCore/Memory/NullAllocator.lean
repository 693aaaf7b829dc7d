import IowarpCore.Memory.Backend
import IowarpCore.Memory.ShmAllocator
import IowarpCore.Memory.Lifecycle

/-!
# The null allocator over a shared-memory backend

`_NullAllocator::shm_init(id, custom_header_size, backend)` takes its bytes from the backend it is
given: `buffer_` is the backend's `data_` and `buffer_size_` its `data_size_`, for a backend that is
not a GPU copy. A `Pointer` is an offset into those bytes, so it names a byte of the shared segment
whichever process resolves it.

Take the `PosixShmMmap` that created a segment and one that attached it, in another process and at
another address, and an allocator initialized over each with the same id. A `Pointer` resolves in
both allocators or in neither, both resolve it to the same `Pointer`, and the two native addresses
lie the same distance past the start of each process's mapping: the same byte of the segment,
inside its data area and past the header's page (`null_allocator_pointer_portable`).

Over a whole life of a `PosixShmMmap` whose calls all succeed, on a system that maps below the top
of the address space and whose segment header is stable: whenever the object is marked
initialized, every address a null allocator over it resolves, from a `Pointer` or from a native
address, lies inside a mapping the object holds, one that its log has mapped and not unmapped
(`null_allocator_resolves_inside_held`).
-/

namespace IowarpCore.Memory.NullAllocator

open IowarpCore.Types.Numbers IowarpCore.Memory.Backend IowarpCore.Memory.ShmAllocator
  IowarpCore.Memory.Lifecycle

set_option autoImplicit false

/-- `_NullAllocator::shm_init(id, custom_header_size, backend)` over a `PosixShmMmap` that is not
a GPU copy: `buffer_` is `data_` and `buffer_size_` is `data_size_`. `mapped`, that the data area
ends below the top of the address space, is what makes the result an `Allocator`. -/
def shmInit (id : AllocatorId) (backend : PosixShmMmap)
    (mapped : backend.data.toNat + backend.dataSize.toNat < 2 ^ 64) : Allocator :=
  ⟨id, backend.data, backend.dataSize, mapped⟩

/-- A `Pointer` resolves in the allocator over `backend` exactly when its offset is below
`data_size_`, to itself and to the address its offset past `data_`. -/
theorem of_pointer_shm_init (id : AllocatorId) (backend : PosixShmMmap)
    (mapped : backend.data.toNat + backend.dataSize.toNat < 2 ^ 64) (shm : Pointer) :
    ((∃ p, FullPtr.ofPointer (shmInit id backend mapped) shm = .ok p) ↔
      shm.off.toNat < backend.dataSize.toNat) ∧
    ∀ p, FullPtr.ofPointer (shmInit id backend mapped) shm = .ok p →
      p.shm = shm ∧ p.ptr - backend.header = backend.data - backend.header + shm.off := by
  refine ⟨exists_ok_ite.trans (Allocator.contains_offset_iff _ _), fun p resolved => ?_⟩
  obtain ⟨-, rfl⟩ := ok_of_ite resolved
  refine ⟨rfl, ?_⟩
  show backend.data + shm.off - backend.header = _
  bv_omega

/-- The creator's and an attacher's allocators agree on every `Pointer`: it resolves in both or in
neither, to the same `Pointer`, and to the same byte of the segment, counted from the start of each
one's mapping, which is a byte of the data area past the header's page. -/
theorem null_allocator_pointer_portable (space attacher : AddressSpace) (headerSize size : SizeT)
    (fits : headerSize.toNat ≤ 4096) (nonempty : 0 < headerSize.toNat)
    (noWrap : size.toNat + 4096 < 2 ^ 64) (b b' : PosixShmMmap) (stored : BackendHeader)
    (init : PosixShmMmap.shmInit space headerSize size = some (b, stored))
    (attached : PosixShmMmap.shmAttach attacher stored = some b') (id : AllocatorId)
    (mapped : b.data.toNat + b.dataSize.toNat < 2 ^ 64)
    (mapped' : b'.data.toNat + b'.dataSize.toNat < 2 ^ 64) (shm : Pointer) :
    ((∃ p, FullPtr.ofPointer (shmInit id b mapped) shm = .ok p) ↔
      ∃ p', FullPtr.ofPointer (shmInit id b' mapped') shm = .ok p') ∧
    ∀ p p', FullPtr.ofPointer (shmInit id b mapped) shm = .ok p →
      FullPtr.ofPointer (shmInit id b' mapped') shm = .ok p' →
        p.shm = p'.shm ∧ p.ptr - b.header = p'.ptr - b'.header ∧
          4096 ≤ (p.ptr - b.header).toNat ∧ (p.ptr - b.header).toNat < b.totalSize.toNat := by
  obtain ⟨-, created, rfl⟩ := PosixShmMmap.shm_init_some init
  obtain ⟨-, shape⟩ := PosixShmMmap.shm_attach_some attached
  have page := aligned_md_size_of_fits headerSize fits nonempty
  rw [page] at created shape
  have gap : b.data - b.header = kAlignment := by
    rw [created]
    simp only [BitVec.add_comm _ kAlignment, BitVec.add_sub_cancel]
  have gap' : b'.data - b'.header = kAlignment := by
    rw [shape]
    simp only [BitVec.add_comm _ kAlignment, BitVec.add_sub_cancel]
  have dataSize : b.dataSize = b'.dataSize := by rw [created, shape]
  obtain ⟨resolves, lands⟩ := of_pointer_shm_init id b mapped shm
  obtain ⟨resolves', lands'⟩ := of_pointer_shm_init id b' mapped' shm
  refine ⟨resolves.trans (dataSize ▸ resolves'.symm), fun p p' resolved resolved' => ?_⟩
  obtain ⟨same, distance⟩ := lands p resolved
  obtain ⟨same', distance'⟩ := lands' p' resolved'
  have inside : shm.off.toNat < b.dataSize.toNat := resolves.mp ⟨p, resolved⟩
  have sizes : b.dataSize.toNat = max size.toNat (2 ^ 20) := by
    rw [created]
    exact at_least_min_backend_size_toNat size
  have total : b.totalSize.toNat = 4096 + b.dataSize.toNat := by
    rw [created]
    show (4096 + (atLeastMinBackendSize size).toNat) % 2 ^ 64 =
      4096 + (atLeastMinBackendSize size).toNat
    have clamped := at_least_min_backend_size_toNat size
    omega
  have within : (p.ptr - b.header).toNat = 4096 + shm.off.toNat := by
    rw [distance, gap, BitVec.toNat_add]
    show (4096 + shm.off.toNat) % 2 ^ 64 = _
    omega
  refine ⟨same.trans same'.symm, by rw [distance, distance', gap, gap'], ?_, ?_⟩ <;> omega

/-- A segment of 1 MiB mapped at `0x7f0000000000` by its creator and at `0x7e0000000000` by an
attacher. -/
theorem null_allocator_pointer_portable_across_addresses :
    let b : PosixShmMmap :=
      ⟨4096 + 1024 * 1024, 0x7f0000000000, 0x7f0000000000, 64, 0x7f0000001000, 1024 * 1024, -1⟩
    let b' : PosixShmMmap :=
      ⟨4096 + 1024 * 1024, 0x7e0000000000, 0x7e0000000000, 64, 0x7e0000001000, 1024 * 1024, -1⟩
    let stored : BackendHeader := ⟨64, 1024 * 1024, -1⟩
    let shm : Pointer := ⟨⟨1, 0⟩, 16⟩
    ∃ (mapped : b.data.toNat + b.dataSize.toNat < 2 ^ 64)
      (mapped' : b'.data.toNat + b'.dataSize.toNat < 2 ^ 64),
      PosixShmMmap.shmInit (spaceAt 0x7f0000000000) 64 0 = some (b, stored) ∧
      PosixShmMmap.shmAttach (spaceAt 0x7e0000000000) stored = some b' ∧
      ((∃ p, FullPtr.ofPointer (shmInit ⟨1, 0⟩ b mapped) shm = .ok p) ↔
        ∃ p', FullPtr.ofPointer (shmInit ⟨1, 0⟩ b' mapped') shm = .ok p') ∧
      ∀ p p', FullPtr.ofPointer (shmInit ⟨1, 0⟩ b mapped) shm = .ok p →
        FullPtr.ofPointer (shmInit ⟨1, 0⟩ b' mapped') shm = .ok p' →
          p.shm = p'.shm ∧ p.ptr - b.header = p'.ptr - b'.header ∧
            4096 ≤ (p.ptr - b.header).toNat ∧ (p.ptr - b.header).toNat < b.totalSize.toNat :=
  ⟨by decide, by decide, rfl, rfl,
    null_allocator_pointer_portable (spaceAt 0x7f0000000000) (spaceAt 0x7e0000000000) 64 0
      (by decide) (by decide) (by decide) _ _ _ rfl rfl ⟨1, 0⟩ _ _ ⟨⟨1, 0⟩, 16⟩⟩

/-! ## Over the life of a `PosixShmMmap` -/

variable {ω : Type}

/-- What the allocator over `backend` resolves, from a `Pointer` or a native address, is an address
it contains. -/
theorem contains_ptr_of_resolved (id : AllocatorId) (backend : PosixShmMmap)
    (mapped : backend.data.toNat + backend.dataSize.toNat < 2 ^ 64) :
    (∀ shm p, FullPtr.ofPointer (shmInit id backend mapped) shm = .ok p →
      (shmInit id backend mapped).containsPtr p.ptr = true) ∧
    ∀ ptr p, FullPtr.ofNative (shmInit id backend mapped) ptr = .ok p →
      (shmInit id backend mapped).containsPtr p.ptr = true :=
  ⟨fun _ _ resolved => (ok_of_ite (of_pointer_of_native resolved)).1,
    fun _ _ resolved => by obtain ⟨contained, rfl⟩ := ok_of_ite resolved; exact contained⟩

/-- Over a system that maps below the top of the address space and whose segment header reads
`stored`, with `shm_init` sizes and `stored`'s sizes that do not wrap: after calls that all
succeed, while the object is marked initialized, every address a null allocator over it
resolves lies inside a mapping the log leaves held. -/
theorem null_allocator_resolves_inside_held (sys : System ω) (maps : sys.MapsBelowTop)
    (stored : BackendHeader) (reads : ∀ ptr w, sys.readHeader ptr w = stored)
    (storedFits : (alignedMdSize stored.mdSize).toNat + stored.dataSize.toNat < 2 ^ 64)
    (headerSize : SizeT) (calls : List Call) (sizesFit : calls.all (Call.sizeFits headerSize) = true)
    (obj : PosixShmMmapObject) (unset : obj.initialized = false) (w : ω) :
    let r := runCalls (PosixShmMmapObject.call sys.logged headerSize) calls obj (w, [])
    (r.1.all fun o => !o.failed) = true → r.2.1.initialized = true →
    ∃ held, Held.empty.replay r.2.2.2 = some held ∧
      ∀ (id : AllocatorId) (mapped : r.2.1.fields.data.toNat + r.2.1.fields.dataSize.toNat < 2 ^ 64),
        (∀ shm p, FullPtr.ofPointer (shmInit id r.2.1.fields mapped) shm = .ok p →
          held.Maps p.ptr) ∧
        ∀ ptr p, FullPtr.ofNative (shmInit id r.2.1.fields mapped) ptr = .ok p → held.Maps p.ptr := by
  dsimp only
  intro succeeded initialized
  have fresh {P : Prop} : obj.initialized = true → P :=
    fun set => absurd (unset.symm.trans set) Bool.false_ne_true
  obtain ⟨evs, held, logged, replayed, holds⟩ :=
    PosixShmMmapObject.run_holds sys headerSize calls obj w [] Held.empty fresh succeeded
  obtain ⟨above, inside, -⟩ := PosixShmMmapObject.run_framed maps reads storedFits headerSize
    calls obj w [] fresh sizesFit succeeded initialized
  obtain ⟨mapping, -⟩ := holds initialized
  refine ⟨held, by rw [logged, List.nil_append]; exact replayed, fun id mapped => ?_⟩
  have held_of_contains (ptr : SizeT) (contained : (shmInit id _ mapped).containsPtr ptr = true) :
      held.Maps ptr := by
    rw [Allocator.contains_ptr_iff] at contained
    simp only [shmInit] at contained
    exact ⟨_, mapping, by dsimp only; omega, by dsimp only; omega⟩
  obtain ⟨pointers, natives⟩ := contains_ptr_of_resolved id _ mapped
  exact ⟨fun shm p resolved => held_of_contains _ (pointers shm p resolved),
    fun ptr p resolved => held_of_contains _ (natives ptr p resolved)⟩

/-- `sampleSystem true`, whose `MapSharedMemory` fails for a mapping that would reach the top of
the address space. -/
def boundedSystem : System Unit :=
  { sampleSystem true with
    mapSharedMemory := fun _ size _ =>
      (if 0x7f0000000000 + size.toNat < 2 ^ 64 then 0x7f0000000000 else 0, ()) }

theorem bounded_system_maps_below_top : boundedSystem.MapsBelowTop := by
  intro fd size w nonnull
  by_cases fits : 0x7f0000000000 + size.toNat < 2 ^ 64
  · simp only [boundedSystem, if_pos fits]
    exact fits
  · simp only [boundedSystem, if_neg fits] at nonnull
    exact absurd rfl nonnull

/-- A segment created, detached and attached again on `boundedSystem`: the attached object is
initialized, and what its allocator resolves lies in the mapping its log holds. -/
theorem null_allocator_resolves_inside_held_after_reattach :
    boundedSystem.MapsBelowTop ∧
      let r := runCalls (PosixShmMmapObject.call boundedSystem.logged 64)
        [.shmInit 0 "/seg".toList, .shmDetach, .shmAttach "/seg".toList] unsetPosixShmMmap ((), [])
      (r.1.all fun o => !o.failed) = true ∧ r.2.1.initialized = true ∧
        ∃ held, Held.empty.replay r.2.2.2 = some held ∧
          ∀ (id : AllocatorId)
            (mapped : r.2.1.fields.data.toNat + r.2.1.fields.dataSize.toNat < 2 ^ 64),
            (∀ shm p, FullPtr.ofPointer (shmInit id r.2.1.fields mapped) shm = .ok p →
              held.Maps p.ptr) ∧
            ∀ ptr p, FullPtr.ofNative (shmInit id r.2.1.fields mapped) ptr = .ok p →
              held.Maps p.ptr :=
  ⟨bounded_system_maps_below_top, by decide, by decide,
    null_allocator_resolves_inside_held boundedSystem bounded_system_maps_below_top ⟨64, 1024 * 1024, -1⟩
      (fun _ _ => rfl) (by decide) 64 _ (by decide) unsetPosixShmMmap rfl () (by decide)
      (by decide)⟩

end IowarpCore.Memory.NullAllocator
