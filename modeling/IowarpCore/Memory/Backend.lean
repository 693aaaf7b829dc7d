import IowarpCore.Types.Numbers

/-!
# Memory backends: where the header and the data area go

`MallocBackend::shm_init` and `PosixShmMmap::shm_init` take a size, clamp it to at least 1 MiB,
get the bytes from the system (`malloc`, or `shm_open` with `mmap`) and set the fields that say
where the backend header and the data area lie. `PosixShmMmap::shm_attach` maps an existing
segment and sets the same fields from the header its creator wrote.

The system is an `AddressSpace`: asked for `length` bytes it fails or returns a base address
whose bytes do not run past `2 ^ 64`. `kBackendHeaderSize` and `sizeof(MemoryBackendHeader)`
are declared in a header that is not part of the sources, so both are parameters.

`MallocBackend` puts `header_` one slot past the shared-header slot its comment names, at the
address it also gives `data_`: the header always overlaps the data (`malloc_backend_overlaps`).
`PosixShmMmap` lays the two out apart and inside the mapping exactly when `4096 + size` does
not wrap (`posix_shm_init_sound_iff`), and `shm_attach` recomputes the creator's sizes and
offsets from the stored header (`posix_shm_attach_rederives`).
-/

namespace IowarpCore.Memory.Backend

open IowarpCore.Types.Numbers

set_option autoImplicit false

/-! ## Byte ranges -/

/-- The bytes `[start, start + length)` of the address space. -/
structure Span where
  start : Nat
  length : Nat
  deriving DecidableEq, Repr

/-- One past the last byte. -/
def Span.stop (s : Span) : Nat := s.start + s.length

/-- `address` is one of the bytes of `s`. -/
def Span.Mem (s : Span) (address : Nat) : Prop := s.start ≤ address ∧ address < s.stop

/-- Every byte of `s` is a byte of `outer`. -/
def Span.Within (s outer : Span) : Prop := outer.start ≤ s.start ∧ s.stop ≤ outer.stop

/-- `s` and `t` share no byte. -/
def Span.Disjoint (s t : Span) : Prop := min s.stop t.stop ≤ max s.start t.start

instance (s outer : Span) : Decidable (s.Within outer) := inferInstanceAs (Decidable (_ ∧ _))

instance (s t : Span) : Decidable (s.Disjoint t) := inferInstanceAs (Decidable (_ ≤ _))

theorem Span.disjoint_iff (s t : Span) :
    s.Disjoint t ↔ ∀ address, ¬(s.Mem address ∧ t.Mem address) := by
  simp only [Span.Disjoint, Span.Mem, Span.stop]
  constructor
  · rintro separated address ⟨⟨_, _⟩, _, _⟩
    omega
  · intro apart
    by_contra overlap
    exact apart (max s.start t.start) (by omega)

/-- The bytes a backend got from the system, its header and its data area. -/
structure Layout where
  region : Span
  header : Span
  data : Span
  deriving DecidableEq, Repr

/-- What a backend's layout has to be: header and data inside the region, and apart. -/
def Layout.Sound (l : Layout) : Prop :=
  l.header.Within l.region ∧ l.data.Within l.region ∧ l.header.Disjoint l.data

instance (l : Layout) : Decidable l.Sound := inferInstanceAs (Decidable (_ ∧ _ ∧ _))

/-- `malloc`, or `shm_open` followed by `mmap`: fresh bytes that end at or below `2 ^ 64`. -/
structure AddressSpace where
  reserve : SizeT → Option SizeT
  fits : ∀ length base, reserve length = some base → base.toNat + length.toNat ≤ 2 ^ 64

/-- A system that puts every request that fits below `2 ^ 64` at `base`. -/
def spaceAt (base : SizeT) : AddressSpace where
  reserve length := if base.toNat + length.toNat ≤ 2 ^ 64 then some base else none
  fits length given reserved := by
    dsimp only at reserved
    split at reserved
    · cases reserved
      assumption
    · cases reserved

/-! ## The size both backends start from -/

/-- `kMinBackendSize` of both `shm_init`s: 1 MiB. -/
def kMinBackendSize : SizeT := 1024 * 1024

/-- The clamp both `shm_init`s begin with. -/
def atLeastMinBackendSize (size : SizeT) : SizeT :=
  if size < kMinBackendSize then kMinBackendSize else size

theorem at_least_min_backend_size_toNat (size : SizeT) :
    (atLeastMinBackendSize size).toNat = max size.toNat (2 ^ 20) := by
  have minimum : kMinBackendSize.toNat = 2 ^ 20 := rfl
  unfold atLeastMinBackendSize
  split <;> simp only [BitVec.lt_def, minimum] at * <;> omega

/-! ## MallocBackend -/

/-- The fields `MallocBackend::shm_init` sets, addresses as numbers. -/
structure MallocBackend where
  totalSize : SizeT
  allocPtr : SizeT
  region : SizeT
  header : SizeT
  backendSize : SizeT
  dataCapacity : SizeT
  dataId : Int
  privHeaderOff : SizeT
  data : SizeT
  deriving DecidableEq, Repr

/-- `MallocBackend::shm_init`, with `kBackendHeaderSize` as `backendHeaderSize`; `none` is the
`return false` of a failed `malloc`. -/
def MallocBackend.shmInit (space : AddressSpace) (backendHeaderSize backendSize : SizeT) :
    Option MallocBackend :=
  let backendSize := atLeastMinBackendSize backendSize
  (space.reserve backendSize).map fun ptr =>
    let privHeaderPtr := ptr + backendHeaderSize
    let sharedHeaderPtr := privHeaderPtr + backendHeaderSize
    { totalSize := backendSize
      allocPtr := ptr
      region := ptr
      header := sharedHeaderPtr + backendHeaderSize
      backendSize := backendSize
      dataCapacity := backendSize - 3 * backendHeaderSize
      dataId := -1
      privHeaderOff := privHeaderPtr - ptr
      data := sharedHeaderPtr + backendHeaderSize }

/-- The allocation, `header_` with `headerSize = sizeof(MemoryBackendHeader)` bytes, and
`[data_, data_ + data_capacity_)`. -/
def MallocBackend.layout (headerSize : SizeT) (b : MallocBackend) : Layout :=
  ⟨⟨b.allocPtr.toNat, b.totalSize.toNat⟩, ⟨b.header.toNat, headerSize.toNat⟩,
    ⟨b.data.toNat, b.dataCapacity.toNat⟩⟩

theorem MallocBackend.shm_init_some {space : AddressSpace} {backendHeaderSize size : SizeT}
    {b : MallocBackend} (init : MallocBackend.shmInit space backendHeaderSize size = some b) :
    space.reserve b.totalSize = some b.allocPtr ∧ b.totalSize = atLeastMinBackendSize size ∧
      b.header = b.allocPtr + backendHeaderSize + backendHeaderSize + backendHeaderSize ∧
      b.data = b.header ∧ b.dataCapacity = b.totalSize - 3 * backendHeaderSize := by
  simp only [MallocBackend.shmInit, Option.map_eq_some'] at init
  obtain ⟨ptr, reserved, rfl⟩ := init
  exact ⟨reserved, rfl, rfl, rfl, rfl⟩

/-- Whatever size is asked for, `header_` is `data_`: the header's bytes are the first bytes of
the data area, though both lie inside the allocation. -/
theorem malloc_backend_overlaps (space : AddressSpace) (backendHeaderSize headerSize size : SizeT)
    (fits : headerSize.toNat ≤ backendHeaderSize.toNat) (nonempty : 0 < headerSize.toNat)
    (slots : 4 * backendHeaderSize.toNat ≤ 2 ^ 20) (b : MallocBackend)
    (init : MallocBackend.shmInit space backendHeaderSize size = some b) :
    b.header = b.data ∧ (b.layout headerSize).header.Within (b.layout headerSize).region ∧
      (b.layout headerSize).data.Within (b.layout headerSize).region ∧
      ¬(b.layout headerSize).header.Disjoint (b.layout headerSize).data := by
  obtain ⟨reserved, total, header, data, capacity⟩ := MallocBackend.shm_init_some init
  have mapped := space.fits _ _ reserved
  have clamped := at_least_min_backend_size_toNat size
  rw [← total] at clamped
  have headerAt : b.header.toNat = b.allocPtr.toNat + 3 * backendHeaderSize.toNat := by
    rw [header]
    simp only [BitVec.toNat_add]
    omega
  have capacityIs : b.dataCapacity.toNat = b.totalSize.toNat - 3 * backendHeaderSize.toNat := by
    rw [capacity, BitVec.toNat_sub, BitVec.toNat_mul, show (3 : SizeT).toNat = 3 from rfl]
    omega
  refine ⟨data.symm, ?_⟩
  simp only [MallocBackend.layout, Span.Within, Span.Disjoint, Span.stop, data, headerAt,
    capacityIs]
  omega

theorem malloc_backend_overlaps_empty_request :
    ∃ b, MallocBackend.shmInit (spaceAt 0x7f0000000000) 256 0 = some b ∧
      b.header = b.data ∧ (b.layout 200).header.Within (b.layout 200).region ∧
      (b.layout 200).data.Within (b.layout 200).region ∧
      ¬(b.layout 200).header.Disjoint (b.layout 200).data :=
  ⟨_, rfl, malloc_backend_overlaps (spaceAt 0x7f0000000000) 256 200 0 (by decide) (by decide)
    (by decide) _ rfl⟩

/-! ## PosixShmMmap -/

/-- The `MemoryBackendHeader` fields `PosixShmMmap::shm_init` writes into the segment and
`shm_attach` reads back. -/
structure BackendHeader where
  mdSize : SizeT
  dataSize : SizeT
  dataId : Int
  deriving DecidableEq, Repr

/-- The fields `PosixShmMmap::shm_init` and `shm_attach` set, addresses as numbers. -/
structure PosixShmMmap where
  totalSize : SizeT
  header : SizeT
  md : SizeT
  mdSize : SizeT
  data : SizeT
  dataSize : SizeT
  dataId : Int
  deriving DecidableEq, Repr

/-- `kAlignment` of `shm_init` and `shm_attach`. -/
def kAlignment : SizeT := 4096

/-- `aligned_md_size`: `md_size` rounded up to a multiple of `kAlignment`, in `size_t`. -/
def alignedMdSize (mdSize : SizeT) : SizeT := (mdSize + kAlignment - 1) / kAlignment * kAlignment

theorem aligned_md_size_of_fits (mdSize : SizeT) (fits : mdSize.toNat ≤ 4096)
    (nonempty : 0 < mdSize.toNat) : alignedMdSize mdSize = kAlignment := by
  have rounded : (mdSize + kAlignment - 1).toNat = mdSize.toNat + 4095 := by
    unfold kAlignment
    bv_omega
  apply BitVec.eq_of_toNat_eq
  rw [alignedMdSize, BitVec.toNat_mul, BitVec.toNat_udiv, rounded]
  show (mdSize.toNat + 4095) / 4096 * 4096 % 2 ^ 64 = 4096
  omega

/-- `PosixShmMmap::shm_init` with `headerSize = sizeof(MemoryBackendHeader)`: the backend's
fields and the header it writes at the start of the mapping; `none` is a failed `shm_open` or
`mmap`. -/
def PosixShmMmap.shmInit (space : AddressSpace) (headerSize size : SizeT) :
    Option (PosixShmMmap × BackendHeader) :=
  let size := atLeastMinBackendSize size
  let mdSize := headerSize
  let totalSize := alignedMdSize mdSize + size
  (space.reserve totalSize).map fun ptr =>
    (⟨totalSize, ptr, ptr, mdSize, ptr + alignedMdSize mdSize, size, -1⟩, ⟨mdSize, size, -1⟩)

/-- `PosixShmMmap::shm_attach` in a process whose `mmap` is `space`, reading `stored` through
its first, `kAlignment`-byte mapping. -/
def PosixShmMmap.shmAttach (space : AddressSpace) (stored : BackendHeader) :
    Option PosixShmMmap :=
  let totalSize := alignedMdSize stored.mdSize + stored.dataSize
  (space.reserve totalSize).map fun ptr =>
    ⟨totalSize, ptr, ptr, stored.mdSize, ptr + alignedMdSize stored.mdSize, stored.dataSize,
      stored.dataId⟩

/-- The mapping, which `header_` starts, the header, and `[data_, data_ + data_size_)`. -/
def PosixShmMmap.layout (headerSize : SizeT) (b : PosixShmMmap) : Layout :=
  ⟨⟨b.header.toNat, b.totalSize.toNat⟩, ⟨b.header.toNat, headerSize.toNat⟩,
    ⟨b.data.toNat, b.dataSize.toNat⟩⟩

theorem PosixShmMmap.shm_init_some {space : AddressSpace} {headerSize size : SizeT}
    {b : PosixShmMmap} {stored : BackendHeader}
    (init : PosixShmMmap.shmInit space headerSize size = some (b, stored)) :
    space.reserve b.totalSize = some b.header ∧
      b = ⟨alignedMdSize headerSize + atLeastMinBackendSize size, b.header, b.header, headerSize,
        b.header + alignedMdSize headerSize, atLeastMinBackendSize size, -1⟩ ∧
      stored = ⟨headerSize, atLeastMinBackendSize size, -1⟩ := by
  simp only [PosixShmMmap.shmInit, Option.map_eq_some', Prod.mk.injEq] at init
  obtain ⟨ptr, reserved, rfl, rfl⟩ := init
  exact ⟨reserved, rfl, rfl⟩

theorem PosixShmMmap.shm_attach_some {space : AddressSpace} {stored : BackendHeader}
    {b : PosixShmMmap} (attached : PosixShmMmap.shmAttach space stored = some b) :
    space.reserve b.totalSize = some b.header ∧
      b = ⟨alignedMdSize stored.mdSize + stored.dataSize, b.header, b.header, stored.mdSize,
        b.header + alignedMdSize stored.mdSize, stored.dataSize, stored.dataId⟩ := by
  simp only [PosixShmMmap.shmAttach, Option.map_eq_some'] at attached
  obtain ⟨ptr, reserved, rfl⟩ := attached
  exact ⟨reserved, rfl⟩

/-- A one-page header slot followed by `dataSize` bytes, placed at `ptr` by a system that
returned `ptr` for `4096 + dataSize` bytes, is sound exactly when that sum does not wrap. -/
theorem PosixShmMmap.layout_sound_iff (space : AddressSpace) (headerSize : SizeT)
    (fits : headerSize.toNat ≤ 4096) (b : PosixShmMmap) (nonempty : 0 < b.dataSize.toNat)
    (placed : b.totalSize = kAlignment + b.dataSize ∧ b.data = b.header + kAlignment)
    (reserved : space.reserve b.totalSize = some b.header) :
    (b.layout headerSize).Sound ↔ b.dataSize.toNat + 4096 < 2 ^ 64 := by
  have mapped := space.fits _ _ reserved
  have total : b.totalSize.toNat = (4096 + b.dataSize.toNat) % 2 ^ 64 := by
    rw [placed.1]; rfl
  have dataAt : b.data.toNat = (b.header.toNat + 4096) % 2 ^ 64 := by
    rw [placed.2]; rfl
  have headerBound := b.header.isLt
  have sizeBound := b.dataSize.isLt
  simp only [PosixShmMmap.layout, Layout.Sound, Span.Within, Span.Disjoint, Span.stop, total,
    dataAt] at mapped ⊢
  omega

/-- A mapping laid out as `shm_init` lays out `size` bytes, by `shm_init` itself or by
`shm_attach` from the header it wrote, is sound exactly when `size + 4096` does not wrap. -/
theorem PosixShmMmap.placed_sound_iff (space : AddressSpace) (headerSize size : SizeT)
    (fits : headerSize.toNat ≤ 4096) (b : PosixShmMmap)
    (placed : b.totalSize = kAlignment + atLeastMinBackendSize size ∧
      b.data = b.header + kAlignment ∧ b.dataSize = atLeastMinBackendSize size)
    (reserved : space.reserve b.totalSize = some b.header) :
    (b.layout headerSize).Sound ↔ size.toNat + 4096 < 2 ^ 64 := by
  have sizeIs : b.dataSize.toNat = max size.toNat (2 ^ 20) := by
    rw [placed.2.2, at_least_min_backend_size_toNat]
  rw [PosixShmMmap.layout_sound_iff space headerSize fits b (by omega)
    ⟨by rw [placed.1, placed.2.2], placed.2.1⟩ reserved, sizeIs]
  omega

theorem posix_shm_init_sound_iff (space : AddressSpace) (headerSize size : SizeT)
    (fits : headerSize.toNat ≤ 4096) (nonempty : 0 < headerSize.toNat) (b : PosixShmMmap)
    (stored : BackendHeader) (init : PosixShmMmap.shmInit space headerSize size = some (b, stored)) :
    (b.layout headerSize).Sound ↔ size.toNat + 4096 < 2 ^ 64 := by
  obtain ⟨reserved, shape, -⟩ := PosixShmMmap.shm_init_some init
  rw [aligned_md_size_of_fits headerSize fits nonempty] at shape
  exact PosixShmMmap.placed_sound_iff space headerSize size fits b
    (by rw [shape]; exact ⟨rfl, rfl, rfl⟩) reserved

theorem posix_shm_init_sound_of_small_request :
    ∃ b stored, PosixShmMmap.shmInit (spaceAt 0x7f0000000000) 64 0 = some (b, stored) ∧
      ((b.layout 64).Sound ↔ (0 : SizeT).toNat + 4096 < 2 ^ 64) :=
  ⟨_, _, rfl, posix_shm_init_sound_iff (spaceAt 0x7f0000000000) 64 0 (by decide) (by decide) _ _
    rfl⟩

/-- From the header its creator wrote, `shm_attach` gets the creator's mapping size, data offset,
data size, metadata size and data id, and its own layout is sound exactly when the creator's is. -/
theorem posix_shm_attach_rederives (space attacher : AddressSpace) (headerSize size : SizeT)
    (fits : headerSize.toNat ≤ 4096) (nonempty : 0 < headerSize.toNat) (b b' : PosixShmMmap)
    (stored : BackendHeader) (init : PosixShmMmap.shmInit space headerSize size = some (b, stored))
    (attached : PosixShmMmap.shmAttach attacher stored = some b') :
    b'.totalSize = b.totalSize ∧ b'.data - b'.header = b.data - b.header ∧
      b'.dataSize = b.dataSize ∧ b'.mdSize = b.mdSize ∧ b'.dataId = b.dataId ∧
      ((b'.layout headerSize).Sound ↔ (b.layout headerSize).Sound) := by
  obtain ⟨reservedHere, created, rfl⟩ := PosixShmMmap.shm_init_some init
  obtain ⟨reserved, shape⟩ := PosixShmMmap.shm_attach_some attached
  have offset (ptr : SizeT) : ptr + alignedMdSize headerSize - ptr = alignedMdSize headerSize := by
    rw [BitVec.add_comm, BitVec.add_sub_cancel]
  rw [aligned_md_size_of_fits headerSize fits nonempty] at created shape offset
  rw [PosixShmMmap.placed_sound_iff attacher headerSize size fits b'
      (by rw [shape]; exact ⟨rfl, rfl, rfl⟩) reserved,
    PosixShmMmap.placed_sound_iff space headerSize size fits b
      (by rw [created]; exact ⟨rfl, rfl, rfl⟩) reservedHere, shape, created]
  exact ⟨rfl, by rw [offset, offset], rfl, rfl, rfl, Iff.rfl⟩

theorem posix_shm_attach_rederives_elsewhere :
    ∃ b stored b', PosixShmMmap.shmInit (spaceAt 0x7f0000000000) 64 0 = some (b, stored) ∧
      PosixShmMmap.shmAttach (spaceAt 0x7e0000000000) stored = some b' ∧
      b'.totalSize = b.totalSize ∧ b'.data - b'.header = b.data - b.header ∧
      b'.dataSize = b.dataSize ∧ b'.mdSize = b.mdSize ∧ b'.dataId = b.dataId ∧
      ((b'.layout 64).Sound ↔ (b.layout 64).Sound) :=
  ⟨_, _, _, rfl, rfl, posix_shm_attach_rederives (spaceAt 0x7f0000000000) (spaceAt 0x7e0000000000)
    64 0 (by decide) (by decide) _ _ _ rfl rfl⟩

/-- The failing layouts: a 1 MiB `MallocBackend` with `kBackendHeaderSize = 4096` and a 64-byte
header puts `header_` at `data_`, and a `PosixShmMmap` asked for `2 ^ 64 - 2048` bytes maps
`4096 + size`, which wraps to 2048, and starts `data_` past them. -/
theorem backend_header_overlaps_data :
    (∃ b, MallocBackend.shmInit (spaceAt 0x7f0000000000) 4096 (1024 * 1024) = some b ∧
      b.header = 0x7f0000003000 ∧ b.data = 0x7f0000003000 ∧
      ¬(b.layout 64).header.Disjoint (b.layout 64).data) ∧
    (∃ b stored, PosixShmMmap.shmInit (spaceAt 0x7f0000000000) 64 (BitVec.ofNat 64 (2 ^ 64 - 2048))
        = some (b, stored) ∧
      b.totalSize = 2048 ∧ b.data = 0x7f0000001000 ∧
      ¬(b.layout 64).data.Within (b.layout 64).region) :=
  ⟨⟨_, rfl, rfl, rfl, by decide⟩, ⟨_, _, rfl, rfl, rfl, by decide⟩⟩

end IowarpCore.Memory.Backend
