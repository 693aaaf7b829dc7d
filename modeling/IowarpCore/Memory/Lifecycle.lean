import IowarpCore.Memory.Backend

/-!
# Backend lifetimes: what each backend takes from the system and gives back

`PosixShmMmap` and `MallocBackend` get their bytes from the system and give them back in
`_Detach` and `_Destroy`. `PosixShmMmap::shm_init` and `shm_attach` first mark the object
initialized, and owned or not, then open the segment and map it; `_Detach` unmaps
`[header_, header_ + total_size_)` and closes `fd_` when the object is marked initialized,
`_Destroy` also unlinks `url_`, and the destructor destroys an owned object and detaches the
others. `MallocBackend` frees `alloc_ptr_` in `_Detach` and in `_Destroy` unless it is null, and
its destructor does nothing.

The system is a `System ω`: what each call returns and does to a state `ω` (`SystemInfo` and its
`File` are declared outside the sources). `System.logged` records each call with its result, and
`Held` is what the calls so far leave with the object: the mappings, descriptors and blocks it has
not given back. `Held.replay` fails at a call that gives back what is not held: a second `munmap`
of a range, a `close` of a closed descriptor, a second `free`.

Whatever the system returns, a `PosixShmMmap` whose every `shm_init` and `shm_attach` succeeds
gives back only what it holds; used in pairs, each `shm_init` or `shm_attach` before a
`shm_detach` or `shm_destroy`, it gives back everything by the end of its life exactly when none
of them fails, for a failed one leaves the object marked initialized over a mapping it does not
hold, which the next `_Detach` unmaps (`posix_shm_mmap_lifetime_balanced`). A `MallocBackend` never
frees what it does not hold, whatever `malloc` returns, and used in pairs it ends its life holding
exactly `alloc_ptr_`'s block, which its empty destructor leaks (`malloc_backend_lifetime_frees_held`).

A successful `shm_init` or `shm_attach` here sets the fields that `Backend`'s layout model gives
(`PosixShmMmapObject.shm_init_fields`, `PosixShmMmapObject.shm_attach_fields`), so the layout facts
proved there hold of the objects here. On a system that maps below the top of the address space,
with a segment header that reads the same at both reads of `shm_attach` and sizes that do not
wrap, a run whose calls all succeed keeps the data area inside the mapping while the object is
marked initialized (`PosixShmMmapObject.run_framed`).
-/

namespace IowarpCore.Memory.Lifecycle

open IowarpCore.Types.Numbers IowarpCore.Memory.Backend

set_option autoImplicit false

variable {ω : Type}

/-! ## The system -/

/-- What the backends ask of the system, over its state `ω`: `malloc` and `free`, the
`SystemInfo` calls on shared memory, and the `MemoryBackendHeader` at a mapped address. An address
of 0 is `nullptr`. `CreateNewSharedMemory` and `OpenSharedMemory` say whether they succeeded and
leave a descriptor in `fd_` either way; `MapSharedMemory` is always called with offset 0. -/
structure System (ω : Type) where
  malloc : SizeT → ω → SizeT × ω
  free : SizeT → ω → ω
  destroySharedMemory : List Char → ω → ω
  createNewSharedMemory : List Char → SizeT → ω → (Bool × Int) × ω
  openSharedMemory : List Char → ω → (Bool × Int) × ω
  mapSharedMemory : Int → SizeT → ω → SizeT × ω
  unmapMemory : SizeT → SizeT → ω → ω
  closeSharedMemory : Int → ω → ω
  readHeader : SizeT → ω → BackendHeader
  writeHeader : SizeT → BackendHeader → ω → ω

/-- A call on the system, with what it returned. -/
inductive Event
  | malloc (size ptr : SizeT)
  | free (ptr : SizeT)
  | destroySharedMemory (url : List Char)
  | createNewSharedMemory (url : List Char) (size : SizeT) (created : Bool) (fd : Int)
  | openSharedMemory (url : List Char) (opened : Bool) (fd : Int)
  | mapSharedMemory (fd : Int) (size ptr : SizeT)
  | unmapMemory (ptr size : SizeT)
  | closeSharedMemory (fd : Int)
  deriving DecidableEq, Repr

/-- `sys`, keeping a log of the calls made on it. -/
def System.logged (sys : System ω) : System (ω × List Event) where
  malloc size s :=
    let r := sys.malloc size s.1
    (r.1, r.2, s.2 ++ [.malloc size r.1])
  free ptr s := (sys.free ptr s.1, s.2 ++ [.free ptr])
  destroySharedMemory url s :=
    (sys.destroySharedMemory url s.1, s.2 ++ [.destroySharedMemory url])
  createNewSharedMemory url size s :=
    let r := sys.createNewSharedMemory url size s.1
    (r.1, r.2, s.2 ++ [.createNewSharedMemory url size r.1.1 r.1.2])
  openSharedMemory url s :=
    let r := sys.openSharedMemory url s.1
    (r.1, r.2, s.2 ++ [.openSharedMemory url r.1.1 r.1.2])
  mapSharedMemory fd size s :=
    let r := sys.mapSharedMemory fd size s.1
    (r.1, r.2, s.2 ++ [.mapSharedMemory fd size r.1])
  unmapMemory ptr size s := (sys.unmapMemory ptr size s.1, s.2 ++ [.unmapMemory ptr size])
  closeSharedMemory fd s := (sys.closeSharedMemory fd s.1, s.2 ++ [.closeSharedMemory fd])
  readHeader ptr s := sys.readHeader ptr s.1
  writeHeader ptr header s := (sys.writeHeader ptr header s.1, s.2)

/-- `MapSharedMemory` never returns a mapping that reaches the top of the address space. -/
def System.MapsBelowTop (sys : System ω) : Prop :=
  ∀ fd size w, (sys.mapSharedMemory fd size w).1 ≠ 0 →
    (sys.mapSharedMemory fd size w).1.toNat + size.toNat < 2 ^ 64

theorem System.MapsBelowTop.logged {sys : System ω} (maps : sys.MapsBelowTop) :
    sys.logged.MapsBelowTop :=
  fun fd size s => maps fd size s.1

/-! ## What an object holds -/

/-- What the calls so far leave with an object: the blocks from `malloc` not freed, the mappings
`(address, length)` not unmapped, and the descriptors not closed. -/
structure Held where
  blocks : List SizeT
  mappings : List (SizeT × SizeT)
  fds : List Int
  deriving DecidableEq, Repr

def Held.empty : Held := ⟨[], [], []⟩

/-- One call's effect on what is held: what a successful `malloc`, `shm_open` or `mmap` returns is
added, and what `free`, `munmap` and `close` name is removed, or `none` when it is not held. -/
def Held.record (held : Held) : Event → Option Held
  | .malloc _ ptr => some (if ptr = 0 then held else { held with blocks := ptr :: held.blocks })
  | .free ptr =>
      if ptr ∈ held.blocks then some { held with blocks := held.blocks.erase ptr } else none
  | .destroySharedMemory _ => some held
  | .createNewSharedMemory _ _ created fd | .openSharedMemory _ created fd =>
      some (if created then { held with fds := fd :: held.fds } else held)
  | .mapSharedMemory _ size ptr =>
      some (if ptr = 0 then held else { held with mappings := (ptr, size) :: held.mappings })
  | .unmapMemory ptr size =>
      if (ptr, size) ∈ held.mappings then
        some { held with mappings := held.mappings.erase (ptr, size) }
      else none
  | .closeSharedMemory fd =>
      if fd ∈ held.fds then some { held with fds := held.fds.erase fd } else none

/-- What a log of calls leaves held, or `none` when one of them gives back what is not held. -/
def Held.replay (held : Held) (log : List Event) : Option Held := log.foldlM Held.record held

@[simp] theorem Held.replay_nil (held : Held) : held.replay [] = some held := rfl

@[simp] theorem Held.replay_cons (held : Held) (event : Event) (log : List Event) :
    held.replay (event :: log) = (held.record event).bind (·.replay log) := rfl

theorem Held.replay_append (held : Held) (log more : List Event) :
    held.replay (log ++ more) = (held.replay log).bind (·.replay more) :=
  List.foldlM_append _ _ _ _

/-- `held` with one more mapping and one more descriptor. -/
def Held.acquire (held : Held) (mapping : SizeT × SizeT) (fd : Int) : Held :=
  { held with mappings := mapping :: held.mappings, fds := fd :: held.fds }

/-- `held` without one mapping and one descriptor. -/
def Held.release (held : Held) (mapping : SizeT × SizeT) (fd : Int) : Held :=
  { held with mappings := held.mappings.erase mapping, fds := held.fds.erase fd }

@[simp] theorem Held.release_acquire (held : Held) (mapping : SizeT × SizeT) (fd : Int) :
    (held.acquire mapping fd).release mapping fd = held := by
  simp [Held.acquire, Held.release]

/-- Unmapping `mapping` and closing `fd`, when both are held. -/
def Held.giveBack (held : Held) (mapping : SizeT × SizeT) (fd : Int) : Option Held :=
  if mapping ∈ held.mappings ∧ fd ∈ held.fds then some (held.release mapping fd) else none

@[simp] theorem Held.give_back_acquire (held : Held) (mapping : SizeT × SizeT) (fd : Int) :
    (held.acquire mapping fd).giveBack mapping fd = some held := by
  simp [Held.giveBack, Held.acquire, Held.release]

/-- `ptr` is an address inside a mapping `held` holds. -/
def Held.Maps (held : Held) (ptr : SizeT) : Prop :=
  ∃ mapping ∈ held.mappings,
    mapping.1.toNat ≤ ptr.toNat ∧ ptr.toNat < mapping.1.toNat + mapping.2.toNat

/-! ## Calls and how they end -/

/-- What `shm_init` and `shm_attach` throw: `SHMEM_CREATE_FAILED` from `_ShmMap`, and
`SHMEM_NOT_SUPPORTED` from `MallocBackend::shm_attach`. -/
inductive ShmError
  | shmemCreateFailed
  | shmemNotSupported
  deriving DecidableEq, Repr

/-- How a call ends: a `void` one returning, a `bool` one returning its result, or a throw. -/
inductive Outcome
  | done
  | returned (result : Bool)
  | threw (error : ShmError)
  deriving DecidableEq, Repr

/-- The call returned `false` or threw. -/
def Outcome.failed : Outcome → Bool
  | .done => false
  | .returned result => !result
  | .threw _ => true

/-- The backend methods a program calls on one object; `MallocBackend::shm_init` takes no url. -/
inductive Call
  | shmInit (size : SizeT) (url : List Char)
  | shmAttach (url : List Char)
  | shmDetach
  | shmDestroy
  deriving DecidableEq, Repr

/-- The calls that map the segment and open its descriptor: `shm_init` and `shm_attach`. -/
def Call.opens : Call → Bool
  | .shmInit _ _ | .shmAttach _ => true
  | .shmDetach | .shmDestroy => false

/-- Each `shm_init` and `shm_attach` of `calls` comes before any other, or has a `shm_detach` or
`shm_destroy` between it and the one before; `pending` says whether one is already open. -/
def Call.paired (pending : Bool) : List Call → Bool
  | [] => true
  | c :: calls => if c.opens then !pending && Call.paired true calls else Call.paired false calls

/-- The `total_size_` a `PosixShmMmap::shm_init` computes, `aligned_md_size + size`, does not wrap;
`headerSize` is `sizeof(MemoryBackendHeader)`. -/
def Call.sizeFits (headerSize : SizeT) : Call → Bool
  | .shmInit size _ =>
      decide ((alignedMdSize headerSize).toNat + (atLeastMinBackendSize size).toNat < 2 ^ 64)
  | .shmAttach _ | .shmDetach | .shmDestroy => true

/-- `calls` made one after another on one object, with how each ended. -/
def runCalls {α : Type} (call : Call → α → ω → Outcome × α × ω) :
    List Call → α → ω → List Outcome × α × ω
  | [], obj, w => ([], obj, w)
  | c :: calls, obj, w =>
      let first := call c obj w
      let rest := runCalls call calls first.2.1 first.2.2
      (first.1 :: rest.1, rest.2)

/-! ## `PosixShmMmap` -/

/-- A `PosixShmMmap` object: the `Initialized` and `Owned` flags of `flags_`, `fd_`, `url_`, and
the fields `shm_init` and `shm_attach` set. -/
structure PosixShmMmapObject where
  initialized : Bool
  owned : Bool
  fd : Int
  url : List Char
  fields : PosixShmMmap
  deriving DecidableEq, Repr

namespace PosixShmMmapObject

/-- `PosixShmMmap::shm_init(backend_id, size, url)`, `headerSize` being
`sizeof(MemoryBackendHeader)`; `_ShmMap` throws when `MapSharedMemory` returns null. -/
def shmInit (sys : System ω) (headerSize size : SizeT) (url : List Char)
    (obj : PosixShmMmapObject) (w : ω) : Outcome × PosixShmMmapObject × ω :=
  let size := atLeastMinBackendSize size
  let mdSize := headerSize
  let totalSize := alignedMdSize mdSize + size
  let obj := { obj with initialized := true, owned := true, fields.totalSize := totalSize }
  let w := sys.destroySharedMemory url w
  let created := sys.createNewSharedMemory url totalSize w
  let obj := { obj with fd := created.1.2 }
  if !created.1.1 then (.returned false, obj, created.2)
  else
    let obj := { obj with url := url }
    let mapped := sys.mapSharedMemory obj.fd totalSize created.2
    if mapped.1 = 0 then (.threw .shmemCreateFailed, obj, mapped.2)
    else
      let ptr := mapped.1
      let w := sys.writeHeader ptr ⟨mdSize, size, -1⟩ mapped.2
      (.returned true,
        { obj with fields := ⟨totalSize, ptr, ptr, mdSize, ptr + alignedMdSize mdSize, size, -1⟩ },
        w)

/-- `PosixShmMmap::shm_attach(url)`: the size of the whole mapping comes from the header read
through a first one-page mapping, the other fields from the header of the whole one. -/
def shmAttach (sys : System ω) (url : List Char) (obj : PosixShmMmapObject) (w : ω) :
    Outcome × PosixShmMmapObject × ω :=
  let obj := { obj with initialized := true, owned := false }
  let opened := sys.openSharedMemory url w
  let obj := { obj with fd := opened.1.2 }
  if !opened.1.1 then (.returned false, obj, opened.2)
  else
    let obj := { obj with url := url }
    let page := sys.mapSharedMemory obj.fd kAlignment opened.2
    if page.1 = 0 then (.threw .shmemCreateFailed, obj, page.2)
    else
      let obj := { obj with fields.header := page.1 }
      let first := sys.readHeader page.1 page.2
      let alignedMd := alignedMdSize first.mdSize
      let obj := { obj with fields.totalSize := alignedMd + first.dataSize }
      let w := sys.unmapMemory page.1 kAlignment page.2
      let mapped := sys.mapSharedMemory obj.fd obj.fields.totalSize w
      if mapped.1 = 0 then (.threw .shmemCreateFailed, obj, mapped.2)
      else
        let ptr := mapped.1
        let stored := sys.readHeader ptr mapped.2
        (.returned true,
          { obj with fields := ⟨obj.fields.totalSize, ptr, ptr, stored.mdSize, ptr + alignedMd,
              stored.dataSize, stored.dataId⟩ },
          mapped.2)

def detach (sys : System ω) (obj : PosixShmMmapObject) (w : ω) : PosixShmMmapObject × ω :=
  if !obj.initialized then (obj, w)
  else
    let w := sys.unmapMemory obj.fields.header obj.fields.totalSize w
    let w := sys.closeSharedMemory obj.fd w
    ({ obj with initialized := false }, w)

def destroy (sys : System ω) (obj : PosixShmMmapObject) (w : ω) : PosixShmMmapObject × ω :=
  if !obj.initialized then (obj, w)
  else
    let detached := obj.detach sys w
    let w := sys.destroySharedMemory detached.1.url detached.2
    ({ detached.1 with initialized := false }, w)

def destructor (sys : System ω) (obj : PosixShmMmapObject) (w : ω) : PosixShmMmapObject × ω :=
  if obj.owned then obj.destroy sys w else obj.detach sys w

/-- One method call; `shm_detach` is `_Detach` and `shm_destroy` is `_Destroy`. -/
def call (sys : System ω) (headerSize : SizeT) :
    Call → PosixShmMmapObject → ω → Outcome × PosixShmMmapObject × ω
  | .shmInit size url, obj, w => obj.shmInit sys headerSize size url w
  | .shmAttach url, obj, w => obj.shmAttach sys url w
  | .shmDetach, obj, w => let r := obj.detach sys w; (.done, r.1, r.2)
  | .shmDestroy, obj, w => let r := obj.destroy sys w; (.done, r.1, r.2)

/-- An object's life: `calls`, then the destructor, on `sys` from an empty log; how each call
ended, and the log. -/
def lifetime (sys : System ω) (headerSize : SizeT) (calls : List Call) (obj : PosixShmMmapObject)
    (w : ω) : List Outcome × List Event :=
  let ran := runCalls (call sys.logged headerSize) calls obj (w, [])
  (ran.1, (ran.2.1.destructor sys.logged ran.2.2).2.2)

/-! ### What each call takes and gives back -/

/-- What a `shm_init` or `shm_attach` that ended with `outcome` leaves: the object marked
initialized, and, from whatever was held, the mapping `[header_, header_ + total_size_)` and `fd_`
added when it succeeded, and no mapping added when it failed. -/
def Opened (outcome : Outcome) (obj : PosixShmMmapObject) (evs : List Event) : Prop :=
  obj.initialized = true ∧ ∀ held : Held,
    if outcome.failed then ∃ held', held.replay evs = some held' ∧ held'.mappings = held.mappings
    else held.replay evs = some (held.acquire (obj.fields.header, obj.fields.totalSize) obj.fd)

theorem shm_init_opened (sys : System ω) (headerSize size : SizeT) (url : List Char)
    (obj : PosixShmMmapObject) (w : ω) (log : List Event) :
    let r := obj.shmInit sys.logged headerSize size url (w, log)
    r.2.1.owned = true ∧ ∃ evs, r.2.2.2 = log ++ evs ∧ Opened r.1 r.2.1 evs := by
  simp only [shmInit, System.logged]
  generalize sys.createNewSharedMemory _ _ _ = created
  obtain ⟨⟨ok, fd⟩, w1⟩ := created
  cases ok
  · refine ⟨rfl, _, List.append_assoc .., rfl, fun held => ?_⟩
    exact Exists.intro held ⟨rfl, rfl⟩
  · generalize sys.mapSharedMemory _ _ _ = mapped
    obtain ⟨ptr, w2⟩ := mapped
    by_cases null : ptr = 0
    · subst null
      refine ⟨rfl, _, by simp only [List.append_assoc]; rfl, rfl, fun held => ?_⟩
      exact Exists.intro _ ⟨rfl, rfl⟩
    · simp only [null]
      refine ⟨rfl, _, by simp only [List.append_assoc]; rfl, rfl, fun held => ?_⟩
      show held.replay _ = _
      simp only [List.singleton_append, Held.replay_cons, Held.record, Option.some_bind,
        if_neg null, if_true, Held.replay_nil]
      rfl

theorem shm_attach_opened (sys : System ω) (url : List Char) (obj : PosixShmMmapObject) (w : ω)
    (log : List Event) :
    let r := obj.shmAttach sys.logged url (w, log)
    r.2.1.owned = false ∧ ∃ evs, r.2.2.2 = log ++ evs ∧ Opened r.1 r.2.1 evs := by
  simp only [shmAttach, System.logged]
  generalize sys.openSharedMemory _ _ = opened
  obtain ⟨⟨ok, fd⟩, w1⟩ := opened
  cases ok
  · refine ⟨rfl, _, rfl, rfl, fun held => ?_⟩
    exact Exists.intro held ⟨rfl, rfl⟩
  · generalize sys.mapSharedMemory _ _ _ = page
    obtain ⟨page, w2⟩ := page
    by_cases null : page = 0
    · subst null
      refine ⟨rfl, _, List.append_assoc .., rfl, fun held => ?_⟩
      exact Exists.intro _ ⟨rfl, rfl⟩
    · simp only [null]
      generalize sys.mapSharedMemory _ _ _ = mapped
      obtain ⟨ptr, w3⟩ := mapped
      by_cases null' : ptr = 0
      · simp only [null']
        refine ⟨rfl, _, by simp only [List.append_assoc]; rfl, rfl, fun held => ?_⟩
        show ∃ _, _
        simp only [List.singleton_append, Held.replay_cons, Held.record, Option.some_bind, if_true,
          if_neg null, List.mem_cons_self, List.erase_cons_head, Held.replay_nil]
        exact Exists.intro _ ⟨rfl, rfl⟩
      · simp only [null']
        refine ⟨rfl, _, by simp only [List.append_assoc]; rfl, rfl, fun held => ?_⟩
        show held.replay _ = _
        simp only [List.singleton_append, Held.replay_cons, Held.record, Option.some_bind, if_true,
          if_neg null, if_neg null', List.mem_cons_self, List.erase_cons_head, Held.replay_nil]
        rfl

/-- What `_Detach`, `_Destroy` and the destructor leave: the object no longer marked initialized,
and, when it was, its mapping and `fd_` given back. -/
def Closed (before after : PosixShmMmapObject) (evs : List Event) : Prop :=
  after.initialized = false ∧ ∀ held : Held,
    held.replay evs = if before.initialized then
      held.giveBack (before.fields.header, before.fields.totalSize) before.fd
    else some held

theorem detach_closed (sys : System ω) (obj : PosixShmMmapObject) (w : ω) (log : List Event) :
    let r := obj.detach sys.logged (w, log)
    r.1.url = obj.url ∧ ∃ evs, r.2.2 = log ++ evs ∧ Closed obj r.1 evs := by
  cases unset : obj.initialized
  · simp only [detach, unset]
    exact ⟨rfl, [], by simp, unset, by simp [unset]⟩
  · simp only [detach, unset, System.logged]
    refine ⟨rfl, _, by simp only [List.append_assoc, List.singleton_append]; rfl, rfl, fun held => ?_⟩
    unfold Held.giveBack
    by_cases mapped : (obj.fields.header, obj.fields.totalSize) ∈ held.mappings <;>
      by_cases opened : obj.fd ∈ held.fds <;> simp [Held.record, Held.release, mapped, opened, unset]

theorem destroy_closed (sys : System ω) (obj : PosixShmMmapObject) (w : ω) (log : List Event) :
    let r := obj.destroy sys.logged (w, log)
    ∃ evs, r.2.2 = log ++ evs ∧ Closed obj r.1 evs := by
  cases unset : obj.initialized
  · simp only [destroy, unset]
    exact ⟨[], by simp, unset, by simp [unset]⟩
  · obtain ⟨-, evs, logged, -, replayed⟩ := detach_closed sys obj w log
    simp only [destroy, unset, Bool.not_true, Bool.false_eq_true, if_false]
    refine ⟨evs ++ [.destroySharedMemory (obj.detach sys.logged (w, log)).1.url], ?_, rfl,
      fun held => ?_⟩
    · show (obj.detach sys.logged (w, log)).2.2 ++ _ = _
      rw [logged, List.append_assoc]
    simp [Held.replay_append, replayed, Held.record]

theorem destructor_closed (sys : System ω) (obj : PosixShmMmapObject) (w : ω) (log : List Event) :
    let r := obj.destructor sys.logged (w, log)
    ∃ evs, r.2.2 = log ++ evs ∧ Closed obj r.1 evs := by
  unfold destructor
  split
  · exact destroy_closed sys obj w log
  · exact (detach_closed sys obj w log).2

theorem call_opened (sys : System ω) (headerSize : SizeT) {c : Call} (opens : c.opens = true)
    (obj : PosixShmMmapObject) (w : ω) (log : List Event) :
    let r := obj.call sys.logged headerSize c (w, log)
    ∃ evs, r.2.2.2 = log ++ evs ∧ Opened r.1 r.2.1 evs := by
  cases c with
  | shmInit size url => exact (shm_init_opened sys headerSize size url obj w log).2
  | shmAttach url => exact (shm_attach_opened sys url obj w log).2
  | shmDetach | shmDestroy => cases opens

theorem call_closed (sys : System ω) (headerSize : SizeT) {c : Call} (closes : c.opens = false)
    (obj : PosixShmMmapObject) (w : ω) (log : List Event) :
    let r := obj.call sys.logged headerSize c (w, log)
    r.1 = .done ∧ ∃ evs, r.2.2.2 = log ++ evs ∧ Closed obj r.2.1 evs := by
  cases c with
  | shmInit | shmAttach => cases closes
  | shmDetach => exact ⟨rfl, (detach_closed sys obj w log).2⟩
  | shmDestroy => exact ⟨rfl, destroy_closed sys obj w log⟩

/-- A `shm_init` that succeeds sets the fields `PosixShmMmap.shmInit` lays out for a system that
maps the segment where `MapSharedMemory` did. -/
theorem shm_init_fields {sys : System ω} {headerSize size : SizeT} {url : List Char}
    {obj obj' : PosixShmMmapObject} {w w' : ω}
    (init : obj.shmInit sys headerSize size url w = (.returned true, obj', w'))
    (fits : obj'.fields.header.toNat + obj'.fields.totalSize.toNat ≤ 2 ^ 64) :
    PosixShmMmap.shmInit (spaceAt obj'.fields.header) headerSize size =
      some (obj'.fields, ⟨headerSize, atLeastMinBackendSize size, -1⟩) := by
  unfold shmInit at init
  dsimp only at init
  split at init
  · cases init
  · split at init
    · cases init
    · cases init
      simp only [PosixShmMmap.shmInit, spaceAt, if_pos fits]
      rfl

/-- A `shm_attach` that succeeds on a segment whose header reads `stored` sets the fields
`PosixShmMmap.shmAttach` lays out from `stored` for a system that maps the segment where
`MapSharedMemory` did. -/
theorem shm_attach_fields {sys : System ω} {url : List Char} {obj obj' : PosixShmMmapObject}
    {w w' : ω} {stored : BackendHeader} (reads : ∀ ptr w, sys.readHeader ptr w = stored)
    (attached : obj.shmAttach sys url w = (.returned true, obj', w'))
    (fits : obj'.fields.header.toNat + obj'.fields.totalSize.toNat ≤ 2 ^ 64) :
    PosixShmMmap.shmAttach (spaceAt obj'.fields.header) stored = some obj'.fields := by
  unfold shmAttach at attached
  dsimp only at attached
  simp only [reads] at attached
  split at attached
  · cases attached
  · split at attached
    · cases attached
    · split at attached
      · cases attached
      · cases attached
        simp only [PosixShmMmap.shmAttach, spaceAt, if_pos fits]
        rfl

/-! ## Giving back only what is held -/

/-- While the object is marked initialized, its mapping and `fd_` are held. -/
def Holds (obj : PosixShmMmapObject) (held : Held) : Prop :=
  obj.initialized = true →
    (obj.fields.header, obj.fields.totalSize) ∈ held.mappings ∧ obj.fd ∈ held.fds

theorem Opened.holds {o : Outcome} {obj : PosixShmMmapObject} {evs : List Event}
    (opened : Opened o obj evs) (succeeded : o.failed = false) (held : Held) :
    ∃ held', held.replay evs = some held' ∧ Holds obj held' := by
  have replayed := opened.2 held
  rw [if_neg (by simp [succeeded])] at replayed
  exact ⟨_, replayed, fun _ => ⟨List.mem_cons_self _ _, List.mem_cons_self _ _⟩⟩

theorem Closed.holds {before after : PosixShmMmapObject} {evs : List Event}
    (closed : Closed before after evs) {held : Held} (holds : Holds before held) :
    ∃ held', held.replay evs = some held' ∧ Holds after held' := by
  rw [closed.2 held]
  cases initialized : before.initialized
  · exact ⟨held, rfl, fun set => absurd set (by simp [closed.1])⟩
  · rw [if_pos rfl, Held.giveBack, if_pos (holds initialized)]
    exact ⟨_, rfl, fun set => absurd set (by simp [closed.1])⟩

/-- One call keeps the object's mapping and `fd_` held while it is marked initialized, unless it
is a `shm_init` or `shm_attach` that fails. -/
theorem call_holds (sys : System ω) (headerSize : SizeT) (c : Call) (obj : PosixShmMmapObject)
    (w : ω) (log : List Event) {held : Held} (holds : Holds obj held)
    (succeeded : (obj.call sys.logged headerSize c (w, log)).1.failed = false) :
    let r := obj.call sys.logged headerSize c (w, log)
    ∃ evs held', r.2.2.2 = log ++ evs ∧ held.replay evs = some held' ∧ Holds r.2.1 held' := by
  cases opens : c.opens
  · obtain ⟨-, evs, logged, closed⟩ := call_closed sys headerSize opens obj w log
    obtain ⟨held', replayed, holds'⟩ := closed.holds holds
    exact ⟨evs, held', logged, replayed, holds'⟩
  · obtain ⟨evs, logged, opened⟩ := call_opened sys headerSize opens obj w log
    obtain ⟨held', replayed, holds'⟩ := opened.holds succeeded held
    exact ⟨evs, held', logged, replayed, holds'⟩

theorem run_holds (sys : System ω) (headerSize : SizeT) :
    ∀ (calls : List Call) (obj : PosixShmMmapObject) (w : ω) (log : List Event) (held : Held),
      Holds obj held →
      let r := runCalls (call sys.logged headerSize) calls obj (w, log)
      (r.1.all fun o => !o.failed) = true →
      ∃ evs held', r.2.2.2 = log ++ evs ∧ held.replay evs = some held' ∧ Holds r.2.1 held'
  | [], obj, w, log, held, holds, _ => ⟨[], held, by simp [runCalls], rfl, holds⟩
  | c :: calls, obj, w, log, held, holds, succeeded => by
      simp only [runCalls, List.all_cons, Bool.and_eq_true, Bool.not_eq_true'] at succeeded ⊢
      obtain ⟨evs₁, held₁, logged₁, replayed₁, holds₁⟩ :=
        call_holds sys headerSize c obj w log holds succeeded.1
      obtain ⟨evs₂, held₂, logged₂, replayed₂, holds₂⟩ :=
        run_holds sys headerSize calls _ _ _ held₁ holds₁ succeeded.2
      refine ⟨evs₁ ++ evs₂, held₂, ?_, ?_, holds₂⟩
      · rw [logged₂, logged₁, List.append_assoc]
      · rw [Held.replay_append, replayed₁, Option.some_bind, replayed₂]

/-! ## The data area inside the mapping -/

/-- While the object is marked initialized, `[data_, data_ + data_size_)` lies inside the mapping
`[header_, header_ + total_size_)`, which ends below `2^64`. -/
def Framed (obj : PosixShmMmapObject) : Prop :=
  obj.initialized = true →
    obj.fields.header.toNat ≤ obj.fields.data.toNat ∧
      obj.fields.data.toNat + obj.fields.dataSize.toNat ≤
        obj.fields.header.toNat + obj.fields.totalSize.toNat ∧
      obj.fields.header.toNat + obj.fields.totalSize.toNat < 2 ^ 64

/-- The layout both `shm_init` and `shm_attach` give a mapping at `ptr`: `md` bytes of header, then
`size` bytes of data, `md + size` in all. -/
theorem framed_layout (ptr md size : SizeT) (noWrap : md.toNat + size.toNat < 2 ^ 64)
    (below : ptr.toNat + (md + size).toNat < 2 ^ 64) :
    ptr.toNat ≤ (ptr + md).toNat ∧ (ptr + md).toNat + size.toNat ≤ ptr.toNat + (md + size).toNat ∧
      ptr.toNat + (md + size).toNat < 2 ^ 64 := by
  have total : (md + size).toNat = md.toNat + size.toNat := by
    rw [BitVec.toNat_add]
    exact Nat.mod_eq_of_lt noWrap
  have data : (ptr + md).toNat = ptr.toNat + md.toNat := by
    rw [BitVec.toNat_add]
    exact Nat.mod_eq_of_lt (by omega)
  omega

section Framing

variable {sys : System ω} (maps : sys.MapsBelowTop)

include maps

theorem shm_init_framed (headerSize size : SizeT) (url : List Char) (obj : PosixShmMmapObject)
    (w : ω) (fits : (Call.shmInit size url).sizeFits headerSize = true)
    (succeeded : (obj.shmInit sys headerSize size url w).1.failed = false) :
    Framed (obj.shmInit sys headerSize size url w).2.1 := by
  rw [Call.sizeFits, decide_eq_true_eq] at fits
  unfold shmInit at succeeded ⊢
  dsimp only at succeeded ⊢
  split
  · next refused =>
      rw [if_pos refused] at succeeded
      exact absurd succeeded.symm Bool.false_ne_true
  · next created =>
      rw [if_neg created] at succeeded
      split
      · next null =>
          rw [if_pos null] at succeeded
          exact absurd succeeded.symm Bool.false_ne_true
      · next null => exact fun _ => framed_layout _ _ _ fits (maps _ _ _ null)

theorem shm_attach_framed {stored : BackendHeader} (reads : ∀ ptr w, sys.readHeader ptr w = stored)
    (storedFits : (alignedMdSize stored.mdSize).toNat + stored.dataSize.toNat < 2 ^ 64)
    (url : List Char) (obj : PosixShmMmapObject) (w : ω)
    (succeeded : (obj.shmAttach sys url w).1.failed = false) :
    Framed (obj.shmAttach sys url w).2.1 := by
  unfold shmAttach at succeeded ⊢
  dsimp only at succeeded ⊢
  simp only [reads] at succeeded ⊢
  split
  · next refused =>
      rw [if_pos refused] at succeeded
      exact absurd succeeded.symm Bool.false_ne_true
  · next opened =>
      rw [if_neg opened] at succeeded
      split
      · next null =>
          rw [if_pos null] at succeeded
          exact absurd succeeded.symm Bool.false_ne_true
      · next paged =>
          rw [if_neg paged] at succeeded
          split
          · next null =>
              rw [if_pos null] at succeeded
              exact absurd succeeded.symm Bool.false_ne_true
          · next null => exact fun _ => framed_layout _ _ _ storedFits (maps _ _ _ null)

end Framing

/-- Over a system that maps below the top of the address space and whose segment header reads
`stored`, every run whose calls all succeed leaves the data area inside the mapping, when its
`shm_init` sizes do not wrap and `stored`'s do not either. -/
theorem run_framed {sys : System ω} (maps : sys.MapsBelowTop) {stored : BackendHeader}
    (reads : ∀ ptr w, sys.readHeader ptr w = stored)
    (storedFits : (alignedMdSize stored.mdSize).toNat + stored.dataSize.toNat < 2 ^ 64)
    (headerSize : SizeT) :
    ∀ (calls : List Call) (obj : PosixShmMmapObject) (w : ω) (log : List Event),
      Framed obj → calls.all (Call.sizeFits headerSize) = true →
      let r := runCalls (call sys.logged headerSize) calls obj (w, log)
      (r.1.all fun o => !o.failed) = true → Framed r.2.1
  | [], obj, w, log, framed, _, _ => framed
  | c :: calls, obj, w, log, _, fits, succeeded => by
      simp only [runCalls, List.all_cons, Bool.and_eq_true, Bool.not_eq_true'] at succeeded fits ⊢
      refine run_framed maps reads storedFits headerSize calls _ _ _ ?_ fits.2 succeeded.2
      cases opens : c.opens
      · obtain ⟨-, evs, -, closed⟩ := call_closed sys headerSize opens obj w log
        exact fun set => absurd (closed.1.symm.trans set) Bool.false_ne_true
      · cases c with
        | shmInit size url => exact shm_init_framed maps.logged _ _ _ _ _ fits.1 succeeded.1
        | shmAttach url =>
            exact shm_attach_framed maps.logged (fun ptr s => reads ptr s.1) storedFits _ _ _
              succeeded.1
        | shmDetach | shmDestroy => cases opens

/-! ## Giving back everything, once -/

/-- What paired calls leave, `pending` saying whether a `shm_init` or `shm_attach` is open and
`failed` whether one of them failed. Without a failure the object is marked initialized exactly
while one is open, and exactly its mapping and `fd_` are held then, nothing otherwise. After a
failure, either a call has given back what was not held, or one is open and the object is marked
initialized over a mapping not held. -/
def Accounted (pending failed : Bool) (obj : PosixShmMmapObject) : Option Held → Prop
  | none => failed = true
  | some held =>
      if failed then
        pending = true ∧ obj.initialized = true ∧
          (obj.fields.header, obj.fields.totalSize) ∉ held.mappings
      else
        obj.initialized = pending ∧
          held = if pending then Held.empty.acquire (obj.fields.header, obj.fields.totalSize) obj.fd
            else Held.empty

theorem Accounted.opened {failed : Bool} {before after : PosixShmMmapObject} {o : Outcome}
    {evs : List Event} {ledger : Option Held} (accounted : Accounted false failed before ledger)
    (opened : Opened o after evs) :
    Accounted true (failed || o.failed) after (ledger.bind (·.replay evs)) := by
  match ledger, failed, accounted with
  | none, _, accounted => simp [Accounted] at accounted; simp [Accounted, accounted]
  | some held, true, accounted => simp [Accounted] at accounted
  | some held, false, accounted =>
      simp only [Accounted, if_false, Bool.false_eq_true] at accounted
      obtain ⟨-, rfl⟩ := accounted
      have replayed := opened.2 Held.empty
      cases failing : o.failed
      · rw [failing, if_neg Bool.false_ne_true] at replayed
        simp [Accounted, replayed, opened.1]
      · rw [failing, if_pos rfl] at replayed
        obtain ⟨held', replayed, unmapped⟩ := replayed
        rw [Option.some_bind, replayed]
        simp [Accounted, opened.1, unmapped, Held.empty]

theorem Accounted.closed {pending failed : Bool} {before after : PosixShmMmapObject}
    {evs : List Event} {ledger : Option Held} (accounted : Accounted pending failed before ledger)
    (closed : Closed before after evs) :
    Accounted false failed after (ledger.bind (·.replay evs)) := by
  match ledger, failed, accounted with
  | none, _, accounted => simpa [Accounted] using accounted
  | some held, true, accounted =>
      simp only [Accounted, if_true] at accounted
      obtain ⟨-, initialized, unmapped⟩ := accounted
      simp [Accounted, closed.2 held, initialized, Held.giveBack, unmapped]
  | some held, false, accounted =>
      simp only [Accounted, if_false, Bool.false_eq_true] at accounted
      obtain ⟨initialized, rfl⟩ := accounted
      cases pending <;> simp [Accounted, closed.2, initialized, closed.1]

theorem Accounted.settled {failed : Bool} {obj : PosixShmMmapObject} {ledger : Option Held}
    (accounted : Accounted false failed obj ledger) :
    ledger = if failed then none else some Held.empty := by
  match ledger, failed, accounted with
  | none, failed, accounted => simp [Accounted] at accounted; simp [accounted]
  | some held, true, accounted => simp [Accounted] at accounted
  | some held, false, accounted => simp [Accounted] at accounted; simp [accounted.2]

theorem run_accounted (sys : System ω) (headerSize : SizeT) :
    ∀ (calls : List Call) (pending failed : Bool) (obj : PosixShmMmapObject) (w : ω)
      (log : List Event) (ledger : Option Held),
      Call.paired pending calls = true → Accounted pending failed obj ledger →
      let r := runCalls (call sys.logged headerSize) calls obj (w, log)
      ∃ evs pending', r.2.2.2 = log ++ evs ∧
        Accounted pending' (failed || r.1.any Outcome.failed) r.2.1 (ledger.bind (·.replay evs))
  | [], pending, failed, obj, w, log, ledger, _, accounted =>
      ⟨[], pending, by simp [runCalls], by simpa [runCalls] using accounted⟩
  | c :: calls, pending, failed, obj, w, log, ledger, paired, accounted => by
      simp only [runCalls, List.any_cons]
      rw [Call.paired] at paired
      cases opens : c.opens
      · rw [if_neg (by simp [opens])] at paired
        obtain ⟨done, evs₁, logged₁, closed⟩ := call_closed sys headerSize opens obj w log
        obtain ⟨evs₂, pending', logged₂, accounted₂⟩ :=
          run_accounted sys headerSize calls false failed _ _ _ _ paired (accounted.closed closed)
        refine ⟨evs₁ ++ evs₂, pending', by rw [logged₂, logged₁, List.append_assoc], ?_⟩
        simpa [done, Outcome.failed, Option.bind_assoc, Held.replay_append] using accounted₂
      · rw [if_pos opens] at paired
        simp only [Bool.and_eq_true, Bool.not_eq_true'] at paired
        obtain ⟨rfl, paired⟩ := paired
        obtain ⟨evs₁, logged₁, opened⟩ := call_opened sys headerSize opens obj w log
        obtain ⟨evs₂, pending', logged₂, accounted₂⟩ :=
          run_accounted sys headerSize calls true _ _ _ _ _ paired (accounted.opened opened)
        refine ⟨evs₁ ++ evs₂, pending', by rw [logged₂, logged₁, List.append_assoc], ?_⟩
        simpa [Option.bind_assoc, Held.replay_append, Bool.or_assoc] using accounted₂

end PosixShmMmapObject

open PosixShmMmapObject in
/-- Over every system, whatever each call returns: a `PosixShmMmap` whose every `shm_init` and
`shm_attach` succeeds never unmaps a range or closes a descriptor it does not hold, whatever the
order of its calls and its destructor. Used in pairs, each `shm_init` or `shm_attach` first or
after a `shm_detach` or `shm_destroy`, it gives back every mapping and descriptor exactly once by
the end of its life exactly when none of them fails; after a failure it unmaps a range it does not
hold. -/
theorem posix_shm_mmap_lifetime_balanced (sys : System ω) (headerSize : SizeT) (calls : List Call)
    (obj : PosixShmMmapObject) (unset : obj.initialized = false) (w : ω) :
    let life := obj.lifetime sys headerSize calls w
    ((life.1.all fun o => !o.failed) = true → (Held.empty.replay life.2).isSome) ∧
      (Call.paired false calls = true →
        Held.empty.replay life.2 = if life.1.any Outcome.failed then none else some Held.empty) := by
  let ran := runCalls (call sys.logged headerSize) calls obj (w, [])
  obtain ⟨evs₂, logged₂, closed⟩ := destructor_closed sys ran.2.1 ran.2.2.1 ran.2.2.2
  refine ⟨fun succeeded => ?_, fun paired => ?_⟩
  · obtain ⟨evs₁, held₁, logged₁, replayed₁, holds₁⟩ :=
      run_holds sys headerSize calls obj w [] Held.empty (fun set => absurd set (by simp [unset]))
        succeeded
    obtain ⟨held₂, replayed₂, -⟩ := closed.holds holds₁
    show (Held.empty.replay (ran.2.1.destructor sys.logged ran.2.2).2.2).isSome
    rw [logged₂, logged₁, List.nil_append, Held.replay_append, replayed₁, Option.some_bind,
      replayed₂]
    rfl
  · obtain ⟨evs₁, pending, logged₁, accounted⟩ :=
      run_accounted sys headerSize calls false false obj w [] (some Held.empty) paired
        (by simp [Accounted, unset])
    have settled := (accounted.closed closed).settled
    show Held.empty.replay (ran.2.1.destructor sys.logged ran.2.2).2.2 =
      if ran.1.any Outcome.failed then none else some Held.empty
    rw [logged₂, logged₁, List.nil_append, Held.replay_append, ← Option.some_bind Held.empty
      (·.replay evs₁), settled]
    simp

/-- A system that places every block and mapping at `0x7f0000000000`, gives out descriptor 3,
finds a segment to open exactly when `segmentExists`, and whose segments hold a 64-byte header
over 1 MiB of data. -/
def sampleSystem (segmentExists : Bool) : System Unit where
  malloc _ _ := (0x7f0000000000, ())
  free _ _ := ()
  destroySharedMemory _ _ := ()
  createNewSharedMemory _ _ _ := ((true, 3), ())
  openSharedMemory _ _ := ((segmentExists, if segmentExists then 3 else -1), ())
  mapSharedMemory _ _ _ := (0x7f0000000000, ())
  unmapMemory _ _ _ := ()
  closeSharedMemory _ _ := ()
  readHeader _ _ := ⟨64, 1024 * 1024, -1⟩
  writeHeader _ _ _ := ()

/-- A `PosixShmMmap` not yet initialized. -/
def unsetPosixShmMmap : PosixShmMmapObject := ⟨false, false, -1, [], ⟨0, 0, 0, 0, 0, 0, 0⟩⟩

theorem posix_shm_mmap_lifetime_balanced_of_reattach :
    unsetPosixShmMmap.initialized = false ∧
      let calls := [.shmInit 0 "/seg".toList, .shmDetach, .shmAttach "/seg".toList]
      let life := unsetPosixShmMmap.lifetime (sampleSystem true) 64 calls ()
      ((life.1.all fun o => !o.failed) = true → (Held.empty.replay life.2).isSome) ∧
        (Call.paired false calls = true →
          Held.empty.replay life.2 = if life.1.any Outcome.failed then none else some Held.empty) :=
  ⟨rfl, posix_shm_mmap_lifetime_balanced (sampleSystem true) 64 _ _ rfl ()⟩

/-- A `shm_attach` that finds no segment after a `shm_detach`: the destructor unmaps a second time
the range `shm_detach` unmapped. -/
example :
    Held.empty.replay (unsetPosixShmMmap.lifetime (sampleSystem false) 64
      [.shmInit 0 "/seg".toList, .shmDetach, .shmAttach "/seg".toList] ()).2 = none := by
  decide

/-! ## `MallocBackend` -/

/-- A `MallocBackend` object: the fields `shm_init` sets, `alloc_ptr_` among them, 0 being
`nullptr`. -/
structure MallocBackendObject where
  fields : MallocBackend
  deriving DecidableEq, Repr

namespace MallocBackendObject

/-- `MallocBackend::shm_init(backend_id, backend_size)`, `kBackendHeaderSize` being
`backendHeaderSize`: `total_size_` is set before `malloc`, the other fields once it succeeds. -/
def shmInit (sys : System ω) (backendHeaderSize backendSize : SizeT) (obj : MallocBackendObject)
    (w : ω) : Outcome × MallocBackendObject × ω :=
  let backendSize := atLeastMinBackendSize backendSize
  let obj := { obj with fields.totalSize := backendSize }
  let allocated := sys.malloc obj.fields.totalSize w
  if allocated.1 = 0 then (.returned false, obj, allocated.2)
  else
    let ptr := allocated.1
    let privHeaderPtr := ptr + backendHeaderSize
    let sharedHeaderPtr := privHeaderPtr + backendHeaderSize
    (.returned true,
      ⟨{ totalSize := backendSize, allocPtr := ptr, region := ptr,
          header := sharedHeaderPtr + backendHeaderSize, backendSize := backendSize,
          dataCapacity := backendSize - 3 * backendHeaderSize, dataId := -1,
          privHeaderOff := privHeaderPtr - ptr, data := sharedHeaderPtr + backendHeaderSize }⟩,
      allocated.2)

/-- `MallocBackend::shm_attach(url)`: it throws `SHMEM_NOT_SUPPORTED`. -/
def shmAttach (obj : MallocBackendObject) (w : ω) : Outcome × MallocBackendObject × ω :=
  (.threw .shmemNotSupported, obj, w)

def detach (sys : System ω) (obj : MallocBackendObject) (w : ω) : MallocBackendObject × ω :=
  if obj.fields.allocPtr ≠ 0 then
    let w := sys.free obj.fields.allocPtr w
    ({ obj with fields.allocPtr := 0 }, w)
  else (obj, w)

/-- `_Destroy()`, the same code as `_Detach()`. -/
def destroy (sys : System ω) (obj : MallocBackendObject) (w : ω) : MallocBackendObject × ω :=
  obj.detach sys w

/-- `~MallocBackend()`, which is empty. -/
def destructor (obj : MallocBackendObject) (w : ω) : MallocBackendObject × ω := (obj, w)

/-- One method call; `shm_detach` is `_Detach` and `shm_destroy` is `_Destroy`. -/
def call (sys : System ω) (backendHeaderSize : SizeT) :
    Call → MallocBackendObject → ω → Outcome × MallocBackendObject × ω
  | .shmInit size _, obj, w => obj.shmInit sys backendHeaderSize size w
  | .shmAttach _, obj, w => obj.shmAttach w
  | .shmDetach, obj, w => let r := obj.detach sys w; (.done, r.1, r.2)
  | .shmDestroy, obj, w => let r := obj.destroy sys w; (.done, r.1, r.2)

/-- An object's life: `calls`, then the destructor, on `sys` from an empty log; how each call
ended, the object at the end, and the log. -/
def lifetime (sys : System ω) (backendHeaderSize : SizeT) (calls : List Call)
    (obj : MallocBackendObject) (w : ω) : List Outcome × MallocBackendObject × List Event :=
  let ran := runCalls (call sys.logged backendHeaderSize) calls obj (w, [])
  let ended := ran.2.1.destructor ran.2.2
  (ran.1, ended.1, ended.2.2)

/-- The block `alloc_ptr_` names, if it is not null. -/
def blocksOf (obj : MallocBackendObject) : Held :=
  ⟨if obj.fields.allocPtr = 0 then [] else [obj.fields.allocPtr], [], []⟩

/-- While `alloc_ptr_` is not null, its block is held. -/
def Holds (obj : MallocBackendObject) (held : Held) : Prop :=
  obj.fields.allocPtr ≠ 0 → obj.fields.allocPtr ∈ held.blocks

theorem shm_init_log (sys : System ω) (backendHeaderSize size : SizeT) (obj : MallocBackendObject)
    (w : ω) (log : List Event) :
    let r := obj.shmInit sys.logged backendHeaderSize size (w, log)
    ∃ ptr, r.2.2.2 = log ++ [.malloc (atLeastMinBackendSize size) ptr] ∧
      r.2.1.fields.allocPtr = if ptr = 0 then obj.fields.allocPtr else ptr := by
  simp only [shmInit, System.logged]
  refine ⟨(sys.malloc (atLeastMinBackendSize size) w).1, ?_⟩
  split <;> simp [*]

theorem detach_log (sys : System ω) (obj : MallocBackendObject) (w : ω) (log : List Event) :
    let r := obj.detach sys.logged (w, log)
    r.1.fields.allocPtr = 0 ∧
      r.2.2 = log ++ if obj.fields.allocPtr = 0 then [] else [.free obj.fields.allocPtr] := by
  unfold detach
  split <;> simp_all [System.logged]

theorem detach_replay (sys : System ω) (obj : MallocBackendObject) (w : ω) (log : List Event)
    {held : Held} (holds : Holds obj held) :
    let r := obj.detach sys.logged (w, log)
    r.1.fields.allocPtr = 0 ∧ ∃ evs, r.2.2 = log ++ evs ∧
      held.replay evs = some (if obj.fields.allocPtr = 0 then held
        else { held with blocks := held.blocks.erase obj.fields.allocPtr }) := by
  obtain ⟨nulled, logged⟩ := detach_log sys obj w log
  refine ⟨nulled, _, logged, ?_⟩
  by_cases null : obj.fields.allocPtr = 0
  · rw [if_pos null, if_pos null, Held.replay_nil]
  · rw [if_neg null, if_neg null]
    simp [Held.record, holds null]

theorem call_holds (sys : System ω) (backendHeaderSize : SizeT) (c : Call)
    (obj : MallocBackendObject) (w : ω) (log : List Event) {held : Held} (holds : Holds obj held) :
    let r := obj.call sys.logged backendHeaderSize c (w, log)
    ∃ evs held', r.2.2.2 = log ++ evs ∧ held.replay evs = some held' ∧ Holds r.2.1 held' := by
  cases c with
  | shmInit size url =>
      obtain ⟨ptr, logged, allocated⟩ := shm_init_log sys backendHeaderSize size obj w log
      refine ⟨_, if ptr = 0 then held else { held with blocks := ptr :: held.blocks }, logged, rfl,
        fun set => ?_⟩
      change (obj.shmInit sys.logged backendHeaderSize size (w, log)).2.1.fields.allocPtr ≠ 0 at set
      change (obj.shmInit sys.logged backendHeaderSize size (w, log)).2.1.fields.allocPtr ∈ _
      rw [allocated] at set ⊢
      by_cases null : ptr = 0
      · simp only [if_pos null] at set ⊢
        exact holds set
      · simp only [if_neg null]
        exact List.mem_cons_self _ _
  | shmAttach url => exact ⟨[], held, by simp [call, shmAttach], rfl, holds⟩
  | shmDetach | shmDestroy =>
      obtain ⟨nulled, evs, logged, replayed⟩ := detach_replay sys obj w log holds
      exact ⟨evs, _, logged, replayed, fun set => absurd nulled set⟩

theorem call_exact (sys : System ω) (backendHeaderSize : SizeT) (c : Call)
    (obj : MallocBackendObject) (w : ω) (log : List Event)
    (unset : c.opens = true → obj.fields.allocPtr = 0) :
    let r := obj.call sys.logged backendHeaderSize c (w, log)
    ∃ evs, r.2.2.2 = log ++ evs ∧ (blocksOf obj).replay evs = some (blocksOf r.2.1) ∧
      (c.opens = false → r.2.1.fields.allocPtr = 0) := by
  cases c with
  | shmInit size url =>
      obtain ⟨ptr, logged, allocated⟩ := shm_init_log sys backendHeaderSize size obj w log
      have null := unset rfl
      refine ⟨_, logged, ?_, fun opens => by cases opens⟩
      change _ = some (blocksOf (obj.shmInit sys.logged backendHeaderSize size (w, log)).2.1)
      by_cases fresh : ptr = 0
      · simp only [blocksOf, allocated, null, if_pos fresh, eq_self_iff_true, if_true,
          Held.replay_cons, Held.record, Held.replay_nil, Option.some_bind]
      · simp only [blocksOf, allocated, null, if_neg fresh, eq_self_iff_true, if_true,
          Held.replay_cons, Held.record, Held.replay_nil, Option.some_bind]
  | shmAttach url => exact ⟨[], by simp [call, shmAttach], rfl, fun opens => by cases opens⟩
  | shmDetach | shmDestroy =>
      simp only [call, destroy]
      have holds : Holds obj (blocksOf obj) := fun set => by
        rw [blocksOf, if_neg set]
        exact List.mem_singleton_self _
      obtain ⟨nulled, evs, logged, replayed⟩ := detach_replay sys obj w log holds
      refine ⟨evs, logged, ?_, fun _ => nulled⟩
      rw [replayed]
      by_cases null : obj.fields.allocPtr = 0
      · simp only [if_pos null, blocksOf, nulled, null, eq_self_iff_true, if_true]
      · simp only [if_neg null, blocksOf, nulled, eq_self_iff_true, if_true, List.erase_cons_head]

theorem run_holds (sys : System ω) (backendHeaderSize : SizeT) :
    ∀ (calls : List Call) (obj : MallocBackendObject) (w : ω) (log : List Event) (held : Held),
      Holds obj held →
      let r := runCalls (call sys.logged backendHeaderSize) calls obj (w, log)
      ∃ evs held', r.2.2.2 = log ++ evs ∧ held.replay evs = some held' ∧ Holds r.2.1 held'
  | [], obj, w, log, held, holds => ⟨[], held, by simp [runCalls], rfl, holds⟩
  | c :: calls, obj, w, log, held, holds => by
      obtain ⟨evs₁, held₁, logged₁, replayed₁, holds₁⟩ :=
        call_holds sys backendHeaderSize c obj w log holds
      obtain ⟨evs₂, held₂, logged₂, replayed₂, holds₂⟩ :=
        run_holds sys backendHeaderSize calls _ _ _ held₁ holds₁
      refine ⟨evs₁ ++ evs₂, held₂, ?_, ?_, holds₂⟩
      · rw [runCalls, logged₂, logged₁, List.append_assoc]
      · rw [Held.replay_append, replayed₁, Option.some_bind, replayed₂]

theorem run_exact (sys : System ω) (backendHeaderSize : SizeT) :
    ∀ (calls : List Call) (pending : Bool) (obj : MallocBackendObject) (w : ω) (log : List Event),
      Call.paired pending calls = true → (pending = false → obj.fields.allocPtr = 0) →
      let r := runCalls (call sys.logged backendHeaderSize) calls obj (w, log)
      ∃ evs, r.2.2.2 = log ++ evs ∧ (blocksOf obj).replay evs = some (blocksOf r.2.1)
  | [], _, obj, w, log, _, _ => ⟨[], by simp [runCalls], rfl⟩
  | c :: calls, pending, obj, w, log, paired, unset => by
      rw [Call.paired] at paired
      obtain ⟨pending', rest, unset', closes⟩ : ∃ pending', Call.paired pending' calls = true ∧
          (c.opens = true → obj.fields.allocPtr = 0) ∧ (pending' = false → c.opens = false) := by
        cases opens : c.opens
        · rw [if_neg (by simp [opens])] at paired
          exact ⟨false, paired, by simp, fun _ => rfl⟩
        · rw [if_pos opens] at paired
          simp only [Bool.and_eq_true, Bool.not_eq_true'] at paired
          exact ⟨true, paired.2, fun _ => unset paired.1, by simp⟩
      obtain ⟨evs₁, logged₁, replayed₁, nulled⟩ :=
        call_exact sys backendHeaderSize c obj w log unset'
      obtain ⟨evs₂, logged₂, replayed₂⟩ :=
        run_exact sys backendHeaderSize calls pending' _ _ _ rest fun settled => nulled (closes settled)
      refine ⟨evs₁ ++ evs₂, by rw [runCalls, logged₂, logged₁, List.append_assoc], ?_⟩
      rw [Held.replay_append, replayed₁, Option.some_bind, replayed₂]
      rfl

end MallocBackendObject

open MallocBackendObject in
/-- Over every system, whatever `malloc` returns: a value-initialized `MallocBackend` frees only
blocks it got from `malloc` and has not freed yet, whatever the order of its calls. Used in
pairs, each `shm_init` first or after a `shm_detach` or `shm_destroy`, it ends its life holding
exactly the block `alloc_ptr_` names, which its empty destructor leaks. -/
theorem malloc_backend_lifetime_frees_held (sys : System ω) (backendHeaderSize : SizeT)
    (calls : List Call) (obj : MallocBackendObject) (unset : obj.fields.allocPtr = 0) (w : ω) :
    let life := obj.lifetime sys backendHeaderSize calls w
    (Held.empty.replay life.2.2).isSome ∧
      (Call.paired false calls = true → Held.empty.replay life.2.2 = some (blocksOf life.2.1)) := by
  refine ⟨?_, fun paired => ?_⟩
  · obtain ⟨evs, held, logged, replayed, -⟩ :=
      run_holds sys backendHeaderSize calls obj w [] Held.empty (fun set => absurd unset set)
    show (Held.empty.replay (runCalls _ calls obj (w, [])).2.2.2).isSome
    rw [logged, List.nil_append, replayed]
    rfl
  · obtain ⟨evs, logged, replayed⟩ :=
      run_exact sys backendHeaderSize calls false obj w [] paired fun _ => unset
    show Held.empty.replay (runCalls _ calls obj (w, [])).2.2.2 = _
    rw [logged, List.nil_append, show Held.empty = blocksOf obj by simp [blocksOf, unset, Held.empty],
      replayed]
    rfl

/-- A `MallocBackend` value-initialized: `alloc_ptr_` is null. -/
def unsetMallocBackend : MallocBackendObject := ⟨⟨0, 0, 0, 0, 0, 0, 0, 0, 0⟩⟩

theorem malloc_backend_lifetime_frees_held_of_reinit :
    unsetMallocBackend.fields.allocPtr = 0 ∧
      let calls := [.shmInit 0 [], .shmDetach, .shmInit 0 []]
      let life := unsetMallocBackend.lifetime (sampleSystem true) 4096 calls ()
      (Held.empty.replay life.2.2).isSome ∧
        (Call.paired false calls = true →
          Held.empty.replay life.2.2 = some (MallocBackendObject.blocksOf life.2.1)) :=
  ⟨rfl, malloc_backend_lifetime_frees_held (sampleSystem true) 4096 _ _ rfl ()⟩

/-- Two `shm_init`s without a `shm_detach` between them: the first block is never freed. -/
example :
    Held.empty.replay (unsetMallocBackend.lifetime (sampleSystem true) 4096
      [.shmInit 0 [], .shmInit 0 [], .shmDetach] ()).2.2 = some ⟨[0x7f0000000000], [], []⟩ := by
  decide

end IowarpCore.Memory.Lifecycle

