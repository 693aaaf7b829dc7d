import IowarpCore.Types.Numbers

/-!
# Transaction-log payload codec

A direct transcription of the payload structs of `transaction_log.h` and of the static
`Write*`/`Read*` primitives and `Deserialize*` helpers of `TransactionLog`. Every `Read*` is a
`memcpy` out of `data.data() + off` with no bounds check; a read that would leave the payload is
the point where the C++ has undefined behaviour, and the model stops there with a `ReadFault`
naming that read. `ReadString` builds an `std::string` and `DeserializeExtendBlob` resizes its
block vector before reading into them; those allocations can throw `std::bad_alloc`, and which
ones the heap grants is the parameter `Grants`. `sizeof(chi::PoolQuery)` comes from the runtime
headers and is the parameter `querySize`: the log copies the query as that many opaque bytes.

`Log` payloads read back as the structs that wrote them (`deserialize_*_buffer`), and on any
payload each decoder returns, overruns or throws exactly as its length words and the heap decide
(`deserialize_reads_inside_iff`).
-/

namespace IowarpCore.Wal.Codec

open IowarpCore.Types.Numbers

set_option autoImplicit false

abbrev U32 := BitVec 32

abbrev U64 := BitVec 64

/-- `TxnType`, the six record kinds of the log. -/
inductive TxnType
  | kCreateNewBlob
  | kExtendBlob
  | kClearBlob
  | kDelBlob
  | kCreateTag
  | kDelTag
  deriving DecidableEq, Repr

def TxnType.toByte : TxnType → Byte
  | .kCreateNewBlob => 0
  | .kExtendBlob => 1
  | .kClearBlob => 2
  | .kDelBlob => 3
  | .kCreateTag => 4
  | .kDelTag => 5

/-- A `chi::PoolQuery` as the log sees it: exactly `querySize` opaque bytes. -/
structure PoolQuery (querySize : Nat) where
  bytes : Bytes
  length_eq : bytes.length = querySize
  deriving DecidableEq

structure TxnExtendBlobBlock (querySize : Nat) where
  bdevMajor : U32
  bdevMinor : U32
  targetQuery : PoolQuery querySize
  targetOffset : U64
  size : U64
  deriving DecidableEq

/-- The `float` score is kept as its bit pattern: `memcpy` copies those 32 bits and nothing
else, so "bit-identical" is equality here. -/
structure TxnCreateNewBlob where
  tagMajor : U32
  tagMinor : U32
  blobName : Bytes
  score : BitVec 32
  deriving DecidableEq

structure TxnExtendBlob (querySize : Nat) where
  tagMajor : U32
  tagMinor : U32
  blobName : Bytes
  newBlocks : List (TxnExtendBlobBlock querySize)
  deriving DecidableEq

structure TxnClearBlob where
  tagMajor : U32
  tagMinor : U32
  blobName : Bytes
  deriving DecidableEq

structure TxnDelBlob where
  tagMajor : U32
  tagMinor : U32
  blobName : Bytes
  deriving DecidableEq

structure TxnCreateTag where
  tagName : Bytes
  tagMajor : U32
  tagMinor : U32
  deriving DecidableEq

structure TxnDelTag where
  tagName : Bytes
  tagMajor : U32
  tagMinor : U32
  deriving DecidableEq

/-! ## Serialization primitives -/

/-- `WriteU32`, `WriteU64` and `WriteFloat` append the bytes of a `bits`-bit word. -/
def writeWord (bits : Nat) (buf : Bytes) (val : BitVec bits) : Bytes :=
  buf ++ encodeLE (bits / 8) val.toNat

def writeU32 (buf : Bytes) (val : U32) : Bytes := writeWord 32 buf val

def writeU64 (buf : Bytes) (val : U64) : Bytes := writeWord 64 buf val

def writeFloat (buf : Bytes) (val : BitVec 32) : Bytes := writeWord 32 buf val

/-- `WriteString`: the length as `static_cast<chi::u32>(s.size())`, then every byte. -/
def writeString (buf : Bytes) (s : Bytes) : Bytes :=
  writeU32 buf (BitVec.ofNat 32 s.length) ++ s

def writeRaw (buf : Bytes) (raw : Bytes) : Bytes := buf ++ raw

/-! ## The `Log` overloads' payload buffers

Each `Log(type, txn)` clears `buffer_`, fills it with these bytes and hands it to
`WriteRecord`. The four blob records begin with the same three fields and the two tag records
consist of the same three fields, so those prefixes are written once. -/

/-- `tag_major_`, `tag_minor_`, `blob_name_`, the fields every blob record starts with. -/
def writeBlobKey (tagMajor tagMinor : U32) (blobName : Bytes) : Bytes :=
  writeString (writeU32 (writeU32 [] tagMajor) tagMinor) blobName

/-- `tag_name_`, `tag_major_`, `tag_minor_`, the whole payload of both tag records. -/
def writeTagKey (tagName : Bytes) (tagMajor tagMinor : U32) : Bytes :=
  writeU32 (writeU32 (writeString [] tagName) tagMajor) tagMinor

def bufferCreateNewBlob (txn : TxnCreateNewBlob) : Bytes :=
  writeFloat (writeBlobKey txn.tagMajor txn.tagMinor txn.blobName) txn.score

/-- One iteration of the block loop of `Log(type, const TxnExtendBlob &)`. -/
def writeBlock {querySize : Nat} (buf : Bytes) (blk : TxnExtendBlobBlock querySize) : Bytes :=
  writeU64 (writeU64 (writeRaw (writeU32 (writeU32 buf blk.bdevMajor) blk.bdevMinor)
    blk.targetQuery.bytes) blk.targetOffset) blk.size

def bufferExtendBlob {querySize : Nat} (txn : TxnExtendBlob querySize) : Bytes :=
  txn.newBlocks.foldl writeBlock
    (writeU32 (writeBlobKey txn.tagMajor txn.tagMinor txn.blobName)
      (BitVec.ofNat 32 txn.newBlocks.length))

def bufferClearBlob (txn : TxnClearBlob) : Bytes :=
  writeBlobKey txn.tagMajor txn.tagMinor txn.blobName

def bufferDelBlob (txn : TxnDelBlob) : Bytes :=
  writeBlobKey txn.tagMajor txn.tagMinor txn.blobName

def bufferCreateTag (txn : TxnCreateTag) : Bytes :=
  writeTagKey txn.tagName txn.tagMajor txn.tagMinor

def bufferDelTag (txn : TxnDelTag) : Bytes :=
  writeTagKey txn.tagName txn.tagMajor txn.tagMinor

/-! ## Deserialization primitives -/

/-- A read the source performs past the end of the payload: `width` bytes at `off` out of a
payload of `size` bytes, with `size < off + width`. -/
structure ReadFault where
  off : Nat
  width : Nat
  size : Nat
  deriving DecidableEq, Repr

/-- What a `Deserialize*` call does instead of returning: a copy past the end of the payload,
where the C++ has undefined behaviour and the model stops, or the `std::bad_alloc` of an
allocation the heap refuses. -/
inductive DecodeError
  | readFault (fault : ReadFault)
  | badAlloc
  deriving DecidableEq, Repr

/-- Which allocations of the decoders the heap grants: `std::string s(data.data() + off, len)` in
`ReadString` asks for a string of `len` bytes, and `new_blocks_.resize(num_blocks)` in
`DeserializeExtendBlob` for `num_blocks` blocks. That depends on the machine, so every decoder
takes it as a parameter and every result below holds for each choice. -/
structure Grants where
  string : Nat → Bool
  blocks : Nat → Bool

/-- An allocation: `std::bad_alloc` unless the heap grants it. -/
def allocate (granted : Bool) : Except DecodeError Unit :=
  if granted then .ok () else .error .badAlloc

/-- The copy every `Read*` makes: `len` bytes from `data.data() + off`, then `off += len`. -/
def readBytes (data : Bytes) (off len : Nat) : Except DecodeError (Bytes × Nat) :=
  if off + len ≤ data.length then .ok ((data.drop off).take len, off + len)
  else .error (.readFault ⟨off, len, data.length⟩)

/-- `ReadRaw` into an object of `len` bytes, such as the `chi::PoolQuery` of a block. Inside
the payload `takeD` copies exactly the bytes there (`List.takeD_eq_take`). -/
def readRaw (data : Bytes) (off len : Nat) : Except DecodeError (PoolQuery len × Nat) :=
  if off + len ≤ data.length then
    .ok (⟨(data.drop off).takeD len 0, List.takeD_length _ _ _⟩, off + len)
  else .error (.readFault ⟨off, len, data.length⟩)

/-- `ReadU32`, `ReadU64` and `ReadFloat` copy the bytes of a `bits`-bit word. -/
def readWord (bits : Nat) (data : Bytes) (off : Nat) : Except DecodeError (BitVec bits × Nat) :=
  (readBytes data off (bits / 8)).map fun (raw, off) => (BitVec.ofNat bits (decodeLE raw), off)

def readU32 (data : Bytes) (off : Nat) : Except DecodeError (U32 × Nat) := readWord 32 data off

def readU64 (data : Bytes) (off : Nat) : Except DecodeError (U64 × Nat) := readWord 64 data off

def readFloat (data : Bytes) (off : Nat) : Except DecodeError (BitVec 32 × Nat) :=
  readWord 32 data off

/-- `ReadString`: the `u32` length, then `std::string s(data.data() + off, len)`, which allocates
the string before it copies the bytes into it. -/
def readString (grants : Grants) (data : Bytes) (off : Nat) : Except DecodeError (Bytes × Nat) := do
  let (len, off) ← readU32 data off
  allocate (grants.string len.toNat)
  readBytes data off len.toNat

/-! ## `Deserialize*` -/

/-- The reads of `tag_major_`, `tag_minor_` and `blob_name_` every blob deserializer starts
with, and the offset they leave. -/
def readBlobKey (grants : Grants) (data : Bytes) :
    Except DecodeError ((U32 × U32 × Bytes) × Nat) := do
  let off := 0
  let (tagMajor, off) ← readU32 data off
  let (tagMinor, off) ← readU32 data off
  let (blobName, off) ← readString grants data off
  return ((tagMajor, tagMinor, blobName), off)

/-- The reads of `tag_name_`, `tag_major_` and `tag_minor_` both tag deserializers make. -/
def readTagKey (grants : Grants) (data : Bytes) : Except DecodeError (Bytes × U32 × U32) := do
  let off := 0
  let (tagName, off) ← readString grants data off
  let (tagMajor, off) ← readU32 data off
  let (tagMinor, _) ← readU32 data off
  return (tagName, tagMajor, tagMinor)

def deserializeCreateNewBlob (grants : Grants) (data : Bytes) :
    Except DecodeError TxnCreateNewBlob := do
  let ((tagMajor, tagMinor, blobName), off) ← readBlobKey grants data
  let (score, _) ← readFloat data off
  return { tagMajor, tagMinor, blobName, score }

/-- The `num_blocks` iterations of the block loop of `DeserializeExtendBlob`. -/
def readBlocks {querySize : Nat} (data : Bytes) :
    Nat → Nat → Except DecodeError (List (TxnExtendBlobBlock querySize) × Nat)
  | 0, off => .ok ([], off)
  | count + 1, off => do
      let (bdevMajor, off) ← readU32 data off
      let (bdevMinor, off) ← readU32 data off
      let (targetQuery, off) ← readRaw data off querySize
      let (targetOffset, off) ← readU64 data off
      let (size, off) ← readU64 data off
      let (rest, off) ← readBlocks data count off
      return ({ bdevMajor, bdevMinor, targetQuery, targetOffset, size } :: rest, off)

/-- `txn.new_blocks_.resize(num_blocks)` allocates every block before the loop reads any. -/
def deserializeExtendBlob {querySize : Nat} (grants : Grants) (data : Bytes) :
    Except DecodeError (TxnExtendBlob querySize) := do
  let ((tagMajor, tagMinor, blobName), off) ← readBlobKey grants data
  let (numBlocks, off) ← readU32 data off
  allocate (grants.blocks numBlocks.toNat)
  let (newBlocks, _) ← readBlocks data numBlocks.toNat off
  return { tagMajor, tagMinor, blobName, newBlocks }

def deserializeClearBlob (grants : Grants) (data : Bytes) : Except DecodeError TxnClearBlob := do
  let ((tagMajor, tagMinor, blobName), _) ← readBlobKey grants data
  return { tagMajor, tagMinor, blobName }

def deserializeDelBlob (grants : Grants) (data : Bytes) : Except DecodeError TxnDelBlob := do
  let ((tagMajor, tagMinor, blobName), _) ← readBlobKey grants data
  return { tagMajor, tagMinor, blobName }

def deserializeCreateTag (grants : Grants) (data : Bytes) : Except DecodeError TxnCreateTag := do
  let (tagName, tagMajor, tagMinor) ← readTagKey grants data
  return { tagName, tagMajor, tagMinor }

def deserializeDelTag (grants : Grants) (data : Bytes) : Except DecodeError TxnDelTag := do
  let (tagName, tagMajor, tagMinor) ← readTagKey grants data
  return { tagName, tagMajor, tagMinor }

/-! ## Reading back what `Log` wrote -/

@[simp] theorem except_ok_bind {ε α β : Type} (a : α) (f : α → Except ε β) :
    (Except.ok a >>= f) = f a := rfl

@[simp] theorem except_error_bind {ε α β : Type} (e : ε) (f : α → Except ε β) :
    (Except.error e >>= f) = Except.error e := rfl

/-- `data` holds `bytes` from offset `off` on. -/
def HoldsAt (data : Bytes) (off : Nat) (bytes : Bytes) : Prop :=
  ∃ pre rest, data = pre ++ bytes ++ rest ∧ pre.length = off

theorem holds_at_self (data : Bytes) : HoldsAt data 0 data := ⟨[], [], by simp, rfl⟩

@[simp] theorem holds_at_append {data : Bytes} {off : Nat} {x y : Bytes} :
    HoldsAt data off (x ++ y) ↔ HoldsAt data off x ∧ HoldsAt data (off + x.length) y := by
  constructor
  · rintro ⟨pre, rest, rfl, rfl⟩
    exact ⟨⟨pre, y ++ rest, by simp, rfl⟩, ⟨pre ++ x, rest, by simp, by simp⟩⟩
  · rintro ⟨⟨pre, rest, rfl, rfl⟩, ⟨pre', rest', same, offset⟩⟩
    have split := List.append_inj (same.trans (List.append_assoc pre' y rest')) (by simp [offset])
    exact ⟨pre, rest', by simp [split.2], rfl⟩

theorem read_bytes_holds_at {data raw : Bytes} {off : Nat} (holds : HoldsAt data off raw) :
    readBytes data off raw.length = .ok (raw, off + raw.length) := by
  obtain ⟨pre, rest, rfl, rfl⟩ := holds
  simp [readBytes]

theorem read_raw_holds_at {data : Bytes} {off len : Nat} {query : PoolQuery len}
    (holds : HoldsAt data off query.bytes) : readRaw data off len = .ok (query, off + len) := by
  obtain ⟨pre, rest, rfl, rfl⟩ := holds
  obtain ⟨bytes, rfl⟩ := query
  simp [readRaw, List.takeD_left']

theorem read_word_holds_at {data : Bytes} {off bits : Nat} {word : BitVec bits}
    (whole : bits % 8 = 0) (holds : HoldsAt data off (encodeLE (bits / 8) word.toNat)) :
    readWord bits data off = .ok (word, off + bits / 8) := by
  have copied := read_bytes_holds_at holds
  rw [encode_le_length] at copied
  simp [readWord, copied, Except.map, word_roundtrip bits whole]

/-- A length or count that fits its `u32` field survives `static_cast<chi::u32>`. -/
theorem word32_toNat {count : Nat} (fits : count < 2 ^ 32) :
    (BitVec.ofNat 32 count).toNat = count := by
  rw [BitVec.toNat_ofNat, Nat.mod_eq_of_lt fits]

theorem write_string_of_lt {buf s : Bytes} (fits : s.length < 2 ^ 32) :
    writeString buf s = buf ++ encodeLE 4 s.length ++ s := by
  rw [writeString, writeU32, writeWord, word32_toNat fits]

theorem read_string_holds_at {grants : Grants} {data s : Bytes} {off : Nat}
    (fits : s.length < 2 ^ 32) (granted : grants.string s.length = true)
    (header : HoldsAt data off (encodeLE 4 s.length)) (body : HoldsAt data (off + 4) s) :
    readString grants data off = .ok (s, off + 4 + s.length) := by
  rw [← word32_toNat fits] at header
  simp only [readString, readU32, read_word_holds_at (show 32 % 8 = 0 by rfl) header,
    except_ok_bind, word32_toNat fits, allocate, if_pos granted]
  exact read_bytes_holds_at body

theorem read_blob_key_holds_at {grants : Grants} {data name : Bytes} {tagMajor tagMinor : U32}
    (fits : name.length < 2 ^ 32) (granted : grants.string name.length = true)
    (holds : HoldsAt data 0 (writeBlobKey tagMajor tagMinor name)) :
    readBlobKey grants data = .ok ((tagMajor, tagMinor, name), 12 + name.length) := by
  simp only [writeBlobKey, writeU32, writeWord, write_string_of_lt fits, List.nil_append,
    List.append_assoc, holds_at_append, encode_le_length, Nat.reduceDiv] at holds
  obtain ⟨major, minor, header, body⟩ := holds
  simp [readBlobKey, readU32, read_word_holds_at (show 32 % 8 = 0 by rfl) major,
    read_word_holds_at (show 32 % 8 = 0 by rfl) minor, read_string_holds_at fits granted header body]

theorem read_tag_key_holds_at {grants : Grants} {data name : Bytes} {tagMajor tagMinor : U32}
    (fits : name.length < 2 ^ 32) (granted : grants.string name.length = true)
    (holds : HoldsAt data 0 (writeTagKey name tagMajor tagMinor)) :
    readTagKey grants data = .ok (name, tagMajor, tagMinor) := by
  simp only [writeTagKey, writeU32, writeWord, write_string_of_lt fits, List.nil_append,
    List.append_assoc, holds_at_append, encode_le_length, Nat.reduceDiv] at holds
  obtain ⟨header, body, major, minor⟩ := holds
  simp [readTagKey, readU32, read_string_holds_at fits granted header body,
    read_word_holds_at (show 32 % 8 = 0 by rfl) major,
    read_word_holds_at (show 32 % 8 = 0 by rfl) minor]

@[simp] theorem write_string_length (buf s : Bytes) :
    (writeString buf s).length = buf.length + 4 + s.length := by
  simp [writeString, writeU32, writeWord, Nat.add_assoc]

@[simp] theorem write_blob_key_length (tagMajor tagMinor : U32) (name : Bytes) :
    (writeBlobKey tagMajor tagMinor name).length = 12 + name.length := by
  simp [writeBlobKey, writeU32, writeWord]

section RoundTrip

variable {grants : Grants} {data : Bytes}

theorem deserialize_create_new_blob_buffer (txn : TxnCreateNewBlob)
    (fits : txn.blobName.length < 2 ^ 32) (granted : grants.string txn.blobName.length = true)
    (holds : HoldsAt data 0 (bufferCreateNewBlob txn)) :
    deserializeCreateNewBlob grants data = .ok txn := by
  rw [bufferCreateNewBlob, writeFloat, writeWord] at holds
  simp only [holds_at_append, write_blob_key_length, Nat.reduceDiv, Nat.zero_add] at holds
  simp [deserializeCreateNewBlob, read_blob_key_holds_at fits granted holds.1, readFloat,
    read_word_holds_at (show 32 % 8 = 0 by rfl) holds.2]

theorem deserialize_clear_blob_buffer (txn : TxnClearBlob) (fits : txn.blobName.length < 2 ^ 32)
    (granted : grants.string txn.blobName.length = true)
    (holds : HoldsAt data 0 (bufferClearBlob txn)) :
    deserializeClearBlob grants data = .ok txn := by
  simp [deserializeClearBlob, read_blob_key_holds_at fits granted holds]

theorem deserialize_del_blob_buffer (txn : TxnDelBlob) (fits : txn.blobName.length < 2 ^ 32)
    (granted : grants.string txn.blobName.length = true)
    (holds : HoldsAt data 0 (bufferDelBlob txn)) :
    deserializeDelBlob grants data = .ok txn := by
  simp [deserializeDelBlob, read_blob_key_holds_at fits granted holds]

theorem deserialize_create_tag_buffer (txn : TxnCreateTag) (fits : txn.tagName.length < 2 ^ 32)
    (granted : grants.string txn.tagName.length = true)
    (holds : HoldsAt data 0 (bufferCreateTag txn)) :
    deserializeCreateTag grants data = .ok txn := by
  simp [deserializeCreateTag, read_tag_key_holds_at fits granted holds]

theorem deserialize_del_tag_buffer (txn : TxnDelTag) (fits : txn.tagName.length < 2 ^ 32)
    (granted : grants.string txn.tagName.length = true)
    (holds : HoldsAt data 0 (bufferDelTag txn)) :
    deserializeDelTag grants data = .ok txn := by
  simp [deserializeDelTag, read_tag_key_holds_at fits granted holds]

end RoundTrip

section ExtendBlob

variable {querySize : Nat}

/-- The bytes one block contributes to the payload. -/
theorem write_block_eq (buf : Bytes) (blk : TxnExtendBlobBlock querySize) :
    writeBlock buf blk = buf ++ (encodeLE 4 blk.bdevMajor.toNat ++ (encodeLE 4 blk.bdevMinor.toNat ++
      (blk.targetQuery.bytes ++ (encodeLE 8 blk.targetOffset.toNat ++
        encodeLE 8 blk.size.toNat)))) := by
  simp [writeBlock, writeU64, writeU32, writeRaw, writeWord]

@[simp] theorem write_block_length (blk : TxnExtendBlobBlock querySize) :
    (writeBlock [] blk).length = 24 + querySize := by
  simp [write_block_eq, blk.targetQuery.length_eq]
  omega

theorem flatMap_write_block_length (blocks : List (TxnExtendBlobBlock querySize)) :
    (blocks.flatMap (writeBlock [])).length = blocks.length * (24 + querySize) := by
  induction blocks with
  | nil => simp
  | cons blk blocks ih => simp [ih, Nat.succ_mul]; omega

theorem foldl_write_block (blocks : List (TxnExtendBlobBlock querySize)) (buf : Bytes) :
    blocks.foldl writeBlock buf = buf ++ blocks.flatMap (writeBlock []) := by
  induction blocks generalizing buf with
  | nil => simp
  | cons blk blocks ih => simp [ih, write_block_eq]

theorem read_blocks_holds_at {data : Bytes} (blocks : List (TxnExtendBlobBlock querySize))
    (off : Nat) (holds : HoldsAt data off (blocks.flatMap (writeBlock []))) :
    readBlocks data blocks.length off =
      .ok (blocks, off + (blocks.flatMap (writeBlock [])).length) := by
  induction blocks generalizing off with
  | nil => rfl
  | cons blk blocks ih =>
      obtain ⟨bdevMajor, bdevMinor, ⟨query, queryLength⟩, targetOffset, size⟩ := blk
      simp only [List.flatMap_cons, write_block_eq, List.nil_append, List.append_assoc,
        holds_at_append, encode_le_length] at holds
      obtain ⟨major, minor, queryBytes, offsetBytes, sizeBytes, rest⟩ := holds
      subst queryLength
      simp only [readBlocks, readU32, readU64, bind_pure_comp, except_ok_bind, Nat.reduceDiv,
        read_word_holds_at (show 32 % 8 = 0 by rfl) major,
        read_word_holds_at (show 32 % 8 = 0 by rfl) minor,
        @read_raw_holds_at data _ _ ⟨query, rfl⟩ queryBytes,
        read_word_holds_at (show 64 % 8 = 0 by rfl) offsetBytes,
        read_word_holds_at (show 64 % 8 = 0 by rfl) sizeBytes, ih _ rest, Except.map_ok,
        List.flatMap_cons, write_block_eq, List.nil_append, List.append_assoc, List.length_append,
        encode_le_length, Except.ok.injEq, Prod.mk.injEq, true_and]
      omega

theorem deserialize_extend_blob_buffer {grants : Grants} {data : Bytes}
    (txn : TxnExtendBlob querySize)
    (fits : txn.blobName.length < 2 ^ 32) (blockCount : txn.newBlocks.length < 2 ^ 32)
    (granted : grants.string txn.blobName.length = true)
    (blocksGranted : grants.blocks txn.newBlocks.length = true)
    (holds : HoldsAt data 0 (bufferExtendBlob txn)) :
    deserializeExtendBlob grants data = .ok txn := by
  rw [bufferExtendBlob, foldl_write_block, writeU32, writeWord] at holds
  simp only [holds_at_append, List.length_append, write_blob_key_length, encode_le_length,
    Nat.reduceDiv, Nat.zero_add] at holds
  obtain ⟨⟨key, count⟩, blocks⟩ := holds
  simp [deserializeExtendBlob, read_blob_key_holds_at fits granted key, readU32,
    read_word_holds_at (show 32 % 8 = 0 by rfl) count, word32_toNat blockCount, allocate,
    blocksGranted, read_blocks_holds_at _ _ blocks]

end ExtendBlob

/-! ## What the decoders do with an arbitrary payload

Each read returns, copies from past the end of the payload, or (an allocation) throws
`std::bad_alloc`. `Exact` says which one a read does and what it returns, and `Exact.bind` chains
two reads, so each decoder's `Outcome` is assembled read by read, never by unfolding a whole
decoder at once. -/

/-- The `u32` a `memcpy` at `off` copies out of `data`, when its four bytes are there. -/
def wordAt (data : Bytes) (off : Nat) : Nat := decodeLE ((data.drop off).take 4)

/-- The call copied bytes from past the end of the payload. -/
def Overruns {α : Type} (result : Except DecodeError α) : Prop :=
  ∃ fault, result = .error (.readFault fault)

/-- A decoder returns exactly when `returns` holds and copies from past the end of the payload
exactly when `overruns` holds; in every other case it throws `std::bad_alloc`. -/
structure Outcome {α : Type} (result : Except DecodeError α) (returns overruns : Prop) :
    Prop where
  returns_iff : (∃ value, result = .ok value) ↔ returns
  overruns_iff : Overruns result ↔ overruns

/-- A read returns `value` exactly when `inside` holds, and copies from past the end of the
payload exactly when `over` holds. -/
structure Exact {α : Type} (result : Except DecodeError α) (inside over : Prop) (value : α) :
    Prop where
  ok_iff : ∀ r, result = .ok r ↔ inside ∧ r = value
  overruns_iff : Overruns result ↔ over

section Outcomes

variable {α β : Type} {x : Except DecodeError α} {f : α → Except DecodeError β}
  {inside over inside' over' : Prop} {value : α}

@[simp] theorem overruns_ok (a : α) : Overruns (.ok a : Except DecodeError α) ↔ False := by
  simp [Overruns]

@[simp] theorem overruns_error (e : DecodeError) :
    Overruns (.error e : Except DecodeError α) ↔ ∃ fault, e = .readFault fault := by
  simp [Overruns]

theorem Exact.not_inside_of_error {e : DecodeError} (exact : Exact (.error e) inside over value) :
    ¬inside := fun holds => by simpa using (exact.ok_iff value).mpr ⟨holds, rfl⟩

theorem Exact.outcome (exact : Exact x inside over value) : Outcome x inside over :=
  ⟨⟨fun ⟨_, ok⟩ => ((exact.ok_iff _).mp ok).1, fun holds => ⟨value, (exact.ok_iff _).mpr
    ⟨holds, rfl⟩⟩⟩, exact.overruns_iff⟩

theorem Exact.congr {inside₂ over₂ : Prop} (exact : Exact x inside over value)
    (sameInside : inside ↔ inside₂) (sameOver : over ↔ over₂) : Exact x inside₂ over₂ value :=
  ⟨fun r => (exact.ok_iff r).trans (and_congr_left' sameInside),
    exact.overruns_iff.trans sameOver⟩

theorem Outcome.congr {returns overruns returns₂ overruns₂ : Prop}
    (outcome : Outcome x returns overruns) (sameReturns : returns ↔ returns₂)
    (sameOverruns : overruns ↔ overruns₂) : Outcome x returns₂ overruns₂ :=
  ⟨outcome.returns_iff.trans sameReturns, outcome.overruns_iff.trans sameOverruns⟩

/-- Two reads in a row: the second runs only when the first returns. -/
theorem Exact.bind {value' : β} (first : Exact x inside over value)
    (next : inside → Exact (f value) inside' over' value') :
    Exact (x >>= f) (inside ∧ inside') (over ∨ inside ∧ over') value' := by
  cases x with
  | error e =>
      have outside := first.not_inside_of_error
      exact ⟨fun r => by simp [outside], by simpa [outside] using first.overruns_iff⟩
  | ok a =>
      obtain ⟨holds, rfl⟩ := (first.ok_iff a).mp rfl
      have notOver : ¬over := fun o => by simpa using first.overruns_iff.mpr o
      obtain ⟨okIff, overIff⟩ := next holds
      exact ⟨fun r => by simpa [holds] using okIff r, by simpa [holds, notOver] using overIff⟩

/-- A read followed by a run of reads whose result is not needed exactly. -/
theorem Exact.bind_outcome (first : Exact x inside over value)
    (next : inside → Outcome (f value) inside' over') :
    Outcome (x >>= f) (inside ∧ inside') (over ∨ inside ∧ over') := by
  cases x with
  | error e =>
      have outside := first.not_inside_of_error
      exact ⟨by simp [outside], by simpa [outside] using first.overruns_iff⟩
  | ok a =>
      obtain ⟨holds, rfl⟩ := (first.ok_iff a).mp rfl
      have notOver : ¬over := fun o => by simpa using first.overruns_iff.mpr o
      obtain ⟨returnsIff, overIff⟩ := next holds
      exact ⟨by simpa [holds] using returnsIff, by simpa [holds, notOver] using overIff⟩

/-- A continuation that always returns changes neither when a run returns nor when it overruns. -/
theorem Outcome.bind_returns (outcome : Outcome x inside over) (returns : ∀ a, ∃ b, f a = .ok b) :
    Outcome (x >>= f) inside over := by
  cases x with
  | error e => exact ⟨by simpa using outcome.returns_iff, by simpa using outcome.overruns_iff⟩
  | ok a =>
      obtain ⟨b, ok⟩ := returns a
      exact ⟨by simpa [ok] using outcome.returns_iff, by simpa [ok] using outcome.overruns_iff⟩

theorem pure_exact (a : α) : Exact (pure a : Except DecodeError α) True False a :=
  ⟨fun r => by simp [pure, Except.pure, eq_comm], by simp [pure, Except.pure]⟩

end Outcomes

theorem allocate_exact (granted : Bool) : Exact (allocate granted) (granted = true) False () := by
  cases granted <;> exact ⟨fun r => by simp [allocate], by simp [allocate]⟩

theorem read_bytes_exact (data : Bytes) (off len : Nat) :
    Exact (readBytes data off len) (off + len ≤ data.length) (data.length < off + len)
      ((data.drop off).take len, off + len) := by
  by_cases inside : off + len ≤ data.length
  · rw [readBytes, if_pos inside]
    exact ⟨fun r => by simp [inside, eq_comm], by simp; omega⟩
  · rw [readBytes, if_neg inside]
    exact ⟨fun r => by simp [inside], by simp; omega⟩

theorem read_raw_exact (data : Bytes) (off len : Nat) :
    Exact (readRaw data off len) (off + len ≤ data.length) (data.length < off + len)
      (⟨(data.drop off).takeD len 0, List.takeD_length _ _ _⟩, off + len) := by
  by_cases inside : off + len ≤ data.length
  · rw [readRaw, if_pos inside]
    exact ⟨fun r => by simp [inside, eq_comm], by simp; omega⟩
  · rw [readRaw, if_neg inside]
    exact ⟨fun r => by simp [inside], by simp; omega⟩

theorem read_word_exact (bits : Nat) (data : Bytes) (off : Nat) :
    Exact (readWord bits data off) (off + bits / 8 ≤ data.length) (data.length < off + bits / 8)
      (BitVec.ofNat bits (decodeLE ((data.drop off).take (bits / 8))), off + bits / 8) := by
  by_cases inside : off + bits / 8 ≤ data.length
  · rw [readWord, readBytes, if_pos inside]
    exact ⟨fun r => by simp [Except.map, inside, eq_comm], by simp [Except.map]; omega⟩
  · rw [readWord, readBytes, if_neg inside]
    exact ⟨fun r => by simp [Except.map, inside], by simp [Except.map]; omega⟩

theorem word_at_lt (data : Bytes) (off : Nat) : wordAt data off < 2 ^ 32 :=
  calc wordAt data off < 256 ^ ((data.drop off).take 4).length := decode_le_lt _
    _ ≤ 256 ^ 4 := Nat.pow_le_pow_right (by norm_num) (by simp)
    _ = 2 ^ 32 := by norm_num

@[simp] theorem word_at_toNat (data : Bytes) (off : Nat) :
    (BitVec.ofNat 32 (wordAt data off)).toNat = wordAt data off :=
  word32_toNat (word_at_lt data off)

theorem read_u32_exact (data : Bytes) (off : Nat) :
    Exact (readU32 data off) (off + 4 ≤ data.length) (data.length < off + 4)
      (BitVec.ofNat 32 (wordAt data off), off + 4) :=
  read_word_exact 32 data off

theorem read_string_exact (grants : Grants) (data : Bytes) (off : Nat) :
    Exact (readString grants data off)
      (off + 4 + wordAt data off ≤ data.length ∧ grants.string (wordAt data off) = true)
      (data.length < off + 4 ∨ grants.string (wordAt data off) = true ∧
        data.length < off + 4 + wordAt data off)
      ((data.drop (off + 4)).take (wordAt data off), off + 4 + wordAt data off) := by
  have chained : Exact (readString grants data off) _ _ _ :=
    (read_u32_exact data off).bind fun _ => (allocate_exact _).bind fun _ =>
      read_bytes_exact data (off + 4) _
  rw [word_at_toNat] at chained
  exact chained.congr (by cases grants.string (wordAt data off) <;> simp; omega)
    (by cases grants.string (wordAt data off) <;> simp; omega)

theorem read_blob_key_exact (grants : Grants) (data : Bytes) :
    Exact (readBlobKey grants data)
      (12 + wordAt data 8 ≤ data.length ∧ grants.string (wordAt data 8) = true)
      (data.length < 12 ∨ grants.string (wordAt data 8) = true ∧
        data.length < 12 + wordAt data 8)
      ((BitVec.ofNat 32 (wordAt data 0), BitVec.ofNat 32 (wordAt data 4),
        (data.drop 12).take (wordAt data 8)), 12 + wordAt data 8) := by
  have chained : Exact (readBlobKey grants data) _ _ _ :=
    (read_u32_exact data 0).bind fun _ => (read_u32_exact data 4).bind fun _ =>
      (read_string_exact grants data 8).bind fun _ => pure_exact _
  exact chained.congr (by cases grants.string (wordAt data 8) <;> simp; omega)
    (by cases grants.string (wordAt data 8) <;> simp <;> omega)

theorem read_tag_key_exact (grants : Grants) (data : Bytes) :
    Exact (readTagKey grants data)
      (12 + wordAt data 0 ≤ data.length ∧ grants.string (wordAt data 0) = true)
      (data.length < 4 ∨ grants.string (wordAt data 0) = true ∧
        data.length < 12 + wordAt data 0)
      ((data.drop 4).take (wordAt data 0), BitVec.ofNat 32 (wordAt data (4 + wordAt data 0)),
        BitVec.ofNat 32 (wordAt data (4 + wordAt data 0 + 4))) := by
  have chained : Exact (readTagKey grants data) _ _ _ :=
    (read_string_exact grants data 0).bind fun _ => (read_u32_exact data _).bind fun _ =>
      (read_u32_exact data _).bind fun _ => pure_exact _
  exact chained.congr (by cases grants.string (wordAt data 0) <;> simp; omega)
    (by cases grants.string (wordAt data 0) <;> simp; omega)

theorem read_blocks_outcome {querySize : Nat} (data : Bytes) (count off : Nat)
    (start : off ≤ data.length) :
    Outcome (readBlocks data count off :
        Except DecodeError (List (TxnExtendBlobBlock querySize) × Nat))
      (off + count * (24 + querySize) ≤ data.length)
      (data.length < off + count * (24 + querySize)) := by
  induction count generalizing off with
  | zero => exact ⟨by simpa [readBlocks] using start, by simp [readBlocks]; omega⟩
  | succ count ih =>
      have chained : Outcome (readBlocks data (count + 1) off :
          Except DecodeError (List (TxnExtendBlobBlock querySize) × Nat)) _ _ :=
        (read_u32_exact data off).bind_outcome fun _ => (read_u32_exact data _).bind_outcome
          fun _ => (read_raw_exact data _ querySize).bind_outcome fun _ =>
          (read_word_exact 64 data _).bind_outcome fun _ =>
          (read_word_exact 64 data _).bind_outcome fun inside =>
          (ih _ inside).bind_returns fun _ => ⟨_, rfl⟩
      exact chained.congr (by rw [Nat.succ_mul]; omega) (by rw [Nat.succ_mul]; omega)

theorem deserialize_create_new_blob_outcome (grants : Grants) (data : Bytes) :
    Outcome (deserializeCreateNewBlob grants data)
      (16 + wordAt data 8 ≤ data.length ∧ grants.string (wordAt data 8) = true)
      (data.length < 12 ∨ grants.string (wordAt data 8) = true ∧
        data.length < 16 + wordAt data 8) := by
  have chained : Exact (deserializeCreateNewBlob grants data) _ _ _ :=
    (read_blob_key_exact grants data).bind fun _ => (read_word_exact 32 data _).bind fun _ =>
      pure_exact _
  exact chained.outcome.congr (by cases grants.string (wordAt data 8) <;> simp; omega)
    (by cases grants.string (wordAt data 8) <;> simp; omega)

theorem deserialize_extend_blob_outcome {querySize : Nat} (grants : Grants) (data : Bytes) :
    Outcome (deserializeExtendBlob grants data : Except DecodeError (TxnExtendBlob querySize))
      (16 + wordAt data 8 + wordAt data (12 + wordAt data 8) * (24 + querySize) ≤ data.length ∧
        grants.string (wordAt data 8) = true ∧
        grants.blocks (wordAt data (12 + wordAt data 8)) = true)
      (data.length < 12 ∨ grants.string (wordAt data 8) = true ∧
        (data.length < 16 + wordAt data 8 ∨ grants.blocks (wordAt data (12 + wordAt data 8)) = true ∧
          data.length < 16 + wordAt data 8 + wordAt data (12 + wordAt data 8) * (24 + querySize))) := by
  have chained : Outcome (deserializeExtendBlob grants data :
      Except DecodeError (TxnExtendBlob querySize)) _ _ :=
    (read_blob_key_exact grants data).bind_outcome fun _ =>
      (read_u32_exact data _).bind_outcome fun inside => (allocate_exact _).bind_outcome fun _ =>
      (read_blocks_outcome data _ _ inside).bind_returns fun _ => ⟨_, rfl⟩
  rw [word_at_toNat] at chained
  exact chained.congr
    (by cases grants.string (wordAt data 8) <;> cases grants.blocks (wordAt data (12 + wordAt data 8)) <;>
      simp; omega)
    (by cases grants.string (wordAt data 8) <;> cases grants.blocks (wordAt data (12 + wordAt data 8)) <;>
      simp <;> omega)

/-- Each `Deserialize*` returns exactly when `data` is as long as the fields its own length words
declare and the heap grants its allocations, and copies from past the end of `data` exactly when
`data` is shorter than its first fixed fields, or an allocation is granted and `data` is shorter
than what that allocation is for. Nothing in the helpers compares a length with `data.size()`:
only a refused allocation, which throws `std::bad_alloc`, stops a decoder before it reads past a
payload too short for its length words. -/
theorem deserialize_reads_inside_iff (querySize : Nat) (grants : Grants) (data : Bytes) :
    Outcome (deserializeCreateNewBlob grants data)
      (16 + wordAt data 8 ≤ data.length ∧ grants.string (wordAt data 8) = true)
      (data.length < 12 ∨ grants.string (wordAt data 8) = true ∧
        data.length < 16 + wordAt data 8) ∧
    Outcome (deserializeExtendBlob grants data : Except DecodeError (TxnExtendBlob querySize))
      (16 + wordAt data 8 + wordAt data (12 + wordAt data 8) * (24 + querySize) ≤ data.length ∧
        grants.string (wordAt data 8) = true ∧
        grants.blocks (wordAt data (12 + wordAt data 8)) = true)
      (data.length < 12 ∨ grants.string (wordAt data 8) = true ∧
        (data.length < 16 + wordAt data 8 ∨ grants.blocks (wordAt data (12 + wordAt data 8)) = true ∧
          data.length < 16 + wordAt data 8 + wordAt data (12 + wordAt data 8) * (24 + querySize))) ∧
    Outcome (deserializeClearBlob grants data)
      (12 + wordAt data 8 ≤ data.length ∧ grants.string (wordAt data 8) = true)
      (data.length < 12 ∨ grants.string (wordAt data 8) = true ∧
        data.length < 12 + wordAt data 8) ∧
    Outcome (deserializeDelBlob grants data)
      (12 + wordAt data 8 ≤ data.length ∧ grants.string (wordAt data 8) = true)
      (data.length < 12 ∨ grants.string (wordAt data 8) = true ∧
        data.length < 12 + wordAt data 8) ∧
    Outcome (deserializeCreateTag grants data)
      (12 + wordAt data 0 ≤ data.length ∧ grants.string (wordAt data 0) = true)
      (data.length < 4 ∨ grants.string (wordAt data 0) = true ∧
        data.length < 12 + wordAt data 0) ∧
    Outcome (deserializeDelTag grants data)
      (12 + wordAt data 0 ≤ data.length ∧ grants.string (wordAt data 0) = true)
      (data.length < 4 ∨ grants.string (wordAt data 0) = true ∧
        data.length < 12 + wordAt data 0) :=
  ⟨deserialize_create_new_blob_outcome grants data, deserialize_extend_blob_outcome grants data,
    (read_blob_key_exact grants data).outcome.bind_returns fun ⟨⟨_, _, _⟩, _⟩ => ⟨_, rfl⟩,
    (read_blob_key_exact grants data).outcome.bind_returns fun ⟨⟨_, _, _⟩, _⟩ => ⟨_, rfl⟩,
    (read_tag_key_exact grants data).outcome.bind_returns fun ⟨_, _, _⟩ => ⟨_, rfl⟩,
    (read_tag_key_exact grants data).outcome.bind_returns fun ⟨_, _, _⟩ => ⟨_, rfl⟩⟩

/-- An empty payload is not rejected: on a heap that grants every allocation, the first `ReadU32`
copies four bytes from offset 0 of a zero-byte vector. -/
theorem deserialize_create_new_blob_empty_reads_past_end :
    deserializeCreateNewBlob ⟨fun _ => true, fun _ => true⟩ [] =
      .error (.readFault ⟨0, 4, 0⟩) := rfl

/-- Sixteen bytes declaring an empty blob name and `0xFFFFFFFF` blocks: on a heap that refuses
that many blocks, `resize` throws before the loop reads past the payload. -/
example : (deserializeExtendBlob ⟨fun _ => true, fun n => n < 2 ^ 20⟩
    (List.replicate 12 0 ++ List.replicate 4 0xFF) : Except DecodeError (TxnExtendBlob 0)) =
      .error .badAlloc := rfl

end IowarpCore.Wal.Codec
