import IowarpCore.Wal.Record

/-!
# What the decoders accept

The `Deserialize*` helpers read their fields from the front of the payload and never look at
what follows. Every field they read writes back to the bytes it was read from, so a helper
accepts exactly the payloads that start with the buffer `Log` writes for the struct it returns,
on a heap that grants that struct's allocations (`deserialize_accepts_iff`): on the bytes they
read the decoders invert the `Log` buffers, and the bytes after those are ignored.
-/

namespace IowarpCore.Wal.Accept

open IowarpCore.Types.Numbers IowarpCore.Wal.Codec IowarpCore.Wal.Record

set_option autoImplicit false

theorem except_bind_eq_ok {ε α β : Type} {x : Except ε α} {f : α → Except ε β} {b : β} :
    x >>= f = .ok b ↔ ∃ a, x = .ok a ∧ f a = .ok b := by
  cases x <;> simp

theorem except_map_eq_ok {ε α β : Type} {x : Except ε α} {f : α → β} {b : β} :
    f <$> x = .ok b ↔ ∃ a, x = .ok a ∧ f a = b := by
  cases x <;> simp [Functor.map, Except.map]

theorem except_pure_eq_ok {ε α : Type} {a b : α} : (pure a : Except ε α) = .ok b ↔ a = b := by
  simp [pure, Except.pure]

theorem allocate_eq_ok {granted : Bool} {u : Unit} : allocate granted = .ok u ↔ granted = true := by
  cases granted <;> simp [allocate]

theorem holds_at_zero_iff {data bytes : Bytes} : HoldsAt data 0 bytes ↔ bytes <+: data := by
  constructor
  · rintro ⟨pre, rest, rfl, length⟩
    obtain rfl := List.eq_nil_of_length_eq_zero length
    exact ⟨rest, rfl⟩
  · rintro ⟨rest, rfl⟩
    exact ⟨[], rest, rfl, rfl⟩

/-- `data` holds what a copy inside it reads. -/
theorem holds_at_take_drop {data : Bytes} {off len : Nat} (inside : off + len ≤ data.length) :
    HoldsAt data off ((data.drop off).take len) :=
  ⟨data.take off, (data.drop off).drop len, by simp, by simp; omega⟩

theorem holds_at_end_le {data bytes : Bytes} {off : Nat} (holds : HoldsAt data off bytes) :
    off + bytes.length ≤ data.length := by
  obtain ⟨pre, rest, rfl, rfl⟩ := holds
  simp only [List.length_append]
  omega

/-! ## Each read writes back to the bytes it copied -/

theorem read_bytes_ok {data raw : Bytes} {off len off' : Nat}
    (ok : readBytes data off len = .ok (raw, off')) :
    HoldsAt data off raw ∧ raw.length = len ∧ off' = off + len := by
  unfold readBytes at ok
  split at ok
  · next inside =>
    cases ok
    exact ⟨holds_at_take_drop inside, by simp; omega, rfl⟩
  · cases ok

theorem read_word_ok {data : Bytes} {bits off off' : Nat} {word : BitVec bits}
    (whole : bits % 8 = 0) (ok : readWord bits data off = .ok (word, off')) :
    HoldsAt data off (encodeLE (bits / 8) word.toNat) ∧ off' = off + bits / 8 := by
  unfold readWord at ok
  cases copied : readBytes data off (bits / 8) with
  | error e => simp [copied, Except.map] at ok
  | ok read =>
      obtain ⟨raw, off₁⟩ := read
      simp only [copied, Except.map, Except.ok.injEq, Prod.mk.injEq] at ok
      obtain ⟨rfl, rfl⟩ := ok
      obtain ⟨holds, length, rfl⟩ := read_bytes_ok copied
      have fits : decodeLE raw < 2 ^ bits := byte_pow_eq whole ▸ length ▸ decode_le_lt raw
      refine ⟨?_, rfl⟩
      rwa [BitVec.toNat_ofNat, Nat.mod_eq_of_lt fits, ← length, encode_le_decode_le]

theorem read_raw_ok {data : Bytes} {off len off' : Nat} {query : PoolQuery len}
    (ok : readRaw data off len = .ok (query, off')) :
    HoldsAt data off query.bytes ∧ off' = off + len := by
  unfold readRaw at ok
  split at ok
  · next inside =>
    cases ok
    refine ⟨?_, rfl⟩
    show HoldsAt data off ((data.drop off).takeD len 0)
    rw [List.takeD_eq_take _ (by simp; omega)]
    exact holds_at_take_drop inside
  · cases ok

theorem write_string_nil_of_lt {s : Bytes} (fits : s.length < 2 ^ 32) :
    writeString [] s = encodeLE 4 s.length ++ s := by
  rw [write_string_of_lt fits, List.nil_append]

theorem read_string_ok {grants : Grants} {data s : Bytes} {off off' : Nat}
    (ok : readString grants data off = .ok (s, off')) :
    HoldsAt data off (writeString [] s) ∧ s.length < 2 ^ 32 ∧ grants.string s.length = true ∧
      off' = off + 4 + s.length := by
  simp only [readString, readU32, except_bind_eq_ok] at ok
  obtain ⟨⟨len, off₁⟩, word, _, allocated, copied⟩ := ok
  obtain ⟨header, rfl⟩ := read_word_ok (show 32 % 8 = 0 from rfl) word
  obtain ⟨body, length, rfl⟩ := read_bytes_ok copied
  have fits : s.length < 2 ^ 32 := length ▸ len.isLt
  rw [← length] at header
  refine ⟨?_, fits, length ▸ allocate_eq_ok.mp allocated, by rw [length]⟩
  rw [write_string_nil_of_lt fits, holds_at_append, encode_le_length]
  exact ⟨header, body⟩

theorem read_blob_key_ok {grants : Grants} {data name : Bytes} {tagMajor tagMinor : U32}
    {off : Nat} (ok : readBlobKey grants data = .ok ((tagMajor, tagMinor, name), off)) :
    HoldsAt data 0 (writeBlobKey tagMajor tagMinor name) ∧ name.length < 2 ^ 32 ∧
      grants.string name.length = true ∧ off = 12 + name.length := by
  simp only [readBlobKey, readU32, except_bind_eq_ok, except_pure_eq_ok] at ok
  obtain ⟨⟨major, off₁⟩, readMajor, ⟨minor, off₂⟩, readMinor, ⟨s, off₃⟩, readName, done⟩ := ok
  cases done
  obtain ⟨majorBytes, rfl⟩ := read_word_ok (show 32 % 8 = 0 from rfl) readMajor
  obtain ⟨minorBytes, rfl⟩ := read_word_ok (show 32 % 8 = 0 from rfl) readMinor
  obtain ⟨nameBytes, fits, granted, rfl⟩ := read_string_ok readName
  refine ⟨?_, fits, granted, rfl⟩
  rw [write_string_nil_of_lt fits] at nameBytes
  simp only [writeBlobKey, write_string_of_lt fits, writeU32, writeWord, List.nil_append,
    List.append_assoc, holds_at_append, encode_le_length] at nameBytes ⊢
  exact ⟨majorBytes, minorBytes, nameBytes⟩

theorem read_tag_key_ok {grants : Grants} {data name : Bytes} {tagMajor tagMinor : U32}
    (ok : readTagKey grants data = .ok (name, tagMajor, tagMinor)) :
    HoldsAt data 0 (writeTagKey name tagMajor tagMinor) ∧ name.length < 2 ^ 32 ∧
      grants.string name.length = true := by
  simp only [readTagKey, readU32, except_bind_eq_ok, except_pure_eq_ok] at ok
  obtain ⟨⟨s, off₁⟩, readName, ⟨major, off₂⟩, readMajor, ⟨minor, off₃⟩, readMinor, done⟩ := ok
  cases done
  obtain ⟨nameBytes, fits, granted, rfl⟩ := read_string_ok readName
  obtain ⟨majorBytes, rfl⟩ := read_word_ok (show 32 % 8 = 0 from rfl) readMajor
  obtain ⟨minorBytes, -⟩ := read_word_ok (show 32 % 8 = 0 from rfl) readMinor
  refine ⟨?_, fits, granted⟩
  rw [write_string_nil_of_lt fits] at nameBytes
  simp only [writeTagKey, write_string_of_lt fits, writeU32, writeWord, List.nil_append,
    List.append_assoc, holds_at_append, encode_le_length] at nameBytes ⊢
  exact ⟨nameBytes.1, nameBytes.2, majorBytes, minorBytes⟩

theorem read_blocks_ok {querySize : Nat} {data : Bytes} (count : Nat) {off off' : Nat}
    {blocks : List (TxnExtendBlobBlock querySize)} (start : off ≤ data.length)
    (ok : readBlocks data count off = .ok (blocks, off')) :
    blocks.length = count ∧ HoldsAt data off (blocks.flatMap (writeBlock [])) := by
  induction count generalizing off blocks off' with
  | zero =>
      cases ok
      exact ⟨rfl, data.take off, data.drop off, by simp, by simp; omega⟩
  | succ count ih =>
      simp only [readBlocks, readU32, readU64, except_bind_eq_ok, except_pure_eq_ok] at ok
      obtain ⟨⟨major, o₁⟩, r₁, ⟨minor, o₂⟩, r₂, ⟨query, o₃⟩, r₃, ⟨offset, o₄⟩, r₄, ⟨size, o₅⟩, r₅,
        ⟨rest, o₆⟩, r₆, done⟩ := ok
      cases done
      obtain ⟨h₁, rfl⟩ := read_word_ok (show 32 % 8 = 0 from rfl) r₁
      obtain ⟨h₂, rfl⟩ := read_word_ok (show 32 % 8 = 0 from rfl) r₂
      obtain ⟨h₃, rfl⟩ := read_raw_ok r₃
      obtain ⟨h₄, rfl⟩ := read_word_ok (show 64 % 8 = 0 from rfl) r₄
      obtain ⟨h₅, rfl⟩ := read_word_ok (show 64 % 8 = 0 from rfl) r₅
      obtain ⟨length, h₆⟩ := ih (by simpa using holds_at_end_le h₅) r₆
      refine ⟨by simp [length], ?_⟩
      simp only [List.flatMap_cons, write_block_eq, List.nil_append, List.append_assoc,
        holds_at_append, encode_le_length, PoolQuery.length_eq]
      exact ⟨h₁, h₂, h₃, h₄, h₅, h₆⟩

/-! ## Each decoder writes back to the bytes it read -/

section Decoders

variable {grants : Grants} {data : Bytes}

theorem deserialize_create_new_blob_ok {txn : TxnCreateNewBlob}
    (ok : deserializeCreateNewBlob grants data = .ok txn) :
    HoldsAt data 0 (bufferCreateNewBlob txn) ∧ grants.string txn.blobName.length = true := by
  simp only [deserializeCreateNewBlob, readFloat, except_bind_eq_ok, except_pure_eq_ok] at ok
  obtain ⟨⟨⟨major, minor, name⟩, off⟩, key, ⟨score, _⟩, readScore, done⟩ := ok
  cases done
  obtain ⟨keyBytes, -, granted, rfl⟩ := read_blob_key_ok key
  obtain ⟨scoreBytes, -⟩ := read_word_ok (show 32 % 8 = 0 from rfl) readScore
  refine ⟨?_, granted⟩
  simp only [bufferCreateNewBlob, writeFloat, writeWord, holds_at_append, write_blob_key_length,
    Nat.zero_add]
  exact ⟨keyBytes, scoreBytes⟩

theorem deserialize_extend_blob_ok {querySize : Nat} {txn : TxnExtendBlob querySize}
    (ok : deserializeExtendBlob grants data = .ok txn) :
    HoldsAt data 0 (bufferExtendBlob txn) ∧ grants.string txn.blobName.length = true ∧
      grants.blocks txn.newBlocks.length = true := by
  simp only [deserializeExtendBlob, readU32, except_bind_eq_ok, except_pure_eq_ok] at ok
  obtain ⟨⟨⟨major, minor, name⟩, off⟩, key, ⟨count, off₁⟩, readCount, _, allocated,
    ⟨blocks, _⟩, readAll, done⟩ := ok
  cases done
  obtain ⟨keyBytes, -, granted, rfl⟩ := read_blob_key_ok key
  obtain ⟨countBytes, rfl⟩ := read_word_ok (show 32 % 8 = 0 from rfl) readCount
  obtain ⟨length, blockBytes⟩ := read_blocks_ok _ (by simpa using holds_at_end_le countBytes) readAll
  refine ⟨?_, granted, length ▸ allocate_eq_ok.mp allocated⟩
  simp only [bufferExtendBlob, foldl_write_block, writeU32, writeWord, holds_at_append,
    List.length_append, write_blob_key_length, encode_le_length, length, BitVec.ofNat_toNat,
    BitVec.setWidth_eq, Nat.zero_add]
  exact ⟨⟨keyBytes, countBytes⟩, blockBytes⟩

theorem deserialize_clear_blob_ok {txn : TxnClearBlob}
    (ok : deserializeClearBlob grants data = .ok txn) :
    HoldsAt data 0 (bufferClearBlob txn) ∧ grants.string txn.blobName.length = true := by
  simp only [deserializeClearBlob, except_bind_eq_ok, except_pure_eq_ok] at ok
  obtain ⟨⟨⟨major, minor, name⟩, off⟩, key, done⟩ := ok
  cases done
  obtain ⟨keyBytes, -, granted, -⟩ := read_blob_key_ok key
  exact ⟨keyBytes, granted⟩

theorem deserialize_del_blob_ok {txn : TxnDelBlob}
    (ok : deserializeDelBlob grants data = .ok txn) :
    HoldsAt data 0 (bufferDelBlob txn) ∧ grants.string txn.blobName.length = true := by
  simp only [deserializeDelBlob, except_bind_eq_ok, except_pure_eq_ok] at ok
  obtain ⟨⟨⟨major, minor, name⟩, off⟩, key, done⟩ := ok
  cases done
  obtain ⟨keyBytes, -, granted, -⟩ := read_blob_key_ok key
  exact ⟨keyBytes, granted⟩

theorem deserialize_create_tag_ok {txn : TxnCreateTag}
    (ok : deserializeCreateTag grants data = .ok txn) :
    HoldsAt data 0 (bufferCreateTag txn) ∧ grants.string txn.tagName.length = true := by
  simp only [deserializeCreateTag, except_bind_eq_ok, except_pure_eq_ok] at ok
  obtain ⟨⟨name, major, minor⟩, key, done⟩ := ok
  cases done
  obtain ⟨keyBytes, -, granted⟩ := read_tag_key_ok key
  exact ⟨keyBytes, granted⟩

theorem deserialize_del_tag_ok {txn : TxnDelTag}
    (ok : deserializeDelTag grants data = .ok txn) :
    HoldsAt data 0 (bufferDelTag txn) ∧ grants.string txn.tagName.length = true := by
  simp only [deserializeDelTag, except_bind_eq_ok, except_pure_eq_ok] at ok
  obtain ⟨⟨name, major, minor⟩, key, done⟩ := ok
  cases done
  obtain ⟨keyBytes, -, granted⟩ := read_tag_key_ok key
  exact ⟨keyBytes, granted⟩

end Decoders

variable {querySize : Nat}

/-- A struct the decoder of `kind` returns is of that kind, its allocations were granted, and the
payload starts with its buffer. -/
theorem deserialize_ok {grants : Grants} {kind : TxnType} {data : Bytes} {t : Txn querySize}
    (ok : deserialize grants kind data = .ok t) :
    t.kind = kind ∧ t.Granted grants ∧ t.buffer <+: data := by
  cases kind <;> simp only [deserialize, except_map_eq_ok] at ok <;>
    obtain ⟨txn, decoded, rfl⟩ := ok
  case kCreateNewBlob =>
    obtain ⟨holds, granted⟩ := deserialize_create_new_blob_ok decoded
    exact ⟨rfl, granted, holds_at_zero_iff.mp holds⟩
  case kExtendBlob =>
    obtain ⟨holds, granted⟩ := deserialize_extend_blob_ok decoded
    exact ⟨rfl, granted, holds_at_zero_iff.mp holds⟩
  case kClearBlob =>
    obtain ⟨holds, granted⟩ := deserialize_clear_blob_ok decoded
    exact ⟨rfl, granted, holds_at_zero_iff.mp holds⟩
  case kDelBlob =>
    obtain ⟨holds, granted⟩ := deserialize_del_blob_ok decoded
    exact ⟨rfl, granted, holds_at_zero_iff.mp holds⟩
  case kCreateTag =>
    obtain ⟨holds, granted⟩ := deserialize_create_tag_ok decoded
    exact ⟨rfl, granted, holds_at_zero_iff.mp holds⟩
  case kDelTag =>
    obtain ⟨holds, granted⟩ := deserialize_del_tag_ok decoded
    exact ⟨rfl, granted, holds_at_zero_iff.mp holds⟩

/-- For a struct whose buffer fits the record's size field, the `Deserialize*` of a record kind
returns it exactly when it is of that kind, the heap grants its allocations, and the payload
starts with the buffer `Log` writes for it; whatever follows that buffer is ignored. -/
theorem deserialize_accepts_iff (grants : Grants) (kind : TxnType) (data : Bytes)
    (t : Txn querySize) (fits : t.buffer.length < 2 ^ 32) :
    deserialize grants kind data = .ok t ↔ t.kind = kind ∧ t.Granted grants ∧ t.buffer <+: data :=
  ⟨deserialize_ok, fun ⟨kinds, granted, prefixOf⟩ =>
    kinds ▸ deserialize_buffer grants t fits granted (holds_at_zero_iff.mpr prefixOf)⟩

/-- A tag record's payload followed by two stray bytes decodes to the logged struct. -/
theorem deserialize_create_tag_ignores_trailing_bytes :
    (Txn.createTag ⟨[116], 1, 2⟩ : Txn 0).buffer.length < 2 ^ 32 ∧
      (deserialize grantsAll .kCreateTag ((Txn.createTag ⟨[116], 1, 2⟩ : Txn 0).buffer ++ [9, 9]) :
        Except DecodeError (Txn 0)) = .ok (Txn.createTag ⟨[116], 1, 2⟩) :=
  have fits : (Txn.createTag ⟨[116], 1, 2⟩ : Txn 0).buffer.length < 2 ^ 32 := by decide
  ⟨fits, (deserialize_accepts_iff grantsAll .kCreateTag _ _ fits).mpr
    ⟨rfl, rfl, List.prefix_append _ _⟩⟩

end IowarpCore.Wal.Accept
