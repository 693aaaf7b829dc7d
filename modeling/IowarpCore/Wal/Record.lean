import IowarpCore.Wal.Codec

/-!
# Log records and the `Load` loop

`Log(type, txn)` fills the payload buffer of its overload and `WriteRecord` frames it as
`[u8 type][u32 payload_size][payload]`; `Load` reads records back until the file ends or a
record is cut short. The loop is driven by a fuel argument: every iteration that continues
consumes at least five bytes, so `file.length` iterations never stop it early.
-/

namespace IowarpCore.Wal.Record

open IowarpCore.Types.Numbers IowarpCore.Wal.Codec

set_option autoImplicit false

/-- The payload struct of one `Log` overload. -/
inductive Txn (querySize : Nat)
  | createNewBlob (txn : TxnCreateNewBlob)
  | extendBlob (txn : TxnExtendBlob querySize)
  | clearBlob (txn : TxnClearBlob)
  | delBlob (txn : TxnDelBlob)
  | createTag (txn : TxnCreateTag)
  | delTag (txn : TxnDelTag)
  deriving DecidableEq

variable {querySize : Nat}

/-- The `buffer_` the overload fills. -/
def Txn.buffer : Txn querySize → Bytes
  | .createNewBlob txn => bufferCreateNewBlob txn
  | .extendBlob txn => bufferExtendBlob txn
  | .clearBlob txn => bufferClearBlob txn
  | .delBlob txn => bufferDelBlob txn
  | .createTag txn => bufferCreateTag txn
  | .delTag txn => bufferDelTag txn

/-- The record kind whose `Deserialize*` helper reads this struct. -/
def Txn.kind : Txn querySize → TxnType
  | .createNewBlob _ => .kCreateNewBlob
  | .extendBlob _ => .kExtendBlob
  | .clearBlob _ => .kClearBlob
  | .delBlob _ => .kDelBlob
  | .createTag _ => .kCreateTag
  | .delTag _ => .kDelTag

/-- The static `Deserialize*` helper of the record kind `type`, applied to a payload. -/
def deserialize (grants : Grants) : TxnType → Bytes → Except DecodeError (Txn querySize)
  | .kCreateNewBlob, data => Txn.createNewBlob <$> deserializeCreateNewBlob grants data
  | .kExtendBlob, data => Txn.extendBlob <$> deserializeExtendBlob grants data
  | .kClearBlob, data => Txn.clearBlob <$> deserializeClearBlob grants data
  | .kDelBlob, data => Txn.delBlob <$> deserializeDelBlob grants data
  | .kCreateTag, data => Txn.createTag <$> deserializeCreateTag grants data
  | .kDelTag, data => Txn.delTag <$> deserializeDelTag grants data

/-- The heap grants the allocations the matching `Deserialize*` makes for this struct: its
string, and for `TxnExtendBlob` its block vector. -/
def Txn.Granted (grants : Grants) : Txn querySize → Prop
  | .createNewBlob txn => grants.string txn.blobName.length = true
  | .extendBlob txn =>
      grants.string txn.blobName.length = true ∧ grants.blocks txn.newBlocks.length = true
  | .clearBlob txn => grants.string txn.blobName.length = true
  | .delBlob txn => grants.string txn.blobName.length = true
  | .createTag txn => grants.string txn.tagName.length = true
  | .delTag txn => grants.string txn.tagName.length = true

instance (grants : Grants) : (t : Txn querySize) → Decidable (t.Granted grants)
  | .createNewBlob _ => inferInstanceAs (Decidable (_ = true))
  | .extendBlob _ => inferInstanceAs (Decidable (_ ∧ _))
  | .clearBlob _ => inferInstanceAs (Decidable (_ = true))
  | .delBlob _ => inferInstanceAs (Decidable (_ = true))
  | .createTag _ => inferInstanceAs (Decidable (_ = true))
  | .delTag _ => inferInstanceAs (Decidable (_ = true))

/-- A call `Log(type, txn)`: the `TxnType` argument is independent of the overload. -/
structure LogCall (querySize : Nat) where
  type : TxnType
  txn : Txn querySize
  deriving DecidableEq

/-- What `Load` returns per record: the raw type byte and the payload bytes. -/
abbrev Entry := Byte × Bytes

/-- `WriteRecord(type, payload)`. `payload_size` is `static_cast<uint32_t>(payload.size())`,
and exactly that many payload bytes are written. -/
def writeRecord (type : TxnType) (payload : Bytes) : Bytes :=
  type.toByte :: (encodeLE 4 (payload.length % 2 ^ 32) ++ payload.take (payload.length % 2 ^ 32))

/-- The bytes `Log(type, txn)` appends to the stream. -/
def LogCall.record (call : LogCall querySize) : Bytes := writeRecord call.type call.txn.buffer

/-- The entry `Load` should return for this call. -/
def LogCall.entry (call : LogCall querySize) : Entry := (call.type.toByte, call.txn.buffer)

/-- The entry the record's own bytes frame: the payload cut to its `u32` size field. -/
def LogCall.recordEntry (call : LogCall querySize) : Entry :=
  (call.type.toByte, call.txn.buffer.take (call.txn.buffer.length % 2 ^ 32))

/-- The payload fits its `u32` size field. -/
def LogCall.Fits (call : LogCall querySize) : Prop := call.txn.buffer.length < 2 ^ 32

instance (call : LogCall querySize) : Decidable call.Fits :=
  inferInstanceAs (Decidable (_ < _))

/-- The bytes `WriteRecord` writes for an entry: its type byte, its payload size, its payload. -/
def frameEntry (entry : Entry) : Bytes := entry.1 :: (encodeLE 4 entry.2.length ++ entry.2)

/-- The `while (ifs.peek() != EOF)` loop of `Load` over the bytes not yet read. -/
def loadLoop : Nat → Bytes → List Entry
  | 0, _ => []
  | _ + 1, [] => []
  | fuel + 1, typeByte :: rest =>
      if 4 ≤ rest.length then
        let payloadSize := decodeLE (rest.take 4)
        let body := rest.drop 4
        if payloadSize ≤ body.length then
          (typeByte, body.take payloadSize) :: loadLoop fuel (body.drop payloadSize)
        else []
      else []

/-- `Load()` on a file holding `file`; a missing file loads as an empty one. -/
def load (file : Bytes) : List Entry := loadLoop file.length file

/-! ## Reading records back -/

theorem LogCall.record_entry_of_fits {call : LogCall querySize} (fits : call.Fits) :
    call.recordEntry = call.entry := by
  rw [LogCall.recordEntry, Nat.mod_eq_of_lt fits, List.take_length]
  rfl

@[simp] theorem write_record_length (type : TxnType) (payload : Bytes) :
    (writeRecord type payload).length = 5 + payload.length % 2 ^ 32 := by
  simp [writeRecord, Nat.mod_le]
  omega

theorem write_record_eq_frame_entry (type : TxnType) (payload : Bytes) :
    writeRecord type payload =
      frameEntry (type.toByte, payload.take (payload.length % 2 ^ 32)) := by
  simp [writeRecord, frameEntry, Nat.mod_le]

/-- One pass of the loop over a whole record. -/
theorem load_loop_frame_entry (fuel : Nat) (entry : Entry) (fits : entry.2.length < 2 ^ 32)
    (rest : Bytes) : loadLoop (fuel + 1) (frameEntry entry ++ rest) = entry :: loadLoop fuel rest := by
  obtain ⟨typeByte, payload⟩ := entry
  have decoded : decodeLE (encodeLE 4 payload.length) = payload.length := by
    rw [decode_le_encode_le, Nat.mod_eq_of_lt (by simpa using fits)]
  simp only [frameEntry, List.cons_append, loadLoop, List.append_assoc, List.length_append,
    encode_le_length, List.take_left' (encode_le_length 4 payload.length),
    List.drop_left' (encode_le_length 4 payload.length)]
  simp [decoded]

theorem load_loop_write_record (fuel : Nat) (type : TxnType) (payload rest : Bytes) :
    loadLoop (fuel + 1) (writeRecord type payload ++ rest) =
      (type.toByte, payload.take (payload.length % 2 ^ 32)) :: loadLoop fuel rest := by
  rw [write_record_eq_frame_entry, load_loop_frame_entry]
  exact (List.length_take_le _ _).trans_lt (Nat.mod_lt _ (by norm_num))

/-- A record cut anywhere before its last byte yields no entry. -/
theorem load_loop_torn (fuel : Nat) (type : TxnType) (payload torn : Bytes)
    (prefixOf : torn <+: writeRecord type payload)
    (cut : torn.length < (writeRecord type payload).length) : loadLoop fuel torn = [] := by
  let size := payload.length % 2 ^ 32
  have sizeBound : size < 2 ^ 32 := Nat.mod_lt _ (by norm_num)
  have sizeLe : size ≤ payload.length := Nat.mod_le _ _
  match fuel, torn with
  | 0, _ => rfl
  | _ + 1, [] => rfl
  | fuel + 1, typeByte :: rest =>
      have restPrefix : rest <+: encodeLE 4 size ++ payload.take size :=
        (List.cons_prefix_cons.mp prefixOf).2
      have restCut : rest.length < 4 + size := by
        simp [writeRecord, size] at cut
        omega
      simp only [loadLoop]
      split
      · have header : rest.take 4 = encodeLE 4 size := by
          rw [List.prefix_iff_eq_take.mp restPrefix, List.take_take,
            Nat.min_eq_left (by assumption), List.take_left' (encode_le_length 4 size)]
        have decoded : decodeLE (rest.take 4) = size := by
          rw [header, decode_le_encode_le, Nat.mod_eq_of_lt (by simpa using sizeBound)]
        simp only [decoded, List.length_drop]
        split
        · omega
        · rfl
      · rfl

/-- Whole records, in order, then at most a proper prefix of one more record. -/
theorem load_loop_frames (calls : List (LogCall querySize)) (torn : Bytes)
    (tornWrite : ∃ next : LogCall querySize, torn <+: next.record ∧
      torn.length < next.record.length)
    (fuel : Nat) (enough : ((calls.map LogCall.record).flatten ++ torn).length ≤ fuel) :
    loadLoop fuel ((calls.map LogCall.record).flatten ++ torn) =
      calls.map LogCall.recordEntry := by
  induction calls generalizing fuel with
  | nil =>
      obtain ⟨next, prefixOf, cut⟩ := tornWrite
      exact load_loop_torn fuel next.type next.txn.buffer torn prefixOf cut
  | cons call calls ih =>
      have framed : call.record = writeRecord call.type call.txn.buffer := rfl
      have recordLength : 0 < call.record.length := by simp [framed]
      simp only [List.map_cons, List.flatten_cons, List.append_assoc, List.length_append]
        at enough ⊢
      cases fuel with
      | zero => omega
      | succ fuel =>
          rw [framed, load_loop_write_record, ih fuel (by rw [List.length_append]; omega)]
          rfl

/-! ## What `Load` accepts -/

/-- A payload that fits its size field has strings and a block count that fit theirs, so on a heap
that grants its allocations the `Deserialize*` of its kind returns the logged struct from any
bytes that start with the payload. -/
theorem deserialize_buffer (grants : Grants) (t : Txn querySize) {data : Bytes}
    (fits : t.buffer.length < 2 ^ 32) (granted : t.Granted grants)
    (holds : HoldsAt data 0 t.buffer) : deserialize grants t.kind data = .ok t := by
  cases t with
  | createNewBlob txn =>
      simp only [Txn.buffer, bufferCreateNewBlob, writeFloat, writeWord, List.length_append,
        write_blob_key_length] at fits
      simp [deserialize, Txn.kind, Txn.buffer,
        deserialize_create_new_blob_buffer txn (by omega) granted holds, Functor.map, Except.map]
  | extendBlob txn =>
      simp only [Txn.buffer, bufferExtendBlob, foldl_write_block, writeU32, writeWord,
        List.length_append, write_blob_key_length, flatMap_write_block_length] at fits
      have blockCount : txn.newBlocks.length < 2 ^ 32 := by
        have spread := Nat.le_mul_of_pos_right txn.newBlocks.length (by omega : 0 < 24 + querySize)
        omega
      simp [deserialize, Txn.kind, Txn.buffer,
        deserialize_extend_blob_buffer txn (by omega) blockCount granted.1 granted.2 holds,
        Functor.map, Except.map]
  | clearBlob txn =>
      simp only [Txn.buffer, bufferClearBlob, write_blob_key_length] at fits
      simp [deserialize, Txn.kind, Txn.buffer, deserialize_clear_blob_buffer txn (by omega) granted holds,
        Functor.map, Except.map]
  | delBlob txn =>
      simp only [Txn.buffer, bufferDelBlob, write_blob_key_length] at fits
      simp [deserialize, Txn.kind, Txn.buffer, deserialize_del_blob_buffer txn (by omega) granted holds,
        Functor.map, Except.map]
  | createTag txn =>
      simp only [Txn.buffer, bufferCreateTag, writeTagKey, writeU32, writeWord, List.length_append,
        write_string_length] at fits
      simp [deserialize, Txn.kind, Txn.buffer,
        deserialize_create_tag_buffer txn (by simp at fits; omega) granted holds, Functor.map, Except.map]
  | delTag txn =>
      simp only [Txn.buffer, bufferDelTag, writeTagKey, writeU32, writeWord, List.length_append,
        write_string_length] at fits
      simp [deserialize, Txn.kind, Txn.buffer,
        deserialize_del_tag_buffer txn (by simp at fits; omega) granted holds, Functor.map, Except.map]

/-- `Load` over what a sequence of `Log` calls wrote, possibly followed by a torn write of one
more record, returns one entry per whole record in logging order, each carrying the `TxnType`
given to `Log`; on a heap that grants the decoders' allocations, the `Deserialize*` of each
struct's kind gives back the logged struct from the entry's payload. -/
theorem load_logged_records (grants : Grants) (calls : List (LogCall querySize)) (torn : Bytes)
    (fits : ∀ call ∈ calls, call.Fits) (granted : ∀ call ∈ calls, call.txn.Granted grants)
    (tornWrite : ∃ next : LogCall querySize, torn <+: next.record ∧
      torn.length < next.record.length) :
    load ((calls.map LogCall.record).flatten ++ torn) = calls.map LogCall.entry ∧
      ∀ call ∈ calls, deserialize grants call.txn.kind call.entry.2 = .ok call.txn :=
  ⟨by rw [load, load_loop_frames calls torn tornWrite _ le_rfl]
      exact List.map_congr_left fun call member => LogCall.record_entry_of_fits (fits call member),
    fun call member => deserialize_buffer grants call.txn (fits call member) (granted call member)
      (holds_at_self _)⟩

/-- A heap that grants every allocation. -/
def grantsAll : Grants := ⟨fun _ => true, fun _ => true⟩

/-- `CreateTag("t", 1, 2)` followed by the first byte of another record. -/
theorem load_create_tag_then_torn_byte :
    (∀ call ∈ ([⟨.kCreateTag, .createTag ⟨[116], 1, 2⟩⟩] : List (LogCall 0)), call.Fits) ∧
    (∀ call ∈ ([⟨.kCreateTag, .createTag ⟨[116], 1, 2⟩⟩] : List (LogCall 0)),
      call.txn.Granted grantsAll) ∧
    (∃ next : LogCall 0, [4] <+: next.record ∧ [4].length < next.record.length) ∧
    (load ((([⟨.kCreateTag, .createTag ⟨[116], 1, 2⟩⟩] : List (LogCall 0)).map
        LogCall.record).flatten ++ [4]) =
      ([⟨.kCreateTag, .createTag ⟨[116], 1, 2⟩⟩] : List (LogCall 0)).map LogCall.entry ∧
    ∀ call ∈ ([⟨.kCreateTag, .createTag ⟨[116], 1, 2⟩⟩] : List (LogCall 0)),
      deserialize grantsAll call.txn.kind call.entry.2 = .ok call.txn) :=
  have fits : ∀ call ∈ ([⟨.kCreateTag, .createTag ⟨[116], 1, 2⟩⟩] : List (LogCall 0)),
      call.Fits := by decide
  have granted : ∀ call ∈ ([⟨.kCreateTag, .createTag ⟨[116], 1, 2⟩⟩] : List (LogCall 0)),
      call.txn.Granted grantsAll := by decide
  have torn : ∃ next : LogCall 0, [4] <+: next.record ∧ [4].length < next.record.length :=
    ⟨⟨.kCreateTag, .createTag ⟨[], 0, 0⟩⟩, by decide, by decide⟩
  ⟨fits, granted, torn, load_logged_records grantsAll _ _ fits granted torn⟩

end IowarpCore.Wal.Record
