import Mathlib.Data.List.Basic
import Mathlib.Tactic.Ring

/-!
# Machine words and host byte order

`size_t`, native addresses, `chi::u32`, `chi::u64` and `char` are the bit vectors of their
widths, so every `+`, `-`, `*` and `/` below wraps exactly where the C++ does. The transaction
log copies integers with `memcpy`, which writes them in host order; the x86-64 hosts the
repository targets are little-endian, and `encodeLE`/`decodeLE` are that order.
-/

namespace IowarpCore.Types.Numbers

set_option autoImplicit false

/-- `char` and `uint8_t`. -/
abbrev Byte := BitVec 8

/-- `size_t`, and the value of every native pointer. -/
abbrev SizeT := BitVec 64

/-- A `std::vector<char>` or `std::string`: the transaction log treats both as raw bytes. -/
abbrev Bytes := List Byte

/-- The `width` bytes a `memcpy` of an integer holding `value` copies, low byte first. -/
def encodeLE : Nat → Nat → Bytes
  | 0, _ => []
  | width + 1, value => BitVec.ofNat 8 value :: encodeLE width (value / 256)

/-- The integer a `memcpy` of these bytes into an unsigned variable produces. -/
def decodeLE : Bytes → Nat
  | [] => 0
  | byte :: rest => byte.toNat + 256 * decodeLE rest

@[simp] theorem encode_le_length (width value : Nat) : (encodeLE width value).length = width := by
  induction width generalizing value with
  | zero => rfl
  | succ width ih => simp [encodeLE, ih]

theorem decode_le_encode_le (width value : Nat) :
    decodeLE (encodeLE width value) = value % 256 ^ width := by
  induction width generalizing value with
  | zero => simp [encodeLE, decodeLE, Nat.mod_one]
  | succ width ih =>
      rw [encodeLE, decodeLE, ih, pow_succ', @Nat.mod_mul 256 _ value, BitVec.toNat_ofNat]

theorem decode_le_lt (bytes : Bytes) : decodeLE bytes < 256 ^ bytes.length := by
  induction bytes with
  | nil => simp [decodeLE]
  | cons byte rest ih =>
      have byteBound := byte.isLt
      simp only [decodeLE, List.length_cons, pow_succ]
      norm_num at byteBound
      omega

/-- Bytes copied into an integer of their own width and back are unchanged. -/
theorem encode_le_decode_le (bytes : Bytes) : encodeLE bytes.length (decodeLE bytes) = bytes := by
  induction bytes with
  | nil => rfl
  | cons byte rest ih =>
      have byteBound : byte.toNat < 256 := byte.isLt
      rw [List.length_cons, encodeLE, decodeLE,
        show (byte.toNat + 256 * decodeLE rest) / 256 = decodeLE rest by omega, ih]
      congr 1
      apply BitVec.eq_of_toNat_eq
      rw [BitVec.toNat_ofNat]
      omega

/-- The bytes of a word of `bits` bits, a whole number of bytes, hold exactly its values. -/
theorem byte_pow_eq {bits : Nat} (whole : bits % 8 = 0) : 256 ^ (bits / 8) = 2 ^ bits := by
  rw [show (256 : Nat) = 2 ^ 8 by norm_num, ← pow_mul, Nat.mul_div_cancel' (by omega)]

/-- A word of `bits` bits, a whole number of bytes, survives the `memcpy` out and back in. -/
theorem word_roundtrip (bits : Nat) (whole : bits % 8 = 0) (word : BitVec bits) :
    BitVec.ofNat bits (decodeLE (encodeLE (bits / 8) word.toNat)) = word := by
  apply BitVec.eq_of_toNat_eq
  rw [decode_le_encode_le, BitVec.toNat_ofNat, byte_pow_eq whole, Nat.mod_mod,
    Nat.mod_eq_of_lt word.isLt]

end IowarpCore.Types.Numbers
