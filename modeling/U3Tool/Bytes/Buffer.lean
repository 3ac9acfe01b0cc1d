import Mathlib.Tactic
import Mathlib.Data.Nat.Digits.Defs

/-!
# Byte strings, words and C arrays

A machine word travels as a fixed number of bytes, least significant first. `leBytes width n` lays a
number out and `leNat` reads a byte string back as `Nat.ofDigits` in base 256; `leNat_leBytes` and
`leBytes_leNat` are the two round trips, and `take_leBytes` cuts a word to its low bytes.

A C array of fixed size is a `Buffer`, which carries the proof of its size. `store` writes a byte
string at an offset, never past the end, as `memcpy`, a field assignment through a packed overlay
or an incoming transfer do; `slice` reads a range. `getElem?_bytes_store` says which bytes a store
changes, and `bytes_store_of_le` that a store which covers the array leaves nothing of its earlier
contents.
-/

set_option autoImplicit false
set_option relaxedAutoImplicit false

namespace Bytes

/-! ### Words -/

/-- The `width` bytes of a number, least significant first; higher bytes are dropped. -/
def leBytes : (width n : ℕ) → List UInt8
  | 0, _ => []
  | width + 1, n => UInt8.ofNat n :: leBytes width (n / 256)

/-- The number a byte string denotes, least significant byte first. -/
def leNat : List UInt8 → ℕ
  | [] => 0
  | byte :: rest => byte.toNat + 256 * leNat rest

@[simp] theorem length_leBytes (width n : ℕ) : (leBytes width n).length = width := by
  induction width generalizing n with
  | zero => rfl
  | succ width ih => simp [leBytes, ih]

/-- A byte string denotes the number with its bytes as digits in base 256. -/
theorem leNat_eq_ofDigits (bytes : List UInt8) :
    leNat bytes = Nat.ofDigits 256 (bytes.map UInt8.toNat) := by
  induction bytes with
  | nil => rfl
  | cons byte rest ih => simp [leNat, Nat.ofDigits_cons, ih]

/-- Reading back the low `width` bytes of a number leaves its residue. -/
theorem leNat_leBytes (width n : ℕ) : leNat (leBytes width n) = n % 256 ^ width := by
  induction width generalizing n with
  | zero => simp [leBytes, leNat, Nat.mod_one]
  | succ width ih =>
    rw [leBytes, leNat, ih, UInt8.toNat_ofNat']
    change n % 256 + 256 * (n / 256 % 256 ^ width) = n % 256 ^ (width + 1)
    rw [pow_succ', Nat.mod_mul]

/-- A byte string denotes a number below the power of 256 given by its length. -/
theorem leNat_lt (bytes : List UInt8) : leNat bytes < 256 ^ bytes.length := by
  rw [leNat_eq_ofDigits, ← List.length_map UInt8.toNat]
  refine Nat.ofDigits_lt_base_pow_length (by norm_num) fun digit hdigit ↦ ?_
  obtain ⟨byte, -, rfl⟩ := List.mem_map.mp hdigit
  exact byte.toNat_lt

/-- The first `count` bytes of a word are the word cut to that width. -/
theorem take_leBytes {count width : ℕ} (hcount : count ≤ width) (n : ℕ) :
    (leBytes width n).take count = leBytes count n := by
  induction count generalizing width n with
  | zero => simp [leBytes]
  | succ count ih =>
    obtain ⟨rest, rfl⟩ : ∃ rest, width = rest + 1 := ⟨width - 1, by omega⟩
    simp only [leBytes, List.take_succ_cons]
    rw [ih (by omega)]

/-- The number denoted by a concatenation. -/
theorem leNat_append (first second : List UInt8) :
    leNat (first ++ second) = leNat first + 256 ^ first.length * leNat second := by
  simp only [leNat_eq_ofDigits, List.map_append, Nat.ofDigits_append, List.length_map]

/-- The number a byte string denotes as a `uint16_t`. -/
def leUInt16 (bytes : List UInt8) : UInt16 := UInt16.ofNat (leNat bytes)

/-- The number a byte string denotes as a `uint32_t`. -/
def leUInt32 (bytes : List UInt8) : UInt32 := UInt32.ofNat (leNat bytes)

/-- Four bytes denote exactly their number. -/
theorem toNat_leUInt32 {bytes : List UInt8} (hlength : bytes.length ≤ 4) :
    (leUInt32 bytes).toNat = leNat bytes := by
  have hlt := lt_of_lt_of_le (leNat_lt bytes) (Nat.pow_le_pow_right (by norm_num) hlength)
  rw [leUInt32, UInt32.toNat_ofNat']
  exact Nat.mod_eq_of_lt (by simpa using hlt)

/-- Two bytes denote exactly their number. -/
theorem toNat_leUInt16 {bytes : List UInt8} (hlength : bytes.length ≤ 2) :
    (leUInt16 bytes).toNat = leNat bytes := by
  have hlt := lt_of_lt_of_le (leNat_lt bytes) (Nat.pow_le_pow_right (by norm_num) hlength)
  rw [leUInt16, UInt16.toNat_ofNat']
  exact Nat.mod_eq_of_lt (by simpa using hlt)

/-- A 32-bit word survives its layout. -/
@[simp] theorem leUInt32_leBytes (word : UInt32) : leUInt32 (leBytes 4 word.toNat) = word := by
  apply UInt32.toNat_inj.mp
  rw [toNat_leUInt32 (by simp), leNat_leBytes]
  exact Nat.mod_eq_of_lt (by simpa using word.toNat_lt)

/-- A 16-bit word survives its layout. -/
@[simp] theorem leUInt16_leBytes (word : UInt16) : leUInt16 (leBytes 2 word.toNat) = word := by
  apply UInt16.toNat_inj.mp
  rw [toNat_leUInt16 (by simp), leNat_leBytes]
  exact Nat.mod_eq_of_lt (by simpa using word.toNat_lt)

/-- Different 32-bit words have different layouts. -/
theorem leBytes_injective {first second : UInt32}
    (h : leBytes 4 first.toNat = leBytes 4 second.toNat) : first = second := by
  rw [← leUInt32_leBytes first, h, leUInt32_leBytes]

/-! ### Arrays -/

/-- A C array of `size` bytes. -/
@[ext] structure Buffer (size : ℕ) where
  bytes : List UInt8
  length_bytes : bytes.length = size
  deriving DecidableEq

namespace Buffer

variable {size : ℕ}

attribute [simp] length_bytes

/-- The array with every byte equal to the given one, as `memset` leaves it. -/
def fill (size : ℕ) (byte : UInt8) : Buffer size :=
  ⟨List.replicate size byte, List.length_replicate⟩

/-- Writes a byte string at an offset; what would fall past the end is not written. -/
def store (buffer : Buffer size) (offset : ℕ) (data : List UInt8) : Buffer size where
  bytes := (buffer.bytes.take offset ++ data ++ buffer.bytes.drop (offset + data.length)).take size
  length_bytes := by
    simp only [List.length_take, List.length_append, List.length_drop, length_bytes]
    omega

/-- The `count` bytes at an offset. -/
def slice (buffer : Buffer size) (offset count : ℕ) : List UInt8 :=
  (buffer.bytes.drop offset).take count

/-- The little-endian 16-bit field at an offset. -/
def word16 (buffer : Buffer size) (offset : ℕ) : UInt16 := leUInt16 (buffer.slice offset 2)

/-- The little-endian 32-bit field at an offset. -/
def word32 (buffer : Buffer size) (offset : ℕ) : UInt32 := leUInt32 (buffer.slice offset 4)

theorem length_slice_le (buffer : Buffer size) (offset count : ℕ) :
    (buffer.slice offset count).length ≤ count :=
  List.length_take_le _ _

/-- A range inside the array has all its bytes. -/
theorem length_slice {buffer : Buffer size} {offset count : ℕ} (hrange : offset + count ≤ size) :
    (buffer.slice offset count).length = count := by
  simp only [slice, List.length_take, List.length_drop, length_bytes]
  omega

/-- A store inside the array changes exactly the bytes it covers. -/
theorem getElem?_bytes_store {buffer : Buffer size} {offset : ℕ} {data : List UInt8}
    (hrange : offset + data.length ≤ size) (index : ℕ) :
    (buffer.store offset data).bytes[index]? =
      if offset ≤ index ∧ index < offset + data.length then data[index - offset]?
      else buffer.bytes[index]? := by
  have hsize := buffer.length_bytes
  by_cases hend : index < size
  · simp only [store, List.getElem?_take, if_pos hend, List.getElem?_append, List.length_append,
      List.length_take, List.getElem?_drop]
    split_ifs <;> first | omega | rfl | (congr 1; omega)
  · have hstore := (buffer.store offset data).length_bytes
    rw [List.getElem?_eq_none (by omega)]
    split_ifs with hcovered
    · omega
    · exact (List.getElem?_eq_none (by omega)).symm

/-- A store inside the array, with what stood before it. -/
theorem take_bytes_store {buffer : Buffer size} {offset : ℕ} {data : List UInt8}
    (hrange : offset + data.length ≤ size) :
    (buffer.store offset data).bytes.take (offset + data.length) =
      buffer.bytes.take offset ++ data := by
  have hfront : (buffer.bytes.take offset ++ data).length = offset + data.length := by
    rw [List.length_append, List.length_take, length_bytes, min_eq_left (by omega)]
  rw [store, List.take_take, min_eq_left hrange, ← hfront, List.take_left]

/-- A store at the start that covers the array leaves nothing of its earlier contents. -/
theorem bytes_store_of_le {buffer : Buffer size} {data : List UInt8} (hcover : size ≤ data.length) :
    (buffer.store 0 data).bytes = data.take size := by
  simp only [store, List.take_zero, List.nil_append, Nat.zero_add]
  rw [List.drop_eq_nil_of_le (by rw [length_bytes]; exact hcover), List.append_nil]

/-- A store at the start that does not fill the array keeps the tail of its earlier contents. -/
theorem bytes_store_zero {buffer : Buffer size} {data : List UInt8} (hfits : data.length ≤ size) :
    (buffer.store 0 data).bytes = data ++ buffer.bytes.drop data.length := by
  simp only [store, List.take_zero, List.nil_append, Nat.zero_add]
  apply List.take_of_length_le
  simp only [List.length_append, List.length_drop, length_bytes]
  omega

/-- A store at the start, followed by one that fills the rest, leaves the two byte strings. -/
theorem bytes_store_store {buffer : Buffer size} {data rest : List UInt8}
    (hfill : data.length + rest.length = size) :
    ((buffer.store 0 data).store data.length rest).bytes = data ++ rest := by
  have hfirst : (buffer.store 0 data).bytes = data ++ buffer.bytes.drop data.length :=
    bytes_store_zero (by omega)
  have htail : (buffer.store 0 data).bytes.drop (data.length + rest.length) = [] :=
    List.drop_eq_nil_of_le (by rw [length_bytes]; omega)
  change List.take size ((buffer.store 0 data).bytes.take data.length ++ rest ++
    (buffer.store 0 data).bytes.drop (data.length + rest.length)) = data ++ rest
  rw [htail, hfirst, List.take_left, List.append_nil]
  exact List.take_of_length_le (by rw [List.length_append]; omega)

/-- The bytes a store at the start has written can be read back. -/
theorem slice_store_zero {buffer : Buffer size} {data : List UInt8} {offset count : ℕ}
    (hdata : offset + count ≤ data.length) (hfits : offset + count ≤ size) :
    (buffer.store 0 data).slice offset count = (data.drop offset).take count := by
  simp only [slice, store, List.take_zero, List.nil_append, Nat.zero_add]
  rw [List.drop_take, List.take_take, min_eq_left (by omega), List.drop_append_of_le_length
    (by omega), List.take_append_of_le_length (by rw [List.length_drop]; omega)]

/-! ### Single bytes -/

/-- The byte at an index, zero past the end. -/
def byte (buffer : Buffer size) (index : ℕ) : UInt8 := buffer.bytes.getD index 0

/-- After a store at the start, the bytes it wrote are the new ones and the others the old. -/
theorem byte_store_zero {buffer : Buffer size} {data : List UInt8} (hfits : data.length ≤ size)
    (index : ℕ) :
    (buffer.store 0 data).byte index =
      if index < data.length then data.getD index 0 else buffer.byte index := by
  simp only [byte, List.getD_eq_getElem?_getD]
  rw [getElem?_bytes_store (by omega)]
  simp only [Nat.zero_le, true_and, Nat.zero_add, Nat.sub_zero]
  split_ifs <;> rfl

/-- A range inside the array, byte by byte. -/
theorem slice_eq_map_byte {buffer : Buffer size} {offset count : ℕ}
    (hrange : offset + count ≤ size) :
    buffer.slice offset count =
      (List.range count).map fun index ↦ buffer.byte (offset + index) := by
  refine List.ext_getElem (by simp [length_slice hrange]) fun index hslice hmap ↦ ?_
  have hindex : offset + index < buffer.bytes.length := by
    rw [List.length_map, List.length_range] at hmap
    rw [length_bytes]
    omega
  simp [slice, byte, List.getElem?_eq_getElem hindex]

/-- A 16-bit field denotes its two bytes. -/
theorem toNat_word16 {buffer : Buffer size} {offset : ℕ} (hrange : offset + 2 ≤ size) :
    (buffer.word16 offset).toNat =
      (buffer.byte offset).toNat + 256 * (buffer.byte (offset + 1)).toNat := by
  rw [word16, toNat_leUInt16 (length_slice_le ..), slice_eq_map_byte hrange]
  simp [List.range_succ, leNat]

/-- A 32-bit field denotes its four bytes. -/
theorem toNat_word32 {buffer : Buffer size} {offset : ℕ} (hrange : offset + 4 ≤ size) :
    (buffer.word32 offset).toNat =
      (buffer.byte offset).toNat + 256 * (buffer.byte (offset + 1)).toNat +
        256 ^ 2 * (buffer.byte (offset + 2)).toNat +
        256 ^ 3 * (buffer.byte (offset + 3)).toNat := by
  rw [word32, toNat_leUInt32 (length_slice_le ..), slice_eq_map_byte hrange]
  simp only [List.range_succ, List.range_zero, List.nil_append, List.cons_append, List.map_cons,
    List.map_nil, leNat, Nat.add_zero]
  ring

/-- A 32-bit field with no smaller bytes is no smaller. -/
theorem word32_le_word32 {first second : Buffer size} {offset : ℕ} (hrange : offset + 4 ≤ size)
    (hbytes : ∀ index, offset ≤ index → index < offset + 4 →
      first.byte index ≤ second.byte index) : first.word32 offset ≤ second.word32 offset := by
  have hbyte (index : ℕ) (hindex : index < 4) :
      (first.byte (offset + index)).toNat ≤ (second.byte (offset + index)).toNat :=
    UInt8.le_iff_toNat_le.mp (hbytes _ (by omega) (by omega))
  have h0 := hbyte 0 (by norm_num)
  have h1 := hbyte 1 (by norm_num)
  have h2 := hbyte 2 (by norm_num)
  have h3 := hbyte 3 (by norm_num)
  rw [UInt32.le_iff_toNat_le, toNat_word32 hrange, toNat_word32 hrange]
  rw [Nat.add_zero] at h0
  omega

end Buffer

end Bytes
