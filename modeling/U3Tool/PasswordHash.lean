import U3Tool.Bytes.Memory
import U3Tool.Bytes.Unicode
import U3Tool.Commands

/-!
# What a password hash is the hash of

The devices hash the UTF-16LE encoding of a password and its terminating NUL. `u3_pass_to_hash`
puts a zero byte behind every byte of the password instead, and computes lengths in 32 bits; the
length it passes to `md5` is an `int`. `hashesText_iff` says for which texts, typed on a UTF-8
terminal, the two agree.

`u3PassToHashCall` is `u3_pass_to_hash` with its machine arithmetic; `u3PassToHash_eq` connects it
to `u3PassToHash`, which the command layer is written with.
-/

set_option autoImplicit false
set_option relaxedAutoImplicit false

namespace U3Tool

open Bytes

/-! ### The call of `md5` -/

/-- A call of `md5`: the buffer it is given, and the length. -/
structure Md5Call where
  input : List UInt8
  ilen : Int32

/-- The bytes `md5` reads, none when the length is negative. -/
def Md5Call.bytes (call : Md5Call) : List UInt8 := call.input.take call.ilen.toInt.toNat

/-- The call of `md5` in `u3_pass_to_hash`. -/
def u3PassToHashCall (password : CText) : Md5Call :=
  let passlen := UInt32.ofNat password.bytes.length
  let unicodePasslen := (passlen + 1) * 2
  let unicodePass := (List.range (passlen + 1).toNat).foldl
    (fun (buffer : List UInt8) i ↦
      buffer.set (UInt32.ofNat i * 2).toNat ((password.bytes ++ [0]).getD i 0))
    (List.replicate ((passlen + 1).toNat * 2) 0)
  ⟨unicodePass, unicodePasslen.toInt32⟩

/-! ### The widening loop -/

/-- Setting bytes keeps the length. -/
theorem length_foldl_set (position : ℕ → ℕ) (value : ℕ → UInt8) (indices : List ℕ)
    (buffer : List UInt8) :
    (indices.foldl (fun buffer i ↦ buffer.set (position i) (value i)) buffer).length =
      buffer.length := by
  induction indices generalizing buffer with
  | nil => rfl
  | cons i rest ih => rw [List.foldl_cons, ih, List.length_set]

/-- The bytes of a buffer after every second one has been set. -/
theorem getElem?_foldl_set (value : ℕ → UInt8) (count : ℕ) (buffer : List UInt8) (index : ℕ) :
    ((List.range count).foldl (fun buffer i ↦ buffer.set (i * 2) (value i)) buffer)[index]? =
      if index % 2 = 0 ∧ index / 2 < count ∧ index < buffer.length then some (value (index / 2))
      else buffer[index]? := by
  induction count with
  | zero => simp
  | succ count ih =>
    rw [List.range_succ, List.foldl_append, List.foldl_cons, List.foldl_nil, List.getElem?_set,
      length_foldl_set (· * 2), ih]
    by_cases hindex : count * 2 = index
    · subst hindex
      have hhalf : count * 2 / 2 = count := Nat.mul_div_cancel _ (by decide)
      have heven : count * 2 % 2 = 0 := Nat.mul_mod_left _ _
      by_cases hinside : count * 2 < buffer.length
      · simp [hhalf, heven, hinside]
      · simp [hhalf, heven, hinside]
    · rw [if_neg hindex]
      exact if_congr (by omega) rfl rfl

/-- Setting every second byte of a zeroed buffer to the bytes of a string widens the string. -/
theorem foldl_set_eq_widen (bytes : List UInt8) :
    (List.range bytes.length).foldl (fun buffer i ↦ buffer.set (i * 2) (bytes.getD i 0))
      (List.replicate (bytes.length * 2) 0) = widen bytes := by
  refine List.ext_getElem? fun index ↦ ?_
  rw [getElem?_foldl_set, getElem?_widen, List.length_replicate]
  by_cases hinside : index / 2 < bytes.length
  · have hindex : index < bytes.length * 2 := by omega
    by_cases heven : index % 2 = 0
    · rw [if_pos ⟨heven, hinside, hindex⟩, if_pos heven, List.getD_eq_getElem?_getD,
        List.getElem?_eq_getElem hinside, Option.getD_some]
    · rw [if_neg (fun h ↦ heven h.1), if_neg heven, List.getElem?_replicate_of_lt hindex,
        List.getElem?_eq_getElem hinside, Option.map_some]
  · have hindex : ¬ index < bytes.length * 2 := by omega
    rw [if_neg (fun h ↦ hinside h.2.1), List.getElem?_eq_none (by simpa using hindex),
      List.getElem?_eq_none (by omega), Option.map_none, ite_self]

/-- Setting bytes at even positions leaves the odd ones zero. -/
theorem oddZero_foldl_set {position : ℕ → ℕ} (heven : ∀ i, position i % 2 = 0)
    (value : ℕ → UInt8) (indices : List ℕ) {buffer : List UInt8} (hbuffer : OddZero buffer) :
    OddZero (indices.foldl (fun buffer i ↦ buffer.set (position i) (value i)) buffer) := by
  refine List.foldlRecOn _ _ hbuffer fun previous hprevious i _ index ↦ ?_
  have hother : position i ≠ 2 * index + 1 := fun heq ↦ by
    have := heven i
    omega
  rw [List.getD_eq_getElem?_getD, List.getElem?_set_ne hother, ← List.getD_eq_getElem?_getD]
  exact hprevious index

/-! ### The arithmetic -/

/-- An unsigned number converted to `int`. -/
theorem toInt_toInt32 (n : UInt32) :
    n.toInt32.toInt = if n.toNat < 2 ^ 31 then (n.toNat : ℤ) else (n.toNat : ℤ) - 2 ^ 32 := by
  have htoInt : n.toInt32.toInt = n.toBitVec.toInt := rfl
  rw [htoInt, BitVec.toInt_eq_toNat_cond]
  change (if 2 * n.toNat < 2 ^ 32 then (n.toNat : ℤ) else (n.toNat : ℤ) - (2 ^ 32 : ℕ)) = _
  exact if_congr (by omega) rfl rfl

/-- The bytes at odd positions of what is hashed are zero, whatever the lengths. -/
theorem oddZero_input (password : CText) : OddZero (u3PassToHashCall password).input := by
  refine oddZero_foldl_set (fun i ↦ ?_) _ _ fun index ↦ ?_
  · rw [UInt32.toNat_mul, UInt32.toNat_ofNat']
    change i % 2 ^ 32 * 2 % 2 ^ 32 % 2 = 0
    omega
  · rw [List.getD_eq_getElem?_getD, List.getElem?_replicate]
    split_ifs <;> rfl

/-- The length passed to `md5`: twice that of the password with its NUL, in 32 bits, as an `int`. -/
theorem toInt_ilen (password : CText) :
    (u3PassToHashCall password).ilen.toInt =
      if (password.bytes.length + 1) * 2 % 2 ^ 32 < 2 ^ 31 then
        (((password.bytes.length + 1) * 2 % 2 ^ 32 : ℕ) : ℤ)
      else (((password.bytes.length + 1) * 2 % 2 ^ 32 : ℕ) : ℤ) - 2 ^ 32 := by
  have hlength : ((UInt32.ofNat password.bytes.length + 1) * 2).toNat =
      (password.bytes.length + 1) * 2 % 2 ^ 32 := by
    rw [UInt32.toNat_mul, UInt32.toNat_add, UInt32.toNat_ofNat']
    change (password.bytes.length % 2 ^ 32 + 1) % 2 ^ 32 * 2 % 2 ^ 32 = _
    omega
  rw [← hlength]
  exact toInt_toInt32 _

/-- A password of less than 2^31 - 1 bytes is widened as a whole, with its NUL. -/
theorem input_of_short {password : CText} (hshort : password.bytes.length < 2 ^ 31 - 1) :
    (u3PassToHashCall password).input = widen (password.bytes ++ [0]) := by
  have hcount : (UInt32.ofNat password.bytes.length + 1).toNat =
      (password.bytes ++ [0]).length := by
    rw [UInt32.toNat_add, UInt32.toNat_ofNat', List.length_append, List.length_singleton]
    change (password.bytes.length % 2 ^ 32 + 1) % 2 ^ 32 = _
    omega
  rw [← foldl_set_eq_widen]
  simp only [u3PassToHashCall, hcount]
  refine List.foldl_ext _ _ _ fun buffer i hi ↦ ?_
  have hposition : (UInt32.ofNat i * 2).toNat = i * 2 := by
    rw [List.mem_range, List.length_append, List.length_singleton] at hi
    rw [UInt32.toNat_mul, UInt32.toNat_ofNat']
    change i % 2 ^ 32 * 2 % 2 ^ 32 = _
    omega
  rw [hposition]

/-- Within the range of the length, `u3PassToHash` hashes what `u3_pass_to_hash` passes to `md5`. -/
theorem u3PassToHash_eq (md5 : List UInt8 → Buffer 16) {password : CText}
    (hshort : password.bytes.length < 2 ^ 30 - 1) :
    u3PassToHash md5 password.bytes = md5 (u3PassToHashCall password).bytes := by
  have hlength : password.bytes.length + 1 = (password.bytes ++ [0]).length := by simp
  have hbytes : (u3PassToHashCall password).bytes = widen (password.bytes ++ [0]) := by
    rw [Md5Call.bytes, toInt_ilen, if_pos (by omega), input_of_short (by omega), Int.toNat_natCast]
    refine List.take_of_length_le ?_
    rw [length_widen, ← hlength]
    omega
  rw [hbytes, ← foldl_set_eq_widen, ← hlength]
  rfl

/-! ### Texts -/

/-- A text that can be typed as a password: characters other than NUL. -/
structure PasswordText where
  chars : List Char
  noNul : ∀ char ∈ chars, char.toNat ≠ 0

/-- The bytes a UTF-8 terminal delivers for a text. -/
def PasswordText.typed (text : PasswordText) : CText :=
  ⟨utf8 text.chars, fun hmem ↦ by
    obtain ⟨char, hchar, hzero⟩ := List.mem_flatMap.mp hmem
    exact zero_notMem_utf8EncodeChar (text.noNul char hchar) hzero⟩

/-- What is hashed for a text is its UTF-16LE encoding and two zero bytes, and the length passed is
the length of these bytes. -/
structure HashesText (text : PasswordText) : Prop where
  bytes : (u3PassToHashCall text.typed).bytes = utf16le text.chars ++ [0, 0]
  ilen : (u3PassToHashCall text.typed).ilen.toInt = (utf16le text.chars ++ [0, 0]).length

/-- The hash is that of the UTF-16LE encoding for ASCII texts and no others; an ASCII text must be
shorter than 2^30 - 1 characters, from where on the length passed is no longer that of its bytes. -/
theorem hashesText_iff (text : PasswordText) :
    HashesText text ↔
      (∀ char ∈ text.chars, char.toNat < 128) ∧ text.chars.length < 2 ^ 30 - 1 := by
  have hilen := toInt_ilen text.typed
  have htyped : text.typed.bytes.length = (utf8 text.chars).length := rfl
  rw [htyped] at hilen
  constructor
  · intro hhashes
    -- every byte at an odd position is zero, so no character needs more than one byte of its unit
    have hzero : OddZero (utf16le text.chars) := by
      have hread := (oddZero_input text.typed).take
        (u3PassToHashCall text.typed).ilen.toInt.toNat
      rw [← Md5Call.bytes, hhashes.bytes] at hread
      exact hread.of_append
    have hlatin := lt_of_oddZero_utf16le hzero
    have hunits := length_utf16le fun char hchar ↦ (hlatin char hchar).trans (by decide)
    have hlow := length_le_length_utf8 text.chars
    have hhigh := length_utf8_le hlatin
    have hlengths := hhashes.ilen
    rw [List.length_append, hunits, hilen] at hlengths
    -- the length passed tells that UTF-8 needs one byte for each of them
    have hsame : (utf8 text.chars).length = text.chars.length ∧ text.chars.length < 2 ^ 30 - 1 := by
      simp only [List.length_cons, List.length_nil] at hlengths
      split_ifs at hlengths <;> omega
    exact ⟨ascii_of_length_utf8 hsame.1, hsame.2⟩
  · rintro ⟨hascii, hshort⟩
    have hlength := length_utf8_of_ascii hascii
    have hencoded : utf16le text.chars ++ [0, 0] = widen (text.typed.bytes ++ [0]) := by
      rw [widen_append, utf16le_of_ascii hascii]
      rfl
    rw [hlength] at htyped hilen
    have hsize : (u3PassToHashCall text.typed).ilen.toInt =
        (utf16le text.chars ++ [0, 0]).length := by
      rw [hilen, if_pos (by omega), hencoded, length_widen, List.length_append, htyped,
        List.length_singleton]
      omega
    refine ⟨?_, hsize⟩
    rw [Md5Call.bytes, hsize, Int.toNat_natCast, hencoded, input_of_short (by omega)]
    exact List.take_of_length_le le_rfl

/-- The text of the single character é. -/
def eAcute : PasswordText where
  chars := [Char.ofNat 0xE9]
  noNul := by
    intro char hchar
    rw [List.mem_singleton.mp hchar]
    decide

/-- This text is typed as two bytes, so that three units are hashed for it instead of two. -/
theorem hashes_widened_utf8 :
    (u3PassToHashCall eAcute.typed).bytes = [0xC3, 0x00, 0xA9, 0x00, 0x00, 0x00] ∧
      utf16le eAcute.chars ++ [0, 0] = [0xE9, 0x00, 0x00, 0x00] ∧
      ¬ HashesText eAcute := by
  refine ⟨by decide +kernel, by decide +kernel, fun hhashes ↦ ?_⟩
  exact absurd hhashes.ilen (by decide +kernel)

end U3Tool
