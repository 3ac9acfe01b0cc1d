import U3Tool.Md5Stream

/-!
# Digests of files, keyed digests, and the hash of a password

What the three users of the buffering of `md5.c` compute: `md5_file` the digest of what it can read,
`md5_hmac` the HMAC under the first 64 bytes of its key, and `u3_pass_to_hash` the digest that the
devices compare, of the UTF-16LE encoding of a password and its NUL.
-/

set_option autoImplicit false
set_option relaxedAutoImplicit false

namespace U3Tool

open Bytes Digest

variable {long : ULong}

/-! ### Files -/

/-- What is still to be read of a file. -/
def File.rest (file : File) : List UInt8 :=
  (file.image.content.take file.image.readEnd).drop file.pos

theorem File.fread_fst (file : File) (count : ℕ) : (file.fread count).1 = file.rest.take count :=
  rfl

theorem File.rest_fread (file : File) (count : ℕ) :
    file.rest = (file.fread count).1 ++ (file.fread count).2.rest := by
  have hrest : (file.fread count).2.rest = file.rest.drop (file.rest.take count).length := by
    rw [File.rest, File.rest, List.drop_drop]
    rfl
  conv_lhs => rw [← List.take_append_drop (min count file.rest.length) file.rest]
  rw [← List.take_eq_take_min, hrest, File.fread_fst, List.length_take]

/-- The loop of `md5_file` passes on all that can be read, and ends with the error indicator of the
file. -/
theorem holds_md5FileLoop {ctx : Md5Context long} {message : List UInt8}
    (hholds : Holds ctx message) (file : File) :
    Holds (md5FileLoop ctx file).1 (message ++ file.rest) ∧
      (md5FileLoop ctx file).2.error = (file.error || file.image.failing) := by
  induction hn : file.remaining using Nat.strongRecOn generalizing ctx message file with
  | ind n ih =>
    subst hn
    have hshort := file.length_fread_le 1024
    have herror := file.error_fread 1024
    rw [md5FileLoop]
    split_ifs with hread
    · have hilen : (Int32.ofNat (file.fread 1024).1.length).toNatClampNeg =
          (file.fread 1024).1.length :=
        Int32.toNatClampNeg_ofNat_of_lt (by omega)
      have hupdate := (holds_md5Update hholds hilen.le).1
      rw [hilen, List.take_length] at hupdate
      obtain ⟨hholds', herror'⟩ :=
        ih _ (File.remaining_fread_lt_of_pos hread) hupdate (file.fread 1024).2 rfl
      rw [List.append_assoc, ← file.rest_fread] at hholds'
      refine ⟨hholds', herror'.trans ?_⟩
      rw [herror]
      change (file.error || _ && file.image.failing || file.image.failing) = _
      cases file.image.failing <;> simp
    · have hempty : (file.fread 1024).1 = [] :=
        List.eq_nil_of_length_eq_zero (by omega)
      have hrest : file.rest = [] := by
        rw [File.fread_fst] at hempty
        exact (List.take_eq_nil_iff.mp hempty).resolve_left (by norm_num)
      rw [hrest, List.append_nil]
      refine ⟨hholds, herror.trans ?_⟩
      rw [hempty]
      rfl

/-- `md5_file`: of a file that can be read up to its end it returns zero and the digest, of one that
cannot be opened one and nothing; a read error returns two, with the digest of what came before. -/
theorem md5File_eq (ctx : Md5Context long) (image : ImageFile) :
    md5File ctx image =
      if image.openError.isSome then (1, none)
      else if image.failing then (2, some (Md5.digest (image.content.take image.readEnd)))
      else (0, some (Md5.digest image.content)) := by
  obtain ⟨hholds, herror⟩ := holds_md5FileLoop (holds_md5Starts ctx) image.fopen
  have hrest : image.fopen.rest = image.content.take image.readEnd := List.drop_zero
  have hfailing : (md5FileLoop (md5Starts ctx) image.fopen).2.error = image.failing := herror
  rw [List.nil_append, hrest] at hholds
  simp only [md5File, md5Finish_of_holds hholds, hfailing]
  split_ifs with hopen hread
  · rfl
  · rfl
  · have hall : image.content.take image.readEnd = image.content := by
      rw [image.readEnd_eq (Bool.eq_false_of_not_eq_true hread)]
      exact List.take_length
    rw [hall]

/-! ### Keyed digests -/

/-- A pad after the key has been mixed into its first bytes. -/
def mixKey (key : List UInt8) (count : ℕ) (pad : Buffer 64) : Buffer 64 :=
  (List.range count).foldl (fun pad i ↦ pad.store i [pad.byte i ^^^ key.getD i 0]) pad

theorem mixKey_succ (key : List UInt8) (count : ℕ) (pad : Buffer 64) :
    mixKey key (count + 1) pad = (mixKey key count pad).store count
      [(mixKey key count pad).byte count ^^^ key.getD count 0] := by
  simp only [mixKey, List.range_succ, List.foldl_append, List.foldl_cons, List.foldl_nil]

theorem getElem?_mixKey {key : List UInt8} {count : ℕ} (hcount : count ≤ 64) (value : UInt8)
    (index : ℕ) : (mixKey key count (.fill 64 value)).bytes[index]? =
      if index < count then some (value ^^^ key.getD index 0)
      else (List.replicate 64 value)[index]? := by
  induction count generalizing index with
  | zero => simp [mixKey, Buffer.fill]
  | succ count ih =>
    have hprevious := ih (by omega) index
    have hbyte : (mixKey key count (.fill 64 value)).byte count = value := by
      rw [Buffer.byte, List.getD_eq_getElem?_getD, ih (by omega), if_neg (lt_irrefl count),
        List.getElem?_replicate_of_lt (by omega), Option.getD_some]
    rw [mixKey_succ, hbyte, Buffer.getElem?_bytes_store (by simpa using hcount), hprevious]
    by_cases hindex : index = count
    · subst hindex
      simp
    · have houter : ¬ (count ≤ index ∧ index < count + [value ^^^ key.getD count 0].length) := by
        rw [List.length_singleton]
        omega
      rw [if_neg houter]
      exact if_congr (by omega) rfl rfl

/-- The pad is the block of the key, with every byte mixed. -/
theorem bytes_mixKey {key : List UInt8} {count : ℕ} (hcount : count ≤ 64)
    (hkey : count ≤ key.length) (value : UInt8) :
    (mixKey key count (.fill 64 value)).bytes =
      (key.take count ++ List.replicate (64 - (key.take count).length) 0).map (· ^^^ value) := by
  refine List.ext_getElem? fun index ↦ ?_
  rw [getElem?_mixKey hcount, List.length_take, min_eq_left hkey, List.getElem?_map,
    List.getElem?_append, List.length_take, min_eq_left hkey]
  by_cases hindex : index < count
  · rw [if_pos hindex, if_pos hindex, List.getElem?_take_of_lt hindex,
      List.getD_eq_getElem?_getD, List.getElem?_eq_getElem (by omega), Option.getD_some]
    exact congrArg some (UInt8.xor_comm _ _)
  · rw [if_neg hindex, if_neg hindex, List.getElem?_replicate, List.getElem?_replicate]
    by_cases hinside : index < 64
    · rw [if_pos hinside, if_pos (by omega)]
      simp
    · rw [if_neg hinside, if_neg (by omega)]
      rfl

/-- The block of a key that is cut to 64 bytes. -/
def keyBlock (key : List UInt8) (keylen : Int32) : List UInt8 :=
  let short := key.take (min keylen.toNatClampNeg 64)
  short ++ List.replicate (64 - short.length) 0

/-- A context with the key mixed into its two pads. -/
def keyedPads (ctx : Md5Context long) (key : List UInt8) (keylen : Int32) : Md5Context long :=
  { ctx with
    ipad := mixKey key (min keylen.toNatClampNeg 64) (.fill 64 0x36)
    opad := mixKey key (min keylen.toNatClampNeg 64) (.fill 64 0x5C) }

/-- The loop of `md5_hmac_starts` mixes the key into the two pads side by side. -/
theorem foldl_keyedPads (key : List UInt8) (indices : List ℕ) (ctx : Md5Context long) :
    indices.foldl (fun (ctx : Md5Context long) i ↦ { ctx with
        ipad := ctx.ipad.store i [ctx.ipad.byte i ^^^ key.getD i 0]
        opad := ctx.opad.store i [ctx.opad.byte i ^^^ key.getD i 0] }) ctx =
      { ctx with
        ipad := indices.foldl (fun pad i ↦ pad.store i [pad.byte i ^^^ key.getD i 0]) ctx.ipad
        opad := indices.foldl (fun pad i ↦ pad.store i [pad.byte i ^^^ key.getD i 0])
          ctx.opad } := by
  induction indices generalizing ctx with
  | nil => rfl
  | cons index rest ih =>
    rw [List.foldl_cons, ih]
    rfl

theorem md5HmacStarts_eq (ctx : Md5Context long) (key : List UInt8) (keylen : Int32) :
    md5HmacStarts ctx key keylen = md5Update (md5Starts (keyedPads ctx key keylen))
      (md5Starts (keyedPads ctx key keylen)).ipad.bytes 64 := by
  rw [md5HmacStarts, foldl_keyedPads]
  rfl

/-- The pads hold the block of the key. -/
theorem bytes_keyedPads (ctx : Md5Context long) {key : List UInt8} {keylen : Int32}
    (hkey : keylen.toNatClampNeg ≤ key.length) :
    (keyedPads ctx key keylen).ipad.bytes = (keyBlock key keylen).map (· ^^^ 0x36) ∧
      (keyedPads ctx key keylen).opad.bytes = (keyBlock key keylen).map (· ^^^ 0x5C) :=
  ⟨bytes_mixKey (min_le_right _ _) (le_trans (min_le_left _ _) hkey) _,
    bytes_mixKey (min_le_right _ _) (le_trans (min_le_left _ _) hkey) _⟩

/-- `md5_hmac_starts` begins the inner digest with the inner pad and keeps the outer one. -/
theorem holds_md5HmacStarts (ctx : Md5Context long) {key : List UInt8} {keylen : Int32}
    (hkey : keylen.toNatClampNeg ≤ key.length) :
    Holds (md5HmacStarts ctx key keylen) ((keyBlock key keylen).map (· ^^^ 0x36)) ∧
      (md5HmacStarts ctx key keylen).opad.bytes = (keyBlock key keylen).map (· ^^^ 0x5C) := by
  obtain ⟨hipad, hopad⟩ := bytes_keyedPads ctx hkey
  have hstarts := holds_md5Starts (keyedPads ctx key keylen)
  have hkept : (md5Starts (keyedPads ctx key keylen)).ipad = (keyedPads ctx key keylen).ipad ∧
      (md5Starts (keyedPads ctx key keylen)).opad = (keyedPads ctx key keylen).opad := ⟨rfl, rfl⟩
  rw [md5HmacStarts_eq, hkept.1]
  have h64 : (64 : Int32).toNatClampNeg = (keyedPads ctx key keylen).ipad.bytes.length := by
    rw [Buffer.length_bytes]
    decide
  obtain ⟨hholds, -, hopad'⟩ := holds_md5Update hstarts h64.le
  rw [h64, List.take_length, List.nil_append, hipad] at hholds
  rw [hopad', hkept.2, hipad]
  exact ⟨hholds, hopad⟩

theorem length_digest (message : List UInt8) : (Md5.digest message).length = 16 := by
  simp [Md5.digest, Md5.output]

/-- `md5_hmac_finish` hashes the inner digest behind the outer pad. -/
theorem md5HmacFinish_of_holds {ctx : Md5Context long} {message : List UInt8}
    (hholds : Holds ctx message) :
    md5HmacFinish ctx = Md5.digest (ctx.opad.bytes ++ Md5.digest message) := by
  have hinner := md5Finish_of_holds hholds
  have hopad : (md5Starts (md5Finish ctx).1).opad = ctx.opad := (holds_md5Finish hholds).2
  have h64 : (64 : Int32).toNatClampNeg = (md5Starts (md5Finish ctx).1).opad.bytes.length := by
    rw [Buffer.length_bytes]
    decide
  have h16 : (16 : Int32).toNatClampNeg = (md5Finish ctx).2.length := by
    rw [hinner, length_digest]
    decide
  have houter := (holds_md5Update (holds_md5Starts (md5Finish ctx).1) h64.le).1
  rw [h64, List.take_length, List.nil_append] at houter
  have hboth := (holds_md5Update houter h16.le).1
  rw [h16, List.take_length, hopad, hinner] at hboth
  rw [md5HmacFinish, md5Finish_of_holds]
  rw [hopad, hinner]
  exact hboth

/-- `md5_hmac` is HMAC under the first 64 bytes of the key. -/
theorem md5Hmac_eq (ctx : Md5Context long) {key input : List UInt8} {keylen ilen : Int32}
    (hkey : keylen.toInt ≤ key.length) (hinput : ilen.toInt ≤ input.length) :
    md5Hmac ctx key keylen input ilen = Md5.hmacDigest (key.take (min keylen.toInt.toNat 64))
      (input.take ilen.toInt.toNat) := by
  obtain ⟨hholds, hopad⟩ := holds_md5HmacStarts ctx (Int.toNat_le.mpr hkey)
  obtain ⟨hupdate, -, hopad'⟩ := holds_md5Update hholds (Int.toNat_le.mpr hinput)
  have hshort : (key.take (min keylen.toInt.toNat 64)).length ≤ 64 :=
    (List.length_take_le _ _).trans (min_le_right _ _)
  rw [md5Hmac, md5HmacUpdate, md5HmacFinish_of_holds hupdate, hopad', hopad, Md5.hmacDigest, hmac,
    if_pos hshort]
  rfl

/-- Of a key of 80 bytes the first 64 count. -/
theorem md5Hmac_eq_witness :
    md5Hmac filledContext (List.replicate 80 0xAA) 80 (ascii "ab") 2 =
      Md5.hmacDigest (List.replicate 64 0xAA) (ascii "ab") := by
  have hkey : (List.replicate 80 (0xAA : UInt8)).take (min (80 : Int32).toInt.toNat 64) =
      List.replicate 64 0xAA := by decide +kernel
  have hinput : (ascii "ab").take (2 : Int32).toInt.toNat = ascii "ab" := by decide +kernel
  have hcut : md5Hmac filledContext (List.replicate 80 0xAA) 80 (ascii "ab") 2 = _ :=
    md5Hmac_eq filledContext (by decide +kernel) (by decide +kernel)
  rwa [hkey, hinput] at hcut

/-! ### Passwords -/

/-- `md5` on a whole buffer, as the command layer calls it. -/
def md5Buffer (ctx : Md5Context long) (input : List UInt8) : Buffer 16 where
  bytes := md5 ctx input (Int32.ofNat input.length)
  length_bytes := by
    change (putUint32Le _ ++ putUint32Le _ ++ putUint32Le _ ++ putUint32Le _).length = 16
    simp [putUint32Le]

/-- `md5` on a whole buffer is the digest of the buffer. -/
theorem bytes_md5Buffer (ctx : Md5Context long) {input : List UInt8}
    (hshort : input.length < 2 ^ 31) : (md5Buffer ctx input).bytes = Md5.digest input := by
  have hilen : (Int32.ofNat input.length).toInt = input.length :=
    Int32.toInt_ofNat_of_lt hshort
  have hbytes : (⟨input, Int32.ofNat input.length⟩ : Md5Call).bytes = input := by
    rw [Md5Call.bytes, hilen, Int.toNat_natCast, List.take_length]
  have hdigest := @md5_eq_digest long ctx ⟨input, Int32.ofNat input.length⟩ hilen.le
  rw [hbytes] at hdigest
  exact hdigest

/-- The bytes hashed for an ASCII password are its UTF-16LE encoding and two zero bytes. -/
theorem widen_typed {text : PasswordText} (hascii : ∀ char ∈ text.chars, char.toNat < 128) :
    widen (text.typed.bytes ++ [0]) = utf16le text.chars ++ [0, 0] := by
  rw [widen_append, utf16le_of_ascii hascii]
  rfl

/-- The hash of an ASCII password, as every command that carries one computes it, is the digest of
its UTF-16LE encoding and a NUL. -/
theorem u3PassToHash_eq_digest (ctx : Md5Context long) (text : PasswordText)
    (hascii : ∀ char ∈ text.chars, char.toNat < 128) (hshort : text.chars.length < 2 ^ 30 - 1) :
    (u3PassToHash (md5Buffer ctx) text.typed.bytes).bytes =
      Md5.digest (utf16le text.chars ++ [0, 0]) := by
  have hlength : text.typed.bytes.length + 1 = (text.typed.bytes ++ [0]).length := by simp
  have htyped : text.typed.bytes.length = text.chars.length := length_utf8_of_ascii hascii
  rw [u3PassToHash, hlength, foldl_set_eq_widen, bytes_md5Buffer, widen_typed hascii]
  rw [length_widen, ← hlength, htyped]
  omega

/-- The password `U3`. -/
def shortPassword : PasswordText where
  chars := ['U', '3']
  noNul := by simp

theorem u3PassToHash_eq_digest_witness :
    (u3PassToHash (md5Buffer filledContext) shortPassword.typed.bytes).bytes =
      Md5.digest (utf16le shortPassword.chars ++ [0, 0]) :=
  u3PassToHash_eq_digest filledContext shortPassword (by simp [shortPassword])
    (by simp [shortPassword])

end U3Tool
