import U3Tool.ImageLoad
import U3Tool.PasswordHash

/-!
# The digest of `md5.c`

The functions of `md5.c` over a context of the C program, for an `unsigned long` of any width the
language allows (`ULong`): the words of the digest and the byte counts are kept in it, and what
stands above their low 32 bits is never cleared. The calls of the macro `P` are data (`RoundCall`),
one list for each of its four expansions.

A context that a function declares and does not initialise is a parameter.
-/

set_option autoImplicit false
set_option relaxedAutoImplicit false

namespace U3Tool

open Bytes

/-! ### Words -/

/-- `unsigned long`, of at least 32 bits. -/
structure ULong where
  width : ℕ
  le_width : 32 ≤ width

/-- A value of type `unsigned long`. -/
abbrev ULong.Word (long : ULong) := BitVec long.width

variable {long : ULong}

/-- The macro `GET_UINT32_LE`. -/
def getUint32Le (b : List UInt8) (i : ℕ) : long.Word :=
  (b.getD i 0).toBitVec.setWidth long.width |||
    (b.getD (i + 1) 0).toBitVec.setWidth long.width <<< 8 |||
    (b.getD (i + 2) 0).toBitVec.setWidth long.width <<< 16 |||
    (b.getD (i + 3) 0).toBitVec.setWidth long.width <<< 24

/-- The bytes the macro `PUT_UINT32_LE` stores. -/
def putUint32Le (n : long.Word) : List UInt8 :=
  [⟨n.setWidth 8⟩, ⟨(n >>> 8).setWidth 8⟩, ⟨(n >>> 16).setWidth 8⟩, ⟨(n >>> 24).setWidth 8⟩]

/-- Four words: `state` of a context, or the variables of `md5_process`. -/
@[ext] structure Registers (long : ULong) where
  A : long.Word
  B : long.Word
  C : long.Word
  D : long.Word

/-- The names of the four variables, as arguments of the macro `P`. -/
inductive Register
  | A | B | C | D
  deriving DecidableEq

namespace Registers

/-- The word in a register. -/
def get (regs : Registers long) : Register → long.Word
  | .A => regs.A
  | .B => regs.B
  | .C => regs.C
  | .D => regs.D

/-- The registers with another word in one of them. -/
def set (regs : Registers long) (register : Register) (word : long.Word) : Registers long :=
  match register with
  | .A => { regs with A := word }
  | .B => { regs with B := word }
  | .C => { regs with C := word }
  | .D => { regs with D := word }

end Registers

/-- `md5_context`. -/
@[ext] structure Md5Context (long : ULong) where
  total0 : long.Word
  total1 : long.Word
  state : Registers long
  buffer : Buffer 64
  ipad : Buffer 64
  opad : Buffer 64

/-- `md5_starts`. -/
def md5Starts (ctx : Md5Context long) : Md5Context long :=
  { ctx with
    total0 := 0
    total1 := 0
    state := ⟨0x67452301#_, 0xEFCDAB89#_, 0x98BADCFE#_, 0x10325476#_⟩ }

/-! ### The rounds -/

/-- The macro `S`. -/
def S (x : long.Word) (n : ℕ) : long.Word := x <<< n ||| (x &&& 0xFFFFFFFF#_) >>> (32 - n)

/-- The arguments of one call of the macro `P`. -/
structure RoundCall where
  a : Register
  b : Register
  c : Register
  d : Register
  k : Fin 16
  s : ℕ
  t : ℕ

/-- The macro `P`, with the macro `F` of its round. -/
def P (F : long.Word → long.Word → long.Word → long.Word) (X : Fin 16 → long.Word)
    (regs : Registers long) (call : RoundCall) : Registers long :=
  let a := regs.get call.a +
    (F (regs.get call.b) (regs.get call.c) (regs.get call.d) + X call.k + BitVec.ofNat _ call.t)
  regs.set call.a (S a call.s + regs.get call.b)

/-- The macro `F` of round one. -/
def F1 (x y z : long.Word) : long.Word := z ^^^ (x &&& (y ^^^ z))

/-- The macro `F` of round two. -/
def F2 (x y z : long.Word) : long.Word := y ^^^ (z &&& (x ^^^ y))

/-- The macro `F` of round three. -/
def F3 (x y z : long.Word) : long.Word := x ^^^ y ^^^ z

/-- The macro `F` of round four. -/
def F4 (x y z : long.Word) : long.Word := y ^^^ (x ||| ~~~z)

/-- The calls of round one. -/
def round1 : List RoundCall :=
  [⟨.A, .B, .C, .D,  0,  7, 0xD76AA478⟩,
   ⟨.D, .A, .B, .C,  1, 12, 0xE8C7B756⟩,
   ⟨.C, .D, .A, .B,  2, 17, 0x242070DB⟩,
   ⟨.B, .C, .D, .A,  3, 22, 0xC1BDCEEE⟩,
   ⟨.A, .B, .C, .D,  4,  7, 0xF57C0FAF⟩,
   ⟨.D, .A, .B, .C,  5, 12, 0x4787C62A⟩,
   ⟨.C, .D, .A, .B,  6, 17, 0xA8304613⟩,
   ⟨.B, .C, .D, .A,  7, 22, 0xFD469501⟩,
   ⟨.A, .B, .C, .D,  8,  7, 0x698098D8⟩,
   ⟨.D, .A, .B, .C,  9, 12, 0x8B44F7AF⟩,
   ⟨.C, .D, .A, .B, 10, 17, 0xFFFF5BB1⟩,
   ⟨.B, .C, .D, .A, 11, 22, 0x895CD7BE⟩,
   ⟨.A, .B, .C, .D, 12,  7, 0x6B901122⟩,
   ⟨.D, .A, .B, .C, 13, 12, 0xFD987193⟩,
   ⟨.C, .D, .A, .B, 14, 17, 0xA679438E⟩,
   ⟨.B, .C, .D, .A, 15, 22, 0x49B40821⟩]

/-- The calls of round two. -/
def round2 : List RoundCall :=
  [⟨.A, .B, .C, .D,  1,  5, 0xF61E2562⟩,
   ⟨.D, .A, .B, .C,  6,  9, 0xC040B340⟩,
   ⟨.C, .D, .A, .B, 11, 14, 0x265E5A51⟩,
   ⟨.B, .C, .D, .A,  0, 20, 0xE9B6C7AA⟩,
   ⟨.A, .B, .C, .D,  5,  5, 0xD62F105D⟩,
   ⟨.D, .A, .B, .C, 10,  9, 0x02441453⟩,
   ⟨.C, .D, .A, .B, 15, 14, 0xD8A1E681⟩,
   ⟨.B, .C, .D, .A,  4, 20, 0xE7D3FBC8⟩,
   ⟨.A, .B, .C, .D,  9,  5, 0x21E1CDE6⟩,
   ⟨.D, .A, .B, .C, 14,  9, 0xC33707D6⟩,
   ⟨.C, .D, .A, .B,  3, 14, 0xF4D50D87⟩,
   ⟨.B, .C, .D, .A,  8, 20, 0x455A14ED⟩,
   ⟨.A, .B, .C, .D, 13,  5, 0xA9E3E905⟩,
   ⟨.D, .A, .B, .C,  2,  9, 0xFCEFA3F8⟩,
   ⟨.C, .D, .A, .B,  7, 14, 0x676F02D9⟩,
   ⟨.B, .C, .D, .A, 12, 20, 0x8D2A4C8A⟩]

/-- The calls of round three. -/
def round3 : List RoundCall :=
  [⟨.A, .B, .C, .D,  5,  4, 0xFFFA3942⟩,
   ⟨.D, .A, .B, .C,  8, 11, 0x8771F681⟩,
   ⟨.C, .D, .A, .B, 11, 16, 0x6D9D6122⟩,
   ⟨.B, .C, .D, .A, 14, 23, 0xFDE5380C⟩,
   ⟨.A, .B, .C, .D,  1,  4, 0xA4BEEA44⟩,
   ⟨.D, .A, .B, .C,  4, 11, 0x4BDECFA9⟩,
   ⟨.C, .D, .A, .B,  7, 16, 0xF6BB4B60⟩,
   ⟨.B, .C, .D, .A, 10, 23, 0xBEBFBC70⟩,
   ⟨.A, .B, .C, .D, 13,  4, 0x289B7EC6⟩,
   ⟨.D, .A, .B, .C,  0, 11, 0xEAA127FA⟩,
   ⟨.C, .D, .A, .B,  3, 16, 0xD4EF3085⟩,
   ⟨.B, .C, .D, .A,  6, 23, 0x04881D05⟩,
   ⟨.A, .B, .C, .D,  9,  4, 0xD9D4D039⟩,
   ⟨.D, .A, .B, .C, 12, 11, 0xE6DB99E5⟩,
   ⟨.C, .D, .A, .B, 15, 16, 0x1FA27CF8⟩,
   ⟨.B, .C, .D, .A,  2, 23, 0xC4AC5665⟩]

/-- The calls of round four. -/
def round4 : List RoundCall :=
  [⟨.A, .B, .C, .D,  0,  6, 0xF4292244⟩,
   ⟨.D, .A, .B, .C,  7, 10, 0x432AFF97⟩,
   ⟨.C, .D, .A, .B, 14, 15, 0xAB9423A7⟩,
   ⟨.B, .C, .D, .A,  5, 21, 0xFC93A039⟩,
   ⟨.A, .B, .C, .D, 12,  6, 0x655B59C3⟩,
   ⟨.D, .A, .B, .C,  3, 10, 0x8F0CCC92⟩,
   ⟨.C, .D, .A, .B, 10, 15, 0xFFEFF47D⟩,
   ⟨.B, .C, .D, .A,  1, 21, 0x85845DD1⟩,
   ⟨.A, .B, .C, .D,  8,  6, 0x6FA87E4F⟩,
   ⟨.D, .A, .B, .C, 15, 10, 0xFE2CE6E0⟩,
   ⟨.C, .D, .A, .B,  6, 15, 0xA3014314⟩,
   ⟨.B, .C, .D, .A, 13, 21, 0x4E0811A1⟩,
   ⟨.A, .B, .C, .D,  4,  6, 0xF7537E82⟩,
   ⟨.D, .A, .B, .C, 11, 10, 0xBD3AF235⟩,
   ⟨.C, .D, .A, .B,  2, 15, 0x2AD7D2BB⟩,
   ⟨.B, .C, .D, .A,  9, 21, 0xEB86D391⟩]

/-- `md5_process`. -/
def md5Process (ctx : Md5Context long) (data : List UInt8) : Md5Context long :=
  let X : Fin 16 → long.Word := fun i ↦ getUint32Le data (4 * i)
  let regs := round1.foldl (P F1 X) ctx.state
  let regs := round2.foldl (P F2 X) regs
  let regs := round3.foldl (P F3 X) regs
  let regs := round4.foldl (P F4 X) regs
  { ctx with state :=
      ⟨ctx.state.A + regs.A, ctx.state.B + regs.B, ctx.state.C + regs.C, ctx.state.D + regs.D⟩ }

/-! ### Buffering -/

/-- The loop of `md5_update` over whole blocks, and the copy of what is left. -/
def md5UpdateLoop (ctx : Md5Context long) (left : ℕ) (input : List UInt8) (ilen : ℕ) :
    Md5Context long :=
  if 64 ≤ ilen then
    md5UpdateLoop (md5Process ctx (input.take 64)) left (input.drop 64) (ilen - 64)
  else if 0 < ilen then
    { ctx with buffer := ctx.buffer.store left (input.take ilen) }
  else ctx
termination_by ilen

/-- The count of `md5_update`, with its carry. -/
def md5Count (ctx : Md5Context long) (ilen : Int32) : Md5Context long :=
  let added : long.Word := ilen.toBitVec.signExtend long.width
  let total0 := (ctx.total0 + added) &&& 0xFFFFFFFF#_
  { ctx with
    total0 := total0
    total1 := if total0 < added then ctx.total1 + 1 else ctx.total1 }

/-- `md5_update`. -/
def md5Update (ctx : Md5Context long) (input : List UInt8) (ilen : Int32) : Md5Context long :=
  if ilen ≤ 0 then ctx
  else
    let left := ctx.total0 &&& 0x3F#_
    let fill : Int32 := ⟨⟨(64#_ - left).setWidth 32⟩⟩
    let ctx := md5Count ctx ilen
    if left ≠ 0 ∧ fill ≤ ilen then
      let ctx := { ctx with
        buffer := ctx.buffer.store left.toNat (input.take fill.toNatClampNeg) }
      let ctx := md5Process ctx ctx.buffer.bytes
      md5UpdateLoop ctx 0 (input.drop fill.toNatClampNeg) (ilen - fill).toNatClampNeg
    else md5UpdateLoop ctx left.toNat input ilen.toNatClampNeg

/-- `md5_padding`. -/
def md5Padding : List UInt8 := 0x80 :: List.replicate 63 0

/-- `md5_finish`: the context it leaves, and the bytes of `output`. -/
def md5Finish (ctx : Md5Context long) : Md5Context long × List UInt8 :=
  let high := ctx.total0 >>> 29 ||| ctx.total1 <<< 3
  let low := ctx.total0 <<< 3
  let msglen := putUint32Le low ++ putUint32Le high
  let last := ctx.total0 &&& 0x3F#_
  let padn := if last < 56#_ then 56#_ - last else 120#_ - last
  let ctx := md5Update ctx md5Padding ⟨⟨padn.setWidth 32⟩⟩
  let ctx := md5Update ctx msglen 8
  (ctx, putUint32Le ctx.state.A ++ putUint32Le ctx.state.B ++ putUint32Le ctx.state.C ++
    putUint32Le ctx.state.D)

/-- `md5`: the bytes of `output`. -/
def md5 (ctx : Md5Context long) (input : List UInt8) (ilen : Int32) : List UInt8 :=
  (md5Finish (md5Update (md5Starts ctx) input ilen)).2

/-! ### Files -/

/-- A read that returns anything leaves less to read. -/
theorem File.remaining_fread_lt_of_pos {file : File} {count : ℕ}
    (hread : 0 < (file.fread count).1.length) :
    (file.fread count).2.remaining < file.remaining := by
  have hlength := file.length_fread count
  have hpos : (file.fread count).2.remaining =
      file.image.readEnd - (file.pos + (file.fread count).1.length) := rfl
  unfold File.remaining at hlength hpos ⊢
  omega

/-- The loop of `md5_file`. -/
def md5FileLoop (ctx : Md5Context long) (file : File) : Md5Context long × File :=
  let read := file.fread 1024
  if 0 < read.1.length then
    md5FileLoop (md5Update ctx read.1 (Int32.ofNat read.1.length)) read.2
  else (ctx, read.2)
termination_by file.remaining
decreasing_by exact File.remaining_fread_lt_of_pos ‹_›

/-- `md5_file`: the result, and the bytes of `output` when they are written. -/
def md5File (ctx : Md5Context long) (image : ImageFile) : ℕ × Option (List UInt8) :=
  if image.openError.isSome then (1, none)
  else
    let looped := md5FileLoop (md5Starts ctx) image.fopen
    let output := (md5Finish looped.1).2
    if looped.2.error then (2, some output) else (0, some output)

/-! ### Keyed digests -/

/-- `md5_hmac_starts`. -/
def md5HmacStarts (ctx : Md5Context long) (key : List UInt8) (keylen : Int32) : Md5Context long :=
  let ctx := { ctx with ipad := .fill 64 0x36, opad := .fill 64 0x5C }
  let ctx := (List.range (min keylen.toNatClampNeg 64)).foldl
    (fun (ctx : Md5Context long) i ↦ { ctx with
      ipad := ctx.ipad.store i [ctx.ipad.byte i ^^^ key.getD i 0]
      opad := ctx.opad.store i [ctx.opad.byte i ^^^ key.getD i 0] }) ctx
  let ctx := md5Starts ctx
  md5Update ctx ctx.ipad.bytes 64

/-- `md5_hmac_update`. -/
def md5HmacUpdate (ctx : Md5Context long) (input : List UInt8) (ilen : Int32) : Md5Context long :=
  md5Update ctx input ilen

/-- `md5_hmac_finish`: the bytes of `output`. -/
def md5HmacFinish (ctx : Md5Context long) : List UInt8 :=
  let finished := md5Finish ctx
  let ctx := md5Starts finished.1
  let ctx := md5Update ctx ctx.opad.bytes 64
  let ctx := md5Update ctx finished.2 16
  (md5Finish ctx).2

/-- `md5_hmac`: the bytes of `output`. -/
def md5Hmac (ctx : Md5Context long) (key : List UInt8) (keylen : Int32) (input : List UInt8)
    (ilen : Int32) : List UInt8 :=
  md5HmacFinish (md5HmacUpdate (md5HmacStarts ctx key keylen) input ilen)

end U3Tool
