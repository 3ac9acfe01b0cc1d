import Mathlib.Analysis.Complex.Trigonometric
import U3Tool.Bytes.Buffer
import U3Tool.Digest.BlockHash

/-!
# The MD5 message digest

MD5 as RFC 1321 states it. A message is padded to whole blocks of 64 bytes with a one bit, zeros and
its length in bits (`padded`). A block is 16 words of 32 bits; 64 steps in four rounds mix them
into four words (`step`), with additive constants that are the integer parts of
`2 ^ 32 * |sin n|` (`sineConstant`). `digest` is the fold of the compression function over the
blocks, written out low byte first.
-/

set_option autoImplicit false
set_option relaxedAutoImplicit false

namespace Digest.Md5

open Bytes

/-- The four words a digest is computed in. -/
@[ext] structure Words where
  A : BitVec 32
  B : BitVec 32
  C : BitVec 32
  D : BitVec 32

/-- The auxiliary functions of the four rounds. -/
def auxiliary (round : ℕ) (x y z : BitVec 32) : BitVec 32 :=
  match round with
  | 0 => (x &&& y) ||| (~~~x &&& z)
  | 1 => (x &&& z) ||| (y &&& ~~~z)
  | 2 => x ^^^ y ^^^ z
  | _ => y ^^^ (x ||| ~~~z)

/-- The word of the block that a step adds. -/
def wordIndex (index : ℕ) : ℕ :=
  match index / 16 with
  | 0 => index % 16
  | 1 => (5 * index + 1) % 16
  | 2 => (3 * index + 5) % 16
  | _ => 7 * index % 16

/-- The number of places a step rotates by. -/
def rotation (index : ℕ) : ℕ :=
  match index / 16, index % 4 with
  | 0, 0 => 7 | 0, 1 => 12 | 0, 2 => 17 | 0, _ => 22
  | 1, 0 => 5 | 1, 1 => 9 | 1, 2 => 14 | 1, _ => 20
  | 2, 0 => 4 | 2, 1 => 11 | 2, 2 => 16 | 2, _ => 23
  | _, 0 => 6 | _, 1 => 10 | _, 2 => 15 | _, _ => 21

/-- The additive constant of a step. -/
noncomputable def sineConstant (index : ℕ) : ℕ := ⌊2 ^ 32 * |Real.sin (index + 1 : ℕ)|⌋₊

/-- One step on the words of a block: the words change places, and one of them is mixed. -/
noncomputable def step (X : ℕ → BitVec 32) (words : Words) (index : ℕ) : Words where
  A := words.D
  B := words.B + (words.A + auxiliary (index / 16) words.B words.C words.D + X (wordIndex index) +
    BitVec.ofNat 32 (sineConstant index)).rotateLeft (rotation index)
  C := words.B
  D := words.C

/-- A word of a block, low byte first. -/
def blockWord (block : List UInt8) (index : ℕ) : BitVec 32 :=
  BitVec.ofNat 32 (leNat ((block.drop (4 * index)).take 4))

/-- Mixes a block into the chaining value. -/
noncomputable def compress (chained : Words) (block : List UInt8) : Words :=
  let mixed := (List.range 64).foldl (step (blockWord block)) chained
  ⟨chained.A + mixed.A, chained.B + mixed.B, chained.C + mixed.C, chained.D + mixed.D⟩

/-- The compression of blocks of 64 bytes. -/
noncomputable def blockFunction : BlockFunction UInt8 Words where
  blockSize := 64
  blockSize_pos := by norm_num
  compress := compress

@[simp] theorem blockSize_blockFunction : blockFunction.blockSize = 64 := rfl

/-- The chaining value before the first block. -/
def initial : Words where
  A := BitVec.ofNat 32 (leNat [0x01, 0x23, 0x45, 0x67])
  B := BitVec.ofNat 32 (leNat [0x89, 0xAB, 0xCD, 0xEF])
  C := BitVec.ofNat 32 (leNat [0xFE, 0xDC, 0xBA, 0x98])
  D := BitVec.ofNat 32 (leNat [0x76, 0x54, 0x32, 0x10])

/-- The padding behind a message of some length: a one bit, zeros up to eight bytes before the end
of a block, and the length in bits. -/
def padding (length : ℕ) : List UInt8 :=
  0x80 :: List.replicate ((119 - length % 64) % 64) 0 ++ leBytes 8 (8 * length)

/-- A message with its padding. -/
def padded (message : List UInt8) : List UInt8 := message ++ padding message.length

/-- A padded message consists of whole blocks. -/
theorem length_padded (message : List UInt8) :
    ∃ count, (padded message).length = count * blockFunction.blockSize := by
  refine ⟨(padded message).length / 64, ?_⟩
  simp only [padded, padding, List.length_append, List.length_cons, List.length_replicate,
    length_leBytes, blockSize_blockFunction]
  omega

/-- The four words, low byte first. -/
def output (words : Words) : List UInt8 :=
  leBytes 4 words.A.toNat ++ leBytes 4 words.B.toNat ++ leBytes 4 words.C.toNat ++
    leBytes 4 words.D.toNat

/-- The digest of a message. -/
noncomputable def digest (message : List UInt8) : List UInt8 :=
  output (blockFunction.chain initial (padded message))

/-- The digest, absorbed: the message is taken up in any way, and its padding behind it. -/
theorem digest_eq_output (message : List UInt8) :
    digest message = output ((BlockFunction.absorb (BlockFunction.absorb
      (blockFunction.start initial) message) (padding message.length)).chained) := by
  obtain ⟨count, hcount⟩ := length_padded message
  rw [← BlockFunction.absorb_append, ← padded, BlockFunction.absorb_eq_start hcount]
  rfl

/-- HMAC over MD5. -/
noncomputable def hmacDigest (key text : List UInt8) : List UInt8 := hmac digest 64 key text

end Digest.Md5
