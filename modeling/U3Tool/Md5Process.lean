import U3Tool.Digest.Rfc1321
import U3Tool.Digest.Sine
import U3Tool.Md5

/-!
# `md5_process` is the compression function of MD5

The code computes in `unsigned long`s and never clears what overflows 32 bits; `low` cuts a word to
the 32 bits that count, and commutes with every operation of the rounds (`low_S` for the rotation).
Where the specification moves four words round in a circle, the code moves the names: `view` reads
the four variables in the order the call of a step names them, and `view_P` is one step.

The 64 calls name the right variables, words and rotations, and their constants are the sines
(`isRound_round1` and its companions).
-/

set_option autoImplicit false
set_option relaxedAutoImplicit false

namespace U3Tool

open Bytes Digest

variable {long : ULong}

/-! ### The low words -/

/-- The 32 bits of a word that count. -/
def low (x : long.Word) : BitVec 32 := x.setWidth 32

theorem low_add (x y : long.Word) : low (x + y) = low x + low y :=
  BitVec.setWidth_add x y long.le_width

@[simp] theorem low_ofNat (n : ℕ) : low (BitVec.ofNat long.width n) = BitVec.ofNat 32 n :=
  BitVec.setWidth_ofNat_of_le long.le_width n

theorem low_F1 (x y z : long.Word) : low (F1 x y z) = Md5.auxiliary 0 (low x) (low y) (low z) := by
  refine BitVec.eq_of_getLsbD_eq fun i hi ↦ ?_
  simp only [low, F1, Md5.auxiliary, BitVec.getLsbD_setWidth, BitVec.getLsbD_xor,
    BitVec.getLsbD_and, BitVec.getLsbD_or, BitVec.getLsbD_not, hi, decide_true, Bool.true_and]
  cases x.getLsbD i <;> cases y.getLsbD i <;> cases z.getLsbD i <;> rfl

theorem low_F2 (x y z : long.Word) : low (F2 x y z) = Md5.auxiliary 1 (low x) (low y) (low z) := by
  refine BitVec.eq_of_getLsbD_eq fun i hi ↦ ?_
  simp only [low, F2, Md5.auxiliary, BitVec.getLsbD_setWidth, BitVec.getLsbD_xor,
    BitVec.getLsbD_and, BitVec.getLsbD_or, BitVec.getLsbD_not, hi, decide_true, Bool.true_and]
  cases x.getLsbD i <;> cases y.getLsbD i <;> cases z.getLsbD i <;> rfl

theorem low_F3 (x y z : long.Word) : low (F3 x y z) = Md5.auxiliary 2 (low x) (low y) (low z) := by
  simp [low, F3, Md5.auxiliary]

theorem low_F4 (x y z : long.Word) : low (F4 x y z) = Md5.auxiliary 3 (low x) (low y) (low z) := by
  simp [low, F4, Md5.auxiliary, BitVec.setWidth_not long.le_width]

/-- The mask keeps the low 32 bits. -/
theorem getLsbD_mask (x : long.Word) (i : ℕ) :
    (x &&& 0xFFFFFFFF#_).getLsbD i = (x.getLsbD i && decide (i < 32)) := by
  have hmask : Nat.testBit 0xFFFFFFFF i = decide (i < 32) := Nat.testBit_two_pow_sub_one 32 i
  have hwidth := long.le_width
  rw [BitVec.getLsbD_and, BitVec.getLsbD_ofNat, hmask]
  by_cases hi : i < long.width
  · simp [hi]
  · simp [hi, BitVec.getLsbD_of_ge x i (by omega)]

/-- The macro `S` rotates the low 32 bits, whatever stands above them. -/
theorem low_S (x : long.Word) {n : ℕ} (hpos : 0 < n) (hn : n < 32) :
    low (S x n) = (low x).rotateLeft n := by
  have hwidth := long.le_width
  refine BitVec.eq_of_getLsbD_eq fun i hi ↦ ?_
  rw [BitVec.getLsbD_rotateLeft, Nat.mod_eq_of_lt hn]
  simp only [low, S, BitVec.getLsbD_setWidth, BitVec.getLsbD_or, BitVec.getLsbD_shiftLeft,
    BitVec.getLsbD_ushiftRight, getLsbD_mask, hi, decide_true, Bool.true_and]
  have hlong : i < long.width := by omega
  by_cases hwrap : i < n
  · -- the bits that come round from the top
    have hfrom : 32 - n + i < 32 := by omega
    simp [hwrap, hlong, hfrom]
  · have hout : ¬ 32 - n + i < 32 := by omega
    have hfrom : i - n < 32 := by omega
    simp [hwrap, hlong, hout, hfrom]

/-! ### Words and bytes -/

/-- `PUT_UINT32_LE` lays out the low 32 bits. -/
theorem putUint32Le_eq (n : long.Word) : putUint32Le n = leBytes 4 (low n).toNat := by
  have hbyte (shift : ℕ) (hshift : shift ≤ 24) : (⟨(n >>> shift).setWidth 8⟩ : UInt8) =
      UInt8.ofNat ((low n).toNat / 2 ^ shift) := by
    refine UInt8.toNat_inj.mp ?_
    rw [UInt8.toNat_ofNat']
    change ((n >>> shift).setWidth 8).toNat = _
    rw [BitVec.toNat_setWidth, BitVec.toNat_ushiftRight, Nat.shiftRight_eq_div_pow, low,
      BitVec.toNat_setWidth]
    obtain ⟨above, habove⟩ : ∃ above, 32 = shift + above := ⟨32 - shift, by omega⟩
    rw [habove, pow_add, Nat.mod_mul_right_div_self, Nat.mod_mod_of_dvd]
    exact (Nat.pow_dvd_pow_iff_le_right (by norm_num)).mpr (by omega)
  have hzero : (⟨n.setWidth 8⟩ : UInt8) = UInt8.ofNat ((low n).toNat / 2 ^ 0) := by
    rw [← hbyte 0 (by norm_num), BitVec.ushiftRight_zero]
  rw [putUint32Le, hzero, hbyte 8 (by norm_num), hbyte 16 (by norm_num), hbyte 24 (by norm_num)]
  simp [leBytes, Nat.div_div_eq_div_mul]

/-- A number from its lowest byte and the rest. -/
theorem ofNat_byte_add (w : ℕ) (byte : UInt8) (rest : ℕ) :
    BitVec.ofNat w (byte.toNat + 256 * rest) =
      byte.toBitVec.setWidth w ||| BitVec.ofNat w rest <<< 8 := by
  refine BitVec.eq_of_getLsbD_eq fun i hi ↦ ?_
  have hbyte : byte.toBitVec.getLsbD i = byte.toNat.testBit i := rfl
  rw [Nat.add_comm, BitVec.getLsbD_ofNat, Nat.testBit_two_pow_mul_add (i := 8) rest byte.toNat_lt]
  simp only [BitVec.getLsbD_or, BitVec.getLsbD_shiftLeft, BitVec.getLsbD_setWidth,
    BitVec.getLsbD_ofNat, hbyte, hi, decide_true, Bool.true_and]
  by_cases hlow : i < 8
  · simp [hlow]
  · have hpow : 2 ^ 8 ≤ 2 ^ i := Nat.pow_le_pow_right (by norm_num) (by omega)
    have hhigh : byte.toNat.testBit i = false :=
      Nat.testBit_lt_two_pow (byte.toNat_lt.trans_le hpow)
    simp [hlow, hhigh]
    omega

/-- Missing bytes count as zeros. -/
theorem leNat_take_four (bytes : List UInt8) : leNat (bytes.take 4) =
    leNat [bytes.getD 0 0, bytes.getD 1 0, bytes.getD 2 0, bytes.getD 3 0] := by
  rcases bytes with _ | ⟨b0, _ | ⟨b1, _ | ⟨b2, _ | ⟨b3, rest⟩⟩⟩⟩ <;> simp [leNat]

/-- `GET_UINT32_LE` reads the number of four bytes. -/
theorem getUint32Le_eq (b : List UInt8) (i : ℕ) :
    (getUint32Le b i : long.Word) = BitVec.ofNat _ (leNat ((b.drop i).take 4)) := by
  have hdrop (k : ℕ) : (b.drop i).getD k 0 = b.getD (i + k) 0 := by
    simp [List.getD_eq_getElem?_getD]
  rw [leNat_take_four, hdrop, hdrop, hdrop, hdrop]
  simp only [leNat, ofNat_byte_add, BitVec.shiftLeft_or_distrib, ← BitVec.shiftLeft_add]
  simp [getUint32Le, BitVec.or_assoc]

/-! ### The calls -/

/-- The variables the call of a step names, in the order of its arguments. -/
def callRegisters (index : ℕ) : Register × Register × Register × Register :=
  match index % 4 with
  | 0 => (.A, .B, .C, .D)
  | 1 => (.D, .A, .B, .C)
  | 2 => (.C, .D, .A, .B)
  | _ => (.B, .C, .D, .A)

/-- The words of the specification before a step, seen in the variables of the code. -/
def view (regs : Registers long) (index : ℕ) : Md5.Words :=
  let (a, b, c, d) := callRegisters index
  ⟨low (regs.get a), low (regs.get b), low (regs.get c), low (regs.get d)⟩

/-- A call carries out a step: it names its variables, its word, its rotation, and the constant is
the sine. -/
structure IsRoundCall (index : ℕ) (call : RoundCall) : Prop where
  registers : (call.a, call.b, call.c, call.d) = callRegisters index
  word : (call.k : ℕ) = Md5.wordIndex index
  rotation : call.s = Md5.rotation index
  constant : call.t = Md5.sineConstant index

/-- What can be computed of it. -/
def CheckCall (index : ℕ) (call : RoundCall) : Prop :=
  (call.a, call.b, call.c, call.d) = callRegisters index ∧ (call.k : ℕ) = Md5.wordIndex index ∧
    call.s = Md5.rotation index ∧ SineWord (index + 1) call.t

instance (index : ℕ) (call : RoundCall) : Decidable (CheckCall index call) :=
  inferInstanceAs (Decidable (_ ∧ _ ∧ _ ∧ _))

theorem CheckCall.isRoundCall {index : ℕ} {call : RoundCall} (hindex : index < 64)
    (hcall : CheckCall index call) : IsRoundCall index call where
  registers := hcall.1
  word := hcall.2.1
  rotation := hcall.2.2.1
  constant := (floor_sin (by omega) hcall.2.2.2).symm

theorem rotation_mem (index : ℕ) : 0 < Md5.rotation index ∧ Md5.rotation index < 32 := by
  unfold Md5.rotation
  split <;> decide

/-- The word a call computes is the word its step mixes. -/
theorem low_mixed {F : long.Word → long.Word → long.Word → long.Word} {X : Fin 16 → long.Word}
    {index : ℕ} {call : RoundCall} (hcall : IsRoundCall index call)
    (hF : ∀ x y z, low (F x y z) = Md5.auxiliary (index / 16) (low x) (low y) (low z))
    {block : List UInt8} (hX : ∀ k : Fin 16, low (X k) = Md5.blockWord block k)
    (a b c d : long.Word) :
    low (S (a + (F b c d + X call.k + BitVec.ofNat _ call.t)) call.s + b) =
      (Md5.step (Md5.blockWord block) ⟨low a, low b, low c, low d⟩ index).B := by
  have hrotation := rotation_mem index
  rw [low_add, hcall.rotation, low_S _ hrotation.1 hrotation.2]
  simp only [low_add, hF, hX, low_ofNat, hcall.word, hcall.constant, Md5.step]
  rw [BitVec.add_comm, BitVec.add_assoc, BitVec.add_assoc, BitVec.add_assoc]

/-- One call is one step. -/
theorem view_P {F : long.Word → long.Word → long.Word → long.Word} {X : Fin 16 → long.Word}
    {index : ℕ} {call : RoundCall} (hcall : IsRoundCall index call)
    (hF : ∀ x y z, low (F x y z) = Md5.auxiliary (index / 16) (low x) (low y) (low z))
    {block : List UInt8} (hX : ∀ k : Fin 16, low (X k) = Md5.blockWord block k)
    (regs : Registers long) :
    view (P F X regs call) (index + 1) =
      Md5.step (Md5.blockWord block) (view regs index) index := by
  have hmixed := low_mixed hcall hF hX (regs.get call.a) (regs.get call.b) (regs.get call.c)
    (regs.get call.d)
  obtain ⟨a, b, c, d, k, s, t⟩ := call
  have hregisters := hcall.registers
  have hmod : index % 4 = 0 ∨ index % 4 = 1 ∨ index % 4 = 2 ∨ index % 4 = 3 := by omega
  rcases hmod with h | h | h | h
  all_goals
    have hnext : (index + 1) % 4 = (index % 4 + 1) % 4 := by omega
    rw [h] at hnext
    simp only [callRegisters, h, Prod.mk.injEq] at hregisters
    obtain ⟨rfl, rfl, rfl, rfl⟩ := hregisters
    simp only [view, callRegisters, h, hnext, P]
    exact Md5.Words.ext rfl hmixed rfl rfl

/-- Every call of a round carries out its step. -/
def IsRound (first : ℕ) (calls : List RoundCall) : Prop :=
  ∀ position (hposition : position < calls.length),
    IsRoundCall (first + position) (calls.get ⟨position, hposition⟩)

/-- The calls of a round are its steps. -/
theorem view_foldl_P {F : long.Word → long.Word → long.Word → long.Word} {X : Fin 16 → long.Word}
    {round : ℕ} {block : List UInt8}
    (hF : ∀ x y z, low (F x y z) = Md5.auxiliary round (low x) (low y) (low z))
    (hX : ∀ k : Fin 16, low (X k) = Md5.blockWord block k) {calls : List RoundCall} {first : ℕ}
    (hcalls : IsRound first calls)
    (hround : ∀ position < calls.length, (first + position) / 16 = round) (regs : Registers long) :
    view (calls.foldl (P F X) regs) (first + calls.length) =
      (List.range' first calls.length).foldl (Md5.step (Md5.blockWord block))
        (view regs first) := by
  induction calls generalizing first regs with
  | nil => rfl
  | cons call rest ih =>
    have hcall : IsRoundCall first call := hcalls 0 (Nat.zero_lt_succ _)
    have hfirst : first / 16 = round := hround 0 (Nat.zero_lt_succ _)
    have hrest : IsRound (first + 1) rest := fun position hposition ↦ by
      rw [Nat.add_assoc, Nat.add_comm 1]
      exact hcalls (position + 1) (Nat.succ_lt_succ hposition)
    have hrounds (position : ℕ) (hposition : position < rest.length) :
        (first + 1 + position) / 16 = round := by
      rw [Nat.add_assoc, Nat.add_comm 1]
      exact hround (position + 1) (Nat.succ_lt_succ hposition)
    rw [List.length_cons, List.range'_succ, List.foldl_cons, List.foldl_cons,
      Nat.add_comm rest.length, ← Nat.add_assoc, ih hrest hrounds,
      view_P hcall (by rw [hfirst]; exact hF) hX]

/-- Calls that are computed to carry out their steps do. -/
theorem isRound_of_check {first : ℕ} {calls : List RoundCall} (hfirst : first + calls.length ≤ 64)
    (hcheck : ∀ position (hposition : position < calls.length),
      CheckCall (first + position) (calls.get ⟨position, hposition⟩)) : IsRound first calls :=
  fun position hposition ↦ (hcheck position hposition).isRoundCall (by omega)

theorem isRound_round1 : IsRound 0 round1 := isRound_of_check (by decide) (by decide +kernel)

theorem isRound_round2 : IsRound 16 round2 := isRound_of_check (by decide) (by decide +kernel)

theorem isRound_round3 : IsRound 32 round3 := isRound_of_check (by decide) (by decide +kernel)

theorem isRound_round4 : IsRound 48 round4 := isRound_of_check (by decide) (by decide +kernel)

/-! ### The block -/

/-- The low words of the state. -/
def lowState (regs : Registers long) : Md5.Words :=
  ⟨low regs.A, low regs.B, low regs.C, low regs.D⟩

/-- A block is mixed into the low words of the state as the specification mixes it in, whatever
stands above them. -/
theorem lowState_md5Process (ctx : Md5Context long) (data : List UInt8) :
    lowState (md5Process ctx data).state = Md5.compress (lowState ctx.state) data := by
  have hX (k : Fin 16) : low (getUint32Le data (4 * k) : long.Word) = Md5.blockWord data k := by
    rw [getUint32Le_eq, low_ofNat, Md5.blockWord]
  have hrange : List.range 64 =
      List.range' 0 16 ++ List.range' 16 16 ++ List.range' 32 16 ++ List.range' 48 16 := rfl
  let step := Md5.step (Md5.blockWord data)
  let X : Fin 16 → long.Word := fun i ↦ getUint32Le data (4 * i)
  let regs1 := round1.foldl (P F1 X) ctx.state
  let regs2 := round2.foldl (P F2 X) regs1
  let regs3 := round3.foldl (P F3 X) regs2
  let regs4 := round4.foldl (P F4 X) regs3
  have hround1 : view regs1 16 = (List.range' 0 16).foldl step (view ctx.state 0) :=
    view_foldl_P low_F1 hX isRound_round1 (by decide) _
  have hround2 : view regs2 32 = (List.range' 16 16).foldl step (view regs1 16) :=
    view_foldl_P low_F2 hX isRound_round2 (by decide) _
  have hround3 : view regs3 48 = (List.range' 32 16).foldl step (view regs2 32) :=
    view_foldl_P low_F3 hX isRound_round3 (by decide) _
  have hround4 : view regs4 64 = (List.range' 48 16).foldl step (view regs3 48) :=
    view_foldl_P low_F4 hX isRound_round4 (by decide) _
  have hmixed : lowState regs4 = (List.range 64).foldl step (lowState ctx.state) := by
    rw [hrange, List.foldl_append, List.foldl_append, List.foldl_append]
    change view regs4 64 = _
    rw [hround4, hround3, hround2, hround1]
    rfl
  have hstate : (md5Process ctx data).state = ⟨ctx.state.A + regs4.A, ctx.state.B + regs4.B,
      ctx.state.C + regs4.C, ctx.state.D + regs4.D⟩ := rfl
  rw [hstate, Md5.compress, ← hmixed]
  simp only [lowState, low_add]

/-- Nothing else in the context changes. -/
theorem md5Process_eq (ctx : Md5Context long) (data : List UInt8) :
    md5Process ctx data = { ctx with state := (md5Process ctx data).state } := rfl

end U3Tool
