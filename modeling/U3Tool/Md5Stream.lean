import U3Tool.Md5Process

/-!
# `md5.c` computes MD5, however the message is cut

`md5_update` is called with pieces of a message; the context keeps what does not fill a block. A
context holds the message so far (`Holds`): its counts are the length, its words the chaining value
after the whole blocks, and its buffer begins with the rest. `holds_md5Update` is the step, and
`md5Finish_of_holds` says that `md5_finish` then returns the digest. Buffers larger than what is
counted, garbage above the low words and the initial bytes of the context play no part.
-/

set_option autoImplicit false
set_option relaxedAutoImplicit false

namespace U3Tool

open Bytes Digest BlockFunction

variable {long : ULong}

/-! ### Blocks -/

/-- The words and the buffer of a context are those of an absorbed message. -/
structure Synced (ctx : Md5Context long) (absorbed : Md5.blockFunction.Absorbed) : Prop where
  state : lowState ctx.state = absorbed.chained
  pending : ctx.buffer.bytes.take absorbed.pending.length = absorbed.pending

/-- What `md5_update` leaves alone once it has counted. -/
structure SameFrame (ctx ctx' : Md5Context long) : Prop where
  total0 : ctx'.total0 = ctx.total0
  total1 : ctx'.total1 = ctx.total1
  ipad : ctx'.ipad = ctx.ipad
  opad : ctx'.opad = ctx.opad

theorem SameFrame.trans {first second third : Md5Context long} (h : SameFrame first second)
    (h' : SameFrame second third) : SameFrame first third :=
  ⟨h'.total0.trans h.total0, h'.total1.trans h.total1, h'.ipad.trans h.ipad, h'.opad.trans h.opad⟩

theorem sameFrame_md5Process (ctx : Md5Context long) (data : List UInt8) :
    SameFrame ctx (md5Process ctx data) := by
  rw [md5Process_eq]
  exact ⟨rfl, rfl, rfl, rfl⟩

/-- A block that is processed is absorbed. -/
theorem synced_md5Process {ctx : Md5Context long} {absorbed : Md5.blockFunction.Absorbed}
    (hstate : lowState ctx.state = absorbed.chained) {piece : List UInt8}
    (hfull : absorbed.pending.length + piece.length = 64) :
    Synced (md5Process ctx (absorbed.pending ++ piece)) (absorb absorbed piece) := by
  rw [absorb_of_eq hfull]
  exact ⟨by rw [lowState_md5Process, hstate]; rfl, rfl⟩

/-- The loop of `md5_update` absorbs its input. -/
theorem synced_md5UpdateLoop {ctx : Md5Context long} {absorbed : Md5.blockFunction.Absorbed}
    (hsynced : Synced ctx absorbed) {input : List UInt8} {ilen : ℕ} (hilen : ilen ≤ input.length)
    (hleft : absorbed.pending = [] ∨ absorbed.pending.length + ilen < 64) :
    Synced (md5UpdateLoop ctx absorbed.pending.length input ilen)
        (absorb absorbed (input.take ilen)) ∧
      SameFrame ctx (md5UpdateLoop ctx absorbed.pending.length input ilen) := by
  induction hn : ilen using Nat.strongRecOn generalizing ctx absorbed input ilen with
  | ind n ih =>
    subst hn
    rw [md5UpdateLoop]
    split_ifs with hblock hrest
    · have hempty : absorbed.pending = [] := hleft.resolve_right (by omega)
      have hfull : absorbed.pending.length + (input.take 64).length = 64 := by
        rw [hempty, List.length_take, List.length_nil]
        omega
      have hprocess := synced_md5Process hsynced.state hfull
      rw [hempty, List.nil_append] at hprocess
      have hafter : (absorb absorbed (input.take 64)).pending = [] := by
        rw [absorb_of_eq hfull]
        rfl
      have hsplit : input.take ilen = input.take 64 ++ (input.drop 64).take (ilen - 64) := by
        rw [← List.take_add]
        congr 1
        omega
      have hlength : ilen - 64 ≤ (input.drop 64).length := by
        rw [List.length_drop]
        omega
      have hloop := ih (ilen - 64) (by omega) hprocess hlength (.inl hafter) rfl
      rw [hafter] at hloop
      rw [hempty, hsplit, absorb_append]
      exact ⟨hloop.1, (sameFrame_md5Process _ _).trans hloop.2⟩
    · have hopen : absorbed.pending.length + (input.take ilen).length < 64 := by
        rw [List.length_take, min_eq_left hilen]
        rcases hleft with hempty | hlt
        · rw [hempty, List.length_nil]
          omega
        · exact hlt
      have hbuffer := ctx.buffer.take_bytes_store hopen.le
      rw [hsynced.pending, ← List.length_append] at hbuffer
      rw [absorb_of_lt hopen]
      exact ⟨⟨hsynced.state, hbuffer⟩, rfl, rfl, rfl, rfl⟩
    · have hnone : ilen = 0 := by omega
      rw [hnone, List.take_zero, absorb_nil]
      exact ⟨hsynced, rfl, rfl, rfl, rfl⟩

/-! ### Counting -/

/-- A small number as an `unsigned long`. -/
theorem toNat_ofNat_of_lt {n : ℕ} (hn : n < 2 ^ 32) : (BitVec.ofNat long.width n).toNat = n := by
  have hwidth : (2 : ℕ) ^ 32 ≤ 2 ^ long.width := Nat.pow_le_pow_right (by norm_num) long.le_width
  rw [BitVec.toNat_ofNat, Nat.mod_eq_of_lt (by omega)]

/-- The mask cuts a word to 32 bits. -/
theorem toNat_and_mask (x : long.Word) : (x &&& 0xFFFFFFFF#_).toNat = x.toNat % 2 ^ 32 := by
  rw [BitVec.toNat_and, toNat_ofNat_of_lt (by norm_num)]
  exact Nat.and_two_pow_sub_one_eq_mod _ 32

/-- The number of bytes in the open block. -/
theorem toNat_and_63 (x : long.Word) : (x &&& 0x3F#_).toNat = x.toNat % 64 := by
  rw [BitVec.toNat_and, toNat_ofNat_of_lt (by norm_num)]
  exact Nat.and_two_pow_sub_one_eq_mod _ 6

/-- A positive `int` as an `unsigned long`. -/
theorem toNat_signExtend_int {ilen : Int32} (hpos : 0 ≤ ilen) :
    (ilen.toBitVec.signExtend long.width).toNat = ilen.toNatClampNeg := by
  have hwidth : (2 : ℕ) ^ 32 ≤ 2 ^ long.width := Nat.pow_le_pow_right (by norm_num) long.le_width
  have hsmall := ilen.toNatClampNeg_lt
  have htoNat := Int32.toNat_toBitVec_of_le hpos
  have hmsb : ilen.toBitVec.msb = false := by
    rw [BitVec.msb_eq_false_iff_two_mul_lt, htoNat]
    omega
  rw [BitVec.toNat_signExtend, hmsb, BitVec.toNat_setWidth, htoNat, Nat.mod_eq_of_lt (by omega)]
  simp

/-- A small `unsigned long` as an `int`. -/
theorem toNatClampNeg_setWidth {x : long.Word} (hsmall : x.toNat < 2 ^ 31) :
    (⟨⟨x.setWidth 32⟩⟩ : Int32).toNatClampNeg = x.toNat ∧ 0 ≤ (⟨⟨x.setWidth 32⟩⟩ : Int32) := by
  have htoNat : (x.setWidth 32).toNat = x.toNat := by
    rw [BitVec.toNat_setWidth, Nat.mod_eq_of_lt (by omega)]
  have htoInt : (⟨⟨x.setWidth 32⟩⟩ : Int32).toInt = x.toNat := by
    change (x.setWidth 32).toInt = _
    rw [BitVec.toInt_eq_toNat_of_lt (by omega), htoNat]
  constructor
  · rw [← Int32.toNat_toInt, htoInt, Int.toNat_natCast]
  · rw [Int32.le_iff_toInt_le, htoInt]
    exact Int.natCast_nonneg _

/-- The counts of a context are the length of the message. -/
structure Counted (ctx : Md5Context long) (length : ℕ) : Prop where
  total0 : ctx.total0.toNat = length % 2 ^ 32
  total1 : ctx.total1 = BitVec.ofNat long.width (length / 2 ^ 32)

/-- The sum of the counts, as `md5_update` computes it, with its carry. -/
theorem counted_md5Count {ctx : Md5Context long} {length : ℕ} (hcounted : Counted ctx length)
    {ilen : Int32} (hpos : 0 ≤ ilen) :
    Counted (md5Count ctx ilen) (length + ilen.toNatClampNeg) := by
  have hwidth : 2 ^ 32 ∣ 2 ^ long.width := pow_dvd_pow 2 long.le_width
  have hilen := ilen.toNatClampNeg_lt
  have hsum : (md5Count ctx ilen).total0.toNat = (length + ilen.toNatClampNeg) % 2 ^ 32 := by
    rw [md5Count, toNat_and_mask, BitVec.toNat_add, Nat.mod_mod_of_dvd _ hwidth, hcounted.total0,
      toNat_signExtend_int hpos]
    omega
  refine ⟨hsum, ?_⟩
  change (if (md5Count ctx ilen).total0 < _ then ctx.total1 + 1 else ctx.total1) = _
  rw [hcounted.total1]
  split_ifs with hcarry
  · rw [BitVec.lt_def, hsum, toNat_signExtend_int hpos] at hcarry
    have hnext : (length + ilen.toNatClampNeg) / 2 ^ 32 = length / 2 ^ 32 + 1 := by omega
    rw [hnext, BitVec.ofNat_add]
    rfl
  · rw [BitVec.lt_def, hsum, toNat_signExtend_int hpos] at hcarry
    have hsame : (length + ilen.toNatClampNeg) / 2 ^ 32 = length / 2 ^ 32 := by omega
    rw [hsame]

/-! ### Pieces -/

/-- A context holds the part of a message that has been passed to `md5_update`. -/
structure Holds (ctx : Md5Context long) (message : List UInt8) : Prop where
  counted : Counted ctx message.length
  synced : Synced ctx (absorb (Md5.blockFunction.start Md5.initial) message)

/-- `md5_starts` begins the empty message, whatever was in the context. -/
theorem holds_md5Starts (ctx : Md5Context long) : Holds (md5Starts ctx) [] := by
  refine ⟨⟨by simp [md5Starts], by simp [md5Starts]⟩, ?_, rfl⟩
  simp only [md5Starts, lowState, low_ofNat]
  rfl

/-- The number of bytes in the open block of a message. -/
theorem length_pending_of_counted {ctx : Md5Context long} {message : List UInt8}
    (hcounted : Counted ctx message.length) :
    (absorb (Md5.blockFunction.start Md5.initial) message).pending.length =
      (ctx.total0 &&& 0x3F#_).toNat := by
  rw [toNat_and_63, hcounted.total0, length_pending_absorb, Nat.mod_mod_of_dvd _ (by norm_num)]
  simp [start]

/-- The difference of two `int`s in order. -/
theorem toNatClampNeg_sub {first second : Int32} (hpos : 0 ≤ second) (hle : second ≤ first) :
    (first - second).toNatClampNeg = first.toNatClampNeg - second.toNatClampNeg := by
  rw [Int32.le_iff_toInt_le] at hpos hle
  have hfirst := first.toInt_lt
  have hzero : (0 : Int32).toInt = 0 := rfl
  rw [← Int32.toNat_toInt, ← Int32.toNat_toInt, ← Int32.toNat_toInt, Int32.toInt_sub,
    Int.bmod_eq_of_le (by omega) (by omega)]
  omega

/-- An open block that the input completes is filled and processed; the rest goes through the
loop. -/
theorem synced_completed {ctx : Md5Context long} {absorbed : Md5.blockFunction.Absorbed}
    (hsynced : Synced ctx absorbed) {input : List UInt8} {ilen fill : ℕ}
    (hilen : ilen ≤ input.length) (hfill : absorbed.pending.length + fill = 64)
    (hle : fill ≤ ilen) {ctx' : Md5Context long} (hctx' : ctx' = { ctx with
      buffer := ctx.buffer.store absorbed.pending.length (input.take fill) }) :
    let completed := md5UpdateLoop (md5Process ctx' ctx'.buffer.bytes) 0 (input.drop fill)
      (ilen - fill)
    Synced completed (absorb absorbed (input.take ilen)) ∧ SameFrame ctx completed := by
  have hlength : (input.take fill).length = fill := by
    rw [List.length_take]
    omega
  have hfull : absorbed.pending.length + (input.take fill).length = 64 := by rw [hlength, hfill]
  have hbytes : ctx'.buffer.bytes = absorbed.pending ++ input.take fill := by
    have hstore := ctx.buffer.take_bytes_store hfull.le
    rw [hfull, hsynced.pending] at hstore
    rw [hctx', ← hstore]
    exact (List.take_of_length_le (by simp)).symm
  have hframe : SameFrame ctx ctx' := by
    rw [hctx']
    exact ⟨rfl, rfl, rfl, rfl⟩
  have hstate : lowState ctx'.state = absorbed.chained := by
    rw [hctx']
    exact hsynced.state
  have hprocess := synced_md5Process hstate hfull
  rw [← hbytes] at hprocess
  have hafter : (absorb absorbed (input.take fill)).pending = [] := by
    rw [absorb_of_eq hfull]
    rfl
  have hsplit : input.take ilen = input.take fill ++ (input.drop fill).take (ilen - fill) := by
    rw [← List.take_add]
    congr 1
    omega
  have hdrop : ilen - fill ≤ (input.drop fill).length := by
    rw [List.length_drop]
    omega
  have hloop := synced_md5UpdateLoop hprocess hdrop (.inl hafter)
  rw [hafter] at hloop
  rw [hsplit, absorb_append]
  exact ⟨hloop.1, (hframe.trans (sameFrame_md5Process _ _)).trans hloop.2⟩

/-- `md5_update` absorbs what it is given, and keeps the pads. -/
theorem holds_md5Update {ctx : Md5Context long} {message : List UInt8} (hholds : Holds ctx message)
    {input : List UInt8} {ilen : Int32} (hinput : ilen.toNatClampNeg ≤ input.length) :
    Holds (md5Update ctx input ilen) (message ++ input.take ilen.toNatClampNeg) ∧
      (md5Update ctx input ilen).ipad = ctx.ipad ∧ (md5Update ctx input ilen).opad = ctx.opad := by
  by_cases hpos : ilen ≤ 0
  · have hnone : ilen.toNatClampNeg = 0 := by
      rw [← Int32.toNat_toInt]
      exact Int.toNat_of_nonpos (Int32.le_iff_toInt_le.mp hpos)
    rw [md5Update, if_pos hpos, hnone, List.take_zero, List.append_nil]
    exact ⟨hholds, rfl, rfl⟩
  have hnonneg : 0 ≤ ilen := by
    rw [Int32.le_iff_toInt_le] at hpos ⊢
    exact (not_le.mp hpos).le
  have hcounted := counted_md5Count hholds.counted hnonneg
  have hleft := length_pending_of_counted hholds.counted
  have hsynced : Synced (md5Count ctx ilen) _ := ⟨hholds.synced.state, hholds.synced.pending⟩
  suffices hbody : Synced (md5Update ctx input ilen)
      (absorb (absorb (Md5.blockFunction.start Md5.initial) message)
        (input.take ilen.toNatClampNeg)) ∧
      SameFrame (md5Count ctx ilen) (md5Update ctx input ilen) by
    refine ⟨⟨⟨?_, ?_⟩, ?_⟩, hbody.2.ipad, hbody.2.opad⟩
    · rw [hbody.2.total0, hcounted.total0, List.length_append, List.length_take,
        min_eq_left hinput]
    · rw [hbody.2.total1, hcounted.total1, List.length_append, List.length_take,
        min_eq_left hinput]
    · rw [absorb_append]
      exact hbody.1
  generalize absorb (Md5.blockFunction.start Md5.initial) message = absorbed at hleft hsynced ⊢
  have hpending : absorbed.pending.length < 64 := absorbed.pending_lt
  have hfillWord : (64#_ - (ctx.total0 &&& 0x3F#_)).toNat = 64 - absorbed.pending.length := by
    have hword : (64#(long.width)).toNat = 64 := toNat_ofNat_of_lt (by norm_num)
    have hle : ctx.total0 &&& 0x3F#_ ≤ 64#(long.width) := by
      rw [BitVec.le_def, hword, ← hleft]
      omega
    rw [BitVec.toNat_sub_of_le hle, hword, hleft]
  obtain ⟨hfill, hfillNonneg⟩ :=
    toNatClampNeg_setWidth (x := 64#_ - (ctx.total0 &&& 0x3F#_)) (by omega)
  rw [hfillWord] at hfill
  rw [md5Update, if_neg hpos]
  dsimp only
  split_ifs with hcomplete
  · have hle := Int32.le_iff_toInt_le.mp hcomplete.2
    rw [← Int32.cast_toNatClampNeg _ hnonneg, ← Int32.cast_toNatClampNeg _ hfillNonneg,
      hfill] at hle
    rw [toNatClampNeg_sub hfillNonneg hcomplete.2, hfill, ← hleft]
    exact synced_completed hsynced hinput (by omega) (by omega) rfl
  · rw [← hleft]
    refine synced_md5UpdateLoop hsynced hinput ?_
    by_cases hzero : ctx.total0 &&& 0x3F#_ = 0
    · refine .inl (List.eq_nil_of_length_eq_zero ?_)
      rw [hleft, hzero]
      rfl
    · have hopen : ¬ _ ≤ ilen := fun hle ↦ hcomplete ⟨hzero, hle⟩
      rw [Int32.le_iff_toInt_le, ← Int32.cast_toNatClampNeg _ hnonneg,
        ← Int32.cast_toNatClampNeg _ hfillNonneg, hfill] at hopen
      exact .inr (by omega)

/-! ### The digest -/

/-- A number laid out is its low part and its high part laid out. -/
theorem leBytes_add (first second n : ℕ) :
    leBytes (first + second) n = leBytes first n ++ leBytes second (n / 256 ^ first) := by
  induction first generalizing n with
  | zero => simp [leBytes]
  | succ first ih =>
    rw [Nat.succ_add, leBytes, ih, leBytes, List.cons_append, Nat.div_div_eq_div_mul, pow_succ']

/-- Higher bytes are dropped. -/
theorem leBytes_mod (width n : ℕ) : leBytes width (n % 256 ^ width) = leBytes width n := by
  induction width generalizing n with
  | zero => rfl
  | succ width ih =>
    rw [leBytes, leBytes, pow_succ', Nat.mod_mul_right_div_self, ih]
    congr 1
    refine UInt8.toNat_inj.mp ?_
    rw [UInt8.toNat_ofNat', UInt8.toNat_ofNat']
    exact Nat.mod_mod_of_dvd _ (Dvd.intro _ rfl)

/-- The low 32 bits of a word shifted by three places. -/
theorem toNat_low_shiftLeft (x : long.Word) : (low (x <<< 3)).toNat = 8 * x.toNat % 2 ^ 32 := by
  have hwidth : 2 ^ 32 ∣ 2 ^ long.width := pow_dvd_pow 2 long.le_width
  rw [low, BitVec.toNat_setWidth, BitVec.toNat_shiftLeft, Nat.mod_mod_of_dvd _ hwidth,
    Nat.shiftLeft_eq, Nat.mul_comm]

/-- The eight bytes of the length in bits, from the two counts. -/
theorem msglen_eq {ctx : Md5Context long} {length : ℕ} (hcounted : Counted ctx length) :
    putUint32Le (ctx.total0 <<< 3) ++ putUint32Le (ctx.total0 >>> 29 ||| ctx.total1 <<< 3) =
      leBytes 8 (8 * length) := by
  have hwidth : 2 ^ 32 ∣ 2 ^ long.width := pow_dvd_pow 2 long.le_width
  have hlow : (low (ctx.total0 <<< 3)).toNat = 8 * length % 2 ^ 32 := by
    rw [toNat_low_shiftLeft, hcounted.total0]
    omega
  have hcarried : (low (ctx.total0 >>> 29)).toNat = length % 2 ^ 32 / 2 ^ 29 := by
    rw [low, BitVec.toNat_setWidth, BitVec.toNat_ushiftRight, hcounted.total0,
      Nat.shiftRight_eq_div_pow]
    omega
  have htotal1 : (low (ctx.total1 <<< 3)).toNat = 2 ^ 3 * (length / 2 ^ 32 % 2 ^ 29) := by
    have hcut := Nat.mod_mod_of_dvd (length / 2 ^ 32) hwidth
    rw [toNat_low_shiftLeft, hcounted.total1, BitVec.toNat_ofNat]
    omega
  have hhigh : (low (ctx.total0 >>> 29 ||| ctx.total1 <<< 3)).toNat =
      8 * length / 2 ^ 32 % 2 ^ 32 := by
    have hor : low (ctx.total0 >>> 29 ||| ctx.total1 <<< 3) =
        low (ctx.total0 >>> 29) ||| low (ctx.total1 <<< 3) := BitVec.setWidth_or
    rw [hor, BitVec.toNat_or, hcarried, htotal1, Nat.or_comm,
      ← Nat.two_pow_add_eq_or_of_lt (by omega)]
    omega
  rw [putUint32Le_eq, putUint32Le_eq, hlow, hhigh, leBytes_add 4 4]
  exact congrArg₂ _ (leBytes_mod 4 _) (leBytes_mod 4 _)

/-- The bytes of `md5_padding` that `md5_finish` uses, and the length behind them. -/
theorem padding_eq {length padn : ℕ}
    (hpadn : padn = if length % 64 < 56 then 56 - length % 64 else 120 - length % 64) :
    md5Padding.take padn ++ leBytes 8 (8 * length) = Md5.padding length := by
  obtain ⟨zeros, rfl⟩ : ∃ zeros, padn = zeros + 1 := ⟨padn - 1, by split_ifs at hpadn <;> omega⟩
  have hzeros : zeros = (119 - length % 64) % 64 := by split_ifs at hpadn <;> omega
  rw [md5Padding, List.take_succ_cons, List.take_replicate, min_eq_left (by omega), hzeros]
  rfl

/-- The number of bytes of padding, as `md5_finish` computes it. -/
theorem toNat_padn {ctx : Md5Context long} {length : ℕ} (hcounted : Counted ctx length) :
    (if ctx.total0 &&& 0x3F#_ < 56#_ then 56#_ - (ctx.total0 &&& 0x3F#_)
      else 120#_ - (ctx.total0 &&& 0x3F#_)).toNat =
        if length % 64 < 56 then 56 - length % 64 else 120 - length % 64 := by
  have hlast : (ctx.total0 &&& 0x3F#_).toNat = length % 64 := by
    rw [toNat_and_63, hcounted.total0, Nat.mod_mod_of_dvd _ (by norm_num)]
  have h56 : (56#(long.width)).toNat = 56 := toNat_ofNat_of_lt (by norm_num)
  have h120 : (120#(long.width)).toNat = 120 := toNat_ofNat_of_lt (by norm_num)
  have hlt : ctx.total0 &&& 0x3F#_ < 56#(long.width) ↔ length % 64 < 56 := by
    rw [BitVec.lt_def, hlast, h56]
  by_cases hshort : length % 64 < 56
  · rw [if_pos (hlt.mpr hshort), if_pos hshort, BitVec.toNat_sub_of_le, hlast, h56]
    rw [BitVec.le_def, hlast, h56]
    omega
  · rw [if_neg (mt hlt.mp hshort), if_neg hshort, BitVec.toNat_sub_of_le, hlast, h120]
    rw [BitVec.le_def, hlast, h120]
    omega

/-- `md5_finish` writes out the words of the context it leaves. -/
theorem output_md5Finish (ctx : Md5Context long) :
    (md5Finish ctx).2 = Md5.output (lowState (md5Finish ctx).1.state) := by
  unfold md5Finish
  simp only [putUint32Le_eq]
  rfl

/-- `md5_finish` passes the padding and the length to `md5_update`. -/
theorem holds_md5Finish {ctx : Md5Context long} {message : List UInt8}
    (hholds : Holds ctx message) :
    Holds (md5Finish ctx).1 (message ++ Md5.padding message.length) ∧
      (md5Finish ctx).1.opad = ctx.opad := by
  have hpadn := toNat_padn hholds.counted
  have hmsglen := msglen_eq hholds.counted
  unfold md5Finish
  dsimp only
  generalize (if ctx.total0 &&& 0x3F#_ < 56#_ then 56#_ - (ctx.total0 &&& 0x3F#_)
    else 120#_ - (ctx.total0 &&& 0x3F#_)) = padn at hpadn ⊢
  rw [hmsglen]
  have hsmall : padn.toNat ≤ 64 := by
    rw [hpadn]
    split_ifs <;> omega
  obtain ⟨hint, -⟩ := toNatClampNeg_setWidth (by omega : padn.toNat < 2 ^ 31)
  have hroom : (⟨⟨padn.setWidth 32⟩⟩ : Int32).toNatClampNeg ≤ md5Padding.length := by
    rw [hint]
    exact hsmall
  obtain ⟨hpadded, -, hopad⟩ := holds_md5Update hholds hroom
  have height : (8 : Int32).toNatClampNeg = 8 := by decide
  have hlength : (leBytes 8 (8 * message.length)).length = 8 := length_leBytes _ _
  obtain ⟨hfinal, -, hopad'⟩ := holds_md5Update hpadded (height.trans hlength.symm).le
  rw [height, List.take_of_length_le hlength.le, List.append_assoc, hint, padding_eq hpadn]
    at hfinal
  exact ⟨hfinal, hopad'.trans hopad⟩

/-- The digest of the message a context holds. -/
theorem md5Finish_of_holds {ctx : Md5Context long} {message : List UInt8}
    (hholds : Holds ctx message) : (md5Finish ctx).2 = Md5.digest message := by
  rw [output_md5Finish, Md5.digest_eq_output, ← absorb_append,
    ← (holds_md5Finish hholds).1.synced.state]

/-- However a message is cut into calls of `md5_update`, the digest is that of the message: for any
`unsigned long`, any initial bytes of the context, and buffers no smaller than the lengths. -/
theorem md5Finish_md5Update (ctx : Md5Context long) (pieces : List Md5Call)
    (hpieces : ∀ piece ∈ pieces, piece.ilen.toInt ≤ piece.input.length) :
    (md5Finish (pieces.foldl (fun ctx piece ↦ md5Update ctx piece.input piece.ilen)
      (md5Starts ctx))).2 = Md5.digest (pieces.flatMap Md5Call.bytes) := by
  suffices hrun : ∀ (ctx : Md5Context long) (message : List UInt8), Holds ctx message →
      Holds (pieces.foldl (fun ctx piece ↦ md5Update ctx piece.input piece.ilen) ctx)
        (message ++ pieces.flatMap Md5Call.bytes) from
    md5Finish_of_holds (hrun _ [] (holds_md5Starts ctx))
  induction pieces with
  | nil =>
    intro ctx message hholds
    simpa using hholds
  | cons piece rest ih =>
    intro ctx message hholds
    have hpiece : piece.ilen.toNatClampNeg ≤ piece.input.length :=
      Int.toNat_le.mpr (hpieces piece (List.mem_cons_self ..))
    have hrest := ih (fun other hother ↦ hpieces other (List.mem_cons_of_mem _ hother)) _ _
      (holds_md5Update hholds hpiece).1
    rw [List.foldl_cons, List.flatMap_cons, ← List.append_assoc]
    exact hrest

/-- A context whose bytes are all set, for an `unsigned long` of 64 bits. -/
def filledContext : Md5Context ⟨64, by decide⟩ :=
  ⟨-1, -1, ⟨-1, -1, -1, -1⟩, .fill 64 0xFF, .fill 64 0xFF, .fill 64 0xFF⟩

/-- The message `abc` in two pieces, the second of which is read in part. -/
def abcPieces : List Md5Call := [⟨ascii "ab", 2⟩, ⟨ascii "cd", 1⟩]

theorem md5Finish_md5Update_witness :
    (md5Finish (abcPieces.foldl (fun ctx piece ↦ md5Update ctx piece.input piece.ilen)
      (md5Starts filledContext))).2 = Md5.digest (abcPieces.flatMap Md5Call.bytes) :=
  md5Finish_md5Update filledContext abcPieces (by decide)

/-- `md5` computes the digest of the bytes it is told to read. -/
theorem md5_eq_digest (ctx : Md5Context long) {call : Md5Call}
    (hcall : call.ilen.toInt ≤ call.input.length) :
    md5 ctx call.input call.ilen = Md5.digest call.bytes := by
  have h := holds_md5Update (holds_md5Starts ctx) (Int.toNat_le.mpr hcall)
  exact md5Finish_of_holds h.1

end U3Tool
