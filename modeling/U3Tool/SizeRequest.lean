import U3Tool.Actions
import U3Tool.CommandRuns
import Mathlib.Algebra.Order.Floor.Div

/-!
# The size asked for with `-p`

`main` copies the first 100 characters of the option, `do_partition` reads them with `strtoll`,
divides by the sector size in 64 bits, narrows the quotient to 32 bits and rounds up by an
increment. `toNat_cdSectors` says what comes out: the rounded quotient modulo 2^32. Nothing on the
way refuses a text.

For a text that is wholly a numeral, `doPartition_honours_size_iff` says when the size that reaches
`u3_partition` is the exact one: the number is not negative, it needs fewer than 2^32 sectors, and
the characters that are cut off do not change the number of sectors.
-/

set_option autoImplicit false
set_option relaxedAutoImplicit false

namespace U3Tool

open Interaction Bytes Program

/-! ### The number of sectors -/

/-- The size as `uint64_t`. -/
def requestedBytes (sizeString : List UInt8) : UInt64 := UInt64.ofInt (strtoll sizeString)

/-- The sectors that hold a number of bytes, rounded up. -/
theorem ceilDiv_sectorSize (bytes : ℕ) : bytes ⌈/⌉ sectorSize = (bytes + 511) / 512 :=
  Nat.ceilDiv_eq_add_pred_div bytes 512

/-- `do_partition` rounds the number of bytes up to sectors, modulo 2^32. -/
theorem toNat_cdSectors (sizeString : List UInt8) :
    (cdSectors sizeString).toNat =
      ((requestedBytes sizeString).toNat ⌈/⌉ sectorSize) % 2 ^ 32 := by
  have hcdSectors : cdSectors sizeString =
      if requestedBytes sizeString % 512 ≠ 0 then
        (requestedBytes sizeString / 512).toUInt32 + 1
      else (requestedBytes sizeString / 512).toUInt32 := rfl
  have hrest : requestedBytes sizeString % 512 ≠ 0 ↔
      (requestedBytes sizeString).toNat % 512 ≠ 0 := by
    rw [ne_eq, ← UInt64.toNat_inj]
    simp
  rw [hcdSectors, ceilDiv_sectorSize]
  simp only [hrest]
  split_ifs with hpartial
  · simp only [UInt32.toNat_add, UInt64.toNat_toUInt32, UInt64.toNat_div, UInt64.reduceToNat,
      UInt32.reduceToNat]
    omega
  · simp only [UInt64.toNat_toUInt32, UInt64.toNat_div, UInt64.reduceToNat]
    omega

/-- A numeral that denotes no negative number is taken at its value, up to the largest
`long long`. -/
theorem toNat_requestedBytes {numeral : Numeral} (hvalue : 0 ≤ numeral.value) :
    (requestedBytes numeral.text).toNat = min numeral.value.toNat (2 ^ 63 - 1) := by
  rw [requestedBytes, numeral.strtoll_text, UInt64.ofInt, UInt64.toNat_ofNat', saturate]
  omega

/-- The sectors of a request that is not negative are the exact ones if and only if they can be
counted in 32 bits and what was read denotes as many. -/
theorem cdSectors_eq_iff {numeral read : Numeral} (hread : 0 ≤ read.value)
    (hle : read.value ≤ numeral.value) :
    (cdSectors read.text).toNat = numeral.value.toNat ⌈/⌉ sectorSize ↔
      numeral.value.toNat ⌈/⌉ sectorSize < 2 ^ 32 ∧
        read.value.toNat ⌈/⌉ sectorSize = numeral.value.toNat ⌈/⌉ sectorSize := by
  rw [toNat_cdSectors, toNat_requestedBytes hread]
  simp only [ceilDiv_sectorSize]
  constructor
  · intro heq
    constructor <;> omega
  · rintro ⟨hlt, heq⟩
    omega

/-! ### What `do_partition` sends -/

/-- The size `do_partition` passes to `u3_partition`. -/
def PassesToPartition (sizeString : List UInt8) (cdSize : UInt32) : Prop :=
  ∀ stack, ∃ rest, doPartition sizeString stack = command (u3Partition cdSize stack) >>= rest

/-- The first call of `u3_partition`. -/
def firstPartitionRequest (cdSize : UInt32) : CmdRequest :=
  if cdSize ≠ 0 then partitionRoundRequest .up cdSize else propertyRequest 3 propertyHeaderSize

/-- `u3_partition` begins with a call that tells the size it was given. -/
theorem exists_first_request (cdSize : UInt32) (stack : PartitionStack) :
    ∃ next, u3Partition cdSize stack = .ask (firstPartitionRequest cdSize) next := by
  unfold u3Partition roundCdSize firstPartitionRequest
  by_cases hsome : cdSize ≠ 0
  · rw [if_pos hsome, if_pos hsome]
    exact ⟨_, rfl⟩
  · rw [if_neg hsome, if_neg hsome]
    exact ⟨_, rfl⟩

theorem firstPartitionRequest_inj {cdSize cdSize' : UInt32}
    (heq : firstPartitionRequest cdSize = firstPartitionRequest cdSize') : cdSize = cdSize' := by
  unfold firstPartitionRequest at heq
  split_ifs at heq with hsome hsome' hsome'
  · exact (partitionRoundRequest_inj.mp heq).2
  · exact absurd heq partitionRoundRequest_ne_propertyRequest
  · exact absurd heq.symm partitionRoundRequest_ne_propertyRequest
  · rw [not_not.mp hsome, not_not.mp hsome']

/-- A tool program that begins with `u3_partition` begins with its first call. -/
theorem exists_first_sendCmd {α : Type} (cdSize : UInt32) (stack : PartitionStack)
    (rest : Except ErrMsg Unit → ToolProgram α) :
    ∃ next, command (u3Partition cdSize stack) >>= rest =
      .ask (.sendCmd (firstPartitionRequest cdSize)) next := by
  obtain ⟨next, hnext⟩ := exists_first_request cdSize stack
  rw [hnext]
  exact ⟨_, rfl⟩

/-- The size that reaches `u3_partition` is the one computed from the text. -/
theorem passesToPartition_iff {sizeString : List UInt8} {cdSize : UInt32} :
    PassesToPartition sizeString cdSize ↔ cdSize = cdSectors sizeString := by
  constructor
  · intro hpasses
    let stack : PartitionStack := ⟨.fill 4 0, .fill 39 0, .fill 4 0⟩
    obtain ⟨rest, hrest⟩ := hpasses stack
    obtain ⟨rest', hrest'⟩ : ∃ rest', doPartition sizeString stack =
      command (u3Partition (cdSectors sizeString) stack) >>= rest' := ⟨_, rfl⟩
    obtain ⟨next, hnext⟩ := exists_first_sendCmd cdSize stack rest
    obtain ⟨next', hnext'⟩ := exists_first_sendCmd (cdSectors sizeString) stack rest'
    have hsame := hnext.symm.trans (hrest.symm.trans (hrest'.trans hnext'))
    exact firstPartitionRequest_inj (ToolRequest.sendCmd.inj (Program.ask.inj hsame).1)
  · rintro rfl stack
    exact ⟨_, rfl⟩

/-- `do_partition` honours a numeral given to `-p`: it refuses without sending any command, or the
number is not negative and the size it passes to `u3_partition` is exactly the sectors that hold so
many bytes. -/
def Honours (numeral : Numeral) : Prop :=
  (∀ stack trace result, Run (doPartition (sizeString numeral.text) stack) trace result →
      commands trace = []) ∨
    0 ≤ numeral.value ∧ ∃ cdSize, PassesToPartition (sizeString numeral.text) cdSize ∧
      cdSize.toNat = numeral.value.toNat ⌈/⌉ sectorSize

/-- `do_partition` never refuses: every run of it sends a command. -/
theorem commands_ne_nil_of_run_doPartition {sizeString : List UInt8} {stack : PartitionStack}
    {trace : List (Event Tool)} {result : Except Halt ExitStatus}
    (hrun : Run (doPartition sizeString stack) trace result) : commands trace ≠ [] := by
  obtain ⟨rest, hrest⟩ : ∃ rest, doPartition sizeString stack =
    command (u3Partition (cdSectors sizeString) stack) >>= rest := ⟨_, rfl⟩
  obtain ⟨next, hnext⟩ := exists_first_sendCmd (cdSectors sizeString) stack rest
  rw [hrest, hnext, run_ask] at hrun
  obtain ⟨reply, after, rfl, -⟩ := hrun
  exact List.cons_ne_nil _ _

theorem not_refuses (sizeString : List UInt8) :
    ¬ ∀ stack trace result, Run (doPartition sizeString stack) trace result →
      commands trace = [] := fun hrefuses ↦
  let stack : PartitionStack := ⟨.fill 4 0, .fill 39 0, .fill 4 0⟩
  have hrun := run_exec (acceptAll false) (doPartition sizeString stack) ()
  commands_ne_nil_of_run_doPartition hrun (hrefuses stack _ _ hrun)

/-- For every numeral given to `-p`: `do_partition` honours it if and only if it is not negative, it
needs fewer than 2^32 sectors, and its first 100 characters denote a number that needs as many. -/
theorem doPartition_honours_size_iff (numeral : Numeral) :
    Honours numeral ↔ 0 ≤ numeral.value ∧ numeral.value.toNat ⌈/⌉ sectorSize < 2 ^ 32 ∧
      (numeral.truncate 100 (by decide)).value.toNat ⌈/⌉ sectorSize =
        numeral.value.toNat ⌈/⌉ sectorSize := by
  have hread : sizeString numeral.text = (numeral.truncate 100 (by decide)).text :=
    (numeral.text_truncate _).symm
  simp only [Honours, not_refuses, false_or, passesToPartition_iff, exists_eq_left]
  refine and_congr_right fun hvalue ↦ ?_
  obtain ⟨hnonneg, hle⟩ := numeral.value_truncate (by decide : 4 ≤ 100) hvalue
  rw [hread]
  exact cdSectors_eq_iff hnonneg hle

/-- The numeral `-1`. -/
def minusOne : Numeral where
  sign := .minus
  radix := .decimal
  digits := [49]
  digits_lt := List.forall_mem_singleton.mpr (by decide)
  allowed := ⟨49, [], rfl, by decide⟩

/-- The request `-p -1` reaches the device as a request to remove the CD partition. -/
theorem doPartition_minus_one :
    minusOne.text = ascii "-1" ∧ PassesToPartition (sizeString minusOne.text) 0 ∧
      ¬ Honours minusOne := by
  refine ⟨by decide, passesToPartition_iff.mpr (by decide), ?_⟩
  rintro (hrefuses | ⟨hvalue, -⟩)
  · exact not_refuses _ hrefuses
  · exact absurd hvalue (by decide)

end U3Tool
