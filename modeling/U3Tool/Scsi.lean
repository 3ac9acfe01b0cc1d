import U3Tool.Interaction.Execution
import U3Tool.Bytes.Buffer

/-!
# The device interface

`u3_scsi.h` hides the transport behind one function. A caller of `u3_send_cmd` hands over a 12-byte
command block, the direction and length of the data phase and, for an outgoing data phase, the
data; the subsystem answers `U3_FAILURE`, having left a text in the error buffer of the handle, or
`U3_SUCCESS` with the status byte of the device and, for an incoming data phase, the bytes it put
at the start of the caller's buffer. `Scsi` is this interface. A reply may carry any status and any
number of bytes up to the number asked for, since no subsystem reports how many arrived.

A function that returns `U3_FAILURE` after `u3_set_error` or `u3_prepend_error` is a program that
stops with the text of the error buffer (`ErrMsg`), which never exceeds the 1023 bytes the buffer
has room for.
-/

set_option autoImplicit false
set_option relaxedAutoImplicit false

namespace U3Tool

open Interaction Bytes

/-! ### The error buffer, `u3_error.c` -/

/-- `U3_MAX_ERROR_LEN`, the size of `err_msg`. -/
def maxErrorLen : ℕ := 1024

/-- `U3_SECTOR_SIZE`, the size of one sector. -/
def sectorSize : ℕ := 512

/-- `U3_BLOCK_SIZE`, the size of one block. -/
def blockSize : ℕ := 2048

/-- The text in the error buffer of a handle, without its terminating NUL. -/
@[ext] structure ErrMsg where
  text : List UInt8
  length_lt : text.length < maxErrorLen
  deriving DecidableEq

/-- The bytes of an ASCII text. -/
def ascii (text : String) : List UInt8 := text.toList.map fun char ↦ UInt8.ofNat char.toNat

/-- `printf`'s `%X` with a least number of digits. -/
def upperHex (digits n : ℕ) : String :=
  String.ofList (((Nat.toDigits 16 n).map Char.toUpper).leftpad digits '0')

/-- `u3_set_error` with the formatted message: `vsnprintf` cuts it to the buffer. -/
def u3SetError (message : String) : ErrMsg where
  text := (ascii message).take (maxErrorLen - 1)
  length_lt := by
    rw [List.length_take]
    exact lt_of_le_of_lt (min_le_left _ _) (by decide)

/-- `u3_prepend_error` with the formatted message: the new message, a separator and the old text,
each appended as far as the buffer has room. -/
def u3PrependError (message : String) (old : ErrMsg) : ErrMsg :=
  let start := (ascii message).take (maxErrorLen - 1)
  let separated := start ++ (ascii ": ").take (maxErrorLen - start.length - 1)
  { text := separated ++ old.text.take (maxErrorLen - separated.length - 1)
    length_lt := by
      have hstart : start.length < maxErrorLen := by
        rw [List.length_take]
        exact lt_of_le_of_lt (min_le_left _ _) (by decide)
      have hseparated : separated.length < maxErrorLen := by
        simp only [separated, List.length_append, List.length_take]
        omega
      simp only [List.length_append, List.length_take]
      omega }

/-! ### The interface, `u3_scsi.h` -/

/-- A SCSI command block of `U3_CMD_LEN` bytes. -/
abbrev Cdb := Buffer 12

/-- The direction of the data phase of a command: `U3_DATA_NONE`, `U3_DATA_TO_DEV` or
`U3_DATA_FROM_DEV`. -/
inductive DataDirection
  | none
  | toDev
  | fromDev
  deriving DecidableEq

/-- One call of `u3_send_cmd`: the command block, the direction and length of the data phase, and
the data of an outgoing one. -/
structure CmdRequest where
  cmd : Cdb
  direction : DataDirection
  length : ℕ
  data : List UInt8
  deriving DecidableEq

/-- What `u3_send_cmd` returns: `U3_FAILURE` with a text in the error buffer, or `U3_SUCCESS` with
the status byte and the bytes received. -/
inductive CmdReply
  | failure (error : ErrMsg)
  | success (status : UInt8) (data : List UInt8)
  deriving DecidableEq

/-- The interface of a subsystem. -/
@[reducible] def Scsi : Interface where
  Request := CmdRequest
  Reply := fun _ ↦ CmdReply

/-- Programs over the device interface that return a value or `U3_FAILURE`. -/
abbrev Command (α : Type) := Program Scsi ErrMsg α

/-- `u3_send_cmd`. Its failure is the caller's; on success the caller gets the status byte and the
bytes that arrived, at most as many as were asked for. -/
def u3SendCmd (cmd : Cdb) (direction : DataDirection) (length : ℕ) (data : List UInt8) :
    Command (UInt8 × List UInt8) :=
  .ask ⟨cmd, direction, length, data⟩ fun
    | .failure error => .fail error
    | .success status received => .done (status, received.take length)

/-! ### Commands -/

/-- The command code of a request, bytes 1 and 2 of the command block. -/
def CmdRequest.command (request : CmdRequest) : UInt16 := request.cmd.word16 1

/-- A reply accepts a command when the transport completed and the device returned status 0. -/
def CmdReply.Accepted (reply : CmdReply) : Prop := ∃ data, reply = .success 0 data

instance (reply : CmdReply) : Decidable reply.Accepted :=
  match reply with
  | .failure _ => isFalse fun ⟨_, h⟩ ↦ nomatch h
  | .success status data =>
    if h : status = 0 then isTrue ⟨data, by rw [h]⟩
    else isFalse fun ⟨_, heq⟩ ↦ h (CmdReply.success.inj heq).1

/-- The bytes a reply carries. -/
def CmdReply.data : CmdReply → List UInt8
  | .failure _ => []
  | .success _ data => data

/-- The commands that change the device: reset, repartition, CD write, enable security, unlock,
change password and disable security. -/
def deviceChanging : List UInt16 := [0x101, 0x22, 0x42, 0xA2, 0xA4, 0xA6, 0xA7]

/-- The event is a device-changing command. -/
def Changing (event : Event Scsi) : Prop := event.request.command ∈ deviceChanging

instance : DecidablePred Changing := fun event ↦
  inferInstanceAs (Decidable (event.request.command ∈ deviceChanging))

end U3Tool
