import U3Tool.Scsi

/-!
# The USB subsystem, `u3_scsi_usb.c`

`u3_send_cmd` of the libusb subsystem as a program over two requests, `usb_bulk_write` and
`usb_bulk_read`. A write answers the number of bytes written or a negative error; a read answers the
bytes received, at most as many as were asked for, or nothing for a negative error. A failed
assertion ends the whole program (`Abort`).

A command travels as a 31-byte command block wrapper, an optional data phase and a 13-byte command
status wrapper, whose tag is compared with the tag of the command. The tag is a local variable that
is initialized with 1 in every call; its increment before the return has no effect.
-/

set_option autoImplicit false
set_option relaxedAutoImplicit false

namespace U3Tool

open Interaction Bytes Program

/-! ### The interface of libusb -/

/-- A call of libusb on the two endpoints of the device. -/
inductive UsbRequest
  | bulkWrite (data : List UInt8)
  | bulkRead (size : ℕ)
  deriving DecidableEq

/-- What libusb answers: for a write the count or a negative error, for a read the bytes, or nothing
for a negative error. -/
@[reducible] def UsbRequest.Reply : UsbRequest → Type
  | .bulkWrite _ => ℤ
  | .bulkRead _ => Option (List UInt8)

/-- The interface of libusb. -/
@[reducible] def Usb : Interface where
  Request := UsbRequest
  Reply := UsbRequest.Reply

/-- How a program over libusb stops without returning: an assertion failed. -/
inductive Abort
  | assertion
  deriving DecidableEq

/-- Programs over the interface of libusb. -/
abbrev UsbProgram (α : Type) := Program Usb Abort α

/-- `usb_bulk_write`. -/
def bulkWrite (data : List UInt8) : UsbProgram ℤ := perform (I := Usb) (.bulkWrite data)

/-- `usb_bulk_read`, which receives no more bytes than it is asked for. -/
def bulkRead (size : ℕ) : UsbProgram (Option (List UInt8)) := do
  let received ← perform (I := Usb) (.bulkRead size)
  .done (received.map fun bytes ↦ bytes.take size)

section Transfers

variable {σ α : Type} {env : Surroundings Usb σ} {state next : σ}

/-- A sequence that begins with a write continues with its count. -/
theorem exec_bulkWrite {data : List UInt8} {res : ℤ}
    (hdevice : env state (.bulkWrite data) = (res, next)) (continuation : ℤ → UsbProgram α) :
    exec env (bulkWrite data >>= continuation) state =
      ⟨(exec env (continuation res) next).result,
        ⟨.bulkWrite data, res⟩ :: (exec env (continuation res) next).trace,
        (exec env (continuation res) next).final⟩ := by
  change exec env (.ask (I := Usb) (.bulkWrite data) fun res ↦ continuation res) state = _
  rw [exec_ask, hdevice]

/-- A sequence that begins with a read continues with what was received. -/
theorem exec_bulkRead {size : ℕ} {received : Option (List UInt8)}
    (hdevice : env state (.bulkRead size) = (received, next))
    (continuation : Option (List UInt8) → UsbProgram α) :
    exec env (bulkRead size >>= continuation) state =
      ⟨(exec env (continuation (received.map fun bytes ↦ bytes.take size)) next).result,
        ⟨.bulkRead size, received⟩ ::
          (exec env (continuation (received.map fun bytes ↦ bytes.take size)) next).trace,
        (exec env (continuation (received.map fun bytes ↦ bytes.take size)) next).final⟩ := by
  change exec env (.ask (I := Usb) (.bulkRead size) fun received ↦
    continuation (received.map fun bytes ↦ bytes.take size)) state = _
  rw [exec_ask, hdevice]

end Transfers

/-! ### Wrappers -/

/-- `USB_MAX_PACKET_LEN`. -/
def usbMaxPacketLen : ℕ := 2048

/-- The length of the data phase as `u3_send_cmd` corrects it. -/
def CmdRequest.dxferLength (request : CmdRequest) : ℕ :=
  match request.direction with
  | .none => 0
  | _ => request.length

/-- `bmCBWFlags`. -/
def CmdRequest.flags (request : CmdRequest) : UInt8 :=
  match request.direction with
  | .fromDev => 0x80
  | _ => 0x00

/-- The tag of every command. -/
def cbwTag : UInt32 := 1

/-- The command block wrapper: signature, tag, transfer length, flags, logical unit 1 and the
command block of 12 bytes in a field of 16. -/
def cbw (request : CmdRequest) : List UInt8 :=
  ascii "USBC" ++ (leBytes 4 cbwTag.toNat ++ (leBytes 4 request.dxferLength ++
    ([request.flags, 1, 12] ++ (request.cmd.bytes ++ [0, 0, 0, 0]))))

theorem length_cbw (request : CmdRequest) : (cbw request).length = 31 := by
  simp [cbw, ascii]

/-- `dCSWTag` of a received command status wrapper. -/
def cswTag (csw : Buffer 13) : UInt32 := csw.word32 4

/-- `bCSWStatus` of a received command status wrapper. -/
def cswStatus (csw : Buffer 13) : UInt8 := (csw.slice 12 1).headD 0

/-! ### `u3_send_cmd` -/

/-- The text of a failure. -/
def usbError (cause : String) : ErrMsg :=
  u3SetError s!"Failed executing scsi command: {cause}"

/-- The loop of the outgoing data phase from `bytesSend` on; false when a write failed. A write that
accepts fewer bytes than it was offered counts as complete. -/
def writeData (data : List UInt8) (dxferLength bytesSend : ℕ) : UsbProgram Bool := do
  if bytesSend < dxferLength then do
    let plen := min (dxferLength - bytesSend) usbMaxPacketLen
    let res ← bulkWrite ((data.drop bytesSend).take plen)
    if res < 0 then .done false
    else writeData data dxferLength (bytesSend + plen)
  else
    .done true
termination_by dxferLength - bytesSend
decreasing_by
  simp only [usbMaxPacketLen]
  omega

/-- The end of `u3_send_cmd`: the status of the command is read and its tag checked. -/
def readStatus (received : List UInt8) : UsbProgram CmdReply := do
  match ← bulkRead 13 with
  | none => .done (.failure (usbError "Could not read command status from device"))
  | some bytes =>
    let csw := (Buffer.fill 13 0).store 0 bytes
    if cswTag csw ≠ cbwTag then .fail .assertion
    else .done (.success (cswStatus csw) received)

/-- The incoming data phase and what follows it. -/
def readData (dxferLength : ℕ) : UsbProgram CmdReply := do
  match ← bulkRead dxferLength with
  | none => .done (.failure (usbError "Could not read data from device"))
  | some received => readStatus received

/-- `u3_send_cmd` over USB. -/
def usbSendCmd (request : CmdRequest) : UsbProgram CmdReply := do
  -- send command
  let res ← bulkWrite (cbw request)
  if res ≠ 31 then
    .done (.failure (usbError "Could not write command block to device"))
  else
    -- read/write extra command data
    match request.direction with
    | .fromDev => readData request.dxferLength
    | _ => do
      let written ← writeData request.data request.dxferLength 0
      if written then readStatus []
      else .done (.failure (usbError "Could not write data to device"))

/-- A call without an incoming data phase. -/
theorem usbSendCmd_of_ne {request : CmdRequest} (hdirection : request.direction ≠ .fromDev) :
    usbSendCmd request = bulkWrite (cbw request) >>= fun res ↦
      if res ≠ 31 then
        .done (.failure (usbError "Could not write command block to device"))
      else
        writeData request.data request.dxferLength 0 >>= fun written ↦
          if written then readStatus []
          else .done (.failure (usbError "Could not write data to device")) := by
  rw [usbSendCmd]
  cases hcase : request.direction with
  | none => rfl
  | toDev => rfl
  | fromDev => exact absurd hcase hdirection

/-- A call with an incoming data phase. -/
theorem usbSendCmd_of_eq {request : CmdRequest} (hdirection : request.direction = .fromDev) :
    usbSendCmd request = bulkWrite (cbw request) >>= fun res ↦
      if res ≠ 31 then
        .done (.failure (usbError "Could not write command block to device"))
      else
        readData request.dxferLength := by
  simp only [usbSendCmd, hdirection]

end U3Tool
