import U3Tool.Bytes.Memory
import U3Tool.Bytes.Strtoul
import U3Tool.Posix.Regex
import U3Tool.Scsi

/-!
# Opening a device, `u3_open` of the libusb subsystem

`u3_open` takes a device name apart, looks for a device with a vendor and a product number, and
opens it. It is a program over two kinds of requests: a call of `locate_u3_device`, and the calls of
libusb it makes itself (`Opener`). `locateU3Device` carries out the first over libusb, so that
`openUsb` is the whole function over libusb alone. What `locate_u3_device` returns carries the proof
that it has the numbers asked for (`Located`).
-/

set_option autoImplicit false
set_option relaxedAutoImplicit false

namespace U3Tool

open Interaction Bytes Program

/-! ### Devices -/

/-- `struct usb_interface_descriptor`, with the addresses of its endpoints. -/
structure UsbInterfaceDescriptor where
  bInterfaceNumber : UInt8
  bAlternateSetting : UInt8
  bNumEndpoints : UInt8
  endpoint : ℕ → UInt8

/-- `struct usb_config_descriptor`, with the number of alternate settings of its first interface and
the first of them. -/
structure UsbConfigDescriptor where
  bConfigurationValue : UInt8
  bNumInterfaces : UInt8
  numAltsetting : ℤ
  altsetting : UsbInterfaceDescriptor

/-- `struct usb_device`, with the fields of its descriptor. -/
structure UsbDevice where
  idVendor : UInt16
  idProduct : UInt16
  bNumConfigurations : UInt8
  config : UsbConfigDescriptor

/-- A device with a vendor and a product number. -/
structure Located (vid pid : UInt16) where
  device : UsbDevice
  vendor : device.idVendor = vid
  product : device.idProduct = pid

/-! ### The interfaces -/

/-- A `usb_dev_handle *`: a handle of libusb, or `NULL`. -/
abbrev UsbDevHandle := Option ℕ

/-- A call of libusb in `u3_open` and `locate_u3_device`, and the allocation of the handle. -/
inductive LibusbRequest
  | init
  | setDebug (level : ℤ)
  | findBusses
  | findDevices
  | getBusses
  | malloc
  | open (device : UsbDevice)
  | setConfiguration (handle : UsbDevHandle) (configuration : UInt8)
  | detachKernelDriver (handle : UsbDevHandle) (interface : UInt8)
  | claimInterface (handle : UsbDevHandle) (interface : UInt8)
  | setAltinterface (handle : UsbDevHandle) (alternate : UInt8)
  | releaseInterface (handle : UsbDevHandle) (interface : UInt8)
  | close (handle : UsbDevHandle)

/-- What a call answers: the busses with their devices, whether memory was allocated, the opened
handle or `NULL`, or an error number, for two calls with the text of the error. -/
@[reducible] def LibusbRequest.Reply : LibusbRequest → Type
  | .init => Unit
  | .setDebug _ => Unit
  | .getBusses => List (List UsbDevice)
  | .malloc => Bool
  | .open _ => UsbDevHandle
  | .detachKernelDriver _ _ => ℤ × List UInt8
  | .claimInterface _ _ => ℤ × List UInt8
  | _ => ℤ

/-- The interface of libusb. -/
@[reducible] def Libusb : Interface where
  Request := LibusbRequest
  Reply := LibusbRequest.Reply

/-- A call in `u3_open`: of `locate_u3_device`, or of libusb. -/
inductive OpenRequest
  | locate (vid pid : UInt16)
  | libusb (request : LibusbRequest)

/-- `locate_u3_device` answers a device with the numbers, or `NULL`. -/
@[reducible] def OpenRequest.Reply : OpenRequest → Type
  | .locate vid pid => Option (Located vid pid)
  | .libusb request => request.Reply

/-- The interface of `u3_open`. -/
@[reducible] def Opener : Interface where
  Request := OpenRequest
  Reply := OpenRequest.Reply

/-- Programs over this interface that return a value or `U3_FAILURE`. -/
abbrev OpenProgram (α : Type) := Program Opener ErrMsg α

/-- `locate_u3_device`. -/
def locate (vid pid : UInt16) : OpenProgram (Option (Located vid pid)) :=
  perform (I := Opener) (.locate vid pid)

/-- A call of libusb. -/
def libusb (request : LibusbRequest) : OpenProgram request.Reply :=
  perform (I := Opener) (.libusb request)

/-- `u3_set_error` with a formatted message that is no ASCII text. -/
def setErrorBytes (message : List UInt8) : ErrMsg where
  text := message.take (maxErrorLen - 1)
  length_lt := lt_of_le_of_lt (List.length_take_le _ _) (by decide)

/-! ### Opening a device that was found -/

/-- `struct u3_usb_handle`. -/
structure UsbHandle where
  handle : UsbDevHandle
  interfaceNum : UInt8
  epOut : UInt8
  epIn : UInt8
  deriving DecidableEq

/-- `open_fail`. -/
def openFail {α : Type} (handle : UsbDevHandle) (error : ErrMsg) : OpenProgram α := do
  let _ ← libusb (.close handle)
  .fail error

/-- `claimed_fail`. -/
def claimedFail {α : Type} (handle : UsbDevHandle) (interfaceNum : UInt8) (error : ErrMsg) :
    OpenProgram α := do
  let _ ← libusb (.releaseInterface handle interfaceNum)
  openFail handle error

/-- The end of `u3_open`, from the alternate setting on. -/
def findEndpoints (handle : UsbDevHandle) (interfaceDesc : UsbInterfaceDescriptor) :
    OpenProgram UsbHandle := do
  let interfaceNum := interfaceDesc.bInterfaceNumber
  -- set alt. setting
  let _ ← libusb (.setAltinterface handle interfaceDesc.bAlternateSetting)
  -- find the correct endpoints
  if interfaceDesc.bNumEndpoints ≠ 2 then
    claimedFail handle interfaceNum
      (u3SetError "Not exactly two usb endpoints defined, unsupported.")
  else
    let first := interfaceDesc.endpoint 0
    let second := interfaceDesc.endpoint 1
    let epIn := if first &&& 0x80 ≠ 0 then first else second
    let epOut := if first &&& 0x80 ≠ 0 then second else first
    if (epIn &&& 0x80) ^^^ (epOut &&& 0x80) = 0 then
      claimedFail handle interfaceNum (u3SetError "Both usb endpoints in same direction!")
    else .done ⟨handle, interfaceNum, epOut, epIn⟩

/-- `EBUSY`. -/
def ebusy : ℤ := 16

/-- `u3_open` from the detaching of the kernel driver on. -/
def claimDevice (handle : UsbDevHandle) (interfaceDesc : UsbInterfaceDescriptor) :
    OpenProgram UsbHandle := do
  let interfaceNum := interfaceDesc.bInterfaceNumber
  let (err, strerror) ← libusb (.detachKernelDriver handle interfaceNum)
  if err ≠ 0 ∧ err ≠ -61 then
    openFail handle (setErrorBytes (ascii "failed to detach USB device with " ++ strerror))
  else do
    let (err, usbStrerror) ← libusb (.claimInterface handle interfaceNum)
    if err ≠ 0 then
      if err = -ebusy then
        openFail handle (u3SetError "Failed to claim device: Device is busy")
      else
        openFail handle (setErrorBytes (ascii "Failed to claim device: " ++ usbStrerror))
    else findEndpoints handle interfaceDesc

/-- `u3_open` from `// Open device` on; what `usb_open` returns is not compared with `NULL`. -/
def openDevice (u3Device : UsbDevice) : OpenProgram UsbHandle := do
  let allocated ← libusb .malloc
  if allocated = false then .fail (u3SetError "Failed allocate memory!!")
  else do
    let handle ← libusb (.open u3Device)
    -- set configuration
    if u3Device.bNumConfigurations ≠ 1 then
      openFail handle (u3SetError "Multiple USB configuration not supported")
    else do
      let configDesc := u3Device.config
      let _ ← libusb (.setConfiguration handle configDesc.bConfigurationValue)
      -- claim device
      if configDesc.bNumInterfaces ≠ 1 then
        openFail handle (u3SetError "Multiple USB configuration interfaces not supported")
      else if configDesc.numAltsetting ≠ 1 then
        openFail handle
          (u3SetError "Multiple USB configuration interface  alt. settings not supported")
      else claimDevice handle configDesc.altsetting

/-! ### Finding a device -/

/-- `u3_dev_list`, with the entry that ends it. -/
def u3DevList : List (UInt16 × UInt16) :=
  [(0x08ec, 0x0020), (0x0781, 0x5406), (0x0781, 0x5408), (0x0781, 0x550a), (0x0781, 0x5151),
    (0x0781, 0x540e), (0x0781, 0x5530), (0x0781, 0x5535), (0, 0)]

/-- The numbers in a device name that matches the expression: two calls of `strtoul`, the second
from behind the character at which the first stopped, and both results cut to 16 bits. -/
def vidPid (vidPidRegex : List Regex.Piece) (which : List UInt8) : Option (UInt16 × UInt16) :=
  if Regex.regexec vidPidRegex which then
    let (vid, seperator) := strtoul which
    let (pid, _) := strtoul seperator.tail
    some (vid.toUInt16, pid.toUInt16)
  else none

/-- The loop over `u3_dev_list`. -/
def scan : List (UInt16 × UInt16) → OpenProgram (Option UsbDevice)
  | [] => .done none
  | (vid, pid) :: rest => do
    if vid = 0 ∧ pid = 0 then .done none
    else
      match ← locate vid pid with
      | none => scan rest
      | some located => .done (some located.device)

/-- `u3_open` from `// Find device` to the opening. -/
def findDevice (hasVidPid : Option (UInt16 × UInt16)) (which : List UInt8) :
    OpenProgram UsbDevice := do
  match hasVidPid with
  | some (vid, pid) =>
    match ← locate vid pid with
    | none =>
      .fail (setErrorBytes (ascii "Could not locate the U3 device '" ++ which ++
        ascii "', try 'scan' for first available device"))
    | some located => .done located.device
  | none =>
    if which = ascii "scan" then do
      match ← scan u3DevList with
      | none =>
        .fail (u3SetError "Could not locate any known U3 device, the VID:PID of your device might not be known to U3 tool")
      | some device => .done device
    else
      .fail (setErrorBytes (ascii "Unknown device name '" ++ which ++
        ascii "', try 'scan' for first available device"))

/-- `usb_init`, and the debug level. -/
def initUsb (debug : Bool) : OpenProgram Unit := do
  libusb .init
  if debug then libusb (.setDebug 255) else .done ()

/-- `u3_open`. -/
def u3Open (debug : Bool) (which : CText) : OpenProgram UsbHandle :=
  match Regex.regcomp "[::xdigit::]*:[::xdigit::]*" with
  | none =>
    -- the expression compiles: the text of `regerror` that would follow is left out
    .fail (u3SetError "Failed constructing 'vid:pid' regular expression: ")
  | some vidPidRegex => do
    initUsb debug
    let u3Device ← findDevice (vidPid vidPidRegex which.bytes) which.bytes
    openDevice u3Device

/-! ### Over libusb alone -/

/-- The first device with the numbers. -/
def firstLocated (vid pid : UInt16) : List UsbDevice → Option (Located vid pid)
  | [] => none
  | device :: rest =>
    if h : device.idVendor = vid ∧ device.idProduct = pid then some ⟨device, h.1, h.2⟩
    else firstLocated vid pid rest

/-- `locate_u3_device` over libusb: the busses are scanned again, and their devices compared. -/
def locateU3Device (vid pid : UInt16) : Program Libusb Empty (Option (Located vid pid)) := do
  let _ ← perform (I := Libusb) .findBusses
  let _ ← perform (I := Libusb) .findDevices
  let busses ← perform (I := Libusb) .getBusses
  .done (firstLocated vid pid busses.flatten)

/-- Carries out the requests of `u3_open` over libusb. -/
def overLibusb : (request : OpenRequest) → Program Libusb Empty request.Reply
  | .locate vid pid => locateU3Device vid pid
  | .libusb request => perform (I := Libusb) request

/-- `u3_open` over libusb alone. -/
def openUsb (debug : Bool) (which : CText) : Program Libusb Empty (Except ErrMsg UsbHandle) :=
  (u3Open debug which).interp overLibusb

end U3Tool
