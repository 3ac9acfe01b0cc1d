import U3Tool.Transparency
import U3Tool.UsbPipe
import U3Tool.UsbWire

/-!
# A device behind the bulk-only transport

The other end of the USB cable: a device receives a command block wrapper, takes in the data phase
the wrapper announces or offers the data of an incoming one, executes the command, and offers the
command status wrapper (`bulkOnly`). It knows the bytes on its endpoints and nothing of the program;
what it executes is what it decoded.

Over a bus with such a device the libusb subsystem is transparent (`transparent_usb`). So, once
`u3_open` has found the device, the whole program does to it, through the bytes of wrappers and
packets, what `main` does to the device directly (`exec_usb_mainOn`).
-/

set_option autoImplicit false
set_option relaxedAutoImplicit false

namespace U3Tool

open Interaction Bytes Program

variable {ρ σ : Type}

/-! ### The device -/

/-- What a device does next: it waits for a wrapper, takes in the data phase of one, offers data and
then the status wrapper, or offers the status wrapper. -/
inductive BulkPhase
  | ready
  | receiving (wrapper : CommandBlockWrapper) (received : List UInt8)
  | sending (data csw : List UInt8)
  | reporting (csw : List UInt8)

/-- A device with its phase. -/
structure BulkOnly (σ : Type) where
  state : σ
  phase : BulkPhase

/-- The command of a wrapper with the data of its data phase. -/
def CommandBlockWrapper.request (wrapper : CommandBlockWrapper) (data : List UInt8) : CmdRequest :=
  ⟨wrapper.cmd, wrapper.direction, wrapper.transferLength.toNat, data⟩

/-- The command status wrapper of an executed command. -/
def CommandBlockWrapper.csw (wrapper : CommandBlockWrapper) (passed : Bool) : List UInt8 :=
  (Production.mk [] 0 (statusOf passed)).csw wrapper.tag

/-- A device executes the command of a wrapper, and offers what it owes for it. -/
def BulkOnly.execute (dev : DeviceModel σ) (state : σ) (wrapper : CommandBlockWrapper)
    (data : List UInt8) : BulkOnly σ :=
  let answer := dev state (wrapper.request data)
  let csw := wrapper.csw answer.1.1
  match wrapper.direction with
  | .fromDev => ⟨answer.2, .sending answer.1.2 csw⟩
  | _ => ⟨answer.2, .reporting csw⟩

/-- A device takes in a part of an outgoing data phase, and executes the command when it has the
whole of it. -/
def BulkOnly.receive (dev : DeviceModel σ) (state : σ) (wrapper : CommandBlockWrapper)
    (received : List UInt8) : BulkOnly σ :=
  if received.length < wrapper.transferLength.toNat then ⟨state, .receiving wrapper received⟩
  else .execute dev state wrapper received

/-- The device on its two endpoints; a transfer it does not expect fails. -/
def bulkOnly (dev : DeviceModel σ) : Surroundings Usb (BulkOnly σ)
  | ⟨state, .ready⟩, .bulkWrite bytes =>
    match decodeCbw bytes with
    | none => (-1, ⟨state, .ready⟩)
    | some wrapper =>
      (bytes.length, if wrapper.direction = .toDev then .receive dev state wrapper []
        else .execute dev state wrapper [])
  | ⟨state, .receiving wrapper received⟩, .bulkWrite bytes =>
    (bytes.length, .receive dev state wrapper (received ++ bytes))
  | ⟨state, .sending data csw⟩, .bulkRead size =>
    (some (data.take size), ⟨state, .reporting csw⟩)
  | ⟨state, .reporting csw⟩, .bulkRead size => (some (csw.take size), ⟨state, .ready⟩)
  | device, .bulkWrite _ => (-1, device)
  | device, .bulkRead _ => (none, device)

/-! ### One call -/

/-- The wrapper of a call: it is decoded, and with the data it is the call again. -/
structure Wraps (wrapper : CommandBlockWrapper) (request : CmdRequest) : Prop where
  decoded : decodeCbw (cbw request) = some wrapper
  tag : wrapper.tag = cbwTag
  direction : wrapper.direction = request.direction
  length : wrapper.transferLength.toNat = request.length
  request_eq : wrapper.request request.data = request

theorem exists_wraps {request : CmdRequest} (hphase : request.HasDataPhase) :
    ∃ wrapper, Wraps wrapper request := by
  obtain ⟨wrapper, hdecoded, hcmd, hlength, hdirection⟩ := decodeCbw_of_hasDataPhase hphase
  have hwrapper := Option.some.inj ((decodeCbw_cbw request).symm.trans hdecoded)
  have hnat : wrapper.transferLength.toNat = request.length := by
    rw [hlength, UInt32.toNat_ofNat', Nat.mod_eq_of_lt hphase.length_lt]
  refine ⟨wrapper, hdecoded, by rw [← hwrapper], hdirection, hnat, ?_⟩
  rw [CommandBlockWrapper.request, hcmd, hdirection, hnat]

section Call

variable (dev : DeviceModel σ) (state : σ) {wrapper : CommandBlockWrapper} {request : CmdRequest}

/-- The status wrapper of a command is read back. -/
theorem exec_readStatus_reporting (htag : wrapper.tag = cbwTag) (passed : Bool)
    (received : List UInt8) :
    let execution := exec (bulkOnly dev) (readStatus received)
      ⟨state, .reporting (wrapper.csw passed)⟩
    execution.result = .ok (.success (statusOf passed) received) ∧
      execution.final = ⟨state, .ready⟩ := by
  have htake : (wrapper.csw passed).take 13 = wrapper.csw passed :=
    List.take_of_length_le (length_csw _ _).le
  have hread : bulkOnly dev ⟨state, .reporting (wrapper.csw passed)⟩ (.bulkRead 13) =
      (some (wrapper.csw passed), ⟨state, .ready⟩) := by
    simp only [bulkOnly, htake]
  have hcswTag : cswTag ((Buffer.fill 13 0).store 0 (wrapper.csw passed)) = cbwTag :=
    (cswTag_csw _ _).trans htag
  have hcswStatus : cswStatus ((Buffer.fill 13 0).store 0 (wrapper.csw passed)) =
      statusOf passed := cswStatus_csw _ _
  rw [readStatus, exec_bulkRead hread]
  simp only [Option.map_some, htake]
  rw [if_neg (not_not_intro hcswTag), hcswStatus]
  exact ⟨rfl, rfl⟩

/-- A call with an incoming data phase: the device executes the command, and its data and its status
are read. -/
theorem exec_readData_execute (hwraps : Wraps wrapper request)
    (hfrom : request.direction = .fromDev) (hdata : request.data = []) :
    let execution := exec (bulkOnly dev) (readData request.dxferLength)
      (.execute dev state wrapper [])
    execution.result = .ok (answering dev state request).1 ∧
      execution.final = ⟨(answering dev state request).2, .ready⟩ := by
  have hrequest : wrapper.request [] = request := hdata ▸ hwraps.request_eq
  have hlength : request.dxferLength = request.length := by simp [CmdRequest.dxferLength, hfrom]
  have hexecute : BulkOnly.execute dev state wrapper [] = ⟨(dev state request).2,
      .sending (dev state request).1.2 (wrapper.csw (dev state request).1.1)⟩ := by
    simp only [BulkOnly.execute, hwraps.direction, hfrom, hrequest]
  have hread : bulkOnly dev (.execute dev state wrapper []) (.bulkRead request.dxferLength) =
      (some ((dev state request).1.2.take request.length),
        ⟨(dev state request).2, .reporting (wrapper.csw (dev state request).1.1)⟩) := by
    rw [hexecute, hlength]
    rfl
  have hincoming : request.incoming (dev state request).1.2 =
      (dev state request).1.2.take request.length := by simp only [CmdRequest.incoming, hfrom]
  rw [readData, exec_bulkRead hread]
  simp only [Option.map_some, hlength, List.take_take, min_self]
  rw [answering, hincoming]
  exact exec_readStatus_reporting dev _ hwraps.tag _ _

/-- The device takes in outgoing data to the last byte and executes the command. -/
theorem exec_writeData_receiving (hwraps : Wraps wrapper request)
    (hdata : request.data.length = request.length) {bytesSend : ℕ}
    (hless : bytesSend < request.length) :
    let execution := exec (bulkOnly dev) (writeData request.data request.length bytesSend)
      ⟨state, .receiving wrapper (request.data.take bytesSend)⟩
    execution.result = .ok true ∧
      execution.final = .execute dev state wrapper request.data := by
  induction hrest : request.length - bytesSend using Nat.strong_induction_on
    generalizing bytesSend with
  | _ rest ih =>
    let plen := min (request.length - bytesSend) usbMaxPacketLen
    have hplen : plen ≤ request.length - bytesSend := min_le_left _ _
    have hpositive : 0 < plen := lt_min (by omega) (by decide)
    have hpacket : ((request.data.drop bytesSend).take plen).length = plen := by
      rw [List.length_take, List.length_drop, hdata]
      exact min_eq_left hplen
    have hjoined : request.data.take bytesSend ++ (request.data.drop bytesSend).take plen =
        request.data.take (bytesSend + plen) := List.take_add.symm
    have hjoinedLength : (request.data.take (bytesSend + plen)).length = bytesSend + plen := by
      rw [List.length_take, hdata]
      omega
    have hdevice : bulkOnly dev ⟨state, .receiving wrapper (request.data.take bytesSend)⟩
        (.bulkWrite ((request.data.drop bytesSend).take plen)) =
        ((plen : ℤ), .receive dev state wrapper (request.data.take (bytesSend + plen))) := by
      simp only [bulkOnly, hpacket, hjoined]
    rw [writeData, if_pos hless, exec_bulkWrite hdevice, if_neg (by omega)]
    by_cases hlast : bytesSend + plen < request.length
    · have hreceive : BulkOnly.receive dev state wrapper (request.data.take (bytesSend + plen)) =
          ⟨state, .receiving wrapper (request.data.take (bytesSend + plen))⟩ :=
        if_pos (by rw [hjoinedLength, hwraps.length]; exact hlast)
      rw [hreceive]
      exact ih _ (by omega) hlast rfl
    · have hall : request.data.take (bytesSend + plen) = request.data :=
        List.take_of_length_le (by omega)
      have hreceive : BulkOnly.receive dev state wrapper request.data =
          .execute dev state wrapper request.data :=
        if_neg (by rw [hdata, hwraps.length]; omega)
      rw [hall, hreceive, writeData, if_neg hlast]
      exact ⟨rfl, rfl⟩

/-- A call is carried out as the device answers it, and the device is ready again. -/
theorem exec_usbSendCmd_bulkOnly (hphase : request.HasDataPhase) :
    let execution := exec (bulkOnly dev) (usbSendCmd request) ⟨state, .ready⟩
    execution.result = .ok (answering dev state request).1 ∧
      execution.final = ⟨(answering dev state request).2, .ready⟩ := by
  obtain ⟨wrapper, hwraps⟩ := exists_wraps hphase
  have hcbw : ((cbw request).length : ℤ) = 31 := by rw [length_cbw]; rfl
  rcases hphase.phase with ⟨hfrom, hdata⟩ | ⟨hto, hpos, hdata⟩
  · have hne : wrapper.direction ≠ .toDev := by rw [hwraps.direction, hfrom]; decide
    have hdevice : bulkOnly dev ⟨state, .ready⟩ (.bulkWrite (cbw request)) =
        (31, .execute dev state wrapper []) := by
      simp only [bulkOnly, hwraps.decoded, hcbw, if_neg hne]
    rw [usbSendCmd_of_eq hfrom, exec_bulkWrite hdevice, if_neg (not_not_intro rfl)]
    exact exec_readData_execute dev state hwraps hfrom hdata
  · have hlength : request.dxferLength = request.length := by simp [CmdRequest.dxferLength, hto]
    have hdevice : bulkOnly dev ⟨state, .ready⟩ (.bulkWrite (cbw request)) =
        (31, ⟨state, .receiving wrapper (request.data.take 0)⟩) := by
      simp only [bulkOnly, hwraps.decoded, hcbw, hwraps.direction, hto, if_true,
        BulkOnly.receive, hwraps.length, List.length_nil, if_pos hpos, List.take_zero]
    obtain ⟨hwritten, hexecuted⟩ := exec_writeData_receiving dev state hwraps hdata hpos
    have hexecute : BulkOnly.execute dev state wrapper request.data =
        ⟨(dev state request).2, .reporting (wrapper.csw (dev state request).1.1)⟩ := by
      simp only [BulkOnly.execute, hwraps.direction, hto, hwraps.request_eq]
    have hincoming : request.incoming (dev state request).1.2 = [] := by
      simp only [CmdRequest.incoming, hto]
    obtain ⟨hresult, hfinal⟩ := exec_readStatus_reporting dev (dev state request).2
      hwraps.tag (dev state request).1.1 []
    rw [usbSendCmd_of_ne (by rw [hto]; decide), exec_bulkWrite hdevice,
      if_neg (not_not_intro rfl), hlength, exec_bind_ok hwritten, hexecuted, hexecute]
    simp only [if_true, answering, hincoming]
    exact ⟨hresult, hfinal⟩

end Call

/-! ### The bus -/

/-- The transfers that reach the device: a write through an endpoint of the outgoing direction, a
read through one of the incoming direction. -/
def transferring (dev : DeviceModel σ) : Surroundings BulkTransfers (BulkOnly σ) :=
  fun device request ↦
    match request with
    | .bulkWrite _ endpoint data =>
      if endpoint &&& 0x80 = 0 then bulkOnly dev device (.bulkWrite data) else (-1, device)
    | .bulkRead _ endpoint size =>
      if endpoint &&& 0x80 ≠ 0 then bulkOnly dev device (.bulkRead size) else (none, device)

/-- A bus with one device behind the transport: libusb does what it does with the rest of its
calls. -/
def usbBus (libusb : Surroundings Libusb ρ) (dev : DeviceModel σ) :
    Surroundings (Libusb.sum BulkTransfers) (ρ × BulkOnly σ) := fun bus request ↦
  match request with
  | .left call => ((libusb bus.1 call).1, ((libusb bus.1 call).2, bus.2))
  | .right transfer =>
    ((transferring dev bus.2 transfer).1, (bus.1, (transferring dev bus.2 transfer).2))

/-- The device on the bus is ready, in a state. -/
def ReadyIn (state : σ) (bus : ρ × BulkOnly σ) : Prop := bus.2 = ⟨state, .ready⟩

section Bus

variable (libusb : Surroundings Libusb ρ) (dev : DeviceModel σ)

/-- A program over libusb, on the bus. -/
theorem exec_left_usbBus {ε α : Type} (p : Program Libusb ε α) (host : ρ) (device : BulkOnly σ) :
    exec (usbBus libusb dev) (p.left (J := BulkTransfers)) (host, device) =
      ⟨(exec libusb p host).result, (exec libusb p host).trace.map leftEvent,
        ((exec libusb p host).final, device)⟩ :=
  exec_left libusb (usbBus libusb dev) (fun host ↦ (host, device)) (fun _ _ ↦ rfl) p host

/-- The transfers of an open device reach it. -/
theorem simulates_onEndpoints {handle : UsbHandle} (hout : handle.epOut &&& 0x80 = 0)
    (hin : handle.epIn &&& 0x80 ≠ 0) :
    Simulates (onEndpoints handle) (bulkOnly dev) (transferring dev) Eq fun _ ↦ True where
  replies {state now request} _ hrelated := by
    subst hrelated
    cases request with
    | bulkWrite data =>
      change Except.ok (ite _ _ _ : ℤ × BulkOnly σ).1 = _
      rw [if_pos hout]
    | bulkRead size =>
      change Except.ok (ite _ _ _ : Option (List UInt8) × BulkOnly σ).1 = _
      rw [if_pos hin]
  keeps {state now request} _ hrelated := by
    subst hrelated
    cases request with
    | bulkWrite data =>
      change _ = (ite _ _ _ : ℤ × BulkOnly σ).2
      rw [if_pos hout]
    | bulkRead size =>
      change _ = (ite _ _ _ : Option (List UInt8) × BulkOnly σ).2
      rw [if_pos hin]

/-- `u3_send_cmd` on the bus is a call to the device. -/
theorem simulates_usb {handle : UsbHandle} (hout : handle.epOut &&& 0x80 = 0)
    (hin : handle.epIn &&& 0x80 ≠ 0) :
    Simulates (usbSubsystem.u3SendCmd handle) (answering dev) (usbBus libusb dev) ReadyIn
      IsOperation := by
  have hcall (state : σ) (bus : ρ × BulkOnly σ) (request : CmdRequest)
      (hrequest : IsOperation request) (hready : ReadyIn state bus) :
      (exec (usbBus libusb dev) (usbSubsystem.u3SendCmd handle request) bus).result =
          .ok (answering dev state request).1 ∧
        ReadyIn (answering dev state request).2
          (exec (usbBus libusb dev) (usbSubsystem.u3SendCmd handle request) bus).final := by
    obtain ⟨operation, rfl⟩ := hrequest
    obtain ⟨host, device⟩ := bus
    obtain rfl : device = ⟨state, .ready⟩ := hready
    obtain ⟨hsent, hleft⟩ := exec_usbSendCmd_bulkOnly dev state operation.hasDataPhase
    have hasks : Asks (fun _ ↦ True) (usbSendCmd operation.request) := .of_forall fun _ ↦ trivial
    have hsame : (⟨state, .ready⟩ : BulkOnly σ) = ⟨state, .ready⟩ := rfl
    obtain ⟨hresult, hfinal⟩ := exec_handledBy (simulates_onEndpoints dev hout hin) hasks hsame
    obtain ⟨hright, hbus⟩ := exec_right (transferring dev) (usbBus libusb dev)
      (fun device ↦ (host, device)) (fun _ _ ↦ rfl)
      ((usbSendCmd operation.request).handledBy (onEndpoints handle)) ⟨state, .ready⟩
    refine ⟨hright.trans (hresult.trans hsent), ?_⟩
    exact (congrArg Prod.snd hbus).trans (hfinal.symm.trans hleft)
  exact ⟨fun hrequest hready ↦ (hcall _ _ _ hrequest hready).1,
    fun hrequest hready ↦ (hcall _ _ _ hrequest hready).2⟩

/-- Once it has opened the device, the libusb subsystem is transparent. -/
theorem transparent_usb {handle : UsbHandle} {debug : Bool} {which : CText} {host : ρ}
    (hopen : (exec libusb (openUsb debug which) host).result = .ok (.ok handle)) :
    Transparent usbSubsystem (usbBus libusb dev) dev handle ReadyIn where
  sends := by
    have hrun := run_exec libusb (openUsb debug which) host
    rw [hopen] at hrun
    obtain ⟨hout, hin⟩ := directed_of_run_openUsb hrun
    exact simulates_usb libusb dev hout hin
  closes {state bus} hready := by
    obtain ⟨host, device⟩ := bus
    change (exec _ ((usbClose handle).left (J := BulkTransfers)) _).result = _ ∧ ReadyIn _
      (exec _ ((usbClose handle).left (J := BulkTransfers)) _).final
    rw [exec_left_usbBus]
    exact ⟨rfl, hready⟩

/-- Opening a device on the bus is opening it with libusb, and leaves it as it is. -/
theorem exec_u3Open_usbBus (debug : Bool) (which : CText) (host : ρ) (device : BulkOnly σ) :
    exec (usbBus libusb dev) (usbSubsystem.u3Open debug which) (host, device) =
      ⟨(exec libusb (openUsb debug which) host).result.mapError Empty.elim,
        (exec libusb (openUsb debug which) host).trace.map leftEvent,
        ((exec libusb (openUsb debug which) host).final, device)⟩ := by
  change exec _ (((openUsb debug which).mapError Empty.elim).left (J := BulkTransfers)) _ = _
  rw [exec_left_usbBus, exec_mapError]
  rfl

/-- The whole program over the bus does what `main` does with the device. -/
theorem exec_usb_mainOn (world : World) (fuel : ℕ) (stack : MainStack) (name : List UInt8)
    (state : σ) (stdin : ℕ → Option UInt8) {args : List (List UInt8)} {options : Options}
    {deviceName : List UInt8} {handle : UsbHandle} {host : ρ}
    (hdevice : deviceArgument args = some (options, deviceName))
    (hopen : (exec libusb (openUsb (verbose args) (argumentText deviceName)) host).result =
      .ok (.ok handle)) :
    SameOutcome ReadyIn
      (exec (desk (answering dev)) (main (opensAs world none) fuel stack name args) ⟨state, stdin⟩)
      (exec (bench (usbBus libusb dev)) (mainOn usbSubsystem world fuel stack name args)
        ⟨(host, ⟨state, .ready⟩), stdin⟩) := by
  have hopening := exec_u3Open_usbBus libusb dev (verbose args) (argumentText deviceName) host
    ⟨state, .ready⟩
  rw [hopen] at hopening
  have hready := congrArg Prod.snd (congrArg Execution.final hopening)
  exact exec_mainOn world fuel stack name stdin hdevice (congrArg Execution.result hopening)
    (transparent_usb libusb dev hopen) hready

end Bus

end U3Tool
