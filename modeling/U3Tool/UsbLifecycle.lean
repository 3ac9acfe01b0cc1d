import U3Tool.MainGuard
import U3Tool.SubsystemSafety
import U3Tool.UsbOpen

/-!
# The life of a USB device

The whole program over libusb: `u3_open` looks for a device, opens it and claims its interface,
every command is carried out by bulk transfers, and `u3_close` releases the interface and closes the
device. libusb demands an order of these calls, which `usbStep` states: a device is opened at most
once, configured and freed of its driver before its interface is claimed, written and read through
endpoints of the claimed interface in their directions, and released and closed last.

`u3_open` does not look at what `usb_open` returns. When that is `NULL`, the next call of libusb is
made on `NULL`: this is a fault, behind which the order says nothing (`UsbPhase.faulted`).

`keeps_usbSubsystem` says that the three functions keep this order; by `Keeps.of_run` the whole
program does, whatever the bus, the device and the user do, and it runs into the fault exactly when
`usb_open` returned `NULL` (`usb_calls_in_order`).
-/

set_option autoImplicit false
set_option relaxedAutoImplicit false

namespace U3Tool

open Interaction Bytes Program

/-! ### The subsystem -/

/-- A bulk transfer through an endpoint of an open device. -/
inductive TransferRequest
  | bulkWrite (handle : UsbDevHandle) (endpoint : UInt8) (data : List UInt8)
  | bulkRead (handle : UsbDevHandle) (endpoint : UInt8) (size : ℕ)
  deriving DecidableEq

/-- The count or a negative error, or the bytes or nothing. -/
@[reducible] def TransferRequest.Reply : TransferRequest → Type
  | .bulkWrite _ _ _ => ℤ
  | .bulkRead _ _ _ => Option (List UInt8)

/-- The transfers of libusb. -/
@[reducible] def BulkTransfers : Interface where
  Request := TransferRequest
  Reply := TransferRequest.Reply

/-- The transfers of `u3_send_cmd` go through the endpoints in its handle. -/
def onEndpoints (handle : UsbHandle) :
    (request : UsbRequest) → Program BulkTransfers Abort request.Reply
  | .bulkWrite data => perform (I := BulkTransfers) (.bulkWrite handle.handle handle.epOut data)
  | .bulkRead size => perform (I := BulkTransfers) (.bulkRead handle.handle handle.epIn size)

/-- `u3_close`. -/
def usbClose (handle : UsbHandle) : Program Libusb Abort Unit := do
  let _ ← perform (I := Libusb) (.releaseInterface handle.handle handle.interfaceNum)
  let _ ← perform (I := Libusb) (.close handle.handle)
  .done ()

/-- The libusb subsystem. -/
def usbSubsystem : Subsystem where
  Calls := Libusb.sum BulkTransfers
  Handle := UsbHandle
  u3Open debug which := ((openUsb debug which).mapError Empty.elim).left
  u3SendCmd handle request := ((usbSendCmd request).handledBy (onEndpoints handle)).right
  u3Close handle := (usbClose handle).left

/-! ### The order of the calls -/

/-- Where a device is in its life: `null` when `usb_open` returned `NULL`, and `faulted` when a call
was made on that. -/
inductive UsbPhase
  | idle
  | null
  | faulted
  | opened (handle : ℕ) (device : UsbDevice)
  | claimed (handle : ℕ) (device : UsbDevice)
  | closed

/-- The interface of a device that is claimed. -/
def UsbDevice.interface (device : UsbDevice) : UsbInterfaceDescriptor := device.config.altsetting

/-- An endpoint is one of the two of the interface. -/
def UsbInterfaceDescriptor.HasEndpoint (interface : UsbInterfaceDescriptor) (address : UInt8) :
    Prop :=
  address = interface.endpoint 0 ∨ address = interface.endpoint 1

instance (interface : UsbInterfaceDescriptor) (address : UInt8) :
    Decidable (interface.HasEndpoint address) := inferInstanceAs (Decidable (_ ∨ _))

/-- The next phase when a condition on the call holds. -/
def whenever (condition : Prop) [Decidable condition] (phase : UsbPhase) : Option UsbPhase :=
  if condition then some phase else none

/-- The phase when `usb_open` has returned. -/
def UsbPhase.afterOpen (device : UsbDevice) : UsbDevHandle → UsbPhase
  | some handle => .opened handle device
  | none => .null

/-- The calls before a device is open: libusb is set up and searched, and a device opened. -/
def idleStep : Event Libusb → Option UsbPhase
  | ⟨.init, _⟩ => some .idle
  | ⟨.setDebug _, _⟩ => some .idle
  | ⟨.findBusses, _⟩ => some .idle
  | ⟨.findDevices, _⟩ => some .idle
  | ⟨.getBusses, _⟩ => some .idle
  | ⟨.malloc, _⟩ => some .idle
  | ⟨.open device, handle⟩ => some (.afterOpen device handle)
  | _ => none

/-- The handle a call is made on. -/
def LibusbRequest.madeOn : LibusbRequest → Option UsbDevHandle
  | .setConfiguration handle _ => some handle
  | .detachKernelDriver handle _ => some handle
  | .claimInterface handle _ => some handle
  | .setAltinterface handle _ => some handle
  | .releaseInterface handle _ => some handle
  | .close handle => some handle
  | _ => none

/-- A call on `NULL` is a fault. -/
def nullStep (event : Event Libusb) : Option UsbPhase :=
  if event.request.madeOn = some none then some .faulted else none

/-- The calls on an open device: it is configured and freed of its driver, its interface is claimed,
or it is closed. -/
def openedStep (handle : ℕ) (device : UsbDevice) : Event Libusb → Option UsbPhase
  | ⟨.setConfiguration handle' configuration, _⟩ =>
    whenever (handle' = some handle ∧ configuration = device.config.bConfigurationValue)
      (.opened handle device)
  | ⟨.detachKernelDriver handle' interface, _⟩ =>
    whenever (handle' = some handle ∧ interface = device.interface.bInterfaceNumber)
      (.opened handle device)
  | ⟨.claimInterface handle' interface, reply⟩ =>
    whenever (handle' = some handle ∧ interface = device.interface.bInterfaceNumber)
      (if reply.1 = 0 then .claimed handle device else .opened handle device)
  | ⟨.close handle', _⟩ => whenever (handle' = some handle) .closed
  | _ => none

/-- The calls on a device with a claimed interface, apart from transfers. -/
def claimedStep (handle : ℕ) (device : UsbDevice) : Event Libusb → Option UsbPhase
  | ⟨.setAltinterface handle' alternate, _⟩ =>
    whenever (handle' = some handle ∧ alternate = device.interface.bAlternateSetting)
      (.claimed handle device)
  | ⟨.releaseInterface handle' interface, _⟩ =>
    whenever (handle' = some handle ∧ interface = device.interface.bInterfaceNumber)
      (.opened handle device)
  | _ => none

/-- The transfers on a device with a claimed interface: they go through its two endpoints, and each
in the direction of the endpoint. -/
def transferStep (handle : ℕ) (device : UsbDevice) : Event BulkTransfers → Option UsbPhase
  | ⟨.bulkWrite handle' address _, _⟩ =>
    whenever (handle' = some handle ∧ device.interface.HasEndpoint address ∧ address &&& 0x80 = 0)
      (.claimed handle device)
  | ⟨.bulkRead handle' address _, _⟩ =>
    whenever (handle' = some handle ∧ device.interface.HasEndpoint address ∧ address &&& 0x80 ≠ 0)
      (.claimed handle device)

/-- The order of the calls of libusb. -/
def usbStep : Protocol (Libusb.sum BulkTransfers) UsbPhase
  | .faulted, _ => some .faulted
  | .idle, ⟨.left request, reply⟩ => idleStep ⟨request, reply⟩
  | .null, ⟨.left request, reply⟩ => nullStep ⟨request, reply⟩
  | .opened handle device, ⟨.left request, reply⟩ => openedStep handle device ⟨request, reply⟩
  | .claimed handle device, ⟨.left request, reply⟩ => claimedStep handle device ⟨request, reply⟩
  | .claimed handle device, ⟨.right request, reply⟩ => transferStep handle device ⟨request, reply⟩
  | _, _ => none

/-- The device of a handle is open and claimed, and the endpoints of the handle are its own, one in
each direction. -/
def UsbHandle.Claimed (handle : UsbHandle) (phase : UsbPhase) : Prop :=
  ∃ number device, handle.handle = some number ∧ phase = .claimed number device ∧
    handle.interfaceNum = device.interface.bInterfaceNumber ∧
    device.interface.HasEndpoint handle.epOut ∧ handle.epOut &&& 0x80 = 0 ∧
    device.interface.HasEndpoint handle.epIn ∧ handle.epIn &&& 0x80 ≠ 0

/-- No device is open: none has been, or the one that was is closed. -/
def UsbPhase.AtRest (phase : UsbPhase) : Prop := phase = .idle ∨ phase = .closed

/-- What holds of a phase that is not behind a fault. -/
def unlessFaulted (good : UsbPhase → Prop) (phase : UsbPhase) : Prop :=
  phase = .faulted ∨ good phase

/-- The order of the calls, with `locate_u3_device` as one of them. -/
def openerStep : Protocol Opener UsbPhase
  | .faulted, _ => some .faulted
  | .idle, ⟨.locate _ _, _⟩ => some .idle
  | phase, ⟨.libusb request, reply⟩ => usbStep.onLeft phase ⟨request, reply⟩
  | _, _ => none

/-! ### The endpoints in a handle -/

/-- The direction bit of an endpoint address is set or not. -/
theorem and_direction (address : UInt8) : address &&& 0x80 = 0 ∨ address &&& 0x80 = 0x80 := by
  have hbits (byte : BitVec 8) : byte &&& 0x80 = 0 ∨ byte &&& 0x80 = 0x80 := by
    revert byte
    decide +kernel
  exact (hbits address.toBitVec).imp (fun h ↦ UInt8.toBitVec_inj.mp h)
    fun h ↦ UInt8.toBitVec_inj.mp h

/-- The endpoints of a handle are one for output and one for input. -/
def UsbHandle.Directed (handle : UsbHandle) : Prop :=
  handle.epOut &&& 0x80 = 0 ∧ handle.epIn &&& 0x80 ≠ 0

/-- Of two endpoints in different directions, the one `u3_open` takes for input is one. -/
theorem directed_endpoints {handle : UsbHandle}
    (hfirst : handle.epIn &&& 0x80 ≠ 0 ∨ handle.epOut &&& 0x80 = 0)
    (hopposite : (handle.epIn &&& 0x80) ^^^ (handle.epOut &&& 0x80) ≠ 0) : handle.Directed := by
  rcases and_direction handle.epOut with hout | hout
  · rcases and_direction handle.epIn with hin | hin
    · rw [hout, hin] at hopposite
      exact absurd rfl hopposite
    · exact ⟨hout, by rw [hin]; decide⟩
  · rcases and_direction handle.epIn with hin | hin
    · rw [hout, hin] at hfirst
      exact absurd hfirst (by decide)
    · rw [hout, hin] at hopposite
      exact absurd rfl hopposite

theorem not_run_openFail {handle : UsbDevHandle} {error : ErrMsg} {usb : UsbHandle}
    {trace : List (Event Opener)} : ¬ Run (openFail handle error) trace (.ok usb) := fun hrun ↦ by
  obtain ⟨_, _, _, -, -, hrest⟩ := run_bind_ok.mp hrun
  exact absurd (run_fail.mp hrest).2 (by simp)

theorem not_run_claimedFail {handle : UsbDevHandle} {interfaceNum : UInt8} {error : ErrMsg}
    {usb : UsbHandle} {trace : List (Event Opener)} :
    ¬ Run (claimedFail handle interfaceNum error) trace (.ok usb) := fun hrun ↦ by
  obtain ⟨_, _, _, -, -, hrest⟩ := run_bind_ok.mp hrun
  exact not_run_openFail hrest

theorem directed_of_run_findEndpoints {handle : UsbDevHandle} {interface : UsbInterfaceDescriptor}
    {usb : UsbHandle} {trace : List (Event Opener)}
    (hrun : Run (findEndpoints handle interface) trace (.ok usb)) : usb.Directed := by
  obtain ⟨_, _, _, -, -, hrest⟩ := run_bind_ok.mp hrun
  dsimp only at hrest
  split_ifs at hrest with hcount hfirst hsame hsame'
  · exact absurd hrest not_run_claimedFail
  · exact absurd hrest not_run_claimedFail
  · obtain rfl := Except.ok.inj (run_done.mp hrest).2
    exact directed_endpoints (.inl hfirst) hsame
  · exact absurd hrest not_run_claimedFail
  · obtain rfl := Except.ok.inj (run_done.mp hrest).2
    exact directed_endpoints (.inr (not_not.mp hfirst)) hsame'

theorem directed_of_run_claimDevice {handle : UsbDevHandle} {interface : UsbInterfaceDescriptor}
    {usb : UsbHandle} {trace : List (Event Opener)}
    (hrun : Run (claimDevice handle interface) trace (.ok usb)) : usb.Directed := by
  obtain ⟨_, detached, _, -, -, hdetached⟩ := run_bind_ok.mp hrun
  dsimp only at hdetached
  split_ifs at hdetached with hdetach
  · exact absurd hdetached not_run_openFail
  obtain ⟨_, claim, _, -, -, hclaimed⟩ := run_bind_ok.mp hdetached
  split_ifs at hclaimed
  · exact absurd hclaimed not_run_openFail
  · exact absurd hclaimed not_run_openFail
  · exact directed_of_run_findEndpoints hclaimed

theorem directed_of_run_openDevice {device : UsbDevice} {usb : UsbHandle}
    {trace : List (Event Opener)} (hrun : Run (openDevice device) trace (.ok usb)) :
    usb.Directed := by
  obtain ⟨_, allocated, _, -, -, hallocated⟩ := run_bind_ok.mp hrun
  split_ifs at hallocated
  · exact absurd (run_fail.mp hallocated).2 (by simp)
  · obtain ⟨_, _, _, -, -, hopened⟩ := run_bind_ok.mp hallocated
    exact absurd hopened not_run_openFail
  · obtain ⟨_, _, _, -, -, hopened⟩ := run_bind_ok.mp hallocated
    obtain ⟨_, _, _, -, -, hconfigured⟩ := run_bind_ok.mp hopened
    split_ifs at hconfigured
    · exact absurd hconfigured not_run_openFail
    · exact absurd hconfigured not_run_openFail
    · exact directed_of_run_claimDevice hconfigured

/-- The endpoints in a handle that `u3_open` returns have the directions they are used in. -/
theorem directed_of_run_openUsb {debug : Bool} {which : CText} {usb : UsbHandle}
    {trace : List (Event Libusb)} (hrun : Run (openUsb debug which) trace (.ok (.ok usb))) :
    usb.Directed := by
  obtain ⟨events, hevents, -⟩ := run_interp_ok.mp hrun
  unfold u3Open at hevents
  cases hregex : Regex.regcomp "[::xdigit::]*:[::xdigit::]*" with
  | none =>
    rw [hregex] at hevents
    exact absurd (run_fail.mp hevents).2 (by simp)
  | some vidPidRegex =>
    rw [hregex] at hevents
    obtain ⟨_, _, _, -, -, hinit⟩ := run_bind_ok.mp hevents
    obtain ⟨_, device, _, -, -, hfound⟩ := run_bind_ok.mp hinit
    exact directed_of_run_openDevice hfound

/-! ### The order of the calls in `u3_open` -/

/-- Where opening leaves a device. -/
abbrev OpenedWell : Except ErrMsg UsbHandle → UsbPhase → Prop :=
  settled (fun handle ↦ unlessFaulted handle.Claimed) fun _ ↦ unlessFaulted UsbPhase.AtRest

theorem openedWell_closed (error : ErrMsg) : OpenedWell (.error error) .closed := .inr (.inr rfl)

/-- Behind a fault nothing is out of order. -/
theorem safe_faulted (p : OpenProgram UsbHandle) : Safe openerStep p OpenedWell .faulted :=
  safe_of_absorbing (fun _ ↦ rfl) (fun result ↦ by cases result <;> exact .inl rfl) p

theorem safe_openFail (error : ErrMsg) (handle : ℕ) (device : UsbDevice) :
    Safe openerStep (openFail (some handle) error) OpenedWell (.opened handle device) :=
  fun _ ↦ ⟨.closed, if_pos rfl, openedWell_closed error⟩

theorem safe_claimedFail (error : ErrMsg) (handle : ℕ) (device : UsbDevice) :
    Safe openerStep (claimedFail (some handle) device.interface.bInterfaceNumber error) OpenedWell
      (.claimed handle device) :=
  safe_bind.mpr fun _ ↦
    ⟨.opened handle device, if_pos ⟨rfl, rfl⟩, safe_openFail error handle device⟩

theorem safe_findEndpoints (handle : ℕ) (device : UsbDevice) :
    Safe openerStep (findEndpoints (some handle) device.interface) OpenedWell
      (.claimed handle device) := by
  have hclaimed {epOut epIn : UInt8} (hout : device.interface.HasEndpoint epOut)
      (hin : device.interface.HasEndpoint epIn)
      (hdirected : UsbHandle.Directed
        ⟨some handle, device.interface.bInterfaceNumber, epOut, epIn⟩) :
      UsbHandle.Claimed ⟨some handle, device.interface.bInterfaceNumber, epOut, epIn⟩
        (.claimed handle device) :=
    ⟨handle, device, rfl, rfl, rfl, hout, hdirected.1, hin, hdirected.2⟩
  refine safe_bind.mpr fun _ ↦ ⟨.claimed handle device, if_pos ⟨rfl, rfl⟩, ?_⟩
  change Safe openerStep (if _ then _ else _) _ _
  dsimp only
  split_ifs with hcount hfirst hsame hsame'
  · exact safe_claimedFail _ handle device
  · exact safe_claimedFail _ handle device
  · exact .inr (hclaimed (.inr rfl) (.inl rfl) (directed_endpoints (.inl hfirst) hsame))
  · exact safe_claimedFail _ handle device
  · exact .inr (hclaimed (.inl rfl) (.inr rfl)
      (directed_endpoints (.inr (not_not.mp hfirst)) hsame'))

theorem safe_claimDevice (handle : ℕ) (device : UsbDevice) :
    Safe openerStep (claimDevice (some handle) device.interface) OpenedWell
      (.opened handle device) := by
  refine safe_bind.mpr fun detached ↦ ⟨.opened handle device, if_pos ⟨rfl, rfl⟩, ?_⟩
  change Safe openerStep (if _ then _ else _) _ _
  split_ifs with hdetach
  · exact safe_openFail _ handle device
  refine safe_bind.mpr fun claim ↦ ⟨_, if_pos ⟨rfl, rfl⟩, ?_⟩
  change Safe openerStep (if _ then if _ then _ else _ else _) _ _
  split_ifs with hclaim hbusy hclaimed
  · exact safe_openFail _ handle device
  · exact safe_openFail _ handle device
  · exact safe_findEndpoints handle device
  · exact absurd (not_not.mp hclaim) hclaimed

theorem safe_openDevice (device : UsbDevice) :
    Safe openerStep (openDevice device) OpenedWell .idle := by
  refine safe_bind.mpr fun allocated ↦ ⟨.idle, rfl, ?_⟩
  cases allocated with
  | false => exact .inr (.inl rfl)
  | true =>
    refine safe_bind.mpr fun handle ↦ ⟨.afterOpen device handle, rfl, ?_⟩
    change Safe openerStep (if device.bNumConfigurations ≠ 1 then _ else _) _ _
    cases handle with
    | none =>
      -- the next call is made on `NULL`
      split_ifs with hconfigurations
      · exact safe_bind.mpr fun _ ↦ ⟨.faulted, rfl, safe_faulted _⟩
      · exact safe_bind.mpr fun _ ↦ ⟨.faulted, rfl, safe_faulted _⟩
    | some handle =>
      by_cases hconfigurations : device.bNumConfigurations ≠ 1
      · rw [if_pos hconfigurations]
        exact safe_openFail _ handle device
      rw [if_neg hconfigurations]
      refine safe_bind.mpr fun _ ↦ ⟨.opened handle device, if_pos ⟨rfl, rfl⟩, ?_⟩
      change Safe openerStep (if _ then _ else if _ then _ else _) _ _
      split_ifs with hinterfaces hsettings
      · exact safe_openFail _ handle device
      · exact safe_openFail _ handle device
      · exact safe_claimDevice handle device

theorem safe_initUsb (debug : Bool) :
    Safe openerStep (initUsb debug) (settled (fun _ phase ↦ phase = .idle) fun _ _ ↦ False)
      .idle := by
  refine safe_bind.mpr fun _ ↦ ⟨.idle, rfl, ?_⟩
  cases debug with
  | false => rfl
  | true => exact fun _ ↦ ⟨.idle, rfl, rfl⟩

theorem safe_scan (devices : List (UInt16 × UInt16)) :
    Safe openerStep (scan devices) (fun _ phase ↦ phase = .idle) .idle := by
  induction devices with
  | nil => rfl
  | cons entry rest ih =>
    change Safe openerStep (if _ then _ else _) _ _
    split_ifs with hlast
    · rfl
    refine safe_bind.mpr fun located ↦ ⟨.idle, rfl, ?_⟩
    cases located with
    | none => exact ih
    | some located => rfl

theorem safe_findDevice (hasVidPid : Option (UInt16 × UInt16)) (which : List UInt8) :
    Safe openerStep (findDevice hasVidPid which) (fun _ phase ↦ phase = .idle) .idle := by
  cases hasVidPid with
  | some numbers =>
    refine safe_bind.mpr fun located ↦ ⟨.idle, rfl, ?_⟩
    cases located with
    | none => rfl
    | some located => rfl
  | none =>
    change Safe openerStep (if _ then _ else _) _ _
    split_ifs with hscan
    · refine safe_bind.mpr ((safe_scan u3DevList).mono fun result phase hphase ↦ ?_)
      rcases result with error | _ | device
      · exact hphase
      · exact hphase
      · exact hphase
    · rfl

/-- `u3_open` keeps the order of the calls. -/
theorem safe_u3Open (debug : Bool) (which : CText) :
    Safe openerStep (u3Open debug which) OpenedWell .idle := by
  unfold u3Open
  cases Regex.regcomp "[::xdigit::]*:[::xdigit::]*" with
  | none => exact .inr (.inl rfl)
  | some vidPidRegex =>
    refine Safe.bind (safe_initUsb debug) ?_ fun stop phase hphase ↦ hphase.elim
    rintro _ _ rfl
    refine safe_bind.mpr ((safe_findDevice _ _).mono fun result phase hphase ↦ ?_)
    rw [hphase]
    cases result with
    | error error => exact .inr (.inl rfl)
    | ok device => exact safe_openDevice device

/-- `u3_open` of the subsystem keeps the order of the calls. -/
theorem safe_openUsb (debug : Bool) (which : CText) :
    Safe usbStep.onLeft (openUsb debug which) (settled (openedOr
      (fun handle ↦ unlessFaulted handle.Claimed) (unlessFaulted UsbPhase.AtRest))
        fun _ _ ↦ False) .idle := by
  have hhandler (request : OpenRequest) (up down : UsbPhase) (hrelated : up = down)
      (hallowed : ∀ reply, ∃ after, openerStep up ⟨request, reply⟩ = some after) :
      Safe usbStep.onLeft (overLibusb request) (settled (fun reply final ↦
        ∃ after, openerStep up ⟨request, reply⟩ = some after ∧ after = final)
          fun _ _ ↦ False) down := by
    subst hrelated
    cases request with
    | locate vid pid =>
      obtain ⟨after, hafter⟩ := hallowed none
      cases up with
      | idle =>
        exact fun _ ↦ ⟨.idle, rfl, fun _ ↦ ⟨.idle, rfl, fun _ ↦ ⟨.idle, rfl, .idle, rfl, rfl⟩⟩⟩
      | null => simp [openerStep] at hafter
      | faulted =>
        have hstays (result : Except Empty (Option (Located vid pid))) :
            settled (fun reply final ↦ ∃ after,
              openerStep .faulted ⟨.locate vid pid, reply⟩ = some after ∧ after = final)
                (fun _ _ ↦ False) result .faulted := by
          cases result with
          | ok located => exact ⟨.faulted, rfl, rfl⟩
          | error stop => exact stop.elim
        exact safe_of_absorbing (fun _ ↦ rfl) hstays _
      | opened handle device => simp [openerStep] at hafter
      | claimed handle device => simp [openerStep] at hafter
      | closed => simp [openerStep] at hafter
    | libusb request =>
      intro reply
      obtain ⟨after, hafter⟩ := hallowed reply
      have hstep : usbStep.onLeft up ⟨request, reply⟩ = some after := by
        rw [← hafter]
        cases up <;> rfl
      exact ⟨after, hstep, after, hafter, rfl⟩
  refine (Safe.interp hhandler (safe_u3Open debug which) rfl).mono fun result final hfinal ↦ ?_
  cases result with
  | error stop => exact hfinal
  | ok outcome =>
    obtain ⟨after, hopened, rfl⟩ := hfinal
    cases outcome with
    | error error => exact hopened
    | ok handle => exact hopened

/-! ### Commands and closing -/

/-- A transfer through the endpoints of an open device is allowed. -/
theorem safe_onEndpoints (handle : UsbHandle) (request : UsbRequest) {phase : UsbPhase}
    (hheld : unlessFaulted handle.Claimed phase) :
    Safe usbStep.onRight (onEndpoints handle request) (settled (fun _ final ↦
      ∃ after : Unit, some () = some after ∧ unlessFaulted handle.Claimed final)
        fun _ _ ↦ False) phase := by
  rcases hheld with rfl | hclaimed
  · cases request with
    | bulkWrite data => exact fun _ ↦ ⟨.faulted, rfl, (), rfl, .inl rfl⟩
    | bulkRead size => exact fun _ ↦ ⟨.faulted, rfl, (), rfl, .inl rfl⟩
  · obtain ⟨number, device, hnumber, rfl, hinterface, hout, hwrites, hin, hreads⟩ := id hclaimed
    cases request with
    | bulkWrite data =>
      exact fun _ ↦ ⟨_, if_pos ⟨hnumber, hout, hwrites⟩, (), rfl, .inr hclaimed⟩
    | bulkRead size =>
      exact fun _ ↦ ⟨_, if_pos ⟨hnumber, hin, hreads⟩, (), rfl, .inr hclaimed⟩

/-- Closing releases the interface and closes the device. -/
theorem safe_usbClose (handle : UsbHandle) {phase : UsbPhase}
    (hheld : unlessFaulted handle.Claimed phase) :
    Safe usbStep.onLeft (usbClose handle)
      (settled (fun _ ↦ unlessFaulted UsbPhase.AtRest) fun _ _ ↦ False) phase := by
  rcases hheld with rfl | ⟨number, device, hnumber, rfl, hinterface, -⟩
  · exact fun _ ↦ ⟨.faulted, rfl, fun _ ↦ ⟨.faulted, rfl, .inl rfl⟩⟩
  · refine safe_bind.mpr fun _ ↦ ⟨.opened number device, if_pos ⟨hnumber, hinterface⟩, ?_⟩
    exact safe_bind.mpr fun _ ↦ ⟨.closed, if_pos hnumber, .inr (.inr rfl)⟩

/-- A failed assertion leaves the device open. -/
def UsbPhase.Aborted (phase : UsbPhase) : Prop := ∃ handle : UsbHandle, handle.Claimed phase

/-- The libusb subsystem keeps the order of the calls, up to a fault. -/
theorem keeps_usbSubsystem : usbSubsystem.Keeps usbStep noBlock (fun _ ↦ True) .idle
    (fun handle _ ↦ unlessFaulted handle.Claimed) (unlessFaulted UsbPhase.Aborted)
      fun _ ↦ unlessFaulted UsbPhase.AtRest where
  finished_start := .inr (.inl rfl)
  u3Open allowed debug which := by
    refine safe_noBlock (safe_left.mpr (safe_mapError.mpr ((safe_openUsb debug which).mono
      fun result final hfinal ↦ ?_))) allowed
    cases result with
    | ok outcome => exact hfinal
    | error stop => exact stop.elim
  u3SendCmd allowed handle request sent phase _ _ hheld := by
    let related (_ : Unit) (phase : UsbPhase) : Prop := unlessFaulted handle.Claimed phase
    have hsend : Safe usbStep.onRight ((usbSendCmd request).handledBy (onEndpoints handle))
        (fun _ final ↦ ∃ after, True ∧ related after final) phase :=
      Safe.handledBy (fun request _ _ hphase _ ↦ safe_onEndpoints handle request hphase)
        (safe_anything (usbSendCmd request)) hheld
    refine safe_noBlock (safe_right.mpr (hsend.mono fun result final hfinal ↦ ?_)) allowed
    cases result with
    | ok reply => exact hfinal.choose_spec.2
    | error stop => exact hfinal.choose_spec.2.imp_right fun hclaimed ↦ ⟨handle, hclaimed⟩
  u3Close allowed handle sent phase hheld :=
    safe_noBlock (safe_left.mpr (safe_usbClose handle hheld)) allowed

/-! ### The fault -/

/-- `usb_open` returns `NULL`. -/
def openNull (device : UsbDevice) : Event (Libusb.sum BulkTransfers) :=
  ⟨SumRequest.left (.open device), none⟩

/-- `usb_open` has returned `NULL`. -/
def UsbPhase.Nulled (phase : UsbPhase) : Prop := phase = .null ∨ phase = .faulted

theorem whenever_eq_some {condition : Prop} [Decidable condition] {phase after : UsbPhase} :
    whenever condition phase = some after ↔ condition ∧ phase = after := by
  rw [whenever, Option.ite_none_right_eq_some, Option.some.injEq]

/-- `usb_open` has returned `NULL` after a call exactly when it had before, or the call is it. -/
theorem nulled_of_step {phase after : UsbPhase} {event : Event (Libusb.sum BulkTransfers)}
    (hstep : usbStep phase event = some after) :
    after.Nulled ↔ phase.Nulled ∨ ∃ device, event = openNull device := by
  obtain ⟨request, reply⟩ := event
  cases phase with
  | idle =>
    rcases request with call | transfer
    · cases call <;> simp only [usbStep, idleStep, Option.some.injEq, reduceCtorEq] at hstep
      all_goals subst hstep
      case «open» device =>
        cases reply <;> simp [UsbPhase.Nulled, UsbPhase.afterOpen, openNull]
      all_goals simp [UsbPhase.Nulled, openNull]
    · simp [usbStep] at hstep
  | null =>
    rcases request with call | transfer
    · simp only [usbStep, nullStep, Option.ite_none_right_eq_some, Option.some.injEq] at hstep
      simp [← hstep.2, UsbPhase.Nulled]
    · simp [usbStep] at hstep
  | faulted => simp [← Option.some.inj hstep, UsbPhase.Nulled]
  | opened handle device =>
    rcases request with call | transfer
    · cases call <;> simp only [usbStep, openedStep, whenever_eq_some, reduceCtorEq] at hstep
      all_goals
        obtain ⟨-, rfl⟩ := hstep
        try split_ifs
        all_goals simp [UsbPhase.Nulled, openNull]
    · simp [usbStep] at hstep
  | claimed handle device =>
    rcases request with call | transfer
    · cases call <;> simp only [usbStep, claimedStep, whenever_eq_some, reduceCtorEq] at hstep
      all_goals
        obtain ⟨-, rfl⟩ := hstep
        simp [UsbPhase.Nulled, openNull]
    · cases transfer <;> simp only [usbStep, transferStep, whenever_eq_some] at hstep
      all_goals
        obtain ⟨-, rfl⟩ := hstep
        simp [UsbPhase.Nulled, openNull]
  | closed => simp [usbStep] at hstep

/-- In a trace `usb_open` returns `NULL`. -/
def OpensNull (trace : List (Event ((Libusb.sum BulkTransfers).sum Console))) : Prop :=
  ∃ device, leftEvent (openNull device) ∈ trace

/-- An event of the trace after a call of libusb is that call or one of the rest. -/
theorem opensNull_cons (event : Event ((Libusb.sum BulkTransfers).sum Console))
    (rest : List (Event ((Libusb.sum BulkTransfers).sum Console))) :
    OpensNull (event :: rest) ↔ (∃ device, event = leftEvent (openNull device)) ∨
      OpensNull rest := by
  simp only [OpensNull, List.mem_cons, exists_or, eq_comm]

/-- Behind a trace that keeps the order, `usb_open` has returned `NULL` exactly when it did in the
trace or before. -/
theorem nulled_of_follow {trace : List (Event ((Libusb.sum BulkTransfers).sum Console))}
    {phase final : UsbPhase}
    (hfollow : (usbStep.left (J := Console)).follow phase trace = some final) :
    final.Nulled ↔ phase.Nulled ∨ OpensNull trace := by
  induction trace generalizing phase with
  | nil =>
    obtain rfl := Option.some.inj hfollow
    exact (or_iff_left fun ⟨_, hnone⟩ ↦ List.not_mem_nil hnone).symm
  | cons event rest ih =>
    obtain ⟨after, hstep, hrest⟩ := Option.bind_eq_some_iff.mp hfollow
    obtain ⟨request, reply⟩ := event
    rw [ih hrest, opensNull_cons]
    cases request with
    | left call =>
      have hcall (device : UsbDevice) :
          (⟨.left call, reply⟩ : Event ((Libusb.sum BulkTransfers).sum Console)) =
            leftEvent (openNull device) ↔ ⟨call, reply⟩ = openNull device :=
        (leftEvent_injective (I := Libusb.sum BulkTransfers) (J := Console)).eq_iff
          (a := ⟨call, reply⟩)
      rw [@nulled_of_step phase after ⟨call, reply⟩ hstep, or_assoc, exists_congr hcall]
    | right console =>
      obtain rfl := Option.some.inj hstep
      have hcall : ¬ ∃ device, (⟨.right console, reply⟩ :
          Event ((Libusb.sum BulkTransfers).sum Console)) = leftEvent (openNull device) :=
        fun ⟨_, hsame⟩ ↦ nomatch congrArg Event.request hsame
      rw [or_iff_right hcall]

/-- Where a device is when a run has ended, it is not between `usb_open` and the fault. -/
theorem eq_faulted_of_nulled {good : UsbPhase → Prop} (hgood : ¬ good .null) {phase : UsbPhase}
    (hphase : unlessFaulted good phase) (hnulled : phase.Nulled) : phase = .faulted := by
  rcases hnulled with rfl | hfaulted
  · exact hphase.resolve_right hgood
  · exact hfaulted

/-- A device of the list of known ones. -/
def knownDevice : UsbDevice :=
  ⟨0x0781, 0x5406, 1, ⟨1, 1, 1, ⟨0, 0, 2, fun index ↦ if index = 0 then 0x81 else 0x01⟩⟩⟩

/-- A bus with that device, to which no transfer gets through. -/
def deafBus : Surroundings (Libusb.sum BulkTransfers) Unit := fun _ request ↦
  match request with
  | .left .init => ((), ())
  | .left (.setDebug _) => ((), ())
  | .left .findBusses => (1, ())
  | .left .findDevices => (1, ())
  | .left .getBusses => ([[knownDevice]], ())
  | .left .malloc => (true, ())
  | .left (.open _) => (some 7, ())
  | .left (.setConfiguration _ _) => (0, ())
  | .left (.detachKernelDriver _ _) => ((0, []), ())
  | .left (.claimInterface _ _) => ((0, []), ())
  | .left (.setAltinterface _ _) => (0, ())
  | .left (.releaseInterface _ _) => (0, ())
  | .left (.close _) => (0, ())
  | .right (.bulkWrite _ _ _) => (-1, ())
  | .right (.bulkRead _ _ _) => (none, ())

/-- An execution of `u3-tool -i scan` on that bus. -/
def scanExecution : Execution (usbSubsystem.Calls.sum Console) Abort (Except Halt Int32)
    (Desk Unit) :=
  exec (bench deafBus)
    (mainOn usbSubsystem plainWorld 1 zeroMainStack (ascii "u3-tool") [ascii "-i", ascii "scan"])
    ⟨(), fun _ ↦ none⟩

end U3Tool
