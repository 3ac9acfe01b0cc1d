import U3Tool.BulkOnlyDevice
import U3Tool.SgSubsystem

/-!
# The two transports agree

The other way to the same device: the SCSI generic driver hands the command in an `sg_io_hdr_t` to
the device and reports its status, a failed command with fresh sense data as the USB storage driver
does (`sgHost`). With such a driver the subsystem is transparent too (`transparent_sg`).

So it does not matter which subsystem the tool was built with: the same options and the same input
lead, over the bytes of the bulk-only transport and through `SG_IO`, to the same end, the same
dialogue and the same device (`transports_agree`).
-/

set_option autoImplicit false
set_option relaxedAutoImplicit false

namespace U3Tool

open Interaction Bytes Program

variable {ρ σ : Type}

/-! ### The driver -/

/-- The direction of a data phase from its `SG_DXFER` value. -/
def dataDirection (direction : ℤ) : Option DataDirection :=
  if direction = -1 then some .none
  else if direction = -2 then some .toDev
  else if direction = -3 then some .fromDev
  else none

/-- The command that a header describes. -/
def SgIoHdr.request (hdr : SgIoHdr) : Option CmdRequest :=
  (toBuffer 12 hdr.cmdp).bind fun cmd ↦ (dataDirection hdr.dxferDirection).map fun direction ↦
    ⟨cmd, direction, hdr.dxferLen, hdr.dxferp⟩

/-- What the driver reports of a command: a failed one has the status `CHECK CONDITION`, and its
sense data has been fetched. -/
def sgReport (passed : Bool) (data : List UInt8) : SgIoResult :=
  if passed then ⟨0, 0, 0, 0, 0, data⟩ else ⟨1, 2, 1, 0, 8, data⟩

/-- A host with the device behind its driver; the rest of the calls it answers as it likes. -/
def sgHost (calls : Surroundings Sg ρ) (dev : DeviceModel σ) : Surroundings Sg (ρ × σ) :=
  fun host request ↦
    match request with
    | .sgIo _ hdr =>
      match hdr.request with
      | none => (.error [], host)
      | some request =>
        (.ok (sgReport (dev host.2 request).1.1 (request.incoming (dev host.2 request).1.2)),
          (host.1, (dev host.2 request).2))
    | request => ((calls host.1 request).1, ((calls host.1 request).2, host.2))

/-- The device behind the driver is in a state. -/
def Behind (state : σ) (host : ρ × σ) : Prop := host.2 = state

/-! ### Transparency -/

/-- The header of a command describes it. -/
theorem request_sgIoHdr (request : CmdRequest) : (sgIoHdr request).request = some request := by
  obtain ⟨cmd, direction, length, data⟩ := request
  have hcmd : toBuffer 12 cmd.bytes = some cmd := toBuffer_bytes cmd
  have hdirection : dataDirection (sgDirection direction) = some direction := by
    cases direction <;> rfl
  rw [SgIoHdr.request, sgIoHdr, hcmd, hdirection]
  rfl

/-- A report with fresh sense data counts as one of an executed command. -/
theorem executed_sgReport (passed : Bool) (data : List UInt8) :
    (sgReport passed data).executed = true ∧
      (sgReport passed data).maskedStatus = statusOf passed ∧
      (sgReport passed data).data = data := by
  cases passed with
  | false => exact ⟨by simp [sgReport, SgIoResult.executed], rfl, rfl⟩
  | true => exact ⟨by simp [sgReport, SgIoResult.executed], rfl, rfl⟩

/-- No more comes in than was asked for. -/
theorem take_incoming (request : CmdRequest) (data : List UInt8) :
    (request.incoming data).take request.length = request.incoming data := by
  unfold CmdRequest.incoming
  cases request.direction with
  | none => exact List.take_nil
  | toDev => exact List.take_nil
  | fromDev => simp

section Host

variable (calls : Surroundings Sg ρ) (dev : DeviceModel σ)

/-- A call is carried out as the device answers it. -/
theorem exec_sgSendCmd_sgHost (fd : ℕ) (request : CmdRequest) (host : ρ) (state : σ) :
    let execution := exec (sgHost calls dev) (sgSendCmd fd request) (host, state)
    execution.result = .ok (answering dev state request).1 ∧
      execution.final = (host, (answering dev state request).2) := by
  obtain ⟨hexecuted, hstatus, hdata⟩ := executed_sgReport (dev state request).1.1
    (request.incoming (dev state request).1.2)
  have hanswer : sgHost calls dev (host, state) (.sgIo fd (sgIoHdr request)) =
      (.ok (sgReport (dev state request).1.1 (request.incoming (dev state request).1.2)),
        (host, (dev state request).2)) := by
    simp only [sgHost, request_sgIoHdr]
  have hsend : exec (sgHost calls dev) (sgSendCmd fd request) (host, state) =
      ⟨.ok (answering dev state request).1, [⟨.sgIo fd (sgIoHdr request),
        (sgHost calls dev (host, state) (.sgIo fd (sgIoHdr request))).1⟩],
        (host, (answering dev state request).2)⟩ := by
    change exec _ (.ask (I := Sg) (.sgIo fd (sgIoHdr request)) _) _ = _
    rw [exec_ask, hanswer]
    simp only [Program.bind, hexecuted, if_true, hstatus, hdata, take_incoming, exec_done,
      answering]
  rw [hsend]
  exact ⟨rfl, rfl⟩

/-- `u3_send_cmd` through the driver is a call to the device. -/
theorem transparent_sg (fd : ℕ) : Transparent sgSubsystem (sgHost calls dev) dev fd Behind where
  sends := by
    have hcall (state : σ) (host : ρ × σ) (request : CmdRequest) (hbehind : Behind state host) :
        (exec (sgHost calls dev) (sgSendCmd fd request) host).result =
            .ok (answering dev state request).1 ∧
          Behind (answering dev state request).2
            (exec (sgHost calls dev) (sgSendCmd fd request) host).final := by
      obtain ⟨host, device⟩ := host
      obtain rfl : device = state := hbehind
      obtain ⟨hresult, hfinal⟩ := exec_sgSendCmd_sgHost calls dev fd request host device
      exact ⟨hresult, congrArg Prod.snd hfinal⟩
    exact ⟨fun _ hbehind ↦ (hcall _ _ _ hbehind).1, fun _ hbehind ↦ (hcall _ _ _ hbehind).2⟩
  closes hbehind := ⟨rfl, hbehind⟩

/-- Opening a node is what it is without the device, and leaves the device as it is. -/
theorem exec_u3Open_sgHost (debug : Bool) (which : CText) (host : ρ) (state : σ) :
    let opening := exec (sgHost calls dev) (sgSubsystem.u3Open debug which) (host, state)
    opening.result = (exec calls (sgSubsystem.u3Open debug which) host).result ∧
      Behind state opening.final := by
  let related (both : ρ × σ) (alone : ρ) : Prop := both = (alone, state)
  have hstep (both : ρ × σ) (alone : ρ) (request : SgRequest) (hheader : NoHeader request)
      (hboth : related both alone) :
      (sgHost calls dev both request).1 = (calls alone request).1 ∧
        related (sgHost calls dev both request).2 (calls alone request).2 := by
    obtain rfl := hboth
    cases request with
    | sgIo fd hdr => exact hheader.elim
    | _ => exact ⟨rfl, rfl⟩
  have hasks : Asks NoHeader (sgSubsystem.u3Open debug which) := asks_attempt (asks_sgOpen which)
  have hrelated : related (host, state) host := rfl
  obtain ⟨hresult, -, hfinal⟩ := exec_congr hstep hasks hrelated
  exact ⟨hresult, congrArg Prod.snd hfinal⟩

end Host

/-! ### Agreement -/

/-- The tool built with libusb and the tool built with SCSI generic, with the same options, the same
input and the same device, end the same, say the same, and leave the device the same. -/
theorem transports_agree {ρ' : Type} (libusb : Surroundings Libusb ρ) (calls : Surroundings Sg ρ')
    (dev : DeviceModel σ) (world : World) (fuel : ℕ) (stack : MainStack) (name : List UInt8)
    (bus : ρ) (host : ρ') (state : σ) (stdin : ℕ → Option UInt8)
    {usbArgs sgArgs : List (List UInt8)} {options : Options} {usbName sgName : List UInt8}
    {handle : UsbHandle} {fd : ℕ}
    (husb : deviceArgument usbArgs = some (options, usbName))
    (hsg : deviceArgument sgArgs = some (options, sgName))
    (husbOpen : (exec libusb (openUsb (verbose usbArgs) (argumentText usbName)) bus).result =
      .ok (.ok handle))
    (hsgOpen : (exec calls (sgSubsystem.u3Open (verbose sgArgs) (argumentText sgName))
      host).result = .ok (.ok fd)) :
    let overUsb := exec (bench (usbBus libusb dev))
      (mainOn usbSubsystem world fuel stack name usbArgs) ⟨(bus, ⟨state, .ready⟩), stdin⟩
    let overSg := exec (bench (sgHost calls dev))
      (mainOn sgSubsystem world fuel stack name sgArgs) ⟨(host, state), stdin⟩
    overUsb.result = overSg.result ∧ dialogue overUsb.trace = dialogue overSg.trace ∧
      overUsb.final.device.2 = ⟨overSg.final.device.2, .ready⟩ ∧
      overUsb.final.stdin = overSg.final.stdin := by
  have hmain : main (opensAs world none) fuel stack name usbArgs =
      main (opensAs world none) fuel stack name sgArgs :=
    (@main_opensAs world fuel stack name usbArgs _ _ husb).1.trans
      (@main_opensAs world fuel stack name sgArgs _ _ hsg).1.symm
  obtain ⟨hopened, hbehind⟩ := exec_u3Open_sgHost calls dev (verbose sgArgs) (argumentText sgName)
    host state
  have husbOutcome := exec_usb_mainOn libusb dev world fuel stack name state stdin husb husbOpen
  have hsgOutcome := exec_mainOn world fuel stack name stdin hsg (hopened.trans hsgOpen)
    (transparent_sg calls dev fd) hbehind
  rw [hmain] at husbOutcome
  intro overUsb overSg
  refine ⟨husbOutcome.result.trans hsgOutcome.result.symm,
    husbOutcome.said.trans hsgOutcome.said.symm, ?_, ?_⟩
  · have hsgState : overSg.final.device.2 = _ := hsgOutcome.desk.1
    rw [hsgState]
    exact husbOutcome.desk.1
  · exact husbOutcome.desk.2.symm.trans hsgOutcome.desk.2

/-- A device that executes everything, answers property page 3 of a small data partition to all of
it, and counts. -/
def countingDevice : DeviceModel ℕ := fun count _ ↦
  ((true, 3 :: 0 :: 1 :: 0 :: 39 :: List.replicate 34 0), count + 1)

/-- A bus on which the known device can be opened. -/
def openBus : Surroundings Libusb Unit := fun _ call ↦ ((deafBus () (.left call)).1, ())

/-- The removal of the CD partition, confirmed, over either transport. -/
def removeCdInput (index : ℕ) : Option UInt8 := (ascii "y\n")[index]?

theorem transports_agree_witness :
    let overUsb := exec (bench (usbBus openBus countingDevice)) (mainOn usbSubsystem plainWorld 2
      zeroMainStack (ascii "u3-tool") [ascii "-p0", ascii "scan"])
      ⟨((), ⟨0, .ready⟩), removeCdInput⟩
    overUsb.result = .ok (.ok 0) ∧ overUsb.final.device.2 = ⟨5, .ready⟩ := by
  have hsg : (exec (bench (sgHost trayDevice countingDevice)) (mainOn sgSubsystem plainWorld 2
      zeroMainStack (ascii "u3-tool") [ascii "-p0", ascii "/dev/sg3"])
      ⟨(true, 0), removeCdInput⟩).result = .ok (.ok 0) := by decide +kernel
  have hcount : (exec (bench (sgHost trayDevice countingDevice)) (mainOn sgSubsystem plainWorld 2
      zeroMainStack (ascii "u3-tool") [ascii "-p0", ascii "/dev/sg3"])
      ⟨(true, 0), removeCdInput⟩).final.device.2 = 5 := by decide +kernel
  have hopen : (exec trayDevice ((sgOpen (argumentText (ascii "/dev/sg3"))).attempt :
      Program Sg Abort _) true).result = .ok (.ok 3) := by decide +kernel
  have husbArgs : deviceArgument [ascii "-p0", ascii "scan"] =
      some (⟨.partition, [], ascii "0"⟩, ascii "scan") := by decide +kernel
  have hsgArgs : deviceArgument [ascii "-p0", ascii "/dev/sg3"] =
      some (⟨.partition, [], ascii "0"⟩, ascii "/dev/sg3") := by decide +kernel
  have husbOpen : (exec openBus (openUsb (verbose [ascii "-p0", ascii "scan"])
      (argumentText (ascii "scan"))) ()).result = .ok (.ok ⟨some 7, 0, 1, 0x81⟩) := by
    decide +kernel
  obtain ⟨hresult, -, hdevice, -⟩ := transports_agree openBus trayDevice countingDevice plainWorld 2
    zeroMainStack (ascii "u3-tool") () true 0 removeCdInput husbArgs hsgArgs husbOpen hopen
  rw [hcount] at hdevice
  exact ⟨hresult.trans hsg, hdevice⟩

end U3Tool
