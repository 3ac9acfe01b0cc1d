import U3Tool.Commands
import U3Tool.UsbTransport

/-!
# Late replies on the IN pipe

A device behind the USB subsystem receives command block wrappers and data, and puts what it
produces for a command on its IN pipe: the data of an incoming data phase, then the command status
wrapper, which echoes the tag of the command. A read takes the first item of the pipe if the item
arrives before the timeout of that read; otherwise the read fails and the item stays queued
(`pipeDevice`). The schedule says of every read whether its item arrives in time.

Since the tag is 1 in every call, the tag check tells no command from another. A call that begins
with an empty pipe returns what the device produced for it (`usbSendCmd_own_reply`) without a failed
assertion (`usbSendCmd_returns_of_empty`), and the pipe is empty again after a success
(`Calls.queue_of_success`). A call that finds a late reply takes it for its own
(`usbSendCmd_oldest_status`, `usbSendCmd_stale_reply`).
-/

set_option autoImplicit false
set_option relaxedAutoImplicit false

namespace U3Tool

open Interaction Bytes Program

/-! ### The device -/

/-- What a device produces for one command: the data of an incoming data phase, and the residue and
status of the command status wrapper. -/
structure Production where
  data : List UInt8
  residue : UInt32
  status : UInt8

/-- The command status wrapper of a command with the given tag. -/
def Production.csw (production : Production) (tag : UInt32) : List UInt8 :=
  ascii "USBS" ++ (leBytes 4 tag.toNat ++ (leBytes 4 production.residue.toNat ++
    [production.status]))

/-- The state of the device: the items on the IN pipe, the bytes of outgoing data the current
command still expects with the status wrapper it owes after them, and how many commands and reads
there were. -/
structure Pipe where
  queue : List (List UInt8)
  pending : Option (ℕ × List UInt8)
  issued : ℕ
  reads : ℕ

namespace Pipe

/-- The device just opened. -/
def start : Pipe := ⟨[], none, 0, 0⟩

/-- Receives a command and puts items on the IN pipe. -/
def enqueue (pipe : Pipe) (items : List (List UInt8)) : Pipe :=
  { pipe with queue := pipe.queue ++ items, issued := pipe.issued + 1 }

/-- Receives a command block wrapper: the tag is at offset 4, the transfer length at 8, the flags
at 12. -/
def receiveCommand (pipe : Pipe) (production : Production) (wrapper : List UInt8) : Pipe :=
  let csw := production.csw (leUInt32 ((wrapper.drop 4).take 4))
  let length := leNat ((wrapper.drop 8).take 4)
  if (wrapper.drop 12).headD 0 = 0x80 then
    pipe.enqueue [production.data.take length, csw]
  else if length = 0 then
    pipe.enqueue [csw]
  else
    { pipe with pending := some (length, csw), issued := pipe.issued + 1 }

/-- Receives outgoing data; the status wrapper follows the last byte. -/
def receiveData (pipe : Pipe) (expected : ℕ) (csw data : List UInt8) : Pipe :=
  if expected ≤ data.length then
    { pipe with queue := pipe.queue ++ [csw], pending := none }
  else
    { pipe with pending := some (expected - data.length, csw) }

/-- A read takes the first item if it arrives in time. -/
def read (pipe : Pipe) (inTime : Bool) : Option (List UInt8) × Pipe :=
  match inTime, pipe.queue with
  | true, item :: rest => (some item, { pipe with queue := rest, reads := pipe.reads + 1 })
  | _, _ => (none, { pipe with reads := pipe.reads + 1 })

/-- A read takes the first item, or it fails and leaves the pipe as it is. -/
theorem read_cases (pipe : Pipe) (inTime : Bool) :
    (∃ item rest, pipe.queue = item :: rest ∧
      pipe.read inTime = (some item, { pipe with queue := rest, reads := pipe.reads + 1 })) ∨
    pipe.read inTime = (none, { pipe with reads := pipe.reads + 1 }) := by
  cases inTime with
  | false => exact Or.inr rfl
  | true =>
    cases hqueue : pipe.queue with
    | nil => exact Or.inr (by simp [read, hqueue])
    | cons item rest => exact Or.inl ⟨item, rest, rfl, by simp [read, hqueue]⟩

end Pipe

/-- The device: what it produces for each command, and which reads are answered in time. Writes
complete. -/
def pipeDevice (produce : ℕ → List UInt8 → Production) (inTime : ℕ → Bool) :
    Surroundings Usb Pipe := fun pipe request ↦
  match request with
  | .bulkWrite data =>
    (data.length,
      match pipe.pending with
      | none => pipe.receiveCommand (produce pipe.issued data) data
      | some (expected, csw) => pipe.receiveData expected csw data)
  | .bulkRead _ => pipe.read (inTime pipe.reads)

/-! ### One call -/

/-- The length of a data phase is an `int`, and that of an outgoing one is the length of the
caller's data. -/
structure CmdRequest.WellFormed (request : CmdRequest) : Prop where
  length_lt : request.length < 2 ^ 31
  length_data : request.direction ≠ .fromDev → request.data.length = request.dxferLength

/-- The data phase is no longer than the caller says. -/
theorem CmdRequest.dxferLength_le (request : CmdRequest) :
    request.dxferLength ≤ request.length := by
  unfold dxferLength
  split
  · exact Nat.zero_le _
  · exact le_rfl

/-- A call returns what the device produced for it. -/
def OwnReply (production : Production) (request : CmdRequest) (reply : CmdReply) : Prop :=
  ∀ status data, reply = .success status data → status = production.status ∧
    (request.direction = .fromDev → data = production.data.take request.dxferLength)

section Call

variable (produce : ℕ → List UInt8 → Production) (inTime : ℕ → Bool) {pipe : Pipe}
  {request : CmdRequest}

@[simp] theorem length_csw (production : Production) (tag : UInt32) :
    (production.csw tag).length = 13 := by
  simp [Production.csw, ascii]

/-- A received status wrapper carries the tag it echoes. -/
theorem cswTag_csw (production : Production) (tag : UInt32) :
    cswTag ((Buffer.fill 13 0).store 0 (production.csw tag)) = tag := by
  rw [cswTag, Buffer.word32, Buffer.slice_store_zero (by simp) (by norm_num)]
  simp [Production.csw, ascii]

/-- A received status wrapper carries the status of its command. -/
theorem cswStatus_csw (production : Production) (tag : UInt32) :
    cswStatus ((Buffer.fill 13 0).store 0 (production.csw tag)) = production.status := by
  have hdrop : (production.csw tag).drop 12 = [production.status] := by
    rw [Production.csw, ← List.append_assoc, ← List.append_assoc]
    exact List.drop_left' (by simp [ascii])
  rw [cswStatus, Buffer.slice_store_zero (by simp) (by norm_num), hdrop]
  rfl

/-! ### What a call does to the pipe -/

/-- The device reads the tag, the length and the flags of a command block wrapper where the
subsystem puts them. -/
theorem receiveCommand_cbw (hrequest : request.WellFormed) (production : Production) :
    pipe.receiveCommand production (cbw request) =
      if request.direction = .fromDev then
        pipe.enqueue [production.data.take request.dxferLength, production.csw cbwTag]
      else if request.dxferLength = 0 then
        pipe.enqueue [production.csw cbwTag]
      else
        { pipe with
          pending := some (request.dxferLength, production.csw cbwTag)
          issued := pipe.issued + 1 } := by
  have htag : leUInt32 (((cbw request).drop 4).take 4) = cbwTag := by
    simp [cbw, ascii]
  have hlength : leNat (((cbw request).drop 8).take 4) = request.dxferLength := by
    have hdrop : ((cbw request).drop 8).take 4 = leBytes 4 request.dxferLength := by
      rw [cbw, ← List.append_assoc, List.drop_left' (by simp [ascii]), List.take_left' (by simp)]
    have hlt : request.dxferLength < 2 ^ 31 :=
      lt_of_le_of_lt request.dxferLength_le hrequest.length_lt
    rw [hdrop, leNat_leBytes]
    exact Nat.mod_eq_of_lt (by omega)
  have hflags : (((cbw request).drop 12).headD 0 = 0x80) ↔ request.direction = .fromDev := by
    have hdrop : ((cbw request).drop 12).headD 0 = request.flags := by
      rw [cbw, ← List.append_assoc, ← List.append_assoc, List.drop_left' (by simp [ascii])]
      rfl
    rw [hdrop, CmdRequest.flags]
    cases request.direction <;> simp
  rw [Pipe.receiveCommand, htag, hlength]
  simp only [hflags]

/-- The device receives outgoing data to the last byte, then owes the status wrapper no longer. -/
theorem exec_writeData {data csw : List UInt8} {bytesSend : ℕ} (hless : bytesSend < data.length)
    (hpending : pipe.pending = some (data.length - bytesSend, csw)) :
    (exec (pipeDevice produce inTime) (writeData data data.length bytesSend) pipe).result =
        .ok true ∧
      (exec (pipeDevice produce inTime) (writeData data data.length bytesSend) pipe).final =
        { pipe with queue := pipe.queue ++ [csw], pending := none } := by
  induction hrest : data.length - bytesSend using Nat.strong_induction_on
    generalizing bytesSend pipe with
  | _ rest ih =>
    let plen := min (data.length - bytesSend) usbMaxPacketLen
    have hplen : ((data.drop bytesSend).take plen).length = plen := by
      rw [List.length_take, List.length_drop]
      exact min_eq_left (min_le_left _ _)
    have hpositive : 0 < plen := by
      simp only [plen, usbMaxPacketLen]
      omega
    have hdevice : pipeDevice produce inTime pipe (.bulkWrite ((data.drop bytesSend).take plen)) =
        ((plen : ℤ), pipe.receiveData (data.length - bytesSend) csw
          ((data.drop bytesSend).take plen)) := by
      simp only [pipeDevice, hpending, hplen]
    rw [writeData, if_pos hless]
    rw [exec_bulkWrite hdevice, if_neg (by omega)]
    by_cases hlast : bytesSend + plen < data.length
    · have hreceive : pipe.receiveData (data.length - bytesSend) csw
          ((data.drop bytesSend).take plen) =
          { pipe with pending := some (data.length - (bytesSend + plen), csw) } := by
        rw [Pipe.receiveData, hplen, if_neg (by omega), Nat.sub_sub]
      rw [hreceive]
      exact ih _ (by omega) hlast rfl rfl
    · have hreceive : pipe.receiveData (data.length - bytesSend) csw
          ((data.drop bytesSend).take plen) =
          { pipe with queue := pipe.queue ++ [csw], pending := none } := by
        rw [Pipe.receiveData, hplen, if_pos (by omega)]
      rw [hreceive, writeData, if_neg hlast]
      exact ⟨rfl, rfl⟩

/-- A call without an incoming data phase reads the status from a pipe to which its status wrapper
was added. -/
theorem exec_usbSendCmd_of_ne (hrequest : request.WellFormed) (hpending : pipe.pending = none)
    (hdirection : request.direction ≠ .fromDev) :
    (exec (pipeDevice produce inTime) (usbSendCmd request) pipe).result =
        (exec (pipeDevice produce inTime) (readStatus [])
          (pipe.enqueue [(produce pipe.issued (cbw request)).csw cbwTag])).result ∧
      (exec (pipeDevice produce inTime) (usbSendCmd request) pipe).final =
        (exec (pipeDevice produce inTime) (readStatus [])
          (pipe.enqueue [(produce pipe.issued (cbw request)).csw cbwTag])).final := by
  have hdevice : pipeDevice produce inTime pipe (.bulkWrite (cbw request)) =
      (((cbw request).length : ℤ),
        pipe.receiveCommand (produce pipe.issued (cbw request)) (cbw request)) := by
    simp only [pipeDevice, hpending]
  have hwritten : (exec (pipeDevice produce inTime)
        (writeData request.data request.dxferLength 0)
        (pipe.receiveCommand (produce pipe.issued (cbw request)) (cbw request))).result = .ok true ∧
      (exec (pipeDevice produce inTime) (writeData request.data request.dxferLength 0)
        (pipe.receiveCommand (produce pipe.issued (cbw request)) (cbw request))).final =
        pipe.enqueue [(produce pipe.issued (cbw request)).csw cbwTag] := by
    rw [receiveCommand_cbw hrequest, if_neg hdirection]
    split_ifs with hlength
    · rw [writeData, if_neg (by omega)]
      exact ⟨rfl, rfl⟩
    · rw [← hrequest.length_data hdirection] at hlength ⊢
      obtain ⟨hresult, hfinal⟩ := exec_writeData produce inTime
        (Nat.pos_of_ne_zero hlength) (show Pipe.pending { pipe with
          pending := some (request.data.length, (produce pipe.issued (cbw request)).csw cbwTag),
          issued := pipe.issued + 1 } = some (request.data.length - 0, _) from rfl)
      exact ⟨hresult, hfinal.trans (by rw [Pipe.enqueue, hpending])⟩
  rw [usbSendCmd_of_ne hdirection, exec_bulkWrite hdevice, if_neg (by simp [length_cbw]),
    exec_bind_ok hwritten.1, hwritten.2]
  exact ⟨rfl, rfl⟩

/-- A call with an incoming data phase reads data and status from a pipe to which both were
added. -/
theorem exec_usbSendCmd_fromDev (hrequest : request.WellFormed) (hpending : pipe.pending = none)
    (hdirection : request.direction = .fromDev) :
    (exec (pipeDevice produce inTime) (usbSendCmd request) pipe).result =
        (exec (pipeDevice produce inTime) (readData request.dxferLength)
          (pipe.enqueue [(produce pipe.issued (cbw request)).data.take request.dxferLength,
            (produce pipe.issued (cbw request)).csw cbwTag])).result ∧
      (exec (pipeDevice produce inTime) (usbSendCmd request) pipe).final =
        (exec (pipeDevice produce inTime) (readData request.dxferLength)
          (pipe.enqueue [(produce pipe.issued (cbw request)).data.take request.dxferLength,
            (produce pipe.issued (cbw request)).csw cbwTag])).final := by
  have hdevice : pipeDevice produce inTime pipe (.bulkWrite (cbw request)) =
      (((cbw request).length : ℤ), pipe.enqueue
        [(produce pipe.issued (cbw request)).data.take request.dxferLength,
          (produce pipe.issued (cbw request)).csw cbwTag]) := by
    simp only [pipeDevice, hpending, receiveCommand_cbw hrequest, if_pos hdirection]
  rw [usbSendCmd_of_eq hdirection, exec_bulkWrite hdevice, if_neg (by simp [length_cbw])]
  exact ⟨rfl, rfl⟩

/-- The status wrapper is the next item of the pipe. -/
theorem exec_readStatus (received : List UInt8) :
    ((exec (pipeDevice produce inTime) (readStatus received) pipe).final.pending = pipe.pending ∧
      (exec (pipeDevice produce inTime) (readStatus received) pipe).final.issued = pipe.issued) ∧
    ∀ status data, (exec (pipeDevice produce inTime) (readStatus received) pipe).result =
        .ok (.success status data) →
      ∃ item, pipe.queue =
          item :: (exec (pipeDevice produce inTime) (readStatus received) pipe).final.queue ∧
        status = cswStatus ((Buffer.fill 13 0).store 0 (item.take 13)) ∧ data = received := by
  rcases pipe.read_cases (inTime pipe.reads) with ⟨item, rest, hqueue, hread⟩ | hread
  · rw [readStatus, exec_bulkRead hread]
    simp only [Option.map_some]
    split_ifs with htag
    · exact ⟨⟨rfl, rfl⟩, fun _ _ hcontra ↦ absurd hcontra (by simp)⟩
    · refine ⟨⟨rfl, rfl⟩, fun status data hresult ↦ ⟨item, hqueue, ?_⟩⟩
      simp at hresult
      exact ⟨hresult.1.symm, hresult.2.symm⟩
  · rw [readStatus, exec_bulkRead hread]
    exact ⟨⟨rfl, rfl⟩, fun _ _ hcontra ↦ absurd hcontra (by simp)⟩

/-- The data is the next item of the pipe, the status wrapper the one after it. -/
theorem exec_readData (length : ℕ) :
    ((exec (pipeDevice produce inTime) (readData length) pipe).final.pending = pipe.pending ∧
      (exec (pipeDevice produce inTime) (readData length) pipe).final.issued = pipe.issued) ∧
    ∀ status data, (exec (pipeDevice produce inTime) (readData length) pipe).result =
        .ok (.success status data) →
      ∃ first second, pipe.queue = first :: second ::
          (exec (pipeDevice produce inTime) (readData length) pipe).final.queue ∧
        status = cswStatus ((Buffer.fill 13 0).store 0 (second.take 13)) ∧
        data = first.take length := by
  rcases pipe.read_cases (inTime pipe.reads) with ⟨first, rest, hqueue, hread⟩ | hread
  · rw [readData, exec_bulkRead hread]
    refine ⟨(exec_readStatus produce inTime _).1, fun status data hresult ↦ ?_⟩
    obtain ⟨second, hrest, hvalue, hdata⟩ :=
      (exec_readStatus produce inTime _).2 status data hresult
    refine ⟨first, second, ?_, hvalue, hdata⟩
    rw [hqueue]
    exact congrArg _ hrest
  · rw [readData, exec_bulkRead hread]
    exact ⟨⟨rfl, rfl⟩, fun _ _ hcontra ↦ absurd hcontra (by simp)⟩

/-- Whatever the pipe holds, a call sends one command and completes its data phase. -/
theorem exec_usbSendCmd_frame (hrequest : request.WellFormed) (hpending : pipe.pending = none) :
    (exec (pipeDevice produce inTime) (usbSendCmd request) pipe).final.pending = none ∧
      (exec (pipeDevice produce inTime) (usbSendCmd request) pipe).final.issued =
        pipe.issued + 1 := by
  by_cases hdirection : request.direction = .fromDev
  · rw [(exec_usbSendCmd_fromDev produce inTime hrequest hpending hdirection).2, ← hpending]
    exact (exec_readData produce inTime _).1
  · rw [(exec_usbSendCmd_of_ne produce inTime hrequest hpending hdirection).2, ← hpending]
    exact (exec_readStatus produce inTime _).1

/-- A successful call on an empty pipe returns what the device produced for it and leaves the pipe
empty. -/
theorem usbSendCmd_of_empty (hrequest : request.WellFormed) (hpending : pipe.pending = none)
    (hempty : pipe.queue = []) {status : UInt8} {data : List UInt8}
    (hresult : (exec (pipeDevice produce inTime) (usbSendCmd request) pipe).result =
      .ok (.success status data)) :
    (status = (produce pipe.issued (cbw request)).status ∧
      (request.direction = .fromDev →
        data = (produce pipe.issued (cbw request)).data.take request.dxferLength)) ∧
    (exec (pipeDevice produce inTime) (usbSendCmd request) pipe).final.queue = [] := by
  have htake (production : Production) :
      (production.csw cbwTag).take 13 = production.csw cbwTag :=
    List.take_of_length_le (by rw [length_csw])
  have hitems (items : List (List UInt8)) : (pipe.enqueue items).queue = items := by
    rw [Pipe.enqueue, hempty, List.nil_append]
  by_cases hdirection : request.direction = .fromDev
  · obtain ⟨hsame, hfinal⟩ := exec_usbSendCmd_fromDev produce inTime hrequest hpending hdirection
    rw [hsame] at hresult
    rw [hfinal]
    obtain ⟨first, second, hqueue, rfl, rfl⟩ :=
      (exec_readData produce inTime _).2 status data hresult
    rw [hitems] at hqueue
    obtain ⟨rfl, hwrapper⟩ := List.cons.inj hqueue
    obtain ⟨rfl, hrest⟩ := List.cons.inj hwrapper
    rw [htake, cswStatus_csw, List.take_take, min_self]
    exact ⟨⟨rfl, fun _ ↦ rfl⟩, hrest.symm⟩
  · obtain ⟨hsame, hfinal⟩ := exec_usbSendCmd_of_ne produce inTime hrequest hpending hdirection
    rw [hsame] at hresult
    rw [hfinal]
    obtain ⟨item, hqueue, rfl, rfl⟩ := (exec_readStatus produce inTime _).2 status data hresult
    rw [hitems] at hqueue
    obtain ⟨rfl, hrest⟩ := List.cons.inj hqueue
    rw [htake, cswStatus_csw]
    exact ⟨⟨rfl, fun hcontra ↦ absurd hcontra hdirection⟩, hrest.symm⟩

/-- The status is read without a failed assertion when the next item of the pipe carries the tag. -/
theorem exec_readStatus_returns {received : List UInt8}
    (htag : ∀ item rest, pipe.queue = item :: rest →
      cswTag ((Buffer.fill 13 0).store 0 (item.take 13)) = cbwTag) :
    ∃ reply, (exec (pipeDevice produce inTime) (readStatus received) pipe).result = .ok reply := by
  rcases pipe.read_cases (inTime pipe.reads) with ⟨item, rest, hqueue, hread⟩ | hread
  · rw [readStatus, exec_bulkRead hread]
    simp only [Option.map_some]
    rw [if_neg (not_not.mpr (htag item rest hqueue))]
    exact ⟨_, rfl⟩
  · rw [readStatus, exec_bulkRead hread]
    exact ⟨_, rfl⟩

/-- On an empty pipe no assertion fails: the only status wrapper a call can read is its own. -/
theorem usbSendCmd_returns_of_empty (hrequest : request.WellFormed)
    (hpending : pipe.pending = none) (hempty : pipe.queue = []) :
    ∃ reply, (exec (pipeDevice produce inTime) (usbSendCmd request) pipe).result = .ok reply := by
  set production := produce pipe.issued (cbw request) with hproduction
  have htag (item : List UInt8) (rest : List (List UInt8))
      (hitem : [production.csw cbwTag] = item :: rest) :
      cswTag ((Buffer.fill 13 0).store 0 (item.take 13)) = cbwTag := by
    obtain ⟨rfl, -⟩ := List.cons.inj hitem
    rw [List.take_of_length_le (by rw [length_csw]), cswTag_csw]
  by_cases hdirection : request.direction = .fromDev
  · rw [(exec_usbSendCmd_fromDev produce inTime hrequest hpending hdirection).1, ← hproduction]
    generalize hpipe : pipe.enqueue [production.data.take request.dxferLength,
      production.csw cbwTag] = filled
    have hfilled : filled.queue =
        [production.data.take request.dxferLength, production.csw cbwTag] := by
      rw [← hpipe, Pipe.enqueue, hempty, List.nil_append]
    rcases filled.read_cases (inTime filled.reads) with ⟨first, rest, hqueue, hread⟩ | hread
    · rw [readData, exec_bulkRead hread]
      obtain ⟨-, rfl⟩ := List.cons.inj (hfilled.symm.trans hqueue)
      exact exec_readStatus_returns produce inTime htag
    · rw [readData, exec_bulkRead hread]
      exact ⟨_, rfl⟩
  · rw [(exec_usbSendCmd_of_ne produce inTime hrequest hpending hdirection).1]
    refine exec_readStatus_returns produce inTime fun item rest hitem ↦ htag item rest ?_
    rw [← hitem, Pipe.enqueue, hempty, List.nil_append]

/-- A successful call without an incoming data phase returns the status in the oldest item of the
pipe, whichever command that item belongs to. -/
theorem usbSendCmd_oldest_status (hrequest : request.WellFormed) (hpending : pipe.pending = none)
    (hdirection : request.direction ≠ .fromDev) {item : List UInt8} {rest : List (List UInt8)}
    (hqueue : pipe.queue = item :: rest) {status : UInt8} {data : List UInt8}
    (hresult : (exec (pipeDevice produce inTime) (usbSendCmd request) pipe).result =
      .ok (.success status data)) :
    status = cswStatus ((Buffer.fill 13 0).store 0 (item.take 13)) := by
  rw [(exec_usbSendCmd_of_ne produce inTime hrequest hpending hdirection).1] at hresult
  obtain ⟨oldest, holdest, hstatus, -⟩ := (exec_readStatus produce inTime _).2 status data hresult
  rw [Pipe.enqueue, hqueue, List.cons_append] at holdest
  rw [hstatus, (List.cons.inj holdest).1]

end Call

/-! ### Runs of calls on one handle -/

/-- A call of a run: the device before it, the request and the reply. -/
structure Call where
  before : Pipe
  request : CmdRequest
  reply : CmdReply

/-- Calls one after the other on one handle. A run ends when an assertion fails. -/
inductive Calls (produce : ℕ → List UInt8 → Production) (inTime : ℕ → Bool) :
    Pipe → List Call → Prop
  | nil (pipe : Pipe) : Calls produce inTime pipe []
  | cons {pipe : Pipe} {request : CmdRequest} {reply : CmdReply} {calls : List Call}
      (hrequest : request.WellFormed)
      (hreply : (exec (pipeDevice produce inTime) (usbSendCmd request) pipe).result = .ok reply)
      (hcalls : Calls produce inTime
        (exec (pipeDevice produce inTime) (usbSendCmd request) pipe).final calls) :
      Calls produce inTime pipe (⟨pipe, request, reply⟩ :: calls)

namespace Calls

variable {produce : ℕ → List UInt8 → Production} {inTime : ℕ → Bool} {pipe : Pipe}
  {calls : List Call} {i : ℕ} {call : Call}

/-- Every call of a run finds the data phases before it completed and is the next command. -/
theorem before_of_getElem? (hcalls : Calls produce inTime pipe calls)
    (hpending : pipe.pending = none) (hcall : calls[i]? = some call) :
    call.before.pending = none ∧ call.before.issued = pipe.issued + i ∧
      call.request.WellFormed ∧
      (exec (pipeDevice produce inTime) (usbSendCmd call.request) call.before).result =
        .ok call.reply := by
  induction hcalls generalizing i with
  | nil pipe => simp at hcall
  | cons hrequest hreply _ ih =>
    obtain ⟨hafter, hissued⟩ := exec_usbSendCmd_frame produce inTime hrequest hpending
    cases i with
    | zero =>
      obtain rfl := Option.some.inj hcall
      exact ⟨hpending, rfl, hrequest, hreply⟩
    | succ i =>
      obtain ⟨hnone, hnumber, hrest⟩ := ih hafter hcall
      exact ⟨hnone, by rw [hnumber, hissued]; omega, hrest⟩

/-- As long as every call of a run succeeds, the next call finds the pipe empty. -/
theorem queue_of_success (hcalls : Calls produce inTime pipe calls)
    (hpending : pipe.pending = none) (hempty : pipe.queue = []) (hcall : calls[i]? = some call)
    (hsuccess : ∀ earlier ∈ calls.take i, ∃ status data, earlier.reply = .success status data) :
    call.before.queue = [] := by
  induction hcalls generalizing i with
  | nil pipe => simp at hcall
  | cons hrequest hreply _ ih =>
    cases i with
    | zero =>
      obtain rfl := Option.some.inj hcall
      exact hempty
    | succ i =>
      rw [List.take_succ_cons] at hsuccess
      obtain ⟨⟨status, data, rfl⟩, hlater⟩ := List.forall_mem_cons.mp hsuccess
      exact ih (exec_usbSendCmd_frame produce inTime hrequest hpending).1
        (usbSendCmd_of_empty produce inTime hrequest hpending hempty hreply).2 hcall hlater

end Calls

/-- In every run of calls on one handle, whichever replies are late: a call that finds no late reply
on the IN pipe and succeeds returns the status and the data the device produced for it. -/
theorem usbSendCmd_own_reply {produce : ℕ → List UInt8 → Production} {inTime : ℕ → Bool}
    {calls : List Call} (hcalls : Calls produce inTime Pipe.start calls) {i : ℕ} {call : Call}
    (hcall : calls[i]? = some call) (hempty : call.before.queue = []) :
    OwnReply (produce i (cbw call.request)) call.request call.reply := by
  obtain ⟨hpending, hissued, hrequest, hresult⟩ := hcalls.before_of_getElem? rfl hcall
  have hi : call.before.issued = i := by
    rw [hissued]
    exact Nat.zero_add i
  intro status data hreply
  rw [hreply] at hresult
  have hown := (usbSendCmd_of_empty produce inTime hrequest hpending hempty hresult).1
  rwa [hi] at hown

/-- An unlock command with a hash of zeros. -/
def zeroUnlock : CmdRequest := ⟨unlockCommand, .toDev, 16, List.replicate 16 0⟩

theorem wellFormed_zeroUnlock : zeroUnlock.WellFormed :=
  ⟨by decide, fun _ ↦ by decide⟩

/-- A device that takes the first unlock and refuses the later ones. -/
def unlockOnce : ℕ → List UInt8 → Production := fun n _ ↦ ⟨[], 0, if n = 0 then 0 else 1⟩

/-- Two unlock commands whose replies all arrive in time. -/
theorem calls_in_time : Calls unlockOnce (fun _ ↦ true) Pipe.start
    [⟨Pipe.start, zeroUnlock, .success 0 []⟩,
      ⟨(exec (pipeDevice unlockOnce fun _ ↦ true) (usbSendCmd zeroUnlock) Pipe.start).final,
        zeroUnlock, .success 1 []⟩] :=
  .cons wellFormed_zeroUnlock (by decide +kernel)
    (.cons wellFormed_zeroUnlock (by decide +kernel) (.nil _))

theorem usbSendCmd_own_reply_witness :
    OwnReply (unlockOnce 1 (cbw zeroUnlock)) zeroUnlock (.success 1 []) :=
  usbSendCmd_own_reply calls_in_time (i := 1) rfl (by decide +kernel)

/-- Two unlock commands; the status of the first arrives after its timeout. -/
theorem calls_first_late : Calls unlockOnce (fun n ↦ n ≠ 0) Pipe.start
    [⟨Pipe.start, zeroUnlock,
        .failure (usbError "Could not read command status from device")⟩,
      ⟨(exec (pipeDevice unlockOnce fun n ↦ n ≠ 0) (usbSendCmd zeroUnlock) Pipe.start).final,
        zeroUnlock, .success 0 []⟩] :=
  .cons wellFormed_zeroUnlock (by decide +kernel)
    (.cons wellFormed_zeroUnlock (by decide +kernel) (.nil _))

/-- The device takes the first of two unlock commands and refuses the second; the second call
succeeds with the late status of the first. -/
theorem usbSendCmd_stale_reply :
    ¬ ∀ (produce : ℕ → List UInt8 → Production) (inTime : ℕ → Bool) (calls : List Call),
      Calls produce inTime Pipe.start calls → ∀ (i : ℕ) (call : Call), calls[i]? = some call →
        OwnReply (produce i (cbw call.request)) call.request call.reply := by
  intro hown
  have hsecond := hown unlockOnce (fun n ↦ n ≠ 0) _ calls_first_late 1 _ rfl
  exact absurd (hsecond 0 [] rfl).1 (by decide)

end U3Tool
