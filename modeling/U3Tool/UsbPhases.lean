import U3Tool.Commands
import U3Tool.UsbTransport

/-!
# The data phase and the status phase over USB

Every run of `u3_send_cmd` over USB either fails before the status of the command has been read, or
writes the command block wrapper, carries out the data phase and reads one command status wrapper,
which decides the result (`run_usbSendCmd`).

In an outgoing data phase the loop advances by the number of bytes it offered, whatever number the
bus accepted. The bytes it offers are the buffer (`offered_of_run_writeData`), so a call that
succeeds has delivered the buffer exactly when every write accepted what it was offered
(`usbSendCmd_delivers_iff`). A status wrapper is read into a zeroed structure of which only the tag
is compared, by an assertion: a reply is treated as it should be exactly when it is complete, signed
and carries the tag (`usbSendCmd_csw_iff`).
-/

set_option autoImplicit false
set_option relaxedAutoImplicit false

namespace U3Tool

open Interaction Bytes Program

variable {α : Type} {trace : List (Event Usb)}

/-! ### Runs of one transfer -/

/-- A sequence that begins with a write goes on with its count. -/
theorem run_bulkWrite_bind {data : List UInt8} {continuation : ℤ → UsbProgram α}
    {result : Except Abort α} :
    Run (bulkWrite data >>= continuation) trace result ↔
      ∃ (res : ℤ) (rest : List (Event Usb)), trace = ⟨.bulkWrite data, res⟩ :: rest ∧
        Run (continuation res) rest result :=
  run_ask

/-- A sequence that begins with a read goes on with what was received. -/
theorem run_bulkRead_bind {size : ℕ} {continuation : Option (List UInt8) → UsbProgram α}
    {result : Except Abort α} :
    Run (bulkRead size >>= continuation) trace result ↔
      ∃ (received : Option (List UInt8)) (rest : List (Event Usb)),
        trace = ⟨.bulkRead size, received⟩ :: rest ∧
          Run (continuation (received.map fun bytes ↦ bytes.take size)) rest result :=
  run_ask

/-! ### The status phase -/

/-- What `u3_send_cmd` returns for what the read of the command status wrapper delivered. -/
def statusResult (received : List UInt8) : Option (List UInt8) → Except Abort CmdReply
  | none => .ok (.failure (usbError "Could not read command status from device"))
  | some bytes =>
    let csw := (Buffer.fill 13 0).store 0 (bytes.take 13)
    if cswTag csw ≠ cbwTag then .error .assertion
    else .ok (.success (cswStatus csw) received)

/-- The status phase is one read, which decides the result. -/
theorem run_readStatus {received : List UInt8} {result : Except Abort CmdReply}
    (hrun : Run (readStatus received) trace result) :
    ∃ reply : Option (List UInt8), trace = [⟨.bulkRead 13, reply⟩] ∧
      result = statusResult received reply := by
  obtain ⟨reply, rest, rfl, hrest⟩ := run_bulkRead_bind.mp hrun
  refine ⟨reply, ?_⟩
  cases reply with
  | none =>
    obtain ⟨rfl, rfl⟩ := run_done.mp hrest
    exact ⟨rfl, rfl⟩
  | some bytes =>
    simp only [Option.map_some, statusResult] at hrest ⊢
    split_ifs at hrest ⊢ with htag
    · obtain ⟨rfl, rfl⟩ := run_fail.mp hrest
      exact ⟨rfl, rfl⟩
    · obtain ⟨rfl, rfl⟩ := run_done.mp hrest
      exact ⟨rfl, rfl⟩

/-! ### A whole call -/

/-- The events of a data phase that was carried out, and the bytes received in it. -/
inductive DataPhase (request : CmdRequest) : List (Event Usb) → List UInt8 → Prop
  | outgoing {events : List (Event Usb)} (hdirection : request.direction ≠ .fromDev)
      (hrun : Run (writeData request.data request.dxferLength 0) events (.ok true)) :
      DataPhase request events []
  | incoming {bytes : List UInt8} (hdirection : request.direction = .fromDev) :
      DataPhase request [⟨.bulkRead request.dxferLength, some bytes⟩]
        (bytes.take request.dxferLength)

/-- The event is a read that received something, if only an empty byte string. -/
def Received : Event Usb → Prop
  | ⟨.bulkWrite _, _⟩ => False
  | ⟨.bulkRead _, received⟩ => received ≠ none

/-- The loop returns, and it only writes. -/
theorem run_writeData {data : List UInt8} {dxferLength bytesSend : ℕ} {result : Except Abort Bool}
    (hrun : Run (writeData data dxferLength bytesSend) trace result) :
    (∃ written, result = .ok written) ∧ ∀ event ∈ trace, ¬ Received event := by
  induction hremaining : dxferLength - bytesSend using Nat.strong_induction_on
    generalizing bytesSend trace with
  | _ remaining ih =>
    rw [writeData] at hrun
    split_ifs at hrun with hmore
    · obtain ⟨res, rest, rfl, hrest⟩ := run_bulkWrite_bind.mp hrun
      split_ifs at hrest with hfailed
      · obtain ⟨rfl, rfl⟩ := run_done.mp hrest
        exact ⟨⟨_, rfl⟩, by simp [Received]⟩
      · obtain ⟨hwritten, hevents⟩ := ih _ (by simp only [usbMaxPacketLen]; omega) hrest rfl
        exact ⟨hwritten, List.forall_mem_cons.mpr ⟨id, hevents⟩⟩
    · obtain ⟨rfl, rfl⟩ := run_done.mp hrun
      exact ⟨⟨_, rfl⟩, by simp⟩

/-- A call fails before the command status wrapper has been read, and its last transfer received
nothing; or the wrapper of the command is written whole, the data phase is carried out and
the status phase decides the result. -/
theorem run_usbSendCmd {request : CmdRequest} {result : Except Abort CmdReply}
    (hrun : Run (usbSendCmd request) trace result) :
    (∃ error first last, result = .ok (.failure error) ∧ trace = first ++ [last] ∧
        ¬ Received last) ∨
      ∃ phase received, ∃ reply : Option (List UInt8),
        trace = ⟨.bulkWrite (cbw request), (31 : ℤ)⟩ :: (phase ++ [⟨.bulkRead 13, reply⟩]) ∧
          DataPhase request phase received ∧ result = statusResult received reply := by
  by_cases hdirection : request.direction = .fromDev
  · rw [usbSendCmd_of_eq hdirection] at hrun
    obtain ⟨res, rest, rfl, hrest⟩ := run_bulkWrite_bind.mp hrun
    split_ifs at hrest with hres
    · obtain ⟨rfl, rfl⟩ := run_done.mp hrest
      exact Or.inl ⟨_, [], _, rfl, rfl, id⟩
    · obtain rfl : res = 31 := not_not.mp hres
      obtain ⟨data, last, rfl, hlast⟩ := run_bulkRead_bind.mp hrest
      cases data with
      | none =>
        obtain ⟨rfl, rfl⟩ := run_done.mp hlast
        exact Or.inl ⟨_, [_], _, rfl, rfl, fun hreceived ↦ hreceived rfl⟩
      | some bytes =>
        obtain ⟨reply, rfl, rfl⟩ := run_readStatus hlast
        exact Or.inr ⟨_, _, reply, rfl, .incoming hdirection, rfl⟩
  · rw [usbSendCmd_of_ne hdirection] at hrun
    obtain ⟨res, rest, rfl, hrest⟩ := run_bulkWrite_bind.mp hrun
    split_ifs at hrest with hres
    · obtain ⟨rfl, rfl⟩ := run_done.mp hrest
      exact Or.inl ⟨_, [], _, rfl, rfl, id⟩
    · obtain rfl : res = 31 := not_not.mp hres
      rcases run_bind.mp hrest with ⟨abort, -, habort⟩ | ⟨phase, written, last, rfl, hphase, hlast⟩
      · obtain ⟨⟨_, hcontra⟩, -⟩ := run_writeData habort
        exact absurd hcontra (by simp)
      · cases written with
        | false =>
          obtain ⟨rfl, rfl⟩ := run_done.mp hlast
          rw [List.append_nil]
          obtain ⟨-, hevents⟩ := run_writeData hphase
          rcases List.eq_nil_or_concat' phase with rfl | ⟨first, last, rfl⟩
          · exact Or.inl ⟨_, [], _, rfl, rfl, id⟩
          · exact Or.inl ⟨_, _ :: first, last, rfl, rfl, hevents last (by simp)⟩
        | true =>
          obtain ⟨reply, rfl, rfl⟩ := run_readStatus hlast
          exact Or.inr ⟨phase, [], reply, rfl, .outgoing hdirection hphase, rfl⟩

/-- A call with an outgoing data phase of one chunk, whose wrapper is written whole. -/
theorem run_usbSendCmd_one_chunk {request : CmdRequest} (hdirection : request.direction = .toDev)
    (hlength : request.data.length = request.length) (hsome : 0 < request.length)
    (hchunk : request.length ≤ usbMaxPacketLen) {count : ℤ} (hcount : 0 ≤ count)
    (reply : Option (List UInt8)) :
    Run (usbSendCmd request)
      [⟨.bulkWrite (cbw request), (31 : ℤ)⟩, ⟨.bulkWrite request.data, count⟩,
        ⟨.bulkRead 13, reply⟩] (statusResult [] reply) := by
  have hdxfer : request.dxferLength = request.length := by simp [CmdRequest.dxferLength, hdirection]
  have hoffer : (request.data.drop 0).take (min (request.length - 0) usbMaxPacketLen) =
      request.data := by
    rw [List.drop_zero, Nat.sub_zero, min_eq_left hchunk, ← hlength, List.take_length]
  have hwrite : Run (writeData request.data request.length 0) [⟨.bulkWrite request.data, count⟩]
      (.ok true) := by
    rw [writeData, if_pos hsome]
    dsimp only
    rw [hoffer]
    refine run_bulkWrite_bind.mpr ⟨count, [], rfl, ?_⟩
    rw [if_neg (not_lt.mpr hcount), Nat.sub_zero, min_eq_left hchunk, writeData,
      if_neg (by omega)]
    exact .done true
  have hstatus : Run (readStatus []) [⟨.bulkRead 13, reply⟩] (statusResult [] reply) := by
    refine run_bulkRead_bind.mpr ⟨reply, [], rfl, ?_⟩
    cases reply with
    | none => exact .done _
    | some bytes =>
      simp only [Option.map_some, statusResult]
      split_ifs
      · exact .fail _
      · exact .done _
  rw [usbSendCmd_of_ne (by simp [hdirection]), hdxfer]
  refine run_bulkWrite_bind.mpr ⟨31, _, rfl, ?_⟩
  rw [if_neg (by simp)]
  exact Run.bind hwrite hstatus

/-! ### An unlock over USB -/

/-- An unlock with a password hash of 16 equal bytes. -/
def unlockRequest : CmdRequest := ⟨unlockCommand, .toDev, 16, List.replicate 16 0xAA⟩

/-- The status wrapper a device sends for a command it accepts. -/
def acceptingCsw : List UInt8 := ascii "USBS" ++ leBytes 4 1 ++ leBytes 4 0 ++ [0]

/-- The transfers of the unlock: its hash is offered in one write, which accepts some bytes. -/
def unlockTrace (count : ℤ) (csw : List UInt8) : List (Event Usb) :=
  [⟨.bulkWrite (cbw unlockRequest), (31 : ℤ)⟩, ⟨.bulkWrite unlockRequest.data, count⟩,
    ⟨.bulkRead 13, some csw⟩]

/-- Whatever the write of the hash accepts, the status phase decides. -/
theorem run_unlockRequest {count : ℤ} (hcount : 0 ≤ count) (csw : List UInt8) :
    Run (usbSendCmd unlockRequest) (unlockTrace count csw) (statusResult [] (some csw)) :=
  run_usbSendCmd_one_chunk rfl rfl (by decide) (by decide) hcount (some csw)

/-! ### The outgoing data phase -/

/-- The bytes a transfer offered to the device. -/
def offered : Event Usb → List UInt8
  | ⟨.bulkWrite data, _⟩ => data
  | ⟨.bulkRead _, _⟩ => []

/-- The bytes the device accepted in a transfer: of a write, as many as its count says. -/
def accepted : Event Usb → List UInt8
  | ⟨.bulkWrite data, count⟩ => data.take count.toNat
  | ⟨.bulkRead _, _⟩ => []

/-- A write accepts no more bytes than it was offered, or it fails. -/
def WithinOffer : Event Usb → Prop
  | ⟨.bulkWrite data, count⟩ => count ≤ data.length
  | ⟨.bulkRead _, _⟩ => True

/-- A write accepts every byte it was offered. -/
def TakenWhole : Event Usb → Prop
  | ⟨.bulkWrite data, count⟩ => count = data.length
  | ⟨.bulkRead _, _⟩ => True

/-- A transfer that did not fail. -/
def Succeeded : Event Usb → Prop
  | ⟨.bulkWrite _, count⟩ => 0 ≤ count
  | ⟨.bulkRead _, received⟩ => received ≠ none

/-- What a write accepts begins what it was offered. -/
theorem length_accepted_le (event : Event Usb) :
    (accepted event).length ≤ (offered event).length := by
  obtain ⟨data | size, reply⟩ := event
  · exact List.length_take_le' _ _
  · exact le_rfl

/-- A write that accepts as many bytes as it was offered accepts every byte. -/
theorem takenWhole_iff_length {event : Event Usb} (hbus : WithinOffer event)
    (hsucceeded : Succeeded event) :
    TakenWhole event ↔ (accepted event).length = (offered event).length := by
  match event, hbus, hsucceeded with
  | ⟨.bulkWrite data, (count : ℤ)⟩, hmost, hleast =>
    have hmost' : count ≤ data.length := hmost
    have hleast' : 0 ≤ count := hleast
    change count = data.length ↔ (data.take count.toNat).length = data.length
    rw [List.length_take]
    omega
  | ⟨.bulkRead _, _⟩, _, _ => exact iff_of_true trivial rfl

/-- What a write that accepts every byte accepts is what it was offered. -/
theorem accepted_of_takenWhole {event : Event Usb} (htaken : TakenWhole event) :
    accepted event = offered event := by
  obtain ⟨data | size, reply⟩ := event
  · obtain rfl : reply = data.length := htaken
    exact List.take_length
  · rfl

/-- The bytes accepted by a sequence of writes are those offered exactly when every write accepted
what it was offered: a write can only fall short, and no other makes up for it. -/
theorem flatMap_accepted_iff {events : List (Event Usb)}
    (hbus : ∀ event ∈ events, WithinOffer event)
    (hsucceeded : ∀ event ∈ events, Succeeded event) :
    events.flatMap accepted = events.flatMap offered ↔ ∀ event ∈ events, TakenWhole event := by
  constructor
  · intro hequal
    have hlengths : (events.map fun event ↦ (accepted event).length).sum =
        (events.map fun event ↦ (offered event).length).sum := by
      simpa only [List.length_flatMap] using congrArg List.length hequal
    intro event hevent
    refine (takenWhole_iff_length (hbus event hevent) (hsucceeded event hevent)).mpr ?_
    by_contra hshort
    exact absurd hlengths (ne_of_lt (List.sum_lt_sum _ _ (fun other _ ↦ length_accepted_le other)
      ⟨event, hevent, lt_of_le_of_ne (length_accepted_le event) hshort⟩))
  · exact fun htaken ↦ List.flatMap_congr fun event hevent ↦
      accepted_of_takenWhole (htaken event hevent)

/-- The loop that completes offers what it was given from where it starts, in order and once, and
none of its writes failed. -/
theorem offered_of_run_writeData {data : List UInt8} {dxferLength bytesSend : ℕ}
    (hrun : Run (writeData data dxferLength bytesSend) trace (.ok true)) :
    trace.flatMap offered = (data.drop bytesSend).take (dxferLength - bytesSend) ∧
      ∀ event ∈ trace, Succeeded event := by
  induction hremaining : dxferLength - bytesSend using Nat.strong_induction_on
    generalizing bytesSend trace with
  | _ remaining ih =>
    rw [writeData] at hrun
    split_ifs at hrun with hmore
    · obtain ⟨res, rest, rfl, hrest⟩ := run_bulkWrite_bind.mp hrun
      split_ifs at hrest with hfailed
      · obtain ⟨-, hfalse⟩ := run_done.mp hrest
        exact absurd hfalse (by simp)
      · obtain ⟨hoffered, hsucceeded⟩ := ih _ (by simp only [usbMaxPacketLen]; omega) hrest rfl
        refine ⟨?_, List.forall_mem_cons.mpr ⟨not_lt.mp hfailed, hsucceeded⟩⟩
        -- what this write offers and what the later ones offer are adjacent pieces of the rest
        rw [List.flatMap_cons, hoffered, ← List.drop_drop, hremaining]
        change (data.drop bytesSend).take (min remaining usbMaxPacketLen) ++ _ = _
        rw [show dxferLength - (bytesSend + min remaining usbMaxPacketLen) =
          remaining - min remaining usbMaxPacketLen from by omega, ← List.take_add,
          Nat.add_sub_cancel' (min_le_left _ _)]
    · obtain ⟨rfl, -⟩ := run_done.mp hrun
      rw [← hremaining, Nat.sub_eq_zero_of_le (not_lt.mp hmore)]
      simp

/-- A call with an outgoing data phase that succeeds has delivered the buffer exactly when every
write of the data phase accepted all the bytes it was offered. -/
theorem usbSendCmd_delivers_iff {request : CmdRequest} (hdirection : request.direction = .toDev)
    (hlength : request.data.length = request.length) {status : UInt8} {received : List UInt8}
    (hrun : Run (usbSendCmd request) trace (.ok (.success status received)))
    (hbus : ∀ event ∈ trace, WithinOffer event) :
    trace.tail.flatMap accepted = request.data ↔ ∀ event ∈ trace.tail, TakenWhole event := by
  rcases run_usbSendCmd hrun with ⟨error, -, -, hfailure, -⟩ |
    ⟨phase, bytes, reply, rfl, hphase, -⟩
  · exact absurd hfailure (by simp)
  cases hphase with
  | incoming hfromDev => exact absurd (hdirection.symm.trans hfromDev) (by simp)
  | outgoing _ hwrite =>
    have hdxfer : request.dxferLength = request.data.length := by
      simp [CmdRequest.dxferLength, hdirection, hlength]
    obtain ⟨hoffered, hsucceeded⟩ := offered_of_run_writeData hwrite
    rw [hdxfer, Nat.sub_zero, List.drop_zero, List.take_length] at hoffered
    have hphaseBus : ∀ event ∈ phase, WithinOffer event := fun event hevent ↦
      hbus event (List.mem_cons_of_mem _ (List.mem_append_left _ hevent))
    -- the read of the status wrapper accepts nothing and is no write
    rw [List.tail_cons, List.flatMap_append, List.forall_mem_append, ← hoffered,
      List.flatMap_singleton, List.forall_mem_singleton]
    change phase.flatMap accepted ++ [] = _ ↔ _ ∧ True
    rw [List.append_nil, and_true]
    exact flatMap_accepted_iff hphaseBus hsucceeded

theorem usbSendCmd_delivers_iff_witness :
    (unlockTrace 16 acceptingCsw).tail.flatMap accepted = unlockRequest.data := by
  have hrun : Run (usbSendCmd unlockRequest) (unlockTrace 16 acceptingCsw)
      (.ok (.success 0 [])) := run_unlockRequest (by norm_num) acceptingCsw
  refine (usbSendCmd_delivers_iff rfl rfl hrun ?_).mpr ?_
  · simp [unlockTrace, WithinOffer, length_cbw, unlockRequest]
  · simp [unlockTrace, TakenWhole, unlockRequest]

/-- A write that accepts 8 of the 16 bytes of a hash: the call succeeds, and the device has half of
the hash. -/
theorem usbSendCmd_loses_short_write :
    ¬ ∀ (request : CmdRequest) (trace : List (Event Usb)) (status : UInt8)
      (received : List UInt8), request.direction = .toDev →
      request.data.length = request.length →
      Run (usbSendCmd request) trace (.ok (.success status received)) →
      (∀ event ∈ trace, WithinOffer event) → trace.tail.flatMap accepted = request.data := by
  intro hclaim
  have hrun : Run (usbSendCmd unlockRequest) (unlockTrace 8 acceptingCsw)
      (.ok (.success 0 [])) := run_unlockRequest (by norm_num) acceptingCsw
  have hdelivered := hclaim _ _ _ _ rfl rfl hrun
    (by simp [unlockTrace, WithinOffer, length_cbw, unlockRequest])
  exact absurd (congrArg List.length hdelivered)
    (by simp [unlockTrace, accepted, unlockRequest])

/-! ### The status wrapper -/

/-- A status wrapper is complete, signed and carries the tag of the command. -/
structure CswValid (csw : List UInt8) : Prop where
  length_eq : csw.length = 13
  signature_eq : csw.take 4 = ascii "USBS"
  tag_eq : leUInt32 ((csw.drop 4).take 4) = cbwTag

instance (csw : List UInt8) : Decidable (CswValid csw) :=
  decidable_of_iff (csw.length = 13 ∧ csw.take 4 = ascii "USBS" ∧
    leUInt32 ((csw.drop 4).take 4) = cbwTag)
    ⟨fun ⟨hlength, hsignature, htag⟩ ↦ ⟨hlength, hsignature, htag⟩,
      fun ⟨hlength, hsignature, htag⟩ ↦ ⟨hlength, hsignature, htag⟩⟩

/-- A call treats a received status wrapper as it should: it returns; it returns success only for a
valid wrapper and with the status byte of it; and it returns failure for any other. -/
structure CswHandled (csw : List UInt8) (result : Except Abort CmdReply) : Prop where
  returns : ∃ reply, result = .ok reply
  success_only : ∀ status data, result = .ok (.success status data) →
    CswValid csw ∧ csw[12]? = some status
  failure_else : ¬ CswValid csw → ∃ error, result = .ok (.failure error)

/-- The tag of a complete status wrapper is the one it carries. -/
theorem cswTag_of_length {csw : List UInt8} (hlength : csw.length = 13) :
    cswTag ((Buffer.fill 13 0).store 0 csw) = leUInt32 ((csw.drop 4).take 4) := by
  rw [cswTag, Buffer.word32, Buffer.slice_store_zero (by omega) (by norm_num)]

/-- The status of a complete status wrapper is its last byte. -/
theorem cswStatus_of_length {csw : List UInt8} (hlength : csw.length = 13) :
    csw[12]? = some (cswStatus ((Buffer.fill 13 0).store 0 csw)) := by
  have hlast : csw.drop 12 = [csw[12]] := by
    rw [List.drop_eq_getElem_cons (by omega), List.drop_eq_nil_of_le (by omega)]
  rw [cswStatus, Buffer.slice_store_zero (by omega) (by norm_num), hlast]
  exact List.getElem?_eq_getElem (by omega)

/-- A received status wrapper is treated as it should be exactly when it is valid. -/
theorem usbSendCmd_csw_iff {request : CmdRequest} {before : List (Event Usb)} {csw : List UInt8}
    {result : Except Abort CmdReply}
    (hrun : Run (usbSendCmd request) (before ++ [⟨.bulkRead 13, some csw⟩]) result)
    (hlength : csw.length ≤ 13) : CswHandled csw result ↔ CswValid csw := by
  rcases run_usbSendCmd hrun with ⟨error, first, last, -, htrace, hlast⟩ |
    ⟨phase, received, reply, htrace, -, hresult⟩
  · -- a call that fails earlier ends with a transfer that received nothing
    obtain ⟨-, hevents⟩ := List.append_inj' htrace rfl
    rw [← List.singleton_inj.mp hevents] at hlast
    exact absurd (by simp [Received]) hlast
  · rw [← List.cons_append] at htrace
    obtain ⟨-, hevents⟩ := List.append_inj' htrace rfl
    obtain rfl : some csw = reply := eq_of_heq (Event.mk.inj (List.singleton_inj.mp hevents)).2
    rw [statusResult, List.take_of_length_le hlength] at hresult
    subst hresult
    constructor
    · intro hhandled
      by_contra hinvalid
      obtain ⟨error, hfailure⟩ := hhandled.failure_else hinvalid
      split_ifs at hfailure
      exact absurd hfailure (by simp)
    · intro hvalid
      rw [if_neg (by rw [cswTag_of_length hvalid.length_eq, hvalid.tag_eq]; simp)]
      refine ⟨⟨_, rfl⟩, fun status data hsuccess ↦ ⟨hvalid, ?_⟩, fun hinvalid ↦
        absurd hvalid hinvalid⟩
      obtain ⟨rfl, -⟩ := CmdReply.success.inj (Except.ok.inj hsuccess)
      exact cswStatus_of_length hvalid.length_eq

theorem usbSendCmd_csw_iff_witness : CswHandled acceptingCsw (.ok (.success 0 [])) := by
  have hrun : Run (usbSendCmd unlockRequest)
      ([⟨.bulkWrite (cbw unlockRequest), (31 : ℤ)⟩, ⟨.bulkWrite unlockRequest.data, (16 : ℤ)⟩] ++
        [⟨.bulkRead 13, some acceptingCsw⟩]) (.ok (.success 0 [])) :=
    run_unlockRequest (by norm_num) acceptingCsw
  exact (usbSendCmd_csw_iff hrun (by decide)).mpr (by decide)

/-- A device that answers an unlock with an empty status wrapper ends the program by a failed
assertion, and five bytes, the signature and a first byte of the tag, pass for a status of 0. -/
theorem usbSendCmd_accepts_truncated_csw :
    Run (usbSendCmd unlockRequest) (unlockTrace 16 []) (.error .assertion) ∧
      Run (usbSendCmd unlockRequest) (unlockTrace 16 (ascii "USBS" ++ [1]))
        (.ok (.success 0 [])) ∧
      ¬ ∀ (request : CmdRequest) (before : List (Event Usb)) (csw : List UInt8)
        (result : Except Abort CmdReply),
        Run (usbSendCmd request) (before ++ [⟨.bulkRead 13, some csw⟩]) result →
        csw.length ≤ 13 → CswHandled csw result := by
  have hempty : Run (usbSendCmd unlockRequest) (unlockTrace 16 []) (.error .assertion) :=
    run_unlockRequest (by norm_num) []
  refine ⟨hempty, run_unlockRequest (by norm_num) (ascii "USBS" ++ [1]), fun hclaim ↦ ?_⟩
  have hrun : Run (usbSendCmd unlockRequest)
      ([⟨.bulkWrite (cbw unlockRequest), (31 : ℤ)⟩, ⟨.bulkWrite unlockRequest.data, (16 : ℤ)⟩] ++
        [⟨.bulkRead 13, some []⟩]) (.error .assertion) := hempty
  obtain ⟨reply, hreturns⟩ := (hclaim _ _ _ _ hrun (by simp)).returns
  exact absurd hreturns (by simp)

end U3Tool
