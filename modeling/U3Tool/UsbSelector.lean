import U3Tool.Interaction.Execution
import U3Tool.UsbOpen

/-!
# Which device a name selects

The name of a device is `vid:pid`, two hexadecimal numbers of 16 bits (`VidPidName`), or the word
`scan`. `Selects` says what a run of `u3_open` must do for a name: look up the two numbers, or the
known devices in their order, and refuse every other name before a device is looked up or opened.

The expression `u3_open` compiles leaves out a pair of brackets, is not anchored, and matches every
text with a colon (`regexec_vidPidRegex`); what `strtoul` reads of such a text is cut to 16 bits.
`selectorSound_iff` says which names are treated as they must be: those without a colon, and those
that are `vid:pid`.
-/

set_option autoImplicit false
set_option relaxedAutoImplicit false

namespace U3Tool

open Interaction Bytes Program

/-! ### Names -/

/-- A hexadecimal number of 16 bits, in digits. -/
structure HexNumber where
  digits : List UInt8
  ne_nil : digits ≠ []
  digits_lt : ∀ char ∈ digits, digitValue char < 16
  value_lt : magnitude 16 digits < 2 ^ 16

/-- The number. -/
def HexNumber.value (number : HexNumber) : UInt16 :=
  UInt16.ofNatLT (magnitude 16 number.digits) number.value_lt

/-- A device name of the form `vid:pid`. -/
structure VidPidName where
  vid : HexNumber
  pid : HexNumber

/-- The characters of a name. -/
def VidPidName.text (name : VidPidName) : List UInt8 := name.vid.digits ++ 58 :: name.pid.digits

/-- A digit is no colon. -/
theorem HexNumber.colon_notMem (number : HexNumber) : (58 : UInt8) ∉ number.digits := fun hmem ↦
  absurd (number.digits_lt 58 hmem) (by decide)

/-- What stands before the colon of a name. -/
theorem VidPidName.takeWhile_text (name : VidPidName) :
    name.text.takeWhile (· ≠ 58) = name.vid.digits := by
  have hdigits : ∀ char ∈ name.vid.digits, decide (char ≠ 58) = true := fun char hchar ↦
    decide_eq_true fun heq ↦ name.vid.colon_notMem (heq ▸ hchar)
  rw [VidPidName.text, List.takeWhile_append_of_pos hdigits,
    List.takeWhile_cons_of_neg (by decide), List.append_nil]

/-- `strtoul` reads a number to its end, where the text ends or something else stands. -/
theorem HexNumber.strtoul_append (number : HexNumber) (rest : List UInt8)
    (hrest : ∀ char ∈ rest.head?, Stops char) :
    (strtoul (number.digits ++ rest)).1.toUInt16 = number.value ∧
      (strtoul (number.digits ++ rest)).2 = rest := by
  rw [strtoul_digits number.ne_nil number.digits_lt hrest]
  have hlt := number.value_lt
  have hfits : ¬ 2 ^ 64 ≤ magnitude 16 number.digits := by omega
  refine ⟨UInt16.toNat_inj.mp ?_, rfl⟩
  simp only [Sign.toUnsigned, if_neg hfits, reduceCtorEq, if_false, HexNumber.value,
    UInt64.toNat_toUInt16, UInt64.toNat_ofNat', UInt16.toNat_ofNatLT]
  omega

/-! ### The expression -/

/-- The expression `u3_open` compiles: a colon between any number of colons and letters. -/
def vidPidRegex : List Regex.Piece :=
  [⟨[58, 58, 120, 100, 105, 103, 105, 116, 58, 58], true⟩, ⟨[58], false⟩,
    ⟨[58, 58, 120, 100, 105, 103, 105, 116, 58, 58], true⟩]

theorem regcomp_vidPidRegex : Regex.regcomp "[::xdigit::]*:[::xdigit::]*" = some vidPidRegex := by
  decide +kernel

/-- The expression is found in every text with a colon, and in no other. -/
theorem regexec_vidPidRegex (which : List UInt8) :
    Regex.regexec vidPidRegex which = true ↔ 58 ∈ which := by
  rw [Regex.regexec_iff]
  constructor
  · rintro ⟨found, hfound, hmatches⟩
    exact hfound.subset (hmatches.mem_of_once (by decide))
  · intro hcolon
    obtain ⟨before, after, rfl⟩ := List.append_of_mem hcolon
    refine ⟨[58], ⟨before, after, by simp⟩, .stop (.once (by decide) (.stop .nil))⟩

/-- A name without a colon has no numbers. -/
theorem vidPid_of_notMem {which : List UInt8} (hcolon : 58 ∉ which) :
    vidPid vidPidRegex which = none :=
  if_neg fun hmatch ↦ hcolon ((regexec_vidPidRegex which).mp hmatch)

/-- Every name with a colon has numbers. The first call of `strtoul` leaves the colon in the rest,
so that the second one starts inside the name. -/
theorem vidPid_of_mem {which : List UInt8} (hcolon : 58 ∈ which) :
    (strtoul which).2 ≠ [] ∧ vidPid vidPidRegex which =
      some ((strtoul which).1.toUInt16, (strtoul (strtoul which).2.tail).1.toUInt16) :=
  ⟨List.ne_nil_of_mem (mem_strtoul stops_colon hcolon),
    if_pos ((regexec_vidPidRegex which).mpr hcolon)⟩

/-- The numbers of a `vid:pid` name are its own. -/
theorem vidPid_text (name : VidPidName) :
    vidPid vidPidRegex name.text = some (name.vid.value, name.pid.value) := by
  have hcolon : 58 ∈ name.text := List.mem_append_right _ (List.mem_cons_self ..)
  have hvid := name.vid.strtoul_append (58 :: name.pid.digits) fun char hchar ↦
    Option.mem_some_iff.mp hchar ▸ stops_colon
  have hpid := name.pid.strtoul_append [] fun char hchar ↦ by simp at hchar
  rw [List.append_nil] at hpid
  rw [(vidPid_of_mem hcolon).2]
  change some ((strtoul (name.vid.digits ++ 58 :: name.pid.digits)).1.toUInt16,
    (strtoul (strtoul (name.vid.digits ++ 58 :: name.pid.digits)).2.tail).1.toUInt16) = _
  rw [hvid.1, hvid.2, List.tail_cons, hpid.1]

/-! ### What a run looks up and opens -/

/-- The numbers a request looks up. -/
def OpenRequest.lookup : OpenRequest → Option (UInt16 × UInt16)
  | .locate vid pid => some (vid, pid)
  | .libusb _ => none

/-- The device that a lookup answers. -/
def OpenRequest.located : (request : OpenRequest) → request.Reply → Option UsbDevice
  | .locate _ _, reply => reply.map Located.device
  | .libusb _, _ => none

/-- The device a call of libusb opens. -/
def LibusbRequest.opens : LibusbRequest → Option UsbDevice
  | .open device => some device
  | _ => none

/-- The device a request opens. -/
def OpenRequest.opens : OpenRequest → Option UsbDevice
  | .locate _ _ => none
  | .libusb request => request.opens

/-- The numbers looked up, in order. -/
def lookups (trace : List (Event Opener)) : List (UInt16 × UInt16) :=
  trace.filterMap fun event ↦ event.request.lookup

/-- The devices found, in order. -/
def found (trace : List (Event Opener)) : List UsbDevice :=
  trace.filterMap fun event ↦ event.request.located event.reply

/-- The devices opened, in order. -/
def opened (trace : List (Event Opener)) : List UsbDevice :=
  trace.filterMap fun event ↦ event.request.opens

theorem lookups_append (first second : List (Event Opener)) :
    lookups (first ++ second) = lookups first ++ lookups second := List.filterMap_append

theorem found_append (first second : List (Event Opener)) :
    found (first ++ second) = found first ++ found second := List.filterMap_append

theorem opened_append (first second : List (Event Opener)) :
    opened (first ++ second) = opened first ++ opened second := List.filterMap_append

/-- The devices of `u3_dev_list`, without the entry that ends it. -/
def knownDevices : List (UInt16 × UInt16) := u3DevList.dropLast

/-- The vendor and the product number of a device. -/
def UsbDevice.numbers (device : UsbDevice) : UInt16 × UInt16 := (device.idVendor, device.idProduct)

/-- What a run of `u3_open` must do for a device name. -/
structure Selects (which : List UInt8) (trace : List (Event Opener))
    (result : Except ErrMsg UsbHandle) : Prop where
  vid_pid : ∀ name : VidPidName, which = name.text →
    lookups trace = [(name.vid.value, name.pid.value)]
  scan : which = ascii "scan" → lookups trace ≠ [] ∧ lookups trace <+: knownDevices ∧
    (found trace = [] → lookups trace = knownDevices)
  other : (∀ name : VidPidName, which ≠ name.text) → which ≠ ascii "scan" →
    lookups trace = [] ∧ opened trace = [] ∧ ∃ error, result = .error error
  opens : ∀ device ∈ opened trace, device ∈ found trace ∧
    (lookups trace).getLast? = some device.numbers

/-- Every run of `u3_open` does for a name what it must. -/
def SelectorSound (which : CText) : Prop :=
  ∀ (debug : Bool) (trace : List (Event Opener)) (result : Except ErrMsg UsbHandle),
    Run (u3Open debug which) trace result → Selects which.bytes trace result

/-! ### Opening -/

/-- A call of libusb that opens no device but the allowed ones. -/
def Opens (allowed : UsbDevice → Prop) : OpenRequest → Prop
  | .locate _ _ => False
  | .libusb request => ∀ device ∈ request.opens, allowed device

/-- What calls of libusb look up, find and open. -/
theorem of_asks_opens {α : Type} {allowed : UsbDevice → Prop} {p : OpenProgram α}
    (hp : Asks (Opens allowed) p) {trace : List (Event Opener)} {result : Except ErrMsg α}
    (hrun : Run p trace result) :
    lookups trace = [] ∧ found trace = [] ∧ ∀ device ∈ opened trace, allowed device := by
  have hevents := hp.of_run hrun
  refine ⟨List.filterMap_eq_nil_iff.mpr ?_, List.filterMap_eq_nil_iff.mpr ?_, ?_⟩
  · rintro ⟨_ | _, _⟩ hevent
    · exact (hevents _ hevent).elim
    · rfl
  · rintro ⟨_ | _, _⟩ hevent
    · exact (hevents _ hevent).elim
    · rfl
  · intro device hdevice
    obtain ⟨⟨_ | request, reply⟩, hevent, hopens⟩ := List.mem_filterMap.mp hdevice
    · exact (hevents _ hevent).elim
    · exact hevents _ hevent device hopens

section Opening

variable {α : Type} {allowed : UsbDevice → Prop}

/-- A call that opens nothing. -/
theorem opens_libusb {request : LibusbRequest} (hrequest : request.opens = none) :
    Asks (Opens allowed) (libusb request) :=
  .perform fun device hdevice ↦ by simp [hrequest] at hdevice

theorem opens_openFail (handle : UsbDevHandle) (error : ErrMsg) :
    Asks (Opens allowed) (openFail handle error : OpenProgram α) :=
  (opens_libusb rfl).bind fun _ ↦ .fail error

theorem opens_claimedFail (handle : UsbDevHandle) (interfaceNum : UInt8) (error : ErrMsg) :
    Asks (Opens allowed) (claimedFail handle interfaceNum error : OpenProgram α) :=
  (opens_libusb rfl).bind fun _ ↦ opens_openFail handle error

theorem opens_findEndpoints (handle : UsbDevHandle) (interfaceDesc : UsbInterfaceDescriptor) :
    Asks (Opens allowed) (findEndpoints handle interfaceDesc) := by
  refine (opens_libusb rfl).bind fun _ ↦ ?_
  by_cases hcount : interfaceDesc.bNumEndpoints ≠ 2
  · rw [if_pos hcount]
    exact opens_claimedFail ..
  · rw [if_neg hcount]
    dsimp only
    generalize (if interfaceDesc.endpoint 0 &&& 0x80 ≠ 0 then interfaceDesc.endpoint 0
      else interfaceDesc.endpoint 1) = epIn
    generalize (if interfaceDesc.endpoint 0 &&& 0x80 ≠ 0 then interfaceDesc.endpoint 1
      else interfaceDesc.endpoint 0) = epOut
    split_ifs
    · exact opens_claimedFail ..
    · exact .done _

theorem opens_claimDevice (handle : UsbDevHandle) (interfaceDesc : UsbInterfaceDescriptor) :
    Asks (Opens allowed) (claimDevice handle interfaceDesc) := by
  refine (opens_libusb rfl).bind ?_
  rintro ⟨detached, strerror⟩
  dsimp only
  split_ifs
  · exact opens_openFail ..
  · refine (opens_libusb rfl).bind ?_
    rintro ⟨claimed, usbStrerror⟩
    dsimp only
    split_ifs
    · exact opens_openFail ..
    · exact opens_openFail ..
    · exact opens_findEndpoints ..

/-- The part of `u3_open` that opens the device it found opens no other. -/
theorem opens_openDevice (u3Device : UsbDevice) :
    Asks (Opens fun device ↦ device = u3Device) (openDevice u3Device) := by
  refine (opens_libusb rfl).bind fun allocated ↦ ?_
  by_cases hallocated : allocated = false
  · rw [if_pos hallocated]
    exact .fail _
  · rw [if_neg hallocated]
    refine (Asks.perform fun device hdevice ↦ (Option.some.inj hdevice).symm).bind fun handle ↦ ?_
    by_cases hconfigurations : u3Device.bNumConfigurations ≠ 1
    · rw [if_pos hconfigurations]
      exact opens_openFail ..
    · rw [if_neg hconfigurations]
      refine (opens_libusb rfl).bind fun _ ↦ ?_
      split_ifs
      · exact opens_openFail ..
      · exact opens_openFail ..
      · exact opens_claimDevice ..

theorem opens_initUsb (debug : Bool) : Asks (Opens allowed) (initUsb debug) := by
  refine (opens_libusb rfl).bind fun _ ↦ ?_
  split_ifs
  · exact opens_libusb rfl
  · exact .done _

end Opening

/-! ### Finding -/

/-- A located device has the numbers it was looked up with. -/
theorem Located.numbers_device {vid pid : UInt16} (located : Located vid pid) :
    located.device.numbers = (vid, pid) := Prod.ext located.vendor located.product

/-- What the search for the known devices does: it looks them up in their order, up to the first one
that is found. -/
structure Scanned (known : List (UInt16 × UInt16)) (trace : List (Event Opener))
    (outcome : Option UsbDevice) : Prop where
  lookups_prefix : lookups trace <+: known
  found_eq : found trace = outcome.toList
  opened_eq : opened trace = []
  missed : outcome = none → lookups trace = known
  last : ∀ device ∈ outcome, (lookups trace).getLast? = some device.numbers

/-- A search that missed a device goes on with those behind it. -/
theorem Scanned.cons {vid pid : UInt16} {known : List (UInt16 × UInt16)}
    {trace : List (Event Opener)} {outcome : Option UsbDevice}
    (hscanned : Scanned known trace outcome) :
    Scanned ((vid, pid) :: known) (⟨.locate vid pid, none⟩ :: trace) outcome where
  lookups_prefix := List.cons_prefix_cons.mpr ⟨rfl, hscanned.lookups_prefix⟩
  found_eq := hscanned.found_eq
  opened_eq := hscanned.opened_eq
  missed houtcome := congrArg _ (hscanned.missed houtcome)
  last device hdevice := by
    have hlast := hscanned.last device hdevice
    have hlookups : lookups (⟨.locate vid pid, none⟩ :: trace) = (vid, pid) :: lookups trace := rfl
    rw [hlookups, List.getLast?_cons, hlast, Option.getD_some]

/-- The search of a list without an entry of zeros, and such an entry behind it. -/
theorem scan_run {known : List (UInt16 × UInt16)} (hknown : (0, 0) ∉ known)
    {trace : List (Event Opener)} {result : Except ErrMsg (Option UsbDevice)}
    (hrun : Run (scan (known ++ [(0, 0)])) trace result) :
    ∃ outcome, result = .ok outcome ∧ Scanned known trace outcome := by
  induction known generalizing trace with
  | nil =>
    obtain ⟨rfl, rfl⟩ := run_done.mp hrun
    exact ⟨none, rfl, ⟨List.prefix_rfl, rfl, rfl, fun _ ↦ rfl, fun _ hdevice ↦ by simp at hdevice⟩⟩
  | cons numbers known ih =>
    obtain ⟨vid, pid⟩ := numbers
    have hzero : ¬ (vid = 0 ∧ pid = 0) := fun hzero ↦
      hknown (by rw [hzero.1, hzero.2]; exact List.mem_cons_self ..)
    rw [List.cons_append, scan, if_neg hzero] at hrun
    obtain ⟨reply, rest, rfl, hrest⟩ := run_ask.mp hrun
    cases reply with
    | none =>
      obtain ⟨outcome, rfl, hscanned⟩ := ih (fun hmem ↦ hknown (List.mem_cons_of_mem _ hmem)) hrest
      exact ⟨outcome, rfl, hscanned.cons⟩
    | some located =>
      obtain ⟨rfl, rfl⟩ := run_done.mp hrest
      refine ⟨some located.device, rfl, ?_⟩
      exact {
        lookups_prefix := List.cons_prefix_cons.mpr ⟨rfl, List.nil_prefix⟩
        found_eq := rfl
        opened_eq := rfl
        missed := fun hmissed ↦ absurd hmissed (by simp)
        last := fun device hdevice ↦ by
          obtain rfl := Option.mem_some_iff.mp hdevice
          rw [located.numbers_device]
          rfl }

/-- `u3_dev_list` is the known devices and the entry that ends it. -/
theorem u3DevList_eq : u3DevList = knownDevices ++ [(0, 0)] ∧ (0, 0) ∉ knownDevices := by
  decide

/-- A name with numbers: they are looked up. -/
theorem findDevice_vidPid {numbers : UInt16 × UInt16} {which : List UInt8}
    {trace : List (Event Opener)} {result : Except ErrMsg UsbDevice}
    (hrun : Run (findDevice (some numbers) which) trace result) :
    lookups trace = [numbers] ∧ opened trace = [] ∧
      ∀ device, result = .ok device → device ∈ found trace ∧ device.numbers = numbers := by
  obtain ⟨vid, pid⟩ := numbers
  obtain ⟨reply, rest, rfl, hrest⟩ := run_ask.mp hrun
  cases reply with
  | none =>
    obtain ⟨rfl, rfl⟩ := run_fail.mp hrest
    exact ⟨rfl, rfl, fun device hdevice ↦ absurd hdevice (by simp)⟩
  | some located =>
    obtain ⟨rfl, rfl⟩ := run_done.mp hrest
    refine ⟨rfl, rfl, fun device hdevice ↦ ?_⟩
    obtain rfl := Except.ok.inj hdevice
    exact ⟨List.mem_cons_self .., located.numbers_device⟩

/-- The name `scan`: the known devices are looked up. -/
theorem findDevice_scan {trace : List (Event Opener)} {result : Except ErrMsg UsbDevice}
    (hrun : Run (findDevice none (ascii "scan")) trace result) :
    ∃ outcome, Scanned knownDevices trace outcome ∧
      ∀ device, result = .ok device → outcome = some device := by
  rw [findDevice, if_pos rfl, u3DevList_eq.1] at hrun
  rcases run_bind.mp hrun with ⟨error, -, herror⟩ | ⟨first, outcome, rest, rfl, hfirst, hrest⟩
  · obtain ⟨outcome, hcontra, -⟩ := scan_run u3DevList_eq.2 herror
    exact absurd hcontra (by simp)
  · obtain ⟨outcome', houtcome, hscanned⟩ := scan_run u3DevList_eq.2 hfirst
    obtain rfl := Except.ok.inj houtcome
    cases outcome with
    | none =>
      obtain ⟨rfl, rfl⟩ := run_fail.mp hrest
      rw [List.append_nil]
      exact ⟨none, hscanned, fun device hdevice ↦ absurd hdevice (by simp)⟩
    | some device =>
      obtain ⟨rfl, rfl⟩ := run_done.mp hrest
      rw [List.append_nil]
      exact ⟨some device, hscanned, fun other hother ↦ congrArg some (Except.ok.inj hother)⟩

/-- Any other name is refused. -/
theorem findDevice_unknown {which : List UInt8} (hwhich : which ≠ ascii "scan")
    {trace : List (Event Opener)} {result : Except ErrMsg UsbDevice}
    (hrun : Run (findDevice none which) trace result) :
    trace = [] ∧ ∃ error, result = .error error := by
  rw [findDevice, if_neg hwhich] at hrun
  obtain ⟨rfl, rfl⟩ := run_fail.mp hrun
  exact ⟨rfl, _, rfl⟩

/-! ### The whole function -/

/-- `usb_init` and the debug level cannot fail. -/
theorem initUsb_returns {debug : Bool} {trace : List (Event Opener)} {result : Except ErrMsg Unit}
    (hrun : Run (initUsb debug) trace result) : result = .ok () := by
  obtain ⟨_, rest, rfl, hrest⟩ := run_ask.mp hrun
  cases debug with
  | false => exact (run_done.mp hrest).2
  | true =>
    obtain ⟨_, last, rfl, hlast⟩ := run_ask.mp hrest
    exact (run_done.mp hlast).2

/-- A run of `u3_open` looks up and finds what its middle part does; it opens nothing but the device
found there, and an error of that part is its result. -/
theorem run_u3Open {debug : Bool} {which : CText} {trace : List (Event Opener)}
    {result : Except ErrMsg UsbHandle} (hrun : Run (u3Open debug which) trace result) :
    ∃ middle outcome,
      Run (findDevice (vidPid vidPidRegex which.bytes) which.bytes) middle outcome ∧
        lookups trace = lookups middle ∧ found trace = found middle ∧
        (∀ device ∈ opened trace, device ∈ opened middle ∨ outcome = .ok device) ∧
        ∀ error, outcome = .error error → opened trace = opened middle ∧ result = .error error := by
  rw [u3Open, regcomp_vidPidRegex] at hrun
  rcases run_bind.mp hrun with ⟨error, -, herror⟩ | ⟨start, _, rest, rfl, hstart, hrest⟩
  · exact absurd (initUsb_returns herror) (by simp)
  · have hinit : Asks (Opens fun _ ↦ False) (initUsb debug) := opens_initUsb debug
    obtain ⟨hstartLookups, hstartFound, hstartOpened⟩ := of_asks_opens hinit hstart
    replace hstartOpened := List.eq_nil_iff_forall_not_mem.mpr hstartOpened
    rw [lookups_append, found_append, opened_append, hstartLookups, hstartFound, hstartOpened,
      List.nil_append, List.nil_append, List.nil_append]
    rcases run_bind.mp hrest with
      ⟨error, rfl, herror⟩ | ⟨middle, device, last, rfl, hmiddle, hlast⟩
    · exact ⟨rest, .error error, herror, rfl, rfl, fun device hdevice ↦ Or.inl hdevice,
        fun other hother ↦ ⟨rfl, congrArg _ (Except.error.inj hother)⟩⟩
    · obtain ⟨hlastLookups, hlastFound, hlastOpened⟩ :=
        of_asks_opens (opens_openDevice device) hlast
      refine ⟨middle, .ok device, hmiddle, ?_, ?_, ?_, fun error herror ↦ absurd herror (by simp)⟩
      · rw [lookups_append, hlastLookups, List.append_nil]
      · rw [found_append, hlastFound, List.append_nil]
      · rw [opened_append]
        intro other hother
        refine (List.mem_append.mp hother).imp_right fun hother ↦ ?_
        rw [hlastOpened other hother]

/-- What finding a device does, whatever the name: it opens nothing, and the device it returns was
found by the last lookup. -/
theorem findDevice_ok {which : CText} {trace : List (Event Opener)}
    {result : Except ErrMsg UsbDevice}
    (hrun : Run (findDevice (vidPid vidPidRegex which.bytes) which.bytes) trace result) :
    opened trace = [] ∧ ∀ device, result = .ok device →
      device ∈ found trace ∧ (lookups trace).getLast? = some device.numbers := by
  cases hnumbers : vidPid vidPidRegex which.bytes with
  | some numbers =>
    rw [hnumbers] at hrun
    obtain ⟨hlookups, hopened, hdevice⟩ := findDevice_vidPid hrun
    refine ⟨hopened, fun device hresult ↦ ⟨(hdevice device hresult).1, ?_⟩⟩
    rw [hlookups, (hdevice device hresult).2, List.getLast?_singleton]
  | none =>
    rw [hnumbers] at hrun
    by_cases hscan : which.bytes = ascii "scan"
    · rw [hscan] at hrun
      obtain ⟨outcome, hscanned, hdevice⟩ := findDevice_scan hrun
      refine ⟨hscanned.opened_eq, fun device hresult ↦ ?_⟩
      obtain rfl := hdevice device hresult
      exact ⟨by rw [hscanned.found_eq]; exact List.mem_singleton_self _, hscanned.last device rfl⟩
    · obtain ⟨rfl, error, rfl⟩ := findDevice_unknown hscan hrun
      exact ⟨rfl, fun device hcontra ↦ absurd hcontra (by simp)⟩

/-- A search of the known devices looks one up at least. -/
theorem Scanned.lookups_ne_nil {trace : List (Event Opener)} {outcome : Option UsbDevice}
    (hscanned : Scanned knownDevices trace outcome) : lookups trace ≠ [] := by
  cases outcome with
  | none =>
    rw [hscanned.missed rfl]
    decide
  | some device =>
    intro hnone
    have hlast := hscanned.last device rfl
    rw [hnone] at hlast
    exact absurd hlast (by simp)

/-- A name without a colon, or of the form `vid:pid`, selects what it must. -/
theorem selects_of_run {debug : Bool} {which : CText} {trace : List (Event Opener)}
    {result : Except ErrMsg UsbHandle}
    (hwhich : 58 ∉ which.bytes ∨ ∃ name : VidPidName, which.bytes = name.text)
    (hrun : Run (u3Open debug which) trace result) : Selects which.bytes trace result := by
  obtain ⟨middle, outcome, hmiddle, hlookups, hfound, hopened, herror⟩ := run_u3Open hrun
  obtain ⟨hnone, hdevice⟩ := findDevice_ok hmiddle
  rw [hnone] at hopened herror
  exact {
    vid_pid := fun name hname ↦ by
      rw [hname, vidPid_text] at hmiddle
      rw [hlookups, (findDevice_vidPid hmiddle).1]
    scan := fun hscan ↦ by
      rw [hscan, vidPid_of_notMem (by decide)] at hmiddle
      obtain ⟨scanned, hscanned, -⟩ := findDevice_scan hmiddle
      rw [hlookups, hfound]
      refine ⟨hscanned.lookups_ne_nil, hscanned.lookups_prefix, fun hmissed ↦ hscanned.missed ?_⟩
      rw [hscanned.found_eq] at hmissed
      exact Option.toList_eq_nil_iff.mp hmissed
    other := fun hname hscan ↦ by
      have hcolon : 58 ∉ which.bytes := hwhich.resolve_right fun ⟨name, heq⟩ ↦ hname name heq
      rw [vidPid_of_notMem hcolon] at hmiddle
      obtain ⟨rfl, error, rfl⟩ := findDevice_unknown hscan hmiddle
      exact ⟨hlookups, (herror error rfl).1, error, (herror error rfl).2⟩
    opens := fun device hmem ↦ by
      rw [hlookups, hfound]
      exact hdevice device ((hopened device hmem).resolve_left List.not_mem_nil) }

/-! ### Which names are sound -/

/-- A bus with one device. -/
def attached (device : UsbDevice) : Surroundings Opener Unit := fun _ request ↦
  match request with
  | .locate vid pid => (firstLocated vid pid [device], ())
  | .libusb .getBusses => ([[device]], ())
  | .libusb .malloc => (true, ())
  | .libusb .init => ((), ())
  | .libusb (.setDebug _) => ((), ())
  | .libusb (.open _) => (some 3, ())
  | .libusb (.detachKernelDriver _ _) => ((0, []), ())
  | .libusb (.claimInterface _ _) => ((0, []), ())
  | .libusb .findBusses => (0, ())
  | .libusb .findDevices => (0, ())
  | .libusb (.setConfiguration _ _) => (0, ())
  | .libusb (.setAltinterface _ _) => (0, ())
  | .libusb (.releaseInterface _ _) => (0, ())
  | .libusb (.close _) => (0, ())

/-- A device of the list, a U3 Cruzer Micro, with one configuration and two bulk endpoints. -/
def cruzerMicro : UsbDevice where
  idVendor := 0x0781
  idProduct := 0x5406
  bNumConfigurations := 1
  config := ⟨1, 1, 1, ⟨0, 0, 2, fun index ↦ if index = 0 then 0x81 else 0x01⟩⟩

/-- `u3_open` treats a name as it must exactly when the name has no colon or is `vid:pid`, two
hexadecimal numbers of 16 bits. -/
theorem selectorSound_iff (which : CText) :
    SelectorSound which ↔ 58 ∉ which.bytes ∨ ∃ name : VidPidName, which.bytes = name.text := by
  constructor
  · intro hsound
    by_contra hwhich
    obtain ⟨hcolon, hname⟩ := not_or.mp hwhich
    have hscan : which.bytes ≠ ascii "scan" := fun heq ↦ hcolon (heq ▸ by decide)
    have hrun := run_exec (attached cruzerMicro) (u3Open false which) ()
    obtain ⟨middle, outcome, hmiddle, hlookups, -⟩ := run_u3Open hrun
    rw [(vidPid_of_mem (not_not.mp hcolon)).2] at hmiddle
    have hnone := ((hsound false _ _ hrun).other (not_exists.mp hname) hscan).1
    rw [hlookups, (findDevice_vidPid hmiddle).1] at hnone
    exact absurd hnone (List.cons_ne_nil _ _)
  · exact fun hwhich debug trace result hrun ↦ selects_of_run hwhich hrun

/-- A vendor number of 17 bits: its last 16 are those of a known device. -/
def wideName : CText := ⟨ascii "10781:5406", by decide⟩

/-- Where a vendor number does not fit into 16 bits it is cut, and the device that has what is left
of it is looked up and opened. -/
theorem u3Open_wideName :
    (∀ name : VidPidName, wideName.bytes ≠ name.text) ∧
      lookups (exec (attached cruzerMicro) (u3Open false wideName) ()).trace =
        [(0x0781, 0x5406)] ∧
      (exec (attached cruzerMicro) (u3Open false wideName) ()).result =
        .ok ⟨some 3, 0, 0x01, 0x81⟩ ∧
      ¬ SelectorSound wideName := by
  have hname : ∀ name : VidPidName, wideName.bytes ≠ name.text := fun name hname ↦ by
    have hdigits : name.vid.digits = ascii "10781" := by
      rw [← name.takeWhile_text, ← hname]
      decide
    have hlt := name.vid.value_lt
    rw [hdigits] at hlt
    exact absurd hlt (by decide)
  have hlookups : lookups (exec (attached cruzerMicro) (u3Open false wideName) ()).trace =
      [(0x0781, 0x5406)] := by
    decide +kernel
  refine ⟨hname, hlookups, by decide +kernel, fun hsound ↦ ?_⟩
  have hrun := run_exec (attached cruzerMicro) (u3Open false wideName) ()
  have hnone := ((hsound false _ _ hrun).other hname (by decide)).1
  rw [hlookups] at hnone
  exact absurd hnone (List.cons_ne_nil _ _)

/-! ### Over libusb -/

/-- The devices opened over libusb, in order. -/
def busOpened (trace : List (Event Libusb)) : List UsbDevice :=
  trace.filterMap fun event ↦ event.request.opens

/-- A device stood on a bus when the busses were asked for. -/
def OnBus (trace : List (Event Libusb)) (device : UsbDevice) : Prop :=
  ∃ event ∈ trace, ∃ busses : List (List UsbDevice),
    event = ⟨.getBusses, busses⟩ ∧ device ∈ busses.flatten

theorem busOpened_append (first second : List (Event Libusb)) :
    busOpened (first ++ second) = busOpened first ++ busOpened second := List.filterMap_append

theorem OnBus.append_left {trace : List (Event Libusb)} {device : UsbDevice}
    (hbus : OnBus trace device) (first : List (Event Libusb)) : OnBus (first ++ trace) device := by
  obtain ⟨event, hevent, hlisted⟩ := hbus
  exact ⟨event, List.mem_append_right _ hevent, hlisted⟩

theorem OnBus.append_right {trace : List (Event Libusb)} {device : UsbDevice}
    (hbus : OnBus trace device) (rest : List (Event Libusb)) : OnBus (trace ++ rest) device := by
  obtain ⟨event, hevent, hlisted⟩ := hbus
  exact ⟨event, List.mem_append_left _ hevent, hlisted⟩

/-- A device that is found stands on a bus. -/
theorem mem_of_firstLocated {vid pid : UInt16} {devices : List UsbDevice}
    {located : Located vid pid} (hfirst : firstLocated vid pid devices = some located) :
    located.device ∈ devices := by
  induction devices with
  | nil => exact absurd hfirst (by simp [firstLocated])
  | cons device rest ih =>
    rw [firstLocated] at hfirst
    split_ifs at hfirst with hnumbers
    · obtain rfl := Option.some.inj hfirst
      exact List.mem_cons_self ..
    · exact List.mem_cons_of_mem _ (ih hfirst)

/-- Carrying out one request opens what the request opens, and finds devices that stand on a bus. -/
theorem overLibusb_run {request : OpenRequest} {reply : request.Reply}
    {trace : List (Event Libusb)} (hrun : Run (overLibusb request) trace (.ok reply)) :
    busOpened trace = request.opens.toList ∧
      ∀ device ∈ request.located reply, OnBus trace device := by
  cases request with
  | locate vid pid =>
    obtain ⟨_, _, rfl, hscanned⟩ := run_ask.mp hrun
    obtain ⟨_, _, rfl, hlisted⟩ := run_ask.mp hscanned
    obtain ⟨busses, _, rfl, hcompared⟩ := run_ask.mp hlisted
    obtain ⟨rfl, hreply⟩ := run_done.mp hcompared
    refine ⟨rfl, fun device hdevice ↦ ?_⟩
    obtain ⟨located, hlocated, rfl⟩ := Option.map_eq_some_iff.mp hdevice
    obtain rfl := Except.ok.inj hreply
    exact ⟨⟨.getBusses, busses⟩, by simp, busses, rfl, mem_of_firstLocated hlocated⟩
  | libusb request =>
    obtain ⟨_, _, rfl, hrest⟩ := run_ask.mp hrun
    obtain ⟨rfl, -⟩ := run_done.mp hrest
    refine ⟨?_, fun device hdevice ↦ absurd hdevice (by simp [OpenRequest.located])⟩
    cases request with
    | «open» device => rfl
    | _ => rfl

/-- A run of `u3_open` carried out over libusb opens what it opens, and finds devices that stand on
a bus. -/
theorem implements_overLibusb {events : List (Event Opener)} {trace : List (Event Libusb)}
    (himplements : Implements overLibusb events trace) :
    busOpened trace = opened events ∧ ∀ device ∈ found events, OnBus trace device := by
  induction himplements with
  | nil => exact ⟨rfl, fun device hdevice ↦ absurd hdevice List.not_mem_nil⟩
  | @cons request reply events first rest hfirst _ ih =>
    obtain ⟨hopens, hlocated⟩ := overLibusb_run hfirst
    constructor
    · rw [busOpened_append, hopens, ih.1, opened, opened, List.filterMap_cons]
      cases request.opens with
      | none => rfl
      | some device => rfl
    · intro device hdevice
      obtain ⟨event, hevent, hfound⟩ := List.mem_filterMap.mp hdevice
      rcases List.mem_cons.mp hevent with rfl | hlater
      · exact (hlocated device hfound).append_right rest
      · exact (ih.2 device (List.mem_filterMap.mpr ⟨event, hlater, hfound⟩)).append_left first

/-- Over libusb alone, too, whatever is opened was found on a bus, and has the numbers of a name of
the form `vid:pid`. -/
theorem busOpened_openUsb {debug : Bool} {name : VidPidName} {which : CText}
    (hwhich : which.bytes = name.text) {trace : List (Event Libusb)}
    {result : Except ErrMsg UsbHandle} (hrun : Run (openUsb debug which) trace (.ok result)) :
    ∀ device ∈ busOpened trace,
      OnBus trace device ∧ device.numbers = (name.vid.value, name.pid.value) := by
  obtain ⟨events, hevents, himplements⟩ := run_interp_ok.mp hrun
  obtain ⟨hopened, hfound⟩ := implements_overLibusb himplements
  have hselects := selects_of_run (Or.inr ⟨name, hwhich⟩) hevents
  rw [hopened]
  intro device hdevice
  obtain ⟨hmem, hlast⟩ := hselects.opens device hdevice
  rw [hselects.vid_pid name hwhich, List.getLast?_singleton] at hlast
  exact ⟨hfound device hmem, (Option.some.inj hlast).symm⟩

/-- A name that is neither of the form `vid:pid` nor `scan`, and has no colon, opens nothing over
libusb either. -/
theorem busOpened_openUsb_unknown {debug : Bool} {which : CText} (hcolon : 58 ∉ which.bytes)
    (hscan : which.bytes ≠ ascii "scan") {trace : List (Event Libusb)}
    {result : Except ErrMsg UsbHandle} (hrun : Run (openUsb debug which) trace (.ok result)) :
    busOpened trace = [] ∧ ∃ error, result = .error error := by
  obtain ⟨events, hevents, himplements⟩ := run_interp_ok.mp hrun
  have hname (name : VidPidName) (heq : which.bytes = name.text) : False :=
    hcolon (heq ▸ List.mem_append_right _ (List.mem_cons_self ..))
  obtain ⟨-, hopened, herror⟩ := (selects_of_run (Or.inl hcolon) hevents).other hname hscan
  exact ⟨(implements_overLibusb himplements).1.trans hopened, herror⟩

end U3Tool
