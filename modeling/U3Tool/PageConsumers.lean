import U3Tool.Actions
import U3Tool.PropertyPages
import U3Tool.Reports

/-!
# The readers of property pages

`get_tries_left` and `do_info` read property pages into structures on the stack and use fields of
them without a look at the length of the page. On a device with stable pages two executions that
differ in the initial contents of these structures are compared: they agree, and a page too short to
hold the field is reported as a failure, exactly when the pages are long enough, or something else
fails before a field is used (`triesSound_iff`, `infoSound_iff`).
-/

set_option autoImplicit false
set_option relaxedAutoImplicit false

namespace U3Tool

open Interaction Bytes Program

variable {σ : Type} {device : Surroundings Scsi σ} {pages : UInt16 → Option Page}
  {start : Desk σ}

/-! ### The number of tries left -/

/-- `get_tries_left` depends on nothing but the device: the initial contents of its structure make
no difference, and a page too short to hold `max_pass_try` is reported as a failure. -/
structure TriesSound (device : Surroundings Scsi σ) (pages : UInt16 → Option Page)
    (start : Desk σ) : Prop where
  agrees : ∀ first second, (exec (desk device) (getTriesLeft first) start).result =
    (exec (desk device) (getTriesLeft second) start).result
  reports_short : ∀ page, pages 0x0C = some page → page.bytes.length < 10 →
    ∀ stack, (exec (desk device) (getTriesLeft stack) start).result = .ok none

/-- A failed query for the data partition information is a failure of `get_tries_left`. -/
theorem result_getTriesLeft_of_error {error : ErrMsg}
    (herror : (exec device u3DataPartitionInfo start.device).result = .error error)
    (stack : Property0C) :
    (exec (desk device) (getTriesLeft stack) start).result = .ok none := by
  rw [getTriesLeft, exec_command_bind]
  dsimp only
  rw [herror]
  rfl

/-- With a page 0x0C of whatever length, `get_tries_left` returns a number of tries. -/
theorem result_getTriesLeft_of_present (hstable : StablePages device pages) {page : Page}
    (hpage : pages 0x0C = some page) {dpinfo : DpartInfo}
    (hinfo : (exec device u3DataPartitionInfo start.device).result = .ok dpinfo)
    (stack : Property0C) :
    ∃ tries, (exec (desk device) (getTriesLeft stack) start).result = .ok (some tries) := by
  rw [getTriesLeft, exec_command_bind]
  dsimp only
  rw [hinfo]
  dsimp only
  rw [exec_command_bind]
  dsimp only
  rw [@exec_read_present _ _ _ 0x0C 10 hstable page hpage (by decide)]
  exact ⟨_, rfl⟩

/-- `get_tries_left` depends on nothing but the device exactly when the query before it fails or
page 0x0C, if there is one, holds `max_pass_try`. -/
theorem triesSound_iff (hstable : StablePages device pages) :
    TriesSound device pages start ↔
      (∃ error, (exec device u3DataPartitionInfo start.device).result = .error error) ∨
        ∀ page, pages 0x0C = some page → 10 ≤ page.bytes.length := by
  constructor
  · intro hsound
    cases hinfo : (exec device u3DataPartitionInfo start.device).result with
    | error error => exact Or.inl ⟨error, rfl⟩
    | ok dpinfo =>
      refine Or.inr fun page hpage ↦ not_lt.mp fun hshort ↦ ?_
      obtain ⟨tries, hresult⟩ := result_getTriesLeft_of_present hstable hpage hinfo (.fill 10 0)
      rw [hsound.reports_short page hpage hshort] at hresult
      exact absurd hresult (by simp)
  · rintro (⟨error, herror⟩ | hlong)
    · exact ⟨fun first second ↦ by
        rw [result_getTriesLeft_of_error herror, result_getTriesLeft_of_error herror],
        fun _ _ _ stack ↦ result_getTriesLeft_of_error herror stack⟩
    · refine ⟨fun first second ↦ ?_, fun page hpage hshort ↦
        absurd (hlong page hpage) (not_le.mpr hshort)⟩
      rw [getTriesLeft, getTriesLeft, exec_command_bind, exec_command_bind]
      dsimp only
      cases (exec device u3DataPartitionInfo start.device).result with
      | error error => rfl
      | ok dpinfo =>
        dsimp only
        rw [exec_command_bind, exec_command_bind,
          @exec_read_congr _ _ _ 0x0C 10 hstable (by decide) hlong first second]

/-! ### `do_info` -/

/-- `do_info` depends on nothing but the device: the initial contents of its structures make no
difference to what it returns, sends and prints, and a page too short to hold the field that is read
from it is reported as a failure. -/
structure InfoSound (device : Surroundings Scsi σ) (pages : UInt16 → Option Page)
    (start : Desk σ) : Prop where
  agrees : ∀ first second, exec (desk device) (doInfo first) start =
    exec (desk device) (doInfo second) start
  reports_short : ∀ page, (pages 0x03 = some page ∧ page.bytes.length < 39 ∨
      pages 0x0C = some page ∧ page.bytes.length < 10) →
    ∀ stack, (exec (desk device) (doInfo stack) start).result = .ok .failure

/-- Asking the first three questions returns. -/
theorem result_infoRecords (device : Surroundings Scsi σ) (start : Desk σ) :
    ∃ records, (exec (desk device) infoRecords start).result = .ok records := by
  rw [infoRecords, exec_command_bind]
  dsimp only
  cases (exec device u3PartitionInfo start.device).result with
  | error error => exact ⟨_, rfl⟩
  | ok pinfo =>
    dsimp only
    rw [exec_command_bind]
    dsimp only
    cases (exec device u3DataPartitionInfo _).result with
    | error error => exact ⟨_, rfl⟩
    | ok dpinfo =>
      dsimp only
      rw [exec_command_bind]
      dsimp only
      cases (exec device u3ChipInfo _).result with
      | error error => exact ⟨_, rfl⟩
      | ok cinfo => exact ⟨_, rfl⟩

/-- When one of the first questions fails, nothing depends on the stack. -/
theorem exec_doInfo_of_none (hnone : (exec (desk device) infoRecords start).result = .ok none)
    (stack : ReportStack) :
    exec (desk device) (doInfo stack) start =
      ⟨.ok .failure, (exec (desk device) infoRecords start).trace ++ [],
        (exec (desk device) infoRecords start).final⟩ :=
  exec_bind_ok hnone _

/-- Otherwise the property pages decide. -/
theorem exec_doInfo_of_some {pinfo : PartInfo} {dpinfo : DpartInfo}
    (hsome : (exec (desk device) infoRecords start).result = .ok (some (pinfo, dpinfo)))
    (stack : ReportStack) :
    let pagesRead := exec (desk device) (infoPages stack pinfo dpinfo)
      (exec (desk device) infoRecords start).final
    exec (desk device) (doInfo stack) start =
      ⟨pagesRead.result, (exec (desk device) infoRecords start).trace ++ pagesRead.trace,
        pagesRead.final⟩ :=
  exec_bind_ok hsome _

/-- Printing the report succeeds. -/
theorem result_printInfo (pinfo : PartInfo) (dpinfo : DpartInfo) (deviceProperties : Property03)
    (securityProperties : Property0C) (state : Desk σ) :
    (exec (desk device) (printInfo pinfo dpinfo deviceProperties securityProperties) state).result =
      .ok .success := by
  unfold printInfo printZoneStatus
  split_ifs <;> rfl

/-- With two pages of whatever length, the second half of `do_info` succeeds. -/
theorem result_infoPages_of_present (hstable : StablePages device pages) {page03 page0C : Page}
    (hpage03 : pages 0x03 = some page03) (hpage0C : pages 0x0C = some page0C) (stack : ReportStack)
    (pinfo : PartInfo) (dpinfo : DpartInfo) (state : Desk σ) :
    (exec (desk device) (infoPages stack pinfo dpinfo) state).result = .ok .success := by
  rw [infoPages, exec_command_bind]
  dsimp only
  rw [@exec_read_present _ _ _ 0x03 39 hstable page03 hpage03 (by decide)]
  dsimp only
  rw [exec_command_bind]
  dsimp only
  rw [@exec_read_present _ _ _ 0x0C 10 hstable page0C hpage0C (by decide)]
  exact result_printInfo ..

/-- When a page is missing, the second half of `do_info` fails, in the same way whatever its
stack. -/
theorem exec_infoPages_of_missing (hstable : StablePages device pages)
    (hmissing : pages 0x03 = none ∨ pages 0x0C = none) (first second : ReportStack)
    (pinfo : PartInfo) (dpinfo : DpartInfo) (state : Desk σ) :
    exec (desk device) (infoPages first pinfo dpinfo) state =
        exec (desk device) (infoPages second pinfo dpinfo) state ∧
      (exec (desk device) (infoPages first pinfo dpinfo) state).result = .ok .failure := by
  rw [infoPages, infoPages, exec_command_bind, exec_command_bind]
  dsimp only
  cases hpage03 : pages 0x03 with
  | none =>
    rw [@exec_read_missing _ _ _ 0x03 39 hstable hpage03 (by decide),
      @exec_read_missing _ _ _ 0x03 39 hstable hpage03 (by decide)]
    exact ⟨rfl, rfl⟩
  | some page03 =>
    have hpage0C : pages 0x0C = none := hmissing.resolve_left (by simp [hpage03])
    rw [@exec_read_present _ _ _ 0x03 39 hstable page03 hpage03 (by decide),
      @exec_read_present _ _ _ 0x03 39 hstable page03 hpage03 (by decide)]
    dsimp only
    rw [exec_command_bind, exec_command_bind]
    dsimp only
    rw [@exec_read_missing _ _ _ 0x0C 10 hstable hpage0C (by decide),
      @exec_read_missing _ _ _ 0x0C 10 hstable hpage0C (by decide)]
    exact ⟨rfl, rfl⟩

/-- When both pages fill their structures, nothing depends on the stack. -/
theorem exec_infoPages_congr (hstable : StablePages device pages)
    (hlong03 : ∀ page, pages 0x03 = some page → 39 ≤ page.bytes.length)
    (hlong0C : ∀ page, pages 0x0C = some page → 10 ≤ page.bytes.length)
    (first second : ReportStack) (pinfo : PartInfo) (dpinfo : DpartInfo) (state : Desk σ) :
    exec (desk device) (infoPages first pinfo dpinfo) state =
      exec (desk device) (infoPages second pinfo dpinfo) state := by
  rw [infoPages, infoPages, exec_command_bind, exec_command_bind,
    @exec_read_congr _ _ _ 0x03 39 hstable (by decide) hlong03 first.deviceProperties
      second.deviceProperties]
  cases (exec device (u3ReadDeviceProperty 0x03 second.deviceProperties) state.device).result with
  | error error => rfl
  | ok deviceProperties =>
    dsimp only
    rw [exec_command_bind, exec_command_bind,
      @exec_read_congr _ _ _ 0x0C 10 hstable (by decide) hlong0C first.securityProperties
        second.securityProperties]

/-- A failed question comes before the stack is used. -/
theorem infoSound_of_none (hnone : (exec (desk device) infoRecords start).result = .ok none) :
    InfoSound device pages start where
  agrees first second := by rw [exec_doInfo_of_none hnone, exec_doInfo_of_none hnone]
  reports_short _ _ stack := by rw [exec_doInfo_of_none hnone]

section Records

variable {pinfo : PartInfo} {dpinfo : DpartInfo}
  (hrecords : (exec (desk device) infoRecords start).result = .ok (some (pinfo, dpinfo)))

include hrecords

/-- A missing page is reported. -/
theorem infoSound_of_missing (hstable : StablePages device pages)
    (hmissing : pages 0x03 = none ∨ pages 0x0C = none) : InfoSound device pages start where
  agrees first second := by
    rw [exec_doInfo_of_some hrecords, exec_doInfo_of_some hrecords,
      (exec_infoPages_of_missing hstable hmissing first second pinfo dpinfo _).1]
  reports_short _ _ stack := by
    rw [exec_doInfo_of_some hrecords]
    exact (exec_infoPages_of_missing hstable hmissing stack stack pinfo dpinfo _).2

/-- Pages that fill their structures leave nothing of the stack. -/
theorem infoSound_of_long (hstable : StablePages device pages)
    (hlong03 : ∀ page, pages 0x03 = some page → 39 ≤ page.bytes.length)
    (hlong0C : ∀ page, pages 0x0C = some page → 10 ≤ page.bytes.length) :
    InfoSound device pages start where
  agrees first second := by
    rw [exec_doInfo_of_some hrecords, exec_doInfo_of_some hrecords,
      exec_infoPages_congr hstable hlong03 hlong0C first second]
  reports_short := by
    rintro page (⟨hpage, hshort⟩ | ⟨hpage, hshort⟩)
    · exact absurd (hlong03 page hpage) (not_le.mpr hshort)
    · exact absurd (hlong0C page hpage) (not_le.mpr hshort)

/-- Two pages that are not reported are long enough: with both the report succeeds. -/
theorem long_of_infoSound (hstable : StablePages device pages)
    (hsound : InfoSound device pages start) {page03 page0C : Page}
    (hpage03 : pages 0x03 = some page03) (hpage0C : pages 0x0C = some page0C) :
    39 ≤ page03.bytes.length ∧ 10 ≤ page0C.bytes.length := by
  have hsuccess := congrArg Execution.result
    (exec_doInfo_of_some hrecords ⟨.fill 39 0, .fill 10 0⟩)
  rw [result_infoPages_of_present hstable hpage03 hpage0C] at hsuccess
  have hnotShort : ∀ page, ¬ (pages 0x03 = some page ∧ page.bytes.length < 39 ∨
      pages 0x0C = some page ∧ page.bytes.length < 10) := by
    intro page hshort
    have hfailure := hsound.reports_short page hshort ⟨.fill 39 0, .fill 10 0⟩
    exact absurd (hfailure.symm.trans hsuccess) (by simp)
  constructor
  · exact not_lt.mp fun hless ↦ hnotShort page03 (Or.inl ⟨hpage03, hless⟩)
  · exact not_lt.mp fun hless ↦ hnotShort page0C (Or.inr ⟨hpage0C, hless⟩)

end Records

/-- `do_info` depends on nothing but the device exactly when one of its first questions fails, one
of the two pages is missing, or both hold the field that is read from them. -/
theorem infoSound_iff (hstable : StablePages device pages) :
    InfoSound device pages start ↔
      (exec (desk device) infoRecords start).result = .ok none ∨
        (pages 0x03 = none ∨ pages 0x0C = none) ∨
          (∀ page, pages 0x03 = some page → 39 ≤ page.bytes.length) ∧
            ∀ page, pages 0x0C = some page → 10 ≤ page.bytes.length := by
  obtain ⟨records, hrecords⟩ := result_infoRecords device start
  match records with
  | none => exact iff_of_true (infoSound_of_none hrecords) (Or.inl hrecords)
  | some (pinfo, dpinfo) =>
    constructor
    · intro hsound
      refine Or.inr (or_iff_not_imp_left.mpr fun hpresent ↦ ?_)
      rw [not_or] at hpresent
      obtain ⟨page03, hpage03⟩ := Option.ne_none_iff_exists'.mp hpresent.1
      obtain ⟨page0C, hpage0C⟩ := Option.ne_none_iff_exists'.mp hpresent.2
      obtain ⟨hlong03, hlong0C⟩ := long_of_infoSound hrecords hstable hsound hpage03 hpage0C
      refine ⟨fun page hpage ↦ ?_, fun page hpage ↦ ?_⟩
      · rwa [← Option.some.inj (hpage03.symm.trans hpage)]
      · rwa [← Option.some.inj (hpage0C.symm.trans hpage)]
    · rintro (hnone | hmissing | ⟨hlong03, hlong0C⟩)
      · exact infoSound_of_none hnone
      · exact infoSound_of_missing hrecords hstable hmissing
      · exact infoSound_of_long hrecords hstable hlong03 hlong0C

/-- The consumers of property pages on a device with stable pages: `get_tries_left` depends on
nothing but the device, and reports a short page, exactly when the query before it fails or page
0x0C, if there is one, holds `max_pass_try`; `do_info` does exactly when one of its first questions
fails, one of the two pages is missing, or both hold the field that is read from them. -/
theorem pageConsumers_sound_iff (hstable : StablePages device pages) (start : Desk σ) :
    (TriesSound device pages start ↔
      (∃ error, (exec device u3DataPartitionInfo start.device).result = .error error) ∨
        ∀ page, pages 0x0C = some page → 10 ≤ page.bytes.length) ∧
    (InfoSound device pages start ↔
      (exec (desk device) infoRecords start).result = .ok none ∨
        (pages 0x03 = none ∨ pages 0x0C = none) ∨
          (∀ page, pages 0x03 = some page → 39 ≤ page.bytes.length) ∧
            ∀ page, pages 0x0C = some page → 10 ≤ page.bytes.length) :=
  ⟨triesSound_iff hstable, infoSound_iff hstable⟩

/-- Property page 0x0C without the field for the number of tries. -/
def shortPage : Page where
  bytes := [0x0c, 0, 1, 0, 6, 0]
  header_le := by decide
  length_lt := by decide
  announces := by decide

/-- Property page 0x03 of a device of 1000 sectors. -/
def devicePage : Page where
  bytes := [3, 0, 1, 0, 39, 0] ++ List.replicate 29 0 ++ leBytes 4 1000
  header_le := by decide
  length_lt := by decide
  announces := by decide

/-- The pages of that device with one page 0x0C. -/
def lockedPages (page0C : Page) (propertyId : UInt16) : Option Page :=
  if propertyId = 0x03 then some devicePage else some page0C

/-- The device, locked; to every other command it answers the bytes of a data partition with a
secured zone. -/
def lockedDevice (page0C : Page) : Surroundings Scsi Unit :=
  pageDevice (lockedPages page0C) fun request ↦ .success 0
    ((1 :: 0 :: 0 :: 0 :: 1 :: List.replicate 19 0).take request.length)

/-- A desk with that device and an empty stdin. -/
def lockedDesk : Desk Unit := ⟨(), fun _ ↦ none⟩

theorem stablePages_lockedDevice (page0C : Page) :
    StablePages (lockedDevice page0C) (lockedPages page0C) :=
  stablePages_pageDevice _ _

/-- Both consumers are sound on the device with both fields. -/
theorem pageConsumers_sound_iff_witness :
    TriesSound (lockedDevice securityPage) (lockedPages securityPage) lockedDesk ∧
      InfoSound (lockedDevice securityPage) (lockedPages securityPage) lockedDesk := by
  obtain ⟨htries, hinfo⟩ :=
    pageConsumers_sound_iff (stablePages_lockedDevice securityPage) lockedDesk
  have hlong0C : ∀ page, lockedPages securityPage 0x0C = some page → 10 ≤ page.bytes.length := by
    intro page hpage
    obtain rfl : securityPage = page := Option.some.inj hpage
    decide
  have hlong03 : ∀ page, lockedPages securityPage 0x03 = some page → 39 ≤ page.bytes.length := by
    intro page hpage
    obtain rfl : devicePage = page := Option.some.inj hpage
    decide
  exact ⟨htries.mpr (Or.inr hlong0C), hinfo.mpr (Or.inr (Or.inr ⟨hlong03, hlong0C⟩))⟩

/-- On a device whose page 0x0C is only a header, the number of tries left is what the stack held:
with zeros on it the device looks blocked, with ones it does not. -/
theorem getTriesLeft_reads_stack :
    (exec (desk (lockedDevice shortPage)) (getTriesLeft (.fill 10 0)) lockedDesk).result =
        .ok (some 0) ∧
      (exec (desk (lockedDevice shortPage)) (getTriesLeft (.fill 10 1)) lockedDesk).result =
        .ok (some 0x01010101) ∧
      (printed (exec (desk (lockedDevice shortPage)) (doInfo ⟨.fill 39 0, .fill 10 0⟩)
        lockedDesk).trace).getLast? = some (ascii "BLOCKED!\n") ∧
      (printed (exec (desk (lockedDevice shortPage)) (doInfo ⟨.fill 39 0, .fill 10 1⟩)
        lockedDesk).trace).getLast? = some (ascii "locked (16843009 tries left)\n") ∧
      ¬ TriesSound (lockedDevice shortPage) (lockedPages shortPage) lockedDesk ∧
      ¬ InfoSound (lockedDevice shortPage) (lockedPages shortPage) lockedDesk := by
  have hblocked : (printed (exec (desk (lockedDevice shortPage))
      (doInfo ⟨.fill 39 0, .fill 10 0⟩) lockedDesk).trace).getLast? =
      some (ascii "BLOCKED!\n") := by decide +kernel
  have hlocked : (printed (exec (desk (lockedDevice shortPage))
      (doInfo ⟨.fill 39 0, .fill 10 1⟩) lockedDesk).trace).getLast? =
      some (ascii "locked (16843009 tries left)\n") := by decide +kernel
  refine ⟨by decide +kernel, by decide +kernel, hblocked, hlocked, fun hsound ↦ ?_,
    fun hsound ↦ ?_⟩
  · exact absurd (hsound.agrees (.fill 10 0) (.fill 10 1)) (by decide +kernel)
  · rw [hsound.agrees _ ⟨.fill 39 0, .fill 10 1⟩, hlocked] at hblocked
    exact absurd hblocked (by decide +kernel)

end U3Tool
