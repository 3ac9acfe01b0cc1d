import U3Tool.Tool

/-!
# The actions that print, `do_info` and `do_dump`

Both ask the device the same five questions and print the answers. `do_info` stops at the first
question that fails; `do_dump` goes on, and remembers the failure in a variable that is not
initialized. The two property pages are read into structures on the stack, whose initial contents
are an argument (`ReportStack`). -/

set_option autoImplicit false
set_option relaxedAutoImplicit false

namespace U3Tool

open Interaction Bytes Program

/-! ### Formats -/

/-- `printf`'s `%x` with a least number of digits. -/
def lowerHex (digits n : ℕ) : String := String.ofList ((Nat.toDigits 16 n).leftpad digits '0')

/-- Prints a text with a byte string in the middle, as `%.*s` does: up to the width of the field or
its first NUL. -/
def printField (label : String) (field : List UInt8) : ToolProgram Unit :=
  perform (I := Tool) (.print .stdout (ascii label ++ field.takeWhile (· ≠ 0) ++ ascii "\n"))

/-- `factor_symbols`. -/
def factorSymbols : List String := [" ", "k", "M", "G", "T", "P", "E"]

/-- The loop of `print_human_size`: how often a size is divided by 1024 before it is below 1024, in
at most the given number of steps. -/
def sizeFactor : (steps size : ℕ) → ℕ
  | 0, _ => 0
  | steps + 1, size => if 1024 ≤ size then sizeFactor steps (size / 1024) + 1 else 0

/-- A quotient rounded to the nearest integer, to the even one of two, as `printf` rounds. -/
def roundHalfEven (numerator denominator : ℕ) : ℕ :=
  let quotient := numerator / denominator
  let rest := 2 * (numerator % denominator)
  if rest > denominator ∨ (rest = denominator ∧ quotient % 2 = 1) then quotient + 1 else quotient

/-- The text `print_human_size` prints; a `uint64_t` takes six divisions at most. A `double` holds a
size below 2^53 and its quotients by powers of two exactly, so `%.2f` rounds the exact quotient; no
caller passes 2^41 or more. -/
def humanSize (size : ℕ) : String :=
  let factor := sizeFactor 6 size
  let symbol := factorSymbols.getD factor ""
  let hundredths := roundHalfEven (size * 100) (1024 ^ factor)
  let cents := String.ofList ((Nat.toDigits 10 (hundredths % 100)).leftpad 2 '0')
  s!"{hundredths / 100}.{cents} {symbol}B"

example : humanSize 1536 = "1.50 kB" := by decide +kernel

/-- `print_human_size`. -/
def printHumanSize (size : ℕ) : ToolProgram Unit := printf (humanSize size)

/-! ### Records -/

/-- `full_length` of property page 0x03. -/
def Property03.fullLength (page : Property03) : UInt32 := page.word32 6

/-- `unknown1` of property page 0x03. -/
def Property03.unknown1 (page : Property03) : UInt8 := page.byte 10

/-- `unknown2` of property page 0x03. -/
def Property03.unknown2 (page : Property03) : UInt32 := page.word32 11

/-- `serial` of property page 0x03, `U3_MAX_SERIAL_LEN` bytes. -/
def Property03.serial (page : Property03) : List UInt8 := page.slice 15 16

/-- `unknown3` of property page 0x03. -/
def Property03.unknown3 (page : Property03) : UInt32 := page.word32 31

/-- `revision` of the chip information, `U3_MAX_CHIP_REVISION_LEN` bytes. -/
def ChipInfo.revision (info : ChipInfo) : List UInt8 := info.slice 0 8

/-- `manufacturer` of the chip information, `U3_MAX_CHIP_MANUFACTURER_LEN` bytes. -/
def ChipInfo.manufacturer (info : ChipInfo) : List UInt8 := info.slice 8 16

/-- The initial contents of the structures `do_info` and `do_dump` read property pages into. -/
structure ReportStack where
  deviceProperties : Property03
  securityProperties : Property0C

/-- The message of an action whose property read failed. -/
def eprintPropertyFailure (propertyId : String) (error : ErrMsg) : ToolProgram Unit :=
  eprint (ascii s!"u3_read_device_property() failed for property {propertyId}: " ++ error.text ++
    ascii "\n")

/-! ### `do_info` -/

/-- A line of `do_info` with a size, given in sectors. -/
def printSize (label : String) (sectors : UInt32) : ToolProgram Unit := do
  printf label
  printHumanSize (sectorSize * sectors.toNat)
  printf s!" ({sectorSize * sectors.toNat} bytes)\n"

/-- The line of `do_info` on the state of the secured zone. -/
def printZoneStatus (dpinfo : DpartInfo) (securityProperties : Property0C) :
    ToolProgram Unit := do
  printf "Secure zone status:  "
  if dpinfo.unlocked ≠ 0 then
    printf "unlocked\n"
  else if securityProperties.maxPassTry = dpinfo.passTry then
    printf "BLOCKED!\n"
  else
    printf s!"locked ({(securityProperties.maxPassTry - dpinfo.passTry).toNat} tries left)\n"

/-- What `do_info` prints when all its questions were answered. -/
def printInfo (pinfo : PartInfo) (dpinfo : DpartInfo) (deviceProperties : Property03)
    (securityProperties : Property0C) : ToolProgram ExitStatus := do
  printSize "Total device size:   " deviceProperties.deviceSize
  printSize "CD size:             " pinfo.cdSize
  if dpinfo.securedSize = 0 then
    printSize "Data partition size: " dpinfo.totalSize
  else do
    printSize "Secured zone size:   " dpinfo.securedSize
    printZoneStatus dpinfo securityProperties
  .done .success

/-- The two property reads of `do_info` and what follows them. -/
def infoPages (stack : ReportStack) (pinfo : PartInfo) (dpinfo : DpartInfo) :
    ToolProgram ExitStatus := do
  match ← command (u3ReadDeviceProperty 0x03 stack.deviceProperties) with
  | .error error => do
    eprintPropertyFailure "0x03" error
    .done .failure
  | .ok deviceProperties =>
    match ← command (u3ReadDeviceProperty 0x0C stack.securityProperties) with
    | .error error => do
      eprintPropertyFailure "0x0C" error
      .done .failure
    | .ok securityProperties => printInfo pinfo dpinfo deviceProperties securityProperties

/-- The first three questions of `do_info`, and of their answers the two that are printed; nothing
when a question failed. -/
def infoRecords : ToolProgram (Option (PartInfo × DpartInfo)) := do
  match ← command u3PartitionInfo with
  | .error error => do
    eprintFailure "u3_partition_info" error
    .done none
  | .ok pinfo =>
    match ← command u3DataPartitionInfo with
    | .error error => do
      eprintFailure "u3_data_partition_info" error
      .done none
    | .ok dpinfo =>
      match ← command u3ChipInfo with
      | .error error => do
        eprintFailure "u3_chip_info" error
        .done none
      | .ok _ => .done (some (pinfo, dpinfo))

/-- `do_info`. -/
def doInfo (stack : ReportStack) : ToolProgram ExitStatus := do
  match ← infoRecords with
  | none => .done .failure
  | some (pinfo, dpinfo) => infoPages stack pinfo dpinfo

/-! ### `do_dump` -/

/-- A section of `do_dump`: a question, and what is printed when it was answered. The value of
`retval` is passed on, or becomes `EXIT_FAILURE` when the question or the printing says so. -/
def dumpSection {α : Type} (question : Command α) (fails : ErrMsg → ToolProgram Unit)
    (prints : α → ToolProgram ExitStatus) (retval : Int32) : ToolProgram Int32 := do
  match ← command question with
  | .error error => do
    fails error
    .done 1
  | .ok answer =>
    match ← prints answer with
    | .success => .done retval
    | .failure => .done 1

/-- The section of `do_dump` on the partition table. -/
def printPartInfo (pinfo : PartInfo) : ToolProgram ExitStatus := do
  printf "Partition info:\n"
  printf s!" - Partition count: 0x{lowerHex 2 pinfo.partitionCount.toNat}\n"
  printf s!" - Data partition size: {sectorSize * pinfo.dataSize.toNat} byte(0x{lowerHex 8 pinfo.dataSize.toNat})\n"
  printf s!" - Unknown1: 0x{lowerHex 8 pinfo.unknown1.toNat}\n"
  printf s!" - CD size: {sectorSize * pinfo.cdSize.toNat} byte(0x{lowerHex 8 pinfo.cdSize.toNat})\n"
  printf s!" - Unknown2: 0x{lowerHex 8 pinfo.unknown2.toNat}\n"
  printf "\n"
  .done .success

/-- The section of `do_dump` on the data partition. -/
def printDpartInfo (dpinfo : DpartInfo) : ToolProgram ExitStatus := do
  printf "Data partition info:\n"
  printf s!" - Data partition size: {sectorSize * dpinfo.totalSize.toNat} byte(0x{lowerHex 8 dpinfo.totalSize.toNat})\n"
  printf s!" - Secured zone size: {sectorSize * dpinfo.securedSize.toNat} byte(0x{lowerHex 8 dpinfo.securedSize.toNat})\n"
  printf s!" - Unlocked: 0x{lowerHex 8 dpinfo.unlocked.toNat}\n"
  printf s!" - Password try: 0x{lowerHex 8 dpinfo.passTry.toNat}\n"
  printf "\n"
  .done .success

/-- The section of `do_dump` on the chip. -/
def printChipInfo (cinfo : ChipInfo) : ToolProgram ExitStatus := do
  printf "Chip info:\n"
  printField " - Manufacturer: " cinfo.manufacturer
  printField " - Revision: " cinfo.revision
  printf "\n"
  .done .success

/-- The message of `do_dump` on a property page of another length than that of its structure. -/
def eprintPropertyLength (propertyId : String) (length : UInt16) : ToolProgram Unit :=
  eprint (ascii s!"Length of property {propertyId} is not the expected length. (len={length.toNat})\n")

/-- The section of `do_dump` on property page 0x03. -/
def printProperty03 (page : Property03) : ToolProgram ExitStatus :=
  if hdrLength page ≠ 39 then do
    eprintPropertyLength "0x03" (hdrLength page)
    .done .failure
  else do
    printf "Property page 0x03:\n"
    printf s!" - Device size: {sectorSize * page.deviceSize.toNat} byte(0x{lowerHex 8 page.deviceSize.toNat})\n"
    printField " - Device serial: " page.serial
    printf s!" - Full record length: 0x{lowerHex 8 page.fullLength.toNat}\n"
    printf s!" - Unknown1: 0x{lowerHex 2 page.unknown1.toNat}\n"
    printf s!" - Unknown2: 0x{lowerHex 8 page.unknown2.toNat}\n"
    printf s!" - Unknown3: 0x{lowerHex 8 page.unknown3.toNat}\n"
    printf "\n"
    .done .success

/-- The section of `do_dump` on property page 0x0C. -/
def printProperty0C (page : Property0C) : ToolProgram ExitStatus :=
  if hdrLength page ≠ 10 then do
    eprintPropertyLength "0x0C" (hdrLength page)
    .done .failure
  else do
    printf "Property page 0x0C:\n"
    printf s!" - Max. pass. try: {page.maxPassTry.toNat}"
    printf "\n"
    .done .success

/-- `do_dump`; `retval` is the initial value of the variable it returns. -/
def doDump (stack : ReportStack) (retval : Int32) : ToolProgram Int32 := do
  let retval ← dumpSection u3PartitionInfo (eprintFailure "u3_partition_info") printPartInfo retval
  let retval ← dumpSection u3DataPartitionInfo (eprintFailure "u3_data_partition_info")
    printDpartInfo retval
  let retval ← dumpSection u3ChipInfo (eprintFailure "u3_chip_info") printChipInfo retval
  let retval ← dumpSection (u3ReadDeviceProperty 0x03 stack.deviceProperties)
    (eprintPropertyFailure "0x03") printProperty03 retval
  dumpSection (u3ReadDeviceProperty 0x0C stack.securityProperties)
    (eprintPropertyFailure "0x0C") printProperty0C retval

end U3Tool
