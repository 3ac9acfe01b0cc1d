import U3Tool.Tool
import U3Tool.Bytes.Numeral

/-!
# The actions of `main.c`

`confirm`, `get_tries_left` and the actions that repartition the device or change its security. The
three actions that send a password are one definition, `guardedAction`, with the parts in which
their copies differ: a word of a message, the name and the call of the command function.

`confirm` reads stdin until it meets an answer, which need not come, so it is given fuel.
-/

set_option autoImplicit false
set_option relaxedAutoImplicit false

namespace U3Tool

open Interaction Bytes Program

/-! ### Confirmation -/

/-- What `fgetc` returns, stored in a `char` that is signed as on x86. `EOF` becomes -1, and so does
the byte 0xFF. -/
def toChar : Option UInt8 → Int8
  | some byte => byte.toInt8
  | none => -1

/-- Drops the characters up to the end of the line: `while (c != '\n' && c != EOF)`. -/
def dropLine : ℕ → Int8 → ToolProgram Unit
  | 0, c => if c = 10 ∨ c = -1 then .done () else .fail .outOfFuel
  | fuel + 1, c =>
    if c = 10 ∨ c = -1 then .done ()
    else do
      let next ← fgetc
      dropLine fuel (toChar next)

/-- The answer a line gives by its first character: `y`, `Y`, `n`, `N` or none. -/
def answerOf (c : Int8) : Option Bool :=
  if c = 121 ∨ c = 89 then some true
  else if c = 110 ∨ c = 78 then some false
  else none

/-- `batch_mode`, which nothing ever sets. -/
def batchMode : Bool := false

/-- The loop of `confirm`. -/
def confirmLoop : ℕ → ToolProgram Bool
  | 0 => .fail .outOfFuel
  | fuel + 1 => do
    printf "\nAre you sure you want to continue? [yn] "
    let first ← fgetc
    -- drop any extra chars and the new line
    dropLine fuel (toChar first)
    match answerOf (toChar first) with
    | some retval => .done retval
    | none => confirmLoop fuel

/-- `confirm`. -/
def confirm (fuel : ℕ) : ToolProgram Bool :=
  if batchMode then .done true else confirmLoop fuel

/-! ### Password tries -/

/-- `get_tries_left`; `securityProperties` holds the initial bytes of its local variable. The
difference of two `uint32_t` is stored in an `int`. -/
def getTriesLeft (securityProperties : Property0C) : ToolProgram (Option Int32) := do
  match ← command u3DataPartitionInfo with
  | .error error => do
    eprintFailure "u3_data_partition_info" error
    .done none
  | .ok dpinfo =>
    match ← command (u3ReadDeviceProperty 0x0C securityProperties) with
    | .error error => do
      eprint (ascii "u3_read_device_property() failed for property 0x0C: " ++ error.text ++
        ascii "\n")
      .done none
    | .ok properties =>
      .done (some (Property0C.maxPassTry properties - dpinfo.passTry).toInt32)

/-- The end of the actions that send a password: the command, and what it returned. -/
def sendPassword (function : String) (p : Command Bool) : ToolProgram ExitStatus := do
  match ← command p with
  | .error error => do
    eprintFailure function error
    .done .failure
  | .ok true => do
    printf "OK\n"
    .done .success
  | .ok false => do
    printf "Password incorrect\n"
    .done .failure

/-- The warning before the last try. -/
def warnLastTry : ToolProgram Unit := do
  printf "Warning: This is the your last password try. If this attempt fails,"
  printf " all data on the data partition is lost.\n"

/-- The guard on the number of tries left. -/
def guardPassword (fuel : ℕ) (verb function : String) (p : Command Bool) (triesLeft : Int32) :
    ToolProgram ExitStatus :=
  if triesLeft = 0 then do
    printf s!"Unable to {verb}, device is blocked\n"
    .done .failure
  else if triesLeft = 1 then do
    warnLastTry
    let confirmed ← confirm fuel
    if confirmed then sendPassword function p else .done .failure
  else
    sendPassword function p

/-- An action that sends a password after a look at the number of tries left. -/
def guardedAction (fuel : ℕ) (securityProperties : Property0C) (verb function : String)
    (p : Command Bool) : ToolProgram ExitStatus := do
  -- check password retry counter
  match ← getTriesLeft securityProperties with
  | none => .done .failure
  | some triesLeft => guardPassword fuel verb function p triesLeft

/-! ### Repartitioning -/

/-- The text of `-p` as `main` copies it: `strncpy` of `MAX_SIZE_STRING_LENGTH` characters. -/
def sizeString (optarg : List UInt8) : List UInt8 := optarg.take 100

/-- The number of sectors `do_partition` computes from the size string. -/
def cdSectors (sizeString : List UInt8) : UInt32 :=
  let size := UInt64.ofInt (strtoll sizeString)
  let sectors := (size / 512).toUInt32
  if size % 512 ≠ 0 then sectors + 1 else sectors

/-- `do_partition`. -/
def doPartition (sizeString : List UInt8) (stack : PartitionStack) : ToolProgram ExitStatus := do
  -- repartition
  match ← command (u3Partition (cdSectors sizeString) stack) with
  | .error error => do
    eprintFailure "u3_partition" error
    .done .failure
  | .ok () =>
    -- reset device to make partitioning active
    match ← command u3Reset with
    | .error error => do
      eprintFailure "u3_reset" error
      .done .failure
    | .ok () => .done .success

/-! ### Security -/

section Security

variable (md5 : List UInt8 → Buffer 16)

/-- `do_unlock`. -/
def doUnlock (fuel : ℕ) (securityProperties : Property0C) (password : List UInt8) :
    ToolProgram ExitStatus :=
  guardedAction fuel securityProperties "unlock" "u3_unlock" (u3Unlock md5 password)

/-- `do_change_password`. -/
def doChangePassword (fuel : ℕ) (securityProperties : Property0C)
    (password newPassword : List UInt8) : ToolProgram ExitStatus :=
  guardedAction fuel securityProperties "change password" "u3_change_password"
    (u3ChangePassword md5 password newPassword)

/-- `do_disable_security`. -/
def doDisableSecurity (fuel : ℕ) (securityProperties : Property0C) (password : List UInt8) :
    ToolProgram ExitStatus :=
  guardedAction fuel securityProperties "disable security" "u3_disable_security"
    (u3DisableSecurity md5 password)

/-- `do_enable_security`; `roundedSize` holds the initial bytes of a local variable of
`u3_security_sector_round`. -/
def doEnableSecurity (password : List UInt8) (roundedSize : Buffer 4) :
    ToolProgram ExitStatus := do
  match ← command (u3EnableSecurity md5 password roundedSize) with
  | .error error => do
    eprintFailure "u3_enable_security" error
    .done .failure
  | .ok () => .done .success

/-- `do_reset_security`. -/
def doResetSecurity (roundedSize : Buffer 4) : ToolProgram ExitStatus := do
  -- the enable security command is always possible without the correct password
  match ← command (u3EnableSecurity md5 (ascii "password") roundedSize) with
  | .error error => do
    eprintFailure "u3_enable_security" error
    .done .failure
  | .ok () =>
    match ← command (u3DisableSecurity md5 (ascii "password")) with
    | .error error => do
      eprintFailure "u3_disable_security" error
      .done .failure
    | .ok true => do
      printf "OK\n"
      .done .success
    | .ok false => do
      printf "Failed\n"
      .done .failure

end Security

end U3Tool
