import U3Tool.Actions
import U3Tool.ImageLoad
import U3Tool.Posix.Getopt
import U3Tool.Reports

/-!
# `main`

The options are parsed with `getopt`; every option that names an action replaces the action named
before. Then the device is opened, the passwords the action needs are read from stdin, and the
action is performed. Three actions ask for a confirmation first (`performAction`).

What `main` finds outside is a `World`: texts that the build and the subsystem provide, the hash
function, the files and the outcome of opening a device. Local variables that are not initialized
have their initial contents in a `MainStack`. The loops on stdin have fuel. `exit` is a return; that
`signal` succeeds is taken for granted, since the flag its handler sets is read as any value.
-/

set_option autoImplicit false
set_option relaxedAutoImplicit false

namespace U3Tool

open Interaction Bytes Program

/-! ### Reading a line in secret, `secure_input.c` -/

/-- The loop of `secure_input` that fills the buffer: the bytes stored while there is room, and the
last character read. -/
def fillInput : (room : ℕ) → (ch : Option UInt8) → ToolProgram (List UInt8 × Option UInt8)
  | 0, ch => .done ([], ch)
  | room + 1, ch =>
    match ch with
    | none => .done ([], none)
    | some byte =>
      if byte = 10 then .done ([], some byte)
      else do
        let next ← fgetc
        let (bytes, last) ← fillInput room next
        .done (byte :: bytes, last)

/-- The loop of `secure_input` that drops the rest of a line. -/
def flushInput : (fuel : ℕ) → (ch : Option UInt8) → ToolProgram Unit
  | 0, ch => if ch = some 10 ∨ ch = none then .done () else .fail .outOfFuel
  | fuel + 1, ch =>
    if ch = some 10 ∨ ch = none then .done ()
    else do
      let next ← fgetc
      flushInput fuel next

/-- `secure_input`; hiding the input has no effect on what is read. -/
def secureInput {size : ℕ} (fuel : ℕ) (buf : Buffer size) : ToolProgram (Buffer size) :=
  -- input checking
  if size < 1 then .done buf
  else do
    let buf := buf.store 0 [10]
    let first ← fgetc
    let (bytes, last) ← fillInput (size - 1) first
    -- flush the stdin buffer of remaining unused characters
    flushInput fuel last
    printf "\n"
    .done (buf.store 0 (bytes ++ [0]))

/-- The C string at the start of an array. -/
def cString {size : ℕ} (buffer : Buffer size) : List UInt8 := buffer.bytes.takeWhile (· ≠ 0)

/-- A buffer of `MAX_PASSWORD_LENGTH + 1` bytes. -/
abbrev PasswordBuffer := Buffer 1025

/-! ### Options -/

/-- `enum action_t`. -/
inductive Action
  | unknown
  | load
  | partition
  | dump
  | info
  | unlock
  | changePassword
  | enableSecurity
  | disableSecurity
  | resetSecurity
  deriving DecidableEq

/-- The variables of `main` that options set. `debug`, which only the subsystem reads, is left
out. -/
structure Options where
  action : Action
  filenameString : List UInt8
  sizeString : List UInt8
  deriving DecidableEq

/-- The options before any is parsed. The two strings are not initialized, and not read before they
are set. -/
def Options.initial : Options := ⟨.unknown, [], []⟩

/-- The options that end the program while options are parsed: `-V`, and those that `main` answers
with its usage. -/
inductive EarlyExit
  | version
  | usage
  deriving DecidableEq

/-- The option string `main` passes to `getopt`. -/
def optstring : List UInt8 := ascii "cdDehil:p:RuvVz"

/-- The text of `-l` as `main` copies it: `strncpy` of `MAX_FILENAME_STRING_LENGTH` characters. -/
def filenameString (optarg : List UInt8) : List UInt8 := optarg.take 1024

/-- The body of the loop that parses options. -/
def parseItem (options : Options) : Getopt.Item UInt8 → Except EarlyExit Options
  | .flag c =>
    match Char.ofNat c.toNat with
    | 'c' => .ok { options with action := .changePassword }
    | 'd' => .ok { options with action := .disableSecurity }
    | 'e' => .ok { options with action := .enableSecurity }
    | 'i' => .ok { options with action := .info }
    | 'R' => .ok { options with action := .resetSecurity }
    | 'u' => .ok { options with action := .unlock }
    | 'v' => .ok options
    | 'V' => .error .version
    | 'D' => .ok { options with action := .dump }
    | _ => .error .usage
  | .valued c optarg =>
    match Char.ofNat c.toNat with
    | 'l' => .ok { options with action := .load, filenameString := filenameString optarg }
    | 'p' => .ok { options with action := .partition, sizeString := sizeString optarg }
    | _ => .error .usage
  | .invalid _ => .error .usage

/-- The loop that parses options, over the results of `getopt`. -/
def parseOptions : List (Getopt.Item UInt8) → Options → Except EarlyExit Options
  | [], options => .ok options
  | item :: rest, options =>
    match parseItem options item with
    | .ok options => parseOptions rest options
    | .error exit => .error exit

/-! ### What `main` finds outside -/

/-- What `main` finds outside: the version of the build, the texts of the subsystem, the vendored
hash, the files by their names, and the error with which opening a device fails, if it does. -/
structure World where
  version : String
  subsystemName : String
  subsystemHelp : String
  md5 : List UInt8 → Buffer 16
  file : List UInt8 → ImageFile
  openError : List UInt8 → Option ErrMsg

/-- The initial contents of the local variables of `main` and of the actions that are not
initialized. -/
structure MainStack where
  password : PasswordBuffer
  newPassword : PasswordBuffer
  validatePassword : PasswordBuffer
  loadBuffer : Buffer blockSize
  partition : PartitionStack
  securityProperties : Property0C
  roundedSize : Buffer 4
  report : ReportStack
  retval : Int32

/-- The value of `EXIT_SUCCESS` or `EXIT_FAILURE`. -/
def ExitStatus.code : ExitStatus → Int32
  | .success => 0
  | .failure => 1

/-- Prints texts one after the other. -/
def printAll : List String → ToolProgram Unit
  | [] => .done ()
  | text :: rest => do
    printf text
    printAll rest

section

variable (world : World)

/-- `usage`. -/
def usage (name : List UInt8) : ToolProgram Unit := do
  printAll [s!"u3-tool {world.version} - U3 USB stick manager\n", "\n"]
  perform (I := Tool)
    (.print .stdout (ascii "Usage: " ++ name ++ ascii " [options] <device name>\n"))
  printAll ["\n", "Options:\n",
    "\t-c                Change password\n",
    "\t-d                Disable device security\n",
    "\t-D                Dump all raw info(for debug)\n",
    "\t-e                Enable device security\n",
    "\t-h                Print this help message\n",
    "\t-i                Display device info\n",
    "\t-l <cd image>     Load CD image into device\n",
    "\t-p <cd size>      Repartition device\n",
    "\t-R                Reset device security, destroying private data\n",
    "\t-u                Unlock device\n",
    "\t-v                Use verbose output\n",
    "\t-V                Print version information\n",
    "\n", s!"For the device name use:\n  {world.subsystemHelp}\n"]

/-- `print_version`. -/
def printVersion : ToolProgram Unit :=
  printAll [s!"u3-tool {world.version}\n", s!"subsystem: {world.subsystemName}\n", "\n",
    "Copyright (C) 2009\n",
    "This is free software; see the source for copying conditions. There is NO\nwarranty; not even for MERCHANTABILITY or FITNESS FOR A PARTICULAR PURPOSE.\n\n"]

/-! ### Passwords -/

/-- The loop that asks for the password until it is not empty. -/
def askPassword : (fuel : ℕ) → (password : PasswordBuffer) → ToolProgram PasswordBuffer
  | 0, _ => .fail .outOfFuel
  | fuel + 1, password => do
    eprint (ascii "Enter password: ")
    let password ← secureInput fuel password
    if cString password = [] then do
      eprint (ascii "Password Empty\n")
      askPassword fuel password
    else
      .done password

/-- The loop that asks for the new password until it is not empty and has been entered twice. -/
def askNewPassword : (fuel : ℕ) → (newPassword validatePassword : PasswordBuffer) →
    ToolProgram PasswordBuffer
  | 0, _, _ => .fail .outOfFuel
  | fuel + 1, newPassword, validatePassword => do
    eprint (ascii "Enter new password: ")
    let newPassword ← secureInput fuel newPassword
    if cString newPassword = [] then do
      eprint (ascii "Password Empty\n")
      askNewPassword fuel newPassword validatePassword
    else do
      eprint (ascii "Reenter new password: ")
      let validatePassword ← secureInput fuel validatePassword
      if cString newPassword = cString validatePassword then
        .done newPassword
      else do
        eprint (ascii "Passwords don't match\n")
        askNewPassword fuel newPassword (.fill 1025 0)

/-- The password, when the action needs it. -/
def passwordFor (fuel : ℕ) (action : Action) (password : PasswordBuffer) :
    ToolProgram PasswordBuffer :=
  if action = .unlock ∨ action = .changePassword ∨ action = .disableSecurity then
    askPassword fuel password
  else .done password

/-- The new password, when the action needs it. -/
def newPasswordFor (fuel : ℕ) (action : Action) (stack : MainStack) :
    ToolProgram PasswordBuffer :=
  if action = .changePassword ∨ action = .enableSecurity then
    askNewPassword fuel stack.newPassword stack.validatePassword
  else .done stack.newPassword

/-! ### The action -/

/-- Returns the value of an exit status. -/
def exitCode (p : ToolProgram ExitStatus) : ToolProgram Int32 := do
  let status ← p
  .done status.code

/-- The action proper, without the confirmation that some need. -/
def doAction (fuel : ℕ) (stack : MainStack) (options : Options)
    (password newPassword : List UInt8) : ToolProgram Int32 :=
  match options.action with
  | .load => exitCode (doLoad (world.file options.filenameString) stack.loadBuffer)
  | .partition => exitCode (doPartition options.sizeString stack.partition)
  | .dump => doDump stack.report stack.retval
  | .info => exitCode (doInfo stack.report)
  | .unlock => exitCode (doUnlock world.md5 fuel stack.securityProperties password)
  | .changePassword =>
    exitCode (doChangePassword world.md5 fuel stack.securityProperties password newPassword)
  | .enableSecurity => exitCode (doEnableSecurity world.md5 newPassword stack.roundedSize)
  | .disableSecurity =>
    exitCode (doDisableSecurity world.md5 fuel stack.securityProperties password)
  | .resetSecurity => exitCode (doResetSecurity world.md5 stack.roundedSize)
  | .unknown => do
    eprint (ascii "No action specified, use '-h' option for help.\n")
    .done 0

/-- Performs an action after a confirmation; `retval` stays `EXIT_SUCCESS` when it is refused. -/
def ifConfirmed (fuel : ℕ) (action : ToolProgram Int32) : ToolProgram Int32 := do
  let confirmed ← confirm fuel
  if confirmed then action else .done 0

/-- The switch over the action. -/
def performAction (fuel : ℕ) (stack : MainStack) (options : Options)
    (password newPassword : List UInt8) : ToolProgram Int32 :=
  let action := doAction world fuel stack options password newPassword
  match options.action with
  | .partition => do
    printAll ["\n", "WARNING: Loading a new cd image causes the ",
      "whole device to be wiped. This INCLUDES\n ", "the data partition.\n",
      "I repeat: ANY EXISTING DATA WILL BE LOST!\n"]
    ifConfirmed fuel action
  | .enableSecurity => do
    printAll ["WARNING: This will delete all data on the data ", "partition\n"]
    ifConfirmed fuel action
  | .resetSecurity => do
    printAll ["WARNING: This will delete all data on the data ", "partition\n"]
    ifConfirmed fuel action
  | _ => action

/-- What `main` does once the device is open. -/
def withDevice (fuel : ℕ) (stack : MainStack) (options : Options) : ToolProgram Int32 := do
  -- ask passwords
  let password ← passwordFor fuel options.action stack.password
  let newPassword ← newPasswordFor fuel options.action stack
  -- preform action
  performAction world fuel stack options (cString password) (cString newPassword)

/-- What `getopt` returns for the arguments after the program name, and the operands. -/
def parsedArguments (args : List (List UInt8)) :
    List (Getopt.Item UInt8) × List (List UInt8) :=
  Getopt.items 45 (Getopt.takesArgument 58 optstring) args

/-- `main`, for a program name and the arguments after it. -/
def main (fuel : ℕ) (stack : MainStack) (name : List UInt8) (args : List (List UInt8)) :
    ToolProgram Int32 :=
  let (items, operands) := parsedArguments args
  match parseOptions items .initial with
  | .error .version => do
    printVersion world
    .done 0
  | .error .usage => do
    usage world name
    .done 1
  | .ok options =>
    match operands with
    | [] => do
      eprint (ascii "Not enough arguments\n")
      usage world name
      .done 1
    | deviceName :: _ =>
      -- open the device
      match world.openError deviceName with
      | some error => do
        eprint (ascii "Error opening device: " ++ error.text ++ ascii "\n")
        .done 1
      | none => withDevice world fuel stack options

end

end U3Tool
