import U3Tool.ExitStatus
import U3Tool.Interaction.Retention
import U3Tool.TransportAgreement

/-!
# What the user loses only by saying yes

A repartition and an enabling of security destroy the data on the data partition, and so does a
wrong password at the last try. A device is careful (`Careful`) when it loses its data in no other
way and reports its tries as they are; what it does to the data otherwise is left open.

The tool then protects the data where every transfer is complete, as on `usbBus`: in any sequence of
invocations over the bus, with any arguments and input and whatever the other calls of libusb
answer, a device that has lost its data lost it in an invocation in whose dialogue the user was
asked and said yes (`lost_only_after_yes`).
-/

set_option autoImplicit false
set_option relaxedAutoImplicit false

namespace U3Tool

open Interaction Bytes Program

variable {ρ σ α : Type}

/-! ### Careful devices -/

/-- A device reports in every state how many tries were made and how many are allowed. -/
structure ReportsTries (dev : DeviceModel σ) (maxPassTry passTry : σ → UInt32) : Prop where
  info : ∀ state, ∃ data, (answering dev state dpartInfoRequest).1 = .success 0 data ∧
    data.length = 16 ∧ leUInt32 ((data.drop 12).take 4) = passTry state
  header : ∀ state, ∃ data, (answering dev state (propertyRequest 0x0C 6)).1 = .success 0 data ∧
    data.length = 6 ∧ leUInt16 ((data.drop 4).take 2) = 10
  page : ∀ state, ∃ data, (answering dev state (propertyRequest 0x0C 10)).1 = .success 0 data ∧
    data.length = 10 ∧ leUInt32 ((data.drop 6).take 4) = maxPassTry state

/-- A device that loses its data only by a repartition, an enabling of security, or a password at
the last try. -/
structure Careful (dev : DeviceModel σ) (intact : σ → Prop) (maxPassTry passTry : σ → UInt32) :
    Prop where
  reports : ReportsTries dev maxPassTry passTry
  reads : ∀ {state request}, request.command ∉ deviceChanging → intact state →
    intact (dev state request).2 ∧ maxPassTry (dev state request).2 = maxPassTry state ∧
      passTry (dev state request).2 = passTry state
  spares : ∀ {state request}, request.command ∈ ([0x42, 0x101] : List UInt16) → intact state →
    intact (dev state request).2
  tries : ∀ {state request}, request.command ∈ ([0xA4, 0xA6, 0xA7] : List UInt16) →
    intact state → (passTry state).toNat + 1 ≠ (maxPassTry state).toNat →
      intact (dev state request).2

section Device

variable {dev : DeviceModel σ} {intact : σ → Prop} {maxPassTry passTry : σ → UInt32}

/-- In the states of `kept` a device reports fixed numbers of tries, and what does not change the
device leads to no other state. -/
structure ReportsWhile (dev : DeviceModel σ) (kept : σ → Prop) (maxPassTry passTry : UInt32) :
    Prop where
  info : ∀ {state}, kept state → ∃ data,
    (answering dev state dpartInfoRequest).1 = .success 0 data ∧ data.length = 16 ∧
      leUInt32 ((data.drop 12).take 4) = passTry
  header : ∀ {state}, kept state → ∃ data,
    (answering dev state (propertyRequest 0x0C 6)).1 = .success 0 data ∧ data.length = 6 ∧
      leUInt16 ((data.drop 4).take 2) = 10
  page : ∀ {state}, kept state → ∃ data,
    (answering dev state (propertyRequest 0x0C 10)).1 = .success 0 data ∧ data.length = 10 ∧
      leUInt32 ((data.drop 6).take 4) = maxPassTry
  reads : ∀ {state request}, request.command ∉ deviceChanging → kept state →
    kept (dev state request).2

open Classical in
/-- The device in the states of `kept`; in any other it only reports the tries. -/
noncomputable def whileKept (dev : DeviceModel σ) (kept : σ → Prop) (maxPassTry passTry : UInt32) :
    Surroundings Scsi σ := fun state request ↦
  if kept state then answering dev state request
  else ((reportingDevice maxPassTry passTry () request).1, state)

theorem reports_whileKept {kept : σ → Prop} {maxPassTry passTry : UInt32}
    (hreports : ReportsWhile dev kept maxPassTry passTry) :
    Reports (whileKept dev kept maxPassTry passTry) maxPassTry passTry := by
  have hother := reports_reportingDevice maxPassTry passTry
  refine ⟨fun state ↦ ?_, fun state ↦ ?_, fun state ↦ ?_⟩
  · unfold whileKept
    split_ifs with hkept
    · exact hreports.info hkept
    · exact hother.info ()
  · unfold whileKept
    split_ifs with hkept
    · exact hreports.header hkept
    · exact hother.header ()
  · unfold whileKept
    split_ifs with hkept
    · exact hreports.page hkept
    · exact hother.page ()

theorem harmless_getTriesLeft (securityProperties : Property0C) :
    Asks Harmless (getTriesLeft securityProperties) :=
  asks_command_bind isQuery_u3DataPartitionInfo.asks_command (fun _ ↦ harmless_print_done _)
    fun _ ↦ asks_command_bind (isQuery_u3ReadDeviceProperty _ _).asks_command
      (fun _ ↦ harmless_print_done _) fun _ ↦ .done _

/-- `get_tries_left` returns the difference of the tries as they are reported, and leaves everything
as it is. -/
theorem exec_getTriesLeft_kept {kept : σ → Prop} {maxPassTry passTry : UInt32}
    (hreports : ReportsWhile dev kept maxPassTry passTry) (securityProperties : Property0C)
    {now : Desk σ} (hkept : kept now.device) :
    let tries := exec (desk (answering dev)) (getTriesLeft securityProperties) now
    tries.result = .ok (some (maxPassTry - passTry).toInt32) ∧ kept tries.final.device ∧
      tries.final.stdin = now.stdin := by
  let related (state other : Desk σ) : Prop := state = other ∧ kept state.device
  have hstep (state other : Desk σ) (request : ToolRequest) (hharmless : Harmless request)
      (hrelated : related state other) :
      (desk (answering dev) state request).1 =
          (desk (whileKept dev kept maxPassTry passTry) other request).1 ∧
        related (desk (answering dev) state request).2
          (desk (whileKept dev kept maxPassTry passTry) other request).2 := by
    obtain ⟨rfl, hstate⟩ := hrelated
    cases request with
    | sendCmd request =>
      have hsame : whileKept dev kept maxPassTry passTry state.device request =
          answering dev state.device request := if_pos hstate
      simp only [desk, hsame]
      exact ⟨trivial, rfl, hreports.reads hharmless hstate⟩
    | fgetc => exact ⟨rfl, rfl, hstate⟩
    | quit => exact ⟨rfl, rfl, hstate⟩
    | print stream text => exact ⟨rfl, rfl, hstate⟩
  have hrelated : related now now := ⟨rfl, hkept⟩
  obtain ⟨hresult, -, hfinal, hstill⟩ :=
    exec_congr hstep (harmless_getTriesLeft securityProperties) hrelated
  obtain ⟨htries, -, hstdin⟩ :=
    exec_getTriesLeft (reports_whileKept hreports) securityProperties now
  exact ⟨hresult.trans htries, hstill, (congrArg Desk.stdin hfinal).trans hstdin⟩

/-- As long as its data is intact, a careful device reports its tries. -/
theorem Careful.reportsWhile (hcareful : Careful dev intact maxPassTry passTry) (state : σ) :
    ReportsWhile dev (fun next ↦ intact next ∧ maxPassTry next = maxPassTry state ∧
      passTry next = passTry state) (maxPassTry state) (passTry state) where
  info hkept := hkept.2.2 ▸ hcareful.reports.info _
  header _ := hcareful.reports.header _
  page hkept := hkept.2.1 ▸ hcareful.reports.page _
  reads hreads hkept := by
    obtain ⟨hintact, hmax, hpass⟩ := hkept
    obtain ⟨hnext, hmaxNext, hpassNext⟩ := hcareful.reads hreads hintact
    exact ⟨hnext, hmaxNext.trans hmax, hpassNext.trans hpass⟩

/-! ### One invocation against the device -/

/-- The data is intact. -/
def Unharmed (intact : σ → Prop) (now : Desk σ) : Prop := intact now.device

theorem lasting_confirmed : Lasting Confirmed where
  prepend first trace hconfirmed := by
    obtain ⟨before, asked, after, fuel, rfl, hasked⟩ := hconfirmed
    exact ⟨first ++ before, asked, after, fuel, by simp, hasked⟩
  append last hconfirmed := by
    obtain ⟨before, asked, after, fuel, rfl, hasked⟩ := hconfirmed
    exact ⟨before, asked, after ++ last, fuel, by simp, hasked⟩

/-- A tool program that harms the data only after a confirmation. -/
abbrev Protects (dev : DeviceModel σ) (intact : σ → Prop) (p : ToolProgram α) : Prop :=
  Retains (desk (answering dev)) (Unharmed intact) Confirmed p

/-- A command that harms intact data in some state. -/
def Harms (dev : DeviceModel σ) (intact : σ → Prop) : ToolRequest → Prop
  | .sendCmd request => ∃ state, intact state ∧ ¬ intact (dev state request).2
  | _ => False

theorem protects_of_asks {p : ToolProgram α}
    (hp : Asks (fun request ↦ ¬ Harms dev intact request) p) :
    Protects dev intact p :=
  .of_asks hp fun {now request} hharmless hintact ↦ by
    cases request with
    | sendCmd request =>
      exact not_not.mp fun hlost ↦ hharmless ⟨now.device, hintact, hlost⟩
    | fgetc => exact hintact
    | quit => exact hintact
    | print stream text => exact hintact

theorem protects_of_talks {p : ToolProgram α} (hp : Asks Talks p) : Protects dev intact p :=
  protects_of_asks (hp.mono fun request htalks ↦ by
    cases request with
    | sendCmd request => exact htalks.elim
    | fgetc => exact id
    | quit => exact id
    | print stream text => exact id)

/-- What is done after a confirmation is excused. -/
theorem protects_ifConfirmed (fuel : ℕ) (action : ToolProgram Int32) :
    Protects dev intact (ifConfirmed fuel action) where
  of_exec {now} hintact := by
    have htalks : Protects dev intact (confirm fuel) := protects_of_talks (asks_confirm fuel)
    have hasked := htalks.of_exec hintact
    cases hanswer : (exec (desk (answering dev)) (confirm fuel) now).result with
    | error halt =>
      rw [ifConfirmed, exec_bind_error hanswer]
      exact hasked
    | ok confirmed =>
      rw [ifConfirmed, exec_bind_ok hanswer]
      cases confirmed with
      | true =>
        have hrun := run_exec (desk (answering dev)) (confirm fuel) now
        rw [hanswer] at hrun
        exact Or.inr ⟨[], _, _, fuel, rfl, hrun⟩
      | false => simpa using hasked

variable (hcareful : Careful dev intact maxPassTry passTry)
include hcareful

theorem protects_of_harmless {p : ToolProgram α} (hp : Asks Harmless p) : Protects dev intact p :=
  protects_of_asks (hp.mono fun request hharmless ↦ by
    cases request with
    | sendCmd request =>
      rintro ⟨state, hintact, hlost⟩
      exact hlost (hcareful.reads hharmless hintact).1
    | fgetc => exact id
    | quit => exact id
    | print stream text => exact id)

theorem protects_doLoad (image : ImageFile) (buffer : Buffer blockSize) :
    Protects dev intact (doLoad image buffer) :=
  protects_of_asks ⟨fun hrun event hevent ↦ by
    obtain ⟨request, reply⟩ := event
    cases request with
    | sendCmd request =>
      have hsent : (⟨request, reply⟩ : Event Scsi) ∈ commands _ := mem_commands.mpr hevent
      have hcommand := command_of_run_doLoad hrun hsent
      rintro ⟨state, hintact, hlost⟩
      simp only [List.mem_cons, List.not_mem_nil, or_false] at hcommand
      rcases hcommand with hquery | hwrite
      · exact hlost (hcareful.reads (by rw [hquery]; decide) hintact).1
      · exact hlost (hcareful.spares (by rw [hwrite]; decide) hintact)
    | fgetc => exact id
    | quit => exact id
    | print stream text => exact id⟩

/-- The guard protects the data when it is passed the number of tries that are left. -/
theorem protects_guardPassword {p : Command Bool} (hp : SendsPassword p) (fuel : ℕ)
    (verb function : String) {now : Desk σ} (hintact : intact now.device) :
    let guard := exec (desk (answering dev)) (guardPassword fuel verb function p
      (maxPassTry now.device - passTry now.device).toInt32) now
    intact guard.final.device ∨ Confirmed guard.trace := by
  intro guard
  have hfinal : guard.final.device = _ := device_final_exec _ _ _
  rcases exec_guardPassword hp fuel verb function _ now with ⟨-, -, hnone⟩ | ⟨-, -, hnone, -⟩ |
    ⟨-, hanswer, first, rest, event, htrace, -, -, -⟩ | ⟨-, hseveral, event, hsent, hpassword⟩
  · left
    rw [hfinal, hnone]
    exact hintact
  · left
    rw [hfinal, hnone]
    exact hintact
  · right
    have hrun := run_exec (desk (answering dev)) (confirm fuel) now
    rw [hanswer] at hrun
    exact ⟨first, _, rest, fuel, htrace, hrun⟩
  · left
    rw [hfinal, hsent]
    refine hcareful.tries hpassword hintact fun hlast ↦ hseveral ?_
    exact toInt32_sub_eq_one_iff.mpr (Or.inl hlast.symm)

theorem protects_guardedAction {p : Command Bool} (hp : SendsPassword p) (fuel : ℕ)
    (securityProperties : Property0C) (verb function : String) :
    Protects dev intact (guardedAction fuel securityProperties verb function p) where
  of_exec {now} hintact := by
    have hkept : intact now.device ∧ maxPassTry now.device = maxPassTry now.device ∧
        passTry now.device = passTry now.device := ⟨hintact, rfl, rfl⟩
    obtain ⟨htries, ⟨hstill, hmax, hpass⟩, -⟩ :=
      exec_getTriesLeft_kept (hcareful.reportsWhile now.device) securityProperties hkept
    rw [guardedAction, exec_bind_ok htries]
    dsimp only
    rw [← hmax, ← hpass]
    exact (protects_guardPassword hcareful hp fuel verb function hstill).imp_right
      (lasting_confirmed.prepend _)

omit hcareful in
theorem protects_exitCode {p : ToolProgram ExitStatus} (hp : Protects dev intact p) :
    Protects dev intact (exitCode p) :=
  hp.bind lasting_confirmed fun _ ↦ .done _

omit hcareful in
theorem protects_warned {texts : List String} (fuel : ℕ) (action : ToolProgram Int32) :
    Protects dev intact (printAll texts >>= fun _ ↦ ifConfirmed fuel action) :=
  (protects_of_talks (talks_printAll texts)).bind lasting_confirmed fun _ ↦
    protects_ifConfirmed fuel action

theorem protects_performAction (world : World) (fuel : ℕ) (stack : MainStack) (options : Options)
    (password newPassword : List UInt8) :
    Protects dev intact (performAction world fuel stack options password newPassword) := by
  have hpassword (cmd : Cdb) (hashes : List UInt8)
      (hcmd : cmd.word16 1 ∈ ([0xA4, 0xA6, 0xA7] : List UInt16)) (verb function : String) :
      Protects dev intact (exitCode (guardedAction fuel stack.securityProperties verb function
        (passwordCommand cmd hashes))) :=
    protects_exitCode (protects_guardedAction hcareful
      (sendsPassword_passwordCommand hashes hcmd) fuel _ verb function)
  obtain ⟨action, filename, size⟩ := options
  cases action with
  | unknown => exact protects_of_harmless hcareful (harmless_print_done _)
  | load => exact protects_exitCode (protects_doLoad hcareful _ _)
  | partition => exact protects_warned fuel _
  | dump => exact protects_of_harmless hcareful (harmless_doDump _ _)
  | info => exact protects_exitCode (protects_of_harmless hcareful (harmless_doInfo _))
  | unlock => exact hpassword _ _ (by decide) _ _
  | changePassword => exact hpassword _ _ (by decide) _ _
  | enableSecurity => exact protects_warned fuel _
  | disableSecurity => exact hpassword _ _ (by decide) _ _
  | resetSecurity => exact protects_warned fuel _

/-- `main` protects the data. -/
theorem protects_main (world : World) (fuel : ℕ) (stack : MainStack) (name : List UInt8)
    (args : List (List UInt8)) : Protects dev intact (main world fuel stack name args) := by
  rcases main_talks_or_eq world fuel stack name args with htalks | heq
  · exact protects_of_talks htalks
  · rw [heq]
    have hpassword (options : Options) :
        Asks Talks (passwordFor fuel options.action stack.password) :=
      (chats_passwordFor _ _ _).mono fun _ hchats ↦ hchats.1
    have hnewPassword (options : Options) : Asks Talks (newPasswordFor fuel options.action stack) :=
      (chats_newPasswordFor _ _ _).mono fun _ hchats ↦ hchats.1
    exact (protects_of_talks (hpassword _)).bind lasting_confirmed fun _ ↦
      (protects_of_talks (hnewPassword _)).bind lasting_confirmed fun _ ↦
        protects_performAction hcareful _ _ _ _ _ _

end Device

/-! ### Invocations over the bus -/

/-- An invocation of the program: what it finds outside, its arguments and its input, and the state
libusb is in. -/
structure Invocation (ρ : Type) where
  world : World
  fuel : ℕ
  stack : MainStack
  name : List UInt8
  args : List (List UInt8)
  stdin : ℕ → Option UInt8
  host : ρ

section Bus

variable (libusb : Surroundings Libusb ρ) (dev : DeviceModel σ)

/-- The execution of an invocation with a device on the bus. -/
def Invocation.execution (invocation : Invocation ρ) (device : BulkOnly σ) :
    Execution ((Libusb.sum BulkTransfers).sum Console) Abort (Except Halt Int32)
      (Desk (ρ × BulkOnly σ)) :=
  exec (bench (usbBus libusb dev)) (mainOn usbSubsystem invocation.world invocation.fuel
    invocation.stack invocation.name invocation.args)
    ⟨(invocation.host, device), invocation.stdin⟩

/-- The device after an invocation. -/
def Invocation.after (device : BulkOnly σ) (invocation : Invocation ρ) : BulkOnly σ :=
  (invocation.execution libusb dev device).final.device.2

/-- In the dialogue of an invocation the user was asked and said yes. -/
def Invocation.SaidYes (device : BulkOnly σ) (invocation : Invocation ρ) : Prop :=
  Confirmed (dialogue (invocation.execution libusb dev device).trace)

variable {libusb dev}

/-- An invocation that opens no device leaves it alone. -/
theorem after_of_unopened {invocation : Invocation ρ} {device : BulkOnly σ}
    (hunopened : ∀ {options deviceName handle},
      deviceArgument invocation.args = some (options, deviceName) →
        (exec libusb (openUsb (verbose invocation.args) (argumentText deviceName))
          invocation.host).result ≠ .ok (.ok handle)) :
    invocation.after libusb dev device = device := by
  cases hdevice : deviceArgument invocation.args with
  | none => exact congrArg Prod.snd (device_final_of_none usbSubsystem (usbBus libusb dev) hdevice)
  | some argument =>
    have hopening := exec_u3Open_usbBus libusb dev (verbose invocation.args)
      (argumentText argument.2) invocation.host device
    refine (congrArg Prod.snd (device_final_of_unopened usbSubsystem (usbBus libusb dev) hdevice
      fun handle hhandle ↦ ?_)).trans (congrArg (fun opening ↦ opening.final.2) hopening)
    have hresult := (congrArg Execution.result hopening).symm.trans hhandle
    cases hopened : (exec libusb (openUsb (verbose invocation.args) (argumentText argument.2))
        invocation.host).result with
    | error stop => exact stop.elim
    | ok opened =>
      rw [hopened] at hresult
      exact hunopened hdevice (hopened.trans (congrArg Except.ok (Except.ok.inj hresult)))

/-- An invocation leaves the device ready; and its data is lost only if the user said yes. -/
theorem intact_after {intact : σ → Prop} {maxPassTry passTry : σ → UInt32}
    (hcareful : Careful dev intact maxPassTry passTry) (invocation : Invocation ρ) {state : σ}
    (hintact : intact state) :
    (∃ next, invocation.after libusb dev ⟨state, .ready⟩ = ⟨next, .ready⟩ ∧ intact next) ∨
      invocation.SaidYes libusb dev ⟨state, .ready⟩ := by
  by_cases hopened : ∃ options deviceName handle,
      deviceArgument invocation.args = some (options, deviceName) ∧
        (exec libusb (openUsb (verbose invocation.args) (argumentText deviceName))
          invocation.host).result = .ok (.ok handle)
  · obtain ⟨options, deviceName, handle, hdevice, hopen⟩ := hopened
    have houtcome := exec_usb_mainOn libusb dev invocation.world invocation.fuel invocation.stack
      invocation.name state invocation.stdin hdevice hopen
    have hprotects := protects_main hcareful (opensAs invocation.world none) invocation.fuel
      invocation.stack invocation.name invocation.args
    have hkept : Unharmed intact (⟨state, invocation.stdin⟩ : Desk σ) := hintact
    rcases hprotects.of_exec hkept with hnext | hconfirmed
    · exact Or.inl ⟨_, houtcome.desk.1, hnext⟩
    · right
      rw [Invocation.SaidYes, Invocation.execution, houtcome.said]
      exact hconfirmed.talk
  · refine Or.inl ⟨state, after_of_unopened fun hdevice hopen ↦ ?_, hintact⟩
    exact hopened ⟨_, _, _, hdevice, hopen⟩

end Bus

/-- A device that refuses every password and loses its data at the third; its state is the number of
tries made and whether the data is still there. -/
def vault : DeviceModel (UInt32 × Bool) := fun state request ↦
  if request.command = 0xA0 then ((true, List.replicate 12 0 ++ leBytes 4 state.1.toNat), state)
  else if request.command = 0x00 then ((true, [0x0C, 0, 0, 0, 10, 0] ++ leBytes 4 3), state)
  else if request.command ∈ ([0xA4, 0xA6, 0xA7] : List UInt16) then
    ((false, []), (state.1 + 1, state.2 && state.1 ≠ 2))
  else if request.command ∈ ([0x22, 0xA2] : List UInt16) then ((true, []), (state.1, false))
  else ((true, []), state)

theorem careful_vault : Careful vault (fun state ↦ state.2 = true) (fun _ ↦ 3) Prod.fst where
  reports := ⟨fun state ↦ ⟨_, rfl, rfl, leUInt32_leBytes state.1⟩, fun _ ↦ ⟨_, rfl, rfl, rfl⟩,
    fun _ ↦ ⟨_, rfl, rfl, leUInt32_leBytes 3⟩⟩
  reads {state request} hreads hintact := by
    unfold vault
    split_ifs with hinfo hpage hpassword hdestroys
    · exact ⟨hintact, rfl, rfl⟩
    · exact ⟨hintact, rfl, rfl⟩
    · exact absurd (by revert hpassword; simp [deviceChanging]; tauto) hreads
    · exact absurd (by revert hdestroys; simp [deviceChanging]; tauto) hreads
    · exact ⟨hintact, rfl, rfl⟩
  spares {state request} hcommand hintact := by
    simp only [List.mem_cons, List.not_mem_nil, or_false] at hcommand
    rcases hcommand with hwrite | hreset
    · simpa [vault, hwrite] using hintact
    · simpa [vault, hreset] using hintact
  tries {state request} hcommand hintact hlast := by
    have hmore : state.1 ≠ 2 := fun htwo ↦ hlast (by rw [htwo]; rfl)
    have hother : request.command ≠ 0xA0 ∧ request.command ≠ 0x00 := by
      simp only [List.mem_cons, List.not_mem_nil, or_false] at hcommand
      rcases hcommand with hunlock | hchange | hdisable
      · rw [hunlock]
        decide
      · rw [hchange]
        decide
      · rw [hdisable]
        decide
    rw [vault, if_neg hother.1, if_neg hother.2, if_pos hcommand]
    simpa [hmore] using hintact

/-- An attempt to unlock with what is typed. -/
def unlockAttempt (typed : String) : Invocation Unit :=
  ⟨plainWorld, 10, zeroMainStack, ascii "u3-tool", [ascii "-u", ascii "scan"],
    fun index ↦ (ascii typed)[index]?, ()⟩

end U3Tool
