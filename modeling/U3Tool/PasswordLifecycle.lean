import U3Tool.ConfirmedLoss
import U3Tool.PasswordLock
import U3Tool.PromptSessions
import U3Tool.ResetSecurity

/-!
# The life of a password over the wire

A device keeps a lock when it answers the requests that the security actions send as the
documentation says (`KeepsLock`). Against such a device, any sequence of invocations of the program
over the bus that ask for security actions does to the device what the sequence does to its lock,
and ends with the same exit statuses (`keyring_over_usb`); which passwords an invocation enters is
said by the lines of its stdin (`KeyUse.Typed`).

So the password that security was enabled with opens the device exactly as long as fewer wrong ones
were entered than the device allows (`unlock_after_guesses`).
-/

set_option autoImplicit false
set_option relaxedAutoImplicit false

namespace U3Tool

open Interaction Bytes Program Lines

variable {α β ρ σ : Type}

/-! ### What is typed -/

/-- A program returns a value on an input, whatever the device, and leaves the rest of the input. -/
def ReturnsOn (p : ToolProgram α) (view : α → β) (input : Input UInt8) (value : β)
    (rest : Input UInt8) : Prop :=
  ∀ (δ : Type) (device : Surroundings Scsi δ) (state : δ), ∃ answer trace,
    exec (desk device) p (reading state input) = ⟨.ok answer, trace, reading state rest⟩ ∧
      view answer = value

/-- A conducted loop that talks to the user only needs the same fuel with every device. -/
theorem Conducts.returnsOn {newline : UInt8 → Prop} {step : σ → List UInt8 → σ ⊕ β} {start : σ}
    {p : ℕ → ToolProgram α} {view : α → β} (hp : Conducts newline step start p view)
    (htalks : ∀ fuel, Asks Talks (p fuel)) {input rest : Input UInt8} {lines : List (Line UInt8)}
    {value : β} (hsession : Session newline step input start lines value rest) :
    ∃ enough, ∀ fuel ≥ enough, ReturnsOn (p fuel) view input value rest := by
  obtain ⟨enough, hreturns⟩ := hp.returns (answering fun _ _ ↦ ((true, []), ())) () hsession
  refine ⟨enough, fun fuel hfuel δ device state ↦ ?_⟩
  obtain ⟨answer, trace, hexec, hanswer, -⟩ := hreturns fuel hfuel
  let related (now : Desk δ) (other : Desk Unit) : Prop :=
    now.device = state ∧ now.stdin = other.stdin
  have hstep (now : Desk δ) (other : Desk Unit) (request : ToolRequest) (htalk : Talks request)
      (hrelated : related now other) :
      (desk device now request).1 = (desk (answering fun _ _ ↦ ((true, []), ())) other request).1 ∧
        related (desk device now request).2
          (desk (answering fun _ _ ↦ ((true, []), ())) other request).2 := by
    obtain ⟨hdevice, hstdin⟩ := hrelated
    cases request with
    | sendCmd request => exact htalk.elim
    | fgetc => exact ⟨congrFun hstdin 0, hdevice, funext fun index ↦ congrFun hstdin (index + 1)⟩
    | quit => exact htalk.elim
    | print stream text => exact ⟨rfl, hdevice, hstdin⟩
  have hrelated : related (reading state input) (reading () input) := ⟨rfl, rfl⟩
  obtain ⟨hresult, htrace, hdevice, hstdin⟩ := exec_congr hstep (htalks fuel) hrelated
  rw [hexec] at hresult htrace hstdin
  have hfinal : (exec (desk device) (p fuel) (reading state input)).final = reading state rest :=
    congrArg₂ Desk.mk hdevice hstdin
  have hwhole : exec (desk device) (p fuel) (reading state input) =
      ⟨.ok answer, trace, reading state rest⟩ := by
    rw [← hfinal]
    exact congrArg₂ (fun result trace ↦ Execution.mk result trace _) hresult htrace
  exact ⟨answer, trace, hwhole, hanswer⟩

/-- A password is typed. -/
def PasswordTyped (input : Input UInt8) (password : List UInt8) (rest : Input UInt8) : Prop :=
  ∃ lines, Session (· = 10) (untilSome enteredText) input () lines password rest

/-- A new password is typed twice. -/
def NewPasswordTyped (input : Input UInt8) (password : List UInt8) (rest : Input UInt8) : Prop :=
  ∃ lines, Session (· = 10) agreement input none lines password rest

/-- An answer is typed. -/
def AnswerTyped (input : Input UInt8) (answer : Bool) : Prop :=
  ∃ lines rest, Session StopsDrop (untilSome firstAnswer) input () lines answer rest

/-- What a use needs is typed, and an answer in case the tool asks. -/
def KeyUse.Typed : KeyUse → Input UInt8 → Prop
  | .enable password consent, input =>
    ∃ rest, NewPasswordTyped input password rest ∧ AnswerTyped rest consent
  | .unlock password consent, input =>
    ∃ rest, PasswordTyped input password rest ∧ AnswerTyped rest consent
  | .change password newPassword consent, input =>
    ∃ middle rest, PasswordTyped input password middle ∧
      NewPasswordTyped middle newPassword rest ∧ AnswerTyped rest consent
  | .disable password consent, input =>
    ∃ rest, PasswordTyped input password rest ∧ AnswerTyped rest consent
  | .reset consent, input => AnswerTyped input consent

/-- The action that a use asks for. -/
def KeyUse.action : KeyUse → Action
  | .enable _ _ => .enableSecurity
  | .unlock _ _ => .unlock
  | .change _ _ _ => .changePassword
  | .disable _ _ => .disableSecurity
  | .reset _ => .resetSecurity

theorem AnswerTyped.confirm {input : Input UInt8} {answer : Bool}
    (htyped : AnswerTyped input answer) :
    ∃ rest enough, ∀ fuel ≥ enough, ReturnsOn (confirm fuel) id input answer rest := by
  obtain ⟨lines, rest, hsession⟩ := htyped
  exact ⟨rest, conducts_confirm.returnsOn asks_confirm hsession⟩

theorem PasswordTyped.askPassword {input rest : Input UInt8} {password : List UInt8}
    (htyped : PasswordTyped input password rest) (buffer : PasswordBuffer) :
    ∃ enough, ∀ fuel ≥ enough, ReturnsOn (askPassword fuel buffer) cString input password rest := by
  obtain ⟨lines, hsession⟩ := htyped
  exact (conducts_askPassword buffer).returnsOn
    (fun fuel ↦ (chats_askPassword fuel buffer).mono fun _ hchats ↦ hchats.1) hsession

theorem NewPasswordTyped.askNewPassword {input rest : Input UInt8} {password : List UInt8}
    (htyped : NewPasswordTyped input password rest)
    (newPassword validatePassword : PasswordBuffer) :
    ∃ enough, ∀ fuel ≥ enough,
      ReturnsOn (askNewPassword fuel newPassword validatePassword) cString input password rest := by
  obtain ⟨lines, hsession⟩ := htyped
  exact (conducts_askNewPassword newPassword validatePassword).returnsOn
    (fun fuel ↦ (chats_askNewPassword fuel newPassword validatePassword).mono
      fun _ hchats ↦ hchats.1) hsession

/-! ### Devices with a lock -/

/-- A lock over the hashes that are sent. -/
abbrev HashLock := Lock (Buffer 16)

/-- What a lock makes of the operations of the security actions, with a data partition of `size`
sectors. -/
def Lock.operate (lock : HashLock) (size : UInt32) : Operation → Option (Bool × HashLock)
  | .enableSecurity zoneSize hash => some (true, lock.secure hash (zoneSize = size))
  | .unlock hash => some (lock.attempt hash (some hash))
  | .changePassword oldHash newHash => some (lock.attempt oldHash (some newHash))
  | .disableSecurity hash => some (lock.remove hash)
  | _ => none

/-- A device that answers the requests of the security actions as a lock does; `holds` says which
lock it has in a state. A zone of the size of its data partition is rounded to `rounded`. -/
structure KeepsLock (dev : DeviceModel σ) (size rounded : UInt32) (holds : σ → HashLock → Prop) :
    Prop where
  reports : ∀ lock, ReportsWhile dev (fun state ↦ holds state lock) lock.allowed lock.made
  partitionSize : ∀ {state lock}, holds state lock → ∃ data,
    (answering dev state dpartInfoRequest).1 = .success 0 data ∧ data.length = 16 ∧
      leUInt32 (data.take 4) = size
  round : ∀ {state lock}, holds state lock →
    (answering dev state (securityRoundRequest .up size)).1 = .success 0 (leBytes 4 rounded.toNat)
  operates : ∀ {state lock operation outcome}, lock.operate size operation = some outcome →
    holds state lock → (dev state operation.request).1.1 = outcome.1 ∧
      holds (dev state operation.request).2 outcome.2

section Device

variable {dev : DeviceModel σ} {size rounded : UInt32} {holds : σ → HashLock → Prop}

/-- The size of the zone that `u3_enable_security` asks for is that of the partition. -/
def Fits (size rounded : UInt32) : Prop := size = 0 ∨ rounded = size

instance (size rounded : UInt32) : Decidable (Fits size rounded) :=
  inferInstanceAs (Decidable (size = 0 ∨ rounded = size))

variable (hkeeps : KeepsLock dev size rounded holds)
include hkeeps

/-- The size of the partition is read. -/
theorem exec_u3DataPartitionInfo_lock {state : σ} {lock : HashLock} (hlock : holds state lock) :
    ∃ info trace next, exec (answering dev) u3DataPartitionInfo state = ⟨.ok info, trace, next⟩ ∧
      DpartInfo.totalSize info = size ∧ holds next lock := by
  obtain ⟨data, hreply, hlength, hsize⟩ := hkeeps.partitionSize hlock
  have hsent := exec_deviceCommand (Prod.ext hreply rfl :
    answering dev state dpartInfoRequest = (.success 0 data, _))
  refine ⟨(Buffer.fill 16 0).store 0 (data.take 16), _, _, exec_bind_of_eq hsent _, ?_, ?_⟩
  · rw [DpartInfo.totalSize, Buffer.word32, List.take_of_length_le hlength.le,
      Buffer.slice_store_zero (by omega) (by norm_num), List.drop_zero, hsize]
  · exact (hkeeps.reports lock).reads (by decide) hlock

/-- The size of the partition is rounded. -/
theorem exec_roundZoneSize_lock (roundedSize : Buffer 4) {state : σ} {lock : HashLock}
    (hlock : holds state lock) :
    ∃ zoneSize trace next,
      exec (answering dev) (roundZoneSize size roundedSize) state = ⟨.ok zoneSize, trace, next⟩ ∧
        (zoneSize = size ↔ Fits size rounded) ∧ holds next lock := by
  unfold roundZoneSize
  by_cases hzero : size = 0
  · rw [if_neg (not_not_intro hzero)]
    exact ⟨size, [], state, rfl, iff_of_true rfl (Or.inl hzero), hlock⟩
  · have hsent := exec_deviceCommand (Prod.ext (hkeeps.round hlock) rfl :
      answering dev state (securityRoundRequest .up size) =
        (.success 0 (leBytes 4 rounded.toNat), _))
    have hword : (roundedSize.store 0 ((leBytes 4 rounded.toNat).take 4)).word32 0 = rounded :=
      word32_store_leBytes _ _
    have hround : exec (answering dev) (u3SecuritySectorRound .up size roundedSize) state =
        ⟨.ok rounded, _, _⟩ := (exec_bind_of_eq hsent _).trans (by rw [exec_done, hword])
    rw [if_pos hzero]
    refine ⟨rounded, _, _, exec_mapError_of_eq hround _, (or_iff_right hzero).symm, ?_⟩
    have hcommand : (securityRoundRequest .up size).command = 0xA3 := rfl
    exact (hkeeps.reports lock).reads (by rw [hcommand]; decide) hlock

/-- Enabling security sets the hash. -/
theorem exec_u3EnableSecurity_lock (md5 : List UInt8 → Buffer 16) (password : List UInt8)
    (roundedSize : Buffer 4) {state : σ} {lock : HashLock} (hlock : holds state lock) :
    let enabling := exec (answering dev) (u3EnableSecurity md5 password roundedSize) state
    enabling.result = .ok () ∧
      holds enabling.final (lock.secure (u3PassToHash md5 password) (Fits size rounded)) := by
  obtain ⟨info, trace, afterInfo, hinfo, hsize, hlockInfo⟩ :=
    exec_u3DataPartitionInfo_lock hkeeps hlock
  obtain ⟨zoneSize, trace', afterRound, hround, hfits, hlockRound⟩ :=
    exec_roundZoneSize_lock hkeeps roundedSize hlockInfo
  obtain ⟨haccepted, hnext⟩ := @KeepsLock.operates _ _ _ _ _ hkeeps _ _
    (.enableSecurity zoneSize (u3PassToHash md5 password)) _ rfl hlockRound
  have hreply : answering dev afterRound
      (Operation.enableSecurity zoneSize (u3PassToHash md5 password)).request =
      (.success 0 [], (dev afterRound
        (Operation.enableSecurity zoneSize (u3PassToHash md5 password)).request).2) := by
    rw [answering, haccepted]
    rfl
  have hsent := exec_deviceCommand hreply
  rw [u3EnableSecurity, exec_bind_of_eq (exec_mapError_of_eq hinfo _), hsize,
    exec_bind_of_eq hround]
  have hlast : exec (answering dev) (deviceCommand enableSecurityCommand .toDev 20
      (leBytes 4 zoneSize.toNat ++ (u3PassToHash md5 password).bytes) >>= fun _ ↦ .done ())
      afterRound = _ := exec_bind_of_eq hsent _
  rw [hlast]
  exact ⟨rfl, decide_eq_decide.mpr hfits ▸ hnext⟩

omit hkeeps in
/-- A password that is sent is accepted or refused as the device answers. -/
theorem exec_passwordCommand (cmd : Cdb) (hashes : List UInt8) (state : σ) :
    let sending := exec (answering dev) (passwordCommand cmd hashes) state
    let request : CmdRequest := ⟨cmd, .toDev, hashes.length, hashes⟩
    sending.result = .ok (dev state request).1.1 ∧ sending.final = (dev state request).2 := by
  intro sending request
  have hreply : answering dev state request =
      (.success (statusOf (dev state request).1.1) [], (dev state request).2) := rfl
  have hsent : sending = _ := exec_u3SendCmd_bind hreply _
  rw [hsent]
  refine ⟨congrArg Except.ok ?_, rfl⟩
  cases (dev state request).1.1 with
  | true => rfl
  | false => rfl

/-- The command of an operation that tries a password. -/
theorem exec_passwordCommand_lock {cmd : Cdb} {hashes : List UInt8} {operation : Operation}
    (hrequest : (⟨cmd, .toDev, hashes.length, hashes⟩ : CmdRequest) = operation.request)
    {state : σ} {lock : HashLock} {outcome : Bool × HashLock}
    (houtcome : lock.operate size operation = some outcome) (hlock : holds state lock) :
    let sending := exec (answering dev) (passwordCommand cmd hashes) state
    sending.result = .ok outcome.1 ∧ holds sending.final outcome.2 := by
  obtain ⟨hresult, hfinal⟩ := @exec_passwordCommand _ dev cmd hashes state
  obtain ⟨haccepted, hnext⟩ := hkeeps.operates houtcome hlock
  intro sending
  rw [hresult, hfinal, hrequest]
  exact ⟨congrArg _ haccepted, hnext⟩

/-! ### The actions -/

omit hkeeps in
/-- The end of an action that sends a password. -/
theorem exec_sendPassword_lock {function : String} {p : Command Bool}
    {now : Desk σ} {outcome : Bool × HashLock}
    (hp : (exec (answering dev) p now.device).result = .ok outcome.1 ∧
      holds (exec (answering dev) p now.device).final outcome.2) :
    let sending := exec (desk (answering dev)) (sendPassword function p) now
    sending.result = .ok (acceptance outcome.1) ∧ holds sending.final.device outcome.2 := by
  obtain ⟨hresult, hnext⟩ := hp
  unfold sendPassword
  rw [exec_command_bind]
  dsimp only
  rw [hresult]
  cases outcome.1 with
  | true => exact ⟨rfl, hnext⟩
  | false => exact ⟨rfl, hnext⟩

omit hkeeps in
/-- The guard of an action that sends a password, on a lock. -/
theorem exec_guardPassword_lock {fuel : ℕ} {verb function : String} {p : Command Bool}
    {state : σ} {lock : HashLock} {outcome : Bool × HashLock}
    (hlock : holds state lock) (hp : (exec (answering dev) p state).result = .ok outcome.1 ∧
      holds (exec (answering dev) p state).final outcome.2) {input rest : Input UInt8}
    {consent : Bool} (hanswer : ReturnsOn (confirm fuel) id input consent rest) :
    let guard := exec (desk (answering dev)) (guardPassword fuel verb function p
      (lock.allowed - lock.made).toInt32) (reading state input)
    guard.result = .ok (lock.guarded consent outcome).1 ∧
      holds guard.final.device (lock.guarded consent outcome).2 := by
  have hblocked : (lock.allowed - lock.made).toInt32 = 0 ↔ lock.allowed = lock.made := by
    rw [toInt32_sub_eq_zero_iff, UInt32.toNat_inj]
  have hlast : (lock.allowed - lock.made).toInt32 = 1 ↔ lock.allowed - lock.made = 1 :=
    ⟨fun heq ↦ congrArg Int32.toUInt32 heq, fun heq ↦ congrArg UInt32.toInt32 heq⟩
  intro guard
  simp only [guard, guardPassword, Lock.guarded, hblocked, hlast]
  by_cases hnone : lock.allowed = lock.made
  · rw [if_pos hnone, if_pos hnone]
    exact ⟨rfl, hlock⟩
  · rw [if_neg hnone, if_neg hnone]
    by_cases hone : lock.allowed - lock.made = 1
    · obtain ⟨confirmed, trace, hconfirm, rfl⟩ := hanswer _ (answering dev) state
      rw [if_pos hone, exec_bind_of_eq (exec_warnLastTry _ _).choose_spec.1,
        exec_bind_of_eq hconfirm]
      cases confirmed with
      | true =>
        have hp' : (exec (answering dev) p (reading state rest).device).result = .ok outcome.1 ∧
          holds (exec (answering dev) p (reading state rest).device).final outcome.2 := hp
        have hallowed : ¬ (lock.allowed - lock.made = 1 ∧ id true = false) := by simp
        rw [if_neg hallowed]
        exact exec_sendPassword_lock hp'
      | false =>
        have hrefused : lock.allowed - lock.made = 1 ∧ id false = false := ⟨hone, rfl⟩
        rw [if_pos hrefused]
        exact ⟨rfl, hlock⟩
    · rw [if_neg hone, if_neg fun hasked ↦ hone hasked.1]
      exact exec_sendPassword_lock hp

/-- An action that sends a password, on a lock. -/
theorem exec_guardedAction_lock {fuel : ℕ} (securityProperties : Property0C)
    {verb function : String} {p : Command Bool} {state : σ} {lock : HashLock}
    {outcome : Bool × HashLock} (hlock : holds state lock)
    (hp : ∀ {state}, holds state lock → (exec (answering dev) p state).result = .ok outcome.1 ∧
      holds (exec (answering dev) p state).final outcome.2) {input rest : Input UInt8}
    {consent : Bool} (hanswer : ReturnsOn (confirm fuel) id input consent rest) :
    let action := exec (desk (answering dev))
      (guardedAction fuel securityProperties verb function p) (reading state input)
    action.result = .ok (lock.guarded consent outcome).1 ∧
      holds action.final.device (lock.guarded consent outcome).2 := by
  have hstart : holds (reading state input).device lock := hlock
  obtain ⟨htries, hstill, hstdin⟩ :=
    exec_getTriesLeft_kept (hkeeps.reports lock) securityProperties hstart
  rw [guardedAction, exec_bind_ok htries]
  generalize (exec (desk (answering dev)) (getTriesLeft securityProperties)
    (reading state input)).final = now at hstill hstdin
  obtain ⟨next, stdin⟩ := now
  obtain rfl : stdin = input := hstdin
  exact exec_guardPassword_lock hstill (hp hstill) hanswer

/-! The calls of the three commands that send a password. -/

omit hkeeps in
theorem request_unlock (hash : Buffer 16) :
    (⟨unlockCommand, .toDev, hash.bytes.length, hash.bytes⟩ : CmdRequest) =
      (Operation.unlock hash).request := by
  rw [Buffer.length_bytes]
  rfl

omit hkeeps in
theorem request_changePassword (oldHash newHash : Buffer 16) :
    (⟨plainCommand 0xA6, .toDev, (oldHash.bytes ++ newHash.bytes).length,
      oldHash.bytes ++ newHash.bytes⟩ : CmdRequest) =
      (Operation.changePassword oldHash newHash).request := by
  rw [List.length_append, Buffer.length_bytes, Buffer.length_bytes]
  rfl

omit hkeeps in
theorem request_disableSecurity (hash : Buffer 16) :
    (⟨plainCommand 0xA7, .toDev, hash.bytes.length, hash.bytes⟩ : CmdRequest) =
      (Operation.disableSecurity hash).request := by
  rw [Buffer.length_bytes]
  rfl

/-- An action that sends a password sends it for an operation. -/
theorem exec_passwordAction {fuel : ℕ} (securityProperties : Property0C)
    (verb function : String) {cmd : Cdb} {hashes : List UInt8} {operation : Operation}
    (hrequest : (⟨cmd, .toDev, hashes.length, hashes⟩ : CmdRequest) = operation.request)
    {state : σ} {lock : HashLock} {outcome : Bool × HashLock}
    (houtcome : lock.operate size operation = some outcome) (hlock : holds state lock)
    {input rest : Input UInt8} {consent : Bool}
    (hanswer : ReturnsOn (confirm fuel) id input consent rest) :
    let action := exec (desk (answering dev)) (exitCode (guardedAction fuel securityProperties verb
      function (passwordCommand cmd hashes))) (reading state input)
    action.result = .ok (lock.guarded consent outcome).1.code ∧
      holds action.final.device (lock.guarded consent outcome).2 := by
  obtain ⟨hresult, hnext⟩ := exec_guardedAction_lock hkeeps securityProperties hlock
    (exec_passwordCommand_lock hkeeps hrequest houtcome) hanswer
  obtain ⟨hcode, hfinal⟩ := exec_exitCode hresult
  exact ⟨hcode, hfinal ▸ hnext⟩

omit hkeeps in
/-- An action after a confirmation. -/
theorem exec_warned_lock {texts : List String} {fuel : ℕ} {action : ToolProgram Int32} {state : σ}
    {input rest : Input UInt8} {consent : Bool}
    (hanswer : ReturnsOn (confirm fuel) id input consent rest) {status : ExitStatus}
    {lock next : HashLock} (hlock : holds state lock)
    (haction : (exec (desk (answering dev)) action (reading state rest)).result =
        .ok status.code ∧
      holds (exec (desk (answering dev)) action (reading state rest)).final.device next) :
    let warned := exec (desk (answering dev)) (printAll texts >>= fun _ ↦ ifConfirmed fuel action)
      (reading state input)
    let ended := if consent then (status, next) else (.success, lock)
    warned.result = .ok ended.1.code ∧ holds warned.final.device ended.2 := by
  obtain ⟨confirmed, trace, hconfirm, rfl⟩ := hanswer _ (answering dev) state
  have hwarning : ∃ trace, exec (desk (answering dev)) (printAll texts) (reading state input) =
      ⟨.ok (), trace, reading state input⟩ := by
    induction texts with
    | nil => exact ⟨[], rfl⟩
    | cons text texts ih =>
      obtain ⟨trace, htrace⟩ := ih
      exact ⟨_, (exec_print_bind _ _ _ _).trans (by rw [htrace])⟩
  obtain ⟨trace', hprinted⟩ := hwarning
  rw [exec_bind_of_eq hprinted, ifConfirmed, exec_bind_of_eq hconfirm]
  cases confirmed with
  | true => exact haction
  | false => exact ⟨rfl, hlock⟩

/-- `do_enable_security` sets the hash. -/
theorem exec_doEnableSecurity_lock (md5 : List UInt8 → Buffer 16) (password : List UInt8)
    (roundedSize : Buffer 4) {state : σ} {lock : HashLock} (hlock : holds state lock)
    (input : Input UInt8) :
    let action := exec (desk (answering dev))
      (exitCode (doEnableSecurity md5 password roundedSize)) (reading state input)
    action.result = .ok ExitStatus.success.code ∧ holds action.final.device
      (lock.secure (u3PassToHash md5 password) (Fits size rounded)) := by
  obtain ⟨hresult, hnext⟩ := exec_u3EnableSecurity_lock hkeeps md5 password roundedSize hlock
  have henabled : (exec (desk (answering dev)) (doEnableSecurity md5 password roundedSize)
        (reading state input)).result = .ok .success ∧
      holds (exec (desk (answering dev)) (doEnableSecurity md5 password roundedSize)
        (reading state input)).final.device
        (lock.secure (u3PassToHash md5 password) (Fits size rounded)) := by
    have hresult' : (exec (answering dev) (u3EnableSecurity md5 password roundedSize)
      (reading state input).device).result = .ok () := hresult
    rw [doEnableSecurity, exec_command_bind]
    dsimp only
    rw [hresult']
    exact ⟨rfl, hnext⟩
  obtain ⟨hcode, hfinal⟩ := exec_exitCode henabled.1
  exact ⟨hcode, hfinal ▸ henabled.2⟩

/-- `do_reset_security` sets a hash and removes it again. -/
theorem exec_doResetSecurity_lock (md5 : List UInt8 → Buffer 16) (roundedSize : Buffer 4)
    {state : σ} {lock : HashLock} (hlock : holds state lock) (input : Input UInt8) :
    let key := u3PassToHash md5 (ascii "password")
    let outcome := (lock.secure key (Fits size rounded)).remove key
    let action := exec (desk (answering dev)) (exitCode (doResetSecurity md5 roundedSize))
      (reading state input)
    action.result = .ok (acceptance outcome.1).code ∧ holds action.final.device outcome.2 := by
  intro key outcome action
  obtain ⟨hresult, hsecured⟩ :=
    exec_u3EnableSecurity_lock hkeeps md5 (ascii "password") roundedSize hlock
  obtain ⟨hremoved, hnext⟩ : (exec (answering dev) (u3DisableSecurity md5 (ascii "password"))
        (exec (answering dev) (u3EnableSecurity md5 (ascii "password") roundedSize) state).final
          ).result = .ok outcome.1 ∧ holds (exec (answering dev)
        (u3DisableSecurity md5 (ascii "password")) (exec (answering dev)
          (u3EnableSecurity md5 (ascii "password") roundedSize) state).final).final outcome.2 :=
    exec_passwordCommand_lock hkeeps (request_disableSecurity key) rfl hsecured
  have hreset : (exec (desk (answering dev)) (doResetSecurity md5 roundedSize)
        (reading state input)).result = .ok (acceptance outcome.1) ∧
      holds (exec (desk (answering dev)) (doResetSecurity md5 roundedSize)
        (reading state input)).final.device outcome.2 := by
    rw [doResetSecurity, exec_command_bind]
    dsimp only [reading]
    rw [hresult]
    dsimp only
    rw [exec_command_bind]
    dsimp only
    rw [hremoved]
    cases outcome.1 with
    | true => exact ⟨rfl, hnext⟩
    | false => exact ⟨rfl, hnext⟩
  obtain ⟨hcode, hfinal⟩ := exec_exitCode hreset.1
  exact ⟨hcode, hfinal ▸ hreset.2⟩

/-! ### An open device -/

/-- A use of an open device is that of its lock. -/
theorem exec_withDevice_lock (world : World) (stack : MainStack) {options : Options} {use : KeyUse}
    (haction : options.action = use.action) {input : Input UInt8} (htyped : use.Typed input) :
    ∃ enough, ∀ fuel ≥ enough, ∀ {state lock}, holds state lock →
      let run := exec (desk (answering dev)) (withDevice world fuel stack options)
        (reading state input)
      let used := lock.use (u3PassToHash world.md5) (Fits size rounded) use
      run.result = .ok used.1.code ∧ holds run.final.device used.2 := by
  obtain ⟨action, filename, sizeString⟩ := options
  cases use with
  | enable password consent =>
    obtain rfl : action = .enableSecurity := haction
    obtain ⟨rest, hnew, hanswer⟩ := htyped
    obtain ⟨enough, hnew⟩ := hnew.askNewPassword stack.newPassword stack.validatePassword
    obtain ⟨last, enough', hanswer⟩ := hanswer.confirm
    refine ⟨max enough enough', fun fuel hfuel {state lock} hlock ↦ ?_⟩
    obtain ⟨hfirst, hsecond⟩ := max_le_iff.mp hfuel
    obtain ⟨buffer, trace, hexec, rfl⟩ := hnew fuel hfirst _ (answering dev) state
    have hwhole : exec (desk (answering dev)) (withDevice world fuel stack
        ⟨.enableSecurity, filename, sizeString⟩) (reading state input) = _ :=
      exec_bind_of_eq hexec fun newPassword ↦ performAction world fuel stack
        ⟨.enableSecurity, filename, sizeString⟩ (cString stack.password) (cString newPassword)
    exact hwhole ▸ exec_warned_lock (hanswer fuel hsecond) hlock
      (exec_doEnableSecurity_lock hkeeps world.md5 (cString buffer) stack.roundedSize hlock last)
  | unlock password consent =>
    obtain rfl : action = .unlock := haction
    obtain ⟨rest, hpassword, hanswer⟩ := htyped
    obtain ⟨enough, hpassword⟩ := hpassword.askPassword stack.password
    obtain ⟨last, enough', hanswer⟩ := hanswer.confirm
    refine ⟨max enough enough', fun fuel hfuel {state lock} hlock ↦ ?_⟩
    obtain ⟨hfirst, hsecond⟩ := max_le_iff.mp hfuel
    obtain ⟨buffer, trace, hexec, rfl⟩ := hpassword fuel hfirst _ (answering dev) state
    have hwhole : exec (desk (answering dev)) (withDevice world fuel stack
        ⟨.unlock, filename, sizeString⟩) (reading state input) = _ :=
      exec_bind_of_eq hexec fun password ↦ performAction world fuel stack
        ⟨.unlock, filename, sizeString⟩ (cString password) (cString stack.newPassword)
    have haction := exec_passwordAction hkeeps stack.securityProperties "unlock" "u3_unlock"
      (request_unlock (u3PassToHash world.md5 (cString buffer))) rfl hlock (hanswer fuel hsecond)
    exact hwhole ▸ haction
  | change password newPassword consent =>
    obtain rfl : action = .changePassword := haction
    obtain ⟨middle, rest, hpassword, hnew, hanswer⟩ := htyped
    obtain ⟨enough, hpassword⟩ := hpassword.askPassword stack.password
    obtain ⟨enough', hnew⟩ := hnew.askNewPassword stack.newPassword stack.validatePassword
    obtain ⟨last, enough'', hanswer⟩ := hanswer.confirm
    refine ⟨max enough (max enough' enough''), fun fuel hfuel {state lock} hlock ↦ ?_⟩
    obtain ⟨hfirst, hlater⟩ := max_le_iff.mp hfuel
    obtain ⟨hsecond, hthird⟩ := max_le_iff.mp hlater
    obtain ⟨buffer, trace, hexec, rfl⟩ := hpassword fuel hfirst _ (answering dev) state
    obtain ⟨newBuffer, trace', hexec', rfl⟩ := hnew fuel hsecond _ (answering dev) state
    have hwhole : exec (desk (answering dev)) (withDevice world fuel stack
        ⟨.changePassword, filename, sizeString⟩) (reading state input) = _ :=
      exec_bind_of_eq hexec fun password ↦
        askNewPassword fuel stack.newPassword stack.validatePassword >>= fun newPassword ↦
          performAction world fuel stack ⟨.changePassword, filename, sizeString⟩
            (cString password) (cString newPassword)
    have hrest := exec_bind_of_eq hexec' fun newPassword ↦ performAction world fuel stack
      ⟨.changePassword, filename, sizeString⟩ (cString buffer) (cString newPassword)
    rw [hrest] at hwhole
    have haction := exec_passwordAction hkeeps stack.securityProperties "change password"
      "u3_change_password" (request_changePassword (u3PassToHash world.md5 (cString buffer))
        (u3PassToHash world.md5 (cString newBuffer))) rfl hlock (hanswer fuel hthird)
    exact hwhole ▸ haction
  | disable password consent =>
    obtain rfl : action = .disableSecurity := haction
    obtain ⟨rest, hpassword, hanswer⟩ := htyped
    obtain ⟨enough, hpassword⟩ := hpassword.askPassword stack.password
    obtain ⟨last, enough', hanswer⟩ := hanswer.confirm
    refine ⟨max enough enough', fun fuel hfuel {state lock} hlock ↦ ?_⟩
    obtain ⟨hfirst, hsecond⟩ := max_le_iff.mp hfuel
    obtain ⟨buffer, trace, hexec, rfl⟩ := hpassword fuel hfirst _ (answering dev) state
    have hwhole : exec (desk (answering dev)) (withDevice world fuel stack
        ⟨.disableSecurity, filename, sizeString⟩) (reading state input) = _ :=
      exec_bind_of_eq hexec fun password ↦ performAction world fuel stack
        ⟨.disableSecurity, filename, sizeString⟩ (cString password) (cString stack.newPassword)
    have haction := exec_passwordAction hkeeps stack.securityProperties "disable security"
      "u3_disable_security" (request_disableSecurity (u3PassToHash world.md5 (cString buffer))) rfl
      hlock (hanswer fuel hsecond)
    exact hwhole ▸ haction
  | reset consent =>
    obtain rfl : action = .resetSecurity := haction
    obtain ⟨last, enough, hanswer⟩ := AnswerTyped.confirm htyped
    refine ⟨enough, fun fuel hfuel {state lock} hlock ↦ ?_⟩
    exact exec_warned_lock (hanswer fuel hfuel) hlock
      (exec_doResetSecurity_lock hkeeps world.md5 stack.roundedSize hlock last)

end Device

/-! ### Invocations over the bus -/

/-- An invocation with another amount of fuel. -/
def Invocation.withFuel (invocation : Invocation ρ) (fuel : ℕ) : Invocation ρ :=
  { invocation with fuel := fuel }

/-- An invocation asks for a security action on a device that it can open, and what the use needs is
typed. -/
structure Invocation.Plays (libusb : Surroundings Libusb ρ) (md5 : List UInt8 → Buffer 16)
    (invocation : Invocation ρ) (use : KeyUse) : Prop where
  md5_eq : invocation.world.md5 = md5
  opens : ∃ options deviceName handle,
    deviceArgument invocation.args = some (options, deviceName) ∧ options.action = use.action ∧
      (exec libusb (openUsb (verbose invocation.args) (argumentText deviceName))
        invocation.host).result = .ok (.ok handle)
  typed : use.Typed invocation.stdin

section Bus

variable (libusb : Surroundings Libusb ρ) (dev : DeviceModel σ)

/-- What an invocation returns, and the device after it. -/
def Invocation.attend (device : BulkOnly σ) (invocation : Invocation ρ) :
    Except Abort (Except Halt Int32) × BulkOnly σ :=
  ((invocation.execution libusb dev device).result, invocation.after libusb dev device)

/-- What an invocation returns that ends with an exit status. -/
def exited (status : ExitStatus) : Except Abort (Except Halt Int32) := .ok (.ok status.code)

/-- An invocation returns what a use comes to on the lock of the device, and does that to it. -/
def Invocation.Carries (size rounded : UInt32) (holds : σ → HashLock → Prop)
    (md5 : List UInt8 → Buffer 16) (invocation : Invocation ρ) (use : KeyUse) : Prop :=
  ∀ state lock, holds state lock →
    let used := lock.use (u3PassToHash md5) (Fits size rounded) use
    ∃ next, invocation.attend libusb dev ⟨state, .ready⟩ = (exited used.1, ⟨next, .ready⟩) ∧
      holds next used.2

variable {libusb dev} {size rounded : UInt32} {holds : σ → HashLock → Prop}
  {md5 : List UInt8 → Buffer 16}

/-- One invocation. -/
theorem carries_of_plays (hkeeps : KeepsLock dev size rounded holds) {invocation : Invocation ρ}
    {use : KeyUse} (hplays : invocation.Plays libusb md5 use) :
    ∃ enough, ∀ fuel ≥ enough,
      (invocation.withFuel fuel).Carries libusb dev size rounded holds md5 use := by
  obtain ⟨rfl, ⟨options, deviceName, handle, hdevice, haction, hopen⟩, htyped⟩ := hplays
  obtain ⟨enough, hused⟩ :=
    exec_withDevice_lock hkeeps invocation.world invocation.stack haction htyped
  refine ⟨enough, fun fuel hfuel state lock hlock ↦ ?_⟩
  have houtcome := exec_usb_mainOn libusb dev invocation.world fuel invocation.stack
    invocation.name state invocation.stdin hdevice hopen
  rw [(@main_opensAs invocation.world fuel invocation.stack invocation.name _ _ _ hdevice).1]
    at houtcome
  obtain ⟨hresult, hnext⟩ := hused fuel hfuel hlock
  exact ⟨_, Prod.ext (houtcome.result.trans (congrArg _ hresult)) houtcome.desk.1, hnext⟩

/-- Invocations one after the other. -/
theorem drive_attend {invocations : List (Invocation ρ)} {uses : List KeyUse}
    (hcarries : List.Forall₂ (Invocation.Carries libusb dev size rounded holds md5) invocations
      uses)
    {state : σ} {lock : HashLock} (hlock : holds state lock) :
    let attended := drive (Invocation.attend libusb dev) ⟨state, .ready⟩ invocations
    let used := drive (fun lock ↦ lock.use (u3PassToHash md5) (Fits size rounded)) lock uses
    attended.1 = used.1.map exited ∧
      ∃ final, attended.2 = ⟨final, .ready⟩ ∧ holds final used.2 := by
  let related (lock : HashLock) (device : BulkOnly σ) : Prop :=
    ∃ state, device = ⟨state, .ready⟩ ∧ holds state lock
  have hstep {lock : HashLock} {device : BulkOnly σ} {use : KeyUse} {invocation : Invocation ρ}
      (hcarry : invocation.Carries libusb dev size rounded holds md5 use)
      (hrelated : related lock device) :
      (invocation.attend libusb dev device).1 =
          exited (lock.use (u3PassToHash md5) (Fits size rounded) use).1 ∧
        related (lock.use (u3PassToHash md5) (Fits size rounded) use).2
          (invocation.attend libusb dev device).2 := by
    obtain ⟨state, rfl, hlock⟩ := hrelated
    obtain ⟨next, hattend, hnext⟩ := hcarry state lock hlock
    rw [hattend]
    exact ⟨rfl, next, rfl, hnext⟩
  have hstart : related lock ⟨state, .ready⟩ := ⟨state, rfl, hlock⟩
  exact @drive_simulates _ _ _ _ _ _ (fun lock ↦ lock.use (u3PassToHash md5) (Fits size rounded))
    (Invocation.attend libusb dev) related _ exited hstep _ _ hcarries _ _ hstart

/-- All invocations of a sequence have enough fuel from some amount on. -/
theorem forall₂_carries (hkeeps : KeepsLock dev size rounded holds)
    {invocations : List (Invocation ρ)} {uses : List KeyUse}
    (hplays : List.Forall₂ (Invocation.Plays libusb md5) invocations uses) :
    ∃ enough, ∀ fuel ≥ enough,
      List.Forall₂ (Invocation.Carries libusb dev size rounded holds md5)
        (invocations.map fun invocation ↦ invocation.withFuel fuel) uses := by
  obtain ⟨enough, hall⟩ := forall₂_of_enough (hplays.imp fun _ _ ↦ carries_of_plays hkeeps)
  exact ⟨enough, fun fuel hfuel ↦ List.forall₂_map_left_iff.mpr (hall fuel hfuel)⟩

/-- A sequence of invocations that ask for security actions does to the device and returns what it
comes to on the lock of the device, which stays within its limit when it was. -/
theorem keyring_over_usb (hkeeps : KeepsLock dev size rounded holds)
    {invocations : List (Invocation ρ)} {uses : List KeyUse}
    (hplays : List.Forall₂ (Invocation.Plays libusb md5) invocations uses) {state : σ}
    {lock : HashLock} (hlock : holds state lock) :
    ∃ enough, ∀ fuel ≥ enough,
      let attended := drive (Invocation.attend libusb dev) ⟨state, .ready⟩
        (invocations.map fun invocation ↦ invocation.withFuel fuel)
      let used := drive (fun lock ↦ lock.use (u3PassToHash md5) (Fits size rounded)) lock uses
      attended.1 = used.1.map exited ∧
        (∃ final, attended.2 = ⟨final, .ready⟩ ∧ holds final used.2) ∧
        (lock.Within → used.2.Within) := by
  obtain ⟨enough, hcarries⟩ := forall₂_carries hkeeps hplays
  refine ⟨enough, fun fuel hfuel ↦ ?_⟩
  obtain ⟨hanswers, hfinal⟩ := drive_attend (hcarries fuel hfuel) hlock
  exact ⟨hanswers, hfinal, within_drive_use (u3PassToHash md5) (Fits size rounded) uses⟩

/-- After security was enabled with a password and wrong ones were entered, an unlock with the
password succeeds if and only if fewer were entered than the device allows. -/
theorem unlock_after_guesses (hkeeps : KeepsLock dev size rounded holds)
    {invocations : List (Invocation ρ)} {password : List UInt8} {guesses : List KeyUse}
    (hguesses : ∀ use ∈ guesses, use.Guesses (u3PassToHash md5) (u3PassToHash md5 password))
    (hplays : List.Forall₂ (Invocation.Plays libusb md5) invocations
      (.enable password true :: (guesses ++ [.unlock password true])))
    {state : σ} {lock : HashLock} (hlock : holds state lock) :
    ∃ enough, ∀ fuel ≥ enough,
      (drive (Invocation.attend libusb dev) ⟨state, .ready⟩
        (invocations.map fun invocation ↦ invocation.withFuel fuel)).1 =
      exited .success :: (List.replicate guesses.length (exited .failure) ++
        [exited (acceptance (guesses.length < lock.allowed.toNat))]) := by
  obtain ⟨enough, hcarries⟩ := forall₂_carries hkeeps hplays
  refine ⟨enough, fun fuel hfuel ↦ ?_⟩
  rw [(drive_attend (hcarries fuel hfuel) hlock).1, drive_use_guesses lock hguesses]
  simp

end Bus

/-! ### A lock as a device -/

/-- The lock of a data partition of a size that is a multiple of what zones are made of. -/
def lockDevice (size : UInt32) : DeviceModel HashLock := fun lock request ↦
  if request.command ∈ deviceChanging then
    match (decodeOperation request.cmd (.ofNat request.length) request.data).bind
      (lock.operate size) with
    | some outcome => ((outcome.1, []), outcome.2)
    | none => ((false, []), lock)
  else if request.command = 0xA0 then
    ((true, leBytes 4 size.toNat ++ List.replicate 8 0 ++ leBytes 4 lock.made.toNat), lock)
  else if request.command = 0xA3 then ((true, leBytes 4 size.toNat), lock)
  else ((true, [0x0C, 0, 0, 0, 10, 0] ++ leBytes 4 lock.allowed.toNat), lock)

/-- The operations that change a lock are device-changing. -/
theorem Lock.operate_changing {lock : HashLock} {size : UInt32} {operation : Operation}
    {outcome : Bool × HashLock} (houtcome : lock.operate size operation = some outcome) :
    operation.request.command ∈ deviceChanging := by
  cases operation with
  | enableSecurity zoneSize hash => exact (by decide : (0xA2 : UInt16) ∈ deviceChanging)
  | unlock hash => exact (by decide : (0xA4 : UInt16) ∈ deviceChanging)
  | changePassword oldHash newHash => exact (by decide : (0xA6 : UInt16) ∈ deviceChanging)
  | disableSecurity hash => exact (by decide : (0xA7 : UInt16) ∈ deviceChanging)
  | _ => exact absurd houtcome (by simp [operate])

theorem lockDevice_of_reads {size : UInt32} {lock : HashLock} {request : CmdRequest}
    (hreads : request.command ∉ deviceChanging) : (lockDevice size lock request).2 = lock := by
  rw [lockDevice, if_neg hreads]
  split_ifs <;> rfl

theorem keepsLock_lockDevice (size : UInt32) : KeepsLock (lockDevice size) size size Eq where
  reports lock :=
    { info := by
        rintro _ rfl
        exact ⟨_, rfl, rfl, leUInt32_leBytes _⟩
      header := by
        rintro _ rfl
        exact ⟨_, rfl, rfl, rfl⟩
      page := by
        rintro _ rfl
        exact ⟨_, rfl, rfl, leUInt32_leBytes _⟩
      reads := by
        rintro _ request hreads rfl
        exact lockDevice_of_reads hreads }
  partitionSize := by
    rintro lock _ rfl
    exact ⟨_, rfl, rfl, leUInt32_leBytes _⟩
  round := by
    rintro lock _ rfl
    rfl
  operates := by
    rintro lock _ operation outcome houtcome rfl
    rw [lockDevice, if_pos (Lock.operate_changing houtcome), decodeOperation_request]
    dsimp only [Option.bind_some]
    rw [houtcome]
    exact ⟨rfl, rfl⟩

/-- A world whose hash of a password is its beginning, and an invocation in it. -/
def shortHash (bytes : List UInt8) : Buffer 16 := (Buffer.fill 16 0).store 0 (bytes.take 16)

def keyInvocation (flag typed : String) : Invocation Unit :=
  ⟨{ plainWorld with md5 := shortHash }, 0, zeroMainStack, ascii "u3-tool",
    [ascii flag, ascii "scan"], ofList (ascii typed), ()⟩

/-- The lines of a password and of the answer yes. -/
theorem typed_unlock {password : List UInt8} {rest : List UInt8}
    (hpassword : ∀ byte ∈ password, ¬ byte = 10) (hentered : enteredText password = some password) :
    (KeyUse.unlock password true).Typed (ofList (password ++ 10 :: ([121] ++ 10 :: rest))) := by
  have hline : NextLine (· = (10 : UInt8)) (ofList (password ++ 10 :: ([121] ++ 10 :: rest)))
      ⟨password, some 10⟩ (ofList ([121] ++ 10 :: rest)) := nextLine_ofList_append hpassword rfl
  have hyes : NextLine StopsDrop (ofList ([121] ++ 10 :: rest)) ⟨[121], some 10⟩ (ofList rest) :=
    nextLine_ofList_append (by simp [StopsDrop]) (Or.inl rfl)
  exact ⟨_, ⟨_, .stop hline (untilSome_eq_inr.mpr hentered)⟩, _, _,
    .stop hyes (untilSome_eq_inr.mpr rfl)⟩

/-- The two lines of a new password and the answer yes. -/
theorem typed_enable {password : List UInt8} {rest : List UInt8}
    (hpassword : ∀ byte ∈ password, ¬ byte = 10) (hentered : typedText password = password)
    (hnonempty : password ≠ []) :
    (KeyUse.enable password true).Typed
      (ofList (password ++ 10 :: (password ++ 10 :: ([121] ++ 10 :: rest)))) := by
  have hline : NextLine (· = (10 : UInt8))
      (ofList (password ++ 10 :: (password ++ 10 :: ([121] ++ 10 :: rest)))) ⟨password, some 10⟩
      (ofList (password ++ 10 :: ([121] ++ 10 :: rest))) := nextLine_ofList_append hpassword rfl
  have hagain : NextLine (· = (10 : UInt8)) (ofList (password ++ 10 :: ([121] ++ 10 :: rest)))
      ⟨password, some 10⟩ (ofList ([121] ++ 10 :: rest)) := nextLine_ofList_append hpassword rfl
  have hyes : NextLine StopsDrop (ofList ([121] ++ 10 :: rest)) ⟨[121], some 10⟩ (ofList rest) :=
    nextLine_ofList_append (by simp [StopsDrop]) (Or.inl rfl)
  have hfirst : agreement none password = .inl (some ⟨password, hnonempty⟩) := by
    simp [agreement, hentered, hnonempty]
  have hsecond : agreement (some ⟨password, hnonempty⟩) password = .inr password := by
    simp [agreement, hentered]
  exact ⟨_, ⟨_, .move hline hfirst (.stop hagain hsecond)⟩, _, _,
    .stop hyes (untilSome_eq_inr.mpr rfl)⟩

theorem plays_keyInvocation {flag typed : String} {options : Options} {use : KeyUse}
    (hdevice : deviceArgument [ascii flag, ascii "scan"] = some (options, ascii "scan"))
    (haction : options.action = use.action)
    (hopen : (exec openBus (openUsb (verbose [ascii flag, ascii "scan"])
      (argumentText (ascii "scan"))) ()).result = .ok (.ok ⟨some 7, 0, 1, 0x81⟩))
    (htyped : use.Typed (ofList (ascii typed))) :
    (keyInvocation flag typed).Plays openBus shortHash use where
  md5_eq := rfl
  opens := ⟨options, ascii "scan", _, hdevice, haction, hopen⟩
  typed := htyped

/-- The password `a`, a wrong one, and again the right one. -/
def keySession : List (Invocation Unit) :=
  [keyInvocation "-e" "a\na\ny\n", keyInvocation "-u" "b\ny\n", keyInvocation "-u" "a\ny\n"]

theorem plays_keySession :
    List.Forall₂ (Invocation.Plays openBus shortHash) keySession
      [.enable (ascii "a") true, .unlock (ascii "b") true, .unlock (ascii "a") true] := by
  have hunlock : deviceArgument [ascii "-u", ascii "scan"] =
      some (⟨.unlock, [], []⟩, ascii "scan") := by decide +kernel
  have henable : deviceArgument [ascii "-e", ascii "scan"] =
      some (⟨.enableSecurity, [], []⟩, ascii "scan") := by decide +kernel
  have hopenUnlock : (exec openBus (openUsb (verbose [ascii "-u", ascii "scan"])
      (argumentText (ascii "scan"))) ()).result = .ok (.ok ⟨some 7, 0, 1, 0x81⟩) := by
    decide +kernel
  have hopenEnable : (exec openBus (openUsb (verbose [ascii "-e", ascii "scan"])
      (argumentText (ascii "scan"))) ()).result = .ok (.ok ⟨some 7, 0, 1, 0x81⟩) := by
    decide +kernel
  have hentered (letter : UInt8) (hletter : letter ≠ 0) : typedText [letter] = [letter] := by
    simp [typedText, hletter]
  refine .cons (plays_keyInvocation henable rfl hopenEnable ?_)
    (.cons (plays_keyInvocation hunlock rfl hopenUnlock ?_)
      (.cons (plays_keyInvocation hunlock rfl hopenUnlock ?_) .nil))
  · exact @typed_enable [97] [] (by simp) (hentered 97 (by decide)) (List.cons_ne_nil _ _)
  · exact @typed_unlock [98] [] (by simp) rfl
  · exact @typed_unlock [97] [] (by simp) rfl

theorem keyring_over_usb_witness :
    ∃ enough, ∀ fuel ≥ enough,
      let attended := drive (Invocation.attend openBus (lockDevice 8))
        ⟨⟨none, true, 0, 2⟩, .ready⟩ (keySession.map fun invocation ↦ invocation.withFuel fuel)
      attended.1 = [exited .success, exited .failure, exited .success] ∧
        attended.2 = ⟨⟨some (u3PassToHash shortHash (ascii "a")), true, 0, 2⟩, .ready⟩ := by
  obtain ⟨enough, hattended⟩ := keyring_over_usb (keepsLock_lockDevice 8) plays_keySession
    (rfl : (⟨none, true, 0, 2⟩ : HashLock) = _)
  refine ⟨enough, fun fuel hfuel ↦ ?_⟩
  obtain ⟨hstatuses, ⟨final, hfinal, rfl⟩, -⟩ := hattended fuel hfuel
  have hused : drive (fun lock ↦ lock.use (u3PassToHash shortHash) (Fits 8 8))
      (⟨none, true, 0, 2⟩ : HashLock)
      [.enable (ascii "a") true, .unlock (ascii "b") true, .unlock (ascii "a") true] =
        ([.success, .failure, .success],
          ⟨some (u3PassToHash shortHash (ascii "a")), true, 0, 2⟩) := by decide +kernel
  rw [hused] at hstatuses hfinal
  exact ⟨hstatuses, hfinal⟩

theorem unlock_after_guesses_witness :
    ∃ enough, ∀ fuel ≥ enough,
      (drive (Invocation.attend openBus (lockDevice 8)) ⟨⟨none, true, 0, 2⟩, .ready⟩
        (keySession.map fun invocation ↦ invocation.withFuel fuel)).1 =
      [exited .success, exited .failure, exited .success] := by
  have hguesses : ∀ use ∈ ([.unlock (ascii "b") true] : List KeyUse),
      use.Guesses (u3PassToHash shortHash) (u3PassToHash shortHash (ascii "a")) := by
    intro use huse
    rw [List.mem_singleton.mp huse]
    exact ⟨by decide +kernel, rfl⟩
  exact unlock_after_guesses (keepsLock_lockDevice 8) hguesses plays_keySession
    (rfl : (⟨none, true, 0, 2⟩ : HashLock) = _)

end U3Tool
