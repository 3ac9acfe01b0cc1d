import U3Tool.Interaction.Machine
import U3Tool.Tool

/-!
# The lock that the security commands operate

What the documentation says of the secure zone, without the bytes: a device keeps the hash of a
password, whether the zone is the whole data partition, and a counter of wrong passwords. Enabling
security is always accepted and sets a new hash; a removal is refused, and not counted, when the
zone is not the whole partition.

`Lock.use` is what the five security actions of the tool come to on a lock. The tool sends no
password when as many were tried as are allowed, and asks before the last one. So a lock that is
within its limit stays within it (`within_drive_use`), and after security was enabled the password
opens the device exactly as long as fewer wrong ones were tried than are allowed
(`drive_use_guesses`).
-/

set_option autoImplicit false
set_option relaxedAutoImplicit false

namespace U3Tool

open Interaction

/-! ### The device -/

/-- The lock of a device, over the hashes `κ`. -/
structure Lock (κ : Type) where
  key : Option κ
  whole : Bool
  made : UInt32
  allowed : UInt32
  deriving DecidableEq

namespace Lock

variable {κ : Type} [DecidableEq κ] (lock : Lock κ) (key : κ)

/-- Security is enabled with a hash. -/
def secure (whole : Bool) : Lock κ := { lock with key := some key, whole := whole, made := 0 }

/-- A password is tried; the right one sets a new hash, or none. -/
def attempt (opened : Option κ) : Bool × Lock κ :=
  if lock.key = some key then (true, { lock with key := opened, made := 0 })
  else (false, { lock with made := lock.made + 1 })

/-- A removal of the security is tried. -/
def remove : Bool × Lock κ := if lock.whole then lock.attempt key none else (false, lock)

end Lock

/-! ### The tool -/

/-- A use of a security action: the passwords that are entered, and the answer in case the tool
asks. -/
inductive KeyUse
  | enable (password : List UInt8) (consent : Bool)
  | unlock (password : List UInt8) (consent : Bool)
  | change (password newPassword : List UInt8) (consent : Bool)
  | disable (password : List UInt8) (consent : Bool)
  | reset (consent : Bool)

/-- The exit status that reports whether a password was accepted. -/
def acceptance (accepted : Bool) : ExitStatus := if accepted then .success else .failure

namespace Lock

variable {κ : Type} [DecidableEq κ] (lock : Lock κ)

/-- A password that the tool sends after its look at the tries. -/
def guarded (consent : Bool) (outcome : Bool × Lock κ) : ExitStatus × Lock κ :=
  if lock.allowed = lock.made then (.failure, lock)
  else if lock.allowed - lock.made = 1 ∧ consent = false then (.failure, lock)
  else (acceptance outcome.1, outcome.2)

/-- What a use does to a lock, and its exit status. `fits` says whether the partition is of a size
that a zone can have. -/
def use (hash : List UInt8 → κ) (fits : Bool) : KeyUse → ExitStatus × Lock κ
  | .enable password consent =>
    if consent then (.success, lock.secure (hash password) fits) else (.success, lock)
  | .unlock password consent =>
    lock.guarded consent (lock.attempt (hash password) (some (hash password)))
  | .change password newPassword consent =>
    lock.guarded consent (lock.attempt (hash password) (some (hash newPassword)))
  | .disable password consent => lock.guarded consent (lock.remove (hash password))
  | .reset consent =>
    if consent then
      let outcome := (lock.secure (hash (ascii "password")) fits).remove (hash (ascii "password"))
      (acceptance outcome.1, outcome.2)
    else (.success, lock)

end Lock

/-! ### The limit -/

/-- No more wrong passwords were tried than are allowed. -/
def Lock.Within {κ : Type} (lock : Lock κ) : Prop := lock.made.toNat ≤ lock.allowed.toNat

section Limit

variable {κ : Type} {lock : Lock κ}

theorem Lock.within_secure (key : κ) (whole : Bool) : (lock.secure key whole).Within :=
  Nat.zero_le lock.allowed.toNat

/-- The look at the tries keeps a password from a lock that has none left. -/
theorem Lock.within_guarded (consent : Bool) {outcome : Bool × Lock κ} (hwithin : lock.Within)
    (houtcome : lock.made.toNat < lock.allowed.toNat → outcome.2.Within) :
    (lock.guarded consent outcome).2.Within := by
  unfold guarded
  split_ifs with hblocked hlast
  · exact hwithin
  · exact hwithin
  · exact houtcome (lt_of_le_of_ne hwithin fun hsame ↦ hblocked (UInt32.toNat_inj.mp hsame.symm))

variable [DecidableEq κ]

/-- A password that is tried while a try is left stays within the limit. -/
theorem Lock.within_attempt (key : κ) (opened : Option κ)
    (hleft : lock.made.toNat < lock.allowed.toNat) : (lock.attempt key opened).2.Within := by
  unfold attempt
  split_ifs with hright
  · exact Nat.zero_le lock.allowed.toNat
  · change (lock.made + 1).toNat ≤ lock.allowed.toNat
    rw [UInt32.toNat_add]
    exact (Nat.mod_le _ _).trans hleft

theorem Lock.within_remove (key : κ) (hleft : lock.made.toNat < lock.allowed.toNat) :
    (lock.remove key).2.Within := by
  unfold remove
  split_ifs with hwhole
  · exact within_attempt key none hleft
  · exact le_of_lt hleft

/-- A use keeps within the limit. -/
theorem Lock.within_use (hash : List UInt8 → κ) (fits : Bool) (use : KeyUse)
    (hwithin : lock.Within) : (lock.use hash fits use).2.Within := by
  cases use with
  | enable password consent =>
    cases consent with
    | false => exact hwithin
    | true => exact within_secure _ _
  | unlock password consent => exact within_guarded consent hwithin (within_attempt _ _)
  | change password newPassword consent =>
    exact within_guarded consent hwithin (within_attempt _ _)
  | disable password consent => exact within_guarded consent hwithin (within_remove _)
  | reset consent =>
    cases consent with
    | false => exact hwithin
    | true =>
      change (Lock.remove (lock.secure _ fits) _).2.Within
      unfold remove attempt
      split_ifs with hwhole hright
      · exact Nat.zero_le lock.allowed.toNat
      · exact absurd rfl hright
      · exact within_secure _ _

/-- A sequence of uses keeps within the limit. -/
theorem within_drive_use (hash : List UInt8 → κ) (fits : Bool) (uses : List KeyUse)
    (hwithin : lock.Within) : (drive (fun lock ↦ lock.use hash fits) lock uses).2.Within := by
  have hstep {lock : Lock κ} {use : KeyUse} (_ : True) (hwithin : lock.Within) :
      (lock.use hash fits use).2.Within := lock.within_use hash fits use hwithin
  exact drive_keeps hstep (fun _ _ ↦ trivial) hwithin

end Limit

/-! ### Guessing -/

/-- A use in which a wrong password is entered, and the answer is yes. -/
def KeyUse.Guesses {κ : Type} (hash : List UInt8 → κ) (key : κ) : KeyUse → Prop
  | .unlock password consent => hash password ≠ key ∧ consent = true
  | .change password _ consent => hash password ≠ key ∧ consent = true
  | _ => False

/-- A lock after some wrong passwords; those that are refused unseen do not count. -/
def Lock.guessed {κ : Type} (lock : Lock κ) (count : ℕ) : Lock κ :=
  { lock with made := UInt32.ofNat (min lock.allowed.toNat (lock.made.toNat + count)) }

section Guessing

variable {κ : Type}

theorem Lock.guessed_zero {lock : Lock κ} (hwithin : lock.Within) : lock.guessed 0 = lock := by
  rw [guessed, Nat.add_zero, min_eq_right hwithin, UInt32.ofNat_toNat]

theorem Lock.toNat_made_guessed (lock : Lock κ) (count : ℕ) :
    (lock.guessed count).made.toNat = min lock.allowed.toNat (lock.made.toNat + count) := by
  have hallowed := lock.allowed.toNat_lt
  change (UInt32.ofNat _).toNat = _
  rw [UInt32.toNat_ofNat', Nat.mod_eq_of_lt (lt_of_le_of_lt (min_le_left _ _) hallowed)]

/-- No try is left when as many wrong passwords were tried as are allowed. -/
theorem Lock.blocked_guessed_iff (lock : Lock κ) (count : ℕ) :
    (lock.guessed count).allowed = (lock.guessed count).made ↔
      lock.allowed.toNat ≤ lock.made.toNat + count := by
  have hsame : (lock.guessed count).allowed = lock.allowed := rfl
  rw [← UInt32.toNat_inj, lock.toNat_made_guessed count, hsame]
  omega

variable [DecidableEq κ] {hash : List UInt8 → κ} {fits : Bool} {key : κ}

/-- One more wrong password. -/
theorem Lock.use_guessed {lock : Lock κ} (hkey : lock.key = some key) {use : KeyUse}
    (hguesses : use.Guesses hash key) (count : ℕ) :
    (lock.guessed count).use hash fits use = (.failure, lock.guessed (count + 1)) := by
  have hmade := lock.toNat_made_guessed count
  have hallowed := lock.allowed.toNat_lt
  have hwrong {password : List UInt8} (hpassword : hash password ≠ key) (opened : Option κ) :
      (lock.guessed count).guarded true ((lock.guessed count).attempt (hash password) opened) =
        (.failure, lock.guessed (count + 1)) := by
    have hrefused : ¬ (lock.guessed count).key = some (hash password) := fun hright ↦
      hpassword (Option.some.inj (hright.symm.trans hkey))
    by_cases hblocked : lock.allowed.toNat ≤ lock.made.toNat + count
    · rw [guarded, if_pos ((lock.blocked_guessed_iff count).mpr hblocked), guessed, guessed,
        min_eq_left hblocked, min_eq_left (by omega)]
    · have hnext : (lock.guessed count).made + 1 = (lock.guessed (count + 1)).made := by
        rw [← UInt32.toNat_inj, UInt32.toNat_add, hmade, toNat_made_guessed]
        change (_ + 1) % 2 ^ 32 = _
        omega
      rw [guarded, if_neg ((lock.blocked_guessed_iff count).not.mpr hblocked), if_neg (by simp),
        attempt, if_neg hrefused, hnext]
      rfl
  cases use with
  | unlock password consent =>
    obtain ⟨hpassword, rfl⟩ := hguesses
    exact hwrong hpassword _
  | change password newPassword consent =>
    obtain ⟨hpassword, rfl⟩ := hguesses
    exact hwrong hpassword _
  | enable password consent => exact hguesses.elim
  | disable password consent => exact hguesses.elim
  | reset consent => exact hguesses.elim

/-- The right password after wrong ones. -/
theorem Lock.use_unlock_guessed {lock : Lock κ} {password : List UInt8}
    (hkey : lock.key = some (hash password)) (count : ℕ) :
    ((lock.guessed count).use hash fits (.unlock password true)).1 =
      acceptance (lock.made.toNat + count < lock.allowed.toNat) := by
  have hright : (lock.guessed count).key = some (hash password) := hkey
  rw [use]
  by_cases hblocked : lock.allowed.toNat ≤ lock.made.toNat + count
  · rw [guarded, if_pos ((lock.blocked_guessed_iff count).mpr hblocked),
      decide_eq_false (not_lt.mpr hblocked)]
    rfl
  · rw [guarded, if_neg ((lock.blocked_guessed_iff count).not.mpr hblocked), if_neg (by simp),
      attempt, if_pos hright, decide_eq_true (not_le.mp hblocked)]

/-- Wrong passwords one after the other. -/
theorem drive_guesses {lock : Lock κ} (hkey : lock.key = some key) {guesses : List KeyUse}
    (hguesses : ∀ use ∈ guesses, use.Guesses hash key) (count : ℕ) :
    drive (fun lock ↦ lock.use hash fits) (lock.guessed count) guesses =
      (List.replicate guesses.length .failure, lock.guessed (count + guesses.length)) := by
  induction guesses generalizing count with
  | nil => rfl
  | cons use rest ih =>
    have hfirst := @Lock.use_guessed κ _ hash fits key lock hkey use
      (hguesses use (List.mem_cons_self ..)) count
    have hrest := ih (fun other hother ↦ hguesses other (List.mem_cons_of_mem _ hother)) (count + 1)
    rw [drive_cons, hfirst, hrest, List.length_cons, List.replicate_succ, Nat.add_assoc,
      Nat.add_comm 1]

/-- After security was enabled and wrong passwords were tried, the right one is accepted if and only
if fewer were tried than are allowed. -/
theorem drive_use_guesses (lock : Lock κ) {password : List UInt8} {guesses : List KeyUse}
    (hguesses : ∀ use ∈ guesses, use.Guesses hash (hash password)) :
    (drive (fun lock ↦ lock.use hash fits) lock
      (.enable password true :: (guesses ++ [.unlock password true]))).1 =
      .success :: (List.replicate guesses.length .failure ++
        [acceptance (guesses.length < lock.allowed.toNat)]) := by
  let secured := lock.secure (hash password) fits
  have hstart : secured.guessed 0 = secured := Lock.guessed_zero (Lock.within_secure _ _)
  have hmiddle := @drive_guesses κ _ hash fits (hash password) secured rfl guesses hguesses 0
  have hlast := @Lock.use_unlock_guessed κ _ hash fits secured password rfl guesses.length
  have hzero : secured.made.toNat + guesses.length = guesses.length := Nat.zero_add _
  rw [hstart, Nat.zero_add] at hmiddle
  rw [hzero] at hlast
  rw [drive_cons]
  change _ :: (drive _ secured _).1 = _
  rw [drive_append, hmiddle, drive_cons, drive_nil, hlast]
  rfl

end Guessing

end U3Tool
