import U3Tool.Bytes.Memory
import U3Tool.Scsi

/-!
# The error buffer, `u3_error.c`

`u3SetErrorAt` and `u3PrependErrorAt` are the two functions on memory that begins at `err_msg`.
After any calls, the first of which sets the text, the buffer holds the text that a buffer without a
bound would hold, cut to 1023 bytes (`error_buffer_holds_text`). The functions on texts that the
command layer is written with, `u3SetError` and `u3PrependError`, do the same
(`isString_u3SetErrorAt`, `u3PrependErrorAt_refines`).
-/

set_option autoImplicit false
set_option relaxedAutoImplicit false

namespace U3Tool

open Bytes

/-! ### The two functions -/

/-- `u3_set_error` with the formatted message, on memory that begins at `err_msg`. -/
def u3SetErrorAt (errMsg : Memory) (message : CText) : Memory :=
  Function.update (vsnprintf errMsg maxErrorLen message.bytes) (maxErrorLen - 1) 0

/-- The length passed to `strncat` for a buffer that holds a string of a length: the `int` that
`U3_MAX_ERROR_LEN` is, less a `size_t` and 1, in 64 bits. -/
def strncatLength (length : ℕ) : UInt64 := UInt64.ofNat maxErrorLen - UInt64.ofNat length - 1

/-- A call of `strncat`: the length of the string appended to, and the length passed. -/
structure StrncatCall where
  length : ℕ
  count : UInt64
  deriving DecidableEq

/-- `strncat` as `u3_prepend_error` calls it, with a record of the call. -/
def appendError (fuel : ℕ) (errMsg : Memory) (text : List UInt8) :
    Option (Memory × StrncatCall) := do
  let length ← strlen fuel errMsg
  let errMsg ← strncat fuel errMsg text (strncatLength length)
  some (errMsg, ⟨length, strncatLength length⟩)

/-- `u3_prepend_error` with the formatted message, on memory that begins at `err_msg`, when `strdup`
succeeds; also the calls of `strncat` it makes. -/
def u3PrependErrorAt (fuel : ℕ) (errMsg : Memory) (message : CText) :
    Option (Memory × List StrncatCall) := do
  let oldMsg ← strdup fuel errMsg
  let errMsg := Function.update (vsnprintf errMsg maxErrorLen message.bytes) (maxErrorLen - 1) 0
  let (errMsg, first) ← appendError fuel errMsg (ascii ": ")
  let (errMsg, second) ← appendError fuel errMsg oldMsg
  some (errMsg, [first, second])

/-! ### Calls -/

/-- A call of one of the two functions, with its formatted message. -/
inductive ErrorCall
  | set (message : CText)
  | prepend (message : CText)

/-- A call on memory. -/
def ErrorCall.run (fuel : ℕ) : ErrorCall → Memory → Option (Memory × List StrncatCall)
  | .set message, errMsg => some (u3SetErrorAt errMsg message, [])
  | .prepend message, errMsg => u3PrependErrorAt fuel errMsg message

/-- Calls one after the other. -/
def runErrorCalls (fuel : ℕ) : List ErrorCall → Memory → Option (Memory × List StrncatCall)
  | [], errMsg => some (errMsg, [])
  | call :: rest, errMsg => do
    let (errMsg, appends) ← call.run fuel errMsg
    let (errMsg, more) ← runErrorCalls fuel rest errMsg
    some (errMsg, appends ++ more)

/-- The separator of `u3_prepend_error`. -/
def separator : CText := ⟨ascii ": ", by decide⟩

/-- The text a call makes of the text before it, with room for all of it. -/
def ErrorCall.extend (text : CText) : ErrorCall → CText
  | .set message => message
  | .prepend message => message.append (separator.append text)

/-- The text that calls make of a text, with room for all of it. -/
def untruncated (calls : List ErrorCall) (text : CText) : CText := calls.foldl ErrorCall.extend text

/-! ### One call -/

/-- The buffer holds a text, as much of it as there is room for. -/
def HoldsText (errMsg : Memory) (text : CText) : Prop :=
  IsString errMsg (text.take (maxErrorLen - 1))

/-- The length passed to `strncat` is the room that is left. -/
structure StrncatCall.Exact (call : StrncatCall) : Prop where
  room : call.length + call.count.toNat = maxErrorLen - 1

theorem length_take_lt (text : CText) :
    (text.take (maxErrorLen - 1)).bytes.length < maxErrorLen := by
  rw [CText.bytes_take, List.length_take]
  exact lt_of_le_of_lt (min_le_left _ _) (by decide)

/-- The subtractions are exact while the string is shorter than the buffer. -/
theorem toNat_strncatLength {length : ℕ} (hlength : length < maxErrorLen) :
    (strncatLength length).toNat = maxErrorLen - 1 - length := by
  rw [maxErrorLen] at hlength
  rw [strncatLength, maxErrorLen, UInt64.toNat_sub, UInt64.toNat_sub, UInt64.toNat_ofNat',
    UInt64.toNat_ofNat', UInt64.toNat_one]
  omega

/-- What `vsnprintf` and the assignment behind it leave: the message, in the buffer only. -/
theorem holdsText_u3SetErrorAt (errMsg : Memory) (message : CText) :
    HoldsText (u3SetErrorAt errMsg message) message ∧
      ∀ index, maxErrorLen ≤ index → u3SetErrorAt errMsg message index = errMsg index := by
  have hstring := isString_vsnprintf errMsg (by decide : 0 < maxErrorLen) message
  have hlength := length_take_lt message
  refine ⟨fun index hindex ↦ ?_, fun index hindex ↦ ?_⟩
  · rw [u3SetErrorAt, Function.update_apply]
    split_ifs with hlast
    · -- the assignment writes a NUL where one stands, if the message reaches so far
      have hend : index = (message.take (maxErrorLen - 1)).bytes.length := by omega
      rw [hend, List.getD_eq_getElem?_getD, List.getElem?_eq_none le_rfl, Option.getD_none]
    · exact hstring index hindex
  · have hother : index ≠ maxErrorLen - 1 := by
      have : 0 < maxErrorLen := by decide
      omega
    rw [u3SetErrorAt, Function.update_of_ne hother]
    exact vsnprintf_of_le errMsg hindex message.bytes

/-- An append leaves both texts, as much of them as there is room for. -/
theorem holdsText_appendError {fuel : ℕ} (hfuel : maxErrorLen ≤ fuel) {errMsg : Memory}
    {text : CText} (hholds : HoldsText errMsg text) (more : CText) :
    ∃ errMsg' call, appendError fuel errMsg more.bytes = some (errMsg', call) ∧ call.Exact ∧
      HoldsText errMsg' (text.append more) ∧
      ∀ index, maxErrorLen ≤ index → errMsg' index = errMsg index := by
  obtain ⟨held, hheld⟩ : ∃ held, text.take (maxErrorLen - 1) = held := ⟨_, rfl⟩
  have hlength : held.bytes.length < maxErrorLen := hheld ▸ length_take_lt text
  have hcount := toNat_strncatLength hlength
  rw [HoldsText, hheld] at hholds
  have hstrlen := strlen_of_isString hholds (hlength.trans_le hfuel)
  obtain ⟨errMsg', hstrncat, hstring, hframe⟩ := strncat_of_isString more
    (strncatLength held.bytes.length) hholds (hlength.trans_le hfuel)
  refine ⟨errMsg', ⟨held.bytes.length, strncatLength held.bytes.length⟩, ?_, ⟨?_⟩, ?_,
    fun index hindex ↦ hframe index (by omega)⟩
  · rw [appendError, hstrlen]
    change (strncat fuel errMsg more.bytes _).bind _ = _
    rw [hstrncat]
    rfl
  · dsimp only
    omega
  · rw [HoldsText, CText.take_append, hheld, ← hcount]
    exact hstring

/-- `u3_prepend_error` leaves the message, the separator and the text it finds, as much of them as
there is room for, in the buffer only. -/
theorem holdsText_u3PrependErrorAt {fuel : ℕ} (hfuel : maxErrorLen ≤ fuel) {errMsg : Memory}
    {text : CText} (hholds : HoldsText errMsg text) (message : CText) :
    ∃ errMsg' appends, u3PrependErrorAt fuel errMsg message = some (errMsg', appends) ∧
      (∀ call ∈ appends, call.Exact) ∧
      HoldsText errMsg' (message.append (separator.append text)) ∧
      ∀ index, maxErrorLen ≤ index → errMsg' index = errMsg index := by
  have hcopy := strdup_of_isString hholds ((length_take_lt text).trans_le hfuel)
  obtain ⟨hset, hsetframe⟩ := holdsText_u3SetErrorAt errMsg message
  obtain ⟨errMsg₁, first, hfirst, hfirstexact, hholds₁, hframe₁⟩ :=
    holdsText_appendError hfuel hset separator
  obtain ⟨errMsg₂, second, hsecond, hsecondexact, hholds₂, hframe₂⟩ :=
    holdsText_appendError hfuel hholds₁ (text.take (maxErrorLen - 1))
  refine ⟨errMsg₂, [first, second], ?_, ?_, ?_, fun index hindex ↦ ?_⟩
  · rw [u3PrependErrorAt, hcopy]
    change (appendError fuel (u3SetErrorAt errMsg message) separator.bytes).bind _ = _
    rw [hfirst]
    change (appendError fuel errMsg₁ (text.take (maxErrorLen - 1)).bytes).bind _ = _
    rw [hsecond]
    rfl
  · exact List.forall_mem_cons.mpr ⟨hfirstexact, List.forall_mem_singleton.mpr hsecondexact⟩
  · -- cutting the old text before it is appended makes no difference
    rwa [HoldsText, CText.take_append_take, CText.append_assoc] at hholds₂
  · rw [hframe₂ index hindex, hframe₁ index hindex, hsetframe index hindex]

/-- One call, whatever text the buffer holds. -/
theorem holdsText_run {fuel : ℕ} (hfuel : maxErrorLen ≤ fuel) {errMsg : Memory} {text : CText}
    (hholds : HoldsText errMsg text) (call : ErrorCall) :
    ∃ errMsg' appends, call.run fuel errMsg = some (errMsg', appends) ∧
      (∀ append ∈ appends, append.Exact) ∧ HoldsText errMsg' (call.extend text) ∧
      ∀ index, maxErrorLen ≤ index → errMsg' index = errMsg index := by
  cases call with
  | set message =>
    obtain ⟨hset, hframe⟩ := holdsText_u3SetErrorAt errMsg message
    exact ⟨_, [], rfl, List.forall_mem_nil _, hset, hframe⟩
  | prepend message => exact holdsText_u3PrependErrorAt hfuel hholds message

/-! ### Any calls -/

/-- Calls one after the other, from a buffer that holds a text. -/
theorem holdsText_runErrorCalls {fuel : ℕ} (hfuel : maxErrorLen ≤ fuel) (calls : List ErrorCall)
    {errMsg : Memory} {text : CText} (hholds : HoldsText errMsg text) :
    ∃ errMsg' appends, runErrorCalls fuel calls errMsg = some (errMsg', appends) ∧
      (∀ append ∈ appends, append.Exact) ∧ HoldsText errMsg' (untruncated calls text) ∧
      ∀ index, maxErrorLen ≤ index → errMsg' index = errMsg index := by
  induction calls generalizing errMsg text with
  | nil => exact ⟨errMsg, [], rfl, List.forall_mem_nil _, hholds, fun _ _ ↦ rfl⟩
  | cons call rest ih =>
    obtain ⟨errMsg₁, first, hfirst, hfirstexact, hholds₁, hframe₁⟩ :=
      holdsText_run hfuel hholds call
    obtain ⟨errMsg₂, more, hrest, hrestexact, hholds₂, hframe₂⟩ := ih hholds₁
    refine ⟨errMsg₂, first ++ more, ?_, List.forall_mem_append.mpr ⟨hfirstexact, hrestexact⟩,
      hholds₂, fun index hindex ↦ (hframe₂ index hindex).trans (hframe₁ index hindex)⟩
    rw [runErrorCalls, hfirst]
    change (runErrorCalls fuel rest errMsg₁).bind _ = _
    rw [hrest]
    rfl

/-- After any calls, the first of which sets the text, the buffer holds the text they make, cut to
its first 1023 bytes, and a NUL; nothing behind the buffer has changed, whatever it was, and the
lengths passed to `strncat` are the room that was left. -/
theorem error_buffer_holds_text (spare : ℕ) (errMsg : Memory) (message : CText)
    (calls : List ErrorCall) :
    ∃ errMsg' appends,
      runErrorCalls (1024 + spare) (.set message :: calls) errMsg = some (errMsg', appends) ∧
        IsString errMsg' ((untruncated calls message).take 1023) ∧
        ((untruncated calls message).take 1023).bytes.length ≤ 1023 ∧
        (∀ index, 1024 ≤ index → errMsg' index = errMsg index) ∧
        ∀ append ∈ appends, append.length + append.count.toNat + 1 = 1024 := by
  have hfuel : maxErrorLen ≤ 1024 + spare := Nat.le_add_right _ _
  obtain ⟨hset, hsetframe⟩ := holdsText_u3SetErrorAt errMsg message
  obtain ⟨errMsg', appends, hrun, hexact, hholds, hframe⟩ :=
    holdsText_runErrorCalls hfuel calls hset
  refine ⟨errMsg', appends, ?_, hholds, List.length_take_le _ _,
    fun index hindex ↦ (hframe index hindex).trans (hsetframe index hindex),
    fun append happend ↦ congrArg (· + 1) (hexact append happend).room⟩
  rw [runErrorCalls, ErrorCall.run]
  change (runErrorCalls (1024 + spare) calls (u3SetErrorAt errMsg message)).bind _ = _
  rw [hrun]
  rfl

/-! ### The functions on texts -/

/-- The text `u3PrependError` leaves is the whole text, cut once. -/
theorem text_u3PrependError (message : String) (old : ErrMsg) :
    (u3PrependError message old).text =
      (ascii message ++ (ascii ": " ++ old.text)).take (maxErrorLen - 1) := by
  have hfirst : maxErrorLen - min (maxErrorLen - 1) (ascii message).length - 1 =
      maxErrorLen - 1 - (ascii message).length := by omega
  have hsecond : maxErrorLen - (min (maxErrorLen - 1) (ascii message).length +
      min (maxErrorLen - 1 - (ascii message).length) (ascii ": ").length) - 1 =
      maxErrorLen - 1 - ((ascii message).length + (ascii ": ").length) := by omega
  rw [← List.append_assoc, List.take_append, List.take_append, List.length_append]
  simp only [u3PrependError, List.length_append, List.length_take, hfirst, hsecond]

/-- `u3_set_error` leaves the text that `u3SetError` gives. -/
theorem isString_u3SetErrorAt (errMsg : Memory) {message : CText} {text : String}
    (htext : message.bytes = ascii text) :
    ∃ held, held.bytes = (u3SetError text).text ∧ IsString (u3SetErrorAt errMsg message) held :=
  ⟨message.take (maxErrorLen - 1), by rw [CText.bytes_take, htext]; rfl,
    (holdsText_u3SetErrorAt errMsg message).1⟩

/-- `u3_prepend_error` leaves the text that `u3PrependError` gives. -/
theorem u3PrependErrorAt_refines {fuel : ℕ} (hfuel : maxErrorLen ≤ fuel) {errMsg : Memory}
    {message oldText : CText} {text : String} {old : ErrMsg} (htext : message.bytes = ascii text)
    (hold : oldText.bytes = old.text) (hstring : IsString errMsg oldText) :
    ∃ errMsg' appends held, u3PrependErrorAt fuel errMsg message = some (errMsg', appends) ∧
      held.bytes = (u3PrependError text old).text ∧ IsString errMsg' held := by
  have hwhole : oldText.take (maxErrorLen - 1) = oldText := by
    ext1
    rw [CText.bytes_take, hold]
    exact List.take_of_length_le (Nat.le_pred_of_lt old.length_lt)
  have hholds : HoldsText errMsg oldText := by rwa [HoldsText, hwhole]
  obtain ⟨errMsg', appends, hrun, -, hheld, -⟩ := holdsText_u3PrependErrorAt hfuel hholds message
  refine ⟨errMsg', appends, _, hrun, ?_, hheld⟩
  rw [CText.bytes_take, CText.bytes_append, CText.bytes_append, htext, hold, text_u3PrependError]
  rfl

end U3Tool
