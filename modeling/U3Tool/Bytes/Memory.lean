import U3Tool.Bytes.Buffer

/-!
# Memory and C strings

Memory is a function from addresses to bytes, without an end: nothing in the model of a function
keeps it from writing behind an array, so that a statement that it does not is one about the
function. `Memory.write` writes a byte string at an offset.

`IsString memory text` says that the memory begins with a C string: a text without a NUL, and a NUL.
The functions of `string.h` and `stdio.h` on such memory are `strlen`, `strdup`, `strncat` and
`vsnprintf`. A search for a NUL is given fuel, the number of bytes it may look at, and has no result
without a NUL among them. `strncat_of_isString` and `isString_vsnprintf` say what text a call
leaves, and, with `vsnprintf_of_le`, which bytes it leaves alone.
-/

set_option autoImplicit false
set_option relaxedAutoImplicit false

namespace Bytes

/-! ### Memory -/

/-- The bytes of memory from an address on. -/
abbrev Memory := ℕ → UInt8

/-- Memory with a byte string written at an offset. -/
def Memory.write (memory : Memory) (offset : ℕ) (bytes : List UInt8) : Memory := fun index ↦
  if offset ≤ index ∧ index < offset + bytes.length then bytes.getD (index - offset) 0
  else memory index

@[simp] theorem Memory.write_nil (memory : Memory) (offset : ℕ) :
    memory.write offset [] = memory := by
  funext index
  simp only [Memory.write, List.length_nil, Nat.add_zero]
  exact if_neg (by omega)

/-- Writing a byte, and then others from the next address on. -/
theorem Memory.write_cons (memory : Memory) (offset : ℕ) (byte : UInt8) (bytes : List UInt8) :
    Memory.write (Function.update memory offset byte) (offset + 1) bytes =
      memory.write offset (byte :: bytes) := by
  funext index
  simp only [Memory.write, Function.update_apply, List.length_cons]
  rcases lt_trichotomy index offset with hlt | rfl | hgt
  · rw [if_neg (by omega), if_neg (by omega), if_neg (by omega)]
  · rw [if_neg (by omega), if_pos rfl, if_pos (by omega), Nat.sub_self]
    rfl
  · obtain ⟨gap, rfl⟩ : ∃ gap, index = offset + 1 + gap :=
      ⟨index - (offset + 1), by omega⟩
    have hgap : offset + 1 + gap - offset = gap + 1 := by omega
    rw [if_neg (by omega : ¬ offset + 1 + gap = offset), Nat.add_sub_cancel_left, hgap,
      List.getD_cons_succ]
    exact if_congr (by omega) rfl rfl

/-- Writing a byte string, and then a byte behind it. -/
theorem Memory.update_write (memory : Memory) (offset : ℕ) (bytes : List UInt8) (byte : UInt8) :
    Function.update (memory.write offset bytes) (offset + bytes.length) byte =
      memory.write offset (bytes ++ [byte]) := by
  funext index
  simp only [Memory.write, Function.update_apply, List.length_append, List.length_singleton]
  rcases lt_trichotomy index (offset + bytes.length) with hlt | rfl | hgt
  · rw [if_neg (by omega)]
    by_cases hoffset : offset ≤ index
    · rw [if_pos ⟨hoffset, hlt⟩, if_pos ⟨hoffset, by omega⟩, List.getD_eq_getElem?_getD,
        List.getD_eq_getElem?_getD, List.getElem?_append_left (by omega)]
    · rw [if_neg (by omega), if_neg (by omega)]
  · simp
  · rw [if_neg (by omega), if_neg (by omega), if_neg (by omega)]

/-- The first bytes of memory as a buffer. -/
def Memory.toBuffer (size : ℕ) (memory : Memory) : Buffer size :=
  ⟨(List.range size).map memory, by simp⟩

/-- Writing to a buffer is writing to memory, within the size of the buffer. -/
theorem toBuffer_write {size : ℕ} (buffer : Buffer size) (data : List UInt8) :
    (Memory.write buffer.byte 0 data).toBuffer size = buffer.store 0 data := by
  have hsize := buffer.length_bytes
  ext1
  refine List.ext_getElem (by simp [Memory.toBuffer]) fun index hleft hright ↦ ?_
  rw [Buffer.length_bytes] at hright
  simp only [Memory.toBuffer, Memory.write, Buffer.store, List.getElem_map, List.getElem_range,
    Nat.zero_le, true_and, Nat.zero_add, Nat.sub_zero, List.take_zero, List.nil_append,
    List.getElem_take, List.getElem_append]
  split_ifs with hdata
  · rw [List.getD_eq_getElem?_getD, List.getElem?_eq_getElem hdata, Option.getD_some]
  · have hindex : data.length + (index - data.length) = index := by omega
    simp only [Buffer.byte, List.getElem_drop, hindex]
    rw [List.getD_eq_getElem?_getD, List.getElem?_eq_getElem (by omega), Option.getD_some]

/-! ### C strings -/

/-- A text without a NUL. -/
@[ext] structure CText where
  bytes : List UInt8
  noNul : (0 : UInt8) ∉ bytes
  deriving DecidableEq

/-- The memory begins with a text and a NUL behind it. -/
def IsString (memory : Memory) (text : CText) : Prop :=
  ∀ index ≤ text.bytes.length, memory index = text.bytes.getD index 0

namespace CText

/-- A text cut to a number of bytes. -/
def take (text : CText) (count : ℕ) : CText :=
  ⟨text.bytes.take count, fun hmem ↦ text.noNul (List.mem_of_mem_take hmem)⟩

/-- A text behind another. -/
def append (first second : CText) : CText :=
  ⟨first.bytes ++ second.bytes, fun hmem ↦
    (List.mem_append.mp hmem).elim first.noNul second.noNul⟩

@[simp] theorem bytes_take (text : CText) (count : ℕ) :
    (text.take count).bytes = text.bytes.take count := rfl

@[simp] theorem bytes_append (first second : CText) :
    (first.append second).bytes = first.bytes ++ second.bytes := rfl

/-- Cutting two texts to a number of bytes is cutting the first and appending as much of the second
as there is room for. -/
theorem take_append (first second : CText) (count : ℕ) :
    (first.append second).take count =
      (first.take count).append (second.take (count - (first.take count).bytes.length)) := by
  ext1
  have hroom : count - min count first.bytes.length = count - first.bytes.length := by omega
  simp only [bytes_take, bytes_append, List.length_take, hroom]
  exact List.take_append

theorem append_assoc (first second third : CText) :
    (first.append second).append third = first.append (second.append third) := by
  ext1
  exact List.append_assoc ..

/-- Cutting the second text beforehand, where the whole is cut, changes nothing. -/
theorem take_append_take (first second : CText) (count : ℕ) :
    (first.append (second.take count)).take count = (first.append second).take count := by
  ext1
  simp only [bytes_take, bytes_append, List.take_append, List.take_take]
  rw [min_eq_left (Nat.sub_le _ _)]

end CText

/-- Memory that begins with a non-empty string goes on with the rest of it. -/
theorem isString_cons {memory : Memory} {byte : UInt8} {bytes : List UInt8}
    {hnoNul : (0 : UInt8) ∉ byte :: bytes} (hstring : IsString memory ⟨byte :: bytes, hnoNul⟩) :
    memory 0 = byte ∧ IsString (fun index ↦ memory (index + 1))
      ⟨bytes, fun hmem ↦ hnoNul (List.mem_cons_of_mem _ hmem)⟩ :=
  ⟨hstring 0 (Nat.zero_le _), fun index hindex ↦
    (hstring (index + 1) (Nat.succ_le_succ hindex)).trans List.getD_cons_succ⟩

/-! ### `string.h` and `stdio.h` -/

/-- `strlen`. -/
def strlen : (fuel : ℕ) → (memory : Memory) → Option ℕ
  | 0, _ => none
  | fuel + 1, memory =>
    if memory 0 = 0 then some 0
    else (strlen fuel fun index ↦ memory (index + 1)).map (· + 1)

/-- `strlen` finds the end of a string. -/
theorem strlen_of_isString {fuel : ℕ} {memory : Memory} {text : CText}
    (hstring : IsString memory text) (hfuel : text.bytes.length < fuel) :
    strlen fuel memory = some text.bytes.length := by
  obtain ⟨bytes, hnoNul⟩ := text
  induction bytes generalizing fuel memory with
  | nil =>
    obtain ⟨fuel, rfl⟩ : ∃ more, fuel = more + 1 := ⟨fuel - 1, by simp at hfuel; omega⟩
    have hfirst : memory 0 = 0 := hstring 0 le_rfl
    rw [strlen, if_pos hfirst]
    rfl
  | cons byte bytes ih =>
    obtain ⟨fuel, rfl⟩ : ∃ more, fuel = more + 1 := ⟨fuel - 1, by simp at hfuel; omega⟩
    obtain ⟨hfirst, hrest⟩ := isString_cons hstring
    have hbyte : byte ≠ 0 := fun hzero ↦ hnoNul (hzero ▸ List.mem_cons_self)
    rw [strlen, if_neg (hfirst ▸ hbyte), ih _ hrest (by simpa using hfuel)]
    rfl

/-- `strdup`, which copies a string behind which its NUL is understood. -/
def strdup (fuel : ℕ) (memory : Memory) : Option (List UInt8) :=
  (strlen fuel memory).map fun length ↦ (List.range length).map memory

/-- `strdup` copies the text of a string. -/
theorem strdup_of_isString {fuel : ℕ} {memory : Memory} {text : CText}
    (hstring : IsString memory text) (hfuel : text.bytes.length < fuel) :
    strdup fuel memory = some text.bytes := by
  rw [strdup, strlen_of_isString hstring hfuel, Option.map_some]
  refine congrArg some (List.ext_getElem (by simp) fun index hleft hright ↦ ?_)
  rw [List.getElem_map, List.getElem_range, hstring index hright.le,
    List.getD_eq_getElem?_getD, List.getElem?_eq_getElem hright, Option.getD_some]

/-- `strncat`: as much of a text as allowed, and a NUL, from the end of the string on. -/
def strncat (fuel : ℕ) (memory : Memory) (text : List UInt8) (count : UInt64) : Option Memory :=
  (strlen fuel memory).map fun length ↦ memory.write length (text.take count.toNat ++ [0])

/-- `vsnprintf` with a formatted message: as much of it as an array has room for, and a NUL. -/
def vsnprintf (memory : Memory) (size : ℕ) (message : List UInt8) : Memory :=
  if size = 0 then memory else memory.write 0 (message.take (size - 1) ++ [0])

/-- A text and a NUL written behind a text. -/
theorem isString_write {memory : Memory} {first : CText} (second : CText)
    (hfirst : ∀ index < first.bytes.length, memory index = first.bytes.getD index 0) :
    IsString (memory.write first.bytes.length (second.bytes ++ [0])) (first.append second) := by
  intro index hindex
  simp only [CText.append, List.length_append] at hindex ⊢
  simp only [Memory.write, List.length_append, List.length_singleton]
  by_cases hinside : index < first.bytes.length
  · rw [if_neg (by omega), hfirst index hinside, List.getD_eq_getElem?_getD,
      List.getD_eq_getElem?_getD, List.getElem?_append_left hinside]
  · have hstart : first.bytes.length ≤ index := Nat.le_of_not_lt hinside
    rw [if_pos (by omega), List.getD_eq_getElem?_getD, List.getD_eq_getElem?_getD,
      List.getElem?_append_right hstart]
    rcases Nat.lt_or_eq_of_le (by omega : index - first.bytes.length ≤ second.bytes.length) with
      hlast | hlast
    · rw [List.getElem?_append_left hlast]
    · rw [hlast]
      simp

/-- `strncat` appends a cut text. -/
theorem strncat_of_isString {fuel : ℕ} {memory : Memory} {text : CText} (more : CText)
    (count : UInt64) (hstring : IsString memory text) (hfuel : text.bytes.length < fuel) :
    ∃ memory', strncat fuel memory more.bytes count = some memory' ∧
      IsString memory' (text.append (more.take count.toNat)) ∧
      ∀ index, text.bytes.length + count.toNat < index → memory' index = memory index := by
  refine ⟨_, by rw [strncat, strlen_of_isString hstring hfuel, Option.map_some]; rfl,
    isString_write (more.take count.toNat) fun index hindex ↦ hstring index hindex.le,
    fun index hindex ↦ ?_⟩
  simp only [Memory.write, CText.take, List.length_append, List.length_take, List.length_singleton]
  exact if_neg (by omega)

/-- `vsnprintf` leaves a cut message. -/
theorem isString_vsnprintf (memory : Memory) {size : ℕ} (hsize : 0 < size) (message : CText) :
    IsString (vsnprintf memory size message.bytes) (message.take (size - 1)) := by
  rw [vsnprintf, if_neg hsize.ne']
  have hempty := @isString_write memory ⟨[], List.not_mem_nil⟩ (message.take (size - 1))
    fun index hindex ↦ absurd hindex (Nat.not_lt_zero index)
  exact hempty

/-- `vsnprintf` writes nothing behind its array. -/
theorem vsnprintf_of_le (memory : Memory) {size index : ℕ} (hindex : size ≤ index)
    (message : List UInt8) : vsnprintf memory size message index = memory index := by
  rw [vsnprintf]
  split_ifs with hsize
  · rfl
  · simp only [Memory.write, List.length_append, List.length_take, List.length_singleton]
    exact if_neg (by omega)

end Bytes
