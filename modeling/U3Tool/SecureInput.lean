import U3Tool.Bytes.Memory
import U3Tool.Main
import U3Tool.Posix.Lines

/-!
# Reading lines with `secure_input`

`secureInputAt` is `secure_input` on memory: its buffer is an address from which it writes bytes one
by one, and nothing in the model keeps it from writing behind the `buf_size` bytes it is given.
`exec_secureInputAt` says what one call does with the next line of stdin: it stores what fits, ends
it with a NUL, writes no other byte and reads the line to its end. `secure_input_reads_lines` is
about any number of consecutive calls.

`secureInput_eq` connects the two models: on a buffer of its own, `secureInput` is `secureInputAt`.
-/

set_option autoImplicit false
set_option relaxedAutoImplicit false

namespace U3Tool

open Interaction Bytes Program Lines

variable {δ : Type} {device : Surroundings Scsi δ}

/-! ### Replies of `fgetc` -/

/-- The replies of `fgetc` in a trace. -/
def fgetcReplies (trace : List (Event Tool)) : List (Option UInt8) :=
  trace.filterMap fun
    | ⟨.fgetc, reply⟩ => some reply
    | _ => none

@[simp] theorem fgetcReplies_nil : fgetcReplies [] = [] := rfl

@[simp] theorem fgetcReplies_append (first second : List (Event Tool)) :
    fgetcReplies (first ++ second) = fgetcReplies first ++ fgetcReplies second :=
  List.filterMap_append

@[simp] theorem fgetcReplies_print (stream : Stream) (text : List UInt8) (reply : Unit)
    (trace : List (Event Tool)) :
    fgetcReplies (⟨.print stream text, reply⟩ :: trace) = fgetcReplies trace := rfl

@[simp] theorem fgetcReplies_fgetc (reply : Option UInt8) (trace : List (Event Tool)) :
    fgetcReplies (⟨.fgetc, reply⟩ :: trace) = reply :: fgetcReplies trace := rfl

/-- The surroundings with a given stdin. -/
def reading (state : δ) (input : Input UInt8) : Desk δ := ⟨state, input⟩

@[simp] theorem reading_inj {state state' : δ} {input input' : Input UInt8} :
    reading state input = reading state' input' ↔ state = state' ∧ input = input' :=
  Iff.of_eq (Desk.mk.injEq ..)

/-- `fgetc` reads the head of stdin and leaves its tail. -/
theorem exec_fgetc_bind {α : Type} (continuation : Option UInt8 → ToolProgram α) (state : δ)
    (input : Input UInt8) :
    exec (desk device) (fgetc >>= continuation) (reading state input) =
      ⟨(exec (desk device) (continuation input.head) (reading state input.tail)).result,
        ⟨.fgetc, input.head⟩ ::
          (exec (desk device) (continuation input.head) (reading state input.tail)).trace,
        (exec (desk device) (continuation input.head) (reading state input.tail)).final⟩ := rfl

/-! ### Dropping the rest of a line -/

/-- Reads on from a reply up to one that ends a line. -/
def drain (newline : UInt8 → Prop) [DecidablePred newline] :
    (fuel : ℕ) → (reply : Option UInt8) → ToolProgram Unit
  | 0, reply => if Ends newline reply then .done () else .fail .outOfFuel
  | fuel + 1, reply =>
    if Ends newline reply then .done ()
    else do
      let next ← fgetc
      drain newline fuel next

section Drain

variable {newline : UInt8 → Prop} [DecidablePred newline] {input rest : Input UInt8}

/-- Draining reads a line to its end. -/
theorem exec_drain {line : Line UInt8} (hline : NextLine newline input line rest) {fuel : ℕ}
    (hfuel : line.text.length ≤ fuel) (state : δ) :
    ∃ trace, exec (desk device) (drain newline fuel input.head) (reading state input.tail) =
        ⟨.ok (), trace, reading state rest⟩ ∧
      input.head :: fgetcReplies trace = line.replies := by
  induction hline generalizing fuel with
  | close hends =>
    refine ⟨[], ?_, rfl⟩
    cases fuel <;> rw [drain, if_pos hends] <;> rfl
  | @byte input _ first text closing hfirst hinside hrest ih =>
    obtain ⟨fuel, rfl⟩ : ∃ more, fuel = more + 1 :=
      ⟨fuel - 1, by simp only [List.length_cons] at hfuel; omega⟩
    obtain ⟨trace, hexec, hreplies⟩ := ih (by simpa using hfuel)
    refine ⟨⟨.fgetc, input.tail.head⟩ :: trace, ?_, ?_⟩
    · rw [drain, if_neg (by simpa [hfirst] using hinside), exec_fgetc_bind, hexec]
    · rw [fgetcReplies_fgetc, hreplies, hfirst]
      rfl

/-- Draining returns only at the end of a line that is no longer than its fuel. -/
theorem nextLine_of_exec_drain {fuel : ℕ} {state : δ}
    (hreturns : (exec (desk device) (drain newline fuel input.head)
      (reading state input.tail)).result = .ok ()) :
    ∃ line rest, NextLine newline input line rest ∧ line.text.length ≤ fuel := by
  induction fuel generalizing input with
  | zero =>
    rw [drain] at hreturns
    split_ifs at hreturns with hend
    · exact ⟨_, _, .close hend, le_rfl⟩
    · simp at hreturns
  | succ fuel ih =>
    rw [drain] at hreturns
    split_ifs at hreturns with hend
    · exact ⟨_, _, .close hend, Nat.zero_le _⟩
    · rw [exec_fgetc_bind] at hreturns
      obtain ⟨line, rest, hline, hlength⟩ := ih hreturns
      cases hhead : input.head with
      | none => exact absurd (by simp [hhead]) hend
      | some first =>
        have hinside : ¬ newline first := by simpa [hhead] using hend
        exact ⟨⟨first :: line.text, line.closing⟩, rest, .byte hhead hinside hline,
          by simpa using hlength⟩

end Drain

/-! ### `secure_input` on memory -/

/-- The loop of `secure_input` that fills the buffer, from position `pos` on and with room for as
many bytes as given: the position, the last character read and the memory it ends with. -/
def fillMemory : (room pos : ℕ) → (ch : Option UInt8) → (buf : Memory) →
    ToolProgram (ℕ × Option UInt8 × Memory)
  | 0, pos, ch, buf => .done (pos, ch, buf)
  | room + 1, pos, ch, buf =>
    match ch with
    | none => .done (pos, none, buf)
    | some byte =>
      if byte = 10 then .done (pos, some byte, buf)
      else do
        let next ← fgetc
        fillMemory room (pos + 1) next (Function.update buf pos byte)

/-- `secure_input`, with the memory that begins at `buf`. -/
def secureInputAt (fuel bufSize : ℕ) (buf : Memory) : ToolProgram Memory :=
  -- input checking
  if bufSize < 1 then .done buf
  else do
    let first ← fgetc
    let (pos, last, buf) ← fillMemory (bufSize - 1) 0 first (Function.update buf 0 10)
    let buf := Function.update buf pos 0
    -- flush the stdin buffer of remaining unused characters
    flushInput fuel last
    printf "\n"
    .done buf

/-- Filling the buffer stores the bytes of the line for which there is room and reads as many. What
is left of the line is the line of the input from the last character read on. -/
theorem exec_fillMemory {input rest : Input UInt8} {line : Line UInt8}
    (hline : NextLine (· = 10) input line rest) (room pos : ℕ) (buf : Memory) (state : δ) :
    ∃ middle trace, NextLine (· = 10) middle ⟨line.text.drop room, line.closing⟩ rest ∧
      exec (desk device) (fillMemory room pos input.head buf) (reading state input.tail) =
        ⟨.ok (pos + (line.text.take room).length, middle.head,
          buf.write pos (line.text.take room)), trace, (reading state middle.tail)⟩ ∧
      input.head :: fgetcReplies trace = (line.text.take room).map some ++ [middle.head] := by
  induction room generalizing input line pos buf with
  | zero => exact ⟨input, [], by simpa using hline, by simp [fillMemory], by simp⟩
  | succ room ih =>
    cases hline with
    | close hends =>
      refine ⟨input, [], .close hends, ?_, by simp⟩
      cases hhead : input.head with
      | none => simp [fillMemory]
      | some byte =>
        rw [hhead, ends_some] at hends
        simp [fillMemory, hends]
    | @byte _ _ first text closing hfirst hinside hrest =>
      obtain ⟨middle, trace, hmiddle, hexec, hreplies⟩ :=
        ih hrest (pos + 1) (Function.update buf pos first)
      refine ⟨middle, ⟨.fgetc, input.tail.head⟩ :: trace, hmiddle, ?_, ?_⟩
      · have hsum : pos + 1 + (text.take room).length =
            pos + ((first :: text).take (room + 1)).length := by
          simp only [List.take_succ_cons, List.length_cons]
          omega
        rw [hsum, Memory.write_cons] at hexec
        rw [hfirst, fillMemory, if_neg hinside, exec_fgetc_bind, hexec]
        rfl
      · rw [fgetcReplies_fgetc, hreplies, hfirst]
        rfl

/-- Filling the buffer always returns, somewhere in the input. -/
theorem exists_exec_fillMemory (input : Input UInt8) (room pos : ℕ) (buf : Memory) (state : δ) :
    ∃ count pos' buf' trace,
      exec (desk device) (fillMemory room pos input.head buf) (reading state input.tail) =
        ⟨.ok (pos', (input.drop count).head, buf'), trace,
          (reading state (input.drop count).tail)⟩ := by
  induction room generalizing input pos buf with
  | zero => exact ⟨0, pos, buf, [], rfl⟩
  | succ room ih =>
    cases hhead : input.head with
    | none =>
      refine ⟨0, pos, buf, [], ?_⟩
      rw [Stream'.drop_zero, hhead]
      rfl
    | some byte =>
      by_cases hbyte : byte = 10
      · refine ⟨0, pos, buf, [], ?_⟩
        rw [Stream'.drop_zero, hhead, fillMemory]
        simp [hbyte]
      · obtain ⟨count, pos', buf', trace, hexec⟩ :=
          ih input.tail (pos + 1) (Function.update buf pos byte)
        refine ⟨count + 1, pos', buf', ⟨.fgetc, input.tail.head⟩ :: trace, ?_⟩
        rw [fillMemory, if_neg hbyte, exec_fgetc_bind, hexec]
        rfl

/-- The loop of `secure_input` that drops the rest of a line drains it. -/
theorem flushInput_eq_drain (fuel : ℕ) (ch : Option UInt8) :
    flushInput fuel ch = drain (· = 10) fuel ch := by
  have hend (reply : Option UInt8) : reply = some 10 ∨ reply = none ↔ Ends (· = 10) reply := by
    cases reply <;> simp
  induction fuel generalizing ch with
  | zero => simp only [flushInput, drain, hend]
  | succ fuel ih => simp only [flushInput, drain, hend, ih]

/-- The memory at `buf` after a line is read into `bufSize` bytes: the bytes that fit, a NUL, and
the memory as it was. -/
def lineStored (bufSize : ℕ) (buf : Memory) (text : List UInt8) : Memory := fun index ↦
  if index < min text.length (bufSize - 1) then text.getD index 0
  else if index = min text.length (bufSize - 1) then 0
  else buf index

/-- What the two loops and the final NUL leave in memory. -/
theorem write_eq_lineStored (bufSize : ℕ) (buf : Memory) (text : List UInt8) :
    Function.update (Memory.write (Function.update buf 0 10) 0 (text.take (bufSize - 1)))
      (0 + (text.take (bufSize - 1)).length) 0 = lineStored bufSize buf text := by
  funext index
  have hlength : (text.take (bufSize - 1)).length = min text.length (bufSize - 1) := by
    rw [List.length_take, min_comm]
  simp only [Function.update_apply, Memory.write, lineStored, Nat.zero_add, Nat.zero_le, true_and,
    hlength, Nat.sub_zero]
  rcases lt_trichotomy index (min text.length (bufSize - 1)) with hlt | rfl | hgt
  · rw [if_neg (by omega), if_pos hlt, if_pos hlt, List.getD_eq_getElem?_getD,
      List.getD_eq_getElem?_getD, List.getElem?_take_of_lt (by omega)]
  · simp
  · rw [if_neg (by omega), if_neg (by omega), if_neg (by omega), if_neg (by omega),
      if_neg (by omega)]

/-- One call of `secure_input` with a buffer of at least one byte reads one line. -/
theorem exec_secureInputAt {input rest : Input UInt8} {line : Line UInt8}
    (hline : NextLine (· = 10) input line rest) {fuel bufSize : ℕ} (hsize : 1 ≤ bufSize)
    (hfuel : line.text.length - (bufSize - 1) ≤ fuel) (buf : Memory) (state : δ) :
    ∃ trace, exec (desk device) (secureInputAt fuel bufSize buf) (reading state input) =
        ⟨.ok (lineStored bufSize buf line.text), trace, (reading state rest)⟩ ∧
      fgetcReplies trace = line.replies := by
  obtain ⟨middle, filling, hmiddle, hfill, hfilled⟩ :=
    @exec_fillMemory δ device _ _ _ hline (bufSize - 1) 0 (Function.update buf 0 10) state
  obtain ⟨flushing, hflush, hflushed⟩ :=
    @exec_drain δ device _ _ _ _ _ hmiddle fuel (by simpa using hfuel) state
  rw [← flushInput_eq_drain] at hflush
  refine ⟨⟨.fgetc, input.head⟩ :: (filling ++ (flushing ++ [⟨.print .stdout (ascii "\n"), ()⟩])),
    ?_, ?_⟩
  · rw [secureInputAt, if_neg (by omega), exec_fgetc_bind, exec_bind_of_eq hfill]
    dsimp only
    rw [exec_bind_of_eq hflush, write_eq_lineStored]
    rfl
  · have hwhole : line.replies = (line.text.take (bufSize - 1)).map some ++
        Line.replies ⟨line.text.drop (bufSize - 1), line.closing⟩ := by
      rw [Line.replies, Line.replies, ← List.append_assoc, ← List.map_append,
        List.take_append_drop]
    rw [hwhole, ← hflushed]
    simp only [fgetcReplies_fgetc, fgetcReplies_append, fgetcReplies_print, fgetcReplies_nil,
      List.append_nil]
    rw [← List.cons_append, hfilled, List.append_assoc]
    rfl

/-- A call of `secure_input` returns only when there is a next line, of which the fuel suffices to
drop what does not fit. -/
theorem nextLine_of_exec_secureInputAt {input : Input UInt8} {fuel bufSize : ℕ} {buf buf' : Memory}
    {state : δ} (hsize : 1 ≤ bufSize)
    (hreturns : (exec (desk device) (secureInputAt fuel bufSize buf) (reading state input)).result =
      .ok buf') :
    ∃ line rest, NextLine (· = 10) input line rest ∧
      line.text.length - (bufSize - 1) ≤ fuel := by
  obtain ⟨count, pos, filled, filling, hfill⟩ := @exists_exec_fillMemory δ device input
    (bufSize - 1) 0 (Function.update buf 0 10) state
  rw [secureInputAt, if_neg (by omega), exec_fgetc_bind, exec_bind_of_eq hfill] at hreturns
  dsimp only at hreturns
  cases hflush : (exec (desk device) (flushInput fuel (input.drop count).head)
      (reading state (input.drop count).tail)).result with
  | error halt => rw [exec_bind_error hflush] at hreturns; simp at hreturns
  | ok value =>
    obtain ⟨left, rest, hleft, hlength⟩ := nextLine_of_exec_drain (flushInput_eq_drain .. ▸ hflush)
    obtain ⟨line, last, hline⟩ : ∃ line last, NextLine (· = 10) input line last :=
      exists_nextLine_iff.mpr ⟨count + left.text.length, by
        rw [← Stream'.get_drop, hleft.get_closing]
        exact hleft.ends_closing⟩
    obtain ⟨middle, filling', hmiddle, hfill', -⟩ :=
      @exec_fillMemory δ device _ _ _ hline (bufSize - 1) 0 (Function.update buf 0 10) state
    -- both say where the loop leaves the input
    have hsame := hfill.symm.trans hfill'
    simp only [Execution.mk.injEq, Except.ok.injEq, Prod.mk.injEq, reading_inj, true_and] at hsame
    obtain ⟨⟨-, hhead, -⟩, -, htail⟩ := hsame
    have hcount : input.drop count = middle := by
      rw [← Stream'.eta (input.drop count), ← Stream'.eta middle, hhead, htail]
    obtain ⟨rfl, -⟩ := hleft.unique (hcount ▸ hmiddle)
    exact ⟨line, last, hline, by simpa using hlength⟩

/-! ### Consecutive calls -/

/-- A call of `secure_input`: the size of the buffer and the memory that begins at it. -/
structure InputCall where
  bufSize : ℕ
  buf : Memory

/-- The memory a call leaves when it reads a line. -/
def InputCall.stored (call : InputCall) (line : Line UInt8) : Memory :=
  lineStored call.bufSize call.buf line.text

/-- Consecutive calls of `secure_input`: the memories they leave. -/
def secureInputs (fuel : ℕ) : List InputCall → ToolProgram (List Memory)
  | [] => .done []
  | call :: calls => do
    let buf ← secureInputAt fuel call.bufSize call.buf
    let bufs ← secureInputs fuel calls
    .done (buf :: bufs)

/-- Consecutive calls read consecutive lines. -/
theorem exec_secureInputs {input rest : Input UInt8} {lines : List (Line UInt8)}
    (hlines : NextLines (· = 10) input lines rest) {calls : List InputCall}
    (hcalls : calls.length = lines.length) (hsizes : ∀ call ∈ calls, 1 ≤ call.bufSize)
    (state : δ) :
    ∃ enough, ∀ fuel ≥ enough, ∃ trace,
      exec (desk device) (secureInputs fuel calls) (reading state input) =
        ⟨.ok (List.zipWith InputCall.stored calls lines), trace, reading state rest⟩ ∧
      fgetcReplies trace = lines.flatMap Line.replies := by
  induction hlines generalizing calls with
  | nil input =>
    obtain rfl := List.length_eq_zero_iff.mp hcalls
    exact ⟨0, fun fuel _ ↦ ⟨[], rfl, rfl⟩⟩
  | @cons input middle rest line lines hline _ ih =>
    obtain ⟨call, calls, rfl⟩ := List.exists_cons_of_length_eq_add_one hcalls
    obtain ⟨hsize, hsizes⟩ := List.forall_mem_cons.mp hsizes
    obtain ⟨enough, hmore⟩ := ih (Nat.succ.inj hcalls) hsizes
    refine ⟨max line.text.length enough, fun fuel hfuel ↦ ?_⟩
    obtain ⟨first, hfirst, hreplies⟩ :=
      @exec_secureInputAt δ device _ _ _ hline fuel _ hsize (by omega) call.buf state
    obtain ⟨later, hlater, hlaterReplies⟩ := hmore fuel (by omega)
    refine ⟨first ++ later, ?_, by rw [fgetcReplies_append, hreplies, hlaterReplies]; rfl⟩
    rw [secureInputs, exec_bind_of_eq hfirst, exec_bind_of_eq hlater, exec_done, List.append_nil]
    rfl

/-- Consecutive calls return only when there are as many lines. -/
theorem nextLines_of_exec_secureInputs {input : Input UInt8} {fuel : ℕ} {calls : List InputCall}
    {bufs : List Memory} {state : δ} (hsizes : ∀ call ∈ calls, 1 ≤ call.bufSize)
    (hreturns : (exec (desk device) (secureInputs fuel calls) (reading state input)).result =
      .ok bufs) :
    ∃ lines rest, NextLines (· = 10) input lines rest ∧ lines.length = calls.length := by
  induction calls generalizing input bufs with
  | nil => exact ⟨[], input, .nil input, rfl⟩
  | cons call calls ih =>
    obtain ⟨hsize, hsizes⟩ := List.forall_mem_cons.mp hsizes
    rw [secureInputs] at hreturns
    cases hcall : (exec (desk device) (secureInputAt fuel call.bufSize call.buf)
        (reading state input)).result with
    | error halt => rw [exec_bind_error hcall] at hreturns; simp at hreturns
    | ok buf =>
      obtain ⟨line, middle, hline, hfuel⟩ := nextLine_of_exec_secureInputAt hsize hcall
      obtain ⟨first, hfirst, -⟩ :=
        @exec_secureInputAt δ device _ _ _ hline fuel _ hsize hfuel call.buf state
      rw [exec_bind_of_eq hfirst] at hreturns
      cases hmore : (exec (desk device) (secureInputs fuel calls)
          (reading state middle)).result with
      | error halt => rw [exec_bind_error hmore] at hreturns; simp at hreturns
      | ok bufs =>
        obtain ⟨lines, rest, hlines, hlength⟩ := ih hsizes hmore
        exact ⟨line :: lines, rest, .cons hline hlines, congrArg (· + 1) hlength⟩

/-- On any stdin, any number of calls of `secure_input` with buffers of any sizes from one byte on
read as many consecutive lines, to the end of the last and no further. Each stores in its buffer the
bytes of its line that fit before a NUL and writes no other byte of memory. They return only when
there are as many lines. -/
theorem secure_input_reads_lines {calls : List InputCall}
    (hsizes : ∀ call ∈ calls, 1 ≤ call.bufSize) (state : δ) (input : Input UInt8) :
    (∀ lines rest, NextLines (· = 10) input lines rest → calls.length = lines.length →
      ∃ enough, ∀ fuel ≥ enough, ∃ trace,
        exec (desk device) (secureInputs fuel calls) (reading state input) =
          ⟨.ok (List.zipWith InputCall.stored calls lines), trace, reading state rest⟩ ∧
        fgetcReplies trace = lines.flatMap Line.replies) ∧
    ∀ fuel bufs,
      (exec (desk device) (secureInputs fuel calls) (reading state input)).result = .ok bufs →
        ∃ lines rest, NextLines (· = 10) input lines rest ∧ lines.length = calls.length :=
  ⟨fun _ _ hlines hcalls ↦ exec_secureInputs hlines hcalls hsizes state,
    fun _ _ hreturns ↦ nextLines_of_exec_secureInputs hsizes hreturns⟩

/-- A buffer of one byte and one of three read the lines `ab` and `xyz` of a stdin that ends with
the second. -/
theorem secure_input_reads_lines_witness :
    ∃ enough, ∀ fuel ≥ enough, ∃ trace,
      exec (desk fun _ _ ↦ (.success 0 [], ())) (secureInputs fuel
        [⟨1, fun _ ↦ 7⟩, ⟨3, fun _ ↦ 7⟩]) (reading () (ofList (ascii "ab\nxyz"))) =
          ⟨.ok [InputCall.stored ⟨1, fun _ ↦ 7⟩ ⟨ascii "ab", some 10⟩,
            InputCall.stored ⟨3, fun _ ↦ 7⟩ ⟨ascii "xyz", none⟩], trace,
            reading () (ofList [])⟩ ∧
        fgetcReplies trace = (ascii "ab\nxyz").map some ++ [none] :=
  (secure_input_reads_lines (by decide) () (ofList (ascii "ab\nxyz"))).1
    [⟨ascii "ab", some 10⟩, ⟨ascii "xyz", none⟩] (ofList [])
    (.cons (.byte rfl (by decide) (.byte rfl (by decide) (.close (ends_some.mpr rfl))))
      (.cons (.byte rfl (by decide) (.byte rfl (by decide) (.byte rfl (by decide)
        (.close (ends_none _))))) (.nil _))) rfl

/-! ### `secure_input` on a buffer of its own -/

/-- The loop that fills memory stores the bytes that the loop which fills a buffer reads. -/
theorem fillMemory_eq (room pos : ℕ) (ch : Option UInt8) (buf : Memory) :
    fillMemory room pos ch buf = fillInput room ch >>= fun filled ↦
      .done (pos + filled.1.length, filled.2, buf.write pos filled.1) := by
  induction room generalizing pos ch buf with
  | zero => simp [fillMemory, fillInput]
  | succ room ih =>
    cases ch with
    | none => simp [fillMemory, fillInput]
    | some byte =>
      by_cases hbyte : byte = 10
      · simp [fillMemory, fillInput, hbyte]
      · rw [fillMemory, fillInput, if_neg hbyte, if_neg hbyte, bind_assoc']
        refine congrArg (fgetc >>= ·) (funext fun next ↦ ?_)
        rw [ih, bind_assoc']
        refine congrArg (fillInput room next >>= ·) (funext fun filled ↦ ?_)
        have hpos : pos + 1 + filled.1.length = pos + (filled.1.length + 1) := by omega
        rw [Memory.write_cons, hpos]
        rfl

/-- On a buffer of its own, `secure_input` does what it does on memory that begins with it. -/
theorem secureInput_eq {size : ℕ} (fuel : ℕ) (buffer : Buffer size) (hsize : 1 ≤ size) :
    secureInput fuel buffer = secureInputAt fuel size buffer.byte >>= fun memory ↦
      .done (memory.toBuffer size) := by
  have hstart : Function.update buffer.byte 0 10 = (buffer.store 0 [10]).byte := by
    funext index
    rw [Buffer.byte_store_zero (by simpa using hsize), Function.update_apply]
    cases index <;> simp
  rw [secureInput, secureInputAt, if_neg (by omega), if_neg (by omega), bind_assoc']
  refine congrArg (fgetc >>= ·) (funext fun first ↦ ?_)
  rw [fillMemory_eq, bind_assoc', bind_assoc']
  refine congrArg (fillInput (size - 1) first >>= ·) (funext fun filled ↦ ?_)
  rw [done_bind]
  dsimp only
  rw [bind_assoc']
  refine congrArg (flushInput fuel filled.2 >>= ·) (funext fun _ ↦ ?_)
  rw [bind_assoc']
  refine congrArg (printf "\n" >>= ·) (funext fun _ ↦ ?_)
  rw [done_bind, Memory.update_write, hstart, toBuffer_write]

/-- One call of `secure_input` on a buffer of its own reads one line. -/
theorem exec_secureInput {input rest : Input UInt8} {line : Line UInt8}
    (hline : NextLine (· = 10) input line rest) {fuel size : ℕ} (hsize : 1 ≤ size)
    (hfuel : line.text.length - (size - 1) ≤ fuel) (buffer : Buffer size) (state : δ) :
    ∃ trace, exec (desk device) (secureInput fuel buffer) (reading state input) =
        ⟨.ok ((lineStored size buffer.byte line.text).toBuffer size), trace, reading state rest⟩ ∧
      fgetcReplies trace = line.replies := by
  obtain ⟨trace, hexec, hreplies⟩ :=
    @exec_secureInputAt δ device _ _ _ hline fuel size hsize hfuel buffer.byte state
  refine ⟨trace, ?_, hreplies⟩
  rw [secureInput_eq fuel buffer hsize, exec_bind_of_eq hexec, exec_done, List.append_nil]

/-- A call of `secure_input` on a buffer of its own returns only when there is a next line, of which
the fuel suffices to drop what does not fit. -/
theorem nextLine_of_exec_secureInput {input : Input UInt8} {fuel size : ℕ}
    {buffer buffer' : Buffer size} {state : δ} (hsize : 1 ≤ size)
    (hreturns : (exec (desk device) (secureInput fuel buffer) (reading state input)).result =
      .ok buffer') :
    ∃ line rest, NextLine (· = 10) input line rest ∧ line.text.length - (size - 1) ≤ fuel := by
  rw [secureInput_eq fuel buffer hsize] at hreturns
  cases hread : (exec (desk device) (secureInputAt fuel size buffer.byte)
      (reading state input)).result with
  | error halt => rw [exec_bind_error hread] at hreturns; simp at hreturns
  | ok memory => exact nextLine_of_exec_secureInputAt hsize hread

/-- The C string of a buffer that a line was read into: what of the line fits, up to its first
NUL. -/
theorem cString_lineStored {size : ℕ} (hsize : 1 ≤ size) (buf : Memory) (text : List UInt8) :
    cString ((lineStored size buf text).toBuffer size) =
      (text.take (size - 1)).takeWhile (· ≠ 0) := by
  obtain ⟨count, hcount⟩ : ∃ count, min text.length (size - 1) = count := ⟨_, rfl⟩
  have hrange : ∃ tail, List.range size = List.range count ++ count :: tail := by
    obtain ⟨extra, rfl⟩ : ∃ extra, size = count + (extra + 1) := ⟨size - count - 1, by omega⟩
    rw [List.range_add, List.range_succ_eq_map]
    exact ⟨_, rfl⟩
  obtain ⟨tail, hrange⟩ := hrange
  have hstored : (List.range count).map (lineStored size buf text) = text.take (size - 1) := by
    refine List.ext_getElem ?_ fun index hleft hright ↦ ?_
    · rw [List.length_map, List.length_range, List.length_take, min_comm, hcount]
    · rw [List.length_map, List.length_range] at hleft
      simp only [List.getElem_map, List.getElem_range, lineStored, hcount, if_pos hleft,
        List.getElem_take]
      rw [List.getD_eq_getElem?_getD, List.getElem?_eq_getElem (by omega), Option.getD_some]
  have hzero : lineStored size buf text count = 0 := by
    simp only [lineStored, hcount, lt_irrefl, if_false, if_true]
  change ((List.range size).map (lineStored size buf text)).takeWhile (· ≠ 0) = _
  rw [hrange, List.map_append, hstored, List.map_cons, hzero, List.takeWhile_append,
    List.takeWhile_cons_of_neg (by simp), List.append_nil]
  split_ifs with hwhole
  · exact ((List.takeWhile_prefix _).eq_of_length hwhole).symm
  · rfl

end U3Tool
