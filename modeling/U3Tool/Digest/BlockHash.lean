import Mathlib.Tactic

/-!
# Iterated hash functions

An iterated hash function consumes a message in blocks of one size; each block moves a chaining
value on (`BlockFunction`). A message that arrives in pieces is absorbed item by item: the state
holds the chaining value after the whole blocks so far and the items that do not fill a block yet
(`Absorbed`, which carries the proof that they do not). Absorption of a concatenation is absorption
of its parts one after the other (`absorb_append`), so how a message is cut never matters;
`absorb_of_lt` and `absorb_of_eq` say what a piece does that leaves the block open, and one that
completes it, and `absorb_eq_start` that a message of whole blocks is the fold of the compression
function over them.

`hmac` is the keyed hash built from any unkeyed one.
-/

set_option autoImplicit false
set_option relaxedAutoImplicit false

namespace Digest

/-- A compression function and the number of items it consumes at a time. -/
structure BlockFunction (α σ : Type) where
  blockSize : ℕ
  blockSize_pos : 0 < blockSize
  compress : σ → List α → σ

namespace BlockFunction

variable {α σ : Type}

/-! ### Whole blocks -/

/-- The first `count` blocks of a message. -/
def blocks (size : ℕ) : (count : ℕ) → List α → List (List α)
  | 0, _ => []
  | count + 1, message => message.take size :: blocks size count (message.drop size)

theorem length_of_mem_blocks {size count : ℕ} {message block : List α}
    (hlength : count * size ≤ message.length) (hblock : block ∈ blocks size count message) :
    block.length = size := by
  induction count generalizing message with
  | zero => simp [blocks] at hblock
  | succ count ih =>
    rw [Nat.succ_mul] at hlength
    rcases List.mem_cons.mp hblock with rfl | hrest
    · rw [List.length_take]
      omega
    · exact ih (by rw [List.length_drop]; omega) hrest

/-- A message of whole blocks is their concatenation. -/
theorem flatten_blocks {size count : ℕ} {message : List α}
    (hlength : message.length = count * size) : (blocks size count message).flatten = message := by
  induction count generalizing message with
  | zero =>
    rw [Nat.zero_mul] at hlength
    rw [List.eq_nil_of_length_eq_zero hlength]
    rfl
  | succ count ih =>
    rw [Nat.succ_mul] at hlength
    rw [blocks, List.flatten_cons, ih (by rw [List.length_drop]; omega), List.take_append_drop]

/-- The chaining value after a message of whole blocks. -/
def chain (F : BlockFunction α σ) (initial : σ) (message : List α) : σ :=
  (blocks F.blockSize (message.length / F.blockSize) message).foldl F.compress initial

/-! ### Absorption -/

/-- The chaining value after the whole blocks of a message, and the items behind them. -/
@[ext] structure Absorbed (F : BlockFunction α σ) where
  chained : σ
  pending : List α
  pending_lt : pending.length < F.blockSize

variable {F : BlockFunction α σ}

/-- Nothing absorbed since a chaining value. -/
def start (F : BlockFunction α σ) (chained : σ) : F.Absorbed := ⟨chained, [], F.blockSize_pos⟩

/-- Absorbs one item; the item that completes a block compresses it. -/
def absorbItem (state : F.Absorbed) (item : α) : F.Absorbed :=
  if hfull : state.pending.length + 1 = F.blockSize then
    F.start (F.compress state.chained (state.pending ++ [item]))
  else
    ⟨state.chained, state.pending ++ [item], by
      have := state.pending_lt
      rw [List.length_append, List.length_singleton]
      omega⟩

/-- Absorbs a piece of a message. -/
def absorb (state : F.Absorbed) (piece : List α) : F.Absorbed := piece.foldl absorbItem state

@[simp] theorem absorb_nil (state : F.Absorbed) : absorb state [] = state := rfl

theorem absorb_append (state : F.Absorbed) (first second : List α) :
    absorb state (first ++ second) = absorb (absorb state first) second :=
  List.foldl_append

/-- A piece that leaves the block open is kept. -/
theorem absorb_of_lt {state : F.Absorbed} {piece : List α}
    (hopen : state.pending.length + piece.length < F.blockSize) :
    absorb state piece = ⟨state.chained, state.pending ++ piece, by simpa using hopen⟩ := by
  induction piece generalizing state with
  | nil => simp
  | cons item rest ih =>
    rw [List.length_cons] at hopen
    have hitem : absorbItem state item =
        ⟨state.chained, state.pending ++ [item], by simp; omega⟩ :=
      dif_neg (by omega)
    change absorb (absorbItem state item) rest = _
    rw [hitem, ih (by simp; omega)]
    simp

/-- A piece that completes the block compresses it. -/
theorem absorb_of_eq {state : F.Absorbed} {piece : List α}
    (hfull : state.pending.length + piece.length = F.blockSize) :
    absorb state piece = F.start (F.compress state.chained (state.pending ++ piece)) := by
  have hpos := state.pending_lt
  obtain ⟨front, item, rfl⟩ : ∃ front item, piece = front ++ [item] := by
    have hne : piece ≠ [] := by
      rintro rfl
      simp at hfull
      omega
    exact ⟨_, _, (List.dropLast_append_getLast hne).symm⟩
  rw [List.length_append, List.length_singleton] at hfull
  have hfront : state.pending.length + front.length < F.blockSize := by omega
  rw [absorb_append, absorb_of_lt hfront]
  change absorbItem _ item = _
  rw [absorbItem, dif_pos (by simp; omega)]
  simp

/-- Blocks are compressed one after the other. -/
theorem absorb_blocks {pieces : List (List α)} (hpieces : ∀ piece ∈ pieces,
    piece.length = F.blockSize) (chained : σ) :
    absorb (F.start chained) pieces.flatten = F.start (pieces.foldl F.compress chained) := by
  induction pieces generalizing chained with
  | nil => rfl
  | cons piece rest ih =>
    have hpiece : piece.length = F.blockSize := hpieces piece (List.mem_cons_self ..)
    have hfirst : absorb (F.start chained) piece = F.start (F.compress chained piece) :=
      absorb_of_eq (by simpa [start] using hpiece)
    rw [List.flatten_cons, absorb_append, hfirst,
      ih fun other hother ↦ hpieces other (List.mem_cons_of_mem _ hother)]
    rfl

/-- A message of whole blocks leaves nothing pending. -/
theorem absorb_eq_start {message : List α} {count : ℕ}
    (hlength : message.length = count * F.blockSize) (chained : σ) :
    absorb (F.start chained) message = F.start (F.chain chained message) := by
  have hcount : message.length / F.blockSize = count := by
    rw [hlength, Nat.mul_div_cancel _ F.blockSize_pos]
  rw [chain, hcount, ← absorb_blocks fun piece hpiece ↦
    length_of_mem_blocks hlength.ge hpiece, flatten_blocks hlength]

/-- The number of pending items is what is left of the length over whole blocks. -/
theorem length_pending_absorb (state : F.Absorbed) (piece : List α) :
    (absorb state piece).pending.length = (state.pending.length + piece.length) % F.blockSize := by
  induction piece generalizing state with
  | nil =>
    rw [absorb_nil, List.length_nil, Nat.add_zero, Nat.mod_eq_of_lt state.pending_lt]
  | cons item rest ih =>
    change (absorb (absorbItem state item) rest).pending.length = _
    rw [ih, absorbItem, List.length_cons]
    split_ifs with hfull
    · have hsum : state.pending.length + (rest.length + 1) = rest.length + F.blockSize := by omega
      rw [hsum, Nat.add_mod_right]
      simp [start]
    · rw [List.length_append, List.length_singleton]
      congr 1
      omega

end BlockFunction

/-! ### Keyed hashes -/

/-- The keyed hash over an unkeyed one with blocks of `size` bytes: a longer key is hashed first,
the key is filled up with zeros, and the inner digest is hashed again behind the outer pad. -/
def hmac (hash : List UInt8 → List UInt8) (size : ℕ) (key text : List UInt8) : List UInt8 :=
  let short := if key.length ≤ size then key else hash key
  let block := short ++ List.replicate (size - short.length) 0
  hash (block.map (· ^^^ 0x5C) ++ hash (block.map (· ^^^ 0x36) ++ text))

end Digest
