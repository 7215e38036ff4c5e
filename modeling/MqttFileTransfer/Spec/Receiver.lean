/-
Module: MqttFileTransfer.Spec.Receiver
Layer: Spec
Purpose: What a transfer is for: the file a receiver rebuilds from one file id's messages. The
  receiver stores the bytes of each chunk at the chunk's offset, a later chunk over an earlier
  one (`heldAt`), and at the fin accepts the file when the init and the fin announce the same
  size, no chunk reaches past it, and every byte below it is held; it then reads the file off
  in order (`assemble`). `assemble_transferMessages` is the round trip of the protocol: the
  messages of a transfer whose chunks follow each other from offset 0 rebuild the
  concatenation of the chunks exactly when the announced size is its length, for every size
  below 2^64, and are rejected otherwise. `readChunks` lists the bytes a run's reads returned,
  the empty reads left out.
Trusted boundary: none
Main exports: Message.storedAt, Message.chunkWithin, heldAt, readOut, assemble, readChunks,
  heldAt_chunkMessages, readOut_of_held, assemble_transferMessages
-/
import MqttFileTransfer.Spec.Protocol

namespace MqttFileTransfer

namespace Message

/-- The byte a chunk stores at `position`, when it covers it. -/
def storedAt : Message → Nat → Option UInt8
  | .chunk _ offset data, position => if offset ≤ position then data[position - offset]? else none
  | _, _ => none

/-- Whether a message is a chunk that ends at or before `size`. -/
def chunkWithin (size : Nat) : Message → Bool
  | .chunk _ offset data => offset + data.length ≤ size
  | _ => false

end Message

/-- The byte a receiver holds at `position` after some chunks: that of the last one covering
it. -/
def heldAt : List Message → Nat → Option UInt8
  | [], _ => none
  | message :: rest, position => (heldAt rest position).orElse fun _ => message.storedAt position

/-- The `count` bytes held from `start` on, or `none` when one of them is missing. -/
def readOut (held : Nat → Option UInt8) (start : Nat) : Nat → Option Bytes
  | 0 => some []
  | count + 1 =>
      match held start, readOut held (start + 1) count with
      | some byte, some rest => some (byte :: rest)
      | _, _ => none

/-- The file a receiver rebuilds from one transfer's messages: an init, chunks and a fin with the
init's size, which is not negative and which no chunk reaches past; the bytes below the size
read off the chunks, `none` when one is missing. -/
def assemble : List Message → Option Bytes
  | .init _ _ size _ _ :: rest =>
      match rest.getLast? with
      | some (.fin _ finSize) =>
          if size = finSize ∧ 0 ≤ size ∧ rest.dropLast.all (Message.chunkWithin size.toNat) then
            readOut (heldAt rest.dropLast) 0 size.toNat
          else none
      | _ => none
  | _ => none

/-- The bytes a read returned, when it returned some. -/
@[simp] def chunkOf : Effect → Option Bytes
  | .fread _ data => if data = [] then none else some data
  | _ => none

/-- The bytes the reads among some effects returned, read by read, the empty reads left out. -/
def readChunks (effects : List Effect) : List Bytes := effects.filterMap chunkOf

@[simp] theorem readChunks_nil : readChunks [] = [] := rfl

@[simp] theorem readChunks_append (first second : List Effect) :
    readChunks (first ++ second) = readChunks first ++ readChunks second :=
  List.filterMap_append _ _ _

@[simp] theorem readChunks_cons (effect : Effect) (rest : List Effect) :
    readChunks (effect :: rest) = (chunkOf effect).toList ++ readChunks rest := by
  cases h : chunkOf effect <;> simp only [readChunks, List.filterMap_cons, h] <;> rfl

/-! ### The chunks of a transfer -/

section Chunks

variable {fileId : Option Bytes}

/-- Chunks that follow each other from `offset` without wrapping hold the bytes of their
concatenation, from `offset` on. -/
theorem heldAt_chunkMessages (datas : List Bytes) (offset : Nat)
    (noWrap : offset + datas.flatten.length < 2 ^ 64) (position : Nat) :
    heldAt (chunkMessages fileId offset datas) position =
      if offset ≤ position then datas.flatten[position - offset]? else none := by
  induction datas generalizing offset with
  | nil => simp [chunkMessages, heldAt]
  | cons data datas inductionHypothesis =>
      simp only [List.flatten_cons, List.length_append] at noWrap ⊢
      rw [chunkMessages, Nat.mod_eq_of_lt (by omega), heldAt,
        inductionHypothesis _ (by omega)]
      simp only [Message.storedAt]
      by_cases before : offset ≤ position
      · by_cases inFirst : position - offset < data.length
        · rw [if_neg (by omega), if_pos before, if_pos before, List.getElem?_append_left inFirst]
          rfl
        · rw [if_pos (by omega), if_pos before, List.getElem?_append_right (by omega),
            show position - (offset + data.length) = position - offset - data.length by omega]
          cases datas.flatten[position - offset - data.length]? <;>
            simp [before, List.getElem?_eq_none (not_lt.mp inFirst)]
      · simp [before, show ¬offset + data.length ≤ position by omega]

/-- Chunks from `offset` that end by `size`, below 2^64, all stay within it. -/
theorem all_chunkWithin_of_le (datas : List Bytes) (offset size : Nat)
    (within : offset + datas.flatten.length ≤ size) (fits : size < 2 ^ 64) :
    (chunkMessages fileId offset datas).all (Message.chunkWithin size) = true := by
  induction datas generalizing offset with
  | nil => rfl
  | cons data datas inductionHypothesis =>
      simp only [List.flatten_cons, List.length_append] at within
      rw [chunkMessages, Nat.mod_eq_of_lt (by omega), List.all_cons,
        inductionHypothesis _ (by omega)]
      simp [Message.chunkWithin]
      omega

/-- Chunks from `offset` that all stay within a `size` below 2^64 end by it, unless there is
none. -/
theorem le_of_all_chunkWithin (datas : List Bytes) (offset size : Nat) (fits : size < 2 ^ 64)
    (within : (chunkMessages fileId offset datas).all (Message.chunkWithin size) = true) :
    offset + datas.flatten.length ≤ size ∨ datas = [] := by
  induction datas generalizing offset with
  | nil => exact .inr rfl
  | cons data datas inductionHypothesis =>
      rw [chunkMessages, List.all_cons, Bool.and_eq_true] at within
      have first : offset + data.length ≤ size := by simpa [Message.chunkWithin] using within.1
      rw [Nat.mod_eq_of_lt (by omega)] at within
      have rest := inductionHypothesis _ within.2
      left
      rcases rest with rest | rfl
      · simp only [List.flatten_cons, List.length_append]; omega
      · simpa using first

end Chunks

/-- Reading `count` bytes off a receiver that holds `bytes` from `start` on gives their first
`count`, when there are that many. -/
theorem readOut_of_held {held : Nat → Option UInt8} (bytes : Bytes) (start count : Nat)
    (holds : ∀ index, held (start + index) = bytes[index]?) :
    readOut held start count = if count ≤ bytes.length then some (bytes.take count) else none := by
  induction count generalizing start bytes with
  | zero => simp [readOut]
  | succ count inductionHypothesis =>
      have first := holds 0
      rw [Nat.add_zero] at first
      cases bytes with
      | nil => simp [readOut, first]
      | cons byte rest =>
          rw [readOut, first, inductionHypothesis rest (start + 1)
            fun index => by rw [Nat.add_assoc, Nat.add_comm 1, holds, List.getElem?_cons_succ]]
          by_cases enough : count ≤ rest.length <;> simp [enough]

/-- The round trip of the protocol: a receiver rebuilds, from a transfer whose chunks follow
each other from offset 0, the concatenation of the chunks exactly when the announced size is
its length; it rejects the transfer otherwise. -/
theorem assemble_transferMessages (fileId fileName : Option Bytes) {size : Int}
    (expireTime segmentsTtl : Nat) (datas : List Bytes) (fits : size < 2 ^ 64) :
    assemble (transferMessages fileId fileName size expireTime segmentsTtl datas) =
      if size = datas.flatten.length then some datas.flatten else none := by
  simp only [transferMessages, List.cons_append, assemble, List.getLast?_append,
    List.getLast?_singleton, Option.or_some, List.dropLast_concat, true_and]
  by_cases negative : size < 0
  · rw [if_neg (by omega), if_neg (by omega)]
  obtain ⟨n, rfl⟩ := Int.eq_ofNat_of_zero_le (not_lt.mp negative)
  simp only [Int.toNat_ofNat, Nat.cast_nonneg, true_and, Nat.cast_inj]
  have small : n < 2 ^ 64 := by exact_mod_cast fits
  by_cases within : datas.flatten.length ≤ n
  · rw [if_pos (all_chunkWithin_of_le datas 0 n (by omega) small),
      readOut_of_held datas.flatten 0 n fun index => by
        rw [heldAt_chunkMessages datas 0 (by omega), if_pos (Nat.zero_le _), Nat.zero_add,
          Nat.sub_zero]]
    by_cases exact : n = datas.flatten.length
    · rw [if_pos (by omega), if_pos exact, exact, List.take_length]
    · rw [if_neg (by omega), if_neg exact]
  · have tooLong : (chunkMessages fileId 0 datas).all (Message.chunkWithin n) = false := by
      cases all : (chunkMessages fileId 0 datas).all (Message.chunkWithin n)
      · rfl
      · rcases le_of_all_chunkWithin datas 0 n small all with ends | rfl
        · omega
        · simp at within
    rw [if_neg (by simp [tooLong]), if_neg (by omega)]

example : assemble (transferMessages none none 3 0 0 [[1, 2], [3]]) = some [1, 2, 3] := by decide

example : assemble (transferMessages none none 4 0 0 [[1, 2], [3]]) = none := by decide

end MqttFileTransfer
