/-
Module: MqttFileTransfer.Proofs.PublishFile
Layer: Proofs
Purpose: What publish_file's loop publishes, for every behaviour of the reads and the
  publishes. `publishFileLoop_chunkAttempts` is the run lemma: by induction along the loop's own
  recursion, every run attempts the chunk messages of the payloads it read, at offsets that
  advance by each payload's length, every attempt but the last one sent, and returns 0 only
  when all were sent. `publishFileLoop_deletions`: the loop deletes nothing. For runs on
  particular files, `publishFileLoop_of_empty` and `publishFileLoop_of_sent` give one iteration
  that reads nothing, or whose chunk fits and is sent. `publishFileLoop_sentEmpty`: the loop
  never sends an empty payload, which leaves the fin as the one message sent with one.
Trusted boundary: none
Main exports: chunkIteration, publishFileLoop_of_empty, publishFileLoop_of_sent,
  publishFileLoop_chunkAttempts, publishFileLoop_deletions, sentEmpty, publishFileLoop_sentEmpty
-/
import MqttFileTransfer.Spec.Protocol
import MqttFileTransfer.Model.SendFile

namespace MqttFileTransfer

/-! ### One iteration, by how it ends -/

section Iteration

variable {fileId : Option Bytes} {fileSize : Int} {interval offset chunkSize : Nat} {env : Env}
  {past : List Effect}

/-- The effects of an iteration of publish_file's loop that publishes `data` at `offset` and
has it sent: the read, the publish, the sleep. -/
def chunkIteration (fileId : Option Bytes) (interval offset chunkSize : Nat) (data : Bytes) :
    List Effect :=
  [.fread chunkSize data, .publish (chunkTopic fileId offset) data true, .msleep (toInt interval)]

@[simp] theorem publishes_chunkIteration (data : Bytes) :
    publishes (chunkIteration fileId interval offset chunkSize data) =
      [(chunkTopic fileId offset, data, true)] := rfl

/-- An empty read ends the loop with 0. -/
theorem publishFileLoop_of_empty (reads : env.fread past chunkSize = []) :
    publishFileLoop fileId fileSize interval offset chunkSize env past =
      (0, [.fread chunkSize []]) := by
  rw [publishFileLoop_apply]
  simp [reads]

/-- A nonempty read whose chunk topic fits and whose publish is sent: the loop stops with 0
when the new offset is the size, and goes on from it otherwise. -/
theorem publishFileLoop_of_sent {data : Bytes} (reads : env.fread past chunkSize = data)
    (nonempty : data ≠ []) (fits : (chunkTopic fileId offset).length < bufSize)
    (sent : env.sendmsg (past ++ [.fread chunkSize data]) (chunkTopic fileId offset) data = true) :
    publishFileLoop fileId fileSize interval offset chunkSize env past =
      if (offset + data.length) % 2 ^ 64 = toULong fileSize then
        (0, chunkIteration fileId interval offset chunkSize data)
      else
        ((publishFileLoop fileId fileSize interval ((offset + data.length) % 2 ^ 64)
            (nextChunkSize fileSize ((offset + data.length) % 2 ^ 64) chunkSize) env
            (past ++ chunkIteration fileId interval offset chunkSize data)).1,
          chunkIteration fileId interval offset chunkSize data ++
            (publishFileLoop fileId fileSize interval ((offset + data.length) % 2 ^ 64)
              (nextChunkSize fileSize ((offset + data.length) % 2 ^ 64) chunkSize) env
              (past ++ chunkIteration fileId interval offset chunkSize data)).2) := by
  subst reads
  rw [publishFileLoop_apply]
  simp only [List.length_eq_zero, nonempty, not_le.mpr fits, sent, Bool.true_eq_false,
    ↓reduceIte, chunkIteration]

end Iteration

/-! ### Every run -/

/-- Every run of publish_file's loop from `offset` attempts a chain of chunk messages from
`offset`, stopping at the first one not sent. -/
theorem publishFileLoop_chunkAttempts (fileId : Option Bytes) (fileSize : Int) (interval : Nat)
    (env : Env) (offset chunkSize : Nat) (past : List Effect) :
    ChunkAttempts fileId offset
      (publishFileLoop fileId fileSize interval offset chunkSize env past) := by
  induction offset, chunkSize using publishFileLoop.induct fileId fileSize interval
    generalizing past with
  | case1 offset chunkSize inductionHypothesis =>
      rw [publishFileLoop_apply]
      simp only
      split_ifs with empty overflow unsent reached
      · exact ⟨[], [], by simp, rfl, by simp, .inl ⟨rfl, by simp⟩⟩
      · exact ⟨[], [], by simp, rfl, by simp, .inr rfl⟩
      · exact ⟨[env.fread past chunkSize],
          [(.chunk fileId offset (env.fread past chunkSize), false)],
          by simp [encode, Message.topic, Message.payload], by simp [chunkMessages], by simp,
          .inr rfl⟩
      · exact ⟨[env.fread past chunkSize],
          [(.chunk fileId offset (env.fread past chunkSize), true)],
          by simp [encode, Message.topic, Message.payload], by simp [chunkMessages], by simp,
          .inl ⟨rfl, by simp⟩⟩
      · -- the iteration goes on: its sent chunk heads the attempts of the rest of the loop
        obtain ⟨datas, attempts, published, messages, sentBefore, outcome⟩ :=
          inductionHypothesis (env.fread past chunkSize) (env.fread_le past chunkSize) empty
            (past ++ [.fread chunkSize (env.fread past chunkSize),
              .publish (chunkTopic fileId offset) (env.fread past chunkSize) true,
              .msleep (toInt interval)])
        refine ⟨env.fread past chunkSize :: datas,
          (.chunk fileId offset (env.fread past chunkSize), true) :: attempts,
          by simp [encode, Message.topic, Message.payload, published, -Nat.reducePow],
          by simp [chunkMessages, messages], ?_, by simpa using outcome⟩
        cases attempts with
        | nil => simp
        | cons _ _ => simpa [List.dropLast_cons₂] using sentBefore

/-- publish_file's loop reads, publishes and sleeps, and deletes nothing. -/
theorem publishFileLoop_deletions (fileId : Option Bytes) (fileSize : Int) (interval : Nat)
    (env : Env) (offset chunkSize : Nat) (past : List Effect) :
    deletions (publishFileLoop fileId fileSize interval offset chunkSize env past).2 = [] := by
  induction offset, chunkSize using publishFileLoop.induct fileId fileSize interval
    generalizing past with
  | case1 offset chunkSize inductionHypothesis =>
      rw [publishFileLoop_apply]
      simp only
      split_ifs with empty
      · rfl
      · rfl
      · rfl
      · rfl
      · simp only [deletions_append, inductionHypothesis _ (env.fread_le past chunkSize) empty]
        rfl

/-- Whether a publish attempt was sent with an empty payload. Of the messages the client
publishes only a fin has one, so counting these counts the fins that were sent. -/
def sentEmpty : Bytes × Bytes × Bool → Bool
  | (_, payload, sent) => payload.isEmpty && sent

/-- publish_file's loop never sends an empty payload: it publishes only what a nonempty read
returned. -/
theorem publishFileLoop_sentEmpty (fileId : Option Bytes) (fileSize : Int) (interval : Nat)
    (env : Env) (offset chunkSize : Nat) (past : List Effect) :
    (publishes (publishFileLoop fileId fileSize interval offset chunkSize env past).2).countP
      sentEmpty = 0 := by
  induction offset, chunkSize using publishFileLoop.induct fileId fileSize interval
    generalizing past with
  | case1 offset chunkSize inductionHypothesis =>
      have nonempty : ∀ {sent}, sentEmpty (chunkTopic fileId offset, env.fread past chunkSize, sent) =
          false ∨ (env.fread past chunkSize).length = 0 := by
        cases env.fread past chunkSize <;> simp [sentEmpty]
      rw [publishFileLoop_apply]
      simp only
      split_ifs with empty
      · rfl
      · rfl
      · simp [sentEmpty]
      · simp [nonempty.resolve_right empty]
      · simp [inductionHypothesis _ (env.fread_le past chunkSize) empty,
          nonempty.resolve_right empty, -Nat.reducePow]

end MqttFileTransfer
