/-
Module: MqttFileTransfer.Model.SendFile
Layer: Model
Purpose: One file's transfer: publish_file's read-and-publish loop (lines 259-306) and
  send_file (lines 336-417). The loop keeps the source's C types: `offset` is a `size_t`,
  `file_size` a `long` compared with it as `unsigned long`, `chunk_size` an `unsigned int`. It
  ends when `fread` returns 0 bytes or `offset` reaches `file_size`; `loopMeasure` (the unsigned
  distance `file_size - offset`, or that plus 2^64 while `chunk_size` still exceeds it) falls at
  every other iteration, so the loop is a total function for every behaviour of the reads.
Trusted boundary: none beyond `Proc`'s and `Model.Publish`'s: the chunk topic is formatted
  into a TOPIC_LEN buffer under the bound BUF_SIZE, and a chunk topic of 1024 to 10239 bytes is
  published whole where the program writes past that buffer.
Main exports: loopMeasure, publishFileLoop, publishFile, clampChunkSize, sendFile
-/
import MqttFileTransfer.Model.Publish

namespace MqttFileTransfer

/-- The quantity publish_file's loop lowers at every iteration that goes on: the `size_t`
distance from `offset` to `file_size`, raised by 2^64 while `chunk_size` exceeds it. -/
def loopMeasure (fileSize : Int) (offset chunkSize : Nat) : Nat :=
  if chunkSize ≤ ulongSub (toULong fileSize) offset then ulongSub (toULong fileSize) offset
  else ulongSub (toULong fileSize) offset + 2 ^ 64

/-- The `chunk_size` of the next iteration: `file_size - offset` (as `unsigned int`) when the
current one exceeds it, else unchanged. -/
def nextChunkSize (fileSize : Int) (offset chunkSize : Nat) : Nat :=
  if chunkSize > ulongSub (toULong fileSize) offset then
    ulongSub (toULong fileSize) offset % 2 ^ 32
  else chunkSize

/-- The next chunk size never exceeds the distance left. -/
theorem nextChunkSize_le (fileSize : Int) (offset chunkSize : Nat) :
    nextChunkSize fileSize offset chunkSize ≤ ulongSub (toULong fileSize) offset := by
  unfold nextChunkSize; split <;> omega

/-- Within the size, the next chunk size is the smaller of the chunk size and what is left. -/
theorem nextChunkSize_of_le {size offset chunkSize : Nat} (within : offset ≤ size)
    (fits : size < 2 ^ 64) (small : chunkSize < 2 ^ 32) :
    nextChunkSize size offset chunkSize = min chunkSize (size - offset) := by
  unfold nextChunkSize
  rw [show toULong size = size by unfold toULong; omega, ulongSub_of_le within fits]
  split <;> omega

/-- One iteration that goes on lowers the measure. -/
theorem loopMeasure_next_lt {fileSize : Int} {offset chunkSize read : Nat}
    (nonempty : 0 < read) (bounded : read ≤ chunkSize) :
    loopMeasure fileSize ((offset + read) % 2 ^ 64)
        (nextChunkSize fileSize ((offset + read) % 2 ^ 64) chunkSize) <
      loopMeasure fileSize offset chunkSize := by
  have shrunk := nextChunkSize_le fileSize ((offset + read) % 2 ^ 64) chunkSize
  have fits := toULong_lt fileSize
  unfold loopMeasure
  rw [if_pos shrunk]
  unfold ulongSub at *
  split <;> omega

/-- The while loop of publish_file from `offset` with the current `chunk_size`: read up to
`chunk_size` bytes; stop with 0 on an empty read; publish them on `$file/{file_id}/{offset}`
(-1 when the topic check or the publish fails); sleep `interval`; advance `offset`; stop with 0
when it equals `file_size`; shrink `chunk_size` to what is left. The topic check is against
BUF_SIZE, not the TOPIC_LEN buffer: a topic between the two is published whole in the model and
overflows the buffer in the program (see `Model.Publish`). -/
def publishFileLoop (fileId : Option Bytes) (fileSize : Int) (interval : Nat)
    (offset chunkSize : Nat) : Proc Int := do
  let ⟨payload, bounded⟩ ← fread chunkSize
  if empty : payload.length = 0 then pure 0
  else do
    let rc ← publishFormatted [(chunkTopic fileId offset, bufSize)] (chunkTopic fileId offset)
      payload
    if rc ≠ 0 then pure (-1)
    else do
      nngMsleep (toInt interval)
      if reached : (offset + payload.length) % 2 ^ 64 = toULong fileSize then pure 0
      else
        publishFileLoop fileId fileSize interval ((offset + payload.length) % 2 ^ 64)
          (nextChunkSize fileSize ((offset + payload.length) % 2 ^ 64) chunkSize)
termination_by loopMeasure fileSize offset chunkSize
decreasing_by exact loopMeasure_next_lt (Nat.pos_of_ne_zero empty) bounded

/-- One iteration of publish_file's loop spelled out: the read, then the five ways the
iteration ends (empty read, topic too long, publish not sent, offset reached, or on to the
next iteration with the history extended by this one's effects). -/
theorem publishFileLoop_apply (fileId : Option Bytes) (fileSize : Int)
    (interval offset chunkSize : Nat) (env : Env) (past : List Effect) :
    publishFileLoop fileId fileSize interval offset chunkSize env past =
      let payload := env.fread past chunkSize
      let topic := chunkTopic fileId offset
      let sent := env.sendmsg (past ++ [.fread chunkSize payload]) topic payload
      let offset' := (offset + payload.length) % 2 ^ 64
      let iteration :=
        [Effect.fread chunkSize payload, .publish topic payload true, .msleep (toInt interval)]
      if payload.length = 0 then (0, [.fread chunkSize payload])
      else if bufSize ≤ topic.length then (-1, [.fread chunkSize payload])
      else if sent = false then (-1, [.fread chunkSize payload, .publish topic payload false])
      else if offset' = toULong fileSize then (0, iteration)
      else
        let rest := publishFileLoop fileId fileSize interval offset'
          (nextChunkSize fileSize offset' chunkSize) env (past ++ iteration)
        (rest.1, iteration ++ rest.2) := by
  rw [publishFileLoop]
  simp only [Proc.bind_apply, fread_apply, Proc.dite_apply, Proc.ite_apply]
  by_cases empty : (env.fread past chunkSize).length = 0
  · simp only [empty, ↓reduceDIte, ↓reduceIte, Proc.pure_apply, List.append_nil]
  by_cases overflow : bufSize ≤ (chunkTopic fileId offset).length
  · rw [publishFormatted_of_overflow (by simpa using overflow)]
    simp only [empty, overflow, ↓reduceDIte, ↓reduceIte]
    rfl
  rw [publishFormatted_of_fits (by simpa using overflow)]
  cases env.sendmsg (past ++ [.fread chunkSize (env.fread past chunkSize)])
    (chunkTopic fileId offset) (env.fread past chunkSize)
  · simp [empty, overflow]
  by_cases reached : (offset + (env.fread past chunkSize).length) % 2 ^ 64 = toULong fileSize
  · simp [empty, overflow, reached, nngMsleep, -Nat.reducePow]
  · simp [empty, overflow, reached, nngMsleep, -Nat.reducePow]

/-- publish_file: the loop from offset 0. -/
def publishFile (fileId : Option Bytes) (fileSize : Int) (chunkSize interval : Nat) : Proc Int :=
  publishFileLoop fileId fileSize interval 0 chunkSize

/-- send_file's clamp of the requested chunk size: 10240 when it is 0 or above 10240. -/
def clampChunkSize (chunkSize : Nat) : Nat :=
  if chunkSize > 10240 ∨ chunkSize = 0 then 10240 else chunkSize

/-- send_file: clamp the chunk size, open the file, take a shared lock (a failure is only
logged), read the size, publish the initial message, the chunks and, once the lock is released
and the file closed, the fin message. Every failure returns -1, closing the file when it was
open. The `feof` check after the loop only logs. -/
def sendFile (filePath fileId fileName : Option Bytes) (chunkSize interval : Nat)
    (expireTime segmentsTtl : Nat) : Proc Int := do
  let opened ← fopen filePath
  if !opened then pure (-1)
  else do
    let isLock ← flock .sh
    let fileSize ← ftell
    let rc ← publishInitial fileId fileName fileSize expireTime segmentsTtl
    if rc ≠ 0 then do
      fclose
      pure (-1)
    else do
      let rc ← publishFile fileId fileSize (clampChunkSize chunkSize) interval
      if rc ≠ 0 then do
        fclose
        pure (-1)
      else do
        if isLock then do
          let _ ← flock .un
        fclose
        let rc ← publishFin fileId fileSize
        pure (if rc ≠ 0 then -1 else 0)

end MqttFileTransfer
