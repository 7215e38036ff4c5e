/-
Module: MqttFileTransfer.Proofs.PublishedBytes
Layer: Proofs
Purpose: How many payload bytes publish_file publishes. Its loop lowers `chunk_size` to
  `file_size - offset` only after a chunk, so what it publishes is bounded by the size exactly
  when the first chunk size is within the size: from there every run publishes at most
  `file_size` bytes, whatever the reads return (`publishFile_bytesPublished_le`, by induction
  along the loop with the bytes left as the bound). A first chunk size beyond the size breaks the
  bound at the first read (`publishFile_zeroDevice`, a device that `ftell` measures at 0 bytes).
Trusted boundary: none beyond `Proc`'s.
Main exports: publishFileLoop_bytesPublished_le, publishFile_bytesPublished_le,
  publishFile_zeroDevice
-/
import MqttFileTransfer.Proofs.StableFile

namespace MqttFileTransfer

/-- From an offset within the size and with a chunk size within what is left, publish_file's
loop publishes at most the bytes left, whatever the reads return. -/
theorem publishFileLoop_bytesPublished_le (fileId : Option Bytes) (size interval : Nat)
    (long : size < 2 ^ 63) (env : Env) (offset chunkSize : Nat) (past : List Effect)
    (within : offset ≤ size) (bounded : chunkSize ≤ size - offset) :
    bytesPublished (publishFileLoop fileId size interval offset chunkSize env past).2 ≤
      size - offset := by
  induction offset, chunkSize using publishFileLoop.induct fileId size interval
    generalizing past with
  | case1 offset chunkSize inductionHypothesis =>
      have read := env.fread_le past chunkSize
      rw [publishFileLoop_apply]
      simp only []
      split_ifs with empty overflow unsent reached
      · simp
      · simp
      · simp; omega
      · simp; omega
      · -- the loop goes on from the new offset, with at most what is left as its chunk size
        have moved : (offset + (env.fread past chunkSize).length) % 2 ^ 64 =
            offset + (env.fread past chunkSize).length := Nat.mod_eq_of_lt (by omega)
        have next := nextChunkSize_le size ((offset + (env.fread past chunkSize).length) % 2 ^ 64)
          chunkSize
        rw [show toULong size = size by unfold toULong; omega, moved,
          ulongSub_of_le (by omega) (by omega)] at next
        have rest := inductionHypothesis (env.fread past chunkSize) read empty
          (past ++ [.fread chunkSize (env.fread past chunkSize),
            .publish (chunkTopic fileId offset) (env.fread past chunkSize) true,
            .msleep (toInt interval)])
          (by omega) (by rw [moved]; omega)
        rw [moved] at rest
        simp only [moved, bytesPublished_append, bytesPublished_cons, publishLength,
          bytesPublished_nil]
        omega

/-- When `ftell` reports a size of at least the chunk size, publish_file publishes at most that
many payload bytes, whatever the reads return. -/
theorem publishFile_bytesPublished_le (fileId : Option Bytes) (fileSize : Int)
    (chunkSize interval : Nat) (env : Env) (past : List Effect) (nonneg : 0 ≤ fileSize)
    (long : fileSize < 2 ^ 63) (fits : chunkSize ≤ fileSize) :
    bytesPublished (publishFile fileId fileSize chunkSize interval env past).2 ≤ fileSize.toNat := by
  obtain ⟨size, rfl⟩ := Int.eq_ofNat_of_zero_le nonneg
  exact publishFileLoop_bytesPublished_le fileId size interval (by omega) env 0 chunkSize past
    (Nat.zero_le _) (by omega)

/-- `hello world` in chunks of 4: at most its 11 bytes are published. -/
theorem publishFile_hello_bytesPublished :
    (0 : Int) ≤ 11 ∧ (11 : Int) < 2 ^ 63 ∧ ((4 : Nat) : Int) ≤ 11 ∧
      bytesPublished (publishFile (some (ascii "hello")) 11 4 0 helloFileSystem []).2 ≤
        (11 : Int).toNat :=
  ⟨by decide, by decide, by decide,
    publishFile_bytesPublished_le (some (ascii "hello")) 11 4 0 helloFileSystem []
      (by decide) (by decide) (by decide)⟩

/-- A device read as endless zero bytes, with `ftell` 0, such as `/dev/zero`. -/
def zeroDevice : Env where
  fopen _ _ := true
  flock _ _ := true
  ftell _ := 0
  ftell_long _ := by norm_num
  fread _ count := List.replicate count 0
  fread_le _ count := (List.length_replicate count 0).le
  sendmsg _ _ _ := true
  alloc _ := true

/-- publish_file on the zero device, whose size is 0, publishes a first chunk of 10240 bytes:
the truncation to what is left only happens after a chunk. -/
theorem publishFile_zeroDevice :
    (publishFile (some (ascii "z")) 0 10240 0 zeroDevice []).2.take 2 =
      [.fread 10240 (List.replicate 10240 0),
        .publish (chunkTopic (some (ascii "z")) 0) (List.replicate 10240 0) true] := by
  rw [publishFile, publishFileLoop_of_sent
    (show zeroDevice.fread [] 10240 = List.replicate 10240 0 from rfl)
    (List.ne_nil_of_length_pos (by rw [List.length_replicate]; decide)) (by decide) rfl,
    List.length_replicate, if_neg (by decide), List.take_append_of_le_length (by decide)]
  rfl

end MqttFileTransfer
