/-
Module: MqttFileTransfer.Proofs.SendFile
Layer: Proofs
Purpose: What send_file publishes, for every behaviour of the file and the broker.
  `sendFile_some_apply` spells out one run of send_file on a path: the open, the lock, the size,
  then the three publish stages, each guarded by the one before, with the close on every path
  after a successful open. `sendFile_transferRun` lifts the run lemma of publish_file's loop to
  the whole transfer: the attempts are a prefix of init, chunks, fin, each but the last one sent,
  and all of them, sent, when send_file returns 0. `sendFile_deletions`: send_file deletes
  nothing. `sendFile_succeeded` inverts a run that returned 0, and `sendFile_ending` splits
  every run into a part that sends no empty payload and its end, nothing or the fin; from it,
  send_file returns 0 exactly when its last effect is the fin, sent
  (`sendFile_returnsZero_iff`).
Trusted boundary: none
Main exports: sendFile_some_apply, sendFile_ne_nil, sendFile_transferRun, sendFile_deletions,
  sendFile_succeeded, sendFile_ending, sendFile_returnsZero_iff
-/
import MqttFileTransfer.Proofs.PublishFile

namespace MqttFileTransfer

/-- One run of send_file on a path, stage by stage. -/
theorem sendFile_some_apply (path : Bytes) (fileId fileName : Option Bytes)
    (chunkSize interval expireTime segmentsTtl : Nat) (env : Env) (past : List Effect) :
    sendFile (some path) fileId fileName chunkSize interval expireTime segmentsTtl env past =
      if env.fopen past path = false then (-1, [.fopen (some path) false])
      else
        let locked := env.flock (past ++ [.fopen (some path) true]) .sh
        let size := env.ftell (past ++ [.fopen (some path) true, .flock .sh locked])
        let opened := [Effect.fopen (some path) true, .flock .sh locked, .ftell size]
        let initial :=
          publishInitial fileId fileName size expireTime segmentsTtl env (past ++ opened)
        if initial.1 ≠ 0 then (-1, opened ++ initial.2 ++ [.fclose])
        else
          let chunks := publishFile fileId size (clampChunkSize chunkSize) interval env
            (past ++ opened ++ initial.2)
          if chunks.1 ≠ 0 then (-1, opened ++ initial.2 ++ chunks.2 ++ [.fclose])
          else
            let unlock := if locked then
                [Effect.flock .un (env.flock (past ++ opened ++ initial.2 ++ chunks.2) .un)]
              else []
            let fin := publishFin fileId size env
              (past ++ opened ++ initial.2 ++ chunks.2 ++ unlock ++ [.fclose])
            (if fin.1 ≠ 0 then -1 else 0,
              opened ++ initial.2 ++ chunks.2 ++ unlock ++ [.fclose] ++ fin.2) := by
  unfold sendFile
  cases opened : env.fopen past path
  · simp [opened]
  · cases locked : env.flock (past ++ [.fopen (some path) true]) .sh <;>
      simp [opened, locked, fclose] <;> split_ifs <;> simp

/-- Every run of send_file has an effect: it starts with the `fopen`. -/
theorem sendFile_ne_nil (filePath fileId fileName : Option Bytes)
    (chunkSize interval expireTime segmentsTtl : Nat) (env : Env) (past : List Effect) :
    (sendFile filePath fileId fileName chunkSize interval expireTime segmentsTtl env past).2 ≠
      [] :=
  Proc.bind_ne_nil (by cases filePath <;> simp [fopen])

/-- A run of send_file that publishes nothing. -/
private theorem transferRun_silent {fileId fileName : Option Bytes} {expireTime segmentsTtl : Nat}
    {run : Int × List Effect} (silent : publishes run.2 = []) (failed : run.1 = -1) :
    TransferRun fileId fileName expireTime segmentsTtl run :=
  ⟨[], silent, ⟨0, [], by simp, by simp⟩, by simp [failed]⟩

/-- Every run of send_file publishes a prefix of one transfer, each attempt but the last one
sent, and the whole transfer, sent, when it returns 0. -/
theorem sendFile_transferRun (filePath fileId fileName : Option Bytes)
    (chunkSize interval expireTime segmentsTtl : Nat) (env : Env) (past : List Effect) :
    TransferRun fileId fileName expireTime segmentsTtl
      (sendFile filePath fileId fileName chunkSize interval expireTime segmentsTtl env past) := by
  cases filePath with
  | none => exact transferRun_silent rfl rfl
  | some path =>
    rw [sendFile_some_apply]
    split_ifs with notOpened
    · exact transferRun_silent rfl rfl
    simp only []
    set size := env.ftell (past ++ [.fopen (some path) true,
      .flock .sh (env.flock (past ++ [.fopen (some path) true]) .sh)])
    -- the three stages, each by its own run lemma
    generalize hinit : publishInitial fileId fileName size expireTime segmentsTtl env _ = initial
    have initialShape :=
      hinit ▸ publishInitial_cases fileId fileName size expireTime segmentsTtl env _
    clear hinit
    generalize hchunks : publishFile fileId size (clampChunkSize chunkSize) interval env _ = chunks
    have chunkRun : ChunkAttempts fileId 0 chunks :=
      hchunks ▸ publishFileLoop_chunkAttempts _ _ _ _ _ _ _
    clear hchunks
    generalize hfin : publishFin fileId size env _ = fin
    have finShape := hfin ▸ publishFin_cases fileId size env _
    clear hfin
    rcases initialShape with rfl | ⟨sentInit, rfl⟩
    · exact transferRun_silent (by simp) rfl
    cases sentInit
    · exact ⟨[(.init fileId fileName size expireTime segmentsTtl, false)],
        by simp [encode, Message.topic, Message.payload],
        ⟨size, [], by simp [transferMessages], by simp⟩, by simp⟩
    obtain ⟨datas, attempts, published, messages, sentBefore, outcome⟩ := chunkRun
    have initSent : (Message.init fileId fileName size expireTime segmentsTtl, true).2 = true := rfl
    simp only [↓reduceIte, ne_eq, not_true_eq_false]
    by_cases chunksFailed : chunks.1 = 0
    swap
    · -- the chunk loop failed: init, then the chunk attempts
      rw [if_pos chunksFailed]
      exact ⟨(.init fileId fileName size expireTime segmentsTtl, true) :: attempts,
        by simp [published, encode, Message.topic, Message.payload],
        ⟨size, datas, by simp [messages, transferMessages],
          sent_dropLast_cons initSent sentBefore⟩,
        by simp⟩
    rw [if_neg (not_not_intro chunksFailed)]
    have allSent : ∀ attempt ∈ attempts, attempt.2 = true := by
      rcases outcome with ⟨-, allSent⟩ | failed
      · exact allSent
      · simp [failed] at chunksFailed
    obtain rfl := eq_map_sent messages allSent
    rcases finShape with rfl | ⟨sentFin, rfl⟩
    · -- the fin topic does not fit: init and every chunk, all sent
      exact ⟨(.init fileId fileName size expireTime segmentsTtl, true) ::
          (chunkMessages fileId 0 datas).map (·, true),
        by simp [published, encode, Message.topic, Message.payload, apply_ite publishes],
        ⟨size, datas, by simp [transferMessages, Function.comp_def],
          sent_dropLast_cons initSent sentBefore⟩, by simp⟩
    cases sentFin
    · -- every message attempted, only the fin not sent
      exact ⟨(.init fileId fileName size expireTime segmentsTtl, true) ::
          (chunkMessages fileId 0 datas).map (·, true) ++ [(.fin fileId size, false)],
        by simp [published, encode, Message.topic, Message.payload, apply_ite publishes],
        ⟨size, datas, by simp [transferMessages, Function.comp_def],
          by rw [List.dropLast_concat]; simp⟩, by simp⟩
    · have complete : TransferComplete fileId fileName expireTime segmentsTtl
          ((transferMessages fileId fileName size expireTime segmentsTtl datas).map (·, true)) :=
        ⟨size, datas, rfl⟩
      exact ⟨_, by simp [published, encode, Message.topic, Message.payload, apply_ite publishes,
        transferMessages], complete.attempts, fun _ => complete⟩

/-- A publish stage deletes nothing. -/
theorem publishFormatted_deletions (checks : List (Bytes × Nat)) (topic payload : Bytes)
    (env : Env) (past : List Effect) :
    deletions (publishFormatted checks topic payload env past).2 = [] := by
  rcases publishFormatted_cases checks topic payload env past with h | ⟨_, h⟩ <;> simp [h]

/-- send_file deletes nothing. -/
theorem sendFile_deletions (filePath fileId fileName : Option Bytes)
    (chunkSize interval expireTime segmentsTtl : Nat) (env : Env) (past : List Effect) :
    deletions
      (sendFile filePath fileId fileName chunkSize interval expireTime segmentsTtl env past).2 =
      [] := by
  cases filePath with
  | none => rfl
  | some path =>
    rw [sendFile_some_apply]
    simp only [publishInitial, publishFin, publishFile]
    split_ifs <;> simp [publishFormatted_deletions, publishFileLoop_deletions]

/-- A run of send_file that returns 0, stage by stage: it opened its path; the open, the lock
attempt and the size query; the init message, sent; the run of publish_file after them, which
returned 0; an unlock only after a successful lock; the close; the fin message, sent. -/
theorem sendFile_succeeded {filePath fileId fileName : Option Bytes}
    {chunkSize interval expireTime segmentsTtl : Nat} {env : Env} {past : List Effect}
    (succeeded :
      (sendFile filePath fileId fileName chunkSize interval expireTime segmentsTtl env past).1 = 0) :
    ∃ (path : Bytes) (locked : Bool) (size : Int) (unlock : List Effect), filePath = some path ∧
      size = env.ftell (past ++ [.fopen (some path) true, .flock .sh locked]) ∧
      (publishFile fileId size (clampChunkSize chunkSize) interval env
        (past ++ [.fopen (some path) true, .flock .sh locked, .ftell size,
          .publish (initTopic fileId) (initialPayload fileName size expireTime segmentsTtl) true])).1 =
        0 ∧
      (sendFile filePath fileId fileName chunkSize interval expireTime segmentsTtl env past).2 =
        [.fopen (some path) true, .flock .sh locked, .ftell size,
            .publish (initTopic fileId) (initialPayload fileName size expireTime segmentsTtl) true] ++
          (publishFile fileId size (clampChunkSize chunkSize) interval env
            (past ++ [.fopen (some path) true, .flock .sh locked, .ftell size,
              .publish (initTopic fileId) (initialPayload fileName size expireTime segmentsTtl)
                true])).2 ++
          unlock ++ [.fclose, .publish (finTopic fileId size) [] true] ∧
      (unlock = [] ∨ locked = true ∧ ∃ unlocked, unlock = [.flock .un unlocked]) := by
  cases filePath with
  | none => cases succeeded
  | some path =>
    rw [sendFile_some_apply] at succeeded ⊢
    by_cases notOpened : env.fopen past path = false
    · simp [notOpened] at succeeded
    rw [if_neg notOpened] at succeeded ⊢
    simp only [] at succeeded ⊢
    generalize env.flock (past ++ [.fopen (some path) true]) .sh = locked at succeeded ⊢
    generalize measured : env.ftell (past ++ [.fopen (some path) true, .flock .sh locked]) = size
      at succeeded ⊢
    generalize hinit : publishInitial fileId fileName size expireTime segmentsTtl env _ = initial
      at succeeded ⊢
    have initialShape := hinit ▸ publishInitial_cases fileId fileName size expireTime segmentsTtl env _
    generalize hfin : publishFin fileId size env _ = fin at succeeded ⊢
    have finShape := hfin ▸ publishFin_cases fileId size env _
    rcases initialShape with rfl | ⟨sentInit, rfl⟩
    · simp at succeeded
    cases sentInit
    · simp at succeeded
    simp only [ite_true, ne_eq, not_true_eq_false, if_false, List.append_assoc,
      List.cons_append, List.nil_append] at succeeded hfin ⊢
    by_cases chunksFailed : (publishFile fileId size (clampChunkSize chunkSize) interval env
      (past ++ [.fopen (some path) true, .flock .sh locked, .ftell size,
        .publish (initTopic fileId) (initialPayload fileName size expireTime segmentsTtl) true])).1 = 0
    swap
    · simp [chunksFailed] at succeeded
    rcases finShape with rfl | ⟨sentFin, rfl⟩
    · simp [chunksFailed] at succeeded
    cases sentFin
    · simp [chunksFailed] at succeeded
    cases locked
    · exact ⟨path, false, size, [], rfl, measured.symm, chunksFailed, by simp [chunksFailed],
        .inl rfl⟩
    · generalize env.flock _ .un = unlocked at hfin ⊢
      exact ⟨path, true, size, [.flock .un unlocked], rfl, measured.symm, chunksFailed,
        by simp [chunksFailed], .inr ⟨rfl, _, rfl⟩⟩

/-- The initial payload is never empty: it opens with a brace. -/
theorem initialPayload_ne_nil (fileName : Option Bytes) (fileSize : Int)
    (expireTime segmentsTtl : Nat) : initialPayload fileName fileSize expireTime segmentsTtl ≠ [] := by
  simp [initialPayload, ascii]

/-- Every run of send_file, by how it ends: a part that sends no empty payload, then either
nothing, the run having returned -1, or the fin message, the run returning 0 exactly when the
fin was sent. -/
theorem sendFile_ending (filePath fileId fileName : Option Bytes)
    (chunkSize interval expireTime segmentsTtl : Nat) (env : Env) (past : List Effect) :
    ∃ body ending, (sendFile filePath fileId fileName chunkSize interval expireTime segmentsTtl
        env past).2 = body ++ ending ∧ (publishes body).countP sentEmpty = 0 ∧
      (ending = [] ∧ (sendFile filePath fileId fileName chunkSize interval expireTime segmentsTtl
          env past).1 = -1 ∨
        ∃ size sent, ending = [.publish (finTopic fileId size) [] sent] ∧
          (sendFile filePath fileId fileName chunkSize interval expireTime segmentsTtl env
            past).1 = if sent then 0 else -1) := by
  cases filePath with
  | none => exact ⟨[.fopen none false], [], rfl, rfl, .inl ⟨rfl, rfl⟩⟩
  | some path =>
    rw [sendFile_some_apply]
    by_cases notOpened : env.fopen past path = false
    · rw [if_pos notOpened]
      exact ⟨[.fopen (some path) false], [], rfl, rfl, .inl ⟨rfl, rfl⟩⟩
    rw [if_neg notOpened]
    simp only []
    generalize env.flock (past ++ [.fopen (some path) true]) .sh = locked
    generalize env.ftell (past ++ [.fopen (some path) true, .flock .sh locked]) = size
    generalize hinit : publishInitial fileId fileName size expireTime segmentsTtl env _ = initial
    -- the opening and the init publish send no empty payload
    have quietInit : (publishes initial.2).countP sentEmpty = 0 := by
      rcases hinit ▸ publishInitial_cases fileId fileName size expireTime segmentsTtl env _ with
        same | ⟨sent, same⟩ <;> rw [same]
      · rfl
      · simp [sentEmpty, initialPayload_ne_nil]
    by_cases initialFailed : initial.1 ≠ 0
    · rw [if_pos initialFailed]
      exact ⟨_, [], (List.append_nil _).symm, by simp [quietInit], .inl ⟨rfl, rfl⟩⟩
    rw [if_neg initialFailed]
    generalize hchunks : publishFile fileId size (clampChunkSize chunkSize) interval env _ = chunks
    have quietChunks : (publishes chunks.2).countP sentEmpty = 0 :=
      hchunks ▸ publishFileLoop_sentEmpty fileId size interval env 0 (clampChunkSize chunkSize) _
    by_cases chunksFailed : chunks.1 ≠ 0
    · rw [if_pos chunksFailed]
      exact ⟨_, [], (List.append_nil _).symm, by simp [quietInit, quietChunks], .inl ⟨rfl, rfl⟩⟩
    rw [if_neg chunksFailed]
    generalize hfin : publishFin fileId size env _ = fin
    refine ⟨_, fin.2, rfl, by split <;> simp [quietInit, quietChunks], ?_⟩
    rcases hfin ▸ publishFin_cases fileId size env _ with same | ⟨sent, same⟩ <;> rw [same]
    · exact .inl ⟨rfl, rfl⟩
    · exact .inr ⟨size, sent, rfl, by cases sent <;> rfl⟩

/-- send_file's return value tells what the run did last: it returns 0 exactly when its last
effect is the fin message, sent; a run that fails ends with anything else. -/
theorem sendFile_returnsZero_iff (filePath fileId fileName : Option Bytes)
    (chunkSize interval expireTime segmentsTtl : Nat) (env : Env) (past : List Effect) :
    (sendFile filePath fileId fileName chunkSize interval expireTime segmentsTtl env past).1 = 0 ↔
      ∃ size, (sendFile filePath fileId fileName chunkSize interval expireTime segmentsTtl env
        past).2.getLast? = some (.publish (finTopic fileId size) [] true) := by
  obtain ⟨body, ending, effects, quiet, outcome⟩ :=
    sendFile_ending filePath fileId fileName chunkSize interval expireTime segmentsTtl env past
  rw [effects]
  rcases outcome with ⟨rfl, failed⟩ | ⟨size, sent, rfl, result⟩
  · -- a failed run ends inside its body, which sends no empty payload
    rw [failed, List.append_nil]
    refine ⟨fun negative => absurd negative (by decide), fun ⟨size, last⟩ => absurd quiet ?_⟩
    have sentFin : (finTopic fileId size, [], true) ∈ publishes body :=
      List.mem_filterMap.mpr ⟨_, List.mem_of_getLast?_eq_some last, rfl⟩
    exact (List.countP_pos_iff.mpr ⟨_, sentFin, rfl⟩).ne'
  · rw [result, List.getLast?_append, List.getLast?_singleton]
    cases sent
    · simp
    · exact ⟨fun _ => ⟨size, rfl⟩, fun _ => rfl⟩

end MqttFileTransfer
