/-
Module: MqttFileTransfer.Proofs.Handles
Layer: Proofs
Purpose: A whole session of the client keeps the file handling of `handleRun`, for every
  sequence of received messages and every behaviour of the file system and the broker. The proof
  goes stage by stage and never unfolds a stage twice: send_file from a state with no stream
  open leaves none open, and when it returns 0 it finished the file of its own path
  (`sendFile_handles`, from the stages of `sendFile_some_apply`); the deletion branch run on that
  finished file leaves none open (`deleteAfterSend_handles`); the batch loop chains the two job
  after job (`sendJobs_keepsClosed`), process_msg adds the result publish
  (`processMsg_keepsClosed`), and the receive loop chains messages (`receiveLoop_keepsClosed`).
  With what the monitor's states mean, every deletion of a session is of a file the session
  opened, streamed, closed and finished with a sent fin (`startListening_deletesFinished`).
Trusted boundary: none
Main exports: sendFile_handles, deleteAfterSend_handles, sendJobs_keepsClosed,
  processMsg_keepsClosed, receiveLoop_keepsClosed, startListening_handles,
  startListening_deletesFinished
-/
import MqttFileTransfer.Spec.Handles
import MqttFileTransfer.Proofs.Batch
import MqttFileTransfer.Proofs.Stream

namespace MqttFileTransfer

section Steps

variable {state : HandleState}

theorem handleStep_fopen_failed (closed : state.isOpen = false) (path : Option Bytes) :
    handleStep state (.fopen path false) = some .idle := by
  cases state <;> cases path <;> first | rfl | cases closed

theorem handleStep_fopen_opened (closed : state.isOpen = false) (path : Bytes) :
    handleStep state (.fopen (some path) true) = some (.opened path false) := by
  cases state <;> first | rfl | cases closed

/-- send_file's opening stage: the open, the lock attempt and the size query. -/
theorem handleRun_opening (closed : state.isOpen = false) (path : Bytes) (locked : Bool)
    (size : Int) (rest : List Effect) :
    handleRun state (.fopen (some path) true :: .flock .sh locked :: .ftell size :: rest) =
      handleRun (.opened path locked) rest := by
  simp only [handleRun_cons, handleStep_fopen_opened closed, Option.some_bind]
  rfl

/-- send_file's unlock, made only when the lock was taken, leaves the stream open. -/
theorem handleRun_unlocking (path : Bytes) {locked : Bool} {unlock : List Effect}
    (unlocks : unlock = [] ∨ locked = true ∧ ∃ unlocked, unlock = [.flock .un unlocked]) :
    ∃ held, handleRun (.opened path locked) unlock = some (.opened path held) := by
  rcases unlocks with rfl | ⟨rfl, _, rfl⟩ <;> exact ⟨_, rfl⟩

end Steps

/-! ### One transfer -/

/-- Every run of send_file from a state with no stream open is accepted and leaves none open;
when it returns 0, it ends with the file of its own path finished. -/
theorem sendFile_handles (filePath fileId fileName : Option Bytes)
    (chunkSize interval expireTime segmentsTtl : Nat) (env : Env) (past : List Effect)
    {state : HandleState} (closed : state.isOpen = false) :
    ∃ final, handleRun state
        (sendFile filePath fileId fileName chunkSize interval expireTime segmentsTtl env past).2 =
          some final ∧ final.isOpen = false ∧
      ((sendFile filePath fileId fileName chunkSize interval expireTime segmentsTtl env past).1 =
          0 → ∃ path, filePath = some path ∧ final = .finished path) := by
  -- every run: a failed open, or the phases of a stream send_file opened
  obtain ⟨final, run, finalClosed⟩ : ∃ final, handleRun state
      (sendFile filePath fileId fileName chunkSize interval expireTime segmentsTtl env past).2 =
        some final ∧ final.isOpen = false := by
    cases filePath with
    | none => exact ⟨.idle, by simp [sendFile, fopen, handleStep_fopen_failed closed], rfl⟩
    | some path =>
      cases opened : env.fopen past path
      · exact ⟨.idle, by simp [sendFile_some_apply, opened, handleStep_fopen_failed closed], rfl⟩
      obtain ⟨locked, size, streaming, unlock, finished, effects, streams, unlocks, fins⟩ :=
        sendFile_streamPhases opened
      obtain ⟨held, unlocking⟩ := handleRun_unlocking path unlocks
      obtain ⟨final, finishing, finalClosed⟩ := KeepsClosed.of_publishes
        (fun effect member => (fins effect member).elim fun sent same => ⟨_, _, sent, same⟩)
        (.closed path) rfl
      refine ⟨final, ?_, finalClosed⟩
      rw [effects]
      simp only [List.append_assoc, List.cons_append, List.nil_append, handleRun_opening closed,
        handleRun_append, handleRun_streaming streams, unlocking, Option.some_bind]
      exact finishing
  refine ⟨final, run, finalClosed, fun succeeded => ?_⟩
  -- a run that returns 0 ends with the close and a sent fin
  obtain ⟨path, locked, size, unlock, rfl, -, -, effects, unlocks⟩ := sendFile_succeeded succeeded
  obtain ⟨held, unlocking⟩ := handleRun_unlocking path unlocks
  rw [effects] at run
  simp only [List.append_assoc, List.cons_append, List.nil_append, handleRun_opening closed] at run
  rw [handleRun_cons, show handleStep (.opened path locked) (.publish _ _ true) =
    some (.opened path locked) from rfl, Option.some_bind] at run
  simp only [publishFile, handleRun_append, handleRun_streaming (publishFileLoop_isStreaming 0 _ _),
    unlocking, Option.some_bind] at run
  exact ⟨path, rfl, (Option.some.inj run).symm⟩

/-- The deletion branch run on the finished file of its own path is accepted and leaves no stream
open. -/
theorem deleteAfterSend_handles (delete : Option Int) (path : Bytes) (env : Env)
    (past : List Effect) :
    ∃ final, handleRun (.finished path) (deleteAfterSend delete (some path) env past).2 =
      some final ∧ final.isOpen = false := by
  unfold deleteAfterSend
  cases delete with
  | none => exact ⟨_, rfl, rfl⟩
  | some value =>
      dsimp only
      split_ifs
      · exact ⟨.idle, by simp [nngFileDelete], rfl⟩
      · cases granted : env.alloc past
        · exact ⟨.finished path, by simp [granted], rfl⟩
        · exact ⟨.idle, by simp [granted, nngSleepAio], rfl⟩
      · exact ⟨_, rfl, rfl⟩

/-! ### The batch loop and the session -/

/-- Every run of the batch loop keeps every stream closed: each job's send_file does, and the
deletion branch after a success runs on the file that job just finished. -/
theorem sendJobs_keepsClosed (request : Request) (env : Env) (jobs : List Job)
    (past : List Effect) : KeepsClosed (sendJobs request jobs env past).2 := by
  induction jobs generalizing past with
  | nil => exact KeepsClosed.nil
  | cons job jobs inductionHypothesis =>
      intro state closed
      obtain ⟨afterJob, jobRun, jobClosed, succeeded⟩ := sendFile_handles job.path job.fileId
        job.fileName request.segmentSize request.interval noExpiry noExpiry env past closed
      rw [sendJobs_cons_apply]
      simp only []
      split_ifs with failed
      · exact ⟨afterJob, jobRun, jobClosed⟩
      obtain ⟨path, samePath, rfl⟩ := succeeded (not_not.mp failed)
      rw [samePath]
      obtain ⟨afterCleanup, cleanupRun, cleanupClosed⟩ :=
        deleteAfterSend_handles request.delete path env (past ++ (sendJob request job env past).2)
      rw [handleRun_append, handleRun_append, show handleRun state (sendJob request job env past).2 =
        _ from jobRun, Option.some_bind, cleanupRun, Option.some_bind]
      exact inductionHypothesis _ afterCleanup cleanupClosed

section Session

variable (cJSONParse : Bytes → Option Json)

/-- Every run of process_msg keeps every stream closed. -/
theorem processMsg_keepsClosed (msg : Inbound) (env : Env) (past : List Effect) :
    KeepsClosed (processMsg cJSONParse msg env past).2 := by
  cases decoded : (cJSONParse msg.cString).bind parseInput with
  | none => rw [processMsg_of_rejected decoded]; exact KeepsClosed.nil
  | some items =>
      obtain ⟨objs, parsed, accepted⟩ := Option.bind_eq_some.mp decoded
      rw [processMsg_of_accepted parsed accepted]
      refine (sendJobs_keepsClosed _ env _ past).append (KeepsClosed.of_publishes ?_)
      intro effect member
      obtain ⟨sent, published⟩ := (mem_publishFormatted member).2
      exact ⟨_, _, sent, published⟩

/-- Every run of start_listening's receive loop keeps every stream closed. -/
theorem receiveLoop_keepsClosed (received : List Received) (env : Env) (past : List Effect) :
    KeepsClosed (receiveLoop cJSONParse received env past).2 := by
  induction received generalizing past with
  | nil => exact KeepsClosed.nil
  | cons packet rest inductionHypothesis =>
      cases packet with
      | failed => exact inductionHypothesis past
      | packet isPublish msg =>
          cases isPublish
          · exact inductionHypothesis past
          · simpa [receiveLoop] using (processMsg_keepsClosed cJSONParse msg env past).append
              (inductionHypothesis (past ++ (processMsg cJSONParse msg env past).2))

/-- A whole session of start_listening keeps the file handling of `handleRun`, for every
sequence of received messages and every behaviour of the file system and the broker: one stream
open at a time and used only while open, unlocks only of a lock taken, deletions only of the
file just closed after its fin was sent, once each, and no stream left open. -/
theorem startListening_handles (received : List Received) (env : Env) (past : List Effect) :
    ∃ final, handleRun .idle (startListening cJSONParse received env past).2 = some final ∧
      final.isOpen = false := by
  obtain ⟨final, run, closed⟩ :=
    receiveLoop_keepsClosed cJSONParse received env (past ++ [.subscribe ftSubTopic]) .idle rfl
  exact ⟨final, by simpa [startListening, nngMqttSubscribe] using run, closed⟩

/-- In every session of start_listening, every deletion, at once or through a timer, is of a path
whose stream the session opened, kept open with only locks, size queries, reads, publishes and
sleeps, closed, and followed by a sent empty message, with only allocations between that
message and the deletion. -/
theorem startListening_deletesFinished (received : List Received) (env : Env) (past : List Effect)
    {before after : List Effect} {target : Effect} {deleted : Option Bytes}
    (split : (startListening cJSONParse received env past).2 = before ++ target :: after)
    (deletes : deletionOf target = some deleted) :
    ∃ path opening streaming topic allocations, deleted = some path ∧
      before = opening ++ .fopen (some path) true :: streaming ++
        .fclose :: .publish topic [] true :: allocations ∧
      (∀ effect ∈ streaming, effect.keepsOpen) ∧ ∀ effect ∈ allocations, ∃ granted,
        effect = .alloc granted := by
  obtain ⟨final, run, -⟩ :=
    receiveLoop_keepsClosed cJSONParse received env (past ++ [.subscribe ftSubTopic]) .idle rfl
  have session : handleRun .idle (startListening cJSONParse received env past).2 = some final := by
    simpa [startListening, nngMqttSubscribe] using run
  exact deletion_of_handleRun (split ▸ session) deletes

end Session

/-- The session of one request naming `a` twice with `delete` 0, on `deletingFileSystem`: `a` is
deleted after its open, its streaming phase, its close and its fin, and the second job then
fails to open it. -/
theorem duplicatePathSession_deletesFinished :
    (startListening (fun _ => some duplicatePathRequest) [.packet true emptyPublish]
        deletingFileSystem []).2 =
      [.subscribe ftSubTopic, .fopen (some (ascii "a")) true, .flock .sh true, .ftell 0,
          .publish (initTopic (some (ascii "1")))
            (initialPayload (some (ascii "a")) 0 noExpiry noExpiry) true,
          .fread 10240 [], .flock .un true, .fclose,
          .publish (finTopic (some (ascii "1")) 0) [] true] ++
        .fileDelete (some (ascii "a")) ::
          [.fopen (some (ascii "a")) false,
            .publish ftResultTopic (resultPayload (some (ascii "r")) false) true] ∧
      deletionOf (.fileDelete (some (ascii "a"))) = some (some (ascii "a")) ∧
      ∃ (path : Bytes) (opening streaming : List Effect) (topic : Bytes)
        (allocations : List Effect), some (ascii "a") = some path ∧
        [.subscribe ftSubTopic, .fopen (some (ascii "a")) true, .flock .sh true, .ftell 0,
            .publish (initTopic (some (ascii "1")))
              (initialPayload (some (ascii "a")) 0 noExpiry noExpiry) true,
            .fread 10240 [], .flock .un true, .fclose,
            .publish (finTopic (some (ascii "1")) 0) [] true] =
          opening ++ .fopen (some path) true :: streaming ++
            .fclose :: .publish topic [] true :: allocations ∧
        (∀ effect ∈ streaming, effect.keepsOpen) ∧ ∀ effect ∈ allocations, ∃ granted,
          effect = .alloc granted :=
  have session : (startListening (fun _ => some duplicatePathRequest) [.packet true emptyPublish]
      deletingFileSystem []).2 =
      [.subscribe ftSubTopic, .fopen (some (ascii "a")) true, .flock .sh true, .ftell 0,
          .publish (initTopic (some (ascii "1")))
            (initialPayload (some (ascii "a")) 0 noExpiry noExpiry) true,
          .fread 10240 [], .flock .un true, .fclose,
          .publish (finTopic (some (ascii "1")) 0) [] true] ++
        .fileDelete (some (ascii "a")) ::
          [.fopen (some (ascii "a")) false,
            .publish ftResultTopic (resultPayload (some (ascii "r")) false) true] := by
    obtain ⟨items, accepted⟩ : ∃ items, parseInput duplicatePathRequest = some items := ⟨_, rfl⟩
    have request : items.request = duplicatePathJobs := by
      have read : (parseInput duplicatePathRequest).map InputItems.request =
          some duplicatePathJobs := by decide
      simpa [accepted] using read
    simp only [startListening, receiveLoop, nngMqttSubscribe, Proc.bind_apply, Proc.bind_def,
      emit_apply, if_true, Proc.pure_apply, List.nil_append]
    rw [processMsg_of_accepted rfl accepted, request]
    simp only [duplicatePathJobs, sendJobs_cons_apply, sendJob, sendFile_some_apply, publishFile,
      publishFileLoop_deletingFileSystem, sendJobs_nil_apply]
    decide
  ⟨session, rfl, startListening_deletesFinished _ _ _ _ session rfl⟩

end MqttFileTransfer
