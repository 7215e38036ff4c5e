/-
Module: MqttFileTransfer.Proofs.Batch
Layer: Proofs
Purpose: What process_msg does with a request, for every behaviour of the files and the broker.
  `sendJobs_failFast` is the run lemma of the batch loop: it is a `FailFast` run of send_file with
  the deletion branch after each success, and it returns 0 exactly when every job was called and
  returned 0. From it, over an accepted request: the publish attempts are a batch of transfers and
  at most one result (`processMsg_publishAttempts`), with chunk offsets taken modulo 2^64 as
  publish_file's `size_t` does (`processMsg_wrappingFile` is a run where they wrap); the calls
  and the result flag (`processMsg_sendFile_calls`); the result publish happens exactly when its
  payload fits (`processMsg_resultPublishes`); a success report follows the complete
  transfers of all the jobs (`processMsg_successReport`), and after them no failure is reported
  (`processMsg_failureReport`: only a fin is sent with an empty payload, one for each job that
  returned 0, so a batch that sent every job's fin returned 0); deletions only follow successful
  jobs, one at most each, of the job's own path (`processMsg_deletions`). Over a whole session, start_listening
  publishes for each PUBLISH it received in turn what process_msg may publish for it
  (`startListening_sessionAttempts`, by induction over the messages received).
Trusted boundary: none beyond `Proc`'s and cJSON's.
Main exports: sendJobs_failFast, failFast_batchAttempts, processMsg_of_accepted,
  processMsg_messageAttempts, processMsg_publishAttempts, processMsg_wrappingFile,
  processMsg_sendFile_calls, processMsg_resultPublishes, processMsg_successReport,
  processMsg_failureReport, processMsg_deletions, startListening_sessionAttempts
-/
import MqttFileTransfer.Proofs.SendFile
import MqttFileTransfer.Spec.Session

namespace MqttFileTransfer

/-! ### The batch loop -/

/-- One step of the batch loop: the job's send_file, then either its nonzero result or the
deletion branch and the rest of the jobs. -/
theorem sendJobs_cons_apply (request : Request) (job : Job) (jobs : List Job) (env : Env)
    (past : List Effect) :
    sendJobs request (job :: jobs) env past =
      let first := sendJob request job env past
      if first.1 ≠ 0 then first
      else
        let cleanup := deleteAfterSend request.delete job.path env (past ++ first.2)
        let rest := sendJobs request jobs env (past ++ first.2 ++ cleanup.2)
        (rest.1, first.2 ++ cleanup.2 ++ rest.2) := by
  simp only [sendJobs, Proc.bind_apply]
  split_ifs <;> simp_all

/-- The batch loop over at least one job has an effect. -/
theorem sendJobs_cons_ne_nil (request : Request) (job : Job) (jobs : List Job) (env : Env)
    (past : List Effect) : (sendJobs request (job :: jobs) env past).2 ≠ [] :=
  Proc.bind_ne_nil (sendFile_ne_nil job.path job.fileId job.fileName request.segmentSize
    request.interval noExpiry noExpiry env past)

/-- Every run of the batch loop is a fail-fast run of send_file with the deletion branch after
each success, and it returns 0 exactly when every job was called and returned 0. -/
theorem sendJobs_failFast (request : Request) (env : Env) (jobs : List Job) (past : List Effect) :
    ∃ calls, FailFast (sendJob request) (fun job => deleteAfterSend request.delete job.path) env
        past jobs calls (sendJobs request jobs env past).2 ∧
      ((sendJobs request jobs env past).1 = 0 ↔
        calls.length = jobs.length ∧ ∀ call ∈ calls, call.2 = 0) := by
  induction jobs generalizing past with
  | nil => exact ⟨[], .done, by simp [sendJobs]⟩
  | cons job jobs inductionHypothesis =>
      rw [sendJobs_cons_apply]
      simp only
      split_ifs with failed
      · exact ⟨[(job, (sendJob request job env past).1)], .stop rfl failed, by simp [failed]⟩
      · obtain ⟨calls, run, result⟩ := inductionHypothesis
          (past ++ (sendJob request job env past).2 ++
            (deleteAfterSend request.delete job.path env
              (past ++ (sendJob request job env past).2)).2)
        refine ⟨(job, 0) :: calls, .next ?_ rfl run, by simpa using result⟩
        rw [← not_not.mp failed]

/-! ### The deletion branch -/

/-- The deletion branch deletes the job's path, at once when `delete` is 0 and through a timer
when it is positive and the copy of the path was allocated; nothing otherwise. -/
theorem deletions_deleteAfterSend (delete : Option Int) (path : Option Bytes) (env : Env)
    (past : List Effect) :
    deletions (deleteAfterSend delete path env past).2 =
      if delete.any fun value => 0 ≤ value && (value == 0 || env.alloc past) then [path]
      else [] := by
  unfold deleteAfterSend
  cases delete with
  | none => rfl
  | some value =>
      by_cases sign : 0 ≤ value <;> by_cases zero : value = 0 <;>
        cases granted : env.alloc past <;>
        simp [sign, zero, granted, nngFileDelete, nngSleepAio]

/-- The deletion branch publishes nothing. -/
theorem deleteAfterSend_publishes (delete : Option Int) (path : Option Bytes) (env : Env)
    (past : List Effect) : publishes (deleteAfterSend delete path env past).2 = [] := by
  unfold deleteAfterSend
  cases delete with
  | none => rfl
  | some value =>
      cases granted : env.alloc past <;> simp [nngFileDelete, nngSleepAio, granted] <;>
        split_ifs <;> simp

/-! ### What a fail-fast batch of send_file publishes and deletes -/

section FailFastSendJob

variable {request : Request} {env : Env} {past : List Effect} {jobs : List Job}
  {calls : List (Job × Int)} {effects : List Effect}

/-- A fail-fast run of send_file over a nonempty list of jobs publishes a batch of transfers:
complete ones for the jobs that returned 0, then the transfer of the last job called. -/
theorem failFast_batchAttempts
    (run : FailFast (sendJob request) (fun job => deleteAfterSend request.delete job.path) env
      past jobs calls effects) (nonempty : jobs ≠ []) :
    ∃ attempts, publishes effects = attempts.map encode ∧
      BatchAttempts noExpiry noExpiry jobs attempts := by
  induction run with
  | done => exact absurd rfl nonempty
  | @stop past job _ result effects step _ =>
      obtain ⟨attempts, published, transfer, -⟩ :
          TransferRun job.fileId job.fileName noExpiry noExpiry (result, effects) :=
        step ▸ sendFile_transferRun _ _ _ _ _ _ _ env past
      exact ⟨attempts, published, .last transfer⟩
  | @next past job jobs effects cleanup calls rest step cleaned run inductionHypothesis =>
      obtain ⟨attempts, published, -, complete⟩ :
          TransferRun job.fileId job.fileName noExpiry noExpiry (0, effects) :=
        step ▸ sendFile_transferRun _ _ _ _ _ _ _ env past
      have quiet : publishes cleanup = [] := by
        simpa [cleaned] using
          deleteAfterSend_publishes request.delete job.path env (past ++ effects)
      cases jobs with
      | nil =>
          cases run
          exact ⟨attempts, by simp [published, quiet], .last (complete rfl).attempts⟩
      | cons next others =>
          obtain ⟨later, publishedLater, batch⟩ := inductionHypothesis (List.cons_ne_nil _ _)
          exact ⟨attempts ++ later, by simp [published, quiet, publishedLater],
            .next (complete rfl) batch⟩

/-- A fail-fast run of send_file in which every job was called and returned 0 publishes the
complete transfers of all the jobs, in order. -/
theorem failFast_batchComplete
    (run : FailFast (sendJob request) (fun job => deleteAfterSend request.delete job.path) env
      past jobs calls effects) (called : calls.length = jobs.length)
    (succeeded : ∀ call ∈ calls, call.2 = 0) :
    ∃ attempts, publishes effects = attempts.map encode ∧
      BatchComplete noExpiry noExpiry jobs attempts := by
  induction run with
  | done => exact ⟨[], rfl, BatchComplete.nil⟩
  | stop _ failed => exact absurd (succeeded _ (List.mem_singleton_self _)) failed
  | @next past job jobs effects cleanup calls rest step cleaned _ inductionHypothesis =>
      obtain ⟨attempts, published, -, complete⟩ :
          TransferRun job.fileId job.fileName noExpiry noExpiry (0, effects) :=
        step ▸ sendFile_transferRun _ _ _ _ _ _ _ env past
      have quiet : publishes cleanup = [] := by
        simpa [cleaned] using
          deleteAfterSend_publishes request.delete job.path env (past ++ effects)
      obtain ⟨later, publishedLater, batch⟩ := inductionHypothesis (by simpa using called)
        fun call member => succeeded call (List.mem_cons_of_mem _ member)
      exact ⟨attempts ++ later, by simp [published, quiet, publishedLater],
        .cons (complete rfl) batch⟩

/-- A job's send_file sends one empty payload, its fin, when it returns 0, and none otherwise. -/
theorem sendJob_sentEmpty (request : Request) (job : Job) (env : Env) (past : List Effect) :
    (publishes (sendJob request job env past).2).countP sentEmpty =
      if (sendJob request job env past).1 = 0 then 1 else 0 := by
  obtain ⟨body, ending, effects, quiet, outcome⟩ := sendFile_ending job.path job.fileId
    job.fileName request.segmentSize request.interval noExpiry noExpiry env past
  rw [sendJob, effects, publishes_append, List.countP_append, quiet, Nat.zero_add]
  rcases outcome with ⟨rfl, failed⟩ | ⟨size, sent, rfl, result⟩
  · rw [failed]; rfl
  · rw [result]; cases sent <;> rfl

/-- A fail-fast run of send_file sends one empty payload for each job that returned 0. -/
theorem failFast_sentEmpty
    (run : FailFast (sendJob request) (fun job => deleteAfterSend request.delete job.path) env
      past jobs calls effects) :
    (publishes effects).countP sentEmpty = calls.countP (·.2 == 0) := by
  induction run with
  | done => rfl
  | @stop past job _ result effects step failed =>
      have counted := sendJob_sentEmpty request job env past
      rw [step] at counted
      simp [counted, failed]
  | @next past job jobs effects cleanup calls rest step cleaned _ inductionHypothesis =>
      have counted := sendJob_sentEmpty request job env past
      have quiet := deleteAfterSend_publishes request.delete job.path env (past ++ effects)
      rw [step] at counted
      rw [cleaned] at quiet
      simp [counted, quiet, inductionHypothesis, Nat.add_comm]

/-- The paths of the jobs of a fail-fast run whose send_file returned 0, in order. -/
private def succeededPaths (calls : List (Job × Int)) : List (Option Bytes) :=
  (calls.filter (·.2 == 0)).map (·.1.path)

/-- A fail-fast run of send_file deletes only in the deletion branch of a job that returned 0,
its own path, once at most; nothing when `delete` is absent or negative; every such path when
`delete` is 0. -/
theorem failFast_deletions
    (run : FailFast (sendJob request) (fun job => deleteAfterSend request.delete job.path) env
      past jobs calls effects) :
    List.Sublist (deletions effects) (succeededPaths calls) ∧
      ((∀ value ∈ request.delete, value < 0) → deletions effects = []) ∧
      (request.delete = some 0 → deletions effects = succeededPaths calls) := by
  induction run with
  | done => simp [succeededPaths]
  | @stop past job _ result effects step failed =>
      have none : deletions (sendJob request job env past).2 = [] :=
        sendFile_deletions _ _ _ _ _ _ _ env past
      rw [step] at none
      simp [succeededPaths, none, failed]
  | @next past job jobs effects cleanup calls rest step cleaned _ inductionHypothesis =>
      have none : deletions (sendJob request job env past).2 = [] :=
        sendFile_deletions _ _ _ _ _ _ _ env past
      rw [step] at none
      have branch := deletions_deleteAfterSend request.delete job.path env (past ++ effects)
      rw [cleaned] at branch
      obtain ⟨sublist, negative, zero⟩ := inductionHypothesis
      simp only [succeededPaths, List.filter_cons, beq_self_eq_true, ↓reduceIte, List.map_cons,
        deletions_append, none, List.nil_append, branch] at sublist zero ⊢
      refine ⟨?_, fun below => ?_, fun isZero => ?_⟩
      · split_ifs
        · exact sublist.cons₂ _
        · exact sublist.cons _
      · cases delete : request.delete with
        | none => simpa [delete] using negative (by simp [delete])
        | some value =>
            have : value < 0 := below value (by simp [delete])
            simp [delete, negative (by simpa [delete] using below), not_le.mpr this]
      · simp [isZero, zero isZero]

end FailFastSendJob

/-! ### process_msg -/

section ProcessMsg

variable {cJSONParse : Bytes → Option Json}

/-- A message that does not parse, or that parse_input rejects, is dropped with no effect. -/
theorem processMsg_of_rejected {msg : Inbound}
    (rejected : (cJSONParse msg.cString).bind parseInput = none) (env : Env)
    (past : List Effect) : processMsg cJSONParse msg env past = (-1, []) := by
  unfold processMsg
  cases parsed : cJSONParse msg.cString with
  | none => rfl
  | some objs => simp_all

/-- An accepted request runs the batch loop, then publishes the result with the flag
`result == 0`, and process_msg returns 0. -/
theorem processMsg_of_accepted {msg : Inbound} {objs : Json} {items : InputItems}
    (parsed : cJSONParse msg.cString = some objs) (accepted : parseInput objs = some items)
    (env : Env) (past : List Effect) :
    processMsg cJSONParse msg env past =
      let batch := sendJobs items.request items.request.jobs env past
      (0, batch.2 ++
        (publishSendResult items.request.requestId (batch.1 == 0) env (past ++ batch.2)).2) := by
  simp [processMsg, parsed, accepted]

/-- publish_send_result publishes the result message exactly when its payload fits. -/
theorem publishes_publishSendResult (requestid : Option Bytes) (success : Bool) (env : Env)
    (past : List Effect) :
    publishes (publishSendResult requestid success env past).2 =
      if (resultPayload requestid success).length < bufSize then
        [encode (.result requestid success,
          env.sendmsg past ftResultTopic (resultPayload requestid success))]
      else [] := by
  by_cases fits : (resultPayload requestid success).length < bufSize
  · rw [publishSendResult, publishFormatted_of_fits (by simpa using fits)]
    simp [fits, encode, Message.topic, Message.payload]
  · rw [publishSendResult, publishFormatted_of_overflow (by simpa using fits)]
    simp [fits]

/-! ### Runs on one file system

`deletingFileSystem` is a file system in which every path holds an empty file until process_msg
deletes it, and every lock, publish and allocation succeeds. -/

/-- Every path holds an empty file until a deletion of it; every other call succeeds. -/
def deletingFileSystem : Env where
  fopen past path := !(past.contains (.fileDelete (some path)))
  flock _ _ := true
  ftell _ := 0
  ftell_long _ := by norm_num
  fread _ _ := []
  fread_le _ _ := Nat.zero_le _
  sendmsg _ _ _ := true
  alloc _ := true

/-- On `deletingFileSystem` publish_file reads once, gets nothing, and returns 0. -/
theorem publishFileLoop_deletingFileSystem (fileId : Option Bytes) (fileSize : Int)
    (interval offset chunkSize : Nat) (past : List Effect) :
    publishFileLoop fileId fileSize interval offset chunkSize deletingFileSystem past =
      (0, [.fread chunkSize []]) :=
  publishFileLoop_of_empty rfl

/-- The batch loop over no job. -/
theorem sendJobs_nil_apply (request : Request) (env : Env) (past : List Effect) :
    sendJobs request [] env past = (0, []) := rfl

/-- A PUBLISH with an empty payload: the runs below fix what cJSON_Parse returns for it. -/
def emptyPublish : Inbound := ⟨[], []⟩

/-- A request naming the path `a` twice, with `delete` 0. -/
def duplicatePathRequest : Json :=
  .object [(ascii "files", .array [.string (ascii "a"), .string (ascii "a")]),
    (ascii "fileids", .array [.string (ascii "1"), .string (ascii "2")]),
    (ascii "filenames", .array [.string (ascii "a"), .string (ascii "a")]),
    (ascii "request_id", .string (ascii "r")),
    (ascii "delete", .number 0)]

/-- What process_msg reads off `duplicatePathRequest`. -/
def duplicatePathJobs : Request :=
  { jobs := [⟨some (ascii "a"), some (ascii "1"), some (ascii "a")⟩,
      ⟨some (ascii "a"), some (ascii "2"), some (ascii "a")⟩],
    requestId := some (ascii "r"), segmentSize := 0, interval := 0, delete := some 0 }

/-- Every run of process_msg publishes what `MessageAttempts` allows for the message. -/
theorem processMsg_messageAttempts (msg : Inbound) (env : Env) (past : List Effect) :
    ∃ attempts, publishes (processMsg cJSONParse msg env past).2 = attempts.map encode ∧
      MessageAttempts ((cJSONParse msg.cString).bind parseInput) attempts := by
  cases decoded : (cJSONParse msg.cString).bind parseInput with
  | none => exact ⟨[], by rw [processMsg_of_rejected decoded]; rfl, rfl⟩
  | some items =>
      obtain ⟨objs, parsed, accepted⟩ := Option.bind_eq_some.mp decoded
      obtain ⟨calls, run, -⟩ := sendJobs_failFast items.request env items.request.jobs past
      obtain ⟨attempts, published, batch⟩ :=
        failFast_batchAttempts run (InputItems.request_jobs_ne_nil accepted)
      rw [processMsg_of_accepted parsed accepted]
      set success := (sendJobs items.request items.request.jobs env past).1 == 0
      set sent := env.sendmsg (past ++ (sendJobs items.request items.request.jobs env past).2)
        ftResultTopic (resultPayload items.request.requestId success)
      refine ⟨attempts ++
          if (resultPayload items.request.requestId success).length < bufSize then
            [(.result items.request.requestId success, sent)] else [],
        ?_, attempts, _, rfl, batch, by split_ifs <;> simp,
        fun attempt member => ⟨success, ?_⟩⟩
      · simp only [publishes_append, published, publishes_publishSendResult, List.map_append]
        split_ifs <;> rfl
      · split_ifs at member
        · simp [List.mem_singleton.mp member]
        · simp at member

/-- For every accepted request, the publish attempts of process_msg are a batch of transfers over
the request's jobs, then at most one attempt of the request's result. -/
theorem processMsg_publishAttempts {msg : Inbound} {objs : Json} {items : InputItems}
    (parsed : cJSONParse msg.cString = some objs) (accepted : parseInput objs = some items)
    (env : Env) (past : List Effect) :
    ∃ attempts final,
      publishes (processMsg cJSONParse msg env past).2 = (attempts ++ final).map encode ∧
        BatchAttempts noExpiry noExpiry items.request.jobs attempts ∧
        final.length ≤ 1 ∧
        ∀ attempt ∈ final, ∃ success, attempt.1 = .result items.request.requestId success := by
  obtain ⟨attempts, published, message⟩ := @processMsg_messageAttempts cJSONParse msg env past
  rw [Option.bind_eq_some.mpr ⟨objs, parsed, accepted⟩] at message
  obtain ⟨batch, final, rfl, batchAttempts, short, results⟩ := message
  exact ⟨batch, final, published, batchAttempts, short, results⟩

/-- process_msg on `duplicatePathRequest` publishes a batch and at most one result. -/
theorem duplicatePathRequest_publishAttempts :
    ∃ items, parseInput duplicatePathRequest = some items ∧
      ∃ attempts final,
        publishes (processMsg (fun _ => some duplicatePathRequest) emptyPublish
            deletingFileSystem []).2 = (attempts ++ final).map encode ∧
          BatchAttempts noExpiry noExpiry items.request.jobs attempts ∧
          final.length ≤ 1 ∧
          ∀ attempt ∈ final, ∃ success, attempt.1 = .result items.request.requestId success :=
  ⟨_, rfl, @processMsg_publishAttempts (fun _ => some duplicatePathRequest) emptyPublish
    duplicatePathRequest _ rfl rfl deletingFileSystem []⟩

/-! ### Offsets wrap around in `size_t`

publish_file advances `offset` as a `size_t`: a file that reads on past 2^64 bytes gets a
chunk at offset 0 right after the chunk that reaches 2^64. -/

/-- A file that `ftell` measures at 5 bytes and that then reads as zeros without end (a device,
or a file that grows while it is sent), but for one short read: a read of 4101 bytes returns
4096. -/
def wrappingFile : Env where
  fopen _ _ := true
  flock _ _ := true
  ftell _ := 5
  ftell_long _ := by norm_num
  fread _ count := if count = 4101 then List.replicate 4096 0 else List.replicate count 0
  fread_le _ count := by dsimp only; split <;> rw [List.length_replicate]; omega
  sendmsg _ _ _ := true
  alloc _ := true

/-- One iteration of publish_file's loop on `wrappingFile` for the file id `f`: `read` zero bytes
asked for with `chunkSize`, published at `offset`. -/
def wrapIteration (offset chunkSize read : Nat) : List Effect :=
  chunkIteration (some (ascii "f")) 0 offset chunkSize (List.replicate read 0)

/-- `count` full iterations from `offset`. -/
def fullIterations (offset count : Nat) : List Effect :=
  (List.range count).flatMap fun index => wrapIteration (offset + index * 10240) 10240 10240

@[simp] theorem publishes_wrapIteration (offset chunkSize read : Nat) :
    publishes (wrapIteration offset chunkSize read) =
      [(chunkTopic (some (ascii "f")) offset, List.replicate read 0, true)] := rfl

/-- One more full iteration is the first one, then the rest from 10240 bytes on. -/
theorem fullIterations_succ (offset count : Nat) :
    fullIterations offset (count + 1) =
      wrapIteration offset 10240 10240 ++ fullIterations (offset + 10240) count := by
  simp only [fullIterations, List.range_succ_eq_map, List.flatMap_cons, List.flatMap_map,
    Nat.zero_mul, Nat.add_zero, Nat.succ_mul, Nat.add_assoc, Nat.add_comm 10240]

/-- `count` full iterations publish `count` chunks of 10240 zero bytes, 10240 bytes apart. -/
theorem publishes_fullIterations (offset count : Nat) :
    publishes (fullIterations offset count) =
      (List.range count).map fun index =>
        (chunkTopic (some (ascii "f")) (offset + index * 10240), List.replicate 10240 0, true) := by
  induction count generalizing offset with
  | zero => rfl
  | succ count inductionHypothesis =>
      rw [fullIterations_succ, publishes_append, inductionHypothesis, List.range_succ_eq_map]
      simp only [publishes_wrapIteration, List.singleton_append, List.map_cons, List.map_map,
        Function.comp_def, Nat.zero_mul, Nat.add_zero, Nat.succ_mul, Nat.add_assoc,
        Nat.add_comm 10240, -List.reduceReplicate]

/-- Every chunk topic of the file id `f` below 10^20 fits BUF_SIZE. -/
theorem chunkTopic_f_fits {offset : Nat} (small : offset < 10 ^ 20) :
    (chunkTopic (some (ascii "f")) offset).length < bufSize := by
  have digits := length_decimal_le (show 0 < 20 by norm_num) small
  rw [length_chunkTopic, cstr, length_ascii, show "f".length = 1 from rfl]
  unfold bufSize
  omega

/-- One iteration of publish_file's loop on `wrappingFile` that reads `read` bytes: it stops
when the new offset is the size 5, and goes on from it otherwise. -/
theorem publishFileLoop_wrappingFile_apply (offset chunkSize read : Nat) (past : List Effect)
    (reads : wrappingFile.fread past chunkSize = List.replicate read 0) (nonempty : 0 < read)
    (small : offset < 10 ^ 20) :
    publishFileLoop (some (ascii "f")) 5 0 offset chunkSize wrappingFile past =
      if (offset + read) % 2 ^ 64 = 5 then (0, wrapIteration offset chunkSize read)
      else
        ((publishFileLoop (some (ascii "f")) 5 0 ((offset + read) % 2 ^ 64)
            (nextChunkSize 5 ((offset + read) % 2 ^ 64) chunkSize) wrappingFile
            (past ++ wrapIteration offset chunkSize read)).1,
          wrapIteration offset chunkSize read ++
            (publishFileLoop (some (ascii "f")) 5 0 ((offset + read) % 2 ^ 64)
              (nextChunkSize 5 ((offset + read) % 2 ^ 64) chunkSize) wrappingFile
              (past ++ wrapIteration offset chunkSize read)).2) := by
  rw [publishFileLoop_of_sent reads (List.ne_nil_of_length_pos (by rwa [List.length_replicate]))
    (chunkTopic_f_fits small) rfl, List.length_replicate]
  rfl

/-- `count` full iterations from `offset`, each followed by another full one, stay within
`size_t`. -/
theorem publishFileLoop_wrappingFile (count offset : Nat) (past : List Effect)
    (room : offset + (count + 1) * 10240 ≤ 2 ^ 64) :
    publishFileLoop (some (ascii "f")) 5 0 offset 10240 wrappingFile past =
      ((publishFileLoop (some (ascii "f")) 5 0 (offset + count * 10240) 10240 wrappingFile
          (past ++ fullIterations offset count)).1,
        fullIterations offset count ++
          (publishFileLoop (some (ascii "f")) 5 0 (offset + count * 10240) 10240 wrappingFile
            (past ++ fullIterations offset count)).2) := by
  induction count generalizing offset past with
  | zero => simp only [fullIterations, List.range_zero, List.flatMap_nil, Nat.zero_mul,
      Nat.add_zero, List.append_nil, List.nil_append]
  | succ count inductionHypothesis =>
      have next : nextChunkSize 5 (offset + 10240) 10240 = 10240 := by
        unfold nextChunkSize ulongSub toULong
        split <;> omega
      rw [publishFileLoop_wrappingFile_apply offset 10240 10240 past rfl (by norm_num) (by omega),
        if_neg (by omega), Nat.mod_eq_of_lt (show offset + 10240 < 2 ^ 64 by omega), next,
        inductionHypothesis (offset + 10240) _ (by omega), fullIterations_succ]
      simp only [List.append_assoc, Nat.succ_mul, Nat.add_assoc, Nat.add_comm 10240]

/-- send_file of `f` on `wrappingFile` when `count + 1` full chunks end 4096 bytes short of
2^64: the short read reaches 2^64, which `size_t` makes offset 0, and five more bytes reach the
size. -/
theorem sendFile_wrappingFile (count : Nat) (wraps : (count + 1) * 10240 = 2 ^ 64 - 4096) :
    sendFile (some (ascii "f")) (some (ascii "f")) (some (ascii "f")) 0 0 noExpiry noExpiry
        wrappingFile [] =
      (0, [.fopen (some (ascii "f")) true, .flock .sh true, .ftell 5,
          .publish (initTopic (some (ascii "f")))
            (initialPayload (some (ascii "f")) 5 noExpiry noExpiry) true] ++
        fullIterations 0 count ++ wrapIteration (count * 10240) 10240 10240 ++
        wrapIteration (2 ^ 64 - 4096) 4101 4096 ++ wrapIteration 0 5 5 ++
        [.flock .un true, .fclose, .publish (finTopic (some (ascii "f")) 5) [] true]) := by
  have initial : ∀ past, publishInitial (some (ascii "f")) (some (ascii "f")) 5 noExpiry noExpiry
      wrappingFile past = (0, [.publish (initTopic (some (ascii "f")))
        (initialPayload (some (ascii "f")) 5 noExpiry noExpiry) true]) := fun past => by
    rw [publishInitial, publishFormatted_of_fits (by decide)]; rfl
  have answers : (∀ past, wrappingFile.ftell past = 5) ∧
      (∀ past path, wrappingFile.fopen past path = true) ∧
      (∀ past op, wrappingFile.flock past op = true) :=
    ⟨fun _ => rfl, fun _ _ => rfl, fun _ _ => rfl⟩
  rw [sendFile_some_apply]
  simp only [publishFile, answers]
  simp only [show clampChunkSize 0 = 10240 from rfl, initial]
  rw [publishFileLoop_wrappingFile count 0 _ (by omega), Nat.zero_add,
    publishFileLoop_wrappingFile_apply _ 10240 10240 _ rfl (by norm_num) (by omega),
    show (count * 10240 + 10240) % 2 ^ 64 = 2 ^ 64 - 4096 by omega,
    if_neg (show 2 ^ 64 - 4096 ≠ 5 by norm_num),
    show nextChunkSize 5 (2 ^ 64 - 4096) 10240 = 4101 by decide,
    publishFileLoop_wrappingFile_apply _ 4101 4096 _ rfl (by norm_num) (by norm_num),
    show (2 ^ 64 - 4096 + 4096) % 2 ^ 64 = 0 by norm_num, if_neg (show 0 ≠ 5 by decide),
    show nextChunkSize 5 0 4101 = 5 by decide,
    publishFileLoop_wrappingFile_apply _ 5 5 _ rfl (by norm_num) (by norm_num),
    if_pos (show (0 + 5) % 2 ^ 64 = 5 by norm_num),
    publishFin, publishFormatted_of_fits (by decide)]
  simp only [Bool.true_eq_false, ↓reduceIte, ne_eq, not_true_eq_false, List.append_assoc,
    List.cons_append, List.singleton_append, List.nil_append, -List.reduceReplicate]
  rfl

/-- A request for the one file `f`, with request id `r`. -/
def wrapRequest : Json :=
  .object [(ascii "files", .array [.string (ascii "f")]),
    (ascii "fileids", .array [.string (ascii "f")]),
    (ascii "filenames", .array [.string (ascii "f")]),
    (ascii "request_id", .string (ascii "r"))]

/-- What process_msg reads off `wrapRequest`. -/
def wrapJobs : Request :=
  { jobs := [⟨some (ascii "f"), some (ascii "f"), some (ascii "f")⟩],
    requestId := some (ascii "r"), segmentSize := 0, interval := 0, delete := none }

/-- The publishes of process_msg on `wrapRequest` over `wrappingFile`, when `count` full chunks
end 4096 bytes short of 2^64. -/
theorem publishes_processMsg_wrappingFile (count : Nat) (wraps : count * 10240 = 2 ^ 64 - 4096) :
    publishes (processMsg (fun _ => some wrapRequest) emptyPublish wrappingFile []).2 =
      (initTopic (some (ascii "f")), initialPayload (some (ascii "f")) 5 noExpiry noExpiry, true) ::
        (List.range count).map (fun index =>
          (chunkTopic (some (ascii "f")) (index * 10240), List.replicate 10240 0, true)) ++
        [(chunkTopic (some (ascii "f")) (2 ^ 64 - 4096), List.replicate 4096 0, true),
          (chunkTopic (some (ascii "f")) 0, List.replicate 5 0, true),
          (finTopic (some (ascii "f")) 5, [], true),
          (ftResultTopic, resultPayload (some (ascii "r")) true, true)] := by
  obtain ⟨previous, rfl⟩ : ∃ previous, count = previous + 1 := ⟨count - 1, by omega⟩
  obtain ⟨items, accepted⟩ : ∃ items, parseInput wrapRequest = some items := ⟨_, rfl⟩
  have request : items.request = wrapJobs := by
    have read : (parseInput wrapRequest).map InputItems.request = some wrapJobs := by decide
    simpa [accepted] using read
  rw [processMsg_of_accepted rfl accepted, request]
  simp only [wrapJobs, sendJobs_cons_apply, sendJob]
  rw [sendFile_wrappingFile previous wraps]
  simp only [deleteAfterSend, sendJobs_nil_apply, Proc.pure_apply, ne_eq, not_true_eq_false,
    ↓reduceIte, beq_self_eq_true, List.append_nil, -List.reduceReplicate]
  rw [publishSendResult, publishFormatted_of_fits (by decide)]
  simp only [publishes_append, publishes_cons, publishOf, Option.toList, publishes_nil,
    publishes_fullIterations, publishes_wrapIteration, List.range_succ, List.map_append,
    List.map_cons, List.map_nil, Nat.zero_add, List.cons_append, List.nil_append,
    List.singleton_append, List.append_assoc, -List.reduceReplicate]
  rfl

/-- A one-file request over `wrappingFile`: after 1801439850948198 full chunks and a short one
the offset wraps to 0, and the next chunk is published at offset 0, not 2^64. -/
theorem processMsg_wrappingFile :
    publishes (processMsg (fun _ => some wrapRequest) emptyPublish wrappingFile []).2 =
      (initTopic (some (ascii "f")), initialPayload (some (ascii "f")) 5 noExpiry noExpiry, true) ::
        (List.range 1801439850948198).map (fun index =>
          (chunkTopic (some (ascii "f")) (index * 10240), List.replicate 10240 0, true)) ++
        [(chunkTopic (some (ascii "f")) (2 ^ 64 - 4096), List.replicate 4096 0, true),
          (chunkTopic (some (ascii "f")) 0, List.replicate 5 0, true),
          (finTopic (some (ascii "f")) 5, [], true),
          (ftResultTopic, resultPayload (some (ascii "r")) true, true)] :=
  publishes_processMsg_wrappingFile 1801439850948198 (by norm_num)

/-- For every accepted request, process_msg runs send_file as a fail-fast run over the request's
jobs, in order, and hands publish_send_result the flag "every job was called and returned 0". -/
theorem processMsg_sendFile_calls {msg : Inbound} {objs : Json} {items : InputItems}
    (parsed : cJSONParse msg.cString = some objs) (accepted : parseInput objs = some items)
    (env : Env) (past : List Effect) :
    ∃ calls effects,
      FailFast (sendJob items.request) (fun job => deleteAfterSend items.request.delete job.path)
          env past items.request.jobs calls effects ∧
        processMsg cJSONParse msg env past =
          (0, effects ++ (publishSendResult items.request.requestId
            (decide (calls.length = items.request.jobs.length ∧ ∀ call ∈ calls, call.2 = 0))
            env (past ++ effects)).2) := by
  obtain ⟨calls, run, result⟩ := sendJobs_failFast items.request env items.request.jobs past
  have flag : ((sendJobs items.request items.request.jobs env past).1 == 0) =
      decide (calls.length = items.request.jobs.length ∧ ∀ call ∈ calls, call.2 = 0) := by
    rw [Bool.eq_iff_iff, beq_iff_eq, decide_eq_true_iff]
    exact result
  exact ⟨calls, _, run, by simp only [processMsg_of_accepted parsed accepted, flag]⟩

/-- process_msg on `duplicatePathRequest` is a fail-fast run of send_file and its flag. -/
theorem duplicatePathRequest_sendFile_calls :
    ∃ items, parseInput duplicatePathRequest = some items ∧
      ∃ calls effects,
        FailFast (sendJob items.request) (fun job => deleteAfterSend items.request.delete job.path)
            deletingFileSystem [] items.request.jobs calls effects ∧
          processMsg (fun _ => some duplicatePathRequest) emptyPublish deletingFileSystem [] =
            (0, effects ++ (publishSendResult items.request.requestId
              (decide (calls.length = items.request.jobs.length ∧ ∀ call ∈ calls, call.2 = 0))
              deletingFileSystem ([] ++ effects)).2) :=
  ⟨_, rfl, @processMsg_sendFile_calls (fun _ => some duplicatePathRequest) emptyPublish
    duplicatePathRequest _ rfl rfl deletingFileSystem []⟩

/-- The publishes of process_msg on the result topic: none for a message that does not parse
or is rejected (which has no effect at all), and for an accepted request exactly one when the
result payload, with the batch's flag, is shorter than BUF_SIZE, none otherwise. -/
theorem processMsg_resultPublishes (msg : Inbound) (env : Env) (past : List Effect) :
    match (cJSONParse msg.cString).bind parseInput with
    | none => processMsg cJSONParse msg env past = (-1, [])
    | some items =>
        (publishes (processMsg cJSONParse msg env past).2).countP (·.1 == ftResultTopic) =
          if (resultPayload items.request.requestId
              ((sendJobs items.request items.request.jobs env past).1 == 0)).length < bufSize
          then 1 else 0 := by
  cases decoded : (cJSONParse msg.cString).bind parseInput with
  | none => exact processMsg_of_rejected decoded env past
  | some items =>
      obtain ⟨objs, parsed, accepted⟩ := Option.bind_eq_some.mp decoded
      obtain ⟨calls, run, -⟩ := sendJobs_failFast items.request env items.request.jobs past
      obtain ⟨attempts, published, batch⟩ :=
        failFast_batchAttempts run (InputItems.request_jobs_ne_nil accepted)
      have noResult : (attempts.map encode).countP (·.1 == ftResultTopic) = 0 :=
        List.countP_eq_zero.mpr fun publish member => by
          obtain ⟨attempt, attempted, rfl⟩ := List.mem_map.mp member
          simpa [encode] using Message.topic_ne_ftResultTopic (batch.isTransfer attempt attempted)
      rw [processMsg_of_accepted parsed accepted]
      simp only [publishes_append, published, List.countP_append, noResult,
        publishes_publishSendResult]
      split_ifs <;> simp [encode, Message.topic]

/-- The result payload tells its flag apart: `true` and `false` differ in length. -/
theorem eq_of_resultPayload_eq {requestid : Option Bytes} {first second : Bool}
    (same : resultPayload requestid first = resultPayload requestid second) : first = second := by
  have lengths := congrArg List.length same
  rw [length_resultPayload, length_resultPayload] at lengths
  cases first <;> cases second <;> simp_all

/-- The batch loop over an accepted request publishes nothing on the result topic. -/
theorem ftResult_not_mem_sendJobs {objs : Json} {items : InputItems}
    (accepted : parseInput objs = some items) (env : Env) (past : List Effect) (payload : Bytes)
    (sent : Bool) :
    (ftResultTopic, payload, sent) ∉ publishes (sendJobs items.request items.request.jobs env past).2 :=
  fun member => by
    obtain ⟨calls, run, -⟩ := sendJobs_failFast items.request env items.request.jobs past
    obtain ⟨attempts, published, batch⟩ :=
      failFast_batchAttempts run (InputItems.request_jobs_ne_nil accepted)
    rw [published] at member
    obtain ⟨attempt, attempted, same⟩ := List.mem_map.mp member
    exact Message.topic_ne_ftResultTopic (batch.isTransfer attempt attempted)
      (congrArg Prod.fst same)

/-- process_msg reports success only after it transferred every file of the request: when its
publishes hold the result payload with `"success": true`, they are the complete transfers of
all the request's jobs, in order and each message sent, then that result. -/
theorem processMsg_successReport {msg : Inbound} {objs : Json} {items : InputItems}
    (parsed : cJSONParse msg.cString = some objs) (accepted : parseInput objs = some items)
    (env : Env) (past : List Effect) {sent : Bool}
    (reported : (ftResultTopic, resultPayload items.request.requestId true, sent) ∈
      publishes (processMsg cJSONParse msg env past).2) :
    ∃ attempts, BatchComplete noExpiry noExpiry items.request.jobs attempts ∧
      publishes (processMsg cJSONParse msg env past).2 =
        (attempts ++ [(Message.result items.request.requestId true, sent)]).map encode := by
  obtain ⟨calls, run, result⟩ := sendJobs_failFast items.request env items.request.jobs past
  rw [processMsg_of_accepted parsed accepted] at reported ⊢
  simp only [publishes_append, publishes_publishSendResult] at reported ⊢
  -- the report is not among the transfers' publishes, so it is the result's, with the flag set
  rw [List.mem_append, or_iff_right (ftResult_not_mem_sendJobs accepted env past _ _)] at reported
  split_ifs at reported ⊢ with fits
  · simp only [List.mem_singleton, encode, Message.topic, Message.payload, Prod.mk.injEq,
      true_and] at reported
    obtain ⟨flag, rfl⟩ := reported
    have allSent : (sendJobs items.request items.request.jobs env past).1 = 0 := by
      simpa using eq_of_resultPayload_eq flag.symm
    obtain ⟨complete, completed, whole⟩ := failFast_batchComplete run (result.mp allSent).1
      (result.mp allSent).2
    refine ⟨complete, whole, ?_⟩
    rw [completed, List.map_append, allSent]
    rfl
  · cases reported

/-- A request for the paths `a` and `b`, with `delete` 0. -/
def twoPathRequest : Json :=
  .object [(ascii "files", .array [.string (ascii "a"), .string (ascii "b")]),
    (ascii "fileids", .array [.string (ascii "1"), .string (ascii "2")]),
    (ascii "filenames", .array [.string (ascii "a"), .string (ascii "b")]),
    (ascii "request_id", .string (ascii "r")),
    (ascii "delete", .number 0)]

/-- What process_msg reads off `twoPathRequest`. -/
def twoPathJobs : Request :=
  { jobs := [⟨some (ascii "a"), some (ascii "1"), some (ascii "a")⟩,
      ⟨some (ascii "b"), some (ascii "2"), some (ascii "b")⟩],
    requestId := some (ascii "r"), segmentSize := 0, interval := 0, delete := some 0 }

/-- On `deletingFileSystem` both files of `twoPathRequest` are sent and deleted, and the
success report follows their complete transfers. -/
theorem twoPathRequest_successReport :
    ∃ attempts, BatchComplete noExpiry noExpiry twoPathJobs.jobs attempts ∧
      publishes (processMsg (fun _ => some twoPathRequest) emptyPublish deletingFileSystem []).2 =
        (attempts ++ [(Message.result twoPathJobs.requestId true, true)]).map encode := by
  obtain ⟨items, accepted⟩ : ∃ items, parseInput twoPathRequest = some items := ⟨_, rfl⟩
  have request : items.request = twoPathJobs := by
    have read : (parseInput twoPathRequest).map InputItems.request = some twoPathJobs := by
      decide
    simpa [accepted] using read
  rw [← request]
  refine processMsg_successReport rfl accepted deletingFileSystem [] ?_
  rw [processMsg_of_accepted rfl accepted, request]
  simp only [twoPathJobs, sendJobs_cons_apply, sendJob, sendFile_some_apply, publishFile,
    publishFileLoop_deletingFileSystem, sendJobs_nil_apply]
  decide

/-- A batch of complete transfers sends at least one empty payload per job: each transfer's fin. -/
theorem BatchComplete.length_le_sentEmpty {jobs : List Job} {attempts : List (Message × Bool)}
    (complete : BatchComplete noExpiry noExpiry jobs attempts) :
    jobs.length ≤ (attempts.map encode).countP sentEmpty := by
  induction complete with
  | nil => exact Nat.zero_le _
  | @cons job jobs attempts rest transfer _ inductionHypothesis =>
      obtain ⟨size, datas, rfl⟩ := transfer
      have fin : encode (.fin job.fileId size, true) ∈
          ((transferMessages job.fileId job.fileName size noExpiry noExpiry datas).map
            (·, true)).map encode := by
        simp [transferMessages]
      have sentFin : 0 < (((transferMessages job.fileId job.fileName size noExpiry noExpiry
          datas).map (·, true)).map encode).countP sentEmpty :=
        List.countP_pos_iff.mpr ⟨_, fin, rfl⟩
      rw [List.length_cons, List.map_append, List.countP_append]
      omega

/-- The result message is never empty. -/
theorem resultPayload_ne_nil (requestid : Option Bytes) (success : Bool) :
    resultPayload requestid success ≠ [] :=
  List.ne_nil_of_length_pos (by rw [length_resultPayload]; split <;> omega)

/-- process_msg never reports failure after a batch that transferred every file of the request:
when its publishes begin with the complete transfers of all the request's jobs, each message
sent, they hold no result payload with `"success": false`. -/
theorem processMsg_failureReport {msg : Inbound} {objs : Json} {items : InputItems}
    (parsed : cJSONParse msg.cString = some objs) (accepted : parseInput objs = some items)
    (env : Env) (past : List Effect) {attempts : List (Message × Bool)}
    (complete : BatchComplete noExpiry noExpiry items.request.jobs attempts)
    (transferred : attempts.map encode <+: publishes (processMsg cJSONParse msg env past).2)
    (sent : Bool) :
    (ftResultTopic, resultPayload items.request.requestId false, sent) ∉
      publishes (processMsg cJSONParse msg env past).2 := by
  obtain ⟨calls, run, result⟩ := sendJobs_failFast items.request env items.request.jobs past
  rw [processMsg_of_accepted parsed accepted] at transferred ⊢
  simp only [publishes_append, publishes_publishSendResult] at transferred ⊢
  -- every job sent its fin, and only a job that returned 0 sends one
  have reportQuiet : ∀ (flag reportSent : Bool), (if (resultPayload items.request.requestId
      flag).length < bufSize then [encode (.result items.request.requestId flag, reportSent)]
      else []).countP sentEmpty = 0 := fun flag reportSent => by
    split_ifs <;> simp [encode, Message.payload, sentEmpty, resultPayload_ne_nil]
  have enough : items.request.jobs.length ≤ calls.countP (·.2 == 0) :=
    calc items.request.jobs.length ≤ (attempts.map encode).countP sentEmpty :=
          complete.length_le_sentEmpty
      _ ≤ _ := transferred.sublist.countP_le _
      _ = calls.countP (·.2 == 0) := by
          rw [List.countP_append, failFast_sentEmpty run, reportQuiet, Nat.add_zero]
  have called : calls.length ≤ items.request.jobs.length := by
    simpa using congrArg List.length run.calls_prefix
  have bounded : calls.countP (·.2 == 0) ≤ calls.length := List.countP_le_length _
  have allZero : ∀ call ∈ calls, (call.2 == 0) = true :=
    List.countP_eq_length.mp (by omega)
  have succeeded : (sendJobs items.request items.request.jobs env past).1 = 0 :=
    result.mpr ⟨by omega, fun call member => by simpa using allZero call member⟩
  rw [List.mem_append, succeeded]
  rintro (member | reported)
  · exact ftResult_not_mem_sendJobs accepted env past _ _ member
  · split_ifs at reported
    · simp only [List.mem_singleton, encode, Message.payload, Prod.mk.injEq] at reported
      exact absurd (eq_of_resultPayload_eq reported.2.1) (by decide)
    · cases reported

/-- On `deletingFileSystem` the publishes of `twoPathRequest` begin with the complete transfers of
its two empty files, and no failure is reported. -/
theorem twoPathRequest_failureReport :
    (ftResultTopic, resultPayload twoPathJobs.requestId false, true) ∉
      publishes (processMsg (fun _ => some twoPathRequest) emptyPublish deletingFileSystem []).2 := by
  obtain ⟨items, accepted⟩ : ∃ items, parseInput twoPathRequest = some items := ⟨_, rfl⟩
  have request : items.request = twoPathJobs := by
    have read : (parseInput twoPathRequest).map InputItems.request = some twoPathJobs := by
      decide
    simpa [accepted] using read
  have complete : BatchComplete noExpiry noExpiry items.request.jobs
      ((transferMessages (some (ascii "1")) (some (ascii "a")) 0 noExpiry noExpiry []).map
          (·, true) ++
        ((transferMessages (some (ascii "2")) (some (ascii "b")) 0 noExpiry noExpiry []).map
          (·, true) ++ [])) := by
    rw [request]
    exact .cons ⟨0, [], rfl⟩ (.cons ⟨0, [], rfl⟩ .nil)
  rw [← request]
  refine processMsg_failureReport rfl accepted deletingFileSystem [] complete ?_ true
  rw [processMsg_of_accepted rfl accepted, request]
  simp only [twoPathJobs, sendJobs_cons_apply, sendJob, sendFile_some_apply, publishFile,
    publishFileLoop_deletingFileSystem, sendJobs_nil_apply]
  decide

/-- A request for one file whose request id is 10186 bytes long. -/
def longIdRequest : Json :=
  .object [(ascii "files", .array [.string (ascii "a")]),
    (ascii "fileids", .array [.string (ascii "1")]),
    (ascii "filenames", .array [.string (ascii "a")]),
    (ascii "request_id", .string (List.replicate 10186 97))]

/-- What process_msg reads off `longIdRequest`. -/
def longIdJobs : Request :=
  { jobs := [⟨some (ascii "a"), some (ascii "1"), some (ascii "a")⟩],
    requestId := some (List.replicate 10186 97), segmentSize := 0, interval := 0, delete := none }

/-- A request whose id is 10186 bytes long is accepted and its file sent, and no result is
published: the result payload reaches BUF_SIZE whatever the flag. -/
theorem processMsg_longIdRequest :
    processMsg (fun _ => some longIdRequest) emptyPublish deletingFileSystem [] =
      (0, [.fopen (some (ascii "a")) true, .flock .sh true, .ftell 0,
        .publish (initTopic (some (ascii "1")))
          (initialPayload (some (ascii "a")) 0 noExpiry noExpiry) true,
        .fread 10240 [], .flock .un true, .fclose,
        .publish (finTopic (some (ascii "1")) 0) [] true]) := by
  obtain ⟨items, accepted, request⟩ :
      ∃ items, parseInput longIdRequest = some items ∧ items.request = longIdJobs := by
    refine ⟨_, rfl, ?_⟩
    simp only [InputItems.request, longIdJobs, Json.valuestring, List.takeWhile_replicate,
      Request.mk.injEq]
    exact ⟨by decide, by rw [if_pos (by decide)], by decide, by decide, by decide⟩
  have unpublished : ∀ success past, publishSendResult (some (List.replicate 10186 97)) success
      deletingFileSystem past = (-1, []) := fun success past => by
    rw [publishSendResult, publishFormatted_of_overflow]
    simp only [List.all_cons, List.all_nil, Bool.and_true, decide_eq_false_iff_not, not_lt,
      length_resultPayload, cstr, List.length_replicate]
    split <;> decide
  rw [processMsg_of_accepted rfl accepted, request]
  simp only [longIdJobs, sendJobs_cons_apply, sendJob, sendFile_some_apply, publishFile,
    publishFileLoop_deletingFileSystem, unpublished, sendJobs_nil_apply]
  decide

/-- For every accepted request, process_msg deletes only in the deletion branch of a job whose
send_file returned 0, that job's path, once at most; nothing when `delete` is absent or
negative; and every such path, each right after its job, when `delete` is 0. -/
theorem processMsg_deletions {msg : Inbound} {objs : Json} {items : InputItems}
    (parsed : cJSONParse msg.cString = some objs) (accepted : parseInput objs = some items)
    (env : Env) (past : List Effect) :
    ∃ calls effects,
      FailFast (sendJob items.request) (fun job => deleteAfterSend items.request.delete job.path)
          env past items.request.jobs calls effects ∧
        effects <+: (processMsg cJSONParse msg env past).2 ∧
        List.Sublist (deletions (processMsg cJSONParse msg env past).2)
          ((calls.filter (·.2 == 0)).map (·.1.path)) ∧
        ((∀ value ∈ items.request.delete, value < 0) →
          deletions (processMsg cJSONParse msg env past).2 = []) ∧
        (items.request.delete = some 0 →
          deletions (processMsg cJSONParse msg env past).2 =
            (calls.filter (·.2 == 0)).map (·.1.path)) := by
  obtain ⟨calls, run, -⟩ := sendJobs_failFast items.request env items.request.jobs past
  obtain ⟨sublist, negative, zero⟩ := failFast_deletions run
  have resultQuiet : ∀ success past',
      deletions (publishSendResult items.request.requestId success env past').2 = [] :=
    fun _ _ => publishFormatted_deletions _ _ _ _ _
  rw [processMsg_of_accepted parsed accepted]
  exact ⟨calls, _, run, List.prefix_append _ _, by simpa [resultQuiet] using sublist,
    fun below => by simpa [resultQuiet] using negative below,
    fun isZero => by simpa [resultQuiet] using zero isZero⟩

/-- process_msg on `duplicatePathRequest` deletes within the bounds of the deletion branch. -/
theorem duplicatePathRequest_deletions :
    ∃ items, parseInput duplicatePathRequest = some items ∧
      ∃ calls effects,
        FailFast (sendJob items.request) (fun job => deleteAfterSend items.request.delete job.path)
            deletingFileSystem [] items.request.jobs calls effects ∧
          effects <+: (processMsg (fun _ => some duplicatePathRequest) emptyPublish
            deletingFileSystem []).2 ∧
          List.Sublist (deletions (processMsg (fun _ => some duplicatePathRequest) emptyPublish
              deletingFileSystem []).2)
            ((calls.filter (·.2 == 0)).map (·.1.path)) ∧
          ((∀ value ∈ items.request.delete, value < 0) →
            deletions (processMsg (fun _ => some duplicatePathRequest) emptyPublish
              deletingFileSystem []).2 = []) ∧
          (items.request.delete = some 0 →
            deletions (processMsg (fun _ => some duplicatePathRequest) emptyPublish
                deletingFileSystem []).2 =
              (calls.filter (·.2 == 0)).map (·.1.path)) :=
  ⟨_, rfl, @processMsg_deletions (fun _ => some duplicatePathRequest) emptyPublish
    duplicatePathRequest _ rfl rfl deletingFileSystem []⟩

/-- The first job sends `a` and deletes it; the second job, on the same path, then fails to
open it: the path of a failed job was deleted by the batch. -/
theorem processMsg_duplicatePathRequest :
    processMsg (fun _ => some duplicatePathRequest) emptyPublish deletingFileSystem [] =
      (0, [.fopen (some (ascii "a")) true, .flock .sh true, .ftell 0,
        .publish (initTopic (some (ascii "1")))
          (initialPayload (some (ascii "a")) 0 noExpiry noExpiry) true,
        .fread 10240 [], .flock .un true, .fclose,
        .publish (finTopic (some (ascii "1")) 0) [] true,
        .fileDelete (some (ascii "a")), .fopen (some (ascii "a")) false,
        .publish ftResultTopic (resultPayload (some (ascii "r")) false) true]) := by
  obtain ⟨items, accepted⟩ : ∃ items, parseInput duplicatePathRequest = some items :=
    ⟨_, rfl⟩
  have request : items.request = duplicatePathJobs := by
    have read : (parseInput duplicatePathRequest).map InputItems.request =
        some duplicatePathJobs := by decide
    simpa [accepted] using read
  rw [processMsg_of_accepted rfl accepted, request]
  simp only [duplicatePathJobs, sendJobs_cons_apply, sendJob, sendFile_some_apply, publishFile,
    publishFileLoop_deletingFileSystem, sendJobs_nil_apply]
  decide

/-! ### The receive loop -/

/-- start_listening's receive loop publishes, for each PUBLISH it received in turn, what
process_msg publishes for it. -/
theorem receiveLoop_sessionAttempts (received : List Received) (env : Env) (past : List Effect) :
    ∃ attempts, publishes (receiveLoop cJSONParse received env past).2 = attempts.map encode ∧
      SessionAttempts ((publishPackets received).map fun msg =>
        (cJSONParse msg.cString).bind parseInput) attempts := by
  induction received generalizing past with
  | nil => exact ⟨[], rfl, .nil⟩
  | cons packet rest inductionHypothesis =>
      cases packet with
      | failed => exact inductionHypothesis past
      | packet isPublish msg =>
          cases isPublish
          · exact inductionHypothesis past
          · obtain ⟨first, published, message⟩ := processMsg_messageAttempts msg env past
            obtain ⟨later, publishedLater, session⟩ :=
              inductionHypothesis (past ++ (processMsg cJSONParse msg env past).2)
            refine ⟨first ++ later, ?_, .cons message session⟩
            simp [receiveLoop, published, publishedLater]

/-- A whole session of start_listening: the subscription, then for each PUBLISH received in
turn, nothing when it is dropped, else a batch of transfers over its request's jobs and at most
one result; no message's publishes interleave with another's. -/
theorem startListening_sessionAttempts (received : List Received) (env : Env)
    (past : List Effect) :
    ∃ attempts, publishes (startListening cJSONParse received env past).2 = attempts.map encode ∧
      SessionAttempts ((publishPackets received).map fun msg =>
        (cJSONParse msg.cString).bind parseInput) attempts := by
  obtain ⟨attempts, published, session⟩ :=
    receiveLoop_sessionAttempts received env (past ++ [.subscribe ftSubTopic])
  exact ⟨attempts, by simp [startListening, nngMqttSubscribe, published], session⟩

end ProcessMsg

end MqttFileTransfer
