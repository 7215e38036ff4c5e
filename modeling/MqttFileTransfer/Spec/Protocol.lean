/-
Module: MqttFileTransfer.Spec.Protocol
Layer: Spec
Purpose: The transfer protocol above the bytes. A `Message` is an init, a chunk, a fin or a
  result; `Message.topic` and `Message.payload` are the bytes the client formats for it, so a
  publish effect is the encoding of a message attempt. One file's transfer is
  `transferMessages`: init, chunks at offsets that advance by each payload's length (in
  `size_t`), fin with the init's size. `TransferAttempts` says what a transfer that may stop
  anywhere publishes, `TransferComplete` what a successful one does, and `BatchAttempts` strings
  them together over a request's jobs (`BatchComplete` when every job succeeded); `TransferRun` is
  what one run of send_file publishes.
  `deletions` lists the paths a run deletes or schedules for deletion, `bytesRead` counts the
  bytes its reads returned and `bytesPublished` the payload bytes it published. `FailFast` is
  the shape of a fail-fast loop over jobs for any per-job step; the jobs it calls are a prefix of
  the jobs (`FailFast.calls_prefix`).
Trusted boundary: none
Main exports: Message, Message.topic, Message.payload, encode, publishes, deletions, bytesRead,
  bytesPublished, chunkMessages, ChunkAttempts, transferMessages, TransferAttempts,
  TransferComplete, TransferRun, BatchAttempts, BatchComplete, FailFast,
  FailFast.calls_prefix
-/
import MqttFileTransfer.Model.CJson
import MqttFileTransfer.Model.Publish

namespace MqttFileTransfer

/-- A message of the protocol. -/
inductive Message where
  | init (fileId fileName : Option Bytes) (size : Int) (expireTime segmentsTtl : Nat)
  | chunk (fileId : Option Bytes) (offset : Nat) (data : Bytes)
  | fin (fileId : Option Bytes) (size : Int)
  | result (requestId : Option Bytes) (success : Bool)
deriving DecidableEq, Repr

namespace Message

/-- The topic the client publishes a message on. -/
def topic : Message → Bytes
  | .init fileId .. => initTopic fileId
  | .chunk fileId offset _ => chunkTopic fileId offset
  | .fin fileId size => finTopic fileId size
  | .result .. => ftResultTopic

/-- The payload the client publishes for a message. -/
def payload : Message → Bytes
  | .init _ fileName size expireTime segmentsTtl =>
      initialPayload fileName size expireTime segmentsTtl
  | .chunk _ _ data => data
  | .fin .. => []
  | .result requestId success => resultPayload requestId success

/-- Whether a message belongs to a file's transfer (an init, a chunk or a fin) rather than
being a batch's result. -/
def isTransfer : Message → Bool
  | .result .. => false
  | _ => true

/-- A transfer message is never published on the result topic: its topic starts with `$`. -/
theorem topic_ne_ftResultTopic {message : Message} (transfer : message.isTransfer) :
    message.topic ≠ ftResultTopic := by
  intro same
  have heads := congrArg List.head? same
  cases message <;>
    simp [isTransfer, topic, initTopic, chunkTopic, finTopic, ascii,
      ftResultTopic] at transfer heads
  all_goals exact absurd heads (by decide)

end Message

/-- A publish attempt of a message as the publish effect records it: topic, payload, sent. -/
def encode (attempt : Message × Bool) : Bytes × Bytes × Bool :=
  (attempt.1.topic, attempt.1.payload, attempt.2)

/-- The publish attempt an effect records, if it is one. -/
@[simp] def publishOf : Effect → Option (Bytes × Bytes × Bool)
  | .publish topic payload sent => some (topic, payload, sent)
  | _ => none

/-- The publish attempts among some effects, in order. -/
def publishes (effects : List Effect) : List (Bytes × Bytes × Bool) := effects.filterMap publishOf

@[simp] theorem publishes_nil : publishes [] = [] := rfl

@[simp] theorem publishes_append (first second : List Effect) :
    publishes (first ++ second) = publishes first ++ publishes second :=
  List.filterMap_append _ _ _

@[simp] theorem publishes_cons (effect : Effect) (rest : List Effect) :
    publishes (effect :: rest) = (publishOf effect).toList ++ publishes rest := by
  cases h : publishOf effect <;> simp only [publishes, List.filterMap_cons, h] <;> rfl

/-- The path an effect deletes or schedules for deletion, if it is a deletion. -/
@[simp] def deletionOf : Effect → Option (Option Bytes)
  | .fileDelete path => some path
  | .sleepAio _ path => some path
  | _ => none

/-- The paths deleted or scheduled for deletion among some effects, in order. -/
def deletions (effects : List Effect) : List (Option Bytes) := effects.filterMap deletionOf

@[simp] theorem deletions_nil : deletions [] = [] := rfl

@[simp] theorem deletions_append (first second : List Effect) :
    deletions (first ++ second) = deletions first ++ deletions second :=
  List.filterMap_append _ _ _

@[simp] theorem deletions_cons (effect : Effect) (rest : List Effect) :
    deletions (effect :: rest) = (deletionOf effect).toList ++ deletions rest := by
  cases h : deletionOf effect <;> simp only [deletions, List.filterMap_cons, h] <;> rfl

/-- The number of bytes an effect read, if it is a read. -/
@[simp] def readLength : Effect → Nat
  | .fread _ data => data.length
  | _ => 0

/-- The number of bytes the reads among some effects returned. -/
def bytesRead (effects : List Effect) : Nat := (effects.map readLength).sum

@[simp] theorem bytesRead_nil : bytesRead [] = 0 := rfl

@[simp] theorem bytesRead_append (first second : List Effect) :
    bytesRead (first ++ second) = bytesRead first + bytesRead second := by
  simp [bytesRead]

@[simp] theorem bytesRead_cons (effect : Effect) (rest : List Effect) :
    bytesRead (effect :: rest) = readLength effect + bytesRead rest := by
  simp [bytesRead]

/-- The payload bytes an effect publishes. -/
@[simp] def publishLength : Effect → Nat
  | .publish _ payload _ => payload.length
  | _ => 0

/-- The payload bytes a run publishes, sent or not. -/
def bytesPublished (effects : List Effect) : Nat := (effects.map publishLength).sum

@[simp] theorem bytesPublished_nil : bytesPublished [] = 0 := rfl

@[simp] theorem bytesPublished_append (first second : List Effect) :
    bytesPublished (first ++ second) = bytesPublished first + bytesPublished second := by
  simp [bytesPublished]

@[simp] theorem bytesPublished_cons (effect : Effect) (rest : List Effect) :
    bytesPublished (effect :: rest) = publishLength effect + bytesPublished rest := by
  simp [bytesPublished]

/-- Attempts whose messages are `messages` and which were all sent are those messages, each
sent. -/
theorem eq_map_sent {attempts : List (Message × Bool)} {messages : List Message}
    (sameMessages : attempts.map Prod.fst = messages)
    (allSent : ∀ attempt ∈ attempts, attempt.2 = true) :
    attempts = messages.map (·, true) := by
  subst sameMessages
  induction attempts with
  | nil => rfl
  | cons attempt attempts inductionHypothesis =>
      simp only [List.mem_cons, forall_eq_or_imp] at allSent
      simp only [List.map_cons, List.cons.injEq]
      exact ⟨Prod.ext rfl allSent.1, inductionHypothesis allSent.2⟩

/-- A sent attempt in front keeps "every attempt but the last one sent". -/
theorem sent_dropLast_cons {attempt : Message × Bool} {attempts : List (Message × Bool)}
    (sent : attempt.2 = true) (rest : ∀ other ∈ attempts.dropLast, other.2 = true) :
    ∀ other ∈ (attempt :: attempts).dropLast, other.2 = true := by
  cases attempts with
  | nil => simp
  | cons next attempts =>
      simp only [List.dropLast_cons₂, List.mem_cons, forall_eq_or_imp]
      exact ⟨sent, rest⟩

/-- The chunk messages of a transfer from `offset` whose chunk payloads are `datas`: each chunk
starts where the one before it ended, in `size_t` arithmetic. -/
def chunkMessages (fileId : Option Bytes) : Nat → List Bytes → List Message
  | _, [] => []
  | offset, data :: datas =>
      .chunk fileId offset data :: chunkMessages fileId ((offset + data.length) % 2 ^ 64) datas

/-- One file's whole transfer: init announcing `size`, the chunks from offset 0, fin with the
same size. -/
def transferMessages (fileId fileName : Option Bytes) (size : Int) (expireTime segmentsTtl : Nat)
    (datas : List Bytes) : List Message :=
  .init fileId fileName size expireTime segmentsTtl :: chunkMessages fileId 0 datas ++
    [.fin fileId size]

/-- What a run of publish_file's loop from `offset` publishes: the chunk messages of the
payloads it read, in order, each attempt but the last one sent; the run returns 0, with every
attempt sent, or -1. -/
def ChunkAttempts (fileId : Option Bytes) (offset : Nat) (run : Int × List Effect) : Prop :=
  ∃ (datas : List Bytes) (attempts : List (Message × Bool)),
    publishes run.2 = attempts.map encode ∧
      attempts.map Prod.fst = chunkMessages fileId offset datas ∧
      (∀ attempt ∈ attempts.dropLast, attempt.2 = true) ∧
      (run.1 = 0 ∧ (∀ attempt ∈ attempts, attempt.2 = true) ∨ run.1 = -1)

/-- The publish attempts of one transfer that may stop anywhere: a prefix of the transfer's
messages, every attempt but the last one sent. -/
def TransferAttempts (fileId fileName : Option Bytes) (expireTime segmentsTtl : Nat)
    (attempts : List (Message × Bool)) : Prop :=
  ∃ size datas,
    attempts.map Prod.fst <+: transferMessages fileId fileName size expireTime segmentsTtl datas ∧
      ∀ attempt ∈ attempts.dropLast, attempt.2 = true

/-- The publish attempts of a successful transfer: all its messages, each sent. -/
def TransferComplete (fileId fileName : Option Bytes) (expireTime segmentsTtl : Nat)
    (attempts : List (Message × Bool)) : Prop :=
  ∃ size datas,
    attempts = (transferMessages fileId fileName size expireTime segmentsTtl datas).map (·, true)

/-- A complete transfer is one of the transfers that may stop anywhere. -/
theorem TransferComplete.attempts {fileId fileName : Option Bytes} {expireTime segmentsTtl : Nat}
    {attempts : List (Message × Bool)}
    (complete : TransferComplete fileId fileName expireTime segmentsTtl attempts) :
    TransferAttempts fileId fileName expireTime segmentsTtl attempts := by
  obtain ⟨size, datas, rfl⟩ := complete
  refine ⟨size, datas, by simp [Function.comp_def], fun attempt member => ?_⟩
  obtain ⟨message, -, rfl⟩ := List.mem_map.mp (List.dropLast_subset _ member)
  rfl

/-- What a run of send_file publishes: the attempts of a transfer that may stop anywhere, a
complete transfer when the run returns 0. -/
def TransferRun (fileId fileName : Option Bytes) (expireTime segmentsTtl : Nat)
    (run : Int × List Effect) : Prop :=
  ∃ attempts, publishes run.2 = attempts.map encode ∧
    TransferAttempts fileId fileName expireTime segmentsTtl attempts ∧
    (run.1 = 0 → TransferComplete fileId fileName expireTime segmentsTtl attempts)

/-- Every chunk message is a transfer message. -/
theorem isTransfer_of_mem_chunkMessages {fileId : Option Bytes} {offset : Nat}
    {datas : List Bytes} {message : Message}
    (member : message ∈ chunkMessages fileId offset datas) :
    message.isTransfer := by
  induction datas generalizing offset with
  | nil => simp [chunkMessages] at member
  | cons data datas inductionHypothesis =>
      rcases List.mem_cons.mp member with rfl | member
      · rfl
      · exact inductionHypothesis member

/-- Every message of a transfer is a transfer message. -/
theorem isTransfer_of_mem_transferMessages {fileId fileName : Option Bytes} {size : Int}
    {expireTime segmentsTtl : Nat} {datas : List Bytes} {message : Message}
    (member : message ∈ transferMessages fileId fileName size expireTime segmentsTtl datas) :
    message.isTransfer := by
  simp only [transferMessages, List.cons_append, List.mem_cons, List.mem_append,
    List.not_mem_nil, or_false] at member
  rcases member with rfl | member | rfl
  · rfl
  · exact isTransfer_of_mem_chunkMessages member
  · rfl

/-- Every attempt of a transfer is of a transfer message. -/
theorem TransferAttempts.isTransfer {fileId fileName : Option Bytes} {expireTime segmentsTtl : Nat}
    {attempts : List (Message × Bool)}
    (transfer : TransferAttempts fileId fileName expireTime segmentsTtl attempts) :
    ∀ attempt ∈ attempts, attempt.1.isTransfer := by
  obtain ⟨size, datas, messages, -⟩ := transfer
  exact fun attempt member =>
    isTransfer_of_mem_transferMessages (messages.subset (List.mem_map_of_mem _ member))

/-- The publish attempts of a batch over `jobs`: complete transfers of the first jobs, then
one transfer that may stop anywhere, after which the batch attempts nothing more. -/
inductive BatchAttempts (expireTime segmentsTtl : Nat) :
    List Job → List (Message × Bool) → Prop
  | last {job : Job} {jobs : List Job} {attempts : List (Message × Bool)} :
      TransferAttempts job.fileId job.fileName expireTime segmentsTtl attempts →
      BatchAttempts expireTime segmentsTtl (job :: jobs) attempts
  | next {job : Job} {jobs : List Job} {attempts rest : List (Message × Bool)} :
      TransferComplete job.fileId job.fileName expireTime segmentsTtl attempts →
      BatchAttempts expireTime segmentsTtl jobs rest →
      BatchAttempts expireTime segmentsTtl (job :: jobs) (attempts ++ rest)

/-- Every attempt of a batch is of a transfer message. -/
theorem BatchAttempts.isTransfer {expireTime segmentsTtl : Nat} {jobs : List Job}
    {attempts : List (Message × Bool)}
    (batch : BatchAttempts expireTime segmentsTtl jobs attempts) :
    ∀ attempt ∈ attempts, attempt.1.isTransfer := by
  induction batch with
  | last transfer => exact transfer.isTransfer
  | next complete _ inductionHypothesis =>
      intro attempt member
      rcases List.mem_append.mp member with member | member
      · exact complete.attempts.isTransfer attempt member
      · exact inductionHypothesis attempt member

/-- The publish attempts of a batch in which every job succeeded: the complete transfers of all
the jobs, in order. -/
inductive BatchComplete (expireTime segmentsTtl : Nat) :
    List Job → List (Message × Bool) → Prop
  | nil : BatchComplete expireTime segmentsTtl [] []
  | cons {job : Job} {jobs : List Job} {attempts rest : List (Message × Bool)} :
      TransferComplete job.fileId job.fileName expireTime segmentsTtl attempts →
      BatchComplete expireTime segmentsTtl jobs rest →
      BatchComplete expireTime segmentsTtl (job :: jobs) (attempts ++ rest)

/-- A fail-fast run over jobs: `step` runs on the jobs in order, each from the history the
earlier ones left; `after` runs after each step that returned 0; the run stops after the first
step that returned anything else. `calls` lists the jobs `step` ran on with what it returned,
and the last index is the effects of the whole run. -/
inductive FailFast (step : Job → Proc Int) (after : Job → Proc Unit) (env : Env) :
    List Effect → List Job → List (Job × Int) → List Effect → Prop
  | done {past : List Effect} : FailFast step after env past [] [] []
  | stop {past : List Effect} {job : Job} {jobs : List Job} {result : Int}
      {effects : List Effect} :
      step job env past = (result, effects) → result ≠ 0 →
      FailFast step after env past (job :: jobs) [(job, result)] effects
  | next {past : List Effect} {job : Job} {jobs : List Job} {effects cleanup : List Effect}
      {calls : List (Job × Int)} {rest : List Effect} :
      step job env past = (0, effects) → after job env (past ++ effects) = ((), cleanup) →
      FailFast step after env (past ++ effects ++ cleanup) jobs calls rest →
      FailFast step after env past (job :: jobs) ((job, 0) :: calls) (effects ++ cleanup ++ rest)

namespace FailFast

variable {step : Job → Proc Int} {after : Job → Proc Unit} {env : Env} {past : List Effect}
  {jobs : List Job} {calls : List (Job × Int)} {effects : List Effect}

/-- The jobs a fail-fast run calls `step` on are a prefix of the jobs, in order. -/
theorem calls_prefix (run : FailFast step after env past jobs calls effects) :
    calls.map Prod.fst = jobs.take calls.length := by
  induction run with
  | done => rfl
  | stop => simp
  | next _ _ _ inductionHypothesis => simp [inductionHypothesis]

end FailFast

end MqttFileTransfer
