/-
Module: MqttFileTransfer.Proofs.Request
Layer: Proofs
Purpose: How process_msg reads a request. parse_input checks that four members exist and that
  the sizes of three of them agree, and nothing about their JSON types, so
  `processMsg_acts_iff` characterises the payloads process_msg acts on by `RequestShape`, a
  condition on members and sizes only: a non-string element reaches send_file as NULL, and a
  `delete` of any type acts through its `valueint`. Every deletion process_msg schedules comes
  from a positive `delete` and waits `delete * 1000` milliseconds computed in `int` and clamped
  above to seven days (`processMsg_scheduledDelay`): exact up to 2147483 seconds
  (`deletionDelay_of_le`), wrapped beyond (`deleteAfterSend_wrappedDelay`).
Trusted boundary: none beyond `Proc`'s and cJSON's.
  process_msg has `payload_len` but hands cJSON_Parse the bare payload pointer, so the parser
  reads up to the first NUL, past the payload when it holds none (`cString_of_unterminated`):
  the bytes after it in memory then decide whether the request is acted on
  (`processMsg_readsPastPayload`).
Main exports: deletionDelay_eq_min, deletionDelay_of_le, deleteAfterSend_sleepAio,
  failFast_sleepAio, processMsg_scheduledDelay, deleteAfterSend_wrappedDelay, RequestShape,
  parseInput_isSome_iff, processMsg_acts_iff, cString_of_unterminated, processMsg_readsPastPayload
-/
import MqttFileTransfer.Proofs.Batch
import MqttFileTransfer.Spec.JsonText

namespace MqttFileTransfer

/-! ### The deletion delay -/

/-- The delay is the `int` product `delete * 1000`, clamped above to seven days. -/
theorem deletionDelay_eq_min (value : Int) :
    deletionDelay value = min (toInt (value * 1000)) maxDelay7Days := by
  unfold deletionDelay
  rw [min_def]
  split_ifs <;> omega

/-- Up to 2147483 seconds the delay is `delete * 1000` milliseconds exactly, clamped to seven
days. -/
theorem deletionDelay_of_le (value : Int) (positive : 0 < value) (small : value ≤ 2147483) :
    deletionDelay value = min (value * 1000) maxDelay7Days := by
  have exact : toInt (value * 1000) = value * 1000 := by
    unfold toInt; norm_num; omega
  rw [deletionDelay_eq_min, exact]

/-- The deletion branch schedules a deletion only for a positive `delete`, with its delay. -/
theorem deleteAfterSend_sleepAio {delete : Option Int} {path scheduled : Option Bytes} {env : Env}
    {past : List Effect} {delay : Int}
    (member : Effect.sleepAio delay scheduled ∈ (deleteAfterSend delete path env past).2) :
    ∃ value, delete = some value ∧ 0 < value ∧ delay = deletionDelay value := by
  unfold deleteAfterSend at member
  cases delete with
  | none => cases member
  | some value =>
      refine ⟨value, rfl, ?_⟩
      dsimp only at member
      split_ifs at member with sign zero
      · simp [nngFileDelete] at member
      · cases granted : env.alloc past <;> simp [granted, nngSleepAio] at member
        exact ⟨by omega, member.1⟩
      · cases member

/-- Effects that delete nothing schedule nothing. -/
theorem sleepAio_not_mem {effects : List Effect} (quiet : deletions effects = []) (delay : Int)
    (path : Option Bytes) : Effect.sleepAio delay path ∉ effects := fun member => by
  simpa using List.filterMap_eq_nil_iff.mp quiet _ member

/-- Every deletion a fail-fast run of send_file schedules comes from a positive `delete`, with
its delay. -/
theorem failFast_sleepAio {request : Request} {env : Env} {past : List Effect} {jobs : List Job}
    {calls : List (Job × Int)} {effects : List Effect}
    (run : FailFast (sendJob request) (fun job => deleteAfterSend request.delete job.path) env
      past jobs calls effects) {delay : Int} {path : Option Bytes}
    (member : Effect.sleepAio delay path ∈ effects) :
    ∃ value, request.delete = some value ∧ 0 < value ∧ delay = deletionDelay value := by
  have quiet : ∀ job past, deletions (sendJob request job env past).2 = [] :=
    fun _ past => sendFile_deletions _ _ _ _ _ _ _ env past
  induction run with
  | done => cases member
  | @stop past job _ _ _ step _ =>
      have none := quiet job past
      rw [step] at none
      exact absurd member (sleepAio_not_mem none _ _)
  | @next past job _ _ _ _ _ step cleaned _ inductionHypothesis =>
      have none := quiet job past
      rw [step] at none
      rcases List.mem_append.mp member with member | member
      · rcases List.mem_append.mp member with member | member
        · exact absurd member (sleepAio_not_mem none _ _)
        · exact deleteAfterSend_sleepAio (by rw [cleaned]; exact member)
      · exact inductionHypothesis member

variable {cJSONParse : Bytes → Option Json} in
/-- For every accepted request and every `delete` value, each deletion process_msg schedules
with nng_sleep_aio comes from a positive `delete` and has the delay `delete * 1000` computed in
`int` and clamped above to seven days: exactly `min (delete * 1000) MAX_DELAY_7_DAYS`
milliseconds up to 2147483 seconds. -/
theorem processMsg_scheduledDelay {msg : Inbound} {objs : Json} {items : InputItems}
    (parsed : cJSONParse msg.cString = some objs) (accepted : parseInput objs = some items)
    (env : Env) (past : List Effect) {delay : Int} {path : Option Bytes}
    (scheduled : Effect.sleepAio delay path ∈ (processMsg cJSONParse msg env past).2) :
    ∃ value, items.request.delete = some value ∧ 0 < value ∧
      delay = min (toInt (value * 1000)) maxDelay7Days ∧
      (value ≤ 2147483 → delay = min (value * 1000) maxDelay7Days) := by
  obtain ⟨calls, run, -⟩ := sendJobs_failFast items.request env items.request.jobs past
  rw [processMsg_of_accepted parsed accepted] at scheduled
  rcases List.mem_append.mp scheduled with member | member
  · obtain ⟨value, delete, positive, rfl⟩ := failFast_sleepAio run member
    exact ⟨value, delete, positive, deletionDelay_eq_min value,
      deletionDelay_of_le value positive⟩
  · exact absurd member (sleepAio_not_mem (publishFormatted_deletions _ _ _ _ _) _ _)

/-- A request for the file `a` under the file id `1` that deletes it after one day. -/
def oneDayRequest : Json :=
  .object [(ascii "files", .array [.string (ascii "a")]),
    (ascii "fileids", .array [.string (ascii "1")]),
    (ascii "filenames", .array [.string (ascii "a")]),
    (ascii "request_id", .string (ascii "r")),
    (ascii "delete", .number 86400)]

/-- What process_msg reads off `oneDayRequest`. -/
def oneDayJobs : Request :=
  { jobs := [⟨some (ascii "a"), some (ascii "1"), some (ascii "a")⟩],
    requestId := some (ascii "r"), segmentSize := 0, interval := 0, delete := some 86400 }

/-- On the file system in which every file is empty, process_msg schedules the deletion of `a`
after 86400000 milliseconds, the delay of a `delete` of 86400. -/
theorem oneDayRequest_scheduledDelay :
    ∃ items, parseInput oneDayRequest = some items ∧
      Effect.sleepAio 86400000 (some (ascii "a")) ∈
        (processMsg (fun _ => some oneDayRequest) emptyPublish deletingFileSystem []).2 ∧
      ∃ value, items.request.delete = some value ∧ 0 < value ∧
        86400000 = min (toInt (value * 1000)) maxDelay7Days ∧
        (value ≤ 2147483 → (86400000 : Int) = min (value * 1000) maxDelay7Days) := by
  obtain ⟨items, accepted⟩ : ∃ items, parseInput oneDayRequest = some items := ⟨_, rfl⟩
  have member : Effect.sleepAio 86400000 (some (ascii "a")) ∈
      (processMsg (fun _ => some oneDayRequest) emptyPublish deletingFileSystem []).2 := by
    have request : items.request = oneDayJobs := by
      have read : (parseInput oneDayRequest).map InputItems.request = some oneDayJobs := by
        decide
      simpa [accepted] using read
    rw [processMsg_of_accepted rfl accepted, request]
    simp only [oneDayJobs, sendJobs_cons_apply, sendJob, sendFile_some_apply, publishFile,
      publishFileLoop_deletingFileSystem, sendJobs_nil_apply]
    decide
  exact ⟨items, accepted, member, processMsg_scheduledDelay rfl accepted deletingFileSystem [] member⟩

/-- With `delete` 600000000 the product overflows `int` and wraps to -1295421440, which the
seven-day clamp lets through: the deletion is scheduled with a negative delay. -/
theorem deleteAfterSend_wrappedDelay (path : Option Bytes) (env : Env) (past : List Effect) :
    deleteAfterSend (some 600000000) path env past =
      ((), .alloc (env.alloc past) ::
        if env.alloc past then [.sleepAio (-1295421440) path] else []) := by
  have wrapped : deletionDelay 600000000 = -1295421440 := by decide
  cases granted : env.alloc past <;> simp [deleteAfterSend, granted, nngSleepAio, wrapped]

/-! ### What parse_input accepts -/

/-- The payloads parse_input accepts: the members `files`, `filenames`, `fileids` and
`request_id`, found case-insensitively and of any JSON type, `files` with at least one child
and as many as `fileids` and `filenames`. -/
def RequestShape (objs : Json) : Prop :=
  ∃ files filenames fileids requestid,
    getObjectItem objs (ascii "files") = some files ∧
      getObjectItem objs (ascii "filenames") = some filenames ∧
      getObjectItem objs (ascii "fileids") = some fileids ∧
      getObjectItem objs (ascii "request_id") = some requestid ∧
      0 < getArraySize files ∧ getArraySize fileids = getArraySize files ∧
      getArraySize filenames = getArraySize files

/-- parse_input accepts exactly the documents of `RequestShape`. -/
theorem parseInput_isSome_iff (objs : Json) : (parseInput objs).isSome ↔ RequestShape objs := by
  unfold parseInput RequestShape
  split
  · rename_i files filenames fileids requestid hfiles hfilenames hfileids hrequestid
    simp only [hfiles, hfilenames, hfileids, hrequestid, Option.some.injEq, exists_eq_left']
    split_ifs <;> simp <;> omega
  · rename_i missing
    simp only [Option.isSome_none, Bool.false_eq_true, false_iff, not_exists, not_and]
    intro files filenames fileids requestid hfiles hfilenames hfileids hrequestid
    exact (missing files filenames fileids requestid hfiles hfilenames hfileids hrequestid).elim

/-- process_msg has an effect (it calls send_file on the first job) exactly when the payload
parses to a document of `RequestShape`: no JSON type is checked. -/
theorem processMsg_acts_iff (cJSONParse : Bytes → Option Json) (msg : Inbound) (env : Env)
    (past : List Effect) :
    (processMsg cJSONParse msg env past).2 ≠ [] ↔
      ∃ objs, cJSONParse msg.cString = some objs ∧ RequestShape objs := by
  constructor
  · intro acted
    cases decoded : (cJSONParse msg.cString).bind parseInput with
    | none => exact absurd (by rw [processMsg_of_rejected decoded]) acted
    | some items =>
        obtain ⟨objs, parsed, accepted⟩ := Option.bind_eq_some.mp decoded
        exact ⟨objs, parsed, (parseInput_isSome_iff objs).mp (by simp [accepted])⟩
  · rintro ⟨objs, parsed, shape⟩
    obtain ⟨items, accepted⟩ :=
      Option.isSome_iff_exists.mp ((parseInput_isSome_iff objs).mpr shape)
    obtain ⟨job, jobs, split⟩ :=
      List.exists_cons_of_ne_nil (InputItems.request_jobs_ne_nil accepted)
    rw [processMsg_of_accepted parsed accepted, split]
    exact List.append_ne_nil_of_left_ne_nil (sendJobs_cons_ne_nil items.request job jobs env past) _

/-- A request whose file id is a number and whose `delete` is `false`. -/
def untypedRequest : Json :=
  .object [(ascii "files", .array [.string (ascii "a")]),
    (ascii "fileids", .array [.number 7]),
    (ascii "filenames", .array [.string (ascii "a")]),
    (ascii "request_id", .string (ascii "r")),
    (ascii "delete", .bool false)]

/-- What process_msg reads off `untypedRequest`: a NULL file id and a `delete` of 0. -/
def untypedJobs : Request :=
  { jobs := [⟨some (ascii "a"), none, some (ascii "a")⟩],
    requestId := some (ascii "r"), segmentSize := 0, interval := 0, delete := some 0 }

/-- process_msg sends `a` under the file id `(null)` and then deletes it at once, as `false`
reads as 0. -/
theorem processMsg_untypedRequest :
    processMsg (fun _ => some untypedRequest) emptyPublish deletingFileSystem [] =
      (0, [.fopen (some (ascii "a")) true, .flock .sh true, .ftell 0,
        .publish (initTopic none) (initialPayload (some (ascii "a")) 0 noExpiry noExpiry) true,
        .fread 10240 [], .flock .un true, .fclose, .publish (finTopic none 0) [] true,
        .fileDelete (some (ascii "a")),
        .publish ftResultTopic (resultPayload (some (ascii "r")) true) true]) := by
  obtain ⟨items, accepted⟩ : ∃ items, parseInput untypedRequest = some items := ⟨_, rfl⟩
  have request : items.request = untypedJobs := by
    have read : (parseInput untypedRequest).map InputItems.request = some untypedJobs := by
      decide
    simpa [accepted] using read
  rw [processMsg_of_accepted rfl accepted, request]
  simp only [untypedJobs, sendJobs_cons_apply, sendJob, sendFile_some_apply, publishFile,
    publishFileLoop_deletingFileSystem, sendJobs_nil_apply]
  decide

/-! ### The text cJSON_Parse reads -/

/-- A payload without a NUL is read whole, and then the bytes after it up to the first NUL. -/
theorem cString_of_unterminated {msg : Inbound} (unterminated : 0 ∉ msg.payload) :
    msg.cString = msg.payload ++ msg.following.takeWhile (· ≠ 0) :=
  List.takeWhile_append_of_pos fun _ member =>
    decide_eq_true fun nul => unterminated (nul ▸ member)

/-- The text of a request for the file `a` under the file id `1`, without its closing brace. -/
def openRequestText : Bytes :=
  ascii "\x7b\"files\":[\"a\"],\"filenames\":[\"a\"],\"fileids\":[\"1\"],\"request_id\":\"r\""

/-- The request `openRequestText` is once its brace is closed. -/
def closedRequest : Json :=
  .object [(ascii "files", .array [.string (ascii "a")]),
    (ascii "filenames", .array [.string (ascii "a")]),
    (ascii "fileids", .array [.string (ascii "1")]),
    (ascii "request_id", .string (ascii "r"))]

/-- Two messages with the payload `openRequestText` and no NUL in it, one followed in memory by
`}` and a NUL, the other by a NUL: for any parser that reads the closed request and rejects the
open one, process_msg publishes for the first, on every file system, and does nothing for the
second. -/
theorem processMsg_readsPastPayload (cJSONParse : Bytes → Option Json)
    (closes : cJSONParse (openRequestText ++ ascii "\x7d") = some closedRequest)
    (truncated : cJSONParse openRequestText = none) (env : Env) (past : List Effect) :
    (⟨openRequestText, ascii "\x7d" ++ [0]⟩ : Inbound).payload =
        (⟨openRequestText, [0]⟩ : Inbound).payload ∧
      publishes (processMsg cJSONParse ⟨openRequestText, ascii "\x7d" ++ [0]⟩ env past).2 ≠ [] ∧
      (processMsg cJSONParse ⟨openRequestText, [0]⟩ env past).2 = [] := by
  have unterminated : (0 : UInt8) ∉ openRequestText := by decide
  obtain ⟨items, accepted⟩ : ∃ items, parseInput closedRequest = some items := ⟨_, rfl⟩
  have requestId : items.request.requestId = some (ascii "r") := by
    have read : (parseInput closedRequest).map (·.request.requestId) = some (some (ascii "r")) :=
      rfl
    simpa [accepted] using read
  have fits : ∀ success, (resultPayload (some (ascii "r")) success).length < bufSize := by
    intro success
    cases success <;> decide
  refine ⟨rfl, ?_, ?_⟩
  · rw [processMsg_of_accepted (by rw [cString_of_unterminated unterminated]; exact closes)
      accepted]
    simp [requestId, publishes_publishSendResult, fits]
  · rw [processMsg_of_rejected (by rw [cString_of_unterminated unterminated]; simp [truncated])]

/-- Under the RFC 8259 reading, on the file system in which every file is empty: the closed
request is acted on, the open one dropped. -/
theorem decodeJson_readsPastPayload :
    decodeJson (openRequestText ++ ascii "\x7d") = some closedRequest ∧
      decodeJson openRequestText = none ∧
      (⟨openRequestText, ascii "\x7d" ++ [0]⟩ : Inbound).payload =
          (⟨openRequestText, [0]⟩ : Inbound).payload ∧
        publishes (processMsg decodeJson ⟨openRequestText, ascii "\x7d" ++ [0]⟩ deletingFileSystem
          []).2 ≠ [] ∧
        (processMsg decodeJson ⟨openRequestText, [0]⟩ deletingFileSystem []).2 = [] :=
  ⟨rfl, rfl, processMsg_readsPastPayload decodeJson rfl rfl deletingFileSystem []⟩

end MqttFileTransfer
