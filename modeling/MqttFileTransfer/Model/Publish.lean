/-
Module: MqttFileTransfer.Model.Publish
Layer: Model
Purpose: The client's outbound messages (lines 53-199 and 308-334): client_publish, and the
  three functions that format a topic and a payload with `snprintf`, check what it returned
  against the bound it was given, and publish. The checks are the family's only difference, so
  `publishFormatted` takes the list of (formatted text, bound) pairs and each source function is
  it applied to its own pairs: publish_send_result checks its payload against BUF_SIZE,
  publish_initial its payload against BUF_SIZE and its topic against TOPIC_LEN, publish_fin its
  topic against BUF_SIZE. The formatting functions give the exact bytes of every topic and
  payload.
Trusted boundary: `fatal` in client_publish logs and returns, as the spec's PublishFailure and
  the `continue` after `fatal` in start_listening read it. Every `snprintf` whose result passes
  its check is a complete write of the formatted text. For publish_fin and publish_file this
  is the source's bound, not its buffer: they format into `char topic[TOPIC_LEN]` under the
  bound BUF_SIZE, so a topic of 1024 to 10239 bytes passes the check and writes past the
  1024-byte stack buffer. That is undefined behaviour; the model publishes the whole topic
  there, one outcome of it, and the theorems that need the write to be defined take as a
  hypothesis that the topic fits TOPIC_LEN. The model is of a build without _FORTIFY_SOURCE:
  with it, the object-size check of every chunk and fin `snprintf` sees the bound BUF_SIZE
  exceed the buffer and aborts, whatever the topic's length.
Main exports: ftSubTopic, ftResultTopic, resultPayload, initialPayload, initTopic, chunkTopic,
  finTopic, clientPublish, publishFormatted, publishSendResult, publishInitial, publishFin
-/
import MqttFileTransfer.Model.Proc

namespace MqttFileTransfer

/-- `#define FT_SUB_TOPIC "file_transfer"`, the control channel. -/
def ftSubTopic : Bytes := ascii "file_transfer"

/-- `#define FT_RESULT_TOPIC "file_transfer/result"`, the result channel. -/
def ftResultTopic : Bytes := ascii "file_transfer/result"

/-- The payload publish_send_result formats:
`{  "request-id": "%s",  "success": %s,  "message": "%s"}` with an empty message. -/
def resultPayload (requestid : Option Bytes) (success : Bool) : Bytes :=
  ascii "\x7b  \"request-id\": \"" ++ cstr requestid ++ ascii "\",  \"success\": " ++
    ascii (if success then "true" else "false") ++ ascii ",  \"message\": \"" ++ ascii "" ++
    ascii "\"\x7d"

/-- The optional `expire_at` line of the initial payload: present unless the argument is
`(unsigned long) -1`. -/
def expireAtField (expireTime : Nat) : Bytes :=
  if expireTime ≠ 2 ^ 64 - 1 then
    ascii "  \"expire_at\": " ++ formatLong (asLong expireTime) ++ ascii ",\n"
  else []

/-- The optional `segments_ttl` line of the initial payload. -/
def segmentsTtlField (segmentsTtl : Nat) : Bytes :=
  if segmentsTtl ≠ 2 ^ 64 - 1 then
    ascii "  \"segments_ttl\": " ++ formatLong (asLong segmentsTtl) ++ ascii ",\n"
  else []

/-- The payload publish_initial formats: the file name, the size, the optional lines, and an
empty `user_data` object. -/
def initialPayload (fileName : Option Bytes) (fileSize : Int) (expireTime segmentsTtl : Nat) :
    Bytes :=
  ascii "\x7b\"name\": \"" ++ cstr fileName ++ ascii "\",\"size\": " ++ formatLong fileSize ++
    ascii "," ++ expireAtField expireTime ++ segmentsTtlField segmentsTtl ++
    ascii "  \"user_data\": \x7b\x7d\n\x7d"

/-- `$file/{file_id}/init`. -/
def initTopic (fileId : Option Bytes) : Bytes := ascii "$file/" ++ cstr fileId ++ ascii "/init"

/-- `$file/{file_id}/{offset}`, the offset printed with `%lu`. -/
def chunkTopic (fileId : Option Bytes) (offset : Nat) : Bytes :=
  ascii "$file/" ++ cstr fileId ++ ascii "/" ++ decimal offset

/-- `$file/{file_id}/fin/{file_size}`, the size printed with `%ld`. -/
def finTopic (fileId : Option Bytes) (fileSize : Int) : Bytes :=
  ascii "$file/" ++ cstr fileId ++ ascii "/fin/" ++ formatLong fileSize

/-- client_publish: a QoS 1 PUBLISH of `payload` on `topic`; whether `nng_sendmsg` returned 0
(a failure goes through `fatal`, which logs). -/
def clientPublish (topic payload : Bytes) : Proc Bool := nngSendmsg topic payload

/-- The shape the publish functions share: every `snprintf` result must be below the bound it
was given (else -1 with nothing published), then one publish, 0 exactly when it was sent. -/
def publishFormatted (checks : List (Bytes × Nat)) (topic payload : Bytes) : Proc Int :=
  if checks.all fun (text, bound) => text.length < bound then do
    let sent ← clientPublish topic payload
    pure (if sent then 0 else -1)
  else pure (-1)

/-- publish_send_result (lines 83-125): the result payload is checked against BUF_SIZE; the
topic is copied with `strcpy`, unchecked. -/
def publishSendResult (requestid : Option Bytes) (success : Bool) : Proc Int :=
  publishFormatted [(resultPayload requestid success, bufSize)] ftResultTopic
    (resultPayload requestid success)

/-- publish_initial (lines 127-199): the payload is checked against BUF_SIZE, the topic
against TOPIC_LEN. -/
def publishInitial (fileId fileName : Option Bytes) (fileSize : Int)
    (expireTime segmentsTtl : Nat) : Proc Int :=
  publishFormatted
    [(initialPayload fileName fileSize expireTime segmentsTtl, bufSize),
      (initTopic fileId, topicLen)]
    (initTopic fileId) (initialPayload fileName fileSize expireTime segmentsTtl)

/-- publish_fin (lines 308-334): the topic is formatted into its TOPIC_LEN buffer but checked
against BUF_SIZE; the payload is empty. A topic of 1024 to 10239 bytes overflows the buffer
(undefined behaviour); the model publishes it whole, as the module's trusted boundary says. -/
def publishFin (fileId : Option Bytes) (fileSize : Int) : Proc Int :=
  publishFormatted [(finTopic fileId fileSize, bufSize)] (finTopic fileId fileSize) []

/-- The result payload is 54 bytes around the request id, one more for `false`. -/
theorem length_resultPayload (requestid : Option Bytes) (success : Bool) :
    (resultPayload requestid success).length =
      (cstr requestid).length + if success then 54 else 55 := by
  cases success <;> simp [resultPayload, String.length] <;> omega

/-- The init topic is 11 bytes around the file id. -/
theorem length_initTopic (fileId : Option Bytes) :
    (initTopic fileId).length = (cstr fileId).length + 11 := by
  simp [initTopic, String.length]; omega

/-- A chunk topic is 7 bytes around the file id, then the offset's digits. -/
theorem length_chunkTopic (fileId : Option Bytes) (offset : Nat) :
    (chunkTopic fileId offset).length = (cstr fileId).length + 7 + (decimal offset).length := by
  simp [chunkTopic, String.length]; omega

/-- The fin topic is 11 bytes around the file id, then the size's text. -/
theorem length_finTopic (fileId : Option Bytes) (fileSize : Int) :
    (finTopic fileId fileSize).length =
      (cstr fileId).length + 11 + (formatLong fileSize).length := by
  simp [finTopic, String.length]; omega

/-- When every check passes, `publishFormatted` makes one publish attempt and returns 0
exactly when it was sent. -/
theorem publishFormatted_of_fits {checks : List (Bytes × Nat)} {topic payload : Bytes}
    (fits : checks.all (fun (text, bound) => text.length < bound) = true) (env : Env)
    (past : List Effect) :
    publishFormatted checks topic payload env past =
      (if env.sendmsg past topic payload then 0 else -1,
        [.publish topic payload (env.sendmsg past topic payload)]) := by
  simp [publishFormatted, fits, clientPublish]

/-- When a check fails, `publishFormatted` publishes nothing and returns -1. -/
theorem publishFormatted_of_overflow {checks : List (Bytes × Nat)} {topic payload : Bytes}
    (overflow : checks.all (fun (text, bound) => text.length < bound) = false) (env : Env)
    (past : List Effect) :
    publishFormatted checks topic payload env past = (-1, []) := by
  simp [publishFormatted, overflow]

/-- A run of `publishFormatted` publishes nothing and fails, or makes one attempt and returns
0 exactly when it was sent. -/
theorem publishFormatted_cases (checks : List (Bytes × Nat)) (topic payload : Bytes) (env : Env)
    (past : List Effect) :
    publishFormatted checks topic payload env past = (-1, []) ∨
      ∃ sent, publishFormatted checks topic payload env past =
        (if sent then 0 else -1, [.publish topic payload sent]) := by
  cases fits : checks.all fun (text, bound) => text.length < bound
  · exact .inl (publishFormatted_of_overflow fits env past)
  · exact .inr ⟨_, publishFormatted_of_fits fits env past⟩

/-- publish_send_result publishes its result message once, or nothing when the payload does
not fit. -/
theorem publishSendResult_cases (requestid : Option Bytes) (success : Bool) (env : Env)
    (past : List Effect) :
    publishSendResult requestid success env past = (-1, []) ∨
      ∃ sent, publishSendResult requestid success env past =
        (if sent then 0 else -1, [.publish ftResultTopic (resultPayload requestid success) sent]) :=
  publishFormatted_cases _ _ _ env past

/-- publish_initial publishes its init message once, or nothing when a check fails. -/
theorem publishInitial_cases (fileId fileName : Option Bytes) (fileSize : Int)
    (expireTime segmentsTtl : Nat) (env : Env) (past : List Effect) :
    publishInitial fileId fileName fileSize expireTime segmentsTtl env past = (-1, []) ∨
      ∃ sent, publishInitial fileId fileName fileSize expireTime segmentsTtl env past =
        (if sent then 0 else -1,
          [.publish (initTopic fileId) (initialPayload fileName fileSize expireTime segmentsTtl)
            sent]) :=
  publishFormatted_cases _ _ _ env past

/-- publish_fin publishes its fin message once, or nothing when the topic check fails. -/
theorem publishFin_cases (fileId : Option Bytes) (fileSize : Int) (env : Env)
    (past : List Effect) :
    publishFin fileId fileSize env past = (-1, []) ∨
      ∃ sent, publishFin fileId fileSize env past =
        (if sent then 0 else -1, [.publish (finTopic fileId fileSize) [] sent]) :=
  publishFormatted_cases _ _ _ env past

end MqttFileTransfer
