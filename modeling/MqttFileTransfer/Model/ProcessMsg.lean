/-
Module: MqttFileTransfer.Model.ProcessMsg
Layer: Model
Purpose: The control thread above send_file: process_msg (lines 487-592) with its batch loop,
  the deletion branch that follows each successful job, and start_listening's receive loop
  (lines 595-634). The batch loop calls send_file on the jobs in order and breaks at the first
  nonzero result; the result flag it hands to publish_send_result is `!result` of the last
  call. A deletion `delete` of 0 deletes the file at once, a positive one schedules the
  deletion after `delete * 1000` milliseconds computed in `int` and clamped to seven days.
Trusted boundary: cJSON_Parse is the parameter `cJSONParse`; it reads the payload as a C
  string, up to the first NUL wherever it lies. process_msg ignores the return value of
  `nng_aio_alloc`: the model folds it with `nng_sleep_aio` into one `sleepAio` effect that
  always schedules the deletion, the outcome when the allocation succeeds (a failed one leaves
  the aio pointer unset, which the model does not follow).
Main exports: deletionDelay, deleteAfterSend, noExpiry, sendJob, sendJobs, Inbound, processMsg,
  Received, receiveLoop, startListening
-/
import MqttFileTransfer.Model.CJson
import MqttFileTransfer.Model.SendFile

namespace MqttFileTransfer

/-- The delay of a scheduled deletion: `int delay = valueint * 1000`, clamped to
MAX_DELAY_7_DAYS. -/
def deletionDelay (value : Int) : Int :=
  if toInt (value * 1000) > maxDelay7Days then maxDelay7Days else toInt (value * 1000)

/-- The deletion branch after a job whose send_file returned 0: nothing when `delete` is absent
or negative, `nng_file_delete` when it is 0, else a copy of the path (skipped when `nng_alloc`
fails) handed to a timer that deletes it after `deletionDelay` milliseconds. -/
def deleteAfterSend (delete : Option Int) (path : Option Bytes) : Proc Unit :=
  match delete with
  | some value =>
      if value ≥ 0 then
        if value = 0 then nngFileDelete path
        else do
          let granted ← nngAlloc
          if granted then nngSleepAio (deletionDelay value) path else pure ()
      else pure ()
  | none => pure ()

/-- The expire time and segments TTL process_msg passes to send_file: `-1` as an
`unsigned long`, which publish_initial reads as absent. -/
def noExpiry : Nat := 2 ^ 64 - 1

/-- The send_file call process_msg's loop makes for one job: the element's strings, the
request's segment size and interval, and no expiry. -/
def sendJob (request : Request) (job : Job) : Proc Int :=
  sendFile job.path job.fileId job.fileName request.segmentSize request.interval noExpiry noExpiry

/-- process_msg's loop over the jobs: send_file on each in order, stop at the first nonzero
result and return it, run the deletion branch after each success; 0 when every job succeeded. -/
def sendJobs (request : Request) : List Job → Proc Int
  | [] => pure 0
  | job :: jobs => do
      let result ← sendJob request job
      if result ≠ 0 then pure result
      else do
        deleteAfterSend request.delete job.path
        sendJobs request jobs

/-- An inbound PUBLISH as process_msg reads it: the `payload_len` payload bytes and the bytes
that follow them in memory. -/
structure Inbound where
  payload : Bytes
  following : Bytes

/-- The C string cJSON_Parse reads at the payload pointer: up to the first NUL, which may lie
past the payload. -/
def Inbound.cString (msg : Inbound) : Bytes := (msg.payload ++ msg.following).takeWhile (· ≠ 0)

variable (cJSONParse : Bytes → Option Json)

/-- process_msg: parse the payload, check it with parse_input (a failure of either drops the
message with no publish), run the batch loop and publish one result with the flag `!result`. -/
def processMsg (msg : Inbound) : Proc Int :=
  match cJSONParse msg.cString with
  | none => pure (-1)
  | some objs =>
      match parseInput objs with
      | none => pure (-1)
      | some items => do
          let result ← sendJobs items.request items.request.jobs
          let _ ← publishSendResult items.request.requestId (result == 0)
          pure 0

/-- What one `nng_recvmsg` of start_listening's loop yields. -/
inductive Received where
  | failed
  | packet (isPublish : Bool) (msg : Inbound)

/-- start_listening's receive loop over the messages received so far: every PUBLISH goes to
process_msg, anything else (and a receive error) is skipped. -/
def receiveLoop : List Received → Proc Unit
  | [] => pure ()
  | .failed :: rest => receiveLoop rest
  | .packet isPublish msg :: rest =>
      if isPublish then do
        let _ ← processMsg cJSONParse msg
        receiveLoop rest
      else receiveLoop rest

/-- start_listening: one subscription to the control channel, then the receive loop. -/
def startListening (received : List Received) : Proc Unit := do
  nngMqttSubscribe ftSubTopic
  receiveLoop cJSONParse received

end MqttFileTransfer
