/-
Module: MqttFileTransfer.Spec.Session
Layer: Spec
Purpose: What a session of the client publishes. `MessageAttempts` says what process_msg may
  publish for one inbound message, by what cJSON_Parse and parse_input make of it: nothing for a
  dropped message, else a batch of transfers over the request's jobs and at most one result.
  `SessionAttempts` strings these together over the PUBLISH messages start_listening's loop
  received (`publishPackets`), one message after the other.
Trusted boundary: none
Main exports: MessageAttempts, SessionAttempts, publishPackets
-/
import MqttFileTransfer.Spec.Protocol
import MqttFileTransfer.Model.ProcessMsg

namespace MqttFileTransfer

/-- What process_msg publishes for one inbound message, by what cJSON_Parse and parse_input make
of it: nothing when they reject it; otherwise a batch of transfers over the request's jobs, then
at most one result for the request's id. -/
def MessageAttempts : Option InputItems → List (Message × Bool) → Prop
  | none, attempts => attempts = []
  | some items, attempts =>
      ∃ batch final, attempts = batch ++ final ∧
        BatchAttempts noExpiry noExpiry items.request.jobs batch ∧ final.length ≤ 1 ∧
        ∀ attempt ∈ final, ∃ success, attempt.1 = .result items.request.requestId success

/-- The publish attempts of a session that processed messages decoded as `decodeds`, in turn:
each message's attempts, one message after the other. -/
inductive SessionAttempts : List (Option InputItems) → List (Message × Bool) → Prop
  | nil : SessionAttempts [] []
  | cons {decoded : Option InputItems} {decodeds : List (Option InputItems)}
      {first rest : List (Message × Bool)} :
      MessageAttempts decoded first → SessionAttempts decodeds rest →
      SessionAttempts (decoded :: decodeds) (first ++ rest)

/-- The PUBLISH messages among what start_listening's loop received, in order. -/
def publishPackets : List Received → List Inbound
  | [] => []
  | .failed :: rest => publishPackets rest
  | .packet isPublish msg :: rest =>
      if isPublish then msg :: publishPackets rest else publishPackets rest

end MqttFileTransfer
