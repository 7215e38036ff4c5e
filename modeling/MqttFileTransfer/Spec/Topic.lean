/-
Module: MqttFileTransfer.Spec.Topic
Layer: Spec
Purpose: What the receiver of a transfer learns from a topic alone. An `Address` is the kind of
  a transfer message with its file id (as `%s` printed it) and its offset or size;
  `Message.address` is the address a message is meant to have, and `readTopic` is a receiver's
  reading of a `$file/...` topic: the file id up to the next `/`, then `init`, `fin/` and a
  signed size, or an unsigned offset. Whether the topic alone identifies a message is whether
  `readTopic` inverts `Message.topic`.
Trusted boundary: none
Main exports: Address, Message.address, Message.printedId, readWhole, readTopic
-/
import MqttFileTransfer.Spec.Digits
import MqttFileTransfer.Spec.Protocol

namespace MqttFileTransfer

/-- Where a transfer message goes: its kind, its printed file id, its offset or size. -/
inductive Address where
  | init (fileId : Bytes)
  | chunk (fileId : Bytes) (offset : Nat)
  | fin (fileId : Bytes) (size : Int)
deriving DecidableEq, Repr

namespace Message

/-- The address of a transfer message, with the file id as `%s` prints it (`(null)` for NULL);
none for a result, which is addressed by its payload. -/
def address : Message → Option Address
  | .init fileId .. => some (.init (cstr fileId))
  | .chunk fileId offset _ => some (.chunk (cstr fileId) offset)
  | .fin fileId size => some (.fin (cstr fileId) size)
  | .result .. => none

/-- The file id a transfer message prints into its topic; nothing for a result. -/
def printedId : Message → Bytes
  | .init fileId .. | .chunk fileId .. | .fin fileId _ => cstr fileId
  | .result .. => []

end Message

/-- The value `read` finds in the whole of `text`; none when it fails or leaves bytes over. -/
def readWhole {α : Type} (read : Bytes → Option (α × Bytes)) (text : Bytes) : Option α :=
  match read text with
  | some (value, []) => some value
  | _ => none

/-- A receiver's reading of a topic: `$file/`, the file id up to the next `/`, then `init`, or
`fin/` and a signed size, or an unsigned offset; none for any other topic. -/
def readTopic (topic : Bytes) : Option Address :=
  if topic.take 6 = ascii "$file/" then
    match (topic.drop 6).dropWhile (· ≠ 47) with
    | 47 :: kind =>
        let fileId := (topic.drop 6).takeWhile (· ≠ 47)
        if kind = ascii "init" then some (.init fileId)
        else if kind.take 4 = ascii "fin/" then
          (readWhole readSigned (kind.drop 4)).map (.fin fileId)
        else (readWhole readUnsigned kind).map (.chunk fileId)
    | _ => none
  else none

end MqttFileTransfer
