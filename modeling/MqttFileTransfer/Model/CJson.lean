/-
Module: MqttFileTransfer.Model.CJson
Layer: Model
Purpose: The control request as process_msg sees it. `Json` is the document cJSON_Parse
  builds; the cJSON fields and accessors process_msg reads (`valuestring`, `valueint`,
  cJSON_GetObjectItem, cJSON_GetArraySize, cJSON_GetArrayItem) are views of it, defined as
  cJSON defines them: an item is allocated zeroed, only a string sets `valuestring`, only a
  number (and `true`) sets `valueint`, and a key lookup walks the members comparing names case
  insensitively. `parseInput` is parse_input (lines 201-223) and `Request` the values
  process_msg reads off its out-parameters (lines 519-541).
Trusted boundary: the cJSON semantics above (the library is not part of the sources); a
  number is represented by the integer part the `(int)` cast keeps.
Main exports: Json, Json.valuestring, Json.valueint, getObjectItem, getArraySize,
  getArrayItem, InputItems, parseInput, Job, Request, InputItems.request
-/
import MqttFileTransfer.Model.CTypes

namespace MqttFileTransfer

/-- A JSON document as cJSON_Parse returns it. A number is kept as its integer part. -/
inductive Json where
  | null
  | bool (value : Bool)
  | number (value : Int)
  | string (bytes : Bytes)
  | array (items : List Json)
  | object (members : List (Bytes × Json))
deriving Repr, Inhabited

namespace Json

/-- The item's `valuestring`: the C string of a JSON string (up to an embedded NUL), NULL for
every other item. -/
def valuestring : Json → Option Bytes
  | .string bytes => some (bytes.takeWhile (· ≠ 0))
  | _ => none

/-- The item's `valueint`: a number saturated into `int` range, 1 for `true`, and the zero of
the fresh allocation for every other item. -/
def valueint : Json → Int
  | .number value => max (-2 ^ 31) (min value (2 ^ 31 - 1))
  | .bool true => 1
  | _ => 0

/-- The item's `child` list: an array's items (no key) or an object's members (their key in
the item's `string` field); empty for a scalar. -/
def children : Json → List (Option Bytes × Json)
  | .array items => items.map fun item => (none, item)
  | .object members => members.map fun (key, value) => (some (key.takeWhile (· ≠ 0)), value)
  | _ => []

end Json

/-- `tolower` of the C locale. -/
def toLower (byte : UInt8) : UInt8 := if 65 ≤ byte ∧ byte ≤ 90 then byte + 32 else byte

/-- cJSON's `case_insensitive_strcmp(name, key) == 0`; a missing key never matches. -/
def keyMatches (name : Bytes) : Option Bytes → Bool
  | some key => key.map toLower == name.map toLower
  | none => false

/-- cJSON_GetObjectItem: the first member whose key matches `name` case insensitively. -/
def getObjectItem (object : Json) (name : Bytes) : Option Json :=
  (object.children.find? fun member => keyMatches name member.1).map (·.2)

/-- cJSON_GetArraySize: the number of children, for an object as for an array. -/
def getArraySize (array : Json) : Nat := array.children.length

/-- cJSON_GetArrayItem: the child at `index`, NULL past the end. -/
def getArrayItem (array : Json) (index : Nat) : Option Json :=
  (array.children.get? index).map (·.2)

/-- The items parse_input stores through its out-parameters when it returns 0. -/
structure InputItems where
  filepaths : Json
  filenames : Json
  fileids : Json
  requestid : Json
  segmentsize : Option Json
  delete : Option Json
  interval : Option Json

/-- parse_input: look up the seven members, and accept the document only when the four
required ones are present and `files` has as many children as `fileids` and `filenames`, at
least one. No JSON type is checked. -/
def parseInput (objs : Json) : Option InputItems :=
  match getObjectItem objs (ascii "files"), getObjectItem objs (ascii "filenames"),
      getObjectItem objs (ascii "fileids"), getObjectItem objs (ascii "request_id") with
  | some filepaths, some filenames, some fileids, some requestid =>
      if getArraySize filepaths = 0 ∨
          getArraySize filepaths ≠ getArraySize fileids ∨
          getArraySize filepaths ≠ getArraySize filenames then
        none
      else
        some
          { filepaths := filepaths
            filenames := filenames
            fileids := fileids
            requestid := requestid
            segmentsize := getObjectItem objs (ascii "segment-size")
            delete := getObjectItem objs (ascii "delete")
            interval := getObjectItem objs (ascii "interval") }
  | _, _, _, _ => none

/-- One file of a request: the three `char *` process_msg hands to send_file, each NULL when
the element is not a JSON string. -/
structure Job where
  path : Option Bytes
  fileId : Option Bytes
  fileName : Option Bytes
deriving DecidableEq, Repr

/-- What process_msg reads off an accepted request: the jobs, the request id, the `unsigned int`
segment size and interval (0 when absent), and the `valueint` of `delete` when present. -/
structure Request where
  jobs : List Job
  requestId : Option Bytes
  segmentSize : Nat
  interval : Nat
  delete : Option Int
deriving DecidableEq, Repr

/-- The `unsigned int` process_msg passes for an optional numeric member:
`item == NULL ? 0U : item->valueint`. -/
def unsignedOrZero : Option Json → Nat
  | some item => toUInt item.valueint
  | none => 0

/-- The request process_msg's loop works on: job `i` takes element `i` of `files`, `fileids`
and `filenames` for `i` below the size of `files`. -/
def InputItems.request (items : InputItems) : Request where
  jobs := (List.range (getArraySize items.filepaths)).map fun index =>
    { path := (getArrayItem items.filepaths index).bind Json.valuestring
      fileId := (getArrayItem items.fileids index).bind Json.valuestring
      fileName := (getArrayItem items.filenames index).bind Json.valuestring }
  requestId := items.requestid.valuestring
  segmentSize := unsignedOrZero items.segmentsize
  interval := unsignedOrZero items.interval
  delete := items.delete.map Json.valueint

/-- An accepted request names at least one job. -/
theorem InputItems.request_jobs_ne_nil {objs : Json} {items : InputItems}
    (accepted : parseInput objs = some items) : items.request.jobs ≠ [] := by
  unfold parseInput at accepted
  split at accepted
  · split at accepted
    · cases accepted
    · rename_i checks
      cases accepted
      simp only [InputItems.request, ne_eq, List.map_eq_nil_iff, List.range_eq_nil]
      exact fun empty => checks (Or.inl empty)
  · cases accepted

end MqttFileTransfer
