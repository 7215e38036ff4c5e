/-
Module: MqttFileTransfer.Proofs.Topic
Layer: Proofs
Purpose: Whether a topic identifies its message. `readTopic_file` reads a `$file/` topic whose
  file id has no `/`, once; from it `readTopic_topic`: the receiver's reading inverts
  `Message.topic` for every message whose printed file id has no `/`, so on such messages equal
  topics mean the same kind, the same printed file id and the same offset or size
  (`address_eq_of_topic_eq`). Nothing in parse_input or send_file keeps a `/` out of a file id,
  and with one the reading is ambiguous: process_msg publishes the chunk at offset 0 of the file
  id `a/fin` and the fin of the empty file with file id `a` on the same topic, in one batch
  (`processMsg_slashFileId`).
Trusted boundary: none
Main exports: readTopic_file, readTopic_topic, address_eq_of_topic_eq, oneByteFile,
  processMsg_slashFileId
-/
import MqttFileTransfer.Spec.Topic
import MqttFileTransfer.Proofs.Batch

namespace MqttFileTransfer

/-! ### Reading a topic back -/

/-- A `$file/` topic whose file id has no `/`: the reader takes the file id whole and reads the
kind from what follows its `/`. -/
theorem readTopic_file {fileId kind : Bytes} (plain : 47 ∉ fileId) :
    readTopic (ascii "$file/" ++ fileId ++ 47 :: kind) =
      if kind = ascii "init" then some (.init fileId)
      else if kind.take 4 = ascii "fin/" then
        (readWhole readSigned (kind.drop 4)).map (.fin fileId)
      else (readWhole readUnsigned kind).map (.chunk fileId) := by
  have untilSlash : ∀ byte ∈ fileId, decide (byte ≠ 47) = true := fun byte member =>
    decide_eq_true fun slash => plain (slash ▸ member)
  have length : (ascii "$file/").length = 6 := rfl
  rw [List.append_assoc, readTopic, List.take_left' length, if_pos rfl, List.drop_left' length,
    List.dropWhile_append_of_pos untilSlash, List.takeWhile_append_of_pos untilSlash]
  simp only [List.dropWhile_cons, List.takeWhile_cons, ne_eq, not_true_eq_false, decide_False,
    Bool.false_eq_true, ↓reduceIte, List.append_nil]

/-- Text that is all digits is neither `init` nor starts with `fin/`. -/
theorem ne_init_of_digits {kind : Bytes} (digits : ∀ byte ∈ kind, isDigit byte = true) :
    kind ≠ ascii "init" ∧ kind.take 4 ≠ ascii "fin/" := by
  constructor
  · rintro rfl
    exact absurd (digits 105 (by decide)) (by decide)
  · intro fin
    have member : (102 : UInt8) ∈ kind.take 4 := by rw [fin]; decide
    exact absurd (digits 102 (List.mem_of_mem_take member)) (by decide)

/-- The receiver reads every message whose printed file id has no `/` back from its topic. -/
theorem readTopic_topic {message : Message} (plain : 47 ∉ message.printedId) :
    readTopic message.topic = message.address := by
  cases message with
  | init fileId =>
      rw [Message.topic, initTopic, show ascii "/init" = 47 :: ascii "init" from rfl,
        readTopic_file (show 47 ∉ cstr fileId from plain), if_pos rfl]
      rfl
  | chunk fileId offset =>
      have digits := ne_init_of_digits (isDigit_of_mem_decimal offset)
      rw [Message.topic, chunkTopic, show ascii "/" = [47] from rfl, List.append_assoc,
        List.singleton_append, readTopic_file (show 47 ∉ cstr fileId from plain), if_neg digits.1,
        if_neg digits.2, readWhole, ← List.append_nil (decimal offset),
        readUnsigned_decimal offset List.takeWhile_nil]
      rfl
  | fin fileId size =>
      have length : (ascii "fin/").length = 4 := rfl
      have notInit : ascii "fin/" ++ formatLong size ≠ ascii "init" := fun same => by
        have heads := congrArg List.head? same
        rw [show ascii "fin/" = 102 :: ascii "in/" from rfl, List.cons_append,
          List.head?_cons] at heads
        exact absurd heads (by decide)
      rw [Message.topic, finTopic, show ascii "/fin/" = 47 :: ascii "fin/" from rfl,
        List.append_assoc, List.cons_append, readTopic_file (show 47 ∉ cstr fileId from plain),
        if_neg notInit, List.take_left' length, if_pos rfl, List.drop_left' length, readWhole,
        ← List.append_nil (formatLong size), readSigned_formatLong size List.takeWhile_nil]
      rfl
  | result => rfl

/-- On messages whose printed file ids have no `/`, equal topics mean the same kind, the same
file id and the same offset or size. -/
theorem address_eq_of_topic_eq {first second : Message} (firstPlain : 47 ∉ first.printedId)
    (secondPlain : 47 ∉ second.printedId) (same : first.topic = second.topic) :
    first.address = second.address := by
  rw [← readTopic_topic firstPlain, ← readTopic_topic secondPlain, same]

/-- Two chunks of the file id `1` at offset 10 carry different bytes on one topic, and are at
the same address. -/
theorem chunkTopics_sameAddress :
    47 ∉ (Message.chunk (some (ascii "1")) 10 [7]).printedId ∧
      47 ∉ (Message.chunk (some (ascii "1")) 10 [8]).printedId ∧
      (Message.chunk (some (ascii "1")) 10 [7]).topic =
        (Message.chunk (some (ascii "1")) 10 [8]).topic ∧
      (Message.chunk (some (ascii "1")) 10 [7]).address =
        (Message.chunk (some (ascii "1")) 10 [8]).address :=
  ⟨by decide, by decide, rfl, address_eq_of_topic_eq (by decide) (by decide) rfl⟩

/-! ### A `/` in a file id -/

/-- The path of the last successful open in a history. -/
def lastOpened (past : List Effect) : Option Bytes :=
  past.foldl (fun opened effect =>
    match effect with
    | .fopen (some path) true => some path
    | _ => opened) none

/-- A file system in which `x` holds one byte and every other path is empty: `ftell` and the
reads see the file opened last; every open, lock and publish succeeds. -/
def oneByteFile : Env where
  fopen _ _ := true
  flock _ _ := true
  ftell past := if lastOpened past = some (ascii "x") then 1 else 0
  ftell_long past := by dsimp only; split <;> norm_num
  fread past count := if lastOpened past = some (ascii "x") then [7].take count else []
  fread_le past count := by
    dsimp only
    split
    · exact List.length_take_le _ _
    · exact Nat.zero_le _
  sendmsg _ _ _ := true
  alloc _ := true

/-- A request for the files `x` and `y` under the file ids `a/fin` and `a`. -/
def slashRequest : Json :=
  .object [(ascii "files", .array [.string (ascii "x"), .string (ascii "y")]),
    (ascii "fileids", .array [.string (ascii "a/fin"), .string (ascii "a")]),
    (ascii "filenames", .array [.string (ascii "x"), .string (ascii "y")]),
    (ascii "request_id", .string (ascii "r"))]

/-- What process_msg reads off `slashRequest`. -/
def slashJobs : Request :=
  { jobs := [⟨some (ascii "x"), some (ascii "a/fin"), some (ascii "x")⟩,
      ⟨some (ascii "y"), some (ascii "a"), some (ascii "y")⟩],
    requestId := some (ascii "r"), segmentSize := 0, interval := 0, delete := none }

/-- The effects of send_file on `x` under the file id `a/fin`: one chunk, at offset 0. -/
def slashFirstRun : List Effect :=
  [.fopen (some (ascii "x")) true, .flock .sh true, .ftell 1,
    .publish (initTopic (some (ascii "a/fin"))) (initialPayload (some (ascii "x")) 1 noExpiry noExpiry)
      true,
    .fread 10240 [7], .publish (chunkTopic (some (ascii "a/fin")) 0) [7] true, .msleep 0,
    .flock .un true, .fclose, .publish (finTopic (some (ascii "a/fin")) 1) [] true]

/-- In one batch process_msg publishes the chunk at offset 0 of `x` under the file id `a/fin`
and the fin of the empty `y` under the file id `a`, on the same topic `$file/a/fin/0`: the
receiver cannot tell a chunk from a fin, nor which file it belongs to. -/
theorem processMsg_slashFileId :
    (Message.chunk (some (ascii "a/fin")) 0 [7]).topic = (Message.fin (some (ascii "a")) 0).topic ∧
      (Message.chunk (some (ascii "a/fin")) 0 [7]).address ≠
        (Message.fin (some (ascii "a")) 0).address ∧
      publishes (processMsg (fun _ => some slashRequest) emptyPublish oneByteFile []).2 =
        [(initTopic (some (ascii "a/fin")), initialPayload (some (ascii "x")) 1 noExpiry noExpiry,
            true),
          (chunkTopic (some (ascii "a/fin")) 0, [7], true),
          (finTopic (some (ascii "a/fin")) 1, [], true),
          (initTopic (some (ascii "a")), initialPayload (some (ascii "y")) 0 noExpiry noExpiry,
            true),
          (finTopic (some (ascii "a")) 0, [], true),
          (ftResultTopic, resultPayload (some (ascii "r")) true, true)] := by
  refine ⟨by decide, by decide, ?_⟩
  obtain ⟨items, accepted⟩ : ∃ items, parseInput slashRequest = some items := ⟨_, rfl⟩
  have request : items.request = slashJobs := by
    have read : (parseInput slashRequest).map InputItems.request = some slashJobs := by decide
    simpa [accepted] using read
  -- the two jobs one at a time: `x` sends one chunk, the empty `y` none
  have first : sendJob slashJobs ⟨some (ascii "x"), some (ascii "a/fin"), some (ascii "x")⟩
      oneByteFile [] = (0, slashFirstRun) := by
    rw [sendJob, sendFile_some_apply]
    simp only [publishFile]
    rw [publishFileLoop_apply]
    decide
  have second : sendJob slashJobs ⟨some (ascii "y"), some (ascii "a"), some (ascii "y")⟩
      oneByteFile slashFirstRun =
        (0, [.fopen (some (ascii "y")) true, .flock .sh true, .ftell 0,
          .publish (initTopic (some (ascii "a")))
            (initialPayload (some (ascii "y")) 0 noExpiry noExpiry) true,
          .fread 10240 [], .flock .un true, .fclose,
          .publish (finTopic (some (ascii "a")) 0) [] true]) := by
    rw [sendJob, sendFile_some_apply]
    simp only [publishFile]
    rw [publishFileLoop_apply]
    decide
  rw [processMsg_of_accepted rfl accepted, request,
    show slashJobs.jobs = [⟨some (ascii "x"), some (ascii "a/fin"), some (ascii "x")⟩,
      ⟨some (ascii "y"), some (ascii "a"), some (ascii "y")⟩] from rfl]
  have kept : ∀ path past, deleteAfterSend slashJobs.delete path oneByteFile past = ((), []) :=
    fun _ _ => rfl
  simp only [sendJobs_cons_apply, first, kept, List.nil_append, List.append_nil, second,
    sendJobs_nil_apply, ne_eq, not_true_eq_false, ↓reduceIte]
  decide

end MqttFileTransfer
