/-
Module: MqttFileTransfer.Proofs.StableFile
Layer: Proofs
Purpose: send_file on a file that does not change while it is sent, and on files that do.
  `StableTransfer` is the outside world of an ordinary transfer: the open succeeds, `ftell`
  reports the length of the content, every read returns the next bytes of the content, every
  publish is sent. On it publish_file's loop publishes the content in pieces of the chunk size
  at offsets `j * c` (`publishFileLoop_stable`, by induction along the loop with the invariant
  "the chunk size is `c`, or what is left when that is less than `c`"). The fin topic is the
  longest topic of a transfer (`stableTopics_fit`: the init topic is shorter, and a chunk's
  offset, below the size, prints no more digits), so when it fits TOPIC_LEN every topic does,
  and send_file then publishes init, those chunks and fin and returns 0; when publish_initial's
  checks fail it returns -1 having published nothing (`sendFile_stableTransfer`). `fileSystem`
  is a file system whose reads and `ftell` need not agree; on it a file that shrinks after
  `ftell` and a long file id show what send_file does when the transfer is not an ordinary one.
Trusted boundary: none beyond `Proc`'s and `Model.Publish`'s.
Main exports: StableTransfer, fileSystem, stableChunks, publishFileLoop_stable, sendFile_stable,
  sendFile_initialRefused, stableTopics_fit, sendFile_stableTransfer, truncatedFileSystem,
  publishFileLoop_truncatedFile, truncatedFile_run, sendFile_truncatedFile, sendFile_longFinTopic
-/
import MqttFileTransfer.Proofs.Batch
import MqttFileTransfer.Spec.Digits

namespace MqttFileTransfer

/-- The outside world of an ordinary transfer of the file at `path` from the history `past` on:
the open succeeds, the file's bytes are `content` throughout (`ftell` reports its length, every
read returns the next bytes, as many as asked or what is left), and every publish is sent. -/
structure StableTransfer (env : Env) (past : List Effect) (path content : Bytes) : Prop where
  opens : env.fopen past path = true
  size : ∀ later, env.ftell (past ++ later) = content.length
  reads : ∀ later count,
    env.fread (past ++ later) count = (content.drop (bytesRead later)).take count
  sends : ∀ later topic payload, env.sendmsg (past ++ later) topic payload = true

/-- The content of a file `ftell` can measure fits a `long`. -/
theorem StableTransfer.length_lt {env : Env} {past : List Effect} {path content : Bytes}
    (stable : StableTransfer env past path content) : content.length < 2 ^ 63 := by
  have fits := (env.ftell_long (past ++ [])).2
  rw [stable.size] at fits
  exact_mod_cast fits

/-- A file system in which every path holds `content` and `ftell` reports `size`; every open,
lock, publish and allocation succeeds. Reads continue from the bytes read so far. -/
def fileSystem (size : Int) (long : -2 ^ 63 ≤ size ∧ size < 2 ^ 63) (content : Bytes) :
    Env where
  fopen _ _ := true
  flock _ _ := true
  ftell _ := size
  ftell_long _ := long
  fread past count := (content.drop (bytesRead past)).take count
  fread_le _ _ := List.length_take_le _ _
  sendmsg _ _ _ := true
  alloc _ := true

/-- When `ftell` reports the content's length, `fileSystem` is an ordinary transfer. -/
theorem fileSystem_stable (content path : Bytes)
    (long : -2 ^ 63 ≤ (content.length : Int) ∧ (content.length : Int) < 2 ^ 63) :
    StableTransfer (fileSystem content.length long content) [] path content where
  opens := rfl
  size _ := rfl
  reads _ _ := rfl
  sends _ _ _ := rfl

/-! ### The chunks of an unchanging file

The `j`-th chunk of `content` from `offset` in pieces of `c` starts at `offset + j * c` and
holds the next `c` bytes, or what is left; there are `⌈(length - offset) / c⌉` of them. -/

/-- The chunk messages of `content` from `offset` on, in pieces of `c`. -/
def stableChunks (fileId : Option Bytes) (content : Bytes) (c offset : Nat) : List Message :=
  (List.range ((content.length - offset + c - 1) / c)).map fun j =>
    .chunk fileId (offset + j * c) ((content.drop (offset + j * c)).take c)

/-- Past the end of the content there is no chunk. -/
theorem stableChunks_of_le_offset {fileId : Option Bytes} {content : Bytes} {c offset : Nat}
    (positive : 0 < c) (finished : content.length ≤ offset) :
    stableChunks fileId content c offset = [] := by
  simp [stableChunks, Nat.div_eq_of_lt (show content.length - offset + c - 1 < c by omega)]

/-- At most `c` bytes from the end there is one chunk, the rest of the content. -/
theorem stableChunks_last {fileId : Option Bytes} {content : Bytes} {c offset : Nat}
    (nonempty : offset < content.length) (within : content.length - offset ≤ c) :
    stableChunks fileId content c offset = [.chunk fileId offset (content.drop offset)] := by
  have one : (content.length - offset + c - 1) / c = 1 :=
    Nat.div_eq_of_lt_le (by omega) (by omega)
  rw [stableChunks, one, show List.range 1 = [0] from rfl]
  simp [List.take_of_length_le (show (content.drop offset).length ≤ c by simp; omega)]

/-- More than `c` bytes from the end, a chunk of `c` bytes and then the chunks from
`offset + c`. -/
theorem stableChunks_cons {fileId : Option Bytes} {content : Bytes} {c offset : Nat}
    (positive : 0 < c) (more : offset + c < content.length) :
    stableChunks fileId content c offset =
      .chunk fileId offset ((content.drop offset).take c) ::
        stableChunks fileId content c (offset + c) := by
  have step :
      (content.length - offset + c - 1) / c = (content.length - offset - c + c - 1) / c + 1 := by
    rw [← Nat.add_div_right _ positive]; congr 1; omega
  rw [stableChunks, step, List.range_succ_eq_map, stableChunks,
    show content.length - offset - c = content.length - (offset + c) by omega]
  simp [Nat.succ_mul, Nat.add_assoc, Nat.add_comm c]

/-! ### publish_file and send_file on an unchanging file -/

section Stable

variable {env : Env} {past : List Effect} {path content : Bytes}

/-- publish_file's loop on an unchanging file, from an `offset` it has read up to, with the
chunk size `c` or, once less than `c` is left, what is left: it publishes the chunks of the rest
of the content, every one sent, and returns 0. -/
theorem publishFileLoop_stable (stable : StableTransfer env past path content)
    (fileId : Option Bytes) (interval : Nat) (idFits : (cstr fileId).length + 11 < topicLen)
    {c : Nat} (positive : 0 < c) (bounded : c ≤ bufSize) (offset chunkSize : Nat)
    (later : List Effect) (position : bytesRead later = offset) (within : offset ≤ content.length)
    (size : chunkSize = c ∨ chunkSize = content.length - offset ∧ content.length - offset < c) :
    (publishFileLoop fileId content.length interval offset chunkSize env (past ++ later)).1 = 0 ∧
      publishes (publishFileLoop fileId content.length interval offset chunkSize env
          (past ++ later)).2 =
        (stableChunks fileId content c offset).map fun message => encode (message, true) := by
  induction offset, chunkSize using publishFileLoop.induct fileId content.length interval
    generalizing later with
  | case1 offset chunkSize inductionHypothesis =>
    have long := stable.length_lt
    have unsigned : toULong content.length = content.length := by
      rw [toULong_of_long] <;> omega
    have read : env.fread (past ++ later) chunkSize = (content.drop offset).take chunkSize := by
      rw [stable.reads, position]
    by_cases finished : content.length ≤ offset
    · rw [publishFileLoop_of_empty (by rw [read, List.drop_eq_nil_of_le finished, List.take_nil]),
        stableChunks_of_le_offset positive finished]
      exact ⟨rfl, rfl⟩
    have length : ((content.drop offset).take chunkSize).length =
        min chunkSize (content.length - offset) := by rw [List.length_take, List.length_drop]
    have nonempty : (content.drop offset).take chunkSize ≠ [] := by
      rw [← List.length_pos, length]
      rcases size with rfl | ⟨rfl, _⟩ <;> omega
    have topicFits : (chunkTopic fileId offset).length < bufSize := by
      have digits := length_decimal_le (show 0 < 19 by norm_num) (show offset < 10 ^ 19 by omega)
      rw [length_chunkTopic]
      unfold bufSize topicLen at *
      omega
    have sent := stable.sends (later ++ [.fread chunkSize ((content.drop offset).take chunkSize)])
      (chunkTopic fileId offset) ((content.drop offset).take chunkSize)
    rw [← List.append_assoc] at sent
    rw [publishFileLoop_of_sent read nonempty topicFits sent, unsigned,
      Nat.mod_eq_of_lt (show offset + _ < 2 ^ 64 by rw [length]; omega)]
    by_cases last : offset + ((content.drop offset).take chunkSize).length = content.length
    · -- the read reaches the end: one last chunk, the rest of the content
      have rest : content.length - offset ≤ chunkSize := by omega
      rw [if_pos last,
        stableChunks_last (by omega) (by rcases size with rfl | ⟨rfl, _⟩ <;> omega),
        List.take_of_length_le (by simpa using rest)]
      simp [encode, Message.topic, Message.payload]
    · -- a full chunk of `c` bytes, and the loop goes on from `offset + c`
      have full : chunkSize = c := by rcases size with same | ⟨rfl, _⟩ <;> omega
      subst full
      have advance : ((content.drop offset).take chunkSize).length = chunkSize := by omega
      have next := nextChunkSize_of_le (show offset + chunkSize ≤ content.length by omega)
        (by omega) (show chunkSize < 2 ^ 32 by unfold bufSize at bounded; omega)
      have moved : (offset + ((content.drop offset).take chunkSize).length) % 2 ^ 64 =
          offset + chunkSize := by
        rw [advance]; exact Nat.mod_eq_of_lt (by omega)
      obtain ⟨returned, published⟩ := inductionHypothesis ((content.drop offset).take chunkSize)
        (by simp) (by rw [length]; omega)
        (later ++
          chunkIteration fileId interval offset chunkSize ((content.drop offset).take chunkSize))
        (by rw [moved]; simp [position, advance, chunkIteration]) (by rw [moved]; omega)
        (by rw [moved, next]; omega)
      rw [moved, ← List.append_assoc] at returned published
      rw [if_neg last, advance]
      refine ⟨returned, ?_⟩
      rw [stableChunks_cons positive (show offset + chunkSize < content.length by omega),
        publishes_append, published]
      simp [encode, Message.topic, Message.payload]

/-- send_file on an unchanging file whose id and name pass publish_initial's checks returns 0
having published init with the file's size, its `⌈n / c⌉` chunks for the clamped chunk size
`c`, the `j`-th at offset `j * c` with the next `c` bytes or what is left, and fin with the same
size, every one sent. -/
theorem sendFile_stable {fileId fileName : Option Bytes} {expireTime segmentsTtl : Nat}
    (stable : StableTransfer env past path content)
    (topicFits : (initTopic fileId).length < topicLen)
    (payloadFits : (initialPayload fileName content.length expireTime segmentsTtl).length < bufSize)
    (chunkSize interval : Nat) :
    (sendFile (some path) fileId fileName chunkSize interval expireTime segmentsTtl env past).1 = 0 ∧
      publishes
          (sendFile (some path) fileId fileName chunkSize interval expireTime segmentsTtl env past).2 =
        (Message.init fileId fileName content.length expireTime segmentsTtl ::
            (List.range ((content.length + clampChunkSize chunkSize - 1) / clampChunkSize chunkSize)).map
              (fun j => Message.chunk fileId (j * clampChunkSize chunkSize)
                ((content.drop (j * clampChunkSize chunkSize)).take (clampChunkSize chunkSize))) ++
            [Message.fin fileId content.length]).map fun message => encode (message, true) := by
  have long := stable.length_lt
  have clamped : 0 < clampChunkSize chunkSize ∧ clampChunkSize chunkSize ≤ bufSize := by
    unfold clampChunkSize bufSize; split <;> omega
  have idFits : (cstr fileId).length + 11 < topicLen := length_initTopic fileId ▸ topicFits
  set locked := env.flock (past ++ [.fopen (some path) true]) .sh
  set opened := [Effect.fopen (some path) true, .flock .sh locked, .ftell content.length]
  have sized : env.ftell (past ++ [.fopen (some path) true, .flock .sh locked]) = content.length :=
    stable.size _
  have initial : publishInitial fileId fileName content.length expireTime segmentsTtl env
      (past ++ opened) = (0, [.publish (initTopic fileId)
        (initialPayload fileName content.length expireTime segmentsTtl) true]) := by
    rw [publishInitial, publishFormatted_of_fits (by simp [payloadFits, topicFits]), stable.sends]
    rfl
  obtain ⟨looped, chunks⟩ := publishFileLoop_stable stable fileId interval idFits clamped.1
    clamped.2 0 (clampChunkSize chunkSize) (opened ++ [.publish (initTopic fileId)
      (initialPayload fileName content.length expireTime segmentsTtl) true])
    (by simp [opened]) (by omega) (.inl rfl)
  have finFits : (finTopic fileId content.length).length < bufSize := by
    have digits :=
      length_decimal_le (show 0 < 19 by norm_num) (show content.length < 10 ^ 19 by omega)
    rw [length_finTopic]
    simp only [formatLong, Nat.cast_nonneg, not_lt.mpr, ↓reduceIte, Int.toNat_natCast]
    unfold bufSize topicLen at *
    omega
  rw [sendFile_some_apply, if_neg (by simp [stable.opens])]
  simp only [sized]
  rw [show past ++ [Effect.fopen (some path) true, .flock .sh locked, .ftell content.length] =
    past ++ opened from rfl, initial]
  rw [← List.append_assoc] at looped chunks
  simp only [publishFile]
  generalize publishFileLoop fileId content.length interval 0 (clampChunkSize chunkSize) env _ = run
    at looped chunks ⊢
  simp only [ne_eq, not_true_eq_false, ↓reduceIte, looped, publishFin,
    publishFormatted_of_fits (show [(finTopic fileId content.length, bufSize)].all _ = true by
      simp [finFits]), List.append_assoc, stable.sends]
  refine ⟨trivial, ?_⟩
  split_ifs <;> simp [chunks, stableChunks, encode, Message.topic, Message.payload]

/-- When publish_initial's checks fail, send_file closes the file and returns -1 having published
nothing. -/
theorem sendFile_initialRefused {fileId fileName : Option Bytes} {expireTime segmentsTtl : Nat}
    (stable : StableTransfer env past path content)
    (refused : ¬((initTopic fileId).length < topicLen ∧
      (initialPayload fileName content.length expireTime segmentsTtl).length < bufSize))
    (chunkSize interval : Nat) :
    (sendFile (some path) fileId fileName chunkSize interval expireTime segmentsTtl env past).1 =
        -1 ∧
      publishes
          (sendFile (some path) fileId fileName chunkSize interval expireTime segmentsTtl env past).2 =
        [] := by
  have sized : ∀ locked,
      env.ftell (past ++ [.fopen (some path) true, .flock .sh locked]) = content.length :=
    fun _ => stable.size _
  rw [sendFile_some_apply, if_neg (by simp [stable.opens])]
  simp only [sized]
  rw [publishInitial, publishFormatted_of_overflow
    (by simpa using fun payloadFits topicFits => refused ⟨topicFits, payloadFits⟩)]
  simp

/-- Every topic of an unchanging file's transfer fits TOPIC_LEN when its fin topic does: the
init topic is shorter, and a chunk's offset, below the size, prints no more digits. -/
theorem stableTopics_fit (fileId fileName : Option Bytes) (expireTime segmentsTtl c : Nat)
    (finFits : (finTopic fileId content.length).length < topicLen) :
    ∀ message ∈ Message.init fileId fileName content.length expireTime segmentsTtl ::
        (List.range ((content.length + c - 1) / c)).map
          (fun j => Message.chunk fileId (j * c) ((content.drop (j * c)).take c)) ++
        [Message.fin fileId content.length],
      message.topic.length < topicLen := by
  have digits := List.length_pos.mpr (decimal_ne_nil content.length)
  rw [length_finTopic, formatLong_natCast] at finFits
  intro message member
  simp only [List.cons_append, List.mem_cons, List.mem_append, List.mem_map, List.mem_range,
    List.not_mem_nil, or_false] at member
  rcases member with rfl | ⟨j, below, rfl⟩ | rfl
  · rw [Message.topic, length_initTopic]
    omega
  · -- the offset `j * c` lies below the size, so it prints no more digits
    have positive : 0 < c := Nat.pos_of_ne_zero fun zero => by simp [zero] at below
    have offset : (j + 1) * c ≤ content.length + c - 1 :=
      (Nat.le_div_iff_mul_le positive).mp below
    have shorter := length_decimal_mono (show j * c ≤ content.length by
      rw [Nat.succ_mul] at offset; omega)
    rw [Message.topic, length_chunkTopic]
    omega
  · rwa [Message.topic, length_finTopic, formatLong_natCast]

/-- send_file on an unchanging file. When its fin topic fits TOPIC_LEN with the terminator (and
so, with fewer digits or none, do its init topic and every chunk topic) and its init payload
fits BUF_SIZE, it returns 0 having published init with the file's size, its `⌈n / c⌉` chunks for
the clamped chunk size `c`, the `j`-th at offset `j * c` with the next `c` bytes or what is left,
and fin with the same size, every one sent and on a topic that fits TOPIC_LEN. When the init
topic or the init payload does not fit, it returns -1 having published nothing. -/
theorem sendFile_stableTransfer {fileId fileName : Option Bytes} {expireTime segmentsTtl : Nat}
    (stable : StableTransfer env past path content) (chunkSize interval : Nat) :
    ((finTopic fileId content.length).length < topicLen →
      (initialPayload fileName content.length expireTime segmentsTtl).length < bufSize →
      (sendFile (some path) fileId fileName chunkSize interval expireTime segmentsTtl env
          past).1 = 0 ∧
        publishes (sendFile (some path) fileId fileName chunkSize interval expireTime segmentsTtl
            env past).2 =
          (Message.init fileId fileName content.length expireTime segmentsTtl ::
              (List.range ((content.length + clampChunkSize chunkSize - 1) /
                  clampChunkSize chunkSize)).map
                (fun j => Message.chunk fileId (j * clampChunkSize chunkSize)
                  ((content.drop (j * clampChunkSize chunkSize)).take (clampChunkSize chunkSize))) ++
              [Message.fin fileId content.length]).map (fun message => encode (message, true)) ∧
        ∀ published ∈ publishes (sendFile (some path) fileId fileName chunkSize interval expireTime
            segmentsTtl env past).2, published.1.length < topicLen) ∧
      (¬((initTopic fileId).length < topicLen ∧
          (initialPayload fileName content.length expireTime segmentsTtl).length < bufSize) →
        (sendFile (some path) fileId fileName chunkSize interval expireTime segmentsTtl env
            past).1 = -1 ∧
          publishes (sendFile (some path) fileId fileName chunkSize interval expireTime segmentsTtl
            env past).2 = []) := by
  refine ⟨fun finFits payloadFits => ?_,
    fun refused => sendFile_initialRefused stable refused chunkSize interval⟩
  have fit := stableTopics_fit fileId fileName expireTime segmentsTtl (clampChunkSize chunkSize)
    finFits
  obtain ⟨returned, published⟩ :=
    sendFile_stable stable (fit _ (List.mem_cons_self _ _)) payloadFits chunkSize interval
  refine ⟨returned, published, ?_⟩
  rw [published]
  rintro _ member
  obtain ⟨message, listed, rfl⟩ := List.mem_map.mp member
  exact fit message listed

end Stable

/-! ### Runs on particular files -/

/-- A file system holding the 11 bytes `hello world` at every path. -/
def helloFileSystem : Env :=
  fileSystem (ascii "hello world").length ⟨by decide, by decide⟩ (ascii "hello world")

/-- `hello world` sent in segments of 4 bytes: three chunks, `hell`, `o wo` and `rld`, every
topic within TOPIC_LEN; under a file id of 1013 bytes the init topic does not fit and nothing is
published. -/
theorem helloFile_transfer :
    StableTransfer helloFileSystem [] (ascii "hello.txt") (ascii "hello world") ∧
      (finTopic (some (ascii "hello")) (ascii "hello world").length).length < topicLen ∧
      (initialPayload (some (ascii "hello.txt")) (ascii "hello world").length noExpiry
        noExpiry).length < bufSize ∧
      ((sendFile (some (ascii "hello.txt")) (some (ascii "hello")) (some (ascii "hello.txt")) 4 0
          noExpiry noExpiry helloFileSystem []).1 = 0 ∧
        publishes (sendFile (some (ascii "hello.txt")) (some (ascii "hello"))
            (some (ascii "hello.txt")) 4 0 noExpiry noExpiry helloFileSystem []).2 =
          (Message.init (some (ascii "hello")) (some (ascii "hello.txt"))
              (ascii "hello world").length noExpiry noExpiry ::
            (List.range (((ascii "hello world").length + clampChunkSize 4 - 1) /
                clampChunkSize 4)).map
              (fun j => Message.chunk (some (ascii "hello")) (j * clampChunkSize 4)
                (((ascii "hello world").drop (j * clampChunkSize 4)).take (clampChunkSize 4))) ++
            [Message.fin (some (ascii "hello")) (ascii "hello world").length]).map
            (fun message => encode (message, true)) ∧
        ∀ published ∈ publishes (sendFile (some (ascii "hello.txt")) (some (ascii "hello"))
            (some (ascii "hello.txt")) 4 0 noExpiry noExpiry helloFileSystem []).2,
          published.1.length < topicLen) ∧
      ¬((initTopic (some (List.replicate 1013 97))).length < topicLen ∧
        (initialPayload (some (ascii "hello.txt")) (ascii "hello world").length noExpiry
          noExpiry).length < bufSize) ∧
      (sendFile (some (ascii "hello.txt")) (some (List.replicate 1013 97))
          (some (ascii "hello.txt")) 4 0 noExpiry noExpiry helloFileSystem []).1 = -1 ∧
        publishes (sendFile (some (ascii "hello.txt")) (some (List.replicate 1013 97))
          (some (ascii "hello.txt")) 4 0 noExpiry noExpiry helloFileSystem []).2 = [] := by
  have stable := fileSystem_stable (ascii "hello world") (ascii "hello.txt") ⟨by decide, by decide⟩
  have longId : ¬((initTopic (some (List.replicate 1013 97))).length < topicLen ∧
      (initialPayload (some (ascii "hello.txt")) (ascii "hello world").length noExpiry
        noExpiry).length < bufSize) := by
    rw [length_initTopic, cstr, List.length_replicate]
    exact fun fits => absurd fits.1 (by decide)
  exact ⟨stable, by decide, by decide, (sendFile_stableTransfer stable 4 0).1 (by decide) (by decide),
    longId, (sendFile_stableTransfer stable 4 0).2 longId⟩

/-- With a file id of 1013 bytes the init topic is 1024 bytes long, publish_initial's check
fails, and send_file returns -1 having published nothing, though the file reads and every
publish would be sent. -/
theorem sendFile_longFileId :
    sendFile (some (ascii "hello.txt")) (some (List.replicate 1013 97)) (some (ascii "hello.txt"))
        4 0 noExpiry noExpiry helloFileSystem [] =
      (-1, [.fopen (some (ascii "hello.txt")) true, .flock .sh true, .ftell 11, .fclose]) := by
  rw [sendFile_some_apply]
  simp only []
  rw [publishInitial, publishFormatted_of_overflow]
  · rfl
  · simp only [List.all_cons, List.all_nil, length_initTopic, cstr, List.length_replicate]
    decide

/-- A file that holds 5000 bytes when `ftell` reports 10000: it was truncated in between. -/
def truncatedFileSystem : Env := fileSystem 10000 ⟨by decide, by decide⟩ (List.replicate 5000 7)

/-- publish_file's loop on the truncated file, from a history with nothing read yet: the read of
10240 bytes returns the 5000 left, which go out as one chunk; the read of the 5000 the size still
promises returns nothing, and the loop ends with 0. -/
theorem publishFileLoop_truncatedFile (fileId : Option Bytes) (interval : Nat)
    {past : List Effect} (unread : bytesRead past = 0)
    (fits : (chunkTopic fileId 0).length < bufSize) :
    publishFileLoop fileId 10000 interval 0 10240 truncatedFileSystem past =
      (0, chunkIteration fileId interval 0 10240 (List.replicate 5000 7) ++ [.fread 5000 []]) := by
  have first : truncatedFileSystem.fread past 10240 = List.replicate 5000 7 := by
    show ((List.replicate 5000 (7 : UInt8)).drop (bytesRead past)).take 10240 = _
    rw [unread, List.drop_zero, List.take_of_length_le (by rw [List.length_replicate]; omega)]
  have second : truncatedFileSystem.fread
      (past ++ chunkIteration fileId interval 0 10240 (List.replicate 5000 7)) 5000 = [] := by
    show ((List.replicate 5000 (7 : UInt8)).drop (bytesRead (past ++ _))).take 5000 = []
    rw [bytesRead_append, unread, List.drop_eq_nil_of_le (by
        simp only [chunkIteration, bytesRead_cons, readLength, bytesRead_nil,
          List.length_replicate]
        omega), List.take_nil]
  have advanced : (0 + (List.replicate 5000 (7 : UInt8)).length) % 2 ^ 64 = 5000 := by
    rw [List.length_replicate]; rfl
  rw [publishFileLoop_of_sent first
      (List.ne_nil_of_length_pos (by rw [List.length_replicate]; omega)) fits rfl, advanced,
    if_neg (by decide), show nextChunkSize 10000 5000 10240 = 5000 by decide,
    publishFileLoop_of_empty second]

/-- send_file on the truncated file with segment size 0, for every path and every file id and
name whose init, chunk and fin texts pass their checks: init announces 10000 bytes, the loop
publishes the 5000 bytes and ends on the empty read, and fin announces 10000 again. -/
theorem truncatedFile_run {path : Bytes} {fileId fileName : Option Bytes} {interval : Nat}
    (initFits : (initialPayload fileName 10000 noExpiry noExpiry).length < bufSize ∧
      (initTopic fileId).length < topicLen)
    (chunkFits : (chunkTopic fileId 0).length < bufSize)
    (finFits : (finTopic fileId 10000).length < bufSize) :
    sendFile (some path) fileId fileName 0 interval noExpiry noExpiry truncatedFileSystem [] =
      (0, [.fopen (some path) true, .flock .sh true, .ftell 10000,
          .publish (initTopic fileId) (initialPayload fileName 10000 noExpiry noExpiry) true] ++
        chunkIteration fileId interval 0 10240 (List.replicate 5000 7) ++
        [.fread 5000 [], .flock .un true, .fclose, .publish (finTopic fileId 10000) [] true]) := by
  have opens : ∀ past path, truncatedFileSystem.fopen past path = true := fun _ _ => rfl
  have locks : ∀ past op, truncatedFileSystem.flock past op = true := fun _ _ => rfl
  have sends : ∀ past topic payload, truncatedFileSystem.sendmsg past topic payload = true :=
    fun _ _ _ => rfl
  rw [sendFile_some_apply]
  simp only [publishFile, opens, locks, show ∀ past, truncatedFileSystem.ftell past = 10000 from
    fun _ => rfl, publishInitial, publishFin,
    publishFormatted_of_fits (show [(initialPayload fileName 10000 noExpiry noExpiry, bufSize),
      (initTopic fileId, topicLen)].all _ = true by simp [initFits]),
    publishFormatted_of_fits (show [(finTopic fileId 10000, bufSize)].all _ = true by
      simp [finFits]), sends, show clampChunkSize 0 = 10240 from rfl]
  rw [publishFileLoop_truncatedFile _ _ (by rfl) chunkFits]
  rfl

/-- send_file on the truncated file: the first read returns the 5000 bytes, the second one
nothing, publish_file returns 0 and send_file publishes the fin announcing 10000 bytes and
returns 0, after chunks of 5000 bytes in all. -/
theorem sendFile_truncatedFile :
    sendFile (some (ascii "log")) (some (ascii "f")) (some (ascii "log")) 0 0 noExpiry noExpiry
        truncatedFileSystem [] =
      (0, [.fopen (some (ascii "log")) true, .flock .sh true, .ftell 10000,
        .publish (initTopic (some (ascii "f")))
          (initialPayload (some (ascii "log")) 10000 noExpiry noExpiry) true,
        .fread 10240 (List.replicate 5000 7),
        .publish (chunkTopic (some (ascii "f")) 0) (List.replicate 5000 7) true, .msleep 0,
        .fread 5000 [], .flock .un true, .fclose,
        .publish (finTopic (some (ascii "f")) 10000) [] true]) := by
  rw [truncatedFile_run (by decide) (by decide) (by decide)]
  rfl

/-- A file id of 1012 bytes passes publish_initial's check (its init topic has 1023 bytes), and
send_file then publishes a fin topic of 1024 bytes, which publish_fin formatted into its
1024-byte topic buffer under the bound BUF_SIZE: the terminator lands past the buffer. -/
theorem sendFile_longFinTopic :
    (finTopic (some (List.replicate 1012 97)) 0).length = 1024 ∧
      sendFile (some (ascii "a")) (some (List.replicate 1012 97)) (some (ascii "a")) 0 0 noExpiry
          noExpiry deletingFileSystem [] =
        (0, [.fopen (some (ascii "a")) true, .flock .sh true, .ftell 0,
          .publish (initTopic (some (List.replicate 1012 97)))
            (initialPayload (some (ascii "a")) 0 noExpiry noExpiry) true,
          .fread 10240 [], .flock .un true, .fclose,
          .publish (finTopic (some (List.replicate 1012 97)) 0) [] true]) := by
  have finLength : (finTopic (some (List.replicate 1012 97)) 0).length = 1024 := by
    rw [length_finTopic, cstr, List.length_replicate]
    decide
  refine ⟨finLength, ?_⟩
  rw [sendFile_some_apply]
  simp only [publishFile, publishFileLoop_deletingFileSystem,
    show ∀ past, deletingFileSystem.ftell past = 0 from fun _ => rfl]
  rw [publishInitial, publishFormatted_of_fits, publishFin, publishFormatted_of_fits]
  · rfl
  · simp only [List.all_cons, List.all_nil, Bool.and_true, decide_eq_true_eq, finLength]
    decide
  · simp only [List.all_cons, List.all_nil, length_initTopic, cstr, List.length_replicate]
    decide

end MqttFileTransfer
