/-
Module: MqttFileTransfer.Proofs.Stream
Layer: Proofs
Purpose: send_file's use of its stream and of its payload buffer, for every behaviour of the
  file and the broker. `publishFileLoop_forall` packages the induction along publish_file's
  loop once: an invariant of `chunk_size` that the update of each iteration keeps, and a
  property of effects that each iteration's read, publish and sleep have under it, give the
  property for every effect of every run. With the invariant 1 <= chunk_size <= BUF_SIZE, which
  send_file's clamp establishes and the update keeps (`nextChunkSize_pos_le`: it only fires to
  lower the chunk size, and never to 0 since the offset is not the size), every read and every
  publish of send_file keeps within the buffer (`sendFile_fitsBuffer`). With the trivial
  invariant, the loop only reads, publishes and sleeps, so every run of send_file that opened
  its file has the phases of `StreamPhases` (`sendFile_streamPhases`) and keeps the stream
  discipline (`sendFile_streamDiscipline`). Along the loop's recursion again, each sent chunk is
  followed at once by the sleep and no run of the loop ends with a sent publish
  (`publishFileLoop_paced`); the init and fin topics are never chunk topics of the same file id,
  so every run of send_file is paced (`sendFile_paced`).
Trusted boundary: none
Main exports: nextChunkSize_pos_le, publishFileLoop_forall, mem_publishFormatted,
  sendFile_fitsBuffer, sendFile_streamPhases, sendFile_streamDiscipline, publishFileLoop_paced,
  sendFile_paced
-/
import MqttFileTransfer.Spec.Stream
import MqttFileTransfer.Spec.Digits
import MqttFileTransfer.Proofs.SendFile

namespace MqttFileTransfer

/-! ### The loop, along its own recursion -/

/-- The update of an iteration that goes on keeps the chunk size between 1 and what it was: it
fires only when the distance left is below the chunk size, and that distance is not 0 because
the new offset is not the size. -/
theorem nextChunkSize_pos_le {fileSize : Int} {offset chunkSize : Nat} (positive : 1 ≤ chunkSize)
    (small : chunkSize < 2 ^ 32) (offsetFits : offset < 2 ^ 64)
    (notReached : offset ≠ toULong fileSize) :
    1 ≤ nextChunkSize fileSize offset chunkSize ∧ nextChunkSize fileSize offset chunkSize ≤ chunkSize := by
  have sizeFits := toULong_lt fileSize
  unfold nextChunkSize ulongSub
  split_ifs <;> omega

section Loop

variable {fileId : Option Bytes} {fileSize : Int} {interval : Nat} {env : Env}

/-- Every effect of every run of publish_file's loop has a property `P`, given an invariant of
the chunk size that holds at the start and survives the update of an iteration that goes on,
and under which each iteration's read, publish and sleep have `P`. -/
theorem publishFileLoop_forall {Inv : Nat → Prop} {P : Effect → Prop}
    (update : ∀ {offset chunkSize}, Inv chunkSize → offset < 2 ^ 64 →
      offset ≠ toULong fileSize → Inv (nextChunkSize fileSize offset chunkSize))
    (reads : ∀ {chunkSize data}, Inv chunkSize → data.length ≤ chunkSize →
      P (.fread chunkSize data))
    (published : ∀ {offset chunkSize data sent}, Inv chunkSize → data.length ≤ chunkSize →
      P (.publish (chunkTopic fileId offset) data sent))
    (sleeps : P (.msleep (toInt interval)))
    (offset chunkSize : Nat) (past : List Effect) (holds : Inv chunkSize) :
    ∀ effect ∈ (publishFileLoop fileId fileSize interval offset chunkSize env past).2,
      P effect := by
  induction offset, chunkSize using publishFileLoop.induct fileId fileSize interval
    generalizing past with
  | case1 offset chunkSize inductionHypothesis =>
      have read := env.fread_le past chunkSize
      rw [publishFileLoop_apply]
      simp only []
      split_ifs with empty overflow unsent reached
      · simpa using reads holds read
      · simpa using reads holds read
      · simp [reads holds read, published holds read]
      · simp [reads holds read, published holds read, sleeps]
      · -- this iteration's three effects, then the loop from the new offset
        simp only [List.cons_append, List.nil_append, List.mem_cons]
        rintro effect (rfl | rfl | rfl | member)
        · exact reads holds read
        · exact published holds read
        · exact sleeps
        · exact inductionHypothesis _ read empty _
            (update holds (Nat.mod_lt _ (by norm_num)) reached) effect member

/-- From a chunk size between 1 and `BUF_SIZE`, every read of publish_file's loop asks for 1
to `BUF_SIZE` bytes and every publish carries at most `BUF_SIZE` bytes. -/
theorem publishFileLoop_fitsBuffer (offset chunkSize : Nat) (past : List Effect)
    (positive : 1 ≤ chunkSize) (bounded : chunkSize ≤ bufSize) :
    ∀ effect ∈ (publishFileLoop fileId fileSize interval offset chunkSize env past).2,
      effect.fitsBuffer :=
  @publishFileLoop_forall fileId fileSize interval env
    (fun chunkSize => 1 ≤ chunkSize ∧ chunkSize ≤ bufSize) (fun effect => effect.fitsBuffer)
    (fun bounds offsetFits reached => by
      have := nextChunkSize_pos_le bounds.1 (by unfold bufSize at bounds; omega) offsetFits reached
      omega)
    (fun bounds read => by simp [Effect.fitsBuffer, bounds.1, bounds.2, read.trans bounds.2])
    (fun bounds read => by simp [Effect.fitsBuffer, read.trans bounds.2])
    rfl offset chunkSize past ⟨positive, bounded⟩

/-- publish_file's loop only reads, publishes and sleeps. -/
theorem publishFileLoop_isStreaming (offset chunkSize : Nat) (past : List Effect) :
    ∀ effect ∈ (publishFileLoop fileId fileSize interval offset chunkSize env past).2,
      effect.isStreaming :=
  @publishFileLoop_forall fileId fileSize interval env (fun _ => True)
    (fun effect => effect.isStreaming) (fun _ _ _ => trivial)
    (fun _ _ => rfl) (fun _ _ => rfl) rfl offset chunkSize past trivial

end Loop

/-! ### The publish stages -/

/-- Every effect of a publish stage is the publish of its topic and payload, made only when
every check passed. -/
theorem mem_publishFormatted {checks : List (Bytes × Nat)} {topic payload : Bytes} {env : Env}
    {past : List Effect} {effect : Effect}
    (member : effect ∈ (publishFormatted checks topic payload env past).2) :
    (checks.all fun (text, bound) => text.length < bound) = true ∧
      ∃ sent, effect = .publish topic payload sent := by
  cases fits : checks.all fun (text, bound) => text.length < bound
  · simp [publishFormatted_of_overflow fits] at member
  · rw [publishFormatted_of_fits fits, List.mem_singleton] at member
    exact ⟨rfl, _, member⟩

/-- publish_initial publishes only a payload that passed its `BUF_SIZE` check. -/
theorem publishInitial_fitsBuffer {fileId fileName : Option Bytes} {fileSize : Int}
    {expireTime segmentsTtl : Nat} {env : Env} {past : List Effect} {effect : Effect}
    (member : effect ∈ (publishInitial fileId fileName fileSize expireTime segmentsTtl env past).2) :
    effect.fitsBuffer ∧ effect.isStreaming := by
  obtain ⟨checked, sent, rfl⟩ := mem_publishFormatted member
  simp only [List.all_cons, Bool.and_eq_true, decide_eq_true_eq] at checked
  simp [Effect.fitsBuffer, Effect.isStreaming, checked.1.le]

/-- publish_fin publishes nothing, or its fin message. -/
theorem mem_publishFin {fileId : Option Bytes} {fileSize : Int} {env : Env} {past : List Effect}
    {effect : Effect} (member : effect ∈ (publishFin fileId fileSize env past).2) :
    ∃ sent, effect = .publish (finTopic fileId fileSize) [] sent :=
  (mem_publishFormatted member).2

/-! ### The stages of send_file -/

/-- A run of send_file that opened its file, stage by stage: the open, the lock attempt and the
size query; the effects of publish_initial; those of publish_file unless publish_initial failed;
an unlock only after a successful lock; the close; the effects of publish_fin only after a
successful publish_file. -/
theorem sendFile_stages {path : Bytes} {fileId fileName : Option Bytes}
    {chunkSize interval expireTime segmentsTtl : Nat} {env : Env} {past : List Effect}
    (opened : env.fopen past path = true) :
    ∃ (locked : Bool) (size : Int) (initial chunks unlock finished : List Effect),
      (sendFile (some path) fileId fileName chunkSize interval expireTime segmentsTtl env
          past).2 =
        [.fopen (some path) true, .flock .sh locked, .ftell size] ++ (initial ++ chunks) ++ unlock ++
          .fclose :: finished ∧
      (∃ before, initial =
        (publishInitial fileId fileName size expireTime segmentsTtl env before).2) ∧
      (chunks = [] ∨ ∃ before, chunks =
        (publishFile fileId size (clampChunkSize chunkSize) interval env before).2) ∧
      (unlock = [] ∨ locked = true ∧ ∃ unlocked, unlock = [.flock .un unlocked]) ∧
      (finished = [] ∨ ∃ before, finished = (publishFin fileId size env before).2) := by
  rw [sendFile_some_apply, if_neg (by simp [opened])]
  simp only []
  set locked := env.flock (past ++ [.fopen (some path) true]) .sh
  set size := env.ftell (past ++ [.fopen (some path) true, .flock .sh locked])
  set initial := publishInitial fileId fileName size expireTime segmentsTtl env
    (past ++ [.fopen (some path) true, .flock .sh locked, .ftell size])
  set chunks := publishFile fileId size (clampChunkSize chunkSize) interval env
    (past ++ [.fopen (some path) true, .flock .sh locked, .ftell size] ++ initial.2)
  by_cases initialFailed : initial.1 ≠ 0
  · rw [if_pos initialFailed]
    exact ⟨locked, size, initial.2, [], [], [], by simp, ⟨_, rfl⟩, .inl rfl, .inl rfl, .inl rfl⟩
  rw [if_neg initialFailed]
  by_cases chunksFailed : chunks.1 ≠ 0
  · rw [if_pos chunksFailed]
    exact ⟨locked, size, initial.2, chunks.2, [], [], by simp, ⟨_, rfl⟩, .inr ⟨_, rfl⟩, .inl rfl,
      .inl rfl⟩
  rw [if_neg chunksFailed]
  by_cases unlocks : locked = true
  · set unlock := [Effect.flock .un (env.flock
      (past ++ [.fopen (some path) true, .flock .sh locked, .ftell size] ++ initial.2 ++ chunks.2) .un)]
    rw [if_pos unlocks]
    exact ⟨locked, size, initial.2, chunks.2, unlock, (publishFin fileId size env
      (past ++ [.fopen (some path) true, .flock .sh locked, .ftell size] ++ initial.2 ++ chunks.2 ++
        unlock ++ [.fclose])).2, by simp, ⟨_, rfl⟩, .inr ⟨_, rfl⟩, .inr ⟨unlocks, _, rfl⟩,
      .inr ⟨_, rfl⟩⟩
  · rw [if_neg unlocks]
    exact ⟨locked, size, initial.2, chunks.2, [], (publishFin fileId size env
      (past ++ [.fopen (some path) true, .flock .sh locked, .ftell size] ++ initial.2 ++ chunks.2 ++
        [] ++ [.fclose])).2, by simp, ⟨_, rfl⟩, .inr ⟨_, rfl⟩, .inl rfl, .inr ⟨_, rfl⟩⟩

/-! ### send_file and its buffer -/

/-- Every read and every publish of send_file keeps within the `BUF_SIZE` payload buffer: each
read asks for 1 to `BUF_SIZE` bytes, each publish carries at most `BUF_SIZE` bytes, for every
requested chunk size, every size `ftell` reports and every behaviour of the reads. -/
theorem sendFile_fitsBuffer (filePath fileId fileName : Option Bytes)
    (chunkSize interval expireTime segmentsTtl : Nat) (env : Env) (past : List Effect) :
    (sendFile filePath fileId fileName chunkSize interval expireTime segmentsTtl env past).2.all
      Effect.fitsBuffer = true := by
  rw [List.all_eq_true]
  cases filePath with
  | none => simp [sendFile, fopen, Effect.fitsBuffer]
  | some path =>
    cases opened : env.fopen past path
    · simp [sendFile_some_apply, opened, Effect.fitsBuffer]
    obtain ⟨locked, size, initial, chunks, unlock, finished, effects, initialRun, chunksRun,
      unlocks, fin⟩ := sendFile_stages opened
    have clamped : 1 ≤ clampChunkSize chunkSize ∧ clampChunkSize chunkSize ≤ bufSize := by
      unfold clampChunkSize bufSize; split_ifs <;> omega
    rw [effects]
    simp only [List.mem_append, List.mem_cons, List.mem_singleton, List.not_mem_nil, or_false]
    rintro effect ((((rfl | rfl | rfl) | member | member) | member) | rfl | member)
    · rfl
    · rfl
    · rfl
    · obtain ⟨_, rfl⟩ := initialRun
      exact (publishInitial_fitsBuffer member).1
    · rcases chunksRun with rfl | ⟨_, rfl⟩
      · cases member
      · exact publishFileLoop_fitsBuffer 0 _ _ clamped.1 clamped.2 effect member
    · rcases unlocks with rfl | ⟨-, _, rfl⟩
      · cases member
      · rw [List.mem_singleton.mp member]; rfl
    · rfl
    · rcases fin with rfl | ⟨_, rfl⟩
      · cases member
      · obtain ⟨_, rfl⟩ := mem_publishFin member
        rfl

/-! ### send_file and its stream -/

/-- Every run of send_file that opened its file has the phases of `StreamPhases`. -/
theorem sendFile_streamPhases {path : Bytes} {fileId fileName : Option Bytes}
    {chunkSize interval expireTime segmentsTtl : Nat} {env : Env} {past : List Effect}
    (opened : env.fopen past path = true) :
    StreamPhases path fileId
      (sendFile (some path) fileId fileName chunkSize interval expireTime segmentsTtl env
        past).2 := by
  obtain ⟨locked, size, initial, chunks, unlock, finished, effects, initialRun, chunksRun,
    unlocks, fin⟩ := sendFile_stages opened
  refine ⟨locked, size, initial ++ chunks, unlock, finished, effects, fun effect member => ?_,
    unlocks, fun effect member => ?_⟩
  · rcases List.mem_append.mp member with member | member
    · obtain ⟨_, rfl⟩ := initialRun
      exact (publishInitial_fitsBuffer member).2
    · rcases chunksRun with rfl | ⟨_, rfl⟩
      · cases member
      · exact publishFileLoop_isStreaming 0 _ _ effect member
  · rcases fin with rfl | ⟨_, rfl⟩
    · cases member
    · exact mem_publishFin member

/-- send_file, on every outcome of its external calls, either fails to open its file and does
nothing more, or opened it and keeps the stream discipline: it closes the stream exactly once,
uses it for nothing after the close, and holds a shared lock it took over every publish before
the close. -/
theorem sendFile_streamDiscipline (filePath fileId fileName : Option Bytes)
    (chunkSize interval expireTime segmentsTtl : Nat) (env : Env) (past : List Effect) :
    (sendFile filePath fileId fileName chunkSize interval expireTime segmentsTtl env past).2 =
        [.fopen filePath false] ∨
      (sendFile filePath fileId fileName chunkSize interval expireTime segmentsTtl env
          past).2.head? = some (.fopen filePath true) ∧
        StreamDiscipline fileId
          (sendFile filePath fileId fileName chunkSize interval expireTime segmentsTtl env
            past).2 := by
  cases filePath with
  | none => exact .inl rfl
  | some path =>
    cases opened : env.fopen past path
    · exact .inl (by simp [sendFile_some_apply, opened])
    · have phases : StreamPhases path fileId (sendFile (some path) fileId fileName chunkSize
          interval expireTime segmentsTtl env past).2 := sendFile_streamPhases opened
      obtain ⟨_, _, _, _, _, effects, -⟩ := id phases
      exact .inr ⟨by rw [effects]; rfl, phases.discipline⟩

/-! ### Pacing -/

/-- A chunk topic is never the init topic of its file id: after the file id and its `/` a chunk
topic has only digits, and `init` starts with a letter. -/
theorem chunkTopic_ne_initTopic (fileId : Option Bytes) (offset : Nat) :
    chunkTopic fileId offset ≠ initTopic fileId := by
  intro same
  simp only [chunkTopic, initTopic, List.append_assoc, List.append_cancel_left_eq] at same
  have digits : decimal offset = ascii "init" :=
    List.append_cancel_left (same.trans (rfl : ascii "/init" = ascii "/" ++ ascii "init"))
  exact absurd (isDigit_of_mem_decimal offset 105 (digits ▸ by decide)) (by decide)

/-- A chunk topic is never a fin topic of its file id: `fin/` starts with a letter. -/
theorem chunkTopic_ne_finTopic (fileId : Option Bytes) (offset : Nat) (fileSize : Int) :
    chunkTopic fileId offset ≠ finTopic fileId fileSize := by
  intro same
  simp only [chunkTopic, finTopic, List.append_assoc, List.append_cancel_left_eq] at same
  have digits : decimal offset = ascii "fin/" ++ formatLong fileSize :=
    List.append_cancel_left (same.trans (rfl : ascii "/fin/" ++ _ = ascii "/" ++ (ascii "fin/" ++ _)))
  exact absurd (isDigit_of_mem_decimal offset 102
    (digits ▸ List.mem_append_left _ (by decide))) (by decide)

section Pacing

variable {fileId : Option Bytes} {fileSize : Int} {interval : Nat} {env : Env}

/-- Every run of publish_file's loop is paced by `nng_msleep(interval)` and does not end with a
sent publish: each sent chunk is followed at once by the sleep. -/
theorem publishFileLoop_paced (isChunk : Bytes → Prop) (offset chunkSize : Nat)
    (past : List Effect) :
    PacedBy isChunk (.msleep (toInt interval))
        (publishFileLoop fileId fileSize interval offset chunkSize env past).2 ∧
      ∀ topic payload, (publishFileLoop fileId fileSize interval offset chunkSize env
        past).2.getLast? ≠ some (.publish topic payload true) := by
  induction offset, chunkSize using publishFileLoop.induct fileId fileSize interval
    generalizing past with
  | case1 offset chunkSize inductionHypothesis =>
      rw [publishFileLoop_apply]
      simp only []
      -- one iteration that published: the read, the sent chunk, the sleep
      have iteration : ∀ {topic payload}, PacedBy isChunk (.msleep (toInt interval))
          [.fread chunkSize payload, .publish topic payload true, .msleep (toInt interval)] :=
        ⟨nofun, fun _ _ _ _ => rfl, nofun, trivial⟩
      split_ifs with empty overflow unsent reached
      · exact ⟨PacedBy.of_forall (by simp), by simp⟩
      · exact ⟨PacedBy.of_forall (by simp), by simp⟩
      · exact ⟨PacedBy.of_forall (by simp [unsent]), by simp⟩
      · exact ⟨iteration, by simp⟩
      · obtain ⟨restPaced, restLast⟩ := inductionHypothesis _ (env.fread_le past chunkSize) empty _
        refine ⟨iteration.append restPaced (by simp), fun topic payload last => ?_⟩
        rcases Option.or_eq_some.mp (List.getLast?_append ▸ last) with restEnds | ⟨-, sleepEnds⟩
        · exact restLast topic payload restEnds
        · cases sleepEnds

/-- Every run of send_file is paced, whatever the file and the broker do: each chunk it sent is
followed at once by `nng_msleep(interval)`, the last chunk too, before the next read, the
unlock or the close. -/
theorem sendFile_paced (filePath fileId fileName : Option Bytes)
    (chunkSize interval expireTime segmentsTtl : Nat) (env : Env) (past : List Effect) :
    PacedBy (fun topic => ∃ offset, topic = chunkTopic fileId offset) (.msleep (toInt interval))
      (sendFile filePath fileId fileName chunkSize interval expireTime segmentsTtl env past).2 := by
  cases filePath with
  | none => exact PacedBy.of_forall fun _ _ member => by simp [sendFile, fopen] at member
  | some path =>
    cases opened : env.fopen past path
    · exact PacedBy.of_forall fun _ _ member => by
        simp [sendFile_some_apply, opened] at member
    obtain ⟨locked, size, initial, chunks, unlock, finished, effects, initialRun, chunksRun, unlocks,
      fin⟩ := sendFile_stages opened
    -- after the loop: the unlock, the close and the fin, none of them a chunk
    have closing : PacedBy (fun topic => ∃ offset, topic = chunkTopic fileId offset)
        (.msleep (toInt interval)) (unlock ++ .fclose :: finished) :=
      PacedBy.of_forall fun topic payload member ⟨offset, chunk⟩ => by
        simp only [List.mem_append, List.mem_cons] at member
        rcases member with unlocking | closes | finishing
        · rcases unlocks with rfl | ⟨-, _, rfl⟩ <;> simp at unlocking
        · cases closes
        · rcases fin with rfl | ⟨_, rfl⟩
          · cases finishing
          · obtain ⟨_, same⟩ := mem_publishFin finishing
            cases same
            exact chunkTopic_ne_finTopic fileId offset size chunk.symm
    rw [effects]
    simp only [List.append_assoc]
    refine PacedBy.append_of_forall (by simp) (PacedBy.append_of_forall ?_ ?_)
    · -- the init publish is not a chunk
      obtain ⟨_, rfl⟩ := initialRun
      intro topic payload member ⟨offset, chunk⟩
      obtain ⟨-, _, same⟩ := mem_publishFormatted member
      cases same
      exact chunkTopic_ne_initTopic fileId offset chunk.symm
    · rcases chunksRun with rfl | ⟨_, rfl⟩
      · exact closing
      · obtain ⟨loopPaced, loopEnds⟩ := publishFileLoop_paced _ 0 _ _
        exact loopPaced.append closing fun topic payload last => absurd last (loopEnds topic payload)

end Pacing

end MqttFileTransfer
