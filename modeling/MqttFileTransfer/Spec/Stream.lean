/-
Module: MqttFileTransfer.Spec.Stream
Layer: Spec
Purpose: How send_file may use its `FILE *`. `StreamDiscipline` is what the spec asks once the
  open succeeded: the stream is closed exactly once; after the close nothing reads, locks,
  unlocks or measures it, and only the fin message is published; and when the shared lock was
  taken, every publish before the close comes after the lock and before anything gives the lock
  up. `StreamPhases` is the shape of a run that keeps it: the open, the lock attempt and the
  size query, a streaming phase of reads, publishes and sleeps, an unlock only when the lock was
  taken, the close, then the fin. `StreamPhases.discipline` derives the discipline from the
  shape once, for every run of that shape. `Effect.fitsBuffer` says an effect keeps within the
  `BUF_SIZE` payload buffer of publish_file. `PacedBy` is the pacing of the chunked sender: every
  sent chunk publish is followed at once by the pause, whatever comes after it.
Trusted boundary: none
Main exports: Effect.usesStream, Effect.releasesLock, Effect.isStreaming, Effect.fitsBuffer,
  StreamDiscipline, StreamPhases, StreamPhases.discipline, PacedBy, PacedBy.append
-/
import MqttFileTransfer.Spec.Protocol

namespace MqttFileTransfer

namespace Effect

/-- Whether an effect operates on the stream: a lock or unlock, the size query, a read or the
close. -/
def usesStream : Effect → Bool
  | .flock .. | .ftell _ | .fread .. | .fclose => true
  | _ => false

/-- Whether an effect gives up the shared lock: an unlock, or the close, which drops it. -/
def releasesLock : Effect → Bool
  | .flock .un _ | .fclose => true
  | _ => false

/-- The effects of send_file's streaming phase: reads, publishes and the sleeps between them. -/
def isStreaming : Effect → Bool
  | .fread .. | .publish .. | .msleep _ => true
  | _ => false

/-- Whether an effect keeps within the `BUF_SIZE` payload buffer: a read asks for between 1 and
`BUF_SIZE` bytes and gets at most `BUF_SIZE`, a publish carries at most `BUF_SIZE` payload
bytes. -/
def fitsBuffer : Effect → Bool
  | .fread count data => 1 ≤ count && count ≤ bufSize && data.length ≤ bufSize
  | .publish _ payload _ => payload.length ≤ bufSize
  | _ => true

/-- A streaming effect neither gives up the lock nor closes the stream. -/
theorem releasesLock_of_isStreaming {effect : Effect} (streaming : effect.isStreaming) :
    effect.releasesLock = false ∧ effect ≠ .fclose := by
  cases effect <;> simp_all [isStreaming, releasesLock]

end Effect

/-- The discipline send_file keeps with a stream it opened. -/
structure StreamDiscipline (fileId : Option Bytes) (effects : List Effect) : Prop where
  /-- The stream is closed exactly once. -/
  closesOnce : effects.count .fclose = 1
  /-- After the close nothing uses the stream, and the only publish is of a fin message. -/
  afterClose : ∀ before after, effects = before ++ .fclose :: after → ∀ effect ∈ after,
    effect.usesStream = false ∧
      ∀ topic payload sent, effect = .publish topic payload sent →
        ∃ size, topic = finTopic fileId size ∧ payload = []
  /-- When the shared lock was taken, the run up to the close is: no publish, the lock, a phase
  that gives nothing up, no publish. So every publish before the close is made under the
  lock. -/
  lockHeld : .flock .sh true ∈ effects → ∀ before after, effects = before ++ .fclose :: after →
    ∃ opening streaming closing,
      before = opening ++ .flock .sh true :: streaming ++ closing ∧ publishes opening = [] ∧
        (∀ effect ∈ streaming, effect.releasesLock = false) ∧ publishes closing = []

/-- The shape of a run that opened the stream at `path`: the open, the lock attempt, the size
query, a streaming phase, an unlock only after a successful lock, the close, and after it only
the fin message of the measured size. -/
def StreamPhases (path : Bytes) (fileId : Option Bytes) (effects : List Effect) : Prop :=
  ∃ (locked : Bool) (size : Int) (streaming unlock finished : List Effect),
    effects = [.fopen (some path) true, .flock .sh locked, .ftell size] ++ streaming ++ unlock ++
      .fclose :: finished ∧
    (∀ effect ∈ streaming, effect.isStreaming) ∧
    (unlock = [] ∨ locked = true ∧ ∃ unlocked, unlock = [.flock .un unlocked]) ∧
    ∀ effect ∈ finished, ∃ sent, effect = .publish (finTopic fileId size) [] sent

/-- A run of the phases' shape keeps the stream discipline. -/
theorem StreamPhases.discipline {path : Bytes} {fileId : Option Bytes} {effects : List Effect}
    (phases : StreamPhases path fileId effects) : StreamDiscipline fileId effects := by
  obtain ⟨locked, size, streaming, unlock, finished, rfl, streams, unlocks, fins⟩ := phases
  have unlockShape : ∀ effect ∈ unlock, ∃ unlocked, effect = .flock .un unlocked := by
    rcases unlocks with rfl | ⟨-, unlocked, rfl⟩ <;> simp
  have openBeforeClose : Effect.fclose ∉
      [.fopen (some path) true, .flock .sh locked, .ftell size] ++ streaming ++ unlock := by
    simp only [List.mem_append, List.mem_cons, List.not_mem_nil, not_or]
    refine ⟨⟨⟨nofun, nofun, nofun, not_false⟩, fun member =>
        (Effect.releasesLock_of_isStreaming (streams _ member)).2 rfl⟩, fun member => ?_⟩
    obtain ⟨_, same⟩ := unlockShape _ member
    cases same
  have noCloseAfter : Effect.fclose ∉ finished := fun member => by
    obtain ⟨_, same⟩ := fins _ member
    cases same
  refine ⟨?_, fun before after split => ?_, fun locks before after split => ?_⟩
  · -- the one close is the one between the phases
    rw [List.count_append, List.count_cons_self, List.count_eq_zero_of_not_mem noCloseAfter,
      List.count_eq_zero_of_not_mem openBeforeClose]
  all_goals
    obtain ⟨rfl, -, rfl⟩ := (List.append_cons_inj_of_not_mem openBeforeClose noCloseAfter).mp split
  · intro effect member
    obtain ⟨sent, rfl⟩ := fins effect member
    exact ⟨rfl, fun _ _ _ same => by cases same; exact ⟨size, rfl, rfl⟩⟩
  · -- the only successful shared lock is the lock attempt of the open phase
    obtain rfl : locked = true := by
      simp only [List.mem_append, List.mem_cons, List.not_mem_nil, or_false] at locks
      rcases locks with (((nope | same | nope) | member) | member) | nope | member
      · cases nope
      · cases same; rfl
      · cases nope
      · exact absurd (streams _ member) (by simp [Effect.isStreaming])
      · obtain ⟨_, same⟩ := unlockShape _ member
        cases same
      · cases nope
      · obtain ⟨_, same⟩ := fins _ member
        cases same
    refine ⟨[.fopen (some path) true], .ftell size :: streaming, unlock, by simp, rfl,
      fun effect member => ?_, ?_⟩
    · rcases List.mem_cons.mp member with rfl | member
      · rfl
      · exact (Effect.releasesLock_of_isStreaming (streams effect member)).1
    · rcases unlocks with rfl | ⟨-, _, rfl⟩ <;> rfl

/-! ### Pacing -/

/-- The pacing of a run: every sent publish on a topic `isChunk` accepts is followed at once by
`pause`. -/
def PacedBy (isChunk : Bytes → Prop) (pause : Effect) : List Effect → Prop
  | [] => True
  | effect :: rest =>
      (∀ topic payload, effect = .publish topic payload true → isChunk topic →
        rest.head? = some pause) ∧ PacedBy isChunk pause rest

namespace PacedBy

variable {isChunk : Bytes → Prop} {pause : Effect}

/-- A run with no sent publish on a chunk topic is paced. -/
theorem of_forall {effects : List Effect}
    (unchunked : ∀ topic payload, .publish topic payload true ∈ effects → ¬isChunk topic) :
    PacedBy isChunk pause effects := by
  induction effects with
  | nil => trivial
  | cons effect rest inductionHypothesis =>
      refine ⟨fun topic payload same chunk => ?_, inductionHypothesis fun topic payload member =>
        unchunked topic payload (List.mem_cons_of_mem _ member)⟩
      exact absurd chunk (unchunked topic payload (same ▸ List.mem_cons_self _ _))

/-- Two paced runs, one after the other, are paced when the first does not end with a sent chunk
publish. -/
theorem append {first second : List Effect} (firstPaced : PacedBy isChunk pause first)
    (secondPaced : PacedBy isChunk pause second)
    (lastFree : ∀ topic payload, first.getLast? = some (.publish topic payload true) →
      ¬isChunk topic) :
    PacedBy isChunk pause (first ++ second) := by
  induction first with
  | nil => exact secondPaced
  | cons effect rest inductionHypothesis =>
      obtain ⟨headPaced, restPaced⟩ := firstPaced
      cases rest with
      | nil =>
          exact ⟨fun topic payload same chunk =>
            absurd chunk (lastFree topic payload (by rw [same]; rfl)), secondPaced⟩
      | cons next others =>
          exact ⟨headPaced, inductionHypothesis restPaced fun topic payload last =>
            lastFree topic payload (by rwa [List.getLast?_cons_cons])⟩

/-- A run with no sent chunk publish in front of a paced run keeps it paced. -/
theorem append_of_forall {first second : List Effect}
    (unchunked : ∀ topic payload, .publish topic payload true ∈ first → ¬isChunk topic)
    (secondPaced : PacedBy isChunk pause second) : PacedBy isChunk pause (first ++ second) :=
  append (of_forall unchunked) secondPaced fun topic payload last =>
    unchunked topic payload (List.mem_of_getLast?_eq_some last)

end PacedBy

end MqttFileTransfer
