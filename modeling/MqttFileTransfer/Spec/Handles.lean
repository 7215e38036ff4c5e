/-
Module: MqttFileTransfer.Spec.Handles
Layer: Spec
Purpose: The file handling a whole session of the client may do, as a monitor over its effects.
  `HandleState` is what the monitor remembers: no stream open, a stream open on a path (with the
  shared lock held or not), a stream just closed, or a closed stream whose transfer ended with
  an empty message that was sent. `handleStep` is the one step the monitor allows for each
  effect, `none` for an effect it forbids, and `handleRun` folds it over a run. A run the monitor
  accepts from `idle` and leaves with no stream open:
  * opens one stream at a time, and uses a stream (lock, unlock, size, read, close) only while
    it is open; the loop's sleeps happen only while it is open;
  * unlocks only a lock it took;
  * deletes a file, at once or through a timer, only right after closing its stream and
    sending an empty message (the fin), with at most the allocation of the path's copy in
    between, and once for each such close;
  * subscribes only while no stream is open;
  * ends with every stream it opened closed.
  `KeepsClosed` says a run is accepted from every state with no stream open and leaves none
  open; it composes by `KeepsClosed.append`. What the states mean is proved once, from the end
  of a run: a file is finished only after its open, a phase that kept it open, its close and a
  sent empty message (`handleRun_eq_finished`), so every deletion in an accepted run is of such a
  file (`deletion_of_handleRun`).
Trusted boundary: none
Main exports: HandleState, HandleState.isOpen, handleStep, handleRun, handleRun_append,
  handleRun_streaming, handleRun_eq_finished, deletion_of_handleRun, KeepsClosed,
  KeepsClosed.append
-/
import MqttFileTransfer.Spec.Stream

namespace MqttFileTransfer

/-- What the handle monitor remembers of the effects so far. -/
inductive HandleState where
  /-- No stream is open and no file may be deleted. -/
  | idle
  /-- A stream on `path` is open, with the shared lock held when `locked`. -/
  | opened (path : Bytes) (locked : Bool)
  /-- The stream on `path` was just closed. -/
  | closed (path : Bytes)
  /-- The stream on `path` was closed and an empty message was sent after it: `path` may be
  deleted, once. -/
  | finished (path : Bytes)
deriving DecidableEq, Repr

namespace HandleState

/-- Whether a stream is open. -/
def isOpen : HandleState → Bool
  | .opened .. => true
  | _ => false

end HandleState

/-- The step the monitor allows for one effect. While a stream is open: a shared lock records
whether it was taken, an unlock needs the lock held and gives it up, the size query, reads,
publishes and sleeps change nothing, the close ends the stream; anything else (a second open, a
deletion, an allocation, a subscription) is forbidden. With no stream open: a successful open of
a path opens its stream, a failed one forgets the last transfer; an empty message sent right
after a close marks the closed file finished, any other publish forgets it; a finished file
allows the allocation of its path's copy and one deletion or scheduled deletion of its own
path; a subscription needs nothing pending. Every other effect is forbidden. -/
def handleStep : HandleState → Effect → Option HandleState
  | .opened path locked, effect =>
      match effect with
      | .flock .sh held => some (.opened path held)
      | .flock .un _ => if locked then some (.opened path false) else none
      | .ftell _ | .fread .. | .publish .. | .msleep _ => some (.opened path locked)
      | .fclose => some (.closed path)
      | _ => none
  | state, effect =>
      match effect with
      | .fopen path opened =>
          match path, opened with
          | some path, true => some (.opened path false)
          | none, true => none
          | _, false => some .idle
      | .publish _ payload sent =>
          match state with
          | .closed path => if payload = [] ∧ sent then some (.finished path) else some .idle
          | _ => some .idle
      | .alloc _ =>
          match state with
          | .finished path => some (.finished path)
          | _ => none
      | .fileDelete deleted | .sleepAio _ deleted =>
          match state with
          | .finished path => if deleted = some path then some .idle else none
          | _ => none
      | .subscribe _ =>
          match state with
          | .idle => some .idle
          | _ => none
      | _ => none

@[simp] theorem handleStep_finished_alloc (path : Bytes) (granted : Bool) :
    handleStep (.finished path) (.alloc granted) = some (.finished path) := rfl

@[simp] theorem handleStep_finished_fileDelete (path : Bytes) :
    handleStep (.finished path) (.fileDelete (some path)) = some .idle := if_pos rfl

@[simp] theorem handleStep_finished_sleepAio (delay : Int) (path : Bytes) :
    handleStep (.finished path) (.sleepAio delay (some path)) = some .idle := if_pos rfl

/-- The monitor over a run: the state after every effect, `none` once one is forbidden. -/
def handleRun : HandleState → List Effect → Option HandleState
  | state, [] => some state
  | state, effect :: rest => (handleStep state effect).bind (handleRun · rest)

@[simp] theorem handleRun_nil (state : HandleState) : handleRun state [] = some state := rfl

@[simp] theorem handleRun_cons (state : HandleState) (effect : Effect) (rest : List Effect) :
    handleRun state (effect :: rest) = (handleStep state effect).bind (handleRun · rest) := rfl

/-- The monitor over two runs, one after the other. -/
theorem handleRun_append (state : HandleState) (first second : List Effect) :
    handleRun state (first ++ second) = (handleRun state first).bind (handleRun · second) := by
  induction first generalizing state with
  | nil => rfl
  | cons effect rest inductionHypothesis =>
      simp only [List.cons_append, handleRun_cons]
      cases handleStep state effect <;> simp [inductionHypothesis]

/-- Reads, publishes and sleeps leave an open stream as it is. -/
theorem handleRun_streaming {path : Bytes} {locked : Bool} {effects : List Effect}
    (streaming : ∀ effect ∈ effects, effect.isStreaming) :
    handleRun (.opened path locked) effects = some (.opened path locked) := by
  induction effects with
  | nil => rfl
  | cons effect rest inductionHypothesis =>
      have step : handleStep (.opened path locked) effect = some (.opened path locked) := by
        have := streaming effect (List.mem_cons_self _ _)
        cases effect <;> first | rfl | cases this
      simp only [handleRun_cons, step, Option.some_bind]
      exact inductionHypothesis fun effect member => streaming effect (List.mem_cons_of_mem _ member)

/-- A publish with no stream open leaves none open. -/
theorem handleStep_publish {state : HandleState} (closed : state.isOpen = false)
    (topic payload : Bytes) (sent : Bool) :
    ∃ next, handleStep state (.publish topic payload sent) = some next ∧ next.isOpen = false := by
  cases state with
  | opened => cases closed
  | closed path =>
      cases payload <;> cases sent <;> exact ⟨_, rfl, rfl⟩
  | idle | finished => exact ⟨_, rfl, rfl⟩

/-! ### What the monitor's states mean

Each state is reached only one way, read off `handleStep` once (`handleStep_eq_opened`,
`handleStep_eq_closed`, `handleStep_eq_finished`); by induction from the end of a run, a file is
finished only after a successful open of it, a phase in which the stream stays open, the close
and a sent empty message, then allocations (`handleRun_eq_finished`). So every deletion a run
accepted from `idle` makes follows that pattern for the file it deletes
(`deletion_of_handleRun`). -/

namespace Effect

/-- The effects that may happen while a stream is open and leave it open: a lock or unlock, the
size query, a read, a publish, a sleep. -/
def keepsOpen : Effect → Bool
  | .flock .. | .ftell _ | .fread .. | .publish .. | .msleep _ => true
  | _ => false

end Effect

section Inversion

variable {state : HandleState} {effect : Effect} {path : Bytes}

theorem handleStep_eq_opened {locked : Bool}
    (step : handleStep state effect = some (.opened path locked)) :
    state.isOpen = false ∧ effect = .fopen (some path) true ∨
      ∃ held, state = .opened path held ∧ effect.keepsOpen := by
  -- every state and effect; the steps that cannot give the state are refuted by computation
  cases state <;> cases effect <;> dsimp only [handleStep] at step <;>
    repeat' (first | (cases step; done) | split at step)
  all_goals cases step; simp_all [HandleState.isOpen, Effect.keepsOpen]

theorem handleStep_eq_closed (step : handleStep state effect = some (.closed path)) :
    (∃ locked, state = .opened path locked) ∧ effect = .fclose := by
  cases state <;> cases effect <;> dsimp only [handleStep] at step <;>
    repeat' (first | (cases step; done) | split at step)
  all_goals cases step; simp_all

theorem handleStep_eq_finished (step : handleStep state effect = some (.finished path)) :
    state = .closed path ∧ (∃ topic, effect = .publish topic [] true) ∨
      state = .finished path ∧ ∃ granted, effect = .alloc granted := by
  cases state <;> cases effect <;> dsimp only [handleStep] at step <;>
    repeat' (first | (cases step; done) | split at step)
  all_goals cases step; simp_all

/-- Only a finished file is deleted, and only its own path. -/
theorem handleStep_of_deletion {deleted : Option Bytes} {next : HandleState}
    (deletes : deletionOf effect = some deleted) (step : handleStep state effect = some next) :
    ∃ path, state = .finished path ∧ deleted = some path := by
  cases effect <;> simp only [deletionOf, Option.some.injEq, reduceCtorEq] at deletes <;>
    subst deletes <;> cases state <;> dsimp only [handleStep] at step <;>
    repeat' (first | (cases step; done) | split at step)
  all_goals simp_all

end Inversion

theorem handleRun_append_singleton (state : HandleState) (effects : List Effect)
    (effect : Effect) :
    handleRun state (effects ++ [effect]) = (handleRun state effects).bind (handleStep · effect) := by
  rw [handleRun_append]
  cases handleRun state effects <;> simp

section Reach

variable {path : Bytes}

/-- A stream is open on `path` only after its successful open and a phase that kept it open. -/
theorem handleRun_eq_opened {effects : List Effect} {locked : Bool}
    (run : handleRun .idle effects = some (.opened path locked)) :
    ∃ opening streaming, effects = opening ++ .fopen (some path) true :: streaming ∧
      ∀ effect ∈ streaming, effect.keepsOpen := by
  induction effects using List.reverseRecOn generalizing locked with
  | nil => cases run
  | append_singleton effects effect inductionHypothesis =>
      rw [handleRun_append_singleton] at run
      obtain ⟨before, reached, step⟩ := Option.bind_eq_some.mp run
      rcases handleStep_eq_opened step with ⟨-, rfl⟩ | ⟨held, rfl, keeps⟩
      · exact ⟨effects, [], by simp, by simp⟩
      · obtain ⟨opening, streaming, rfl, streams⟩ := inductionHypothesis reached
        refine ⟨opening, streaming ++ [effect], by simp, fun other member => ?_⟩
        rcases List.mem_append.mp member with member | member
        · exact streams other member
        · rw [List.mem_singleton.mp member]; exact keeps

/-- A stream on `path` was just closed only after its open and a phase that kept it open. -/
theorem handleRun_eq_closed {effects : List Effect}
    (run : handleRun .idle effects = some (.closed path)) :
    ∃ opening streaming, effects = opening ++ .fopen (some path) true :: streaming ++ [.fclose] ∧
      ∀ effect ∈ streaming, effect.keepsOpen := by
  induction effects using List.reverseRecOn with
  | nil => cases run
  | append_singleton effects effect =>
      rw [handleRun_append_singleton] at run
      obtain ⟨before, reached, step⟩ := Option.bind_eq_some.mp run
      obtain ⟨⟨locked, rfl⟩, rfl⟩ := handleStep_eq_closed step
      obtain ⟨opening, streaming, rfl, streams⟩ := handleRun_eq_opened reached
      exact ⟨opening, streaming, by simp, streams⟩

/-- A file is finished only after its open, a phase that kept its stream open, the close and a
sent empty message, followed by allocations only. -/
theorem handleRun_eq_finished {effects : List Effect}
    (run : handleRun .idle effects = some (.finished path)) :
    ∃ opening streaming topic allocations,
      effects = opening ++ .fopen (some path) true :: streaming ++
        .fclose :: .publish topic [] true :: allocations ∧
      (∀ effect ∈ streaming, effect.keepsOpen) ∧ ∀ effect ∈ allocations, ∃ granted,
        effect = .alloc granted := by
  induction effects using List.reverseRecOn with
  | nil => cases run
  | append_singleton effects effect inductionHypothesis =>
      rw [handleRun_append_singleton] at run
      obtain ⟨before, reached, step⟩ := Option.bind_eq_some.mp run
      rcases handleStep_eq_finished step with ⟨rfl, topic, rfl⟩ | ⟨rfl, granted, rfl⟩
      · obtain ⟨opening, streaming, rfl, streams⟩ := handleRun_eq_closed reached
        exact ⟨opening, streaming, topic, [], by simp, streams, by simp⟩
      · obtain ⟨opening, streaming, topic, allocations, rfl, streams, allocates⟩ :=
          inductionHypothesis reached
        refine ⟨opening, streaming, topic, allocations ++ [.alloc granted], by simp, streams,
          fun other member => ?_⟩
        rcases List.mem_append.mp member with member | member
        · exact allocates other member
        · exact ⟨granted, List.mem_singleton.mp member⟩

end Reach

/-- Every deletion, at once or through a timer, in a run the monitor accepts from `idle` is of a
path whose stream was opened, kept open, closed, and followed by a sent empty message, with only
allocations between that message and the deletion. -/
theorem deletion_of_handleRun {before after : List Effect} {target : Effect}
    {final : HandleState} {deleted : Option Bytes}
    (run : handleRun .idle (before ++ target :: after) = some final)
    (deletes : deletionOf target = some deleted) :
    ∃ path opening streaming topic allocations, deleted = some path ∧
      before = opening ++ .fopen (some path) true :: streaming ++
        .fclose :: .publish topic [] true :: allocations ∧
      (∀ effect ∈ streaming, effect.keepsOpen) ∧ ∀ effect ∈ allocations, ∃ granted,
        effect = .alloc granted := by
  rw [handleRun_append] at run
  obtain ⟨reached, runBefore, rest⟩ := Option.bind_eq_some.mp run
  obtain ⟨next, step, -⟩ := Option.bind_eq_some.mp rest
  obtain ⟨path, rfl, rfl⟩ := handleStep_of_deletion deletes step
  obtain ⟨opening, streaming, topic, allocations, split, streams, allocates⟩ :=
    handleRun_eq_finished runBefore
  exact ⟨path, opening, streaming, topic, allocations, rfl, split, streams, allocates⟩

/-- A run the monitor accepts from every state with no stream open, leaving none open. -/
def KeepsClosed (effects : List Effect) : Prop :=
  ∀ state : HandleState, state.isOpen = false →
    ∃ final, handleRun state effects = some final ∧ final.isOpen = false

namespace KeepsClosed

theorem nil : KeepsClosed [] := fun state closed => ⟨state, rfl, closed⟩

theorem append {first second : List Effect} (keepsFirst : KeepsClosed first)
    (keepsSecond : KeepsClosed second) : KeepsClosed (first ++ second) := by
  intro state closed
  obtain ⟨middle, runFirst, middleClosed⟩ := keepsFirst state closed
  rw [handleRun_append, runFirst]
  exact keepsSecond middle middleClosed

/-- Publishes alone keep every stream closed. -/
theorem of_publishes {effects : List Effect}
    (publishing : ∀ effect ∈ effects, ∃ topic payload sent, effect = .publish topic payload sent) :
    KeepsClosed effects := by
  induction effects with
  | nil => exact nil
  | cons effect rest inductionHypothesis =>
      obtain ⟨topic, payload, sent, rfl⟩ := publishing effect (List.mem_cons_self _ _)
      have first : KeepsClosed [.publish topic payload sent] := fun state closed => by
        simpa using handleStep_publish closed topic payload sent
      exact first.append
        (inductionHypothesis fun effect member => publishing effect (List.mem_cons_of_mem _ member))

end KeepsClosed

end MqttFileTransfer
