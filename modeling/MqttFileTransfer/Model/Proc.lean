/-
Module: MqttFileTransfer.Model.Proc
Layer: Model
Purpose: The outside world of the control thread. Every call the client makes to the C
  library, the file system or the MQTT socket is an `Effect`, recorded with the answer it
  got. The answers come from an `Env`: functions of the effects so far and of the call's
  arguments, so a theorem over every `Env` covers every behaviour of the outside world (a file
  that shrinks or grows between `ftell` and `fread`, a publish that fails at any point).
  `Proc` is the computation type of the client: given the effects so far it returns its value
  and the effects it adds, and `bind` appends them, so the effects of a call sequence are the
  concatenation of the calls' effects by definition.
Trusted boundary: `fopen` on a NULL path fails (the `open` system call answers EFAULT);
  `ftell` answers within `long` range; `fread` returns at most the bytes asked for. The
  `fseek`/`ftell`/`fseek` triple of send_file is one `ftell` effect.
Main exports: LockOp, Effect, Env, Proc, Proc.bind_apply, Proc.bind_ne_nil, fopen, flock, ftell,
  fread, fclose, nngSendmsg, nngMsleep, nngFileDelete, nngAlloc, nngSleepAio, nngMqttSubscribe
-/
import MqttFileTransfer.Model.CTypes

namespace MqttFileTransfer

/-- The two `flock` operations send_file performs. -/
inductive LockOp where
  | sh
  | un
deriving DecidableEq, Repr

/-- One call of the client to the outside world, with the answer it got. -/
inductive Effect where
  | fopen (path : Option Bytes) (opened : Bool)
  | flock (op : LockOp) (succeeded : Bool)
  | ftell (size : Int)
  | fread (count : Nat) (data : Bytes)
  | publish (topic payload : Bytes) (sent : Bool)
  | msleep (milliseconds : Int)
  | fclose
  | fileDelete (path : Option Bytes)
  | alloc (granted : Bool)
  | sleepAio (delay : Int) (path : Option Bytes)
  | subscribe (topic : Bytes)
deriving DecidableEq, Repr

/-- The outside world's answers to the calls whose results the client reads, as functions of
the effects before the call and of its arguments. -/
structure Env where
  fopen : List Effect → Bytes → Bool
  flock : List Effect → LockOp → Bool
  ftell : List Effect → Int
  ftell_long : ∀ past, -2 ^ 63 ≤ ftell past ∧ ftell past < 2 ^ 63
  fread : List Effect → Nat → Bytes
  fread_le : ∀ past count, (fread past count).length ≤ count
  sendmsg : List Effect → Bytes → Bytes → Bool
  alloc : List Effect → Bool

/-- A computation of the control thread: from the effects so far, its value and the effects it
performs. -/
def Proc (α : Type) : Type := Env → List Effect → α × List Effect

namespace Proc

/-- A value, with no effect. -/
protected def pure {α : Type} (value : α) : Proc α := fun _ _ => (value, [])

/-- Run `first`, then `next` on its value with the history extended by its effects. -/
protected def bind {α β : Type} (first : Proc α) (next : α → Proc β) : Proc β :=
  fun env past =>
    match first env past with
    | (value, out) =>
        match next value env (past ++ out) with
        | (result, more) => (result, out ++ more)

instance : Monad Proc where
  pure := Proc.pure
  bind := Proc.bind

@[simp] theorem pure_apply {α : Type} (value : α) (env : Env) (past : List Effect) :
    (pure value : Proc α) env past = (value, []) := rfl

@[simp] theorem pure_def {α : Type} (value : α) (env : Env) (past : List Effect) :
    Proc.pure value env past = (value, []) := rfl

@[simp] theorem bind_apply {α β : Type} (first : Proc α) (next : α → Proc β) (env : Env)
    (past : List Effect) :
    (first >>= next) env past =
      match first env past with
      | (value, out) =>
          match next value env (past ++ out) with
          | (result, more) => (result, out ++ more) :=
  rfl

@[simp] theorem bind_def {α β : Type} (first : Proc α) (next : α → Proc β) (env : Env)
    (past : List Effect) :
    Proc.bind first next env past =
      match first env past with
      | (value, out) =>
          match next value env (past ++ out) with
          | (result, more) => (result, out ++ more) :=
  rfl

/-- A computation whose first step has an effect has an effect. -/
theorem bind_ne_nil {α β : Type} {first : Proc α} {next : α → Proc β} {env : Env}
    {past : List Effect} (acted : (first env past).2 ≠ []) :
    ((first >>= next) env past).2 ≠ [] := by
  rw [bind_apply]
  exact List.append_ne_nil_of_left_ne_nil acted _

@[simp] theorem ite_apply {α : Type} (condition : Prop) [Decidable condition]
    (yes no : Proc α) (env : Env) (past : List Effect) :
    (if condition then yes else no) env past =
      if condition then yes env past else no env past := by
  split <;> rfl

@[simp] theorem dite_apply {α : Type} (condition : Prop) [Decidable condition]
    (yes : condition → Proc α) (no : ¬condition → Proc α) (env : Env) (past : List Effect) :
    (if holds : condition then yes holds else no holds) env past =
      if holds : condition then yes holds env past else no holds env past := by
  split <;> rfl

end Proc

/-- An effect without an answer. -/
def emit (effect : Effect) : Proc Unit := fun _ _ => ((), [effect])

/-- `fopen(path, "rb") != NULL`. -/
def fopen : Option Bytes → Proc Bool
  | some path => fun env past => (env.fopen past path, [.fopen (some path) (env.fopen past path)])
  | none => fun _ _ => (false, [.fopen none false])

/-- `flock(fileno(fp), op) == 0`. -/
def flock (op : LockOp) : Proc Bool :=
  fun env past => (env.flock past op, [.flock op (env.flock past op)])

/-- The `long` that `fseek(fp, 0, SEEK_END); ftell(fp); fseek(fp, 0, SEEK_SET)` yields. -/
def ftell : Proc Int := fun env past => (env.ftell past, [.ftell (env.ftell past)])

/-- `fread(payload, 1, count, fp)`: the bytes read, at most `count` of them. -/
def fread (count : Nat) : Proc { data : Bytes // data.length ≤ count } :=
  fun env past =>
    (⟨env.fread past count, env.fread_le past count⟩, [.fread count (env.fread past count)])

/-- `fclose(fp)`. -/
def fclose : Proc Unit := emit .fclose

/-- `nng_sendmsg` of a PUBLISH message: whether it returned 0. -/
def nngSendmsg (topic payload : Bytes) : Proc Bool :=
  fun env past =>
    (env.sendmsg past topic payload, [.publish topic payload (env.sendmsg past topic payload)])

/-- `nng_msleep(milliseconds)`. -/
def nngMsleep (milliseconds : Int) : Proc Unit := emit (.msleep milliseconds)

/-- `nng_file_delete(path)`; its result is only logged. -/
def nngFileDelete (path : Option Bytes) : Proc Unit := emit (.fileDelete path)

/-- `nng_alloc(strlen(path) + 1) != NULL`. -/
def nngAlloc : Proc Bool := fun env past => (env.alloc past, [.alloc (env.alloc past)])

/-- `nng_aio_alloc(&a, delete_delay_cb, filename); nng_sleep_aio(delay, a)`: schedule the
deletion of `path` after `delay` milliseconds. The source ignores what `nng_aio_alloc` returns;
this effect is the run in which it succeeded. -/
def nngSleepAio (delay : Int) (path : Option Bytes) : Proc Unit := emit (.sleepAio delay path)

/-- `nng_mqtt_subscribe` to one topic. -/
def nngMqttSubscribe (topic : Bytes) : Proc Unit := emit (.subscribe topic)

@[simp] theorem emit_apply (effect : Effect) (env : Env) (past : List Effect) :
    emit effect env past = ((), [effect]) := rfl

@[simp] theorem fopen_some_apply (path : Bytes) (env : Env) (past : List Effect) :
    fopen (some path) env past =
      (env.fopen past path, [.fopen (some path) (env.fopen past path)]) :=
  rfl

@[simp] theorem fopen_none_apply (env : Env) (past : List Effect) :
    fopen none env past = (false, [.fopen none false]) := rfl

@[simp] theorem flock_apply (op : LockOp) (env : Env) (past : List Effect) :
    flock op env past = (env.flock past op, [.flock op (env.flock past op)]) := rfl

@[simp] theorem ftell_apply (env : Env) (past : List Effect) :
    ftell env past = (env.ftell past, [.ftell (env.ftell past)]) := rfl

@[simp] theorem fread_apply (count : Nat) (env : Env) (past : List Effect) :
    fread count env past =
      (⟨env.fread past count, env.fread_le past count⟩,
        [.fread count (env.fread past count)]) :=
  rfl

@[simp] theorem nngSendmsg_apply (topic payload : Bytes) (env : Env) (past : List Effect) :
    nngSendmsg topic payload env past =
      (env.sendmsg past topic payload, [.publish topic payload (env.sendmsg past topic payload)]) :=
  rfl

@[simp] theorem nngAlloc_apply (env : Env) (past : List Effect) :
    nngAlloc env past = (env.alloc past, [.alloc (env.alloc past)]) := rfl

end MqttFileTransfer
