/-
Module: MqttFileTransfer.Spec.Utf8
Layer: Spec
Purpose: Well-formed UTF-8 (RFC 3629 §4), which RFC 8259 §8.1 asks of every JSON text exchanged
  between systems. The syntax is run as an octet machine: a `State` is what the octets read so
  far still owe, `step` reads one octet, `run` reads a text, and a text is well formed when the
  machine, started between characters, reads all of it and ends between characters
  (`WellFormed`). Overlong forms (C0, C1, E0 80-9F, F0 80-8F), surrogates (ED A0-BF) and code
  points above U+10FFFF (F4 90-BF, F5-FF) are refused where they start. The lemmas carry
  well-formedness through concatenation (`run_append`, `WellFormed.append`) and give it for
  text of ASCII bytes (`wellFormed_of_ascii`): the client's payloads are ASCII literals around
  spliced strings, so they are well formed exactly as their parts are.
Trusted boundary: human-reviewed spec, transcribed from the ABNF of RFC 3629 §4.
Main exports: Utf8.State, Utf8.first, Utf8.step, Utf8.run, Utf8.WellFormed, Utf8.run_append,
  Utf8.WellFormed.append, Utf8.wellFormed_of_ascii
-/
import MqttFileTransfer.Model.CTypes

namespace MqttFileTransfer.Utf8

/-- What the octets read so far still owe. -/
inductive State where
  /-- Between characters. -/
  | start
  /-- One `UTF8-tail` (80-BF) owed. -/
  | tail1
  /-- Two tails owed. -/
  | tail2
  /-- Three tails owed. -/
  | tail3
  /-- After E0: an octet of A0-BF, then one tail. -/
  | afterE0
  /-- After ED: an octet of 80-9F, then one tail. -/
  | afterED
  /-- After F0: an octet of 90-BF, then two tails. -/
  | afterF0
  /-- After F4: an octet of 80-8F, then two tails. -/
  | afterF4
  deriving DecidableEq, Repr

/-- The state after the first octet of a character; none for an octet no character starts
with (80-C1, F5-FF). -/
def first (byte : UInt8) : Option State :=
  if byte < 0x80 then some .start
  else if 0xC2 ≤ byte ∧ byte ≤ 0xDF then some .tail1
  else if byte = 0xE0 then some .afterE0
  else if byte = 0xED then some .afterED
  else if 0xE1 ≤ byte ∧ byte ≤ 0xEF then some .tail2
  else if byte = 0xF0 then some .afterF0
  else if byte = 0xF4 then some .afterF4
  else if 0xF1 ≤ byte ∧ byte ≤ 0xF3 then some .tail3
  else none

/-- `next` when `low ≤ byte ≤ high`, and a refusal otherwise. -/
def within (low high byte : UInt8) (next : State) : Option State :=
  if low ≤ byte ∧ byte ≤ high then some next else none

/-- One octet: the state after it, or none where UTF-8 cannot hold it. -/
def step : State → UInt8 → Option State
  | .start, byte => first byte
  | .tail1, byte => within 0x80 0xBF byte .start
  | .tail2, byte => within 0x80 0xBF byte .tail1
  | .tail3, byte => within 0x80 0xBF byte .tail2
  | .afterE0, byte => within 0xA0 0xBF byte .tail1
  | .afterED, byte => within 0x80 0x9F byte .tail1
  | .afterF0, byte => within 0x90 0xBF byte .tail2
  | .afterF4, byte => within 0x80 0x8F byte .tail2

/-- The state after every octet of a text, or none when one is refused. -/
def run : State → Bytes → Option State
  | state, [] => some state
  | state, byte :: rest =>
      match step state byte with
      | some next => run next rest
      | none => none

/-- A text of whole UTF-8 characters: read from between characters, it ends between them. -/
def WellFormed (text : Bytes) : Prop := run .start text = some .start

instance : DecidablePred WellFormed := fun text =>
  inferInstanceAs (Decidable (run .start text = some .start))

/-- The overlong two-octet form of NUL is refused. -/
example : ¬ WellFormed [0xC0, 0x80] := by decide

/-- Reading two parts is reading the first, then the second from where the first ends. -/
theorem run_append (state : State) (text rest : Bytes) :
    run state (text ++ rest) = (run state text).bind fun next => run next rest := by
  induction text generalizing state with
  | nil => rfl
  | cons byte text inductionHypothesis =>
      simp only [List.cons_append, run]
      cases step state byte <;> simp [inductionHypothesis]

/-- Two well-formed texts make a well-formed text. -/
theorem WellFormed.append {text rest : Bytes} (wellFormed : WellFormed text)
    (wellFormedRest : WellFormed rest) : WellFormed (text ++ rest) := by
  rw [WellFormed, run_append, wellFormed]
  exact wellFormedRest

/-- A text of ASCII bytes is well formed: each byte is a character. -/
theorem wellFormed_of_ascii {text : Bytes} (small : ∀ byte ∈ text, byte < 0x80) :
    WellFormed text := by
  induction text with
  | nil => rfl
  | cons byte text inductionHypothesis =>
      obtain ⟨isAscii, smallRest⟩ := List.forall_mem_cons.mp small
      simp only [WellFormed, run, step, first, if_pos isAscii]
      exact inductionHypothesis smallRest

end MqttFileTransfer.Utf8
