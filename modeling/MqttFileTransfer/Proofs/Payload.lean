/-
Module: MqttFileTransfer.Proofs.Payload
Layer: Proofs
Purpose: Whether the JSON payloads the client formats say what they are meant to say. Both
  payloads splice a C string in with `%s` and escape nothing. For a request id or a file name
  that needs no escape the payloads are the JSON objects they are meant to be, every member read
  back (`decodeJson_resultPayload`, `decodeJson_initialPayload`); for one whose first byte that
  needs an escape is a `"` or a control byte, a JSON reader finds another string under its key,
  or no JSON text at all (`memberOf_payloads_escapeNeeded`). Around the spliced strings both
  payloads are ASCII, so they are well-formed UTF-8 exactly when the strings are
  (`resultPayload_wellFormed`, `initialPayload_wellFormed`), and for a request id or file name
  that is well-formed UTF-8 and needs no escape they are JSON texts as RFC 8259 §8.1 has systems
  exchange them (`readJson_resultPayload`, `readJson_initialPayload`).
Trusted boundary: JSON is read as `Spec.JsonText` decodes it, UTF-8 as `Spec.Utf8` reads it.
Main exports: optionalMember, decodeJson_resultPayload, decodeJson_initialPayload,
  resultPayload_wellFormed, initialPayload_wellFormed, readJson_resultPayload,
  readJson_initialPayload, decodeString_ne_needsEscape, memberOf_payloads_escapeNeeded
-/
import MqttFileTransfer.Spec.JsonText
import MqttFileTransfer.Model.Publish

namespace MqttFileTransfer

/-- The member an optional line of the initial payload is meant to carry: the value as `%ld`
reads it, or nothing when the line is left out. -/
def optionalMember (key : Bytes) (value : Nat) : List (Bytes × Json) :=
  if value ≠ 2 ^ 64 - 1 then [(key, .number (asLong value))] else []

/-! ### Plain strings round trip -/

/-- publish_send_result's payload, for a request id that needs no escape, is the JSON object
with that request id, the flag and an empty message. -/
theorem decodeJson_resultPayload {requestid : Option Bytes} (plain : Unescaped (cstr requestid))
    (success : Bool) :
    decodeJson (resultPayload requestid success) =
      some (.object [(ascii "request-id", .string (cstr requestid)),
        (ascii "success", .bool success), (ascii "message", .string [])]) := by
  refine decodeJson_of_decodeValue 5 ?_ (by rw [length_resultPayload]; split <;> omega)
    (rfl : skipWhitespace [] = [])
  intro fuel
  cases success <;> simp only [resultPayload, List.append_assoc, Bool.false_eq_true, ↓reduceIte] <;>
  exact decodeValue_object rfl rfl
    (decodeMembers_cons rfl rfl rfl (decodeValue_string rfl (decodeString_plain plain _)) rfl
      (decodeMembers_cons rfl rfl rfl (decodeValue_bool _ rfl) rfl
        (decodeMembers_last rfl rfl rfl (decodeValue_string rfl rfl) rfl)))

/-- publish_initial's payload, for a file name that needs no escape, is the JSON object with that
name, the size, the members of the optional lines it prints, and an empty `user_data` object. -/
theorem decodeJson_initialPayload {fileName : Option Bytes} (plain : Unescaped (cstr fileName))
    (fileSize : Int) (expireTime segmentsTtl : Nat) :
    decodeJson (initialPayload fileName fileSize expireTime segmentsTtl) =
      some (.object ([(ascii "name", .string (cstr fileName)), (ascii "size", .number fileSize)] ++
        optionalMember (ascii "expire_at") expireTime ++
        optionalMember (ascii "segments_ttl") segmentsTtl ++
        [(ascii "user_data", .object [])])) := by
  have userData : ∀ fuel, decodeMembers (fuel + 2) (ascii "  \"user_data\": \x7b\x7d\n\x7d") =
      some ([(ascii "user_data", .object [])], []) :=
    fun _ => decodeMembers_last rfl rfl rfl (decodeValue_emptyObject rfl rfl) rfl
  have segments : ∀ fuel, decodeMembers (fuel + 3)
      (segmentsTtlField segmentsTtl ++ ascii "  \"user_data\": \x7b\x7d\n\x7d") =
        some (optionalMember (ascii "segments_ttl") segmentsTtl ++
          [(ascii "user_data", .object [])], []) := by
    intro fuel
    rw [segmentsTtlField, optionalMember]
    split_ifs
    · simp only [List.append_assoc, List.singleton_append]
      exact decodeMembers_cons rfl rfl rfl
        (decodeValue_formatLong _ (skipWhitespace_formatLong (by decide) _ _)) rfl (userData fuel)
    · exact userData (fuel + 1)
  have expire : ∀ fuel, decodeMembers (fuel + 4)
      (expireAtField expireTime ++
        (segmentsTtlField segmentsTtl ++ ascii "  \"user_data\": \x7b\x7d\n\x7d")) =
        some (optionalMember (ascii "expire_at") expireTime ++
          (optionalMember (ascii "segments_ttl") segmentsTtl ++
            [(ascii "user_data", .object [])]), []) := by
    intro fuel
    rw [expireAtField, optionalMember]
    split_ifs
    · simp only [List.append_assoc, List.singleton_append]
      exact decodeMembers_cons rfl rfl rfl
        (decodeValue_formatLong _ (skipWhitespace_formatLong (by decide) _ _)) rfl (segments fuel)
    · exact segments (fuel + 1)
  refine decodeJson_of_decodeValue 7 ?_ ?_ (rfl : skipWhitespace [] = [])
  · intro fuel
    -- the comma after the size as a byte, so that the members after it are read as printed
    simp only [initialPayload, List.append_assoc, show ascii "," = [44] from rfl,
      List.singleton_append]
    exact decodeValue_object rfl rfl
      (decodeMembers_cons rfl rfl rfl (decodeValue_string rfl (decodeString_plain plain _)) rfl
        (decodeMembers_cons rfl rfl rfl
          (decodeValue_formatLong _ (skipWhitespace_formatLong (by decide) _ _)) rfl (expire fuel)))
  · simp only [initialPayload, List.length_append,
      show (ascii "\x7b\"name\": \"").length = 10 from rfl]
    omega

/-! ### Well-formed UTF-8 payloads read as JSON texts -/

/-- `%ld` text is ASCII. -/
theorem wellFormed_formatLong (value : Int) : Utf8.WellFormed (formatLong value) := by
  have digits : ∀ magnitude, ∀ byte ∈ decimal magnitude, byte < 0x80 :=
    fun magnitude byte member => by
      have digit := isDigit_of_mem_decimal magnitude byte member
      simp only [isDigit, Bool.and_eq_true, decide_eq_true_eq, UInt8.le_def, UInt8.lt_def,
        BitVec.le_def, BitVec.lt_def] at digit ⊢
      exact Nat.lt_of_le_of_lt digit.2 (by decide)
  unfold formatLong
  split_ifs
  · exact (Utf8.wellFormed_of_ascii (by decide)).append (Utf8.wellFormed_of_ascii (digits _))
  · exact Utf8.wellFormed_of_ascii (digits _)

/-- publish_send_result's payload is well-formed UTF-8 when the request id is: the rest of it is
ASCII literals. -/
theorem resultPayload_wellFormed {requestid : Option Bytes}
    (wellFormed : Utf8.WellFormed (cstr requestid)) (success : Bool) :
    Utf8.WellFormed (resultPayload requestid success) := by
  unfold resultPayload
  exact ((((((by decide : Utf8.WellFormed (ascii "\x7b  \"request-id\": \"")).append
    wellFormed).append (by decide)).append (by cases success <;> decide)).append
    (by decide)).append (by decide)).append (by decide)

/-- publish_initial's payload is well-formed UTF-8 when the file name is: the rest of it is ASCII
literals and `%ld` text. -/
theorem initialPayload_wellFormed {fileName : Option Bytes}
    (wellFormed : Utf8.WellFormed (cstr fileName)) (fileSize : Int) (expireTime segmentsTtl : Nat) :
    Utf8.WellFormed (initialPayload fileName fileSize expireTime segmentsTtl) := by
  have line : ∀ (present : Prop) [Decidable present] {key : Bytes} (value : Int),
      Utf8.WellFormed key →
        Utf8.WellFormed (if present then key ++ formatLong value ++ ascii ",\n" else []) := by
    intro present _ key value wellFormedKey
    split_ifs
    · exact (wellFormedKey.append (wellFormed_formatLong value)).append (by decide)
    · rfl
  unfold initialPayload expireAtField segmentsTtlField
  exact ((((((((by decide : Utf8.WellFormed (ascii "\x7b\"name\": \"")).append wellFormed).append
    (by decide)).append (wellFormed_formatLong fileSize)).append (by decide)).append
    (line _ _ (by decide))).append (line _ _ (by decide))).append (by decide))

/-- publish_send_result's payload, for a request id that is well-formed UTF-8 and needs no
escape, is the JSON text of the object with that request id, the flag and an empty message. -/
theorem readJson_resultPayload {requestid : Option Bytes} (plain : Unescaped (cstr requestid))
    (wellFormed : Utf8.WellFormed (cstr requestid)) (success : Bool) :
    readJson (resultPayload requestid success) =
      some (.object [(ascii "request-id", .string (cstr requestid)),
        (ascii "success", .bool success), (ascii "message", .string [])]) :=
  readJson_of_decodeJson (resultPayload_wellFormed wellFormed success)
    (decodeJson_resultPayload plain success)

/-- A request id that is ASCII and needs no escape: publish_send_result's payload reads back. -/
theorem resultPayload_plainId :
    Unescaped (cstr (some (ascii "r"))) ∧ Utf8.WellFormed (cstr (some (ascii "r"))) ∧
      readJson (resultPayload (some (ascii "r")) true) =
        some (.object [(ascii "request-id", .string (ascii "r")), (ascii "success", .bool true),
          (ascii "message", .string [])]) :=
  ⟨by decide, by decide, readJson_resultPayload (by decide) (by decide) true⟩

/-- publish_initial's payload, for a file name that is well-formed UTF-8 and needs no escape, is
the JSON text of the object with that name, the size, the members of the optional lines it
prints, and an empty `user_data` object. -/
theorem readJson_initialPayload {fileName : Option Bytes} (plain : Unescaped (cstr fileName))
    (wellFormed : Utf8.WellFormed (cstr fileName)) (fileSize : Int) (expireTime segmentsTtl : Nat) :
    readJson (initialPayload fileName fileSize expireTime segmentsTtl) =
      some (.object ([(ascii "name", .string (cstr fileName)), (ascii "size", .number fileSize)] ++
        optionalMember (ascii "expire_at") expireTime ++
        optionalMember (ascii "segments_ttl") segmentsTtl ++
        [(ascii "user_data", .object [])])) :=
  readJson_of_decodeJson (initialPayload_wellFormed wellFormed fileSize expireTime segmentsTtl)
    (decodeJson_initialPayload plain fileSize expireTime segmentsTtl)

/-- A file name that is UTF-8 with a two-octet character (é) and needs no escape, with both
optional lines printed: publish_initial's payload reads back. -/
theorem initialPayload_plainName :
    Unescaped (cstr (some [0x63, 0x61, 0x66, 0xC3, 0xA9])) ∧
      Utf8.WellFormed (cstr (some [0x63, 0x61, 0x66, 0xC3, 0xA9])) ∧
      readJson (initialPayload (some [0x63, 0x61, 0x66, 0xC3, 0xA9]) 11 1700000000 3600) =
        some (.object [(ascii "name", .string [0x63, 0x61, 0x66, 0xC3, 0xA9]),
          (ascii "size", .number 11), (ascii "expire_at", .number 1700000000),
          (ascii "segments_ttl", .number 3600), (ascii "user_data", .object [])]) :=
  ⟨by decide, by decide, readJson_initialPayload (by decide) (by decide) 11 1700000000 3600⟩

/-! ### Strings that need an escape -/

/-- Bytes that need no escape, then a `"` or a control byte: the decoder never reads them back as
the string they are, whatever follows. -/
theorem decodeString_ne_needsEscape {leading remainder rest bytes after : Bytes} {special : UInt8}
    (plain : Unescaped leading) (needsEscape : special = 34 ∨ special < 32)
    (read : decodeString (leading ++ special :: remainder ++ rest) = some (bytes, after)) :
    bytes ≠ leading ++ special :: remainder := by
  rw [List.append_assoc, List.cons_append] at read
  rcases needsEscape with rfl | isControl
  · rw [decodeString_plain plain] at read
    cases read
    exact fun same => by simpa using congrArg List.length same
  · rw [decodeString_control plain isControl] at read
    cases read

/-- Neither payload carries a string whose first byte that needs an escape is a `"` or a control
byte: a JSON reader finds another string under `request-id` or `name`, or no JSON text. -/
theorem memberOf_payloads_escapeNeeded {leading remainder : Bytes} {special : UInt8}
    (plain : Unescaped leading) (needsEscape : special = 34 ∨ special < 32) :
    (∀ success, memberOf (resultPayload (some (leading ++ special :: remainder)) success)
        (ascii "request-id") ≠ some (.string (leading ++ special :: remainder))) ∧
      ∀ fileSize expireTime segmentsTtl,
        memberOf (initialPayload (some (leading ++ special :: remainder)) fileSize expireTime
            segmentsTtl) (ascii "name") ≠
          some (.string (leading ++ special :: remainder)) := by
  refine ⟨fun success member => ?request, fun fileSize expireTime segmentsTtl member => ?name⟩
  -- what follows the string plays no part: the reader stops in it or at its first quote
  case' request =>
    obtain ⟨tail, opens⟩ : ∃ tail, resultPayload (some (leading ++ special :: remainder)) success =
        ascii "\x7b  \"request-id\": \"" ++ (leading ++ special :: remainder ++ tail) :=
      ⟨_, by simp only [resultPayload, cstr, List.append_assoc]; rfl⟩
    rw [opens] at member
  case' name =>
    obtain ⟨tail, opens⟩ : ∃ tail, initialPayload (some (leading ++ special :: remainder)) fileSize
        expireTime segmentsTtl =
          ascii "\x7b\"name\": \"" ++ (leading ++ special :: remainder ++ tail) :=
      ⟨_, by simp only [initialPayload, cstr, List.append_assoc]; rfl⟩
    rw [opens] at member
  all_goals
    obtain ⟨bytes, after, read, same⟩ := memberOf_firstString member rfl rfl rfl rfl rfl
    cases same
    exact decodeString_ne_needsEscape plain needsEscape read rfl

/-- The request id `a"b`, which the request carries as `a\"b`: the result payload does not carry
it. -/
theorem resultPayload_quotedId :
    Unescaped (ascii "a") ∧ ((34 : UInt8) = 34 ∨ (34 : UInt8) < 32) ∧
      memberOf (resultPayload (some (ascii "a" ++ 34 :: ascii "b")) true) (ascii "request-id") ≠
        some (.string (ascii "a" ++ 34 :: ascii "b")) :=
  ⟨by decide, .inl rfl, (memberOf_payloads_escapeNeeded (by decide) (.inl rfl)).1 true⟩

end MqttFileTransfer
