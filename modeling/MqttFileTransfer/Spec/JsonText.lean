/-
Module: MqttFileTransfer.Spec.JsonText
Layer: Spec
Purpose: What it means for bytes to be a JSON text (RFC 8259), as the consumers of the client's
  payloads read them. `decodeJson` accepts one value between optional whitespace and nothing
  else; strings must escape `"`, `\` and the control bytes below 0x20, and their escapes
  (`\"`, `\\`, `\/`, `\b`, `\f`, `\n`, `\r`, `\t`, `\uXXXX` with surrogate pairs joined) decode
  to UTF-8 bytes; a number has an optional minus, an integer part without leading zeros, an
  optional fraction and exponent, and is kept, as the model's `Json` keeps numbers, as its
  integer part. Arrays and objects nest; the three mutually recursive readers share one fuel
  argument, so the decoder is structurally recursive and runs under `rfl`, and `decodeJson`
  gives them the length of the text plus one, as every level of nesting reads at least a byte.
  `memberOf` is the value of an object's first member of a given name. `readJson` is a JSON text
  as RFC 8259 §8.1 asks systems to exchange it: well-formed UTF-8 (`Spec.Utf8`) that `decodeJson`
  reads.
  The lemmas here read the pieces the client prints: a string of bytes that need no escape
  (`decodeString_plain`), one with a control byte (`decodeString_control`), `%ld` text
  (`decodeValue_formatLong`), a flag, an object member by member (`decodeMembers_cons`,
  `decodeMembers_last`), and what `memberOf` finds for an object's first key
  (`memberOf_firstString`). Each reading lemma is stated for any fuel above what the value needs,
  so that chains of them compose; `decodeJson_of_decodeValue` closes such a chain.
Trusted boundary: `decodeJson` checks the grammar of RFC 8259 and leaves the encoding to
  `readJson`; an unpaired surrogate escape decodes to the three bytes of its code unit.
Main exports: isWhitespace, skipWhitespace, decodeStringFrom, decodeString, decodeNumber,
  decodeValue, decodeElements, decodeMembers, decodeJson, readJson, memberOf, Unescaped,
  readJson_of_decodeJson, decodeString_plain,
  decodeString_control, decodeValue_string, decodeValue_object, decodeValue_bool,
  decodeValue_formatLong, decodeMembers_cons, decodeMembers_last, decodeJson_of_decodeValue,
  memberOf_firstString
-/
import MqttFileTransfer.Model.CJson
import MqttFileTransfer.Spec.Digits
import MqttFileTransfer.Spec.Utf8

namespace MqttFileTransfer

/-! ### Lexical pieces -/

/-- RFC 8259 whitespace: space, horizontal tab, line feed, carriage return. -/
def isWhitespace (byte : UInt8) : Bool := byte == 32 || byte == 9 || byte == 10 || byte == 13

/-- A text after its leading whitespace. -/
def skipWhitespace (text : Bytes) : Bytes := text.dropWhile isWhitespace

/-- The value of a hexadecimal digit. -/
def hexValue (byte : UInt8) : Option Nat :=
  if 48 ≤ byte ∧ byte ≤ 57 then some (byte.toNat - 48)
  else if 65 ≤ byte ∧ byte ≤ 70 then some (byte.toNat - 55)
  else if 97 ≤ byte ∧ byte ≤ 102 then some (byte.toNat - 87)
  else none

/-- The UTF-16 code unit of the four hexadecimal digits of a `\u` escape. -/
def hexUnit (a b c d : UInt8) : Option Nat :=
  match hexValue a, hexValue b, hexValue c, hexValue d with
  | some a, some b, some c, some d => some (((a * 16 + b) * 16 + c) * 16 + d)
  | _, _, _, _ => none

/-- The UTF-8 bytes of a code point. -/
def utf8 (point : Nat) : Bytes :=
  if point < 0x80 then [point.toUInt8]
  else if point < 0x800 then [(0xC0 + point / 0x40).toUInt8, (0x80 + point % 0x40).toUInt8]
  else if point < 0x10000 then
    [(0xE0 + point / 0x1000).toUInt8, (0x80 + point / 0x40 % 0x40).toUInt8,
      (0x80 + point % 0x40).toUInt8]
  else
    [(0xF0 + point / 0x40000).toUInt8, (0x80 + point / 0x1000 % 0x40).toUInt8,
      (0x80 + point / 0x40 % 0x40).toUInt8, (0x80 + point % 0x40).toUInt8]

/-- The byte a one-letter escape stands for, from the letter after the backslash. -/
def escapeByte : UInt8 → Option UInt8
  | 34 => some 34
  | 92 => some 92
  | 47 => some 47
  | 98 => some 8
  | 102 => some 12
  | 110 => some 10
  | 114 => some 13
  | 116 => some 9
  | _ => none

/-- Put `bytes` in front of the string a reader found. -/
def prependBytes (bytes : Bytes) : Option (Bytes × Bytes) → Option (Bytes × Bytes)
  | some (string, rest) => some (bytes ++ string, rest)
  | none => none

/-- A high surrogate read and not yet written out: its UTF-8 bytes. -/
def flushSurrogate : Option Nat → Bytes
  | some high => utf8 high
  | none => []

/-- The body of a JSON string after its opening quote, with `pending` the high surrogate of a
`\u` escape just read: the body's bytes and what follows the closing quote; none for an
unescaped control byte, a bad escape or a missing closing quote. A high surrogate followed by
the `\u` escape of a low one is one code point. -/
def decodeStringFrom (pending : Option Nat) : Bytes → Option (Bytes × Bytes)
  | [] => none
  | 34 :: rest => some (flushSurrogate pending, rest)
  | 92 :: 117 :: a :: b :: c :: d :: rest =>
      match hexUnit a b c d, pending with
      | none, _ => none
      | some low, some high =>
          if 0xDC00 ≤ low ∧ low < 0xE000 then
            prependBytes (utf8 (0x10000 + (high - 0xD800) * 0x400 + (low - 0xDC00)))
              (decodeStringFrom none rest)
          else if 0xD800 ≤ low ∧ low < 0xDC00 then
            prependBytes (utf8 high) (decodeStringFrom (some low) rest)
          else prependBytes (utf8 high ++ utf8 low) (decodeStringFrom none rest)
      | some unit, none =>
          if 0xD800 ≤ unit ∧ unit < 0xDC00 then decodeStringFrom (some unit) rest
          else prependBytes (utf8 unit) (decodeStringFrom none rest)
  | 92 :: escape :: rest =>
      match escapeByte escape with
      | some byte => prependBytes (flushSurrogate pending ++ [byte]) (decodeStringFrom none rest)
      | none => none
  | byte :: rest =>
      if byte < 32 then none
      else prependBytes (flushSurrogate pending ++ [byte]) (decodeStringFrom none rest)

/-- The body of a JSON string after its opening quote: its bytes and what follows the closing
quote. -/
def decodeString (text : Bytes) : Option (Bytes × Bytes) := decodeStringFrom none text

/-- An optional fraction `.` and digits at the head of a text: the digits and what follows;
none for a dot without digits. -/
def decodeFraction : Bytes → Option (Bytes × Bytes)
  | 46 :: rest =>
      if rest.takeWhile isDigit = [] then none
      else some (rest.takeWhile isDigit, rest.dropWhile isDigit)
  | text => some ([], text)

/-- An optional exponent `e` or `E`, a sign and digits at the head of a text: its value (0 when
absent) and what follows. -/
def decodeExponent : Bytes → Option (Int × Bytes)
  | 101 :: rest | 69 :: rest =>
      match rest with
      | 43 :: digits => (readUnsigned digits).map fun (value, after) => ((value : Int), after)
      | signed => readSigned signed
  | text => some (0, text)

/-- The integer part, rounded toward zero, of the number with integer digits `whole`, fraction
digits `fraction` and decimal exponent `exponent`. -/
def integerPart (whole fraction : Bytes) (exponent : Int) : Nat :=
  if (fraction.length : Int) ≤ exponent then
    digitsValue (whole ++ fraction) * 10 ^ (exponent - fraction.length).toNat
  else digitsValue (whole ++ fraction) / 10 ^ ((fraction.length : Int) - exponent).toNat

/-- A JSON number at the head of a text, as the integer part of its value, and what follows it:
an optional minus, an integer part that is `0` or does not start with `0`, an optional
fraction, an optional exponent. -/
def decodeNumber (text : Bytes) : Option (Int × Bytes) :=
  let negative := text.head? = some 45
  let unsigned := if negative then text.drop 1 else text
  let whole := unsigned.takeWhile isDigit
  if whole = [] ∨ (whole.head? = some 48 ∧ 1 < whole.length) then none
  else
    match decodeFraction (unsigned.dropWhile isDigit) with
    | none => none
    | some (fraction, afterFraction) =>
        match decodeExponent afterFraction with
        | none => none
        | some (exponent, rest) =>
            let magnitude : Int := integerPart whole fraction exponent
            some (if negative then -magnitude else magnitude, rest)

/-! ### Values -/

mutual

/-- A JSON value at the head of a text, after leading whitespace, and what follows it: the
first byte says whether it is a string, an array, an object, a literal or a number. -/
def decodeValue : Nat → Bytes → Option (Json × Bytes)
  | 0, _ => none
  | fuel + 1, text =>
      match skipWhitespace text with
      | [] => none
      | byte :: rest =>
          if byte = 34 then
            match decodeString rest with
            | some (bytes, after) => some (.string bytes, after)
            | none => none
          else if byte = 91 then
            match skipWhitespace rest with
            | 93 :: after => some (.array [], after)
            | _ =>
                match decodeElements fuel rest with
                | some (items, after) => some (.array items, after)
                | none => none
          else if byte = 123 then
            match skipWhitespace rest with
            | 125 :: after => some (.object [], after)
            | _ =>
                match decodeMembers fuel rest with
                | some (members, after) => some (.object members, after)
                | none => none
          else if (byte :: rest).take 4 = ascii "null" then some (.null, rest.drop 3)
          else if (byte :: rest).take 4 = ascii "true" then some (.bool true, rest.drop 3)
          else if (byte :: rest).take 5 = ascii "false" then some (.bool false, rest.drop 4)
          else
            match decodeNumber (byte :: rest) with
            | some (value, after) => some (.number value, after)
            | none => none

/-- The elements of an array after its `[`, up to and past its `]`. -/
def decodeElements : Nat → Bytes → Option (List Json × Bytes)
  | 0, _ => none
  | fuel + 1, text =>
      match decodeValue fuel text with
      | none => none
      | some (item, rest) =>
          match skipWhitespace rest with
          | 44 :: more =>
              match decodeElements fuel more with
              | some (items, after) => some (item :: items, after)
              | none => none
          | 93 :: after => some ([item], after)
          | _ => none

/-- The members of an object after its `{`, up to and past its `}`. -/
def decodeMembers : Nat → Bytes → Option (List (Bytes × Json) × Bytes)
  | 0, _ => none
  | fuel + 1, text =>
      match skipWhitespace text with
      | 34 :: afterQuote =>
          match decodeString afterQuote with
          | none => none
          | some (key, rest) =>
              match skipWhitespace rest with
              | 58 :: afterColon =>
                  match decodeValue fuel afterColon with
                  | none => none
                  | some (value, rest) =>
                      match skipWhitespace rest with
                      | 44 :: more =>
                          match decodeMembers fuel more with
                          | some (members, after) => some ((key, value) :: members, after)
                          | none => none
                      | 125 :: after => some ([(key, value)], after)
                      | _ => none
              | _ => none
      | _ => none

end

/-- The JSON value a text is, by RFC 8259: one value between optional whitespace and nothing
else; none for any other text. -/
def decodeJson (text : Bytes) : Option Json :=
  match decodeValue (text.length + 1) text with
  | some (value, rest) => if skipWhitespace rest = [] then some value else none
  | none => none

/-- The JSON value of a text exchanged between systems (RFC 8259 §8.1): a text that is not
well-formed UTF-8 is no JSON text, whatever its grammar. -/
def readJson (text : Bytes) : Option Json :=
  if Utf8.WellFormed text then decodeJson text else none

/-- The value of the first member named `key` of the JSON object a text is; none when the text
is not a JSON object or has no such member. -/
def memberOf (text key : Bytes) : Option Json :=
  match decodeJson text with
  | some (.object members) => (members.find? (·.1 = key)).map (·.2)
  | _ => none

/-! ### Reading the pieces the client prints -/

/-- Bytes a JSON string may hold as they are: no control byte, no `"`, no `\`. -/
def Unescaped (bytes : Bytes) : Prop := ∀ byte ∈ bytes, 32 ≤ byte ∧ byte ≠ 34 ∧ byte ≠ 92

instance : DecidablePred Unescaped := fun bytes =>
  inferInstanceAs (Decidable (∀ byte ∈ bytes, 32 ≤ byte ∧ byte ≠ 34 ∧ byte ≠ 92))

/-- A byte that needs no escape is read as itself. -/
theorem decodeStringFrom_cons {byte : UInt8} (printable : 32 ≤ byte) (notQuote : byte ≠ 34)
    (notBackslash : byte ≠ 92) (pending : Option Nat) (rest : Bytes) :
    decodeStringFrom pending (byte :: rest) =
      prependBytes (flushSurrogate pending ++ [byte]) (decodeStringFrom none rest) := by
  rw [decodeStringFrom.eq_7 _ _ _ notQuote (fun _ _ _ _ _ same => absurd same notBackslash)
    (fun _ _ same => absurd same notBackslash), if_neg (UInt8.not_lt.mpr printable)]

/-- A control byte is never read unescaped. -/
theorem decodeStringFrom_control {control : UInt8} (isControl : control < 32)
    (pending : Option Nat) (rest : Bytes) : decodeStringFrom pending (control :: rest) = none := by
  have notQuote : control ≠ 34 := fun same => absurd (same ▸ isControl) (by decide)
  have notBackslash : control ≠ 92 := fun same => absurd (same ▸ isControl) (by decide)
  rw [decodeStringFrom.eq_7 _ _ _ notQuote (fun _ _ _ _ _ same => absurd same notBackslash)
    (fun _ _ same => absurd same notBackslash), if_pos isControl]

/-- A string body of bytes that need no escape reads back as those bytes, up to its closing
quote. -/
theorem decodeString_plain {bytes : Bytes} (plain : Unescaped bytes) (rest : Bytes) :
    decodeString (bytes ++ 34 :: rest) = some (bytes, rest) := by
  induction bytes with
  | nil => rfl
  | cons byte bytes inductionHypothesis =>
      obtain ⟨⟨printable, notQuote, notBackslash⟩, plainRest⟩ := List.forall_mem_cons.mp plain
      rw [decodeString, List.cons_append, decodeStringFrom_cons printable notQuote notBackslash,
        ← decodeString, inductionHypothesis plainRest]
      rfl

/-- A control byte after bytes that need no escape makes the string unreadable. -/
theorem decodeString_control {bytes : Bytes} (plain : Unescaped bytes) {control : UInt8}
    (isControl : control < 32) (rest : Bytes) :
    decodeString (bytes ++ control :: rest) = none := by
  induction bytes with
  | nil => exact decodeStringFrom_control isControl none rest
  | cons byte bytes inductionHypothesis =>
      obtain ⟨⟨printable, notQuote, notBackslash⟩, plainRest⟩ := List.forall_mem_cons.mp plain
      rw [decodeString, List.cons_append, decodeStringFrom_cons printable notQuote notBackslash,
        ← decodeString, inductionHypothesis plainRest]
      rfl

/-- A `%ld` number followed by a comma reads back as its value. -/
theorem decodeNumber_formatLong (value : Int) (rest : Bytes) :
    decodeNumber (formatLong value ++ 44 :: rest) = some (value, 44 :: rest) := by
  have comma : (44 :: rest).takeWhile isDigit = [] := rfl
  have whole : ∀ magnitude, (decimal magnitude ++ 44 :: rest).takeWhile isDigit =
      decimal magnitude := fun magnitude => by
    rw [List.takeWhile_append_of_pos (isDigit_of_mem_decimal magnitude), comma, List.append_nil]
  have after : ∀ magnitude, (decimal magnitude ++ 44 :: rest).dropWhile isDigit = 44 :: rest :=
    fun magnitude => by
      rw [List.dropWhile_append_of_pos (isDigit_of_mem_decimal magnitude),
        dropWhile_of_takeWhile_nil comma]
  have canonical : ∀ magnitude,
      ¬((decimal magnitude).head? = some 48 ∧ 1 < (decimal magnitude).length) := by
    rintro magnitude ⟨zero, long⟩
    rcases Nat.eq_zero_or_pos magnitude with rfl | positive
    · exact absurd long (by decide)
    · exact head_decimal positive zero
  have worth : ∀ magnitude, integerPart (decimal magnitude) [] 0 = magnitude := fun magnitude => by
    simp [integerPart, digitsValue_decimal]
  have noFraction : decodeFraction (44 :: rest) = some ([], 44 :: rest) := rfl
  have noExponent : decodeExponent (44 :: rest) = some (0, 44 :: rest) := rfl
  unfold formatLong
  split_ifs with negative
  · simp only [decodeNumber, show ascii "-" = [45] from rfl, List.singleton_append,
      List.cons_append, List.nil_append, List.head?_cons, ↓reduceIte, List.drop_one,
      List.tail_cons, whole, after,
      canonical, decimal_ne_nil, or_self, noFraction, noExponent, worth, Option.some.injEq,
      Prod.mk.injEq, and_true]
    omega
  · have notMinus : (decimal value.toNat ++ 44 :: rest).head? ≠ some 45 := by
      obtain ⟨head, tail, split⟩ := List.exists_cons_of_ne_nil (decimal_ne_nil value.toNat)
      have digit := isDigit_of_mem_decimal value.toNat head (split ▸ List.mem_cons_self _ _)
      rw [split, List.cons_append, List.head?_cons]
      exact fun minus => absurd (Option.some.inj minus ▸ digit) (by decide)
    simp only [decodeNumber, notMinus, ↓reduceIte, whole, after, canonical, decimal_ne_nil,
      or_self, noFraction, noExponent, worth, Option.some.injEq, Prod.mk.injEq, and_true]
    omega

/-! ### Reading values and members -/

/-- After a `"` the decoder reads a string. -/
theorem decodeValue_of_quote {fuel : Nat} {text rest : Bytes}
    (quote : skipWhitespace text = 34 :: rest) :
    decodeValue (fuel + 1) text =
      (decodeString rest).map fun (bytes, after) => (.string bytes, after) := by
  rw [decodeValue, quote]
  dsimp only
  rw [if_pos rfl]
  cases decodeString rest <;> rfl

/-- After a `{` and a `"` the decoder reads the members of an object. -/
theorem decodeValue_of_brace {fuel : Nat} {text rest afterQuote : Bytes}
    (brace : skipWhitespace text = 123 :: rest) (quote : skipWhitespace rest = 34 :: afterQuote) :
    decodeValue (fuel + 1) text =
      (decodeMembers fuel rest).map fun (members, after) => (.object members, after) := by
  rw [decodeValue, brace]
  show (match skipWhitespace rest with
    | 125 :: after => some (Json.object [], after)
    | _ =>
        match decodeMembers fuel rest with
        | some (members, after) => some (.object members, after)
        | none => none) = _
  rw [quote]
  cases decodeMembers fuel rest <;> rfl

/-- A string value, read forward. -/
theorem decodeValue_string {fuel : Nat} {text rest bytes after : Bytes}
    (quote : skipWhitespace text = 34 :: rest) (read : decodeString rest = some (bytes, after)) :
    decodeValue (fuel + 1) text = some (.string bytes, after) := by
  rw [decodeValue_of_quote quote, read]
  rfl

/-- An object value with at least one member, read forward. -/
theorem decodeValue_object {fuel : Nat} {text rest afterQuote after : Bytes}
    {members : List (Bytes × Json)} (brace : skipWhitespace text = 123 :: rest)
    (quote : skipWhitespace rest = 34 :: afterQuote)
    (read : decodeMembers fuel rest = some (members, after)) :
    decodeValue (fuel + 1) text = some (.object members, after) := by
  rw [decodeValue_of_brace brace quote, read]
  rfl

/-- `{}`, after optional whitespace inside, is the empty object. -/
theorem decodeValue_emptyObject {fuel : Nat} {text rest after : Bytes}
    (brace : skipWhitespace text = 123 :: rest) (close : skipWhitespace rest = 125 :: after) :
    decodeValue (fuel + 1) text = some (.object [], after) := by
  rw [decodeValue, brace]
  show (match skipWhitespace rest with
    | 125 :: after => some (Json.object [], after)
    | _ =>
        match decodeMembers fuel rest with
        | some (members, after) => some (.object members, after)
        | none => none) = _
  rw [close]
  rfl

/-- `%s` of `"true"` or `"false"` reads back as the flag. -/
theorem decodeValue_bool {fuel : Nat} {text rest : Bytes} (value : Bool)
    (word : skipWhitespace text = ascii (if value then "true" else "false") ++ rest) :
    decodeValue (fuel + 1) text = some (.bool value, rest) := by
  cases value <;> (rw [decodeValue, word]; rfl)

/-- `%ld` text starts with a minus sign or a digit. -/
theorem formatLong_head (value : Int) :
    ∃ head tail, formatLong value = head :: tail ∧ (head = 45 ∨ isDigit head = true) := by
  unfold formatLong
  split_ifs
  · exact ⟨45, _, rfl, .inl rfl⟩
  · obtain ⟨first, others, digits⟩ := List.exists_cons_of_ne_nil (decimal_ne_nil value.toNat)
    exact ⟨first, others, digits,
      .inr (isDigit_of_mem_decimal _ first (digits ▸ List.mem_cons_self _ _))⟩

/-- Skipping whitespace stops at `%ld` text. -/
theorem skipWhitespace_formatLong {blank : Bytes}
    (spaces : ∀ byte ∈ blank, isWhitespace byte = true) (value : Int) (rest : Bytes) :
    skipWhitespace (blank ++ (formatLong value ++ rest)) = formatLong value ++ rest := by
  obtain ⟨head, tail, printed, start⟩ := formatLong_head value
  rw [skipWhitespace, List.dropWhile_append_of_pos spaces, printed, List.cons_append,
    List.dropWhile_cons_of_neg]
  intro blankHead
  simp only [isWhitespace, Bool.or_eq_true, beq_iff_eq] at blankHead
  rcases start with rfl | digit
  · exact absurd blankHead (by decide)
  · rcases blankHead with ((rfl | rfl) | rfl) | rfl <;> exact absurd digit (by decide)

/-- `%ld` text followed by a comma reads back as a number. -/
theorem decodeValue_formatLong {fuel : Nat} {text rest : Bytes} (value : Int)
    (number : skipWhitespace text = formatLong value ++ 44 :: rest) :
    decodeValue (fuel + 1) text = some (.number value, 44 :: rest) := by
  obtain ⟨head, tail, printed, start⟩ := formatLong_head value
  have differs : ∀ other : UInt8, other ≠ 45 → isDigit other = false → head ≠ other := by
    rintro other notMinus notDigit rfl
    rcases start with minus | digit
    · exact notMinus minus
    · exact absurd digit (by rw [notDigit]; decide)
  have takes : ∀ n word, word.head? ≠ some head →
      (head :: (tail ++ 44 :: rest)).take (n + 1) ≠ word :=
    fun _ _ differ same => differ (by rw [← same]; rfl)
  rw [decodeValue, number, printed, List.cons_append]
  dsimp only
  rw [if_neg (differs 34 (by decide) rfl), if_neg (differs 91 (by decide) rfl),
    if_neg (differs 123 (by decide) rfl),
    if_neg (show (head :: (tail ++ 44 :: rest)).take 4 ≠ ascii "null" from
      takes 3 _ fun same => differs 110 (by decide) rfl (Option.some.inj same).symm),
    if_neg (show (head :: (tail ++ 44 :: rest)).take 4 ≠ ascii "true" from
      takes 3 _ fun same => differs 116 (by decide) rfl (Option.some.inj same).symm),
    if_neg (show (head :: (tail ++ 44 :: rest)).take 5 ≠ ascii "false" from
      takes 4 _ fun same => differs 102 (by decide) rfl (Option.some.inj same).symm),
    ← List.cons_append, ← printed, decodeNumber_formatLong]

/-- A member followed by a comma: the decoder reads its key and value and goes on with the
members after the comma. -/
theorem decodeMembers_cons {fuel : Nat}
    {text afterQuote key rest afterColon afterValue more after : Bytes} {value : Json}
    {members : List (Bytes × Json)}
    (quote : skipWhitespace text = 34 :: afterQuote)
    (readKey : decodeString afterQuote = some (key, rest))
    (colon : skipWhitespace rest = 58 :: afterColon)
    (readValue : decodeValue fuel afterColon = some (value, afterValue))
    (comma : skipWhitespace afterValue = 44 :: more)
    (readRest : decodeMembers fuel more = some (members, after)) :
    decodeMembers (fuel + 1) text = some ((key, value) :: members, after) := by
  rw [decodeMembers, quote]
  simp only [readKey, colon, readValue, comma, readRest]

/-- The last member of an object, followed by its `}`. -/
theorem decodeMembers_last {fuel : Nat}
    {text afterQuote key rest afterColon afterValue after : Bytes} {value : Json}
    (quote : skipWhitespace text = 34 :: afterQuote)
    (readKey : decodeString afterQuote = some (key, rest))
    (colon : skipWhitespace rest = 58 :: afterColon)
    (readValue : decodeValue fuel afterColon = some (value, afterValue))
    (close : skipWhitespace afterValue = 125 :: after) :
    decodeMembers (fuel + 1) text = some ([(key, value)], after) := by
  rw [decodeMembers, quote]
  simp only [readKey, colon, readValue, close]

/-- The first member of an object is the first key and value the decoder reads in it, whatever
follows them. -/
theorem decodeMembers_head {fuel : Nat} {text afterQuote key rest afterColon after : Bytes}
    {members : List (Bytes × Json)}
    (quote : skipWhitespace text = 34 :: afterQuote)
    (readKey : decodeString afterQuote = some (key, rest))
    (colon : skipWhitespace rest = 58 :: afterColon)
    (decoded : decodeMembers (fuel + 1) text = some (members, after)) :
    ∃ value afterValue, decodeValue fuel afterColon = some (value, afterValue) ∧
      members.head? = some (key, value) := by
  rw [decodeMembers, quote] at decoded
  simp only [readKey, colon] at decoded
  split at decoded
  · cases decoded
  · refine ⟨_, _, ‹_›, ?_⟩
    split at decoded
    · split at decoded
      · cases decoded
        rfl
      · cases decoded
    · cases decoded
      rfl
    · cases decoded

/-! ### Whole texts and their members -/

/-- A text is the value the decoder reads in it with any fuel from `least` on, when the text
leaves that much and nothing but whitespace follows the value. -/
theorem decodeJson_of_decodeValue {text rest : Bytes} {value : Json} (least : Nat)
    (read : ∀ fuel, decodeValue (fuel + least) text = some (value, rest))
    (enough : least ≤ text.length + 1) (trailing : skipWhitespace rest = []) :
    decodeJson text = some value := by
  rw [decodeJson, show text.length + 1 = text.length + 1 - least + least by omega, read]
  simp only [trailing, ↓reduceIte]

/-- Well-formed UTF-8 that the decoder reads is read as JSON. -/
theorem readJson_of_decodeJson {text : Bytes} {value : Json} (wellFormed : Utf8.WellFormed text)
    (decoded : decodeJson text = some value) : readJson text = some value := by
  rw [readJson, if_pos wellFormed, decoded]

/-- A JSON text is a value the decoder reads with the fuel `decodeJson` gives it. -/
theorem decodeValue_of_decodeJson {text : Bytes} {value : Json}
    (decoded : decodeJson text = some value) :
    ∃ rest, decodeValue (text.length + 1) text = some (value, rest) := by
  unfold decodeJson at decoded
  split at decoded
  · split_ifs at decoded
    cases decoded
    exact ⟨_, ‹_›⟩
  · cases decoded

/-- What `memberOf` finds for the key of an object's first member is the value the decoder reads
after that key's colon. -/
theorem memberOf_first {text rest afterQuote key afterKey afterColon : Bytes} {found : Json}
    (member : memberOf text key = some found) (brace : skipWhitespace text = 123 :: rest)
    (quote : skipWhitespace rest = 34 :: afterQuote)
    (readKey : decodeString afterQuote = some (key, afterKey))
    (colon : skipWhitespace afterKey = 58 :: afterColon) :
    ∃ fuel after, decodeValue fuel afterColon = some (found, after) := by
  obtain ⟨length, long⟩ : ∃ length, text.length = length + 1 :=
    ⟨text.length - 1, by
      have := (List.dropWhile_suffix isWhitespace (l := text)).length_le
      rw [← skipWhitespace, brace, List.length_cons] at this
      omega⟩
  unfold memberOf at member
  split at member
  · rename_i members decoded
    obtain ⟨_, read⟩ := decodeValue_of_decodeJson decoded
    rw [long, decodeValue_of_brace brace quote] at read
    obtain ⟨⟨_, _⟩, decodedMembers, same⟩ := Option.map_eq_some'.mp read
    cases same
    obtain ⟨value, afterValue, readValue, head⟩ :=
      decodeMembers_head quote readKey colon decodedMembers
    obtain ⟨others, rfl⟩ : ∃ others, members = (key, value) :: others := by
      cases members with
      | nil => cases head
      | cons first others => exact ⟨others, by cases head; rfl⟩
    simp only [List.find?_cons, decide_True, Option.map_some', Option.some.injEq] at member
    exact ⟨_, _, member ▸ readValue⟩
  · cases member

/-- What `memberOf` finds for the key of an object's first member, when its value opens with a
`"`, is the string the decoder reads after that quote. -/
theorem memberOf_firstString {text rest afterQuote key afterKey afterColon afterOpen : Bytes}
    {found : Json} (member : memberOf text key = some found)
    (brace : skipWhitespace text = 123 :: rest) (quote : skipWhitespace rest = 34 :: afterQuote)
    (readKey : decodeString afterQuote = some (key, afterKey))
    (colon : skipWhitespace afterKey = 58 :: afterColon)
    (opening : skipWhitespace afterColon = 34 :: afterOpen) :
    ∃ bytes after, decodeString afterOpen = some (bytes, after) ∧ found = .string bytes := by
  obtain ⟨fuel, after, read⟩ := memberOf_first member brace quote readKey colon
  cases fuel with
  | zero => cases read
  | succ fuel =>
      rw [decodeValue_of_quote opening] at read
      obtain ⟨⟨bytes, _⟩, decoded, same⟩ := Option.map_eq_some'.mp read
      cases same
      exact ⟨bytes, _, decoded, rfl⟩

end MqttFileTransfer
