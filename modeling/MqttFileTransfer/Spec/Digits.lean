/-
Module: MqttFileTransfer.Spec.Digits
Layer: Spec
Purpose: Reading back the numbers the client prints. `readUnsigned` reads the run of decimal
  digits at the head of a text and `readSigned` the same after an optional minus sign: what a
  receiver applies to the `%lu` and `%ld` text in a topic or a payload. Their round trips over
  `decimal` and `formatLong` are proved here once, from the recursion of `Nat.toDigits` that
  `decimal` prints through: `decimal n` is `decimal (n / 10)` followed by the last digit
  (`decimal_of_ten_le`), and every property of the printed digits follows by strong induction
  on the value.
Trusted boundary: none
Main exports: isDigit, digitsValue, readUnsigned, readSigned, decimal_of_lt_ten,
  decimal_of_ten_le, isDigit_of_mem_decimal, digitsValue_decimal, head_decimal,
  length_decimal_mono, formatLong_natCast,
  readUnsigned_decimal, readSigned_formatLong
-/
import MqttFileTransfer.Model.CTypes

namespace MqttFileTransfer

/-- Whether a byte is an ASCII decimal digit. -/
def isDigit (byte : UInt8) : Bool := 48 ≤ byte && byte ≤ 57

/-- The value of a run of decimal digits, most significant first. -/
def digitsValue (digits : Bytes) : Nat :=
  digits.foldl (fun value byte => value * 10 + (byte.toNat - 48)) 0

/-- The unsigned decimal number at the head of `text` and what follows it; none when `text` does
not start with a digit. -/
def readUnsigned (text : Bytes) : Option (Nat × Bytes) :=
  if text.takeWhile isDigit = [] then none
  else some (digitsValue (text.takeWhile isDigit), text.dropWhile isDigit)

/-- The decimal number at the head of `text`, after an optional minus sign, and what follows
it. -/
def readSigned : Bytes → Option (Int × Bytes)
  | 45 :: rest => (readUnsigned rest).map fun (value, after) => (-(value : Int), after)
  | text => (readUnsigned text).map fun (value, after) => ((value : Int), after)

/-! ### The digits `%lu` prints -/

/-- `Nat.toDigitsCore` puts the digits it computes in front of its accumulator. -/
theorem toDigitsCore_append (fuel value : Nat) (digits : List Char) :
    Nat.toDigitsCore 10 fuel value digits = Nat.toDigitsCore 10 fuel value [] ++ digits := by
  induction fuel generalizing value digits with
  | zero => rfl
  | succ fuel inductionHypothesis =>
      simp only [Nat.toDigitsCore]
      split
      · rfl
      · rw [inductionHypothesis, inductionHypothesis _ [_], List.append_assoc, List.singleton_append]

/-- Any fuel above the value gives `Nat.toDigitsCore` the same digits. -/
theorem toDigitsCore_fuel {fuel other value : Nat} (digits : List Char) (enough : value < fuel)
    (enoughOther : value < other) :
    Nat.toDigitsCore 10 fuel value digits = Nat.toDigitsCore 10 other value digits := by
  induction fuel generalizing other value digits with
  | zero => omega
  | succ fuel inductionHypothesis =>
      obtain ⟨other, rfl⟩ : ∃ other', other = other' + 1 := ⟨other - 1, by omega⟩
      simp only [Nat.toDigitsCore]
      split
      · rfl
      · exact inductionHypothesis _ (by omega) (by omega)

/-- A value below 10 prints as its one digit. -/
theorem decimal_of_lt_ten {value : Nat} (small : value < 10) :
    decimal value = [(Nat.digitChar value).toUInt8] := by
  simp [decimal, Nat.toDigits, Nat.toDigitsCore, Nat.div_eq_of_lt small, Nat.mod_eq_of_lt small]

/-- From 10 on, a value prints as its tenth, then its last digit. -/
theorem decimal_of_ten_le {value : Nat} (large : 10 ≤ value) :
    decimal value = decimal (value / 10) ++ [(Nat.digitChar (value % 10)).toUInt8] := by
  obtain ⟨fuel, rfl⟩ : ∃ fuel, value = fuel + 1 := ⟨value - 1, by omega⟩
  have tenth : (fuel + 1) / 10 ≠ 0 := by omega
  rw [decimal, Nat.toDigits]
  conv_lhs => rw [Nat.toDigitsCore]
  simp only [tenth, ↓reduceIte]
  rw [toDigitsCore_append, toDigitsCore_fuel [] (by omega) (Nat.lt_succ_self _), List.map_append,
    List.map_singleton]
  rfl

/-- The byte of a digit is a digit, worth the digit. -/
theorem digitChar_toUInt8 : ∀ digit < 10,
    isDigit (Nat.digitChar digit).toUInt8 = true ∧
      (Nat.digitChar digit).toUInt8.toNat - 48 = digit ∧
      ((Nat.digitChar digit).toUInt8 = 48 → digit = 0) := by
  decide

/-- `%lu` prints digits only. -/
theorem isDigit_of_mem_decimal (value : Nat) : ∀ byte ∈ decimal value, isDigit byte = true := by
  induction value using Nat.strong_induction_on with
  | _ value inductionHypothesis =>
      by_cases small : value < 10
      · simp [decimal_of_lt_ten small, (digitChar_toUInt8 value small).1]
      · rw [decimal_of_ten_le (by omega)]
        intro byte member
        rcases List.mem_append.mp member with member | member
        · exact inductionHypothesis _ (by omega) byte member
        · rw [List.mem_singleton.mp member]
          exact (digitChar_toUInt8 _ (Nat.mod_lt _ (by norm_num))).1

/-- The digits `%lu` prints are worth the value. -/
theorem digitsValue_decimal (value : Nat) : digitsValue (decimal value) = value := by
  induction value using Nat.strong_induction_on with
  | _ value inductionHypothesis =>
      by_cases small : value < 10
      · simp [decimal_of_lt_ten small, digitsValue, (digitChar_toUInt8 value small).2.1]
      · have tenth := inductionHypothesis (value / 10) (by omega)
        rw [digitsValue] at tenth ⊢
        rw [decimal_of_ten_le (by omega), List.foldl_append, tenth, List.foldl_cons, List.foldl_nil,
          (digitChar_toUInt8 _ (Nat.mod_lt _ (by norm_num))).2.1]
        omega

/-- `%lu` prints no leading zero: a positive value does not start with `0`. -/
theorem head_decimal {value : Nat} (positive : 0 < value) : (decimal value).head? ≠ some 48 := by
  induction value using Nat.strong_induction_on with
  | _ value inductionHypothesis =>
      by_cases small : value < 10
      · simp only [decimal_of_lt_ten small, List.head?_cons, ne_eq, Option.some.injEq]
        exact fun zero => absurd ((digitChar_toUInt8 value small).2.2 zero) (by omega)
      · rw [decimal_of_ten_le (by omega), List.head?_append_of_ne_nil _ (decimal_ne_nil _)]
        exact inductionHypothesis _ (by omega) (by omega)

/-- A larger value prints at least as many digits. -/
theorem length_decimal_mono {small large : Nat} (le : small ≤ large) :
    (decimal small).length ≤ (decimal large).length := by
  induction large using Nat.strong_induction_on generalizing small with
  | _ large inductionHypothesis =>
      by_cases tiny : small < 10
      · rw [decimal_of_lt_ten tiny, List.length_singleton, Nat.one_le_iff_ne_zero, ne_eq,
          List.length_eq_zero]
        exact decimal_ne_nil large
      · rw [decimal_of_ten_le (by omega), decimal_of_ten_le (show 10 ≤ large by omega),
          List.length_append, List.length_append]
        exact Nat.add_le_add_right
          (inductionHypothesis _ (by omega) (Nat.div_le_div_right le)) _

/-- `%ld` of a value that is not negative prints its digits. -/
theorem formatLong_natCast (value : Nat) : formatLong value = decimal value := by
  simp [formatLong]

/-! ### Reading them back -/

/-- A text that does not go on with a digit. -/
theorem dropWhile_of_takeWhile_nil {text : Bytes} (stop : text.takeWhile isDigit = []) :
    text.dropWhile isDigit = text := by
  simpa [stop] using List.takeWhile_append_dropWhile isDigit text

/-- `%lu` text reads back as its value, when what follows is not a digit. -/
theorem readUnsigned_decimal (value : Nat) {rest : Bytes} (stop : rest.takeWhile isDigit = []) :
    readUnsigned (decimal value ++ rest) = some (value, rest) := by
  have digits := isDigit_of_mem_decimal value
  simp only [readUnsigned, List.takeWhile_append_of_pos digits, stop, List.append_nil,
    decimal_ne_nil, ↓reduceIte, digitsValue_decimal, List.dropWhile_append_of_pos digits,
    dropWhile_of_takeWhile_nil stop]

/-- `%ld` text reads back as its value, when what follows is not a digit. -/
theorem readSigned_formatLong (value : Int) {rest : Bytes} (stop : rest.takeWhile isDigit = []) :
    readSigned (formatLong value ++ rest) = some (value, rest) := by
  unfold formatLong
  split_ifs with negative
  · rw [show ascii "-" = [45] from rfl, List.singleton_append, List.cons_append, readSigned,
      readUnsigned_decimal _ stop]
    simp only [Option.map_some', Option.some.injEq, Prod.mk.injEq, and_true]
    omega
  · obtain ⟨head, tail, split⟩ := List.exists_cons_of_ne_nil (decimal_ne_nil value.toNat)
    have notMinus : head ≠ 45 := fun minus => by
      have := isDigit_of_mem_decimal value.toNat head (split ▸ List.mem_cons_self _ _)
      rw [minus] at this
      exact absurd this (by decide)
    rw [split, List.cons_append, readSigned, ← List.cons_append, ← split,
      readUnsigned_decimal _ stop]
    · simp only [Option.map_some', Option.some.injEq, Prod.mk.injEq, and_true]
      omega
    · exact fun _ same => notMinus (List.cons.inj same).1

end MqttFileTransfer
