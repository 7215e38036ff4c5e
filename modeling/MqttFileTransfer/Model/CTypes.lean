/-
Module: MqttFileTransfer.Model.CTypes
Layer: Model
Purpose: The C-level values the file-transfer client computes with. Strings and buffers are
  byte lists; `int`, `unsigned int`, `long` and `size_t` values are integers with the
  conversions between them made explicit (reduction modulo 2^32 or 2^64, two's-complement
  wrapping where an `int` product overflows). `decimal` and `formatLong` are the text `%lu`
  and `%ld` print, `cstr` the text `%s` prints. The constants of the source's `#define`s live
  here under their source names.
Trusted boundary: `toInt` assumes the compiler wraps an overflowing `int` product (ISO C leaves
  it undefined); `cstr` prints `(null)` for a NULL `%s` argument, as glibc does.
Main exports: Bytes, ascii, bufSize, topicLen, maxDelay7Days, toULong, toUInt, toInt,
  ulongSub, decimal, formatLong, asLong, cstr
-/
import Mathlib.Data.Nat.Digits

namespace MqttFileTransfer

/-- The bytes of a C string (without its terminator) or of a buffer. -/
abbrev Bytes := List UInt8

/-- The bytes of an ASCII string literal of the source. -/
def ascii (text : String) : Bytes := text.toList.map Char.toUInt8

@[simp] theorem length_ascii (text : String) : (ascii text).length = text.length := by
  rw [ascii, List.length_map]; rfl

/-- `#define BUF_SIZE 1024 * 10`: the size of the payload buffers, and the bound the chunk and
fin topics are formatted against. -/
def bufSize : Nat := 1024 * 10

/-- `#define TOPIC_LEN 1024`: the size of every topic buffer. -/
def topicLen : Nat := 1024

/-- `#define MAX_DELAY_7_DAYS (1000 * 60 * 60 * 24 * 7)`, in milliseconds. -/
def maxDelay7Days : Int := 1000 * 60 * 60 * 24 * 7

/-- Conversion of an integer to `size_t` or `unsigned long` (64 bits). -/
def toULong (value : Int) : Nat := (value % 2 ^ 64).toNat

/-- Conversion of an integer to `unsigned int` (32 bits). -/
def toUInt (value : Int) : Nat := (value % 2 ^ 32).toNat

/-- The `int` an `int` computation leaves when its exact value is out of range: the low 32 bits
read in two's complement. -/
def toInt (value : Int) : Int := (value + 2 ^ 31) % 2 ^ 32 - 2 ^ 31

/-- `minuend - subtrahend` computed in `size_t`: modulo 2^64. -/
def ulongSub (minuend subtrahend : Nat) : Nat :=
  (minuend + (2 ^ 64 - subtrahend % 2 ^ 64)) % 2 ^ 64

/-- `%lu`: the decimal digits of an unsigned value. -/
def decimal (value : Nat) : Bytes := (Nat.toDigits 10 value).map Char.toUInt8

/-- `%ld`: the decimal text of a `long`, with a minus sign when it is negative. -/
def formatLong (value : Int) : Bytes :=
  if value < 0 then ascii "-" ++ decimal value.natAbs else decimal value.toNat

/-- An `unsigned long` passed where `%ld` expects a `long`: the same 64 bits read as signed. -/
def asLong (value : Nat) : Int :=
  if value < 2 ^ 63 then value else (value : Int) - 2 ^ 64

/-- `%s` of a `char *` argument: the string's bytes, and `(null)` for a NULL pointer. -/
def cstr : Option Bytes → Bytes
  | some bytes => bytes
  | none => ascii "(null)"

@[simp] theorem toULong_lt (value : Int) : toULong value < 2 ^ 64 := by
  unfold toULong; omega

@[simp] theorem ulongSub_lt (minuend subtrahend : Nat) : ulongSub minuend subtrahend < 2 ^ 64 := by
  unfold ulongSub; omega

/-- `size_t` subtraction of a smaller value is the plain difference. -/
theorem ulongSub_of_le {minuend subtrahend : Nat} (le : subtrahend ≤ minuend)
    (fits : minuend < 2 ^ 64) : ulongSub minuend subtrahend = minuend - subtrahend := by
  unfold ulongSub
  rw [Nat.mod_eq_of_lt (show subtrahend < 2 ^ 64 by omega)]
  omega

/-- A non-negative `long` converts to `size_t` unchanged. -/
theorem toULong_of_long {value : Int} (nonneg : 0 ≤ value) (fits : value < 2 ^ 63) :
    toULong value = value.toNat := by
  unfold toULong; omega

/-- `%lu` prints at least one digit. -/
theorem decimal_ne_nil (value : Nat) : decimal value ≠ [] := by
  unfold decimal Nat.toDigits
  simp only [Nat.toDigitsCore, ne_eq, List.map_eq_nil_iff]
  split
  · simp
  · rw [← ne_eq, ← List.length_pos, Nat.toDigitsCore_lens_eq]
    omega

/-- `%lu` prints at most `width` digits for a value below `10 ^ width`. -/
theorem length_decimal_le {value width : Nat} (positive : 0 < width) (below : value < 10 ^ width) :
    (decimal value).length ≤ width := by
  rw [decimal, List.length_map]
  exact Nat.repr_length value width positive below

end MqttFileTransfer
