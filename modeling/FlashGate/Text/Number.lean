/-
Unsigned numbers in parameters and arguments: an optional plus sign and digits of one radix, the
value at most a given bound. A number written with `0x` or `0X` in front is hexadecimal.
-/

namespace FlashGate.Text

/-- Why a text is not a number. -/
inductive NumberError where
  | empty
  | invalidDigit
  | tooLarge
  deriving DecidableEq, Repr

/-- The wording of a number error. -/
def NumberError.message : NumberError → String
  | .empty => "cannot parse integer from empty string"
  | .invalidDigit => "invalid digit found in string"
  | .tooLarge => "number too large to fit in target type"

/-- The value of an ASCII digit or letter, if it is a digit of the radix. -/
def digit? (radix : Nat) (c : Char) : Option Nat :=
  let value :=
    if '0' ≤ c ∧ c ≤ '9' then c.toNat - '0'.toNat
    else if 'a' ≤ c ∧ c ≤ 'z' then c.toNat - 'a'.toNat + 10
    else if 'A' ≤ c ∧ c ≤ 'Z' then c.toNat - 'A'.toNat + 10
    else radix
  if value < radix then some value else none

/-- Reads digits after a value already read. The first character that is no digit, or that takes
the value above the bound, decides the error. -/
def readDigits (radix bound : Nat) : Nat → List Char → Except NumberError Nat
  | value, [] => .ok value
  | value, c :: rest =>
    match digit? radix c with
    | none => .error .invalidDigit
    | some d =>
      if value * radix + d ≤ bound then readDigits radix bound (value * radix + d) rest
      else .error .tooLarge

/-- Reads an unsigned number of the radix: at most one plus sign, then at least one digit. -/
def readUnsigned (radix bound : Nat) : List Char → Except NumberError Nat
  | [] => .error .empty
  | ['+'] => .error .invalidDigit
  | '+' :: digits => readDigits radix bound 0 digits
  | digits => readDigits radix bound 0 digits

/-- Radix of a written number. -/
inductive Radix where
  | decimal
  | hexadecimal
  deriving DecidableEq, Repr

/-- The base that a radix stands for. -/
def Radix.base : Radix → Nat
  | .decimal => 10
  | .hexadecimal => 16

/-- Splits off the mark of a hexadecimal number. -/
def splitRadix : List Char → Radix × List Char
  | '0' :: 'x' :: digits => (.hexadecimal, digits)
  | '0' :: 'X' :: digits => (.hexadecimal, digits)
  | digits => (.decimal, digits)

/-- The largest 32-bit word. -/
def maxWord : Nat := 0xFFFFFFFF

/-- The largest 64-bit count. -/
def maxCount : Nat := 0xFFFFFFFFFFFFFFFF

/-- Reads a 32-bit word in decimal or, marked, in hexadecimal. The error names the radix in which
the text was read. -/
def readWord (text : List Char) : Except (Radix × NumberError) UInt32 :=
  let (radix, digits) := splitRadix text
  match readUnsigned radix.base maxWord digits with
  | .ok value => .ok (UInt32.ofNat value)
  | .error e => .error (radix, e)

/-- Reads a 64-bit count in decimal. -/
def readCount (text : List Char) : Except NumberError Nat :=
  readUnsigned 10 maxCount text

end FlashGate.Text
