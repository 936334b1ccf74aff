/-
Hexadecimal text of words, as it stands in log lines and dumps.
-/

namespace FlashGate.Text

/-- The digits padded with zeros in front up to `width`; longer text is kept whole. -/
def padZero (width : Nat) (digits : List Char) : String :=
  String.ofList (List.replicate (width - digits.length) '0' ++ digits)

/-- Upper-case hexadecimal with at least `width` digits. -/
def hex (width n : Nat) : String :=
  padZero width ((Nat.toDigits 16 n).map Char.toUpper)

/-- Lower-case hexadecimal without padding. -/
def hexLower (n : Nat) : String :=
  String.ofList (Nat.toDigits 16 n)

/-- A device address: `0x` and eight upper-case digits. -/
def hexAddress (a : UInt32) : String :=
  "0x" ++ hex 8 a.toNat

/-- A command byte: `0x` and two upper-case digits. -/
def hexByte (b : UInt8) : String :=
  "0x" ++ hex 2 b.toNat

end FlashGate.Text
