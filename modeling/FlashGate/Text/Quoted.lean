/-
Quoted text: between double quotes, with a backslash before a quote or a backslash, letters for
the common controls, and the code point of every other character that does not show on its own.
-/
import FlashGate.Text.Hex
import FlashGate.Text.Hidden

namespace FlashGate.Text

/-- A character as it stands in quoted text. -/
def escape (c : Char) : List Char :=
  if c = '\x00' then ['\\', '0']
  else if c = '\t' then ['\\', 't']
  else if c = '\n' then ['\\', 'n']
  else if c = '\r' then ['\\', 'r']
  else if c = '"' then ['\\', '"']
  else if c = '\\' then ['\\', '\\']
  else if isHidden c then "\\u\x7b".toList ++ Nat.toDigits 16 c.toNat ++ ['\x7d']
  else [c]

/-- The text in quotes. -/
def quote (text : String) : String :=
  String.ofList ('"' :: text.toList.flatMap escape ++ ['"'])

end FlashGate.Text
