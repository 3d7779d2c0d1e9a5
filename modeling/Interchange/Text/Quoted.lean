import Interchange.Text.PrintRanges
import Interchange.Text.Ranges
/-!
# Quoted text in messages

A text is shown inside a message between double quotes, with an escape for the quote, the
backslash, the usual controls, and every character that could not be seen: one without a visible
form, or one that would merge with the character before it.
-/

namespace Interchange.Text

/-- One character between the quotes. -/
def quotedChar (c : Char) : List Char :=
  if c = '"' then ['\\', '"']
  else if c = '\\' then ['\\', '\\']
  else if c = '\n' then ['\\', 'n']
  else if c = '\t' then ['\\', 't']
  else if c = '\r' then ['\\', 'r']
  else if c.toNat = 0 then ['\\', '0']
  else if 32 ≤ c.toNat && c.toNat < 127 then [c]
  else if inRanges extending c.toNat || inRanges unprintable c.toNat then
    '\\' :: 'u' :: '\x7b' :: (Nat.toDigits 16 c.toNat ++ ['\x7d'])
  else [c]

/-- The text with its quotes. -/
def quoted (s : String) : String :=
  String.ofList ('"' :: (s.toList.flatMap quotedChar ++ ['"']))

end Interchange.Text
