import Reshape.Text.QuotedTable

/-!
# Quoted text

Texts between quotes, in which a character that would not be seen there is written by number.

* **`Text.quotedChar`** — the written form of one character.
* **`Text.quote`** — the written form of a text, quotes included.
-/

namespace Reshape

namespace Text

/-- A code point by number, in lower-case hexadecimal digits. -/
def byNumber (n : Nat) : List Char := "\\u\x7b".toList ++ Nat.toDigits 16 n ++ ['\x7d']

/-- The written form of a character between quotes. -/
def quotedChar (c : Char) : List Char :=
  if c = '"' then ['\\', '"']
  else if c = '\\' then ['\\', '\\']
  else if c = '\n' then ['\\', 'n']
  else if c = '\t' then ['\\', 't']
  else if c = '\r' then ['\\', 'r']
  else if c.toNat = 0 then ['\\', '0']
  else if inSpans unprintableSpans c.toNat then byNumber c.toNat
  else [c]

/-- A text between quotes. -/
def quote (s : String) : String :=
  String.ofList ('"' :: s.toList.flatMap quotedChar ++ ['"'])

end Text

end Reshape
