/-
This file holds the quoted form of characters and texts: control characters with a short
name are written by it, quotes and backslashes are escaped, and every other character that
would not be seen on its own is written by its code point.
-/
import PatternDispatch.Text.Extending
import PatternDispatch.Text.Ignorable
import PatternDispatch.Text.Printable

namespace PatternDispatch.Text

/-- The lowercase hexadecimal digits of a number, without leading zeros. -/
def hexadecimal (number : Nat) : String := String.ofList (Nat.toDigits 16 number)

/-- A character written by its code point. -/
def codePoint (character : Char) : String := "\\u\x7b" ++ hexadecimal character.toNat ++ "\x7d"

/-- A character as it stands between two `quote` marks. -/
def escaped (quote character : Char) : String :=
  if character = '\x00' then "\\0"
  else if character = '\t' then "\\t"
  else if character = '\n' then "\\n"
  else if character = '\r' then "\\r"
  else if character = '\\' then "\\\\"
  else if character = quote then "\\" ++ quote.toString
  else if isExtending character || isIgnorable character || !isPrintable character then
    codePoint character
  else character.toString

/-- A text between double quotes. -/
def quoted (text : String) : String :=
  "\"" ++ String.join (text.toList.map (escaped '"')) ++ "\""

/-- A character between single quotes. -/
def quotedCharacter (character : Char) : String := "'" ++ escaped '\'' character ++ "'"

end PatternDispatch.Text
