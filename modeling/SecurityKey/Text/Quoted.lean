import SecurityKey.Text.Glyphless
import SecurityKey.Text.Hexadecimal

/-!
# Quoted texts

A text in a message stands between double quotes. Quotes and backslashes get a backslash, the common controls have
a letter, and every other character without a glyph of its own is spelled by its number.
-/

namespace SecurityKey.Text

/-- The spelling of a character in a quoted text. -/
def spell (c : Char) : String :=
  if c = '"' then "\\\""
  else if c = '\\' then "\\\\"
  else if c = '\n' then "\\n"
  else if c = '\r' then "\\r"
  else if c = '\t' then "\\t"
  else if c = '\x00' then "\\0"
  else if isGlyphless c then "\\u\x7b" ++ hexadecimal c.toNat ++ "\x7d"
  else c.toString

/-- A text between quotes. -/
def quote (text : String) : String :=
  "\"" ++ String.join (text.toList.map spell) ++ "\""

end SecurityKey.Text
