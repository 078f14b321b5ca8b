/-!
# Blank characters

The characters of the Unicode property White_Space, and texts without them at their ends.
-/

namespace SecurityKey.Text

/-- The ranges of blank characters, ascending, both ends included. -/
def blanks : List (UInt32 × UInt32) :=
  [(0x9, 0xD), (0x20, 0x20), (0x85, 0x85), (0xA0, 0xA0), (0x1680, 0x1680), (0x2000, 0x200A), (0x2028, 0x2029),
    (0x202F, 0x202F), (0x205F, 0x205F), (0x3000, 0x3000)]

/-- Whether a character is blank. -/
def isBlank (c : Char) : Bool :=
  blanks.any fun (first, last) => first ≤ c.val && c.val ≤ last

/-- A text without the blank characters at its start and its end. -/
def trim (text : String) : String :=
  let tail := text.toList.dropWhile isBlank
  String.ofList (tail.reverse.dropWhile isBlank).reverse

end SecurityKey.Text
