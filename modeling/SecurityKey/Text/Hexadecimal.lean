/-!
# Hexadecimal digits

Numbers in messages are written with hexadecimal digits, at least as many as the message asks for.
-/

namespace SecurityKey.Text

/-- The hexadecimal digits of `n` in lower case. -/
def hexadecimal (n : Nat) : String :=
  String.ofList (Nat.toDigits 16 n)

/-- The hexadecimal digits of `n` in lower case, with zeros in front up to `width` digits. -/
def paddedHexadecimal (width n : Nat) : String :=
  let digits := Nat.toDigits 16 n
  String.ofList (List.replicate (width - digits.length) '0' ++ digits)

end SecurityKey.Text
