import AbiBindings.Text.Classes

/-!
# Quoted texts

The quoted form of a text or a character in a diagnostic: the usual escapes, and the code point in
braces for a character that is unprintable or only extends its neighbour.

* `quoted`: a text in double quotes.
* `quotedChar`: a character in single quotes.
-/

namespace AbiBindings.Text

/-- Lower-case digit of a number below sixteen. -/
def hexDigit (n : Nat) : Char :=
  if n < 10 then Char.ofNat (48 + n) else Char.ofNat (87 + n)

/-- Lower-case hexadecimal digits of a number, without leading zeros. -/
def hexDigits (n : Nat) : List Char := (Nat.toDigits 16 n)

/-- A character inside the quotes `mark`. -/
def quotedInside (mark : Char) (c : Char) : List Char :=
  if c = '\x00' then ['\\', '0']
  else if c = '\t' then ['\\', 't']
  else if c = '\r' then ['\\', 'r']
  else if c = '\n' then ['\\', 'n']
  else if c = '\\' ∨ c = mark then ['\\', c]
  else if 0x20 ≤ c.toNat ∧ c.toNat < 0x7f then [c]
  else if isMark c ∨ isUnprintable c then ['\\', 'u', '\x7b'] ++ hexDigits c.toNat ++ ['\x7d']
  else [c]

/-- A text in double quotes. -/
def quoted (s : String) : String :=
  String.ofList (['"'] ++ s.toList.flatMap (quotedInside '"') ++ ['"'])

/-- A character in single quotes. -/
def quotedChar (c : Char) : String :=
  String.ofList (['\''] ++ quotedInside '\'' c ++ ['\''])

end AbiBindings.Text
