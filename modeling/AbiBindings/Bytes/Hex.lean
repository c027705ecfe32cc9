import AbiBindings.Bytes.Basic
import AbiBindings.Text.Quoted

/-!
# Hexadecimal text

Writing bytes as lower-case digits, and reading digits of either case.

* `Hex.encode`, `Hex.encodePrefixed`: the digits, without and with the mark `0x`.
* `Hex.decode`: the bytes that an even number of digits spells; the error says what is wrong.
-/

namespace AbiBindings.Hex

/-- The two digits of a byte. -/
def byteDigits (b : UInt8) : List Char :=
  [Text.hexDigit (b.toNat / 16), Text.hexDigit (b.toNat % 16)]

/-- The digits of a byte string. -/
def digits (b : Bytes) : List Char := b.flatMap byteDigits

/-- The digits of a byte string as a text. -/
def encode (b : Bytes) : String := String.ofList (digits b)

/-- The digits of a byte string after the mark `0x`. -/
def encodePrefixed (b : Bytes) : String := String.ofList ('0' :: 'x' :: digits b)

/-- Why a text is no byte string. -/
inductive DecodeError where
  | oddLength
  | badDigit (digit : UInt8) (position : Nat)
  deriving Repr, DecidableEq

/-- The wording of the error; a stray byte is shown as the character of that code. -/
def DecodeError.message : DecodeError → String
  | .oddLength => "Odd number of digits"
  | .badDigit b position =>
    "Invalid character " ++ Text.quotedChar (Char.ofNat b.toNat) ++ " at position " ++
      toString position

/-- The value of a digit of either case. -/
def digitValue? (b : UInt8) : Option Nat :=
  let n := b.toNat
  if 48 ≤ n ∧ n ≤ 57 then some (n - 48)
  else if 97 ≤ n ∧ n ≤ 102 then some (n - 87)
  else if 65 ≤ n ∧ n ≤ 70 then some (n - 55)
  else none

/-- Reads pairs of digits, the first of them at `position`. -/
def decodePairs (position : Nat) : Bytes → Except DecodeError Bytes
  | [] => .ok []
  | [_] => .error .oddLength
  | a :: b :: rest =>
    match digitValue? a with
    | none => .error (.badDigit a position)
    | some high =>
      match digitValue? b with
      | none => .error (.badDigit b (position + 1))
      | some low =>
        match decodePairs (position + 2) rest with
        | .ok bytes => .ok (UInt8.ofNat (16 * high + low) :: bytes)
        | .error e => .error e

/-- The bytes that the digits spell; an odd count is noticed before a bad digit. -/
def decodeBytes (b : Bytes) : Except DecodeError Bytes :=
  if b.length % 2 = 1 then .error .oddLength else decodePairs 0 b

/-- The bytes that a text of digits spells. -/
def decode (s : String) : Except DecodeError Bytes := decodeBytes (utf8 s)

/-- A text without one leading `0x`. -/
def stripMark (s : String) : String :=
  match s.toList with
  | '0' :: 'x' :: rest => String.ofList rest
  | _ => s

end AbiBindings.Hex
