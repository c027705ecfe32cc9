import AbiBindings.Bytes.Basic

/-!
# Reading UTF-8

* `utf8?`: the text of well-formed bytes.
* `utf8Lossy`: the text of any bytes: each longest piece that begins a character and breaks off, and
  each byte that begins none, becomes the replacement character. On well-formed bytes the two agree
  by definition.
-/

namespace AbiBindings

/-- The text of well-formed bytes. -/
def utf8? (b : Bytes) : Option String := String.fromUTF8? ⟨b.toArray⟩

namespace Utf8

/-- Stands for what is no character. -/
def replacement : Char := Char.ofNat 0xfffd

/-- Whether a byte lies in a range. -/
def within (low high : Nat) (b : UInt8) : Bool := low ≤ b.toNat && b.toNat ≤ high

/-- The range of the byte after a lead byte of a longer character. -/
def secondRange (lead : Nat) : Nat × Nat :=
  if lead = 0xe0 then (0xa0, 0xbf)
  else if lead = 0xed then (0x80, 0x9f)
  else if lead = 0xf0 then (0x90, 0xbf)
  else if lead = 0xf4 then (0x80, 0x8f)
  else (0x80, 0xbf)

/-- How many bytes follow a lead byte, none if no character starts with it. -/
def following? (lead : Nat) : Option Nat :=
  if lead < 0x80 then some 0
  else if 0xc2 ≤ lead ∧ lead ≤ 0xdf then some 1
  else if 0xe0 ≤ lead ∧ lead ≤ 0xef then some 2
  else if 0xf0 ≤ lead ∧ lead ≤ 0xf4 then some 3
  else none

/-- The bits that a lead byte adds to its character. -/
def leadBits (lead : Nat) : Nat :=
  if lead < 0x80 then lead
  else if lead < 0xe0 then lead - 0xc0
  else if lead < 0xf0 then lead - 0xe0
  else lead - 0xf0

/-- Takes `k` more bytes into a character, the first of them in the given range. -/
def finish : Nat → Nat × Nat → Nat → Bytes → Char × Bytes
  | 0, _, code, rest => (Char.ofNat code, rest)
  | _ + 1, _, _, [] => (replacement, [])
  | k + 1, range, code, b :: rest =>
    if within range.1 range.2 b then finish k (0x80, 0xbf) (code * 64 + (b.toNat - 0x80)) rest
    else (replacement, b :: rest)

/-- The character at the front of a byte string that starts with `lead`. -/
def front (lead : UInt8) (rest : Bytes) : Char × Bytes :=
  match following? lead.toNat with
  | none => (replacement, rest)
  | some k => finish k (secondRange lead.toNat) (leadBits lead.toNat) rest

/-- At most `fuel` characters of a byte string. -/
def charsWith : Nat → Bytes → List Char
  | 0, _ => []
  | _ + 1, [] => []
  | fuel + 1, b :: rest =>
    let (c, rest) := front b rest
    c :: charsWith fuel rest

end Utf8

/-- The text of any bytes. -/
def utf8Lossy (b : Bytes) : String :=
  match utf8? b with
  | some s => s
  | none => String.ofList (Utf8.charsWith b.length b)

end AbiBindings
