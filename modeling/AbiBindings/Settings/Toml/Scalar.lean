import AbiBindings.Settings.Basic
import AbiBindings.Settings.Toml.Text

/-!
# Numbers and dates of TOML

* `readInteger`: an integer of 64 bits, decimal with underscores between the digits, or in base 16,
  8 or 2 after `0x`, `0o` or `0b`.
* `readDecimal`: a number with a fraction or an exponent, finite unless it is negative.
* `readSpecial`: one of the words `inf` and `nan`.
* `readDate`: a date, a time, or both with an optional offset.
* `readNumber`: any of them.
-/

namespace AbiBindings.Toml

/-- The value of a decimal digit. -/
def digit? (c : Char) : Option Nat :=
  if '0' ≤ c ∧ c ≤ '9' then some (c.toNat - 48) else none

/-- Digits with single underscores between them. -/
def readDigits (value? : Char → Option Nat) : List Char → Option (List Nat × List Char)
  | [] => none
  | c :: rest =>
    match value? c with
    | none => none
    | some d =>
      match rest with
      | '_' :: rest =>
        match readDigits value? rest with
        | none => none
        | some (ds, rest) => some (d :: ds, rest)
      | rest =>
        match readDigits value? rest with
        | none => some ([d], rest)
        | some (ds, rest) => some (d :: ds, rest)

/-- The number that digits spell in a base. -/
def digitsValue (base : Nat) (ds : List Nat) : Nat := ds.foldl (fun n d => base * n + d) 0

/-- The sign of a number, true for a minus. -/
def readSign : List Char → Bool × List Char
  | '-' :: rest => (true, rest)
  | '+' :: rest => (false, rest)
  | cs => (false, cs)

/-- The digits of a decimal integer, which start with a zero only if there is no other. -/
def readWhole (cs : List Char) : Option (List Nat × List Char) :=
  match cs with
  | '0' :: rest => some ([0], rest)
  | _ => readDigits digit? cs

/-- The digit of a base up to sixteen. -/
def digitOf? (base : Nat) (c : Char) : Option Nat := (hexValue? c).filter (· < base)

/-- An integer without sign as a setting. -/
def natural? (n : Nat) : Option Setting := if n < UInt64.size / 2 then some (.natural n) else none

/-- The digits of a base as a setting. -/
def readBased (base : Nat) (cs : List Char) : Option (Setting × List Char) := do
  let (ds, rest) ← readDigits (digitOf? base) cs
  some (← natural? (digitsValue base ds), rest)

/-- An integer. -/
def readInteger : List Char → Option (Setting × List Char)
  | '0' :: 'x' :: rest => readBased 16 rest
  | '0' :: 'o' :: rest => readBased 8 rest
  | '0' :: 'b' :: rest => readBased 2 rest
  | cs => do
    let (minus, cs) := readSign cs
    let (ds, rest) ← readWhole cs
    let n := digitsValue 10 ds
    if minus then
      if n = 0 then some (.natural 0, rest)
      else if n ≤ UInt64.size / 2 then some (.other, rest)
      else none
    else some (← natural? n, rest)

/-- Whether `n * 10 ^ e` rounds to a finite number of double precision. -/
def isFinite (n : Nat) (e : Int) : Bool :=
  let limit := Nat.pow 2 1024 - Nat.pow 2 970
  if n = 0 then true
  else if e < 0 then
    let k := min e.natAbs (Nat.log2 n + 1)
    n < limit * Nat.pow 10 k
  else if 400 < e then false
  else n * Nat.pow 10 e.toNat < limit

/-- The exponent of a number after its letter. -/
def readExponent (cs : List Char) : Option (Int × List Char) :=
  match cs with
  | c :: rest =>
    if c = 'e' ∨ c = 'E' then do
      let (minus, rest) := readSign rest
      let (ds, rest) ← readDigits digit? rest
      let e : Int := digitsValue 10 ds
      some (if minus then -e else e, rest)
    else none
  | [] => none

/-- The digits of a fraction after its point. -/
def readFraction : List Char → Option (List Nat × List Char)
  | '.' :: rest => readDigits digit? rest
  | _ => none

/-- A number with a fraction or an exponent. -/
def readDecimal (cs : List Char) : Option (Setting × List Char) := do
  let (minus, cs) := readSign cs
  let (whole, cs) ← readWhole cs
  let (fraction, e, rest) ←
    match readFraction cs with
    | some (fraction, cs) =>
      match readExponent cs with
      | some (e, rest) => some (fraction, e, rest)
      | none => some (fraction, 0, cs)
    | none => (readExponent cs).map fun r => ([], r.1, r.2)
  let n := digitsValue 10 (whole ++ fraction)
  if minus || isFinite n (e - fraction.length) then some (.other, rest) else none

/-- One of the words for a number that is not finite. -/
def readSpecial (cs : List Char) : Option (Setting × List Char) :=
  match (readSign cs).2 with
  | 'i' :: 'n' :: 'f' :: rest => some (.other, rest)
  | 'n' :: 'a' :: 'n' :: rest => some (.other, rest)
  | _ => none

/-- A number of exactly `k` decimal digits between two bounds. -/
def readCount (k low high : Nat) (cs : List Char) : Option (Nat × List Char) := do
  let ds ← (cs.take k).mapM digit?
  let n := digitsValue 10 ds
  if ds.length = k ∧ low ≤ n ∧ n ≤ high then some (n, cs.drop k) else none

/-- The characters behind a given one. -/
def after? (c : Char) : List Char → Option (List Char)
  | [] => none
  | d :: rest => if c = d then some rest else none

/-- The number of days of a month. -/
def daysOf (year month : Nat) : Nat :=
  if month = 2 then
    if year % 4 = 0 ∧ (year % 100 ≠ 0 ∨ year % 400 = 0) then 29 else 28
  else if month = 4 ∨ month = 6 ∨ month = 9 ∨ month = 11 then 30
  else 31

/-- A day of the calendar. -/
def readDay (cs : List Char) : Option (List Char) := do
  let (year, cs) ← readCount 4 0 9999 cs
  let (month, cs) ← readCount 2 1 12 (← after? '-' cs)
  let (_, cs) ← readCount 2 1 (daysOf year month) (← after? '-' cs)
  some cs

/-- A time of the day, with a leap second and a fraction allowed. -/
def readTime (cs : List Char) : Option (List Char) := do
  let (_, cs) ← readCount 2 0 23 cs
  let (_, cs) ← readCount 2 0 59 (← after? ':' cs)
  let (_, cs) ← readCount 2 0 60 (← after? ':' cs)
  match cs with
  | '.' :: rest =>
    if (rest.takeWhile fun c => (digit? c).isSome).isEmpty then some cs
    else some (rest.dropWhile fun c => (digit? c).isSome)
  | _ => some cs

/-- The offset of a time, which may be missing. -/
def readOffset (cs : List Char) : Option (List Char) :=
  match cs with
  | 'Z' :: rest | 'z' :: rest => some rest
  | c :: rest =>
    if c = '+' ∨ c = '-' then do
      let (_, cs) ← readCount 2 0 23 rest
      let (_, cs) ← readCount 2 0 59 (← after? ':' cs)
      some cs
    else some cs
  | [] => some []

/-- A time after a day, which may be missing; after a blank it may be something else. -/
def readTimeAfterDay (cs : List Char) : Option (List Char) :=
  match cs with
  | c :: rest =>
    if c = 'T' ∨ c = 't' ∨ c = ' ' then
      match readTime rest with
      | some rest => readOffset rest
      | none => some cs
    else some cs
  | [] => some []

/-- Whether the characters start like a date: four digits and a hyphen. -/
def startsDay (cs : List Char) : Bool := (readCount 4 0 9999 cs).any fun r => r.2.head? == some '-'

/-- Whether the characters start like a time: two digits and a colon. -/
def startsTime (cs : List Char) : Bool := (readCount 2 0 23 cs).any fun r => r.2.head? == some ':'

/-- A date, a time, or both. -/
def readDate (cs : List Char) : Option (Setting × List Char) := do
  let rest ← if startsDay cs then (readDay cs).bind readTimeAfterDay else readTime cs
  some (.date, rest)

/-- A number or a date. -/
def readNumber (cs : List Char) : Option (Setting × List Char) :=
  if startsDay cs || startsTime cs then readDate cs
  else
    match readDecimal cs with
    | some r => some r
    | none =>
      match readSpecial cs with
      | some r => some r
      | none => readInteger cs

end AbiBindings.Toml
