import AbiBindings.Decimal.Shortest

/-!
# Numbers of JSON documents

A number is a natural number below `2 ^ 64`, a negative integer from `-2 ^ 63` on, or a
double-precision number given by its bits. A literal without fraction and exponent is an integer
where one of the first two fits; minus zero and everything else is double-precision.

* `Number.ofLiteral?`: the number of a literal, none when it is too large for double precision. The
  significand is cut to 64 bits and scaled by one rounded power of ten.
* `Number.render`: its text; double-precision numbers have the fewest digits that read back, a
  point or an exponent, and are positional from `1e-5` up to `1e16`.
-/

namespace AbiBindings.Json

/-- A number of a document. -/
inductive Number where
  | natural (n : UInt64)
  /-- The integer `-(n + 1)`. -/
  | negative (n : UInt64)
  /-- A double-precision number by its bits. -/
  | float (bits : UInt64)
  deriving Repr, DecidableEq, Inhabited

/-- The parts of a number literal; an absent fraction or exponent is none. -/
structure Literal where
  minus : Bool
  whole : List Nat
  fraction : Option (List Nat)
  /-- Whether the exponent is negative, and its digits. -/
  exponent : Option (Bool × List Nat)
  deriving Repr, DecidableEq

/-- A significand of at most 64 bits with a power of ten. -/
structure Scaled where
  significand : Nat
  exponent : Int

/-- Takes in digits while 64 bits suffice; returns the rest. -/
def takeDigits (significand : Nat) : List Nat → Nat × List Nat
  | [] => (significand, [])
  | d :: rest =>
    if significand * 10 + d < UInt64.size then takeDigits (significand * 10 + d) rest
    else (significand, d :: rest)

/-- The significand of a literal: whole digits that do not fit only raise the power of ten, and
fraction digits that do not fit are dropped. -/
def Literal.scaled (l : Literal) : Scaled :=
  let (whole, dropped) := takeDigits 0 l.whole
  let digits := l.fraction.getD []
  let (significand, cut) := takeDigits whole digits
  ⟨significand, (dropped.length : Int) - ((digits.length - cut.length : Nat) : Int)⟩

/-- The number that digits spell. -/
def digitsValue (ds : List Nat) : Nat := ds.foldl (fun n d => 10 * n + d) 0

/-- A power of ten in double precision. -/
def powerOfTen (k : Nat) : Float := Float.ofScientific 1 false k

/-- `f * 10 ^ e` in double precision, none when it overflows. -/
def scaleFloat? : Nat → Float → Int → Option Float
  | 0, f, _ => some f
  | fuel + 1, f, e =>
    if e.natAbs ≤ 308 then
      if e ≥ 0 then
        let scaled := f * powerOfTen e.toNat
        if scaled.isInf then none else some scaled
      else some (f / powerOfTen e.natAbs)
    else if f == 0.0 then some f
    else if e ≥ 0 then none
    else scaleFloat? fuel (f / powerOfTen 308) (e + 308)

/-- The double-precision number of a significand and a power of ten. -/
def Scaled.toFloat? (s : Scaled) (minus : Bool) : Option Number :=
  (scaleFloat? 4 (UInt64.ofNat s.significand).toFloat s.exponent).map fun f =>
    .float (if minus then -f else f).toBits

/-- The number of a literal, none when it is too large. -/
def Number.ofLiteral? (l : Literal) : Option Number :=
  match l.fraction, l.exponent with
  | none, none =>
    let n := digitsValue l.whole
    if l.minus then
      if 0 < n ∧ n ≤ UInt64.size / 2 then some (.negative (UInt64.ofNat (n - 1)))
      else l.scaled.toFloat? true
    else if n < UInt64.size then some (.natural (UInt64.ofNat n))
    else l.scaled.toFloat? false
  | _, none => l.scaled.toFloat? l.minus
  | _, some (down, ds) =>
    let s := l.scaled
    let e := digitsValue ds
    if e < UInt32.size / 2 then
      let e : Int := if down then -(e : Int) else e
      Scaled.toFloat? ⟨s.significand, s.exponent + e⟩ l.minus
    else if s.significand ≠ 0 ∧ ¬ down then none
    else Scaled.toFloat? ⟨0, 0⟩ l.minus

/-- The decimal digits of a number. -/
def decimalDigits (n : Nat) : List Char := Nat.toDigits 10 n

/-- The text of a positive decimal `d * 10 ^ k` with a point or an exponent. -/
def renderDecimal (d : Nat) (k : Int) : List Char :=
  let ds := decimalDigits d
  let length : Int := ds.length
  let point := length + k
  if 0 ≤ k ∧ point ≤ 16 then ds ++ List.replicate k.toNat '0' ++ ['.', '0']
  else if 0 < point ∧ point ≤ 16 then ds.take point.toNat ++ '.' :: ds.drop point.toNat
  else if -5 < point ∧ point ≤ 0 then '0' :: '.' :: List.replicate (-point).toNat '0' ++ ds
  else
    let e := point - 1
    let exponent := (if e < 0 then ['-'] else []) ++ decimalDigits e.natAbs
    match ds with
    | [c] => c :: 'e' :: exponent
    | c :: rest => c :: '.' :: rest ++ 'e' :: exponent
    | [] => []

/-- The text of a finite double-precision number. -/
def renderFloat (bits : UInt64) : List Char :=
  let b := Decimal.ofBits bits
  let sign := if b.negative then ['-'] else []
  if b.significand = 0 then sign ++ ['0', '.', '0']
  else
    let (d, k) := Decimal.shortest b
    sign ++ renderDecimal d k

/-- The text of a number. -/
def Number.render : Number → List Char
  | .natural n => decimalDigits n.toNat
  | .negative n => '-' :: decimalDigits (n.toNat + 1)
  | .float bits => renderFloat bits

end AbiBindings.Json
