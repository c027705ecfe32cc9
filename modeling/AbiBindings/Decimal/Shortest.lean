/-!
# Shortest decimal digits

The fewest decimal digits that read back as a given double-precision number, in exact arithmetic.
A finite positive number is `m * 2 ^ q`; the decimals that round to it form an interval, with its
ends when `m` is even. For each count of digits from one on, the two neighbours of the number on
that decimal grid are tried, and the nearer one inside the interval wins; an exact tie goes to the
even digit.

* `Decimal.ofBits`: sign, significand and binary exponent of the bits of a finite number.
* `Decimal.shortest`: the digits `d` and the exponent `k` of the decimal `d * 10 ^ k`.
-/

namespace AbiBindings.Decimal

/-- A nonnegative fraction. -/
structure Ratio where
  num : Nat
  den : Nat

/-- The fraction `n * 2 ^ e`. -/
def Ratio.scale2 (n : Nat) (e : Int) : Ratio :=
  if e ≥ 0 then ⟨n * Nat.pow 2 e.toNat, 1⟩ else ⟨n, Nat.pow 2 (-e).toNat⟩

/-- The fraction `n * 10 ^ e`. -/
def Ratio.scale10 (n : Nat) (e : Int) : Ratio :=
  if e ≥ 0 then ⟨n * Nat.pow 10 e.toNat, 1⟩ else ⟨n, Nat.pow 10 (-e).toNat⟩

/-- Whether one fraction is below another. -/
def Ratio.lt (a b : Ratio) : Bool := a.num * b.den < b.num * a.den

/-- Whether one fraction is at most another. -/
def Ratio.le (a b : Ratio) : Bool := a.num * b.den ≤ b.num * a.den

/-- The distance of two fractions. -/
def Ratio.dist (a b : Ratio) : Ratio :=
  let x := a.num * b.den
  let y := b.num * a.den
  ⟨(x - y) + (y - x), a.den * b.den⟩

/-- The whole part of a quotient of two fractions. -/
def Ratio.floorDiv (a b : Ratio) : Nat := (a.num * b.den) / (a.den * b.num)

/-- A finite number: its sign and `significand * 2 ^ exponent`. -/
structure Binary where
  negative : Bool
  significand : Nat
  exponent : Int
  /-- Whether the number below lies at half the distance of the number above. -/
  closerBelow : Bool

/-- The number that the bits of a finite double-precision number stand for. -/
def ofBits (bits : UInt64) : Binary :=
  let n := bits.toNat
  let hidden := Nat.pow 2 52
  let fraction := n % hidden
  let biased := n / hidden % 2048
  let negative := UInt64.size / 2 ≤ n
  if biased = 0 then ⟨negative, fraction, -1074, false⟩
  else ⟨negative, hidden + fraction, (biased : Int) - 1075, fraction == 0 && biased > 1⟩

/-- The decimals that read back as a number. -/
structure Interval where
  low : Ratio
  value : Ratio
  high : Ratio
  closed : Bool

/-- The decimals that read back as a positive number. -/
def Binary.interval (b : Binary) : Interval where
  low := Ratio.scale2 (4 * b.significand - (if b.closerBelow then 1 else 2)) (b.exponent - 2)
  value := Ratio.scale2 (4 * b.significand) (b.exponent - 2)
  high := Ratio.scale2 (4 * b.significand + 2) (b.exponent - 2)
  closed := b.significand % 2 == 0

/-- Whether a decimal reads back as the number. -/
def Interval.holds (i : Interval) (x : Ratio) : Bool :=
  if i.closed then i.low.le x && x.le i.high else i.low.lt x && x.lt i.high

/-- The largest `e`, from `top` downwards in at most `fuel` steps, with `10 ^ e` at most `x`. -/
def magnitude (x : Ratio) : Nat → Int → Int
  | 0, top => top
  | fuel + 1, top =>
    if (Ratio.scale10 1 top).le x then top else magnitude x fuel (top - 1)

/-- The nearer neighbour of the number among the multiples of `10 ^ k` that read back as it. -/
def onGrid? (i : Interval) (k : Int) : Option Nat :=
  let d := i.value.floorDiv (Ratio.scale10 1 k)
  let below := Ratio.scale10 d k
  let above := Ratio.scale10 (d + 1) k
  let below? := d > 0 && i.holds below
  let above? := i.holds above
  if below? && above? then
    let down := i.value.dist below
    let up := i.value.dist above
    if down.lt up then some d else if up.lt down then some (d + 1)
    else some (if d % 2 = 0 then d else d + 1)
  else if below? then some d
  else if above? then some (d + 1)
  else none

/-- The first grid, from exponent `k` downwards, that has a decimal for the number. -/
def search (i : Interval) : Nat → Int → Nat × Int
  | 0, k => (i.value.floorDiv (Ratio.scale10 1 k), k)
  | fuel + 1, k =>
    match onGrid? i k with
    | some d => (d, k)
    | none => search i fuel (k - 1)

/-- Moves trailing zeros of the digits into the exponent. -/
def stripZeros : Nat → Nat → Int → Nat × Int
  | 0, d, k => (d, k)
  | fuel + 1, d, k => if d ≠ 0 ∧ d % 10 = 0 then stripZeros fuel (d / 10) (k + 1) else (d, k)

/-- The digits and the exponent of the shortest decimal of a positive number. -/
def shortest (b : Binary) : Nat × Int :=
  let i := b.interval
  let found := search i 17 (magnitude i.value 640 309)
  stripZeros 20 found.1 found.2

end AbiBindings.Decimal
