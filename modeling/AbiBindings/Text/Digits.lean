/-!
# Numbers in texts

* `natural?`: the number of a text of decimal digits, one plus sign before them allowed, below
  `2 ^ 64`; `naturalBelow?` is the same with another bound.
* `afterStart?`: the rest of a text after a given beginning.
-/

namespace AbiBindings.Text

/-- The value of a decimal digit. -/
def decimalDigit? (c : Char) : Option Nat :=
  if '0' ≤ c ∧ c ≤ '9' then some (c.toNat - 48) else none

/-- The number that digits spell after `n`. -/
def decimalFrom? (n : Nat) : List Char → Option Nat
  | [] => some n
  | c :: rest =>
    match decimalDigit? c with
    | some d => decimalFrom? (10 * n + d) rest
    | none => none

/-- The number of a text of digits below `limit`; a plus sign may come first. -/
def naturalBelow? (limit : Nat) (cs : List Char) : Option Nat :=
  let digits := match cs with
    | '+' :: rest => rest
    | _ => cs
  match digits with
  | [] => none
  | _ => (decimalFrom? 0 digits).filter (· < limit)

/-- The number of a text of digits below `2 ^ 64`. -/
def natural? (cs : List Char) : Option Nat := naturalBelow? UInt64.size cs

/-- The rest of a text after a given beginning. -/
def afterStart? : List Char → List Char → Option (List Char)
  | [], cs => some cs
  | a :: start, c :: cs => if a = c then afterStart? start cs else none
  | _ :: _, [] => none

end AbiBindings.Text
