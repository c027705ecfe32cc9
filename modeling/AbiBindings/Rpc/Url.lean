import AbiBindings.Bytes.Hex
import AbiBindings.Bytes.Utf8
import AbiBindings.Text.Digits

/-!
# Addresses of nodes

The address of a node that is reached over HTTP: a host, the number of the service on it if that is
not the usual one, and a path with what follows it. User and password before the host are dropped.

* `Url.parse?`: the address in a text, none if the host or the number is not well-formed.
* `Host.parse?`: a host, which is a name, or four or sixteen bytes.
* `Url.text`: the address as a text.
-/

namespace AbiBindings.Rpc

/-- Where a node runs. -/
inductive Host where
  | name (name : List Char)
  /-- Four bytes as one number. -/
  | short (address : Nat)
  /-- Sixteen bytes as eight numbers of two bytes. -/
  | long (pieces : List Nat)
  deriving Repr, DecidableEq

/-- The address of a node. -/
structure Url where
  isSecure : Bool
  host : Host
  /-- The number of the service on the host, if it is not the usual one. -/
  service? : Option Nat
  /-- The path and what follows it. -/
  path : List Char
  deriving Repr, DecidableEq

/-- The pieces of a text between separators. -/
def splitAt (separator : Char) : List Char → List (List Char)
  | [] => [[]]
  | c :: rest =>
    if c = separator then [] :: splitAt separator rest
    else
      match splitAt separator rest with
      | [] => [[c]]
      | piece :: more => (c :: piece) :: more

/-! ## Hosts of four bytes -/

/-- The value of a digit. -/
def digitOf? (c : Char) : Option Nat :=
  if c.toNat < 128 then Hex.digitValue? (UInt8.ofNat c.toNat) else none

/-- The number that digits of a base spell. -/
def inBase? (base : Nat) (cs : List Char) : Option Nat :=
  cs.foldlM (fun n c => ((digitOf? c).filter (· < base)).map (base * n + ·)) 0

/-- The number of a part: sixteen is the base after `0x`, eight after another zero, ten otherwise.
-/
def partNumber? (cs : List Char) : Option Nat :=
  match cs with
  | [] => none
  | '0' :: 'x' :: digits | '0' :: 'X' :: digits => inBase? 16 digits
  | ['0'] => some 0
  | '0' :: digits => inBase? 8 digits
  | _ => inBase? 10 cs

/-- The parts of a host between points, an empty one at its end left out. -/
def parts (cs : List Char) : List (List Char) :=
  match (splitAt '.' cs).reverse with
  | [] :: a :: rest => (a :: rest).reverse
  | reversed => reversed.reverse

/-- Whether the last part is a number, which only addresses may have. -/
def endsInNumber (cs : List Char) : Bool :=
  match (parts cs).getLast? with
  | some part =>
    (!part.isEmpty && part.all fun c => (Text.decimalDigit? c).isSome) || (partNumber? part).isSome
  | none => false

/-- The address that the numbers of its parts make up; the last one fills the bytes that are left.
-/
def joinParts? : Nat → List Nat → Option Nat
  | _, [] => none
  | count, [last] => if last < Nat.pow 256 count then some last else none
  | count, n :: rest => do
    let low ← joinParts? (count - 1) rest
    if n < 256 then some (n * Nat.pow 256 (count - 1) + low) else none

/-- An address of four bytes. -/
def short? (cs : List Char) : Option Nat :=
  let ps := parts cs
  if 4 < ps.length then none else (ps.mapM partNumber?).bind (joinParts? 4)

/-! ## Hosts of sixteen bytes -/

/-- A piece of one to four digits. -/
def piece? (cs : List Char) : Option Nat :=
  if cs.isEmpty || 4 < cs.length then none else inBase? 16 cs

/-- A byte in decimal digits without leading zeros. -/
def byte? (cs : List Char) : Option Nat :=
  match cs with
  | ['0'] => some 0
  | '0' :: _ | [] => none
  | _ => (inBase? 10 cs).filter (· < 256)

/-- The last piece, which may also be four bytes between points, two pieces then. -/
def lastPiece? (cs : List Char) : Option (List Nat) :=
  if cs.contains '.' then do
    match ← (splitAt '.' cs).mapM byte? with
    | [a, b, c, d] => some [256 * a + b, 256 * c + d]
    | _ => none
  else (piece? cs).map ([·])

/-- The pieces of a text between colons. -/
def pieces? : List (List Char) → Option (List Nat)
  | [] => none
  | [last] => lastPiece? last
  | p :: rest => do some ((← piece? p) :: (← pieces? rest))

/-- The pieces of a text that may be empty. -/
def side? (cs : List Char) : Option (List Nat) :=
  if cs.isEmpty then some [] else pieces? (splitAt ':' cs)

/-- The texts before and after the first two colons that stand together. -/
def atGap? : List Char → Option (List Char × List Char)
  | ':' :: ':' :: rest => some ([], rest)
  | c :: rest => (atGap? rest).map fun (before, after) => (c :: before, after)
  | [] => none

/-- An address of sixteen bytes; two colons together stand for at least one piece that is zero. -/
def long? (cs : List Char) : Option (List Nat) :=
  match atGap? cs with
  | none => (side? cs).filter (·.length = 8)
  | some (before, after) => do
    if before.contains '.' then none
    else
      let front ← side? before
      let back ← side? after
      if front.length + back.length < 8 then
        some (front ++ List.replicate (8 - front.length - back.length) 0 ++ back)
      else none

/-! ## Hosts -/

/-- The byte that a percent sign and two digits stand for. -/
def escaped? (sign high low : UInt8) : Option UInt8 := do
  if sign = 0x25 then
    some (UInt8.ofNat (16 * (← Hex.digitValue? high) + (← Hex.digitValue? low)))
  else none

/-- The bytes of a text in which a percent sign stands before two digits of a byte. -/
def unescape : Bytes → Bytes
  | sign :: high :: low :: rest =>
    match escaped? sign high low with
    | some b => b :: unescape rest
    | none => sign :: unescape (high :: low :: rest)
  | rest => rest

/-- Whether a character may not stand in a name. -/
def isForbidden (c : Char) : Bool :=
  c.toNat < 0x21 || c.toNat = 0x7f ||
    ['#', '%', '/', ':', '<', '>', '?', '@', '[', '\\', ']', '^', '|'].contains c

/-- A host. -/
def Host.parse? (cs : List Char) : Option Host :=
  match cs with
  | '[' :: rest =>
    match rest.reverse with
    | ']' :: inside => (long? inside.reverse).map .long
    | _ => none
  | _ => do
    let name ← utf8? (unescape (utf8 (String.ofList cs)))
    let name := name.toList.map Char.toLower
    if name.isEmpty || name.any isForbidden || name.contains '\ufffd' then none
    else if endsInNumber name then (short? name).map .short
    else some (.name name)

/-! ## Addresses -/

/-- Whether a character is dropped wherever it stands. -/
def isDropped (c : Char) : Bool := c = '\t' || c = '\n' || c = '\r'

/-- Whether a character is dropped at both ends. -/
def isOuterBlank (c : Char) : Bool := c.toNat ≤ 0x20

/-- A text without the characters that are dropped. -/
def clean (cs : List Char) : List Char :=
  ((((cs.dropWhile isOuterBlank).reverse).dropWhile isOuterBlank).reverse).filter (!isDropped ·)

/-- Whether a character ends the part with the host. -/
def endsHost (c : Char) : Bool := c = '/' || c = '\\' || c = '?' || c = '#'

/-- The text after the last sign `@`. -/
def afterUser (cs : List Char) : List Char := (cs.reverse.takeWhile (· ≠ '@')).reverse

/-- A host and the text after the colon behind it, if there is one; inside brackets a colon is part
of the host. -/
def cutService (isInside : Bool) : List Char → List Char × Option (List Char)
  | [] => ([], none)
  | c :: rest =>
    if c = ':' && !isInside then ([], some rest)
    else
      let (host, number) := cutService (c = '[' || (isInside && c ≠ ']')) rest
      (c :: host, number)

/-- The number of a service, none if there is no text for it. -/
def serviceOf? (cs : List Char) : Option (Option Nat) :=
  match cs with
  | [] => some none
  | _ => ((inBase? 10 cs).filter (· < UInt16.size)).map some

/-- The scheme of a text, and the text after it. -/
def scheme? (cs : List Char) : Option (Bool × List Char) :=
  match Text.afterStart? ['h', 't', 't', 'p', ':'] cs with
  | some rest => some (false, rest)
  | none => (Text.afterStart? ['h', 't', 't', 'p', 's', ':'] cs).map (true, ·)

/-- The number of the usual service of a scheme. -/
def usualService (isSecure : Bool) : Nat := if isSecure then 443 else 80

/-- The path with a slash at its start. -/
def rooted (cs : List Char) : List Char :=
  match cs with
  | '/' :: _ => cs
  | '\\' :: rest => '/' :: rest
  | _ => '/' :: cs

/-- The address of a node. -/
def Url.parse? (s : String) : Option Url := do
  let (isSecure, rest) ← scheme? (clean s.toList)
  let rest := rest.dropWhile fun c => c = '/' || c = '\\'
  let (host, number) := cutService false (afterUser (rest.takeWhile (!endsHost ·)))
  let host ← Host.parse? host
  let number? ← serviceOf? (number.getD [])
  some {
    isSecure := isSecure
    host := host
    service? := number?.filter (· ≠ usualService isSecure)
    path := rooted (rest.dropWhile (!endsHost ·)) }

/-! ## Writing -/

/-- The number of zeros at the start. -/
def zeroRun (pieces : List Nat) : Nat := (pieces.takeWhile (· = 0)).length

/-- The longest run of two or more zeros: the pieces before it, and its length; the first of
several. -/
def gap (pieces : List Nat) : Nat × Nat :=
  (List.range pieces.length).foldl (fun best i =>
    let run := zeroRun (pieces.drop i)
    if max 1 best.2 < run then (i, run) else best) (0, 0)

/-- Pieces between colons. -/
def colons (pieces : List Nat) : String :=
  ":".intercalate (pieces.map fun n => String.ofList (Nat.toDigits 16 n))

/-- The text of a host. -/
def Host.text : Host → String
  | .name cs => String.ofList cs
  | .short n =>
    ".".intercalate ((natBytes 4 n).map fun b => toString b.toNat)
  | .long pieces =>
    match gap pieces with
    | (_, 0) => "[" ++ colons pieces ++ "]"
    | (before, count) =>
      "[" ++ colons (pieces.take before) ++ "::" ++ colons (pieces.drop (before + count)) ++ "]"

/-- The text of an address. -/
def Url.text (u : Url) : String :=
  let service := match u.service? with
    | some n => ":" ++ toString n
    | none => ""
  (if u.isSecure then "https://" else "http://") ++ u.host.text ++ service ++ String.ofList u.path

end AbiBindings.Rpc
