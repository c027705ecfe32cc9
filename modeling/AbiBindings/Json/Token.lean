import AbiBindings.Json.Number

/-!
# Tokens of JSON texts

The lexical level of a JSON text.

* `Token.scan`: the tokens of a text, none if some character starts no token.
* `readText`: the characters of a text literal after its opening quote. An escaped surrogate that
  has no partner makes the text faulty, a raw control character or a bad escape ends the reading.
* `readNumber`: the parts of a number literal.
-/

namespace AbiBindings.Json

/-- A token; a faulty text literal has none for its text. -/
inductive Token where
  | openArray
  | closeArray
  | openObject
  | closeObject
  | comma
  | colon
  | null
  | bool (b : Bool)
  | text (s : Option String)
  | number (l : Literal)
  deriving Repr, DecidableEq

/-- White space between tokens. -/
def isSpace (c : Char) : Bool := c = ' ' || c = '\n' || c = '\t' || c = '\r'

/-- The value of a hexadecimal digit. -/
def hexValue? (c : Char) : Option Nat :=
  if '0' ≤ c ∧ c ≤ '9' then some (c.toNat - 48)
  else if 'a' ≤ c ∧ c ≤ 'f' then some (c.toNat - 87)
  else if 'A' ≤ c ∧ c ≤ 'F' then some (c.toNat - 55)
  else none

/-- The number of four hexadecimal digits. -/
def hexUnit? (a b c d : Char) : Option Nat := do
  let a ← hexValue? a
  let b ← hexValue? b
  let c ← hexValue? c
  let d ← hexValue? d
  some (((a * 16 + b) * 16 + c) * 16 + d)

/-- A piece of a text literal: a character, or a 16-bit unit written by number. -/
inductive Piece where
  | char (c : Char)
  | unit (n : Nat)
  deriving Repr, DecidableEq

/-- The character of a short escape. -/
def shortEscape? (c : Char) : Option Char :=
  match c with
  | '"' => some '"'
  | '\\' => some '\\'
  | '/' => some '/'
  | 'b' => some '\x08'
  | 'f' => some '\x0c'
  | 'n' => some '\n'
  | 'r' => some '\r'
  | 't' => some '\t'
  | _ => none

/-- The pieces up to the closing quote, and what follows it. -/
def readPieces : List Char → Option (List Piece × List Char)
  | [] => none
  | '"' :: rest => some ([], rest)
  | '\\' :: 'u' :: a :: b :: c :: d :: rest => do
    let n ← hexUnit? a b c d
    let (pieces, rest) ← readPieces rest
    some (.unit n :: pieces, rest)
  | '\\' :: e :: rest => do
    let c ← shortEscape? e
    let (pieces, rest) ← readPieces rest
    some (.char c :: pieces, rest)
  | c :: rest =>
    if c.toNat < 0x20 ∨ c = '\\' then none
    else do
      let (pieces, rest) ← readPieces rest
      some (.char c :: pieces, rest)

/-- The characters that pieces stand for, none at a surrogate without partner. -/
def joinPieces : List Piece → Option (List Char)
  | [] => some []
  | .char c :: rest => (joinPieces rest).map (c :: ·)
  | [.unit n] => if 0xd800 ≤ n ∧ n ≤ 0xdfff then none else some [Char.ofNat n]
  | .unit n :: .char c :: rest =>
    if 0xd800 ≤ n ∧ n ≤ 0xdfff then none
    else (joinPieces rest).map (Char.ofNat n :: c :: ·)
  | .unit n :: .unit m :: rest =>
    if 0xd800 ≤ n ∧ n ≤ 0xdbff then
      if 0xdc00 ≤ m ∧ m ≤ 0xdfff then
        (joinPieces rest).map
          (Char.ofNat ((n - 0xd800) * 0x400 + (m - 0xdc00) + 0x10000) :: ·)
      else none
    else if 0xdc00 ≤ n ∧ n ≤ 0xdfff then none
    else (joinPieces (.unit m :: rest)).map (Char.ofNat n :: ·)

/-- The text up to the closing quote, none inside if it is faulty, and what follows it. -/
def readText (cs : List Char) : Option (Option String × List Char) :=
  (readPieces cs).map fun r => ((joinPieces r.1).map String.ofList, r.2)

/-- Whether a character is a decimal digit. -/
def isDigit (c : Char) : Bool := '0' ≤ c && c ≤ '9'

/-- The value of a decimal digit. -/
def digitValue (c : Char) : Nat := c.toNat - 48

/-- The digits at the front, and what follows them. -/
def spanDigits (cs : List Char) : List Nat × List Char :=
  ((cs.takeWhile isDigit).map digitValue, cs.dropWhile isDigit)

/-- The whole part: a zero, or digits that start with none. -/
def readWhole : List Char → Option (List Nat × List Char)
  | '0' :: rest => some ([0], rest)
  | cs =>
    match spanDigits cs with
    | ([], _) => none
    | r => some r

/-- The fraction after a point, if there is one. -/
def readFraction : List Char → Option (Option (List Nat) × List Char)
  | '.' :: rest =>
    match spanDigits rest with
    | ([], _) => none
    | (ds, rest) => some (some ds, rest)
  | cs => some (none, cs)

/-- The sign of an exponent, true if it is negative. -/
def readExponentSign : List Char → Bool × List Char
  | '-' :: rest => (true, rest)
  | '+' :: rest => (false, rest)
  | cs => (false, cs)

/-- The exponent after its letter, if there is one. -/
def readExponent : List Char → Option (Option (Bool × List Nat) × List Char)
  | [] => some (none, [])
  | c :: rest =>
    if c = 'e' ∨ c = 'E' then
      let (down, rest) := readExponentSign rest
      match spanDigits rest with
      | ([], _) => none
      | (ds, rest) => some (some (down, ds), rest)
    else some (none, c :: rest)

/-- A number literal after its sign. -/
def readUnsigned (minus : Bool) (cs : List Char) : Option (Literal × List Char) := do
  let (whole, cs) ← readWhole cs
  let (fraction, cs) ← readFraction cs
  let (exponent, cs) ← readExponent cs
  some (⟨minus, whole, fraction, exponent⟩, cs)

/-- A number literal. -/
def readNumber : List Char → Option (Literal × List Char)
  | '-' :: rest => readUnsigned true rest
  | cs => readUnsigned false cs

/-- The token at the front of a text that does not start with white space. -/
def readToken : List Char → Option (Token × List Char)
  | '[' :: rest => some (.openArray, rest)
  | ']' :: rest => some (.closeArray, rest)
  | '\x7b' :: rest => some (.openObject, rest)
  | '\x7d' :: rest => some (.closeObject, rest)
  | ',' :: rest => some (.comma, rest)
  | ':' :: rest => some (.colon, rest)
  | '"' :: rest => (readText rest).map fun r => (.text r.1, r.2)
  | 'n' :: 'u' :: 'l' :: 'l' :: rest => some (.null, rest)
  | 't' :: 'r' :: 'u' :: 'e' :: rest => some (.bool true, rest)
  | 'f' :: 'a' :: 'l' :: 's' :: 'e' :: rest => some (.bool false, rest)
  | cs => (readNumber cs).map fun r => (.number r.1, r.2)

/-- At most `fuel` tokens of a text. -/
def scanWith : Nat → List Char → Option (List Token)
  | 0, cs => if cs.all isSpace then some [] else none
  | fuel + 1, cs =>
    match cs.dropWhile isSpace with
    | [] => some []
    | cs => do
      let (token, rest) ← readToken cs
      let tokens ← scanWith fuel rest
      some (token :: tokens)

/-- The tokens of a text; every token takes at least one character. -/
def Token.scan (s : String) : Option (List Token) :=
  let cs := s.toList
  scanWith cs.length cs

end AbiBindings.Json
