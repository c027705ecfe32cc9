/-!
# Characters and texts of TOML

The lexical level of a TOML text. A reader takes what it needs from the front of the characters and
returns the rest; it fails if nothing that it reads stands there.

* `readQuoted`: a text in single or double quotes, on one line or over several.
* `readKey`: a key, the parts of which are joined by points.
* `skipLines`: blanks, comments and line breaks.
-/

namespace AbiBindings.Toml

/-- A blank inside a line. -/
def isBlank (c : Char) : Bool := c = ' ' || c = '\t'

/-- Whether a character may stand in a comment or a text. -/
def isPlain (c : Char) : Bool := c = '\t' || (0x20 ≤ c.toNat && c.toNat ≠ 0x7f)

/-- The characters behind the blanks. -/
def skipBlanks (cs : List Char) : List Char := cs.dropWhile isBlank

/-- The characters behind a line break. -/
def lineBreak? : List Char → Option (List Char)
  | '\n' :: rest => some rest
  | '\r' :: '\n' :: rest => some rest
  | _ => none

/-- The characters behind a comment, which may be missing. -/
def skipComment : List Char → List Char
  | '#' :: rest => rest.dropWhile isPlain
  | cs => cs

/-- The characters behind the blanks, a comment and the end of the line. -/
def endOfLine? (cs : List Char) : Option (List Char) :=
  match skipComment (skipBlanks cs) with
  | [] => some []
  | cs => lineBreak? cs

/-- The characters behind blanks, comments and line breaks, at most `fuel` of these. -/
def skipLinesWith : Nat → List Char → List Char
  | 0, cs => cs
  | fuel + 1, cs =>
    let cs := skipBlanks cs
    match cs with
    | '#' :: _ =>
      match lineBreak? (skipComment cs) with
      | some rest => skipLinesWith fuel rest
      | none => cs
    | _ =>
      match lineBreak? cs with
      | some rest => skipLinesWith fuel rest
      | none => cs

/-- The characters behind blanks, comments and line breaks. -/
def skipLines (cs : List Char) : List Char := skipLinesWith cs.length cs

/-- The value of a hexadecimal digit. -/
def hexValue? (c : Char) : Option Nat :=
  if '0' ≤ c ∧ c ≤ '9' then some (c.toNat - 48)
  else if 'a' ≤ c ∧ c ≤ 'f' then some (c.toNat - 87)
  else if 'A' ≤ c ∧ c ≤ 'F' then some (c.toNat - 55)
  else none

/-- The number of exactly `k` hexadecimal digits after `n`. -/
def hexNumber? : Nat → Nat → List Char → Option (Nat × List Char)
  | 0, n, cs => some (n, cs)
  | _ + 1, _, [] => none
  | k + 1, n, c :: rest => do
    let d ← hexValue? c
    hexNumber? k (16 * n + d) rest

/-- The character of a code point. -/
def charOfCode? (n : Nat) : Option Char :=
  if n.isValidChar then some (Char.ofNat n) else none

/-- The character of an escape after its backslash. -/
def readEscape : List Char → Option (Char × List Char)
  | 'b' :: rest => some ('\x08', rest)
  | 't' :: rest => some ('\t', rest)
  | 'n' :: rest => some ('\n', rest)
  | 'f' :: rest => some ('\x0c', rest)
  | 'r' :: rest => some ('\r', rest)
  | '"' :: rest => some ('"', rest)
  | '\\' :: rest => some ('\\', rest)
  | 'u' :: rest => do
    let (n, rest) ← hexNumber? 4 0 rest
    some (← charOfCode? n, rest)
  | 'U' :: rest => do
    let (n, rest) ← hexNumber? 8 0 rest
    some (← charOfCode? n, rest)
  | _ => none

/-- The rest of a text in double quotes on one line. -/
def readBasic : Nat → List Char → Option (List Char × List Char)
  | 0, _ => none
  | _ + 1, [] => none
  | fuel + 1, c :: rest =>
    if c = '"' then some ([], rest)
    else if c = '\\' then do
      let (c, rest) ← readEscape rest
      let (cs, rest) ← readBasic fuel rest
      some (c :: cs, rest)
    else if isPlain c then do
      let (cs, rest) ← readBasic fuel rest
      some (c :: cs, rest)
    else none

/-- The rest of a text in single quotes on one line. -/
def readLiteral : List Char → Option (List Char × List Char)
  | [] => none
  | c :: rest =>
    if c = '\'' then some ([], rest)
    else if isPlain c then do
      let (cs, rest) ← readLiteral rest
      some (c :: cs, rest)
    else none

/-- The characters behind a backslash at the end of a line: everything up to the next character that
is neither blank nor line break. -/
def joinLine? (cs : List Char) : Option (List Char) := do
  let rest ← lineBreak? (skipBlanks cs)
  some (skipGap rest.length rest)
where
  /-- The characters behind blanks and line breaks. -/
  skipGap : Nat → List Char → List Char
    | 0, cs => cs
    | fuel + 1, cs =>
      match lineBreak? (skipBlanks cs) with
      | some rest => skipGap fuel rest
      | none => skipBlanks cs

/-- The end of a text over several lines at a run of quotes: two quotes more than the three that end
it belong to the text. None if the run is too short to end it. -/
def closing? (mark : Char) (cs : List Char) : Option (List Char × List Char) :=
  let run := (cs.takeWhile (· = mark)).length
  if run < 3 then none
  else
    let inside := min (run - 3) 2
    some (List.replicate inside mark, cs.drop (inside + 3))

/-- The rest of a text in double quotes over several lines. -/
def readLongBasic : Nat → List Char → Option (List Char × List Char)
  | 0, _ => none
  | _ + 1, [] => none
  | fuel + 1, c :: rest =>
    if c = '"' then
      match closing? '"' (c :: rest) with
      | some r => some r
      | none => do
        let (cs, rest) ← readLongBasic fuel rest
        some (c :: cs, rest)
    else if c = '\\' then
      match joinLine? rest with
      | some rest => readLongBasic fuel rest
      | none => do
        let (c, rest) ← readEscape rest
        let (cs, rest) ← readLongBasic fuel rest
        some (c :: cs, rest)
    else
      match lineBreak? (c :: rest) with
      | some rest => do
        let (cs, rest) ← readLongBasic fuel rest
        some ('\n' :: cs, rest)
      | none =>
        if isPlain c then do
          let (cs, rest) ← readLongBasic fuel rest
          some (c :: cs, rest)
        else none

/-- The rest of a text in single quotes over several lines. -/
def readLongLiteral : Nat → List Char → Option (List Char × List Char)
  | 0, _ => none
  | _ + 1, [] => none
  | fuel + 1, c :: rest =>
    if c = '\'' then
      match closing? '\'' (c :: rest) with
      | some r => some r
      | none => do
        let (cs, rest) ← readLongLiteral fuel rest
        some (c :: cs, rest)
    else
      match lineBreak? (c :: rest) with
      | some rest => do
        let (cs, rest) ← readLongLiteral fuel rest
        some ('\n' :: cs, rest)
      | none =>
        if isPlain c then do
          let (cs, rest) ← readLongLiteral fuel rest
          some (c :: cs, rest)
        else none

/-- The characters behind a line break that may be missing. -/
def skipFirstBreak (cs : List Char) : List Char := (lineBreak? cs).getD cs

/-- A text in quotes. -/
def readQuoted : List Char → Option (List Char × List Char)
  | '"' :: '"' :: '"' :: rest =>
    let rest := skipFirstBreak rest
    readLongBasic (rest.length + 1) rest
  | '\'' :: '\'' :: '\'' :: rest =>
    let rest := skipFirstBreak rest
    readLongLiteral (rest.length + 1) rest
  | '"' :: rest => readBasic (rest.length + 1) rest
  | '\'' :: rest => readLiteral rest
  | _ => none

/-- Whether a character may stand in a key without quotes. -/
def isBare (c : Char) : Bool :=
  ('a' ≤ c && c ≤ 'z') || ('A' ≤ c && c ≤ 'Z') || ('0' ≤ c && c ≤ '9') || c = '-' || c = '_'

/-- One part of a key. -/
def readKeyPart : List Char → Option (String × List Char)
  | '"' :: rest => (readBasic (rest.length + 1) rest).map fun r => (String.ofList r.1, r.2)
  | '\'' :: rest => (readLiteral rest).map fun r => (String.ofList r.1, r.2)
  | cs =>
    match cs.takeWhile isBare with
    | [] => none
    | name => some (String.ofList name, cs.dropWhile isBare)

/-- The parts of a key, at most `fuel`, and what follows the blanks behind it. -/
def readKeyWith : Nat → List Char → Option (List String × List Char)
  | 0, _ => none
  | fuel + 1, cs => do
    let (part, rest) ← readKeyPart (skipBlanks cs)
    match skipBlanks rest with
    | '.' :: rest => do
      let (parts, rest) ← readKeyWith fuel rest
      some (part :: parts, rest)
    | rest => some ([part], rest)

/-- The most parts that a key has. -/
def keyLimit : Nat := 79

/-- A key, and what follows the blanks behind it. -/
def readKey (cs : List Char) : Option (List String × List Char) := readKeyWith keyLimit cs

end AbiBindings.Toml
