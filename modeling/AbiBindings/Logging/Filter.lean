import AbiBindings.Error
import AbiBindings.Text.Case
import AbiBindings.Text.Digits
import AbiBindings.Text.Letters

/-!
# Log filters

A log filter is a list of directives with commas between them. A directive is a level, a target, or
a target with `=` and a level; a target may be followed by a span in brackets, which may name
fields in braces.

* `accepts`, `check`: whether a text is a log filter.
* `checkIn`: the check of the level in a configuration where an environment may have a filter too.
* `isLevel`: whether a text names a level.
* `next?`: how the reading of a directive goes on at a character.
-/

namespace AbiBindings.Logging.Filter

/-- The words for levels. -/
def levelWords : List String := ["error", "warn", "info", "debug", "trace", "off"]

/-- Whether a text names a level: nothing, a number up to five, or a word in any case. -/
def isLevel (cs : List Char) : Bool :=
  cs.isEmpty || (Text.natural? cs).any (· ≤ 5) ||
    levelWords.contains (String.ofList (cs.map Text.lowerAscii))

/-- What has been read of a directive. Positions are counted in bytes, from where the directive
starts without its blanks. -/
inductive State where
  | start
  | levelOrTarget
  | span
  /-- Inside a field that begins at a position. -/
  | field (begin_ : Nat)
  | fields
  | target
  /-- Inside a level that begins at a position. -/
  | level (begin_ : Nat)
  deriving Repr, DecidableEq

/-- How the reading of a directive goes on at a character that stands at a position. -/
def next? (s : State) (position : Nat) (c : Char) : Option State :=
  match s with
  | .start =>
    if c = '[' then some .span
    else if c = '-' ∨ c = ':' ∨ c = '_' ∨ Text.isLetterOrNumber c then some .levelOrTarget
    else none
  | .levelOrTarget =>
    if c = '=' then some (.level (position + 1))
    else if c = '[' then some .span
    else some .levelOrTarget
  | .span =>
    if c = ']' then some .target
    else if c = '\x7b' then some (.field (position + 1))
    else some .span
  | .field begin_ =>
    if c = '\x7d' then if begin_ = position then none else some .fields
    else some (.field begin_)
  | .fields => if c = ']' then some .target else none
  | .target => if c = '=' then some (.level (position + 1)) else none
  | .level begin_ => some (.level begin_)

/-- The state after the characters from a position on. -/
def run? (s : State) (position : Nat) : List Char → Option State
  | [] => some s
  | c :: rest => do
    let s ← next? s position c
    run? s (position + c.utf8Size) rest

/-- The characters from a position in bytes on. -/
def dropBytes : Nat → List Char → List Char
  | _, [] => []
  | n, c :: rest => if n = 0 then c :: rest else dropBytes (n - c.utf8Size) rest

/-- Whether a text is a directive. The level is cut out of the text with its blanks, at the position
that was counted without those in front. -/
def isDirective (cs : List Char) : Bool :=
  match run? .start 0 (Text.trimChars cs) with
  | some .levelOrTarget | some .target => true
  | some (.level begin_) => isLevel (dropBytes begin_ cs)
  | _ => false

/-- The pieces of a text between commas. -/
def pieces : List Char → List (List Char)
  | [] => [[]]
  | c :: rest =>
    if c = ',' then [] :: pieces rest
    else
      match pieces rest with
      | [] => [[c]]
      | piece :: more => (c :: piece) :: more

/-- Whether a text is a log filter; empty pieces count for nothing. -/
def accepts (s : String) : Bool :=
  (pieces s.toList).all fun piece => piece.isEmpty || isDirective piece

/-- The check of a level in the configuration, which is a log filter. -/
def check (level : String) : Except Error Unit :=
  if accepts level then .ok () else .error (.config (.badLevel level))

/-- The environment variable with a log filter. -/
def variableName : String := "RUST_LOG"

/-- The check of a level in an environment, whose log filter comes first if it is one. -/
def checkIn (env : Environment) (level : String) : Except Error Unit :=
  if (env variableName).any accepts then .ok () else check level

end AbiBindings.Logging.Filter
