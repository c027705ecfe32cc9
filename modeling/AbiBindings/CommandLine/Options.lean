/-!
# Options and operands

The words of a command line are options with or without a value, and operands. A value follows its
option as the next word or after an equals sign; after the word `--` there are only operands.

* `Grammar`: the options and the number of operands that a command knows.
* `scan`: what the words say, or why they are refused.
-/

namespace AbiBindings.CommandLine

/-- An option of a command. -/
structure Switch where
  long : String
  short? : Option Char
  takesValue : Bool
  deriving Repr, DecidableEq

/-- The options and the number of operands of a command. -/
structure Grammar where
  switches : List Switch
  operands : Nat
  deriving Repr, DecidableEq

/-- Why words lead to no command. -/
inductive Stop where
  | usage
  | help
  | version
  deriving Repr, DecidableEq

/-- What words say: the options with their values, and the operands. -/
structure Scanned where
  values : List (String × String)
  operands : List String
  deriving Repr, DecidableEq

/-- What words say before the first. -/
def Scanned.empty : Scanned := ⟨[], []⟩

namespace Scanned

/-- Whether an option was given. -/
def has (s : Scanned) (long : String) : Bool := (s.values.lookup long).isSome

/-- The value of an option. -/
def value? (s : Scanned) (long : String) : Option String := s.values.lookup long

/-- One more option; none may be given twice. -/
def addValue (s : Scanned) (long value : String) : Except Stop Scanned :=
  if s.has long then .error .usage else .ok { s with values := s.values ++ [(long, value)] }

/-- One more operand. -/
def addOperand (s : Scanned) (g : Grammar) (word : String) : Except Stop Scanned :=
  if s.operands.length < g.operands then .ok { s with operands := s.operands ++ [word] }
  else .error .usage

end Scanned

/-- The form of a word. -/
inductive Word where
  | dashes
  | long (name : String) (value? : Option String)
  | short (letter : Char) (value? : Option String)
  | operand
  deriving Repr, DecidableEq

/-- The form of a word; the value of an option with a letter may follow it at once. -/
def Word.ofText (word : String) : Word :=
  match word.toList with
  | ['-', '-'] => .dashes
  | '-' :: '-' :: rest =>
    let name := String.ofList (rest.takeWhile (· ≠ '='))
    match rest.dropWhile (· ≠ '=') with
    | _ :: value => .long name (some (String.ofList value))
    | [] => .long name none
  | ['-', letter] => .short letter none
  | '-' :: letter :: '=' :: value => .short letter (some (String.ofList value))
  | '-' :: letter :: value => .short letter (some (String.ofList value))
  | _ => .operand

/-- The options that ask for help or for the version of the program. -/
def stopOf (word : Word) : Option Stop :=
  match word with
  | .long "help" none | .short 'h' _ => some .help
  | .long "version" none | .short 'V' _ => some .version
  | _ => none

/-- The option that a word names, and the value in the word. -/
def Grammar.find? (g : Grammar) : Word → Option (Switch × Option String)
  | .long name value? => (g.switches.find? fun s => s.long == name).map (·, value?)
  | .short letter value? => (g.switches.find? fun s => s.short? == some letter).map (·, value?)
  | _ => none

/-- What a word and its option, if it is one, add to the words before; an option may wait for its
value. -/
def Scanned.addSwitch (s : Scanned) (g : Grammar) (word : Word) :
    Except Stop (Scanned × Option String) :=
  match g.find? word with
  | none => .error ((stopOf word).getD .usage)
  | some (switch, some value) =>
    if switch.takesValue then (s.addValue switch.long value).map (·, none) else .error .usage
  | some (switch, none) =>
    if switch.takesValue then .ok (s, some switch.long)
    else (s.addValue switch.long "").map (·, none)

/-- Reads the words that remain, the option `waiting` standing before them without its value. -/
def scanFrom (g : Grammar) (s : Scanned) : Option String → List String → Except Stop Scanned
  | none, [] => .ok s
  | some _, [] => .error .usage
  | some long, word :: rest =>
    match Word.ofText word with
    | .operand =>
      match s.addValue long word with
      | .error stop => .error stop
      | .ok s => scanFrom g s none rest
    | _ => .error .usage
  | none, word :: rest =>
    match Word.ofText word with
    | .dashes => rest.foldlM (fun s word => s.addOperand g word) s
    | .operand =>
      match s.addOperand g word with
      | .error stop => .error stop
      | .ok s => scanFrom g s none rest
    | other =>
      match s.addSwitch g other with
      | .error stop => .error stop
      | .ok (s, waiting) => scanFrom g s waiting rest

/-- What the words say. -/
def scan (g : Grammar) (words : List String) : Except Stop Scanned :=
  scanFrom g .empty none words

/-- Reads options up to the first operand: what they say, the operand, and the words after it. -/
def scanHead (g : Grammar) (s : Scanned) :
    Option String → List String → Except Stop (Scanned × String × List String)
  | _, [] => .error .usage
  | some long, word :: rest =>
    match Word.ofText word with
    | .operand =>
      match s.addValue long word with
      | .error stop => .error stop
      | .ok s => scanHead g s none rest
    | _ => .error .usage
  | none, word :: rest =>
    match Word.ofText word with
    | .dashes => .error .usage
    | .operand => .ok (s, word, rest)
    | other =>
      match s.addSwitch g other with
      | .error stop => .error stop
      | .ok (s, waiting) => scanHead g s waiting rest

end AbiBindings.CommandLine
