import AbiBindings.Error
import AbiBindings.Json.Reader
import AbiBindings.Keccak
import AbiBindings.Text.Digits
import AbiBindings.Text.Words

/-!
# Outlines of interfaces

An interface in the words of its document: types stay texts, entries stay in document order.
Bindings are generated from it.

* `Param.canonical`, `signature`: the type of a parameter with tuples spelled out, and the signature
  made of them.
* `Function.humanSignature`, `Event.humanSignature`: the signature for a reader.
* `Param.check`: a type text is a word followed by dimensions, each of digits in brackets, and the
  same holds for all components.
-/

namespace AbiBindings.Outline

/-- A named value whose type is a text; a tuple has components. -/
structure Param where
  name : String
  type : String
  components? : Option (List Param)
  indexed : Bool
  deriving Inhabited

namespace Param

mutual

/-- Whether two parameters are the same. -/
def same : Param → Param → Bool
  | ⟨m, s, cs, i⟩, ⟨n, t, ds, j⟩ => m == n && s == t && sameComponents cs ds && i == j

/-- Whether two parameters have the same components, if any. -/
def sameComponents : Option (List Param) → Option (List Param) → Bool
  | none, none => true
  | some cs, some ds => sameAll cs ds
  | _, _ => false

/-- Whether two lists of parameters are the same. -/
def sameAll : List Param → List Param → Bool
  | [], [] => true
  | p :: ps, q :: qs => p.same q && sameAll ps qs
  | _, _ => false

end

mutual

theorem same_iff : ∀ p q : Param, p.same q = true ↔ p = q
  | ⟨_, _, cs, _⟩, q => by cases q; simp [same, sameComponents_iff cs, and_assoc]

theorem sameComponents_iff :
    ∀ cs ds : Option (List Param), sameComponents cs ds = true ↔ cs = ds
  | none, ds => by cases ds <;> simp [sameComponents]
  | some cs, ds => by cases ds <;> simp [sameComponents, sameAll_iff cs]

theorem sameAll_iff : ∀ ps qs : List Param, sameAll ps qs = true ↔ ps = qs
  | [], qs => by cases qs <;> simp [sameAll]
  | p :: ps, qs => by cases qs <;> simp [sameAll, same_iff p, sameAll_iff ps]

end

instance : DecidableEq Param := fun p q => decidable_of_iff _ (same_iff p q)

end Param

/-- A function, or a constructor. -/
structure Function where
  name : String
  inputs : List Param
  outputs : List Param
  mutability : String
  deriving DecidableEq, Inhabited

/-- An event. -/
structure Event where
  name : String
  inputs : List Param
  anonymous : Bool
  deriving DecidableEq, Inhabited

/-! ## Type texts -/

mutual

/-- Whether a text is a sequence of dimensions. -/
def isDimensions : List Char → Bool
  | [] => true
  | c :: rest => c == '[' && isOpenDimension rest

/-- Whether a text is the rest of a dimension, followed by dimensions. -/
def isOpenDimension : List Char → Bool
  | [] => false
  | c :: rest => if c = ']' then isDimensions rest else Text.isAsciiDigit c && isOpenDimension rest

end

/-- Whether a text is a word without brackets followed by dimensions. -/
def isTypeText (cs : List Char) : Bool :=
  let word := cs.takeWhile (· ≠ '[')
  !word.isEmpty && !word.contains ']' && isDimensions (cs.dropWhile (· ≠ '['))

mutual

/-- The check of the type texts of a parameter; its own comes before those of its components. -/
def Param.check : Param → Except Error Unit
  | ⟨name, type, components?, _⟩ =>
    if isTypeText type.toList then checkComponents components?
    else .error (.abi (.badType type name))

/-- The check of components, if there are any. -/
def checkComponents : Option (List Param) → Except Error Unit
  | none => .ok ()
  | some params => checkParams params

/-- The check of parameters in order. -/
def checkParams : List Param → Except Error Unit
  | [] => .ok ()
  | p :: rest =>
    match p.check with
    | .error e => .error e
    | .ok () => checkParams rest

end

/-! ## Signatures -/

/-- The word of a tuple. -/
def tupleWord : List Char := ['t', 'u', 'p', 'l', 'e']

mutual

/-- The type of a parameter; a tuple is spelled by its components. -/
def Param.canonical : Param → String
  | ⟨_, type, components?, _⟩ => canonicalWith type components?

/-- A type with its components, if there are any. -/
def canonicalWith (type : String) : Option (List Param) → String
  | none => type
  | some params =>
    match Text.afterStart? tupleWord type.toList with
    | none => type
    | some dimensions =>
      "(" ++ ",".intercalate (canonicals params) ++ ")" ++ String.ofList dimensions

/-- The types of parameters. -/
def canonicals : List Param → List String
  | [] => []
  | p :: rest => p.canonical :: canonicals rest

end

/-- A name and the types of the inputs. -/
def signature (name : String) (inputs : List Param) : String :=
  name ++ "(" ++ ",".intercalate (canonicals inputs) ++ ")"

/-- A type, a mark and the name, if there is one. -/
def labelled (p : Param) (mark : String) : String :=
  p.type ++ mark ++ (if p.name = "" then "" else " " ++ p.name)

namespace Function

/-- The canonical signature. -/
def signature (f : Function) : String := Outline.signature f.name f.inputs

/-- The four bytes that select the function in calldata. -/
def selector (f : Function) : Bytes := (Keccak.ofText f.signature).toList.take 4

/-- Whether the function only reads. -/
def isConstant (f : Function) : Bool := f.mutability == "view" || f.mutability == "pure"

/-- The inputs with their names, how the function reads, and the types of its outputs. -/
def humanSignature (f : Function) : String :=
  f.name ++ "(" ++ ", ".intercalate (f.inputs.map fun p => labelled p "") ++ ")" ++
    (if f.isConstant then " " ++ f.mutability else "") ++
    (if f.outputs.isEmpty then ""
     else " returns (" ++ ", ".intercalate (f.outputs.map (·.type)) ++ ")")

end Function

namespace Event

/-- The canonical signature. -/
def signature (e : Event) : String := Outline.signature e.name e.inputs

/-- The hash of the signature. -/
def topic (e : Event) : Hash := Keccak.ofText e.signature

/-- The inputs with their names and the mark of indexed ones. -/
def humanSignature (e : Event) : String :=
  let inputs := e.inputs.map fun p => labelled p (if p.indexed then " indexed" else "")
  e.name ++ "(" ++ ", ".intercalate inputs ++ ")"

end Event

end AbiBindings.Outline

namespace AbiBindings

/-- An interface in the words of its document. -/
structure Outline where
  constructor? : Option Outline.Function
  functions : List Outline.Function
  events : List Outline.Event
  /-- The document itself. -/
  document : Json
  deriving DecidableEq, Inhabited

namespace Outline

/-- The functions that only read. -/
def views (o : Outline) : List Function := o.functions.filter (·.isConstant)

/-- The functions that need a transaction. -/
def transactions (o : Outline) : List Function := o.functions.filter (!·.isConstant)

/-- Whether more than one function has the name. -/
def isOverloaded (o : Outline) (name : String) : Bool :=
  1 < (o.functions.filter fun f => f.name == name).length

end Outline

end AbiBindings
