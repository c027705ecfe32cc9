import AbiBindings.Json.Number

/-!
# JSON documents

The tree of a document, with the members of an object in document order and repeated keys kept.

* `Json.same_iff`: equality of documents is decided by comparing their parts.
* `Json.sound`: no text or number of the tree is faulty. A faulty one is well-formed but stands for
  no value: a lone surrogate, or a number beyond double precision.
* `Json.depth`: how deep arrays and objects nest.
* `Json.normal`: the value of a document: of repeated keys the last wins, and keys are sorted.
* `Json.member?`: the last member of a key.
-/

namespace AbiBindings

/-- A document. -/
inductive Json where
  | null
  | bool (b : Bool)
  | number (n : Json.Number)
  | text (s : String)
  | array (items : List Json)
  | object (members : List (String × Json))
  /-- A well-formed text or number that stands for no value. -/
  | faulty
  deriving Inhabited

namespace Json

mutual

/-- Whether two documents are the same. -/
def same : Json → Json → Bool
  | .null, .null | .faulty, .faulty => true
  | .bool a, .bool b => a == b
  | .number m, .number n => m == n
  | .text a, .text b => a == b
  | .array xs, .array ys => sameItems xs ys
  | .object xs, .object ys => sameMembers xs ys
  | _, _ => false

/-- Whether two lists of items are the same. -/
def sameItems : List Json → List Json → Bool
  | [], [] => true
  | x :: xs, y :: ys => x.same y && sameItems xs ys
  | _, _ => false

/-- Whether two lists of members are the same. -/
def sameMembers : List (String × Json) → List (String × Json) → Bool
  | [], [] => true
  | (k, x) :: xs, (l, y) :: ys => k == l && x.same y && sameMembers xs ys
  | _, _ => false

end

mutual

theorem same_iff : ∀ x y : Json, x.same y = true ↔ x = y
  | .null, y | .faulty, y | .bool _, y | .number _, y | .text _, y => by cases y <;> simp [same]
  | .array xs, y => by cases y <;> simp [same, sameItems_iff xs]
  | .object xs, y => by cases y <;> simp [same, sameMembers_iff xs]

theorem sameItems_iff : ∀ xs ys : List Json, sameItems xs ys = true ↔ xs = ys
  | [], ys => by cases ys <;> simp [sameItems]
  | x :: xs, ys => by cases ys <;> simp [sameItems, same_iff x, sameItems_iff xs]

theorem sameMembers_iff : ∀ xs ys : List (String × Json), sameMembers xs ys = true ↔ xs = ys
  | [], ys => by cases ys <;> simp [sameMembers]
  | (_, x) :: xs, ys => by
    cases ys <;> simp [sameMembers, same_iff x, sameMembers_iff xs, Prod.ext_iff]

end

instance : DecidableEq Json := fun x y => decidable_of_iff _ (same_iff x y)

mutual

/-- Whether no text or number of the document is faulty. -/
def sound : Json → Bool
  | .null | .bool _ | .number _ | .text _ => true
  | .faulty => false
  | .array items => soundItems items
  | .object members => soundMembers members

/-- Whether every item is sound. -/
def soundItems : List Json → Bool
  | [] => true
  | x :: rest => x.sound && soundItems rest

/-- Whether every member is sound. -/
def soundMembers : List (String × Json) → Bool
  | [] => true
  | (_, x) :: rest => x.sound && soundMembers rest

end

mutual

/-- How deep arrays and objects nest. -/
def depth : Json → Nat
  | .array items => 1 + depthItems items
  | .object members => 1 + depthMembers members
  | _ => 0

/-- The depth of the deepest item. -/
def depthItems : List Json → Nat
  | [] => 0
  | x :: rest => max x.depth (depthItems rest)

/-- The depth of the deepest member. -/
def depthMembers : List (String × Json) → Nat
  | [] => 0
  | (_, x) :: rest => max x.depth (depthMembers rest)

end

/-- Puts a member into a list sorted by key, in place of one with the same key. -/
def insertMember (key : String) (value : α) : List (String × α) → List (String × α)
  | [] => [(key, value)]
  | (k, v) :: rest =>
    if key = k then (key, value) :: rest
    else if key < k then (key, value) :: (k, v) :: rest
    else (k, v) :: insertMember key value rest

mutual

/-- The value of the document: sorted keys, the last of repeated ones. -/
def normal : Json → Json
  | .array items => .array (normalItems items)
  | .object members => .object (normalMembers members [])
  | x => x

/-- The values of the items. -/
def normalItems : List Json → List Json
  | [] => []
  | x :: rest => x.normal :: normalItems rest

/-- The sorted members, taken in from the left. -/
def normalMembers : List (String × Json) → List (String × Json) → List (String × Json)
  | [], sorted => sorted
  | (k, x) :: rest, sorted => normalMembers rest (insertMember k x.normal sorted)

end

/-- The last member of the key, if the document is an object that has one. -/
def member? (key : String) : Json → Option Json
  | .object members => (members.reverse.find? fun m => m.1 == key).map (·.2)
  | _ => none

/-- The text of the document, if it is one. -/
def text? : Json → Option String
  | .text s => some s
  | _ => none

/-- The truth value of the document, if it is one. -/
def bool? : Json → Option Bool
  | .bool b => some b
  | _ => none

/-- The natural number below `2 ^ 64` of the document, if it is one. -/
def natural? : Json → Option Nat
  | .number (.natural n) => some n.toNat
  | _ => none

end Json

end AbiBindings
