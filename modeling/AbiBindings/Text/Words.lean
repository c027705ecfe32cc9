import AbiBindings.Text.Case

/-!
# Words of a name

Splitting a name into words and joining them again. Characters are taken together with the marks
that follow them. A name is cut at every underscore, which is dropped, before a capital that follows
a small letter or a digit, and before the last capital of a run when a small letter follows it.
Underscores at the front of a name count for nothing.

* `words`: the words of a name.
* `snakeCase`: the words in lower case with an underscore between them.
* `pascalCase`: the words with a capital each and nothing between them.
-/

namespace AbiBindings.Text

/-- A character with the marks that follow it. -/
abbrev Cluster := List Char

/-- The clusters of a text. -/
def clusters : List Char → List Cluster
  | [] => []
  | c :: rest =>
    match clusters rest with
    | [] => [[c]]
    | next :: more =>
      match next with
      | d :: _ => if isJoined d then (c :: next) :: more else [c] :: next :: more
      | [] => [c] :: more

/-- Whether the cluster has two cases and is in upper case. -/
def isUpperCluster (c : Cluster) : Bool :=
  upperChars c != lowerChars c && c == upperChars c

/-- Whether the cluster has two cases and is in lower case. -/
def isLowerCluster (c : Cluster) : Bool :=
  upperChars c != lowerChars c && c == lowerChars c

/-- Whether a character is a digit `0` to `9`. -/
def isAsciiDigit (c : Char) : Bool := '0' ≤ c && c ≤ '9'

/-- Whether the cluster is a digit. -/
def isDigitCluster (c : Cluster) : Bool := c.all isAsciiDigit

/-- Whether a word starts at the cluster, given its neighbours. -/
def startsWord (before : Option Cluster) (c : Cluster) (after : Option Cluster) : Bool :=
  isUpperCluster c &&
    match before with
    | none => false
    | some b =>
      isLowerCluster b || isDigitCluster b ||
        (isUpperCluster b && after.any isLowerCluster)

/-- The words of the clusters that follow `before`, the open word holding `word` so far. -/
def wordsAfter (before : Option Cluster) (word : List Cluster) : List Cluster → List (List Cluster)
  | [] => [word]
  | c :: rest =>
    if c = ['_'] then word :: wordsAfter (some c) [] rest
    else if startsWord before c rest.head? then word :: wordsAfter (some c) [c] rest
    else wordsAfter (some c) (word ++ [c]) rest

/-- The words of a name, none of them empty. -/
def words (cs : List Char) : List (List Cluster) :=
  (wordsAfter none [] (clusters (cs.dropWhile (· = '_')))).filter (· ≠ [])

/-- A word in lower case. -/
def lowerWord (word : List Cluster) : List Char := lowerChars word.flatten

/-- A word with a capital at the front and the rest in lower case. -/
def capitalWord : List Cluster → List Char
  | [] => []
  | c :: rest => upperChars c ++ lowerChars rest.flatten

/-- The characters of the words in lower case with an underscore between them. -/
def snakeChars (cs : List Char) : List Char :=
  ['_'].intercalate ((words cs).map lowerWord)

/-- The words of the name in lower case with an underscore between them. -/
def snakeCase (name : String) : String := String.ofList (snakeChars name.toList)

/-- The words of the name with a capital each and nothing between them. -/
def pascalCase (name : String) : String :=
  String.ofList ((words name.toList).flatMap capitalWord)

end AbiBindings.Text
