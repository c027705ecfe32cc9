import AbiBindings.Bundled.AggregatorProxy
import AbiBindings.Bundled.ENSInterface
import AbiBindings.Bundled.Flags
import AbiBindings.Bundled.FlagsInterface
import AbiBindings.Bundled.LinkToken
import AbiBindings.Bundled.MockV3Aggregator
import AbiBindings.Bundled.RewardLib
import AbiBindings.Text.Case

/-!
# The bundled contracts

* `all`: the bindings, ordered by name.
* `lookup?`: the binding of a name, in any case.
-/

namespace AbiBindings.Bundled

/-- The bindings, ordered by name. -/
def all : List Binding := [
  AggregatorProxy.binding, ENSInterface.binding, Flags.binding, FlagsInterface.binding,
  LinkToken.binding, MockV3Aggregator.binding, RewardLib.binding]

/-- A text with the letters A to Z in lower case. -/
def foldCase (s : String) : List Char := s.toList.map Text.lowerAscii

/-- The binding of a name, in any case. -/
def lookup? (name : String) : Option Binding :=
  all.find? fun b => foldCase b.metadata.name == foldCase name

end AbiBindings.Bundled
