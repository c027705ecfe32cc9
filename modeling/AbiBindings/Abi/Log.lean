import AbiBindings.Abi.Decode
import AbiBindings.Abi.Interface

/-!
# Reading logs

The arguments of an event from the topics and the data of a log. The indexed arguments stand in the
topics, one word each, behind the hash of the signature unless the event is anonymous; the others
are encoded in the data. The values are collected by the names of the arguments, so that arguments
of one name all have the value of the last of them, indexed ones first.

* `Ty.inTopic`: the type that an indexed argument has in its topic.
* `Event.decodeLog`: the arguments in the order of their declaration.
-/

namespace AbiBindings.Abi

/-- The type that an indexed argument has in its topic: only the hash is left of a dynamic or
composite value. -/
def Ty.inTopic : Ty → Ty
  | .string | .bytes | .array _ | .farray _ _ | .tuple _ => .fixed 32
  | t => t

namespace Event

/-- The indexed arguments. -/
def indexed (e : Event) : List EventParam := e.inputs.filter (·.indexed)

/-- The arguments in the data. -/
def unindexed (e : Event) : List EventParam := e.inputs.filter fun p => !p.indexed

/-- The types of the topics behind the hash of the signature. -/
def topicTypes (e : Event) : List Ty := e.indexed.map fun p => p.type.inTopic

/-- The types of the data. -/
def dataTypes (e : Event) : List Ty := e.unindexed.map (·.type)

/-- The topics that hold arguments. -/
def argumentTopics (e : Event) (topics : List Hash) : List Hash :=
  if e.anonymous then topics else topics.drop 1

/-- The last value of a name. -/
def valueOf (values : List (String × Token)) (name : String) : Token :=
  (values.reverse.lookup name).getD (.tuple [])

/-- The arguments of a log of the event, in the order of their declaration. -/
def decodeLog (e : Event) (topics : List Hash) (data : Bytes) : Except DecodeError (List Token) :=
  if !e.anonymous && topics.head? != some e.topic then .error .invalid
  else
    let topics := e.argumentTopics topics
    match decode e.topicTypes (topics.flatMap Vector.toList) with
    | .error cause => .error cause
    | .ok indexed =>
      if indexed.length ≠ topics.length then .error .invalid
      else
        match decode e.dataTypes data with
        | .error cause => .error cause
        | .ok unindexed =>
          let values :=
            (e.indexed.map (·.name)).zip indexed ++ (e.unindexed.map (·.name)).zip unindexed
          .ok (e.inputs.map fun p => valueOf values p.name)

end Event

end AbiBindings.Abi
