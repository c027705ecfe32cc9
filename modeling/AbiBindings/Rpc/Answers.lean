import AbiBindings.Rpc.Value

/-!
# Scripted nodes

A node that answers every method from a queue of its own. A used-up queue refuses the call, but the
question for new logs is answered with none.

* `Answers.endpoint`: the endpoint of such a node.
-/

namespace AbiBindings.Rpc

/-- The answers that are left for each method; one with a code is a refusal. -/
abbrev Answers := List (String × List Json)

namespace Answers

/-- The method that asks for the logs since the last such call. -/
def changesMethod : String := "eth_getFilterChanges"

/-- What is answered when nothing is left. -/
def usedUp (method : String) : Except Failure Json :=
  if method == changesMethod then .ok (.array [])
  else .error (.refused ⟨-32601, "not scripted", none⟩)

/-- What an entry of a queue answers. -/
def reply (entry : Json) : Except Failure Json :=
  match Wire.present? entry "code" with
  | none => .ok entry
  | some _ =>
    match refusal? entry with
    | some r => .error (.refused r)
    | none => .error (.unreadable entry)

/-- The answer to a method, and what is left. -/
def take (method : String) : Answers → Except Failure Json × Answers
  | [] => (usedUp method, [])
  | (m, entries) :: rest =>
    if m = method then
      match entries with
      | [] => (usedUp method, (m, []) :: rest)
      | entry :: entries => (reply entry, (m, entries) :: rest)
    else
      let (answer, rest) := take method rest
      (answer, (m, entries) :: rest)

/-- The endpoint of a scripted node. -/
def endpoint : Endpoint Answers := ⟨fun c a => a.take c.method⟩

end Answers

end AbiBindings.Rpc
