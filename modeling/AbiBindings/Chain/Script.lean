import AbiBindings.Chain.Action

/-!
# Scripted chains

A chain that answers from queues, one for each kind of request. A used-up queue answers with
nothing: no bytes, zero, the zero hash, no receipt, no logs, a subscription.

* `Script.chain`: the chain of a script.
-/

namespace AbiBindings

/-- The answers that are left. -/
structure Script where
  calls : List (Except Error Bytes)
  codes : List (Except Error Bytes)
  nonces : List (Except Error Nat)
  hashes : List (Except Error Hash)
  receipts : List (Except Error (Option Receipt))
  logs : List (Except Error (List Log))
  subscriptions : List (Except Error Unit)

namespace Script

/-- The script that answers nothing. -/
def empty : Script := ⟨[], [], [], [], [], [], []⟩

/-- The first answer of a queue, and the rest of it. -/
def take (default : α) : List (Except Error α) → Except Error α × List (Except Error α)
  | [] => (.ok default, [])
  | a :: rest => (a, rest)

/-- The answer to a request, and what is left of the script. -/
def answer : (r : Request) → Script → Except Error r.Answer × Script
  | .call _ _, s =>
    let (a, rest) := take [] s.calls
    (a, { s with calls := rest })
  | .code _ _, s =>
    let (a, rest) := take [] s.codes
    (a, { s with codes := rest })
  | .nonce _, s =>
    let (a, rest) := take 0 s.nonces
    (a, { s with nonces := rest })
  | .send _, s =>
    let (a, rest) := take Hash.zero s.hashes
    (a, { s with hashes := rest })
  | .receipt _, s =>
    let (a, rest) := take none s.receipts
    (a, { s with receipts := rest })
  | .logs _, s =>
    let (a, rest) := take [] s.logs
    (a, { s with logs := rest })
  | .subscribe _, s =>
    let (a, rest) := take () s.subscriptions
    (a, { s with subscriptions := rest })

/-- The chain of a script. -/
def chain : Chain Script := ⟨answer⟩

end Script

end AbiBindings
