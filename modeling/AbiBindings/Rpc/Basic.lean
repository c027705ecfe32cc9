import AbiBindings.Error
import AbiBindings.Json.Printer

/-!
# Calls of a node

A node is asked by calls, each a method with arguments, and answers with a document or not at all.

* `Failure.message`: the wording of a call that failed; `Failure.error` is its class among the
  errors of the library, since a node reports a revert as a failed call.
* `Endpoint.ask`: a call whose answer has to have a given form.
-/

namespace AbiBindings.Rpc

/-- A method and its arguments, none if the method is called without. -/
structure Call where
  method : String
  args? : Option (List Json)
  deriving DecidableEq

/-- What a node says when it refuses a call. -/
structure Refusal where
  code : Int
  message : String
  data? : Option Json
  deriving DecidableEq

/-- The wording of a refusal. -/
def Refusal.describe (r : Refusal) : String :=
  let data := match r.data? with
    | none => "None"
    | some j => "Some(" ++ j.describe ++ ")"
  "(code: " ++ toString r.code ++ ", message: " ++ r.message ++ ", data: " ++ data ++ ")"

/-- Why a call has no result. -/
inductive Failure where
  | refused (refusal : Refusal)
  /-- The answer does not have the form that the method promises. -/
  | unreadable (answer : Json)
  /-- Nothing listens at the address of the node. -/
  | unreachable (url : String)
  deriving DecidableEq

namespace Failure

/-- The wording of the failure. -/
def message : Failure → String
  | .refused r => r.describe
  | .unreadable answer =>
    "Deserialization Error: " ++ unstated ++ ". Response: " ++ answer.compact
  | .unreachable url =>
    "error sending request for url (" ++ url ++
      "): error trying to connect: tcp connect error: Connection refused (os error 111)"

/-- The failure as an error; a revert is told by the wording. -/
def error (f : Failure) : Error := Error.ofRpc f.message

end Failure

/-- What answers calls; it may change with each of them. -/
structure Endpoint (σ : Type) where
  answer : Call → σ → Except Failure Json × σ

/-- The endpoint of an address where nothing listens. -/
def Endpoint.unreachable (url : String) : Endpoint σ := ⟨fun _ s => (.error (.unreachable url), s)⟩

/-- A call whose answer has the form that `read` reads. -/
def Endpoint.ask (e : Endpoint σ) (c : Call) (read : Json → Option α) (s : σ) :
    Except Failure α × σ :=
  match e.answer c s with
  | (.error f, s) => (.error f, s)
  | (.ok j, s) =>
    match read j with
    | some a => (.ok a, s)
    | none => (.error (.unreadable j), s)

end AbiBindings.Rpc
