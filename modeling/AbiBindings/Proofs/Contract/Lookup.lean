import AbiBindings.Proofs.Contract.Calls
import AbiBindings.Proofs.Keccak

/-!
# Functions that signatures select

A method text with a parenthesis stands for the signature of an overload. It is compared with the
functions of the interface by selectors, which are four bytes, so it selects a function of exactly
this signature unless the selector is shared by another one.

* `Abi.Function.Clashes`: a function of another signature with the selector of a text.
* `Contract.Uses`, `Contract.Lacks`: what a bound contract does with a text that selects a function,
  and with one that selects none.

Results:
* `Contract.uses_or_lacks`: every text selects a function or is refused.
* `Contract.signature_lookup`: which function a signature selects.
* `Contract.not_lacks_clashing`: a signature that is not in the interface may select a function.
-/

namespace AbiBindings

open Abi (Token Function fitsAll encode selectorOfHash)

/-- Whether a function has the selector of a text, though its signature is another one. -/
def Abi.Function.Clashes (f : Function) (method : String) : Prop :=
  f.signature ≠ method ∧ f.selector = selectorOfHash (Keccak.ofText method)

namespace Contract

/-- What a bound contract does with a method text that selects a function: accepted arguments stand
behind the selector of the function, in calls and in transactions, and the output of a call is read
as its outputs. Other arguments are refused before anything is asked. -/
structure Uses (c : Contract) (method : String) (f : Function) : Prop where
  calldata : ∀ args, fitsAll args f.inputTypes = true →
    c.calldata method args = .ok (f.selector ++ encode args)
  call : ∀ o args, fitsAll args f.inputTypes = true →
    c.call o method args = do
      let output ← c.callRaw o (f.selector ++ encode args)
      Action.ofExcept (decodeOutput method f output)
  transact : ∀ o args, fitsAll args f.inputTypes = true →
    c.transact o method args = c.transactRaw o (f.selector ++ encode args)
  refused : ∀ args, fitsAll args f.inputTypes = false →
    c.calldata method args = .error (.abi (.badArguments method)) ∧
      (∀ o, (c.call o method args).FailsAtOnce (.abi (.badArguments method))) ∧
      ∀ o, (c.transact o method args).FailsAtOnce (.abi (.badArguments method))

/-- What a bound contract does with a method text that selects nothing: whatever the arguments are,
it is refused before anything is asked. -/
structure Lacks (c : Contract) (method : String) : Prop where
  calldata : ∀ args, c.calldata method args = .error (.abi (.unknownMethod method))
  call : ∀ o args, (c.call o method args).FailsAtOnce (.abi (.unknownMethod method))
  transact : ∀ o args, (c.transact o method args).FailsAtOnce (.abi (.unknownMethod method))

variable {c : Contract} {method : String} {f : Function}

theorem uses_of_function (hf : c.function method = .ok f) : c.Uses method f := by
  have hcalldata : ∀ args, c.calldata method args =
      if fitsAll args f.inputTypes then .ok (f.selector ++ encode args)
      else .error (.abi (.badArguments method)) := by
    intro args
    rw [calldata, hf]
  refine ⟨fun args hargs => ?_, fun o args hargs => ?_, fun o args hargs => ?_,
    fun args hargs => ?_⟩
  · rw [hcalldata, if_pos hargs]
  · rw [call, hf, Action.ofExcept_ok_bind, hcalldata, if_pos hargs, Action.ofExcept_ok_bind]
  · rw [transact, hcalldata, if_pos hargs, Action.ofExcept_ok_bind]
  · have hrefused : c.calldata method args = .error (.abi (.badArguments method)) := by
      rw [hcalldata, if_neg (by simp [hargs])]
    refine ⟨hrefused, fun o => ?_, fun o => Action.failsAtOnce_ofExcept hrefused _⟩
    rw [call, hf, Action.ofExcept_ok_bind]
    exact Action.failsAtOnce_ofExcept hrefused _

theorem lacks_of_function (hf : c.function method = .error (.abi (.unknownMethod method))) :
    c.Lacks method := by
  have hrefused : ∀ args, c.calldata method args = .error (.abi (.unknownMethod method)) := by
    intro args
    rw [calldata, hf]
  exact ⟨hrefused, fun o args => Action.failsAtOnce_ofExcept hf _,
    fun o args => Action.failsAtOnce_ofExcept (hrefused args) _⟩

/-- A signature selects the first function with its selector, and is refused if there is none. -/
theorem uses_or_lacks (c : Contract) (h : '(' ∈ method.toList) :
    (∃ f ∈ c.interface.functions, f.selector = selectorOfHash (Keccak.ofText method) ∧
        c.Uses method f) ∨
      (∀ f ∈ c.interface.functions, f.selector ≠ selectorOfHash (Keccak.ofText method)) ∧
        c.Lacks method := by
  have hparenthesis : method.toList.contains '(' = true := by simpa using h
  have hfound : c.interface.function? method = c.interface.functions.find? fun f =>
      f.selector == selectorOfHash (Keccak.ofText method) := by
    rw [Abi.Interface.function?, if_pos hparenthesis]
  cases hfind : c.interface.functions.find? fun f =>
      f.selector == selectorOfHash (Keccak.ofText method) with
  | some f =>
    have hselector := List.find?_some hfind
    exact .inl ⟨f, List.mem_of_find?_eq_some hfind, by simpa using hselector,
      uses_of_function (by rw [function, hfound, hfind])⟩
  | none =>
    have hnone := List.find?_eq_none.mp hfind
    exact .inr ⟨fun f hf => by simpa using hnone f hf,
      lacks_of_function (by rw [function, hfound, hfind])⟩

/-- A signature selects a function that has it, or one that only has its selector, and is refused if
there is neither. So where nothing clashes with it, exactly a function of this signature is used. -/
theorem signature_lookup (c : Contract) (h : '(' ∈ method.toList) :
    ((∃ f ∈ c.interface.functions, (f.signature = method ∨ f.Clashes method) ∧ c.Uses method f) ∨
      (∀ f ∈ c.interface.functions, f.signature ≠ method ∧ ¬ f.Clashes method) ∧
        c.Lacks method) ∧
    ((∀ f ∈ c.interface.functions, ¬ f.Clashes method) →
      (∃ f ∈ c.interface.functions, f.signature = method ∧ c.Uses method f) ∨
        (∀ f ∈ c.interface.functions, f.signature ≠ method) ∧ c.Lacks method) := by
  -- A function with the selector has the signature, or it clashes with it.
  have hsplit : ∀ f : Function, f.selector = selectorOfHash (Keccak.ofText method) ↔
      f.signature = method ∨ f.Clashes method := by
    intro f
    by_cases hf : f.signature = method
    · simp [hf, Function.selector]
    · simp [hf, Function.Clashes]
  have hcases := uses_or_lacks c h
  simp only [ne_eq, hsplit, not_or] at hcases
  refine ⟨hcases, fun hclashes => ?_⟩
  rcases hcases with ⟨f, hf, hselected, huses⟩ | ⟨hnone, hlacks⟩
  · exact .inl ⟨f, hf, hselected.resolve_right (hclashes f hf), huses⟩
  · exact .inr ⟨fun f hf => (hnone f hf).1, hlacks⟩

theorem selector_of_short {f : Function} (h : (utf8 f.signature).length < Keccak.rate) :
    f.selector = selectorOfHash (Keccak.ofShortText f.signature) := by
  rw [Function.selector, Keccak.ofText_of_length_lt h]

/-- A setter of a name that several share. -/
def setter (type : Abi.Ty) : Function := ⟨"set", [⟨"value", type⟩], [], .nonpayable⟩

/-- A contract with two overloads. -/
def overloaded : Contract := ⟨Address.zero, ⟨none, [setter (.uint 256), setter .address], []⟩⟩

/-- The second of two overloads is used for its signature. -/
theorem uses_second_overload : overloaded.Uses "set(address)" (setter .address) := by
  have hmethod : '(' ∈ "set(address)".toList := by decide
  have hother : (setter (.uint 256)).selector ≠ selectorOfHash (Keccak.ofText "set(address)") := by
    rw [selector_of_short (by decide +kernel), Keccak.ofText_of_length_lt (by decide +kernel)]
    decide +kernel
  have hsignature : (setter .address).signature = "set(address)" := by decide +kernel
  have hclashes : ∀ f ∈ overloaded.interface.functions, ¬ f.Clashes "set(address)" := by
    intro f hf hclash
    rcases List.mem_cons.mp hf with rfl | hf
    · exact hother hclash.2
    · obtain rfl := List.mem_singleton.mp hf
      exact hclash.1 hsignature
  rcases (signature_lookup overloaded hmethod).2 hclashes with ⟨f, hf, hsame, huses⟩ | ⟨hnone, -⟩
  · rcases List.mem_cons.mp hf with rfl | hf
    · exact absurd hsame (by decide +kernel)
    · obtain rfl := List.mem_singleton.mp hf
      exact huses
  · exact absurd hsignature (hnone _ (by simp [overloaded]))

/-- A signature that is not in the interface is not always refused: that of
`collate_propagate_storage` has the selector of `burn`, and burns. -/
theorem not_lacks_clashing :
    ¬ ∀ (c : Contract) (method : String), '(' ∈ method.toList →
      (∀ f ∈ c.interface.functions, f.signature ≠ method) → c.Lacks method := by
  intro h
  let burn : Function := ⟨"burn", [⟨"amount", .uint 256⟩], [], .nonpayable⟩
  let method : String := "collate_propagate_storage(bytes16)"
  have hmethod : '(' ∈ method.toList := by decide
  have hsame : burn.selector = selectorOfHash (Keccak.ofText method) := by
    rw [selector_of_short (by decide +kernel), Keccak.ofText_of_length_lt (by decide +kernel)]
    decide +kernel
  have hlacks : (ofFunction burn).Lacks method := by
    refine h _ method hmethod fun f hf => ?_
    obtain rfl := List.mem_singleton.mp hf
    decide +kernel
  rcases uses_or_lacks (ofFunction burn) hmethod with ⟨f, hf, -, huses⟩ | ⟨hnone, -⟩
  · obtain rfl := List.mem_singleton.mp hf
    have hburns := huses.calldata [.uint 1] rfl
    rw [hlacks.calldata] at hburns
    cases hburns
  · exact hnone burn (List.mem_singleton_self burn) hsame

end Contract

end AbiBindings
