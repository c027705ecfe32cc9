import AbiBindings.Generate.Run
import AbiBindings.Proofs.Generate.Names
import AbiBindings.Proofs.Outline.Printed

/-!
# What generated modules define

A generated module defines methods of the type of the contract and a type for each event. Methods
for functions and types for events are told apart by numbers, each among themselves; the methods for
an event are called after the words of its type.

* `Module.methodNames`, `Module.eventTypes`: what a module defines, in the order of its text.
* `Announces`: a text whose lines begin definitions of some names, in order.

Results:
* `Module.announces`: the text of a module defines what the module is said to define.
* `defined_once_iff`: when nothing is defined twice.
* `not_defined_once`: a module may define a method twice.

**Deviation.** Numbers are put behind repeated names without looking whether the numbered name is
there: of `mint`, `mint` and `mint0` the last two are called `mint0`. Nor are the methods for events
told apart from those for functions, or from each other where different types have the same words.
-/

namespace AbiBindings.Generate

/-! ## Names -/

/-- What the names of the methods for an event begin with. -/
def eventVerbs : List String := ["filter_", "watch_", "parse_"]

/-- The methods for an event. -/
def EventRecord.methodNames (e : EventRecord) : List String := eventVerbs.map (· ++ e.method)

/-- The methods of the type of the contract that do not depend on the document. -/
def Module.givenMethods (m : Module) : List String :=
  fixedMethods.filter fun name => name ≠ "deploy" || m.deployment?.isSome

/-- The methods of the type of the contract. -/
def Module.methodNames (m : Module) : List String :=
  m.givenMethods ++ m.methods.map (·.name) ++ m.events.flatMap (·.methodNames)

/-- The types for events. -/
def Module.eventTypes (m : Module) : List String := m.events.map (·.typeName)

/-- The names that the functions ask for. -/
def functionNames (o : Outline) : List String :=
  o.functions.map fun f => escape (Text.snakeCase f.name)

/-- The names that the events ask for. -/
def eventNames (o : Outline) : List String := o.events.map fun e => Text.pascalCase e.name

/-! ## Lines that define them -/

/-- Whether a line begins the definition of a method. -/
def DefinesMethod (name line : String) : Prop :=
  ∃ before ∈ ["pub fn ", "pub async fn "], ∃ after ∈ ['(', '<'],
    before.toList ++ name.toList ++ [after] <+: line.toList

/-- The same in an inner line. -/
def DefinesInner (name line : String) : Prop :=
  ∃ inner, DefinesMethod name inner ∧ line = "    " ++ inner

/-- Whether a line begins the definition of a type. -/
def DefinesType (name line : String) : Prop :=
  ∃ after ∈ ['(', ' ', ';'], "pub struct ".toList ++ name.toList ++ [after] <+: line.toList

/-- Whether there are lines for the names, in order. -/
def Announces (R : String → String → Prop) (names lines : List String) : Prop :=
  ∃ heads, heads.Sublist lines ∧ List.Forall₂ R names heads

namespace Announces

variable {R : String → String → Prop} {names names' lines lines' : List String}

theorem none (lines : List String) : Announces R [] lines := ⟨[], List.nil_sublist _, .nil⟩

theorem single {name line : String} (h : R name line) (hmem : line ∈ lines) :
    Announces R [name] lines :=
  ⟨[line], List.singleton_sublist.mpr hmem, .cons h .nil⟩

theorem append (h : Announces R names lines) (h' : Announces R names' lines') :
    Announces R (names ++ names') (lines ++ lines') := by
  obtain ⟨heads, hsub, hall⟩ := h
  obtain ⟨heads', hsub', hall'⟩ := h'
  exact ⟨heads ++ heads', hsub.append hsub', List.rel_append hall hall'⟩

/-- Lines in front may say anything else. -/
theorem behind (front : List String) (h : Announces R names lines) :
    Announces R names (front ++ lines) := (none front).append h

/-- So may lines at the end. -/
theorem before (h : Announces R names lines) (back : List String) :
    Announces R names (lines ++ back) := by
  obtain ⟨heads, hsub, hall⟩ := h
  exact ⟨heads, hsub.trans (List.sublist_append_left _ _), hall⟩

theorem flatMap {f g : α → List String} (h : ∀ x, Announces R (f x) (g x)) (xs : List α) :
    Announces R (xs.flatMap f) (xs.flatMap g) := by
  induction xs with
  | nil => exact none []
  | cons x xs ih => exact (h x).append ih

/-- Lines that define methods do so as inner lines. -/
theorem indent (h : Announces DefinesMethod names lines) :
    Announces DefinesInner names (Generate.indent lines) := by
  obtain ⟨heads, hsub, hall⟩ := h
  refine ⟨Generate.indent heads, hsub.map _, ?_⟩
  rw [Generate.indent, List.forall₂_map_right_iff]
  refine hall.imp fun name line hline => ⟨line, hline, if_neg ?_⟩
  rintro rfl
  obtain ⟨before, -, after, -, hprefix⟩ := hline
  simpa using hprefix.length_le

theorem block {name head : String} (h : R name (head ++ " \x7b")) (body : List String) :
    Announces R [name] (Generate.block head body) := single h (by simp [Generate.block])

theorem longFunction {name head : String} (h : R name (head ++ "("))
    (parameters : List String) (result : String) (body : List String) :
    Announces R [name] (Generate.longFunction head parameters result body) :=
  single h (by simp [Generate.longFunction])

/-- One more block, behind other lines. -/
theorem andBlock (h : Announces R names lines) (between : List String) {name head : String}
    (hline : R name (head ++ " \x7b")) (body : List String) :
    Announces R (names ++ [name]) (lines ++ between ++ Generate.block head body) :=
  (h.before between).append (block hline body)

/-- One more function whose parameters have a line each. -/
theorem andLongFunction (h : Announces R names lines) (between : List String) {name head : String}
    (hline : R name (head ++ "(")) (parameters : List String) (result : String)
    (body : List String) :
    Announces R (names ++ [name])
      (lines ++ between ++ Generate.longFunction head parameters result body) :=
  (h.before between).append (longFunction hline parameters result body)

end Announces

/-! ### Methods -/

theorem announces_bindingMethods :
    Announces DefinesMethod ["new", "from_handle"] bindingMethods := by
  refine ((Announces.none _).append (.block ?_ _)).andBlock _ ?_ _
  · exact ⟨"pub fn ", by simp, '<', by simp, by simp⟩
  · exact ⟨"pub fn ", by simp, '(', by simp, by simp⟩

theorem announces_deployMethod (arguments : List Argument) :
    Announces DefinesMethod ["deploy"] (deployMethod arguments) :=
  .behind _ (.longFunction ⟨"pub async fn ", by simp, '<', by simp, by simp⟩ _ _ _)

theorem announces_commonMethods :
    Announces DefinesMethod ["address", "handle", "session", "caller_session", "transactor_session"]
      commonMethods := by
  refine (((((Announces.none _).append (.block ?_ _)).andBlock _ ?_ _).andBlock _ ?_ _).andBlock
    _ ?_ _).andBlock _ ?_ _
  all_goals exact ⟨"pub fn ", by simp, '(', by simp, by simp⟩

theorem announces_function (m : Method) : Announces DefinesMethod [m.name] m.lines :=
  .behind _ (.block ⟨"pub fn ", by simp, '(', by simp, by simp⟩ _)

theorem announces_event (e : EventRecord) : Announces DefinesMethod e.methodNames e.methods := by
  refine (((Announces.none _).append (.longFunction ?_ _ _ _)).andLongFunction _ ?_ _ _ _).andBlock
    _ ?_ _
  · exact ⟨"pub async fn ", by simp, '(', by simp, by simp⟩
  · exact ⟨"pub async fn ", by simp, '(', by simp, by simp⟩
  · exact ⟨"pub fn ", by simp, '(', by simp, by simp⟩

/-- The lines in which the type of the contract gets its methods. -/
def Module.methodLines (m : Module) : List String :=
  bindingMethods ++ (m.deployment?.map deployMethod).getD [] ++ commonMethods ++
    m.methods.flatMap (·.lines) ++ m.events.flatMap (·.methods)

theorem Module.lines_eq (m : Module) :
    m.lines = m.head ++ block ("impl " ++ m.typeName) m.methodLines ++
      m.events.flatMap (·.typeLines) := by
  rw [lines, methodLines]
  cases m.deployment? <;> rfl

theorem announces_methodLines (m : Module) :
    Announces DefinesMethod m.methodNames m.methodLines := by
  have hgiven : Announces DefinesMethod m.givenMethods
      (bindingMethods ++ (m.deployment?.map deployMethod).getD [] ++ commonMethods) := by
    rw [Module.givenMethods]
    cases m.deployment? with
    | none => exact (announces_bindingMethods.before _).append announces_commonMethods
    | some arguments =>
      exact (announces_bindingMethods.append (announces_deployMethod arguments)).append
        announces_commonMethods
  rw [Module.methodNames, Module.methodLines, List.map_eq_flatMap]
  exact (hgiven.append (.flatMap announces_function _)).append (.flatMap announces_event _)

/-! ### Types -/

theorem announces_declaration (e : EventRecord) :
    Announces DefinesType [e.typeName] e.declaration := by
  rw [EventRecord.declaration]
  split
  · exact .single ⟨';', by simp, by simp⟩ (List.mem_singleton_self _)
  · exact .block ⟨' ', by simp, by simp⟩ _

theorem announces_typeLines (e : EventRecord) : Announces DefinesType [e.typeName] e.typeLines :=
  (((announces_declaration e).behind _).before _).before _

theorem announces_head (m : Module) : Announces DefinesType [m.typeName] m.head := by
  have hline : DefinesType m.typeName ("pub struct " ++ m.typeName ++ "(ContractHandle);") :=
    ⟨'(', by simp, by simp⟩
  exact .single hline (by simp [Module.head])

/-- The text of a module defines the methods and the types in this order. -/
theorem Module.announces (m : Module) :
    Announces DefinesInner m.methodNames m.lines ∧
      Announces DefinesType (m.typeName :: m.eventTypes) m.lines := by
  rw [lines_eq]
  constructor
  · exact ((((announces_methodLines m).indent.behind _).before _).behind _).before _
  · rw [Module.eventTypes, List.map_eq_flatMap]
    exact ((announces_head m).before _).append (.flatMap announces_typeLines _)

/-! ## When nothing is defined twice -/

theorem verb_append_inj {v w a b : String} (hv : v ∈ eventVerbs) (hw : w ∈ eventVerbs)
    (h : v ++ a = w ++ b) : v = w ∧ a = b := by
  have hfree : ∀ v ∈ eventVerbs, ∀ w ∈ eventVerbs, v.toList <+: w.toList → v = w := by decide
  have hlist : v.toList ++ a.toList = w.toList ++ b.toList := by
    rw [← String.toList_append, h, String.toList_append]
  have hverbs : v = w := by
    rcases List.append_eq_append_iff.mp hlist with ⟨more, hmore, -⟩ | ⟨more, hmore, -⟩
    · exact hfree v hv w hw ⟨more, hmore.symm⟩
    · exact (hfree w hw v hv ⟨more, hmore.symm⟩).symm
  subst hverbs
  exact ⟨rfl, String.toList_inj.mp (List.append_cancel_left hlist)⟩

theorem verb_append_notMem_fixed {v : String} (hv : v ∈ eventVerbs) (a : String) :
    v ++ a ∉ fixedMethods := by
  have hfree : ∀ v ∈ eventVerbs, ∀ name ∈ fixedMethods, ¬ v.toList <+: name.toList := by decide
  intro h
  exact hfree v hv _ h ⟨a.toList, String.toList_append.symm⟩

/-- No method for a function is called like one that every type has. -/
theorem fixed_notMem_methodNames {name : String} (h : name ∈ fixedMethods) (o : Outline) :
    name ∉ methodNames o := by
  have hdigits : ∀ name ∈ fixedMethods, endsInDigit name = false := by decide
  exact notMem_distinctNames h (hdigits name h) _

theorem mem_eventMethodNames {es : List EventRecord} {name : String} :
    name ∈ es.flatMap (·.methodNames) ↔
      ∃ v ∈ eventVerbs, ∃ word ∈ es.map (·.method), name = v ++ word := by
  simp only [EventRecord.methodNames, List.mem_flatMap, List.mem_map]
  constructor
  · rintro ⟨e, he, v, hv, rfl⟩
    exact ⟨v, hv, e.method, ⟨e, he, rfl⟩, rfl⟩
  · rintro ⟨v, hv, -, ⟨e, he, rfl⟩, rfl⟩
    exact ⟨e, he, v, hv, rfl⟩

/-- The methods for events differ exactly if the words of the types do. -/
theorem nodup_eventMethodNames (es : List EventRecord) :
    (es.flatMap (·.methodNames)).Nodup ↔ (es.map (·.method)).Nodup := by
  induction es with
  | nil => simp
  | cons e es ih =>
    have hself : e.methodNames.Nodup := by
      refine List.Nodup.map_on (fun v hv w hw h => (verb_append_inj hv hw h).1) ?_
      decide
    rw [List.flatMap_cons, List.nodup_append, ih, List.map_cons, List.nodup_cons]
    constructor
    · rintro ⟨-, hrest, hdisjoint⟩
      refine ⟨fun hmem => ?_, hrest⟩
      have hverb : "filter_" ∈ eventVerbs := by decide
      exact hdisjoint _ (List.mem_map_of_mem hverb) _
        (mem_eventMethodNames.mpr ⟨_, hverb, _, hmem, rfl⟩) rfl
    · rintro ⟨hnew, hrest⟩
      refine ⟨hself, hrest, fun name hname other hother h => hnew ?_⟩
      obtain ⟨v, hv, rfl⟩ := List.mem_map.mp hname
      obtain ⟨w, hw, word, hword, rfl⟩ := mem_eventMethodNames.mp hother
      rwa [(verb_append_inj hv hw h).2]

section

variable (contract : String) (deployable : Bool) (o : Outline)

theorem names_ofOutline :
    (Module.ofOutline contract deployable o).methods.map (·.name) = methodNames o := by
  rw [Module.ofOutline, List.map_map]
  exact List.map_snd_zip (length_methodNames o).le

theorem eventTypes_ofOutline :
    (Module.ofOutline contract deployable o).eventTypes =
      eventTypeNames (Text.pascalCase contract) o := by
  rw [Module.eventTypes, Module.ofOutline, List.map_map]
  exact List.map_snd_zip (length_eventTypeNames _ o).le

theorem eventWords_ofOutline :
    (Module.ofOutline contract deployable o).events.map (·.method) =
      (eventTypeNames (Text.pascalCase contract) o).map Text.snakeCase := by
  rw [← eventTypes_ofOutline contract deployable, Module.eventTypes, Module.ofOutline,
    List.map_map, List.map_map, List.map_map]
  rfl

end

/-- The methods of a module differ exactly if no name of a function clashes, no two types for events
have the same words, and no method for an event is called like one for a function. -/
theorem nodup_methodNames_iff (contract : String) (deployable : Bool) (o : Outline) :
    let words := (eventTypeNames (Text.pascalCase contract) o).map Text.snakeCase
    (Module.ofOutline contract deployable o).methodNames.Nodup ↔
      ¬ Clash (fixedMethods ++ functionNames o) ∧ words.Nodup ∧
        ∀ v ∈ eventVerbs, ∀ word ∈ words, v ++ word ∉ methodNames o := by
  intro words
  have hgiven : (Module.ofOutline contract deployable o).givenMethods ⊆ fixedMethods :=
    fun name h => (List.mem_filter.mp h).1
  have hfunctions : (methodNames o).Nodup ↔ ¬ Clash (fixedMethods ++ functionNames o) := by
    have hfixed : fixedMethods.eraseDups = fixedMethods := by decide
    have h := distinctNames_iff fixedMethods (functionNames o)
    rw [hfixed] at h
    have havoids : ∀ name ∈ methodNames o, name ∉ fixedMethods :=
      fun name hname htaken => fixed_notMem_methodNames htaken o hname
    exact (and_iff_left havoids).symm.trans h
  rw [Module.methodNames, List.nodup_append, List.nodup_append, nodup_eventMethodNames,
    names_ofOutline, eventWords_ofOutline, hfunctions]
  constructor
  · rintro ⟨⟨-, hclash, -⟩, hwords, hdisjoint⟩
    refine ⟨hclash, hwords, fun v hv word hword hmem => ?_⟩
    refine hdisjoint _ (List.mem_append_right _ hmem) _ (mem_eventMethodNames.mpr ?_) rfl
    exact ⟨v, hv, word, by rwa [eventWords_ofOutline], rfl⟩
  · rintro ⟨hclash, hwords, hdisjoint⟩
    refine ⟨⟨List.Nodup.filter _ (by decide), hclash, ?_⟩, hwords, ?_⟩
    · rintro name hname _ hmem rfl
      exact fixed_notMem_methodNames (hgiven hname) o hmem
    · rintro name hname _ hmem rfl
      obtain ⟨v, hv, word, hword, rfl⟩ := mem_eventMethodNames.mp hmem
      rw [eventWords_ofOutline] at hword
      rcases List.mem_append.mp hname with hname | hname
      · exact verb_append_notMem_fixed hv word (hgiven hname)
      · exact hdisjoint v hv word hword hname

/-- The text of a module defines its methods and types in order. Whether a method or a type is
defined twice is decided by the names: nothing may clash among the functions with the methods that
every type has, nor among the events with the type of the contract, and the methods for events have
to differ from each other and from those for functions. -/
theorem defined_once_iff (contract : String) (deployable : Bool) (o : Outline) :
    let m := Module.ofOutline contract deployable o
    let words := (eventTypeNames m.typeName o).map Text.snakeCase
    Announces DefinesInner m.methodNames m.lines ∧
      Announces DefinesType (m.typeName :: m.eventTypes) m.lines ∧
      (m.methodNames.Nodup ↔
        ¬ Clash (fixedMethods ++ functionNames o) ∧ words.Nodup ∧
          ∀ v ∈ eventVerbs, ∀ word ∈ words, v ++ word ∉ methodNames o) ∧
      (m.eventTypes.Nodup ∧ (∀ name ∈ m.eventTypes, name ≠ m.typeName ∧ name ≠ "METADATA") ↔
        ¬ Clash ([m.typeName, "METADATA"].eraseDups ++ eventNames o)) ∧
      ∀ taken names,
        (distinctNames taken names).Nodup ∧ (∀ name ∈ distinctNames taken names, name ∉ taken) ↔
          ¬ Clash (taken.eraseDups ++ names) := by
  intro m words
  refine ⟨m.announces.1, m.announces.2, nodup_methodNames_iff contract deployable o, ?_,
    distinctNames_iff⟩
  have hevents : m.eventTypes = distinctNames [m.typeName, "METADATA"] (eventNames o) :=
    eventTypes_ofOutline contract deployable o
  rw [hevents, ← distinctNames_iff]
  simp only [List.mem_cons, List.not_mem_nil, or_false, not_or]

/-- The outline of three functions, two of which have one name and the third is called like the
second one of these when it is numbered, with its document. -/
def mints : Outline where
  constructor? := none
  functions := [
    ⟨"mint", [], [], "nonpayable"⟩,
    ⟨"mint", [⟨"amount", "uint256", none, false⟩], [], "nonpayable"⟩,
    ⟨"mint0", [], [], "nonpayable"⟩]
  events := []
  document := .array [
    .object [
      ("inputs", .array []), ("name", .text "mint"), ("outputs", .array []),
      ("type", .text "function")],
    .object [
      ("inputs", .array [.object [("name", .text "amount"), ("type", .text "uint256")]]),
      ("name", .text "mint"), ("outputs", .array []), ("type", .text "function")],
    .object [
      ("inputs", .array []), ("name", .text "mint0"), ("outputs", .array []),
      ("type", .text "function")]]

theorem read_mints : Json.parse mints.document.pretty = some mints.document :=
  Json.parse_pretty_self rfl rfl (by decide)

/-- Not every module defines everything once: two of these methods are called `mint0`. -/
theorem not_defined_once :
    ¬ ∀ (contract text : String) (o : Outline) (deployable : Bool), checkName contract = .ok () →
      Outline.parse text = .ok o →
        let m := Module.ofOutline contract deployable o
        m.methodNames.Nodup ∧ m.eventTypes.Nodup ∧
          ∀ name ∈ m.eventTypes, name ≠ m.typeName ∧ name ≠ "METADATA" := by
  intro h
  have ho : Outline.parse mints.document.pretty = .ok mints :=
    (Outline.parse_of_read read_mints).trans rfl
  have hnames := (h "Coin" _ mints false (by decide +kernel) ho).1
  revert hnames
  decide +kernel

end AbiBindings.Generate
