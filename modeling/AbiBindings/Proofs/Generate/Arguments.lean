import AbiBindings.Proofs.Generate.Definitions
import AbiBindings.Proofs.Text.Words

/-!
# Names of arguments and fields

An argument is called after the words of its parameter, or after the position of a parameter without
words. Words that are reserved get an underscore behind them, which words do not have themselves.
So two arguments of one signature have one name exactly if their parameters are alike.

* `Alike`: parameters with the same words, or one of which is called after its position as the other
  one is after its words.
* `Scope`: a place of the text that declares names for parameters.
* `scopes`: the deployment, the methods for functions and events, and the types for events.

Results:
* `escape_injective`, `escape_notMem_reserved`: what the underscore behind reserved words does.
* `argumentName_eq_iff`: when two arguments have one name.
* `standsIn_of_mem_scopes`: the text of a module declares the names of every scope.
* `argument_names`: when the names of a scope differ from each other and from those around them.
* `not_argument_names`: they may not.

**Deviation.** Arguments and fields are not told apart as methods are: `to` and `_to` of one
function are both called `to`. Nor is `topics` reserved, the function that the methods for events
call with their arguments.
-/

namespace AbiBindings.Generate

/-! ## Reserved words -/

theorem escape_cases (name : String) :
    escape name = name ∧ name ∉ reserved ∨ escape name = name ++ "_" ∧ name ∈ reserved := by
  rw [escape]
  split
  case isTrue h => exact .inr ⟨rfl, by simpa using h⟩
  case isFalse h => exact .inl ⟨rfl, by simpa using h⟩

/-- Nothing is reserved once it has its underscore. -/
theorem escape_notMem_reserved (name : String) : escape name ∉ reserved := by
  have hreserved : ∀ name ∈ reserved, name ++ "_" ∉ reserved := by decide
  rcases escape_cases name with ⟨heq, h⟩ | ⟨heq, h⟩
  · rwa [heq]
  · exact heq ▸ hreserved name h

/-- Words that do not end in an underscore stay apart. -/
theorem escape_injective {a b : String} (ha : ∀ front, a ≠ front ++ "_")
    (hb : ∀ front, b ≠ front ++ "_") (h : escape a = escape b) : a = b := by
  rcases escape_cases a with ⟨heqa, -⟩ | ⟨heqa, -⟩ <;>
    rcases escape_cases b with ⟨heqb, -⟩ | ⟨heqb, -⟩ <;> rw [heqa, heqb] at h
  · exact h
  · exact absurd h (ha b)
  · exact absurd h.symm (hb a)
  · exact (String.append_left_inj "_").mp h

/-! ## Names of arguments -/

/-- What an argument is called for its position. -/
def positionName (position : Nat) : String := "arg" ++ toString position

/-- Whether two parameters with their positions are called alike. -/
def Alike (p q : Outline.Param × Nat) : Prop :=
  let a := Text.snakeCase p.1.name
  let b := Text.snakeCase q.1.name
  (a = b ∧ a ≠ "") ∨ (a = "" ∧ b = positionName p.2) ∨ (b = "" ∧ a = positionName q.2)

theorem endsInDigit_positionName (position : Nat) : endsInDigit (positionName position) = true :=
  endsInDigit_append_number _ _

theorem positionName_ne_append_underscore (position : Nat) (front : String) :
    positionName position ≠ front ++ "_" := by
  intro h
  have hdigit := endsInDigit_positionName position
  rw [h, endsInDigit, String.toList_append, List.getLast?_append] at hdigit
  cases hdigit

theorem positionName_notMem_reserved (position : Nat) : positionName position ∉ reserved := by
  have hreserved : ∀ name ∈ reserved, endsInDigit name = false := by decide
  intro h
  have hdigit := endsInDigit_positionName position
  rw [hreserved _ h] at hdigit
  cases hdigit

theorem positionName_ne_empty (position : Nat) : positionName position ≠ "" := by
  intro h
  have hdigit := endsInDigit_positionName position
  rw [h] at hdigit
  cases hdigit

theorem escape_positionName (position : Nat) :
    escape (positionName position) = positionName position :=
  ((escape_cases _).resolve_right fun h => positionName_notMem_reserved position h.2).1

theorem positionName_injective {m n : Nat} (h : positionName m = positionName n) : m = n := by
  have hlist := congrArg String.toList h
  simp only [positionName, String.toList_append, toList_number] at hlist
  exact toDigits_injective (List.append_cancel_left hlist)

/-- What an argument is called after: the words of its parameter, else the position. -/
def label (p : Outline.Param × Nat) : String :=
  if Text.snakeCase p.1.name = "" then positionName p.2 else Text.snakeCase p.1.name

theorem argumentName_eq_escape (p : Outline.Param × Nat) :
    argumentName p.1 p.2 = escape (label p) := by
  rw [argumentName, label]
  split
  · exact (escape_positionName p.2).symm
  · rfl

theorem label_ne_append_underscore (p : Outline.Param × Nat) (front : String) :
    label p ≠ front ++ "_" := by
  rw [label]
  split
  · exact positionName_ne_append_underscore _ _
  · exact Text.snakeCase_ne_append_underscore _ _

/-- Labels at different positions agree exactly if the parameters are alike. -/
theorem label_eq_iff {p q : Outline.Param × Nat} (h : p.2 ≠ q.2) :
    label p = label q ↔ Alike p q := by
  have hpositions : positionName p.2 ≠ positionName q.2 := fun heq => h (positionName_injective heq)
  unfold label Alike
  by_cases hp : Text.snakeCase p.1.name = "" <;> by_cases hq : Text.snakeCase q.1.name = ""
  · simp [hp, hq, hpositions, (positionName_ne_empty _).symm]
  · simpa [hp, hq] using eq_comm
  · simp [hp, hq]
  · simp [hp, hq]

/-- Arguments at different positions have one name exactly if their parameters are alike. -/
theorem argumentName_eq_iff {p q : Outline.Param × Nat} (h : p.2 ≠ q.2) :
    argumentName p.1 p.2 = argumentName q.1 q.2 ↔ Alike p q := by
  rw [← label_eq_iff h, argumentName_eq_escape, argumentName_eq_escape]
  exact ⟨escape_injective (label_ne_append_underscore p) (label_ne_append_underscore q),
    congrArg escape⟩

/-- No argument is called like a reserved word. -/
theorem argumentName_notMem_reserved (p : Outline.Param × Nat) :
    argumentName p.1 p.2 ∉ reserved := by
  rw [argumentName_eq_escape]
  exact escape_notMem_reserved _

/-- Only the words of a parameter can give its argument the name of a function that is called. -/
theorem argumentName_eq_topics_iff (p : Outline.Param × Nat) :
    argumentName p.1 p.2 = "topics" ↔ Text.snakeCase p.1.name = "topics" := by
  have hopen : ∀ front : String, "topics" ≠ front ++ "_" := by
    intro front h
    have hlast := congrArg (fun s => s.toList.getLast?) h
    simp at hlast
  have hescape : escape "topics" = "topics" := by decide
  rw [argumentName_eq_escape, label]
  constructor
  · intro h
    have hlabel := escape_injective (label_ne_append_underscore p) hopen (h.trans hescape.symm)
    rw [label] at hlabel
    split at hlabel
    · have hdigit := endsInDigit_positionName p.2
      rw [hlabel] at hdigit
      exact absurd hdigit (by decide)
    · exact hlabel
  · intro h
    rw [h, if_neg (by decide), hescape]

/-! ## Scopes -/

/-- A place of the text that declares names for parameters, behind names of its own. -/
structure Scope where
  /-- What the text says first. -/
  head : String
  /-- The names that do not depend on the parameters. -/
  given : List String
  /-- The functions that the text calls with the arguments. -/
  called : List String
  /-- The parameters with their positions. -/
  params : List (Outline.Param × Nat)

namespace Scope

/-- The names for the parameters. -/
def arguments (s : Scope) : List String := s.params.map fun p => argumentName p.1 p.2

/-- The names that the text declares. -/
def names (s : Scope) : List String := s.given ++ s.arguments

/-- The deployment. -/
def ofDeployment (o : Outline) : Scope :=
  ⟨"    pub async fn deploy<B: ContractBackend + 'static>", ["opts", "backend"], [],
    ((o.constructor?.map (·.inputs)).getD []).zipIdx⟩

/-- The method of a name for a function. -/
def ofFunction (f : Outline.Function) (name : String) : Scope :=
  ⟨"    pub fn " ++ name, ["self"], [], f.inputs.zipIdx⟩

/-- The methods that select logs of an event, and the type of a name for the event. -/
def ofEvent (e : Outline.Event) (typeName : String) : List Scope :=
  let indexed := e.inputs.zipIdx.filter fun p => p.1.indexed
  let method := Text.snakeCase typeName
  [⟨"    pub async fn filter_" ++ method, ["self", "opts"], ["topics"], indexed⟩,
    ⟨"    pub async fn watch_" ++ method, ["self", "opts", "sink"], ["topics"], indexed⟩,
    ⟨"pub struct " ++ typeName, [], [], e.inputs.zipIdx⟩]

end Scope

/-- The scopes of a module. -/
def scopes (contract : String) (deployable : Bool) (o : Outline) : List Scope :=
  (if deployable then [Scope.ofDeployment o] else []) ++
    (o.functions.zip (methodNames o)).map (fun p => Scope.ofFunction p.1 p.2) ++
    (o.events.zip (eventTypeNames (Text.pascalCase contract) o)).flatMap
      fun p => Scope.ofEvent p.1 p.2

/-- A scope is the deployment, the method for a function, or one of those for an event. -/
theorem mem_scopes {contract : String} {deployable : Bool} {o : Outline} {s : Scope} :
    s ∈ scopes contract deployable o ↔
      (deployable = true ∧ s = Scope.ofDeployment o) ∨
      (∃ f name, (f, name) ∈ o.functions.zip (methodNames o) ∧ s = Scope.ofFunction f name) ∨
      ∃ e typeName, (e, typeName) ∈ o.events.zip (eventTypeNames (Text.pascalCase contract) o) ∧
        s ∈ Scope.ofEvent e typeName := by
  have hdeployment : s ∈ (if deployable then [Scope.ofDeployment o] else []) ↔
      deployable = true ∧ s = Scope.ofDeployment o := by cases deployable <;> simp
  rw [scopes, List.mem_append, List.mem_append, or_assoc, hdeployment, List.mem_map,
    List.mem_flatMap]
  refine or_congr_right (or_congr ?_ ?_)
  · exact ⟨fun ⟨⟨f, name⟩, hmem, heq⟩ => ⟨f, name, hmem, heq.symm⟩,
      fun ⟨f, name, hmem, heq⟩ => ⟨(f, name), hmem, heq.symm⟩⟩
  · exact ⟨fun ⟨⟨e, typeName⟩, hmem, hs⟩ => ⟨e, typeName, hmem, hs⟩,
      fun ⟨e, typeName, hmem, hs⟩ => ⟨(e, typeName), hmem, hs⟩⟩

/-! ## The text of scopes -/

/-- Whether a text declares a name: with its type, or by itself if it is the receiver. -/
def DeclaresName (name text : String) : Prop :=
  text = "&" ++ name ∨ ∃ type, text = name ++ ": " ++ type

/-- Whether lines begin with a head and declare names in order. -/
inductive Declares (head : String) : List String → List String → Prop
  /-- There is nothing to declare. -/
  | nothing : Declares head [] [head ++ ";"]
  /-- All names stand between brackets in the line of the head. -/
  | within {names texts : List String} (h : List.Forall₂ DeclaresName names texts) (rest : String) :
    Declares head names [head ++ "(" ++ ", ".intercalate texts ++ ")" ++ rest]
  /-- Every name has a line of its own. -/
  | below {names texts : List String} (h : List.Forall₂ DeclaresName names texts)
    (opening lead closing : String) :
    Declares head names
      ([head ++ opening] ++ texts.map (fun text => lead ++ text ++ ",") ++ [closing])

/-- Whether a line calls a function with each of some arguments. -/
def Calls (function : String) (arguments : List String) (line : String) : Prop :=
  ∃ before after,
    line = before ++ ", ".intercalate (arguments.map fun a => function ++ "(" ++ a ++ ")") ++ after

/-- Whether lines declare the names of a scope, and call in the next line what the scope calls. -/
def Scope.StandsIn (s : Scope) (lines : List String) : Prop :=
  ∃ declarations next, Declares s.head s.names declarations ∧
    (∀ function ∈ s.called, Calls function s.arguments next) ∧ declarations ++ [next] <:+: lines

theorem Scope.StandsIn.mono {s : Scope} {lines lines' : List String} (h : s.StandsIn lines)
    (hin : lines <:+: lines') : s.StandsIn lines' := by
  obtain ⟨declarations, next, hdeclares, hcalls, hlines⟩ := h
  exact ⟨declarations, next, hdeclares, hcalls, hlines.trans hin⟩

theorem declaresName_declaration (arguments : List Argument) :
    List.Forall₂ DeclaresName (arguments.map (·.name)) (arguments.map (·.declaration)) := by
  rw [List.forall₂_map_left_iff, List.forall₂_map_right_iff, List.forall₂_same]
  exact fun a _ => .inr ⟨a.type, rfl⟩

theorem names_argumentsFor (params : List (Outline.Param × Nat)) :
    (argumentsFor params).map (·.name) = params.map fun p => argumentName p.1 p.2 := by
  simp only [argumentsFor, List.map_map, Function.comp_def]

theorem names_fields (e : Outline.Event) (typeName : String) :
    (EventRecord.ofEvent e typeName).fields.map (·.name) =
      e.inputs.zipIdx.map fun p => argumentName p.1 p.2 := by
  simp only [EventRecord.ofEvent, List.map_map, Function.comp_def]

theorem append_ne_empty (text : String) {more : String} (h : more ≠ "") : text ++ more ≠ "" := by
  intro heq
  have hlength := congrArg String.length heq
  simp only [String.length_append, String.length_empty] at hlength
  exact h (String.length_eq_zero_iff.mp (by omega))

theorem indent_append (xs ys : List String) : indent (xs ++ ys) = indent xs ++ indent ys :=
  List.map_append

theorem indent_singleton {line : String} (h : line ≠ "") : indent [line] = ["    " ++ line] := by
  rw [indent, List.map_singleton, if_neg h]

/-- The parameters of an inner function that have a line each. -/
theorem indent_parameters (parameters : List String) :
    indent (indent (parameters.map (· ++ ","))) =
      parameters.map fun text => "        " ++ text ++ "," := by
  have hcomma : ∀ text : String, text ++ "," ≠ "" := fun text => append_ne_empty text (by decide)
  have hinner : ∀ text : String, "    " ++ (text ++ ",") ≠ "" :=
    fun text => append_ne_empty _ (hcomma text)
  have hblanks : "    " ++ "    " = "        " := by decide
  rw [indent, indent, List.map_map, List.map_map]
  refine List.map_congr_left fun text _ => ?_
  simp only [Function.comp_apply, hcomma, hinner, if_false]
  rw [← String.append_assoc, ← String.append_assoc, hblanks]

/-- An inner function whose parameters have a line each declares their names. -/
theorem standsIn_longFunction {s : Scope} {name : String} {parameters : List String}
    (hhead : s.head = "    " ++ name) (hparameters : List.Forall₂ DeclaresName s.names parameters)
    (result : String) {first : String} (hfirst : first ≠ "")
    (hcalls : ∀ function ∈ s.called, Calls function s.arguments first) (rest : List String) :
    s.StandsIn (indent (longFunction name parameters result (first :: rest))) := by
  have hopen : name ++ "(" ≠ "" := append_ne_empty _ (by decide)
  have hclose : ") -> " ++ result ++ " \x7b" ≠ "" := append_ne_empty _ (by decide)
  have hlines : indent (longFunction name parameters result (first :: rest)) =
      [s.head ++ "("] ++ parameters.map (fun text => "        " ++ text ++ ",") ++
        ["    " ++ (") -> " ++ result ++ " \x7b")] ++ ["    " ++ ("    " ++ first)] ++
          indent (indent rest ++ ["\x7d"]) := by
    have hbody : first :: rest = [first] ++ rest := rfl
    have hheadLine : s.head ++ "(" = "    " ++ (name ++ "(") := by rw [hhead, String.append_assoc]
    rw [longFunction, block, hbody, indent_append [first], indent_singleton hfirst, hheadLine]
    simp only [indent_append, indent_singleton hopen, indent_singleton hclose, indent_parameters,
      indent_singleton (append_ne_empty "    " hfirst), List.append_assoc]
  have hdeclares : Declares s.head s.names _ :=
    .below hparameters "(" "        " ("    " ++ (") -> " ++ result ++ " \x7b"))
  refine ⟨_, "    " ++ ("    " ++ first), hdeclares, fun function hfunction => ?_, ?_⟩
  · obtain ⟨before, after, rfl⟩ := hcalls function hfunction
    exact ⟨"    " ++ ("    " ++ before), after, by simp only [String.append_assoc]⟩
  · rw [hlines]
    exact (List.prefix_append _ _).isInfix

theorem append_join_eq_intercalate (first : String) (rest : List String) :
    first ++ String.join (rest.map (", " ++ ·)) = ", ".intercalate (first :: rest) := by
  induction rest generalizing first with
  | nil => simp [String.join]
  | cons next rest ih => simp [String.join_cons, ← ih, String.append_assoc]

theorem names_deploymentArguments (o : Outline) :
    (Scope.ofDeployment o).arguments = (deploymentArguments o).map (·.name) := by
  rw [Scope.arguments, Scope.ofDeployment, deploymentArguments]
  cases o.constructor? with
  | none => rfl
  | some f => exact (names_argumentsFor _).symm

/-- A deployment declares the arguments of the constructor behind what it is given. -/
theorem standsIn_deployMethod (o : Outline) :
    (Scope.ofDeployment o).StandsIn (indent (deployMethod (deploymentArguments o))) := by
  rw [deployMethod, indent_append]
  refine Scope.StandsIn.mono ?_ List.infix_append_right
  refine standsIn_longFunction rfl ?_ _ (append_ne_empty _ (by decide))
    (by simp [Scope.ofDeployment]) _
  rw [Scope.names, names_deploymentArguments]
  exact .cons (.inr ⟨"&TransactOpts", rfl⟩)
    (.cons (.inr ⟨"Arc<B>", rfl⟩) (declaresName_declaration _))

/-- The lines of a method for a function: its summary, its head and its call. -/
theorem Method.lines_eq (m : Method) : ∃ result call, call ≠ "" ∧ m.lines =
    ["", "/// `" ++ m.summary ++ "`"] ++
      block ("pub fn " ++ m.name ++ "(&self" ++
        String.join (m.arguments.map fun a => ", " ++ a.declaration) ++ ") -> " ++ result)
        [call] := by
  rw [Method.lines]
  cases m.result? with
  | none => exact ⟨"ContractTransaction", _, append_ne_empty _ (by decide), rfl⟩
  | some type => exact ⟨"ContractCall<" ++ type ++ ">", _, append_ne_empty _ (by decide), rfl⟩

/-- The head of a method for a function declares its arguments behind the receiver. -/
theorem standsIn_method {m : Method} {f : Outline.Function}
    (h : (Scope.ofFunction f m.name).arguments = m.arguments.map (·.name)) :
    (Scope.ofFunction f m.name).StandsIn (indent m.lines) := by
  obtain ⟨result, call, hcall, hlines⟩ := m.lines_eq
  have hparameters : List.Forall₂ DeclaresName (Scope.ofFunction f m.name).names
      ("&self" :: m.arguments.map (·.declaration)) := by
    rw [Scope.names, h]
    exact .cons (.inl rfl) (declaresName_declaration m.arguments)
  have hdeclares : Declares ("    pub fn " ++ m.name) (Scope.ofFunction f m.name).names _ :=
    .within hparameters (" -> " ++ result ++ " \x7b")
  have hline : "    " ++ ("pub fn " ++ m.name ++ "(&self" ++
      String.join (m.arguments.map fun a => ", " ++ a.declaration) ++ ") -> " ++ result ++
        " \x7b") =
        "    pub fn " ++ m.name ++ "(" ++
          ", ".intercalate ("&self" :: m.arguments.map (·.declaration)) ++ ")" ++
            (" -> " ++ result ++ " \x7b") := by
    have hhead : "    pub fn " = "    " ++ "pub fn " := by decide
    have hself : "(&self" = "(" ++ "&self" := by decide
    have hclose : ") -> " = ")" ++ " -> " := by decide
    rw [← append_join_eq_intercalate, List.map_map, hhead, hself, hclose]
    simp only [String.append_assoc]
    rfl
  refine ⟨_, "    " ++ ("    " ++ call), hdeclares, by simp [Scope.ofFunction], ?_⟩
  rw [hlines, block, indent_append, indent_append, indent_append, indent_singleton hcall,
    indent_singleton (append_ne_empty _ hcall), indent_singleton (append_ne_empty _ (by decide)),
    hline]
  exact List.infix_append' _ _ _

/-! ### Events -/

theorem declaresName_parameters (e : EventRecord) :
    List.Forall₂ DeclaresName (e.selectors.map (·.name)) e.parameters := by
  rw [EventRecord.parameters, List.forall₂_map_left_iff, List.forall₂_map_right_iff,
    List.forall₂_same]
  exact fun a _ => .inr ⟨"&[" ++ a.type ++ "]", by simp only [String.append_assoc]; rfl⟩

/-- Logs are selected by the topics of the arguments. -/
theorem calls_topics (e : EventRecord) (before after : String) :
    Calls "topics" (e.selectors.map (·.name)) (before ++ e.topics ++ after) := by
  refine ⟨before ++ "vec![", "]" ++ after, ?_⟩
  rw [EventRecord.topics, List.map_map]
  simp only [String.append_assoc]
  rfl

/-- The method that reads past logs. -/
def EventRecord.filterMethod (e : EventRecord) : List String :=
  longFunction ("pub async fn filter_" ++ e.method) (["&self", "opts: &FilterOpts"] ++ e.parameters)
    ("Result<EventIterator<" ++ e.typeName ++ ">>")
    ["self.0.filter(opts, " ++ e.topics ++ ").await"]

/-- The method that watches for logs. -/
def EventRecord.watchMethod (e : EventRecord) : List String :=
  longFunction ("pub async fn watch_" ++ e.method)
    (["&self", "opts: &WatchOpts", "sink: mpsc::Sender<EventRecord<" ++ e.typeName ++ ">>"] ++
      e.parameters)
    "Result<WatchSubscription>"
    ["self.0.watch(opts, sink, " ++ e.topics ++ ").await"]

theorem EventRecord.infix_methods (e : EventRecord) :
    e.filterMethod <:+: e.methods ∧ e.watchMethod <:+: e.methods := by
  rw [methods, ← filterMethod, ← watchMethod]
  constructor
  · iterate 4 apply List.infix_append_of_infix_left
    exact List.infix_append_right
  · iterate 2 apply List.infix_append_of_infix_left
    exact List.infix_append_right

section

variable {e : EventRecord} {s : Scope}

theorem standsIn_filterMethod (hhead : s.head = "    pub async fn filter_" ++ e.method)
    (hgiven : s.given = ["self", "opts"]) (hcalled : ∀ function ∈ s.called, function = "topics")
    (h : s.arguments = e.selectors.map (·.name)) : s.StandsIn (indent e.filterMethod) := by
  have hlead : "    pub async fn filter_" = "    " ++ "pub async fn filter_" := by decide
  refine standsIn_longFunction (by rw [hhead, hlead, String.append_assoc]) ?_ _
    (append_ne_empty _ (by decide)) (fun function hfunction => ?_) []
  · rw [Scope.names, hgiven, h]
    exact .cons (.inl rfl) (.cons (.inr ⟨"&FilterOpts", rfl⟩) (declaresName_parameters e))
  · rw [hcalled function hfunction, h]
    exact calls_topics e "self.0.filter(opts, " ").await"

theorem standsIn_watchMethod (hhead : s.head = "    pub async fn watch_" ++ e.method)
    (hgiven : s.given = ["self", "opts", "sink"])
    (hcalled : ∀ function ∈ s.called, function = "topics")
    (h : s.arguments = e.selectors.map (·.name)) : s.StandsIn (indent e.watchMethod) := by
  have hlead : "    pub async fn watch_" = "    " ++ "pub async fn watch_" := by decide
  have hsink : DeclaresName "sink" ("sink: mpsc::Sender<EventRecord<" ++ e.typeName ++ ">>") := by
    have hname : "sink: mpsc::Sender<EventRecord<" = "sink: " ++ "mpsc::Sender<EventRecord<" := by
      decide
    exact .inr ⟨"mpsc::Sender<EventRecord<" ++ e.typeName ++ ">>", by
      rw [hname]; simp only [String.append_assoc]; rfl⟩
  refine standsIn_longFunction (by rw [hhead, hlead, String.append_assoc]) ?_ _
    (append_ne_empty _ (by decide)) (fun function hfunction => ?_) []
  · rw [Scope.names, hgiven, h]
    exact .cons (.inl rfl) (.cons (.inr ⟨"&WatchOpts", rfl⟩) (.cons hsink
      (declaresName_parameters e)))
  · rw [hcalled function hfunction, h]
    exact calls_topics e "self.0.watch(opts, sink, " ").await"

/-- A type for an event declares the names of its fields. -/
theorem standsIn_typeLines (hhead : s.head = "pub struct " ++ e.typeName) (hgiven : s.given = [])
    (hcalled : s.called = []) (h : s.arguments = e.fields.map (·.name)) :
    s.StandsIn e.typeLines := by
  have hnames : s.names = e.fields.map (·.name) := by rw [Scope.names, hgiven, h, List.nil_append]
  have hcalls : ∀ function ∈ s.called, Calls function s.arguments "" := by simp [hcalled]
  suffices hdeclares : Declares s.head s.names e.declaration by
    refine ⟨_, "", hdeclares, hcalls, ?_⟩
    rw [EventRecord.typeLines, List.append_assoc, List.append_assoc,
      ← List.append_assoc e.declaration]
    exact List.infix_append' _ _ _
  rw [EventRecord.declaration, hnames, hhead]
  split
  case h_1 hnil => exact hnil ▸ .nothing
  case h_2 =>
    have hbody : indent (e.fields.map fun a => "pub " ++ a.declaration ++ ",") =
        (e.fields.map (·.declaration)).map fun text => "    pub " ++ text ++ "," := by
      have hlead : "    pub " = "    " ++ "pub " := by decide
      rw [indent, List.map_map, List.map_map]
      refine List.map_congr_left fun a _ => ?_
      rw [Function.comp_apply, Function.comp_apply, if_neg (append_ne_empty _ (by decide)), hlead]
      simp only [String.append_assoc]
    rw [block, hbody]
    exact .below (declaresName_declaration e.fields) " \x7b" "    pub " "\x7d"

end

/-! ### Modules -/

theorem Module.infix_lines {m : Module} {lines : List String} (h : lines <:+: m.methodLines) :
    indent lines <:+: m.lines := by
  rw [lines_eq, block]
  refine List.infix_append_of_infix_left (List.infix_append_of_infix_right ?_)
  exact List.infix_append_of_infix_left (List.infix_append_of_infix_right (h.map _))

theorem infix_flatMap {α : Type} {x : α} {xs : List α} (h : x ∈ xs) (f : α → List String) :
    f x <:+: xs.flatMap f :=
  List.infix_of_mem_flatten (List.mem_map_of_mem h)

/-- The text of a module declares the names of every scope. -/
theorem standsIn_of_mem_scopes {contract : String} {deployable : Bool} {o : Outline} {s : Scope}
    (h : s ∈ scopes contract deployable o) :
    s.StandsIn (Module.ofOutline contract deployable o).lines := by
  rcases mem_scopes.mp h with ⟨rfl, rfl⟩ | ⟨f, name, hmem, rfl⟩ | ⟨e, typeName, hmem, hs⟩
  · refine (standsIn_deployMethod o).mono (Module.infix_lines ?_)
    rw [Module.methodLines]
    iterate 3 apply List.infix_append_of_infix_left
    exact List.infix_append_right
  · have hm : Method.ofFunction o f name ∈ (Module.ofOutline contract deployable o).methods :=
      List.mem_map_of_mem hmem
    have harguments : (Scope.ofFunction f name).arguments =
        (Method.ofFunction o f name).arguments.map (·.name) := (names_argumentsFor _).symm
    refine (standsIn_method harguments).mono (Module.infix_lines ?_)
    rw [Module.methodLines]
    exact List.infix_append_of_infix_left (List.infix_append_of_infix_right
      (infix_flatMap hm Method.lines))
  · let record := EventRecord.ofEvent e typeName
    have he : record ∈ (Module.ofOutline contract deployable o).events := List.mem_map_of_mem hmem
    have hmethods : record.methods <:+: (Module.ofOutline contract deployable o).methodLines := by
      rw [Module.methodLines]
      exact List.infix_append_of_infix_right (infix_flatMap he EventRecord.methods)
    have hselectors := names_argumentsFor (e.inputs.zipIdx.filter fun p => p.1.indexed)
    have hfields := names_fields e typeName
    simp only [Scope.ofEvent, List.mem_cons, List.not_mem_nil, or_false] at hs
    obtain rfl | rfl | rfl := hs
    · refine Scope.StandsIn.mono ?_ (Module.infix_lines (record.infix_methods.1.trans hmethods))
      exact standsIn_filterMethod rfl rfl (by simp) hselectors.symm
    · refine Scope.StandsIn.mono ?_ (Module.infix_lines (record.infix_methods.2.trans hmethods))
      exact standsIn_watchMethod rfl rfl (by simp) hselectors.symm
    · rw [Module.lines_eq]
      refine Scope.StandsIn.mono ?_
        (List.infix_append_of_infix_right (infix_flatMap he EventRecord.typeLines))
      exact standsIn_typeLines rfl rfl rfl hfields.symm

/-! ## Names that differ -/

/-- What every scope has: names of its own that are reserved and differ, parameters at different
positions, and nothing that it calls but `topics`. -/
structure Scope.IsProper (s : Scope) : Prop where
  given_nodup : s.given.Nodup
  given_reserved : ∀ name ∈ s.given, name ∈ reserved
  positions : s.params.Pairwise fun p q => p.2 ≠ q.2
  called : ∀ function ∈ s.called, function = "topics"

theorem pairwise_zipIdx (params : List Outline.Param) :
    params.zipIdx.Pairwise fun p q => p.2 ≠ q.2 :=
  List.pairwise_map.mp (List.nodup_zipIdx_map_snd params)

theorem isProper_of_mem_scopes {contract : String} {deployable : Bool} {o : Outline} {s : Scope}
    (h : s ∈ scopes contract deployable o) : s.IsProper := by
  have hgiven : ∀ given ∈ [["opts", "backend"], ["self"], ["self", "opts"],
      ["self", "opts", "sink"], []], given.Nodup ∧ ∀ name ∈ given, name ∈ reserved := by decide
  have hproper : s.given ∈ [["opts", "backend"], ["self"], ["self", "opts"],
      ["self", "opts", "sink"], []] → s.params.Pairwise (fun p q => p.2 ≠ q.2) →
      (∀ function ∈ s.called, function = "topics") → s.IsProper :=
    fun hmem hpositions hcalled =>
      ⟨(hgiven _ hmem).1, (hgiven _ hmem).2, hpositions, hcalled⟩
  rcases mem_scopes.mp h with ⟨-, rfl⟩ | ⟨f, name, -, rfl⟩ | ⟨e, typeName, -, hs⟩
  · exact hproper (by simp [Scope.ofDeployment]) (pairwise_zipIdx _) (by simp [Scope.ofDeployment])
  · exact hproper (by simp [Scope.ofFunction]) (pairwise_zipIdx _) (by simp [Scope.ofFunction])
  · simp only [Scope.ofEvent, List.mem_cons, List.not_mem_nil, or_false] at hs
    have hindexed := (pairwise_zipIdx e.inputs).filter fun p => p.1.indexed
    obtain rfl | rfl | rfl := hs
    · exact hproper (by simp) hindexed (by simp)
    · exact hproper (by simp) hindexed (by simp)
    · exact hproper (by simp) (pairwise_zipIdx _) (by simp)

namespace Scope

variable {s : Scope}

theorem arguments_notMem_reserved (s : Scope) : ∀ name ∈ s.arguments, name ∉ reserved := by
  intro name hname
  obtain ⟨p, -, rfl⟩ := List.mem_map.mp hname
  exact argumentName_notMem_reserved p

/-- The names of a scope differ exactly if no two of its parameters are alike. -/
theorem nodup_names_iff (h : s.IsProper) :
    s.names.Nodup ↔ s.params.Pairwise fun p q => ¬ Alike p q := by
  have hdisjoint : ∀ a ∈ s.given, ∀ b ∈ s.arguments, a ≠ b := by
    rintro a ha _ hb rfl
    exact s.arguments_notMem_reserved a hb (h.given_reserved a ha)
  have harguments : s.arguments.Nodup ↔ s.params.Pairwise fun p q => ¬ Alike p q := by
    rw [arguments, List.Nodup, List.pairwise_map]
    constructor
    · intro hne
      exact (hne.and h.positions).imp fun ⟨hname, hposition⟩ halike =>
        hname ((argumentName_eq_iff hposition).mpr halike)
    · intro hne
      exact (hne.and h.positions).imp fun ⟨halike, hposition⟩ hname =>
        halike ((argumentName_eq_iff hposition).mp hname)
  rw [names, List.nodup_append, ← harguments]
  exact ⟨fun hall => hall.2.1, fun hnodup => ⟨h.given_nodup, hnodup, hdisjoint⟩⟩

/-- An argument hides a function that is called exactly if its parameter has the words for it. -/
theorem hides_iff (h : s.IsProper) :
    (∃ name ∈ s.arguments, name ∈ s.called) ↔
      ∃ p ∈ s.params, Text.snakeCase p.1.name ∈ s.called := by
  have hsame : ∀ p : Outline.Param × Nat,
      argumentName p.1 p.2 ∈ s.called ↔ Text.snakeCase p.1.name ∈ s.called := by
    intro p
    constructor
    · intro hmem
      rwa [(argumentName_eq_topics_iff p).mp (h.called _ hmem), ← h.called _ hmem]
    · intro hmem
      rwa [(argumentName_eq_topics_iff p).mpr (h.called _ hmem), ← h.called _ hmem]
  constructor
  · rintro ⟨_, hmem, hcalled⟩
    obtain ⟨p, hp, rfl⟩ := List.mem_map.mp hmem
    exact ⟨p, hp, (hsame p).mp hcalled⟩
  · rintro ⟨p, hp, hcalled⟩
    exact ⟨_, List.mem_map_of_mem hp, (hsame p).mpr hcalled⟩

end Scope

/-- The text of a module declares the names of every scope. They differ from each other, and from
those that do not depend on the parameters, exactly if no two parameters of the scope are alike. No
argument is called like a reserved word, so like nothing that the text around it names, but one may
hide the function `topics` that is called with it: exactly if these are the words of a parameter. -/
theorem argument_names (contract : String) (deployable : Bool) (o : Outline) :
    ∀ s ∈ scopes contract deployable o,
      s.StandsIn (Module.ofOutline contract deployable o).lines ∧
        (s.names.Nodup ↔ s.params.Pairwise fun p q => ¬ Alike p q) ∧
        (∀ name ∈ s.arguments, name ∉ reserved) ∧
        ((∃ name ∈ s.arguments, name ∈ s.called) ↔
          ∃ p ∈ s.params, Text.snakeCase p.1.name ∈ s.called) := by
  intro s hs
  have hproper := isProper_of_mem_scopes hs
  exact ⟨standsIn_of_mem_scopes hs, Scope.nodup_names_iff hproper, s.arguments_notMem_reserved,
    Scope.hides_iff hproper⟩

/-- The outline of a function of which two parameters have the same words, and of an event with a
parameter called like the function that its methods call, with its document. -/
def posts : Outline where
  constructor? := none
  functions := [
    ⟨"move", [⟨"to", "address", none, false⟩, ⟨"_to", "address", none, false⟩], [], "nonpayable"⟩]
  events := [⟨"Posted", [⟨"topics", "bytes32", none, true⟩], false⟩]
  document := .array [
    .object [
      ("inputs", .array [
        .object [("name", .text "to"), ("type", .text "address")],
        .object [("name", .text "_to"), ("type", .text "address")]]),
      ("name", .text "move"), ("outputs", .array []), ("type", .text "function")],
    .object [
      ("anonymous", .bool false),
      ("inputs", .array [
        .object [("indexed", .bool true), ("name", .text "topics"), ("type", .text "bytes32")]]),
      ("name", .text "Posted"), ("type", .text "event")]]

theorem read_posts : Json.parse posts.document.pretty = some posts.document :=
  Json.parse_pretty_self rfl rfl (by decide)

/-- The method that reads past logs of the event. -/
def filterPosted : Scope :=
  ⟨"    pub async fn filter_posted", ["self", "opts"], ["topics"],
    [(⟨"topics", "bytes32", none, true⟩, 0)]⟩

/-- Its argument hides the function that it calls. -/
theorem filterPosted_hides :
    filterPosted ∈ scopes "Board" false posts ∧
      ∃ name ∈ filterPosted.arguments, name ∈ filterPosted.called := by
  have hmem : filterPosted ∈ scopes "Board" false posts :=
    List.mem_of_getElem? (i := 1) rfl
  have hhides := (argument_names "Board" false posts filterPosted hmem).2.2.2
  exact ⟨hmem, hhides.mpr ⟨_, List.mem_singleton_self _, by decide⟩⟩

/-- The names of a scope need not differ: both parameters of the function are called `to`. -/
theorem not_argument_names :
    ¬ ∀ (contract text : String) (o : Outline) (deployable : Bool), checkName contract = .ok () →
      Outline.parse text = .ok o →
        ∀ s ∈ scopes contract deployable o,
          s.names.Nodup ∧ ∀ name ∈ s.arguments, name ∉ reserved ∧ name ∉ s.called := by
  intro h
  have ho : Outline.parse posts.document.pretty = .ok posts :=
    (Outline.parse_of_read read_posts).trans rfl
  have hmem : (scopes "Board" false posts).head (by decide) ∈ scopes "Board" false posts :=
    List.head_mem _
  have hnames := (h "Board" _ posts false (by decide) ho _ hmem).1
  revert hnames
  decide

end AbiBindings.Generate
