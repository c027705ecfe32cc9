import AbiBindings.Generate.Names
import AbiBindings.Proofs.Abi.Topics
import AbiBindings.Proofs.Contract.Calls
import AbiBindings.Proofs.Contract.Occurrences
import AbiBindings.Proofs.Outline.Signatures

/-!
# Hashed fields

Whether an indexed argument is hashed is decided in three places: for the field of a generated event
by the text of its type, for the topic of a value by its form, and for a log by the type that the
text names. They agree where tuples are spelled by the word `tuple`, as in documents of compilers.

* `spellsTuples`: the type texts that name a tuple by its word, and by this word nothing else.
* `Reads`: what may be read in the place of a value.
* `HashedAlike`: an indexed argument that is hashed everywhere or nowhere.

Results:
* `isHashed_eq_iff`: the text and the type that it names agree exactly if tuples are spelled so.
* `hashed_alike`: all three agree about every event that both readers of a document accept.
* `not_isHashed_iff`: they do not agree about a tuple in parentheses.
-/

namespace AbiBindings.Generate

open Abi (Ty Token)

/-! ## Texts and types -/

/-- Whether a type text does not name a tuple by parentheses, and by a text that begins with the
word of a tuple does name one. -/
def spellsTuples (type : String) : Bool :=
  match type.toList.getLast? with
  | some ')' => false
  | some ']' => true
  | _ => !isTuple type.toList || type == "tuple"

theorem isHashed_of_fillTuple? {components : Option (List Ty)} {type t : Ty}
    (h : Abi.fillTuple? components type = some t) : t.isHashed = type.isHashed := by
  cases type with
  | array | farray | tuple =>
    obtain ⟨_, -, rfl⟩ := Option.map_eq_some_iff.mp h
    rfl
  | _ =>
    obtain rfl := Option.some.inj h
    rfl

/-- A text in parentheses does not begin with the word of a tuple. -/
theorem isTuple_of_tupleItems? {cs : List Char} {items : List (List Char)}
    (h : Abi.tupleItems? 0 [] cs = some items) : isTuple cs = false := by
  cases cs with
  | nil => cases h
  | cons c rest =>
    have hopen : c = '(' := by
      by_contra hc
      simp [Abi.tupleItems?, hc] at h
    rw [hopen]
    rfl

/-- A word is hashed if it is one of three. -/
theorem isHashed_of_ofWord? {s : String} {t : Ty} (h : Ty.ofWord? s.toList = some t) :
    t.isHashed = (s == "string" || s == "bytes" || s == "tuple") := by
  rw [Ty.ofWord?, String.ofList_toList] at h
  split at h
  case h_8 =>
    have hkept : t.isHashed = false := by
      split at h
      · obtain ⟨_, -, rfl⟩ := Option.map_eq_some_iff.mp h
        rfl
      · obtain ⟨_, -, rfl⟩ := Option.map_eq_some_iff.mp h
        rfl
      · obtain ⟨_, -, rfl⟩ := Option.map_eq_some_iff.mp h
        rfl
      · obtain rfl := Option.some.inj h
        rfl
    simp_all
  all_goals
    obtain rfl := Option.some.inj h
    rfl

theorem isHashed_of_round {s : String} (h : s.toList.getLast? = some ')') :
    isHashed s = isTuple s.toList := by
  have hword : ∀ word : String, word.toList.getLast? ≠ some ')' → (s == word) = false := by
    intro word hother
    rw [beq_eq_false_iff_ne]
    rintro rfl
    exact hother h
  simp [isHashed, h, hword "string" (by decide), hword "bytes" (by decide)]

theorem isHashed_of_square {s : String} (h : s.toList.getLast? = some ']') :
    isHashed s = true ∧ spellsTuples s = true := by
  rw [spellsTuples, h]
  simp [isHashed, h]

/-- A text that is read as a word is hashed as the word is, unless it is another word that begins
with the one of a tuple. -/
theorem isHashed_word_iff {s : String} (hround : s.toList.getLast? ≠ some ')')
    (hsquare : s.toList.getLast? ≠ some ']') :
    isHashed s = (s == "string" || s == "bytes" || s == "tuple") ↔ spellsTuples s = true := by
  have hspelled : spellsTuples s = (!isTuple s.toList || s == "tuple") := by
    unfold spellsTuples
    split
    · contradiction
    · contradiction
    · rfl
  have hlast : (s.toList.getLast? == some ']') = false := beq_eq_false_iff_ne.mpr hsquare
  rw [hspelled, isHashed, hlast, Bool.or_false]
  by_cases hstring : s = "string"
  · subst hstring
    decide
  by_cases hbytes : s = "bytes"
  · subst hbytes
    decide
  by_cases htuple : s = "tuple"
  · subst htuple
    decide
  · rw [beq_eq_false_iff_ne.mpr hstring, beq_eq_false_iff_ne.mpr hbytes,
      beq_eq_false_iff_ne.mpr htuple]
    simp

/-- The text of a type and the type that it names agree on whether it is hashed exactly if tuples
are spelled by their word. -/
theorem isHashed_eq_iff {s : String} {t : Ty} (h : Ty.ofText? s = some t) :
    isHashed s = t.isHashed ↔ spellsTuples s = true := by
  rw [Ty.ofText?, Ty.ofChars?] at h
  split at h
  case h_1 hround =>
    obtain ⟨items, hitems, h⟩ := Option.bind_eq_some_iff.mp h
    obtain ⟨types, -, h⟩ := Option.bind_eq_some_iff.mp h
    obtain rfl := Option.some.inj h
    rw [isHashed_of_round hround, isTuple_of_tupleItems? hitems, spellsTuples, hround]
    rfl
  case h_2 hsquare =>
    have hhashed : t.isHashed = true := by
      obtain ⟨⟨base, inside⟩, -, h⟩ := Option.bind_eq_some_iff.mp h
      dsimp only at h
      split at h
      · obtain ⟨_, -, rfl⟩ := Option.map_eq_some_iff.mp h
        rfl
      · obtain ⟨_, -, h⟩ := Option.bind_eq_some_iff.mp h
        obtain ⟨_, -, h⟩ := Option.bind_eq_some_iff.mp h
        obtain rfl := Option.some.inj h
        rfl
    obtain ⟨htext, hspelled⟩ := isHashed_of_square hsquare
    simp only [hhashed, htext, hspelled]
  case h_3 hround hsquare =>
    rw [isHashed_of_ofWord? h]
    exact isHashed_word_iff hround hsquare

/-- The field of an indexed parameter is declared as a hash exactly if the values of its type are
hashed, as long as tuples are spelled by their word. -/
theorem isHashed_eq_of_ty? {p : Outline.Param} {type : Ty} (h : p.ty? = some type)
    (hspelled : spellsTuples p.type = true) : isHashed p.type = type.isHashed := by
  obtain ⟨name, text, components?, indexed⟩ := p
  rw [Outline.Param.ty?] at h
  split at h
  · cases h
  · obtain ⟨whole, hwhole, hfilled⟩ := Option.bind_eq_some_iff.mp h
    rw [isHashed_of_fillTuple? hfilled]
    exact (isHashed_eq_iff hwhole).mpr hspelled

/-! ## Three places -/

section Alike

/-- What may be read in the place of a value of an indexed parameter: the hash in its topic if its
field is declared as one, and the value itself exactly if it is not. -/
structure Reads (p : Outline.Param) (v token : Token) : Prop where
  hash : isHashed p.type = true → token = .fixed (Abi.topicOf v).toList
  value : isHashed p.type = true ↔ token ≠ v

/-- A value of an indexed parameter, at a position in an event of a contract, that is hashed
everywhere or nowhere. If its field is declared as a hash, its topic is the hash of its content, and
otherwise its encoding in one word. Every log with this topic that is read has the hash in its
place, or the value; and the log that an occurrence leaves is read. -/
structure HashedAlike (c : Contract) (e : Abi.Event) (position : Nat) (p : Outline.Param)
    (q : Abi.EventParam) (v : Token) : Prop where
  field : fieldType p = if isHashed p.type then "H256" else typeName p.type
  declared : isHashed p.type = true ↔
    ∃ content, v.content? = some content ∧ Abi.topicOf v = keccak256 content
  word : q.type.hasTopic = true → isHashed p.type = false →
    (Abi.topicOf v).toList = Abi.encode [v] ∧ (Abi.encode [v]).length = 32
  read : q.type.hasTopic = true → (e.inputs.map (·.name)).count q.name = 1 →
    ∀ (t : EventType) (log : Log) (record : Record t), c.event t.signature = .ok e →
      c.unpack t log = .ok record → (q, Abi.topicOf v) ∈ e.placed log.topics →
      ∃ values token, e.decodeLog log.topics log.data = .ok values ∧
        t.recordOf values log = .ok record ∧ values[position]? = some token ∧ Reads p v token
  left : (e.inputs.map (·.name)).count q.name = 1 →
    ∀ (t : EventType) (ts : List Token) (log : Log), c.event t.signature = .ok e →
      e.Leaves ts log.topics log.data → ts[position]? = some v →
      (q, Abi.topicOf v) ∈ e.placed log.topics ∧
        ∃ values token, e.decodeLog log.topics log.data = .ok values ∧
          c.unpack t log = t.recordOf values log ∧ values[position]? = some token ∧
          Reads p v token

variable {c : Contract} {e : Abi.Event} {p : Outline.Param} {q : Abi.EventParam} {v : Token}

theorem reads_inTopic (hv : v.hasType q.type = true) (hsame : isHashed p.type = q.type.isHashed) :
    Reads p v v.inTopic := by
  rw [Abi.Token.inTopic_eq_ite hv]
  cases hhashed : q.type.isHashed with
  | true =>
    have hne := Abi.Token.ne_fixed_of_isHashed hv hhashed (Abi.topicOf v).toList
    exact ⟨fun _ => rfl, by simp [hsame, hhashed, hne]⟩
  | false => exact ⟨by simp [hsame, hhashed], by simp [hsame, hhashed]⟩

/-- A parameter whose text and type agree on whether it is hashed is hashed everywhere or nowhere.
-/
theorem hashedAlike_of_isHashed {position : Nat} (hq : e.inputs[position]? = some q)
    (hindexed : q.indexed = true) (hp : p.indexed = true)
    (hsame : isHashed p.type = q.type.isHashed) (hv : v.hasType q.type = true) :
    HashedAlike c e position p q v where
  field := by rw [fieldType, hp, Bool.true_and]
  declared := by
    rw [hsame, ← Abi.Token.isSome_content? hv, Option.isSome_iff_exists]
    exact exists_congr fun content =>
      ⟨fun h => ⟨h, Abi.topicOf_eq_of_content? h⟩, fun h => h.1⟩
  word hs hkept := by
    have hword := Abi.Token.isWord_of_hasTopic hv hs (hsame ▸ hkept)
    obtain ⟨htopic, hencode, hlen⟩ := Abi.toList_topicOf_of_isWord hword
    exact ⟨htopic.trans hencode.symm, hencode ▸ hlen⟩
  read hs hone t log record hevent hread hplaced := by
    have hhead : log.topics.head? = some e.topic := by
      by_contra hother
      rw [Contract.unpack_of_head_ne hevent hother] at hread
      cases hread
    rw [Contract.unpack_eq hevent hhead] at hread
    split at hread
    · rename_i values hvalues
      exact ⟨values, v.inTopic, hvalues, hread,
        Abi.Event.getElem?_of_decodeLog hvalues hq hone hv hs hplaced, reads_inTopic hv hsame⟩
    · cases hread
  left hone t ts log hevent hleft hat := by
    have hplaced := hleft.mem_placed hq hindexed hat
    have hhead : log.topics.head? = some e.topic := by rw [hleft.topics]; rfl
    have hs : q.type.hasTopic = true := hleft.kept q (List.mem_of_getElem? hq) hindexed
    refine ⟨hplaced, e.found ts, v.inTopic, hleft.decodeLog, ?_,
      Abi.Event.getElem?_of_decodeLog hleft.decodeLog hq hone hv hs hplaced,
      reads_inTopic hv hsame⟩
    rw [Contract.unpack_eq hevent hhead, hleft.decodeLog]

variable {text : String} {o : Outline} {i : Abi.Interface}

/-- The indexed parameters of every event that both readers of a document accept are hashed
everywhere or nowhere, as long as tuples are spelled by their word. -/
theorem hashed_alike (ho : Outline.parse text = .ok o) (hi : Abi.Interface.parse? text = some i)
    (address : Address) {event : Outline.Event} (hevent : event ∈ o.events) :
    ∃ e ∈ i.events, event.ReadAs e ∧
      ∀ position p, event.inputs[position]? = some p → p.indexed = true →
        spellsTuples p.type = true →
        ∃ type, p.ty? = some type ∧ e.inputs[position]? = some ⟨p.name, type, true⟩ ∧
          ∀ v, v.hasType type = true →
            HashedAlike ⟨address, i⟩ e position p ⟨p.name, type, true⟩ v := by
  obtain ⟨xs, rfl, hevents⟩ := Outline.readAs_of_parse ho hi
  obtain ⟨e, he, hread⟩ := Outline.exists_of_forall₂ hevents hevent
  refine ⟨e, Abi.mem_orderedByName.mpr he, hread, fun position p hp hindexed hspelled => ?_⟩
  obtain ⟨type, htype, hq⟩ := hread.getElem? hp
  rw [hindexed] at hq
  exact ⟨type, htype, hq, fun v hv => hashedAlike_of_isHashed hq rfl hindexed
    (isHashed_eq_of_ty? htype hspelled) hv⟩

/-- The outline of an event of one indexed parameter, with its document. -/
def indexing (name type : String) : Outline where
  constructor? := none
  functions := []
  events := [⟨"Kept", [⟨name, type, some [], true⟩], false⟩]
  document := .array [
    .object [
      ("anonymous", .bool false),
      ("inputs", .array [.object [
        ("components", .array []), ("indexed", .bool true), ("name", .text name),
        ("type", .text type)]]),
      ("name", .text "Kept"), ("type", .text "event")]]

/-- The event of one indexed parameter. -/
def keeping (name : String) (type : Ty) : Abi.Event := ⟨"Kept", [⟨name, type, true⟩], false⟩

theorem read_indexing_string :
    Json.parse (indexing "key" "string").document.pretty =
      some (indexing "key" "string").document :=
  Json.parse_pretty_self rfl rfl (by decide)

/-- An indexed text is declared as a hash, and the log of an event that keeps one is read as the
hash of this text. -/
theorem string_hashed_alike :
    let e := keeping "key" .string
    let log := Contract.logOf e [.string "link"]
    fieldType ⟨"key", "string", some [], true⟩ = "H256" ∧
      ∃ values : List Token,
        (Contract.ofEvent e).unpack (Contract.tokensOf e) log = .ok ⟨values, log⟩ ∧
        values[0]? = some (.fixed (keccak256 (utf8 "link")).toList) := by
  intro e log
  have ho : Outline.parse (indexing "key" "string").document.pretty =
      .ok (indexing "key" "string") :=
    (Outline.parse_of_read read_indexing_string).trans rfl
  have hi : Abi.Interface.parse? (indexing "key" "string").document.pretty =
      some ⟨none, [], [keeping "key" .string]⟩ :=
    (Outline.interface_of_read read_indexing_string).trans rfl
  obtain ⟨e', he, -, halike⟩ := hashed_alike ho hi Address.zero (List.mem_singleton_self _)
  obtain rfl : e' = keeping "key" .string := List.mem_singleton.mp he
  obtain ⟨type, htype, -, halike⟩ := halike 0 _ rfl rfl (by decide)
  obtain rfl : .string = type := Option.some.inj htype
  have hlink := halike (.string "link") rfl
  have hevent : (Contract.ofEvent e).event (Contract.tokensOf e).signature = .ok e :=
    Contract.event_of_unique (List.mem_singleton_self e)
      (fun a ha _ => Contract.eq_of_mem_ofEvent ha)
      (fun a ha _ => by rw [Contract.eq_of_mem_ofEvent ha])
  have hleaves : e.Leaves [.string "link"] log.topics log.data :=
    ⟨rfl, rfl, by decide, rfl, rfl⟩
  obtain ⟨-, values, token, -, hread, htoken, hreads⟩ :=
    hlink.left (by decide) (Contract.tokensOf e) _ log hevent hleaves rfl
  refine ⟨hlink.field.trans (if_pos (by decide)), values, hread, ?_⟩
  rw [htoken, hreads.hash (by decide)]
  rfl

/-- The three places do not always agree: the field of a tuple in parentheses is not declared as a
hash. -/
theorem not_isHashed_iff :
    ¬ ∀ (text : String) (o : Outline) (i : Abi.Interface), Outline.parse text = .ok o →
      Abi.Interface.parse? text = some i →
      ∀ event ∈ o.events, ∀ p ∈ event.inputs, p.indexed = true →
      ∀ type, p.ty? = some type → ∀ v : Token, v.hasType type = true →
        (isHashed p.type = true ↔
          ∃ content, v.content? = some content ∧ Abi.topicOf v = keccak256 content) := by
  intro h
  let o := indexing "pair" "(uint256,bool)"
  have hread : Json.parse o.document.pretty = some o.document :=
    Json.parse_pretty_self rfl rfl (by decide)
  have ho : Outline.parse o.document.pretty = .ok o := (Outline.parse_of_read hread).trans rfl
  have hi : Abi.Interface.parse? o.document.pretty =
      some ⟨none, [], [keeping "pair" (.tuple [.uint 256, .bool])]⟩ :=
    (Outline.interface_of_read hread).trans rfl
  let v : Token := .tuple [.uint 1, .bool true]
  have hhashed := (h _ o _ ho hi _ (List.mem_singleton_self _) _ (List.mem_singleton_self _) rfl
    (.tuple [.uint 256, .bool]) (by decide) v rfl).mpr ⟨_, rfl, rfl⟩
  revert hhashed
  decide

end Alike

end AbiBindings.Generate
