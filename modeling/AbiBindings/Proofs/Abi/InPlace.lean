import AbiBindings.Proofs.Abi.Logs

/-!
# Encodings in place

What is hashed for an indexed argument. The encoding of a value in place holds its leaves from left
to right, each padded to whole words, and nothing else: no offset and no length. Where all leaves
take one word and no count is left out, it is the ordinary encoding.

* `Token.leaves`: the leaves of a value.
* `Token.padded`: a leaf, padded to whole words.
* `Token.isWord`, `Token.isFlat`: the values that take one word, and fixed arrays and tuples of
  these.
* `Token.content?`: what a topic holds the hash of.
* `Token.TopicForm`: the encoding of a value in place, and its topic.

Results:
* `Token.inPlace_eq`: the encoding in place is that of the leaves.
* `Token.encode_of_isFlat`: it is the ordinary encoding where all leaves take one word.
* `topicOf_eq_of_content?`, `toList_topicOf_of_isWord`: what a topic holds.
* `Token.topicForm`: all of this, for every value.
-/

namespace AbiBindings.Abi

namespace Token

/-! ## Leaves -/

mutual

/-- The leaves of a value, from left to right. -/
def leaves : Token → List Token
  | .array items | .farray items | .tuple items => leavesAll items
  | t => [t]

/-- The leaves of the values, from left to right. -/
def leavesAll : List Token → List Token
  | [] => []
  | t :: rest => t.leaves ++ leavesAll rest

end

/-- A leaf, padded to whole words: an address and a truth value on the left, byte strings on the
right. Nothing is left of an array or tuple. -/
def padded : Token → Bytes
  | .address a => zeros 12 ++ a.toList
  | .uint w | .int w => w.bytes
  | .bool b => sizeWord (if b then 1 else 0)
  | .string s => padRight (utf8 s)
  | .bytes b | .fixed b => padRight b
  | .array _ | .farray _ | .tuple _ => []

/-- Whether the value takes one word. -/
def isWord : Token → Bool
  | .address _ | .uint _ | .int _ | .bool _ => true
  | .fixed b => 1 ≤ b.length && b.length ≤ 32
  | _ => false

mutual

/-- Whether the value is made of values that take one word, in fixed arrays and tuples. -/
def isFlat : Token → Bool
  | .farray items | .tuple items => allFlat items
  | t => t.isWord

/-- Whether every value is made of values that take one word. -/
def allFlat : List Token → Bool
  | [] => true
  | t :: rest => t.isFlat && allFlat rest

end

/-- The content of a value that is only hashed in a topic: the bytes of a text or byte string, the
padded leaves of an array or tuple. -/
def content? : Token → Option Bytes
  | .string s => some (utf8 s)
  | .bytes b => some b
  | .array items | .farray items | .tuple items => some ((leavesAll items).flatMap padded)
  | _ => none

theorem dvd_length_padRight (b : Bytes) : 32 ∣ (padRight b).length := by
  rw [padRight, List.length_append, length_zeros]
  omega

theorem dvd_length_padded (t : Token) : 32 ∣ t.padded.length := by
  cases t <;> simp [padded, dvd_length_padRight]

/-! ## The encoding in place -/

theorem encode_singleton_of_dynamic {t : Token} (h : t.isDynamic = true) :
    encode [t] = sizeWord 32 ++ t.body := by
  simp [encode, layout, heads, tails, Part.headSize, headSize, parts, h]

mutual

/-- The encoding in place is that of the leaves, from left to right. -/
theorem inPlace_eq : ∀ t : Token, t.inPlace = t.leaves.flatMap padded
  | .address _ | .uint _ | .int _ | .bool _ | .fixed _ => by
    rw [inPlace, encode_singleton rfl, leaves, List.flatMap_singleton]
    · rfl
    all_goals nofun
  | .string _ | .bytes _ => (List.append_nil _).symm
  | .array items | .farray items | .tuple items => inPlaceAll_eq items

theorem inPlaceAll_eq : ∀ ts : List Token, inPlaceAll ts = (leavesAll ts).flatMap padded
  | [] => rfl
  | t :: rest => by
    rw [inPlaceAll, leavesAll, List.flatMap_append, inPlace_eq t, inPlaceAll_eq rest]

end

theorem dvd_length_inPlace (t : Token) : 32 ∣ t.inPlace.length := by
  rw [inPlace_eq]
  induction t.leaves with
  | nil => simp
  | cons leaf rest ih =>
    rw [List.flatMap_cons, List.length_append]
    exact Nat.dvd_add (dvd_length_padded leaf) ih

/-! ## Values of whole words -/

mutual

theorem body_of_isFlat : ∀ {t : Token}, t.isFlat = true →
    t.isDynamic = false ∧ t.body = t.inPlace
  | .address _, _ | .uint _, _ | .int _, _ | .bool _, _ | .fixed _, _ =>
    ⟨rfl, (encode_singleton rfl).symm⟩
  | .farray _, h | .tuple _, h => body_of_allFlat h

theorem body_of_allFlat : ∀ {ts : List Token}, allFlat ts = true →
    anyDynamic ts = false ∧ encode ts = inPlaceAll ts
  | [], _ => ⟨rfl, rfl⟩
  | t :: rest, h => by
    rw [allFlat, Bool.and_eq_true] at h
    obtain ⟨hd, hbody⟩ := body_of_isFlat h.1
    obtain ⟨hstatic, hrest⟩ := body_of_allFlat h.2
    have hboth : anyDynamic (t :: rest) = false := by rw [anyDynamic, hd, hstatic, Bool.or_self]
    refine ⟨hboth, ?_⟩
    rw [encode_static hboth, List.flatMap_cons, ← encode_static hstatic, hbody, hrest, inPlaceAll]

end

/-- Where all leaves take one word and stand in fixed arrays and tuples, the ordinary encoding is
that in place. -/
theorem encode_of_isFlat {t : Token} (h : t.isFlat = true) : encode [t] = t.inPlace := by
  obtain ⟨hd, hbody⟩ := body_of_isFlat h
  rw [encode_singleton hd, hbody]

theorem allFlat_iff {ts : List Token} : allFlat ts = true ↔ ∀ t ∈ ts, t.isFlat = true := by
  induction ts with
  | nil => simp [allFlat]
  | cons t rest ih => simp [allFlat, ih]

/-- The ordinary encoding of an array of such items is its offset, its count, and the encoding in
place. -/
theorem encode_array_of_allFlat {items : List Token} (h : allFlat items = true) :
    encode [.array items] =
      sizeWord 32 ++ (sizeWord items.length ++ (Token.array items).inPlace) := by
  have hitems : layout (parts items) = inPlaceAll items := (body_of_allFlat h).2
  rw [encode_singleton_of_dynamic rfl, body, hitems, inPlace]

end Token

/-! ## Topics -/

/-- The topic of a value that is only hashed is the hash of its content. -/
theorem topicOf_eq_of_content? {t : Token} {content : Bytes} (h : t.content? = some content) :
    topicOf t = keccak256 content := by
  cases t <;> simp_all [Token.content?, topicOf, ← Token.inPlaceAll_eq]

/-- The topic of a value that takes one word is this word, as it is encoded. -/
theorem toList_topicOf_of_isWord {t : Token} (h : t.isWord = true) :
    (topicOf t).toList = t.padded ∧ encode [t] = t.padded ∧ t.padded.length = 32 := by
  have hword : encode [t] = t.padded ∧ t.padded.length = 32 ∧
      topicOf t = hashOfBytes (encode [t]) := by
    cases t with
    | fixed b =>
      have hsize : 1 ≤ b.length ∧ b.length ≤ 32 := by simpa [Token.isWord] using h
      exact ⟨Token.encode_singleton rfl, length_padRight hsize.1 hsize.2, rfl⟩
    | address | uint | int | bool =>
      exact ⟨Token.encode_singleton rfl, by simp [Token.padded], rfl⟩
    | _ => cases h
  obtain ⟨hencode, hlen, htopic⟩ := hword
  exact ⟨by rw [htopic, hencode, Token.toList_hashOfBytes hlen], hencode, hlen⟩

/-- The encoding of a value in place, and its topic. The leaves are written from left to right, each
in whole words. Where all of them take one word, this is the ordinary encoding, apart from the
offset and the count of an array. The topic of a value that takes one word is this word, that of any
other a hash: of the bytes of a text or byte string, else of the encoding in place. -/
structure Token.TopicForm (t : Token) : Prop where
  inPlace : t.inPlace = t.leaves.flatMap Token.padded
  words : 32 ∣ t.inPlace.length
  flat : t.isFlat = true → encode [t] = t.inPlace
  array : ∀ items, t = .array items → (∀ u ∈ items, u.isFlat = true) →
    encode [t] = sizeWord 32 ++ (sizeWord items.length ++ t.inPlace)
  composite : ∀ items, t = .array items ∨ t = .farray items ∨ t = .tuple items →
    topicOf t = keccak256 t.inPlace
  text : ∀ s, t = .string s → topicOf t = keccak256 (utf8 s)
  blob : ∀ b, t = .bytes b → topicOf t = keccak256 b
  word : t.isWord = true →
    (topicOf t).toList = t.padded ∧ encode [t] = t.padded ∧ t.padded.length = 32

/-- The encoding in place and the topic of every value. -/
theorem Token.topicForm (t : Token) : t.TopicForm where
  inPlace := inPlace_eq t
  words := dvd_length_inPlace t
  flat := encode_of_isFlat
  array items ht hitems := by
    subst ht
    exact encode_array_of_allFlat (allFlat_iff.mpr hitems)
  composite items ht := by rcases ht with rfl | rfl | rfl <;> rfl
  text s ht := by rw [ht, topicOf]
  blob b ht := by rw [ht, topicOf]
  word := toList_topicOf_of_isWord

/-- Only the items of an array are hashed, not its offset and its count. -/
example : (Token.array [.uint 7, .uint 9]).inPlace = Word.bytes 7 ++ Word.bytes 9 := by
  decide +kernel

end AbiBindings.Abi
