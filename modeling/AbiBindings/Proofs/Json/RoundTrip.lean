import AbiBindings.Json.Printer
import AbiBindings.Proofs.Json.Numbers
import AbiBindings.Proofs.Json.Rereading

/-!
# Printed documents are read back

The text of a document over several lines is read as this document, up to what the text of its
double-precision numbers is read as, unless a part of it stands for no value or it nests too deep.

* `Json.integral`: the documents whose numbers are integers.
* `Json.tokens`: the tokens of a printed document.
* `Json.Scans`: the tokens that a text is made of, however many more the scanner would look for.

Results:
* `Json.scans_pretty`: the printed document is made of its tokens.
* `Json.readValue_tokens`: the tokens of a document are read as the document with reread numbers.
* `Json.parse_pretty_of_finite`: the printed document is read as the document with reread numbers.
* `Json.parse_pretty`: a printed document whose numbers are integers is read as the document.
-/

namespace AbiBindings.Json

/-! ## The tokens of a document -/

/-- Whether every number of the document is an integer. -/
def integral (j : Json) : Bool := j.allNumbers Number.integral

mutual

/-- The tokens of a printed document. -/
def tokens : Json → List Token
  | .null | .faulty => [.null]
  | .bool b => [.bool b]
  | .number n => [.number n.literal]
  | .text s => [.text (some s)]
  | .array [] => [.openArray, .closeArray]
  | .array (x :: rest) => .openArray :: (tokens x ++ itemTokens rest)
  | .object [] => [.openObject, .closeObject]
  | .object ((k, x) :: rest) =>
    .openObject :: .text (some k) :: .colon :: (tokens x ++ memberTokens rest)

/-- The tokens of further items and of the bracket that ends them. -/
def itemTokens : List Json → List Token
  | [] => [.closeArray]
  | x :: rest => .comma :: (tokens x ++ itemTokens rest)

/-- The tokens of further members and of the brace that ends them. -/
def memberTokens : List (String × Json) → List Token
  | [] => [.closeObject]
  | (k, x) :: rest => .comma :: .text (some k) :: .colon :: (tokens x ++ memberTokens rest)

end

/-! ## Scanning -/

/-- Whether the scanner makes these tokens of a text, whatever more it would look for. -/
def Scans (cs : List Char) (ts : List Token) : Prop :=
  ∀ fuel, cs.length ≤ fuel → scanWith fuel cs = some ts

namespace Scans

variable {cs rest : List Char} {ts : List Token} {c : Char} {t : Token}

theorem space (hc : isSpace c = true) (h : Scans cs ts) : Scans (c :: cs) ts := by
  intro fuel hf
  cases fuel with
  | zero => simp at hf
  | succ fuel =>
    have hscan := h (fuel + 1) (by simp at hf; omega)
    rw [scanWith] at hscan ⊢
    rw [List.dropWhile_cons_of_pos hc]
    exact hscan

theorem spaces {blanks : List Char} (hb : blanks.all isSpace = true) (h : Scans cs ts) :
    Scans (blanks ++ cs) ts := by
  induction blanks with
  | nil => exact h
  | cons c blanks ih =>
    simp only [List.all_cons, Bool.and_eq_true] at hb
    exact .space hb.1 (ih hb.2)

theorem newline (level : Nat) (h : Scans cs ts) : Scans (Json.newline level ++ cs) ts :=
  .spaces (by simp [Json.newline, isSpace]) h

/-- A token in front of a text. -/
theorem token (hc : isSpace c = false) (hread : readToken (c :: cs) = some (t, rest))
    (hlen : rest.length ≤ cs.length) (h : Scans rest ts) : Scans (c :: cs) (t :: ts) := by
  intro fuel hf
  cases fuel with
  | zero => simp at hf
  | succ fuel =>
    have hscan := h fuel (by simp at hf; omega)
    rw [scanWith, List.dropWhile_cons_of_neg (by simp [hc])]
    simp [hread, hscan]

end Scans

/-! ### Texts -/

/-- The piece as which a character is read: a control character without short escape is written by
number. -/
def pieceOf (c : Char) : Piece :=
  if c.toNat < 0x20 ∧ c ∉ ['\x08', '\x0c', '\n', '\r', '\t'] then .unit c.toNat else .char c

theorem hexValue?_hexDigit : ∀ d < 16, hexValue? (Text.hexDigit d) = some d := by decide

/-- A number below 256 is read from its two digits. -/
theorem hexUnit?_of_lt {n : Nat} (hn : n < 256) :
    hexUnit? '0' '0' (Text.hexDigit (n / 16)) (Text.hexDigit (n % 16)) = some n := by
  have hzero : hexValue? '0' = some 0 := by decide
  have hhigh := hexValue?_hexDigit (n / 16) (by omega)
  have hlow := hexValue?_hexDigit (n % 16) (by omega)
  simp only [hexUnit?, hzero, hhigh, hlow, bind, Option.bind_some, Option.some.injEq]
  omega

theorem readPieces_escapeChar (c : Char) (rest : List Char) :
    readPieces (escapeChar c ++ rest) =
      (readPieces rest).map fun r => (pieceOf c :: r.1, r.2) := by
  have hmap : ∀ p : Piece, (readPieces rest).map (fun r => (p :: r.1, r.2)) =
      (readPieces rest).bind fun r => some (p :: r.1, r.2) := fun p => by
    cases readPieces rest <;> rfl
  rw [hmap]
  by_cases hquote : c = '"'
  · subst hquote; rfl
  by_cases hslash : c = '\\'
  · subst hslash; rfl
  by_cases hb : c = '\x08'
  · subst hb; rfl
  by_cases hf : c = '\x0c'
  · subst hf; rfl
  by_cases hn : c = '\n'
  · subst hn; rfl
  by_cases hr : c = '\r'
  · subst hr; rfl
  by_cases ht : c = '\t'
  · subst ht; rfl
  by_cases hcontrol : c.toNat < 0x20
  · have hunit : hexUnit? '0' '0' (Text.hexDigit (c.toNat / 16)) (Text.hexDigit (c.toNat % 16)) =
        some c.toNat := hexUnit?_of_lt (by omega)
    simp [escapeChar, pieceOf, readPieces, hquote, hslash, hb, hf, hn, hr, ht, hcontrol, hunit]
  · have hplain : escapeChar c = [c] := by
      simp [escapeChar, hquote, hslash, hb, hf, hn, hr, ht, hcontrol]
    have hpiece : pieceOf c = .char c := if_neg fun h => hcontrol h.1
    have hallowed : ¬(c.toNat < 0x20 ∨ c = '\\') := not_or.mpr ⟨hcontrol, hslash⟩
    rw [hplain, hpiece, List.singleton_append, readPieces.eq_def]
    split
    case h_5 heq =>
      obtain ⟨rfl, rfl⟩ := List.cons.inj heq
      rw [if_neg hallowed]
      rfl
    all_goals simp_all

theorem readPieces_escaped (cs rest : List Char) :
    readPieces (cs.flatMap escapeChar ++ '"' :: rest) = some (cs.map pieceOf, rest) := by
  induction cs with
  | nil => rfl
  | cons c cs ih => simp [readPieces_escapeChar, ih]

theorem joinPieces_unit {n : Nat} (hn : n < 0xd800) (rest : List Piece) :
    joinPieces (.unit n :: rest) = (joinPieces rest).map (Char.ofNat n :: ·) := by
  match rest with
  | [] => simp [joinPieces, show ¬ 0xd800 ≤ n by omega]
  | .char c :: rest =>
    simp only [joinPieces, show ¬ (0xd800 ≤ n ∧ n ≤ 0xdfff) by omega, if_false]
    cases joinPieces rest <;> rfl
  | .unit m :: rest =>
    simp [joinPieces, show ¬ (0xd800 ≤ n ∧ n ≤ 0xdbff) by omega,
      show ¬ (0xdc00 ≤ n ∧ n ≤ 0xdfff) by omega]

theorem joinPieces_pieceOf (cs : List Char) : joinPieces (cs.map pieceOf) = some cs := by
  induction cs with
  | nil => rfl
  | cons c cs ih =>
    rw [List.map_cons, pieceOf]
    split
    · rename_i hunit
      rw [joinPieces_unit (by omega), ih, Char.ofNat_toNat]
      rfl
    · rw [joinPieces, ih]
      rfl

theorem readToken_renderText (s : String) (rest : List Char) :
    readToken (renderText s ++ rest) = some (.text (some s), rest) := by
  have hread : readText (s.toList.flatMap escapeChar ++ '"' :: rest) = some (some s, rest) := by
    rw [readText, readPieces_escaped]
    simp [joinPieces_pieceOf]
  have hrender : renderText s ++ rest = '"' :: (s.toList.flatMap escapeChar ++ '"' :: rest) := by
    simp [renderText]
  rw [hrender, readToken, hread]
  rfl

/-! ### Numbers -/

/-- A text that starts with a digit or a minus sign starts with a number literal. -/
theorem readToken_number {c : Char} (hc : isDigit c = true ∨ c = '-') (cs : List Char) :
    readToken (c :: cs) = (readNumber (c :: cs)).map fun r => (.number r.1, r.2) := by
  have hne : ∀ d : Char, isDigit d = false → d ≠ '-' → c ≠ d := by
    rintro d hd hminus rfl
    rcases hc with hc | hc
    · simp [hd] at hc
    · exact hminus hc
  rw [readToken.eq_def]
  split <;> first
    | rfl
    | (rename_i heq; exact absurd (List.cons.inj heq).1 (hne _ (by decide) (by decide)))

theorem readNumber_literal {n : Number} (hn : n.finite = true) {rest : List Char}
    (hr : Ends rest) : readNumber (n.render ++ rest) = some (n.literal, rest) := by
  rw [← n.render_literal]
  exact readNumber_render (Number.wellFormed_literal hn) hr

/-! ## Printed documents -/

/-- The text after an item or member begins with a comma or a line break. -/
theorem ends_newline (level : Nat) (cs : List Char) : Ends (newline level ++ cs) := by
  rintro c hc
  obtain rfl : '\n' = c := by simpa [newline] using hc
  decide

theorem ends_prettyItems (level : Nat) (items : List Json) (level' : Nat) (cs : List Char) :
    Ends (prettyItems level items ++ (newline level' ++ cs)) := by
  cases items with
  | nil => exact ends_newline level' cs
  | cons x rest =>
    rintro c hc
    obtain rfl : ',' = c := by simpa [prettyItems] using hc
    decide

theorem ends_prettyMembers (level : Nat) (members : List (String × Json)) (level' : Nat)
    (cs : List Char) : Ends (prettyMembers level members ++ (newline level' ++ cs)) := by
  cases members with
  | nil => exact ends_newline level' cs
  | cons m rest =>
    rintro c hc
    obtain rfl : ',' = c := by simpa [prettyMembers] using hc
    decide

theorem Scans.text {rest : List Char} {ts : List Token} (s : String) (h : Scans rest ts) :
    Scans (renderText s ++ rest) (.text (some s) :: ts) := by
  refine .token (c := '"') (by decide) (readToken_renderText s rest) ?_ h
  simp
  omega

/-- The key of a member in front of its value. -/
theorem Scans.key {rest : List Char} {ts : List Token} (k : String) (level : Nat)
    (h : Scans rest ts) :
    Scans (Json.newline level ++ (renderText k ++ (':' :: ' ' :: rest)))
      (.text (some k) :: .colon :: ts) := by
  have hcolon : Scans (':' :: ' ' :: rest) (.colon :: ts) :=
    .token (by decide) rfl (by simp) (.space (by decide) h)
  exact .newline level (.text k hcolon)

theorem Scans.number {rest : List Char} {ts : List Token} {n : Number} (hn : n.finite = true)
    (hr : Ends rest) (h : Scans rest ts) : Scans (n.render ++ rest) (.number n.literal :: ts) := by
  obtain ⟨c, cs, hcs, hc⟩ := Literal.render_eq_cons (Number.wellFormed_literal hn)
  rw [n.render_literal] at hcs
  have hspace : isSpace c = false := by
    cases hs : isSpace c with
    | false => rfl
    | true =>
      simp only [isSpace, Bool.or_eq_true, decide_eq_true_eq] at hs
      rcases hs with ((rfl | rfl) | rfl) | rfl <;> exact absurd hc (by decide)
  have hread := readNumber_literal hn hr
  rw [hcs, List.cons_append] at hread ⊢
  exact .token hspace (by rw [readToken_number hc, hread]; rfl) (by simp) h

mutual

/-- A printed document is made of its tokens. -/
theorem scans_pretty : ∀ (j : Json) (level : Nat) {rest : List Char} {ts : List Token},
    j.allNumbers Number.finite = true → Ends rest → Scans rest ts →
    Scans (prettyChars level j ++ rest) (tokens j ++ ts)
  | .null, _, rest, ts, _, _, h | .faulty, _, rest, ts, _, _, h
  | .bool true, _, rest, ts, _, _, h | .bool false, _, rest, ts, _, _, h =>
    .token (by decide) rfl (by simp; omega) h
  | .number n, _, rest, ts, hj, hr, h => .number hj hr h
  | .text s, _, rest, ts, _, _, h => .text s h
  | .array [], _, rest, ts, _, _, h =>
    .token (by decide) rfl (by simp) (.token (by decide) rfl (by simp) h)
  | .array (x :: xs), level, rest, ts, hj, hr, h => by
    simp only [allNumbers, allNumbersItems, Bool.and_eq_true] at hj
    have hitems := scans_items xs (level + 1) level hj.2 h
    have hx := scans_pretty x (level + 1) hj.1 (ends_prettyItems _ xs level _) hitems
    have hopen := Scans.token (c := '[') (by decide) rfl (by simp) (.newline (level + 1) hx)
    simpa [prettyChars, tokens] using hopen
  | .object [], _, rest, ts, _, _, h =>
    .token (by decide) rfl (by simp) (.token (by decide) rfl (by simp) h)
  | .object ((k, x) :: xs), level, rest, ts, hj, hr, h => by
    simp only [allNumbers, allNumbersMembers, Bool.and_eq_true] at hj
    have hmembers := scans_members xs (level + 1) level hj.2 h
    have hx := scans_pretty x (level + 1) hj.1 (ends_prettyMembers _ xs level _) hmembers
    have hopen := Scans.token (c := '\x7b') (by decide) rfl (by simp) (.key k (level + 1) hx)
    simpa [prettyChars, tokens] using hopen

theorem scans_items : ∀ (items : List Json) (level level' : Nat) {rest : List Char}
    {ts : List Token}, allNumbersItems Number.finite items = true → Scans rest ts →
    Scans (prettyItems level items ++ (newline level' ++ (']' :: rest))) (itemTokens items ++ ts)
  | [], _, level', rest, ts, _, h => .newline level' (.token (by decide) rfl (by simp) h)
  | x :: xs, level, level', rest, ts, hj, h => by
    simp only [allNumbersItems, Bool.and_eq_true] at hj
    have hitems := scans_items xs level level' hj.2 h
    have hx := scans_pretty x level hj.1 (ends_prettyItems _ xs level' _) hitems
    have hcomma := Scans.token (c := ',') (by decide) rfl (by simp) (.newline level hx)
    simpa [prettyItems, itemTokens] using hcomma

theorem scans_members : ∀ (members : List (String × Json)) (level level' : Nat) {rest : List Char}
    {ts : List Token}, allNumbersMembers Number.finite members = true → Scans rest ts →
    Scans (prettyMembers level members ++ (newline level' ++ ('\x7d' :: rest)))
      (memberTokens members ++ ts)
  | [], _, level', rest, ts, _, h => .newline level' (.token (by decide) rfl (by simp) h)
  | (k, x) :: xs, level, level', rest, ts, hj, h => by
    simp only [allNumbersMembers, Bool.and_eq_true] at hj
    have hmembers := scans_members xs level level' hj.2 h
    have hx := scans_pretty x level hj.1 (ends_prettyMembers _ xs level' _) hmembers
    have hcomma := Scans.token (c := ',') (by decide) rfl (by simp) (.key k level hx)
    simpa [prettyMembers, memberTokens] using hcomma

end

/-! ## Reading the tokens -/

/-- An array with items is read item by item: no document starts with a closing bracket. -/
theorem readValue_openArray (fuel : Nat) (x : Json) (ts : List Token) :
    readValue (fuel + 1) (.openArray :: (tokens x ++ ts)) =
      (readItems fuel (tokens x ++ ts)).map fun r => (.array r.1, r.2) := by
  have hmap : (readItems fuel (tokens x ++ ts)).map (fun r => (Json.array r.1, r.2)) =
      (readItems fuel (tokens x ++ ts)).bind fun r => some (.array r.1, r.2) := by
    cases readItems fuel (tokens x ++ ts) <;> rfl
  rw [hmap]
  match x with
  | .null | .faulty | .bool _ | .number _ | .text _ | .array [] | .array (_ :: _) | .object []
  | .object ((_, _) :: _) => rfl

theorem length_tokens_pos (j : Json) : 0 < (tokens j).length := by
  match j with
  | .null | .faulty | .bool _ | .number _ | .text _ | .array [] | .array (_ :: _) | .object []
  | .object ((_, _) :: _) => simp [tokens]

mutual

/-- The tokens of a document are read as the document with reread numbers. -/
theorem readValue_tokens : ∀ (j : Json) (fuel : Nat) (ts : List Token), j.sound = true →
    j.allNumbers Number.finite = true → 2 * (tokens j).length ≤ fuel + 1 →
    readValue fuel (tokens j ++ ts) = some (j.mapNumbers Number.reread, ts)
  | j, 0, ts, _, _, hf => by
    have hpos := length_tokens_pos j
    omega
  | .null, fuel + 1, ts, _, _, _ => rfl
  | .faulty, _ + 1, _, hs, _, _ => by cases hs
  | .bool b, fuel + 1, ts, _, _, _ => rfl
  | .text s, fuel + 1, ts, _, _, _ => rfl
  | .number n, fuel + 1, ts, _, hi, _ => by
    show some (ofLiteral n.literal, ts) = _
    rw [ofLiteral_literal hi, mapNumbers]
  | .array [], fuel + 1, ts, _, _, _ => rfl
  | .array (x :: xs), fuel + 1, ts, hs, hi, hf => by
    simp only [sound, soundItems, allNumbers, allNumbersItems, Bool.and_eq_true] at hs hi
    simp only [tokens, List.length_cons, List.length_append] at hf
    have hread := readItems_tokens x xs fuel ts hs.1 hs.2 hi.1 hi.2 (by omega)
    rw [tokens, List.cons_append, List.append_assoc, readValue_openArray, hread]
    rfl
  | .object [], fuel + 1, ts, _, _, _ => rfl
  | .object ((k, x) :: xs), fuel + 1, ts, hs, hi, hf => by
    simp only [sound, soundMembers, allNumbers, allNumbersMembers, Bool.and_eq_true] at hs hi
    simp only [tokens, List.length_cons, List.length_append] at hf
    have hread := readMembers_tokens k x xs fuel ts hs.1 hs.2 hi.1 hi.2 (by omega)
    rw [tokens, List.cons_append, List.cons_append, List.cons_append, List.append_assoc]
    simp only [readValue, hread, bind, Option.bind_some, mapNumbers]

theorem readItems_tokens : ∀ (x : Json) (xs : List Json) (fuel : Nat) (ts : List Token),
    x.sound = true → soundItems xs = true → x.allNumbers Number.finite = true →
    allNumbersItems Number.finite xs = true →
    2 * ((tokens x).length + (itemTokens xs).length) ≤ fuel →
    readItems fuel (tokens x ++ (itemTokens xs ++ ts)) =
      some (mapNumbersItems Number.reread (x :: xs), ts)
  | x, xs, 0, ts, _, _, _, _, hf => by
    have hpos := length_tokens_pos x
    omega
  | x, [], fuel + 1, ts, hx, _, hix, _, hf => by
    have hread := readValue_tokens x fuel (itemTokens [] ++ ts) hx hix (by omega)
    simp only [readItems, hread, bind, Option.bind_some]
    rfl
  | x, y :: ys, fuel + 1, ts, hx, hs, hix, hi, hf => by
    simp only [soundItems, allNumbersItems, Bool.and_eq_true] at hs hi
    simp only [itemTokens, List.length_cons, List.length_append] at hf
    have hread := readValue_tokens x fuel (itemTokens (y :: ys) ++ ts) hx hix (by omega)
    have hrest := readItems_tokens y ys fuel ts hs.1 hs.2 hi.1 hi.2 (by omega)
    simp only [itemTokens, List.cons_append, List.append_assoc] at hread ⊢
    simp only [readItems, hread, bind, Option.bind_some, hrest, mapNumbersItems]

theorem readMembers_tokens : ∀ (k : String) (x : Json) (xs : List (String × Json)) (fuel : Nat)
    (ts : List Token), x.sound = true → soundMembers xs = true →
    x.allNumbers Number.finite = true → allNumbersMembers Number.finite xs = true →
    2 * ((tokens x).length + (memberTokens xs).length) ≤ fuel →
    readMembers fuel (.text (some k) :: .colon :: (tokens x ++ (memberTokens xs ++ ts))) =
      some (mapNumbersMembers Number.reread ((k, x) :: xs), ts)
  | k, x, xs, 0, ts, _, _, _, _, hf => by
    have hpos := length_tokens_pos x
    omega
  | k, x, [], fuel + 1, ts, hx, _, hix, _, hf => by
    have hread := readValue_tokens x fuel (memberTokens [] ++ ts) hx hix (by omega)
    simp only [readMembers, hread, bind, Option.bind_some]
    rfl
  | k, x, (l, y) :: ys, fuel + 1, ts, hx, hs, hix, hi, hf => by
    simp only [soundMembers, allNumbersMembers, Bool.and_eq_true] at hs hi
    simp only [memberTokens, List.length_cons, List.length_append] at hf
    have hread := readValue_tokens x fuel (memberTokens ((l, y) :: ys) ++ ts) hx hix (by omega)
    have hrest := readMembers_tokens l y ys fuel ts hs.1 hs.2 hi.1 hi.2 (by omega)
    simp only [memberTokens, List.cons_append, List.append_assoc] at hread ⊢
    simp only [readMembers, hread, bind, Option.bind_some, hrest, mapNumbersMembers]

end

/-- The printed document, with blanks behind it, consists of the tokens of the document. -/
theorem scan_pretty {j : Json} (hi : j.allNumbers Number.finite = true) {blanks : String}
    (hb : blanks.toList.all isSpace = true) :
    Token.scan (j.pretty ++ blanks) = some (tokens j) := by
  have hends : Ends blanks.toList := by
    intro c hc
    have hspace := List.all_eq_true.mp hb c (List.mem_of_mem_head? hc)
    simp only [isSpace, Bool.or_eq_true, decide_eq_true_eq] at hspace
    rcases hspace with ((rfl | rfl) | rfl) | rfl <;> decide
  have hempty : Scans [] [] := fun fuel _ => by cases fuel <;> rfl
  have hblanks : Scans blanks.toList [] := by simpa using Scans.spaces hb hempty
  have htext : (j.pretty ++ blanks).toList = prettyChars 0 j ++ blanks.toList := by simp [pretty]
  have hscans := scans_pretty j 0 hi hends hblanks _ Nat.le.refl
  rw [Token.scan, htext]
  simpa using hscans

/-- The printed document, with blanks behind it, is read as the document with reread numbers. -/
theorem parse_pretty_of_finite {j : Json} (hs : j.sound = true)
    (hi : j.allNumbers Number.finite = true) (hd : j.depth ≤ depthLimit) {blanks : String}
    (hb : blanks.toList.all isSpace = true) :
    parse (j.pretty ++ blanks) = some (j.mapNumbers Number.reread) := by
  have hread : ofTokens (tokens j) = some (j.mapNumbers Number.reread) := by
    have hvalue := readValue_tokens j (2 * (tokens j).length + 1) [] hs hi (by omega)
    rw [List.append_nil] at hvalue
    rw [ofTokens, hvalue]
  simp [parse, Json.read, scan_pretty hi hb, hread, sound_mapNumbers, depth_mapNumbers, hs, hd]

/-- The printed document, with blanks behind it, is read as the document. -/
theorem parse_pretty {j : Json} (hs : j.sound = true) (hi : j.integral = true)
    (hd : j.depth ≤ depthLimit) {blanks : String} (hb : blanks.toList.all isSpace = true) :
    parse (j.pretty ++ blanks) = some j := by
  have hfinite := allNumbers_mono (fun n => Number.finite_of_integral) hi
  rw [parse_pretty_of_finite hs hfinite hd hb,
    mapNumbers_eq_self (fun n => Number.reread_of_integral) hi]

/-- A text has no blanks behind it if it ends. -/
theorem isSpace_empty : ("" : String).toList.all isSpace = true := rfl

/-- The printed document is read as the document. -/
theorem parse_pretty_self {j : Json} (hs : j.sound = true) (hi : j.integral = true)
    (hd : j.depth ≤ depthLimit) : parse j.pretty = some j := by
  have hread := parse_pretty hs hi hd isSpace_empty
  rwa [String.append_empty] at hread

end AbiBindings.Json
