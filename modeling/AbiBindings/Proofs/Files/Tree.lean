import AbiBindings.Files.Tree
import Mathlib.Data.List.DropRight

/-!
# Changes of directory trees

What making directories and writing files changes in a tree, place by place.

* `Tree.Keeps`: every directory of a tree is one in another tree. Paths that lead somewhere in the
  first lead to the same place in the second.
* `Tree.Through`: the places that the parts of a path lead through.
* `Tree.Grown`: a tree with more directories on the way of a path, and nothing else changed.

Results:
* `grown_createAll`, `isDirectory_createAll`: making a directory and those above it.
* `write_eq_ok`, `at?_write`, `find_of_keeps`: writing a file, and what paths lead to after it.
* `getLast?_of_find`: the last name of a path is that of the place it leads to.
-/

namespace AbiBindings.Files

namespace Path

/-- What is left when empty parts are dropped from the end is not the mark of the root alone. -/
theorem rdropWhile_ne_root {p : String → Bool} (h : p "" = true) (parts : List String) :
    parts.rdropWhile p ≠ [""] := by
  intro hroot
  refine List.rdropWhile_last_not p parts (by simp [hroot]) ?_
  simp only [hroot, List.getLast_singleton]
  exact h

/-- The parts of a path without its last name, in the order of the path. -/
theorem parent_eq (parts : List String) :
    parent parts = ((parts.rdropWhile isStay).dropLast).rdropWhile isStay := by
  simp [parent, List.rdropWhile]

theorem parent_prefix (parts : List String) : parent parts <+: parts := by
  rw [parent_eq]
  exact ((List.rdropWhile_prefix _ _).trans (List.dropLast_prefix _)).trans
    (List.rdropWhile_prefix _ _)

theorem parent_ne_root (parts : List String) : parent parts ≠ [""] := by
  rw [parent_eq]
  exact rdropWhile_ne_root (by decide) _

/-- A text without slashes lengthens the last piece of the text before it. -/
theorem split_append (cs : List Char) : ∃ front piece, ∀ ending : List Char, '/' ∉ ending →
    split (cs ++ ending) = front ++ [piece ++ ending] := by
  induction cs with
  | nil =>
    refine ⟨[], [], fun ending h => ?_⟩
    induction ending with
    | nil => rfl
    | cons c ending ih =>
      obtain ⟨hc, hending⟩ := List.ne_and_not_mem_of_not_mem_cons h
      have hsplit : split ending = [ending] := ih hending
      simp [split, Ne.symm hc, hsplit]
  | cons c cs ih =>
    obtain ⟨front, piece, hsplit⟩ := ih
    by_cases hc : c = '/'
    · exact ⟨[] :: front, piece, fun ending h => by simp [split, hc, hsplit ending h]⟩
    · cases front with
      | nil => exact ⟨[], c :: piece, fun ending h => by simp [split, hc, hsplit ending h]⟩
      | cons next front =>
        exact ⟨(c :: next) :: front, piece, fun ending h => by simp [split, hc, hsplit ending h]⟩

theorem getLast?_parts_append (s : String) : ∃ name : String, ∀ ending : String,
    '/' ∉ ending.toList → (parts (s ++ ending)).getLast? = some (name ++ ending) := by
  obtain ⟨front, piece, hsplit⟩ := split_append s.toList
  refine ⟨String.ofList piece, fun ending h => ?_⟩
  rw [parts, String.toList_append, hsplit _ h]
  simp

/-- What is behind the name of a path is behind the path that it is joined to. -/
theorem join_append (base stem : String) {ending : String} (h : ending.toList.head? ≠ some '/') :
    join base (stem ++ ending) = join base stem ++ ending := by
  have habsolute : isAbsolute (stem ++ ending) = isAbsolute stem := by
    cases hstem : stem.toList <;> simp [isAbsolute, hstem, h]
  rw [join, join, habsolute]
  split_ifs <;> simp [String.append_assoc]

/-- A name that ends with something other than a point is none of the parts that lead to no name. -/
theorem isName_of_getLast? {name : String} {c : Char} (h : name.toList.getLast? = some c)
    (hc : c ≠ '.') : isStay name = false ∧ name ≠ ".." := by
  have hpoint : name ≠ "." ∧ name ≠ ".." := by
    constructor <;> rintro rfl <;> exact hc (Option.some.inj h).symm
  have hempty : name ≠ "" := by
    rintro rfl
    cases h
  exact ⟨by simp [isStay, hempty, hpoint.1], hpoint.2⟩

end Path

namespace Tree

variable {t t' t'' : Tree} {p q : Place} {parts front rest : List String} {path : String}
  {content : Bytes}

/-! ## Nodes at places -/

theorem at?_of_isGiven (h : Place.isGiven p = true) : t.at? p = some .directory := by
  simp [at?, h]

theorem isGiven_of_at? (h : t.at? p ≠ some .directory) : Place.isGiven p = false :=
  Bool.eq_false_iff.mpr fun hgiven => h (at?_of_isGiven hgiven)

theorem find?_putEntry (node : Node) (entries : List (Place × Node)) :
    (putEntry p node entries).find? (fun e => e.1 == q) =
      if q = p then some (p, node) else entries.find? (fun e => e.1 == q) := by
  induction entries with
  | nil =>
    by_cases h : q = p
    · simp [putEntry, h]
    · simp [putEntry, h, Ne.symm h]
  | cons e rest ih =>
    by_cases hq : q = p <;> by_cases he : e.1 = p <;> by_cases heq : e.1 = q <;>
      simp_all [putEntry]

/-- Only what stands at the place is changed by putting a node there. -/
theorem at?_put (h : Place.isGiven p = false) (node : Node) :
    (t.put p node).at? q = if q = p then some node else t.at? q := by
  rw [at?, at?, put, find?_putEntry]
  by_cases hq : q = p
  · simp [hq, h]
  · simp [hq]

/-! ## Walking -/

/-- Every directory of the first tree is one in the second. -/
def Keeps (t t' : Tree) : Prop := ∀ p, t.at? p = some .directory → t'.at? p = some .directory

theorem Keeps.refl (t : Tree) : t.Keeps t := fun _ h => h

theorem Keeps.trans (h : t.Keeps t') (h' : t'.Keeps t'') : t.Keeps t'' :=
  fun p hp => h' p (h p hp)

/-- What is put where there was no directory takes the place of none. -/
theorem keeps_put (h : t.at? p ≠ some .directory) (node : Node) : t.Keeps (t.put p node) := by
  intro q hq
  have hne : q ≠ p := by
    rintro rfl
    exact h hq
  rw [at?_put (isGiven_of_at? h), if_neg hne]
  exact hq

theorem step_eq_ok {part : String} :
    t.step p part = .ok q ↔ t.at? p = some .directory ∧
      (if Path.isStay part then q = p
      else if part = ".." then q = Place.above p
      else part.utf8ByteSize ≤ nameLimit ∧ q = p ++ [part]) := by
  rw [step]
  cases hat : t.at? p with
  | none => simp
  | some node =>
    cases node with
    | file content => simp
    | directory =>
      simp only [true_and]
      split_ifs with hstay hup hlong
      · simp [eq_comm]
      · simp [eq_comm]
      · simp [Nat.not_le_of_lt hlong]
      · simp [Nat.le_of_not_lt hlong, eq_comm]

theorem walk_cons {part : String} :
    t.walk p (part :: rest) = .ok q ↔ ∃ m, t.step p part = .ok m ∧ t.walk m rest = .ok q := by
  rw [walk]
  cases t.step p part <;> simp

theorem walk_append :
    t.walk p (front ++ rest) = .ok q ↔ ∃ m, t.walk p front = .ok m ∧ t.walk m rest = .ok q := by
  induction front generalizing p with
  | nil => simp [walk]
  | cons part front ih =>
    simp only [List.cons_append, walk_cons, ih]
    constructor
    · rintro ⟨m, hstep, m', hfront, hrest⟩
      exact ⟨m', ⟨m, hstep, hfront⟩, hrest⟩
    · rintro ⟨m', ⟨m, hstep, hfront⟩, hrest⟩
      exact ⟨m, hstep, m', hfront, hrest⟩

/-- A walk only asks which places are directories. -/
theorem walk_of_keeps (h : t.Keeps t') (hwalk : t.walk p parts = .ok q) :
    t'.walk p parts = .ok q := by
  induction parts generalizing p with
  | nil => exact hwalk
  | cons part rest ih =>
    obtain ⟨m, hstep, hrest⟩ := walk_cons.mp hwalk
    obtain ⟨hat, hnext⟩ := step_eq_ok.mp hstep
    exact walk_cons.mpr ⟨m, step_eq_ok.mpr ⟨h _ hat, hnext⟩, ih hrest⟩

theorem isDirectory_eq_true :
    t.isDirectory parts = true ↔
      ∃ q, t.walk (start parts) parts = .ok q ∧ t.at? q = some .directory := by
  rw [isDirectory]
  cases t.walk (start parts) parts <;> simp

theorem isDirectory_of_keeps (h : t.Keeps t') (hdir : t.isDirectory parts = true) :
    t'.isDirectory parts = true := by
  obtain ⟨q, hwalk, hat⟩ := isDirectory_eq_true.mp hdir
  exact isDirectory_eq_true.mpr ⟨q, walk_of_keeps h hwalk, h q hat⟩

theorem isDirectory_nil : t.isDirectory [] = true :=
  isDirectory_eq_true.mpr ⟨[], rfl, at?_of_isGiven rfl⟩

theorem at?_start (parts : List String) : t.at? (start parts) = some .directory := by
  refine at?_of_isGiven ?_
  unfold start
  split <;> rfl

/-- The front of a path starts where the path starts, unless it is the mark of the root alone. -/
theorem start_eq_of_prefix (h : front <+: parts) (hne : front ≠ []) (hroot : front ≠ [""]) :
    start front = start parts := by
  obtain ⟨rest, rfl⟩ := h
  match front with
  | [] => exact absurd rfl hne
  | [part] =>
    have hpart : part ≠ "" := fun h => hroot (h ▸ rfl)
    simp [start, hpart]
  | part :: next :: front =>
    by_cases hpart : part = ""
    · simp [start, hpart]
    · simp [start, hpart]

/-- The places that the parts of a path lead through. -/
def Through (t : Tree) (parts : List String) (p : Place) : Prop :=
  ∃ front, front <+: parts ∧ t.walk (start parts) front = .ok p

theorem Through.of_keeps (h : t.Through parts p) (hkeeps : t.Keeps t') : t'.Through parts p := by
  obtain ⟨front, hfront, hwalk⟩ := h
  exact ⟨front, hfront, walk_of_keeps hkeeps hwalk⟩

theorem Through.mono (h : t.Through front p) (hfront : front <+: parts) (hne : front ≠ [])
    (hroot : front ≠ [""]) : t.Through parts p := by
  obtain ⟨way, hway, hwalk⟩ := h
  exact ⟨way, hway.trans hfront, start_eq_of_prefix hfront hne hroot ▸ hwalk⟩

/-! ## Making directories -/

/-- Whether the second tree has more directories on the way of a path than the first, and is the
same apart from that. -/
def Grown (t : Tree) (parts : List String) (t' : Tree) : Prop :=
  ∀ p, t'.at? p = t.at? p ∨
    t.at? p = none ∧ t'.at? p = some .directory ∧ t'.Through parts p

theorem Grown.refl (t : Tree) (parts : List String) : t.Grown parts t := fun _ => .inl rfl

theorem Grown.keeps (h : t.Grown parts t') : t.Keeps t' := by
  intro p hp
  rcases h p with heq | ⟨hnone, -, -⟩
  · exact heq.trans hp
  · rw [hp] at hnone
    cases hnone

theorem Grown.mono (h : t.Grown front t') (hfront : front <+: parts) (hne : front ≠ [])
    (hroot : front ≠ [""]) : t.Grown parts t' :=
  fun p => (h p).imp_right fun ⟨hnone, hdir, hway⟩ =>
    ⟨hnone, hdir, hway.mono hfront hne hroot⟩

theorem Grown.trans (h : t.Grown parts t') (h' : t'.Grown parts t'') : t.Grown parts t'' := by
  intro p
  rcases h p with heq | ⟨hnone, hdir, hway⟩
  · rw [← heq]
    exact h' p
  · exact .inr ⟨hnone, h'.keeps p hdir, hway.of_keeps h'.keeps⟩

theorem makeDirectory_eq_ok :
    t.makeDirectory parts = .ok t' ↔
      ∃ p, t.walk (start parts) parts = .ok p ∧ t.at? p = none ∧ t' = t.put p .directory := by
  rw [makeDirectory]
  cases t.walk (start parts) parts with
  | error e => simp
  | ok p => cases hat : t.at? p <;> simp [hat, eq_comm]

theorem grown_makeDirectory (h : t.makeDirectory parts = .ok t') :
    t.Grown parts t' ∧ t'.isDirectory parts = true := by
  obtain ⟨p, hwalk, hat, rfl⟩ := makeDirectory_eq_ok.mp h
  have hne : t.at? p ≠ some .directory := by simp [hat]
  have hwalk' := walk_of_keeps (keeps_put hne .directory) hwalk
  have hput : (t.put p .directory).at? p = some .directory := by
    rw [at?_put (isGiven_of_at? hne), if_pos rfl]
  refine ⟨fun q => ?_, isDirectory_eq_true.mpr ⟨p, hwalk', hput⟩⟩
  by_cases hq : q = p
  · subst hq
    exact .inr ⟨hat, hput, parts, List.prefix_rfl, hwalk'⟩
  · exact .inl (by rw [at?_put (isGiven_of_at? hne), if_neg hq])

/-- Whether making directories succeeds or fails, nothing is changed but directories on the way. -/
theorem grown_createParts (t : Tree) (parts : List String) (fuel : Nat) :
    t.Grown parts (t.createParts parts fuel).1 := by
  induction fuel generalizing t parts with
  | zero => exact .refl t parts
  | succ fuel ih =>
    rw [createParts]
    split
    · exact .refl t parts
    · split
      case h_1 t' hmake => exact (grown_makeDirectory hmake).1
      case h_3 => exact .refl t parts
      case h_2 =>
        have hparent : t.Grown parts (t.createParts (Path.parent parts) fuel).1 := by
          by_cases hnil : Path.parent parts = []
          · rw [hnil]
            cases fuel <;> exact .refl t parts
          · exact (ih t (Path.parent parts)).mono (Path.parent_prefix parts) hnil
              (Path.parent_ne_root parts)
        split
        case h_1 t' e heq => exact heq ▸ hparent
        case h_2 t' heq =>
          rw [heq] at hparent
          split
          case h_1 t'' hmake => exact hparent.trans (grown_makeDirectory hmake).1
          case h_2 => exact hparent

/-- Where it succeeds, there is the directory. -/
theorem isDirectory_createParts {fuel : Nat}
    (h : t.createParts parts (fuel + 1) = (t', .ok ())) : t'.isDirectory parts = true := by
  rw [createParts] at h
  split at h
  case isTrue hnil =>
    rw [List.isEmpty_iff.mp hnil]
    exact isDirectory_nil
  case isFalse =>
    split at h
    case h_1 t₁ hmake =>
      obtain ⟨rfl, -⟩ := Prod.mk.inj h
      exact (grown_makeDirectory hmake).2
    case h_2 =>
      split at h
      case h_1 => cases h
      case h_2 =>
        split at h
        case h_1 t₂ hmake =>
          obtain ⟨rfl, -⟩ := Prod.mk.inj h
          exact (grown_makeDirectory hmake).2
        case h_2 =>
          obtain ⟨rfl, hdir⟩ := Prod.mk.inj h
          simpa using hdir
    case h_3 =>
      obtain ⟨rfl, hdir⟩ := Prod.mk.inj h
      simpa using hdir

theorem createAll_cases (t : Tree) (path : String) :
    t.createAll path = (t, .ok ()) ∧ path = "" ∨ (∃ e, t.createAll path = (t, .error e)) ∨
      t.createAll path = t.createParts ((Path.parts path).rdropWhile (· == ""))
        (((Path.parts path).rdropWhile (· == "")).length + 1) := by
  rw [createAll]
  split_ifs with hempty hnul hlong
  · exact .inl ⟨rfl, hempty⟩
  · exact .inr (.inl ⟨_, rfl⟩)
  · exact .inr (.inl ⟨_, rfl⟩)
  · exact .inr (.inr rfl)

theorem walk_of_isStay (h : ∀ part ∈ parts, Path.isStay part = true)
    (hat : t.at? p = some .directory) : t.walk p parts = .ok p := by
  induction parts with
  | nil => rfl
  | cons part rest ih =>
    obtain ⟨hpart, hrest⟩ := List.forall_mem_cons.mp h
    exact walk_cons.mpr ⟨p, step_eq_ok.mpr ⟨hat, by rw [if_pos hpart]⟩, ih hrest⟩

/-- Slashes at the end of a path count for nothing. -/
theorem isDirectory_of_rdropWhile (h : t.isDirectory (parts.rdropWhile (· == "")) = true) :
    t.isDirectory parts = true := by
  obtain ⟨q, hwalk, hat⟩ := isDirectory_eq_true.mp h
  have hstay : ∀ part ∈ parts.rtakeWhile (· == ""), Path.isStay part = true := by
    intro part hpart
    have hempty := List.mem_rtakeWhile_imp (p := (· == "")) hpart
    simp [Path.isStay, eq_of_beq hempty]
  have hparts := List.rdropWhile_append_rtakeWhile (p := (· == "")) (l := parts)
  by_cases hnil : parts.rdropWhile (· == "") = []
  · rw [hnil, List.nil_append] at hparts
    rw [hparts] at hstay
    exact isDirectory_eq_true.mpr ⟨_, walk_of_isStay hstay (at?_start _), at?_start _⟩
  · have hstart := start_eq_of_prefix (List.rdropWhile_prefix (· == "") parts) hnil
      (Path.rdropWhile_ne_root (by decide) parts)
    have hall := walk_append.mpr ⟨q, hstart ▸ hwalk, walk_of_isStay hstay hat⟩
    rw [hparts] at hall
    exact isDirectory_eq_true.mpr ⟨q, hall, hat⟩

/-- Making a directory changes nothing but directories on the way to it, even if it fails. -/
theorem grown_createAll (t : Tree) (path : String) :
    t.Grown (Path.parts path) (t.createAll path).1 := by
  rcases createAll_cases t path with ⟨h, -⟩ | ⟨e, h⟩ | h <;> rw [h]
  · exact .refl t _
  · exact .refl t _
  · have hgrown := grown_createParts t ((Path.parts path).rdropWhile (· == ""))
      (((Path.parts path).rdropWhile (· == "")).length + 1)
    by_cases hnil : (Path.parts path).rdropWhile (· == "") = []
    · rw [hnil]
      exact .refl t _
    · exact hgrown.mono (List.rdropWhile_prefix _ _) hnil
        (Path.rdropWhile_ne_root (by decide) _)

/-- Where it succeeds, the path leads to a directory. -/
theorem isDirectory_createAll (h : t.createAll path = (t', .ok ())) :
    t'.isDirectory (Path.parts path) = true := by
  refine isDirectory_of_rdropWhile ?_
  rcases createAll_cases t path with ⟨-, rfl⟩ | ⟨e, he⟩ | hparts
  · exact isDirectory_nil
  · rw [h] at he
    cases he
  · exact isDirectory_createParts (hparts.symm.trans h)

/-! ## Writing files -/

theorem find_eq_ok :
    t.find path = .ok p ↔ path ≠ "" ∧ '\x00' ∉ path.toList ∧ path.utf8ByteSize ≤ pathLimit ∧
      t.walk (start (Path.parts path)) (Path.parts path) = .ok p := by
  rw [find]
  split_ifs with hempty hnul hlong
  · simp [hempty]
  · simp [List.contains_iff_mem.mp hnul]
  · simp [Nat.not_le_of_lt hlong]
  · simp [hempty, List.contains_iff_mem.not.mp hnul, Nat.le_of_not_lt hlong]

theorem find_of_keeps (h : t.Keeps t') (hfind : t.find path = .ok p) : t'.find path = .ok p := by
  obtain ⟨hempty, hnul, hlong, hwalk⟩ := find_eq_ok.mp hfind
  exact find_eq_ok.mpr ⟨hempty, hnul, hlong, walk_of_keeps h hwalk⟩

theorem write_eq_ok :
    t.write path content = .ok t' ↔ ∃ p, t.find path = .ok p ∧ t.at? p ≠ some .directory ∧
      (Path.parts path).getLast? ≠ some "" ∧ t' = t.put p (.file content) := by
  rw [write]
  cases t.find path with
  | error e => simp
  | ok p =>
    simp only [Except.ok.injEq, exists_eq_left']
    split
    case h_1 hat => simp [hat]
    case h_2 hat =>
      have hne : t.at? p ≠ some .directory := hat
      split_ifs with hlast
      · simp [hlast]
      · simp [hlast, hne, eq_comm]

theorem keeps_write (h : t.write path content = .ok t') : t.Keeps t' := by
  obtain ⟨p, -, hat, -, rfl⟩ := write_eq_ok.mp h
  exact keeps_put hat _

theorem read_eq_ok :
    t.read path = .ok content ↔ ∃ p, t.find path = .ok p ∧ t.at? p = some (.file content) := by
  rw [read]
  cases t.find path with
  | error e => simp
  | ok p =>
    simp only [Except.ok.injEq, exists_eq_left']
    rcases t.at? p with _ | ⟨c⟩ | _ <;> simp

/-- Writing a file changes what stands at the place of the path and nothing else. -/
theorem at?_write (h : t.write path content = .ok t') :
    ∃ p, t'.find path = .ok p ∧ t'.at? p = some (.file content) ∧
      ∀ q, q ≠ p → t'.at? q = t.at? q := by
  have hkeeps := keeps_write h
  obtain ⟨p, hfind, hat, -, rfl⟩ := write_eq_ok.mp h
  have hgiven := isGiven_of_at? hat
  refine ⟨p, find_of_keeps hkeeps hfind, ?_, fun q hq => ?_⟩
  · rw [at?_put hgiven, if_pos rfl]
  · rw [at?_put hgiven, if_neg hq]

/-! ## Last names -/

/-- A path that ends with a name leads to a place of that name. -/
theorem getLast?_of_find {name : String} (hname : (Path.parts path).getLast? = some name)
    (hstay : Path.isStay name = false) (hup : name ≠ "..") (h : t.find path = .ok p) :
    p.getLast? = some name := by
  obtain ⟨-, -, -, hwalk⟩ := find_eq_ok.mp h
  rw [← List.dropLast_append_getLast? name hname] at hwalk
  obtain ⟨m, -, hlast⟩ := walk_append.mp hwalk
  obtain ⟨q, hstep, hq⟩ := walk_cons.mp hlast
  obtain rfl : q = p := Except.ok.inj hq
  obtain ⟨-, hnext⟩ := step_eq_ok.mp hstep
  rw [if_neg (Bool.eq_false_iff.mp hstay), if_neg hup] at hnext
  rw [hnext.2, List.getLast?_concat]

end Tree

end AbiBindings.Files
