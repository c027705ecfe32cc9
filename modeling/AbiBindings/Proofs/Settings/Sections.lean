import AbiBindings.Settings.Basic
import Mathlib.Data.List.Nodup

/-!
# Sections of settings documents

What a section says for its keys does not depend on the order of the members of a table, nor on the
members that have other keys.

* `Setting.Section`: what a document says for the keys of a section.
* `Setting.Part`: the same for a section that may be missing.

Results:
* `section_iff`: the fields that are read are what the document says.
* `section_congr`: tables with the same members of the keys, in whatever order.
* `fieldOr_eq_some_iff`, `fieldOr_part_iff`: reading a field that may be missing.
-/

namespace AbiBindings.Setting

variable {α : Type} {d : Dialect} {keys : List String} {key : String} {s : Setting}
  {said : String → Option Setting} {members members' fields : List (String × Setting)}

/-- What a document says for the keys of a section: a table has members of these keys, at most one
of each, and a list has the values in the order of the keys. A date says nothing. -/
inductive Section (d : Dialect) (keys : List String) : Setting → (String → Option Setting) → Prop
  | table {members : List (String × Setting)} {said : String → Option Setting}
      (hone : ∀ key ∈ keys, (members.map Prod.fst).count key ≤ 1)
      (hsaid : ∀ key value, said key = some value ↔ key ∈ keys ∧ (key, value) ∈ members) :
      Section d keys (.table members) said
  | list {items : List Setting} {said : String → Option Setting}
      (hlength : items.length ≤ keys.length ∨ d.surplus = true)
      (hsaid : ∀ key value, said key = some value ↔ (key, value) ∈ keys.zip items) :
      Section d keys (.list items) said
  | date : Section d keys .date fun _ => none

/-- What is said for the keys of a section that may be missing. -/
inductive Part (d : Dialect) (keys : List String) :
    Option Setting → (String → Option Setting) → Prop
  | missing : Part d keys none fun _ => none
  | present {s : Setting} {said : String → Option Setting} (h : Section d keys s said) :
      Part d keys (some s) said

/-! ## Members -/

theorem distinct_iff :
    distinct keys members = true ↔ ∀ key ∈ keys, (members.map Prod.fst).count key ≤ 1 := by
  simp [distinct, List.count_eq_length_filter, List.filter_map, Function.comp_def]

theorem lookup_eq_some_iff_mem {value : Setting} (h : (fields.map Prod.fst).count key ≤ 1) :
    fields.lookup key = some value ↔ (key, value) ∈ fields := by
  rw [List.lookup_eq_some_iff]
  constructor
  · rintro ⟨front, back, rfl, -⟩
    simp
  · intro hmem
    obtain ⟨front, back, rfl⟩ := List.append_of_mem hmem
    refine ⟨front, back, rfl, fun m hm => ?_⟩
    -- A member of this key in front would be the second one.
    by_contra heq
    have hfront : 0 < (front.map Prod.fst).count key := by
      refine List.count_pos_iff.mpr ?_
      have hkey : key = m.1 := by simpa using heq
      exact hkey ▸ List.mem_map_of_mem hm
    simp only [List.map_append, List.map_cons, List.count_append, List.count_cons_self] at h
    omega

theorem count_filter (members : List (String × Setting)) (hkey : key ∈ keys) :
    ((members.filter fun m => keys.contains m.1).map Prod.fst).count key =
      (members.map Prod.fst).count key := by
  have hmap : (members.filter fun m => keys.contains m.1).map Prod.fst =
      (members.map Prod.fst).filter (keys.contains ·) := by
    rw [List.filter_map]
    rfl
  rw [hmap, List.count_filter (by simpa using hkey)]

/-- The members of the keys are read as they are. -/
theorem lookup_filter_eq_some_iff (hone : ∀ key ∈ keys, (members.map Prod.fst).count key ≤ 1)
    (key : String) (value : Setting) :
    (members.filter fun m => keys.contains m.1).lookup key = some value ↔
      key ∈ keys ∧ (key, value) ∈ members := by
  by_cases hkey : key ∈ keys
  · rw [lookup_eq_some_iff_mem ((count_filter members hkey).symm ▸ hone key hkey)]
    simp [hkey, and_comm]
  · have hnone : (members.filter fun m => keys.contains m.1).lookup key = none := by
      refine List.lookup_eq_none_iff.mpr fun m hm => ?_
      have hmem : m.1 ∈ keys := by simpa using (List.mem_filter.mp hm).2
      have hne : key ≠ m.1 := fun heq => hkey (heq ▸ hmem)
      simpa using hne
    rw [hnone]
    simp [hkey]

/-! ## Items -/

theorem map_fst_zip_sublist (keys : List String) (items : List Setting) :
    ((keys.zip items).map Prod.fst).Sublist keys := by
  induction keys generalizing items with
  | nil => simp
  | cons key rest ih =>
    cases items with
    | nil => simp
    | cons item more => exact (ih more).cons_cons key

theorem lookup_zip_eq_some_iff (hkeys : keys.Nodup) (items : List Setting) (key : String)
    (value : Setting) : (keys.zip items).lookup key = some value ↔ (key, value) ∈ keys.zip items :=
  lookup_eq_some_iff_mem
    (List.nodup_iff_count_le_one.mp (hkeys.sublist (map_fst_zip_sublist keys items)) key)

/-! ## Sections -/

/-- What is said is what fields hold if it is known what they hold. -/
theorem eq_lookup_iff {P : String → Setting → Prop}
    (h : ∀ key value, fields.lookup key = some value ↔ P key value) :
    said = (List.lookup · fields) ↔ ∀ key value, said key = some value ↔ P key value := by
  constructor
  · rintro rfl
    exact h
  · intro hsaid
    funext key
    exact Option.ext fun value => (hsaid key value).trans (h key value).symm

/-- The fields of a section are what the document says. -/
theorem section_iff (hkeys : keys.Nodup) :
    Section d keys s said ↔
      ∃ fields, s.section? d keys = some fields ∧ said = (List.lookup · fields) := by
  cases s with
  | table members =>
    rw [section?]
    constructor
    · rintro ⟨hone, hsaid⟩
      exact ⟨_, if_pos (distinct_iff.mpr hone),
        (eq_lookup_iff (lookup_filter_eq_some_iff hone)).mpr hsaid⟩
    · rintro ⟨fields, hfields, hsaid⟩
      split_ifs at hfields with hdistinct
      obtain rfl := Option.some.inj hfields
      have hone := distinct_iff.mp hdistinct
      exact .table hone ((eq_lookup_iff (lookup_filter_eq_some_iff hone)).mp hsaid)
  | list items =>
    have hlookup := lookup_zip_eq_some_iff hkeys items
    have hfits : (items.length ≤ keys.length || d.surplus) = true ↔
        items.length ≤ keys.length ∨ d.surplus = true := by simp
    rw [section?]
    constructor
    · intro h
      cases h with
      | list hlength hsaid =>
        exact ⟨_, if_pos (hfits.mpr hlength), (eq_lookup_iff hlookup).mpr hsaid⟩
    · rintro ⟨fields, hfields, hsaid⟩
      split_ifs at hfields with hlength
      obtain rfl := Option.some.inj hfields
      exact .list (hfits.mp hlength) ((eq_lookup_iff hlookup).mp hsaid)
  | date =>
    constructor
    · rintro ⟨⟩
      exact ⟨[], rfl, rfl⟩
    · rintro ⟨fields, hfields, rfl⟩
      obtain rfl : [] = fields := Option.some.inj hfields
      exact .date
  | nothing | bool | natural | text | other => exact iff_of_false nofun (by simp [section?])

theorem section_table_iff : Section d keys (.table members) said ↔
    (∀ key ∈ keys, ((members.filter fun m => keys.contains m.1).map Prod.fst).count key ≤ 1) ∧
      ∀ key value, said key = some value ↔
        (key, value) ∈ members.filter fun m => keys.contains m.1 := by
  have hmem : ∀ key value, (key, value) ∈ members.filter (fun m => keys.contains m.1) ↔
      key ∈ keys ∧ (key, value) ∈ members := by
    simp [and_comm]
  constructor
  · rintro ⟨hone, hsaid⟩
    exact ⟨fun key hkey => (count_filter members hkey).symm ▸ hone key hkey,
      fun key value => (hsaid key value).trans (hmem key value).symm⟩
  · rintro ⟨hone, hsaid⟩
    exact .table (fun key hkey => count_filter members hkey ▸ hone key hkey)
      fun key value => (hsaid key value).trans (hmem key value)

/-- Members with other keys, and the order of the members, do not matter. -/
theorem section_congr
    (h : (members.filter fun m => keys.contains m.1).Perm
      (members'.filter fun m => keys.contains m.1)) :
    Section d keys (.table members) said ↔ Section d keys (.table members') said := by
  simp only [section_table_iff, (h.map Prod.fst).count_eq, h.mem_iff]

/-! ## Fields -/

/-- Reading a value that may be missing relates what is there to what is put in place. -/
theorem elim_eq_some_iff {β γ : Type} {read : α → Option γ} {r : α → β → Prop}
    (put : Option β → γ) (hread : ∀ a v, read a = some v ↔ ∃ b, r a b ∧ v = put (some b))
    {x : Option α} {v : γ} :
    x.elim (some (put none)) read = some v ↔ ∃ y, Option.Rel r x y ∧ v = put y := by
  cases x with
  | none =>
    constructor
    · intro h
      exact ⟨none, .none, (Option.some.inj h).symm⟩
    · rintro ⟨_, ⟨⟩, rfl⟩
      rfl
  | some a =>
    rw [Option.elim_some, hread]
    constructor
    · rintro ⟨b, hb, rfl⟩
      exact ⟨some b, .some hb, rfl⟩
    · rintro ⟨_, ⟨hb⟩, rfl⟩
      exact ⟨_, hb, rfl⟩

theorem fieldOr_eq_some_iff {read : Setting → Option α} {default x : α} :
    fieldOr fields key read default = some x ↔
      ∃ v, Option.Rel (fun s v => read s = some v) (fields.lookup key) v ∧ x = v.getD default := by
  have helim : fieldOr fields key read default =
      (fields.lookup key).elim (some default) read := by
    rw [fieldOr]
    cases fields.lookup key <;> rfl
  rw [helim]
  exact elim_eq_some_iff (·.getD default) fun s v => by simp

/-- Reading a section that may be missing is reading what is said for its keys. -/
theorem fieldOr_part_iff {read : Setting → Option α} {default x : α}
    {Means : (String → Option Setting) → α → Prop}
    (hread : ∀ s x, read s = some x ↔ ∃ said, Section d keys s said ∧ Means said x)
    (hmissing : ∀ x, Means (fun _ => none) x ↔ x = default) :
    fieldOr fields key read default = some x ↔
      ∃ said, Part d keys (fields.lookup key) said ∧ Means said x := by
  rw [fieldOr]
  cases fields.lookup key with
  | none =>
    constructor
    · intro h
      exact ⟨_, .missing, (hmissing x).mpr (Option.some.inj h).symm⟩
    · rintro ⟨_, ⟨⟩, h⟩
      rw [(hmissing x).mp h]
  | some s =>
    constructor
    · intro h
      obtain ⟨said, hsection, hmeans⟩ := (hread s x).mp h
      exact ⟨said, .present hsection, hmeans⟩
    · rintro ⟨said, hpart, hmeans⟩
      cases hpart with
      | present hsection => exact (hread s x).mpr ⟨said, hsection, hmeans⟩

end AbiBindings.Setting
