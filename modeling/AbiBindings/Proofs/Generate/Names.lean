import AbiBindings.Generate.Module
import Mathlib.Data.List.Nodup

/-!
# Names that are told apart

Repeated names are told apart by numbers, and the numbered name may be the name of something else.
That happens exactly if a name that is there is another one followed by a number that the other one
occurs often enough to reach.

* `Clash`: a name that is the numbered form of another one.
* `occurrences`: names with how often each was seen before.

Results:
* `length_methodNames`, `length_eventTypeNames`: there is a method for every function, and a type
  for every event.
* `clash_of_numbered_eq`: numbered names that are equal are the same name seen equally often, or
  there is a clash.
* `distinctNames_iff`: names are told apart, and from the taken ones, exactly if nothing clashes.
* `notMem_distinctNames`: a taken name that does not end in a digit is avoided in any case.
-/

namespace AbiBindings.Generate

/-! ## Numbers behind names -/

theorem toList_number (n : Nat) : (toString n).toList = Nat.toDigits 10 n := by
  rw [Nat.toString_eq_repr, Nat.toList_repr]

theorem isAsciiDigit_of_mem_number {n : Nat} {c : Char} (h : c ∈ (toString n).toList) :
    Text.isAsciiDigit c = true := by
  rw [toList_number] at h
  have hdigit : c.isDigit = true := Nat.isDigit_of_mem_toDigits (by omega) (by omega) h
  simpa [Text.isAsciiDigit, Char.isDigit, Char.le_def] using hdigit

theorem toDigits_injective {m n : Nat} (h : Nat.toDigits 10 m = Nat.toDigits 10 n) : m = n := by
  simpa using congrArg (fun digits => Nat.ofDigitChars 10 digits 0) h

/-- What is left of a number without some last digits, if that is not nothing, is a smaller one. -/
theorem number_of_prefix {n : Nat} {front back : List Char}
    (h : Nat.toDigits 10 n = front ++ back) (hfront : front ≠ []) (hback : back ≠ []) :
    ∃ m < n, front = Nat.toDigits 10 m := by
  induction n using Nat.strongRecOn generalizing back with
  | ind n ih =>
    obtain ⟨back, d, rfl⟩ := List.eq_nil_or_concat back |>.resolve_left hback
    rw [Nat.toDigits_eq_if (by omega), List.concat_eq_append, ← List.append_assoc] at h
    split at h
    · have hlength := congrArg List.length h
      have hpos := List.length_pos_iff.mpr hfront
      simp only [List.length_singleton, List.length_append] at hlength
      omega
    · have hless : n / 10 < n := Nat.div_lt_self (by omega) (by omega)
      obtain ⟨hinit, -⟩ := List.append_inj' h rfl
      by_cases hnil : back = []
      · exact ⟨n / 10, hless, by rw [hinit, hnil, List.append_nil]⟩
      · obtain ⟨m, hm, heq⟩ := ih _ hless hinit hnil
        exact ⟨m, by omega, heq⟩

/-- A name followed by a number is not the name. -/
theorem append_number_ne (name : String) (n : Nat) : name ++ toString n ≠ name := by
  intro h
  have hlist := congrArg String.toList h
  rw [String.toList_append, toList_number, List.append_right_eq_self] at hlist
  exact Nat.toDigits_ne_nil hlist

theorem numbered_injective {name : String} {m n : Nat} (h : numbered name m = numbered name n) :
    m = n := by
  cases m with
  | zero =>
    cases n with
    | zero => rfl
    | succ n => exact absurd h.symm (append_number_ne name n)
  | succ m =>
    cases n with
    | zero => exact absurd h (append_number_ne name m)
    | succ n =>
      have hlist := congrArg String.toList h
      simp only [numbered, String.toList_append, toList_number] at hlist
      rw [toDigits_injective (List.append_cancel_left hlist)]

/-- If a number behind a name gives the same as another number behind more than the name, then what
is more is a smaller number. -/
theorem number_between {base other : String} {between : List Char} {m n : Nat}
    (hother : other.toList = base.toList ++ between) (hne : other ≠ base)
    (h : Nat.toDigits 10 n = between ++ Nat.toDigits 10 m) :
    ∃ k < n, other = base ++ toString k := by
  have hbetween : between ≠ [] := by
    rintro rfl
    exact hne (String.toList_inj.mp (by rw [hother, List.append_nil]))
  obtain ⟨k, hk, rfl⟩ := number_of_prefix h hbetween Nat.toDigits_ne_nil
  refine ⟨k, hk, String.toList_inj.mp ?_⟩
  rw [hother, String.toList_append, toList_number]

/-- Two names that look the same when they are numbered: one of them is the other one followed by a
smaller number than its own. -/
theorem numbered_eq_cases {a b : String} {m n : Nat} (hne : a ≠ b)
    (h : numbered a m = numbered b n) :
    (∃ k < n, a = b ++ toString k) ∨ ∃ k < m, b = a ++ toString k := by
  match m, n with
  | 0, 0 => exact absurd h hne
  | 0, n + 1 => exact .inl ⟨n, by omega, h⟩
  | m + 1, 0 => exact .inr ⟨m, by omega, h.symm⟩
  | m + 1, n + 1 =>
    have hlist := congrArg String.toList h
    simp only [numbered, String.toList_append, toList_number] at hlist
    rcases List.append_eq_append_iff.mp hlist with ⟨between, hb, hdigits⟩ | ⟨between, ha, hdigits⟩
    · obtain ⟨k, hk, hbase⟩ := number_between hb hne.symm hdigits
      exact .inr ⟨k, by omega, hbase⟩
    · obtain ⟨k, hk, hbase⟩ := number_between ha hne hdigits
      exact .inl ⟨k, by omega, hbase⟩

/-! ## As many names as entries -/

theorem length_distinctAfter (seen names : List String) :
    (distinctAfter seen names).length = names.length := by
  induction names generalizing seen with
  | nil => rfl
  | cons name rest ih => rw [distinctAfter, List.length_cons, List.length_cons, ih]

theorem length_distinctNames (taken names : List String) :
    (distinctNames taken names).length = names.length :=
  length_distinctAfter _ _

theorem length_methodNames (o : Outline) : (methodNames o).length = o.functions.length := by
  rw [methodNames, length_distinctNames, List.length_map]

theorem length_eventTypeNames (contractType : String) (o : Outline) :
    (eventTypeNames contractType o).length = o.events.length := by
  rw [eventTypeNames, length_distinctNames, List.length_map]

/-! ## Occurrences -/

/-- The names, each with how often it was seen before. -/
def occurrences (seen : List String) : List String → List (String × Nat)
  | [] => []
  | name :: rest => (name, seen.count name) :: occurrences (name :: seen) rest

theorem distinctAfter_eq_map (seen names : List String) :
    distinctAfter seen names = (occurrences seen names).map fun p => numbered p.1 p.2 := by
  induction names generalizing seen with
  | nil => rfl
  | cons name rest ih => rw [distinctAfter, occurrences, List.map_cons, ih]

/-- A name occurs once for every number from what was seen of it on. -/
theorem mem_occurrences {seen names : List String} {name : String} {n : Nat} :
    (name, n) ∈ occurrences seen names ↔
      seen.count name ≤ n ∧ n < seen.count name + names.count name := by
  induction names generalizing seen with
  | nil => simp [occurrences]
  | cons x rest ih =>
    rw [occurrences, List.mem_cons, Prod.mk.injEq, ih]
    by_cases hx : name = x
    · subst hx
      simp only [List.count_cons_self, true_and]
      omega
    · simp only [List.count_cons_of_ne (Ne.symm hx), hx, false_and, false_or]

theorem nodup_occurrences (seen names : List String) : (occurrences seen names).Nodup := by
  induction names generalizing seen with
  | nil => exact List.nodup_nil
  | cons name rest ih =>
    refine List.nodup_cons.mpr ⟨fun h => ?_, ih _⟩
    have hseen := (mem_occurrences.mp h).1
    rw [List.count_cons_self] at hseen
    omega

/-! ## Clashes -/

/-- Whether a name is another one followed by a number that the other one reaches. -/
def Clash (names : List String) : Prop :=
  ∃ name n, n + 2 ≤ names.count name ∧ name ++ toString n ∈ names

/-- Occurrences of different names that look the same clash. -/
theorem clash_of_numbered_eq {names : List String} {a b : String} {m n : Nat} (hne : a ≠ b)
    (ha : (a, m) ∈ occurrences [] names) (hb : (b, n) ∈ occurrences [] names)
    (h : numbered a m = numbered b n) : Clash names := by
  rw [mem_occurrences, List.count_nil, Nat.zero_add] at ha hb
  rcases numbered_eq_cases hne h with ⟨k, hk, rfl⟩ | ⟨k, hk, rfl⟩
  · exact ⟨b, k, by omega, List.count_pos_iff.mp (by omega)⟩
  · exact ⟨a, k, by omega, List.count_pos_iff.mp (by omega)⟩

/-- Numbering tells names apart exactly if nothing clashes. -/
theorem nodup_distinctAfter_iff (names : List String) :
    (distinctAfter [] names).Nodup ↔ ¬ Clash names := by
  rw [distinctAfter_eq_map, List.nodup_map_iff_inj_on (nodup_occurrences [] names)]
  constructor
  · rintro hinj ⟨name, n, hcount, hmem⟩
    have hnumbered : (name, n + 1) ∈ occurrences [] names :=
      mem_occurrences.mpr ⟨by simp, by rw [List.count_nil]; omega⟩
    have hplain : (name ++ toString n, 0) ∈ occurrences [] names :=
      mem_occurrences.mpr ⟨by simp, by simpa using hmem⟩
    have hsame := hinj _ hnumbered _ hplain rfl
    simp at hsame
  · rintro hclash ⟨a, m⟩ ha ⟨b, n⟩ hb h
    by_cases hab : a = b
    · subst hab
      exact congrArg _ (numbered_injective h)
    · exact absurd (clash_of_numbered_eq hab ha hb h) hclash

/-! ## Taken names -/

theorem distinctAfter_append (seen xs ys : List String) :
    distinctAfter seen (xs ++ ys) =
      distinctAfter seen xs ++ distinctAfter (xs.reverse ++ seen) ys := by
  induction xs generalizing seen with
  | nil => rfl
  | cons x xs ih => simp [distinctAfter, ih]

/-- Only how often a name was seen counts. -/
theorem distinctAfter_congr {seen seen' : List String}
    (h : ∀ name, seen.count name = seen'.count name) (names : List String) :
    distinctAfter seen names = distinctAfter seen' names := by
  induction names generalizing seen seen' with
  | nil => rfl
  | cons name rest ih =>
    rw [distinctAfter, distinctAfter, h name]
    exact congrArg _ (ih fun other => by rw [List.count_cons, List.count_cons, h other])

/-- Names that differ stay as they are. -/
theorem distinctAfter_of_nodup {seen names : List String} (hnames : names.Nodup)
    (hseen : ∀ name ∈ names, name ∉ seen) : distinctAfter seen names = names := by
  induction names generalizing seen with
  | nil => rfl
  | cons name rest ih =>
    obtain ⟨hname, hrest⟩ := List.nodup_cons.mp hnames
    have hcount : seen.count name = 0 := List.count_eq_zero.mpr (hseen name List.mem_cons_self)
    rw [distinctAfter, hcount, numbered, ih hrest]
    intro other hother hseen'
    rcases List.mem_cons.mp hseen' with rfl | hseen'
    · exact hname hother
    · exact hseen other (List.mem_cons_of_mem _ hother) hseen'

theorem nodup_eraseDups (names : List String) : names.eraseDups.Nodup := by
  cases names with
  | nil => exact List.nodup_nil
  | cons name rest =>
    rw [List.eraseDups_cons, List.nodup_cons]
    refine ⟨fun h => ?_, nodup_eraseDups _⟩
    simpa using (List.mem_filter.mp (List.mem_eraseDups.mp h)).2
termination_by names.length
decreasing_by
  have hle := List.length_filter_le (fun other => !other == name) rest
  rw [List.length_cons]
  omega

/-- The taken names with the new ones behind them are all the names, told apart. -/
theorem distinctAfter_taken (taken names : List String) :
    distinctAfter [] (taken.eraseDups ++ names) = taken.eraseDups ++ distinctNames taken names := by
  rw [distinctAfter_append, distinctAfter_of_nodup (nodup_eraseDups taken) (by simp), distinctNames]
  exact congrArg _ (distinctAfter_congr (fun name => by simp) names)

/-- The names are told apart, and from the taken ones, exactly if nothing clashes. -/
theorem distinctNames_iff (taken names : List String) :
    (distinctNames taken names).Nodup ∧ (∀ name ∈ distinctNames taken names, name ∉ taken) ↔
      ¬ Clash (taken.eraseDups ++ names) := by
  rw [← nodup_distinctAfter_iff, distinctAfter_taken, List.nodup_append]
  constructor
  · rintro ⟨hnodup, havoids⟩
    refine ⟨nodup_eraseDups taken, hnodup, ?_⟩
    rintro name htaken _ hmem rfl
    exact havoids name hmem (List.mem_eraseDups.mp htaken)
  · rintro ⟨-, hnodup, hdisjoint⟩
    exact ⟨hnodup, fun name hmem htaken =>
      hdisjoint name (List.mem_eraseDups.mpr htaken) name hmem rfl⟩

/-- The third name is what the second one becomes. -/
example : distinctNames [] ["mint", "mint", "mint0"] = ["mint", "mint0", "mint0"] ∧
    Clash ["mint", "mint", "mint0"] :=
  ⟨by decide +kernel, "mint", 0, by decide, by decide⟩

/-- Whether a name ends in a digit. -/
def endsInDigit (name : String) : Bool := name.toList.getLast?.any Char.isDigit

theorem endsInDigit_append_number (name : String) (n : Nat) :
    endsInDigit (name ++ toString n) = true := by
  have hnil : Nat.toDigits 10 n ≠ [] := Nat.toDigits_ne_nil
  rw [endsInDigit, String.toList_append, toList_number, List.getLast?_append,
    List.getLast?_eq_some_getLast hnil]
  exact Nat.isDigit_of_mem_toDigits (by omega) (by omega) (List.getLast_mem hnil)

/-- A taken name that does not end in a digit is avoided. -/
theorem notMem_distinctNames {taken : List String} {name : String} (htaken : name ∈ taken)
    (hdigit : endsInDigit name = false) (names : List String) :
    name ∉ distinctNames taken names := by
  rw [distinctNames, distinctAfter_eq_map]
  intro h
  obtain ⟨⟨other, n⟩, hmem, heq⟩ := List.mem_map.mp h
  cases n with
  | zero =>
    -- A name that was not seen before is not taken.
    have hseen := (mem_occurrences.mp hmem).1
    rw [Nat.le_zero, List.count_eq_zero, List.mem_eraseDups] at hseen
    exact hseen ((show other = name from heq) ▸ htaken)
  | succ n =>
    rw [← heq, numbered, endsInDigit_append_number] at hdigit
    cases hdigit

end AbiBindings.Generate
