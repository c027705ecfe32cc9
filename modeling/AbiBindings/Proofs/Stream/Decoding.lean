import AbiBindings.Proofs.Stream.Feed

/-!
# Records of logs

What is to come of a list of logs when each is decoded and the first error ends it.

Results:
* `Delivers.length_le`, `Delivers.mono`, `Delivers.snoc`: records that are those of the first logs.
* `Delivers.recordsOf_of_error`, `Delivers.recordsOf_of_length`: such records are all that is to
  come, if the next log does not decode or there is none.
-/

namespace AbiBindings.Stream

variable (decode : Log → Except Error ρ)

/-- The longest prefix of which every log can be decoded. -/
def decodable (logs : List Log) : List Log := logs.takeWhile fun log => (decode log).isOk

/-- The records of the longest prefix of which every log can be decoded. -/
def recordsOf (logs : List Log) : List ρ :=
  (decodable decode logs).filterMap fun log => (decode log).toOption

/-- Why the first log after that prefix cannot be decoded, if there is one. -/
def firstError? (logs : List Log) : Option Error :=
  match logs.drop (decodable decode logs).length with
  | [] => none
  | log :: _ =>
    match decode log with
    | .error e => some e
    | .ok _ => none

/-- The records are those of the first logs, one for each and in their order. -/
def Delivers (logs : List Log) (records : List ρ) : Prop :=
  (logs.take records.length).map decode = records.map .ok

/-- What a caller has seen of a stream of records. -/
structure Seen (ρ : Type) where
  records : List ρ
  /-- Once it was told the end: the error that came with it, if any. -/
  ending? : Option (Option Error)

/-- What a caller has seen is part of what is to come of the logs, and at the end it is all. -/
structure Seen.KeepsTo (logs : List Log) (s : Seen ρ) : Prop where
  inOrder : s.records <+: recordsOf decode logs
  atEnd : ∀ e, s.ending? = some e → s.records = recordsOf decode logs ∧ e = firstError? decode logs

variable {decode} {logs : List Log} {records : List ρ}

/-- More elements after the others do not change the first. -/
theorem getElem?_of_prefix {l l' : List α} (h : l <+: l') {n : Nat} {a : α} (hn : l[n]? = some a) :
    l'[n]? = some a := by
  obtain ⟨hlt, rfl⟩ := List.getElem?_eq_some_iff.mp hn
  exact List.prefix_iff_getElem?.mp h n hlt

/-- The first of the elements that are left comes next. -/
theorem getElem?_of_drop {l rest : List α} {n : Nat} {a : α} (h : l.drop n = a :: rest) :
    l[n]? = some a ∧ l.drop (n + 1) = rest := by
  constructor
  · rw [← List.head?_drop, h, List.head?_cons]
  · rw [← List.tail_drop, h, List.tail_cons]

theorem prefix_snoc {l l' : List α} (h : l <+: l') {a : α} (ha : l'[l.length]? = some a) :
    l ++ [a] <+: l' := by
  obtain ⟨rest, rfl⟩ := h
  rw [List.getElem?_append_right (Nat.le_refl _), Nat.sub_self] at ha
  obtain ⟨hlt, rfl⟩ := List.getElem?_eq_some_iff.mp ha
  cases rest with
  | nil => simp at hlt
  | cons b rest => exact ⟨rest, by simp⟩

namespace Delivers

theorem nil (logs : List Log) : Delivers decode logs [] := rfl

theorem length_le (h : Delivers decode logs records) : records.length ≤ logs.length := by
  have hl := congrArg List.length h
  simp only [List.length_map, List.length_take] at hl
  omega

/-- More logs after the others do not change the records of the first. -/
theorem mono {logs' : List Log} (h : Delivers decode logs records) (hp : logs <+: logs') :
    Delivers decode logs' records := by
  obtain ⟨more, rfl⟩ := hp
  unfold Delivers
  rw [List.take_append_of_le_length h.length_le]
  exact h

theorem snoc {log : Log} {record : ρ} (h : Delivers decode logs records)
    (hl : logs[records.length]? = some log) (hd : decode log = .ok record) :
    Delivers decode logs (records ++ [record]) := by
  have hlt : records.length < logs.length := (List.getElem?_eq_some_iff.mp hl).1
  unfold Delivers at h ⊢
  rw [List.length_append, List.length_singleton, List.take_add_one, hl]
  simp [h, hd]

/-- The logs of the records can be decoded, and the rest of the logs comes after them. -/
theorem decodable_eq (h : Delivers decode logs records) :
    decodable decode logs =
      logs.take records.length ++ decodable decode (logs.drop records.length) := by
  have hok : ∀ log ∈ logs.take records.length, (decode log).isOk = true := by
    intro log hlog
    have hmem : decode log ∈ records.map Except.ok := by
      rw [← h]
      exact List.mem_map_of_mem hlog
    obtain ⟨record, -, hr⟩ := List.mem_map.mp hmem
    rw [← hr]
    rfl
  conv => lhs; rw [← List.take_append_drop records.length logs]
  exact List.takeWhile_append_of_pos hok

theorem recordsOf_eq (h : Delivers decode logs records) :
    recordsOf decode logs = records ++ recordsOf decode (logs.drop records.length) := by
  have hf : (logs.take records.length).filterMap (fun log => (decode log).toOption) = records := by
    have : (fun log => (decode log).toOption) = Except.toOption ∘ decode := rfl
    rw [this, ← List.filterMap_map, h, List.filterMap_map]
    exact List.filterMap_some
  unfold recordsOf
  rw [h.decodable_eq, List.filterMap_append, hf]

/-- The records are an initial part of all that is to come. -/
theorem prefix_recordsOf (h : Delivers decode logs records) : records <+: recordsOf decode logs :=
  ⟨_, h.recordsOf_eq.symm⟩

/-- Nothing more is to come if the next log cannot be decoded. -/
theorem recordsOf_of_error {log : Log} {e : Error} (h : Delivers decode logs records)
    (hl : logs[records.length]? = some log) (hd : decode log = .error e) :
    recordsOf decode logs = records ∧ firstError? decode logs = some e := by
  obtain ⟨rest, hrest⟩ : ∃ rest, logs.drop records.length = log :: rest := by
    obtain ⟨hlt, rfl⟩ := List.getElem?_eq_some_iff.mp hl
    exact ⟨_, List.drop_eq_getElem_cons hlt⟩
  have hnone : decodable decode (logs.drop records.length) = [] := by
    rw [hrest]
    exact List.takeWhile_cons_of_neg (by simp [hd, Except.isOk, Except.toBool])
  have hdec : decodable decode logs = logs.take records.length := by
    rw [h.decodable_eq, hnone, List.append_nil]
  have hlen : (decodable decode logs).length = records.length := by
    rw [hdec, List.length_take, Nat.min_eq_left h.length_le]
  constructor
  · rw [h.recordsOf_eq, recordsOf, hnone, List.filterMap_nil, List.append_nil]
  · rw [firstError?, hlen, hrest]
    simp [hd]

/-- Nothing more is to come if every log has its record. -/
theorem recordsOf_of_length (h : Delivers decode logs records)
    (hl : records.length = logs.length) :
    recordsOf decode logs = records ∧ firstError? decode logs = none := by
  have hnil : logs.drop records.length = [] := by rw [hl, List.drop_length]
  have hdec : decodable decode logs = logs := by
    rw [h.decodable_eq, hnil, hl, List.take_length]
    exact List.append_nil _
  constructor
  · rw [h.recordsOf_eq, hnil]
    exact List.append_nil _
  · rw [firstError?, hdec, List.drop_length]

end Delivers

/-! ## All that is to come -/

theorem decodable_cons_ok {log : Log} {record : ρ} (hd : decode log = .ok record)
    (logs : List Log) : decodable decode (log :: logs) = log :: decodable decode logs :=
  List.takeWhile_cons_of_pos (by simp [hd, Except.isOk, Except.toBool])

theorem decodable_cons_error {log : Log} {e : Error} (hd : decode log = .error e)
    (logs : List Log) : decodable decode (log :: logs) = [] :=
  List.takeWhile_cons_of_neg (by simp [hd, Except.isOk, Except.toBool])

/-- Each log of the prefix has its record. -/
theorem map_recordsOf (decode : Log → Except Error ρ) (logs : List Log) :
    (recordsOf decode logs).map .ok = (decodable decode logs).map decode := by
  induction logs with
  | nil => rfl
  | cons log logs ih =>
    cases hd : decode log with
    | ok record =>
      rw [recordsOf] at ih ⊢
      rw [decodable_cons_ok hd, List.map_cons, ← ih, hd]
      simp [hd, Except.toOption]
    | error e =>
      rw [recordsOf, decodable_cons_error hd]
      rfl

/-- There is an error unless the prefix is all of the logs. -/
theorem firstError?_eq_none_iff (decode : Log → Except Error ρ) (logs : List Log) :
    firstError? decode logs = none ↔ decodable decode logs = logs := by
  induction logs with
  | nil => simp [firstError?, decodable]
  | cons log logs ih =>
    cases hd : decode log with
    | ok record =>
      have hfirst : firstError? decode (log :: logs) = firstError? decode logs := by
        rw [firstError?, decodable_cons_ok hd, List.length_cons, List.drop_succ_cons, firstError?]
      rw [hfirst, ih, decodable_cons_ok hd]
      simp
    | error e =>
      rw [firstError?, decodable_cons_error hd]
      simp [hd]

/-! ## Errors -/

/-- Why a stream fails after some records: its feed has failed, or the log after those of the
records cannot be decoded. -/
def Supply.Explains (decode : Log → Except Error ρ) (s : Supply) (records : List ρ) (e : Error) :
    Prop :=
  s.failures.head? = some e ∨ ∃ log, s.accepted[records.length]? = some log ∧ decode log = .error e

/-- What the feed does later does not change why a stream has failed. -/
theorem Supply.Explains.note {s : Supply} {e : Error} (h : s.Explains decode records e)
    (o : FeedOutcome) : (s.note o).Explains decode records e := by
  rcases h with hs | ⟨log, hl, hd⟩
  · obtain ⟨more, hmore⟩ := s.note_failures_prefix o
    left
    rw [← hmore, List.head?_append, hs, Option.some_or]
  · exact .inr ⟨log, getElem?_of_prefix (s.note_accepted_prefix o) hl, hd⟩

end AbiBindings.Stream
