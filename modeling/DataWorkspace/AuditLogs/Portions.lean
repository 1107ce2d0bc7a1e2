import DataWorkspace.AuditLogs.Parse

/-!
# Files and portions

The log of a database is the same text whether it is read from a file or downloaded in
portions.  The CSV reader is not given the same lines.  From a file it gets them with their
line breaks, and from a portion without.  So a statement over several lines loses its line
breaks where it is downloaded, and keeps them where it is read.

Here a log is a list of records as PostgreSQL writes them, and the portions are cut between
records.  `same_statements_iff` says for which records the two ways give the same statements:
no record that either keeps may have a line break.  A portion that is cut inside a record is
another matter: the reader starts anew in the middle of the record (`statements_differ`).
-/

namespace AuditLogs

open Py

/-! ## Records -/

/-- A line break in a value. -/
def HasBreak (s : Str) : Prop := '\n' ∈ s ∨ '\r' ∈ s

instance (s : Str) : Decidable (HasBreak s) := inferInstanceAs (Decidable (_ ∨ _))

/-- A record of the log as PostgreSQL writes it.  The first field is a time, the fifth a
host and a port, and no line break is in a field without a header. -/
structure LogRecord where
  fields : List CsvField
  nonempty : fields ≠ []
  written : ∀ f, fields = [f] → f.text ≠ []
  breaks : ∀ k f, fields[k]? = some f → HasBreak f.value → k ≠ 0 ∧ k ≠ 4 ∧ k < 22

/-- A record with a statement over several lines, for instance. -/
def LogRecord.HasBreak (r : LogRecord) : Prop := ∃ f ∈ r.fields, AuditLogs.HasBreak f.value

def logText (records : List LogRecord) : Str :=
  (records.map LogRecord.fields).flatMap recordText

/-- The row that is read from a file. -/
def LogRecord.inFile (r : LogRecord) : DictRow :=
  dictRow POSTGRES_LOG_HEADERS (r.fields.map fun f => f.inFile.value)

/-- The row that is read from a portion. -/
def LogRecord.inPortion (r : LogRecord) : DictRow :=
  dictRow POSTGRES_LOG_HEADERS (r.fields.map fun f => f.value.filter (· ≠ '\n'))

/-- Every value is short enough for the reader. -/
def LogRecord.Fits (limit : Nat) (r : LogRecord) : Prop := ∀ f ∈ r.fields, f.value.length ≤ limit

/-! ## What is read -/

theorem length_universal_newlines_le (s : Str) : (universal_newlines s).length ≤ s.length := by
  fun_induction universal_newlines s with
  | case1 => exact le_refl _
  | case2 s ih => simp only [List.length_cons]; omega
  | case3 s _ ih => simpa using ih
  | case4 c s _ _ ih => simpa using ih

theorem length_inFile_le (f : CsvField) : f.inFile.value.length ≤ f.value.length := by
  cases f with
  | raw value plain => exact le_refl _
  | quoted value noNull => exact length_universal_newlines_le value

theorem inFile_text_ne_nil {f : CsvField} (h : f.text ≠ []) : f.inFile.text ≠ [] := by
  cases f with
  | raw value plain => exact h
  | quoted value noNull => exact List.cons_ne_nil _ _

theorem value_of_not_hasBreak {f : CsvField} (h : ¬ HasBreak f.value) :
    f.inFile.value = f.value ∧ f.value.filter (· ≠ '\n') = f.value := by
  have hn : '\n' ∉ f.value := fun hn => h (.inl hn)
  have hr : '\r' ∉ f.value := fun hr => h (.inr hr)
  refine ⟨?_, List.filter_eq_self.mpr fun c hc => decide_eq_true ?_⟩
  · cases f with
    | raw value plain => rfl
    | quoted value noNull => exact universal_newlines_of_not_mem hr
  · rintro rfl
    exact hn hc

theorem inFile_eq_inPortion {r : LogRecord} (h : ¬ r.HasBreak) : r.inFile = r.inPortion := by
  have hmap : r.fields.map (fun f => f.inFile.value) =
      r.fields.map fun f => f.value.filter (· ≠ '\n') := by
    refine List.map_congr_left fun f hf => ?_
    obtain ⟨h₁, h₂⟩ := value_of_not_hasBreak fun hb => h ⟨f, hf, hb⟩
    rw [h₁, h₂]
  rw [LogRecord.inFile, LogRecord.inPortion, hmap]

theorem newline_mem_inFile {f : CsvField} (h : HasBreak f.value) : '\n' ∈ f.inFile.value := by
  cases f with
  | raw value plain =>
      rcases h with h | h
      all_goals
        have := plain _ h
        simp at this
  | quoted value noNull => exact newline_mem_universal_newlines h

theorem filter_rows {r : LogRecord} (g : CsvField → Str) : r.fields.map g ≠ [] := by
  simpa using r.nonempty

section Rows

variable {limit : Nat} {records : List LogRecord} (hfits : ∀ r ∈ records, r.Fits limit)

include hfits

theorem dict_rows_file :
    dict_rows limit POSTGRES_LOG_HEADERS (text_lines (universal_newlines (logText records))) =
      some (records.map LogRecord.inFile) := by
  have hrows := @csv_rows_text_lines limit
    ((records.map LogRecord.fields).map fun fs => fs.map CsvField.inFile) ?_
  · have hfilter : (records.map fun r => r.fields.map fun f => f.inFile.value).filter (· ≠ []) =
        records.map fun r => r.fields.map fun f => f.inFile.value := by
      refine List.filter_eq_self.mpr fun row hrow => decide_eq_true ?_
      obtain ⟨r, -, rfl⟩ := List.mem_map.mp hrow
      exact filter_rows _
    rw [logText, universal_newlines_records, dict_rows, hrows, Option.map_some, List.map_map,
      List.map_map]
    have hcompose : records.map (((fun fs => fs.map CsvField.value) ∘ fun fs => fs.map
        CsvField.inFile) ∘ LogRecord.fields) =
          records.map fun r => r.fields.map fun f => f.inFile.value := by
      refine List.map_congr_left fun r _ => ?_
      simp
    rw [hcompose, hfilter, List.map_map]
    rfl
  · intro fs hfs
    obtain ⟨gs, hgs, rfl⟩ := List.mem_map.mp hfs
    obtain ⟨r, hr, rfl⟩ := List.mem_map.mp hgs
    refine ⟨by simpa using r.nonempty, fun f hf => ?_, fun f hf => ?_⟩
    · obtain ⟨g, hg, rfl⟩ := List.map_eq_singleton_iff.mp hf
      exact inFile_text_ne_nil (r.written g hg)
    · obtain ⟨g, hg, rfl⟩ := List.mem_map.mp hf
      exact (length_inFile_le g).trans (hfits r hr g hg)

theorem dict_rows_portion :
    dict_rows limit POSTGRES_LOG_HEADERS ((logText records).splitOn '\n') =
      some (records.map LogRecord.inPortion) := by
  have hrows := @csv_rows_splitOn limit (records.map LogRecord.fields) ?_
  · have hfilter : (records.map fun r => r.fields.map fun f => f.value.filter (· ≠ '\n')).filter
        (· ≠ []) = records.map fun r => r.fields.map fun f => f.value.filter (· ≠ '\n') := by
      refine List.filter_eq_self.mpr fun row hrow => decide_eq_true ?_
      obtain ⟨r, -, rfl⟩ := List.mem_map.mp hrow
      exact filter_rows _
    have hempty : ([[]] : List (List Str)).filter (· ≠ []) = [] := rfl
    have hcompose : records.map ((fun fs => fs.map fun f => f.value.filter (· ≠ '\n')) ∘
        LogRecord.fields) = records.map fun r => r.fields.map fun f => f.value.filter (· ≠ '\n') :=
      rfl
    rw [logText, dict_rows, hrows, Option.map_some, List.map_map, List.filter_append, hempty,
      hcompose, hfilter, List.append_nil, List.map_map]
    rfl
  · intro fs hfs
    obtain ⟨r, hr, rfl⟩ := List.mem_map.mp hfs
    exact ⟨r.nonempty, r.written, hfits r hr⟩

end Rows

/-! ## The loop -/

section Loop

variable {strptime : Str → Option Int} {ignored : Str → Bool} {limit : Nat}
  {from_date to_date : Int}

/-- The statement of a row, if it is kept. -/
def keptLine (strptime : Str → Option Int) (ignored : Str → Bool) (limit : Nat)
    (from_date to_date : Int) (row : DictRow) : Option LogLine :=
  (parse_line strptime ignored limit from_date to_date row).join

/-- The row makes the task fail. -/
def Raises (strptime : Str → Option Int) (ignored : Str → Bool) (limit : Nat)
    (from_date to_date : Int) (row : DictRow) : Prop :=
  parse_line strptime ignored limit from_date to_date row = none

theorem parse_postgres_log_eq (lines : List DictRow) :
    ((∃ line ∈ lines, Raises strptime ignored limit from_date to_date line) →
      parse_postgres_log strptime ignored limit from_date to_date lines = none) ∧
    ((∀ line ∈ lines, ¬ Raises strptime ignored limit from_date to_date line) →
      parse_postgres_log strptime ignored limit from_date to_date lines =
        some (lines.filterMap (keptLine strptime ignored limit from_date to_date))) := by
  induction lines with
  | nil => exact ⟨fun ⟨_, h, _⟩ => absurd h List.not_mem_nil, fun _ => rfl⟩
  | cons line lines ih =>
      rw [parse_postgres_log]
      cases hline : parse_line strptime ignored limit from_date to_date line with
      | none => exact ⟨fun _ => rfl, fun h => absurd hline (h line List.mem_cons_self)⟩
      | some kept =>
          have hkept : keptLine strptime ignored limit from_date to_date line = kept := by
            rw [keptLine, hline, Option.join_some]
          simp only [Option.bind_eq_bind, Option.bind_some]
          constructor
          · rintro ⟨l, hl, hraises⟩
            rcases List.mem_cons.mp hl with rfl | hl
            · exact absurd (hline.symm.trans hraises) (by simp)
            · rw [ih.1 ⟨l, hl, hraises⟩]
              rfl
          · intro h
            rw [ih.2 fun l hl => h l (List.mem_cons_of_mem _ hl), Option.bind_some]
            cases hk : kept with
            | none => rw [List.filterMap_cons_none (hkept.trans hk)]; rfl
            | some l => rw [List.filterMap_cons_some (hkept.trans hk)]; rfl

theorem parse_postgres_log_append (lines lines' : List DictRow) :
    parse_postgres_log strptime ignored limit from_date to_date (lines ++ lines') =
      (parse_postgres_log strptime ignored limit from_date to_date lines).bind fun logs =>
        (parse_postgres_log strptime ignored limit from_date to_date lines').map fun rest =>
          logs ++ rest := by
  induction lines with
  | nil =>
      rw [List.nil_append, parse_postgres_log, Option.bind_some]
      exact Option.map_id'.symm
  | cons line lines ih =>
      rw [List.cons_append, parse_postgres_log, parse_postgres_log, ih]
      simp only [Option.bind_eq_bind, Option.bind_assoc, Option.bind_some]
      refine Option.bind_congr fun kept _ => Option.bind_congr fun logs _ => ?_
      cases parse_postgres_log strptime ignored limit from_date to_date lines' with
      | none => rfl
      | some rest => simp

theorem docker_file_logs_eq {records : List LogRecord} (hfits : ∀ r ∈ records, r.Fits limit) :
    docker_file_logs strptime ignored limit from_date to_date (logText records) =
      parse_postgres_log strptime ignored limit from_date to_date
        (records.map LogRecord.inFile) := by
  rw [docker_file_logs, dict_rows_file hfits]
  rfl

theorem rds_file_logs_eq {portions : List (List LogRecord)}
    (hfits : ∀ r ∈ portions.flatten, r.Fits limit) :
    rds_file_logs strptime ignored limit from_date to_date (portions.map logText) =
      parse_postgres_log strptime ignored limit from_date to_date
        (portions.flatten.map LogRecord.inPortion) := by
  induction portions with
  | nil => rfl
  | cons records portions ih =>
      rw [List.flatten_cons] at hfits ⊢
      have ih := ih fun r hr => hfits r (List.mem_append_right _ hr)
      rw [List.map_cons, rds_file_logs, dict_rows_portion fun r hr =>
        hfits r (List.mem_append_left _ hr), ih, List.map_append, parse_postgres_log_append]
      simp only [Option.bind_eq_bind, Option.bind_some]
      refine Option.bind_congr fun logs _ => ?_
      cases parse_postgres_log strptime ignored limit from_date to_date
          (portions.flatten.map LogRecord.inPortion) with
      | none => rfl
      | some rest => rfl

end Loop

/-! ## Values -/

theorem get?_foldl_set {items : List (Str × Option Str)} {k : Str} {v : Option Str} :
    ∀ {d : Dict Str (Option Str)},
      (items.foldl (fun d kv => d.set kv.1 kv.2) d).get? k = some v →
        (k, v) ∈ items ∨ d.get? k = some v := by
  induction items with
  | nil => exact fun h => .inr h
  | cons kv items ih =>
      intro d h
      rcases ih h with h | h
      · exact .inl (List.mem_cons_of_mem _ h)
      · rw [Dict.get?_set] at h
        split at h
        next hk =>
          cases h
          rw [hk]
          exact .inl List.mem_cons_self
        next => exact .inr h

theorem get?_foldl_set_of_not {items : List (Str × Option Str)} {k : Str} :
    ∀ {d : Dict Str (Option Str)}, (∀ kv ∈ items, kv.1 ≠ k) →
      (items.foldl (fun d kv => d.set kv.1 kv.2) d).get? k = d.get? k := by
  induction items with
  | nil => exact fun _ => rfl
  | cons kv items ih =>
      intro d h
      rw [List.foldl_cons, ih fun kv hkv => h kv (List.mem_cons_of_mem _ hkv), Dict.get?_set,
        if_neg (Ne.symm (h kv List.mem_cons_self))]

theorem of_get?_dictRow {fieldnames row : List Str} {k : Str} {v : Option Str}
    (h : (dictRow fieldnames row).items.get? k = some v) :
    ∃ i : Nat, fieldnames[i]? = some k ∧ v = row[i]? := by
  have hmem := Dict.mem_of_get?_ofPairs h
  rw [List.mem_iff_getElem?] at hmem
  obtain ⟨i, hi⟩ := hmem
  rw [List.getElem?_mapIdx] at hi
  obtain ⟨name, hname, hpair⟩ := Option.map_eq_some_iff.mp hi
  cases hpair
  exact ⟨i, hname, rfl⟩

theorem get?_dictRow {fieldnames row : List Str} (hnodup : fieldnames.Nodup) {i : Nat} {k : Str}
    (hi : fieldnames[i]? = some k) : (dictRow fieldnames row).items.get? k = some row[i]? := by
  have hpair : (k, row[i]?) ∈ fieldnames.mapIdx fun i name => (name, row[i]?) := by
    rw [List.mem_iff_getElem?]
    exact ⟨i, by rw [List.getElem?_mapIdx, hi]; rfl⟩
  obtain ⟨v, hv⟩ := Dict.get?_ofPairs_isSome hpair
  obtain ⟨j, hj, rfl⟩ := of_get?_dictRow hv
  obtain ⟨hlt, hi⟩ := List.getElem?_eq_some_iff.mp hi
  obtain ⟨hlt', hj⟩ := List.getElem?_eq_some_iff.mp hj
  have hij : i = j := (hnodup.getElem_inj_iff).mp (hi.trans hj.symm)
  exact hij ▸ hv

/-- Every character of the values satisfies `P`. -/
def DictRow.All (P : Char → Prop) (items : Dict Str (Option Str)) : Prop :=
  ∀ k v, items.get? k = some (some v) → ∀ c ∈ v, P c

theorem all_dictRow {P : Char → Prop} {fieldnames row : List Str} (h : ∀ v ∈ row, ∀ c ∈ v, P c) :
    DictRow.All P (dictRow fieldnames row).items := by
  intro k v hv
  obtain ⟨i, -, hi⟩ := of_get?_dictRow hv
  exact h v (List.mem_of_getElem? hi.symm)

section Lines

variable {strptime : Str → Option Int} {ignored : Str → Bool} {limit : Nat}
  {from_date to_date : Int}

theorem keptLine_eq_some_iff {line : DictRow} {l : LogLine} :
    keptLine strptime ignored limit from_date to_date line = some l ↔
      ∃ message connection_from inner time statement,
        line.value "message" = some message ∧ startswith message "AUDIT:" = true ∧
        line.value "connection_from" = some connection_from ∧
        audit_row limit message connection_from = some inner ∧
        (line.update inner).value "log_time" = some time ∧ strptime time = some l.log_time ∧
        from_date < l.log_time ∧ l.log_time ≤ to_date ∧
        (line.update inner).value "statement" = some statement ∧
        ignored (stripSpace (statement.map fun c => if c = '\n' then ' ' else c)) = false ∧
        l.values = (line.update inner).items.filterKeys (· ≠ "log_time".toList) ∧
        l.rest = (line.update inner).rest := by
  rw [keptLine, Option.join_eq_some_iff, parse_line]
  constructor
  · intro h
    split at h
    next => cases h
    next message hmessage =>
      split at h
      next => cases h
      next haudit =>
        simp only [Option.bind_eq_bind, Option.bind_eq_some_iff] at h
        obtain ⟨connection_from, hconnection, inner, hinner, time, htime, h⟩ := h
        split at h
        next => cases h
        next log_time hlog =>
          split at h
          next => cases h
          next hwindow =>
            simp only [Option.bind_eq_some_iff] at h
            obtain ⟨statement, hstatement, h⟩ := h
            split at h
            next => cases h
            next hignored =>
              cases h
              exact ⟨message, connection_from, inner, time, statement, hmessage,
                by simpa using haudit, hconnection, hinner, htime, hlog, by dsimp only; omega,
                by dsimp only; omega, hstatement, by simpa using hignored, rfl, rfl⟩
  · rintro ⟨message, connection_from, inner, time, statement, hmessage, haudit, hconnection,
      hinner, htime, hlog, hfrom, hto, hstatement, hignored, hvalues, hrest⟩
    obtain ⟨log_time, values, rest⟩ := l
    have hvalues : values = _ := hvalues
    have hrest : rest = _ := hrest
    have hlog : strptime time = some log_time := hlog
    have hwindow : ¬ (log_time ≤ from_date ∨ log_time > to_date) := by
      dsimp only at hfrom hto
      omega
    rw [hmessage, hvalues, hrest]
    simp only [haudit, hconnection, hinner, htime, hlog, hstatement, hignored, Option.bind_eq_bind,
      Option.bind_some, if_neg hwindow, Bool.true_eq_false, Bool.false_eq_true, if_false]

theorem kept_of_parse_line {line : DictRow} {l : LogLine}
    (h : keptLine strptime ignored limit from_date to_date line = some l) :
    ∃ message connection_from inner, line.value "message" = some message ∧
      line.value "connection_from" = some connection_from ∧
      audit_row limit message connection_from = some inner ∧
      l.values = (line.update inner).items.filterKeys (· ≠ "log_time".toList) := by
  obtain ⟨message, connection_from, inner, _, _, hmessage, -, hconnection, hinner, -, -, -, -, -, -,
    hvalues, -⟩ := keptLine_eq_some_iff.mp h
  exact ⟨message, connection_from, inner, hmessage, hconnection, hinner, hvalues⟩

theorem keptLine_window {line : DictRow} {l : LogLine} {from_date' to_date' : Int}
    (h : keptLine strptime ignored limit from_date to_date line = some l)
    (hfrom : from_date' < l.log_time) (hto : l.log_time ≤ to_date') :
    keptLine strptime ignored limit from_date' to_date' line = some l := by
  obtain ⟨message, connection_from, inner, time, statement, h₁, h₂, h₃, h₄, h₅, h₆, -, -, hrest⟩ :=
    keptLine_eq_some_iff.mp h
  exact keptLine_eq_some_iff.mpr ⟨message, connection_from, inner, time, statement, h₁, h₂, h₃, h₄,
    h₅, h₆, hfrom, hto, hrest⟩

theorem audit_row_spec {message connection_from : Str} {inner : DictRow}
    (h : audit_row limit message connection_from = some inner) :
    (∀ kv ∈ inner.items.items, kv.1 ∈ PGAUDIT_LOG_HEADERS) ∧
      ∀ P : Char → Prop, P ',' → (∀ c ∈ message, P c) → (∀ c ∈ connection_from, P c) →
        DictRow.All P inner.items := by
  rw [audit_row, dict_rows] at h
  simp only [Option.bind_eq_bind, Option.bind_eq_some_iff, Option.map_eq_some_iff] at h
  obtain ⟨rows, ⟨csv, hcsv, rfl⟩, hinner⟩ := h
  obtain ⟨row, hrow, rfl⟩ := List.mem_map.mp (List.mem_of_head? hinner)
  refine ⟨fun kv hkv => ?_, fun P hcomma hmessage hconnection => ?_⟩
  · obtain ⟨k, v⟩ := kv
    obtain ⟨i, hi, -⟩ := of_get?_dictRow ((Dict.mem_items_iff _ k v).mp hkv)
    exact List.mem_of_getElem? hi
  · refine all_dictRow (csv_rows_all (P := P) (fun line hline c hc => ?_) hcsv row
      (List.mem_of_mem_filter hrow))
    rw [List.mem_singleton.mp hline] at hc
    simp only [List.intercalate_cons_cons, List.intercalate_singleton, List.mem_append] at hc
    rcases hc with (hc | hc) | hc
    · exact hmessage c (List.mem_of_mem_drop hc)
    · rw [List.mem_singleton.mp hc]
      exact hcomma
    · exact hconnection c hc

theorem value_all {P : Char → Prop} {line : DictRow} (h : DictRow.All P line.items) {k v : Str}
    (hv : line.value k = some v) : ∀ c ∈ v, P c :=
  h k v (Option.join_eq_some_iff.mp hv)

theorem all_of_kept {P : Char → Prop} (hcomma : P ',') {line : DictRow} {l : LogLine}
    (hline : DictRow.All P line.items)
    (h : keptLine strptime ignored limit from_date to_date line = some l) :
    DictRow.All P l.values := by
  obtain ⟨message, connection_from, inner, hmessage, hconnection, hinner, hvalues⟩ :=
    kept_of_parse_line h
  have hall := (audit_row_spec hinner).2 P hcomma (value_all hline hmessage)
    (value_all hline hconnection)
  intro k v hv
  rw [hvalues, Dict.get?_filterKeys] at hv
  split at hv
  next =>
    rcases get?_foldl_set hv with hv | hv
    · exact hall k v ((Dict.mem_items_iff _ k _).mp hv)
    · exact hline k v hv
  next => cases hv

theorem get?_of_kept {line : DictRow} {l : LogLine}
    (h : keptLine strptime ignored limit from_date to_date line = some l) {k : Str}
    (hk : k ∉ PGAUDIT_LOG_HEADERS) (htime : k ≠ "log_time".toList) :
    l.values.get? k = line.items.get? k := by
  obtain ⟨message, connection_from, inner, -, -, hinner, hvalues⟩ := kept_of_parse_line h
  rw [hvalues, Dict.get?_filterKeys, if_pos (decide_eq_true htime)]
  refine get?_foldl_set_of_not fun kv hkv he => hk ?_
  exact he ▸ (audit_row_spec hinner).1 kv hkv

theorem no_newline_of_kept {r : LogRecord} {l : LogLine}
    (h : keptLine strptime ignored limit from_date to_date r.inPortion = some l) :
    DictRow.All (· ≠ '\n') l.values := by
  refine all_of_kept (by decide) (all_dictRow fun v hv c hc => ?_) h
  obtain ⟨f, -, rfl⟩ := List.mem_map.mp hv
  exact of_decide_eq_true (List.mem_filter.mp hc).2

theorem newline_of_kept {r : LogRecord} (hbreak : r.HasBreak) {l : LogLine}
    (h : keptLine strptime ignored limit from_date to_date r.inFile = some l) :
    ¬ DictRow.All (· ≠ '\n') l.values := by
  obtain ⟨f, hf, hfbreak⟩ := hbreak
  obtain ⟨k, hk⟩ := List.mem_iff_getElem?.mp hf
  obtain ⟨htime, hconnection, hlt⟩ := r.breaks k f hk hfbreak
  have hheader : k < POSTGRES_LOG_HEADERS.length := hlt
  have hname : ∀ k, ∀ hk : k < POSTGRES_LOG_HEADERS.length, k ≠ 0 → k ≠ 4 →
      POSTGRES_LOG_HEADERS[k] ∉ PGAUDIT_LOG_HEADERS ∧
        POSTGRES_LOG_HEADERS[k] ≠ "log_time".toList := by
    decide
  obtain ⟨haudit, hlog⟩ := hname k hheader htime hconnection
  have hget : r.inFile.items.get? POSTGRES_LOG_HEADERS[k] = some (some f.inFile.value) := by
    rw [LogRecord.inFile, get?_dictRow (by decide) (List.getElem?_eq_getElem hheader),
      List.getElem?_map, hk]
    rfl
  intro hall
  have hvalue := get?_of_kept h haudit hlog
  rw [hget] at hvalue
  exact hall _ _ hvalue '\n' (newline_mem_inFile hfbreak) rfl

end Lines

/-! ## Files and portions -/

/-- Where everything one function keeps is kept by another, and the same number of both,
the other keeps nothing more. -/
theorem isSome_of_length_filterMap {α β : Type} {f g : α → Option β} : ∀ {l : List α},
    (∀ a ∈ l, (f a).isSome → (g a).isSome) → (l.filterMap f).length ≤ (l.filterMap g).length ∧
      ((l.filterMap f).length = (l.filterMap g).length → ∀ a ∈ l, (g a).isSome → (f a).isSome)
  | [], _ => ⟨le_refl _, fun _ a ha => absurd ha List.not_mem_nil⟩
  | a :: l, h => by
      obtain ⟨hle, heq⟩ := isSome_of_length_filterMap fun b hb => h b (List.mem_cons_of_mem _ hb)
      have ha := h a List.mem_cons_self
      cases hf : f a with
      | some b =>
          obtain ⟨c, hg⟩ := Option.isSome_iff_exists.mp (ha (by rw [hf]; rfl))
          rw [List.filterMap_cons_some hf, List.filterMap_cons_some hg, List.length_cons,
            List.length_cons]
          refine ⟨by omega, fun hlength d hd hgd => ?_⟩
          rcases List.mem_cons.mp hd with rfl | hd
          · rw [hf]; rfl
          · exact heq (by omega) d hd hgd
      | none =>
          rw [List.filterMap_cons_none hf]
          cases hg : g a with
          | none =>
              rw [List.filterMap_cons_none hg]
              refine ⟨hle, fun hlength d hd hgd => ?_⟩
              rcases List.mem_cons.mp hd with rfl | hd
              · rw [hg] at hgd; cases hgd
              · exact heq hlength d hd hgd
          | some c =>
              rw [List.filterMap_cons_some hg, List.length_cons]
              exact ⟨by omega, fun hlength => by omega⟩

/-- Two ways to keep things that agree where `B` does not hold, where what one keeps of a
`B` can be told from all that the other keeps: they keep the same exactly when neither keeps
a `B`. -/
theorem filterMap_eq_iff {α β : Type} {f g : α → Option β} {B : α → Prop} {M : β → Prop}
    (hsame : ∀ a, ¬ B a → f a = g a) (hf : ∀ a b, B a → f a = some b → ¬ M b)
    (hg : ∀ a b, g a = some b → M b) {l : List α} :
    l.filterMap f = l.filterMap g ↔ ∀ a ∈ l, (f a).isSome ∨ (g a).isSome → ¬ B a := by
  constructor
  · intro h
    have hfirst : ∀ a ∈ l, (f a).isSome → ¬ B a := by
      intro a ha hkept hB
      obtain ⟨b, hb⟩ := Option.isSome_iff_exists.mp hkept
      have hmem : b ∈ l.filterMap f := List.mem_filterMap.mpr ⟨a, ha, hb⟩
      rw [h] at hmem
      obtain ⟨a', -, hb'⟩ := List.mem_filterMap.mp hmem
      exact hf a b hB hb (hg a' b hb')
    have himp : ∀ a ∈ l, (f a).isSome → (g a).isSome := fun a ha hkept =>
      hsame a (hfirst a ha hkept) ▸ hkept
    have hboth := (isSome_of_length_filterMap himp).2 (congrArg List.length h)
    intro a ha hkept
    rcases hkept with hkept | hkept
    · exact hfirst a ha hkept
    · exact hfirst a ha (hboth a ha hkept)
  · intro h
    refine List.filterMap_congr fun a ha => ?_
    by_cases hB : B a
    · have hnot : ¬ ((f a).isSome ∨ (g a).isSome) := fun hkept => h a ha hkept hB
      rw [not_or] at hnot
      rw [Option.not_isSome_iff_eq_none.mp hnot.1, Option.not_isSome_iff_eq_none.mp hnot.2]
    · exact hsame a hB

section Same

variable (strptime : Str → Option Int) (ignored : Str → Bool) (limit : Nat)
  (from_date to_date : Int)

/-- The statement of the record is kept, read in one way or in the other. -/
def LogRecord.Kept (r : LogRecord) : Prop :=
  (keptLine strptime ignored limit from_date to_date r.inFile).isSome ∨
    (keptLine strptime ignored limit from_date to_date r.inPortion).isSome

/-- Line breaks do not matter: each way fails at a record, or neither does and no record
with a line break is kept. -/
def BreaksHarmless (records : List LogRecord) : Prop :=
  ((∃ r ∈ records, Raises strptime ignored limit from_date to_date r.inFile) ∧
      ∃ r ∈ records, Raises strptime ignored limit from_date to_date r.inPortion) ∨
    ∀ r ∈ records, ¬ Raises strptime ignored limit from_date to_date r.inFile ∧
      ¬ Raises strptime ignored limit from_date to_date r.inPortion ∧
      (r.Kept strptime ignored limit from_date to_date → ¬ r.HasBreak)

variable {strptime ignored limit from_date to_date}

/-- Both ways keep the same statements of the records that do not make them fail, exactly
when neither keeps one with a line break. -/
theorem same_kept_iff {records : List LogRecord} :
    (records.map LogRecord.inFile).filterMap
        (keptLine strptime ignored limit from_date to_date) =
      (records.map LogRecord.inPortion).filterMap
        (keptLine strptime ignored limit from_date to_date) ↔
      ∀ r ∈ records, r.Kept strptime ignored limit from_date to_date → ¬ r.HasBreak := by
  rw [List.filterMap_map, List.filterMap_map]
  have hsame : ∀ r : LogRecord, ¬ r.HasBreak →
      (keptLine strptime ignored limit from_date to_date ∘ LogRecord.inFile) r =
        (keptLine strptime ignored limit from_date to_date ∘ LogRecord.inPortion) r := by
    intro r hbreak
    rw [Function.comp_apply, Function.comp_apply, inFile_eq_inPortion hbreak]
  have hfile : ∀ (r : LogRecord) (l : LogLine), r.HasBreak →
      (keptLine strptime ignored limit from_date to_date ∘ LogRecord.inFile) r = some l →
        ¬ DictRow.All (· ≠ '\n') l.values := by
    intro r l hbreak hl
    rw [Function.comp_apply] at hl
    exact newline_of_kept hbreak hl
  have hportion : ∀ (r : LogRecord) (l : LogLine),
      (keptLine strptime ignored limit from_date to_date ∘ LogRecord.inPortion) r = some l →
        DictRow.All (· ≠ '\n') l.values := by
    intro r l hl
    rw [Function.comp_apply] at hl
    exact no_newline_of_kept hl
  rw [filterMap_eq_iff hsame hfile hportion]
  simp only [Function.comp_apply, LogRecord.Kept]

/-- A log that is downloaded in portions, cut between records, gives the statements that the
same log gives as a file, exactly when line breaks do not matter. -/
theorem same_statements_iff {portions : List (List LogRecord)}
    (hfits : ∀ r ∈ portions.flatten, r.Fits limit) :
    rds_file_logs strptime ignored limit from_date to_date (portions.map logText) =
        docker_file_logs strptime ignored limit from_date to_date (logText portions.flatten) ↔
      BreaksHarmless strptime ignored limit from_date to_date portions.flatten := by
  rw [docker_file_logs_eq hfits, rds_file_logs_eq hfits, BreaksHarmless]
  obtain ⟨hfileNone, hfileSome⟩ := @parse_postgres_log_eq strptime ignored limit from_date to_date
    (portions.flatten.map LogRecord.inFile)
  obtain ⟨hportionNone, hportionSome⟩ := @parse_postgres_log_eq strptime ignored limit from_date to_date
    (portions.flatten.map LogRecord.inPortion)
  simp only [List.mem_map, exists_exists_and_eq_and, forall_exists_index, and_imp,
    forall_apply_eq_imp_iff₂] at hfileNone hfileSome hportionNone hportionSome
  by_cases hfile : ∃ r ∈ portions.flatten, Raises strptime ignored limit from_date to_date r.inFile
  · by_cases hportion : ∃ r ∈ portions.flatten,
        Raises strptime ignored limit from_date to_date r.inPortion
    · obtain ⟨r, hr, hraises⟩ := hfile
      obtain ⟨r', hr', hraises'⟩ := hportion
      rw [hfileNone r hr hraises, hportionNone r' hr' hraises']
      exact iff_of_true rfl (.inl ⟨⟨r, hr, hraises⟩, ⟨r', hr', hraises'⟩⟩)
    · obtain ⟨r, hr, hraises⟩ := hfile
      rw [hfileNone r hr hraises,
        hportionSome fun r hr hraises => hportion ⟨r, hr, hraises⟩]
      refine iff_of_false (fun h => nomatch h) ?_
      rintro (⟨-, h⟩ | h)
      · exact hportion h
      · exact (h r hr).1 hraises
  · by_cases hportion : ∃ r ∈ portions.flatten,
        Raises strptime ignored limit from_date to_date r.inPortion
    · obtain ⟨r, hr, hraises⟩ := hportion
      rw [hportionNone r hr hraises, hfileSome fun r hr hraises => hfile ⟨r, hr, hraises⟩]
      refine iff_of_false (fun h => nomatch h) ?_
      rintro (⟨h, -⟩ | h)
      · exact hfile h
      · exact (h r hr).2.1 hraises
    · have hfile : ∀ r ∈ portions.flatten,
          ¬ Raises strptime ignored limit from_date to_date r.inFile :=
        fun r hr hraises => hfile ⟨r, hr, hraises⟩
      have hportion : ∀ r ∈ portions.flatten,
          ¬ Raises strptime ignored limit from_date to_date r.inPortion :=
        fun r hr hraises => hportion ⟨r, hr, hraises⟩
      rw [hfileSome hfile, hportionSome hportion, Option.some_inj, eq_comm, same_kept_iff]
      constructor
      · exact fun h => .inr fun r hr => ⟨hfile r hr, hportion r hr, h r hr⟩
      · rintro (⟨⟨r, hr, hraises⟩, -⟩ | h)
        · exact absurd hraises (hfile r hr)
        · exact fun r hr => (h r hr).2.2

end Same

/-! ## Records of one statement -/

theorem plain_of_all {value : Str}
    (h : (value.all fun c => decide (c ∉ [',', '"', '\n', '\r', '\x00'])) = true) :
    ∀ c ∈ value, c ∉ [',', '"', '\n', '\r', '\x00'] :=
  fun c hc => of_decide_eq_true (List.all_eq_true.mp h c hc)

def auditFields (statement : Str) (h : '\x00' ∉ statement) : List CsvField :=
  [.raw "2020-12-08 18:00:00.400 UTC" (plain_of_all rfl), .quoted "auser" (by decide),
    .quoted "test_datasets" (by decide), .raw "114" (plain_of_all rfl),
    .quoted "172.19.0.4:53462" (by decide), .raw "5fcfc36b.72" (plain_of_all rfl),
    .raw "19047" (plain_of_all rfl), .quoted "SELECT" (by decide),
    .raw "2020-12-08 18:18:19 UTC" (plain_of_all rfl), .raw "9/19040" (plain_of_all rfl),
    .raw "0" (plain_of_all rfl), .raw "LOG" (plain_of_all rfl), .raw "00000" (plain_of_all rfl),
    .quoted ("AUDIT: SESSION,19047,1,READ,SELECT,,,\"".toList ++ statement ++
      "\",<not logged>".toList) (by
        simp only [List.mem_append, not_or]
        exact ⟨⟨by decide, h⟩, by decide⟩)]

theorem breaks_of_zipIdx {fields : List CsvField}
    (h : ∀ p ∈ fields.zipIdx, HasBreak p.1.value → p.2 ≠ 0 ∧ p.2 ≠ 4 ∧ p.2 < 22) :
    ∀ k f, fields[k]? = some f → HasBreak f.value → k ≠ 0 ∧ k ≠ 4 ∧ k < 22 :=
  fun k f hk => h (f, k) (List.mem_zipIdx_iff_getElem?.mpr hk)

def oneLine : LogRecord where
  fields := auditFields "SELECT * FROM dataset_test" (by decide)
  nonempty := List.cons_ne_nil _ _
  written _ h := nomatch h
  breaks := breaks_of_zipIdx (by decide)

def twoLines : LogRecord where
  fields := auditFields "SELECT 1\nFROM dataset_test" (by decide)
  nonempty := List.cons_ne_nil _ _
  written _ h := nomatch h
  breaks := breaks_of_zipIdx (by decide)

/-- The time of the records, and no other. -/
def exampleTime (s : Str) : Option Int :=
  if s = "2020-12-08 18:00:00.400 UTC" then some 1607450400400000 else none

/-- The statements that are kept. -/
def statements (logs : Option (List LogLine)) : Option (List (Option (Option Str))) :=
  logs.map fun logs => logs.map fun l => l.values.get? "statement"

/-- A record on one line, in one portion. -/
theorem same_statements_oneLine :
    rds_file_logs exampleTime (fun _ => false) 2000000 1607450300000000 1607450500000000
        [logText [oneLine]] =
      docker_file_logs exampleTime (fun _ => false) 2000000 1607450300000000 1607450500000000
        (logText [oneLine]) ↔
      BreaksHarmless exampleTime (fun _ => false) 2000000 1607450300000000 1607450500000000
        [oneLine] :=
  @same_statements_iff _ _ _ _ _ [[oneLine]] fun r hr f hf => by
    rw [List.mem_singleton.mp hr] at hf
    have hall : ∀ f ∈ oneLine.fields, f.value.length ≤ 2000000 := by decide +kernel
    exact hall f hf

/-- A statement on two lines is another statement where it is downloaded, and a record that
is cut is lost. -/
theorem statements_differ :
    statements (docker_file_logs exampleTime (fun _ => false) 2000000 1607450300000000
      1607450500000000 (logText [twoLines])) =
        some [some (some "SELECT 1\nFROM dataset_test".toList)] ∧
    statements (rds_file_logs exampleTime (fun _ => false) 2000000 1607450300000000
      1607450500000000 [logText [twoLines]]) = some [some (some "SELECT 1FROM dataset_test".toList)] ∧
    statements (docker_file_logs exampleTime (fun _ => false) 2000000 1607450300000000
      1607450500000000 (logText [oneLine])) = some [some (some "SELECT * FROM dataset_test".toList)] ∧
    statements (rds_file_logs exampleTime (fun _ => false) 2000000 1607450300000000
      1607450500000000 [(logText [oneLine]).take 5, (logText [oneLine]).drop 5]) = some [] := by
  refine ⟨?_, ?_, ?_, ?_⟩
  all_goals decide +kernel

end AuditLogs
