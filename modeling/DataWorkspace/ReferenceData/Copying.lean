import DataWorkspace.ReferenceData.Building

/-!
# Copying records to an external database

What the methods of a dataset leave in the two databases where they return.  A `View`
says what there is to see of a dataset: the external database its object and its row
refer to, and the tables of both databases.
-/

namespace ReferenceData

open Py Sql

/-! ## Where a computation returns -/

/-- Whether `m` ends as `Q` says where it returns. -/
abbrev Returns {α : Type} (m : M α) (Q : α → World → Prop) (w : World) : Prop :=
  wp m Q (fun _ _ => True) w

section

variable {α β : Type} {w : World}

theorem Returns.bind {m : M β} {f : β → M α} {P : β → World → Prop} {Q : α → World → Prop}
    (h : Returns m P w) (hf : ∀ b w', P b w' → Returns (f b) Q w') : Returns (m >>= f) Q w :=
  wp_bind.mpr (wp_mono h hf fun _ _ h => h)

theorem Returns.mono {m : M α} {P Q : α → World → Prop} (h : Returns m P w)
    (hQ : ∀ a w', P a w' → Q a w') : Returns m Q w :=
  wp_mono h hQ fun _ _ h => h

theorem returns_throw {e : Exn} {Q : α → World → Prop} : Returns (throw e) Q w := trivial

end

/-! ## The log of a run -/

def changedExternal (entry : Statement × Bool) : Prop :=
  entry.2 = true ∧ entry.1.db ≠ .default ∧ entry.1.kind ≠ .read

/-- A run comes back to the depth it started from, adds to the log, and changes the
external databases only by statements that are in it. -/
structure Traced (w w' : World) : Prop where
  depth : w'.depth = w.depth
  log : ∃ added, w'.log = w.log ++ added ∧
    ((∀ entry ∈ added, ¬ changedExternal entry) → w'.external = w.external)

namespace Traced

variable {w w' w'' : World}

theorem of_same (hd : w'.depth = w.depth) (hl : w'.log = w.log)
    (he : w'.external = w.external) : Traced w w' where
  depth := hd
  log := ⟨[], by rw [hl, List.append_nil], fun _ => he⟩

theorem trans (h : Traced w w') (h' : Traced w' w'') : Traced w w'' where
  depth := h'.depth.trans h.depth
  log := by
    obtain ⟨l, hl, hq⟩ := h.log
    obtain ⟨l', hl', hq'⟩ := h'.log
    refine ⟨l ++ l', by rw [hl', hl, List.append_assoc], fun hnone => ?_⟩
    rw [hq' fun entry he => hnone entry (List.mem_append_right l he)]
    exact hq fun entry he => hnone entry (List.mem_append_left l' he)

theorem after (h : Traced w w') (faults : List (Option Exn)) (entry : Statement × Bool) :
    Traced w (w'.after faults (w'.log ++ [entry])) where
  depth := h.depth
  log := by
    obtain ⟨l, hl, hq⟩ := h.log
    refine ⟨l ++ [entry], ?_, fun hnone => hq fun e he => hnone e (List.mem_append_left _ he)⟩
    show w'.log ++ [entry] = _
    rw [hl, List.append_assoc]

theorem mem_log (h : Traced w w') {entry : Statement × Bool} (he : entry ∈ w.log) :
    entry ∈ w'.log := by
  obtain ⟨l, hl, _⟩ := h.log
  exact hl ▸ List.mem_append_left l he

theorem statement {α : Type} (st : Statement) (f : World → Except Exn (α × World))
    (allowed : ∀ w a w', f w = .ok (a, w') → st.Allows w w') :
    Steps Traced (ReferenceData.statement st f) := by
  intro w
  refine wp_statement_exact (fun a w' hw => ?_) fun _ _ =>
    (of_same rfl rfl rfl : Traced w w).after _ _
  rcases allowed w a w' hw with rfl | ⟨hk, tables, rfl⟩
  · exact (of_same rfl rfl rfl : Traced w' w').after _ _
  · refine ⟨withTables_depth .., [(st, true)], rfl, fun hnone => ?_⟩
    by_cases hdb : st.db = .default
    · rw [hdb]
      rfl
    · exact absurd ⟨rfl, hdb, hk⟩ (hnone (st, true) List.mem_cons_self)

theorem leave {n : Nat} (h : Traced { w with depth := n } w') (hd : w''.depth = w.depth)
    (hl : w''.log = w'.log) (he : w''.external = w'.external) : Traced w w'' where
  depth := hd
  log := by
    obtain ⟨l, hl', hq⟩ := h.log
    exact ⟨l, hl.trans hl', fun hnone => he.trans (hq hnone)⟩

theorem atomic {α : Type} {m : M α} (hm : Steps Traced m) :
    Steps Traced (ReferenceData.atomic m) := by
  intro w
  refine wp_atomic_exact (wp_mono (hm _) (fun a w' h => ?_) fun e w' h => h.leave rfl rfl rfl)
  have hdepth : w'.depth - 1 = w.depth := by
    rw [h.depth]
    rfl
  have hleft : Traced w { w' with depth := w'.depth - 1 } := h.leave hdepth rfl rfl
  refine ⟨hleft.after _ _, fun e => ?_⟩
  exact ((h.leave rfl rfl rfl : Traced w (rollback w w')).after _ _)

instance statementClosed : StatementClosed Traced where
  refl := fun _ => of_same rfl rfl rfl
  trans := fun _ _ _ => trans
  statement := statement

theorem publishRow (self : Nat) (original_published create : Bool) :
    Steps Traced (ReferenceData.publishRow self original_published create) := by
  intro w
  refine wp_bind.mpr (wp_get.mpr (wp_bind.mpr (wp_setDatasetObject.mpr ?_)))
  refine wp_bind.mpr (wp_datasetObject.mpr (wp_bind.mpr ?_))
  refine wp_statement_exact (fun pk w' h => ?_) fun e _ => ⟨rfl, [_], rfl, fun _ => rfl⟩
  obtain ⟨_, h⟩ := if_error_eq_ok.mp h
  obtain ⟨_, rfl⟩ := Prod.mk.inj (Except.ok.inj h)
  exact ⟨rfl, [_], rfl, fun _ => rfl⟩

instance methodClosed : MethodClosed Traced where
  atomic := atomic
  recordModelClass := Closed.recordModelClass_of_register fun _ _ _ => of_same rfl rfl rfl
  object := fun _ _ _ _ => of_same rfl rfl rfl
  next_id := fun _ => of_same rfl rfl rfl
  publishRow := publishRow

end Traced

/-! ## What there is to see of a dataset -/

/-- What there is to see of a dataset. -/
structure View where
  /-- The external database of the object. -/
  external_database : Option Str
  /-- The one it remembers. -/
  original : Option Str
  /-- The one of the row. -/
  stored : Option Str
  depth : Nat
  tables : Tables
  external : Str → Tables

/-- The tables of a database. -/
def View.tablesOf (v : View) : Alias → Tables
  | .default => v.tables
  | .external name => v.external name

/-- One table of a database set or removed. -/
def View.setTable (v : View) (db : Alias) (name : Str) (t : Option Table) : View :=
  match db with
  | .default => { v with tables := Function.update v.tables name t }
  | .external ext =>
      { v with external := Function.update v.external ext (Function.update (v.external ext) name t) }

@[simp] theorem View.setTable_self (v : View) (db : Alias) (name : Str) (t : Option Table) :
    (v.setTable db name t).tablesOf db name = t := by
  cases db with
  | default => exact Function.update_self ..
  | external ext => simp [View.setTable, View.tablesOf]

@[simp] theorem View.setTable_setTable (v : View) (db : Alias) (name : Str)
    (t t' : Option Table) : (v.setTable db name t).setTable db name t' = v.setTable db name t' := by
  cases db with
  | default => simp [View.setTable]
  | external ext => simp [View.setTable]

/-- A table with the columns and the records of another one. -/
structure Table.Copies (t' t : Table) : Prop where
  names : ∀ n, n ∈ t'.names ↔ n ∈ t.names
  records : ∀ id, Option.Rel (fun values values' => ∀ n ∈ t.names, values' n = values n)
    (t.records.get? id) (t'.records.get? id)

/-- Every `DROP TABLE` so far went well. -/
def World.Dropped (w : World) : Prop := ∀ st, (st, false) ∈ w.log → st.kind ≠ .drop

namespace Subject

variable {s : Subject} {v : View} {w w' : World}

/-- The names of the columns that the fields describe. -/
def columnNames (s : Subject) : List Str := s.attrs.items.map fun a => a.2.column.name

/-- A table with the columns that the fields describe. -/
def Lays (s : Subject) (t : Table) : Prop := ∀ n, n ∈ t.names ↔ n ∈ s.columnNames

theorem Lays.records {t : Table} (h : s.Lays t) (records : Dict Nat Values) :
    s.Lays { t with records := records } := h

/-- A world in which the first object is one of the dataset, with what there is to see. -/
structure At (s : Subject) (v : View) (w : World) : Prop where
  sound : s.Sound w
  pk : (w.dataset_objects 0).pk = some s.pk
  external_database : (w.dataset_objects 0).row.external_database = v.external_database
  original : (w.dataset_objects 0)._original_ext_db = v.original
  original_table_name : (w.dataset_objects 0)._original_table_name = s.table_name
  stored : ∃ row, w.db.datasets.get? s.pk = some row ∧ row.external_database = v.stored
  depth : w.depth = v.depth
  tables : w.db.tables = v.tables
  external : w.external = v.external

namespace At

theorem rebuilt (h : s.At v w) (hr : s.Rebuilt w w') : s.At v w' where
  sound := h.sound.rebuilt hr
  pk := hr.dataset_objects ▸ h.pk
  external_database := hr.dataset_objects ▸ h.external_database
  original := hr.dataset_objects ▸ h.original
  original_table_name := hr.dataset_objects ▸ h.original_table_name
  stored := hr.db ▸ h.stored
  depth := hr.depth ▸ h.depth
  tables := hr.db ▸ h.tables
  external := hr.external ▸ h.external

theorem table_name (h : s.At v w) : (w.dataset_objects 0).row.table_name = s.table_name :=
  (h.sound.objects 0 s.pk h.pk).1.mp rfl

theorem tablesOf (h : s.At v w) (db : Alias) : w.tables db = v.tablesOf db := by
  cases db with
  | default => exact h.tables
  | external name => exact congrFun h.external name

theorem setTable (h : s.At v w) (db : Alias) (name : Str) (t : Option Table) :
    s.At (v.setTable db name t) (w.setTable db name t) := by
  have hs : s.Sound (w.setTable db name t) :=
    keeps_of_same (withTables_datasets ..) (withTables_fields ..)
      (withTables_dataset_objects ..) (le_of_eq (withTables_next_id ..).symm)
      (withTables_registry ..) h.sound
  have ht := h.tablesOf db
  cases db with
  | default =>
      refine ⟨hs, h.pk, h.external_database, h.original, h.original_table_name, h.stored,
        h.depth, ?_, h.external⟩
      show Function.update (w.tables .default) name t = _
      rw [ht]
      rfl
  | external ext =>
      refine ⟨hs, h.pk, h.external_database, h.original, h.original_table_name, h.stored,
        h.depth, h.tables, ?_⟩
      show Function.update w.external ext (Function.update (w.tables (.external ext)) name t) = _
      rw [ht, h.external]
      rfl

theorem of_table (h : s.At v w) {db : Alias} {name : Str} {t : Table}
    (ht : w.table db name = .ok t) : v.tablesOf db name = some t := by
  unfold World.table at ht
  split at ht
  next t₀ ht₀ => exact h.tablesOf db ▸ ht₀.trans (congrArg some (Except.ok.inj ht))
  next => cases ht

/-! ## Statements -/

theorem query {α : Type} (h : s.At v w) (db : Alias) (f : World → Except Exn α) :
    Returns (query db f) (fun a w' => f w = .ok a ∧ s.At v w') w :=
  wp_query (fun _ ha _ _ => ⟨ha, h.rebuilt (.of_same rfl)⟩) fun _ _ _ => trivial

theorem changeTable (h : s.At v w) (st : Statement) (name : Str)
    (f : World → Table → Except Exn (Option Table)) :
    Returns (changeTable st name f) (fun _ w' => ∃ t t', v.tablesOf st.db name = some t ∧
      f w t = .ok t' ∧ s.At (v.setTable st.db name t') w') w := by
  refine wp_execute (fun w' hw' _ _ => ?_) fun _ _ _ => trivial
  obtain ⟨t, ht, hw'⟩ := bind_eq_ok.mp hw'
  obtain ⟨t', ht', hw'⟩ := bind_eq_ok.mp hw'
  obtain rfl := Except.ok.inj hw'
  exact ⟨t, t', h.of_table ht, ht', (h.setTable st.db name t').rebuilt (.of_same rfl)⟩

theorem executeOk (h : s.At v w) (st : Statement) :
    Returns (execute st .ok) (fun _ => s.At v) w := by
  refine wp_execute (fun w' hw' _ _ => ?_) fun _ _ _ => trivial
  obtain rfl := Except.ok.inj hw'
  exact h.rebuilt (.of_same rfl)

theorem datasetPk (h : s.At v w) : Returns (datasetPk 0) (fun pk w' => pk = s.pk ∧ w' = w) w :=
  wp_datasetPk h.pk ⟨rfl, rfl⟩

theorem recordModelClass (h : s.At v w) :
    Returns (recordModelClass 0) (fun model w' => model.attrs = s.attrs ∧ s.At v w') w :=
  wp_mono (recordModelClass_rebuilt h.sound 0) (fun _ _ hr => ⟨hr.1 h.pk, h.rebuilt hr.2⟩)
    fun _ _ _ => trivial

theorem getRecords (h : s.At v w) :
    Returns (getRecords 0)
      (fun records w' => (∃ t, v.tables s.table_name = some t ∧ records = t.records) ∧ s.At v w')
      w := by
  refine h.recordModelClass.bind fun model w₁ ⟨_, h₁⟩ => ?_
  refine wp_bind.mpr (wp_datasetObject.mpr ?_)
  refine (h₁.query _ _).mono fun records w₂ ⟨hr, h₂⟩ => ⟨?_, h₂⟩
  obtain ⟨t, ht, hr⟩ := bind_eq_ok.mp hr
  rw [h₁.table_name] at ht
  split at hr
  next => exact ⟨t, h₁.of_table ht, (Except.ok.inj hr).symm⟩
  next => cases hr

end At

/-! ## Copying one record -/

theorem lookup_of_agree {values : Values} {n : Str} : ∀ {data : List (Str × Value)},
    (∀ k x, (k, x) ∈ data → x = values k) → n ∈ data.map Prod.fst →
      data.lookup n = some (values n)
  | [], _, hn => by cases hn
  | (k, x) :: data, h, hn => by
      by_cases hk : n = k
      · subst hk
        simp [h n x List.mem_cons_self]
      · have hrest : n ∈ data.map Prod.fst := by
          rcases List.mem_cons.mp hn with hn | hn
          · exact absurd hn hk
          · exact hn
        rw [List.lookup_cons, beq_false_of_ne hk]
        exact lookup_of_agree (fun k x hkx => h k x (List.mem_cons_of_mem _ hkx)) hrest

theorem fieldAttrs_get? {name : Str} {field : ModelField} :
    ∀ {fields : List ReferenceDatasetField} {attrs₀ attrs : Dict Str ModelField},
      fieldAttrs fields attrs₀ = some attrs → attrs.get? name = some field →
        attrs₀.get? name = some field ∨ ∃ f ∈ fields, f.attrName = some name
  | [], attrs₀, attrs, h, hget => by
      obtain rfl := Option.some.inj h
      exact Or.inl hget
  | f :: fields, attrs₀, attrs, h, hget => by
      obtain ⟨n, hn, h⟩ := Option.bind_eq_some_iff.mp h
      rcases fieldAttrs_get? h hget with hset | ⟨g, hg, hgn⟩
      · rw [Dict.get?_set] at hset
        split at hset
        next hname => exact Or.inr ⟨f, List.mem_cons_self, hname ▸ hn⟩
        next => exact Or.inl hset
      · exact Or.inr ⟨g, List.mem_cons_of_mem f hg, hgn⟩

theorem exists_field {n : Str} (hn : n ∈ s.columnNames) {db : Db} (hdb : db.fields = s.fields) :
    ∃ f ∈ (db.fieldsOf s.pk).map Prod.snd, ∃ field, f.attrName.bind s.attrs.get? = some field ∧
      field.column.name = n := by
  obtain ⟨⟨name, field⟩, hmem, rfl⟩ := List.mem_map.mp hn
  have hget := (Dict.mem_items_iff ..).mp hmem
  rcases fieldAttrs_get? (s.described db hdb) hget with hempty | ⟨f, hf, hname⟩
  · cases hempty
  · exact ⟨f, hf, field, by rw [hname]; exact hget, rfl⟩

namespace At

theorem recordData (model : ModelClass) (values : Values) :
    ∀ fields w, s.At v w → Returns (recordData model values fields)
      (fun data w' => s.At v w' ∧ (∀ k x, (k, x) ∈ data → x = values k) ∧
        ∀ f ∈ fields, ∀ field, f.attrName.bind model.attrs.get? = some field →
          field.column.name ∈ data.map Prod.fst) w
  | [], w, h => ⟨h, nofun, nofun⟩
  | f :: fields, w, h => by
      unfold ReferenceData.recordData
      split
      next => exact returns_throw
      next field hfield =>
        have hnext : ∀ w, s.At v w → Returns
            (do
              let data ← ReferenceData.recordData model values fields
              pure ((field.column.name, values field.column.name) :: data))
            (fun data w' => s.At v w' ∧ (∀ k x, (k, x) ∈ data → x = values k) ∧
              ∀ g ∈ f :: fields, ∀ field, g.attrName.bind model.attrs.get? = some field →
                field.column.name ∈ data.map Prod.fst) w := by
          intro w h
          refine (recordData model values fields w h).bind fun data w' ⟨h', hd, hk⟩ => ?_
          refine ⟨h', fun k x hkx => ?_, fun g hg field' hfield' => ?_⟩
          · rcases List.mem_cons.mp hkx with hkx | hkx
            · obtain ⟨rfl, rfl⟩ := Prod.mk.inj hkx
              rfl
            · exact hd k x hkx
          · rcases List.mem_cons.mp hg with rfl | hg
            · rw [hfield] at hfield'
              exact Option.some.inj hfield' ▸ List.mem_cons_self
            · exact List.mem_cons_of_mem _ (hk g hg field' hfield')
        refine wp_bind.mpr (wp_whenever (fun _ => ?_) fun _ => hnext w h)
        exact (h.query _ _).mono fun _ w' h' => hnext w' h'.2

theorem syncRecord (h : s.At v w) {model : ModelClass} (hm : model.attrs = s.attrs) {ext : Str}
    {t : Table} (ht : v.external ext s.table_name = some t) (record : Nat × Values) :
    Returns (syncRecord 0 ext model record)
      (fun _ w' => ∃ values, (∀ n ∈ s.columnNames, values n = record.2 n) ∧
        s.At (v.setTable (.external ext) s.table_name
          (some { t with records := t.records.set record.1 values })) w') w := by
  refine h.datasetPk.bind fun pk w₁ ⟨hpk, hw₁⟩ => ?_
  subst hw₁ hpk
  refine wp_bind.mpr (wp_datasetObject.mpr ?_)
  refine (h.query _ _).bind fun fields w₁ ⟨hfields, h₁⟩ => ?_
  refine (recordData model record.2 _ w₁ h₁).bind fun data w₂ ⟨h₂, hagree, hkeys⟩ => ?_
  refine (h₂.query _ _).bind fun saved w₃ ⟨hsaved, h₃⟩ => ?_
  have hdata : ∀ values : Values, ∀ n ∈ s.columnNames,
      values.updated data n = record.2 n := by
    intro values n hn
    obtain ⟨f, hf, field, hfield, rfl⟩ := exists_field hn h.sound.fields
    obtain rfl := Except.ok.inj hfields
    have hmem := hkeys f hf field (hm ▸ hfield)
    simp [Values.updated, lookup_of_agree hagree hmem]
  have hext : v.tablesOf (.external ext) s.table_name = some t := ht
  rw [h.table_name] at hsaved ⊢
  have hcontains : saved = t.records.contains record.1 := by
    obtain ⟨t₀, ht₀, hsaved⟩ := bind_eq_ok.mp hsaved
    obtain rfl := Option.some.inj (hext.symm.trans (h₂.of_table ht₀))
    exact (Except.ok.inj hsaved).symm
  split
  next hsaved =>
    refine (h₃.changeTable _ _ _).mono fun _ w' hchanged => ?_
    obtain ⟨t₀, t', ht₀, ht', h'⟩ := hchanged
    obtain rfl := Option.some.inj (hext.symm.trans ht₀)
    obtain ⟨_, ht'⟩ := if_error_eq_ok.mp ht'
    obtain ⟨_, ht'⟩ := if_error_eq_ok.mp ht'
    split at ht'
    next hnone =>
      rw [hsaved] at hcontains
      simp [Dict.contains, hnone] at hcontains
    next values _ =>
      obtain ⟨_, ht'⟩ := if_error_eq_ok.mp ht'
      obtain rfl := Except.ok.inj ht'
      exact ⟨_, hdata values, h'⟩
  next hsaved =>
    refine (h₃.changeTable _ _ _).mono fun _ w' hchanged => ?_
    obtain ⟨t₀, t', ht₀, ht', h'⟩ := hchanged
    obtain rfl := Option.some.inj (hext.symm.trans ht₀)
    obtain ⟨_, ht'⟩ := if_error_eq_ok.mp ht'
    obtain ⟨_, ht'⟩ := if_error_eq_ok.mp ht'
    obtain ⟨_, ht'⟩ := if_error_eq_ok.mp ht'
    obtain rfl := Except.ok.inj ht'
    exact ⟨_, hdata _, h'⟩

/-! ## Copying all of them -/

theorem syncToExternalDatabase (h : s.At v w) {ext : Str} {t t' : Table}
    (ht : v.tables s.table_name = some t) (hl : s.Lays t)
    (ht' : v.external ext s.table_name = some t') (hl' : s.Lays t') :
    Returns (syncToExternalDatabase 0 ext)
      (fun _ w' => ∃ t'', t''.Copies t ∧
        s.At (v.setTable (.external ext) s.table_name (some t'')) w') w := by
  refine h.recordModelClass.bind fun model w₁ hmodel => ?_
  obtain ⟨hm, h₁⟩ := hmodel
  refine h₁.getRecords.bind fun records w₂ hrecords => ?_
  obtain ⟨⟨t₀, ht₀, hr⟩, h₂⟩ := hrecords
  obtain rfl := Option.some.inj (ht.symm.trans ht₀)
  subst hr
  refine wp_bind.mpr (wp_datasetObject.mpr ?_)
  rw [h₂.table_name]
  -- the records gone through are there, with the values they have
  refine wp_bind.mpr (wp_forEach (fun front w' => ∃ t'', t''.columns = t'.columns ∧
    (∀ r ∈ front, ∃ values, t''.records.get? r.1 = some values ∧
      ∀ n ∈ s.columnNames, values n = r.2 n) ∧
    s.At (v.setTable (.external ext) s.table_name (some t'')) w')
    (fun front r back w' hitems hfronts => ?_) ?_ fun w₃ halls => ?_)
  · obtain ⟨t'', hc, hfront, h'⟩ := hfronts
    have hext := View.setTable_self v (.external ext) s.table_name (some t'')
    refine (h'.syncRecord hm hext r).mono fun _ w₃ hsynced => ?_
    obtain ⟨values, hv, h₃⟩ := hsynced
    rw [View.setTable_setTable] at h₃
    refine ⟨{ t'' with records := t''.records.set r.1 values }, hc, fun r' hr' => ?_, h₃⟩
    rw [Dict.get?_set]
    split
    next hid =>
      have hsame : r'.2 = r.2 := by
        have hget : ∀ x, x ∈ front ++ r :: back → t.records.get? x.1 = some x.2 :=
          fun x hx => (Dict.mem_items_iff ..).mp (hitems ▸ hx)
        have hr₁ := hget r (by simp)
        have hr₂ := hget r' (by rcases List.mem_append.mp hr' with h | h <;> simp_all)
        rw [hid, hr₁] at hr₂
        exact (Option.some.inj hr₂).symm
      exact ⟨values, rfl, fun n hn => hsame ▸ hv n hn⟩
    next hid =>
      rcases List.mem_append.mp hr' with hr' | hr'
      · exact hfront r' hr'
      · exact absurd (List.mem_singleton.mp hr' ▸ rfl) hid
  · refine ⟨t', rfl, fun r hr => absurd hr List.not_mem_nil, ?_⟩
    have hself : v.setTable (.external ext) s.table_name (some t') = v := by
      simp [View.setTable, ← ht']
    rw [hself]
    exact h₂
  · obtain ⟨t'', hc, hall, h₃⟩ := halls
    have hext := View.setTable_self v (.external ext) s.table_name (some t'')
    refine (h₃.changeTable _ _ _).mono fun _ w₄ hchanged => ?_
    obtain ⟨t₁, t₂, ht₁, ht₂, h₄⟩ := hchanged
    obtain rfl := Option.some.inj (hext.symm.trans ht₁)
    obtain rfl := Except.ok.inj ht₂
    rw [View.setTable_setTable] at h₄
    refine ⟨_, ⟨fun n => ?_, fun id => ?_⟩, h₄⟩
    · show n ∈ t''.names ↔ _
      rw [hl n, ← hl' n, Table.names, hc]
      rfl
    · show Option.Rel _ _ ((t''.records.filterKeys _).get? id)
      rw [Dict.get?_filterKeys]
      cases hid : t.records.get? id with
      | none => simp [Dict.contains, hid]
      | some values =>
          obtain ⟨values', hget, hv⟩ := hall (id, values) ((Dict.mem_items_iff ..).mpr hid)
          simp only [Dict.contains, hid, Option.isSome_some, if_true, hget]
          exact .some fun n hn => hv n ((hl n).mp hn)

/-! ## The table in the external database -/

theorem createExternalDatabaseTable (h : s.At v w) (ext : Str) :
    Returns (createExternalDatabaseTable 0 ext)
      (fun _ w' => ∃ t, s.Lays t ∧
        s.At (v.setTable (.external ext) s.table_name (some t)) w') w := by
  refine h.recordModelClass.bind fun model w₁ ⟨hm, h₁⟩ => ?_
  refine wp_bind.mpr (wp_datasetObject.mpr ?_)
  rw [h₁.table_name]
  refine wp_execute (fun w' hw' _ _ => ?_) fun _ _ _ => trivial
  split at hw'
  next => cases hw'
  next =>
    split at hw'
    next =>
      obtain rfl := Except.ok.inj hw'
      refine ⟨⟨model.columns, .empty⟩, fun n => ?_, (h₁.setTable _ _ _).rebuilt (.of_same rfl)⟩
      simp only [Table.names, ModelClass.columns, columnNames, hm, List.map_map]
      rfl
    next => cases hw'

theorem dropExternalDatabaseTable (h : s.At v w) (ext : Str) :
    Returns (dropExternalDatabaseTable 0 ext)
      (fun _ w' => w'.Dropped → s.At (v.setTable (.external ext) s.table_name none) w') w := by
  refine h.recordModelClass.bind fun model w₁ ⟨hm, h₁⟩ => ?_
  refine wp_bind.mpr (wp_datasetObject.mpr ?_)
  rw [h₁.table_name]
  refine wp_catching (wp_statement_exact (fun _ w' hw' => ?_) fun e _ => ⟨fun _ hd => ?_, ?_⟩)
  · obtain ⟨w₂, h₂, heq⟩ := map_eq_ok.mp hw'
    obtain ⟨_, rfl⟩ := Prod.mk.inj heq
    obtain ⟨t, ht, h₂⟩ := bind_eq_ok.mp h₂
    obtain rfl := Except.ok.inj h₂
    exact fun _ => (h₁.setTable _ _ _).rebuilt (.of_same rfl)
  · exact absurd rfl (hd ⟨.external ext, .drop⟩ (List.mem_append_right _ List.mem_cons_self))
  · exact fun _ => trivial

/-! ## Saving the dataset -/

theorem setObject (h : s.At v w) {o : DatasetObject} (hpk : o.pk = some s.pk)
    (hrow : s.IsRow s.pk o.row) (ht : o._original_table_name = s.table_name) :
    s.At { v with external_database := o.row.external_database, original := o._original_ext_db }
      (w.setObject 0 o) where
  sound := h.sound.setObject 0 fun pk hpk' => Option.some.inj (hpk.symm.trans hpk') ▸ hrow
  pk := by rw [setObject_self]; exact hpk
  external_database := by rw [setObject_self]
  original := by rw [setObject_self]
  original_table_name := by rw [setObject_self]; exact ht
  stored := h.stored
  depth := h.depth
  tables := h.tables
  external := h.external

theorem setRow (h : s.At v w) {f : ReferenceDataset → ReferenceDataset}
    (hf : ∀ row, (f row).table_name = row.table_name ∧
      row.schema_version ≤ (f row).schema_version ∧
      (f row).external_database = row.external_database) :
    Returns (setRow 0 f) (fun _ => s.At v) w := by
  refine wp_setDatasetObject.mpr ?_
  have hrow := h.sound.objects 0 s.pk h.pk
  have hset := h.setObject (o := { w.dataset_objects 0 with row := f (w.dataset_objects 0).row })
    h.pk (hrow.congr (hf _).1 (hf _).2.1) h.original_table_name
  rw [(hf _).2.2, h.external_database, h.original] at hset
  exact hset

theorem publishRow (h : s.At v w) (original_published create : Bool) :
    Returns (publishRow 0 original_published create)
      (fun _ => s.At { v with stored := v.external_database }) w := by
  have hrow := (h.sound.objects 0 s.pk h.pk).managed original_published create w.now
  refine wp_publishRow _ rfl (fun pk next_id faults log hpk => ?_) fun _ _ _ => trivial
  rcases hpk with ⟨hpk, rfl⟩ | ⟨hpk, _⟩
  · obtain rfl : pk = s.pk := Option.some.inj (hpk.symm.trans h.pk)
    have hext := (managePublished_external_database (w.dataset_objects 0).row original_published
      create w.now).trans h.external_database
    have hobj := setObject_self w 0
      { w.managed 0 original_published create with pk := some s.pk }
    refine ⟨h.sound.publish hrow (le_refl _), ?_, ?_, ?_, ?_, ⟨_, ?_, hext⟩, h.depth, h.tables,
      h.external⟩
    · exact congrArg DatasetObject.pk hobj
    · exact (congrArg (fun o => o.row.external_database) hobj).trans hext
    · exact (congrArg DatasetObject._original_ext_db hobj).trans h.original
    · exact (congrArg DatasetObject._original_table_name hobj).trans h.original_table_name
    · rw [Dict.get?_set]
      exact if_pos rfl
  · exact absurd (hpk.symm.trans h.pk) nofun

theorem alterDbTables (h : s.At v w) {old new : Str} (hn : old = new) (dbs : List Alias) :
    Returns (forEach (fun db => alterDbTable db old new) dbs) (fun _ => s.At v) w := by
  refine wp_forEach (fun _ => s.At v) (fun _ db _ w' _ h' => ?_) h fun _ h' => h'
  exact wp_whenever (fun hne => by simp [hn] at hne) fun _ => h'

end At

/-- An external database has a copy of the table, and the others do not have any. -/
structure Mirrors (s : Subject) (ext : Option Str) (t : Table) (external : Str → Tables) :
    Prop where
  copy : ∀ e, ext = some e → ∃ t', external e s.table_name = some t' ∧ t'.Copies t
  gone : ∀ e, ext ≠ some e → external e s.table_name = none

/-- A world with something to see, unless a `DROP TABLE` was refused on the way. -/
def Seen (s : Subject) (P : View → Prop) (w : World) : Prop :=
  w.Dropped → ∃ v, P v ∧ s.At v w

theorem At.seen (h : s.At v w) {P : View → Prop} (hP : P v) : s.Seen P w := fun _ => ⟨v, hP, h⟩

theorem Seen.mono {P Q : View → Prop} (h : s.Seen P w) (hPQ : ∀ v, P v → Q v) : s.Seen Q w :=
  fun hd => (h hd).imp fun v hv => ⟨hPQ v hv.1, hv.2⟩

theorem returns_of_seen {α : Type} {m : M α} {P Q : View → Prop} (h : s.Seen P w)
    (hm : ∀ v, P v → s.At v w → Returns m (fun _ => s.Seen Q) w) (ht : Steps Traced m) :
    Returns m (fun _ => s.Seen Q) w := by
  by_cases hd : w.Dropped
  · obtain ⟨v, hv, h'⟩ := h hd
    exact hm v hv h'
  · -- a `DROP TABLE` that was refused stays in the log
    exact wp_mono (ht w) (fun _ _ ht hd' => absurd (fun st hst => hd' st (ht.mem_log hst)) hd)
      fun _ _ _ => trivial

theorem returns_bind {α β : Type} {m : M β} {f : β → M α} {P Q : View → Prop}
    (h : Returns m (fun _ => s.Seen P) w)
    (hf : ∀ b v w', P v → s.At v w' → Returns (f b) (fun _ => s.Seen Q) w')
    (ht : ∀ b, Steps Traced (f b)) : Returns (m >>= f) (fun _ => s.Seen Q) w :=
  h.bind fun b w' hb => returns_of_seen hb (fun v hv h' => hf b v w' hv h') (ht b)

theorem returns_forEach {β : Type} {f : β → M PUnit} {P : View → Prop} (l : List β)
    (h : s.Seen P w) (hf : ∀ b v w', P v → s.At v w' → Returns (f b) (fun _ => s.Seen P) w')
    (ht : ∀ b, Steps Traced (f b)) : Returns (forEach f l) (fun _ => s.Seen P) w :=
  wp_forEach (fun _ => s.Seen P)
    (fun _ b _ w' _ hw' => returns_of_seen hw' (fun v hv h' => hf b v w' hv h') (ht b)) h fun _ h' => h'

theorem returns_atomic {m : M PUnit} {P : View → Prop}
    (hm : Returns m (fun _ => s.Seen P) { w with depth := w.depth + 1 }) :
    Returns (atomic m)
      (fun _ => s.Seen fun v' => ∃ v₁, P v₁ ∧ v' = { v₁ with depth := v₁.depth - 1 }) w := by
  refine wp_atomic_exact (wp_mono hm (fun _ w' hs => ⟨fun hd => ?_, fun _ => trivial⟩)
    fun _ _ _ => trivial)
  obtain ⟨v₁, hv₁, h₁⟩ := hs fun st hst => hd st (List.mem_append_left _ hst)
  refine ⟨_, ⟨v₁, hv₁, rfl⟩, ?_⟩
  exact ⟨h₁.sound.congr rfl rfl rfl rfl, h₁.pk, h₁.external_database, h₁.original,
    h₁.original_table_name, h₁.stored, congrArg (· - 1) h₁.depth, h₁.tables, h₁.external⟩

namespace At

theorem dropOriginal (h : s.At v w) {t : Table} (hm : s.Mirrors v.original t v.external) :
    Returns (forSome v.original (ReferenceData.dropExternalDatabaseTable 0))
      (fun _ => s.Seen fun v' => ∃ external, s.Mirrors none t external ∧
        v' = { v with external := external }) w := by
  refine wp_forSome (fun e he => ?_) fun hnone _ => ⟨v, ⟨v.external, hnone ▸ hm, rfl⟩, h⟩
  refine (h.dropExternalDatabaseTable e).mono fun _ w' h' hd =>
    ⟨_, ⟨_, ⟨nofun, fun e' _ => ?_⟩, rfl⟩, h' hd⟩
  by_cases hee : e' = e
  · subst hee
    simp
  · rw [Function.update_of_ne hee]
    exact hm.gone e' fun heq => hee (Option.some.inj (he.symm.trans heq)).symm

theorem createCurrent (h : s.At v w) {t : Table} (ht : v.tables s.table_name = some t)
    (hl : s.Lays t) (hm : s.Mirrors none t v.external) :
    Returns (forSome v.external_database fun db_name => do
        ReferenceData.createExternalDatabaseTable 0 db_name
        ReferenceData.syncToExternalDatabase 0 db_name)
      (fun _ => s.Seen fun v' => ∃ external, s.Mirrors v.external_database t external ∧
        v' = { v with external := external }) w := by
  refine wp_forSome (fun e he => ?_) fun hnone _ => ⟨v, ⟨v.external, hnone ▸ hm, rfl⟩, h⟩
  refine (h.createExternalDatabaseTable e).bind fun _ w₁ ⟨t', hl', h₁⟩ => ?_
  have ht' := View.setTable_self v (.external e) s.table_name (some t')
  refine (h₁.syncToExternalDatabase ht hl ht' hl').mono fun _ w₂ ⟨t'', hc, h₂⟩ _ => ?_
  rw [View.setTable_setTable] at h₂
  refine ⟨_, ⟨_, ⟨fun e' he' => ?_, fun e' he' => ?_⟩, rfl⟩, h₂⟩
  · obtain rfl := Option.some.inj (he.symm.trans he')
    exact ⟨t'', by simp, hc⟩
  · have hee : e' ≠ e := fun heq => he' (heq ▸ he)
    rw [Function.update_of_ne hee]
    exact hm.gone e' nofun

theorem saveChanged_same (h : s.At v w) (hsame : v.external_database = v.original) :
    Returns (saveChanged 0) (fun _ => s.Seen (· = v)) w := by
  refine wp_bind.mpr (wp_datasetObject.mpr (wp_bind.mpr ?_))
  refine wp_whenever (fun hne => ?_) fun _ => ?_
  · rw [h.external_database, h.original, hsame] at hne
    simp at hne
  · refine wp_whenever (fun _ => ?_) fun _ => h.seen rfl
    exact (h.alterDbTables (h.original_table_name.trans h.table_name.symm) _).mono
      fun _ _ h' => h'.seen rfl

theorem saveChanged (h : s.At v w) {t : Table} (ht : v.tables s.table_name = some t)
    (hl : s.Lays t) (hm : s.Mirrors v.original t v.external) :
    Returns (saveChanged 0)
      (fun _ => s.Seen fun v' => ∃ external, s.Mirrors v.external_database t external ∧
        v' = { v with external := external }) w := by
  refine wp_bind.mpr (wp_datasetObject.mpr ?_)
  have hnames := h.original_table_name.trans h.table_name.symm
  rw [h.external_database, h.original]
  refine returns_bind (P := fun v' => ∃ external,
    s.Mirrors v.external_database t external ∧ v' = { v with external := external }) ?_ ?_ ?_
  · refine wp_whenever (fun _ => ?_) fun hsame _ => ⟨v, ⟨v.external, ?_, rfl⟩, h⟩
    · refine returns_bind (h.dropOriginal hm) (fun _ v₁ w₁ hv₁ h₁ => ?_) fun _ => ?_
      · obtain ⟨external, hm₁, rfl⟩ := hv₁
        exact h₁.createCurrent ht hl hm₁
      · refine .forSome fun e => ?_
        exact .bind (Closed.createExternalDatabaseTable 0 e) fun _ =>
          Closed.syncToExternalDatabase 0 e
    · have heq : v.external_database = v.original := by simpa using hsame
      exact heq ▸ hm
  · rintro _ v₁ w₁ ⟨external, hm₁, rfl⟩ h₁
    refine wp_whenever (fun _ => ?_) fun _ => h₁.seen ⟨external, hm₁, rfl⟩
    exact (h₁.alterDbTables hnames _).mono fun _ _ h' => h'.seen ⟨external, hm₁, rfl⟩
  · exact fun _ => Steps.whenever (.forEach (fun db => Closed.alterDbTable db _ _) _)

theorem atomic (h : s.At v w) {m : M PUnit} {P : View → Prop}
    (hm : ∀ w, s.At { v with depth := v.depth + 1 } w → Returns m (fun _ => s.Seen P) w) :
    Returns (atomic m)
      (fun _ => s.Seen fun v' => ∃ v₁, P v₁ ∧ v' = { v₁ with depth := v₁.depth - 1 }) w :=
  returns_atomic (hm _ ⟨h.sound.congr rfl rfl rfl rfl, h.pk, h.external_database, h.original,
    h.original_table_name, h.stored, congrArg (· + 1) h.depth, h.tables, h.external⟩)

theorem saveDataset_of (h : s.At v w) {P : View → Prop}
    (hc : ∀ w, s.At { v with stored := v.external_database, depth := v.depth + 1 } w →
      Returns (ReferenceData.saveChanged 0) (fun _ => s.Seen P) w) :
    Returns (saveDataset 0) (fun _ => s.Seen fun v' => ∃ v₁, P v₁ ∧
      v' = { v₁ with original := v₁.external_database, depth := v₁.depth - 1 }) w := by
  unfold saveDataset
  refine wp_mono (h.atomic (P := fun v' => ∃ v₁, P v₁ ∧
    v' = { v₁ with original := v₁.external_database }) fun w h => ?_)
    (fun _ _ hs => hs.mono ?_) fun _ _ _ => trivial
  · refine wp_bind.mpr (wp_datasetObject.mpr ?_)
    rw [h.pk]
    have hbump : ∀ c, Returns (whenever c (ReferenceData.setRow 0 ReferenceDataset.schemaBumped))
        (fun _ => s.At { v with depth := v.depth + 1 }) w := fun c =>
      wp_whenever (fun _ => h.setRow fun row => ⟨rfl, Nat.le_succ _, rfl⟩) fun _ => h
    refine (hbump _).bind fun _ w₁ h₁ => ?_
    refine (h₁.publishRow _ _).bind fun _ w₂ h₂ => ?_
    refine h₂.recordModelClass.bind fun model w₃ ⟨_, h₃⟩ => ?_
    refine returns_bind (hc w₃ h₃) (fun _ v₁ w₄ hv₁ h₄ => ?_) fun _ => ?_
    · have hrow := h₄.sound.objects 0 s.pk h₄.pk
      have hset := h₄.setObject (o := (w₄.dataset_objects 0).remembered) h₄.pk hrow
        h₄.table_name
      have hext : (w₄.dataset_objects 0).remembered.row.external_database =
        v₁.external_database := h₄.external_database
      have horig : (w₄.dataset_objects 0).remembered._original_ext_db =
        v₁.external_database := h₄.external_database
      rw [hext, horig] at hset
      refine wp_bind.mpr (wp_setDatasetObject.mpr ?_)
      refine (hset.query _ _).bind fun _ w₅ ⟨_, h₅⟩ => ?_
      exact (h₅.executeOk _).mono fun _ w₆ h₆ => h₆.seen ⟨v₁, hv₁, rfl⟩
    · refine .bind (MethodClosed.object 0 .remembered) fun _ => .bind (Closed.query _ _) fun _ => ?_
      exact Closed.execute _ _ fun w w' h => Or.inl (Except.ok.inj h).symm
  · rintro v' ⟨_, ⟨v₁, hv₁, rfl⟩, rfl⟩
    exact ⟨v₁, hv₁, rfl⟩

theorem saveDataset_same (h : s.At v w) (hsame : v.original = v.external_database) :
    Returns (saveDataset 0) (fun _ => s.Seen (· = { v with stored := v.external_database })) w := by
  refine wp_mono (h.saveDataset_of fun w h => h.saveChanged_same hsame.symm)
    (fun _ _ hs => hs.mono ?_) fun _ _ _ => trivial
  rintro v' ⟨_, rfl, rfl⟩
  simp [← hsame]

theorem saveDataset (h : s.At v w) {t : Table} (ht : v.tables s.table_name = some t)
    (hl : s.Lays t) (hm : s.Mirrors v.original t v.external) :
    Returns (saveDataset 0) (fun _ => s.Seen fun v' => ∃ external,
      s.Mirrors v.external_database t external ∧ v' = { v with
        original := v.external_database, stored := v.external_database, external := external })
      w := by
  refine wp_mono (h.saveDataset_of fun w h => h.saveChanged ht hl hm)
    (fun _ _ hs => hs.mono ?_) fun _ _ _ => trivial
  rintro v' ⟨_, ⟨external, hm', rfl⟩, rfl⟩
  exact ⟨external, hm', rfl⟩

/-! ## Saving and deleting records -/

theorem incrementMinorVersion (h : s.At v w) (hsame : v.original = v.external_database) :
    Returns (incrementMinorVersion 0)
      (fun _ => s.Seen (· = { v with stored := v.external_database })) w :=
  (h.setRow (f := ReferenceDataset.minorBumped) fun _ => ⟨rfl, le_refl _, rfl⟩).bind
    fun _ _ h₁ => h₁.saveDataset_same hsame

theorem syncExternally (h : s.At v w) {t u : Table} (ht : v.tables s.table_name = some t)
    (hl : s.Lays t) (hlu : s.Lays u) (hm : s.Mirrors v.external_database u v.external) :
    Returns (syncExternally 0) (fun _ => s.Seen fun v' => ∃ external,
      s.Mirrors v.external_database t external ∧ v' = { v with external := external }) w := by
  refine wp_bind.mpr (wp_datasetObject.mpr ?_)
  rw [h.external_database]
  refine wp_forSome (fun e he => ?_) fun hnone => ?_
  · obtain ⟨t', ht', hc'⟩ := hm.copy e he
    have hl' : s.Lays t' := fun n => (hc'.names n).trans (hlu n)
    refine (h.syncToExternalDatabase ht hl ht' hl').mono fun _ w' ⟨t'', hc, h'⟩ => ?_
    refine h'.seen ⟨_, ⟨fun e' he' => ?_, fun e' he' => ?_⟩, rfl⟩
    · obtain rfl := Option.some.inj (he.symm.trans he')
      exact ⟨t'', by simp, hc⟩
    · have hee : e' ≠ e := fun heq => he' (heq ▸ he)
      rw [Function.update_of_ne hee]
      exact hm.gone e' he'
  · refine h.seen ⟨v.external, ⟨fun e he => ?_, hm.gone⟩, rfl⟩
    rw [hnone] at he
    cases he

theorem writeRecord (h : s.At v w) {t : Table} (ht : v.tables s.table_name = some t)
    (hl : s.Lays t) (internal_id : Option Nat) (form_data : List (Str × Value)) :
    Returns (writeRecord 0 internal_id form_data)
      (fun _ w' => ∃ t', s.Lays t' ∧ s.At (v.setTable .default s.table_name (some t')) w') w := by
  refine h.recordModelClass.bind fun model w₁ ⟨_, h₁⟩ => ?_
  refine wp_bind.mpr (wp_datasetObject.mpr ?_)
  rw [h₁.table_name]
  cases internal_id with
  | none =>
      refine wp_bind.mpr (wp_get.mpr ?_)
      refine (h₁.changeTable _ _ _).bind fun _ w₂ ⟨t₀, t', ht₀, ht', h₂⟩ => wp_modify.mpr ?_
      obtain rfl := Option.some.inj (ht.symm.trans ht₀)
      obtain ⟨_, ht'⟩ := if_error_eq_ok.mp ht'
      obtain ⟨_, ht'⟩ := if_error_eq_ok.mp ht'
      obtain ⟨_, ht'⟩ := if_error_eq_ok.mp ht'
      obtain rfl := Except.ok.inj ht'
      have hs := h₂.sound
      exact ⟨_, hl.records _, ⟨⟨hs.fields, hs.rows, hs.stored, hs.objects,
        Nat.lt_succ_of_lt hs.next_id, hs.registry⟩, h₂.pk, h₂.external_database, h₂.original,
        h₂.original_table_name, h₂.stored, h₂.depth, h₂.tables, h₂.external⟩⟩
  | some id =>
      refine (h₁.changeTable _ _ _).bind fun _ w₂ ⟨t₀, t', ht₀, ht', h₂⟩ => ?_
      refine (h₂.query _ _).mono fun _ w₃ ⟨_, h₃⟩ => ?_
      obtain rfl := Option.some.inj (ht.symm.trans ht₀)
      obtain ⟨_, ht'⟩ := if_error_eq_ok.mp ht'
      obtain ⟨_, ht'⟩ := if_error_eq_ok.mp ht'
      split at ht'
      next =>
        obtain rfl := Except.ok.inj ht'
        exact ⟨_, hl, h₃⟩
      next =>
        obtain ⟨_, ht'⟩ := if_error_eq_ok.mp ht'
        obtain rfl := Except.ok.inj ht'
        exact ⟨_, hl.records _, h₃⟩

theorem deleteRecords (h : s.At v w) {t : Table} (ht : v.tables s.table_name = some t)
    (hl : s.Lays t) (keep : Nat → Bool) :
    Returns (deleteRecords .default s.table_name keep)
      (fun _ w' => ∃ t', s.Lays t' ∧ s.At (v.setTable .default s.table_name (some t')) w') w := by
  refine (h.changeTable _ _ _).mono fun _ w' ⟨t₀, t', ht₀, ht', h'⟩ => ?_
  obtain rfl := Option.some.inj (ht.symm.trans ht₀)
  obtain rfl := Except.ok.inj ht'
  exact ⟨_, hl.records _, h'⟩

/-- What is left where an operation on the records went well: a copy of the table. -/
def Copied (s : Subject) (v v' : View) : Prop :=
  ∃ t external, s.Lays t ∧ s.Mirrors v.external_database t external ∧
    v' = { v with
      stored := v.external_database
      tables := Function.update v.tables s.table_name (some t)
      external := external }

theorem atomic_copied (h : s.At v w) {m : M PUnit}
    (hm : ∀ w, s.At { v with depth := v.depth + 1 } w →
      Returns m (fun _ => s.Seen (Copied s { v with depth := v.depth + 1 })) w) :
    Returns (ReferenceData.atomic m) (fun _ => s.Seen (Copied s v)) w := by
  refine wp_mono (h.atomic hm) (fun _ _ hs => hs.mono ?_) fun _ _ _ => trivial
  rintro v' ⟨_, ⟨t', external, hl', hm', rfl⟩, rfl⟩
  exact ⟨t', external, hl', hm', rfl⟩

theorem traced_deleteAndSync (keep : Nat → Bool) : Steps Traced (do
    let o ← datasetObject 0
    ReferenceData.deleteRecords .default o.row.table_name keep
    ReferenceData.syncExternally 0
    ReferenceData.saveDataset 0) := by
  refine .bind (Closed.datasetObject 0) fun o => .bind (Closed.changeTable _ _ _ nofun) fun _ => ?_
  exact .bind (Closed.syncExternally 0) fun _ => Closed.saveDataset 0

section

variable {t : Table} (h : s.At v w) (hsame : v.original = v.external_database)
  (ht : v.tables s.table_name = some t) (hl : s.Lays t)

include h hsame ht hl

theorem saveRecord_local (internal_id : Option Nat) (form_data : List (Str × Value)) :
    Returns (saveRecord 0 internal_id form_data false) (fun _ => s.Seen fun v' => ∃ t',
      s.Lays t' ∧ v' = { v with
        stored := v.external_database
        tables := Function.update v.tables s.table_name (some t') }) w := by
  unfold saveRecord
  refine wp_mono (h.atomic (P := fun v' => ∃ t', s.Lays t' ∧ v' = { v with
    stored := v.external_database, depth := v.depth + 1
    tables := Function.update v.tables s.table_name (some t') }) fun w h => ?_)
    (fun _ _ hs => hs.mono ?_) fun _ _ _ => trivial
  · refine (h.writeRecord ht hl _ _).bind fun _ w₁ ⟨t', hl', h₁⟩ => ?_
    refine returns_bind (h₁.incrementMinorVersion hsame) (fun _ v₂ w₂ hv₂ h₂ => ?_) fun _ => ?_
    · exact h₂.seen ⟨t', hl', hv₂⟩
    · exact Steps.whenever (Closed.syncExternally 0)
  · rintro v' ⟨_, ⟨t', hl', rfl⟩, rfl⟩
    exact ⟨t', hl', rfl⟩

variable (hm : s.Mirrors v.original t v.external)

include hm

theorem saveRecord (internal_id : Option Nat) (form_data : List (Str × Value)) :
    Returns (saveRecord 0 internal_id form_data true) (fun _ => s.Seen (Copied s v)) w := by
  refine h.atomic_copied fun w h => ?_
  refine (h.writeRecord ht hl _ _).bind fun _ w₁ ⟨t', hl', h₁⟩ => ?_
  refine returns_bind (h₁.incrementMinorVersion hsame) (fun _ v₂ w₂ hv₂ h₂ => ?_) fun _ => ?_
  · subst hv₂
    refine wp_mono (h₂.syncExternally (t := t') (u := t) (Function.update_self ..) hl' hl
      (hsame ▸ hm)) (fun _ _ hs => hs.mono ?_) fun _ _ _ => trivial
    rintro v₃ ⟨external, hm', rfl⟩
    exact ⟨t', external, hl', hm', rfl⟩
  · exact Steps.whenever (Closed.syncExternally 0)

theorem deleteAndSync (keep : Nat → Bool) :
    Returns (do
      let o ← datasetObject 0
      ReferenceData.deleteRecords .default o.row.table_name keep
      ReferenceData.syncExternally 0
      ReferenceData.saveDataset 0) (fun _ => s.Seen (Copied s v)) w := by
  refine wp_bind.mpr (wp_datasetObject.mpr ?_)
  rw [h.table_name]
  refine (h.deleteRecords ht hl keep).bind fun _ w₁ ⟨t', hl', h₁⟩ => ?_
  refine returns_bind (h₁.syncExternally (t := t') (u := t) (Function.update_self ..) hl' hl
    (hsame ▸ hm)) ?_ fun _ => Closed.saveDataset 0
  rintro _ v₂ w₂ ⟨external, hm', rfl⟩ h₂
  refine wp_mono (h₂.saveDataset_same hsame) (fun _ _ hs => hs.mono ?_) fun _ _ _ => trivial
  rintro v₃ rfl
  exact ⟨t', external, hl', hm', rfl⟩

theorem deleteRecord (internal_id : Nat) :
    Returns (deleteRecord 0 internal_id) (fun _ => s.Seen (Copied s v)) w := by
  refine h.atomic_copied fun w h => ?_
  refine returns_bind (h.incrementMinorVersion hsame) (fun _ v₁ w₁ hv₁ h₁ => ?_) fun _ => ?_
  · subst hv₁
    refine h₁.getRecords.bind fun records w₂ ⟨_, h₂⟩ => ?_
    refine wp_bind.mpr (wp_whenever (fun _ => returns_throw) fun _ => ?_)
    exact h₂.deleteAndSync hsame ht hl hm _
  · refine .bind (Closed.getRecords 0) fun records => .bind (.whenever (.throw _)) fun _ => ?_
    exact traced_deleteAndSync _

theorem deleteAllRecords :
    Returns (deleteAllRecords 0) (fun _ => s.Seen (Copied s v)) w := by
  refine h.atomic_copied fun w h => ?_
  refine returns_bind (h.incrementMinorVersion hsame) (fun _ v₁ w₁ hv₁ h₁ => ?_) fun _ => ?_
  · subst hv₁
    refine h₁.recordModelClass.bind fun model w₂ ⟨_, h₂⟩ => ?_
    exact h₂.deleteAndSync hsame ht hl hm _
  · exact .bind (MethodClosed.recordModelClass 0) fun model => traced_deleteAndSync _

end

end At

end Subject

end ReferenceData
