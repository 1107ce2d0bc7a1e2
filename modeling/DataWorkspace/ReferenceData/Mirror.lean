import DataWorkspace.ReferenceData.Copying

/-!
# The copy of a dataset in its external database

Operations on a dataset write to two databases, of which only the local one is in their
transaction.  `mirrored_of_settled` says that the external database holds a copy of the
records after every run of operations, as long as none raises after it changed an
external database or committed a record, and no `DROP TABLE` is refused.
-/

namespace ReferenceData

open Py Sql

namespace Subject

variable {s : Subject} {v : View} {w w' : World}

/-! ## Where saving a record raises -/

/-- What saving a record without syncing leaves as it was, wherever it raises. -/
structure Off (s : Subject) (v : View) (w : World) : Prop where
  sound : s.Sound w
  pk : (w.dataset_objects 0).pk = some s.pk
  external_database : (w.dataset_objects 0).row.external_database = v.external_database
  original : (w.dataset_objects 0)._original_ext_db = v.original
  original_table_name : (w.dataset_objects 0)._original_table_name = s.table_name
  external : w.external = v.external

theorem At.off (h : s.At v w) : s.Off v w :=
  ⟨h.sound, h.pk, h.external_database, h.original, h.original_table_name, h.external⟩

theorem Off.rebuilt (h : s.Off v w) (hr : s.Rebuilt w w') : s.Off v w' where
  sound := h.sound.rebuilt hr
  pk := hr.dataset_objects ▸ h.pk
  external_database := hr.dataset_objects ▸ h.external_database
  original := hr.dataset_objects ▸ h.original
  original_table_name := hr.dataset_objects ▸ h.original_table_name
  external := hr.external ▸ h.external

/-- A run that leaves it as it was. -/
def Leaves (s : Subject) (v : View) (w w' : World) : Prop := s.Off v w → s.Off v w'

theorem leaves_of {α : Type} {m : M α}
    (h : ∀ w, s.Off v w → wp m (fun _ => s.Off v) (fun _ => s.Off v) w) :
    Steps (s.Leaves v) m := by
  intro w
  by_cases hw : s.Off v w
  · exact wp_mono (h w hw) (fun _ _ h' _ => h') fun _ _ h' _ => h'
  · unfold wp
    split
    next => exact fun hw' => absurd hw' hw
    next => exact fun hw' => absurd hw' hw

instance leavesClosed : ReadClosed (s.Leaves v) where
  refl := fun _ => id
  trans := fun _ _ _ h h' => h' ∘ h
  query := fun _ _ => leaves_of fun _ h =>
    wp_query_rebuilt (fun _ _ _ hr => h.rebuilt hr) fun _ _ hr => h.rebuilt hr
  recordModelClass := fun self => leaves_of fun _ h =>
    wp_mono (recordModelClass_rebuilt h.sound self) (fun _ _ hr => h.rebuilt hr.2)
      fun _ _ hr => h.rebuilt hr

theorem leaves_changeTable (kind : Kind) (name : Str)
    (f : World → Table → Except Exn (Option Table)) :
    Steps (s.Leaves v) (changeTable ⟨.default, kind⟩ name f) := leaves_of fun w h => by
  refine wp_execute (fun w' hw' _ _ => ?_) fun _ _ _ => h.rebuilt (.of_same rfl)
  obtain ⟨t, _, hw'⟩ := bind_eq_ok.mp hw'
  obtain ⟨t', _, hw'⟩ := bind_eq_ok.mp hw'
  obtain rfl := Except.ok.inj hw'
  have hs := h.sound
  exact ⟨⟨hs.fields, hs.rows, hs.stored, hs.objects, hs.next_id, hs.registry⟩, h.pk,
    h.external_database, h.original, h.original_table_name, h.external⟩

theorem leaves_atomic {m : M PUnit} (hm : Steps (s.Leaves v) m) :
    Steps (s.Leaves v) (atomic m) := leaves_of fun w h => by
  have hcongr : ∀ {w w' : World}, s.Off v w → s.Sound w' →
      w'.dataset_objects = w.dataset_objects → w'.external = w.external → s.Off v w' :=
    fun h hs ho he => ⟨hs, ho ▸ h.pk, ho ▸ h.external_database, ho ▸ h.original,
      ho ▸ h.original_table_name, he ▸ h.external⟩
  have hopen : s.Off v { w with depth := w.depth + 1 } :=
    hcongr h (h.sound.congr rfl rfl rfl rfl) rfl rfl
  refine wp_atomic (wp_mono (hm _) (fun _ w' h' => ?_) fun _ w' h' => ?_)
  · refine ⟨fun _ _ => hcongr (h' hopen) ((h' hopen).sound.congr rfl rfl rfl rfl) rfl rfl, ?_⟩
    exact fun _ _ _ => hcongr (h' hopen) ((h.sound.rollback (h' hopen).sound).congr rfl rfl rfl rfl)
      rfl rfl
  · exact hcongr (h' hopen) (h.sound.rollback (h' hopen).sound) rfl rfl

theorem Off.setObject (h : s.Off v w) {o : DatasetObject} (hpk : o.pk = some s.pk)
    (hrow : s.IsRow s.pk o.row) (he : o.row.external_database = v.external_database)
    (ho : o._original_ext_db = v.original) (ht : o._original_table_name = s.table_name) :
    s.Off v (w.setObject 0 o) where
  sound := h.sound.setObject 0 fun pk hpk' => Option.some.inj (hpk.symm.trans hpk') ▸ hrow
  pk := by rw [setObject_self]; exact hpk
  external_database := by rw [setObject_self]; exact he
  original := by rw [setObject_self]; exact ho
  original_table_name := by rw [setObject_self]; exact ht
  external := h.external

theorem Off.isRow (h : s.Off v w) : s.IsRow s.pk (w.dataset_objects 0).row :=
  h.sound.objects 0 s.pk h.pk

theorem leaves_setRow {f : ReferenceDataset → ReferenceDataset}
    (hf : ∀ row, (f row).table_name = row.table_name ∧
      row.schema_version ≤ (f row).schema_version ∧
      (f row).external_database = row.external_database) :
    Steps (s.Leaves v) (setRow 0 f) := leaves_of fun _ h =>
  wp_setDatasetObject.mpr (h.setObject h.pk (h.isRow.congr (hf _).1 (hf _).2.1)
    ((hf _).2.2.trans h.external_database) h.original h.original_table_name)

theorem leaves_publishRow (original_published create : Bool) :
    Steps (s.Leaves v) (publishRow 0 original_published create) := leaves_of fun w h => by
  have hrow := h.isRow.managed original_published create w.now
  have hext := (managePublished_external_database (w.dataset_objects 0).row original_published
    create w.now).trans h.external_database
  refine wp_publishRow _ rfl (fun pk next_id faults log hpk => ?_) fun _ _ _ => ?_
  · rcases hpk with ⟨hpk, rfl⟩ | ⟨hpk, _⟩
    · obtain rfl : pk = s.pk := Option.some.inj (hpk.symm.trans h.pk)
      have hset := h.setObject (o := { w.managed 0 original_published create with pk := some s.pk })
        rfl hrow hext h.original h.original_table_name
      exact ⟨h.sound.publish hrow (le_refl _), hset.pk, hset.external_database, hset.original,
        hset.original_table_name, hset.external⟩
    · exact absurd (hpk.symm.trans h.pk) nofun
  · exact (h.setObject (o := w.managed 0 original_published create) h.pk hrow hext h.original
      h.original_table_name).rebuilt (.of_same rfl)

theorem leaves_saveDataset (hsame : v.original = v.external_database) :
    Steps (s.Leaves v) (saveDataset 0) := by
  refine leaves_atomic (leaves_of fun w h => wp_bind.mpr (wp_datasetObject.mpr ?_))
  rw [h.pk]
  refine wp_mono ((?_ : Steps (s.Leaves v) _) w) (fun _ _ h' => h' h) fun _ _ h' => h' h
  refine .bind (.whenever (leaves_setRow fun _ => ⟨rfl, Nat.le_succ _, rfl⟩)) fun _ => ?_
  refine .bind (leaves_publishRow _ _) fun _ => ?_
  refine .bind (ReadClosed.recordModelClass 0) fun model => ?_
  refine .bind (leaves_of fun w h => ?_) fun _ => ?_
  · refine wp_bind.mpr (wp_datasetObject.mpr (wp_bind.mpr ?_))
    have hnames := h.original_table_name.trans (h.isRow.1.mp rfl).symm
    refine wp_whenever (fun hne => ?_) fun _ => wp_whenever (fun _ => ?_) fun _ => h
    · rw [h.external_database, h.original, hsame] at hne
      simp at hne
    · refine wp_forEach (fun _ => s.Off v) (fun _ db _ w' _ h' => ?_) h fun _ h' => h'
      exact wp_whenever (fun hne => by simp [hnames] at hne) fun _ => h'
  · refine .bind (leaves_of fun w h => wp_setDatasetObject.mpr ?_) fun _ => ?_
    · exact h.setObject (o := (w.dataset_objects 0).remembered) h.pk h.isRow h.external_database
        (h.external_database.trans hsame.symm) (h.isRow.1.mp rfl)
    · refine .bind (QueryClosed.query _ _) fun _ => leaves_of fun w h => ?_
      refine wp_execute (fun w' hw' _ _ => ?_) fun _ _ _ => h.rebuilt (.of_same rfl)
      exact Except.ok.inj hw' ▸ h.rebuilt (.of_same rfl)

theorem leaves_saveRecord (hsame : v.original = v.external_database)
    (internal_id : Option Nat) (form_data : List (Str × Value)) :
    Steps (s.Leaves v) (saveRecord 0 internal_id form_data false) := by
  refine leaves_atomic (.bind ?_ fun _ => .bind ?_ fun _ => .pure _)
  · refine .bind (ReadClosed.recordModelClass 0) fun model => ?_
    refine .bind (Closed.datasetObject 0) fun o => ?_
    cases internal_id with
    | none =>
        refine .bind .get fun w => .bind (leaves_changeTable _ _ _) fun _ => ?_
        refine .modify fun w h => ?_
        have hs := h.sound
        exact ⟨⟨hs.fields, hs.rows, hs.stored, hs.objects, Nat.lt_succ_of_lt hs.next_id,
          hs.registry⟩, h.pk, h.external_database, h.original, h.original_table_name, h.external⟩
    | some id => exact .bind (leaves_changeTable _ _ _) fun _ => QueryClosed.query _ _
  · exact .bind (leaves_setRow fun _ => ⟨rfl, le_refl _, rfl⟩) fun _ => leaves_saveDataset hsame

theorem atomic_restores {α : Type} (m : M α) (w : World) :
    wp (atomic m) (fun _ _ => True) (fun _ w' => w'.db = w.db ∧ w'.depth = w.depth) w := by
  refine wp_atomic ?_
  unfold wp
  split
  next => exact ⟨fun _ _ => trivial, fun _ _ _ => ⟨rfl, rfl⟩⟩
  next => exact ⟨rfl, rfl⟩

theorem Off.at (h : s.Off v w') (h₀ : s.At v w) (hdb : w'.db = w.db) (hd : w'.depth = w.depth) :
    s.At v w' :=
  ⟨h.sound, h.pk, h.external_database, h.original, h.original_table_name, hdb ▸ h₀.stored,
    hd.trans h₀.depth, hdb ▸ h₀.tables, h.external⟩

/-! ## Uploading records -/

/-- A run that only builds record models. -/
def Reads (s : Subject) (v : View) (w w' : World) : Prop := s.At v w → s.At v w'

theorem reads_of {α : Type} {m : M α}
    (h : ∀ w, s.At v w → wp m (fun _ w' => s.Rebuilt w w') (fun _ w' => s.Rebuilt w w') w) :
    Steps (s.Reads v) m := by
  intro w
  by_cases hw : s.At v w
  · exact wp_mono (h w hw) (fun _ _ hr _ => hw.rebuilt hr) fun _ _ hr _ => hw.rebuilt hr
  · unfold wp
    split
    next => exact fun hw' => absurd hw' hw
    next => exact fun hw' => absurd hw' hw

instance readsClosed : ReadClosed (s.Reads v) where
  refl := fun _ => id
  trans := fun _ _ _ h h' => h' ∘ h
  query := fun _ _ => reads_of fun _ _ => wp_query_rebuilt (fun _ _ _ hr => hr) fun _ _ hr => hr
  recordModelClass := fun self => reads_of fun _ h =>
    wp_mono (recordModelClass_rebuilt h.sound self) (fun _ _ hr => hr.2) fun _ _ hr => hr

/-- What is left where records were only saved locally. -/
def Saved (s : Subject) (v v' : View) : Prop :=
  ∃ t, s.Lays t ∧ v' = { v with
    stored := v.external_database
    tables := Function.update v.tables s.table_name (some t) }

theorem saved_refl {t : Table} (hl : s.Lays t) (hstored : v.stored = v.external_database)
    (ht : v.tables s.table_name = some t) : s.Saved v v := by
  refine ⟨t, hl, ?_⟩
  obtain ⟨external_database, original, stored, depth, tables, external⟩ := v
  obtain rfl : stored = external_database := hstored
  have htables : Function.update tables s.table_name (some t) = tables := by
    rw [← ht, Function.update_eq_self]
  simp only [htables]

section

variable (hsame : v.original = v.external_database)

include hsame

theorem At.uploadRow (h : s.At v w) {v₀ : View} (hv : s.Saved v₀ v) (row : CleanedRow) :
    Returns (uploadRow 0 row) (fun _ => s.Seen (s.Saved v₀)) w := by
  cases row with
  | raised e => exact returns_throw
  | cleaned errors form_data =>
      have hread : Returns (getRecordByCustomId 0 form_data) (fun _ => s.At v) w :=
        wp_mono (Closed.getRecordByCustomId (R := s.Reads v) 0 form_data w)
          (fun _ _ hr => hr h) fun _ _ _ => trivial
      refine hread.bind fun record_id w₁ h₁ => ?_
      refine returns_bind (P := s.Saved v₀) ?_ (fun _ v₂ w₂ hv₂ h₂ => ?_) fun _ => ?_
      · refine wp_whenever (fun _ => ?_) fun _ => h₁.seen hv
        obtain ⟨t, hl, rfl⟩ := hv
        have hsave := h₁.saveRecord_local hsame (Function.update_self ..) hl record_id form_data
        have hraise := wp_and (leaves_saveRecord (s := s) hsame record_id form_data w₁)
          (atomic_restores _ w₁)
        refine wp_catching (wp_mono (wp_and hsave hraise) (fun _ _ h => ?_) fun _ w₂ h => ?_)
        · refine h.1.mono ?_
          rintro v' ⟨t', hl', rfl⟩
          exact ⟨t', hl', by simp⟩
        · refine ⟨fun _ => ?_, nofun⟩
          obtain ⟨_, hoff, hdb, hd⟩ := h
          exact ((hoff h₁.off).at h₁ hdb hd).seen ⟨t, hl, rfl⟩
      · exact (h₂.executeOk _).mono fun _ w₃ h₃ => h₃.seen hv₂
      · exact Closed.execute _ _ fun w w' h => Or.inl (Except.ok.inj h).symm

theorem At.uploadRecords (h : s.At v w) {t : Table} (hstored : v.stored = v.external_database)
    (ht : v.tables s.table_name = some t) (hl : s.Lays t)
    (hm : s.Mirrors v.original t v.external) (rows : List CleanedRow) :
    Returns (uploadRecords 0 rows) (fun _ => s.Seen (At.Copied s v)) w := by
  refine h.recordModelClass.bind fun model w₁ ⟨_, h₁⟩ => ?_
  refine (h₁.query _ _).bind fun _ w₂ ⟨_, h₂⟩ => ?_
  refine (h₂.executeOk _).bind fun _ w₃ h₃ => ?_
  refine returns_bind (P := s.Saved v) (returns_forEach rows (h₃.seen (saved_refl hl hstored ht)) ?_ ?_) ?_ ?_
  · exact fun row v' w' hv' h' => h'.uploadRow (by obtain ⟨_, _, rfl⟩ := hv'; exact hsame) hv' row
  · exact Closed.uploadRow 0
  · rintro _ v₄ w₄ ⟨t', hl', rfl⟩ h₄
    refine wp_mono (h₄.syncExternally (t := t') (u := t) (Function.update_self ..) hl' hl
      (hsame ▸ hm)) (fun _ _ hs => hs.mono ?_) fun _ _ _ => trivial
    rintro v₅ ⟨external, hm', rfl⟩
    exact ⟨t', external, hl', hm', rfl⟩
  · exact fun _ => Closed.syncExternally 0

end

/-! ## Where an upload raises -/

end Subject

/-- A run that starts outside of a transaction, and either leaves the local database as it
was or commits. -/
structure Held (w w' : World) : Prop where
  depth : w.depth = 0 → w'.depth = 0
  log : ∀ entry ∈ w.log, entry ∈ w'.log
  db : w.depth = 0 → w'.db = w.db ∨ ∃ entry ∈ w'.log, entry.1.kind = .commit ∧ entry.2 = true

namespace Held

variable {w w' w'' : World}

theorem of_same (hdb : w'.db = w.db) (hd : w'.depth = w.depth)
    (hl : ∀ entry ∈ w.log, entry ∈ w'.log) : Held w w' :=
  ⟨fun h => hd.trans h, hl, fun _ => Or.inl hdb⟩

theorem trans (h : Held w w') (h' : Held w' w'') : Held w w'' where
  depth := fun hd => h'.depth (h.depth hd)
  log := fun entry he => h'.log entry (h.log entry he)
  db := by
    intro hd
    rcases h'.db (h.depth hd) with hdb' | hc
    · rcases h.db hd with hdb | ⟨entry, he, hc⟩
      · exact Or.inl (hdb'.trans hdb)
      · exact Or.inr ⟨entry, h'.log entry he, hc⟩
    · exact Or.inr hc

theorem statement {α : Type} (st : Statement) (f : World → Except Exn (α × World))
    (allowed : ∀ w a w', f w = .ok (a, w') → w' = w ∨
      ∃ ext tables, w' = w.withTables (.external ext) tables) :
    Steps Held (ReferenceData.statement st f) := by
  intro w
  refine wp_statement_exact (fun a w' hw => ?_) fun _ _ => ?_
  · rcases allowed w a w' hw with rfl | ⟨ext, tables, rfl⟩
    · exact of_same rfl rfl fun _ => List.mem_append_left _
    · exact of_same rfl rfl fun _ => List.mem_append_left _
  · exact of_same rfl rfl fun _ => List.mem_append_left _

instance queryClosed : QueryClosed Held where
  refl := fun _ => of_same rfl rfl fun _ => id
  trans := fun _ _ _ => trans
  query := fun db f => statement _ _ fun w a w' h => by
    obtain ⟨b, _, hb⟩ := map_eq_ok.mp h
    exact Or.inl (Prod.mk.inj hb).2.symm

instance readClosed : ReadClosed Held where
  recordModelClass := Closed.recordModelClass_of_register fun _ _ _ =>
    of_same rfl rfl fun _ => id

theorem atomic {α : Type} {m : M α} (hm : Steps Traced m) : Steps Held (ReferenceData.atomic m) := by
  intro w
  refine wp_atomic_exact (wp_mono (hm _) (fun a w' h => ?_) fun e w' h => ?_)
  · have hdepth : w'.depth - 1 = w.depth := by
      rw [h.depth]
      rfl
    have hlog : ∀ entry ∈ w.log, entry ∈ w'.log := fun entry he => h.mem_log he
    refine ⟨⟨fun hd => hdepth.trans hd, ?_, fun hd => Or.inr ?_⟩, fun e => ?_⟩
    · exact fun entry he => List.mem_append_left _ (hlog entry he)
    · exact ⟨_, List.mem_append_right _ List.mem_cons_self, if_pos (hdepth.trans hd), rfl⟩
    · exact of_same rfl rfl fun entry he => List.mem_append_left _ (hlog entry he)
  · exact of_same rfl rfl fun entry he => h.mem_log he

theorem changeTable (ext : Str) (kind : Kind) (name : Str)
    (f : World → Table → Except Exn (Option Table)) :
    Steps Held (ReferenceData.changeTable ⟨.external ext, kind⟩ name f) := by
  refine statement _ _ fun w a w' h => ?_
  obtain ⟨w₁, h₁, heq⟩ := map_eq_ok.mp h
  obtain ⟨_, rfl⟩ := Prod.mk.inj heq
  obtain ⟨t, _, h₁⟩ := bind_eq_ok.mp h₁
  obtain ⟨t', _, h₁⟩ := bind_eq_ok.mp h₁
  exact Or.inr ⟨ext, _, (Except.ok.inj h₁).symm⟩

theorem executeOk (st : Statement) : Steps Held (execute st .ok) := by
  refine statement _ _ fun w a w' h => Or.inl ?_
  obtain ⟨w₁, h₁, heq⟩ := map_eq_ok.mp h
  obtain ⟨_, rfl⟩ := Prod.mk.inj heq
  exact (Except.ok.inj h₁).symm

theorem syncExternally (self : Nat) : Steps Held (syncExternally self) := by
  refine .bind (Closed.datasetObject self) fun o => .forSome fun ext => ?_
  refine .bind (ReadClosed.recordModelClass self) fun model => ?_
  refine .bind (Closed.getRecords self) fun records => ?_
  refine .bind (Closed.datasetObject self) fun o => ?_
  refine .bind (.forEach (fun record => ?_) _) fun _ => changeTable _ _ _ _
  refine .bind (Closed.datasetPk self) fun pk => ?_
  refine .bind (Closed.datasetObject self) fun o => ?_
  refine .bind (Closed.query _ _) fun fields => ?_
  refine .bind (Closed.recordData _ _ _) fun data => ?_
  refine .bind (Closed.query _ _) fun saved => ?_
  split
  next => exact changeTable _ _ _ _
  next => exact changeTable _ _ _ _

theorem saveRecord (self : Nat) (internal_id : Option Nat) (form_data : List (Str × Value))
    (sync_externally : Bool) :
    Steps Held (saveRecord self internal_id form_data sync_externally) := by
  refine atomic (.bind (Closed.writeRecord self _ _) fun _ => ?_)
  exact .bind (Closed.incrementMinorVersion self) fun _ => .whenever (Closed.syncExternally self)

theorem uploadRecords (self : Nat) (rows : List CleanedRow) :
    Steps Held (uploadRecords self rows) := by
  refine .bind (ReadClosed.recordModelClass self) fun _ => ?_
  refine .bind (Closed.query _ _) fun _ => .bind (executeOk _) fun _ => ?_
  refine .bind (.forEach (fun row => ?_) _) fun _ => syncExternally self
  cases row with
  | raised e => exact .throw e
  | cleaned errors form_data =>
      refine .bind (Closed.getRecordByCustomId self form_data) fun record_id => ?_
      refine .bind (.whenever (.catching ?_ fun _ => .pure _)) fun _ => executeOk _
      exact saveRecord self _ _ _

theorem deleteRecord (self internal_id : Nat) : Steps Held (deleteRecord self internal_id) := by
  refine atomic (.bind (Closed.incrementMinorVersion self) fun _ => ?_)
  refine .bind (Closed.getRecords self) fun records => .bind (.whenever (.throw _)) fun _ => ?_
  refine .bind (Closed.datasetObject self) fun o => .bind (Closed.changeTable _ _ _ nofun) fun _ => ?_
  exact .bind (Closed.syncExternally self) fun _ => Closed.saveDataset self

theorem deleteAllRecords (self : Nat) : Steps Held (deleteAllRecords self) := by
  refine atomic (.bind (Closed.incrementMinorVersion self) fun _ => ?_)
  refine .bind (MethodClosed.recordModelClass self) fun model => ?_
  refine .bind (Closed.datasetObject self) fun o => .bind (Closed.changeTable _ _ _ nofun) fun _ => ?_
  exact .bind (Closed.syncExternally self) fun _ => Closed.saveDataset self

end Held

/-! ## Operations -/

/-- The form of a dataset is saved, in which the table name cannot be changed. -/
def saveForm (self : Nat) (published : Bool) (external_database : Option Str)
    (sort_field : Option Nat) (sort_descending : Bool) : M PUnit := do
  let o ← datasetObject self
  editDataset self ⟨published, o.row.table_name, external_database, sort_field, sort_descending⟩
  saveDataset self

/-- The operations on a dataset. -/
inductive Operation where
  | saveRecord (internal_id : Option Nat) (form_data : List (Str × Value))
  | deleteRecord (internal_id : Nat)
  | deleteAllRecords
  | uploadRecords (rows : List CleanedRow)
  | saveForm (published : Bool) (external_database : Option Str) (sort_field : Option Nat)
      (sort_descending : Bool)
deriving DecidableEq, Repr

/-- What an operation does with the object it loaded. -/
def Operation.call : Operation → M PUnit
  | .saveRecord internal_id form_data => ReferenceData.saveRecord 0 internal_id form_data true
  | .deleteRecord internal_id => ReferenceData.deleteRecord 0 internal_id
  | .deleteAllRecords => ReferenceData.deleteAllRecords 0
  | .uploadRecords rows => ReferenceData.uploadRecords 0 rows
  | .saveForm published external_database sort_field sort_descending =>
      ReferenceData.saveForm 0 published external_database sort_field sort_descending

/-- Whether all of an operation is in one transaction, as the pages of the admin are. -/
def Operation.inTransaction : Operation → Bool
  | .saveForm _ _ _ _ => true
  | _ => false

/-- An operation on the dataset with a key. -/
def Operation.body (op : Operation) (pk : Nat) : M PUnit :=
  let run : M PUnit := do
    loadDataset 0 pk
    op.call
  if op.inTransaction then atomic run else run

def Operation.run (op : Operation) (pk : Nat) (env : Environment) (st : Stored) : Stored :=
  st.close env (endOf (op.body pk) (st.open env))

/-- The external database of a dataset has a copy of its record table, and no other one
has a table of that name. -/
def Mirrored (st : Stored) (pk : Nat) : Prop :=
  ∃ row t, st.db.datasets.get? pk = some row ∧ st.db.tables row.table_name = some t ∧
    (∀ e, row.external_database = some e →
      ∃ t', st.external e row.table_name = some t' ∧ t'.Copies t) ∧
    ∀ e, row.external_database ≠ some e → st.external e row.table_name = none

/-- No external database was changed so far, and nothing was committed. -/
def World.Untouched (w : World) : Prop :=
  ∀ entry ∈ w.log, ¬ changedExternal entry ∧ ¬ (entry.1.kind = .commit ∧ entry.2 = true)

/-- An operation that raises before it changes an external database or commits, or that
returns and has dropped what it was to drop. -/
structure Operation.Settled (op : Operation) (pk : Nat) (env : Environment) (st : Stored) :
    Prop where
  ends : wp (op.body pk) (fun _ => World.Dropped) (fun _ => World.Untouched) (st.open env)

namespace Subject

variable {s : Subject} {v : View} {w w' : World} {st : Stored} {env : Environment}

/-- What is stored where the dataset is mirrored, its record table has the columns that
its fields describe, and no process takes another model class for current. -/
structure Ready (s : Subject) (st : Stored) : Prop where
  fields : st.db.fields = s.fields
  rows : ∀ pk row, st.db.datasets.get? pk = some row → s.IsRow pk row
  next_id : s.pk < st.next_id
  registries : ∀ p model, st.registries p s.table_name = some model → s.Fits model
  mirrored : ∃ row t, st.db.datasets.get? s.pk = some row ∧
    st.db.tables s.table_name = some t ∧ s.Lays t ∧
    s.Mirrors row.external_database t st.external

theorem Ready.mirrored_dataset (h : s.Ready st) : Mirrored st s.pk := by
  obtain ⟨row, t, hrow, ht, _, hm⟩ := h.mirrored
  have hname := (h.rows s.pk row hrow).1.mp rfl
  exact ⟨row, t, hrow, hname ▸ ht, hname ▸ hm.copy, hname ▸ hm.gone⟩

theorem Ready.sound (h : s.Ready st) : s.Sound (st.open env) where
  fields := h.fields
  rows := h.rows
  stored := by
    obtain ⟨row, _, hrow, _⟩ := h.mirrored
    exact ⟨row, hrow⟩
  objects := fun _ _ hpk => by cases hpk
  next_id := h.next_id
  registry := h.registries env.process

theorem Ready.close (h : s.Ready st) (hs : s.Sound w)
    (hm : ∃ row t, w.db.datasets.get? s.pk = some row ∧ w.db.tables s.table_name = some t ∧
      s.Lays t ∧ s.Mirrors row.external_database t w.external) : s.Ready (st.close env w) where
  fields := hs.fields
  rows := hs.rows
  next_id := hs.next_id
  registries := by
    intro p model hp
    by_cases hpe : p = env.process
    · subst hpe
      refine hs.registry model ?_
      simpa [Stored.close] using hp
    · refine h.registries p model ?_
      simpa [Stored.close, Function.update_of_ne hpe] using hp
  mirrored := hm

theorem Ready.close_same (h : s.Ready st) (hs : s.Sound w) (hdb : w.db = st.db)
    (he : w.external = st.external) : s.Ready (st.close env w) :=
  h.close hs (by rw [hdb, he]; exact h.mirrored)

theorem Ready.close_at (h : s.Ready st) (hw : s.At v w)
    (hm : ∃ t, v.tables s.table_name = some t ∧ s.Lays t ∧ s.Mirrors v.stored t v.external) :
    s.Ready (st.close env w) := by
  obtain ⟨row, hrow, he⟩ := hw.stored
  obtain ⟨t, ht, hl, hm⟩ := hm
  exact h.close hw.sound ⟨row, t, hrow, hw.tables ▸ ht, hl, he ▸ hw.external ▸ hm⟩

/-! ## Loading the dataset -/

theorem Sound.loadDataset (h : s.Sound w) {row : ReferenceDataset}
    (hrow : w.db.datasets.get? s.pk = some row) :
    wp (loadDataset 0 s.pk)
      (fun _ => s.At ⟨row.external_database, row.external_database, row.external_database,
        w.depth, w.db.tables, w.external⟩) (fun _ => s.Sound) w := by
  refine wp_bind.mpr (wp_query (fun row' hrow' faults log => ?_) fun _ _ _ =>
    h.congr rfl rfl rfl rfl)
  rw [hrow] at hrow'
  obtain rfl := Except.ok.inj hrow'
  refine wp_bind.mpr (wp_get.mpr (wp_setDatasetObject.mpr ?_))
  have hread : s.Sound { w with faults := faults, log := log } := h.congr rfl rfl rfl rfl
  have hs := hread.setObject 0 (o := .init w.db (some s.pk) row)
    fun pk hpk => Option.some.inj hpk ▸ h.rows s.pk row hrow
  have hobj := setObject_self { w with faults := faults, log := log } 0
    (.init w.db (some s.pk) row)
  refine ⟨hs, congrArg DatasetObject.pk hobj, ?_, ?_, ?_, ⟨row, hrow, rfl⟩, rfl, rfl, rfl⟩
  · exact congrArg (fun o => o.row.external_database) hobj
  · exact congrArg DatasetObject._original_ext_db hobj
  · exact (congrArg DatasetObject._original_table_name hobj).trans
      ((h.rows s.pk row hrow).1.mp rfl)

/-! ## What every run of an operation does -/

theorem keeps_loadDataset : Steps s.Keeps (loadDataset 0 s.pk) := by
  intro w
  by_cases h : s.Sound w
  · obtain ⟨row, hrow⟩ := h.stored
    exact wp_mono (h.loadDataset hrow) (fun _ _ h' _ => h'.sound) fun _ _ h' _ => h'
  · unfold wp
    split
    next => exact fun h' => absurd h' h
    next => exact fun h' => absurd h' h

theorem keeps_saveForm (published : Bool) (external_database : Option Str)
    (sort_field : Option Nat) (sort_descending : Bool) :
    Steps s.Keeps (saveForm 0 published external_database sort_field sort_descending) := by
  intro w
  refine wp_bind.mpr (wp_datasetObject.mpr (wp_bind.mpr (wp_bind.mpr (wp_get.mpr ?_))))
  refine wp_setDatasetObject.mpr (wp_mono (Closed.saveDataset (R := s.Keeps) 0 _) ?_ ?_)
  all_goals
    intro _ _ h hs
    refine h (hs.setObject 0 fun pk hpk => ?_)
    exact (hs.objects 0 pk hpk).congr rfl (le_refl _)

theorem keeps_body (op : Operation) : Steps s.Keeps (op.body s.pk) := by
  have hcall : Steps s.Keeps op.call := by
    cases op with
    | saveRecord => exact Closed.saveRecord 0 _ _ _
    | deleteRecord => exact Closed.deleteRecord 0 _
    | deleteAllRecords => exact Closed.deleteAllRecords 0
    | uploadRecords => exact Closed.uploadRecords 0 _
    | saveForm => exact keeps_saveForm _ _ _ _
  unfold Operation.body
  split
  next => exact MethodClosed.atomic (.bind keeps_loadDataset fun _ => hcall)
  next => exact .bind keeps_loadDataset fun _ => hcall

end Subject

theorem Traced.loadDataset (self pk : Nat) : Steps Traced (loadDataset self pk) :=
  .bind (Closed.query _ _) fun _ => .bind .get fun _ => .modify fun _ => of_same rfl rfl rfl

theorem Traced.body (op : Operation) (pk : Nat) : Steps Traced (op.body pk) := by
  have hcall : Steps Traced op.call := by
    cases op with
    | saveRecord => exact Closed.saveRecord 0 _ _ _
    | deleteRecord => exact Closed.deleteRecord 0 _
    | deleteAllRecords => exact Closed.deleteAllRecords 0
    | uploadRecords => exact Closed.uploadRecords 0 _
    | saveForm =>
        refine .bind (Closed.datasetObject 0) fun o => .bind ?_ fun _ => Closed.saveDataset 0
        exact .bind .get fun _ => .modify fun _ => of_same rfl rfl rfl
  unfold Operation.body
  split
  next => exact atomic (.bind (loadDataset 0 pk) fun _ => hcall)
  next => exact .bind (loadDataset 0 pk) fun _ => hcall

theorem Held.body (op : Operation) (pk : Nat) : Steps Held (op.body pk) := by
  have hload : Steps Held (loadDataset 0 pk) :=
    .bind (Closed.query _ _) fun _ => .bind .get fun _ => .modify fun _ =>
      of_same rfl rfl fun _ => id
  cases op with
  | saveRecord => exact .bind hload fun _ => saveRecord 0 _ _ _
  | deleteRecord => exact .bind hload fun _ => deleteRecord 0 _
  | deleteAllRecords => exact .bind hload fun _ => deleteAllRecords 0
  | uploadRecords => exact .bind hload fun _ => uploadRecords 0 _
  | saveForm =>
      refine atomic (.bind (Traced.loadDataset 0 pk) fun _ => ?_)
      refine .bind (Closed.datasetObject 0) fun o => .bind ?_ fun _ => Closed.saveDataset 0
      exact .bind .get fun _ => .modify fun _ => Traced.of_same rfl rfl rfl

namespace Subject

variable {s : Subject} {v : View} {w w' : World} {st : Stored} {env : Environment}

/-! ## Operations that return -/

/-- What there is to see where the dataset is mirrored. -/
def Whole (s : Subject) (v : View) : Prop :=
  ∃ t, v.tables s.table_name = some t ∧ s.Lays t ∧ s.Mirrors v.stored t v.external

theorem At.Copied.whole {v' : View} (h : At.Copied s v v') : s.Whole v' := by
  obtain ⟨t, external, hl, hm, rfl⟩ := h
  exact ⟨t, Function.update_self .., hl, hm⟩

theorem At.editDataset (h : s.At v w) (edit : Edit)
    (hname : edit.table_name = (w.dataset_objects 0).row.table_name) :
    Returns (editDataset 0 edit)
      (fun _ => s.At { v with external_database := edit.external_database }) w := by
  refine wp_bind.mpr (wp_get.mpr (wp_setDatasetObject.mpr ?_))
  have hrow : s.IsRow s.pk ((w.dataset_objects 0).row.edited edit) :=
    (h.sound.objects 0 s.pk h.pk).congr hname (le_refl _)
  have hset := h.setObject (o := { w.dataset_objects 0 with
    row := (w.dataset_objects 0).row.edited edit
    record_sort_order := recordSortOrder w.db ((w.dataset_objects 0).row.edited edit) })
    h.pk hrow h.original_table_name
  rw [h.original] at hset
  exact hset

theorem At.call (h : s.At v w) (hw : s.Whole v) (he : v.stored = v.external_database)
    (ho : v.original = v.external_database) (op : Operation) :
    Returns op.call (fun _ => s.Seen s.Whole) w := by
  obtain ⟨t, ht, hl, hm⟩ := hw
  have hm' : s.Mirrors v.original t v.external := (he.trans ho.symm) ▸ hm
  have hcopied : ∀ w', s.Seen (Copied s v) w' → s.Seen s.Whole w' := fun w' hs =>
    hs.mono fun _ hc => hc.whole
  cases op with
  | saveRecord internal_id form_data =>
      exact (h.saveRecord ho ht hl hm' _ _).mono fun _ => hcopied
  | deleteRecord internal_id => exact (h.deleteRecord ho ht hl hm' _).mono fun _ => hcopied
  | deleteAllRecords => exact (h.deleteAllRecords ho ht hl hm').mono fun _ => hcopied
  | uploadRecords rows =>
      exact (h.uploadRecords ho he ht hl hm' rows).mono fun _ => hcopied
  | saveForm published external_database sort_field sort_descending =>
      refine wp_bind.mpr (wp_datasetObject.mpr ?_)
      refine (h.editDataset _ rfl).bind fun _ w₁ h₁ => ?_
      refine (h₁.saveDataset ht hl hm').mono fun _ w' hs => hs.mono ?_
      rintro v' ⟨external, hm'', rfl⟩
      exact ⟨t, ht, hl, hm''⟩

theorem Ready.returns (h : s.Ready st) (op : Operation) :
    Returns (op.body s.pk) (fun _ => s.Seen s.Whole) (st.open env) := by
  obtain ⟨row, t, hrow, ht, hl, hm⟩ := h.mirrored
  have hrun : ∀ w, s.Sound w → w.db = st.db → w.external = st.external →
      Returns (do loadDataset 0 s.pk; op.call) (fun _ => s.Seen s.Whole) w := by
    intro w hs hdb he
    have hload := @Sound.loadDataset s w hs row (hdb ▸ hrow)
    refine wp_bind.mpr (wp_mono hload (fun _ w₁ h₁ => ?_) fun _ _ _ => trivial)
    exact h₁.call ⟨t, hdb ▸ ht, hl, he ▸ hm⟩ rfl rfl op
  unfold Operation.body
  split
  next =>
    refine (returns_atomic (hrun _ (h.sound.congr rfl rfl rfl rfl) rfl rfl)).mono fun _ w' hs =>
      hs.mono ?_
    rintro v' ⟨v₁, hw, rfl⟩
    exact hw
  next => exact hrun _ h.sound rfl rfl

theorem Ready.settled (h : s.Ready st) {op : Operation} (hs : op.Settled s.pk env st) :
    s.Ready (op.run s.pk env st) := by
  refine endOf_of_wp (P := fun w => s.Ready (st.close env w)) ?_
  have hend := wp_and (wp_and (h.returns op) (keeps_body op (st.open env)))
    (wp_and (Traced.body op s.pk (st.open env)) (Held.body op s.pk (st.open env)))
  refine wp_mono (wp_and hs.ends hend) (fun _ w hw => ?_) fun e w hw => ?_
  · obtain ⟨hdropped, ⟨hseen, _⟩, _⟩ := hw
    obtain ⟨v, hwhole, hat⟩ := hseen hdropped
    exact h.close_at hat hwhole
  · obtain ⟨huntouched, ⟨_, hsound⟩, htraced, hheld⟩ := hw
    obtain ⟨added, hlog, hquiet⟩ := htraced.log
    refine h.close_same (hsound h.sound) ?_ (hquiet fun entry he => ?_)
    · rcases hheld.db rfl with hdb | ⟨entry, he, hc⟩
      · exact hdb
      · exact absurd hc (huntouched entry he).2
    · exact (huntouched entry (hlog ▸ List.mem_append_right _ he)).1

end Subject

/-! ## Runs of operations -/

/-- What operations on a dataset lead to, each of which is settled in the state it comes
to. -/
inductive SettledRun (pk : Nat) : Stored → Stored → Prop where
  | refl (st : Stored) : SettledRun pk st st
  | operation {start st : Stored} (op : Operation) (env : Environment) :
      SettledRun pk start st → op.Settled pk env st →
      SettledRun pk start (op.run pk env st)

/-- In every run of operations that are settled, the external database of the dataset
holds the records of the local one, and no other holds a table of it. -/
theorem mirrored_of_settled {s : Subject} {start st : Stored} (hstart : s.Ready start)
    (h : SettledRun s.pk start st) : Mirrored st s.pk := by
  suffices hready : s.Ready st from hready.mirrored_dataset
  induction h with
  | refl => exact hstart
  | operation op env _ hsettled ih => exact ih.settled hsettled

/-- A dataset with one field, which is mirrored and has no records yet. -/
def newlyMirrored : Stored where
  db := {
    datasets := Dict.empty.set 1 { ReferenceDataset.default with
      table_name := ("ref_a" : Str), external_database := some ("ext" : Str) }
    fields := Dict.empty.set 2 {
      reference_dataset := 1
      data_type := .CHAR
      is_identifier := true
      name := ("Name" : Str)
      column_name := some ("name" : Str)
      required := false
      linked_reference_dataset_field := none
      relationship_name := none
      sort_order := 0 }
    tables := Function.update (fun _ => none) ("ref_a" : Str)
      (some ⟨[⟨("name" : Str), .varchar255, false⟩], .empty⟩) }
  external := Function.update (fun _ _ => none) ("ext" : Str)
    (Function.update (fun _ => none) ("ref_a" : Str)
      (some ⟨[⟨("name" : Str), .varchar255, false⟩], .empty⟩))
  next_id := 3
  registries := fun _ _ => none

/-- The dataset of `newlyMirrored`. -/
def newSubject : Subject where
  pk := 1
  table_name := ("ref_a" : Str)
  schema_version := 0
  fields := newlyMirrored.db.fields
  attrs := Dict.empty.set ("name" : Str) ⟨⟨("name" : Str), .varchar255, false⟩, false⟩
  described := by
    intro db h
    unfold Db.fieldsOf
    rw [h]
    rfl

theorem newSubject_ready : newSubject.Ready newlyMirrored where
  fields := rfl
  rows := by
    intro pk row hrow
    obtain rfl : pk = 1 := by
      by_contra hpk
      simp [newlyMirrored, Dict.get?_set, hpk] at hrow
      cases hrow
    obtain rfl := Option.some.inj hrow
    exact ⟨⟨fun _ => rfl, fun _ => rfl⟩, fun _ => Nat.zero_le _⟩
  next_id := by decide
  registries := nofun
  mirrored := by
    refine ⟨_, _, rfl, rfl, fun n => Iff.rfl, ⟨fun e he => ?_, fun e he => ?_⟩⟩
    · obtain rfl := Option.some.inj he
      exact ⟨_, rfl, fun n => Iff.rfl, fun id => .none⟩
    · have hne : e ≠ ("ext" : Str) := fun h => he (congrArg some h.symm)
      show Function.update (fun _ _ => none) ("ext" : Str) _ e _ = none
      rw [Function.update_of_ne hne]

def createRecord : Operation := .saveRecord none [(("name" : Str), some ("x" : Str))]

theorem Operation.settled_of_returns {op : Operation} {pk : Nat} {env : Environment}
    {st : Stored} (hok : ((op.body pk).run (st.open env)) matches .ok _ _)
    (hlog : ∀ entry ∈ (endOf (op.body pk) (st.open env)).log, entry.2 = true) :
    op.Settled pk env st := by
  refine ⟨?_⟩
  unfold wp
  unfold endOf at hlog
  unfold EStateM.run at hok
  cases hbody : op.body pk (st.open env) with
  | ok a w =>
      rw [hbody] at hlog
      exact fun st hst => absurd (hlog _ hst) nofun
  | error e w =>
      rw [hbody] at hok
      cases hok

theorem createRecord_settled : createRecord.Settled newSubject.pk .quiet newlyMirrored :=
  Operation.settled_of_returns (by decide +kernel) (by decide +kernel)

theorem mirrored_of_createRecord :
    Mirrored (createRecord.run newSubject.pk .quiet newlyMirrored) newSubject.pk :=
  mirrored_of_settled newSubject_ready
    (SettledRun.operation createRecord .quiet (SettledRun.refl _) createRecord_settled)

/-- The connection to the external database is lost before the last statement to it. -/
def connectionLost : Environment :=
  { Environment.quiet with
    faults := List.replicate 11 none ++ [some (.database .OperationalError)] }

/-- The record is in the external database, and not in the local one. -/
theorem not_mirrored_of_connectionLost :
    Mirrored newlyMirrored 1 ∧ ¬ Mirrored (createRecord.run 1 connectionLost newlyMirrored) 1 := by
  refine ⟨newSubject_ready.mirrored_dataset, fun ⟨row, t, hrow, ht, hcopy, _⟩ => ?_⟩
  have hnames : ((createRecord.run 1 connectionLost newlyMirrored).db.datasets.get? 1).map
      (fun row => (row.table_name, row.external_database)) =
        some (("ref_a" : Str), some ("ext" : Str)) := by decide +kernel
  have hlocal : ((createRecord.run 1 connectionLost newlyMirrored).db.tables ("ref_a" : Str)).map
      (fun t => t.records.contains 3) = some false := by decide +kernel
  have hexternal : ((createRecord.run 1 connectionLost newlyMirrored).external ("ext" : Str)
      ("ref_a" : Str)).map (fun t => t.records.contains 3) = some true := by decide +kernel
  rw [hrow] at hnames
  obtain ⟨hname, hext⟩ := Prod.mk.inj (Option.some.inj hnames)
  obtain ⟨t', ht', hc⟩ := hcopy _ hext
  rw [hname] at ht ht'
  rw [ht] at hlocal
  rw [ht'] at hexternal
  have hrel := hc.records 3
  simp only [Option.map_some, Option.some.injEq, Dict.contains] at hlocal hexternal
  rw [Option.isSome_eq_false_iff, Option.isNone_iff_eq_none] at hlocal
  obtain ⟨values, hvalues⟩ := Option.isSome_iff_exists.mp hexternal
  rw [hlocal, hvalues] at hrel
  cases hrel

end ReferenceData
