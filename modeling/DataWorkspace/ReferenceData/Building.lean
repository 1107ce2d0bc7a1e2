import DataWorkspace.ReferenceData.Requests

/-!
# The record model of a dataset whose fields stay

A process keeps the model classes it built and takes one for current when its schema
version is that of the dataset.  As long as the fields of a dataset stay as they are,
every class that is taken for current has the attributes that the fields describe,
whichever calls built it and however they ended.
-/

namespace ReferenceData

open Py Sql

/-! ## Datasets whose fields stay -/

/-- The attributes that fields describe. -/
def fieldAttrs : List ReferenceDatasetField → Dict Str ModelField → Option (Dict Str ModelField)
  | [], attrs => some attrs
  | f :: fields, attrs =>
      f.attrName.bind fun name => fieldAttrs fields (attrs.set name (f.modelField name))

structure Subject where
  pk : Nat
  table_name : Str
  /-- The schema version from which on the fields stay. -/
  schema_version : Nat
  fields : Dict Nat ReferenceDatasetField
  attrs : Dict Str ModelField
  described : ∀ db : Db, db.fields = fields →
    fieldAttrs ((db.fieldsOf pk).map Prod.snd) .empty = some attrs

namespace Subject

variable (s : Subject)

/-- Whether a key and a row may be of the dataset, or of another one. -/
def IsRow (pk : Nat) (row : ReferenceDataset) : Prop :=
  (pk = s.pk ↔ row.table_name = s.table_name) ∧ (pk = s.pk → s.schema_version ≤ row.schema_version)

/-- A model class that is right, or no longer current. -/
def Fits (model : ModelClass) : Prop :=
  model.attrs = s.attrs ∨ model.schema_version < s.schema_version

structure Sound (w : World) : Prop where
  fields : w.db.fields = s.fields
  rows : ∀ pk row, w.db.datasets.get? pk = some row → s.IsRow pk row
  stored : ∃ row, w.db.datasets.get? s.pk = some row
  objects : ∀ self pk, (w.dataset_objects self).pk = some pk →
    s.IsRow pk (w.dataset_objects self).row
  next_id : s.pk < w.next_id
  registry : ∀ model, w.registry s.table_name = some model → s.Fits model

/-- What building record models changes: only the classes that are registered. -/
structure Rebuilt (w w' : World) : Prop where
  db : w'.db = w.db
  external : w'.external = w.external
  next_id : w'.next_id = w.next_id
  dataset_objects : w'.dataset_objects = w.dataset_objects
  depth : w'.depth = w.depth
  registry : w'.registry s.table_name = w.registry s.table_name ∨
    w'.registry s.table_name = none ∨
    ∃ model, w'.registry s.table_name = some model ∧ model.attrs = s.attrs

namespace Rebuilt

variable {s} {w w' w'' : World}

theorem of_same (h : w' = { w with faults := w'.faults, log := w'.log }) : s.Rebuilt w w' := by
  rw [h]
  exact ⟨rfl, rfl, rfl, rfl, rfl, Or.inl rfl⟩

theorem refl (w : World) : s.Rebuilt w w := of_same rfl

theorem trans (h : s.Rebuilt w w') (h' : s.Rebuilt w' w'') : s.Rebuilt w w'' where
  db := h'.db.trans h.db
  external := h'.external.trans h.external
  next_id := h'.next_id.trans h.next_id
  dataset_objects := h'.dataset_objects.trans h.dataset_objects
  depth := h'.depth.trans h.depth
  registry := by
    rcases h'.registry with hr | hr
    · rw [hr]
      exact h.registry
    · exact Or.inr hr

theorem register {name : Str} {model : Option ModelClass}
    (h : name = s.table_name → ∀ m, model = some m → m.attrs = s.attrs) :
    s.Rebuilt w { w with registry := Function.update w.registry name model } where
  db := rfl
  external := rfl
  next_id := rfl
  dataset_objects := rfl
  depth := rfl
  registry := by
    by_cases hname : name = s.table_name
    · subst hname
      simp only [Function.update_self]
      cases model with
      | none => exact Or.inr (Or.inl rfl)
      | some m => exact Or.inr (Or.inr ⟨m, rfl, h rfl m rfl⟩)
    · exact Or.inl (Function.update_of_ne (Ne.symm hname) ..)

/-- A process without classes that are out of date still has none. -/
theorem fresh (h : s.Rebuilt w w')
    (hw : ∀ m, w.registry s.table_name = some m → m.attrs = s.attrs) :
    ∀ m, w'.registry s.table_name = some m → m.attrs = s.attrs := by
  intro m hm
  rcases h.registry with hsame | hnone | ⟨model, hsome, hattrs⟩
  · exact hw m (hsame ▸ hm)
  · rw [hnone] at hm
    cases hm
  · rw [hsome] at hm
    exact Option.some.inj hm ▸ hattrs

end Rebuilt

variable {s} {w w' : World}

theorem Sound.congr (h : s.Sound w) (hdb : w'.db = w.db)
    (ho : w'.dataset_objects = w.dataset_objects) (hn : w'.next_id = w.next_id)
    (hr : w'.registry = w.registry) : s.Sound w' :=
  ⟨hdb ▸ h.fields, hdb ▸ h.rows, hdb ▸ h.stored, ho ▸ h.objects, hn ▸ h.next_id,
    hr ▸ h.registry⟩

theorem Sound.rebuilt (h : s.Sound w) (hr : s.Rebuilt w w') : s.Sound w' where
  fields := hr.db ▸ h.fields
  rows := hr.db ▸ h.rows
  stored := hr.db ▸ h.stored
  objects := hr.dataset_objects ▸ h.objects
  next_id := hr.next_id ▸ h.next_id
  registry := by
    intro model hm
    rcases hr.registry with hsame | hnone | ⟨m, hsome, hattrs⟩
    · exact h.registry model (hsame ▸ hm)
    · rw [hnone] at hm
      cases hm
    · rw [hsome] at hm
      exact Or.inl (Option.some.inj hm ▸ hattrs)

/-! ## Building -/

theorem wp_query_rebuilt {α : Type} {db : Alias} {f : World → Except Exn α}
    {Q : α → World → Prop} {E : Exn → World → Prop}
    (hok : ∀ a w', f w = .ok a → s.Rebuilt w w' → Q a w')
    (herr : ∀ e w', s.Rebuilt w w' → E e w') : wp (query db f) Q E w :=
  wp_query (fun a h _ _ => hok a _ h (.of_same rfl)) fun e _ _ => herr e _ (.of_same rfl)

theorem linkedDataset_rebuilt (h : s.Sound w) (f : ReferenceDatasetField) :
    wp (linkedDataset f) (fun r w' => s.IsRow r.1 r.2 ∧ s.Rebuilt w w')
      (fun _ w' => s.Rebuilt w w') w := by
  unfold linkedDataset
  split
  next => exact wp_throw.mpr (.refl w)
  next =>
    refine wp_query_rebuilt (fun r w' hr hw => ⟨?_, hw⟩) fun _ _ hw => hw
    split at hr
    next => cases hr
    next =>
      split at hr
      next => cases hr
      next row hrow =>
        obtain rfl := Except.ok.inj hr
        exact h.rows _ row hrow

theorem modelAttrs_rebuilt {build : Nat → ReferenceDataset → M ModelClass}
    (hb : ∀ pk row w, s.Sound w → s.IsRow pk row →
      wp (build pk row) (fun _ w' => s.Rebuilt w w') (fun _ w' => s.Rebuilt w w') w) :
    ∀ fields attrs w, s.Sound w →
      wp (modelAttrs build fields attrs)
        (fun r w' => fieldAttrs fields attrs = some r ∧ s.Rebuilt w w')
        (fun _ w' => s.Rebuilt w w') w
  | [], attrs, w, h => ⟨rfl, .refl w⟩
  | f :: fields, attrs, w, h => by
      have hnext : ∀ w' name, f.attrName = some name → s.Rebuilt w w' →
          wp (modelAttrs build fields (attrs.set name (f.modelField name)))
            (fun r w' => fieldAttrs (f :: fields) attrs = some r ∧ s.Rebuilt w w')
            (fun _ w' => s.Rebuilt w w') w' := by
        intro w' name hname hw
        unfold fieldAttrs
        rw [hname]
        refine wp_mono (modelAttrs_rebuilt hb fields _ w' (h.rebuilt hw)) ?_ ?_
        · exact fun _ _ h' => ⟨h'.1, hw.trans h'.2⟩
        · exact fun _ _ h' => hw.trans h'
      refine wp_bind.mpr (wp_whenever (fun _ => ?_) fun _ =>
        wp_modelAttrs_next (.refl w) fun name hname => hnext w name hname (.refl w))
      refine wp_bind.mpr (wp_mono (linkedDataset_rebuilt h f) ?_ fun _ _ h => h)
      rintro r w₁ ⟨hrow, h₁⟩
      refine wp_bind.mpr (wp_mono (hb r.1 r.2 w₁ (h.rebuilt h₁) hrow) (fun _ w₂ h₂ => ?_) ?_)
      · exact wp_modelAttrs_next (h₁.trans h₂) fun name hname => hnext w₂ name hname (h₁.trans h₂)
      · exact fun _ _ h₂ => h₁.trans h₂

/-- Building the record model of the dataset gives a class with the attributes that its
fields describe. -/
theorem getRecordModelClass_rebuilt : ∀ limit pk row w, s.Sound w → s.IsRow pk row →
    wp (getRecordModelClass limit pk row)
      (fun model w' => (pk = s.pk → model.attrs = s.attrs) ∧ s.Rebuilt w w')
      (fun _ w' => s.Rebuilt w w') w
  | 0, pk, row, w, h, hrow => wp_throw.mpr (.refl w)
  | limit + 1, pk, row, w, h, hrow => by
      refine wp_bind.mpr (wp_get.mpr ?_)
      split
      next model hmodel =>
        obtain ⟨hreg, hversion⟩ := Option.filter_eq_some_iff.mp hmodel
        refine ⟨fun hpk => ?_, .refl w⟩
        rw [hrow.1.mp hpk] at hreg
        rcases h.registry model hreg with hattrs | hold
        · exact hattrs
        · have hcurrent : model.schema_version = row.schema_version := by simpa using hversion
          exact absurd (hrow.2 hpk) (Nat.not_le.mpr (hcurrent ▸ hold))
      next =>
        refine wp_bind.mpr (wp_modify.mpr (wp_bind.mpr ?_))
        have h₁ : s.Rebuilt w { w with registry := Function.update w.registry row.table_name none } :=
          .register fun _ _ hm => by cases hm
        have hfresh : pk = s.pk → ∀ m,
            Function.update w.registry row.table_name none s.table_name = some m →
              m.attrs = s.attrs := by
          intro hpk m hm
          rw [hrow.1.mp hpk, Function.update_self] at hm
          cases hm
        refine wp_query_rebuilt (s := s) (fun fields w₂ hfields h₂ => ?_)
          fun _ _ h₂ => h₁.trans h₂
        refine wp_bind.mpr (wp_mono (modelAttrs_rebuilt (s := s) (fun pk row w h hrow =>
          wp_mono (getRecordModelClass_rebuilt limit pk row w h hrow) (fun _ _ h => h.2)
            fun _ _ h => h) _ _ w₂ (h.rebuilt (h₁.trans h₂))) ?_ fun _ _ h₃ => ?_)
        · intro attrs w₃ ⟨hattrs, h₃⟩
          refine wp_bind.mpr (wp_get.mpr ?_)
          split
          next model hmodel =>
            refine ⟨fun hpk => ?_, (h₁.trans h₂).trans h₃⟩
            rw [hrow.1.mp hpk] at hmodel
            exact (h₂.trans h₃).fresh (hfresh hpk) model hmodel
          next =>
            have hgood : pk = s.pk → attrs = s.attrs := by
              intro hpk
              obtain rfl := Except.ok.inj hfields
              have hd := s.described w.db h.fields
              rw [← hpk] at hd
              exact Option.some.inj (hattrs.symm.trans hd)
            refine ⟨hgood, ((h₁.trans h₂).trans h₃).trans (.register fun hname m hm => ?_)⟩
            obtain rfl := Option.some.inj hm
            exact hgood (hrow.1.mpr hname)
        · exact (h₁.trans h₂).trans h₃

theorem recordModelClass_rebuilt (h : s.Sound w) (self : Nat) :
    wp (recordModelClass self)
      (fun model w' => ((w.dataset_objects self).pk = some s.pk → model.attrs = s.attrs) ∧
        s.Rebuilt w w')
      (fun _ w' => s.Rebuilt w w') w := by
  refine wp_bind.mpr (wp_bind.mpr (wp_datasetObject.mpr ?_))
  split
  next pk hpk =>
    refine wp_bind.mpr (wp_datasetObject.mpr (wp_bind.mpr (wp_get.mpr ?_)))
    refine wp_mono (getRecordModelClass_rebuilt _ pk _ w h (h.objects self pk hpk)) ?_
      fun _ _ h => h
    exact fun _ _ hm => ⟨fun hs => hm.1 (Option.some.inj (hpk.symm.trans hs)), hm.2⟩
  next => exact wp_throw.mpr (.refl w)

/-! ## Every run of a method -/

section

variable (row : ReferenceDataset) (original_published create : Bool) (now : Nat)

theorem managePublished_table_name :
    (row.managePublished original_published create now).table_name = row.table_name := by
  unfold ReferenceDataset.managePublished ReferenceDataset.firstPublished
  grind

theorem managePublished_schema_version :
    (row.managePublished original_published create now).schema_version = row.schema_version := by
  unfold ReferenceDataset.managePublished ReferenceDataset.firstPublished
  grind

theorem managePublished_external_database :
    (row.managePublished original_published create now).external_database =
      row.external_database := by
  unfold ReferenceDataset.managePublished ReferenceDataset.firstPublished
  grind

end

theorem IsRow.congr {pk : Nat} {row row' : ReferenceDataset} (h : s.IsRow pk row)
    (ht : row'.table_name = row.table_name) (hv : row.schema_version ≤ row'.schema_version) :
    s.IsRow pk row' :=
  ⟨ht ▸ h.1, fun hpk => le_trans (h.2 hpk) hv⟩

theorem IsRow.managed {pk : Nat} {row : ReferenceDataset} (h : s.IsRow pk row)
    (original_published create : Bool) (now : Nat) :
    s.IsRow pk (row.managePublished original_published create now) :=
  h.congr (managePublished_table_name ..) (le_of_eq (managePublished_schema_version ..).symm)

theorem Sound.setObject (h : s.Sound w) (self : Nat) {o : DatasetObject}
    (ho : ∀ pk, o.pk = some pk → s.IsRow pk o.row) : s.Sound (w.setObject self o) where
  fields := h.fields
  rows := h.rows
  stored := h.stored
  objects := by
    intro i pk hpk
    by_cases hi : i = self
    · subst hi
      rw [setObject_self] at hpk ⊢
      exact ho pk hpk
    · have hother : (w.setObject self o).dataset_objects i = w.dataset_objects i :=
        Function.update_of_ne hi ..
      rw [hother] at hpk ⊢
      exact h.objects i pk hpk
  next_id := h.next_id
  registry := h.registry

theorem Sound.isRow_new (h : s.Sound w) {row : ReferenceDataset}
    (hfree : w.db.tableNameTaken none row = false) : s.IsRow w.next_id row := by
  obtain ⟨stored, hstored⟩ := h.stored
  have hname := (h.rows s.pk stored hstored).1.mp rfl
  have hne : w.next_id ≠ s.pk := Nat.ne_of_gt h.next_id
  refine ⟨⟨fun hpk => absurd hpk hne, fun hrow => ?_⟩, fun hpk => absurd hpk hne⟩
  have hmem : (s.pk, stored) ∈ w.db.datasets.items := (Dict.mem_items_iff ..).mpr hstored
  have htaken := List.any_eq_false.mp hfree (s.pk, stored) hmem
  simp [hname, hrow] at htaken

def Keeps (s : Subject) (w w' : World) : Prop := s.Sound w → s.Sound w'

theorem keeps_of_same (hdb : w'.db.datasets = w.db.datasets) (hf : w'.db.fields = w.db.fields)
    (ho : w'.dataset_objects = w.dataset_objects) (hn : w.next_id ≤ w'.next_id)
    (hr : w'.registry = w.registry) : s.Keeps w w' := fun h =>
  { fields := hf ▸ h.fields
    rows := hdb ▸ h.rows
    stored := hdb ▸ h.stored
    objects := ho ▸ h.objects
    next_id := lt_of_lt_of_le h.next_id hn
    registry := hr ▸ h.registry }

theorem keeps_object (self : Nat) {f : DatasetObject → DatasetObject} (hf : Evolves f) :
    Steps s.Keeps (setDatasetObject self f) := by
  intro w
  refine wp_setDatasetObject.mpr fun h => h.setObject self fun pk hpk => ?_
  have hrow := h.objects self pk
  cases hf with
  | schema => exact (hrow hpk).congr rfl (Nat.le_succ _)
  | major => exact (hrow hpk).congr rfl (le_refl _)
  | minor => exact (hrow hpk).congr rfl (le_refl _)
  | remembered => exact (hrow hpk).congr rfl (le_refl _)
  | unsorted => exact (hrow hpk).congr rfl (le_refl _)

theorem Sound.publish (h : s.Sound w) {self pk next_id : Nat} {o : DatasetObject}
    {faults : List (Option Exn)} {log : List (Statement × Bool)}
    (hrow : s.IsRow pk o.row) (hn : w.next_id ≤ next_id) :
    s.Sound { w.setObject self { o with pk := some pk } with
      db := { w.db with datasets := w.db.datasets.set pk o.row }
      next_id := next_id, faults := faults, log := log } where
  fields := h.fields
  rows := by
    intro k row hk
    rw [Dict.get?_set] at hk
    split at hk
    next hkpk =>
      obtain rfl := Option.some.inj hk
      exact hkpk ▸ hrow
    next => exact h.rows k row hk
  stored := by
    obtain ⟨row, hstored⟩ := h.stored
    rw [Dict.get?_set]
    split
    next => exact ⟨o.row, rfl⟩
    next => exact ⟨row, hstored⟩
  objects := (h.setObject self (o := { o with pk := some pk }) fun k hk =>
    Option.some.inj hk ▸ hrow).objects
  next_id := lt_of_lt_of_le h.next_id hn
  registry := h.registry

theorem keeps_publishRow (self : Nat) (original_published create : Bool) :
    Steps s.Keeps (publishRow self original_published create) := by
  intro w
  refine wp_publishRow_free _ rfl (fun pk next_id faults log hpk hfree h => ?_)
    fun e faults log h => ?_
  · have hrow : s.IsRow pk (w.managed self original_published create).row := by
      rcases hpk with ⟨hpk, _⟩ | ⟨hpk, rfl, _⟩
      · exact (h.objects self pk hpk).managed _ _ _
      · rw [hpk] at hfree
        exact h.isRow_new hfree
    refine h.publish hrow ?_
    rcases hpk with ⟨_, rfl⟩ | ⟨_, _, rfl⟩
    · exact le_refl _
    · exact Nat.le_succ _
  · have hset := h.setObject self (o := w.managed self original_published create)
      fun pk hpk => (h.objects self pk hpk).managed _ _ _
    exact hset.rebuilt (.of_same rfl)

instance statementClosed : StatementClosed s.Keeps where
  refl := fun _ => id
  trans := fun _ _ _ h h' => h' ∘ h
  statement := fun _ _ allowed w => wp_statement
    (fun a w' hw _ _ =>
      have ⟨hd, hf, ho, hn, _⟩ := (allowed w a w' hw).rows
      keeps_of_same hd hf ho (le_of_eq hn.symm) (allowed w a w' hw).registry)
    fun _ _ _ => keeps_of_same rfl rfl rfl (le_refl _) rfl

theorem Sound.rollback (h : s.Sound w) (h' : s.Sound w') : s.Sound (rollback w w') :=
  ⟨h.fields, h.rows, h.stored, h'.objects, h'.next_id, h'.registry⟩

theorem keeps_recordModelClass (self : Nat) : Steps s.Keeps (recordModelClass self) := by
  intro w
  by_cases h : s.Sound w
  · refine wp_mono (recordModelClass_rebuilt h self) ?_ ?_
    · exact fun _ _ hr _ => h.rebuilt hr.2
    · exact fun _ _ hr _ => h.rebuilt hr
  · unfold wp
    split
    next => exact fun h' => absurd h' h
    next => exact fun h' => absurd h' h

instance methodClosed : MethodClosed s.Keeps where
  atomic := Closed.atomic_of_rollback (fun h hw => hw.rollback (h hw))
    fun _ _ => keeps_of_same rfl rfl rfl (le_refl _) rfl
  recordModelClass := keeps_recordModelClass
  object := keeps_object
  next_id := fun _ => keeps_of_same rfl rfl rfl (Nat.le_succ _) rfl
  publishRow := keeps_publishRow

end Subject

end ReferenceData
