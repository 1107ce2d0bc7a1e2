import DataWorkspace.Order.Acyclic
import DataWorkspace.ReferenceData.Requests

/-!
# Links between reference datasets

A foreign key field links its dataset to the dataset of the field it refers to.
Building the record model of a dataset builds those of the datasets it links to, so
it comes to an end as long as the links have no cycle.

Saving a field only looks for a link straight back.  `links_acyclic` says what would
have to be checked instead: that the dataset linked to does not lead back over any
number of links.  Three saves that close a longer cycle all go through.
-/

namespace ReferenceData

open Py Sql Relation

/-! ## Links -/

/-- The rows of fields by primary key. -/
abbrev Fields := Nat → Option ReferenceDatasetField

def ReferenceDatasetField.LinksTo (f : ReferenceDatasetField) (fields : Fields) (b : Nat) :
    Prop :=
  f.data_type = .FOREIGN_KEY ∧
    ∃ g, f.linked_reference_dataset_field.bind fields = some g ∧ g.reference_dataset = b

theorem ReferenceDatasetField.linksTo_iff {f : ReferenceDatasetField} {fields : Fields}
    {target b : Nat} (hk : f.data_type = .FOREIGN_KEY)
    (hl : f.linked_reference_dataset_field = some target) :
    f.LinksTo fields b ↔ (fields target).map ReferenceDatasetField.reference_dataset = some b := by
  unfold LinksTo
  simp [hk, hl]

/-- The links between datasets, without the one a field makes up. -/
def LinksBut (fields : Fields) (skip : Option Nat) (a b : Nat) : Prop :=
  ∃ id f, fields id = some f ∧ some id ≠ skip ∧ f.reference_dataset = a ∧ f.LinksTo fields b

/-- The links between datasets. -/
def Links (fields : Fields) : Nat → Nat → Prop := LinksBut fields none

theorem Links.of_get {fields : Fields} {id target a b : Nat} {f : ReferenceDatasetField}
    (hf : fields id = some f) (ha : f.reference_dataset = a) (hk : f.data_type = .FOREIGN_KEY)
    (hl : f.linked_reference_dataset_field = some target)
    (hg : (fields target).map ReferenceDatasetField.reference_dataset = some b) :
    Links fields a b :=
  ⟨id, f, hf, nofun, ha, (f.linksTo_iff hk hl).mpr hg⟩

/-- Fields whose links refer to fields that are there, and whose keys were given out. -/
structure Resolved (fields : Fields) (next_id : Nat) : Prop where
  linked : ∀ id f, fields id = some f → ∀ g, f.linked_reference_dataset_field = some g →
    ∃ h, fields g = some h
  below : ∀ id f, fields id = some f → id < next_id

/-- Fields with one row written. -/
def Fields.set (fields : Fields) (pk : Nat) (row : ReferenceDatasetField) : Fields :=
  Function.update fields pk (some row)

@[simp] theorem Fields.set_self (fields : Fields) (pk : Nat) (row : ReferenceDatasetField) :
    fields.set pk row pk = some row := Function.update_self ..

theorem Fields.set_of_ne (fields : Fields) {pk id : Nat} (h : id ≠ pk)
    (row : ReferenceDatasetField) : fields.set pk row id = fields id :=
  Function.update_of_ne h ..

/-- A row that may be written: its link refers to a field that is there, and it has
the key of a field of its dataset, or one that no field has. -/
structure Writable (fields : Fields) (pk : Nat) (row : ReferenceDatasetField) : Prop where
  linked : ∀ g, row.linked_reference_dataset_field = some g → ∃ h, fields g = some h
  same_dataset : ∀ f, fields pk = some f → f.reference_dataset = row.reference_dataset

section

variable {fields : Fields} {next_id pk : Nat} {row : ReferenceDatasetField}

theorem set_reference_dataset (hw : Writable fields pk row) {id : Nat}
    {f : ReferenceDatasetField} (hf : fields id = some f) :
    ∃ f', fields.set pk row id = some f' ∧ f'.reference_dataset = f.reference_dataset := by
  by_cases hid : id = pk
  · subst hid
    exact ⟨row, fields.set_self _ _, (hw.same_dataset f hf).symm⟩
  · exact ⟨f, (fields.set_of_ne hid _).trans hf, rfl⟩

theorem linksTo_set (hw : Writable fields pk row) {f : ReferenceDatasetField}
    (hf : ∀ g, f.linked_reference_dataset_field = some g → ∃ h, fields g = some h) (b : Nat) :
    f.LinksTo (fields.set pk row) b ↔ f.LinksTo fields b := by
  unfold ReferenceDatasetField.LinksTo
  cases hlink : f.linked_reference_dataset_field with
  | none => simp
  | some g =>
      obtain ⟨h, hh⟩ := hf g hlink
      obtain ⟨h', hh', hd⟩ := set_reference_dataset hw hh
      simp [hh, hh', hd]

theorem links_set (hr : Resolved fields next_id) (hw : Writable fields pk row)
    (a b : Nat) :
    Links (fields.set pk row) a b ↔
      LinksBut fields (some pk) a b ∨ a = row.reference_dataset ∧ row.LinksTo fields b := by
  constructor
  · rintro ⟨id, f, hf, _, ha, hl⟩
    by_cases hid : id = pk
    · subst hid
      obtain rfl := Option.some.inj ((fields.set_self _ _).symm.trans hf)
      exact Or.inr ⟨ha.symm, (linksTo_set hw hw.linked b).mp hl⟩
    · have hf' : fields id = some f := (fields.set_of_ne hid _).symm.trans hf
      refine Or.inl ⟨id, f, hf', fun h => hid (Option.some.inj h), ha, ?_⟩
      exact (linksTo_set hw (hr.linked id f hf') b).mp hl
  · rintro (⟨id, f, hf, hid, ha, hl⟩ | ⟨rfl, hl⟩)
    · have hid' : id ≠ pk := fun h => hid (congrArg some h)
      refine ⟨id, f, (fields.set_of_ne hid' _).trans hf, nofun, ha, ?_⟩
      exact (linksTo_set hw (hr.linked id f hf) b).mpr hl
    · refine ⟨pk, row, fields.set_self _ _, nofun, rfl, ?_⟩
      exact (linksTo_set hw hw.linked b).mpr hl

/-- Writing a row keeps the links acyclic just if the dataset it links to does not lead
back to its own over the links of the other fields. -/
theorem acyclic_set_iff (hr : Resolved fields next_id) (hw : Writable fields pk row)
    (ha : Order.Acyclic (Links fields)) :
    Order.Acyclic (Links (fields.set pk row)) ↔
      ∀ b, row.LinksTo fields b →
        ¬ ReflTransGen (LinksBut fields (some pk)) b row.reference_dataset := by
  have hbut : Order.Acyclic (LinksBut fields (some pk)) :=
    ha.mono fun a b ⟨id, f, hf, _, hab⟩ => ⟨id, f, hf, nofun, hab⟩
  constructor
  · intro h b hb
    refine h.not_reaches (fun x y hxy => (links_set hr hw x y).mpr (Or.inl hxy)) ?_
    exact (links_set hr hw _ b).mpr (Or.inr ⟨rfl, hb⟩)
  · intro h
    by_cases hb : ∃ b, row.LinksTo fields b
    · obtain ⟨b, hb⟩ := hb
      refine hbut.of_edge (a := row.reference_dataset) (b := b) (fun x y hxy => ?_) (h b hb)
      rcases (links_set hr hw x y).mp hxy with hxy | ⟨rfl, hy⟩
      · exact Or.inl hxy
      · obtain ⟨_, g, hg, rfl⟩ := hy
        obtain ⟨_, g', hg', rfl⟩ := hb
        rw [hg] at hg'
        exact Or.inr ⟨rfl, congrArg _ (Option.some.inj hg')⟩
    · refine hbut.mono fun x y hxy => ?_
      rcases (links_set hr hw x y).mp hxy with hxy | ⟨_, hy⟩
      · exact hxy
      · exact absurd ⟨y, hy⟩ hb

theorem Resolved.set (hr : Resolved fields next_id) (hw : Writable fields pk row)
    {next_id' : Nat} (hn : next_id ≤ next_id') (hpk : pk < next_id') :
    Resolved (fields.set pk row) next_id' where
  linked := by
    intro id f hf g hg
    have hsome : ∃ h, fields g = some h := by
      by_cases hid : id = pk
      · subst hid
        obtain rfl := Option.some.inj ((fields.set_self _ _).symm.trans hf)
        exact hw.linked g hg
      · exact hr.linked id f ((fields.set_of_ne hid _).symm.trans hf) g hg
    obtain ⟨h, hh⟩ := hsome
    obtain ⟨h', hh', _⟩ := set_reference_dataset hw hh
    exact ⟨h', hh'⟩
  below := by
    intro id f hf
    by_cases hid : id = pk
    · exact hid ▸ hpk
    · exact lt_of_lt_of_le (hr.below id f ((fields.set_of_ne hid _).symm.trans hf)) hn

end

/-! ## What a save writes -/

/-- A computation that may give the object a key, and may write its row. -/
structure Saves (ref : Nat) (w w' : World) : Prop where
  next_id : w.next_id ≤ w'.next_id
  row : (w'.field_objects ref).row = (w.field_objects ref).row
  pk : (w'.field_objects ref).pk = (w.field_objects ref).pk ∨
    (w.field_objects ref).pk = none ∧
      ∃ k, w.next_id ≤ k ∧ k < w'.next_id ∧ (w'.field_objects ref).pk = some k
  fields : w'.db.fields.get? = w.db.fields.get? ∨
    ∃ k, (w'.field_objects ref).pk = some k ∧
      w'.db.fields.get? = Fields.set w.db.fields.get? k (w.field_objects ref).row

namespace Saves

variable {ref : Nat} {w w' w'' : World}

theorem of_same (hf : w'.db.fields = w.db.fields) (ho : w'.field_objects = w.field_objects)
    (hn : w.next_id ≤ w'.next_id) : Saves ref w w' where
  next_id := hn
  row := by rw [ho]
  pk := Or.inl (by rw [ho])
  fields := Or.inl (by rw [hf])

theorem trans (h : Saves ref w w') (h' : Saves ref w' w'') : Saves ref w w'' where
  next_id := le_trans h.next_id h'.next_id
  row := h'.row.trans h.row
  pk := by
    rcases h'.pk with hpk' | ⟨hnone, k, hk, hk', hsome⟩
    · rcases h.pk with hpk | ⟨hnone, k, hk, hk', hsome⟩
      · exact Or.inl (hpk'.trans hpk)
      · exact Or.inr ⟨hnone, k, hk, lt_of_lt_of_le hk' h'.next_id, hpk'.trans hsome⟩
    · rcases h.pk with hpk | ⟨_, j, _, _, hj⟩
      · exact Or.inr ⟨hpk.symm.trans hnone, k, le_trans h.next_id hk, hk', hsome⟩
      · rw [hnone] at hj
        cases hj
  fields := by
    rcases h'.fields with hf' | ⟨k, hk, hf'⟩
    · rcases h.fields with hf | ⟨k, hk, hf⟩
      · exact Or.inl (hf'.trans hf)
      · refine Or.inr ⟨k, ?_, hf'.trans hf⟩
        rcases h'.pk with hpk | ⟨hnone, _⟩
        · exact hpk.trans hk
        · rw [hk] at hnone
          cases hnone
    · rw [h.row] at hf'
      rcases h.fields with hf | ⟨j, hj, hf⟩
      · exact Or.inr ⟨k, hk, hf ▸ hf'⟩
      · refine Or.inr ⟨k, hk, ?_⟩
        have hkj : k = j := by
          rcases h'.pk with hpk | ⟨hnone, _⟩
          · exact Option.some.inj (hk.symm.trans (hpk.trans hj))
          · rw [hj] at hnone
            cases hnone
        subst hkj
        rw [hf', hf]
        exact Function.update_idem ..

instance closed : Closed (Saves ref) where
  refl := fun _ => of_same rfl rfl (le_refl _)
  trans := fun _ _ _ => trans
  statement := fun _ _ allowed w => wp_statement
    (fun a w' hw _ _ =>
      have ⟨_, hf, _, hn, ho⟩ := (allowed w a w' hw).rows
      of_same hf ho (le_of_eq hn.symm))
    fun _ _ _ => of_same rfl rfl (le_refl _)
  rollback := fun h => ⟨h.next_id, h.row, h.pk, Or.inl rfl⟩
  depth := fun _ _ => of_same rfl rfl (le_refl _)
  register := fun _ _ _ => of_same rfl rfl (le_refl _)
  object := fun _ _ _ _ => of_same rfl rfl (le_refl _)
  next_id := fun _ => of_same rfl rfl (Nat.le_succ _)
  publishRow := fun _ _ _ w => wp_publishRow _ rfl
    (fun pk next_id _ _ hpk => of_same rfl rfl (by
      rcases hpk with ⟨_, rfl⟩ | ⟨_, _, rfl⟩
      · exact le_refl _
      · exact Nat.le_succ _))
    fun _ _ _ => of_same rfl rfl (le_refl _)

theorem saveFieldRow (ref : Nat) : Steps (Saves ref) (saveFieldRow ref) := by
  intro w
  refine wp_saveFieldRow _ rfl ?_ fun _ _ _ => of_same rfl rfl (le_refl _)
  intro pk next_id faults log hpk
  have hobj : (w.setField ref { w.field_objects ref with pk := some pk }).field_objects ref =
      { w.field_objects ref with pk := some pk } := Function.update_self ..
  have hkey := congrArg FieldObject.pk hobj
  have hrow := congrArg FieldObject.row hobj
  refine ⟨?_, hrow, ?_, Or.inr ⟨pk, hkey, ?_⟩⟩
  · rcases hpk with ⟨_, rfl⟩ | ⟨_, _, rfl⟩
    · exact le_refl _
    · exact Nat.le_succ _
  · rcases hpk with ⟨hpk, rfl⟩ | ⟨hpk, rfl, rfl⟩
    · exact Or.inl (hkey.trans hpk.symm)
    · exact Or.inr ⟨hpk, w.next_id, le_refl _, Nat.lt_succ_self _, hkey⟩
  · funext j
    simp only [Fields.set, Dict.get?_set, Function.update_apply]

end Saves

theorem wp_checkLink {f : FieldObject} {Q : PUnit → World → Prop} {E : Exn → World → Prop}
    {w : World}
    (hok : (∀ g, f.row.linked_reference_dataset_field = some g →
      ∃ h, w.db.fields.get? g = some h) →
      ∀ faults log, Q ⟨⟩ { w with faults := faults, log := log })
    (herr : ∀ e faults log, E e { w with faults := faults, log := log }) :
    wp (checkLink f) Q E w := by
  refine wp_forSome (fun id hid => ?_) fun hnone => ?_
  · refine wp_bind.mpr (wp_query (fun linked hlinked faults log => ?_) herr)
    refine wp_bind.mpr (wp_whenever (fun _ => wp_throw.mpr (herr _ _ _)) fun _ => ?_)
    refine wp_bind.mpr (wp_query (fun circular _ faults log => ?_) fun e faults log =>
      herr e faults log)
    refine wp_whenever (fun _ => wp_throw.mpr (herr _ _ _)) fun _ => hok ?_ _ _
    intro g hg
    obtain rfl := Option.some.inj (hid.symm.trans hg)
    split at hlinked
    next h hh => exact ⟨h, hh⟩
    next => cases hlinked
  · exact hok (fun g hg => by rw [hnone] at hg; cases hg) w.faults w.log

theorem saveField_saves (ref : Nat) (w : World) :
    Saves ref w (endOf (saveField ref) w) ∧
      ((endOf (saveField ref) w).db.fields.get? = w.db.fields.get? ∨
        ∀ g, (w.field_objects ref).row.linked_reference_dataset_field = some g →
          ∃ h, w.db.fields.get? g = some h) := by
  refine ⟨(Closed.saveField (Saves.saveFieldRow ref)).endOf w, ?_⟩
  refine endOf_of_wp (P := fun w' : World => w'.db.fields.get? = w.db.fields.get? ∨ _) ?_
  refine wp_atomic (wp_bind.mpr (wp_fieldObject.mpr ?_))
  refine wp_bind.mpr (wp_checkLink (fun hlink faults log => ?_) fun _ _ _ => Or.inl rfl)
  have htriv : wp (saveChecked ref (w.field_objects ref)) (fun _ _ => True) (fun _ _ => True)
      { w with depth := w.depth + 1, faults := faults, log := log } :=
    wp_mono (Closed.saveChecked (Saves.saveFieldRow ref) _ _) (fun _ _ _ => trivial)
      fun _ _ _ => trivial
  refine wp_mono htriv (fun _ _ _ => ⟨fun _ _ => Or.inr hlink, fun _ _ _ => Or.inl rfl⟩) ?_
  exact fun _ _ _ => Or.inl rfl

/-! ## Saves of fields -/

/-- A save of a field of a dataset: a new field, or the one with a primary key, with
the attributes it is to have. -/
structure Save extends Environment where
  dataset : Nat
  field : Option Nat
  attributes : ReferenceDatasetField
  /-- Whether the save comes from the form of the admin. -/
  by_form : Bool

/-- What `clean_linked_reference_dataset_field` and `clean` say about the link of a field. -/
def cleanLink (db : Db) (dataset : Nat) (attributes : ReferenceDatasetField) :
    Except Str Unit :=
  if attributes.data_type = .FOREIGN_KEY then
    match attributes.linked_reference_dataset_field.bind db.fields.get? with
    | none => .error "Please select a reference data set field to link to"
    | some linked =>
        if linked.reference_dataset = dataset then
          .error "A reference dataset record cannot point to itself"
        else if linked.data_type = .FOREIGN_KEY then
          .error "A reference dataset field cannot point to another field that is itself linked"
        else if linked.reference_dataset ∈ (db.fields.items.filter fun f =>
            f.2.data_type = .FOREIGN_KEY &&
            match f.2.linked_reference_dataset_field.bind db.fields.get? with
            | some g => g.reference_dataset = dataset
            | none => false).map fun f => f.2.reference_dataset then
          .error (("A reference dataset field cannot point to another field that points back"
            : Str) ++ " to this dataset (circular link)")
        else
          match (db.datasets.get? dataset).bind ReferenceDataset.external_database with
          | none => .ok ()
          | some ext =>
              if (db.datasets.get? linked.reference_dataset).bind
                  ReferenceDataset.external_database = some ext then .ok ()
              else .error (("Linked reference dataset does not exist on external database " : Str)
                ++ ext)
  else if attributes.linked_reference_dataset_field.isSome then
    .error "Please select the Linked Reference Dataset Field data type"
  else .ok ()

namespace Save

/-- The row a save is to write. -/
def row (s : Save) : ReferenceDatasetField := { s.attributes with reference_dataset := s.dataset }

def prepare (s : Save) : Call :=
  match s.field with
  | none => .makeField 0 s.attributes 0
  | some pk => .loadField 0 pk 0

/-- The calls that make up a save. -/
def request (s : Save) : Request :=
  { s.toEnvironment with
    calls := [.loadDataset 0 s.dataset, s.prepare, .editField 0 s.attributes, .saveField 0]
    one_transaction := true }

/-- What is stored after a save.  The form only saves what it takes to be valid. -/
def run (s : Save) (st : Stored) : Stored :=
  match cleanLink st.db s.dataset s.attributes with
  | .ok _ => s.request.run st
  | .error _ => if s.by_form then st else s.request.run st

/-- The dataset a field is to link to does not lead back to its own. -/
def Safe (s : Save) (st : Stored) : Prop :=
  ∀ b, s.row.LinksTo st.db.fields.get? b →
    ¬ ReflTransGen (LinksBut st.db.fields.get? s.field) b s.dataset

end Save

/-- What a save leaves of the fields: all of them, or all but the row it writes. -/
def Written (s : Save) (st : Stored) (fields : Fields) (next_id : Nat) : Prop :=
  fields = st.db.fields.get? ∨
    ∃ pk, (s.field = some pk ∨ s.field = none ∧ st.next_id ≤ pk) ∧ pk < next_id ∧
      Writable st.db.fields.get? pk s.row ∧ fields = Fields.set st.db.fields.get? pk s.row

structure Prepared (s : Save) (st : Stored) (w : World) : Prop where
  fields : w.db.fields = st.db.fields
  next_id : w.next_id = st.next_id
  pk : (w.field_objects 0).pk = s.field
  row : (w.field_objects 0).row = s.row
  /-- A field that exists is one of the dataset. -/
  exists_in : ∀ pk, s.field = some pk → ∃ f, st.db.fields.get? pk = some f ∧
    f.reference_dataset = s.dataset

theorem Prepared.written {s : Save} {st : Stored} {w : World} (h : Prepared s st w)
    (hr : Resolved st.db.fields.get? st.next_id) :
    st.next_id ≤ (endOf (saveField 0) w).next_id ∧
      Written s st (endOf (saveField 0) w).db.fields.get? (endOf (saveField 0) w).next_id := by
  obtain ⟨hs, hlink⟩ := saveField_saves 0 w
  rw [h.fields, h.row] at hlink
  refine ⟨h.next_id ▸ hs.next_id, ?_⟩
  rcases hs.fields with hf | ⟨k, hk, hf⟩
  · exact Or.inl (hf.trans (by rw [h.fields]))
  · rw [h.fields, h.row] at hf
    rcases hlink with hlink | hlink
    · exact Or.inl hlink
    · refine Or.inr ⟨k, ?_⟩
      rcases hs.pk with hpk | ⟨hnone, j, hj, hj', hsome⟩
      · have hfield : s.field = some k := h.pk.symm.trans (hpk.symm.trans hk)
        obtain ⟨f, hget, hd⟩ := h.exists_in k hfield
        refine ⟨Or.inl hfield, ?_, ⟨hlink, fun g hg => ?_⟩, hf⟩
        · exact lt_of_lt_of_le (hr.below k f hget) (h.next_id ▸ hs.next_id)
        · rw [hget] at hg
          exact Option.some.inj hg ▸ hd
      · obtain rfl := Option.some.inj (hk.symm.trans hsome)
        refine ⟨Or.inr ⟨h.pk.symm.trans hnone, h.next_id ▸ hj⟩, hj', ⟨hlink, fun g hg => ?_⟩, hf⟩
        exact absurd (hr.below k g hg) (Nat.not_lt.mpr (h.next_id ▸ hj))

/-- A request has given out keys, and left the fields or written the row. -/
def Save.Left (s : Save) (st : Stored) (w : World) : Prop :=
  st.next_id ≤ w.next_id ∧ Written s st w.db.fields.get? w.next_id

theorem Save.left_of_same {s : Save} {st : Stored} {w : World}
    (hf : w.db.fields = st.db.fields) (hn : st.next_id ≤ w.next_id) : s.Left st w :=
  ⟨hn, Or.inl (by rw [hf])⟩

structure Loaded (s : Save) (st : Stored) (w : World) : Prop where
  fields : w.db.fields = st.db.fields
  next_id : w.next_id = st.next_id
  pk : (w.dataset_objects 0).pk = some s.dataset

theorem Save.loadDataset {s : Save} {st : Stored} {w : World}
    (hf : w.db.fields = st.db.fields) (hn : w.next_id = st.next_id) :
    wp (ReferenceData.loadDataset 0 s.dataset) (fun _ => Loaded s st) (fun _ => s.Left st) w := by
  refine wp_bind.mpr (wp_query (fun row _ faults log => ?_) fun _ _ _ => ?_)
  · refine wp_bind.mpr (wp_get.mpr (wp_setDatasetObject.mpr ⟨hf, hn, ?_⟩))
    rw [setObject_self]
    rfl
  · exact Save.left_of_same hf (le_of_eq hn.symm)

theorem Save.editField {s : Save} {st : Stored} {w : World} {f : FieldObject}
    (hf : w.db.fields = st.db.fields) (hn : w.next_id = st.next_id) (hpk : f.pk = s.field)
    (hd : f.row.reference_dataset = s.dataset)
    (hex : ∀ pk, s.field = some pk → ∃ f, st.db.fields.get? pk = some f ∧
      f.reference_dataset = s.dataset) :
    wp (ReferenceData.editField 0 s.attributes) (fun _ => Prepared s st) (fun _ => s.Left st)
      (w.setField 0 f) := by
  refine wp_setFieldObject.mpr ⟨hf, hn, ?_, ?_, hex⟩
  · rw [setField_self, setField_self]
    exact hpk
  · rw [setField_self, setField_self]
    simp only [hd]
    rfl

theorem Loaded.prepare {s : Save} {st : Stored} {w : World} (h : Loaded s st w) :
    wp s.prepare.run (fun _ => wp (ReferenceData.editField 0 s.attributes)
      (fun _ => Prepared s st) (fun _ => s.Left st)) (fun _ => s.Left st) w := by
  have hleft := s.left_of_same h.fields (le_of_eq h.next_id.symm)
  unfold Save.prepare
  cases hfield : s.field with
  | none =>
      refine wp_bind.mpr (wp_datasetPk h.pk (wp_setFieldObject.mpr ?_))
      refine Save.editField h.fields h.next_id hfield.symm rfl fun pk hpk => ?_
      rw [hfield] at hpk
      cases hpk
  | some pk =>
      refine wp_bind.mpr (wp_query (fun row hrow faults log => ?_) fun _ _ _ => hleft)
      refine wp_bind.mpr (wp_datasetPk h.pk (wp_bind.mpr ?_))
      refine wp_whenever (fun _ => wp_throw.mpr hleft) fun hd => wp_setFieldObject.mpr ?_
      have hds : row.reference_dataset = s.dataset := by simpa using hd
      refine Save.editField h.fields h.next_id hfield.symm hds fun pk' hpk' => ?_
      obtain rfl := Option.some.inj (hfield.symm.trans hpk')
      split at hrow
      next row' hget =>
        obtain rfl := Except.ok.inj hrow
        exact ⟨row', h.fields ▸ hget, hds⟩
      next => cases hrow

theorem Save.run_left (s : Save) {st : Stored} (hr : Resolved st.db.fields.get? st.next_id) :
    st.next_id ≤ (s.run st).next_id ∧
      Written s st (s.run st).db.fields.get? (s.run st).next_id := by
  suffices h : st.next_id ≤ (s.request.run st).next_id ∧
      Written s st (s.request.run st).db.fields.get? (s.request.run st).next_id by
    unfold Save.run
    split
    next => exact h
    next =>
      split
      next => exact ⟨le_refl _, Or.inl rfl⟩
      next => exact h
  refine endOf_of_wp (P := s.Left st) ?_
  show wp (atomic (forEach Call.run s.request.calls)) _ _ _
  have hback : ∀ {w w' : World}, w.db.fields = st.db.fields → s.Left st w' →
      s.Left st (rollback w w') := fun hf h => Save.left_of_same hf h.1
  refine wp_atomic (wp_mono (Q := fun _ => s.Left st) (E := fun _ => s.Left st) ?_ ?_ ?_)
  · refine wp_bind.mpr (wp_mono (Save.loadDataset rfl rfl) (fun _ w h => ?_) fun _ _ h => h)
    refine wp_bind.mpr (wp_mono h.prepare (fun _ w h => ?_) fun _ _ h => h)
    refine wp_bind.mpr (wp_mono h (fun _ w h => ?_) fun _ _ h => h)
    refine wp_bind.mpr (wp_mono (wp_of_endOf (P := s.Left st) (h.written hr)) ?_ fun _ _ h => h)
    exact fun _ _ h => h
  · exact fun _ w' h => ⟨fun _ _ => h, fun _ _ _ => hback rfl h⟩
  · exact fun _ w' h => hback rfl h

/-! ## Building record models -/

/-- Building the record model of a dataset with this recursion limit does not run into it. -/
def Builds (db : Db) (limit pk : Nat) : Prop :=
  ∀ row w, w.db = db → some Exn.RecursionError ∉ w.faults →
    wp (getRecordModelClass limit pk row)
      (fun _ w' => w'.db = db ∧ some Exn.RecursionError ∉ w'.faults)
      (fun e _ => e ≠ .RecursionError) w

theorem exists_bound {α : Type} {P : α → Nat → Prop} :
    ∀ l : List α, (∀ a ∈ l, ∃ n, ∀ m, n ≤ m → P a m) → ∃ n, ∀ a ∈ l, ∀ m, n ≤ m → P a m
  | [], _ => ⟨0, nofun⟩
  | a :: l, h => by
      obtain ⟨n, hn⟩ := h a List.mem_cons_self
      obtain ⟨n', hn'⟩ := exists_bound l fun b hb => h b (List.mem_cons_of_mem a hb)
      refine ⟨max n n', fun b hb m hm => ?_⟩
      rcases List.mem_cons.mp hb with rfl | hb
      · exact hn m (le_trans (le_max_left ..) hm)
      · exact hn' b hb m (le_trans (le_max_right ..) hm)

section

variable {db : Db} {limit : Nat}

theorem linkedDataset_builds {f : ReferenceDatasetField} {w : World} (hdb : w.db = db)
    (hf : some Exn.RecursionError ∉ w.faults) :
    wp (linkedDataset f)
      (fun r w' => w'.db = db ∧ some Exn.RecursionError ∉ w'.faults ∧
        (f.data_type = .FOREIGN_KEY → f.LinksTo db.fields.get? r.1))
      (fun e _ => e ≠ .RecursionError) w := by
  unfold linkedDataset
  cases hlink : f.linked_reference_dataset_field with
  | none => exact wp_throw.mpr nofun
  | some g =>
      refine wp_query_exact (fun r hr => ?_) fun e he => ?_
      · refine ⟨hdb, fun h => hf (List.mem_of_mem_tail h), fun ht => ⟨ht, ?_⟩⟩
        split at hr
        next => cases hr
        next h hh =>
          split at hr
          next => cases hr
          next row hrow =>
            obtain rfl := Except.ok.inj hr
            exact ⟨h, by rw [hlink]; exact hdb ▸ hh, rfl⟩
      · rcases he with he | he
        · rintro rfl
          exact hf he
        · rintro rfl
          split at he
          next => cases he
          next =>
            split at he
            next => cases he
            next => cases he

theorem modelAttrs_builds : ∀ (fields : List ReferenceDatasetField) (attrs : Dict Str ModelField),
    (∀ f ∈ fields, ∀ b, f.LinksTo db.fields.get? b → Builds db limit b) →
    ∀ w : World, w.db = db → some Exn.RecursionError ∉ w.faults →
      wp (modelAttrs (getRecordModelClass limit) fields attrs)
        (fun _ w' => w'.db = db ∧ some Exn.RecursionError ∉ w'.faults)
        (fun e _ => e ≠ .RecursionError) w
  | [], attrs, _, w, hdb, hf => ⟨hdb, hf⟩
  | f :: fields, attrs, hb, w, hdb, hf => by
      have ih := fun attrs w hdb hf => modelAttrs_builds fields attrs
        (fun g hg => hb g (List.mem_cons_of_mem f hg)) w hdb hf
      refine wp_bind.mpr (wp_whenever (fun ht => ?_) fun _ => ?_)
      · refine wp_bind.mpr (wp_mono (linkedDataset_builds hdb hf) ?_ fun _ _ h => h)
        rintro r w₁ ⟨hdb₁, hf₁, hl⟩
        have hbuild := hb f List.mem_cons_self r.1 (hl (by simpa using ht)) r.2 w₁ hdb₁ hf₁
        refine wp_bind.mpr (wp_mono hbuild (fun _ w₂ h => ?_) fun _ _ h => h)
        exact wp_modelAttrs_next nofun fun _ _ => ih _ w₂ h.1 h.2
      · exact wp_modelAttrs_next nofun fun _ _ => ih _ w hdb hf

theorem builds_of_links {pk : Nat} (h : ∀ b, Links db.fields.get? pk b → Builds db limit b) :
    Builds db (limit + 1) pk := by
  intro row w hdb hf
  refine wp_bind.mpr (wp_get.mpr ?_)
  split
  next => exact ⟨hdb, hf⟩
  next =>
    refine wp_bind.mpr (wp_modify.mpr (wp_bind.mpr ?_))
    refine wp_query_exact (fun fields hfields => ?_) fun e he => ?_
    · have hfields : fields = db.fieldsOf pk := by
        rw [← hdb]
        exact (Except.ok.inj hfields).symm
      have hlinks : ∀ f ∈ fields.map Prod.snd, ∀ b, f.LinksTo db.fields.get? b →
          Builds db limit b := by
        intro f hmem b hfb
        obtain ⟨⟨id, f⟩, hsorted, rfl⟩ := List.mem_map.mp hmem
        rw [hfields] at hsorted
        obtain ⟨hitem, hds⟩ := List.mem_filter.mp ((List.mem_insertionSort _).mp hsorted)
        exact h b ⟨id, f, (Dict.mem_items_iff ..).mp hitem, nofun, by simpa using hds, hfb⟩
      refine wp_bind.mpr (wp_mono (modelAttrs_builds _ _ hlinks _ hdb ?_) ?_ fun _ _ h => h)
      · exact fun h => hf (List.mem_of_mem_tail h)
      · intro attrs w₁ h₁
        refine wp_bind.mpr (wp_get.mpr ?_)
        split
        next => exact h₁
        next => exact h₁
    · rintro rfl
      rcases he with he | he
      · exact hf he
      · cases he

/-- Without cycles, every record model is built with enough levels. -/
theorem exists_builds (h : Order.Acyclic (Links db.fields.get?)) (pk : Nat) :
    ∃ n, ∀ limit, n ≤ limit → Builds db limit pk := by
  have hfin : {b | ∃ a, Links db.fields.get? a b}.Finite := by
    refine ((db.fields.items.map fun f => f.2.reference_dataset).finite_toSet).subset ?_
    rintro b ⟨a, id, f, _, _, _, _, g, hg, rfl⟩
    obtain ⟨k, _, hk⟩ := Option.bind_eq_some_iff.mp hg
    exact List.mem_map.mpr ⟨(k, g), (Dict.mem_items_iff ..).mpr hk, rfl⟩
  induction h.acc hfin pk with
  | intro pk _ ih =>
      obtain ⟨n, hn⟩ := exists_bound (P := fun (f : Nat × ReferenceDatasetField) limit =>
          f.2.reference_dataset = pk → ∀ b, f.2.LinksTo db.fields.get? b → Builds db limit b)
          db.fields.items fun f hf => by
        by_cases hl : f.2.reference_dataset = pk ∧ ∃ b, f.2.LinksTo db.fields.get? b
        · obtain ⟨hpk, b, hb⟩ := hl
          obtain ⟨n, hn⟩ := ih b ⟨f.1, f.2, (Dict.mem_items_iff ..).mp hf, nofun, hpk, hb⟩
          refine ⟨n, fun m hm _ b' hb' => ?_⟩
          obtain ⟨_, g, hg, rfl⟩ := hb
          obtain ⟨_, g', hg', rfl⟩ := hb'
          rw [hg] at hg'
          exact Option.some.inj hg' ▸ hn m hm
        · exact ⟨0, fun _ _ hpk b hb => absurd ⟨hpk, b, hb⟩ hl⟩
      refine ⟨n + 1, fun limit hlimit => ?_⟩
      obtain ⟨m, rfl⟩ : ∃ m, limit = m + 1 := ⟨limit - 1, by omega⟩
      refine builds_of_links fun b ⟨id, f, hf, _, hpk, hb⟩ => ?_
      exact hn (id, f) ((Dict.mem_items_iff ..).mpr hf) m (by omega) hpk b hb

end

/-! ## Building in a process that built nothing yet -/

section

variable {db : Db} {S : Set Nat}

/-- A process in which no model of these datasets is registered. -/
structure Unbuilt (db : Db) (S : Set Nat) (w : World) : Prop where
  db_eq : w.db = db
  registry : ∀ pk ∈ S, ∀ row, db.datasets.get? pk = some row →
    w.registry row.table_name = none

/-- What is stored when every process was started anew. -/
def Stored.restarted (st : Stored) : Stored := { st with registries := fun _ _ => none }

theorem Stored.unbuilt (st : Stored) (S : Set Nat) (env : Environment) :
    Unbuilt st.db S (st.restarted.open env) :=
  ⟨rfl, fun _ _ _ _ => rfl⟩

theorem linkedDataset_unbuilt {f : ReferenceDatasetField} {w : World} (h : Unbuilt db S w) :
    wp (linkedDataset f)
      (fun r w' => Unbuilt db S w' ∧ db.datasets.get? r.1 = some r.2 ∧
        ∀ b, f.LinksTo db.fields.get? b → b = r.1)
      (fun _ _ => True) w := by
  unfold linkedDataset
  cases hlink : f.linked_reference_dataset_field with
  | none => exact wp_throw.mpr trivial
  | some g =>
      refine wp_query (fun r hr faults log => ?_) fun _ _ _ => trivial
      split at hr
      next => cases hr
      next linked hlinked =>
        split at hr
        next => cases hr
        next row hrow =>
          obtain rfl := Except.ok.inj hr
          refine ⟨⟨h.db_eq, h.registry⟩, h.db_eq ▸ hrow, fun b hlinks => ?_⟩
          obtain ⟨_, h', hh', hb⟩ := hlinks
          rw [hlink] at hh'
          have hsame : w.db.fields.get? g = some h' := h.db_eq ▸ hh'
          rw [hlinked] at hsame
          exact hb ▸ congrArg _ (Option.some.inj hsame).symm

theorem modelAttrs_unbuilt {build : Nat → ReferenceDataset → M ModelClass}
    (hb : ∀ pk row w, db.datasets.get? pk = some row → Unbuilt db S w →
      wp (build pk row) (fun _ w' => pk ∉ S ∧ Unbuilt db S w') (fun _ _ => True) w) :
    ∀ fields attrs w, Unbuilt db S w →
      wp (modelAttrs build fields attrs)
        (fun _ w' => Unbuilt db S w' ∧
          ∀ f ∈ fields, ∀ b, f.LinksTo db.fields.get? b → b ∉ S)
        (fun _ _ => True) w
  | [], attrs, w, h => ⟨h, nofun⟩
  | f :: fields, attrs, w, h => by
      have hnext : ∀ w attrs, Unbuilt db S w → (∀ b, f.LinksTo db.fields.get? b → b ∉ S) →
          wp (modelAttrs build fields attrs)
            (fun _ w' => Unbuilt db S w' ∧
              ∀ g ∈ f :: fields, ∀ b, g.LinksTo db.fields.get? b → b ∉ S)
            (fun _ _ => True) w := by
        intro w attrs h hf
        refine wp_mono (modelAttrs_unbuilt hb fields attrs w h) (fun _ w' h' => ⟨h'.1, ?_⟩)
          fun _ _ h => h
        intro g hg
        rcases List.mem_cons.mp hg with rfl | hg
        · exact hf
        · exact h'.2 g hg
      refine wp_bind.mpr (wp_whenever (fun _ => ?_) fun hk => ?_)
      · refine wp_bind.mpr (wp_mono (linkedDataset_unbuilt h) ?_ fun _ _ h => h)
        rintro r w₁ ⟨h₁, hr, hl⟩
        refine wp_bind.mpr (wp_mono (hb r.1 r.2 w₁ hr h₁) (fun _ w₂ h₂ => ?_) fun _ _ h => h)
        exact wp_modelAttrs_next trivial fun _ _ =>
          hnext w₂ _ h₂.2 fun b hfb => hl b hfb ▸ h₂.1
      · refine wp_modelAttrs_next trivial fun _ _ => hnext w _ h fun b hl => ?_
        simp [hl.1] at hk

theorem unbuilt_of_links (hlinks : ∀ a ∈ S, ∃ b ∈ S, Links db.fields.get? a b)
    (hnames : ∀ a b row row', db.datasets.get? a = some row → db.datasets.get? b = some row' →
      row.table_name = row'.table_name → a = b) :
    ∀ limit pk row w, db.datasets.get? pk = some row → Unbuilt db S w →
      wp (getRecordModelClass limit pk row) (fun _ w' => pk ∉ S ∧ Unbuilt db S w')
        (fun _ _ => True) w
  | 0, pk, row, w, hrow, h => wp_throw.mpr trivial
  | limit + 1, pk, row, w, hrow, h => by
      have hset : ∀ (w : World) (model : Option ModelClass), Unbuilt db S w →
          (pk ∈ S → model = none) → Unbuilt db S
            { w with registry := Function.update w.registry row.table_name model } := by
        intro w model h hmodel
        refine ⟨h.db_eq, fun a ha row' hrow' => ?_⟩
        by_cases hname : row'.table_name = row.table_name
        · have hpk : a = pk := hnames a pk row' row hrow' hrow hname
          simp only [hname, Function.update_self]
          exact hmodel (hpk ▸ ha)
        · simp only [Function.update_of_ne hname]
          exact h.registry a ha row' hrow'
      refine wp_bind.mpr (wp_get.mpr ?_)
      split
      next model hmodel =>
        refine ⟨fun hpk => ?_, h⟩
        rw [h.registry pk hpk row hrow] at hmodel
        cases hmodel
      next =>
        refine wp_bind.mpr (wp_modify.mpr (wp_bind.mpr ?_))
        refine wp_query (fun fields hfields faults log => ?_) fun _ _ _ => trivial
        have hstart := hset w none h fun _ => rfl
        have hfields : fields = db.fieldsOf pk := h.db_eq ▸ (Except.ok.inj hfields).symm
        refine wp_bind.mpr (wp_mono (modelAttrs_unbuilt
          (unbuilt_of_links hlinks hnames limit) _ _ _ ⟨hstart.db_eq, hstart.registry⟩)
          ?_ fun _ _ h => h)
        intro attrs w₁ ⟨h₁, hl⟩
        have hpk : pk ∉ S := by
          intro hpk
          obtain ⟨b, hbS, id, f, hf, _, hd, hfb⟩ := hlinks pk hpk
          refine hl f (List.mem_map.mpr ⟨(id, f), ?_, rfl⟩) b hfb hbS
          rw [hfields]
          refine (List.mem_insertionSort _).mpr (List.mem_filter.mpr ⟨?_, by simpa using hd⟩)
          exact (Dict.mem_items_iff ..).mpr hf
        refine wp_bind.mpr (wp_get.mpr ?_)
        split
        next => exact ⟨hpk, h₁⟩
        next => exact ⟨hpk, hset w₁ _ h₁ fun hpk' => absurd hpk' hpk⟩

end

/-! ## Runs of saves -/

/-- What saves lead to, each of which is safe in the state it comes to. -/
inductive SafeRun : Stored → Stored → Prop where
  | refl (st : Stored) : SafeRun st st
  | save {start st : Stored} (s : Save) : SafeRun start st → s.Safe st →
      SafeRun start (s.run st)

theorem linksBut_of_written {s : Save} {st : Stored} {pk : Nat}
    (hr : Resolved st.db.fields.get? st.next_id)
    (hpk : s.field = some pk ∨ s.field = none ∧ st.next_id ≤ pk) (a b : Nat) :
    LinksBut st.db.fields.get? (some pk) a b ↔ LinksBut st.db.fields.get? s.field a b := by
  rcases hpk with hpk | ⟨hpk, hle⟩
  · rw [hpk]
  · rw [hpk]
    refine ⟨fun ⟨id, f, hf, _, h⟩ => ⟨id, f, hf, nofun, h⟩, fun ⟨id, f, hf, _, h⟩ => ?_⟩
    refine ⟨id, f, hf, fun he => ?_, h⟩
    exact absurd (hr.below id f hf) (Nat.not_lt.mpr (Option.some.inj he ▸ hle))

theorem Save.acyclic_iff (s : Save) {st : Stored} (hr : Resolved st.db.fields.get? st.next_id)
    (ha : Order.Acyclic (Links st.db.fields.get?)) :
    Order.Acyclic (Links (s.run st).db.fields.get?) ↔
      (s.run st).db.fields.get? = st.db.fields.get? ∨ s.Safe st := by
  rcases (s.run_left hr).2 with hsame | ⟨pk, hpk, _, hw, hset⟩
  · exact ⟨fun _ => Or.inl hsame, fun _ => hsame ▸ ha⟩
  · have hbut : LinksBut st.db.fields.get? (some pk) = LinksBut st.db.fields.get? s.field := by
      funext a b
      exact propext (linksBut_of_written hr hpk a b)
    have hiff := acyclic_set_iff hr hw ha
    rw [hbut] at hiff
    refine ⟨fun h => Or.inr (hiff.mp (hset ▸ h)), fun h => ?_⟩
    rcases h with hsame | hsafe
    · exact hsame ▸ ha
    · exact hset ▸ hiff.mpr hsafe

theorem Save.resolved (s : Save) {st : Stored} (hr : Resolved st.db.fields.get? st.next_id) :
    Resolved (s.run st).db.fields.get? (s.run st).next_id := by
  obtain ⟨hn, hsame | ⟨pk, _, hpk, hw, hset⟩⟩ := s.run_left hr
  · rw [hsame]
    exact ⟨hr.linked, fun id f hf => lt_of_lt_of_le (hr.below id f hf) hn⟩
  · rw [hset]
    exact hr.set hw hn hpk

/-- In every run of saves of which none links a dataset to one that leads back to it,
the links stay acyclic, and the record model of every dataset is built with enough
levels. -/
theorem links_acyclic {start st : Stored} (hstart : start.db.fields.items = [])
    (h : SafeRun start st) :
    Order.Acyclic (Links st.db.fields.get?) ∧
      ∀ pk, ∃ n, ∀ limit, n ≤ limit → Builds st.db limit pk := by
  suffices hinv : Resolved st.db.fields.get? st.next_id ∧
      Order.Acyclic (Links st.db.fields.get?) from
    ⟨hinv.2, fun pk => exists_builds hinv.2 pk⟩
  induction h with
  | refl =>
      have hnone : ∀ id, start.db.fields.get? id = none := by
        intro id
        cases hf : start.db.fields.get? id with
        | none => rfl
        | some f =>
            have hmem := (Dict.mem_items_iff ..).mpr hf
            rw [hstart] at hmem
            cases hmem
      refine ⟨⟨fun id f hf => ?_, fun id f hf => ?_⟩, fun a ha => ?_⟩
      · rw [hnone] at hf
        cases hf
      · rw [hnone] at hf
        cases hf
      · obtain ⟨b, ⟨id, f, hf, _⟩, _⟩ := TransGen.head'_iff.mp ha
        rw [hnone] at hf
        cases hf
  | save s _ hsafe ih =>
      exact ⟨s.resolved ih.1, (s.acyclic_iff ih.1 ih.2).mpr (Or.inr hsafe)⟩

/-- Three datasets without fields. -/
def newDatasets : Stored :=
  (Request.of true [.makeDataset 0 ⟨false, ("ref_a" : Str), none, none, false⟩, .saveDataset 0,
    .makeDataset 1 ⟨false, ("ref_b" : Str), none, none, false⟩, .saveDataset 1,
    .makeDataset 2 ⟨false, ("ref_c" : Str), none, none, false⟩, .saveDataset 2]).run .empty

def Save.ofForm (dataset : Nat) (attributes : ReferenceDatasetField) : Save :=
  { Environment.quiet with
    dataset := dataset, field := none, attributes := attributes, by_form := true }

/-- A new field that identifies the records of a dataset. -/
def nameField (dataset : Nat) : Save := .ofForm dataset {
  reference_dataset := dataset
  data_type := .CHAR
  is_identifier := true
  name := ("Name" : Str)
  column_name := some ("name" : Str)
  required := false
  linked_reference_dataset_field := none
  relationship_name := none
  sort_order := 0 }

def linkField (dataset target : Nat) : Save := .ofForm dataset {
  reference_dataset := dataset
  data_type := .FOREIGN_KEY
  is_identifier := false
  name := ("Link" : Str)
  column_name := none
  required := false
  linked_reference_dataset_field := some target
  relationship_name := some ("link" : Str)
  sort_order := 1 }

theorem links_acyclic_of_one_link :
    Order.Acyclic (Links ((linkField 1 4).run ((nameField 2).run newDatasets)).db.fields.get?) ∧
      ∀ pk, ∃ n, ∀ limit, n ≤ limit →
        Builds ((linkField 1 4).run ((nameField 2).run newDatasets)).db limit pk := by
  have hstart : newDatasets.db.fields.items = [] := by decide +kernel
  have hnone : ∀ f ∈ ((nameField 2).run newDatasets).db.fields.items,
      f.2.data_type ≠ .FOREIGN_KEY := by decide +kernel
  have hname : (nameField 2).Safe newDatasets := by
    rintro b ⟨hlink, _⟩
    cases hlink
  have hlink : (linkField 1 4).Safe ((nameField 2).run newDatasets) := by
    rintro b hb hpath
    have hpath' : b = 1 := by
      rcases ReflTransGen.cases_head hpath with h | ⟨c, ⟨id, f, hf, _, _, hk, _⟩, _⟩
      · exact h
      · exact absurd hk (hnone (id, f) ((Dict.mem_items_iff ..).mpr hf))
    have htwo : (((nameField 2).run newDatasets).db.fields.get? 4).map
        ReferenceDatasetField.reference_dataset = some 2 := by decide +kernel
    rw [ReferenceDatasetField.linksTo_iff rfl rfl, htwo, hpath'] at hb
    cases hb
  exact links_acyclic hstart (.save _ (.save _ (.refl _) hname) hlink)

/-- Three datasets, each linked to the next through the forms of the admin. -/
def threeLinked : Stored :=
  [nameField 1, nameField 2, nameField 3, linkField 1 5, linkField 2 6, linkField 3 4].foldl
    (fun st s => s.run st) newDatasets

theorem threeLinked_links :
    Links threeLinked.db.fields.get? 1 2 ∧ Links threeLinked.db.fields.get? 2 3 ∧
      Links threeLinked.db.fields.get? 3 1 := by
  have h7 : threeLinked.db.fields.get? 7 = some (linkField 1 5).row := by decide +kernel
  have h8 : threeLinked.db.fields.get? 8 = some (linkField 2 6).row := by decide +kernel
  have h9 : threeLinked.db.fields.get? 9 = some (linkField 3 4).row := by decide +kernel
  exact ⟨.of_get h7 rfl rfl rfl (by decide +kernel), .of_get h8 rfl rfl rfl (by decide +kernel),
    .of_get h9 rfl rfl rfl (by decide +kernel)⟩

/-- Three saves through the forms close a cycle, and once the processes were started
anew the record model of the first dataset is never built. -/
theorem links_cycle :
    ¬ Order.Acyclic (Links threeLinked.db.fields.get?) ∧
      ∀ limit row, threeLinked.db.datasets.get? 1 = some row →
        wp (getRecordModelClass limit 1 row) (fun _ _ => False) (fun _ _ => True)
          (threeLinked.restarted.open .quiet) := by
  obtain ⟨h12, h23, h31⟩ := threeLinked_links
  have hlinks : ∀ a ∈ ({1, 2, 3} : Set Nat), ∃ b ∈ ({1, 2, 3} : Set Nat),
      Links threeLinked.db.fields.get? a b := by
    rintro a (rfl | rfl | rfl)
    · exact ⟨2, by simp, h12⟩
    · exact ⟨3, by simp, h23⟩
    · exact ⟨1, by simp, h31⟩
  have hnames : ∀ d ∈ threeLinked.db.datasets.items, ∀ d' ∈ threeLinked.db.datasets.items,
      d.2.table_name = d'.2.table_name → d.1 = d'.1 := by decide +kernel
  refine ⟨fun h => h 1 (.head h12 (.head h23 (.single h31))), fun limit row hrow => ?_⟩
  have hunique : ∀ a b row row', threeLinked.db.datasets.get? a = some row →
      threeLinked.db.datasets.get? b = some row' → row.table_name = row'.table_name → a = b :=
    fun a b row row' ha hb => hnames (a, row) ((Dict.mem_items_iff ..).mpr ha) (b, row')
      ((Dict.mem_items_iff ..).mpr hb)
  have hbuild := unbuilt_of_links hlinks hunique limit 1 row _ hrow
    (threeLinked.unbuilt _ .quiet)
  exact wp_mono hbuild (fun _ _ h => h.1 (by simp)) fun _ _ h => h

end ReferenceData
