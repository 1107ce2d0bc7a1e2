import DataWorkspace.ReferenceData.Field

/-!
# What every run of a method does

A relation that the single statements and assignments respect is respected by whole
methods, whatever fails and wherever.  `Closed` lists what has to be checked of a
relation, and there is one lemma for each method that makes up a request.

The row of a dataset is only ever written right after `manage_published`, so these
two are one step here.
-/

namespace ReferenceData

open Py Sql

/-! ## Single steps -/

/-- What a statement may do to the tables: nothing, or change those of its own
database, which a read does not. -/
def Statement.Allows (st : Statement) (w w' : World) : Prop :=
  w' = w ∨ st.kind ≠ .read ∧ ∃ tables, w' = w.withTables st.db tables

section

variable (w : World) (db : Alias) (tables : Tables)

@[simp] theorem withTables_datasets :
    (w.withTables db tables).db.datasets = w.db.datasets := by cases db <;> rfl

@[simp] theorem withTables_fields : (w.withTables db tables).db.fields = w.db.fields := by
  cases db <;> rfl

@[simp] theorem withTables_dataset_objects :
    (w.withTables db tables).dataset_objects = w.dataset_objects := by cases db <;> rfl

@[simp] theorem withTables_field_objects :
    (w.withTables db tables).field_objects = w.field_objects := by cases db <;> rfl

@[simp] theorem withTables_registry : (w.withTables db tables).registry = w.registry := by
  cases db <;> rfl

@[simp] theorem withTables_depth : (w.withTables db tables).depth = w.depth := by
  cases db <;> rfl

@[simp] theorem withTables_log : (w.withTables db tables).log = w.log := by
  cases db <;> rfl

@[simp] theorem withTables_next_id : (w.withTables db tables).next_id = w.next_id := by
  cases db <;> rfl

end

theorem Statement.Allows.rows {st : Statement} {w w' : World} (h : st.Allows w w') :
    w'.db.datasets = w.db.datasets ∧ w'.db.fields = w.db.fields ∧
      w'.dataset_objects = w.dataset_objects ∧ w'.next_id = w.next_id ∧
      w'.field_objects = w.field_objects := by
  rcases h with rfl | ⟨_, tables, rfl⟩
  · exact ⟨rfl, rfl, rfl, rfl, rfl⟩
  · simp

theorem Statement.Allows.registry {st : Statement} {w w' : World} (h : st.Allows w w') :
    w'.registry = w.registry := by
  rcases h with rfl | ⟨_, tables, rfl⟩
  · rfl
  · simp

/-- The changes that are made to the attributes of a dataset object, other than by
`manage_published`. -/
inductive Evolves : (DatasetObject → DatasetObject) → Prop where
  | schema : Evolves fun o => { o with row := o.row.schemaBumped }
  | major : Evolves fun o => { o with row := o.row.majorBumped }
  | minor : Evolves fun o => { o with row := o.row.minorBumped }
  | remembered : Evolves DatasetObject.remembered
  | unsorted (db : Db) : Evolves (DatasetObject.sortedBy db none)

def World.after (w : World) (faults : List (Option Exn)) (log : List (Statement × Bool)) :
    World :=
  { w with faults := faults, log := log }

theorem wp_statement_exact {α : Type} {st : Statement}
    {f : World → Except Exn (α × World)} {Q : α → World → Prop} {E : Exn → World → Prop}
    {w : World}
    (hok : ∀ a w', f w = .ok (a, w') → Q a (w'.after w.faults.tail (w.log ++ [(st, true)])))
    (herr : ∀ e, some e ∈ w.faults ∨ f w = .error e →
      E e (w.after w.faults.tail (w.log ++ [(st, false)]))) :
    wp (statement st f) Q E w := by
  unfold wp statement
  cases hfault : w.faults.head?.join with
  | some e =>
      refine herr e (Or.inl ?_)
      cases hfaults : w.faults with
      | nil => simp [hfaults] at hfault
      | cons fault faults =>
          simp only [hfaults, List.head?_cons, Option.join_some] at hfault
          exact hfault ▸ List.mem_cons_self
  | none =>
      cases hf : f w with
      | ok r => exact hok r.1 r.2 hf
      | error e => exact herr e (Or.inr hf)

/-- A statement does what its function says or fails; the faults that are left and the
log are all it changes besides. -/
theorem wp_statement {α : Type} {st : Statement} {f : World → Except Exn (α × World)}
    {Q : α → World → Prop} {E : Exn → World → Prop} {w : World}
    (hok : ∀ a w', f w = .ok (a, w') → ∀ faults log,
      Q a { w' with faults := faults, log := log })
    (herr : ∀ e faults log, E e { w with faults := faults, log := log }) :
    wp (statement st f) Q E w :=
  wp_statement_exact (fun a w' h => hok a w' h _ _) fun e _ => herr e _ _

theorem wp_query_exact {α : Type} {db : Alias} {f : World → Except Exn α}
    {Q : α → World → Prop} {E : Exn → World → Prop} {w : World}
    (hok : ∀ a, f w = .ok a → Q a (w.after w.faults.tail (w.log ++ [(⟨db, .read⟩, true)])))
    (herr : ∀ e, some e ∈ w.faults ∨ f w = .error e →
      E e (w.after w.faults.tail (w.log ++ [(⟨db, .read⟩, false)]))) :
    wp (query db f) Q E w := by
  refine wp_statement_exact (fun a w' h => ?_) fun e h => herr e (h.imp id fun h => ?_)
  · obtain ⟨b, hb, hbw⟩ := map_eq_ok.mp h
    obtain ⟨rfl, rfl⟩ := Prod.mk.inj hbw
    exact hok b hb
  · cases hf : f w with
    | ok a => simp [hf, Except.map] at h
    | error e' => simpa [hf, Except.map] using h

theorem wp_query {α : Type} {db : Alias} {f : World → Except Exn α}
    {Q : α → World → Prop} {E : Exn → World → Prop} {w : World}
    (hok : ∀ a, f w = .ok a → ∀ faults log, Q a { w with faults := faults, log := log })
    (herr : ∀ e faults log, E e { w with faults := faults, log := log }) :
    wp (query db f) Q E w := by
  refine wp_statement (fun a w' h => ?_) herr
  obtain ⟨b, hb, hbw⟩ := map_eq_ok.mp h
  obtain ⟨rfl, rfl⟩ := Prod.mk.inj hbw
  exact hok b hb

theorem wp_execute {st : Statement} {f : World → Except Exn World}
    {Q : PUnit → World → Prop} {E : Exn → World → Prop} {w : World}
    (hok : ∀ w', f w = .ok w' → ∀ faults log, Q ⟨⟩ { w' with faults := faults, log := log })
    (herr : ∀ e faults log, E e { w with faults := faults, log := log }) :
    wp (execute st f) Q E w := by
  refine wp_statement (fun a w' h => ?_) herr
  obtain ⟨b, hb, hbw⟩ := map_eq_ok.mp h
  obtain ⟨rfl, rfl⟩ := Prod.mk.inj hbw
  exact hok b hb

/-- How a transaction ends: with a statement of its own, and with what it had done put
back where an exception leaves it. -/
theorem wp_atomic_exact {α : Type} {m : M α} {Q : α → World → Prop} {E : Exn → World → Prop}
    {w : World}
    (h : wp m
      (fun a w' =>
        let st : Statement := ⟨.default, if w'.depth - 1 = 0 then .commit else .release⟩
        let left : World := { w' with depth := w'.depth - 1 }
        Q a (left.after w'.faults.tail (w'.log ++ [(st, true)])) ∧
          ∀ e, E e (rollback w (left.after w'.faults.tail (w'.log ++ [(st, false)]))))
      (fun e w' => E e (rollback w w')) { w with depth := w.depth + 1 }) :
    wp (atomic m) Q E w := by
  refine wp_undoing (wp_bind.mpr (wp_modify.mpr (wp_bind.mpr (wp_mono h ?_ fun _ _ he => he))))
  intro a w' ⟨hok, herr⟩
  refine wp_bind.mpr (wp_modify.mpr (wp_bind.mpr (wp_get.mpr (wp_bind.mpr ?_))))
  refine wp_statement_exact (fun _ w₁ h₁ => ?_) fun e _ => herr e
  obtain ⟨w₂, h₂, heq⟩ := map_eq_ok.mp h₁
  obtain rfl := Except.ok.inj h₂
  obtain ⟨_, rfl⟩ := Prod.mk.inj heq
  exact hok

theorem wp_atomic {α : Type} {m : M α} {Q : α → World → Prop} {E : Exn → World → Prop}
    {w : World}
    (h : wp m
      (fun a w' => (∀ faults log,
          Q a { w' with depth := w'.depth - 1, faults := faults, log := log }) ∧
        ∀ e faults log,
          E e (rollback w { w' with depth := w'.depth - 1, faults := faults, log := log }))
      (fun e w' => E e (rollback w w')) { w with depth := w.depth + 1 }) :
    wp (atomic m) Q E w :=
  wp_atomic_exact (wp_mono h (fun _ _ h => ⟨h.1 _ _, fun e => h.2 e _ _⟩) fun _ _ h => h)

/-- A world in which an object was replaced. -/
def World.setObject (w : World) (self : Nat) (o : DatasetObject) : World :=
  { w with dataset_objects := Function.update w.dataset_objects self o }

@[simp] theorem setObject_self (w : World) (self : Nat) (o : DatasetObject) :
    (w.setObject self o).dataset_objects self = o := Function.update_self ..

theorem wp_setDatasetObject {self : Nat} {f : DatasetObject → DatasetObject}
    {Q : PUnit → World → Prop} {E : Exn → World → Prop} {w : World} :
    wp (setDatasetObject self f) Q E w ↔ Q ⟨⟩ (w.setObject self (f (w.dataset_objects self))) :=
  Iff.rfl

theorem wp_datasetObject {self : Nat} {Q : DatasetObject → World → Prop}
    {E : Exn → World → Prop} {w : World} :
    wp (datasetObject self) Q E w ↔ Q (w.dataset_objects self) w := Iff.rfl

theorem wp_datasetPk {ref pk : Nat} {Q : Nat → World → Prop} {E : Exn → World → Prop}
    {w : World} (hpk : (w.dataset_objects ref).pk = some pk) (h : Q pk w) :
    wp (datasetPk ref) Q E w := by
  refine wp_bind.mpr (wp_datasetObject.mpr ?_)
  simp only [hpk]
  exact h

/-- An object after `manage_published`. -/
def World.managed (w : World) (self : Nat) (original_published create : Bool) :
    DatasetObject :=
  { w.dataset_objects self with
    row := (w.dataset_objects self).row.managePublished original_published create w.now }

theorem wp_publishRow_free {self : Nat} {original_published create : Bool}
    {Q : PUnit → World → Prop} {E : Exn → World → Prop} {w : World} (o : DatasetObject)
    (ho : o = w.managed self original_published create)
    (hok : ∀ pk next_id faults log,
      (o.pk = some pk ∧ next_id = w.next_id ∨
        o.pk = none ∧ pk = w.next_id ∧ next_id = w.next_id + 1) →
      w.db.tableNameTaken o.pk o.row = false →
      Q ⟨⟩ { w.setObject self { o with pk := some pk } with
        db := { w.db with datasets := w.db.datasets.set pk o.row }
        next_id := next_id, faults := faults, log := log })
    (herr : ∀ e faults log, E e { w.setObject self o with faults := faults, log := log }) :
    wp (publishRow self original_published create) Q E w := by
  refine wp_bind.mpr (wp_get.mpr (wp_bind.mpr ?_))
  refine wp_setDatasetObject.mpr ?_
  show wp _ Q E (w.setObject self (w.managed self original_published create))
  rw [← ho]
  refine wp_bind.mpr (wp_datasetObject.mpr (wp_bind.mpr ?_))
  have hself : (w.setObject self o).dataset_objects self = o := Function.update_self ..
  rw [hself]
  refine wp_statement (fun pk w' h => ?_) herr
  intro faults log
  refine wp_setDatasetObject.mpr ?_
  split at h
  next => cases h
  next htaken =>
    have hfree : w.db.tableNameTaken o.pk o.row = false := Bool.not_eq_true _ ▸ htaken
    obtain ⟨rfl, rfl⟩ := Prod.mk.inj (Except.ok.inj h)
    have h2 : ∀ pk : Nat, Function.update (Function.update w.dataset_objects self o) self
        { o with pk := some pk } =
          Function.update w.dataset_objects self { o with pk := some pk } := fun pk =>
      Function.update_idem ..
    cases hpk : o.pk with
    | some pk =>
        have := hok pk w.next_id faults log (Or.inl ⟨hpk, rfl⟩) hfree
        simpa [World.setObject, h2, hpk] using this
    | none =>
        have := hok w.next_id (w.next_id + 1) faults log (Or.inr ⟨hpk, rfl, rfl⟩) hfree
        simpa [World.setObject, h2, hpk] using this

theorem wp_publishRow {self : Nat} {original_published create : Bool}
    {Q : PUnit → World → Prop} {E : Exn → World → Prop} {w : World} (o : DatasetObject)
    (ho : o = w.managed self original_published create)
    (hok : ∀ pk next_id faults log,
      (o.pk = some pk ∧ next_id = w.next_id ∨
        o.pk = none ∧ pk = w.next_id ∧ next_id = w.next_id + 1) →
      Q ⟨⟩ { w.setObject self { o with pk := some pk } with
        db := { w.db with datasets := w.db.datasets.set pk o.row }
        next_id := next_id, faults := faults, log := log })
    (herr : ∀ e faults log, E e { w.setObject self o with faults := faults, log := log }) :
    wp (publishRow self original_published create) Q E w :=
  wp_publishRow_free o ho (fun pk next_id faults log hpk _ => hok pk next_id faults log hpk) herr

def World.setField (w : World) (self : Nat) (f : FieldObject) : World :=
  { w with field_objects := Function.update w.field_objects self f }

@[simp] theorem setField_self (w : World) (self : Nat) (f : FieldObject) :
    (w.setField self f).field_objects self = f := Function.update_self ..

theorem wp_fieldObject {self : Nat} {Q : FieldObject → World → Prop}
    {E : Exn → World → Prop} {w : World} :
    wp (fieldObject self) Q E w ↔ Q (w.field_objects self) w := Iff.rfl

theorem wp_setFieldObject {self : Nat} {f : FieldObject → FieldObject}
    {Q : PUnit → World → Prop} {E : Exn → World → Prop} {w : World} :
    wp (setFieldObject self f) Q E w ↔ Q ⟨⟩ (w.setField self (f (w.field_objects self))) :=
  Iff.rfl

theorem wp_saveFieldRow {self : Nat} {Q : PUnit → World → Prop} {E : Exn → World → Prop}
    {w : World} (f : FieldObject) (hf : f = w.field_objects self)
    (hok : ∀ pk next_id faults log,
      (f.pk = some pk ∧ next_id = w.next_id ∨
        f.pk = none ∧ pk = w.next_id ∧ next_id = w.next_id + 1) →
      Q ⟨⟩ { w.setField self { f with pk := some pk } with
        db := { w.db with fields := w.db.fields.set pk f.row }
        next_id := next_id, faults := faults, log := log })
    (herr : ∀ e faults log, E e { w with faults := faults, log := log }) :
    wp (saveFieldRow self) Q E w := by
  subst hf
  refine wp_bind.mpr ?_
  show wp (_ >>= _) Q E w
  refine wp_bind.mpr (wp_statement (fun pk w' h => ?_) herr)
  intro faults log
  refine wp_setFieldObject.mpr ?_
  split at h
  next => cases h
  next =>
    obtain ⟨rfl, rfl⟩ := Prod.mk.inj (Except.ok.inj h)
    cases hpk : (w.field_objects self).pk with
    | some pk =>
        have := hok pk w.next_id faults log (Or.inl ⟨hpk, rfl⟩)
        simpa [World.setField, hpk] using this
    | none =>
        have := hok w.next_id (w.next_id + 1) faults log (Or.inr ⟨hpk, rfl, rfl⟩)
        simpa [World.setField, hpk] using this

theorem wp_deleteFieldRow {self : Nat} {Q : PUnit → World → Prop} {E : Exn → World → Prop}
    {w : World} (f : FieldObject) (hf : f = w.field_objects self)
    (hok : ∀ faults log,
      Q ⟨⟩ { w.setField self { f with pk := none } with
        db := { w.db with
          fields := w.db.fields.filterKeys fun pk => some pk ≠ f.pk
          datasets := w.db.datasets.mapValues fun d =>
            if d.sort_field = f.pk then { d with sort_field := none } else d }
        faults := faults, log := log })
    (herr : ∀ e faults log, E e { w with faults := faults, log := log }) :
    wp (deleteFieldRow self) Q E w := by
  subst hf
  refine wp_bind.mpr ?_
  show wp (_ >>= _) Q E w
  refine wp_bind.mpr (wp_execute (fun w' h => ?_) herr)
  intro faults log
  split at h
  next => cases h
  next =>
    obtain rfl := Except.ok.inj h
    exact hok faults log

/-- A relation between worlds that reading respects. -/
class QueryClosed (R : World → World → Prop) : Prop extends Std.Refl R, IsTrans World R where
  query {α : Type} (db : Alias) (f : World → Except Exn α) : Steps R (query db f)

/-- As `QueryClosed`, with the building of a record model as a single step. -/
class ReadClosed (R : World → World → Prop) : Prop extends QueryClosed R where
  recordModelClass (self : Nat) : Steps R (recordModelClass self)

/-- A relation between worlds that statements respect. -/
class StatementClosed (R : World → World → Prop) : Prop
    extends Std.Refl R, IsTrans World R where
  statement {α : Type} (st : Statement) (f : World → Except Exn (α × World))
    (allowed : ∀ w a w', f w = .ok (a, w') → st.Allows w w') : Steps R (statement st f)

/-- A relation between worlds that single steps respect. -/
class Closed (R : World → World → Prop) : Prop extends StatementClosed R where
  rollback {w w' : World} : R w w' → R w (rollback w w')
  depth (w : World) (n : Nat) : R w { w with depth := n }
  register (name : Str) (model : Option ModelClass) : Steps R (register name model)
  object (self : Nat) {f : DatasetObject → DatasetObject} :
    Evolves f → Steps R (setDatasetObject self f)
  next_id (w : World) : R w { w with next_id := w.next_id + 1 }
  publishRow (self : Nat) (original_published create : Bool) :
    Steps R (publishRow self original_published create)

/-- As `Closed`, with transactions and the building of a record model as single steps. -/
class MethodClosed (R : World → World → Prop) : Prop extends StatementClosed R where
  atomic {α : Type} {m : M α} : Steps R m → Steps R (atomic m)
  recordModelClass (self : Nat) : Steps R (recordModelClass self)
  object (self : Nat) {f : DatasetObject → DatasetObject} :
    Evolves f → Steps R (setDatasetObject self f)
  next_id (w : World) : R w { w with next_id := w.next_id + 1 }
  publishRow (self : Nat) (original_published create : Bool) :
    Steps R (publishRow self original_published create)

/-- As `Closed`, and respected by what is done to the rows and objects of fields. -/
class FieldClosed (R : World → World → Prop) : Prop extends Closed R where
  saveFieldRow (self : Nat) : Steps R (saveFieldRow self)
  deleteFieldRow (self : Nat) : Steps R (deleteFieldRow self)

theorem wp_modelAttrs_next {build : Nat → ReferenceDataset → M ModelClass}
    {f : ReferenceDatasetField} {fields : List ReferenceDatasetField}
    {attrs : Dict Str ModelField} {Q : Dict Str ModelField → World → Prop}
    {E : Exn → World → Prop} {w : World} (hnone : E .TypeError w)
    (hsome : ∀ name, f.attrName = some name →
      wp (modelAttrs build fields (attrs.set name (f.modelField name))) Q E w) :
    wp (match f.attrName with
      | none => throw .TypeError
      | some name => modelAttrs build fields (attrs.set name (f.modelField name))) Q E w := by
  cases hname : f.attrName with
  | none => exact wp_throw.mpr hnone
  | some name => exact hsome name hname

namespace Closed

variable {R : World → World → Prop}

/-! ## Statements -/

section

variable [StatementClosed R]

instance queryClosed : QueryClosed R where
  query := fun db f => by
    refine StatementClosed.statement _ _ fun w a w' h => Or.inl ?_
    obtain ⟨b, _, hb⟩ := map_eq_ok.mp h
    exact (Prod.mk.inj hb).2.symm

theorem execute (st : Statement) (f : World → Except Exn World)
    (allowed : ∀ w w', f w = .ok w' → st.Allows w w') : Steps R (execute st f) := by
  refine StatementClosed.statement _ _ fun w a w' h => ?_
  obtain ⟨w₁, h₁, hw⟩ := map_eq_ok.mp h
  exact (Prod.mk.inj hw).2 ▸ allowed w w₁ h₁

theorem changeTable (st : Statement) (name : Str)
    (f : World → Table → Except Exn (Option Table)) (hst : st.kind ≠ .read) :
    Steps R (changeTable st name f) := by
  refine execute _ _ fun w w' h => ?_
  obtain ⟨t, _, h⟩ := bind_eq_ok.mp h
  obtain ⟨t', _, h⟩ := bind_eq_ok.mp h
  exact Or.inr ⟨hst, _, (Except.ok.inj h).symm⟩

theorem createModel (db : Alias) (name : Str) (columns : List Column) :
    Steps R (createModel db name columns) := by
  refine execute _ _ fun w w' h => ?_
  split at h
  next => cases h
  next =>
    split at h
    next => exact Or.inr ⟨nofun, _, (Except.ok.inj h).symm⟩
    next => cases h

theorem alterDbTable (db : Alias) (old new : Str) : Steps R (alterDbTable db old new) := by
  refine .whenever (execute _ _ fun w w' h => ?_)
  obtain ⟨t, _, h⟩ := bind_eq_ok.mp h
  split at h
  next => cases h
  next => exact Or.inr ⟨nofun, _, (Except.ok.inj h).symm⟩

theorem atomic_of_rollback {α : Type} {m : M α}
    (hr : ∀ {w w' : World}, R w w' → R w (ReferenceData.rollback w w'))
    (hd : ∀ (w : World) (n : Nat), R w { w with depth := n }) (hm : Steps R m) :
    Steps R (ReferenceData.atomic m) := by
  refine Steps.undoing ?_ fun _ _ => hr
  refine .bind (.modify fun w => hd w _) fun _ => ?_
  refine .bind hm fun _ => ?_
  refine .bind (.modify fun w => hd w _) fun _ => ?_
  refine .bind .get fun _ => ?_
  refine .bind (execute _ _ ?_) fun _ => .pure _
  intro w w' h
  exact Or.inl (Except.ok.inj h).symm

end

/-! ## Objects and model classes -/

section

variable [QueryClosed R]

theorem query {α : Type} (db : Alias) (f : World → Except Exn α) : Steps R (query db f) :=
  QueryClosed.query db f

theorem datasetObject (self : Nat) : Steps R (datasetObject self) :=
  .bind .get fun _ => .pure _

theorem datasetPk (self : Nat) : Steps R (datasetPk self) := by
  refine .bind (datasetObject self) fun o => ?_
  cases o.pk with
  | some pk => exact .pure pk
  | none => exact .throw _

theorem linkedDataset (f : ReferenceDatasetField) : Steps R (linkedDataset f) := by
  unfold ReferenceData.linkedDataset
  split
  next => exact .throw _
  next => exact query _ _

theorem modelAttrs {build : Nat → ReferenceDataset → M ModelClass}
    (hb : ∀ pk row, Steps R (build pk row)) :
    ∀ fields attrs, Steps R (modelAttrs build fields attrs)
  | [], attrs => .pure attrs
  | f :: fields, attrs => by
      refine .bind (.whenever ?_) fun _ => ?_
      · exact .bind (linkedDataset f) fun _ => .bind (hb _ _) fun _ => .pure _
      · split
        next => exact .throw _
        next => exact modelAttrs hb fields _

theorem getRecordModelClass_of_register
    (hr : ∀ name model, Steps R (ReferenceData.register name model)) :
    ∀ limit pk row, Steps R (getRecordModelClass limit pk row)
  | 0, _, _ => .throw _
  | limit + 1, pk, row => by
      refine .bind .get fun w => ?_
      split
      next => exact .pure _
      next =>
        refine .bind (hr _ _) fun _ => ?_
        refine .bind (query _ _) fun fields => ?_
        refine .bind (modelAttrs (getRecordModelClass_of_register hr limit) _ _) fun attrs => ?_
        refine .bind .get fun w => ?_
        split
        next => exact .pure _
        next => exact .bind (hr _ _) fun _ => .pure _

theorem recordModelClass_of_register
    (hr : ∀ name model, Steps R (ReferenceData.register name model)) (self : Nat) :
    Steps R (recordModelClass self) := by
  refine .bind (datasetPk self) fun pk => ?_
  refine .bind (datasetObject self) fun o => ?_
  exact .bind .get fun w => getRecordModelClass_of_register hr _ _ _

end

section

variable [Closed R]

instance methodClosed : MethodClosed R where
  atomic := atomic_of_rollback rollback depth
  recordModelClass := recordModelClass_of_register register
  object := object
  next_id := next_id
  publishRow := publishRow

end

section

variable [MethodClosed R]

instance readClosed : ReadClosed R where
  recordModelClass := MethodClosed.recordModelClass

end

/-! ## Records -/

section

variable [ReadClosed R]

theorem getRecords (self : Nat) : Steps R (getRecords self) :=
  .bind (ReadClosed.recordModelClass self) fun _ => .bind (datasetObject self) fun _ => query _ _

theorem recordData (model : ModelClass) (v : Values) :
    ∀ fields, Steps R (recordData model v fields)
  | [] => .pure _
  | f :: fields => by
      unfold ReferenceData.recordData
      split
      next => exact .throw _
      next =>
        refine .bind (.whenever (query _ _)) fun _ => ?_
        exact .bind (recordData model v fields) fun _ => .pure _

end

variable [MethodClosed R]

theorem syncRecord (self : Nat) (external_database : Str) (model : ModelClass)
    (record : Nat × Values) : Steps R (syncRecord self external_database model record) := by
  refine .bind (datasetPk self) fun pk => ?_
  refine .bind (datasetObject self) fun o => ?_
  refine .bind (query _ _) fun fields => ?_
  refine .bind (recordData _ _ _) fun data => ?_
  refine .bind (query _ _) fun saved => ?_
  split
  next => exact changeTable _ _ _ nofun
  next => exact changeTable _ _ _ nofun

theorem syncToExternalDatabase (self : Nat) (external_database : Str) :
    Steps R (syncToExternalDatabase self external_database) := by
  refine .bind (MethodClosed.recordModelClass self) fun model => ?_
  refine .bind (getRecords self) fun records => ?_
  refine .bind (datasetObject self) fun o => ?_
  refine .bind (.forEach (syncRecord self external_database model) _) fun _ => ?_
  exact changeTable _ _ _ nofun

theorem createExternalDatabaseTable (self : Nat) (db_name : Str) :
    Steps R (createExternalDatabaseTable self db_name) :=
  .bind (MethodClosed.recordModelClass self) fun _ => .bind (datasetObject self) fun _ => createModel _ _ _

theorem dropExternalDatabaseTable (self : Nat) (db_name : Str) :
    Steps R (dropExternalDatabaseTable self db_name) := by
  refine .bind (MethodClosed.recordModelClass self) fun _ => .bind (datasetObject self) fun _ => ?_
  exact .catching (changeTable _ _ _ nofun) fun _ => .pure _

/-! ## Saving a dataset -/

theorem saveCreated (self : Nat) (model : ModelClass) : Steps R (saveCreated self model) := by
  refine .bind (datasetObject self) fun o => ?_
  refine .bind (createModel _ _ _) fun _ => ?_
  exact .forSome (createExternalDatabaseTable self)

theorem saveChanged (self : Nat) : Steps R (saveChanged self) := by
  refine .bind (datasetObject self) fun o => ?_
  refine .bind (.whenever ?_) fun _ => ?_
  · refine .bind (.forSome (dropExternalDatabaseTable self)) fun _ => ?_
    refine .forSome fun db_name => ?_
    refine .bind (createExternalDatabaseTable self db_name) fun _ => ?_
    exact syncToExternalDatabase self db_name
  · exact Steps.whenever (.forEach (fun db => alterDbTable db _ _) _)

theorem saveTables (self : Nat) (create : Bool) (model : ModelClass) :
    Steps R (saveTables self create model) := by
  cases create with
  | true => exact saveCreated self model
  | false => exact saveChanged self

theorem saveDataset (self : Nat) : Steps R (saveDataset self) := by
  refine MethodClosed.atomic ?_
  refine .bind (datasetObject self) fun o => ?_
  refine .bind (.whenever (MethodClosed.object self .schema)) fun _ => ?_
  refine .bind (MethodClosed.publishRow self _ _) fun _ => ?_
  refine .bind (MethodClosed.recordModelClass self) fun model => ?_
  refine .bind (saveTables self _ model) fun _ => ?_
  refine .bind (MethodClosed.object self .remembered) fun _ => ?_
  refine .bind (query _ _) fun _ => ?_
  exact execute _ _ fun w w' h => Or.inl (Except.ok.inj h).symm

theorem incrementSchemaVersion (self : Nat) : Steps R (incrementSchemaVersion self) :=
  .bind (MethodClosed.object self .schema) fun _ => saveDataset self

theorem incrementMajorVersion (self : Nat) : Steps R (incrementMajorVersion self) :=
  .bind (MethodClosed.object self .major) fun _ => saveDataset self

theorem incrementMinorVersion (self : Nat) : Steps R (incrementMinorVersion self) :=
  .bind (MethodClosed.object self .minor) fun _ => saveDataset self

/-! ## Saving and deleting records -/

theorem syncExternally (self : Nat) : Steps R (syncExternally self) :=
  .bind (datasetObject self) fun _ => .forSome (syncToExternalDatabase self)

theorem writeRecord (self : Nat) (internal_id : Option Nat) (form_data : List (Str × Value)) :
    Steps R (writeRecord self internal_id form_data) := by
  refine .bind (MethodClosed.recordModelClass self) fun model => ?_
  refine .bind (datasetObject self) fun o => ?_
  split
  next =>
    refine .bind .get fun w => ?_
    exact .bind (changeTable _ _ _ nofun) fun _ => .modify MethodClosed.next_id
  next => exact .bind (changeTable _ _ _ nofun) fun _ => query _ _

theorem saveRecord (self : Nat) (internal_id : Option Nat) (form_data : List (Str × Value))
    (sync_externally : Bool) :
    Steps R (saveRecord self internal_id form_data sync_externally) := by
  refine MethodClosed.atomic ?_
  refine .bind (writeRecord self internal_id form_data) fun _ => ?_
  refine .bind (incrementMinorVersion self) fun _ => ?_
  exact Steps.whenever (syncExternally self)

theorem deleteRecord (self : Nat) (internal_id : Nat) :
    Steps R (deleteRecord self internal_id) := by
  refine MethodClosed.atomic ?_
  refine .bind (incrementMinorVersion self) fun _ => ?_
  refine .bind (getRecords self) fun records => ?_
  refine .bind (.whenever (.throw _)) fun _ => ?_
  refine .bind (datasetObject self) fun o => ?_
  refine .bind (changeTable _ _ _ nofun) fun _ => ?_
  exact .bind (syncExternally self) fun _ => saveDataset self

theorem deleteAllRecords (self : Nat) : Steps R (deleteAllRecords self) := by
  refine MethodClosed.atomic ?_
  refine .bind (incrementMinorVersion self) fun _ => ?_
  refine .bind (MethodClosed.recordModelClass self) fun _ => ?_
  refine .bind (datasetObject self) fun o => ?_
  refine .bind (changeTable _ _ _ nofun) fun _ => ?_
  exact .bind (syncExternally self) fun _ => saveDataset self

/-! ## Fields -/

theorem fieldObject (self : Nat) : Steps R (fieldObject self) :=
  .bind .get fun _ => .pure _

theorem getField (model : ModelClass) (name : Option Str) : Steps R (model.getField name) := by
  unfold ModelClass.getField
  split
  next => exact .pure _
  next => exact .throw _

theorem checkLink (f : FieldObject) : Steps R (checkLink f) := by
  refine .forSome fun id => ?_
  refine .bind (query _ _) fun linked => ?_
  refine .bind (.whenever (.throw _)) fun _ => ?_
  exact .bind (query _ _) fun circular => .whenever (.throw _)

theorem hasBeenUsed (reference_dataset : Nat) : Steps R (hasBeenUsed reference_dataset) := by
  refine .bind (datasetObject _) fun o => ?_
  split
  next => exact .pure _
  next => exact .bind (getRecords _) fun _ => .pure _

theorem removeColumn (f : FieldObject) (name : Str) (model : ModelClass) (db : Alias) :
    Steps R (removeColumn f name model db) := by
  unfold ReferenceData.removeColumn
  split
  next => exact .bind (getField model _) fun _ => changeTable _ _ _ nofun
  next =>
    refine .bind (query _ _) fun others => .whenever ?_
    exact .bind (getField model _) fun _ => changeTable _ _ _ nofun

section

variable {self : Nat}

theorem addColumnToDb (hs : Steps R (saveFieldRow self)) : Steps R (addColumnToDb self) := by
  refine .bind hs fun _ => ?_
  refine .bind (fieldObject self) fun f => ?_
  refine .bind (incrementSchemaVersion _) fun _ => ?_
  refine .bind (MethodClosed.recordModelClass _) fun model => ?_
  refine .bind (datasetObject _) fun o => ?_
  refine .forEach (fun db => ?_) _
  exact .bind (getField model _) fun _ => changeTable _ _ _ nofun

theorem updateDbColumnName (hs : Steps R (saveFieldRow self)) :
    Steps R (updateDbColumnName self) := by
  refine .bind (fieldObject self) fun f => ?_
  refine .bind (MethodClosed.recordModelClass _) fun model => ?_
  refine .bind (getField model _) fun from_field => ?_
  refine .bind hs fun _ => ?_
  refine .bind (incrementSchemaVersion _) fun _ => ?_
  refine .bind (MethodClosed.recordModelClass _) fun model' => ?_
  refine .bind (getField model' _) fun to_field => ?_
  refine .bind (datasetObject _) fun o => ?_
  refine MethodClosed.atomic (.forEach (fun db => ?_) _)
  exact .whenever (changeTable _ _ _ nofun)

theorem updateDbColumnDataType (hs : Steps R (saveFieldRow self)) :
    Steps R (updateDbColumnDataType self) := by
  refine .bind hs fun _ => ?_
  refine .bind (fieldObject self) fun f => ?_
  refine .bind (incrementSchemaVersion _) fun _ => ?_
  refine .bind (datasetObject _) fun o => ?_
  refine .forEach (fun db => ?_) _
  split
  next => exact changeTable _ _ _ nofun
  next => exact .throw _

theorem saveColumn (hs : Steps R (saveFieldRow self)) (f : FieldObject) :
    Steps R (saveColumn self f) := by
  unfold ReferenceData.saveColumn
  split
  next => exact .catching (MethodClosed.atomic (addColumnToDb hs)) fun _ => .pure _
  next =>
    refine .bind (.whenever (updateDbColumnName hs)) fun _ => ?_
    exact Steps.whenever (updateDbColumnDataType hs)

theorem saveChecked (hs : Steps R (saveFieldRow self)) (f : FieldObject) :
    Steps R (saveChecked self f) := by
  refine .bind (saveColumn hs f) fun _ => ?_
  refine .bind (hasBeenUsed _) fun used => ?_
  exact .bind (.whenever (incrementMajorVersion _)) fun _ => hs

theorem saveField (hs : Steps R (saveFieldRow self)) : Steps R (saveField self) := by
  refine MethodClosed.atomic (.bind (fieldObject self) fun f => ?_)
  exact .bind (checkLink f) fun _ => saveChecked hs f

theorem deleteField (hd : Steps R (deleteFieldRow self)) : Steps R (deleteField self) := by
  refine MethodClosed.atomic (.bind (fieldObject self) fun f => ?_)
  refine .bind (MethodClosed.recordModelClass _) fun model => ?_
  refine .bind (datasetObject _) fun o => ?_
  refine .bind (.forEach (removeColumn f _ model) _) fun _ => ?_
  refine .bind .get fun w => ?_
  refine .bind (.whenever ?_) fun _ => ?_
  · exact .bind (MethodClosed.object _ (.unsorted _)) fun _ => saveDataset _
  · refine .bind hd fun _ => ?_
    exact .bind (incrementSchemaVersion _) fun _ => incrementMajorVersion _

end

end Closed

end ReferenceData
