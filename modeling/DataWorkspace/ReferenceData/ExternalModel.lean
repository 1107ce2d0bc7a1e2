import DataWorkspace.Async.Scopes
import DataWorkspace.Py.Text

/-!
# Record models without their dataset

`external_model_class` takes the field `reference_dataset` out of the fields of a record model and
puts back what it found.  The fields belong to the class, so all requests of a process share them.

Django computes `local_concrete_fields` from `local_fields` when it is first read.
-/

namespace ReferenceData

namespace ExternalModel

open Py Async

/-- A field of a model.  It is concrete if it has a column. -/
structure Field where
  name : Str
  has_column : Bool
deriving DecidableEq

/-- `model_class._meta`. -/
structure Meta where
  local_fields : List Field
  /-- `none` until it is read. -/
  cached_local_concrete_fields : Option (List Field)
deriving DecidableEq

/-- What reading `local_concrete_fields` gives. -/
def Meta.local_concrete_fields (m : Meta) : List Field :=
  m.cached_local_concrete_fields.getD (m.local_fields.filter fun field => field.has_column)

/-- The name of the field. -/
def reference_dataset : Str := "reference_dataset"

def clean_fields (fields : List Field) : List Field :=
  fields.filter fun field => field.name ≠ reference_dataset

/-- `local_fields` and `local_concrete_fields` as they were found. -/
structure Found where
  local_fields : List Field
  local_concrete_fields : List Field
deriving DecidableEq

/-- Up to the `yield`. -/
def remove (m : Meta) : Found × Meta :=
  let local_fields := m.local_fields
  let m := { m with local_fields := clean_fields local_fields }
  let local_concrete_fields := m.local_concrete_fields
  (⟨local_fields, local_concrete_fields⟩,
    { m with cached_local_concrete_fields := some (clean_fields local_concrete_fields) })

/-- Behind the `yield`, which an exception does not come to. -/
def restore (found : Found) (_ : Meta) : Meta where
  local_fields := found.local_fields
  cached_local_concrete_fields := some found.local_concrete_fields

def external_model_class : Scope Meta Found where
  enter := remove
  leave := restore

theorem clean_fields_clean_fields (fields : List Field) :
    clean_fields (clean_fields fields) = clean_fields fields := by
  simp only [clean_fields, List.filter_filter, Bool.and_self]

theorem not_mem_clean_fields {fields : List Field} {field : Field}
    (hname : field.name = reference_dataset) : field ∉ clean_fields fields := by
  simp [clean_fields, hname]

/-- What a model has got that is without the field. -/
def cut (local_fields local_concrete_fields : List Field) : Meta where
  local_fields := clean_fields local_fields
  cached_local_concrete_fields := some (clean_fields local_concrete_fields)

theorem enter_cut (local_fields local_concrete_fields : List Field) :
    remove (cut local_fields local_concrete_fields) =
      (⟨clean_fields local_fields, clean_fields local_concrete_fields⟩,
        cut local_fields local_concrete_fields) := by
  simp [remove, cut, Meta.local_concrete_fields, clean_fields_clean_fields]

theorem cuts (local_fields local_concrete_fields : List Field) :
    external_model_class.Cuts ⟨local_fields, some local_concrete_fields⟩
      (cut local_fields local_concrete_fields) ⟨local_fields, local_concrete_fields⟩
      ⟨clean_fields local_fields, clean_fields local_concrete_fields⟩ where
  enter_whole := rfl
  enter_cut := enter_cut local_fields local_concrete_fields
  leave_whole := fun _ => rfl
  leave_cut := fun _ => rfl

/-- A model that no request uses. -/
def unused {ι : Type} (m : Meta) : ScopeState ι Meta Found := ⟨m, fun _ => none⟩

/-- The fields that are seen of a model. -/
def Meta.fields (m : Meta) : List Field × List Field := (m.local_fields, m.local_concrete_fields)

section

variable {ι : Type} [DecidableEq ι] {m : Meta} {events : List (ScopeEvent ι)}
  {s : ScopeState ι Meta Found}

theorem fields_eq_iff_of_cached {local_fields local_concrete_fields : List Field}
    (hfield : ∃ field ∈ local_fields, field.name = reference_dataset)
    (hrun : external_model_class.run (unused ⟨local_fields, some local_concrete_fields⟩) events =
      some s) :
    s.value.fields = (local_fields, local_concrete_fields) ↔ Covered events := by
  obtain ⟨field, hmem, hname⟩ := hfield
  have hne : local_fields ≠ clean_fields local_fields := by
    intro heq
    rw [heq] at hmem
    exact not_mem_clean_fields hname hmem
  have hfollows := Scope.Follows.of_run (cuts local_fields local_concrete_fields) hrun
  constructor
  · intro hfields
    by_contra hcovered
    rw [hfollows.cut_of_not_covered hcovered] at hfields
    exact hne (Prod.ext_iff.mp hfields).1.symm
  · intro hcovered
    rw [hfollows.whole_of_covered hcovered]
    rfl

theorem filter_clean_fields (fields : List Field) :
    (clean_fields fields).filter (fun field => field.has_column) =
      clean_fields (fields.filter fun field => field.has_column) := by
  simp only [clean_fields, List.filter_filter, Bool.and_comm]

/-- Where they have not, the first use reads them without the field, and it never comes back. -/
structure WithoutField (s : ScopeState ι Meta Found) : Prop where
  value : ∃ fields, s.value.cached_local_concrete_fields = some (clean_fields fields)
  kept : ∀ {i found}, s.kept i = some found →
    ∃ fields, found.local_concrete_fields = clean_fields fields

theorem WithoutField.enter {s : ScopeState ι Meta Found} {fields : List Field}
    (hvalue : (remove s.value).1.local_concrete_fields = clean_fields fields)
    (hkept : ∀ {j found}, s.kept j = some found →
      ∃ fields, found.local_concrete_fields = clean_fields fields) (i : ι) :
    WithoutField ⟨(remove s.value).2, Function.update s.kept i (some (remove s.value).1)⟩ := by
  constructor
  · exact ⟨(remove s.value).1.local_concrete_fields, rfl⟩
  · intro j found hj
    rcases Scope.kept_update_some hj with ⟨-, rfl⟩ | ⟨-, hj⟩
    · exact ⟨fields, hvalue⟩
    · exact hkept hj

theorem WithoutField.step {s s' : ScopeState ι Meta Found} {e : ScopeEvent ι} (h : WithoutField s)
    (he : external_model_class.step s e = some s') : WithoutField s' := by
  obtain ⟨i, rfl, rfl⟩ | ⟨i, found, rfl, hi, rfl⟩ | ⟨i, rfl, rfl⟩ := Scope.step_cases he
  · obtain ⟨fields, hfields⟩ := h.value
    have hvalue : (remove s.value).1.local_concrete_fields = clean_fields fields := by
      simp [remove, Meta.local_concrete_fields, hfields]
    exact WithoutField.enter hvalue h.kept i
  · obtain ⟨fields, hfound⟩ := h.kept hi
    exact ⟨⟨fields, congrArg some hfound⟩, fun hj => h.kept (Scope.kept_update_none hj)⟩
  · exact ⟨h.value, fun hj => h.kept (Scope.kept_update_none hj)⟩

theorem withoutField_of_run (hcache : m.cached_local_concrete_fields = none) (hevents : events ≠ [])
    (hrun : external_model_class.run (unused m) events = some s) : WithoutField s := by
  induction events using List.reverseRecOn generalizing s with
  | nil => exact absurd rfl hevents
  | append_singleton events e ih =>
      obtain ⟨s₁, hrun₁, he⟩ := external_model_class.run_concat_some hrun
      by_cases hfirst : events = []
      · subst hfirst
        cases hrun₁
        cases e with
        | enter i =>
            obtain rfl := Option.some.inj he
            have hvalue : (remove m).1.local_concrete_fields =
                clean_fields (m.local_fields.filter fun field => field.has_column) := by
              simp [remove, Meta.local_concrete_fields, hcache, filter_clean_fields]
            exact WithoutField.enter hvalue (fun hj => by cases hj) i
        | leave i => simp [Scope.step, unused] at he
        | abandon i => simp [Scope.step, unused] at he
      · exact (ih hfirst hrun₁).step he

/-- The fields are what they were before the first use if and only if there was none, or the
concrete fields had been read before it and the events come in stretches. -/
theorem fields_restored_iff (hlocal : ∃ field ∈ m.local_fields, field.name = reference_dataset)
    (hconcrete : ∃ field ∈ m.local_concrete_fields, field.name = reference_dataset)
    (hrun : external_model_class.run (unused m) events = some s) :
    s.value.fields = m.fields ↔
      events = [] ∨ m.cached_local_concrete_fields ≠ none ∧ Covered events := by
  by_cases hevents : events = []
  · subst hevents
    cases hrun
    simp [unused]
  · obtain ⟨local_fields, cached⟩ := m
    cases cached with
    | some local_concrete_fields =>
        have hiff := fields_eq_iff_of_cached hlocal hrun
        simp only [hevents, false_or, ne_eq, reduceCtorEq, not_false_eq_true, true_and]
        exact hiff
    | none =>
        simp only [hevents, false_or, ne_eq, not_true_eq_false, false_and, iff_false]
        intro hfields
        obtain ⟨field, hmem, hname⟩ := hconcrete
        obtain ⟨fields, hfields'⟩ := (withoutField_of_run rfl hevents hrun).value
        have hread : s.value.local_concrete_fields = clean_fields fields := by
          simp [Meta.local_concrete_fields, hfields']
        have hsame : (Meta.mk local_fields none).local_concrete_fields = clean_fields fields :=
          (Prod.ext_iff.mp hfields).2.symm.trans hread
        rw [hsame] at hmem
        exact not_mem_clean_fields hname hmem

end

/-! ## Two uses -/

/-- The fields of a record model. -/
def records : Meta where
  local_fields := [⟨"id", true⟩, ⟨reference_dataset, true⟩]
  cached_local_concrete_fields := some [⟨"id", true⟩, ⟨reference_dataset, true⟩]

/-- One use inside another. -/
theorem nested_restored : ∃ s,
    external_model_class.run (unused records) [.enter false, .enter true, .leave true,
      .leave false] = some s ∧ s.value.fields = records.fields := by
  have hlocal : ∃ field ∈ records.local_fields, field.name = reference_dataset :=
    ⟨⟨reference_dataset, true⟩, by simp [records], rfl⟩
  have hconcrete : ∃ field ∈ records.local_concrete_fields, field.name = reference_dataset :=
    ⟨⟨reference_dataset, true⟩, by simp [records, Meta.local_concrete_fields], rfl⟩
  have hcovered : Covered ([.enter false, .enter true, .leave true, .leave false] :
      List (ScopeEvent Bool)) := .stretch false [.enter true, .leave true] .nil (by simp)
  exact ⟨_, rfl, (fields_restored_iff hlocal hconcrete rfl).mpr
    (.inr ⟨by simp [records], hcovered⟩)⟩

/-- An exception in the body, and two uses of which the first is left first. -/
theorem field_lost :
    (∃ s, external_model_class.run (unused records) [.enter false, .abandon false] = some s ∧
      (∀ i, s.kept i = none) ∧ s.value.local_fields = [⟨"id", true⟩]) ∧
    ∃ s, external_model_class.run (unused records) [.enter false, .enter true, .leave false,
      .leave true] = some s ∧ (∀ i, s.kept i = none) ∧ s.value.local_fields = [⟨"id", true⟩] := by
  constructor
  · exact ⟨_, rfl, by decide, by decide⟩
  · exact ⟨_, rfl, by decide, by decide⟩

end ExternalModel

end ReferenceData
