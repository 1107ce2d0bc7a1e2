import DataWorkspace.Py.Dumps
import DataWorkspace.Py.Grouping
import DataWorkspace.Py.Utf8
import Mathlib.Data.List.Forall2

/-!
# The hash of a reference dataset

The metadata of a reference dataset has a hash of its records, as the user would see them.  The
grid has them as dictionaries with a key for each field, and the hash is taken of dictionaries with
the texts of the values.  There the key of a linked field is the column of the other dataset.

`differs_iff` says which changes the bytes that are hashed do not show.
-/

namespace ReferenceData

namespace MetadataHash

open Py

/-! ## Fields and records -/

/-- A value as Python has it.  Numbers with a fraction, dates, times and identifiers go by what
they are written as. -/
inductive Value where
  | none
  | char (s : Str)
  | int (n : Int)
  | float (literal : Str)
  | bool (b : Bool)
  | date (isoformat : Str)
  | time (isoformat : Str)
  | datetime (date time : Str)
  | uuid (s : Str)
deriving DecidableEq, Repr

/-- A field of the dataset, in the order of the query. -/
inductive Field where
  | column (column_name : Str)
  /-- With the column name of the `linked_reference_dataset_field`. -/
  | linked (relationship_name column_name : Str)
deriving DecidableEq, Repr

/-- A record, with the records that it is linked to. -/
structure Record where
  getattr : Str → Value
  relationship : Str → Option (Str → Value)

structure State where
  fields : List Field
  records : List Record

/-! ## The grid -/

/-- `datetime.isoformat`. -/
def isoformat (date time : Str) : Str := date ++ 'T' :: time

def Field.grid_key : Field → Str
  | .column column_name => column_name
  | .linked relationship_name column_name => relationship_name ++ '_' :: column_name

/-- The value of `get_grid_data`. -/
def Record.grid_value (record : Record) : Field → Value
  | .column column_name =>
      match record.getattr column_name with
      | .datetime d t => .char (isoformat d t)
      | value => value
  | .linked relationship_name column_name =>
      match record.relationship relationship_name with
      | some related => related column_name
      | none => .none

/-- `DjangoJSONEncoder`, which has milliseconds only. -/
def Value.json : Value → Json
  | .none => .null
  | .char s => .str s
  | .int n => .int n
  | .float literal => .float literal
  | .bool b => .bool b
  | .date isoformat => .str isoformat
  | .time isoformat => .str (if '.' ∈ isoformat then isoformat.take 12 else isoformat)
  | .datetime d t =>
      let r := isoformat d t
      let r := if '.' ∈ t then r.take 23 ++ r.drop 26 else r
      .str (if endswith r "+00:00" then r.take (r.length - 6) ++ ['Z'] else r)
  | .uuid s => .str s

def Record.grid_data (fields : List Field) (record : Record) : Dict Str Value :=
  .ofPairs (fields.map fun field => (field.grid_key, record.grid_value field))

/-- What a column of the grid shows. -/
def Record.shows (fields : List Field) (record : Record) (field : Field) : Option Json :=
  ((record.grid_data fields).get? field.grid_key).map Value.json

def Record.shown (fields : List Field) (record : Record) : List (Option Json) :=
  fields.map (record.shows fields)

/-- What the page shows. -/
def State.shown (s : State) : List (List (Option Json)) := s.records.map (Record.shown s.fields)

/-! ## The hash -/

/-- `str`. -/
def Value.text : Value → Str
  | .none => "None"
  | .char s => s
  | .int n => if n < 0 then '-' :: str n.natAbs else str n.natAbs
  | .float literal => literal
  | .bool b => if b then "True" else "False"
  | .date isoformat => isoformat
  | .time isoformat => isoformat
  | .datetime d t => d ++ ' ' :: t
  | .uuid s => s

def Field.hash_key : Field → Str
  | .column column_name => column_name
  | .linked _ column_name => column_name

def Record.hash_value (record : Record) : Field → Json
  | .column column_name => .str (record.getattr column_name).text
  | .linked relationship_name column_name =>
      match record.relationship relationship_name with
      | some related => .str (related column_name).text
      | none => .null

def Record.data (fields : List Field) (record : Record) : Dict Str Json :=
  .ofPairs (fields.map fun field => (field.hash_key, record.hash_value field))

/-- The bytes that `get_metadata_table_hash` hashes. -/
def State.hashed_data (s : State) : Bytes :=
  s.records.flatMap fun record => encode (Json.dumps (.obj (record.data s.fields).items))

/-! ## The statement -/

def lastWith (fields : List Field) (key : Str) : Option Field :=
  fields.reverse.find? fun field => field.hash_key = key

/-- The keys in the order in which they are set first. -/
def keys (fields : List Field) : List Str :=
  (Dict.ofPairs (fields.map fun field => (field.hash_key, ()))).items.map Prod.fst

structure SameTexts (s s' : State) : Prop where
  keys : s.records ≠ [] → keys s.fields = keys s'.fields
  texts : List.Forall₂ (fun r r' => ∀ key, (lastWith s.fields key).map r.hash_value =
    (lastWith s'.fields key).map r'.hash_value) s.records s'.records

/-- Where the two states do not show the same. -/
inductive Change (s s' : State) : Prop where
  /-- One of them has more columns. -/
  | columns : s.records ≠ [] → s.fields.length ≠ s'.fields.length → Change s s'
  /-- A later field has the same key. -/
  | overwritten {i j : Nat} {r r' : Record} {f f' : Field} : s.records[i]? = some r →
      s'.records[i]? = some r' → s.fields[j]? = some f → s'.fields[j]? = some f' →
      lastWith s.fields f.hash_key ≠ some f ∨ lastWith s'.fields f'.hash_key ≠ some f' →
      r.shows s.fields f ≠ r'.shows s'.fields f' → Change s s'
  /-- As with `NULL` and the text `None`. -/
  | text {i j : Nat} {r r' : Record} {f f' : Field} : s.records[i]? = some r →
      s'.records[i]? = some r' → s.fields[j]? = some f → s'.fields[j]? = some f' →
      lastWith s.fields f.hash_key = some f → lastWith s'.fields f'.hash_key = some f' →
      r.shows s.fields f ≠ r'.shows s'.fields f' → Change s s'

/-- What is shown, and how many records there are, is seen in the bytes. -/
def Differs (s s' : State) : Prop :=
  s.shown ≠ s'.shown ∨ s.records.length ≠ s'.records.length → s.hashed_data ≠ s'.hashed_data

/-! ## The bytes -/

theorem lookup_pairs {α κ β : Type} [DecidableEq κ] (k : α → κ) (v : α → β) (key : κ) :
    ∀ xs : List α, (xs.map fun x => (k x, v x)).lookup key = (xs.find? fun x => k x = key).map v
  | [] => rfl
  | x :: xs => by
      rw [List.map_cons, List.lookup_cons, List.find?_cons, lookup_pairs k v key xs]
      by_cases h : key = k x
      · simp [h]
      · simp [beq_false_of_ne h, Ne.symm h]

theorem get?_data (fields : List Field) (record : Record) (key : Str) :
    (record.data fields).get? key = (lastWith fields key).map record.hash_value := by
  rw [Record.data, Dict.get?_ofPairs, ← List.map_reverse, lookup_pairs, lastWith]

theorem keys_data (fields : List Field) (record : Record) :
    (record.data fields).items.map Prod.fst = keys fields := by
  refine Dict.keys_ofPairs_congr ?_
  rw [List.map_map, List.map_map]
  rfl

theorem atomic_hash_value (record : Record) (field : Field) : (record.hash_value field).Atomic := by
  cases field with
  | column column_name => trivial
  | linked relationship_name column_name =>
      rw [Record.hash_value]
      split
      · trivial
      · trivial

theorem atomic_data {fields : List Field} {record : Record} {kv : Str × Json}
    (h : kv ∈ (record.data fields).items) : kv.2.Atomic := by
  have hget := (Dict.mem_items_iff (record.data fields) kv.1 kv.2).mp h
  obtain ⟨field, -, hvalue⟩ := List.mem_map.mp (Dict.mem_of_get?_ofPairs hget)
  rw [← (Prod.mk.inj hvalue).2]
  exact atomic_hash_value record field

theorem items_data_eq_iff {fields fields' : List Field} {r r' : Record} :
    (r.data fields).items = (r'.data fields').items ↔ keys fields = keys fields' ∧
      ∀ key, (lastWith fields key).map r.hash_value = (lastWith fields' key).map r'.hash_value := by
  rw [Dict.items_eq_iff, keys_data, keys_data]
  simp only [get?_data]

theorem hashed_data_eq (s : State) : s.hashed_data =
    encode ((s.records.map fun r => (r.data s.fields).items).flatMap fun x => Json.dumps (.obj x)) := by
  rw [State.hashed_data, encode, List.flatMap_map, List.flatMap_assoc]
  rfl

theorem hashed_data_eq_iff {s s' : State} : s.hashed_data = s'.hashed_data ↔ SameTexts s s' := by
  obtain ⟨fields, records⟩ := s
  obtain ⟨fields', records'⟩ := s'
  have hinj : State.hashed_data ⟨fields, records⟩ = State.hashed_data ⟨fields', records'⟩ ↔
      List.Forall₂ (fun r r' => (r.data fields).items = (r'.data fields').items)
        records records' := by
    rw [hashed_data_eq, hashed_data_eq, ← List.forall₂_map_right_iff, ← List.forall₂_map_left_iff,
      List.forall₂_eq_eq_eq]
    constructor
    · intro h
      have htext := congrArg decodeReplace h
      rw [decodeReplace_encode, decodeReplace_encode] at htext
      refine Json.flatMap_dumps_obj_inj ?_ ?_ htext
      · intro x hx kv hkv
        obtain ⟨r, -, rfl⟩ := List.mem_map.mp hx
        exact atomic_data hkv
      · intro x hx kv hkv
        obtain ⟨r, -, rfl⟩ := List.mem_map.mp hx
        exact atomic_data hkv
    · exact fun h => by rw [h]
  rw [hinj]
  simp only [items_data_eq_iff]
  constructor
  · intro h
    refine ⟨fun hne => ?_, h.imp fun _ _ hr => hr.2⟩
    cases h with
    | nil => exact absurd rfl hne
    | cons hr _ => exact hr.1
  · rintro ⟨hkeys, htexts⟩
    cases htexts with
    | nil => exact .nil
    | cons hr hrs =>
        have hkeys := hkeys (List.cons_ne_nil _ _)
        exact .cons ⟨hkeys, hr⟩ (hrs.imp fun _ _ hr => ⟨hkeys, hr⟩)

/-! ## What is shown -/

theorem shown_at {s s' : State} (h : s.shown = s'.shown) {i : Nat} {r r' : Record}
    (hr : s.records[i]? = some r) (hr' : s'.records[i]? = some r') :
    r.shown s.fields = r'.shown s'.fields := by
  have hi := congrArg (fun rows => rows[i]?) h
  simpa [State.shown, hr, hr'] using hi

theorem shows_at {fields fields' : List Field} {r r' : Record}
    (h : r.shown fields = r'.shown fields') {j : Nat} {f f' : Field} (hf : fields[j]? = some f)
    (hf' : fields'[j]? = some f') : r.shows fields f = r'.shows fields' f' := by
  have hj := congrArg (fun columns => columns[j]?) h
  simpa [Record.shown, hf, hf'] using hj

theorem map_eq_map_of_getElem? {α β γ : Type} {g : α → γ} {g' : β → γ} {xs : List α} {ys : List β}
    (hlength : xs.length = ys.length)
    (h : ∀ (i : Nat) (x : α) (y : β), xs[i]? = some x → ys[i]? = some y → g x = g' y) :
    xs.map g = ys.map g' := by
  refine List.ext_getElem (by simpa using hlength) fun i hi hi' => ?_
  rw [List.length_map] at hi hi'
  rw [List.getElem_map, List.getElem_map]
  exact h i _ _ (List.getElem?_eq_getElem hi) (List.getElem?_eq_getElem hi')

theorem shown_eq_iff {s s' : State} (hlength : s.records.length = s'.records.length) :
    s.shown = s'.shown ↔ ¬ Change s s' := by
  constructor
  · intro h hchange
    cases hchange with
    | columns hne hfields =>
        obtain ⟨r, rs, hs⟩ := List.exists_cons_of_ne_nil hne
        have hpos : 0 < s'.records.length := by
          rw [← hlength, hs]
          exact Nat.succ_pos _
        have hrow := shown_at h (i := 0) (r := r) (by rw [hs]; rfl) (List.getElem?_eq_getElem hpos)
        have hcolumns := congrArg List.length hrow
        rw [Record.shown, Record.shown, List.length_map, List.length_map] at hcolumns
        exact hfields hcolumns
    | overwritten hr hr' hf hf' _ hshows => exact hshows (shows_at (shown_at h hr hr') hf hf')
    | text hr hr' hf hf' _ _ hshows => exact hshows (shows_at (shown_at h hr hr') hf hf')
  · intro h
    refine map_eq_map_of_getElem? hlength fun i r r' hr hr' => ?_
    have hfields : s.fields.length = s'.fields.length := by
      refine Decidable.byContradiction fun hne => h (.columns ?_ hne)
      exact List.ne_nil_of_mem (List.mem_of_getElem? hr)
    refine map_eq_map_of_getElem? hfields fun j f f' hf hf' => ?_
    by_cases hlast : lastWith s.fields f.hash_key = some f ∧ lastWith s'.fields f'.hash_key = some f'
    · exact Decidable.byContradiction fun hne => h (.text hr hr' hf hf' hlast.1 hlast.2 hne)
    · rw [Decidable.not_and_iff_not_or_not] at hlast
      exact Decidable.byContradiction fun hne => h (.overwritten hr hr' hf hf' hlast hne)

/-- A change is seen in the bytes unless each key has the same text, record by record. -/
theorem differs_iff (s s' : State) : Differs s s' ↔ ¬ (SameTexts s s' ∧ Change s s') := by
  rw [Differs, ← hashed_data_eq_iff]
  constructor
  · rintro h ⟨hsame, hchange⟩
    refine h (.inl fun hshown => ?_) hsame
    have hlength := (hashed_data_eq_iff.mp hsame).texts.length_eq
    exact (shown_eq_iff hlength).mp hshown hchange
  · intro h hdiffers hsame
    have hlength := (hashed_data_eq_iff.mp hsame).texts.length_eq
    rcases hdiffers with hshown | hrecords
    · exact hshown ((shown_eq_iff hlength).mpr fun hchange => h ⟨hsame, hchange⟩)
    · exact hrecords hlength

/-! ## Changes that are not seen -/

def country (name : Value) : State where
  fields := [.column "name", .linked "region" "name"]
  records := [⟨fun _ => name, fun _ => some fun _ => .char "Europe"⟩]

def single (value : Value) : State where
  fields := [.column "capital"]
  records := [⟨fun _ => value, fun _ => none⟩]

/-- The name of a country is not seen behind the name of its region, and a value that is missing
is the text `None`. -/
theorem change_not_seen :
    ¬ Differs (country (.char "France")) (country (.char "Spain")) ∧
      ¬ Differs (single .none) (single (.char "None")) := by
  constructor
  · intro h
    exact h (.inl (by decide)) rfl
  · intro h
    exact h (.inl (by decide)) rfl

end MetadataHash

end ReferenceData
