import DataWorkspace.Py.Json
import Mathlib.Data.List.Chain
import Mathlib.Data.List.Dedup

/-!
# Changelogs

The metadata of a table has a row for every time it was looked at, with the structure of
the table as JSON and a hash of its data.  The changelog is read off the rows.  The first
row is an entry, and so is every row that differs from the one before it.

Rows are compared as they are stored, and entries hold what the texts decode to.  So the
entry of a row whose text only looks different says that nothing changed
(`Records.same`), and its summary is `N/A` (`Summarised`).
-/

namespace Notifications

open Py

/-! ## Rows and entries -/

/-- The columns of a table, each a list of texts with the name first. -/
abbrev TableStructure := List (List Str)

/-- A date, in UTC. -/
abbrev DateTime := Int

structure MetadataRow where
  id : Int
  source_data_modified_utc : DateTime
  table_structure : Option Str
  data_hash_v1 : Option Bytes
deriving DecidableEq, Repr

/-- An entry of a changelog. -/
structure Change where
  change_id : Int
  change_date : DateTime
  table_structure : Option TableStructure
  previous_table_structure : Option TableStructure
  data_hash : Option Bytes
  previous_data_hash : Option Bytes
deriving DecidableEq, Repr

/-- A text, where the value is one. -/
def textOf : Json → Option Str
  | .str s => some s
  | _ => none

/-- A list of lists of texts, where the value is one. -/
def tableStructureOf : Json → Option TableStructure
  | .arr columns => columns.mapM fun column =>
      match column with
      | .arr values => values.mapM textOf
      | _ => none
  | _ => none

/-- `json.loads` of a table structure. -/
def loadsStructure (text : Str) : Option TableStructure := (Json.loads text).bind tableStructureOf

/-- `json.loads(text) if text else None`, `none` where that raises. -/
def loadsIfAny : Option Str → Option (Option TableStructure)
  | none => some none
  | some [] => some none
  | some text => (loadsStructure text).map some

/-! ## The changelog -/

/-- The entry of the first row. -/
def firstChange (row : MetadataRow) : Option Change := do
  let table_structure ← loadsIfAny row.table_structure
  some
    { change_id := row.id
      change_date := row.source_data_modified_utc
      table_structure := table_structure
      previous_table_structure := none
      data_hash := row.data_hash_v1
      previous_data_hash := none }

/-- Whether a row gets an entry after the one before it. -/
def differs (row next_row : MetadataRow) : Bool :=
  row.table_structure != next_row.table_structure || row.data_hash_v1 != next_row.data_hash_v1

/-- The entry of a later row. -/
def nextChange (row next_row : MetadataRow) : Option Change := do
  let table_structure ← loadsIfAny next_row.table_structure
  let previous_table_structure ← loadsIfAny row.table_structure
  some
    { change_id := next_row.id
      change_date := next_row.source_data_modified_utc
      table_structure := table_structure
      previous_table_structure := previous_table_structure
      data_hash := next_row.data_hash_v1
      previous_data_hash := row.data_hash_v1 }

/-- The entries of the rows behind a row, oldest first. -/
def laterChanges (row : MetadataRow) : List MetadataRow → Option (List Change)
  | [] => some []
  | next_row :: rows =>
      if differs row next_row then do
        let change ← nextChange row next_row
        let changes ← laterChanges next_row rows
        some (change :: changes)
      else laterChanges next_row rows

/-- `get_changelog_from_metadata_rows`: the entries, newest first. -/
def get_changelog_from_metadata_rows : List MetadataRow → Option (List Change)
  | [] => some []
  | row :: rows => do
      let change ← firstChange row
      let changes ← laterChanges row rows
      some (change :: changes).reverse

/-! ## Summaries -/

/-- An entry with its summary. -/
structure DetailedChange extends Change where
  summary : Str
deriving DecidableEq, Repr

/-- `[c[0] for c in table_structure]`, `none` where that raises. -/
def columnNames : Option TableStructure → Option (List Str)
  | none => none
  | some columns => columns.mapM List.head?

/-- What a summary says of some columns. -/
def columnsText (names : List Str) (verb : Str) : Str :=
  if names = [] then []
  else "Column" ++ (if 1 < names.length then "s" else "") ++ " " ++
    (" and " : Str).intercalate names ++ " " ++ (if 1 < names.length then "were" else "was") ++ verb

def columnsSummary (a b : List Str) : Str :=
  if a = [] ∧ b = [] then "N/A"
  else columnsText a " added" ++ (if a ≠ [] ∧ b ≠ [] then ", " else "") ++
    columnsText b " removed"

/-- The names that are not among the others, in the order a set has them. -/
def namesBut (order : List Str → List Str) (names others : List Str) : List Str :=
  order (names.filter fun name => !others.contains name).dedup

/-- `not value`. -/
def isEmptyStructure (value : Option TableStructure) : Bool := value.getD [] == []

def isEmptyHash (value : Option Bytes) : Bool := value.getD [] == []

/-- The summary of an entry, `none` where that raises. -/
def summaryOf (order : List Str → List Str) (initial_change_type : Str) (record : Change) :
    Option Str :=
  if isEmptyStructure record.previous_table_structure && isEmptyHash record.previous_data_hash then
    some initial_change_type
  else if record.previous_table_structure ≠ record.table_structure then do
    let column_names ← columnNames record.table_structure
    let previous_column_names ← columnNames record.previous_table_structure
    some (columnsSummary (namesBut order column_names previous_column_names)
      (namesBut order previous_column_names column_names))
  else if record.previous_data_hash ≠ record.data_hash then some "Records in the dataset changed"
  else some "N/A"

/-- `_get_detailed_changelog`. -/
def _get_detailed_changelog (order : List Str → List Str) (changelog : List Change)
    (initial_change_type : Str) : Option (List DetailedChange) :=
  changelog.mapM fun record =>
    (summaryOf order initial_change_type record).map fun summary => { record with summary }

/-- `get_change_item`, from the changelog of the object. -/
def get_change_item (changelog : List DetailedChange) (change_id : Int) : Option DetailedChange :=
  changelog.find? fun change => change.change_id == change_id

/-! ## What the changelog records -/

/-- A structure and a hash. -/
abbrev TableState := Option TableStructure × Option Bytes

def MetadataRow.loaded (row : MetadataRow) : Option TableStructure :=
  (loadsIfAny row.table_structure).join

def MetadataRow.state (row : MetadataRow) : TableState := (row.loaded, row.data_hash_v1)

def Change.state (change : Change) : TableState := (change.table_structure, change.data_hash)

def Change.previousState (change : Change) : TableState :=
  (change.previous_table_structure, change.previous_data_hash)

def HasStructure (row : MetadataRow) : Prop :=
  ∃ text columns, row.table_structure = some text ∧ loadsStructure text = some columns ∧
    ∀ column ∈ columns, column ≠ []

/-- The ids of the rows increase. -/
def Increasing (rows : List MetadataRow) : Prop := rows.Pairwise fun row later => row.id < later.id

/-- The state that the entries up to an id leave, from the oldest to the newest. -/
def stateAt (changelog : List Change) (id : Int) : Option TableState :=
  (changelog.reverse.filter fun change => change.change_id ≤ id).foldl
    (fun _ change => some change.state) none

/-- Two rows, one behind the other, whose texts differ but have the same structure. -/
def SameInOtherWords (rows : List MetadataRow) (id : Int) : Prop :=
  ∃ row next_row, (row, next_row) ∈ rows.zip rows.tail ∧ next_row.id = id ∧
    row.table_structure ≠ next_row.table_structure ∧ row.loaded = next_row.loaded

/-- What the changelog says of the rows. -/
structure Records (rows : List MetadataRow) (changelog : List Change) : Prop where
  descending : changelog.Pairwise fun newer older => older.change_id < newer.change_id
  oldest : changelog.getLast? = rows.head?.map fun row =>
    { change_id := row.id
      change_date := row.source_data_modified_utc
      table_structure := row.loaded
      previous_table_structure := none
      data_hash := row.data_hash_v1
      previous_data_hash := none }
  chain : changelog.IsChain fun newer older => newer.previousState = older.state
  fold : ∀ row ∈ rows, stateAt changelog row.id = some row.state
  same : ∀ change ∈ changelog.dropLast, change.previousState = change.state →
    SameInOtherWords rows change.change_id

/-- What the entries behind that of a row say of the rows behind it. -/
structure Follow (row : MetadataRow) (rows : List MetadataRow) (changes : List Change) : Prop where
  ascending : changes.Pairwise fun older newer => older.change_id < newer.change_id
  behind : ∀ change ∈ changes, row.id < change.change_id
  chain : ∀ first : Change, first.state = row.state →
    (first :: changes).IsChain fun older newer => newer.previousState = older.state
  fold : ∀ later ∈ rows, (changes.filter fun change => change.change_id ≤ later.id).foldl
    (fun _ change => change.state) row.state = later.state
  same : ∀ change ∈ changes, change.previousState = change.state →
    SameInOtherWords (row :: rows) change.change_id
  states : ∀ change ∈ changes, ∃ earlier ∈ row :: rows, ∃ later ∈ rows,
    change.previousState = earlier.state ∧ change.state = later.state

section Rows

variable {row next_row : MetadataRow} {rows : List MetadataRow} {changes : List Change}
  {change : Change} {id : Int}

theorem HasStructure.loads (h : HasStructure row) :
    loadsIfAny row.table_structure = some row.loaded := by
  obtain ⟨text, columns, htext, hloads, -⟩ := h
  unfold MetadataRow.loaded
  rw [htext]
  cases text with
  | nil => rfl
  | cons c text => simp [loadsIfAny, hloads]

theorem HasStructure.nextChange (h : HasStructure row) (hnext : HasStructure next_row) :
    ∃ change, nextChange row next_row = some change ∧ change.change_id = next_row.id ∧
      change.state = next_row.state ∧ change.previousState = row.state := by
  refine ⟨⟨next_row.id, next_row.source_data_modified_utc, next_row.loaded, row.loaded,
    next_row.data_hash_v1, row.data_hash_v1⟩, ?_, rfl, rfl, rfl⟩
  unfold Notifications.nextChange
  rw [hnext.loads, h.loads]
  rfl

theorem SameInOtherWords.cons (h : SameInOtherWords (next_row :: rows) id) :
    SameInOtherWords (row :: next_row :: rows) id := by
  obtain ⟨r, n, hmem, hid, htexts, hloaded⟩ := h
  exact ⟨r, n, List.mem_cons_of_mem _ hmem, hid, htexts, hloaded⟩

theorem state_of_not_differs (h : differs row next_row = false) : row.state = next_row.state := by
  rw [differs, Bool.or_eq_false_iff, bne_eq_false_iff_eq, bne_eq_false_iff_eq] at h
  rw [MetadataRow.state, MetadataRow.state, MetadataRow.loaded, MetadataRow.loaded, h.1, h.2]

theorem filter_of_behind (h : ∀ change ∈ changes, id < change.change_id) :
    (changes.filter fun change => change.change_id ≤ id) = [] := by
  rw [List.filter_eq_nil_iff]
  intro change hchange hle
  have := h change hchange
  simp only [decide_eq_true_eq] at hle
  omega

theorem Records.nil : Records [] [] where
  descending := .nil
  oldest := rfl
  chain := .nil
  fold _ h := nomatch h
  same _ h := nomatch h

theorem Follow.nil (row : MetadataRow) : Follow row [] [] where
  ascending := .nil
  behind _ h := nomatch h
  chain _ _ := .singleton _
  fold _ h := nomatch h
  same _ h := nomatch h
  states _ h := nomatch h

theorem Follow.states_cons (h : Follow next_row rows changes) (row : MetadataRow) :
    ∀ change ∈ changes, ∃ earlier ∈ row :: next_row :: rows, ∃ later ∈ next_row :: rows,
      change.previousState = earlier.state ∧ change.state = later.state := by
  intro change hchange
  obtain ⟨earlier, hearlier, later, hlater, hstates⟩ := h.states change hchange
  exact ⟨earlier, List.mem_cons_of_mem _ hearlier, later, List.mem_cons_of_mem _ hlater, hstates⟩

theorem Follow.cons (h : Follow next_row rows changes) (hlt : row.id < next_row.id)
    (hrows : ∀ later ∈ rows, next_row.id < later.id) (hid : change.change_id = next_row.id)
    (hstate : change.state = next_row.state) (hprevious : change.previousState = row.state)
    (hdiffers : differs row next_row = true) :
    Follow row (next_row :: rows) (change :: changes) := by
  refine ⟨?_, fun c hc => ?_, fun first hfirst => ?_, fun later hlater => ?_,
    fun c hc hsame => ?_, fun c hc => ?_⟩
  · refine List.pairwise_cons.mpr ⟨fun c hc => ?_, h.ascending⟩
    rw [hid]
    exact h.behind c hc
  · rcases List.mem_cons.mp hc with rfl | hc
    · rw [hid]
      exact hlt
    · exact Int.lt_trans hlt (h.behind c hc)
  · exact List.isChain_cons_cons.mpr ⟨hprevious.trans hfirst.symm, h.chain change hstate⟩
  · rcases List.mem_cons.mp hlater with rfl | hlater
    · rw [List.filter_cons_of_pos (by simp [hid]), filter_of_behind h.behind]
      exact hstate
    · have hle : change.change_id ≤ later.id := by
        rw [hid]
        exact Int.le_of_lt (hrows later hlater)
      rw [List.filter_cons_of_pos (by simpa using hle), List.foldl_cons, hstate]
      exact h.fold later hlater
  · rcases List.mem_cons.mp hc with rfl | hc
    · have hstates : row.state = next_row.state := by rw [← hprevious, hsame, hstate]
      obtain ⟨hloaded, hhash⟩ := Prod.mk.inj hstates
      refine ⟨row, next_row, List.mem_cons_self .., hid.symm, fun htext => ?_, hloaded⟩
      rw [differs, htext, hhash, bne_self_eq_false, bne_self_eq_false] at hdiffers
      cases hdiffers
    · exact (h.same c hc hsame).cons
  · rcases List.mem_cons.mp hc with rfl | hc
    · exact ⟨row, List.mem_cons_self .., next_row, List.mem_cons_self .., hprevious, hstate⟩
    · exact h.states_cons row c hc

theorem Follow.skip (h : Follow next_row rows changes) (hlt : row.id < next_row.id)
    (hstate : row.state = next_row.state) : Follow row (next_row :: rows) changes := by
  refine ⟨h.ascending, fun c hc => Int.lt_trans hlt (h.behind c hc), fun first hfirst => ?_,
    fun later hlater => ?_, fun c hc hsame => (h.same c hc hsame).cons, h.states_cons row⟩
  · exact h.chain first (hfirst.trans hstate)
  · rw [hstate]
    rcases List.mem_cons.mp hlater with rfl | hlater
    · rw [filter_of_behind h.behind]
      rfl
    · exact h.fold later hlater

theorem laterChanges_follow : ∀ {row : MetadataRow} {rows : List MetadataRow},
    Increasing (row :: rows) → (∀ r ∈ row :: rows, HasStructure r) →
      ∃ changes, laterChanges row rows = some changes ∧ Follow row rows changes
  | row, [], _, _ => ⟨[], rfl, .nil row⟩
  | row, next_row :: rows, hids, hloads => by
      obtain ⟨hrow, hids⟩ := List.pairwise_cons.mp hids
      have hlt := hrow next_row (List.mem_cons_self ..)
      have hrows := (List.pairwise_cons.mp hids).1
      obtain ⟨changes, hchanges, hfollow⟩ :=
        laterChanges_follow hids fun r hr => hloads r (List.mem_cons_of_mem _ hr)
      rw [laterChanges]
      cases hdiffers : differs row next_row with
      | true =>
          obtain ⟨change, hchange, hid, hstate, hprevious⟩ :=
            (hloads row (List.mem_cons_self ..)).nextChange
              (hloads next_row (List.mem_cons_of_mem _ (List.mem_cons_self ..)))
          rw [if_pos rfl, hchange, hchanges]
          exact ⟨_, rfl, hfollow.cons hlt hrows hid hstate hprevious hdiffers⟩
      | false =>
          rw [if_neg Bool.false_ne_true, hchanges]
          exact ⟨changes, rfl, hfollow.skip hlt (state_of_not_differs hdiffers)⟩

theorem foldl_some (changes : List Change) (s : TableState) :
    changes.foldl (fun _ change => some change.state) (some s) =
      some (changes.foldl (fun _ change => change.state) s) := by
  induction changes generalizing s with
  | nil => rfl
  | cons change changes ih => exact ih change.state

theorem Follow.records {first : Change} (h : Follow row rows changes)
    (hids : Increasing (row :: rows)) (hfirst : first =
      { change_id := row.id
        change_date := row.source_data_modified_utc
        table_structure := row.loaded
        previous_table_structure := none
        data_hash := row.data_hash_v1
        previous_data_hash := none }) :
    Records (row :: rows) (first :: changes).reverse := by
  have hid : first.change_id = row.id := by rw [hfirst]
  have hstate : first.state = row.state := by rw [hfirst]; rfl
  refine ⟨?_, ?_, ?_, fun later hlater => ?_, fun change hchange hsame => ?_⟩
  · rw [List.pairwise_reverse]
    refine List.pairwise_cons.mpr ⟨fun c hc => ?_, h.ascending⟩
    rw [hid]
    exact h.behind c hc
  · rw [List.getLast?_reverse, List.head?_cons, hfirst]
    rfl
  · rw [List.isChain_reverse]
    exact h.chain first hstate
  · have hle : first.change_id ≤ later.id := by
      rw [hid]
      rcases List.mem_cons.mp hlater with rfl | hlater
      · exact Int.le_refl _
      · exact Int.le_of_lt ((List.pairwise_cons.mp hids).1 later hlater)
    rw [stateAt, List.reverse_reverse, List.filter_cons_of_pos (by simpa using hle),
      List.foldl_cons, foldl_some, hstate]
    rcases List.mem_cons.mp hlater with rfl | hlater
    · rw [filter_of_behind h.behind]
      rfl
    · rw [h.fold later hlater]
  · rw [List.reverse_cons, List.dropLast_concat, List.mem_reverse] at hchange
    exact h.same change hchange hsame

/-! ## What the summaries say -/

/-- What the summary of an entry says. -/
structure Summarised (record : Change) (summary : Str) : Prop where
  columns : record.previous_table_structure ≠ record.table_structure →
    ∃ names previous a b, columnNames record.table_structure = some names ∧
      columnNames record.previous_table_structure = some previous ∧
      (∀ name, name ∈ a ↔ name ∈ names ∧ name ∉ previous) ∧
      (∀ name, name ∈ b ↔ name ∈ previous ∧ name ∉ names) ∧ a.Nodup ∧ b.Nodup ∧
        summary = columnsSummary a b
  data : record.previous_table_structure = record.table_structure →
    record.previous_data_hash ≠ record.data_hash → summary = "Records in the dataset changed"
  same : record.previousState = record.state → summary = "N/A"

def startsEmpty (record : Change) : Bool :=
  isEmptyStructure record.previous_table_structure && isEmptyHash record.previous_data_hash

theorem columnNames_of_named : ∀ {columns : TableStructure}, (∀ column ∈ columns, column ≠ []) →
    ∃ names, columnNames (some columns) = some names
  | [], _ => ⟨[], rfl⟩
  | column :: columns, h => by
      obtain ⟨names, hnames⟩ := columnNames_of_named fun c hc => h c (List.mem_cons_of_mem _ hc)
      cases column with
      | nil => exact absurd rfl (h [] (List.mem_cons_self ..))
      | cons name column =>
          refine ⟨name :: names, ?_⟩
          rw [columnNames, List.mapM_cons]
          rw [columnNames] at hnames
          rw [hnames]
          rfl

theorem HasStructure.names (h : HasStructure row) :
    ∃ names, columnNames row.loaded = some names := by
  obtain ⟨text, columns, htext, hloads, hnamed⟩ := h
  have hloaded : row.loaded = some columns := by
    rw [MetadataRow.loaded, htext]
    cases text with
    | nil => cases hloads
    | cons c text => simp [loadsIfAny, hloads]
  rw [hloaded]
  exact columnNames_of_named hnamed

theorem mem_namesBut {order : List Str → List Str} (horder : ∀ names, (order names).Perm names)
    {names others : List Str} (name : Str) :
    name ∈ namesBut order names others ↔ name ∈ names ∧ name ∉ others := by
  rw [namesBut, (horder _).mem_iff, List.mem_dedup, List.mem_filter]
  simp

theorem nodup_namesBut {order : List Str → List Str} (horder : ∀ names, (order names).Perm names)
    (names others : List Str) : (namesBut order names others).Nodup :=
  (horder _).nodup_iff.mpr (List.nodup_dedup _)

theorem summarised {order : List Str → List Str} (horder : ∀ names, (order names).Perm names)
    {initial_change_type : Str} {names previous : List Str}
    (hnames : columnNames change.table_structure = some names)
    (hprevious : columnNames change.previous_table_structure = some previous)
    (hstart : startsEmpty change = false) :
    ∃ summary, summaryOf order initial_change_type change = some summary ∧
      Summarised change summary := by
  unfold startsEmpty at hstart
  rw [summaryOf, if_neg (by rw [hstart]; exact Bool.false_ne_true)]
  by_cases hcolumns : change.previous_table_structure ≠ change.table_structure
  · rw [if_pos hcolumns, hnames, hprevious]
    refine ⟨_, rfl, fun _ => ?_, fun h => absurd h hcolumns, fun h => ?_⟩
    · exact ⟨names, previous, _, _, hnames, hprevious, mem_namesBut horder, mem_namesBut horder,
        nodup_namesBut horder _ _, nodup_namesBut horder _ _, rfl⟩
    · exact absurd (Prod.mk.inj h).1 hcolumns
  · rw [if_neg hcolumns]
    by_cases hdata : change.previous_data_hash ≠ change.data_hash
    · rw [if_pos hdata]
      refine ⟨_, rfl, fun h => absurd h hcolumns, fun _ _ => rfl, fun h => ?_⟩
      exact absurd (Prod.mk.inj h).2 hdata
    · rw [if_neg hdata]
      exact ⟨_, rfl, fun h => absurd h hcolumns, fun _ h => absurd h hdata, fun _ => rfl⟩

end Rows

/-! ## The rows of a table -/

section Tables

variable {rows : List MetadataRow} {order : List Str → List Str}

theorem changelog_of_rows {row : MetadataRow} (hids : Increasing (row :: rows))
    (hrows : ∀ r ∈ row :: rows, HasStructure r) :
    ∃ first changes, get_changelog_from_metadata_rows (row :: rows) =
        some (first :: changes).reverse ∧ firstChange row = some first ∧
      Records (row :: rows) (first :: changes).reverse ∧ Follow row rows changes := by
  obtain ⟨changes, hchanges, hfollow⟩ := laterChanges_follow hids hrows
  have hfirst : firstChange row = some
      { change_id := row.id
        change_date := row.source_data_modified_utc
        table_structure := row.loaded
        previous_table_structure := none
        data_hash := row.data_hash_v1
        previous_data_hash := none } := by
    unfold firstChange
    rw [(hrows row (List.mem_cons_self ..)).loads]
    rfl
  refine ⟨_, changes, ?_, hfirst, hfollow.records hids rfl, hfollow⟩
  rw [get_changelog_from_metadata_rows, hfirst, hchanges]
  rfl

theorem detailed_of_summaries {initial_change_type : Str} : ∀ {changelog : List Change},
    (∀ change ∈ changelog, ∃ summary, summaryOf order initial_change_type change = some summary) →
      ∃ detailed, _get_detailed_changelog order changelog initial_change_type = some detailed ∧
        detailed.map DetailedChange.toChange = changelog ∧
        ∀ d ∈ detailed, summaryOf order initial_change_type d.toChange = some d.summary
  | [], _ => ⟨[], rfl, rfl, fun _ h => nomatch h⟩
  | change :: changelog, h => by
      obtain ⟨summary, hsummary⟩ := h change (List.mem_cons_self ..)
      obtain ⟨detailed, hdetailed, hmap, hall⟩ :=
        detailed_of_summaries fun c hc => h c (List.mem_cons_of_mem _ hc)
      refine ⟨{ change with summary } :: detailed, ?_, by rw [List.map_cons, hmap], fun d hd => ?_⟩
      · rw [_get_detailed_changelog] at hdetailed ⊢
        rw [List.mapM_cons, hdetailed, hsummary]
        rfl
      · rcases List.mem_cons.mp hd with rfl | hd
        · exact hsummary
        · exact hall d hd

theorem summary_of_startsEmpty {initial_change_type : Str} {change : Change}
    (h : startsEmpty change = true) :
    summaryOf order initial_change_type change = some initial_change_type :=
  if_pos h

/-- The changelog of a table follows the rows of its metadata, and every entry has a
summary.  That of the oldest is the creation, and the others say what changed. -/
theorem detailed_changelog_of_rows (horder : ∀ names, (order names).Perm names)
    (initial_change_type : Str) (hids : Increasing rows) (hrows : ∀ row ∈ rows, HasStructure row) :
    ∃ changelog detailed, get_changelog_from_metadata_rows rows = some changelog ∧
      Records rows changelog ∧
      _get_detailed_changelog order changelog initial_change_type = some detailed ∧
      detailed.map DetailedChange.toChange = changelog ∧
      (∀ oldest, detailed.getLast? = some oldest → oldest.summary = initial_change_type) ∧
      ∀ d ∈ detailed.dropLast, startsEmpty d.toChange = false →
        Summarised d.toChange d.summary := by
  cases rows with
  | nil =>
      exact ⟨[], [], rfl, .nil, rfl, rfl, (fun _ h => nomatch h), (fun _ h => nomatch h)⟩
  | cons row rows =>
      obtain ⟨first, changes, hget, hfirst, hrecords, hfollow⟩ := changelog_of_rows hids hrows
      have hempty : startsEmpty first = true := by
        obtain ⟨columns, -, hcolumns⟩ := Option.bind_eq_some_iff.mp hfirst
        rw [← Option.some.inj hcolumns]
        rfl
      have hchange {change : Change} (hchange : change ∈ changes)
          (hstart : startsEmpty change = false) :
          ∃ summary, summaryOf order initial_change_type change = some summary ∧
            Summarised change summary := by
        obtain ⟨earlier, hearlier, later, hlater, hprevious, hstate⟩ :=
          hfollow.states change hchange
        obtain ⟨previous, hpreviousNames⟩ := (hrows earlier hearlier).names
        obtain ⟨names, hnames⟩ := (hrows later (List.mem_cons_of_mem _ hlater)).names
        rw [← (Prod.mk.inj hprevious).1] at hpreviousNames
        rw [← (Prod.mk.inj hstate).1] at hnames
        exact summarised horder hnames hpreviousNames hstart
      have hsummaries : ∀ change ∈ (first :: changes).reverse,
          ∃ summary, summaryOf order initial_change_type change = some summary := by
        intro change hmem
        cases hstart : startsEmpty change with
        | true => exact ⟨_, summary_of_startsEmpty hstart⟩
        | false =>
            rcases List.mem_cons.mp (List.mem_reverse.mp hmem) with rfl | hmem
            · rw [hempty] at hstart
              cases hstart
            · exact (hchange hmem hstart).imp fun _ h => h.1
      obtain ⟨detailed, hdetailed, hmap, hall⟩ := detailed_of_summaries hsummaries
      refine ⟨_, detailed, hget, hrecords, hdetailed, hmap, fun oldest holdest => ?_,
        fun d hd hstart => ?_⟩
      · have horiginal : oldest.toChange = first := by
          have hlast := congrArg List.getLast? hmap
          rw [List.getLast?_map, holdest, List.getLast?_reverse] at hlast
          exact Option.some.inj hlast
        have hsummary := hall oldest (List.mem_of_getLast? holdest)
        rw [horiginal, summary_of_startsEmpty hempty] at hsummary
        exact (Option.some.inj hsummary).symm
      · have hmem : d.toChange ∈ changes := by
          have hlog := congrArg List.dropLast hmap
          rw [← List.map_dropLast, List.reverse_cons, List.dropLast_concat] at hlog
          exact List.mem_reverse.mp (hlog ▸ List.mem_map_of_mem hd)
        obtain ⟨summary, hsummary, hsummarised⟩ := hchange hmem hstart
        have hd := hall d (List.mem_of_mem_dropLast hd)
        rw [hsummary] at hd
        rw [← Option.some.inj hd]
        exact hsummarised

end Tables

/-- The rows of a table that gets a column. -/
def columnAdded : List MetadataRow :=
  [⟨1, 0, some "[[\"a\", \"int\"]]", none⟩,
    ⟨2, 60, some "[[\"a\", \"int\"], [\"b\", \"text\"]]", none⟩]

theorem hasStructure_columnAdded : ∀ row ∈ columnAdded, HasStructure row := by
  intro row hrow
  rcases List.mem_pair.mp hrow with rfl | rfl
  · exact ⟨_, [["a", "int"]], rfl, by decide +kernel, by decide⟩
  · exact ⟨_, [["a", "int"], ["b", "text"]], rfl, by decide +kernel, by decide⟩

/-- Its changelog. -/
theorem detailed_changelog_columnAdded :
    ∃ changelog detailed, get_changelog_from_metadata_rows columnAdded = some changelog ∧
      Records columnAdded changelog ∧
      _get_detailed_changelog id changelog "Table creation" = some detailed ∧
      detailed.map DetailedChange.toChange = changelog ∧
      (∀ oldest, detailed.getLast? = some oldest → oldest.summary = "Table creation") ∧
      ∀ d ∈ detailed.dropLast, startsEmpty d.toChange = false →
        Summarised d.toChange d.summary :=
  detailed_changelog_of_rows (fun names => List.Perm.refl names) "Table creation"
    (List.pairwise_pair.mpr (by decide)) hasStructure_columnAdded

/-- The rows of a table whose structure is written with another space. -/
def otherSpace : List MetadataRow :=
  [⟨1, 0, some "[[\"a\",\"int\"]]", none⟩, ⟨2, 60, some "[[\"a\", \"int\"]]", none⟩]

/-- The newer of their two entries says that nothing changed. -/
theorem entry_without_change :
    ∃ newer older, get_changelog_from_metadata_rows otherSpace = some [newer, older] ∧
      newer.previousState = newer.state ∧
      summaryOf id "Table creation" newer = some "N/A" := by
  refine ⟨⟨2, 60, some [["a", "int"]], some [["a", "int"]], none, none⟩,
    ⟨1, 0, some [["a", "int"]], none, none, none⟩, by decide +kernel, rfl, by decide +kernel⟩

end Notifications
