import DataWorkspace.Explorer.Exporters
import Mathlib.Data.List.DropRight

/-!
# Reading the exports back

A reader of an export knows the types of the columns.  It reads a cell like that of `None` as
`None`, and any other one as the value of the type that is written so, if there is only one.

What a file holds of a row is then decided by each value on its own (`Format.reads_iff`), and
a table by that and by what a file cannot hold of a table: two headers of one name in an
object of a JSON file, the headers of no object at all, and in a worksheet what is below its
last row or written cell, and one link too many.
-/

namespace Explorer

namespace Exporters

open Py

/-! ## Formats -/

theorem map_eq_map_of_mapM {α β γ : Type} {f : α → Option β} {g : β → γ} {k : α → γ} :
    ∀ {l : List α} {r : List β}, l.mapM f = some r →
      (∀ a b, f a = some b → g b = k a) → r.map g = l.map k
  | [], _, h, _ => by
      obtain rfl := Option.some.inj h
      rfl
  | a :: l, [], h, _ => by
      rw [List.mapM_cons] at h
      simp [Option.bind_eq_some_iff] at h
  | a :: l, b :: r, h, hgk => by
      obtain ⟨ha, hl⟩ := mapM_cons_eq_some_iff.mp h
      rw [List.map_cons, List.map_cons, hgk a b ha, map_eq_map_of_mapM hl hgk]

theorem forall₂_unique {α β : Type} {R S : α → β → Prop} (h : ∀ a b b', R a b → S a b' → b = b') :
    ∀ {l : List α} {r r' : List β}, List.Forall₂ R l r → List.Forall₂ S l r' → r = r'
  | [], [], [], _, _ => rfl
  | _ :: _, _ :: _, _ :: _, .cons hb hl, .cons hb' hl' => by
      rw [h _ _ _ hb hb', forall₂_unique h hl hl']

theorem exists_of_mem_of_forall₂ {α β : Type} {R : α → β → Prop} {a : α} :
    ∀ {l : List α} {r : List β}, List.Forall₂ R l r → a ∈ l → ∃ b, R a b
  | _ :: _, b :: _, .cons hb hl, ha => by
      rcases List.mem_cons.mp ha with rfl | ha
      · exact ⟨b, hb⟩
      · exact exists_of_mem_of_forall₂ hl ha

section

/-- How values of each type are written as cells, which may fail. -/
structure Format (K X C : Type) where
  write : K → X → Option C
  holds : K → X → Prop
  null : X

namespace Format

variable {K X C : Type} (f : Format K X C)

/-- A cell is read as a value. -/
def Decodes (type : K) (c : C) (x : X) : Prop :=
  f.holds type x ∧ f.write type x = some c ∧
    (x = f.null ∨ f.write type f.null ≠ some c ∧
      ∀ y, f.holds type y → f.write type y = some c → y = x)

/-- A value is read back from its cell. -/
def Keeps (type : K) (x : X) : Prop := ∃ c, f.Decodes type c x

def Reads : List K → List C → List X → Prop
  | [], [], [] => True
  | type :: types, c :: cells, x :: row => f.Decodes type c x ∧ Reads types cells row
  | _, _, _ => False

/-- The cells of a row. -/
@[grind =]
def writeRow : List K → List X → Option (List C)
  | type :: types, x :: row => do
      let c ← f.write type x
      let cells ← writeRow types row
      some (c :: cells)
  | _, _ => some []

variable {f} {type : K} {types : List K} {c : C} {cells : List C} {x y : X} {row : List X}

theorem Decodes.unique (hx : f.Decodes type c x) (hy : f.Decodes type c y) : x = y := by
  obtain ⟨hholds, hwrite, hnull | ⟨hne, honly⟩⟩ := hx
  · obtain ⟨-, -, hnull' | ⟨hne', -⟩⟩ := hy
    · exact hnull.trans hnull'.symm
    · exact absurd (hnull ▸ hwrite) hne'
  · exact (honly y hy.1 hy.2.1).symm

theorem decodes_iff : f.Decodes type c x ↔ f.write type x = some c ∧ f.Keeps type x := by
  constructor
  · intro h
    exact ⟨h.2.1, c, h⟩
  · rintro ⟨hwrite, c', h⟩
    have hc : c' = c := Option.some.inj (h.2.1.symm.trans hwrite)
    exact hc ▸ h

theorem Reads.unique : ∀ {types : List K} {cells : List C} {row row' : List X},
    f.Reads types cells row → f.Reads types cells row' → row = row'
  | [], [], [], [], _, _ => rfl
  | _ :: _, _ :: _, _ :: _, _ :: _, h, h' => by
      rw [h.1.unique h'.1, h.2.unique h'.2]

theorem Reads.length_eq : ∀ {types : List K} {cells : List C} {row : List X},
    f.Reads types cells row → cells.length = types.length
  | [], [], [], _ => rfl
  | _ :: _, _ :: _, _ :: _, h => congrArg (· + 1) h.2.length_eq

theorem reads_iff : ∀ {types : List K} {cells : List C} {row : List X},
    f.Reads types cells row ↔
      f.writeRow types row = some cells ∧ List.Forall₂ f.Keeps types row
  | [], cells, [] => by cases cells <;> simp [Reads, writeRow]
  | [], cells, x :: row => by cases cells <;> simp [Reads]
  | type :: types, cells, [] => by cases cells <;> simp [Reads]
  | type :: types, [], x :: row => by
      simp [Reads, writeRow, Option.bind_eq_some_iff]
  | type :: types, c :: cells, x :: row => by
      rw [Reads, decodes_iff, reads_iff, List.forall₂_cons]
      simp only [writeRow, Option.bind_eq_bind, Option.bind_eq_some_iff, Option.some.injEq,
        List.cons.injEq]
      constructor
      · rintro ⟨⟨hc, hkeeps⟩, hcells, hrow⟩
        exact ⟨⟨c, hc, cells, hcells, rfl, rfl⟩, hkeeps, hrow⟩
      · rintro ⟨⟨c', hc, cells', hcells, rfl, rfl⟩, hkeeps, hrow⟩
        exact ⟨⟨hc, hkeeps⟩, hcells, hrow⟩

theorem forall₂_reads_iff : ∀ {body : List (List C)} {rows : List (List X)},
    List.Forall₂ (f.Reads types) body rows ↔
      rows.mapM (f.writeRow types) = some body ∧
        ∀ row ∈ rows, List.Forall₂ f.Keeps types row
  | [], [] => by simp
  | [], row :: rows => by
      rw [List.mapM_cons]
      simp [Option.bind_eq_some_iff]
  | cells :: body, [] => by simp
  | cells :: body, row :: rows => by
      rw [List.forall₂_cons, reads_iff, forall₂_reads_iff, mapM_cons_eq_some_iff,
        List.forall_mem_cons]
      constructor
      · rintro ⟨⟨hcells, hkeeps⟩, hbody, hrows⟩
        exact ⟨⟨hcells, hbody⟩, hkeeps, hrows⟩
      · rintro ⟨⟨hcells, hbody⟩, hkeeps, hrows⟩
        exact ⟨⟨hcells, hkeeps⟩, hbody, hrows⟩

theorem exists_reads : ∀ {types : List K} {row : List X},
    List.Forall₂ f.Keeps types row → ∃ cells, f.Reads types cells row
  | [], [], _ => ⟨[], trivial⟩
  | _ :: _, _ :: _, h => by
      obtain ⟨⟨c, hc⟩, hrow⟩ := List.forall₂_cons.mp h
      obtain ⟨cells, hcells⟩ := exists_reads hrow
      exact ⟨c :: cells, hc, hcells⟩

theorem exists_forall₂_reads {rows : List (List X)}
    (h : ∀ row ∈ rows, List.Forall₂ f.Keeps types row) :
    ∃ body, List.Forall₂ (f.Reads types) body rows := by
  have hrows : ∀ row ∈ rows, ∃ cells, f.writeRow types row = some cells ∧
      f.Reads types cells row := by
    intro row hrow
    obtain ⟨cells, hcells⟩ := exists_reads (h row hrow)
    exact ⟨cells, (reads_iff.mp hcells).1, hcells⟩
  obtain ⟨body, -, hbody⟩ := exists_mapM_iff.mpr hrows
  exact ⟨body, hbody⟩

theorem writeRow_eq {Y D : Type} {fetch : K → X → Y} {g : Y → Option D} {w : D → C}
    (hwrite : ∀ type x, f.write type x = (g (fetch type x)).map w) :
    ∀ (types : List K) (row : List X),
      f.writeRow types row = ((List.zipWith fetch types row).mapM g).map (List.map w)
  | [], _ => rfl
  | _ :: _, [] => rfl
  | type :: types, x :: row => by
      rw [writeRow, List.zipWith_cons_cons, List.mapM_cons, hwrite, writeRow_eq hwrite types row]
      cases g (fetch type x) with
      | none => rfl
      | some d => cases (List.zipWith fetch types row).mapM g <;> rfl

theorem map_some_of_writeRow : ∀ {types : List K} {row : List X} {cells : List C},
    f.writeRow types row = some cells → cells.map some = List.zipWith f.write types row
  | [], _, _, h => by
      obtain rfl := Option.some.inj h
      rfl
  | _ :: _, [], _, h => by
      obtain rfl := Option.some.inj h
      rfl
  | type :: types, x :: row, cells, h => by
      simp only [writeRow, Option.bind_eq_bind, Option.bind_eq_some_iff, Option.some.injEq] at h
      obtain ⟨c, hc, cells', hcells, rfl⟩ := h
      rw [List.map_cons, List.zipWith_cons_cons, hc, map_some_of_writeRow hcells]

end Format

end

/-! ## What a reader reads -/

variable {V K : Type} {lib : Library V K}

namespace Library

variable (lib)

/-- The format of a CSV file. -/
def csv : Format K (Value V) Str where
  write type x := some (lib.csv_text (lib.fetched type x))
  holds := lib.holds
  null := .null

/-- The format of a JSON file. -/
def json : Format K (Value V) Json where
  write type x := lib.json_value (lib.fetched type x)
  holds := lib.holds
  null := .null

/-- The format of a worksheet. -/
def sheet : Format K (Value V) (Option Cell) where
  write type x := (lib.token (lib.fetched type x)).map lib.written
  holds := lib.holds
  null := .null

/-- A cell of a worksheet is read as a header: no other one is written so. -/
def HeaderReads (cell : Option Cell) (header : Str) : Prop :=
  lib.header_cell header = cell ∧ ∀ h, lib.header_cell h = cell → h = header

end Library

/-- A CSV file is read as a table.  What is between quotes and lines can be told from the
delimiter. -/
def CsvReads (file : CsvFile) (t : ResultTable lib) : Prop :=
  file.delimiter ∉ ['"', '\r', '\n'] ∧ ∃ body, file.records = t.headers :: body ∧
    List.Forall₂ (lib.csv.Reads t.types) body t.rows

/-- An object of a JSON file is read as a row. -/
def RecordReads (t : ResultTable lib) (record : Record) (row : List (Value V)) : Prop :=
  record.map Prod.fst = t.headers ∧ lib.json.Reads t.types (record.map Prod.snd) row

def JsonReads (file : List Record) (t : ResultTable lib) : Prop :=
  file ≠ [] ∧ List.Forall₂ (RecordReads t) file t.rows

/-- A worksheet is read as a table. -/
def SheetReads (sheet : Sheet) (t : ResultTable lib) : Prop :=
  List.Forall₂ lib.HeaderReads sheet.header t.headers ∧
    List.Forall₂ (lib.sheet.Reads t.types) sheet.body t.rows

/-! ## Whatever is read is the table -/

theorem CsvReads.unique {file : CsvFile} {t t' : ResultTable lib} (htypes : t.types = t'.types)
    (h : CsvReads file t) (h' : CsvReads file t') : t.headers = t'.headers ∧ t.rows = t'.rows := by
  obtain ⟨-, body, hrecords, hrows⟩ := h
  obtain ⟨-, body', hrecords', hrows'⟩ := h'
  obtain ⟨hheaders, rfl⟩ := List.cons.inj (hrecords.symm.trans hrecords')
  rw [← htypes] at hrows'
  refine ⟨hheaders, forall₂_unique ?_ hrows hrows'⟩
  exact fun _ _ _ => Format.Reads.unique

theorem JsonReads.unique {file : List Record} {t t' : ResultTable lib}
    (htypes : t.types = t'.types) (h : JsonReads file t) (h' : JsonReads file t') :
    t.headers = t'.headers ∧ t.rows = t'.rows := by
  obtain ⟨hne, hrows⟩ := h
  obtain ⟨-, hrows'⟩ := h'
  have hheaders : t.headers = t'.headers := by
    obtain ⟨record, hrecord⟩ := List.exists_mem_of_ne_nil _ hne
    obtain ⟨row, hrow⟩ := exists_of_mem_of_forall₂ hrows hrecord
    obtain ⟨row', hrow'⟩ := exists_of_mem_of_forall₂ hrows' hrecord
    exact hrow.1.symm.trans hrow'.1
  refine ⟨hheaders, forall₂_unique ?_ hrows hrows'⟩
  intro record row row' hrow hrow'
  exact hrow.2.unique (htypes ▸ hrow'.2)

theorem SheetReads.unique {sheet : Sheet} {t t' : ResultTable lib} (htypes : t.types = t'.types)
    (h : SheetReads sheet t) (h' : SheetReads sheet t') :
    t.headers = t'.headers ∧ t.rows = t'.rows := by
  obtain ⟨hheaders, hrows⟩ := h
  obtain ⟨hheaders', hrows'⟩ := h'
  rw [← htypes] at hrows'
  refine ⟨forall₂_unique ?_ hheaders hheaders', forall₂_unique ?_ hrows hrows'⟩
  · exact fun _ _ _ hx hy => hy.2 _ hx.1
  · exact fun _ _ _ => Format.Reads.unique

/-! ## CSV -/

theorem length_headers (t : ResultTable lib) : t.headers.length = t.types.length := by
  have hne : t.columns.map Prod.fst ≠ [] := by
    simpa using t.nonempty
  rw [ResultTable.headers, Explorer.headers, if_neg hne, ResultTable.types]
  simp

theorem length_row {t : ResultTable lib} {row : List (Value V)} (h : row ∈ t.rows) :
    row.length = t.types.length := (t.typed row h).length_eq.symm

theorem csv_writeRow (types : List K) (row : List (Value V)) :
    lib.csv.writeRow types row =
      some ((List.zipWith lib.fetched types row).map lib.csv_text) := by
  rw [lib.csv.writeRow_eq (g := some) (w := lib.csv_text) (fun _ _ => rfl) types row]
  have hsome (l : List (Value V)) : l.mapM some = some l := by
    induction l with
    | nil => rfl
    | cons x l ih => rw [List.mapM_cons, ih]; rfl
  rw [hsome, Option.map_some]

theorem csv_reads_iff (EXPLORER_CSV_DELIMETER : Str) (delim : Option Str) (t : ResultTable lib) :
    (∃ file, CSVExporter._get_output lib EXPLORER_CSV_DELIMETER delim t.headers (lib.data t) =
        some file ∧ CsvReads file t) ↔
      (∃ c, csv_delimiter EXPLORER_CSV_DELIMETER delim = some c ∧ c ∉ ['"', '\r', '\n']) ∧
        ∀ row ∈ t.rows, List.Forall₂ lib.csv.Keeps t.types row := by
  have hrow (row : List (Value V)) : lib.csv.Reads t.types
      ((List.zipWith lib.fetched t.types row).map lib.csv_text) row ↔
        List.Forall₂ lib.csv.Keeps t.types row := by
    rw [Format.reads_iff, csv_writeRow]
    exact and_iff_right rfl
  have hbody : List.Forall₂ (lib.csv.Reads t.types)
      ((lib.data t).map fun row => row.map lib.csv_text) t.rows ↔
        ∀ row ∈ t.rows, List.Forall₂ lib.csv.Keeps t.types row := by
    rw [Library.data, List.map_map, List.forall₂_map_left_iff, List.forall₂_same]
    simp only [Function.comp_apply, hrow]
  rw [CSVExporter._get_output]
  cases csv_delimiter EXPLORER_CSV_DELIMETER delim with
  | none => simp
  | some c => simp [CsvReads, hbody]

/-! ## JSON -/

theorem json_writeRow (types : List K) (row : List (Value V)) :
    lib.json.writeRow types row = (List.zipWith lib.fetched types row).mapM lib.json_value := by
  rw [lib.json.writeRow_eq (g := lib.json_value) (w := id)
    (fun _ _ => Option.map_id_apply.symm) types row, List.map_id_fun, Option.map_id_fun, id]

theorem keys_of_mapM {items : List (Str × Value V)} : ∀ {record : Record},
    (items.mapM fun kv => do
      let value ← lib.json_value kv.2
      some (kv.1, value)) = some record → record.map Prod.fst = items.map Prod.fst := by
  induction items with
  | nil =>
      intro record h
      obtain rfl := Option.some.inj h
      rfl
  | cons kv items ih =>
      intro record h
      rw [List.mapM_cons] at h
      simp only [Option.bind_eq_bind, Option.bind_eq_some_iff] at h
      obtain ⟨r, ⟨value, -, hr⟩, rest, hrest, h⟩ := h
      obtain rfl := Option.some.inj h
      obtain rfl := Option.some.inj hr
      rw [List.map_cons, List.map_cons, ih hrest]

theorem mapM_zip : ∀ {headers : List Str} {row : List (Value V)}, headers.length = row.length →
    ((headers.zip row).mapM fun kv => do
      let value ← lib.json_value kv.2
      some (kv.1, value)) = (row.mapM lib.json_value).map headers.zip
  | [], [], _ => rfl
  | h :: headers, x :: row, hlength => by
      rw [List.zip_cons_cons, List.mapM_cons, List.mapM_cons, mapM_zip (Nat.succ.inj hlength)]
      cases lib.json_value x with
      | none => rfl
      | some value => cases row.mapM lib.json_value <;> rfl

theorem record_reads_iff {t : ResultTable lib} {row : List (Value V)} (hrow : row ∈ t.rows) :
    (∃ record, JSONExporter.record lib t.headers (List.zipWith lib.fetched t.types row) =
        some record ∧ RecordReads t record row) ↔
      t.headers.Nodup ∧ List.Forall₂ lib.json.Keeps t.types row := by
  have hlength : t.headers.length = (List.zipWith lib.fetched t.types row).length := by
    rw [List.length_zipWith, length_row hrow, Nat.min_self, length_headers]
  constructor
  · rintro ⟨record, hrecord, hkeys, hreads⟩
    refine ⟨?_, (Format.reads_iff.mp hreads).2⟩
    rw [← hkeys, keys_of_mapM hrecord]
    exact Dict.nodup _
  · rintro ⟨hnodup, hkeeps⟩
    obtain ⟨cells, hcells⟩ := Format.exists_reads hkeeps
    have hwrite := (Format.reads_iff.mp hcells).1
    rw [json_writeRow] at hwrite
    have hcount : t.headers.length = cells.length := by
      rw [length_headers, hcells.length_eq]
    have hfst : (t.headers.zip cells).map Prod.fst = t.headers :=
      List.map_fst_zip hcount.le
    have hsnd : (t.headers.zip cells).map Prod.snd = cells :=
      List.map_snd_zip hcount.ge
    have hkeys : ((t.headers.zip (List.zipWith lib.fetched t.types row)).map Prod.fst).Nodup := by
      rwa [List.map_fst_zip hlength.le]
    refine ⟨t.headers.zip cells, ?_, hfst, ?_⟩
    · rw [JSONExporter.record, Dict.items_ofPairs hkeys, mapM_zip hlength, hwrite, Option.map_some]
    · rwa [hsnd]

theorem json_reads_iff (t : ResultTable lib) :
    (∃ file, JSONExporter._get_output lib t.headers (lib.data t) = some file ∧ JsonReads file t) ↔
      t.rows ≠ [] ∧ t.headers.Nodup ∧
        ∀ row ∈ t.rows, List.Forall₂ lib.json.Keeps t.types row := by
  have hfile : (∃ file, JSONExporter._get_output lib t.headers (lib.data t) = some file ∧
      List.Forall₂ (RecordReads t) file t.rows) ↔
        ∀ row ∈ t.rows, t.headers.Nodup ∧ List.Forall₂ lib.json.Keeps t.types row := by
    rw [JSONExporter._get_output, Library.data, List.mapM_map, exists_mapM_iff]
    exact forall₂_congr fun row hrow => record_reads_iff hrow
  constructor
  · rintro ⟨file, houtput, hne, hreads⟩
    have hrows : t.rows ≠ [] := by
      rintro hnil
      rw [hnil] at hreads
      exact hne (List.forall₂_nil_right_iff.mp hreads)
    have hall := hfile.mp ⟨file, houtput, hreads⟩
    obtain ⟨row, hrow⟩ := List.exists_mem_of_ne_nil _ hrows
    exact ⟨hrows, (hall row hrow).1, fun row hrow => (hall row hrow).2⟩
  · rintro ⟨hrows, hnodup, hkeeps⟩
    obtain ⟨file, houtput, hreads⟩ := hfile.mpr fun row hrow => ⟨hnodup, hkeeps row hrow⟩
    refine ⟨file, houtput, ?_, hreads⟩
    rintro rfl
    exact hrows (List.forall₂_nil_left_iff.mp hreads)

/-! ## Worksheets -/

def isLink : Option Cell → Bool
  | some (.link _ _) => true
  | _ => false

theorem exists_of_isLink : ∀ {c : Option Cell}, isLink c = true → ∃ s url, c = some (.link s url)
  | some (.link s url), _ => ⟨s, url, rfl⟩

theorem place_of_not_isLink {c : Option Cell} (links : Nat) (h : ¬ isLink c = true) :
    place links c = (c, links) := by
  cases c with
  | none => rfl
  | some c =>
      cases c with
      | link s url => exact absurd rfl h
      | _ => rfl

theorem placeRow_snd : ∀ (links : Nat) (cells : List (Option Cell)),
    (placeRow links cells).2 = links + cells.countP isLink
  | links, [] => rfl
  | links, c :: cells => by
      rw [placeRow, placeRow_snd]
      by_cases hc : isLink c = true
      · obtain ⟨s, url, rfl⟩ := exists_of_isLink hc
        rw [List.countP_cons_of_pos hc, place]
        omega
      · rw [List.countP_cons_of_neg hc, place_of_not_isLink links hc]

theorem placeRow_fst_iff : ∀ {links : Nat} {cells : List (Option Cell)}, links ≤ maxLinks →
    ((placeRow links cells).1 = cells ↔ links + cells.countP isLink ≤ maxLinks)
  | links, [], h => by simpa [placeRow] using h
  | links, c :: cells, h => by
      rw [placeRow, List.cons.injEq]
      by_cases hc : isLink c = true
      · obtain ⟨s, url, rfl⟩ := exists_of_isLink hc
        rw [List.countP_cons_of_pos hc, place]
        by_cases hlinks : links < maxLinks
        · rw [if_pos hlinks, placeRow_fst_iff (Nat.succ_le_of_lt hlinks), and_iff_right rfl]
          omega
        · rw [if_neg hlinks]
          exact iff_of_false (fun h => by cases h.1) (by omega)
      · rw [List.countP_cons_of_neg hc, place_of_not_isLink links hc, placeRow_fst_iff h,
          and_iff_right rfl]

theorem length_placeRows : ∀ (links : Nat) (rows : List (List (Option Cell))),
    (placeRows links rows).1.length = rows.length
  | _, [] => rfl
  | _, _ :: rows => congrArg (· + 1) (length_placeRows _ rows)

theorem placeRows_fst_iff : ∀ {links : Nat} {rows : List (List (Option Cell))},
    links ≤ maxLinks → ((placeRows links rows).1 = rows ↔
      links + (rows.map fun row => row.countP isLink).sum ≤ maxLinks)
  | links, [], h => by simpa [placeRows] using h
  | links, row :: rows, h => by
      rw [placeRows, List.cons.injEq, placeRow_fst_iff h, placeRow_snd, List.map_cons,
        List.sum_cons]
      constructor
      · rintro ⟨hrow, hrows⟩
        have := (placeRows_fst_iff hrow).mp hrows
        omega
      · intro hle
        have hrow : links + row.countP isLink ≤ maxLinks := by omega
        exact ⟨hrow, (placeRows_fst_iff hrow).mpr (by omega)⟩

theorem written_iff {header : List (Option Cell)} {rows : List (List (Option Cell))} :
    ((placeRow 0 header).1 = header ∧
      ((placeRows (placeRow 0 header).2 (rows.take (maxRows - 1))).1.rdropWhile
        fun row => row.all Option.isNone) = rows) ↔
      rows.length < maxRows ∧
        header.countP isLink + (rows.map fun row => row.countP isLink).sum ≤ maxLinks ∧
        ∀ row, rows.getLast? = some row → ¬ row.all Option.isNone := by
  rw [placeRow_fst_iff (Nat.zero_le _), placeRow_snd, Nat.zero_add]
  have hrows : 0 < maxRows := by decide
  constructor
  · rintro ⟨hheader, hbody⟩
    have hkept := (List.rdropWhile_prefix (fun row : List (Option Cell) => row.all Option.isNone)
      (placeRows (header.countP isLink) (rows.take (maxRows - 1))).1)
    have hlength := hkept.length_le
    rw [hbody, length_placeRows, List.length_take] at hlength
    have htake : rows.take (maxRows - 1) = rows := List.take_of_length_le (by omega)
    rw [htake] at hbody hkept
    rw [hbody] at hkept
    have hplaced : (placeRows (header.countP isLink) rows).1 = rows :=
      (hkept.eq_of_length (length_placeRows _ rows).symm).symm
    rw [hplaced] at hbody
    refine ⟨by omega, (placeRows_fst_iff hheader).mp hplaced, ?_⟩
    intro row hrow
    obtain ⟨hne, rfl⟩ := List.mem_getLast?_eq_getLast hrow
    exact List.rdropWhile_eq_self_iff.mp hbody hne
  · rintro ⟨hlength, hlinks, hlast⟩
    have hheader : header.countP isLink ≤ maxLinks := by omega
    refine ⟨hheader, ?_⟩
    rw [List.take_of_length_le (by omega), (placeRows_fst_iff hheader).mpr hlinks]
    exact List.rdropWhile_eq_self_iff.mpr fun hne =>
      hlast _ (List.getLast?_eq_getLast_of_ne_nil hne)

namespace ResultTable

variable (t : ResultTable lib)

/-- What the values of a row are written as in a worksheet. -/
def cells (row : List (Value V)) : List (Option (Option Cell)) :=
  List.zipWith lib.sheet.write t.types row

/-- The links in the headers and the values. -/
def links : Nat :=
  (t.headers.map lib.header_cell).countP isLink +
    (t.rows.map fun row => (t.cells row).countP fun c => c.any isLink).sum

end ResultTable

theorem countP_cells {t : ResultTable lib} {row : List (Value V)} {cells : List (Option Cell)}
    (h : lib.sheet.writeRow t.types row = some cells) :
    (t.cells row).countP (fun c => c.any isLink) = cells.countP isLink := by
  rw [ResultTable.cells, ← Format.map_some_of_writeRow h, List.countP_map]
  rfl

theorem all_cells_iff {t : ResultTable lib} {row : List (Value V)} {cells : List (Option Cell)}
    (h : lib.sheet.writeRow t.types row = some cells) :
    cells.all Option.isNone = true ↔ ∀ c ∈ t.cells row, c = some none := by
  rw [ResultTable.cells, ← Format.map_some_of_writeRow h]
  simp

theorem sheet_writeRow (types : List K) (row : List (Value V)) :
    lib.sheet.writeRow types row =
      ((List.zipWith lib.fetched types row).mapM lib.token).map (List.map lib.written) :=
  lib.sheet.writeRow_eq (fun _ _ => rfl) types row

theorem sheet_mapM_writeRow {t : ResultTable lib} :
    t.rows.mapM (lib.sheet.writeRow t.types) =
      ((lib.data t).mapM (List.mapM lib.token)).map (List.map (List.map lib.written)) := by
  rw [Library.data, List.mapM_map]
  induction t.rows with
  | nil => rfl
  | cons row rows ih =>
      rw [List.mapM_cons, List.mapM_cons, ih, sheet_writeRow, Function.comp_apply]
      cases (List.zipWith lib.fetched t.types row).mapM lib.token with
      | none => rfl
      | some tokens =>
          cases rows.mapM (List.mapM lib.token ∘ List.zipWith lib.fetched t.types) <;> rfl

theorem forall₂_headerReads_iff {cells : List (Option Cell)} {headers : List Str} :
    List.Forall₂ lib.HeaderReads cells headers ↔
      cells = headers.map lib.header_cell ∧
        ∀ header ∈ headers, ∀ h, lib.header_cell h = lib.header_cell header → h = header := by
  induction headers generalizing cells with
  | nil => simp
  | cons header headers ih =>
      rw [List.forall₂_cons_right_iff, List.map_cons, List.forall_mem_cons]
      constructor
      · rintro ⟨cell, rest, ⟨rfl, hheader⟩, hrest, rfl⟩
        obtain ⟨rfl, hheaders⟩ := ih.mp hrest
        exact ⟨rfl, hheader, hheaders⟩
      · rintro ⟨rfl, hheader, hheaders⟩
        exact ⟨_, _, ⟨rfl, hheader⟩, ih.mpr ⟨rfl, hheaders⟩, rfl⟩

theorem excel_output_iff {headers : List Str} {data : List (List (Value V))} {sheet : Sheet} :
    ExcelExporter._get_output lib headers data = some sheet ↔
      ∃ body, (data.mapM (List.mapM lib.token)).map (List.map (List.map lib.written)) = some body ∧
        (placeRow 0 (headers.map lib.header_cell)).1 = sheet.header ∧
        ((placeRows (placeRow 0 (headers.map lib.header_cell)).2 (body.take (maxRows - 1))).1
          |>.rdropWhile fun row => row.all Option.isNone) = sheet.body := by
  rw [ExcelExporter._get_output]
  cases hdata : data.mapM (List.mapM lib.token) with
  | none => simp
  | some tokens =>
      cases sheet
      simp [List.map_take]

theorem room_iff {t : ResultTable lib} {body : List (List (Option Cell))}
    (h : t.rows.mapM (lib.sheet.writeRow t.types) = some body) :
    (body.length < maxRows ∧
      (t.headers.map lib.header_cell).countP isLink +
        (body.map fun row => row.countP isLink).sum ≤ maxLinks ∧
      ∀ row, body.getLast? = some row → ¬ row.all Option.isNone) ↔
      t.rows.length < maxRows ∧ t.links ≤ maxLinks ∧
        ∀ row, t.rows.getLast? = some row → ∃ c ∈ t.cells row, c ≠ some none := by
  have hlinks := map_eq_map_of_mapM h (g := fun row => row.countP isLink) fun _ _ hrow =>
    (countP_cells hrow).symm
  have hlength : body.length = t.rows.length := by
    simpa using congrArg List.length hlinks
  have hlast := congrArg List.getLast? <|
    map_eq_map_of_mapM h (g := fun row => row.all Option.isNone = true) fun _ _ hrow =>
      propext (all_cells_iff hrow)
  rw [List.getLast?_map, List.getLast?_map] at hlast
  rw [hlength, hlinks, ResultTable.links]
  refine and_congr_right fun _ => and_congr_right fun _ => ?_
  cases hbody : body.getLast? with
  | none =>
      rw [hbody, Option.map_none, eq_comm, Option.map_eq_none_iff] at hlast
      simp [hlast]
  | some cells =>
      rw [hbody, Option.map_some, eq_comm, Option.map_eq_some_iff] at hlast
      obtain ⟨row, hrow, hall⟩ := hlast
      simp only [hrow, Option.some.injEq, forall_eq', ← hall]
      push Not
      rfl

theorem sheet_reads_iff (t : ResultTable lib) :
    (∃ sheet, ExcelExporter._get_output lib t.headers (lib.data t) = some sheet ∧
        SheetReads sheet t) ↔
      (∀ header ∈ t.headers, ∀ h, lib.header_cell h = lib.header_cell header → h = header) ∧
        (∀ row ∈ t.rows, List.Forall₂ lib.sheet.Keeps t.types row) ∧
        t.rows.length < maxRows ∧ t.links ≤ maxLinks ∧
        ∀ row, t.rows.getLast? = some row → ∃ c ∈ t.cells row, c ≠ some none := by
  constructor
  · rintro ⟨sheet, houtput, hheader, hbody⟩
    obtain ⟨body, hdata, hplaced, hwritten⟩ := excel_output_iff.mp houtput
    obtain ⟨hheaders, hdistinct⟩ := forall₂_headerReads_iff.mp hheader
    obtain ⟨hrows, hkeeps⟩ := Format.forall₂_reads_iff.mp hbody
    rw [← sheet_mapM_writeRow] at hdata
    obtain rfl : body = sheet.body := Option.some.inj (hdata.symm.trans hrows)
    have hroom := (room_iff hdata).mp (written_iff.mp ⟨hplaced.trans hheaders, hwritten⟩)
    exact ⟨hdistinct, hkeeps, hroom⟩
  · rintro ⟨hdistinct, hkeeps, hroom⟩
    obtain ⟨body, hbody⟩ := Format.exists_forall₂_reads hkeeps
    have hrows := (Format.forall₂_reads_iff.mp hbody).1
    obtain ⟨hplaced, hwritten⟩ := written_iff.mpr ((room_iff hrows).mpr hroom)
    rw [sheet_mapM_writeRow] at hrows
    exact ⟨⟨t.headers.map lib.header_cell, body⟩,
      excel_output_iff.mpr ⟨body, hrows, hplaced, hwritten⟩,
      forall₂_headerReads_iff.mpr ⟨rfl, hdistinct⟩, hbody⟩

/-! ## What has to hold of the results -/

/-- The delimiter is a character of its own, there is a row, and the headers are different.
No two texts are written to a worksheet as a header, no two values of a type to a file as a
value, and no other value as `None`.  A worksheet has room for the rows and the links, and
something is written for the last row. -/
structure Keepable (EXPLORER_CSV_DELIMETER : Str) (delim : Option Str) (t : ResultTable lib) :
    Prop where
  delimiter : ∃ c, csv_delimiter EXPLORER_CSV_DELIMETER delim = some c ∧ c ∉ ['"', '\r', '\n']
  row : t.rows ≠ []
  distinct : t.headers.Nodup
  headers : ∀ header ∈ t.headers, ∀ h, lib.header_cell h = lib.header_cell header → h = header
  csv : ∀ row ∈ t.rows, List.Forall₂ lib.csv.Keeps t.types row
  json : ∀ row ∈ t.rows, List.Forall₂ lib.json.Keeps t.types row
  sheet : ∀ row ∈ t.rows, List.Forall₂ lib.sheet.Keeps t.types row
  rows : t.rows.length < maxRows
  links : t.links ≤ maxLinks
  last : ∀ row, t.rows.getLast? = some row → ∃ c ∈ t.cells row, c ≠ some none

/-- The exports succeed, and each of them is read as the table. -/
def ReadBack (EXPLORER_CSV_DELIMETER : Str) (delim : Option Str) (t : ResultTable lib) : Prop :=
  (∃ file, CSVExporter._get_output lib EXPLORER_CSV_DELIMETER delim t.headers (lib.data t) =
    some file ∧ CsvReads file t) ∧
  (∃ file, JSONExporter._get_output lib t.headers (lib.data t) = some file ∧ JsonReads file t) ∧
  ∃ sheet, ExcelExporter._get_output lib t.headers (lib.data t) = some sheet ∧ SheetReads sheet t

/-- The exports are read back exactly when the results can be kept. -/
theorem exports_read_back_iff (EXPLORER_CSV_DELIMETER : Str) (delim : Option Str)
    (t : ResultTable lib) :
    ReadBack EXPLORER_CSV_DELIMETER delim t ↔ Keepable EXPLORER_CSV_DELIMETER delim t := by
  rw [ReadBack, csv_reads_iff, json_reads_iff, sheet_reads_iff]
  constructor
  · rintro ⟨⟨hdelimiter, hcsv⟩, ⟨hrow, hdistinct, hjson⟩, hheaders, hsheet, hrows, hlinks, hlast⟩
    exact ⟨hdelimiter, hrow, hdistinct, hheaders, hcsv, hjson, hsheet, hrows, hlinks, hlast⟩
  · intro h
    exact ⟨⟨h.delimiter, h.csv⟩, ⟨h.row, h.distinct, h.json⟩, h.headers, h.sheet, h.rows, h.links,
      h.last⟩

/-! ## Two columns of one name -/

/-- Columns of texts, none of which is a link. -/
def textLibrary : Library Empty Unit where
  str v := v.elim
  is_datetime_or_uuid v := v.elim
  is_dict_or_list v := v.elim
  dumps v := v.elim
  dumps_indented _ := []
  encode v := v.elim
  write_text
    | [] => none
    | '=' :: s => some (.formula (s.dropWhile (· == '=')))
    | c :: s => some (.string (c :: s))
  write_other v := v.elim
  holds _ _ := True
  is_jsonb _ := false
  write_text_nil := rfl
  write_text_formula _ := rfl

/-- `SELECT 'x' AS a, 'y' AS a`. -/
def twoColumns : ResultTable textLibrary where
  columns := [("col_1_a".toList, ()), ("col_2_a".toList, ())]
  rows := [[.str "x".toList, .str "y".toList]]
  nonempty := List.cons_ne_nil _ _
  fits := by decide
  typed _ h := by
    obtain rfl := List.mem_singleton.mp h
    exact .cons trivial (.cons trivial .nil)

/-- The object of the row has one of the values. -/
theorem two_columns_not_read_back : ¬ ReadBack ",".toList none twoColumns := by
  intro h
  have hdistinct := ((json_reads_iff twoColumns).mp h.2.1).2.1
  have hheaders : twoColumns.headers = ["a".toList, "a".toList] := by decide +kernel
  rw [hheaders] at hdistinct
  exact absurd hdistinct (by decide)

/-! ## Texts -/

/-- A column of texts. -/
structure Library.IsText (lib : Library V K) (type : K) : Prop where
  holds_iff : ∀ x, lib.holds type x ↔ x = .null ∨ ∃ s, x = .str s
  is_jsonb : lib.is_jsonb type = false

section Texts

variable {type : K} (h : lib.IsText type)

include h

theorem fetched_text (x : Value V) : lib.fetched type x = x := by
  rw [Library.fetched, h.is_jsonb]
  rfl

theorem keeps_text_iff {C : Type} {f : Format K (Value V) C} (hholds : f.holds = lib.holds)
    (hnull : f.null = .null) {s : Str} :
    f.Keeps type (.str s) ↔ ∃ c, f.write type (.str s) = some c ∧ f.write type .null ≠ some c ∧
      ∀ r, f.write type (.str r) = some c → r = s := by
  simp only [Format.Keeps, Format.Decodes, hholds, hnull, h.holds_iff]
  constructor
  · rintro ⟨c, -, hc, hs | ⟨hne, honly⟩⟩
    · cases hs
    · refine ⟨c, hc, hne, fun r hr => ?_⟩
      exact Value.str.inj (honly _ (Or.inr ⟨r, rfl⟩) hr)
  · rintro ⟨c, hc, hne, honly⟩
    refine ⟨c, Or.inr ⟨s, rfl⟩, hc, Or.inr ⟨hne, ?_⟩⟩
    rintro y (rfl | ⟨r, rfl⟩) hy
    · exact absurd hy hne
    · rw [honly r hy]

theorem csv_keeps_text_iff {s : Str} : lib.csv.Keeps type (.str s) ↔ s ≠ [] := by
  rw [keeps_text_iff h (f := lib.csv) rfl rfl]
  simp only [Library.csv, fetched_text h, Library.csv_text, Option.some.injEq]
  constructor
  · rintro ⟨c, rfl, hne, -⟩
    exact fun hs => hne (congrArg some hs.symm)
  · intro hs
    exact ⟨s, rfl, fun hn => hs (Option.some.inj hn).symm, fun r hr => hr⟩

theorem json_keeps_text (s : Str) : lib.json.Keeps type (.str s) := by
  rw [keeps_text_iff h (f := lib.json) rfl rfl]
  simp only [Library.json, fetched_text h, Library.json_value, Option.some.injEq]
  refine ⟨.str s, rfl, ?_, fun r hr => ?_⟩
  · intro hn
    cases hn
  · exact Json.str.inj hr

theorem sheet_keeps_text_iff {s : Str} :
    lib.sheet.Keeps type (.str s) ↔
      lib.write_text s ≠ none ∧ ∀ r, lib.write_text r = lib.write_text s → r = s := by
  rw [keeps_text_iff h (f := lib.sheet) rfl rfl]
  simp only [Library.sheet, fetched_text h, Library.token, Option.map_some, Library.written,
    Option.some.injEq]
  constructor
  · rintro ⟨c, rfl, hne, honly⟩
    exact ⟨fun hs => hne (congrArg some hs.symm), honly⟩
  · rintro ⟨hne, honly⟩
    exact ⟨_, rfl, fun hn => hne (Option.some.inj hn).symm, honly⟩

theorem not_sheet_keeps_formula (s : Str) : ¬ lib.sheet.Keeps type (.str ('=' :: s)) := by
  rw [sheet_keeps_text_iff h]
  rintro ⟨-, honly⟩
  have hcell : lib.write_text ('=' :: '=' :: s) = lib.write_text ('=' :: s) := by
    rw [lib.write_text_formula, lib.write_text_formula, List.dropWhile_cons_of_pos rfl]
  have hlength := congrArg List.length (honly _ hcell)
  simp at hlength

end Texts

end Exporters

end Explorer
