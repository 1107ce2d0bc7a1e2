import DataWorkspace.AuditLogs.Portions
import DataWorkspace.Datasets.SourceLinks
import DataWorkspace.Py.Splitlines
import DataWorkspace.Py.Utf8
import DataWorkspace.YourFiles.ColumnNames

/-!
# What the first bytes of a CSV file say of it

The preview of a source link and the columns of a new table are read from the first bytes of an
object.  The cut may be anywhere: in a character, in a quoted field, before the first newline.

The columns come from all rows but the last, and so from whole ones, if the cut is between two
characters (`columns_sampled_iff`).  The preview ends at the last newline, which may be one in
quotes, and it ends lines at more than newlines (`preview_agrees`).
-/

namespace Datasets

namespace Samples

open Py CsvReader Async
open AuditLogs (DictRow dictRow)

/-! ## What the code does -/

/-- `Range="bytes=0-102400"`, with both ends. -/
def ranged (object : Bytes) : Bytes := object.take 102401

/-- `csv.field_size_limit()`. -/
def field_size_limit : Nat := 131072

inductive Exc where
  | UnicodeDecodeError
  | ValueError
  | CsvError
deriving DecidableEq

def orRaise {α : Type} (e : Exc) : Option α → Except Exc α
  | some a => .ok a
  | none => .error e

/-- The bucket of uploads: what `head_object` finds, and the objects. -/
structure Bucket where
  accessible : Str → Bool
  object : Str → Bytes

/-- `head[: head.rindex("\n") + 1]`. -/
def up_to_last_newline (head : Str) : Option Str :=
  if '\n' ∈ head then some (head.rdropWhile (· ≠ '\n')) else none

/-- The header and the records, of which `num_of_rows` are enough. -/
def SourceLink.get_preview_data (bucket : Bucket) (num_of_rows : Nat)
    (link : SourceLinks.SourceLink) : Except Exc (Option (List Str) × List DictRow) :=
  if !link._is_s3_link || !bucket.accessible link.url || !endswith link.url ".csv" then
    .ok (none, [])
  else do
    let head ← orRaise .UnicodeDecodeError (decodeStrict (ranged (bucket.object link.url)))
    let head ← orRaise .ValueError (up_to_last_newline head)
    let csv_data := (splitlines head).take num_of_rows
    let rows ← orRaise .CsvError (csv_rows field_size_limit (text_lines (join "\n" csv_data)))
    match rows with
    | [] => .ok (none, [])
    | fieldnames :: rows =>
        -- the loop stops behind a record that makes them enough
        let records := (rows.filter (· ≠ [])).map (dictRow fieldnames)
        .ok (some fieldnames, records.take (max 1 num_of_rows))

/-- `bs.decode("utf-8-sig")`. -/
def decodeSig (bs : Bytes) : Option Str :=
  decodeStrict (if [0xEF, 0xBB, 0xBF].isPrefixOf bs then bs.drop 3 else bs)

/-- The rows that `get_s3_csv_column_types` reads of an object. -/
def sampled_rows (object : Bytes) : Except YourFiles.Exc (List (List Str)) :=
  match decodeSig (ranged object) with
  | none => .error .ValueError
  | some text =>
      match csv_rows field_size_limit (text_lines text) with
      | none => .error .other
      | some rows => .ok rows

/-! ## What is expected -/

/-- A limit that no field of the text is longer than. -/
def limitOf (s : Str) : Nat := max field_size_limit s.length

/-- The rows of a whole text. -/
def full_rows (s : Str) : Option (List (List Str)) := csv_rows (limitOf s) (text_lines s)

/-- The text without a byte order mark. -/
def bomless : Str → Str
  | '\ufeff' :: s => s
  | s => s

/-- The header and the first records. -/
def Previewed (full : List (List Str)) : Except Exc (Option (List Str) × List DictRow) → Prop
  | .ok (fieldnames, records) => fieldnames = full.head? ∧
      records <+: (full.tail.filter (· ≠ [])).map (dictRow (full.headD []))
  | .error _ => False

variable (lib : YourFiles.Library)

/-- One column for each header, with samples and types of the rows that come first. -/
def Sampled (full : List (List Str)) (columns : List YourFiles.ColumnDefinition) : Prop :=
  ∃ header rows fields, header :: rows <+: full ∧ lib.infer (header :: rows) = .ok (fields, rows) ∧
    YourFiles.definitions lib rows 0 fields = .ok columns ∧
    columns.map YourFiles.ColumnDefinition.header_name = header ∧
    ∀ (i : Nat) (col : YourFiles.ColumnDefinition), columns[i]? = some col →
      col.sample_data = (rows.map fun row => row.getD i []).take 6

/-! ## The cut -/

/-- The characters that are whole within the first `n` bytes. -/
def whole (n : Nat) : Str → Str
  | [] => []
  | c :: s => if (encodeChar c).length ≤ n then c :: whole (n - (encodeChar c).length) s else []

/-- The text of the bytes that are read, up to the character that is cut. -/
def head (s : Str) : Str := whole 102401 s

/-- The cut is between two characters, or there is none. -/
def CutBetween (s : Str) : Prop := encode (head s) = ranged (encode s)

/-- The lines of which the preview is made. -/
def kept (num_of_rows : Nat) (s : Str) : List (Str × Str) :=
  (brokenLines ((head s).rdropWhile (· ≠ '\n'))).take num_of_rows

/-- The condition on an object. -/
structure Fits (num_of_rows : Nat) (s : Str) : Prop where
  cut : CutBetween s
  newline : '\n' ∈ head s
  breaks : BreaksFit (limitOf s) start (kept num_of_rows s)
  first : FirstFits (kept num_of_rows s)

/-! ## Reading up to the cut -/

section Cut

theorem encodeChar_ne_nil (c : Char) : encodeChar c ≠ [] := by
  rw [encodeChar]
  split
  next => exact List.cons_ne_nil _ _
  next =>
      split
      next => exact List.cons_ne_nil _ _
      next =>
          split
          next => exact List.cons_ne_nil _ _
          next => exact List.cons_ne_nil _ _

theorem encode_cons (c : Char) (s : Str) : encode (c :: s) = encodeChar c ++ encode s :=
  List.flatMap_cons

theorem whole_begins : ∀ (n : Nat) (s : Str), whole n s <+: s
  | _, [] => List.prefix_rfl
  | n, c :: s => by
      rw [whole]
      split
      next => exact List.cons_prefix_cons.mpr ⟨rfl, whole_begins _ s⟩
      next => exact List.nil_prefix

theorem length_whole_le : ∀ (n : Nat) (s : Str), (whole n s).length ≤ n
  | _, [] => Nat.zero_le _
  | n, c :: s => by
      rw [whole]
      split
      next hle =>
          have hpos := List.length_pos_iff.mpr (encodeChar_ne_nil c)
          have ih := length_whole_le (n - (encodeChar c).length) s
          rw [List.length_cons]
          omega
      next => exact Nat.zero_le _

theorem eq_whole : ∀ {n : Nat} {s t : Str}, encode t = (encode s).take n → t = whole n s
  | n, [], t, h => by
      cases t with
      | nil => rfl
      | cons d t =>
          rw [encode_cons] at h
          simp [encode, encodeChar_ne_nil] at h
  | n, c :: s, t, h => by
      have hpos := List.length_pos_iff.mpr (encodeChar_ne_nil c)
      cases t with
      | nil =>
          have hn : n = 0 := by
            by_contra hn
            have hlength := congrArg List.length h
            rw [encode_cons, List.length_take, List.length_append] at hlength
            simp only [encode, List.flatMap_nil, List.length_nil] at hlength
            omega
          rw [whole, if_neg (by omega)]
      | cons d t =>
          have hprefix : d :: t <+: c :: s := prefix_of_encode (h ▸ List.take_prefix n _)
          obtain ⟨rfl, _⟩ := List.cons_prefix_cons.mp hprefix
          have hle : (encodeChar d).length ≤ n := by
            have hlength := congrArg List.length h
            rw [List.length_take, encode_cons, List.length_append] at hlength
            omega
          rw [encode_cons, encode_cons, List.take_append, List.take_of_length_le hle] at h
          rw [whole, if_pos hle, ← eq_whole (List.append_cancel_left h)]

theorem decodeStrict_ranged_iff {s t : Str} :
    decodeStrict (ranged (encode s)) = some t ↔ CutBetween s ∧ t = head s := by
  rw [decodeStrict_eq_some_iff]
  constructor
  · intro h
    obtain rfl := eq_whole h
    exact ⟨h, rfl⟩
  · rintro ⟨h, rfl⟩
    exact h

theorem bomless_of_ne {s : Str} (h : ∀ s', s ≠ '\ufeff' :: s') : bomless s = s := by
  unfold bomless
  split
  next s' => exact absurd rfl (h s')
  next => rfl

theorem encodeChar_mark : encodeChar '\ufeff' = [0xEF, 0xBB, 0xBF] := by decide

theorem decodeSig_eq (bs : Bytes) : decodeSig bs = (decodeStrict bs).map bomless := by
  rw [decodeSig]
  split
  next h =>
      obtain ⟨rest, rfl⟩ := List.isPrefixOf_iff_prefix.mp h
      have hdrop : ([0xEF, 0xBB, 0xBF] ++ rest : Bytes).drop 3 = rest := rfl
      rw [hdrop, ← encodeChar_mark, decodeStrict, decodeStrict, decodeReplace_encodeChar,
        encode_cons]
      by_cases hrest : encode (decodeReplace rest) = rest
      · rw [if_pos hrest, if_pos (by rw [hrest])]
        rfl
      · rw [if_neg hrest, if_neg fun heq => hrest (List.append_cancel_left heq)]
        rfl
  next h =>
      cases hdecode : decodeStrict bs with
      | none => rfl
      | some t =>
          have hne : ∀ s', t ≠ '\ufeff' :: s' := by
            rintro s' rfl
            rw [decodeStrict_eq_some_iff, encode_cons, encodeChar_mark] at hdecode
            exact h (List.isPrefixOf_iff_prefix.mpr ⟨_, hdecode⟩)
          rw [Option.map_some, bomless_of_ne hne]

theorem bomless_prefix {t s : Str} (h : t <+: s) : bomless t <+: bomless s := by
  by_cases ht : ∃ t', t = '\ufeff' :: t'
  · obtain ⟨t', rfl⟩ := ht
    obtain ⟨rest, rfl⟩ := h
    exact List.prefix_append t' rest
  · have hne : ∀ t', t ≠ '\ufeff' :: t' := fun t' heq => ht ⟨t', heq⟩
    rw [bomless_of_ne hne]
    cases t with
    | nil => exact List.nil_prefix
    | cons c t =>
        obtain ⟨rest, rfl⟩ := h
        rw [bomless_of_ne (s := c :: t ++ rest)]
        · exact List.prefix_append _ _
        · intro s' heq
          exact hne t (by rw [(List.cons.inj heq).1])

theorem length_bomless_le (s : Str) : (bomless s).length ≤ s.length := by
  unfold bomless
  split
  next => exact Nat.le_succ _
  next => exact Nat.le_refl _

theorem read_short {t s : Str} (hlength : t.length ≤ 102401) :
    csv_rows field_size_limit (text_lines t) = read (limitOf s) start t := by
  have hlimit : field_size_limit ≤ limitOf s := Nat.le_max_left _ _
  have hfit : t.length ≤ field_size_limit := hlength.trans (by decide)
  refine read_limit t start ?_ ?_
  · simpa [start] using hfit
  · simpa [start] using hfit.trans hlimit

end Cut

/-! ## The columns of a table -/

section Columns

variable {lib}

theorem sample_eq {idx : Nat} : ∀ {rows : List (List Str)}, (∀ row ∈ rows, idx < row.length) →
    YourFiles.sample idx rows = .ok (rows.map fun row => row.getD idx [])
  | [], _ => rfl
  | row :: rows, h => by
      have hrow := h row List.mem_cons_self
      have ih := sample_eq fun r hr => h r (List.mem_cons_of_mem _ hr)
      rw [YourFiles.sample] at ih ⊢
      have hget : row.getD idx [] = row[idx] := by simp [List.getD_eq_getElem?_getD, hrow]
      rw [List.mapM_cons, ih, List.getElem?_eq_getElem hrow, List.map_cons, hget]
      rfl

theorem exists_definitions : ∀ {fields : List (Str × Str)} {rows : List (List Str)} {idx : Nat},
    (∀ row ∈ rows, idx + fields.length ≤ row.length) →
      ∃ columns, YourFiles.definitions lib rows idx fields = .ok columns ∧
        ∀ (i : Nat) (col : YourFiles.ColumnDefinition), columns[i]? = some col →
          col.sample_data = (rows.map fun row => row.getD (idx + i) []).take 6
  | [], _, _, _ => ⟨[], rfl, fun i col h => by simp at h⟩
  | (name, type) :: fields, rows, idx, h => by
      simp only [List.length_cons] at h
      have hlonger : ∀ row ∈ rows, idx + 1 + fields.length ≤ row.length := by
        intro row hrow
        have hlength := h row hrow
        omega
      obtain ⟨rest, hrest, hsamples⟩ := exists_definitions hlonger
      have hvalues : YourFiles.sample idx rows = .ok (rows.map fun row => row.getD idx []) :=
        sample_eq fun row hrow => by
          have hlength := h row hrow
          omega
      rw [YourFiles.definitions, hvalues]
      refine ⟨_, by rw [hrest]; rfl, fun i col hcol => ?_⟩
      cases i with
      | zero =>
          cases hcol
          rfl
      | succ i =>
          have hsample := hsamples i col hcol
          rwa [show idx + 1 + i = idx + (i + 1) by omega] at hsample

/-- The package infers fields from a header and rows that are as long. -/
def Infers (lib : YourFiles.Library) : Prop :=
  ∀ (header : List Str) (rows : List (List Str)), (∀ row ∈ rows, row.length = header.length) →
    ∃ result, lib.infer (header :: rows) = .ok result

/-- From three rows on that are equally long, the columns are those of whole rows if the cut is
between two characters, and there are none otherwise. -/
theorem columns_sampled_iff (hlib : lib.Lawful) (hinfer : Infers lib) {w : YourFiles.World}
    {n : Nat} {path s : Str} {full part : List (List Str)}
    (hobject : w.get_object n path = sampled_rows (encode s))
    (hfull : full_rows (bomless s) = some full)
    (hpart : csv_rows field_size_limit (text_lines (bomless (head s))) = some part)
    (hthree : 3 ≤ part.length)
    (hequal : ∀ row ∈ part.dropLast, row.length = (part.headD []).length) :
    (∃ columns, (YourFiles.get_s3_csv_column_types lib w n path).result = .ok columns ∧
      Sampled lib full columns) ↔ CutBetween s := by
  have hdecode : decodeSig (ranged (encode s)) = (decodeStrict (ranged (encode s))).map bomless :=
    decodeSig_eq _
  constructor
  · rintro ⟨columns, hcolumns, _⟩
    obtain ⟨rows, hrows, _⟩ := Logged.result_bind_ok.mp hcolumns
    have hsome : sampled_rows (encode s) = .ok rows := hobject.symm.trans hrows
    cases hstrict : decodeStrict (ranged (encode s)) with
    | some t => exact (decodeStrict_ranged_iff.mp hstrict).1
    | none =>
        rw [sampled_rows, hdecode, hstrict] at hsome
        cases hsome
  · intro hcut
    have hstrict := decodeStrict_ranged_iff.mpr ⟨hcut, rfl⟩
    have hrows : sampled_rows (encode s) = .ok part := by
      rw [sampled_rows, hdecode, hstrict, Option.map_some]
      dsimp only
      rw [hpart]
    have hprefix : part.dropLast <+: full := by
      obtain ⟨u, hu⟩ := bomless_prefix (whole_begins 102401 s)
      have hlength := (length_bomless_le (head s)).trans (length_whole_le 102401 s)
      rw [read_short (s := bomless s) hlength] at hpart
      have hwhole : read (limitOf (bomless s)) start (bomless (head s) ++ u) = some full := by
        rw [head, hu]
        exact hfull
      obtain ⟨part', hpart', hprefix⟩ := read_prefix u (bomless (head s)) start full hwhole
      rw [hpart] at hpart'
      cases hpart'
      exact hprefix
    obtain ⟨header, rest, rfl⟩ := List.exists_cons_of_length_pos (by omega : 0 < part.length)
    obtain ⟨row, rest, rfl⟩ := List.exists_cons_of_length_pos
      (l := rest) (by simp only [List.length_cons] at hthree; omega)
    obtain ⟨⟨fields, left⟩, hfields⟩ := hinfer header ((row :: rest).dropLast.take 9) fun r hr =>
      hequal r (List.mem_cons_of_mem _ (List.mem_of_mem_take hr))
    obtain ⟨hnames, rfl⟩ := hlib.infer hfields
    have hlong : ∀ r ∈ (row :: rest).dropLast.take 9, 0 + fields.length ≤ r.length := by
      intro r hr
      have hmem := List.mem_of_mem_take hr
      rw [hequal r (List.mem_cons_of_mem _ hmem), Nat.zero_add, ← hnames]
      simp
    obtain ⟨columns, hdefinitions, hsamples⟩ :
        ∃ columns, YourFiles.definitions lib _ 0 fields = .ok columns ∧ _ :=
      exists_definitions hlong
    refine ⟨columns, ?_, header, _, fields, ?_, hfields, hdefinitions, ?_, ?_⟩
    · refine Logged.result_bind_ok.mpr ⟨_, hobject.trans hrows, ?_⟩
      rw [if_neg (by simp only [List.length_cons] at hthree ⊢; omega)]
      exact Logged.result_bind_ok.mpr ⟨_, hfields, hdefinitions⟩
    · exact (List.cons_prefix_cons.mpr ⟨rfl, List.take_prefix _ _⟩).trans hprefix
    · rw [← hnames]
      exact (YourFiles.names_of_definitions hdefinitions).1
    · intro i col hcol
      have hsample := hsamples i col hcol
      rwa [Nat.zero_add] at hsample

end Columns

/-! ## The preview -/

/-- A link to a CSV file that can be read. -/
structure Previewable (bucket : Bucket) (link : SourceLinks.SourceLink) : Prop where
  s3 : link._is_s3_link = true
  accessible : bucket.accessible link.url = true
  csv : endswith link.url ".csv" = true

section Preview

variable {bucket : Bucket} {link : SourceLinks.SourceLink} {num_of_rows : Nat} {s : Str}
  {full : List (List Str)}

theorem broken_kept (num_of_rows : Nat) (s : Str) : ∃ rest,
    wholeText (kept num_of_rows s) ++ rest = s ∧ Broken (kept num_of_rows s) rest := by
  have hprefix : (head s).rdropWhile (· ≠ '\n') <+: s :=
    (List.rdropWhile_prefix _ _).trans (whole_begins _ s)
  obtain ⟨rest, hrest⟩ := hprefix
  have hlast : ∀ c ∈ ((head s).rdropWhile (· ≠ '\n')).getLast?, c = '\n' := by
    intro c hc
    obtain ⟨hne, rfl⟩ := List.mem_getLast?_eq_getLast hc
    have hnot := List.rdropWhile_last_not (fun c : Char => decide (c ≠ '\n')) (head s) hne
    simpa using hnot
  have hbroken := broken_brokenLines rest hlast
  have htext := wholeText_brokenLines ((head s).rdropWhile (· ≠ '\n'))
  rw [← List.take_append_drop num_of_rows (brokenLines _)] at hbroken htext
  refine ⟨_, ?_, hbroken.of_append⟩
  rw [wholeText_append] at htext
  rw [kept, ← List.append_assoc, htext, hrest]

theorem length_joined_le : ∀ {lines : List (Str × Str)} {rest : Str}, Broken lines rest →
    (rejoined lines).length ≤ (wholeText lines).length
  | [], _, _ => Nat.le_refl _
  | [l], _, _ => by
      rw [joined_singleton, wholeText_cons, List.length_append]
      exact Nat.le_add_right _ _
  | l :: l' :: lines, _, .cons _ hbrk _ hrest => by
      have ih := length_joined_le hrest
      rw [joined_cons _ (List.cons_ne_nil l' lines), wholeText_cons]
      simp only [List.length_append, List.length_cons]
      have hbreak : 1 ≤ l.2.length := by
        rcases hbrk with heq | ⟨c, _, heq⟩
        · simp [heq]
        · simp [heq]
      omega

theorem length_joined_kept_le (num_of_rows : Nat) (s : Str) :
    (rejoined (kept num_of_rows s)).length ≤ 102401 := by
  obtain ⟨rest, _, hbroken⟩ := broken_kept num_of_rows s
  have hwhole : wholeText (kept num_of_rows s) <+: head s := by
    refine List.IsPrefix.trans ?_ (List.rdropWhile_prefix (fun c : Char => decide (c ≠ '\n')) _)
    rw [kept]
    conv_rhs => rw [← wholeText_brokenLines ((head s).rdropWhile fun c => decide (c ≠ '\n'))]
    rw [← List.take_append_drop num_of_rows (brokenLines _), wholeText_append]
    simp
  exact (length_joined_le hbroken).trans (hwhole.length_le.trans (length_whole_le _ s))

theorem orRaise_some_bind {α β : Type} {e : Exc} {o : Option α} {a : α} (h : o = some a)
    (f : α → Except Exc β) : (orRaise e o >>= f) = f a := by
  rw [h]
  rfl

theorem orRaise_none_bind {α β : Type} {e : Exc} {o : Option α} (h : o = none)
    (f : α → Except Exc β) : (orRaise e o >>= f) = .error e := by
  rw [h]
  rfl

theorem get_preview_data_eq (hlink : Previewable bucket link)
    (hobject : bucket.object link.url = encode s) :
    SourceLink.get_preview_data bucket num_of_rows link = (do
      let head ← orRaise .UnicodeDecodeError (decodeStrict (ranged (encode s)))
      let head ← orRaise .ValueError (up_to_last_newline head)
      let csv_data := (splitlines head).take num_of_rows
      let rows ← orRaise .CsvError (csv_rows field_size_limit (text_lines (join "\n" csv_data)))
      match rows with
      | [] => .ok (none, [])
      | fieldnames :: rows =>
          let records := (rows.filter (· ≠ [])).map (dictRow fieldnames)
          .ok (some fieldnames, records.take (max 1 num_of_rows))) := by
  rw [SourceLink.get_preview_data, hlink.s3, hlink.accessible, hlink.csv, hobject]
  exact if_neg Bool.false_ne_true

theorem previewed_iff_rows (hlink : Previewable bucket link)
    (hobject : bucket.object link.url = encode s) (hcut : CutBetween s) (hnewline : '\n' ∈ head s)
    (hfull : full ≠ []) :
    Previewed full (SourceLink.get_preview_data bucket num_of_rows link) ↔
      ∃ part, read (limitOf s) start (rejoined (kept num_of_rows s)) = some part ∧
        part.head? = full.head? ∧
        ((part.tail.filter (· ≠ [])).map (dictRow (full.headD []))).take (max 1 num_of_rows) <+:
          (full.tail.filter (· ≠ [])).map (dictRow (full.headD [])) := by
  have hstrict := decodeStrict_ranged_iff.mpr ⟨hcut, rfl⟩
  have hrows : csv_rows field_size_limit (text_lines (rejoined (kept num_of_rows s))) =
      read (limitOf s) start (rejoined (kept num_of_rows s)) :=
    read_short (length_joined_kept_le num_of_rows s)
  have hkept : join "\n" ((splitlines ((head s).rdropWhile (· ≠ '\n'))).take num_of_rows) =
      rejoined (kept num_of_rows s) := by
    rw [rejoined, kept, splitlines, List.map_take]
  have hup : up_to_last_newline (head s) = some ((head s).rdropWhile (· ≠ '\n')) :=
    if_pos hnewline
  rw [get_preview_data_eq hlink hobject, orRaise_some_bind hstrict, orRaise_some_bind hup]
  dsimp only
  rw [hkept, hrows]
  cases hread : read (limitOf s) start (rejoined (kept num_of_rows s)) with
  | none =>
      refine iff_of_false (fun h => h) ?_
      rintro ⟨part, hpart, _⟩
      cases hpart
  | some part =>
      cases part with
      | nil =>
          obtain ⟨header, rows, rfl⟩ := List.exists_cons_of_ne_nil hfull
          refine iff_of_false (fun h => by cases h.1) ?_
          rintro ⟨part, hpart, hhead, _⟩
          cases hpart
          cases hhead
      | cons fieldnames rows =>
          obtain ⟨header, full, rfl⟩ := List.exists_cons_of_ne_nil hfull
          constructor
          · rintro ⟨hhead, hprefix⟩
            cases hhead
            exact ⟨_, rfl, rfl, hprefix⟩
          · rintro ⟨part, hpart, hhead, hprefix⟩
            cases hpart
            cases hhead
            exact ⟨rfl, hprefix⟩

theorem dictRow_injective {fieldnames : List Str} (hnodup : fieldnames.Nodup) :
    Function.Injective (dictRow fieldnames) := by
  intro row row' h
  have hitems (i : Nat) (hi : i < fieldnames.length) : row[i]? = row'[i]? := by
    have hname : fieldnames[i]? = some fieldnames[i] := List.getElem?_eq_getElem hi
    have hget : (dictRow fieldnames row).items.get? fieldnames[i] = some row[i]? :=
      AuditLogs.get?_dictRow hnodup hname
    rw [h, AuditLogs.get?_dictRow hnodup hname] at hget
    exact (Option.some.inj hget).symm
  have hrest :
      (if fieldnames.length < row.length then some (row.drop fieldnames.length) else none) =
        if fieldnames.length < row'.length then some (row'.drop fieldnames.length) else none :=
    congrArg DictRow.rest h
  have hdrop : row.drop fieldnames.length = row'.drop fieldnames.length := by
    have hnil {r : List Str} (hr : ¬ fieldnames.length < r.length) :
        r.drop fieldnames.length = [] :=
      List.drop_of_length_le (by omega)
    split at hrest
    next hlong =>
        split at hrest
        next => exact Option.some.inj hrest
        next => cases hrest
    next hshort =>
        split at hrest
        next => cases hrest
        next hshort' => rw [hnil hshort, hnil hshort']
  refine List.ext_getElem? fun i => ?_
  by_cases hi : i < fieldnames.length
  · exact hitems i hi
  · have hget := congrArg (·[i - fieldnames.length]?) hdrop
    simp only [List.getElem?_drop] at hget
    rwa [show fieldnames.length + (i - fieldnames.length) = i by omega] at hget

theorem agree_tail_iff {part : List (List Str)} (hne : full ≠ []) (h : part.head? = full.head?) :
    RowsAgree part full ↔ RowsAgree part.tail full.tail := by
  obtain ⟨header, rows, rfl⟩ := List.exists_cons_of_ne_nil hne
  cases part with
  | nil => cases h
  | cons header' part =>
      cases h
      exact agree_cons_iff

theorem length_part_le {part : List (List Str)} (hne : kept num_of_rows s ≠ [])
    (hpart : read (limitOf s) start (rejoined (kept num_of_rows s)) = some part) :
    part.length ≤ num_of_rows := by
  obtain ⟨rest, _, hbroken⟩ := broken_kept num_of_rows s
  have hcount := count_joined hne hbroken.not_break
  have hlength := length_read_le _ _ _ hpart
  have hkept : (kept num_of_rows s).length ≤ num_of_rows := List.length_take_le _ _
  omega

/-- The preview has the header and the first records of the text if the object fits.  Where the
headers are different, only then. -/
theorem preview_agrees (hlink : Previewable bucket link)
    (hobject : bucket.object link.url = encode s) (hfull : full_rows s = some full) :
    (Fits num_of_rows s → Previewed full (SourceLink.get_preview_data bucket num_of_rows link)) ∧
      ((full.headD []).Nodup →
        Previewed full (SourceLink.get_preview_data bucket num_of_rows link) →
          Fits num_of_rows s) := by
  obtain ⟨rest, htext, hbroken⟩ := broken_kept num_of_rows s
  have hread : read (limitOf s) start (wholeText (kept num_of_rows s) ++ rest) = some full := by
    rw [htext]
    exact hfull
  have hne (hnewline : '\n' ∈ head s) : full ≠ [] := by
    have hmem := (whole_begins 102401 s).subset hnewline
    exact read_ne_nil s start full (.inl (List.ne_nil_of_mem hmem)) hfull
  have htake {part : List (List Str)} (hkept : kept num_of_rows s ≠ [])
      (hpart : read (limitOf s) start (rejoined (kept num_of_rows s)) = some part)
      (f : List Str → DictRow) : ((part.tail.filter (· ≠ [])).map f).take (max 1 num_of_rows) =
        (part.tail.filter (· ≠ [])).map f := by
    have hlength := length_part_le hkept hpart
    have hfilter := List.length_filter_le (fun row : List Str => decide (row ≠ [])) part.tail
    rw [List.length_tail] at hfilter
    exact List.take_of_length_le (by rw [List.length_map]; omega)
  constructor
  · intro hfits
    have hkept : kept num_of_rows s ≠ [] := by
      intro hnil
      have hfirst := hfits.first
      rw [hnil] at hfirst
      exact hfirst
    obtain ⟨part, hpart, hagree⟩ := (agree_iff hkept hbroken hread).mpr hfits.breaks
    have hhead := (head_iff hkept hbroken hread hpart hagree).mpr hfits.first
    refine (previewed_iff_rows hlink hobject hfits.cut hfits.newline (hne hfits.newline)).mpr
      ⟨part, hpart, hhead, ?_⟩
    rw [htake hkept hpart]
    exact ((agree_tail_iff (hne hfits.newline) hhead).mp hagree).map _
  · intro hnodup hpreviewed
    have hcut : CutBetween s := by
      by_contra hcut
      have hnone : decodeStrict (ranged (encode s)) = none :=
        Option.eq_none_iff_forall_ne_some.mpr fun t ht => hcut (decodeStrict_ranged_iff.mp ht).1
      rw [get_preview_data_eq hlink hobject, orRaise_none_bind hnone] at hpreviewed
      exact hpreviewed
    have hnewline : '\n' ∈ head s := by
      by_contra hnewline
      have hnone : up_to_last_newline (head s) = none := if_neg hnewline
      rw [get_preview_data_eq hlink hobject,
        orRaise_some_bind (decodeStrict_ranged_iff.mpr ⟨hcut, rfl⟩),
        orRaise_none_bind hnone] at hpreviewed
      exact hpreviewed
    obtain ⟨part, hpart, hhead, hrecords⟩ :=
      (previewed_iff_rows hlink hobject hcut hnewline (hne hnewline)).mp hpreviewed
    have hkept : kept num_of_rows s ≠ [] := by
      intro hnil
      rw [hnil] at hpart
      obtain rfl : [] = part := Option.some.inj hpart
      obtain ⟨header, rows, rfl⟩ := List.exists_cons_of_ne_nil (hne hnewline)
      cases hhead
    rw [htake hkept hpart, List.prefix_map_iff_of_injective (dictRow_injective hnodup)] at hrecords
    have hagree := (agree_tail_iff (hne hnewline) hhead).mpr hrecords
    exact ⟨hcut, hnewline, (agree_iff hkept hbroken hread).mp ⟨part, hpart, hagree⟩,
      (head_iff hkept hbroken hread hpart hagree).mp hhead⟩

end Preview

/-! ## Both -/

/-- The preview and the columns of one object, against its whole text. -/
theorem samples_agree {lib : YourFiles.Library} (hlib : lib.Lawful) (hinfer : Infers lib)
    (num_of_rows : Nat) {bucket : Bucket} {link : SourceLinks.SourceLink}
    {w : YourFiles.World} {n : Nat} {path s : Str} {full bare part : List (List Str)}
    (hlink : Previewable bucket link) (hobject : bucket.object link.url = encode s)
    (hsampled : w.get_object n path = sampled_rows (encode s))
    (hfull : full_rows s = some full) (hbare : full_rows (bomless s) = some bare)
    (hpart : csv_rows field_size_limit (text_lines (bomless (head s))) = some part) :
    ((Fits num_of_rows s → Previewed full (SourceLink.get_preview_data bucket num_of_rows link)) ∧
      ((full.headD []).Nodup →
        Previewed full (SourceLink.get_preview_data bucket num_of_rows link) →
          Fits num_of_rows s)) ∧
    (3 ≤ part.length → (∀ row ∈ part.dropLast, row.length = (part.headD []).length) →
      ((∃ columns, (YourFiles.get_s3_csv_column_types lib w n path).result = .ok columns ∧
        Sampled lib bare columns) ↔ CutBetween s)) :=
  ⟨preview_agrees hlink hobject hfull,
    fun hthree hequal => columns_sampled_iff hlib hinfer hsampled hbare hpart hthree hequal⟩

def textOfPeople : Str := "name,from\nAda,\"a\nb\"\nBob,c\n"

def fileOfPeople : SourceLinks.SourceLink where
  id := none
  dataset := 0
  link_type := .LOCAL
  url := "s3://sourcelink/people.csv"
  _original_url := "s3://sourcelink/people.csv"

def bucketOf (s : Str) : Bucket where
  accessible _ := true
  object _ := encode s

def rowsOfText : List (List Str) := [["name", "from"], ["Ada", "a\nb"], ["Bob", "c"]]

def linesOfText : List (Str × Str) :=
  [("name,from", "\n"), ("Ada,\"a", "\n"), ("b\"", "\n"), ("Bob,c", "\n")]

theorem full_textOfPeople : full_rows textOfPeople = some rowsOfText := by decide +kernel

theorem kept_textOfPeople : kept 9 textOfPeople = linesOfText := by decide +kernel

theorem cut_textOfPeople : CutBetween textOfPeople := by
  rw [CutBetween]
  decide +kernel

theorem fits_textOfPeople : Fits 9 textOfPeople where
  cut := cut_textOfPeople
  newline := by decide +kernel
  breaks := by
    have hname : feed (limitOf textOfPeople) start "name,from" =
        some ⟨.inField, "from", ["name"]⟩ := by decide +kernel
    have hopen : feed (limitOf textOfPeople) start "Ada,\"a" =
        some ⟨.inQuotedField, "a", ["Ada"]⟩ := by decide +kernel
    have hclosed : feed (limitOf textOfPeople) ⟨.inQuotedField, "a\n", ["Ada"]⟩ "b\"" =
        some ⟨.quoteInQuotedField, "a\nb", ["Ada"]⟩ := by decide +kernel
    have hlast : feed (limitOf textOfPeople) start "Bob,c" =
        some ⟨.inField, "c", ["Bob"]⟩ := by decide +kernel
    rw [kept_textOfPeople]
    refine .inr ⟨_, hname, .inl rfl, .inr ⟨_, hopen, .inl rfl, ?_⟩⟩
    refine .inr ⟨_, hclosed, .inl rfl, .inr ⟨_, hlast, .inl rfl, ?_⟩⟩
    exact fun h => by cases h
  first := by
    rw [kept_textOfPeople]
    exact fun h => by cases h

theorem infers_strings : Infers YourFiles.strings := fun _ _ _ => ⟨_, rfl⟩

theorem previewable_fileOfPeople (s : Str) : Previewable (bucketOf s) fileOfPeople where
  s3 := by decide
  accessible := rfl
  csv := by decide

def worldOf (s : Str) : YourFiles.World :=
  { YourFiles.answers with get_object := fun _ _ => sampled_rows (encode s) }

theorem get_object_worldOf (s path : Str) (n : Nat) :
    (worldOf s).get_object n path = sampled_rows (encode s) := rfl

theorem object_bucketOf (s path : Str) : (bucketOf s).object path = encode s := rfl

theorem samples_of_people :
    Previewed rowsOfText (SourceLink.get_preview_data (bucketOf textOfPeople) 9 fileOfPeople) ∧
    ∃ columns, (YourFiles.get_s3_csv_column_types YourFiles.strings (worldOf textOfPeople) 0
      fileOfPeople.url).result = .ok columns ∧ Sampled YourFiles.strings rowsOfText columns := by
  have hbare : full_rows (bomless textOfPeople) = some rowsOfText := by decide +kernel
  have hpart : csv_rows field_size_limit (text_lines (bomless (head textOfPeople))) =
      some rowsOfText := by decide +kernel
  have hfull := full_textOfPeople
  have hfits := fits_textOfPeople
  have hcut := cut_textOfPeople
  -- the text stays a name, and is not computed
  generalize textOfPeople = s at *
  have hboth := samples_agree YourFiles.strings_lawful infers_strings 9
    (previewable_fileOfPeople s) (object_bucketOf s _)
    (get_object_worldOf s fileOfPeople.url 0) hfull hbare hpart
  exact ⟨hboth.1.1 hfits, (hboth.2 (by decide) (by decide)).mpr hcut⟩

def lineOfNames : Str := "name,from"

/-- A text of one line raises, and of a value with a newline only the first line is kept. -/
theorem preview_of_part :
    (full_rows lineOfNames = some (rowsOfText.take 1) ∧ SourceLink.get_preview_data
      (bucketOf lineOfNames) 9 fileOfPeople = .error .ValueError) ∧
    (full_rows textOfPeople = some rowsOfText ∧ ¬ Previewed rowsOfText
      (SourceLink.get_preview_data (bucketOf textOfPeople) 2 fileOfPeople)) := by
  have hone : full_rows lineOfNames = some (rowsOfText.take 1) := by decide +kernel
  have hdecode : decodeStrict (ranged (encode lineOfNames)) = some lineOfNames := by decide +kernel
  have hnone : up_to_last_newline lineOfNames = none := by decide +kernel
  have hkept : kept 2 textOfPeople = linesOfText.take 2 := by decide +kernel
  have hname : feed (limitOf textOfPeople) start "name,from" =
      some ⟨.inField, "from", ["name"]⟩ := by decide +kernel
  have hopen : feed (limitOf textOfPeople) start "Ada,\"a" =
      some ⟨.inQuotedField, "a", ["Ada"]⟩ := by decide +kernel
  have hfull := full_textOfPeople
  generalize lineOfNames = line at *
  generalize textOfPeople = s at *
  refine ⟨⟨hone, ?_⟩, hfull, fun hpreviewed => ?_⟩
  · rw [get_preview_data_eq (previewable_fileOfPeople _) (object_bucketOf _ _),
      orRaise_some_bind hdecode, orRaise_none_bind hnone]
  · have hbreaks := ((preview_agrees (previewable_fileOfPeople s) (object_bucketOf s _) hfull).2
      (by decide) hpreviewed).breaks
    rw [hkept] at hbreaks
    have hsome {lines : List (Str × Str)} {c : Char} {line brk : Str} :
        ¬ NoRecord start ((c :: line, brk) :: lines) :=
      fun h => List.cons_ne_nil c line (h.2 _ List.mem_cons_self)
    have hsecond := (fits_cons_iff hname hsome).mp hbreaks
    have hend := (fits_cons_iff hopen hsome).mp hsecond.2
    exact hend.2 rfl

end Samples

end Datasets
