import DataWorkspace.Py.Csv

/-!
# Reading a part of a text

A text that is cut is read like the whole of it as far as it goes.  `read` are the records of a
text, from any state of the reader, and `read_prefix` says that all records of a part but the
last are those of the whole.

What the reader holds of a record only grows (`char_grows`), so what is in the record that is read
is also in the next record that comes out (`exists_row`).
-/

namespace Py

open CsvReader

namespace CsvReader

/-! ## Reading a text -/

/-- The records of a text, as `csv.reader` reads it from a file. -/
def read (limit : Nat) (r : CsvReader) (s : Str) : Option (List (List Str)) :=
  rows limit r (text_lines s)

/-- What is left of a record at the end of a text. -/
def flush (r : CsvReader) : List (List Str) :=
  if r.field ≠ [] ∨ r.state = .inQuotedField then [r.saveField.fields] else []

/-- What comes out where the text ends within a line. -/
def close (r : CsvReader) : List (List Str) :=
  if r.endLine.state = .startRecord then [r.endLine.fields] else r.endLine.flush

variable {limit : Nat} {r r' : CsvReader} {c : Char} {s : Str}

theorem read_nil (limit : Nat) (r : CsvReader) : read limit r [] = some r.flush := by
  rw [read, text_lines, rows, flush]
  split
  next => rfl
  next => rfl

theorem read_char (hc : c ≠ '\n') (hs : s ≠ []) :
    read limit r (c :: s) = (r.char limit c).bind fun r => read limit r s :=
  (reads_text_lines limit).char r c s hc hs

theorem read_newline (limit : Nat) (r : CsvReader) (s : Str) : read limit r ('\n' :: s) =
    (r.char limit '\n').bind fun r =>
      if r.endLine.state = .startRecord then
        (read limit start s).map fun rows => r.endLine.fields :: rows
      else read limit r.endLine s :=
  (reads_text_lines limit).newline r s

theorem read_last (hc : c ≠ '\n') : read limit r [c] = (r.char limit c).map close := by
  have hlines : text_lines [c] = [[c]] := by
    rw [text_lines, text_lines]
    exact hc
  rw [read, hlines, rows_cons_cons, Option.map_eq_bind]
  refine Option.bind_congr fun r _ => ?_
  rw [rows_nil_cons, Function.comp_apply, close]
  split
  next => rfl
  next => exact read_nil limit _

theorem length_flush_le (r : CsvReader) : r.flush.length ≤ 1 := by
  rw [flush]
  split
  next => exact Nat.le_refl 1
  next => exact Nat.zero_le 1

theorem length_close_le (r : CsvReader) : r.close.length ≤ 1 := by
  rw [close]
  split
  next => exact Nat.le_refl 1
  next => exact length_flush_le _

/-- A text is read from its front: its first character is the last, a line break, or neither. -/
theorem text_cases {motive : CsvReader → Str → Prop} (nil : ∀ r, motive r [])
    (last : ∀ r c, c ≠ '\n' → motive r [c])
    (newline : ∀ r s, (∀ r, motive r s) → motive r ('\n' :: s))
    (char : ∀ r c s, c ≠ '\n' → s ≠ [] → (∀ r, motive r s) → motive r (c :: s)) :
    ∀ (s : Str) (r : CsvReader), motive r s
  | [], r => nil r
  | c :: s, r => by
      have ih := text_cases nil last newline char s
      by_cases hc : c = '\n'
      · subst hc
        exact newline r s ih
      · cases s with
        | nil => exact last r c hc
        | cons d s => exact char r c (d :: s) hc (List.cons_ne_nil d s) ih

/-! ## A part of a text -/

theorem read_prefix (u : Str) : ∀ (t : Str) (r : CsvReader) (full : List (List Str)),
    read limit r (t ++ u) = some full →
      ∃ part, read limit r t = some part ∧ part.dropLast <+: full := by
  have hshort {part : List (List Str)} (h : part.length ≤ 1) (full : List (List Str)) :
      part.dropLast <+: full := by
    have hnil : part.dropLast = [] :=
      List.eq_nil_of_length_eq_zero (by rw [List.length_dropLast]; omega)
    exact hnil ▸ List.nil_prefix
  refine text_cases ?_ ?_ ?_ ?_
  · intro r full _
    exact ⟨_, read_nil limit r, hshort (length_flush_le r) full⟩
  · intro r c hc full h
    obtain ⟨r', hr'⟩ : ∃ r', r.char limit c = some r' := by
      by_cases hu : u = []
      · rw [hu, List.append_nil, read_last hc] at h
        obtain ⟨r', hr', _⟩ := Option.map_eq_some_iff.mp h
        exact ⟨r', hr'⟩
      · rw [List.singleton_append, read_char hc hu] at h
        obtain ⟨r', hr', _⟩ := Option.bind_eq_some_iff.mp h
        exact ⟨r', hr'⟩
    exact ⟨r'.close, by rw [read_last hc, hr']; rfl, hshort (length_close_le r') full⟩
  · intro r s ih full h
    rw [List.cons_append, read_newline] at h
    obtain ⟨r', hr', h⟩ := Option.bind_eq_some_iff.mp h
    rw [read_newline, hr', Option.bind_some]
    split at h
    next hend =>
        obtain ⟨rows, hrows, rfl⟩ := Option.map_eq_some_iff.mp h
        obtain ⟨part, hpart, hprefix⟩ := ih start rows hrows
        refine ⟨r'.endLine.fields :: part, by rw [if_pos hend, hpart]; rfl, ?_⟩
        cases part with
        | nil => exact List.nil_prefix
        | cons row part => exact List.cons_prefix_cons.mpr ⟨rfl, hprefix⟩
    next hend =>
        rw [if_neg hend]
        exact ih _ full h
  · intro r c s hc hs ih full h
    rw [List.cons_append, read_char hc (List.append_ne_nil_of_left_ne_nil hs u)] at h
    obtain ⟨r', hr', h⟩ := Option.bind_eq_some_iff.mp h
    rw [read_char hc hs, hr', Option.bind_some]
    exact ih r' full h

/-! ## What is held of a record -/

/-- A field is being read, or is about to be. -/
def IsOpen (r : CsvReader) : Prop := r.state ≠ .startRecord ∧ r.state ≠ .eatCrnl

theorem char_grows (h : r.char limit c = some r') :
    (r'.fields = r.fields ∧ r.field <+: r'.field ∧ r'.field.length ≤ r.field.length + 1 ∧
        (r.IsOpen → r'.IsOpen)) ∨
      (r'.fields = r.fields ++ [r.field] ∧ r'.field = []) := by
  have hadd {r₁ : CsvReader} (h : r.addChar limit c = some r₁) : r₁.fields = r.fields ∧
      r.field <+: r₁.field ∧ r₁.field.length ≤ r.field.length + 1 ∧ (r.IsOpen → r₁.IsOpen) := by
    rw [addChar] at h
    split at h
    next =>
        cases h
        exact ⟨rfl, List.prefix_append _ _, by simp, id⟩
    next => cases h
  have hmap {state : CsvState} (hstate : state ≠ .startRecord ∧ state ≠ .eatCrnl)
      (h : (r.addChar limit c).map (fun r => { r with state := state }) = some r') :
      r'.fields = r.fields ∧ r.field <+: r'.field ∧ r'.field.length ≤ r.field.length + 1 ∧
        (r.IsOpen → r'.IsOpen) := by
    obtain ⟨r₁, hr₁, rfl⟩ := Option.map_eq_some_iff.mp h
    obtain ⟨hfields, hfield, hlength, _⟩ := hadd hr₁
    exact ⟨hfields, hfield, hlength, fun _ => hstate⟩
  have hstart (h : r.startField limit c = some r') :
      (r'.fields = r.fields ∧ r.field <+: r'.field ∧ r'.field.length ≤ r.field.length + 1 ∧
        (r.IsOpen → r'.IsOpen)) ∨ (r'.fields = r.fields ++ [r.field] ∧ r'.field = []) := by
    rw [startField] at h
    split at h
    next => cases h; exact .inr ⟨rfl, rfl⟩
    next =>
        split at h
        next => cases h; exact .inl ⟨rfl, List.prefix_rfl, Nat.le_succ _, fun _ => by simp [IsOpen]⟩
        next =>
            split at h
            next => cases h; exact .inr ⟨rfl, rfl⟩
            next => exact .inl (hmap (by simp) h)
  rw [char] at h
  split at h
  next => cases h
  next =>
      split at h
      next hstate =>
          split at h
          next =>
              cases h
              exact .inl ⟨rfl, List.prefix_rfl, Nat.le_succ _, fun hopen => absurd hstate hopen.1⟩
          next => exact hstart h
      next => exact hstart h
      next =>
          split at h
          next => cases h; exact .inr ⟨rfl, rfl⟩
          next =>
              split at h
              next => cases h; exact .inr ⟨rfl, rfl⟩
              next => exact .inl (hadd h)
      next =>
          split at h
          next =>
              cases h
              exact .inl ⟨rfl, List.prefix_rfl, Nat.le_succ _, fun _ => by simp [IsOpen]⟩
          next => exact .inl (hadd h)
      next =>
          split at h
          next => exact .inl (hmap (by simp) h)
          next =>
              split at h
              next => cases h; exact .inr ⟨rfl, rfl⟩
              next =>
                  split at h
                  next => cases h; exact .inr ⟨rfl, rfl⟩
                  next => exact .inl (hmap (by simp) h)
      next hstate =>
          split at h
          next =>
              cases h
              exact .inl ⟨rfl, List.prefix_rfl, Nat.le_succ _, fun hopen => absurd hstate hopen.2⟩
          next => cases h

/-- The record that is read begins with these fields and with one that begins so. -/
def Holds (fields : List Str) (field : Str) (r : CsvReader) : Prop :=
  (r.IsOpen ∧ r.fields = fields ∧ field <+: r.field) ∨
    ∃ w, field <+: w ∧ fields ++ [w] <+: r.fields

/-- The same of a record that has come out. -/
def HasPart (fields : List Str) (field : Str) (row : List Str) : Prop :=
  ∃ w, field <+: w ∧ fields ++ [w] <+: row

variable {fields : List Str} {field : Str}

theorem HasPart.ne_nil {row : List Str} (h : HasPart fields field row) : row ≠ [] := by
  obtain ⟨w, _, hrow⟩ := h
  rintro rfl
  simp at hrow

theorem Holds.char (hr : Holds fields field r) (h : r.char limit c = some r') :
    Holds fields field r' := by
  rcases char_grows h with ⟨hfields, hfield, _, hopen⟩ | ⟨hfields, _⟩
  · rcases hr with ⟨hr, hsame, hbegin⟩ | ⟨w, hw, hbegin⟩
    · exact .inl ⟨hopen hr, hfields.trans hsame, hbegin.trans hfield⟩
    · exact .inr ⟨w, hw, hfields ▸ hbegin⟩
  · rcases hr with ⟨_, hsame, hbegin⟩ | ⟨w, hw, hbegin⟩
    · exact .inr ⟨r.field, hbegin, by rw [hfields, hsame]⟩
    · exact .inr ⟨w, hw, hfields ▸ hbegin.trans (List.prefix_append _ _)⟩

theorem endLine_cases (r : CsvReader) : (r.state = .inQuotedField ∧ r.endLine = r) ∨
    (r.state ≠ .inQuotedField ∧ r.endLine.state = .startRecord ∧
      (r.endLine.fields = r.fields ++ [r.field] ∨ ¬ r.IsOpen ∧ r.endLine.fields = r.fields)) := by
  rw [endLine, IsOpen]
  split
  next h => exact .inr ⟨by simp [h], h, .inr ⟨fun hopen => hopen.1 h, rfl⟩⟩
  next h => exact .inr ⟨by simp [h], rfl, .inl rfl⟩
  next h => exact .inr ⟨by simp [h], rfl, .inl rfl⟩
  next h => exact .inl ⟨h, rfl⟩
  next h => exact .inr ⟨by simp [h], rfl, .inl rfl⟩
  next h => exact .inr ⟨by simp [h], rfl, .inr ⟨fun hopen => hopen.2 h, rfl⟩⟩

theorem Holds.saved (hr : Holds fields field r) : HasPart fields field (r.fields ++ [r.field]) := by
  rcases hr with ⟨_, hsame, hbegin⟩ | ⟨w, hw, hbegin⟩
  · exact ⟨r.field, hbegin, by rw [hsame]⟩
  · exact ⟨w, hw, hbegin.trans (List.prefix_append _ _)⟩

theorem Holds.row (hr : Holds fields field r) (h : r.endLine.state = .startRecord) :
    HasPart fields field r.endLine.fields := by
  rcases endLine_cases r with ⟨hstate, hend⟩ | ⟨_, _, hfields | ⟨hopen, hfields⟩⟩
  · rw [hend, hstate] at h
    cases h
  · exact hfields ▸ hr.saved
  · rcases hr with ⟨hr, _, _⟩ | ⟨w, hw, hbegin⟩
    · exact absurd hr hopen
    · exact ⟨w, hw, hfields ▸ hbegin⟩

theorem flush_of_quoted (h : r.state = .inQuotedField) : r.flush = [r.fields ++ [r.field]] :=
  if_pos (.inr h)

theorem Holds.close (hr : Holds fields field r) :
    ∃ row, r.close = [row] ∧ HasPart fields field row := by
  rw [CsvReader.close]
  split
  next hend => exact ⟨_, rfl, hr.row hend⟩
  next hend =>
      rcases endLine_cases r with ⟨hstate, hsame⟩ | ⟨_, hstate, _⟩
      · rw [hsame, flush_of_quoted hstate]
        exact ⟨_, rfl, hr.saved⟩
      · exact absurd hstate hend

theorem exists_row : ∀ (s : Str) (r : CsvReader) (rows : List (List Str)), Holds fields field r →
    s ≠ [] ∨ r.state = .inQuotedField → read limit r s = some rows →
      ∃ row rest, rows = row :: rest ∧ HasPart fields field row := by
  refine text_cases ?_ ?_ ?_ ?_
  · intro r rows hr hquoted h
    rw [read_nil, flush_of_quoted (hquoted.resolve_left (absurd rfl))] at h
    cases h
    exact ⟨_, [], rfl, hr.saved⟩
  · intro r c hc rows hr _ h
    rw [read_last hc] at h
    obtain ⟨r', hr', rfl⟩ := Option.map_eq_some_iff.mp h
    obtain ⟨row, hrow, hpart⟩ := (hr.char hr').close
    exact ⟨row, [], hrow, hpart⟩
  · intro r s ih rows hr _ h
    rw [read_newline] at h
    obtain ⟨r', hr', h⟩ := Option.bind_eq_some_iff.mp h
    have hheld := hr.char hr'
    split at h
    next hend =>
        obtain ⟨rest, _, rfl⟩ := Option.map_eq_some_iff.mp h
        exact ⟨_, rest, rfl, hheld.row hend⟩
    next hend =>
        rcases endLine_cases r' with ⟨hstate, hsame⟩ | ⟨_, hstate, _⟩
        · rw [hsame] at h
          exact ih r' rows hheld (.inr hstate) h
        · exact absurd hstate hend
  · intro r c s hc hs ih rows hr _ h
    rw [read_char hc hs] at h
    obtain ⟨r', hr', h⟩ := Option.bind_eq_some_iff.mp h
    exact ih r' rows (hr.char hr') (.inl hs) h

theorem read_ne_nil : ∀ (s : Str) (r : CsvReader) (rows : List (List Str)),
    s ≠ [] ∨ r.state = .inQuotedField → read limit r s = some rows → rows ≠ [] := by
  have hclose (r : CsvReader) : r.close ≠ [] := by
    rw [close]
    split
    next => exact List.cons_ne_nil _ _
    next hend =>
        rcases endLine_cases r with ⟨hstate, hsame⟩ | ⟨_, hstate, _⟩
        · rw [hsame, flush_of_quoted hstate]
          exact List.cons_ne_nil _ _
        · exact absurd hstate hend
  refine text_cases ?_ ?_ ?_ ?_
  · intro r rows hquoted h
    rw [read_nil, flush_of_quoted (hquoted.resolve_left (absurd rfl))] at h
    cases h
    exact List.cons_ne_nil _ _
  · intro r c hc rows _ h
    rw [read_last hc] at h
    obtain ⟨r', _, rfl⟩ := Option.map_eq_some_iff.mp h
    exact hclose r'
  · intro r s ih rows _ h
    rw [read_newline] at h
    obtain ⟨r', _, h⟩ := Option.bind_eq_some_iff.mp h
    split at h
    next =>
        obtain ⟨rest, _, rfl⟩ := Option.map_eq_some_iff.mp h
        exact List.cons_ne_nil _ _
    next hend =>
        rcases endLine_cases r' with ⟨hstate, hsame⟩ | ⟨_, hstate, _⟩
        · rw [hsame] at h
          exact ih r' rows (.inr hstate) h
        · exact absurd hstate hend
  · intro r c s hc hs ih rows _ h
    rw [read_char hc hs] at h
    obtain ⟨r', _, h⟩ := Option.bind_eq_some_iff.mp h
    exact ih r' rows (.inl hs) h

theorem All.read {P : Char → Prop} : ∀ (s : Str) (r : CsvReader) (rows : List (List Str)), r.All P →
    (∀ c ∈ s, P c) → read limit r s = some rows →
      ∀ row ∈ rows, ∀ field ∈ row, ∀ c ∈ field, P c := by
  have hflush {r : CsvReader} (hr : r.All P) :
      ∀ row ∈ r.flush, ∀ field ∈ row, ∀ c ∈ field, P c := by
    rw [flush]
    split
    next =>
        intro row hrow
        rw [List.mem_singleton.mp hrow]
        exact hr.saveField.2
    next => exact fun row hrow => absurd hrow List.not_mem_nil
  refine text_cases ?_ ?_ ?_ ?_
  · intro r rows hr _ h
    rw [read_nil] at h
    cases h
    exact hflush hr
  · intro r c hc rows hr hs h
    rw [read_last hc] at h
    obtain ⟨r', hr', rfl⟩ := Option.map_eq_some_iff.mp h
    have hall := (hr.char (hs c List.mem_cons_self) hr').endLine
    rw [close]
    split
    next =>
        intro row hrow
        rw [List.mem_singleton.mp hrow]
        exact hall.2
    next => exact hflush hall
  · intro r s ih rows hr hs h
    rw [read_newline] at h
    obtain ⟨r', hr', h⟩ := Option.bind_eq_some_iff.mp h
    have hall := (hr.char (hs _ List.mem_cons_self) hr').endLine
    have hrest : ∀ c ∈ s, P c := fun c hc => hs c (List.mem_cons_of_mem _ hc)
    split at h
    next =>
        obtain ⟨rest, hread, rfl⟩ := Option.map_eq_some_iff.mp h
        intro row hrow
        rcases List.mem_cons.mp hrow with rfl | hrow
        · exact hall.2
        · exact ih start rest all_start hrest hread row hrow
    next => exact ih _ rows hall hrest h
  · intro r c s hc hs ih rows hr hall h
    rw [read_char hc hs] at h
    obtain ⟨r', hr', h⟩ := Option.bind_eq_some_iff.mp h
    exact ih r' rows (hr.char (hall c List.mem_cons_self) hr')
      (fun d hd => hall d (List.mem_cons_of_mem _ hd)) h

/-! ## The limit, and how many records there are -/

theorem char_limit {limit' : Nat} (h : r.field.length < limit) (h' : r.field.length < limit')
    (c : Char) : r.char limit c = r.char limit' c := by
  have hadd : r.addChar limit c = r.addChar limit' c := by
    rw [addChar, addChar, if_pos h, if_pos h']
  have hstart : r.startField limit c = r.startField limit' c := by
    rw [startField, startField, hadd]
  rw [char, char, hadd, hstart]

theorem length_field_endLine (r : CsvReader) : r.endLine.field.length ≤ r.field.length := by
  rw [endLine]
  split
  next => exact Nat.le_refl _
  next => exact Nat.zero_le _
  next => exact Nat.zero_le _
  next => exact Nat.le_refl _
  next => exact Nat.zero_le _
  next => exact Nat.le_refl _

theorem read_limit {limit' : Nat} : ∀ (s : Str) (r : CsvReader),
    r.field.length + s.length ≤ limit → r.field.length + s.length ≤ limit' →
      read limit r s = read limit' r s := by
  have hnext {r r' : CsvReader} {c : Char} (h : r.char limit' c = some r') :
      r'.field.length ≤ r.field.length + 1 := by
    rcases char_grows h with ⟨_, _, hlength, _⟩ | ⟨_, hnil⟩
    · exact hlength
    · simp [hnil]
  refine text_cases ?_ ?_ ?_ ?_
  · intro r _ _
    rw [read_nil, read_nil]
  · intro r c hc h h'
    have hchar : r.char limit c = r.char limit' c :=
      char_limit (by simp at h; omega) (by simp at h'; omega) c
    rw [read_last hc, read_last hc, hchar]
  · intro r s ih h h'
    simp only [List.length_cons] at h h'
    have hchar : r.char limit '\n' = r.char limit' '\n' := char_limit (by omega) (by omega) _
    rw [read_newline, read_newline, hchar]
    refine Option.bind_congr fun r' hr' => ?_
    have hle := hnext hr'
    have hend := length_field_endLine r'
    rw [ih start (by simp [start]; omega) (by simp [start]; omega),
      ih r'.endLine (by omega) (by omega)]
  · intro r c s hc hs ih h h'
    simp only [List.length_cons] at h h'
    have hchar : r.char limit c = r.char limit' c := char_limit (by omega) (by omega) c
    rw [read_char hc hs, read_char hc hs, hchar]
    refine Option.bind_congr fun r' hr' => ?_
    have hle := hnext hr'
    exact ih r' (by omega) (by omega)

theorem length_read_le : ∀ (s : Str) (r : CsvReader) (rows : List (List Str)),
    read limit r s = some rows → rows.length ≤ s.count '\n' + 1 := by
  refine text_cases ?_ ?_ ?_ ?_
  · intro r rows h
    rw [read_nil] at h
    cases h
    exact length_flush_le r
  · intro r c hc rows h
    rw [read_last hc] at h
    obtain ⟨r', _, rfl⟩ := Option.map_eq_some_iff.mp h
    exact (length_close_le r').trans (Nat.le_add_left _ _)
  · intro r s ih rows h
    rw [read_newline] at h
    obtain ⟨r', _, h⟩ := Option.bind_eq_some_iff.mp h
    rw [List.count_cons_self]
    split at h
    next =>
        obtain ⟨rest, hrest, rfl⟩ := Option.map_eq_some_iff.mp h
        exact Nat.succ_le_succ (ih start rest hrest)
    next => exact (ih _ rows h).trans (Nat.le_succ _)
  · intro r c s hc hs ih rows h
    rw [read_char hc hs] at h
    obtain ⟨r', _, h⟩ := Option.bind_eq_some_iff.mp h
    rw [List.count_cons_of_ne hc]
    exact ih r' rows h

end CsvReader

end Py
