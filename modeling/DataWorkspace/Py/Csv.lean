import DataWorkspace.Py.Text

/-!
# Reading CSV

`csv.reader` is a machine that is fed the lines it is given, character by character, and
after each line is told that the line has ended.  The end of a line ends a record unless
a quoted field is open.  So a field may go on in the next line, and a line break is a part
of it only if the line was given with its line break.

`text_lines` are the lines as a file gives them, with their breaks, and `s.splitOn '\n'`
the lines without.  `Reads` says what both have in common: a character is read where it
stands, and a line break is read, or not, before the line ends.  `Reads.record` is the rule
for a record that was written with its fields quoted.
-/

namespace Py

/-! ## The reader -/

/-- Where the reader is in a record. -/
inductive CsvState where
  | startRecord
  | startField
  | inField
  | inQuotedField
  | quoteInQuotedField
  | eatCrnl
deriving DecidableEq

/-- The reader: the field it reads, and the fields it has read of the record. -/
structure CsvReader where
  state : CsvState
  field : Str
  fields : List Str
deriving DecidableEq

namespace CsvReader

def start : CsvReader := ⟨.startRecord, [], []⟩

/-- A character more in the field, or `none` where the field is at its limit. -/
def addChar (limit : Nat) (r : CsvReader) (c : Char) : Option CsvReader :=
  if r.field.length < limit then some { r with field := r.field ++ [c] } else none

def saveField (r : CsvReader) : CsvReader :=
  { r with field := [], fields := r.fields ++ [r.field] }

def isCrnl (c : Char) : Bool := c == '\n' || c == '\r'

/-- A character where a field is expected. -/
def startField (limit : Nat) (r : CsvReader) (c : Char) : Option CsvReader :=
  if isCrnl c then some { r.saveField with state := .eatCrnl }
  else if c = '"' then some { r with state := .inQuotedField }
  else if c = ',' then some { r.saveField with state := .startField }
  else (r.addChar limit c).map fun r => { r with state := .inField }

/-- One character of a line, or `none` where `csv.Error` is raised. -/
def char (limit : Nat) (r : CsvReader) (c : Char) : Option CsvReader :=
  if c = '\x00' then none else
  match r.state with
  | .startRecord =>
      if isCrnl c then some { r with state := .eatCrnl } else r.startField limit c
  | .startField => r.startField limit c
  | .inField =>
      if isCrnl c then some { r.saveField with state := .eatCrnl }
      else if c = ',' then some { r.saveField with state := .startField }
      else r.addChar limit c
  | .inQuotedField =>
      if c = '"' then some { r with state := .quoteInQuotedField } else r.addChar limit c
  | .quoteInQuotedField =>
      if c = '"' then (r.addChar limit c).map fun r => { r with state := .inQuotedField }
      else if c = ',' then some { r.saveField with state := .startField }
      else if isCrnl c then some { r.saveField with state := .eatCrnl }
      else (r.addChar limit c).map fun r => { r with state := .inField }
  | .eatCrnl => if isCrnl c then some r else none

def endLine (r : CsvReader) : CsvReader :=
  match r.state with
  | .startRecord => r
  | .startField => { r.saveField with state := .startRecord }
  | .inField => { r.saveField with state := .startRecord }
  | .inQuotedField => r
  | .quoteInQuotedField => { r.saveField with state := .startRecord }
  | .eatCrnl => { r with state := .startRecord }

/-- The records in the lines that are left.  At the end a quoted field may be open. -/
def rows (limit : Nat) : CsvReader → List Str → Option (List (List Str))
  | r, [] =>
      if r.field ≠ [] ∨ r.state = .inQuotedField then some [r.saveField.fields] else some []
  | r, line :: lines => do
      let r ← line.foldlM (char limit) r
      if r.endLine.state = .startRecord then
        return r.endLine.fields :: (← rows limit start lines)
      else rows limit r.endLine lines

end CsvReader

/-- `csv.reader(lines)`, or `none` where it raises `csv.Error`. -/
def csv_rows (limit : Nat) (lines : List Str) : Option (List (List Str)) :=
  CsvReader.rows limit .start lines

/-- The lines of a text, each with its line break. -/
@[grind =]
def text_lines : Str → List Str
  | [] => []
  | '\n' :: s => ['\n'] :: text_lines s
  | c :: s =>
      match text_lines s with
      | [] => [[c]]
      | line :: lines => (c :: line) :: lines

/-- A text as a file is read in text mode: every line break is a newline. -/
@[grind =]
def universal_newlines : Str → Str
  | [] => []
  | '\r' :: '\n' :: s => '\n' :: universal_newlines s
  | '\r' :: s => '\n' :: universal_newlines s
  | c :: s => c :: universal_newlines s

/-! ## Reading a text -/

open CsvReader

/-- A way to read a text, from any state of the reader: with the line breaks, or without. -/
structure Reads (limit : Nat) (keep : Bool) (F : CsvReader → Str → Option (List (List Str))) :
    Prop where
  /-- A character before the end of the text. -/
  char : ∀ r c s, c ≠ '\n' → s ≠ [] → F r (c :: s) = (r.char limit c).bind fun r => F r s
  /-- A line break. -/
  newline : ∀ r s, F r ('\n' :: s) =
    (if keep then r.char limit '\n' else some r).bind fun r =>
      if r.endLine.state = .startRecord then (F start s).map fun rows => r.endLine.fields :: rows
      else F r.endLine s

theorem rows_cons_cons (limit : Nat) (r : CsvReader) (c : Char) (line : Str) (lines : List Str) :
    rows limit r ((c :: line) :: lines) =
      (r.char limit c).bind fun r => rows limit r (line :: lines) := by
  rw [rows, List.foldlM_cons, Option.bind_eq_bind, Option.bind_eq_bind, Option.bind_assoc]
  rfl

theorem rows_nil_cons (limit : Nat) (r : CsvReader) (lines : List Str) :
    rows limit r ([] :: lines) =
      if r.endLine.state = .startRecord then
        (rows limit start lines).map fun rows => r.endLine.fields :: rows
      else rows limit r.endLine lines := by
  rw [rows]
  simp only [List.foldlM_nil, Option.pure_def, Option.bind_eq_bind, Option.bind_some]
  split
  next =>
    cases rows limit start lines with
    | none => rfl
    | some rows => rfl
  next => rfl

theorem text_lines_cons {c : Char} {s : Str} (hc : c ≠ '\n') (hs : s ≠ []) :
    ∃ line lines, text_lines s = line :: lines ∧ text_lines (c :: s) = (c :: line) :: lines := by
  have hne : text_lines s ≠ [] := by
    cases s with
    | nil => exact absurd rfl hs
    | cons d s =>
        by_cases hd : d = '\n'
        · subst hd
          exact List.cons_ne_nil _ _
        · rw [text_lines]
          · split <;> exact List.cons_ne_nil _ _
          · exact hd
  obtain ⟨line, lines, hlines⟩ := List.exists_cons_of_ne_nil hne
  refine ⟨line, lines, hlines, ?_⟩
  rw [text_lines, hlines]
  exact hc

theorem reads_text_lines (limit : Nat) :
    Reads limit true fun r s => rows limit r (text_lines s) where
  char r c s hc hs := by
    obtain ⟨line, lines, h₁, h₂⟩ := text_lines_cons hc hs
    rw [h₁, h₂, rows_cons_cons]
  newline r s := by
    rw [text_lines, rows_cons_cons, if_pos rfl]
    exact Option.bind_congr fun r _ => rows_nil_cons ..

theorem reads_splitOn (limit : Nat) :
    Reads limit false fun r s => rows limit r (s.splitOn '\n') where
  char r c s hc _ := by
    obtain ⟨line, lines, h⟩ := List.exists_cons_of_ne_nil (List.splitOn_ne_nil '\n' s)
    have hsplit : (c :: s).splitOn '\n' = (c :: line) :: lines := by
      rw [List.splitOn_cons_eq_if_modifyHead, if_neg (by simpa using hc), h]
      rfl
    rw [hsplit, h, rows_cons_cons]
  newline r s := by
    have hsplit : ('\n' :: s).splitOn '\n' = [] :: s.splitOn '\n' := by
      rw [List.splitOn_cons_eq_if_modifyHead, if_pos (by simp)]
    rw [hsplit, rows_nil_cons]
    rfl

/-! ## Records that were written -/

/-- A field as it is written: as it is, where it needs no quotes, or quoted. -/
inductive CsvField where
  | raw (value : Str) (plain : ∀ c ∈ value, c ∉ [',', '"', '\n', '\r', '\x00'])
  | quoted (value : Str) (noNull : '\x00' ∉ value)

/-- A text with every quote doubled. -/
def doubled (s : Str) : Str := s.flatMap fun c => if c = '"' then ['"', '"'] else [c]

def CsvField.text : CsvField → Str
  | .raw value _ => value
  | .quoted value _ => '"' :: doubled value ++ ['"']

/-- The value that was written. -/
def CsvField.value : CsvField → Str
  | .raw value _ => value
  | .quoted value _ => value

/-- The text of a record, with its line break. -/
def recordText : List CsvField → Str
  | [] => ['\n']
  | [f] => f.text ++ ['\n']
  | f :: fs => f.text ++ ',' :: recordText fs

/-- What is read of a value, with line breaks or without. -/
def readAs (keep : Bool) (s : Str) : Str := if keep then s else s.filter (· ≠ '\n')

theorem readAs_of_not_mem {keep : Bool} {s : Str} (h : '\n' ∉ s) : readAs keep s = s := by
  cases keep with
  | true => rfl
  | false =>
      refine List.filter_eq_self.mpr fun c hc => decide_eq_true ?_
      rintro rfl
      exact h hc

theorem recordText_ne_nil : ∀ fs : List CsvField, recordText fs ≠ []
  | [] => List.cons_ne_nil _ _
  | [f] => by simp [recordText]
  | f :: g :: fs => by simp [recordText]

namespace Reads

variable {limit : Nat} {keep : Bool} {F : CsvReader → Str → Option (List (List Str))}

theorem quoted (h : Reads limit keep F) (fields : List Str) {s : Str} (hs : s ≠ []) :
    ∀ (value field : Str), '\x00' ∉ value → field.length + value.length ≤ limit →
      F ⟨.inQuotedField, field, fields⟩ (doubled value ++ '"' :: s) =
        F ⟨.quoteInQuotedField, field ++ readAs keep value, fields⟩ s
  | [], field, _, _ => by
      have hnil : readAs keep [] = [] := readAs_of_not_mem List.not_mem_nil
      rw [hnil, List.append_nil]
      exact h.char _ _ _ (by decide) hs
  | c :: value, field, hnull, hlength => by
      have hc : c ≠ '\x00' := fun he => hnull (he ▸ List.mem_cons_self)
      have hvalue : '\x00' ∉ value := fun he => hnull (List.mem_cons_of_mem _ he)
      rw [List.length_cons] at hlength
      have hroom : field.length < limit := by omega
      have hrest : doubled value ++ '"' :: s ≠ [] := by simp
      have ih := h.quoted fields hs value (field ++ [c]) hvalue
        (by rw [List.length_append, List.length_singleton]; omega)
      have hadd : addChar limit ⟨.inQuotedField, field, fields⟩ c =
          some ⟨.inQuotedField, field ++ [c], fields⟩ := if_pos hroom
      by_cases hquote : c = '"'
      · subst hquote
        have hread : readAs keep ('"' :: value) = '"' :: readAs keep value := by cases keep <;> rfl
        have hdouble : doubled ('"' :: value) = '"' :: '"' :: doubled value := rfl
        rw [hread, hdouble, List.cons_append, List.cons_append,
          h.char _ _ _ (by decide) (List.cons_ne_nil _ _)]
        have hopen : CsvReader.char limit ⟨.inQuotedField, field, fields⟩ '"' =
            some ⟨.quoteInQuotedField, field, fields⟩ := rfl
        have hsecond : CsvReader.char limit ⟨.quoteInQuotedField, field, fields⟩ '"' =
            some ⟨.inQuotedField, field ++ ['"'], fields⟩ := by
          simp [CsvReader.char, addChar, hroom]
        rw [hopen, Option.bind_some, h.char _ _ _ (by decide) hrest, hsecond, Option.bind_some, ih,
          List.append_assoc]
        rfl
      · have hdouble : doubled (c :: value) = c :: doubled value := by
          simp [doubled, hquote]
        have hchar : CsvReader.char limit ⟨.inQuotedField, field, fields⟩ c =
            some ⟨.inQuotedField, field ++ [c], fields⟩ := by
          rw [CsvReader.char, if_neg hc]
          dsimp only
          rw [if_neg hquote, hadd]
        rw [hdouble, List.cons_append]
        by_cases hnewline : c = '\n'
        · subst hnewline
          have hsame := h.quoted fields hs value field hvalue (by omega)
          rw [h.newline]
          cases keep with
          | true =>
              rw [if_pos rfl, hchar, Option.bind_some, if_neg fun he => CsvState.noConfusion he]
              refine ih.trans ?_
              rw [List.append_assoc]
              rfl
          | false => exact hsame
        · have hread : readAs keep (c :: value) = c :: readAs keep value := by
            cases keep with
            | true => rfl
            | false => exact List.filter_cons_of_pos (p := (· ≠ '\n')) (decide_eq_true hnewline)
          rw [h.char _ _ _ hnewline hrest, hchar, Option.bind_some, ih, hread, List.append_assoc]
          rfl

theorem raw (h : Reads limit keep F) (fields : List Str) {s : Str} (hs : s ≠ []) :
    ∀ (value field : Str), (∀ c ∈ value, c ∉ [',', '"', '\n', '\r', '\x00']) →
      field.length + value.length ≤ limit →
        F ⟨.inField, field, fields⟩ (value ++ s) = F ⟨.inField, field ++ value, fields⟩ s
  | [], field, _, _ => by rw [List.nil_append, List.append_nil]
  | c :: value, field, hplain, hlength => by
      rw [List.length_cons] at hlength
      have hc := hplain c List.mem_cons_self
      simp only [List.mem_cons, List.not_mem_nil, or_false, not_or] at hc
      obtain ⟨hcomma, -, hn, hr, hnull⟩ := hc
      have hroom : field.length < limit := by omega
      have hchar : CsvReader.char limit ⟨.inField, field, fields⟩ c =
          some ⟨.inField, field ++ [c], fields⟩ := by
        simp [CsvReader.char, addChar, isCrnl, hcomma, hn, hr, hnull, hroom]
      have ih := h.raw fields hs value (field ++ [c])
        (fun d hd => hplain d (List.mem_cons_of_mem _ hd))
        (by rw [List.length_append, List.length_singleton]; omega)
      rw [List.cons_append, h.char _ _ _ hn (by simp [hs]), hchar, Option.bind_some, ih,
        List.append_assoc]
      rfl

theorem field (h : Reads limit keep F) (fields : List Str) {f : CsvField}
    (hlength : f.value.length ≤ limit) {state : CsvState}
    (hstate : state = .startField ∨ state = .startRecord) {s : Str} (hs : s ≠ []) :
    ∃ r : CsvReader, F ⟨state, [], fields⟩ (f.text ++ s) = F r s ∧
      r.saveField.fields = fields ++ [readAs keep f.value] ∧
      (r.state = .startField ∨ r.state = .inField ∨ r.state = .quoteInQuotedField ∨
        r.state = .startRecord ∧ state = .startRecord ∧ f.text = []) := by
  cases f with
  | raw value plain =>
      have hread : readAs keep value = value := readAs_of_not_mem fun hmem => by
        have := plain _ hmem
        simp at this
      cases value with
      | nil =>
          refine ⟨⟨state, [], fields⟩, rfl, by simp [saveField, CsvField.value, hread], ?_⟩
          rcases hstate with rfl | rfl
          · exact .inl rfl
          · exact .inr (.inr (.inr ⟨rfl, rfl, rfl⟩))
      | cons c value =>
          have hc := plain c List.mem_cons_self
          simp only [List.mem_cons, List.not_mem_nil, or_false, not_or] at hc
          obtain ⟨hcomma, hquote, hn, hr, hnull⟩ := hc
          have hlength : value.length + 1 ≤ limit := hlength
          have hroom : 0 < limit := by omega
          have hchar : CsvReader.char limit ⟨state, [], fields⟩ c =
              some ⟨.inField, [c], fields⟩ := by
            rcases hstate with rfl | rfl
            all_goals
              simp [CsvReader.char, CsvReader.startField, addChar, isCrnl, hcomma, hquote, hn, hr,
                hnull, hroom]
          have hrest := h.raw fields hs value [c]
            (fun d hd => plain d (List.mem_cons_of_mem _ hd)) (by simp; omega)
          refine ⟨⟨.inField, c :: value, fields⟩, ?_, ?_, .inr (.inl rfl)⟩
          · have htext : (CsvField.raw (c :: value) plain).text ++ s = c :: (value ++ s) := rfl
            rw [htext, h.char _ _ _ hn (by simp [hs]), hchar, Option.bind_some, hrest]
            rfl
          · simp [saveField, CsvField.value, hread]
  | quoted value noNull =>
      have hchar : CsvReader.char limit ⟨state, [], fields⟩ '"' =
          some ⟨.inQuotedField, [], fields⟩ := by
        rcases hstate with rfl | rfl <;> rfl
      have hlength : value.length ≤ limit := hlength
      have hrest := h.quoted fields hs value [] noNull (by simpa using hlength)
      refine ⟨⟨.quoteInQuotedField, readAs keep value, fields⟩, ?_, ?_, .inr (.inr (.inl rfl))⟩
      · have htext : (CsvField.quoted value noNull).text ++ s = '"' :: (doubled value ++ '"' :: s) := by
          simp [CsvField.text]
        rw [htext, h.char _ _ _ (by decide) (by simp), hchar, Option.bind_some, hrest]
        rfl
      · simp [saveField, CsvField.value]

theorem comma (h : Reads limit keep F) {r : CsvReader} {s : Str} (hs : s ≠ [])
    (hr : r.state = .startField ∨ r.state = .inField ∨ r.state = .quoteInQuotedField ∨
      r.state = .startRecord) :
    F r (',' :: s) = F ⟨.startField, [], r.saveField.fields⟩ s := by
  have hchar : r.char limit ',' = some ⟨.startField, [], r.saveField.fields⟩ := by
    obtain ⟨state, field, fields⟩ := r
    rcases hr with hr | hr | hr | hr
    all_goals
      have hr : state = _ := hr
      subst hr
      rfl
  rw [h.char _ _ _ (by decide) hs, hchar, Option.bind_some]

theorem recordEnd (h : Reads limit keep F) {r : CsvReader} (s : Str)
    (hr : r.state = .startField ∨ r.state = .inField ∨ r.state = .quoteInQuotedField) :
    F r ('\n' :: s) = (F start s).map fun rows => r.saveField.fields :: rows := by
  obtain ⟨state, field, fields⟩ := r
  rw [h.newline]
  cases keep with
  | true =>
      have hchar : CsvReader.char limit ⟨state, field, fields⟩ '\n' =
          some ⟨.eatCrnl, [], fields ++ [field]⟩ := by
        rcases hr with hr | hr | hr
        all_goals
          have hr : state = _ := hr
          subst hr
          rfl
      have hend : endLine ⟨.eatCrnl, [], fields ++ [field]⟩ =
          ⟨.startRecord, [], fields ++ [field]⟩ := rfl
      rw [if_pos rfl, hchar, Option.bind_some, hend, if_pos rfl]
      rfl
  | false =>
      have hend : endLine ⟨state, field, fields⟩ = ⟨.startRecord, [], fields ++ [field]⟩ := by
        rcases hr with hr | hr | hr
        all_goals
          have hr : state = _ := hr
          subst hr
          rfl
      rw [if_neg (by decide), Option.bind_some, hend, if_pos rfl]
      rfl

theorem fields (h : Reads limit keep F) (s : Str) : ∀ (fs : List CsvField) (done : List Str)
    (state : CsvState), fs ≠ [] → (∀ f ∈ fs, f.value.length ≤ limit) →
      (state = .startField ∨ state = .startRecord ∧ ∀ f, fs = [f] → f.text ≠ []) →
        F ⟨state, [], done⟩ (recordText fs ++ s) =
          (F start s).map fun rows => (done ++ fs.map fun f => readAs keep f.value) :: rows
  | [], _, _, hne, _, _ => absurd rfl hne
  | [f], done, state, _, hlength, hstate => by
      obtain ⟨r, hr, hfields, hrstate⟩ := h.field done (hlength f List.mem_cons_self)
        (hstate.imp_right And.left) (List.cons_ne_nil '\n' s)
      have hends : r.state = .startField ∨ r.state = .inField ∨ r.state = .quoteInQuotedField := by
        rcases hrstate with hr | hr | hr | ⟨-, hs, htext⟩
        · exact .inl hr
        · exact .inr (.inl hr)
        · exact .inr (.inr hr)
        · rcases hstate with hstate | ⟨-, hne⟩
          · exact absurd (hstate.symm.trans hs) (by decide)
          · exact absurd htext (hne f rfl)
      have htext : recordText [f] ++ s = f.text ++ '\n' :: s := by simp [recordText]
      rw [htext, hr, h.recordEnd s hends, hfields]
      rfl
  | f :: g :: fs, done, state, _, hlength, hstate => by
      have hrest : recordText (g :: fs) ++ s ≠ [] := by
        simp [recordText_ne_nil]
      obtain ⟨r, hr, hfields, hrstate⟩ := h.field done (hlength f List.mem_cons_self)
        (hstate.imp_right And.left) (List.cons_ne_nil ',' (recordText (g :: fs) ++ s))
      have hends : r.state = .startField ∨ r.state = .inField ∨ r.state = .quoteInQuotedField ∨
          r.state = .startRecord := by
        rcases hrstate with hr | hr | hr | ⟨hr, -⟩
        · exact .inl hr
        · exact .inr (.inl hr)
        · exact .inr (.inr (.inl hr))
        · exact .inr (.inr (.inr hr))
      have htext : recordText (f :: g :: fs) ++ s = f.text ++ ',' :: (recordText (g :: fs) ++ s) := by
        simp [recordText]
      have ih := h.fields s (g :: fs) r.saveField.fields .startField
        (List.cons_ne_nil _ _) (fun f hf => hlength f (List.mem_cons_of_mem _ hf)) (.inl rfl)
      rw [htext, hr, h.comma hrest hends, ih, hfields]
      simp

theorem records (h : Reads limit keep F) : ∀ (records : List (List CsvField)),
    (∀ fs ∈ records, fs ≠ [] ∧ (∀ f, fs = [f] → f.text ≠ []) ∧
      ∀ f ∈ fs, f.value.length ≤ limit) →
      F start (records.flatMap recordText) =
        (F start []).map fun rows => records.map (fun fs => fs.map fun f => readAs keep f.value) ++ rows
  | [], _ => by
      rw [List.flatMap_nil]
      cases F start [] with
      | none => rfl
      | some rows => rfl
  | fs :: records, hwritten => by
      obtain ⟨hne, htext, hlength⟩ := hwritten fs List.mem_cons_self
      have ih := h.records records fun fs hfs => hwritten fs (List.mem_cons_of_mem _ hfs)
      rw [List.flatMap_cons, start, h.fields _ _ _ _ hne hlength (.inr ⟨rfl, htext⟩), ih, Option.map_map]
      rfl

end Reads

theorem csv_rows_text_lines {limit : Nat} {records : List (List CsvField)}
    (h : ∀ fs ∈ records, fs ≠ [] ∧ (∀ f, fs = [f] → f.text ≠ []) ∧
      ∀ f ∈ fs, f.value.length ≤ limit) :
    csv_rows limit (text_lines (records.flatMap recordText)) =
      some (records.map fun fs => fs.map CsvField.value) := by
  have hrows := (reads_text_lines limit).records _ h
  have hnil : rows limit start (text_lines []) = some [] := rfl
  rw [hnil, Option.map_some, List.append_nil] at hrows
  exact hrows

/-- The rows of a text that was split at its newlines: every value has lost its own, and the
empty line at the end is a row without fields. -/
theorem csv_rows_splitOn {limit : Nat} {records : List (List CsvField)}
    (h : ∀ fs ∈ records, fs ≠ [] ∧ (∀ f, fs = [f] → f.text ≠ []) ∧
      ∀ f ∈ fs, f.value.length ≤ limit) :
    csv_rows limit ((records.flatMap recordText).splitOn '\n') =
      some (records.map (fun fs => fs.map fun f => f.value.filter (· ≠ '\n')) ++ [[]]) := by
  have hrows := (reads_splitOn limit).records _ h
  have hnil : rows limit start (([] : Str).splitOn '\n') = some [[]] := rfl
  rw [hnil, Option.map_some] at hrows
  exact hrows

/-! ## The characters of a row -/

/-- Every character the reader holds satisfies `P`. -/
def CsvReader.All (P : Char → Prop) (r : CsvReader) : Prop :=
  (∀ c ∈ r.field, P c) ∧ ∀ field ∈ r.fields, ∀ c ∈ field, P c

namespace CsvReader

variable {P : Char → Prop} {limit : Nat} {r r' : CsvReader} {c : Char}

theorem All.withState (h : r.All P) (state : CsvState) : All P { r with state := state } := h

theorem All.saveField (h : r.All P) : r.saveField.All P := by
  refine ⟨fun c hc => absurd hc List.not_mem_nil, fun field hfield => ?_⟩
  rcases List.mem_append.mp hfield with hfield | hfield
  · exact h.2 field hfield
  · rw [List.mem_singleton.mp hfield]
    exact h.1

theorem All.addChar (h : r.All P) (hc : P c) (hr : r.addChar limit c = some r') : r'.All P := by
  rw [CsvReader.addChar] at hr
  split at hr
  next =>
    cases hr
    refine ⟨fun d hd => ?_, h.2⟩
    rcases List.mem_append.mp hd with hd | hd
    · exact h.1 d hd
    · rw [List.mem_singleton.mp hd]
      exact hc
  next => cases hr

theorem All.addChar_map (h : r.All P) (hc : P c) {state : CsvState}
    (hr : (r.addChar limit c).map (fun r => { r with state := state }) = some r') : r'.All P := by
  obtain ⟨r₁, hr₁, rfl⟩ := Option.map_eq_some_iff.mp hr
  exact (h.addChar hc hr₁).withState state

theorem All.startField (h : r.All P) (hc : P c) (hr : r.startField limit c = some r') :
    r'.All P := by
  rw [CsvReader.startField] at hr
  split at hr
  next => cases hr; exact h.saveField.withState _
  next =>
    split at hr
    next => cases hr; exact h.withState _
    next =>
      split at hr
      next => cases hr; exact h.saveField.withState _
      next => exact h.addChar_map hc hr

theorem All.char (h : r.All P) (hc : P c) (hr : r.char limit c = some r') : r'.All P := by
  rw [CsvReader.char] at hr
  split at hr
  next => cases hr
  next =>
    split at hr
    next =>
      split at hr
      next => cases hr; exact h.withState _
      next => exact h.startField hc hr
    next => exact h.startField hc hr
    next =>
      split at hr
      next => cases hr; exact h.saveField.withState _
      next =>
        split at hr
        next => cases hr; exact h.saveField.withState _
        next => exact h.addChar hc hr
    next =>
      split at hr
      next => cases hr; exact h.withState _
      next => exact h.addChar hc hr
    next =>
      split at hr
      next => exact h.addChar_map hc hr
      next =>
        split at hr
        next => cases hr; exact h.saveField.withState _
        next =>
          split at hr
          next => cases hr; exact h.saveField.withState _
          next => exact h.addChar_map hc hr
    next =>
      split at hr
      next => cases hr; exact h
      next => cases hr

theorem All.line : ∀ {line : Str} {r r' : CsvReader}, r.All P → (∀ c ∈ line, P c) →
    line.foldlM (CsvReader.char limit) r = some r' → r'.All P
  | [], r, r', h, _, hr => by
      cases hr
      exact h
  | c :: line, r, r', h, hline, hr => by
      rw [List.foldlM_cons, Option.bind_eq_bind, Option.bind_eq_some_iff] at hr
      obtain ⟨r₁, hr₁, hr⟩ := hr
      exact All.line (h.char (hline c List.mem_cons_self) hr₁)
        (fun d hd => hline d (List.mem_cons_of_mem _ hd)) hr

theorem All.endLine (h : r.All P) : r.endLine.All P := by
  rw [CsvReader.endLine]
  split
  next => exact h
  next => exact h.saveField.withState _
  next => exact h.saveField.withState _
  next => exact h
  next => exact h.saveField.withState _
  next => exact h.withState _

theorem all_start : start.All P :=
  ⟨fun _ h => absurd h List.not_mem_nil, fun _ h => absurd h List.not_mem_nil⟩

theorem All.rows : ∀ {lines : List Str} {r : CsvReader} {rows : List (List Str)}, r.All P →
    (∀ line ∈ lines, ∀ c ∈ line, P c) → CsvReader.rows limit r lines = some rows →
      ∀ row ∈ rows, ∀ field ∈ row, ∀ c ∈ field, P c
  | [], r, rows, h, _, hrows => by
      rw [CsvReader.rows] at hrows
      split at hrows
      next =>
        cases hrows
        intro row hrow
        rw [List.mem_singleton.mp hrow]
        exact h.saveField.2
      next =>
        cases hrows
        exact fun row hrow => absurd hrow List.not_mem_nil
  | line :: lines, r, rows, h, hlines, hrows => by
      rw [CsvReader.rows, Option.bind_eq_bind, Option.bind_eq_some_iff] at hrows
      obtain ⟨r₁, hr₁, hrows⟩ := hrows
      have hend := (h.line (hlines line List.mem_cons_self) hr₁).endLine
      have hrest : ∀ line ∈ lines, ∀ c ∈ line, P c := fun l hl => hlines l (List.mem_cons_of_mem _ hl)
      split at hrows
      next =>
        rw [Option.bind_eq_bind, Option.bind_eq_some_iff] at hrows
        obtain ⟨rest, hrows₁, hrows⟩ := hrows
        cases hrows
        intro row hrow
        rcases List.mem_cons.mp hrow with rfl | hrow
        · exact hend.2
        · exact All.rows all_start hrest hrows₁ row hrow
      next => exact All.rows hend hrest hrows

end CsvReader

theorem csv_rows_all {P : Char → Prop} {limit : Nat} {lines : List Str} {rows : List (List Str)}
    (hlines : ∀ line ∈ lines, ∀ c ∈ line, P c) (h : csv_rows limit lines = some rows) :
    ∀ row ∈ rows, ∀ field ∈ row, ∀ c ∈ field, P c :=
  CsvReader.All.rows CsvReader.all_start hlines h

/-! ## Line breaks in a file -/

theorem universal_newlines_cons {c : Char} (hc : c ≠ '\r') (s : Str) :
    universal_newlines (c :: s) = c :: universal_newlines s := by
  rw [universal_newlines]
  · exact fun _ h => absurd h hc
  · exact hc

theorem universal_newlines_append {a : Str} (ha : '\r' ∉ a) (s : Str) :
    universal_newlines (a ++ s) = a ++ universal_newlines s := by
  induction a with
  | nil => rfl
  | cons c a ih =>
      have hc : c ≠ '\r' := fun h => ha (h ▸ List.mem_cons_self)
      rw [List.cons_append, universal_newlines_cons hc, ih fun h => ha (List.mem_cons_of_mem _ h),
        List.cons_append]

theorem universal_newlines_of_not_mem {s : Str} (h : '\r' ∉ s) : universal_newlines s = s := by
  have happ := universal_newlines_append h []
  rwa [List.append_nil, universal_newlines, List.append_nil] at happ

theorem newline_mem_universal_newlines {s : Str} (h : '\n' ∈ s ∨ '\r' ∈ s) :
    '\n' ∈ universal_newlines s := by
  fun_induction universal_newlines s with
  | case1 => simp at h
  | case2 s ih => exact List.mem_cons_self
  | case3 s hs ih => exact List.mem_cons_self
  | case4 c s _ hc ih =>
      by_cases hn : c = '\n'
      · exact hn ▸ List.mem_cons_self
      · refine List.mem_cons_of_mem _ (ih (h.imp (fun h => ?_) fun h => ?_))
        · exact (List.mem_cons.mp h).resolve_left (Ne.symm hn)
        · exact (List.mem_cons.mp h).resolve_left fun h => hc h.symm

/-- A field as it is read from a file. -/
def CsvField.inFile : CsvField → CsvField
  | .raw value plain => .raw value plain
  | .quoted value noNull => .quoted (universal_newlines value) (by
      fun_induction universal_newlines value with
      | case1 => exact List.not_mem_nil
      | case2 s ih => simp_all
      | case3 s hs ih => simp_all
      | case4 c s _ hc ih => simp_all)

theorem doubled_cons (c : Char) (s : Str) :
    doubled (c :: s) = (if c = '"' then ['"', '"'] else [c]) ++ doubled s := rfl

theorem universal_newlines_doubled (s value : Str) :
    universal_newlines (doubled value ++ '"' :: s) =
      doubled (universal_newlines value) ++ '"' :: universal_newlines s := by
  fun_induction universal_newlines value with
  | case1 => exact universal_newlines_cons (by decide) s
  | case2 value ih =>
      have hleft : doubled ('\r' :: '\n' :: value) = '\r' :: '\n' :: doubled value := rfl
      rw [hleft, List.cons_append, List.cons_append, universal_newlines, ih]
      rfl
  | case3 value hvalue ih =>
      have hleft : doubled ('\r' :: value) = '\r' :: doubled value := rfl
      rw [hleft, List.cons_append, universal_newlines, ih]
      · rfl
      · intro t ht
        cases value with
        | nil => cases ht
        | cons c value =>
            rw [doubled_cons] at ht
            split at ht
            next => cases ht
            next => exact hvalue value (by rw [(List.cons.inj ht).1])
  | case4 c value _ hc ih =>
      rw [doubled_cons, doubled_cons, List.append_assoc, universal_newlines_append, ih,
        List.append_assoc]
      split
      next => decide
      next => simpa using Ne.symm hc

theorem universal_newlines_text (f : CsvField) (s : Str) :
    universal_newlines (f.text ++ s) = f.inFile.text ++ universal_newlines s := by
  cases f with
  | raw value plain =>
      refine universal_newlines_append (fun h => ?_) s
      have := plain _ h
      simp at this
  | quoted value noNull =>
      have htext : (CsvField.quoted value noNull).text ++ s = '"' :: (doubled value ++ '"' :: s) := by
        simp [CsvField.text]
      rw [htext, universal_newlines_cons (by decide), universal_newlines_doubled]
      simp [CsvField.text, CsvField.inFile]

theorem universal_newlines_recordText (s : Str) : ∀ fs : List CsvField,
    universal_newlines (recordText fs ++ s) =
      recordText (fs.map CsvField.inFile) ++ universal_newlines s
  | [] => universal_newlines_cons (by decide) s
  | [f] => by
      have htext : recordText [f] ++ s = f.text ++ '\n' :: s := by simp [recordText]
      rw [htext, universal_newlines_text, universal_newlines_cons (by decide)]
      simp [recordText]
  | f :: g :: fs => by
      have htext : recordText (f :: g :: fs) ++ s = f.text ++ ',' :: (recordText (g :: fs) ++ s) := by
        simp [recordText]
      rw [htext, universal_newlines_text, universal_newlines_cons (by decide),
        universal_newlines_recordText s (g :: fs)]
      simp [recordText]

theorem universal_newlines_records : ∀ records : List (List CsvField),
    universal_newlines (records.flatMap recordText) =
      (records.map fun fs => fs.map CsvField.inFile).flatMap recordText
  | [] => rfl
  | fs :: records => by
      rw [List.flatMap_cons, universal_newlines_recordText, universal_newlines_records records,
        List.map_cons, List.flatMap_cons]

end Py
