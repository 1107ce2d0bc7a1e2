import DataWorkspace.Py.CsvPrefix
import DataWorkspace.Py.Split

/-!
# Lines cut at every kind of break

`str.splitlines` ends a line at more than newlines.  Where the lines are joined with newlines and
read as CSV, the records are those of the text as long as each break fits: it is a newline, or
outside quotes a carriage return, and in the end no quoted field is open.  Otherwise the record
that is read when this fails is another one (`agree_iff`).
-/

namespace Py

open CsvReader

/-! ## Lines and breaks -/

/-- The characters at which `str.splitlines` ends a line. -/
def isBreak (c : Char) : Bool :=
  ['\n', '\r', '\x0b', '\x0c', '\x1c', '\x1d', '\x1e', '\u0085', '\u2028', '\u2029'].contains c

/-- The lines of a text, each with its break. -/
@[grind =]
def brokenLines : Str → List (Str × Str)
  | [] => []
  | '\r' :: '\n' :: s => ([], "\r\n") :: brokenLines s
  | c :: s =>
      if isBreak c then ([], [c]) :: brokenLines s
      else
        match brokenLines s with
        | [] => [([c], [])]
        | (line, brk) :: lines => (c :: line, brk) :: lines

/-- `s.splitlines()`. -/
def splitlines (s : Str) : List Str := (brokenLines s).map Prod.fst

/-- The text of the lines with their breaks. -/
def wholeText (lines : List (Str × Str)) : Str := lines.flatMap fun l => l.1 ++ l.2

theorem wholeText_cons (l : Str × Str) (lines : List (Str × Str)) :
    wholeText (l :: lines) = l.1 ++ (l.2 ++ wholeText lines) := by
  rw [wholeText, List.flatMap_cons, List.append_assoc]
  rfl

theorem wholeText_append (lines lines' : List (Str × Str)) :
    wholeText (lines ++ lines') = wholeText lines ++ wholeText lines' := List.flatMap_append

theorem wholeText_brokenLines (s : Str) : wholeText (brokenLines s) = s := by
  fun_induction brokenLines s with
  | case1 => rfl
  | case2 s ih => rw [wholeText_cons, ih]; rfl
  | case3 c s _ _ ih => rw [wholeText_cons, ih]; rfl
  | case4 c s _ _ h ih =>
      rw [h] at ih
      rw [← ih]
      rfl
  | case5 c s _ _ line brk lines h ih =>
      rw [h, wholeText_cons] at ih
      rw [wholeText_cons, ← ih]
      rfl

inductive Broken : List (Str × Str) → Str → Prop
  | nil (rest : Str) : Broken [] rest
  | cons {line brk rest : Str} {lines : List (Str × Str)} : (∀ c ∈ line, isBreak c = false) →
      (brk = "\r\n" ∨ ∃ c, isBreak c = true ∧ brk = [c]) →
      (brk.getLast? = some '\n' ∨ wholeText lines ++ rest ≠ []) → Broken lines rest →
      Broken ((line, brk) :: lines) rest

theorem getLast?_of_cons {c : Char} {s : Str} (h : ∀ d ∈ (c :: s).getLast?, d = '\n') :
    ∀ d ∈ s.getLast?, d = '\n' := by
  cases s with
  | nil => exact fun d hd => by cases hd
  | cons e s => exact h

theorem broken_brokenLines (rest : Str) {s : Str} : (∀ c ∈ s.getLast?, c = '\n') →
    Broken (brokenLines s) rest := by
  fun_induction brokenLines s with
  | case1 => exact fun _ => .nil rest
  | case2 s ih =>
      intro h
      exact .cons (fun c hc => absurd hc List.not_mem_nil) (.inl rfl) (.inl rfl)
        (ih (getLast?_of_cons (getLast?_of_cons h)))
  | case3 c s _ hc ih =>
      intro h
      refine .cons (fun c hc => absurd hc List.not_mem_nil) (.inr ⟨c, hc, rfl⟩) ?_
        (ih (getLast?_of_cons h))
      rw [wholeText_brokenLines]
      cases s with
      | nil => exact .inl (congrArg some (h c rfl))
      | cons d s => exact .inr (by simp)
  | case4 c s _ hc hnil ih =>
      intro h
      have hs := wholeText_brokenLines s
      rw [hnil] at hs
      obtain rfl : [] = s := hs
      obtain rfl : c = '\n' := h c rfl
      exact absurd rfl hc
  | case5 c s _ hc line brk lines hlines ih =>
      intro h
      have hbroken := ih (getLast?_of_cons h)
      rw [hlines] at hbroken
      cases hbroken with
      | cons hline hbrk hend hrest =>
          refine .cons (fun d hd => ?_) hbrk hend hrest
          rcases List.mem_cons.mp hd with rfl | hd
          · simpa using hc
          · exact hline d hd

theorem Broken.of_append {rest : Str} {lines lines' : List (Str × Str)}
    (h : Broken (lines ++ lines') rest) : Broken lines (wholeText lines' ++ rest) := by
  induction lines with
  | nil => exact .nil _
  | cons l lines ih =>
      cases h with
      | cons hline hbrk hend hrest =>
          refine .cons hline hbrk (hend.imp_right fun hne => ?_) (ih hrest)
          rwa [← List.append_assoc, ← wholeText_append]

/-! ## The reader within a line -/

variable {limit : Nat} {r r' : CsvReader} {c : Char} {s : Str}

theorem not_crnl_of_not_break (h : isBreak c = false) : isCrnl c = false := by
  simp only [isBreak, List.contains_eq_mem, decide_eq_false_iff_not, List.mem_cons, not_or] at h
  simp [isCrnl, h.1, h.2.1]

/-- A line is given to the reader. -/
def CsvReader.feed (limit : Nat) (r : CsvReader) (line : Str) : Option CsvReader :=
  line.foldlM (CsvReader.char limit) r

theorem feed_cons (limit : Nat) (r : CsvReader) (c : Char) (line : Str) :
    feed limit r (c :: line) = (r.char limit c).bind fun r => feed limit r line := List.foldlM_cons

theorem read_feed : ∀ {line : Str} {r : CsvReader}, (∀ c ∈ line, c ≠ '\n') → s ≠ [] →
    read limit r (line ++ s) = (feed limit r line).bind fun r => read limit r s
  | [], _, _, _ => rfl
  | c :: line, r, hline, hs => by
      rw [List.cons_append, read_char (hline c List.mem_cons_self)
        (List.append_ne_nil_of_right_ne_nil line hs), feed_cons, Option.bind_assoc]
      exact Option.bind_congr fun r' _ =>
        read_feed (fun d hd => hline d (List.mem_cons_of_mem _ hd)) hs

theorem read_line : ∀ {line : Str} {r : CsvReader}, (∀ c ∈ line, c ≠ '\n') → line ≠ [] →
    read limit r line = (feed limit r line).map close
  | [], _, _, hne => absurd rfl hne
  | [c], r, hline, _ => by
      rw [read_last (hline c List.mem_cons_self), feed_cons]
      cases r.char limit c with
      | none => rfl
      | some r' => rfl
  | c :: d :: line, r, hline, _ => by
      rw [read_char (hline c List.mem_cons_self) (List.cons_ne_nil d line), feed_cons,
        Option.map_bind]
      exact Option.bind_congr fun r' _ =>
        read_line (fun e he => hline e (List.mem_cons_of_mem _ he)) (List.cons_ne_nil d line)

/-- What the next lines are read from, once a line is ended with a newline. -/
def CsvReader.next (r : CsvReader) : CsvReader :=
  if r.state = .inQuotedField then { r with field := r.field ++ ['\n'] } else start

/-- The record that a line break ends. -/
def CsvReader.closed (r : CsvReader) : List Str :=
  if r.state = .startRecord then r.fields else r.fields ++ [r.field]

/-- Before a record, or in it, and behind no line break. -/
def CsvReader.Within (r : CsvReader) : Prop := r = start ∨ r.IsOpen

/-- Before a record, or in quotes. -/
abbrev CsvReader.LineStart (r : CsvReader) : Prop := r = start ∨ r.state = .inQuotedField

/-- Another character than a line break begins or goes on with a field. -/
theorem isOpen_char (hc : isCrnl c = false) (h : r.char limit c = some r') :
    r'.IsOpen := by
  have hadd {r₁ r₂ : CsvReader} (hopen : r₁.IsOpen) (h : r₁.addChar limit c = some r₂) :
      r₂.IsOpen := by
    rw [addChar] at h
    split at h
    next => cases h; exact hopen
    next => cases h
  have hmap {state : CsvState} (hstate : state ≠ .startRecord ∧ state ≠ .eatCrnl)
      (h : (r.addChar limit c).map (fun r => { r with state := state }) = some r') : r'.IsOpen := by
    obtain ⟨r₁, _, rfl⟩ := Option.map_eq_some_iff.mp h
    exact hstate
  have hstart (h : r.startField limit c = some r') : r'.IsOpen := by
    rw [startField, hc, if_neg Bool.false_ne_true] at h
    split at h
    next => cases h; simp [CsvReader.IsOpen]
    next =>
        split at h
        next => cases h; simp [CsvReader.IsOpen]
        next => exact hmap (by simp) h
  rw [CsvReader.char] at h
  split at h
  next => cases h
  next =>
      rw [hc] at h
      simp only [Bool.false_eq_true, if_false] at h
      split at h
      next => exact hstart h
      next => exact hstart h
      next hstate =>
          split at h
          next => cases h; simp [CsvReader.IsOpen]
          next => exact hadd (by simp [CsvReader.IsOpen, hstate]) h
      next hstate =>
          split at h
          next => cases h; simp [CsvReader.IsOpen]
          next => exact hadd (by simp [CsvReader.IsOpen, hstate]) h
      next =>
          split at h
          next => exact hmap (by simp) h
          next =>
              split at h
              next => cases h; simp [CsvReader.IsOpen]
              next => exact hmap (by simp) h
      next hstate => cases h

theorem isOpen_feed : ∀ {line : Str} {r r' : CsvReader}, (∀ c ∈ line, isCrnl c = false) →
    line ≠ [] → feed limit r line = some r' → r'.IsOpen
  | [], _, _, _, hne, _ => absurd rfl hne
  | [c], r, r', hline, _, h => by
      rw [feed_cons] at h
      obtain ⟨r₁, hr₁, h⟩ := Option.bind_eq_some_iff.mp h
      cases h
      exact isOpen_char (hline c List.mem_cons_self) hr₁
  | c :: d :: line, r, r', hline, _, h => by
      rw [feed_cons] at h
      obtain ⟨r₁, _, h⟩ := Option.bind_eq_some_iff.mp h
      exact isOpen_feed (fun e he => hline e (List.mem_cons_of_mem _ he))
        (List.cons_ne_nil d line) h

theorem within_feed {line : Str} (hline : ∀ c ∈ line, isCrnl c = false) (hr : Within r)
    (h : feed limit r line = some r') : Within r' := by
  cases line with
  | nil => cases h; exact hr
  | cons c line => exact .inr (isOpen_feed hline (List.cons_ne_nil c line) h)

theorem char_crnl (hr : Within r) (hquoted : r.state ≠ .inQuotedField) (hc : isCrnl c = true) :
    r.char limit c = some ⟨.eatCrnl, [], r.closed⟩ := by
  have hzero : c ≠ '\x00' := by
    rintro rfl
    cases hc
  have hquote : c ≠ '"' := by
    rintro rfl
    cases hc
  have hcomma : c ≠ ',' := by
    rintro rfl
    cases hc
  rcases hr with rfl | ⟨hstart, heat⟩
  · rw [CsvReader.char, if_neg hzero]
    dsimp only [start]
    rw [if_pos hc]
    rfl
  · obtain ⟨state, field, fields⟩ := r
    cases state with
    | startRecord => exact absurd rfl hstart
    | startField =>
        rw [CsvReader.char, if_neg hzero]
        dsimp only
        rw [startField, if_pos hc]
        rfl
    | inField =>
        rw [CsvReader.char, if_neg hzero]
        dsimp only
        rw [if_pos hc]
        rfl
    | inQuotedField => exact absurd rfl hquoted
    | quoteInQuotedField =>
        rw [CsvReader.char, if_neg hzero]
        dsimp only
        rw [if_neg hquote, if_neg hcomma, if_pos hc]
        rfl
    | eatCrnl => exact absurd rfl heat

theorem char_quoted (hquoted : r.state = .inQuotedField) (hc : c ≠ '"')
    (h : r.char limit c = some r') : r' = { r with field := r.field ++ [c] } := by
  obtain ⟨state, field, fields⟩ := r
  obtain rfl : state = .inQuotedField := hquoted
  rw [CsvReader.char] at h
  split at h
  next => cases h
  next =>
      dsimp only at h
      rw [addChar] at h
      split at h
      next => cases h; rfl
      next => cases h

theorem char_other (hc : isBreak c = true) (hcrnl : isCrnl c = false)
    (h : r.char limit c = some r') : r'.fields = r.fields ∧ r'.field = r.field ++ [c] := by
  have hquote : c ≠ '"' := by
    rintro rfl
    cases hc
  have hcomma : c ≠ ',' := by
    rintro rfl
    cases hc
  have hadd {r₁ : CsvReader} (h : r.addChar limit c = some r₁) :
      r₁.fields = r.fields ∧ r₁.field = r.field ++ [c] := by
    rw [addChar] at h
    split at h
    next => cases h; exact ⟨rfl, rfl⟩
    next => cases h
  have hmap {state : CsvState}
      (h : (r.addChar limit c).map (fun r => { r with state := state }) = some r') :
      r'.fields = r.fields ∧ r'.field = r.field ++ [c] := by
    obtain ⟨r₁, hr₁, rfl⟩ := Option.map_eq_some_iff.mp h
    have hfield := hadd hr₁
    exact hfield
  have hstart (h : r.startField limit c = some r') :
      r'.fields = r.fields ∧ r'.field = r.field ++ [c] := by
    rw [startField, hcrnl, if_neg Bool.false_ne_true, if_neg hquote, if_neg hcomma] at h
    exact hmap h
  rw [CsvReader.char, hcrnl] at h
  simp only [Bool.false_eq_true, if_false, if_neg hquote, if_neg hcomma] at h
  split at h
  next => cases h
  next =>
      split at h
      next => exact hstart h
      next => exact hstart h
      next => exact hadd h
      next => exact hadd h
      next => exact hmap h
      next => cases h

/-! ## The end of a line -/

theorem read_break (hr : Within r) (hquoted : r.state ≠ .inQuotedField) (s : Str) :
    read limit r ('\n' :: s) = (read limit start s).map (r.closed :: ·) := by
  rw [read_newline, char_crnl hr hquoted rfl, Option.bind_some]
  rfl

theorem char_eaten (h : r.state = .eatCrnl) (hzero : c ≠ '\x00') :
    r.char limit c = if isCrnl c then some r else none := by
  rw [CsvReader.char, h, if_neg hzero]

theorem char_eaten_crnl (h : r.state = .eatCrnl) (hc : isCrnl c = true) :
    r.char limit c = some r := by
  rw [char_eaten h (by rintro rfl; cases hc), if_pos hc]

theorem read_eaten_return (h : r.state = .eatCrnl) (hs : s ≠ []) :
    read limit r ('\r' :: s) = read limit r s := by
  rw [read_char (by decide) hs, char_eaten_crnl h rfl, Option.bind_some]

theorem read_eaten_newline (h : r.state = .eatCrnl) (s : Str) :
    read limit r ('\n' :: s) = (read limit start s).map (r.fields :: ·) := by
  have hend : r.endLine = { r with state := .startRecord } := by rw [endLine, h]
  rw [read_newline, char_eaten_crnl h rfl, Option.bind_some, hend]
  rfl

/-- Behind a carriage return there are only line breaks up to the end of the line. -/
theorem exists_eaten : ∀ (s : Str) (r : CsvReader) (rows : List (List Str)), r.state = .eatCrnl →
    s ≠ [] → read limit r s = some rows → ∃ rest, rows = r.fields :: rest := by
  have hchar {r r' : CsvReader} {c : Char} (hr : r.state = .eatCrnl)
      (h : r.char limit c = some r') : r' = r := by
    by_cases hzero : c = '\x00'
    · rw [CsvReader.char, if_pos hzero] at h
      cases h
    · rw [char_eaten hr hzero] at h
      split at h
      next => cases h; rfl
      next => cases h
  refine text_cases ?_ ?_ ?_ ?_
  · exact fun r rows _ hs => absurd rfl hs
  · intro r c hc rows hr _ h
    rw [read_last hc] at h
    obtain ⟨r', hr', rfl⟩ := Option.map_eq_some_iff.mp h
    obtain rfl := hchar hr hr'
    exact ⟨[], by rw [close, endLine, hr]; rfl⟩
  · intro r s _ rows hr _ h
    rw [read_eaten_newline hr] at h
    obtain ⟨rest, _, rfl⟩ := Option.map_eq_some_iff.mp h
    exact ⟨rest, rfl⟩
  · intro r c s hc hs ih rows hr _ h
    rw [read_char hc hs] at h
    obtain ⟨r', hr', hread⟩ := Option.bind_eq_some_iff.mp h
    rw [hchar hr hr'] at hread
    exact ih r rows hr hs hread

/-! ## Records that agree -/

/-- The records of a part are the first ones of the whole, apart from empty lines. -/
def RowsAgree (part full : List (List Str)) : Prop :=
  part.filter (· ≠ []) <+: full.filter (· ≠ [])

theorem agree_nil_cons {part full : List (List Str)} :
    RowsAgree ([] :: part) full ↔ RowsAgree part full := Iff.rfl

theorem agree_cons_iff {row : List Str} {part full : List (List Str)} :
    RowsAgree (row :: part) (row :: full) ↔ RowsAgree part full := by
  by_cases hrow : row = []
  · subst hrow
    exact Iff.rfl
  · have hkeep (rows : List (List Str)) :
        (row :: rows).filter (· ≠ []) = row :: rows.filter (· ≠ []) :=
      List.filter_cons_of_pos (by simpa using hrow)
    rw [RowsAgree, RowsAgree, hkeep, hkeep, List.cons_prefix_cons]
    exact ⟨And.right, fun h => ⟨rfl, h⟩⟩

theorem RowsAgree.mem_of_cons {part full : List (List Str)} {row row' : List Str}
    (h : RowsAgree part (row :: full)) (hne : row ≠ []) (hmem : row' ∈ part) (hne' : row' ≠ []) :
    row ∈ part := by
  rw [RowsAgree, List.filter_cons_of_pos (by simpa using hne)] at h
  have hrow' : row' ∈ part.filter (· ≠ []) := List.mem_filter.mpr ⟨hmem, by simpa using hne'⟩
  cases hpart : part.filter (· ≠ []) with
  | nil =>
      rw [hpart] at hrow'
      cases hrow'
  | cons first rest =>
      rw [hpart, List.cons_prefix_cons] at h
      have hfirst : first ∈ part.filter (· ≠ []) := by rw [hpart]; exact List.mem_cons_self
      exact h.1 ▸ (List.mem_filter.mp hfirst).1

/-- The lines without their breaks, joined with newlines. -/
def rejoined (lines : List (Str × Str)) : Str := join "\n" (lines.map Prod.fst)

theorem joined_cons (l : Str × Str) {lines : List (Str × Str)} (h : lines ≠ []) :
    rejoined (l :: lines) = l.1 ++ '\n' :: rejoined lines := by
  obtain ⟨l', lines, rfl⟩ := List.exists_cons_of_ne_nil h
  rw [rejoined, rejoined, join, join, List.map_cons, List.map_cons, List.intercalate_cons_cons,
    List.append_assoc]
  rfl

theorem joined_singleton (l : Str × Str) : rejoined [l] = l.1 := by
  rw [rejoined, join, List.map_singleton, List.intercalate_singleton]

/-- There is no record to come: none is begun, and the lines are empty. -/
abbrev NoRecord (r : CsvReader) (lines : List (Str × Str)) : Prop :=
  r = start ∧ ∀ l ∈ lines, l.1 = []

/-- Whether the reader takes the break for what `splitlines` takes it. -/
def BreakFits (r : CsvReader) (brk : Str) : Prop :=
  brk = "\n" ∨ r.state ≠ .inQuotedField ∧ (brk = "\r" ∨ brk = "\r\n")

/-- The reader goes through the lines with no other breaks than its own, up to the empty lines at
the end, and no quoted field is open then. -/
def BreaksFit (limit : Nat) : CsvReader → List (Str × Str) → Prop
  | r, [] => r.state ≠ .inQuotedField
  | r, (line, brk) :: lines =>
      NoRecord r ((line, brk) :: lines) ∨
        ∃ r', feed limit r line = some r' ∧ BreakFits r' brk ∧ BreaksFit limit r'.next lines

theorem fits_cons_iff {line brk : Str} {lines : List (Str × Str)}
    (hfeed : feed limit r line = some r')
    (hsome : ¬ NoRecord r ((line, brk) :: lines)) :
    BreaksFit limit r ((line, brk) :: lines) ↔
      BreakFits r' brk ∧ BreaksFit limit r'.next lines := by
  rw [BreaksFit]
  constructor
  · rintro (hnone | ⟨r₁, hr₁, h⟩)
    · exact absurd hnone hsome
    · rw [hfeed] at hr₁
      cases hr₁
      exact h
  · exact fun h => .inr ⟨r', hfeed, h⟩

section Steps

variable {line brk rest : Str} {lines : List (Str × Str)} {full : List (List Str)}

/-- The lines without their breaks give the same records exactly if the breaks fit. -/
def AgreeIff (limit : Nat) (r : CsvReader) (lines : List (Str × Str))
    (full : List (List Str)) : Prop :=
  (∃ part, read limit r (rejoined lines) = some part ∧ RowsAgree part full) ↔
    BreaksFit limit r lines

theorem within_start : Within start := .inl rfl

theorem agree_of_empty (full : List (List Str)) : ∀ {lines : List (Str × Str)}, lines ≠ [] →
    (∀ l ∈ lines, l.1 = []) →
      ∃ part, read limit start (rejoined lines) = some part ∧ RowsAgree part full
  | [], hne, _ => absurd rfl hne
  | [l], _, h => by
      rw [joined_singleton, h l List.mem_cons_self, read_nil]
      exact ⟨_, rfl, List.nil_prefix⟩
  | l :: l' :: lines, _, h => by
      obtain ⟨part, hpart, hagree⟩ := agree_of_empty full (List.cons_ne_nil l' lines)
        fun x hx => h x (List.mem_cons_of_mem _ hx)
      rw [joined_cons l (List.cons_ne_nil l' lines), h l List.mem_cons_self, List.nil_append,
        read_break within_start (by decide), hpart]
      exact ⟨_, rfl, agree_nil_cons.mpr hagree⟩

theorem not_hasPart {fields : List Str} {field : Str} {c : Char} :
    ¬ HasPart fields (field ++ [c]) (fields ++ [field]) := by
  rintro ⟨w, hw, hrow⟩
  have hlength := hw.length_le
  obtain rfl : w = field := by simpa using hrow.eq_of_length (by simp)
  rw [List.length_append, List.length_singleton] at hlength
  omega

theorem close_eq (hopen : r.IsOpen) (hquoted : r.state ≠ .inQuotedField) :
    r.close = [r.closed] := by
  rcases endLine_cases r with ⟨hstate, _⟩ | ⟨_, hstate, hfields⟩
  · exact absurd hstate hquoted
  · rw [close, if_pos hstate, closed, if_neg hopen.1]
    rcases hfields with hfields | ⟨hnot, _⟩
    · rw [hfields]
    · exact absurd hopen hnot

theorem close_of_quoted (hquoted : r.state = .inQuotedField) :
    r.close = [r.fields ++ [r.field]] := by
  rcases endLine_cases r with ⟨_, hsame⟩ | ⟨hnot, _⟩
  · rw [close, hsame, if_neg (by simp [hquoted]), flush_of_quoted hquoted]
  · exact absurd hquoted hnot

theorem read_quoted (hquoted : r.state = .inQuotedField) (hchar : r.char limit '\n' = some r.next)
    (s : Str) : read limit r ('\n' :: s) = read limit r.next s := by
  have hnext : r.next.state = .inQuotedField := by
    rw [CsvReader.next, if_pos hquoted]
    exact hquoted
  rcases endLine_cases r.next with ⟨_, hsame⟩ | ⟨hnot, _⟩
  · rw [read_newline, hchar, Option.bind_some, hsame, if_neg (by simp [hnext])]
  · exact absurd hnext hnot

theorem AgreeIff.closed (hline : ∀ c ∈ line, isBreak c = false) (hr : r.LineStart)
    (hfeed : feed limit r line = some r') (hsome : ¬ NoRecord r ((line, brk) :: lines))
    (hquoted : r'.state ≠ .inQuotedField) (hbrk : BreakFits r' brk)
    (hrest : lines ≠ [] → AgreeIff limit start lines full) :
    AgreeIff limit r ((line, brk) :: lines) (r'.closed :: full) := by
  have hcrnl : ∀ c ∈ line, isCrnl c = false := fun c hc => not_crnl_of_not_break (hline c hc)
  have hnewline : ∀ c ∈ line, c ≠ '\n' := by
    rintro c hc rfl
    cases hline _ hc
  have hnext : r'.next = start := if_neg hquoted
  rw [AgreeIff, fits_cons_iff hfeed hsome, hnext, and_iff_right hbrk]
  by_cases hlines : lines = []
  · subst hlines
    have hne : line ≠ [] := by
      rintro rfl
      cases hfeed
      exact hsome ⟨hr.resolve_right hquoted, by simp⟩
    rw [joined_singleton, read_line hnewline hne, hfeed, Option.map_some,
      close_eq (isOpen_feed hcrnl hne hfeed) hquoted]
    exact ⟨fun _ => by simp [BreaksFit, start],
      fun _ => ⟨_, rfl, agree_cons_iff.mpr List.nil_prefix⟩⟩
  · have hwithin : Within r' := by
      refine within_feed hcrnl ?_ hfeed
      exact hr.imp_right fun hstate => by simp [CsvReader.IsOpen, hstate]
    have hiff : _ ↔ _ := hrest hlines
    rw [joined_cons _ hlines, read_feed hnewline (List.cons_ne_nil _ _), hfeed, Option.bind_some,
      read_break hwithin hquoted, ← hiff]
    constructor
    · rintro ⟨part, hpart, hagree⟩
      obtain ⟨part', hpart', rfl⟩ := Option.map_eq_some_iff.mp hpart
      exact ⟨part', hpart', agree_cons_iff.mp hagree⟩
    · rintro ⟨part, hpart, hagree⟩
      exact ⟨_, by rw [hpart]; rfl, agree_cons_iff.mpr hagree⟩

theorem AgreeIff.quoted (hline : ∀ c ∈ line, isBreak c = false)
    (hfeed : feed limit r line = some r') (hsome : ¬ NoRecord r ((line, brk) :: lines))
    (hquoted : r'.state = .inQuotedField) (hchar : r'.char limit '\n' = some r'.next)
    (hbrk : brk = "\n") {s : Str} (hread : read limit r'.next s = some full)
    (hrest : lines ≠ [] → AgreeIff limit r'.next lines full) :
    AgreeIff limit r ((line, brk) :: lines) full := by
  have hnewline : ∀ c ∈ line, c ≠ '\n' := by
    rintro c hc rfl
    cases hline _ hc
  have hnext : r'.next = { r' with field := r'.field ++ ['\n'] } := if_pos hquoted
  rw [AgreeIff, fits_cons_iff hfeed hsome, and_iff_right (.inl hbrk)]
  by_cases hlines : lines = []
  · subst hlines
    have hpart : read limit r line = some [r'.fields ++ [r'.field]] := by
      by_cases hne : line = []
      · subst hne
        cases hfeed
        rw [read_nil, flush_of_quoted hquoted]
      · rw [read_line hnewline hne, hfeed, Option.map_some, close_of_quoted hquoted]
    have hheld : Holds r'.fields (r'.field ++ ['\n']) r'.next := by
      rw [hnext]
      exact .inl ⟨by simp [CsvReader.IsOpen, hquoted], rfl, List.prefix_rfl⟩
    have hquoted' : r'.next.state = .inQuotedField := by rw [hnext]; exact hquoted
    obtain ⟨row, rows, rfl, hrow⟩ := exists_row s _ full hheld (.inr hquoted') hread
    rw [joined_singleton, hpart]
    constructor
    · rintro ⟨part, hsame, hagree⟩
      cases hsame
      have hmem := hagree.mem_of_cons hrow.ne_nil List.mem_cons_self (by simp)
      rw [List.mem_singleton.mp hmem] at hrow
      exact absurd hrow not_hasPart
    · intro hfits
      rw [BreaksFit, hnext] at hfits
      exact absurd hquoted hfits
  · rw [joined_cons _ hlines, read_feed hnewline (List.cons_ne_nil _ _), hfeed, Option.bind_some,
      read_quoted hquoted hchar]
    exact hrest hlines

theorem holds_self (hopen : r.IsOpen) : Holds r.fields [] r :=
  .inl ⟨hopen, rfl, List.nil_prefix⟩

theorem exists_row_of_char (hc : isCrnl c = false) {rows : List (List Str)}
    (h : read limit start (c :: s) = some rows) : ∃ row rest, rows = row :: rest ∧ row ≠ [] := by
  have hnewline : c ≠ '\n' := by
    rintro rfl
    cases hc
  by_cases hs : s = []
  · rw [hs, read_last hnewline] at h
    obtain ⟨r', hr', rfl⟩ := Option.map_eq_some_iff.mp h
    obtain ⟨row, hrow, hpart⟩ := (holds_self (isOpen_char hc hr')).close
    exact ⟨row, [], hrow, hpart.ne_nil⟩
  · rw [read_char hnewline hs] at h
    obtain ⟨r', hr', h⟩ := Option.bind_eq_some_iff.mp h
    obtain ⟨row, rest, hrows, hpart⟩ :=
      exists_row s r' rows (holds_self (isOpen_char hc hr')) (.inl hs) h
    exact ⟨row, rest, hrows, hpart.ne_nil⟩

theorem exists_joined_cons (c : Char) (line brk : Str) (lines : List (Str × Str)) :
    ∃ s, rejoined ((c :: line, brk) :: lines) = c :: s := by
  by_cases hnil : lines = []
  · exact ⟨line, by rw [hnil, joined_singleton]⟩
  · exact ⟨_, by rw [joined_cons _ hnil, List.cons_append]⟩

theorem exists_row_of_line : ∀ {lines : List (Str × Str)} {rows : List (List Str)},
    (∀ l ∈ lines, ∀ c ∈ l.1, isBreak c = false) → (∃ l ∈ lines, l.1 ≠ []) →
      read limit start (rejoined lines) = some rows → ∃ row ∈ rows, row ≠ []
  | [], _, _, ⟨_, hl, _⟩, _ => absurd hl List.not_mem_nil
  | ([], brk) :: lines, rows, hlines, ⟨l, hl, hne⟩, h => by
      have hl' : l ∈ lines := by
        rcases List.mem_cons.mp hl with rfl | hl
        · exact absurd rfl hne
        · exact hl
      rw [joined_cons _ (List.ne_nil_of_mem hl'), List.nil_append,
        read_break within_start (by decide)] at h
      obtain ⟨rest, hrest, rfl⟩ := Option.map_eq_some_iff.mp h
      obtain ⟨row, hrow, hsome⟩ := exists_row_of_line
        (fun x hx => hlines x (List.mem_cons_of_mem _ hx)) ⟨l, hl', hne⟩ hrest
      exact ⟨row, List.mem_cons_of_mem _ hrow, hsome⟩
  | (c :: line, brk) :: lines, rows, hlines, _, h => by
      obtain ⟨s, hs⟩ := exists_joined_cons c line brk lines
      rw [hs] at h
      obtain ⟨row, rest, rfl, hne⟩ := exists_row_of_char
        (not_crnl_of_not_break (hlines _ List.mem_cons_self c List.mem_cons_self)) h
      exact ⟨row, List.mem_cons_self, hne⟩

theorem mem_joined : ∀ {lines : List (Str × Str)} {c : Char}, c ∈ rejoined lines →
    c = '\n' ∨ ∃ l ∈ lines, c ∈ l.1
  | [], _, h => absurd h List.not_mem_nil
  | [l], _, h => by
      rw [joined_singleton] at h
      exact .inr ⟨l, List.mem_cons_self, h⟩
  | l :: l' :: lines, c, h => by
      rw [joined_cons _ (List.cons_ne_nil l' lines)] at h
      rcases List.mem_append.mp h with h | h
      · exact .inr ⟨l, List.mem_cons_self, h⟩
      · rcases List.mem_cons.mp h with rfl | h
        · exact .inl rfl
        · exact (mem_joined h).imp_right fun ⟨x, hx, hc⟩ => ⟨x, List.mem_cons_of_mem _ hx, hc⟩

theorem AgreeIff.other (hlines : ∀ l ∈ (line, brk) :: lines, ∀ c ∈ l.1, isBreak c = false)
    (hr : r.LineStart) (hfeed : feed limit r line = some r')
    (hsome : ¬ NoRecord r ((line, brk) :: lines)) (hbrk : ¬ BreakFits r' brk)
    (hall : r.All (· ≠ c)) (hc : isBreak c = true) (hnewline : c ≠ '\n') {r₁ : CsvReader}
    (hopen : r₁.IsOpen) (hfields : r₁.fields = r'.fields) (hfield : r₁.field = r'.field ++ [c])
    (hs : s ≠ []) (hread : read limit r₁ s = some full) :
    AgreeIff limit r ((line, brk) :: lines) full := by
  have hheld : Holds r'.fields (r'.field ++ [c]) r₁ :=
    .inl ⟨hopen, hfields, by rw [hfield]⟩
  obtain ⟨row, rows, rfl, w, hw, hrow⟩ := exists_row s r₁ full hheld (.inl hs) hread
  have hmem : c ∈ w := hw.subset (by simp)
  have hrow' : w ∈ row := hrow.subset (by simp)
  rw [AgreeIff, fits_cons_iff hfeed hsome]
  refine iff_of_false ?_ fun h => hbrk h.1
  rintro ⟨part, hpart, hagree⟩
  have hfree : ∀ d ∈ rejoined ((line, brk) :: lines), d ≠ c := by
    rintro d hd rfl
    rcases mem_joined hd with rfl | ⟨l, hl, hd⟩
    · exact hnewline rfl
    · rw [hlines l hl d hd] at hc
      cases hc
  obtain ⟨row', hrow₁, hne⟩ : ∃ row' ∈ part, row' ≠ [] := by
    rcases hr with rfl | hquoted
    · refine exists_row_of_line hlines ?_ hpart
      by_contra hnone
      exact hsome ⟨rfl, fun l hl => by_contra fun hne => hnone ⟨l, hl, hne⟩⟩
    · obtain ⟨row', rest, rfl, hpart'⟩ := exists_row _ r part
        (holds_self (by simp [CsvReader.IsOpen, hquoted])) (.inr hquoted) hpart
      exact ⟨row', List.mem_cons_self, hpart'.ne_nil⟩
  have hin := hagree.mem_of_cons (List.ne_nil_of_mem hrow') hrow₁ hne
  exact All.read _ r part hall hfree hpart row hin w hrow' c hmem rfl

end Steps

/-- What a field may have of the breaks before the lines are read on. -/
def NewlineOnly (c : Char) : Prop := isBreak c = true → c = '\n'

theorem Broken.not_break {lines : List (Str × Str)} {rest : Str} (h : Broken lines rest) :
    ∀ l ∈ lines, ∀ c ∈ l.1, isBreak c = false := by
  induction h with
  | nil => exact fun l hl => absurd hl List.not_mem_nil
  | cons hline _ _ _ ih =>
      intro l hl
      rcases List.mem_cons.mp hl with rfl | hl
      · exact hline
      · exact ih l hl

theorem all_next (h : r.All NewlineOnly) : r.next.All NewlineOnly := by
  rw [CsvReader.next]
  split
  next =>
      refine ⟨fun c hc => ?_, h.2⟩
      rcases List.mem_append.mp hc with hc | hc
      · exact h.1 c hc
      · exact fun _ => List.mem_singleton.mp hc
  next => exact all_start

theorem All.ne (h : r.All NewlineOnly) (hc : isBreak c = true) (hnewline : c ≠ '\n') :
    r.All (· ≠ c) := by
  constructor
  · rintro d hd rfl
    exact hnewline (h.1 d hd hc)
  · rintro field hfield d hd rfl
    exact hnewline (h.2 field hfield d hd hc)

theorem AgreeIff.empty {brk : Str} {lines : List (Str × Str)} {full : List (List Str)}
    (hbrk : BreakFits start brk) (hrest : lines ≠ [] → AgreeIff limit start lines full) :
    AgreeIff limit start (([], brk) :: lines) full := by
  by_cases hlines : lines = []
  · subst hlines
    exact iff_of_true (agree_of_empty full (List.cons_ne_nil _ _) (by simp)) (.inl ⟨rfl, by simp⟩)
  · have hfits : BreaksFit limit start (([], brk) :: lines) ↔ BreaksFit limit start lines := by
      constructor
      · rintro (⟨_, hempty⟩ | ⟨r', hfeed, _, h⟩)
        · obtain ⟨l, lines, rfl⟩ := List.exists_cons_of_ne_nil hlines
          exact .inl ⟨rfl, fun x hx => hempty x (List.mem_cons_of_mem _ hx)⟩
        · cases hfeed
          exact h
      · exact fun h => .inr ⟨start, rfl, hbrk, h⟩
    have hiff : _ ↔ _ := hrest hlines
    rw [AgreeIff, hfits, ← hiff, joined_cons _ hlines, List.nil_append,
      read_break within_start (by decide)]
    constructor
    · rintro ⟨part, hpart, hagree⟩
      obtain ⟨part', hpart', rfl⟩ := Option.map_eq_some_iff.mp hpart
      exact ⟨part', hpart', agree_nil_cons.mp hagree⟩
    · rintro ⟨part, hpart, hagree⟩
      exact ⟨_, by rw [hpart]; rfl, agree_nil_cons.mpr hagree⟩

theorem break_cases {brk rest : Str} {lines : List (Str × Str)}
    (hbrk : brk = "\r\n" ∨ ∃ c, isBreak c = true ∧ brk = [c])
    (hend : brk.getLast? = some '\n' ∨ wholeText lines ++ rest ≠ []) :
    brk = "\n" ∨ brk = "\r\n" ∨ (brk = "\r" ∧ wholeText lines ++ rest ≠ []) ∨
      ∃ c, brk = [c] ∧ isBreak c = true ∧ isCrnl c = false ∧ wholeText lines ++ rest ≠ [] := by
  rcases hbrk with rfl | ⟨c, hc, rfl⟩
  · exact .inr (.inl rfl)
  · by_cases hnewline : c = '\n'
    · exact .inl (by rw [hnewline]; rfl)
    · have hne : wholeText lines ++ rest ≠ [] :=
        hend.resolve_left fun h => hnewline (Option.some.inj h)
      by_cases hreturn : c = '\r'
      · exact .inr (.inr (.inl ⟨by rw [hreturn]; rfl, hne⟩))
      · exact .inr (.inr (.inr ⟨c, rfl, hc, by simp [isCrnl, hnewline, hreturn], hne⟩))

theorem eaten_other (h : r.state = .eatCrnl) (hc : isCrnl c = false) : r.char limit c = none := by
  by_cases hzero : c = '\x00'
  · rw [CsvReader.char, if_pos hzero]
  · rw [char_eaten h hzero, hc]
    rfl

section Both

variable {line brk rest : Str} {lines : List (Str × Str)} {full : List (List Str)}

theorem AgreeIff.in_quotes (hlines : ∀ l ∈ (line, brk) :: lines, ∀ c ∈ l.1, isBreak c = false)
    (hbrk : brk = "\r\n" ∨ ∃ c, isBreak c = true ∧ brk = [c])
    (hend : brk.getLast? = some '\n' ∨ wholeText lines ++ rest ≠ [])
    (hr : r.LineStart) (hall : r.All NewlineOnly)
    (hfeed : feed limit r line = some r')
    (hsome : ¬ NoRecord r ((line, brk) :: lines))
    (hquoted : r'.state = .inQuotedField)
    (hread : read limit r' (brk ++ (wholeText lines ++ rest)) = some full)
    (hrest : lines ≠ [] → read limit r'.next (wholeText lines ++ rest) = some full →
      AgreeIff limit r'.next lines full) :
    AgreeIff limit r ((line, brk) :: lines) full := by
  have hother {c : Char} {s : Str} (hc : isBreak c = true) (hnewline : c ≠ '\n')
      (hfits : brk ≠ "\n") (hs : s ≠ []) (h : read limit r' (c :: s) = some full) :
      AgreeIff limit r ((line, brk) :: lines) full := by
    have hquote : c ≠ '"' := by
      rintro rfl
      cases hc
    rw [read_char hnewline hs] at h
    obtain ⟨r₁, hr₁, hread₁⟩ := Option.bind_eq_some_iff.mp h
    have hfield := char_quoted hquoted hquote hr₁
    exact .other hlines hr hfeed hsome (fun h => h.elim hfits fun h => h.1 hquoted)
      (All.ne hall hc hnewline) hc hnewline (by rw [hfield]; simp [CsvReader.IsOpen, hquoted])
      (by rw [hfield]) (by rw [hfield]) hs hread₁
  rcases break_cases hbrk hend with rfl | rfl | ⟨rfl, hne⟩ | ⟨c, rfl, hc, hcrnl, hne⟩
  · have hsplit : read limit r' ('\n' :: (wholeText lines ++ rest)) = some full := hread
    obtain ⟨r₁, hr₁, _⟩ := Option.bind_eq_some_iff.mp (read_newline limit r' _ ▸ hsplit)
    have hchar : r'.char limit '\n' = some r'.next := by
      rw [hr₁, char_quoted hquoted (by decide) hr₁, CsvReader.next, if_pos hquoted]
    rw [read_quoted hquoted hchar] at hsplit
    exact .quoted (hlines _ List.mem_cons_self) hfeed hsome hquoted hchar rfl hsplit
      fun hne => hrest hne hsplit
  · exact hother rfl (by decide) (by decide) (List.cons_ne_nil _ _) hread
  · exact hother rfl (by decide) (by decide) hne hread
  · refine hother hc (by rintro rfl; cases hcrnl) ?_ hne hread
    intro heq
    rw [(List.cons.inj heq).1] at hcrnl
    cases hcrnl

theorem AgreeIff.outside (hlines : ∀ l ∈ (line, brk) :: lines, ∀ c ∈ l.1, isBreak c = false)
    (hbrk : brk = "\r\n" ∨ ∃ c, isBreak c = true ∧ brk = [c])
    (hend : brk.getLast? = some '\n' ∨ wholeText lines ++ rest ≠ [])
    (hr : r.LineStart) (hall : r.All NewlineOnly)
    (hfeed : feed limit r line = some r')
    (hsome : ¬ NoRecord r ((line, brk) :: lines))
    (hwithin : Within r') (hquoted : r'.state ≠ .inQuotedField)
    (hread : read limit r' (brk ++ (wholeText lines ++ rest)) = some full)
    (hrest : ∀ full, lines ≠ [] → read limit start (wholeText lines ++ rest) = some full →
      AgreeIff limit start lines full)
    (heaten : ∀ (r : CsvReader) (full : List (List Str)), lines ≠ [] → r.state = .eatCrnl →
      read limit r (wholeText lines ++ rest) = some (r.fields :: full) →
        AgreeIff limit start lines full) :
    AgreeIff limit r ((line, brk) :: lines) full := by
  have hclosed {full : List (List Str)} (hfits : BreakFits r' brk)
      (h : lines ≠ [] → AgreeIff limit start lines full) :
      AgreeIff limit r ((line, brk) :: lines) (r'.closed :: full) :=
    .closed (hlines _ List.mem_cons_self) hr hfeed hsome hquoted hfits h
  have hcrnl : r'.char limit '\r' = some ⟨.eatCrnl, [], r'.closed⟩ :=
    char_crnl hwithin hquoted rfl
  rcases break_cases hbrk hend with rfl | rfl | ⟨rfl, hne⟩ | ⟨c, rfl, hc, hother, hne⟩
  · have hsplit : read limit r' ('\n' :: (wholeText lines ++ rest)) = some full := hread
    rw [read_break hwithin hquoted] at hsplit
    obtain ⟨rows, hrows, rfl⟩ := Option.map_eq_some_iff.mp hsplit
    exact hclosed (.inl rfl) fun hne => hrest rows hne hrows
  · have hsplit : read limit r' ('\r' :: '\n' :: (wholeText lines ++ rest)) = some full := hread
    rw [read_char (by decide) (List.cons_ne_nil _ _), hcrnl, Option.bind_some,
      read_eaten_newline rfl] at hsplit
    obtain ⟨rows, hrows, rfl⟩ := Option.map_eq_some_iff.mp hsplit
    exact hclosed (.inr ⟨hquoted, .inr rfl⟩) fun hne => hrest rows hne hrows
  · have hsplit : read limit r' ('\r' :: (wholeText lines ++ rest)) = some full := hread
    rw [read_char (by decide) hne, hcrnl, Option.bind_some] at hsplit
    obtain ⟨rows, rfl⟩ := exists_eaten _ _ full rfl hne hsplit
    exact hclosed (.inr ⟨hquoted, .inl rfl⟩) fun hlines => heaten _ rows hlines rfl hsplit
  · have hnewline : c ≠ '\n' := by
      rintro rfl
      cases hother
    have hsplit : read limit r' (c :: (wholeText lines ++ rest)) = some full := hread
    rw [read_char hnewline hne] at hsplit
    obtain ⟨r₁, hr₁, hread₁⟩ := Option.bind_eq_some_iff.mp hsplit
    obtain ⟨hfields, hfield⟩ := char_other hc hother hr₁
    refine .other hlines hr hfeed hsome ?_ (All.ne hall hc hnewline) hc hnewline
      (isOpen_char hother hr₁) hfields hfield hne hread₁
    rintro (heq | ⟨_, heq | heq⟩)
    · exact hnewline (List.cons.inj heq).1
    · rw [(List.cons.inj heq).1] at hother
      cases hother
    · cases (List.cons.inj heq).2

theorem AgreeIff.behind (hline : ∀ c ∈ line, isBreak c = false)
    (hbrk : brk = "\r\n" ∨ ∃ c, isBreak c = true ∧ brk = [c])
    (hend : brk.getLast? = some '\n' ∨ wholeText lines ++ rest ≠ []) (hr : r.state = .eatCrnl)
    (hread : read limit r (line ++ (brk ++ (wholeText lines ++ rest))) = some (r.fields :: full))
    (hrest : ∀ full, lines ≠ [] → read limit start (wholeText lines ++ rest) = some full →
      AgreeIff limit start lines full)
    (heaten : lines ≠ [] → read limit r (wholeText lines ++ rest) = some (r.fields :: full) →
      AgreeIff limit start lines full) :
    AgreeIff limit start ((line, brk) :: lines) full := by
  have hstop {c : Char} {s : Str} (hc : isCrnl c = false) (hs : s ≠ []) :
      read limit r (c :: s) ≠ some (r.fields :: full) := by
    have hnewline : c ≠ '\n' := by
      rintro rfl
      cases hc
    rw [read_char hnewline hs, eaten_other hr hc]
    exact fun h => by cases h
  cases line with
  | cons c line =>
      refine absurd hread (hstop (not_crnl_of_not_break (hline c List.mem_cons_self)) ?_)
      rcases hbrk with rfl | ⟨c, _, rfl⟩
      · simp
      · simp
  | nil =>
      have hmap {s : Str} (h : (read limit start s).map (r.fields :: ·) = some (r.fields :: full)) :
          read limit start s = some full := by
        obtain ⟨rows, hrows, heq⟩ := Option.map_eq_some_iff.mp h
        rw [hrows, (List.cons.inj heq).2]
      rcases break_cases hbrk hend with rfl | rfl | ⟨rfl, hne⟩ | ⟨c, rfl, hc, hother, hne⟩
      · have hsplit := hmap ((read_eaten_newline hr _).symm.trans hread)
        exact .empty (.inl rfl) fun hlines => hrest full hlines hsplit
      · have hsplit := hmap ((read_eaten_newline hr _).symm.trans
          ((read_eaten_return hr (List.cons_ne_nil _ _)).symm.trans hread))
        exact .empty (.inr ⟨by decide, .inr rfl⟩) fun hlines => hrest full hlines hsplit
      · have hsplit := (read_eaten_return hr hne).symm.trans hread
        exact .empty (.inr ⟨by decide, .inl rfl⟩) fun hlines => heaten hlines hsplit
      · exact absurd hread (hstop hother hne)

end Both

theorem agree_iff_both {lines : List (Str × Str)} {rest : Str} (h : Broken lines rest) :
    (∀ (r : CsvReader) (full : List (List Str)), lines ≠ [] →
      r.LineStart → r.All NewlineOnly →
        read limit r (wholeText lines ++ rest) = some full → AgreeIff limit r lines full) ∧
    ∀ (r : CsvReader) (full : List (List Str)), lines ≠ [] → r.state = .eatCrnl →
      read limit r (wholeText lines ++ rest) = some (r.fields :: full) →
        AgreeIff limit start lines full := by
  induction h with
  | nil => exact ⟨fun _ _ hne => absurd rfl hne, fun _ _ hne => absurd rfl hne⟩
  | @cons line brk rest lines hline hbrk hend hbroken ih =>
      obtain ⟨hmain, heaten⟩ := ih
      have hlines := (Broken.cons hline hbrk hend hbroken).not_break
      have hcrnl : ∀ c ∈ line, isCrnl c = false := fun c hc => not_crnl_of_not_break (hline c hc)
      have hnewline : ∀ c ∈ line, c ≠ '\n' := by
        rintro c hc rfl
        cases hline _ hc
      have htext : wholeText ((line, brk) :: lines) ++ rest =
          line ++ (brk ++ (wholeText lines ++ rest)) := by
        rw [wholeText_cons, List.append_assoc, List.append_assoc]
      have hne : brk ++ (wholeText lines ++ rest) ≠ [] := by
        rcases hbrk with rfl | ⟨c, _, rfl⟩
        · simp
        · simp
      have hstart (full : List (List Str)) (hne : lines ≠ [])
          (h : read limit start (wholeText lines ++ rest) = some full) :
          AgreeIff limit start lines full := hmain start full hne (.inl rfl) all_start h
      rw [htext]
      constructor
      · intro r full _ hr hall hread
        rw [read_feed hnewline hne] at hread
        obtain ⟨r', hfeed, hread'⟩ := Option.bind_eq_some_iff.mp hread
        by_cases hempty : NoRecord r ((line, brk) :: lines)
        · rw [hempty.1]
          exact iff_of_true (agree_of_empty full (List.cons_ne_nil _ _) hempty.2)
            (.inl ⟨rfl, hempty.2⟩)
        · have hall' : r'.All NewlineOnly := hall.line (fun c hc hbreak => by
            rw [hline c hc] at hbreak
            cases hbreak) hfeed
          by_cases hquoted : r'.state = .inQuotedField
          · exact .in_quotes hlines hbrk hend hr hall hfeed hempty hquoted hread'
              fun hne h => hmain _ full hne
                (.inr (by rw [CsvReader.next, if_pos hquoted]; exact hquoted)) (all_next hall') h
          · have hwithin : Within r' := within_feed hcrnl
              (hr.imp_right fun hstate => by simp [CsvReader.IsOpen, hstate]) hfeed
            exact .outside hlines hbrk hend hr hall hfeed hempty hwithin hquoted hread' hstart
              heaten
      · exact fun r full _ hr hread =>
          .behind hline hbrk hend hr hread hstart fun hne h => heaten r full hne hr h

/-- Lines of a text, joined with newlines, give the first records of the text exactly if their
breaks fit. -/
theorem agree_iff {lines : List (Str × Str)} {rest : Str} {full : List (List Str)}
    (hne : lines ≠ []) (h : Broken lines rest)
    (hread : read limit start (wholeText lines ++ rest) = some full) :
    (∃ part, read limit start (rejoined lines) = some part ∧ RowsAgree part full) ↔
      BreaksFit limit start lines :=
  (agree_iff_both h).1 start full hne (.inl rfl) all_start hread

/-! ## The first record, and how many there are -/

/-- The first line is not empty, or its break is one of a file and there is another line. -/
def FirstFits : List (Str × Str) → Prop
  | [] => False
  | [(line, _)] => line ≠ []
  | (line, brk) :: _ => line = [] → brk = "\n" ∨ brk = "\r" ∨ brk = "\r\n"

theorem head_iff {lines : List (Str × Str)} {rest : Str} {part full : List (List Str)}
    (hne : lines ≠ []) (h : Broken lines rest)
    (hread : read limit start (wholeText lines ++ rest) = some full)
    (hpart : read limit start (rejoined lines) = some part) (hagree : RowsAgree part full) :
    part.head? = full.head? ↔ FirstFits lines := by
  cases h with
  | nil => exact absurd rfl hne
  | @cons line brk _ lines hline hbrk hend hbroken =>
      rw [wholeText_cons, List.append_assoc, List.append_assoc] at hread
      cases line with
      | cons c line =>
          have hc := not_crnl_of_not_break (hline c List.mem_cons_self)
          obtain ⟨s, hs⟩ := exists_joined_cons c line brk lines
          rw [hs] at hpart
          obtain ⟨row, rows, rfl, hrow⟩ := exists_row_of_char hc hpart
          obtain ⟨row', rows', rfl, hrow'⟩ := exists_row_of_char hc hread
          rw [RowsAgree, List.filter_cons_of_pos (by simpa using hrow),
            List.filter_cons_of_pos (by simpa using hrow'), List.cons_prefix_cons] at hagree
          refine iff_of_true (congrArg some hagree.1) ?_
          cases lines with
          | nil => exact List.cons_ne_nil c line
          | cons l lines => exact fun hnil => by cases hnil
      | nil =>
          rw [List.nil_append] at hread
          cases lines with
          | nil =>
              rw [joined_singleton, read_nil] at hpart
              cases hpart
              have hfull : full ≠ [] := by
                refine read_ne_nil _ start full (.inl ?_) hread
                rcases hbrk with rfl | ⟨c, _, rfl⟩
                · simp
                · simp
              obtain ⟨row, rows, rfl⟩ := List.exists_cons_of_ne_nil hfull
              exact iff_of_false (fun heq => by cases heq) fun hfits => hfits rfl
          | cons l lines =>
              rw [joined_cons _ (List.cons_ne_nil l lines), List.nil_append,
                read_break within_start (by decide)] at hpart
              obtain ⟨rows, _, rfl⟩ := Option.map_eq_some_iff.mp hpart
              have hcrnl : start.char limit '\r' = some ⟨.eatCrnl, [], start.closed⟩ :=
                char_crnl within_start (by decide) rfl
              rcases break_cases hbrk hend with rfl | rfl | ⟨rfl, hmore⟩ | ⟨c, rfl, _, hother, _⟩
              · have hsplit := (read_break within_start (by decide) _).symm.trans hread
                obtain ⟨rows', _, rfl⟩ := Option.map_eq_some_iff.mp hsplit
                exact iff_of_true rfl fun _ => .inl rfl
              · have hsplit : read limit start ('\r' :: '\n' :: (wholeText (l :: lines) ++ rest)) =
                    some full := hread
                rw [read_char (by decide) (List.cons_ne_nil _ _), hcrnl, Option.bind_some] at hsplit
                obtain ⟨rows', rfl⟩ := exists_eaten _ _ full rfl (List.cons_ne_nil _ _) hsplit
                exact iff_of_true rfl fun _ => .inr (.inr rfl)
              · have hsplit : read limit start ('\r' :: (wholeText (l :: lines) ++ rest)) =
                    some full := hread
                rw [read_char (by decide) hmore, hcrnl, Option.bind_some] at hsplit
                obtain ⟨rows', rfl⟩ := exists_eaten _ _ full rfl hmore hsplit
                exact iff_of_true rfl fun _ => .inr (.inl rfl)
              · obtain ⟨row, rows', rfl, hrow⟩ := exists_row_of_char hother hread
                refine iff_of_false (fun heq => hrow (Option.some.inj heq).symm) fun hfits => ?_
                have hnone : isCrnl c = true := by
                  rcases hfits rfl with heq | heq | heq
                  · rw [(List.cons.inj heq).1]
                    rfl
                  · rw [(List.cons.inj heq).1]
                    rfl
                  · cases (List.cons.inj heq).2
                rw [hnone] at hother
                cases hother

theorem count_joined : ∀ {lines : List (Str × Str)}, lines ≠ [] →
    (∀ l ∈ lines, ∀ c ∈ l.1, isBreak c = false) →
      (rejoined lines).count '\n' + 1 = lines.length
  | [], hne, _ => absurd rfl hne
  | [l], _, h => by
      have hnone : '\n' ∉ l.1 := fun hc => by cases h l List.mem_cons_self _ hc
      rw [joined_singleton, List.count_eq_zero_of_not_mem hnone]
      rfl
  | l :: l' :: lines, _, h => by
      have hnone : '\n' ∉ l.1 := fun hc => by cases h l List.mem_cons_self _ hc
      have ih := count_joined (List.cons_ne_nil l' lines) fun x hx =>
        h x (List.mem_cons_of_mem _ hx)
      rw [joined_cons _ (List.cons_ne_nil l' lines), List.count_append,
        List.count_eq_zero_of_not_mem hnone, List.count_cons_self, List.length_cons, ← ih]
      omega

end Py
