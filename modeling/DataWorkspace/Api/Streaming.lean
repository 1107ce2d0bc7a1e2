import DataWorkspace.Py.Dumps
import DataWorkspace.Py.Utf8
import DataWorkspace.Py.Split

/-!
# The streaming response of the dataset API

`_get_streaming_http_response` writes a table as JSON, piece by piece, and cuts the bytes again
into chunks of one size.  The pieces wait in a queue beside a count of their bytes.

`Progress.Sound` relates the bytes that were fed to the chunks that were yielded and to the
queue.  One piece keeps it (`Progress.Sound.yield_chunks`), and so does the loop over the rows.
-/

namespace Api

open Py

def num_bytes_max : Nat := 49990000

def len_chunk_footer : Nat := 2

def chunk_size : Nat := 16384

/-- `_len_chunk_header`: the number in hexadecimal and a line break. -/
def len_chunk_header (num_chunk_bytes : Nat) : Nat := (Nat.toDigits 16 num_chunk_bytes).length + 2

/-- The variables of the generator. -/
structure Variables where
  queue : List Bytes
  num_bytes_queued : Nat
  num_bytes_sent : Nat
  num_bytes_sent_and_queued : Nat

/-- What the generator does, with its variables right after it. -/
inductive Step where
  /-- A piece joins the queue and is counted. -/
  | fed (row_bytes : Bytes) (after : Variables)
  | yielded (chunk : Bytes) (after : Variables)

namespace Step

def after : Step → Variables
  | fed _ after => after
  | yielded _ after => after

def piece? : Step → Option Bytes
  | fed row_bytes _ => some row_bytes
  | yielded _ _ => none

def chunk? : Step → Option Bytes
  | fed _ _ => none
  | yielded chunk _ => some chunk

end Step

/-- What the generator has done so far. -/
structure Progress where
  steps : List Step
  vars : Variables

namespace Progress

/-- The byte strings that were fed. -/
def fed (p : Progress) : List Bytes := p.steps.filterMap Step.piece?

/-- The chunks that were yielded. -/
def chunks (p : Progress) : List Bytes := p.steps.filterMap Step.chunk?

/-- `queue.append(row_bytes)`, and the counts. -/
def append (p : Progress) (row_bytes : Bytes) : Progress :=
  let after : Variables :=
    { queue := p.vars.queue ++ [row_bytes]
      num_bytes_queued := p.vars.num_bytes_queued + row_bytes.length
      num_bytes_sent := p.vars.num_bytes_sent
      num_bytes_sent_and_queued := p.vars.num_bytes_sent_and_queued + row_bytes.length }
  ⟨p.steps ++ [.fed row_bytes after], after⟩

/-- One round of the loop: a chunk is cut off the queue. -/
def send (p : Progress) : Progress :=
  let to_send_bytes := p.vars.queue.flatten
  let chunk := to_send_bytes.take chunk_size
  let rest := to_send_bytes.drop chunk_size
  let after : Variables :=
    { queue := if rest = [] then [] else [rest]
      num_bytes_queued := rest.length
      num_bytes_sent := p.vars.num_bytes_sent +
        (chunk.length + len_chunk_header chunk.length + len_chunk_footer)
      num_bytes_sent_and_queued := p.vars.num_bytes_sent_and_queued }
  ⟨p.steps ++ [.yielded chunk after], after⟩

theorem flatten_queue_send (p : Progress) :
    p.send.vars.queue.flatten = p.vars.queue.flatten.drop chunk_size := by
  simp only [send]
  split
  next hrest => simp [hrest]
  next => simp

/-- `while num_bytes_queued >= chunk_size`. -/
def send_all (p : Progress) : Progress :=
  if chunk_size ≤ p.vars.num_bytes_queued then p.send.send_all else p
termination_by (p.vars.queue.flatten.length, p.vars.num_bytes_queued)
decreasing_by
  rename_i h
  have hsize : 0 < chunk_size := by decide
  rw [flatten_queue_send, List.length_drop]
  by_cases hempty : p.vars.queue.flatten.length = 0
  · have hafter : p.send.vars.num_bytes_queued = 0 := by
      simp [send, hempty]
    rw [hempty, hafter, Nat.zero_sub]
    exact Prod.Lex.right _ (by omega)
  · exact Prod.Lex.left _ _ (by omega)

def yield_chunks (p : Progress) (row_bytes : Bytes) : Progress := (p.append row_bytes).send_all

/-- `yield_remaining`: what is queued, in one chunk. -/
def yield_remaining (p : Progress) : Progress :=
  if p.vars.queue = [] then p
  else ⟨p.steps ++ [.yielded p.vars.queue.flatten p.vars], p.vars⟩

end Progress

/-! ## The response -/

/-- A value of a row: what `json.dumps` writes for it with `default=str`, and what `format` does. -/
structure Value where
  json : Json
  text : Str

abbrev Row := List Value

def Row.dumps (row : Row) : Bytes := encode (Json.arr (row.map Value.json)).dumps

def search_after (columns primary_key : List Str) (row : Row) : Option (List Str) :=
  primary_key.mapM fun k => do
    let i ← columns.idxOf? k
    let value ← row[i]?
    some value.text

/-- The link to the rows behind a row. -/
def next_url (base_url : Str) (search_after : List Str) : Str :=
  base_url ++ '?' :: join "&" (search_after.map fun k => "$searchAfter=" ++ k)

/-- How the generator ends. -/
inductive End where
  | returned
  | raised

section Response

variable (columns primary_key : List Str) (base_url : Str) (ends : End)

/-- The loop over the rows.  The rows may end in an error of the database. -/
@[grind =]
def yield_rows : Nat → List Row → Progress → Progress × End
  | _, [], p =>
      match ends with
      | .raised => (p, .raised)
      | .returned => ((p.yield_chunks (encode "], \"next\": null\x7d")).yield_remaining, .returned)
  | i, row :: rows, p =>
      let row_bytes := if 0 < i then encode "," ++ row.dumps else row.dumps
      let p := p.yield_chunks row_bytes
      if num_bytes_max < p.vars.num_bytes_sent_and_queued then
        match search_after columns primary_key row with
        | none => (p, .raised)
        | some search_after =>
            ((p.yield_chunks (encode "], \"next\": \"" ++ encode (next_url base_url search_after) ++
              encode "\"\x7d")).yield_remaining, .returned)
      else yield_rows (i + 1) rows p

def start : Progress := ⟨[], ⟨[], 0, 0, 0⟩⟩

/-- `yield_data`. -/
def yield_data (rows : List Row) : Progress × End :=
  yield_rows columns primary_key base_url ends 0 rows
    (((start.yield_chunks (encode "\x7b\"headers\": ")).yield_chunks
      (encode (Json.arr (columns.map Json.str)).dumps)).yield_chunks (encode ", \"values\": ["))

end Response

/-! ## What was fed, yielded and queued -/

namespace Progress

@[simp] theorem fed_append (p : Progress) (row_bytes : Bytes) :
    (p.append row_bytes).fed = p.fed ++ [row_bytes] := by
  simp [fed, append, Step.piece?]

@[simp] theorem chunks_append (p : Progress) (row_bytes : Bytes) :
    (p.append row_bytes).chunks = p.chunks := by
  simp [chunks, append, Step.chunk?]

@[simp] theorem fed_send (p : Progress) : p.send.fed = p.fed := by
  simp [fed, send, Step.piece?]

@[simp] theorem chunks_send (p : Progress) :
    p.send.chunks = p.chunks ++ [p.vars.queue.flatten.take chunk_size] := by
  simp [chunks, send, Step.chunk?]

/-- Between two pieces the bytes that were fed are those of the chunks and those that are queued,
and the chunks are full. -/
structure Sound (p : Progress) : Prop where
  kept : p.fed.flatten = p.chunks.flatten ++ p.vars.queue.flatten
  full : ∀ chunk ∈ p.chunks, chunk.length = chunk_size
  counted : p.vars.num_bytes_queued = p.vars.queue.flatten.length
  steps_counted : ∀ step ∈ p.steps, step.after.num_bytes_queued = step.after.queue.flatten.length
  nonempty : ∀ row_bytes ∈ p.vars.queue, row_bytes ≠ []

theorem Sound.start : Sound start where
  kept := rfl
  full := by simp [Api.start, chunks]
  counted := rfl
  steps_counted := by simp [Api.start]
  nonempty := by simp [Api.start]

theorem Sound.append {p : Progress} (h : p.Sound) {row_bytes : Bytes} (hne : row_bytes ≠ []) :
    (p.append row_bytes).Sound where
  kept := by
    rw [fed_append, chunks_append, List.flatten_append, h.kept]
    simp [Progress.append]
  full := by
    rw [chunks_append]
    exact h.full
  counted := by simp [Progress.append, h.counted]
  steps_counted := by
    intro step hstep
    simp only [Progress.append, List.mem_append, List.mem_singleton] at hstep
    rcases hstep with hstep | rfl
    · exact h.steps_counted step hstep
    · simp [Step.after, h.counted]
  nonempty := by
    intro piece hpiece
    simp only [Progress.append, List.mem_append, List.mem_singleton] at hpiece
    rcases hpiece with hpiece | rfl
    · exact h.nonempty piece hpiece
    · exact hne

theorem Sound.send {p : Progress} (h : p.Sound) (hfull : chunk_size ≤ p.vars.num_bytes_queued) :
    p.send.Sound where
  kept := by
    rw [fed_send, chunks_send, flatten_queue_send, h.kept]
    simp
  full := by
    intro chunk hchunk
    rw [chunks_send, List.mem_append, List.mem_singleton] at hchunk
    rcases hchunk with hchunk | rfl
    · exact h.full chunk hchunk
    · rw [List.length_take, ← h.counted, Nat.min_eq_left hfull]
  counted := by
    rw [flatten_queue_send]
    rfl
  steps_counted := by
    intro step hstep
    simp only [Progress.send, List.mem_append, List.mem_singleton] at hstep
    rcases hstep with hstep | rfl
    · exact h.steps_counted step hstep
    · exact (congrArg List.length (flatten_queue_send p)).symm
  nonempty := by
    intro piece hpiece
    simp only [Progress.send] at hpiece
    split at hpiece
    next => cases hpiece
    next hrest =>
      rw [List.mem_singleton] at hpiece
      rw [hpiece]
      exact hrest

theorem Sound.send_all {p : Progress} (h : p.Sound) : p.send_all.Sound := by
  fun_induction Progress.send_all p with
  | case1 p hfull ih => exact ih (h.send hfull)
  | case2 p hshort => exact h

theorem fed_send_all (p : Progress) : p.send_all.fed = p.fed := by
  fun_induction Progress.send_all p with
  | case1 p hfull ih => rw [ih, fed_send]
  | case2 p hshort => rfl

theorem Sound.yield_chunks {p : Progress} (h : p.Sound) {row_bytes : Bytes}
    (hne : row_bytes ≠ []) : (p.yield_chunks row_bytes).Sound :=
  (h.append hne).send_all

theorem fed_yield_chunks (p : Progress) (row_bytes : Bytes) :
    (p.yield_chunks row_bytes).fed = p.fed ++ [row_bytes] := by
  rw [Progress.yield_chunks, fed_send_all, fed_append]

/-- What holds of the chunks when all bytes are sent. -/
structure Rechunked (p : Progress) : Prop where
  same_bytes : p.chunks.flatten = p.fed.flatten
  full : ∀ chunk ∈ p.chunks.dropLast, chunk.length = chunk_size
  nonempty : ∀ chunk ∈ p.chunks, chunk ≠ []
  counted : ∀ step ∈ p.steps, step.after.num_bytes_queued = step.after.queue.flatten.length

theorem fed_yield_remaining (p : Progress) : p.yield_remaining.fed = p.fed := by
  rw [yield_remaining]
  split
  next => rfl
  next => simp [fed, Step.piece?]

theorem Sound.yield_remaining {p : Progress} (h : p.Sound) : p.yield_remaining.Rechunked := by
  have hchunk : ∀ chunk ∈ p.chunks, chunk ≠ [] := by
    intro chunk hmem hnil
    have hlength := h.full chunk hmem
    rw [hnil] at hlength
    exact absurd hlength (by decide)
  by_cases hempty : p.vars.queue = []
  · rw [Progress.yield_remaining, if_pos hempty]
    refine ⟨?_, fun chunk hmem => h.full chunk (List.mem_of_mem_dropLast hmem), hchunk,
      h.steps_counted⟩
    rw [h.kept, hempty, List.flatten_nil, List.append_nil]
  · rw [Progress.yield_remaining, if_neg hempty]
    have hchunks : (⟨p.steps ++ [.yielded p.vars.queue.flatten p.vars], p.vars⟩ : Progress).chunks =
        p.chunks ++ [p.vars.queue.flatten] := by
      simp [chunks, Step.chunk?]
    have hfed : (⟨p.steps ++ [.yielded p.vars.queue.flatten p.vars], p.vars⟩ : Progress).fed =
        p.fed := by
      simp [fed, Step.piece?]
    constructor
    · rw [hchunks, hfed, h.kept]
      simp
    · rw [hchunks, List.dropLast_concat]
      exact h.full
    · intro chunk hmem
      rw [hchunks, List.mem_append, List.mem_singleton] at hmem
      rcases hmem with hmem | rfl
      · exact hchunk chunk hmem
      · obtain ⟨piece, rest, hqueue⟩ := List.exists_cons_of_ne_nil hempty
        have hpiece := h.nonempty piece (hqueue ▸ List.mem_cons_self)
        simp [hqueue, hpiece]
    · intro step hstep
      simp only [List.mem_append, List.mem_singleton] at hstep
      rcases hstep with hstep | rfl
      · exact h.steps_counted step hstep
      · exact h.counted

end Progress

/-! ## Byte strings that are fed -/

/-- The byte strings that are fed are never empty. -/
abbrev Piece := { row_bytes : Bytes // row_bytes ≠ [] }

/-- The progress when some byte strings have been fed. -/
def feed (pieces : List Piece) : Progress :=
  pieces.foldl (fun p piece => p.yield_chunks piece.val) start

/-- The response for some byte strings. -/
def stream (pieces : List Piece) : Progress := (feed pieces).yield_remaining

theorem feed_concat (pieces : List Piece) (piece : Piece) :
    feed (pieces ++ [piece]) = (feed pieces).yield_chunks piece.val := by
  simp [feed]

theorem sound_feed (pieces : List Piece) : (feed pieces).Sound := by
  induction pieces using List.reverseRecOn with
  | nil => exact .start
  | append_singleton pieces piece ih =>
      rw [feed_concat]
      exact ih.yield_chunks piece.property

theorem fed_feed (pieces : List Piece) : (feed pieces).fed = pieces.map Subtype.val := by
  induction pieces using List.reverseRecOn with
  | nil => rfl
  | append_singleton pieces piece ih =>
      rw [feed_concat, Progress.fed_yield_chunks, ih, List.map_append]
      rfl

theorem encode_ne_nil {s : Str} (h : s ≠ []) : encode s ≠ [] := by
  obtain ⟨c, rest, rfl⟩ := List.exists_cons_of_ne_nil h
  have hchar : encodeChar c ≠ [] := by
    unfold encodeChar
    simp only
    split_ifs <;> simp
  simp [encode, hchar]

theorem Row.dumps_ne_nil (row : Row) : row.dumps ≠ [] :=
  encode_ne_nil (by simp [Json.dumps])

section Response

variable (columns primary_key : List Str) (base_url : Str) (ends : End)

/-- The response for some pieces, or what was made of them when an error ended it. -/
def Fed (out : Progress × End) : Prop :=
  ∃ pieces : List Piece, out = (stream pieces, .returned) ∨ out = (feed pieces, .raised)

theorem fed_yield_rows (rows : List Row) (i : Nat) (pieces : List Piece) :
    Fed (yield_rows columns primary_key base_url ends i rows (feed pieces)) := by
  induction rows generalizing i pieces with
  | nil =>
      cases ends with
      | raised => exact ⟨pieces, .inr rfl⟩
      | returned =>
          let tail : Piece := ⟨encode "], \"next\": null\x7d", encode_ne_nil (by simp)⟩
          refine ⟨pieces ++ [tail], .inl ?_⟩
          rw [stream, feed_concat]
          rfl
  | cons row rows ih =>
      let row_bytes := if 0 < i then encode "," ++ row.dumps else row.dumps
      have hrow : row_bytes ≠ [] := by
        simp only [row_bytes]
        split
        next => simp [row.dumps_ne_nil]
        next => exact row.dumps_ne_nil
      have hfeed : (feed pieces).yield_chunks row_bytes = feed (pieces ++ [⟨row_bytes, hrow⟩]) :=
        (feed_concat pieces ⟨row_bytes, hrow⟩).symm
      rw [yield_rows, show (if 0 < i then encode "," ++ row.dumps else row.dumps) = row_bytes from rfl, hfeed]
      split
      next =>
        cases hkey : search_after columns primary_key row with
        | none => exact ⟨pieces ++ [⟨row_bytes, hrow⟩], .inr rfl⟩
        | some search_after =>
            let tail : Piece := ⟨encode "], \"next\": \"" ++
              encode (next_url base_url search_after) ++ encode "\"\x7d", by
                have hquote : encode "\"\x7d" ≠ [] := encode_ne_nil (by simp)
                exact fun hnil => hquote (List.append_eq_nil_iff.mp hnil).2⟩
            refine ⟨pieces ++ [⟨row_bytes, hrow⟩] ++ [tail], .inl ?_⟩
            rw [stream, feed_concat _ tail]
      next => exact ih _ _

theorem fed_yield_data (rows : List Row) :
    Fed (yield_data columns primary_key base_url ends rows) := by
  let headers : Piece := ⟨encode "\x7b\"headers\": ", encode_ne_nil (by simp)⟩
  let names : Piece := ⟨encode (Json.arr (columns.map Json.str)).dumps,
    encode_ne_nil (by simp [Json.dumps])⟩
  let values : Piece := ⟨encode ", \"values\": [", encode_ne_nil (by simp)⟩
  exact fed_yield_rows columns primary_key base_url ends rows 0 [headers, names, values]

end Response

end Api
