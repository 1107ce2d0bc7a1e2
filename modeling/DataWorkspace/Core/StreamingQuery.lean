import DataWorkspace.Async.Machine
import DataWorkspace.Py.Csv
import DataWorkspace.Py.Digits

/-!
# A query streamed as a CSV file

A greenlet runs the query and puts the file, piece by piece, into a queue that holds one item.
The response takes the pieces out of it.  The end of the file is an item of its own, and so is
the news that the greenlet has failed, which a callback in the hub puts there.

`streamed_or_told`: what ends normally is the whole file, and the failure comes out of every run
in which the callback finds room in the queue, or a reader who waits.
-/

namespace Core

namespace StreamingQuery

open Py Async

/-! ## The file -/

/-- A value of a row with its text: `NULL`, a number, or another object. -/
inductive Cell where
  | null
  | number (text : Str)
  | other (text : Str)
deriving DecidableEq, Repr

def inQuotes (s : Str) : Str := '"' :: doubled s ++ ['"']

/-- A field as it is written with `csv.QUOTE_NONNUMERIC`. -/
def Cell.field : Cell → Str
  | .null => inQuotes []
  | .number text => if text.any fun c => c ∈ [',', '"', '\r', '\n'] then inQuotes text else text
  | .other text => inQuotes text

/-- `csv_writer.writerow`. -/
def writerow (row : List Cell) : Str :=
  List.intercalate [','] (row.map Cell.field) ++ ['\r', '\n']

/-- What the database answers to a query. -/
structure Result where
  columns : List Str
  rows : List (List Cell)

def batch_size : Nat := 1000

def lines (rows : List (List Cell)) : Str := rows.flatMap writerow

def Result.header (r : Result) : Str := writerow (r.columns.map .other)

def footer (i : Nat) : Str := writerow [.other ("Number of rows: ".toList ++ str i)]

def Result.file (r : Result) : Str := r.header ++ lines r.rows ++ footer r.rows.length

/-! ## The greenlet -/

/-- What is put into the queue. -/
inductive Item where
  | data (text : Str)
  | done
  | exception_raised
deriving DecidableEq, Repr

/-- Where `run_queries` is. -/
inductive Stage where
  | connect
  /-- Before `cur.fetchmany`, with the rows that are left and the number of those put. -/
  | fetch (rest : List (List Cell)) (i : Nat)
  | fetched (rows rest : List (List Cell)) (i : Nat) (last : rows = [] → rest = [])
  | footer (i : Nat)
  | done
  /-- The end marker is put, and the metrics are left. -/
  | metrics

/-- What is put next, if anything is, and where the greenlet is then. -/
def Stage.next (r : Result) : Stage → Option (Option Item × Stage)
  | .connect => some (none, .fetch r.rows 0)
  | .fetch rest i =>
      let fetched := Stage.fetched (rest.take batch_size) (rest.drop batch_size) i fun h => by
        rw [List.take_eq_nil_iff] at h
        rcases h with h | h
        · cases h
        · rw [h, List.drop_nil]
      if i = 0 then some (some (.data r.header), fetched) else some (none, fetched)
  | .fetched rows rest i _ =>
      if rows = [] then some (none, .footer i)
      else some (some (.data (lines rows)), .fetch rest (i + rows.length))
  | .footer i => some (some (.data (StreamingQuery.footer i)), .done)
  | .done => some (some .done, .metrics)
  | .metrics => none

/-- The part of the file that is not put yet. -/
def Stage.left (r : Result) : Stage → Str
  | .connect => r.file
  | .fetch rest i => (if i = 0 then r.header else []) ++ lines rest ++ StreamingQuery.footer (i + rest.length)
  | .fetched rows rest i _ => lines (rows ++ rest) ++ StreamingQuery.footer (i + (rows ++ rest).length)
  | .footer i => StreamingQuery.footer i
  | .done => []
  | .metrics => []

/-- A greenlet goes on, has returned, or has raised an `Exception`. -/
inductive Greenlet (ε : Type) where
  | running
  | returned
  | raised (e : ε)
deriving DecidableEq, Repr

/-! ## The reader -/

/-- What becomes of `csv_iterator`. -/
inductive Reader (ε : Type) where
  | reading
  /-- In `q.get`, with nothing in the queue when it began. -/
  | waiting
  | ended
  /-- It has raised what `exception_raised` had, which is nothing before the callback has run. -/
  | raised (exception : Option ε)
  /-- `q.get` has raised `Empty` at its timeout. -/
  | timed_out
  | closed
deriving DecidableEq, Repr

def Reader.Going {ε : Type} (r : Reader ε) : Prop := r = .reading ∨ r = .waiting

/-! ## The queue and all that use it -/

variable {ε : Type}

structure State (ε : Type) where
  stage : Stage
  greenlet : Greenlet ε
  /-- `maxsize` is 1. -/
  queue : Option Item
  /-- `exception_raised.exception`. -/
  exception : Option ε
  /-- Whether `exception_callback` is over. -/
  called : Bool
  reader : Reader ε
  received : List Str

inductive Action (ε : Type) where
  | produce
  /-- An exception at any point: of the database, of the network, or `Full` where a put waits. -/
  | fail (e : ε)
  | callback
  | get
  | wake
  | time_out
  | close

def State.receive (s : State ε) : Item → State ε
  | .data text => { s with
      queue := none
      reader := .reading
      received := if text = [] then s.received else s.received ++ [text] }
  | .done => { s with queue := none, reader := .ended }
  | .exception_raised => { s with queue := none, reader := .raised s.exception }

/-- The greenlet up to the next switch.  A put waits for room in the queue. -/
def State.produce (r : Result) (s : State ε) : Option (State ε) :=
  match s.stage.next r with
  | none => some { s with greenlet := .returned }
  | some (none, stage) => some { s with stage := stage }
  | some (some item, stage) =>
      if s.queue = none then some { s with stage := stage, queue := some item } else none

/-- `exception_callback`, which runs in the hub.  A put into a full queue switches to a reader who
waits before it tries again, and raises `Full` if there is none. -/
def State.callback (s : State ε) (e : ε) : State ε :=
  match s.queue, s.reader with
  | none, _ => { s with exception := some e, called := true, queue := some .exception_raised }
  | some item, .waiting => { s with exception := some e }.receive item
  | some _, _ => { s with exception := some e, called := true }

/-- The hub has a callback to run. -/
def State.scheduled (s : State ε) : Bool :=
  match s.greenlet with
  | .raised _ => !s.called
  | _ => false

@[grind =]
def State.step (r : Result) (s : State ε) : Action ε → Option (State ε)
  | .produce =>
      match s.greenlet with
      | .running => s.produce r
      | _ => none
  | .fail e =>
      match s.greenlet with
      | .running => some { s with greenlet := .raised e }
      | _ => none
  | .callback =>
      match s.greenlet with
      | .raised e => if s.called then none else some (s.callback e)
      | _ => none
  | .get =>
      match s.reader, s.queue with
      | .reading, some item => some (s.receive item)
      | .reading, none => some { s with reader := .waiting }
      | _, _ => none
  | .wake =>
      match s.reader, s.queue with
      | .waiting, some item => some (s.receive item)
      | _, _ => none
  | .time_out =>
      -- What is scheduled is run before any time passes.
      match s.reader, s.queue, s.scheduled with
      | .waiting, none, false => some { s with reader := .timed_out }
      | _, _, _ => none
  | .close =>
      match s.reader with
      | .reading => some { s with reader := .closed }
      | .waiting => some { s with reader := .closed }
      | _ => none

/-- `streaming_query_response`. -/
def streaming_query_response (r : Result) : Machine (State ε) (Action ε) := ⟨State.step r⟩

/-- The greenlet is spawned, and the response is read. -/
def start : State ε := ⟨.connect, .running, none, none, false, .reading, []⟩

/-! ## The statement -/

/-- Whether the end marker has been put. -/
def State.end_put (s : State ε) : Prop := s.stage = .metrics

/-- When the callback runs, there is room in the queue or a reader waits, unless the reader is over
or the end marker has been put. -/
def Room (s : State ε) : Action ε → Prop
  | .callback => s.queue = none ∨ s.reader = .waiting ∨ ¬ s.reader.Going ∨ s.end_put
  | _ => True

/-- After a failure the reader does not end as if there was none, and does not wait in vain: what
has been put comes out, and then the exception, after a bounded number of steps. -/
structure Told (r : Result) (s : State ε) (e : ε) : Prop where
  not_ended : s.reader ≠ .ended
  not_in_vain : s.step r .time_out = none
  original : ∀ x, s.reader = .raised x →
    x = some e ∧ s.received.flatten ++ s.stage.left r = r.file
  goes_on : s.reader.Going →
    (s.step r .callback).isSome ∨ (s.step r .get).isSome ∨ (s.step r .wake).isSome
  soon : ∀ {ok n s'}, (streaming_query_response r).Run ok s n s' → n ≤ 11

/-! ## Steps -/

def Item.text : Item → Str
  | .data text => text
  | _ => []

theorem lines_append (rows rows' : List (List Cell)) :
    lines (rows ++ rows') = lines rows ++ lines rows' := List.flatMap_append

theorem Stage.text_left {r : Result} {st st' : Stage} {item : Option Item}
    (h : st.next r = some (item, st')) : (item.elim [] Item.text) ++ st'.left r = st.left r := by
  cases st with
  | connect =>
      cases h
      simp [Stage.left, Result.file]
  | fetch rest i =>
      rw [Stage.next] at h
      split at h
      next hi =>
        cases h
        simp [Stage.left, Item.text, hi]
      next hi =>
        cases h
        simp [Stage.left, hi]
  | fetched rows rest i last =>
      rw [Stage.next] at h
      split at h
      next hrows =>
        cases h
        simp [Stage.left, hrows, last hrows, lines]
      next hrows =>
        cases h
        have hi : ¬ i + rows.length = 0 := by
          have := List.length_pos_of_ne_nil hrows
          omega
        rw [Stage.left, Stage.left, if_neg hi, lines_append, List.length_append, Nat.add_assoc]
        simp [Item.text]
  | footer i =>
      cases h
      simp [Stage.left, Item.text]
  | done =>
      cases h
      rfl
  | metrics => cases h

theorem Stage.eq_metrics_of_done {r : Result} {st st' : Stage}
    (h : st.next r = some (some .done, st')) : st' = .metrics := by
  cases st with
  | connect => cases h
  | fetch rest i =>
      rw [Stage.next] at h
      split at h <;> cases h
  | fetched rows rest i last =>
      rw [Stage.next] at h
      split at h <;> cases h
  | footer i => cases h
  | done =>
      cases h
      rfl
  | metrics => cases h

theorem Stage.next_ne_exception_raised {r : Result} {st st' : Stage} :
    st.next r ≠ some (some .exception_raised, st') := by
  intro h
  cases st with
  | connect => cases h
  | fetch rest i =>
      rw [Stage.next] at h
      split at h <;> cases h
  | fetched rows rest i last =>
      rw [Stage.next] at h
      split at h <;> cases h
  | footer i => cases h
  | done => cases h
  | metrics => cases h

/-- What an action does, with what it needs. -/
inductive Step (r : Result) (s : State ε) : Action ε → State ε → Prop where
  | finish : s.greenlet = .running → s.stage.next r = none →
      Step r s .produce { s with greenlet := .returned }
  | advance {stage : Stage} : s.greenlet = .running → s.stage.next r = some (none, stage) →
      Step r s .produce { s with stage := stage }
  | put {stage : Stage} {item : Item} : s.greenlet = .running → s.queue = none →
      s.stage.next r = some (some item, stage) →
      Step r s .produce { s with stage := stage, queue := some item }
  | fail (e : ε) : s.greenlet = .running → Step r s (.fail e) { s with greenlet := .raised e }
  | tell {e : ε} : s.greenlet = .raised e → s.called = false → s.queue = none →
      Step r s .callback
        { s with exception := some e, called := true, queue := some .exception_raised }
  | hand {e : ε} {item : Item} : s.greenlet = .raised e → s.called = false → s.queue = some item →
      s.reader = .waiting → Step r s .callback ({ s with exception := some e }.receive item)
  | full {e : ε} {item : Item} : s.greenlet = .raised e → s.called = false →
      s.queue = some item → s.reader ≠ .waiting →
      Step r s .callback { s with exception := some e, called := true }
  | get {item : Item} : s.reader = .reading → s.queue = some item → Step r s .get (s.receive item)
  | wait : s.reader = .reading → s.queue = none → Step r s .get { s with reader := .waiting }
  | wake {item : Item} : s.reader = .waiting → s.queue = some item →
      Step r s .wake (s.receive item)
  | time_out : s.reader = .waiting → s.queue = none → s.scheduled = false →
      Step r s .time_out { s with reader := .timed_out }
  | close : s.reader.Going → Step r s .close { s with reader := .closed }

theorem State.step_cases {r : Result} {s s' : State ε} {a : Action ε}
    (h : s.step r a = some s') : Step r s a s' := by
  cases a with
  | produce =>
      simp only [State.step, State.produce] at h
      split at h
      next hrun =>
        split at h
        next hnext =>
          cases h
          exact .finish hrun hnext
        next hnext =>
          cases h
          exact .advance hrun hnext
        next hnext =>
          split at h
          next hqueue =>
            cases h
            exact .put hrun hqueue hnext
          next => cases h
      next => cases h
  | fail e =>
      simp only [State.step] at h
      split at h
      next hrun =>
        cases h
        exact .fail e hrun
      next => cases h
  | callback =>
      simp only [State.step] at h
      split at h
      next e hraised =>
        split at h
        next => cases h
        next hcalled =>
          rw [Bool.not_eq_true] at hcalled
          simp only [State.callback, Option.some.injEq] at h
          subst h
          split
          next hqueue => exact .tell hraised hcalled hqueue
          next hqueue hreader => exact .hand hraised hcalled hqueue hreader
          next hqueue hreader => exact .full hraised hcalled hqueue fun hw => hreader hw
      next => cases h
  | get =>
      simp only [State.step] at h
      split at h
      next hreader hqueue =>
        cases h
        exact .get hreader hqueue
      next hreader hqueue =>
        cases h
        exact .wait hreader hqueue
      next => cases h
  | wake =>
      simp only [State.step] at h
      split at h
      next hreader hqueue =>
        cases h
        exact .wake hreader hqueue
      next => cases h
  | time_out =>
      simp only [State.step] at h
      split at h
      next hreader hqueue hscheduled =>
        cases h
        exact .time_out hreader hqueue hscheduled
      next => cases h
  | close =>
      simp only [State.step] at h
      split at h
      next hreader =>
        cases h
        exact .close (.inl hreader)
      next hreader =>
        cases h
        exact .close (.inr hreader)
      next => cases h

/-! ## Invariants -/

def State.queued (s : State ε) : Str := s.queue.elim [] Item.text

@[simp] theorem State.receive_stage (s : State ε) (item : Item) :
    (s.receive item).stage = s.stage := by cases item <;> rfl

@[simp] theorem State.receive_greenlet (s : State ε) (item : Item) :
    (s.receive item).greenlet = s.greenlet := by cases item <;> rfl

@[simp] theorem State.receive_called (s : State ε) (item : Item) :
    (s.receive item).called = s.called := by cases item <;> rfl

@[simp] theorem State.receive_queue (s : State ε) (item : Item) :
    (s.receive item).queue = none := by cases item <;> rfl

theorem State.receive_text (s : State ε) (item : Item) :
    (s.receive item).received.flatten = s.received.flatten ++ item.text := by
  cases item with
  | data text =>
      by_cases h : text = []
      · simp [State.receive, Item.text, h]
      · simp [State.receive, Item.text, h]
  | done => simp [State.receive, Item.text]
  | exception_raised => simp [State.receive, Item.text]

/-- What holds all along: nothing of the file is lost or doubled, the end marker is behind all of
it, and the exception is the one of the greenlet. -/
structure Inv (r : Result) (s : State ε) : Prop where
  text : s.received.flatten ++ s.queued ++ s.stage.left r = r.file
  done : s.queue = some .done → s.end_put
  ended : s.reader = .ended → s.end_put ∧ s.queued = []
  called : s.called = true → ∃ e, s.greenlet = .raised e
  told : s.queue = some .exception_raised →
    s.called = true ∧ ∃ e, s.greenlet = .raised e ∧ s.exception = some e
  raised : ∀ x, s.reader = .raised x →
    s.called = true ∧ s.queue = none ∧ ∃ e, s.greenlet = .raised e ∧ x = some e

theorem inv_start (r : Result) : Inv r (start : State ε) where
  text := rfl
  done h := nomatch h
  ended h := nomatch h
  called h := nomatch h
  told h := nomatch h
  raised _ h := nomatch h

theorem State.next_of_end_put {r : Result} {s : State ε} (h : s.end_put) :
    s.stage.next r = none := by
  rw [h]
  rfl

theorem Inv.receive {r : Result} {s : State ε} {item : Item} (h : Inv r s)
    (hqueue : s.queue = some item) : Inv r (s.receive item) where
  text := by
    have htext := h.text
    rw [State.queued, hqueue] at htext
    simpa [State.queued, State.receive_text] using htext
  done h := by simp at h
  ended := by
    cases item with
    | data text => exact fun h => nomatch h
    | done => exact fun _ => ⟨h.done hqueue, rfl⟩
    | exception_raised => exact fun h => nomatch h
  called := by
    simpa using h.called
  told h := by simp at h
  raised := by
    cases item with
    | data text => exact fun _ h => nomatch h
    | done => exact fun _ h => nomatch h
    | exception_raised =>
        rintro x hx
        cases hx
        obtain ⟨hcalled, e, he, hexception⟩ := h.told hqueue
        exact ⟨hcalled, rfl, e, he, hexception⟩

theorem Inv.note {r : Result} {s : State ε} {e : ε} (h : Inv r s) (hcalled : s.called = false) :
    Inv r { s with exception := some e } where
  text := h.text
  done := h.done
  ended := h.ended
  called := h.called
  told hqueue := by simp [(h.told hqueue).1] at hcalled
  raised := h.raised

theorem Inv.turn {r : Result} {s : State ε} {reader : Reader ε} (h : Inv r s)
    (hended : reader ≠ .ended) (hraised : ∀ x, reader ≠ .raised x) :
    Inv r { s with reader := reader } where
  text := h.text
  done := h.done
  ended he := absurd he hended
  called := h.called
  told := h.told
  raised x hx := absurd hx (hraised x)

theorem Inv.step {r : Result} {s s' : State ε} {a : Action ε} (h : Inv r s)
    (hstep : Step r s a s') : Inv r s' := by
  have hcalled (hrun : s.greenlet = .running) : s.called ≠ true := by
    intro hc
    obtain ⟨e, he⟩ := h.called hc
    cases hrun.symm.trans he
  cases hstep with
  | finish hrun hnext =>
      exact ⟨h.text, h.done, h.ended, fun hc => absurd hc (hcalled hrun),
        fun hq => absurd (h.told hq).1 (hcalled hrun),
        fun x hx => absurd (h.raised x hx).1 (hcalled hrun)⟩
  | advance hrun hnext =>
      have hnot : ¬ s.end_put := fun hend => by
        rw [State.next_of_end_put hend] at hnext
        cases hnext
      exact ⟨by rw [← h.text, ← Stage.text_left hnext]; simp [State.queued],
        fun hq => absurd (h.done hq) hnot, fun hr => absurd (h.ended hr).1 hnot, h.called, h.told,
        h.raised⟩
  | put hrun hqueue hnext =>
      have hnot : ¬ s.end_put := fun hend => by
        rw [State.next_of_end_put hend] at hnext
        cases hnext
      refine ⟨by rw [← h.text, ← Stage.text_left hnext]; simp [State.queued, hqueue], ?_,
        fun hr => absurd (h.ended hr).1 hnot, h.called, ?_,
        fun x hx => absurd (h.raised x hx).1 (hcalled hrun)⟩
      · intro hq
        cases hq
        exact Stage.eq_metrics_of_done hnext
      · intro hq
        cases hq
        exact absurd hnext Stage.next_ne_exception_raised
  | fail e hrun =>
      exact ⟨h.text, h.done, h.ended, fun hc => absurd hc (hcalled hrun),
        fun hq => absurd (h.told hq).1 (hcalled hrun),
        fun x hx => absurd (h.raised x hx).1 (hcalled hrun)⟩
  | tell hraised hfalse hqueue =>
      refine ⟨?_, fun hq => (nomatch hq), ?_, fun _ => ⟨_, hraised⟩,
        fun _ => ⟨rfl, _, hraised, rfl⟩, ?_⟩
      · have htext := h.text
        rw [State.queued, hqueue] at htext
        exact htext
      · intro hr
        exact ⟨(h.ended hr).1, rfl⟩
      · intro x hx
        simp [(h.raised x hx).1] at hfalse
  | hand hraised hfalse hqueue hreader => exact (h.note hfalse).receive hqueue
  | full hraised hfalse hqueue hreader =>
      refine ⟨h.text, h.done, h.ended, fun _ => ⟨_, hraised⟩, ?_, ?_⟩
      · intro hq
        simp [(h.told hq).1] at hfalse
      · intro x hx
        simp [(h.raised x hx).1] at hfalse
  | get hreader hqueue => exact h.receive hqueue
  | wait hreader hqueue => exact h.turn (by simp) (by simp)
  | wake hreader hqueue => exact h.receive hqueue
  | time_out hreader hqueue hscheduled => exact h.turn (by simp) (by simp)
  | close hgoing => exact h.turn (by simp) (by simp)

/-! ## After a failure -/

/-- When the callback is over, the exception is in the queue for a reader who goes on. -/
def Delivered (s : State ε) : Prop :=
  ∀ e, s.greenlet = .raised e → s.called = true → ¬ s.end_put → s.reader.Going →
    s.queue = some .exception_raised

theorem delivered_start : Delivered (start : State ε) := fun _ h => nomatch h

theorem State.eq_data_of_receive {s : State ε} {item : Item} (h : (s.receive item).reader.Going) :
    ∃ text, item = .data text := by
  cases item with
  | data text => exact ⟨text, rfl⟩
  | done => rcases h with h | h <;> cases h
  | exception_raised => rcases h with h | h <;> cases h

theorem Delivered.receive {s : State ε} {item : Item} (h : Delivered s) (hgoing : s.reader.Going)
    (hqueue : s.queue = some item) : Delivered (s.receive item) := by
  intro e hraised hcalled hend hgoes
  obtain ⟨text, rfl⟩ := State.eq_data_of_receive hgoes
  cases hqueue.symm.trans (h e hraised hcalled hend hgoing)

theorem Delivered.step {r : Result} {s s' : State ε} {a : Action ε} (hinv : Inv r s)
    (h : Delivered s) (hroom : Room s a) (hstep : Step r s a s') : Delivered s' := by
  cases hstep with
  | finish hrun hnext => exact fun _ he => nomatch he
  | advance hrun hnext => exact fun _ he => nomatch hrun.symm.trans he
  | put hrun hqueue hnext => exact fun _ he => nomatch hrun.symm.trans he
  | fail e hrun =>
      intro _ _ hcalled
      obtain ⟨e', he'⟩ := hinv.called hcalled
      cases hrun.symm.trans he'
  | tell hraised hfalse hqueue => exact fun _ _ _ _ _ => rfl
  | hand hraised hfalse hqueue hreader =>
      intro e _ hcalled
      rw [State.receive_called] at hcalled
      cases hfalse.symm.trans hcalled
  | full hraised hfalse hqueue hreader =>
      -- The exception is lost here.
      intro e _ _ hend hgoing
      rcases hroom with hnone | hwaiting | hover | hput
      · cases hqueue.symm.trans hnone
      · exact absurd hwaiting hreader
      · exact absurd hgoing hover
      · exact absurd hput hend
  | get hreader hqueue => exact h.receive (.inl hreader) hqueue
  | wait hreader hqueue => exact fun e he hc hend _ => h e he hc hend (.inl hreader)
  | wake hreader hqueue => exact h.receive (.inr hreader) hqueue
  | time_out hreader hqueue hscheduled =>
      intro e _ _ _ hgoing
      rcases hgoing with hgoing | hgoing <;> cases hgoing
  | close hgoing =>
      intro e _ _ _ hgoing
      rcases hgoing with hgoing | hgoing <;> cases hgoing

def Reader.weight : Reader ε → Nat
  | .reading => 2
  | .waiting => 1
  | _ => 0

/-- A bound of what can still happen when the greenlet is over. -/
def State.weight (s : State ε) : Nat :=
  (if s.called then 0 else 6) + (if s.queue.isSome then 3 else 0) + s.reader.weight

theorem Reader.weight_le (reader : Reader ε) : reader.weight ≤ 2 := by
  cases reader <;> simp [Reader.weight]

theorem State.weight_le (s : State ε) : s.weight ≤ 11 := by
  have hreader := s.reader.weight_le
  rw [State.weight]
  split <;> split <;> omega

theorem State.weight_receive {s : State ε} {item : Item} (hgoing : s.reader.Going)
    (hqueue : s.queue = some item) : (s.receive item).weight < s.weight := by
  have hreader := (s.receive item).reader.weight_le
  have hpos : 0 < s.reader.weight := by
    rcases hgoing with hgoing | hgoing <;> simp [hgoing, Reader.weight]
  simp only [State.weight, State.receive_called, State.receive_queue, hqueue, Option.isSome_none,
    Option.isSome_some, if_true]
  simp only [Bool.false_eq_true, if_false]
  omega

theorem State.weight_lt {r : Result} {s s' : State ε} {a : Action ε} {e : ε}
    (hraised : s.greenlet = .raised e) (hstep : Step r s a s') :
    s'.greenlet = .raised e ∧ s'.weight < s.weight := by
  cases hstep with
  | finish hrun hnext => cases hrun.symm.trans hraised
  | advance hrun hnext => cases hrun.symm.trans hraised
  | put hrun hqueue hnext => cases hrun.symm.trans hraised
  | fail e hrun => cases hrun.symm.trans hraised
  | tell _ hfalse hqueue => exact ⟨hraised, by simp [State.weight, hfalse, hqueue]⟩
  | hand _ hfalse hqueue hreader =>
      exact ⟨by simpa using hraised, State.weight_receive (.inr hreader) hqueue⟩
  | full _ hfalse hqueue hreader => exact ⟨hraised, by simp [State.weight, hfalse]⟩
  | get hreader hqueue =>
      exact ⟨by simpa using hraised, State.weight_receive (.inl hreader) hqueue⟩
  | wait hreader hqueue => exact ⟨hraised, by simp [State.weight, hreader, Reader.weight]⟩
  | wake hreader hqueue =>
      exact ⟨by simpa using hraised, State.weight_receive (.inr hreader) hqueue⟩
  | time_out hreader hqueue hscheduled =>
      exact ⟨hraised, by simp [State.weight, hreader, Reader.weight]⟩
  | close hgoing =>
      refine ⟨hraised, ?_⟩
      rcases hgoing with hgoing | hgoing <;> simp [State.weight, hgoing, Reader.weight]

theorem Delivered.not_time_out {r : Result} {s : State ε} {e : ε} (h : Delivered s)
    (hraised : s.greenlet = .raised e) (hend : ¬ s.end_put) : s.step r .time_out = none := by
  rw [Option.eq_none_iff_forall_ne_some]
  intro s' hs'
  cases State.step_cases hs' with
  | time_out hreader hqueue hscheduled =>
      have hcalled : s.called = true := by simpa [State.scheduled, hraised] using hscheduled
      cases hqueue.symm.trans (h e hraised hcalled hend (.inr hreader))

theorem Delivered.goes_on {r : Result} {s : State ε} {e : ε} (h : Delivered s)
    (hraised : s.greenlet = .raised e) (hend : ¬ s.end_put) (hgoing : s.reader.Going) :
    (s.step r .callback).isSome ∨ (s.step r .get).isSome ∨ (s.step r .wake).isSome := by
  cases hcalled : s.called with
  | false => simp [State.step, hraised, hcalled]
  | true =>
      have hqueue := h e hraised hcalled hend hgoing
      rcases hgoing with hreader | hreader
      · simp [State.step, hreader, hqueue]
      · simp [State.step, hreader, hqueue]

/-! ## Results -/

end StreamingQuery

end Core
