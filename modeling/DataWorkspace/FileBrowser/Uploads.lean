import DataWorkspace.Async.Machine
import DataWorkspace.FileBrowser.Listing
import Mathlib.Algebra.BigOperators.Group.List.Basic
import Mathlib.Algebra.GroupWithZero.Nat

/-!
# Uploading files

Each file is a task.  At most as many workers as may run take tasks off one list, and between any
two steps of a worker others may come in, uploads may finish or fail, and the dialog may be closed.

`Sound` is the invariant of all steps, from `uploadFiles` on.  There is a bound on the steps of an
upload (`actions_le`), and at its end every file is settled and the listing is reloaded once.
-/

namespace FileBrowser

namespace Uploads

open Py Async

/-! ## What the code does -/

structure File where
  relativePath : Str
  type : Str
deriving DecidableEq

/-- What the dialog is opened with. -/
structure Model where
  bucket : Str
  currentPrefix : Str
  files : List File

def maxConnections : Nat := 4

def Model.concurrentFiles (model : Model) : Nat := min maxConnections model.files.length

def Model.connectionsPerFile (model : Model) : Nat := maxConnections / model.concurrentFiles

/-- An upload that has been started, and whether it was aborted. -/
structure Upload where
  Bucket : Str
  Key : Key
  ContentType : Str
  Body : File
  queueSize : Nat
  aborted : Bool
deriving DecidableEq

/-- What a worker waits for: an upload, the rest of its task when that is settled, or the next
task. -/
inductive Worker where
  | uploading (file : File)
  | settled (file : File) (err : Option Failure)
  | ready

structure State where
  tasks : List File
  running : Nat
  workers : List Worker
  remaining : Nat
  aborted : Bool
  uploads : List Upload
  /-- `file.error`. -/
  errors : List (File × Str)
  /-- How often `reload-object-list` was broadcast. -/
  reloads : Nat

/-- The end of a task. -/
def State.finish (s : State) : State :=
  let s := { s with remaining := s.remaining - 1 }
  if s.remaining = 0 then { s with reloads := s.reloads + 1 } else s

variable (model : Model)

/-- `s3.upload`. -/
def Model.upload (file : File) : Upload where
  Bucket := model.bucket
  Key := model.currentPrefix ++ file.relativePath
  ContentType := file.type
  Body := file
  queueSize := model.connectionsPerFile
  aborted := false

/-- A task, up to where it waits. -/
def State.task (file : File) (s : State) : Worker × State :=
  if s.aborted = false then
    (.uploading file, { s with uploads := s.uploads ++ [model.upload file] })
  else (.ready, s.finish)

/-- The loop of a worker, up to where it waits. -/
def State.loop (s : State) : Option Worker × State :=
  match s.tasks with
  | [] => (none, { s with running := s.running - 1 })
  | file :: tasks =>
      let (worker, s) := { s with tasks := tasks }.task model file
      (some worker, s)

/-- `queue`. -/
def State.run (s : State) (file : File) : State :=
  let s := { s with tasks := s.tasks ++ [file] }
  if model.concurrentFiles ≤ s.running then s
  else
    let (worker, s) := { s with running := s.running + 1 }.loop model
    { s with workers := s.workers ++ worker.toList }

/-- The dialog as it is opened. -/
def Model.opened : State where
  tasks := []
  running := 0
  workers := []
  remaining := model.files.length
  aborted := false
  uploads := []
  errors := []
  reloads := 0

def Model.uploadFiles : State := model.files.foldl (State.run model) model.opened

/-- What can happen then: an upload is settled, with or without an error, a task goes on, a worker
goes on, or the dialog is closed. -/
inductive Action where
  | settle (worker : Nat) (err : Option Failure)
  | resume (worker : Nat)
  | turn (worker : Nat)
  | close

def State.replace (s : State) (i : Nat) (worker : Option Worker) : State :=
  { s with workers := s.workers.take i ++ worker.toList ++ s.workers.drop (i + 1) }

/-- `file.error`, unless the upload was aborted. -/
def State.report (s : State) (file : File) : Option Failure → State
  | some err => if s.aborted then s else { s with errors := s.errors ++ [(file, err.shown)] }
  | none => s

def State.close (s : State) : State :=
  { s with
    aborted := true
    uploads := s.uploads.map fun upload => { upload with aborted := true } }

def State.step (s : State) : Action → Option State
  | .settle i err =>
      match s.workers[i]? with
      | some (.uploading file) => some (s.replace i (some (.settled file err)))
      | _ => none
  | .resume i =>
      match s.workers[i]? with
      | some (.settled file err) => some ((s.report file err).finish.replace i (some .ready))
      | _ => none
  | .turn i =>
      match s.workers[i]? with
      | some .ready =>
          let (worker, s) := s.loop model
          some (s.replace i worker)
      | _ => none
  | .close => some s.close

def Model.machine : Machine State Action := ⟨State.step model⟩

/-! ## The invariant -/

/-- Whether the worker has a task that is not over. -/
def Worker.busy : Worker → Nat
  | .uploading _ => 1
  | .settled _ _ => 1
  | .ready => 0

/-- How many files are being uploaded. -/
def State.inProgress (s : State) : Nat := (s.workers.map Worker.busy).sum

/-- The state in between, when some files have not been given to the queue yet. -/
structure Sound (todo : List File) (s : State) : Prop where
  running : s.running = s.workers.length
  limit : s.workers.length ≤ model.concurrentFiles
  drained : s.tasks = [] ∨ s.workers.length = model.concurrentFiles
  counted : s.remaining = s.tasks.length + s.inProgress + todo.length
  order : ∃ skipped, s.uploads.map Upload.Body ++ skipped ++ (s.tasks ++ todo) = model.files ∧
    (s.aborted = false → skipped = [])
  stopped : s.aborted = true → ∀ upload ∈ s.uploads, upload.aborted = true
  reload : s.reloads = if s.remaining = 0 then 1 else 0

variable {model} {s s' : State}

/-! ## What a step does -/

/-- The steps, each with what it changes. -/
inductive Moved (model : Model) (s : State) : Action → State → Prop
  | settle {i : Nat} {file : File} {err : Option Failure} {before behind : List Worker} :
      s.workers = before ++ .uploading file :: behind →
      Moved model s (.settle i err) { s with workers := before ++ .settled file err :: behind }
  | resume {i : Nat} {file : File} {err : Option Failure} {errors : List (File × Str)}
      {before behind : List Worker} : s.workers = before ++ .settled file err :: behind →
      Moved model s (.resume i)
        { s with
          workers := before ++ .ready :: behind
          remaining := s.remaining - 1
          errors := errors
          reloads := if s.remaining - 1 = 0 then s.reloads + 1 else s.reloads }
  | start {i : Nat} {file : File} {tasks : List File} {before behind : List Worker} :
      s.workers = before ++ .ready :: behind → s.tasks = file :: tasks → s.aborted = false →
      Moved model s (.turn i)
        { s with
          tasks := tasks
          workers := before ++ .uploading file :: behind
          uploads := s.uploads ++ [model.upload file] }
  | skip {i : Nat} {file : File} {tasks : List File} {before behind : List Worker} :
      s.workers = before ++ .ready :: behind → s.tasks = file :: tasks → s.aborted = true →
      Moved model s (.turn i)
        { s with
          tasks := tasks
          remaining := s.remaining - 1
          reloads := if s.remaining - 1 = 0 then s.reloads + 1 else s.reloads }
  | leave {i : Nat} {before behind : List Worker} : s.workers = before ++ .ready :: behind →
      s.tasks = [] →
      Moved model s (.turn i) { s with workers := before ++ behind, running := s.running - 1 }
  | close : Moved model s .close s.close

theorem finish_eq (s : State) : s.finish =
    { s with
      remaining := s.remaining - 1
      reloads := if s.remaining - 1 = 0 then s.reloads + 1 else s.reloads } := by
  have hcase : s.remaining - 1 = 0 ∨ s.remaining - 1 ≠ 0 := eq_or_ne _ _
  rcases hcase with h | h
  · simp [State.finish, h]
  · simp [State.finish, h]

theorem report_eq (s : State) (file : File) (err : Option Failure) :
    ∃ errors, s.report file err = { s with errors := errors } := by
  cases err with
  | none => exact ⟨_, rfl⟩
  | some err =>
      rw [State.report]
      split
      next => exact ⟨_, rfl⟩
      next => exact ⟨_, rfl⟩

theorem workers_eq {i : Nat} {worker : Worker} (h : s.workers[i]? = some worker) :
    s.workers = s.workers.take i ++ worker :: s.workers.drop (i + 1) := by
  obtain ⟨hi, rfl⟩ := List.getElem?_eq_some_iff.mp h
  rw [← List.drop_eq_getElem_cons hi, List.take_append_drop]

theorem loop_nil (h : s.tasks = []) :
    s.loop model = (none, { s with running := s.running - 1 }) := by
  rw [State.loop, h]

theorem loop_start {file : File} {tasks : List File} (h : s.tasks = file :: tasks)
    (haborted : s.aborted = false) : s.loop model =
      (some (.uploading file),
        { s with tasks := tasks, uploads := s.uploads ++ [model.upload file] }) := by
  rw [State.loop, h]
  dsimp only
  rw [State.task, if_pos haborted]

theorem loop_skip {file : File} {tasks : List File} (h : s.tasks = file :: tasks)
    (haborted : s.aborted = true) : s.loop model =
      (some .ready,
        { s with
          tasks := tasks
          remaining := s.remaining - 1
          reloads := if s.remaining - 1 = 0 then s.reloads + 1 else s.reloads }) := by
  rw [State.loop, h]
  dsimp only
  rw [State.task, if_neg (by simp [haborted]), finish_eq]

theorem run_wait {file : File} (h : model.concurrentFiles ≤ s.running) :
    s.run model file = { s with tasks := s.tasks ++ [file] } := if_pos h

theorem run_start {file : File} (h : ¬ model.concurrentFiles ≤ s.running) (htasks : s.tasks = [])
    (haborted : s.aborted = false) : s.run model file =
      { s with
        running := s.running + 1
        workers := s.workers ++ [.uploading file]
        uploads := s.uploads ++ [model.upload file] } := by
  rw [State.run, if_neg h]
  simp [htasks, State.loop, State.task, haborted]

theorem moved_of_step {a : Action} (h : s.step model a = some s') : Moved model s a s' := by
  cases a with
  | settle i err =>
      rw [State.step] at h
      split at h
      next file hworker =>
          cases h
          rw [State.replace, Option.toList_some, List.append_assoc, List.singleton_append]
          exact .settle (workers_eq hworker)
      next => cases h
  | resume i =>
      rw [State.step] at h
      split at h
      next file err hworker =>
          cases h
          obtain ⟨errors, hreport⟩ := report_eq s file err
          rw [hreport, finish_eq, State.replace, Option.toList_some, List.append_assoc,
            List.singleton_append]
          exact .resume (workers_eq hworker)
      next => cases h
  | turn i =>
      rw [State.step] at h
      split at h
      next hworker =>
          have hworkers := workers_eq hworker
          cases htasks : s.tasks with
          | nil =>
              rw [loop_nil htasks] at h
              cases h
              rw [State.replace, Option.toList_none, List.append_nil]
              exact .leave hworkers htasks
          | cons file tasks =>
              cases haborted : s.aborted with
              | false =>
                  rw [loop_start htasks haborted] at h
                  cases h
                  rw [State.replace, Option.toList_some, List.append_assoc, List.singleton_append]
                  exact .start hworkers htasks haborted
              | true =>
                  rw [loop_skip htasks haborted] at h
                  cases h
                  rw [State.replace, Option.toList_some, List.append_assoc, List.singleton_append]
                  dsimp only
                  rw [← hworkers]
                  exact .skip hworkers htasks haborted
      next => cases h
  | close =>
      cases h
      exact .close

/-! ## The invariant holds -/

section Invariant

variable {todo : List File}

theorem inProgress_of_workers {before behind : List Worker} {worker : Worker}
    (h : s.workers = before ++ worker :: behind) : s.inProgress =
      (before.map Worker.busy).sum + (worker.busy + (behind.map Worker.busy).sum) := by
  simp [State.inProgress, h]

theorem Sound.moved {a : Action} (hs : Sound model [] s) (h : Moved model s a s') :
    Sound model [] s' := by
  obtain ⟨hrunning, hlimit, hdrained, hcounted, ⟨skipped, horder, hskipped⟩, hstopped,
    hreload⟩ := hs
  cases h with
  | @settle i file err before behind hworkers =>
      rw [inProgress_of_workers hworkers] at hcounted
      rw [hworkers] at hrunning hlimit hdrained
      constructor
      · simpa using hrunning
      · simpa using hlimit
      · simpa using hdrained
      · simpa [State.inProgress, Worker.busy] using hcounted
      · exact ⟨skipped, horder, hskipped⟩
      · exact hstopped
      · exact hreload
  | @resume i file err errors before behind hworkers =>
      rw [inProgress_of_workers hworkers, Worker.busy] at hcounted
      rw [hworkers] at hrunning hlimit hdrained
      rw [if_neg (by omega)] at hreload
      constructor
      · simpa using hrunning
      · simpa using hlimit
      · simpa using hdrained
      · simp only [State.inProgress, List.map_append, List.map_cons, List.sum_append, List.sum_cons,
          Worker.busy]
        omega
      · exact ⟨skipped, horder, hskipped⟩
      · exact hstopped
      · simp [hreload]
  | @start i file tasks before behind hworkers htasks haborted =>
      obtain rfl := hskipped haborted
      rw [inProgress_of_workers hworkers, Worker.busy, htasks] at hcounted
      rw [hworkers] at hrunning hlimit hdrained
      rw [htasks] at horder hdrained
      constructor
      · simpa using hrunning
      · simpa using hlimit
      · exact .inr (by simpa using hdrained)
      · simp only [State.inProgress, List.map_append, List.map_cons, List.sum_append, List.sum_cons,
          Worker.busy, List.length_cons, List.length_nil] at hcounted ⊢
        omega
      · exact ⟨[], by simpa [Model.upload] using horder, fun _ => rfl⟩
      · intro htrue
        rw [haborted] at htrue
        cases htrue
      · exact hreload
  | @skip i file tasks before behind hworkers htasks haborted =>
      rw [htasks] at hcounted horder hdrained
      rw [if_neg (by rw [hcounted, List.length_cons]; omega)] at hreload
      constructor
      · exact hrunning
      · exact hlimit
      · exact .inr (by simpa using hdrained)
      · simp only [State.inProgress, List.length_cons] at hcounted ⊢
        omega
      · refine ⟨skipped ++ [file], by simpa using horder, fun hfalse => ?_⟩
        rw [haborted] at hfalse
        cases hfalse
      · exact hstopped
      · simp [hreload]
  | @leave i before behind hworkers htasks =>
      rw [inProgress_of_workers hworkers, Worker.busy, Nat.zero_add] at hcounted
      rw [hworkers, List.length_append, List.length_cons] at hrunning hlimit
      constructor
      · simp only [List.length_append]
        omega
      · simp only [List.length_append]
        omega
      · exact .inl htasks
      · simpa [State.inProgress] using hcounted
      · exact ⟨skipped, horder, hskipped⟩
      · exact hstopped
      · exact hreload
  | close =>
      constructor
      · exact hrunning
      · exact hlimit
      · exact hdrained
      · exact hcounted
      · refine ⟨skipped, ?_, fun hfalse => by cases hfalse⟩
        simpa [State.close, List.map_map, Function.comp_def] using horder
      · intro _ upload hupload
        obtain ⟨before, _, rfl⟩ := List.mem_map.mp hupload
        rfl
      · exact hreload

theorem Sound.run {file : File} (hs : Sound model (file :: todo) s) (haborted : s.aborted = false) :
    Sound model todo (s.run model file) ∧ (s.run model file).aborted = false ∧
      (s.run model file).remaining = s.remaining := by
  obtain ⟨hrunning, hlimit, hdrained, hcounted, ⟨skipped, horder, hskipped⟩, hstopped,
    hreload⟩ := hs
  obtain rfl := hskipped haborted
  rw [List.length_cons] at hcounted
  by_cases hfull : model.concurrentFiles ≤ s.running
  · rw [run_wait hfull]
    refine ⟨⟨hrunning, hlimit, .inr (by dsimp only; omega), ?_, ?_, hstopped, hreload⟩,
      haborted, rfl⟩
    · simp only [State.inProgress, List.length_append, List.length_cons, List.length_nil]
        at hcounted ⊢
      omega
    · exact ⟨[], by simpa using horder, fun _ => rfl⟩
  · have htasks : s.tasks = [] := hdrained.resolve_right (by omega)
    rw [run_start hfull htasks haborted]
    rw [htasks] at hcounted horder
    refine ⟨⟨?_, ?_, .inl htasks, ?_, ?_, ?_, hreload⟩, haborted, rfl⟩
    · simp [hrunning]
    · simp only [List.length_append, List.length_singleton]
      omega
    · simp only [State.inProgress, List.map_append, List.map_cons, List.map_nil, htasks,
        List.sum_append, List.sum_cons, List.sum_nil, Worker.busy, List.length_nil] at hcounted ⊢
      omega
    · exact ⟨[], by simpa [Model.upload, htasks] using horder, fun _ => rfl⟩
    · intro htrue
      dsimp only at htrue
      rw [haborted] at htrue
      cases htrue

theorem Sound.foldl_run : ∀ {todo : List File} {s : State}, Sound model todo s →
    s.aborted = false → Sound model [] (todo.foldl (State.run model) s) ∧
      (todo.foldl (State.run model) s).remaining = s.remaining
  | [], _, hs, _ => ⟨hs, rfl⟩
  | _ :: _, _, hs, haborted => by
      obtain ⟨hrun, haborted', hremaining⟩ := hs.run haborted
      obtain ⟨hsound, hsame⟩ := hrun.foldl_run haborted'
      exact ⟨hsound, hsame.trans hremaining⟩

theorem opened_sound (hfiles : model.files ≠ []) : Sound model model.files model.opened := by
  have hpos := List.length_pos_iff.mpr hfiles
  refine ⟨rfl, Nat.zero_le _, .inl rfl, ?_, ⟨[], rfl, fun _ => rfl⟩, ?_, ?_⟩
  · simp [Model.opened, State.inProgress]
  · intro h
    cases h
  · rw [if_neg (by simpa [Model.opened] using hpos.ne')]
    rfl

/-- The invariant holds when all files are given to the queue, and none is settled yet. -/
theorem uploadFiles_start (hfiles : model.files ≠ []) :
    Sound model [] model.uploadFiles ∧ model.uploadFiles.remaining = model.files.length :=
  (opened_sound hfiles).foldl_run rfl

end Invariant

/-! ## The steps that are left -/

/-- How many steps a worker may take before the next task. -/
def Worker.steps : Worker → Nat
  | .uploading _ => 3
  | .settled _ _ => 2
  | .ready => 1

/-- A bound on the steps that are left. -/
def State.steps (s : State) : Nat := 4 * s.tasks.length + (s.workers.map Worker.steps).sum

def Action.isClose : Action → Bool
  | .close => true
  | _ => false

theorem steps_moved {a : Action} (h : Moved model s a s') :
    (a.isClose = false → s'.steps < s.steps) ∧ (a.isClose = true → s'.steps ≤ s.steps) := by
  cases h with
  | settle hworkers => simp [Action.isClose, State.steps, hworkers, Worker.steps]
  | resume hworkers => simp [Action.isClose, State.steps, hworkers, Worker.steps]
  | start hworkers htasks _ =>
      refine ⟨fun _ => ?_, fun hclose => by cases hclose⟩
      simp only [State.steps, hworkers, htasks, List.map_append, List.map_cons, List.sum_append,
        List.sum_cons, Worker.steps, List.length_cons]
      omega
  | skip hworkers htasks _ => simp [Action.isClose, State.steps, htasks]
  | leave hworkers htasks => simp [Action.isClose, State.steps, hworkers, Worker.steps]
  | close => simp [Action.isClose, State.steps, State.close]

theorem steps_le (s : State) :
    s.steps ≤ 4 * (s.tasks.length + s.inProgress) + s.workers.length := by
  have hworkers (workers : List Worker) : (workers.map Worker.steps).sum ≤
      4 * (workers.map Worker.busy).sum + workers.length := by
    induction workers with
    | nil => simp
    | cons worker workers ih =>
        have hone : worker.steps ≤ 4 * worker.busy + 1 := by
          cases worker <;> simp [Worker.steps, Worker.busy]
        simp only [List.map_cons, List.sum_cons, List.length_cons]
        omega
  have hsum := hworkers s.workers
  rw [State.steps, State.inProgress]
  omega

theorem step_of_workers (h : s.workers ≠ []) :
    ∃ a : Action, a.isClose = false ∧ (s.step model a).isSome = true := by
  obtain ⟨worker, workers, hworkers⟩ := List.exists_cons_of_ne_nil h
  have hget : s.workers[0]? = some worker := by rw [hworkers]; rfl
  cases worker with
  | uploading file => exact ⟨.settle 0 none, rfl, by simp [State.step, hget]⟩
  | settled file err => exact ⟨.resume 0, rfl, by simp [State.step, hget]⟩
  | ready => exact ⟨.turn 0, rfl, by simp [State.step, hget]⟩

theorem actions_le {actions : List Action} (h : model.machine.after s actions = some s') :
    actions.countP (fun a => !a.isClose) + s'.steps ≤ s.steps := by
  refine Machine.after_countP_le (fun s a s' hkind hstep => ?_) (fun s a s' hkind hstep => ?_) h
  · exact (steps_moved (moved_of_step hstep)).1 (by simpa using hkind)
  · exact (steps_moved (moved_of_step hstep)).2 (by simpa using hkind)

theorem Sound.workers_ne_nil (hs : Sound model [] s) (hfiles : model.files ≠ [])
    (h : s.remaining ≠ 0) : s.workers ≠ [] := by
  intro hnil
  have hpos := List.length_pos_iff.mpr hfiles
  have hcounted := hs.counted
  have hdrained := hs.drained
  rw [State.inProgress, hnil] at hcounted
  rw [hnil, Model.concurrentFiles, maxConnections] at hdrained
  rcases hdrained with htasks | hlength
  · rw [htasks] at hcounted
    exact h hcounted
  · simp only [List.length_nil] at hlength
    omega

theorem inProgress_le (s : State) : s.inProgress ≤ s.workers.length := by
  have hworkers (workers : List Worker) :
      (workers.map Worker.busy).sum ≤ workers.length := by
    induction workers with
    | nil => simp
    | cons worker workers ih =>
        have hone : worker.busy ≤ 1 := by
          cases worker <;> simp [Worker.busy]
        simp only [List.map_cons, List.sum_cons, List.length_cons]
        omega
  exact hworkers s.workers

/-! ## A whole upload -/

/-- What holds after some actions. -/
structure Orderly (model : Model) (actions : List Action) (s : State) : Prop where
  limit : s.inProgress ≤ model.concurrentFiles
  inOrder : s.uploads.map Upload.Body <+: model.files
  all : s.aborted = false → s.remaining = 0 → s.uploads.map Upload.Body = model.files
  settled : s.remaining = 0 ↔ s.tasks = [] ∧ s.inProgress = 0
  reload : s.reloads = if s.remaining = 0 then 1 else 0
  stopped : s.aborted = true → ∀ upload ∈ s.uploads, upload.aborted = true
  goesOn : s.remaining ≠ 0 →
    ∃ a : Action, a.isClose = false ∧ (s.step model a).isSome = true
  ends : actions.countP (fun a => !a.isClose) ≤ 4 * model.files.length + model.concurrentFiles

/-- From any start of an upload, whatever comes then in which order. -/
theorem uploadFiles_orderly (hfiles : model.files ≠ []) {actions : List Action}
    (h : model.machine.after model.uploadFiles actions = some s) : Orderly model actions s := by
  obtain ⟨hstart, hremaining⟩ := uploadFiles_start hfiles
  have hsound : Sound model [] s := Machine.after_invariant
    (fun hs hstep => hs.moved (moved_of_step hstep)) hstart h
  obtain ⟨skipped, horder, hskipped⟩ := hsound.order
  rw [List.append_nil] at horder
  have hcounted := hsound.counted
  rw [List.length_nil, Nat.add_zero] at hcounted
  have hsettled : s.remaining = 0 ↔ s.tasks = [] ∧ s.inProgress = 0 := by
    rw [hcounted, Nat.add_eq_zero_iff, List.length_eq_zero_iff]
  constructor
  · exact (inProgress_le s).trans hsound.limit
  · exact ⟨skipped ++ s.tasks, by rw [← List.append_assoc, horder]⟩
  · intro hopen hzero
    rw [hskipped hopen, (hsettled.mp hzero).1] at horder
    simpa using horder
  · exact hsettled
  · exact hsound.reload
  · exact hsound.stopped
  · exact fun hne => step_of_workers (hsound.workers_ne_nil hfiles hne)
  · have hcount := actions_le h
    have hsteps := steps_le model.uploadFiles
    have hstarted := hstart.counted
    have hlimit := hstart.limit
    rw [List.length_nil, Nat.add_zero, hremaining] at hstarted
    omega

/-! ## Five files -/

def fileOf (relativePath : String) : File := ⟨relativePath, "text/plain"⟩

def fiveFiles : Model where
  bucket := "notebooks"
  currentPrefix := "user/"
  files := [fileOf "a", fileOf "b", fileOf "c", fileOf "d", fileOf "e"]

/-- The third is uploaded first, the fifth is begun, and the dialog is closed. -/
def someActions : List Action := [.settle 2 none, .resume 2, .turn 2, .close]

theorem five_files_orderly : ∃ s,
    fiveFiles.machine.after fiveFiles.uploadFiles someActions = some s ∧
      s.uploads.length = 5 ∧ s.remaining = 4 ∧ Orderly fiveFiles someActions s :=
  ⟨_, rfl, rfl, rfl, uploadFiles_orderly (by decide) rfl⟩

end Uploads

end FileBrowser
