import DataWorkspace.Mirrors.Pypi
import Mathlib.Data.List.Dedup

/-!
# The marker of the pypi mirror

`pypi_mirror` asks for the projects that changed after the time in the object
`__sync_changes_after`, copies them, and stores the time at which it was started there.  The
workers log a project that they cannot copy, and the time is stored all the same.

A `World` is the upstream history, the bucket and the run that is going on.  What the mirror
does and what happens upstream come in any order.  `marker_sound` is about the histories in
which the time is stored only by runs that were told of every project and whose workers neither
logged a failure nor used up their tries: there every project that changed before the time is
mirrored as of its change.
-/

namespace Mirrors

open Py

/-! ## Projects -/

/-- `re.sub(r"[-_.]+", "-", name)`, with whether a run of these characters was begun. -/
def dashed : Bool → Str → Str
  | _, [] => []
  | begun, c :: name =>
      if c = '-' ∨ c = '_' ∨ c = '.' then
        if begun then dashed true name else '-' :: dashed true name
      else c :: dashed false name

/-- `normalise`. -/
def normalise (name : Str) : Str := lower (dashed false name)

/-- A change of a project. -/
structure Change where
  time : Nat
  name : Str
deriving DecidableEq, Repr

/-- The index page is in place, and every file it lists is in the bucket. -/
def Outcome.complete (outcome : Outcome) : Bool :=
  match outcome.index with
  | none => false
  | some page => page.link_data.all fun link =>
      decide (link.s3_path ∈ outcome.keys.map fun key => ("/" : Str) ++ key)

/-- All five tries to put the index page fail, and none stores it. -/
def IndexGivenUp (index : Nat → PutResult) : Prop :=
  ∀ k < 5, ∃ e, index k = .raised e false

theorem put_index_given_up {index : Nat → PutResult} : ∀ {n k code},
    (put_index index n k code).1 = some 200 → (put_index index n k code).2 = false →
      ∀ j < n, ∃ e, index (k + j) = .raised e false
  | 0, _, _, _, _, _, hj => absurd hj (Nat.not_lt_zero _)
  | n + 1, k, code, hcode, hstored, j, hj => by
      rw [put_index] at hcode hstored
      cases hindex : index k with
      | answered code' =>
          simp_all [PutResult.stores]
      | no_credentials => simp [hindex] at hcode
      | raised e stored =>
          simp only [hindex, PutResult.stores, Bool.or_eq_false_iff] at hcode hstored
          obtain ⟨hnot, hrest⟩ := hstored
          cases j with
          | zero => exact ⟨e, by rw [Nat.add_zero, hindex, hnot]⟩
          | succ j =>
              rw [show k + (j + 1) = k + 1 + j by omega]
              exact put_index_given_up hcode hrest j (Nat.lt_of_succ_lt_succ hj)

theorem index_isSome {bucket_host bucket_name project_name : Str} {upstream : Upstream}
    {keys : List Str}
    (hraised : (transfer_project bucket_host bucket_name project_name upstream keys).raised = false)
    (hindex : ¬ IndexGivenUp upstream.index) :
    ∃ page,
      (transfer_project bucket_host bucket_name project_name upstream keys).index = some page := by
  rw [transfer_project] at hraised ⊢
  split at hraised
  next => cases hraised
  next code hpage =>
    split at hraised
    next => cases hraised
    next hcode =>
      split at hraised
      next => cases hraised
      next hlists =>
        dsimp only at hraised ⊢
        split at hraised
        next => cases hraised
        next t hlinks =>
          split at hraised
          next => cases hraised
          next hascii =>
            rw [if_neg hcode, if_neg hlists, if_neg hascii]
            dsimp only at hraised ⊢
            have hanswered := of_not_not (of_decide_eq_false hraised)
            cases hput : (put_index upstream.index 5 0 t.code).2 with
            | true => exact ⟨_, if_pos rfl⟩
            | false =>
                have hall := put_index_given_up hanswered hput
                simp only [Nat.zero_add] at hall
                exact absurd hall hindex

/-! ## Worlds -/

/-- A project that a worker took: what it was answered, and the bucket at that time. -/
structure Taken where
  project_name : Str
  upstream : Upstream
  keys : List Str

/-- A run of the mirror. -/
structure Running where
  /-- `int(time()) - 1` at its start. -/
  started : Nat
  sync_changes_after : Nat
  /-- The names it was told, once it was. -/
  project_names : Option (List Str)
  queue : List Str
  taken : List Taken

/-- What happened so far.  The projects that were mirrored with all their files are recorded
with the time at which their page was read. -/
structure World where
  now : Nat
  changes : List Change
  keys : List Str
  /-- The content of `__sync_changes_after`. -/
  marker : Option Nat
  mirrored : List (Str × Nat)
  running : Option Running

inductive Action where
  /-- A second passes. -/
  | tick
  /-- A project changes. -/
  | change (name : Str)
  /-- A run starts, and reads the marker. -/
  | start
  /-- The names of `list_packages` or `changelog` are received and queued. -/
  | list (project_names : List Str)
  /-- A worker takes a project. -/
  | transfer (project_name : Str) (upstream : Upstream)
  /-- The queue is done, and the PUT of the marker stores it. -/
  | store
  /-- The run ends without storing the marker: an exception, or the end of the process. -/
  | stop

def World.init : World := ⟨1, [], [], none, [], none⟩

section

variable (bucket_host bucket_name : Str)

/-- What comes of the project. -/
def Taken.outcome (taken : Taken) : Outcome :=
  transfer_project bucket_host bucket_name taken.project_name taken.upstream taken.keys

/-- A project is copied, or its failure is logged. -/
def World.transfer (w : World) (run : Running) (project_name : Str) (upstream : Upstream) :
    World :=
  let taken : Taken := ⟨project_name, upstream, w.keys⟩
  let outcome := taken.outcome bucket_host bucket_name
  let run := { run with queue := run.queue.erase project_name, taken := run.taken ++ [taken] }
  if outcome.complete then
    { w with keys := outcome.keys, mirrored := w.mirrored ++ [(project_name, w.now)]
             running := some run }
  else { w with keys := outcome.keys, running := some run }

/-- One action, where it is possible. -/
def World.step (w : World) : Action → Option World
  | .tick => some { w with now := w.now + 1 }
  | .change name => some { w with changes := w.changes ++ [⟨w.now, name⟩] }
  | .start =>
      match w.running with
      | some _ => none
      | none => some { w with running := some ⟨w.now - 1, w.marker.getD 0, none, [], []⟩ }
  | .list project_names =>
      match w.running with
      | some ⟨started, sync_changes_after, none, _, taken⟩ =>
          some { w with running := some ⟨started, sync_changes_after, some project_names,
            project_names.dedup.map normalise, taken⟩ }
      | _ => none
  | .transfer project_name upstream =>
      match w.running with
      | some run =>
          if project_name ∈ run.queue then
            some (w.transfer bucket_host bucket_name run project_name upstream)
          else none
      | none => none
  | .store =>
      match w.running with
      | some run =>
          if run.project_names.isSome ∧ run.queue = [] then
            some { w with marker := some run.started, running := none }
          else none
      | none => none
  | .stop => some { w with running := none }

end

/-- The worlds after some actions that each meet a condition. -/
inductive History (bucket_host bucket_name : Str) (ok : World → Action → Prop) : World → Prop where
  | init : History bucket_host bucket_name ok .init
  | step {w w' : World} {a : Action} : History bucket_host bucket_name ok w → ok w a →
      w.step bucket_host bucket_name a = some w' → History bucket_host bucket_name ok w'

/-! ## The condition and the property -/

/-- The run was told of every project that changed since the marker it read, up to its own
start. -/
def Running.Told (run : Running) (changes : List Change) : Prop :=
  ∀ change ∈ changes, (run.sync_changes_after = 0 ∨ run.sync_changes_after < change.time) →
    change.time ≤ run.started →
    ∃ names, run.project_names = some names ∧ change.name ∈ names

/-- The worker neither logs an exception nor uses up the tries for a file or the index page
without storing it. -/
structure Taken.Sound (bucket_host bucket_name : Str) (taken : Taken) : Prop where
  raised : (taken.outcome bucket_host bucket_name).raised = false
  files : ∀ file ∈ taken.upstream.links, key_of taken.project_name file ∉ taken.keys →
    ¬ GivenUp file.2
  index : ¬ IndexGivenUp taken.upstream.index

theorem Taken.Sound.complete {bucket_host bucket_name : Str} {taken : Taken}
    (h : taken.Sound bucket_host bucket_name) :
    (taken.outcome bucket_host bucket_name).complete = true := by
  obtain ⟨page, hpage⟩ := index_isSome h.raised h.index
  rw [Taken.outcome, Outcome.complete, hpage]
  refine List.all_eq_true.mpr fun link hlink => decide_eq_true ?_
  have hfiles : ∀ file ∈ taken.upstream.links, key_of taken.project_name file ∉ taken.keys →
      ∃ file' ∈ taken.upstream.links, file'.1.string = file.1.string ∧ ¬ GivenUp file'.2 :=
    fun file hfile hnew => ⟨file, hfile, rfl, h.files file hfile hnew⟩
  obtain ⟨key, hkey, heq⟩ := (index_complete_iff hpage).mpr hfiles link hlink
  rw [heq]
  exact List.mem_map_of_mem hkey

/-- The marker is stored only by a run that was told of every project that changed, and that
took each project it was told of without a failure. -/
def StoresSound (bucket_host bucket_name : Str) (w : World) : Action → Prop
  | .store => ∀ run, w.running = some run →
      run.Told w.changes ∧ ∀ taken ∈ run.taken, taken.Sound bucket_host bucket_name
  | _ => True

/-- The project was mirrored with all the files it had at the change, or later. -/
def World.MirroredAsOf (w : World) (change : Change) : Prop :=
  ∃ time, change.time ≤ time ∧ (normalise change.name, time) ∈ w.mirrored

/-- Every project that changed before the stored time is mirrored as of its change. -/
def World.MarkerSound (w : World) : Prop :=
  ∀ marker, w.marker = some marker → ∀ change ∈ w.changes, change.time < marker →
    w.MirroredAsOf change

/-! ## The invariant -/

/-- The run took the project, and where nothing failed it is mirrored since. -/
def Running.Took (bucket_host bucket_name : Str) (run : Running) (w : World) (name : Str) : Prop :=
  ∃ taken ∈ run.taken, taken.project_name = name ∧ (taken.Sound bucket_host bucket_name →
    ∃ time, run.started < time ∧ (name, time) ∈ w.mirrored)

/-- What holds of a run that is going on. -/
structure Running.Kept (bucket_host bucket_name : Str) (run : Running) (w : World) : Prop where
  started : run.started < w.now
  since : run.sync_changes_after < w.now
  /-- What changed up to the marker that was read is mirrored. -/
  before : ∀ change ∈ w.changes, run.sync_changes_after ≠ 0 →
    change.time ≤ run.sync_changes_after → w.MirroredAsOf change
  /-- A project of the list is queued, or was taken after the run started. -/
  listed : ∀ names, run.project_names = some names → ∀ name ∈ names,
    normalise name ∈ run.queue ∨ run.Took bucket_host bucket_name w (normalise name)

structure World.Kept (bucket_host bucket_name : Str) (w : World) : Prop where
  now : 0 < w.now
  marker : ∀ marker, w.marker = some marker → marker < w.now ∧
    ∀ change ∈ w.changes, change.time ≤ marker → w.MirroredAsOf change
  running : ∀ run, w.running = some run → run.Kept bucket_host bucket_name w

section Steps

variable {bucket_host bucket_name : Str} {w w' : World}

theorem World.MirroredAsOf.mono {change : Change} (h : w.MirroredAsOf change)
    (hsub : ∀ entry ∈ w.mirrored, entry ∈ w'.mirrored) : w'.MirroredAsOf change := by
  obtain ⟨time, hle, hmem⟩ := h
  exact ⟨time, hle, hsub _ hmem⟩

theorem Running.Took.mono {run run' : Running} {name : Str}
    (h : run.Took bucket_host bucket_name w name) (hstarted : run'.started = run.started)
    (htaken : ∀ taken ∈ run.taken, taken ∈ run'.taken)
    (hsub : ∀ entry ∈ w.mirrored, entry ∈ w'.mirrored) :
    run'.Took bucket_host bucket_name w' name := by
  obtain ⟨taken, hmem, hname, hsound⟩ := h
  refine ⟨taken, htaken taken hmem, hname, fun h => ?_⟩
  obtain ⟨time, hlt, hmirrored⟩ := hsound h
  exact ⟨time, hstarted ▸ hlt, hsub _ hmirrored⟩

theorem World.kept_init : World.init.Kept bucket_host bucket_name where
  now := Nat.one_pos
  marker _ h := by cases h
  running _ h := by cases h

theorem World.Kept.tick (h : w.Kept bucket_host bucket_name) :
    World.Kept bucket_host bucket_name { w with now := w.now + 1 } where
  now := Nat.succ_pos _
  marker marker hm := ⟨Nat.lt_succ_of_lt (h.marker marker hm).1, (h.marker marker hm).2⟩
  running run hrun :=
    have hkept := h.running run hrun
    ⟨Nat.lt_succ_of_lt hkept.started, Nat.lt_succ_of_lt hkept.since, hkept.before, hkept.listed⟩

theorem World.Kept.change (h : w.Kept bucket_host bucket_name) (name : Str) :
    World.Kept bucket_host bucket_name { w with changes := w.changes ++ [⟨w.now, name⟩] } where
  now := h.now
  marker marker hm := by
    refine ⟨(h.marker marker hm).1, fun change hchange hle => ?_⟩
    rcases List.mem_append.mp hchange with hold | hnew
    · exact (h.marker marker hm).2 change hold hle
    · obtain rfl := List.mem_singleton.mp hnew
      exact absurd hle (Nat.not_le_of_lt (h.marker marker hm).1)
  running run hrun := by
    have hkept := h.running run hrun
    refine ⟨hkept.started, hkept.since, fun change hchange hne hle => ?_, hkept.listed⟩
    rcases List.mem_append.mp hchange with hold | hnew
    · exact hkept.before change hold hne hle
    · obtain rfl := List.mem_singleton.mp hnew
      exact absurd hle (Nat.not_le_of_lt hkept.since)

theorem World.Kept.start (h : w.Kept bucket_host bucket_name) :
    World.Kept bucket_host bucket_name
      { w with running := some ⟨w.now - 1, w.marker.getD 0, none, [], []⟩ } where
  now := h.now
  marker := h.marker
  running run hrun := by
    cases hrun
    refine ⟨Nat.sub_lt h.now Nat.one_pos, ?_, fun change hchange hne hle => ?_, nofun⟩
    · cases hm : w.marker with
      | none => exact h.now
      | some marker => exact (h.marker marker hm).1
    · cases hm : w.marker with
      | none => exact absurd (by rw [hm]; rfl) hne
      | some marker =>
          rw [hm] at hle
          exact (h.marker marker hm).2 change hchange hle

theorem World.Kept.list {started since : Nat} {queue names : List Str} {taken : List Taken}
    (h : w.Kept bucket_host bucket_name)
    (hrun : w.running = some ⟨started, since, none, queue, taken⟩) :
    World.Kept bucket_host bucket_name { w with running := some ⟨started, since, some names,
      names.dedup.map normalise, taken⟩ } where
  now := h.now
  marker := h.marker
  running run hrun' := by
    cases hrun'
    have hkept := h.running _ hrun
    refine ⟨hkept.started, hkept.since, hkept.before, fun names' hnames name hname => .inl ?_⟩
    cases hnames
    exact List.mem_map_of_mem (List.mem_dedup.mpr hname)

/-- What a worker does keeps the invariant: a name that leaves the queue was taken, and where
nothing failed it is mirrored now. -/
theorem World.Kept.transfer {run : Running} (h : w.Kept bucket_host bucket_name)
    (hrun : w.running = some run) (project_name : Str) (upstream : Upstream) :
    (w.transfer bucket_host bucket_name run project_name upstream).Kept
      bucket_host bucket_name := by
  have hkept := h.running run hrun
  let taken : Taken := ⟨project_name, upstream, w.keys⟩
  let run' : Running :=
    { run with queue := run.queue.erase project_name, taken := run.taken ++ [taken] }
  have hkept' {mirrored : List (Str × Nat)} (keys : List Str)
      (hsub : ∀ entry ∈ w.mirrored, entry ∈ mirrored)
      (hnow : taken.Sound bucket_host bucket_name → (project_name, w.now) ∈ mirrored) :
      run'.Kept bucket_host bucket_name
        { w with keys := keys, mirrored := mirrored, running := some run' } := by
    refine ⟨hkept.started, hkept.since, fun change hchange hne hle => ?_,
      fun names hnames name hname => ?_⟩
    · exact World.MirroredAsOf.mono (hkept.before change hchange hne hle) hsub
    · rcases hkept.listed names hnames name hname with hqueued | htook
      · by_cases heq : normalise name = project_name
        · refine .inr ⟨taken, List.mem_append_right _ (List.mem_singleton_self _), heq.symm, ?_⟩
          intro hsound
          exact ⟨w.now, hkept.started, heq ▸ hnow hsound⟩
        · exact .inl ((List.mem_erase_of_ne heq).mpr hqueued)
      · exact .inr (htook.mono rfl (fun t ht => List.mem_append_left _ ht) hsub)
  rw [World.transfer]
  split
  next hcomplete =>
    have hsub : ∀ entry ∈ w.mirrored, entry ∈ w.mirrored ++ [(project_name, w.now)] :=
      fun entry hentry => List.mem_append_left _ hentry
    refine ⟨h.now, fun marker hm => ⟨(h.marker marker hm).1, fun change hchange hle => ?_⟩,
      fun _ heq => ?_⟩
    · exact World.MirroredAsOf.mono ((h.marker marker hm).2 change hchange hle) hsub
    · cases heq
      exact hkept' _ hsub fun _ => List.mem_append_right _ (List.mem_singleton_self _)
  next hcomplete =>
    refine ⟨h.now, h.marker, fun _ heq => ?_⟩
    cases heq
    exact hkept' _ (fun _ h => h) fun hsound => absurd hsound.complete hcomplete

theorem World.Kept.store {run : Running} (h : w.Kept bucket_host bucket_name)
    (hrun : w.running = some run) (htold : run.Told w.changes)
    (hsound : ∀ taken ∈ run.taken, taken.Sound bucket_host bucket_name) (hqueue : run.queue = []) :
    World.Kept bucket_host bucket_name
      { w with marker := some run.started, running := none } where
  now := h.now
  marker marker hm := by
    cases hm
    have hkept := h.running run hrun
    refine ⟨hkept.started, fun change hchange hle => ?_⟩
    by_cases hnew : run.sync_changes_after = 0 ∨ run.sync_changes_after < change.time
    · obtain ⟨names, hnames, hname⟩ := htold change hchange hnew hle
      rcases hkept.listed names hnames _ hname with hqueued | ⟨taken, hmem, -, htook⟩
      · rw [hqueue] at hqueued
        cases hqueued
      · obtain ⟨time, hlt, hmirrored⟩ := htook (hsound taken hmem)
        exact ⟨time, hle.trans hlt.le, hmirrored⟩
    · push Not at hnew
      exact hkept.before change hchange hnew.1 hnew.2
  running _ hnone := by cases hnone

theorem World.Kept.stop (h : w.Kept bucket_host bucket_name) :
    World.Kept bucket_host bucket_name { w with running := none } where
  now := h.now
  marker := h.marker
  running _ hnone := by cases hnone

theorem World.Kept.step {a : Action} (h : w.Kept bucket_host bucket_name)
    (hok : StoresSound bucket_host bucket_name w a)
    (hstep : w.step bucket_host bucket_name a = some w') : w'.Kept bucket_host bucket_name := by
  cases a with
  | tick =>
      cases hstep
      exact h.tick
  | change name =>
      cases hstep
      exact h.change name
  | start =>
      rw [World.step] at hstep
      split at hstep
      next => cases hstep
      next =>
        cases hstep
        exact h.start
  | list names =>
      rw [World.step] at hstep
      split at hstep
      next hrun =>
        cases hstep
        exact h.list hrun
      next => cases hstep
  | transfer project_name upstream =>
      rw [World.step] at hstep
      split at hstep
      next run hrun =>
        split at hstep
        next =>
          cases hstep
          exact h.transfer hrun project_name upstream
        next => cases hstep
      next => cases hstep
  | store =>
      rw [World.step] at hstep
      split at hstep
      next run hrun =>
        split at hstep
        next hdone =>
          cases hstep
          obtain ⟨htold, hsound⟩ := hok run hrun
          exact h.store hrun htold hsound hdone.2
        next => cases hstep
      next => cases hstep
  | stop =>
      cases hstep
      exact h.stop

theorem World.kept_of_history
    (h : History bucket_host bucket_name (StoresSound bucket_host bucket_name) w) :
    w.Kept bucket_host bucket_name := by
  induction h with
  | init => exact World.kept_init
  | step _ hok hstep ih => exact ih.step hok hstep

/-- In every history in which the marker is stored only by runs that were told of every
project that changed and took each without a failure, what changed before the marker is
mirrored as of its change. -/
theorem marker_sound
    (h : History bucket_host bucket_name (StoresSound bucket_host bucket_name) w) :
    w.MarkerSound := by
  intro marker hm change hchange hlt
  exact ((World.kept_of_history h).marker marker hm).2 change hchange hlt.le

end Steps

/-! ## Two histories -/

section Examples

/-- The actions in turn, while they are possible. -/
def World.play (w : World) : List Action → Option World
  | [] => some w
  | a :: actions => (w.step "s3.eu-west-2.amazonaws.com" "mirrors" a).bind fun w => w.play actions

/-- A project changes, and a run is told of it and takes it. -/
def mirrorSample (upstream : Upstream) : List Action :=
  [.change "Sample", .tick, .tick, .tick, .start, .list ["Sample"], .transfer "sample" upstream]

theorem history_of_play {ok : World → Action → Prop} {w w' : World}
    (h : History "s3.eu-west-2.amazonaws.com" "mirrors" ok w) :
    ∀ {actions : List Action}, w.play actions = some w' → (∀ a ∈ actions, ∀ w, ok w a) →
      History "s3.eu-west-2.amazonaws.com" "mirrors" ok w'
  | [], hplay, _ => Option.some.inj hplay ▸ h
  | a :: actions, hplay, hok => by
      rw [World.play] at hplay
      obtain ⟨w₁, hstep, hrest⟩ := Option.bind_eq_some_iff.mp hplay
      refine history_of_play (.step h (hok a (List.mem_cons_self ..) _) hstep) hrest ?_
      exact fun a ha => hok a (List.mem_cons_of_mem _ ha)

/-- The world in which a run took the project. -/
def sampleWorld (upstream : Upstream) (keys : List Str) (mirrored : List (Str × Nat)) : World where
  now := 4
  changes := [⟨1, "Sample"⟩]
  keys := keys
  marker := none
  mirrored := mirrored
  running := some ⟨3, 0, some ["Sample"], [], [⟨"sample", upstream, []⟩]⟩

def World.stored (w : World) : World := { w with marker := some 3, running := none }

def copiedWorld : World :=
  sampleWorld (onePage copied) ["pypi/sample/sample-1.0.whl"] [("sample", 4)]

theorem marker_sound_copied : copiedWorld.stored.marker = some 3 ∧
    (⟨1, "Sample"⟩ : Change) ∈ copiedWorld.stored.changes ∧ copiedWorld.stored.MarkerSound := by
  have hplay : World.init.play (mirrorSample (onePage copied)) = some copiedWorld := by rfl
  have h : History "s3.eu-west-2.amazonaws.com" "mirrors"
      (StoresSound "s3.eu-west-2.amazonaws.com" "mirrors") copiedWorld :=
    history_of_play .init hplay (by simp [mirrorSample, StoresSound])
  have hstore : copiedWorld.step "s3.eu-west-2.amazonaws.com" "mirrors" .store =
      some copiedWorld.stored := rfl
  refine ⟨rfl, List.mem_singleton_self _, marker_sound (.step h ?_ hstore)⟩
  intro run hrun
  cases hrun
  refine ⟨fun change hchange _ _ => ⟨_, rfl, ?_⟩, fun taken htaken => ?_⟩
  · obtain rfl := List.mem_singleton.mp hchange
    exact List.mem_singleton_self _
  · obtain rfl := List.mem_singleton.mp htaken
    refine ⟨by decide +kernel, fun file hfile _ hgiven => ?_, fun hgiven => ?_⟩
    · obtain rfl := List.mem_singleton.mp hfile
      exact absurd (hgiven 0 (by decide)).1 (by decide)
    · obtain ⟨e, he⟩ := hgiven 0 (by decide)
      cases he

/-- The page of the project is answered with 500: the failure is logged, and the time is
stored. -/
def failedWorld : World := sampleWorld { onePage copied with page := some 500 } [] []

theorem marker_unsound :
    History "s3.eu-west-2.amazonaws.com" "mirrors" (fun _ _ => True) failedWorld.stored ∧
      failedWorld.stored.marker = some 3 ∧
      (⟨1, "Sample"⟩ : Change) ∈ failedWorld.stored.changes ∧
      ¬ failedWorld.stored.MarkerSound := by
  have hplay : World.init.play (mirrorSample { onePage copied with page := some 500 }) =
      some failedWorld := by rfl
  have h : History "s3.eu-west-2.amazonaws.com" "mirrors" (fun _ _ => True) failedWorld :=
    history_of_play .init hplay fun _ _ _ => trivial
  have hstore : failedWorld.step "s3.eu-west-2.amazonaws.com" "mirrors" .store =
      some failedWorld.stored := rfl
  refine ⟨.step h trivial hstore, rfl, List.mem_singleton_self _, fun hsound => ?_⟩
  obtain ⟨time, -, hmem⟩ := hsound 3 rfl _ (List.mem_singleton_self _) (by decide)
  cases hmem

end Examples

end Mirrors
