import DataWorkspace.Notifications.Changelog
import Mathlib.Data.List.Count

/-!
# Creating notifications

The task looks at every source in turn: the source tables, then the queries, then the
reference datasets.  If the newest entry of its changelog has no notification yet, it gets
one, and so does every user who subscribed to the dataset of the source for changes of that
kind.

A notification is looked up by the id of the entry alone.  Two sources may have entries
with the same id, if they are backed by one table or if their databases number their
metadata alike.  Then the subscribers of the second are not told
(`notified_iff_not_taken`).
-/

namespace Notifications

open Py

/-! ## Rows -/

structure Subscription (D U : Type) where
  id : Nat
  user : U
  dataset : D
  notify_on_schema_change : Bool
  notify_on_data_change : Bool
deriving DecidableEq

/-- A notification of a change of a source.  Its changelog id is unique. -/
structure Notification (S : Type) where
  changelog_id : Int
  related_object : S
deriving DecidableEq

structure UserNotification (S D U : Type) where
  notification : Notification S
  subscription : Subscription D U
deriving DecidableEq

/-- The notifications so far. -/
structure Tables (S D U : Type) where
  notifications : List (Notification S)
  user_notifications : List (UserNotification S D U)

/-- What a run of the task finds: the sources in their order, the datasets they belong to,
their changelogs, and the subscriptions. -/
structure Execution (S D U : Type) where
  objects : List S
  dataset : S → D
  changelog : S → List DetailedChange
  subscriptions : List (Subscription D U)
  nodup : subscriptions.Nodup

section Task

variable {S D U : Type} [DecidableEq D]

/-! ## The task -/

def schemaChange (change : Change) : Bool :=
  change.previous_table_structure != change.table_structure

def dataChange (change : Change) : Bool := change.previous_data_hash != change.data_hash

/-- The subscriptions to the dataset of a source for changes of the kind. -/
def Execution.queryset (e : Execution S D U) (obj : S) (change : Change) :
    List (Subscription D U) :=
  let subscriptions := e.subscriptions.filter fun s => s.dataset == e.dataset obj
  if schemaChange change then subscriptions.filter fun s => s.notify_on_schema_change
  else if dataChange change then subscriptions.filter fun s => s.notify_on_data_change
  else []

/-- `create_notifications`, for one source. -/
def createFor (e : Execution S D U) (t : Tables S D U) (obj : S) : Tables S D U :=
  match e.changelog obj with
  | [] => t
  | change :: _ =>
      if t.notifications.any fun n => n.changelog_id == change.change_id then t
      else
        let notification : Notification S := ⟨change.change_id, obj⟩
        { notifications := t.notifications ++ [notification]
          user_notifications := t.user_notifications ++
            (e.queryset obj change.toChange).map fun s => ⟨notification, s⟩ }

/-- `create_notifications`. -/
def create_notifications (e : Execution S D U) (t : Tables S D U) : Tables S D U :=
  e.objects.foldl (createFor e) t

/-- The notifications after some runs of the task. -/
def afterRuns (history : List (Execution S D U)) : Tables S D U :=
  history.foldl (fun t e => create_notifications e t) ⟨[], []⟩

/-! ## Looks -/

/-- A run of the task and a source it looks at. -/
abbrev Look (S D U : Type) := Execution S D U × S

/-- What the runs look at, in order. -/
def looksOf (history : List (Execution S D U)) : List (Look S D U) :=
  history.flatMap fun e => e.objects.map fun obj => (e, obj)

/-- The notifications after some looks. -/
def afterLooks (t : Tables S D U) (looks : List (Look S D U)) : Tables S D U :=
  looks.foldl (fun t l => createFor l.1 t l.2) t

/-- The newest entry of the source that is looked at. -/
def newest (l : Look S D U) : Option DetailedChange := (l.1.changelog l.2).head?

/-- The entry is the newest of the source and was not before. -/
def FirstSeen (before : List (Look S D U)) (l : Look S D U) (change : DetailedChange) : Prop :=
  newest l = some change ∧
    ∀ l' ∈ before, l'.2 = l.2 → ∀ c, newest l' = some c → c.change_id ≠ change.change_id

/-- Another source had a newest entry with the same id before. -/
def Taken (before : List (Look S D U)) (l : Look S D U) (change : DetailedChange) : Prop :=
  ∃ l' ∈ before, l'.2 ≠ l.2 ∧ ∃ c, newest l' = some c ∧ c.change_id = change.change_id

def notifiedIds (t : Tables S D U) : List Int := t.notifications.map Notification.changelog_id

variable {e : Execution S D U} {t : Tables S D U} {obj : S} {l : Look S D U}
  {before after looks : List (Look S D U)} {change : DetailedChange} {id : Int}
  {s : Subscription D U}

theorem nodup_queryset (e : Execution S D U) (obj : S) (change : Change) :
    (e.queryset obj change).Nodup := by
  have h := e.nodup.filter fun s => s.dataset == e.dataset obj
  unfold Execution.queryset
  dsimp only
  split
  · exact h.filter _
  · split
    · exact h.filter _
    · exact .nil

theorem afterRuns_eq (history : List (Execution S D U)) :
    afterRuns history = afterLooks ⟨[], []⟩ (looksOf history) := by
  unfold afterRuns afterLooks looksOf
  rw [List.foldl_flatMap]
  congr 1
  funext t e
  rw [create_notifications, List.foldl_map]

theorem afterLooks_append (t : Tables S D U) (before after : List (Look S D U)) :
    afterLooks t (before ++ after) = afterLooks (afterLooks t before) after :=
  List.foldl_append

theorem createFor_of_notified (h : newest l = some change)
    (hid : change.change_id ∈ notifiedIds t) : createFor l.1 t l.2 = t := by
  obtain ⟨n, hn, hnid⟩ := List.mem_map.mp hid
  obtain ⟨rest, hlog⟩ := List.head?_eq_some_iff.mp h
  rw [createFor, hlog]
  dsimp only
  rw [if_pos (List.any_eq_true.mpr ⟨n, hn, by simpa using hnid⟩)]

theorem createFor_of_new (h : newest l = some change) (hid : change.change_id ∉ notifiedIds t) :
    createFor l.1 t l.2 =
      { notifications := t.notifications ++ [⟨change.change_id, l.2⟩]
        user_notifications := t.user_notifications ++
          (l.1.queryset l.2 change.toChange).map fun s => ⟨⟨change.change_id, l.2⟩, s⟩ } := by
  obtain ⟨rest, hlog⟩ := List.head?_eq_some_iff.mp h
  rw [createFor, hlog]
  dsimp only
  rw [if_neg]
  rw [List.any_eq_true]
  rintro ⟨n, hn, hnid⟩
  exact hid (List.mem_map.mpr ⟨n, hn, by simpa using hnid⟩)

theorem createFor_of_empty (h : newest l = none) : createFor l.1 t l.2 = t := by
  rw [createFor, List.head?_eq_none_iff.mp h]

theorem mem_notifiedIds_createFor :
    id ∈ notifiedIds (createFor l.1 t l.2) ↔
      id ∈ notifiedIds t ∨ ∃ c, newest l = some c ∧ c.change_id = id := by
  cases h : newest l with
  | none => simp [createFor_of_empty h]
  | some change =>
      by_cases hid : change.change_id ∈ notifiedIds t
      · rw [createFor_of_notified h hid]
        refine ⟨.inl, ?_⟩
        rintro (h | ⟨c, hc, rfl⟩)
        · exact h
        · exact Option.some.inj hc ▸ hid
      · rw [createFor_of_new h hid, notifiedIds, List.map_append, List.mem_append]
        refine or_congr_right ?_
        simp [eq_comm]

theorem mem_notifiedIds_afterLooks (t : Tables S D U) (looks : List (Look S D U)) :
    id ∈ notifiedIds (afterLooks t looks) ↔
      id ∈ notifiedIds t ∨ ∃ l ∈ looks, ∃ c, newest l = some c ∧ c.change_id = id := by
  induction looks generalizing t with
  | nil => simp [afterLooks]
  | cons l looks ih =>
      rw [afterLooks, List.foldl_cons, ← afterLooks, ih, mem_notifiedIds_createFor, or_assoc]
      simp

theorem notified_iff_taken (h : FirstSeen before l change) :
    change.change_id ∈ notifiedIds (afterLooks ⟨[], []⟩ before) ↔ Taken before l change := by
  rw [mem_notifiedIds_afterLooks]
  constructor
  · rintro (h' | ⟨l', hl', c, hc, hid⟩)
    · cases h'
    · exact ⟨l', hl', fun hsame => h.2 l' hl' hsame c hc hid, c, hc, hid⟩
  · rintro ⟨l', hl', -, hc⟩
    exact .inr ⟨l', hl', hc⟩

/-! ## What subscribers get -/

variable [DecidableEq S] [DecidableEq U]

/-- How many notifications there are of an entry of a source for a subscription. -/
def received (t : Tables S D U) (obj : S) (change_id : Int) (s : Subscription D U) : Nat :=
  t.user_notifications.count ⟨⟨change_id, obj⟩, s⟩

/-- Every subscription for the kind of the change gets one notification of it, and none
later. -/
def Notified (before : List (Look S D U)) (l : Look S D U) (after : List (Look S D U))
    (change : DetailedChange) : Prop :=
  ∀ s ∈ l.1.queryset l.2 change.toChange,
    received (afterLooks ⟨[], []⟩ (before ++ [l])) l.2 change.change_id s =
        received (afterLooks ⟨[], []⟩ before) l.2 change.change_id s + 1 ∧
      received (afterLooks ⟨[], []⟩ (before ++ l :: after)) l.2 change.change_id s =
        received (afterLooks ⟨[], []⟩ (before ++ [l])) l.2 change.change_id s

theorem received_createFor_of_notified (hid : id ∈ notifiedIds t) :
    received (createFor l.1 t l.2) obj id s = received t obj id s := by
  cases h : newest l with
  | none => rw [createFor_of_empty h]
  | some change =>
      by_cases hchange : change.change_id ∈ notifiedIds t
      · rw [createFor_of_notified h hchange]
      · have hne : change.change_id ≠ id := by
          rintro rfl
          exact hchange hid
        rw [createFor_of_new h hchange, received, received, List.count_append, Nat.add_eq_left,
          List.count_eq_zero]
        intro hmem
        obtain ⟨s', -, hs'⟩ := List.mem_map.mp hmem
        exact hne (congrArg (fun n => n.notification.changelog_id) hs')

theorem received_afterLooks_of_notified (hid : id ∈ notifiedIds t) (looks : List (Look S D U)) :
    received (afterLooks t looks) obj id s = received t obj id s := by
  induction looks generalizing t with
  | nil => rfl
  | cons l looks ih =>
      rw [afterLooks, List.foldl_cons, ← afterLooks, ih (mem_notifiedIds_createFor.mpr (.inl hid)),
        received_createFor_of_notified hid]

theorem received_createFor_of_new (h : newest l = some change)
    (hid : change.change_id ∉ notifiedIds t) (hs : s ∈ l.1.queryset l.2 change.toChange) :
    received (createFor l.1 t l.2) l.2 change.change_id s =
      received t l.2 change.change_id s + 1 := by
  have hinj : Function.Injective fun s : Subscription D U =>
      (⟨⟨change.change_id, l.2⟩, s⟩ : UserNotification S D U) :=
    fun s s' hss => congrArg UserNotification.subscription hss
  rw [createFor_of_new h hid, received, received, List.count_append]
  rw [List.count_map_of_injective _ _ hinj,
    List.count_eq_one_of_mem (nodup_queryset l.1 l.2 change.toChange) hs]

/-- The subscribers are told of an entry exactly if no other source had one with its id, or
if there are none. -/
theorem notified_iff (h : FirstSeen before l change) :
    Notified before l after change ↔
      ¬ Taken before l change ∨ l.1.queryset l.2 change.toChange = [] := by
  rw [← notified_iff_taken h]
  have hstep : afterLooks ⟨[], []⟩ (before ++ [l]) =
      createFor l.1 (afterLooks ⟨[], []⟩ before) l.2 := afterLooks_append _ _ _
  constructor
  · intro hnotified
    by_contra hnot
    rw [not_or, not_not] at hnot
    obtain ⟨s, hs⟩ := List.exists_mem_of_ne_nil _ hnot.2
    have hone := (hnotified s hs).1
    rw [hstep, createFor_of_notified h.1 hnot.1] at hone
    omega
  · rintro (hid | hnone) s hs
    · have hlater : change.change_id ∈ notifiedIds (afterLooks ⟨[], []⟩ (before ++ [l])) := by
        rw [hstep]
        exact mem_notifiedIds_createFor.mpr (.inr ⟨change, h.1, rfl⟩)
      refine ⟨?_, ?_⟩
      · rw [hstep]
        exact received_createFor_of_new h.1 hid hs
      · rw [show before ++ l :: after = (before ++ [l]) ++ after by simp, afterLooks_append]
        exact received_afterLooks_of_notified hlater after
    · rw [hnone] at hs
      cases hs

end Task

/-! ## One table behind two datasets -/

/-- The entry of a new table. -/
def tableCreated : DetailedChange where
  change_id := 1
  change_date := 0
  table_structure := some [["a", "int"]]
  previous_table_structure := none
  data_hash := none
  previous_data_hash := none
  summary := "Table creation"

/-- A user who subscribed to the second dataset. -/
def secondSubscription : Subscription Nat Nat := ⟨0, 0, 1, true, true⟩

/-- Two source tables of two datasets that are backed by the table. -/
def sharedTable : Execution Nat Nat Nat where
  objects := [0, 1]
  dataset := id
  changelog _ := [tableCreated]
  subscriptions := [secondSubscription]
  nodup := List.nodup_singleton _

end Notifications
