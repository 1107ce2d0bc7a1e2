import DataWorkspace.Datasets.Downloads
import DataWorkspace.Py.Space
import Mathlib.Logic.Function.Basic

/-!
# Reviewed queries

The SQL of a query is given to the users of a data cut once a superuser has ticked the box
`reviewed`.  A query is edited in the form of its data cut, where the box is read only for
those who may manage no more than unpublished data cuts, and in a form of its own, which is
for superusers.  If it is edited with an unpublished data cut after it was reviewed, the box
is cleared.

A clone of a data cut has copies of its queries.  They are reviewed if the queries are, and
nobody has seen a form of them.  `approved` is the text that was last ticked, where a copy
has what the query had that it was made from, and a query that is marked reviewed has that
text (`reviewed_approved`).
-/

namespace Datasets

open Py

/-! ## Users of the admin site -/

/-- A member of staff: whether they may manage unpublished data cuts, and whether they have
Django's own permissions on data cuts and queries. -/
structure Staff where
  is_superuser : Bool
  manage_unpublished : Bool
  permissions : Bool
deriving DecidableEq

namespace Staff

variable (user : Staff)

/-- `has_perm(manage_unpublished_permission_codename)`. -/
def has_perm : Bool := user.is_superuser || user.manage_unpublished

/-- A permission of Django's own. -/
def native_perms : Bool := user.is_superuser || user.permissions

/-- `has_change_permission`, for a data cut. -/
def has_change_permission (published : Bool) : Bool :=
  if user.has_perm then !published || user.native_perms else user.native_perms

/-- `has_add_permission` and `has_view_permission`. -/
def has_add_or_view_permission : Bool := user.has_perm || user.native_perms

/-- The field is read only: `published` of a data cut, or `reviewed` of a query in its form. -/
def extra_readonly : Bool := !user.is_superuser && user.has_perm

end Staff

/-! ## Data cuts and queries -/

/-- The fields of a query apart from its data cut and the box. -/
structure QueryFields where
  name : Str
  database : Str
  query : Str
  frequency : Nat
  data_grid_enabled : Bool
deriving DecidableEq

/-- A custom query of a data cut. -/
structure CutQuery extends QueryFields where
  dataset : Nat
  reviewed : Bool
deriving DecidableEq

/-- The query as the views of the sources see it. -/
def CutQuery.source (q : CutQuery) (id : Nat) (d : Dataset) : CustomDatasetQuery :=
  ⟨id, d, q.database, q.query, q.reviewed, q.data_grid_enabled⟩

/-- What happens to a query.  In a form its text is submitted, with the box where it may be
edited. -/
inductive Event where
  | submitted (query : Nat) (text : Str) (reviewed : Option Bool)
  | cloned (query clone : Nat)

/-- The data cuts, each published or not, their queries, the next ids, and what happened so
far. -/
structure Cuts where
  published : Nat → Option Bool
  queries : Nat → Option CutQuery
  next_dataset : Nat
  next_query : Nat
  history : List Event

/-! ## Forms -/

/-- What a text field makes of a text, or `none` if it is not valid. -/
def clean_text (s : Str) : Option Str :=
  if stripSpace s = [] ∨ '\x00' ∈ s then none else some (stripSpace s)

/-- A query in a form.  `valid` says that the choices of the other fields are valid. -/
structure QueryForm where
  id : Option Nat
  fields : QueryFields
  reviewed : Bool
  delete : Bool
  valid : Bool

/-- The values of the fields. -/
def QueryForm.clean_fields (form : QueryForm) : Option QueryFields := do
  let name ← clean_text form.fields.name
  let query ← clean_text form.fields.query
  if form.valid = true ∧ name.length ≤ 255 then
    some { form.fields with name := name, query := query }
  else none

/-- `CustomDatasetQueryInlineForm.clean`: the box after it.  It is ticked or not where it may
be edited, and was `instance` before. -/
def clean_reviewed (readonly published ticked before changed : Bool) : Option Bool :=
  if !readonly && !ticked && published then none
  else if before && !published && changed then some false
  else some (if readonly then before else ticked)

def Cuts.save (s : Cuts) (id : Nat) (q : CutQuery) (box : Option Bool) : Cuts :=
  { s with
    queries := Function.update s.queries id (some q)
    next_query := max s.next_query (id + 1)
    history := s.history ++ [.submitted id q.query box] }

/-- The box of a form, where it may be edited. -/
def Staff.box (user : Staff) (ticked : Bool) : Option Bool :=
  if user.extra_readonly then none else some ticked

def save_inline (user : Staff) (dataset : Nat) (published : Bool) (s : Cuts)
    (form : QueryForm) : Option Cuts :=
  match form.id with
  | some id => do
      let q ← s.queries id
      if q.dataset = dataset then
        if form.delete && user.native_perms then
          some { s with queries := Function.update s.queries id none }
        else do
          let fields ← form.clean_fields
          let reviewed ← clean_reviewed user.extra_readonly published form.reviewed q.reviewed
            (fields ≠ q.toQueryFields)
          some (s.save id ⟨fields, dataset, reviewed⟩ (user.box form.reviewed))
      else none
  | none =>
      if form.delete && user.native_perms then some s
      else do
        let fields ← form.clean_fields
        let reviewed ← clean_reviewed user.extra_readonly published form.reviewed false true
        some (s.save s.next_query ⟨fields, dataset, reviewed⟩ (user.box form.reviewed))

/-- The forms of the queries in the form of their data cut, at most one for a query. -/
structure QueryFormset where
  forms : List QueryForm
  distinct : (forms.filterMap QueryForm.id).Nodup

/-! ## Operations -/

/-- A form of a data cut, with the forms of its queries. -/
structure DatasetForm where
  id : Option Nat
  published : Bool
  queries : QueryFormset

/-- The form of a data cut is saved, if every form in it is valid. -/
def save_dataset (user : Staff) (s : Cuts) (form : DatasetForm) : Option Cuts :=
  match form.id with
  | none =>
      if user.has_add_or_view_permission then
        let published := !user.extra_readonly && form.published
        form.queries.forms.foldlM (save_inline user s.next_dataset published)
          { s with
            published := Function.update s.published s.next_dataset (some published)
            next_dataset := s.next_dataset + 1 }
      else none
  | some id => do
      let before ← s.published id
      if user.has_change_permission before then
        let published := if user.extra_readonly then before else form.published
        form.queries.forms.foldlM (save_inline user id published)
          { s with published := Function.update s.published id (some published) }
      else none

/-- `CustomDatasetQueryForm`, in which the box may be edited. -/
def save_query (user : Staff) (s : Cuts) (dataset : Nat) (form : QueryForm) : Option Cuts :=
  if user.native_perms then do
    let fields ← form.clean_fields
    let _ ← s.published dataset
    match form.id with
    | some id => do
        let _ ← s.queries id
        some (s.save id ⟨fields, dataset, form.reviewed⟩ (some form.reviewed))
    | none => some (s.save s.next_query ⟨fields, dataset, form.reviewed⟩ (some form.reviewed))
  else none

/-- The copy of a query for a clone. -/
def clone_query (clone : Nat) (s : Cuts) (id : Nat) : Cuts :=
  match s.queries id with
  | none => s
  | some q =>
      { s with
        queries := Function.update s.queries s.next_query (some { q with dataset := clone })
        next_query := s.next_query + 1
        history := s.history ++ [.cloned id s.next_query] }

/-- The queries of a data cut. -/
def Cuts.related (s : Cuts) (dataset : Nat) : List Nat :=
  (List.range s.next_query).filter fun id => (s.queries id).any fun q => q.dataset = dataset

/-- `DataSet.clone`. -/
def clone_dataset (user : Staff) (s : Cuts) (dataset : Nat) : Option Cuts :=
  match s.published dataset with
  | none => none
  | some _ =>
      if user.has_add_or_view_permission then
        some ((s.related dataset).foldl (clone_query s.next_dataset)
          { s with
            published := Function.update s.published s.next_dataset (some false)
            next_dataset := s.next_dataset + 1 })
      else none

inductive Operation where
  | save_dataset (form : DatasetForm)
  | save_query (dataset : Nat) (form : QueryForm)
  | clone (dataset : Nat)

/-- The state after an operation.  One that is refused changes nothing. -/
def Cuts.after (s : Cuts) (user : Staff) (o : Operation) : Cuts :=
  let done :=
    match o with
    | .save_dataset form => save_dataset user s form
    | .save_query dataset form => save_query user s dataset form
    | .clone dataset => clone_dataset user s dataset
  done.getD s

/-- A superuser, or a user who may manage unpublished data cuts and no more. -/
def Staff.Known (user : Staff) : Prop :=
  user.is_superuser = true ∨ user.manage_unpublished = true ∧ user.permissions = false

/-- No data cut and no query. -/
def noCuts : Cuts := ⟨fun _ => none, fun _ => none, 0, 0, []⟩

/-- The states that operations of these users lead to. -/
inductive Cuts.Reachable : Cuts → Prop where
  | start : Cuts.Reachable noCuts
  | step {s : Cuts} {user : Staff} (o : Operation) : Cuts.Reachable s → user.Known →
      Cuts.Reachable (s.after user o)

/-! ## What was approved -/

/-- The text of a query when the box was last ticked in a form of it. -/
def ticked_step (texts : Nat → Option Str) : Event → Nat → Option Str
  | .submitted id text (some true) => Function.update texts id (some text)
  | _ => texts

def last_ticked (history : List Event) : Nat → Option Str :=
  history.foldl ticked_step fun _ => none

/-- The same, where a copy has the text that was approved of the query that it was made from. -/
def approved_step (texts : Nat → Option Str) : Event → Nat → Option Str
  | .cloned id clone => Function.update texts clone (texts id)
  | e => ticked_step texts e

def approved (history : List Event) : Nat → Option Str :=
  history.foldl approved_step fun _ => none

theorem approved_append (history : List Event) (e : Event) :
    approved (history ++ [e]) = approved_step (approved history) e := by
  rw [approved, List.foldl_append]
  rfl

/-! ## The invariant -/

/-- The ids of the queries are used, and a query that is marked reviewed has the text that
was approved. -/
structure Cuts.Approved (s : Cuts) : Prop where
  used : ∀ id q, s.queries id = some q → id < s.next_query
  reviewed : ∀ id q, s.queries id = some q → q.reviewed = true →
    approved s.history id = some q.query

theorem of_clean_reviewed {readonly published ticked before changed : Bool}
    (h : clean_reviewed readonly published ticked before changed = some true) :
    readonly = false ∧ ticked = true ∨
      readonly = true ∧ before = true ∧ (published = false → changed = false) := by
  revert h
  cases readonly <;> cases published <;> cases ticked <;> cases before <;> cases changed <;>
    decide

namespace Cuts.Approved

variable {s s' : Cuts}

theorem save (h : s.Approved) {id : Nat} {q : CutQuery} {box : Option Bool}
    (hq : q.reviewed = true → box = some true ∨
      box = none ∧ approved s.history id = some q.query) : (s.save id q box).Approved := by
  have hothers : ∀ id' ≠ id, approved (s.history ++ [.submitted id q.query box]) id' =
      approved s.history id' := by
    intro id' hne
    rw [approved_append]
    rcases box with - | - | -
    · rfl
    · rfl
    · exact Function.update_of_ne hne ..
  constructor
  · intro id' q' hq'
    by_cases hid : id' = id
    · rw [hid]
      exact Nat.lt_of_lt_of_le (Nat.lt_succ_self id) (Nat.le_max_right ..)
    · have hold : s.queries id' = some q' := (Function.update_of_ne hid ..).symm.trans hq'
      exact Nat.lt_of_lt_of_le (h.used id' q' hold) (Nat.le_max_left ..)
  · intro id' q' hq' hreviewed
    by_cases hid : id' = id
    · subst hid
      have hsaved : (s.save id' q box).queries id' = some q := Function.update_self ..
      obtain rfl : q = q' := Option.some.inj (hsaved.symm.trans hq')
      show approved (s.history ++ _) id' = _
      rw [approved_append]
      rcases hq hreviewed with rfl | ⟨rfl, happroved⟩
      · exact Function.update_self ..
      · exact happroved
    · have hold : s.queries id' = some q' := (Function.update_of_ne hid ..).symm.trans hq'
      exact (hothers id' hid).trans (h.reviewed id' q' hold hreviewed)

theorem delete (h : s.Approved) (id : Nat) :
    Cuts.Approved { s with queries := Function.update s.queries id none } := by
  have hold : ∀ {id' q'}, Function.update s.queries id none id' = some q' →
      s.queries id' = some q' := by
    intro id' q' hq'
    by_cases hid : id' = id
    · rw [hid, Function.update_self] at hq'
      cases hq'
    · exact (Function.update_of_ne hid ..).symm.trans hq'
  exact ⟨fun id' q' hq' => h.used id' q' (hold hq'),
    fun id' q' hq' => h.reviewed id' q' (hold hq')⟩

theorem inline (h : s.Approved) {user : Staff} {dataset : Nat} {published : Bool}
    (hpublished : user.extra_readonly = true → published = false) {form : QueryForm}
    (hs : save_inline user dataset published s form = some s') : s'.Approved := by
  rw [save_inline] at hs
  split at hs
  next id _ =>
    simp only [Option.bind_eq_bind, Option.bind_eq_some_iff] at hs
    obtain ⟨q, hq, hs⟩ := hs
    split at hs
    next hdataset =>
      split at hs
      next =>
        cases hs
        exact h.delete id
      next =>
        simp only [Option.bind_eq_some_iff] at hs
        obtain ⟨fields, -, reviewed, hreviewed, hs⟩ := hs
        cases hs
        refine h.save fun htrue => ?_
        obtain rfl : reviewed = true := htrue
        rcases of_clean_reviewed hreviewed with ⟨hreadonly, hticked⟩ | ⟨hreadonly, hbefore, hsame⟩
        · left
          rw [Staff.box, hreadonly, hticked]
          rfl
        · right
          have hfields : fields = q.toQueryFields := by
            simpa using hsame (hpublished hreadonly)
          rw [Staff.box, hreadonly, hfields]
          exact ⟨rfl, h.reviewed id q hq hbefore⟩
    next => cases hs
  next =>
    split at hs
    next =>
      cases hs
      exact h
    next =>
      simp only [Option.bind_eq_bind, Option.bind_eq_some_iff] at hs
      obtain ⟨fields, -, reviewed, hreviewed, hs⟩ := hs
      cases hs
      refine h.save fun htrue => ?_
      obtain rfl : reviewed = true := htrue
      rcases of_clean_reviewed hreviewed with ⟨hreadonly, hticked⟩ | ⟨-, hbefore, -⟩
      · left
        rw [Staff.box, hreadonly, hticked]
        rfl
      · cases hbefore

theorem inlines {user : Staff} {dataset : Nat} {published : Bool}
    (hpublished : user.extra_readonly = true → published = false) (forms : List QueryForm) :
    ∀ {s : Cuts}, s.Approved → forms.foldlM (save_inline user dataset published) s = some s' →
      s'.Approved := by
  induction forms with
  | nil =>
      intro s h hs
      cases hs
      exact h
  | cons form forms ih =>
      intro s h hs
      simp only [List.foldlM_cons, Option.bind_eq_bind, Option.bind_eq_some_iff] at hs
      obtain ⟨s₁, hs₁, hs⟩ := hs
      exact ih (h.inline hpublished hs₁) hs

theorem dataset (h : s.Approved) {user : Staff} (huser : user.Known) {form : DatasetForm}
    (hs : save_dataset user s form = some s') : s'.Approved := by
  have hcut : ∀ (published : Nat → Option Bool) (next : Nat),
      Cuts.Approved { s with published := published, next_dataset := next } :=
    fun _ _ => ⟨h.used, h.reviewed⟩
  rw [save_dataset] at hs
  split at hs
  next =>
    split at hs
    next =>
      refine inlines (fun hreadonly => ?_) _ (hcut _ _) hs
      rw [hreadonly]
      rfl
    next => cases hs
  next id _ =>
    simp only [Option.bind_eq_bind, Option.bind_eq_some_iff] at hs
    obtain ⟨before, -, hs⟩ := hs
    split at hs
    next hchange =>
      refine inlines (fun hreadonly => ?_) _ (hcut _ s.next_dataset) hs
      rw [if_pos hreadonly]
      obtain ⟨is_superuser, manage_unpublished, permissions⟩ := user
      revert huser hchange hreadonly
      cases is_superuser <;> cases manage_unpublished <;> cases permissions <;> cases before <;>
        simp [Staff.Known, Staff.has_change_permission, Staff.has_perm, Staff.native_perms,
          Staff.extra_readonly]
    next => cases hs

theorem query (h : s.Approved) {user : Staff} {dataset : Nat} {form : QueryForm}
    (hs : save_query user s dataset form = some s') : s'.Approved := by
  have hbox : ∀ (id : Nat) (fields : QueryFields),
      (s.save id ⟨fields, dataset, form.reviewed⟩ (some form.reviewed)).Approved :=
    fun id fields => h.save fun hreviewed => .inl (congrArg some hreviewed)
  rw [save_query] at hs
  split at hs
  next =>
    simp only [Option.bind_eq_bind, Option.bind_eq_some_iff] at hs
    obtain ⟨fields, -, _, -, hs⟩ := hs
    split at hs
    next id _ =>
      simp only [Option.bind_eq_some_iff] at hs
      obtain ⟨_, -, hs⟩ := hs
      cases hs
      exact hbox _ _
    next =>
      cases hs
      exact hbox _ _
  next => cases hs

theorem clone_query (h : s.Approved) (clone id : Nat) : (clone_query clone s id).Approved := by
  rw [Datasets.clone_query]
  split
  next => exact h
  next q hq =>
    have hne : id ≠ s.next_query := (h.used id q hq).ne
    constructor
    · intro id' q' hq'
      by_cases hid : id' = s.next_query
      · rw [hid]
        exact Nat.lt_succ_self _
      · have hold : s.queries id' = some q' := (Function.update_of_ne hid ..).symm.trans hq'
        exact Nat.lt_succ_of_lt (h.used id' q' hold)
    · intro id' q' hq' hreviewed
      show approved (s.history ++ _) id' = _
      rw [approved_append]
      by_cases hid : id' = s.next_query
      · subst hid
        obtain rfl : { q with dataset := clone } = q' :=
          Option.some.inj ((Function.update_self (s.next_query) (some { q with dataset := clone })
            s.queries).symm.trans hq')
        exact (Function.update_self ..).trans (h.reviewed id q hq hreviewed)
      · have hold : s.queries id' = some q' := (Function.update_of_ne hid ..).symm.trans hq'
        exact (Function.update_of_ne hid ..).trans (h.reviewed id' q' hold hreviewed)

theorem clone (h : s.Approved) {user : Staff} {dataset : Nat}
    (hs : clone_dataset user s dataset = some s') : s'.Approved := by
  have hall : ∀ (ids : List Nat) {s : Cuts} (clone : Nat), s.Approved →
      (ids.foldl (Datasets.clone_query clone) s).Approved := by
    intro ids
    induction ids with
    | nil => exact fun _ h => h
    | cons id ids ih => exact fun clone h => ih clone (h.clone_query clone id)
  rw [clone_dataset] at hs
  split at hs
  next => cases hs
  next =>
    split at hs
    next =>
      cases hs
      exact hall _ _ ⟨h.used, h.reviewed⟩
    next => cases hs

theorem after (h : s.Approved) {user : Staff} (huser : user.Known) (o : Operation) :
    (s.after user o).Approved := by
  have hgetD : ∀ done : Option Cuts, (∀ s', done = some s' → s'.Approved) →
      (done.getD s).Approved := by
    intro done hdone
    cases done with
    | none => exact h
    | some s' => exact hdone s' rfl
  cases o with
  | save_dataset form => exact hgetD _ fun s' hs => h.dataset huser hs
  | save_query dataset form => exact hgetD _ fun s' hs => h.query hs
  | clone dataset => exact hgetD _ fun s' hs => h.clone hs

end Cuts.Approved

theorem Cuts.Reachable.approved {s : Cuts} (h : s.Reachable) : s.Approved := by
  induction h with
  | start => exact ⟨fun _ _ h => (nomatch h), fun _ _ h => (nomatch h)⟩
  | step o _ huser ih => exact ih.after huser o

/-- A query that is marked reviewed has the text that was last ticked in a form of it, or of
the query that it is a copy of.  The download and the previews give others than superusers
no other text. -/
theorem reviewed_approved {s : Cuts} (h : s.Reachable) {id : Nat} {q : CutQuery}
    (hq : s.queries id = some q) :
    (q.reviewed = true → approved s.history id = some q.query) ∧
    ∀ (d : Dataset) (viewer : Viewer), viewer.user.is_superuser = false →
      requireReviewed viewer (q.source id d) = .ok () ∨
        (Source.query (q.source id d)).user_can_preview viewer = true →
      approved s.history id = some q.query := by
  have hreviewed := h.approved.reviewed id q hq
  refine ⟨hreviewed, fun d viewer hviewer hgiven => hreviewed ?_⟩
  rcases hgiven with hgiven | hgiven
  · rw [requireReviewed, hviewer] at hgiven
    cases hq : q.reviewed with
    | true => rfl
    | false => simp [CutQuery.source, hq] at hgiven
  · rw [Source.user_can_preview, hviewer, Bool.or_false] at hgiven
    exact hgiven

/-! ## A copy, and a query that was ticked before -/

namespace Cut

def superuser : Staff := ⟨true, true, true⟩

def fields (query : Str) : QueryFields := ⟨"n", "datasets", query, 1, true⟩

/-- A new data cut with a query that is ticked. -/
def form (published : Bool) : DatasetForm where
  id := none
  published := published
  queries := ⟨[⟨none, fields "SELECT 1", true, false, true⟩], List.nodup_nil⟩

/-- A data cut is saved with its query, and cloned. -/
def copied : Cuts :=
  (noCuts.after superuser (.save_dataset (form false))).after superuser (.clone 0)

/-- A data cut is published with its query.  The query is changed in its own form, and the
box is not ticked. -/
def changed : Cuts :=
  (noCuts.after superuser (.save_dataset (form true))).after superuser
    (.save_query 0 ⟨some 0, fields "SELECT 2", false, false, true⟩)

theorem reachable_copied : copied.Reachable := .step _ (.step _ .start (.inl rfl)) (.inl rfl)

theorem reachable_changed : changed.Reachable := .step _ (.step _ .start (.inl rfl)) (.inl rfl)

/-- The query after it is changed. -/
def query : CutQuery := ⟨fields "SELECT 2", 0, false⟩

def source : CustomDatasetQuery := query.source 0 (Draft.dataset true false)

def sources : Sources where
  datasets := [Draft.dataset true false]
  links := []
  views := []
  tables := []
  queries := [source]
  visualisations := []
  unique := List.nodup_singleton _
  link_dataset l hl := absurd hl List.not_mem_nil
  view_dataset v hv := absurd hv List.not_mem_nil
  table_dataset t ht := absurd ht List.not_mem_nil
  query_dataset q hq := by
    rw [List.mem_singleton.mp hq]
    exact List.mem_singleton_self _
  visualisation_dataset v hv := absurd hv List.not_mem_nil

end Cut

open Cut in
/-- The query of the copy was approved when the box of the other one was ticked. -/
theorem reviewed_approved_copied : approved copied.history 1 = some "SELECT 1".toList :=
  (reviewed_approved reachable_copied
    (show copied.queries 1 = some ⟨fields "SELECT 1", 1, true⟩ by decide +kernel)).1 rfl

open Cut in
/-- A copy is marked reviewed, and no form of it was submitted.  The data grid gives a user
without any permission the rows of a query of a published data cut that was changed after the
box was ticked. -/
theorem reviewed_without_form :
    (copied.Reachable ∧ copied.queries 1 = some ⟨fields "SELECT 1", 1, true⟩ ∧
      last_ticked copied.history 1 = none) ∧
    (changed.Reachable ∧ changed.published 0 = some true ∧ changed.queries 0 = some query ∧
      DataGridDataView.dispatch Draft.environment sources Draft.viewer .POST none "d" (.query 0) =
        .ok (.rows (.query source)) ∧
      last_ticked changed.history 0 ≠ some query.query) := by
  refine ⟨⟨reachable_copied, ?_, ?_⟩, reachable_changed, ?_, ?_, by rfl, ?_⟩
  all_goals decide +kernel

end Datasets
