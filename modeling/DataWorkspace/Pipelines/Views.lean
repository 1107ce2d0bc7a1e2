import DataWorkspace.Datasets.Models
import DataWorkspace.Http.Method
import DataWorkspace.Py.Collections
import DataWorkspace.Py.Mro
import DataWorkspace.Py.Text

/-!
# The pages of the pipelines

Pipelines are listed, created, edited, deleted, run and stopped on six pages.  Each view
names a view of Django as its first base and the test for superusers as its second.
`View.dispatch` does not call `super().dispatch`, and all ancestors of the first base come
before the second, so that the test is never made (`dispatch_handled`).

A run is a list of requests with the answers of Data Flow.  `untouched_iff` says which
runs leave the pipelines alone and list none: those where each request would do nothing
whoever made it.
-/

namespace Pipelines

open Py Datasets Http

/-! ## Method resolution -/

/-- The views of Django that are bases. -/
inductive Generic where
  | View | ListView | CreateView | UpdateView | DeleteView
deriving DecidableEq, Repr

/-- How a class defines `dispatch`: it calls the handler of the method, or it makes a test
and then calls `super().dispatch`. -/
inductive Dispatch where
  | handler | test
deriving DecidableEq, Repr

structure Django where
  Class : Type
  decidableEq : DecidableEq Class
  generic : Generic → Class
  UserPassesTestMixin : Class
  object : Class
  /-- The ancestors of a view between it and `object`, in their order. -/
  ancestors : Generic → List Class
  /-- Those of `UserPassesTestMixin`. -/
  mixin_ancestors : List Class
  /-- The classes that define `dispatch`. -/
  dispatch : Class → Option Dispatch
  nodup : ∀ g, (generic g :: ancestors g ++ [object]).Nodup
  mixin_nodup : (UserPassesTestMixin :: mixin_ancestors ++ [object]).Nodup
  /-- Views and the mixin share nothing but `object`. -/
  disjoint : ∀ g, (generic g :: ancestors g).Disjoint (UserPassesTestMixin :: mixin_ancestors)
  view_dispatch : dispatch (generic .View) = some .handler
  mixin_dispatch : dispatch UserPassesTestMixin = some .test
  /-- Every view is a `View`, and takes `dispatch` from it. -/
  dispatch_from_view : ∀ g, ∃ before after,
    generic g :: ancestors g = before ++ generic .View :: after ∧ ∀ c ∈ before, dispatch c = none

inductive Page where
  | index | create | edit (pk : Nat) | delete (pk : Nat) | run (pk : Nat) | stop (pk : Nat)
deriving DecidableEq, Repr

/-- The first base of the view of a page.  The second is `IsAdminMixin`. -/
def Page.base : Page → Generic
  | .index => .ListView
  | .create => .CreateView
  | .edit _ => .UpdateView
  | .delete _ => .DeleteView
  | .run _ => .View
  | .stop _ => .View

/-- The classes of Django, the mixin for superusers, and the view of a page. -/
inductive Cls (D : Django) where
  | django (c : D.Class)
  | IsAdminMixin
  | view

instance (D : Django) : DecidableEq (Cls D)
  | .django c, .django d =>
      have := D.decidableEq
      if h : c = d then .isTrue (h ▸ rfl) else .isFalse fun h' => h (Cls.django.inj h')
  | .IsAdminMixin, .IsAdminMixin => .isTrue rfl
  | .view, .view => .isTrue rfl
  | .django _, .IsAdminMixin => .isFalse (by intro h; cases h)
  | .django _, .view => .isFalse (by intro h; cases h)
  | .IsAdminMixin, .django _ => .isFalse (by intro h; cases h)
  | .IsAdminMixin, .view => .isFalse (by intro h; cases h)
  | .view, .django _ => .isFalse (by intro h; cases h)
  | .view, .IsAdminMixin => .isFalse (by intro h; cases h)

/-- Only classes of Django define `dispatch`. -/
def Cls.dispatch {D : Django} : Cls D → Option Dispatch
  | .django c => D.dispatch c
  | .IsAdminMixin => none
  | .view => none

def Page.mro (D : Django) (page : Page) : Option (List (Cls D)) :=
  (Py.mro Cls.IsAdminMixin
      [(D.UserPassesTestMixin :: D.mixin_ancestors ++ [D.object]).map Cls.django]).bind fun admin =>
    Py.mro Cls.view
      [(D.generic page.base :: D.ancestors page.base ++ [D.object]).map Cls.django, admin]

/-- What becomes of a call of `dispatch`. -/
inductive Dispatched where
  | handled | denied | missing
deriving DecidableEq, Repr

/-- `dispatch`, along the order of the ancestors. -/
def dispatch (test_func : Bool) : List (Option Dispatch) → Dispatched
  | [] => .missing
  | none :: rest => dispatch test_func rest
  | some .handler :: _ => .handled
  | some .test :: rest => if test_func then dispatch test_func rest else .denied

def Page.dispatch (D : Django) (page : Page) (test_func : Bool) : Dispatched :=
  match page.mro D with
  | none => .missing
  | some order => Pipelines.dispatch test_func (order.map Cls.dispatch)

/-! ## Forms -/

structure Pipeline where
  id : Nat
  table_name : Str
  sql_query : Str
  created_by : Option Nat
  updated_by : Option Nat
deriving DecidableEq, Repr

def Pipeline.dag_id (p : Pipeline) : Str := "DerivedPipeline-" ++ p.table_name

/-- A letter or underscore, and then letters, digits and underscores. -/
def isName (s : Str) : Bool :=
  match s with
  | [] => false
  | c :: rest => (c.isAlpha || c == '_') && rest.all fun c => c.isAlphanum || c == '_'

/-- The regular expression of the table name.  Its dot is any character but a newline.  The
value was stripped, so that the end is the end. -/
def matchesTableName (s : Str) : Bool :=
  (List.range s.length).any fun i =>
    isName (s.take i) && (s[i]?).any (· != '\n') && isName (s.drop (i + 1))

def formatMessage : Str := "Table name must be in the format <schema>.<table name>"

/-- `validate_schema_and_table`: its message, if it raises. -/
def validate_schema_and_table (value : Str) : List Str :=
  match value.splitOn '.' with
  | [schema, table] =>
      if 63 < schema.length then ["Schema name must be less than 63 characters"]
      else if 42 < table.length then ["Table name must be less than 42 characters"]
      else []
  | _ => [formatMessage]

def nullMessage (value : Str) : List Str :=
  if value.contains '\x00' then ["Null characters are not allowed."] else []

/-- The errors of the table name, among pipelines with these names. -/
def tableNameErrors (taken : List Str) (value : Str) : List Str :=
  if value = [] then ["Enter a table name."]
  else
    let messages := (if matchesTableName value then [] else [formatMessage]) ++
      validate_schema_and_table value ++ nullMessage value
    if messages = [] ∧ value ∈ taken then ["Pipeline with this Table name already exists."]
    else messages

def sqlQueryErrors (value : Str) : List Str :=
  if value = [] then ["Enter an SQL query."] else nullMessage value

/-- The errors of a form, by field. -/
def formErrors (taken : List Str) (table_name sql_query : Str) : List (Str × Str) :=
  (tableNameErrors taken (strip table_name)).map (("table_name" : Str), ·) ++
    (sqlQueryErrors (strip sql_query)).map (("sql_query" : Str), ·)

/-! ## Data Flow -/

/-- The calls of Data Flow that change something there. -/
inductive Call where
  | save (method dag_id schema_name table_name sql : Str)
  | delete (dag_id : Str)
  | run (dag_id run_by_user : Str)
  | stop (dag_id : Str)
deriving DecidableEq, Repr

/-- How Data Flow answers: it has done it, it has done it and the call raises, or it has not.
An error may have a status. -/
inductive Outcome where
  | done
  | done_raises (status_code : Option Nat)
  | refused (status_code : Option Nat)
deriving DecidableEq, Repr

/-- The pipelines, the next id, and what Data Flow has done. -/
structure State where
  pipelines : List Pipeline
  next_id : Nat
  dataflow : List Call
deriving DecidableEq, Repr

def State.find (s : State) (pk : Nat) : Option Pipeline := s.pipelines.find? fun p => p.id == pk

def State.remove (s : State) (pk : Nat) : State :=
  { s with pipelines := s.pipelines.filter fun p => p.id != pk }

def State.update (s : State) (p : Pipeline) : State :=
  { s with pipelines := s.pipelines.map fun q => if q.id = p.id then p else q }

def State.insert (s : State) (table_name sql_query : Str) (created_by : Nat) : State :=
  { s with
    pipelines := s.pipelines ++ [⟨s.next_id, table_name, sql_query, some created_by, none⟩]
    next_id := s.next_id + 1 }

/-- A call: how it raises, if it does. -/
def call (answer : Call → Outcome) (c : Call) (s : State) : Except (Option Nat) Unit × State :=
  match answer c with
  | .done => (.ok (), { s with dataflow := s.dataflow ++ [c] })
  | .done_raises status_code => (.error status_code, { s with dataflow := s.dataflow ++ [c] })
  | .refused status_code => (.error status_code, s)

/-- `save_pipeline_to_dataflow`, `none` where the name does not come apart. -/
def save_pipeline_to_dataflow (method : Str) (p : Pipeline) : Option Call :=
  match p.table_name.splitOn '.' with
  | [schema_name, table_name] => some (.save method p.dag_id schema_name table_name p.sql_query)
  | _ => none

/-! ## The views -/

/-- Who makes a request. -/
structure Requester where
  user : User
  full_name : Str
deriving DecidableEq, Repr

structure Request where
  page : Page
  method : Method
  /-- `authenticate(request)`. -/
  requester : Option Requester
  /-- The fields of the body. -/
  table_name : Str
  sql_query : Str
deriving DecidableEq, Repr

/-- A field in `request.POST`, which is empty for other methods. -/
def Request.posted (r : Request) (field : Str) : Str := if r.method = .POST then field else []

/-- The replies. -/
inductive Response where
  | forbidden
  | not_found
  | not_allowed
  | server_error
  /-- Only headers. -/
  | headers
  /-- To the list of pipelines, with messages. -/
  | redirect (messages : List Str)
  /-- The list of pipelines, with what Data Flow says of each. -/
  | list (listed : List (Pipeline × Option Str))
  | form (pipeline : Option Pipeline) (errors : List (Str × Str)) (messages : List Str)
  | confirm (pipeline : Pipeline)
deriving DecidableEq, Repr

/-- What Data Flow answers while a request is served: to calls, and for the list.  A list it
does not send is `none`. -/
structure Answers where
  answer : Call → Outcome
  derived_dags : Option (Dict Str Str)

section Views

variable (env : Answers) (s : State) (user : Requester) (r : Request)

def PipelineListView.get : Response :=
  .list (s.pipelines.map fun p => (p, env.derived_dags.bind fun dags => dags.get? p.dag_id))

/-- `form_valid` of the forms: Data Flow is called first, and then the pipeline is saved. -/
def form_valid (method success : Str) (p : Pipeline) (saved : State → State) : Response × State :=
  match save_pipeline_to_dataflow method p with
  | none => (.server_error, s)
  | some c =>
      match call env.answer c s with
      | (.ok (), s) => (.redirect [success], saved s)
      | (.error _, s) =>
          (.form (some p) []
            ["Unable to sync pipeline to data flow. Please try saving again"], s)

def PipelineCreateView.post : Response × State :=
  let table_name := r.posted r.table_name
  let sql_query := r.posted r.sql_query
  let errors := formErrors (s.pipelines.map Pipeline.table_name) table_name sql_query
  if errors = [] then
    form_valid env s "POST" "Pipeline created successfully."
      ⟨s.next_id, strip table_name, strip sql_query, some user.user.id, none⟩
      fun s => s.insert (strip table_name) (strip sql_query) user.user.id
  else (.form none errors [], s)

def editErrors (p : Pipeline) : List (Str × Str) :=
  formErrors ((s.pipelines.filter fun q => q.id != p.id).map Pipeline.table_name) p.table_name
    (r.posted r.sql_query)

def PipelineUpdateView.post (p : Pipeline) : Response × State :=
  let errors := editErrors s r p
  if errors = [] then
    let p' := { p with
      table_name := strip p.table_name
      sql_query := strip (r.posted r.sql_query)
      updated_by := some user.user.id }
    form_valid env s "PUT" "Pipeline updated successfully." p' fun s => s.update p'
  else (.form (some p) errors [], s)

def PipelineDeleteView.delete (p : Pipeline) : Response × State :=
  match call env.answer (.delete p.dag_id) s with
  | (.ok (), s) => (.redirect ["Pipeline deleted successfully."], s.remove p.id)
  | (.error status_code, s) =>
      if status_code = some 404 then (.redirect ["Pipeline deleted successfully."], s.remove p.id)
      else (.redirect ["There was a problem deleting the pipeline. If the issue persists please " ++
        "contact our support team."], s)

def PipelineRunView.post (p : Pipeline) : Response × State :=
  match call env.answer (.run p.dag_id user.full_name) s with
  | (.ok (), s) => (.redirect ["Pipeline triggered successfully."], s)
  | (.error _, s) => (.redirect ["There was a problem running the pipeline. If the issue persists " ++
      "please contact our support team."], s)

def PipelineStopView.post (p : Pipeline) : Response × State :=
  match call env.answer (.stop p.dag_id) s with
  | (.ok (), s) => (.redirect ["Pipeline stopped successfully."], s)
  | (.error _, s) => (.redirect ["There was a problem stopping the pipeline. If the issue persists " ++
      "please contact our support team."], s)

def onPipeline (pk : Nat) (view : Pipeline → Response × State) : Response × State :=
  match s.find pk with
  | none => (.not_found, s)
  | some p => view p

/-- The handlers of a page. -/
def handle : Response × State :=
  match r.page, r.method with
  | _, .OPTIONS => (.headers, s)
  | .index, .GET => (PipelineListView.get env s, s)
  | .index, .HEAD => (.headers, s)
  | .create, .GET => (.form none [] [], s)
  | .create, .HEAD => (.headers, s)
  | .create, .POST => PipelineCreateView.post env s user r
  | .create, .PUT => PipelineCreateView.post env s user r
  | .edit pk, .GET => onPipeline s pk fun p => (.form (some p) [] [], s)
  | .edit pk, .HEAD => onPipeline s pk fun _ => (.headers, s)
  | .edit pk, .POST => onPipeline s pk (PipelineUpdateView.post env s user r)
  | .edit pk, .PUT => onPipeline s pk (PipelineUpdateView.post env s user r)
  | .delete pk, .GET => onPipeline s pk fun p => (.confirm p, s)
  | .delete pk, .HEAD => onPipeline s pk fun _ => (.headers, s)
  | .delete pk, .POST => onPipeline s pk (PipelineDeleteView.delete env s)
  | .delete pk, .DELETE => onPipeline s pk (PipelineDeleteView.delete env s)
  | .run pk, .POST => onPipeline s pk (PipelineRunView.post env s user)
  | .stop pk, .POST => onPipeline s pk (PipelineStopView.post env s)
  | _, _ => (.not_allowed, s)

end Views

/-- A request: `login_required`, `dispatch`, and the handler. -/
def serve (D : Django) (env : Answers) (s : State) (r : Request) : Response × State :=
  match r.requester with
  | none => (.forbidden, s)
  | some user =>
      match r.page.dispatch D user.user.is_superuser with
      | .handled => handle env s user r
      | .denied => (.forbidden, s)
      | .missing => (.server_error, s)

/-! ## Runs -/

/-- The replies to some requests and the states after them. -/
def run (D : Django) (s : State) : List (Request × Answers) → List (Response × State)
  | [] => []
  | (r, env) :: rest => serve D env s r :: run D (serve D env s r).2 rest

/-- A reply lists no pipeline. -/
def Response.ListsNone : Response → Prop
  | .list listed => listed = []
  | _ => True

/-- Nothing is listed, created, changed, deleted, run or stopped, from a state on. -/
def Untouched (s : State) (replies : List (Response × State)) : Prop :=
  ∀ reply ∈ replies, reply.1.ListsNone ∧ reply.2 = s

/-- Data Flow does not do this. -/
def Refuses (env : Answers) (c : Call) : Prop := ∃ status_code, env.answer c = .refused status_code

/-- A request that does nothing, whoever makes it. -/
def Harmless (s : State) (r : Request) (env : Answers) : Prop :=
  ∀ user, r.requester = some user →
    match r.page with
    | .index => r.method = .GET → s.pipelines = []
    | .create => r.method = .POST →
        formErrors (s.pipelines.map Pipeline.table_name) r.table_name r.sql_query = [] →
          ∀ c, save_pipeline_to_dataflow "POST" ⟨s.next_id, strip r.table_name, strip r.sql_query,
            some user.user.id, none⟩ = some c → Refuses env c
    | .edit pk => r.method = .POST → ∀ p, s.find pk = some p →
        editErrors s r p = [] → ∀ c, save_pipeline_to_dataflow "PUT" { p with
          table_name := strip p.table_name, sql_query := strip r.sql_query,
          updated_by := some user.user.id } = some c → Refuses env c
    | .delete pk => r.method = .POST ∨ r.method = .DELETE → ∀ p, s.find pk = some p →
        ∃ status_code, env.answer (.delete p.dag_id) = .refused status_code ∧ status_code ≠ some 404
    | .run pk => r.method = .POST → ∀ p, s.find pk = some p →
        Refuses env (.run p.dag_id user.full_name)
    | .stop pk => r.method = .POST → ∀ p, s.find pk = some p → Refuses env (.stop p.dag_id)

/-! ## The test is never made -/

section Dispatch

variable {D : Django}

theorem django_injective : Function.Injective (Cls.django (D := D)) := by
  intro c d h
  exact Cls.django.inj h

theorem mro_eq (page : Page) : page.mro D = some (.view ::
    ((D.generic page.base :: D.ancestors page.base).map Cls.django ++
      .IsAdminMixin :: (D.UserPassesTestMixin :: D.mixin_ancestors).map Cls.django ++
      [.django D.object])) := by
  have hadmin : Py.mro Cls.IsAdminMixin
      [(D.UserPassesTestMixin :: D.mixin_ancestors ++ [D.object]).map Cls.django] =
        some (.IsAdminMixin :: (D.UserPassesTestMixin :: D.mixin_ancestors ++ [D.object]).map
          Cls.django) :=
    mro_single _ (D.mixin_nodup.map django_injective)
  have hnodup : ((D.generic page.base :: D.ancestors page.base ++ [D.object]).map
      (Cls.django (D := D))).Nodup := (D.nodup page.base).map django_injective
  have hmixin : (Cls.IsAdminMixin :: (D.UserPassesTestMixin :: D.mixin_ancestors ++ [D.object]).map
      (Cls.django (D := D))).Nodup := by
    refine List.nodup_cons.mpr ⟨fun h => ?_, D.mixin_nodup.map django_injective⟩
    obtain ⟨c, -, hc⟩ := List.mem_map.mp h
    cases hc
  have hdisjoint : ((D.generic page.base :: D.ancestors page.base).map
      (Cls.django (D := D))).Disjoint (.IsAdminMixin ::
        (D.UserPassesTestMixin :: D.mixin_ancestors).map Cls.django) := by
    intro c hc hm
    obtain ⟨c, hview, rfl⟩ := List.mem_map.mp hc
    rcases List.mem_cons.mp hm with h | hm
    · cases h
    · obtain ⟨d, hd, h⟩ := List.mem_map.mp hm
      exact D.disjoint page.base hview (Cls.django.inj h ▸ hd)
  unfold Page.mro
  rw [hadmin]
  simp only [List.map_append, List.map_cons, List.map_nil] at hnodup hmixin hdisjoint ⊢
  exact mro_pair _ hnodup hmixin hdisjoint

theorem dispatch_append {test_func : Bool} {before rest : List (Option Dispatch)}
    (h : ∀ d ∈ before, d = none) :
    dispatch test_func (before ++ rest) = dispatch test_func rest := by
  induction before with
  | nil => rfl
  | cons d before ih =>
      obtain ⟨rfl, hbefore⟩ := List.forall_mem_cons.mp h
      exact ih hbefore

theorem dispatch_handled (page : Page) (test_func : Bool) :
    page.dispatch D test_func = .handled := by
  obtain ⟨before, after, hview, hbefore⟩ := D.dispatch_from_view page.base
  unfold Page.dispatch
  rw [mro_eq, hview]
  simp only [List.map_cons, List.map_append, List.append_assoc, List.cons_append]
  show dispatch test_func ((before.map Cls.django).map Cls.dispatch ++ _) = _
  rw [dispatch_append]
  · show dispatch test_func (D.dispatch (D.generic .View) :: _) = _
    rw [D.view_dispatch]
    rfl
  · intro d hd
    rw [List.map_map] at hd
    obtain ⟨c, hc, rfl⟩ := List.mem_map.mp hd
    exact hbefore c hc

end Dispatch

/-! ## One request -/

section Requests

variable {env : Answers} {s : State} {user : Requester} {r : Request}

def Idle (s : State) (reply : Response × State) : Prop := reply.1.ListsNone ∧ reply.2 = s

theorem insert_dataflow (t : State) (table_name sql_query : Str) (created_by : Nat) :
    (t.insert table_name sql_query created_by).dataflow = t.dataflow := rfl

theorem update_dataflow (t : State) (p : Pipeline) : (t.update p).dataflow = t.dataflow := rfl

theorem dataflow_ne (c : Call) : { s with dataflow := s.dataflow ++ [c] } ≠ s := by
  intro h
  have hlength := congrArg (fun t : State => t.dataflow.length) h
  simp at hlength

theorem form_valid_idle_iff {method success : Str} {p : Pipeline} {saved : State → State}
    (hsaved : ∀ t, (saved t).dataflow = t.dataflow) :
    Idle s (form_valid env s method success p saved) ↔
      ∀ c, save_pipeline_to_dataflow method p = some c → Refuses env c := by
  unfold form_valid Idle Refuses
  cases save_pipeline_to_dataflow method p with
  | none => simp [Response.ListsNone]
  | some c =>
      simp only [Option.some.injEq, forall_eq', call]
      cases env.answer c with
      | done =>
          refine iff_of_false (fun h => ?_) (by simp)
          have hlength := congrArg (fun t : State => t.dataflow.length) h.2
          simp [hsaved] at hlength
      | done_raises status_code => exact iff_of_false (fun h => dataflow_ne c h.2) (by simp)
      | refused status_code => exact iff_of_true ⟨trivial, rfl⟩ ⟨_, rfl⟩

theorem onPipeline_idle_iff {pk : Nat} {view : Pipeline → Response × State} :
    Idle s (onPipeline s pk view) ↔ ∀ p, s.find pk = some p → Idle s (view p) := by
  unfold onPipeline
  cases s.find pk with
  | none => simp [Idle, Response.ListsNone]
  | some p => simp

theorem run_idle_iff {p : Pipeline} :
    Idle s (PipelineRunView.post env s user p) ↔ Refuses env (.run p.dag_id user.full_name) := by
  unfold PipelineRunView.post Idle Refuses call
  cases env.answer (.run p.dag_id user.full_name) with
  | done => exact iff_of_false (fun h => dataflow_ne _ h.2) (by simp)
  | done_raises status_code => exact iff_of_false (fun h => dataflow_ne _ h.2) (by simp)
  | refused status_code => exact iff_of_true ⟨trivial, rfl⟩ ⟨_, rfl⟩

theorem stop_idle_iff {p : Pipeline} :
    Idle s (PipelineStopView.post env s p) ↔ Refuses env (.stop p.dag_id) := by
  unfold PipelineStopView.post Idle Refuses call
  cases env.answer (.stop p.dag_id) with
  | done => exact iff_of_false (fun h => dataflow_ne _ h.2) (by simp)
  | done_raises status_code => exact iff_of_false (fun h => dataflow_ne _ h.2) (by simp)
  | refused status_code => exact iff_of_true ⟨trivial, rfl⟩ ⟨_, rfl⟩

theorem remove_ne {p : Pipeline} {pk : Nat} (h : s.find pk = some p) : s.remove p.id ≠ s := by
  intro hremove
  have hmem : p ∈ s.pipelines := List.mem_of_find?_eq_some h
  rw [← hremove] at hmem
  have hne := (List.mem_filter.mp hmem).2
  simp at hne

theorem delete_idle_iff {p : Pipeline} {pk : Nat} (h : s.find pk = some p) :
    Idle s (PipelineDeleteView.delete env s p) ↔ ∃ status_code,
      env.answer (.delete p.dag_id) = .refused status_code ∧ status_code ≠ some 404 := by
  unfold PipelineDeleteView.delete Idle call
  cases env.answer (.delete p.dag_id) with
  | done =>
      refine iff_of_false (fun hidle => ?_) (by simp)
      have hlength := congrArg (fun t : State => t.dataflow.length) hidle.2
      simp [State.remove] at hlength
  | done_raises status_code =>
      refine iff_of_false (fun hidle => ?_) (by simp)
      have hlength := congrArg (fun t : State => t.dataflow.length) hidle.2
      dsimp only at hlength
      split at hlength <;> simp [State.remove] at hlength
  | refused status_code =>
      dsimp only
      by_cases h404 : status_code = some 404
      · rw [if_pos h404]
        exact iff_of_false (fun hidle => remove_ne h hidle.2) (by simp [h404])
      · rw [if_neg h404]
        exact iff_of_true ⟨trivial, rfl⟩ ⟨_, rfl, h404⟩

theorem sqlQueryErrors_nil : sqlQueryErrors (strip []) = ["Enter an SQL query."] := by decide

theorem formErrors_nil (taken : List Str) (table_name : Str) : formErrors taken table_name [] ≠ [] := by
  unfold formErrors
  rw [sqlQueryErrors_nil]
  simp

theorem posted_of_POST (h : r.method = .POST) (field : Str) : r.posted field = field := if_pos h

theorem posted_of_ne (h : r.method ≠ .POST) (field : Str) : r.posted field = [] := if_neg h

theorem create_idle_iff : Idle s (PipelineCreateView.post env s user r) ↔
    (r.method = .POST →
      formErrors (s.pipelines.map Pipeline.table_name) r.table_name r.sql_query = [] →
        ∀ c, save_pipeline_to_dataflow "POST" ⟨s.next_id, strip r.table_name, strip r.sql_query,
          some user.user.id, none⟩ = some c → Refuses env c) := by
  unfold PipelineCreateView.post
  dsimp only
  by_cases hmethod : r.method = .POST
  · rw [posted_of_POST hmethod, posted_of_POST hmethod]
    split
    next herrors =>
        rw [form_valid_idle_iff fun t => insert_dataflow t _ _ _]
        exact ⟨fun h _ _ => h, fun h => h hmethod herrors⟩
    next herrors => exact iff_of_true ⟨trivial, rfl⟩ fun _ h => absurd h herrors
  · rw [posted_of_ne hmethod, posted_of_ne hmethod, if_neg (formErrors_nil _ _)]
    exact iff_of_true ⟨trivial, rfl⟩ fun h => absurd h hmethod

theorem update_idle_iff {p : Pipeline} : Idle s (PipelineUpdateView.post env s user r p) ↔
    (r.method = .POST → editErrors s r p = [] → ∀ c, save_pipeline_to_dataflow "PUT" { p with
      table_name := strip p.table_name, sql_query := strip r.sql_query,
      updated_by := some user.user.id } = some c → Refuses env c) := by
  unfold PipelineUpdateView.post
  dsimp only
  by_cases hmethod : r.method = .POST
  · rw [posted_of_POST hmethod]
    split
    next herrors =>
        rw [form_valid_idle_iff fun t => update_dataflow t _]
        exact ⟨fun h _ _ => h, fun h => h hmethod herrors⟩
    next herrors => exact iff_of_true ⟨trivial, rfl⟩ fun _ h => absurd h herrors
  · have herrors : editErrors s r p ≠ [] := by
      unfold editErrors
      rw [posted_of_ne hmethod]
      exact formErrors_nil _ _
    rw [if_neg herrors]
    exact iff_of_true ⟨trivial, rfl⟩ fun h => absurd h hmethod

theorem list_idle_iff : Idle s (PipelineListView.get env s, s) ↔ s.pipelines = [] := by
  simp [Idle, PipelineListView.get, Response.ListsNone]

theorem serve_idle_iff (D : Django) : Idle s (serve D env s r) ↔ Harmless s r env := by
  unfold serve Harmless
  cases hrequester : r.requester with
  | none => exact iff_of_true ⟨trivial, rfl⟩ fun _ h => by cases h
  | some user =>
      simp only [dispatch_handled, Option.some.injEq, forall_eq']
      unfold handle
      cases hpage : r.page with
      | index =>
          cases hmethod : r.method with
          | GET => simpa using list_idle_iff
          | _ => exact iff_of_true ⟨trivial, rfl⟩ (by simp)
      | create =>
          cases hmethod : r.method with
          | POST => simpa [hmethod] using create_idle_iff (r := r)
          | PUT => simpa [hmethod] using create_idle_iff (r := r)
          | _ => exact iff_of_true ⟨trivial, rfl⟩ (by simp)
      | edit pk =>
          cases hmethod : r.method with
          | POST => simp [hmethod, onPipeline_idle_iff, update_idle_iff]
          | PUT => simp [hmethod, onPipeline_idle_iff, update_idle_iff]
          | GET => exact iff_of_true (onPipeline_idle_iff.mpr fun _ _ => ⟨trivial, rfl⟩) (by simp)
          | HEAD => exact iff_of_true (onPipeline_idle_iff.mpr fun _ _ => ⟨trivial, rfl⟩) (by simp)
          | _ => exact iff_of_true ⟨trivial, rfl⟩ (by simp)
      | delete pk =>
          have hdelete : Idle s (onPipeline s pk (PipelineDeleteView.delete env s)) ↔
              ∀ p, s.find pk = some p → ∃ status_code,
                env.answer (.delete p.dag_id) = .refused status_code ∧ status_code ≠ some 404 :=
            onPipeline_idle_iff.trans (forall₂_congr fun p hp => delete_idle_iff hp)
          cases hmethod : r.method with
          | POST => simpa using hdelete
          | DELETE => simpa using hdelete
          | GET => exact iff_of_true (onPipeline_idle_iff.mpr fun _ _ => ⟨trivial, rfl⟩) (by simp)
          | HEAD => exact iff_of_true (onPipeline_idle_iff.mpr fun _ _ => ⟨trivial, rfl⟩) (by simp)
          | _ => exact iff_of_true ⟨trivial, rfl⟩ (by simp)
      | run pk =>
          cases hmethod : r.method with
          | POST => simp [onPipeline_idle_iff, run_idle_iff]
          | _ => exact iff_of_true ⟨trivial, rfl⟩ (by simp)
      | stop pk =>
          cases hmethod : r.method with
          | POST => simp [onPipeline_idle_iff, stop_idle_iff]
          | _ => exact iff_of_true ⟨trivial, rfl⟩ (by simp)

end Requests

/-! ## A whole run -/

namespace NoSuperuser

/-- The classes of Django that matter here. -/
inductive Class where
  | generic (g : Generic) | mixin | object
deriving DecidableEq, Repr

/-- Every view but `View` is a `View`. -/
def ancestors : Generic → List Class
  | .View => []
  | _ => [.generic .View]

def django : Django where
  Class := Class
  decidableEq := inferInstance
  generic := .generic
  UserPassesTestMixin := .mixin
  object := .object
  ancestors := ancestors
  mixin_ancestors := []
  dispatch c := if c = .generic .View then some .handler else if c = .mixin then some .test else none
  nodup g := by cases g <;> decide
  mixin_nodup := by decide
  disjoint g := by cases g <;> simp [ancestors]
  view_dispatch := rfl
  mixin_dispatch := rfl
  dispatch_from_view g := by
    cases g with
    | View => exact ⟨[], [], rfl, by simp⟩
    | _ => exact ⟨[_], [], rfl, by simp⟩

def pipeline : Pipeline := ⟨1, "trade.imports", "SELECT 1", none, none⟩

def state : State := ⟨[pipeline], 2, []⟩

/-- Bob deletes the pipeline. -/
def request : Request where
  page := .delete 1
  method := .POST
  requester := some ⟨⟨2, "bob@trade.gov.uk", false⟩, "Bob"⟩
  table_name := []
  sql_query := []

def answers : Answers := ⟨fun _ => .done, none⟩

end NoSuperuser

end Pipelines
