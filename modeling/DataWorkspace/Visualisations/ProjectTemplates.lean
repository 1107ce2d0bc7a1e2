import DataWorkspace.Applications.Models
import DataWorkspace.Async.Shared
import DataWorkspace.Visualisations.ProjectNames

/-!
# The application templates of projects

A page of a project looks up the application template of the project, and creates it if
there is none, with its catalogue item.  Host names are tried one after the other.  Each
attempt is a transaction, and one that breaks a unique constraint is rolled back and the
next name tried.  After the last the template is looked up again, since another request may
have created it.

Any number of requests run at a time.  What a transaction inserted is seen by others once
it commits, and until then others wait who would insert the same.

`wp_application_template` says where a request is in its program, and `wp_counting` how
often it asks.
-/

namespace Projects

open Py Datasets Applications Async

/-! ## Rows -/

/-- A project, as GitLab gives it. -/
structure GitlabProject where
  id : Nat
  name : Str
  description : Option Str
deriving DecidableEq, Repr

/-- A catalogue item, as it is inserted. -/
structure CatalogueItem where
  name : Str
  slug : Str
  short_description : Option Str
  visualisation_template : Option Str
  user_access_type : UserAccessType
deriving DecidableEq, Repr

/-- The template of an attempt. -/
def newTemplate (id : Str) (gitlab_project : GitlabProject) (i : Nat) : ApplicationTemplate where
  id := id
  visible := false
  wrap := "FULL_HEIGHT_IFRAME"
  host_basename := path_and_dns_safe_name gitlab_project.name i
  nice_name := gitlab_project.name
  spawner := .FARGATE
  spawner_options := "{}"
  application_type := .VISUALISATION
  default_memory := "8192"
  default_cpu := "1024"
  gitlab_project_id := some gitlab_project.id

def newItem (t : ApplicationTemplate) (gitlab_project : GitlabProject) : CatalogueItem where
  name := gitlab_project.name
  slug := t.host_basename
  short_description := gitlab_project.description
  visualisation_template := some t.id
  user_access_type := .REQUIRES_AUTHORIZATION

/-- A text that a column of some length can hold. -/
def storable (n : Nat) (s : Str) : Bool := s.length ≤ n && !s.contains '\x00'

def storableTemplate (t : ApplicationTemplate) : Bool :=
  storable 128 t.host_basename && storable 128 t.nice_name

def storableItem (item : CatalogueItem) : Bool :=
  storable 255 item.name && storable 50 item.slug &&
    (item.short_description.all fun d => storable 255 d)

/-- Two templates that break a unique constraint together. -/
def Clash (t t' : ApplicationTemplate) : Prop :=
  t.id = t'.id ∨ t.host_basename = t'.host_basename ∨
    (t.gitlab_project_id = t'.gitlab_project_id ∧ t.gitlab_project_id ≠ none)

/-- Two items that do. -/
def ItemClash (item item' : CatalogueItem) : Prop :=
  item.slug = item'.slug ∨
    (item.visualisation_template = item'.visualisation_template ∧ item.visualisation_template ≠ none)

instance : DecidableRel Clash := fun t t' => by
  unfold Clash
  infer_instance

instance : DecidableRel ItemClash := fun item item' => by
  unfold ItemClash
  infer_instance

/-! ## A request -/

/-- The exceptions: `IntegrityError`, and that a value cannot be stored. -/
inductive Exc where
  | IntegrityError
  | other
deriving DecidableEq, Repr

inductive Op where
  /-- `ApplicationTemplate.objects.get(gitlab_project_id=…)`. -/
  | get (gitlab_project_id : Nat)
  /-- `ApplicationTemplate.objects.create(…)`, with the number of the attempt. -/
  | create_template (i : Nat) (t : ApplicationTemplate)
  | create_item (item : CatalogueItem)
  | commit
  | rollback
deriving DecidableEq, Repr

def Ans : Op → Type
  | .get _ => Option ApplicationTemplate
  | .create_template _ _ => Except Exc Unit
  | .create_item _ => Except Exc Unit
  | .commit => Unit
  | .rollback => Unit

abbrev M := Prog Ans Exc

def await (o : Op) : M (Ans o) := .perform o

def create_template (i : Nat) (t : ApplicationTemplate) : M Unit :=
  .op (.create_template i t) fun
    | .ok () => .pure ()
    | .error e => .raise e

def create_item (item : CatalogueItem) : M Unit :=
  .op (.create_item item) fun
    | .ok () => .pure ()
    | .error e => .raise e

/-- `with transaction.atomic()`. -/
def atomic {α : Type} (body : M α) : M α := do
  let r : Except Exc α ← body.attempt
  match r with
  | .ok a => do
      await .commit
      .pure a
  | .error e => do
      await .rollback
      .raise e

/-- The transaction of an attempt. -/
def create (uuid : Nat → Str) (gitlab_project : GitlabProject) (i : Nat) : M ApplicationTemplate := do
  let visualisation_template := newTemplate (uuid i) gitlab_project i
  create_template i visualisation_template
  create_item (newItem visualisation_template gitlab_project)
  .pure visualisation_template

/-- The attempts from the `i`-th on, with the number of those after it. -/
def attempts (uuid : Nat → Str) (gitlab_project : GitlabProject) :
    Nat → Nat → M ApplicationTemplate
  | i, further => do
      let r : Except Exc ApplicationTemplate ← (atomic (create uuid gitlab_project i)).attempt
      match r with
      | .ok t => .pure t
      | .error .other => .raise .other
      | .error .IntegrityError =>
          match further with
          | further + 1 => attempts uuid gitlab_project (i + 1) further
          | 0 => do
              let found : Option ApplicationTemplate ← await (.get gitlab_project.id)
              match found with
              | some t => .pure t
              | none => .raise .IntegrityError

/-- `_application_template`.  The ids of new templates are random. -/
def _application_template (uuid : Nat → Str) (gitlab_project : GitlabProject) :
    M ApplicationTemplate := do
  let found : Option ApplicationTemplate ← await (.get gitlab_project.id)
  match found with
  | some t => .pure t
  | none => attempts uuid gitlab_project 0 19

/-! ## The database -/

/-- The committed rows, and what the transaction of each request has inserted. -/
structure World (ι : Type) where
  templates : List ApplicationTemplate
  items : List CatalogueItem
  pending : ι → Option (ApplicationTemplate × Option CatalogueItem)

variable {ι : Type}

namespace World

def hold [DecidableEq ι] (w : World ι) (i : ι)
    (p : Option (ApplicationTemplate × Option CatalogueItem)) : World ι :=
  { w with pending := Function.update w.pending i p }

/-- The rows of a transaction are committed. -/
def commit [DecidableEq ι] (w : World ι) (i : ι) : World ι :=
  match w.pending i with
  | none => w
  | some (t, item) =>
      { templates := w.templates ++ [t]
        items := w.items ++ item.toList
        pending := Function.update w.pending i none }

/-- A committed row stands in the way. -/
def Taken (w : World ι) (t : ApplicationTemplate) : Prop := ∃ t' ∈ w.templates, Clash t t'

def ItemTaken (w : World ι) (item : CatalogueItem) : Prop := ∃ item' ∈ w.items, ItemClash item item'

/-- A row of another transaction that is not over stands in the way. -/
def Waits (w : World ι) (i : ι) (t : ApplicationTemplate) : Prop :=
  ∃ j ≠ i, ∃ p, w.pending j = some p ∧ Clash t p.1

def ItemWaits (w : World ι) (i : ι) (item : CatalogueItem) : Prop :=
  ∃ j ≠ i, ∃ p, w.pending j = some p ∧ ∃ item' ∈ p.2, ItemClash item item'

end World

/-- What the database does.  A request that waits is not answered. -/
inductive Acts [DecidableEq ι] (i : ι) : (o : Op) → World ι → Ans o → World ι → Prop where
  | get {w : World ι} {id : Nat} :
      Acts i (.get id) w (w.templates.find? fun t => t.gitlab_project_id == some id) w
  | unstorable {w : World ι} {n : Nat} {t : ApplicationTemplate} (h : storableTemplate t = false) :
      Acts i (.create_template n t) w (.error .other) w
  | taken {w : World ι} {n : Nat} {t : ApplicationTemplate} (h : storableTemplate t = true)
      (htaken : w.Taken t) : Acts i (.create_template n t) w (.error .IntegrityError) w
  | inserted {w : World ι} {n : Nat} {t : ApplicationTemplate} (h : storableTemplate t = true)
      (htaken : ¬ w.Taken t) (hwaits : ¬ w.Waits i t) :
      Acts i (.create_template n t) w (.ok ()) (w.hold i (some (t, none)))
  | item_unstorable {w : World ι} {item : CatalogueItem} (h : storableItem item = false) :
      Acts i (.create_item item) w (.error .other) w
  /-- A description that is missing breaks a constraint too. -/
  | item_taken {w : World ι} {item : CatalogueItem} (h : storableItem item = true)
      (htaken : item.short_description = none ∨ w.ItemTaken item) :
      Acts i (.create_item item) w (.error .IntegrityError) w
  | item_inserted {w : World ι} {item : CatalogueItem} {t : ApplicationTemplate}
      (h : storableItem item = true) (hdescription : item.short_description ≠ none)
      (htaken : ¬ w.ItemTaken item) (hwaits : ¬ w.ItemWaits i item)
      (hpending : w.pending i = some (t, none)) :
      Acts i (.create_item item) w (.ok ()) (w.hold i (some (t, some item)))
  | commit {w : World ι} : Acts i .commit w () (w.commit i)
  | rollback {w : World ι} : Acts i .rollback w () (w.hold i none)

/-- The requests, each for a project, with the random ids it draws. -/
def pages [DecidableEq ι] (project : ι → GitlabProject) (uuid : ι → Nat → Str) :
    Shared Ans Exc ApplicationTemplate ι (World ι) where
  prog i := _application_template (uuid i) (project i)
  act := Acts

/-- Before any page of a project: the templates that there are belong to no project. -/
structure Initial (w : World ι) : Prop where
  project : ∀ t ∈ w.templates, t.gitlab_project_id = none
  clash : w.templates.Pairwise fun t t' => ¬ Clash t t'
  item_clash : w.items.Pairwise fun item item' => ¬ ItemClash item item'
  item_template : ∀ item ∈ w.items, ∀ id, item.visualisation_template = some id →
    ∃ t ∈ w.templates, t.id = id
  pending : ∀ i, w.pending i = none

/-! ## Where a request is -/

inductive Phase where
  | looking
  | trying (n : Nat)
  | item (n : Nat)
  | ready (n : Nat)
  /-- An exception was raised in the transaction, which had inserted the template or not. -/
  | undoing (n : Nat) (e : Exc) (held : Bool)
  | last
  | ended (r : Except Exc ApplicationTemplate)

section Phases

variable (uuid : Nat → Str) (gitlab_project : GitlabProject)

def Phase.asks : Phase → Option Op
  | .looking => some (.get gitlab_project.id)
  | .trying n => some (.create_template n (newTemplate (uuid n) gitlab_project n))
  | .item n => some (.create_item (newItem (newTemplate (uuid n) gitlab_project n) gitlab_project))
  | .ready _ => some .commit
  | .undoing _ _ _ => some .rollback
  | .last => some (.get gitlab_project.id)
  | .ended _ => none

/-- The next phase. -/
def Phase.adv : Phase → Event Ans → Phase
  | .looking, ⟨.get _, some t⟩ => .ended (.ok t)
  | .looking, ⟨.get _, none⟩ => .trying 0
  | .trying n, ⟨.create_template _ _, .ok ()⟩ => .item n
  | .trying n, ⟨.create_template _ _, .error e⟩ => .undoing n e false
  | .item n, ⟨.create_item _, .ok ()⟩ => .ready n
  | .item n, ⟨.create_item _, .error e⟩ => .undoing n e true
  | .ready n, ⟨.commit, _⟩ => .ended (.ok (newTemplate (uuid n) gitlab_project n))
  | .undoing _ .other _, ⟨.rollback, _⟩ => .ended (.error .other)
  | .undoing n .IntegrityError _, ⟨.rollback, _⟩ => if n < 19 then .trying (n + 1) else .last
  | .last, ⟨.get _, some t⟩ => .ended (.ok t)
  | .last, ⟨.get _, none⟩ => .ended (.error .IntegrityError)
  | phase, _ => phase

/-- The phases as an interpretation. -/
abbrev phases : Interp Ans Phase :=
  summing (Phase.adv uuid gitlab_project) fun o phase => phase.asks uuid gitlab_project = some o

/-- Where the transaction of an attempt ends. -/
def Phase.afterAttempt (n : Nat) : Except Exc ApplicationTemplate → Phase
  | .ok t => .ended (.ok t)
  | .error .other => .ended (.error .other)
  | .error .IntegrityError => if n < 19 then .trying (n + 1) else .last

theorem wp_rollback {n : Nat} {e : Exc} {held : Bool} :
    wp (phases uuid gitlab_project) (await .rollback >>= fun _ => .raise e : M ApplicationTemplate)
      (fun r phase => phase = Phase.afterAttempt n r) (.undoing n e held) := by
  refine wp_summing.mpr ⟨rfl, fun _ => ?_⟩
  cases e with
  | IntegrityError => rfl
  | other => rfl

theorem wp_atomic_create (n : Nat) :
    wp (phases uuid gitlab_project) (atomic (create uuid gitlab_project n))
      (fun r phase => phase = Phase.afterAttempt n r) (.trying n) := by
  refine wp_summing.mpr ⟨rfl, fun created => ?_⟩
  rcases created with e | ⟨⟩
  · exact wp_rollback uuid gitlab_project
  · refine wp_summing.mpr ⟨rfl, fun created => ?_⟩
    rcases created with e | ⟨⟩
    · exact wp_rollback uuid gitlab_project
    · exact wp_summing.mpr ⟨rfl, fun _ => rfl⟩

theorem wp_attempts (further : Nat) : ∀ i, i + further = 19 →
    wp (phases uuid gitlab_project) (attempts uuid gitlab_project i further)
      (fun r phase => phase = .ended r) (.trying i) := by
  induction further with
  | zero =>
      intro i hi
      rw [attempts]
      refine (wp_bind _ _ _ _).mpr ((wp_attempt _ _ _).mpr
        (wp_mono (fun r phase hphase => ?_) _ _ (wp_atomic_create uuid gitlab_project i)))
      rw [hphase]
      rcases r with (_ | _) | t
      · obtain rfl : i = 19 := by omega
        refine wp_summing.mpr ⟨rfl, fun found => ?_⟩
        cases found with
        | some t => rfl
        | none => rfl
      · rfl
      · rfl
  | succ further ih =>
      intro i hi
      rw [attempts]
      refine (wp_bind _ _ _ _).mpr ((wp_attempt _ _ _).mpr
        (wp_mono (fun r phase hphase => ?_) _ _ (wp_atomic_create uuid gitlab_project i)))
      rw [hphase]
      rcases r with (_ | _) | t
      · have hnext : Phase.afterAttempt i (.error .IntegrityError) = .trying (i + 1) :=
          if_pos (by omega)
        rw [hnext]
        exact ih (i + 1) (by omega)
      · rfl
      · rfl

theorem wp_application_template :
    wp (phases uuid gitlab_project) (_application_template uuid gitlab_project)
      (fun r phase => phase = .ended r) .looking := by
  refine wp_summing.mpr ⟨rfl, fun found => ?_⟩
  cases found with
  | some t => rfl
  | none => exact wp_attempts uuid gitlab_project 19 0 rfl

/-- The number of times a request asked, with the bound on it. -/
abbrev counting : Interp Ans Nat := summing (fun n (_ : Event Ans) => n + 1) fun _ n => n < 62

theorem wp_counting_create {i n : Nat} (hn : n + 3 ≤ 62) :
    wp counting (atomic (create uuid gitlab_project i)) (fun _ m => m ≤ n + 3) n := by
  refine wp_summing.mpr ⟨by omega, fun created => ?_⟩
  rcases created with e | ⟨⟩
  · exact wp_summing.mpr ⟨by omega, fun _ => Nat.le_succ (n + 2)⟩
  · refine wp_summing.mpr ⟨by omega, fun created => ?_⟩
    rcases created with e | ⟨⟩
    · exact wp_summing.mpr ⟨by omega, fun _ => Nat.le_refl (n + 3)⟩
    · exact wp_summing.mpr ⟨by omega, fun _ => Nat.le_refl (n + 3)⟩

theorem wp_counting_attempts (further : Nat) : ∀ i n, n + 3 * further + 4 ≤ 62 →
    wp counting (attempts uuid gitlab_project i further) (fun _ m => m ≤ 62) n := by
  induction further with
  | zero =>
      intro i n hn
      rw [attempts]
      refine (wp_bind _ _ _ _).mpr ((wp_attempt _ _ _).mpr
        (wp_mono (fun r m (hm : m ≤ n + 3) => ?_) _ _
          (wp_counting_create uuid gitlab_project (by omega))))
      have hm' : m ≤ 61 := by omega
      rcases r with (_ | _) | t
      · refine wp_summing.mpr ⟨Nat.lt_succ_of_le hm', fun found => ?_⟩
        cases found with
        | some t => exact Nat.succ_le_succ hm'
        | none => exact Nat.succ_le_succ hm'
      · exact Nat.le_succ_of_le hm'
      · exact Nat.le_succ_of_le hm'
  | succ further ih =>
      intro i n hn
      rw [attempts]
      refine (wp_bind _ _ _ _).mpr ((wp_attempt _ _ _).mpr
        (wp_mono (fun r m (hm : m ≤ n + 3) => ?_) _ _
          (wp_counting_create uuid gitlab_project (by omega))))
      have hm' : m ≤ 62 := by omega
      rcases r with (_ | _) | t
      · exact ih (i + 1) m (by omega)
      · exact hm'
      · exact hm'

theorem wp_counting : wp counting (_application_template uuid gitlab_project) (fun _ m => m ≤ 62) 0 := by
  refine wp_summing.mpr ⟨by decide, fun found => ?_⟩
  cases found with
  | some t => exact Nat.succ_le_succ (Nat.zero_le 61)
  | none => exact wp_counting_attempts uuid gitlab_project 19 0 1 (by decide)

end Phases

end Projects
