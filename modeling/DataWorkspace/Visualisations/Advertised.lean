import DataWorkspace.Visualisations.Approved

/-!
# What the catalogue advertises

A catalogue item is published after its visualisation is.  Unpublishing the visualisation
does not look at the catalogue item, so the order can be undone the other way round.

Requests are served one after the other.  `advertised_are_visible` says what the page would
have to ask: that a visualisation is unpublished only while its catalogue item is not
published.
-/

namespace Visualisations

open Py Async

/-! ## Requests one after the other -/

/-- The operations of a request, each of which meets a condition. -/
def serving (ok : Op → Db → Prop) : Interp Ans Db where
  step o s a s' := ok o s ∧ act o s a s'
  pre := fun _ _ => True

/-- A request is served from its first operation to its last. -/
def Served (ok : Op → Db → Prop) (s s' : Db) : Prop :=
  ∃ (r : Request) (x : Except Exc Response), Steps (serving ok) r.view s (ended x) s'

/-- The states that requests lead to. -/
def Serves (ok : Op → Db → Prop) : Db → Db → Prop := Relation.ReflTransGen (Served ok)

/-- Every catalogue item that is published belongs to a visualisation that is visible. -/
def AdvertisedVisible (s : Db) : Prop :=
  ∀ id item, s.items id = some item → item.published = true →
    ∃ template t, item.visualisation_template = some template ∧
      s.templates template = some t ∧ t.visible = true

/-- A visualisation is unpublished only while its catalogue item is not published. -/
def UnadvertisedFirst : Op → Db → Prop
  | .save_template t, s => t.visible = false →
      ∀ id item, s.items id = some item → item.visualisation_template = some t.id →
        item.published = false
  | _, _ => True

/-! ## What operations do to the flags -/

/-- The operations that write no flag. -/
def Flagless : Op → Prop
  | .save_template _ => False
  | .save_item _ => False
  | _ => True

section Flags

variable {s s' : Db}

theorem AdvertisedVisible.setItem (h : AdvertisedVisible s) {item : VisualisationCatalogueItem}
    (hitem : item.published = true → ∃ template t, item.visualisation_template = some template ∧
      s.templates template = some t ∧ t.visible = true) : AdvertisedVisible (s.setItem item) := by
  intro id item' hid hpublished
  have hid : Function.update s.items item.id (some item) id = some item' := hid
  by_cases heq : id = item.id
  · subst heq
    rw [Function.update_self] at hid
    obtain rfl := Option.some.inj hid
    exact hitem hpublished
  · rw [Function.update_of_ne heq] at hid
    exact h id item' hid hpublished

theorem AdvertisedVisible.setTemplate (h : AdvertisedVisible s) {t : ApplicationTemplate}
    (ht : t.visible = false → ∀ id item, s.items id = some item →
      item.visualisation_template = some t.id → item.published = false) :
    AdvertisedVisible (s.setTemplate t) := by
  intro id item hid hpublished
  obtain ⟨template, t', htemplate, ht', hvisible⟩ := h id item hid hpublished
  by_cases heq : template = t.id
  · subst heq
    refine ⟨t.id, t, htemplate, Function.update_self .., ?_⟩
    cases hv : t.visible with
    | true => rfl
    | false =>
        rw [ht hv id item hid htemplate] at hpublished
        cases hpublished
  · exact ⟨template, t', htemplate, (Function.update_of_ne heq ..).trans ht', hvisible⟩

theorem AdvertisedVisible.templateOf (h : AdvertisedVisible s) {project : Nat}
    {a : Except Exc ApplicationTemplate} (hs : TemplateOf project s a s') :
    AdvertisedVisible s' := by
  cases hs with
  | found => exact h
  | refused => exact h
  | created hnew hproject hvisible hitem htemplate hpublished =>
      refine AdvertisedVisible.setItem (h.setTemplate fun _ id item hid ht => ?_) fun hp => ?_
      · -- no published item belongs to a template that was not there
        cases hp : item.published with
        | false => rfl
        | true =>
            obtain ⟨template, t', ht', hrow, -⟩ := h id item hid hp
            obtain rfl := Option.some.inj (ht.symm.trans ht')
            rw [hnew] at hrow
            cases hrow
      · rw [hpublished] at hp
        cases hp

theorem AdvertisedVisible.act {o : Op} {a : Ans o} (h : AdvertisedVisible s) (ho : Flagless o)
    (hs : act o s a s') : AdvertisedVisible s' := by
  cases o with
  | application_template project => exact h.templateOf hs
  | save_approval id approved approver visualisation =>
      cases id with
      | none =>
          obtain ⟨-, rfl⟩ := hs
          exact h
      | some pk =>
          obtain ⟨-, rfl⟩ := hs
          exact h
  | has_perm user => exact hs ▸ h
  | gitlab_project id => exact hs ▸ h
  | gitlab_has_developer_access user project => exact hs ▸ h
  | approvals visualisation => exact hs.2 ▸ h
  | count_approvals visualisation => exact hs.2 ▸ h
  | visualisation_exists id => exact hs.2 ▸ h
  | user_exists id => exact hs.2 ▸ h
  | catalogue_item template => exact hs.1 ▸ h
  | template id => exact hs.2 ▸ h
  | save_template t => exact ho.elim
  | save_item item => exact ho.elim

end Flags

/-! ## What a request does -/

/-- A part of a page keeps the flags of visualisations and catalogue items in order. -/
def KeepsVisible {α : Type} (p : M α) : Prop :=
  ∀ s, AdvertisedVisible s → wp (serving UnadvertisedFirst) p (fun _ s' => AdvertisedVisible s') s

namespace KeepsVisible

variable {α β : Type}

theorem bind {p : M α} {f : α → M β} (hp : KeepsVisible p) (hf : ∀ a, KeepsVisible (f a)) :
    KeepsVisible (p >>= f) := fun s hs =>
  wp_bind_of (hp s hs) (fun a s hs => hf a s hs) fun _ _ hs => hs

theorem of_only {p : M α} (hp : p.Only Flagless) : KeepsVisible p := by
  induction p with
  | pure a => exact fun s hs => hs
  | raise e => exact fun s hs => hs
  | op o k ih =>
      intro s hs
      refine ⟨trivial, fun a s' h => ih a (hp.2 a) s' (hs.act hp.1 h.2)⟩

theorem ask {o : Op} (ho : Flagless o) {f : Ans o → M β} (hf : ∀ a, KeepsVisible (f a)) :
    KeepsVisible (ask o >>= f) := fun _ hs =>
  ⟨trivial, fun a s' h => hf a s' (hs.act ho h.2)⟩

end KeepsVisible

theorem Approving.flagless {o : Op} (h : Approving o) : Flagless o := by
  cases o with
  | save_template t => exact h
  | save_item item => exact h
  | _ => trivial

theorem keepsVisible_set_published_on_catalogue_item
    (catalogue_item : Option VisualisationCatalogueItem) (publish : Bool) :
    KeepsVisible (_set_published_on_catalogue_item catalogue_item publish) := by
  cases catalogue_item with
  | none => exact fun s hs => hs
  | some item =>
      cases htemplate : item.visualisation_template with
      | none =>
          intro s hs
          show wp _ (Prog.ofOption Exc.AttributeError item.visualisation_template >>= _) _ s
          rw [htemplate]
          exact hs
      | some id =>
          intro s hs
          show wp _ (Prog.ofOption Exc.AttributeError item.visualisation_template >>= _) _ s
          rw [htemplate]
          refine ⟨trivial, fun row s₁ h₁ => ?_⟩
          obtain ⟨-, hrow, rfl⟩ := h₁
          cases row with
          | none => exact hs
          | some t =>
              refine ⟨trivial, fun n s₂ h₂ => ?_⟩
              obtain ⟨-, -, rfl⟩ := h₂
              show wp _ (if publish = false ∨ _ then _ else _) _ _
              split
              next hok =>
                refine ⟨trivial, fun _ s₃ h₃ => ?_⟩
                obtain ⟨-, rfl⟩ := h₃
                refine hs.setItem fun hpublish => ⟨id, t, rfl, hrow.symm, ?_⟩
                rcases hok with hfalse | hok
                · exact absurd (hfalse.symm.trans hpublish) Bool.false_ne_true
                · have hvisible : (decide (2 ≤ n) && t.visible) = true :=
                    (Bool.and_eq_true_iff.mp hok).1
                  exact (Bool.and_eq_true_iff.mp hvisible).2
              next => exact hs

theorem keepsVisible_set_published_on_visualisation (t : ApplicationTemplate) (publish : Bool) :
    KeepsVisible (_set_published_on_visualisation t publish) := by
  refine .ask (o := .count_approvals t.id) trivial fun n => ?_
  show KeepsVisible (if publish = false ∨ decide (2 ≤ n) = true then _ else _)
  split
  next =>
    intro s hs
    refine ⟨trivial, fun _ s' h => ?_⟩
    obtain ⟨hok, rfl⟩ := h
    exact hs.setTemplate hok
  next => exact fun s hs => hs

theorem Request.keepsVisible (r : Request) : KeepsVisible r.view := by
  have hpure {α : Type} (x : α) : KeepsVisible (.pure x : M α) := fun _ hs => hs
  have hraise {α : Type} (e : Exc) : KeepsVisible (.raise e : M α) := fun _ hs => hs
  refine .ask (o := .has_perm r.user) trivial fun develops => ?_
  split
  next =>
    refine .bind (.ask (o := .gitlab_project r.project) trivial fun answer => ?_) fun project => ?_
    · split
      next => exact hraise _
      next =>
        split
        next => exact hraise _
        next => exact hpure _
    refine .ask (o := .gitlab_has_developer_access r.user r.project) trivial fun access => ?_
    split
    next =>
      unfold Request.page_of
      split
      next => exact .of_only (only_ask trivial fun found => .bind (only_orRaise found) fun _ =>
        only_ask trivial fun _ => trivial)
      next => exact .of_only ((approving_approvals_POST _ _ _).mono fun _ => Approving.flagless)
      next => exact .of_only (only_ask trivial fun found => .bind (only_orRaise found) fun _ =>
        only_ask trivial fun _ => only_ask trivial fun _ => trivial)
      next =>
        refine .ask (o := .application_template project) trivial fun found => ?_
        refine .bind (.of_only (only_orRaise found)) fun t => ?_
        refine .ask (o := .application_template project) trivial fun again => ?_
        refine .bind (.of_only (only_orRaise again)) fun t' => ?_
        refine .ask (o := .catalogue_item t'.id) trivial fun item => ?_
        split
        next => exact keepsVisible_set_published_on_catalogue_item _ _
        next => exact keepsVisible_set_published_on_catalogue_item _ _
        next => exact keepsVisible_set_published_on_visualisation _ _
        next => exact keepsVisible_set_published_on_visualisation _ _
        next => exact hpure _
      next => exact hpure _
    next => exact hraise _
  next => exact hraise _

theorem AdvertisedVisible.served {s s' : Db} (h : AdvertisedVisible s)
    (hs : Served UnadvertisedFirst s s') : AdvertisedVisible s' := by
  obtain ⟨r, x, hsteps⟩ := hs
  have hend := wp_steps hsteps (r.keepsVisible s h)
  cases x with
  | ok response => exact hend
  | error e => exact hend

/-- Over any number of requests, what the catalogue advertises is visible, provided a
visualisation is unpublished only while its catalogue item is not published. -/
theorem advertised_are_visible {s₀ s : Db} (h₀ : AdvertisedVisible s₀)
    (h : Serves UnadvertisedFirst s₀ s) : AdvertisedVisible s := by
  induction h with
  | refl => exact h₀
  | tail _ hs ih => exact ih.served hs

/-! ## An item whose visualisation is unpublished -/

namespace Two

/-- The rows with two approvals. -/
def approved : Db := { db with approvals := [⟨1, true, 1, 7⟩, ⟨2, true, 2, 7⟩] }

def post (action : Str) : Request := ⟨1, .POST, 7, .publish action⟩

/-- Whether an operation unpublishes a visualisation. -/
def unpublishes : Op → Bool
  | .save_template t => !t.visible
  | _ => false

/-- As `pick`, with no visualisation unpublished. -/
def careful (o : Op) (s : Db) : Option (Ans o × Db) := if unpublishes o then none else pick o s

theorem act_of_careful {o : Op} {s s' : Db} {a : Ans o} (h : careful o s = some (a, s')) :
    UnadvertisedFirst o s ∧ act o s a s' := by
  unfold careful at h
  split at h
  next => cases h
  next hno =>
    refine ⟨?_, act_of_pick h⟩
    cases o with
    | save_template t => exact fun hfalse => absurd (by simp [unpublishes, hfalse]) hno
    | _ => trivial

/-- The state after some actions, if each of them is answered. -/
def after (p : (o : Op) → Db → Option (Ans o × Db)) (s : Db) : List Str → Option Db
  | [] => some s
  | action :: actions => ((post action).view.follow p s).bind fun r => after p r.2 actions

theorem serves_after {ok : Op → Db → Prop} {p : (o : Op) → Db → Option (Ans o × Db)}
    (hp : ∀ o s a s', p o s = some (a, s') → ok o s ∧ act o s a s') {s s' : Db} :
    ∀ {actions : List Str}, after p s actions = some s' → Serves ok s s'
  | [], h => by
      obtain rfl := Option.some.inj h
      exact .refl
  | action :: actions, h => by
      obtain ⟨r, hr, hrest⟩ := Option.bind_eq_some_iff.mp h
      exact .head ⟨post action, r.1, Prog.steps_of_follow hp hr⟩ (serves_after hp hrest)

def published : List Str := ["publish-visualisation", "publish-catalogue"]

def actions : List Str :=
  ["publish-visualisation", "publish-catalogue", "unpublish-visualisation"]

theorem advertisedVisible_approved : AdvertisedVisible approved := by
  intro id item hid hpublished
  have hid : (if id = 7 then _ else none) = some item := hid
  split at hid
  next =>
    obtain rfl := Option.some.inj hid
    cases hpublished
  next => cases hid

end Two

open Two in
theorem advertised_are_visible_published :
    ∃ s, after careful approved published = some s ∧ AdvertisedVisible s := by
  have hsome : (after careful approved published).isSome = true := by decide +kernel
  obtain ⟨s, hs⟩ := Option.isSome_iff_exists.mp hsome
  exact ⟨s, hs, advertised_are_visible advertisedVisible_approved
    (serves_after (fun _ _ _ _ => act_of_careful) hs)⟩

open Two in
/-- The catalogue advertises a visualisation that was unpublished. -/
theorem advertised_unpublished :
    ∃ s, Serves (fun _ _ => True) approved s ∧ AdvertisedVisible approved ∧
      ¬ AdvertisedVisible s := by
  have hsome : (after pick approved actions).isSome = true := by decide +kernel
  obtain ⟨s, hs⟩ := Option.isSome_iff_exists.mp hsome
  have hserves : Serves (fun _ _ => True) approved s :=
    serves_after (fun _ _ _ _ ha => ⟨trivial, act_of_pick ha⟩) hs
  refine ⟨s, hserves, advertisedVisible_approved, fun h => ?_⟩
  have hitem : ((after pick approved actions).bind fun s => s.items 7).map (fun item =>
      (item.published, item.visualisation_template)) = some (true, some 7) := by decide +kernel
  have ht : ((after pick approved actions).bind fun s => s.templates 7).map
      ApplicationTemplate.visible = some false := by decide +kernel
  rw [hs] at hitem ht
  obtain ⟨item, hitem, hfields⟩ := Option.map_eq_some_iff.mp hitem
  obtain ⟨hpublished, htemplate⟩ := Prod.mk.inj hfields
  obtain ⟨t, ht, hvisible⟩ := Option.map_eq_some_iff.mp ht
  obtain ⟨template, t', htemplate', ht', hvisible'⟩ := h 7 item hitem hpublished
  obtain rfl := Option.some.inj (htemplate.symm.trans htemplate')
  obtain rfl := Option.some.inj (ht.symm.trans ht')
  exact absurd (hvisible.symm.trans hvisible') Bool.false_ne_true

end Visualisations
