import DataWorkspace.Visualisations.ProjectTemplates

/-!
# Every project has one template

`World.Consistent` is what the rows keep: no unique constraint is broken, among the
committed rows and those of the transactions that are not over.  `Linked` is what a request
keeps with them in each of its phases.

`settled_of_run` says what holds in every configuration of the runs whose attempts fit:
something is left of the name, it is short enough, there is a description, and the last
host name is free if it comes to that.
-/

namespace Projects

open Py Datasets Applications Async

variable {ι : Type}

/-! ## What the rows keep -/

theorem Clash.symm {t t' : ApplicationTemplate} (h : Clash t t') : Clash t' t := by
  rcases h with h | h | ⟨h, hne⟩
  · exact .inl h.symm
  · exact .inr (.inl h.symm)
  · exact .inr (.inr ⟨h.symm, h ▸ hne⟩)

theorem ItemClash.symm {item item' : CatalogueItem} (h : ItemClash item item') :
    ItemClash item' item := by
  rcases h with h | ⟨h, hne⟩
  · exact .inl h.symm
  · exact .inr ⟨h.symm, h ▸ hne⟩

/-- No unique constraint is broken, among the committed rows and those that others have
inserted, and the templates of projects have their items and are labels. -/
structure World.Consistent (w : World ι) : Prop where
  clash : w.templates.Pairwise fun t t' => ¬ Clash t t'
  item_clash : w.items.Pairwise fun item item' => ¬ ItemClash item item'
  item_template : ∀ item ∈ w.items, ∀ id, item.visualisation_template = some id →
    ∃ t ∈ w.templates, t.id = id
  item : ∀ t ∈ w.templates, t.gitlab_project_id ≠ none →
    ∃ item ∈ w.items, item.visualisation_template = some t.id ∧ item.slug = t.host_basename
  label : ∀ t ∈ w.templates, t.gitlab_project_id ≠ none → IsDnsLabel t.host_basename
  pending_committed : ∀ i p, w.pending i = some p → ¬ w.Taken p.1
  pending_pending : ∀ i j, i ≠ j → ∀ p q, w.pending i = some p → w.pending j = some q →
    ¬ Clash p.1 q.1
  pending_item : ∀ i t item, w.pending i = some (t, some item) →
    item.slug = t.host_basename ∧ item.visualisation_template = some t.id ∧ ¬ w.ItemTaken item
  pending_label : ∀ i p, w.pending i = some p → IsDnsLabel p.1.host_basename

section Rows

variable [DecidableEq ι] {w : World ι} {i : ι}

theorem pending_hold (p : Option (ApplicationTemplate × Option CatalogueItem)) (j : ι) :
    (w.hold i p).pending j = if j = i then p else w.pending j := Function.update_apply ..

theorem of_pending_hold {p q : Option (ApplicationTemplate × Option CatalogueItem)} {j : ι}
    (h : (w.hold i p).pending j = q) : j = i ∧ p = q ∨ j ≠ i ∧ w.pending j = q := by
  rw [pending_hold] at h
  split at h
  next hj => exact .inl ⟨hj, h⟩
  next hj => exact .inr ⟨hj, h⟩

theorem World.Consistent.drop (h : w.Consistent) (i : ι) : (w.hold i none).Consistent where
  clash := h.clash
  item_clash := h.item_clash
  item_template := h.item_template
  item := h.item
  label := h.label
  pending_committed j p hp := by
    obtain ⟨_, hp⟩ | ⟨_, hp⟩ := of_pending_hold hp
    · cases hp
    · exact h.pending_committed j p hp
  pending_pending j k hjk p q hp hq := by
    obtain ⟨_, hp⟩ | ⟨_, hp⟩ := of_pending_hold hp
    · cases hp
    · obtain ⟨_, hq⟩ | ⟨_, hq⟩ := of_pending_hold hq
      · cases hq
      · exact h.pending_pending j k hjk p q hp hq
  pending_item j t item hp := by
    obtain ⟨_, hp⟩ | ⟨_, hp⟩ := of_pending_hold hp
    · cases hp
    · exact h.pending_item j t item hp
  pending_label j p hp := by
    obtain ⟨_, hp⟩ | ⟨_, hp⟩ := of_pending_hold hp
    · cases hp
    · exact h.pending_label j p hp

theorem World.Consistent.insert {t : ApplicationTemplate} (h : w.Consistent) (htaken : ¬ w.Taken t)
    (hwaits : ¬ w.Waits i t) (hlabel : IsDnsLabel t.host_basename) :
    (w.hold i (some (t, none))).Consistent where
  clash := h.clash
  item_clash := h.item_clash
  item_template := h.item_template
  item := h.item
  label := h.label
  pending_committed j p hp := by
    obtain ⟨_, hp⟩ | ⟨_, hp⟩ := of_pending_hold hp
    · obtain rfl := Option.some.inj hp
      exact htaken
    · exact h.pending_committed j p hp
  pending_pending j k hjk p q hp hq := by
    obtain ⟨hj, hp⟩ | ⟨hj, hp⟩ := of_pending_hold hp
    · obtain ⟨hk, _⟩ | ⟨hk, hq⟩ := of_pending_hold hq
      · exact absurd (hj.trans hk.symm) hjk
      · obtain rfl := Option.some.inj hp
        exact fun hclash => hwaits ⟨k, hk, q, hq, hclash⟩
    · obtain ⟨_, hq⟩ | ⟨_, hq⟩ := of_pending_hold hq
      · obtain rfl := Option.some.inj hq
        exact fun hclash => hwaits ⟨j, hj, p, hp, hclash.symm⟩
      · exact h.pending_pending j k hjk p q hp hq
  pending_item j t' item hp := by
    obtain ⟨_, hp⟩ | ⟨_, hp⟩ := of_pending_hold hp
    · cases hp
    · exact h.pending_item j t' item hp
  pending_label j p hp := by
    obtain ⟨_, hp⟩ | ⟨_, hp⟩ := of_pending_hold hp
    · obtain rfl := Option.some.inj hp
      exact hlabel
    · exact h.pending_label j p hp

theorem World.Consistent.insert_item {t : ApplicationTemplate} {item : CatalogueItem}
    (h : w.Consistent) (hpending : w.pending i = some (t, none)) (hslug : item.slug = t.host_basename)
    (htemplate : item.visualisation_template = some t.id) (htaken : ¬ w.ItemTaken item) :
    (w.hold i (some (t, some item))).Consistent where
  clash := h.clash
  item_clash := h.item_clash
  item_template := h.item_template
  item := h.item
  label := h.label
  pending_committed j p hp := by
    obtain ⟨_, hp⟩ | ⟨_, hp⟩ := of_pending_hold hp
    · obtain rfl := Option.some.inj hp
      exact h.pending_committed i (t, none) hpending
    · exact h.pending_committed j p hp
  pending_pending j k hjk p q hp hq := by
    obtain ⟨hj, hp⟩ | ⟨hj, hp⟩ := of_pending_hold hp
    · obtain ⟨hk, _⟩ | ⟨hk, hq⟩ := of_pending_hold hq
      · exact absurd (hj.trans hk.symm) hjk
      · obtain rfl := Option.some.inj hp
        exact h.pending_pending i k (Ne.symm hk) (t, none) q hpending hq
    · obtain ⟨_, hq⟩ | ⟨_, hq⟩ := of_pending_hold hq
      · obtain rfl := Option.some.inj hq
        exact h.pending_pending j i hj p (t, none) hp hpending
      · exact h.pending_pending j k hjk p q hp hq
  pending_item j t' item' hp := by
    obtain ⟨_, hp⟩ | ⟨_, hp⟩ := of_pending_hold hp
    · obtain ⟨rfl, hitem⟩ := Prod.mk.inj (Option.some.inj hp)
      obtain rfl := Option.some.inj hitem
      exact ⟨hslug, htemplate, htaken⟩
    · exact h.pending_item j t' item' hp
  pending_label j p hp := by
    obtain ⟨_, hp⟩ | ⟨_, hp⟩ := of_pending_hold hp
    · obtain rfl := Option.some.inj hp
      exact h.pending_label i (t, none) hpending
    · exact h.pending_label j p hp

theorem World.commit_of_pending {t : ApplicationTemplate} {item : CatalogueItem}
    (h : w.pending i = some (t, some item)) :
    w.commit i = { templates := w.templates ++ [t]
                   items := w.items ++ [item]
                   pending := Function.update w.pending i none } := by
  rw [World.commit, h]
  rfl

theorem World.Consistent.commit {t : ApplicationTemplate} {item : CatalogueItem}
    (h : w.Consistent) (hpending : w.pending i = some (t, some item)) : (w.commit i).Consistent := by
  obtain ⟨hslug, htemplate, htaken⟩ := h.pending_item i t item hpending
  have hother {j : ι} {p : ApplicationTemplate × Option CatalogueItem}
      (hp : Function.update w.pending i none j = some p) : w.pending j = some p ∧ j ≠ i := by
    obtain ⟨_, hp⟩ | ⟨hj, hp⟩ := of_pending_hold (w := w) hp
    · cases hp
    · exact ⟨hp, hj⟩
  rw [World.commit_of_pending hpending]
  refine ⟨?_, ?_, ?_, ?_, ?_, ?_, ?_, ?_, ?_⟩
  · refine List.pairwise_append.mpr ⟨h.clash, List.pairwise_singleton .., fun t' ht' x hx => ?_⟩
    obtain rfl := List.mem_singleton.mp hx
    exact fun hclash => h.pending_committed i _ hpending ⟨t', ht', hclash.symm⟩
  · refine List.pairwise_append.mpr
      ⟨h.item_clash, List.pairwise_singleton .., fun item' hitem x hx => ?_⟩
    obtain rfl := List.mem_singleton.mp hx
    exact fun hclash => htaken ⟨item', hitem, hclash.symm⟩
  · intro item' hitem id hid
    rcases List.mem_append.mp hitem with hitem | hitem
    · obtain ⟨t', ht', rfl⟩ := h.item_template item' hitem id hid
      exact ⟨t', List.mem_append_left _ ht', rfl⟩
    · obtain rfl := List.mem_singleton.mp hitem
      rw [htemplate] at hid
      exact ⟨t, List.mem_append_right _ List.mem_cons_self, Option.some.inj hid⟩
  · intro t' ht' hproject
    rcases List.mem_append.mp ht' with ht' | ht'
    · obtain ⟨item', hitem, hid⟩ := h.item t' ht' hproject
      exact ⟨item', List.mem_append_left _ hitem, hid⟩
    · obtain rfl := List.mem_singleton.mp ht'
      exact ⟨item, List.mem_append_right _ List.mem_cons_self, htemplate, hslug⟩
  · intro t' ht' hproject
    rcases List.mem_append.mp ht' with ht' | ht'
    · exact h.label t' ht' hproject
    · obtain rfl := List.mem_singleton.mp ht'
      exact h.pending_label i _ hpending
  · rintro j p hp ⟨t', ht', hclash⟩
    obtain ⟨hheld, hj⟩ := hother hp
    rcases List.mem_append.mp ht' with ht' | ht'
    · exact h.pending_committed j p hheld ⟨t', ht', hclash⟩
    · obtain rfl := List.mem_singleton.mp ht'
      exact h.pending_pending j i hj p _ hheld hpending hclash
  · intro j k hjk p q hp hq
    exact h.pending_pending j k hjk p q (hother hp).1 (hother hq).1
  · intro j t' item' hp
    obtain ⟨hheld, hj⟩ := hother hp
    obtain ⟨hslug', htemplate', htaken'⟩ := h.pending_item j t' item' hheld
    refine ⟨hslug', htemplate', ?_⟩
    rintro ⟨x, hx, hclash⟩
    rcases List.mem_append.mp hx with hx | hx
    · exact htaken' ⟨x, hx, hclash⟩
    · obtain rfl := List.mem_singleton.mp hx
      refine h.pending_pending j i hj _ _ hheld hpending ?_
      rcases hclash with hsame | ⟨hsame, _⟩
      · exact .inr (.inl (hslug' ▸ hslug ▸ hsame))
      · rw [htemplate', htemplate] at hsame
        exact .inl (Option.some.inj hsame)
  · intro j p hp
    exact h.pending_label j p (hother hp).1

end Rows

/-! ## What an attempt needs -/

/-- Some template of the project is committed. -/
def World.Has (w : World ι) (gitlab_project : GitlabProject) : Prop :=
  ∃ t ∈ w.templates, t.gitlab_project_id = some gitlab_project.id

/-- The host name and the slug of a template are not taken. -/
def World.Free (w : World ι) (t : ApplicationTemplate) : Prop :=
  (∀ t' ∈ w.templates, t'.host_basename ≠ t.host_basename) ∧
    ∀ item ∈ w.items, item.slug ≠ t.host_basename

/-- What the `n`-th attempt for a project needs before its first row. -/
structure AttemptFits (gitlab_project : GitlabProject) (w : World ι) (n : Nat)
    (t : ApplicationTemplate) : Prop where
  root : path_and_dns_safe_root gitlab_project.name ≠ []
  host : t.host_basename.length ≤ 50
  name : storable 128 gitlab_project.name = true
  description : ∃ d, gitlab_project.description = some d ∧ storable 255 d = true
  /-- A random id is new. -/
  id : ∀ t' ∈ w.templates, t'.id ≠ t.id
  /-- The last host name is free, or the project has its template by now. -/
  last : n = 19 → w.Has gitlab_project ∨ w.Free t

/-- The step condition. -/
def Fits (project : ι → GitlabProject) (c : Config Ans Exc ApplicationTemplate ι (World ι)) (i : ι) :
    Op → Prop
  | .create_template n t => AttemptFits (project i) c.store n t
  | _ => True

theorem storable_of_isDnsLabel {s : Str} {n : Nat} (h : IsDnsLabel s) (hlength : s.length ≤ n) :
    storable n s = true := by
  have hnul : '\x00' ∉ s := fun hmem => absurd (h.chars _ hmem) (by decide)
  simp [storable, hlength, hnul]

theorem storable_mono {s : Str} {m n : Nat} (hmn : m ≤ n) (h : storable m s = true) :
    storable n s = true := by
  simp only [storable, Bool.and_eq_true, decide_eq_true_eq] at h ⊢
  exact ⟨h.1.trans hmn, h.2⟩

namespace AttemptFits

variable {gitlab_project : GitlabProject} {w : World ι} {n : Nat} {id : Str}

theorem isDnsLabel (h : AttemptFits gitlab_project w n (newTemplate id gitlab_project n)) :
    IsDnsLabel (newTemplate id gitlab_project n).host_basename :=
  (isDnsLabel_host_iff (h.host.trans (by decide))).mpr h.root

theorem storableTemplate (h : AttemptFits gitlab_project w n (newTemplate id gitlab_project n)) :
    storableTemplate (newTemplate id gitlab_project n) = true :=
  Bool.and_eq_true_iff.mpr
    ⟨storable_of_isDnsLabel h.isDnsLabel (h.host.trans (by decide)), h.name⟩

theorem storableItem (h : AttemptFits gitlab_project w n (newTemplate id gitlab_project n)) :
    storableItem (newItem (newTemplate id gitlab_project n) gitlab_project) = true := by
  obtain ⟨d, hd, hstorable⟩ := h.description
  refine Bool.and_eq_true_iff.mpr ⟨Bool.and_eq_true_iff.mpr ⟨?_, ?_⟩, ?_⟩
  · exact storable_mono (by decide) h.name
  · exact storable_of_isDnsLabel h.isDnsLabel h.host
  · simp [newItem, hd, hstorable]

theorem has_of_taken (h : AttemptFits gitlab_project w n (newTemplate id gitlab_project n))
    (hn : n = 19) (htaken : w.Taken (newTemplate id gitlab_project n)) : w.Has gitlab_project := by
  rcases h.last hn with hhas | ⟨hhost, _⟩
  · exact hhas
  · obtain ⟨t, ht, hid | hname | ⟨hproject, _⟩⟩ := htaken
    · exact absurd hid.symm (h.id t ht)
    · exact absurd hname.symm (hhost t ht)
    · exact ⟨t, ht, hproject.symm⟩

end AttemptFits

/-! ## What a request keeps -/

/-- What a request for a project keeps with the rows. -/
def Linked (uuid : Nat → Str) (gitlab_project : GitlabProject) (w : World ι) (i : ι) : Phase → Prop
  | .looking => w.pending i = none
  | .trying n => w.pending i = none ∧ n < 20
  | .item n =>
      w.pending i = some (newTemplate (uuid n) gitlab_project n, none) ∧ n < 20 ∧
        storableItem (newItem (newTemplate (uuid n) gitlab_project n) gitlab_project) = true ∧
        gitlab_project.description ≠ none ∧
        (n = 19 → ∀ item ∈ w.items, item.slug ≠ (newTemplate (uuid n) gitlab_project n).host_basename)
  | .ready n =>
      w.pending i = some (newTemplate (uuid n) gitlab_project n,
        some (newItem (newTemplate (uuid n) gitlab_project n) gitlab_project))
  | .undoing n e _ => e = .IntegrityError ∧ n < 20 ∧ (n = 19 → w.Has gitlab_project)
  | .last => w.pending i = none ∧ w.Has gitlab_project
  | .ended r => w.pending i = none ∧
      ∃ t ∈ w.templates, t.gitlab_project_id = some gitlab_project.id ∧ r = .ok t

/-- What others leave to a request: its rows, the committed templates, and no item with the
slug of its template. -/
structure World.Leaves (w w' : World ι) (j : ι) : Prop where
  pending : w'.pending j = w.pending j
  templates : ∀ t ∈ w.templates, t ∈ w'.templates
  slug : ∀ p, w.pending j = some p → ∀ item ∈ w'.items,
    item ∈ w.items ∨ item.slug ≠ p.1.host_basename

theorem World.Leaves.refl (w : World ι) (j : ι) : w.Leaves w j where
  pending := rfl
  templates _ ht := ht
  slug _ _ _ hitem := .inl hitem

theorem Linked.mono {uuid : Nat → Str} {gitlab_project : GitlabProject} {w w' : World ι} {j : ι}
    {phase : Phase} (h : Linked uuid gitlab_project w j phase) (hleaves : w.Leaves w' j) :
    Linked uuid gitlab_project w' j phase := by
  have hhas : w.Has gitlab_project → w'.Has gitlab_project := by
    rintro ⟨t, ht, hproject⟩
    exact ⟨t, hleaves.templates t ht, hproject⟩
  cases phase with
  | looking => exact hleaves.pending.trans h
  | trying n => exact ⟨hleaves.pending.trans h.1, h.2⟩
  | item n =>
      obtain ⟨hpending, hn, hstorable, hdescription, hslug⟩ := h
      refine ⟨hleaves.pending.trans hpending, hn, hstorable, hdescription, fun hlast item hitem => ?_⟩
      rcases hleaves.slug _ hpending item hitem with hitem | hne
      · exact hslug hlast item hitem
      · exact hne
  | ready n => exact hleaves.pending.trans h
  | undoing n e held => exact ⟨h.1, h.2.1, fun hn => hhas (h.2.2 hn)⟩
  | last => exact ⟨hleaves.pending.trans h.1, hhas h.2⟩
  | ended r =>
      obtain ⟨hpending, t, ht, hproject, hr⟩ := h
      exact ⟨hleaves.pending.trans hpending, t, hleaves.templates t ht, hproject, hr⟩

/-- What an operation leaves. -/
structure Kept (uuid : Nat → Str) (gitlab_project : GitlabProject) (w : World ι) (i : ι)
    (w' : World ι) (phase : Phase) : Prop where
  consistent : w'.Consistent
  linked : Linked uuid gitlab_project w' i phase
  leaves : ∀ j, j ≠ i → w.Leaves w' j

theorem kept_of_found {uuid : Nat → Str} {gitlab_project : GitlabProject} {w : World ι} {i : ι}
    {t : ApplicationTemplate} (h : w.Consistent) (hpending : w.pending i = none)
    (hfind : (w.templates.find? fun t => t.gitlab_project_id == some gitlab_project.id) = some t) :
    Kept uuid gitlab_project w i w (.ended (.ok t)) where
  consistent := h
  linked := by
    have hproject : (t.gitlab_project_id == some gitlab_project.id) = true :=
      List.find?_some (p := fun t : ApplicationTemplate => t.gitlab_project_id == some gitlab_project.id)
        hfind
    exact ⟨hpending, t, List.mem_of_find?_eq_some hfind, beq_iff_eq.mp hproject, rfl⟩
  leaves j _ := World.Leaves.refl w j

theorem not_itemWaits {w : World ι} {i : ι} {t : ApplicationTemplate}
    {gitlab_project : GitlabProject} (h : w.Consistent)
    (hpending : w.pending i = some (t, none)) : ¬ w.ItemWaits i (newItem t gitlab_project) := by
  rintro ⟨j, hj, ⟨t', _⟩, hp, item, rfl, hclash⟩
  obtain ⟨hslug, htemplate, _⟩ := h.pending_item j t' item hp
  refine h.pending_pending i j (Ne.symm hj) _ _ hpending hp ?_
  rcases hclash with hsame | ⟨hsame, _⟩
  · exact .inr (.inl (hsame.trans hslug))
  · exact .inl (Option.some.inj (hsame.trans htemplate))

section Steps

variable [DecidableEq ι] {w w' : World ι} {i j : ι}

theorem World.leaves_hold (p : Option (ApplicationTemplate × Option CatalogueItem)) (hj : j ≠ i) :
    w.Leaves (w.hold i p) j where
  pending := Function.update_of_ne hj ..
  templates _ ht := ht
  slug _ _ _ hitem := .inl hitem

theorem World.leaves_commit {t : ApplicationTemplate} {item : CatalogueItem} (h : w.Consistent)
    (hpending : w.pending i = some (t, some item)) (hj : j ≠ i) : w.Leaves (w.commit i) j := by
  rw [World.commit_of_pending hpending]
  refine ⟨Function.update_of_ne hj .., fun _ ht => List.mem_append_left _ ht, ?_⟩
  intro p hp item' hitem
  rcases List.mem_append.mp hitem with hitem | hitem
  · exact .inl hitem
  · obtain rfl := List.mem_singleton.mp hitem
    refine .inr fun hslug => h.pending_pending j i hj p _ hp hpending (.inr (.inl ?_))
    rw [← hslug, (h.pending_item i t item' hpending).1]

section Kept

variable {uuid : Nat → Str} {gitlab_project : GitlabProject} {n : Nat}

theorem kept_get (h : w.Consistent) (hpending : w.pending i = none) {a : Option ApplicationTemplate}
    (hact : Acts i (.get gitlab_project.id) w a w') :
    Kept uuid gitlab_project w i w'
      (Phase.looking.adv uuid gitlab_project ⟨.get gitlab_project.id, a⟩) := by
  cases hact
  cases hfind : w.templates.find? fun t => t.gitlab_project_id == some gitlab_project.id with
  | some t => exact kept_of_found h hpending hfind
  | none => exact ⟨h, ⟨hpending, by decide⟩, fun j _ => .refl w j⟩

theorem kept_last (h : w.Consistent) (hpending : w.pending i = none) (hhas : w.Has gitlab_project)
    {a : Option ApplicationTemplate} (hact : Acts i (.get gitlab_project.id) w a w') :
    Kept uuid gitlab_project w i w' (Phase.last.adv uuid gitlab_project ⟨.get gitlab_project.id, a⟩) := by
  cases hact
  cases hfind : w.templates.find? fun t => t.gitlab_project_id == some gitlab_project.id with
  | some t => exact kept_of_found h hpending hfind
  | none =>
      obtain ⟨t, ht, hproject⟩ := hhas
      exact absurd (beq_iff_eq.mpr hproject) (List.find?_eq_none.mp hfind t ht)

theorem kept_create_template (h : w.Consistent) (hn : n < 20)
    (hfits : AttemptFits gitlab_project w n (newTemplate (uuid n) gitlab_project n))
    {a : Except Exc Unit}
    (hact : Acts i (.create_template n (newTemplate (uuid n) gitlab_project n)) w a w') :
    Kept uuid gitlab_project w i w'
      ((Phase.trying n).adv uuid gitlab_project
        ⟨.create_template n (newTemplate (uuid n) gitlab_project n), a⟩) := by
  cases hact with
  | unstorable hnot => exact absurd hfits.storableTemplate (Bool.eq_false_iff.mp hnot)
  | taken _ htaken =>
      exact ⟨h, ⟨rfl, hn, fun hlast => hfits.has_of_taken hlast htaken⟩, fun j _ => .refl w j⟩
  | inserted _ htaken hwaits =>
      refine ⟨h.insert htaken hwaits hfits.isDnsLabel, ⟨?_, hn, hfits.storableItem, ?_, ?_⟩,
        fun j hj => World.leaves_hold _ hj⟩
      · exact Function.update_self ..
      · obtain ⟨d, hd, _⟩ := hfits.description
        rw [hd]
        exact Option.some_ne_none d
      · intro hlast
        rcases hfits.last hlast with ⟨t, ht, hproject⟩ | hfree
        · exact absurd ⟨t, ht, .inr (.inr ⟨hproject.symm, Option.some_ne_none _⟩)⟩ htaken
        · exact hfree.2

theorem kept_create_item (h : w.Consistent) (hlinked : Linked uuid gitlab_project w i (.item n))
    {a : Except Exc Unit}
    (hact : Acts i (.create_item (newItem (newTemplate (uuid n) gitlab_project n) gitlab_project))
      w a w') :
    Kept uuid gitlab_project w i w'
      ((Phase.item n).adv uuid gitlab_project
        ⟨.create_item (newItem (newTemplate (uuid n) gitlab_project n) gitlab_project), a⟩) := by
  obtain ⟨hpending, hn, hstorable, hdescription, hslug⟩ := hlinked
  cases hact with
  | item_unstorable hnot => exact absurd hstorable (Bool.eq_false_iff.mp hnot)
  | item_taken _ htaken =>
      refine ⟨h, ⟨rfl, hn, fun hlast => ?_⟩, fun j _ => .refl w j⟩
      rcases htaken with hnone | ⟨item, hitem, hclash | ⟨hclash, _⟩⟩
      · exact absurd hnone hdescription
      · exact absurd hclash.symm (hslug hlast item hitem)
      · obtain ⟨t, ht, hid⟩ := h.item_template item hitem _ hclash.symm
        exact absurd ⟨t, ht, .inl hid.symm⟩ (h.pending_committed i _ hpending)
  | item_inserted _ _ htaken _ hheld =>
      obtain ⟨rfl, _⟩ := Prod.mk.inj (Option.some.inj (hheld.symm.trans hpending))
      exact ⟨h.insert_item hpending rfl rfl htaken, Function.update_self ..,
        fun j hj => World.leaves_hold _ hj⟩

theorem kept_commit (h : w.Consistent) (hlinked : Linked uuid gitlab_project w i (.ready n))
    {a : Unit} (hact : Acts i .commit w a w') :
    Kept uuid gitlab_project w i w' ((Phase.ready n).adv uuid gitlab_project ⟨.commit, a⟩) := by
  cases hact
  refine ⟨h.commit hlinked, ?_, fun j hj => World.leaves_commit h hlinked hj⟩
  rw [World.commit_of_pending hlinked]
  exact ⟨Function.update_self .., newTemplate (uuid n) gitlab_project n,
    List.mem_append_right _ List.mem_cons_self, rfl, rfl⟩

theorem kept_rollback {held : Bool} (h : w.Consistent) (hn : n < 20)
    (hhas : n = 19 → w.Has gitlab_project) {a : Unit} (hact : Acts i .rollback w a w') :
    Kept uuid gitlab_project w i w'
      ((Phase.undoing n .IntegrityError held).adv uuid gitlab_project ⟨.rollback, a⟩) := by
  cases hact
  refine ⟨h.drop i, ?_, fun j hj => World.leaves_hold _ hj⟩
  unfold Phase.adv
  dsimp only
  split
  next hmore => exact ⟨Function.update_self .., by omega⟩
  next hmore => exact ⟨Function.update_self .., hhas (by omega)⟩

theorem kept_of_act {phase : Phase} {o : Op} {a : Ans o} (h : w.Consistent)
    (hlinked : Linked uuid gitlab_project w i phase)
    (hasks : phase.asks uuid gitlab_project = some o)
    (hfits : ∀ n t, o = .create_template n t → AttemptFits gitlab_project w n t)
    (hact : Acts i o w a w') :
    Kept uuid gitlab_project w i w' (phase.adv uuid gitlab_project ⟨o, a⟩) := by
  cases phase with
  | looking =>
      obtain rfl := Option.some.inj hasks
      exact kept_get h hlinked hact
  | trying n =>
      obtain rfl := Option.some.inj hasks
      exact kept_create_template h hlinked.2 (hfits n _ rfl) hact
  | item n =>
      obtain rfl := Option.some.inj hasks
      exact kept_create_item h hlinked hact
  | ready n =>
      obtain rfl := Option.some.inj hasks
      exact kept_commit h hlinked hact
  | undoing n e held =>
      obtain rfl := Option.some.inj hasks
      obtain ⟨rfl, hn, hhas⟩ := hlinked
      exact kept_rollback h hn hhas hact
  | last =>
      obtain rfl := Option.some.inj hasks
      exact kept_last h hlinked.1 hlinked.2 hact
  | ended r => cases hasks

end Kept

/-! ## Waiting -/

theorem acts_of_pending {uuid : Nat → Str} {gitlab_project : GitlabProject} {phase : Phase} {o : Op}
    {p : ApplicationTemplate × Option CatalogueItem} (h : w.Consistent)
    (hlinked : Linked uuid gitlab_project w i phase)
    (hasks : phase.asks uuid gitlab_project = some o) (hpending : w.pending i = some p) :
    (∀ n t, o ≠ .create_template n t) ∧ ∃ a w', Acts i o w a w' := by
  have hheld {q : Prop} (hnone : w.pending i = none) : q :=
    absurd (hnone.symm.trans hpending) (Option.some_ne_none p).symm
  cases phase with
  | looking => exact hheld hlinked
  | trying n => exact hheld hlinked.1
  | item n =>
      obtain rfl := Option.some.inj hasks
      obtain ⟨hrow, _, hstorable, hdescription, _⟩ := hlinked
      refine ⟨fun _ _ => Op.noConfusion, ?_⟩
      by_cases htaken : w.ItemTaken (newItem (newTemplate (uuid n) gitlab_project n) gitlab_project)
      · exact ⟨_, _, .item_taken hstorable (.inr htaken)⟩
      · exact ⟨_, _, .item_inserted hstorable hdescription htaken (not_itemWaits h hrow) hrow⟩
  | ready n =>
      obtain rfl := Option.some.inj hasks
      exact ⟨fun _ _ => Op.noConfusion, _, _, .commit⟩
  | undoing n e held =>
      obtain rfl := Option.some.inj hasks
      exact ⟨fun _ _ => Op.noConfusion, _, _, .rollback⟩
  | last => exact hheld hlinked.1
  | ended r => cases hasks

theorem acts_or_waits {uuid : Nat → Str} {gitlab_project : GitlabProject} {phase : Phase} {o : Op}
    (h : w.Consistent) (hlinked : Linked uuid gitlab_project w i phase)
    (hasks : phase.asks uuid gitlab_project = some o) :
    (∃ a w', Acts i o w a w') ∨ ∃ j, j ≠ i ∧ ∃ p, w.pending j = some p := by
  cases phase with
  | looking =>
      obtain rfl := Option.some.inj hasks
      exact .inl ⟨_, _, .get⟩
  | trying n =>
      obtain rfl := Option.some.inj hasks
      by_cases hstorable : storableTemplate (newTemplate (uuid n) gitlab_project n) = true
      · by_cases htaken : w.Taken (newTemplate (uuid n) gitlab_project n)
        · exact .inl ⟨_, _, .taken hstorable htaken⟩
        · by_cases hwaits : w.Waits i (newTemplate (uuid n) gitlab_project n)
          · obtain ⟨j, hj, p, hp, _⟩ := hwaits
            exact .inr ⟨j, hj, p, hp⟩
          · exact .inl ⟨_, _, .inserted hstorable htaken hwaits⟩
      · exact .inl ⟨_, _, .unstorable (Bool.eq_false_iff.mpr hstorable)⟩
  | item n => exact .inl (acts_of_pending h hlinked hasks hlinked.1).2
  | ready n => exact .inl (acts_of_pending h hlinked hasks hlinked).2
  | undoing n e held =>
      obtain rfl := Option.some.inj hasks
      exact .inl ⟨_, _, .rollback⟩
  | last =>
      obtain rfl := Option.some.inj hasks
      exact .inl ⟨_, _, .get⟩
  | ended r => cases hasks

end Steps

/-! ## The first page of a project -/

section First

variable [DecidableEq ι] (project : ι → GitlabProject) (uuid : ι → Nat → Str) (w : World ι)
  (ok : Config Ans Exc ApplicationTemplate ι (World ι) → ι → Op → Prop) (i : ι)

theorem attempts_through (uuid : Nat → Str) (gitlab_project : GitlabProject) (n further : Nat) :
    ∃ k, attempts uuid gitlab_project n further =
        .op (.create_template n (newTemplate (uuid n) gitlab_project n)) k ∧
      ∃ k', k (.ok ()) = .op
          (.create_item (newItem (newTemplate (uuid n) gitlab_project n) gitlab_project)) k' ∧
        k' (.ok ()) = .op .commit fun _ => .pure (newTemplate (uuid n) gitlab_project n) := by
  cases further with
  | zero =>
      rw [attempts]
      refine ⟨_, rfl, ?_⟩
      exact ⟨_, rfl, rfl⟩
  | succ further =>
      rw [attempts]
      refine ⟨_, rfl, ?_⟩
      exact ⟨_, rfl, rfl⟩

theorem run_of_first (t : ApplicationTemplate) (ht : t = newTemplate (uuid i 0) (project i) 0)
    (hpending : ∀ j, w.pending j = none)
    (hnone : (w.templates.find? fun t => t.gitlab_project_id == some (project i).id) = none)
    (htaken : ¬ w.Taken t) (hstorable : storableTemplate t = true)
    (hitem : storableItem (newItem t (project i)) = true)
    (hdescription : (project i).description ≠ none)
    (hitemTaken : ¬ w.ItemTaken (newItem t (project i)))
    (hok : ∀ c o, (∀ n t', o = .create_template n t' → c.store = w ∧ n = 0 ∧ t' = t) → ok c i o) :
    ∃ c, (pages project uuid).Run ok w c ∧ c.tasks i = Async.ended (.ok t) ∧
      c.store.templates = w.templates ++ [t] := by
  subst ht
  obtain ⟨k, hk, k', hk', hlast⟩ := attempts_through (uuid i) (project i) 0 19
  have hget : (pages project uuid).act i (.get (project i).id) w none w := hnone ▸ Acts.get
  have hstart : (pages project uuid).Run ok w ((pages project uuid).start w) := .refl
  have hfound := hstart.step (i := i) rfl (hok _ _ (by simp)) hget
  have htemplate : (pages project uuid).act i
      (.create_template 0 (newTemplate (uuid i 0) (project i) 0)) w (.ok ())
      (w.hold i (some (newTemplate (uuid i 0) (project i) 0, none))) :=
    Acts.inserted hstorable htaken (by
      rintro ⟨j, _, p, hp, _⟩
      exact absurd ((hpending j).symm.trans hp) (Option.some_ne_none p).symm)
  have hinserted := hfound.step ((Config.go_tasks_self ..).trans hk)
    (hok _ _ (by
      rintro n t' ho
      obtain ⟨rfl, rfl⟩ := Op.create_template.inj ho
      exact ⟨rfl, rfl, rfl⟩)) htemplate
  have hcreate : (pages project uuid).act i
      (.create_item (newItem (newTemplate (uuid i 0) (project i) 0) (project i))) _ (.ok ()) _ :=
    Acts.item_inserted (i := i) (w := w.hold i (some (newTemplate (uuid i 0) (project i) 0, none)))
      hitem hdescription hitemTaken (by
        rintro ⟨j, hj, p, hp, _⟩
        rw [pending_hold, if_neg hj, hpending j] at hp
        cases hp) (Function.update_self ..)
  have hcreated := hinserted.step ((Config.go_tasks_self ..).trans hk') (hok _ _ (by simp)) hcreate
  have hcommitted := hcreated.step ((Config.go_tasks_self ..).trans hlast) (hok _ _ (by simp))
    Acts.commit
  refine ⟨_, hcommitted, Config.go_tasks_self .., ?_⟩
  rw [Config.go_store, World.commit_of_pending (Function.update_self ..)]
  rfl

end First

/-! ## Runs -/

theorem Initial.consistent {w : World ι} (h : Initial w) : w.Consistent where
  clash := h.clash
  item_clash := h.item_clash
  item_template := h.item_template
  item t ht hproject := absurd (h.project t ht) hproject
  label t ht hproject := absurd (h.project t ht) hproject
  pending_committed i p hp := absurd ((h.pending i).symm.trans hp) (Option.some_ne_none p).symm
  pending_pending i _ _ p _ hp := absurd ((h.pending i).symm.trans hp) (Option.some_ne_none p).symm
  pending_item i _ _ hp := absurd ((h.pending i).symm.trans hp) (Option.some_ne_none _).symm
  pending_label i p hp := absurd ((h.pending i).symm.trans hp) (Option.some_ne_none p).symm

theorem filter_eq_singleton {β : Type} {R : β → β → Prop} {l : List β} {p : β → Bool} {b : β}
    (hl : l.Pairwise fun b b' => ¬ R b b') (hp : ∀ b b', p b = true → p b' = true → R b b')
    (hb : b ∈ l) (hpb : p b = true) : l.filter p = [b] := by
  have hmem : b ∈ l.filter p := List.mem_filter.mpr ⟨hb, hpb⟩
  have hpairwise : (l.filter p).Pairwise fun b b' => ¬ R b b' := hl.filter p
  have hall : ∀ b' ∈ l.filter p, p b' = true := fun _ h => (List.mem_filter.mp h).2
  generalize l.filter p = rows at hmem hpairwise hall
  cases rows with
  | nil => cases hmem
  | cons x rows =>
      cases rows with
      | nil => rw [List.mem_singleton.mp hmem]
      | cons y rows =>
          have hxy : R x y := hp x y (hall x List.mem_cons_self)
            (hall y (List.mem_cons_of_mem _ List.mem_cons_self))
          exact absurd hxy ((List.pairwise_cons.mp hpairwise).1 y List.mem_cons_self)

section Runs

variable [DecidableEq ι] {project : ι → GitlabProject} {uuid : ι → Nat → Str} {w : World ι}
  {c : Config Ans Exc ApplicationTemplate ι (World ι)}

/-- The phase of a request. -/
def phaseOf (project : ι → GitlabProject) (uuid : ι → Nat → Str)
    (c : Config Ans Exc ApplicationTemplate ι (World ι)) (i : ι) : Phase :=
  c.summary (Phase.adv (uuid i) (project i)) .looking i

theorem asks_of_op (hrun : (pages project uuid).Run (Fits project) w c) {i : ι} {o : Op}
    {k : Ans o → M ApplicationTemplate} (hi : c.tasks i = .op o k) :
    (phaseOf project uuid c i).asks (uuid i) (project i) = some o :=
  hrun.pre hi (wp_application_template (uuid i) (project i))

theorem phaseOf_of_ended (hrun : (pages project uuid).Run (Fits project) w c) {i : ι}
    {r : Except Exc ApplicationTemplate} (hi : c.tasks i = ended r) :
    phaseOf project uuid c i = .ended r :=
  hrun.post hi (wp_application_template (uuid i) (project i))

theorem consistent_and_linked (hinit : Initial w)
    (hrun : (pages project uuid).Run (Fits project) w c) :
    c.store.Consistent ∧ ∀ i, Linked (uuid i) (project i) c.store i (phaseOf project uuid c i) := by
  refine hrun.invariant
    (I := fun c => c.store.Consistent ∧
      ∀ i, Linked (uuid i) (project i) c.store i (phaseOf project uuid c i))
    ⟨hinit.consistent, fun i => hinit.pending i⟩ ?_
  rintro c i o k a w' hrun hi hok hact ⟨hconsistent, hlinked⟩
  have hkept := kept_of_act hconsistent (hlinked i) (asks_of_op hrun hi)
    (fun n t ho => by subst ho; exact hok) hact
  refine ⟨hkept.consistent, fun j => ?_⟩
  by_cases hj : j = i
  · subst hj
    rw [phaseOf, Config.summary_go_self]
    exact hkept.linked
  · rw [phaseOf, Config.summary_go_of_ne _ _ hj]
    exact (hlinked j).mono (hkept.leaves j hj)

/-- What holds of the rows and of the requests at any time. -/
structure Settled (project : ι → GitlabProject)
    (c : Config Ans Exc ApplicationTemplate ι (World ι)) : Prop where
  /-- No project has two templates. -/
  one : ∀ id, (c.store.templates.filter fun t => t.gitlab_project_id == some id).length ≤ 1
  /-- A request that is over ended with the template of its project. -/
  ended : ∀ i r, c.tasks i = Async.ended r → ∃ t, r = .ok t ∧
    (c.store.templates.filter fun t => t.gitlab_project_id == some (project i).id) = [t]
  /-- The template of a project has one item, which has its host as slug. -/
  item : ∀ t ∈ c.store.templates, t.gitlab_project_id ≠ none → ∃ item,
    (c.store.items.filter fun item => item.visualisation_template == some t.id) = [item] ∧
      item.slug = t.host_basename
  label : ∀ t ∈ c.store.templates, t.gitlab_project_id ≠ none → IsDnsLabel t.host_basename
  /-- No other template has its host. -/
  host : ∀ t ∈ c.store.templates,
    (c.store.templates.filter fun t' => t'.host_basename == t.host_basename) = [t]
  /-- A request that is not over goes on, or waits for one that does. -/
  goes_on : ∀ i o k, c.tasks i = .op o k → (∃ a w', Acts i o c.store a w') ∨
    ∃ j o' k', j ≠ i ∧ c.tasks j = .op o' k' ∧ Fits project c j o' ∧ ∃ a w', Acts j o' c.store a w'
  /-- And not for long. -/
  operations : ∀ i o k, c.tasks i = .op o k → (c.traces i).length < 62

theorem traces_length_lt (hrun : (pages project uuid).Run (Fits project) w c) {i : ι} {o : Op}
    {k : Ans o → M ApplicationTemplate} (hi : c.tasks i = .op o k) : (c.traces i).length < 62 := by
  have hcount := hrun.pre hi (wp_counting (uuid i) (project i))
  rwa [Config.summary, List.foldl_add_const, Nat.one_mul, Nat.zero_add] at hcount

theorem op_of_pending (hrun : (pages project uuid).Run (Fits project) w c) {i : ι}
    {p : ApplicationTemplate × Option CatalogueItem}
    (hlinked : Linked (uuid i) (project i) c.store i (phaseOf project uuid c i))
    (hp : c.store.pending i = some p) : ∃ o k, c.tasks i = .op o k := by
  have hover {r : Except Exc ApplicationTemplate} (hi : c.tasks i = Async.ended r) : False := by
    rw [phaseOf_of_ended hrun hi] at hlinked
    exact Option.some_ne_none p (hp.symm.trans hlinked.1)
  cases hi : c.tasks i with
  | pure t => exact absurd hi (hover (r := .ok t))
  | raise e => exact absurd hi (hover (r := .error e))
  | op o k => exact ⟨o, k, rfl⟩

theorem settled_of_run (hinit : Initial w) (hrun : (pages project uuid).Run (Fits project) w c) :
    Settled project c := by
  obtain ⟨h, hlinked⟩ := consistent_and_linked hinit hrun
  have hproject (id : Nat) (t t' : ApplicationTemplate)
      (ht : (t.gitlab_project_id == some id) = true)
      (ht' : (t'.gitlab_project_id == some id) = true) : Clash t t' := by
    rw [beq_iff_eq] at ht ht'
    exact .inr (.inr ⟨ht.trans ht'.symm, ht ▸ Option.some_ne_none id⟩)
  refine ⟨fun id => ?_, fun i r hi => ?_, fun t ht hsome => ?_, h.label, fun t ht => ?_,
    fun i o k hi => ?_, fun i o k hi => traces_length_lt hrun hi⟩
  · by_cases hhas : ∃ t ∈ c.store.templates, (t.gitlab_project_id == some id) = true
    · obtain ⟨t, ht, hid⟩ := hhas
      rw [filter_eq_singleton h.clash (hproject id) ht hid]
      exact Nat.le_refl 1
    · rw [List.filter_eq_nil_iff.mpr fun t ht hid => hhas ⟨t, ht, hid⟩]
      exact Nat.zero_le 1
  · have hended := hlinked i
    rw [phaseOf_of_ended hrun hi] at hended
    obtain ⟨_, t, ht, hid, rfl⟩ := hended
    exact ⟨t, rfl, filter_eq_singleton h.clash (hproject _) ht (beq_iff_eq.mpr hid)⟩
  · obtain ⟨item, hitem, htemplate, hslug⟩ := h.item t ht hsome
    refine ⟨item, filter_eq_singleton h.item_clash (fun x y hx hy => ?_) hitem
      (beq_iff_eq.mpr htemplate), hslug⟩
    rw [beq_iff_eq] at hx hy
    exact .inr ⟨hx.trans hy.symm, hx ▸ Option.some_ne_none t.id⟩
  · refine filter_eq_singleton h.clash (fun x y hx hy => ?_) ht (beq_self_eq_true _)
    rw [beq_iff_eq] at hx hy
    exact .inr (.inl (hx.trans hy.symm))
  · rcases acts_or_waits h (hlinked i) (asks_of_op hrun hi) with hacts | ⟨j, hj, p, hp⟩
    · exact .inl hacts
    · obtain ⟨o', k', hop⟩ := op_of_pending hrun (hlinked j) hp
      obtain ⟨hnot, hacts⟩ := acts_of_pending h (hlinked j) (asks_of_op hrun hop) hp
      refine .inr ⟨j, o', k', hj, hop, ?_, hacts⟩
      cases o' with
      | create_template n t => exact absurd rfl (hnot n t)
      | get id => trivial
      | create_item item => trivial
      | commit => trivial
      | rollback => trivial

end Runs

/-- There are no templates. -/
def emptyWorld : World Unit := ⟨[], [], fun _ => none⟩

theorem initial_emptyWorld : Initial emptyWorld where
  project _ ht := absurd ht List.not_mem_nil
  clash := .nil
  item_clash := .nil
  item_template _ hitem := absurd hitem List.not_mem_nil
  pending _ := rfl

theorem not_taken_emptyWorld (t : ApplicationTemplate) : ¬ emptyWorld.Taken t := by
  rintro ⟨_, ht, _⟩
  cases ht

theorem not_itemTaken_emptyWorld (item : CatalogueItem) : ¬ emptyWorld.ItemTaken item := by
  rintro ⟨_, hitem, _⟩
  cases hitem

def tradeData : GitlabProject := ⟨7, "Trade Data", some "Trade by country"⟩

theorem fits_tradeData : AttemptFits tradeData emptyWorld 0 (newTemplate "id" tradeData 0) where
  root := by decide
  host := by decide
  name := by decide
  description := ⟨_, rfl, by decide⟩
  id _ ht := absurd ht List.not_mem_nil
  last h := absurd h (by decide)

theorem settled_tradeData : ∃ c, Settled (fun _ : Unit => tradeData) c ∧
    c.store.templates = [newTemplate "id" tradeData 0] := by
  obtain ⟨c, hrun, _, htemplates⟩ := run_of_first (fun _ : Unit => tradeData) (fun _ _ => "id")
    emptyWorld (Fits fun _ => tradeData) () (newTemplate "id" tradeData 0) rfl (fun _ => rfl) rfl
    (not_taken_emptyWorld _) (by decide) (by decide) (Option.some_ne_none _) (not_itemTaken_emptyWorld _) (by
      intro c o ho
      cases o with
      | create_template n t =>
          obtain ⟨hstore, rfl, rfl⟩ := ho n t rfl
          show AttemptFits _ c.store _ _
          rw [hstore]
          exact fits_tradeData
      | get id => trivial
      | create_item item => trivial
      | commit => trivial
      | rollback => trivial)
  exact ⟨c, settled_of_run initial_emptyWorld hrun, htemplates⟩

/-- A project of which the name has no letter. -/
def punctuation : GitlabProject := ⟨7, "!!!", some "Trade by country"⟩

theorem punctuation_has_no_host : ∃ c, (pages (fun _ : Unit => punctuation) fun _ _ => "id").Run
    Always emptyWorld c ∧ ∃ t ∈ c.store.templates, c.tasks () = ended (.ok t) ∧
      t.gitlab_project_id = some punctuation.id ∧ t.host_basename = [] ∧
      ¬ IsDnsLabel t.host_basename := by
  obtain ⟨c, hrun, hended, htemplates⟩ := run_of_first (fun _ : Unit => punctuation)
    (fun _ _ => "id") emptyWorld Always () (newTemplate "id" punctuation 0) rfl (fun _ => rfl) rfl
    (not_taken_emptyWorld _) (by decide) (by decide) (Option.some_ne_none _) (not_itemTaken_emptyWorld _) (fun _ _ _ => trivial)
  refine ⟨c, hrun, newTemplate "id" punctuation 0, ?_, hended, rfl, by decide, ?_⟩
  · rw [htemplates]
    exact List.mem_append_right _ List.mem_cons_self
  · exact fun h => h.ne_nil (by decide)

end Projects
