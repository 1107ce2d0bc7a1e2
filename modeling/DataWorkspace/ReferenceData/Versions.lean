import Mathlib.Data.Prod.Lex
import DataWorkspace.ReferenceData.Requests

/-!
# The versions of a reference dataset

A dataset has a working version and a published one.  `manage_published` runs before
every write of the row, and after it the two are the same in a dataset that is
published.  Everything else only ever raises the working version.

`published_versions` puts this together for any requests, with any number of objects
of one dataset and whatever fails.  A request that only has one object of a dataset
also never takes the published version back from one call to the next.
-/

namespace ReferenceData

open Py Sql

/-! ## Versions of a row -/

/-- The working version. -/
def ReferenceDataset.version (row : ReferenceDataset) : ℕ ×ₗ ℕ :=
  toLex (row.major_version, row.minor_version)

def ReferenceDataset.published_version (row : ReferenceDataset) : ℕ ×ₗ ℕ :=
  toLex (row.published_major_version, row.published_minor_version)

/-- What the versions of any row and of any object satisfy. -/
structure ReferenceDataset.Ordered (row : ReferenceDataset) : Prop where
  /-- The published version does not exceed the working one. -/
  le : row.published_version ≤ row.version
  /-- Nothing was published before the first publication. -/
  unpublished : row.initial_published_at = none → row.published_version = toLex (0, 0)

def ReferenceDataset.Current (row : ReferenceDataset) : Prop :=
  row.published = true → row.published_version = row.version

namespace ReferenceDataset

variable {row : ReferenceDataset}

theorem ordered_default (edit : Edit) : (default.edited edit).Ordered where
  le := by simp [published_version, version, default, edited, Prod.Lex.toLex_le_toLex]
  unpublished := fun _ => rfl

theorem Ordered.schemaBumped (h : row.Ordered) : row.schemaBumped.Ordered :=
  ⟨h.le, h.unpublished⟩

theorem Ordered.majorBumped (h : row.Ordered) : row.majorBumped.Ordered where
  le := by
    refine le_trans h.le ?_
    simp [version, ReferenceDataset.majorBumped, Prod.Lex.toLex_le_toLex]
  unpublished := h.unpublished

theorem Ordered.minorBumped (h : row.Ordered) : row.minorBumped.Ordered where
  le := by
    refine le_trans h.le ?_
    simp [version, ReferenceDataset.minorBumped, Prod.Lex.toLex_le_toLex]
  unpublished := h.unpublished

theorem Ordered.edited (h : row.Ordered) (edit : Edit) : (row.edited edit).Ordered :=
  ⟨h.le, h.unpublished⟩

theorem Ordered.firstPublished (h : row.Ordered) (now : Nat) :
    (row.firstPublished now).Ordered := by
  unfold ReferenceDataset.firstPublished
  split
  next hi =>
    have h0 := h.unpublished (Option.isNone_iff_eq_none.mp hi)
    refine ⟨?_, fun hn => by simp at hn⟩
    show row.published_version ≤ toLex (1, 0)
    rw [h0]
    simp [Prod.Lex.toLex_le_toLex]
  next => exact h

theorem published_version_firstPublished (now : Nat) :
    (row.firstPublished now).published_version = row.published_version := by
  unfold firstPublished
  split <;> rfl

theorem le_nextPublished : row.published_version ≤ toLex row.nextPublished := by
  unfold nextPublished published_version
  split
  next => simp [Prod.Lex.toLex_le_toLex]
  next =>
    split
    next => simp [Prod.Lex.toLex_le_toLex]
    next => exact le_refl _

theorem le_managePublished (h : row.Ordered) (original_published create : Bool) (now : Nat) :
    row.published_version ≤
      (row.managePublished original_published create now).published_version := by
  unfold managePublished
  split
  next => exact le_refl _
  next =>
    rw [← @published_version_firstPublished row now]
    split
    next => exact (h.firstPublished now).le
    next => exact le_nextPublished

theorem current_managePublished (original_published create : Bool) (now : Nat) :
    (row.managePublished original_published create now).Current := by
  intro hp
  unfold managePublished at hp ⊢
  split at hp
  next hn => exact absurd hp hn
  next hn =>
    rw [if_neg hn]
    split
    next => rfl
    next => rfl

theorem initial_managePublished (original_published create : Bool) (now : Nat) :
    (row.managePublished original_published create now).published = row.published ∧
    (row.published = true →
      (row.managePublished original_published create now).initial_published_at ≠ none) := by
  have hf : (row.firstPublished now).published = row.published ∧
      (row.firstPublished now).initial_published_at ≠ none := by
    unfold firstPublished
    split
    next => exact ⟨rfl, nofun⟩
    next hi => exact ⟨rfl, fun hn => hi (by rw [hn]; rfl)⟩
  unfold managePublished
  split
  next hp => exact ⟨rfl, fun h => absurd h hp⟩
  next =>
    split
    next => exact ⟨hf.1, fun _ => hf.2⟩
    next => exact ⟨hf.1, fun _ => hf.2⟩

theorem Ordered.managePublished (h : row.Ordered) (original_published create : Bool)
    (now : Nat) : (row.managePublished original_published create now).Ordered := by
  obtain ⟨hp, hi⟩ := @initial_managePublished row original_published create now
  by_cases hpub : row.published = true
  · have hc := current_managePublished original_published create now (hp.trans hpub)
    exact ⟨le_of_eq hc, fun hn => absurd hn (hi hpub)⟩
  · unfold ReferenceDataset.managePublished
    rw [if_pos hpub]
    exact h

end ReferenceDataset

theorem Evolves.versions {f : DatasetObject → DatasetObject} (h : Evolves f)
    (o : DatasetObject) : (f o).pk = o.pk ∧
      (f o).row.published_version = o.row.published_version ∧
      (o.row.Ordered → (f o).row.Ordered) := by
  cases h with
  | schema => exact ⟨rfl, rfl, .schemaBumped⟩
  | major => exact ⟨rfl, rfl, .majorBumped⟩
  | minor => exact ⟨rfl, rfl, .minorBumped⟩
  | remembered => exact ⟨rfl, rfl, id⟩
  | unsorted db => exact ⟨rfl, rfl, fun h => ⟨h.le, h.unpublished⟩⟩

/-! ## Any number of objects -/

/-- The versions of all rows and objects are in order, published rows are current, and
no published version is below the one in `base`.  Primary keys have been given out. -/
structure Sound (base : Nat → ℕ ×ₗ ℕ) (w : World) : Prop where
  rows : ∀ pk row, w.db.datasets.get? pk = some row →
    row.Ordered ∧ row.Current ∧ base pk ≤ row.published_version ∧ pk < w.next_id
  objects : ∀ self, (w.dataset_objects self).row.Ordered ∧
    ∀ pk, (w.dataset_objects self).pk = some pk →
      base pk ≤ (w.dataset_objects self).row.published_version ∧ pk < w.next_id
  /-- A dataset that is still to come has no version to keep to. -/
  fresh : ∀ pk, w.next_id ≤ pk → base pk = toLex (0, 0)

/-- A world with a row written. -/
def World.setRow (w : World) (pk : Nat) (row : ReferenceDataset) : World :=
  { w with db := { w.db with datasets := w.db.datasets.set pk row } }

def World.unsortRows (w : World) (field : Option Nat) : World :=
  { w with db := { w.db with
      datasets := w.db.datasets.mapValues fun d =>
        if d.sort_field = field then { d with sort_field := none } else d } }

theorem bot_le_version (v : ℕ ×ₗ ℕ) : toLex (0, 0) ≤ v := by
  obtain ⟨a, b⟩ := v
  refine Prod.Lex.toLex_le_toLex.mpr ?_
  rcases Nat.eq_zero_or_pos a with rfl | ha
  · exact Or.inr ⟨rfl, Nat.zero_le _⟩
  · exact Or.inl ha

namespace Sound

variable {base : Nat → ℕ ×ₗ ℕ} {w w' : World}

theorem congr (h : Sound base w) (hd : w'.db.datasets = w.db.datasets)
    (ho : w'.dataset_objects = w.dataset_objects) (hn : w.next_id ≤ w'.next_id) :
    Sound base w' where
  rows := fun pk row hrow =>
    have ⟨hr, hc, hb, hl⟩ := h.rows pk row (hd ▸ hrow)
    ⟨hr, hc, hb, lt_of_lt_of_le hl hn⟩
  objects := fun self => by
    rw [ho]
    refine ⟨(h.objects self).1, fun pk hpk => ?_⟩
    exact ⟨((h.objects self).2 pk hpk).1, lt_of_lt_of_le ((h.objects self).2 pk hpk).2 hn⟩
  fresh := fun pk hpk => h.fresh pk (le_trans hn hpk)

theorem setObject (h : Sound base w) (self : Nat) {o : DatasetObject} (ho : o.row.Ordered)
    (hb : ∀ pk, o.pk = some pk → base pk ≤ o.row.published_version ∧ pk < w.next_id) :
    Sound base (w.setObject self o) where
  rows := h.rows
  objects := by
    intro i
    show (Function.update w.dataset_objects self o i).row.Ordered ∧ _
    by_cases hi : i = self
    · subst hi
      simpa [World.setObject] using ⟨ho, hb⟩
    · simpa [World.setObject, Function.update_of_ne hi] using h.objects i
  fresh := h.fresh

theorem managed (h : Sound base w) (self : Nat) (original_published create : Bool) :
    (w.managed self original_published create).row.Ordered ∧
      (w.managed self original_published create).row.Current ∧
      (w.dataset_objects self).row.published_version ≤
        (w.managed self original_published create).row.published_version :=
  have ho := (h.objects self).1
  ⟨ho.managePublished _ _ _, ReferenceDataset.current_managePublished _ _ _,
    ReferenceDataset.le_managePublished ho _ _ _⟩

theorem setRow (h : Sound base w) {pk : Nat} {row : ReferenceDataset} (ho : row.Ordered)
    (hc : row.Current) (hb : base pk ≤ row.published_version) (hl : pk < w.next_id) :
    Sound base (w.setRow pk row) where
  rows := by
    intro k r hk
    simp only [World.setRow, Dict.get?_set] at hk
    split at hk
    next hkk =>
      subst hkk
      obtain rfl := Option.some.inj hk
      exact ⟨ho, hc, hb, hl⟩
    next => exact h.rows k r hk
  objects := h.objects
  fresh := h.fresh

theorem unsortRows (h : Sound base w) (field : Option Nat) : Sound base (w.unsortRows field) where
  rows := by
    intro pk row hrow
    simp only [World.unsortRows, Dict.get?_mapValues, Option.map_eq_some_iff] at hrow
    obtain ⟨row', hrow', rfl⟩ := hrow
    obtain ⟨ho, hc, hb⟩ := h.rows pk row' hrow'
    split
    next => exact ⟨⟨ho.le, ho.unpublished⟩, hc, hb⟩
    next => exact ⟨ho, hc, hb⟩
  objects := h.objects
  fresh := h.fresh

/-- Keeping the versions sound, while primary keys are given out. -/
def Kept (base : Nat → ℕ ×ₗ ℕ) (w w' : World) : Prop :=
  w.next_id ≤ w'.next_id ∧ (Sound base w → Sound base w')

theorem kept_of_same (hd : w'.db.datasets = w.db.datasets)
    (ho : w'.dataset_objects = w.dataset_objects) (hn : w.next_id ≤ w'.next_id) :
    Kept base w w' :=
  ⟨hn, fun h => h.congr hd ho hn⟩

theorem publishRow (self : Nat) (original_published create : Bool) :
    Steps (Kept base) (publishRow self original_published create) := by
  intro w
  refine wp_publishRow _ rfl ?_ ?_
  · intro pk next_id faults log hpk
    have hle : w.next_id ≤ next_id := by
      rcases hpk with ⟨_, rfl⟩ | ⟨_, _, rfl⟩
      · exact le_refl _
      · exact Nat.le_succ _
    refine ⟨hle, fun h => ?_⟩
    obtain ⟨ho, hc, hm⟩ := h.managed self original_published create
    have hb : base pk ≤ (w.managed self original_published create).row.published_version ∧
        pk < next_id := by
      rcases hpk with ⟨hpk, rfl⟩ | ⟨_, rfl, rfl⟩
      · have := (h.objects self).2 pk hpk
        exact ⟨le_trans this.1 hm, this.2⟩
      · exact ⟨h.fresh _ (le_refl _) ▸ bot_le_version _, Nat.lt_succ_self _⟩
    have hn : Sound base { w with next_id := next_id } := h.congr rfl rfl hle
    have hs := hn.setObject self
      (o := { w.managed self original_published create with pk := some pk })
      ho fun _ hk => Option.some.inj hk ▸ hb
    exact (hs.setRow ho hc hb.1 hb.2).congr rfl rfl (le_refl _)
  · intro e faults log
    refine ⟨le_refl _, fun h => ?_⟩
    obtain ⟨ho, _, hm⟩ := h.managed self original_published create
    have hs := h.setObject self (o := w.managed self original_published create) ho
      fun pk hk => ⟨le_trans ((h.objects self).2 pk hk).1 hm, ((h.objects self).2 pk hk).2⟩
    exact hs.congr rfl rfl (le_refl _)

theorem deleteFieldRow (self : Nat) : Steps (Kept base) (deleteFieldRow self) := fun w =>
  wp_deleteFieldRow _ rfl
    (fun _ _ => ⟨le_refl _, fun h =>
      (h.unsortRows (w.field_objects self).pk).congr rfl rfl (le_refl _)⟩)
    fun _ _ _ => kept_of_same rfl rfl (le_refl _)

theorem saveFieldRow (self : Nat) : Steps (Kept base) (saveFieldRow self) := by
  intro w
  refine wp_saveFieldRow _ rfl ?_ fun _ _ _ => kept_of_same rfl rfl (le_refl _)
  intro pk next_id faults log hpk
  refine kept_of_same rfl rfl ?_
  rcases hpk with ⟨_, rfl⟩ | ⟨_, _, rfl⟩
  · exact le_refl _
  · exact Nat.le_succ _

theorem rolledBack (h : Kept base w w') : Kept base w (rollback w w') := by
  refine ⟨h.1, fun hw => ⟨fun pk row hrow => ?_, (h.2 hw).objects, (h.2 hw).fresh⟩⟩
  obtain ⟨ho, hc, hb, hl⟩ := hw.rows pk row hrow
  exact ⟨ho, hc, hb, lt_of_lt_of_le hl h.1⟩

theorem object (self : Nat) {f : DatasetObject → DatasetObject} (hf : Evolves f) :
    Steps (Kept base) (setDatasetObject self f) := by
  refine fun w => ⟨le_refl _, fun h => ?_⟩
  obtain ⟨hpk, hv, ho⟩ := hf.versions (w.dataset_objects self)
  refine h.setObject self (ho (h.objects self).1) fun pk hk => ?_
  rw [hv]
  exact (h.objects self).2 pk (hpk ▸ hk)

theorem loadDataset (self pk : Nat) : Steps (Kept base) (loadDataset self pk) := by
  intro w
  refine wp_bind.mpr (wp_query ?_ fun _ _ _ => kept_of_same rfl rfl (le_refl _))
  intro row hrow faults log
  refine ⟨le_refl _, fun h => ?_⟩
  split at hrow
  next row' hrow' =>
    obtain rfl := Except.ok.inj hrow
    obtain ⟨ho, _, hb⟩ := h.rows pk row' hrow'
    exact (h.setObject self (o := .init w.db (some pk) row') ho
      fun k hk => Option.some.inj hk ▸ hb).congr rfl rfl (le_refl _)
  next => cases hrow

/-- Every call keeps the versions sound. -/
instance closed : CallClosed (Kept base) where
  refl := fun _ => ⟨le_refl _, id⟩
  trans := fun _ _ _ h h' => ⟨le_trans h.1 h'.1, fun hs => h'.2 (h.2 hs)⟩
  statement := fun _ _ allowed w => wp_statement
    (fun a w' hw _ _ =>
      have ⟨hd, _, ho, hn, _⟩ := (allowed w a w' hw).rows
      kept_of_same hd ho (le_of_eq hn.symm))
    fun _ _ _ => kept_of_same rfl rfl (le_refl _)
  rollback := rolledBack
  depth := fun _ _ => kept_of_same rfl rfl (le_refl _)
  register := fun _ _ _ => kept_of_same rfl rfl (le_refl _)
  object := object
  next_id := fun _ => kept_of_same rfl rfl (Nat.le_succ _)
  publishRow := publishRow
  saveFieldRow := saveFieldRow
  deleteFieldRow := deleteFieldRow
  makeDataset := fun self attributes _ => ⟨le_refl _, fun h =>
    h.setObject self (ReferenceDataset.ordered_default attributes) nofun⟩
  loadDataset := loadDataset
  editDataset := fun self edit _ => ⟨le_refl _, fun h =>
    h.setObject self ((h.objects self).1.edited edit) (h.objects self).2⟩
  fieldObject := fun _ _ _ => kept_of_same rfl rfl (le_refl _)

end Sound

/-! ## One object of each dataset -/

def Db.publishedVersion (db : Db) (pk : Nat) : ℕ ×ₗ ℕ :=
  ((db.datasets.get? pk).map ReferenceDataset.published_version).getD (toLex (0, 0))

theorem Db.publishedVersion_of_some {db : Db} {pk : Nat} {row : ReferenceDataset}
    (h : db.datasets.get? pk = some row) : db.publishedVersion pk = row.published_version := by
  simp [publishedVersion, h]

theorem publishedVersion_setRow (w : World) (pk k : Nat) (row : ReferenceDataset) :
    (w.setRow pk row).db.publishedVersion k =
      if k = pk then row.published_version else w.db.publishedVersion k := by
  simp only [World.setRow, Db.publishedVersion, Dict.get?_set]
  split <;> simp

theorem publishedVersion_unsortRows (w : World) (field : Option Nat) :
    (w.unsortRows field).db.publishedVersion = w.db.publishedVersion := by
  funext pk
  simp only [World.unsortRows, Db.publishedVersion, Dict.get?_mapValues, Option.map_map]
  congr 2
  funext d
  simp only [Function.comp_apply]
  split <;> rfl

theorem Sound.rebase {base : Nat → ℕ ×ₗ ℕ} {w : World} (h : Sound base w)
    (ahead : ∀ self pk, (w.dataset_objects self).pk = some pk →
      w.db.publishedVersion pk ≤ (w.dataset_objects self).row.published_version) :
    Sound w.db.publishedVersion w where
  rows := fun pk row hrow =>
    have ⟨ho, hc, _, hl⟩ := h.rows pk row hrow
    ⟨ho, hc, le_of_eq (Db.publishedVersion_of_some hrow), hl⟩
  objects := fun self =>
    ⟨(h.objects self).1, fun pk hpk => ⟨ahead self pk hpk, ((h.objects self).2 pk hpk).2⟩⟩
  fresh := by
    intro pk hpk
    cases hrow : w.db.datasets.get? pk with
    | none => simp [Db.publishedVersion, hrow]
    | some row => exact absurd (h.rows pk row hrow).2.2.2 (Nat.not_lt.mpr hpk)

/-- No dataset has two objects, and none of the objects has fallen behind its row. -/
structure Ahead (w : World) : Prop where
  one : ∀ i j pk, (w.dataset_objects i).pk = some pk → (w.dataset_objects j).pk = some pk → i = j
  sound : Sound w.db.publishedVersion w

namespace Ahead

variable {w w' : World}

theorem congr (h : Ahead w) (hd : w'.db.datasets = w.db.datasets)
    (ho : w'.dataset_objects = w.dataset_objects) (hn : w.next_id ≤ w'.next_id) : Ahead w' where
  one := ho ▸ h.one
  sound := by
    have hv : w'.db.publishedVersion = w.db.publishedVersion := by
      funext pk
      simp only [Db.publishedVersion, hd]
    exact hv ▸ h.sound.congr hd ho hn

theorem setObject (h : Ahead w) (self : Nat) {o : DatasetObject} (ho : o.row.Ordered)
    (hb : ∀ pk, o.pk = some pk → w.db.publishedVersion pk ≤ o.row.published_version ∧
      pk < w.next_id ∧ ∀ i, i ≠ self → (w.dataset_objects i).pk ≠ some pk) :
    Ahead (w.setObject self o) where
  one := by
    intro i j pk hi hj
    simp only [World.setObject, Function.update_apply] at hi hj
    split at hi
    next his =>
      split at hj
      next hjs => exact his.trans hjs.symm
      next hjs => exact absurd hj ((hb pk hi).2.2 j hjs)
    next his =>
      split at hj
      next hjs => exact absurd hi ((hb pk hj).2.2 i his)
      next hjs => exact h.one i j pk hi hj
  sound := h.sound.setObject self ho fun pk hpk => ⟨(hb pk hpk).1, (hb pk hpk).2.1⟩

/-- Going ahead: no published version is taken back, and no object falls behind. -/
def Forward (w w' : World) : Prop :=
  w.next_id ≤ w'.next_id ∧
    (Ahead w → Ahead w' ∧ ∀ pk, w.db.publishedVersion pk ≤ w'.db.publishedVersion pk)

theorem forward_of_same (hd : w'.db.datasets = w.db.datasets)
    (ho : w'.dataset_objects = w.dataset_objects) (hn : w.next_id ≤ w'.next_id) :
    Forward w w' := by
  refine ⟨hn, fun h => ⟨h.congr hd ho hn, fun pk => le_of_eq ?_⟩⟩
  simp only [Db.publishedVersion, hd]

theorem forward_setObject (self : Nat) {o : DatasetObject}
    (hpk : o.pk = (w.dataset_objects self).pk)
    (ho : (w.dataset_objects self).row.Ordered → o.row.Ordered ∧
      (w.dataset_objects self).row.published_version ≤ o.row.published_version) :
    Forward w (w.setObject self o) := by
  refine ⟨le_refl _, fun h => ⟨?_, fun pk => le_refl _⟩⟩
  have hs := h.sound.objects self
  refine h.setObject self (ho hs.1).1 fun pk hk => ?_
  rw [hpk] at hk
  refine ⟨le_trans (hs.2 pk hk).1 (ho hs.1).2, (hs.2 pk hk).2, fun i hi hik => ?_⟩
  exact hi (h.one i self pk hik hk)

theorem setRow (h : Ahead w) (self : Nat) {pk : Nat} {o : DatasetObject}
    (ho : w.dataset_objects self = o) (hpk : o.pk = some pk) (hc : o.row.Current) :
    Ahead (w.setRow pk o.row) ∧
      ∀ k, w.db.publishedVersion k ≤ (w.setRow pk o.row).db.publishedVersion k := by
  subst ho
  have hs := (h.sound.objects self).2 pk hpk
  refine ⟨⟨h.one, ?_⟩, fun k => ?_⟩
  · refine Sound.rebase (h.sound.setRow (h.sound.objects self).1 hc hs.1 hs.2) ?_
    intro i k hk
    rw [publishedVersion_setRow]
    split
    next hkk =>
      obtain rfl := h.one i self k hk (hkk ▸ hpk)
      exact le_refl _
    next => exact ((h.sound.objects i).2 k hk).1
  · rw [publishedVersion_setRow]
    split
    next hkk => exact hkk ▸ hs.1
    next => exact le_refl _

theorem publishRow (self : Nat) (original_published create : Bool) :
    Steps Forward (publishRow self original_published create) := by
  intro w
  refine wp_publishRow _ rfl ?_ ?_
  · intro pk next_id faults log hpk
    have hle : w.next_id ≤ next_id := by
      rcases hpk with ⟨_, rfl⟩ | ⟨_, _, rfl⟩
      · exact le_refl _
      · exact Nat.le_succ _
    refine ⟨hle, fun h => ?_⟩
    obtain ⟨ho, hc, hm⟩ := h.sound.managed self original_published create
    have hb : w.db.publishedVersion pk ≤
          (w.managed self original_published create).row.published_version ∧ pk < next_id ∧
        ∀ i, i ≠ self → (w.dataset_objects i).pk ≠ some pk := by
      rcases hpk with ⟨hpk, rfl⟩ | ⟨_, rfl, rfl⟩
      · have hs := (h.sound.objects self).2 pk hpk
        exact ⟨le_trans hs.1 hm, hs.2, fun i hi hik => hi (h.one i self pk hik hpk)⟩
      · refine ⟨h.sound.fresh _ (le_refl _) ▸ bot_le_version _, Nat.lt_succ_self _, ?_⟩
        intro i _ hik
        exact Nat.lt_irrefl _ ((h.sound.objects i).2 _ hik).2
    have hn : Ahead { w with next_id := next_id } := h.congr rfl rfl hle
    have hs := hn.setObject self
      (o := { w.managed self original_published create with pk := some pk })
      ho fun _ hk => Option.some.inj hk ▸ hb
    have hrow := hs.setRow self (Function.update_self ..) rfl hc
    exact ⟨hrow.1.congr rfl rfl (le_refl _), hrow.2⟩
  · intro e faults log
    have hm : Forward w (w.setObject self (w.managed self original_published create)) :=
      forward_setObject self rfl fun ho => ⟨ho.managePublished _ _ _,
        ReferenceDataset.le_managePublished ho _ _ _⟩
    exact ⟨hm.1, fun h => ⟨(hm.2 h).1.congr rfl rfl (le_refl _), (hm.2 h).2⟩⟩

theorem deleteFieldRow (self : Nat) : Steps Forward (deleteFieldRow self) := by
  intro w
  refine wp_deleteFieldRow _ rfl ?_ fun _ _ _ => forward_of_same rfl rfl (le_refl _)
  intro faults log
  have hv := publishedVersion_unsortRows w (w.field_objects self).pk
  refine ⟨le_refl _, fun h => ⟨?_, fun pk => le_of_eq (congrFun hv pk).symm⟩⟩
  have hu : Ahead (w.unsortRows (w.field_objects self).pk) :=
    ⟨h.one, hv ▸ h.sound.unsortRows _⟩
  exact hu.congr rfl rfl (le_refl _)

theorem saveFieldRow (self : Nat) : Steps Forward (saveFieldRow self) := by
  intro w
  refine wp_saveFieldRow _ rfl ?_ fun _ _ _ => forward_of_same rfl rfl (le_refl _)
  intro pk next_id faults log hpk
  refine forward_of_same rfl rfl ?_
  rcases hpk with ⟨_, rfl⟩ | ⟨_, _, rfl⟩
  · exact le_refl _
  · exact Nat.le_succ _

theorem rolledBack (h : Forward w w') : Forward w (rollback w w') := by
  refine ⟨h.1, fun hw => ⟨⟨(h.2 hw).1.one, ?_⟩, fun pk => le_refl _⟩⟩
  obtain ⟨hw', hv⟩ := h.2 hw
  exact {
    rows := fun pk row hrow =>
      have ⟨ho, hc, hb, hl⟩ := hw.sound.rows pk row hrow
      ⟨ho, hc, hb, lt_of_lt_of_le hl h.1⟩
    objects := fun self => ⟨(hw'.sound.objects self).1, fun pk hpk =>
      have hs := (hw'.sound.objects self).2 pk hpk
      ⟨le_trans (hv pk) hs.1, hs.2⟩⟩
    fresh := fun pk hpk => hw.sound.fresh pk (le_trans h.1 hpk) }

/-- Every call that loads no object goes ahead. -/
instance closed : ObjectClosed Forward where
  refl := fun _ => ⟨le_refl _, fun h => ⟨h, fun _ => le_refl _⟩⟩
  trans := fun _ _ _ h h' => ⟨le_trans h.1 h'.1, fun hw =>
    have ⟨hw', hv⟩ := h.2 hw
    ⟨(h'.2 hw').1, fun pk => le_trans (hv pk) ((h'.2 hw').2 pk)⟩⟩
  statement := fun _ _ allowed w => wp_statement
    (fun a w' hw _ _ =>
      have ⟨hd, _, ho, hn, _⟩ := (allowed w a w' hw).rows
      forward_of_same hd ho (le_of_eq hn.symm))
    fun _ _ _ => forward_of_same rfl rfl (le_refl _)
  rollback := rolledBack
  depth := fun _ _ => forward_of_same rfl rfl (le_refl _)
  register := fun _ _ _ => forward_of_same rfl rfl (le_refl _)
  object := fun self _ hf w =>
    have ⟨hpk, hv, ho⟩ := hf.versions (w.dataset_objects self)
    forward_setObject self hpk fun h => ⟨ho h, le_of_eq hv.symm⟩
  next_id := fun _ => forward_of_same rfl rfl (Nat.le_succ _)
  publishRow := publishRow
  saveFieldRow := saveFieldRow
  deleteFieldRow := deleteFieldRow
  makeDataset := fun self attributes _ => ⟨le_refl _, fun h =>
    ⟨h.setObject self (ReferenceDataset.ordered_default attributes) nofun, fun _ => le_refl _⟩⟩
  editDataset := fun self edit _ =>
    forward_setObject self rfl fun h => ⟨h.edited edit, le_refl _⟩
  fieldObject := fun _ _ _ => forward_of_same rfl rfl (le_refl _)

end Ahead

theorem Ahead.loadDataset {w : World} (h : Ahead w) (self pk : Nat)
    (first : ∀ i, (w.dataset_objects i).pk = none) :
    wp (ReferenceData.loadDataset self pk) (fun _ => Ahead) (fun _ => Ahead) w := by
  refine wp_bind.mpr (wp_query ?_ fun _ _ _ => h.congr rfl rfl (le_refl _))
  intro row hrow faults log
  split at hrow
  next row' hrow' =>
    obtain rfl := Except.ok.inj hrow
    obtain ⟨ho, _, hb, hl⟩ := h.sound.rows pk row' hrow'
    have hset := h.setObject self (o := .init w.db (some pk) row') ho fun k hk =>
      Option.some.inj hk ▸ ⟨hb, hl, fun i _ => by simp [first i]⟩
    exact hset.congr rfl rfl (le_refl _)
  next => cases hrow

/-! ## Runs of requests -/

structure Stored.Sound (s : Stored) : Prop where
  rows : ∀ pk row, s.db.datasets.get? pk = some row →
    row.Ordered ∧ row.Current ∧ pk < s.next_id

namespace Stored

variable {s s' : Stored}

theorem Sound.opened (h : s.Sound) (r : Request) :
    ReferenceData.Sound s.db.publishedVersion (s.open r.toEnvironment) where
  rows := fun pk row hrow =>
    have ⟨ho, hc, hl⟩ := h.rows pk row hrow
    ⟨ho, hc, le_of_eq (Db.publishedVersion_of_some hrow), hl⟩
  objects := fun _ =>
    ⟨ReferenceDataset.ordered_default ⟨false, [], none, none, false⟩, nofun⟩
  fresh := by
    intro pk hpk
    cases hrow : s.db.datasets.get? pk with
    | none => simp [Db.publishedVersion, hrow]
    | some row => exact absurd (h.rows pk row hrow).2.2 (Nat.not_lt.mpr hpk)

theorem Sound.forward (h : s.Sound) (r : Request) (pk : Nat) {calls : List Call} {c : Call}
    (hr : r.one_transaction = false) (hc : ∀ d ∈ calls ++ [c], d.loads = false) (k : Nat) :
    ({ r with calls := .loadDataset 0 pk :: calls }.run s).db.publishedVersion k ≤
      ({ r with calls := .loadDataset 0 pk :: (calls ++ [c]) }.run s).db.publishedVersion k := by
  let attempt (c : Call) : M PUnit := catching c.run (fun _ => true) fun _ => pure ⟨⟩
  have hopen : Ahead (s.open r.toEnvironment) := ⟨nofun, h.opened r⟩
  have hok : ∀ d w, ∃ w', attempt d w = .ok ⟨⟩ w' := by
    intro d w
    unfold attempt catching
    cases d.run w with
    | ok a w' => exact ⟨w', rfl⟩
    | error e w' => exact ⟨w', rfl⟩
  have hload : Ahead (endOf (attempt (.loadDataset 0 pk)) (s.open r.toEnvironment)) := by
    refine endOf_of_wp (wp_catching (wp_mono (hopen.loadDataset 0 pk fun _ => rfl) ?_ ?_))
    · exact fun _ _ ha => ha
    · exact fun _ _ ha => ⟨fun _ => ha, nofun⟩
  have hstep : ∀ d ∈ calls ++ [c], Steps Ahead.Forward (attempt d) := fun d hd =>
    .catching (ObjectClosed.run d (hc d hd)) fun _ => .pure _
  have hcalls : Ahead (endOf (forEach attempt (.loadDataset 0 pk :: calls)) (s.open r.toEnvironment)) := by
    rw [← List.singleton_append, endOf_forEach_append hok, endOf_forEach_singleton]
    have hd : ∀ d ∈ calls, Steps Ahead.Forward (attempt d) := fun d hd =>
      hstep d (List.mem_append_left _ hd)
    exact ((Steps.forEachMem hd).endOf _).2 hload |>.1
  have hlast := ((hstep c (by simp)).endOf _).2 hcalls
  simp only [Request.run, Request.body, hr, Bool.false_eq_true, if_false, Stored.close]
  rw [← List.cons_append, endOf_forEach_append hok, endOf_forEach_singleton]
  exact hlast.2 k

theorem Sound.run (h : s.Sound) (r : Request) :
    ReferenceData.Sound s.db.publishedVersion (endOf r.body (s.open r.toEnvironment)) :=
  (endOf_of_wp (CallClosed.body (R := Sound.Kept s.db.publishedVersion) r (s.open r.toEnvironment))).2
    (h.opened r)

theorem Sound.after (h : s.Sound) (r : Request) : (r.run s).Sound where
  rows := fun pk row hrow =>
    have ⟨ho, hc, _, hl⟩ := (h.run r).rows pk row hrow
    ⟨ho, hc, hl⟩

theorem Sound.reaches (hr : Reaches s s') (h : s.Sound) : s'.Sound := by
  induction hr with
  | refl => exact h
  | request r _ ih => exact ih.after r

/-- What requests can lead to when there is no reference dataset to begin with. -/
def Reachable (s : Stored) : Prop := ∃ start : Stored, start.db.datasets = .empty ∧ Reaches start s

theorem Reachable.sound (h : s.Reachable) : s.Sound := by
  obtain ⟨start, hstart, hr⟩ := h
  exact Sound.reaches hr ⟨fun pk row hrow => by rw [hstart] at hrow; cases hrow⟩

end Stored

/-- In every state that requests lead to, the published version of a dataset does not
exceed its working version, and is the working version if the dataset is published.
A request takes no published version back, and one that works on a freshly loaded
object does not do so with any of its calls. -/
theorem published_versions (s : Stored) (h : s.Reachable) :
    (∀ pk row, s.db.datasets.get? pk = some row → row.published_version ≤ row.version ∧
      (row.published = true → row.published_version = row.version)) ∧
    (∀ (r : Request) pk row row', s.db.datasets.get? pk = some row →
      (r.run s).db.datasets.get? pk = some row' →
        row.published_version ≤ row'.published_version) ∧
    (∀ (r : Request) pk calls c, r.one_transaction = false →
      (∀ d ∈ calls ++ [c], d.loads = false) → ∀ k,
        ({ r with calls := .loadDataset 0 pk :: calls }.run s).db.publishedVersion k ≤
          ({ r with calls := .loadDataset 0 pk :: (calls ++ [c]) }.run s).db.publishedVersion
            k) := by
  refine ⟨fun pk row hrow => ?_, fun r pk row row' hrow hrow' => ?_, ?_⟩
  · obtain ⟨ho, hc, _⟩ := h.sound.rows pk row hrow
    exact ⟨ho.le, hc⟩
  · have hb := ((h.sound.run r).rows pk row' hrow').2.2.1
    rwa [Db.publishedVersion_of_some hrow] at hb
  · exact fun r pk calls c hr hc k => h.sound.forward r pk hr hc k

def createPublished : Request :=
  .of true [.makeDataset 0 ⟨true, ("ref_a" : Str), none, none, false⟩, .saveDataset 0,
    .saveRecord 0 none [] true]

theorem published_versions_of_created :
    ∃ row, (createPublished.run .empty).db.datasets.get? 1 = some row ∧
      row.published_version = toLex (1, 1) ∧ row.version = toLex (1, 1) := by
  have hrow : ((createPublished.run .empty).db.datasets.get? 1).map
      (fun row => (row.published, row.published_version)) = some (true, toLex (1, 1)) := by
    decide +kernel
  obtain ⟨row, hget, hv⟩ := Option.map_eq_some_iff.mp hrow
  obtain ⟨hp, hv⟩ := Prod.mk.inj hv
  have h := published_versions _ ⟨.empty, rfl, .request createPublished (.refl _)⟩
  exact ⟨row, hget, hv, ((h.1 1 row hget).2 hp).symm.trans hv⟩

end ReferenceData
