import DataWorkspace.Datasets.Downloads
import DataWorkspace.Py.Counting

/-!
# The filters of the search

The search page filters its results in Python, by seven groups of filters.  Beside each
option the page says how many results there would be with it.  These numbers come from one
pass over the results, which asks the same matcher with one of its arguments changed.

An option of a group stands for the group with that option alone.  The options for
administrators are switches of their own: the number beside one is what there would be if
it were switched on as well.  `counts_shown` says that every number is right in this sense.
-/

namespace Datasets.Search

open Py

/-- A result of the search, with what the filters read. -/
structure Result where
  is_bookmarked : Bool
  published : Bool
  is_open_data : Bool
  has_visuals : Bool
  purpose : DataSetType
  data_type : DataSetType
  source_tag_ids : List Str
  topic_tag_ids : List Str
  has_access : Bool
deriving DecidableEq

/-- The arguments of `_matches_filters`. -/
structure Args where
  bookmark : Bool
  unpublished : Bool
  opendata : Bool
  withvisuals : Bool
  use : List DataSetType
  data_type : List DataSetType
  source_ids : List Str
  topic_ids : List Str
  user_accessible : Bool
  user_inaccessible : Bool

/-- `_matches_filters`.  A set is never the list `[None]`, which the code compares it with. -/
def matchesFilters (data : Result) (a : Args) : Bool :=
  (!a.bookmark || data.is_bookmarked) &&
  (a.unpublished || data.published) &&
  (!a.opendata || data.is_open_data) &&
  (!a.withvisuals || data.has_visuals) &&
  (a.use.isEmpty || a.use.contains data.purpose) &&
  (a.data_type.isEmpty || a.data_type.contains data.data_type) &&
  (a.source_ids.isEmpty || a.source_ids.any data.source_tag_ids.contains) &&
  (a.topic_ids.isEmpty || a.topic_ids.any data.topic_tag_ids.contains) &&
  (!a.user_accessible || data.has_access) &&
  (!a.user_inaccessible || !data.has_access)

/-! ## The form -/

/-- A tag that results are filtered by. -/
structure Tag where
  id : Str
  name : Str

inductive Group where
  | user_access
  | bookmarked
  | admin_filters
  | use
  | data_type
  | source
  | topic
deriving DecidableEq

/-- The value of an option. -/
inductive Key where
  | text (s : Str)
  | type (t : DataSetType)
deriving DecidableEq

/-- The options of `user_access`. -/
def USER_ACCESS : List (Str × Str) :=
  [("yes", "Data I have access to"), ("no", "Data I don't have access to")]

/-- The options of `bookmarked`. -/
def BOOKMARKED : List (Str × Str) := [("yes", "My bookmarks")]

/-- The options of `admin_filters`. -/
def ADMIN_FILTERS : List (Str × Str) :=
  [("unpublished", "Include unpublished"), ("opendata", "Show Open data"),
    ("withvisuals", "Show datasets with Visuals")]

/-- The options of `use`. -/
def USE : List (DataSetType × Str) :=
  [(.DATACUT, "Download data"), (.MASTER, "Analyse data"), (.VISUALISATION, "View dashboard")]

/-- The options of `data_type`. -/
def DATA_TYPE : List (DataSetType × Str) :=
  [(.MASTER, "Master dataset"), (.DATACUT, "Data cut"), (.REFERENCE, "Reference dataset")]

/-- A `DatasetSearchForm`, with the tags there are. -/
structure Form where
  sources : List Tag
  topics : List Tag
  /-- An id is a primary key. -/
  nodup_sources : (sources.map Tag.id).Nodup
  nodup_topics : (topics.map Tag.id).Nodup

/-- The options of a group with their texts. -/
def Form.choices (form : Form) : Group → List (Key × Str)
  | .user_access => USER_ACCESS.map fun c => (.text c.1, c.2)
  | .bookmarked => BOOKMARKED.map fun c => (.text c.1, c.2)
  | .admin_filters => ADMIN_FILTERS.map fun c => (.text c.1, c.2)
  | .use => USE.map fun c => (.type c.1, c.2)
  | .data_type => DATA_TYPE.map fun c => (.type c.1, c.2)
  | .source => form.sources.map fun t => (.text t.id, t.name)
  | .topic => form.topics.map fun t => (.text t.id, t.name)

/-- `cleaned_data`: what is selected in each group.  Tags go by their ids. -/
structure Cleaned where
  user_access : List Str
  bookmarked : List Str
  admin_filters : List Str
  use : List DataSetType
  data_type : List DataSetType
  source : List Str
  topic : List Str

/-- `set(values) == {v}`. -/
def isSingleton (v : Str) (values : List Str) : Bool :=
  values.contains v && values.all fun w => w = v

/-! ## The view -/

/-- What `find_datasets` filters by. -/
def viewArgs (c : Cleaned) : Args where
  bookmark := !c.bookmarked.isEmpty
  unpublished := c.admin_filters.contains "unpublished"
  opendata := c.admin_filters.contains "opendata"
  withvisuals := c.admin_filters.contains "withvisuals"
  use := c.use
  data_type := c.data_type
  source_ids := c.source
  topic_ids := c.topic
  user_accessible := isSingleton "yes" c.user_access
  user_inaccessible := isSingleton "no" c.user_access

/-- `datasets_matching_query_and_filters` of `find_datasets`. -/
def findDatasets (c : Cleaned) (all : List Result) : List Result :=
  all.filter fun d => matchesFilters d (viewArgs c)

/-! ## The numbers -/

/-- The `partial` of `annotate_and_update_filters`. -/
def partialArgs (c : Cleaned) : Args where
  bookmark := !c.bookmarked.isEmpty
  unpublished := c.admin_filters.contains "unpublished"
  opendata := c.admin_filters.contains "opendata"
  withvisuals := c.admin_filters.contains "withvisuals"
  use := c.use
  data_type := c.data_type
  source_ids := c.source
  topic_ids := c.topic
  user_accessible := isSingleton "yes" c.user_access
  user_inaccessible := isSingleton "no" c.user_access

/-- `dataset_matcher(**{admin_id: True})`. -/
def Args.switchedOn (a : Args) (admin_id : Str) : Args :=
  { a with
    unpublished := a.unpublished || admin_id = ("unpublished" : Str)
    opendata := a.opendata || admin_id = ("opendata" : Str)
    withvisuals := a.withvisuals || admin_id = ("withvisuals" : Str) }

/-- What is counted under each option. -/
def tests (form : Form) (a : Args) : List ((Group × Key) × (Result → Bool)) :=
  [((.user_access, .text "yes"),
      fun d => matchesFilters d { a with user_accessible := true, user_inaccessible := false }),
    ((.user_access, .text "no"),
      fun d => matchesFilters d { a with user_inaccessible := true, user_accessible := false }),
    ((.bookmarked, .text "yes"), fun d => matchesFilters d { a with bookmark := true })] ++
  (ADMIN_FILTERS.map fun c =>
    ((.admin_filters, .text c.1), fun d => matchesFilters d (a.switchedOn c.1))) ++
  (USE.map fun c => ((.use, .type c.1), fun d => matchesFilters d { a with use := [c.1] })) ++
  (DATA_TYPE.map fun c =>
    ((.data_type, .type c.1), fun d => matchesFilters d { a with data_type := [c.1] })) ++
  (form.sources.map fun t =>
    ((.source, .text t.id), fun d => matchesFilters d { a with source_ids := [t.id] })) ++
  (form.topics.map fun t =>
    ((.topic, .text t.id), fun d => matchesFilters d { a with topic_ids := [t.id] }))

/-- The counts of `annotate_and_update_filters`. -/
def optionCounts (form : Form) (c : Cleaned) (datasets : List Result) : Dict (Group × Key) Nat :=
  tally (tests form (partialArgs c)) datasets

/-- The label of an option: a text with the number, or a `SearchableChoice`. -/
inductive Label where
  | text (label : Str)
  | searchable (label : Str) (count : Nat)
deriving DecidableEq

/-- The label that shows a number. -/
def labelOf (g : Group) (text : Str) (n : Nat) : Label :=
  match g with
  | .source => .searchable text n
  | _ => .text (text ++ (" (" : Str) ++ str n ++ (")" : Str))

/-- Whether an option is shown.  A tag that is not selected and has no results is not. -/
def isShown (c : Cleaned) (counts : Dict (Group × Key) Nat) : Group → Key → Bool
  | .source, .text id => c.source.contains id || count counts (.source, .text id) ≠ 0
  | .topic, .text id => c.topic.contains id || count counts (.topic, .text id) ≠ 0
  | _, _ => true

/-- The choices `annotate_and_update_filters` leaves in a group. -/
def shownChoices (form : Form) (c : Cleaned) (datasets : List Result) (g : Group) :
    List (Key × Label) :=
  let counts := optionCounts form c datasets
  ((form.choices g).filter fun choice => isShown c counts g choice.1).map fun choice =>
    (choice.1, labelOf g choice.2 (count counts (g, choice.1)))

/-! ## What the filters mean -/

/-- A result that the selection of a group lets through. -/
def Allows (c : Cleaned) (d : Result) : Group → Prop
  | .user_access =>
      ((∀ v, v ∈ c.user_access ↔ v = "yes") → d.has_access = true) ∧
        ((∀ v, v ∈ c.user_access ↔ v = "no") → d.has_access = false)
  | .bookmarked => c.bookmarked ≠ [] → d.is_bookmarked = true
  | .admin_filters =>
      (("unpublished" : Str) ∉ c.admin_filters → d.published = true) ∧
        (("opendata" : Str) ∈ c.admin_filters → d.is_open_data = true) ∧
        (("withvisuals" : Str) ∈ c.admin_filters → d.has_visuals = true)
  | .use => c.use ≠ [] → d.purpose ∈ c.use
  | .data_type => c.data_type ≠ [] → d.data_type ∈ c.data_type
  | .source => c.source ≠ [] → ∃ id ∈ c.source, id ∈ d.source_tag_ids
  | .topic => c.topic ≠ [] → ∃ id ∈ c.topic, id ∈ d.topic_tag_ids

/-- The selection of one group replaced by an option. -/
def Cleaned.replaced (c : Cleaned) : Group → Key → Cleaned
  | .user_access, .text v => { c with user_access := [v] }
  | .bookmarked, .text v => { c with bookmarked := [v] }
  | .admin_filters, .text v => { c with admin_filters := [v] }
  | .use, .type t => { c with use := [t] }
  | .data_type, .type t => { c with data_type := [t] }
  | .source, .text id => { c with source := [id] }
  | .topic, .text id => { c with topic := [id] }
  | _, _ => c

/-- The selection an option stands for: its group with it alone, but an option for
administrators is switched on beside the others. -/
def Cleaned.chosen (c : Cleaned) : Group → Key → Cleaned
  | .admin_filters, .text v => { c with admin_filters := v :: c.admin_filters }
  | g, k => c.replaced g k

theorem isSingleton_iff (v : Str) (values : List Str) :
    isSingleton v values = true ↔ ∀ w, w ∈ values ↔ w = v := by
  simp only [isSingleton, Bool.and_eq_true, List.contains_iff_mem, List.all_eq_true,
    decide_eq_true_eq]
  constructor
  · rintro ⟨hmem, hall⟩ w
    exact ⟨hall w, fun hw => hw ▸ hmem⟩
  · intro h
    exact ⟨(h v).mpr rfl, fun w hw => (h w).mp hw⟩

theorem matchesFilters_viewArgs (c : Cleaned) (d : Result) :
    matchesFilters d (viewArgs c) = true ↔ ∀ g, Allows c d g := by
  have hgroups : (∀ g, Allows c d g) ↔ Allows c d .user_access ∧ Allows c d .bookmarked ∧
      Allows c d .admin_filters ∧ Allows c d .use ∧ Allows c d .data_type ∧ Allows c d .source ∧
      Allows c d .topic := by
    constructor
    · intro h
      exact ⟨h _, h _, h _, h _, h _, h _, h _⟩
    · rintro ⟨h₁, h₂, h₃, h₄, h₅, h₆, h₇⟩ g
      cases g <;> assumption
  rw [hgroups]
  simp only [Allows, ← isSingleton_iff]
  have haccess : ∀ b : Bool, (!b || d.has_access) = true ↔ (b = true → d.has_access = true) := by
    intro b
    cases b <;> simp
  have hno : ∀ b : Bool, (!b || !d.has_access) = true ↔ (b = true → d.has_access = false) := by
    intro b
    cases b <;> simp
  simp only [matchesFilters, viewArgs, Bool.and_eq_true, haccess, hno]
  simp only [Bool.or_eq_true, Bool.not_eq_true', Bool.not_not, List.isEmpty_iff,
    List.contains_iff_mem, List.any_eq_true, or_iff_not_imp_left, Bool.not_eq_false]
  constructor
  · rintro ⟨⟨⟨⟨⟨⟨⟨⟨⟨hb, hu⟩, ho⟩, hv⟩, huse⟩, htype⟩, hsource⟩, htopic⟩, hyes⟩, hno⟩
    exact ⟨⟨hyes, hno⟩, hb, ⟨hu, ho, hv⟩, huse, htype, hsource, htopic⟩
  · rintro ⟨⟨hyes, hno⟩, hb, ⟨hu, ho, hv⟩, huse, htype, hsource, htopic⟩
    exact ⟨⟨⟨⟨⟨⟨⟨⟨⟨hb, hu⟩, ho⟩, hv⟩, huse⟩, htype⟩, hsource⟩, htopic⟩, hyes⟩, hno⟩

/-! ## Every number is right -/

section

variable (form : Form) (c : Cleaned)

theorem nodup_tests (a : Args) : ((tests form a).map Prod.fst).Nodup := by
  have hsources :
      (form.sources.map fun t => ((Group.source, Key.text t.id) : Group × Key)).Nodup := by
    have h := form.nodup_sources.map (f := fun id => ((Group.source, Key.text id) : Group × Key))
      fun x y hxy => by simpa using hxy
    rwa [List.map_map] at h
  have htopics : (form.topics.map fun t => ((Group.topic, Key.text t.id) : Group × Key)).Nodup := by
    have h := form.nodup_topics.map (f := fun id => ((Group.topic, Key.text id) : Group × Key))
      fun x y hxy => by simpa using hxy
    rwa [List.map_map] at h
  have hkeys : (tests form a).map Prod.fst =
      [(.user_access, .text "yes"), (.user_access, .text "no"), (.bookmarked, .text "yes"),
        (.admin_filters, .text "unpublished"), (.admin_filters, .text "opendata"),
        (.admin_filters, .text "withvisuals"), (.use, .type .DATACUT), (.use, .type .MASTER),
        (.use, .type .VISUALISATION), (.data_type, .type .MASTER), (.data_type, .type .DATACUT),
        (.data_type, .type .REFERENCE)] ++
      ((form.sources.map fun t => (.source, .text t.id)) ++
        form.topics.map fun t => (.topic, .text t.id)) := by
    simp [tests, ADMIN_FILTERS, USE, DATA_TYPE, Function.comp_def]
  rw [hkeys]
  refine List.nodup_append.mpr ⟨by decide, List.nodup_append.mpr ⟨hsources, htopics, ?_⟩, ?_⟩
  · intro x hx y hy
    obtain ⟨t, -, rfl⟩ := List.mem_map.mp hx
    obtain ⟨t', -, rfl⟩ := List.mem_map.mp hy
    simp
  · intro x hx y hy
    have hgroup : y.1 = .source ∨ y.1 = .topic := by
      rcases List.mem_append.mp hy with hy | hy
      · obtain ⟨t, -, rfl⟩ := List.mem_map.mp hy
        exact .inl rfl
      · obtain ⟨t, -, rfl⟩ := List.mem_map.mp hy
        exact .inr rfl
    rintro rfl
    simp only [List.mem_cons, List.not_mem_nil, or_false] at hx
    rcases hx with rfl | rfl | rfl | rfl | rfl | rfl | rfl | rfl | rfl | rfl | rfl | rfl <;>
      simp at hgroup

theorem viewArgs_yes : viewArgs (c.chosen .user_access (.text "yes")) =
    { partialArgs c with user_accessible := true, user_inaccessible := false } := rfl

theorem viewArgs_no : viewArgs (c.chosen .user_access (.text "no")) =
    { partialArgs c with user_inaccessible := true, user_accessible := false } := rfl

theorem viewArgs_admin (v : Str) :
    viewArgs (c.chosen .admin_filters (.text v)) = (partialArgs c).switchedOn v := by
  have hcons : ∀ w : Str, (v :: c.admin_filters).contains w =
      (c.admin_filters.contains w || decide (v = w)) := by
    intro w
    by_cases hvw : v = w
    · simp [hvw]
    · simp [hvw, Ne.symm hvw]
  simp only [viewArgs, Cleaned.chosen, hcons]
  rfl

theorem mem_tests {g : Group} {k : Key} {text : Str} (h : (k, text) ∈ form.choices g) :
    ((g, k), fun d => matchesFilters d (viewArgs (c.chosen g k))) ∈
      tests form (partialArgs c) := by
  simp only [tests, List.mem_append]
  cases g with
  | user_access =>
      refine .inl (.inl (.inl (.inl (.inl ?_))))
      obtain ⟨choice, hmem, he⟩ := List.mem_map.mp h
      cases he
      rcases List.mem_cons.mp hmem with rfl | hmem
      · rw [viewArgs_yes]
        exact List.mem_cons_self
      · obtain rfl := List.mem_singleton.mp hmem
        rw [viewArgs_no]
        exact List.mem_cons_of_mem _ List.mem_cons_self
  | bookmarked =>
      refine .inl (.inl (.inl (.inl (.inl ?_))))
      obtain ⟨choice, hmem, he⟩ := List.mem_map.mp h
      cases he
      obtain rfl := List.mem_singleton.mp hmem
      exact List.mem_cons_of_mem _ (List.mem_cons_of_mem _ List.mem_cons_self)
  | admin_filters =>
      refine .inl (.inl (.inl (.inl (.inr ?_))))
      obtain ⟨choice, hmem, he⟩ := List.mem_map.mp h
      cases he
      rw [viewArgs_admin]
      exact List.mem_map.mpr ⟨choice, hmem, rfl⟩
  | use =>
      refine .inl (.inl (.inl (.inr ?_)))
      obtain ⟨choice, hmem, he⟩ := List.mem_map.mp h
      cases he
      exact List.mem_map.mpr ⟨choice, hmem, rfl⟩
  | data_type =>
      refine .inl (.inl (.inr ?_))
      obtain ⟨choice, hmem, he⟩ := List.mem_map.mp h
      cases he
      exact List.mem_map.mpr ⟨choice, hmem, rfl⟩
  | source =>
      refine .inl (.inr ?_)
      obtain ⟨t, hmem, he⟩ := List.mem_map.mp h
      cases he
      exact List.mem_map.mpr ⟨t, hmem, rfl⟩
  | topic =>
      refine .inr ?_
      obtain ⟨t, hmem, he⟩ := List.mem_map.mp h
      cases he
      exact List.mem_map.mpr ⟨t, hmem, rfl⟩

theorem count_optionCounts (all : List Result) {g : Group} {k : Key} {text : Str}
    (h : (k, text) ∈ form.choices g) :
    count (optionCounts form c all) (g, k) = (findDatasets (c.chosen g k) all).length := by
  rw [optionCounts, count_tally (nodup_tests form _) (mem_tests form c h), findDatasets,
    List.countP_eq_length_filter]

/-- The results are those that every group lets through.  Each option that is shown has the
number of results there would be with the selection it stands for, and an option that is
left out would give none. -/
theorem counts_shown (all : List Result) :
    (∃ p : Result → Bool, (∀ d, p d = true ↔ ∀ g, Allows c d g) ∧
      findDatasets c all = all.filter p) ∧
    (∀ g, ∀ choice ∈ shownChoices form c all g, ∃ text, (choice.1, text) ∈ form.choices g ∧
      choice.2 = labelOf g text (findDatasets (c.chosen g choice.1) all).length) ∧
    (∀ g, ∀ choice ∈ form.choices g, choice.1 ∉ (shownChoices form c all g).map Prod.fst →
      findDatasets (c.chosen g choice.1) all = []) := by
  refine ⟨⟨_, matchesFilters_viewArgs c, rfl⟩, fun g shown hshown => ?_,
    fun g choice hchoice hout => ?_⟩
  · obtain ⟨choice, hchoice, rfl⟩ := List.mem_map.mp hshown
    have hmem := (List.mem_filter.mp hchoice).1
    exact ⟨choice.2, hmem, by rw [count_optionCounts form c all hmem]⟩
  · have hcount := count_optionCounts form c all hchoice
    have hhidden : isShown c (optionCounts form c all) g choice.1 = false := by
      cases hs : isShown c (optionCounts form c all) g choice.1 with
      | false => rfl
      | true =>
          refine absurd ?_ hout
          rw [shownChoices, List.map_map]
          exact List.mem_map.mpr ⟨choice, List.mem_filter.mpr ⟨hchoice, hs⟩, rfl⟩
    have hzero : count (optionCounts form c all) (g, choice.1) = 0 := by
      unfold isShown at hhidden
      split at hhidden
      next id heq => simpa [heq] using (Bool.or_eq_false_iff.mp hhidden).2
      next id heq => simpa [heq] using (Bool.or_eq_false_iff.mp hhidden).2
      next => cases hhidden
    exact List.length_eq_zero_iff.mp (hcount.symm.trans hzero)

end

/-! ## Open data with visuals -/

/-- A published dataset with visuals that is not open. -/
def withVisuals : Result :=
  ⟨false, true, false, true, .MASTER, .MASTER, [], [], true⟩

/-- A selection of open data. -/
def openData : Cleaned := ⟨[], [], ["opendata"], [], [], [], []⟩

/-- The number beside an option for administrators is not that of the option alone: beside
"withvisuals" stands that there is no open dataset with visuals. -/
theorem not_counted_alone :
    ¬ ∀ (form : Form) (c : Cleaned) (all : List Result) (g : Group),
      ∀ choice ∈ shownChoices form c all g, ∃ text, (choice.1, text) ∈ form.choices g ∧
        choice.2 = labelOf g text (findDatasets (c.replaced g choice.1) all).length := by
  intro h
  have hshown : ((.text "withvisuals", .text "Show datasets with Visuals (0)") : Key × Label) ∈
      shownChoices ⟨[], [], .nil, .nil⟩ openData [withVisuals] .admin_filters := by decide
  obtain ⟨text, htext, hlabel⟩ := h _ openData [withVisuals] .admin_filters _ hshown
  have hone : (findDatasets (openData.replaced .admin_filters (.text "withvisuals"))
      [withVisuals]).length = 1 := by decide
  rw [hone] at hlabel
  obtain ⟨c, hc, he⟩ := List.mem_map.mp htext
  simp only [ADMIN_FILTERS, List.mem_cons, List.not_mem_nil, or_false] at hc
  have hkey := congrArg Prod.fst he
  rcases hc with rfl | rfl | rfl
  · simp at hkey
  · simp at hkey
  · cases he
    exact absurd hlabel (by decide)

end Datasets.Search
