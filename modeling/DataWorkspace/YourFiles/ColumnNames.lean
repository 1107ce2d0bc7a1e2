import DataWorkspace.YourFiles.Runs

/-!
# The columns of a new table

The headers of a file become the names of the columns, and these names are also the fields of
the form on which the types are chosen.

Two headers get one name if they are `Alike` (`alike_iff`).  A type is looked up among the
keys of a map whose values were on offer, and the two differ for a timestamp.
`columns_as_chosen_iff` says for which headers and which choices all is well.
-/

namespace YourFiles

open Py Async

/-! ## What the names leave out -/

/-- A hyphen or white space. -/
abbrev Gap (c : Char) : Prop := c = '-' ∨ isspace c = true

/-- What becomes one underscore before `s`: an underscore, or all the gap that there is. -/
inductive Blank : Str → Str → Prop
  | underscore (s : Str) : Blank ['_'] s
  | gap {g s : Str} : g ≠ [] → (∀ c ∈ g, Gap c) → (∀ c ∈ s.head?, ¬ Gap c) → Blank g s

/-- Texts that differ at most in what becomes an underscore. -/
inductive Alike : Str → Str → Prop
  | nil : Alike [] []
  | char {c : Char} {s t : Str} : ¬ Gap c → Alike s t → Alike (c :: s) (c :: t)
  | blank {g g' s t : Str} : Blank g s → Blank g' t → Alike s t → Alike (g ++ s) (g' ++ t)

theorem underscores_cons_of_not {c : Char} (h : ¬ Gap c) (s : Str) :
    underscores (c :: s) = c :: underscores s := by
  cases s with
  | nil => rw [underscores, underscores, if_neg h]
  | cons d s => rw [underscores, if_neg fun hcd => h hcd.1, if_neg h]

theorem underscores_gap_append : ∀ {g s : Str}, g ≠ [] → (∀ c ∈ g, Gap c) →
    (∀ c ∈ s.head?, ¬ Gap c) → underscores (g ++ s) = '_' :: underscores s
  | [], _, h, _, _ => absurd rfl h
  | [c], [], _, hg, _ => by
      rw [List.append_nil, underscores, underscores, if_pos (hg c List.mem_cons_self)]
  | [c], d :: s, _, hg, hs => by
      rw [List.singleton_append, underscores, if_neg fun h => hs d rfl h.2,
        if_pos (hg c List.mem_cons_self)]
  | c :: d :: g, s, _, hg, hs => by
      rw [List.cons_append, List.cons_append, underscores,
        if_pos ⟨hg c List.mem_cons_self, hg d (by simp)⟩]
      exact underscores_gap_append (List.cons_ne_nil d g) (fun e he => hg e (by simp_all)) hs

theorem underscores_blank {g s : Str} (h : Blank g s) :
    underscores (g ++ s) = '_' :: underscores s := by
  cases h with
  | underscore => exact underscores_cons_of_not (by decide) s
  | gap hne hgap hend => exact underscores_gap_append hne hgap hend

theorem exists_blank {c : Char} (h : Gap c) (s : Str) :
    ∃ g t, c :: s = g ++ t ∧ Blank g t ∧ t.length ≤ s.length := by
  refine ⟨c :: s.takeWhile fun d => Gap d, s.dropWhile fun d => Gap d, ?_, .gap (by simp) ?_ ?_,
    (List.dropWhile_sublist _).length_le⟩
  · rw [List.cons_append, List.takeWhile_append_dropWhile]
  · intro d hd
    rcases List.mem_cons.mp hd with rfl | hd
    · exact h
    · have hgap := List.mem_takeWhile_imp (p := fun d => decide (Gap d)) hd
      exact of_decide_eq_true hgap
  · intro d hd hgap
    have hnot := List.head?_dropWhile_not (fun d => decide (Gap d)) s
    rw [Option.mem_def.mp hd] at hnot
    simp [hgap] at hnot

theorem underscores_ne_nil (c : Char) (s : Str) : underscores (c :: s) ≠ [] := by
  by_cases h : Gap c
  · obtain ⟨g, t, hs, hg, _⟩ := exists_blank h s
    rw [hs, underscores_blank hg]
    exact List.cons_ne_nil _ _
  · rw [underscores_cons_of_not h]
    exact List.cons_ne_nil _ _

theorem underscores_eq_nil_iff {s : Str} : underscores s = [] ↔ s = [] := by
  cases s with
  | nil => exact ⟨fun _ => rfl, fun _ => rfl⟩
  | cons c s => exact ⟨fun h => absurd h (underscores_ne_nil c s), fun h => by cases h⟩

theorem underscores_eq_of_alike {s t : Str} (h : Alike s t) : underscores s = underscores t := by
  induction h with
  | nil => rfl
  | char hc _ ih => rw [underscores_cons_of_not hc, underscores_cons_of_not hc, ih]
  | blank hg hg' _ ih => rw [underscores_blank hg, underscores_blank hg', ih]

theorem alike_of_underscores_eq : ∀ {s t : Str}, underscores s = underscores t → Alike s t
  | [], t, h => by
      rw [underscores_eq_nil_iff.mp h.symm]
      exact .nil
  | c :: s, [], h => absurd h (underscores_ne_nil c s)
  | c :: s, d :: t, h => by
      by_cases hc : Gap c
      · obtain ⟨g, s', hs, hg, hlength⟩ := exists_blank hc s
        have hlt : s'.length < (c :: s).length := Nat.lt_succ_of_le hlength
        rw [hs, underscores_blank hg] at h
        by_cases hd : Gap d
        · obtain ⟨g', t', ht, hg', _⟩ := exists_blank hd t
          rw [ht, underscores_blank hg'] at h
          rw [hs, ht]
          exact .blank hg hg' (alike_of_underscores_eq (List.cons.inj h).2)
        · rw [underscores_cons_of_not hd] at h
          obtain ⟨rfl, htail⟩ := List.cons.inj h
          rw [hs]
          exact .blank hg (.underscore t) (alike_of_underscores_eq htail)
      · rw [underscores_cons_of_not hc] at h
        by_cases hd : Gap d
        · obtain ⟨g', t', ht, hg', _⟩ := exists_blank hd t
          rw [ht, underscores_blank hg'] at h
          obtain ⟨rfl, htail⟩ := List.cons.inj h
          rw [ht]
          exact .blank (.underscore s) hg' (alike_of_underscores_eq htail)
        · rw [underscores_cons_of_not hd] at h
          obtain ⟨rfl, htail⟩ := List.cons.inj h
          exact .char hc (alike_of_underscores_eq htail)
termination_by s => s.length

theorem alike_iff {s t : Str} : Alike s t ↔ underscores s = underscores t :=
  ⟨underscores_eq_of_alike, alike_of_underscores_eq⟩

theorem mem_underscores {c : Char} : ∀ {s : Str},
    c ∈ underscores s ↔ (c ∈ s ∧ ¬ Gap c) ∨ (c = '_' ∧ ∃ d ∈ s, Gap d)
  | [] => by simp [underscores]
  | [d] => by
      by_cases hd : Gap d
      · rw [underscores, if_pos hd]
        simp only [List.mem_singleton, exists_eq_left, hd, and_true]
        exact ⟨Or.inr, fun h => h.elim (fun h => absurd (h.1 ▸ hd) h.2) id⟩
      · rw [underscores, if_neg hd]
        simp only [List.mem_singleton, exists_eq_left, hd, and_false, or_false]
        exact ⟨fun h => ⟨h, h ▸ hd⟩, And.left⟩
  | d :: e :: s => by
      have ih := mem_underscores (c := c) (s := e :: s)
      by_cases hd : Gap d
      · by_cases he : Gap e
        · rw [underscores, if_pos ⟨hd, he⟩, ih]
          grind
        · rw [underscores, if_neg fun h => he h.2, if_pos hd]
          grind
      · rw [underscores_cons_of_not hd]
        grind

/-! ## Headers -/

/-- What holds of letters, hashes and the package. -/
structure Library.Lawful (lib : Library) : Prop where
  underscore : lib.isWord '_' = true
  lower : ∀ s, lib.lower s = [] ↔ s = []
  digest : ∀ s, '\x00' ∉ lib.sha256 s
  /-- The first row names the fields, and it is taken off the list. -/
  infer : ∀ {headers : List Str} {rows : List (List Str)} {fields : List (Str × Str)}
    {left : List (List Str)}, lib.infer (headers :: rows) = .ok (fields, left) →
      fields.map Prod.fst = headers ∧ left = rows

variable (lib : Library)

/-- What is kept of a header: no directory, extension or punctuation, and no capitals. -/
def shown (header : Str) : Str :=
  lib.lower (stripSpace
    ((splitext (filename header)).filter fun c => lib.isWord c || isspace c || c == '-'))

theorem clean_db_identifier_eq (header : Str) :
    clean_db_identifier lib header = underscores (shown lib header) := rfl

/-- The fields of the form that the view goes on to read. -/
def reserved : List Str := ["path", "schema", "table_name"]

/-- The condition on the headers and on the types that are chosen. -/
structure Plain (headers ts : List Str) : Prop where
  stem : ∀ h ∈ headers, ∃ c ∈ splitext (filename h),
    (lib.isWord c = true ∨ c = '-') ∧ isspace c = false
  letters : ∀ h ∈ headers, ∀ c ∈ shown lib h, lib.isWord c = true ∨ Gap c
  apart : headers.Pairwise fun h h' => ¬ Alike (shown lib h) (shown lib h')
  free : ∀ h ∈ headers, ∀ name ∈ reserved, ¬ Alike (shown lib h) name
  timestamp : ("timestamp" : Str) ∉ ts

/-- The names of the columns of a table. -/
structure Named (headers : List Str) (columns : List ColumnDefinition) : Prop where
  inOrder : columns.map ColumnDefinition.header_name = headers
  nonempty : ∀ col ∈ columns, col.column_name ≠ []
  valid : ∀ col ∈ columns, ∀ c ∈ col.column_name, lib.isWord c = true
  distinct : (columns.map ColumnDefinition.column_name).Nodup

section Names

variable {lib} {headers : List Str} {columns : List ColumnDefinition}

theorem stripSpace_eq_nil_iff {s : Str} : stripSpace s = [] ↔ ∀ c ∈ s, isspace c = true := by
  rw [stripSpace, List.reverse_eq_nil_iff, List.dropWhile_eq_nil_iff]
  constructor
  · intro h
    have hnot := List.head?_dropWhile_not isspace s
    cases hs : s.dropWhile isspace with
    | nil => exact List.dropWhile_eq_nil_iff.mp hs
    | cons c t =>
        rw [hs] at h hnot
        have hc := h c (by simp)
        simp [hc] at hnot
  · intro h c hc
    exact h c ((List.dropWhile_sublist _).mem (List.mem_reverse.mp hc))

theorem shown_eq_nil_iff (hlib : lib.Lawful) {h : Str} : shown lib h = [] ↔
    ¬ ∃ c ∈ splitext (filename h), (lib.isWord c = true ∨ c = '-') ∧ isspace c = false := by
  rw [shown, hlib.lower, stripSpace_eq_nil_iff]
  constructor
  · rintro hall ⟨c, hc, hkept, hspace⟩
    have hmem := hall c (List.mem_filter.mpr ⟨hc, by simpa [hspace] using hkept⟩)
    rw [hspace] at hmem
    cases hmem
  · intro hnone c hc
    obtain ⟨hc, hkept⟩ := List.mem_filter.mp hc
    cases hspace : isspace c with
    | true => rfl
    | false => exact absurd ⟨c, hc, by simpa [hspace] using hkept, hspace⟩ hnone

theorem valid_iff (hlib : lib.Lawful) {s : Str} : (∀ c ∈ underscores s, lib.isWord c = true) ↔
    ∀ c ∈ s, lib.isWord c = true ∨ Gap c := by
  constructor
  · intro h c hc
    by_cases hgap : Gap c
    · exact .inr hgap
    · exact .inl (h c (mem_underscores.mpr (.inl ⟨hc, hgap⟩)))
  · intro h c hc
    rcases mem_underscores.mp hc with ⟨hc, hgap⟩ | ⟨rfl, _⟩
    · exact (h c hc).resolve_right hgap
    · exact hlib.underscore

theorem names_of_definitions : ∀ {rows : List (List Str)} {idx : Nat} {fields : List (Str × Str)}
    {columns : List ColumnDefinition}, definitions lib rows idx fields = .ok columns →
      columns.map ColumnDefinition.header_name = fields.map Prod.fst ∧
        columns.map ColumnDefinition.column_name =
          (fields.map Prod.fst).map (clean_db_identifier lib)
  | _, _, [], _, h => by
      cases h
      exact ⟨rfl, rfl⟩
  | rows, idx, (name, type) :: fields, columns, h => by
      rw [definitions] at h
      cases hvalues : sample idx rows with
      | error e =>
          rw [hvalues] at h
          cases h
      | ok values =>
          cases hrest : definitions lib rows (idx + 1) fields with
          | error e =>
              rw [hvalues, hrest] at h
              cases h
          | ok rest =>
              rw [hvalues, hrest] at h
              cases h
              obtain ⟨hheaders, hnames⟩ := names_of_definitions hrest
              exact ⟨congrArg (name :: ·) hheaders,
                congrArg (clean_db_identifier lib name :: ·) hnames⟩

theorem names_of_columns (hlib : lib.Lawful) {w : World} {n : Nat} {path : Str}
    {rows : List (List Str)} (hrows : w.get_object n path = .ok (headers :: rows))
    (h : (get_s3_csv_column_types lib w n path).result = .ok columns) :
    columns.map ColumnDefinition.header_name = headers ∧
      columns.map ColumnDefinition.column_name = headers.map (clean_db_identifier lib) := by
  obtain ⟨rows', hrows', h⟩ := Logged.result_bind_ok.mp h
  obtain rfl : headers :: rows = rows' := Except.ok.inj (hrows.symm.trans hrows')
  split at h
  next => cases h
  next hlength =>
      obtain ⟨⟨fields, left⟩, hfields, hdefinitions⟩ := Logged.result_bind_ok.mp h
      obtain ⟨row, rows'', rfl⟩ := List.exists_cons_of_length_pos
        (l := rows) (by simp only [List.length_cons] at hlength; omega)
      obtain ⟨hnames, _⟩ := hlib.infer hfields
      rw [← hnames]
      exact names_of_definitions hdefinitions

theorem named_iff (hlib : lib.Lawful) (hheaders : columns.map ColumnDefinition.header_name = headers)
    (hnames : columns.map ColumnDefinition.column_name = headers.map (clean_db_identifier lib)) :
    Named lib headers columns ↔
      (∀ h ∈ headers, ∃ c ∈ splitext (filename h),
        (lib.isWord c = true ∨ c = '-') ∧ isspace c = false) ∧
      (∀ h ∈ headers, ∀ c ∈ shown lib h, lib.isWord c = true ∨ Gap c) ∧
      headers.Pairwise fun h h' => ¬ Alike (shown lib h) (shown lib h') := by
  have hforall (P : Str → Prop) : (∀ col ∈ columns, P col.column_name) ↔
      ∀ h ∈ headers, P (underscores (shown lib h)) := by
    rw [← List.forall_mem_map (f := ColumnDefinition.column_name), hnames, List.forall_mem_map]
    rfl
  have hnonempty := (hforall (· ≠ [])).trans (forall₂_congr fun h _ =>
    (underscores_eq_nil_iff.trans (shown_eq_nil_iff hlib)).not_left)
  have hvalid := (hforall fun name => ∀ c ∈ name, lib.isWord c = true).trans
    (forall₂_congr fun h _ => valid_iff hlib)
  have hdistinct : (columns.map ColumnDefinition.column_name).Nodup ↔
      headers.Pairwise fun h h' => ¬ Alike (shown lib h) (shown lib h') := by
    rw [hnames, List.Nodup, List.pairwise_map]
    exact ⟨List.Pairwise.imp fun hne halike => hne (alike_iff.mp halike),
      List.Pairwise.imp fun hnot heq => hnot (alike_iff.mpr heq)⟩
  constructor
  · intro h
    exact ⟨hnonempty.mp h.nonempty, hvalid.mp h.valid, hdistinct.mp h.distinct⟩
  · rintro ⟨hstem, hletters, hapart⟩
    exact ⟨hheaders, hnonempty.mpr hstem, hvalid.mpr hletters, hdistinct.mpr hapart⟩

end Names

/-! ## The form -/

section Forms

variable {lib} {w : World} {user : User} {data : QueryDict} {form : Cleaned}

theorem keys_of_valid : ∀ {fields : List (Str × Field)} {form : Cleaned},
    (_clean_fields lib w user data fields).result = .ok form → form.errors = [] →
      form.cleaned_data.map Prod.fst = fields.map Prod.fst
  | [], form, h, _ => by
      cases h
      rfl
  | (name, field) :: fields, form, h, herrors => by
      obtain ⟨cleaned, _, h⟩ := Logged.result_bind_ok.mp h
      obtain ⟨rest, hrest, h⟩ := Logged.result_bind_ok.mp h
      cases cleaned with
      | error errors =>
          cases h
          cases herrors
      | ok value =>
          cases h
          exact congrArg (name :: ·) (keys_of_valid hrest herrors)

theorem get?_of_valid {fields : Dict Str Field}
    (h : (_clean_fields lib w user data fields.items).result = .ok form) (herrors : form.errors = [])
    {name : Str} {field : Field} (hfield : fields.get? name = some field) :
    ∃ value, (clean_field lib w user name field (data.get? name)).result = .ok (.ok value) ∧
      form.get? name = some value := by
  have hmem := (fields.mem_items_iff name field).mpr hfield
  have hkey : name ∈ form.cleaned_data.map Prod.fst := by
    rw [keys_of_valid h herrors]
    exact List.mem_map_of_mem hmem
  obtain ⟨value, hvalue⟩ : ∃ value, form.get? name = some value := by
    cases hnone : form.get? name with
    | some value => exact ⟨value, rfl⟩
    | none =>
        obtain ⟨kv, hkv, rfl⟩ := List.mem_map.mp hkey
        simpa using List.lookup_eq_none_iff.mp hnone kv hkv
  obtain ⟨field', hmem', hclean⟩ := of_mem_cleaned h hvalue
  rw [(fields.mem_items_iff name field').mp hmem'] at hfield
  cases hfield
  exact ⟨value, hclean, hvalue⟩

theorem exists_valid : ∀ {fields : List (Str × Field)},
    (∀ kf ∈ fields, ∃ value,
      (clean_field lib w user kf.1 kf.2 (data.get? kf.1)).result = .ok (.ok value)) →
      ∃ form, (_clean_fields lib w user data fields).result = .ok form ∧ form.errors = []
  | [], _ => ⟨_, rfl, rfl⟩
  | (name, field) :: fields, h => by
      obtain ⟨value, hvalue⟩ := h (name, field) List.mem_cons_self
      obtain ⟨rest, hrest, herrors⟩ := exists_valid fun kf hkf => h kf (List.mem_cons_of_mem _ hkf)
      exact ⟨_, Logged.result_bind_ok.mpr ⟨_, hvalue, Logged.result_bind_ok.mpr ⟨_, hrest, rfl⟩⟩,
        herrors⟩

theorem result_clean {schema table_name : Str} (hschema : form.get? "schema" = some (.str schema))
    (htable : form.get? "table_name" = some (.str table_name)) (hne : table_name ≠ []) :
    (clean w form).result = (w.table_exists schema table_name).map fun found =>
      if found && !((form.get? "force_overwrite").getD .None).truthy then
        form.add_error "table_name" duplicate_table
      else form := by
  have htruthy : Value.truthy (.str table_name) = true := by simpa [Value.truthy] using hne
  have htext {name value : Str} (h : form.get? name = some (.str value)) :
      form.text name = .ok value := by
    rw [Cleaned.text, Cleaned.get, h]
    rfl
  rw [clean, htable]
  dsimp only
  rw [if_pos htruthy, htext htable, htext hschema, Logged.quietly_ok_bind, Logged.quietly_ok_bind]
  cases w.table_exists schema table_name with
  | error e => rfl
  | ok found =>
      rw [Logged.quietly_ok_bind, Except.map]
      split
      next => rfl
      next => rfl

theorem eq_of_clean {form' : Cleaned} (h : (clean w form).result = .ok form')
    (herrors : form'.errors = []) : form' = form := by
  unfold clean at h
  split at h
  next =>
      cases h
      rfl
  next =>
      split at h
      next =>
          obtain ⟨table_name, _, h⟩ := Logged.result_bind_ok.mp h
          obtain ⟨schema, _, h⟩ := Logged.result_bind_ok.mp h
          obtain ⟨found, _, h⟩ := Logged.result_bind_ok.mp h
          split at h
          next =>
              cases h
              simp [Cleaned.add_error] at herrors
          next =>
              cases h
              rfl
      next =>
          cases h
          rfl

theorem valid_full_clean_iff {fields : Dict Str Field} :
    ((full_clean lib w user fields data).result = .ok form ∧ is_valid form = true) ↔
      (_clean_fields lib w user data fields.items).result = .ok form ∧ form.errors = [] ∧
        (clean w form).result = .ok form := by
  constructor
  · rintro ⟨h, hvalid⟩
    obtain ⟨cleaned, hcleaned, h⟩ := Logged.result_bind_ok.mp h
    have herrors : form.errors = [] := List.isEmpty_iff.mp hvalid
    have hsame : form = cleaned := eq_of_clean h herrors
    exact ⟨hsame ▸ hcleaned, herrors, hsame ▸ h⟩
  · rintro ⟨hcleaned, herrors, h⟩
    exact ⟨Logged.result_bind_ok.mpr ⟨form, hcleaned, h⟩, List.isEmpty_iff.mpr herrors⟩

/-! ## The types that are chosen -/

theorem get?_fields (name : Str) : ∀ (columns : List ColumnDefinition) (fields : Dict Str Field),
    (columns.foldl (fun fields col_def =>
      fields.set col_def.column_name (.choice DATA_TYPES)) fields).get? name =
      if name ∈ columns.map ColumnDefinition.column_name then some (.choice DATA_TYPES)
      else fields.get? name
  | [], _ => by simp
  | col_def :: columns, fields => by
      rw [List.foldl_cons, get?_fields name columns, Dict.get?_set]
      by_cases hname : name = col_def.column_name
      · simp [hname]
      · simp [hname]

theorem get?_posted {hidden : QueryDict} {names ts : List Str} (hnames : names.Nodup)
    (hlength : ts.length = names.length) {i : Nat} (hi : i < names.length) :
    (hidden ++ names.zip ts).get? names[i] = some (ts.get ⟨i, hlength ▸ hi⟩) := by
  have hkeys : ((names.zip ts).map Prod.fst) = names := List.map_fst_zip (Nat.le_of_eq hlength.symm)
  have hnodup : ((names.zip ts).reverse.map Prod.fst).Nodup := by
    rw [List.map_reverse, hkeys]
    exact List.nodup_reverse.mpr hnames
  have hmem : (names[i], ts.get ⟨i, hlength ▸ hi⟩) ∈ (names.zip ts).reverse := by
    rw [List.mem_reverse]
    exact List.mem_iff_getElem.mpr ⟨i, by simp [hlength, hi], List.getElem_zip⟩
  obtain ⟨l₁, l₂, hl⟩ := List.append_of_mem hmem
  have hlookup : (names.zip ts).reverse.lookup names[i] = some (ts.get ⟨i, hlength ▸ hi⟩) := by
    refine List.lookup_eq_some_iff.mpr ⟨l₁, l₂, hl, fun kv hkv => ?_⟩
    rw [hl, List.map_append, List.map_cons, List.nodup_append] at hnodup
    simpa using (hnodup.2.2 kv.1 (List.mem_map_of_mem hkv) names[i] List.mem_cons_self).symm
  rw [QueryDict.get?, List.reverse_append, List.lookup_append, hlookup, Option.some_or]

theorem get?_hidden {hidden : QueryDict} {names ts : List Str} {name : Str} (hname : name ∉ names) :
    (hidden ++ names.zip ts).get? name = hidden.get? name := by
  have hnone : (names.zip ts).reverse.lookup name = none := by
    rw [List.lookup_eq_none_iff]
    intro kv hkv
    have hmem := (List.of_mem_zip (List.mem_reverse.mp hkv)).1
    simpa using fun heq : name = kv.1 => hname (heq ▸ hmem)
  rw [QueryDict.get?, List.reverse_append, List.lookup_append, hnone]
  rfl

theorem clean_choice {name t : Str} (hname : name ≠ "path") (ht : t ∈ DATA_TYPES) :
    (clean_field lib w user name (.choice DATA_TYPES) (some t)).result = .ok (.ok (.str t)) := by
  have hne : t ≠ [] := by
    rintro rfl
    exact absurd ht (by decide)
  have hclean : Field.clean lib (some t) (.choice DATA_TYPES) = .ok (.str t) := by
    rw [Field.clean, Option.getD_some]
    simp [hne, ht]
  rw [clean_field, hclean]
  dsimp only
  rw [if_neg hname]
  rfl

theorem value_of_choice {name t : Str} {value : Value}
    (h : (clean_field lib w user name (.choice DATA_TYPES) (some t)).result = .ok (.ok value)) :
    value = .str t := by
  unfold clean_field Field.clean at h
  dsimp only at h
  rw [Option.getD_some] at h
  split at h
  next => cases h
  next value' hclean =>
      have hvalue : value' = .str t := by
        split at hclean
        next => cases hclean
        next =>
            split at hclean
            next =>
                cases hclean
                rfl
            next => cases hclean
      subst hvalue
      split at h
      next => exact (ownObject_of_clean_path h).2
      next =>
          cases h
          rfl

end Forms

/-- The type that the view takes for one that was chosen. -/
def taken (t : Str) : Str := (SCHEMA_POSTGRES_DATA_TYPE_MAP.lookup t).getD "text"

theorem taken_eq_iff : ∀ t ∈ DATA_TYPES, taken t = t ↔ t ≠ "timestamp" := by decide

def withTypes (columns : List ColumnDefinition) (ts : List Str) : List ColumnDefinition :=
  List.zipWith (fun col t => { col with data_type := t }) columns ts

theorem types_withTypes : ∀ {columns : List ColumnDefinition} {ts : List Str},
    ts.length = columns.length → (withTypes columns ts).map ColumnDefinition.data_type = ts
  | [], [], _ => rfl
  | _ :: _, t :: _, h => congrArg (t :: ·) (types_withTypes (Nat.succ.inj h))

theorem chosen_eq {form : Cleaned} {columns : List ColumnDefinition} {ts : List Str}
    (h : List.Forall₂ (fun col t => form.get? col.column_name = some (.str t)) columns ts) :
    CreateTableConfirmDataTypesView.chosen form columns = .ok (withTypes columns (ts.map taken)) := by
  induction h with
  | nil => rfl
  | @cons col t columns ts hcol _ ih =>
      rw [CreateTableConfirmDataTypesView.chosen] at ih ⊢
      rw [List.mapM_cons, ih, Cleaned.get, hcol]
      rfl

/-- The types that are chosen are those of the columns of the table that was asked for, with every
user and every answer for which the form without the columns is valid. -/
def Respected (columns : List ColumnDefinition) (ts : List Str) : Prop :=
  ∀ (w : World) (user : User) (hidden : QueryDict) (form₀ : Cleaned),
    (full_clean lib w user CreateTableForm.fields hidden).result = .ok form₀ →
    is_valid form₀ = true →
      ∃ form, (full_clean lib w user (CreateTableDataTypesForm.fields columns)
          (hidden ++ (columns.map ColumnDefinition.column_name).zip ts)).result = .ok form ∧
        is_valid form = true ∧ (∀ name ∈ reserved, form.get? name = form₀.get? name) ∧
          CreateTableConfirmDataTypesView.chosen form columns = .ok (withTypes columns ts)

section Respected

variable {lib} {columns : List ColumnDefinition} {ts : List Str}

theorem get?_base_of_mem : ∀ name ∈ reserved, ∃ validators,
    CreateTableForm.fields.get? name = some (.char validators) := by
  intro name hname
  simp only [reserved, List.mem_cons, List.not_mem_nil, or_false] at hname
  rcases hname with rfl | rfl | rfl
  · exact ⟨_, rfl⟩
  · exact ⟨_, rfl⟩
  · exact ⟨_, rfl⟩

theorem value_of_char {w : World} {user : User} {name : Str} {validators : List Validator}
    {posted : Option Str} {value : Value}
    (h : (clean_field lib w user name (.char validators) posted).result = .ok (.ok value)) :
    ∃ s, value = .str s ∧ s ≠ [] := by
  unfold clean_field Field.clean at h
  dsimp only at h
  split at h
  next => cases h
  next value' hclean =>
      split at hclean
      next => cases hclean
      next hne =>
          split at hclean
          next =>
              cases hclean
              split at h
              next => exact ⟨_, (ownObject_of_clean_path h).2, hne⟩
              next =>
                  cases h
                  exact ⟨_, rfl, hne⟩
          next => cases hclean

theorem text_of_valid {w : World} {user : User} {hidden : QueryDict} {form₀ : Cleaned}
    (h : (_clean_fields lib w user hidden CreateTableForm.fields.items).result = .ok form₀)
    (herrors : form₀.errors = []) :
    ∀ name ∈ reserved, ∃ s, form₀.get? name = some (.str s) ∧ s ≠ [] := by
  intro name hname
  obtain ⟨validators, hfield⟩ := get?_base_of_mem name hname
  obtain ⟨value, hvalue, hget⟩ := get?_of_valid h herrors hfield
  obtain ⟨s, rfl, hne⟩ := value_of_char hvalue
  exact ⟨s, hget, hne⟩

theorem get?_column (hnames : (columns.map ColumnDefinition.column_name).Nodup)
    (hlength : ts.length = columns.length) {w : World} {user : User} {hidden : QueryDict}
    {form : Cleaned} (h : (_clean_fields lib w user
      (hidden ++ (columns.map ColumnDefinition.column_name).zip ts)
      (CreateTableDataTypesForm.fields columns).items).result = .ok form) (herrors : form.errors = [])
    {i : Nat} (hi : i < columns.length) :
    form.get? columns[i].column_name = some (.str (ts.get ⟨i, hlength ▸ hi⟩)) := by
  have hi' : i < (columns.map ColumnDefinition.column_name).length := by simpa using hi
  have hname : (columns.map ColumnDefinition.column_name)[i] = columns[i].column_name :=
    List.getElem_map _
  have hfield : (CreateTableDataTypesForm.fields columns).get? columns[i].column_name =
      some (.choice DATA_TYPES) := by
    rw [CreateTableDataTypesForm.fields, get?_fields, if_pos]
    exact List.mem_map_of_mem (List.getElem_mem hi)
  obtain ⟨value, hvalue, hget⟩ := get?_of_valid h herrors hfield
  rw [← hname, get?_posted hnames (by simpa using hlength) hi'] at hvalue
  rw [hget, value_of_choice hvalue]

section Form

variable {w : World} {user : User} {hidden : QueryDict} {form₀ form : Cleaned}

theorem columns_clean (hnames : (columns.map ColumnDefinition.column_name).Nodup)
    (hfree : ("path" : Str) ∉ columns.map ColumnDefinition.column_name)
    (hlength : ts.length = columns.length) (hts : ∀ t ∈ ts, t ∈ DATA_TYPES)
    (h : (_clean_fields lib w user hidden CreateTableForm.fields.items).result = .ok form₀)
    (herrors : form₀.errors = []) :
    ∀ kf ∈ (CreateTableDataTypesForm.fields columns).items, ∃ value,
      (clean_field lib w user kf.1 kf.2
        (QueryDict.get? (hidden ++ (columns.map ColumnDefinition.column_name).zip ts) kf.1)).result =
          .ok (.ok value) := by
  rintro ⟨name, field⟩ hmem
  have hfield := (Dict.mem_items_iff _ name field).mp hmem
  rw [CreateTableDataTypesForm.fields, get?_fields] at hfield
  split at hfield
  next hin =>
      cases hfield
      obtain ⟨i, hi, rfl⟩ := List.getElem_of_mem hin
      have hne : (columns.map ColumnDefinition.column_name)[i] ≠ "path" := fun heq =>
        hfree (heq ▸ hin)
      rw [get?_posted hnames (by simpa using hlength) hi]
      exact ⟨_, clean_choice hne (hts _ (List.getElem_mem _))⟩
  next hout =>
      rw [get?_hidden hout]
      obtain ⟨value, hvalue, _⟩ := get?_of_valid h herrors hfield
      exact ⟨value, hvalue⟩

theorem get?_same
    (h₀ : (_clean_fields lib w user hidden CreateTableForm.fields.items).result = .ok form₀)
    (herrors₀ : form₀.errors = [])
    (h : (_clean_fields lib w user (hidden ++ (columns.map ColumnDefinition.column_name).zip ts)
      (CreateTableDataTypesForm.fields columns).items).result = .ok form) (herrors : form.errors = [])
    {name : Str} {field : Field} (hout : name ∉ columns.map ColumnDefinition.column_name)
    (hfield : CreateTableForm.fields.get? name = some field) :
    form.get? name = form₀.get? name := by
  obtain ⟨value₀, hvalue₀, hget₀⟩ := get?_of_valid h₀ herrors₀ hfield
  have hfield' := get?_fields name columns CreateTableForm.fields
  rw [if_neg hout, hfield] at hfield'
  obtain ⟨value, hvalue, hget⟩ := get?_of_valid h herrors hfield'
  rw [get?_hidden hout, hvalue₀] at hvalue
  cases hvalue
  rw [hget, hget₀]

theorem clean_of_same {schema table_name : Str} (hschema : form₀.get? "schema" = some (.str schema))
    (htable : form₀.get? "table_name" = some (.str table_name)) (hne : table_name ≠ [])
    (herrors₀ : form₀.errors = []) (h₀ : (clean w form₀).result = .ok form₀)
    (hsame : ∀ name ∈ reserved, form.get? name = form₀.get? name)
    (hforce : ((form₀.get? "force_overwrite").getD .None).truthy = true →
      ((form.get? "force_overwrite").getD .None).truthy = true) :
    (clean w form).result = .ok form := by
  rw [result_clean hschema htable hne] at h₀
  rw [result_clean ((hsame _ (by decide)).trans hschema) ((hsame _ (by decide)).trans htable) hne]
  cases hfound : w.table_exists schema table_name with
  | error e =>
      rw [hfound] at h₀
      cases h₀
  | ok found =>
      rw [hfound, Except.map] at h₀
      rw [Except.map]
      cases found with
      | false => rfl
      | true =>
          cases hforce₀ : ((form₀.get? "force_overwrite").getD .None).truthy with
          | true =>
              rw [hforce hforce₀]
              rfl
          | false =>
              rw [hforce₀] at h₀
              have hadded := congrArg Cleaned.errors (Except.ok.inj h₀)
              rw [herrors₀] at hadded
              simp [Cleaned.add_error, herrors₀] at hadded

theorem exists_form (hnames : (columns.map ColumnDefinition.column_name).Nodup)
    (hfree : ∀ name ∈ reserved, name ∉ columns.map ColumnDefinition.column_name)
    (hlength : ts.length = columns.length) (hts : ∀ t ∈ ts, t ∈ DATA_TYPES)
    (h₀ : (full_clean lib w user CreateTableForm.fields hidden).result = .ok form₀)
    (hvalid₀ : is_valid form₀ = true) :
    ∃ form, ((full_clean lib w user (CreateTableDataTypesForm.fields columns)
        (hidden ++ (columns.map ColumnDefinition.column_name).zip ts)).result = .ok form ∧
      is_valid form = true) ∧ (∀ name ∈ reserved, form.get? name = form₀.get? name) ∧
      List.Forall₂ (fun col t => form.get? col.column_name = some (.str t)) columns ts := by
  obtain ⟨hcleaned, herrors₀, hclean₀⟩ := valid_full_clean_iff.mp ⟨h₀, hvalid₀⟩
  obtain ⟨form, hform, herrors⟩ :=
    exists_valid (columns_clean hnames (hfree "path" (by decide)) hlength hts hcleaned herrors₀)
  have hcolumn {i : Nat} (hi : i < columns.length) := get?_column hnames hlength hform herrors hi
  have hreserved : ∀ name ∈ reserved, form.get? name = form₀.get? name := by
    intro name hname
    obtain ⟨validators, hfield⟩ := get?_base_of_mem name hname
    exact get?_same hcleaned herrors₀ hform herrors (hfree name hname) hfield
  have hforce : ((form₀.get? "force_overwrite").getD .None).truthy = true →
      ((form.get? "force_overwrite").getD .None).truthy = true := by
    intro hforce
    by_cases hin : ("force_overwrite" : Str) ∈ columns.map ColumnDefinition.column_name
    · -- the type of a column of that name stands for a yes
      obtain ⟨col, hcol, hname⟩ := List.mem_map.mp hin
      obtain ⟨i, hi, rfl⟩ := List.getElem_of_mem hcol
      have htruthy : ∀ t ∈ DATA_TYPES, (Value.str t).truthy = true := by decide
      rw [← hname, hcolumn hi, Option.getD_some]
      exact htruthy _ (hts _ (List.getElem_mem _))
    · rwa [get?_same hcleaned herrors₀ hform herrors hin rfl]
  obtain ⟨schema, hschema, _⟩ := text_of_valid hcleaned herrors₀ "schema" (by decide)
  obtain ⟨table_name, htable, hne⟩ := text_of_valid hcleaned herrors₀ "table_name" (by decide)
  have hclean := clean_of_same hschema htable hne herrors₀ hclean₀ hreserved hforce
  exact ⟨form, valid_full_clean_iff.mpr ⟨hform, herrors, hclean⟩, hreserved,
    List.forall₂_iff_get.mpr ⟨hlength.symm, fun i hi _ => hcolumn hi⟩⟩

end Form

theorem stripSpace_eq_self {s : Str} (hhead : ∀ c ∈ s.head?, isspace c = false)
    (hlast : ∀ c ∈ s.reverse.head?, isspace c = false) : stripSpace s = s := by
  have hdrop : ∀ {s : Str}, (∀ c ∈ s.head?, isspace c = false) → s.dropWhile isspace = s
    | [], _ => rfl
    | c :: s, h => List.dropWhile_cons_of_neg (by simpa using h c rfl)
  rw [stripSpace, hdrop hhead, hdrop hlast, List.reverse_reverse]

theorem clean_path_of_char {w : World} {user : User} {path : Str} (hstrip : stripSpace path = path)
    (hnull : '\x00' ∉ path) (hown : OwnObject lib user path) (hcsv : endswith path ".csv" = true)
    (hhead : w.head_object path = .ok true) :
    (clean_field lib w user "path" (.char []) (some path)).result = .ok (.ok (.str path)) := by
  have hne : path ≠ [] := by
    rintro rfl
    cases hcsv
  have hclean : Field.clean lib (some path) (.char []) = .ok (.str path) := by
    rw [Field.clean, Option.getD_some]
    simp [hstrip, hne, no_null, hnull]
  have hpath : startswith path ( get_s3_prefix lib user.sso_id) = true := hown
  rw [clean_field, hclean]
  dsimp only
  rw [if_pos rfl, clean_path, hpath, hcsv]
  simp [Logged.result_bind_ok, hhead]

def hiddenOf (path : Str) : QueryDict := [("path", path), ("schema", "a"), ("table_name", "a")]

theorem text_of_hidden {path : Str} (hpath : (clean_field lib answers bob "path" (.char [])
      (some path)).result = .ok (.ok (.str path))) :
    ∀ name ∈ reserved, ∃ field s, CreateTableForm.fields.get? name = some field ∧
      (clean_field lib answers bob name field ((hiddenOf path).get? name)).result =
        .ok (.ok (.str s)) ∧ (s = path ∨ s = "a") := by
  intro name hname
  simp only [reserved, List.mem_cons, List.not_mem_nil, or_false] at hname
  rcases hname with rfl | rfl | rfl
  · exact ⟨_, path, rfl, hpath, .inl rfl⟩
  · exact ⟨_, "a", rfl, rfl, .inr rfl⟩
  · exact ⟨_, "a", rfl, rfl, .inr rfl⟩

theorem valid_hidden {path : Str} (hpath : (clean_field lib answers bob "path" (.char [])
      (some path)).result = .ok (.ok (.str path))) :
    ∃ form₀, ((full_clean lib answers bob CreateTableForm.fields (hiddenOf path)).result =
        .ok form₀ ∧ is_valid form₀ = true) ∧
      ∀ name ∈ reserved, ∃ s, form₀.get? name = some (.str s) ∧ (s = path ∨ s = "a") := by
  have hall : ∀ kf ∈ CreateTableForm.fields.items, ∃ value,
      (clean_field lib answers bob kf.1 kf.2 ((hiddenOf path).get? kf.1)).result =
        .ok (.ok value) := by
    rintro ⟨name, field⟩ hkf
    have hkeys : CreateTableForm.fields.items.map Prod.fst =
        reserved ++ [("force_overwrite" : Str)] := rfl
    have hget := (Dict.mem_items_iff _ name field).mp hkf
    have hname : name ∈ reserved ++ [("force_overwrite" : Str)] :=
      hkeys ▸ List.mem_map_of_mem (f := Prod.fst) hkf
    rcases List.mem_append.mp hname with hname | hname
    · obtain ⟨field', s, hfield, hclean, _⟩ := text_of_hidden hpath name hname
      rw [hget] at hfield
      cases hfield
      exact ⟨_, hclean⟩
    · obtain rfl := List.mem_singleton.mp hname
      obtain rfl : Field.boolean = field := Option.some.inj hget
      exact ⟨.bool false, rfl⟩
  obtain ⟨form₀, h₀, herrors⟩ := exists_valid hall
  have htext : ∀ name ∈ reserved, ∃ s, form₀.get? name = some (.str s) ∧ (s = path ∨ s = "a") := by
    intro name hname
    obtain ⟨field, s, hfield, hclean, hs⟩ := text_of_hidden hpath name hname
    obtain ⟨value, hvalue, hget⟩ := get?_of_valid h₀ herrors hfield
    rw [hclean] at hvalue
    cases hvalue
    exact ⟨s, hget, hs⟩
  obtain ⟨schema, hschema, _⟩ := text_of_valid h₀ herrors "schema" (by decide)
  obtain ⟨table_name, htable, hne⟩ := text_of_valid h₀ herrors "table_name" (by decide)
  have hclean : (clean answers form₀).result = .ok form₀ := by
    rw [result_clean hschema htable hne]
    rfl
  exact ⟨form₀, valid_full_clean_iff.mpr ⟨h₀, herrors, hclean⟩, htext⟩

theorem exists_hidden (hlib : lib.Lawful) : ∃ (w : World) (user : User) (hidden : QueryDict)
    (form₀ : Cleaned), ((full_clean lib w user CreateTableForm.fields hidden).result = .ok form₀ ∧
      is_valid form₀ = true) ∧
      ∀ name ∈ reserved, ∀ t ∈ DATA_TYPES, form₀.get? name ≠ some (.str t) := by
  obtain ⟨digest, hdigest⟩ : ∃ digest, lib.sha256 bob.sso_id = digest := exists_eq'
  have hnull : '\x00' ∉ digest := hdigest ▸ hlib.digest _
  have hprefix : get_s3_prefix lib bob.sso_id = "user/federated/" ++ digest ++ "/" := by
    rw [← hdigest]
    rfl
  have hpath : (clean_field lib answers bob "path" (.char [])
      (some ("user/federated/" ++ digest ++ "/" ++ "a.csv" : Str))).result =
        .ok (.ok (.str ("user/federated/" ++ digest ++ "/" ++ "a.csv" : Str))) := by
    refine clean_path_of_char (stripSpace_eq_self ?_ ?_) ?_ ?_ ?_ rfl
    · exact fun c hc => by cases hc; rfl
    · rw [List.reverse_append]
      exact fun c hc => by cases hc; rfl
    · simp only [List.mem_append, not_or]
      exact ⟨⟨⟨by decide, hnull⟩, by decide⟩, by decide⟩
    · rw [OwnObject, hprefix]
      exact startswith_append _ _
    · exact List.isSuffixOf_iff_suffix.mpr ⟨"user/federated/" ++ digest ++ "/a", by simp⟩
  obtain ⟨form₀, h₀, htext⟩ := valid_hidden hpath
  refine ⟨answers, bob, _, form₀, h₀, fun name hname t ht heq => ?_⟩
  obtain ⟨s, hs, hor⟩ := htext name hname
  have hst : s = t := by simpa [hs] using heq
  have hshort : ∀ t ∈ DATA_TYPES, t ≠ "a" ∧ t.length < 15 := by decide
  rcases hor with rfl | rfl
  · have hlength := (hshort t ht).2
    rw [← hst, List.length_append, List.length_append, List.length_append] at hlength
    have hlong : ("user/federated/" : Str).length = 15 := rfl
    omega
  · exact (hshort t ht).1 hst.symm

theorem respected_iff (hlib : lib.Lawful) (hnames : (columns.map ColumnDefinition.column_name).Nodup)
    (hlength : ts.length = columns.length) (hts : ∀ t ∈ ts, t ∈ DATA_TYPES) :
    Respected lib columns ts ↔
      (∀ name ∈ reserved, name ∉ columns.map ColumnDefinition.column_name) ∧
        ("timestamp" : Str) ∉ ts := by
  have htaken : ts.map taken = ts ↔ ("timestamp" : Str) ∉ ts := by
    have hmap : ts.map taken = ts ↔ ∀ t ∈ ts, taken t = t := by
      simpa using List.map_inj_left (l := ts) (f := taken) (g := id)
    rw [hmap]
    constructor
    · exact fun h hmem => absurd (h _ hmem) (by decide)
    · exact fun h t ht => (taken_eq_iff t (hts t ht)).mpr fun heq => h (heq ▸ ht)
  constructor
  · intro h
    obtain ⟨w, user, hidden, form₀, ⟨h₀, hvalid₀⟩, hother⟩ := exists_hidden hlib
    obtain ⟨form, hform, hvalid, hsame, hchosen⟩ := h w user hidden form₀ h₀ hvalid₀
    obtain ⟨hcleaned, herrors, _⟩ := valid_full_clean_iff.mp ⟨hform, hvalid⟩
    have hcolumn {i : Nat} (hi : i < columns.length) := get?_column hnames hlength hcleaned herrors hi
    constructor
    · intro name hname hin
      obtain ⟨col, hcol, rfl⟩ := List.mem_map.mp hin
      obtain ⟨i, hi, rfl⟩ := List.getElem_of_mem hcol
      exact hother _ hname _ (hts _ (List.getElem_mem (hlength ▸ hi : i < ts.length)))
        ((hsame _ hname).symm.trans (hcolumn hi))
    · rw [chosen_eq (List.forall₂_iff_get.mpr ⟨hlength.symm, fun i hi _ => hcolumn hi⟩)] at hchosen
      have htypes := congrArg (List.map ColumnDefinition.data_type) (Except.ok.inj hchosen)
      rw [types_withTypes (by simpa using hlength), types_withTypes hlength] at htypes
      exact htaken.mp htypes
  · rintro ⟨hfree, htimestamp⟩ w user hidden form₀ h₀ hvalid₀
    obtain ⟨form, ⟨hform, hvalid⟩, hsame, hcolumns⟩ :=
      exists_form hnames hfree hlength hts h₀ hvalid₀
    refine ⟨form, hform, hvalid, hsame, ?_⟩
    rw [chosen_eq hcolumns, htaken.mpr htimestamp]

end Respected

/-- The columns of a table have good names, and the types that were chosen, exactly for such headers
and such choices. -/
theorem columns_as_chosen_iff {lib : Library} (hlib : lib.Lawful) {w : World} {n : Nat} {path : Str}
    {headers ts : List Str} {rows : List (List Str)} {columns : List ColumnDefinition}
    (hrows : w.get_object n path = .ok (headers :: rows))
    (hcolumns : (get_s3_csv_column_types lib w n path).result = .ok columns)
    (hlength : ts.length = headers.length) (hts : ∀ t ∈ ts, t ∈ DATA_TYPES) :
    (Named lib headers columns ∧ Respected lib columns ts) ↔ Plain lib headers ts := by
  obtain ⟨hheaders, hnames⟩ := names_of_columns hlib hrows hcolumns
  have hlength' : ts.length = columns.length := by
    rw [hlength, ← hheaders, List.length_map]
  have hfree : (∀ name ∈ reserved, name ∉ columns.map ColumnDefinition.column_name) ↔
      ∀ h ∈ headers, ∀ name ∈ reserved, ¬ Alike (shown lib h) name := by
    have hfixed : ∀ name ∈ reserved, underscores name = name := by decide
    simp only [hnames, List.mem_map, alike_iff, clean_db_identifier_eq]
    constructor
    · intro h header hheader name hname heq
      exact h name hname ⟨header, hheader, heq.trans (hfixed name hname)⟩
    · rintro h name hname ⟨header, hheader, heq⟩
      exact h header hheader name hname (heq.trans (hfixed name hname).symm)
  constructor
  · rintro ⟨hnamed, hrespected⟩
    obtain ⟨hreserved, htimestamp⟩ := (respected_iff hlib hnamed.distinct hlength' hts).mp hrespected
    obtain ⟨hstem, hletters, hapart⟩ := (named_iff hlib hheaders hnames).mp hnamed
    exact ⟨hstem, hletters, hapart, hfree.mp hreserved, htimestamp⟩
  · intro h
    have hnamed := (named_iff hlib hheaders hnames).mpr ⟨h.stem, h.letters, h.apart⟩
    exact ⟨hnamed, (respected_iff hlib hnamed.distinct hlength' hts).mpr
      ⟨hfree.mpr h.free, h.timestamp⟩⟩

/-! ## A file of people -/

/-- Letters, digests and a package for which every column is text. -/
def strings : Library where
  isWord c := c.isAlphanum || c == '_'
  lower := lower
  sha256 := digests.sha256
  infer rows :=
    match rows with
    | [] => .error .IndexError
    | headers :: rows => .ok (headers.map fun header => (header, "string"), rows)

theorem strings_lawful : strings.Lawful where
  underscore := rfl
  lower s := List.map_eq_nil_iff
  digest s := by
    rw [strings, digests]
    dsimp only
    split
    next => decide
    next =>
        split
        next => decide
        next => exact List.not_mem_nil
  infer h := by
    cases h
    exact ⟨by simp [List.map_map, Function.comp_def], rfl⟩

def people : List Str := ["First name", "Joined"]

def rowsOfPeople : List (List Str) := [["Ada", "soon"], ["Bob", "later"], ["Cyd", "never"]]

def peopleColumns : List ColumnDefinition :=
  [⟨"First name", "first_name", "text", ["Ada", "Bob"]⟩,
    ⟨"Joined", "joined", "text", ["soon", "later"]⟩]

def peopleWorld : World := { answers with get_object := fun _ _ => .ok (people :: rowsOfPeople) }

theorem columns_of_people (path : Str) :
    (get_s3_csv_column_types strings peopleWorld 0 path).result = .ok peopleColumns := by
  rfl

theorem plain_people : Plain strings people ["text", "date"] where
  stem := by
    have hall : (people.all fun h => (splitext (filename h)).any fun c =>
      (strings.isWord c || c == '-') && !isspace c) = true := by decide
    simpa using hall
  letters := by
    have hall : (people.all fun h => (shown strings h).all fun c =>
      strings.isWord c || decide (Gap c)) = true := by decide
    simpa using hall
  apart := by
    simp only [alike_iff]
    decide
  free := by
    simp only [alike_iff]
    decide
  timestamp := by decide

theorem columns_as_chosen_people : Named strings people peopleColumns ∧
    Respected strings peopleColumns ["text", "date"] := by
  have hrows : peopleWorld.get_object 0 fileOfBob = .ok (people :: rowsOfPeople) := rfl
  have hlength : (["text", "date"] : List Str).length = people.length := rfl
  exact (columns_as_chosen_iff strings_lawful hrows (columns_of_people fileOfBob) hlength
    (by decide)).mpr plain_people

/-- A timestamp becomes a text. -/
theorem timestamp_as_text : ¬ (Named strings people peopleColumns ∧
    Respected strings peopleColumns ["text", "timestamp"]) := by
  rintro ⟨hnamed, hrespected⟩
  have hlength : (["text", "timestamp"] : List Str).length = peopleColumns.length := rfl
  have hboth := (respected_iff strings_lawful hnamed.distinct hlength (by decide)).mp hrespected
  exact absurd hboth.2 (by decide)

end YourFiles
