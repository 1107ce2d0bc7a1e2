import DataWorkspace.YourFiles.Views

/-!
# Which requests stay with the files and schemas of the user

What is read and copied, and the schema of a run, in terms of what a request brings.

`mem_log_full_clean` says that a form looks at no object of another user, and
`cleaned_path` that its path is one of the user.  The schema is what was posted
(`cleaned_schema`).  `permitted_iff_fits` puts this together for one request, and
`effects_permitted_iff` for a sequence of requests.
-/

namespace YourFiles

open Py Async Http

variable (lib : Library) (DATAFLOW_IMPORTS_BUCKET_ROOT : Str) (w : World) (user : User)

/-! ## What is permitted -/

def OwnObject (key : Str) : Prop := startswith key ( get_s3_prefix lib user.sso_id) = true

/-- The private schema of the user, or the schema of a team that the user is a member of. -/
def OwnSchema (schema : Str) : Prop :=
  schema = get_schema_for_user lib user ∨ ∃ team ∈ w.teams user, schema = team.schema_name

def Permitted : Effect → Prop
  | .head_object key => OwnObject lib user key
  | .get_object key => OwnObject lib user key
  | .copy_object source _ => OwnObject lib user source
  | .trigger _ conf => OwnSchema lib w user conf.schema_name ∧ OwnSchema lib w user conf.db_role

/-- The request gets as far as reading the object of its query. -/
def Reads (request : Request) : Prop :=
  request.page = .confirm_data_types ∧
    match request.method with
    | .GET => request.GET.contains "schema" = true ∧ request.GET.contains "table_name" = true
    | .HEAD => True
    | .POST => True
    | .PUT => True
    | _ => False

/-- The request gets as far as starting a run. -/
def Triggers (request : Request) : Prop :=
  request.page = .confirm_data_types ∧ (request.method = .POST ∨ request.method = .PUT) ∧
    ∃ form, (CreateTableConfirmDataTypesView.posted lib w user request).result = .ok form ∧
      is_valid form = true ∧ ∃ conf, (CreateTableConfirmDataTypesView.prepare lib
        DATAFLOW_IMPORTS_BUCKET_ROOT w user form).result = .ok conf

/-- The schema that is posted, as the form takes it. -/
def postedSchema (request : Request) : Str := stripSpace ((request.data.get? "schema").getD [])

/-- The condition on a request. -/
structure Fits (request : Request) : Prop where
  path : Reads request → ∀ path, request.GET.get? "path" = some path → OwnObject lib user path
  schema : Triggers lib DATAFLOW_IMPORTS_BUCKET_ROOT w user request →
    OwnSchema lib w user (postedSchema request)

/-! ## Forms -/

section Forms

variable {lib DATAFLOW_IMPORTS_BUCKET_ROOT w user} {data : QueryDict} {form : Cleaned}

theorem of_mem_cleaned {name : Str} {value : Value} : ∀ {fields : List (Str × Field)} {form : Cleaned},
    (_clean_fields lib w user data fields).result = .ok form → form.get? name = some value →
      ∃ field, (name, field) ∈ fields ∧
        (clean_field lib w user name field (data.get? name)).result = .ok (.ok value)
  | [], form, h, hvalue => by
      cases h
      cases hvalue
  | (name', field) :: fields, form, h, hvalue => by
      obtain ⟨cleaned, hcleaned, h⟩ := Logged.result_bind_ok.mp h
      obtain ⟨rest, hrest, h⟩ := Logged.result_bind_ok.mp h
      cases cleaned with
      | error errors =>
          cases h
          obtain ⟨field', hmem, hfield⟩ := of_mem_cleaned hrest hvalue
          exact ⟨field', List.mem_cons_of_mem _ hmem, hfield⟩
      | ok value' =>
          cases h
          by_cases hname : name = name'
          · subst hname
            rw [Cleaned.get?, List.lookup_cons_self] at hvalue
            obtain rfl := Option.some.inj hvalue
            exact ⟨field, List.mem_cons_self, hcleaned⟩
          · have hvalue' : rest.get? name = some value := by
              rwa [Cleaned.get?, List.lookup_cons, beq_false_of_ne hname] at hvalue
            obtain ⟨field', hmem, hfield⟩ := of_mem_cleaned hrest hvalue'
            exact ⟨field', List.mem_cons_of_mem _ hmem, hfield⟩

theorem lookup_of_filter {κ β : Type} [BEq κ] [LawfulBEq κ] {k k' : κ} {v : β} : ∀ {l : List (κ × β)},
    (l.filter fun kv => kv.1 != k').lookup k = some v → l.lookup k = some v
  | [], h => h
  | (k₀, v₀) :: l, h => by
      rw [List.filter_cons] at h
      split at h
      next =>
          rw [List.lookup_cons] at h ⊢
          split at h
          next => exact h
          next => exact lookup_of_filter h
      next hne =>
          obtain rfl : k₀ = k' := by simpa using hne
          have hk : k ≠ k₀ := by
            rintro rfl
            obtain ⟨l₁, l₂, hl, _⟩ := List.lookup_eq_some_iff.mp h
            have hmem : (k, v) ∈ l.filter fun kv => kv.1 != k := by simp [hl]
            simpa using (List.mem_filter.mp hmem).2
          rw [List.lookup_cons, beq_false_of_ne hk]
          exact lookup_of_filter h

theorem of_get?_clean {form' : Cleaned} {name : Str} {value : Value}
    (h : (clean w form).result = .ok form') (hvalue : form'.get? name = some value) :
    form.get? name = some value := by
  unfold clean at h
  split at h
  next =>
      cases h
      exact hvalue
  next =>
      split at h
      next =>
          obtain ⟨table_name, _, h⟩ := Logged.result_bind_ok.mp h
          obtain ⟨schema, _, h⟩ := Logged.result_bind_ok.mp h
          obtain ⟨found, _, h⟩ := Logged.result_bind_ok.mp h
          split at h
          next =>
              cases h
              have hfilter : (form.cleaned_data.filter fun kv => kv.1 != ("table_name" : Str)).lookup
                  name = some value := hvalue
              exact lookup_of_filter hfilter
          next =>
              cases h
              exact hvalue
      next =>
          cases h
          exact hvalue

theorem of_text {name value : Str} (h : form.text name = .ok value) :
    form.get? name = some (.str value) := by
  unfold Cleaned.text Cleaned.get at h
  cases hvalue : form.get? name with
  | none =>
      rw [hvalue] at h
      cases h
  | some v =>
      rw [hvalue] at h
      cases v with
      | str s =>
          cases h
          rfl
      | bool b => cases h
      | None => cases h

theorem of_text_full_clean {fields : Dict Str Field} {name value : Str}
    (h : (full_clean lib w user fields data).result = .ok form) (hvalue : form.text name = .ok value) :
    ∃ field, fields.get? name = some field ∧
      (clean_field lib w user name field (data.get? name)).result = .ok (.ok (.str value)) := by
  obtain ⟨cleaned, hcleaned, h⟩ := Logged.result_bind_ok.mp h
  obtain ⟨field, hmem, hfield⟩ := of_mem_cleaned hcleaned (of_get?_clean h (of_text hvalue))
  exact ⟨field, (fields.mem_items_iff name field).mp hmem, hfield⟩

theorem ownObject_of_clean_path {path : Str} {value : Value}
    (h : (clean_path lib w user path).result = .ok (.ok value)) :
    OwnObject lib user path ∧ value = .str path := by
  unfold clean_path at h
  split at h
  next => cases h
  next hown =>
      have hpath : startswith path ( get_s3_prefix lib user.sso_id) = true := by simpa using hown
      split at h
      next => cases h
      next =>
          obtain ⟨found, _, h⟩ := Logged.result_bind_ok.mp h
          split at h
          next =>
              cases h
              exact ⟨hpath, rfl⟩
          next => cases h

theorem cleaned_path {fields : Dict Str Field} {path : Str}
    (h : (full_clean lib w user fields data).result = .ok form) (hpath : form.text "path" = .ok path) :
    OwnObject lib user path := by
  obtain ⟨field, _, hfield⟩ := of_text_full_clean h hpath
  unfold clean_field at hfield
  split at hfield
  next => cases hfield
  next value _ =>
      rw [if_pos rfl] at hfield
      cases value with
      | str path' =>
          obtain ⟨hown, hvalue⟩ := ownObject_of_clean_path hfield
          cases hvalue
          exact hown
      | bool b => cases hfield
      | None => cases hfield

theorem of_get?_fields {name : Str} {field : Field} : ∀ {columns : List ColumnDefinition}
    {fields : Dict Str Field}, (columns.foldl (fun fields col_def =>
      fields.set col_def.column_name (.choice DATA_TYPES)) fields).get? name = some field →
      fields.get? name = some field ∨ field = .choice DATA_TYPES
  | [], _, h => .inl h
  | col_def :: columns, fields, h => by
      rw [List.foldl_cons] at h
      rcases of_get?_fields h with h | h
      · rw [Dict.get?_set] at h
        split at h
        next => exact .inr (Option.some.inj h).symm
        next => exact .inl h
      · exact .inr h

theorem stripSpace_of_mem_dataTypes : ∀ s ∈ DATA_TYPES, stripSpace s = s := by decide

theorem cleaned_schema {columns : List ColumnDefinition} {schema : Str}
    (h : (full_clean lib w user (CreateTableDataTypesForm.fields columns) data).result = .ok form)
    (hschema : form.text "schema" = .ok schema) :
    schema = stripSpace ((data.get? "schema").getD []) := by
  obtain ⟨field, hmem, hfield⟩ := of_text_full_clean h hschema
  unfold clean_field at hfield
  split at hfield
  next => cases hfield
  next value hclean =>
      rw [if_neg (by decide)] at hfield
      cases hfield
      rcases of_get?_fields hmem with hmem | rfl
      · obtain rfl : Field.char [] = field := Option.some.inj hmem
        unfold Field.clean at hclean
        dsimp only at hclean
        split at hclean
        next => cases hclean
        next =>
            split at hclean
            next =>
                cases hclean
                rfl
            next => cases hclean
      · unfold Field.clean at hclean
        dsimp only at hclean
        split at hclean
        next => cases hclean
        next =>
            split at hclean
            next hcontains =>
                cases hclean
                exact (stripSpace_of_mem_dataTypes _ (List.contains_iff_mem.mp hcontains)).symm
            next => cases hclean

theorem mem_log_clean_path {path : Str} {e : Effect} (h : e ∈ (clean_path lib w user path).log) :
    Permitted lib w user e := by
  unfold clean_path at h
  split at h
  next => cases h
  next hown =>
      split at h
      next => cases h
      next =>
          rcases Logged.mem_log_bind.mp h with h | ⟨found, _, h⟩
          · obtain rfl := List.mem_singleton.mp h
            show startswith path ( get_s3_prefix lib user.sso_id) = true
            simpa using hown
          · split at h
            next => cases h
            next => cases h

theorem mem_log_clean_field {name : Str} {field : Field} {posted : Option Str} {e : Effect}
    (h : e ∈ (clean_field lib w user name field posted).log) : Permitted lib w user e := by
  unfold clean_field at h
  split at h
  next => cases h
  next value _ =>
      split at h
      next =>
          cases value with
          | str path => exact mem_log_clean_path h
          | bool b => cases h
          | None => cases h
      next => cases h

theorem mem_log_clean_fields {e : Effect} : ∀ {fields : List (Str × Field)},
    e ∈ (_clean_fields lib w user data fields).log → Permitted lib w user e
  | [], h => by cases h
  | (name, field) :: fields, h => by
      rcases Logged.mem_log_bind.mp h with h | ⟨cleaned, _, h⟩
      · exact mem_log_clean_field h
      · rcases Logged.mem_log_bind.mp h with h | ⟨rest, _, h⟩
        · exact mem_log_clean_fields h
        · cases cleaned with
          | error errors => cases h
          | ok value => cases h

theorem log_clean (w : World) (form : Cleaned) : (clean w form).log = [] := by
  unfold clean
  split
  next => rfl
  next =>
      split
      next =>
          refine Logged.log_bind_nil rfl fun table_name => Logged.log_bind_nil rfl fun schema =>
            Logged.log_bind_nil rfl fun found => ?_
          split
          next => rfl
          next => rfl
      next => rfl

theorem mem_log_full_clean {fields : Dict Str Field} {e : Effect}
    (h : e ∈ (full_clean lib w user fields data).log) : Permitted lib w user e := by
  rcases Logged.mem_log_bind.mp h with h | ⟨cleaned, _, h⟩
  · exact mem_log_clean_fields h
  · rw [log_clean] at h
    cases h

end Forms

/-! ## The page of the types -/

section DataTypes

open CreateTableConfirmDataTypesView

variable {lib DATAFLOW_IMPORTS_BUCKET_ROOT w user} {request : Request} {form : Cleaned} {e : Effect}

/-- Whether the initial values are all in the query. -/
def Asked (request : Request) : Prop :=
  request.method = .GET →
    request.GET.contains "schema" = true ∧ request.GET.contains "table_name" = true

theorem result_item {q : QueryDict} {name value : Str} :
    (q.item name).result = .ok value ↔ q.get? name = some value := by
  unfold QueryDict.item
  cases q.get? name with
  | none => exact ⟨fun h => (by cases h), fun h => (by cases h)⟩
  | some v =>
      constructor
      · intro h
        cases h
        rfl
      · intro h
        cases h
        rfl

theorem log_item (q : QueryDict) (name : Str) : (q.item name).log = [] := by
  unfold QueryDict.item
  cases q.get? name with
  | none => rfl
  | some v => rfl

theorem log_get_initial (request : Request) : (get_initial request).log = [] := by
  unfold get_initial
  split
  next =>
      exact Logged.log_bind_nil (log_item ..) fun path => Logged.log_bind_nil (log_item ..)
        fun schema => Logged.log_bind_nil (log_item ..) fun table_name => rfl
  next => rfl

theorem contains_iff {q : QueryDict} {name : Str} :
    q.contains name = true ↔ ∃ value, q.get? name = some value := Option.isSome_iff_exists

theorem get_initial_ok_iff : (∃ initial, (get_initial request).result = .ok initial) ↔
    (request.method = .GET → request.GET.contains "path" = true) ∧ Asked request := by
  unfold get_initial Asked
  split
  next hget =>
      constructor
      · rintro ⟨initial, h⟩
        obtain ⟨path, hpath, h⟩ := Logged.result_bind_ok.mp h
        obtain ⟨schema, hschema, h⟩ := Logged.result_bind_ok.mp h
        obtain ⟨table_name, htable, _⟩ := Logged.result_bind_ok.mp h
        exact ⟨fun _ => contains_iff.mpr ⟨path, result_item.mp hpath⟩,
          fun _ => ⟨contains_iff.mpr ⟨schema, result_item.mp hschema⟩,
            contains_iff.mpr ⟨table_name, result_item.mp htable⟩⟩⟩
      · rintro ⟨hpath, hrest⟩
        obtain ⟨path, hpath⟩ := contains_iff.mp (hpath hget)
        obtain ⟨schema, hschema⟩ := contains_iff.mp (hrest hget).1
        obtain ⟨table_name, htable⟩ := contains_iff.mp (hrest hget).2
        exact ⟨_, Logged.result_bind_ok.mpr ⟨path, result_item.mpr hpath,
          Logged.result_bind_ok.mpr ⟨schema, result_item.mpr hschema,
            Logged.result_bind_ok.mpr ⟨table_name, result_item.mpr htable, rfl⟩⟩⟩⟩
  next hget => exact ⟨fun _ => ⟨fun h => absurd h hget, fun h => absurd h hget⟩, fun _ => ⟨_, rfl⟩⟩

theorem mem_log_column_types {n : Nat} {path : Str} :
    e ∈ (get_s3_csv_column_types lib w n path).log ↔ e = .get_object path := by
  constructor
  · intro h
    rcases Logged.mem_log_bind.mp h with h | ⟨rows, _, h⟩
    · exact List.mem_singleton.mp h
    · split at h
      next => cases h
      next =>
          rcases Logged.mem_log_bind.mp h with h | ⟨fields, _, h⟩
          · cases h
          · cases h
  · rintro rfl
    exact Logged.mem_log_bind.mpr (.inl List.mem_cons_self)

theorem mem_log_get_form : e ∈ (get_form lib w request).log ↔
    Asked request ∧ ∃ path, request.GET.get? "path" = some path ∧ e = .get_object path := by
  constructor
  · intro h
    rcases Logged.mem_log_bind.mp h with h | ⟨initial, hinitial, h⟩
    · rw [log_get_initial] at h
      cases h
    · refine ⟨(get_initial_ok_iff.mp ⟨initial, hinitial⟩).2, ?_⟩
      rcases Logged.mem_log_bind.mp h with h | ⟨path, hpath, h⟩
      · rw [log_item] at h
        cases h
      · refine ⟨path, result_item.mp hpath, ?_⟩
        rcases Logged.mem_log_bind.mp h with h | ⟨columns, _, h⟩
        · exact mem_log_column_types.mp h
        · split at h
          next => cases h
          next => cases h
  · rintro ⟨hasked, path, hpath, rfl⟩
    obtain ⟨initial, hinitial⟩ := get_initial_ok_iff.mpr
      ⟨fun _ => contains_iff.mpr ⟨path, hpath⟩, hasked⟩
    exact Logged.mem_log_bind.mpr (.inr ⟨initial, hinitial, Logged.mem_log_bind.mpr
      (.inr ⟨path, result_item.mpr hpath,
        Logged.mem_log_bind.mpr (.inl (mem_log_column_types.mpr rfl))⟩)⟩)

theorem mem_log_prepare (h : e ∈ (prepare lib DATAFLOW_IMPORTS_BUCKET_ROOT w user form).log) :
    ∃ path, form.text "path" = .ok path ∧
      (e = .get_object path ∨ e = .copy_object path (DATAFLOW_IMPORTS_BUCKET_ROOT ++ "/" ++ path)) := by
  rcases Logged.mem_log_bind.mp h with h | ⟨_, _, h⟩
  · cases h
  · rcases Logged.mem_log_bind.mp h with h | ⟨path, hpath, h⟩
    · cases h
    · refine ⟨path, hpath, ?_⟩
      rcases Logged.mem_log_bind.mp h with h | ⟨columns, _, h⟩
      · exact .inl (mem_log_column_types.mp h)
      · rcases Logged.mem_log_bind.mp h with h | ⟨definitions, _, h⟩
        · cases h
        · rcases Logged.mem_log_bind.mp h with h | ⟨_, _, h⟩
          · exact .inr (List.mem_singleton.mp h)
          · rcases Logged.mem_log_bind.mp h with h | ⟨schema, _, h⟩
            · cases h
            · rcases Logged.mem_log_bind.mp h with h | ⟨table_name, _, h⟩
              · cases h
              · cases h

theorem prepare_ok {conf : Conf}
    (h : (prepare lib DATAFLOW_IMPORTS_BUCKET_ROOT w user form).result = .ok conf) :
    (∃ path, form.text "path" = .ok path) ∧ form.text "schema" = .ok conf.schema_name ∧
      conf.db_role = conf.schema_name := by
  obtain ⟨_, _, h⟩ := Logged.result_bind_ok.mp h
  obtain ⟨path, hpath, h⟩ := Logged.result_bind_ok.mp h
  obtain ⟨columns, _, h⟩ := Logged.result_bind_ok.mp h
  obtain ⟨definitions, _, h⟩ := Logged.result_bind_ok.mp h
  obtain ⟨_, _, h⟩ := Logged.result_bind_ok.mp h
  obtain ⟨schema, hschema, h⟩ := Logged.result_bind_ok.mp h
  obtain ⟨table_name, _, h⟩ := Logged.result_bind_ok.mp h
  cases h
  exact ⟨⟨path, hpath⟩, hschema, rfl⟩

theorem mem_log_form_valid :
    e ∈ (form_valid lib DATAFLOW_IMPORTS_BUCKET_ROOT w user form).log ↔
      e ∈ (prepare lib DATAFLOW_IMPORTS_BUCKET_ROOT w user form).log ∨
        ∃ conf, (prepare lib DATAFLOW_IMPORTS_BUCKET_ROOT w user form).result = .ok conf ∧
          e = .trigger (conf.schema_name ++ "-" ++ conf.table_name ++ "-" ++ w.now) conf := by
  constructor
  · intro h
    rcases Logged.mem_log_bind.mp h with h | ⟨conf, hconf, h⟩
    · exact .inl h
    · rcases Logged.mem_log_bind.mp h with h | ⟨path, _, h⟩
      · cases h
      · exact .inr ⟨conf, hconf, List.mem_singleton.mp h⟩
  · rintro (h | ⟨conf, hconf, rfl⟩)
    · exact Logged.mem_log_bind.mpr (.inl h)
    · obtain ⟨path, hpath⟩ := (prepare_ok hconf).1
      exact Logged.mem_log_bind.mpr (.inr ⟨conf, hconf,
        Logged.mem_log_bind.mpr (.inr ⟨path, hpath, List.mem_cons_self⟩)⟩)

theorem posted_form (h : (posted lib w user request).result = .ok form) : ∃ columns,
    (full_clean lib w user (CreateTableDataTypesForm.fields columns) request.data).result = .ok form := by
  obtain ⟨got, _, h⟩ := Logged.result_bind_ok.mp h
  exact ⟨got.2, h⟩

theorem mem_log_post : e ∈ (post lib DATAFLOW_IMPORTS_BUCKET_ROOT w user request).log ↔
    e ∈ (posted lib w user request).log ∨ ∃ form, (posted lib w user request).result = .ok form ∧
      is_valid form = true ∧ e ∈ (form_valid lib DATAFLOW_IMPORTS_BUCKET_ROOT w user form).log := by
  refine Logged.mem_log_bind.trans (or_congr_right (exists_congr fun form =>
    and_congr_right fun _ => ?_))
  by_cases hvalid : is_valid form = true
  · rw [if_pos hvalid]
    exact ⟨fun h => ⟨hvalid, h⟩, And.right⟩
  · rw [if_neg hvalid]
    exact ⟨fun h => absurd h List.not_mem_nil, fun h => absurd h.1 hvalid⟩

theorem mem_log_posted (h : e ∈ (posted lib w user request).log) :
    e ∈ (get_form lib w request).log ∨ Permitted lib w user e := by
  rcases Logged.mem_log_bind.mp h with h | ⟨got, _, h⟩
  · exact .inl h
  · exact .inr (mem_log_full_clean h)

theorem permitted_get_form_iff : (∀ e ∈ (get_form lib w request).log, Permitted lib w user e) ↔
    (Asked request → ∀ path, request.GET.get? "path" = some path → OwnObject lib user path) := by
  constructor
  · exact fun h hasked path hpath => h _ (mem_log_get_form.mpr ⟨hasked, path, hpath, rfl⟩)
  · intro h e he
    obtain ⟨hasked, path, hpath, rfl⟩ := mem_log_get_form.mp he
    exact h hasked path hpath

theorem permitted_form_valid_iff (h : (posted lib w user request).result = .ok form) :
    (∀ e ∈ (form_valid lib DATAFLOW_IMPORTS_BUCKET_ROOT w user form).log, Permitted lib w user e) ↔
      ((∃ conf, (prepare lib DATAFLOW_IMPORTS_BUCKET_ROOT w user form).result = .ok conf) →
        OwnSchema lib w user (postedSchema request)) := by
  obtain ⟨columns, hclean⟩ := posted_form h
  constructor
  · rintro hall ⟨conf, hconf⟩
    have hschema := cleaned_schema hclean (prepare_ok hconf).2.1
    have hown := hall _ (mem_log_form_valid.mpr (.inr ⟨conf, hconf, rfl⟩))
    rw [postedSchema, ← hschema]
    exact hown.1
  · intro hown e he
    rcases mem_log_form_valid.mp he with he | ⟨conf, hconf, rfl⟩
    · obtain ⟨path, hpath, rfl | rfl⟩ := mem_log_prepare he
      · exact cleaned_path hclean hpath
      · exact cleaned_path hclean hpath
    · obtain ⟨_, hschema, hrole⟩ := prepare_ok hconf
      have hposted := hown ⟨conf, hconf⟩
      rw [postedSchema, ← cleaned_schema hclean hschema] at hposted
      exact ⟨hposted, hrole ▸ hposted⟩

theorem permitted_post_iff :
    (∀ e ∈ (post lib DATAFLOW_IMPORTS_BUCKET_ROOT w user request).log, Permitted lib w user e) ↔
      (Asked request → ∀ path, request.GET.get? "path" = some path → OwnObject lib user path) ∧
        ((∃ form, (posted lib w user request).result = .ok form ∧ is_valid form = true ∧
          ∃ conf, (prepare lib DATAFLOW_IMPORTS_BUCKET_ROOT w user form).result = .ok conf) →
            OwnSchema lib w user (postedSchema request)) := by
  constructor
  · intro h
    refine ⟨permitted_get_form_iff.mp fun e he =>
      h e (mem_log_post.mpr (.inl (Logged.mem_log_bind.mpr (.inl he)))), ?_⟩
    rintro ⟨form, hform, hvalid, hconf⟩
    exact (permitted_form_valid_iff hform).mp
      (fun e he => h e (mem_log_post.mpr (.inr ⟨form, hform, hvalid, he⟩))) hconf
  · rintro ⟨hpath, hschema⟩ e he
    rcases mem_log_post.mp he with he | ⟨form, hform, hvalid, he⟩
    · rcases mem_log_posted he with he | he
      · exact permitted_get_form_iff.mpr hpath e he
      · exact he
    · exact (permitted_form_valid_iff hform).mpr
        (fun hconf => hschema ⟨form, hform, hvalid, hconf⟩) e he

end DataTypes

/-! ## The other pages -/

section Pages

variable {lib DATAFLOW_IMPORTS_BUCKET_ROOT w user} {request : Request} {get post : Act Response}

theorem mem_log_template {e : Effect} (h : e ∈ (TemplateView.dispatch request get).log) :
    e ∈ get.log := by
  unfold TemplateView.dispatch at h
  split at h
  next => exact h
  next => exact h
  next => cases h
  next => cases h

theorem mem_log_form {e : Effect} (h : e ∈ (FormView.dispatch request get post).log) :
    e ∈ get.log ∨ e ∈ post.log := by
  unfold FormView.dispatch at h
  split at h
  next => exact .inl h
  next => exact .inl h
  next => exact .inr h
  next => exact .inr h
  next => cases h
  next => cases h

theorem log_required {parameters : List Str} (h : get.log = []) :
    (RequiredParameterGetRequestMixin.get parameters request get).log = [] := by
  unfold RequiredParameterGetRequestMixin.get
  split
  next => rfl
  next => exact h

theorem log_confirm_get (lib : Library) (w : World) (user : User) (request : Request) :
    (CreateTableView.get lib w user request).log = [] :=
  log_required (Logged.log_bind_nil (log_item ..) fun _ => rfl)

theorem log_schema_get (request : Request) : (CreateTableConfirmSchemaView.get request).log = [] := by
  unfold CreateTableConfirmSchemaView.get
  split
  next => exact Logged.log_bind_nil (log_item ..) fun path => rfl
  next => rfl

theorem log_schema_form_valid (form : Cleaned) :
    (CreateTableConfirmSchemaView.form_valid lib w user request form).log = [] := by
  refine Logged.log_bind_nil rfl fun team => Logged.log_bind_nil (log_item ..) fun path => ?_
  split
  next => rfl
  next => rfl

theorem permitted_schema_post {e : Effect}
    (h : e ∈ (CreateTableConfirmSchemaView.post lib w user request).log) :
    Permitted lib w user e := by
  rcases Logged.mem_log_bind.mp h with h | ⟨form, _, h⟩
  · exact mem_log_clean_fields h
  · split at h
    next =>
        rw [log_schema_form_valid] at h
        cases h
    next => cases h

theorem log_name_get (lib : Library) (user : User) (request : Request) :
    (CreateTableConfirmNameView.get lib user request).log = [] := by
  refine log_required ?_
  split
  next => exact Logged.log_bind_nil (log_item ..) fun path => rfl
  next => rfl

theorem log_name_form_valid (form : Cleaned) : (CreateTableConfirmNameView.form_valid form).log = [] :=
  Logged.log_bind_nil rfl fun _ => Logged.log_bind_nil rfl fun _ => Logged.log_bind_nil rfl fun _ =>
    Logged.log_bind_nil rfl fun _ => rfl

theorem log_name_form_invalid (request : Request) (form : Cleaned) :
    (CreateTableConfirmNameView.form_invalid request form).log = [] := by
  unfold CreateTableConfirmNameView.form_invalid
  split
  next => exact Logged.log_bind_nil (log_item ..) fun path => rfl
  next =>
      split
      next =>
          exact Logged.log_bind_nil rfl fun path => Logged.log_bind_nil (log_item ..) fun _ => rfl
      next => rfl

theorem permitted_name_post {e : Effect}
    (h : e ∈ (CreateTableConfirmNameView.post lib w user request).log) : Permitted lib w user e := by
  rcases Logged.mem_log_bind.mp h with h | ⟨form, _, h⟩
  · exact mem_log_full_clean h
  · split at h
    next =>
        rw [log_name_form_valid] at h
        cases h
    next =>
        rw [log_name_form_invalid] at h
        cases h

theorem permitted_of_log_nil {x : Act Response} (hx : x.log = []) {e : Effect} (h : e ∈ x.log) :
    Permitted lib w user e := by
  rw [hx] at h
  cases h

theorem permitted_of_page_ne {e : Effect} (hpage : request.page ≠ .confirm_data_types)
    (h : e ∈ (serve lib DATAFLOW_IMPORTS_BUCKET_ROOT w user request).log) :
    Permitted lib w user e := by
  unfold serve at h
  split at h
  next => exact permitted_of_log_nil (log_confirm_get lib w user request) (mem_log_template h)
  next =>
      rcases mem_log_form h with h | h
      · exact permitted_of_log_nil (log_schema_get request) h
      · exact permitted_schema_post h
  next =>
      rcases mem_log_form h with h | h
      · exact permitted_of_log_nil (log_name_get lib user request) h
      · exact permitted_name_post h
  next hdata => exact absurd hdata hpage
  next => exact permitted_of_log_nil (log_required rfl) (mem_log_template h)
  next => exact permitted_of_log_nil (log_required rfl) (mem_log_template h)
  next => exact permitted_of_log_nil (log_required rfl) (mem_log_template h)
  next => exact permitted_of_log_nil (log_required rfl) (mem_log_template h)
  next => exact permitted_of_log_nil (log_required rfl) (mem_log_template h)
  next => exact permitted_of_log_nil (log_required rfl) (mem_log_template h)
  next => exact permitted_of_log_nil (log_required rfl) (mem_log_template h)

end Pages

/-! ## Sequences of requests -/

section Sequences

variable {lib DATAFLOW_IMPORTS_BUCKET_ROOT w user} {request : Request}

theorem reads_iff (hpage : request.page = .confirm_data_types)
    (hmethod : request.method = .GET ∨ request.method = .HEAD ∨ request.method = .POST ∨
      request.method = .PUT) : Reads request ↔ Asked request := by
  unfold Reads Asked
  rcases hmethod with hmethod | hmethod | hmethod | hmethod
  · simp [hpage, hmethod]
  · simp [hpage, hmethod]
  · simp [hpage, hmethod]
  · simp [hpage, hmethod]

theorem fits_of_get (hpage : request.page = .confirm_data_types)
    (hmethod : request.method = .GET ∨ request.method = .HEAD) :
    Fits lib DATAFLOW_IMPORTS_BUCKET_ROOT w user request ↔
      (Asked request → ∀ path, request.GET.get? "path" = some path → OwnObject lib user path) := by
  have hreads : Reads request ↔ Asked request :=
    reads_iff hpage (hmethod.imp_right Or.inl)
  constructor
  · exact fun h hasked => h.path (hreads.mpr hasked)
  · refine fun h => ⟨fun hread => h (hreads.mp hread), ?_⟩
    rintro ⟨_, hpost, _⟩
    rcases hmethod with hmethod | hmethod
    · rcases hpost with hpost | hpost
      · cases hmethod.symm.trans hpost
      · cases hmethod.symm.trans hpost
    · rcases hpost with hpost | hpost
      · cases hmethod.symm.trans hpost
      · cases hmethod.symm.trans hpost

theorem fits_of_post (hpage : request.page = .confirm_data_types)
    (hmethod : request.method = .POST ∨ request.method = .PUT) :
    Fits lib DATAFLOW_IMPORTS_BUCKET_ROOT w user request ↔
      (Asked request → ∀ path, request.GET.get? "path" = some path → OwnObject lib user path) ∧
        ((∃ form, (CreateTableConfirmDataTypesView.posted lib w user request).result = .ok form ∧
          is_valid form = true ∧ ∃ conf, (CreateTableConfirmDataTypesView.prepare lib
            DATAFLOW_IMPORTS_BUCKET_ROOT w user form).result = .ok conf) →
            OwnSchema lib w user (postedSchema request)) := by
  have hreads : Reads request ↔ Asked request := reads_iff hpage (.inr (.inr hmethod))
  constructor
  · exact fun h => ⟨fun hasked => h.path (hreads.mpr hasked),
      fun hform => h.schema ⟨hpage, hmethod, hform⟩⟩
  · rintro ⟨hpath, hschema⟩
    refine ⟨fun hread => hpath (hreads.mp hread), ?_⟩
    rintro ⟨_, _, hform⟩
    exact hschema hform

theorem permitted_iff_fits (request : Request) :
    (∀ e ∈ (serve lib DATAFLOW_IMPORTS_BUCKET_ROOT w user request).log, Permitted lib w user e) ↔
      Fits lib DATAFLOW_IMPORTS_BUCKET_ROOT w user request := by
  by_cases hpage : request.page = .confirm_data_types
  · have hserve : serve lib DATAFLOW_IMPORTS_BUCKET_ROOT w user request =
        FormView.dispatch request (CreateTableConfirmDataTypesView.get lib w request)
          (CreateTableConfirmDataTypesView.post lib DATAFLOW_IMPORTS_BUCKET_ROOT w user request) := by
      rw [serve, hpage]
    have hget : (CreateTableConfirmDataTypesView.get lib w request).log =
        (CreateTableConfirmDataTypesView.get_form lib w request).log :=
      Logged.log_bind_right fun form => rfl
    have hother (hreads : ¬ Reads request)
        (hpost : ¬ (request.method = .POST ∨ request.method = .PUT)) :
        Fits lib DATAFLOW_IMPORTS_BUCKET_ROOT w user request :=
      ⟨fun hread => absurd hread hreads, fun htriggers => absurd htriggers.2.1 hpost⟩
    rw [hserve, FormView.dispatch]
    cases hmethod : request.method with
    | GET => exact hget ▸ permitted_get_form_iff.trans (fits_of_get hpage (.inl hmethod)).symm
    | HEAD => exact hget ▸ permitted_get_form_iff.trans (fits_of_get hpage (.inr hmethod)).symm
    | POST => exact permitted_post_iff.trans (fits_of_post hpage (.inl hmethod)).symm
    | PUT => exact permitted_post_iff.trans (fits_of_post hpage (.inr hmethod)).symm
    | OPTIONS =>
        exact ⟨fun _ => hother (by simp [Reads, hmethod]) (by simp [hmethod]), fun _ _ he => by cases he⟩
    | DELETE =>
        exact ⟨fun _ => hother (by simp [Reads, hmethod]) (by simp [hmethod]), fun _ _ he => by cases he⟩
    | other =>
        exact ⟨fun _ => hother (by simp [Reads, hmethod]) (by simp [hmethod]), fun _ _ he => by cases he⟩
  · refine ⟨fun _ => ⟨fun hreads => absurd hreads.1 hpage, fun htriggers => absurd htriggers.1 hpage⟩,
      fun _ e he => permitted_of_page_ne hpage he⟩

end Sequences

/-- A request, with its user and what answers at the time. -/
structure Asking where
  world : World
  user : User
  request : Request

/-- For any sequence of requests, what they do is permitted exactly if they all fit. -/
theorem effects_permitted_iff (requests : List Asking) :
    (∀ r ∈ requests, ∀ e ∈ (serve lib DATAFLOW_IMPORTS_BUCKET_ROOT r.world r.user r.request).log,
      Permitted lib r.world r.user e) ↔
      ∀ r ∈ requests, Fits lib DATAFLOW_IMPORTS_BUCKET_ROOT r.world r.user r.request :=
  forall₂_congr fun r _ => permitted_iff_fits r.request

/-! ## A file and a schema of others -/

def digests : Library where
  isWord c := c.isAlphanum || c == '_'
  lower := lower
  sha256 s :=
    if s = "alice" then "2bd806c97f0e00af1a1fc3328fa763a9269723c8db8fac4f93af71db186d6e90"
    else if s = "bob" then "81b637d8fcd2c6da6359e6963113a1170de795e4b725b84d1e0b4cfd9ec58ce9"
    else []
  infer rows := .ok ([("id", "integer")], rows.tail)

/-- Nobody is in a team, and every object has one column and three rows. -/
def answers : World where
  teams _ := []
  table_exists _ _ := .ok false
  head_object _ := .ok true
  get_object _ _ := .ok [["id"], ["1"], ["2"], ["3"]]
  new_private_database_credentials _ := .ok ()
  copy_object _ _ := .ok ()
  trigger _ _ := .ok "2023-01-01T00:00:00"
  now := "2023-01-01T00:00:00"

def bob : User := ⟨"bob"⟩

def fileOfAlice : Str := get_s3_prefix digests "alice" ++ "salaries.csv"

def fileOfBob : Str := get_s3_prefix digests "bob" ++ "salaries.csv"

/-- The path of another user in the query. -/
def readingOther : Request where
  method := .GET
  page := .confirm_data_types
  GET := [("path", fileOfAlice), ("schema", get_schema_for_user digests bob), ("table_name", "salaries")]
  POST := []

/-- The schema of a team in the hidden field. -/
def writingOther : Request where
  method := .POST
  page := .confirm_data_types
  GET := [("path", fileOfBob)]
  POST := [("path", fileOfBob), ("schema", "_team_finance"), ("table_name", "salaries"),
    ("id", "integer")]

def confOther : Conf where
  db_role := "_team_finance"
  file_path := "imports/" ++ fileOfBob
  schema_name := "_team_finance"
  table_name := "salaries"
  column_definitions := [⟨"id", "id", "integer", ["1", "2"]⟩]

theorem file_and_schema_of_others :
    (∃ e ∈ (serve digests "imports" answers bob readingOther).log,
        ¬ Permitted digests answers bob e) ∧
      ∃ e ∈ (serve digests "imports" answers bob writingOther).log,
        ¬ Permitted digests answers bob e := by
  refine ⟨⟨.get_object fileOfAlice, by decide +kernel, fun h => ?_⟩,
    ⟨.trigger "_team_finance-salaries-2023-01-01T00:00:00" confOther, by decide +kernel, ?_⟩⟩
  · have hown : startswith fileOfAlice ( get_s3_prefix digests bob.sso_id) = true := h
    exact absurd hown (by decide +kernel)
  · rintro ⟨hschema | ⟨team, hteam, _⟩, _⟩
    · have hprivate : confOther.schema_name = get_schema_for_user digests bob := hschema
      exact absurd hprivate (by decide +kernel)
    · cases hteam

end YourFiles
