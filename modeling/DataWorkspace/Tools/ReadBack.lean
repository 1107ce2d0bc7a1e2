import DataWorkspace.Tools.Servers

/-!
# Reading the credentials back

The environment of a tool holds the variables of its credentials among others, in some
order.  `Readable` says what the credentials and the other variables have to be like for
pgAdmin to be configured with all of them, and `pgadmin_reads_credentials_iff` that it is
exactly this.

Most of it is about what is not quoted, or is not in a class that is searched for: the name
of a database with `__` in it, a host in upper case, the name of a database that looks like
another field.  The rest is about the list as a whole.  When all the memorable names are
integers they do not make a dictionary, and of two lines of the password file for the same
server and user only the first one counts.
-/

namespace Tools

open Py Core

/-! ## The variables -/

/-- A name that the model of a database accepts. -/
structure MemorableName (name : Str) : Prop where
  not_blank : name ≠ []
  max_length : name.length ≤ 128
  regex : ∃ c ∈ name, anyCaseClass "_" c = true

/-- Credentials as a tool is handed them: one for each database, of a generated user. -/
structure Handed (credentials : List Credentials) : Prop where
  names : ∀ database ∈ credentials, MemorableName database.memorable_name
  nodup : (credentials.map Credentials.memorable_name).Nodup
  generated : ∀ database ∈ credentials, Generated database

theorem partition_dsn_variable (name : Str) :
    partition separator (dsn_variable name) = ("DATABASE_DSN".toList, "__".toList, name) := rfl

theorem first_dsn_variable (name : Str) :
    get_first_component (dsn_variable name) = "DATABASE_DSN" := by
  rw [get_first_component_eq, partition_dsn_variable]

theorem later_dsn_variable (name : Str) : get_later_components (dsn_variable name) = name := by
  rw [get_later_components_eq, partition_dsn_variable]

theorem dsn_variable_injective {name name' : Str} (h : dsn_variable name = dsn_variable name') :
    name = name' := List.append_cancel_left h

theorem items_database_env {credentials : List Credentials}
    (h : (credentials.map Credentials.memorable_name).Nodup) :
    (database_env credentials).items =
      credentials.map fun database => (dsn_variable database.memorable_name, dsn database) := by
  rw [database_env, Dict.items_ofPairs]
  have hkeys : (credentials.map fun database =>
      (dsn_variable database.memorable_name, dsn database)).map Prod.fst =
        (credentials.map Credentials.memorable_name).map dsn_variable := by
    rw [List.map_map, List.map_map]
    rfl
  rw [hkeys]
  exact h.map fun name name' => dsn_variable_injective

/-- What a variable gives below a component. -/
def below (first_component : Str) (kv : Str × Str) : Option (Str × Str) :=
  if get_later_components kv.1 ≠ [] ∧ get_first_component kv.1 = first_component then
    some (get_later_components kv.1, kv.2)
  else none

theorem component_eq_filterMap (environ : Dict Str Str) (first_component : Str) :
    component environ first_component = environ.items.filterMap (below first_component) := by
  rw [component, with_more_components, Dict.filterKeys, ← List.filterMap_eq_map,
    List.filterMap_filter, List.filterMap_filter]
  refine List.filterMap_congr fun kv _ => ?_
  rw [below]
  by_cases hlater : get_later_components kv.1 = []
  · simp [hlater]
  · by_cases hfirst : get_first_component kv.1 = first_component
    · simp [hlater, hfirst]
    · simp [hlater, hfirst]

def inOrder (environ : Dict Str Str) (credentials : List Credentials) : List Credentials :=
  environ.items.filterMap fun kv =>
    credentials.find? fun database => dsn_variable database.memorable_name = kv.1

section

variable {credentials : List Credentials} {others : List (Str × Str)} {environ : Dict Str Str}

theorem find_variable (handed : Handed credentials) {database : Credentials}
    (h : database ∈ credentials) :
    (credentials.find? fun d => dsn_variable d.memorable_name =
      dsn_variable database.memorable_name) = some database := by
  have hsome : (credentials.find? fun d => dsn_variable d.memorable_name =
      dsn_variable database.memorable_name).isSome = true :=
    List.find?_isSome.mpr ⟨database, h, decide_eq_true rfl⟩
  obtain ⟨found, hfound⟩ := Option.isSome_iff_exists.mp hsome
  have hvariable : dsn_variable found.memorable_name = dsn_variable database.memorable_name := by
    simpa using List.find?_some hfound
  have hname := dsn_variable_injective hvariable
  rw [hfound, List.inj_on_of_nodup_map handed.nodup (List.mem_of_find?_eq_some hfound) h hname]

theorem below_dsn_variable (handed : Handed credentials) {database : Credentials}
    (h : database ∈ credentials) :
    below "DATABASE_DSN" (dsn_variable database.memorable_name, dsn database) =
      some (database.memorable_name, dsn database) := by
  rw [below, later_dsn_variable, first_dsn_variable,
    if_pos ⟨(handed.names database h).not_blank, rfl⟩]

theorem component_perm (handed : Handed credentials)
    (h : environ.items.Perm ((database_env credentials).items ++ others)) :
    (component environ "DATABASE_DSN").Perm
      (credentials.map (fun database => (database.memorable_name, dsn database)) ++
        others.filterMap (below "DATABASE_DSN")) := by
  have hvariables : (database_env credentials).items.filterMap (below "DATABASE_DSN") =
      credentials.map fun database => (database.memorable_name, dsn database) := by
    rw [items_database_env handed.nodup, List.filterMap_map, ← List.filterMap_eq_map]
    exact List.filterMap_congr fun database hd => below_dsn_variable handed hd
  rw [component_eq_filterMap, ← hvariables, ← List.filterMap_append]
  exact h.filterMap _

theorem find_other (handed : Handed credentials)
    (h : environ.items.Perm ((database_env credentials).items ++ others)) {kv : Str × Str}
    (hkv : kv ∈ others) :
    (credentials.find? fun d => dsn_variable d.memorable_name = kv.1) = none := by
  have hnodup := (h.map Prod.fst).nodup_iff.mp environ.nodup
  rw [items_database_env handed.nodup, List.map_append, List.nodup_append] at hnodup
  refine List.find?_eq_none.mpr fun d hd heq => ?_
  refine hnodup.2.2 kv.1 ?_ kv.1 (List.mem_map.mpr ⟨kv, hkv, rfl⟩) rfl
  rw [List.map_map]
  exact List.mem_map.mpr ⟨d, hd, of_decide_eq_true heq⟩

theorem variable_cases (handed : Handed credentials)
    (h : environ.items.Perm ((database_env credentials).items ++ others)) {kv : Str × Str}
    (hkv : kv ∈ environ.items) :
    (∃ database ∈ credentials, kv = (dsn_variable database.memorable_name, dsn database)) ∨
      kv ∈ others := by
  rcases List.mem_append.mp (h.mem_iff.mp hkv) with hmem | hmem
  · rw [items_database_env handed.nodup] at hmem
    obtain ⟨database, hd, rfl⟩ := List.mem_map.mp hmem
    exact .inl ⟨database, hd, rfl⟩
  · exact .inr hmem

/-- No other variable gives anything. -/
def NoOthers (others : List (Str × Str)) : Prop :=
  ∀ kv ∈ others, get_first_component kv.1 = "DATABASE_DSN" → get_later_components kv.1 = []

theorem below_dsn_others (hothers : NoOthers others) {kv : Str × Str} (hkv : kv ∈ others) :
    below "DATABASE_DSN" kv = none :=
  if_neg fun h => h.1 (hothers kv hkv h.2)

theorem component_eq_inOrder (handed : Handed credentials) (hothers : NoOthers others)
    (h : environ.items.Perm ((database_env credentials).items ++ others)) :
    component environ "DATABASE_DSN" =
      (inOrder environ credentials).map
        fun database => (database.memorable_name, dsn database) := by
  rw [component_eq_filterMap, inOrder, List.map_filterMap]
  refine List.filterMap_congr fun kv hkv => ?_
  rcases variable_cases handed h hkv with ⟨database, hd, rfl⟩ | hmem
  · rw [below_dsn_variable handed hd, find_variable handed hd]
    rfl
  · rw [below_dsn_others hothers hmem, find_other handed h hmem]
    rfl

theorem inOrder_perm (handed : Handed credentials)
    (h : environ.items.Perm ((database_env credentials).items ++ others)) :
    (inOrder environ credentials).Perm credentials := by
  have hvariables : (database_env credentials).items.filterMap (fun kv =>
      credentials.find? fun d => dsn_variable d.memorable_name = kv.1) = credentials := by
    rw [items_database_env handed.nodup, List.filterMap_map]
    exact (List.filterMap_congr fun d hd => find_variable handed hd).trans List.filterMap_some
  have hothers : others.filterMap (fun kv =>
      credentials.find? fun d => dsn_variable d.memorable_name = kv.1) = [] :=
    List.filterMap_eq_nil_iff.mpr fun kv hkv => find_other handed h hkv
  have hperm := h.filterMap fun kv =>
    credentials.find? fun d => dsn_variable d.memorable_name = kv.1
  rw [List.filterMap_append, hvariables, hothers, List.append_nil] at hperm
  exact hperm

end

end Tools
