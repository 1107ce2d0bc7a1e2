import DataWorkspace.Tools.Environment
import Mathlib.Data.List.Forall2

/-!
# Environments and what they are made of

A nested structure is written as environment variables, with one variable for each text in it:
the keys that lead to the text are joined by `__`, and a list has its positions for keys.
`normalise_environment` gives the structure back, but for dictionaries all of whose keys are
integers, which become lists (`Restores`).

`environment_round_trip` takes the variables in any order.
-/

namespace Tools

open Py

/-! ## Structures as variables -/

/-- A key of a dictionary that can be told from those around it. -/
structure Key (key : Str) : Prop where
  ne_nil : key ≠ []
  clear : ¬ separator <:+: key
  first : key.head? ≠ some '_'
  last : key.getLast? ≠ some '_'

instance (key : Str) : Decidable (Key key) :=
  decidable_of_iff (key ≠ [] ∧ ¬ separator <:+: key ∧ key.head? ≠ some '_' ∧
    key.getLast? ≠ some '_') ⟨fun ⟨h₁, h₂, h₃, h₄⟩ => ⟨h₁, h₂, h₃, h₄⟩,
      fun h => ⟨h.ne_nil, h.clear, h.first, h.last⟩⟩

/-- A structure with something at every node. -/
inductive WellFormed : Nested → Prop where
  | text (value : Str) : WellFormed (.text value)
  | dict {items : List (Str × Nested)} : items ≠ [] → (items.map Prod.fst).Nodup →
      (∀ kv ∈ items, Key kv.1) → (∀ kv ∈ items, WellFormed kv.2) → WellFormed (.dict items)
  | list {values : List Nested} : values ≠ [] → (∀ value ∈ values, WellFormed value) →
      WellFormed (.list values)

/-- The paths that begin with a key. -/
def under (key : Str) (paths : List (List Str × Str)) : List (List Str × Str) :=
  paths.map fun path => (key :: path.1, path.2)

mutual

/-- The texts of a structure, each with the keys that lead to it. -/
def paths : Nested → List (List Str × Str)
  | .text value => [([], value)]
  | .dict items => itemPaths items
  | .list values => valuePaths 0 values

def itemPaths : List (Str × Nested) → List (List Str × Str)
  | [] => []
  | (key, nested) :: items => under key (paths nested) ++ itemPaths items

def valuePaths : Nat → List Nested → List (List Str × Str)
  | _, [] => []
  | i, nested :: values => under (str i) (paths nested) ++ valuePaths (i + 1) values

end

/-- The variables of a structure. -/
def environment (nested : Nested) : List (Str × Str) :=
  (paths nested).map fun path => (join separator path.1, path.2)

/-- A structure is read as itself.  The items of a dictionary may come in another order, and a
dictionary whose keys are integers is read as the list of its values, in their order. -/
inductive Restores : Nested → Nested → Prop where
  | text (value : Str) : Restores (.text value) (.text value)
  | list {values values' : List Nested} : List.Forall₂ Restores values values' →
      Restores (.list values) (.list values')
  | dict {items items' restored : List (Str × Nested)} : all_keys_are_ints items = false →
      items'.map Prod.fst = items.map Prod.fst →
      List.Forall₂ Restores (items.map Prod.snd) (items'.map Prod.snd) →
      restored.Perm items' → Restores (.dict items) (.dict restored)
  | ints {items items' restored : List (Str × Nested)} : all_keys_are_ints items = true →
      items'.map Prod.fst = items.map Prod.fst →
      List.Forall₂ Restores (items.map Prod.snd) (items'.map Prod.snd) →
      restored.Perm items' →
      (restored.Pairwise fun a b => (integer? a.1).getD 0 ≤ (integer? b.1).getD 0) →
      Restores (.dict items) (.list (restored.map Prod.snd))

/-! ## Keys -/

theorem key_str (i : Nat) : Key (str i) := by
  have hno : '_' ∉ str i := by
    intro hmem
    have hdigit := isDigit_of_mem_str hmem
    revert hdigit
    decide
  constructor
  · exact str_ne_nil i
  · intro hsub
    exact hno (hsub.subset List.mem_cons_self)
  · intro hhead
    exact hno (List.mem_of_mem_head? hhead)
  · intro hlast
    exact hno (List.mem_of_getLast? hlast)

theorem Key.not_prefix {key : Str} (h : Key key) {t : Str} (y : Str) (ht : t <:+ key)
    (hne : t ≠ []) : ¬ separator <+: t ++ y := by
  rintro ⟨rest, hrest⟩
  cases t with
  | nil => exact hne rfl
  | cons c t =>
      cases t with
      | nil =>
          have hc : c = '_' := by
            have hhead := congrArg List.head? hrest
            exact (Option.some.inj hhead).symm
          obtain ⟨s, rfl⟩ := ht
          rw [hc] at h
          exact h.last List.getLast?_concat
      | cons d t =>
          have hcd : separator ++ rest = c :: d :: (t ++ y) := hrest
          have hpre : separator <+: c :: d :: t := by
            obtain ⟨hc, hd⟩ : '_' = c ∧ '_' :: rest = d :: (t ++ y) := List.cons.inj hcd
            obtain ⟨hd, -⟩ := List.cons.inj hd
            exact ⟨t, by rw [← hc, ← hd]; rfl⟩
          exact h.clear (hpre.isInfix.trans ht.isInfix)

theorem partition_key {key : Str} (h : Key key) : partition separator key = (key, [], []) := by
  have hclear : partition separator (key ++ []) = _ :=
    partition_of_clear [] fun t ht hne => h.not_prefix [] ht hne
  rw [List.append_nil] at hclear
  rw [hclear, partition, List.append_nil]

theorem partition_key_append {key : Str} (h : Key key) (s : Str) :
    partition separator (key ++ (separator ++ s)) = (key, separator, s) := by
  have hhere : partition separator (separator ++ s) = ([], separator, s) := rfl
  rw [partition_of_clear (separator ++ s) fun t ht hne => h.not_prefix _ ht hne, hhere,
    List.append_nil]

theorem join_cons (key : Str) {path : List Str} (hpath : path ≠ []) :
    join separator (key :: path) = key ++ (separator ++ join separator path) := by
  rw [join, List.intercalate_cons_of_ne_nil hpath, List.append_assoc, ← join]

theorem partition_join {key : Str} (h : Key key) (path : List Str) :
    (partition separator (join separator (key :: path))).1 = key ∧
      (partition separator (join separator (key :: path))).2.2 = join separator path := by
  by_cases hpath : path = []
  · subst hpath
    have hjoin : join separator [key] = key := by simp [join]
    rw [hjoin, partition_key h]
    exact ⟨rfl, rfl⟩
  · rw [join_cons key hpath, partition_key_append h]
    exact ⟨rfl, rfl⟩

theorem get_first_component_join {key : Str} (h : Key key) (path : List Str) :
    get_first_component (join separator (key :: path)) = key := by
  rw [get_first_component_eq]
  exact (partition_join h path).1

theorem get_later_components_join {key : Str} (h : Key key) (path : List Str) :
    get_later_components (join separator (key :: path)) = join separator path := by
  rw [get_later_components_eq]
  exact (partition_join h path).2

/-! ## Nodes -/

/-- The children of a node. -/
def children : Nested → List (Str × Nested)
  | .text _ => []
  | .dict items => items
  | .list values => values.zipIdx.map fun value => (str value.2, value.1)

def childVariables (children : List (Str × Nested)) : List (Str × Str) :=
  children.flatMap fun kv => (under kv.1 (paths kv.2)).map fun path =>
    (join separator path.1, path.2)

theorem itemPaths_eq : ∀ items : List (Str × Nested),
    itemPaths items = items.flatMap fun kv => under kv.1 (paths kv.2)
  | [] => by rw [itemPaths, List.flatMap_nil]
  | (key, nested) :: items => by rw [itemPaths, itemPaths_eq items, List.flatMap_cons]

theorem valuePaths_eq : ∀ (i : Nat) (values : List Nested),
    valuePaths i values =
      (values.zipIdx i).flatMap fun value => under (str value.2) (paths value.1)
  | i, [] => by rw [valuePaths, List.zipIdx_nil, List.flatMap_nil]
  | i, nested :: values => by
      rw [valuePaths, valuePaths_eq (i + 1) values, List.zipIdx_cons, List.flatMap_cons]

/-- The structure is a dictionary or a list. -/
def IsNode (nested : Nested) : Prop := ∀ value, nested ≠ .text value

theorem paths_eq {nested : Nested} (h : IsNode nested) :
    paths nested = (children nested).flatMap fun kv => under kv.1 (paths kv.2) := by
  cases nested with
  | text value => exact absurd rfl (h value)
  | dict items => rw [paths, itemPaths_eq, children]
  | list values => rw [paths, valuePaths_eq, children, List.flatMap_map]

theorem environment_eq {nested : Nested} (h : IsNode nested) :
    environment nested = childVariables (children nested) := by
  rw [environment, paths_eq h, List.map_flatMap, childVariables]

theorem environment_text (value : Str) : environment (.text value) = [([], value)] := by
  rw [environment, paths]
  rfl

structure Children (children : List (Str × Nested)) : Prop where
  ne_nil : children ≠ []
  nodup : (children.map Prod.fst).Nodup
  keys : ∀ kv ∈ children, Key kv.1
  wellFormed : ∀ kv ∈ children, WellFormed kv.2

theorem map_fst_children_list (values : List Nested) :
    (children (.list values)).map Prod.fst = (List.range' 0 values.length).map str := by
  rw [children, List.map_map, ← List.zipIdx_map_snd, List.map_map]
  rfl

theorem WellFormed.children {nested : Nested} (h : WellFormed nested) (hnode : IsNode nested) :
    Children (children nested) := by
  cases h with
  | text value => exact absurd rfl (hnode value)
  | dict hne hnodup hkeys hitems => exact ⟨hne, hnodup, hkeys, hitems⟩
  | @list values hne hvalues =>
      constructor
      · intro hnil
        rw [Tools.children, List.map_eq_nil_iff, List.zipIdx_eq_nil_iff] at hnil
        exact hne hnil
      · rw [map_fst_children_list]
        exact (List.nodup_range' (s := 0)).map fun _ _ => str_injective
      · intro kv hkv
        obtain ⟨value, -, rfl⟩ := List.mem_map.mp hkv
        exact key_str value.2
      · intro kv hkv
        obtain ⟨value, hvalue, rfl⟩ := List.mem_map.mp hkv
        exact hvalues _ (List.fst_mem_of_mem_zipIdx hvalue)

theorem join_ne_nil {key : Str} (h : Key key) (path : List Str) :
    join separator (key :: path) ≠ [] := by
  intro hnil
  have hfirst := get_first_component_join h path
  rw [hnil] at hfirst
  exact h.ne_nil hfirst.symm

theorem join_ne_nil_of_node {nested : Nested} (h : WellFormed nested) (hnode : IsNode nested)
    {path : List Str × Str} (hpath : path ∈ paths nested) : join separator path.1 ≠ [] := by
  rw [paths_eq hnode] at hpath
  obtain ⟨child, hchild, hpath⟩ := List.mem_flatMap.mp hpath
  obtain ⟨path', -, rfl⟩ := List.mem_map.mp hpath
  exact join_ne_nil ((h.children hnode).keys child hchild) path'.1

theorem WellFormed.eq_nil_of_join {nested : Nested} (h : WellFormed nested)
    {path : List Str × Str} (hpath : path ∈ paths nested) (hjoin : join separator path.1 = []) :
    path.1 = [] := by
  cases nested with
  | text value =>
      rw [paths] at hpath
      rw [List.mem_singleton.mp hpath]
  | dict items =>
      exact absurd hjoin (join_ne_nil_of_node h (fun _ he => by cases he) hpath)
  | list values =>
      exact absurd hjoin (join_ne_nil_of_node h (fun _ he => by cases he) hpath)

theorem WellFormed.environment_ne_nil {nested : Nested} (h : WellFormed nested) :
    environment nested ≠ [] := by
  have hpaths : paths nested ≠ [] := by
    induction h with
    | text value => rw [paths]; exact List.cons_ne_nil _ _
    | @dict items hne _ _ _ ih =>
        obtain ⟨kv, items, rfl⟩ := List.exists_cons_of_ne_nil hne
        rw [paths, itemPaths]
        intro hnil
        exact ih kv List.mem_cons_self (List.map_eq_nil_iff.mp (List.append_eq_nil_iff.mp hnil).1)
    | @list values hne _ ih =>
        obtain ⟨value, values, rfl⟩ := List.exists_cons_of_ne_nil hne
        rw [paths, valuePaths]
        intro hnil
        exact ih value List.mem_cons_self
          (List.map_eq_nil_iff.mp (List.append_eq_nil_iff.mp hnil).1)
  intro hnil
  exact hpaths (List.map_eq_nil_iff.mp hnil)

/-- The variables with a name. -/
def named (items : List (Str × Str)) : List (Str × Str) := items.filter fun kv => !kv.1.isEmpty

theorem named_text (value : Str) : named (environment (.text value)) = [] := by
  rw [environment_text]
  rfl

theorem named_of_node {nested : Nested} (h : WellFormed nested) (hnode : IsNode nested) :
    named (environment nested) = environment nested := by
  refine List.filter_eq_self.mpr ?_
  intro kv hkv
  obtain ⟨path, hpath, rfl⟩ := List.mem_map.mp hkv
  have hne := join_ne_nil_of_node h hnode hpath
  simpa using hne

/-! ## Components and children -/

theorem flatMap_of_key {α β : Type} {l : List (Str × α)} {f : Str × α → List β}
    (hnodup : (l.map Prod.fst).Nodup) {key : Str} (hother : ∀ kv ∈ l, kv.1 ≠ key → f kv = []) :
    (∀ a, (key, a) ∈ l → l.flatMap f = f (key, a)) ∧
      (key ∉ l.map Prod.fst → l.flatMap f = []) := by
  have hnone {l : List (Str × α)} (hother : ∀ kv ∈ l, kv.1 ≠ key → f kv = [])
      (hkey : key ∉ l.map Prod.fst) : l.flatMap f = [] := by
    refine List.flatMap_eq_nil_iff.mpr fun kv hkv => hother kv hkv ?_
    rintro rfl
    exact hkey (List.mem_map_of_mem hkv)
  refine ⟨?_, hnone hother⟩
  induction l with
  | nil => exact fun a ha => absurd ha List.not_mem_nil
  | cons kv l ih =>
      intro a ha
      rw [List.map_cons, List.nodup_cons] at hnodup
      have htail : ∀ kv' ∈ l, kv'.1 ≠ key → f kv' = [] :=
        fun kv' hkv' => hother kv' (List.mem_cons_of_mem _ hkv')
      rw [List.flatMap_cons]
      rcases List.mem_cons.mp ha with rfl | ha
      · rw [hnone htail hnodup.1, List.append_nil]
      · have hne : kv.1 ≠ key := by
          intro hkey
          rw [hkey] at hnodup
          exact hnodup.1 (List.mem_map.mpr ⟨(key, a), ha, rfl⟩)
        rw [hother kv List.mem_cons_self hne, List.nil_append]
        exact ih hnodup.2 htail a ha

section

variable {nodes : List (Str × Nested)} {key_values : Dict Str Str}

theorem component_of_child {kv : Str × Nested} (h : Key kv.1) (key : Str) :
    (((((under kv.1 (paths kv.2)).map fun path => (join separator path.1, path.2)).filter
      fun item => !(get_later_components item.1).isEmpty).filter
        fun item => decide (get_first_component item.1 = key)).map
          fun item => (get_later_components item.1, item.2)) =
      if kv.1 = key then named (environment kv.2) else [] := by
  have hvariables : ((under kv.1 (paths kv.2)).map fun path => (join separator path.1, path.2)) =
      (paths kv.2).map fun path => (join separator (kv.1 :: path.1), path.2) := by
    rw [under, List.map_map]
    rfl
  have hmore : (fun path : List Str × Str =>
      !(get_later_components (join separator (kv.1 :: path.1))).isEmpty) =
        fun path => !(join separator path.1).isEmpty := by
    funext path
    rw [get_later_components_join h]
  have hfirst : (fun path : List Str × Str =>
      decide (get_first_component (join separator (kv.1 :: path.1)) = key)) =
        fun _ => decide (kv.1 = key) := by
    funext path
    rw [get_first_component_join h]
  have hlater : (fun path : List Str × Str =>
      (get_later_components (join separator (kv.1 :: path.1)), path.2)) =
        fun path => (join separator path.1, path.2) := by
    funext path
    rw [get_later_components_join h]
  rw [hvariables, named, environment, List.filter_map, List.filter_map, List.map_map,
    List.filter_map]
  simp only [Function.comp_def, hmore, hfirst, hlater]
  by_cases hkey : kv.1 = key
  · simp [hkey]
  · simp [hkey]

theorem component_perm_children (hnodes : Children nodes)
    (hitems : key_values.items.Perm (childVariables nodes)) (key : Str) :
    (component key_values key).Perm
      (nodes.flatMap fun kv => if kv.1 = key then named (environment kv.2) else []) := by
  have hperm : (component key_values key).Perm
      ((((childVariables nodes).filter fun item => !(get_later_components item.1).isEmpty).filter
        fun item => decide (get_first_component item.1 = key)).map
          fun item => (get_later_components item.1, item.2)) :=
    ((hitems.filter _).filter _).map _
  refine hperm.trans (List.Perm.of_eq ?_)
  rw [childVariables, List.filter_flatMap, List.filter_flatMap, List.map_flatMap]
  exact List.flatMap_congr fun kv hkv => component_of_child (hnodes.keys kv hkv) key

theorem component_of_mem (hnodes : Children nodes)
    (hitems : key_values.items.Perm (childVariables nodes)) {key : Str} {nested : Nested}
    (hmem : (key, nested) ∈ nodes) :
    (component key_values key).Perm (named (environment nested)) := by
  have hperm := component_perm_children hnodes hitems key
  rwa [(flatMap_of_key hnodes.nodup fun kv _ hne => if_neg hne).1 nested hmem, if_pos rfl] at hperm

theorem component_of_not_mem (hnodes : Children nodes)
    (hitems : key_values.items.Perm (childVariables nodes)) {key : Str}
    (hkey : key ∉ nodes.map Prod.fst) : component key_values key = [] := by
  have hperm := component_perm_children hnodes hitems key
  rw [(flatMap_of_key hnodes.nodup fun kv _ hne => if_neg hne).2 hkey] at hperm
  exact hperm.eq_nil

theorem later_key {key : Str} (h : Key key) : get_later_components key = [] := by
  rw [get_later_components_eq, partition_key h]

theorem mem_of_no_later (hnodes : Children nodes) {name value : Str}
    (hmem : (name, value) ∈ childVariables nodes) (hlater : get_later_components name = []) :
    name ∈ nodes.map Prod.fst := by
  obtain ⟨kv, hkv, hmem⟩ := List.mem_flatMap.mp hmem
  obtain ⟨path, hpath, he⟩ := List.mem_map.mp hmem
  obtain ⟨path', hpath', rfl⟩ := List.mem_map.mp hpath
  cases he
  rw [get_later_components_join (hnodes.keys kv hkv)] at hlater
  have hnil : path'.1 = [] := (hnodes.wellFormed kv hkv).eq_nil_of_join hpath' hlater
  have hjoin : join separator [kv.1] = kv.1 := by simp [join]
  rw [hnil, hjoin]
  exact List.mem_map_of_mem hkv

theorem get?_text (recurse : Dict Str Str → Nested) (hnodes : Children nodes)
    (hitems : key_values.items.Perm (childVariables nodes)) {key value : Str}
    (hmem : (key, .text value) ∈ nodes) :
    (nested_structured_dict recurse key_values).get? key = some (.text value) := by
  have hkey : Key key := hnodes.keys _ hmem
  have hcomponent : component key_values key = [] := by
    have hperm := component_of_mem hnodes hitems hmem
    rw [named_text] at hperm
    exact hperm.eq_nil
  have hvariable : (key, value) ∈ key_values.items := by
    refine hitems.mem_iff.mpr (List.mem_flatMap.mpr ⟨_, hmem, ?_⟩)
    rw [paths]
    simp [under, join]
  rw [get?_nested, if_pos hcomponent, without_more_components, Dict.get?_filterKeys,
    later_key hkey, if_pos (by rfl), (key_values.mem_items_iff key value).mp hvariable]
  rfl

theorem get?_node (recurse : Dict Str Str → Nested) (hnodes : Children nodes)
    (hitems : key_values.items.Perm (childVariables nodes)) {key : Str} {nested : Nested}
    (hmem : (key, nested) ∈ nodes) (hnode : IsNode nested) :
    ∃ group : Dict Str Str, group.items.Perm (environment nested) ∧
      (nested_structured_dict recurse key_values).get? key = some (recurse group) := by
  have hwf : WellFormed nested := hnodes.wellFormed _ hmem
  have hperm := component_of_mem hnodes hitems hmem
  rw [named_of_node hwf hnode] at hperm
  have hne : component key_values key ≠ [] := by
    intro hnil
    rw [hnil] at hperm
    exact hwf.environment_ne_nil hperm.symm.eq_nil
  obtain ⟨group, hgroup, hget⟩ := nested_of_component recurse hne
  exact ⟨group, hgroup ▸ hperm, hget⟩

theorem get?_other (recurse : Dict Str Str → Nested) (hnodes : Children nodes)
    (hitems : key_values.items.Perm (childVariables nodes)) {key : Str}
    (hkey : key ∉ nodes.map Prod.fst) :
    (nested_structured_dict recurse key_values).get? key = none := by
  rw [get?_nested, if_pos (component_of_not_mem hnodes hitems hkey), without_more_components,
    Dict.get?_filterKeys]
  split
  next hlater =>
    cases hget : key_values.get? key with
    | none => rfl
    | some value =>
        have hmem := hitems.mem_iff.mp ((key_values.mem_items_iff key value).mpr hget)
        exact absurd (mem_of_no_later hnodes hmem (List.isEmpty_iff.mp hlater)) hkey
  next => rfl

theorem nested_perm (hnodes : Children nodes)
    (hitems : key_values.items.Perm (childVariables nodes))
    (ih : ∀ kv ∈ nodes, IsNode kv.2 → ∀ group : Dict Str Str,
      group.items.Perm (environment kv.2) → Restores kv.2 (normalise_environment group)) :
    ∃ f : Str × Nested → Nested, (∀ kv ∈ nodes, Restores kv.2 (f kv)) ∧
      (nested_structured_dict normalise_environment key_values).items.Perm
        (nodes.map fun kv => (kv.1, f kv)) := by
  let d := nested_structured_dict normalise_environment key_values
  have hchild : ∀ kv ∈ nodes, ∃ restored, d.get? kv.1 = some restored ∧ Restores kv.2 restored := by
    rintro ⟨key, nested⟩ hmem
    by_cases hnode : IsNode nested
    · obtain ⟨group, hgroup, hget⟩ := get?_node normalise_environment hnodes hitems hmem hnode
      exact ⟨_, hget, ih _ hmem hnode group hgroup⟩
    · rw [IsNode, not_forall] at hnode
      obtain ⟨value, htext⟩ := hnode
      rw [not_not] at htext
      subst htext
      exact ⟨_, get?_text normalise_environment hnodes hitems hmem, .text value⟩
  refine ⟨fun kv => (d.get? kv.1).getD (.text []), ?_, ?_⟩
  · intro kv hkv
    obtain ⟨restored, hget, hrestores⟩ := hchild kv hkv
    dsimp only
    rw [hget]
    exact hrestores
  · have hkeys :
        ((nodes.map fun kv => (kv.1, (d.get? kv.1).getD (.text []))).map Prod.fst).Nodup := by
      rw [List.map_map]
      exact hnodes.nodup
    rw [List.perm_ext_iff_of_nodup (d.nodup.of_map _) (hkeys.of_map _)]
    rintro ⟨key, restored⟩
    rw [Dict.mem_items_iff, List.mem_map]
    constructor
    · intro hget
      by_cases hmem : key ∈ nodes.map Prod.fst
      · obtain ⟨kv, hkv, rfl⟩ := List.mem_map.mp hmem
        exact ⟨kv, hkv, by rw [hget]; rfl⟩
      · have hnone : d.get? key = none := get?_other normalise_environment hnodes hitems hmem
        rw [hnone] at hget
        cases hget
    · rintro ⟨kv, hkv, he⟩
      cases he
      obtain ⟨restored, hget, -⟩ := hchild kv hkv
      rw [hget]
      rfl

end

/-! ## Lists and dictionaries -/

theorem all_keys_of_perm {items nodes : List (Str × Nested)} {f : Str × Nested → Nested}
    (h : items.Perm (nodes.map fun kv => (kv.1, f kv))) :
    all_keys_are_ints items = all_keys_are_ints nodes := by
  rw [all_keys_are_ints, h.all_eq, List.all_map]
  rfl

theorem forall₂_restores {nodes : List (Str × Nested)} {f : Str × Nested → Nested}
    (h : ∀ kv ∈ nodes, Restores kv.2 (f kv)) :
    List.Forall₂ Restores (nodes.map Prod.snd)
      ((nodes.map fun kv => (kv.1, f kv)).map Prod.snd) := by
  induction nodes with
  | nil => exact .nil
  | cons kv nodes ih =>
      exact .cons (h kv List.mem_cons_self) (ih fun kv' hkv' => h kv' (List.mem_cons_of_mem _ hkv'))

theorem map_fst_restored (nodes : List (Str × Nested)) (f : Str × Nested → Nested) :
    (nodes.map fun kv => (kv.1, f kv)).map Prod.fst = nodes.map Prod.fst := by
  rw [List.map_map]
  rfl

theorem all_keys_children_list (values : List Nested) :
    all_keys_are_ints (children (.list values)) = true := by
  rw [all_keys_are_ints, children, List.all_map]
  exact List.all_eq_true.mpr fun value _ => by
    show (integer? (str value.2)).isSome = true
    rw [integer?_str]
    rfl

theorem map_snd_children_list (values : List Nested) :
    (children (.list values)).map Prod.snd = values := by
  rw [children, List.map_map]
  exact List.zipIdx_map_fst 0 values

theorem sorted_children_list {values : List Nested} {f : Str × Nested → Nested}
    {items : List (Str × Nested)}
    (h : items.Perm ((children (.list values)).map fun kv => (kv.1, f kv))) :
    sortedBy (fun kv => (integer? kv.1).getD 0) items =
      (children (.list values)).map fun kv => (kv.1, f kv) := by
  have hsorted : ((children (.list values)).map fun kv => (kv.1, f kv)).Pairwise
      fun a b => (integer? a.1).getD 0 ≤ (integer? b.1).getD 0 := by
    have hplaces : values.zipIdx.Pairwise fun a b => a.2 ≤ b.2 := by
      rw [← List.pairwise_map, List.zipIdx_map_snd]
      exact List.pairwise_le_range'
    rw [children, List.map_map, List.pairwise_map]
    refine hplaces.imp fun {a b} hle => ?_
    show (integer? (str a.2)).getD 0 ≤ (integer? (str b.2)).getD 0
    rw [integer?_str, integer?_str]
    exact Int.ofNat_le.mpr hle
  refine List.Perm.eq_of_pairwise ?_ (pairwise_sortedBy _ _) hsorted ((sortedBy_perm _ _).trans h)
  intro a b ha hb hab hba
  replace ha := ((sortedBy_perm _ _).trans h).mem_iff.mp ha
  obtain ⟨_, ha', rfl⟩ := List.mem_map.mp ha
  obtain ⟨_, hb', rfl⟩ := List.mem_map.mp hb
  obtain ⟨⟨v, i⟩, hv, rfl⟩ := List.mem_map.mp ha'
  obtain ⟨⟨w, j⟩, hw, rfl⟩ := List.mem_map.mp hb'
  dsimp only at hab hba
  rw [integer?_str, integer?_str] at hab hba
  obtain rfl : i = j := Int.ofNat_inj.mp (Int.le_antisymm hab hba)
  rw [List.mem_zipIdx_iff_getElem?] at hv hw
  rw [Option.some.inj (hv.symm.trans hw)]

/-- A structure is read back from its variables, in whatever order they come. -/
theorem normalise_environment_of_perm {nested : Nested} (h : WellFormed nested) :
    IsNode nested → ∀ key_values : Dict Str Str, key_values.items.Perm (environment nested) →
      Restores nested (normalise_environment key_values) := by
  induction h with
  | text value => exact fun hnode => absurd rfl (hnode value)
  | @dict items hne hnodup hkeys hwf ih =>
      intro hnode key_values hitems
      rw [environment_eq hnode] at hitems
      obtain ⟨f, hrestores, hperm⟩ := nested_perm ⟨hne, hnodup, hkeys, hwf⟩ hitems ih
      have hsame := all_keys_of_perm hperm
      rw [normalise_environment_eq, level]
      rw [hsame]
      cases hints : all_keys_are_ints items with
      | false =>
          exact .dict hints (map_fst_restored items f) (forall₂_restores hrestores) hperm
      | true =>
          exact .ints hints (map_fst_restored items f) (forall₂_restores hrestores)
            ((sortedBy_perm _ _).trans hperm) (pairwise_sortedBy _ _)
  | @list values hne hwf ih =>
      intro hnode key_values hitems
      rw [environment_eq hnode] at hitems
      have hchildren := (WellFormed.list hne hwf).children hnode
      have hih : ∀ kv ∈ children (.list values), IsNode kv.2 → ∀ group : Dict Str Str,
          group.items.Perm (environment kv.2) →
            Restores kv.2 (normalise_environment group) := by
        intro kv hkv
        refine ih kv.2 ?_
        rw [← map_snd_children_list values]
        exact List.mem_map_of_mem hkv
      obtain ⟨f, hrestores, hperm⟩ := nested_perm hchildren hitems hih
      have hlist := forall₂_restores hrestores
      rw [map_snd_children_list] at hlist
      rw [normalise_environment_eq, level]
      rw [all_keys_of_perm hperm, all_keys_children_list, if_pos rfl, list_sorted_by_int_key,
        sorted_children_list hperm]
      exact .list hlist

/-! ## Names -/

theorem first_of_mem {key : Str} (h : Key key) {nested : Nested} {name : Str}
    (hname : name ∈ ((under key (paths nested)).map fun path =>
      (join separator path.1, path.2)).map Prod.fst) : get_first_component name = key := by
  obtain ⟨_, hitem, rfl⟩ := List.mem_map.mp hname
  obtain ⟨_, hpath, rfl⟩ := List.mem_map.mp hitem
  obtain ⟨path, -, rfl⟩ := List.mem_map.mp hpath
  exact get_first_component_join h path.1

theorem later_names {key : Str} (h : Key key) (nested : Nested) :
    (((under key (paths nested)).map fun path => (join separator path.1, path.2)).map
      Prod.fst).map get_later_components = (environment nested).map Prod.fst := by
  rw [under, environment, List.map_map, List.map_map, List.map_map, List.map_map]
  refine List.map_congr_left fun path _ => ?_
  exact get_later_components_join h path.1

theorem nodup_names {nested : Nested} (h : WellFormed nested) :
    ((environment nested).map Prod.fst).Nodup := by
  have hnode {nested : Nested} (hwf : WellFormed nested) (hnode : IsNode nested)
      (ih : ∀ kv ∈ children nested, ((environment kv.2).map Prod.fst).Nodup) :
      ((environment nested).map Prod.fst).Nodup := by
    have hchildren := hwf.children hnode
    rw [environment_eq hnode, childVariables, List.map_flatMap, List.nodup_flatMap]
    constructor
    · intro kv hkv
      refine List.Nodup.of_map get_later_components ?_
      rw [later_names (hchildren.keys kv hkv)]
      exact ih kv hkv
    · refine (List.pairwise_map.mp hchildren.nodup).imp_of_mem ?_
      intro kv kv' hkv hkv' hne name hname hname'
      refine hne ?_
      rw [← first_of_mem (hchildren.keys kv hkv) hname,
        first_of_mem (hchildren.keys kv' hkv') hname']
  induction h with
  | text value =>
      rw [environment_text]
      exact List.nodup_singleton _
  | @dict items hne hnodup hkeys hwf ih =>
      exact hnode (.dict hne hnodup hkeys hwf) (fun _ he => by cases he) ih
  | @list values hne hwf ih =>
      refine hnode (.list hne hwf) (fun _ he => by cases he) ?_
      intro kv hkv
      refine ih kv.2 ?_
      rw [← map_snd_children_list values]
      exact List.mem_map_of_mem hkv

/-- A structure is read back from its variables, which have a name each, in whatever order they
come. -/
theorem environment_round_trip {nested : Nested} (h : WellFormed nested) (hnode : IsNode nested) :
    ((environment nested).map Prod.fst).Nodup ∧
      ∀ key_values : Dict Str Str, key_values.items.Perm (environment nested) →
        Restores nested (normalise_environment key_values) :=
  ⟨nodup_names h, normalise_environment_of_perm h hnode⟩

section Examples

/-- Two databases, of which one has the hosts of the ports 9 and 10. -/
def sample : Nested :=
  .dict [("DB", .list [.dict [("HOST", .dict [("10", .text "b"), ("9", .text "a")])],
    .dict [("NAME", .text "c")]]), ("FIZZ", .text "d")]

theorem wellFormed_sample : WellFormed sample := by
  have hports : WellFormed (.dict [("10", .text "b"), ("9", .text "a")]) :=
    .dict (List.cons_ne_nil _ _) (by decide) (by decide) (by simp [WellFormed.text])
  have hhosts : WellFormed (.dict [("HOST", .dict [("10", .text "b"), ("9", .text "a")])]) :=
    .dict (List.cons_ne_nil _ _) (by decide) (by decide) (by simpa using hports)
  have hname : WellFormed (.dict [("NAME", .text "c")]) :=
    .dict (List.cons_ne_nil _ _) (by decide) (by decide) (by simp [WellFormed.text])
  have hdatabases : WellFormed (.list
      [.dict [("HOST", .dict [("10", .text "b"), ("9", .text "a")])],
        .dict [("NAME", .text "c")]]) :=
    .list (List.cons_ne_nil _ _)
      (List.forall_mem_cons.mpr ⟨hhosts, List.forall_mem_singleton.mpr hname⟩)
  exact .dict (List.cons_ne_nil _ _) (by decide) (by decide)
    (List.forall_mem_cons.mpr ⟨hdatabases, List.forall_mem_singleton.mpr (.text _)⟩)

theorem sample_round_trip :
    Restores sample (normalise_environment (Dict.ofPairs (environment sample))) :=
  (environment_round_trip wellFormed_sample fun _ he => by cases he).2 _
    (List.Perm.of_eq (Dict.items_ofPairs (nodup_names wellFormed_sample)))

end Examples

end Tools
