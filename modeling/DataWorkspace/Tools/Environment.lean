import DataWorkspace.Py.Grouping
import DataWorkspace.Py.Numbers
import DataWorkspace.Py.Split
import Mathlib.Data.Char

/-!
# Nested environments

A tool is configured by environment variables.  `normalise_environment` takes the name of a
variable for a path, its components separated by `__`, and gathers the variables into
nested dictionaries.  A dictionary all of whose keys parse as integers becomes a list.

The function calls itself on the variables that share a first component, with that
component taken off their names.  `normalise` does so a number of times, and
`normalise_environment_eq` says that once for each character of the longest name is enough.
-/

namespace Tools

open Py

/-- What a configuration is made of. -/
inductive Nested where
  | text (value : Str)
  | dict (items : List (Str × Nested))
  | list (values : List Nested)

def separator : Str := "__"

def get_first_component (key : Str) : Str := (split separator key).headD []

def get_later_components (key : Str) : Str := join separator (split separator key).tail

/-- The variables of a group, under what is left of their names. -/
def items_with_first_component (items : List (Str × Str)) (first_component : Str) :
    Dict Str Str :=
  .ofPairs ((items.filter fun kv => get_first_component kv.1 = first_component).map
    fun kv => (get_later_components kv.1, kv.2))

def grouped_by_first_component (items : List (Str × Str)) : List (Str × List (Str × Str)) :=
  groupedBy (fun kv => get_first_component kv.1) items

def without_more_components (key_values : Dict Str Str) : Dict Str Str :=
  key_values.filterKeys fun key => (get_later_components key).isEmpty

def with_more_components (key_values : Dict Str Str) : Dict Str Str :=
  key_values.filterKeys fun key => !(get_later_components key).isEmpty

def is_int (string_to_test : Str) : Bool := (integer? string_to_test).isSome

def all_keys_are_ints (items : List (Str × Nested)) : Bool := items.all fun kv => is_int kv.1

def list_sorted_by_int_key (items : List (Str × Nested)) : List Nested :=
  (sortedBy (fun kv => (integer? kv.1).getD 0) items).map Prod.snd

section

variable (recurse : Dict Str Str → Nested)

def nested_structured_dict (key_values : Dict Str Str) : Dict Str Nested :=
  ((without_more_components key_values).mapValues .text).update
    ((grouped_by_first_component (with_more_components key_values).items).map fun group =>
      (group.1, recurse (items_with_first_component group.2 group.1)))

/-- One level of the structure, where `recurse` makes the levels below. -/
def level (key_values : Dict Str Str) : Nested :=
  let items := (nested_structured_dict recurse key_values).items
  if all_keys_are_ints items then .list (list_sorted_by_int_key items) else .dict items

end

/-- So many levels. -/
def normalise : Nat → Dict Str Str → Nested
  | 0, _ => .list []
  | depth + 1, key_values => level (normalise depth) key_values

/-- The number of characters of the longest name. -/
def longest (key_values : Dict Str Str) : Nat :=
  (key_values.items.map fun kv => kv.1.length + 1).foldr max 0

def normalise_environment (key_values : Dict Str Str) : Nested :=
  normalise (longest key_values) key_values

/-! ## Components -/

theorem separator_ne_nil : separator ≠ [] := by decide

theorem get_first_component_eq (key : Str) :
    get_first_component key = (partition separator key).1 := by
  rw [get_first_component, List.headD_eq_head?_getD, head_split, Option.getD_some]

theorem get_later_components_eq (key : Str) :
    get_later_components key = (partition separator key).2.2 :=
  join_tail_split separator_ne_nil key

theorem components_append {key : Str} (h : get_later_components key ≠ []) :
    get_first_component key ++ separator ++ get_later_components key = key := by
  rw [get_later_components_eq] at h ⊢
  rw [get_first_component_eq]
  rcases partition_sep separator key with hsep | hnone
  · have happend := partition_append separator key
    rw [hsep] at happend
    exact happend
  · rw [hnone] at h
    exact absurd rfl h

theorem length_later_lt {key : Str} (h : get_later_components key ≠ []) :
    (get_later_components key).length < key.length := by
  have hlength := congrArg List.length (components_append h)
  rw [List.length_append, List.length_append, show separator.length = 2 from rfl] at hlength
  omega

/-! ## One level -/

/-- The variables of several components of which the first is `first_component`. -/
def component (key_values : Dict Str Str) (first_component : Str) : List (Str × Str) :=
  ((with_more_components key_values).items.filter
    fun kv => get_first_component kv.1 = first_component).map
    fun kv => (get_later_components kv.1, kv.2)

theorem mem_with_more {key_values : Dict Str Str} {kv : Str × Str} :
    kv ∈ (with_more_components key_values).items ↔
      kv ∈ key_values.items ∧ get_later_components kv.1 ≠ [] := by
  rw [with_more_components, Dict.filterKeys, List.mem_filter]
  simp

theorem nodup_component (key_values : Dict Str Str) (first_component : Str) :
    ((component key_values first_component).map Prod.fst).Nodup := by
  rw [component, List.map_map]
  refine List.Nodup.map_on ?_ ?_
  · rintro ⟨k, v⟩ hkv ⟨k', v'⟩ hkv' hlater
    obtain ⟨hmem, hfirst⟩ := List.mem_filter.mp hkv
    obtain ⟨hmem', hfirst'⟩ := List.mem_filter.mp hkv'
    obtain ⟨hitem, hmore⟩ := mem_with_more.mp hmem
    obtain ⟨hitem', hmore'⟩ := mem_with_more.mp hmem'
    have hkey : k = k' := by
      calc k = get_first_component k ++ separator ++ get_later_components k :=
            (components_append hmore).symm
        _ = get_first_component k' ++ separator ++ get_later_components k' := by
            rw [of_decide_eq_true hfirst, ← of_decide_eq_true hfirst', show
              get_later_components k = get_later_components k' from hlater]
        _ = k' := components_append hmore'
    subst hkey
    rw [Dict.mem_items_iff] at hitem hitem'
    rw [Option.some.inj (hitem.symm.trans hitem')]
  · exact ((with_more_components key_values).nodup.of_map _).filter _

theorem items_of_group (key_values : Dict Str Str) (first_component : Str) :
    (items_with_first_component ((with_more_components key_values).items.filter
      fun kv => get_first_component kv.1 = first_component) first_component).items =
        component key_values first_component := by
  have hfilter : ∀ items : List (Str × Str),
      (items.filter fun kv => get_first_component kv.1 = first_component).filter
          (fun kv => get_first_component kv.1 = first_component) =
        items.filter fun kv => get_first_component kv.1 = first_component := by
    intro items
    rw [List.filter_filter]
    simp only [Bool.and_self]
  rw [items_with_first_component, hfilter, Dict.items_ofPairs]
  · rfl
  · exact nodup_component key_values first_component

section

variable (recurse : Dict Str Str → Nested)

theorem get?_nested (key_values : Dict Str Str) (first_component : Str) :
    (nested_structured_dict recurse key_values).get? first_component =
      if component key_values first_component = [] then
        ((without_more_components key_values).get? first_component).map .text
      else some (recurse (items_with_first_component
        ((with_more_components key_values).items.filter
          fun kv => get_first_component kv.1 = first_component) first_component)) := by
  have hnil : component key_values first_component = [] ↔
      ((with_more_components key_values).items.filter
        fun kv => get_first_component kv.1 = first_component) = [] := by
    rw [component, List.map_eq_nil_iff]
  rw [nested_structured_dict, Dict.get?_update, ← List.map_reverse,
    lookup_map fun first items => recurse (items_with_first_component items first),
    grouped_by_first_component, lookup_groupedBy, Dict.get?_mapValues]
  by_cases h : component key_values first_component = []
  · rw [if_pos h, if_pos (hnil.mp h)]
    rfl
  · rw [if_neg h, if_neg (mt hnil.mpr h)]
    rfl

theorem nested_of_component {key_values : Dict Str Str} {first_component : Str}
    (h : component key_values first_component ≠ []) :
    ∃ group : Dict Str Str, group.items = component key_values first_component ∧
      (nested_structured_dict recurse key_values).get? first_component = some (recurse group) :=
  ⟨_, items_of_group key_values first_component, by rw [get?_nested, if_neg h]⟩

variable {recurse}

theorem nested_of_no_more {key_values : Dict Str Str}
    (h : ∀ kv ∈ key_values.items, get_later_components kv.1 = []) :
    (nested_structured_dict recurse key_values).items =
      key_values.items.map fun kv => (kv.1, .text kv.2) := by
  have hmore : (with_more_components key_values).items = [] := by
    refine List.eq_nil_iff_forall_not_mem.mpr fun kv hkv => ?_
    obtain ⟨hmem, hne⟩ := mem_with_more.mp hkv
    exact hne (h kv hmem)
  have hwithout : (without_more_components key_values).items = key_values.items := by
    refine List.filter_eq_self.mpr fun kv hkv => ?_
    exact List.isEmpty_iff.mpr (h kv hkv)
  have hgroups : grouped_by_first_component [] = [] := rfl
  rw [nested_structured_dict, hmore, hgroups, List.map_nil, Dict.update_nil]
  exact congrArg (List.map fun kv => (kv.1, Nested.text kv.2)) hwithout

theorem level_congr {recurse' : Dict Str Str → Nested} {key_values : Dict Str Str}
    (h : ∀ (group : Dict Str Str) (first_component : Str),
      (∀ kv ∈ group.items, kv ∈ component key_values first_component) →
        recurse group = recurse' group) :
    level recurse key_values = level recurse' key_values := by
  have hgroups : ∀ group ∈ grouped_by_first_component (with_more_components key_values).items,
      (group.1, recurse (items_with_first_component group.2 group.1)) =
        (group.1, recurse' (items_with_first_component group.2 group.1)) := by
    intro group hgroup
    rw [h _ group.1]
    intro kv hkv
    rw [Dict.mem_items_iff] at hkv
    obtain ⟨item, hitem, heq⟩ := List.mem_map.mp (Dict.mem_of_get?_ofPairs hkv)
    obtain ⟨hmem, hfirst⟩ := List.mem_filter.mp hitem
    have hmore := mem_of_mem_groupedBy hgroup hmem
    exact List.mem_map.mpr ⟨item, List.mem_filter.mpr ⟨hmore, hfirst⟩, heq⟩
  have hnested : nested_structured_dict recurse key_values =
      nested_structured_dict recurse' key_values := by
    rw [nested_structured_dict, nested_structured_dict, List.map_congr_left hgroups]
  rw [level, level, hnested]

end

/-! ## All levels -/

theorem length_of_mem_component {key_values : Dict Str Str} {first_component : Str}
    {kv : Str × Str} {n : Nat} (hkv : kv ∈ component key_values first_component)
    (h : ∀ item ∈ key_values.items, item.1.length < n + 1) : kv.1.length < n := by
  obtain ⟨item, hitem, rfl⟩ := List.mem_map.mp hkv
  obtain ⟨hmem, hne⟩ := mem_with_more.mp (List.mem_filter.mp hitem).1
  have hlt := length_later_lt hne
  have hle := h item hmem
  dsimp only
  omega

theorem eq_empty_of_lt {key_values : Dict Str Str}
    (h : ∀ kv ∈ key_values.items, kv.1.length < 0) : key_values = .empty := by
  obtain ⟨items, nodup⟩ := key_values
  cases items with
  | nil => rfl
  | cons kv items => exact absurd (h kv List.mem_cons_self) (Nat.not_lt_zero _)

theorem normalise_of_lt : ∀ {m n : Nat} {key_values : Dict Str Str},
    (∀ kv ∈ key_values.items, kv.1.length < m) → (∀ kv ∈ key_values.items, kv.1.length < n) →
      normalise m key_values = normalise n key_values
  | 0, 0, _, _, _ => rfl
  | 0, n + 1, key_values, hm, _ => by
      rw [eq_empty_of_lt hm]
      rfl
  | m + 1, 0, key_values, _, hn => by
      rw [eq_empty_of_lt hn]
      rfl
  | m + 1, n + 1, key_values, hm, hn => by
      rw [normalise, normalise]
      refine level_congr fun group first_component hgroup => normalise_of_lt ?_ ?_
      · exact fun kv hkv => length_of_mem_component (hgroup kv hkv) hm
      · exact fun kv hkv => length_of_mem_component (hgroup kv hkv) hn

theorem length_lt_longest {key_values : Dict Str Str} {kv : Str × Str}
    (h : kv ∈ key_values.items) : kv.1.length < longest key_values := by
  have hle : ∀ (l : List Nat) (n : Nat), n ∈ l → n ≤ l.foldr max 0 := by
    intro l n hn
    induction l with
    | nil => cases hn
    | cons m l ih =>
        rw [List.foldr_cons]
        rcases List.mem_cons.mp hn with rfl | hn
        · exact Nat.le_max_left _ _
        · exact Nat.le_trans (ih hn) (Nat.le_max_right _ _)
  exact hle _ _ (List.mem_map.mpr ⟨kv, h, rfl⟩)

theorem normalise_environment_eq (key_values : Dict Str Str) :
    normalise_environment key_values = level normalise_environment key_values := by
  have hmore : normalise_environment key_values = normalise (longest key_values + 1) key_values :=
    normalise_of_lt (fun kv hkv => length_lt_longest hkv)
      fun kv hkv => Nat.lt_succ_of_lt (length_lt_longest hkv)
  rw [hmore, normalise]
  refine level_congr fun group first_component hgroup => normalise_of_lt ?_ ?_
  · exact fun kv hkv => length_of_mem_component (hgroup kv hkv)
      fun item hitem => Nat.lt_succ_of_lt (length_lt_longest hitem)
  · exact fun kv hkv => length_lt_longest hkv

end Tools
