import Mathlib.Data.List.DropRight
import Mathlib.Data.List.Forall2
import Mathlib.Data.List.Nodup

/-!
# Dictionaries and groups

A Python `dict` keeps its keys in the order they were first set, and a key that
is set again keeps its place and takes the new value.  `itertools.groupby` cuts an
iterable into its maximal runs of equal keys.  It does not sort, so a key that
comes back starts a new group.

`get?_ofPairs` says that a dictionary built from pairs holds the last value of
each key, and `get?_ofPairs_groupby` what that means for the pairs `groupby`
yields: of all the runs of a key only the last one is kept.
-/

namespace Py

variable {κ β α : Type} [DecidableEq κ]

/-! ## Dictionaries -/

structure Dict (κ β : Type) where
  /-- The items, in the order their keys were first set. -/
  items : List (κ × β)
  /-- No key is there twice. -/
  nodup : (items.map Prod.fst).Nodup

/-- Set a key among the items: in its old place, or at the end. -/
def setItem (k : κ) (v : β) : List (κ × β) → List (κ × β)
  | [] => [(k, v)]
  | (k', v') :: items => if k' = k then (k, v) :: items else (k', v') :: setItem k v items

theorem keys_setItem (k : κ) (v : β) : ∀ items : List (κ × β),
    (setItem k v items).map Prod.fst =
      if k ∈ items.map Prod.fst then items.map Prod.fst else items.map Prod.fst ++ [k]
  | [] => by simp [setItem]
  | (k', v') :: items => by
      by_cases h : k' = k
      · simp [setItem, h]
      · have hk : ¬ k = k' := fun he => h he.symm
        have ih := keys_setItem k v items
        by_cases hm : k ∈ items.map Prod.fst
        · simp only [setItem, if_neg h, List.map_cons, ih, if_pos hm, List.mem_cons, hk, false_or]
        · simp only [setItem, if_neg h, List.map_cons, ih, if_neg hm, List.mem_cons, hk, false_or,
            List.cons_append]

theorem lookup_setItem (k k' : κ) (v : β) : ∀ items : List (κ × β),
    (setItem k v items).lookup k' = if k' = k then some v else items.lookup k'
  | [] => by
      by_cases h : k' = k
      · simp [setItem, h]
      · simp [setItem, List.lookup_cons, h, beq_false_of_ne h]
  | (k₀, v₀) :: items => by
      have ih := lookup_setItem k k' v items
      by_cases h₀ : k₀ = k
      · subst h₀
        by_cases h : k' = k₀
        · simp [setItem, h]
        · simp [setItem, List.lookup_cons, h, beq_false_of_ne h]
      · rw [setItem, if_neg h₀, List.lookup_cons, List.lookup_cons, ih]
        by_cases h : k' = k₀
        · simp [h, h₀]
        · simp [beq_false_of_ne h]

namespace Dict

/-- The empty dictionary. -/
def empty : Dict κ β := ⟨[], List.nodup_nil⟩

/-- `d[k] = v`. -/
def set (d : Dict κ β) (k : κ) (v : β) : Dict κ β where
  items := setItem k v d.items
  nodup := by
    rw [keys_setItem]
    split
    next => exact d.nodup
    next h => exact List.nodup_append.mpr ⟨d.nodup, List.nodup_singleton k, by
      intro a ha b hb hab
      rw [List.mem_singleton] at hb
      exact h (hb ▸ hab ▸ ha)⟩

/-- `d.get(k)`. -/
def get? (d : Dict κ β) (k : κ) : Option β := d.items.lookup k

/-- `k in d`. -/
def contains (d : Dict κ β) (k : κ) : Bool := (d.get? k).isSome

/-- The dictionary comprehension over some pairs. -/
def ofPairs (pairs : List (κ × β)) : Dict κ β :=
  pairs.foldl (fun d kv => d.set kv.1 kv.2) empty

/-- The items whose key satisfies `p`. -/
def filterKeys (d : Dict κ β) (p : κ → Bool) : Dict κ β where
  items := d.items.filter fun kv => p kv.1
  nodup := d.nodup.sublist (List.filter_sublist.map Prod.fst)

/-- The same keys with other values. -/
def mapValues {γ : Type} (d : Dict κ β) (f : β → γ) : Dict κ γ where
  items := d.items.map fun kv => (kv.1, f kv.2)
  nodup := by
    rw [List.map_map]
    exact d.nodup

theorem get?_set (d : Dict κ β) (k k' : κ) (v : β) :
    (d.set k v).get? k' = if k' = k then some v else d.get? k' :=
  lookup_setItem k k' v d.items

theorem get?_filterKeys (d : Dict κ β) (p : κ → Bool) (k : κ) :
    (d.filterKeys p).get? k = if p k then d.get? k else none := by
  simp only [get?, filterKeys]
  induction d.items with
  | nil => simp
  | cons kv items ih =>
      obtain ⟨k', v⟩ := kv
      by_cases hk : k = k'
      · subst hk
        cases hp : p k with
        | true => simp [hp]
        | false => simpa [hp] using ih
      · cases hp : p k' with
        | true => simpa [hp, List.lookup_cons, beq_false_of_ne hk] using ih
        | false => simpa [hp, List.lookup_cons, beq_false_of_ne hk] using ih

theorem get?_mapValues {γ : Type} (d : Dict κ β) (f : β → γ) (k : κ) :
    (d.mapValues f).get? k = (d.get? k).map f := by
  simp only [get?, mapValues]
  induction d.items with
  | nil => simp
  | cons kv items ih =>
      obtain ⟨k', v⟩ := kv
      by_cases hk : k = k'
      · simp [hk]
      · simpa [List.lookup_cons, beq_false_of_ne hk] using ih

theorem mem_items_iff (d : Dict κ β) (k : κ) (v : β) : (k, v) ∈ d.items ↔ d.get? k = some v := by
  obtain ⟨items, nodup⟩ := d
  simp only [get?]
  induction items with
  | nil => simp
  | cons kv items ih =>
      obtain ⟨k₀, v₀⟩ := kv
      rw [List.map_cons, List.nodup_cons] at nodup
      by_cases h : k = k₀
      · subst h
        have hn : (k, v) ∉ items := fun hm => nodup.1 (List.mem_map.mpr ⟨(k, v), hm, rfl⟩)
        simp [hn, eq_comm]
      · simp [List.lookup_cons, beq_false_of_ne h, h, ih nodup.2]

theorem get?_ofPairs (pairs : List (κ × β)) (k : κ) :
    (ofPairs pairs).get? k = pairs.reverse.lookup k := by
  induction pairs using List.reverseRecOn with
  | nil => rfl
  | append_singleton pairs kv ih =>
      have hset : ofPairs (pairs ++ [kv]) = (ofPairs pairs).set kv.1 kv.2 := by
        simp [ofPairs, List.foldl_append]
      rw [hset, get?_set, ih, List.reverse_append, List.reverse_singleton, List.singleton_append,
        List.lookup_cons]
      by_cases h : k = kv.1
      · simp [h]
      · simp [h, beq_false_of_ne h]

theorem mem_of_get?_ofPairs {pairs : List (κ × β)} {k : κ} {v : β}
    (h : (ofPairs pairs).get? k = some v) : (k, v) ∈ pairs := by
  rw [get?_ofPairs] at h
  obtain ⟨l₁, l₂, hl, -⟩ := List.lookup_eq_some_iff.mp h
  rw [← List.mem_reverse, hl]
  simp

theorem get?_ofPairs_isSome {pairs : List (κ × β)} {kv : κ × β} (h : kv ∈ pairs) :
    ∃ v, (ofPairs pairs).get? kv.1 = some v := by
  rw [get?_ofPairs]
  refine Option.ne_none_iff_exists'.mp fun hnone => ?_
  rw [List.lookup_eq_none_iff] at hnone
  simpa using hnone kv (List.mem_reverse.mpr h)

end Dict

/-! ## Groups -/

/-- Add one element to the groups read so far, newest group first. -/
def groupStep (key : α → κ) (groups : List (κ × List α)) (a : α) : List (κ × List α) :=
  match groups with
  | [] => [(key a, [a])]
  | (k, run) :: rest =>
      if k = key a then (k, run ++ [a]) :: rest else (key a, [a]) :: (k, run) :: rest

/-- `itertools.groupby(l, key)`: the maximal runs of equal keys. -/
def groupby (key : α → κ) (l : List α) : List (κ × List α) :=
  (l.foldl (groupStep key) []).reverse

/-- The last run of elements that satisfy `p`. -/
def lastRun (p : α → Bool) (l : List α) : List α := (l.rdropWhile fun a => !p a).rtakeWhile p

theorem lastRun_concat_of_not {p : α → Bool} {a : α} (h : p a = false) (l : List α) :
    lastRun p (l ++ [a]) = lastRun p l := by
  rw [lastRun, List.rdropWhile_concat_pos _ _ _ (by simp [h]), lastRun]

theorem lastRun_concat_of {p : α → Bool} {a : α} (h : p a = true) (l : List α) :
    lastRun p (l ++ [a]) = l.rtakeWhile p ++ [a] := by
  rw [lastRun, List.rdropWhile_concat_neg _ _ _ (by simp [h]), List.rtakeWhile_concat_pos _ _ _ h]

theorem mem_of_mem_lastRun {p : α → Bool} {a : α} {l : List α} (h : a ∈ lastRun p l) :
    a ∈ l ∧ p a = true :=
  ⟨(List.rdropWhile_prefix _ _).subset ((List.rtakeWhile_suffix _ _).subset h),
    List.mem_rtakeWhile_imp h⟩

/-- The elements of a key that `l` ends with. -/
private def tailRun (key : α → κ) (k : κ) (l : List α) : List α :=
  l.rtakeWhile fun a => key a == k

private theorem tailRun_concat (key : α → κ) (k : κ) (l : List α) (a : α) :
    tailRun key k (l ++ [a]) = if k = key a then tailRun key (key a) l ++ [a] else [] := by
  by_cases hk : k = key a
  · rw [if_pos hk, hk, tailRun, List.rtakeWhile_concat_pos _ _ _ (by simp), tailRun]
  · rw [if_neg hk, tailRun, List.rtakeWhile_concat_neg _ _ _ (by simpa using Ne.symm hk)]

private theorem lastRun_concat (key : α → κ) (k : κ) (l : List α) (a : α) :
    lastRun (fun b => key b == k) (l ++ [a]) =
      if k = key a then tailRun key (key a) l ++ [a] else lastRun (fun b => key b == k) l := by
  by_cases hk : k = key a
  · rw [if_pos hk, hk, lastRun_concat_of (by simp), tailRun]
  · rw [if_neg hk, lastRun_concat_of_not (by simpa using Ne.symm hk)]

/-- What the groups read so far say about the elements read so far: the newest
group is the run the elements end with, and each key finds its last run. -/
private structure GroupsOf (key : α → κ) (l : List α) (groups : List (κ × List α)) : Prop where
  tail : ∀ k, tailRun key k l = match groups with
    | [] => []
    | (k₀, run) :: _ => if k = k₀ then run else []
  lookup : ∀ k, groups.lookup k =
    if lastRun (fun a => key a == k) l = [] then none
    else some (lastRun (fun a => key a == k) l)

private theorem GroupsOf.step {key : α → κ} {l : List α} {groups : List (κ × List α)}
    (h : GroupsOf key l groups) (a : α) :
    GroupsOf key (l ++ [a]) (groupStep key groups a) := by
  have htail := h.tail (key a)
  match groups, h with
  | [], h =>
      refine ⟨fun k => ?_, fun k => ?_⟩
      · rw [tailRun_concat, htail]
        rfl
      · rw [lastRun_concat, htail, groupStep, List.lookup_cons]
        by_cases hk : k = key a
        · simp [hk]
        · rw [beq_false_of_ne hk, if_neg hk]
          exact h.lookup k
  | (k₀, run) :: rest, h =>
      by_cases hk₀ : k₀ = key a
      · simp only [if_pos hk₀.symm] at htail
        rw [groupStep, if_pos hk₀]
        refine ⟨fun k => ?_, fun k => ?_⟩
        · rw [tailRun_concat, htail, hk₀]
        · have hlook := h.lookup k
          rw [lastRun_concat, htail, List.lookup_cons]
          rw [List.lookup_cons] at hlook
          by_cases hk : k = key a
          · simp [hk, hk₀]
          · have hkk : (k == k₀) = false := beq_false_of_ne fun he => hk (he.trans hk₀)
            rw [hkk] at hlook ⊢
            rw [if_neg hk]
            exact hlook
      · simp only [if_neg fun he : key a = k₀ => hk₀ he.symm] at htail
        rw [groupStep, if_neg hk₀]
        refine ⟨fun k => ?_, fun k => ?_⟩
        · rw [tailRun_concat, htail]
          rfl
        · rw [lastRun_concat, htail, List.lookup_cons]
          by_cases hk : k = key a
          · simp [hk]
          · rw [beq_false_of_ne hk, if_neg hk]
            exact h.lookup k

private theorem groupsOf_foldl (key : α → κ) (l : List α) :
    GroupsOf key l (l.foldl (groupStep key) []) := by
  induction l using List.reverseRecOn with
  | nil => exact ⟨fun k => rfl, fun k => rfl⟩
  | append_singleton l a ih =>
      rw [List.foldl_append, List.foldl_cons, List.foldl_nil]
      exact ih.step a

theorem get?_ofPairs_groupby (key : α → κ) (l : List α) (k : κ) :
    (Dict.ofPairs (groupby key l)).get? k =
      if lastRun (fun a => key a == k) l = [] then none
      else some (lastRun (fun a => key a == k) l) := by
  rw [Dict.get?_ofPairs, groupby, List.reverse_reverse]
  exact (groupsOf_foldl key l).lookup k

/-! ## Lists of results -/

theorem mem_mapM_iff {α β : Type} {f : α → Option β} {l : List α} :
    ∀ {found : List β}, l.mapM f = some found → ∀ b, b ∈ found ↔ ∃ a ∈ l, f a = some b := by
  induction l with
  | nil =>
      intro found h b
      rw [List.mapM_nil] at h
      obtain rfl := Option.some.inj h
      simp
  | cons a l ih =>
      intro found h b
      rw [List.mapM_cons] at h
      obtain ⟨b₀, hb₀, h⟩ := Option.bind_eq_some_iff.mp h
      obtain ⟨rest, hrest, h⟩ := Option.bind_eq_some_iff.mp h
      obtain rfl := Option.some.inj h
      rw [List.mem_cons, ih hrest, List.exists_mem_cons_iff, hb₀, Option.some.injEq, eq_comm]

theorem mapM_cons_eq_some_iff {α β : Type} {f : α → Option β} {a : α} {l : List α} {b : β}
    {r : List β} : (a :: l).mapM f = some (b :: r) ↔ f a = some b ∧ l.mapM f = some r := by
  rw [List.mapM_cons]
  simp [Option.bind_eq_some_iff]

theorem exists_mapM_iff {α β : Type} {f : α → Option β} {R : β → α → Prop} : ∀ {l : List α},
    (∃ r, l.mapM f = some r ∧ List.Forall₂ R r l) ↔ ∀ a ∈ l, ∃ b, f a = some b ∧ R b a
  | [] => by simp
  | a :: l => by
      rw [List.forall_mem_cons, ← exists_mapM_iff]
      constructor
      · rintro ⟨r, hr, h⟩
        cases h with
        | cons hb hl =>
            obtain ⟨hf, hm⟩ := mapM_cons_eq_some_iff.mp hr
            exact ⟨⟨_, hf, hb⟩, _, hm, hl⟩
      · rintro ⟨⟨b, hf, hb⟩, r, hm, hl⟩
        exact ⟨b :: r, mapM_cons_eq_some_iff.mpr ⟨hf, hm⟩, .cons hb hl⟩

theorem exists_of_mapM {α β : Type} {f : α → Option β} {a : α} : ∀ {l : List α} {r : List β},
    l.mapM f = some r → a ∈ l → ∃ b ∈ r, f a = some b
  | a' :: l, [], h, _ => by
      rw [List.mapM_cons] at h
      simp [Option.bind_eq_some_iff] at h
  | a' :: l, b :: r, h, ha => by
      obtain ⟨hb, hl⟩ := mapM_cons_eq_some_iff.mp h
      rcases List.mem_cons.mp ha with rfl | ha
      · exact ⟨b, List.mem_cons_self, hb⟩
      · obtain ⟨b', hb', hf⟩ := exists_of_mapM hl ha
        exact ⟨b', List.mem_cons_of_mem _ hb', hf⟩

theorem map_eq_map_of_forall₂ {α β γ : Type} {f : β → γ} {g : α → γ} : ∀ {r : List β} {l : List α},
    List.Forall₂ (fun b a => f b = g a) r l → r.map f = l.map g
  | [], [], .nil => rfl
  | b :: r, a :: l, .cons h hrest => by
      rw [List.map_cons, List.map_cons, h, map_eq_map_of_forall₂ hrest]

end Py
