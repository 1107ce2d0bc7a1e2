import DataWorkspace.Py.Collections
import DataWorkspace.Py.Text
import Mathlib.Data.List.Lex
import Mathlib.Data.List.Sort

/-!
# Merging and grouping

`{**d, **other}` sets the items of the second dictionary in the first one.

`itertools.groupby` finds one group of each key when its input is sorted by the key: the
items of the key (`lookup_groupedBy`).  In an input that is not sorted it finds the last run
of the key only (`get?_ofPairs_groupby`).
-/

namespace Py

/-! ## Merging -/

section

variable {κ β : Type} [DecidableEq κ]

theorem lookup_map {γ : Type} (f : κ → β → γ) (k : κ) : ∀ l : List (κ × β),
    (l.map fun kv => (kv.1, f kv.1 kv.2)).lookup k = (l.lookup k).map (f k)
  | [] => rfl
  | (k', v) :: l => by
      rw [List.map_cons, List.lookup_cons, List.lookup_cons, lookup_map f k l]
      by_cases h : k = k'
      · rw [h, beq_self_eq_true]
        rfl
      · rw [beq_false_of_ne h]

namespace Dict

/-- `d.update(pairs)`. -/
def update (d : Dict κ β) (pairs : List (κ × β)) : Dict κ β :=
  pairs.foldl (fun d kv => d.set kv.1 kv.2) d

theorem update_nil (d : Dict κ β) : d.update [] = d := rfl

theorem get?_update (d : Dict κ β) (pairs : List (κ × β)) (k : κ) :
    (d.update pairs).get? k = (pairs.reverse.lookup k).or (d.get? k) := by
  induction pairs using List.reverseRecOn with
  | nil => rfl
  | append_singleton pairs kv ih =>
      have hset : d.update (pairs ++ [kv]) = (d.update pairs).set kv.1 kv.2 := by
        rw [update, List.foldl_append, List.foldl_cons, List.foldl_nil, ← update]
      rw [hset, get?_set, ih, List.reverse_append, List.reverse_singleton, List.singleton_append,
        List.lookup_cons]
      by_cases h : k = kv.1
      · rw [if_pos h, beq_iff_eq.mpr h]
        rfl
      · rw [if_neg h, beq_false_of_ne h]

theorem get?_eq_find (d : Dict κ β) (k : κ) :
    d.get? k = (d.items.find? fun item => item.1 = k).map Prod.snd := by
  rw [get?]
  induction d.items with
  | nil => rfl
  | cons kv items ih =>
      rw [List.lookup_cons, List.find?_cons]
      by_cases h : k = kv.1
      · rw [beq_iff_eq.mpr h, decide_eq_true h.symm]
        rfl
      · rw [beq_false_of_ne h, decide_eq_false (Ne.symm h)]
        exact ih

theorem items_set_of_not_mem (d : Dict κ β) {k : κ} (v : β) (h : k ∉ d.items.map Prod.fst) :
    (d.set k v).items = d.items ++ [(k, v)] := by
  have hset : ∀ items : List (κ × β), k ∉ items.map Prod.fst →
      setItem k v items = items ++ [(k, v)] := by
    intro items
    induction items with
    | nil => exact fun _ => rfl
    | cons kv items ih =>
        intro hk
        rw [List.map_cons, List.mem_cons, not_or] at hk
        rw [setItem, if_neg (Ne.symm hk.1), ih hk.2, List.cons_append]
  exact hset d.items h

theorem keys_foldl_set_congr {γ : Type} : ∀ {pairs : List (κ × β)} {pairs' : List (κ × γ)}
    {d : Dict κ β} {d' : Dict κ γ}, pairs.map Prod.fst = pairs'.map Prod.fst →
      d.items.map Prod.fst = d'.items.map Prod.fst →
      (pairs.foldl (fun d kv => d.set kv.1 kv.2) d).items.map Prod.fst =
        (pairs'.foldl (fun d kv => d.set kv.1 kv.2) d').items.map Prod.fst
  | [], [], _, _, _, h => h
  | kv :: pairs, kv' :: pairs', d, d', hkeys, h => by
      rw [List.map_cons, List.map_cons, List.cons.injEq] at hkeys
      rw [List.foldl_cons, List.foldl_cons]
      refine keys_foldl_set_congr hkeys.2 ?_
      rw [set, set, keys_setItem, keys_setItem, h, hkeys.1]

theorem keys_ofPairs_congr {γ : Type} {pairs : List (κ × β)} {pairs' : List (κ × γ)}
    (h : pairs.map Prod.fst = pairs'.map Prod.fst) :
    (ofPairs pairs).items.map Prod.fst = (ofPairs pairs').items.map Prod.fst :=
  keys_foldl_set_congr h rfl

theorem items_eq_iff {d d' : Dict κ β} : d.items = d'.items ↔
    d.items.map Prod.fst = d'.items.map Prod.fst ∧ ∀ k, d.get? k = d'.get? k := by
  constructor
  · intro h
    exact ⟨by rw [h], fun k => by rw [get?, get?, h]⟩
  · rintro ⟨hkeys, hvalues⟩
    refine List.ext_getElem (by simpa using congrArg List.length hkeys) fun i hi hi' => ?_
    have hkey : d.items[i].1 = d'.items[i].1 := by
      have hi₀ := congrArg (fun keys => keys[i]?) hkeys
      simpa [List.getElem?_eq_getElem, hi, hi'] using hi₀
    have hvalue := (d.mem_items_iff d.items[i].1 d.items[i].2).mp (List.getElem_mem hi)
    have hvalue' := (d'.mem_items_iff d'.items[i].1 d'.items[i].2).mp (List.getElem_mem hi')
    rw [hvalues, hkey, hvalue', Option.some_inj] at hvalue
    exact Prod.ext hkey hvalue.symm

theorem items_ofPairs {pairs : List (κ × β)} (h : (pairs.map Prod.fst).Nodup) :
    (ofPairs pairs).items = pairs := by
  induction pairs using List.reverseRecOn with
  | nil => rfl
  | append_singleton pairs kv ih =>
      rw [List.map_append, List.nodup_append] at h
      obtain ⟨hpairs, -, hdisjoint⟩ := h
      have hset : ofPairs (pairs ++ [kv]) = (ofPairs pairs).set kv.1 kv.2 := by
        rw [ofPairs, List.foldl_append, List.foldl_cons, List.foldl_nil, ← ofPairs]
      have hnew : kv.1 ∉ (ofPairs pairs).items.map Prod.fst := by
        rw [ih hpairs]
        exact fun hk => hdisjoint _ hk _ (List.mem_singleton_self _) rfl
      rw [hset, items_set_of_not_mem _ _ hnew, ih hpairs]

end Dict

end

/-! ## Grouping -/

section

variable {κ α : Type} [LinearOrder κ]

/-- The items sorted by a key, those of one key in the order they had. -/
def sortedBy (key : α → κ) (l : List α) : List α := l.insertionSort fun a b => key a ≤ key b

theorem sortedBy_perm (key : α → κ) (l : List α) : (sortedBy key l).Perm l :=
  List.perm_insertionSort _ l

theorem pairwise_sortedBy (key : α → κ) (l : List α) :
    (sortedBy key l).Pairwise fun a b => key a ≤ key b := by
  have : Std.Total fun a b : α => key a ≤ key b := ⟨fun a b => le_total (key a) (key b)⟩
  have : IsTrans α fun a b => key a ≤ key b := ⟨fun a b c => le_trans⟩
  exact List.pairwise_insertionSort _ l

end

section

variable {κ α : Type} [DecidableEq κ] [LinearOrder κ]

theorem rtakeWhile_eq_filter {key : α → κ} {k : κ} {l : List α}
    (hsorted : l.Pairwise fun a b => key a ≤ key b) (hle : ∀ a ∈ l, key a ≤ k) :
    (l.rtakeWhile fun a => key a == k) = l.filter fun a => key a == k := by
  induction l using List.reverseRecOn with
  | nil => rfl
  | append_singleton l a ih =>
      rw [List.pairwise_append] at hsorted
      obtain ⟨hl, -, hlast⟩ := hsorted
      by_cases ha : key a = k
      · have hpos : (fun b => key b == k) a = true := beq_iff_eq.mpr ha
        rw [List.rtakeWhile_concat_pos (fun b => key b == k) l a hpos,
          ih hl fun b hb => hle b (List.mem_append_left _ hb)]
        simp [ha]
      · have hneg : ¬ (fun b => key b == k) a = true := fun h => ha (beq_iff_eq.mp h)
        rw [List.rtakeWhile_concat_neg (fun b => key b == k) l a hneg, eq_comm,
          List.filter_eq_nil_iff]
        intro b hb
        rw [beq_iff_eq]
        -- The last element has a smaller key, and the others have none greater.
        have hak : key a < k := lt_of_le_of_ne (hle a (by simp)) ha
        rcases List.mem_append.mp hb with hb | hb
        · exact ne_of_lt (lt_of_le_of_lt (hlast b hb a (List.mem_singleton_self a)) hak)
        · rw [List.mem_singleton.mp hb]
          exact ha

theorem lastRun_eq_filter {key : α → κ} (k : κ) {l : List α}
    (hsorted : l.Pairwise fun a b => key a ≤ key b) :
    lastRun (fun a => key a == k) l = l.filter fun a => key a == k := by
  induction l using List.reverseRecOn with
  | nil => rfl
  | append_singleton l a ih =>
      rw [List.pairwise_append] at hsorted
      obtain ⟨hl, -, hlast⟩ := hsorted
      by_cases ha : key a = k
      · have hle : ∀ b ∈ l, key b ≤ k :=
          fun b hb => ha ▸ hlast b hb a (List.mem_singleton_self a)
        have hpos : (fun b => key b == k) a = true := beq_iff_eq.mpr ha
        rw [lastRun_concat_of (p := fun b => key b == k) hpos, rtakeWhile_eq_filter hl hle]
        simp [ha]
      · have hneg : (fun b => key b == k) a = false := beq_false_of_ne ha
        rw [lastRun_concat_of_not (p := fun b => key b == k) hneg, ih hl]
        simp [ha]

/-- What a sorted input is grouped into. -/
def groupedBy (key : α → κ) (l : List α) : List (κ × List α) := groupby key (sortedBy key l)

theorem filter_sortedBy (key : α → κ) (l : List α) (k : κ) :
    ((sortedBy key l).filter fun a => key a = k) = l.filter fun a => key a = k := by
  have : Std.Total fun a b : α => key a ≤ key b := ⟨fun a b => le_total (key a) (key b)⟩
  have : IsTrans α fun a b => key a ≤ key b := ⟨fun a b c => le_trans⟩
  have hequal : (l.filter fun a => key a = k).Pairwise fun a b => key a ≤ key b := by
    refine List.pairwise_of_forall_mem_list fun a ha b hb => ?_
    rw [of_decide_eq_true (List.mem_filter.mp ha).2, of_decide_eq_true (List.mem_filter.mp hb).2]
  have hsub : (l.filter fun a => key a = k).Sublist (sortedBy key l) :=
    List.sublist_insertionSort hequal List.filter_sublist
  have hfilter := hsub.filter fun a => key a = k
  rw [List.filter_filter] at hfilter
  simp only [Bool.and_self] at hfilter
  exact (hfilter.eq_of_length ((sortedBy_perm key l).filter _).length_eq.symm).symm

theorem lookup_groupedBy (key : α → κ) (l : List α) (k : κ) :
    (groupedBy key l).reverse.lookup k =
      if (l.filter fun a => key a = k) = [] then none else some (l.filter fun a => key a = k) := by
  have hrun : lastRun (fun a => key a == k) (sortedBy key l) = l.filter fun a => key a = k := by
    rw [← filter_sortedBy key l k]
    exact lastRun_eq_filter k (pairwise_sortedBy key l)
  rw [groupedBy, ← Dict.get?_ofPairs, get?_ofPairs_groupby, hrun]

omit [LinearOrder κ] in
theorem mem_groupStep {key : α → κ} {a b : α} {g : κ × List α} : ∀ {groups : List (κ × List α)},
    g ∈ groupStep key groups b → a ∈ g.2 → a = b ∨ ∃ g' ∈ groups, a ∈ g'.2
  | [], hg, ha => by
      rw [groupStep, List.mem_singleton] at hg
      rw [hg, List.mem_singleton] at ha
      exact .inl ha
  | (k, run) :: rest, hg, ha => by
      rw [groupStep] at hg
      split at hg
      next =>
        rcases List.mem_cons.mp hg with rfl | hg
        · rcases List.mem_append.mp ha with ha | ha
          · exact .inr ⟨(k, run), List.mem_cons_self, ha⟩
          · exact .inl (List.mem_singleton.mp ha)
        · exact .inr ⟨g, List.mem_cons_of_mem _ hg, ha⟩
      next =>
        rcases List.mem_cons.mp hg with rfl | hg
        · exact .inl (List.mem_singleton.mp ha)
        · exact .inr ⟨g, hg, ha⟩

theorem mem_of_mem_groupedBy {key : α → κ} {l : List α} {group : κ × List α} {a : α}
    (hgroup : group ∈ groupedBy key l) (ha : a ∈ group.2) : a ∈ l := by
  have hfold : ∀ (l : List α) (groups : List (κ × List α)),
      group ∈ l.foldl (groupStep key) groups → a ∈ l ∨ ∃ g ∈ groups, a ∈ g.2 := by
    intro l
    induction l with
    | nil => exact fun groups h => .inr ⟨group, h, ha⟩
    | cons b l ih =>
        intro groups h
        rcases ih _ h with hl | ⟨g, hg, hag⟩
        · exact .inl (List.mem_cons_of_mem b hl)
        · rcases mem_groupStep hg hag with rfl | h
          · exact .inl List.mem_cons_self
          · exact .inr h
  rcases hfold _ [] (List.mem_reverse.mp hgroup) with h | ⟨g, hg, -⟩
  · exact (sortedBy_perm key l).mem_iff.mp h
  · exact absurd hg List.not_mem_nil

end

end Py
