import DataWorkspace.Tools.Dsn

/-!
# The servers of pgAdmin

The configuration is read from the variables below `DATABASE_DSN`, and it is read at all
only when they make a dictionary of texts: when there are some, when no name goes on with
further components, and when not all names are integers (`pgadmin_config_eq_ok`).
-/

namespace Tools

open Py Core

/-! ## Reading the variables -/

theorem mapM_eq_ok {α β : Type} {f : α → Except Raised β} : ∀ {l : List α} {bs : List β},
    l.mapM f = .ok bs ↔ List.Forall₂ (fun a b => f a = .ok b) l bs
  | [], bs => by
      rw [List.mapM_nil, List.forall₂_nil_left_iff]
      exact ⟨fun h => (Except.ok.inj h).symm, fun h => h ▸ rfl⟩
  | a :: l, bs => by
      rw [List.mapM_cons, List.forall₂_cons_left_iff]
      constructor
      · intro h
        obtain ⟨b, hb, h⟩ := of_bind_eq_ok h
        obtain ⟨rest, hrest, h⟩ := of_bind_eq_ok h
        exact ⟨b, rest, hb, mapM_eq_ok.mp hrest, (Except.ok.inj h).symm⟩
      · rintro ⟨b, rest, hb, hrest, rfl⟩
        rw [hb, mapM_eq_ok.mpr hrest]
        rfl

theorem exists_of_forall₂ {α β : Type} {R : α → β → Prop} {a : α} {l : List α} {bs : List β}
    (h : List.Forall₂ R l bs) (ha : a ∈ l) : ∃ b ∈ bs, R a b := by
  induction h with
  | nil => cases ha
  | @cons a' b l bs hab _ ih =>
      rcases List.mem_cons.mp ha with rfl | ha
      · exact ⟨b, List.mem_cons_self, hab⟩
      · obtain ⟨b', hb', hab'⟩ := ih ha
        exact ⟨b', List.mem_cons_of_mem b hb', hab'⟩

theorem normalise_environment_ne_text (key_values : Dict Str Str) (value : Str) :
    normalise_environment key_values ≠ .text value := by
  rw [normalise_environment_eq, level]
  split
  next =>
    intro h
    cases h
  next =>
    intro h
    cases h

theorem all_keys_are_ints_text (items : List (Str × Str)) :
    all_keys_are_ints (items.map fun kv => (kv.1, .text kv.2)) = true ↔
      ¬ ∃ kv ∈ items, is_int kv.1 = false := by
  rw [all_keys_are_ints, List.all_map, List.all_eq_true]
  push Not
  exact forall₂_congr fun kv _ => (Bool.ne_false_iff).symm

/-- The configuration that some entries make. -/
def config_of (entries : List (Server × Str)) : Config where
  servers := .ofPairs (entries.zipIdx.map fun entry => (str entry.2, entry.1.1))
  passfile := entries.flatMap fun entry => entry.2 ++ "\n"

/-- The entries of what is below `DATABASE_DSN`. -/
def entries_of : Nested → Except Raised (List (Server × Str))
  | .dict dsns => dsns.mapM fun item => read_dsn item.1 item.2
  | _ => .error .AttributeError

theorem entries_of_eq_ok {group : Dict Str Str} {entries : List (Server × Str)} :
    entries_of (normalise_environment group) = .ok entries ↔
      (∀ kv ∈ group.items, get_later_components kv.1 = []) ∧
        (∃ kv ∈ group.items, is_int kv.1 = false) ∧
          List.Forall₂ (fun kv entry => read_dsn kv.1 (.text kv.2) = .ok entry) group.items
            entries := by
  rw [normalise_environment_eq, level]
  by_cases hflat : ∀ kv ∈ group.items, get_later_components kv.1 = []
  · rw [nested_of_no_more hflat]
    by_cases hints : ∃ kv ∈ group.items, is_int kv.1 = false
    · rw [if_neg (mt (all_keys_are_ints_text _).mp (not_not_intro hints)), entries_of, mapM_eq_ok,
        List.forall₂_map_left_iff]
      exact ⟨fun h => ⟨hflat, hints, h⟩, fun h => h.2.2⟩
    · rw [if_pos ((all_keys_are_ints_text _).mpr hints)]
      refine iff_of_false ?_ fun h => hints h.2.1
      intro h
      cases h
  · refine iff_of_false (fun h => ?_) fun h => hflat h.1
    push Not at hflat
    obtain ⟨kv, hkv, hne⟩ := hflat
    -- The components of the name lead to something that is no text.
    have hcomponent : component group (get_first_component kv.1) ≠ [] :=
      List.ne_nil_of_mem (List.mem_map.mpr
        ⟨kv, List.mem_filter.mpr ⟨mem_with_more.mpr ⟨hkv, hne⟩, decide_eq_true rfl⟩, rfl⟩)
    obtain ⟨below, -, hget⟩ := nested_of_component normalise_environment hcomponent
    rw [← Dict.mem_items_iff] at hget
    split at h
    next => cases h
    next =>
      obtain ⟨entry, -, hread⟩ := exists_of_forall₂ (mapM_eq_ok.mp h) hget
      dsimp only at hread
      rw [read_dsn] at hread
      · cases hread
      · exact normalise_environment_ne_text below

theorem is_int_DATABASE_DSN : is_int "DATABASE_DSN" = false := by decide

theorem pgadmin_config_dict {nested : Dict Str Nested} {below : Nested}
    (hget : nested.get? "DATABASE_DSN" = some below) :
    (do
      let dsns ← database_dsn_items (.dict nested.items)
      let entries ← dsns.mapM fun item => read_dsn item.1 item.2
      .ok (config_of entries)) = (do
      let entries ← entries_of below
      .ok (config_of entries)) := by
  rw [database_dsn_items, ← Dict.get?_eq_find, hget]
  cases below with
  | text value => rfl
  | dict dsns => rfl
  | list values => rfl

theorem pgadmin_config_eq_ok {environ : Dict Str Str} {config : Config} :
    pgadmin_config environ = .ok config ↔
      component environ "DATABASE_DSN" ≠ [] ∧
        (∀ kv ∈ component environ "DATABASE_DSN", get_later_components kv.1 = []) ∧
          (∃ kv ∈ component environ "DATABASE_DSN", is_int kv.1 = false) ∧
            ∃ entries, List.Forall₂ (fun kv entry => read_dsn kv.1 (.text kv.2) = .ok entry)
              (component environ "DATABASE_DSN") entries ∧ config = config_of entries := by
  have hrun : pgadmin_config environ =
      (do
        let dsns ← database_dsn_items (normalise_environment environ)
        let entries ← dsns.mapM fun item => read_dsn item.1 item.2
        .ok (config_of entries)) := rfl
  have hnested := get?_nested normalise_environment environ "DATABASE_DSN"
  rw [hrun, normalise_environment_eq, level]
  by_cases hnil : component environ "DATABASE_DSN" = []
  · refine iff_of_false (fun h => ?_) fun h => h.1 hnil
    rw [if_pos hnil] at hnested
    split at h
    next => cases h
    next =>
      obtain ⟨dsns, hdsns, -⟩ := of_bind_eq_ok h
      cases hget : (without_more_components environ).get? "DATABASE_DSN" with
      | none =>
          rw [hget, Option.map_none] at hnested
          rw [database_dsn_items, ← Dict.get?_eq_find, hnested] at hdsns
          cases hdsns
      | some value =>
          rw [hget, Option.map_some] at hnested
          rw [database_dsn_items, ← Dict.get?_eq_find, hnested] at hdsns
          cases hdsns
  · obtain ⟨group, hgroup, hget⟩ := nested_of_component normalise_environment hnil
    have hitem := (Dict.mem_items_iff _ _ _).mpr hget
    have hints : ¬ all_keys_are_ints
        (nested_structured_dict normalise_environment environ).items = true := by
      intro hall
      have h := List.all_eq_true.mp hall _ hitem
      rw [is_int_DATABASE_DSN] at h
      cases h
    rw [if_neg hints, pgadmin_config_dict hget, ← hgroup]
    constructor
    · intro h
      obtain ⟨entries, hentries, h⟩ := of_bind_eq_ok h
      obtain ⟨hflat, hint, hread⟩ := entries_of_eq_ok.mp hentries
      exact ⟨hgroup ▸ hnil, hflat, hint, entries, hread, (Except.ok.inj h).symm⟩
    · rintro ⟨-, hflat, hint, entries, hread, rfl⟩
      rw [entries_of_eq_ok.mpr ⟨hflat, hint, hread⟩]
      rfl

end Tools
