import DataWorkspace.Py.Grouping
import DataWorkspace.Py.Split

/-!
# The parameters of a query in a URL

Data Explorer keeps the values of the parameters of a query in its URLs.  `get_params_for_url`
writes a name and a value with `:` between them, and the pairs with `|` between them.  Nothing is
escaped.  `params_round_trip_iff` says which dictionaries are read back.
-/

namespace Explorer

open Py

/-- `"%s:%s" % (p, v)`. -/
def pair (p v : Str) : Str := p ++ ":" ++ v

/-- What is written for the parameters of a query, if it has any. -/
def get_params_for_url (params : Option (Dict Str Str)) : Option Str :=
  match params with
  | none => none
  | some params =>
      if params.items.isEmpty then none
      else some (join "|" (params.items.map fun kv => pair kv.1 kv.2))

/-- `t.split(":")`, the first two parts of it. -/
def nameAndValue (t : Str) : Option (Str × Str) :=
  match split ":" t with
  | name :: value :: _ => some (name, value)
  | _ => none

/-- What is read from the `params` of a URL.  Any exception makes it `none`. -/
def get_params_from_request (val : Option Str) : Option (Dict Str Str) := do
  let val ← val
  let pairs ← (split "|" val).mapM nameAndValue
  some (Dict.ofPairs pairs)

/-- The value that is written, if any, is read as the same dictionary. -/
def RoundTrips (params : Dict Str Str) : Prop :=
  ∀ val, get_params_for_url (some params) = some val →
    ∃ params', get_params_from_request (some val) = some params' ∧
      ∀ name, params'.get? name = params.get? name

/-- Without the separators. -/
def Plain (s : Str) : Prop := ':' ∉ s ∧ '|' ∉ s

theorem get_params_for_url_some {params : Dict Str Str} (h : params.items ≠ []) :
    get_params_for_url (some params) =
      some (join "|" (params.items.map fun kv => pair kv.1 kv.2)) := by
  rw [get_params_for_url, if_neg (by rwa [List.isEmpty_iff])]

theorem nameAndValue_pair {p v : Str} (hp : Plain p) (hv : Plain v) :
    nameAndValue (pair p v) = some (p, v) := by
  have hsplit : split [':'] (join [':'] [p, v]) = [p, v] :=
    split_join (List.cons_ne_nil p [v]) (by simp [hp.1, hv.1])
  have hpair : pair p v = join [':'] [p, v] := by simp [pair, join]
  have hparts : split ":" (pair p v) = [p, v] := by
    rw [hpair]
    exact hsplit
  rw [nameAndValue, hparts]

theorem bar_not_mem_pair {p v : Str} (hp : Plain p) (hv : Plain v) : '|' ∉ pair p v := by
  simp [pair, hp.2, hv.2]

theorem mapM_nameAndValue {items : List (Str × Str)}
    (h : ∀ kv ∈ items, Plain kv.1 ∧ Plain kv.2) :
    (items.map fun kv => pair kv.1 kv.2).mapM nameAndValue = some items := by
  induction items with
  | nil => rfl
  | cons kv items ih =>
      obtain ⟨hp, hv⟩ := h kv List.mem_cons_self
      rw [List.map_cons, List.mapM_cons, nameAndValue_pair hp hv,
        ih fun kv' hkv' => h kv' (List.mem_cons_of_mem _ hkv')]
      rfl

theorem plain_of_read {t name value : Str} (ht : '|' ∉ t)
    (h : nameAndValue t = some (name, value)) : Plain name ∧ Plain value := by
  have hpart {part : Str} (hpart : part ∈ split ":" t) : Plain part :=
    ⟨(mem_split hpart).1, fun hmem => ht ((mem_split hpart).2 hmem)⟩
  rw [nameAndValue] at h
  split at h
  next name' value' rest hsplit =>
    cases h
    rw [hsplit] at hpart
    exact ⟨hpart List.mem_cons_self, hpart (List.mem_cons_of_mem _ List.mem_cons_self)⟩
  next => cases h

theorem plain_of_get_params_from_request {val : Str} {params : Dict Str Str}
    (h : get_params_from_request (some val) = some params) {name value : Str}
    (hget : params.get? name = some value) : Plain name ∧ Plain value := by
  obtain ⟨pairs, hpairs, h⟩ := Option.bind_eq_some_iff.mp h
  cases h
  obtain ⟨t, ht, hread⟩ := (mem_mapM_iff hpairs _).mp (Dict.mem_of_get?_ofPairs hget)
  exact plain_of_read (mem_split ht).1 hread

/-- A dictionary is read back if and only if no name and no value of it has a separator. -/
theorem params_round_trip_iff (params : Dict Str Str) :
    RoundTrips params ↔ ∀ kv ∈ params.items, Plain kv.1 ∧ Plain kv.2 := by
  constructor
  · rintro h ⟨name, value⟩ hkv
    obtain ⟨params', hread, hsame⟩ :=
      h _ (get_params_for_url_some (List.ne_nil_of_mem hkv))
    have hget : params.get? name = some value := (params.mem_items_iff name value).mp hkv
    exact plain_of_get_params_from_request hread ((hsame name).trans hget)
  · intro h val hval
    have hne : params.items ≠ [] := by
      intro hnil
      rw [get_params_for_url, hnil] at hval
      cases hval
    rw [get_params_for_url_some hne] at hval
    cases hval
    have hsplit : split "|" (join "|" (params.items.map fun kv => pair kv.1 kv.2)) =
        params.items.map fun kv => pair kv.1 kv.2 := by
      refine split_join (by simpa using hne) ?_
      intro part hpart
      obtain ⟨kv, hkv, rfl⟩ := List.mem_map.mp hpart
      exact bar_not_mem_pair (h kv hkv).1 (h kv hkv).2
    refine ⟨Dict.ofPairs params.items, ?_, ?_⟩
    · show (split "|" _).mapM nameAndValue >>= _ = _
      rw [hsplit, mapM_nameAndValue h]
      rfl
    · intro name
      rw [Dict.get?, Dict.items_ofPairs params.nodup, Dict.get?]

/-- A time is cut off at its first colon, and a bar makes two parameters of one. -/
theorem params_not_read_back :
    (¬ RoundTrips (Dict.ofPairs [("start", "12:30")])) ∧
      ¬ RoundTrips (Dict.ofPairs [("a", "1|b:2")]) := by
  constructor
  · intro h
    obtain ⟨params, hread, hsame⟩ := h _ rfl
    cases hread
    exact absurd (hsame "start") (by decide)
  · intro h
    obtain ⟨params, hread, hsame⟩ := h _ rfl
    cases hread
    exact absurd (hsame "a") (by decide)

end Explorer
