import DataWorkspace.Applications.Models

/-!
# Public hosts

The public host of a tool is the `host_basename` of its template, a `-` and the short
hash of the user.  The public host of a visualisation is its `host_basename`, which `--`
and a commit id follow for a preview.

`application_template_tag_user_commit_from_host` takes a public host apart.  A commit id
and a user hash are told by `int(val, 16)` and the length 8.
-/

namespace Applications

open Py

/-! ## Texts of eight hexadecimal characters -/

/-- A hexadecimal digit. -/
def isHexDigit (c : Char) : Bool :=
  c.isDigit || ('a' ≤ c ∧ c ≤ 'f') || ('A' ≤ c ∧ c ≤ 'F')

/-- Hexadecimal digits, which single underscores may separate. -/
def isHexDigits (s : Str) : Bool :=
  (s.splitOn '_').all fun part => !part.isEmpty && part.all isHexDigit

/-- Digits after an optional prefix `0x`. -/
@[grind =]
def isUnsignedHex : Str → Bool
  | '0' :: 'x' :: '_' :: s => isHexDigits s
  | '0' :: 'X' :: '_' :: s => isHexDigits s
  | '0' :: 'x' :: s => isHexDigits s
  | '0' :: 'X' :: s => isHexDigits s
  | s => isHexDigits s

/-- `int(s, 16)` raises no `ValueError`. -/
def isHexInt (s : Str) : Bool :=
  match strip s with
  | '+' :: t => isUnsignedHex t
  | '-' :: t => isUnsignedHex t
  | t => isUnsignedHex t

/-- `is_8_char_hex(val)`. -/
def is_8_char_hex (val : Str) : Bool := isHexInt val && val.length == 8

example : is_8_char_hex "0x1_2345" = true ∧ is_8_char_hex "1234567g" = false := by decide

/-! ## Taking a public host apart -/

/-- The commit id after the rightmost `--`, and what is before it. -/
def commit_suffix (public_host : Str) : Option (Str × Str) :=
  let (possible_host_basename, _, host_basename_or_commit_id) := rpartition "--" public_host
  if possible_host_basename ≠ [] ∧ is_8_char_hex host_basename_or_commit_id = true then
    some (possible_host_basename, host_basename_or_commit_id)
  else none

/-- The user hash after the rightmost `-`, and what is before it. -/
def user_suffix (host_basename : Str) : Option (Str × Str) :=
  let (possible_host_basename, _, host_basename_or_user) := rpartition "-" host_basename
  if possible_host_basename ≠ [] ∧ is_8_char_hex host_basename_or_user = true then
    some (possible_host_basename, host_basename_or_user)
  else none

/-- The parts of a public host. -/
structure HostParts where
  host_basename : Str
  user : Option Str
  commit_id : Option Str
deriving DecidableEq, Repr

def without_commit (public_host : Str) : Str × Option Str :=
  match commit_suffix public_host with
  | some (host_basename, commit_id) => (host_basename, some commit_id)
  | none => (public_host, none)

/-- The commit id is taken off first, then the user hash. -/
def host_parts (public_host : Str) : HostParts :=
  match user_suffix (without_commit public_host).1 with
  | some (host_basename, user) => ⟨host_basename, some user, (without_commit public_host).2⟩
  | none => ⟨(without_commit public_host).1, none, (without_commit public_host).2⟩

/-- What a public host was found to be. -/
structure FoundHost where
  application_template : ApplicationTemplate
  tag : Option Str
  user : Option Str
  commit_id : Option Str
deriving DecidableEq, Repr

/-- Why there is no template for a public host. -/
inductive HostError where
  | DoesNotExist
  | too_many
deriving DecidableEq, Repr

/-- The templates with a type and a `host_basename`. -/
def TemplateTable.filter (table : TemplateTable) (application_type : ApplicationType)
    (host_basename : Str) : List ApplicationTemplate :=
  table.rows.filter fun t =>
    t.application_type == application_type && t.host_basename == host_basename

/-- `application_template_tag_user_commit_from_host(public_host)`. -/
def application_template_tag_user_commit_from_host (table : TemplateTable) (public_host : Str) :
    Except HostError FoundHost :=
  let parts := host_parts public_host
  let matching_tools :=
    if parts.user.isSome then table.filter .TOOL parts.host_basename else []
  let matching_visualisations :=
    if parts.user.isNone then table.filter .VISUALISATION parts.host_basename else []
  let tag := if matching_visualisations = [] then none else some public_host
  match matching_tools ++ matching_visualisations with
  | [] => .error .DoesNotExist
  | [t] => .ok ⟨t, tag, parts.user, parts.commit_id⟩
  | _ :: _ :: _ => .error .too_many

/-! ## The parts make the host -/

/-- A suffix that may be there, after its separator. -/
def withSuffix (sep : Str) : Option Str → Str
  | some s => sep ++ s
  | none => []

theorem commit_suffix_eq_some {public_host host_basename commit_id : Str}
    (h : commit_suffix public_host = some (host_basename, commit_id)) :
    public_host = host_basename ++ "--" ++ commit_id := by
  rcases hp : rpartition "--" public_host with ⟨p, m, r⟩
  rw [commit_suffix, hp] at h
  simp only [Option.ite_none_right_eq_some, Option.some.injEq, Prod.mk.injEq] at h
  obtain ⟨⟨hne, -⟩, rfl, rfl⟩ := h
  rcases rpartition_cases (by decide) hp with ⟨-, hs⟩ | ⟨-, hnil, -⟩
  · exact hs
  · exact absurd hnil hne

theorem user_suffix_eq_some {host_basename possible_host_basename user : Str}
    (h : user_suffix host_basename = some (possible_host_basename, user)) :
    host_basename = possible_host_basename ++ "-" ++ user := by
  rcases hp : rpartition "-" host_basename with ⟨p, m, r⟩
  rw [user_suffix, hp] at h
  simp only [Option.ite_none_right_eq_some, Option.some.injEq, Prod.mk.injEq] at h
  obtain ⟨⟨hne, -⟩, rfl, rfl⟩ := h
  rcases rpartition_cases (by decide) hp with ⟨-, hs⟩ | ⟨-, hnil, -⟩
  · exact hs
  · exact absurd hnil hne

theorem without_commit_append (public_host : Str) :
    (without_commit public_host).1 ++ withSuffix "--" (without_commit public_host).2 =
      public_host := by
  rw [without_commit]
  cases h : commit_suffix public_host with
  | none => exact List.append_nil _
  | some found =>
      obtain ⟨host_basename, commit_id⟩ := found
      rw [commit_suffix_eq_some h]
      exact (List.append_assoc _ _ _).symm

theorem host_parts_append (public_host : Str) :
    (host_parts public_host).host_basename ++ withSuffix "-" (host_parts public_host).user ++
      withSuffix "--" (host_parts public_host).commit_id = public_host := by
  rw [host_parts]
  have happ := without_commit_append public_host
  cases h : user_suffix (without_commit public_host).1 with
  | none =>
      simp only [withSuffix, List.append_nil]
      exact happ
  | some found =>
      obtain ⟨host_basename, user⟩ := found
      rw [user_suffix_eq_some h] at happ
      simpa [withSuffix] using happ

/-! ## Finding the template -/

section Found

variable {table : TemplateTable} {public_host : Str} {found : FoundHost}

theorem TemplateTable.mem_filter {application_type : ApplicationType} {host_basename : Str}
    {t : ApplicationTemplate} : t ∈ table.filter application_type host_basename ↔
      t ∈ table.rows ∧ t.application_type = application_type ∧ t.host_basename = host_basename := by
  rw [filter, List.mem_filter, Bool.and_eq_true, beq_iff_eq, beq_iff_eq]

theorem TemplateTable.filter_of_mem {t : ApplicationTemplate} (ht : t ∈ table.rows) :
    table.filter t.application_type t.host_basename = [t] := by
  obtain ⟨rows, unique⟩ := table
  induction rows with
  | nil => cases ht
  | cons u rows ih =>
      rw [List.map_cons, List.nodup_cons] at unique
      rcases List.mem_cons.mp ht with rfl | ht
      · have hrest : rows.filter (fun u => u.application_type == t.application_type &&
            u.host_basename == t.host_basename) = [] := by
          rw [List.filter_eq_nil_iff]
          intro u hu h
          rw [Bool.and_eq_true, beq_iff_eq, beq_iff_eq] at h
          exact unique.1 (h.2 ▸ List.mem_map_of_mem hu)
        simp [TemplateTable.filter, hrest]
      · have hne : u.host_basename ≠ t.host_basename := fun he =>
          unique.1 (he ▸ List.mem_map_of_mem ht)
        have hrest := ih unique.2 ht
        rw [TemplateTable.filter] at hrest ⊢
        rw [List.filter_cons_of_neg (by simp [hne]), hrest]

/-- What a host is found to be: a tool of the table when it has a user hash, and a
visualisation when it has none. -/
structure Found (table : TemplateTable) (public_host : Str) (found : FoundHost) : Prop where
  parts : host_parts public_host =
    ⟨found.application_template.host_basename, found.user, found.commit_id⟩
  mem : found.application_template ∈ table.rows
  tool_iff : found.application_template.application_type = .TOOL ↔ found.user.isSome = true
  tag : found.tag = if found.user.isSome then none else some public_host

theorem found_of_ok
    (h : application_template_tag_user_commit_from_host table public_host = .ok found) :
    Found table public_host found := by
  rw [application_template_tag_user_commit_from_host] at h
  cases hu : (host_parts public_host).user with
  | some user =>
      simp only [hu, Option.isSome_some, Option.isNone_some, if_true, Bool.false_eq_true, if_false,
        List.append_nil] at h
      split at h
      next => cases h
      next t ht =>
        have hmem := TemplateTable.mem_filter.mp (ht ▸ List.mem_singleton.mpr rfl)
        cases h
        exact ⟨by rw [hmem.2.2, ← hu], hmem.1, by simp [hmem.2.1], rfl⟩
      next => cases h
  | none =>
      simp only [hu, Option.isSome_none, Option.isNone_none, if_true, Bool.false_eq_true, if_false,
        List.nil_append] at h
      split at h
      next => cases h
      next t ht =>
        have hmem := TemplateTable.mem_filter.mp (ht ▸ List.mem_singleton.mpr rfl)
        cases h
        exact ⟨by rw [hmem.2.2, ← hu], hmem.1, by simp [hmem.2.1], by simp [ht]⟩
      next => cases h

theorem ok_of_found (h : Found table public_host found) :
    application_template_tag_user_commit_from_host table public_host = .ok found := by
  obtain ⟨t, tag, user, commit_id⟩ := found
  obtain ⟨hparts, hmem, htool, htag⟩ := h
  simp only at hparts hmem htool htag
  have hfilter := TemplateTable.filter_of_mem hmem
  rw [application_template_tag_user_commit_from_host, hparts]
  cases user with
  | some user =>
      rw [htool.mpr rfl] at hfilter
      simp [hfilter, htag]
  | none =>
      have htype : t.application_type = .VISUALISATION := by
        cases ht : t.application_type with
        | TOOL => exact absurd (htool.mp ht) (by simp)
        | VISUALISATION => rfl
      rw [htype] at hfilter
      simp [hfilter, htag]

theorem Found.host_eq (h : Found table public_host found) :
    found.application_template.host_basename ++ withSuffix "-" found.user ++
      withSuffix "--" found.commit_id = public_host := by
  have happ := host_parts_append public_host
  rwa [h.parts] at happ

end Found

end Applications
