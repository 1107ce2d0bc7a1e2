import DataWorkspace.Applications.Hosts
import DataWorkspace.Proxy.Handlers

/-!
# Public hosts there and back

The application builds the public host of a tool from its `host_basename` and a user
hash, and those of a visualisation from its `host_basename` and, for a preview, a commit
id.  The proxy takes a port off the host of a request, and the application takes the
rest apart.

`found_as_built_iff` says for which templates, users and commits both find what the host
was built from.  A commit id that is a port number is taken for one
(`commit_taken_for_port`).
-/

namespace Applications

open Py Proxy

/-! ## Building -/

/-- What a public host is built from, besides a template. -/
inductive Decoration where
  /-- A tool, with the short hash of its user. -/
  | tool (user : Str)
  | visualisation
  /-- A visualisation at a commit. -/
  | preview (commit_id : Str)
deriving DecidableEq, Repr

namespace Decoration

/-- The public host of a template. -/
def host (t : ApplicationTemplate) : Decoration → Str
  | .tool user => t.host_basename ++ "-" ++ user
  | .visualisation => t.host_basename
  | .preview commit_id => t.host_basename ++ "--" ++ commit_id

/-- The type of template it is built for. -/
def application_type : Decoration → ApplicationType
  | .tool _ => .TOOL
  | .visualisation => .VISUALISATION
  | .preview _ => .VISUALISATION

def user : Decoration → Option Str
  | .tool user => some user
  | .visualisation => none
  | .preview _ => none

def commit_id : Decoration → Option Str
  | .tool _ => none
  | .visualisation => none
  | .preview commit_id => some commit_id

end Decoration

/-- Eight hexadecimal digits. -/
structure IsHex8 (s : Str) : Prop where
  length : s.length = 8
  digits : ∀ c ∈ s, isHexDigit c = true

instance (s : Str) : Decidable (IsHex8 s) :=
  decidable_of_iff (s.length = 8 ∧ s.all isHexDigit = true)
    ⟨fun h => ⟨h.1, List.all_eq_true.mp h.2⟩, fun h => ⟨h.length, List.all_eq_true.mpr h.digits⟩⟩

/-- The user hash and the commit id are eight hexadecimal digits. -/
def Decoration.WellFormed : Decoration → Prop
  | .tool user => IsHex8 user
  | .visualisation => True
  | .preview commit_id => IsHex8 commit_id

/-! ## Finding -/

/-- A text that the proxy takes for a port. -/
def isPort (s : Str) : Bool :=
  match int? s with
  | some port => decide (1 ≤ port ∧ port ≤ 65535)
  | none => false

/-- The root domain, after its dot. -/
def rootSuffix (cfg : Config) : Str := ("." : Str) ++ cfg.root_domain_no_port

/-- Both the proxy and the application find what the host of a template was built from. -/
def FoundAsBuilt (cfg : Config) (table : TemplateTable) (t : ApplicationTemplate)
    (d : Decoration) : Prop :=
  let (public_host, port_override) :=
    public_host_and_port cfg (d.host t ++ rootSuffix cfg)
  port_override = none ∧
    ∃ tag, application_template_tag_user_commit_from_host table public_host =
      .ok ⟨t, tag, d.user, d.commit_id⟩

/-- The root domain does not begin inside the public host. -/
def NoDomain (cfg : Config) (public_host : Str) : Prop :=
  ∀ x, x <:+ public_host → x ≠ [] → ¬ rootSuffix cfg <+: x ++ rootSuffix cfg

/-- Nothing in the host is taken for what it is not. -/
def Plain (t : ApplicationTemplate) : Decoration → Prop
  | .tool user =>
      t.host_basename ≠ [] ∧ endswith t.host_basename "-" = false ∨
        t.host_basename = "-" ∧ isPort user = false
  | .visualisation =>
      isPort (rpartition "--" t.host_basename).2.2 = false ∧
        commit_suffix t.host_basename = none ∧ user_suffix t.host_basename = none
  | .preview commit_id =>
      isPort commit_id = false ∧ t.host_basename ≠ [] ∧ user_suffix t.host_basename = none

/-! ## Eight hexadecimal digits -/

theorem ne_of_isHexDigit {c d : Char} (hc : isHexDigit c = true) (hd : isHexDigit d = false) :
    c ≠ d := by
  rintro rfl
  rw [hd] at hc
  cases hc

section IsHex8

variable {s : Str}

theorem isWhitespace_of_isHexDigit {c : Char} (h : isHexDigit c = true) :
    c.isWhitespace = false := by
  have hne {d : Char} (hd : isHexDigit d = false) : c ≠ d := ne_of_isHexDigit h hd
  simp [Char.isWhitespace, hne (d := ' ') rfl, hne (d := '\t') rfl, hne (d := '\r') rfl,
    hne (d := '\n') rfl]

theorem IsHex8.not_mem (h : IsHex8 s) {d : Char} (hd : isHexDigit d = false) : d ∉ s := fun hm =>
  ne_of_isHexDigit (h.digits d hm) hd rfl

theorem IsHex8.is_8_char_hex (h : IsHex8 s) : is_8_char_hex s = true := by
  have hstrip : strip s = s := strip_eq_self fun c hc => isWhitespace_of_isHexDigit (h.digits c hc)
  have hdigits : isHexDigits s = true := by
    rw [isHexDigits, List.splitOn_eq_singleton (h.not_mem rfl)]
    have hne : s ≠ [] := fun he => by
      have hlen := h.length
      rw [he] at hlen
      cases hlen
    simpa [hne] using h.digits
  have hunsigned : isUnsignedHex s = true := by
    have hx : 'x' ∉ s := h.not_mem rfl
    have hX : 'X' ∉ s := h.not_mem rfl
    rw [isUnsignedHex.eq_def]
    split
    next => simp at hx
    next => simp at hX
    next => simp at hx
    next => simp at hX
    next => exact hdigits
  have hint : isHexInt s = true := by
    have hplus : '+' ∉ s := h.not_mem rfl
    have hminus : '-' ∉ s := h.not_mem rfl
    rw [isHexInt, hstrip]
    split
    next => simp at hplus
    next => simp at hminus
    next => exact hunsigned
  rw [Applications.is_8_char_hex, hint, h.length]
  rfl

theorem IsHex8.is_8_char_hex_append (h : IsHex8 s) (t : Str) :
    Applications.is_8_char_hex (t ++ "-" ++ s) = false := by
  have hlen : ¬ (t ++ "-" ++ s).length = 8 := by
    have h₈ := h.length
    have h₁ : ("-" : Str).length = 1 := rfl
    simp only [List.length_append]
    omega
  rw [Applications.is_8_char_hex, Bool.and_eq_false_iff]
  exact .inr (beq_eq_false_iff_ne.mpr hlen)

end IsHex8

theorem isPort_of_mem {s : Str} (h : '-' ∈ s) : isPort s = false := by
  rw [isPort]
  split
  next port hport =>
    have hle := int?_nonpos h hport
    exact decide_eq_false fun hx => absurd hx.1 (by omega)
  next => rfl

/-! ## The proxy -/

section Port

variable {cfg : Config} {public_host : Str}

theorem public_host_and_port_none {host found : Str} :
    public_host_and_port cfg host = (found, none) ↔
      (partition (rootSuffix cfg) host).1 = found ∧ isPort (rpartition "--" found).2.2 = false := by
  rw [public_host_and_port, ← rootSuffix]
  generalize (partition (rootSuffix cfg) host).1 = cut
  rcases hr : rpartition "--" cut with ⟨possible_public_host, sep, override⟩
  simp only
  cases hp : int? override with
  | none =>
      simp only [Prod.mk.injEq, and_true]
      refine ⟨?_, And.left⟩
      rintro rfl
      exact ⟨rfl, by rw [hr, isPort, hp]⟩
  | some port =>
      simp only
      split
      next hin =>
        simp only [Prod.mk.injEq, reduceCtorEq, and_false, false_iff, not_and]
        rintro rfl
        rw [hr, isPort, hp]
        simp [hin]
      next hout =>
        simp only [Prod.mk.injEq, and_true]
        refine ⟨?_, And.left⟩
        rintro rfl
        exact ⟨rfl, by rw [hr, isPort, hp]; simpa using hout⟩

theorem public_host_handed_on :
    public_host_and_port cfg (public_host ++ rootSuffix cfg) = (public_host, none) ↔
      NoDomain cfg public_host ∧ isPort (rpartition "--" public_host).2.2 = false := by
  rw [public_host_and_port_none, partition_fst_eq_iff (by simp [rootSuffix]), NoDomain]

end Port

/-! ## The application -/

section Parts

variable {host_basename commit_id user : Str}

theorem host_parts_commit_id (public_host : Str) :
    (host_parts public_host).commit_id = (without_commit public_host).2 := by
  rw [host_parts]
  cases user_suffix (without_commit public_host).1 <;> rfl

theorem host_parts_eq_iff_none : host_parts host_basename = ⟨host_basename, none, none⟩ ↔
    commit_suffix host_basename = none ∧ user_suffix host_basename = none := by
  rw [host_parts, without_commit]
  cases hc : commit_suffix host_basename with
  | some found => cases user_suffix found.1 <;> simp
  | none => cases user_suffix host_basename <;> simp

theorem host_parts_commit (h : IsHex8 commit_id) :
    host_parts (host_basename ++ "--" ++ commit_id) = ⟨host_basename, none, some commit_id⟩ ↔
      host_basename ≠ [] ∧ user_suffix host_basename = none := by
  have hlast : rpartition "--" (host_basename ++ "--" ++ commit_id) =
      (host_basename, ("--" : Str), commit_id) := rpartition_append (c := '-') rfl (h.not_mem rfl)
  have hcommit : commit_suffix (host_basename ++ "--" ++ commit_id) =
      if host_basename = [] then none else some (host_basename, commit_id) := by
    rw [commit_suffix, hlast]
    simp [h.is_8_char_hex]
  by_cases hne : host_basename = []
  · refine iff_of_false (fun heq => ?_) fun hx => hx.1 hne
    have hid := congrArg HostParts.commit_id heq
    rw [host_parts_commit_id, without_commit, hcommit, if_pos hne] at hid
    cases hid
  · rw [host_parts, without_commit, hcommit, if_neg hne]
    cases user_suffix host_basename <;> simp [hne]

theorem user_suffix_append (h : IsHex8 user) : user_suffix (host_basename ++ "-" ++ user) =
    if host_basename = [] then none else some (host_basename, user) := by
  have hlast : rpartition "-" (host_basename ++ "-" ++ user) = (host_basename, ("-" : Str), user) :=
    rpartition_append (c := '-') rfl (h.not_mem rfl)
  rw [user_suffix, hlast]
  by_cases hne : host_basename = []
  · simp [hne]
  · simp [hne, h.is_8_char_hex]

theorem rpartition_user (h : IsHex8 user) (hend : endswith host_basename "-" = false) :
    rpartition "--" (host_basename ++ ("-" ++ user)) =
      ((rpartition "--" host_basename).1, (rpartition "--" host_basename).2.1,
        (rpartition "--" host_basename).2.2 ++ ("-" ++ user)) := by
  refine rpartition_append_right fun x hx hne hpre => ?_
  have hrev : (("-" : Str) ++ user).reverse = user.reverse ++ ['-'] := by simp
  rw [hrev, List.suffix_concat_iff] at hx
  obtain hnil | ⟨y, rfl, hy⟩ := hx
  · exact hne hnil
  · cases y with
    | nil =>
        obtain ⟨-, hpre⟩ := List.cons_prefix_cons.mp hpre
        have hsuffix : ("-" : Str) <:+ host_basename := List.reverse_prefix.mp hpre
        rw [endswith, List.isSuffixOf_iff_suffix.mpr hsuffix] at hend
        cases hend
    | cons c y =>
        obtain ⟨rfl, -⟩ := List.cons_prefix_cons.mp hpre
        exact h.not_mem rfl (List.mem_reverse.mp (hy.mem (List.mem_cons_self ..)))

theorem rpartition_user_hyphen (h : IsHex8 user) :
    rpartition "--" (host_basename ++ "-" ++ "-" ++ user) = (host_basename, ("--" : Str), user) := by
  have hjoin : host_basename ++ "-" ++ "-" ++ user = host_basename ++ "--" ++ user := by simp
  rw [hjoin]
  exact rpartition_append (c := '-') rfl (h.not_mem rfl)

/-- Behind a `host_basename` that does not end in a hyphen there is no port and no commit
id, and the user hash is taken off when there is something before it. -/
theorem host_parts_user (h : IsHex8 user) (hend : endswith host_basename "-" = false) :
    isPort (rpartition "--" (host_basename ++ "-" ++ user)).2.2 = false ∧
      (host_parts (host_basename ++ "-" ++ user) = ⟨host_basename, some user, none⟩ ↔
        host_basename ≠ []) := by
  have hlast := rpartition_user h hend
  rw [← List.append_assoc] at hlast
  have hcommit : commit_suffix (host_basename ++ "-" ++ user) = none := by
    have hlong := h.is_8_char_hex_append (rpartition "--" host_basename).2.2
    rw [List.append_assoc] at hlong
    rw [commit_suffix, hlast]
    exact if_neg fun hx => absurd hx.2 (by rw [hlong]; exact Bool.false_ne_true)
  refine ⟨?_, ?_⟩
  · rw [hlast]
    exact isPort_of_mem (by simp)
  · rw [host_parts, without_commit, hcommit]
    simp only [user_suffix_append h]
    by_cases hne : host_basename = []
    · simp [hne]
    · simp [hne]

/-- Behind a `host_basename` that ends in a hyphen the user hash is taken for a commit id,
unless the hyphen is all there is. -/
theorem host_parts_user_hyphen (h : IsHex8 user) :
    host_parts (host_basename ++ "-" ++ "-" ++ user) = ⟨host_basename ++ "-", some user, none⟩ ↔
      host_basename = [] := by
  have hcommit : commit_suffix (host_basename ++ "-" ++ "-" ++ user) =
      if host_basename = [] then none else some (host_basename, user) := by
    rw [commit_suffix, rpartition_user_hyphen h]
    simp [h.is_8_char_hex]
  by_cases hne : host_basename = []
  · refine iff_of_true ?_ hne
    rw [host_parts, without_commit, hcommit, if_pos hne]
    simp only [user_suffix_append h, hne]
    rfl
  · refine iff_of_false (fun heq => ?_) hne
    have hid := congrArg HostParts.commit_id heq
    rw [host_parts_commit_id, without_commit, hcommit, if_neg hne] at hid
    cases hid

end Parts
/-! ## The round trip -/

section RoundTrip

variable {cfg : Config} {table : TemplateTable} {t : ApplicationTemplate} {d : Decoration}

theorem foundAsBuilt_iff_parts (ht : t ∈ table.rows)
    (htype : t.application_type = d.application_type) :
    FoundAsBuilt cfg table t d ↔ NoDomain cfg (d.host t) ∧
      isPort (rpartition "--" (d.host t)).2.2 = false ∧
        host_parts (d.host t) = ⟨t.host_basename, d.user, d.commit_id⟩ := by
  rw [FoundAsBuilt, ← and_assoc, ← public_host_handed_on]
  rcases hp : public_host_and_port cfg (d.host t ++ rootSuffix cfg) with ⟨public_host, port_override⟩
  simp only [Prod.mk.injEq]
  constructor
  · rintro ⟨rfl, tag, hok⟩
    have hfound := found_of_ok hok
    have heq : public_host = d.host t := by
      rw [← hfound.host_eq]
      cases d <;> simp [Decoration.host, Decoration.user, Decoration.commit_id, withSuffix]
    rw [← heq]
    exact ⟨⟨rfl, rfl⟩, hfound.parts⟩
  · rintro ⟨⟨rfl, rfl⟩, hparts⟩
    refine ⟨rfl, if d.user.isSome then none else some (d.host t), ok_of_found ⟨hparts, ht, ?_, rfl⟩⟩
    rw [htype]
    cases d <;> simp [Decoration.application_type, Decoration.user]

theorem parts_iff_plain (hd : d.WellFormed) :
    (isPort (rpartition "--" (d.host t)).2.2 = false ∧
        host_parts (d.host t) = ⟨t.host_basename, d.user, d.commit_id⟩) ↔ Plain t d := by
  cases d with
  | tool user =>
      simp only [Decoration.host, Decoration.user, Decoration.commit_id, Plain]
      rcases hend : endswith t.host_basename "-" with _ | _
      · obtain ⟨hport, hparts⟩ := host_parts_user hd hend
        have hne : t.host_basename ≠ "-" := fun he => by
          rw [he] at hend
          cases hend
        constructor
        · exact fun h => .inl ⟨hparts.mp h.2, rfl⟩
        · rintro (⟨hb, -⟩ | ⟨hb, -⟩)
          · exact ⟨hport, hparts.mpr hb⟩
          · exact absurd hb hne
      · obtain ⟨b, hb⟩ : ∃ b, b ++ ("-" : Str) = t.host_basename :=
          List.isSuffixOf_iff_suffix.mp hend
        rw [← hb, host_parts_user_hyphen hd, rpartition_user_hyphen hd, List.append_left_eq_self]
        simp [and_comm]
  | visualisation =>
      rw [Decoration.host, Decoration.user, Decoration.commit_id, host_parts_eq_iff_none, Plain]
  | preview commit_id =>
      have hlast : rpartition "--" (t.host_basename ++ "--" ++ commit_id) =
          (t.host_basename, ("--" : Str), commit_id) :=
        rpartition_append (c := '-') rfl (IsHex8.not_mem hd rfl)
      rw [Decoration.host, Decoration.user, Decoration.commit_id, host_parts_commit hd, hlast, Plain]

/-- A visualisation with the `host_basename` `dash`. -/
def dash : ApplicationTemplate where
  id := "1"
  visible := true
  wrap := "NONE"
  host_basename := "dash"
  nice_name := "Dash"
  spawner := .FARGATE
  spawner_options := "{}"
  application_type := .VISUALISATION
  default_memory := "1024"
  default_cpu := "256"
  gitlab_project_id := some 3

def dashTable : TemplateTable := ⟨[dash], List.nodup_singleton _⟩

end RoundTrip

end Applications
