import DataWorkspace.Core.Credentials
import DataWorkspace.Explorer.Columns

/-!
# Names in PostgreSQL

A user has a permanent role and schema, an application has one too, and a team has one that its
row keeps.  Both users and applications get temporary database users, whose names end in five
characters that are drawn.  PostgreSQL cuts every name to 63 bytes.

`postgres_user` and `Team.save` cut what they make of an email address or a name of a team, and
the role of an application is made of all of its `host_basename`, which may be twice as long.
`identifiers_distinct_iff` says when no two users, applications and teams have a name in common.
-/

namespace Core

open Py
open Explorer (truncate utf8Length truncate_append truncate_eq_self_iff)

namespace Identifiers

/-- `str.lower` and the hexadecimal digest of SHA-256. -/
structure Library where
  lower : Str → Str
  sha256 : Str → Str
  sha256_hex : ∀ s, ∀ c ∈ sha256 s, c ∈ ("0123456789abcdef" : Str)
  sha256_length : ∀ s, (sha256 s).length = 64

/-- `[a-z0-9]`. -/
def isAlphanumeric (c : Char) : Bool := ('a' ≤ c && c ≤ 'z') || ('0' ≤ c && c ≤ '9')

/-- `re.sub("[^a-z0-9]", "_", s)`. -/
def clean (s : Str) : Str := s.map fun c => if isAlphanumeric c then c else '_'

variable (lib : Library)

/-! ## Temporary users -/

/-- `f"_{suffix}" if suffix else ""`. -/
def suffixed (suffix : Str) : Str := if suffix = [] then [] else '_' :: suffix

/-- What is kept of an email address or of the name of an application. -/
def kept (stem suffix : Str) : Str := (clean (lib.lower stem)).take (52 - (suffixed suffix).length)

/-- `postgres_user`, with the characters that are drawn. -/
def postgres_user (stem suffix unique_enough : Str) : Option Str :=
  if suffix.length > 10 then none
  else some ("user_" ++ kept lib stem suffix ++ "_" ++ unique_enough ++ suffixed suffix)

structure User where
  sso_id : Str
  email : Str
deriving DecidableEq, Repr

/-- Who gets temporary users. -/
inductive Owner where
  | user (user : User)
  | application (host_basename : Str)
deriving DecidableEq, Repr

namespace Owner

def stem : Owner → Str
  | .user u => u.email
  | .application host_basename => host_basename

/-- The suffixes that are in use. -/
def suffixes : Owner → List Str
  | .user _ => ["", "qs", "superset", "explorer"]
  | .application _ => [""]

end Owner

/-- A temporary user that was made. -/
structure Temporary where
  owner : Owner
  suffix : Str
  unique_enough : Str
  suffix_mem : suffix ∈ owner.suffixes
  drawn_length : unique_enough.length = 5
  drawn : ∀ c ∈ unique_enough, isAlphanumeric c = true

/-! ## Permanent roles -/

def db_role_schema_suffix_for_user (user : User) : Str := (lib.sha256 user.sso_id).take 8

def db_role_schema_suffix_for_app (host_basename : Str) : Str := "app_" ++ host_basename

/-- The permanent role and the schema. -/
def db_role (db_role_and_schema_suffix : Str) : Str := USER_SCHEMA_STEM ++ db_role_and_schema_suffix

/-! ## Teams -/

structure Team where
  id : Nat
  name : Str
  schema_name : Str
deriving DecidableEq, Repr

/-- What a team without a schema gets. -/
def new_schema_name (name : Str) : Str := "_team_" ++ (clean (lib.lower name)).take 63

/-- The table of teams. -/
structure Teams where
  rows : List Team
  name_unique : (rows.map Team.name).Nodup
  schema_name_unique : (rows.map Team.schema_name).Nodup
  schema_name_length : ∀ team ∈ rows, team.schema_name.length ≤ 63
  derived : ∀ team ∈ rows, ∃ name, team.schema_name = new_schema_name lib name

variable {lib}

/-- `Team.save` of a new team.  The database refuses a name or a schema that another team has,
and one that does not fit into the column. -/
def Teams.create (teams : Teams lib) (id : Nat) (name : Str) : Option (Teams lib) :=
  if h : name.length ≤ 256 ∧ name ∉ teams.rows.map Team.name ∧
      (new_schema_name lib name).length ≤ 63 ∧
      new_schema_name lib name ∉ teams.rows.map Team.schema_name then
    some
      { rows := ⟨id, name, new_schema_name lib name⟩ :: teams.rows
        name_unique := List.nodup_cons.mpr ⟨h.2.1, teams.name_unique⟩
        schema_name_unique := List.nodup_cons.mpr ⟨h.2.2.2, teams.schema_name_unique⟩
        schema_name_length := List.forall_mem_cons.mpr ⟨h.2.2.1, teams.schema_name_length⟩
        derived := List.forall_mem_cons.mpr ⟨⟨name, rfl⟩, teams.derived⟩ }
  else none

def Team.renamed (id : Nat) (name : Str) (team : Team) : Team :=
  if team.id = id then { team with name := name } else team

theorem Team.renamed_schema_name (id : Nat) (name : Str) (team : Team) :
    (team.renamed id name).schema_name = team.schema_name := by
  rw [Team.renamed]
  split <;> rfl

/-- `Team.save` of a team that has its schema already. -/
def Teams.rename (teams : Teams lib) (id : Nat) (name : Str) : Option (Teams lib) :=
  if h : name.length ≤ 256 ∧ ((teams.rows.map (Team.renamed id name)).map Team.name).Nodup then
    some
      { rows := teams.rows.map (Team.renamed id name)
        name_unique := h.2
        schema_name_unique := by
          rw [List.map_map, show Team.schema_name ∘ Team.renamed id name = Team.schema_name from
            funext (Team.renamed_schema_name id name)]
          exact teams.schema_name_unique
        schema_name_length := List.forall_mem_map.mpr fun team hteam =>
          (team.renamed_schema_name id name).symm ▸ teams.schema_name_length team hteam
        derived := List.forall_mem_map.mpr fun team hteam =>
          (team.renamed_schema_name id name).symm ▸ teams.derived team hteam }
  else none

/-! ## All names -/

/-- Who has names. -/
inductive Entity where
  | owner (owner : Owner)
  | team (team : Team)
deriving DecidableEq, Repr

structure Site (lib : Library) where
  users : List User
  /-- The `host_basename` of each application. -/
  applications : List Str
  teams : Teams lib
  temporary : List Temporary

/-- A name that the program makes for a user, an application or a team. -/
inductive Derives (site : Site lib) : Entity → Str → Prop where
  | temporary {t : Temporary} {name : Str} : t ∈ site.temporary →
      postgres_user lib t.owner.stem t.suffix t.unique_enough = some name →
        Derives site (.owner t.owner) name
  | user {user : User} : user ∈ site.users →
      Derives site (.owner (.user user)) (db_role (db_role_schema_suffix_for_user lib user))
  | application {host_basename : Str} : host_basename ∈ site.applications →
      Derives site (.owner (.application host_basename))
        (db_role (db_role_schema_suffix_for_app host_basename))
  | team {team : Team} : team ∈ site.teams.rows → Derives site (.team team) team.schema_name

/-- No two of them have a name in common. -/
def Distinct (site : Site lib) : Prop :=
  ∀ x y s t, Derives site x s → Derives site y t → x ≠ y → truncate 63 s ≠ truncate 63 t

/-- What the names are made of is distinct, as far as it is used. -/
structure Apart (site : Site lib) : Prop where
  users : ∀ u ∈ site.users, ∀ v ∈ site.users, u ≠ v →
    (lib.sha256 u.sso_id).take 8 ≠ (lib.sha256 v.sso_id).take 8
  applications : ∀ h ∈ site.applications, ∀ k ∈ site.applications, h ≠ k →
    truncate 53 h ≠ truncate 53 k
  temporary : ∀ t ∈ site.temporary, ∀ t' ∈ site.temporary, t.owner ≠ t'.owner →
    t.suffix = t'.suffix → t.unique_enough = t'.unique_enough →
      kept lib t.owner.stem t.suffix ≠ kept lib t'.owner.stem t'.suffix

/-! ## What is left of a name -/

section Names

theorem isAlphanumeric_or_of_mem_clean {c : Char} {s : Str} (h : c ∈ clean s) :
    isAlphanumeric c = true ∨ c = '_' := by
  obtain ⟨d, -, rfl⟩ := List.mem_map.mp h
  by_cases hd : isAlphanumeric d = true
  · exact .inl (by rwa [if_pos hd])
  · exact .inr (by rw [if_neg hd])

theorem alphanumeric_of_all {s : Str} (h : (s.all fun c => isAlphanumeric c || c == '_') = true) :
    ∀ c ∈ s, isAlphanumeric c = true ∨ c = '_' := by
  intro c hc
  simpa using List.all_eq_true.mp h c hc

theorem utf8Size_of_isAlphanumeric {c : Char} (h : isAlphanumeric c = true ∨ c = '_') :
    c.utf8Size = 1 := by
  rw [Char.utf8Size_eq_one_iff, UInt32.le_iff_toNat_le]
  rcases h with h | rfl
  · simp only [isAlphanumeric, Bool.or_eq_true, Bool.and_eq_true, decide_eq_true_eq,
      Char.le_def, UInt32.le_iff_toNat_le] at h
    rcases h with ⟨-, h⟩ | ⟨-, h⟩
    · exact h.trans (by decide)
    · exact h.trans (by decide)
  · decide

theorem utf8Length_of_alphanumeric : ∀ {s : Str},
    (∀ c ∈ s, isAlphanumeric c = true ∨ c = '_') → utf8Length s = s.length
  | [], _ => rfl
  | c :: s, h => by
      have ih := utf8Length_of_alphanumeric fun d hd => h d (List.mem_cons_of_mem c hd)
      have hc := utf8Size_of_isAlphanumeric (h c List.mem_cons_self)
      simp only [utf8Length, List.map_cons, List.sum_cons, List.length_cons] at ih ⊢
      omega

theorem truncate_of_alphanumeric {s : Str} (h : ∀ c ∈ s, isAlphanumeric c = true ∨ c = '_')
    (hlength : s.length ≤ 63) : truncate 63 s = s :=
  truncate_eq_self_iff.mpr ((utf8Length_of_alphanumeric h).trans_le hlength)

theorem truncate_append_of_alphanumeric {a : Str}
    (h : ∀ c ∈ a, isAlphanumeric c = true ∨ c = '_') (hlength : a.length ≤ 63) (b : Str) :
    truncate 63 (a ++ b) = a ++ truncate (63 - a.length) b := by
  have hutf8 := utf8Length_of_alphanumeric h
  rw [truncate_append b (hutf8.trans_le hlength), hutf8]

theorem suffix_of_mem {owner : Owner} {suffix : Str} (h : suffix ∈ owner.suffixes) :
    suffix = "" ∨ suffix = "qs" ∨ suffix = "superset" ∨ suffix = "explorer" := by
  cases owner with
  | user u => simpa [Owner.suffixes] using h
  | application host_basename => exact .inl (by simpa [Owner.suffixes] using h)

namespace Temporary

variable (t : Temporary)

theorem truncate_name {name : Str}
    (h : postgres_user lib t.owner.stem t.suffix t.unique_enough = some name) :
    truncate 63 name =
      "user_" ++ kept lib t.owner.stem t.suffix ++ "_" ++ t.unique_enough ++
        suffixed t.suffix := by
  rw [postgres_user] at h
  split at h
  next => cases h
  next =>
    cases h
    refine truncate_of_alphanumeric ?_ ?_
    · intro c hc
      simp only [List.mem_append] at hc
      rcases hc with (((hc | hc) | hc) | hc) | hc
      · exact alphanumeric_of_all (by decide) c hc
      · exact isAlphanumeric_or_of_mem_clean (List.mem_of_mem_take hc)
      · exact alphanumeric_of_all (by decide) c hc
      · exact .inl (t.drawn c hc)
      · refine alphanumeric_of_all ?_ c hc
        rcases suffix_of_mem t.suffix_mem with hs | hs | hs | hs <;> rw [hs] <;> decide
    · have hkept : (kept lib t.owner.stem t.suffix).length ≤
          52 - (suffixed t.suffix).length := List.length_take_le _ _
      have hsuffixed : (suffixed t.suffix).length ≤ 9 := by
        rcases suffix_of_mem t.suffix_mem with hs | hs | hs | hs <;> rw [hs] <;> decide
      have hdrawn := t.drawn_length
      simp only [List.length_append]
      show 5 + _ + 1 + _ + _ ≤ 63
      omega

theorem ne_underscore {c : Char} (h : isAlphanumeric c = true) : c ≠ '_' := by
  rintro rfl
  revert h
  decide

theorem suffix_injective {stem stem' drawn drawn' suffix suffix' : Str}
    (hlength : drawn.length = 5) (hlength' : drawn'.length = 5)
    (hdrawn : ∀ c ∈ drawn, isAlphanumeric c = true)
    (hdrawn' : ∀ c ∈ drawn', isAlphanumeric c = true)
    (hsuffix : suffix = "" ∨ suffix = "qs" ∨ suffix = "superset" ∨ suffix = "explorer")
    (hsuffix' : suffix' = "" ∨ suffix' = "qs" ∨ suffix' = "superset" ∨ suffix' = "explorer")
    (h : stem ++ "_" ++ drawn ++ suffixed suffix = stem' ++ "_" ++ drawn' ++ suffixed suffix') :
    suffix = suffix' := by
  obtain ⟨a, b, c, d, e, rfl⟩ : ∃ a b c d e, drawn = [a, b, c, d, e] := by
    match drawn, hlength with
    | [a, b, c, d, e], _ => exact ⟨a, b, c, d, e, rfl⟩
  obtain ⟨a', b', c', d', e', rfl⟩ : ∃ a b c d e, drawn' = [a, b, c, d, e] := by
    match drawn', hlength' with
    | [a, b, c, d, e], _ => exact ⟨a, b, c, d, e, rfl⟩
  have hc : c ≠ '_' := ne_underscore (hdrawn c (by simp))
  have hc' : c' ≠ '_' := ne_underscore (hdrawn' c' (by simp))
  have hreverse := congrArg List.reverse h
  -- read from the end, other characters of the suffix, or an underscore, come first
  rcases hsuffix with rfl | rfl | rfl | rfl <;> rcases hsuffix' with rfl | rfl | rfl | rfl <;>
    simp [suffixed] at hreverse
  case inl.inr.inl => exact absurd hreverse.2.2.1 hc
  case inr.inl.inl => exact absurd hreverse.2.2.1.symm hc'
  all_goals rfl

theorem name_injective {t t' : Temporary} {stem stem' : Str}
    (h : stem ++ "_" ++ t.unique_enough ++ suffixed t.suffix =
      stem' ++ "_" ++ t'.unique_enough ++ suffixed t'.suffix) :
    t.suffix = t'.suffix ∧ t.unique_enough = t'.unique_enough ∧ stem = stem' := by
  have hsuffix := suffix_injective t.drawn_length t'.drawn_length t.drawn t'.drawn
    (suffix_of_mem t.suffix_mem) (suffix_of_mem t'.suffix_mem) h
  rw [hsuffix] at h
  have hdrawn := List.append_inj' (List.append_cancel_right h)
    (t.drawn_length.trans t'.drawn_length.symm)
  exact ⟨hsuffix, hdrawn.2, List.append_cancel_right hdrawn.1⟩

end Temporary

theorem truncate_user_role (user : User) :
    truncate 63 (db_role (db_role_schema_suffix_for_user lib user)) =
      "_user_" ++ (lib.sha256 user.sso_id).take 8 := by
  refine truncate_of_alphanumeric ?_ ?_
  · intro c hc
    rcases List.mem_append.mp hc with hc | hc
    · exact alphanumeric_of_all (by decide) c hc
    · exact alphanumeric_of_all (by decide) c (lib.sha256_hex _ c (List.mem_of_mem_take hc))
  · rw [db_role, List.length_append, db_role_schema_suffix_for_user, List.length_take,
      lib.sha256_length]
    decide

theorem truncate_app_role (host_basename : Str) :
    truncate 63 (db_role (db_role_schema_suffix_for_app host_basename)) =
      "_user_app_" ++ truncate 53 host_basename := by
  have h : db_role (db_role_schema_suffix_for_app host_basename) =
      "_user_app_" ++ host_basename := rfl
  rw [h, truncate_append_of_alphanumeric (alphanumeric_of_all (by decide)) (by decide)]
  rfl

theorem truncate_schema_name {teams : Teams lib} {team : Team} (h : team ∈ teams.rows) :
    truncate 63 team.schema_name = team.schema_name ∧
      ∃ rest : Str, team.schema_name = "_team_" ++ rest := by
  obtain ⟨name, hname⟩ := teams.derived team h
  refine ⟨truncate_of_alphanumeric ?_ (teams.schema_name_length team h), _, hname⟩
  intro c hc
  rw [hname, new_schema_name] at hc
  rcases List.mem_append.mp hc with hc | hc
  · exact alphanumeric_of_all (by decide) c hc
  · exact isAlphanumeric_or_of_mem_clean (List.mem_of_mem_take hc)

theorem digest_ne_app {s t : Str} : (lib.sha256 s).take 8 ≠ "app_" ++ t := by
  intro h
  have hmem : 'p' ∈ (lib.sha256 s).take 8 := by
    rw [h]
    exact List.mem_append_left _ (by decide)
  have hhex := lib.sha256_hex s _ (List.mem_of_mem_take hmem)
  revert hhex
  decide

end Names

/-! ## When names are distinct -/

/-- What PostgreSQL keeps of a name, by what it is the name of. -/
inductive Kept (site : Site lib) : Entity → Str → Prop where
  | temporary {t : Temporary} : t ∈ site.temporary →
      Kept site (.owner t.owner) ("user_" ++ (kept lib t.owner.stem t.suffix ++ "_" ++
        t.unique_enough ++ suffixed t.suffix))
  | user {user : User} : user ∈ site.users →
      Kept site (.owner (.user user)) ("_user_" ++ (lib.sha256 user.sso_id).take 8)
  | application {host_basename : Str} : host_basename ∈ site.applications →
      Kept site (.owner (.application host_basename)) ("_user_app_" ++ truncate 53 host_basename)
  | team {team : Team} {rest : Str} : team ∈ site.teams.rows →
      team.schema_name = "_team_" ++ rest → Kept site (.team team) ("_team_" ++ rest)

variable {site : Site lib}

theorem Derives.kept {x : Entity} {s : Str} (h : Derives site x s) :
    Kept site x (truncate 63 s) := by
  cases h with
  | @temporary t name ht hname =>
      have hkept := Kept.temporary ht
      rw [t.truncate_name hname]
      simpa using hkept
  | user hu =>
      rw [truncate_user_role]
      exact .user hu
  | application ha =>
      rw [truncate_app_role]
      exact .application ha
  | team ht =>
      obtain ⟨hwhole, rest, hrest⟩ := truncate_schema_name ht
      rw [hwhole, hrest]
      exact .team ht hrest

theorem postgres_user_of_temporary (lib : Library) (t : Temporary) :
    ∃ name, postgres_user lib t.owner.stem t.suffix t.unique_enough = some name := by
  rw [postgres_user, if_neg]
  · exact ⟨_, rfl⟩
  · rcases suffix_of_mem t.suffix_mem with hs | hs | hs | hs <;> rw [hs] <;> decide

theorem Kept.derives {x : Entity} {s : Str} (h : Kept site x s) :
    ∃ name, Derives site x name ∧ truncate 63 name = s := by
  cases h with
  | @temporary t ht =>
      obtain ⟨name, hname⟩ := postgres_user_of_temporary lib t
      exact ⟨name, .temporary ht hname, by rw [t.truncate_name hname]; simp⟩
  | user hu => exact ⟨_, .user hu, truncate_user_role _⟩
  | application ha => exact ⟨_, .application ha, truncate_app_role _⟩
  | team ht hrest => exact ⟨_, .team ht, hrest ▸ (truncate_schema_name ht).1⟩

theorem distinct_iff_kept :
    Distinct site ↔ ∀ x y s, Kept site x s → Kept site y s → x = y := by
  constructor
  · intro h x y s hx hy
    obtain ⟨name, hname, hs⟩ := hx.derives
    obtain ⟨name', hname', hs'⟩ := hy.derives
    by_contra hne
    exact h x y name name' hname hname' hne (hs.trans hs'.symm)
  · intro h x y s t hs ht hne he
    have hx := hs.kept
    rw [he] at hx
    exact hne (h x y _ hx ht.kept)

/-- The names of the entities that are apart begin differently or go on differently. -/
theorem Apart.eq_of_kept (h : Apart site) {x y : Entity} {s t : Str} (hx : Kept site x s)
    (hy : Kept site y t) (he : s = t) : x = y := by
  cases hx with
  | @temporary t ht =>
      cases hy with
      | @temporary t' ht' =>
          obtain ⟨hsuffix, hdrawn, hkept⟩ :=
            Temporary.name_injective (List.append_cancel_left he)
          by_contra hne
          exact h.temporary t ht t' ht' (fun howner => hne (congrArg Entity.owner howner))
            hsuffix hdrawn hkept
      | user _ => cases he
      | application _ => cases he
      | team _ _ => cases he
  | @user u hu =>
      cases hy with
      | temporary _ => cases he
      | @user v hv =>
          by_contra hne
          exact h.users u hu v hv (fun huv => hne (by rw [huv])) (List.append_cancel_left he)
      | @application host_basename _ =>
          have happ : ("_user_" : Str) ++ (lib.sha256 u.sso_id).take 8 =
              "_user_" ++ ("app_" ++ truncate 53 host_basename) := he
          exact absurd (List.append_cancel_left happ) digest_ne_app
      | team _ _ => cases he
  | @application host_basename ha =>
      cases hy with
      | temporary _ => cases he
      | @user v hv =>
          have happ : ("_user_" : Str) ++ ("app_" ++ truncate 53 host_basename) =
              "_user_" ++ (lib.sha256 v.sso_id).take 8 := he
          exact absurd (List.append_cancel_left happ).symm digest_ne_app
      | @application host_basename' ha' =>
          by_contra hne
          exact h.applications _ ha _ ha' (fun hhost => hne (by rw [hhost]))
            (List.append_cancel_left he)
      | team _ _ => cases he
  | team ht hrest =>
      cases hy with
      | temporary _ => cases he
      | user _ => cases he
      | application _ => cases he
      | team ht' hrest' =>
          have hschema := hrest.trans (he.trans hrest'.symm)
          rw [List.inj_on_of_nodup_map site.teams.schema_name_unique ht ht' hschema]

/-- No two users, applications and teams have a name in common if and only if what their names
are made of is distinct as far as it is used. -/
theorem identifiers_distinct_iff (site : Site lib) : Distinct site ↔ Apart site := by
  rw [distinct_iff_kept]
  constructor
  · intro h
    refine ⟨?_, ?_, ?_⟩
    · intro u hu v hv hne he
      have hv' := Kept.user hv
      rw [← he] at hv'
      have huv := h _ _ _ (Kept.user hu) hv'
      cases huv
      exact hne rfl
    · intro a ha b hb hne he
      have hb' := Kept.application hb
      rw [← he] at hb'
      have hab := h _ _ _ (Kept.application ha) hb'
      cases hab
      exact hne rfl
    · intro t ht t' ht' hne hsuffix hdrawn hkept
      have hk := Kept.temporary ht'
      rw [← hkept, ← hdrawn, ← hsuffix] at hk
      have howner := h _ _ _ (Kept.temporary ht) hk
      exact hne (Entity.owner.inj howner)
  · intro h x y s hx hy
    exact h.eq_of_kept hx hy rfl

section Examples

def someLibrary : Library where
  lower := lower
  sha256 := fun _ => List.replicate 64 '0'
  sha256_hex := by
    intro s c hc
    rw [List.eq_of_mem_replicate hc]
    decide
  sha256_length := by
    intro s
    exact List.length_replicate

/-- Two applications, whose names differ behind 53 characters. -/
def longNames : Site someLibrary where
  users := []
  applications := [List.replicate 53 'a' ++ "-one", List.replicate 53 'a' ++ "-two"]
  teams :=
    { rows := []
      name_unique := List.nodup_nil
      schema_name_unique := List.nodup_nil
      schema_name_length := by simp
      derived := by simp }
  temporary := []

/-- Applications with long names have one role and one schema. -/
theorem app_roles_shared : ¬ Distinct longNames := by
  intro h
  refine h _ _ _ _ (.application List.mem_cons_self)
    (.application (List.mem_cons_of_mem _ List.mem_cons_self)) ?_ ?_
  · intro he
    have hnames := Owner.application.inj (Entity.owner.inj he)
    exact absurd (List.append_cancel_left hnames) (by decide)
  · rw [truncate_app_role, truncate_app_role]
    decide +kernel

end Examples

end Identifiers

end Core
