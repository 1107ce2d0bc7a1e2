import DataWorkspace.Applications.Cleanup
import DataWorkspace.Applications.Workspace
import DataWorkspace.Core.Identifiers

/-!
# Which database users are cleaned up

The users of tools and visualisations are dropped when no instance that starts or runs has them.
Those for QuickSight, the Data Explorer and Superset are no instance's, and are dropped when they
have expired.  The query for unused users knows the kinds apart by the ends of their names, with
patterns in which the underscore stands for any character.

So the user of a tool is taken for one of QuickSight when the characters drawn for its name end in
`qs` (`found_tool_iff`).
-/

namespace Applications

open Py Datasets Sql

/-- `valuntil` of a user. -/
inductive ValidUntil where
  | unset
  | infinity
  | time (t : Int)
deriving DecidableEq, Repr

/-- A row of `pg_catalog.pg_user`. -/
structure PgUser where
  usename : Str
  valuntil : ValidUntil
deriving DecidableEq, Repr

/-- `valuntil != 'infinity'`, which is not true of a user without one. -/
def PgUser.is_finite (user : PgUser) : Bool :=
  match user.valuntil with
  | .time _ => true
  | _ => false

/-- `valuntil < now()`. -/
def PgUser.is_expired (user : PgUser) (now : Int) : Bool :=
  match user.valuntil with
  | .time t => t < now
  | _ => false

/-- The query for unused users. -/
def PgUser.found (user : PgUser) (now : Int) : Bool :=
  (user.is_finite && like "user_%" user.usename &&
    !like "%_qs" user.usename && !like "%_quicksight" user.usename &&
    !like "%_explorer" user.usename && !like "%_superset" user.usename) ||
  (user.is_finite && user.is_expired now && like "user_%" user.usename &&
    (like "%_qs" user.usename || like "%_explorer" user.usename ||
      like "%_superset" user.usename))

/-- The users that are dropped: `usenames` when `now` was, and the rows of the instances in `w`. -/
def not_in_use_usernames (users : List PgUser) (now : Int) (w : World) (db : Database) : List Str :=
  let usenames := (users.filter fun user => user.found now).map PgUser.usename
  not_in_use usenames
    (((w.rowsFor db usenames).filter fun row => w.isLive row.application_instance).map
      ApplicationInstanceDbUsers.db_username)

/-! ## Kinds of users -/

/-- What a user is made for. -/
inductive Kind where
  | tool
  | qs
  | explorer
  | superset
deriving DecidableEq, Repr

namespace Kind

/-- The suffix that `postgres_user` is called with. -/
def suffix_text : Kind → String
  | .tool => ""
  | .qs => "qs"
  | .explorer => "explorer"
  | .superset => "superset"

def suffix (kind : Kind) : Str := kind.suffix_text.toList

theorem suffix_length (kind : Kind) : kind.suffix.length ≤ 10 := by
  cases kind <;> decide

theorem suffixed_tool : Core.Identifiers.suffixed (suffix .tool) = [] := rfl

theorem suffixed_of_ne {kind : Kind} (h : kind ≠ .tool) :
    Core.Identifiers.suffixed kind.suffix = '_' :: kind.suffix := by
  rw [Core.Identifiers.suffixed, if_neg]
  cases kind with
  | tool => exact absurd rfl h
  | qs => decide
  | explorer => decide
  | superset => decide

end Kind

/-- A user that was made, with the characters that were drawn for its name. -/
structure MadeUser (lib : Core.Identifiers.Library) where
  kind : Kind
  stem : Str
  unique_enough : Str
  usename : Str
  valid_until : Int
  drawn_length : unique_enough.length = 5
  drawn : ∀ c ∈ unique_enough, Core.Identifiers.isAlphanumeric c = true
  made : Core.Identifiers.postgres_user lib stem kind.suffix unique_enough = some usename

namespace MadeUser

variable {lib : Core.Identifiers.Library} (user : MadeUser lib)

theorem usename_eq : user.usename =
    "user_" ++ Core.Identifiers.kept lib user.stem user.kind.suffix ++ "_" ++
      user.unique_enough ++ Core.Identifiers.suffixed user.kind.suffix := by
  have hmade := user.made
  rw [Core.Identifiers.postgres_user, if_neg (Nat.not_lt.mpr user.kind.suffix_length)] at hmade
  exact (Option.some.inj hmade).symm

def row : PgUser := ⟨user.usename, .time user.valid_until⟩

/-- A starting or running instance has the user. -/
def InUse (w : World) (db : Database) : Prop :=
  ∃ row ∈ w.db_users, row.db_id = db.id ∧ row.db_username = user.usename ∧
    w.isLive row.application_instance = true

def Expired (now : Int) : Prop := user.valid_until < now

def ToBeDropped (now : Int) (w : World) (db : Database) : Prop :=
  match user.kind with
  | .tool => ¬ user.InUse w db
  | _ => user.Expired now

/-! ## The ends of the names -/

/-- The name of a tool's user ends in an underscore and the characters that were drawn. -/
theorem usename_tool (h : user.kind = .tool) :
    user.usename = ("user_" ++ Core.Identifiers.kept lib user.stem user.kind.suffix) ++
      '_' :: user.unique_enough := by
  have hsuffixed : Core.Identifiers.suffixed user.kind.suffix = [] := by
    rw [h, Kind.suffixed_tool]
  rw [usename_eq, hsuffixed, List.append_nil, List.append_assoc _ _ user.unique_enough]
  rfl

theorem suffix_usename (h : user.kind ≠ .tool) :
    '_' :: user.kind.suffix <:+ user.usename := by
  rw [usename_eq, Kind.suffixed_of_ne h]
  exact List.suffix_append _ _

theorem like_user : like "user_%" (user.usename) = true := by
  rw [usename_eq, List.append_assoc, List.append_assoc, List.append_assoc]
  exact like_percent _

/-- A longer pattern does not match the name of a tool's user, which has its last underscore in
front of the five characters. -/
theorem not_like_of_tool (h : user.kind = .tool) (before after : Str) (x : Char)
    (hspecial : ∀ c ∈ before ++ x :: after, isLikeSpecial c = false) (hlength : after.length = 5) :
    like ('%' :: '_' :: (before ++ x :: after)) (user.usename) = false := by
  rw [Bool.eq_false_iff, ne_eq, like_percent_underscore hspecial, user.usename_tool h]
  rintro ⟨c, hsuffix⟩
  have hpattern : x :: after <:+ c :: (before ++ x :: after) :=
    (List.suffix_append before _).trans (List.suffix_cons c _)
  have heq : '_' :: user.unique_enough = x :: after := by
    refine List.IsSuffix.eq_of_length (List.suffix_of_suffix_length_le
      (List.suffix_append _ _) (hpattern.trans hsuffix) ?_) ?_
    · simp [user.drawn_length, hlength]
    · simp [user.drawn_length, hlength]
  have hx : x = '_' := (List.cons.inj heq).1.symm
  have hnot := hspecial x (by simp)
  rw [hx] at hnot
  cases hnot

theorem like_qs_iff_of_tool (h : user.kind = .tool) :
    like "%_qs" (user.usename) = true ↔ ("qs" : Str) <:+ user.unique_enough := by
  have hname := user.usename_tool h
  have hdrawn : user.unique_enough <:+ user.usename := by
    rw [hname]
    exact (List.suffix_cons '_' _).trans (List.suffix_append _ _)
  have hspecial : ∀ c ∈ ['q', 's'], isLikeSpecial c = false := forall_mem_of_all rfl
  refine (like_percent_underscore hspecial _).trans ⟨?_, ?_⟩
  · rintro ⟨c, hsuffix⟩
    refine List.suffix_of_suffix_length_le ((List.suffix_cons c _).trans hsuffix) hdrawn ?_
    rw [user.drawn_length]
    decide
  · rintro ⟨before, hqs⟩
    have hlength := congrArg List.length hqs
    rw [List.length_append, user.drawn_length] at hlength
    cases before using List.reverseRecOn with
    | nil => cases hlength
    | append_singleton before c =>
        refine ⟨c, List.IsSuffix.trans ?_ hdrawn⟩
        rw [← hqs, List.append_assoc]
        exact List.suffix_append _ _

/-! ## What the query finds -/

theorem found_tool_iff (h : user.kind = .tool) (now : Int) :
    user.row.found now = true ↔ ¬ ("qs" : Str) <:+ user.unique_enough ∨ user.Expired now := by
  have huser : like "user_%" user.row.usename = true := user.like_user
  have hquicksight : like "%_quicksight" user.row.usename = false :=
    user.not_like_of_tool h "quic" "sight" 'k' (forall_mem_of_all rfl) rfl
  have hexplorer : like "%_explorer" user.row.usename = false :=
    user.not_like_of_tool h "ex" "lorer" 'p' (forall_mem_of_all rfl) rfl
  have hsuperset : like "%_superset" user.row.usename = false :=
    user.not_like_of_tool h "su" "erset" 'p' (forall_mem_of_all rfl) rfl
  have hqs : like "%_qs" user.row.usename = true ↔ ("qs" : Str) <:+ user.unique_enough :=
    user.like_qs_iff_of_tool h
  have hfinite : user.row.is_finite = true := rfl
  have hexpired : user.row.is_expired now = true ↔ user.Expired now := decide_eq_true_iff
  rw [PgUser.found, hfinite, huser, hquicksight, hexplorer, hsuperset, ← hqs, ← hexpired]
  cases like "%_qs" user.row.usename <;> cases user.row.is_expired now <;> decide

theorem found_suffixed_iff (h : user.kind ≠ .tool) (now : Int) :
    user.row.found now = true ↔ user.Expired now := by
  have huser : like "user_%" user.row.usename = true := user.like_user
  have hmatches (lit : Str) (hspecial : ∀ c ∈ lit, isLikeSpecial c = false)
      (hkind : user.kind.suffix = lit) : like ('%' :: '_' :: lit) user.row.usename = true :=
    (like_percent_underscore hspecial _).mpr ⟨'_', hkind ▸ user.suffix_usename h⟩
  have hsome : like "%_qs" user.row.usename = true ∨ like "%_explorer" user.row.usename = true ∨
      like "%_superset" user.row.usename = true := by
    cases hkind : user.kind with
    | tool => exact absurd hkind h
    | qs => exact .inl (hmatches "qs" (forall_mem_of_all rfl) (hkind ▸ rfl))
    | explorer => exact .inr (.inl (hmatches "explorer" (forall_mem_of_all rfl) (hkind ▸ rfl)))
    | superset => exact .inr (.inr (hmatches "superset" (forall_mem_of_all rfl) (hkind ▸ rfl)))
  have hfinite : user.row.is_finite = true := rfl
  have hexpired : user.row.is_expired now = true ↔ user.Expired now := decide_eq_true_iff
  rw [PgUser.found, hfinite, huser, ← hexpired]
  revert hsome
  cases like "%_qs" user.row.usename <;> cases like "%_explorer" user.row.usename <;>
    cases like "%_superset" user.row.usename <;> cases user.row.is_expired now <;>
    cases like "%_quicksight" user.row.usename <;> decide

end MadeUser

/-! ## Which users are dropped -/

/-- The users of a database. -/
structure PgUsers where
  rows : List PgUser
  usename_unique : (rows.map PgUser.usename).Nodup

theorem mem_not_in_use_usernames_iff {lib : Core.Identifiers.Library} (users : PgUsers)
    {user : MadeUser lib} (hrow : user.row ∈ users.rows) (now : Int) (w : World) (db : Database) :
    user.usename ∈ not_in_use_usernames users.rows now w db ↔
      user.row.found now = true ∧ ¬ user.InUse w db := by
  have hfound : user.usename ∈ (users.rows.filter fun u => u.found now).map PgUser.usename ↔
      user.row.found now = true := by
    constructor
    · intro h
      obtain ⟨u, hu, hname⟩ := List.mem_map.mp h
      obtain ⟨hmem, hu⟩ := List.mem_filter.mp hu
      rwa [← List.inj_on_of_nodup_map users.usename_unique hmem hrow hname]
    · intro h
      exact List.mem_map.mpr ⟨user.row, List.mem_filter.mpr ⟨hrow, h⟩, rfl⟩
  rw [not_in_use_usernames, not_in_use, List.mem_filter, hfound]
  refine and_congr_right fun h => ?_
  rw [decide_eq_true_iff, not_iff_not]
  simp only [World.rowsFor, List.mem_map, List.mem_filter, Bool.and_eq_true, beq_iff_eq,
    decide_eq_true_eq, MadeUser.InUse]
  constructor
  · rintro ⟨row, ⟨⟨hw, hdb, -⟩, hlive⟩, hname⟩
    exact ⟨row, hw, hdb, hname, hlive⟩
  · rintro ⟨row, hw, hdb, hname, hlive⟩
    refine ⟨row, ⟨⟨hw, hdb, ?_⟩, hlive⟩, hname⟩
    rw [hname]
    exact ⟨user.row, ⟨hrow, h⟩, rfl⟩

namespace MadeUser

variable {lib : Core.Identifiers.Library} (user : MadeUser lib)

/-- The name of the user, or else the moment, does not mislead the cleanup. -/
def Recognised (now : Int) (w : World) (db : Database) : Prop :=
  match user.kind with
  | .tool => ¬ ("qs" : Str) <:+ user.unique_enough ∨ user.Expired now ∨ user.InUse w db
  | _ => user.Expired now → ¬ user.InUse w db

end MadeUser

/-- A user is dropped exactly when the rule of its kind says so, if and only if it is recognised. -/
theorem dropped_as_ruled_iff {lib : Core.Identifiers.Library} (users : PgUsers)
    (user : MadeUser lib) (hrow : user.row ∈ users.rows) (now : Int) (w : World) (db : Database) :
    (user.usename ∈ not_in_use_usernames users.rows now w db ↔ user.ToBeDropped now w db) ↔
      user.Recognised now w db := by
  rw [mem_not_in_use_usernames_iff users hrow]
  by_cases htool : user.kind = .tool
  · rw [user.found_tool_iff htool]
    simp only [MadeUser.ToBeDropped, MadeUser.Recognised, htool]
    tauto
  · rw [user.found_suffixed_iff htool]
    have hrule : user.ToBeDropped now w db ↔ user.Expired now := by
      unfold MadeUser.ToBeDropped
      split
      next h => exact absurd h htool
      next => rfl
    have hrecognised : user.Recognised now w db ↔ (user.Expired now → ¬ user.InUse w db) := by
      unfold MadeUser.Recognised
      split
      next h => exact absurd h htool
      next => rfl
    rw [hrule, hrecognised]
    tauto

/-! ## A user of a tool -/

/-- The user of a tool, valid for a week, for whose name some characters were drawn. -/
def toolUser (unique_enough usename : Str) (hlength : unique_enough.length = 5)
    (hdrawn : ∀ c ∈ unique_enough, Core.Identifiers.isAlphanumeric c = true)
    (hname : Core.Identifiers.postgres_user Core.Identifiers.someLibrary "ann@example.com"
      Kind.tool.suffix unique_enough = some usename) : MadeUser Core.Identifiers.someLibrary :=
  ⟨.tool, "ann@example.com", unique_enough, usename, 604800, hlength, hdrawn, hname⟩

/-- The characters say nothing. -/
def plain : MadeUser Core.Identifiers.someLibrary :=
  toolUser "abcde" "user_ann_example_com_abcde" rfl (forall_mem_of_all rfl) (by decide)

/-- The last two of the characters are `qs`. -/
def misleading : MadeUser Core.Identifiers.someLibrary :=
  toolUser "abcqs" "user_ann_example_com_abcqs" rfl (forall_mem_of_all rfl) (by decide)

/-- The users of a database that has one. -/
def only (user : PgUser) : PgUsers := ⟨[user], List.nodup_singleton _⟩

theorem plain_dropped_as_ruled :
    plain.usename ∈ not_in_use_usernames (only plain.row).rows 0 Small.world ⟨"1", "datasets"⟩ ↔
      plain.ToBeDropped 0 Small.world ⟨"1", "datasets"⟩ :=
  (dropped_as_ruled_iff (only plain.row) plain List.mem_cons_self 0 Small.world
    ⟨"1", "datasets"⟩).mpr (.inl (by decide))

/-- No instance has the user, and it is not dropped. -/
theorem misleading_not_dropped :
    misleading.ToBeDropped 0 Small.world ⟨"1", "datasets"⟩ ∧ misleading.usename ∉
      not_in_use_usernames (only misleading.row).rows 0 Small.world ⟨"1", "datasets"⟩ := by
  constructor
  · rintro ⟨row, hrow, -⟩
    cases hrow
  · decide

end Applications
