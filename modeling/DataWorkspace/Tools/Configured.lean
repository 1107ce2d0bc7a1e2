import DataWorkspace.Tools.ReadBack
import Mathlib.Data.List.Find

/-!
# When pgAdmin is configured

`ReadBack` is what the configuration is for: one server for each credential, and for each
server its password in the password file.  `Readable` is what the credentials, the other
variables and their order have to be like.
-/

namespace Tools

open Py Core

/-! ## The files -/

theorem servers_config_of (entries : List (Server × Str)) :
    (config_of entries).servers.items.map Prod.snd = entries.map Prod.fst := by
  have hkeys : ((entries.zipIdx.map fun entry => (str entry.2, entry.1.1)).map Prod.fst).Nodup := by
    have hmap : (entries.zipIdx.map fun entry => (str entry.2, entry.1.1)).map Prod.fst =
        (entries.zipIdx.map Prod.snd).map str := by
      rw [List.map_map, List.map_map]
      rfl
    rw [hmap, List.zipIdx_map_snd]
    exact List.Nodup.map (fun m n => str_injective) List.nodup_range'
  rw [config_of, Dict.items_ofPairs hkeys, List.map_map]
  have hfst : (entries.zipIdx.map fun entry => entry.1.1) =
      (entries.zipIdx.map Prod.fst).map Prod.fst := by
    rw [List.map_map]
    rfl
  exact hfst.trans (congrArg _ (List.zipIdx_map_fst 0 entries))

def line_read (database : Credentials) : PassLine where
  host := database.db_host
  port := database.db_port
  database := "*"
  user := user_read database
  password := password_read database

theorem text_line_read (database : Credentials) :
    (line_read database).text = (entry_read database).2 := by
  have hmiddle : (":*:" : Str) = (":" : Str) ++ "*" ++ ":" := by decide
  rw [PassLine.text, PassLine.fields, entry_read, hmiddle]
  simp only [line_read, List.intercalate_cons_cons, List.intercalate_singleton, List.append_assoc]

theorem anyCase_of_lower {others others' : Str} {c : Char} (hsub : others ⊆ others')
    (h : lowerClass others c = true) : anyCaseClass others' c = true := by
  rw [lowerClass, Bool.or_eq_true, decide_eq_true_eq] at h
  rw [anyCaseClass, lowerClass, Bool.or_eq_true, Bool.or_eq_true, decide_eq_true_eq]
  exact .inr (h.imp_right fun hc => hsub hc)

theorem anyCase_of_anyCase {others others' : Str} {c : Char} (hsub : others ⊆ others')
    (h : anyCaseClass others c = true) : anyCaseClass others' c = true := by
  rw [anyCaseClass, Bool.or_eq_true] at h
  rcases h with h | h
  · rw [anyCaseClass, h, Bool.true_or]
  · exact anyCase_of_lower hsub h

theorem anyCase_of_isDigit {others : Str} {c : Char} (h : c.isDigit = true) :
    anyCaseClass others c = true := by
  rw [anyCaseClass, lowerClass, h, Bool.or_true, Bool.true_or, Bool.or_true]

section

variable {d : Credentials}

theorem user_read_class (generated : Generated d) :
    user_read d ≠ [] ∧ ∀ c ∈ user_read d, userClass c = true := by
  rw [user_read]
  cases h : userPattern.find d.db_name with
  | none => exact ⟨generated.user_ne_nil, generated.user⟩
  | some user => exact userPattern.find_class h

theorem password_read_class (generated : Generated d) :
    password_read d ≠ [] ∧ ∀ c ∈ password_read d, passwordClass c = true := by
  rw [password_read]
  cases h : passwordPattern.find d.db_name with
  | none => exact ⟨generated.password_ne_nil, generated.password⟩
  | some password => exact passwordPattern.find_class h

theorem plain_host (addressed : Addressed d) : Plain d.db_host :=
  ⟨addressed.host_ne_nil, fun c hc => anyCase_of_lower (by decide) (addressed.host c hc)⟩

theorem plain_line_read (generated : Generated d) (addressed : Addressed d) :
    ∀ field ∈ (line_read d).fields, Plain field := by
  obtain ⟨n, hport⟩ := addressed.port
  obtain ⟨huser, huserClass⟩ := user_read_class generated
  obtain ⟨hpassword, hpasswordClass⟩ := password_read_class generated
  intro field hfield
  simp only [PassLine.fields, line_read, List.mem_cons, List.not_mem_nil, or_false] at hfield
  rcases hfield with rfl | rfl | rfl | rfl | rfl
  · exact plain_host addressed
  · rw [hport]
    exact ⟨str_ne_nil n, fun c hc => anyCase_of_isDigit (isDigit_of_mem_str hc)⟩
  · exact ⟨by decide, List.all_eq_true.mp (by decide)⟩
  · exact ⟨huser, fun c hc => anyCase_of_lower (by decide) (huserClass c hc)⟩
  · exact ⟨hpassword, fun c hc => anyCase_of_anyCase (by decide) (hpasswordClass c hc)⟩

theorem ne_star {p : Char → Bool} {s : Str} (hp : p '*' = false) (h : ∀ c ∈ s, p c = true) :
    s ≠ "*" := by
  rintro rfl
  exact not_mem_of_class hp h (by decide)

theorem applies_line_read (generated : Generated d) (addressed : Addressed d)
    (host port database user : Str) :
    (line_read d).applies host port database user =
      decide (d.db_host = host ∧ d.db_port = port ∧ user_read d = user) := by
  obtain ⟨n, hport⟩ := addressed.port
  have hhost : d.db_host ≠ "*" := ne_star (p := hostClass) (by decide) addressed.host
  have hp : d.db_port ≠ "*" := by
    rw [hport]
    exact ne_star (p := Char.isDigit) (by decide) fun c => isDigit_of_mem_str
  have huser : user_read d ≠ "*" :=
    ne_star (p := userClass) (by decide) (user_read_class generated).2
  rw [PassLine.applies, Bool.eq_iff_iff, decide_eq_true_eq]
  simp only [line_read, List.all_cons, List.all_nil, Bool.and_true, Bool.and_eq_true,
    decide_eq_true_eq, or_iff_right hhost, or_iff_right hp, or_iff_right huser, true_or, true_and]

end

theorem password_config (reader : PassfileReader) {ordered : List Credentials}
    (generated : ∀ d ∈ ordered, Generated d) (addressed : ∀ d ∈ ordered, Addressed d)
    {host : Str} (hhost : Plain host) (port database user : Str) :
    reader.password (config_of (ordered.map entry_read)).passfile host port database user =
      (ordered.find? fun d => d.db_host = host ∧ d.db_port = port ∧ user_read d = user).map
        password_read := by
  have hpassfile : (config_of (ordered.map entry_read)).passfile =
      (ordered.map line_read).flatMap fun line => line.text ++ ("\n" : Str) := by
    rw [config_of, List.flatMap_map, List.flatMap_map]
    exact List.flatMap_congr fun d _ => by rw [text_line_read]
  have hplain : ∀ line ∈ ordered.map line_read, ∀ field ∈ line.fields, Plain field := by
    intro line hline
    obtain ⟨d, hd, rfl⟩ := List.mem_map.mp hline
    exact plain_line_read (generated d hd) (addressed d hd)
  rw [hpassfile, reader.password_plain _ _ _ _ _ hplain hhost, List.find?_map, Option.map_map]
  have hfind : ordered.find? ((fun line => line.applies host port database user) ∘ line_read) =
      ordered.find? fun d => d.db_host = host ∧ d.db_port = port ∧ user_read d = user :=
    List.find?_congr fun d hd =>
      applies_line_read (generated d hd) (addressed d hd) host port database user
  rw [hfind]
  rfl

def sameServer (d e : Credentials) : Bool :=
  e.db_host = d.db_host ∧ e.db_port = d.db_port ∧ e.db_user = d.db_user

/-! ## What the configuration is for -/

structure ReadBack (reader : PassfileReader) (credentials : List Credentials) (config : Config) :
    Prop where
  /-- Each credential has its server, and there are no others. -/
  servers : ∃ servers, (config.servers.items.map Prod.snd).Perm servers ∧
    List.Forall₂ ServerOf credentials servers
  /-- The password of a credential is found for its server, whatever the database. -/
  passwords : ∀ d ∈ credentials, ∀ server ∈ config.servers.items.map Prod.snd,
    ServerOf d server → ∀ database, reader.password config.passfile server.Host (str server.Port)
      database server.Username = some d.db_password

/-- What the credentials and the other variables have to be like. -/
structure Readable (environ : Dict Str Str) (credentials : List Credentials)
    (others : List (Str × Str)) : Prop where
  a_database : credentials ≠ []
  no_others : NoOthers others
  /-- No memorable name has `__` in it, but at its end. -/
  flat : ∀ d ∈ credentials, get_later_components d.memorable_name = []
  a_name : ∃ d ∈ credentials, is_int d.memorable_name = false
  addressed : ∀ d ∈ credentials, Addressed d
  /-- The name of a database is not taken for a user. -/
  users : ∀ d ∈ credentials, ∀ user, userPattern.find d.db_name = some user → user = d.db_user
  dbnames : ∀ d ∈ credentials, has_dbname d = true
  /-- The first of the credentials for a server and a user is read with the password of all. -/
  passwords : ∀ d ∈ credentials, ∀ first,
    (inOrder environ credentials).find? (sameServer d) = some first →
      (passwordPattern.find first.db_name).getD first.db_password = d.db_password

section

variable {environ : Dict Str Str} {credentials : List Credentials} {others : List (Str × Str)}

theorem read_dsn_name {name dsn : Str} {entry : Server × Str}
    (h : read_dsn name (.text dsn) = .ok entry) : entry.1.Name = name := by
  rw [read_dsn] at h
  obtain ⟨user, -, h⟩ := of_bind_eq_ok h
  obtain ⟨password, -, h⟩ := of_bind_eq_ok h
  obtain ⟨port, -, h⟩ := of_bind_eq_ok h
  obtain ⟨dbname, -, h⟩ := of_bind_eq_ok h
  obtain ⟨host, -, h⟩ := of_bind_eq_ok h
  rw [← Except.ok.inj h]

theorem noOthers_of_readBack (handed : Handed credentials)
    (h : environ.items.Perm ((database_env credentials).items ++ others))
    {entries : List (Server × Str)} {servers : List Server}
    (hread : List.Forall₂ (fun kv entry => read_dsn kv.1 (.text kv.2) = .ok entry)
      (component environ "DATABASE_DSN") entries)
    (hperm : (entries.map Prod.fst).Perm servers)
    (hservers : List.Forall₂ ServerOf credentials servers) : NoOthers others := by
  have hlength : (component environ "DATABASE_DSN").length = credentials.length := by
    rw [hread.length_eq, hservers.length_eq, ← hperm.length_eq, List.length_map]
  rw [(component_perm handed h).length_eq, List.length_append, List.length_map,
    Nat.add_eq_left, List.length_eq_zero_iff, List.filterMap_eq_nil_iff] at hlength
  intro kv hkv hfirst
  by_contra hlater
  have hnone := hlength kv hkv
  rw [below, if_pos ⟨hlater, hfirst⟩] at hnone
  cases hnone

theorem entries_eq {ordered : List Credentials} {entries : List (Server × Str)}
    (hread : List.Forall₂ (fun d entry =>
      read_dsn d.memorable_name (.text (dsn d)) = .ok entry) ordered entries)
    (h : ∀ d ∈ ordered, ∀ entry, read_dsn d.memorable_name (.text (dsn d)) = .ok entry →
      entry = entry_read d) : entries = ordered.map entry_read := by
  induction hread with
  | nil => rfl
  | cons hd _ ih =>
      rw [List.map_cons, h _ List.mem_cons_self _ hd,
        ih fun d hmem => h d (List.mem_cons_of_mem _ hmem)]

theorem password_of_credential (reader : PassfileReader) {ordered : List Credentials}
    (generated : ∀ d ∈ ordered, Generated d) (addressed : ∀ d ∈ ordered, Addressed d)
    (users : ∀ d ∈ ordered, user_read d = d.db_user) {d : Credentials} {server : Server}
    (hd : Addressed d) (hserver : ServerOf d server) (database : Str) :
    reader.password (config_of (ordered.map entry_read)).passfile server.Host (str server.Port)
      database server.Username = (ordered.find? (sameServer d)).map password_read := by
  rw [hserver.Host, hserver.Port, hserver.Username,
    password_config reader generated addressed (plain_host hd)]
  refine congrArg (Option.map password_read) (List.find?_congr fun e he => ?_)
  rw [users e he]
  rfl

theorem readable_of_readBack {reader : PassfileReader} {config : Config}
    (handed : Handed credentials)
    (h : environ.items.Perm ((database_env credentials).items ++ others))
    (hconfig : pgadmin_config environ = .ok config)
    (hback : ReadBack reader credentials config) : Readable environ credentials others := by
  obtain ⟨hne, hflat, hint, entries, hread, rfl⟩ := pgadmin_config_eq_ok.mp hconfig
  obtain ⟨servers, hperm, hservers⟩ := hback.servers
  have hpasswords := hback.passwords
  rw [servers_config_of] at hperm hpasswords
  have hothers := noOthers_of_readBack handed h hread hperm hservers
  have horder := inOrder_perm handed h
  rw [component_eq_inOrder handed hothers h] at hne hflat hint hread
  rw [List.forall₂_map_left_iff] at hread
  have hcredential : ∀ d ∈ credentials, ∃ entry ∈ entries,
      read_dsn d.memorable_name (.text (dsn d)) = .ok entry ∧ ServerOf d entry.1 := by
    intro d hd
    obtain ⟨entry, hmem, hentry⟩ := exists_of_forall₂ hread (horder.mem_iff.mpr hd)
    obtain ⟨d', hd', hserver⟩ := exists_of_forall₂ (List.Forall₂.flip (R := flip ServerOf) hservers)
      (hperm.mem_iff.mp (List.mem_map_of_mem hmem))
    have hname : d'.memorable_name = d.memorable_name :=
      hserver.Name.symm.trans (read_dsn_name hentry)
    obtain rfl := List.inj_on_of_nodup_map handed.nodup hd' hd hname
    exact ⟨entry, hmem, hentry, hserver⟩
  have haddressed : ∀ d ∈ credentials, Addressed d := by
    intro d hd
    obtain ⟨entry, -, hentry, hserver⟩ := hcredential d hd
    exact addressed_of_read hentry hserver
  have hentries : ∀ d ∈ credentials, ∀ entry,
      read_dsn d.memorable_name (.text (dsn d)) = .ok entry →
        has_dbname d = true ∧ entry = entry_read d := fun d hd entry hentry =>
    (read_dsn_ok_iff (handed.generated d hd) (haddressed d hd)).mp hentry
  have husers : ∀ d ∈ credentials, user_read d = d.db_user := by
    intro d hd
    obtain ⟨entry, -, hentry, hserver⟩ := hcredential d hd
    rw [(hentries d hd entry hentry).2] at hserver
    exact hserver.Username
  have hin : ∀ d, d ∈ inOrder environ credentials → d ∈ credentials := fun d => horder.mem_iff.mp
  obtain rfl := entries_eq hread fun d hd entry hentry => (hentries d (hin d hd) entry hentry).2
  refine ⟨?_, hothers, ?_, ?_, haddressed, ?_, ?_, ?_⟩
  · rintro rfl
    rw [horder.eq_nil] at hne
    exact hne rfl
  · exact fun d hd => hflat _ (List.mem_map_of_mem (horder.mem_iff.mpr hd))
  · obtain ⟨kv, hkv, hname⟩ := hint
    obtain ⟨d, hd, rfl⟩ := List.mem_map.mp hkv
    exact ⟨d, hin d hd, hname⟩
  · intro d hd user hfound
    have huser := husers d hd
    rw [user_read, hfound] at huser
    exact huser
  · intro d hd
    obtain ⟨entry, -, hentry, -⟩ := hcredential d hd
    exact (hentries d hd entry hentry).1
  · intro d hd first hfirst
    have hserver := (serverOf_entry_read (haddressed d hd)).mpr (husers d hd)
    have hmem : (entry_read d).1 ∈
        ((inOrder environ credentials).map entry_read).map Prod.fst :=
      List.mem_map_of_mem (List.mem_map_of_mem (horder.mem_iff.mpr hd))
    have hpassword := hpasswords d hd _ hmem hserver []
    rw [password_of_credential reader (fun e he => handed.generated e (hin e he))
      (fun e he => haddressed e (hin e he)) (fun e he => husers e (hin e he)) (haddressed d hd)
      hserver, hfirst, Option.map_some] at hpassword
    exact Option.some.inj hpassword

theorem readBack_of_readable {reader : PassfileReader} (handed : Handed credentials)
    (h : environ.items.Perm ((database_env credentials).items ++ others))
    (readable : Readable environ credentials others) :
    ∃ config, pgadmin_config environ = .ok config ∧ ReadBack reader credentials config := by
  have horder := inOrder_perm handed h
  have hcomp := component_eq_inOrder handed readable.no_others h
  have hin : ∀ d, d ∈ inOrder environ credentials → d ∈ credentials := fun d => horder.mem_iff.mp
  have husers : ∀ d ∈ credentials, user_read d = d.db_user := by
    intro d hd
    rw [user_read]
    cases hfound : userPattern.find d.db_name with
    | none => rfl
    | some user => exact readable.users d hd user hfound
  have hserver : ∀ d ∈ credentials, ServerOf d (entry_read d).1 := fun d hd =>
    (serverOf_entry_read (readable.addressed d hd)).mpr (husers d hd)
  refine ⟨config_of ((inOrder environ credentials).map entry_read), ?_, ?_, ?_⟩
  · rw [pgadmin_config_eq_ok, hcomp]
    refine ⟨?_, ?_, ?_, _, ?_, rfl⟩
    · intro hnil
      rw [List.map_eq_nil_iff] at hnil
      rw [hnil] at horder
      exact readable.a_database horder.nil_eq.symm
    · intro kv hkv
      obtain ⟨d, hd, rfl⟩ := List.mem_map.mp hkv
      exact readable.flat d (hin d hd)
    · obtain ⟨d, hd, hname⟩ := readable.a_name
      exact ⟨_, List.mem_map_of_mem (horder.mem_iff.mpr hd), hname⟩
    · rw [List.forall₂_map_left_iff, List.forall₂_map_right_iff, List.forall₂_same]
      intro d hd
      exact read_dsn_eq (handed.generated d (hin d hd)) (readable.addressed d (hin d hd))
        (readable.dbnames d (hin d hd))
  · rw [servers_config_of]
    refine ⟨(credentials.map entry_read).map Prod.fst, (horder.map _).map _, ?_⟩
    rw [List.forall₂_map_right_iff, List.forall₂_map_right_iff, List.forall₂_same]
    exact hserver
  · intro d hd server _ hof database
    rw [password_of_credential reader (fun e he => handed.generated e (hin e he))
      (fun e he => readable.addressed e (hin e he)) (fun e he => husers e (hin e he))
      (readable.addressed d hd) hof]
    -- The credential itself is for the same server and user.
    have hsome : ((inOrder environ credentials).find? (sameServer d)).isSome = true :=
      List.find?_isSome.mpr ⟨d, horder.mem_iff.mpr hd, decide_eq_true ⟨rfl, rfl, rfl⟩⟩
    obtain ⟨first, hfirst⟩ := Option.isSome_iff_exists.mp hsome
    rw [hfirst, Option.map_some]
    exact congrArg some (readable.passwords d hd first hfirst)

/-- pgAdmin is configured with the credentials it is handed exactly when they are readable. -/
theorem pgadmin_reads_credentials_iff (reader : PassfileReader) (handed : Handed credentials)
    (h : environ.items.Perm ((database_env credentials).items ++ others)) :
    (∃ config, pgadmin_config environ = .ok config ∧ ReadBack reader credentials config) ↔
      Readable environ credentials others := by
  constructor
  · rintro ⟨config, hconfig, hback⟩
    exact readable_of_readBack handed h hconfig hback
  · exact readBack_of_readable handed h

end

/-! ## A reader -/

def passLine? (text : Str) : Option PassLine :=
  match text.splitOn ':' with
  | [host, port, database, user, password] =>
      some { host := host, port := port, database := database, user := user, password := password }
  | _ => none

theorem passLine?_text {line : PassLine} (h : ∀ field ∈ line.fields, Plain field) :
    passLine? line.text = some line := by
  have hfields : line.text.splitOn ':' = line.fields := by
    refine List.splitOn_intercalate ':' (fun field hfield hcolon => ?_) (List.cons_ne_nil _ _)
    exact absurd ((h field hfield).2 ':' hcolon) (by decide)
  rw [passLine?, hfields]
  rfl

theorem newline_not_mem_text {line : PassLine} (h : ∀ field ∈ line.fields, Plain field) :
    '\n' ∉ line.text := by
  have hfield : ∀ field ∈ line.fields, '\n' ∉ field :=
    fun field hmem hnewline => absurd ((h field hmem).2 _ hnewline) (by decide)
  rw [PassLine.fields] at hfield
  rw [PassLine.text, PassLine.fields]
  simp only [List.intercalate_cons_cons, List.intercalate_singleton, List.mem_append, not_or]
  simp only [List.forall_mem_cons] at hfield
  exact ⟨⟨hfield.1, by decide⟩, ⟨hfield.2.1, by decide⟩, ⟨hfield.2.2.1, by decide⟩,
    ⟨hfield.2.2.2.1, by decide⟩, hfield.2.2.2.2.1⟩

theorem filterMap_passLine? : ∀ {lines : List PassLine},
    (∀ line ∈ lines, ∀ field ∈ line.fields, Plain field) →
      ((lines.flatMap fun line => line.text ++ ("\n" : Str)).splitOn '\n').filterMap passLine? =
        lines
  | [], _ => rfl
  | line :: lines, h => by
      have hline := h line List.mem_cons_self
      have ih := filterMap_passLine? fun l hl => h l (List.mem_cons_of_mem line hl)
      have hnewline : ("\n" : Str) = ['\n'] := by decide
      rw [hnewline] at ih ⊢
      rw [List.flatMap_cons, List.append_assoc, List.singleton_append,
        List.splitOn_append_cons_self_of_not_mem (newline_not_mem_text hline),
        List.filterMap_cons_some (passLine?_text hline), ih]

/-- A reader that takes the fields of a line for what they are. -/
def plainReader : PassfileReader where
  password file host port database user :=
    (((file.splitOn '\n').filterMap passLine?).find?
      fun line => line.applies host port database user).map PassLine.password
  password_plain lines host port database user hplain _ := by
    rw [filterMap_passLine? hplain]

/-! ## Two environments -/

def datasetsCredentials : Credentials where
  memorable_name := "datasets_1"
  db_id := "7a3f"
  db_name := "datasets"
  db_host := "db-1.example.org"
  db_port := "5432"
  db_user := "user_ada_example_org_k3x9q"
  db_persistent_role := "_user_8d7c1f20"
  db_password := "Zk4hQ0"

/-- The same database under a name that is an integer. -/
def integerCredentials : Credentials := { datasetsCredentials with memorable_name := "1" }

theorem generated_datasets : Generated datasetsCredentials :=
  ⟨by decide, List.all_eq_true.mp (by decide), by decide, List.all_eq_true.mp (by decide)⟩

theorem handed_datasets : Handed [datasetsCredentials] where
  names _ hd := List.mem_singleton.mp hd ▸
    ⟨by decide, by decide, List.any_eq_true.mp (by decide)⟩
  nodup := List.nodup_singleton _
  generated _ hd := List.mem_singleton.mp hd ▸ generated_datasets

theorem handed_integer : Handed [integerCredentials] where
  names _ hd := List.mem_singleton.mp hd ▸
    ⟨by decide, by decide, List.any_eq_true.mp (by decide)⟩
  nodup := List.nodup_singleton _
  generated _ hd := List.mem_singleton.mp hd ▸
    ⟨generated_datasets.user_ne_nil, generated_datasets.user, generated_datasets.password_ne_nil,
      generated_datasets.password⟩

/-- The environment of a tool, with variables around that of the credential. -/
def toolEnviron : Dict Str Str where
  items := [("PATH", "/usr/bin"), (dsn_variable "datasets_1", dsn datasetsCredentials),
    ("S3_REGION", "eu-west-2")]
  nodup := by decide

def toolOthers : List (Str × Str) := [("PATH", "/usr/bin"), ("S3_REGION", "eu-west-2")]

theorem toolEnviron_perm :
    toolEnviron.items.Perm ((database_env [datasetsCredentials]).items ++ toolOthers) :=
  List.Perm.swap _ _ _

theorem readable_datasets : Readable toolEnviron [datasetsCredentials] toolOthers where
  a_database := List.cons_ne_nil _ _
  no_others := (by decide : ∀ kv ∈ toolOthers,
    get_first_component kv.1 = "DATABASE_DSN" → get_later_components kv.1 = [])
  flat _ hd := List.mem_singleton.mp hd ▸ by decide
  a_name := ⟨_, List.mem_singleton_self _, by decide⟩
  addressed _ hd := List.mem_singleton.mp hd ▸
    ⟨by decide, List.all_eq_true.mp (by decide), 5432, by decide⟩
  users _ hd user hfound := by
    have hnone : userPattern.find datasetsCredentials.db_name = none := by decide
    rw [List.mem_singleton.mp hd, hnone] at hfound
    cases hfound
  dbnames _ hd := List.mem_singleton.mp hd ▸ by decide +kernel
  passwords _ hd first hfirst := by
    have hinOrder : inOrder toolEnviron [datasetsCredentials] = [datasetsCredentials] := by
      decide +kernel
    have hnone : passwordPattern.find datasetsCredentials.db_name = none := by decide
    rw [hinOrder] at hfirst
    rw [List.mem_singleton.mp (List.mem_of_find?_eq_some hfirst), List.mem_singleton.mp hd, hnone]
    rfl

theorem pgadmin_reads_credentials_datasets :
    ∃ config, pgadmin_config toolEnviron = .ok config ∧
      ReadBack plainReader [datasetsCredentials] config :=
  (pgadmin_reads_credentials_iff plainReader handed_datasets toolEnviron_perm).mpr readable_datasets

/-- With one database, whose memorable name is an integer, there is no configuration. -/
theorem integer_name_not_read :
    Handed [integerCredentials] ∧
      ¬ ∃ config, pgadmin_config (database_env [integerCredentials]) = .ok config ∧
        ReadBack plainReader [integerCredentials] config := by
  refine ⟨handed_integer, fun h => ?_⟩
  obtain ⟨config, hconfig, -⟩ := h
  have hraised : (pgadmin_config (database_env [integerCredentials])).isOk = false := by
    decide +kernel
  rw [hconfig] at hraised
  cases hraised

end Tools
