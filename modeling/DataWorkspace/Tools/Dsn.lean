import DataWorkspace.Tools.PgAdmin

/-!
# Connection strings

A connection string is made of fields with a blank between them, and a field of a name and
a value.  No name and no blank can be part of a match, so a search goes through the fields
one after the other, and in a field through its value (`find_dsn`).

The values are not quoted.  A value that is searched can hold what looks like another
field, and the name of the database is the only one of them that can.
-/

namespace Tools

open Py Core

/-! ## Fields -/

def dsnField (key value : Str) : Str := key ++ '=' :: value

def beside (left right : Str) : Str := left ++ ' ' :: right

theorem dsn_eq (database : Credentials) :
    dsn database =
      beside (dsnField "host" database.db_host)
        (beside (dsnField "port" database.db_port)
          (beside (dsnField "sslmode" "require")
            (beside (dsnField "dbname" database.db_name)
              (beside (dsnField "user" database.db_user)
                (dsnField "password" database.db_password))))) := by
  have hhost : ("host=" : Str) = ("host" : Str) ++ ['='] := by decide
  have hport : (" port=" : Str) = ' ' :: ("port" : Str) ++ ['='] := by decide
  have hdbname : (" sslmode=require dbname=" : Str) =
      ' ' :: ("sslmode" : Str) ++ '=' :: ("require" : Str) ++ ' ' :: ("dbname" : Str) ++ ['='] := by
    decide
  have huser : (" user=" : Str) = ' ' :: ("user" : Str) ++ ['='] := by decide
  have hpassword : (" password=" : Str) = ' ' :: ("password" : Str) ++ ['='] := by decide
  unfold dsn
  simp only [hhost, hport, hdbname, huser, hpassword, dsnField, beside, List.append_assoc,
    List.cons_append, List.nil_append]

/-! ## Searching -/

/-- A name that is searched for, and the class behind it. -/
structure Pattern where
  name : Str
  p : Char → Bool
  ne_nil : name ≠ []
  no_equals : '=' ∉ name
  no_blank : ' ' ∉ name
  ends : p ' ' = false

def Pattern.find (r : Pattern) (s : Str) : Option Str := search (r.name ++ ['=']) r.p s

variable (r : Pattern)

theorem Pattern.find_beside (left right : Str) :
    r.find (beside left right) = (r.find left).or (r.find right) := by
  refine search_append_cons ?_ r.ends right left
  intro h
  rcases List.mem_append.mp h with h | h
  · exact r.no_blank h
  · exact absurd (List.mem_singleton.mp h) (by decide)

/-- What a search finds in the field of a key whose value holds no field. -/
def Pattern.own (r : Pattern) (key value : Str) : Option Str :=
  if r.name <:+ key then run? r.p value else none

theorem Pattern.own_other (key value : Str) (h : ¬ r.name <:+ key) : r.own key value = none :=
  if_neg h

theorem Pattern.own_self {value : Str} (hne : value ≠ []) (hp : ∀ c ∈ value, r.p c = true) :
    r.own r.name value = some value :=
  (if_pos (List.suffix_refl _)).trans (run?_eq_self hne hp)

theorem Pattern.find_dsnField {key : Str} (hkey : '=' ∉ key) (value : Str) :
    r.find (dsnField key value) = (r.own key value).or (r.find value) :=
  search_field r.ne_nil r.no_equals value hkey

theorem Pattern.find_plain {key value : Str} (hkey : '=' ∉ key) (hvalue : '=' ∉ value) :
    r.find (dsnField key value) = r.own key value := by
  rw [r.find_dsnField hkey, Pattern.find, search_of_not_mem hvalue, Option.or_none]

theorem Pattern.find_class {s run : Str} (h : r.find s = some run) :
    run ≠ [] ∧ ∀ c ∈ run, r.p c = true := search_class h

/-! ## The patterns -/

def userPattern : Pattern :=
  { name := "user", p := userClass, ne_nil := by decide, no_equals := by decide,
    no_blank := by decide, ends := by decide }

def passwordPattern : Pattern :=
  { name := "password", p := passwordClass, ne_nil := by decide, no_equals := by decide,
    no_blank := by decide, ends := by decide }

def portPattern : Pattern :=
  { name := "port", p := isDecimal, ne_nil := by decide, no_equals := by decide,
    no_blank := by decide, ends := by decide }

def dbnamePattern : Pattern :=
  { name := "dbname", p := dbnameClass, ne_nil := by decide, no_equals := by decide,
    no_blank := by decide, ends := by decide }

def hostPattern : Pattern :=
  { name := "host", p := hostClass, ne_nil := by decide, no_equals := by decide,
    no_blank := by decide, ends := by decide }

theorem group_eq_ok {r : Pattern} {s run : Str} :
    group r.name r.p s = .ok run ↔ r.find s = some run := by
  rw [group, ← Pattern.find]
  cases r.find s with
  | none => simp
  | some found => simp

theorem of_bind_eq_ok {α β : Type} {x : Except Raised α} {f : α → Except Raised β} {b : β}
    (h : x >>= f = .ok b) : ∃ a, x = .ok a ∧ f a = .ok b := by
  cases x with
  | error e => cases h
  | ok a => exact ⟨a, rfl, h⟩

theorem not_mem_of_class {p : Char → Bool} {c : Char} {s : Str} (hc : p c = false)
    (h : ∀ d ∈ s, p d = true) : c ∉ s := by
  intro hmem
  rw [h c hmem] at hc
  cases hc

theorem equals_not_mem_str (n : Nat) : '=' ∉ str n :=
  fun h => absurd (isDigit_of_mem_str h) (by decide)

/-! ## One credential -/

/-- The user and the password are of the classes the program makes them of: a user of lower
case letters, digits and underscores, and a password of letters and digits. -/
structure Generated (database : Credentials) : Prop where
  user_ne_nil : database.db_user ≠ []
  user : ∀ c ∈ database.db_user, userClass c = true
  password_ne_nil : database.db_password ≠ []
  password : ∀ c ∈ database.db_password, passwordClass c = true

/-- The host and the port can be written as they are. -/
structure Addressed (database : Credentials) : Prop where
  host_ne_nil : database.db_host ≠ []
  host : ∀ c ∈ database.db_host, hostClass c = true
  port : ∃ n, database.db_port = str n

section

variable {database : Credentials}

theorem find_dsn (r : Pattern) (generated : Generated database) (addressed : Addressed database) :
    r.find (dsn database) =
      (r.own "host" database.db_host).or ((r.own "port" database.db_port).or
        ((r.own "sslmode" "require").or (((r.own "dbname" database.db_name).or
          (r.find database.db_name)).or ((r.own "user" database.db_user).or
            (r.own "password" database.db_password))))) := by
  obtain ⟨n, hport⟩ := addressed.port
  rw [dsn_eq]
  simp only [Pattern.find_beside]
  rw [r.find_plain (by decide) (not_mem_of_class (by decide) addressed.host),
    r.find_plain (by decide) (hport ▸ equals_not_mem_str n),
    r.find_plain (by decide) (by decide), r.find_dsnField (by decide),
    r.find_plain (by decide) (not_mem_of_class (by decide) generated.user),
    r.find_plain (by decide) (not_mem_of_class (by decide) generated.password)]

theorem find_host (generated : Generated database) (addressed : Addressed database) :
    hostPattern.find (dsn database) = some database.db_host := by
  have hhost : hostPattern.own "host" database.db_host = some database.db_host :=
    hostPattern.own_self addressed.host_ne_nil addressed.host
  rw [find_dsn hostPattern generated addressed, hhost, Option.some_or]

theorem find_port (generated : Generated database) (addressed : Addressed database) :
    portPattern.find (dsn database) = some database.db_port := by
  have hport : portPattern.own "port" database.db_port = some database.db_port := by
    obtain ⟨n, hn⟩ := addressed.port
    rw [hn]
    exact portPattern.own_self (str_ne_nil n)
      fun c hc => isDecimal_of_isDigit (isDigit_of_mem_str hc)
  rw [find_dsn portPattern generated addressed, portPattern.own_other "host" _ (by decide), hport]
  simp only [Option.none_or, Option.some_or]

/-- The user that is read: one that the name of the database holds, or the database's. -/
def user_read (database : Credentials) : Str :=
  (userPattern.find database.db_name).getD database.db_user

theorem find_user (generated : Generated database) (addressed : Addressed database) :
    userPattern.find (dsn database) = some (user_read database) := by
  have huser : userPattern.own "user" database.db_user = some database.db_user :=
    userPattern.own_self generated.user_ne_nil generated.user
  rw [find_dsn userPattern generated addressed, userPattern.own_other "host" _ (by decide),
    userPattern.own_other "port" _ (by decide),
    userPattern.own_other "sslmode" _ (by decide),
    userPattern.own_other "dbname" _ (by decide), huser]
  simp only [Option.none_or, Option.some_or, Option.or_some]
  rfl

def password_read (database : Credentials) : Str :=
  (passwordPattern.find database.db_name).getD database.db_password

theorem find_password (generated : Generated database) (addressed : Addressed database) :
    passwordPattern.find (dsn database) = some (password_read database) := by
  have hpassword : passwordPattern.own "password" database.db_password =
      some database.db_password :=
    passwordPattern.own_self generated.password_ne_nil generated.password
  rw [find_dsn passwordPattern generated addressed,
    passwordPattern.own_other "host" _ (by decide),
    passwordPattern.own_other "port" _ (by decide),
    passwordPattern.own_other "sslmode" _ (by decide),
    passwordPattern.own_other "dbname" _ (by decide),
    passwordPattern.own_other "user" _ (by decide), hpassword]
  simp only [Option.none_or, Option.or_some]
  rfl

/-- The name of the database is read, though not used: whether anything is found for it. -/
def has_dbname (database : Credentials) : Bool :=
  (dbnamePattern.find (dsnField "dbname" database.db_name)).isSome

theorem find_dbname (generated : Generated database) (addressed : Addressed database) :
    dbnamePattern.find (dsn database) =
      dbnamePattern.find (dsnField "dbname" database.db_name) := by
  rw [find_dsn dbnamePattern generated addressed,
    dbnamePattern.own_other "host" _ (by decide),
    dbnamePattern.own_other "port" _ (by decide),
    dbnamePattern.own_other "sslmode" _ (by decide),
    dbnamePattern.own_other "user" _ (by decide),
    dbnamePattern.own_other "password" _ (by decide),
    dbnamePattern.find_dsnField (by decide)]
  simp only [Option.none_or, Option.or_none]

/-! ## Reading -/

structure ServerOf (database : Credentials) (server : Server) : Prop where
  Name : server.Name = database.memorable_name
  Host : server.Host = database.db_host
  Port : str server.Port = database.db_port
  Username : server.Username = database.db_user

def entry_read (database : Credentials) : Server × Str :=
  ({ Name := database.memorable_name, Port := number database.db_port,
     Username := user_read database, Host := database.db_host },
    database.db_host ++ ":" ++ database.db_port ++ ":*:" ++ user_read database ++ ":" ++
      password_read database)

theorem read_dsn_eq (generated : Generated database) (addressed : Addressed database)
    (h : has_dbname database = true) :
    read_dsn database.memorable_name (.text (dsn database)) = .ok (entry_read database) := by
  obtain ⟨dbname, hdbname⟩ := Option.isSome_iff_exists.mp h
  rw [← find_dbname generated addressed] at hdbname
  have hu : group "user" userClass (dsn database) = .ok (user_read database) :=
    group_eq_ok.mpr (find_user generated addressed)
  have hw : group "password" passwordClass (dsn database) = .ok (password_read database) :=
    group_eq_ok.mpr (find_password generated addressed)
  have hp : group "port" isDecimal (dsn database) = .ok database.db_port :=
    group_eq_ok.mpr (find_port generated addressed)
  have hd : group "dbname" dbnameClass (dsn database) = .ok dbname := group_eq_ok.mpr hdbname
  have hh : group "host" hostClass (dsn database) = .ok database.db_host :=
    group_eq_ok.mpr (find_host generated addressed)
  rw [read_dsn, hu, hw, hp, hd, hh]
  rfl

theorem addressed_of_read {entry : Server × Str}
    (h : read_dsn database.memorable_name (.text (dsn database)) = .ok entry)
    (hserver : ServerOf database entry.1) : Addressed database := by
  rw [read_dsn] at h
  obtain ⟨user, -, h⟩ := of_bind_eq_ok h
  obtain ⟨password, -, h⟩ := of_bind_eq_ok h
  obtain ⟨port, -, h⟩ := of_bind_eq_ok h
  obtain ⟨dbname, -, h⟩ := of_bind_eq_ok h
  obtain ⟨host, hhost, h⟩ := of_bind_eq_ok h
  obtain rfl := Except.ok.inj h
  have hclass := hostPattern.find_class (group_eq_ok.mp hhost)
  have heq : host = database.db_host := hserver.Host
  rw [heq] at hclass
  exact ⟨hclass.1, hclass.2, number port, hserver.Port.symm⟩

theorem read_dsn_ok_iff (generated : Generated database) (addressed : Addressed database)
    {entry : Server × Str} :
    read_dsn database.memorable_name (.text (dsn database)) = .ok entry ↔
      has_dbname database = true ∧ entry = entry_read database := by
  constructor
  · intro h
    have hdb : has_dbname database = true := by
      rw [read_dsn] at h
      obtain ⟨user, -, h⟩ := of_bind_eq_ok h
      obtain ⟨password, -, h⟩ := of_bind_eq_ok h
      obtain ⟨port, -, h⟩ := of_bind_eq_ok h
      obtain ⟨dbname, hdbname, h⟩ := of_bind_eq_ok h
      have hfound : dbnamePattern.find (dsn database) = some dbname := group_eq_ok.mp hdbname
      rw [find_dbname generated addressed] at hfound
      rw [has_dbname, hfound]
      rfl
    rw [read_dsn_eq generated addressed hdb] at h
    exact ⟨hdb, (Except.ok.inj h).symm⟩
  · rintro ⟨hdb, rfl⟩
    exact read_dsn_eq generated addressed hdb

theorem serverOf_entry_read (addressed : Addressed database) :
    ServerOf database (entry_read database).1 ↔ user_read database = database.db_user := by
  obtain ⟨n, hport⟩ := addressed.port
  constructor
  · exact fun h => h.Username
  · intro h
    refine ⟨rfl, rfl, ?_, h⟩
    rw [entry_read, hport, number_str]

end

end Tools
