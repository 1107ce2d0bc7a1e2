import DataWorkspace.Core.Credentials
import DataWorkspace.Py.Regex
import DataWorkspace.Tools.Environment

/-!
# The configuration of pgAdmin

The spawner hands a tool its database credentials in environment variables, one for each
database: the name of the variable ends with the memorable name of the database, and its
value is a connection string.  The configuration file of pgAdmin reads them back.  It takes
the values out of a connection string by searching it for names, and makes a list of
servers and a password file.

A client that connects to a server looks the password up in the file: `PassfileReader`.
-/

namespace Tools

open Py Core

/-! ## What the spawner writes -/

/-- The value of a variable. -/
def dsn (database : Credentials) : Str :=
  ("host=" : Str) ++ database.db_host ++ " port=" ++ database.db_port ++
    " sslmode=require dbname=" ++ database.db_name ++ " user=" ++ database.db_user ++
    " password=" ++ database.db_password

def dsn_variable (memorable_name : Str) : Str := ("DATABASE_DSN__" : Str) ++ memorable_name

def database_env (credentials : List Credentials) : Dict Str Str :=
  .ofPairs (credentials.map fun database => (dsn_variable database.memorable_name, dsn database))

/-! ## What pgAdmin reads -/

/-- The exceptions that end the configuration file. -/
inductive Raised where
  | KeyError
  | TypeError
  | AttributeError
deriving DecidableEq, Repr

/-- A class of letters, or of letters of both cases, the digits, and some others. -/
def lowerClass (others : Str) (c : Char) : Bool := c.isLower || c.isDigit || c ∈ others

def anyCaseClass (others : Str) (c : Char) : Bool := c.isUpper || lowerClass others c

def userClass : Char → Bool := lowerClass "_"
def passwordClass : Char → Bool := anyCaseClass "_"
def dbnameClass : Char → Bool := lowerClass "_-"
def hostClass : Char → Bool := lowerClass "_-."

/-- `re.search(pattern, dsn).groups()[0]`. -/
def group (name : Str) (p : Char → Bool) (dsn : Str) : Except Raised Str :=
  match search (name ++ ['=']) p dsn with
  | some run => .ok run
  | none => .error .AttributeError

structure Server where
  Name : Str
  Port : Nat
  Username : Str
  Host : Str
deriving DecidableEq, Repr

/-- What one connection string is read as: the server, and the line of the password file. -/
def read_dsn (name : Str) : Nested → Except Raised (Server × Str)
  | .text dsn => do
      let user ← group "user" userClass dsn
      let password ← group "password" passwordClass dsn
      let port ← group "port" isDecimal dsn
      let _dbname ← group "dbname" dbnameClass dsn
      let host ← group "host" hostClass dsn
      .ok ({ Name := name, Port := number port, Username := user, Host := host },
        host ++ ":" ++ port ++ ":*:" ++ user ++ ":" ++ password)
  | _ => .error .TypeError

/-- `env["DATABASE_DSN"].items()`. -/
def database_dsn_items : Nested → Except Raised (List (Str × Nested))
  | .dict items =>
      match (items.find? fun item => item.1 = ("DATABASE_DSN" : Str)).map Prod.snd with
      | some (.dict dsns) => .ok dsns
      | some _ => .error .AttributeError
      | none => .error .KeyError
  | _ => .error .TypeError

/-- The two files. -/
structure Config where
  servers : Dict Str Server
  passfile : Str

/-- The configuration that the environment leads to. -/
def pgadmin_config (environ : Dict Str Str) : Except Raised Config := do
  let dsns ← database_dsn_items (normalise_environment environ)
  let entries ← dsns.mapM fun item => read_dsn item.1 item.2
  .ok {
    servers := .ofPairs (entries.zipIdx.map fun entry => (str entry.2, entry.1.1))
    passfile := entries.flatMap fun entry => entry.2 ++ "\n" }

/-! ## The password file -/

/-- A line of a password file. -/
structure PassLine where
  host : Str
  port : Str
  database : Str
  user : Str
  password : Str

def PassLine.fields (line : PassLine) : List Str :=
  [line.host, line.port, line.database, line.user, line.password]

def PassLine.text (line : PassLine) : Str := List.intercalate ":" line.fields

/-- A text of characters that no password file gives a meaning to, but for `*`. -/
def Plain (field : Str) : Prop :=
  field ≠ [] ∧ ∀ c ∈ field, anyCaseClass "_-.*" c = true

/-- Whether the line is about a connection.  A field `*` is about any. -/
def PassLine.applies (line : PassLine) (host port database user : Str) : Bool :=
  [(line.host, host), (line.port, port), (line.database, database), (line.user, user)].all
    fun field => field.1 = "*" ∨ field.1 = field.2

/-- A client that looks passwords up: of the lines that apply the first one counts. -/
structure PassfileReader where
  password : (file host port database user : Str) → Option Str
  password_plain : ∀ (lines : List PassLine) (host port database user : Str),
    (∀ line ∈ lines, ∀ field ∈ line.fields, Plain field) → Plain host →
      password (lines.flatMap fun line => line.text ++ "\n") host port database user =
        (lines.find? fun line => line.applies host port database user).map PassLine.password

end Tools
