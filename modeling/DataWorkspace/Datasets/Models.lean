import DataWorkspace.Py.Text

/-!
# Datasets, their tables and their readers

The rows of the catalogue that decide which database tables a user may read.  A
source table belongs to a dataset and names a table of an external database; a
reference dataset may be copied to a table of an external database as well.  Each
record has the fields that the queries over the catalogue read.
-/

namespace Datasets

open Py

/-- An external database. -/
structure Database where
  id : Str
  memorable_name : Str
deriving DecidableEq, Repr

/-- Who may see a dataset. -/
inductive UserAccessType where
  | OPEN
  | REQUIRES_AUTHENTICATION
  | REQUIRES_AUTHORIZATION
deriving DecidableEq, Repr

/-- A user of the workspace. -/
structure User where
  id : Nat
  email : Str
  is_superuser : Bool
deriving DecidableEq, Repr

/-- A dataset, with the users that were given a permission on it. -/
structure DataSet where
  id : Str
  name : Str
  user_access_type : UserAccessType
  authorized_email_domains : List Str
  deleted : Bool
  published : Bool
  user_permissions : List Nat
deriving DecidableEq, Repr

/-- A table of an external database that belongs to a dataset. -/
structure SourceTable where
  id : Str
  dataset : DataSet
  database : Database
  schema : Str
  table : Str
deriving DecidableEq, Repr

structure ReferenceDataset where
  uuid : Str
  name : Str
  table_name : Str
  external_database : Option Database
  deleted : Bool
  published : Bool
deriving DecidableEq, Repr

/-- The rows of the catalogue. -/
structure Catalogue where
  source_tables : List SourceTable
  reference_datasets : List ReferenceDataset
deriving Repr

end Datasets
