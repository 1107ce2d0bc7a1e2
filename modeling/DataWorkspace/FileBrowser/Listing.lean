import DataWorkspace.Py.Text
import Mathlib.Data.List.Dedup
import Mathlib.Data.List.TakeWhile

/-!
# Keys, and the folders that they are in

S3 has keys only.  Under a prefix, the keys up to the next slash are a folder, and the keys without
another slash are the files.  Folders that are not the same have no key in common, and no file is in
one of them (`keys_apart`).
-/

namespace FileBrowser

open Py

abbrev Key := Str

/-- An error of a call, with what it is as a text. -/
structure Failure where
  code : Str
  message : Str
  text : Str

/-- `err.code || err.message || err`. -/
def Failure.shown (err : Failure) : Str :=
  if err.code ≠ [] then err.code else if err.message ≠ [] then err.message else err.text

def under (contents : List Key) (Prefix : Str) : List Key :=
  contents.filter fun key => Prefix.isPrefixOf key

theorem mem_under_iff {contents : List Key} {Prefix : Str} {key : Key} :
    key ∈ under contents Prefix ↔ key ∈ contents ∧ Prefix <+: key := by
  rw [under, List.mem_filter, List.isPrefixOf_iff_prefix]

/-- What a listing with the delimiter has. -/
inductive Entry where
  | CommonPrefix (Prefix : Str)
  | Object (key : Key)
deriving DecidableEq

def entryOf (Prefix : Str) (key : Key) : Entry :=
  let rest := key.drop Prefix.length
  if '/' ∈ rest then .CommonPrefix (Prefix ++ rest.takeWhile (· ≠ '/') ++ "/") else .Object key

def entries (contents : List Key) (Prefix : Str) : List Entry :=
  ((under contents Prefix).map (entryOf Prefix)).dedup

def Entry.folder? : Entry → Option Str
  | .CommonPrefix Prefix => some Prefix
  | .Object _ => none

def Entry.file? : Entry → Option Key
  | .CommonPrefix _ => none
  | .Object key => some key

section Entries

variable {contents : List Key} {Prefix folder folder' : Str} {key : Key}

theorem mem_entries_iff {entry : Entry} : entry ∈ entries contents Prefix ↔
    ∃ key ∈ contents, Prefix <+: key ∧ entryOf Prefix key = entry := by
  simp only [entries, List.mem_dedup, List.mem_map, mem_under_iff, and_assoc]

theorem folder_shape (h : .CommonPrefix folder ∈ entries contents Prefix) :
    ∃ name, '/' ∉ name ∧ folder = Prefix ++ name ++ "/" := by
  obtain ⟨key, _, _, hentry⟩ := mem_entries_iff.mp h
  rw [entryOf] at hentry
  split at hentry
  next =>
      cases hentry
      refine ⟨_, fun hmem => ?_, rfl⟩
      have hne := List.mem_takeWhile_imp hmem
      simp at hne
  next => cases hentry

theorem file_shape (h : .Object key ∈ entries contents Prefix) :
    key ∈ contents ∧ ∃ name, '/' ∉ name ∧ key = Prefix ++ name := by
  obtain ⟨key', hkey, ⟨name, rfl⟩, hentry⟩ := mem_entries_iff.mp h
  rw [entryOf] at hentry
  rw [List.drop_left] at hentry
  split at hentry
  next => cases hentry
  next hname =>
      cases hentry
      exact ⟨hkey, name, hname, rfl⟩

theorem eq_of_slash {name name' rest rest' : Str} (hname : '/' ∉ name) (hname' : '/' ∉ name')
    (h : name ++ '/' :: rest = name' ++ '/' :: rest') : name = name' := by
  induction name generalizing name' with
  | nil =>
      cases name' with
      | nil => rfl
      | cons c name' =>
          obtain rfl : '/' = c := (List.cons.inj h).1
          exact absurd List.mem_cons_self hname'
  | cons c name ih =>
      cases name' with
      | nil =>
          obtain rfl : c = '/' := (List.cons.inj h).1
          exact absurd List.mem_cons_self hname
      | cons c' name' =>
          obtain ⟨rfl, htail⟩ := List.cons.inj h
          rw [ih (fun hmem => hname (List.mem_cons_of_mem _ hmem))
            (fun hmem => hname' (List.mem_cons_of_mem _ hmem)) htail]

theorem folder_unique (h : .CommonPrefix folder ∈ entries contents Prefix)
    (h' : .CommonPrefix folder' ∈ entries contents Prefix) (hkey : folder <+: key)
    (hkey' : folder' <+: key) : folder = folder' := by
  obtain ⟨name, hname, rfl⟩ := folder_shape h
  obtain ⟨name', hname', rfl⟩ := folder_shape h'
  obtain ⟨rest, hrest⟩ := hkey
  obtain ⟨rest', hrest'⟩ := hkey'
  have heq := hrest.trans hrest'.symm
  simp only [List.append_assoc] at heq
  rw [eq_of_slash hname hname' (List.append_cancel_left heq)]

theorem file_apart (h : .CommonPrefix folder ∈ entries contents Prefix)
    (h' : .Object key ∈ entries contents Prefix) : ¬ folder <+: key := by
  obtain ⟨name, _, rfl⟩ := folder_shape h
  obtain ⟨_, name', hname', rfl⟩ := file_shape h'
  rintro ⟨rest, hrest⟩
  simp only [List.append_assoc] at hrest
  rw [← List.append_cancel_left hrest] at hname'
  simp at hname'

end Entries

structure Selected (contents : List Key) (folders : List Str) (files : List Key) : Prop where
  unique : folders.Nodup ∧ files.Nodup
  listed : ∃ Prefix, (∀ folder ∈ folders, .CommonPrefix folder ∈ entries contents Prefix) ∧
    ∀ key ∈ files, .Object key ∈ entries contents Prefix

theorem keys_apart {contents : List Key} {folders : List Str} {files : List Key}
    (hcontents : contents.Nodup) (h : Selected contents folders files) :
    (folders.flatMap (under contents) ++ files).Nodup := by
  obtain ⟨⟨hfolders, hfiles⟩, Prefix, hlisted, hlistedFiles⟩ := h
  refine List.nodup_append.mpr ⟨?_, hfiles, ?_⟩
  · rw [List.nodup_flatMap]
    refine ⟨fun folder _ => hcontents.filter _, ?_⟩
    refine hfolders.imp_of_mem fun {folder folder'} hmem hmem' hne => ?_
    intro key hkey hkey'
    exact hne (folder_unique (hlisted _ hmem) (hlisted _ hmem') (mem_under_iff.mp hkey).2
      (mem_under_iff.mp hkey').2)
  · rintro key hkey _ hfile rfl
    obtain ⟨folder, hfolder, hunder⟩ := List.mem_flatMap.mp hkey
    exact file_apart (hlisted _ hfolder) (hlistedFiles _ hfile) (mem_under_iff.mp hunder).2

end FileBrowser
