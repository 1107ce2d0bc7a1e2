import DataWorkspace.Mirrors.Pypi

/-!
# Mirroring a conda channel

`conda_mirror` reads the index of each architecture, queues its packages for ten workers, and
when the queue is done it publishes the indexes as they were read.  Only what is in the section
`packages` is queued, the workers log what they cannot copy and go on, and what is in the
bucket already is not looked at.

`conda_complete_iff` says for which packages of a published index the bucket has what the index
says.  It holds for every order in which the workers come to the packages: each package is
stored under a key of its own.
-/

namespace Mirrors

open Py

/-! ## The channel -/

/-- The entry of a package in an index. -/
structure Package where
  name : Str
  sha256 : Str
deriving DecidableEq, Repr

/-- What an index file lists: the packages in the older format and those in the newer. -/
structure Repodata where
  packages : List Package
  packages_conda : List Package
deriving DecidableEq, Repr

def Repodata.listed (r : Repodata) : List Package := r.packages ++ r.packages_conda

/-- The index files of an architecture, `none` for one that cannot be had: the request raises
or is answered with another code than 200, or the text is no index. -/
structure Arch where
  repodata : Option Repodata
  repodata_bz2 : Option Repodata

/-- A package at its source: the file, and what comes of the tries to copy it. -/
structure Source where
  content : Str
  attempt : Nat → Attempt

/-- What is answered while a channel is mirrored. -/
structure Channel where
  /-- Whether the files of the bucket can be listed. -/
  lists : Bool
  noarch : Arch
  linux64 : Arch
  /-- The source of `arch_dir + package_suffix`. -/
  source : Str → Source
  /-- What comes of the PUT of each index file. -/
  put : Nat → PutResult

/-- The objects of a bucket, by their keys. -/
abbrev Bucket := Str → Option Str

/-- An index file that is to be published. -/
structure IndexFile where
  arch_dir : Str
  suffix : Str
  repodata : Repodata
deriving DecidableEq, Repr

section

variable ( s3_prefix : Str) (channel : Channel)

/-- What is read before anything is copied: the index files, and the names of the packages. -/
def read_index (arch_dir : Str) (arch : Arch) : Option (List IndexFile × List Str) :=
  match arch.repodata with
  | none => none
  | some repodata =>
      match arch.repodata_bz2 with
      | none => none
      | some bz2 =>
          some ([⟨arch_dir, "repodata.json", repodata⟩, ⟨arch_dir, "repodata.json.bz2", bz2⟩],
            repodata.packages.map fun package => arch_dir ++ package.name)

def noarch_dir : Str := "noarch/"
def linux64_dir : Str := "linux-64/"

/-- The index files and the queue, unless something cannot be read. -/
def read_indexes : Option (List IndexFile × List Str) :=
  match read_index noarch_dir channel.noarch, read_index linux64_dir channel.linux64 with
  | some (files, queue), some (files', queue') => some (files ++ files', queue ++ queue')
  | _, _ => none

def package_key (package_suffix : Str) : Str := s3_prefix ++ package_suffix

/-- What a worker does with a package: nothing where it was in the bucket at the start, else
ten tries.  Whatever else goes wrong is logged. -/
def transfer_package (existing : Bucket) (bucket : Bucket) (package_suffix : Str) : Bucket :=
  if (existing (package_key s3_prefix package_suffix)).isSome then bucket
  else if (tries (channel.source package_suffix).attempt 10 0 200).2 then
    Function.update bucket (package_key s3_prefix package_suffix)
      (some (channel.source package_suffix).content)
  else bucket

/-- The index files are put in turn.  One that is not answered with 200 is the last. -/
def publish : (k : Nat) → List IndexFile → List IndexFile
  | _, [] => []
  | k, file :: files =>
      match channel.put k with
      | .answered code => if code = 200 then file :: publish (k + 1) files else []
      | .raised _ stored => if stored then [file] else []
      | .no_credentials => []

structure Mirrored where
  bucket : Bucket
  published : List IndexFile

/-- `conda_mirror`, with the order in which the workers come to the packages. -/
def conda_mirror (order : List Str) (bucket : Bucket) : Mirrored :=
  if channel.lists = false then ⟨bucket, []⟩
  else match read_indexes channel with
    | none => ⟨bucket, []⟩
    | some (files, _) =>
        ⟨order.foldl (transfer_package s3_prefix channel bucket) bucket, publish channel 0 files⟩

end

/-- The packages that are queued. -/
def queued (channel : Channel) : List Str := ((read_indexes channel).map Prod.snd).getD []

/-! ## What is in the bucket -/

section Bucket

variable { s3_prefix : Str} {channel : Channel} {bucket : Bucket} {package_suffix : Str}

theorem transfer_package_apply (existing bucket : Bucket) (key : Str) :
    transfer_package s3_prefix channel existing bucket package_suffix key =
      if key = package_key s3_prefix package_suffix ∧ existing key = none ∧
          (tries (channel.source package_suffix).attempt 10 0 200).2 = true then
        some (channel.source package_suffix).content
      else bucket key := by
  rw [transfer_package]
  split
  next hexists =>
    rw [if_neg]
    rintro ⟨rfl, hnone, -⟩
    rw [hnone] at hexists
    cases hexists
  next hexists =>
    split
    next hstored =>
      by_cases hkey : key = package_key s3_prefix package_suffix
      · subst hkey
        rw [Function.update_self, if_pos ⟨rfl, by simpa using hexists, hstored⟩]
      · rw [Function.update_of_ne hkey, if_neg fun h => hkey h.1]
    next hstored => rw [if_neg fun h => hstored h.2.2]

theorem foldl_transfer_package (existing : Bucket) : ∀ (order : List Str) (bucket : Bucket),
    order.foldl (transfer_package s3_prefix channel existing) bucket
        (package_key s3_prefix package_suffix) =
      if existing (package_key s3_prefix package_suffix) = none ∧ package_suffix ∈ order ∧
          (tries (channel.source package_suffix).attempt 10 0 200).2 = true then
        some (channel.source package_suffix).content
      else bucket (package_key s3_prefix package_suffix)
  | [], bucket => by simp
  | suffix :: order, bucket => by
      have ih := foldl_transfer_package existing order
        (transfer_package s3_prefix channel existing bucket suffix)
      rw [List.foldl_cons, ih, transfer_package_apply]
      by_cases hs : package_suffix = suffix
      · subst hs
        simp only [true_and, List.mem_cons, true_or]
        split <;> simp_all
      · have hkey : package_key s3_prefix package_suffix ≠ package_key s3_prefix suffix :=
          fun h => hs (List.append_cancel_left h)
        simp only [hkey, hs, false_and, if_false, List.mem_cons, false_or]

end Bucket

/-! ## The published indexes -/

section Published

variable { s3_prefix : Str} {channel : Channel} {order : List Str} {bucket : Bucket}
  {sha256 : Str → Str} {file : IndexFile}

/-- The package is in the bucket, with the checksum of its entry. -/
def Has (sha256 : Str → Str) ( s3_prefix : Str) (bucket : Bucket) (arch_dir : Str)
    (package : Package) : Prop :=
  ∃ content, bucket (package_key s3_prefix (arch_dir ++ package.name)) = some content ∧
    sha256 content = package.sha256

/-- The package is queued, a try to copy it stores it, and the file of the source has the
checksum of the entry. -/
def Fetched (sha256 : Str → Str) (channel : Channel) (arch_dir : Str) (package : Package) :
    Prop :=
  arch_dir ++ package.name ∈ queued channel ∧
    Copied (channel.source (arch_dir ++ package.name)).attempt ∧
      sha256 (channel.source (arch_dir ++ package.name)).content = package.sha256

/-- Every package of a published index is in the bucket with its checksum exactly when every
package that was there before had it, and every other is in the section of the index that is
queued, was stored by a try, and has it at its source. -/
theorem conda_complete_iff (horder : order.Perm (queued channel))
    (hfile : file ∈ (conda_mirror s3_prefix channel order bucket).published) :
    (∀ package ∈ file.repodata.listed, Has sha256 s3_prefix
        (conda_mirror s3_prefix channel order bucket).bucket file.arch_dir package) ↔
      ∀ package ∈ file.repodata.listed,
        if (bucket (package_key s3_prefix (file.arch_dir ++ package.name))).isSome then
          Has sha256 s3_prefix bucket file.arch_dir package
        else Fetched sha256 channel file.arch_dir package := by
  refine forall₂_congr fun package _ => ?_
  rw [conda_mirror] at hfile ⊢
  split at hfile
  next => cases hfile
  next hlists =>
    rw [if_neg hlists]
    split at hfile
    next => cases hfile
    next files queue hread =>
      rw [Has, Fetched, ← horder.mem_iff, ← tries_stored_iff_copied]
      dsimp only
      rw [foldl_transfer_package]
      cases hbucket : bucket (package_key s3_prefix (file.arch_dir ++ package.name)) with
      | some content => simp [Has, hbucket]
      | none =>
          simp only [true_and, Option.isSome_none, Bool.false_eq_true, if_false]
          constructor
          · rintro ⟨content, hcontent, hsum⟩
            split at hcontent
            next h =>
              cases hcontent
              exact ⟨h.1, h.2, hsum⟩
            next => cases hcontent
          · rintro ⟨hqueued, hstored, hsum⟩
            exact ⟨_, if_pos ⟨hqueued, hstored⟩, hsum⟩

end Published

/-! ## A package in the newer format -/

section Examples

/-- The SHA-256 checksum of the empty file. -/
def emptySum : Str := "e3b0c44298fc1c149afbf4c8996fb92427ae41e4649b934ca495991b7852b855"

/-- A checksum that is right for the empty file. -/
def checksum (content : Str) : Str := if content = [] then emptySum else content

def tarball : Package := ⟨"sample-1.0.tar.bz2", emptySum⟩

def condaPackage : Package := ⟨"sample-1.0.conda", emptySum⟩

/-- A channel of which every package can be copied. -/
def channelOf (repodata : Repodata) : Channel where
  lists := true
  noarch := ⟨some repodata, some repodata⟩
  linux64 := ⟨some ⟨[], []⟩, some ⟨[], []⟩⟩
  source _ := ⟨[], fun _ => copied⟩
  put _ := .answered 200

def mirror_channel (repodata : Repodata) : Mirrored :=
  conda_mirror "r/" (channelOf repodata) (queued (channelOf repodata)) fun _ => none

theorem conda_complete_tarball :
    (⟨noarch_dir, "repodata.json", ⟨[tarball], []⟩⟩ : IndexFile) ∈
      (mirror_channel ⟨[tarball], []⟩).published ∧
    ∀ package ∈ (⟨[tarball], []⟩ : Repodata).listed,
      Has checksum "r/" (mirror_channel ⟨[tarball], []⟩).bucket noarch_dir package := by
  have hfile : (⟨noarch_dir, "repodata.json", ⟨[tarball], []⟩⟩ : IndexFile) ∈
      (mirror_channel ⟨[tarball], []⟩).published := by decide +kernel
  refine ⟨hfile, (conda_complete_iff (List.Perm.refl _) hfile).mpr fun package hpackage => ?_⟩
  obtain rfl := List.mem_singleton.mp hpackage
  exact ⟨by decide +kernel, ⟨0, by decide, fun j hj => absurd hj (Nat.not_lt_zero j),
    by decide⟩, by decide +kernel⟩

/-- A package in the newer format is listed, and not in the bucket. -/
theorem conda_incomplete :
    (⟨noarch_dir, "repodata.json", ⟨[], [condaPackage]⟩⟩ : IndexFile) ∈
      (mirror_channel ⟨[], [condaPackage]⟩).published ∧
    ¬ ∀ package ∈ (⟨[], [condaPackage]⟩ : Repodata).listed,
      Has checksum "r/" (mirror_channel ⟨[], [condaPackage]⟩).bucket noarch_dir package := by
  refine ⟨by decide +kernel, fun hall => ?_⟩
  obtain ⟨content, hcontent, -⟩ := hall _ (List.mem_singleton_self _)
  have hnone : (mirror_channel ⟨[], [condaPackage]⟩).bucket
      (package_key "r/" (noarch_dir ++ condaPackage.name)) = none := by decide +kernel
  rw [hnone] at hcontent
  cases hcontent

end Examples

end Mirrors
