import DataWorkspace.FileBrowser.Listing
import Mathlib.Data.List.Flatten
import Mathlib.Data.List.Pairwise
import Mathlib.Logic.Function.Basic

/-!
# Deleting folders and files

The keys under each folder are listed page by page and deleted in batches, and then the files.  A
list call that fails is made again, so the loop ends if each page comes at some time
(`deleteFiles_iff`).  A folder is marked as deleted if the last of its batches is, whatever the
others came to, and the first batch of files that fails ends it all.
-/

namespace FileBrowser

namespace Trash

open Py

/-! ## S3 -/

/-- One of the `Errors` of a bulk delete response. -/
structure KeyError where
  Key : Key
  Code : Str
  Message : Str

/-- `Code || Message`. -/
def KeyError.shown (err : KeyError) : Str := if err.Code ≠ [] then err.Code else err.Message

/-- A bulk delete response. -/
structure Response where
  Deleted : List Key
  Errors : List KeyError

structure Page where
  Contents : List Key
  IsTruncated : Bool
  NextContinuationToken : Option Nat

structure S3 where
  contents : List Key
  /-- The pages of a listing. -/
  pages : Str → List (List Key)
  /-- How a call for a page fails that comes after so many others for it. -/
  failure : Str → Nat → Nat → Option Failure
  deleteObjects : List Key → Except Failure Response

/-- The answer to a call that comes after `n` others for the page. -/
def S3.listObjectsV2 (s3 : S3) (Prefix : Str) (ContinuationToken : Option Nat) (n : Nat) :
    Except Failure Page :=
  let page := ContinuationToken.getD 0
  match s3.failure Prefix page n with
  | some err => .error err
  | none =>
      let more := decide (page + 1 < (s3.pages Prefix).length)
      .ok ⟨(s3.pages Prefix).getD page [], more, if more then some (page + 1) else none⟩

structure S3.Lawful (s3 : S3) : Prop where
  unique : s3.contents.Nodup
  pages : ∀ Prefix, (s3.pages Prefix).flatten = under s3.contents Prefix
  page : ∀ Prefix, s3.pages Prefix ≠ []
  response : ∀ {keys : List Key} {response : Response}, s3.deleteObjects keys = .ok response →
    (response.Deleted ++ response.Errors.map KeyError.Key).Perm keys ∧
      ∀ err ∈ response.Errors, err.Code ≠ []
  failure : ∀ {keys : List Key} {err : Failure}, s3.deleteObjects keys = .error err → err.text ≠ []

/-! ## What the code does -/

def bulkDeleteMaxFiles : Nat := 1000

/-- The batch, and the batches that S3 was asked to delete. -/
structure Deleter where
  keys : List Key
  calls : List (List Key)

variable (s3 : S3)

def Deleter.deleteKeys (d : Deleter) : Except Failure Response × Deleter :=
  (s3.deleteObjects d.keys, { keys := [], calls := d.calls ++ [d.keys] })

/-- There is a response if the batch is full. -/
def Deleter.scheduleDelete (key : Key) (d : Deleter) :
    Except Failure (Option Response) × Deleter :=
  let d := { d with keys := d.keys ++ [key] }
  if bulkDeleteMaxFiles ≤ d.keys.length then
    ((d.deleteKeys s3).1.map some, (d.deleteKeys s3).2)
  else (.ok none, d)

def Deleter.flushDelete (d : Deleter) : Except Failure (Option Response) × Deleter :=
  if d.keys ≠ [] then ((d.deleteKeys s3).1.map some, (d.deleteKeys s3).2) else (.ok none, d)

/-- What the dialog shows of a folder or a file. -/
structure Marks where
  deleteStarted : Bool
  deleteFinished : Bool
  deleteError : Str
deriving DecidableEq

def unmarked : Marks := ⟨false, false, []⟩

def started : Marks := ⟨true, false, []⟩

def Marks.deleted (m : Marks) : Marks := { m with deleteFinished := true }

def Marks.failed (m : Marks) (text : Str) : Marks := { m with deleteError := text }

def Marks.withError (m : Marks) : Option Failure → Marks
  | some err => m.failed err.shown
  | none => m

def deletePage : List Key → Deleter → Option Failure × Deleter
  | [], d => (none, d)
  | key :: keys, d =>
      match d.scheduleDelete s3 key with
      | (.ok _, d) => deletePage keys d
      | (.error err, d) => (some err, d)

/-- The loop over the pages of a folder, for as many list calls as `fuel`.  The last `n` of them
were for the same page. -/
def deleteListed (Prefix : Str) :
    Nat → Option Nat → Nat → Marks → Deleter → Option Marks × Deleter
  | 0, _, _, _, d => (none, d)
  | fuel + 1, ContinuationToken, n, m, d =>
      match s3.listObjectsV2 Prefix ContinuationToken n with
      | .error err =>
          -- the call is made again
          deleteListed Prefix fuel ContinuationToken (n + 1) (m.withError (some err)) d
      | .ok response =>
          let (err, d) := deletePage s3 response.Contents d
          if response.IsTruncated then
            deleteListed Prefix fuel response.NextContinuationToken 0 (m.withError err) d
          else (some (m.withError err), d)

def deletePrefix (fuel : Nat) (Prefix : Str) (d : Deleter) : Option Marks × Deleter :=
  match deleteListed s3 Prefix fuel none 0 started d with
  | (none, d) => (none, d)
  | (some m, d) =>
      match d.flushDelete s3 with
      | (.error err, d) => (some (m.withError (some err)), d)
      | (.ok _, d) => (some m.deleted, d)

def deletePrefixes (fuel : Nat) : List Str → Deleter → Option (List Marks) × Deleter
  | [], d => (some [], d)
  | Prefix :: prefixes, d =>
      match deletePrefix s3 fuel Prefix d with
      | (none, d) => (none, d)
      | (some m, d) =>
          let (rest, d) := deletePrefixes fuel prefixes d
          (rest.map (m :: ·), d)

/-- `updateObject` for the keys of a response. -/
def processResponse (files : Key → Marks) : Option Response → Key → Marks
  | none => files
  | some response =>
      let files := response.Deleted.foldl (fun files key =>
        Function.update files key (files key).deleted) files
      response.Errors.foldl (fun files err =>
        Function.update files err.Key ((files err.Key).failed err.shown)) files

/-- The loop over the files and the last flush.  An error ends it. -/
def deleteObjects : List Key → (Key → Marks) → Deleter → Bool × (Key → Marks) × Deleter
  | [], files, d =>
      match d.flushDelete s3 with
      | (.error _, d) => (false, files, d)
      | (.ok response, d) => (true, processResponse files response, d)
  | key :: keys, files, d =>
      match d.scheduleDelete s3 key with
      | (.error _, d) => (false, files, d)
      | (.ok response, d) => deleteObjects keys (processResponse files response) d

/-- What is shown in the end, and whether it is the end for the dialog too. -/
structure Outcome where
  folders : List Marks
  files : Key → Marks
  finished : Bool

/-- Nothing is cancelled.  There is no outcome while a folder needs more list calls than `fuel`. -/
def deleteFiles (fuel : Nat) (prefixes : List Str) (objects : List Key) :
    Option Outcome × List (List Key) :=
  match deletePrefixes s3 fuel prefixes ⟨[], []⟩ with
  | (none, d) => (none, d.calls)
  | (some folders, d) =>
      let (finished, files, d) := deleteObjects s3 objects (fun _ => unmarked) d
      (some ⟨folders, files, finished⟩, d.calls)

/-! ## What is expected -/

/-- Nothing is deleted by a call. -/
def S3.Fails (keys : List Key) : Prop := ∃ err, s3.deleteObjects keys = .error err

/-- All keys of a call are deleted. -/
def S3.DeletesAll (keys : List Key) : Prop :=
  ∃ response, s3.deleteObjects keys = .ok response ∧ response.Errors = []

def S3.Reported (calls : List (List Key)) (key : Key) : Prop :=
  ∃ batch ∈ calls, ∃ response, s3.deleteObjects batch = .ok response ∧ key ∈ response.Deleted

def FolderRight (calls : List (List Key)) (Prefix : Str) (m : Marks) : Prop :=
  if m.deleteFinished = true then ∀ key ∈ under s3.contents Prefix, s3.Reported calls key
  else m.deleteError ≠ []

def FileRight (calls : List (List Key)) (key : Key) (m : Marks) : Prop :=
  ∃ batch ∈ calls, ∃ response, s3.deleteObjects batch = .ok response ∧
    (key ∈ response.Deleted ∧ m = unmarked.deleted ∨
      ∃ err ∈ response.Errors, err.Key = key ∧ err.shown ≠ [] ∧ m = unmarked.failed err.shown)

structure Right (prefixes : List Str) (objects : List Key) (outcome : Outcome)
    (calls : List (List Key)) : Prop where
  folders : List.Forall₂ (FolderRight s3 calls) prefixes outcome.folders
  files : ∀ key ∈ objects, FileRight s3 calls key (outcome.files key)

/-- The deletion ends, asks for nothing that is not selected, and marks what it should. -/
structure Sound (prefixes : List Str) (objects : List Key) : Prop where
  ends : ∃ fuel, (deleteFiles s3 fuel prefixes objects).1.isSome = true
  asked : ∀ fuel, ∀ batch ∈ (deleteFiles s3 fuel prefixes objects).2, ∀ key ∈ batch,
    key ∈ objects ∨ ∃ Prefix ∈ prefixes, Prefix <+: key
  right : ∀ fuel outcome, (deleteFiles s3 fuel prefixes objects).1 = some outcome →
    Right s3 prefixes objects outcome (deleteFiles s3 fuel prefixes objects).2

/-- The batches of keys that come one after the other, where some are there already. -/
def batches : List Key → List Key → List (List Key)
  | batch, [] => if batch ≠ [] then [batch] else []
  | batch, key :: keys =>
      if bulkDeleteMaxFiles ≤ (batch ++ [key]).length then (batch ++ [key]) :: batches [] keys
      else batches (batch ++ [key]) keys

/-- What is left of a batch behind a page.  A call that fails skips the rest of the page. -/
def afterPage : List Key → List Key → List Key
  | batch, [] => batch
  | batch, key :: keys =>
      if bulkDeleteMaxFiles ≤ (batch ++ [key]).length then
        match s3.deleteObjects (batch ++ [key]) with
        | .ok _ => afterPage [] keys
        | .error _ => []
      else afterPage (batch ++ [key]) keys

/-- What is left behind the pages of a folder. -/
def leftover (Prefix : Str) : List Key := (s3.pages Prefix).foldl (afterPage s3) []

/-- The condition on the answers of S3. -/
structure Answers (prefixes : List Str) (objects : List Key) : Prop where
  answered : ∀ Prefix ∈ prefixes, ∀ page < (s3.pages Prefix).length,
    ∃ n, s3.failure Prefix page n = none
  folders : ∀ Prefix ∈ prefixes,
    (∀ batch ∈ batches [] (under s3.contents Prefix), s3.DeletesAll batch) ∨
      leftover s3 Prefix ≠ [] ∧ s3.Fails (leftover s3 Prefix)
  files : ∀ batch ∈ batches [] objects, ¬ s3.Fails batch

/-! ## Batches -/

section Batches

variable {s3}

theorem scheduleDelete_full {d : Deleter} {key : Key}
    (h : bulkDeleteMaxFiles ≤ (d.keys ++ [key]).length) :
    d.scheduleDelete s3 key =
      ((s3.deleteObjects (d.keys ++ [key])).map some, ⟨[], d.calls ++ [d.keys ++ [key]]⟩) :=
  if_pos h

theorem scheduleDelete_short {d : Deleter} {key : Key}
    (h : ¬ bulkDeleteMaxFiles ≤ (d.keys ++ [key]).length) :
    d.scheduleDelete s3 key = (.ok none, ⟨d.keys ++ [key], d.calls⟩) :=
  if_neg h

theorem flushDelete_some {d : Deleter} (h : d.keys ≠ []) :
    d.flushDelete s3 = ((s3.deleteObjects d.keys).map some, ⟨[], d.calls ++ [d.keys]⟩) :=
  if_pos h

theorem flushDelete_none {d : Deleter} (h : d.keys = []) : d.flushDelete s3 = (.ok none, d) :=
  if_neg (not_not_intro h)

theorem flatten_batches (batch keys : List Key) : (batches batch keys).flatten = batch ++ keys := by
  induction keys generalizing batch with
  | nil =>
      rw [batches]
      by_cases h : batch = []
      · simp [h]
      · simp [h]
  | cons key keys ih =>
      rw [batches]
      split
      next => rw [List.flatten_cons, ih, List.nil_append, List.append_assoc, List.singleton_append]
      next => rw [ih, List.append_assoc, List.singleton_append]

theorem ne_nil_of_mem_batches {batch keys b : List Key} (h : b ∈ batches batch keys) : b ≠ [] := by
  induction keys generalizing batch with
  | nil =>
      rw [batches] at h
      split at h
      next hbatch =>
          obtain rfl := List.mem_singleton.mp h
          exact hbatch
      next => cases h
  | cons key keys ih =>
      rw [batches] at h
      split at h
      next =>
          rcases List.mem_cons.mp h with rfl | h
          · simp
          · exact ih h
      next => exact ih h

/-- The calls for some keys: all batches that become full, up to one that fails. -/
structure Ran (s3 : S3) (keys batch batch' : List Key) (calls : List (List Key)) : Prop where
  asked : (calls.flatten ++ batch').Sublist (batch ++ keys)
  way : ((∀ b ∈ calls, ¬ s3.Fails b) ∧
      ∀ rest, batches batch (keys ++ rest) = calls ++ batches batch' rest) ∨
    ∃ b ∈ calls, s3.Fails b ∧ ∀ rest, b ∈ batches batch (keys ++ rest)

theorem Ran.nil (batch : List Key) : Ran s3 [] batch batch [] where
  asked := by simp
  way := .inl ⟨by simp, fun _ => rfl⟩

theorem Ran.append {keys keys' batch₁ batch₂ batch₃ : List Key} {calls calls' : List (List Key)}
    (h : Ran s3 keys batch₁ batch₂ calls) (h' : Ran s3 keys' batch₂ batch₃ calls') :
    Ran s3 (keys ++ keys') batch₁ batch₃ (calls ++ calls') where
  asked := by
    have hfirst := h.asked.append (List.Sublist.refl keys')
    have hsecond := h'.asked.append_left calls.flatten
    simp only [List.flatten_append, List.append_assoc] at hfirst hsecond ⊢
    exact hsecond.trans hfirst
  way := by
    simp only [List.append_assoc]
    rcases h.way with ⟨hok, heq⟩ | ⟨b, hb, hfails, hmem⟩
    · rcases h'.way with ⟨hok', heq'⟩ | ⟨b, hb, hfails, hmem⟩
      · refine .inl ⟨fun b hb => (List.mem_append.mp hb).elim (hok b) (hok' b), fun rest => ?_⟩
        rw [heq, heq']
      · refine .inr ⟨b, List.mem_append_right _ hb, hfails, fun rest => ?_⟩
        rw [heq]
        exact List.mem_append_right _ (hmem rest)
    · exact .inr ⟨b, List.mem_append_left _ hb, hfails, fun rest => hmem _⟩

variable (s3) in
theorem deletePage_ran : ∀ (keys : List Key) (d : Deleter), ∃ calls,
    (deletePage s3 keys d).2.calls = d.calls ++ calls ∧
      (deletePage s3 keys d).2.keys = afterPage s3 d.keys keys ∧
        Ran s3 keys d.keys (afterPage s3 d.keys keys) calls
  | [], d => ⟨[], (List.append_nil _).symm, rfl, .nil _⟩
  | key :: keys, d => by
      rw [deletePage, afterPage]
      by_cases hfull : bulkDeleteMaxFiles ≤ (d.keys ++ [key]).length
      · rw [scheduleDelete_full hfull, if_pos hfull]
        cases hanswer : s3.deleteObjects (d.keys ++ [key]) with
        | error err =>
            refine ⟨[d.keys ++ [key]], rfl, rfl, ⟨by simp, .inr ?_⟩⟩
            refine ⟨_, List.mem_singleton_self _, ⟨err, hanswer⟩, fun rest => ?_⟩
            rw [List.cons_append, batches, if_pos hfull]
            exact List.mem_cons_self
        | ok response =>
            obtain ⟨calls, hcalls, hkeys, hran⟩ :=
              deletePage_ran keys ⟨[], d.calls ++ [d.keys ++ [key]]⟩
            have hone : Ran s3 [key] d.keys [] [d.keys ++ [key]] := by
              refine ⟨by simp, .inl ⟨fun b hb => ?_, fun rest => ?_⟩⟩
              · obtain rfl := List.mem_singleton.mp hb
                rintro ⟨err, herr⟩
                rw [hanswer] at herr
                cases herr
              · rw [List.singleton_append, batches, if_pos hfull, List.singleton_append]
            exact ⟨(d.keys ++ [key]) :: calls, hcalls.trans (List.append_assoc _ _ _), hkeys,
              hone.append hran⟩
      · rw [scheduleDelete_short hfull, if_neg hfull]
        obtain ⟨calls, hcalls, hkeys, hran⟩ := deletePage_ran keys ⟨d.keys ++ [key], d.calls⟩
        have hone : Ran s3 [key] d.keys (d.keys ++ [key]) [] := by
          refine ⟨by simp, .inl ⟨by simp, fun rest => ?_⟩⟩
          rw [List.singleton_append, batches, if_neg hfull, List.nil_append]
        exact ⟨calls, hcalls, hkeys, hone.append hran⟩

end Batches

/-! ## Folders -/

section Folders

variable {s3} {Prefix : Str}

theorem listObjectsV2_some {page n : Nat} {err : Failure} {token : Option Nat}
    (htoken : token.getD 0 = page) (h : s3.failure Prefix page n = some err) :
    s3.listObjectsV2 Prefix token n = .error err := by
  subst htoken
  rw [S3.listObjectsV2]
  dsimp only
  rw [h]

theorem listObjectsV2_none {page n : Nat} {token : Option Nat} (htoken : token.getD 0 = page)
    (h : s3.failure Prefix page n = none) : s3.listObjectsV2 Prefix token n =
      .ok ⟨(s3.pages Prefix).getD page [], decide (page + 1 < (s3.pages Prefix).length),
        if page + 1 < (s3.pages Prefix).length then some (page + 1) else none⟩ := by
  subst htoken
  rw [S3.listObjectsV2]
  dsimp only
  rw [h]
  simp

section Steps

variable {fuel page n : Nat} {token : Option Nat} {m : Marks} {d : Deleter}

theorem deleteListed_again {err : Failure} (htoken : token.getD 0 = page)
    (h : s3.failure Prefix page n = some err) : deleteListed s3 Prefix (fuel + 1) token n m d =
      deleteListed s3 Prefix fuel token (n + 1) (m.withError (some err)) d := by
  rw [deleteListed, listObjectsV2_some htoken h]

theorem deleteListed_more (htoken : token.getD 0 = page) (h : s3.failure Prefix page n = none)
    (hmore : page + 1 < (s3.pages Prefix).length) :
    deleteListed s3 Prefix (fuel + 1) token n m d = deleteListed s3 Prefix fuel (some (page + 1)) 0
      (m.withError (deletePage s3 (s3.pages Prefix)[page] d).1)
      (deletePage s3 (s3.pages Prefix)[page] d).2 := by
  have hget : (s3.pages Prefix).getD page [] = (s3.pages Prefix)[page] := by
    simp [List.getD_eq_getElem?_getD, Nat.lt_of_succ_lt hmore]
  rw [deleteListed, listObjectsV2_none htoken h]
  simp only [hget, hmore, decide_true, if_true]

theorem deleteListed_last (htoken : token.getD 0 = page) (h : s3.failure Prefix page n = none)
    (hpage : page < (s3.pages Prefix).length) (hlast : ¬ page + 1 < (s3.pages Prefix).length) :
    deleteListed s3 Prefix (fuel + 1) token n m d =
      (some (m.withError (deletePage s3 (s3.pages Prefix)[page] d).1),
        (deletePage s3 (s3.pages Prefix)[page] d).2) := by
  have hget : (s3.pages Prefix).getD page [] = (s3.pages Prefix)[page] := by
    simp [List.getD_eq_getElem?_getD, hpage]
  rw [deleteListed, listObjectsV2_none htoken h]
  simp only [hget, hlast, decide_false, Bool.false_eq_true, if_false]

end Steps

@[simp] theorem deleteFinished_withError (m : Marks) (err : Option Failure) :
    (m.withError err).deleteFinished = m.deleteFinished := by
  cases err with
  | none => rfl
  | some err => rfl

/-- What the loop over some pages does, whether it ends or not. -/
structure Listed (s3 : S3) (pages : List (List Key)) (d : Deleter) (m : Marks)
    (result : Option Marks × Deleter) (calls : List (List Key)) : Prop where
  log : result.2.calls = d.calls ++ calls
  asked : (calls.flatten ++ result.2.keys).Sublist (d.keys ++ pages.flatten)
  done : ∀ m', result.1 = some m' → m'.deleteFinished = m.deleteFinished ∧
    result.2.keys = pages.foldl (afterPage s3) d.keys ∧
      Ran s3 pages.flatten d.keys result.2.keys calls

theorem deleteListed_listed : ∀ (fuel page n : Nat) (token : Option Nat) (m : Marks) (d : Deleter),
    token.getD 0 = page → page < (s3.pages Prefix).length →
      ∃ calls, Listed s3 ((s3.pages Prefix).drop page) d m
        (deleteListed s3 Prefix fuel token n m d) calls
  | 0, page, n, token, m, d, _, _ =>
      ⟨[], (List.append_nil _).symm, List.sublist_append_left _ _, fun m' h => by cases h⟩
  | fuel + 1, page, n, token, m, d, htoken, hpage => by
      have hdrop : (s3.pages Prefix).drop page =
          (s3.pages Prefix)[page] :: (s3.pages Prefix).drop (page + 1) :=
        List.drop_eq_getElem_cons hpage
      cases hfailure : s3.failure Prefix page n with
      | some err =>
          rw [deleteListed_again htoken hfailure]
          obtain ⟨calls, hlisted⟩ := deleteListed_listed fuel page (n + 1) token
            (m.withError (some err)) d htoken hpage
          exact ⟨calls, hlisted.log, hlisted.asked, hlisted.done⟩
      | none =>
          obtain ⟨calls, hcalls, hkeys, hran⟩ :=
            deletePage_ran s3 (s3.pages Prefix)[page] d
          rw [← hkeys] at hran
          by_cases hmore : page + 1 < (s3.pages Prefix).length
          · rw [deleteListed_more htoken hfailure hmore, hdrop]
            obtain ⟨calls', hlisted⟩ := deleteListed_listed fuel (page + 1) 0 (some (page + 1))
              (m.withError (deletePage s3 (s3.pages Prefix)[page] d).1)
              (deletePage s3 (s3.pages Prefix)[page] d).2 rfl hmore
            refine ⟨calls ++ calls', ?_, ?_, fun m' hm' => ?_⟩
            · rw [hlisted.log, hcalls, List.append_assoc]
            · have hfirst := hran.asked.append (List.Sublist.refl
                ((s3.pages Prefix).drop (page + 1)).flatten)
              have hsecond := hlisted.asked.append_left calls.flatten
              simp only [List.flatten_append, List.flatten_cons, List.append_assoc]
                at hfirst hsecond ⊢
              exact hsecond.trans hfirst
            · obtain ⟨hfinished, hleft, hran'⟩ := hlisted.done m' hm'
              rw [hkeys] at hleft
              refine ⟨by simpa using hfinished, hleft, ?_⟩
              exact hran.append hran'
          · rw [deleteListed_last htoken hfailure hpage hmore, hdrop,
              List.drop_of_length_le (by omega)]
            refine ⟨calls, hcalls, by simpa using hran.asked, fun m' hm' => ?_⟩
            cases hm'
            exact ⟨by simp, hkeys, by simpa using hran⟩

/-- What deleting one folder does, whether it ends or not. -/
structure FolderRan (s3 : S3) (Prefix : Str) (m : Marks) (calls : List (List Key)) : Prop where
  asked : calls.flatten.Sublist (under s3.contents Prefix)
  way : calls = batches [] (under s3.contents Prefix) ∨
    ∃ b ∈ calls, s3.Fails b ∧ b ∈ batches [] (under s3.contents Prefix)
  finished : m.deleteFinished = true ↔
    ¬ (leftover s3 Prefix ≠ [] ∧ s3.Fails (leftover s3 Prefix))
  failed : m.deleteFinished = false → m.deleteError ≠ []

theorem shown_ne_nil {err : Failure} (h : err.text ≠ []) : err.shown ≠ [] := by
  rw [Failure.shown]
  split
  next hcode => exact hcode
  next =>
      split
      next hmessage => exact hmessage
      next => exact h

theorem deletePrefix_ran (hs3 : s3.Lawful) (fuel : Nat) (Prefix : Str) {d : Deleter}
    (hd : d.keys = []) : ∃ calls, (deletePrefix s3 fuel Prefix d).2.calls = d.calls ++ calls ∧
      calls.flatten.Sublist (under s3.contents Prefix) ∧
      ∀ m, (deletePrefix s3 fuel Prefix d).1 = some m →
        (deletePrefix s3 fuel Prefix d).2.keys = [] ∧ FolderRan s3 Prefix m calls := by
  obtain ⟨calls, hlisted⟩ := deleteListed_listed fuel 0 0 none started d rfl
    (List.length_pos_iff.mpr (hs3.page Prefix))
  have hasked := hlisted.asked
  have hdone := hlisted.done
  have hlog := hlisted.log
  rw [List.drop_zero, hs3.pages, hd, List.nil_append] at hasked
  rw [List.drop_zero, hs3.pages, hd] at hdone
  rw [deletePrefix]
  generalize deleteListed s3 Prefix fuel none 0 started d = result
    at hasked hdone hlog
  obtain ⟨_ | m, d'⟩ := result
  · exact ⟨calls, hlog, (List.sublist_append_left _ _).trans hasked, fun m hm => by cases hm⟩
  · obtain ⟨hmark, hleft, hran⟩ := hdone m rfl
    have hleft' : d'.keys = leftover s3 Prefix := hleft
    dsimp only at hasked hlog hleft hran ⊢
    have hway := hran.way
    by_cases hnil : d'.keys = []
    · rw [flushDelete_none hnil]
      rw [hnil] at hasked hway hleft'
      refine ⟨calls, hlog, by simpa using hasked, fun m' hm' => ?_⟩
      cases hm'
      refine ⟨hnil, by simpa using hasked, ?_, ?_, fun h => by cases h⟩
      · rcases hway with ⟨_, heq⟩ | ⟨b, hb, hfails, hmem⟩
        · refine .inl ?_
          have hrest := heq []
          rw [batches, List.append_nil] at hrest
          simpa using hrest.symm
        · exact .inr ⟨b, hb, hfails, by simpa using hmem []⟩
      · exact iff_of_true rfl fun h => h.1 hleft'.symm
    · have hcalls : (calls ++ [d'.keys]).flatten.Sublist (under s3.contents Prefix) := by
        simpa using hasked
      have hflush : calls ++ [d'.keys] = batches [] (under s3.contents Prefix) ∨
          ∃ b ∈ calls ++ [d'.keys], s3.Fails b ∧ b ∈ batches [] (under s3.contents Prefix) := by
        rcases hway with ⟨_, heq⟩ | ⟨b, hb, hfails, hmem⟩
        · refine .inl ?_
          have hrest := heq []
          rw [batches, if_pos hnil, List.append_nil] at hrest
          exact hrest.symm
        · exact .inr ⟨b, List.mem_append_left _ hb, hfails, by simpa using hmem []⟩
      have hlog' : d'.calls ++ [d'.keys] = d.calls ++ (calls ++ [d'.keys]) := by
        rw [hlog, List.append_assoc]
      rw [flushDelete_some hnil]
      cases hanswer : s3.deleteObjects d'.keys with
      | error err =>
          refine ⟨calls ++ [d'.keys], hlog', hcalls, fun m' hm' => ?_⟩
          cases hm'
          refine ⟨rfl, hcalls, hflush, ?_, fun _ => shown_ne_nil (hs3.failure hanswer)⟩
          rw [deleteFinished_withError, hmark, ← hleft']
          exact iff_of_false Bool.false_ne_true fun h => h ⟨hnil, err, hanswer⟩
      | ok response =>
          refine ⟨calls ++ [d'.keys], hlog', hcalls, fun m' hm' => ?_⟩
          cases hm'
          refine ⟨rfl, hcalls, hflush, ?_, fun h => by cases h⟩
          refine iff_of_true rfl fun h => ?_
          obtain ⟨_, err, herr⟩ := h
          rw [← hleft', hanswer] at herr
          cases herr

/-- What deleting some folders does, one after the other. -/
inductive FoldersRan (s3 : S3) : List Str → List Marks → List (List Key) → Prop
  | nil : FoldersRan s3 [] [] []
  | cons {Prefix : Str} {m : Marks} {calls : List (List Key)} {prefixes : List Str}
      {marks : List Marks} {rest : List (List Key)} : FolderRan s3 Prefix m calls →
      FoldersRan s3 prefixes marks rest →
      FoldersRan s3 (Prefix :: prefixes) (m :: marks) (calls ++ rest)

theorem deletePrefixes_ran (hs3 : s3.Lawful) (fuel : Nat) : ∀ (prefixes : List Str) (d : Deleter),
    d.keys = [] → ∃ calls, (deletePrefixes s3 fuel prefixes d).2.calls = d.calls ++ calls ∧
      calls.flatten.Sublist (prefixes.flatMap (under s3.contents)) ∧
      ∀ marks, (deletePrefixes s3 fuel prefixes d).1 = some marks →
        (deletePrefixes s3 fuel prefixes d).2.keys = [] ∧ FoldersRan s3 prefixes marks calls
  | [], d, hd => by
      refine ⟨[], (List.append_nil _).symm, by simp, fun marks hmarks => ?_⟩
      cases hmarks
      exact ⟨hd, .nil⟩
  | Prefix :: prefixes, d, hd => by
      obtain ⟨calls, hlog, hasked, hdone⟩ := deletePrefix_ran hs3 fuel Prefix hd
      rw [deletePrefixes, List.flatMap_cons]
      generalize deletePrefix s3 fuel Prefix d = result at hlog hasked hdone
      obtain ⟨_ | m, d'⟩ := result
      · exact ⟨calls, hlog, hasked.trans (List.sublist_append_left _ _), fun m hm => by cases hm⟩
      · obtain ⟨hkeys, hran⟩ := hdone m rfl
        obtain ⟨calls', hlog', hasked', hdone'⟩ := deletePrefixes_ran hs3 fuel prefixes d' hkeys
        refine ⟨calls ++ calls', ?_, ?_, fun marks hmarks => ?_⟩
        · refine hlog'.trans ?_
          rw [hlog, List.append_assoc]
        · rw [List.flatten_append]
          exact hasked.append hasked'
        · obtain ⟨rest, hrest, rfl⟩ := Option.map_eq_some_iff.mp hmarks
          obtain ⟨hkeys', hran'⟩ := hdone' rest hrest
          exact ⟨hkeys', .cons hran hran'⟩

end Folders

/-! ## What S3 has reported -/

section Reports

variable {s3} {calls : List (List Key)} {key : Key} {b : List Key}

theorem mem_of_deleted (hs3 : s3.Lawful) {response : Response}
    (h : s3.deleteObjects b = .ok response) (hkey : key ∈ response.Deleted) : key ∈ b :=
  (hs3.response h).1.subset (List.mem_append_left _ hkey)

theorem eq_of_mem_flatten (hunique : calls.flatten.Nodup) {b' : List Key} (hb : b ∈ calls)
    (hb' : b' ∈ calls) (hkey : key ∈ b) (hkey' : key ∈ b') : b = b' := by
  by_contra hne
  have hdisjoint := (List.nodup_flatten.mp hunique).2
  have hsymm : Std.Symm (List.Disjoint (α := Key)) := ⟨fun _ _ h => h.symm⟩
  exact hdisjoint.forall hb hb' hne hkey hkey'

theorem reported_iff (hs3 : s3.Lawful) {Prefix : Str} {m : Marks} {total : List (List Key)}
    (hran : FolderRan s3 Prefix m calls) (hunique : total.flatten.Nodup)
    (hsub : ∀ b ∈ calls, b ∈ total) :
    (∀ key ∈ under s3.contents Prefix, s3.Reported total key) ↔
      ∀ b ∈ batches [] (under s3.contents Prefix), s3.DeletesAll b := by
  have hunder {b : List Key} {key : Key} (hb : b ∈ batches [] (under s3.contents Prefix))
      (hkey : key ∈ b) : key ∈ under s3.contents Prefix := by
    rw [← List.nil_append (under _ _), ← flatten_batches]
    exact List.mem_flatten.mpr ⟨b, hb, hkey⟩
  constructor
  · intro hall
    have hone {b : List Key} {key : Key} (hb : b ∈ calls)
        (hbatch : b ∈ batches [] (under s3.contents Prefix)) (hkey : key ∈ b) :
        ∃ response, s3.deleteObjects b = .ok response ∧ key ∈ response.Deleted := by
      obtain ⟨b', hb', response, hanswer, hdeleted⟩ := hall key (hunder hbatch hkey)
      obtain rfl := eq_of_mem_flatten hunique (hsub b hb) hb' hkey
        (mem_of_deleted hs3 hanswer hdeleted)
      exact ⟨response, hanswer, hdeleted⟩
    have hok {b : List Key} (hb : b ∈ calls)
        (hbatch : b ∈ batches [] (under s3.contents Prefix)) : ¬ s3.Fails b := by
      rintro ⟨err, herr⟩
      obtain ⟨key, hkey⟩ := List.exists_mem_of_ne_nil b (ne_nil_of_mem_batches hbatch)
      obtain ⟨response, hanswer, _⟩ := hone hb hbatch hkey
      rw [hanswer] at herr
      cases herr
    have hcalls : calls = batches [] (under s3.contents Prefix) := by
      rcases hran.way with heq | ⟨b, hb, hfails, hbatch⟩
      · exact heq
      · exact absurd hfails (hok hb hbatch)
    intro b hbatch
    have hb : b ∈ calls := hcalls ▸ hbatch
    obtain ⟨key, hkey⟩ := List.exists_mem_of_ne_nil b (ne_nil_of_mem_batches hbatch)
    obtain ⟨response, hanswer, _⟩ := hone hb hbatch hkey
    refine ⟨response, hanswer, List.eq_nil_iff_forall_not_mem.mpr fun err herr => ?_⟩
    have hperm := (hs3.response hanswer).1
    have hmem : err.Key ∈ response.Errors.map KeyError.Key := List.mem_map_of_mem herr
    obtain ⟨response', hanswer', hdeleted⟩ :=
      hone hb hbatch (hperm.subset (List.mem_append_right _ hmem))
    rw [hanswer] at hanswer'
    cases hanswer'
    have hnodup := hperm.nodup_iff.mpr ((List.nodup_flatten.mp hunique).1 b (hsub b hb))
    exact (List.nodup_append.mp hnodup).2.2 _ hdeleted _ hmem rfl
  · intro hall key hkey
    have hcalls : calls = batches [] (under s3.contents Prefix) := by
      rcases hran.way with heq | ⟨b, _, ⟨err, herr⟩, hbatch⟩
      · exact heq
      · obtain ⟨response, hanswer, _⟩ := hall b hbatch
        rw [hanswer] at herr
        cases herr
    rw [← List.nil_append (under _ _), ← flatten_batches] at hkey
    obtain ⟨b, hbatch, hkey⟩ := List.mem_flatten.mp hkey
    obtain ⟨response, hanswer, herrors⟩ := hall b hbatch
    have hperm := (hs3.response hanswer).1
    rw [herrors, List.map_nil, List.append_nil] at hperm
    exact ⟨b, hsub b (hcalls ▸ hbatch), response, hanswer, hperm.symm.subset hkey⟩

theorem folderRight_iff (hs3 : s3.Lawful) {Prefix : Str} {m : Marks} {total : List (List Key)}
    (hran : FolderRan s3 Prefix m calls) (hunique : total.flatten.Nodup)
    (hsub : ∀ b ∈ calls, b ∈ total) : FolderRight s3 total Prefix m ↔
      (∀ b ∈ batches [] (under s3.contents Prefix), s3.DeletesAll b) ∨
        leftover s3 Prefix ≠ [] ∧ s3.Fails (leftover s3 Prefix) := by
  rw [FolderRight]
  cases hfinished : m.deleteFinished with
  | false =>
      have hleft : leftover s3 Prefix ≠ [] ∧ s3.Fails (leftover s3 Prefix) := by
        by_contra hnot
        rw [hran.finished.mpr hnot] at hfinished
        cases hfinished
      simp [hran.failed hfinished, hleft]
  | true =>
      rw [if_pos rfl, reported_iff hs3 hran hunique hsub,
        or_iff_left (hran.finished.mp hfinished)]

theorem foldersRight_iff (hs3 : s3.Lawful) {prefixes : List Str} {marks : List Marks}
    {total : List (List Key)} (hran : FoldersRan s3 prefixes marks calls)
    (hunique : total.flatten.Nodup) (hsub : ∀ b ∈ calls, b ∈ total) :
    List.Forall₂ (FolderRight s3 total) prefixes marks ↔ ∀ Prefix ∈ prefixes,
      (∀ b ∈ batches [] (under s3.contents Prefix), s3.DeletesAll b) ∨
        leftover s3 Prefix ≠ [] ∧ s3.Fails (leftover s3 Prefix) := by
  induction hran with
  | nil => simp
  | cons hfirst _ ih =>
      rw [List.forall₂_cons, List.forall_mem_cons, folderRight_iff hs3 hfirst hunique
        fun b hb => hsub b (List.mem_append_left _ hb), ih fun b hb =>
          hsub b (List.mem_append_right _ hb)]

end Reports

/-! ## Files -/

section Files

variable {s3} {calls : List (List Key)} {key : Key} {files : Key → Marks}

theorem foldl_update_of_ne {α β γ : Type} [DecidableEq β] (k : α → β) (g : α → γ → γ) {b : β} :
    ∀ {l : List α} (f : β → γ), (∀ a ∈ l, k a ≠ b) →
      l.foldl (fun f a => Function.update f (k a) (g a (f (k a)))) f b = f b
  | [], _, _ => rfl
  | a :: l, f, h => by
      rw [List.foldl_cons, foldl_update_of_ne k g _ fun a ha => h a (List.mem_cons_of_mem _ ha),
        Function.update_of_ne (Ne.symm (h a List.mem_cons_self))]

theorem foldl_update_of_mem {α β γ : Type} [DecidableEq β] (k : α → β) (g : α → γ → γ) {a : α} :
    ∀ {l : List α} (f : β → γ), (l.map k).Nodup → a ∈ l →
      l.foldl (fun f a => Function.update f (k a) (g a (f (k a)))) f (k a) = g a (f (k a))
  | a' :: l, f, hnodup, ha => by
      obtain ⟨hnot, hnodup⟩ := List.nodup_cons.mp hnodup
      rw [List.foldl_cons]
      rcases List.mem_cons.mp ha with rfl | ha
      · have hother : ∀ a' ∈ l, k a' ≠ k a := fun a' ha' heq =>
          hnot (heq.symm ▸ List.mem_map_of_mem ha')
        rw [foldl_update_of_ne k g _ hother, Function.update_self]
      · have hne : k a ≠ k a' := fun heq => hnot (heq.symm ▸ List.mem_map_of_mem ha)
        rw [foldl_update_of_mem k g _ hnodup ha, Function.update_of_ne hne]

section Response

variable {response : Response}

theorem foldl_deleted_of_notMem (files : Key → Marks) {keys : List Key} (h : key ∉ keys) :
    keys.foldl (fun files key => Function.update files key (files key).deleted) files key =
      files key :=
  foldl_update_of_ne id (fun _ => Marks.deleted) files fun _ ha heq => h (heq ▸ ha)

theorem processResponse_deleted
    (hunique : (response.Deleted ++ response.Errors.map KeyError.Key).Nodup)
    (h : key ∈ response.Deleted) :
    processResponse files (some response) key = (files key).deleted := by
  obtain ⟨hdeleted, _, hapart⟩ := List.nodup_append.mp hunique
  have hnone : ∀ err ∈ response.Errors, err.Key ≠ key := fun err herr heq =>
    hapart _ h _ (List.mem_map_of_mem herr) heq.symm
  rw [processResponse, foldl_update_of_ne KeyError.Key
    (fun (err : KeyError) (m : Marks) => m.failed err.shown) _ hnone]
  exact foldl_update_of_mem id (fun _ => Marks.deleted) files (by simpa using hdeleted) h

theorem processResponse_error {err : KeyError}
    (hunique : (response.Deleted ++ response.Errors.map KeyError.Key).Nodup)
    (h : err ∈ response.Errors) :
    processResponse files (some response) err.Key = (files err.Key).failed err.shown := by
  obtain ⟨_, herrors, hapart⟩ := List.nodup_append.mp hunique
  have hnot : err.Key ∉ response.Deleted := fun hmem =>
    hapart _ hmem _ (List.mem_map_of_mem h) rfl
  rw [processResponse,
    foldl_update_of_mem KeyError.Key (fun (err : KeyError) (m : Marks) => m.failed err.shown) _
      herrors h,
    foldl_deleted_of_notMem files hnot]

theorem processResponse_other
    (h : key ∉ response.Deleted ++ response.Errors.map KeyError.Key) :
    processResponse files (some response) key = files key := by
  rw [List.mem_append, not_or] at h
  have hnone : ∀ err ∈ response.Errors, err.Key ≠ key := by
    rintro err herr rfl
    exact h.2 (List.mem_map_of_mem herr)
  rw [processResponse, foldl_update_of_ne KeyError.Key
    (fun (err : KeyError) (m : Marks) => m.failed err.shown) _ hnone,
    foldl_deleted_of_notMem files h.1]

end Response

def marked (s3 : S3) (files : Key → Marks) (calls : List (List Key)) : Key → Marks :=
  calls.foldl (fun files batch =>
    match s3.deleteObjects batch with
    | .ok response => processResponse files (some response)
    | .error _ => files) files

/-- What deleting the files does. -/
structure FilesRan (s3 : S3) (batch keys : List Key) (finished : Bool) (calls : List (List Key)) :
    Prop where
  asked : calls.flatten.Sublist (batch ++ keys)
  way : finished = true ∧ calls = batches batch keys ∧ (∀ b ∈ calls, ¬ s3.Fails b) ∨
    ∃ b ∈ calls, s3.Fails b ∧ b ∈ batches batch keys

variable (s3) in
theorem deleteObjects_ran : ∀ (keys : List Key) (files : Key → Marks) (d : Deleter), ∃ calls,
    (deleteObjects s3 keys files d).2.2.calls = d.calls ++ calls ∧
      (deleteObjects s3 keys files d).2.1 = marked s3 files calls ∧
        FilesRan s3 d.keys keys (deleteObjects s3 keys files d).1 calls
  | [], files, d => by
      rw [deleteObjects]
      by_cases hnil : d.keys = []
      · rw [flushDelete_none hnil]
        refine ⟨[], (List.append_nil _).symm, rfl, by simp, .inl ⟨rfl, ?_, by simp⟩⟩
        rw [batches, if_neg (not_not_intro hnil)]
      · rw [flushDelete_some hnil]
        have hbatches : batches d.keys [] = [d.keys] := if_pos hnil
        cases hanswer : s3.deleteObjects d.keys with
        | error err =>
            refine ⟨[d.keys], rfl, ?_, by simp,
              .inr ⟨_, List.mem_singleton_self _, ⟨err, hanswer⟩, ?_⟩⟩
            · simp only [marked, List.foldl_cons, List.foldl_nil, hanswer]
              rfl
            · rw [hbatches]
              exact List.mem_singleton_self _
        | ok response =>
            refine ⟨[d.keys], rfl, ?_, by simp, .inl ⟨rfl, hbatches.symm, fun b hb => ?_⟩⟩
            · simp only [marked, List.foldl_cons, List.foldl_nil, hanswer]
              rfl
            · obtain rfl := List.mem_singleton.mp hb
              rintro ⟨err, herr⟩
              rw [hanswer] at herr
              cases herr
  | key :: keys, files, d => by
      rw [deleteObjects]
      by_cases hfull : bulkDeleteMaxFiles ≤ (d.keys ++ [key]).length
      · rw [scheduleDelete_full hfull]
        have hbatches : batches d.keys (key :: keys) = (d.keys ++ [key]) :: batches [] keys :=
          if_pos hfull
        cases hanswer : s3.deleteObjects (d.keys ++ [key]) with
        | error err =>
            refine ⟨[d.keys ++ [key]], rfl, ?_, by simp,
              .inr ⟨_, List.mem_singleton_self _, ⟨err, hanswer⟩, ?_⟩⟩
            · simp only [marked, List.foldl_cons, List.foldl_nil, hanswer]
              rfl
            · rw [hbatches]
              exact List.mem_cons_self
        | ok response =>
            obtain ⟨calls, hlog, hmarks, hran⟩ := deleteObjects_ran keys
              (processResponse files (some response)) ⟨[], d.calls ++ [d.keys ++ [key]]⟩
            refine ⟨(d.keys ++ [key]) :: calls, hlog.trans (List.append_assoc _ _ _), ?_, ?_, ?_⟩
            · refine hmarks.trans ?_
              simp only [marked, List.foldl_cons, hanswer]
            · have hasked := hran.asked.append_left (d.keys ++ [key])
              simpa using hasked
            · rcases hran.way with ⟨hfinished, hcalls, hok⟩ | ⟨b, hb, hfails, hmem⟩
              · refine .inl ⟨hfinished, by rw [hbatches, hcalls], ?_⟩
                refine List.forall_mem_cons.mpr ⟨?_, hok⟩
                rintro ⟨err, herr⟩
                rw [hanswer] at herr
                cases herr
              · refine .inr ⟨b, List.mem_cons_of_mem _ hb, hfails, ?_⟩
                rw [hbatches]
                exact List.mem_cons_of_mem _ hmem
      · rw [scheduleDelete_short hfull]
        have hbatches : batches d.keys (key :: keys) = batches (d.keys ++ [key]) keys :=
          if_neg hfull
        obtain ⟨calls, hlog, hmarks, hran⟩ :=
          deleteObjects_ran keys files ⟨d.keys ++ [key], d.calls⟩
        refine ⟨calls, hlog, hmarks, by simpa using hran.asked, ?_⟩
        rw [hbatches]
        exact hran.way

theorem marked_cons (b : List Key) : marked s3 files (b :: calls) =
    marked s3 (marked s3 files [b]) calls := rfl

theorem marked_other (hs3 : s3.Lawful) (h : key ∉ calls.flatten) :
    marked s3 files calls key = files key := by
  induction calls generalizing files with
  | nil => rfl
  | cons b calls ih =>
      rw [List.flatten_cons, List.mem_append, not_or] at h
      rw [marked_cons, ih h.2, marked, List.foldl_cons, List.foldl_nil]
      cases hanswer : s3.deleteObjects b with
      | error err => rfl
      | ok response =>
          exact processResponse_other fun hmem => h.1 ((hs3.response hanswer).1.subset hmem)

theorem marked_of_mem (hs3 : s3.Lawful) {response : Response} {b : List Key}
    (hanswer : s3.deleteObjects b = .ok response) (hkey : key ∈ b) : ∀ {calls : List (List Key)}
      (files : Key → Marks), calls.flatten.Nodup → b ∈ calls → ∃ files' : Key → Marks,
        files' key = files key ∧
          marked s3 files calls key = processResponse files' (some response) key
  | b' :: calls, files, hunique, hb => by
      rw [List.flatten_cons, List.nodup_append] at hunique
      obtain ⟨_, hrest, hapart⟩ := hunique
      rw [marked_cons]
      rcases List.mem_cons.mp hb with rfl | hb
      · refine ⟨files, rfl, ?_⟩
        rw [marked_other hs3 fun hmem => hapart key hkey key hmem rfl, marked, List.foldl_cons,
          List.foldl_nil, hanswer]
      · obtain ⟨files', hfiles', hmarked⟩ := marked_of_mem hs3 hanswer hkey _ hrest hb
        refine ⟨files', ?_, hmarked⟩
        have hnot : key ∉ [b'].flatten := by
          intro hmem
          rw [List.flatten_singleton] at hmem
          exact hapart key hmem key (List.mem_flatten.mpr ⟨b, hb, hkey⟩) rfl
        rw [hfiles', marked_other hs3 hnot]

theorem filesRight_iff (hs3 : s3.Lawful) {objects : List Key} {finished : Bool}
    {total : List (List Key)} (hran : FilesRan s3 [] objects finished calls)
    (hunique : total.flatten.Nodup) (hsublist : calls.Sublist total) :
    (∀ key ∈ objects, FileRight s3 total key (marked s3 (fun _ => unmarked) calls key)) ↔
      ∀ b ∈ batches [] objects, ¬ s3.Fails b := by
  have hflat : (batches [] objects).flatten = objects := flatten_batches [] objects
  have hsub := hsublist.subset
  constructor
  · intro hright
    rcases hran.way with ⟨_, hcalls, hok⟩ | ⟨b, hb, ⟨err, herr⟩, hmem⟩
    · exact hcalls ▸ hok
    · obtain ⟨key, hkey⟩ := List.exists_mem_of_ne_nil b (ne_nil_of_mem_batches hmem)
      have hobject : key ∈ objects := hflat ▸ List.mem_flatten.mpr ⟨b, hmem, hkey⟩
      obtain ⟨b', hb', response, hanswer, hmark⟩ := hright key hobject
      have hkey' : key ∈ b' := by
        refine (hs3.response hanswer).1.subset (List.mem_append.mpr ?_)
        rcases hmark with ⟨hdeleted, _⟩ | ⟨err, herr, rfl, _⟩
        · exact .inl hdeleted
        · exact .inr (List.mem_map_of_mem herr)
      obtain rfl := eq_of_mem_flatten hunique (hsub hb) hb' hkey hkey'
      rw [hanswer] at herr
      cases herr
  · intro hok key hobject
    have hcalls : calls = batches [] objects := by
      rcases hran.way with ⟨_, hcalls, _⟩ | ⟨b, _, hfails, hmem⟩
      · exact hcalls
      · exact absurd hfails (hok b hmem)
    rw [← hflat] at hobject
    obtain ⟨b, hb, hkey⟩ := List.mem_flatten.mp hobject
    cases hanswer : s3.deleteObjects b with
    | error err => exact absurd ⟨err, hanswer⟩ (hok b hb)
    | ok response =>
        have hb' : b ∈ calls := hcalls ▸ hb
        have hperm := (hs3.response hanswer).1
        have hasked : calls.flatten.Nodup := hsublist.flatten.nodup hunique
        have hresponse := hperm.nodup_iff.mpr ((List.nodup_flatten.mp hunique).1 b (hsub hb'))
        obtain ⟨files', hfiles', hmarked⟩ :=
          marked_of_mem hs3 hanswer hkey (fun _ => unmarked) hasked hb'
        refine ⟨b, hsub hb', response, hanswer, ?_⟩
        rcases List.mem_append.mp (hperm.symm.subset hkey) with hdeleted | herror
        · refine .inl ⟨hdeleted, ?_⟩
          rw [hmarked, processResponse_deleted hresponse hdeleted, hfiles']
        · obtain ⟨err, herr, rfl⟩ := List.mem_map.mp herror
          have hcode := (hs3.response hanswer).2 err herr
          have hshown : err.shown ≠ [] := by
            rw [KeyError.shown, if_pos hcode]
            exact hcode
          refine .inr ⟨err, herr, rfl, hshown, ?_⟩
          rw [hmarked, processResponse_error hresponse herr, hfiles']

end Files

/-! ## Whether it ends -/

section Ends

variable {s3} {Prefix : Str} {page n : Nat}

/-- The loop ends from a call for a page on, if it may make enough of them. -/
def Ends (s3 : S3) (Prefix : Str) (page n : Nat) : Prop :=
  ∃ least, ∀ fuel ≥ least, ∀ (token : Option Nat) (m : Marks) (d : Deleter),
    token.getD 0 = page → (deleteListed s3 Prefix fuel token n m d).1.isSome = true

theorem Ends.again {err : Failure} (h : s3.failure Prefix page n = some err)
    (hends : Ends s3 Prefix page (n + 1)) : Ends s3 Prefix page n := by
  obtain ⟨least, hleast⟩ := hends
  refine ⟨least + 1, fun fuel hfuel token m d htoken => ?_⟩
  obtain ⟨fuel, rfl⟩ := Nat.exists_eq_add_of_lt hfuel
  rw [deleteListed_again htoken h]
  exact hleast _ (by omega) token _ d htoken

theorem Ends.more (h : s3.failure Prefix page n = none)
    (hmore : page + 1 < (s3.pages Prefix).length) (hends : Ends s3 Prefix (page + 1) 0) :
    Ends s3 Prefix page n := by
  obtain ⟨least, hleast⟩ := hends
  refine ⟨least + 1, fun fuel hfuel token m d htoken => ?_⟩
  obtain ⟨fuel, rfl⟩ := Nat.exists_eq_add_of_lt hfuel
  rw [deleteListed_more htoken h hmore]
  exact hleast _ (by omega) _ _ _ rfl

theorem Ends.last (h : s3.failure Prefix page n = none) (hpage : page < (s3.pages Prefix).length)
    (hlast : ¬ page + 1 < (s3.pages Prefix).length) : Ends s3 Prefix page n := by
  refine ⟨1, fun fuel hfuel token m d htoken => ?_⟩
  obtain ⟨fuel, rfl⟩ := Nat.exists_eq_add_of_lt hfuel
  rw [deleteListed_last htoken h hpage hlast]
  rfl

theorem Ends.wait {k : Nat} (h : s3.failure Prefix page k = none)
    (hends : ∀ n, s3.failure Prefix page n = none → Ends s3 Prefix page n) :
    ∀ (left : Nat) {n : Nat}, n + left = k → Ends s3 Prefix page n
  | 0, n, hleft => by
      obtain rfl : n = k := hleft
      exact hends n h
  | left + 1, n, hleft => by
      cases hfailure : s3.failure Prefix page n with
      | none => exact hends n hfailure
      | some err => exact (Ends.wait h hends left (by omega)).again hfailure

theorem ends_of_answered
    (h : ∀ page < (s3.pages Prefix).length, ∃ n, s3.failure Prefix page n = none) :
    ∀ (left page : Nat), page + left + 1 = (s3.pages Prefix).length →
      Ends s3 Prefix page 0
  | 0, page, hleft => by
      obtain ⟨k, hk⟩ := h page (by omega)
      exact .wait hk (fun n hn => .last hn (by omega) (by omega)) k (Nat.zero_add k)
  | left + 1, page, hleft => by
      obtain ⟨k, hk⟩ := h page (by omega)
      have hnext := ends_of_answered h left (page + 1) (by omega)
      exact .wait hk (fun n hn => .more hn (by omega) hnext) k (Nat.zero_add k)

theorem answered_of_deleteListed : ∀ {fuel : Nat} (page : Nat) {n : Nat} {token : Option Nat}
    {m : Marks} {d : Deleter}, token.getD 0 = page → page < (s3.pages Prefix).length →
      (deleteListed s3 Prefix fuel token n m d).1.isSome = true →
        ∀ j, page ≤ j → j < (s3.pages Prefix).length → ∃ n, s3.failure Prefix j n = none
  | 0, _, _, _, _, _, _, _, h, _, _, _ => by cases h
  | fuel + 1, page, n, token, m, d, htoken, hpage, h, j, hj, hlength => by
      cases hfailure : s3.failure Prefix page n with
      | some err =>
          rw [deleteListed_again htoken hfailure] at h
          exact answered_of_deleteListed page htoken hpage h j hj hlength
      | none =>
          rcases Nat.eq_or_lt_of_le hj with rfl | hlt
          · exact ⟨n, hfailure⟩
          · have hmore : page + 1 < (s3.pages Prefix).length := by omega
            rw [deleteListed_more htoken hfailure hmore] at h
            exact answered_of_deleteListed (page + 1) rfl hmore h j hlt hlength

variable (s3) in
theorem isSome_deletePrefix (Prefix : Str) (fuel : Nat) (d : Deleter) :
    (deletePrefix s3 fuel Prefix d).1.isSome =
      (deleteListed s3 Prefix fuel none 0 started d).1.isSome := by
  rw [deletePrefix]
  generalize deleteListed s3 Prefix fuel none 0 started d = result
  obtain ⟨_ | m, d'⟩ := result
  · rfl
  · dsimp only
    generalize d'.flushDelete s3 = flushed
    obtain ⟨_ | _, d''⟩ := flushed
    · rfl
    · rfl

theorem deletePrefixes_ends {prefixes : List Str}
    (h : ∀ Prefix ∈ prefixes, Ends s3 Prefix 0 0) : ∃ least, ∀ fuel ≥ least, ∀ d : Deleter,
      (deletePrefixes s3 fuel prefixes d).1.isSome = true := by
  induction prefixes with
  | nil => exact ⟨0, fun fuel _ d => rfl⟩
  | cons Prefix prefixes ih =>
      obtain ⟨least, hleast⟩ := h Prefix List.mem_cons_self
      obtain ⟨least', hleast'⟩ := ih fun Prefix hmem => h Prefix (List.mem_cons_of_mem _ hmem)
      refine ⟨max least least', fun fuel hfuel d => ?_⟩
      have hfirst := (isSome_deletePrefix s3 Prefix fuel d).trans
        (hleast fuel ((Nat.le_max_left _ _).trans hfuel) none started d rfl)
      rw [deletePrefixes]
      generalize deletePrefix s3 fuel Prefix d = result at hfirst
      obtain ⟨_ | m, d'⟩ := result
      · cases hfirst
      · have hrest := hleast' fuel ((Nat.le_max_right _ _).trans hfuel) d'
        dsimp only
        rw [Option.isSome_map, hrest]

theorem answered_of_deletePrefixes (hs3 : s3.Lawful) {fuel : Nat} : ∀ {prefixes : List Str}
    {d : Deleter}, (deletePrefixes s3 fuel prefixes d).1.isSome = true →
      ∀ Prefix ∈ prefixes, ∀ page < (s3.pages Prefix).length,
        ∃ n, s3.failure Prefix page n = none
  | [], _, _ => fun _ h => by cases h
  | Prefix :: prefixes, d, h => by
      have hfirst := isSome_deletePrefix s3 Prefix fuel d
      rw [deletePrefixes] at h
      generalize deletePrefix s3 fuel Prefix d = result at h hfirst
      obtain ⟨_ | m, d'⟩ := result
      · cases h
      · dsimp only at h
        rw [Option.isSome_map] at h
        refine List.forall_mem_cons.mpr ⟨fun page hpage => ?_, answered_of_deletePrefixes hs3 h⟩
        exact answered_of_deleteListed 0 rfl (List.length_pos_iff.mpr (hs3.page Prefix)) hfirst.symm
          page (Nat.zero_le _) hpage

end Ends

/-! ## All of it -/

variable {s3} (prefixes : List Str) (objects : List Key)

theorem deleteFiles_ran (hs3 : s3.Lawful) (fuel : Nat) :
    (deleteFiles s3 fuel prefixes objects).2.flatten.Sublist
        (prefixes.flatMap (under s3.contents) ++ objects) ∧
      ((deleteFiles s3 fuel prefixes objects).1.isSome =
        (deletePrefixes s3 fuel prefixes ⟨[], []⟩).1.isSome) ∧
      ∀ outcome, (deleteFiles s3 fuel prefixes objects).1 = some outcome →
        ∃ calls calls', (deleteFiles s3 fuel prefixes objects).2 = calls ++ calls' ∧
          FoldersRan s3 prefixes outcome.folders calls ∧
          FilesRan s3 [] objects outcome.finished calls' ∧
          outcome.files = marked s3 (fun _ => unmarked) calls' := by
  obtain ⟨calls, hlog, hasked, hdone⟩ := deletePrefixes_ran hs3 fuel prefixes ⟨[], []⟩ rfl
  rw [deleteFiles]
  generalize deletePrefixes s3 fuel prefixes ⟨[], []⟩ = result at hlog hdone ⊢
  obtain ⟨_ | marks, d⟩ := result
  · refine ⟨?_, rfl, fun outcome h => by cases h⟩
    dsimp only at hlog ⊢
    rw [hlog]
    exact hasked.trans (List.sublist_append_left _ _)
  · obtain ⟨hkeys, hran⟩ := hdone marks rfl
    obtain ⟨calls', hlog', hmarks, hran'⟩ :=
      deleteObjects_ran s3 objects (fun _ => unmarked) d
    dsimp only at hlog hkeys ⊢
    rw [hlog, List.nil_append] at hlog'
    rw [hkeys] at hran'
    refine ⟨?_, rfl, fun outcome h => ?_⟩
    · rw [hlog', List.flatten_append]
      exact hasked.append (by simpa using hran'.asked)
    · cases h
      exact ⟨calls, calls', hlog', hran, hran', hmarks⟩

variable {prefixes objects}

theorem asked_selected (hs3 : s3.Lawful) (fuel : Nat) {batch : List Key} {key : Key}
    (hbatch : batch ∈ (deleteFiles s3 fuel prefixes objects).2) (hkey : key ∈ batch) :
    key ∈ objects ∨ ∃ Prefix ∈ prefixes, Prefix <+: key := by
  have hmem := (deleteFiles_ran prefixes objects hs3 fuel).1.subset
    (List.mem_flatten.mpr ⟨batch, hbatch, hkey⟩)
  rcases List.mem_append.mp hmem with hfolder | hfile
  · obtain ⟨Prefix, hPrefix, hunder⟩ := List.mem_flatMap.mp hfolder
    exact .inr ⟨Prefix, hPrefix, (mem_under_iff.mp hunder).2⟩
  · exact .inl hfile

theorem right_iff (hs3 : s3.Lawful) (hselected : Selected s3.contents prefixes objects)
    {fuel : Nat} {outcome : Outcome}
    (houtcome : (deleteFiles s3 fuel prefixes objects).1 = some outcome) :
    Right s3 prefixes objects outcome (deleteFiles s3 fuel prefixes objects).2 ↔
      (∀ Prefix ∈ prefixes,
        (∀ batch ∈ batches [] (under s3.contents Prefix), s3.DeletesAll batch) ∨
          leftover s3 Prefix ≠ [] ∧ s3.Fails (leftover s3 Prefix)) ∧
        ∀ batch ∈ batches [] objects, ¬ s3.Fails batch := by
  obtain ⟨hasked, _, hdone⟩ := deleteFiles_ran prefixes objects hs3 fuel
  obtain ⟨calls, calls', hcalls, hfolders, hfiles, hmarks⟩ := hdone outcome houtcome
  have htotal : (calls ++ calls').flatten.Nodup :=
    hcalls ▸ hasked.nodup (keys_apart hs3.unique hselected)
  rw [hcalls, ← foldersRight_iff hs3 hfolders htotal fun b hb => List.mem_append_left _ hb,
    ← filesRight_iff hs3 hfiles htotal (List.sublist_append_right _ _), ← hmarks]
  exact ⟨fun h => ⟨h.folders, h.files⟩, fun h => ⟨h.1, h.2⟩⟩

/-- The deletion is sound exactly for answers of this kind. -/
theorem deleteFiles_iff (hs3 : s3.Lawful) (hselected : Selected s3.contents prefixes objects) :
    Sound s3 prefixes objects ↔ Answers s3 prefixes objects := by
  constructor
  · rintro ⟨⟨fuel, hends⟩, _, hall⟩
    obtain ⟨outcome, houtcome⟩ := Option.isSome_iff_exists.mp hends
    have hboth := (right_iff hs3 hselected houtcome).mp (hall fuel outcome houtcome)
    rw [(deleteFiles_ran prefixes objects hs3 fuel).2.1] at hends
    exact ⟨answered_of_deletePrefixes hs3 hends, hboth.1, hboth.2⟩
  · intro hanswers
    refine ⟨?_, fun fuel batch hbatch key hkey => asked_selected hs3 fuel hbatch hkey,
      fun fuel outcome houtcome =>
        (right_iff hs3 hselected houtcome).mpr ⟨hanswers.folders, hanswers.files⟩⟩
    obtain ⟨least, hleast⟩ := deletePrefixes_ends fun Prefix hmem =>
      ends_of_answered (hanswers.answered Prefix hmem) ((s3.pages Prefix).length - 1) 0 (by
        have hpos := List.length_pos_iff.mpr (hs3.page Prefix)
        omega)
    refine ⟨least, ?_⟩
    rw [(deleteFiles_ran prefixes objects hs3 least).2.1]
    exact hleast least (Nat.le_refl _) _

/-! ## One folder and one file -/

def twoKeys : List Key := ["a/x", "b"]

/-- Listings of one page that are always answered like this. -/
def s3Of (failure : Option Failure) (deleteObjects : List Key → Except Failure Response) : S3 where
  contents := twoKeys
  pages Prefix := [under twoKeys Prefix]
  failure _ _ _ := failure
  deleteObjects := deleteObjects

def accessDenied : Failure := ⟨"AccessDenied", "Access Denied", "AccessDenied: Access Denied"⟩

theorem selected_two : Selected twoKeys ["a/"] ["b"] where
  unique := by decide
  listed := ⟨[], by decide, by decide⟩

/-- All is deleted. -/
def willing : S3 := s3Of none fun keys => .ok ⟨keys, []⟩

/-- No key is deleted. -/
def unwilling : S3 :=
  s3Of none fun keys => .ok ⟨[], keys.map fun key => ⟨key, "AccessDenied", "Access Denied"⟩⟩

/-- All calls to list fail. -/
def unlisted : S3 := s3Of (some accessDenied) fun keys => .ok ⟨keys, []⟩

/-- All calls to delete fail. -/
def refusing : S3 := s3Of none fun _ => .error accessDenied

theorem nodup_twoKeys : twoKeys.Nodup := by decide

theorem s3Of_lawful {failure : Option Failure} {answer : List Key → Except Failure Response}
    (hresponse : ∀ {keys : List Key} {response : Response}, answer keys = .ok response →
      (response.Deleted ++ response.Errors.map KeyError.Key).Perm keys ∧
        ∀ err ∈ response.Errors, err.Code ≠ [])
    (hfailure : ∀ {keys : List Key} {err : Failure}, answer keys = .error err → err.text ≠ []) :
    (s3Of failure answer).Lawful where
  unique := nodup_twoKeys
  pages _ := List.flatten_singleton
  page _ := List.cons_ne_nil _ _
  response := hresponse
  failure := hfailure

theorem willing_lawful : willing.Lawful :=
  s3Of_lawful (fun h => by cases h; exact ⟨by simp, by simp⟩) fun h => by cases h

theorem deleteFiles_of_willing : Sound willing ["a/"] ["b"] :=
  (deleteFiles_iff willing_lawful selected_two).mpr
    { answered := fun _ _ _ _ => ⟨0, rfl⟩
      folders := fun _ _ => .inl fun _ _ => ⟨_, rfl, rfl⟩
      files := fun _ _ h => by
        obtain ⟨err, herr⟩ := h
        cases herr }

/-- A folder of which no key is deleted is marked as deleted, a listing that fails is asked for
without end, and a file has no mark at all. -/
theorem deleteFiles_of_unwilling :
    (unwilling.Lawful ∧ ¬ Sound unwilling ["a/"] ["b"]) ∧
      (unlisted.Lawful ∧ ¬ Sound unlisted ["a/"] ["b"]) ∧
        (refusing.Lawful ∧ ¬ Sound refusing ["a/"] ["b"]) := by
  have hunwilling : unwilling.Lawful := s3Of_lawful
    (fun h => by
      cases h
      refine ⟨by simp [List.map_map, Function.comp_def], fun err herr => ?_⟩
      obtain ⟨key, _, rfl⟩ := List.mem_map.mp herr
      exact List.cons_ne_nil 'A' _)
    fun h => by cases h
  have hunlisted : unlisted.Lawful :=
    s3Of_lawful (fun h => by cases h; exact ⟨by simp, by simp⟩) fun h => by cases h
  have hrefusing : refusing.Lawful :=
    s3Of_lawful (fun h => by cases h) fun h => by cases h; decide
  refine ⟨⟨hunwilling, fun hsound => ?_⟩, ⟨hunlisted, fun hsound => ?_⟩,
    hrefusing, fun hsound => ?_⟩
  · have hright := (right_iff hunwilling selected_two rfl).mp (hsound.right 1 _ rfl)
    rcases hright.1 "a/" List.mem_cons_self with hall | ⟨_, err, herr⟩
    · obtain ⟨response, hanswer, herrors⟩ := hall ["a/x"] (by decide)
      cases hanswer
      cases herrors
    · cases herr
  · obtain ⟨fuel, hends⟩ := hsound.ends
    rw [(deleteFiles_ran _ _ hunlisted fuel).2.1] at hends
    obtain ⟨n, hn⟩ :=
      answered_of_deletePrefixes hunlisted hends "a/" List.mem_cons_self 0 (by decide)
    cases hn
  · have hright := (right_iff hrefusing selected_two rfl).mp (hsound.right 1 _ rfl)
    exact hright.2 ["b"] (by decide) ⟨accessDenied, rfl⟩

end Trash

end FileBrowser
