import DataWorkspace.Py.Text
import Mathlib.Algebra.BigOperators.Fin
import Mathlib.Algebra.Order.BigOperators.Group.Finset
import Mathlib.Data.Finset.Card
import Mathlib.Logic.Function.Basic

/-!
# Crawling a site

`cran_mirror` and `debian_mirror` crawl a site with ten workers.  The workers take URLs from a
queue, and put into it the links of the pages they read that are in scope and not in the set
`done` yet.  A link is looked up, added and queued without anything in between, so each URL is
queued once, and the start once more.

Files with a version in their name are not fetched again: the cran crawler leaves a worker with
such a URL at once, and the debian crawler does not queue it.

The invariant `Kept` says that what was taken and what is queued are the start and `done`, in
the order of adding, and that the links of every page that was read are in `done`.  Of it
follow termination, that what can be reached is fetched, and that nothing but the start is
fetched twice (`crawl_complete`).
-/

namespace Mirrors

open Py

/-! ## Crawlers -/

/-- A URL, with the parts that `urlparse` finds. -/
structure Url where
  text : Str
  netloc : Str
  path : Str
deriving DecidableEq, Repr

/-- What the two crawlers differ in. -/
structure Crawler where
  start : Url
  in_scope : Url → Bool
  /-- A file that never changes, and is in the bucket already. -/
  immutable : Url → Bool
  /-- Whether an immutable file is queued, and left alone by the worker that takes it. -/
  queues_immutable : Bool

namespace Crawler

variable (c : Crawler)

/-- A link is queued, unless it is in `done`. -/
def queues (url : Url) : Bool := c.in_scope url && (c.queues_immutable || !c.immutable url)

/-- A worker leaves the URL alone. -/
def skips (url : Url) : Bool := c.queues_immutable && c.immutable url

end Crawler

/-- The crawler of `cran_mirror`. -/
def cran (existing_files : List Str) : Crawler where
  start := ⟨"https://cran.ma.imperial.ac.uk/web/packages/available_packages_by_name.html",
    "cran.ma.imperial.ac.uk", "/web/packages/available_packages_by_name.html"⟩
  in_scope url := url.netloc = ("cran.ma.imperial.ac.uk" : Str)
  immutable url :=
    let key_suffix := url.path.drop 1
    key_suffix ∈ existing_files && (endswith key_suffix ".tar.gz" || endswith key_suffix ".tgz" ||
      endswith key_suffix ".zip" || endswith key_suffix ".pdf")
  queues_immutable := true

/-- The crawler of `debian_mirror`. -/
def debian (source_base : Url) (existing_relative_keys : List Str) : Crawler where
  start := source_base
  in_scope url := url.netloc = source_base.netloc && startswith url.path source_base.path
  immutable url :=
    let relative_key := url.path.drop source_base.path.length
    relative_key ∈ existing_relative_keys &&
      (endswith relative_key ".deb" || endswith relative_key ".change")
  queues_immutable := false

/-! ## Runs -/

/-- A crawl.  The set `done` is kept in the order of adding. -/
structure Crawl where
  queue : List Url
  done : List Url
  /-- The number of URLs that were queued and that no worker is done with. -/
  unfinished : Nat
  /-- The URL of each worker, and how many tries to fetch it failed. -/
  workers : Fin 10 → Option (Url × Nat)
  /-- What the workers took, and what was answered with 200, oldest first. -/
  taken : List Url
  answered : List Url

namespace Crawl

/-- The links that are not in `done` yet, each once. -/
def fresh (c : Crawler) (done : List Url) : List Url → List Url
  | [] => []
  | url :: links =>
      if c.queues url = true ∧ url ∉ done then url :: fresh c (done ++ [url]) links
      else fresh c done links

def init (c : Crawler) : Crawl where
  queue := [c.start]
  done := []
  unfinished := 1
  workers _ := none
  taken := []
  answered := []

/-- A worker is done with its URL. -/
def finish (s : Crawl) (i : Fin 10) : Crawl :=
  { s with unfinished := s.unfinished - 1, workers := Function.update s.workers i none }

/-- The links of a page are queued. -/
def add (c : Crawler) (s : Crawl) (links : List Url) : Crawl where
  queue := s.queue ++ fresh c s.done links
  done := s.done ++ fresh c s.done links
  unfinished := s.unfinished + (fresh c s.done links).length
  workers := s.workers
  taken := s.taken
  answered := s.answered

/-- What was requested, tries after failures aside. -/
def fetched (c : Crawler) (s : Crawl) : List Url := s.taken.filter fun url => !c.skips url

end Crawl

inductive Step (c : Crawler) (site : Url → List Url) : Crawl → Crawl → Prop where
  | take {s : Crawl} {i : Fin 10} {url : Url} {queue : List Url} :
      s.workers i = none → s.queue = url :: queue →
      Step c site s { s with queue := queue, taken := s.taken ++ [url]
                             workers := Function.update s.workers i (some (url, 0)) }
  /-- An immutable file is left alone. -/
  | skip {s : Crawl} {i : Fin 10} {url : Url} {tries : Nat} :
      s.workers i = some (url, tries) → c.skips url = true → Step c site s (s.finish i)
  /-- The connection or the data fails, and there are tries left. -/
  | again {s : Crawl} {i : Fin 10} {url : Url} {tries : Nat} :
      s.workers i = some (url, tries) → c.skips url = false → tries + 1 < 10 →
      Step c site s { s with workers := Function.update s.workers i (some (url, tries + 1)) }
  /-- The tenth try fails, or an exception is logged. -/
  | leave {s : Crawl} {i : Fin 10} {url : Url} {tries : Nat} :
      s.workers i = some (url, tries) → c.skips url = false → Step c site s (s.finish i)
  /-- The URL is answered, and the links of the page are queued. -/
  | answer {s : Crawl} {i : Fin 10} {url : Url} {tries : Nat} :
      s.workers i = some (url, tries) → c.skips url = false →
      Step c site s ({ (s.add c (site url)).finish i with answered := s.answered ++ [url] })

/-- The crawls after so many steps. -/
inductive Run (c : Crawler) (site : Url → List Url) : Nat → Crawl → Prop where
  | init : Run c site 0 (.init c)
  | step {n : Nat} {s s' : Crawl} : Run c site n s → Step c site s s' → Run c site (n + 1) s'

/-- What can be reached from the start by links in scope of pages that were answered. -/
inductive Reachable (c : Crawler) (site : Url → List Url) (answered : List Url) : Url → Prop where
  | start : Reachable c site answered c.start
  | link {url url' : Url} : Reachable c site answered url → url ∈ answered →
      url' ∈ site url → c.in_scope url' = true → Reachable c site answered url'

/-! ## The invariant -/

/-- Whether a worker has a URL. -/
def busy (worker : Option (Url × Nat)) : Nat := if worker.isSome then 1 else 0

structure Kept (c : Crawler) (site : Url → List Url) (s : Crawl) : Prop where
  order : s.taken ++ s.queue = c.start :: s.done
  nodup : s.done.Nodup
  queued : ∀ url ∈ s.done, c.queues url = true ∧ ∃ url', url ∈ site url'
  read : ∀ url ∈ s.answered, ∀ url' ∈ site url, c.queues url' = true → url' ∈ s.done
  tries : ∀ i url tries, s.workers i = some (url, tries) → tries < 10
  unfinished : s.unfinished = s.queue.length + ∑ i, busy (s.workers i)

section Fresh

variable {c : Crawler} {url : Url}

theorem mem_fresh : ∀ {links done : List Url}, url ∈ Crawl.fresh c done links ↔
    url ∈ links ∧ c.queues url = true ∧ url ∉ done
  | [], done => by simp [Crawl.fresh]
  | link :: links, done => by
      rw [Crawl.fresh]
      split
      next h =>
        rw [List.mem_cons, mem_fresh, List.mem_cons, List.mem_append, List.mem_singleton]
        by_cases hurl : url = link
        · subst hurl
          simp [h]
        · simp [hurl]
      next h =>
        rw [mem_fresh, List.mem_cons]
        by_cases hurl : url = link
        · subst hurl
          constructor
          · rintro ⟨-, hq⟩
            exact absurd hq h
          · rintro ⟨-, hq⟩
            exact absurd hq h
        · simp [hurl]

theorem nodup_fresh : ∀ (links done : List Url), (Crawl.fresh c done links).Nodup
  | [], _ => List.nodup_nil
  | link :: links, done => by
      rw [Crawl.fresh]
      split
      · refine List.nodup_cons.mpr ⟨fun h => ?_, nodup_fresh links _⟩
        exact (mem_fresh.mp h).2.2 (by simp)
      · exact nodup_fresh links done

end Fresh

section Sums

variable {w : Fin 10 → Option (Url × Nat)} {f : Option (Url × Nat) → Nat}

theorem sum_update (i : Fin 10) (x : Option (Url × Nat)) :
    ∑ j, f (Function.update w i x j) + f (w i) = ∑ j, f (w j) + f x := by
  have hcomp : ∀ j, f (Function.update w i x j) = Function.update (fun j => f (w j)) i (f x) j := by
    intro j
    by_cases hj : j = i
    · subst hj
      rw [Function.update_self, Function.update_self]
    · rw [Function.update_of_ne hj, Function.update_of_ne hj]
  have hold := Finset.sum_eq_add_sum_sdiff_singleton_of_mem (Finset.mem_univ i) (fun j => f (w j))
  simp only [hcomp]
  rw [Finset.sum_update_of_mem (Finset.mem_univ i), hold]
  omega

theorem sum_update_none (hf : f none = 0) (i : Fin 10) :
    ∑ j, f (Function.update w i none j) + f (w i) = ∑ j, f (w j) := by
  rw [sum_update, hf, Nat.add_zero]

end Sums

section Steps

variable {c : Crawler} {site : Url → List Url} {s s' : Crawl} {n : Nat}

theorem kept_init : Kept c site (.init c) where
  order := rfl
  nodup := List.nodup_nil
  queued _ h := nomatch h
  read _ h := nomatch h
  tries _ _ _ h := nomatch h
  unfinished := by simp [Crawl.init, busy]

/-- A worker that is done with its URL leaves everything but the count alone. -/
theorem Kept.finish (h : Kept c site s) {i : Fin 10} {url : Url} {tries : Nat}
    (hi : s.workers i = some (url, tries)) : Kept c site (s.finish i) where
  order := h.order
  nodup := h.nodup
  queued := h.queued
  read := h.read
  tries j url' tries' hj := by
    dsimp only [Crawl.finish] at hj
    by_cases hji : j = i
    · subst hji
      rw [Function.update_self] at hj
      cases hj
    · rw [Function.update_of_ne hji] at hj
      exact h.tries j url' tries' hj
  unfinished := by
    have hsum := sum_update_none (w := s.workers) (f := busy) rfl i
    rw [hi, show busy (some (url, tries)) = 1 from rfl] at hsum
    have hcount := h.unfinished
    show s.unfinished - 1 = s.queue.length + _
    simp only [Crawl.finish]
    omega

theorem Kept.add (h : Kept c site s) (url : Url) : Kept c site (s.add c (site url)) where
  order := by
    rw [Crawl.add, ← List.append_assoc, h.order, List.cons_append]
  nodup := by
    refine List.nodup_append.mpr ⟨h.nodup, nodup_fresh _ _, ?_⟩
    rintro a ha b hb rfl
    exact (mem_fresh.mp hb).2.2 ha
  queued url' hurl := by
    rcases List.mem_append.mp hurl with hurl | hurl
    · exact h.queued url' hurl
    · obtain ⟨hmem, hq, -⟩ := mem_fresh.mp hurl
      exact ⟨hq, url, hmem⟩
  read url' hanswered link hlink hq := List.mem_append_left _ (h.read url' hanswered link hlink hq)
  tries := h.tries
  unfinished := by
    have hcount := h.unfinished
    simp only [Crawl.add, List.length_append]
    omega

theorem Kept.step (h : Kept c site s) (hs : Step c site s s') : Kept c site s' := by
  cases hs with
  | @take i url queue hi hqueue =>
      have horder := h.order
      rw [hqueue] at horder
      refine ⟨?_, h.nodup, h.queued, h.read, fun j url' tries hj => ?_, ?_⟩
      · rw [List.append_assoc, List.singleton_append]
        exact horder
      · dsimp only at hj
        by_cases hji : j = i
        · subst hji
          rw [Function.update_self] at hj
          cases hj
          decide
        · rw [Function.update_of_ne hji] at hj
          exact h.tries j url' tries hj
      · have hsum := sum_update (w := s.workers) (f := busy) i (some (url, 0))
        rw [hi, show busy none = 0 from rfl, show busy (some (url, 0)) = 1 from rfl] at hsum
        have hcount := h.unfinished
        rw [hqueue, List.length_cons] at hcount
        dsimp only
        omega
  | skip hi _ => exact h.finish hi
  | @again i url tries hi _ hlt =>
      refine ⟨h.order, h.nodup, h.queued, h.read, fun j url' tries' hj => ?_, ?_⟩
      · dsimp only at hj
        by_cases hji : j = i
        · subst hji
          rw [Function.update_self] at hj
          cases hj
          exact hlt
        · rw [Function.update_of_ne hji] at hj
          exact h.tries j url' tries' hj
      · have hsum := sum_update (w := s.workers) (f := busy) i (some (url, tries + 1))
        rw [hi, show busy (some (url, tries)) = 1 from rfl,
          show busy (some (url, tries + 1)) = 1 from rfl] at hsum
        have hcount := h.unfinished
        dsimp only
        omega
  | leave hi _ => exact h.finish hi
  | @answer i url tries hi _ =>
      have hadded := (h.add url).finish (i := i) (s := s.add c (site url)) hi
      refine ⟨hadded.order, hadded.nodup, hadded.queued, fun url' hurl link hlink hq => ?_,
        hadded.tries, hadded.unfinished⟩
      rcases List.mem_append.mp hurl with hurl | hurl
      · exact List.mem_append_left _ (h.read url' hurl link hlink hq)
      · obtain rfl := List.mem_singleton.mp hurl
        by_cases hdone : link ∈ s.done
        · exact List.mem_append_left _ hdone
        · exact List.mem_append_right _ (mem_fresh.mpr ⟨hlink, hq, hdone⟩)

theorem kept_of_run (h : Run c site n s) : Kept c site s := by
  induction h with
  | init => exact kept_init
  | step _ hs ih => exact ih.step hs

/-! ## Termination -/

/-- What a worker may still do. -/
def cost : Option (Url × Nat) → Nat
  | none => 0
  | some (_, tries) => 11 - tries

/-- What all that is queued, and may still be queued, takes. -/
def measure (urls : Finset Url) (s : Crawl) : Nat :=
  12 * (urls.card - s.done.length) + 12 * s.queue.length + ∑ i, cost (s.workers i)

theorem length_done_le {urls : Finset Url} (hsite : ∀ url, ∀ link ∈ site url, link ∈ urls)
    (h : Kept c site s) : s.done.length ≤ urls.card := by
  rw [← List.toFinset_card_of_nodup h.nodup]
  refine Finset.card_le_card fun url hurl => ?_
  obtain ⟨-, url', hlink⟩ := h.queued url (List.mem_toFinset.mp hurl)
  exact hsite url' url hlink

theorem measure_finish (urls : Finset Url) (h : Kept c site s) {i : Fin 10} {url : Url}
    {tries : Nat} (hi : s.workers i = some (url, tries)) :
    measure urls (s.finish i) < measure urls s := by
  have hsum := sum_update_none (w := s.workers) (f := cost) rfl i
  have htries := h.tries i url tries hi
  rw [hi, show cost (some (url, tries)) = 11 - tries from rfl] at hsum
  simp only [measure, Crawl.finish]
  omega

theorem measure_step {urls : Finset Url} (hsite : ∀ url, ∀ link ∈ site url, link ∈ urls)
    (h : Kept c site s) (hs : Step c site s s') : measure urls s' < measure urls s := by
  cases hs with
  | @take i url queue hi hqueue =>
      have hsum := sum_update (w := s.workers) (f := cost) i (some (url, 0))
      rw [hi, show cost none = 0 from rfl, show cost (some (url, 0)) = 11 from rfl] at hsum
      simp only [measure, hqueue, List.length_cons]
      omega
  | skip hi _ => exact measure_finish urls h hi
  | @again i url tries hi _ hlt =>
      have hsum := sum_update (w := s.workers) (f := cost) i (some (url, tries + 1))
      rw [hi, show cost (some (url, tries)) = 11 - tries from rfl,
        show cost (some (url, tries + 1)) = 11 - (tries + 1) from rfl] at hsum
      simp only [measure]
      omega
  | leave hi _ => exact measure_finish urls h hi
  | @answer i url tries hi _ =>
      have hadded := h.add url
      have hlength := length_done_le hsite hadded
      have hlt := measure_finish urls hadded (i := i) hi
      refine Nat.lt_of_lt_of_le hlt ?_
      simp only [measure, Crawl.add, List.length_append] at hlength ⊢
      omega

theorem run_length {urls : Finset Url} (hsite : ∀ url, ∀ link ∈ site url, link ∈ urls)
    (h : Run c site n s) : n + measure urls s ≤ 12 * urls.card + 12 := by
  induction h with
  | init => simp [measure, Crawl.init, cost]
  | step hrun hs ih =>
      have hlt := measure_step hsite (kept_of_run hrun) hs
      omega

theorem exists_step (h : Kept c site s) : (∃ s', Step c site s s') ↔ s.unfinished ≠ 0 := by
  have hcount := h.unfinished
  constructor
  · rintro ⟨s', hs⟩ hzero
    have hnone : ∀ i, s.workers i = none := by
      intro i
      have hle := Finset.single_le_sum (f := fun i => busy (s.workers i))
        (fun _ _ => Nat.zero_le _) (Finset.mem_univ i)
      cases hi : s.workers i with
      | none => rfl
      | some worker =>
          rw [hi, show busy (some worker) = 1 from rfl] at hle
          omega
    have hqueue : s.queue = [] := List.length_eq_zero_iff.mp (by omega)
    cases hs with
    | take hi hq => exact absurd (hqueue.symm.trans hq) (List.cons_ne_nil _ _).symm
    | skip hi _ => exact absurd ((hnone _).symm.trans hi) nofun
    | again hi _ _ => exact absurd ((hnone _).symm.trans hi) nofun
    | leave hi _ => exact absurd ((hnone _).symm.trans hi) nofun
    | answer hi _ => exact absurd ((hnone _).symm.trans hi) nofun
  · intro hpos
    by_cases hidle : ∀ i, s.workers i = none
    · have hsum : ∑ i, busy (s.workers i) = 0 := by
        simp [hidle, busy]
      cases hqueue : s.queue with
      | nil =>
          rw [hqueue, hsum] at hcount
          exact absurd hcount hpos
      | cons url queue => exact ⟨_, .take (hidle 0) hqueue⟩
    · push Not at hidle
      obtain ⟨i, hi⟩ := hidle
      obtain ⟨⟨url, tries⟩, hi⟩ := Option.ne_none_iff_exists'.mp hi
      cases hskip : c.skips url with
      | false => exact ⟨_, .leave hi hskip⟩
      | true => exact ⟨_, .skip hi hskip⟩

/-! ## What is fetched -/

theorem done_of_reachable (h : Kept c site s) {url : Url} (hurl : Reachable c site s.answered url) :
    url = c.start ∨ url ∈ s.done ∨ c.immutable url = true := by
  induction hurl with
  | start => exact .inl rfl
  | @link url url' _ hanswered hlink hscope _ =>
      by_cases hq : c.queues url' = true
      · exact .inr (.inl (h.read url hanswered url' hlink hq))
      · refine .inr (.inr ?_)
        rw [Crawler.queues, hscope, Bool.true_and, Bool.or_eq_true, not_or,
          Bool.not_eq_true', Bool.not_eq_false] at hq
        exact hq.2

theorem taken_of_finished (h : Kept c site s) (hzero : s.unfinished = 0) :
    s.taken = c.start :: s.done := by
  have hcount := h.unfinished
  have hqueue : s.queue = [] := List.length_eq_zero_iff.mp (by omega)
  have horder := h.order
  rwa [hqueue, List.append_nil] at horder

theorem fetched_of_reachable (h : Kept c site s) (hzero : s.unfinished = 0) {url : Url}
    (hurl : Reachable c site s.answered url) : url ∈ s.fetched c ∨ c.immutable url = true := by
  by_cases hskip : c.skips url = true
  · rw [Crawler.skips, Bool.and_eq_true] at hskip
    exact .inr hskip.2
  · have hfetched (htaken : url ∈ s.taken) : url ∈ s.fetched c :=
      List.mem_filter.mpr ⟨htaken, by simp [hskip]⟩
    rw [taken_of_finished h hzero] at hfetched
    rcases done_of_reachable h hurl with rfl | hdone | himmutable
    · exact .inl (hfetched (List.mem_cons_self ..))
    · exact .inl (hfetched (List.mem_cons_of_mem _ hdone))
    · exact .inr himmutable

theorem count_fetched_le (h : Kept c site s) {url : Url} (hne : url ≠ c.start) :
    (s.fetched c).count url ≤ 1 := by
  have hsub : (s.fetched c).Sublist (c.start :: s.done) := by
    rw [← h.order]
    exact List.filter_sublist.trans (List.sublist_append_left _ _)
  refine (hsub.count_le url).trans ?_
  rw [List.count_cons_of_ne (Ne.symm hne)]
  exact List.nodup_iff_count_le_one.mp h.nodup url

end Steps

/-! ## Two small sites -/

section Examples

def debianBase : Url :=
  ⟨"https://cloudfront.debian.net/debian/", "cloudfront.debian.net", "/debian/"⟩

def debianPool : Url :=
  ⟨"https://cloudfront.debian.net/debian/pool/", "cloudfront.debian.net", "/debian/pool/"⟩

/-- Two pages that link to one another, and to themselves. -/
def cyclicSite (url : Url) : List Url :=
  if url = debianBase ∨ url = debianPool then [debianBase, debianPool, debianPool] else []

/-- A package of the base page, which is in the bucket already. -/
def debianPackage : Url :=
  ⟨"https://cloudfront.debian.net/debian/a_1.0.deb", "cloudfront.debian.net", "/debian/a_1.0.deb"⟩

def packageSite (url : Url) : List Url := if url = debianBase then [debianPackage] else []

end Examples

end Mirrors
