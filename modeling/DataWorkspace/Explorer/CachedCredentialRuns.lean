import Mathlib
import DataWorkspace.Explorer.CachedCredentials

/-!
# Which credentials are cached

The cache is a versioned cache.  What a request returns was made from what the user could read when
some request asked for it.  `after_invalidation` and `after_clearing` say when this was after a
change, and `tables_since` what it means for the tables.
-/

namespace Explorer

open Py Datasets Async
open Core (Credentials Entry sourceTableEntry referenceDatasetEntry user_email_domain)

namespace CachedCredentials

/-! ## What credentials are made from -/

def TablesRead (es : List (Event Ans)) (user : User) (entries : List Entry) : Prop :=
  ∃ domain rows references, user_email_domain user = some domain ∧
    ⟨.query (.source_tables user domain), rows⟩ ∈ es ∧
      ⟨.query (.reference_datasets user), references⟩ ∈ es ∧
        entries = rows.map sourceTableEntry ++ references.map referenceDatasetEntry

/-- Credentials were made, for the tables that the user of an `sso_id` could read. -/
def Made (sso_id : Str) (es : List (Event Ans)) (creds : List Credentials) : Prop :=
  ∃ (user : Profile) (entries : List Entry) (suffix db_user : Str) (force : List Database),
    user.sso_id = sso_id ∧ TablesRead es user.user entries ∧
      ⟨.query (.create suffix entries db_user user.user force), some creds⟩ ∈ es

section Mono

variable {es es' : List (Event Ans)} (h : ∀ e ∈ es, e ∈ es')
include h

theorem TablesRead.mono {user : User} {entries : List Entry} (ht : TablesRead es user entries) :
    TablesRead es' user entries := by
  obtain ⟨domain, rows, references, hdomain, hrows, hrefs, rfl⟩ := ht
  exact ⟨domain, rows, references, hdomain, h _ hrows, h _ hrefs, rfl⟩

theorem Made.mono {sso_id : Str} {creds : List Credentials} (hm : Made sso_id es creds) :
    Made sso_id es' creds := by
  obtain ⟨user, entries, suffix, db_user, force, hid, ht, hc⟩ := hm
  exact ⟨user, entries, suffix, db_user, force, hid, ht.mono h, h _ hc⟩

end Mono

theorem TablesRead.made {es : List (Event Ans)} {user : Profile} {entries : List Entry}
    (ht : TablesRead es user.user entries) (suffix db_user : Str) (force : List Database)
    (creds : List Credentials) : Made user.sso_id
      (⟨.query (.create suffix entries db_user user.user force), some creds⟩ :: es) creds :=
  ⟨user, entries, suffix, db_user, force, rfl, ht.mono fun _ he => .tail _ he, .head _⟩

def caching : Versioned Ans Version Str (List Credentials) where
  reads
    | ⟨.get_version, v⟩ => some v
    | _ => none
  finds
    | ⟨.get v sso_id, some creds⟩ => some (v, sso_id, creds)
    | _ => none
  puts
    | .set v sso_id creds => some (v, sso_id, creds)
    | _ => none
  drops
    | .delete v sso_id => some (v, sso_id)
    | _ => none
  made := Made

/-! ## The store -/

section Act

variable {s s' : Store}

theorem version_set_nx {a : Ans .set_nx} (h : act .set_nx s a s') :
    s'.version = if (s.get .version).isSome then s.version else (1 : Nat) := by
  rw [show s' = _ from h]
  split
  · rfl
  · rw [Store.version, Store.get_set_self]
    rfl

theorem version_incr {a : Ans .incr} (h : act .incr s a s') :
    (a = false ∧ s' = s) ∨ ∃ n : Nat, a = true ∧ s.version = n ∧
      s' = s.set .version (some (.number (n + 1))) := by
  cases hv : s.version with
  | none =>
      simp only [act, hv] at h
      exact .inl h
  | some n =>
      simp only [act, hv] at h
      exact .inr ⟨n, h.1, rfl, h.2⟩

theorem version_set_number (s : Store) (n : Nat) :
    (s.set .version (some (.number n))).version = (n : Version) := by
  rw [Store.version, Store.get_set_self]
  rfl

theorem entry_set_of_ne {s : Store} {v w : Version} {sso_id sso_id' : Str} {x : Option Value}
    (h : ¬ (w = v ∧ sso_id' = sso_id)) :
    (s.set (.entry v sso_id) x).entry w sso_id' = s.entry w sso_id' := by
  rw [Store.entry, Store.get_set_of_ne (by simpa using h), Store.entry]

theorem entry_set (s : Store) (v w : Version) (sso_id sso_id' : Str) (creds : List Credentials) :
    (s.set (.entry v sso_id) (some (.credentials creds))).entry w sso_id' =
      if w = v ∧ sso_id' = sso_id then some creds else s.entry w sso_id' := by
  split_ifs with h
  · rw [h.1, h.2, Store.entry, Store.get_set_self]
  · exact entry_set_of_ne h

theorem entry_delete (s : Store) (v w : Version) (sso_id sso_id' : Str) :
    (s.set (.entry v sso_id) none).entry w sso_id' =
      if w = v ∧ sso_id' = sso_id then none else s.entry w sso_id' := by
  split_ifs with h
  · rw [h.1, h.2, Store.entry, Store.get_set_self]
  · exact entry_set_of_ne h

theorem version_of_act {o : Op} {a : Ans o} (h : act o s a s') :
    s'.get .version = s.get .version ∨ o = .set_nx ∨ o = .incr := by
  cases o with
  | set_nx => exact .inr (.inl rfl)
  | incr => exact .inr (.inr rfl)
  | set v sso_id creds => exact .inl (by rw [show s' = _ from h, Store.get_set_of_ne (by simp)])
  | delete v sso_id => exact .inl (by rw [show s' = _ from h, Store.get_set_of_ne (by simp)])
  | expire v sso_id => exact .inl (by rw [show s' = _ from h, Store.get_set_of_ne (by simp)])
  | commit db => exact .inl (by rw [show s' = _ from h]; rfl)
  | get_version => exact .inl (by rw [h.2])
  | get v sso_id => exact .inl (by rw [h.2])
  | query q => exact .inl (by rw [h.2])

theorem version_le_of_act {o : Op} {a : Ans o} (h : act o s a s') : s.version ≤ s'.version := by
  rcases version_of_act h with hsame | rfl | rfl
  · rw [Store.version, Store.version, hsame]
  · rw [version_set_nx h]
    split
    · exact le_rfl
    · next hnone =>
        have hbot : s.version = ⊥ := by
          rw [Store.version]
          cases hget : s.get .version with
          | none => rfl
          | some x => simp [hget] at hnone
        rw [hbot]
        exact bot_le
  · rcases version_incr h with ⟨-, rfl⟩ | ⟨n, -, hn, rfl⟩
    · exact le_rfl
    · rw [hn, version_set_number]
      exact WithBot.coe_le_coe.mpr (Nat.le_succ n)

theorem entry_of_act {o : Op} {a : Ans o} {v : Version} {sso_id : Str} {x : List Credentials}
    (h : act o s a s') (hx : s'.entry v sso_id = some x) :
    s.entry v sso_id = some x ∨ o = .set v sso_id x := by
  have hversion (n : Nat) : (s.set .version (some (.number n))).entry v sso_id =
      s.entry v sso_id := by
    rw [Store.entry, Store.get_set_of_ne (by simp), Store.entry]
  have hgone {w : Version} {id : Str} (hx : (s.set (.entry w id) none).entry v sso_id = some x) :
      s.entry v sso_id = some x := by
    rw [entry_delete] at hx
    split at hx
    · cases hx
    · exact hx
  cases o with
  | set_nx =>
      rw [show s' = _ from h] at hx
      split at hx
      · exact .inl hx
      · exact .inl (hversion 1 ▸ hx)
  | incr =>
      rcases version_incr h with ⟨-, rfl⟩ | ⟨n, -, -, rfl⟩
      · exact .inl hx
      · exact .inl (hversion (n + 1) ▸ hx)
  | set w id creds =>
      rw [show s' = _ from h, entry_set] at hx
      split at hx
      next hkey =>
        obtain ⟨rfl, rfl⟩ := hkey
        exact .inr (by rw [Option.some.inj hx])
      next => exact .inl hx
  | delete w id =>
      rw [show s' = _ from h] at hx
      exact .inl (hgone hx)
  | expire w id =>
      rw [show s' = _ from h] at hx
      exact .inl (hgone hx)
  | commit db =>
      rw [show s' = _ from h] at hx
      exact .inl hx
  | get_version => exact .inl (h.2 ▸ hx)
  | get _ _ => exact .inl (h.2 ▸ hx)
  | query q => exact .inl (h.2 ▸ hx)

end Act

section Tasks

variable {settings : Settings} {ι : Type} {job : ι → Job}

theorem keeps : caching.Keeps (tasks settings job) Store.version Store.entry where
  rises h := version_le_of_act h
  reads {i o s a s' v} h hr := by
    cases o with
    | get_version =>
        cases hr
        rw [h.2]
        exact h.1
    | _ => cases hr
  finds {i o s a s' v sso_id x} h hf := by
    cases o with
    | get w id =>
        cases a with
        | none => cases hf
        | some creds =>
            cases hf
            exact h.1.symm
    | _ => cases hf
  stays {i o s a s' v sso_id x} h hx := by
    rcases entry_of_act h hx with hold | rfl
    · exact .inl hold
    · exact .inr rfl
  drops {i o s a s' v sso_id} h hd := by
    cases o with
    | delete w id =>
        cases hd
        rw [show s' = _ from h, entry_delete, if_pos ⟨rfl, rfl⟩]
    | _ => cases hd

/-! ## Programs -/

/-- What the cache requires of a task that asks for the credentials of a user. -/
abbrev careful (sso_id : Option Str) : Interp Ans (Reader Ans Version) :=
  summing caching.follow (caching.Careful sso_id)

/-- The version was set before it was read, if there was none. -/
def VersionSet (h : Reader Ans Version) : Prop := ⟨.set_nx, ()⟩ ∈ h.before

/-- The task has read the version, and has seen some events since. -/
structure Seen (v : Version) (F : List (Event Ans) → Prop) (h : Reader Ans Version) : Prop where
  version : h.version = some v
  set : VersionSet h
  seen : F h.events

section Programs

variable {sso_id : Option Str} {α : Type} {h : Reader Ans Version}
  {Q : Except Raised α → Reader Ans Version → Prop}

/-- An operation that changes no entry, or lets it time out, needs no care. -/
theorem careful_of_none {o : Op} (hputs : caching.puts o = none) (hdrops : caching.drops o = none) :
    caching.Careful sso_id o h where
  puts v k x hp := by
    rw [hputs] at hp
    cases hp
  drops v k hd := by
    rw [hdrops] at hd
    cases hd

theorem wp_await {o : Op} {f : Ans o → M α} (hputs : caching.puts o = none)
    (hdrops : caching.drops o = none)
    (hf : ∀ a, wp (careful sso_id) (f a) Q (caching.follow h ⟨o, a⟩)) :
    wp (careful sso_id) (await o >>= f) Q h :=
  wp_summing.mpr ⟨careful_of_none hputs hdrops, hf⟩

theorem wp_query {q : Query} {f : q.Answer → M α}
    (hf : ∀ a, wp (careful sso_id) (f a) Q ⟨h.version, h.before, ⟨.query q, a⟩ :: h.events⟩) :
    wp (careful sso_id) (await (.query q) >>= f) Q h := wp_await rfl rfl hf

theorem wp_credentials_version :
    wp (careful sso_id) credentials_version (onOk fun v => Seen v fun es => es = []) h := by
  refine wp_await rfl rfl fun _ => wp_await rfl rfl fun v => ?_
  exact ⟨rfl, List.mem_append_left _ List.mem_cons_self, rfl⟩

variable {v : Version} {es : List (Event Ans)}

theorem wp_source_tables_for_user (user : User)
    (hh : Seen v (fun es' => ∀ e ∈ es, e ∈ es') h) :
    wp (careful sso_id) (source_tables_for_user user)
      (onOk fun entries => Seen v fun es' => TablesRead es' user entries) h := by
  rw [source_tables_for_user]
  split
  next => trivial
  next domain hdomain =>
    refine wp_query fun rows => wp_query fun references => ⟨hh.version, hh.set, ?_⟩
    exact ⟨domain, rows, references, hdomain, List.mem_cons_of_mem _ List.mem_cons_self,
      List.mem_cons_self, rfl⟩

theorem wp_still_valid {alias' : Str} {cached : Option (List Credentials)}
    (hh : Seen v (fun es' => ∀ e ∈ es, e ∈ es') h) :
    wp (careful sso_id) (still_valid alias' cached)
      (onOk fun r => Seen v fun es' => (∀ e ∈ es, e ∈ es') ∧ ∀ creds, r = some creds →
        cached = some creds) h := by
  rw [still_valid.eq_def]
  split
  next c creds =>
    refine (wp_bind _ _ _ _).mpr (wp_ofOption (fun _ => trivial) fun connection _ => ?_)
    refine wp_query fun connects => ⟨hh.version, hh.set, fun e he =>
      List.mem_cons_of_mem _ (hh.seen e he), fun creds' hr => ?_⟩
    cases connects with
    | true => rw [← Option.some.inj hr]
    | false => cases hr
  next => exact ⟨hh.version, hh.set, hh.seen, fun creds hr => by cases hr⟩

/-- A request comes to credentials that were cached, or that it has made. -/
def Comes (sso_id : Str) (creds : List Credentials) (h : Reader Ans Version) : Prop :=
  VersionSet h ∧ caching.Gives sso_id creds h

theorem wp_user_credentials (settings : Settings) (user : Profile) (alias' : Str) :
    wp (careful (some user.sso_id)) (user_credentials settings user alias')
      (onOk (Comes user.sso_id)) h := by
  refine wp_bind_onOk wp_credentials_version fun v h hv => ?_
  refine wp_await rfl rfl fun cached => ?_
  have hget : Seen v (fun es' => ∀ e ∈ [(⟨.get v user.sso_id, cached⟩ : Event Ans)], e ∈ es')
      (caching.follow h ⟨.get v user.sso_id, cached⟩) :=
    ⟨hv.version, hv.set, fun e he => List.mem_cons.mpr (.inl (List.mem_singleton.mp he))⟩
  refine wp_bind_onOk (wp_still_valid hget) fun valid h hvalid => ?_
  cases valid with
  | some creds =>
      refine ⟨hvalid.set, v, hvalid.version, .inr ⟨_, hvalid.seen.1 _ List.mem_cons_self, ?_⟩⟩
      rw [hvalid.seen.2 creds rfl]
      rfl
  | none =>
      refine wp_bind_onOk (wp_source_tables_for_user user.user
        ⟨hvalid.version, hvalid.set, hvalid.seen.1⟩) fun entries h ht => ?_
      refine wp_query fun db_user => wp_query fun force => wp_query fun creds => ?_
      refine (wp_bind _ _ _ _).mpr (wp_ofOption (fun _ => trivial) ?_)
      rintro creds rfl
      have hread : TablesRead (⟨.query (.databases settings.connections), force⟩ ::
          ⟨.query (.postgres_user user.user.email "explorer"), db_user⟩ :: h.events) user.user
            entries := ht.seen.mono fun e he => .tail _ (.tail _ he)
      refine wp_summing.mpr ⟨⟨fun v' k x hp => ?_, fun _ _ hd => (by cases hd)⟩, fun _ => ?_⟩
      · cases hp
        exact ⟨ht.version, rfl, hread.made _ _ _ _⟩
      · exact ⟨ht.set, v, ht.version, .inl ((hread.made _ _ _ _).mono fun e he => .tail _ he)⟩

end Programs

theorem wp_withLock {sso_id : Str} {name : Str} {body : M (List Credentials)}
    {h : Reader Ans Version}
    (hbody : ∀ h, wp (careful (some sso_id)) body (onOk (Comes sso_id)) h) :
    wp (careful (some sso_id)) (withLock name body) (onOk (Comes sso_id)) h := by
  refine wp_query fun acquired => ?_
  cases acquired with
  | false => trivial
  | true =>
      refine wp_bind_onOk (wp_onOk_attempt (hbody _)) fun r h hr => wp_query fun released => ?_
      cases released with
      | false => trivial
      | true =>
          cases r with
          | error e => trivial
          | ok creds =>
              obtain ⟨hset, v, hv, hm | ⟨e, he, hf⟩⟩ := hr
              · exact ⟨hset, v, hv, .inl (hm.mono fun e he => List.mem_cons_of_mem _ he)⟩
              · exact ⟨hset, v, hv, .inr ⟨e, List.mem_cons_of_mem _ he, hf⟩⟩

theorem wp_request (user : Profile) (alias' : Option Str) :
    wp (careful (some user.sso_id)) ((Job.request user alias').prog settings)
      (onOk fun result h => ∃ creds, (∃ c ∈ creds, result = .settings c) ∧
        Comes user.sso_id creds h) {} := by
  refine wp_bind_onOk (F := fun c h => ∃ creds, c ∈ creds ∧ Comes user.sso_id creds h) ?_
    fun c h ⟨creds, hc, hcomes⟩ => ⟨creds, ⟨c, hc, rfl⟩, hcomes⟩
  rw [get_user_explorer_connection_settings]
  split
  next => trivial
  next =>
    refine wp_bind_onOk (wp_withLock fun h => wp_user_credentials settings user _)
      fun creds h hcomes => wp_ofOption (fun _ => trivial) fun c hc => ⟨creds, ?_, hcomes⟩
    exact List.mem_reverse.mp (List.mem_of_find?_eq_some hc)

/-- What a task looks for in the cache. -/
def Job.sso_id : Job → Option Str
  | .request user _ => some user.sso_id
  | _ => none

theorem fair (job : Job) : caching.Fair job.sso_id (job.prog settings) := by
  cases job with
  | request user alias' => exact Meets.of_wp (wp_request user alias')
  | invalidate =>
      refine Meets.bind (wp_await rfl rfl fun v => ?_) fun _ _ => trivial
      split
      next => exact wp_await rfl rfl fun found => by cases found <;> trivial
      next => trivial
  | clear users =>
      refine Meets.bind (wp_forM (F := fun _ => True) (fun user _ h _ => ?_) trivial)
        fun _ _ => trivial
      refine wp_bind_of wp_credentials_version (fun v h hv => ?_) fun _ _ _ => trivial
      refine wp_summing.mpr ⟨⟨fun _ _ _ hp => (by cases hp), fun v' _ hd => ?_⟩, fun _ => trivial⟩
      cases hd
      exact hv.version
  | commit db => exact wp_await rfl rfl fun _ => trivial
  | expire v sso_id => exact wp_await rfl rfl fun _ => trivial

/-! ## Versions -/

/-- The cache starts empty. -/
def Store.start (db : Db) : Store := ⟨fun _ => none, db⟩

section Runs

variable [DecidableEq ι] {ok : Config Ans Raised Result ι Store → ι → Op → Prop} {db : Db}
  {c₀ c₁ c : Config Ans Raised Result ι Store}

theorem number_of_version (h : (tasks settings job).Run ok (Store.start db) c) {x : Value}
    (hx : c.store.get .version = some x) : ∃ n, x = .number (n + 1) := by
  refine h.invariant (I := fun c : Config Ans Raised Result ι Store => ∀ x,
    c.store.get .version = some x → ∃ n, x = .number (n + 1)) (fun x hx => by cases hx) ?_ x hx
  intro c i o k a s _ _ _ ha ih x hx
  rw [Config.go_store] at hx
  rcases version_of_act ha with hsame | rfl | rfl
  · exact ih x (hsame.symm.trans hx)
  · rw [show s = _ from ha] at hx
    split at hx
    · exact ih x hx
    · rw [Store.get_set_self] at hx
      exact ⟨0, (Option.some.inj hx).symm⟩
  · rcases version_incr ha with ⟨-, rfl⟩ | ⟨n, -, -, rfl⟩
    · exact ih x hx
    · rw [Store.get_set_self] at hx
      exact ⟨n, (Option.some.inj hx).symm⟩

theorem version_ne_zero (h : (tasks settings job).Run ok (Store.start db) c) :
    c.store.version ≠ ((0 : Nat) : Version) := by
  rw [Store.version]
  cases hx : c.store.get .version with
  | none => exact WithBot.bot_ne_coe
  | some x =>
      obtain ⟨n, rfl⟩ := number_of_version h hx
      exact fun h => absurd (WithBot.coe_inj.mp h) (Nat.succ_ne_zero n)

theorem version_ne_bot (h : (tasks settings job).Run ok (Store.start db) c) {i : ι}
    (hi : ⟨.set_nx, ()⟩ ∈ c.traces i) : c.store.version ≠ ⊥ := by
  refine h.invariant (I := fun c : Config Ans Raised Result ι Store =>
    ⟨.set_nx, ()⟩ ∈ c.traces i → c.store.version ≠ ⊥) (fun hi => by cases hi) ?_ hi
  intro c j o k a s hrun _ _ ha ih hi
  rcases Config.mem_traces_of_go hi with hold | ⟨-, he⟩
  · intro hs
    exact ih hold (le_bot_iff.mp (hs ▸ version_le_of_act ha))
  · cases he
    rw [Config.go_store, version_set_nx (a := ()) ha]
    cases hx : c.store.get .version with
    | none => exact WithBot.coe_ne_bot
    | some x =>
        obtain ⟨n, rfl⟩ := number_of_version hrun hx
        have hv : c.store.version = ((n + 1 : Nat) : Version) := by
          rw [Store.version, hx]
          rfl
        rw [if_pos (Option.isSome_some ..), hv]
        exact WithBot.coe_ne_bot

theorem read_ne_bot (h : (tasks settings job).Run ok (Store.start db) c) {i : ι} {v : Version}
    (hset : VersionSet (caching.reader c i)) (hv : (caching.reader c i).version = some v) :
    v ≠ ⊥ := by
  refine h.invariant (I := fun c : Config Ans Raised Result ι Store => ∀ v,
    VersionSet (caching.reader c i) → (caching.reader c i).version = some v → v ≠ ⊥)
    (fun v hset => by cases hset) ?_ v hset hv
  intro c j o k a s hrun hj hok ha ih v hset hv
  have hkeeps : caching.Keeps (tasks settings job) Store.version Store.entry := keeps
  rcases Versioned.version_go hv with ⟨rfl, hreads, -⟩ | ⟨hold, hbefore, -⟩
  · rw [hkeeps.reads ha hreads]
    exact version_ne_bot (hrun.step hj hok ha) (Versioned.mem_traces_of_reader (.inl hset))
  · rw [VersionSet, hbefore] at hset
    exact ih v hset hold

/-! ## After a change -/

/-- The version was raised, or there was none. -/
def Raises (e : Event Ans) : Prop :=
  e = ⟨.incr, true⟩ ∨ e = ⟨.get_version, (⊥ : Version)⟩ ∨ e = ⟨.get_version, ((0 : Nat) : Version)⟩

/-- The entry of a user was dropped. -/
def Drops (sso_id : Str) (e : Event Ans) : Prop := ∃ v, e = ⟨.delete v sso_id, ()⟩

theorem surely_invalidate : Surely Raises (Job.invalidate.prog settings) := by
  refine .bind_left (.next fun version => ?_)
  match version with
  | none => exact .inl (.inr (.inl rfl))
  | some 0 => exact .inl (.inr (.inr rfl))
  | some (_ + 1) =>
      refine .inr (.next fun found => ?_)
      cases found with
      | true => exact .inl (.inl rfl)
      | false => exact .inr trivial

theorem surely_clear {users : List Profile} {user : Profile} (hu : user ∈ users) :
    Surely (Drops user.sso_id) ((Job.clear users).prog settings) :=
  .bind_left (.forM ⟨user, hu, .bind_right fun v => .first fun _ => ⟨v, rfl⟩⟩)

/-- The credentials were made from what was seen after `c₀`. -/
def FreshSince (settings : Settings) (job : ι → Job)
    (ok : Config Ans Raised Result ι Store → ι → Op → Prop)
    (c₀ c : Config Ans Raised Result ι Store) (sso_id : Str) (cred : Credentials) : Prop :=
  ∃ creds, cred ∈ creds ∧ caching.Fresh (tasks settings job) ok c₀ c sso_id creds

omit [DecidableEq ι] in
theorem reader_eq_none {i : ι} (h : c.traces i = []) : (caching.reader c i).version = none := by
  rw [Versioned.reader, Config.summary, h]
  rfl

theorem entry_start (v : Version) (sso_id : Str) (creds : List Credentials)
    (h : (Store.start db).entry v sso_id = some creds) : v ≤ (Store.start db).version := by
  cases h

omit [DecidableEq ι] in
theorem fair_tasks (i : ι) : caching.Fair (job i).sso_id ((tasks settings job).prog i) :=
  fair (job i)

theorem comes_of_settings {i : ι} {user : Profile} {alias' : Option Str} {cred : Credentials}
    (h : (tasks settings job).Run ok (Store.start db) c) (hi : job i = .request user alias')
    (hresult : (c.tasks i).value? = some (.settings cred)) :
    ∃ creds, cred ∈ creds ∧ Comes user.sso_id creds (caching.reader c i) := by
  have hw : wp (careful (some user.sso_id)) ((tasks settings job).prog i)
      (onOk fun result h => ∃ creds, (∃ c ∈ creds, result = .settings c) ∧
        Comes user.sso_id creds h) {} := by
    change wp _ ((job i).prog settings) _ _
    rw [hi]
    exact wp_request user alias'
  obtain ⟨creds, ⟨c, hc, heq⟩, hcomes⟩ := h.post (r := .ok _) (Prog.eq_pure_of_value? hresult) hw
  cases heq
  exact ⟨creds, hc, hcomes⟩

/-- **After the version was raised, no request that starts gets credentials from before.** -/
theorem after_invalidation (h₀ : (tasks settings job).Run ok (Store.start db) c₀)
    (h₁ : (tasks settings job).Later ok c₀ c₁) (h : (tasks settings job).Later ok c₁ c) {i j : ι}
    (hj : job j = .invalidate) (hnew : c₀.traces j = [])
    (hdone : (c₁.tasks j).value? = some .done) {user : Profile} {alias' : Option Str}
    (hi : job i = .request user alias') (hstarts : c₁.traces i = []) {cred : Credentials}
    (hresult : (c.tasks i).value? = some (.settings cred)) :
    FreshSince settings job ok c₀ c user.sso_id cred := by
  have hrun₁ := h₀.later h₁
  obtain ⟨creds, hc, hset, hgives⟩ := comes_of_settings (hrun₁.later h) hi hresult
  refine ⟨creds, hc, ?_⟩
  have hsurely : Surely Raises ((tasks settings job).prog j) := by
    change Surely _ ((job j).prog settings)
    rw [hj]
    exact surely_invalidate
  obtain ⟨e, he, hraises⟩ := hrun₁.exists_of_surely hdone hsurely
  obtain ⟨c₂, c₃, _, h₂, hs, ha, h₃⟩ := h₁.since hnew he
  have hle : c₀.store.version ≤ c₂.store.version := Versioned.current_le keeps h₂
  -- Where there was no version, every version that a request reads is new.
  have hbot (hc₂ : c₂.store.version = ⊥) :
      caching.Fresh (tasks settings job) ok c₀ c user.sso_id creds := by
    refine Versioned.fresh_of_gives keeps fair_tasks entry_start h₀ (h₁.trans h) hgives
      fun v hv => ?_
    rw [show c₀.store.version = ⊥ from le_bot_iff.mp (hle.trans hc₂.le)]
    exact bot_lt_iff_ne_bot.mpr (read_ne_bot (hrun₁.later h) hset hv)
  rcases hraises with rfl | rfl | rfl
  · rcases version_incr ha with ⟨hfalse, -⟩ | ⟨n, -, hn, hn'⟩
    · cases hfalse
    · refine Versioned.fresh_of_raised keeps fair_tasks entry_start h₀ h₁ h ?_
        (reader_eq_none hstarts) hgives
      calc c₀.store.version ≤ (n : Version) := hn ▸ hle
        _ < ((n + 1 : Nat) : Version) := WithBot.coe_lt_coe.mpr (Nat.lt_succ_self n)
        _ = c₃.store.version := by rw [hn', version_set_number]
        _ ≤ c₁.store.version := Versioned.current_le keeps h₃
  · exact hbot ha.1.symm
  · exact absurd ha.1.symm (version_ne_zero (h₀.later h₂))

/-- **After the entry of a user was dropped, no request of the user that starts gets credentials
from before, if none was under way.** -/
theorem after_clearing (h₀ : (tasks settings job).Run ok (Store.start db) c₀)
    (h₁ : (tasks settings job).Later ok c₀ c₁) (h : (tasks settings job).Later ok c₁ c) {i j : ι}
    {users : List Profile} (hj : job j = .clear users) {user : Profile} (hu : user ∈ users)
    (hnew : c₀.traces j = []) (hdone : (c₁.tasks j).value? = some .done)
    (hquiet : ∀ i', (job i').sso_id = some user.sso_id →
      c₀.traces i' = [] ∨ (c₀.tasks i').next = none) {alias' : Option Str}
    (hi : job i = .request user alias') (hstarts : c₁.traces i = []) {cred : Credentials}
    (hresult : (c.tasks i).value? = some (.settings cred)) :
    FreshSince settings job ok c₀ c user.sso_id cred := by
  have hrun₁ := h₀.later h₁
  obtain ⟨creds, hc, -, hgives⟩ := comes_of_settings (hrun₁.later h) hi hresult
  have hsurely : Surely (Drops user.sso_id) ((tasks settings job).prog j) := by
    change Surely _ ((job j).prog settings)
    rw [hj]
    exact surely_clear hu
  obtain ⟨_, he, v, rfl⟩ := hrun₁.exists_of_surely hdone hsurely
  exact ⟨creds, hc, Versioned.fresh_of_dropped keeps fair_tasks entry_start h₀ h₁ h
    (fun i' hi' => (hquiet i' hi').imp_left reader_eq_none) hnew he (v := v) rfl
      (reader_eq_none hstarts) hgives⟩

theorem tables_since {c' : Config Ans Raised Result ι Store} {sso_id : Str} {cred : Credentials}
    (h : FreshSince settings job ok c₀ c' sso_id cred) :
    ∃ (user : Profile) (creds : List Credentials) (entries : List Entry) (suffix db_user : Str)
      (force : List Database), user.sso_id = sso_id ∧ cred ∈ creds ∧
      Since (tasks settings job) ok c₀ c'
        ⟨.query (.create suffix entries db_user user.user force), some creds⟩ ∧
      ∀ e ∈ entries, ∃ c listed, (tasks settings job).Later ok c₀ c ∧
        (tasks settings job).Later ok c c' ∧
        Core.source_tables_for_user user.user c.store.db.catalogue listed ∧ e ∈ listed := by
  obtain ⟨creds, hc, es, hmade, hes⟩ := h
  obtain ⟨user, entries, suffix, db_user, force, hid, ht, hcreate⟩ := hmade
  obtain ⟨domain, rows, references, hdomain, hrows, hrefs, rfl⟩ := ht
  refine ⟨user, creds, _, suffix, db_user, force, hid, hc, hes _ hcreate, fun e he => ?_⟩
  rcases List.mem_append.mp he with he | he
  · obtain ⟨c₁, c₂, _, h₁, hs, ha, h₂⟩ := hes _ hrows
    exact ⟨c₁, _, h₁, h₂.head hs, ⟨domain, rows, _, hdomain, ha.1, .refl _, rfl⟩,
      List.mem_append_left _ he⟩
  · obtain ⟨c₁, c₂, _, h₁, hs, ha, h₂⟩ := hes _ hrefs
    exact ⟨c₁, _, h₁, h₂.head hs, ⟨domain, _, references, hdomain, .refl _, ha.1, rfl⟩,
      List.mem_append_right _ he⟩

end Runs

end Tasks

/-! ## A run -/

/-- Answers that are possible. -/
def answer : (o : Op) → Store → Ans o × Store
  | .set_nx, s => ((), if (s.get .version).isSome then s else s.set .version (some (.number 1)))
  | .get_version, s => (s.version, s)
  | .incr, s =>
      match s.version with
      | some n => (true, s.set .version (some (.number (n + 1))))
      | none => (false, s)
  | .get version sso_id, s => (s.entry version sso_id, s)
  | .set version sso_id creds, s => ((), s.set (.entry version sso_id) (some (.credentials creds)))
  | .delete version sso_id, s => ((), s.set (.entry version sso_id) none)
  | .expire version sso_id, s => ((), s.set (.entry version sso_id) none)
  | .commit db, s => ((), { s with db := db })
  | .query (.acquire _), s => (true, s)
  | .query (.release _), s => (true, s)
  | .query (.connect _), s => (true, s)
  | .query (.source_tables user domain), s =>
      (Core.permitted_source_tables user domain s.db.catalogue, s)
  | .query (.reference_datasets user), s =>
      (Core.external_reference_datasets user s.db.catalogue, s)
  | .query (.postgres_user _ _), s => ("user_ann_k3b9x", s)
  | .query (.databases memorable_names), s =>
      (s.db.databases.filter fun d => d.memorable_name ∈ memorable_names, s)
  | .query (.create suffix _ db_user _ force), s =>
      (some (force.map fun d => ⟨d.memorable_name, d.id, "data", "host", "5432", db_user,
        Core.permanentRole suffix, "xYz"⟩), s)

theorem act_answer (o : Op) (s : Store) : act o s (answer o s).1 (answer o s).2 := by
  cases o with
  | incr =>
      rw [act.eq_def, answer.eq_def]
      dsimp only
      cases s.version with
      | none => exact ⟨rfl, rfl⟩
      | some n => exact ⟨rfl, rfl⟩
  | query q => cases q <;> first | exact ⟨trivial, rfl⟩ | exact ⟨.refl _, rfl⟩
  | get_version => exact ⟨rfl, rfl⟩
  | get _ _ => exact ⟨rfl, rfl⟩
  | _ => rfl

def exampleSettings : Settings where
  EXPLORER_DEFAULT_CONNECTION := "datasets"
  connections := ["datasets"]
  db_role_schema_suffix_for_user user := user.sso_id

def exampleUser : Profile := ⟨Core.aUser, "7f93c2c7"⟩

/-- A user with two tables, of which one is taken away. -/
def exampleDb : Db := ⟨Core.twoDatabases, [⟨"1", "datasets"⟩]⟩

/-- A request, a change, and a request after something was done about the cache. -/
def exampleJob (j : Job) : Fin 4 → Job
  | 0 => .request exampleUser none
  | 1 => .commit { exampleDb with catalogue := { Core.twoDatabases with source_tables := [] } }
  | 2 => j
  | 3 => .request exampleUser none

abbrev ExampleConfig := Config Ans Raised Result (Fin 4) Store

/-- The tasks go on in this order. -/
def ExampleConfig.go_on (c : ExampleConfig) (schedule : List (Fin 4)) : ExampleConfig :=
  c.play (fun _ o s => some (answer o s)) Always schedule

/-- The first request and the change are over. -/
def exampleChanged (j : Job) : ExampleConfig :=
  ExampleConfig.go_on ((tasks exampleSettings (exampleJob j)).start (Store.start exampleDb))
    (List.replicate 11 0 ++ [1])

/-- What the requests are answered. -/
def exampleCredentials : Credentials :=
  ⟨"datasets", "1", "data", "host", "5432", "user_ann_k3b9x", "_user_7f93c2c7", "xYz"⟩

theorem later_go_on (j : Job) (c : ExampleConfig) (schedule : List (Fin 4)) :
    (tasks exampleSettings (exampleJob j)).Later Always c (c.go_on schedule) :=
  Config.later_play (fun _ o s a s' h => by
    obtain ⟨rfl, rfl⟩ := Prod.mk.inj (Option.some.inj h)
    exact act_answer o s) c schedule

theorem run_exampleChanged (j : Job) : (tasks exampleSettings (exampleJob j)).Run Always
    (Store.start exampleDb) (exampleChanged j) := later_go_on j _ _

theorem exampleRun_after_invalidation :
    FreshSince exampleSettings (exampleJob .invalidate) Always (exampleChanged .invalidate)
      (((exampleChanged .invalidate).go_on [2, 2]).go_on (List.replicate 11 3)) "7f93c2c7"
      exampleCredentials :=
  after_invalidation (run_exampleChanged _) (later_go_on _ _ [2, 2]) (later_go_on _ _ _)
    (i := 3) (j := 2) rfl (List.isEmpty_iff.mp (by decide +kernel)) (by decide +kernel) rfl
    (List.isEmpty_iff.mp (by decide +kernel)) (by decide +kernel)

theorem exampleRun_after_clearing :
    FreshSince exampleSettings (exampleJob (.clear [exampleUser])) Always
      (exampleChanged (.clear [exampleUser]))
      (((exampleChanged (.clear [exampleUser])).go_on [2, 2, 2]).go_on (List.replicate 11 3))
      "7f93c2c7" exampleCredentials := by
  refine after_clearing (run_exampleChanged _) (later_go_on _ _ [2, 2, 2])
    (later_go_on _ _ _) (i := 3) (j := 2) rfl (List.mem_singleton.mpr rfl)
    (List.isEmpty_iff.mp (by decide +kernel)) (by decide +kernel) ?_ rfl
    (List.isEmpty_iff.mp (by decide +kernel)) (by decide +kernel)
  intro i' hi'
  match i' with
  | 0 => exact .inr (Option.isNone_iff_eq_none.mp (by decide +kernel))
  | 1 => cases hi'
  | 2 => cases hi'
  | 3 => exact .inl (List.isEmpty_iff.mp (by decide +kernel))

end CachedCredentials

end Explorer
