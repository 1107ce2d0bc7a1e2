import DataWorkspace.Async.Interleaving
import DataWorkspace.Proxy.Sso

/-!
# Runs of the proxy

Browsers send requests, and the proxy serves them as they come, with their operations in
any order.  A browser sends back a cookie that a response to it has set, or else
any value that is no session identifier of the proxy: identifiers are random, so they
are not guessed and do not repeat.  The other parts of a request are the browser's to
choose, the `code` and the `state` of a callback included.

A session belongs to one browser.  `drawer_of_carried` says it of a session whose cookie
a request carries, and `writer_of_matched` says who wrote what a callback reads there.
-/

namespace Proxy

open Py Http Async

/-! ## The system -/

/-- A request that a browser sends. -/
structure Visit (B : Type) where
  number : Nat
  browser : B
  request : Request
deriving DecidableEq

/-- What happened so far, newest first. -/
abbrev Log (B : Type) := List (Entry Ans Exc Response (Visit B))

section Runs

variable {B : Type}

def Visit.cookie (cfg : Config) (v : Visit B) : Option Str := (Session.of cfg v.request).cookie_value

/-- The identifier was drawn for a session. -/
def Drawn (log : Log B) (c : Str) : Prop := ∃ v, .event v ⟨.token_urlsafe, c⟩ ∈ log

/-- The browser has the cookie of the session. -/
def Holds (log : Log B) (b : B) (c : Str) : Prop :=
  ∃ v response, .done v (.ok response) ∈ log ∧ v.browser = b ∧
    response.set_cookie.map SetCookie.value = some c

/-- The value of a key in Redis, but for its expiry: the last one that was set. -/
def stored (key : Str) : Log B → Option Str
  | [] => none
  | .event _ ⟨.redis_set key' value, _⟩ :: log => if key' = key then some value else stored key log
  | _ :: log => stored key log

/-- A request may carry the cookie of a session only if its browser has it. -/
def Admissible (cfg : Config) (log : Log B) (v : Visit B) : Prop :=
  ∀ c, v.cookie cfg = some c → Drawn log c → Holds log v.browser c

/-- What the operations may answer.  Redis may have dropped what expired.  The random
values are new, no request carried the identifier as its cookie before, and a key is a
text of hexadecimal digits.  Others answer anything. -/
def Answered (cfg : Config) (log : Log B) : (o : Op) → Ans o → Prop
  | .redis_get key, x => x = none ∨ x = stored key log
  | .token_urlsafe, c => ¬ Drawn log c ∧ ∀ v, .start v ∈ log → v.cookie cfg ≠ some c
  | .token_hex, k => (∀ v, .event v ⟨.token_hex, k⟩ ∉ log) ∧ IsKey k
  | _, _ => True

/-- The proxy and its browsers, where requests also meet `cond`. -/
def site (cfg : Config) (cond : Log B → Visit B → Prop) : System Ans Exc Response (Visit B) where
  prog v := serve cfg v.request
  admits log v := Admissible cfg log v ∧ cond log v
  answers log _ o a := Answered cfg log o a

/-! ## Sessions and browsers -/

theorem set_of_stored {key x : Str} : ∀ {log : Log B}, stored key log = some x →
    ∃ w a, .event w ⟨.redis_set key x, a⟩ ∈ log
  | [], h => nomatch h
  | .start w :: log, h => by
      obtain ⟨w', a, hw⟩ := set_of_stored (show stored key log = some x from h)
      exact ⟨w', a, List.mem_cons_of_mem _ hw⟩
  | .done w y :: log, h => by
      obtain ⟨w', a, hw⟩ := set_of_stored (show stored key log = some x from h)
      exact ⟨w', a, List.mem_cons_of_mem _ hw⟩
  | .event w ⟨o, a⟩ :: log, h => by
      have hrest (h : stored key log = some x) :
          ∃ w' a', .event w' ⟨.redis_set key x, a'⟩ ∈ .event w ⟨o, a⟩ :: log := by
        obtain ⟨w', a', hw⟩ := set_of_stored h
        exact ⟨w', a', List.mem_cons_of_mem _ hw⟩
      cases o with
      | redis_set key' value =>
          rw [stored] at h
          split at h
          · next hkey =>
              subst hkey
              cases h
              exact ⟨w, a, List.mem_cons_self ..⟩
          · exact hrest h
      | _ => exact hrest h

theorem Drawn.mono {log log' : Log B} {c : Str} (h : Drawn log c) (hsub : log ⊆ log') : Drawn log' c :=
  h.imp fun _ hv => hsub hv

variable [DecidableEq B] {cfg : Config} {cond : Log B → Visit B → Prop} {log : Log B}
  {v w : Visit B} {c k : Str}

theorem drawn_unique (h : Recorded (site cfg cond) log) (hv : .event v ⟨.token_urlsafe, c⟩ ∈ log)
    (hw : .event w ⟨.token_urlsafe, c⟩ ∈ log) : v = w :=
  have hnew : ∀ log i, (site cfg cond).answers log i .token_urlsafe c →
      ∀ j, .event j ⟨.token_urlsafe, c⟩ ∉ log := fun _ _ ha j hj => ha.1 ⟨j, hj⟩
  h.unique hnew hv hw

theorem key_unique (h : Recorded (site cfg cond) log) (hv : .event v ⟨.token_hex, k⟩ ∈ log)
    (hw : .event w ⟨.token_hex, k⟩ ∈ log) : v = w :=
  have hnew : ∀ log i, (site cfg cond).answers log i .token_hex k →
      ∀ j, .event j ⟨.token_hex, k⟩ ∉ log := fun _ _ ha j hj => ha.1 j hj
  h.unique hnew hv hw

theorem underscore_not_mem_key (h : Recorded (site cfg cond) log)
    (hv : .event v ⟨.token_hex, k⟩ ∈ log) : '_' ∉ k := by
  obtain ⟨_, older, rfl, -, hr⟩ := h.split hv
  exact IsKey.no_underscore hr.2.2.1.2

theorem held_of_carried : ∀ {log : Log B}, Recorded (site cfg cond) log → .start v ∈ log →
    v.cookie cfg = some c → Drawn log c →
      ∃ newer older, log = newer ++ .start v :: older ∧ Drawn older c ∧ Holds older v.browser c
  | [], _, hv, _, _ => absurd hv List.not_mem_nil
  | e :: log, h, hv, hc, hdrawn => by
      have hrest (hv : .start v ∈ log) (hdrawn : Drawn log c) :
          ∃ newer older, e :: log = newer ++ .start v :: older ∧ Drawn older c ∧
            Holds older v.browser c := by
        obtain ⟨newer, older, rfl, hd, hh⟩ := held_of_carried h.tail hv hc hdrawn
        exact ⟨e :: newer, older, rfl, hd, hh⟩
      obtain ⟨w, hw⟩ := hdrawn
      rcases List.mem_cons.mp hv with rfl | hv'
      · rcases List.mem_cons.mp hw with hw | hw
        · cases hw
        · exact ⟨[], log, rfl, ⟨w, hw⟩, h.2.1.1 c hc ⟨w, hw⟩⟩
      · rcases List.mem_cons.mp hw with rfl | hw
        · exact absurd hc (h.2.2.1.2 v hv')
        · exact hrest hv' ⟨w, hw⟩

theorem drawer_of_held {b : B} (log : Log B) (h : Recorded (site cfg cond) log)
    (hheld : Holds log b c) (hdrawn : Drawn log c) :
    ∃ w response, .event w ⟨.token_urlsafe, c⟩ ∈ log ∧ .done w (.ok response) ∈ log ∧
      w.browser = b ∧ response.set_cookie.map SetCookie.value = some c := by
  obtain ⟨v, response, hv, hb, hcookie⟩ := hheld
  obtain ⟨newer, older, -, hbelow, hr⟩ := h.split hv
  have hout := hr.post (wp_serve_outcome cfg v.request) response rfl
  rcases hout.cookie c hcookie with hcarried | hdrew
  · obtain ⟨newer', older', hlog', hd, hh⟩ := held_of_carried h (hbelow hr.1) hcarried hdrawn
    have hsub := subset_below hlog'
    have hr' : Recorded (site cfg cond) older' := by
      rw [hlog'] at h
      exact h.of_append.tail
    have hlen : older'.length < log.length := by
      rw [hlog', List.length_append, List.length_cons]
      omega
    obtain ⟨w, response', hw, hdone, hbrowser, hc⟩ := drawer_of_held older' hr' hh hd
    exact ⟨w, response', hsub hw, hsub hdone, hbrowser.trans hb, hc⟩
  · exact ⟨v, response, hbelow (mem_eventsOf.mp hdrew), hv, hb, hcookie⟩
termination_by log.length

theorem drawer_of_carried (h : Recorded (site cfg cond) log) (hv : .start v ∈ log)
    (hc : v.cookie cfg = some c) (hw : .event w ⟨.token_urlsafe, c⟩ ∈ log) :
    w.browser = v.browser ∧ ∃ response, .done w (.ok response) ∈ log := by
  obtain ⟨newer, older, rfl, hd, hh⟩ := held_of_carried h hv hc ⟨w, hw⟩
  have hr : Recorded (site cfg cond) older := h.of_append.tail
  obtain ⟨w', response, hw', hdone, hb, -⟩ := drawer_of_held older hr hh hd
  have hsub : older ⊆ newer ++ .start v :: older := subset_below rfl
  obtain rfl := drawn_unique h hw (hsub hw')
  exact ⟨hb, response, hsub hdone⟩

/-! ## What sessions say -/

theorem redirect_of_write (h : Recorded (site cfg cond) log) {u : Str} {a : Unit} (hk : '_' ∉ k)
    (hw : .event w ⟨.redis_set (redis_key c k) u, a⟩ ∈ log) :
    .event w ⟨.token_urlsafe, c⟩ ∈ log ∧ .event w ⟨.token_hex, k⟩ ∈ log ∧
      targetOf w.request = some u := by
  obtain ⟨newer, older, -, hsub, hr⟩ := h.split hw
  rcases hr.pre (wp_serve_outcome cfg w.request) with
    ⟨c', k', hc', hk', hkey, hu, -⟩ | ⟨-, c', u', -, hkey, -⟩
  · have hhex := hsub (mem_eventsOf.mp hk')
    obtain ⟨rfl, rfl⟩ := redis_key_inj (.inl hk) (.inl (underscore_not_mem_key h hhex)) hkey
    exact ⟨hsub (mem_eventsOf.mp hc'), hhex, hu⟩
  · obtain ⟨-, rfl⟩ := redis_key_inj (.inl hk) (.inr rfl) hkey
    exact absurd (by decide) hk

theorem callback_of_token {older : Log B} {token : Str} {a : Unit}
    (h : Recorded (site cfg cond)
      (.event v ⟨.redis_set (redis_key c session_token_key) token, a⟩ :: older)) :
    IsCallback v.request ∧ .event v ⟨.token_urlsafe, c⟩ ∈ older ∧
      ∃ u, Matched cfg v.request (eventsOf v older) u := by
  rcases h.pre (wp_serve_outcome cfg v.request) with
    ⟨c', k', -, hk', hkey, -⟩ | ⟨hcall, c', u, hc', hkey, hu⟩
  · have hhex := underscore_not_mem_key h.tail (mem_eventsOf.mp hk')
    obtain ⟨-, rfl⟩ := redis_key_inj (.inr rfl) (.inl hhex) hkey
    exact absurd (by decide) hhex
  · obtain ⟨rfl, -⟩ := redis_key_inj (.inr rfl) (.inr rfl) hkey
    exact ⟨hcall, mem_eventsOf.mp hc', u, hu⟩

theorem writer_of_matched (h : Recorded (site cfg cond) log) (hv : .start v ∈ log) {u : Str}
    (hm : Matched cfg v.request (eventsOf v log) u) :
    ∃ st c w a response, v.request.query.lookup ("state" : Str) = some st ∧
      v.cookie cfg = some c ∧ (parse_sso_state st).2 = u ∧
      .event w ⟨.redis_set (redis_key c (parse_sso_state st).1) u, a⟩ ∈ log ∧
      .event w ⟨.token_hex, (parse_sso_state st).1⟩ ∈ log ∧ targetOf w.request = some u ∧
      w.browser = v.browser ∧ .done w (.ok response) ∈ log := by
  obtain ⟨st, c, hst, hc, hu, hmem⟩ := hm
  obtain ⟨newer, older, -, hsub, hr⟩ := h.split (mem_eventsOf.mp hmem)
  have hstored : stored (redis_key c (parse_sso_state st).1) older = some u := by
    rcases hr.2.2.1 with hnone | hstored
    · cases hnone
    · exact hstored.symm
  obtain ⟨w, a, hw⟩ := set_of_stored hstored
  have hk : '_' ∉ (parse_sso_state st).1 := not_mem_partition_singleton _
  obtain ⟨hdrew, hkey, htarget⟩ := redirect_of_write h hk (hsub hw)
  obtain ⟨hbrowser, response, hdone⟩ := drawer_of_carried h hv hc hdrew
  exact ⟨st, c, w, a, response, hst, hc, hu, hsub hw, hkey, htarget, hbrowser, hdone⟩

end Runs

end Proxy
