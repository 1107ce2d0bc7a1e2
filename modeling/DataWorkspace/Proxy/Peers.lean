import DataWorkspace.Proxy.Middlewares

/-!
# The peer behind the trusted hops

A request comes to the proxy through a number of trusted hops.  Each of them appends the address
it got the request from to `x-forwarded-for`, so the address of the peer stands as many entries
from the end as there are trusted hops, whatever the client has sent (`appended_behind`).

The whitelist is a list of IPv4 networks.  A peer in none of them gets the page that says so, if
its address and the networks can be read, and an exception otherwise.
`whitelist_checked_iff` says for which requests the check ends as it should.
-/

namespace Proxy

open Py Http Async

/-! ## Hops -/

/-- The `x-forwarded-for` that a hop sends on, with the address it got the request from. -/
def hop (forwarded : Option Str) (address : Str) : Option Str :=
  match forwarded with
  | none => some address
  | some forwarded => some (forwarded ++ ", " ++ address)

/-- The `x-forwarded-for` behind hops that got the request from these addresses, the outermost
one first. -/
def behind (client : Option Str) (addresses : List Str) : Option Str := addresses.foldl hop client

/-- The entry that the outermost of `n` hops has appended. -/
def Appended (n : Nat) (forwarded address : Str) : Prop :=
  ∃ client entry later, forwarded.splitOn ',' = client ++ entry :: later ∧
    later.length + 1 = n ∧ stripSpace entry = address

/-- An address has no comma, and no white space around it. -/
def IsAddress (address : Str) : Prop := ',' ∉ address ∧ stripSpace address = address

theorem splitOn_append_comma {address : Str} (h : ',' ∉ address) : ∀ forwarded : Str,
    (forwarded ++ ',' :: address).splitOn ',' = forwarded.splitOn ',' ++ [address]
  | [] => by
      rw [List.nil_append, List.splitOn_cons_eq_if_modifyHead, if_pos (by rfl),
        List.splitOn_eq_singleton h]
      rfl
  | c :: forwarded => by
      have ih := splitOn_append_comma h forwarded
      obtain ⟨first, rest, hparts⟩ :=
        List.exists_cons_of_ne_nil (List.splitOn_ne_nil ',' forwarded)
      rw [List.cons_append, List.splitOn_cons_eq_if_modifyHead,
        List.splitOn_cons_eq_if_modifyHead, ih, hparts]
      split
      · rfl
      · rfl

theorem stripSpace_space (s : Str) : stripSpace (' ' :: s) = stripSpace s := rfl

theorem behind_isSome (client : Option Str) (address : Str) (later : List Str) :
    (behind client (address :: later)).isSome = true := by
  induction later using List.reverseRecOn with
  | nil => cases client <;> rfl
  | append_singleton later last ih =>
      rw [← List.cons_append, behind, List.foldl_concat]
      cases List.foldl hop client (address :: later) <;> rfl

theorem entries_behind {client : Option Str} : ∀ {addresses : List Str} {forwarded : Str},
    (∀ address ∈ addresses, IsAddress address) → behind client addresses = some forwarded →
      ∃ before entries, forwarded.splitOn ',' = before ++ entries ∧
        entries.map stripSpace = addresses := by
  intro addresses
  induction addresses using List.reverseRecOn with
  | nil =>
      intro forwarded _ _
      exact ⟨forwarded.splitOn ',', [], (List.append_nil _).symm, rfl⟩
  | append_singleton addresses address ih =>
      intro forwarded haddress h
      obtain ⟨hcomma, hstrip⟩ := haddress address (List.mem_append_right _ List.mem_cons_self)
      have hfold : behind client (addresses ++ [address]) =
          hop (behind client addresses) address := List.foldl_concat ..
      rw [hfold] at h
      cases hsome : behind client addresses with
      | none =>
          have hnil : addresses = [] := by
            cases addresses with
            | nil => rfl
            | cons first later =>
                have hisSome := behind_isSome client first later
                rw [hsome] at hisSome
                cases hisSome
          rw [hsome] at h
          cases h
          exact ⟨[], [address], by rw [List.splitOn_eq_singleton hcomma]; rfl,
            by rw [hnil, List.map_singleton, hstrip]; rfl⟩
      | some before =>
          obtain ⟨client', entries, hsplit, hentries⟩ :=
            ih (fun a ha => haddress a (List.mem_append_left _ ha)) hsome
          rw [hsome] at h
          cases h
          have hspace : ',' ∉ ' ' :: address := by simpa using hcomma
          have happend : before ++ ", ".toList ++ address = before ++ ',' :: ' ' :: address := by
            simp
          refine ⟨client', entries ++ [' ' :: address], ?_, ?_⟩
          · show (before ++ ", ".toList ++ address).splitOn ',' = _
            rw [happend, splitOn_append_comma hspace, hsplit, List.append_assoc]
          · rw [List.map_append, hentries, List.map_singleton, stripSpace_space, hstrip]

theorem appended_behind {client : Option Str} {address : Str} {later : List Str}
    {forwarded : Str} (h : ∀ a ∈ address :: later, IsAddress a)
    (hforwarded : behind client (address :: later) = some forwarded) :
    Appended (later.length + 1) forwarded address := by
  obtain ⟨before, entries, hsplit, hentries⟩ := entries_behind h hforwarded
  obtain ⟨entry, entries, rfl, hentry, hlater⟩ := List.map_eq_cons_iff.mp hentries
  exact ⟨before, entry, entries, hsplit, by rw [← hlater, List.length_map], hentry⟩

/-! ## The address that is used -/

theorem index?_append_cons {α : Type} (before : List α) (a : α) (after : List α) :
    index? (before ++ a :: after) (-(after.length + 1 : Nat)) = some a := by
  have hneg : ¬ 0 ≤ -((after.length + 1 : Nat) : Int) := by omega
  have hle : 0 ≤ ((before ++ a :: after).length : Int) + -((after.length + 1 : Nat) : Int) := by
    rw [List.length_append, List.length_cons]
    omega
  have hindex : (((before ++ a :: after).length : Int) +
      -((after.length + 1 : Nat) : Int)).toNat = before.length := by
    rw [List.length_append, List.length_cons]
    omega
  rw [index?, if_neg hneg, if_pos hle, hindex, List.getElem?_append_right (Nat.le_refl _),
    Nat.sub_self, List.getElem?_cons_zero]

theorem exists_of_index? {α : Type} {l : List α} {n : Nat} {a : α} (hn : 0 < n)
    (h : index? l (-n) = some a) :
    ∃ before after, l = before ++ a :: after ∧ after.length + 1 = n := by
  have hneg : ¬ 0 ≤ -(n : Int) := by omega
  rw [index?, if_neg hneg] at h
  split at h
  next hle =>
    obtain ⟨i, hi⟩ : ∃ i, i = ((l.length : Int) + -(n : Int)).toNat := ⟨_, rfl⟩
    rw [← hi] at h
    obtain ⟨hlt, hget⟩ := List.getElem?_eq_some_iff.mp h
    have hdrop := List.drop_eq_getElem_cons hlt
    rw [hget] at hdrop
    refine ⟨l.take i, l.drop (i + 1), by rw [← hdrop, List.take_append_drop], ?_⟩
    rw [List.length_drop]
    omega
  next => cases h

section Check

variable {cfg : Config} {n : Nat}

theorem get_peer_ip_eq_some_iff (hn : 0 < n) (hcfg : cfg.x_forwarded_for_trusted_hops = n)
    {request : Request} {address : Str} :
    get_peer_ip cfg request = some address ↔
      ∃ forwarded, request.headers.get? "x-forwarded-for" = some forwarded ∧
        Appended n forwarded address := by
  rw [get_peer_ip, hcfg]
  constructor
  · intro h
    obtain ⟨forwarded, hheader, h⟩ := Option.bind_eq_some_iff.mp h
    obtain ⟨entry, hentry, h⟩ := Option.bind_eq_some_iff.mp h
    obtain ⟨client, later, hsplit, hlength⟩ := exists_of_index? hn hentry
    exact ⟨forwarded, hheader, client, entry, later, hsplit, hlength, Option.some.inj h⟩
  · rintro ⟨forwarded, hheader, client, entry, later, hsplit, rfl, rfl⟩
    rw [hheader, Option.bind_eq_bind, Option.bind_some, hsplit, index?_append_cons]
    rfl

/-! ## The whitelist -/

def InWhitelist (whitelist : List Str) (address : Str) : Prop :=
  ∃ address_or_subnet ∈ whitelist, ∃ network peer, parseNetwork address_or_subnet = some network ∧
    parseIPv4 address = some peer ∧ network.mem peer = true

/-- The whitelist can be read as far as it is for this address. -/
def Readable (whitelist : List Str) (address : Str) : Prop :=
  whitelist = [] ∨ (parseIPv4 address).isSome ∧
    ∀ before address_or_subnet after, whitelist = before ++ address_or_subnet :: after →
      ¬ InWhitelist before address → (parseNetwork address_or_subnet).isSome

variable {whitelist : List Str} {address address_or_subnet : Str}

theorem inWhitelist_cons :
    InWhitelist (address_or_subnet :: whitelist) address ↔
      InWhitelist [address_or_subnet] address ∨ InWhitelist whitelist address := by
  simp [InWhitelist]

theorem inWhitelist_singleton {network : IPv4Network} {peer : Nat}
    (hnetwork : parseNetwork address_or_subnet = some network)
    (hpeer : parseIPv4 address = some peer) :
    InWhitelist [address_or_subnet] address ↔ network.mem peer = true := by
  simp [InWhitelist, hnetwork, hpeer]

theorem inWhitelist_eq_some {found : Bool} : inWhitelist address whitelist = some found →
    (found = true ↔ InWhitelist whitelist address) := by
  induction whitelist with
  | nil =>
      intro h
      cases h
      simp [InWhitelist]
  | cons address_or_subnet whitelist ih =>
      intro h
      rw [inWhitelist] at h
      split at h
      next peer network hpeer hnetwork =>
        rw [inWhitelist_cons, inWhitelist_singleton hnetwork hpeer]
        split at h
        next hmem =>
          cases h
          simp [hmem]
        next hmem =>
          simp only [hmem, Bool.false_eq_true, false_or]
          exact ih h
      next => cases h

theorem inWhitelist_isSome_iff :
    (inWhitelist address whitelist).isSome = true ↔ Readable whitelist address := by
  induction whitelist with
  | nil => exact ⟨fun _ => .inl rfl, fun _ => rfl⟩
  | cons address_or_subnet whitelist ih =>
      have hempty : ¬ InWhitelist [] address := by simp [InWhitelist]
      rw [inWhitelist]
      cases hpeer : parseIPv4 address with
      | none => simp [Readable, hpeer]
      | some peer =>
          cases hnetwork : parseNetwork address_or_subnet with
          | none =>
              refine iff_of_false Bool.false_ne_true ?_
              rintro (hnil | ⟨-, h⟩)
              · exact List.cons_ne_nil _ _ hnil
              · have hsome := h [] address_or_subnet whitelist rfl hempty
                rw [hnetwork] at hsome
                cases hsome
          | some network =>
              have hsingle := inWhitelist_singleton hnetwork hpeer
              by_cases hmem : network.mem peer = true
              · simp only [hmem, if_true, Option.isSome_some, true_iff]
                refine .inr ⟨by rw [hpeer]; rfl, ?_⟩
                intro before entry after he hbefore
                cases before with
                | nil =>
                    cases he
                    rw [hnetwork]
                    rfl
                | cons first before =>
                    cases he
                    exact absurd (inWhitelist_cons.mpr (.inl (hsingle.mpr hmem))) hbefore
              · simp only [hmem, Bool.false_eq_true, if_false]
                rw [ih]
                constructor
                · rintro h
                  refine .inr ⟨by rw [hpeer]; rfl, ?_⟩
                  intro before entry after he hbefore
                  cases before with
                  | nil =>
                      cases he
                      rw [hnetwork]
                      rfl
                  | cons first before =>
                      cases he
                      rcases h with hnil | ⟨-, h⟩
                      · exact absurd hnil (by simp)
                      · exact h before entry after rfl fun hin =>
                          hbefore (inWhitelist_cons.mpr (.inr hin))
                · rintro (hnil | ⟨hsome, h⟩)
                  · exact absurd hnil (List.cons_ne_nil _ _)
                  · refine .inr ⟨hsome, ?_⟩
                    intro before entry after he hbefore
                    refine h (address_or_subnet :: before) entry after (by rw [he]; rfl) ?_
                    rw [inWhitelist_cons, hsingle]
                    exact fun hin => hin.elim hmem hbefore

/-! ## The check -/

def PeerAllowed (cfg : Config) (request : Request) : Prop :=
  ∃ forwarded address, request.headers.get? "x-forwarded-for" = some forwarded ∧
    Appended cfg.x_forwarded_for_trusted_hops.toNat forwarded address ∧
      InWhitelist cfg.application_ip_whitelist address

/-- The page for a peer that is not in the whitelist. -/
def forbidden_page (cfg : Config) (d : Downstream) : M Response :=
  handle_admin cfg d "GET" (admin_headers_request d) "/error_403" [] .empty

/-- A request to which the whitelist applies is handed on for a peer in it, and any other peer
gets the page. -/
def Checked (cfg : Config) (d : Downstream) : Prop :=
  ∀ handler : Downstream → M Response,
    (ip_whitelist_required cfg d.request = false ∨ PeerAllowed cfg d.request →
      authenticate_by_ip_whitelist cfg handler d = handler d) ∧
    (ip_whitelist_required cfg d.request = true → ¬ PeerAllowed cfg d.request →
      authenticate_by_ip_whitelist cfg handler d = forbidden_page cfg d)

/-- There is an entry of the outermost hop, and the whitelist can be read for it. -/
def PeerReadable (cfg : Config) (request : Request) : Prop :=
  ∃ forwarded address, request.headers.get? "x-forwarded-for" = some forwarded ∧
    Appended cfg.x_forwarded_for_trusted_hops.toNat forwarded address ∧
      Readable cfg.application_ip_whitelist address

theorem peerReadable_iff (hn : 0 < n) (hcfg : cfg.x_forwarded_for_trusted_hops = n)
    (request : Request) :
    PeerReadable cfg request ↔ (peer_ip_in_whitelist cfg request).isSome = true := by
  rw [peer_ip_in_whitelist, Option.isSome_bind, Option.any_eq_true, PeerReadable, hcfg,
    Int.toNat_natCast]
  simp only [get_peer_ip_eq_some_iff hn hcfg, inWhitelist_isSome_iff]
  constructor
  · rintro ⟨forwarded, address, hheader, happended, hreadable⟩
    exact ⟨address, ⟨forwarded, hheader, happended⟩, hreadable⟩
  · rintro ⟨address, ⟨forwarded, hheader, happended⟩, hreadable⟩
    exact ⟨forwarded, address, hheader, happended, hreadable⟩

theorem peerAllowed_iff (hn : 0 < n) (hcfg : cfg.x_forwarded_for_trusted_hops = n)
    {request : Request} {found : Bool} (h : peer_ip_in_whitelist cfg request = some found) :
    PeerAllowed cfg request ↔ found = true := by
  obtain ⟨address, hpeer, hfound⟩ := Option.bind_eq_some_iff.mp h
  rw [inWhitelist_eq_some hfound, PeerAllowed, hcfg, Int.toNat_natCast]
  constructor
  · rintro ⟨forwarded, address', hheader, happended, hin⟩
    have hpeer' := (get_peer_ip_eq_some_iff hn hcfg).mpr ⟨forwarded, hheader, happended⟩
    rw [hpeer] at hpeer'
    cases hpeer'
    exact hin
  · intro hin
    obtain ⟨forwarded, hheader, happended⟩ := (get_peer_ip_eq_some_iff hn hcfg).mp hpeer
    exact ⟨forwarded, address, hheader, happended, hin⟩

theorem not_checked_of_raise {d : Downstream} (hrequired : ip_whitelist_required cfg d.request = true)
    (hpeer : peer_ip_in_whitelist cfg d.request = none) : ¬ Checked cfg d := by
  intro h
  have hraise (handler : Downstream → M Response) :
      authenticate_by_ip_whitelist cfg handler d = .raise .other := by
    rw [authenticate_by_ip_whitelist, if_neg (by rw [hrequired]; decide), hpeer]
    rfl
  obtain ⟨hallowed, hrefused⟩ := h fun _ => .pure ⟨200, [], none⟩
  by_cases hpeer : PeerAllowed cfg d.request
  · have he := (hraise _).symm.trans (hallowed (.inr hpeer))
    cases he
  · have he := (hraise _).symm.trans (hrefused hrequired hpeer)
    cases he

/-- Behind trusted hops the address that counts is the one the outermost of them has appended,
and the check ends as it should if and only if that address and the whitelist can be read. -/
theorem whitelist_checked_iff (cfg : Config) (n : Nat) (hn : 0 < n)
    (hcfg : cfg.x_forwarded_for_trusted_hops = n) :
    (∀ request client address later, later.length + 1 = n →
      (∀ a ∈ address :: later, IsAddress a) →
      request.headers.get? "x-forwarded-for" = behind client (address :: later) →
      get_peer_ip cfg request = some address) ∧
    ∀ d : Downstream, Checked cfg d ↔
      ip_whitelist_required cfg d.request = false ∨ PeerReadable cfg d.request := by
  constructor
  · intro request client address later hlength haddress hheader
    obtain ⟨forwarded, hforwarded⟩ := Option.isSome_iff_exists.mp (behind_isSome client address later)
    rw [hforwarded] at hheader
    refine (get_peer_ip_eq_some_iff hn hcfg).mpr ⟨forwarded, hheader, ?_⟩
    rw [← hlength]
    exact appended_behind haddress hforwarded
  · intro d
    rw [peerReadable_iff hn hcfg]
    cases hrequired : ip_whitelist_required cfg d.request with
    | false =>
        simp only [true_or, iff_true]
        intro handler
        refine ⟨fun _ => ?_, fun he => ?_⟩
        · rw [authenticate_by_ip_whitelist, if_pos hrequired]
        · rw [hrequired] at he
          cases he
    | true =>
        simp only [Bool.true_eq_false, false_or]
        cases hpeer : peer_ip_in_whitelist cfg d.request with
        | none =>
            exact iff_of_false (not_checked_of_raise hrequired hpeer) Bool.false_ne_true
        | some found =>
            refine iff_of_true (fun handler => ?_) rfl
            have hcheck : authenticate_by_ip_whitelist cfg handler d =
                if found then handler d else forbidden_page cfg d := by
              rw [authenticate_by_ip_whitelist, if_neg (by rw [hrequired]; decide), hpeer]
              rfl
            rw [hcheck, peerAllowed_iff hn hcfg hpeer, hrequired]
            cases found with
            | true => simp
            | false => simp

end Check

section Examples

/-- A request for a tool, with the value of `x-forwarded-for`. -/
def toolRequest (forwarded : Str) : Request where
  method := "GET"
  scheme := "http"
  host := "tool.dataworkspace.test"
  port := 8000
  authority := "tool.dataworkspace.test:8000"
  path := "/"
  path_qs := "/"
  raw_path_qs := "/"
  query := []
  headers := [("x-forwarded-for", forwarded)]
  cookies := []
  content := []

def toolDownstream (cfg : Config) (forwarded : Str) : Downstream :=
  ⟨toolRequest forwarded, [], Session.of cfg (toolRequest forwarded)⟩

/-- A client cannot pass another address for its own. -/
theorem local_peer_checked :
    get_peer_ip testConfig (toolRequest "8.8.8.8, 127.0.0.1") = some ("127.0.0.1" : Str) ∧
      Checked testConfig (toolDownstream testConfig "8.8.8.8, 127.0.0.1") := by
  have h := whitelist_checked_iff testConfig 1 Nat.one_pos rfl
  refine ⟨h.1 _ (some "8.8.8.8") "127.0.0.1" [] rfl ?_ rfl, (h.2 _).mpr (.inr ?_)⟩
  · simp only [List.mem_singleton, forall_eq]
    exact ⟨by decide, by decide⟩
  · exact (peerReadable_iff Nat.one_pos rfl _).mpr (by decide +kernel)

/-- A peer with an IPv6 address gets an exception, and so does a request with fewer entries than
there are trusted hops. -/
theorem peer_not_checked :
    (¬ Checked testConfig (toolDownstream testConfig "2001:db8::1")) ∧
      ¬ Checked { testConfig with x_forwarded_for_trusted_hops := 2 }
        (toolDownstream { testConfig with x_forwarded_for_trusted_hops := 2 } "127.0.0.1") :=
  ⟨not_checked_of_raise (by decide +kernel) (by decide +kernel),
    not_checked_of_raise (by decide +kernel) (by decide +kernel)⟩

end Examples

end Proxy
