import DataWorkspace.Py.Matches
import DataWorkspace.Py.Template
import DataWorkspace.Py.Grouping

/-!
# The parameters of a query

A query has placeholders `$$name$$` and `$$name:default$$`, whose names have no case.
`final_sql` looks for them in the query in lower case, which gives the names and the defaults
that a dictionary of values is merged into.  Then it replaces one parameter after the other in
the query as it is, with a pattern for each name that has no case either.

`expected_sql` is what the query should become.
-/

namespace Explorer

namespace Substitution

open Py Re

/-! ## Lower case -/

/-- A text and a lower case of it, by what each of its characters may become. -/
inductive Lowers (image : Char → Str → Prop) : Str → Str → Prop where
  | nil : Lowers image [] []
  | cons {c : Char} {u s t : Str} : image c u → Lowers image s t → Lowers image (c :: s) (u ++ t)

/-- `s.lower()`.  A capital sigma has two lower cases, and two characters that are not ASCII
have ones that begin with an ASCII letter: the Kelvin sign, and the I with a dot. -/
structure Lowercase where
  image : Char → Str → Prop
  lower : Str → Str
  lower_spec : ∀ s, Lowers image s (lower s)
  ascii : ∀ {c u}, c.toNat < 128 → (image c u ↔ u = [c.toLower])
  kelvin : ∀ {u}, image '\u212a' u ↔ u = ['k']
  dotted : ∀ {u}, image '\u0130' u ↔ u = ['i', '\u0307']
  other : ∀ {c u}, 128 ≤ c.toNat → c ≠ '\u212a' → c ≠ '\u0130' → image c u →
    u ≠ [] ∧ ∀ d ∈ u, 128 ≤ d.toNat

/-- A character that is in lower case already. -/
def Lowercase.Stable (L : Lowercase) (c : Char) : Prop := ∀ u, L.image c u → u = [c]

/-- A text that is in lower case already. -/
def Lowercase.IsLower (L : Lowercase) (s : Str) : Prop := ∀ c ∈ s, L.Stable c

instance (L : Lowercase) [DecidablePred L.Stable] (s : Str) : Decidable (L.IsLower s) :=
  List.decidableBAll L.Stable s

/-- The lower case of a character that has a letter of ASCII as one. -/
def lowerChar (c : Char) : Char := if c = '\u212a' then 'k' else c.toLower

/-! ## Placeholders -/

structure Placeholder where
  name : Str
  default : Option Str

namespace Placeholder

/-- What is behind the name. -/
def ending : Option Str → Str
  | none => ['$', '$']
  | some default => ':' :: (default ++ ['$', '$'])

def text (p : Placeholder) : Str := '$' :: '$' :: (p.name ++ ending p.default)

/-- The groups of the match. -/
def group (p : Placeholder) : Nat → Str
  | 0 => p.text
  | _ => p.default.getD []

end Placeholder

/-- `(?:\:([^\$]+))?\$\$`, behind a name. -/
def closing : Str → Option (Option Str)
  | [] => none
  | c :: s =>
      if c = '$' then if s.head? = some '$' then some none else none
      else if c = ':' then
        let default := s.takeWhile (· ≠ '$')
        if default ≠ [] ∧ ['$', '$'] <+: s.dropWhile (· ≠ '$') then some (some default) else none
      else none

/-- `\$\$name(?:\:([^\$]+))?\$\$`, with a way to read the name. -/
def readPlaceholder (readName : Str → Option Str) (s : Str) : Option Placeholder :=
  if ['$', '$'] <+: s then do
    let name ← readName (s.drop 2)
    let default ← closing ((s.drop 2).drop name.length)
    some ⟨name, default⟩
  else none

/-- `[class]+`. -/
def nameIn (p : Char → Bool) (s : Str) : Option Str :=
  if s.takeWhile p = [] then none else some (s.takeWhile p)

/-- A character of a pattern and one of a text, without case. -/
def foldsTo (p c : Char) : Bool :=
  c.toLower == p || (p == 'k' && c == '\u212a') || (p == 'i' && (c == '\u0130' || c == '\u0131')) ||
    (p == 's' && c == '\u017f')

/-- A name, without case. -/
def nameLike : Str → Str → Option Str
  | [], _ => some []
  | _ :: _, [] => none
  | p :: name, c :: s => if foldsTo p c then (nameLike name s).map (c :: ·) else none

theorem closing_begins {s : Str} {default : Option Str} (h : closing s = some default) :
    Placeholder.ending default <+: s := by
  cases s with
  | nil => cases h
  | cons c s =>
      rw [closing] at h
      split at h
      next hc =>
        split at h
        next hs =>
          cases h
          obtain ⟨s, rfl⟩ := List.head?_eq_some_iff.mp hs
          exact ⟨s, by rw [hc]; rfl⟩
        next => cases h
      next =>
        split at h
        next hc =>
          simp only at h
          split at h
          next hs =>
            cases h
            obtain ⟨rest, hrest⟩ := hs.2
            refine ⟨rest, ?_⟩
            rw [Placeholder.ending, hc, List.cons_append, List.append_assoc, hrest,
              List.takeWhile_append_dropWhile]
          next => cases h
        next => cases h

theorem readPlaceholder_begins {readName : Str → Option Str}
    (hname : ∀ {s name}, readName s = some name → name <+: s) {s : Str} {p : Placeholder}
    (h : readPlaceholder readName s = some p) : p.text <+: s := by
  rw [readPlaceholder] at h
  split at h
  next hs =>
    obtain ⟨s, rfl⟩ := hs
    simp only [Option.bind_eq_bind, Option.bind_eq_some_iff, Option.some.injEq] at h
    obtain ⟨name, hread, default, hclosing, rfl⟩ := h
    have hread : readName s = some name := hread
    obtain ⟨s, rfl⟩ := hname hread
    have hclosing : closing ((name ++ s).drop name.length) = some default := hclosing
    rw [List.drop_left] at hclosing
    obtain ⟨rest, rfl⟩ := closing_begins hclosing
    exact ⟨rest, by simp [Placeholder.text]⟩
  next => cases h

theorem nameIn_begins {p : Char → Bool} {s name : Str} (h : nameIn p s = some name) :
    name <+: s := by
  rw [nameIn] at h
  split at h
  next => cases h
  next =>
    cases h
    exact List.takeWhile_prefix p

theorem nameLike_begins : ∀ {name s found : Str}, nameLike name s = some found → found <+: s
  | [], _, _, h => by
      cases h
      exact List.nil_prefix
  | p :: name, c :: s, found, h => by
      rw [nameLike] at h
      split at h
      next =>
        obtain ⟨found, hfound, rfl⟩ := Option.map_eq_some_iff.mp h
        exact List.cons_prefix_cons.mpr ⟨rfl, nameLike_begins hfound⟩
      next => cases h

theorem Placeholder.text_ne_nil (p : Placeholder) : p.text ≠ [] := List.cons_ne_nil _ _

def placeholderPattern (readName : Str → Option Str)
    (hname : ∀ {s name}, readName s = some name → name <+: s) : Pattern Placeholder where
  run := readPlaceholder readName
  text := Placeholder.text
  text_begins h := readPlaceholder_begins hname h
  text_ne_nil _ := Placeholder.text_ne_nil _

/-! ## The query -/

/-- `[a-z0-9_]`. -/
def isNameChar (c : Char) : Bool := c.isLower || c.isDigit || c == '_'

/-- `\$\$([a-z0-9_]+)(?:\:([^\$]+))?\$\$`. -/
def paramPattern : Pattern Placeholder := placeholderPattern (nameIn isNameChar) nameIn_begins

/-- `\$\$%s(?:\:([^\$]+))?\$\$` of a name, without case. -/
def namePattern (name : Str) : Pattern Placeholder :=
  placeholderPattern (nameLike name) nameLike_begins

/-- One step of `swap_params`. -/
def swap_param (L : Lowercase) (sql : Str) (param : Str × Str) : Option Str := do
  let template ← parse_template param.2
  some ((namePattern (L.lower param.1)).sub (fun p => expand p.group template) sql)

/-- `swap_params`, or `none` where it raises. -/
def swap_params (L : Lowercase) (sql : Str) (params : Dict Str Str) : Option Str :=
  params.items.foldlM (swap_param L) sql

/-- `extract_params`. -/
def extract_params (L : Lowercase) (text : Str) : Dict Str Str :=
  Dict.ofPairs ((paramPattern.findall (L.lower text)).map fun p => (p.name, p.default.getD []))

/-- `shared_dict_update`. -/
def shared_dict_update (target source : Dict Str Str) : Dict Str Str where
  items := target.items.map fun kv => (kv.1, (source.get? kv.1).getD kv.2)
  nodup := by
    rw [List.map_map]
    exact target.nodup

/-- A query with the values of parameters. -/
structure Query where
  sql : Str
  params : Option (Dict Str Str)

/-- `available_params`. -/
def Query.available_params (L : Lowercase) (q : Query) : Dict Str Str :=
  match q.params with
  | none => extract_params L q.sql
  | some params => shared_dict_update (extract_params L q.sql) params

/-- `final_sql`, or `none` where it raises. -/
def Query.final_sql (L : Lowercase) (q : Query) : Option Str :=
  swap_params L q.sql (q.available_params L)

/-! ## What the query should become -/

/-- Names are the same when they are in lower case. -/
def key (name : Str) : Str := name.map lowerChar

def queryPattern : Pattern Placeholder :=
  placeholderPattern (nameIn fun c => isNameChar (lowerChar c)) nameIn_begins

namespace Query

variable (q : Query)

def placeholders : List Placeholder := queryPattern.findall q.sql

/-- The items of the dictionary of values. -/
def values : List (Str × Str) := (q.params.map Dict.items).getD []

def given (name : Str) : Option Str :=
  (q.values.find? fun kv => key kv.1 = key name).map Prod.snd

/-- The default that is declared for a name, the last one if there are several. -/
def declared (name : Str) : Option Str :=
  q.placeholders.reverse.findSome? fun p => if key p.name = key name then p.default else none

/-- What a placeholder should be replaced by: the value, else its default, else the default
that another one declares. -/
def expected (p : Placeholder) : Str :=
  match q.given p.name with
  | some value => value
  | none => p.default.getD ((q.declared p.name).getD [])

/-- The query with its placeholders replaced. -/
def expected_sql : Str := queryPattern.sub q.expected q.sql

/-- The names of the parameters, in the order in which they are first there. -/
def names : List Str :=
  (Dict.ofPairs (q.placeholders.map fun p => (key p.name, ()))).items.map Prod.fst

/-- While the parameters are filled in one after the other, no placeholder of one of them begins
but where the query has one. -/
def Apart : List Str → List (Piece Placeholder) → Prop
  | [], _ => True
  | name :: names, pieces =>
      (namePattern name).Apart (fun p => key p.name == name) pieces ∧
        Apart names (fill (fun p => key p.name == name) q.expected pieces)

instance decidableApart : ∀ names pieces, Decidable (q.Apart names pieces)
  | [], _ => .isTrue trivial
  | name :: names, pieces =>
      have := decidableApart names (fill (fun p => key p.name == name) q.expected pieces)
      inferInstanceAs (Decidable ((namePattern name).Apart (fun p => key p.name == name) pieces ∧
        q.Apart names (fill (fun p => key p.name == name) q.expected pieces)))

end Query

/-- The value that is given for a name is the one for the name in lower case.  What a placeholder
should be replaced by has no escape, and where it is a default it is in lower case, and the
default of the last placeholder of the name.  Values and text make no other placeholders. -/
structure Replaceable (L : Lowercase) (q : Query) : Prop where
  given : ∀ p ∈ q.placeholders,
    q.given p.name = q.params.bind fun params => params.get? (key p.name)
  literal : ∀ p ∈ q.placeholders, Unescaped (q.expected p)
  default : ∀ p ∈ q.placeholders, q.given p.name = none →
    L.IsLower (q.expected p) ∧
      ∀ last ∈ q.placeholders.reverse.find? fun r => key r.name = key p.name,
        last.default.getD [] = q.expected p
  apart : q.Apart q.names (queryPattern.pieces q.sql)

end Substitution

end Explorer
