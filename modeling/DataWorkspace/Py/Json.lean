import DataWorkspace.Py.Quote

/-!
# JSON

`loads` is the decoder of the standard library.  It reads strings, arrays and objects,
and numbers as their texts: an integer is a number, what has a fraction or an exponent
stays text.

An array is read with the decoder of its items as a parameter, so that the recursion is
on how deep values nest.
-/

namespace Py

/-- A decoded JSON value.  An object has its members in the order of the text. -/
inductive Json where
  | null
  | bool (b : Bool)
  | int (n : Int)
  | float (literal : Str)
  | str (s : Str)
  | arr (items : List Json)
  | obj (members : List (Str × Json))
deriving Repr

namespace Json

/-! ## Equality -/

mutual

/-- Whether two values are the same. -/
def same : Json → Json → Bool
  | .null, .null => true
  | .bool a, .bool b => a == b
  | .int a, .int b => a == b
  | .float a, .float b => a == b
  | .str a, .str b => a == b
  | .arr a, .arr b => sameItems a b
  | .obj a, .obj b => sameMembers a b
  | _, _ => false

def sameItems : List Json → List Json → Bool
  | [], [] => true
  | a :: as, b :: bs => same a b && sameItems as bs
  | _, _ => false

def sameMembers : List (Str × Json) → List (Str × Json) → Bool
  | [], [] => true
  | (k, a) :: as, (l, b) :: bs => k == l && same a b && sameMembers as bs
  | _, _ => false

end

mutual

theorem same_iff : ∀ a b : Json, same a b = true ↔ a = b
  | .null, b => by cases b <;> simp [same]
  | .bool _, b => by cases b <;> simp [same]
  | .int _, b => by cases b <;> simp [same]
  | .float _, b => by cases b <;> simp [same]
  | .str _, b => by cases b <;> simp [same]
  | .arr a, b => by
      cases b with
      | arr b => simp [same, sameItems_iff a b]
      | _ => simp [same]
  | .obj a, b => by
      cases b with
      | obj b => simp [same, sameMembers_iff a b]
      | _ => simp [same]

theorem sameItems_iff : ∀ a b : List Json, sameItems a b = true ↔ a = b
  | [], b => by cases b <;> simp [sameItems]
  | a :: as, b => by
      cases b with
      | nil => simp [sameItems]
      | cons b bs => simp [sameItems, same_iff a b, sameItems_iff as bs]

theorem sameMembers_iff : ∀ a b : List (Str × Json), sameMembers a b = true ↔ a = b
  | [], b => by cases b <;> simp [sameMembers]
  | (k, a) :: as, b => by
      cases b with
      | nil => simp [sameMembers]
      | cons b bs =>
          obtain ⟨l, b⟩ := b
          simp [sameMembers, same_iff a b, sameMembers_iff as bs, and_assoc]

end

instance : DecidableEq Json := fun a b => decidable_of_iff _ (same_iff a b)

/-! ## Characters -/

/-- White space between tokens. -/
def isSpace (c : Char) : Bool := c ∈ [' ', '\t', '\n', '\r']

def skipSpace (s : Str) : Str := s.dropWhile isSpace

/-- What stands for a character after a backslash. -/
def unescape (c : Char) : Option Char :=
  match c with
  | '"' => some '"'
  | '\\' => some '\\'
  | '/' => some '/'
  | 'b' => some '\x08'
  | 'f' => some '\x0c'
  | 'n' => some '\n'
  | 'r' => some '\r'
  | 't' => some '\t'
  | _ => none

/-- The number of four hexadecimal digits. -/
def hex4 (a b c d : Char) : Option Nat := do
  let a ← hexValue a
  let b ← hexValue b
  let c ← hexValue c
  let d ← hexValue d
  some (((a * 16 + b) * 16 + c) * 16 + d)

/-- A code point outside the surrogates, which a string cannot hold. -/
def scalar (n : Nat) : Option Char :=
  if n.isValidChar then some (Char.ofNat n) else none

/-- A pair of surrogates, as the code point it stands for. -/
def surrogates (high low : Nat) : Option Char :=
  if 0xD800 ≤ high ∧ high < 0xDC00 ∧ 0xDC00 ≤ low ∧ low < 0xE000 then
    scalar (0x10000 + (high - 0xD800) * 0x400 + (low - 0xDC00))
  else none

/-! ## Tokens -/

/-- The characters of a string up to its closing quote, and what comes after. -/
@[grind =]
def parseString : Str → Option (Str × Str)
  | [] => none
  | '"' :: s => some ([], s)
  | '\\' :: 'u' :: a :: b :: c :: d :: '\\' :: 'u' :: e :: f :: g :: h :: s =>
      match (hex4 a b c d).bind fun high => (hex4 e f g h).bind (surrogates high) with
      | some x => (parseString s).map fun r => (x :: r.1, r.2)
      | none => do
          let x ← (hex4 a b c d).bind scalar
          let r ← parseString ('\\' :: 'u' :: e :: f :: g :: h :: s)
          some (x :: r.1, r.2)
  | '\\' :: 'u' :: a :: b :: c :: d :: s => do
      let x ← (hex4 a b c d).bind scalar
      let r ← parseString s
      some (x :: r.1, r.2)
  | '\\' :: c :: s => do
      let x ← unescape c
      let r ← parseString s
      some (x :: r.1, r.2)
  | c :: s => if c.toNat < 0x20 then none else (parseString s).map fun r => (c :: r.1, r.2)

/-- The integer part of a number: `0`, or digits that do not start with `0`. -/
def integerPart (s : Str) : Option (Str × Str) :=
  match s with
  | '0' :: s => some (['0'], s)
  | c :: s =>
      if c.isDigit then some (c :: s.takeWhile Char.isDigit, s.dropWhile Char.isDigit) else none
  | [] => none

def fraction (s : Str) : Str × Str :=
  match s with
  | '.' :: s =>
      if (s.takeWhile Char.isDigit).isEmpty then ([], '.' :: s)
      else ('.' :: s.takeWhile Char.isDigit, s.dropWhile Char.isDigit)
  | s => ([], s)

def exponentSign (s : Str) : Str × Str :=
  match s with
  | '+' :: s => (['+'], s)
  | '-' :: s => (['-'], s)
  | s => ([], s)

def exponent (s : Str) : Str × Str :=
  match s with
  | c :: s =>
      let r := exponentSign s
      if (c = 'e' ∨ c = 'E') ∧ (r.2.takeWhile Char.isDigit).isEmpty = false then
        (c :: r.1 ++ r.2.takeWhile Char.isDigit, r.2.dropWhile Char.isDigit)
      else ([], c :: s)
  | [] => ([], [])

/-- A number without its sign. -/
def parseNumber (negative : Bool) (s : Str) : Option (Json × Str) := do
  let digits ← integerPart s
  let fraction := fraction digits.2
  let exponent := exponent fraction.2
  let value := if fraction.1.isEmpty && exponent.1.isEmpty then
      .int (if negative then -(decimal digits.1 : Int) else decimal digits.1)
    else .float ((if negative then ['-'] else []) ++ digits.1 ++ fraction.1 ++ exponent.1)
  some (value, exponent.2)

/-- A value that is neither a string nor an array nor an object.  The last three are no
JSON, but Python reads them. -/
def parseAtom (s : Str) : Option (Json × Str) :=
  if startswith s "null" then some (.null, s.drop 4)
  else if startswith s "true" then some (.bool true, s.drop 4)
  else if startswith s "false" then some (.bool false, s.drop 5)
  else if startswith s "NaN" then some (.float "NaN", s.drop 3)
  else if startswith s "Infinity" then some (.float "Infinity", s.drop 8)
  else if startswith s "-Infinity" then some (.float "-Infinity", s.drop 9)
  else
    match s with
    | '-' :: s => parseNumber true s
    | s => parseNumber false s

/-! ## Values -/

/-- The items of an array, of which there is one, at most as many as the number says. -/
def parseItems (value : Str → Option (Json × Str)) : Nat → Str → Option (List Json × Str)
  | 0, _ => none
  | n + 1, s => do
      let item ← value s
      match skipSpace item.2 with
      | ',' :: s => do
          let items ← parseItems value n (skipSpace s)
          some (item.1 :: items.1, items.2)
      | ']' :: s => some ([item.1], s)
      | _ => none

/-- The members of an object, of which there is one. -/
@[grind =]
def parseMembers (value : Str → Option (Json × Str)) : Nat → Str → Option (List (Str × Json) × Str)
  | 0, _ => none
  | n + 1, s =>
      match s with
      | '"' :: s => do
          let key ← parseString s
          match skipSpace key.2 with
          | ':' :: s => do
              let item ← value (skipSpace s)
              match skipSpace item.2 with
              | ',' :: s => do
                  let members ← parseMembers value n (skipSpace s)
                  some ((key.1, item.1) :: members.1, members.2)
              | '}' :: s => some ([(key.1, item.1)], s)
              | _ => none
          | _ => none
      | _ => none

/-- A value that nests less deeply than the number says, and what comes after. -/
@[grind =]
def parseValue : Nat → Str → Option (Json × Str)
  | 0, _ => none
  | depth + 1, s =>
      match s with
      | '"' :: s => (parseString s).map fun r => (.str r.1, r.2)
      | '[' :: s =>
          match skipSpace s with
          | ']' :: s => some (.arr [], s)
          | s => (parseItems (parseValue depth) s.length s).map fun r => (.arr r.1, r.2)
      | '{' :: s =>
          match skipSpace s with
          | '}' :: s => some (.obj [], s)
          | s => (parseMembers (parseValue depth) s.length s).map fun r => (.obj r.1, r.2)
      | s => parseAtom s

/-- `json.loads`, `none` where it raises `JSONDecodeError`. -/
def loads (s : Str) : Option Json := do
  let r ← parseValue (s.length + 1) (skipSpace s)
  if skipSpace r.2 = [] then some r.1 else none

/-! ## Looking at values -/

/-- The value of a key of an object.  Of members with one key the last counts. -/
def lookup (key : Str) : List (Str × Json) → Option Json
  | [] => none
  | (k, v) :: members => lookup key members <|> if k = key then some v else none

/-- `value[key]`, `none` where it raises. -/
def item? (key : Str) : Json → Option Json
  | .obj members => lookup key members
  | _ => none

/-- `value.get(key)`, `none` where it raises. -/
def get? (key : Str) : Json → Option Json
  | .obj members => some ((lookup key members).getD .null)
  | _ => none

/-- `bool(value)`.  A literal stands for zero when no digit before its exponent is another;
one that is too small for a float is not told from its neighbours. -/
def truthy : Json → Bool
  | .null => false
  | .bool b => b
  | .int n => n != 0
  | .float literal =>
      literal ∈ (["NaN", "Infinity", "-Infinity"] : List Str) ||
        (literal.takeWhile fun c => c != 'e' && c != 'E').any fun c => c.isDigit && c != '0'
  | .str s => !s.isEmpty
  | .arr items => !items.isEmpty
  | .obj members => !members.isEmpty

example : loads "[[\"a\", \"int\"], [\"b\\u00e9\",\"text\"]]" =
    some (.arr [.arr [.str "a", .str "int"], .arr [.str "bé", .str "text"]]) := by
  decide +kernel

end Json

end Py
