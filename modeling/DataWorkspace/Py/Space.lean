import DataWorkspace.Py.Text

/-!
# White space

The white space of Python, beyond ASCII too: what `str.isspace` and `\s` take for white
space and `str.strip` takes off.
-/

namespace Py

/-- `\s`. -/
def isspace (c : Char) : Bool :=
  let n := c.toNat
  (9 ≤ n && n ≤ 13) || (28 ≤ n && n ≤ 32) || n == 0x85 || n == 0xa0 || n == 0x1680 ||
    (0x2000 ≤ n && n ≤ 0x200a) || n == 0x2028 || n == 0x2029 || n == 0x202f || n == 0x205f ||
    n == 0x3000

/-- `s.strip()`. -/
def stripSpace (s : Str) : Str := ((s.dropWhile isspace).reverse.dropWhile isspace).reverse

end Py
