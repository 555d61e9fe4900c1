import Mathlib.Data.List.Nodup

/-!
# `EvalHub.Python.Str`: the `str` methods the service calls

A Python `str` is a sequence of code points, and a Lean `String` is a list of `Char`s,
so `len`, slicing, `startswith` and `endswith` read `String.data` directly.

`strip()` removes the characters `str.isspace()` accepts. CPython's table of them is
short and fixed, so `whitespace` lists it in full: `strip` here is CPython's on every
string.

`lower()` and `upper()` follow the Unicode case tables, which the model does not carry.
They enter through the class `PyCase`, with the one law the proofs use: on ASCII text
`lower()` maps `A`–`Z` to `a`–`z` and leaves every other character alone. Every theorem
stated over `[PyCase]` therefore holds for CPython's own case mapping.
-/

set_option autoImplicit false

namespace EvalHub.Python

/-- The characters `str.isspace()` accepts, the ones `str.strip()` removes: U+0009 to
U+000D, U+001C to U+001F, the space, U+0085, U+00A0, U+1680, U+2000 to U+200A, U+2028,
U+2029, U+202F, U+205F and U+3000. -/
def whitespace : List Char :=
  ['\t', '\n', '\x0b', '\x0c', '\r', '\x1c', '\x1d', '\x1e', '\x1f', ' ', '\x85', '\xa0',
    ' ', ' ', ' ', ' ', ' ', ' ', ' ', ' ',
    ' ', ' ', ' ', ' ', ' ', ' ', ' ', ' ',
    '　']

/-- `c.isspace()` for a single character. -/
def isspace (c : Char) : Bool := decide (c ∈ whitespace)

/-- `s.strip()`: the string without its leading and trailing white space. -/
def strip (s : String) : String :=
  ⟨((s.data.dropWhile isspace).reverse.dropWhile isspace).reverse⟩

/-- `s.startswith(p)`. -/
def startswith (s p : String) : Bool := p.data.isPrefixOf s.data

/-- `s.endswith(p)`. -/
def endswith (s p : String) : Bool := p.data.isSuffixOf s.data

/-- A string of ASCII characters only. -/
def IsAscii (s : String) : Prop := ∀ c ∈ s.data, c.toNat < 128

instance (s : String) : Decidable (IsAscii s) :=
  inferInstanceAs (Decidable (∀ c ∈ s.data, c.toNat < 128))

/-- Python's `str.lower()` and `str.upper()`. -/
class PyCase where
  /-- `s.lower()`. -/
  lower : String → String
  /-- `s.upper()`. -/
  upper : String → String
  /-- On ASCII text, `lower()` is the ASCII case mapping. -/
  lower_ascii : ∀ s : String, IsAscii s → lower s = ⟨s.data.map Char.toLower⟩

export PyCase (lower upper)

/-- A string with no ASCII capital that is ASCII is its own `lower()`. -/
theorem lower_eq_self [PyCase] (s : String) (hs : IsAscii s)
    (hl : s.data.map Char.toLower = s.data) : lower s = s := by
  rw [PyCase.lower_ascii s hs, hl]

end EvalHub.Python

namespace EvalHub.Sample

open EvalHub.Python

/-- The ASCII case mapping, the one CPython's `lower()` and `upper()` apply to ASCII
text. The concrete runs of the proofs use it. -/
scoped instance asciiCase : PyCase where
  lower s := ⟨s.data.map Char.toLower⟩
  upper s := ⟨s.data.map Char.toUpper⟩
  lower_ascii _ _ := rfl

end EvalHub.Sample
