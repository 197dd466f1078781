import Mathlib.Tactic.Common

/-!
# Characters in regular expressions

The classes `\s`, `\d` and `\w` on `str`, and what `re.IGNORECASE` makes of a set of ASCII characters. The
white space is listed; which characters are decimal digits and which are alphanumeric is a matter of the
Unicode database (`Unicode`), of which only the ASCII part and the inclusions between the classes are
fixed here.
-/

namespace AgentRuntime

/-- The code points of white space. -/
def whitespace : List Nat :=
  List.range' 0x09 5 ++ List.range' 0x1C 5 ++ [0x85, 0xA0, 0x1680] ++ List.range' 0x2000 11 ++
    [0x2028, 0x2029, 0x202F, 0x205F, 0x3000]

/-- `str.isspace` of one character: `\s`. -/
def isspace (c : Char) : Bool := whitespace.contains c.toNat

/-- What holds of the listed characters holds of white space. -/
theorem forall_isspace {P : Char → Prop} (h : ∀ n ∈ whitespace, P (Char.ofNat n)) :
    ∀ c, isspace c → P c := by
  intro c hc
  have hP := h c.toNat (List.contains_iff_mem.1 hc)
  rwa [Char.ofNat_toNat] at hP

/-- What the Unicode database says of a character. -/
structure Unicode where
  /-- `str.isdecimal`: `\d`. -/
  isdecimal : Char → Bool
  isalnum : Char → Bool
  isdecimal_ascii : ∀ c, c.toNat < 128 → isdecimal c = c.isDigit
  isalnum_ascii : ∀ c, c.toNat < 128 → isalnum c = c.isAlphanum
  isalnum_of_isdecimal : ∀ c, isdecimal c → isalnum c
  isalnum_of_isspace : ∀ c, isspace c → isalnum c = false

namespace Unicode

/-- The characters of a word: `\w`. -/
def isWord (unicode : Unicode) (c : Char) : Bool := unicode.isalnum c || c == '_'

/-- A database that knows the ASCII characters only. -/
def ascii : Unicode where
  isdecimal c := c.isDigit
  isalnum c := c.isAlphanum
  isdecimal_ascii _ _ := rfl
  isalnum_ascii _ _ := rfl
  isalnum_of_isdecimal c h := by simp [Char.isAlphanum, h]
  isalnum_of_isspace := forall_isspace (by decide)

/-- White space is no digit. -/
theorem isdecimal_of_isspace (unicode : Unicode) {c : Char} (h : isspace c) :
    unicode.isdecimal c = false := by
  cases hc : unicode.isdecimal c with
  | false => rfl
  | true =>
    have halnum := unicode.isalnum_of_isspace c h
    rw [unicode.isalnum_of_isdecimal c hc] at halnum
    cases halnum

end Unicode

/-- A set of characters, given by its ranges and its single members: `[…]`. -/
def inSet (ranges : List (Char × Char)) (singles : List Char) (c : Char) : Bool :=
  ranges.any (fun r => r.1 ≤ c && c ≤ r.2) || singles.contains c

/-- The lower case of an ASCII letter, and of the four other characters that `re.IGNORECASE` takes for
one. -/
def ignoreCase (c : Char) : Char :=
  match c with
  | '\u0130' | '\u0131' => 'i'
  | '\u017f' => 's'
  | '\u212a' => 'k'
  | c => c.toLower

/-- A set of ASCII characters under `re.IGNORECASE`; it holds both cases of its letters. -/
def caseless (p : Char → Bool) (c : Char) : Bool := p (ignoreCase c)

end AgentRuntime
