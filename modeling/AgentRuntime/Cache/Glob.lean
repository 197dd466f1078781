import Mathlib.Tactic.Common

/-!
# Patterns of Redis

`stringmatchlen`, by which `SCAN` and `KEYS` compare a pattern with a key, byte by byte: `*` matches
everything, `?` any byte, `[…]` any byte of a class and `[^…]` any other, and a backslash takes the byte
after it as it is. A class that is never closed ends with the pattern, and the bounds of a range may come
in either order; they are compared as characters of the platform (`code`), which are signed on some. The
limit on the nesting of stars is left out.
-/

namespace Redis

/-- The bytes of a string. -/
def bytes (s : String) : List UInt8 := s.toByteArray.data.toList

/-- The bytes of a text joined to another are those of the two, in turn. -/
theorem bytes_append (s t : String) : bytes (s ++ t) = bytes s ++ bytes t := by
  simp [bytes, String.toByteArray_append]

namespace Glob

/-- A member of a class. -/
inductive ClassItem where
  | byte (b : UInt8)
  | range (first last : UInt8)
  deriving Repr

/-- One element of a pattern. -/
inductive Token where
  | star
  | any
  | byte (b : UInt8)
  | cls (negated : Bool) (items : List ClassItem)
  deriving Repr

/-- The members of a class, and what comes after it: `\`, `]` and `-` are 92, 93 and 45. -/
def classItems : List UInt8 → List ClassItem × List UInt8
  | 92 :: b :: rest => (.byte b :: (classItems rest).1, (classItems rest).2)
  | 93 :: rest => ([], rest)
  | b :: 45 :: last :: rest => (.range b last :: (classItems rest).1, (classItems rest).2)
  | b :: rest => (.byte b :: (classItems rest).1, (classItems rest).2)
  | [] => ([], [])

/-- The elements of a pattern; `fuel` bounds its length. `*`, `?`, `[` and `^` are 42, 63, 91 and 94. -/
def tokens : Nat → List UInt8 → List Token
  | n + 1, 42 :: rest => .star :: tokens n rest
  | n + 1, 63 :: rest => .any :: tokens n rest
  | n + 1, 91 :: 94 :: rest => .cls true (classItems rest).1 :: tokens n (classItems rest).2
  | n + 1, 91 :: rest => .cls false (classItems rest).1 :: tokens n (classItems rest).2
  | n + 1, 92 :: b :: rest => .byte b :: tokens n rest
  | n + 1, b :: rest => .byte b :: tokens n rest
  | 0, _ | _, [] => []

variable (code : UInt8 → Int)

/-- Whether the member of a class is the byte, or has it in its range. -/
def ClassItem.contains (b : UInt8) : ClassItem → Bool
  | .byte b' => b' == b
  | .range first last =>
    min (code first) (code last) ≤ code b && code b ≤ max (code first) (code last)

/-- Whether an element other than a star matches the byte. -/
def Token.matchesByte (b : UInt8) : Token → Bool
  | .star => false
  | .any => true
  | .byte b' => b' == b
  | .cls negated items => (items.any fun item => item.contains code b) != negated

/-- Whether the key from one of its suffixes on matches, for each way a star can stop. -/
def anySuffix (p : List UInt8 → Bool) : List UInt8 → Bool
  | [] => p []
  | b :: bs => p (b :: bs) || anySuffix p bs

/-- Whether the elements match the whole key. -/
def matchTokens : List Token → List UInt8 → Bool
  | [], bs => bs.isEmpty
  | .star :: ts, bs => anySuffix (matchTokens ts) bs
  | _ :: _, [] => false
  | t :: ts, b :: bs => t.matchesByte code b && matchTokens ts bs

/-- Whether the key matches the pattern. -/
def globMatches (pattern key : String) : Bool :=
  matchTokens code (tokens (bytes pattern).length (bytes pattern)) (bytes key)

/-! ## Patterns without special bytes -/

variable {code}

/-- The byte stands for itself in a pattern. -/
def Plain (b : UInt8) : Prop := b ≠ 42 ∧ b ≠ 63 ∧ b ≠ 91 ∧ b ≠ 92

instance (b : UInt8) : Decidable (Plain b) := inferInstanceAs (Decidable (_ ∧ _))

/-- A byte that has no meaning in a pattern stands for itself. -/
theorem tokens_cons_of_plain {b : UInt8} (h : Plain b) (n : Nat) (rest : List UInt8) :
    tokens (n + 1) (b :: rest) = .byte b :: tokens n rest := by
  obtain ⟨hstar, hany, hclass, hescape⟩ := h
  rw [tokens]
  all_goals grind

/-- Bytes that stand for themselves, before a pattern, match a key that begins with them. -/
theorem matchTokens_append_of_plain {bs : List UInt8} (h : ∀ b ∈ bs, Plain b) (rest key : List UInt8) :
    matchTokens code (tokens (bs ++ rest).length (bs ++ rest)) key = true ↔
      ∃ key', key = bs ++ key' ∧ matchTokens code (tokens rest.length rest) key' = true := by
  induction bs generalizing key with
  | nil => simp
  | cons b bs ih =>
    obtain ⟨hb, hbs⟩ := List.forall_mem_cons.1 h
    rw [List.cons_append, List.length_cons, tokens_cons_of_plain hb]
    cases key with
    | nil => simp [matchTokens]
    | cons c key =>
      simp only [matchTokens, Token.matchesByte, Bool.and_eq_true, beq_iff_eq, ih hbs, List.cons_append,
        List.cons.injEq]
      constructor
      · rintro ⟨rfl, key', rfl, hkey'⟩
        exact ⟨key', ⟨rfl, rfl⟩, hkey'⟩
      · rintro ⟨key', ⟨rfl, rfl⟩, hkey'⟩
        exact ⟨rfl, key', rfl, hkey'⟩

/-- Every text has the empty text at its end. -/
theorem anySuffix_isEmpty (bs : List UInt8) : anySuffix List.isEmpty bs = true := by
  induction bs with
  | nil => rfl
  | cons b bs ih => rw [anySuffix, ih, Bool.or_true]

/-- What stands for itself, and a star after it, match the keys that begin so. -/
theorem globMatches_star_iff {stem : String} (h : ∀ b ∈ bytes stem, Plain b) (key : String) :
    globMatches code (stem ++ "*") key = true ↔ bytes stem <+: bytes key := by
  have hstar : bytes "*" = [42] := by decide +kernel
  rw [globMatches, bytes_append, hstar, matchTokens_append_of_plain h]
  constructor
  · rintro ⟨key', hkey, -⟩
    exact ⟨key', hkey.symm⟩
  · rintro ⟨key', hkey⟩
    exact ⟨key', hkey.symm, anySuffix_isEmpty key'⟩

end Glob

end Redis
