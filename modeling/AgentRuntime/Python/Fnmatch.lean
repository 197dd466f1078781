import Mathlib.Tactic.Common

/-!
# Shell-style wildcards

`fnmatch.fnmatch(value, pattern)` on a POSIX system: `*` matches everything, `?` any single
character, `[seq]` any character in `seq` and `[!seq]` any character not in it. A `]` right after
the opening bracket belongs to the sequence, and a bracket that is never closed is a literal one.
-/

namespace AgentRuntime.Fnmatch

/-- One element of a pattern. -/
inductive Token where
  | star
  | any
  | lit (c : Char)
  | set (negated : Bool) (ranges : List (Char × Char))
  deriving Repr

/-- The ranges of a sequence; a single character is the range from itself to itself. -/
def ranges : List Char → List (Char × Char)
  | a :: '-' :: b :: rest => (a, b) :: ranges rest
  | a :: rest => (a, a) :: ranges rest
  | [] => []

/-- Split at the closing bracket of a sequence; a bracket in the first place does not close it. -/
def splitSet : List Char → Option (List Char × List Char)
  | [] => none
  | first :: rest =>
    let (body, tail) := rest.span (· ≠ ']')
    match tail with
    | _ :: tail => some (first :: body, tail)
    | [] => none

/-- The tokens of a pattern; `fuel` bounds its length. -/
def tokens : Nat → List Char → List Token
  | 0, _ => []
  | _, [] => []
  | n + 1, '*' :: cs => .star :: tokens n cs
  | n + 1, '?' :: cs => .any :: tokens n cs
  | n + 1, '[' :: '!' :: cs =>
    match splitSet cs with
    | some (body, tail) => .set true (ranges body) :: tokens n tail
    | none => .lit '[' :: tokens n ('!' :: cs)
  | n + 1, '[' :: cs =>
    match splitSet cs with
    | some (body, tail) => .set false (ranges body) :: tokens n tail
    | none => .lit '[' :: tokens n cs
  | n + 1, c :: cs => .lit c :: tokens n cs

/-- Whether a token that is not a star matches the character. -/
def Token.matchesChar (c : Char) : Token → Bool
  | .star => false
  | .any => true
  | .lit d => c == d
  | .set negated rs => (rs.any fun r => r.1 ≤ c && c ≤ r.2) != negated

/-- Whether the text from one of its suffixes on matches, for each way a star can stop. -/
def anySuffix (p : List Char → Bool) : List Char → Bool
  | [] => p []
  | c :: cs => p (c :: cs) || anySuffix p cs

/-- Whether the tokens match the whole text. -/
def matchTokens : List Token → List Char → Bool
  | [], cs => cs.isEmpty
  | .star :: ts, cs => anySuffix (matchTokens ts) cs
  | _ :: _, [] => false
  | t :: ts, c :: cs => t.matchesChar c && matchTokens ts cs

/-- `fnmatch.fnmatch(value, pattern)`. -/
def fnmatch (value pattern : String) : Bool :=
  matchTokens (tokens pattern.length pattern.toList) value.toList

example : fnmatch "s3://reports/q1.csv" "s3://*/q[0-9].?sv" = true := by decide

end AgentRuntime.Fnmatch
