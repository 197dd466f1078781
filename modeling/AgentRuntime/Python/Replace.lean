import Mathlib.Tactic.Common

/-!
# Replacement in a text

`str.replace(old, new)`: the occurrences of a text that is not empty are replaced from the left, without
overlap: one at the beginning comes first (`replace_append`), and a text without any stays as it is.
-/

namespace AgentRuntime

variable {α : Type} [DecidableEq α] (old new : List α)

/-- The occurrences of `old`, which is not empty, are replaced; `skip` characters are part of the last one. -/
def replaceFrom : Nat → List α → List α
  | _, [] => []
  | skip + 1, _ :: text => replaceFrom skip text
  | 0, c :: text =>
    if old.isPrefixOf (c :: text) then new ++ replaceFrom (old.length - 1) text
    else c :: replaceFrom 0 text

/-- `text.replace(old, new)`, where `old` is not empty. -/
def replace (text : List α) : List α := replaceFrom old new 0 text

variable {old new}

/-- The characters of a replaced text are skipped. -/
theorem replaceFrom_drop (skip : Nat) (text : List α) :
    replaceFrom old new skip text = replace old new (text.drop skip) := by
  induction skip generalizing text with
  | zero => rfl
  | succ skip ih =>
    cases text with
    | nil => rfl
    | cons c text => exact ih text

/-- An occurrence at the beginning. -/
theorem replace_append (hold : old ≠ []) (text : List α) :
    replace old new (old ++ text) = new ++ replace old new text := by
  obtain ⟨c, rest, rfl⟩ := List.exists_cons_of_ne_nil hold
  have hprefix : (c :: rest).isPrefixOf (c :: (rest ++ text)) = true :=
    List.isPrefixOf_iff_prefix.2 (List.prefix_append (c :: rest) text)
  rw [List.cons_append, replace, replaceFrom, if_pos hprefix, replaceFrom_drop]
  simp

/-- A text that does not contain the old one is left as it is. -/
theorem replace_of_not_infix (text : List α) (h : ¬old <:+: text) : replace old new text = text := by
  induction text with
  | nil => rfl
  | cons c text ih =>
    have hprefix : ¬old.isPrefixOf (c :: text) = true := fun hprefix =>
      h (List.isPrefixOf_iff_prefix.1 hprefix).isInfix
    rw [replace, replaceFrom, if_neg hprefix]
    exact congrArg (c :: ·) (ih fun hinfix => h (List.infix_cons hinfix))

end AgentRuntime
