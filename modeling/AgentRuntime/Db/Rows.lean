import Mathlib.Tactic.Common

/-!
# Rows under a key

A table as the list of its rows, with a function that gives a row's primary key. The rules say what is
found after the rows have changed in place (`find_map`), or one of them was overwritten (`find_put`). In what
order a statement finds the rows is open where it has no `ORDER BY` (`RowOrder`).
-/

/-- The order in which a statement without `ORDER BY` finds the rows. -/
structure RowOrder (α : Type) where
  arrange : List α → List α := id
  perm : ∀ rows, (arrange rows).Perm rows := by exact fun _ => .refl _

namespace Rows

variable {α κ : Type} [DecidableEq κ] {key : α → κ} {rows : List α} {row : α} {k : κ}

/-- The row with this key. -/
def find (key : α → κ) (rows : List α) (k : κ) : Option α := rows.find? fun row => key row = k

/-- The row with the key of `row` is overwritten by it. -/
def put (key : α → κ) (rows : List α) (row : α) : List α :=
  rows.map fun old => if key old = key row then row else old

/-- A row is found under its own key. -/
theorem key_of_find (h : find key rows k = some row) : key row = k := by
  simpa using List.find?_some h

/-- Rows that change in place are found as they have become. -/
theorem find_map {f : α → α} (hkey : ∀ row, key (f row) = key row) (rows : List α) (k : κ) :
    find key (rows.map f) k = (find key rows k).map f := by
  unfold find
  induction rows with
  | nil => rfl
  | cons row rows ih =>
    rw [List.map_cons, List.find?_cons, List.find?_cons, hkey, ih]
    split <;> rfl

/-- A row is found as it was last put. -/
theorem find_put (rows : List α) (row : α) (k : κ) :
    find key (put key rows row) k =
      if key row = k then (find key rows k).map fun _ => row else find key rows k := by
  have hkey (old : α) : key (if key old = key row then row else old) = key old := by
    split
    · next h => exact h.symm
    · rfl
  rw [put, find_map hkey]
  split
  · next hk =>
    refine Option.map_congr fun old hold => ?_
    rw [key_of_find (Option.mem_def.1 hold), if_pos hk.symm]
  · next hk =>
    cases hfind : find key rows k with
    | none => rfl
    | some old =>
      have hne : key old ≠ key row := by
        rw [key_of_find hfind]
        exact fun h => hk h.symm
      rw [Option.map_some, if_neg hne]

/-- A row that is there is overwritten. -/
theorem find_put_of_find {old : α} (h : find key rows k = some old) (hkey : key row = k) :
    find key (put key rows row) k = some row := by
  rw [find_put, if_pos hkey, h, Option.map_some]

/-- Overwriting a row leaves the rows with other keys alone. -/
theorem find_put_of_ne (h : key row ≠ k) : find key (put key rows row) k = find key rows k := by
  rw [find_put, if_neg h]

/-- Where no two rows have one key, each is found. -/
theorem find_of_mem (hnodup : (rows.map key).Nodup) (hrow : row ∈ rows) : find key rows (key row) = some row := by
  unfold find
  induction rows with
  | nil => cases hrow
  | cons old rows ih =>
    obtain ⟨hnew, hnodup⟩ := List.nodup_cons.1 hnodup
    rcases List.mem_cons.1 hrow with rfl | hrow
    · rw [List.find?_cons, decide_eq_true rfl]
    · have hne : key old ≠ key row := fun heq => hnew (heq ▸ List.mem_map_of_mem hrow)
      rw [List.find?_cons, decide_eq_false hne]
      exact ih hnodup hrow

end Rows
