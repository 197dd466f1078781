import Mathlib.Algebra.BigOperators.Group.List.Basic
import Mathlib.Algebra.Ring.Int.Defs
import Mathlib.Data.List.Dedup

/-!
# Groups of rows

`GROUP BY` a key, and the sums over the groups: together they are the sum over the rows
(`sum_groupBy`). `nullableSum` is the aggregate `SUM` over values that may be missing.
-/

namespace Groups

variable {α β κ M : Type} [DecidableEq κ]

/-- The rows with the key `k`. -/
def group (key : α → κ) (rows : List α) (k : κ) : List α := rows.filter fun row => key row = k

/-- One result for each key that occurs. -/
def groupBy (key : α → κ) (aggregate : List α → β) (rows : List α) : List (κ × β) :=
  (rows.map key).dedup.map fun k => (k, aggregate (group key rows k))

/-- `SUM`: nothing, if no value is there. -/
def nullableSum (values : List (Option Int)) : Option Int :=
  match values.filterMap id with
  | [] => none
  | values => some values.sum

/-- A row joins the group of its own key. -/
theorem group_cons (key : α → κ) (row : α) (rows : List α) (k : κ) :
    group key (row :: rows) k = if key row = k then row :: group key rows k else group key rows k := by
  unfold group
  rw [List.filter_cons]
  split <;> simp_all

section
variable [AddCommMonoid M] {key : α → κ} {f : α → M}

/-- The groups of keys among which are those of the rows have the sum of the rows. -/
theorem sum_groups_of_mem {rows : List α} {keys : List κ} (hnodup : keys.Nodup)
    (hmem : ∀ row ∈ rows, key row ∈ keys) :
    (keys.map fun k => ((group key rows k).map f).sum).sum = (rows.map f).sum := by
  induction rows with
  | nil => simp [group]
  | cons row rows ih =>
    obtain ⟨hrow, hrows⟩ := List.forall_mem_cons.1 hmem
    have hsplit (k : κ) : ((group key (row :: rows) k).map f).sum =
        (if key row = k then f row else 0) + ((group key rows k).map f).sum := by
      rw [group_cons]
      split
      · rw [List.map_cons, List.sum_cons]
      · rw [zero_add]
    have hone : (keys.map fun k => if key row = k then f row else 0).sum = f row := by
      rw [List.sum_map_eq_nsmul_single (key row) _ fun k hne _ => if_neg (Ne.symm hne), if_pos rfl,
        List.count_eq_one_of_mem hnodup hrow, one_nsmul]
    simp only [hsplit]
    rw [List.sum_map_add, hone, ih hrows, List.map_cons, List.sum_cons]

/-- The sums over the groups, however they are read off the results, are together the sum over the rows. -/
theorem sum_groupBy {aggregate : List α → β} (figure : β → M)
    (haggregate : ∀ rows, figure (aggregate rows) = (rows.map f).sum) (key : α → κ) (rows : List α) :
    ((groupBy key aggregate rows).map fun group => figure group.2).sum = (rows.map f).sum := by
  have hmem : ∀ row ∈ rows, key row ∈ (rows.map key).dedup := fun row hrow =>
    List.mem_dedup.2 (List.mem_map_of_mem hrow)
  rw [groupBy, List.map_map, ← sum_groups_of_mem (List.nodup_dedup _) hmem]
  exact congrArg List.sum (List.map_congr_left fun k _ => haggregate (group key rows k))

/-- The rows with a property, split by another one. -/
theorem sum_filter_split (f : α → M) (p q : α → Prop) [DecidablePred p] [DecidablePred q] (rows : List α) :
    ((rows.filter fun row => p row).map f).sum =
      ((rows.filter fun row => p row ∧ q row).map f).sum +
        ((rows.filter fun row => p row ∧ ¬q row).map f).sum := by
  induction rows with
  | nil => simp
  | cons row rows ih =>
    by_cases hp : p row <;> by_cases hq : q row <;>
      simp [hp, hq, ih, add_assoc, add_left_comm]

end

/-- A missing value counts for nothing. -/
theorem nullableSum_getD (values : List (Option Int)) :
    (nullableSum values).getD 0 = (values.map fun value => value.getD 0).sum := by
  have hsum : (values.map fun value => value.getD 0).sum = (values.filterMap id).sum := by
    induction values with
    | nil => rfl
    | cons value values ih => cases value <;> simp [ih]
  rw [hsum, nullableSum]
  split
  · next h => rw [h]; rfl
  · rfl

end Groups
