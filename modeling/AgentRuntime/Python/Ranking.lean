import Mathlib.Data.List.Sort

/-!
# The best of a list

`IsBest above k l best`: of the list `l`, `best` has the `k` elements that are above all others, or all of
them if there are no more, from the highest down. A list that is sorted from the highest down begins with its
best (`isBest_take`). To cut off a sorted list and then to filter it gives the best of what passes the filter
only in part (`filter_take_prefix`); `length_filter_take_iff` says when it gives all of it.
-/

namespace Ranking

variable {α : Type} {above : α → α → Prop} {k : Nat} {l best : List α}

/-- The best `k` elements of the list, from the highest down. -/
structure IsBest (above : α → α → Prop) (k : Nat) (l best : List α) : Prop where
  sorted : best.Pairwise above
  mem : ∀ a ∈ best, a ∈ l
  length : best.length = min k l.length
  above_rest : ∀ a ∈ l, a ∉ best → ∀ b ∈ best, above b a

/-- The first `k` of a ranked list are a best choice of `k`. -/
theorem isBest_take {ranked : List α} (hsorted : ranked.Pairwise above) (hperm : ranked.Perm l) (k : Nat) :
    IsBest above k l (ranked.take k) where
  sorted := hsorted.sublist (List.take_sublist k ranked)
  mem a ha := hperm.subset (List.mem_of_mem_take ha)
  length := by rw [List.length_take, hperm.length_eq]
  above_rest a ha hnot b hb := by
    have hrest : a ∈ ranked.drop k := by
      have hranked := hperm.symm.subset ha
      rw [← List.take_append_drop k ranked] at hranked
      exact (List.mem_append.1 hranked).resolve_left hnot
    rw [← List.take_append_drop k ranked, List.pairwise_append] at hsorted
    exact hsorted.2.2 b hb a hrest

variable (p : α → Bool)

/-- What is left of the first `k` elements comes first of what is left. -/
theorem filter_take_prefix (k : Nat) (l : List α) : (l.take k).filter p <+: (l.filter p).take k := by
  have hsplit : l.filter p = (l.take k).filter p ++ (l.drop k).filter p := by
    rw [← List.filter_append, List.take_append_drop]
  have hlength : ((l.take k).filter p).length ≤ k :=
    (List.length_filter_le _ _).trans (List.length_take_le k l)
  rw [hsplit, List.take_append, List.take_of_length_le hlength]
  exact List.prefix_append _ _

/-- It is all of it exactly if the first `k` elements all pass, or none of the others does. -/
theorem length_filter_take_iff (k : Nat) (l : List α) :
    ((l.take k).filter p).length = ((l.filter p).take k).length ↔
      (∀ a ∈ l.take k, p a = true) ∨ ∀ a ∈ l.drop k, p a = false := by
  have hsplit : l.filter p = (l.take k).filter p ++ (l.drop k).filter p := by
    rw [← List.filter_append, List.take_append_drop]
  have hall : (l.take k).length = ((l.take k).filter p).length ↔ ∀ a ∈ l.take k, p a = true := by
    rw [eq_comm, List.length_filter_eq_length_iff]
  have hnone : ((l.drop k).filter p).length = 0 ↔ ∀ a ∈ l.drop k, p a = false := by
    rw [List.length_eq_zero_iff, List.filter_eq_nil_iff]
    simp
  have hle := List.length_filter_le p (l.take k)
  have hrest := List.length_filter_le p (l.drop k)
  rw [List.length_drop] at hrest
  rw [← hall, ← hnone, hsplit, List.length_take, List.length_append, List.length_take]
  rw [List.length_take] at hle
  omega

end Ranking
