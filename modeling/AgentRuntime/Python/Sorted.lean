import Mathlib.Data.List.Sort

/-!
# The first match of a stable sort

`next(a for a in sorted(l, key=lambda a: -key(a)) if p(a))`: a list is sorted by descending keys, where
elements of one key keep their order, and searched from the front. What is found is, of the elements that
match, the first of those with the greatest key (`find?_insertionSort_eq_some_iff`).
-/

namespace StableSort

variable {α : Type} {key : α → Int} {p : α → Bool} {l : List α} {a : α} {i : Nat}

/-- The `i`-th element of the list is `a`, it matches, and any other that matches has a smaller key, or
the same one and a later place. -/
structure FirstGreatest (key : α → Int) (p : α → Bool) (l : List α) (i : Nat) (a : α) : Prop where
  get : l[i]? = some a
  holds : p a = true
  greatest : ∀ j b, l[j]? = some b → p b = true → key b < key a ∨ key b = key a ∧ i ≤ j

/-- The first of the greatest is an element of the list. -/
theorem FirstGreatest.mem (h : FirstGreatest key p l i a) : a ∈ l := List.mem_of_getElem? h.get

/-- There is at most one. -/
theorem FirstGreatest.unique {j : Nat} {b : α} (h : FirstGreatest key p l i a)
    (h' : FirstGreatest key p l j b) : i = j ∧ a = b := by
  have hij : i = j := by
    have hle := h.greatest j b h'.get h'.holds
    have hge := h'.greatest i a h.get h.holds
    omega
  subst hij
  exact ⟨rfl, Option.some.inj (h.get.symm.trans h'.get)⟩

/-- It stays so behind an element that does not match or has a smaller key. -/
theorem FirstGreatest.cons {b : α} (h : FirstGreatest key p l i a) (hb : p b = true → key b < key a) :
    FirstGreatest key p (b :: l) (i + 1) a where
  get := h.get
  holds := h.holds
  greatest := by
    intro j c hc hpc
    cases j with
    | zero =>
      obtain rfl : b = c := Option.some.inj hc
      exact .inl (hb hpc)
    | succ j =>
      have hle := h.greatest j c hc hpc
      omega

/-- An element that matches is found in front of those with no greater key. -/
theorem firstGreatest_cons_zero (ha : p a = true) (h : ∀ b ∈ l, p b = true → key b ≤ key a) :
    FirstGreatest key p (a :: l) 0 a where
  get := rfl
  holds := ha
  greatest := by
    intro j b hb hpb
    cases j with
    | zero =>
      obtain rfl : a = b := Option.some.inj hb
      exact .inr ⟨rfl, Nat.le_refl 0⟩
    | succ j =>
      have hle := h b (List.mem_of_getElem? hb) hpb
      omega

/-- An element is inserted before those with no greater key, and is found if it matches and no element
with a greater key does. -/
theorem find?_orderedInsert (hsorted : l.Pairwise fun a b => key b ≤ key a) (b : α) :
    (l.orderedInsert (fun a b => key b ≤ key a) b).find? p =
      if p b = true ∧ ∀ c ∈ l.find? p, key c ≤ key b then some b else l.find? p := by
  induction l with
  | nil => cases hb : p b <;> simp [hb]
  | cons c l ih =>
    obtain ⟨hc, hl⟩ := List.pairwise_cons.1 hsorted
    by_cases hle : key c ≤ key b
    · -- `b` comes first, and no key of the list is greater
      have hgreatest : ∀ d ∈ (c :: l).find? p, key d ≤ key b := by
        intro d hd
        rcases List.mem_cons.1 (List.mem_of_find?_eq_some hd) with rfl | hmem
        · exact hle
        · exact le_trans (hc d hmem) hle
      rw [List.orderedInsert_cons, if_pos hle, List.find?_cons]
      cases hb : p b with
      | true => rw [if_pos ⟨rfl, hgreatest⟩]
      | false => rw [if_neg fun h => by cases h.1]
    · rw [List.orderedInsert_cons, if_neg hle, List.find?_cons, List.find?_cons, ih hl]
      cases hp : p c with
      | true => exact (if_neg fun h => hle (h.2 c rfl)).symm
      | false => rfl

/-- What is found first in the sorted list is the first of the greatest. -/
theorem firstGreatest_of_find? (h : (l.insertionSort fun a b => key b ≤ key a).find? p = some a) :
    ∃ i, FirstGreatest key p l i a := by
  induction l generalizing a with
  | nil => cases h
  | cons b l ih =>
    rw [List.insertionSort_cons, find?_orderedInsert (List.pairwise_insertionSort _ l)] at h
    split at h
    · next hfirst =>
      obtain ⟨hb, hgreatest⟩ := hfirst
      obtain rfl := Option.some.inj h
      refine ⟨0, firstGreatest_cons_zero hb fun c hc hpc => ?_⟩
      obtain ⟨d, hd⟩ : ∃ d, (l.insertionSort fun a b => key b ≤ key a).find? p = some d :=
        Option.isSome_iff_exists.1 (List.find?_isSome.2 ⟨c, (List.mem_insertionSort _).2 hc, hpc⟩)
      obtain ⟨i, hfirst⟩ := ih hd
      obtain ⟨j, hj⟩ := List.mem_iff_getElem?.1 hc
      have hle := hfirst.greatest j c hj hpc
      have hdb := hgreatest d hd
      omega
    · next hlater =>
      obtain ⟨i, hfirst⟩ := ih h
      refine ⟨i + 1, hfirst.cons fun hb => ?_⟩
      by_contra hle
      refine hlater ⟨hb, fun c hc => ?_⟩
      obtain rfl : a = c := Option.some.inj (h.symm.trans hc)
      exact not_lt.1 hle

/-- What is found after sorting. -/
theorem find?_insertionSort_eq_some_iff :
    (l.insertionSort fun a b => key b ≤ key a).find? p = some a ↔ ∃ i, FirstGreatest key p l i a := by
  constructor
  · exact firstGreatest_of_find?
  · rintro ⟨i, hfirst⟩
    obtain ⟨b, hb⟩ : ∃ b, (l.insertionSort fun a b => key b ≤ key a).find? p = some b :=
      Option.isSome_iff_exists.1
        (List.find?_isSome.2 ⟨a, (List.mem_insertionSort _).2 hfirst.mem, hfirst.holds⟩)
    obtain ⟨j, hfirst'⟩ := firstGreatest_of_find? hb
    rw [hb, (hfirst.unique hfirst').2]

/-- Nothing is found exactly if no element has the property. -/
theorem find?_insertionSort_eq_none_iff :
    (l.insertionSort fun a b => key b ≤ key a).find? p = none ↔ ∀ a ∈ l, p a = false := by
  simp only [List.find?_eq_none, List.mem_insertionSort, Bool.not_eq_true]

/-- Elements that cannot match may be left out before sorting. -/
theorem find?_insertionSort_filter {q : α → Bool} (hq : ∀ a, p a = true → q a = true) :
    ((l.filter q).insertionSort fun a b => key b ≤ key a).find? p =
      (l.insertionSort fun a b => key b ≤ key a).find? p := by
  induction l with
  | nil => rfl
  | cons b l ih =>
    rw [List.insertionSort_cons, find?_orderedInsert (List.pairwise_insertionSort _ l)]
    cases hb : q b with
    | true =>
      rw [List.filter_cons_of_pos hb, List.insertionSort_cons,
        find?_orderedInsert (List.pairwise_insertionSort _ _), ih]
    | false =>
      rw [List.filter_cons_of_neg (by rw [hb]; exact Bool.false_ne_true), ih, if_neg]
      rintro ⟨hp, -⟩
      rw [hq b hp] at hb
      cases hb

end StableSort
