import Mathlib.Tactic.Common

/-!
# Dictionaries

A `dict` as the list of its items in the order of their insertion. An assignment to a key that is there keeps its
place. Where no key is there twice, what a key has after an assignment is told by `get?_set`, and the items are
what is got under the keys (`mem_iff_get?`).
-/

namespace OrderedDict

variable {κ β : Type} [DecidableEq κ]

/-- `d.get(key)`. -/
def get? (d : List (κ × β)) (k : κ) : Option β := (d.find? fun item => item.1 = k).map Prod.snd

/-- `d[key] = value`. -/
def set (d : List (κ × β)) (k : κ) (value : β) : List (κ × β) :=
  if (get? d k).isSome then d.map fun item => if item.1 = k then (k, value) else item else d ++ [(k, value)]

/-- An empty dictionary has no keys. -/
@[simp] theorem get?_nil (k : κ) : get? ([] : List (κ × β)) k = none := rfl

/-- The first item is found under its key, and hides the later ones with it. -/
theorem get?_cons (item : κ × β) (d : List (κ × β)) (k : κ) :
    get? (item :: d) k = if item.1 = k then some item.2 else get? d k := by
  unfold get?
  rw [List.find?_cons]
  by_cases h : item.1 = k <;> simp [h]

/-- In two dictionaries, one after the other, the first is looked at first. -/
theorem get?_append (d d' : List (κ × β)) (k : κ) : get? (d ++ d') k = (get? d k).or (get? d' k) := by
  simp [get?, List.find?_append, Option.map_or]

/-- What a key has after an assignment. -/
theorem get?_set (d : List (κ × β)) (k k' : κ) (value : β) :
    get? (set d k value) k' = if k = k' then some value else get? d k' := by
  unfold set
  cases hk : get? d k with
  | none =>
    rw [if_neg (by simp), get?_append, get?_cons, get?_nil]
    by_cases h : k = k'
    · subst h
      rw [if_pos rfl, if_pos rfl, hk]
      rfl
    · rw [if_neg h, if_neg h, Option.or_none]
  | some old =>
    rw [if_pos (by simp)]
    induction d with
    | nil => cases hk
    | cons item d ih =>
      rw [get?_cons] at hk
      rw [List.map_cons, get?_cons, get?_cons]
      by_cases hitem : item.1 = k
      · rw [if_pos hitem]
        by_cases h : k = k'
        · rw [if_pos h, if_pos h]
        · rw [if_neg h, if_neg h, if_neg (fun heq => h (hitem.symm.trans heq))]
          clear ih hk
          induction d with
          | nil => rfl
          | cons item' d ih =>
            rw [List.map_cons, get?_cons, get?_cons, ih]
            by_cases hitem' : item'.1 = k
            · rw [if_pos hitem', if_neg h, if_neg (fun heq => h (hitem'.symm.trans heq))]
            · rw [if_neg hitem']
      · rw [if_neg hitem] at hk
        rw [if_neg hitem, ih hk]
        by_cases h : k = k'
        · rw [if_pos h, if_pos h, if_neg (fun heq => hitem (heq.trans h.symm))]
        · rw [if_neg h, if_neg h]

/-- No key comes to be there twice. -/
theorem nodup_set {d : List (κ × β)} (h : (d.map Prod.fst).Nodup) (k : κ) (value : β) :
    ((set d k value).map Prod.fst).Nodup := by
  unfold set
  split
  · have hkeys (item : κ × β) : (if item.1 = k then (k, value) else item).1 = item.1 := by
      split
      · next hk => exact hk.symm
      · rfl
    rw [List.map_map]
    exact (List.map_congr_left fun item _ => hkeys item) ▸ h
  · next hnone =>
    rw [List.map_append, List.nodup_append]
    refine ⟨h, List.pairwise_singleton _ k, fun a ha b hb heq => ?_⟩
    obtain ⟨item, hitem, rfl⟩ := List.mem_map.1 ha
    have hkey : item.1 = k := heq.trans (List.mem_singleton.1 hb)
    refine hnone ?_
    rw [get?, Option.isSome_map, List.find?_isSome]
    exact ⟨item, hitem, decide_eq_true hkey⟩

/-- The items are what is got under the keys. -/
theorem mem_iff_get? {d : List (κ × β)} (h : (d.map Prod.fst).Nodup) {k : κ} {value : β} :
    (k, value) ∈ d ↔ get? d k = some value := by
  induction d with
  | nil => simp
  | cons item d ih =>
    obtain ⟨hnew, h⟩ := List.nodup_cons.1 h
    rw [get?_cons, List.mem_cons]
    by_cases hk : item.1 = k
    · rw [if_pos hk, Option.some.injEq]
      constructor
      · rintro (heq | hmem)
        · rw [← heq]
        · exact absurd (hk ▸ List.mem_map_of_mem hmem) hnew
      · rintro rfl
        exact Or.inl (by rw [← hk])
    · rw [if_neg hk, ← ih h]
      refine ⟨fun hmem => hmem.resolve_left fun heq => hk (by rw [← heq]), Or.inr⟩

end OrderedDict
