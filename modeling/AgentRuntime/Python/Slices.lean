import AgentRuntime.Python.Values
import Mathlib.Data.List.DropRight

/-!
# Slices and stripped texts

`l[start:stop]`, `str.strip` and `str.rfind`, on lists, and the last elements of a list that grows. A text is
the list of its characters.
-/

/-- The last elements of the last elements. -/
theorem List.rtake_rtake {α : Type} (xs : List α) (m n : Nat) : (xs.rtake m).rtake n = xs.rtake (min n m) := by
  simp only [List.rtake_eq_reverse_take_reverse, List.reverse_reverse, List.take_take]

/-- A list may be cut down to its last elements before another one is added. -/
theorem List.rtake_concat_of_rtake {α : Type} {count : Nat} (hcount : 0 < count) (xs : List α) (x : α) :
    (xs.rtake count ++ [x]).rtake count = (xs ++ [x]).rtake count := by
  obtain ⟨count, rfl⟩ := Nat.exists_eq_succ_of_ne_zero hcount.ne'
  calc (xs.rtake (count + 1) ++ [x]).rtake (count + 1)
      = (xs.rtake (count + 1)).rtake count ++ [x] := List.rtake_concat_succ ..
    _ = xs.rtake count ++ [x] := by rw [List.rtake_rtake, Nat.min_eq_left (Nat.le_succ count)]
    _ = (xs ++ [x]).rtake (count + 1) := (List.rtake_concat_succ ..).symm

/-- No last elements are taken exactly if none are asked for or there are none. -/
theorem List.rtake_eq_nil_iff {α : Type} {xs : List α} {n : Nat} : xs.rtake n = [] ↔ n = 0 ∨ xs = [] := by
  rw [List.rtake_eq_reverse_take_reverse, List.reverse_eq_nil_iff, List.take_eq_nil_iff, List.reverse_eq_nil_iff]

namespace AgentRuntime

variable {α : Type}

/-- The place of an index of a slice: a negative one counts from the end. -/
def sliceIndex (length : Nat) (i : Int) : Nat := if i < 0 then (length + i).toNat else i.toNat

/-- `l[start:stop]`. -/
def slice (l : List α) (start stop : Int) : List α :=
  (l.take (sliceIndex l.length stop)).drop (sliceIndex l.length start)

/-- `text.strip()`. -/
def strip (text : List Char) : List Char := (text.dropWhile isSpace).rdropWhile isSpace

/-- `text.rfind(sub, start, stop)`, for bounds that are not negative: the last place where `sub` occurs
between the bounds, or `-1`. -/
def rfind (text sub : List Char) (start stop : Int) : Int :=
  match (List.range text.length).reverse.find? fun i : Nat =>
      decide (start ≤ i) && decide (i + sub.length ≤ stop) && sub.isPrefixOf (text.drop i) with
  | some i => i
  | none => -1

example : rfind "One. Two. Three".toList ". ".toList 0 9 = 3 := by decide

/-! ## Slices -/

/-- A slice has the elements from its start on that stand before its stop. -/
theorem getElem?_slice (l : List α) {start stop : Int} (hstart : 0 ≤ start) (hstop : 0 ≤ stop) (i : Nat) :
    (slice l start stop)[i]? = if start + i < stop then l[start.toNat + i]? else none := by
  have hstart' : sliceIndex l.length start = start.toNat := if_neg (Int.not_lt.2 hstart)
  have hstop' : sliceIndex l.length stop = stop.toNat := if_neg (Int.not_lt.2 hstop)
  rw [slice, hstart', hstop', List.getElem?_drop, List.getElem?_take]
  refine if_congr ?_ rfl rfl
  omega

/-- A slice from a place on. -/
theorem slice_eq_take_drop (l : List α) (start length : Nat) :
    slice l start (start + length) = (l.drop start).take length := by
  have hstart : sliceIndex l.length start = start := if_neg (Int.not_lt.2 (Int.natCast_nonneg start))
  have hstop : sliceIndex l.length (start + length) = start + length :=
    if_neg (Int.not_lt.2 (Int.natCast_nonneg (start + length)))
  rw [slice, hstart, hstop, List.drop_take, Nat.add_sub_cancel_left]

/-- It is no longer than the distance between the two. -/
theorem length_slice_le (l : List α) {start stop : Int} (hstart : 0 ≤ start) (hstop : 0 ≤ stop) :
    ((slice l start stop).length : Int) ≤ max 0 (stop - start) := by
  have hstart' : sliceIndex l.length start = start.toNat := if_neg (Int.not_lt.2 hstart)
  have hstop' : sliceIndex l.length stop = stop.toNat := if_neg (Int.not_lt.2 hstop)
  rw [slice, hstart', hstop', List.length_drop, List.length_take]
  omega

/-! ## Stripped texts -/

/-- A text is what `strip` leaves, between white space. -/
theorem strip_between (text : List Char) :
    ∃ trailing, text = text.takeWhile isSpace ++ (strip text ++ trailing) ∧
      ∀ c ∈ trailing, isSpace c = true := by
  refine ⟨(text.dropWhile isSpace).rtakeWhile isSpace, ?_, fun c hc => List.mem_rtakeWhile_imp hc⟩
  rw [strip, List.rdropWhile_append_rtakeWhile, List.takeWhile_append_dropWhile]

/-- A character that is not white space is found in the stripped text, at its place. -/
theorem getElem?_strip {text : List Char} {i : Nat} {c : Char} (hc : text[i]? = some c)
    (hspace : isSpace c = false) :
    (text.takeWhile isSpace).length ≤ i ∧
      (strip text)[i - (text.takeWhile isSpace).length]? = some c := by
  obtain ⟨trailing, htext, htrailing⟩ := strip_between text
  set leading := text.takeWhile isSpace with hleading
  rw [htext] at hc
  by_cases hi : i < leading.length
  · rw [List.getElem?_append_left hi] at hc
    have hmem : c ∈ text.takeWhile isSpace := hleading ▸ List.mem_of_getElem? hc
    rw [List.mem_takeWhile_imp hmem] at hspace
    cases hspace
  · rw [List.getElem?_append_right (Nat.not_lt.1 hi)] at hc
    refine ⟨Nat.not_lt.1 hi, ?_⟩
    by_cases hinside : i - leading.length < (strip text).length
    · rwa [List.getElem?_append_left hinside] at hc
    · rw [List.getElem?_append_right (Nat.not_lt.1 hinside)] at hc
      rw [htrailing c (List.mem_of_getElem? hc)] at hspace
      cases hspace

/-- The white space before a text and the stripped text are parts of it. -/
theorem length_strip_le (text : List Char) :
    (text.takeWhile isSpace).length + (strip text).length ≤ text.length := by
  obtain ⟨trailing, htext, -⟩ := strip_between text
  have hlength := congrArg List.length htext
  simp only [List.length_append] at hlength
  omega

/-! ## Searching -/

/-- `sub` occurs in the text at the place `i`, between the bounds. -/
structure OccursAt (text sub : List Char) (start stop : Int) (i : Nat) : Prop where
  start_le : start ≤ i
  le_stop : i + sub.length ≤ stop
  isPrefix : sub <+: text.drop i

/-- What `rfind` finds is the last place where `sub` occurs between the bounds. It finds nothing where `sub`
does not occur there. -/
theorem rfind_cases (text : List Char) {sub : List Char} (hsub : sub ≠ []) (start stop : Int) :
    (rfind text sub start stop = -1 ∧ ∀ i, ¬OccursAt text sub start stop i) ∨
      ∃ i : Nat, rfind text sub start stop = i ∧ OccursAt text sub start stop i ∧
        ∀ j, OccursAt text sub start stop j → j ≤ i := by
  have hmem {i : Nat} (h : OccursAt text sub start stop i) : i ∈ (List.range text.length).reverse := by
    rw [List.mem_reverse, List.mem_range]
    have hlength := h.isPrefix.length_le
    have hpos := List.length_pos_iff.2 hsub
    rw [List.length_drop] at hlength
    omega
  have hoccurs (i : Nat) : (decide (start ≤ i) && decide (i + sub.length ≤ stop) &&
      sub.isPrefixOf (text.drop i)) = true ↔ OccursAt text sub start stop i := by
    simp only [Bool.and_eq_true, decide_eq_true_eq, List.isPrefixOf_iff_prefix]
    exact ⟨fun h => ⟨h.1.1, h.1.2, h.2⟩, fun h => ⟨⟨h.1, h.2⟩, h.3⟩⟩
  unfold rfind
  split
  · next i hfind =>
    obtain ⟨hfound, later, earlier, hsplit, hlater⟩ := List.find?_eq_some_iff_append.1 hfind
    refine .inr ⟨i, rfl, (hoccurs i).1 hfound, fun j hj => ?_⟩
    -- the places are tried from the last one on
    have hsorted : (later ++ i :: earlier).Pairwise (· > ·) := by
      rw [← hsplit, List.pairwise_reverse]
      exact List.pairwise_lt_range
    have hjmem := hmem hj
    rw [hsplit, List.mem_append, List.mem_cons] at hjmem
    rcases hjmem with hjmem | rfl | hjmem
    · have hnot := hlater j hjmem
      rw [(hoccurs j).2 hj] at hnot
      cases hnot
    · exact Nat.le_refl j
    · exact Nat.le_of_lt (List.rel_of_pairwise_cons (List.pairwise_append.1 hsorted).2.1 hjmem)
  · next hfind =>
    refine .inl ⟨rfl, fun i hi => ?_⟩
    exact absurd ((hoccurs i).2 hi) (List.find?_eq_none.1 hfind i (hmem hi))

end AgentRuntime
