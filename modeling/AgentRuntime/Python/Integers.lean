import AgentRuntime.Python.Slices

/-!
# Integers in texts

`int(text)`: white space around an optional sign and decimal digits, with single underscores between the
digits. Which characters beyond ASCII are decimal digits is a matter of the Unicode database.
-/

namespace AgentRuntime

/-- `unicodedata.decimal`. -/
structure DecimalDigits where
  value : Char → Option Nat
  value_ascii : ∀ c, c.toNat < 128 →
    value c = if c.isDigit then some (c.toNat - '0'.toNat) else none

/-- A database that knows the ASCII digits only. -/
def DecimalDigits.ascii : DecimalDigits where
  value c := if c.isDigit then some (c.toNat - '0'.toNat) else none
  value_ascii _ _ := rfl

/-- The longest row of digits that `int` reads. -/
def maxStrDigits : Nat := 4300

/-- What `int` takes for white space. Only the characters beyond ASCII are turned into blanks first, so that
those of ASCII are read by the rules of C, under which the four separators from `FS` on are none. -/
def isIntSpace (c : Char) : Bool := isSpace c && !(0x1c ≤ c.toNat && c.toNat ≤ 0x1f)

namespace DecimalDigits

/-- The digits of a group between underscores, of which there is at least one. -/
def group (digits : DecimalDigits) (cs : List Char) : Option (List Nat) :=
  if cs.isEmpty then none else cs.mapM digits.value

/-- The value of digits without sign. -/
def natOfDigits? (digits : DecimalDigits) (cs : List Char) : Option Nat := do
  let groups ← (cs.splitOn '_').mapM digits.group
  let row := groups.flatten
  if maxStrDigits < row.length then none
  else some (row.foldl (fun n d => n * 10 + d) 0)

/-- `int(text)`, or nothing where it raises `ValueError`. -/
def intOfStr? (digits : DecimalDigits) (text : String) : Option Int :=
  match (text.toList.dropWhile isIntSpace).rdropWhile isIntSpace with
  | '+' :: cs => (digits.natOfDigits? cs).map Int.ofNat
  | '-' :: cs => (digits.natOfDigits? cs).map fun n => -(n : Int)
  | cs => (digits.natOfDigits? cs).map Int.ofNat

example : ascii.intOfStr? " +1_20\n" = some 120 := by decide
example : ascii.intOfStr? "\x1c1\u00a0" = none := by decide
example : ascii.intOfStr? "Wed, 21 Oct 2015 07:28:00 GMT" = none := by decide

end DecimalDigits

/-! ## The text of an integer -/

/-- Two natural numbers with the same digits are the same. -/
theorem toDigits_inj {m n : Nat} : Nat.toDigits 10 m = Nat.toDigits 10 n ↔ m = n := by
  refine ⟨fun h => ?_, fun h => h ▸ rfl⟩
  simpa only [Nat.ofDigitChars_ten_toDigits] using congrArg (Nat.ofDigitChars 10 · 0) h

/-- The text of a natural number is its digits. -/
theorem toList_toString_natCast (n : Nat) : (toString (n : Int)).toList = Nat.toDigits 10 n := by
  simp [toString, Int.repr, Nat.repr]

/-- The text of a negative number is a sign and digits. -/
theorem toList_toString_negSucc (n : Nat) :
    (toString (Int.negSucc n)).toList = '-' :: Nat.toDigits 10 (n + 1) := by
  simp [toString, Int.repr, Nat.repr]

/-- The text of a natural number has no sign. -/
theorem minus_notMem_toDigits (n : Nat) : '-' ∉ Nat.toDigits 10 n := fun h =>
  absurd (Nat.isDigit_of_mem_toDigits (by decide) (by decide) h) (by decide)

/-- `str(m) == str(n)`. -/
theorem toString_int_inj {m n : Int} : toString m = toString n ↔ m = n := by
  refine ⟨fun h => ?_, fun h => h ▸ rfl⟩
  have hlist := congrArg String.toList h
  cases m with
  | ofNat m =>
    cases n with
    | ofNat n =>
      rw [Int.ofNat_eq_natCast, Int.ofNat_eq_natCast, toList_toString_natCast, toList_toString_natCast,
        toDigits_inj] at hlist
      rw [hlist]
    | negSucc n =>
      rw [Int.ofNat_eq_natCast, toList_toString_natCast, toList_toString_negSucc] at hlist
      exact absurd (hlist ▸ List.mem_cons_self) (minus_notMem_toDigits m)
  | negSucc m =>
    cases n with
    | ofNat n =>
      rw [Int.ofNat_eq_natCast, toList_toString_natCast, toList_toString_negSucc] at hlist
      exact absurd (hlist ▸ List.mem_cons_self) (minus_notMem_toDigits n)
    | negSucc n =>
      rw [toList_toString_negSucc, toList_toString_negSucc, List.cons.injEq, toDigits_inj, Nat.succ_inj] at hlist
      rw [hlist.2]

/-! ### Reading it back -/

namespace DecimalDigits

/-- An ASCII digit has its value in every database. -/
theorem value_digit (digits : DecimalDigits) {c : Char} (h : c.isDigit) :
    digits.value c = some (c.toNat - '0'.toNat) := by
  have hascii : c.toNat < 128 := by
    simp only [Char.isDigit, Bool.and_eq_true, decide_eq_true_eq, UInt32.le_iff_toNat_le] at h
    exact Nat.lt_of_le_of_lt h.2 (by decide)
  rw [digits.value_ascii c hascii, if_pos h]

/-- A row of ASCII digits is read one by one. -/
theorem mapM_value (digits : DecimalDigits) {cs : List Char} (h : ∀ c ∈ cs, c.isDigit) :
    cs.mapM digits.value = some (cs.map fun c => c.toNat - '0'.toNat) := by
  induction cs with
  | nil => rfl
  | cons c cs ih =>
    rw [List.mapM_cons, value_digit digits (h c List.mem_cons_self), ih fun c hc => h c (List.mem_cons_of_mem _ hc)]
    rfl

/-- The number of a row of digits is that of core's `Nat.ofDigitChars`. -/
theorem foldl_digits (cs : List Char) (n : Nat) :
    (cs.map fun c => c.toNat - '0'.toNat).foldl (fun n d => n * 10 + d) n = Nat.ofDigitChars 10 cs n := by
  rw [Nat.ofDigitChars_eq_foldl, List.foldl_map]
  simp only [Nat.mul_comm]

/-- Digits of which there are not too many are read. -/
theorem natOfDigits?_eq (digits : DecimalDigits) {cs : List Char} (h : ∀ c ∈ cs, c.isDigit) (hne : cs ≠ [])
    (hlength : cs.length ≤ maxStrDigits) : digits.natOfDigits? cs = some (Nat.ofDigitChars 10 cs 0) := by
  have hunderscore : '_' ∉ cs := fun hmem => absurd (h _ hmem) (by decide)
  have hgroup : digits.group cs = some (cs.map fun c => c.toNat - '0'.toNat) := by
    rw [group, if_neg (by simpa using hne), mapM_value digits h]
  rw [natOfDigits?, List.splitOn_eq_singleton hunderscore, List.mapM_cons, hgroup]
  have hfew : ¬maxStrDigits < (cs.map fun c => c.toNat - '0'.toNat).length := by
    rw [List.length_map]
    omega
  simp only [List.mapM_nil, Option.pure_def, Option.bind_eq_bind, Option.bind_some, List.flatten_cons,
    List.flatten_nil, List.append_nil, if_neg hfew, foldl_digits]

/-- A digit is no white space. -/
theorem isIntSpace_digit {c : Char} (h : c.isDigit) : isIntSpace c = false := by
  have hspace : isSpace c = false := by
    simp only [Char.isDigit, Bool.and_eq_true, decide_eq_true_eq, UInt32.le_iff_toNat_le] at h
    have hlow : 48 ≤ c.toNat := h.1
    have hhigh : c.toNat ≤ 57 := h.2
    simp only [isSpace, Bool.or_eq_false_iff, Bool.and_eq_false_iff, decide_eq_false_iff_not, beq_eq_false_iff_ne]
    omega
  rw [isIntSpace, hspace, Bool.false_and]

/-- A text without white space is left as it is. -/
theorem strip_eq_self {cs : List Char} (h : ∀ c ∈ cs, isIntSpace c = false) :
    (cs.dropWhile isIntSpace).rdropWhile isIntSpace = cs := by
  have hleft : cs.dropWhile isIntSpace = cs :=
    List.dropWhile_eq_self_iff.2 fun hl => by simp [h _ (List.getElem_mem hl)]
  rw [hleft]
  exact List.rdropWhile_eq_self_iff.2 fun hl => by simp [h _ (List.getLast_mem hl)]

/-- `int(str(n)) == n`, for a natural number of at most 4300 digits. -/
theorem intOfStr?_natCast (digits : DecimalDigits) {n : Nat}
    (hlength : (Nat.toDigits 10 n).length ≤ maxStrDigits) :
    digits.intOfStr? (toString (n : Int)) = some (n : Int) := by
  have hdigit : ∀ c ∈ Nat.toDigits 10 n, c.isDigit := fun c hc =>
    Nat.isDigit_of_mem_toDigits (by decide) (by decide) hc
  have hne : Nat.toDigits 10 n ≠ [] := Nat.toDigits_ne_nil
  unfold intOfStr?
  rw [toList_toString_natCast]
  have hread := natOfDigits?_eq digits hdigit hne hlength
  rw [Nat.ofDigitChars_ten_toDigits] at hread
  have hboth := strip_eq_self fun c hc => isIntSpace_digit (hdigit c hc)
  obtain ⟨c, cs, hcs⟩ := List.exists_cons_of_ne_nil hne
  have hc : c.isDigit := hdigit c (hcs ▸ List.mem_cons_self)
  -- a digit is no sign
  have hsign (sign : Char) (hnot : sign.isDigit = false) (cs' : List Char) : Nat.toDigits 10 n ≠ sign :: cs' := by
    intro heq
    rw [heq] at hcs
    cases hcs
    rw [hnot] at hc
    cases hc
  split
  · next cs' heq => exact absurd (hboth.symm.trans heq) (hsign '+' (by decide) cs')
  · next cs' heq => exact absurd (hboth.symm.trans heq) (hsign '-' (by decide) cs')
  · next => exact (congrArg (fun cs => (digits.natOfDigits? cs).map Int.ofNat) hboth).trans (by rw [hread]; rfl)

end DecimalDigits

end AgentRuntime
