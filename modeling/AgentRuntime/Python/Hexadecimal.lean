import AgentRuntime.Python.Integers
import AgentRuntime.Python.Replace
import Mathlib.Algebra.Order.Ring.Int

/-!
# Hexadecimal texts

`bytes.hex`, `bytes.fromhex`, `int(text, 16)` and the texts of identifiers. A text that was written is read
back: `fromHex_hex` for bytes and `UUID.ofText?_str` for an identifier of 128 bits.
-/

namespace AgentRuntime

/-! ## Digits -/

/-- A digit is read as the number that it was written for. -/
theorem hexDigit_digitChar {d : Nat} (h : d < 16) : hexDigit? d.digitChar = some d := by
  have hall : ∀ d < 16, hexDigit? (Nat.digitChar d) = some d := by decide
  exact hall d h

/-- The digit zero is read as zero. -/
theorem hexDigit_zero : hexDigit? '0' = some 0 := by decide

/-- The number that hexadecimal digits stand for, behind `n`. -/
def ofHexDigits (n : Nat) (ds : List Nat) : Nat := ds.foldl (fun n d => n * 16 + d) n

/-- The digits of a number are read as that number. -/
theorem exists_mapM_toDigits (n : Nat) :
    ∃ ds, (Nat.toDigits 16 n).mapM hexDigit? = some ds ∧ ds.length = (Nat.toDigits 16 n).length ∧
      ofHexDigits 0 ds = n := by
  induction n using Nat.strongRecOn with
  | ind n ih =>
    by_cases hlt : n < 16
    · refine ⟨[n], ?_, ?_, ?_⟩
      · rw [Nat.toDigits_of_lt_base hlt, List.mapM_cons, hexDigit_digitChar hlt]
        rfl
      · rw [Nat.toDigits_of_lt_base hlt]
        rfl
      · simp [ofHexDigits]
    · obtain ⟨ds, hds, hlength, hvalue⟩ := ih (n / 16) (Nat.div_lt_self (by omega) (by omega))
      rw [Nat.toDigits_of_base_le (by omega) (Nat.le_of_not_lt hlt)]
      refine ⟨ds ++ [n % 16], ?_, by simp [hlength], ?_⟩
      · rw [List.mapM_append, hds, List.mapM_cons, hexDigit_digitChar (Nat.mod_lt _ (by omega))]
        rfl
      · rw [ofHexDigits, List.foldl_append]
        change ofHexDigits 0 ds * 16 + n % 16 = n
        omega

/-- So is every digit of a text of zeros. -/
theorem mapM_replicate_zero (k : Nat) :
    (List.replicate k '0').mapM hexDigit? = some (List.replicate k 0) := by
  induction k with
  | zero => rfl
  | succ k ih =>
    rw [List.replicate_succ, List.mapM_cons, hexDigit_zero, ih]
    rfl

/-- Zeros have the value zero. -/
theorem ofHexDigits_replicate_zero (k : Nat) : ofHexDigits 0 (List.replicate k 0) = 0 := by
  induction k with
  | zero => rfl
  | succ k ih => exact ih

/-- A digit is not a hyphen. -/
theorem ne_hyphen_of_mem_toDigits {n : Nat} {c : Char} (h : c ∈ Nat.toDigits 16 n) : c ≠ '-' := by
  rintro rfl
  obtain ⟨ds, hds, -⟩ := exists_mapM_toDigits n
  have hall : ∀ cs : List Char, '-' ∈ cs → cs.mapM hexDigit? = none := by
    intro cs hmem
    induction cs with
    | nil => cases hmem
    | cons c cs ih =>
      rw [List.mapM_cons]
      rcases List.mem_cons.1 hmem with rfl | hmem
      · rfl
      · rw [ih hmem]
        cases hexDigit? c <;> rfl
  rw [hall _ h] at hds
  cases hds

/-! ## Identifiers -/

namespace UUID

/-- The 32 digits of an identifier. -/
def digits (u : UUID) : List Char :=
  List.replicate (32 - (Nat.toDigits 16 u.val).length) '0' ++ Nat.toDigits 16 u.val

/-- An identifier of 128 bits has 32 digits. -/
theorem length_digits {u : UUID} (h : u.val < 2 ^ 128) : u.digits.length = 32 := by
  have hle : (Nat.toDigits 16 u.val).length ≤ 32 := by
    rw [Nat.length_toDigits_le_iff (by omega) (by omega)]
    exact Nat.lt_of_lt_of_eq h (by decide)
  simp only [digits, List.length_append, List.length_replicate]
  omega

/-- No hyphen is among them. -/
theorem ne_hyphen_of_mem_digits {u : UUID} {c : Char} (h : c ∈ u.digits) : c ≠ '-' := by
  rcases List.mem_append.1 h with h | h
  · rw [List.eq_of_mem_replicate h]
    decide
  · exact ne_hyphen_of_mem_toDigits h

/-- The text of an identifier is its digits in five groups. -/
theorem toList_str (u : UUID) :
    u.str.toList = (u.digits.drop 0).take 8 ++ '-' :: (u.digits.drop 8).take 4 ++
      '-' :: (u.digits.drop 12).take 4 ++ '-' :: (u.digits.drop 16).take 4 ++ '-' :: (u.digits.drop 20).take 12 := by
  simp only [str, digits, String.toList_ofList]

/-- The hyphens aside, the text of an identifier is its digits. -/
theorem filter_str {u : UUID} (h : u.val < 2 ^ 128) : u.str.toList.filter (· ≠ '-') = u.digits := by
  have hlength := length_digits h
  have hkeep (i n : Nat) : ((u.digits.drop i).take n).filter (· ≠ '-') = (u.digits.drop i).take n := by
    refine List.filter_eq_self.2 fun c hc => ?_
    exact decide_eq_true (ne_hyphen_of_mem_digits (List.mem_of_mem_drop (List.mem_of_mem_take hc)))
  rw [toList_str]
  simp only [List.filter_append, List.filter_cons, ne_eq, not_true_eq_false, decide_false, Bool.false_eq_true,
    if_false, hkeep]
  have hsplit (i n : Nat) : (u.digits.drop i).take n ++ u.digits.drop (i + n) = u.digits.drop i := by
    rw [← List.drop_drop]
    exact List.take_append_drop n _
  have hlast : (u.digits.drop 20).take 12 = u.digits.drop 20 := List.take_of_length_le (by simp [hlength])
  simp only [hlast, List.append_assoc]
  rw [hsplit 16 4, hsplit 12 4, hsplit 8 4, hsplit 0 8, List.drop_zero]

end UUID

/-! ## Integers -/

/-- What `int(text, 16)` takes for a digit. -/
def DecimalDigits.hexValue (digits : DecimalDigits) (c : Char) : Option Nat := (hexDigit? c).or (digits.value c)

/-- The value of digits without sign. -/
def DecimalDigits.natOfHex? (digits : DecimalDigits) (cs : List Char) : Option Nat := do
  let groups ← (cs.splitOn '_').mapM fun group => if group.isEmpty then none else group.mapM digits.hexValue
  some (ofHexDigits 0 groups.flatten)

/-- What is left without the prefix `0x`, behind which one underscore may stand. -/
def dropHexPrefix : List Char → List Char
  | '0' :: x :: '_' :: cs => if x = 'x' ∨ x = 'X' then cs else '0' :: x :: '_' :: cs
  | '0' :: x :: cs => if x = 'x' ∨ x = 'X' then cs else '0' :: x :: cs
  | cs => cs

/-- `int(text, 16)`, or nothing where it raises `ValueError`. -/
def DecimalDigits.intOfHex? (digits : DecimalDigits) (cs : List Char) : Option Int :=
  match (cs.dropWhile isIntSpace).rdropWhile isIntSpace with
  | '+' :: cs => (digits.natOfHex? (dropHexPrefix cs)).map Int.ofNat
  | '-' :: cs => (digits.natOfHex? (dropHexPrefix cs)).map fun n => -(n : Int)
  | cs => (digits.natOfHex? (dropHexPrefix cs)).map Int.ofNat

/-- A hexadecimal digit is no white space. -/
theorem isIntSpace_of_hexDigit {c : Char} (h : (hexDigit? c).isSome) : isIntSpace c = false := by
  have hspace : isSpace c = false := by
    have hrange : 48 ≤ c.toNat ∧ c.toNat ≤ 57 ∨ 97 ≤ c.toNat ∧ c.toNat ≤ 102 ∨ 65 ≤ c.toNat ∧ c.toNat ≤ 70 := by
      unfold hexDigit? at h
      simp only [Bool.and_eq_true, decide_eq_true_eq, Char.le_def, UInt32.le_iff_toNat_le] at h
      split at h
      · next hrange => exact Or.inl hrange
      · split at h
        · next hrange => exact Or.inr (Or.inl hrange)
        · split at h
          · next hrange => exact Or.inr (Or.inr hrange)
          · cases h
    simp only [isSpace, Bool.or_eq_false_iff, Bool.and_eq_false_iff, decide_eq_false_iff_not, beq_eq_false_iff_ne]
    omega
  rw [isIntSpace, hspace, Bool.false_and]

section
variable {cs : List Char}

/-- A text is read as digits if its first character is one and the rest is. -/
theorem mapM_hexDigit_cons {c : Char} {ds : List Nat} (h : (c :: cs).mapM hexDigit? = some ds) :
    ∃ d ds', hexDigit? c = some d ∧ cs.mapM hexDigit? = some ds' ∧ ds = d :: ds' := by
  rw [List.mapM_cons] at h
  cases hd : hexDigit? c with
  | none =>
    rw [hd] at h
    cases h
  | some d =>
    cases hds : cs.mapM hexDigit? with
    | none =>
      rw [hd, hds] at h
      cases h
    | some ds' =>
      rw [hd, hds] at h
      cases h
      exact ⟨d, ds', rfl, rfl, rfl⟩

/-- Then every character of it is a digit. -/
theorem isSome_of_mapM_hexDigit {ds : List Nat} (h : cs.mapM hexDigit? = some ds) :
    ∀ c ∈ cs, (hexDigit? c).isSome := by
  induction cs generalizing ds with
  | nil => exact fun c hc => absurd hc List.not_mem_nil
  | cons c cs ih =>
    obtain ⟨d, ds', hd, hds, -⟩ := mapM_hexDigit_cons h
    intro c' hc'
    rcases List.mem_cons.1 hc' with rfl | hc'
    · rw [hd]
      rfl
    · exact ih hds c' hc'

/-- `int(text, 16)` reads hexadecimal digits as they are, also among the other digits that it knows. -/
theorem DecimalDigits.mapM_hexValue (digits : DecimalDigits) {ds : List Nat} (h : cs.mapM hexDigit? = some ds) :
    cs.mapM digits.hexValue = some ds := by
  induction cs generalizing ds with
  | nil => exact h
  | cons c cs ih =>
    obtain ⟨d, ds', hd, hds, rfl⟩ := mapM_hexDigit_cons h
    rw [List.mapM_cons, ih hds, hexValue, hd]
    rfl

/-- A text of digits has no prefix: its second character is no `x`. -/
theorem dropHexPrefix_of_hexDigits (h : ∀ c ∈ cs, (hexDigit? c).isSome) : dropHexPrefix cs = cs := by
  unfold dropHexPrefix
  split
  · next x cs =>
    rw [if_neg]
    rintro (rfl | rfl)
    · exact absurd (h 'x' (by simp)) (by decide)
    · exact absurd (h 'X' (by simp)) (by decide)
  · next x cs _ =>
    rw [if_neg]
    rintro (rfl | rfl)
    · exact absurd (h 'x' (by simp)) (by decide)
    · exact absurd (h 'X' (by simp)) (by decide)
  · rfl

/-- Hexadecimal digits are read. -/
theorem DecimalDigits.intOfHex?_eq (digits : DecimalDigits) {ds : List Nat} (hne : cs ≠ [])
    (hds : cs.mapM hexDigit? = some ds) : digits.intOfHex? cs = some (ofHexDigits 0 ds : Int) := by
  have h := isSome_of_mapM_hexDigit hds
  have hnot (c : Char) (hc : hexDigit? c = none) : c ∉ cs := fun hmem => by
    have hsome := h c hmem
    rw [hc] at hsome
    cases hsome
  have hread : digits.natOfHex? cs = some (ofHexDigits 0 ds) := by
    rw [natOfHex?, List.splitOn_eq_singleton (hnot '_' (by decide)), List.mapM_cons, if_neg (by simpa using hne),
      digits.mapM_hexValue hds]
    simp
  unfold intOfHex?
  have hboth := DecimalDigits.strip_eq_self fun c hc => isIntSpace_of_hexDigit (h c hc)
  split
  · next cs' heq =>
    rw [show cs = '+' :: cs' from hboth.symm.trans heq] at hnot
    exact absurd List.mem_cons_self (hnot '+' (by decide))
  · next cs' heq =>
    rw [show cs = '-' :: cs' from hboth.symm.trans heq] at hnot
    exact absurd List.mem_cons_self (hnot '-' (by decide))
  · next =>
    refine (congrArg (fun cs => (digits.natOfHex? (dropHexPrefix cs)).map Int.ofNat) hboth).trans ?_
    rw [dropHexPrefix_of_hexDigits h, hread]
    rfl

end

namespace UUID

/-- `UUID(text)`, or nothing where it raises `ValueError`. -/
def ofText? (digits : DecimalDigits) (text : String) : Option UUID :=
  let hex := replace "uuid:".toList [] (replace "urn:".toList [] text.toList)
  let brace (c : Char) : Bool := c == '{' || c == '}'
  let hex := ((hex.dropWhile brace).rdropWhile brace).filter (· ≠ '-')
  if hex.length ≠ 32 then none
  else
    match digits.intOfHex? hex with
    | some (.ofNat n) => if n < 2 ^ 128 then some ⟨n⟩ else none
    | _ => none

/-- The digits of an identifier have its value. -/
theorem exists_mapM_digits (u : UUID) : ∃ ds, u.digits.mapM hexDigit? = some ds ∧ ofHexDigits 0 ds = u.val := by
  obtain ⟨ds, hds, -, hvalue⟩ := exists_mapM_toDigits u.val
  refine ⟨List.replicate (32 - (Nat.toDigits 16 u.val).length) 0 ++ ds, ?_, ?_⟩
  · rw [digits, List.mapM_append, mapM_replicate_zero, hds]
    rfl
  · rw [ofHexDigits, List.foldl_append]
    exact (congrArg (fun n => ofHexDigits n ds) (ofHexDigits_replicate_zero _)).trans hvalue

/-- An identifier is written with hyphens and digits. -/
theorem mem_str {u : UUID} {c : Char} (h : c ∈ u.str.toList) : c = '-' ∨ (hexDigit? c).isSome := by
  obtain ⟨ds, hds, -⟩ := exists_mapM_digits u
  have hgroup {i n : Nat} (hc : c ∈ (u.digits.drop i).take n) : c = '-' ∨ (hexDigit? c).isSome :=
    Or.inr (isSome_of_mapM_hexDigit hds c (List.mem_of_mem_drop (List.mem_of_mem_take hc)))
  rw [toList_str] at h
  simp only [List.mem_append, List.mem_cons] at h
  rcases h with (((h | rfl | h) | rfl | h) | rfl | h) | rfl | h
  · exact hgroup h
  · exact Or.inl rfl
  · exact hgroup h
  · exact Or.inl rfl
  · exact hgroup h
  · exact Or.inl rfl
  · exact hgroup h
  · exact Or.inl rfl
  · exact hgroup h

/-- `UUID(str(u)) == u`. -/
theorem ofText?_str (digits : DecimalDigits) {u : UUID} (h : u.val < 2 ^ 128) : ofText? digits u.str = some u := by
  have hnot (c : Char) (hhyphen : c ≠ '-') (hc : hexDigit? c = none) : c ∉ u.str.toList := by
    intro hmem
    rcases mem_str hmem with heq | hsome
    · exact hhyphen heq
    · rw [hc] at hsome
      cases hsome
  have hcolon : ':' ∉ u.str.toList := hnot ':' (by decide) (by decide)
  have hurn : replace "urn:".toList [] u.str.toList = u.str.toList :=
    replace_of_not_infix _ fun hoccurs => hcolon (hoccurs.subset (by decide))
  have huuid : replace "uuid:".toList [] u.str.toList = u.str.toList :=
    replace_of_not_infix _ fun hoccurs => hcolon (hoccurs.subset (by decide))
  have hlength := length_digits h
  have hne : u.digits ≠ [] := fun hnil => by
    rw [hnil] at hlength
    cases hlength
  set brace : Char → Bool := fun c => c == '{' || c == '}'
  have hbrace : ∀ c ∈ u.str.toList, brace c = false := by
    intro c hc
    cases hcase : brace c with
    | false => rfl
    | true =>
      have heq : c = '{' ∨ c = '}' := by simpa [brace] using hcase
      rcases heq with rfl | rfl
      · exact absurd hc (hnot '{' (by decide) (by decide))
      · exact absurd hc (hnot '}' (by decide) (by decide))
  have hstrip : (u.str.toList.dropWhile brace).rdropWhile brace = u.str.toList := by
    have hleft : u.str.toList.dropWhile brace = u.str.toList :=
      List.dropWhile_eq_self_iff.2 fun hl => by simp [hbrace _ (List.getElem_mem hl)]
    rw [hleft]
    exact List.rdropWhile_eq_self_iff.2 fun hl => by simp [hbrace _ (List.getLast_mem hl)]
  obtain ⟨ds, hds, hvalue⟩ := exists_mapM_digits u
  have hread : digits.intOfHex? u.digits = some (u.val : Int) := by
    rw [digits.intOfHex?_eq hne hds, hvalue]
  unfold ofText?
  dsimp only
  rw [hurn, huuid, hstrip, filter_str h, if_neg (not_not.2 hlength), hread]
  exact if_pos h

end UUID

/-! ## Bytes -/

/-- The two digits of a byte. -/
def hexByte (b : UInt8) : List Char := [(b.toNat / 16).digitChar, (b.toNat % 16).digitChar]

/-- `data.hex()`. -/
def hex (data : List UInt8) : List Char := data.flatMap hexByte

/-- What `bytes.fromhex` skips between two bytes. -/
def isHexSpace (c : Char) : Bool := c == ' ' || (9 ≤ c.toNat && c.toNat ≤ 13)

/-- `bytes.fromhex(text)`, or nothing where it raises `ValueError`. -/
def fromHex : List Char → Option (List UInt8)
  | [] => some []
  | [c] => if isHexSpace c then some [] else none
  | c :: c' :: cs =>
    if isHexSpace c then fromHex (c' :: cs)
    else do
      let high ← hexDigit? c
      let low ← hexDigit? c'
      let data ← fromHex cs
      some (UInt8.ofNat (high * 16 + low) :: data)

/-- A digit is no white space. -/
theorem isHexSpace_digitChar {d : Nat} (h : d < 16) : isHexSpace d.digitChar = false := by
  have hall : ∀ d < 16, isHexSpace (Nat.digitChar d) = false := by decide
  exact hall d h

/-- Bytes are read back from their text. -/
theorem fromHex_hex (data : List UInt8) : fromHex (hex data) = some data := by
  induction data with
  | nil => rfl
  | cons b data ih =>
    have hlt : b.toNat < 256 := b.toNat_lt
    have hhigh : b.toNat / 16 < 16 := by omega
    have hlow : b.toNat % 16 < 16 := by omega
    have hbyte : UInt8.ofNat (b.toNat / 16 * 16 + b.toNat % 16) = b := by
      rw [show b.toNat / 16 * 16 + b.toNat % 16 = b.toNat by omega, UInt8.ofNat_toNat]
    change fromHex ((b.toNat / 16).digitChar :: (b.toNat % 16).digitChar :: hex data) = _
    rw [fromHex, isHexSpace_digitChar hhigh, hexDigit_digitChar hhigh, hexDigit_digitChar hlow, ih]
    exact congrArg (fun b => some (b :: data)) hbyte

/-- A text of digits has nothing that is no digit. -/
theorem isSome_hexDigit_of_mem_hex {data : List UInt8} {c : Char} (h : c ∈ hex data) : (hexDigit? c).isSome := by
  obtain ⟨b, -, hc⟩ := List.mem_flatMap.1 h
  have hlt : b.toNat < 256 := b.toNat_lt
  simp only [hexByte, List.mem_cons, List.not_mem_nil, or_false] at hc
  rcases hc with rfl | rfl
  · rw [hexDigit_digitChar (by omega)]
    rfl
  · rw [hexDigit_digitChar (by omega)]
    rfl

end AgentRuntime
