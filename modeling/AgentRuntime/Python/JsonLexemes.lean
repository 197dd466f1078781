import AgentRuntime.Python.Hexadecimal
import Mathlib.Data.List.TakeDrop

/-!
# The strings and numbers of JSON

What the encoder and the decoder of the `json` module do with strings and numbers, on lists of characters. The
encoder writes ASCII only: another character is written by its code units in UTF-16. What was written is scanned
again: `scanString_quoted` and `scanNumeral_chars`. A string of Lean holds no lone surrogate, so a text that
spells one is taken for an error.
-/

namespace AgentRuntime

namespace JsonText

/-! ## Strings -/

/-- `'{0:04x}'.format(n)`. -/
def hex4 (n : Nat) : List Char :=
  [(n / 4096 % 16).digitChar, (n / 256 % 16).digitChar, (n / 16 % 16).digitChar, (n % 16).digitChar]

/-- What is written for a character between the quotation marks. -/
def quoteChar (c : Char) : List Char :=
  if c = '"' then ['\\', '"']
  else if c = '\\' then ['\\', '\\']
  else if c = '\n' then ['\\', 'n']
  else if c = '\r' then ['\\', 'r']
  else if c = '\t' then ['\\', 't']
  else if c = '\x0c' then ['\\', 'f']
  else if c = '\x08' then ['\\', 'b']
  else if 0x20 ≤ c.toNat ∧ c.toNat ≤ 0x7e then [c]
  else if c.toNat < 0x10000 then '\\' :: 'u' :: hex4 c.toNat
  else
    let n := c.toNat - 0x10000
    '\\' :: 'u' :: hex4 (0xd800 + n / 1024) ++ '\\' :: 'u' :: hex4 (0xdc00 + n % 1024)

/-- `encode_basestring_ascii`. -/
def quoted (cs : List Char) : List Char := '"' :: (cs.flatMap quoteChar ++ ['"'])

/-- Four hexadecimal digits. -/
def readHex4 : List Char → Option (Nat × List Char)
  | a :: b :: c :: d :: rest => do
    let ds ← [a, b, c, d].mapM hexDigit?
    some (ofHexDigits 0 ds, rest)
  | _ => none

/-- The character behind a backslash. -/
def escape? : Char → Option Char
  | '"' => some '"'
  | '\\' => some '\\'
  | '/' => some '/'
  | 'b' => some '\x08'
  | 'f' => some '\x0c'
  | 'n' => some '\n'
  | 'r' => some '\r'
  | 't' => some '\t'
  | _ => none

/-- The low surrogate that has to follow a high one. -/
def lowSurrogate? : List Char → Option (Nat × List Char)
  | '\\' :: 'u' :: rest => (readHex4 rest).filter fun (m, _) => 0xdc00 ≤ m ∧ m ≤ 0xdfff
  | _ => none

/-- The character behind `\u`, whose code unit is `n`. -/
def unicode? (n : Nat) (rest : List Char) : Option (Char × List Char) :=
  if 0xd800 ≤ n ∧ n ≤ 0xdbff then
    (lowSurrogate? rest).map fun (m, rest) =>
      (Char.ofNat (0x10000 + (n - 0xd800) * 1024 + (m - 0xdc00)), rest)
  else if 0xdc00 ≤ n ∧ n ≤ 0xdfff then none
  else some (Char.ofNat n, rest)

/-- One character of a string, escaped or not. A control character has to be escaped. -/
def scanChar : List Char → Option (Char × List Char)
  | '\\' :: 'u' :: rest => (readHex4 rest).bind fun (n, rest) => unicode? n rest
  | '\\' :: c :: rest => (escape? c).map fun c => (c, rest)
  | c :: rest => if c = '\\' ∨ c.toNat < 0x20 then none else some (c, rest)
  | [] => none

/-- The characters of a string behind its opening quotation mark, of which there are less than the first
argument. -/
def scanString : Nat → List Char → Option (List Char × List Char)
  | 0, _ => none
  | _ + 1, '"' :: rest => some ([], rest)
  | fuel + 1, cs => do
    let (c, rest) ← scanChar cs
    let (s, rest) ← scanString fuel rest
    some (c :: s, rest)

example : scanString 9 ['\\', 'u', 'd', '8', '3', 'd', '\\', 'u', 'D', 'E', '0', '0', '!', '"', ','] =
    some (['😀', '!'], [',']) := by decide

/-- Four digits that were written for a number are read as it. -/
theorem readHex4_hex4 {n : Nat} (h : n < 0x10000) (rest : List Char) :
    readHex4 (hex4 n ++ rest) = some (n, rest) := by
  have hdigit (d : Nat) : hexDigit? (d % 16).digitChar = some (d % 16) :=
    hexDigit_digitChar (Nat.mod_lt d (by decide))
  simp only [hex4, List.cons_append, List.nil_append, readHex4, List.mapM_cons, List.mapM_nil, hdigit,
    Option.pure_def, Option.bind_eq_bind, Option.bind_some, ofHexDigits, List.foldl_cons, List.foldl_nil]
  congr 2
  omega

/-- The code point of a character is no surrogate. -/
theorem toNat_not_surrogate (c : Char) : c.toNat < 0xd800 ∨ 0xdfff < c.toNat ∧ c.toNat < 0x110000 := c.valid

/-- A code unit that is no surrogate is read as its character. -/
theorem unicode?_of_lt {c : Char} (h : c.toNat < 0x10000) (rest : List Char) :
    unicode? c.toNat rest = some (c, rest) := by
  have hvalid := toNat_not_surrogate c
  rw [unicode?, if_neg (by omega), if_neg (by omega), Char.ofNat_toNat]

/-- The two code units of a character beyond the basic plane. -/
theorem unicode?_surrogates {c : Char} (h : 0x10000 ≤ c.toNat) (rest : List Char) :
    unicode? (0xd800 + (c.toNat - 0x10000) / 1024)
      ('\\' :: 'u' :: (hex4 (0xdc00 + (c.toNat - 0x10000) % 1024) ++ rest)) = some (c, rest) := by
  have hvalid := toNat_not_surrogate c
  have hlow : (c.toNat - 0x10000) % 1024 < 1024 := Nat.mod_lt _ (by decide)
  have hvalue : 0x10000 + (0xd800 + (c.toNat - 0x10000) / 1024 - 0xd800) * 1024 +
      (0xdc00 + (c.toNat - 0x10000) % 1024 - 0xdc00) = c.toNat := by omega
  rw [unicode?, if_pos (by omega), lowSurrogate?, readHex4_hex4 (by omega),
    Option.filter_some, if_pos (decide_eq_true (by omega)), Option.map_some]
  dsimp only
  rw [hvalue, Char.ofNat_toNat]

/-- A character that was written is scanned. -/
theorem scanChar_quoteChar (c : Char) (rest : List Char) : scanChar (quoteChar c ++ rest) = some (c, rest) := by
  unfold quoteChar
  split_ifs with hquote hbackslash hn hr ht hf hb hplain hbasic
  · rw [hquote]
    rfl
  · rw [hbackslash]
    rfl
  · rw [hn]
    rfl
  · rw [hr]
    rfl
  · rw [ht]
    rfl
  · rw [hf]
    rfl
  · rw [hb]
    rfl
  · rw [List.singleton_append, scanChar, if_neg (by rintro (heq | hlt); exacts [hbackslash heq, by omega])]
    · rintro rest' rfl
      exact absurd rfl hbackslash
    · rintro c' rest' rfl
      exact absurd rfl hbackslash
  · simp only [List.cons_append, scanChar]
    rw [readHex4_hex4 hbasic, Option.bind_some, unicode?_of_lt hbasic]
  · have hvalid := toNat_not_surrogate c
    simp only [List.cons_append, List.append_assoc, scanChar]
    rw [readHex4_hex4 (by omega), Option.bind_some]
    exact unicode?_surrogates (by omega) rest

/-- What is written for a character is not taken for the end. -/
theorem exists_quoteChar_eq_cons (c : Char) : ∃ c' cs, quoteChar c = c' :: cs ∧ c' ≠ '"' := by
  unfold quoteChar
  split_ifs with hquote <;> first | exact ⟨_, _, rfl, by decide⟩ | exact ⟨c, [], rfl, hquote⟩

/-- A string that was written is scanned. -/
theorem scanString_flatMap (cs rest : List Char) {fuel : Nat} (h : cs.length < fuel) :
    scanString fuel (cs.flatMap quoteChar ++ '"' :: rest) = some (cs, rest) := by
  induction cs generalizing fuel with
  | nil =>
    obtain ⟨fuel, rfl⟩ := Nat.exists_eq_succ_of_ne_zero (Nat.ne_of_gt h)
    rfl
  | cons c cs ih =>
    obtain ⟨fuel, rfl⟩ := Nat.exists_eq_succ_of_ne_zero (Nat.ne_of_gt (Nat.zero_lt_of_lt h))
    have hscan := scanChar_quoteChar c (cs.flatMap quoteChar ++ '"' :: rest)
    obtain ⟨c', cs', hcons, hne⟩ := exists_quoteChar_eq_cons c
    rw [List.flatMap_cons, List.append_assoc]
    rw [hcons] at hscan ⊢
    rw [List.cons_append, scanString.eq_def]
    split
    · next heq => cases heq
    · next heq heq' => cases heq'; exact absurd rfl hne
    · next heq _ =>
      cases heq
      rw [List.cons_append] at hscan
      rw [hscan]
      simp only [Option.bind_eq_bind, Option.bind_some]
      rw [ih (Nat.lt_of_succ_lt_succ h)]
      rfl

/-- A string that was written is as long as the string at least. -/
theorem length_le_length_flatMap (cs : List Char) : cs.length ≤ (cs.flatMap quoteChar).length := by
  induction cs with
  | nil => exact Nat.le_refl 0
  | cons c cs ih =>
    obtain ⟨c', cs', hcons, -⟩ := exists_quoteChar_eq_cons c
    rw [List.flatMap_cons, List.length_append, hcons, List.length_cons, List.length_cons]
    omega

/-- A string that was written is scanned, with as much fuel as there are characters. -/
theorem scanString_quoted (cs rest : List Char) :
    scanString (cs.flatMap quoteChar ++ '"' :: rest).length (cs.flatMap quoteChar ++ '"' :: rest) =
      some (cs, rest) := by
  refine scanString_flatMap cs rest ?_
  have hle := length_le_length_flatMap cs
  rw [List.length_append, List.length_cons]
  omega

/-! ## Numbers -/

/-- A number as it is spelled. -/
structure Numeral where
  negative : Bool
  int : List Char
  frac : List Char
  exp : List Char
  deriving DecidableEq

/-- The characters of the number. -/
def Numeral.chars (self : Numeral) : List Char :=
  (if self.negative then ['-'] else []) ++ (self.int ++ (self.frac ++ self.exp))

/-- `0` or digits of which the first is another one. -/
def scanInt : List Char → Option (List Char × List Char)
  | '0' :: rest => some (['0'], rest)
  | cs => match cs.span Char.isDigit with
    | ([], _) => none
    | (digits, rest) => some (digits, rest)

/-- `(\.[0-9]+)?`. -/
def scanFrac : List Char → List Char × List Char
  | '.' :: rest => match rest.span Char.isDigit with
    | ([], _) => ([], '.' :: rest)
    | (digits, rest) => ('.' :: digits, rest)
  | cs => ([], cs)

/-- `[-+]?`. -/
def scanSign : List Char → List Char × List Char
  | '+' :: rest => (['+'], rest)
  | '-' :: rest => (['-'], rest)
  | cs => ([], cs)

/-- `([eE][-+]?[0-9]+)?`. -/
def scanExp : List Char → List Char × List Char
  | [] => ([], [])
  | e :: rest =>
    if e = 'e' ∨ e = 'E' then
      match (scanSign rest).2.span Char.isDigit with
      | ([], _) => ([], e :: rest)
      | (digits, rest') => (e :: ((scanSign rest).1 ++ digits), rest')
    else ([], e :: rest)

/-- A number behind its sign. -/
def scanUnsigned (negative : Bool) (cs : List Char) : Option (Numeral × List Char) :=
  (scanInt cs).map fun (int, rest) =>
    ({ negative, int, frac := (scanFrac rest).1, exp := (scanExp (scanFrac rest).2).1 },
      (scanExp (scanFrac rest).2).2)

/-- `NUMBER_RE`. -/
def scanNumeral : List Char → Option (Numeral × List Char)
  | '-' :: rest => scanUnsigned true rest
  | cs => scanUnsigned false cs

/-- The spelling follows the grammar. -/
structure Numeral.Spelled (num : Numeral) : Prop where
  int : num.int = ['0'] ∨ ∃ d ds, num.int = d :: ds ∧ d ≠ '0' ∧ ∀ c ∈ d :: ds, c.isDigit
  frac : num.frac = [] ∨ ∃ ds, num.frac = '.' :: ds ∧ ds ≠ [] ∧ ∀ c ∈ ds, c.isDigit
  exp : num.exp = [] ∨ ∃ e sign ds, num.exp = e :: (sign ++ ds) ∧ (e = 'e' ∨ e = 'E') ∧
    (sign = [] ∨ sign = ['+'] ∨ sign = ['-']) ∧ ds ≠ [] ∧ ∀ c ∈ ds, c.isDigit

/-- What follows does not continue a number. -/
def Stops (rest : List Char) : Prop :=
  ∀ c ∈ rest.head?, c.isDigit = false ∧ c ≠ '.' ∧ c ≠ 'e' ∧ c ≠ 'E'

/-- Digits are scanned up to what is none. -/
theorem span_digits {ds rest : List Char} (hds : ∀ c ∈ ds, c.isDigit)
    (hrest : ∀ c ∈ rest.head?, c.isDigit = false) : (ds ++ rest).span Char.isDigit = (ds, rest) := by
  rw [List.span_eq_takeWhile_dropWhile]
  have htake : rest.takeWhile Char.isDigit = [] := by
    cases rest with
    | nil => rfl
    | cons c rest => rw [List.takeWhile_cons, hrest c rfl]; rfl
  have hdrop : rest.dropWhile Char.isDigit = rest := by
    cases rest with
    | nil => rfl
    | cons c rest => rw [List.dropWhile_cons, hrest c rfl]; rfl
  rw [List.takeWhile_append_of_pos hds, List.dropWhile_append_of_pos hds, htake, hdrop, List.append_nil]

section
variable {num : Numeral} {rest : List Char}

/-- The integer part of a spelled number is found, up to what is no digit. -/
theorem scanInt_append (h : num.Spelled) (hrest : ∀ c ∈ rest.head?, c.isDigit = false) :
    scanInt (num.int ++ rest) = some (num.int, rest) := by
  rcases h.int with hzero | ⟨d, ds, hint, hd, hdigits⟩
  · rw [hzero]
    rfl
  · rw [hint, List.cons_append, scanInt]
    · rw [← List.cons_append, span_digits hdigits hrest]
    · rintro rest' heq
      cases heq
      exact hd rfl

/-- So is its fraction. -/
theorem scanFrac_append (h : num.Spelled) (hrest : ∀ c ∈ rest.head?, c.isDigit = false)
    (hpoint : ∀ c ∈ rest.head?, c ≠ '.') : scanFrac (num.frac ++ rest) = (num.frac, rest) := by
  rcases h.frac with hnone | ⟨ds, hfrac, hne, hdigits⟩
  · rw [hnone, List.nil_append, scanFrac]
    rintro rest' rfl
    exact hpoint '.' rfl rfl
  · rw [hfrac, List.cons_append, scanFrac, span_digits hdigits hrest]
    split
    · next heq =>
      cases heq
      exact absurd rfl hne
    · next heq =>
      cases heq
      rfl

/-- So is its exponent. -/
theorem scanExp_append (h : num.Spelled) (hrest : Stops rest) :
    scanExp (num.exp ++ rest) = (num.exp, rest) := by
  rcases h.exp with hnone | ⟨e, sign, ds, hexp, he, hsign, hne, hdigits⟩
  · rw [hnone, List.nil_append]
    cases rest with
    | nil => rfl
    | cons c rest =>
      obtain ⟨-, -, hc, hc'⟩ := hrest c rfl
      rw [scanExp, if_neg (not_or.2 ⟨hc, hc'⟩)]
  · have hsigned : scanSign (sign ++ (ds ++ rest)) = (sign, ds ++ rest) := by
      rcases hsign with rfl | rfl | rfl
      · obtain ⟨d, ds, rfl⟩ := List.exists_cons_of_ne_nil hne
        have hd : d.isDigit := hdigits d List.mem_cons_self
        rw [List.nil_append, List.cons_append, scanSign]
        · rintro rest' heq
          cases heq
          exact absurd hd (by decide)
        · rintro rest' heq
          cases heq
          exact absurd hd (by decide)
      · rfl
      · rfl
    rw [hexp, List.cons_append, List.append_assoc, scanExp, if_pos he, hsigned,
      span_digits hdigits fun c hc => (hrest c hc).1]
    split
    · next heq =>
      cases heq
      exact absurd rfl hne
    · next heq =>
      cases heq
      rfl

/-- A number that is spelled out is scanned. -/
theorem scanNumeral_chars (h : num.Spelled) (hrest : Stops rest) :
    scanNumeral (num.chars ++ rest) = some (num, rest) := by
  -- what follows a part is the next part that is there, or the rest
  have hexp : ∀ c ∈ (num.exp ++ rest).head?, c.isDigit = false ∧ c ≠ '.' := by
    intro c hc
    rcases h.exp with hnone | ⟨e, sign, ds, hexp, he, -⟩
    · rw [hnone] at hc
      exact ⟨(hrest c hc).1, (hrest c hc).2.1⟩
    · rw [hexp] at hc
      cases hc
      rcases he with rfl | rfl
      · exact ⟨by decide, by decide⟩
      · exact ⟨by decide, by decide⟩
  have hfrac : ∀ c ∈ (num.frac ++ (num.exp ++ rest)).head?, c.isDigit = false := by
    intro c hc
    rcases h.frac with hnone | ⟨ds, hfrac, -⟩
    · rw [hnone] at hc
      exact (hexp c hc).1
    · rw [hfrac] at hc
      cases hc
      decide
  have hint := scanInt_append h hfrac
  have hminus : ∀ rest', num.int ++ (num.frac ++ (num.exp ++ rest)) ≠ '-' :: rest' := by
    intro rest' heq
    rw [heq] at hint
    cases hint
  have hscan : scanUnsigned num.negative (num.int ++ (num.frac ++ (num.exp ++ rest))) = some (num, rest) := by
    rw [scanUnsigned, hint, Option.map_some]
    dsimp only
    rw [scanFrac_append h (fun c hc => (hexp c hc).1) fun c hc => (hexp c hc).2, scanExp_append h hrest]
  unfold Numeral.chars
  cases hnegative : num.negative with
  | true =>
    rw [hnegative] at hscan
    simp only [List.append_assoc]
    exact hscan
  | false =>
    rw [hnegative] at hscan
    simp only [Bool.false_eq_true, if_false, List.nil_append, List.append_assoc]
    rw [scanNumeral, hscan]
    exact hminus

end

end JsonText

end AgentRuntime
