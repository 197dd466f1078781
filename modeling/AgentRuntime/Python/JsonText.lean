import AgentRuntime.Python.JsonLexemes

/-!
# JSON as text

`json.dumps` and `json.loads` with their default arguments. A Python value that is written is read back as it
was (`loads_dumps`), and a value cannot be written exactly if it holds an integer that is too long to be
converted. That a nesting may be too deep for the interpreter is left out.
-/

namespace AgentRuntime

namespace JsonText

/-! ## Writing -/

mutual

/-- The text of a value. -/
def chars : Json → List Char
  | .null => ['n', 'u', 'l', 'l']
  | .bool true => ['t', 'r', 'u', 'e']
  | .bool false => ['f', 'a', 'l', 's', 'e']
  | .int n => (toString n).toList
  | .float text => text.toList
  | .str s => quoted s.toList
  | .list [] => ['[', ']']
  | .list (x :: xs) => '[' :: (chars x ++ elementsTail xs)
  | .dict [] => ['{', '}']
  | .dict ((k, v) :: entries) => '{' :: (quoted k.toList ++ ':' :: ' ' :: (chars v ++ entriesTail entries))

/-- The elements behind the first one, and the end of the list. -/
def elementsTail : List Json → List Char
  | [] => [']']
  | x :: xs => ',' :: ' ' :: (chars x ++ elementsTail xs)

/-- The entries behind the first one, and the end of the dictionary. -/
def entriesTail : List (String × Json) → List Char
  | [] => ['}']
  | (k, v) :: entries =>
    ',' :: ' ' :: (quoted k.toList ++ ':' :: ' ' :: (chars v ++ entriesTail entries))

end

mutual

/-- No integer in the value is too long for `str`. -/
def fits : Json → Bool
  | .int n => (Nat.toDigits 10 n.natAbs).length ≤ maxStrDigits
  | .list xs => fitsElements xs
  | .dict entries => fitsEntries entries
  | _ => true

/-- `fits` for the elements of a list. -/
def fitsElements : List Json → Bool
  | [] => true
  | x :: xs => fits x && fitsElements xs

/-- `fits` for the values of a dictionary. -/
def fitsEntries : List (String × Json) → Bool
  | [] => true
  | (_, v) :: entries => fits v && fitsEntries entries

end

/-- What `str` and `int` raise on an integer that is too long. -/
def tooManyDigits : PyError := .valueError "Exceeds the limit (4300 digits) for integer string conversion"

/-- `json.dumps(value)`. -/
def dumps (value : Json) : Except PyError String :=
  if fits value then .ok (String.ofList (chars value)) else .error tooManyDigits

/-! ## Reading -/

/-- `repr(float(text))`, for the text of a number. -/
structure FloatReader where
  read : String → String

/-- What `loads` raises on a text that is no JSON. -/
def decodeError : PyError := .external "json.JSONDecodeError"

/-- `WHITESPACE.match(s, end).end()`. -/
def skipSpace (cs : List Char) : List Char := cs.dropWhile (· ∈ [' ', '\t', '\n', '\r'])

/-- The value of a number. -/
def numberValue (floats : FloatReader) (num : Numeral) : Except PyError Json :=
  if num.frac = [] ∧ num.exp = [] then
    if maxStrDigits < num.int.length then .error tooManyDigits
    else
      let n := Nat.ofDigitChars 10 num.int 0
      .ok (.int (if num.negative then -(n : Int) else n))
  else .ok (.float (floats.read (String.ofList num.chars)))

/-- `dict(pairs)`. -/
def dictOf (pairs : Dict) : Dict := pairs.foldl (fun d pair => d.set pair.1 pair.2) []

/-- A reader of a value at the beginning of a text. -/
abbrev Reader (α : Type) := List Char → Except PyError (α × List Char)

/-- What comes behind an element or an entry: a comma, with another one behind it, or the end. -/
def delimiter (close : Char) (cs : List Char) : Except PyError (Bool × List Char) :=
  match skipSpace cs with
  | c :: rest =>
    if c = ',' then .ok (true, skipSpace rest)
    else if c = close then .ok (false, rest)
    else .error decodeError
  | [] => .error decodeError

/-- The elements of a list that is not empty, with a reader of values. -/
def parseElements (value : Reader Json) : Nat → Reader (List Json)
  | 0, _ => .error decodeError
  | fuel + 1, cs => do
    let (x, rest) ← value cs
    let (more, rest) ← delimiter ']' rest
    if more then
      let (xs, rest) ← parseElements value fuel rest
      return (x :: xs, rest)
    else return ([x], rest)

/-- The key of an entry, up to its value. -/
def parseKey : Reader String
  | '"' :: cs =>
    match scanString cs.length cs with
    | none => .error decodeError
    | some (key, rest) =>
      match skipSpace rest with
      | c :: rest => if c = ':' then .ok (String.ofList key, skipSpace rest) else .error decodeError
      | [] => .error decodeError
  | _ => .error decodeError

/-- The entries of a dictionary that is not empty. -/
def parseEntries (value : Reader Json) : Nat → Reader Dict
  | 0, _ => .error decodeError
  | fuel + 1, cs => do
    let (key, rest) ← parseKey cs
    let (v, rest) ← value rest
    let (more, rest) ← delimiter '}' rest
    if more then
      let (entries, rest) ← parseEntries value fuel rest
      return ((key, v) :: entries, rest)
    else return ([(key, v)], rest)

/-- The three constants that are none in JSON. -/
def parseConstant : Reader Json
  | 'N' :: 'a' :: 'N' :: rest => .ok (.float "NaN", rest)
  | 'I' :: 'n' :: 'f' :: 'i' :: 'n' :: 'i' :: 't' :: 'y' :: rest => .ok (.float "Infinity", rest)
  | '-' :: 'I' :: 'n' :: 'f' :: 'i' :: 'n' :: 'i' :: 't' :: 'y' :: rest => .ok (.float "-Infinity", rest)
  | _ => .error decodeError

/-- A number, or one of the constants. -/
def parseNumber (floats : FloatReader) : Reader Json := fun cs =>
  match scanNumeral cs with
  | some (num, rest) => (numberValue floats num).map fun value => (value, rest)
  | none => parseConstant cs

/-- `scan_once`. Each level of a value, and each of its elements, takes a character at least. -/
def parseValue (floats : FloatReader) : Nat → Reader Json
  | 0, _ => .error decodeError
  | fuel + 1, cs =>
    match cs with
    | '"' :: rest =>
      match scanString rest.length rest with
      | some (s, rest) => .ok (.str (String.ofList s), rest)
      | none => .error decodeError
    | '[' :: rest =>
      match skipSpace rest with
      | ']' :: rest => .ok (.list [], rest)
      | rest => (parseElements (parseValue floats fuel) fuel rest).map fun (xs, rest) => (.list xs, rest)
    | '{' :: rest =>
      match skipSpace rest with
      | '}' :: rest => .ok (.dict [], rest)
      | rest => (parseEntries (parseValue floats fuel) fuel rest).map fun (entries, rest) =>
          (.dict (dictOf entries), rest)
    | 'n' :: 'u' :: 'l' :: 'l' :: rest => .ok (.null, rest)
    | 't' :: 'r' :: 'u' :: 'e' :: rest => .ok (.bool true, rest)
    | 'f' :: 'a' :: 'l' :: 's' :: 'e' :: rest => .ok (.bool false, rest)
    | cs => parseNumber floats cs

/-- `json.loads(text)`. -/
def loads (floats : FloatReader) (text : String) : Except PyError Json := do
  let cs := text.toList
  if cs.head? = some '\ufeff' then throw decodeError
  let (value, rest) ← parseValue floats (cs.length + 1) (skipSpace cs)
  if skipSpace rest ≠ [] then throw decodeError
  return value

example : loads ⟨id⟩ "[1, -2.5e+3, [null], \"\\u00e9\\ud83d\\ude00\"]\n" =
    .ok (.list [.int 1, .float "-2.5e+3", .list [.null], .str "é😀"]) := by rfl

/-! ## Values of Python -/

/-- The text is what `dumps` writes for a float. -/
inductive IsFloat (floats : FloatReader) : String → Prop where
  | number {num : Numeral} (spelled : num.Spelled) (notInt : num.frac ≠ [] ∨ num.exp ≠ [])
      (isRepr : floats.read (String.ofList num.chars) = String.ofList num.chars) :
      IsFloat floats (String.ofList num.chars)
  | nan : IsFloat floats "NaN"
  | infinity : IsFloat floats "Infinity"
  | negInfinity : IsFloat floats "-Infinity"

mutual

/-- The floats of the value are floats, and no dictionary in it has a key twice. -/
def WellFormed (floats : FloatReader) : Json → Prop
  | .float text => IsFloat floats text
  | .list xs => WellFormedElements floats xs
  | .dict entries => (entries.map Prod.fst).Nodup ∧ WellFormedEntries floats entries
  | _ => True

/-- `WellFormed` for the elements of a list. -/
def WellFormedElements (floats : FloatReader) : List Json → Prop
  | [] => True
  | x :: xs => WellFormed floats x ∧ WellFormedElements floats xs

/-- `WellFormed` for the values of a dictionary. -/
def WellFormedEntries (floats : FloatReader) : List (String × Json) → Prop
  | [] => True
  | (_, v) :: entries => WellFormed floats v ∧ WellFormedEntries floats entries

end

/-! ## Reading what was written -/

/-- A character that is no white space stays. -/
theorem skipSpace_cons {c : Char} (h : c ∉ [' ', '\t', '\n', '\r']) (cs : List Char) :
    skipSpace (c :: cs) = c :: cs := by
  rw [skipSpace, List.dropWhile_cons, if_neg (by simpa using h)]

/-- A blank is skipped. -/
theorem skipSpace_space (cs : List Char) : skipSpace (' ' :: cs) = skipSpace cs := by
  rw [skipSpace, List.dropWhile_cons]
  rfl

/-- The digits of a positive number do not begin with zero. -/
theorem head_toDigits {n : Nat} (h : n ≠ 0) : ∃ d ds, Nat.toDigits 10 n = d :: ds ∧ d ≠ '0' := by
  induction n using Nat.strongRecOn with
  | ind n ih =>
    by_cases hlt : n < 10
    · refine ⟨n.digitChar, [], Nat.toDigits_of_lt_base hlt, ?_⟩
      have hall : ∀ d < 10, d ≠ 0 → Nat.digitChar d ≠ '0' := by decide
      exact hall n hlt h
    · obtain ⟨d, ds, hdigits, hd⟩ := ih (n / 10) (Nat.div_lt_self (by omega) (by omega)) (by omega)
      refine ⟨d, ds ++ [(n % 10).digitChar], ?_, hd⟩
      rw [Nat.toDigits_of_base_le (by omega) (Nat.le_of_not_lt hlt), hdigits, List.cons_append]

/-- The spelling of an integer. -/
def intNumeral (n : Int) : Numeral := ⟨n < 0, Nat.toDigits 10 n.natAbs, [], []⟩

/-- An integer is written as its decimal digits. -/
theorem chars_intNumeral (n : Int) : (intNumeral n).chars = (toString n).toList := by
  cases n with
  | ofNat n =>
    rw [Int.ofNat_eq_natCast, toList_toString_natCast]
    simp [intNumeral, Numeral.chars]
  | negSucc n =>
    rw [toList_toString_negSucc]
    simp [intNumeral, Numeral.chars, Int.negSucc_lt_zero]

/-- They are a spelled number. -/
theorem spelled_intNumeral (n : Int) : (intNumeral n).Spelled := by
  refine ⟨?_, Or.inl rfl, Or.inl rfl⟩
  by_cases hzero : n.natAbs = 0
  · exact Or.inl (by rw [intNumeral, hzero]; rfl)
  · obtain ⟨d, ds, hdigits, hd⟩ := head_toDigits hzero
    refine Or.inr ⟨d, ds, hdigits, hd, fun c hc => ?_⟩
    rw [← hdigits] at hc
    exact Nat.isDigit_of_mem_toDigits (by decide) (by decide) hc

/-- The value of the spelling. -/
theorem numberValue_intNumeral (floats : FloatReader) {n : Int}
    (h : (Nat.toDigits 10 n.natAbs).length ≤ maxStrDigits) : numberValue floats (intNumeral n) = .ok (.int n) := by
  have hvalue : Nat.ofDigitChars 10 (Nat.toDigits 10 n.natAbs) 0 = n.natAbs := Nat.ofDigitChars_ten_toDigits
  rw [numberValue, if_pos ⟨rfl, rfl⟩, intNumeral, if_neg (Nat.not_lt.2 h)]
  dsimp only
  rw [hvalue]
  congr 2
  by_cases hneg : n < 0
  · rw [if_pos (decide_eq_true hneg)]
    omega
  · rw [if_neg (by simpa using hneg)]
    omega

section
variable {floats : FloatReader} {rest : List Char}

/-- A spelled number begins with a digit or a sign. -/
theorem head_intNumeral_chars {num : Numeral} (h : num.Spelled) :
    ∃ c cs, num.chars = c :: cs ∧ (c.isDigit ∨ c = '-') := by
  unfold Numeral.chars
  cases num.negative with
  | true => exact ⟨'-', _, rfl, Or.inr rfl⟩
  | false =>
    rcases h.int with hzero | ⟨d, ds, hint, -, hdigits⟩
    · exact ⟨'0', _, by rw [hzero]; rfl, Or.inl (by decide)⟩
    · exact ⟨d, _, by rw [hint]; rfl, Or.inl (hdigits d List.mem_cons_self)⟩

/-- What begins with a digit or a sign is a number. -/
theorem parseValue_number {fuel : Nat} {c : Char} {cs : List Char} (h : c.isDigit ∨ c = '-') :
    parseValue floats (fuel + 1) (c :: cs) = parseNumber floats (c :: cs) := by
  rw [parseValue.eq_def]
  dsimp only
  split
  all_goals first
    | rfl
    | next heq =>
      cases heq
      rcases h with h | h
      · exact absurd h (by decide)
      · exact absurd h (by decide)

/-- A number that is spelled out is read. -/
theorem parseValue_numeral (floats : FloatReader) {num : Numeral} (h : num.Spelled) (hrest : Stops rest)
    (fuel : Nat) :
    parseValue floats (fuel + 1) (num.chars ++ rest) =
      (numberValue floats num).map fun value => (value, rest) := by
  obtain ⟨c, cs, hcons, hc⟩ := head_intNumeral_chars h
  have hscan := scanNumeral_chars h hrest
  rw [hcons, List.cons_append] at hscan ⊢
  rw [parseValue_number hc, parseNumber, hscan]

/-- The first character of a value is no space, does not end a list and is no byte order mark. -/
theorem exists_chars_eq_cons {j : Json} (h : WellFormed floats j) :
    ∃ c cs, chars j = c :: cs ∧ c ∉ [' ', '\t', '\n', '\r', ']', '\ufeff'] := by
  have hnumber {c : Char} (hc : c.isDigit ∨ c = '-') : c ∉ [' ', '\t', '\n', '\r', ']', '\ufeff'] := by
    intro hmem
    simp only [List.mem_cons, List.not_mem_nil, or_false] at hmem
    rcases hmem with rfl | rfl | rfl | rfl | rfl | rfl <;> exact absurd hc (by decide)
  cases j with
  | null => exact ⟨'n', _, rfl, by decide⟩
  | bool b => cases b <;> exact ⟨_, _, rfl, by decide⟩
  | int n =>
    obtain ⟨c, cs, hcons, hc⟩ := head_intNumeral_chars (spelled_intNumeral n)
    rw [chars_intNumeral] at hcons
    exact ⟨c, cs, hcons, hnumber hc⟩
  | float text =>
    rw [WellFormed] at h
    cases h with
    | number hspelled =>
      obtain ⟨c, cs, hcons, hc⟩ := head_intNumeral_chars hspelled
      exact ⟨c, cs, by rw [chars, String.toList_ofList, hcons], hnumber hc⟩
    | nan => exact ⟨_, _, rfl, by decide⟩
    | infinity => exact ⟨_, _, rfl, by decide⟩
    | negInfinity => exact ⟨_, _, rfl, by decide⟩
  | str s => exact ⟨'"', _, rfl, by decide⟩
  | list xs => cases xs <;> exact ⟨'[', _, rfl, by decide⟩
  | dict entries => rcases entries with _ | ⟨⟨k, v⟩, entries⟩ <;> exact ⟨'{', _, rfl, by decide⟩

/-- No value is written with white space before it. -/
theorem skipSpace_chars {j : Json} (h : WellFormed floats j) (rest : List Char) :
    skipSpace (chars j ++ rest) = chars j ++ rest := by
  obtain ⟨c, cs, hcons, hc⟩ := exists_chars_eq_cons h
  rw [hcons, List.cons_append, skipSpace_cons fun hmem => hc (List.mem_append_left [']', '\ufeff'] hmem)]

/-- A character that no number goes on with stops the number before it. -/
theorem stops_cons {c : Char} (h : c.isDigit = false ∧ c ≠ '.' ∧ c ≠ 'e' ∧ c ≠ 'E') (cs : List Char) :
    Stops (c :: cs) := by
  intro c' hc'
  cases hc'
  exact h

/-- What comes behind an element. -/
theorem elementsTail_eq (xs : List Json) :
    ∃ c cs, elementsTail xs = c :: cs ∧ (c = ',' ∨ c = ']') := by
  cases xs with
  | nil => exact ⟨']', _, rfl, Or.inr rfl⟩
  | cons x xs => exact ⟨',', _, rfl, Or.inl rfl⟩

/-- After an entry come a comma or the closing brace. -/
theorem entriesTail_eq (entries : List (String × Json)) :
    ∃ c cs, entriesTail entries = c :: cs ∧ (c = ',' ∨ c = '}') := by
  rcases entries with _ | ⟨⟨k, v⟩, entries⟩
  · exact ⟨'}', _, rfl, Or.inr rfl⟩
  · exact ⟨',', _, rfl, Or.inl rfl⟩

/-- What follows an element stops a number. -/
theorem stops_elementsTail (xs : List Json) (rest : List Char) : Stops (elementsTail xs ++ rest) := by
  obtain ⟨c, cs, hcons, rfl | rfl⟩ := elementsTail_eq xs
  · rw [hcons]
    exact stops_cons (by decide) _
  · rw [hcons]
    exact stops_cons (by decide) _

/-- So does what follows an entry. -/
theorem stops_entriesTail (entries : List (String × Json)) (rest : List Char) :
    Stops (entriesTail entries ++ rest) := by
  obtain ⟨c, cs, hcons, rfl | rfl⟩ := entriesTail_eq entries
  · rw [hcons]
    exact stops_cons (by decide) _
  · rw [hcons]
    exact stops_cons (by decide) _

/-- A key that was written is read. -/
theorem parseKey_quoted (key : String) (rest : List Char) :
    parseKey (quoted key.toList ++ ':' :: ' ' :: rest) = .ok (key, skipSpace rest) := by
  rw [quoted, List.cons_append, List.append_assoc, List.singleton_append, parseKey, scanString_quoted]
  dsimp only
  rw [skipSpace_cons (by decide)]
  dsimp only
  rw [if_pos rfl, String.ofList_toList, skipSpace_space]

/-- An assignment to a new key is an entry at the end. -/
theorem dictOf_eq {d : Dict} (h : (d.map Prod.fst).Nodup) : dictOf d = d := by
  have hfold (d₁ d₂ : Dict) (hnodup : ((d₁ ++ d₂).map Prod.fst).Nodup) :
      d₂.foldl (fun d pair => d.set pair.1 pair.2) d₁ = d₁ ++ d₂ := by
    induction d₂ generalizing d₁ with
    | nil => exact (List.append_nil d₁).symm
    | cons pair d₂ ih =>
      have hnew : ∀ entry ∈ d₁, entry.1 ≠ pair.1 := by
        intro entry hentry heq
        rw [List.map_append, List.nodup_append] at hnodup
        exact hnodup.2.2 entry.1 (List.mem_map_of_mem hentry) pair.1 List.mem_cons_self heq
      have hset : Dict.set d₁ pair.1 pair.2 = d₁ ++ [pair] := by
        rw [Dict.set, if_neg]
        rw [List.any_eq_true]
        rintro ⟨entry, hentry, heq⟩
        exact hnew entry hentry (beq_iff_eq.1 heq)
      rw [List.foldl_cons, hset, ih _ (by rwa [List.append_assoc]), List.append_assoc]
      rfl
  exact (hfold [] d h).trans (List.nil_append d)

/-- Behind a comma there is another value or key. -/
theorem delimiter_comma (close : Char) {cs : List Char} (h : skipSpace cs = cs) :
    delimiter close (',' :: ' ' :: cs) = .ok (true, cs) := by
  rw [delimiter, skipSpace_cons (by decide)]
  dsimp only
  rw [if_pos rfl, skipSpace_space, h]

/-- Elements that are read one by one are read. -/
theorem parseElements_chars {value : Reader Json} {x : Json} {xs : List Json} {fuel : Nat}
    (hvalue : ∀ y ∈ x :: xs, ∀ rest, Stops rest → value (chars y ++ rest) = .ok (y, rest))
    (hwell : ∀ y ∈ xs, WellFormed floats y) (hfuel : xs.length < fuel) (rest : List Char) :
    parseElements value fuel (chars x ++ (elementsTail xs ++ rest)) = .ok (x :: xs, rest) := by
  induction xs generalizing x fuel with
  | nil =>
    obtain ⟨fuel, rfl⟩ := Nat.exists_eq_succ_of_ne_zero (Nat.ne_of_gt hfuel)
    rw [parseElements, hvalue x List.mem_cons_self _ (stops_elementsTail [] rest)]
    rfl
  | cons y ys ih =>
    obtain ⟨fuel, rfl⟩ := Nat.exists_eq_succ_of_ne_zero (Nat.ne_of_gt (Nat.zero_lt_of_lt hfuel))
    have htail := ih (fun z hz => hvalue z (List.mem_cons_of_mem x hz))
      (fun z hz => hwell z (List.mem_cons_of_mem y hz)) (Nat.lt_of_succ_lt_succ hfuel)
    have hmore := delimiter_comma ']' (skipSpace_chars (hwell y List.mem_cons_self) (elementsTail ys ++ rest))
    rw [parseElements, hvalue x List.mem_cons_self _ (stops_elementsTail (y :: ys) rest)]
    simp only [elementsTail, List.cons_append, List.append_assoc, bind, Except.bind, hmore, htail, if_true]
    rfl

/-- Entries are read whose values are read one by one. -/
theorem parseEntries_chars {value : Reader Json} {k : String} {v : Json} {entries : List (String × Json)} {fuel : Nat}
    (hvalue : ∀ entry ∈ (k, v) :: entries, ∀ rest, Stops rest →
      value (chars entry.2 ++ rest) = .ok (entry.2, rest))
    (hwell : ∀ entry ∈ (k, v) :: entries, WellFormed floats entry.2) (hfuel : entries.length < fuel)
    (rest : List Char) :
    parseEntries value fuel (quoted k.toList ++ ':' :: ' ' :: (chars v ++ (entriesTail entries ++ rest))) =
      .ok ((k, v) :: entries, rest) := by
  induction entries generalizing k v fuel with
  | nil =>
    obtain ⟨fuel, rfl⟩ := Nat.exists_eq_succ_of_ne_zero (Nat.ne_of_gt hfuel)
    have hv := hvalue (k, v) List.mem_cons_self _ (stops_entriesTail [] rest)
    rw [parseEntries, parseKey_quoted, skipSpace_chars (hwell (k, v) List.mem_cons_self)]
    simp only [bind, Except.bind, hv]
    rfl
  | cons entry entries ih =>
    obtain ⟨k', v'⟩ := entry
    obtain ⟨fuel, rfl⟩ := Nat.exists_eq_succ_of_ne_zero (Nat.ne_of_gt (Nat.zero_lt_of_lt hfuel))
    have htail := ih (fun e he => hvalue e (List.mem_cons_of_mem _ he))
      (fun e he => hwell e (List.mem_cons_of_mem _ he)) (Nat.lt_of_succ_lt_succ hfuel)
    have hv := hvalue (k, v) List.mem_cons_self _ (stops_entriesTail ((k', v') :: entries) rest)
    rw [parseEntries, parseKey_quoted, skipSpace_chars (hwell (k, v) List.mem_cons_self)]
    have hkey : skipSpace (quoted k'.toList ++ ':' :: ' ' :: (chars v' ++ (entriesTail entries ++ rest))) =
        quoted k'.toList ++ ':' :: ' ' :: (chars v' ++ (entriesTail entries ++ rest)) :=
      skipSpace_cons (by decide) _
    simp only [bind, Except.bind, hv]
    simp only [entriesTail, List.cons_append, List.append_assoc, delimiter_comma '}' hkey, htail, if_true]
    rfl

/-! ## The round trip -/

/-- The elements of a well-formed list are well formed. -/
theorem wellFormed_of_mem {xs : List Json} (h : WellFormedElements floats xs) : ∀ x ∈ xs, WellFormed floats x := by
  induction xs with
  | nil => exact fun x hx => absurd hx List.not_mem_nil
  | cons x xs ih => exact List.forall_mem_cons.2 ⟨h.1, ih h.2⟩

/-- So are the values of a well-formed dictionary. -/
theorem wellFormed_of_mem_entries {entries : List (String × Json)} (h : WellFormedEntries floats entries) :
    ∀ entry ∈ entries, WellFormed floats entry.2 := by
  induction entries with
  | nil => exact fun entry hentry => absurd hentry List.not_mem_nil
  | cons entry entries ih => exact List.forall_mem_cons.2 ⟨h.1, ih h.2⟩

/-- A list is written with more characters than it has elements. -/
theorem length_lt_elementsTail (xs : List Json) : xs.length < (elementsTail xs).length := by
  induction xs with
  | nil => exact Nat.zero_lt_one
  | cons x xs ih =>
    simp only [elementsTail, List.length_cons, List.length_append]
    omega

/-- So is a dictionary. -/
theorem length_lt_entriesTail (entries : List (String × Json)) : entries.length < (entriesTail entries).length := by
  induction entries with
  | nil => exact Nat.zero_lt_one
  | cons entry entries ih =>
    simp only [entriesTail, List.length_cons, List.length_append]
    omega

/-- The elements of a list are read, if its values are. -/
theorem parseValue_list {x : Json} {xs : List Json} {fuel : Nat}
    (hvalue : ∀ y ∈ x :: xs, ∀ rest, Stops rest → parseValue floats fuel (chars y ++ rest) = .ok (y, rest))
    (hwell : WellFormedElements floats (x :: xs)) (hfuel : xs.length < fuel) (rest : List Char) :
    parseValue floats (fuel + 1) (chars (.list (x :: xs)) ++ rest) = .ok (.list (x :: xs), rest) := by
  have hread := parseElements_chars hvalue (wellFormed_of_mem hwell.2) hfuel rest
  have hspace := skipSpace_chars hwell.1 (elementsTail xs ++ rest)
  obtain ⟨c, cs, hcons, hc⟩ := exists_chars_eq_cons hwell.1
  rw [chars, List.cons_append, List.append_assoc, parseValue, hspace]
  rw [hcons, List.cons_append] at hread ⊢
  split
  · next heq =>
    cases heq
    exact absurd (by decide) hc
  · rw [hread]
    rfl

/-- The entries of a dictionary are read, if its values are. -/
theorem parseValue_dict {k : String} {v : Json} {entries : List (String × Json)} {fuel : Nat}
    (hvalue : ∀ entry ∈ (k, v) :: entries, ∀ rest, Stops rest →
      parseValue floats fuel (chars entry.2 ++ rest) = .ok (entry.2, rest))
    (hwell : WellFormed floats (.dict ((k, v) :: entries))) (hfuel : entries.length < fuel) (rest : List Char) :
    parseValue floats (fuel + 1) (chars (.dict ((k, v) :: entries)) ++ rest) =
      .ok (.dict ((k, v) :: entries), rest) := by
  have hread := parseEntries_chars hvalue (wellFormed_of_mem_entries hwell.2) hfuel rest
  rw [chars, List.cons_append, List.append_assoc, List.cons_append, List.cons_append, List.append_assoc,
    parseValue, skipSpace, quoted, List.cons_append, List.dropWhile_cons, if_neg (by decide)]
  rw [quoted, List.cons_append] at hread
  change (parseEntries (parseValue floats fuel) fuel _).map (fun r => (Json.dict (dictOf r.1), r.2)) = _
  rw [hread, Except.map]
  dsimp only
  rw [dictOf_eq hwell.1]

mutual

/-- A value that was written is read, with as much fuel as there are characters. -/
theorem parseValue_chars : ∀ (j : Json) {fuel : Nat}, (chars j).length ≤ fuel → WellFormed floats j →
    fits j = true → ∀ rest, Stops rest → parseValue floats (fuel + 1) (chars j ++ rest) = .ok (j, rest)
  | .null, _, _, _, _, _, _ => rfl
  | .bool true, _, _, _, _, _, _ => rfl
  | .bool false, _, _, _, _, _, _ => rfl
  | .int n, fuel, _, _, hfits, rest, hrest => by
    have hread := parseValue_numeral floats (spelled_intNumeral n) hrest fuel
    rw [chars_intNumeral, numberValue_intNumeral floats (of_decide_eq_true hfits)] at hread
    exact hread
  | .float text, fuel, _, hwell, _, rest, hrest => by
    rw [WellFormed] at hwell
    cases hwell with
    | number hspelled hnot hrepr =>
      have hread := parseValue_numeral floats hspelled hrest fuel
      rw [numberValue, if_neg (by tauto), hrepr] at hread
      rw [chars, String.toList_ofList]
      exact hread
    | nan => rfl
    | infinity => rfl
    | negInfinity => rfl
  | .str s, fuel, _, _, _, rest, _ => by
    rw [chars, quoted, List.cons_append, List.append_assoc, List.singleton_append, parseValue,
      scanString_quoted]
    dsimp only
    rw [String.ofList_toList]
  | .list [], _, _, _, _, _, _ => rfl
  | .list (x :: xs), fuel, hfuel, hwell, hfits, rest, _ => by
    rw [chars, List.length_cons, List.length_append] at hfuel
    obtain ⟨fuel, rfl⟩ := Nat.exists_eq_succ_of_ne_zero (show fuel ≠ 0 by omega)
    have hlength := length_lt_elementsTail xs
    refine parseValue_list (parseValue_elements (x :: xs) ?_ hwell hfits) hwell (by omega) rest
    simp only [elementsTail, List.length_cons, List.length_append]
    omega
  | .dict [], _, _, _, _, _, _ => rfl
  | .dict ((k, v) :: entries), fuel, hfuel, hwell, hfits, rest, _ => by
    simp only [chars, List.length_cons, List.length_append] at hfuel
    obtain ⟨fuel, rfl⟩ := Nat.exists_eq_succ_of_ne_zero (show fuel ≠ 0 by omega)
    have hlength := length_lt_entriesTail entries
    refine parseValue_dict (parseValue_entries ((k, v) :: entries) ?_ hwell.2 hfits) hwell (by omega) rest
    simp only [entriesTail, List.length_cons, List.length_append]
    omega

/-- Every element of a list is read back, with the fuel that the text of the list gives. -/
theorem parseValue_elements : ∀ (xs : List Json) {fuel : Nat}, (elementsTail xs).length ≤ fuel + 2 →
    WellFormedElements floats xs → fitsElements xs = true →
    ∀ y ∈ xs, ∀ rest, Stops rest → parseValue floats (fuel + 1) (chars y ++ rest) = .ok (y, rest)
  | [], _, _, _, _ => fun y hy => absurd hy List.not_mem_nil
  | x :: xs, fuel, hfuel, hwell, hfits => by
    simp only [elementsTail, List.length_cons, List.length_append] at hfuel
    obtain ⟨hx, hxs⟩ := Bool.and_eq_true_iff.1 hfits
    have hhead := parseValue_chars x (show (chars x).length ≤ fuel by omega) hwell.1 hx
    exact List.forall_mem_cons.2 ⟨hhead, parseValue_elements xs (by omega) hwell.2 hxs⟩

/-- So is every value of a dictionary. -/
theorem parseValue_entries : ∀ (entries : List (String × Json)) {fuel : Nat},
    (entriesTail entries).length ≤ fuel + 2 → WellFormedEntries floats entries → fitsEntries entries = true →
    ∀ entry ∈ entries, ∀ rest, Stops rest →
      parseValue floats (fuel + 1) (chars entry.2 ++ rest) = .ok (entry.2, rest)
  | [], _, _, _, _ => fun y hy => absurd hy List.not_mem_nil
  | (k, v) :: entries, fuel, hfuel, hwell, hfits => by
    simp only [entriesTail, List.length_cons, List.length_append] at hfuel
    obtain ⟨hv, hentries⟩ := Bool.and_eq_true_iff.1 hfits
    have hhead := parseValue_chars v (show (chars v).length ≤ fuel by omega) hwell.1 hv
    exact List.forall_mem_cons.2 ⟨hhead, parseValue_entries entries (by omega) hwell.2 hentries⟩

end

/-- **What is written is read back as it was.** -/
theorem loads_dumps {value : Json} {text : String} (hwell : WellFormed floats value)
    (h : dumps value = .ok text) : loads floats text = .ok value := by
  unfold dumps at h
  split at h
  · next hfits =>
    cases h
    have hread := parseValue_chars value (Nat.le_refl _) hwell hfits [] fun c hc => by cases hc
    have hspace := skipSpace_chars hwell []
    rw [List.append_nil] at hread hspace
    obtain ⟨c, cs, hcons, hc⟩ := exists_chars_eq_cons hwell
    have hmark : (chars value).head? ≠ some '\ufeff' := by
      rw [hcons]
      rintro heq
      cases heq
      exact hc (by decide)
    simp only [loads, String.toList_ofList, hmark, if_false, hspace, hread]
    rfl
  · cases h

end

end JsonText

end AgentRuntime
