import AgentRuntime.Python.Characters
import AgentRuntime.Python.Regex

/-!
# The format of idempotency keys

`validate_idempotency_key` (`app/api/v1/runs/router.py`). Both of its patterns end with `$`, which also
matches before a line break at the end of the key: of the keys that end with a line break, it accepts those
whose other characters match (`obeysGrammar_iff`).
-/

namespace AgentRuntime

namespace IdempotencyKey

open Regex

/-- Exception for validation errors (400 Bad Request). -/
structure ValidationError where
  message : String
  field : Option String := none
  deriving DecidableEq, Repr

/-- `[0-9a-f]`, with `re.IGNORECASE`. -/
def hexDigit : Regex := .set (caseless (inSet [('0', '9'), ('a', 'f')] []))

def hyphen : Regex := .set (· == '-')

/-- `[0-9a-f]{8}-[0-9a-f]{4}-[0-9a-f]{4}-[0-9a-f]{4}-[0-9a-f]{12}` -/
def uuidPattern : Regex :=
  seqs
    [.times hexDigit 8, hyphen, .times hexDigit 4, hyphen, .times hexDigit 4, hyphen, .times hexDigit 4,
      hyphen, .times hexDigit 12]

/-- `[a-zA-Z0-9_-]` -/
def isKeyChar : Char → Bool := inSet [('a', 'z'), ('A', 'Z'), ('0', '9')] ['_', '-']

/-- `[a-zA-Z0-9_-]+` -/
def keyPattern : Regex := .plus isKeyChar

/-- Validate idempotency key format. -/
def validate (unicode : Unicode) (key : Option String) : Except ValidationError String :=
  match key with
  | none | some "" =>
    .error { message := "Idempotency-Key header is required", field := some "Idempotency-Key" }
  | some key =>
    if uuidPattern.matchLine unicode.isWord key.toList then .ok key
    else if (32 ≤ key.length ∧ key.length ≤ 128) ∧ keyPattern.matchLine unicode.isWord key.toList then
      .ok key
    else
      .error { message := "Idempotency-Key must be a UUID or 32-128 character opaque string"
               field := some "Idempotency-Key" }

/-! ## The grammar -/

/-- A hexadecimal digit, in any letter case. -/
def IsHexDigit (c : Char) : Prop := c ∈ "0123456789abcdefABCDEF".toList

/-- Groups of 8, 4, 4, 4 and 12 hexadecimal digits. -/
def IsUuid (text : List Char) : Prop :=
  ∃ a b c d e : List Char, text = a ++ '-' :: b ++ '-' :: c ++ '-' :: d ++ '-' :: e ∧
    (a.length = 8 ∧ b.length = 4 ∧ c.length = 4 ∧ d.length = 4 ∧ e.length = 12) ∧
    ∀ x ∈ a ++ b ++ c ++ d ++ e, IsHexDigit x

/-- All characters are letters and digits of ASCII, underscores and hyphens. -/
def IsKeyText (text : List Char) : Prop := ∀ c ∈ text, c.isAlphanum ∨ c = '_' ∨ c = '-'

/-- The keys that are to be accepted. -/
def Grammar (key : String) : Prop :=
  IsUuid key.toList ∨ (32 ≤ key.length ∧ key.length ≤ 128) ∧ IsKeyText key.toList

/-- The key is returned unchanged if it is to be accepted, and rejected otherwise. -/
def ObeysGrammar (unicode : Unicode) (key : String) : Prop :=
  ∀ k, validate unicode (some key) = .ok k ↔ Grammar key ∧ k = key

/-- The key ends with a line break, and what is before it is a UUID, or 31 to 127 characters that may occur in
a key. -/
def EndsWithBreak (key : String) : Prop :=
  ∃ text, key.toList = text ++ ['\n'] ∧
    (IsUuid text ∨ (31 ≤ text.length ∧ text.length ≤ 127) ∧ IsKeyText text)

/-! ## What the patterns match -/

/-- A character is in a list that has the characters of its possible code points. -/
theorem mem_of_toNat {chars : List Char} (points : List Nat) (h : ∀ n ∈ points, Char.ofNat n ∈ chars)
    {c : Char} (hc : c.toNat ∈ points) : c ∈ chars := by
  have hmem := h c.toNat hc
  rwa [Char.ofNat_toNat] at hmem

/-- `lower()` moves the capital letters of ASCII by 32 places, and nothing else. -/
theorem toNat_toLower (c : Char) :
    c.toLower.toNat = if 65 ≤ c.toNat ∧ c.toNat ≤ 90 then c.toNat + 32 else c.toNat := by
  have hupper : (c.val ≥ 'A'.val ∧ c.val ≤ 'Z'.val) ↔ 65 ≤ c.toNat ∧ c.toNat ≤ 90 := by
    simp [UInt32.le_iff_toNat_le]
  unfold Char.toLower
  split
  · next h =>
    have hle := (hupper.1 h).2
    have hdiff : ('a'.val - 'A'.val).toNat = 32 := by decide
    rw [if_pos (hupper.1 h)]
    simp only [Char.toNat, UInt32.toNat_add, hdiff] at hle ⊢
    omega
  · next h => rw [if_neg fun h' => h (hupper.2 h')]

/-- No other character has the case of a hexadecimal digit. -/
theorem hexDigit_iff {c : Char} :
    caseless (inSet [('0', '9'), ('a', 'f')] []) c = true ↔ IsHexDigit c := by
  have hset (d : Char) : inSet [('0', '9'), ('a', 'f')] [] d = true ↔
      48 ≤ d.toNat ∧ d.toNat ≤ 57 ∨ 97 ≤ d.toNat ∧ d.toNat ≤ 102 := by
    simp [inSet, Char.le_def, UInt32.le_iff_toNat_le]
  constructor
  · intro h
    unfold caseless ignoreCase at h
    split at h
    case h_5 =>
      rw [hset, toNat_toLower] at h
      refine mem_of_toNat (List.range' 48 10 ++ List.range' 65 6 ++ List.range' 97 6) (by decide) ?_
      simp only [List.mem_append, List.mem_range'_1]
      split at h <;> omega
    all_goals exact absurd h (by decide)
  · intro h
    have hall : "0123456789abcdefABCDEF".toList.all (caseless (inSet [('0', '9'), ('a', 'f')] [])) = true := rfl
    exact List.all_eq_true.1 hall c h

/-- The characters of the grammar are those of the class `[a-zA-Z0-9_-]`. -/
theorem isKeyChar_iff {c : Char} : isKeyChar c = true ↔ c.isAlphanum ∨ c = '_' ∨ c = '-' := by
  have hset : isKeyChar c = true ↔
      (97 ≤ c.toNat ∧ c.toNat ≤ 122 ∨ 65 ≤ c.toNat ∧ c.toNat ≤ 90 ∨ 48 ≤ c.toNat ∧ c.toNat ≤ 57) ∨
        c = '_' ∨ c = '-' := by
    simp [isKeyChar, inSet, Char.le_def, UInt32.le_iff_toNat_le]
  have halphanum : c.isAlphanum =
      ((decide (c.val ≥ 65 ∧ c.val ≤ 90) || c.val ≥ 97 && c.val ≤ 122) || (c.val ≥ 48 && c.val ≤ 57)) := rfl
  rw [hset, halphanum]
  refine or_congr_left ?_
  simp only [ge_iff_le, Bool.or_eq_true, Bool.and_eq_true, decide_eq_true_eq, UInt32.le_iff_toNat_le]
  exact or_left_comm.trans or_assoc.symm

section
variable {word : Char → Bool} {last next : Option Char} {text : List Char}

/-- A group of hexadecimal digits. -/
theorem matches_hexDigits {n : Nat} :
    (Regex.times hexDigit n).Matches word last text next ↔
      text.length = n ∧ ∀ c ∈ text, IsHexDigit c := by
  induction n generalizing last text with
  | zero =>
    simp only [Regex.times, Matches, List.length_eq_zero_iff]
    exact ⟨fun h => ⟨h, by simp [h]⟩, And.left⟩
  | succ n ih =>
    constructor
    · rintro ⟨_, v, rfl, ⟨x, rfl, hx⟩, hv⟩
      obtain ⟨hlength, hdigits⟩ := ih.1 hv
      exact ⟨by simp [hlength], List.forall_mem_cons.2 ⟨hexDigit_iff.1 hx, hdigits⟩⟩
    · rintro ⟨hlength, hdigits⟩
      cases text with
      | nil => cases hlength
      | cons x text =>
        obtain ⟨hx, hdigits⟩ := List.forall_mem_cons.1 hdigits
        exact ⟨[x], text, rfl, ⟨x, rfl, hexDigit_iff.2 hx⟩, ih.2 ⟨Nat.succ.inj hlength, hdigits⟩⟩

/-- A hyphen of the pattern stands for itself. -/
theorem matches_hyphen : hyphen.Matches word last text next ↔ text = ['-'] := by
  simp [hyphen, Matches]

/-- Without its anchors, the first pattern matches the five groups of a UUID. -/
theorem matches_uuidPattern : uuidPattern.Matches word last text next ↔ IsUuid text := by
  constructor
  · rintro ⟨a, _, rfl, ha, _, _, rfl, h₁, b, _, rfl, hb, _, _, rfl, h₂, c, _, rfl, hc, _, _, rfl, h₃, d, _,
      rfl, hd, _, e, rfl, h₄, he⟩
    replace he := matches_hexDigits.1 he
    rw [matches_hexDigits] at ha hb hc hd
    rw [matches_hyphen] at h₁ h₂ h₃ h₄
    subst h₁ h₂ h₃ h₄
    refine ⟨a, b, c, d, e, by simp, ⟨ha.1, hb.1, hc.1, hd.1, he.1⟩, ?_⟩
    simp only [List.forall_mem_append]
    exact ⟨⟨⟨⟨ha.2, hb.2⟩, hc.2⟩, hd.2⟩, he.2⟩
  · rintro ⟨a, b, c, d, e, rfl, ⟨ha, hb, hc, hd, he⟩, hdigits⟩
    simp only [List.forall_mem_append] at hdigits
    obtain ⟨⟨⟨⟨hda, hdb⟩, hdc⟩, hdd⟩, hde⟩ := hdigits
    refine ⟨a, '-' :: (b ++ '-' :: (c ++ '-' :: (d ++ '-' :: e))), by simp, matches_hexDigits.2 ⟨ha, hda⟩,
      ['-'], _, rfl, matches_hyphen.2 rfl, ?_⟩
    refine ⟨b, _, rfl, matches_hexDigits.2 ⟨hb, hdb⟩, ['-'], _, rfl, matches_hyphen.2 rfl, ?_⟩
    refine ⟨c, _, rfl, matches_hexDigits.2 ⟨hc, hdc⟩, ['-'], _, rfl, matches_hyphen.2 rfl, ?_⟩
    refine ⟨d, _, rfl, matches_hexDigits.2 ⟨hd, hdd⟩, ['-'], _, rfl, matches_hyphen.2 rfl, ?_⟩
    exact matches_hexDigits.2 ⟨he, hde⟩

/-- Without its anchors, the second pattern matches the nonempty texts of key characters. -/
theorem matches_keyPattern : keyPattern.Matches word last text next ↔ text ≠ [] ∧ IsKeyText text := by
  constructor
  · rintro ⟨_, v, rfl, ⟨x, rfl, hx⟩, hv⟩
    exact ⟨by simp, List.forall_mem_cons.2 ⟨isKeyChar_iff.1 hx, fun c hc => isKeyChar_iff.1 (hv c hc)⟩⟩
  · rintro ⟨hne, htext⟩
    cases text with
    | nil => exact absurd rfl hne
    | cons x text =>
      obtain ⟨hx, htext⟩ := List.forall_mem_cons.1 htext
      exact ⟨[x], text, rfl, ⟨x, rfl, isKeyChar_iff.2 hx⟩, fun c hc => isKeyChar_iff.2 (htext c hc)⟩

end

/-! ## The keys that are accepted -/

/-- A key that ends with a line break is not one of the grammar: a line break is not a key character. -/
theorem not_grammar_of_break {key : String} (h : EndsWithBreak key) : ¬Grammar key := by
  obtain ⟨text, htext, -⟩ := h
  have hbreak : '\n' ∈ key.toList := by simp [htext]
  rintro (⟨a, b, c, d, e, hkey, -, hdigits⟩ | ⟨-, hkey⟩)
  · rw [hkey] at hbreak
    have hmem : '\n' ∈ a ++ b ++ c ++ d ++ e := by simpa using hbreak
    exact absurd (hdigits _ hmem) (by unfold IsHexDigit; decide)
  · exact absurd (hkey _ hbreak) (by decide)

/-- What one of the patterns matches, with or without a line break. -/
theorem matchLine_cases {word : Char → Bool} {r : Regex} {P : List Char → Prop} {text : List Char}
    (hr : ∀ w next, r.Matches word none w next ↔ P w) :
    r.matchLine word text = true ↔ P text ∨ ∃ w, text = w ++ ['\n'] ∧ P w := by
  rw [matchLine_iff]
  constructor
  · rintro ⟨w, z, rfl, rfl | rfl, hm⟩
    · rw [List.append_nil]
      exact .inl ((hr _ _).1 hm)
    · exact .inr ⟨w, rfl, (hr _ _).1 hm⟩
  · rintro (h | ⟨w, rfl, h⟩)
    · exact ⟨text, [], (List.append_nil text).symm, .inl rfl, (hr _ _).2 h⟩
    · exact ⟨w, ['\n'], rfl, .inr rfl, (hr _ _).2 h⟩

/-- With its anchors, the first pattern matches a UUID, and a UUID before a line break, which `$` lets
through. -/
theorem matchLine_uuidPattern {word : Char → Bool} {text : List Char} :
    uuidPattern.matchLine word text = true ↔ IsUuid text ∨ ∃ w, text = w ++ ['\n'] ∧ IsUuid w :=
  matchLine_cases fun _ _ => matches_uuidPattern

/-- With its anchors, the second pattern lets the same line break through. -/
theorem matchLine_keyPattern {word : Char → Bool} {text : List Char} :
    keyPattern.matchLine word text = true ↔
      (text ≠ [] ∧ IsKeyText text) ∨ ∃ w, text = w ++ ['\n'] ∧ w ≠ [] ∧ IsKeyText w :=
  matchLine_cases fun _ _ => matches_keyPattern

/-- A text of 32 to 128 characters that the second pattern matches. -/
theorem keyPattern_iff {word : Char → Bool} {key : String} :
    ((32 ≤ key.length ∧ key.length ≤ 128) ∧ keyPattern.matchLine word key.toList = true) ↔
      ((32 ≤ key.length ∧ key.length ≤ 128) ∧ IsKeyText key.toList) ∨
        ∃ text, key.toList = text ++ ['\n'] ∧ (31 ≤ text.length ∧ text.length ≤ 127) ∧ IsKeyText text := by
  rw [matchLine_keyPattern, ← String.length_toList]
  constructor
  · rintro ⟨hlength, ⟨-, hkey⟩ | ⟨w, hw, -, hkey⟩⟩
    · exact .inl ⟨hlength, hkey⟩
    · rw [hw, List.length_append, List.length_singleton] at hlength
      exact .inr ⟨w, hw, by omega, hkey⟩
  · rintro (⟨hlength, hkey⟩ | ⟨w, hw, hlength, hkey⟩)
    · refine ⟨hlength, .inl ⟨fun hnil => ?_, hkey⟩⟩
      rw [hnil] at hlength
      exact absurd hlength.1 (by decide)
    · refine ⟨by rw [hw, List.length_append, List.length_singleton]; omega, .inr ⟨w, hw, fun hnil => ?_, hkey⟩⟩
      rw [hnil] at hlength
      exact absurd hlength.1 (by decide)

/-- The empty key is neither. -/
theorem not_grammar_empty : ¬(Grammar "" ∨ EndsWithBreak "") := by
  rintro ((⟨a, b, c, d, e, hkey, -⟩ | ⟨⟨hlength, -⟩, -⟩) | ⟨text, htext, -⟩)
  · have hlength := congrArg List.length hkey
    simp at hlength
  · exact absurd hlength (by decide)
  · have hlength := congrArg List.length htext
    simp at hlength

/-- A key is accepted if it obeys the grammar, or does so but for a line break at the end. -/
theorem validate_eq_ok {unicode : Unicode} {key k : String} :
    validate unicode (some key) = .ok k ↔ (Grammar key ∨ EndsWithBreak key) ∧ k = key := by
  by_cases hkey : key = ""
  · subst hkey
    exact iff_of_false (by simp [validate]) fun h => not_grammar_empty h.1
  · have haccepts : (Grammar key ∨ EndsWithBreak key) ↔
        uuidPattern.matchLine unicode.isWord key.toList = true ∨
          (32 ≤ key.length ∧ key.length ≤ 128) ∧ keyPattern.matchLine unicode.isWord key.toList = true := by
      rw [matchLine_uuidPattern, keyPattern_iff]
      simp only [Grammar, EndsWithBreak, and_or_left, exists_or]
      exact or_or_or_comm
    have hvalidate : validate unicode (some key) =
        if uuidPattern.matchLine unicode.isWord key.toList then .ok key
        else if (32 ≤ key.length ∧ key.length ≤ 128) ∧ keyPattern.matchLine unicode.isWord key.toList then
          .ok key
        else
          .error { message := "Idempotency-Key must be a UUID or 32-128 character opaque string"
                   field := some "Idempotency-Key" } := by
      unfold validate
      split
      · next h => cases h
      · next h => exact absurd (Option.some.inj h) hkey
      · next h => rw [Option.some.inj h]
    rw [haccepts, hvalidate]
    split_ifs with huuid htext
    · exact ⟨fun h => ⟨.inl huuid, (Except.ok.inj h).symm⟩, fun h => congrArg Except.ok h.2.symm⟩
    · exact ⟨fun h => ⟨.inr htext, (Except.ok.inj h).symm⟩, fun h => congrArg Except.ok h.2.symm⟩
    · simp [huuid, htext]

/-- The validation keeps to the grammar for a key exactly if it does not end with a line break behind what
would be matched. -/
theorem obeysGrammar_iff (unicode : Unicode) (key : String) :
    ObeysGrammar unicode key ↔ ¬EndsWithBreak key := by
  constructor
  · intro h hbreak
    exact not_grammar_of_break hbreak ((h key).1 (validate_eq_ok.2 ⟨.inr hbreak, rfl⟩)).1
  · intro h k
    rw [validate_eq_ok, or_iff_left h]

/-- A line break behind 32 characters is accepted with them: `$` matches before it. -/
theorem not_obeysGrammar : ¬∀ (unicode : Unicode) (key : String), ObeysGrammar unicode key := by
  intro h
  have hall : "0123456789abcdef0123456789abcdef".toList.all (fun c => c.isAlphanum) = true := rfl
  have hbreak : EndsWithBreak "0123456789abcdef0123456789abcdef\n" :=
    ⟨"0123456789abcdef0123456789abcdef".toList, rfl,
      .inr ⟨by decide, fun c hc => .inl (List.all_eq_true.1 hall c hc)⟩⟩
  exact not_grammar_of_break hbreak
    ((h .ascii "0123456789abcdef0123456789abcdef\n" _).1 (validate_eq_ok.2 ⟨.inr hbreak, rfl⟩)).1

end IdempotencyKey

end AgentRuntime
