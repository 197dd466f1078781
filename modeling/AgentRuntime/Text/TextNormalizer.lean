import AgentRuntime.Python.Base64
import AgentRuntime.Python.Characters
import AgentRuntime.Python.Regex
import AgentRuntime.Python.Slices

/-!
# The text normalizer

`TextNormalizer` (`app/infrastructure/text/normalizer.py`). A text is the list of its characters. What
`unicodedata` makes of a text is a parameter (`NFC`): the composed form is not computed here, and only what
the standard says of every text is known of it.

`truncate` looks for the place to cut by halving. `truncationPoint_spec` is about the search with any test
that fails from some place on; the encoded size of a prefix makes such a test, since a longer prefix takes at
least as many bytes.
-/

namespace AgentRuntime

/-- `unicodedata.normalize("NFC", …)`. -/
structure NFC where
  normalize : List Char → List Char
  normalize_normalize : ∀ text, normalize (normalize text) = normalize text
  /-- The form is closed under substrings. -/
  normalize_of_infix : ∀ {part text}, part <:+: text → normalize text = text → normalize part = part
  /-- A space composes with nothing, and nothing is reordered across it. -/
  normalize_space : ∀ {before after}, normalize before = before → normalize after = after →
    normalize (before ++ ' ' :: after) = before ++ ' ' :: after
  normalize_ascii : ∀ text, (∀ c ∈ text, c.toNat < 128) → normalize text = text

/-- The composed form of the texts without combining characters. -/
def NFC.ascii : NFC where
  normalize text := text
  normalize_normalize _ := rfl
  normalize_of_infix _ _ := rfl
  normalize_space _ _ := rfl
  normalize_ascii _ _ := rfl

namespace TextNormalizer

/-- `MAX_MEMORY_SIZE`: 100KB limit per memory record. -/
def maxMemorySize : Int := 100000

/-- The control characters that are removed: `[\x00-\x08\x0b\x0c\x0e-\x1f\x7f]`. -/
def isControl : Char → Bool :=
  inSet [('\x00', '\x08'), ('\x0e', '\x1f')] ['\x0b', '\x0c', '\x7f']

section
variable (unicode : Unicode) (nfc : NFC)

/-- Normalize text for storage. -/
def normalize (text : List Char) : List Char :=
  let normalized := nfc.normalize text
  -- normalize whitespace
  let normalized := strip ((Regex.plus isspace).sub unicode.isWord [' '] normalized)
  -- remove control characters except common ones
  (Regex.set isControl).sub unicode.isWord [] normalized

end

/-- `len(text.encode("utf-8"))` -/
def encodedSize (text : List Char) : Int := (encodeUtf8 (String.ofList text)).length

/-- `max_size or TextNormalizer.MAX_MEMORY_SIZE` -/
def sizeLimit (maxSize : Option Int) : Int :=
  match maxSize with
  | some limit => if limit ≠ 0 then limit else maxMemorySize
  | none => maxMemorySize

/-- Validate text size against limit. -/
def validateSize (text : List Char) (maxSize : Option Int) : Except PyError Bool :=
  let limit := sizeLimit maxSize
  let size := encodedSize text
  if size > limit then .error (.valueError s!"Text size {size} bytes exceeds limit {limit} bytes")
  else .ok true

/-- The binary search of `truncate`, with the test it makes of a place. -/
def truncationPoint (fits : Nat → Bool) (low high : Nat) : Nat :=
  if low < high then
    let mid := (low + high + 1) / 2
    if fits mid then truncationPoint fits mid high else truncationPoint fits low (mid - 1)
  else low
termination_by high - low

/-- Truncate text to fit within size limit. -/
def truncate (text : List Char) (maxSize : Option Int) : List Char :=
  let limit := sizeLimit maxSize
  if encodedSize text ≤ limit then text
  else text.take (truncationPoint (fun mid => encodedSize (text.take mid) ≤ limit) 0 text.length)

/-! ## The search -/

/-- The search keeps a place that fits to its left and none that fits to its right, and ends with the last
place that fits. -/
theorem truncationPoint_spec {fits : Nat → Bool} {low high : Nat} (hle : low ≤ high)
    (hlow : fits low = true) (hhigh : ∀ mid, high < mid → fits mid = false)
    (hfits : ∀ {i j}, i ≤ j → fits j = true → fits i = true) :
    truncationPoint fits low high ≤ high ∧ fits (truncationPoint fits low high) = true ∧
      ∀ mid, truncationPoint fits low high < mid → fits mid = false := by
  fun_induction truncationPoint fits low high with
  | case1 low high hlt mid hmid ih => exact ih (by omega) hmid hhigh
  | case2 low high hlt mid hmid ih =>
    have hright : ∀ place, mid - 1 < place → fits place = false := by
      intro place hplace
      cases hfit : fits place with
      | false => rfl
      | true => exact absurd (hfits (i := mid) (by omega) hfit) hmid
    obtain ⟨hbound, hfit, hlast⟩ := ih (by omega) hlow hright
    exact ⟨by omega, hfit, hlast⟩
  | case3 low high hge =>
    obtain rfl : low = high := by omega
    exact ⟨le_rfl, hlow, hhigh⟩

/-! ## The encoded size -/

/-- An empty text has no bytes. -/
@[simp] theorem encodedSize_nil : encodedSize [] = 0 := rfl

/-- The sizes of two texts are added. -/
theorem encodedSize_append (text after : List Char) :
    encodedSize (text ++ after) = encodedSize text + encodedSize after := by
  simp [encodedSize, encodeUtf8, String.ofList_append]

/-- A size is not negative. -/
theorem encodedSize_nonneg (text : List Char) : 0 ≤ encodedSize text := Int.natCast_nonneg _

/-- A longer prefix takes at least as many bytes. -/
theorem encodedSize_take_le {text : List Char} {i j : Nat} (h : i ≤ j) :
    encodedSize (text.take i) ≤ encodedSize (text.take j) := by
  have hsplit : text.take j = text.take i ++ (text.drop i).take (j - i) := by
    rw [← List.take_add, Nat.add_sub_cancel' h]
  have hrest := encodedSize_nonneg ((text.drop i).take (j - i))
  rw [hsplit, encodedSize_append]
  omega

/-! ## Truncation -/

variable {text : List Char} {limit : Int}

/-- A positive limit is the one that is used. -/
theorem sizeLimit_of_pos (h : 0 < limit) : sizeLimit (some limit) = limit := if_pos (Int.ne_of_gt h)

/-- A text within the limit is not truncated. -/
theorem truncate_eq_self {maxSize : Option Int} (h : encodedSize text ≤ sizeLimit maxSize) :
    truncate text maxSize = text := if_pos h

/-- What is left of a text fits, and no prefix with one more character does. -/
theorem truncate_spec (text : List Char) (h : 0 < limit) :
    ∃ n, truncate text (some limit) = text.take n ∧ encodedSize (text.take n) ≤ limit ∧
      ∀ mid, n < mid → mid ≤ text.length → limit < encodedSize (text.take mid) := by
  by_cases hsize : encodedSize text ≤ limit
  · refine ⟨text.length, ?_, by rwa [List.take_length], fun mid hlt hle => absurd hle (by omega)⟩
    rw [truncate_eq_self (by rwa [sizeLimit_of_pos h]), List.take_length]
  · set fits : Nat → Bool := fun mid => encodedSize (text.take mid) ≤ limit with hfits
    have hzero : fits 0 = true := by simp [hfits, Int.le_of_lt h]
    have hbeyond : ∀ mid, text.length < mid → fits mid = false := by
      intro mid hmid
      simpa [hfits, List.take_of_length_le hmid.le] using Int.not_le.1 hsize
    have hmono : ∀ {i j}, i ≤ j → fits j = true → fits i = true := by
      intro i j hij hj
      simp only [hfits, decide_eq_true_eq] at hj ⊢
      exact Int.le_trans (encodedSize_take_le hij) hj
    obtain ⟨-, hfit, hlast⟩ := truncationPoint_spec (Nat.zero_le _) hzero hbeyond hmono
    refine ⟨truncationPoint fits 0 text.length, ?_, by simpa [hfits] using hfit, fun mid hlt _ => ?_⟩
    · simp only [truncate, sizeLimit_of_pos h, if_neg hsize, hfits]
    · simpa [hfits] using hlast mid hlt

/-- A text is valid exactly if it is within the limit. -/
theorem validateSize_eq_ok_iff {maxSize : Option Int} :
    validateSize text maxSize = .ok true ↔ encodedSize text ≤ sizeLimit maxSize := by
  rw [validateSize]
  split <;> simp <;> omega

/-- A truncated text is the longest prefix that takes at most so many bytes; it passes the check of the same
limit, and truncating it again changes nothing. -/
theorem truncate_isLongest (text : List Char) (maxSize : Int) (h : 0 < maxSize) :
    truncate text (some maxSize) <+: text ∧
      encodedSize (truncate text (some maxSize)) ≤ maxSize ∧
      (∀ longer, longer <+: text → encodedSize longer ≤ maxSize →
        longer <+: truncate text (some maxSize)) ∧
      validateSize (truncate text (some maxSize)) (some maxSize) = .ok true ∧
      truncate (truncate text (some maxSize)) (some maxSize) = truncate text (some maxSize) := by
  obtain ⟨n, htruncate, hfits, hlast⟩ := truncate_spec text h
  have hsize : encodedSize (truncate text (some maxSize)) ≤ sizeLimit (some maxSize) := by
    rwa [htruncate, sizeLimit_of_pos h]
  refine ⟨htruncate ▸ List.take_prefix n text, htruncate ▸ hfits, ?_, validateSize_eq_ok_iff.2 hsize,
    truncate_eq_self hsize⟩
  intro longer hprefix hlonger
  have htake : longer = text.take longer.length := List.prefix_iff_eq_take.1 hprefix
  have hlength : longer.length ≤ n := by
    by_contra hlt
    have := hlast longer.length (by omega) hprefix.length_le
    rw [← htake] at this
    omega
  rw [htruncate, htake]
  exact List.take_prefix_take_left hlength

/-- Two bytes hold the `f`, but not the `é` behind it as well. -/
theorem truncate_isLongest_accented :
    ['f'] <+: truncate ['f', 'é', '!'] (some 2) ∧
      encodedSize (truncate ['f', 'é', '!'] (some 2)) ≤ 2 ∧
      validateSize (truncate ['f', 'é', '!'] (some 2)) (some 2) = .ok true := by
  obtain ⟨_, hfits, hlongest, hvalid, _⟩ := truncate_isLongest ['f', 'é', '!'] 2 (by decide)
  exact ⟨hlongest ['f'] (by decide) (by decide), hfits, hvalid⟩

end TextNormalizer

end AgentRuntime
