import AgentRuntime.Text.RedactedText

/-!
# Whether redaction is complete

The patterns of the classifier satisfy what `RedactedText` asks of a pattern that is replaced, so no run of
replacements brings a pattern back (`redactTypes_erases`). Nothing that looks like an email address, an API
key or a password is left in a redacted text. A number can be left beside a marker only: what stood in the
place of the marker was a part of the same word, and the classifier did not see the number.
-/

namespace AgentRuntime

namespace TextRedactor

open Regex SensitiveDataClassifier

/-! ## The characters of the patterns -/

/-- A class that takes no character of the marker takes none of its characters. -/
theorem not_marker {p : Char → Bool} (h : marker.any p = false) : ∀ c, p c → c ∉ marker := by
  intro c hc hmem
  rw [List.any_eq_true.2 ⟨c, hmem, hc⟩] at h
  cases h

/-- A class without white space and quotes takes no character that ends a value. -/
theorem not_endsValue {p : Char → Bool} (hspace : ∀ c, isspace c → p c = false)
    (hquote : p '\'' = false ∧ p '"' = false) : ∀ c, p c → ¬EndsValue c := by
  intro c hc hends
  rcases hends with hends | rfl | rfl
  · rw [hspace c hends] at hc
    cases hc
  · rw [hquote.1] at hc
    cases hc
  · rw [hquote.2] at hc
    cases hc

section
variable (unicode : Unicode)

/-- A digit is no character of the marker. -/
theorem digit_not_marker : ∀ c, unicode.isdecimal c → c ∉ marker := by
  intro c hc hmem
  have hascii : marker.all (fun c => c.toNat < 128 && !c.isDigit) = true := by decide
  obtain ⟨hlt, hdigit⟩ := Bool.and_eq_true_iff.1 (List.all_eq_true.1 hascii c hmem)
  rw [unicode.isdecimal_ascii c (of_decide_eq_true hlt)] at hc
  rw [hc] at hdigit
  cases hdigit

/-- A digit ends no value. -/
theorem digit_not_endsValue : ∀ c, unicode.isdecimal c → ¬EndsValue c :=
  not_endsValue (fun _ h => unicode.isdecimal_of_isspace h)
    ⟨unicode.isdecimal_ascii _ (by decide), unicode.isdecimal_ascii _ (by decide)⟩

end

/-! ## The patterns -/

/-- Every match of the pattern is plain text, and it begins with a character of a value. -/
structure PlainPattern (r : Regex) : Prop where
  begins : r.Begins fun c => ¬EndsValue c
  no_open : r.Rejects '['
  no_close : r.Rejects ']'
  needs : r.Needs (· ∉ marker)

section
variable {word : Char → Bool} {r : Regex} {last next : Option Char} {w : List Char}

/-- A pattern that takes no bracket, and needs a character that the marker does not have, matches plain
texts alone. -/
theorem plain_of_matches (hopen : r.Rejects '[') (hclose : r.Rejects ']') (hneeds : r.Needs (· ∉ marker))
    (h : r.Matches word last w next) : Plain w where
  no_open := h.not_mem hopen
  no_close := h.not_mem hclose
  foreign := h.needs hneeds

/-- So a plain pattern matches plain texts. -/
theorem PlainPattern.plain (hr : PlainPattern r) (h : r.Matches word last w next) : Plain w :=
  plain_of_matches hr.no_open hr.no_close hr.needs h

/-- A plain pattern can be replaced: its matches are plain from beginning to end, and reach into no marker. -/
theorem PlainPattern.redactable (hr : PlainPattern r) : Redactable word r where
  begins := hr.begins
  plain h := ⟨_, [], (List.append_nil _).symm, hr.plain h⟩
  stops h hmem := absurd hmem (hr.plain h.matches).no_open

end

/-- The pattern of addresses is plain. -/
theorem emailPattern_plain : PlainPattern emailPattern where
  begins := .inl (.inl (not_endsValue (forall_isspace (by decide)) (by decide)))
  no_open := by decide
  no_close := by decide
  needs := .inr (.inl (not_marker (by decide)))

/-- So is that of API keys. -/
theorem apiKeyPattern_plain : PlainPattern apiKeyPattern where
  begins :=
    have ha : ∀ c, caseless (· == 'a') c → ¬EndsValue c :=
      not_endsValue (forall_isspace (by decide)) (by decide)
    .inl (.inl ⟨.inl (.inl ha), .inl ha⟩)
  no_open := by decide
  no_close := by decide
  needs := .inl (.inr (.inr (.inl (not_marker (by decide)))))

section
variable (unicode : Unicode)

/-- The class of digits takes no other character of ASCII. -/
theorem digit_rejects {c : Char} (h : c.toNat < 128 ∧ c.isDigit = false) : (digit unicode).Rejects c :=
  (unicode.isdecimal_ascii c h.1).trans h.2

/-- The pattern of phone numbers takes digits, hyphens and points alone. -/
theorem phonePattern_rejects {c : Char} (hd : (digit unicode).Rejects c)
    (hs : inSet [] ['-', '.'] c = false) : (phonePattern unicode).Rejects c :=
  ⟨trivial, hd.times 3, ⟨hs, trivial⟩, hd.times 3, ⟨hs, trivial⟩, hd.times 4, trivial⟩

/-- So it is plain. -/
theorem phonePattern_plain : PlainPattern (phonePattern unicode) where
  begins := .inr ⟨rfl, .inl (.inl (digit_not_endsValue unicode))⟩
  no_open := phonePattern_rejects unicode (digit_rejects unicode (by decide)) (by decide)
  no_close := phonePattern_rejects unicode (digit_rejects unicode (by decide)) (by decide)
  needs := .inr (.inl (.inl (digit_not_marker unicode)))

/-- The pattern of social security numbers takes digits and hyphens. -/
theorem ssnPattern_rejects {c : Char} (hd : (digit unicode).Rejects c) (hs : (char '-').Rejects c) :
    (ssnPattern unicode).Rejects c :=
  ⟨trivial, hd.times 3, hs, hd.times 2, hs, hd.times 4, trivial⟩

/-- So it is plain. -/
theorem ssnPattern_plain : PlainPattern (ssnPattern unicode) where
  begins := .inr ⟨rfl, .inl (.inl (digit_not_endsValue unicode))⟩
  no_open := ssnPattern_rejects unicode (digit_rejects unicode (by decide)) (by decide)
  no_close := ssnPattern_rejects unicode (digit_rejects unicode (by decide)) (by decide)
  needs := .inr (.inl (.inl (digit_not_marker unicode)))

/-- The pattern of card numbers takes digits, blanks and hyphens. -/
theorem creditCardPattern_rejects {c : Char} (hd : (digit unicode).Rejects c)
    (hs : inSet [] [' ', '-'] c = false) : (creditCardPattern unicode).Rejects c :=
  have hgroup : (Regex.seq (digit unicode) (.lazyStar (inSet [] [' ', '-']))).Rejects c := ⟨hd, hs⟩
  ⟨trivial, hgroup.repeated 13 16, trivial⟩

/-- So it is plain. -/
theorem creditCardPattern_plain : PlainPattern (creditCardPattern unicode) where
  begins := .inr ⟨rfl, .inl (.inl (.inl (.inl (digit_not_endsValue unicode))))⟩
  no_open := creditCardPattern_rejects unicode (digit_rejects unicode (by decide)) (by decide)
  no_close := creditCardPattern_rejects unicode (digit_rejects unicode (by decide)) (by decide)
  needs := .inr (.inl (.inl (.inl (.inl (digit_not_marker unicode)))))

/-- The pattern of IP addresses takes digits and points. -/
theorem ipAddressPattern_rejects {c : Char} (hd : (digit unicode).Rejects c) (hs : (char '.').Rejects c) :
    (ipAddressPattern unicode).Rejects c :=
  have hbyte : (Regex.repeated (digit unicode) 1 3).Rejects c := hd.repeated 1 3
  have hgroup : (Regex.seq (.repeated (digit unicode) 1 3) (char '.')).Rejects c := ⟨hbyte, hs⟩
  ⟨trivial, hgroup.times 3, hbyte, trivial⟩

/-- So it is plain. -/
theorem ipAddressPattern_plain : PlainPattern (ipAddressPattern unicode) where
  begins := .inr ⟨rfl, .inl (.inl (.inl (.inl (.inl (digit_not_endsValue unicode)))))⟩
  no_open := ipAddressPattern_rejects unicode (digit_rejects unicode (by decide)) (by decide)
  no_close := ipAddressPattern_rejects unicode (digit_rejects unicode (by decide)) (by decide)
  needs := .inr (.inl (.inl (.inl (.inl (.inl (digit_not_marker unicode))))))

end

section
variable {word : Char → Bool} {last next : Option Char} {w : List Char}

/-- The keyword of a password, with what assigns the value, is a plain text. -/
theorem passwordKeyword_plain (h : (assigned passwordKeyword).Matches word last w next) : Plain w := by
  have hp : ∀ c, caseless (· == 'p') c → c ∉ marker := not_marker (by decide)
  have hneeds : (assigned passwordKeyword).Needs (· ∉ marker) := .inl ⟨.inl hp, .inl hp, .inl hp⟩
  exact plain_of_matches (by decide) (by decide) hneeds h

/-- So can the pattern of passwords, whose value may reach into a marker but ends where a value ends. -/
theorem passwordPattern_redactable : Redactable word passwordPattern where
  begins :=
    have hp : ∀ c, caseless (· == 'p') c → ¬EndsValue c :=
      not_endsValue (forall_isspace (by decide)) (by decide)
    .inl (.inl ⟨.inl hp, .inl hp, .inl hp⟩)
  plain h := by
    obtain ⟨u, c, v, rfl, hu, _⟩ := matches_assignment h
    exact ⟨u, c :: v, rfl, passwordKeyword_plain hu⟩
  stops {last w rest} h hmem := by
    have hlast : w.getLast?.or last = w.getLast? := by
      cases w with
      | nil => cases hmem
      | cons c w => simp [List.getLast?_cons]
    rcases first_marked h with ⟨c, hc, hquote⟩ | hstop
    · refine .inl ⟨c, hlast ▸ hc, .inr ?_⟩
      simpa [inSet] using hquote
    · refine .inr fun c hc => ?_
      cases hends : isspace c || inSet [] ['\'', '"'] c with
      | true => simpa [inSet, EndsValue] using hends
      | false => exact absurd (by simp [hends]) (hstop c hc)

/-- A password that is found after a replacement stood there before, and was not found by it. -/
theorem passwordPattern_before_sub {r : Regex} {text : List Char} (hr : Redactable word r)
    (h : passwordPattern.search word (r.sub word marker text)) :
    ∃ x w z, text = x ++ (w ++ z) ∧ passwordPattern.Matches word x.getLast? w z.head? ∧
      r.width word ⟨x.getLast?, w ++ z⟩ = 0 := by
  have hboundary : (assigned passwordKeyword).NoBoundary := by
    simp [assigned, passwordKeyword, caselessWord, quote, opt, seqs, NoBoundary]
  refine hr.assignment_before_sub hboundary passwordKeyword_plain (fun c hc => ?_) h
  cases hends : isspace c || inSet [] ['\'', '"'] c with
  | true => exact absurd (by simpa [inSet, EndsValue] using hends) hc
  | false => rfl

end

/-! ## All patterns -/

/-- These three patterns match wherever they stand. -/
theorem noBoundary_of_mem {unicode : Unicode} {pattern : SensitiveDataType × Regex}
    (h : pattern ∈ patterns unicode) (htype : pattern.1 ∈ [SensitiveDataType.email, .apiKey, .password]) :
    pattern.2.NoBoundary := by
  simp only [patterns, List.mem_cons, List.not_mem_nil, or_false] at h
  rcases h with rfl | rfl | rfl | rfl | rfl | rfl | rfl
  · simp [emailPattern, char, plus, atLeast, times, seqs, NoBoundary]
  · exact absurd htype (by simp)
  · exact absurd htype (by simp)
  · exact absurd htype (by simp)
  · exact absurd htype (by simp)
  · simp [apiKeyPattern, assignment, assigned, caselessWord, quote, plus, opt, seqs, NoBoundary]
  · simp [passwordPattern, passwordKeyword, assignment, assigned, caselessWord, quote, plus, opt, seqs,
      NoBoundary]

section
variable {unicode : Unicode} {sensitiveType : SensitiveDataType} {pattern : Regex}

/-- The pattern of passwords is the only one that is not plain. -/
theorem mem_patterns (h : (sensitiveType, pattern) ∈ patterns unicode) :
    (sensitiveType, pattern) = (.password, passwordPattern) ∨ PlainPattern pattern := by
  simp only [patterns, List.mem_cons, Prod.mk.injEq, List.not_mem_nil, or_false] at h
  rcases h with ⟨rfl, rfl⟩ | ⟨rfl, rfl⟩ | ⟨rfl, rfl⟩ | ⟨rfl, rfl⟩ | ⟨rfl, rfl⟩ | ⟨rfl, rfl⟩ | ⟨rfl, rfl⟩
  · exact .inr emailPattern_plain
  · exact .inr (phonePattern_plain unicode)
  · exact .inr (ssnPattern_plain unicode)
  · exact .inr (creditCardPattern_plain unicode)
  · exact .inr (ipAddressPattern_plain unicode)
  · exact .inr apiKeyPattern_plain
  · exact .inl rfl

/-- So every pattern can be replaced. -/
theorem redactable_of_lookup (h : (patterns unicode).lookup sensitiveType = some pattern) :
    Redactable unicode.isWord pattern := by
  obtain ⟨before, after, hpatterns, _⟩ := List.lookup_eq_some_iff.1 h
  have hmem : (sensitiveType, pattern) ∈ patterns unicode := by simp [hpatterns]
  rcases mem_patterns hmem with heq | hplain
  · obtain ⟨rfl, rfl⟩ := Prod.mk.inj heq
    exact passwordPattern_redactable
  · exact hplain.redactable

/-- Each kind of sensitive data has one pattern. -/
theorem lookup_of_mem (h : (sensitiveType, pattern) ∈ patterns unicode) :
    (patterns unicode).lookup sensitiveType = some pattern := by
  simp only [patterns, List.mem_cons, Prod.mk.injEq, List.not_mem_nil, or_false] at h
  rcases h with ⟨rfl, rfl⟩ | ⟨rfl, rfl⟩ | ⟨rfl, rfl⟩ | ⟨rfl, rfl⟩ | ⟨rfl, rfl⟩ | ⟨rfl, rfl⟩ | ⟨rfl, rfl⟩ <;>
    rfl

/-- The classifier detects a type whose pattern is found in the text. -/
theorem mem_detectTypes {text : List Char} (hsearch : pattern.search unicode.isWord text)
    {ps : List (SensitiveDataType × Regex)} {detected : List SensitiveDataType}
    (h : sensitiveType ∈ detected ∨ (sensitiveType, pattern) ∈ ps) :
    sensitiveType ∈ detectTypes unicode text ps detected := by
  induction ps generalizing detected with
  | nil => exact h.resolve_right List.not_mem_nil
  | cons p ps ih =>
    rw [detectTypes]
    split
    case isTrue =>
      rcases h with h | h
      · exact ih (.inl (List.mem_append_left _ h))
      · rcases List.mem_cons.1 h with rfl | h
        · exact ih (.inl (by simp))
        · exact ih (.inr h)
    case isFalse hdetected =>
      rcases h with h | h
      · exact ih (.inl h)
      · rcases List.mem_cons.1 h with rfl | h
        · have hmem : sensitiveType ∈ detected := by
            by_contra hmem
            exact hdetected ⟨hmem, hsearch⟩
          exact ih (.inl hmem)
        · exact ih (.inr h)

/-! ## A run of replacements -/

/-- The surroundings are the same for the pattern. -/
def Alike (unicode : Unicode) (pattern : Regex) (x₀ z₀ x z : List Char) : Prop :=
  pattern.NoBoundary ∨
    x₀.getLast?.any unicode.isWord = x.getLast?.any unicode.isWord ∧
      z₀.head?.any unicode.isWord = z.head?.any unicode.isWord

/-- Surroundings that are alike are so both ways. -/
theorem Alike.symm {x₀ z₀ x z : List Char} (h : Alike unicode pattern x₀ z₀ x z) :
    Alike unicode pattern x z x₀ z₀ :=
  h.imp id fun h => ⟨h.1.symm, h.2.symm⟩

/-- They are alike if they are like a third. -/
theorem Alike.trans {x₀ z₀ x₁ z₁ x z : List Char} (h : Alike unicode pattern x₀ z₀ x₁ z₁)
    (h' : Alike unicode pattern x₁ z₁ x z) : Alike unicode pattern x₀ z₀ x z := by
  rcases h with hboundary | h
  · exact .inl hboundary
  · exact h'.imp id fun h' => ⟨h.1.trans h'.1, h.2.trans h'.2⟩

/-- A match is one in surroundings that are alike. -/
theorem Alike.matches {x₀ z₀ x z w : List Char} (h : Alike unicode pattern x₀ z₀ x z)
    (hm : pattern.Matches unicode.isWord x.getLast? w z.head?) :
    pattern.Matches unicode.isWord x₀.getLast? w z₀.head? := by
  rcases h with hboundary | ⟨hx, hz⟩
  · exact hm.elsewhere hboundary
  · exact hm.congr_word hx.symm hz.symm

/-- What ends with a marker ends with its bracket. -/
theorem getLast?_marker {x : List Char} (h : marker <:+ x) : x.getLast? = some ']' := by
  obtain ⟨t, rfl⟩ := h
  simp [marker]

/-- What begins with a marker begins with its bracket. -/
theorem head?_marker {z : List Char} (h : marker <+: z) : z.head? = some '[' := by
  obtain ⟨t, rfl⟩ := h
  rfl

/-- Brackets are no word characters. -/
theorem not_isWord_bracket (unicode : Unicode) :
    unicode.isWord '[' = false ∧ unicode.isWord ']' = false := by
  have hopen : unicode.isalnum '[' = false := unicode.isalnum_ascii _ (by decide)
  have hclose : unicode.isalnum ']' = false := unicode.isalnum_ascii _ (by decide)
  simp [Unicode.isWord, hopen, hclose]

/-- Where the surroundings differ, a marker has come in the place of a character of a word. -/
theorem Before.word {x₀ x : List Char} (h : Before x₀ x)
    (hne : x₀.getLast?.any unicode.isWord ≠ x.getLast?.any unicode.isWord) :
    marker <:+ x ∧ x₀.getLast?.any unicode.isWord := by
  rcases h.next with heq | hm
  · exact absurd (by rw [heq]) hne
  · have hx : x.getLast?.any unicode.isWord = false := by
      rw [getLast?_marker hm]
      exact (not_isWord_bracket unicode).2
    rw [hx] at hne
    exact ⟨hm, eq_true_of_ne_false hne⟩

/-- Where a boundary after a match has changed, a word character has become the beginning of a marker. -/
theorem Behind.word {z₀ z : List Char} (h : Behind z₀ z)
    (hne : z₀.head?.any unicode.isWord ≠ z.head?.any unicode.isWord) :
    marker <+: z ∧ z₀.head?.any unicode.isWord := by
  rcases h.next with heq | hm
  · exact absurd (by rw [heq]) hne
  · have hz : z.head?.any unicode.isWord = false := by
      rw [head?_marker hm]
      exact (not_isWord_bracket unicode).1
    rw [hz] at hne
    exact ⟨hm, eq_true_of_ne_false hne⟩

/-- Surroundings that are alike at the beginning and at the end have been alike all the time. -/
theorem Alike.between {x₀ z₀ x₁ z₁ x z : List Char} (h : Alike unicode pattern x₀ z₀ x z)
    (hx₀ : Before x₀ x₁) (hx₁ : Before x₁ x) (hz₀ : Behind z₀ z₁) (hz₁ : Behind z₁ z) :
    Alike unicode pattern x₁ z₁ x z := by
  refine h.imp id fun h => ⟨?_, ?_⟩
  · rcases hx₀.next with heq | hm
    · rw [← heq]
      exact h.1
    · rw [getLast?_marker hm, getLast?_marker (hx₁.stays hm)]
  · rcases hz₀.next with heq | hm
    · rw [← heq]
      exact h.2
    · rw [head?_marker hm, head?_marker (hz₁.stays hm)]

/-- Plain text that a run of replacements leaves stood in the text before, where no pattern of its types
matched it between the same surroundings. -/
theorem redactTypes_before {w : List Char} (hw : Plain w)
    (hpattern : (patterns unicode).lookup sensitiveType = some pattern)
    {types : List SensitiveDataType} {redacted : List Char × Nat} {x z : List Char}
    (h : (redactTypes unicode types redacted).1 = x ++ (w ++ z)) :
    ∃ x₀ z₀, redacted.1 = x₀ ++ (w ++ z₀) ∧ Before x₀ x ∧ Behind z₀ z ∧
      (sensitiveType ∈ types → Alike unicode pattern x₀ z₀ x z →
        ¬pattern.Matches unicode.isWord x₀.getLast? w z₀.head?) := by
  induction types generalizing redacted with
  | nil => exact ⟨x, z, h, .refl x, .refl z, fun hmem => absurd hmem List.not_mem_nil⟩
  | cons t types ih =>
    obtain ⟨text, count⟩ := redacted
    rw [redactTypes] at h
    split at h
    case h_1 r hr =>
      obtain ⟨x₁, z₁, htext₁, hx₁, hz₁, hgone⟩ := ih h
      have hredactable := redactable_of_lookup hr
      obtain ⟨x₀, z₀, htext, hx₀, hz₀, hwidth⟩ := hredactable.before_sub hw htext₁
      refine ⟨x₀, z₀, htext, hx₀.trans hx₁, hz₀.trans hz₁, fun hmem halike hm => ?_⟩
      rcases List.mem_cons.1 hmem with rfl | hmem
      · obtain rfl : pattern = r := Option.some.inj (hpattern.symm.trans hr)
        exact width_eq_zero hredactable.begins hwidth hm
      · have halike₁ := halike.between hx₀ hx₁ hz₀ hz₁
        exact hgone hmem halike₁ ((halike₁.trans halike.symm).matches hm)
    case h_2 hr =>
      obtain ⟨x₀, z₀, htext, hx₀, hz₀, hgone⟩ := ih h
      refine ⟨x₀, z₀, htext, hx₀, hz₀, fun hmem => ?_⟩
      rcases List.mem_cons.1 hmem with rfl | hmem
      · rw [hr] at hpattern
        cases hpattern
      · exact hgone hmem

/-- A run of replacements leaves nothing of a password that is among its types, and brings none back. -/
theorem redactTypes_password {types : List SensitiveDataType} {redacted : List Char × Nat}
    (h : .password ∈ types ∨ ¬passwordPattern.search unicode.isWord redacted.1) :
    ¬passwordPattern.search unicode.isWord (redactTypes unicode types redacted).1 := by
  induction types generalizing redacted with
  | nil => exact h.resolve_left List.not_mem_nil
  | cons t types ih =>
    obtain ⟨text, count⟩ := redacted
    rw [redactTypes]
    split
    case h_1 r hr =>
      have hredactable := redactable_of_lookup hr
      refine ih ?_
      rcases h with h | h
      · rcases List.mem_cons.1 h with rfl | h
        · obtain rfl : r = passwordPattern := (Option.some.inj hr).symm
          refine .inr fun hsearch => ?_
          obtain ⟨x, w, z, _, hm, hwidth⟩ := passwordPattern_before_sub hredactable hsearch
          exact width_eq_zero hredactable.begins hwidth hm
        · exact .inl h
      · refine .inr fun hsearch => h ?_
        obtain ⟨x, w, z, rfl, hm, _⟩ := passwordPattern_before_sub hredactable hsearch
        exact search_iff.2 ⟨x, w, z, (List.append_assoc x w z).symm, hm⟩
    case h_2 hr =>
      refine ih ?_
      rcases h with h | h
      · rcases List.mem_cons.1 h with rfl | h
        · cases hr
        · exact .inl h
      · exact .inr h

end

/-! ## Completeness -/

/-- No pattern matches anywhere in the text. -/
def Complete (unicode : Unicode) (text : List Char) : Prop :=
  ∀ pattern ∈ patterns unicode, pattern.2.search unicode.isWord text = false

/-- No pattern for an email address, an API key or a password matches anywhere in the redacted text. Whatever
another pattern matches there has stood in the text between surroundings that the redacted ones come from, and
now stands right beside a marker, which is in the place of a character of a word that it stood beside. -/
structure CompleteApartFromMarkers (unicode : Unicode) (text redacted : List Char) : Prop where
  erased : ∀ pattern ∈ patterns unicode, pattern.1 ∈ [SensitiveDataType.email, .apiKey, .password] →
    pattern.2.search unicode.isWord redacted = false
  fresh : ∀ pattern ∈ patterns unicode, ∀ x w z, redacted = x ++ (w ++ z) →
    pattern.2.Matches unicode.isWord x.getLast? w z.head? →
    ∃ x₀ z₀, text = x₀ ++ (w ++ z₀) ∧ Before x₀ x ∧ Behind z₀ z ∧
      (marker <:+ x ∧ x₀.getLast?.any unicode.isWord ∨ marker <+: z ∧ z₀.head?.any unicode.isWord)

section
variable {unicode : Unicode} {sensitiveType : SensitiveDataType} {pattern : Regex}

/-- The processed content is the text with every kind of sensitive data replaced that was found in it. -/
theorem toList_processedContent (text : String) (tenantId : UUID) :
    (processedContent unicode text tenantId).toList =
      (redactTypes unicode (detectSensitiveData unicode text) (text.toList, 0)).1 := by
  rw [processedContent, classify]
  cases hdetected : detectSensitiveData unicode text with
  | nil => rfl
  | cons t types => exact String.toList_ofList

/-- What a pattern matches in the redacted text has not stood in the text between the same surroundings. -/
theorem not_alike (hmem : (sensitiveType, pattern) ∈ patterns unicode) (hplain : PlainPattern pattern)
    {text : String} {tenantId : UUID} {x w z : List Char}
    (h : (processedContent unicode text tenantId).toList = x ++ (w ++ z))
    (hm : pattern.Matches unicode.isWord x.getLast? w z.head?) :
    ∃ x₀ z₀, text.toList = x₀ ++ (w ++ z₀) ∧ Before x₀ x ∧ Behind z₀ z ∧
      ¬Alike unicode pattern x₀ z₀ x z := by
  rw [toList_processedContent] at h
  obtain ⟨x₀, z₀, htext, hx, hz, hgone⟩ := redactTypes_before (hplain.plain hm) (lookup_of_mem hmem) h
  refine ⟨x₀, z₀, htext, hx, hz, fun halike => ?_⟩
  have hm₀ := halike.matches hm
  have hsearch : pattern.search unicode.isWord text.toList :=
    search_iff.2 ⟨x₀, w, z₀, htext.trans (List.append_assoc x₀ w z₀).symm, hm₀⟩
  exact hgone (mem_detectTypes hsearch (.inr hmem)) halike hm₀

end

/-- What a redacted text has left of the patterns, a marker has made a word of: it stood in the original, at a
place that had no boundary there, and has one now that a marker is next to it. -/
theorem complete_processedContent (unicode : Unicode) (text : String) (tenantId : UUID) :
    CompleteApartFromMarkers unicode text.toList (processedContent unicode text tenantId).toList := by
  have hpassword :
      ¬passwordPattern.search unicode.isWord (processedContent unicode text tenantId).toList := by
    rw [toList_processedContent]
    refine redactTypes_password ?_
    by_cases hsearch : passwordPattern.search unicode.isWord text.toList
    · exact .inl (mem_detectTypes hsearch (.inr (by simp [patterns])))
    · exact .inr hsearch
  constructor
  · rintro ⟨sensitiveType, pattern⟩ hmem htype
    cases hsearch : pattern.search unicode.isWord (processedContent unicode text tenantId).toList with
    | false => rfl
    | true =>
      exfalso
      rcases mem_patterns hmem with heq | hplain
      · obtain ⟨_, rfl⟩ := Prod.mk.inj heq
        exact hpassword hsearch
      · obtain ⟨x, w, z, hout, hm⟩ := search_iff.1 hsearch
        rw [List.append_assoc] at hout
        obtain ⟨x₀, z₀, _, _, _, halike⟩ := not_alike hmem hplain hout hm
        exact halike (.inl (noBoundary_of_mem hmem htype))
  · rintro ⟨sensitiveType, pattern⟩ hmem x w z hout hm
    rcases mem_patterns hmem with heq | hplain
    · obtain ⟨_, rfl⟩ := Prod.mk.inj heq
      exact absurd (search_iff.2 ⟨x, w, z, hout.trans (List.append_assoc x w z).symm, hm⟩) hpassword
    · obtain ⟨x₀, z₀, htext, hx, hz, halike⟩ := not_alike hmem hplain hout hm
      refine ⟨x₀, z₀, htext, hx, hz, ?_⟩
      by_cases hlast : x₀.getLast?.any unicode.isWord = x.getLast?.any unicode.isWord
      · exact .inr (hz.word fun hnext => halike (.inr ⟨hlast, hnext⟩))
      · exact .inl (hx.word hlast)

/-- An email address ends where a number begins: the marker in its place makes a word of the number, which is
found only now. -/
theorem not_complete_processedContent :
    ¬∀ (text : String) (tenantId : UUID),
      Complete .ascii (processedContent .ascii text tenantId).toList := by
  intro h
  have hssn := h "x@y.com123-45-6789" ⟨0⟩ (.ssn, ssnPattern .ascii) (by simp [patterns])
  have hfound : (ssnPattern .ascii).search Unicode.ascii.isWord
      (processedContent .ascii "x@y.com123-45-6789" ⟨0⟩).toList = true := by decide +kernel
  rw [hfound] at hssn
  cases hssn

end TextRedactor

end AgentRuntime
