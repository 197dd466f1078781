import AgentRuntime.Python.Words
import AgentRuntime.Text.TextNormalizer
import Mathlib.Data.List.Chain

/-!
# Normalized texts

A text that is stored should be in its canonical form (`Canonical`): composed, without control characters,
with single white space between words and none at the ends, and such that normalizing it again changes
nothing. `normalize` makes the words of the composed text, each without its control characters, with one space
between any two (`normalize_eq_intercalate`): the control characters go last, and with them may go a whole
word between two spaces, or what kept a letter and an accent apart. `canonical_normalize_iff` says which texts
get their canonical form all the same.
-/

namespace AgentRuntime

namespace TextNormalizer

/-- The characters that are left of a word. -/
def kept (word : List Char) : List Char := word.filter fun c => !isControl c

section
variable (unicode : Unicode) (nfc : NFC)

/-- What a normalized text looks like. -/
structure Tidy (text : List Char) : Prop where
  composed : nfc.normalize text = text
  no_control : ∀ c ∈ text, isControl c = false
  single_space : text.IsChain fun a b => ¬(isSpace a = true ∧ isSpace b = true)
  no_leading : ∀ c ∈ text.head?, isSpace c = false
  no_trailing : ∀ c ∈ text.getLast?, isSpace c = false

/-- A text in its canonical form. -/
structure Canonical (text : List Char) : Prop extends Tidy nfc text where
  normalized : normalize unicode nfc text = text

/-- The words of a text that survive the removal of the control characters: what is left of each of them is
composed, and is something, unless there is only one. -/
structure WordsSurvive (text : List Char) : Prop where
  composed : ∀ w ∈ words isSpace (nfc.normalize text), nfc.normalize (kept w) = kept w
  nonempty : (words isSpace (nfc.normalize text)).length ≤ 1 ∨
    ∀ w ∈ words isSpace (nfc.normalize text), ∃ c ∈ w, isControl c = false

end

/-- The white space of the normaliser is that of `str.split`. -/
theorem isspace_eq_isSpace : isspace = isSpace := by
  funext c
  rw [Bool.eq_iff_iff, isspace, List.contains_iff_mem]
  simp [whitespace, isSpace, List.mem_range'_1]
  omega

variable {unicode : Unicode} {nfc : NFC}

/-- The blank is white space. -/
theorem isSpace_space : isSpace ' ' = true := by decide

/-- Dropping control characters from joined words is dropping them from each word: a blank is none. -/
theorem kept_intercalate (ws : List (List Char)) :
    kept ([' '].intercalate ws) = [' '].intercalate (ws.map kept) := by
  induction ws with
  | nil => rfl
  | cons w ws ih =>
    cases ws with
    | nil => simp
    | cons v ws =>
      rw [List.intercalate_cons_cons, List.map_cons, List.map_cons, List.intercalate_cons_cons, ← List.map_cons,
        ← ih]
      simp [kept, isControl, inSet]

/-- What `normalize` makes of a text. -/
theorem normalize_eq_intercalate (text : List Char) :
    normalize unicode nfc text = [' '].intercalate ((words isSpace (nfc.normalize text)).map kept) := by
  rw [normalize, Regex.sub_plus, Regex.sub_set, isspace_eq_isSpace, strip, strip_collapse isSpace_space,
    ← kept_intercalate]
  rfl

/-! ## Joined words -/

/-- A word of a canonical text. -/
structure CanonicalWord (nfc : NFC) (w : List Char) : Prop where
  nonempty : w ≠ []
  no_space : ∀ c ∈ w, isSpace c = false
  no_control : ∀ c ∈ w, isControl c = false
  composed : nfc.normalize w = w

/-- A word without control characters stays as it is. -/
theorem kept_eq_self {w : List Char} (h : ∀ c ∈ w, isControl c = false) : kept w = w :=
  List.filter_eq_self.2 fun c hc => by simp [h c hc]

/-- A canonical word is a tidy text. -/
theorem CanonicalWord.tidy {w : List Char} (h : CanonicalWord nfc w) : Tidy nfc w where
  composed := h.composed
  no_control := h.no_control
  single_space := (List.pairwise_of_forall_mem_list fun a ha b _ hab => by
    simp [h.no_space a ha] at hab).isChain
  no_leading c hc := h.no_space c (List.mem_of_head? hc)
  no_trailing c hc := h.no_space c (List.mem_of_getLast? hc)

/-- A canonical word before a tidy text that is not empty gives a tidy text. -/
theorem Tidy.join {w rest : List Char} (hw : CanonicalWord nfc w) (hrest : Tidy nfc rest) (hne : rest ≠ []) :
    Tidy nfc (w ++ ' ' :: rest) where
  composed := nfc.normalize_space hw.composed hrest.composed
  no_control c hc := by
    rcases List.mem_append.1 hc with hc | hc
    · exact hw.no_control c hc
    · rcases List.mem_cons.1 hc with rfl | hc
      · decide
      · exact hrest.no_control c hc
  single_space := by
    refine List.isChain_append.2 ⟨hw.tidy.single_space, ?_, ?_⟩
    · refine hrest.single_space.cons fun c hc => ?_
      simp [hrest.no_leading c hc]
    · intro a ha b _
      simp [hw.tidy.no_trailing a ha]
  no_leading c hc := by
    rw [List.head?_append_of_ne_nil _ hw.nonempty] at hc
    exact hw.tidy.no_leading c hc
  no_trailing c hc := by
    rw [List.getLast?_append_cons, List.getLast?_cons_of_ne_nil hne] at hc
    exact hrest.no_trailing c hc

/-- So canonical words, joined by blanks, give one. -/
theorem tidy_intercalate : ∀ {ws : List (List Char)}, (∀ w ∈ ws, CanonicalWord nfc w) →
    Tidy nfc ([' '].intercalate ws)
  | [], _ => ⟨nfc.normalize_ascii [] (by simp), by simp, .nil, by simp, by simp⟩
  | [w], h => by
    rw [List.intercalate_singleton]
    exact (h w (by simp)).tidy
  | w :: v :: ws, h => by
    have hrest : Tidy nfc ([' '].intercalate (v :: ws)) :=
      tidy_intercalate fun w' hw' => h w' (List.mem_cons_of_mem _ hw')
    have hne : [' '].intercalate (v :: ws) ≠ [] := by
      rw [Ne, intercalate_eq_nil fun w' hw' => (h w' (List.mem_cons_of_mem _ hw')).nonempty]
      exact List.cons_ne_nil v ws
    rw [List.intercalate_cons_cons, List.append_assoc, List.singleton_append]
    exact hrest.join (h w (by simp)) hne

/-- Words in their canonical form, with one space between any two, make a canonical text. -/
theorem canonical_intercalate {ws : List (List Char)} (h : ∀ w ∈ ws, CanonicalWord nfc w) :
    Canonical unicode nfc ([' '].intercalate ws) := by
  have hfree : ∀ w ∈ ws, w ≠ [] ∧ ∀ c ∈ w, isSpace c = false :=
    fun w hw => ⟨(h w hw).nonempty, (h w hw).no_space⟩
  have hkept : ws.map kept = ws :=
    (List.map_congr_left fun w hw => kept_eq_self (h w hw).no_control).trans (List.map_id' ws)
  refine ⟨tidy_intercalate h, ?_⟩
  rw [normalize_eq_intercalate, (tidy_intercalate h).composed, words_intercalate isSpace_space hfree, hkept]

/-! ## Texts whose words survive -/

/-- Words before and words after are joined by a blank. -/
theorem intercalate_append {before after : List (List Char)} (hbefore : before ≠ []) (hafter : after ≠ []) :
    [' '].intercalate (before ++ after) = [' '].intercalate before ++ ' ' :: [' '].intercalate after := by
  induction before with
  | nil => exact absurd rfl hbefore
  | cons w before ih =>
    cases before with
    | nil => rw [List.singleton_append, List.intercalate_cons_of_ne_nil hafter]; simp
    | cons v before =>
      rw [List.cons_append, List.cons_append, List.intercalate_cons_cons, List.intercalate_cons_cons,
        ← List.cons_append, ih (List.cons_ne_nil v before)]
      simp

/-- Every word stands in the joined text. -/
theorem infix_intercalate {ws : List (List Char)} {w : List Char} (h : w ∈ ws) :
    w <:+: [' '].intercalate ws := by
  induction ws with
  | nil => cases h
  | cons v ws ih =>
    by_cases hne : ws = []
    · subst hne
      obtain rfl := List.mem_singleton.1 h
      exact List.intercalate_singleton.symm ▸ List.infix_rfl
    · rw [List.intercalate_cons_of_ne_nil hne]
      rcases List.mem_cons.1 h with rfl | h
      · exact ((List.prefix_append _ _).trans (List.prefix_append _ _)).isInfix
      · exact (ih h).trans (List.suffix_append _ _).isInfix

/-- Where white space stands singly and not at the ends, there is no empty word among others. -/
theorem Tidy.nonempty {ws : List (List Char)} (h : Tidy nfc ([' '].intercalate ws)) (hlength : 1 < ws.length) :
    ∀ w ∈ ws, w ≠ [] := by
  rintro w hw rfl
  obtain ⟨before, after, rfl⟩ := List.append_of_mem hw
  by_cases hbefore : before = []
  · subst hbefore
    have hafter : after ≠ [] := by
      rintro rfl
      simp at hlength
    have hspace := h.no_leading ' '
    rw [List.nil_append, List.intercalate_cons_of_ne_nil hafter] at hspace
    exact absurd (hspace (by simp)) (by decide)
  · by_cases hafter : after = []
    · subst hafter
      have hspace := h.no_trailing ' '
      rw [intercalate_append hbefore (List.cons_ne_nil _ _), List.intercalate_singleton] at hspace
      exact absurd (hspace (by simp)) (by decide)
    · have hspace := h.single_space
      rw [intercalate_append hbefore (List.cons_ne_nil _ _), List.intercalate_cons_of_ne_nil hafter] at hspace
      have htwo := hspace.right_of_append
      simp only [List.nil_append, List.singleton_append, List.isChain_cons_cons] at htwo
      exact absurd ⟨isSpace_space, isSpace_space⟩ htwo.1

/-- Exactly the texts whose words survive are brought to their canonical form. White space is collapsed before
control characters are dropped, so a word of such characters alone leaves two blanks behind. -/
theorem canonical_normalize_iff (unicode : Unicode) (nfc : NFC) (text : List Char) :
    Canonical unicode nfc (normalize unicode nfc text) ↔ WordsSurvive nfc text := by
  rw [normalize_eq_intercalate]
  constructor
  · intro h
    refine ⟨fun w hw => ?_, or_iff_not_imp_left.2 fun hlength w hw => ?_⟩
    · exact nfc.normalize_of_infix (infix_intercalate (List.mem_map_of_mem hw)) h.composed
    · have hne := h.nonempty (by simpa using hlength) (kept w) (List.mem_map_of_mem hw)
      obtain ⟨c, hc⟩ := List.exists_mem_of_ne_nil _ hne
      exact ⟨c, (List.mem_filter.1 hc).1, by simpa using (List.mem_filter.1 hc).2⟩
  · rintro ⟨hcomposed, hnonempty⟩
    have hword : ∀ w ∈ words isSpace (nfc.normalize text), kept w ≠ [] → CanonicalWord nfc (kept w) :=
      fun w hw hne => ⟨hne, fun c hc => (of_mem_words hw).2 c (List.mem_of_mem_filter hc),
        fun c hc => by simpa using (List.mem_filter.1 hc).2, hcomposed w hw⟩
    by_cases hall : ∀ w ∈ words isSpace (nfc.normalize text), kept w ≠ []
    · refine canonical_intercalate fun v hv => ?_
      obtain ⟨w, hw, rfl⟩ := List.mem_map.1 hv
      exact hword w hw (hall w hw)
    · -- only a text of a single word may lose it
      push Not at hall
      obtain ⟨w, hw, hlost⟩ := hall
      have hlength : (words isSpace (nfc.normalize text)).length ≤ 1 := by
        refine hnonempty.resolve_right fun hkeeps => ?_
        obtain ⟨c, hc, hcontrol⟩ := hkeeps w hw
        have hmem : c ∈ kept w := List.mem_filter.2 ⟨hc, by simp [hcontrol]⟩
        rw [hlost] at hmem
        cases hmem
      have hwords : words isSpace (nfc.normalize text) = [w] := by
        obtain ⟨v, hv⟩ := List.length_eq_one_iff.1
          (Nat.le_antisymm hlength (List.length_pos_of_mem hw))
        rw [hv] at hw ⊢
        rw [List.mem_singleton.1 hw]
      rw [hwords, List.map_singleton, hlost, List.intercalate_singleton]
      exact canonical_intercalate (List.forall_mem_nil _)

/-- A control character between two spaces leaves two spaces behind. -/
theorem not_canonical_normalize :
    ¬Canonical Unicode.ascii NFC.ascii
      (normalize Unicode.ascii NFC.ascii ['a', ' ', '\x00', ' ', 'b']) := by
  have hnormalize : normalize Unicode.ascii NFC.ascii ['a', ' ', '\x00', ' ', 'b'] = ['a', ' ', ' ', 'b'] := by
    decide
  intro h
  have hspace := h.single_space
  rw [hnormalize] at hspace
  revert hspace
  decide

end TextNormalizer

end AgentRuntime
