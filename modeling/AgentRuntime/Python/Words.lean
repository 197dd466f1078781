import AgentRuntime.Python.Regex
import Mathlib.Data.List.DropRight

/-!
# The words of a text

A text is words between separators: `words` is `str.split` without an argument, where the separators are the
white space. `collapse` puts one separator in the place of every run of them, as `re.sub(r"[…]+", " ", text)`
does (`Regex.sub_plus`); a text that was collapsed and stripped is its words, with one separator between any
two (`strip_collapse`), and is read back as those (`words_intercalate`).
-/

namespace AgentRuntime

variable {α : Type} (p : α → Bool) (separator : α)

/-- The runs of characters that are no separators. -/
def words (text : List α) : List (List α) := (text.splitOnP p).filter fun w => !w.isEmpty

/-- One separator for each run of them; `inside` says that the last character was one. -/
def collapse : Bool → List α → List α
  | _, [] => []
  | inside, c :: text =>
    if p c then if inside then collapse true text else separator :: collapse true text
    else c :: collapse false text

variable {p separator}

/-! ## Words -/

/-- A text without separators is one word. -/
theorem words_of_free {w : List α} (h : ∀ c ∈ w, p c = false) (hne : w ≠ []) : words p w = [w] := by
  rw [words, List.splitOnP_eq_singleton h]
  simp [hne]

/-- An empty text has no words. -/
@[simp] theorem words_nil : words p [] = [] := rfl

/-- A separator at the start is skipped. -/
theorem words_separator {c : α} (hc : p c = true) (text : List α) : words p (c :: text) = words p text := by
  rw [words, List.splitOnP_cons_eq_if_modifyHead, if_pos hc]
  rfl

/-- A word before a separator is the first. -/
theorem words_append {w : List α} (h : ∀ c ∈ w, p c = false) (hne : w ≠ []) {c : α} (hc : p c = true)
    (text : List α) : words p (w ++ c :: text) = w :: words p text := by
  rw [words, List.splitOnP_append_cons_of_forall_mem h c hc, List.filter_cons_of_pos (by simpa using hne)]
  rfl

/-- A text is a word, or starts with a word, which may be empty, and a separator. -/
theorem run_induction {motive : List α → Prop} (free : ∀ w, (∀ c ∈ w, p c = false) → motive w)
    (separated : ∀ w c text, (∀ d ∈ w, p d = false) → p c = true → motive text → motive (w ++ c :: text))
    (text : List α) : motive text := by
  induction hn : text.length using Nat.strongRecOn generalizing text with
  | ind n ih =>
    have hword : ∀ c ∈ text.takeWhile fun c => !p c, p c = false := by
      intro c hc
      simpa using List.mem_takeWhile_imp hc
    have htext := List.takeWhile_append_dropWhile (p := fun c => !p c) (l := text)
    cases hrest : text.dropWhile fun c => !p c with
    | nil =>
      rw [hrest, List.append_nil] at htext
      exact htext ▸ free _ hword
    | cons c rest =>
      have hc : p c = true := by
        have := List.head?_dropWhile_not (fun c => !p c) text
        rw [hrest] at this
        simpa using this
      rw [hrest] at htext
      have hlength := congrArg List.length htext
      rw [List.length_append, List.length_cons] at hlength
      rw [← htext]
      exact separated _ c rest hword hc (ih rest.length (by omega) rest rfl)

/-- A word is not empty and has no separator in it. -/
theorem of_mem_words {text w : List α} (h : w ∈ words p text) : w ≠ [] ∧ ∀ c ∈ w, p c = false := by
  induction text using run_induction (p := p) with
  | free v hv =>
    by_cases hne : v = []
    · subst hne
      cases h
    · rw [words_of_free hv hne, List.mem_singleton] at h
      exact h ▸ ⟨hne, hv⟩
  | separated v c text hv hc ih =>
    by_cases hne : v = []
    · subst hne
      rw [List.nil_append, words_separator hc] at h
      exact ih h
    · rw [words_append hv hne hc] at h
      rcases List.mem_cons.1 h with rfl | h
      · exact ⟨hne, hv⟩
      · exact ih h

/-- Words with one separator between any two are read back as they are. -/
theorem words_intercalate (hseparator : p separator = true) :
    ∀ {ws : List (List α)}, (∀ w ∈ ws, w ≠ [] ∧ ∀ c ∈ w, p c = false) →
      words p ([separator].intercalate ws) = ws
  | [], _ => rfl
  | [w], h => by
    rw [List.intercalate_singleton]
    exact words_of_free (h w (by simp)).2 (h w (by simp)).1
  | w :: w' :: ws, h => by
    have ih : words p ([separator].intercalate (w' :: ws)) = w' :: ws :=
      words_intercalate hseparator fun v hv => h v (List.mem_cons_of_mem _ hv)
    rw [List.intercalate_cons_cons, List.append_assoc, List.singleton_append,
      words_append (h w (by simp)).2 (h w (by simp)).1 hseparator, ih]

/-! ## Collapsed texts -/

/-- A character of a word stays, and ends a run of separators. -/
theorem collapse_word {c : α} (hc : p c = false) (inside : Bool) (text : List α) :
    collapse p separator inside (c :: text) = c :: collapse p separator false text := by
  simp [collapse, hc]

/-- A further separator of a run is dropped. -/
theorem collapse_inside {c : α} (hc : p c = true) (text : List α) :
    collapse p separator true (c :: text) = collapse p separator true text := by
  simp [collapse, hc]

/-- The first one of a run is replaced. -/
theorem collapse_run {c : α} (hc : p c = true) (text : List α) :
    collapse p separator false (c :: text) = separator :: collapse p separator true text := by
  simp [collapse, hc]

/-- A word stays as it is. -/
theorem collapse_append {w : List α} (h : ∀ c ∈ w, p c = false) (hne : w ≠ []) (inside : Bool)
    (text : List α) :
    collapse p separator inside (w ++ text) = w ++ collapse p separator false text := by
  induction w generalizing inside with
  | nil => exact absurd rfl hne
  | cons c w ih =>
    rw [List.cons_append, collapse_word (h c (by simp))]
    cases w with
    | nil => rfl
    | cons d w =>
      rw [ih (fun e he => h e (List.mem_cons_of_mem _ he)) (List.cons_ne_nil d w)]
      rfl

/-- Inside a run, nothing at the start is a separator. -/
theorem dropWhile_collapse_true (text : List α) :
    (collapse p separator true text).dropWhile p = collapse p separator true text := by
  induction text with
  | nil => rfl
  | cons c text ih =>
    cases hc : p c with
    | true => rwa [collapse_inside hc]
    | false => rw [collapse_word hc, List.dropWhile_cons_of_neg (by simp [hc])]

/-- A separator at the start is the replacement of a run, so dropping it is going on inside the run. -/
theorem dropWhile_collapse (hseparator : p separator = true) (text : List α) :
    (collapse p separator false text).dropWhile p = collapse p separator true text := by
  cases text with
  | nil => rfl
  | cons c text =>
    cases hc : p c with
    | true =>
      rw [collapse_run hc, collapse_inside hc, List.dropWhile_cons_of_pos hseparator]
      exact dropWhile_collapse_true text
    | false => rw [collapse_word hc, collapse_word hc, List.dropWhile_cons_of_neg (by simp [hc])]

/-- What is dropped at the end stops at what is kept there. -/
theorem rdropWhile_append (w : List α) {l : List α} (h : l.rdropWhile p ≠ []) :
    (w ++ l).rdropWhile p = w ++ l.rdropWhile p := by
  have hne : (l.reverse.dropWhile p).isEmpty = false := by simpa [List.rdropWhile] using h
  simp [List.rdropWhile, List.reverse_append, List.dropWhile_append, hne]

/-- Separators at the end are dropped with those before them. -/
theorem rdropWhile_append_blank (w : List α) {l : List α} (h : ∀ c ∈ l, p c = true) :
    (w ++ l).rdropWhile p = w.rdropWhile p := by
  have hnil : l.reverse.dropWhile p = [] := by simpa using h
  simp [List.rdropWhile, List.reverse_append, List.dropWhile_append, hnil]

/-- A text without separators loses nothing. -/
theorem rdropWhile_free {w : List α} (h : ∀ c ∈ w, p c = false) : w.rdropWhile p = w := by
  refine List.rdropWhile_eq_self_iff.2 fun hne => ?_
  simp [h _ (List.getLast_mem hne)]

/-- Words that are not empty join to nothing exactly if there are none. -/
theorem intercalate_eq_nil {ws : List (List α)} (h : ∀ w ∈ ws, w ≠ []) :
    [separator].intercalate ws = [] ↔ ws = [] := by
  cases ws with
  | nil => simp
  | cons w ws =>
    have hw := h w (by simp)
    cases ws with
    | nil => simpa using hw
    | cons v ws => simp [List.intercalate_cons_cons]

/-- What is left of a collapsed text without the separators at its ends. -/
theorem strip_collapse (hseparator : p separator = true) (text : List α) :
    ((collapse p separator false text).dropWhile p).rdropWhile p = [separator].intercalate (words p text) := by
  rw [dropWhile_collapse hseparator]
  induction text using run_induction (p := p) with
  | free w hw =>
    by_cases hne : w = []
    · subst hne
      rfl
    · have hcollapse : collapse p separator true (w ++ []) = w ++ collapse p separator false [] :=
        collapse_append hw hne true []
      rw [List.append_nil, collapse, List.append_nil] at hcollapse
      rw [hcollapse, words_of_free hw hne, List.intercalate_singleton, rdropWhile_free hw]
  | separated w c text hw hc ih =>
    by_cases hne : w = []
    · subst hne
      rw [List.nil_append, words_separator hc, collapse_inside hc, ih]
    · rw [collapse_append hw hne, collapse_run hc, words_append hw hne hc]
      by_cases hrest : words p text = []
      · have hblank : ∀ d ∈ separator :: collapse p separator true text, p d = true := by
          rw [hrest, List.intercalate_nil, List.rdropWhile_eq_nil_iff] at ih
          exact List.forall_mem_cons.2 ⟨hseparator, ih⟩
        rw [hrest, List.intercalate_singleton, rdropWhile_append_blank w hblank, rdropWhile_free hw]
      · have hnonempty : (collapse p separator true text).rdropWhile p ≠ [] := by
          rw [ih, Ne, intercalate_eq_nil fun w hw => (of_mem_words hw).1]
          exact hrest
        have happend := rdropWhile_append (w ++ [separator]) hnonempty
        rw [List.append_assoc, List.singleton_append] at happend
        rw [happend, ih, List.intercalate_cons_of_ne_nil hrest]

end AgentRuntime

namespace Regex

open AgentRuntime

variable (word : Char → Bool) {p : Char → Bool}

/-! ## Replacing runs of characters -/

/-- The first end of a star is behind all characters of its class. -/
theorem exists_head?_starEnds (last : Option Char) (rest : List Char) :
    ∃ last', (starEnds p last rest).head? = some ⟨last', rest.dropWhile p⟩ := by
  induction rest generalizing last with
  | nil => exact ⟨last, rfl⟩
  | cons x rest ih =>
    rw [starEnds]
    split
    case isTrue hx =>
      obtain ⟨last', hlast⟩ := ih (some x)
      exact ⟨last', by rw [List.head?_append, hlast, List.dropWhile_cons_of_pos hx]; rfl⟩
    case isFalse hx => exact ⟨last, by rw [List.dropWhile_cons_of_neg hx]; rfl⟩

/-- So a plus matches as many as there are. -/
theorem width_plus (last : Option Char) (x : Char) (rest : List Char) :
    (plus p).width word ⟨last, x :: rest⟩ = ((x :: rest).takeWhile p).length := by
  have hlength := congrArg List.length (List.takeWhile_append_dropWhile (p := p) (l := rest))
  rw [List.length_append] at hlength
  obtain ⟨last', hlast⟩ := exists_head?_starEnds (p := p) (some x) rest
  cases hx : p x with
  | true =>
    have hfirst : (plus p).first word ⟨last, x :: rest⟩ = some ⟨last', rest.dropWhile p⟩ := by
      simpa [first, plus, ends, hx] using hlast
    rw [width, hfirst, List.takeWhile_cons_of_pos hx]
    simp only [List.length_cons]
    omega
  | false =>
    have hfirst : (plus p).first word ⟨last, x :: rest⟩ = none := by simp [first, plus, ends, hx]
    rw [width, hfirst, List.takeWhile_cons_of_neg (by simp [hx])]
    rfl

/-- The pieces of a text, in front of a run of separators and inside of one. -/
theorem flatMap_scan_plus (separator : Char) (last : Option Char) (text : List Char) :
    ((plus p).scan word 0 last text).flatMap (Piece.shown [separator]) = collapse p separator false text ∧
      ((plus p).scan word (text.takeWhile p).length last text).flatMap (Piece.shown [separator]) =
        collapse p separator true text := by
  induction text generalizing last with
  | nil => exact ⟨rfl, rfl⟩
  | cons x rest ih =>
    obtain ⟨hout, hin⟩ := ih (some x)
    cases hx : p x with
    | true =>
      have htake : (x :: rest).takeWhile p = x :: rest.takeWhile p := List.takeWhile_cons_of_pos hx
      constructor
      · rw [scan, width_plus, htake, List.length_cons, collapse_run hx, ← hin]
        rfl
      · rw [htake, List.length_cons, scan, collapse_inside hx, hin]
    | false =>
      have htake : (x :: rest).takeWhile p = [] := List.takeWhile_cons_of_neg (by simp [hx])
      have hscan : ((plus p).scan word 0 last (x :: rest)).flatMap (Piece.shown [separator]) =
          x :: collapse p separator false rest := by
        rw [scan, width_plus, htake, ← hout]
        rfl
      exact ⟨by rw [hscan, collapse_word hx], by rw [htake, List.length_nil, hscan, collapse_word hx]⟩

/-- `re.sub(r"[…]+", separator, text)` -/
theorem sub_plus (separator : Char) (text : List Char) :
    (plus p).sub word [separator] text = collapse p separator false text :=
  (flatMap_scan_plus word separator none text).1

/-- `re.sub(r"[…]", "", text)` -/
theorem sub_set (text : List Char) : (set p).sub word [] text = text.filter fun c => !p c := by
  have hscan : ∀ last, ((set p).scan word 0 last text).flatMap (Piece.shown []) =
      text.filter fun c => !p c := by
    induction text with
    | nil => exact fun _ => rfl
    | cons x rest ih =>
      intro last
      cases hx : p x with
      | true =>
        have hwidth : (set p).width word ⟨last, x :: rest⟩ = 1 := by simp [width, first, ends, hx]
        rw [scan, hwidth, List.filter_cons_of_neg (by simp [hx]), ← ih (some x)]
        rfl
      | false =>
        have hwidth : (set p).width word ⟨last, x :: rest⟩ = 0 := by simp [width, first, ends, hx]
        rw [scan, hwidth, List.filter_cons_of_pos (by simp [hx]), ← ih (some x)]
        rfl
  exact hscan none

end Regex
