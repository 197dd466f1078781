import AgentRuntime.Text.SensitiveData
import Mathlib.Data.List.Induction

/-!
# What redaction leaves

A replacement puts a marker where a match was, and keeps the characters around it. So what a pattern matches
in the new text, as long as it does not reach into a marker, stood in the old text too
(`Redactable.before_sub`), and a pattern that has been replaced is not found again. What is new is only the
brackets of the marker: a word boundary that the old text did not have. Hence a pattern without word
boundaries is gone from the redacted text, and one with word boundaries is found there beside a marker, if
at all.
-/

namespace AgentRuntime

namespace TextRedactor

open Regex SensitiveDataClassifier

/-! ## Words and markers -/

/-- The characters cannot stand in a marker, nor reach into one. -/
structure Plain (w : List Char) : Prop where
  no_open : '[' ∉ w
  no_close : ']' ∉ w
  foreign : ∃ c ∈ w, c ∉ marker

/-- A plain text is not empty. -/
theorem Plain.ne_nil {w : List Char} (h : Plain w) : w ≠ [] := by
  rintro rfl
  obtain ⟨c, hc, _⟩ := h.foreign
  cases hc

/-- An end of the marker has its closing bracket. -/
theorem close_mem {m : List Char} (hm : m <:+ marker) (hne : m ≠ []) : ']' ∈ m := by
  obtain ⟨t, ht⟩ := hm
  have hlast : m.getLast? = some ']' := by
    have h := congrArg List.getLast? ht
    rw [List.getLast?_append] at h
    cases hl : m.getLast? with
    | none => exact absurd (List.getLast?_eq_none_iff.1 hl) hne
    | some c =>
      rw [hl] at h
      exact h
  exact List.mem_of_getLast? hlast

/-- No plain text begins inside a marker. -/
theorem Plain.not_inside {w m y z : List Char} (hw : Plain w) (hm : m <:+ marker) (hne : m ≠ []) :
    m ++ y ≠ w ++ z := by
  intro h
  rcases List.append_eq_append_iff.1 h with ⟨a, rfl, _⟩ | ⟨a, rfl, _⟩
  · exact hw.no_close (List.mem_append_left _ (close_mem hm hne))
  · obtain ⟨c, hc, hforeign⟩ := hw.foreign
    exact hforeign (hm.subset (List.mem_append_left _ hc))

/-- The text after a replacement. -/
abbrev shown (ps : List Piece) : List Char := ps.flatMap (Piece.shown marker)

/-- The text before it. -/
abbrev original (ps : List Piece) : List Char := ps.flatMap Piece.text

/-- Characters that are kept are the text. -/
@[simp] theorem flatMap_text_kept (w : List Char) : (w.map Piece.kept).flatMap Piece.text = w := by
  induction w with
  | nil => rfl
  | cons c w ih => simpa [Piece.text] using ih

/-- They are also what is shown. -/
@[simp] theorem flatMap_shown_kept (repl w : List Char) :
    (w.map Piece.kept).flatMap (Piece.shown repl) = w := by
  induction w with
  | nil => rfl
  | cons c w ih => simpa [Piece.shown] using ih

/-- A text without an opening bracket at the beginning was not touched. -/
theorem kept_prefix {ps : List Piece} {w z : List Char} (hw : '[' ∉ w) (h : shown ps = w ++ z) :
    ∃ qs, ps = w.map .kept ++ qs ∧ shown qs = z := by
  induction w generalizing ps with
  | nil => exact ⟨ps, rfl, h⟩
  | cons c w ih =>
    cases ps with
    | nil => cases h
    | cons p ps =>
      cases p with
      | kept d =>
        obtain ⟨rfl, htail⟩ := List.cons.inj h
        obtain ⟨qs, rfl, hqs⟩ := ih (fun h => hw (by simp [h])) htail
        exact ⟨qs, rfl, hqs⟩
      | hit v =>
        obtain ⟨rfl, _⟩ := List.cons.inj h
        exact absurd (by simp) hw

/-- Plain text after a replacement was not touched. -/
theorem Plain.kept {ps : List Piece} {x w z : List Char} (hw : Plain w) (h : shown ps = x ++ (w ++ z)) :
    ∃ qs rs, ps = qs ++ (w.map .kept ++ rs) ∧ shown qs = x ∧ shown rs = z := by
  induction ps generalizing x with
  | nil =>
    obtain ⟨_, hwz⟩ := List.append_eq_nil_iff.1 h.symm
    exact absurd (List.append_eq_nil_iff.1 hwz).1 hw.ne_nil
  | cons p ps ih =>
    cases p with
    | kept c =>
      cases x with
      | nil =>
        obtain ⟨rs, hps, hrs⟩ := kept_prefix hw.no_open h
        exact ⟨[], rs, hps, rfl, hrs⟩
      | cons d x =>
        obtain ⟨rfl, htail⟩ := List.cons.inj h
        obtain ⟨qs, rs, rfl, rfl, hrs⟩ := ih htail
        exact ⟨.kept c :: qs, rs, rfl, rfl, hrs⟩
    | hit v =>
      rcases List.append_eq_append_iff.1 h with ⟨a, rfl, htail⟩ | ⟨m, hm, htail⟩
      · obtain ⟨qs, rs, rfl, rfl, hrs⟩ := ih htail
        exact ⟨.hit v :: qs, rs, rfl, rfl, hrs⟩
      · cases m with
        | nil =>
          obtain ⟨qs, rs, rfl, hqs, hrs⟩ := ih (x := []) htail.symm
          exact ⟨.hit v :: qs, rs, rfl, by simpa [hqs] using hm, hrs⟩
        | cons c m =>
          exact absurd htail.symm (hw.not_inside ⟨x, hm.symm⟩ (List.cons_ne_nil c m))

/-- A quote or white space, which ends a value. -/
def EndsValue (c : Char) : Prop := isspace c ∨ c = '\'' ∨ c = '"'

/-- No character of the marker ends a value. -/
theorem not_endsValue_marker : ∀ c ∈ marker, ¬EndsValue c := by
  intro c hc hends
  have hmarker : marker.any (fun c => isspace c || c == '\'' || c == '"') = false := by decide
  refine Bool.eq_false_iff.1 hmarker (List.any_eq_true.2 ⟨c, hc, ?_⟩)
  simpa [EndsValue, or_assoc] using hends

section
variable {word : Char → Bool}

/-- What holds of every pattern that is replaced: a match has a plain beginning, no quote or white space in
front, and ends where a value ends if it reaches into a marker. -/
structure Redactable (word : Char → Bool) (r : Regex) : Prop where
  begins : r.Begins fun c => ¬EndsValue c
  plain {last : Option Char} {w : List Char} {next : Option Char} :
    r.Matches word last w next → ∃ u v, w = u ++ v ∧ Plain u
  stops {last : Option Char} {w rest : List Char} : r.Finds word last w rest → '[' ∈ w →
    (∃ c ∈ w.getLast?, EndsValue c) ∨ ∀ c ∈ rest.head?, EndsValue c

variable {r : Regex} {last : Option Char} {text : List Char}

/-- A marker in the old text, from some place on, was not touched behind it. -/
theorem Redactable.marker_after (hr : Redactable word r) {ps : List Piece} {m z : List Char}
    (hscan : r.Scanned word last text ps) (hm : m <:+ marker) (h : original ps = m ++ z) :
    ∃ qs, ps = m.map .kept ++ qs ∧ original qs = z := by
  induction m generalizing last text ps with
  | nil => exact ⟨ps, rfl, h⟩
  | cons c m ih =>
    cases hscan with
    | nil => cases h
    | kept hwidth hscan =>
      obtain ⟨rfl, htail⟩ := List.cons.inj h
      obtain ⟨qs, rfl, hqs⟩ := ih hscan ((List.suffix_cons _ _).trans hm) htail
      exact ⟨qs, rfl, hqs⟩
    | hit hne hfinds hscan =>
      obtain ⟨u, v, rfl, hu⟩ := hr.plain hfinds.matches
      rw [original, List.flatMap_cons, Piece.text, List.append_assoc] at h
      exact absurd h.symm (hu.not_inside hm (List.cons_ne_nil c m))

/-- A marker in the old text, up to some place, was not touched before it: a match that reaches into the
marker does not stop there. -/
theorem Redactable.marker_before (hr : Redactable word r) {ps qs : List Piece} {y m m' z : List Char}
    (hscan : r.Scanned word last text (ps ++ qs)) (hm : m ++ m' = marker) (hne : m' ≠ [])
    (hqs : original qs = m' ++ z) (h : original ps = y ++ m) :
    ∃ ps', ps = ps' ++ m.map .kept ∧ original ps' = y := by
  induction m using List.reverseRecOn generalizing ps qs m' z with
  | nil => exact ⟨ps, by simp, by simpa using h⟩
  | append_singleton m c ih =>
    rcases List.eq_nil_or_concat ps with rfl | ⟨ps, p, rfl⟩
    · have hlen := congrArg List.length h
      simp [original] at hlen
    · cases p with
      | kept d =>
        have hd : original ps ++ [d] = (y ++ m) ++ [c] := by
          simpa [original, Piece.text] using h
        obtain ⟨hps, hdc⟩ := List.append_inj' hd rfl
        obtain rfl : d = c := List.singleton_inj.1 hdc
        have hscan' : r.Scanned word last text (ps ++ (.kept d :: qs)) := by simpa using hscan
        have hqs' : original (.kept d :: qs) = d :: m' ++ z := congrArg (d :: ·) hqs
        obtain ⟨ps', rfl, hps'⟩ := ih hscan' (by simpa using hm) (List.cons_ne_nil d m') hqs' hps
        exact ⟨ps', by simp, hps'⟩
      | hit w =>
        have hfinds : r.Finds word ((original ps).getLast?.or last) w (original qs) :=
          Scanned.hit_at (by simpa using hscan)
        obtain ⟨u, v, rfl, hu⟩ := hr.plain hfinds.matches
        have hend : original ps ++ (u ++ v) = y ++ (m ++ [c]) := by
          simpa [original, Piece.text] using h
        rcases List.append_eq_append_iff.1 hend with ⟨a, rfl, hw⟩ | ⟨a, _, hw⟩
        · -- The match begins before the marker, so it would have to stop inside.
          have hopen : '[' ∈ m ++ [c] := by
            cases m with
            | nil => simp [(List.cons.inj hm).1]
            | cons d m => simp [(List.cons.inj hm).1]
          have hlast : (u ++ v).getLast? = some c := by rw [hw]; simp
          have hc : c ∈ marker := by rw [← hm]; simp
          have hmem : '[' ∈ u ++ v := by
            rw [hw]
            exact List.mem_append_right _ hopen
          rcases hr.stops hfinds hmem with ⟨d, hd, hends⟩ | hends
          · rw [hlast] at hd
            cases hd
            exact absurd hends (not_endsValue_marker c hc)
          · cases m' with
            | nil => exact absurd rfl hne
            | cons d m' =>
              have hd : d ∈ marker := by rw [← hm]; simp
              exact absurd (hends d (by simp [hqs])) (not_endsValue_marker d hd)
        · obtain ⟨x, hx, hforeign⟩ := hu.foreign
          refine absurd ?_ hforeign
          rw [← hm, hw]
          simp [hx]

end

/-! ## Text that is not touched -/

section
variable {word : Char → Bool} {r : Regex} {text : List Char}

/-- Plain text after a replacement, among the pieces of the old text. -/
theorem Plain.pieces {x w z : List Char} (hw : Plain w)
    (h : r.sub word marker text = x ++ (w ++ z)) :
    ∃ qs rs, r.Scanned word none text (qs ++ (w.map .kept ++ rs)) ∧ shown qs = x ∧ shown rs = z ∧
      text = original qs ++ (w ++ original rs) ∧
      r.width word ⟨(original qs).getLast?, w ++ original rs⟩ = 0 := by
  obtain ⟨qs, rs, hps, hqs, hrs⟩ := hw.kept h
  have hscan : r.Scanned word none text (r.scan word 0 none text) := scanned_scan r none text
  rw [hps] at hscan
  have htext : original (qs ++ (w.map .kept ++ rs)) = original qs ++ (w ++ original rs) := by
    rw [original, List.flatMap_append, List.flatMap_append, flatMap_text_kept]
  refine ⟨qs, rs, hscan, hqs, hrs, hscan.text_eq.symm.trans htext, ?_⟩
  cases w with
  | nil => exact absurd rfl hw.ne_nil
  | cons c w =>
    have hcons : r.Scanned word none text (qs ++ .kept c :: (w.map .kept ++ rs)) := hscan
    have hwidth := hcons.kept_at
    rwa [List.flatMap_append, flatMap_text_kept, Option.or_none] at hwidth

/-- The character before untouched text was there before the replacement, if no marker stands there. -/
theorem getLast?_original {ps : List Piece} (h : ¬marker <:+ shown ps) :
    (original ps).getLast? = (shown ps).getLast? := by
  rcases List.eq_nil_or_concat ps with rfl | ⟨ps, p, rfl⟩
  · rfl
  · cases p with
    | kept c => simp [Piece.text, Piece.shown]
    | hit w => exact absurd ⟨shown ps, by simp [Piece.shown]⟩ h

/-- What is shown begins as the original does, unless it begins with a marker. -/
theorem head?_original {ps : List Piece} (h : ¬marker <+: shown ps) :
    (original ps).head? = (shown ps).head? := by
  cases ps with
  | nil => rfl
  | cons p ps =>
    cases p with
    | kept c => rfl
    | hit w => exact absurd ⟨shown ps, rfl⟩ h

/-- A marker of the old text stays a marker. -/
theorem Redactable.not_marker_before (hr : Redactable word r) {ps qs : List Piece} {last : Option Char}
    (hscan : r.Scanned word last text (ps ++ qs)) (h : ¬marker <:+ shown ps) :
    ¬marker <:+ original ps := by
  rintro ⟨y, hy⟩
  have hmarker : marker = marker.dropLast ++ [']'] := rfl
  rcases List.eq_nil_or_concat ps with rfl | ⟨ps, p, rfl⟩
  · have hlen := congrArg List.length hy
    simp [marker] at hlen
  · cases p with
    | kept c =>
      have hlast : original ps ++ [c] = (y ++ marker.dropLast) ++ [']'] := by
        rw [List.append_assoc, ← hmarker, hy]
        simp [Piece.text]
      obtain ⟨hps, hc⟩ := List.append_inj' hlast rfl
      obtain rfl : c = ']' := List.singleton_inj.1 hc
      have hscan' : r.Scanned word last text (ps ++ .kept ']' :: qs) := by simpa using hscan
      obtain ⟨ps', rfl, _⟩ := hr.marker_before hscan' hmarker.symm (List.cons_ne_nil ']' []) rfl hps
      refine h ⟨shown ps', ?_⟩
      simp only [List.concat_eq_append, shown, List.flatMap_append, flatMap_shown_kept, List.append_assoc]
      rfl
    | hit w => exact h ⟨shown ps, by simp [Piece.shown]⟩

/-- Where nothing at the start was replaced by a marker, the original has none there either. -/
theorem Redactable.not_marker_after (hr : Redactable word r) {ps : List Piece} {last : Option Char}
    (hscan : r.Scanned word last text ps) (h : ¬marker <+: shown ps) : ¬marker <+: original ps := by
  rintro ⟨y, hy⟩
  obtain ⟨qs, rfl, _⟩ := hr.marker_after hscan (List.suffix_refl marker) hy.symm
  exact h ⟨shown qs, by simp⟩

/-- What stands before a part of the text, before and after replacements that do not touch the part: the
character next to it is the same, or a marker has come. -/
structure Before (x₀ x : List Char) : Prop where
  stays : marker <:+ x₀ → marker <:+ x
  next : x₀.getLast? = x.getLast? ∨ marker <:+ x

/-- What stands behind it. -/
structure Behind (z₀ z : List Char) : Prop where
  stays : marker <+: z₀ → marker <+: z
  next : z₀.head? = z.head? ∨ marker <+: z

/-- A text is before a match as it was. -/
theorem Before.refl (x : List Char) : Before x x := ⟨id, .inl rfl⟩

/-- A text is behind a match as it was. -/
theorem Behind.refl (z : List Char) : Behind z z := ⟨id, .inl rfl⟩

/-- What became of a text in two passes. -/
theorem Before.trans {x₀ x₁ x : List Char} (h : Before x₀ x₁) (h' : Before x₁ x) : Before x₀ x := by
  refine ⟨fun hm => h'.stays (h.stays hm), ?_⟩
  rcases h.next with heq | hm
  · rw [heq]
    exact h'.next
  · exact .inr (h'.stays hm)

/-- The same behind a match. -/
theorem Behind.trans {z₀ z₁ z : List Char} (h : Behind z₀ z₁) (h' : Behind z₁ z) : Behind z₀ z := by
  refine ⟨fun hm => h'.stays (h.stays hm), ?_⟩
  rcases h.next with heq | hm
  · rw [heq]
    exact h'.next
  · exact .inr (h'.stays hm)

/-- Plain text after a replacement stood in the old text, and no match began there. -/
theorem Redactable.before_sub (hr : Redactable word r) {x w z : List Char} (hw : Plain w)
    (h : r.sub word marker text = x ++ (w ++ z)) :
    ∃ x₀ z₀, text = x₀ ++ (w ++ z₀) ∧ Before x₀ x ∧ Behind z₀ z ∧
      r.width word ⟨x₀.getLast?, w ++ z₀⟩ = 0 := by
  obtain ⟨qs, rs, hscan, rfl, rfl, htext, hwidth⟩ := hw.pieces h
  refine ⟨original qs, original rs, htext, ⟨?_, ?_⟩, ⟨?_, ?_⟩, hwidth⟩
  · exact fun hm => by_contra fun h => hr.not_marker_before hscan h hm
  · exact (em _).symm.imp getLast?_original id
  · exact fun hm => by_contra fun h => hr.not_marker_after hscan.behind.behind h hm
  · exact (em _).symm.imp head?_original id

/-! ## Assignments -/

/-- A match of an assignment goes on behind its beginning with a character of a value. -/
theorem matches_assignment {keyword : Regex} {value : Char → Bool} {last next : Option Char}
    {w : List Char} (h : (assignment keyword value).Matches word last w next) :
    ∃ u c v, w = u ++ (c :: v) ∧ (assigned keyword).Matches word last u (some c) ∧ value c := by
  obtain ⟨u, _, rfl, hu, _, _, rfl, ⟨_, v, rfl, ⟨c, rfl, hc⟩, _⟩, _⟩ := h
  exact ⟨u, c, _, rfl, hu, hc⟩

/-- One character of a value is enough. -/
theorem assignment_matches {keyword : Regex} {value : Char → Bool} {last next : Option Char}
    {u : List Char} {c : Char} (hu : (assigned keyword).Matches word last u (some c)) (hc : value c) :
    (assignment keyword value).Matches word last (u ++ [c]) next :=
  ⟨u, [c], rfl, hu, [c], [], rfl, ⟨[c], [], rfl, ⟨c, rfl, hc⟩, by simp [Matches]⟩, .inr rfl⟩

/-- The value of an assignment may begin with a marker; then it began with a match before. -/
theorem Redactable.assignment_before_sub (hr : Redactable word r) {keyword : Regex} {value : Char → Bool}
    (hboundary : (assigned keyword).NoBoundary)
    (hplain : ∀ {last w next}, (assigned keyword).Matches word last w next → Plain w)
    (hvalue : ∀ c, ¬EndsValue c → value c)
    (h : (assignment keyword value).search word (r.sub word marker text)) :
    ∃ x w z, text = x ++ (w ++ z) ∧ (assignment keyword value).Matches word x.getLast? w z.head? ∧
      r.width word ⟨x.getLast?, w ++ z⟩ = 0 := by
  obtain ⟨x, w, z, hout, hm⟩ := search_iff.1 h
  obtain ⟨u, c, v, rfl, hu, hc⟩ := matches_assignment hm
  rw [List.append_assoc, List.append_assoc] at hout
  obtain ⟨qs, rs, hscan, _, hrs, htext, hwidth⟩ := (hplain hu).pieces hout
  obtain ⟨d, y, hd, hy⟩ : ∃ d y, value d ∧ original rs = d :: y := by
    cases rs with
    | nil => cases hrs
    | cons p rs =>
      cases p with
      | kept d =>
        obtain ⟨rfl, _⟩ := List.cons.inj hrs
        exact ⟨d, original rs, hc, rfl⟩
      | hit m =>
        rw [← List.append_assoc] at hscan
        obtain ⟨d, hd, hends⟩ := hscan.hit_at.matches.begins hr.begins
        obtain ⟨m, rfl⟩ := List.head?_eq_some_iff.1 hd
        exact ⟨d, m ++ original rs, hvalue d hends, rfl⟩
  have hstands : (assignment keyword value).Matches word (original qs).getLast? (u ++ [d]) y.head? :=
    assignment_matches (hu.elsewhere hboundary) hd
  refine ⟨original qs, u ++ [d], y, ?_, hstands, ?_⟩
  · rw [htext, hy]
    simp
  · rw [hy] at hwidth
    simpa using hwidth

end

end TextRedactor

end AgentRuntime
