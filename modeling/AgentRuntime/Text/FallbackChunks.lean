import AgentRuntime.Text.Chunker

/-!
# Chunks without a tokenizer

`_chunk_fallback` always returns, and its chunks are never too long. A slice may end at a sentence in its
second half, and where the overlap then goes back to the start of the slice or before it, the loop gives up
and drops the rest of the text.

`charLaw_iff` says of a text and the two sizes when nothing is lost, without a word about the slices: the
overlap is at most half a slice, or only white space follows a sentence after which no other one ends for too
long (`DeadEnd`). The loop is behind it: it never goes beyond such a sentence (`le_of_deadEnd`),
and where it gives up there is one (`deadEnd_of_givesUp`).
-/

namespace AgentRuntime

open Interaction

namespace TextChunker

variable {self : TextChunker} {text : List Char} {start start' : Int}

/-! ## One slice -/

/-- A sentence ends before this place of the text: the two characters before it are a full stop and a
space. -/
def SentenceEnd (text : List Char) (stop : Nat) : Prop := ∃ i, stop = i + 2 ∧ ['.', ' '] <+: text.drop i

/-- A slice that the text goes on behind ends at the last sentence in its second half, if one ends there, and
is full otherwise. The slice that the text does not go on behind ends with the text. -/
theorem charEnd_cases (self : TextChunker) (text : List Char) {start : Int} (hstart : 0 ≤ start) :
    (self.charEnd text start = min (start + self.charChunkSize) text.length ∧
      (start + self.charChunkSize < text.length → ∀ e, SentenceEnd text e →
        start + (2 * self.chunkSize + 2 : Nat) < e → start + self.charChunkSize < e)) ∨
    start + self.charChunkSize < text.length ∧ ∃ e : Nat, self.charEnd text start = e ∧ SentenceEnd text e ∧
      start + (2 * self.chunkSize + 2 : Nat) < e ∧ e ≤ start + self.charChunkSize ∧
      ∀ e', SentenceEnd text e' → (e' : Int) ≤ start + self.charChunkSize → e' ≤ e := by
  have hhalf : self.charChunkSize / 2 = 2 * self.chunkSize := by
    unfold charChunkSize
    omega
  unfold charEnd
  dsimp only
  by_cases hgoesOn : start + self.charChunkSize < text.length
  · have hstop : min (start + self.charChunkSize) (text.length : Int) = start + self.charChunkSize := by omega
    rw [hstop, if_pos hgoesOn, hhalf]
    rcases rfind_cases text (show ['.', ' '] ≠ [] by decide) start (start + self.charChunkSize) with
      ⟨hnone, hnever⟩ | ⟨i, hfound, hoccurs, hlast⟩
    · rw [hnone, if_neg (by omega)]
      refine .inl ⟨rfl, fun _ e he hbeyond => ?_⟩
      obtain ⟨i, rfl, hprefix⟩ := he
      by_contra hwithin
      refine hnever i ⟨by omega, ?_, hprefix⟩
      rw [List.length_cons, List.length_singleton]
      omega
    · have hwithin := hoccurs.le_stop
      rw [List.length_cons, List.length_singleton] at hwithin
      have hgreatest (e : Nat) (he : SentenceEnd text e) (hle : (e : Int) ≤ start + self.charChunkSize)
          (hbeyond : start + 2 ≤ e) : e ≤ i + 2 := by
        obtain ⟨j, rfl, hprefix⟩ := he
        have hj := hlast j ⟨by omega, by rw [List.length_cons, List.length_singleton]; omega, hprefix⟩
        omega
      rw [hfound]
      by_cases hsecond : start + (2 * self.chunkSize : Nat) < i
      · rw [if_pos hsecond]
        refine .inr ⟨hgoesOn, i + 2, by push_cast; rfl, ⟨i, rfl, hoccurs.isPrefix⟩, by omega, by omega, ?_⟩
        intro e he hle
        by_cases hbeyond : start + 2 ≤ e
        · exact hgreatest e he hle hbeyond
        · omega
      · rw [if_neg hsecond]
        refine .inl ⟨rfl, fun _ e he hbeyond => ?_⟩
        by_contra hle
        have := hgreatest e he (by omega) (by omega)
        omega
  · have hstop : min (start + self.charChunkSize) (text.length : Int) = text.length := by omega
    rw [hstop, if_neg (Int.lt_irrefl _)]
    exact .inl ⟨rfl, fun h => absurd h hgoesOn⟩

/-- A slice ends after its start, within the text and the size of a chunk. Where it ends before both, it ends
in its second half. -/
theorem charEnd_bounds (self : TextChunker) (hstart : 0 ≤ start) (hlt : start < text.length) :
    start < self.charEnd text start ∧ self.charEnd text start ≤ text.length ∧
      self.charEnd text start ≤ start + self.charChunkSize ∧
      (self.charEnd text start < text.length →
        start + (2 * self.chunkSize + 2 : Nat) < self.charEnd text start) := by
  have hsize := self.chunkSize_bounds.1
  have hfull : (self.charChunkSize : Int) = self.chunkSize * 4 := by simp [charChunkSize]
  rcases self.charEnd_cases text hstart with ⟨hend, -⟩ | ⟨hgoesOn, e, hend, -, hbeyond, hwithin, -⟩
  · omega
  · omega

/-- The loop goes on before the end of the slice, if it advances and stays within the text. -/
theorem nextCharStart_eq_some : self.nextCharStart text start = some start' ↔
    start' = self.charEnd text start - self.charOverlapSize ∧ start < start' ∧
      start' < text.length := by
  unfold nextCharStart
  by_cases hbreak : self.charEnd text start - self.charOverlapSize ≤ start ∨
      (text.length : Int) ≤ self.charEnd text start - self.charOverlapSize
  · rw [if_pos hbreak]
    refine iff_of_false (fun h => by cases h) fun h => ?_
    omega
  · rw [if_neg hbreak, Option.some.injEq]
    omega

/-- A chunk is given exactly if something is left of its slice without white space. -/
theorem charChunk_eq_some {chunk : List Char} : self.charChunk text start = some chunk ↔
    chunk = strip (self.charSlice text start) ∧ chunk ≠ [] := by
  unfold charChunk
  dsimp only
  split
  · next hempty =>
    refine iff_of_false (fun h => by cases h) ?_
    rintro ⟨rfl, hne⟩
    exact hne hempty
  · next hne =>
    rw [Option.some.injEq]
    constructor
    · rintro rfl
      exact ⟨rfl, hne⟩
    · exact fun h => h.1.symm

/-- The chunk of a slice holds the character at the place `i` of the text. -/
def Inside (chunker : TextChunker) (text : List Char) (start : Int) (i : Nat) (c : Char) : Prop :=
  ∃ chunk, chunker.charChunk text start = some chunk ∧
    start + ((chunker.charSlice text start).takeWhile isSpace).length ≤ i ∧
    chunk[(i - (start + ((chunker.charSlice text start).takeWhile isSpace).length)).toNat]? = some c

/-- The chunk of a slice holds what the slice holds, white space apart. -/
theorem inside_iff (hstart : 0 ≤ start) (hlt : start < text.length) {i : Nat} {c : Char}
    (hc : text[i]? = some c) (hspace : isSpace c = false) :
    self.Inside text start i c ↔ start ≤ i ∧ i < self.charEnd text start := by
  obtain ⟨hpositive, -, -, -⟩ := charEnd_bounds self hstart hlt
  have hend : 0 ≤ self.charEnd text start := by omega
  constructor
  · rintro ⟨chunk, hchunk, hle, hget⟩
    have hlength := length_slice_le text hstart hend
    have hstrip := length_strip_le (self.charSlice text start)
    obtain ⟨hinside, -⟩ := List.getElem?_eq_some_iff.1 hget
    rw [(charChunk_eq_some.1 hchunk).1] at hinside
    unfold charSlice at hle hinside hstrip
    omega
  · rintro ⟨hle, hbefore⟩
    have hslice : (self.charSlice text start)[(i - start).toNat]? = some c := by
      have hplace : start.toNat + (i - start).toNat = i := by omega
      rw [charSlice, getElem?_slice text hstart hend, if_pos (by omega), hplace, hc]
    obtain ⟨hleading, hget⟩ := getElem?_strip hslice hspace
    have hne : strip (self.charSlice text start) ≠ [] := by
      intro hempty
      rw [hempty] at hget
      cases hget
    refine ⟨_, charChunk_eq_some.2 ⟨rfl, hne⟩, by omega, ?_⟩
    rw [← hget]
    congr 1
    omega

/-- A chunk is not longer than its slice. -/
theorem length_charChunk_le (hstart : 0 ≤ start) (hlt : start < text.length) {chunk : List Char}
    (hchunk : self.charChunk text start = some chunk) : chunk.length ≤ 4 * self.chunkSize := by
  obtain ⟨hpositive, -, hsize, -⟩ := charEnd_bounds self hstart hlt
  have hlength := length_slice_le text hstart (show 0 ≤ self.charEnd text start by omega)
  have hstrip := length_strip_le (self.charSlice text start)
  rw [(charChunk_eq_some.1 hchunk).1]
  unfold charSlice charChunkSize at *
  omega

/-! ## The loop -/

/-- The slice at `start` ends before the text does, and the overlap goes back to the start. -/
def GivesUp (chunker : TextChunker) (text : List Char) (start : Int) : Prop :=
  chunker.charEnd text start < text.length ∧
    chunker.charEnd text start - chunker.charOverlapSize ≤ start

/-- What the slices up to the one at `start` reach: that one, if it is the first, or else the one before,
which the overlap went back from. -/
def sliceReach (chunker : TextChunker) (text : List Char) (start : Int) : Int :=
  if start = 0 then chunker.charEnd text start else start + chunker.charOverlapSize

/-- Only white space is left wherever the loop gives up. -/
def RestBlank (chunker : TextChunker) (text : List Char) : Prop :=
  ∀ start, Relation.ReflTransGen (Loop.Leads (chunker.nextCharStart text)) 0 start →
    chunker.GivesUp text start → ∀ (i : Nat) (c : Char), text[i]? = some c →
      chunker.sliceReach text start ≤ i → isSpace c = true

/-- The loop visits these starts. -/
abbrev CharVisits (chunker : TextChunker) (text : List Char) (starts : List Int) : Prop :=
  Loop.Visits (fun start => decide (start < (text.length : Int))) (chunker.nextCharStart text) 0 starts

/-- The loop goes forward. -/
theorem start_lt_of_leads (h : Relation.ReflTransGen (Loop.Leads (self.nextCharStart text)) start start') :
    start ≤ start' := by
  induction h with
  | refl => exact Int.le_refl start
  | tail _ hnext ih => exact Int.le_trans ih (Int.le_of_lt (nextCharStart_eq_some.1 hnext).2.1)

/-- The loop always ends. -/
theorem exists_charVisits (self : TextChunker) (text : List Char) :
    ∃ starts, self.CharVisits text starts := by
  refine Loop.exists_visits (fun start : Int => (text.length - start).toNat) ?_ 0
  intro start start' hstart hnext
  have hbefore := of_decide_eq_true hstart
  obtain ⟨-, hgrows, -⟩ := nextCharStart_eq_some.1 hnext
  omega

/-- What is visited lies in the text. -/
theorem CharVisits.bounds {starts : List Int} (h : self.CharVisits text starts) :
    ∀ start ∈ starts, 0 ≤ start ∧ start < text.length := by
  intro start hstart
  exact ⟨start_lt_of_leads (h.leads_of_mem start hstart), of_decide_eq_true (h.goesOn_of_mem start hstart)⟩

/-- If the loop gives up, no slice goes beyond the reach. -/
theorem CharVisits.charEnd_le {starts : List Int} (h : self.CharVisits text starts)
    (hstart : start ∈ starts) (hgives : self.GivesUp text start) :
    ∀ other ∈ starts, self.charEnd text other ≤ self.sliceReach text start := by
  have hnone : self.nextCharStart text start = none := if_pos (.inl hgives.2)
  intro other hother
  rcases Relation.ReflTransGen.cases_head (h.leads_to_of_none hstart hnone other hother) with
    rfl | ⟨after, hnext, hlater⟩
  · have hback := hgives.2
    unfold sliceReach
    split_ifs <;> omega
  · obtain ⟨hafter, hgrows, -⟩ := nextCharStart_eq_some.1 hnext
    have hle := start_lt_of_leads hlater
    obtain ⟨hnonneg, -⟩ := CharVisits.bounds h other hother
    rw [sliceReach, if_neg (by omega)]
    omega

/-- The slices leave no gap up to the end of the text, or to the reach where the loop gives up. -/
theorem CharVisits.covers {starts : List Int} (h : self.CharVisits text starts) (hne : text ≠ []) :
    ∃ last ∈ starts, (self.charEnd text last < text.length → self.GivesUp text last) ∧
      ∀ i : Int, 0 ≤ i → i < text.length →
        (self.GivesUp text last → i < self.sliceReach text last) →
          ∃ start ∈ starts, start ≤ i ∧ i < self.charEnd text start := by
  have hgoes : decide ((0 : Int) < text.length) = true := by
    have := List.length_pos_iff.2 hne
    exact decide_eq_true (by omega)
  obtain ⟨last, hlast, hnone, hcovers⟩ := Loop.Visits.covers h (self.charEnd text) hgoes
    (fun _ _ hnext => decide_eq_true (nextCharStart_eq_some.1 hnext).2.2)
    fun start start' hnext => by
      obtain ⟨heq, -⟩ := nextCharStart_eq_some.1 hnext
      omega
  obtain ⟨hnonneg, hlt⟩ := CharVisits.bounds h last hlast
  obtain ⟨-, hend, -⟩ := charEnd_bounds self hnonneg hlt
  -- before the end of the text the loop breaks only where it does not advance
  have hgives (hbefore : self.charEnd text last < text.length) : self.GivesUp text last := by
    refine ⟨hbefore, Int.not_lt.1 fun hadvances => ?_⟩
    cases hnone.symm.trans (nextCharStart_eq_some.2 ⟨rfl, hadvances, by omega⟩)
  refine ⟨last, hlast, hgives, fun i hi hinside hreach => ?_⟩
  by_cases hfirst : i < self.charEnd text last
  · exact hcovers i hi hfirst
  · have hgave := hgives (by omega)
    have hbelow := hreach hgave
    rcases h.eq_or_exists_leads last hlast with rfl | ⟨before, hbefore, hnext⟩
    · rw [sliceReach, if_pos rfl] at hbelow
      omega
    · obtain ⟨hstep, hgrows, -⟩ := nextCharStart_eq_some.1 hnext
      obtain ⟨hbefore', -⟩ := CharVisits.bounds h before hbefore
      obtain ⟨hpositive, -⟩ := charEnd_bounds self hnonneg hlt
      rw [sliceReach, if_neg (by omega)] at hbelow
      exact ⟨before, hbefore, by omega, by omega⟩

/-! ## The law -/

/-- The call returns the chunks of the slices that start at `starts`: they have at most four characters for
a token, and each character that is not white space is inside one of them. -/
structure CharLaw (chunker : TextChunker) (text : String) (starts : List Int) : Prop where
  returns : ∃ fuel, chunker.charStarts fuel text.toList = some starts ∧
    chunker.chunkFallback fuel text =
      some ((starts.filterMap (chunker.charChunk text.toList)).map String.ofList)
  bounded : ∀ chunk ∈ starts.filterMap (chunker.charChunk text.toList),
    chunk.length ≤ 4 * chunker.chunkSize
  covers : ∀ i c, text.toList[i]? = some c → isSpace c = false →
    ∃ start ∈ starts, chunker.Inside text.toList start i c

/-- If only white space is left wherever the loop gives up, nothing is lost. -/
theorem charLaw_of_restBlank {text : String} (hrest : self.RestBlank text.toList) :
    ∃ starts, self.CharLaw text starts := by
  obtain ⟨starts, hvisits⟩ := exists_charVisits self text.toList
  obtain ⟨fuel, hfuel⟩ := hvisits.exists_visited
  refine ⟨starts, ⟨fuel, hfuel, congrArg (Option.map _) hfuel⟩, fun chunk hchunk => ?_,
    fun i c hc hspace => ?_⟩
  · obtain ⟨start, hstart, hchunk⟩ := List.mem_filterMap.1 hchunk
    obtain ⟨hnonneg, hlt⟩ := CharVisits.bounds hvisits start hstart
    exact length_charChunk_le hnonneg hlt hchunk
  · obtain ⟨hi, -⟩ := List.getElem?_eq_some_iff.1 hc
    obtain ⟨last, hlast, -, hcovers⟩ := CharVisits.covers hvisits (List.ne_nil_of_length_pos (by omega))
    obtain ⟨start, hstart, hle, hlt⟩ := hcovers i (Int.natCast_nonneg i) (Int.ofNat_lt.2 hi)
      fun hgives => Int.not_le.1 fun hreach => by
        have hblank := hrest last (hvisits.leads_of_mem last hlast) hgives i c hc hreach
        exact Bool.false_ne_true (hspace.symm.trans hblank)
    obtain ⟨hnonneg, hinside⟩ := CharVisits.bounds hvisits start hstart
    exact ⟨start, hstart, (inside_iff hnonneg hinside hc hspace).2 ⟨hle, hlt⟩⟩

/-- If nothing is lost, only white space is left wherever the loop gives up. -/
theorem restBlank_of_charLaw {text : String} {starts : List Int} (hlaw : self.CharLaw text starts) :
    self.RestBlank text.toList := by
  intro start hleads hgives i c hc hreach
  obtain ⟨fuel, hvisited, -⟩ := hlaw.returns
  have hvisits : self.CharVisits text.toList starts := Loop.visits_of_visited hvisited
  obtain ⟨hi, -⟩ := List.getElem?_eq_some_iff.1 hc
  cases hspace : isSpace c with
  | true => rfl
  | false =>
    obtain ⟨other, hother, hinside⟩ := hlaw.covers i c hc hspace
    obtain ⟨hnonneg, hlt⟩ := CharVisits.bounds hvisits other hother
    obtain ⟨-, hbefore⟩ := (inside_iff hnonneg hlt hc hspace).1 hinside
    have hmem : start ∈ starts := hvisits.mem_of_leads (decide_eq_true (by omega))
      (fun _ _ hnext => decide_eq_true (nextCharStart_eq_some.1 hnext).2.2) hleads
    have hle := CharVisits.charEnd_le hvisits hmem hgives other hother
    omega

/-! ## What is lost, said of the text -/

/-- After this sentence no other one ends for too long: it ends beyond the first half of a slice, and the
slice that begins an overlap before its end (or the first one) reaches neither the end of another sentence
nor that of the text. -/
structure DeadEnd (chunker : TextChunker) (text : List Char) (e : Nat) : Prop where
  sentence : SentenceEnd text e
  beyond : 2 * chunker.chunkSize + 2 < e
  goesOn : max chunker.charChunkSize (e + (chunker.charChunkSize - chunker.charOverlapSize)) < text.length
  last : ∀ e', SentenceEnd text e' → e < e' →
    max chunker.charChunkSize (e + (chunker.charChunkSize - chunker.charOverlapSize)) < e'

/-- The overlap is at most half a slice and the end of a sentence, or only white space follows a sentence
after which no other one ends for too long. -/
def LosesNothing (chunker : TextChunker) (text : List Char) : Prop :=
  chunker.charOverlapSize ≤ 2 * chunker.chunkSize + 2 ∨
    ∀ e, chunker.DeadEnd text e → ∀ (i : Nat) (c : Char), text[i]? = some c → e ≤ i → isSpace c = true

/-- The overlap is smaller than a slice, since it is less than one slice before the rounding. -/
theorem charOverlapSize_lt (self : TextChunker) : self.charOverlapSize < self.charChunkSize := by
  obtain ⟨hleast, hgreatest⟩ := self.chunkSize_bounds
  refine Binary64.truncatedProduct_lt ?_ ?_ self.overlap_bounds.1 self.overlap_bounds.2
  · unfold charChunkSize
    omega
  · unfold charChunkSize
    omega

/-- With an overlap of at most half a slice the loop does not give up: a slice that the text goes on behind is
full, or ends beyond its first half. -/
theorem not_givesUp_of_overlap_le (hoverlap : self.charOverlapSize ≤ 2 * self.chunkSize + 2)
    (hstart : 0 ≤ start) : ¬self.GivesUp text start := by
  rintro ⟨hbefore, hback⟩
  have hless := self.charOverlapSize_lt
  rcases self.charEnd_cases text hstart with ⟨hend, -⟩ | ⟨-, e, hend, -, hbeyond, -, -⟩
  · omega
  · omega

/-- Where the loop gives up, its slice ends with a sentence after which no other one ends for too long. -/
theorem deadEnd_of_givesUp (hstart : 0 ≤ start) (hgives : self.GivesUp text start) :
    ∃ e : Nat, self.charEnd text start = e ∧ self.DeadEnd text e := by
  obtain ⟨hbefore, hback⟩ := hgives
  have hoverlap := self.charOverlapSize_lt
  rcases self.charEnd_cases text hstart with
    ⟨hend, -⟩ | ⟨hgoesOn, e, hend, hsentence, hbeyond, hwithin, hlast⟩
  · omega
  · refine ⟨e, hend, hsentence, by omega, by omega, fun e' he' hlater => ?_⟩
    by_contra hnot
    exact absurd (hlast e' he' (by omega)) (by omega)

/-- No start is more than an overlap before such a sentence (or negative), by induction on the rounds: a
slice that begins there ends with that sentence or an earlier one. -/
theorem le_of_deadEnd (hoverlap : 2 * self.chunkSize + 2 < self.charOverlapSize) {e : Nat}
    (he : self.DeadEnd text e) (h : Relation.ReflTransGen (Loop.Leads (self.nextCharStart text)) 0 start) :
    start + self.charOverlapSize ≤ max (e : Int) self.charOverlapSize := by
  have hless := self.charOverlapSize_lt
  have hgoesOn := he.goesOn
  induction h with
  | refl => omega
  | tail hleads hnext ih =>
    obtain ⟨hstep, -, -⟩ := nextCharStart_eq_some.1 hnext
    rcases self.charEnd_cases text (start_lt_of_leads hleads) with
      ⟨hend, hnone⟩ | ⟨-, e', hend, hsentence, -, hwithin, -⟩
    · -- a full slice has passed the sentence over
      have hpassed := hnone (by omega) e he.sentence
      have hbeyond := he.beyond
      omega
    · have hlater := he.last e' hsentence
      omega

/-- The loop gives up where a sentence is left for too long, there or before. -/
theorem exists_givesUp_of_deadEnd (hoverlap : 2 * self.chunkSize + 2 < self.charOverlapSize) {e : Nat}
    (he : self.DeadEnd text e) : ∃ start,
      Relation.ReflTransGen (Loop.Leads (self.nextCharStart text)) 0 start ∧ self.GivesUp text start ∧
        self.sliceReach text start ≤ e := by
  have hless := self.charOverlapSize_lt
  have hgoesOn := he.goesOn
  obtain ⟨starts, hvisits⟩ := exists_charVisits self text
  obtain ⟨last, hlast, hgives, -⟩ := CharVisits.covers hvisits (List.ne_nil_of_length_pos (by omega))
  have hleads := hvisits.leads_of_mem last hlast
  have hle := le_of_deadEnd hoverlap he hleads
  obtain ⟨hnonneg, hlt⟩ := CharVisits.bounds hvisits last hlast
  obtain ⟨-, -, hsize, -⟩ := charEnd_bounds self hnonneg hlt
  have hgave : self.GivesUp text last := hgives (by omega)
  refine ⟨last, hleads, hgave, ?_⟩
  obtain ⟨e', hend, hdead⟩ := deadEnd_of_givesUp hnonneg hgave
  have hback := hgave.2
  have hlater := he.last e' hdead.sentence
  unfold sliceReach
  split_ifs <;> omega

/-- Only white space is left wherever the loop gives up exactly if the text loses nothing. -/
theorem restBlank_iff (self : TextChunker) (text : List Char) :
    self.RestBlank text ↔ self.LosesNothing text := by
  constructor
  · intro hrest
    refine or_iff_not_imp_left.2 fun hoverlap e he i c hc hi => ?_
    obtain ⟨start, hleads, hgives, hreach⟩ := exists_givesUp_of_deadEnd (Nat.lt_of_not_le hoverlap) he
    exact hrest start hleads hgives i c hc (by omega)
  · rintro hloses start hleads hgives i c hc hreach
    have hnonneg := start_lt_of_leads hleads
    obtain ⟨e, hend, hdead⟩ := deadEnd_of_givesUp hnonneg hgives
    have hback := hgives.2
    rcases hloses with hoverlap | hblank
    · exact absurd hgives (not_givesUp_of_overlap_le hoverlap hnonneg)
    · refine hblank e hdead i c hc ?_
      unfold sliceReach at hreach
      split_ifs at hreach <;> omega

/-- Without a tokenizer, `chunk_text` returns chunks of bounded length that hold the text exactly if the
overlap is at most half a slice (and the end of a sentence), or only white space follows each sentence after
which no other one ends for too long. -/
theorem charLaw_iff (self : TextChunker) (text : String) :
    (∃ starts, self.CharLaw text starts) ↔ self.LosesNothing text.toList := by
  refine Iff.trans ?_ (self.restBlank_iff text.toList)
  exact ⟨fun ⟨_, hlaw⟩ => restBlank_of_charLaw hlaw, charLaw_of_restBlank⟩

/-- Chunks of 400 characters, with an overlap of 360. -/
def shortChunks : TextChunker := ⟨100, 0.9, by decide, by decide +kernel⟩

/-- A sentence of 251 characters, and more than fits into its chunk. -/
def longText : List Char := List.replicate 250 'a' ++ '.' :: ' ' :: List.replicate 300 'b'

/-- With small chunks, a chunk ends at the last white space and starts where the next one would not
go forward. -/
theorem shortChunks_givesUp :
    shortChunks.charEnd longText 0 = 252 ∧ shortChunks.GivesUp longText 0 := by
  have hoverlap : shortChunks.charOverlapSize = 360 := by decide +kernel
  have hend : shortChunks.charEnd longText 0 = 252 := by decide +kernel
  refine ⟨hend, ?_⟩
  rw [GivesUp, hend, hoverlap]
  decide +kernel

/-- The rest of the text after the sentence is lost: the overlap does not let the next chunk advance, and the
loop breaks. -/
theorem not_charLaw : ¬∀ (self : TextChunker) (text : String), ∃ starts, self.CharLaw text starts := by
  intro h
  obtain ⟨starts, hlaw⟩ := h shortChunks (String.ofList longText)
  have hrest := restBlank_of_charLaw hlaw
  rw [String.toList_ofList] at hrest
  obtain ⟨hend, hgives⟩ := shortChunks_givesUp
  have hletter : longText[400]? = some 'b' := by decide +kernel
  have hreach : shortChunks.sliceReach longText 0 ≤ (400 : Nat) := by
    rw [sliceReach, if_pos rfl, hend]
    decide
  exact absurd (hrest 0 .refl hgives 400 'b' hletter hreach) (by decide)

end TextChunker

end AgentRuntime
