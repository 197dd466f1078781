import AgentRuntime.Interaction.Loop
import AgentRuntime.Python.Floats
import AgentRuntime.Python.Slices

/-!
# The text chunker

`TextChunker` (`app/infrastructure/text/chunker.py`), in its two modes: slices of the tokens of a text, if
there is a tokenizer, or else slices of the text that end at sentences. The overlap is a float, and what a
slice goes back is its product with the size, rounded and truncated as the source does it
(`Binary64.truncatedProduct`). Each mode is a loop over the starts of the slices, run with fuel; with the
tokenizer it ends only where the overlap is truncated to no token, or without tokens (`tokenLaw_iff`).
-/

namespace AgentRuntime

open Interaction

/-- An encoding of texts as lists of tokens. -/
structure Tokenizer (τ : Type) where
  encode : String → List τ
  decode : List τ → String

/-- Chunks text into smaller pieces for embedding generation. -/
structure TextChunker where
  chunkSize : Nat
  overlap : Float
  chunkSize_bounds : 100 ≤ chunkSize ∧ chunkSize ≤ 1000
  overlap_bounds : 0.0 ≤ overlap ∧ overlap < 1.0

namespace TextChunker

/-- `TextChunker.__init__`; the defaults are 600 and 0.1. -/
def init (chunkSize : Int) (overlap : Float) : Except PyError TextChunker :=
  if hsize : 100 ≤ chunkSize ∧ chunkSize ≤ 1000 then
    if hoverlap : 0.0 ≤ overlap ∧ overlap < 1.0 then
      .ok ⟨chunkSize.toNat, overlap, by omega, hoverlap⟩
    else
      .error (.valueError "overlap must be between 0.0 and 1.0")
  else
    .error (.valueError "chunk_size must be between 100 and 1000")

variable (self : TextChunker)

/-! ## Slices of tokens -/

section
variable {τ : Type}

/-- `int(chunk_size * self._overlap)`. -/
def overlapSize : Nat := Binary64.truncatedProduct self.chunkSize self.overlap

/-- The end of the slice that starts at `start`. -/
def tokenEnd (length : Nat) (start : Int) : Int := min (start + self.chunkSize) length

/-- The next start, unless the loop breaks. -/
def nextTokenStart (length : Nat) (start : Int) : Option Int :=
  let start := self.tokenEnd length start - self.overlapSize
  if (length : Int) ≤ start then none else some start

/-- The starts of the slices of a list of tokens. -/
def tokenStarts (fuel length : Nat) : Option (List Int) :=
  Loop.visited (fun start => decide (start < (length : Int))) (self.nextTokenStart length) fuel 0

/-- `tokens[start:end]`. -/
def chunkTokens (tokens : List τ) (start : Int) : List τ :=
  slice tokens start (self.tokenEnd tokens.length start)

/-- Chunk text using the tokenizer. -/
def chunkWithTokenizer (tokenizer : Tokenizer τ) (fuel : Nat) (text : String) : Option (List String) :=
  let tokens := tokenizer.encode text
  (self.tokenStarts fuel tokens.length).map fun starts =>
    starts.map fun start => tokenizer.decode (self.chunkTokens tokens start)

end

/-! ## Slices of characters -/

/-- `self._chunk_size * 4`: an estimate of 4 characters for a token. -/
def charChunkSize : Nat := self.chunkSize * 4

/-- `int(char_chunk_size * self._overlap)`. -/
def charOverlapSize : Nat := Binary64.truncatedProduct self.charChunkSize self.overlap

/-- The end of the slice that starts at `start`: past the last sentence that ends in its second half, if
the text goes on. -/
def charEnd (text : List Char) (start : Int) : Int :=
  let stop := min (start + self.charChunkSize) text.length
  if stop < text.length then
    let sentenceEnd := rfind text ['.', ' '] start stop
    if start + (self.charChunkSize / 2 : Nat) < sentenceEnd then sentenceEnd + 2 else stop
  else
    stop

/-- The next start. The loop breaks at the end of the text, and where the overlap would not advance the
start. -/
def nextCharStart (text : List Char) (start : Int) : Option Int :=
  let newStart := self.charEnd text start - self.charOverlapSize
  if newStart ≤ start ∨ (text.length : Int) ≤ newStart then none else some newStart

/-- The starts of the slices of a text. -/
def charStarts (fuel : Nat) (text : List Char) : Option (List Int) :=
  Loop.visited (fun start => decide (start < (text.length : Int))) (self.nextCharStart text) fuel 0

/-- `text[start:end]`. -/
def charSlice (text : List Char) (start : Int) : List Char :=
  slice text start (self.charEnd text start)

/-- The chunk of a slice, unless it is empty. -/
def charChunk (text : List Char) (start : Int) : Option (List Char) :=
  let chunkText := strip (self.charSlice text start)
  if chunkText = [] then none else some chunkText

/-- Chunk text using the character-based fallback. -/
def chunkFallback (fuel : Nat) (text : String) : Option (List String) :=
  (self.charStarts fuel text.toList).map fun starts =>
    (starts.filterMap (self.charChunk text.toList)).map String.ofList

/-- Chunk text into smaller pieces. -/
def chunkText {τ : Type} (tokenizer : Option (Tokenizer τ)) (fuel : Nat) (text : String) :
    Option (List String) :=
  if text = "" then
    some []
  else
    match tokenizer with
    | some tokenizer => self.chunkWithTokenizer tokenizer fuel text
    | none => self.chunkFallback fuel text

/-! ## The law of the token slices -/

section
variable {τ : Type} {self} {tokenizer : Tokenizer τ} {text : String}

/-- The call returns the slices that start at `starts`: they have at most `chunk_size` tokens, follow each
other, and each token is in one of them, at its place. -/
structure TokenLaw (chunker : TextChunker) (tokenizer : Tokenizer τ) (text : String)
    (starts : List Int) : Prop where
  returns : ∃ fuel, chunker.tokenStarts fuel (tokenizer.encode text).length = some starts ∧
    chunker.chunkWithTokenizer tokenizer fuel text =
      some (starts.map fun start => tokenizer.decode (chunker.chunkTokens (tokenizer.encode text) start))
  bounded : ∀ start ∈ starts,
    (chunker.chunkTokens (tokenizer.encode text) start).length ≤ chunker.chunkSize
  increasing : starts.Pairwise (· < ·)
  covers : ∀ i < (tokenizer.encode text).length, ∃ start ∈ starts, start ≤ i ∧
    (chunker.chunkTokens (tokenizer.encode text) start)[(i - start).toNat]? = (tokenizer.encode text)[i]?

/-- With an overlap, the loop goes back from the end of the last slice, and so on. -/
theorem not_visits_of_overlap (hoverlap : 0 < self.overlapSize) {length : Nat} (hlength : 0 < length)
    (starts : List Int) : ¬Loop.Visits (fun start => decide (start < (length : Int)))
      (self.nextTokenStart length) 0 starts := by
  refine Loop.not_visits (I := fun start => start < (length : Int)) (fun start hstart => ?_) (by omega)
  have hend : self.tokenEnd length start ≤ length := Int.min_le_right _ _
  refine ⟨decide_eq_true hstart, self.tokenEnd length start - self.overlapSize, ?_, by omega⟩
  exact if_neg (by omega)

/-- Without an overlap, the loop goes on where a slice ends. -/
theorem nextTokenStart_eq_some (hoverlap : self.overlapSize = 0) {length : Nat} {start start' : Int} :
    self.nextTokenStart length start = some start' ↔
      start' = self.tokenEnd length start ∧ start' < length := by
  unfold nextTokenStart
  rw [hoverlap]
  by_cases hend : (length : Int) ≤ self.tokenEnd length start - (0 : Nat)
  · rw [if_pos hend]
    refine iff_of_false (fun h => by cases h) fun h => ?_
    omega
  · rw [if_neg hend, Option.some.injEq]
    omega

/-- A chunk that starts within the text ends after its start. -/
theorem lt_tokenEnd {length : Nat} {start : Int} (h : start < length) :
    start < self.tokenEnd length start := by
  have hsize := self.chunkSize_bounds.1
  unfold tokenEnd
  omega

/-- A slice is cut out at its start, and has at most `chunk_size` tokens. -/
theorem length_chunkTokens_le (tokens : List τ) {start : Int} (hstart : 0 ≤ start) :
    (self.chunkTokens tokens start).length ≤ self.chunkSize := by
  have hend : 0 ≤ self.tokenEnd tokens.length start := by
    unfold tokenEnd
    omega
  have hlength := length_slice_le tokens hstart hend
  unfold tokenEnd at hlength
  unfold chunkTokens tokenEnd
  omega

/-- Its tokens are those of the text from its start on. -/
theorem getElem?_chunkTokens (tokens : List τ) {start : Int} (hstart : 0 ≤ start) {i : Nat}
    (hi : start ≤ i) (hend : i < self.tokenEnd tokens.length start) :
    (self.chunkTokens tokens start)[(i - start).toNat]? = tokens[i]? := by
  have hplace : start.toNat + (i - start).toNat = i := by omega
  rw [chunkTokens, getElem?_slice tokens hstart (by omega), if_pos (by omega), hplace]

/-- Without an overlap, the loop ends, and its slices leave no gap. -/
theorem exists_tokenStarts (hoverlap : self.overlapSize = 0) {length : Nat} (hlength : 0 < length) :
    ∃ starts, Loop.Visits (fun start => decide (start < (length : Int))) (self.nextTokenStart length) 0
        starts ∧ (∀ start ∈ starts, 0 ≤ start) ∧ starts.Pairwise (· < ·) ∧
      ∀ i : Int, 0 ≤ i → i < length →
        ∃ start ∈ starts, start ≤ i ∧ i < self.tokenEnd length start := by
  have hnext (start start' : Int) (h : self.nextTokenStart length start = some start') :
      start' = self.tokenEnd length start ∧ start' < length := (nextTokenStart_eq_some hoverlap).1 h
  have hgrows (start start' : Int) (hstart : decide (start < (length : Int)) = true)
      (h : self.nextTokenStart length start = some start') : start < start' := by
    rw [(hnext start start' h).1]
    exact lt_tokenEnd (of_decide_eq_true hstart)
  have hshorter (start start' : Int) (hstart : decide (start < (length : Int)) = true)
      (h : self.nextTokenStart length start = some start') :
      (length - start').toNat < (length - start).toNat := by
    have hlt := hgrows start start' hstart h
    have hle := of_decide_eq_true hstart
    omega
  obtain ⟨starts, hvisits⟩ :=
    Loop.exists_visits (fun start : Int => (length - start).toNat) hshorter 0
  refine ⟨starts, hvisits, ?_, hvisits.pairwise hgrows, ?_⟩
  · refine hvisits.forall_mem (fun start start' hstart h hle => ?_) (Int.le_refl 0)
    exact Int.le_trans hle (Int.le_of_lt (hgrows start start' hstart h))
  · obtain ⟨last, -, hnone, hcovers⟩ := hvisits.covers (self.tokenEnd length)
      (decide_eq_true (by omega)) (fun start start' h => decide_eq_true (hnext start start' h).2)
      fun start start' h => Int.le_of_eq (hnext start start' h).1
    -- the loop ends at the end of the tokens
    have hend : (length : Int) ≤ self.tokenEnd length last := by
      by_contra hlt
      cases hnone.symm.trans ((nextTokenStart_eq_some hoverlap).2 ⟨rfl, Int.not_le.1 hlt⟩)
    exact fun i hi hlt => hcovers i hi (by omega)

/-- With the tokenizer, `chunk_text` returns slices that cover the text exactly if there are no tokens, or the
overlap is truncated to no token (which also a positive one may be); otherwise it does not return. -/
theorem tokenLaw_iff (self : TextChunker) (tokenizer : Tokenizer τ) (text : String) :
    (∃ starts, self.TokenLaw tokenizer text starts) ↔
      tokenizer.encode text = [] ∨ self.overlapSize = 0 := by
  set tokens := tokenizer.encode text with htokens
  constructor
  · rintro ⟨starts, hlaw⟩
    by_contra hcondition
    obtain ⟨hne, hoverlap⟩ := not_or.1 hcondition
    obtain ⟨fuel, hvisited, -⟩ := hlaw.returns
    exact not_visits_of_overlap (Nat.pos_of_ne_zero hoverlap) (List.length_pos_iff.2 hne) starts
      (Loop.visits_of_visited hvisited)
  · intro hcondition
    by_cases hne : tokens = []
    · refine ⟨[], ⟨1, ?_, ?_⟩, by simp, .nil, fun i hi => ?_⟩
      · simp [tokenStarts, Loop.visited, ← htokens, hne]
      · simp [chunkWithTokenizer, tokenStarts, Loop.visited, ← htokens, hne]
      · rw [← htokens, hne] at hi
        cases hi
    · obtain ⟨starts, hvisits, hnonneg, hincreasing, hcovers⟩ :=
        exists_tokenStarts (hcondition.resolve_left hne) (List.length_pos_iff.2 hne)
      obtain ⟨fuel, hfuel⟩ := hvisits.exists_visited
      refine ⟨starts, ⟨fuel, hfuel, ?_⟩, fun start hstart => ?_, hincreasing, fun i hi => ?_⟩
      · rw [chunkWithTokenizer, ← htokens, tokenStarts, hfuel]
        rfl
      · exact length_chunkTokens_le tokens (hnonneg start hstart)
      · obtain ⟨start, hstart, hle, hlt⟩ := hcovers i (Int.natCast_nonneg i) (Int.ofNat_lt.2 hi)
        exact ⟨start, hstart, hle, getElem?_chunkTokens tokens (hnonneg start hstart) hle hlt⟩

/-- The default chunker, with one token: the next chunk starts where this one did, for ever. -/
theorem not_tokenLaw : ¬∀ (self : TextChunker) (tokenizer : Tokenizer Char) (text : String),
    ∃ starts, self.TokenLaw tokenizer text starts := by
  intro h
  let chunker : TextChunker := ⟨600, 0.1, by decide, by decide +kernel⟩
  obtain ⟨starts, hlaw⟩ := h chunker ⟨String.toList, String.ofList⟩ "a"
  obtain ⟨fuel, hvisited, -⟩ := hlaw.returns
  have hoverlap : 0 < chunker.overlapSize := by decide +kernel
  exact not_visits_of_overlap hoverlap (by decide) starts (Loop.visits_of_visited hvisited)

end

end TextChunker

end AgentRuntime
