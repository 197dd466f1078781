import Mathlib.Tactic.Common

/-!
# Regular expressions

`re.search`, `re.findall` and `re.sub` as far as they are used: single characters out of a set, `\b`,
alternatives, and quantifiers, which are greedy or lazy. The matcher goes back and forth in the text, and
tries what it may do in a fixed order; the first way that reaches the end of the expression is the match.
`Regex.Matches` says what any way can match, and `Regex.mem_ends` that the matcher finds just these.

What counts as a character of a word is a parameter (`word`). A match of no character is passed over by
`scan`.
-/

/-- A regular expression, over sets of characters. -/
inductive Regex where
  | empty
  | set (p : Char → Bool)
  | boundary
  | seq (a b : Regex)
  | alt (a b : Regex)
  | star (p : Char → Bool)
  | lazyStar (p : Char → Bool)

namespace Regex

/-! ## Quantifiers -/

/-- `r?` -/
def opt (r : Regex) : Regex := .alt r .empty

/-- `[…]+` -/
def plus (p : Char → Bool) : Regex := .seq (.set p) (.star p)

/-- `r{n}` -/
def times (r : Regex) : Nat → Regex
  | 0 => .empty
  | n + 1 => .seq r (times r n)

/-- `r{0,n}` -/
def upTo (r : Regex) : Nat → Regex
  | 0 => .empty
  | n + 1 => .alt (.seq r (upTo r n)) .empty

/-- `r{m,n}` -/
def repeated (r : Regex) (m n : Nat) : Regex := .seq (times r m) (upTo r (n - m))

/-- `[…]{m,}` -/
def atLeast (m : Nat) (p : Char → Bool) : Regex := .seq (times (.set p) m) (.star p)

/-- One expression after another. -/
def seqs : List Regex → Regex
  | [] => .empty
  | [r] => r
  | r :: rs => .seq r (seqs rs)

/-! ## The matcher -/

/-- A place in a text: the character before it, and those after it. -/
@[ext]
structure Cursor where
  last : Option Char
  rest : List Char
  deriving DecidableEq

/-- `[…]*`: the longest run of characters first. -/
def starEnds (p : Char → Bool) : Option Char → List Char → List Cursor
  | last, [] => [⟨last, []⟩]
  | last, x :: rest =>
    if p x then starEnds p (some x) rest ++ [⟨last, x :: rest⟩] else [⟨last, x :: rest⟩]

/-- `[…]*?`: the shortest run of characters first. -/
def lazyEnds (p : Char → Bool) : Option Char → List Char → List Cursor
  | last, [] => [⟨last, []⟩]
  | last, x :: rest => ⟨last, x :: rest⟩ :: if p x then lazyEnds p (some x) rest else []

section
variable (word : Char → Bool)

/-- `\b`: one side is a character of a word, and the other is not. -/
def isBoundary (last next : Option Char) : Bool := last.any word != next.any word

/-- The places where a match from a given place can end, in the order in which they are tried. -/
def ends : Regex → Cursor → List Cursor
  | .empty, c => [c]
  | .set _, ⟨_, []⟩ => []
  | .set p, ⟨_, x :: rest⟩ => if p x then [⟨some x, rest⟩] else []
  | .boundary, c => if isBoundary word c.last c.rest.head? then [c] else []
  | .seq a b, c => (ends a c).flatMap (ends b)
  | .alt a b, c => ends a c ++ ends b c
  | .star p, c => starEnds p c.last c.rest
  | .lazyStar p, c => lazyEnds p c.last c.rest

/-- Whether there is a match anywhere from a place on. -/
def searchFrom (r : Regex) : Option Char → List Char → Bool
  | last, [] => !(r.ends word ⟨last, []⟩).isEmpty
  | last, x :: rest => !(r.ends word ⟨last, x :: rest⟩).isEmpty || searchFrom r (some x) rest

/-- `re.search(r, text)`, as a condition. -/
def search (r : Regex) (text : List Char) : Bool := r.searchFrom word none text

/-- `re.match(r"^…$", text)`, as a condition: `$` is the end of the text, and also the place before a line
break that ends it. -/
def matchLine (r : Regex) (text : List Char) : Bool :=
  (r.ends word ⟨none, text⟩).any fun c => c.rest == [] || c.rest == ['\n']

/-- Where the match at a place ends, if there is one. -/
def first (r : Regex) (c : Cursor) : Option Cursor := (r.ends word c).head?

/-- How many characters the match at a place takes; none, if there is no match. -/
def width (r : Regex) (c : Cursor) : Nat :=
  match r.first word c with
  | some c' => c.rest.length - c'.rest.length
  | none => 0

/-- A piece of a text: a character outside all matches, or a match. -/
inductive Piece where
  | kept (c : Char)
  | hit (w : List Char)

/-- A text cut into its matches and the characters between them; `skip` characters belong to the match
that was found last. -/
def scan (r : Regex) : Nat → Option Char → List Char → List Piece
  | _, _, [] => []
  | skip + 1, _, x :: rest => scan r skip (some x) rest
  | 0, last, x :: rest =>
    match r.width word ⟨last, x :: rest⟩ with
    | 0 => .kept x :: scan r 0 (some x) rest
    | n + 1 => .hit ((x :: rest).take (n + 1)) :: scan r n (some x) rest

end

namespace Piece

/-- The characters of a piece. -/
def text : Piece → List Char
  | .kept c => [c]
  | .hit w => w

/-- The characters of a piece, with a replacement for the matches. -/
def shown (repl : List Char) : Piece → List Char
  | .kept c => [c]
  | .hit _ => repl

end Piece

/-- `re.findall(r, text)`. -/
def findall (word : Char → Bool) (r : Regex) (text : List Char) : List (List Char) :=
  (r.scan word 0 none text).filterMap fun
    | .kept _ => none
    | .hit w => some w

/-- `re.sub(r, repl, text)`, where the replacement is taken as it is. -/
def sub (word : Char → Bool) (r : Regex) (repl text : List Char) : List Char :=
  (r.scan word 0 none text).flatMap (Piece.shown repl)

/-! ## What is matched -/

/-- The last character before a position is the last that was taken, or the one before. -/
theorem or_getLast?_cons {x : Char} {w : List Char} {last : Option Char} :
    (x :: w).getLast?.or last = w.getLast?.or (some x) := by
  rw [List.getLast?_cons]
  cases w.getLast? <;> rfl

/-- The second place lies behind the first, with the characters `w` between them. -/
def Cursor.Takes (c : Cursor) (w : List Char) (c' : Cursor) : Prop :=
  c.rest = w ++ c'.rest ∧ c'.last = w.getLast?.or c.last

/-- Nothing is taken exactly if the cursor stays. -/
@[simp] theorem Cursor.takes_nil {c c' : Cursor} : c.Takes [] c' ↔ c' = c := by
  simp [Takes, Cursor.ext_iff, eq_comm, and_comm]

/-- A first character is taken where it stands. -/
@[simp] theorem Cursor.takes_cons {last : Option Char} {x y : Char} {w rest : List Char} {c : Cursor} :
    Takes ⟨last, x :: rest⟩ (y :: w) c ↔ x = y ∧ Takes ⟨some x, rest⟩ w c := by
  constructor
  · rintro ⟨hrest, hlast⟩
    obtain ⟨rfl, rfl⟩ := List.cons.inj hrest
    exact ⟨rfl, rfl, by simpa [List.getLast?_cons] using hlast⟩
  · rintro ⟨rfl, hrest, hlast⟩
    exact ⟨congrArg (x :: ·) hrest, by simpa [List.getLast?_cons] using hlast⟩

/-- Two texts are taken one after the other. -/
theorem Cursor.takes_append {c c' : Cursor} {u v : List Char} :
    c.Takes (u ++ v) c' ↔ ∃ c₁, c.Takes u c₁ ∧ c₁.Takes v c' := by
  constructor
  · rintro ⟨hrest, hlast⟩
    refine ⟨⟨u.getLast?.or c.last, v ++ c'.rest⟩, ⟨by simpa using hrest, rfl⟩, rfl, ?_⟩
    rw [hlast, List.getLast?_append, Option.or_assoc]
  · rintro ⟨c₁, ⟨hrest, hlast⟩, hrest₁, hlast₁⟩
    refine ⟨by rw [hrest, hrest₁, List.append_assoc], ?_⟩
    rw [hlast₁, hlast, List.getLast?_append, Option.or_assoc]

/-- The character that follows is the first of what is taken, or else the one behind it. -/
theorem Cursor.Takes.next {c c' : Cursor} {w : List Char} (h : c.Takes w c') :
    c.rest.head? = w.head?.or c'.rest.head? := by
  rw [h.1, List.head?_append]

/-- A star ends where it has taken characters of its class, and it may have taken any number. -/
theorem mem_starEnds {p : Char → Bool} {last : Option Char} {rest : List Char} {c : Cursor} :
    c ∈ starEnds p last rest ↔ ∃ w, Cursor.Takes ⟨last, rest⟩ w c ∧ ∀ x ∈ w, p x := by
  induction rest generalizing last with
  | nil =>
    constructor
    · intro h
      exact ⟨[], by simpa [starEnds] using h⟩
    · rintro ⟨w, hw, _⟩
      obtain ⟨rfl, _⟩ := List.append_eq_nil_iff.1 hw.1.symm
      simpa [starEnds] using hw
  | cons x rest ih =>
    constructor
    · intro h
      rw [starEnds] at h
      split at h
      case isTrue hx =>
        rcases List.mem_append.1 h with h | h
        · obtain ⟨w, hw, hall⟩ := ih.1 h
          exact ⟨x :: w, Cursor.takes_cons.2 ⟨rfl, hw⟩, by simpa [hx] using hall⟩
        · exact ⟨[], by simpa using h⟩
      case isFalse => exact ⟨[], by simpa using h⟩
    · rintro ⟨w, h, hall⟩
      rw [starEnds]
      cases w with
      | nil =>
        obtain rfl := Cursor.takes_nil.1 h
        split <;> simp
      | cons y w =>
        obtain ⟨rfl, hw⟩ := Cursor.takes_cons.1 h
        rw [if_pos (hall x (by simp))]
        exact List.mem_append_left _ (ih.2 ⟨w, hw, fun y hy => hall y (by simp [hy])⟩)

/-- A lazy star ends in the same places, in another order. -/
theorem mem_lazyEnds {p : Char → Bool} {last : Option Char} {rest : List Char} {c : Cursor} :
    c ∈ lazyEnds p last rest ↔ c ∈ starEnds p last rest := by
  induction rest generalizing last with
  | nil => rfl
  | cons x rest ih =>
    rw [lazyEnds, starEnds]
    split
    · simp [ih, or_comm]
    · rfl

section
variable (word : Char → Bool)

/-- What an expression can match after one character and before another. -/
def Matches : Regex → Option Char → List Char → Option Char → Prop
  | .empty, _, w, _ => w = []
  | .set p, _, w, _ => ∃ x, w = [x] ∧ p x
  | .boundary, last, w, next => w = [] ∧ isBoundary word last next
  | .seq a b, last, w, next =>
    ∃ u v, w = u ++ v ∧ Matches a last u (v.head?.or next) ∧ Matches b (u.getLast?.or last) v next
  | .alt a b, last, w, next => Matches a last w next ∨ Matches b last w next
  | .star p, _, w, _ | .lazyStar p, _, w, _ => ∀ x ∈ w, p x

variable {word} in
/-- The matcher finds what the expression can match, and nothing else. -/
theorem mem_ends {r : Regex} {c c' : Cursor} :
    c' ∈ r.ends word c ↔ ∃ w, c.Takes w c' ∧ r.Matches word c.last w c'.rest.head? := by
  induction r generalizing c c' with
  | empty => simp [ends, Matches, and_comm]
  | set p =>
    obtain ⟨last, rest⟩ := c
    cases rest with
    | nil => simp [ends, Matches, Cursor.Takes]
    | cons x rest =>
      constructor
      · intro h
        rw [ends] at h
        split at h
        case isTrue hx =>
          obtain rfl := List.mem_singleton.1 h
          exact ⟨[x], by simp, x, rfl, hx⟩
        case isFalse => simp at h
      · rintro ⟨_, h, y, rfl, hy⟩
        obtain ⟨rfl, h⟩ := Cursor.takes_cons.1 h
        rw [ends, if_pos hy]
        simpa using h
  | boundary =>
    constructor
    · intro h
      rw [ends] at h
      split at h
      case isTrue hb =>
        obtain rfl := List.mem_singleton.1 h
        exact ⟨[], by simp, rfl, hb⟩
      case isFalse => simp at h
    · rintro ⟨_, h, rfl, hb⟩
      obtain rfl := Cursor.takes_nil.1 h
      rw [ends, if_pos hb]
      simp
  | seq a b iha ihb =>
    constructor
    · intro h
      obtain ⟨c₁, ha, hb⟩ := List.mem_flatMap.1 h
      obtain ⟨u, hu, ha⟩ := iha.1 ha
      obtain ⟨v, hv, hb⟩ := ihb.1 hb
      rw [hv.next] at ha
      rw [hu.2] at hb
      exact ⟨u ++ v, Cursor.takes_append.2 ⟨c₁, hu, hv⟩, u, v, rfl, ha, hb⟩
    · rintro ⟨_, h, u, v, rfl, ha, hb⟩
      obtain ⟨c₁, hu, hv⟩ := Cursor.takes_append.1 h
      rw [← hv.next] at ha
      rw [← hu.2] at hb
      exact List.mem_flatMap.2 ⟨c₁, iha.2 ⟨u, hu, ha⟩, ihb.2 ⟨v, hv, hb⟩⟩
  | alt a b iha ihb => simp [ends, Matches, iha, ihb, and_or_left, exists_or]
  | star p => exact mem_starEnds
  | lazyStar p => exact mem_lazyEnds.trans mem_starEnds

variable {word}

/-- The pattern ends somewhere exactly if it matches a beginning of the text. -/
theorem exists_mem_ends {r : Regex} {last : Option Char} {text : List Char} :
    (∃ c, c ∈ r.ends word ⟨last, text⟩) ↔
      ∃ w z, text = w ++ z ∧ r.Matches word last w z.head? := by
  constructor
  · rintro ⟨c, hc⟩
    obtain ⟨w, hw, hm⟩ := mem_ends.1 hc
    exact ⟨w, c.rest, hw.1, hm⟩
  · rintro ⟨w, z, rfl, hm⟩
    exact ⟨⟨w.getLast?.or last, z⟩, mem_ends.2 ⟨w, ⟨rfl, rfl⟩, hm⟩⟩

/-- A search succeeds exactly if the pattern matches somewhere. -/
theorem searchFrom_iff {r : Regex} {last : Option Char} {text : List Char} :
    r.searchFrom word last text ↔
      ∃ x w z, text = x ++ w ++ z ∧ r.Matches word (x.getLast?.or last) w z.head? := by
  have hends : ∀ last text, (!(r.ends word ⟨last, text⟩).isEmpty) = true ↔
      ∃ w z, text = w ++ z ∧ r.Matches word last w z.head? := by
    intro last text
    rw [← exists_mem_ends]
    simp [← List.isEmpty_eq_false_iff_exists_mem]
  induction text generalizing last with
  | nil =>
    rw [searchFrom, hends]
    constructor
    · rintro ⟨w, z, hw, hm⟩
      exact ⟨[], w, z, hw, hm⟩
    · rintro ⟨x, w, z, hw, hm⟩
      obtain ⟨hxw, rfl⟩ := List.append_eq_nil_iff.1 hw.symm
      obtain ⟨rfl, rfl⟩ := List.append_eq_nil_iff.1 hxw
      exact ⟨[], [], rfl, hm⟩
  | cons y rest ih =>
    rw [searchFrom, Bool.or_eq_true, hends]
    refine (or_congr_right ih).trans ⟨?_, ?_⟩
    · rintro (⟨w, z, hw, hm⟩ | ⟨x, w, z, rfl, hm⟩)
      · exact ⟨[], w, z, hw, hm⟩
      · exact ⟨y :: x, w, z, rfl, by simpa [List.getLast?_cons] using hm⟩
    · rintro ⟨x, w, z, hw, hm⟩
      cases x with
      | nil => exact .inl ⟨w, z, hw, hm⟩
      | cons x xs =>
        obtain ⟨rfl, rfl⟩ := List.cons.inj hw
        exact .inr ⟨xs, w, z, rfl, by simpa [List.getLast?_cons] using hm⟩

/-- A search succeeds if the expression matches a part of the text where it stands. -/
theorem search_iff {r : Regex} {text : List Char} :
    r.search word text ↔ ∃ x w z, text = x ++ w ++ z ∧ r.Matches word x.getLast? w z.head? := by
  simp [search, searchFrom_iff]

/-- A line is matched if the expression matches all of it, but for a line break at the end. -/
theorem matchLine_iff {r : Regex} {text : List Char} :
    r.matchLine word text ↔
      ∃ w z, text = w ++ z ∧ (z = [] ∨ z = ['\n']) ∧ r.Matches word none w z.head? := by
  simp only [matchLine, List.any_eq_true, Bool.or_eq_true, beq_iff_eq]
  constructor
  · rintro ⟨c, hc, hend⟩
    obtain ⟨w, hw, hm⟩ := mem_ends.1 hc
    exact ⟨w, c.rest, hw.1, hend, hm⟩
  · rintro ⟨w, z, rfl, hend, hm⟩
    exact ⟨⟨w.getLast?.or none, z⟩, mem_ends.2 ⟨w, ⟨rfl, rfl⟩, hm⟩, hend⟩

/-! ## What can be read off an expression -/

/-- The expression does not look at what is around the match. -/
def NoBoundary : Regex → Prop
  | .boundary => False
  | .seq a b | .alt a b => NoBoundary a ∧ NoBoundary b
  | _ => True

/-- A pattern without boundaries matches a text wherever that stands. -/
theorem Matches.elsewhere {r : Regex} {last last' next next' : Option Char} {w : List Char}
    (hr : r.NoBoundary) (h : r.Matches word last w next) : r.Matches word last' w next' := by
  induction r generalizing last last' next next' w with
  | empty | set _ | star _ | lazyStar _ => exact h
  | boundary => exact hr.elim
  | seq a b iha ihb =>
    obtain ⟨u, v, rfl, hu, hv⟩ := h
    exact ⟨u, v, rfl, iha hr.1 hu, ihb hr.2 hv⟩
  | alt a b iha ihb => exact h.imp (iha hr.1) (ihb hr.2)

/-- Of what is around a match, only the word boundaries count. -/
theorem Matches.congr_word {r : Regex} {last last' next next' : Option Char} {w : List Char}
    (hlast : last.any word = last'.any word) (hnext : next.any word = next'.any word)
    (h : r.Matches word last w next) : r.Matches word last' w next' := by
  induction r generalizing last last' next next' w with
  | empty | set _ | star _ | lazyStar _ => exact h
  | boundary =>
    obtain ⟨rfl, h⟩ := h
    rw [isBoundary, hlast, hnext] at h
    exact ⟨rfl, h⟩
  | seq a b iha ihb =>
    obtain ⟨u, v, rfl, hu, hv⟩ := h
    refine ⟨u, v, rfl, iha hlast ?_ hu, ihb ?_ hnext hv⟩
    · cases v.head? with
      | none => exact hnext
      | some _ => rfl
    · cases u.getLast? with
      | none => exact hlast
      | some _ => rfl
  | alt a b iha ihb => exact h.imp (iha hlast hnext) (ihb hlast hnext)

/-- The character is in none of the sets of the expression. -/
def Rejects (c : Char) : Regex → Prop
  | .set p | .star p | .lazyStar p => p c = false
  | .seq a b | .alt a b => Rejects c a ∧ Rejects c b
  | _ => True

instance decidableRejects (c : Char) : ∀ r : Regex, Decidable (r.Rejects c)
  | .empty | .boundary => .isTrue trivial
  | .set p | .star p | .lazyStar p => inferInstanceAs (Decidable (p c = false))
  | .seq a b | .alt a b => @instDecidableAnd _ _ (decidableRejects c a) (decidableRejects c b)

/-- A pattern that takes no character of a kind matches no text with one. -/
theorem Matches.not_mem {c : Char} {r : Regex} {last next : Option Char} {w : List Char}
    (hr : r.Rejects c) (h : r.Matches word last w next) : c ∉ w := by
  induction r generalizing last next w with
  | empty =>
    obtain rfl := h
    simp
  | set p =>
    obtain ⟨x, rfl, hx⟩ := h
    rintro hc
    obtain rfl := List.mem_singleton.1 hc
    rw [show p c = false from hr] at hx
    cases hx
  | boundary =>
    obtain ⟨rfl, _⟩ := h
    simp
  | seq a b iha ihb =>
    obtain ⟨u, v, rfl, hu, hv⟩ := h
    intro hc
    rcases List.mem_append.1 hc with hc | hc
    · exact iha hr.1 hu hc
    · exact ihb hr.2 hv hc
  | alt a b iha ihb => exact h.elim (iha hr.1) (ihb hr.2)
  | star p | lazyStar p =>
    intro hc
    have hx := h c hc
    rw [show p c = false from hr] at hx
    cases hx

/-- A repeated pattern takes no more kinds of characters than the pattern. -/
theorem Rejects.times {c : Char} {r : Regex} (h : r.Rejects c) : ∀ n, (r.times n).Rejects c
  | 0 => trivial
  | n + 1 => ⟨h, Rejects.times h n⟩

/-- Neither does one that is repeated up to a number of times. -/
theorem Rejects.upTo {c : Char} {r : Regex} (h : r.Rejects c) : ∀ n, (r.upTo n).Rejects c
  | 0 => trivial
  | n + 1 => ⟨⟨h, Rejects.upTo h n⟩, trivial⟩

/-- Neither does one that is repeated between two numbers of times. -/
theorem Rejects.repeated {c : Char} {r : Regex} (h : r.Rejects c) (m n : Nat) :
    (r.repeated m n).Rejects c :=
  ⟨h.times m, h.upTo (n - m)⟩

/-- Every match has a character that satisfies `P`. -/
def Needs (P : Char → Prop) : Regex → Prop
  | .set p => ∀ x, p x → P x
  | .seq a b => Needs P a ∨ Needs P b
  | .alt a b => Needs P a ∧ Needs P b
  | _ => False

/-- A pattern that needs a character of a kind matches only texts with one. -/
theorem Matches.needs {P : Char → Prop} {r : Regex} {last next : Option Char} {w : List Char}
    (hr : r.Needs P) (h : r.Matches word last w next) : ∃ x ∈ w, P x := by
  induction r generalizing last next w with
  | set p =>
    obtain ⟨x, rfl, hx⟩ := h
    exact ⟨x, by simp, hr x hx⟩
  | seq a b iha ihb =>
    obtain ⟨u, v, rfl, hu, hv⟩ := h
    rcases hr with hr | hr
    · obtain ⟨x, hx, hP⟩ := iha hr hu
      exact ⟨x, List.mem_append_left _ hx, hP⟩
    · obtain ⟨x, hx, hP⟩ := ihb hr hv
      exact ⟨x, List.mem_append_right _ hx, hP⟩
  | alt a b iha ihb => exact h.elim (iha hr.1) (ihb hr.2)
  | empty | boundary | star _ | lazyStar _ => exact hr.elim

/-- Every match begins with a character that satisfies `P`. -/
def Begins (P : Char → Prop) : Regex → Prop
  | .set p => ∀ x, p x → P x
  | .seq a b => Begins P a ∨ a = .boundary ∧ Begins P b
  | .alt a b => Begins P a ∧ Begins P b
  | _ => False

/-- One that begins with such a character matches only texts that do. -/
theorem Matches.begins {P : Char → Prop} {r : Regex} {last next : Option Char} {w : List Char}
    (hr : r.Begins P) (h : r.Matches word last w next) : ∃ x ∈ w.head?, P x := by
  induction r generalizing last next w with
  | set p =>
    obtain ⟨x, rfl, hx⟩ := h
    exact ⟨x, rfl, hr x hx⟩
  | seq a b iha ihb =>
    obtain ⟨u, v, rfl, hu, hv⟩ := h
    rcases hr with hr | ⟨rfl, hr⟩
    · obtain ⟨x, hx, hP⟩ := iha hr hu
      exact ⟨x, by simp [List.head?_append, Option.mem_def.1 hx], hP⟩
    · obtain ⟨rfl, _⟩ := hu
      exact ihb hr hv
  | alt a b iha ihb => exact h.elim (iha hr.1) (ihb hr.2)
  | empty | boundary | star _ | lazyStar _ => exact hr.elim

/-! ## Where a greedy quantifier stops -/

/-- The first end of a star is the longest: the next character is not of its class. -/
theorem head?_starEnds {p : Char → Bool} {last : Option Char} {rest : List Char} {c : Cursor}
    (h : (starEnds p last rest).head? = some c) : ∀ x ∈ c.rest.head?, ¬p x := by
  induction rest generalizing last with
  | nil =>
    cases h
    simp
  | cons x rest ih =>
    rw [starEnds] at h
    split at h
    case isTrue =>
      cases hs : (starEnds p (some x) rest).head? with
      | none =>
        have hmem : (⟨some x, rest⟩ : Cursor) ∈ starEnds p (some x) rest :=
          mem_starEnds.2 ⟨[], by simp⟩
        rw [List.head?_eq_none_iff] at hs
        rw [hs] at hmem
        cases hmem
      | some c' =>
        rw [List.head?_append, hs] at h
        cases h
        exact ih hs
    case isFalse hx =>
      cases h
      simpa using hx

/-- The first result of two steps comes from a first step, as its first result. -/
theorem head?_flatMap {α β : Type} {l : List α} {f : α → List β} {y : β}
    (h : (l.flatMap f).head? = some y) : ∃ x ∈ l, (f x).head? = some y := by
  induction l with
  | nil => cases h
  | cons x l ih =>
    rw [List.flatMap_cons, List.head?_append] at h
    cases hx : (f x).head? with
    | some y' =>
      rw [hx] at h
      cases h
      exact ⟨x, by simp, hx⟩
    | none =>
      rw [hx, Option.none_or] at h
      obtain ⟨x', hx', hy⟩ := ih h
      exact ⟨x', List.mem_cons_of_mem _ hx', hy⟩

/-- A value behind anything, and an optional mark behind the value: the match ends with a mark, or where no
character of a value follows. -/
theorem first_marked {a : Regex} {p q : Char → Bool} {c c' : Cursor}
    (h : (Regex.seq a (.seq (.plus p) (.opt (.set q)))).first word c = some c') :
    (∃ x ∈ c'.last, q x) ∨ ∀ x ∈ c'.rest.head?, ¬p x := by
  obtain ⟨c₁, _, h⟩ := head?_flatMap h
  obtain ⟨c₂, h₂, h⟩ : ∃ c₂, ((Regex.plus p).ends word c₁).head? = some c₂ ∧
      ((Regex.opt (.set q)).ends word c₂).head? = some c' := by
    rw [ends] at h
    cases hl : (Regex.plus p).ends word c₁ with
    | nil =>
      rw [hl] at h
      cases h
    | cons c₂ l =>
      refine ⟨c₂, rfl, ?_⟩
      rw [hl, List.flatMap_cons, List.head?_append] at h
      cases hq : ((Regex.opt (.set q)).ends word c₂).head? with
      | none => simp [Regex.opt, ends] at hq
      | some c₃ =>
        rw [hq] at h
        exact h
  obtain ⟨c₃, _, h₃⟩ := head?_flatMap h₂
  have hstop := head?_starEnds h₃
  obtain ⟨last, rest⟩ := c₂
  cases rest with
  | nil =>
    cases h
    exact .inr hstop
  | cons x rest =>
    simp only [Regex.opt, ends] at h
    split at h
    case isTrue hq =>
      cases h
      exact .inl ⟨x, rfl, hq⟩
    case isFalse =>
      cases h
      exact .inr hstop

/-! ## The pieces of a text -/

/-- The match at a place takes the characters `w` and leaves `rest`. -/
def Finds (word : Char → Bool) (r : Regex) (last : Option Char) (w rest : List Char) : Prop :=
  r.first word ⟨last, w ++ rest⟩ = some ⟨w.getLast?.or last, rest⟩

/-- What a scan finds is a match. -/
theorem Finds.matches {r : Regex} {last : Option Char} {w rest : List Char}
    (h : r.Finds word last w rest) : r.Matches word last w rest.head? := by
  obtain ⟨w', hw, hm⟩ := mem_ends.1 (List.mem_of_head? h)
  rwa [List.append_cancel_right hw.1]

/-- A match that is not empty is found with its text. -/
theorem finds_of_width {r : Regex} {last : Option Char} {text : List Char} {n : Nat}
    (h : r.width word ⟨last, text⟩ = n + 1) :
    ∃ w rest, text = w ++ rest ∧ w.length = n + 1 ∧ r.Finds word last w rest := by
  rw [width] at h
  split at h
  case h_1 c hfirst =>
    obtain ⟨w, hw, _⟩ := mem_ends.1 (List.mem_of_head? hfirst)
    have hrest : text = w ++ c.rest := hw.1
    have hlast : c = ⟨w.getLast?.or last, c.rest⟩ := Cursor.ext hw.2 rfl
    refine ⟨w, c.rest, hrest, ?_, ?_⟩
    · simp only [hrest, List.length_append] at h
      omega
    · rw [Finds, ← hrest, hfirst, ← hlast]
  case h_2 => cases h

/-- Where there is no match, there is none of a character or more. -/
theorem width_eq_zero {r : Regex} {last : Option Char} {w rest : List Char} {P : Char → Prop}
    (hr : r.Begins P) (h : r.width word ⟨last, w ++ rest⟩ = 0) :
    ¬r.Matches word last w rest.head? := by
  intro hm
  obtain ⟨c, hc⟩ := exists_mem_ends.2 ⟨w, rest, rfl, hm⟩
  rw [width] at h
  split at h
  case h_1 c' hfirst =>
    obtain ⟨w', hw, hm'⟩ := mem_ends.1 (List.mem_of_head? hfirst)
    obtain ⟨x, hx, _⟩ := hm'.begins hr
    have hlen := congrArg List.length hw.1
    cases w' with
    | nil => cases hx
    | cons y w' =>
      simp only [List.length_append, List.length_cons] at hlen h
      omega
  case h_2 hfirst =>
    rw [first, List.head?_eq_none_iff] at hfirst
    rw [hfirst] at hc
    cases hc

/-- How the matches in a text are found: one after another from the left. -/
inductive Scanned (word : Char → Bool) (r : Regex) : Option Char → List Char → List Piece → Prop
  | nil (last) : Scanned word r last [] []
  | kept {last x rest ps} : r.width word ⟨last, x :: rest⟩ = 0 → Scanned word r (some x) rest ps →
      Scanned word r last (x :: rest) (.kept x :: ps)
  | hit {last w rest ps} : w ≠ [] → r.Finds word last w rest →
      Scanned word r (w.getLast?.or last) rest ps → Scanned word r last (w ++ rest) (.hit w :: ps)

/-- The characters of the match that was found last are passed over. -/
theorem scan_length {r : Regex} {last : Option Char} {w rest : List Char} :
    r.scan word w.length last (w ++ rest) = r.scan word 0 (w.getLast?.or last) rest := by
  induction w generalizing last with
  | nil => rfl
  | cons x w ih =>
    rw [List.length_cons, List.cons_append, scan, ih, or_getLast?_cons]

/-- A scan divides the text into what it has found and what it has kept. -/
theorem scanned_scan (r : Regex) (last : Option Char) (text : List Char) :
    r.Scanned word last text (r.scan word 0 last text) := by
  induction hn : text.length using Nat.strongRecOn generalizing last text with
  | ind n ih =>
    cases text with
    | nil => exact .nil last
    | cons x rest =>
      rw [scan]
      split
      case h_1 hwidth =>
        exact .kept hwidth (ih rest.length (by simp [← hn]) _ _ rfl)
      case h_2 n' hwidth =>
        obtain ⟨w, z, htext, hlen, hfinds⟩ := finds_of_width hwidth
        cases w with
        | nil => cases hlen
        | cons y w =>
          obtain ⟨rfl, htail⟩ := List.cons.inj htext
          obtain rfl : rest = w ++ z := htail
          obtain rfl : w.length = n' := Nat.succ.inj hlen
          have htake : (x :: (w ++ z)).take (w.length + 1) = x :: w := by simp
          rw [htake, scan_length, ← or_getLast?_cons]
          refine .hit (List.cons_ne_nil x w) hfinds (ih z.length ?_ _ _ rfl)
          simp only [← hn, List.length_append, List.length_cons]
          omega

namespace Scanned

variable {r : Regex} {last : Option Char} {text : List Char} {ps qs : List Piece}

/-- The pieces make up the text. -/
theorem text_eq (h : r.Scanned word last text ps) : ps.flatMap Piece.text = text := by
  induction h with
  | nil => rfl
  | kept _ _ ih => simp [Piece.text, ih]
  | hit _ _ _ ih => simp [Piece.text, ih]

/-- What comes behind some of the pieces is scanned from there on. -/
theorem behind (h : r.Scanned word last text (ps ++ qs)) :
    r.Scanned word ((ps.flatMap Piece.text).getLast?.or last) (qs.flatMap Piece.text) qs := by
  induction ps generalizing last text with
  | nil =>
    have htext := h.text_eq
    subst htext
    exact h
  | cons p ps ih =>
    rw [List.flatMap_cons, List.getLast?_append, Option.or_assoc]
    cases h with
    | kept _ h => exact ih h
    | hit _ _ h => exact ih h

/-- At a kept character nothing is found. -/
theorem kept_at {x : Char} (h : r.Scanned word last text (ps ++ .kept x :: qs)) :
    r.width word ⟨(ps.flatMap Piece.text).getLast?.or last, x :: qs.flatMap Piece.text⟩ = 0 := by
  have hq := h.behind
  generalize htext : (Piece.kept x :: qs).flatMap Piece.text = text' at hq
  cases hq with
  | kept hwidth hq => rwa [hq.text_eq]

/-- A hit is what is found where it stands. -/
theorem hit_at {w : List Char} (h : r.Scanned word last text (ps ++ .hit w :: qs)) :
    r.Finds word ((ps.flatMap Piece.text).getLast?.or last) w (qs.flatMap Piece.text) := by
  have hq := h.behind
  generalize htext : (Piece.hit w :: qs).flatMap Piece.text = text' at hq
  cases hq with
  | hit _ hfinds hq => rwa [hq.text_eq]

end Scanned

end

end Regex
