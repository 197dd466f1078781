import Mathlib.Data.List.Infix

/-!
# Sequences of calls on one object

An object is called again and again: `step a s` is what the call `a` makes of the object `s`, whether
it returns or raises, and `after step s calls` what a sequence of calls makes of it. `Along` says
something of each call of a sequence and the object it is made on.

An invariant holds after every sequence by `after_induction`, and a relation between two objects that
are called alike by `after_of_simulation`. `observed` collects what is observed of the calls, and a
part of the object may depend on nothing else (`after_observed`), or only on the calls that concern
it (`after_filterMap`). Two statements about the calls of a sequence that agree call by call agree
along it (`along_iff`). A reflexive and transitive relation holds between the object before and after
each call exactly if it holds between the objects of any two moments (`along_iff_between`). `Leads` is
a chain of states, each an edge away from the one before.
-/

namespace Interaction

variable {A S : Type} {step : A → S → S} {s : S}

/-- The object after the calls. -/
def after (step : A → S → S) (s : S) (calls : List A) : S := calls.foldl (fun s a => step a s) s

/-- No calls leave the state. -/
@[simp] theorem after_nil : after step s [] = s := rfl

/-- The calls after the first go on from what the first has left. -/
@[simp] theorem after_cons (a : A) (calls : List A) :
    after step s (a :: calls) = after step (step a s) calls := rfl

/-- The later of two sequences of calls goes on from what the earlier has left. -/
theorem after_append (calls calls' : List A) :
    after step s (calls ++ calls') = after step (after step s calls) calls' :=
  List.foldl_append

/-- What every call keeps, every sequence of calls keeps. -/
theorem after_induction {I : S → Prop} {calls : List A} (hs : I s)
    (hstep : ∀ s, ∀ a ∈ calls, I s → I (step a s)) : I (after step s calls) := by
  induction calls generalizing s with
  | nil => exact hs
  | cons a calls ih =>
    refine ih (hstep s a List.mem_cons_self hs) fun s' a' ha' => ?_
    exact hstep s' a' (List.mem_cons_of_mem a ha')

section
variable {T : Type} {step' : A → T → T}

/-- What every call leaves related, every sequence of calls leaves related. -/
theorem after_of_simulation {R : S → T → Prop} {t : T} (hstep : ∀ a s t, R s t → R (step a s) (step' a t))
    (h : R s t) (calls : List A) : R (after step s calls) (after step' t calls) := by
  induction calls generalizing s t with
  | nil => exact h
  | cons a calls ih => exact ih (hstep a s t h)

/-- A part of the object that the calls treat like an object of its own. -/
theorem after_map (part : S → T) (hstep : ∀ a s, part (step a s) = step' a (part s)) (calls : List A) (s : S) :
    part (after step s calls) = after step' (part s) calls := by
  refine after_of_simulation (R := fun s t => part s = t) ?_ rfl calls
  rintro a s _ rfl
  exact hstep a s

end

/-- What is observed of the calls, one after the other. -/
def observed {E : Type} (step : A → S → S) (observe : A → S → Option E) : S → List A → List E
  | _, [] => []
  | s, a :: calls => (observe a s).toList ++ observed step observe (step a s) calls

/-- A part of the object that a call changes by what is observed of it. -/
theorem after_observed {T E : Type} {step' : E → T → T} {observe : A → S → Option E} (part : S → T)
    (hstep : ∀ a s, part (step a s) = after step' (part s) (observe a s).toList) (calls : List A) (s : S) :
    part (after step s calls) = after step' (part s) (observed step observe s calls) := by
  induction calls generalizing s with
  | nil => rfl
  | cons a calls ih => rw [after_cons, ih, hstep, observed, after_append]

/-- What is observed is observed of a call. -/
theorem exists_of_mem_observed {E : Type} {observe : A → S → Option E} {calls : List A} {s : S} {e : E}
    (h : e ∈ observed step observe s calls) : ∃ a ∈ calls, ∃ s', observe a s' = some e := by
  induction calls generalizing s with
  | nil => cases h
  | cons a calls ih =>
    rcases List.mem_append.1 h with h | h
    · exact ⟨a, List.mem_cons_self, s, Option.mem_toList.1 h⟩
    · obtain ⟨a', ha', hobserve⟩ := ih h
      exact ⟨a', List.mem_cons_of_mem a ha', hobserve⟩

/-- What the things that are observed carry is observed itself. -/
theorem filterMap_observed {E F : Type} (observe : A → S → Option E) (f : E → Option F) (calls : List A) (s : S) :
    (observed step observe s calls).filterMap f = observed step (fun a s => (observe a s).bind f) s calls := by
  induction calls generalizing s with
  | nil => rfl
  | cons a calls ih =>
    rw [observed, observed, List.filterMap_append, ih]
    cases observe a s with
    | none => rfl
    | some e => cases hf : f e <;> simp [hf]

/-- A part of the object that is changed by the calls that concern it. -/
theorem after_filterMap {T E : Type} {step' : E → T → T} {concerns : A → Option E} (part : S → T)
    (hstep : ∀ a s, part (step a s) = after step' (part s) (concerns a).toList) (calls : List A) (s : S) :
    part (after step s calls) = after step' (part s) (calls.filterMap concerns) := by
  induction calls generalizing s with
  | nil => rfl
  | cons a calls ih =>
    rw [after_cons, ih, hstep, ← after_append]
    cases hconcerns : concerns a <;> simp [hconcerns]

/-- What is observed of such a part. -/
theorem observed_filterMap {T E F : Type} {step' : E → T → T} {concerns : A → Option E}
    {observe : A → S → Option F} {observe' : E → T → Option F} (part : S → T)
    (hstep : ∀ a s, part (step a s) = after step' (part s) (concerns a).toList)
    (hobserve : ∀ a s, observe a s = (concerns a).bind fun e => observe' e (part s)) (calls : List A) (s : S) :
    observed step observe s calls = observed step' observe' (part s) (calls.filterMap concerns) := by
  induction calls generalizing s with
  | nil => rfl
  | cons a calls ih =>
    rw [observed, ih, hstep, hobserve]
    cases hconcerns : concerns a <;> simp [hconcerns, observed]

/-- A value that a call sets, or leaves as it is, is the one that was set last. -/
theorem after_eq_latest {α : Type} (value : S → Option α) {given : A → Option α}
    (hstep : ∀ a s, value (step a s) = (given a).or (value s)) (calls : List A) (s : S) :
    value (after step s calls) = (calls.filterMap given).getLast?.or (value s) := by
  induction calls generalizing s with
  | nil => rfl
  | cons a calls ih =>
    rw [after_cons, ih, hstep]
    cases hgiven : given a with
    | none => rw [List.filterMap_cons_none hgiven, Option.none_or]
    | some x =>
      rw [List.filterMap_cons_some hgiven, List.getLast?_cons, Option.some_or, Option.some_or]
      cases (calls.filterMap given).getLast? <;> rfl

/-- `P` holds of each call and the object it is made on. -/
def Along (step : A → S → S) (P : S → A → Prop) : S → List A → Prop
  | _, [] => True
  | s, a :: calls => P s a ∧ Along step P (step a s) calls

/-- Nothing is demanded along no calls. -/
@[simp] theorem along_nil (P : S → A → Prop) : Along step P s [] := trivial

/-- Along a sequence, the condition holds at its first call and along the rest. -/
@[simp] theorem along_cons (P : S → A → Prop) (a : A) (calls : List A) :
    Along step P s (a :: calls) ↔ P s a ∧ Along step P (step a s) calls := Iff.rfl

/-- Whether a condition that is decidable holds along a sequence can be computed. -/
instance decidableAlong (P : S → A → Prop) [∀ s a, Decidable (P s a)] :
    (s : S) → (calls : List A) → Decidable (Along step P s calls)
  | _, [] => inferInstanceAs (Decidable True)
  | s, a :: calls => @instDecidableAnd _ _ _ (decidableAlong P (step a s) calls)

section
variable {P Q : S → A → Prop}

/-- Along two sequences, it holds along each, the second from where the first has led. -/
theorem along_append (calls calls' : List A) :
    Along step P s (calls ++ calls') ↔
      Along step P s calls ∧ Along step P (after step s calls) calls' := by
  induction calls generalizing s with
  | nil => simp
  | cons a calls ih => rw [List.cons_append, along_cons, along_cons, ih, after_cons, and_assoc]

/-- Two conditions that are met along the sequence are met together. -/
theorem Along.and {calls : List A} (h : Along step P s calls) (h' : Along step Q s calls) :
    Along step (fun s a => P s a ∧ Q s a) s calls := by
  induction calls generalizing s with
  | nil => trivial
  | cons a calls ih => exact ⟨⟨h.1, h'.1⟩, ih h.2 h'.2⟩

/-- What follows from a condition at each call of the sequence holds along it. -/
theorem Along.imp {calls : List A} (h : Along step P s calls)
    (himp : ∀ s, ∀ a ∈ calls, P s a → Q s a) : Along step Q s calls := by
  induction calls generalizing s with
  | nil => trivial
  | cons a calls ih =>
    refine ⟨himp s a List.mem_cons_self h.1, ih h.2 fun s' a' ha' => ?_⟩
    exact himp s' a' (List.mem_cons_of_mem a ha')

/-- What every call that meets a condition keeps, a sequence keeps along which it is met. -/
theorem Along.after_induction {I : S → Prop} {calls : List A} (h : Along step P s calls) (hs : I s)
    (hstep : ∀ s a, P s a → I s → I (step a s)) : I (after step s calls) := by
  induction calls generalizing s with
  | nil => exact hs
  | cons a calls ih => exact ih h.2 (hstep s a h.1 hs)

/-- What holds of every call of the sequence, on every object that satisfies an invariant, holds
along it. -/
theorem along_of_invariant {I : S → Prop} {calls : List A} (hs : I s)
    (hstep : ∀ s, ∀ a ∈ calls, I s → P s a ∧ I (step a s)) : Along step P s calls := by
  induction calls generalizing s with
  | nil => trivial
  | cons a calls ih =>
    obtain ⟨hP, hI⟩ := hstep s a List.mem_cons_self hs
    exact ⟨hP, ih hI fun s' a' ha' => hstep s' a' (List.mem_cons_of_mem a ha')⟩

/-- Two conditions agree along a sequence, if they agree on every object that satisfies an invariant
that calls meeting the first condition keep. -/
theorem along_iff {I : S → Prop} {calls : List A} (hs : I s)
    (hiff : ∀ s, ∀ a ∈ calls, I s → (P s a ↔ Q s a))
    (hstep : ∀ s, ∀ a ∈ calls, I s → P s a → I (step a s)) :
    Along step P s calls ↔ Along step Q s calls := by
  induction calls generalizing s with
  | nil => simp
  | cons a calls ih =>
    have ha := hiff s a List.mem_cons_self hs
    have hrest (hP : P s a) : Along step P (step a s) calls ↔ Along step Q (step a s) calls :=
      ih (hstep s a List.mem_cons_self hs hP)
        (fun s' a' ha' => hiff s' a' (List.mem_cons_of_mem a ha'))
        fun s' a' ha' => hstep s' a' (List.mem_cons_of_mem a ha')
    constructor
    · rintro ⟨hP, h⟩
      exact ⟨ha.1 hP, (hrest hP).1 h⟩
    · rintro ⟨hQ, h⟩
      exact ⟨ha.2 hQ, (hrest (ha.2 hQ)).2 h⟩

end

/-- `R` relates the objects of any two moments of a sequence of calls. -/
def Between (step : A → S → S) (R : S → S → Prop) (s : S) (calls : List A) : Prop :=
  ∀ calls₁ calls₂, calls₁ ++ calls₂ <+: calls →
    R (after step s calls₁) (after step s (calls₁ ++ calls₂))

section
variable {R : S → S → Prop} {calls : List A}

/-- A relation that every call of a sequence respects relates what comes out to what went in. -/
theorem after_related (hrefl : ∀ s, R s s) (htrans : ∀ {a b c}, R a b → R b c → R a c)
    (h : Along step (fun s a => R s (step a s)) s calls) : R s (after step s calls) := by
  induction calls generalizing s with
  | nil => exact hrefl s
  | cons a calls ih => exact htrans h.1 (ih h.2)

/-- A reflexive and transitive relation holds between any two moments exactly if it holds between
the object before and after each call. -/
theorem along_iff_between (hrefl : ∀ s, R s s) (htrans : ∀ {a b c}, R a b → R b c → R a c) :
    Between step R s calls ↔ Along step (fun s a => R s (step a s)) s calls := by
  constructor
  · intro h
    induction calls generalizing s with
    | nil => trivial
    | cons a calls ih =>
      refine ⟨h [] [a] ⟨calls, rfl⟩, ih fun calls₁ calls₂ hcalls => ?_⟩
      exact h (a :: calls₁) calls₂ (List.cons_prefix_cons.2 ⟨rfl, hcalls⟩)
  · rintro h calls₁ calls₂ ⟨calls₃, rfl⟩
    rw [along_append, along_append] at h
    rw [after_append]
    exact after_related hrefl htrans h.1.2

end

/-! ## Chains of states -/

/-- The pairs are edges of `R` that lead from `s` to `s'`, each from where the one before it led. -/
def Leads (R : S → S → Prop) : S → List (S × S) → S → Prop
  | s, [], s' => s = s'
  | s, edge :: edges, s' => edge.1 = s ∧ R edge.1 edge.2 ∧ Leads R edge.2 edges s'

section
variable {R : S → S → Prop} {s' : S} {edges : List (S × S)}

/-- No edges lead from a state to itself alone. -/
@[simp] theorem leads_nil : Leads R s [] s' ↔ s = s' := Iff.rfl

/-- A path starts with an edge of the relation, and goes on where that ends. -/
@[simp] theorem leads_cons (edge : S × S) :
    Leads R s (edge :: edges) s' ↔ edge.1 = s ∧ R edge.1 edge.2 ∧ Leads R edge.2 edges s' :=
  Iff.rfl

/-- A chain goes on with an edge from where it leads. -/
theorem Leads.concat {s'' : S} (h : Leads R s edges s') (hedge : R s' s'') :
    Leads R s (edges ++ [(s', s'')]) s'' := by
  induction edges generalizing s with
  | nil => exact ⟨h.symm, hedge, rfl⟩
  | cons edge edges ih => exact ⟨h.1, h.2.1, ih h.2.2⟩

/-- No chain leaves a state without outgoing edges. -/
theorem Leads.eq_of_final (h : Leads R s edges s') (hfinal : ∀ t, ¬R s t) : s' = s := by
  cases edges with
  | nil => exact h.symm
  | cons edge edges =>
    obtain ⟨rfl, hedge, -⟩ := h
    exact absurd hedge (hfinal _)

end

end Interaction
