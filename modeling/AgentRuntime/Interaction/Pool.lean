import AgentRuntime.Interaction.Prog

/-!
# Programs that share a state

A `Pool` is a list of programs, its threads, over one shared state. A schedule is a list of actions:
a thread makes its next call, which is answered at once (`Rules.answer`), or something outside the
threads changes the shared state (`Rules.outside`). An action carries what the rules leave open, so
a statement over all schedules is one over all interleavings and all behaviours of the outside.

The pool also keeps the trace of the calls made. What one action can do is said once, in
`step_cases`; an invariant follows by `run_induction`, and for schedules whose actions all meet a
condition where they are taken by `run_induction_of_meets`. `Pool.Guaranteed` is the assume-guarantee
rule: threads that guarantee calls in `P` under answers in `A`, over rules that answer such calls
according to `A`.
-/

namespace Interaction

/-- How calls are answered and how the shared state changes otherwise. `C` and `E` are what is left
open of the two. -/
structure Rules (Op : Type) (Ans : Op → Type) (S C E : Type) where
  answer : C → Nat → (o : Op) → S → Ans o × S
  outside : E → S → S

/-- An action of a schedule. -/
inductive Act (C E : Type) where
  | thread (i : Nat) (c : C)
  | outside (e : E)

/-- Programs, the state they share, and the calls they made, each with its thread. -/
structure Pool (Op : Type) (Ans : Op → Type) (α S : Type) where
  threads : List (Prog Op Ans α)
  shared : S
  trace : List (Nat × Op) := []

variable {Op : Type} {Ans : Op → Type} {α S C E : Type}

/-- Rules that, in a state satisfying `J`, answer a thread's calls in `P` according to `A` and keep
`J`. -/
structure Rules.Respect (rules : Rules Op Ans S C E) (J : S → Prop) (A : (o : Op) → Ans o → Prop)
    (P : Nat → Op → Prop) : Prop where
  answer : ∀ c i o s, J s → P i o → A o (rules.answer c i o s).1 ∧ J (rules.answer c i o s).2
  outside : ∀ e s, J s → J (rules.outside e s)

namespace Pool

/-- One action: a finished or missing thread does nothing. -/
def step (rules : Rules Op Ans S C E) (p : Pool Op Ans α S) : Act C E → Pool Op Ans α S
  | .outside e => { p with shared := rules.outside e p.shared }
  | .thread i c =>
    match p.threads[i]? with
    | some (.call o k) =>
      let r := rules.answer c i o p.shared
      { threads := p.threads.set i (k r.1), shared := r.2, trace := p.trace ++ [(i, o)] }
    | _ => p

/-- The actions of a schedule, one after another. -/
def run (rules : Rules Op Ans S C E) (p : Pool Op Ans α S) (schedule : List (Act C E)) :
    Pool Op Ans α S :=
  schedule.foldl (step rules) p

/-- What thread `i` has returned, if it has. -/
def ending (p : Pool Op Ans α S) (i : Nat) : Option α := p.threads[i]?.bind Prog.returned

variable {rules : Rules Op Ans S C E} {p : Pool Op Ans α S}

/-- A thread has ended exactly if its program has returned. -/
theorem ending_eq_some {i : Nat} {a : α} : p.ending i = some a ↔ p.threads[i]? = some (.ret a) := by
  cases h : p.threads[i]? <;> simp [ending, h, Prog.returned_eq_some]

/-- Without actions nothing changes. -/
@[simp] theorem run_nil : p.run rules [] = p := rfl

/-- A run takes its first action, and goes on. -/
@[simp] theorem run_cons (a : Act C E) (schedule : List (Act C E)) :
    p.run rules (a :: schedule) = (p.step rules a).run rules schedule := rfl

/-- A run of two schedules is one run after the other. -/
theorem run_append (schedule schedule' : List (Act C E)) :
    p.run rules (schedule ++ schedule') = (p.run rules schedule).run rules schedule' :=
  List.foldl_append

/-- What an action can do: nothing, a change from outside, or one call of one thread. -/
theorem step_cases (rules : Rules Op Ans S C E) (p : Pool Op Ans α S) (a : Act C E) :
    p.step rules a = p ∨
    (∃ e, a = .outside e ∧ p.step rules a = { p with shared := rules.outside e p.shared }) ∨
    (∃ i c o k, a = .thread i c ∧ p.threads[i]? = some (.call o k) ∧
      p.step rules a =
        { threads := p.threads.set i (k (rules.answer c i o p.shared).1),
          shared := (rules.answer c i o p.shared).2, trace := p.trace ++ [(i, o)] }) := by
  cases a with
  | outside e => exact .inr (.inl ⟨e, rfl, rfl⟩)
  | thread i c =>
    rcases h : p.threads[i]? with _ | _ | ⟨o, k⟩ | _
    · exact .inl (by simp [step, h])
    · exact .inl (by simp [step, h])
    · exact .inr (.inr ⟨i, c, o, k, rfl, h, by simp [step, h]⟩)
    · exact .inl (by simp [step, h])

/-- The thread makes its call. -/
theorem step_of_call {i : Nat} {o : Op} {k : Ans o → Prog Op Ans α}
    (h : p.threads[i]? = some (.call o k)) (c : C) :
    p.step rules (.thread i c) =
      { threads := p.threads.set i (k (rules.answer c i o p.shared).1),
        shared := (rules.answer c i o p.shared).2, trace := p.trace ++ [(i, o)] } := by
  simp [step, h]

/-- The thread has no call to make. -/
theorem step_of_no_call {i : Nat} (h : ∀ o k, p.threads[i]? ≠ some (.call o k)) (c : C) :
    p.step rules (.thread i c) = p := by
  rcases p.step_cases rules (.thread i c) with hp | ⟨e, ha, -⟩ | ⟨j, c', o, k, ha, hi, -⟩
  · exact hp
  · cases ha
  · cases ha
    exact absurd hi (h o k)

/-- An action starts no thread and ends none. -/
@[simp] theorem length_threads_step (a : Act C E) :
    (p.step rules a).threads.length = p.threads.length := by
  rcases p.step_cases rules a with hp | ⟨e, -, hp⟩ | ⟨i, c, o, k, -, hi, hp⟩ <;> rw [hp]
  exact List.length_set

/-- What every action keeps, every schedule keeps. -/
theorem run_induction {I : Pool Op Ans α S → Prop} (hstep : ∀ p a, I p → I (p.step rules a))
    (hp : I p) (schedule : List (Act C E)) : I (p.run rules schedule) := by
  induction schedule generalizing p with
  | nil => exact hp
  | cons a schedule ih => exact ih (hstep p a hp)

/-- So a run has the threads that it started with. -/
@[simp] theorem length_threads_run (schedule : List (Act C E)) :
    (p.run rules schedule).threads.length = p.threads.length :=
  run_induction (I := fun p' => p'.threads.length = p.threads.length)
    (fun _ a h => (length_threads_step a).trans h) rfl schedule

/-- Every action of the schedule meets `condition` in the pool it is taken in. -/
def Meets (rules : Rules Op Ans S C E) (condition : Pool Op Ans α S → Act C E → Prop)
    (p : Pool Op Ans α S) : List (Act C E) → Prop
  | [] => True
  | a :: schedule => condition p a ∧ Meets rules condition (p.step rules a) schedule

/-- The actions meet two conditions. -/
theorem Meets.and {condition condition' : Pool Op Ans α S → Act C E → Prop} {schedule : List (Act C E)}
    (h : Meets rules condition p schedule) (h' : Meets rules condition' p schedule) :
    Meets rules (fun p a => condition p a ∧ condition' p a) p schedule := by
  induction schedule generalizing p with
  | nil => trivial
  | cons a schedule ih => exact ⟨⟨h.1, h'.1⟩, ih h.2 h'.2⟩

/-- A condition that every action of the schedule meets in any pool. -/
theorem meets_of_forall_mem {condition : Pool Op Ans α S → Act C E → Prop} {schedule : List (Act C E)}
    (h : ∀ p a, a ∈ schedule → condition p a) : Meets rules condition p schedule := by
  induction schedule generalizing p with
  | nil => trivial
  | cons a schedule ih =>
    exact ⟨h p a List.mem_cons_self, ih fun p b hb => h p b (List.mem_cons_of_mem a hb)⟩

/-- Less may be asked of the actions. -/
theorem Meets.mono {condition condition' : Pool Op Ans α S → Act C E → Prop}
    (h : ∀ p a, condition p a → condition' p a) {schedule : List (Act C E)}
    (hmeets : Meets rules condition p schedule) : Meets rules condition' p schedule := by
  induction schedule generalizing p with
  | nil => trivial
  | cons a schedule ih => exact ⟨h p a hmeets.1, ih hmeets.2⟩

/-- What every action that meets the condition keeps, every schedule of such actions keeps. -/
theorem run_induction_of_meets {I : Pool Op Ans α S → Prop}
    {condition : Pool Op Ans α S → Act C E → Prop}
    (hstep : ∀ p a, condition p a → I p → I (p.step rules a)) (hp : I p)
    {schedule : List (Act C E)} (hmeets : Meets rules condition p schedule) :
    I (p.run rules schedule) := by
  induction schedule generalizing p with
  | nil => exact hp
  | cons a schedule ih => exact ih (hstep p a hmeets.1 hp) hmeets.2

/-- A condition that says of each action whether it keeps `I` is met along a schedule exactly if `I`
holds after each of its actions. -/
theorem meets_iff_of_keeps {I K : Pool Op Ans α S → Prop}
    {condition : Pool Op Ans α S → Act C E → Prop} (hK : ∀ p a, K p → K (p.step rules a))
    (hiff : ∀ p a, K p → I p → (condition p a ↔ I (p.step rules a))) (hp : K p) (hI : I p)
    {schedule : List (Act C E)} :
    Meets rules condition p schedule ↔
      ∀ schedule', schedule' <+: schedule → I (p.run rules schedule') := by
  induction schedule generalizing p with
  | nil =>
    refine iff_of_true trivial fun schedule' h => ?_
    rw [List.prefix_nil.1 h]
    exact hI
  | cons a schedule ih =>
    constructor
    · rintro ⟨ha, hschedule⟩ schedule' h
      rcases List.prefix_cons_iff.1 h with rfl | ⟨rest, rfl, hrest⟩
      · exact hI
      · exact (ih (hK p a hp) ((hiff p a hp hI).1 ha)).1 hschedule rest hrest
    · intro h
      have hI' : I (p.step rules a) := h [a] ⟨schedule, rfl⟩
      refine ⟨(hiff p a hp hI).2 hI', (ih (hK p a hp) hI').2 fun rest hrest => ?_⟩
      exact h (a :: rest) (List.cons_prefix_cons.2 ⟨rfl, hrest⟩)

/-- Whether an action meets a condition that is decidable can be computed along the schedule. -/
instance decidableMeets (condition : Pool Op Ans α S → Act C E → Prop)
    [∀ p a, Decidable (condition p a)] (p : Pool Op Ans α S) :
    (schedule : List (Act C E)) → Decidable (Meets rules condition p schedule)
  | [] => inferInstanceAs (Decidable True)
  | _ :: schedule => @instDecidableAnd _ _ _ (decidableMeets condition _ schedule)

/-! ## Assumptions and guarantees -/

variable {J : S → Prop} {A : (o : Op) → Ans o → Prop} {P : Nat → Op → Prop} {Q : Nat → α → Prop}

/-- Threads that each keep to their `P` and `Q` as long as they are answered according to `A`, a
shared state that satisfies `J`, and a trace of calls that each thread may make. -/
structure Guaranteed (J : S → Prop) (A : (o : Op) → Ans o → Prop) (P : Nat → Op → Prop)
    (Q : Nat → α → Prop) (p : Pool Op Ans α S) : Prop where
  threads : ∀ (i : Nat) (q : Prog Op Ans α), p.threads[i]? = some q → q.Guar A (P i) (Q i)
  shared : J p.shared
  trace : ∀ c ∈ p.trace, P c.1 c.2

/-- One action keeps a guarantee. -/
theorem Guaranteed.step (hrules : rules.Respect J A P) (h : p.Guaranteed J A P Q) (a : Act C E) :
    (p.step rules a).Guaranteed J A P Q := by
  rcases p.step_cases rules a with hp | ⟨e, -, hp⟩ | ⟨i, c, o, k, -, hi, hp⟩ <;> rw [hp]
  · exact h
  · exact ⟨h.threads, hrules.outside e _ h.shared, h.trace⟩
  · obtain ⟨hP, hk⟩ := h.threads i _ hi
    obtain ⟨hA, hJ⟩ := hrules.answer c i o _ h.shared hP
    refine ⟨fun j q hj => ?_, hJ, fun call hcall => ?_⟩
    · by_cases hij : i = j
      · subst hij
        rw [List.getElem?_set_self (List.getElem?_eq_some_iff.1 hi).1] at hj
        cases hj
        exact hk _ hA
      · rw [List.getElem?_set_ne hij] at hj
        exact h.threads j q hj
    · rcases List.mem_append.1 hcall with hcall | hcall
      · exact h.trace call hcall
      · rw [List.mem_singleton.1 hcall]; exact hP

/-- What a thread returns is what it guarantees. -/
theorem Guaranteed.ending (h : p.Guaranteed J A P Q) {i : Nat} {a : α} (hi : p.ending i = some a) :
    Q i a :=
  h.threads i _ (ending_eq_some.1 hi)

/-- Every schedule keeps a guarantee. -/
theorem Guaranteed.run (hrules : rules.Respect J A P) (h : p.Guaranteed J A P Q)
    (schedule : List (Act C E)) : (p.run rules schedule).Guaranteed J A P Q :=
  run_induction (fun _ a h => h.step hrules a) h schedule

end Pool

end Interaction
