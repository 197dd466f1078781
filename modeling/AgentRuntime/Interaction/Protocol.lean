import AgentRuntime.Interaction.Method
import AgentRuntime.Interaction.Pool
import Mathlib.Algebra.BigOperators.Group.Finset.Piecewise
import Mathlib.Logic.Function.Basic

/-!
# Threads that follow protocols

A `Protocol` says, for each phase a program is in, what it may call and return, and which phase an
answer leads to. `Prog.Follows` is the program's side. In a pool, each thread follows its protocol
while an invariant ties the phases to the shared state; `Pool.Following.run` keeps the invariant
along every schedule whose calls all meet a condition on the state they are made in.
-/

namespace Interaction

variable {Op : Type} {Ans : Op → Type} {ε σ α β S C E G : Type}

/-- What a program in phase `g` may call and return, and where an answer leads. -/
structure Protocol (Op : Type) (Ans : Op → Type) (α G : Type) where
  may : G → Op → Prop
  next : G → (o : Op) → Ans o → G
  returns : G → α → Prop

/-- Answered according to `A`, the program follows the protocol from phase `g` until it returns. -/
def Prog.Follows (A : (o : Op) → Ans o → Prop) (protocol : Protocol Op Ans α G) :
    G → Prog Op Ans α → Prop
  | g, .ret a => protocol.returns g a
  | g, .call o k => protocol.may g o ∧ ∀ r, A o r → (k r).Follows A protocol (protocol.next g o r)
  | _, .unfinished => False

/-- Rules that answer a call that is due and meets the condition according to `A`, and keep `J` with
the caller in its next phase. -/
structure Rules.Advance (rules : Rules Op Ans S C E) (A : (o : Op) → Ans o → Prop)
    (protocol : Nat → Protocol Op Ans α G) (J : (Nat → G) → S → Prop)
    (condition : Nat → Op → S → Prop) : Prop where
  answer : ∀ c i o s g, J g s → (protocol i).may (g i) o → condition i o s →
    A o (rules.answer c i o s).1 ∧
      J (Function.update g i ((protocol i).next (g i) o (rules.answer c i o s).1))
        (rules.answer c i o s).2
  outside : ∀ e s g, J g s → J g (rules.outside e s)

/-- As `Rules.Advance`, with a condition also on what an action leaves open. -/
structure Rules.AdvanceIf (rules : Rules Op Ans S C E) (A : (o : Op) → Ans o → Prop)
    (protocol : Nat → Protocol Op Ans α G) (J : (Nat → G) → S → Prop)
    (condition : C → Nat → Op → S → Prop) : Prop where
  answer : ∀ c i o s g, J g s → (protocol i).may (g i) o → condition c i o s →
    A o (rules.answer c i o s).1 ∧
      J (Function.update g i ((protocol i).next (g i) o (rules.answer c i o s).1))
        (rules.answer c i o s).2
  outside : ∀ e s g, J g s → J g (rules.outside e s)

/-- A condition that does not look at the choices of the environment is one that may. -/
theorem Rules.Advance.advanceIf {rules : Rules Op Ans S C E} {A : (o : Op) → Ans o → Prop}
    {protocol : Nat → Protocol Op Ans α G} {J : (Nat → G) → S → Prop}
    {condition : Nat → Op → S → Prop} (h : rules.Advance A protocol J condition) :
    rules.AdvanceIf A protocol J fun _ => condition :=
  ⟨h.answer, h.outside⟩

namespace Prog

variable {A : (o : Op) → Ans o → Prop} {protocol : Protocol Op Ans α G} {g : G}

/-- A program that has returned follows a protocol if it may return there. -/
@[simp] theorem follows_ret {a : α} :
    (ret a : Prog Op Ans α).Follows A protocol g ↔ protocol.returns g a := Iff.rfl

/-- A call follows it if it may be made there, and what follows goes on from the next phase. -/
@[simp] theorem follows_call {o : Op} {k : Ans o → Prog Op Ans α} :
    (call o k).Follows A protocol g ↔
      protocol.may g o ∧ ∀ r, A o r → (k r).Follows A protocol (protocol.next g o r) := Iff.rfl

end Prog

/-! ## Following a protocol in parts -/

/-- The protocol's calls, with other values to return. -/
def Protocol.returning (protocol : Protocol Op Ans β G) (R : G → α → Prop) : Protocol Op Ans α G where
  may := protocol.may
  next := protocol.next
  returns := R

/-- No call at all. -/
def Protocol.silent : Protocol Op Ans α G where
  may _ _ := False
  next g _ _ := g
  returns _ _ := True

section
variable {A : (o : Op) → Ans o → Prop} {g : G}

/-- A sequence follows a protocol, if its second part does from where the first returns. -/
theorem Prog.Follows.bind {protocol : Protocol Op Ans β G} {R : G → α → Prop} {p : Prog Op Ans α}
    {f : α → Prog Op Ans β} (hp : p.Follows A (protocol.returning R) g)
    (hf : ∀ g a, R g a → (f a).Follows A protocol g) : (p >>= f).Follows A protocol g := by
  induction p generalizing g with
  | ret a => exact hf g a hp
  | call o k ih => exact ⟨hp.1, fun r hr => ih r (hp.2 r hr)⟩
  | unfinished => exact hp

/-- What the protocol may call in each of its phases, the program guarantees. -/
theorem Prog.Follows.guar {protocol : Protocol Op Ans α G} {P : Op → Prop} {p : Prog Op Ans α}
    (hmay : ∀ g o, protocol.may g o → P o) (h : p.Follows A protocol g) :
    p.Guar A P fun _ => True := by
  induction p generalizing g with
  | ret a => trivial
  | call o k ih => exact ⟨hmay g o h.1, fun r hr => ih r (h.2 r hr)⟩
  | unfinished => trivial

/-- Programs one after another follow a protocol, if each does from where it begins. -/
theorem Prog.follows_inTurn {protocol : Protocol Op Ans β G} {ps : List (Prog Op Ans α)}
    (h : ∀ p ∈ ps, p.Follows A (protocol.returning fun g' _ => g' = g) g) :
    (Prog.inTurn ps).Follows A (protocol.returning fun g' _ => g' = g) g := by
  induction ps with
  | nil => exact rfl
  | cons p ps ih =>
    refine Prog.Follows.bind (R := fun g' _ => g' = g) (h p List.mem_cons_self) ?_
    rintro _ a rfl
    exact ih fun q hq => h q (List.mem_cons_of_mem p hq)

/-- Less may be said of what is returned. -/
theorem Prog.Follows.mono {protocol : Protocol Op Ans β G} {R R' : G → α → Prop} {p : Prog Op Ans α}
    (hp : p.Follows A (protocol.returning R) g) (h : ∀ g a, R g a → R' g a) :
    p.Follows A (protocol.returning R') g := by
  induction p generalizing g with
  | ret a => exact h g a hp
  | call o k ih => exact ⟨hp.1, fun r hr => ih r (hp.2 r hr)⟩
  | unfinished => exact hp

variable {protocol : Protocol Op Ans (Except ε β × σ) G} {R : G → Except ε α × σ → Prop} {s : σ}

namespace Proc

/-- A sequence of a coroutine: its second part from where the first succeeds, and the exceptions of the
first. -/
theorem follows_bind {m : Proc Op Ans ε σ α} {f : α → Proc Op Ans ε σ β}
    (hm : (m.on s).Follows A (protocol.returning R) g)
    (hok : ∀ g a s, R g (.ok a, s) → ((f a).on s).Follows A protocol g)
    (herror : ∀ g e s, R g (.error e, s) → protocol.returns g (.error e, s)) :
    ((m >>= f).on s).Follows A protocol g := by
  rw [on_bind]
  refine hm.bind fun g r hr => ?_
  obtain ⟨e | a, s'⟩ := r
  · exact herror g e s' hr
  · exact hok g a s' hr

/-- A handler takes over where the body raises. -/
theorem follows_tryCatch {R : G → Except ε β × σ → Prop} {m : Proc Op Ans ε σ β}
    {h : ε → Proc Op Ans ε σ β} (hm : (m.on s).Follows A (protocol.returning R) g)
    (hok : ∀ g a s, R g (.ok a, s) → protocol.returns g (.ok a, s))
    (herror : ∀ g e s, R g (.error e, s) → ((h e).on s).Follows A protocol g) :
    ((tryCatch m h).on s).Follows A protocol g := by
  rw [on_tryCatch]
  refine hm.bind fun g r hr => ?_
  obtain ⟨e | a, s'⟩ := r
  · exact herror g e s' hr
  · exact hok g a s' hr

/-- A body that raises nothing, under a handler. -/
theorem follows_tryCatch_of_ok {m : Proc Op Ans ε σ β} (hm : (m.on s).Follows A protocol g)
    (hok : ∀ g e s, ¬protocol.returns g (.error e, s)) (h : ε → Proc Op Ans ε σ β) :
    ((tryCatch m h).on s).Follows A protocol g :=
  follows_tryCatch hm (fun _ _ _ => id) fun g e s hr => absurd hr (hok g e s)

/-- What holds of an ending, by the way it ends. -/
def byEnding (R : G → α → σ → Prop) (E : G → ε → σ → Prop) (g : G) : Except ε α × σ → Prop
  | (.ok a, s) => R g a s
  | (.error e, s) => E g e s

/-- A loop follows the protocol, if each pass leads from what `R` says of the items that are left to what
it says of the rest, or raises as `E` says. -/
theorem follows_foldlM {γ : Type} {f : β → γ → Proc Op Ans ε σ β} {R : List γ → G → β → σ → Prop}
    {E : G → ε → σ → Prop}
    (hf : ∀ c l g b s, R (c :: l) g b s →
      ((f b c).on s).Follows A (protocol.returning (byEnding (R l) E)) g)
    {l : List γ} {b : β} (h : R l g b s) :
    ((l.foldlM f b).on s).Follows A (protocol.returning (byEnding (R []) E)) g := by
  induction l generalizing g b s with
  | nil => exact h
  | cons c l ih =>
    rw [List.foldlM_cons]
    exact follows_bind (hf c l g b s h) (fun _ _ _ hr => ih hr) fun _ _ _ hr => hr

/-- A call whose answer is a result follows it if what follows a value does, and an exception may be
returned. -/
theorem follows_tryCall_bind {o : Op} {f : Ans o → Except ε α} {k : α → Proc Op Ans ε σ β}
    (ho : protocol.may g o)
    (hok : ∀ r a, A o r → f r = .ok a → ((k a).on s).Follows A protocol (protocol.next g o r))
    (herror : ∀ r e, A o r → f r = .error e →
      protocol.returns (protocol.next g o r) (.error e, s)) :
    (((tryCall o f : Proc Op Ans ε σ α) >>= k).on s).Follows A protocol g := by
  rw [on_bind]
  refine ⟨ho, fun r hr => ?_⟩
  change (thenOn k (f r, s)).Follows A protocol _
  cases hf : f r with
  | ok a => exact hok r a hr hf
  | error e => exact herror r e hr hf

end Proc

end

namespace Pool

/-- A condition on the calls of a schedule: of the thread, the call and the state it is made in. -/
def CallMeets (condition : Nat → Op → S → Prop) (p : Pool Op Ans α S) : Act C E → Prop
  | .outside _ => True
  | .thread i _ =>
    match p.threads[i]? with
    | some (.call o _) => condition i o p.shared
    | _ => True

/-- A condition on the calls of a schedule that is also of what an action leaves open. -/
def ActMeets (condition : C → Nat → Op → S → Prop) (p : Pool Op Ans α S) : Act C E → Prop
  | .outside _ => True
  | .thread i c =>
    match p.threads[i]? with
    | some (.call o _) => condition c i o p.shared
    | _ => True

/-- A condition on the call alone. -/
theorem CallMeets.actMeets {condition : Nat → Op → S → Prop} {p : Pool Op Ans α S} {a : Act C E}
    (h : CallMeets condition p a) : ActMeets (fun _ => condition) p a := by
  cases a with
  | outside e => trivial
  | thread i c => exact h

/-- A condition that every call by which the action may go on meets. -/
theorem actMeets_of_thread {condition : C → Nat → Op → S → Prop} {p : Pool Op Ans α S} {a : Act C E}
    (h : ∀ i c, a = .thread i c → ∀ o s, condition c i o s) : ActMeets condition p a := by
  cases a with
  | outside e => trivial
  | thread i c =>
    simp only [ActMeets]
    split
    · exact h i c rfl _ _
    · trivial

/-- An action meets two conditions. -/
theorem ActMeets.and {condition condition' : C → Nat → Op → S → Prop} {p : Pool Op Ans α S} {a : Act C E}
    (h : ActMeets condition p a) (h' : ActMeets condition' p a) :
    ActMeets (fun c i o s => condition c i o s ∧ condition' c i o s) p a := by
  cases a with
  | outside e => trivial
  | thread i c =>
    simp only [ActMeets] at h h' ⊢
    split at h
    · next hi =>
      rw [hi] at h'
      exact ⟨h, h'⟩
    · trivial

/-- A call meets two conditions. -/
theorem CallMeets.and {condition condition' : Nat → Op → S → Prop} {p : Pool Op Ans α S} {a : Act C E}
    (h : CallMeets condition p a) (h' : CallMeets condition' p a) :
    CallMeets (fun i o s => condition i o s ∧ condition' i o s) p a := by
  cases a with
  | outside e => trivial
  | thread i c => exact h.actMeets.and h'.actMeets

/-- Less may be asked of the calls. -/
theorem CallMeets.mono {condition condition' : Nat → Op → S → Prop}
    (h : ∀ i o s, condition i o s → condition' i o s) {p : Pool Op Ans α S} {a : Act C E}
    (hmeets : CallMeets condition p a) : CallMeets condition' p a := by
  cases a with
  | outside e => trivial
  | thread i c =>
    simp only [CallMeets] at hmeets ⊢
    split at hmeets
    · exact h _ _ _ hmeets
    · trivial

/-- A condition that holds anyway. -/
theorem callMeets_of_forall {condition : Nat → Op → S → Prop} (h : ∀ i o s, condition i o s)
    (p : Pool Op Ans α S) (a : Act C E) : CallMeets condition p a := by
  cases a with
  | outside e => trivial
  | thread i c =>
    simp only [CallMeets]
    split
    · exact h _ _ _
    · trivial

instance decidableCallMeets (condition : Nat → Op → S → Prop)
    [∀ i o s, Decidable (condition i o s)] (p : Pool Op Ans α S) :
    (a : Act C E) → Decidable (CallMeets condition p a)
  | .outside _ => inferInstanceAs (Decidable True)
  | .thread i _ =>
    match h : p.threads[i]? with
    | some (.call o _) => decidable_of_iff (condition i o p.shared) (by simp [CallMeets, h])
    | some (.ret _) => .isTrue (by simp [CallMeets, h])
    | some .unfinished => .isTrue (by simp [CallMeets, h])
    | none => .isTrue (by simp [CallMeets, h])

instance decidableActMeets (condition : C → Nat → Op → S → Prop)
    [∀ c i o s, Decidable (condition c i o s)] (p : Pool Op Ans α S) :
    (a : Act C E) → Decidable (ActMeets condition p a)
  | .outside _ => inferInstanceAs (Decidable True)
  | .thread i c =>
    match h : p.threads[i]? with
    | some (.call o _) => decidable_of_iff (condition c i o p.shared) (by simp [ActMeets, h])
    | some (.ret _) => .isTrue (by simp [ActMeets, h])
    | some .unfinished => .isTrue (by simp [ActMeets, h])
    | none => .isTrue (by simp [ActMeets, h])

/-- A condition that says of each call, made as threads guarantee, whether its answer keeps `I` of the
shared state is met along a schedule exactly if `I` holds after each of its actions. -/
theorem meets_actMeets_iff {rules : Rules Op Ans S C E} {J I : S → Prop} {A : (o : Op) → Ans o → Prop}
    {P : Nat → Op → Prop} {Q : Nat → α → Prop} {condition : C → Nat → Op → S → Prop}
    (hrules : rules.Respect J A P) (houtside : ∀ e s, J s → I s → I (rules.outside e s))
    (hanswer : ∀ c i o s, J s → I s → P i o → (condition c i o s ↔ I (rules.answer c i o s).2))
    {p : Pool Op Ans α S} (hp : p.Guaranteed J A P Q) (hI : I p.shared) {schedule : List (Act C E)} :
    Meets rules (ActMeets condition) p schedule ↔
      ∀ schedule', schedule' <+: schedule → I (p.run rules schedule').shared := by
  refine meets_iff_of_keeps (I := fun p => I p.shared) (K := fun p => p.Guaranteed J A P Q)
    (fun _ a h => h.step hrules a) ?_ hp hI
  intro p a hp hI
  cases a with
  | outside e => exact iff_of_true trivial (houtside e _ hp.shared hI)
  | thread i c =>
    simp only [ActMeets]
    split
    · next o k hi =>
      rw [step_of_call hi]
      exact hanswer c i o _ hp.shared hI (hp.threads i _ hi).1
    · next hidle =>
      rw [step_of_no_call fun o k hi => hidle o k hi]
      exact iff_of_true trivial hI

/-- The threads are in phases `g` of their protocols, and the shared state satisfies `J g`. -/
structure Following (A : (o : Op) → Ans o → Prop) (protocol : Nat → Protocol Op Ans α G)
    (J : (Nat → G) → S → Prop) (g : Nat → G) (p : Pool Op Ans α S) : Prop where
  threads : ∀ (i : Nat) (q : Prog Op Ans α), p.threads[i]? = some q →
    q.Follows A (protocol i) (g i)
  shared : J g p.shared

variable {rules : Rules Op Ans S C E} {p : Pool Op Ans α S} {A : (o : Op) → Ans o → Prop}
  {protocol : Nat → Protocol Op Ans α G} {J : (Nat → G) → S → Prop}
  {condition : Nat → Op → S → Prop}

/-- One action that meets the condition moves at most one thread on. -/
theorem Following.step_of_actMeets {condition : C → Nat → Op → S → Prop}
    (hrules : rules.AdvanceIf A protocol J condition) {g : Nat → G}
    (h : p.Following A protocol J g) (a : Act C E) (ha : ActMeets condition p a) :
    ∃ g', (p.step rules a).Following A protocol J g' := by
  rcases p.step_cases rules a with hp | ⟨e, -, hp⟩ | ⟨i, c, o, k, rfl, hi, hp⟩ <;> rw [hp]
  · exact ⟨g, h⟩
  · exact ⟨g, h.threads, hrules.outside e _ g h.shared⟩
  · obtain ⟨hmay, hnext⟩ := h.threads i _ hi
    have hcondition : condition c i o p.shared := by simpa [ActMeets, hi] using ha
    obtain ⟨hA, hJ⟩ := hrules.answer c i o _ g h.shared hmay hcondition
    refine ⟨_, fun j q hj => ?_, hJ⟩
    by_cases hij : i = j
    · subst hij
      rw [List.getElem?_set_self (List.getElem?_eq_some_iff.1 hi).1] at hj
      cases hj
      rw [Function.update_self]
      exact hnext _ hA
    · rw [List.getElem?_set_ne hij] at hj
      rw [Function.update_of_ne (Ne.symm hij)]
      exact h.threads j q hj

/-- One action, for a pool whose threads follow their protocols: they still do, in the next phase. -/
theorem Following.step (hrules : rules.Advance A protocol J condition) {g : Nat → G}
    (h : p.Following A protocol J g) (a : Act C E) (ha : CallMeets condition p a) :
    ∃ g', (p.step rules a).Following A protocol J g' :=
  h.step_of_actMeets hrules.advanceIf a ha.actMeets

/-- A schedule whose actions all meet the condition. -/
theorem Following.run_of_actMeets {condition : C → Nat → Op → S → Prop}
    (hrules : rules.AdvanceIf A protocol J condition) {g : Nat → G}
    (h : p.Following A protocol J g) {schedule : List (Act C E)}
    (hmeets : Meets rules (ActMeets condition) p schedule) :
    ∃ g', (p.run rules schedule).Following A protocol J g' :=
  run_induction_of_meets (I := fun p => ∃ g, p.Following A protocol J g)
    (fun _ a ha ⟨_, h⟩ => h.step_of_actMeets hrules a ha) ⟨g, h⟩ hmeets

/-- A schedule whose calls all meet the condition. -/
theorem Following.run (hrules : rules.Advance A protocol J condition) {g : Nat → G}
    (h : p.Following A protocol J g) {schedule : List (Act C E)}
    (hmeets : Meets rules (CallMeets condition) p schedule) :
    ∃ g', (p.run rules schedule).Following A protocol J g' :=
  run_induction_of_meets (I := fun p => ∃ g, p.Following A protocol J g)
    (fun _ a ha ⟨_, h⟩ => h.step hrules a ha) ⟨g, h⟩ hmeets

end Pool

/-- What the phases of threads amount to, when one goes on from a phase that amounts to nothing. -/
theorem sum_update_phase {M : Type} [AddCommMonoid M] (value : Nat → G → M) (phase : Nat → G) {i : Nat}
    (hi : value i (phase i) = 0) (next : G) (n : Nat) :
    ∑ j ∈ Finset.range n, value j (Function.update phase i next j) =
      ∑ j ∈ Finset.range n, value j (phase j) + if i < n then value i next else 0 := by
  have hterm (j : Nat) : value j (Function.update phase i next j) =
      value j (phase j) + if j = i then value i next else 0 := by
    by_cases hj : j = i
    · subst hj
      rw [Function.update_self, hi, zero_add, if_pos rfl]
    · rw [Function.update_of_ne hj, if_neg hj, add_zero]
  rw [Finset.sum_congr rfl fun j _ => hterm j, Finset.sum_add_distrib, Finset.sum_ite_eq']
  simp only [Finset.mem_range]

end Interaction
