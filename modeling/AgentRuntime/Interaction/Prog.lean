import Mathlib.Control.Basic
import Mathlib.Tactic.Common

/-!
# Programs that make calls

`Prog Op Ans α` is a program that makes calls `o : Op`, each answered by a value of `Ans o`, and
that ends with a value of `α`. What answers a call is not part of the program: an environment
(`Env`) answers it from a state of its own, so one program runs alone (`Prog.exec`) or among others
(`Interaction.Pool`). The third constructor, `unfinished`, ends the part of a run that a fuel
argument bounds: a loop translated with fuel reaches it exactly when the fuel is spent, and no
handler of an exception sees it.

`Prog.Guar` is the assume-guarantee reading of a program: as long as the answers satisfy `A`, the
calls satisfy `P` and the returned values satisfy `Q`.
-/

namespace Interaction

/-- A program making calls in `Op` and returning a value of `α`. -/
inductive Prog (Op : Type) (Ans : Op → Type) (α : Type) : Type where
  | ret (a : α)
  | call (o : Op) (k : Ans o → Prog Op Ans α)
  | unfinished

/-- What answers a call: from its own state, deterministically. -/
abbrev Env (Op : Type) (Ans : Op → Type) (S : Type) := (o : Op) → S → Ans o × S

variable {Op : Type} {Ans : Op → Type} {S α β γ : Type}

namespace Prog

/-- Sequencing: `f` continues each returning branch. -/
def bind : Prog Op Ans α → (α → Prog Op Ans β) → Prog Op Ans β
  | .ret a, f => f a
  | .call o k, f => .call o fun r => (k r).bind f
  | .unfinished, _ => .unfinished

instance : Monad (Prog Op Ans) where
  pure := .ret
  bind := bind

/-- The program that makes one call and returns its answer. -/
def perform (o : Op) : Prog Op Ans (Ans o) := .call o .ret

/-- The value of a program that has returned. -/
def returned : Prog Op Ans α → Option α
  | .ret a => some a
  | _ => none

/-- A program that has returned has its value. -/
@[simp] theorem returned_ret (a : α) : (ret a : Prog Op Ans α).returned = some a := rfl

/-- It is the only kind of program that has one. -/
theorem returned_eq_some {p : Prog Op Ans α} {a : α} : p.returned = some a ↔ p = .ret a := by
  cases p <;> simp [returned]

/-- A value as a program. -/
@[simp] theorem pure_eq (a : α) : (pure a : Prog Op Ans α) = .ret a := rfl

/-- After a value the program goes on. -/
@[simp] theorem ret_bind (a : α) (f : α → Prog Op Ans β) : (ret a >>= f) = f a := rfl

/-- After a call the program goes on with its answer. -/
@[simp] theorem call_bind (o : Op) (k : Ans o → Prog Op Ans α) (f : α → Prog Op Ans β) :
    (call o k >>= f) = call o fun r => k r >>= f := rfl

/-- A program that runs out of fuel does not go on. -/
@[simp] theorem unfinished_bind (f : α → Prog Op Ans β) :
    ((unfinished : Prog Op Ans α) >>= f) = unfinished := rfl

/-- One call, and what follows it. -/
@[simp] theorem perform_bind (o : Op) (f : Ans o → Prog Op Ans β) :
    (perform o >>= f) = call o f := rfl

/-- A program that goes on with its value is itself. -/
theorem bind_ret (p : Prog Op Ans α) : (p >>= ret) = p := by
  induction p with
  | ret a => rfl
  | call o k ih => rw [call_bind]; exact congrArg (call o) (funext ih)
  | unfinished => rfl

/-- Three parts may be joined from either side. -/
theorem bind_assoc' (p : Prog Op Ans α) (f : α → Prog Op Ans β) (g : β → Prog Op Ans γ) :
    (p >>= f) >>= g = p >>= fun a => f a >>= g := by
  induction p with
  | ret a => rfl
  | call o k ih => simp only [call_bind]; exact congrArg (call o) (funext ih)
  | unfinished => rfl

instance : LawfulMonad (Prog Op Ans) :=
  LawfulMonad.mk' _ (fun p => bind_ret p) (fun _ _ => rfl) bind_assoc'

/-! ## Running alone -/

/-- What a run leaves: the returned value (`none` for an unfinished run), the environment's state
and the calls made, in order. -/
structure Exec (Op S α : Type) where
  result : Option α
  state : S
  calls : List Op

/-- A run continued by `f` where it returned. -/
def Exec.andThen (e : Exec Op S α) (f : α → S → Exec Op S β) : Exec Op S β :=
  match e.result with
  | some a => { f a e.state with calls := e.calls ++ (f a e.state).calls }
  | none => ⟨none, e.state, e.calls⟩

/-- The run of a program whose calls `env` answers, from the environment's state `s`. -/
def exec (env : Env Op Ans S) : Prog Op Ans α → S → Exec Op S α
  | .ret a, s => ⟨some a, s, []⟩
  | .call o k, s =>
    let tail := (k (env o s).1).exec env (env o s).2
    { tail with calls := o :: tail.calls }
  | .unfinished, s => ⟨none, s, []⟩

variable (env : Env Op Ans S)

/-- A value is returned without a call. -/
@[simp] theorem exec_ret (a : α) (s : S) :
    (ret a : Prog Op Ans α).exec env s = ⟨some a, s, []⟩ := rfl

/-- A program that runs out of fuel returns nothing. -/
@[simp] theorem exec_unfinished (s : S) :
    (unfinished : Prog Op Ans α).exec env s = ⟨none, s, []⟩ := rfl

/-- A call is answered, and what follows runs from the state that it has left. -/
@[simp] theorem exec_call (o : Op) (k : Ans o → Prog Op Ans α) (s : S) :
    (call o k).exec env s =
      { (k (env o s).1).exec env (env o s).2 with
        calls := o :: ((k (env o s).1).exec env (env o s).2).calls } := rfl

/-- The run of a sequence is the run of its first part, continued by the second. -/
theorem exec_bind (p : Prog Op Ans α) (f : α → Prog Op Ans β) (s : S) :
    (p >>= f).exec env s = (p.exec env s).andThen fun a s' => (f a).exec env s' := by
  induction p generalizing s with
  | ret a => simp [Exec.andThen]
  | call o k ih =>
    rw [call_bind, exec_call, ih, exec_call]
    unfold Exec.andThen
    split <;> simp_all
  | unfinished => rfl

/-! ## Assumptions and guarantees -/

/-- Answered according to `A`, the program makes only calls in `P` and returns only values in `Q`.
An unfinished run returns nothing. -/
def Guar (A : (o : Op) → Ans o → Prop) (P : Op → Prop) (Q : α → Prop) : Prog Op Ans α → Prop
  | .ret a => Q a
  | .call o k => P o ∧ ∀ r, A o r → (k r).Guar A P Q
  | .unfinished => True

variable {A : (o : Op) → Ans o → Prop} {P P' : Op → Prop}

/-- What is demanded of a value. -/
@[simp] theorem guar_ret {Q : α → Prop} {a : α} :
    (ret a : Prog Op Ans α).Guar A P Q ↔ Q a := Iff.rfl

/-- What is demanded of a call: that it is allowed, and that what follows keeps the guarantee for every answer
that can be given. -/
@[simp] theorem guar_call {Q : α → Prop} {o : Op} {k : Ans o → Prog Op Ans α} :
    (call o k).Guar A P Q ↔ P o ∧ ∀ r, A o r → (k r).Guar A P Q := Iff.rfl

/-- Nothing is demanded of a program that runs out of fuel. -/
@[simp] theorem guar_unfinished {Q : α → Prop} :
    (unfinished : Prog Op Ans α).Guar A P Q := trivial

/-- Every program guarantees nothing. -/
theorem guar_trivial (p : Prog Op Ans α) : p.Guar A (fun _ => True) (fun _ => True) := by
  induction p with
  | ret a => trivial
  | call o k ih => exact ⟨trivial, fun r _ => ih r⟩
  | unfinished => trivial

/-- A guarantee can be weakened. -/
theorem Guar.mono {Q Q' : α → Prop} {p : Prog Op Ans α} (h : p.Guar A P Q)
    (hP : ∀ o, P o → P' o) (hQ : ∀ a, Q a → Q' a) : p.Guar A P' Q' := by
  induction p with
  | ret a => exact hQ a h
  | call o k ih => exact ⟨hP o h.1, fun r hr => ih r (h.2 r hr)⟩
  | unfinished => trivial

/-- Two guarantees of one program hold together. -/
theorem Guar.and {Q Q' : α → Prop} {p : Prog Op Ans α} (h : p.Guar A P Q) (h' : p.Guar A P Q') :
    p.Guar A P fun a => Q a ∧ Q' a := by
  induction p with
  | ret a => exact ⟨h, h'⟩
  | call o k ih => exact ⟨h.1, fun r hr => ih r (h.2 r hr) (h'.2 r hr)⟩
  | unfinished => trivial

/-- Guarantees compose along a sequence. -/
theorem Guar.bind {Q : α → Prop} {R : β → Prop} {p : Prog Op Ans α} {f : α → Prog Op Ans β}
    (hp : p.Guar A P Q) (hf : ∀ a, Q a → (f a).Guar A P R) : (p >>= f).Guar A P R := by
  induction p with
  | ret a => exact hf a hp
  | call o k ih => exact ⟨hp.1, fun r hr => ih r (hp.2 r hr)⟩
  | unfinished => trivial

/-- What is guaranteed under an assumption is guaranteed under a stronger one. -/
theorem Guar.strengthen {A' : (o : Op) → Ans o → Prop} {Q : α → Prop} {p : Prog Op Ans α}
    (h : p.Guar A P Q) (hA : ∀ o r, A' o r → A o r) : p.Guar A' P Q := by
  induction p with
  | ret a => exact h
  | call o k ih => exact ⟨h.1, fun r hr => ih r (h.2 r (hA o r hr))⟩
  | unfinished => trivial

/-- A guarantee holds of a run alone whose environment keeps to the assumption. -/
theorem Guar.exec {Q : α → Prop} {p : Prog Op Ans α} (h : p.Guar A P Q)
    (hA : ∀ o s, A o (env o s).1) (s : S) :
    (∀ o ∈ (p.exec env s).calls, P o) ∧ ∀ a, (p.exec env s).result = some a → Q a := by
  induction p generalizing s with
  | ret a => exact ⟨by simp, by rintro b ⟨⟩; exact h⟩
  | call o k ih =>
    obtain ⟨hcalls, hres⟩ := ih _ (h.2 _ (hA o s)) (env o s).2
    refine ⟨fun o' ho' => ?_, hres⟩
    rcases List.mem_cons.1 ho' with rfl | ho'
    · exact h.1
    · exact hcalls o' ho'
  | unfinished => exact ⟨by simp, by simp⟩

/-- An environment that keeps `I` of its state, and answers according to the assumption where `I` holds,
at the calls that a program makes: the run keeps `I`. -/
theorem Guar.exec_answered {I : S → Prop} {Q : α → Prop} {p : Prog Op Ans α} (h : p.Guar A P Q)
    (henv : ∀ o s, P o → I s → A o (env o s).1 ∧ I (env o s).2) {s : S} (hs : I s) :
    I (p.exec env s).state := by
  induction p generalizing s with
  | ret a => exact hs
  | call o k ih =>
    obtain ⟨hanswer, hstate⟩ := henv o s h.1 hs
    exact ih _ (h.2 _ hanswer) hstate
  | unfinished => exact hs

/-- An environment that keeps `I` of its state, at the calls that a program makes, keeps it along a
run of the program. -/
theorem Guar.exec_state {I : S → Prop} {Q : α → Prop} {p : Prog Op Ans α}
    (h : p.Guar (fun _ _ => True) P Q) (henv : ∀ o s, P o → I s → I (env o s).2) {s : S}
    (hs : I s) : I (p.exec env s).state :=
  h.exec_answered env (fun o s ho hs => ⟨trivial, henv o s ho hs⟩) hs

/-- Two environments that answer alike, from states that stay related, lead the program to the same value. -/
theorem Guar.exec_simulated {T : Type} (env' : Env Op Ans T) {R : S → T → Prop} {Q : α → Prop} {p : Prog Op Ans α}
    (h : p.Guar (fun _ _ => True) P Q)
    (hstep : ∀ o, P o → ∀ s t, R s t → (env o s).1 = (env' o t).1 ∧ R (env o s).2 (env' o t).2) {s : S} {t : T}
    (hR : R s t) : (p.exec env s).result = (p.exec env' t).result ∧ R (p.exec env s).state (p.exec env' t).state := by
  induction p generalizing s t with
  | ret a => exact ⟨rfl, hR⟩
  | call o k ih =>
    obtain ⟨hanswer, hR'⟩ := hstep o h.1 s t hR
    rw [exec_call, exec_call, ← hanswer]
    exact ih (env o s).1 (h.2 _ trivial) hR'
  | unfinished => exact ⟨rfl, hR⟩

/-- From a state that satisfies `I`, the program leads to one that does. -/
def Preserves (env : Env Op Ans S) (I : S → Prop) (p : Prog Op Ans α) : Prop :=
  ∀ s, I s → I (p.exec env s).state

/-- Two parts that preserve an invariant preserve it one after the other. -/
theorem Preserves.bind {I : S → Prop} {p : Prog Op Ans α} {f : α → Prog Op Ans β}
    (hp : Preserves env I p) (hf : ∀ a, Preserves env I (f a)) : Preserves env I (p >>= f) := by
  intro s hs
  rw [exec_bind]
  unfold Exec.andThen
  split
  · next a _ => exact hf a _ (hp s hs)
  · exact hp s hs

/-- A program preserves what its calls do. -/
theorem Guar.preserves {I : S → Prop} {Q : α → Prop} {p : Prog Op Ans α}
    (h : p.Guar (fun _ _ => True) P Q) (henv : ∀ o s, P o → I s → I (env o s).2) :
    Preserves env I p :=
  fun _ hs => h.exec_state env henv hs

/-! ## Calls that are programs themselves -/

section
variable {Op' : Type} {Ans' : Op' → Type}

/-- The program, with a program behind each of its calls. -/
def handle (f : (o : Op) → Prog Op' Ans' (Ans o)) : Prog Op Ans α → Prog Op' Ans' α
  | .ret a => .ret a
  | .call o k => f o >>= fun r => (k r).handle f
  | .unfinished => .unfinished

variable {f : (o : Op) → Prog Op' Ans' (Ans o)}

/-- A value makes no call that could be handled. -/
@[simp] theorem handle_ret (a : α) : (ret a : Prog Op Ans α).handle f = ret a := rfl

/-- A call is replaced by the program that handles it. -/
@[simp] theorem handle_call (o : Op) (k : Ans o → Prog Op Ans α) :
    (call o k).handle f = f o >>= fun r => (k r).handle f := rfl

/-- The parts of a program are handled each for itself. -/
@[simp] theorem handle_bind (p : Prog Op Ans α) (g : α → Prog Op Ans β) :
    (p >>= g).handle f = p.handle f >>= fun a => (g a).handle f := by
  induction p with
  | ret a => rfl
  | call o k ih =>
    rw [call_bind, handle_call, handle_call, bind_assoc']
    exact congrArg (f o >>= ·) (funext ih)
  | unfinished => rfl

/-- A guarantee holds with programs behind the calls, if these guarantee the answers that it assumes. -/
theorem Guar.handle {A' : (o : Op') → Ans' o → Prop} {P' : Op' → Prop} {Q : α → Prop}
    {p : Prog Op Ans α} (h : p.Guar A P Q) (hf : ∀ o, P o → (f o).Guar A' P' (A o)) :
    (p.handle f).Guar A' P' Q := by
  induction p with
  | ret a => exact h
  | call o k ih => exact (hf o h.1).bind fun r hr => ih r (h.2 r hr)
  | unfinished => trivial

/-- Programs one after another. -/
def inTurn : List (Prog Op Ans α) → Prog Op Ans Unit
  | [] => .ret ()
  | p :: ps => p >>= fun _ => inTurn ps

/-- They make the calls that each may make. -/
theorem guar_inTurn {ps : List (Prog Op Ans α)} (h : ∀ p ∈ ps, p.Guar A P fun _ => True) :
    (inTurn ps).Guar A P fun _ => True := by
  induction ps with
  | nil => trivial
  | cons p ps ih =>
    exact (h p List.mem_cons_self).bind fun _ _ => ih fun q hq => h q (List.mem_cons_of_mem p hq)

end

end Prog

end Interaction
