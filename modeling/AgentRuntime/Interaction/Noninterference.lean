import AgentRuntime.Interaction.History
import AgentRuntime.Interaction.Prog

/-!
# What one party sees of the others

A relation `R` on the states of an environment says which of them one party cannot tell apart. A program
is run from two related states: `Prog.Alike` says that it ends alike, with related values in related
states, and is shown call by call (`Prog.Guar.alike`).

The calls of a sequence are of that party (`low`) or of the others. `unaffected` is the unwinding theorem:
if the party's own calls return alike from related states, and along the sequence the others' calls lead
to states that are related to all that the state before was related to, then the party gets from its
calls what it gets if the others make none, and cannot tell the states afterwards apart. Two objects that
a simulation relates return the same to every party (`outputs_of_simulation`).
-/

namespace Interaction

namespace Prog

variable {Op : Type} {Ans : Op → Type} {S α β α' β' : Type}

/-- From related states the programs end with related values in related states, or neither returns. -/
def Alike (env : Env Op Ans S) (R : S → S → Prop) (Q : α → β → Prop) (p : Prog Op Ans α)
    (p' : Prog Op Ans β) : Prop :=
  ∀ s s', R s s' →
    Option.Rel Q (p.exec env s).result (p'.exec env s').result ∧
      R (p.exec env s).state (p'.exec env s').state

/-- From related states the call is answered alike and leads to related states. -/
def AnsweredAlike (env : Env Op Ans S) (R : S → S → Prop) (o : Op) : Prop :=
  ∀ s s', R s s' → (env o s).1 = (env o s').1 ∧ R (env o s).2 (env o s').2

variable {env : Env Op Ans S} {R : S → S → Prop} {Q : α → β → Prop} {Q' : α' → β' → Prop}

/-- Programs that have returned are alike if their results are. -/
theorem alike_ret {a : α} {b : β} (h : Q a b) : Alike env R Q (.ret a) (.ret b) :=
  fun _ _ hR => ⟨.some h, hR⟩

/-- Programs that have run out of fuel are alike. -/
theorem alike_unfinished : Alike env R Q .unfinished .unfinished := fun _ _ hR => ⟨.none, hR⟩

/-- Programs that make one call are alike if related states answer it alike, and what follows each answer
is alike. -/
theorem alike_call {o : Op} {k : Ans o → Prog Op Ans α} {k' : Ans o → Prog Op Ans β}
    (ho : AnsweredAlike env R o) (h : ∀ r, Alike env R Q (k r) (k' r)) :
    Alike env R Q (.call o k) (.call o k') := by
  intro s s' hR
  obtain ⟨hanswer, hR'⟩ := ho s s' hR
  simp only [exec_call, hanswer]
  exact h _ _ _ hR'

/-- Programs that end alike are continued by programs that do, for related values. -/
theorem Alike.bind {p : Prog Op Ans α} {p' : Prog Op Ans β} {f : α → Prog Op Ans α'}
    {f' : β → Prog Op Ans β'} (hp : Alike env R Q p p')
    (hf : ∀ a b, Q a b → Alike env R Q' (f a) (f' b)) : Alike env R Q' (p >>= f) (p' >>= f') := by
  intro s s' hR
  obtain ⟨hresult, hstate⟩ := hp s s' hR
  rw [exec_bind, exec_bind]
  unfold Exec.andThen
  cases hp₁ : (p.exec env s).result with
  | none =>
    rw [hp₁] at hresult
    cases hp₂ : (p'.exec env s').result with
    | none => exact ⟨.none, hstate⟩
    | some b => rw [hp₂] at hresult; cases hresult
  | some a =>
    rw [hp₁] at hresult
    cases hp₂ : (p'.exec env s').result with
    | none => rw [hp₂] at hresult; cases hresult
    | some b =>
      rw [hp₂] at hresult
      cases hresult with
      | some hQ => exact hf a b hQ _ _ hstate

/-- A program whose calls are all answered alike ends alike. -/
theorem Guar.alike {P : Op → Prop} {p : Prog Op Ans α} {I : α → Prop}
    (h : p.Guar (fun _ _ => True) P I) (henv : ∀ o, P o → AnsweredAlike env R o) :
    Alike env R (fun a b => a = b) p p := by
  induction p with
  | ret a => exact alike_ret rfl
  | call o k ih => exact alike_call (henv o h.1) fun r => ih r (h.2 r trivial)
  | unfinished => exact alike_unfinished

/-- The values of programs that end with the same value are the same. -/
theorem Alike.result_eq {p p' : Prog Op Ans α} (h : Alike env R (fun a b => a = b) p p') {s s' : S}
    (hR : R s s') : (p.exec env s).result = (p'.exec env s').result := by
  have hresult := (h s s' hR).1
  generalize (p.exec env s).result = a at hresult ⊢
  generalize (p'.exec env s').result = b at hresult ⊢
  cases hresult with
  | none => rfl
  | some hab => exact congrArg some hab

end Prog

section
variable {A S O : Type} (step : A → S → S) (out : A → S → O) (low : A → Prop) [DecidablePred low]

/-- What the party's calls return. -/
def outputs : S → List A → List O
  | _, [] => []
  | s, a :: calls => if low a then out a s :: outputs (step a s) calls else outputs (step a s) calls

/-- The party gets what it gets if the others make no calls, and the states afterwards are related. -/
def Unaffected (R : S → S → Prop) (s : S) (calls : List A) : Prop :=
  outputs step out low s calls = outputs step out low s (calls.filter low) ∧
    R (after step s calls) (after step s (calls.filter low))

variable {step out low} {R : S → S → Prop}

/-- The unwinding theorem. -/
theorem unaffected {s : S} {calls : List A} (hrefl : R s s)
    (hlow : ∀ a ∈ calls, low a → ∀ s s', R s s' → out a s = out a s' ∧ R (step a s) (step a s'))
    (hother : Along step (fun s a => ¬low a → ∀ s', R s s' → R (step a s) s') s calls) :
    Unaffected step out low R s calls := by
  suffices hrun : ∀ s', R s s' →
      outputs step out low s calls = outputs step out low s' (calls.filter low) ∧
        R (after step s calls) (after step s' (calls.filter low)) from hrun s hrefl
  clear hrefl
  -- The run without the others' calls stays in a state that is related to that of the run with them.
  induction calls generalizing s with
  | nil => exact fun s' hR => ⟨rfl, hR⟩
  | cons a calls ih =>
    intro s' hR
    have hrest := ih (fun b hb => hlow b (List.mem_cons_of_mem a hb)) hother.2
    by_cases ha : low a
    · obtain ⟨hout, hR'⟩ := hlow a List.mem_cons_self ha s s' hR
      obtain ⟨houts, hafter⟩ := hrest _ hR'
      simp only [List.filter_cons, ha, decide_true, if_true, outputs, after_cons]
      exact ⟨by rw [hout, houts], hafter⟩
    · simp only [List.filter_cons, ha, decide_false, Bool.false_eq_true, if_false, outputs, after_cons]
      exact hrest s' (hother.1 ha s' hR)

end

section
variable {A S T O : Type} {step : A → S → S} {step' : A → T → T} {out : A → S → O} {out' : A → T → O}
  {R : S → T → Prop} {s : S} {t : T}

/-- A party gets the same from two objects, if every call returns the same from both and leaves them
related. -/
theorem outputs_of_simulation {low : A → Prop} [DecidablePred low]
    (hstep : ∀ a s t, R s t → out a s = out' a t ∧ R (step a s) (step' a t)) (h : R s t) (calls : List A) :
    outputs step out low s calls = outputs step' out' low t calls := by
  induction calls generalizing s t with
  | nil => rfl
  | cons a calls ih =>
    obtain ⟨hout, hR⟩ := hstep a s t h
    simp only [outputs, hout, ih hR]

end

end Interaction
