import AgentRuntime.Interaction.Prog
import Mathlib.Algebra.Order.BigOperators.Group.List
import Mathlib.Algebra.Order.Monoid.Unbundled.Pow

/-!
# Attempts

A body that is run again as long as its outcome asks for it and retries are left:
`attempts body goesOn pause n i` makes the attempt `i` and at most `n` more, with a pause after each
attempt that another one follows.

A run is described by the list of its pauses (`Attempted`): how many attempts it made, why it stopped, and
its calls (`attemptTrace`). `exec_attempts` gives such a list for every run whose bodies and pauses are
known.
-/

namespace Interaction

variable {Op : Type} {Ans : Op → Type} {S β δ : Type}

/-- The calls of a run: those of its attempts, from `i` on, and of the pauses between them. -/
def attemptTrace (attempt : Nat → List Op) (pause : Nat → δ → List Op) : Nat → List δ → List Op
  | i, [] => attempt i
  | i, d :: ds => attempt i ++ pause i d ++ attemptTrace attempt pause (i + 1) ds

/-- Attempts from `i` on, with `n` retries, that paused as in `ds`: each attempt before the last one asked
for another, and the last one did not, or had no retry left. -/
structure Attempted (goesOn : β → Bool) (outcome : Nat → β) (may : Nat → δ → Prop) (i n : Nat)
    (ds : List δ) : Prop where
  le : ds.length ≤ n
  earlier : ∀ j < ds.length, goesOn (outcome (i + j)) = true
  last : ds.length = n ∨ goesOn (outcome (i + ds.length)) = false
  pauses : ∀ j d, ds[j]? = some d → may (i + j) d

section
variable {goesOn : β → Bool} {outcome : Nat → β} {may : Nat → δ → Prop} {i n : Nat}

/-- Only one attempt: it does not ask for another, or there is no retry. -/
theorem attempted_nil (h : n = 0 ∨ goesOn (outcome i) = false) :
    Attempted goesOn outcome may i n [] where
  le := Nat.zero_le n
  earlier := nofun
  last := h.imp Eq.symm id
  pauses := nofun

/-- One attempt more, at the front. -/
theorem Attempted.again {d : δ} {ds : List δ} (h : Attempted goesOn outcome may (i + 1) n ds)
    (hgoes : goesOn (outcome i) = true) (hd : may i d) :
    Attempted goesOn outcome may i (n + 1) (d :: ds) where
  le := Nat.succ_le_succ h.le
  earlier := by
    rintro (_ | j) hj
    · exact hgoes
    · have hlater := h.earlier j (Nat.lt_of_succ_lt_succ hj)
      rwa [Nat.add_right_comm] at hlater
  last := by
    have hlast := h.last
    rw [Nat.add_right_comm] at hlast
    exact hlast.imp (congrArg (· + 1)) id
  pauses := by
    rintro (_ | j) d' hd'
    · cases hd'
      exact hd
    · have hlater := h.pauses j d' hd'
      rwa [Nat.add_right_comm] at hlater

/-- Only the outcomes that there are matter to what asks for another attempt. -/
theorem Attempted.congr {goesOn' : β → Bool} {ds : List δ} (h : Attempted goesOn outcome may i n ds)
    (hgoes : ∀ j, goesOn (outcome j) = goesOn' (outcome j)) : Attempted goesOn' outcome may i n ds where
  le := h.le
  earlier := fun j hj => hgoes (i + j) ▸ h.earlier j hj
  last := h.last.imp id fun hlast => hgoes (i + ds.length) ▸ hlast
  pauses := h.pauses

/-- The sum of pauses, each of at most `bound`. -/
theorem Attempted.sum_le [AddCommMonoid δ] [PartialOrder δ] [IsOrderedAddMonoid δ] {bound : δ}
    {ds : List δ} (h : Attempted goesOn outcome may i n ds) (hbound : ∀ j d, may j d → d ≤ bound)
    (hpos : 0 ≤ bound) : ds.sum ≤ n • bound := by
  have hall : ∀ d ∈ ds, d ≤ bound := by
    intro d hd
    obtain ⟨j, hj⟩ := List.mem_iff_getElem?.1 hd
    exact hbound _ d (h.pauses j d hj)
  calc ds.sum ≤ ds.length • bound := List.sum_le_card_nsmul ds bound hall
    _ ≤ n • bound := nsmul_le_nsmul_left hpos h.le

/-- The attempts among the calls: one for each pause, and the last one. -/
theorem countP_attemptTrace {p : Op → Bool} {attempt : Nat → List Op} {pause : Nat → δ → List Op}
    (hattempt : ∀ i, (attempt i).countP p = 1) (hpause : ∀ i d, (pause i d).countP p = 0) (ds : List δ)
    (i : Nat) : (attemptTrace attempt pause i ds).countP p = ds.length + 1 := by
  induction ds generalizing i with
  | nil => exact hattempt i
  | cons d ds ih =>
    rw [attemptTrace, List.countP_append, List.countP_append, hattempt, hpause, ih, List.length_cons]
    omega

end

namespace Prog

/-- The attempt `i`, and at most `n` further ones. -/
def attempts (body : Nat → Prog Op Ans β) (goesOn : β → Bool) (pause : Nat → Prog Op Ans Unit) :
    Nat → Nat → Prog Op Ans β
  | 0, i => body i
  | n + 1, i => body i >>= fun b =>
    if goesOn b then pause i >>= fun _ => attempts body goesOn pause n (i + 1) else .ret b

/-- A run makes attempts as `Attempted` says, and ends with the outcome of the last one. `At i` holds of
the environment's state when `i` attempts were made. -/
theorem exec_attempts {env : Env Op Ans S} {body : Nat → Prog Op Ans β} (goesOn : β → Bool)
    {pause : Nat → Prog Op Ans Unit} {outcome : Nat → β} {attempt : Nat → List Op}
    {paused : Nat → δ → List Op} {may : Nat → δ → Prop} {At : Nat → S → Prop}
    (hbody : ∀ i s, At i s →
      ∃ s', (body i).exec env s = ⟨some (outcome i), s', attempt i⟩ ∧ At (i + 1) s')
    (hpause : ∀ i s, At (i + 1) s →
      ∃ d s', (pause i).exec env s = ⟨some (), s', paused i d⟩ ∧ may i d ∧ At (i + 1) s')
    (n : Nat) {i : Nat} {s : S} (hs : At i s) :
    ∃ ds, Attempted goesOn outcome may i n ds ∧
      ((attempts body goesOn pause n i).exec env s).result = some (outcome (i + ds.length)) ∧
      ((attempts body goesOn pause n i).exec env s).calls = attemptTrace attempt paused i ds := by
  induction n generalizing i s with
  | zero =>
    obtain ⟨s', hexec, -⟩ := hbody i s hs
    refine ⟨[], attempted_nil (.inl rfl), ?_, ?_⟩
    · rw [attempts, hexec]
      rfl
    · rw [attempts, hexec]
      rfl
  | succ n ih =>
    obtain ⟨s₁, hexec, hs₁⟩ := hbody i s hs
    have hrun : (attempts body goesOn pause (n + 1) i).exec env s =
        Exec.andThen ⟨some (outcome i), s₁, attempt i⟩ fun b s' =>
          (if goesOn b then pause i >>= fun _ => attempts body goesOn pause n (i + 1)
            else .ret b).exec env s' := by
      rw [attempts, exec_bind, hexec]
    rw [hrun]
    cases hgoes : goesOn (outcome i) with
    | false =>
      refine ⟨[], attempted_nil (.inr hgoes), ?_, ?_⟩
      · simp only [Exec.andThen, hgoes, Bool.false_eq_true, if_false, exec_ret]
        rfl
      · simp only [Exec.andThen, hgoes, Bool.false_eq_true, if_false, exec_ret, List.append_nil]
        rfl
    | true =>
      obtain ⟨d, s₂, hexec₂, hd, hs₂⟩ := hpause i s₁ hs₁
      obtain ⟨ds, hattempted, hresult, hcalls⟩ := ih hs₂
      refine ⟨d :: ds, hattempted.again hgoes hd, ?_, ?_⟩
      · simp only [Exec.andThen, hgoes, if_true, exec_bind, hexec₂, hresult, List.length_cons]
        rw [Nat.add_right_comm, Nat.add_assoc]
      · simp only [Exec.andThen, hgoes, if_true, exec_bind, hexec₂, hcalls, attemptTrace,
          List.append_assoc]

end Prog

end Interaction
