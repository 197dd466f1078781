import Mathlib.Data.List.Pairwise
import Mathlib.Logic.Relation
import Mathlib.Order.Lattice

/-!
# Loops over positions

A `while` loop that moves a position: `goesOn` is its condition, and `next` is where a round goes, or
nothing where a `break` ends it. `visited` runs it with fuel and lists the positions of the rounds, and
`Visits` says, without fuel, which list that is (`visits_of_visited`, `Visits.exists_visited`).

A loop over windows looks at what lies between a position and its `stop`. If no round goes beyond the stop
of its own window, then the windows leave no gap up to the stop of the last one (`Visits.covers`).
-/

namespace Interaction.Loop

variable {σ : Type} (goesOn : σ → Bool) (next : σ → Option σ)

/-- The positions that the loop visits from `s` on, unless the fuel is spent before it ends. -/
def visited : Nat → σ → Option (List σ)
  | 0, _ => none
  | fuel + 1, s =>
    if goesOn s then
      match next s with
      | none => some [s]
      | some s' => (visited fuel s').map (s :: ·)
    else
      some []

/-- From `s` on the loop visits these positions and ends. -/
inductive Visits : σ → List σ → Prop
  | ended {s : σ} (hs : goesOn s = false) : Visits s []
  | last {s : σ} (hs : goesOn s = true) (hnext : next s = none) : Visits s [s]
  | round {s s' : σ} {l : List σ} (hs : goesOn s = true) (hnext : next s = some s')
      (hrest : Visits s' l) : Visits s (s :: l)

/-- One round leads from the one position to the other. -/
def Leads (s t : σ) : Prop := next s = some t

variable {goesOn next} {s t : σ} {l : List σ}

/-- What is visited with some fuel is what is visited. -/
theorem visits_of_visited {fuel : Nat} (h : visited goesOn next fuel s = some l) :
    Visits goesOn next s l := by
  induction fuel generalizing s l with
  | zero => cases h
  | succ fuel ih =>
    unfold visited at h
    cases hs : goesOn s with
    | false =>
      rw [hs, if_neg Bool.false_ne_true] at h
      obtain rfl := Option.some.inj h
      exact .ended hs
    | true =>
      rw [hs, if_pos rfl] at h
      cases hnext : next s with
      | none =>
        rw [hnext] at h
        obtain rfl := Option.some.inj h
        exact .last hs hnext
      | some s' =>
        rw [hnext] at h
        obtain ⟨l', hl', rfl⟩ := Option.map_eq_some_iff.1 h
        exact .round hs hnext (ih hl')

/-- A loop that ends ends with some fuel. -/
theorem Visits.exists_visited (h : Visits goesOn next s l) :
    ∃ fuel, visited goesOn next fuel s = some l := by
  induction h with
  | ended hs => exact ⟨1, by rw [visited, hs]; rfl⟩
  | last hs hnext => exact ⟨1, by rw [visited, hs, hnext]; rfl⟩
  | round hs hnext _ ih =>
    obtain ⟨fuel, hfuel⟩ := ih
    exact ⟨fuel + 1, by rw [visited, hs, hnext, if_pos rfl]; exact congrArg (Option.map _) hfuel⟩

/-! ## Termination -/

/-- A loop whose rounds keep an invariant that never lets it end does not end. -/
theorem not_visits {I : σ → Prop}
    (hround : ∀ s, I s → goesOn s = true ∧ ∃ s', next s = some s' ∧ I s') (hs : I s) :
    ¬Visits goesOn next s l := by
  intro h
  induction h with
  | ended hended => exact Bool.false_ne_true (hended.symm.trans (hround _ hs).1)
  | last _ hnone =>
    obtain ⟨_, s', hnext, -⟩ := hround _ hs
    cases hnone.symm.trans hnext
  | round _ hnext' _ ih =>
    obtain ⟨_, s', hnext, hs'⟩ := hround _ hs
    obtain rfl := Option.some.inj (hnext.symm.trans hnext')
    exact ih hs'

/-- A loop whose rounds lower a measure ends. -/
theorem exists_visits (measure : σ → Nat) (hround : ∀ s s', goesOn s = true → next s = some s' →
    measure s' < measure s) (s : σ) : ∃ l, Visits goesOn next s l := by
  induction hm : measure s using Nat.strongRecOn generalizing s with
  | ind m ih =>
    cases hs : goesOn s with
    | false => exact ⟨[], .ended hs⟩
    | true =>
      cases hnext : next s with
      | none => exact ⟨[s], .last hs hnext⟩
      | some s' =>
        obtain ⟨l, hl⟩ := ih _ (hm ▸ hround s s' hs hnext) s' rfl
        exact ⟨s :: l, .round hs hnext hl⟩

/-! ## The visited positions -/

/-- The loop goes on from what it visits. -/
theorem Visits.goesOn_of_mem (h : Visits goesOn next s l) : ∀ t ∈ l, goesOn t = true := by
  induction h with
  | ended => simp
  | last hs => simpa using hs
  | round hs _ _ ih => exact List.forall_mem_cons.2 ⟨hs, ih⟩

/-- What the rounds keep holds of what is visited. -/
theorem Visits.forall_mem {I : σ → Prop} (h : Visits goesOn next s l)
    (hround : ∀ s s', goesOn s = true → next s = some s' → I s → I s') (hs : I s) :
    ∀ t ∈ l, I t := by
  induction h with
  | ended => simp
  | last => simpa using hs
  | round hgoes hnext _ ih => exact List.forall_mem_cons.2 ⟨hs, ih (hround _ _ hgoes hnext hs)⟩

/-- Positions that grow in each round are visited in order. -/
theorem Visits.pairwise [Preorder σ] (h : Visits goesOn next s l)
    (hround : ∀ s s', goesOn s = true → next s = some s' → s < s') : l.Pairwise (· < ·) := by
  induction h with
  | ended => exact .nil
  | last => exact List.pairwise_singleton _ _
  | round hgoes hnext hrest ih =>
    have hstart := hround _ _ hgoes hnext
    refine List.pairwise_cons.2 ⟨fun t ht => ?_, ih⟩
    refine hrest.forall_mem (I := (_ < ·)) (fun a b ha hb hlt => ?_) hstart t ht
    exact lt_trans hlt (hround a b ha hb)

/-- What rounds lead to from the start is visited, if a round always leads to where the loop goes on. -/
theorem Visits.mem_of_leads (h : Visits goesOn next s l) (hs : goesOn s = true)
    (hgoes : ∀ s s', next s = some s' → goesOn s' = true)
    (ht : Relation.ReflTransGen (Leads next) s t) : t ∈ l := by
  induction h with
  | ended hended => cases hended.symm.trans hs
  | last _ hnone =>
    rcases Relation.ReflTransGen.cases_head ht with rfl | ⟨s', hnext, -⟩
    · exact List.mem_singleton_self _
    · cases hnone.symm.trans hnext
  | round _ hnext _ ih =>
    rcases Relation.ReflTransGen.cases_head ht with rfl | ⟨s', hnext', ht'⟩
    · exact List.mem_cons_self
    · obtain rfl := Option.some.inj (hnext.symm.trans hnext')
      exact List.mem_cons_of_mem _ (ih (hgoes _ _ hnext) ht')

/-- A visited position is the first, or a round leads to it. -/
theorem Visits.eq_or_exists_leads (h : Visits goesOn next s l) :
    ∀ t ∈ l, t = s ∨ ∃ a ∈ l, next a = some t := by
  induction h with
  | ended => simp
  | last => simp
  | round _ hnext _ ih =>
    refine List.forall_mem_cons.2 ⟨.inl rfl, fun t ht => .inr ?_⟩
    rcases ih t ht with rfl | ⟨a, ha, hat⟩
    · exact ⟨_, List.mem_cons_self, hnext⟩
    · exact ⟨a, List.mem_cons_of_mem _ ha, hat⟩

/-- Rounds lead to what is visited. -/
theorem Visits.leads_of_mem (h : Visits goesOn next s l) :
    ∀ t ∈ l, Relation.ReflTransGen (Leads next) s t := by
  induction h with
  | ended => simp
  | last => simpa using Relation.ReflTransGen.refl
  | round _ hnext _ ih =>
    exact List.forall_mem_cons.2 ⟨.refl, fun t ht => .head hnext (ih t ht)⟩

/-- Rounds lead from all that is visited to where the loop breaks. -/
theorem Visits.leads_to_of_none (h : Visits goesOn next s l) (ht : t ∈ l) (hnone : next t = none) :
    ∀ a ∈ l, Relation.ReflTransGen (Leads next) a t := by
  induction h with
  | ended => cases ht
  | last =>
    obtain rfl := List.mem_singleton.1 ht
    simpa using Relation.ReflTransGen.refl
  | round _ hnext hrest ih =>
    rcases List.mem_cons.1 ht with rfl | ht'
    · cases hnone.symm.trans hnext
    · refine List.forall_mem_cons.2 ⟨?_, ih ht'⟩
      exact .head hnext (hrest.leads_of_mem t ht')

/-! ## Windows -/

/-- From a window to the last one there is no gap, if a round never goes beyond the stop of its window. -/
theorem Visits.covers [LinearOrder σ] (h : Visits goesOn next s l) (stop : σ → σ)
    (hs : goesOn s = true) (hgoes : ∀ s s', next s = some s' → goesOn s' = true)
    (hstop : ∀ s s', next s = some s' → s' ≤ stop s) :
    ∃ last ∈ l, next last = none ∧
      ∀ p, s ≤ p → p < stop last → ∃ a ∈ l, a ≤ p ∧ p < stop a := by
  induction h with
  | ended hended => cases hended.symm.trans hs
  | last _ hnone =>
    exact ⟨_, List.mem_singleton_self _, hnone, fun p hp hlt => ⟨_, List.mem_singleton_self _, hp, hlt⟩⟩
  | round _ hnext _ ih =>
    obtain ⟨last, hmem, hnone, hcovers⟩ := ih (hgoes _ _ hnext)
    refine ⟨last, List.mem_cons_of_mem _ hmem, hnone, fun p hp hlt => ?_⟩
    rcases lt_or_ge p (stop _) with hfirst | hafter
    · exact ⟨_, List.mem_cons_self, hp, hfirst⟩
    · obtain ⟨a, ha, hwindow⟩ := hcovers p ((hstop _ _ hnext).trans hafter) hlt
      exact ⟨a, List.mem_cons_of_mem _ ha, hwindow⟩

end Interaction.Loop
