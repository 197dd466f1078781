import AgentRuntime.Interaction.History

/-!
# Records and copies

Clients load copies of the records of a table, change their copies, and save them over whatever is stored
then: no version is compared. A property that no change takes away from a record is final, once the record in
the table has it, exactly if no copy without it is held any more (`final_iff`).
-/

namespace Records

open Interaction

/-- A table of records: the key of each, and what changes of copies, of what saves and of what statements are
there. `overwrite x row copy` is what saving `copy` makes of `row`, and a statement deletes a row of which it
makes nothing. -/
structure Repository (α κ : Type) where
  Change : Type
  Save : Type
  Statement : Type
  key : α → κ
  clashes : α → α → Bool
  change : Change → α → α
  overwrite : Save → α → α → α
  execute : Statement → α → Option α

variable {α κ : Type} (r : Repository α κ)

/-- A call of a client; copies are named by the order in which they were made. -/
inductive Call where
  | create (a : α)
  | load (k : κ)
  | change (i : Nat) (m : r.Change)
  | save (i : Nat) (x : r.Save)
  | execute (w : r.Statement)

/-- The table, and the copies that were ever made. -/
structure State (α : Type) where
  rows : List α := []
  copies : List α := []

variable [DecidableEq κ]

/-- The state after a call. A record that is created is a copy that its client holds; a call that raises leaves
everything as it was. -/
def step : Call r → State α → State α
  | .create a, s =>
    if s.rows.any fun row => r.clashes row a then s else { rows := s.rows ++ [a], copies := s.copies ++ [a] }
  | .load k, s => { s with copies := s.copies ++ s.rows.filter fun row => r.key row = k }
  | .change i m, s => { s with copies := s.copies.modify i (r.change m) }
  | .save i x, s =>
    match s.copies[i]? with
    | none => s
    | some copy =>
      { s with rows := s.rows.map fun row => if r.key row = r.key copy then r.overwrite x row copy else row }
  | .execute w, s => { s with rows := s.rows.filterMap (r.execute w) }

/-- What no change of a copy, no save of a copy with it and no statement takes away. -/
structure Absorbing (p : α → Prop) : Prop where
  key_change : ∀ m a, r.key (r.change m a) = r.key a
  change : ∀ m a, p a → p (r.change m a)
  key_overwrite : ∀ x row copy, r.key (r.overwrite x row copy) = r.key row
  overwrite : ∀ x row copy, p (r.overwrite x row copy) ↔ p copy
  execute : ∀ w a b, r.execute w a = some b → r.key b = r.key a ∧ (p a → p b)

/-- All the records with this key have the property. -/
def All (p : α → Prop) (k : κ) (records : List α) : Prop := ∀ a ∈ records, r.key a = k → p a

/-- No call creates a record with this key, which is a new one each time. -/
def Fresh (k : κ) (calls : List (Call r)) : Prop := ∀ a, Call.create a ∈ calls → r.key a ≠ k

variable {r} {p : α → Prop} {k : κ} {s : State α}

/-- A copy in a list of which one was changed. -/
theorem mem_modify {l : List α} {i : Nat} {f : α → α} {b : α} (hb : b ∈ l.modify i f) : b ∈ l ∨ ∃ a ∈ l, b = f a := by
  obtain ⟨j, hj, rfl⟩ := List.mem_iff_getElem.1 hb
  rw [List.length_modify] at hj
  rw [List.getElem_modify]
  split
  · exact Or.inr ⟨l[j], List.getElem_mem hj, rfl⟩
  · exact Or.inl (List.getElem_mem hj)

/-- Where a row comes from: it was there, it is new, a copy was saved over one, or a statement made it of one. -/
theorem mem_rows_step {c : Call r} {b : α} (hb : b ∈ (step r c s).rows) :
    b ∈ s.rows ∨ c = .create b ∨
      (∃ row ∈ s.rows, ∃ copy ∈ s.copies, ∃ x, r.key row = r.key copy ∧ b = r.overwrite x row copy) ∨
      ∃ row ∈ s.rows, ∃ w, r.execute w row = some b := by
  cases c with
  | create a =>
    simp only [step] at hb
    split at hb
    · exact Or.inl hb
    · rcases List.mem_append.1 hb with hb | hb
      · exact Or.inl hb
      · rw [List.mem_singleton.1 hb]
        exact Or.inr (Or.inl rfl)
  | load k => exact Or.inl hb
  | change i m => exact Or.inl hb
  | save i x =>
    simp only [step] at hb
    split at hb
    · exact Or.inl hb
    · next copy hcopy =>
      obtain ⟨row, hrow, rfl⟩ := List.mem_map.1 hb
      split
      · next hkey => exact Or.inr (Or.inr (Or.inl ⟨row, hrow, copy, List.mem_of_getElem? hcopy, x, hkey, rfl⟩))
      · exact Or.inl hrow
  | execute w =>
    obtain ⟨row, hrow, hexecute⟩ := List.mem_filterMap.1 hb
    exact Or.inr (Or.inr (Or.inr ⟨row, hrow, w, hexecute⟩))

/-- Where a copy comes from: it was held, it is that of a new record, it was loaded, or it was changed. -/
theorem mem_copies_step {c : Call r} {b : α} (hb : b ∈ (step r c s).copies) :
    b ∈ s.copies ∨ c = .create b ∨ b ∈ s.rows ∨ ∃ copy ∈ s.copies, ∃ m, b = r.change m copy := by
  cases c with
  | create a =>
    simp only [step] at hb
    split at hb
    · exact Or.inl hb
    · rcases List.mem_append.1 hb with hb | hb
      · exact Or.inl hb
      · rw [List.mem_singleton.1 hb]
        exact Or.inr (Or.inl rfl)
  | load k =>
    rcases List.mem_append.1 hb with hb | hb
    · exact Or.inl hb
    · exact Or.inr (Or.inr (Or.inl (List.mem_of_mem_filter hb)))
  | change i m =>
    rcases mem_modify hb with hb | ⟨copy, hcopy, rfl⟩
    · exact Or.inl hb
    · exact Or.inr (Or.inr (Or.inr ⟨copy, hcopy, m, rfl⟩))
  | save i x =>
    simp only [step] at hb
    split at hb
    · exact Or.inl hb
    · exact Or.inl hb
  | execute w => exact Or.inl hb

/-- No two rows come to have one key. -/
theorem nodup_step (hclashes : ∀ row a, r.key row = r.key a → r.clashes row a = true)
    (hoverwrite : ∀ x row copy, r.key (r.overwrite x row copy) = r.key row)
    (hexecute : ∀ w a b, r.execute w a = some b → r.key b = r.key a) {c : Call r}
    (hrows : (s.rows.map r.key).Nodup) : ((step r c s).rows.map r.key).Nodup := by
  cases c with
  | create a =>
    simp only [step]
    split
    · exact hrows
    · next hnone =>
      rw [List.map_append, List.nodup_append]
      refine ⟨hrows, List.pairwise_singleton _ _, fun key hkey key' hkey' heq => ?_⟩
      obtain ⟨row, hrow, rfl⟩ := List.mem_map.1 hkey
      rw [List.map_singleton, List.mem_singleton] at hkey'
      exact hnone (List.any_eq_true.2 ⟨row, hrow, hclashes row a (heq.trans hkey')⟩)
  | load k => exact hrows
  | change i m => exact hrows
  | save i x =>
    simp only [step]
    split
    · exact hrows
    · next copy _ =>
      have hkeys (row : α) : r.key (if r.key row = r.key copy then r.overwrite x row copy else row) = r.key row := by
        split
        · exact hoverwrite x row copy
        · rfl
      rw [List.map_map]
      exact (List.map_congr_left fun row _ => hkeys row) ▸ hrows
  | execute w =>
    have hsub : ((s.rows.filterMap (r.execute w)).map r.key).Sublist (s.rows.map r.key) := by
      generalize s.rows = rows
      induction rows with
      | nil => exact List.Sublist.refl _
      | cons row rows ih =>
        cases hmade : r.execute w row with
        | none =>
          rw [List.filterMap_cons_none hmade]
          exact ih.cons _
        | some b =>
          rw [List.filterMap_cons_some hmade, List.map_cons, List.map_cons, hexecute w row b hmade]
          exact ih.cons_cons _
    exact hrows.sublist hsub

section
variable (h : Absorbing r p)
include h

/-- Where all the rows and copies with a key have the property, a call leaves it so. -/
theorem all_step {c : Call r} (hc : ∀ a, c = .create a → r.key a ≠ k) (hrows : All r p k s.rows)
    (hcopies : All r p k s.copies) : All r p k (step r c s).rows ∧ All r p k (step r c s).copies := by
  constructor
  · intro b hb hkey
    rcases mem_rows_step hb with hb | hb | ⟨row, -, copy, hcopy, x, hsame, rfl⟩ | ⟨row, hrow, w, hexecute⟩
    · exact hrows b hb hkey
    · exact absurd hkey (hc b hb)
    · rw [h.overwrite]
      rw [h.key_overwrite, hsame] at hkey
      exact hcopies copy hcopy hkey
    · obtain ⟨hkeyEq, hp⟩ := h.execute w row b hexecute
      exact hp (hrows row hrow (hkeyEq ▸ hkey))
  · intro b hb hkey
    rcases mem_copies_step hb with hb | hb | hb | ⟨copy, hcopy, m, rfl⟩
    · exact hcopies b hb hkey
    · exact absurd hkey (hc b hb)
    · exact hrows b hb hkey
    · exact h.change m copy (hcopies copy hcopy (h.key_change m copy ▸ hkey))

/-- Where there is no row with a key, there is none after a call. -/
theorem absent_step {c : Call r} (hc : ∀ a, c = .create a → r.key a ≠ k) (hrows : ∀ row ∈ s.rows, r.key row ≠ k) :
    ∀ row ∈ (step r c s).rows, r.key row ≠ k := by
  intro b hb hkey
  rcases mem_rows_step hb with hb | hb | ⟨row, hrow, copy, -, x, -, rfl⟩ | ⟨row, hrow, w, hexecute⟩
  · exact hrows b hb hkey
  · exact hc b hb hkey
  · rw [h.key_overwrite] at hkey
    exact hrows row hrow hkey
  · exact hrows row hrow ((h.execute w row b hexecute).1 ▸ hkey)

/-- Where the rows with a key have the property, they have it after whatever calls exactly if all the copies with
that key have it, or there is no row to save one to. -/
theorem final_iff [Nonempty r.Save] (hrows : All r p k s.rows) :
    (∀ calls, Fresh r k calls → All r p k (after (step r) s calls).rows) ↔
      All r p k s.copies ∨ ∀ row ∈ s.rows, r.key row ≠ k := by
  constructor
  · intro hfinal
    by_contra hnot
    simp only [not_or, All, not_forall, not_not] at hnot
    obtain ⟨⟨copy, hcopy, hcopyKey, hcopyNot⟩, row, hrow, hrowKey⟩ := hnot
    -- the copy is saved
    obtain ⟨i, hi, rfl⟩ := List.mem_iff_getElem.1 hcopy
    obtain ⟨x⟩ := ‹Nonempty r.Save›
    have hsaved : r.overwrite x row s.copies[i] ∈ (step r (.save i x) s).rows := by
      simp only [step, List.getElem?_eq_getElem hi]
      exact List.mem_map.2 ⟨row, hrow, if_pos (hrowKey.trans hcopyKey.symm)⟩
    have hp := hfinal [.save i x] (fun a ha => by simp at ha) _ hsaved ((h.key_overwrite x row _).trans hrowKey)
    exact hcopyNot ((h.overwrite x row _).1 hp)
  · rintro (hcopies | habsent) calls hfresh
    · exact (after_induction (I := fun s : State α => All r p k s.rows ∧ All r p k s.copies) ⟨hrows, hcopies⟩
        fun s c hc hs => all_step h (fun a ha => hfresh a (ha ▸ hc)) hs.1 hs.2).1
    · have hnone := after_induction (I := fun s : State α => ∀ row ∈ s.rows, r.key row ≠ k) habsent
        fun s c hc hs => absent_step h (fun a ha => hfresh a (ha ▸ hc)) hs
      exact fun row hrow hkey => absurd hkey (hnone row hrow)

end

end Records
