import AgentRuntime.Interaction.Method

/-!
# Database sessions

A `Session` is a transaction over committed data, as an object-relational mapper offers it:
statements run inside a transaction, which the first of them begins; `commit` publishes what the
statements did, `rollback` and `close` drop it. A method that never commits keeps the committed data
(`KeepsCommitted`).

`seen` lists what each request of a sequence finds, given what a request leaves behind. A server that
leaves the data alone agrees with one that applies its requests exactly while the latter's requests,
all but the last, leave the data alone as well (`seen_eq_seen_iff`).
-/

namespace Interaction

variable {ε α β D R : Type}

namespace Method

/-- A `finally` clause runs whatever way the body ends, and its own exception prevails. -/
@[simp] theorem on_tryFinally (m : Method ε D α) (f : Method ε D PUnit) (s : D) :
    (tryFinally m f).on s = match m.on s with
      | (r, s') => match f.on s' with
        | (.ok _, s'') => (r, s'')
        | (.error e, s'') => (.error e, s'') := by
  rcases hm : m.on s with ⟨r, s'⟩
  rcases hf : f.on s' with ⟨r', s''⟩
  have hm' : m s = (r, s') := hm
  have hf' : f s' = (r', s'') := hf
  cases r <;> cases r' <;>
  · simp only [tryFinally, tryFinally', on, ExceptT.run, StateT.run, bind, StateT.bind, hm', hf',
      ExceptT.mk, Functor.map, ExceptT.map]
    rfl

end Method

/-- The committed data, and what the open transaction made of it. -/
structure Session (D : Type) where
  committed : D
  transaction : Option D := none
  deriving Repr

namespace Session

/-- The data as a statement of the session finds it. -/
def view (self : Session D) : D := self.transaction.getD self.committed

/-- Run statements inside the transaction. -/
def inTransaction (statements : Method ε D α) : Method ε (Session D) α := do
  let self ← get
  let (result, view) := statements.on self.view
  set { self with transaction := some view }
  Method.ofExcept result

/-- Publish what the transaction did. -/
def commit : Method ε (Session D) Unit := modify fun self => { committed := self.view }

/-- Drop what the transaction did. -/
def rollback : Method ε (Session D) Unit := modify fun self => { committed := self.committed }

/-- End the session; a transaction that is still open is rolled back. -/
def close : Method ε (Session D) Unit := rollback

/-- Whatever way the method ends, the committed data are `d` as before. -/
abbrev KeepsCommitted (d : D) (m : Method ε (Session D) α) : Prop :=
  m.Keeps fun s => s.committed = d

/-- Statements in a transaction see the open one, or what is committed, and leave a transaction open. -/
@[simp] theorem on_inTransaction (statements : Method ε D α) (s : Session D) :
    (inTransaction statements).on s =
      ((statements.on s.view).1, { s with transaction := some (statements.on s.view).2 }) := by
  simp [inTransaction]

/-- A session with an open transaction sees it. -/
@[simp] theorem view_inTransaction (committed d : D) :
    view { committed, transaction := some d } = d := rfl

/-- Statements in a transaction commit nothing. -/
theorem keepsCommitted_inTransaction {d : D} (statements : Method ε D α) :
    KeepsCommitted d (inTransaction statements) := by
  intro s hs
  simpa [inTransaction] using hs

/-- Whatever way the method ends, the session's statements find `d` as before. -/
abbrev KeepsView (d : D) (m : Method ε (Session D) α) : Prop := m.Keeps fun s => s.view = d

/-- Statements that only read leave what the session's statements find. -/
theorem keepsView_inTransaction {d : D} {statements : Method ε D α}
    (h : statements.Keeps fun data => data = d) : KeepsView d (inTransaction statements) := by
  intro s hs
  have hview : (statements.on s.view).2 = d := h s.view hs
  simpa [inTransaction, view] using hview

end Session

/-! ## Sequences of requests -/

/-- What each request of a sequence finds, when a request turns the data into `step request data`. -/
def seen (step : R → D → D) : D → List R → List D
  | _, [] => []
  | d, r :: rs => d :: seen step (step r d) rs

/-- The first call sees the state at the start, and the others what the first has left. -/
theorem seen_cons (step : R → D → D) {d : D} {r : R} {rs : List R} :
    seen step d (r :: rs) = d :: seen step (step r d) rs := rfl

/-- Requests that leave the data alone find the same as requests that do not, exactly while the
latter leave the data alone too; what the last request does is found by none. -/
theorem seen_eq_seen_iff {idle step : R → D → D} (hidle : ∀ r d, idle r d = d) {d : D} {rs : List R} :
    seen idle d rs = seen step d rs ↔ ∀ r ∈ rs.dropLast, step r d = d := by
  induction rs with
  | nil => simp [seen]
  | cons r rs ih =>
    cases rs with
    | nil => simp [seen]
    | cons r' rs =>
      rw [List.dropLast_cons_cons, List.forall_mem_cons, ← ih]
      constructor
      · intro h
        rw [seen_cons idle, seen_cons step, hidle, List.cons.injEq] at h
        have hr : step r d = d := (List.cons.inj h.2).1.symm
        rw [hr] at h
        exact ⟨hr, h.2⟩
      · rintro ⟨hr, h⟩
        rw [seen_cons idle, seen_cons step, hidle, hr, h]

end Interaction
