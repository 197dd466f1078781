import AgentRuntime.Interaction.Prog

/-!
# Methods and coroutines

An object's method may raise, and what it assigned before it raised stays assigned: `Method ε σ` is
the exception transformer over the state monad, in this order. `Proc Op Ans ε σ` is the same stack
over `Prog`, a coroutine that works on a local object of type `σ` and makes calls; a method of the
object is a step of the coroutine (`Proc.method`).

`Method.on` and `Proc.on` run either from an object, and the simp set below computes them, so that
a translated method is evaluated without unfolding the transformers.
-/

namespace Interaction

variable {Op : Type} {Ans : Op → Type} {ε σ α β : Type}

/-- A sequence of fallible computations succeeds when each of the two does. -/
theorem bind_eq_ok {x : Except ε α} {f : α → Except ε β} {b : β} :
    (x >>= f) = .ok b ↔ ∃ a, x = .ok a ∧ f a = .ok b := by
  cases x with
  | error e => simp [bind, Except.bind]
  | ok a => simp [bind, Except.bind]

/-- It fails when one of the two does. -/
theorem bind_eq_error {x : Except ε α} {f : α → Except ε β} {e : ε} :
    (x >>= f) = .error e ↔ x = .error e ∨ ∃ a, x = .ok a ∧ f a = .error e := by
  cases x <;> simp [bind, Except.bind]

/-- A function of a result returns exactly if there is a result to apply it to. -/
theorem map_eq_ok {x : Except ε α} {f : α → β} {b : β} :
    x.map f = .ok b ↔ ∃ a, x = .ok a ∧ f a = b := by
  cases x <;> simp [Except.map]

/-- A list is mapped from its head on. -/
theorem mapM_cons_eq_ok {f : α → Except ε β} {a : α} {l : List α} {bs : List β} :
    (a :: l).mapM f = .ok bs ↔ ∃ b bs', f a = .ok b ∧ l.mapM f = .ok bs' ∧ bs = b :: bs' := by
  rw [List.mapM_cons, bind_eq_ok]
  constructor
  · rintro ⟨b, hb, hrest⟩
    obtain ⟨bs', hbs', hcons⟩ := bind_eq_ok.1 hrest
    exact ⟨b, bs', hb, hbs', (Except.ok.inj hcons).symm⟩
  · rintro ⟨b, bs', hb, hbs', rfl⟩
    exact ⟨b, hb, bind_eq_ok.2 ⟨bs', hbs', rfl⟩⟩

/-- A function that succeeds exactly on what satisfies `P`, with `g`, maps a list exactly if all of it
satisfies `P`. -/
theorem mapM_eq_ok {f : α → Except ε β} {P : α → Prop} {g : α → β}
    (hf : ∀ a b, f a = .ok b ↔ P a ∧ b = g a) {l : List α} {bs : List β} :
    l.mapM f = .ok bs ↔ (∀ a ∈ l, P a) ∧ bs = l.map g := by
  induction l generalizing bs with
  | nil => simp [pure, Except.pure, eq_comm]
  | cons a l ih =>
    rw [mapM_cons_eq_ok, List.forall_mem_cons, List.map_cons]
    constructor
    · rintro ⟨b, bs', hb, hbs', rfl⟩
      obtain ⟨ha, rfl⟩ := (hf a b).1 hb
      obtain ⟨hl, rfl⟩ := ih.1 hbs'
      exact ⟨⟨ha, hl⟩, rfl⟩
    · rintro ⟨⟨ha, hl⟩, rfl⟩
      exact ⟨g a, l.map g, (hf a _).2 ⟨ha, rfl⟩, ih.2 ⟨hl, rfl⟩, rfl⟩

/-- A list is mapped exactly if each of its elements is. -/
theorem exists_mapM_eq_ok {f : α → Except ε β} {l : List α} :
    (∃ bs, l.mapM f = .ok bs) ↔ ∀ a ∈ l, ∃ b, f a = .ok b := by
  induction l with
  | nil => simp [pure, Except.pure]
  | cons a l ih =>
    rw [List.forall_mem_cons, ← ih]
    constructor
    · rintro ⟨bs, hbs⟩
      obtain ⟨b, bs', hb, hbs', -⟩ := mapM_cons_eq_ok.1 hbs
      exact ⟨⟨b, hb⟩, ⟨bs', hbs'⟩⟩
    · rintro ⟨⟨b, hb⟩, ⟨bs, hbs⟩⟩
      exact ⟨b :: bs, mapM_cons_eq_ok.2 ⟨b, bs, hb, hbs, rfl⟩⟩

/-- What holds of an element whenever it holds of what it is mapped to holds of all or of neither list. -/
theorem forall_mem_of_mapM_eq_ok {f : α → Except ε β} {p : α → Prop} {q : β → Prop}
    (hf : ∀ a b, f a = .ok b → (p a ↔ q b)) {l : List α} {bs : List β} (h : l.mapM f = .ok bs) :
    (∀ a ∈ l, p a) ↔ ∀ b ∈ bs, q b := by
  induction l generalizing bs with
  | nil =>
    obtain rfl : [] = bs := Except.ok.inj h
    simp
  | cons a l ih =>
    obtain ⟨b, bs', hb, hbs', rfl⟩ := mapM_cons_eq_ok.1 h
    rw [List.forall_mem_cons, List.forall_mem_cons, hf a b hb, ih hbs']

/-- What a list is mapped to comes from its elements. -/
theorem mem_of_mapM_eq_ok {f : α → Except ε β} {l : List α} {bs : List β} (h : l.mapM f = .ok bs) :
    ∀ b ∈ bs, ∃ a ∈ l, f a = .ok b := by
  induction l generalizing bs with
  | nil =>
    obtain rfl : [] = bs := Except.ok.inj h
    simp
  | cons a l ih =>
    obtain ⟨b, bs', hb, hbs', rfl⟩ := mapM_cons_eq_ok.1 h
    refine List.forall_mem_cons.2 ⟨⟨a, List.mem_cons_self, hb⟩, fun b' hb' => ?_⟩
    obtain ⟨a', ha', hfa'⟩ := ih hbs' b' hb'
    exact ⟨a', List.mem_cons_of_mem a ha', hfa'⟩

/-- A method of an object of type `σ` raising exceptions of type `ε`. -/
abbrev Method (ε σ : Type) := ExceptT ε (StateM σ)

namespace Method

/-- The method called on `s`: its result or exception, and the object afterwards. -/
def on (m : Method ε σ α) (s : σ) : Except ε α × σ := (m.run.run s).run

/-- A value returns at once. -/
@[simp] theorem on_pure (a : α) (s : σ) : (pure a : Method ε σ α).on s = (.ok a, s) := rfl

/-- The second part goes on from what the first has returned and left, unless that has raised. -/
@[simp] theorem on_bind (m : Method ε σ α) (f : α → Method ε σ β) (s : σ) :
    (m >>= f).on s = match m.on s with
      | (.ok a, s') => (f a).on s'
      | (.error e, s') => (.error e, s') := by
  change ((m >>= f).run.run s).run = _
  rw [ExceptT.run_bind, StateT.run_bind]
  unfold on
  rcases h : (m.run.run s).run with ⟨_ | _, s'⟩ <;> simp_all [Id.run] <;> rfl

/-- A method in two parts returns when each part does. -/
theorem on_bind_eq_ok {m : Method ε σ α} {f : α → Method ε σ β} {s s' : σ} {b : β} :
    (m >>= f).on s = (.ok b, s') ↔ ∃ a s₁, m.on s = (.ok a, s₁) ∧ (f a).on s₁ = (.ok b, s') := by
  rw [on_bind]
  rcases m.on s with ⟨_ | _, _⟩ <;> simp

/-- A function of the value leaves the object as the method does. -/
@[simp] theorem on_map (f : α → β) (m : Method ε σ α) (s : σ) :
    (f <$> m).on s = ((m.on s).1.map f, (m.on s).2) := by
  rw [map_eq_pure_bind, on_bind]
  rcases m.on s with ⟨_ | _, s'⟩ <;> rfl

/-- An exception leaves the object. -/
@[simp] theorem on_throw (e : ε) (s : σ) : (throw e : Method ε σ α).on s = (.error e, s) := rfl

/-- Reading the object returns it. -/
@[simp] theorem on_get (s : σ) : (get : Method ε σ σ).on s = (.ok s, s) := rfl

/-- Assigning it replaces it. -/
@[simp] theorem on_set (s s' : σ) : (set s' : Method ε σ PUnit).on s = (.ok ⟨⟩, s') := rfl

/-- Changing it applies the function. -/
@[simp] theorem on_modify (f : σ → σ) (s : σ) :
    (modify f : Method ε σ PUnit).on s = (.ok ⟨⟩, f s) := rfl

/-- A condition chooses between two methods. -/
@[simp] theorem on_ite (c : Prop) [Decidable c] (m n : Method ε σ α) (s : σ) :
    (if c then m else n).on s = if c then m.on s else n.on s := by
  split <;> rfl

/-- An exception handler sees the object as the body left it. -/
@[simp] theorem on_tryCatch (m : Method ε σ α) (h : ε → Method ε σ α) (s : σ) :
    (tryCatch m h).on s = match m.on s with
      | (.ok a, s') => (.ok a, s')
      | (.error e, s') => (h e).on s' := by
  let handled (r : Except ε α × σ) : Except ε α × σ :=
    (match r.1 with
      | .ok a => (pure (.ok a) : StateM σ (Except ε α))
      | .error e => (h e).run).run r.2
  change handled (m.on s) = _
  rcases m.on s with ⟨_ | _, s'⟩ <;> rfl

/-- A value or an exception computed without the object. -/
def ofExcept (x : Except ε α) : Method ε σ α :=
  match x with
  | .ok a => pure a
  | .error e => throw e

/-- A result returns or raises as it is. -/
@[simp] theorem on_ofExcept (x : Except ε α) (s : σ) : (ofExcept x : Method ε σ α).on s = (x, s) := by
  cases x <;> rfl

/-- A method of a part of the object. -/
def within {τ : Type} (part : σ → τ) (put : τ → σ → σ) (m : Method ε τ α) : Method ε σ α :=
  ExceptT.mk fun s => ((m.on (part s)).1, put (m.on (part s)).2 s)

/-- A method of a part works on the part, which is put back. -/
@[simp] theorem on_within {τ : Type} (part : σ → τ) (put : τ → σ → σ) (m : Method ε τ α) (s : σ) :
    (within part put m).on s = ((m.on (part s)).1, put (m.on (part s)).2 s) := rfl

/-- Whatever way the method ends, it keeps `I` of its object. -/
def Keeps (I : σ → Prop) (m : Method ε σ α) : Prop := ∀ s, I s → I (m.on s).2

section
variable {I : σ → Prop}

/-- A value keeps every invariant. -/
@[simp] theorem keeps_pure (a : α) : (pure a : Method ε σ α).Keeps I := fun _ h => h

/-- So does an exception. -/
@[simp] theorem keeps_throw (e : ε) : (throw e : Method ε σ α).Keeps I := fun _ h => h

/-- So does a result. -/
@[simp] theorem keeps_ofExcept (x : Except ε α) : (ofExcept x : Method ε σ α).Keeps I :=
  fun s h => by rwa [on_ofExcept]

/-- A change keeps the invariants that it keeps of every object. -/
@[simp] theorem keeps_modify (f : σ → σ) :
    (modify f : Method ε σ PUnit).Keeps I ↔ ∀ s, I s → I (f s) := Iff.rfl

/-- Two parts that keep an invariant keep it one after the other. -/
theorem keeps_bind {m : Method ε σ α} {f : α → Method ε σ β} (hm : m.Keeps I)
    (hf : ∀ a, (f a).Keeps I) : (m >>= f).Keeps I := by
  intro s hs
  have h := hm s hs
  rw [on_bind]
  rcases hms : m.on s with ⟨e | a, s'⟩ <;> rw [hms] at h
  · exact h
  · exact hf a s' h

/-- A function of the value keeps what the method keeps. -/
theorem keeps_map {f : α → β} {m : Method ε σ α} (hm : m.Keeps I) : (f <$> m).Keeps I := by
  intro s hs
  rw [on_map]
  exact hm s hs

/-- After reading its object, a method knows that `I` holds of what it read. -/
theorem keeps_get_bind {f : σ → Method ε σ β} (hf : ∀ s, I s → (f s).Keeps I) :
    ((get : Method ε σ σ) >>= f).Keeps I := by
  intro s hs
  rw [on_bind]
  exact hf s hs s hs

/-- A handler that keeps it keeps it after an exception. -/
theorem keeps_tryCatch {m : Method ε σ α} {h : ε → Method ε σ α} (hm : m.Keeps I)
    (hh : ∀ e, (h e).Keeps I) : (tryCatch m h : Method ε σ α).Keeps I := by
  intro s hs
  have hbody := hm s hs
  rw [on_tryCatch]
  rcases hms : m.on s with ⟨e | a, s'⟩ <;> rw [hms] at hbody
  · exact hh e s' hbody
  · exact hbody

/-- A choice keeps it if both branches do, each where it is taken. -/
theorem keeps_ite {c : Prop} [Decidable c] {m n : Method ε σ α} (hm : c → m.Keeps I)
    (hn : ¬c → n.Keeps I) : (if c then m else n).Keeps I := by
  split
  · next h => exact hm h
  · next h => exact hn h

end

end Method

/-- A coroutine on a local object of type `σ`, making calls in `Op` and raising `ε`. -/
abbrev Proc (Op : Type) (Ans : Op → Type) (ε σ : Type) := ExceptT ε (StateT σ (Prog Op Ans))

namespace Proc

/-- The coroutine started on `s`. -/
def on (m : Proc Op Ans ε σ α) (s : σ) : Prog Op Ans (Except ε α × σ) := m.run.run s

/-- Make one call. -/
def call (o : Op) : Proc Op Ans ε σ (Ans o) := (Prog.perform o : Prog Op Ans (Ans o))

/-- Make one call whose answer may be an exception. -/
def tryCall (o : Op) (f : Ans o → Except ε α) : Proc Op Ans ε σ α :=
  ExceptT.mk (fun s => Prog.call o fun r => Prog.ret (f r, s))

/-- Call a method of the local object. -/
def method (m : Method ε σ α) : Proc Op Ans ε σ α :=
  ExceptT.mk (fun s => Prog.ret (m.on s))

/-- A value or an exception computed without a call. -/
def ofExcept (x : Except ε α) : Proc Op Ans ε σ α :=
  match x with
  | .ok a => pure a
  | .error e => throw e

/-- Work on another object `s`, fetched or created for the rest of the body. -/
def withObject {τ : Type} (s : τ) (m : Proc Op Ans ε τ α) : Proc Op Ans ε σ α :=
  ExceptT.mk (fun s₀ => m.on s >>= fun r => Prog.ret (r.1, s₀))

/-- The fuel is spent. -/
def unfinished : Proc Op Ans ε σ α := ExceptT.mk (fun _ => Prog.unfinished)

/-- A value returns at once, without a call. -/
@[simp] theorem on_pure (a : α) (s : σ) :
    (pure a : Proc Op Ans ε σ α).on s = .ret (.ok a, s) := rfl

/-- What a coroutine does after its first part: continue, or let the exception through. -/
def thenOn (f : α → Proc Op Ans ε σ β) : Except ε α × σ → Prog Op Ans (Except ε β × σ)
  | (.ok a, s) => (f a).on s
  | (.error e, s) => .ret (.error e, s)

/-- After a value the coroutine goes on. -/
@[simp] theorem thenOn_ok (f : α → Proc Op Ans ε σ β) (a : α) (s : σ) :
    thenOn f (.ok a, s) = (f a).on s := rfl

/-- After an exception it does not. -/
@[simp] theorem thenOn_error (f : α → Proc Op Ans ε σ β) (e : ε) (s : σ) :
    thenOn f (.error e, s) = .ret (.error e, s) := rfl

/-- The calls of two parts are those of the first, and then those of the second. -/
@[simp] theorem on_bind (m : Proc Op Ans ε σ α) (f : α → Proc Op Ans ε σ β) (s : σ) :
    (m >>= f).on s = m.on s >>= thenOn f := by
  change (m >>= f).run.run s = _
  rw [ExceptT.run_bind, StateT.run_bind]
  refine congrArg (m.on s >>= ·) (funext ?_)
  rintro ⟨_ | _, s'⟩ <;> rfl

/-- A function of the value adds no call. -/
@[simp] theorem on_map (f : α → β) (m : Proc Op Ans ε σ α) (s : σ) :
    (f <$> m).on s = m.on s >>= thenOn fun a => pure (f a) := by
  rw [map_eq_pure_bind, on_bind]

/-- An exception ends the coroutine without a call. -/
@[simp] theorem on_throw (e : ε) (s : σ) :
    (throw e : Proc Op Ans ε σ α).on s = .ret (.error e, s) := rfl

/-- What `try … except` does after its body. -/
def catchOn (h : ε → Proc Op Ans ε σ α) : Except ε α × σ → Prog Op Ans (Except ε α × σ)
  | (.ok a, s) => .ret (.ok a, s)
  | (.error e, s) => (h e).on s

/-- A value is not handled. -/
@[simp] theorem catchOn_ok (h : ε → Proc Op Ans ε σ α) (a : α) (s : σ) :
    catchOn h (.ok a, s) = .ret (.ok a, s) := rfl

/-- An exception is. -/
@[simp] theorem catchOn_error (h : ε → Proc Op Ans ε σ α) (e : ε) (s : σ) :
    catchOn h (.error e, s) = (h e).on s := rfl

/-- An exception handler sees the object as the body left it. -/
@[simp] theorem on_tryCatch (m : Proc Op Ans ε σ α) (h : ε → Proc Op Ans ε σ α) (s : σ) :
    (tryCatch m h).on s = m.on s >>= catchOn h := by
  change (ExceptT.tryCatch m h).run.run s = _
  refine congrArg (m.on s >>= ·) (funext ?_)
  rintro ⟨_ | _, s'⟩ <;> rfl

/-- Reading the object is no call. -/
@[simp] theorem on_get (s : σ) : (get : Proc Op Ans ε σ σ).on s = .ret (.ok s, s) := rfl

/-- Neither is assigning it. -/
@[simp] theorem on_set (s s' : σ) : (set s' : Proc Op Ans ε σ PUnit).on s = .ret (.ok ⟨⟩, s') := rfl

/-- Neither is changing it. -/
@[simp] theorem on_modify (f : σ → σ) (s : σ) :
    (modify f : Proc Op Ans ε σ PUnit).on s = .ret (.ok ⟨⟩, f s) := rfl

/-- A call returns its answer. -/
@[simp] theorem on_call (o : Op) (s : σ) :
    (call o : Proc Op Ans ε σ (Ans o)).on s = .call o fun r => .ret (.ok r, s) := rfl

/-- A call whose answer is a result returns or raises with it. -/
@[simp] theorem on_tryCall (o : Op) (f : Ans o → Except ε α) (s : σ) :
    (tryCall o f : Proc Op Ans ε σ α).on s = .call o fun r => .ret (f r, s) := rfl

/-- A coroutine on another object leaves this one. -/
@[simp] theorem on_withObject {τ : Type} (s : τ) (m : Proc Op Ans ε τ α) (s₀ : σ) :
    (Proc.withObject s m : Proc Op Ans ε σ α).on s₀ = m.on s >>= fun r => .ret (r.1, s₀) := rfl

/-- A method runs without a call. -/
@[simp] theorem on_method (m : Method ε σ α) (s : σ) :
    (method m : Proc Op Ans ε σ α).on s = .ret (m.on s) := rfl

/-- A result returns or raises without a call. -/
@[simp] theorem on_ofExcept (x : Except ε α) (s : σ) :
    (ofExcept x : Proc Op Ans ε σ α).on s = .ret (x, s) := by
  cases x <;> rfl

/-- Out of fuel, the coroutine does not return. -/
@[simp] theorem on_unfinished (s : σ) :
    (unfinished : Proc Op Ans ε σ α).on s = .unfinished := rfl

/-- A condition chooses between two coroutines. -/
@[simp] theorem on_ite (c : Prop) [Decidable c] (m n : Proc Op Ans ε σ α) (s : σ) :
    (if c then m else n).on s = if c then m.on s else n.on s := by
  split <;> rfl

/-! ## Guarantees of a coroutine

The rules follow the coroutine's text: what comes after a step is guaranteed for each way the step
can end.
-/

section
variable {A : (o : Op) → Ans o → Prop} {P : Op → Prop} {R : Except ε β × σ → Prop}

/-- What follows a result guarantees what follows its value, and what is demanded of its exception. -/
@[simp] theorem guar_thenOn {f : α → Proc Op Ans ε σ β} {r : Except ε α × σ} :
    (thenOn f r).Guar A P R ↔
      (∀ a, r.1 = .ok a → ((f a).on r.2).Guar A P R) ∧ ∀ e, r.1 = .error e → R (.error e, r.2) := by
  obtain ⟨_ | _, s⟩ := r <;> simp

/-- A guarantee of a sequence: from one of its first part, and of its second part or of the
exception. -/
theorem guar_bind {Q : Except ε α × σ → Prop} {p : Prog Op Ans (Except ε α × σ)}
    {f : α → Proc Op Ans ε σ β} (hp : p.Guar A P Q)
    (hok : ∀ a s, Q (.ok a, s) → ((f a).on s).Guar A P R)
    (herror : ∀ e s, Q (.error e, s) → R (.error e, s)) :
    (p >>= thenOn f).Guar A P R := by
  refine hp.bind ?_
  rintro ⟨a | e, s⟩ h
  · exact herror _ s h
  · exact hok _ s h

/-- After reading the object the coroutine guarantees what it does for that object. -/
theorem guar_get_bind {f : σ → Proc Op Ans ε σ β} {s : σ} (hf : ((f s).on s).Guar A P R) :
    (((get : Proc Op Ans ε σ σ) >>= f).on s).Guar A P R := by
  rw [on_bind]
  exact hf

/-- A call that is allowed may be made if what follows guarantees the same for every answer. -/
theorem guar_call_bind {o : Op} {f : Ans o → Proc Op Ans ε σ β} {s : σ} (ho : P o)
    (hf : ∀ r, A o r → ((f r).on s).Guar A P R) :
    (((call o : Proc Op Ans ε σ (Ans o)) >>= f).on s).Guar A P R := by
  rw [on_bind]
  exact ⟨ho, hf⟩

/-- The same of a call whose answer is a result, for either kind of result. -/
theorem guar_tryCall_bind {o : Op} {f : Ans o → Except ε α} {g : α → Proc Op Ans ε σ β} {s : σ}
    (ho : P o) (hok : ∀ r a, A o r → f r = .ok a → ((g a).on s).Guar A P R)
    (herror : ∀ r e, A o r → f r = .error e → R (.error e, s)) :
    (((tryCall o f : Proc Op Ans ε σ α) >>= g).on s).Guar A P R := by
  rw [on_bind]
  exact ⟨ho, fun r hr => guar_thenOn.2 ⟨fun a ha => hok r a hr ha, fun e he => herror r e hr he⟩⟩

/-- A function of the value changes only what is said about the value. -/
theorem guar_map {f : α → β} {m : Proc Op Ans ε σ α} {s : σ}
    (hm : (m.on s).Guar A P fun r => R (r.1.map f, r.2)) :
    (((f <$> m : Proc Op Ans ε σ β)).on s).Guar A P R := by
  rw [on_map]
  refine hm.bind ?_
  rintro ⟨e | a, s'⟩ hr
  · exact hr
  · exact hr

/-- A guarantee of `try … except`: from one of its body, and of the handler of each exception. -/
theorem guar_tryCatch {Q : Except ε β × σ → Prop} {m : Proc Op Ans ε σ β}
    {h : ε → Proc Op Ans ε σ β} {s : σ} (hm : (m.on s).Guar A P Q)
    (hok : ∀ a s, Q (.ok a, s) → R (.ok a, s))
    (herror : ∀ e s, Q (.error e, s) → ((h e).on s).Guar A P R) :
    ((tryCatch m h).on s).Guar A P R := by
  rw [on_tryCatch]
  refine hm.bind ?_
  rintro ⟨e | a, s'⟩ hq
  · exact herror e s' hq
  · exact hok a s' hq

/-- The handler of a body that raises nothing is not reached. -/
theorem guar_tryCatch_of_ok {m : Proc Op Ans ε σ β} {s : σ} (hm : (m.on s).Guar A P R)
    (hok : ∀ e s, ¬R (.error e, s)) (h : ε → Proc Op Ans ε σ β) : ((tryCatch m h).on s).Guar A P R :=
  guar_tryCatch hm (fun _ _ => id) fun e s' hr => absurd hr (hok e s')

/-- Answered according to `A`, the coroutine keeps `I` of its object and makes calls in `P`. -/
def Keeps (A : (o : Op) → Ans o → Prop) (P : Op → Prop) (I : σ → Prop) (m : Proc Op Ans ε σ α) :
    Prop :=
  ∀ s, I s → (m.on s).Guar A P fun r => I r.2

variable {I : σ → Prop}

/-- A value keeps every invariant, and makes no call. -/
@[simp] theorem keeps_pure (a : α) : (pure a : Proc Op Ans ε σ α).Keeps A P I := fun _ h => h

/-- So does an exception. -/
@[simp] theorem keeps_throw (e : ε) : (throw e : Proc Op Ans ε σ α).Keeps A P I := fun _ h => h

/-- So does a coroutine that runs out of fuel. -/
@[simp] theorem keeps_unfinished : (unfinished : Proc Op Ans ε σ α).Keeps A P I :=
  fun _ _ => trivial

/-- So does a result. -/
@[simp] theorem keeps_ofExcept (x : Except ε α) : (ofExcept x : Proc Op Ans ε σ α).Keeps A P I :=
  fun s h => by rw [on_ofExcept]; exact h

/-- A method that keeps the invariant keeps it here. -/
@[simp] theorem keeps_method {m : Method ε σ α} (hm : m.Keeps I) :
    (method m : Proc Op Ans ε σ α).Keeps A P I := hm

/-- So does a change. -/
@[simp] theorem keeps_modify {f : σ → σ} (hf : ∀ s, I s → I (f s)) :
    (modify f : Proc Op Ans ε σ PUnit).Keeps A P I := hf

/-- A call that is allowed leaves the object. -/
@[simp] theorem keeps_call {o : Op} (ho : P o) : (call o : Proc Op Ans ε σ (Ans o)).Keeps A P I :=
  fun _ h => ⟨ho, fun _ _ => h⟩

/-- So does a call whose answer is a result. -/
@[simp] theorem keeps_tryCall {o : Op} {f : Ans o → Except ε α} (ho : P o) :
    (tryCall o f : Proc Op Ans ε σ α).Keeps A P I := fun _ h => ⟨ho, fun _ _ => h⟩

/-- Two parts that keep an invariant keep it one after the other. -/
theorem keeps_bind {m : Proc Op Ans ε σ α} {f : α → Proc Op Ans ε σ β} (hm : m.Keeps A P I)
    (hf : ∀ a, (f a).Keeps A P I) : (m >>= f).Keeps A P I := by
  intro s hs
  rw [on_bind]
  exact guar_bind (hm s hs) (fun a s' h => hf a s' h) (fun _ _ h => h)

/-- A function of the value keeps what the coroutine keeps. -/
theorem keeps_map {f : α → β} {m : Proc Op Ans ε σ α} (hm : m.Keeps A P I) : (f <$> m).Keeps A P I :=
  fun s hs => guar_map (hm s hs)

/-- After a first part that leaves the object as it is. -/
theorem guar_bind_of_keeps {m : Proc Op Ans ε σ α} {f : α → Proc Op Ans ε σ β} {s : σ}
    (hm : m.Keeps A P (· = s)) (hf : ∀ a, ((f a).on s).Guar A P R) (herror : ∀ e, R (.error e, s)) :
    ((m >>= f).on s).Guar A P R := by
  rw [on_bind]
  refine guar_bind (hm s rfl) ?_ ?_
  · rintro a _ rfl
    exact hf a
  · rintro e _ rfl
    exact herror e

/-- After reading its object, a coroutine knows that `I` holds of what it read. -/
theorem keeps_get_bind {f : σ → Proc Op Ans ε σ β} (hf : ∀ s, I s → (f s).Keeps A P I) :
    ((get : Proc Op Ans ε σ σ) >>= f).Keeps A P I := by
  intro s hs
  exact guar_get_bind (hf s hs s hs)

/-- After a call, a coroutine knows that `A` holds of the answer. -/
theorem keeps_tryCall_bind {o : Op} {f : Ans o → Except ε α} {g : α → Proc Op Ans ε σ β} (ho : P o)
    (hg : ∀ r a, A o r → f r = .ok a → (g a).Keeps A P I) :
    ((tryCall o f : Proc Op Ans ε σ α) >>= g).Keeps A P I := by
  intro s hs
  exact guar_tryCall_bind ho (fun r a hr ha => hg r a hr ha s hs) fun _ _ _ _ => hs

/-- A choice keeps it if both branches do, each where it is taken. -/
theorem keeps_ite {c : Prop} [Decidable c] {m n : Proc Op Ans ε σ α} (hm : c → m.Keeps A P I)
    (hn : ¬c → n.Keeps A P I) : (if c then m else n).Keeps A P I := by
  split
  · next h => exact hm h
  · next h => exact hn h

/-- A handler that keeps it keeps it after an exception. -/
theorem keeps_tryCatch {m : Proc Op Ans ε σ α} {h : ε → Proc Op Ans ε σ α} (hm : m.Keeps A P I)
    (hh : ∀ e, (h e).Keeps A P I) : (tryCatch m h).Keeps A P I := by
  intro s hs
  exact guar_tryCatch (hm s hs) (fun _ _ h' => h') fun e s' h' => hh e s' h'

/-- Work on another object that satisfies `J` leaves the coroutine's own alone. -/
theorem keeps_withObject {τ : Type} {J : τ → Prop} {s : τ} {m : Proc Op Ans ε τ α} (hs : J s)
    (hm : m.Keeps A P J) : (withObject s m : Proc Op Ans ε σ α).Keeps A P I := by
  intro s₀ hs₀
  rw [on_withObject]
  exact (hm s hs).bind fun _ _ => hs₀

end

end Proc

end Interaction
