import AgentRuntime.Interaction.Method

/-!
# Runs of a coroutine, part by part

`Proc.Ends env s m x s'`: where `env` answers its calls, the coroutine `m`, started in the environment's
state `s`, ends with the value or exception `x` and leaves the state `s'`. The rules follow the text of the
coroutine, so that a run is computed from the runs of its parts. `Proc.EndsOn` says the same of a coroutine
that works on an object, and what the object has become.
-/

namespace Interaction

namespace Proc

variable {Op : Type} {Ans : Op → Type} {ε S α β : Type} {env : Env Op Ans S} {s s₁ s₂ : S}

/-- The coroutine ends with `x`, in the state `s'`. -/
def Ends (env : Env Op Ans S) (s : S) (m : Proc Op Ans ε Unit α) (x : Except ε α) (s' : S) : Prop :=
  ((m.on ()).exec env s).result = some (x, ()) ∧ ((m.on ()).exec env s).state = s'

/-- A value ends at once. -/
theorem ends_pure (a : α) : Ends env s (pure a : Proc Op Ans ε Unit α) (.ok a) s := ⟨rfl, rfl⟩

/-- So does an exception. -/
theorem ends_throw (e : ε) : Ends env s (throw e : Proc Op Ans ε Unit α) (.error e) s := ⟨rfl, rfl⟩

/-- A result ends as it is. -/
theorem ends_ofExcept (x : Except ε α) : Ends env s (ofExcept x : Proc Op Ans ε Unit α) x s := by
  unfold Ends
  rw [on_ofExcept]
  exact ⟨rfl, rfl⟩

/-- A call ends with its answer, in the state that it leaves. -/
theorem ends_call (o : Op) :
    Ends env s (call o : Proc Op Ans ε Unit (Ans o)) (.ok (env o s).1) (env o s).2 := ⟨rfl, rfl⟩

/-- A call whose answer is a result ends with that result. -/
theorem ends_tryCall (o : Op) (f : Ans o → Except ε α) :
    Ends env s (tryCall o f : Proc Op Ans ε Unit α) (f (env o s).1) (env o s).2 := ⟨rfl, rfl⟩

/-- A coroutine has one run. -/
theorem Ends.unique {m : Proc Op Ans ε Unit α} {x x' : Except ε α} (h : Ends env s m x s₁)
    (h' : Ends env s m x' s₂) : x = x' ∧ s₁ = s₂ := by
  have hresult := Option.some.inj (h.1.symm.trans h'.1)
  exact ⟨congrArg Prod.fst hresult, h.2.symm.trans h'.2⟩

/-- What the first part raises is raised. -/
theorem Ends.bind_error {m : Proc Op Ans ε Unit α} {f : α → Proc Op Ans ε Unit β} {e : ε}
    (hm : Ends env s m (.error e) s₁) : Ends env s (m >>= f) (.error e) s₁ := by
  unfold Ends
  rw [on_bind, Prog.exec_bind, Prog.Exec.andThen, hm.1]
  exact ⟨rfl, hm.2⟩

/-- Where the first part returns, the second follows. -/
theorem Ends.bind {m : Proc Op Ans ε Unit α} {f : α → Proc Op Ans ε Unit β} {a : α} {x : Except ε β}
    (hm : Ends env s m (.ok a) s₁) (hf : Ends env s₁ (f a) x s₂) : Ends env s (m >>= f) x s₂ := by
  unfold Ends
  rw [on_bind, Prog.exec_bind, Prog.Exec.andThen, hm.1, hm.2]
  exact hf

/-- A body that returns is not handled. -/
theorem Ends.tryCatch {m : Proc Op Ans ε Unit α} {a : α} (hm : Ends env s m (.ok a) s₁)
    (h : ε → Proc Op Ans ε Unit α) : Ends env s (tryCatch m h) (.ok a) s₁ := by
  unfold Ends
  rw [on_tryCatch, Prog.exec_bind, Prog.Exec.andThen, hm.1, hm.2]
  exact ⟨rfl, rfl⟩

/-- Whatever way it ends, it goes on from what the first part left. -/
theorem Ends.state_bind {m : Proc Op Ans ε Unit α} {f : α → Proc Op Ans ε Unit β} {a : α}
    (hm : Ends env s m (.ok a) s₁) :
    (((m >>= f).on ()).exec env s).state = (((f a).on ()).exec env s₁).state := by
  rw [on_bind, Prog.exec_bind, Prog.Exec.andThen, hm.1, hm.2]
  rfl

/-- Two parts that leave the state as it is. -/
theorem Ends.andThen {m : Proc Op Ans ε Unit α} {f : α → Proc Op Ans ε Unit β} {x : Except ε α}
    {g : α → Except ε β} (hm : Ends env s m x s₁) (hf : ∀ a, x = .ok a → Ends env s₁ (f a) (g a) s₁) :
    Ends env s (m >>= f) (x >>= g) s₁ := by
  cases x with
  | error e => exact hm.bind_error
  | ok a => exact hm.bind (hf a rfl)

/-- A function of the value is applied to where the coroutine ends. -/
theorem Ends.map {m : Proc Op Ans ε Unit α} {x : Except ε α} (hm : Ends env s m x s₁) (f : α → β) :
    Ends env s (f <$> m) (x.map f) s₁ := by
  rw [map_eq_pure_bind]
  exact hm.andThen fun a _ => ends_pure (f a)

/-- A loop over a list, each round of which leaves the state as it is. -/
theorem ends_mapM {f : α → Proc Op Ans ε Unit β} {g : α → Except ε β}
    (hf : ∀ a, Ends env s (f a) (g a) s) (l : List α) : Ends env s (l.mapM f) (l.mapM g) s := by
  induction l with
  | nil => exact ends_pure []
  | cons a l ih =>
    rw [List.mapM_cons, List.mapM_cons]
    exact (hf a).andThen fun b _ => ih.andThen fun bs _ => ends_pure (b :: bs)

/-- A sequence ends with what its first part raised, or as its second part does. -/
theorem Ends.of_bind {m : Proc Op Ans ε Unit α} {f : α → Proc Op Ans ε Unit β} {x : Except ε β}
    (h : Ends env s (m >>= f) x s₂) :
    (∃ e, Ends env s m (.error e) s₂ ∧ x = .error e) ∨
      ∃ a s₁, Ends env s m (.ok a) s₁ ∧ Ends env s₁ (f a) x s₂ := by
  unfold Ends at h
  rw [on_bind, Prog.exec_bind, Prog.Exec.andThen] at h
  rcases hresult : ((m.on ()).exec env s).result with _ | ⟨e | a, _⟩
  · rw [hresult] at h
    cases h.1
  · rw [hresult] at h
    obtain ⟨hx, hstate⟩ := h
    cases hx
    exact .inl ⟨e, ⟨hresult, hstate⟩, rfl⟩
  · rw [hresult] at h
    exact .inr ⟨a, _, ⟨hresult, rfl⟩, h⟩

/-- The coroutine comes to an end, of which `Q` holds. -/
def EndsIn (env : Env Op Ans S) (s : S) (m : Proc Op Ans ε Unit α) (Q : Except ε α → S → Prop) : Prop :=
  ∃ x s', Ends env s m x s' ∧ Q x s'

section
variable {Q : Except ε α → S → Prop} {R : Except ε β → S → Prop}

/-- An end that satisfies a condition is an end in that condition. -/
theorem Ends.endsIn {m : Proc Op Ans ε Unit α} {x : Except ε α} (h : Ends env s m x s₁) (hQ : Q x s₁) :
    EndsIn env s m Q := ⟨x, s₁, h, hQ⟩

/-- A coroutine ends in a condition if its first part ends in one from which the second leads to it, and from
which an exception is passed on. -/
theorem EndsIn.bind {m : Proc Op Ans ε Unit α} {f : α → Proc Op Ans ε Unit β} (hm : EndsIn env s m Q)
    (herror : ∀ e s', Q (.error e) s' → R (.error e) s')
    (hok : ∀ a s', Q (.ok a) s' → EndsIn env s' (f a) R) : EndsIn env s (m >>= f) R := by
  obtain ⟨x, s₁, hends, hQ⟩ := hm
  cases x with
  | error e => exact hends.bind_error.endsIn (herror e s₁ hQ)
  | ok a =>
    obtain ⟨x, s₂, hf, hR⟩ := hok a s₁ hQ
    exact (hends.bind hf).endsIn hR

/-- A call whose answer is a result leads to a condition if both kinds of result do. -/
theorem endsIn_tryCall_bind {o : Op} {g : Ans o → Except ε α} {f : α → Proc Op Ans ε Unit β}
    (herror : ∀ e, g (env o s).1 = .error e → R (.error e) (env o s).2)
    (hok : ∀ a, g (env o s).1 = .ok a → EndsIn env (env o s).2 (f a) R) :
    EndsIn env s (tryCall o g >>= f) R := by
  cases hanswer : g (env o s).1 with
  | error e =>
    have hends : Ends env s (tryCall o g) _ _ := ends_tryCall o g
    rw [hanswer] at hends
    exact hends.bind_error.endsIn (herror e hanswer)
  | ok a =>
    have hends : Ends env s (tryCall o g) _ _ := ends_tryCall o g
    rw [hanswer] at hends
    obtain ⟨x, s₂, hf, hR⟩ := hok a hanswer
    exact (hends.bind hf).endsIn hR

/-- A call leads to a condition if what follows its answer does. -/
theorem endsIn_call_bind {o : Op} {f : Ans o → Proc Op Ans ε Unit β}
    (h : EndsIn env (env o s).2 (f (env o s).1) R) :
    EndsIn env s ((call o : Proc Op Ans ε Unit (Ans o)) >>= f) R := by
  obtain ⟨x, s₂, hf, hR⟩ := h
  exact ((ends_call o).bind hf).endsIn hR

/-- A condition may be weakened. -/
theorem EndsIn.mono {Q' : Except ε α → S → Prop} {m : Proc Op Ans ε Unit α} (h : EndsIn env s m Q)
    (hQ : ∀ x s', Q x s' → Q' x s') : EndsIn env s m Q' := by
  obtain ⟨x, s', hends, h⟩ := h
  exact ⟨x, s', hends, hQ x s' h⟩

end

/-! ## Coroutines that work on an object -/

variable {σ : Type} {o o₁ o₂ o' : σ} {s' : S}

/-- The coroutine, on the object `o` in the state `s`, ends with `x` and leaves `o'` and `s'`. -/
def EndsOn (env : Env Op Ans S) (m : Proc Op Ans ε σ α) (o : σ) (s : S) (x : Except ε α) (o' : σ)
    (s' : S) : Prop :=
  ((m.on o).exec env s).result = some (x, o') ∧ ((m.on o).exec env s).state = s'

/-- A value ends at once, and leaves the object. -/
theorem endsOn_pure (a : α) : EndsOn env (pure a : Proc Op Ans ε σ α) o s (.ok a) o s := ⟨rfl, rfl⟩

/-- So does an exception. -/
theorem endsOn_throw (e : ε) : EndsOn env (throw e : Proc Op Ans ε σ α) o s (.error e) o s := ⟨rfl, rfl⟩

/-- Reading the object gives it, and leaves it. -/
theorem endsOn_get : EndsOn env (get : Proc Op Ans ε σ σ) o s (.ok o) o s := ⟨rfl, rfl⟩

/-- A call changes the state, and leaves the object. -/
theorem endsOn_call (op : Op) :
    EndsOn env (call op : Proc Op Ans ε σ (Ans op)) o s (.ok (env op s).1) o (env op s).2 := ⟨rfl, rfl⟩

/-- So does a call whose answer is a result. -/
theorem endsOn_tryCall (op : Op) (f : Ans op → Except ε α) :
    EndsOn env (tryCall op f : Proc Op Ans ε σ α) o s (f (env op s).1) o (env op s).2 := ⟨rfl, rfl⟩

/-- What is answered to the call, and the state that is left. -/
theorem endsOn_tryCall_of_eq {op : Op} {a : Ans op} (h : env op s = (a, s')) (f : Ans op → Except ε α) :
    EndsOn env (tryCall op f : Proc Op Ans ε σ α) o s (f a) o s' := by
  have hcall : EndsOn env (tryCall op f : Proc Op Ans ε σ α) o s (f (env op s).1) o (env op s).2 :=
    endsOn_tryCall op f
  rwa [h] at hcall

/-- A method changes the object, and leaves the state. -/
theorem endsOn_method {m : Method ε σ α} {x : Except ε α} (h : m.on o = (x, o')) :
    EndsOn env (method m : Proc Op Ans ε σ α) o s x o' s := by
  unfold EndsOn
  rw [on_method, h]
  exact ⟨rfl, rfl⟩

/-- A result ends as it is. -/
theorem endsOn_ofExcept (x : Except ε α) : EndsOn env (ofExcept x : Proc Op Ans ε σ α) o s x o s := by
  unfold EndsOn
  rw [on_ofExcept]
  exact ⟨rfl, rfl⟩

/-- What the first part raises is raised. -/
theorem EndsOn.bind_error {m : Proc Op Ans ε σ α} {f : α → Proc Op Ans ε σ β} {e : ε}
    (hm : EndsOn env m o s (.error e) o₁ s₁) : EndsOn env (m >>= f) o s (.error e) o₁ s₁ := by
  unfold EndsOn
  rw [on_bind, Prog.exec_bind, Prog.Exec.andThen, hm.1]
  exact ⟨rfl, hm.2⟩

/-- Where the first part returns, the second follows. -/
theorem EndsOn.bind {m : Proc Op Ans ε σ α} {f : α → Proc Op Ans ε σ β} {a : α} {x : Except ε β}
    (hm : EndsOn env m o s (.ok a) o₁ s₁) (hf : EndsOn env (f a) o₁ s₁ x o₂ s₂) :
    EndsOn env (m >>= f) o s x o₂ s₂ := by
  unfold EndsOn
  rw [on_bind, Prog.exec_bind, Prog.Exec.andThen, hm.1, hm.2]
  exact hf

/-- A sequence that returns is one of two parts that return. -/
theorem EndsOn.of_bind {m : Proc Op Ans ε σ α} {f : α → Proc Op Ans ε σ β} {b : β}
    (h : EndsOn env (m >>= f) o s (.ok b) o' s') :
    ∃ a o₁ s₁, EndsOn env m o s (.ok a) o₁ s₁ ∧ EndsOn env (f a) o₁ s₁ (.ok b) o' s' := by
  unfold EndsOn at h
  rw [on_bind, Prog.exec_bind, Prog.Exec.andThen] at h
  rcases hresult : ((m.on o).exec env s).result with _ | ⟨_ | a, o₁⟩
  · rw [hresult] at h
    cases h.1
  · rw [hresult] at h
    cases h.1
  · rw [hresult] at h
    exact ⟨a, o₁, _, ⟨hresult, rfl⟩, h⟩

/-- A body that returns is not handled. -/
theorem EndsOn.tryCatch_ok {m : Proc Op Ans ε σ α} {a : α} (hm : EndsOn env m o s (.ok a) o₁ s₁)
    (h : ε → Proc Op Ans ε σ α) : EndsOn env (tryCatch m h) o s (.ok a) o₁ s₁ := by
  unfold EndsOn
  rw [on_tryCatch, Prog.exec_bind, Prog.Exec.andThen, hm.1, hm.2]
  exact ⟨rfl, rfl⟩

/-- What the body raises is handled. -/
theorem EndsOn.tryCatch_error {m : Proc Op Ans ε σ α} {h : ε → Proc Op Ans ε σ α} {e : ε}
    {x : Except ε α} (hm : EndsOn env m o s (.error e) o₁ s₁) (hh : EndsOn env (h e) o₁ s₁ x o₂ s₂) :
    EndsOn env (tryCatch m h) o s x o₂ s₂ := by
  unfold EndsOn
  rw [on_tryCatch, Prog.exec_bind, Prog.Exec.andThen, hm.1, hm.2]
  exact hh

/-- A coroutine on an object has one run. -/
theorem EndsOn.unique {m : Proc Op Ans ε σ α} {x x' : Except ε α} (h : EndsOn env m o s x o₁ s₁)
    (h' : EndsOn env m o s x' o₂ s₂) : x = x' ∧ o₁ = o₂ ∧ s₁ = s₂ := by
  have hresult := Option.some.inj (h.1.symm.trans h'.1)
  exact ⟨congrArg Prod.fst hresult, congrArg Prod.snd hresult, h.2.symm.trans h'.2⟩

/-- Work on another object is a run on that object. -/
theorem Ends.of_withObject {τ : Type} {b : τ} {m : Proc Op Ans ε τ α} {x : Except ε α}
    (h : Ends env s (withObject b m) x s') : ∃ b', EndsOn env m b s x b' s' := by
  unfold Ends at h
  rw [on_withObject, Prog.exec_bind, Prog.Exec.andThen] at h
  rcases hresult : ((m.on b).exec env s).result with _ | ⟨x', b'⟩
  · rw [hresult] at h
    cases h.1
  · rw [hresult] at h
    obtain ⟨hx, hstate⟩ := h
    cases hx
    exact ⟨b', hresult, hstate⟩

/-- A run satisfies what the coroutine guarantees. -/
theorem EndsOn.of_guar {m : Proc Op Ans ε σ α} {P : Op → Prop} {Q : Except ε α × σ → Prop}
    {x : Except ε α} (h : EndsOn env m o s x o' s') (hm : (m.on o).Guar (fun _ _ => True) P Q) :
    Q (x, o') :=
  (hm.exec env (fun _ _ => trivial) s).2 _ h.1

end Proc

end Interaction
