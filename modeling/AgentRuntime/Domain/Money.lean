import AgentRuntime.Python.Values
import Mathlib.Order.Defs.LinearOrder

/-!
# Money and token usage

The value objects of `app/domain/value_objects/money.py`. Their constructors refuse a negative
amount and a total that is not the sum; here such a value cannot be built at all, and the
constructors of the source are the partial functions `Money.ofInt` and `TokenUsage.ofInts`.
-/

namespace AgentRuntime

/-- An amount of money in micro-units (1/1,000,000). -/
structure Money where
  microUnits : Nat
  deriving DecidableEq, Repr

namespace Money

/-- `Money(micro_units)`. -/
def ofInt (microUnits : Int) : Except PyError Money :=
  if microUnits < 0 then
    .error (.valueError "micro_units cannot be negative")
  else
    .ok ⟨microUnits.toNat⟩

/-- Money is made of the integers that are not negative. -/
theorem ofInt_eq_ok {n : Int} {m : Money} : ofInt n = .ok m ↔ n = m.microUnits := by
  unfold ofInt
  split
  · simp only [reduceCtorEq, false_iff]; omega
  · rw [Except.ok.injEq]
    exact ⟨fun h => by rw [← h]; simp; omega, fun h => by simp [h]⟩

instance : Zero Money := ⟨⟨0⟩⟩

instance : Add Money := ⟨fun a b => ⟨a.microUnits + b.microUnits⟩⟩

instance : LE Money := ⟨fun a b => a.microUnits ≤ b.microUnits⟩

instance : LT Money := ⟨fun a b => a.microUnits < b.microUnits⟩

instance : DecidableLE Money := fun a b => inferInstanceAs (Decidable (a.microUnits ≤ b.microUnits))

instance : DecidableLT Money := fun a b => inferInstanceAs (Decidable (a.microUnits < b.microUnits))

/-- The micro-units of a sum are the sum. -/
@[simp] theorem microUnits_add (a b : Money) : (a + b).microUnits = a.microUnits + b.microUnits :=
  rfl

/-- Amounts are compared by their micro-units. -/
@[simp] theorem lt_iff (a b : Money) : a < b ↔ a.microUnits < b.microUnits := Iff.rfl

/-- `a - b`, refused when the result would be negative. -/
def sub (a b : Money) : Except PyError Money :=
  if a < b then
    .error (.valueError "Result would be negative")
  else
    .ok ⟨a.microUnits - b.microUnits⟩

end Money

/-- A token usage record: the total is the sum of its parts. -/
structure TokenUsage where
  promptTokens : Nat
  completionTokens : Nat
  totalTokens : Nat
  total_eq : totalTokens = promptTokens + completionTokens

instance : Zero TokenUsage := ⟨⟨0, 0, 0, rfl⟩⟩

instance : Add TokenUsage where
  add a b :=
    { promptTokens := a.promptTokens + b.promptTokens
      completionTokens := a.completionTokens + b.completionTokens
      totalTokens := a.totalTokens + b.totalTokens
      total_eq := by rw [a.total_eq, b.total_eq]; omega }

/-- The tokens of two usages are added. -/
@[simp] theorem TokenUsage.totalTokens_add (a b : TokenUsage) :
    (a + b).totalTokens = a.totalTokens + b.totalTokens := rfl

/-- No usage has no tokens. -/
@[simp] theorem TokenUsage.totalTokens_zero : (0 : TokenUsage).totalTokens = 0 := rfl

/-- `TokenUsage(prompt_tokens, completion_tokens, total_tokens)`. -/
def TokenUsage.ofInts (promptTokens completionTokens totalTokens : Int) :
    Except PyError TokenUsage :=
  if h : promptTokens < 0 ∨ completionTokens < 0 then
    .error (.valueError "Token counts cannot be negative")
  else if ht : totalTokens = promptTokens + completionTokens then
    .ok ⟨promptTokens.toNat, completionTokens.toNat, totalTokens.toNat, by omega⟩
  else
    .error (.valueError "total_tokens must equal prompt + completion")

end AgentRuntime
