import AgentRuntime.Cache.Hashes
import AgentRuntime.Interaction.BigStep
import AgentRuntime.Python.Values

/-!
# The budget cache

`BudgetCache` (`app/infrastructure/cache/budget_cache.py`): the budget of a run and the budgets of a
tenant, each a hash that expires. An exception of Redis or of a conversion is taken for a budget that is
not there, or for a write that failed. An amount in dollars is the number that the float stands for, and
its text spells it.
-/

namespace AgentRuntime

open Interaction

open Redis (Hash Numeral)

/-- The commands that the budget cache awaits. -/
inductive BudgetCacheCall where
  | hgetall (key : String)
  | hget (key field : String)
  | hset (key : String) (values : List (String × Numeral))
  | hincrby (key field : String) (amount : Int)
  | expire (key : String) (seconds : Int)
  | delete (key : String)

/-- The type of the answer to a command. -/
@[reducible] def BudgetCacheCall.Ans : BudgetCacheCall → Type
  | hgetall _ => Except PyError Hash
  | hget _ _ => Except PyError (Option Numeral)
  | hset _ _ => Except PyError Unit
  | hincrby _ _ _ => Except PyError Int
  | expire _ _ => Except PyError Bool
  | delete _ => Except PyError Nat

/-- A coroutine of the budget cache. -/
abbrev BudgetCoroutine := Proc BudgetCacheCall BudgetCacheCall.Ans PyError Unit

/-- The dictionary that `get_run_budget` returns. -/
structure CachedRunBudget where
  maxCostMicrounits : Int
  spentCostMicrounits : Int
  maxSteps : Int
  currentSteps : Int
  timeoutSeconds : Int := 90
  deriving DecidableEq, Repr

/-- The dictionary that `get_tenant_budget` returns. -/
structure CachedTenantBudget where
  maxBudgetUsd : Rat
  spentBudgetUsd : Rat
  deriving DecidableEq, Repr

/-- Redis-based cache for budget tracking. -/
structure BudgetCache where
  ttl : Int := 300
  deriving DecidableEq, Repr

namespace BudgetCache

variable (self : BudgetCache)

/-- Generate Redis key for run budget data. -/
def runBudgetKey (runId : String) : String := s!"budget:run:{runId}"

/-- Generate Redis key for tenant budget data. -/
def tenantBudgetKey (tenantId budgetType : String) : String := s!"budget:tenant:{tenantId}:{budgetType}"

/-- `int(data.get(field, default))`. -/
def intField (data : Hash) (field : String) (default : Int) : Except PyError Int :=
  match (data.lookup field).getD (.int default) with
  | .int n => .ok n
  | .float _ => .error (.valueError "invalid literal for int() with base 10")

/-- The dictionary of a run, out of its hash. -/
def runBudgetOf (data : Hash) : Except PyError CachedRunBudget := do
  let maxCost ← intField data "max_cost" 0
  let spent ← intField data "spent" 0
  let maxSteps ← intField data "max_steps" 0
  let currentSteps ← intField data "current_steps" 0
  let timeout ← intField data "timeout" 90
  return ⟨maxCost, spent, maxSteps, currentSteps, timeout⟩

/-- The hash of a run, out of the arguments of `set_run_budget`. -/
def runMapping (budget : CachedRunBudget) : List (String × Numeral) :=
  [("max_cost", .int budget.maxCostMicrounits), ("spent", .int budget.spentCostMicrounits),
    ("max_steps", .int budget.maxSteps), ("current_steps", .int budget.currentSteps),
    ("timeout", .int budget.timeoutSeconds)]

/-- Get cached budget data for a run. -/
def getRunBudget (runId : String) : BudgetCoroutine (Option CachedRunBudget) :=
  tryCatch
    (do
      let data ← Proc.tryCall (.hgetall (runBudgetKey runId)) id
      if data.entries.isEmpty then return none
      else return some (← Proc.ofExcept (runBudgetOf data)))
    fun _ => return none

/-- Cache budget data for a run. -/
def setRunBudget (runId : String) (budget : CachedRunBudget) : BudgetCoroutine Bool :=
  tryCatch
    (do
      Proc.tryCall (.hset (runBudgetKey runId) (runMapping budget)) id
      let _ ← Proc.tryCall (.expire (runBudgetKey runId) self.ttl) id
      return true)
    fun _ => return false

/-- Increment spent cost for a run in cache. -/
def incrementRunSpent (runId : String) (amountMicrounits : Int) : BudgetCoroutine Bool :=
  tryCatch
    (do
      let _ ← Proc.tryCall (.hincrby (runBudgetKey runId) "spent" amountMicrounits) id
      let _ ← Proc.tryCall (.expire (runBudgetKey runId) self.ttl) id
      return true)
    fun _ => return false

/-- Increment step count for a run in cache. -/
def incrementRunSteps (runId : String) : BudgetCoroutine Bool :=
  tryCatch
    (do
      let _ ← Proc.tryCall (.hincrby (runBudgetKey runId) "current_steps" 1) id
      let _ ← Proc.tryCall (.expire (runBudgetKey runId) self.ttl) id
      return true)
    fun _ => return false

/-- Get cached budget data for a tenant. -/
def getTenantBudget (tenantId budgetType : String) : BudgetCoroutine (Option CachedTenantBudget) :=
  tryCatch
    (do
      let data ← Proc.tryCall (.hgetall (tenantBudgetKey tenantId budgetType)) id
      if data.entries.isEmpty then return none
      else
        return some
          { maxBudgetUsd := ((data.lookup "max").map Numeral.value).getD 0
            spentBudgetUsd := ((data.lookup "spent").map Numeral.value).getD 0 })
    fun _ => return none

/-- Cache budget data for a tenant. -/
def setTenantBudget (tenantId budgetType : String) (budget : CachedTenantBudget) : BudgetCoroutine Bool :=
  tryCatch
    (do
      Proc.tryCall (.hset (tenantBudgetKey tenantId budgetType)
        [("max", .float budget.maxBudgetUsd), ("spent", .float budget.spentBudgetUsd)]) id
      let _ ← Proc.tryCall (.expire (tenantBudgetKey tenantId budgetType) self.ttl) id
      return true)
    fun _ => return false

/-- Increment spent budget for a tenant in cache. -/
def incrementTenantSpent (tenantId budgetType : String) (amountUsd : Rat) : BudgetCoroutine Bool :=
  tryCatch
    (do
      let current ← Proc.tryCall (.hget (tenantBudgetKey tenantId budgetType) "spent") id
      let currentFloat := (current.map Numeral.value).getD 0
      let newValue := currentFloat + amountUsd
      Proc.tryCall (.hset (tenantBudgetKey tenantId budgetType) [("spent", .float newValue)]) id
      let _ ← Proc.tryCall (.expire (tenantBudgetKey tenantId budgetType) self.ttl) id
      return true)
    fun _ => return false

/-- Invalidate cached budget data for a run. -/
def invalidateRun (runId : String) : BudgetCoroutine Bool :=
  tryCatch
    (do
      let _ ← Proc.tryCall (.delete (runBudgetKey runId)) id
      return true)
    fun _ => return false

/-- Invalidate cached budget data for a tenant: of one budget type, or of both. -/
def invalidateTenant (tenantId : String) (budgetType : Option String) : BudgetCoroutine Bool :=
  tryCatch
    (do
      match budgetType.filter (· ≠ "") with
      | some budgetType => let _ ← Proc.tryCall (.delete (tenantBudgetKey tenantId budgetType)) id
      | none =>
        let _ ← Proc.tryCall (.delete (tenantBudgetKey tenantId "daily")) id
        let _ ← Proc.tryCall (.delete (tenantBudgetKey tenantId "monthly")) id
      return true)
    fun _ => return false

end BudgetCache

/-- Redis, with its clock in milliseconds. -/
structure BudgetRedis where
  store : Redis.Store Hash
  clock : Nat := 0

namespace BudgetRedis

/-- The entry of a key, if it is there. -/
def liveEntry (key : String) (redis : BudgetRedis) : Option (Redis.Entry Hash) :=
  Redis.lookup redis.clock key redis.store

/-- The fields of a key are written. -/
def write (key : String) (values : List (String × Numeral)) (redis : BudgetRedis) : BudgetRedis :=
  { redis with store := Redis.hset redis.clock key values redis.store }

/-- The answer of a command that is carried out. -/
def answer : (o : BudgetCacheCall) → BudgetRedis → o.Ans × BudgetRedis
  | .hgetall key, redis => (.ok (Redis.hgetall redis.clock key redis.store), redis)
  | .hget key field, redis => (.ok (Redis.hget redis.clock key field redis.store), redis)
  | .hset key values, redis => (.ok (), redis.write key values)
  | .hincrby key field amount, redis =>
    let (n, store) := Redis.hincrBy redis.clock key field amount redis.store
    (n.mapError fun text => .external s!"ResponseError: {text}", { redis with store })
  | .expire key seconds, redis =>
    (.ok (redis.liveEntry key).isSome,
      { redis with store := Redis.expire redis.clock key seconds redis.store })
  | .delete key, redis =>
    let (n, store) := Redis.del redis.clock [key] redis.store
    (.ok n, { redis with store })

/-- The answer of a command that does not reach Redis. -/
def refused (e : PyError) : (o : BudgetCacheCall) → o.Ans
  | .hgetall _ | .hget _ _ | .hset _ _ | .hincrby _ _ _ | .expire _ _ | .delete _ => .error e

/-- The answer of a command, which an exception of the connection may keep from Redis. -/
def reply (fails : Option PyError) (o : BudgetCacheCall) (redis : BudgetRedis) : o.Ans × BudgetRedis :=
  match fails with
  | some e => (refused e o, redis)
  | none => redis.answer o

/-- Time that passes. -/
def elapse (ms : Nat) (redis : BudgetRedis) : BudgetRedis := { redis with clock := redis.clock + ms }

variable {key : String} {redis : BudgetRedis}

/-- A key that was written has an entry that has not expired. -/
@[simp] theorem isSome_liveEntry_write (values : List (String × Numeral)) :
    ((redis.write key values).liveEntry key).isSome := Redis.isSome_lookup_hset values

/-- The fields that are read after a write are those before it with the written ones in their place. -/
@[simp] theorem hgetall_write (values : List (String × Numeral)) :
    Redis.hgetall (redis.write key values).clock key (redis.write key values).store =
      (Redis.hgetall redis.clock key redis.store).write values := Redis.hgetall_hset values

/-- An entry that is found after some time was there before. -/
theorem liveEntry_elapse {ms : Nat} {entry : Redis.Entry Hash}
    (h : (redis.elapse ms).liveEntry key = some entry) : redis.liveEntry key = some entry :=
  Redis.lookup_later (Nat.le_add_right _ ms) h

/-- An expiry that is set changes no field. -/
theorem liveEntry_expire {seconds : Int} {entry : Redis.Entry Hash}
    (h : (redis.answer (.expire key seconds)).2.liveEntry key = some entry) :
    ∃ entry', redis.liveEntry key = some entry' ∧ entry'.value = entry.value := by
  have hexpire := (Redis.lookup_expire seconds).symm.trans h
  split_ifs at hexpire
  obtain ⟨entry', hentry', rfl⟩ := Option.map_eq_some_iff.1 hexpire
  exact ⟨entry', hentry', rfl⟩

/-- An increment is refused, and nothing changes, or the field is written. -/
theorem answer_hincrby (key field : String) (amount : Int) (redis : BudgetRedis) :
    (∃ e, redis.answer (.hincrby key field amount) = (.error e, redis)) ∨
      ∃ n, (Redis.hget redis.clock key field redis.store).getD (.int 0) = .int n ∧ Redis.Fits amount ∧
        redis.answer (.hincrby key field amount) =
          (.ok (n + amount), redis.write key [(field, .int (n + amount))]) := by
  obtain ⟨e, h⟩ | ⟨n, hn, hamount, h⟩ := Redis.hincrBy_cases redis.clock key field amount redis.store
  · exact .inl ⟨_, by rw [answer, h]; rfl⟩
  · exact .inr ⟨n, hn, hamount, by rw [answer, h]; rfl⟩

end BudgetRedis

end AgentRuntime
