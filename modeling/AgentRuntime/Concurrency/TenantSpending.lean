import AgentRuntime.Cache.BudgetCache
import AgentRuntime.Interaction.Protocol

/-!
# Cached tenant budgets under concurrency

`BudgetCache.increment_tenant_spent` gets the spent amount, adds to it, and sets it, by three commands. Of
two calls that get the same amount, one is lost. While every `HSET` finds the amount that its caller got,
and no `EXPIRE` raises after it, the spent amount grows by what the calls add that return `True`
(`spentUsd_eq_of_keepsIncrements`).
-/

namespace AgentRuntime

open Interaction BudgetCache

open Redis (Numeral)

/-- The spent amount that is cached, which is zero where none is. -/
def BudgetRedis.spentUsd (key : String) (redis : BudgetRedis) : Rat :=
  ((Redis.hget redis.clock key "spent" redis.store).map Numeral.value).getD 0

/-- Redis, the amount that each caller got last, and whether the entry has been there all along. -/
structure TenantSpending where
  redis : BudgetRedis
  gotten : Nat → Rat := fun _ => 0
  stayed : Bool

/-- The commands are answered by Redis, unless the connection raises; outside only time passes. -/
def spendingRules (key : String) :
    Rules BudgetCacheCall BudgetCacheCall.Ans TenantSpending (Option PyError) Nat where
  answer fails i o s :=
    let r := s.redis.reply fails o
    (r.1,
      { redis := r.2
        gotten := match o, r.1 with
          | .hget _ _, .ok current => Function.update s.gotten i ((current.map Numeral.value).getD 0)
          | _, _ => s.gotten
        stayed := s.stayed && (r.2.liveEntry key).isSome })
  outside ms s :=
    { s with redis := s.redis.elapse ms, stayed := s.stayed && ((s.redis.elapse ms).liveEntry key).isSome }

/-- Calls of `increment_tenant_spent` for one tenant and budget type. -/
def spendingPool (cache : BudgetCache) (tenantId budgetType : String) (amounts : List Rat)
    (redis : BudgetRedis) : Pool BudgetCacheCall BudgetCacheCall.Ans (Except PyError Bool × Unit)
      TenantSpending where
  threads := amounts.map fun amount => (cache.incrementTenantSpent tenantId budgetType amount).on ()
  shared := { redis, stayed := (redis.liveEntry (tenantBudgetKey tenantId budgetType)).isSome }

/-- What a call adds. -/
def amountAt (amounts : List Rat) (i : Nat) : Rat := amounts[i]?.getD 0

/-- What the calls add that have returned `True`. -/
def confirmedAmount (amounts : List Rat)
    (p : Pool BudgetCacheCall BudgetCacheCall.Ans (Except PyError Bool × Unit) TenantSpending) : Rat :=
  ∑ i ∈ Finset.range amounts.length, if p.ending i = some (.ok true, ()) then amountAt amounts i else 0

/-- `HSET` finds the amount that its caller got, and `EXPIRE` does not raise. -/
def KeepsIncrement (key : String) (fails : Option PyError) (i : Nat) : BudgetCacheCall → TenantSpending → Prop
  | .hset _ _, s => fails = none → s.gotten i = s.redis.spentUsd key
  | .expire _ _, _ => fails = none
  | _, _ => True

instance decidableKeepsIncrement (key : String) (fails : Option PyError) (i : Nat) (o : BudgetCacheCall)
    (s : TenantSpending) : Decidable (KeepsIncrement key fails i o s) :=
  match o with
  | .hset _ _ => inferInstanceAs (Decidable (fails = none → _))
  | .expire _ _ => inferInstanceAs (Decidable (fails = none))
  | .hgetall _ | .hget _ _ | .hincrby _ _ _ | .delete _ => inferInstanceAs (Decidable True)

/-! ## The phases of a call -/

/-- Where a call is in its work. -/
inductive SpendingPhase where
  | idle
  | gotten (current : Rat)
  | written
  deriving DecidableEq

/-- The amount is got, then set with the caller's own added, then the expiry is set; a call returns `True`
exactly if it has set the amount. -/
def spendingProtocol (key : String) (amount : Rat) :
    Protocol BudgetCacheCall BudgetCacheCall.Ans (Except PyError Bool × Unit) SpendingPhase where
  may
    | .idle, .hget key' field => key' = key ∧ field = "spent"
    | .gotten current, .hset key' values => key' = key ∧ values = [("spent", .float (current + amount))]
    | .written, .expire key' _ => key' = key
    | _, _ => False
  next
    | _, .hget _ _, .ok current => .gotten ((current.map Numeral.value).getD 0)
    | _, .hset _ _, .ok _ => .written
    | g, _, _ => g
  returns g ending := ending = (.ok true, ()) ↔ g = .written

/-- `EXPIRE` does not raise. -/
def Expires : (o : BudgetCacheCall) → o.Ans → Prop
  | .expire _ _, r => ∃ found, r = .ok found
  | _, _ => True

/-- An increment reads the amount, writes the sum with its own, and gives the entry its lifetime. -/
theorem follows_incrementTenantSpent (cache : BudgetCache) (tenantId budgetType : String) (amount : Rat) :
    ((cache.incrementTenantSpent tenantId budgetType amount).on ()).Follows Expires
      (spendingProtocol (tenantBudgetKey tenantId budgetType) amount) .idle := by
  simp only [incrementTenantSpent, Proc.on_tryCatch, Proc.on_bind, Proc.on_tryCall, Prog.call_bind,
    Prog.follows_call]
  refine ⟨⟨rfl, rfl⟩, fun r _ => ?_⟩
  rcases r with e | current
  · simp [spendingProtocol]
  · simp only [id, Prog.ret_bind, Proc.thenOn_ok, Proc.on_bind, Proc.on_tryCall, Prog.call_bind,
      Prog.follows_call]
    refine ⟨⟨rfl, rfl⟩, fun r _ => ?_⟩
    rcases r with e | ⟨⟩
    · simp [spendingProtocol]
    · simp only [id, Prog.ret_bind, Proc.thenOn_ok, Proc.on_bind, Proc.on_tryCall, Prog.call_bind,
        Prog.follows_call]
      refine ⟨rfl, ?_⟩
      rintro _ ⟨found, rfl⟩
      simp [spendingProtocol]

/-! ## The spent amount -/

namespace BudgetRedis

variable {key : String} {redis redis' : BudgetRedis}

/-- The amount is read from the field of the entry, and is zero without it. -/
theorem spentUsd_of_entry {entry : Redis.Entry Redis.Hash} (h : redis.liveEntry key = some entry) :
    redis.spentUsd key = ((entry.value.lookup "spent").map Numeral.value).getD 0 := by
  rw [spentUsd, Redis.hget, Redis.hgetall_of_lookup h]

/-- An entry that is there with the fields of before has the amount of before. -/
theorem spentUsd_congr (hthere : (redis'.liveEntry key).isSome)
    (h : ∀ entry, redis'.liveEntry key = some entry →
      ∃ entry', redis.liveEntry key = some entry' ∧ entry'.value = entry.value) :
    redis'.spentUsd key = redis.spentUsd key := by
  obtain ⟨entry, hentry⟩ := Option.isSome_iff_exists.1 hthere
  obtain ⟨entry', hentry', hvalue⟩ := h entry hentry
  rw [spentUsd_of_entry hentry, spentUsd_of_entry hentry', hvalue]

/-- The amount that was written is read. -/
theorem spentUsd_write (v : Numeral) : (redis.write key [("spent", v)]).spentUsd key = v.value := by
  rw [spentUsd, Redis.hget, hgetall_write]
  simp [Redis.Hash.write]

end BudgetRedis

/-- What the calls add that have set the amount. -/
def writtenAmount (amounts : List Rat) (phase : Nat → SpendingPhase) : Rat :=
  ∑ i ∈ Finset.range amounts.length, if phase i = .written then amountAt amounts i else 0

/-- A call that goes on from a phase before it has set the amount. -/
theorem writtenAmount_update (amounts : List Rat) {phase : Nat → SpendingPhase} {i : Nat}
    (hi : phase i ≠ .written) (next : SpendingPhase) :
    writtenAmount amounts (Function.update phase i next) =
      writtenAmount amounts phase + if next = .written then amountAt amounts i else 0 := by
  have hsum := sum_update_phase (fun j g => if g = SpendingPhase.written then amountAt amounts j else 0)
    phase (i := i) (if_neg hi) next amounts.length
  rw [writtenAmount, hsum, ← writtenAmount]
  by_cases hlt : i < amounts.length
  · rw [if_pos hlt]
  · have hzero : amountAt amounts i = 0 := by
      rw [amountAt, List.getElem?_eq_none (by omega)]
      rfl
    rw [if_neg hlt, hzero, ite_self]

/-- While the entry stays, its amount is the initial one with what was written; and a call holds the amount
that it got. -/
structure Spends (key : String) (amounts : List Rat) (initial : Rat) (phase : Nat → SpendingPhase)
    (s : TenantSpending) : Prop where
  spent : s.stayed = true → s.redis.spentUsd key = initial + writtenAmount amounts phase
  gotten : ∀ i current, phase i = .gotten current → s.gotten i = current

section
variable {key : String} {amounts : List Rat} {initial : Rat} {phase : Nat → SpendingPhase}
  {s : TenantSpending}

/-- The entry has the fields of before, if it is there. -/
theorem Spends.of_entry (h : Spends key amounts initial phase s) {redis : BudgetRedis}
    (hentry : ∀ entry, redis.liveEntry key = some entry →
      ∃ entry', s.redis.liveEntry key = some entry' ∧ entry'.value = entry.value) :
    Spends key amounts initial phase
      { s with redis, stayed := s.stayed && (redis.liveEntry key).isSome } := by
  refine ⟨fun hstayed => ?_, h.gotten⟩
  obtain ⟨hbefore, hthere⟩ := Bool.and_eq_true_iff.1 hstayed
  exact (BudgetRedis.spentUsd_congr hthere hentry).trans (h.spent hbefore)

/-- A call gets the amount. -/
theorem Spends.of_get (h : Spends key amounts initial phase s) {i : Nat} (hi : phase i = .idle)
    (current : Rat) : Spends key amounts initial (Function.update phase i (.gotten current))
      { s with
        gotten := Function.update s.gotten i current
        stayed := s.stayed && (s.redis.liveEntry key).isSome } := by
  constructor
  · intro hstayed
    obtain ⟨hbefore, -⟩ := Bool.and_eq_true_iff.1 hstayed
    rw [writtenAmount_update amounts (by rw [hi]; nofun), if_neg nofun, add_zero]
    exact h.spent hbefore
  · intro j current' hj
    dsimp only
    by_cases hji : j = i
    · subst hji
      rw [Function.update_self] at hj ⊢
      exact SpendingPhase.gotten.inj hj
    · rw [Function.update_of_ne hji] at hj ⊢
      exact h.gotten j current' hj

/-- A call sets the amount that it got with its own added, which is still the amount that is there. -/
theorem Spends.of_set (h : Spends key amounts initial phase s) {i : Nat} {current : Rat}
    (hi : phase i = .gotten current) (hfresh : s.gotten i = s.redis.spentUsd key) :
    let redis := s.redis.write key [("spent", .float (current + amountAt amounts i))]
    Spends key amounts initial (Function.update phase i .written)
      { s with redis, stayed := s.stayed && (redis.liveEntry key).isSome } := by
  constructor
  · intro hstayed
    obtain ⟨hbefore, -⟩ := Bool.and_eq_true_iff.1 hstayed
    have hcurrent : current = s.redis.spentUsd key := (h.gotten i current hi).symm.trans hfresh
    rw [BudgetRedis.spentUsd_write, Numeral.value_float, hcurrent, h.spent hbefore,
      writtenAmount_update amounts (by rw [hi]; nofun), if_pos rfl, add_assoc]
  · intro j current' hj
    have hji : j ≠ i := by rintro rfl; rw [Function.update_self] at hj; cases hj
    rw [Function.update_of_ne hji] at hj
    exact h.gotten j current' hj

/-- The rules keep the increments, as long as each command does. -/
theorem spendingRules_advance (key : String) (amounts : List Rat) (initial : Rat) :
    (spendingRules key).AdvanceIf Expires (fun i => spendingProtocol key (amountAt amounts i))
      (Spends key amounts initial) (KeepsIncrement key) := by
  refine ⟨fun fails i o s phase h hmay hkeeps => ?_, fun ms s phase h =>
    h.of_entry fun entry hentry => ⟨entry, BudgetRedis.liveEntry_elapse hentry, rfl⟩⟩
  -- a command that does not reach Redis leaves its caller where it was
  have hrefused : Spends key amounts initial (Function.update phase i (phase i))
      { s with stayed := s.stayed && (s.redis.liveEntry key).isSome } := by
    rw [Function.update_eq_self]
    exact h.of_entry fun entry hentry => ⟨entry, hentry, rfl⟩
  cases o with
  | hget key' field =>
    cases hphase : phase i with
    | idle =>
      rw [hphase] at hmay hrefused
      obtain ⟨rfl, rfl⟩ := hmay
      cases fails with
      | some e => exact ⟨trivial, hrefused⟩
      | none => exact ⟨trivial, h.of_get hphase _⟩
    | gotten current => rw [hphase] at hmay; exact hmay.elim
    | written => rw [hphase] at hmay; exact hmay.elim
  | hset key' values =>
    cases hphase : phase i with
    | idle => rw [hphase] at hmay; exact hmay.elim
    | gotten current =>
      rw [hphase] at hmay hrefused
      obtain ⟨rfl, rfl⟩ := hmay
      cases fails with
      | some e => exact ⟨trivial, hrefused⟩
      | none => exact ⟨trivial, h.of_set hphase (hkeeps rfl)⟩
    | written => rw [hphase] at hmay; exact hmay.elim
  | expire key' seconds =>
    cases hphase : phase i with
    | idle => rw [hphase] at hmay; exact hmay.elim
    | gotten current => rw [hphase] at hmay; exact hmay.elim
    | written =>
      rw [hphase] at hmay hrefused
      obtain rfl : key' = key := hmay
      obtain rfl : fails = none := hkeeps
      refine ⟨⟨_, rfl⟩, ?_⟩
      have hnext (answer) :
          (spendingProtocol key' (amountAt amounts i)).next .written (.expire key' seconds) answer =
            phase i := hphase.symm
      rw [hnext, Function.update_eq_self]
      exact h.of_entry fun entry hentry => BudgetRedis.liveEntry_expire hentry
  | hgetall key' | hincrby key' field amount | delete key' =>
    cases hphase : phase i <;> rw [hphase] at hmay <;> exact hmay.elim

/-- What the calls have confirmed is what they have written, once all have returned. -/
theorem confirmedAmount_eq_writtenAmount
    {p : Pool BudgetCacheCall BudgetCacheCall.Ans (Except PyError Bool × Unit) TenantSpending}
    (h : p.Following Expires (fun i => spendingProtocol key (amountAt amounts i))
      (Spends key amounts initial) phase)
    (hended : ∀ i < amounts.length, (p.ending i).isSome) :
    confirmedAmount amounts p = writtenAmount amounts phase := by
  refine Finset.sum_congr rfl fun i hi => ?_
  obtain ⟨ending, hending⟩ := Option.isSome_iff_exists.1 (hended i (Finset.mem_range.1 hi))
  have hreturns : ending = (.ok true, ()) ↔ phase i = .written :=
    h.threads i _ (Pool.ending_eq_some.1 hending)
  simp only [hending, Option.some.injEq, hreturns]

/-- In every schedule whose commands keep the increments, and along which the entry stays, the spent amount
is in the end the initial one with the amounts of the calls that returned `True`. -/
theorem spentUsd_eq_of_keepsIncrements (cache : BudgetCache) (tenantId budgetType : String)
    (amounts : List Rat) (redis : BudgetRedis) {schedule : List (Act (Option PyError) Nat)}
    (hkeeps : Pool.Meets (spendingRules (tenantBudgetKey tenantId budgetType))
      (Pool.ActMeets (KeepsIncrement (tenantBudgetKey tenantId budgetType)))
      (spendingPool cache tenantId budgetType amounts redis) schedule) :
    let p := (spendingPool cache tenantId budgetType amounts redis).run
      (spendingRules (tenantBudgetKey tenantId budgetType)) schedule
    (∀ i < amounts.length, (p.ending i).isSome) → p.shared.stayed = true →
      p.shared.redis.spentUsd (tenantBudgetKey tenantId budgetType) =
        redis.spentUsd (tenantBudgetKey tenantId budgetType) + confirmedAmount amounts p := by
  intro p hended hstayed
  have hstart : (spendingPool cache tenantId budgetType amounts redis).Following Expires
      (fun i => spendingProtocol (tenantBudgetKey tenantId budgetType) (amountAt amounts i))
      (Spends (tenantBudgetKey tenantId budgetType) amounts
        (redis.spentUsd (tenantBudgetKey tenantId budgetType))) fun _ => .idle := by
    refine ⟨fun i q hq => ?_, fun _ => ?_, nofun⟩
    · obtain ⟨amount, hamount, rfl⟩ : ∃ amount, amounts[i]? = some amount ∧
          (cache.incrementTenantSpent tenantId budgetType amount).on () = q := by
        simpa [spendingPool] using hq
      rw [amountAt, hamount]
      exact follows_incrementTenantSpent cache tenantId budgetType amount
    · simp [spendingPool, writtenAmount]
  obtain ⟨phase, hphase⟩ := hstart.run_of_actMeets (spendingRules_advance _ amounts _) hkeeps
  rw [confirmedAmount_eq_writtenAmount hphase hended]
  exact hphase.shared.spent hstayed

/-- A daily budget of a hundred dollars, ten of which are spent. -/
def tenSpent : BudgetRedis :=
  BudgetRedis.write (tenantBudgetKey "t" "daily") [("max", .float 100), ("spent", .float 10)]
    { store := fun _ => none }

/-- The next command of a call, which Redis answers. -/
def nextOf (i : Nat) : Act (Option PyError) Nat := .thread i none

/-- Two calls, one after the other. -/
theorem spentUsd_eq_of_keepsIncrements_inTurn :
    let schedule := [nextOf 0, nextOf 0, nextOf 0, nextOf 1, nextOf 1, nextOf 1]
    let p := (spendingPool {} "t" "daily" [1, 2] tenSpent).run
      (spendingRules (tenantBudgetKey "t" "daily")) schedule
    Pool.Meets (spendingRules (tenantBudgetKey "t" "daily"))
        (Pool.ActMeets (KeepsIncrement (tenantBudgetKey "t" "daily")))
        (spendingPool {} "t" "daily" [1, 2] tenSpent) schedule ∧
      (∀ i < 2, (p.ending i).isSome) ∧ p.shared.stayed = true ∧
      p.shared.redis.spentUsd (tenantBudgetKey "t" "daily") =
        tenSpent.spentUsd (tenantBudgetKey "t" "daily") + confirmedAmount [1, 2] p := by
  intro schedule p
  have hkeeps : Pool.Meets (spendingRules (tenantBudgetKey "t" "daily"))
      (Pool.ActMeets (KeepsIncrement (tenantBudgetKey "t" "daily")))
      (spendingPool {} "t" "daily" [1, 2] tenSpent) schedule := by decide +kernel
  have hended : ∀ i < 2, (p.ending i).isSome := by decide +kernel
  have hstayed : p.shared.stayed = true := by decide +kernel
  exact ⟨hkeeps, hended, hstayed,
    spentUsd_eq_of_keepsIncrements {} "t" "daily" [1, 2] tenSpent hkeeps hended hstayed⟩

/-- Two calls that get the same amount both return `True`, and the dollar of the first is lost. -/
theorem not_spentUsd_eq :
    ¬∀ (cache : BudgetCache) (tenantId budgetType : String) (amounts : List Rat) (redis : BudgetRedis)
        (schedule : List (Act (Option PyError) Nat)),
      let p := (spendingPool cache tenantId budgetType amounts redis).run
        (spendingRules (tenantBudgetKey tenantId budgetType)) schedule
      (∀ i < amounts.length, (p.ending i).isSome) → p.shared.stayed = true →
        p.shared.redis.spentUsd (tenantBudgetKey tenantId budgetType) =
          redis.spentUsd (tenantBudgetKey tenantId budgetType) + confirmedAmount amounts p := by
  intro h
  have hspent := h {} "t" "daily" [1, 2] tenSpent
    [nextOf 0, nextOf 1, nextOf 0, nextOf 0, nextOf 1, nextOf 1] (by decide +kernel) (by decide +kernel)
  revert hspent
  decide +kernel

end

end AgentRuntime
