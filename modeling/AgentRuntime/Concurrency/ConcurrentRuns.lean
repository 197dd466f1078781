import AgentRuntime.Cache.RedisServer
import AgentRuntime.Services.RateLimitService

/-!
# Concurrent runs of a tenant

Clients that check the limit of concurrent runs, record the start of their run if they are allowed, and
its end. The check and the count are two scripts, so two clients can both be let in by the last place;
and the counter expires an hour after the last start, however long the runs take. `runsCounted_iff`: the
counter is the number of active runs, and that is within the limit, exactly if neither happens.
-/

namespace AgentRuntime

open Interaction

/-- A client of the rate limit service. Its run takes any time. -/
def RateLimitService.client (self : RateLimitService) (tenantId : UUID) (plan : String) :
    RateLimiter.Call Unit := do
  let result ← self.checkConcurrentRuns tenantId plan
  if result.allowed then
    recordRunStart tenantId
    recordRunEnd tenantId

/-! ## What a client does to the tenant's counter -/

/-- Where a client is: its run is active from its count to the end of its count. -/
inductive RunPhase where
  | unchecked
  | allowed
  | active
  | ended
  deriving DecidableEq

namespace RunPhase

/-- The action of the script that is due. -/
def action : RunPhase → Option String
  | unchecked => some "check"
  | allowed => some "increment"
  | active => some "decrement"
  | ended => none

/-- The phase after the reply to that action. -/
def after : RunPhase → Except PyError (List Int) → RunPhase
  | unchecked, .ok (first :: _) => if 0 < first then allowed else ended
  | allowed, _ => active
  | active, _ => ended
  | phase, _ => phase

/-- The answer to a check starts no run. -/
theorem after_unchecked_ne_active (answer : Except PyError (List Int)) :
    unchecked.after answer ≠ active := by
  match answer with
  | .error e => exact nofun
  | .ok [] => exact nofun
  | .ok (first :: _) =>
    simp only [after]
    split
    · exact nofun
    · exact nofun

end RunPhase

/-- A client checks the tenant's counter, then increments, then decrements it. What it does to other
counters is left open. -/
def clientProtocol (key : String) :
    Protocol ApiCall ApiCall.Ans (Except ApiError Unit × RateLimiter) RunPhase where
  may
    | phase, .evalsha _ key' argv =>
      key' ≠ key ∨ ∃ limit action, phase.action = some action ∧ argv = [.int limit, .str action]
    | _, .incr _ | _, .expire _ _ => False
    | _, _ => True
  next
    | phase, .evalsha _ key' _, answer => if key' = key then phase.after answer else phase
    | phase, _, _ => phase
  returns _ _ := True

section
variable {key : String} {phase phase' : RunPhase}

/-- A script on the key moves its client to the next phase. -/
theorem clientProtocol_next (digest : RedisArg) (argv : List RedisArg)
    (answer : Except PyError (List Int)) :
    (clientProtocol key).next phase (.evalsha digest key argv) answer = phase.after answer := if_pos rfl

/-- A script on another key does not. -/
theorem clientProtocol_next_of_ne {key' : String} (h : key' ≠ key) (digest : RedisArg)
    (argv : List RedisArg) (answer : Except PyError (List Int)) :
    (clientProtocol key).next phase (.evalsha digest key' argv) answer = phase := if_neg h

/-- An increment or a decrement ends without an exception. -/
theorem RateLimiter.follows_changeConcurrency {key' action : String}
    (hmay : ∀ digest, (clientProtocol key).may phase (.evalsha digest key' [.int 1000, .str action]))
    (hnext : ∀ digest answer, (clientProtocol key).next phase
      (.evalsha digest key' [.int 1000, .str action]) answer = phase') (limiter : RateLimiter) :
    ((changeConcurrency key' action).on limiter).Follows (Runs .concurrency)
      ((clientProtocol key).returning fun g r => g = phase' ∧ ∃ count, r.1 = .ok count) phase := by
  rw [changeConcurrency]
  refine Proc.follows_bind (R := fun g r => g = phase ∧ r.1 = .ok ()) ?_ ?_ ?_
  · exact follows_ensureScriptsLoaded (clientProtocol key) (fun _ => trivial) (fun _ _ => rfl)
      .concurrency limiter
  · rintro _ _ limiter ⟨rfl, -⟩
    simp only [await, Proc.on_tryCatch, Proc.on_bind, Proc.on_get, Prog.ret_bind, Proc.thenOn_ok,
      Proc.on_tryCall, Prog.call_bind]
    refine ⟨hmay (.bool limiter.concurrencyScriptLoaded), fun answer _ => ?_⟩
    have hphase := hnext (.bool limiter.concurrencyScriptLoaded) answer
    match answer with
    | .error e => exact ⟨hphase, _, rfl⟩
    | .ok [] => exact ⟨hphase, _, rfl⟩
    | .ok [_] => exact ⟨hphase, _, rfl⟩
    | .ok (_ :: _ :: _) => exact ⟨hphase, _, rfl⟩
  · rintro _ e limiter ⟨-, h⟩
    cases h

/-- A check ends in the phase that its answer says. -/
theorem RateLimiter.follows_checkConcurrency (limit : Int) (limiter : RateLimiter) :
    ((checkConcurrency key limit).on limiter).Follows (Runs .concurrency)
      ((clientProtocol key).returning fun g r => ∃ check, r.1 = .ok check ∧
        g = if check.allowed then .allowed else .ended) .unchecked := by
  rw [checkConcurrency]
  refine Proc.follows_bind (R := fun g r => g = .unchecked ∧ r.1 = .ok ()) ?_ ?_ ?_
  · exact follows_ensureScriptsLoaded (clientProtocol key) (fun _ => trivial) (fun _ _ => rfl)
      .concurrency limiter
  · rintro _ _ limiter ⟨rfl, -⟩
    simp only [await, Proc.on_tryCatch, Proc.on_bind, Proc.on_get, Prog.ret_bind, Proc.thenOn_ok,
      Proc.on_tryCall, Prog.call_bind]
    refine ⟨.inr ⟨limit, "check", rfl, rfl⟩, ?_⟩
    rintro _ ⟨clock, store, rfl⟩
    simp only [Protocol.returning, clientProtocol_next, LuaScript.run, LuaScript.concurrencyReply_check]
    split
    · exact ⟨_, rfl, rfl⟩
    · exact ⟨_, rfl, rfl⟩
  · rintro _ e limiter ⟨-, h⟩
    cases h

/-- The counter of all runs has a key that no tenant's counter has. -/
theorem globalRunsKey_ne (tenantId : UUID) :
    RateLimitService.globalRunsKey ≠ RateLimitService.runsKey tenantId := by
  intro h
  have hfirst := congrArg String.toList h
  simp [RateLimitService.globalRunsKey, RateLimitService.runsKey, toString] at hfirst

variable {tenantId : UUID}

/-- The start and the end of a run are recorded in the tenant's counter, and in that of all runs. -/
theorem RateLimitService.follows_recordRun {action : String} {record : RateLimiter.Call Unit}
    (hrecord : record = tryCatch
      (do
        let _ ← RateLimiter.changeConcurrency (runsKey tenantId) action
        let _ ← RateLimiter.changeConcurrency globalRunsKey action
        pure ())
      fun _ => pure ())
    (haction : phase.action = some action) (hphase : ∀ answer, phase.after answer = phase')
    (limiter : RateLimiter) :
    (record.on limiter).Follows (Runs .concurrency)
      ((clientProtocol (runsKey tenantId)).returning fun g r => g = phase' ∧ r.1 = .ok ()) phase := by
  subst hrecord
  refine Proc.follows_tryCatch_of_ok ?_ ?_ _
  · refine Proc.follows_bind (R := fun g r => g = phase' ∧ ∃ count, r.1 = .ok count) ?_ ?_ ?_
    · exact RateLimiter.follows_changeConcurrency (fun _ => .inr ⟨1000, action, haction, rfl⟩)
        (fun digest answer => (clientProtocol_next digest _ answer).trans (hphase answer)) limiter
    · rintro g count limiter ⟨rfl, -⟩
      refine Proc.follows_bind (R := fun g' r => g' = g ∧ ∃ count, r.1 = .ok count) ?_ ?_ ?_
      · have hnext (digest : RedisArg) (answer : Except PyError (List Int)) :
            (clientProtocol (runsKey tenantId)).next g
              (.evalsha digest globalRunsKey [.int 1000, .str action]) answer = g :=
          clientProtocol_next_of_ne (globalRunsKey_ne tenantId) digest _ answer
        exact RateLimiter.follows_changeConcurrency (fun _ => .inl (globalRunsKey_ne tenantId)) hnext
          limiter
      · rintro _ count limiter ⟨rfl, -⟩
        exact ⟨rfl, rfl⟩
      · rintro _ e limiter ⟨-, count, h⟩
        cases h
    · rintro _ e limiter ⟨-, count, h⟩
      cases h
  · rintro _ e limiter ⟨-, h⟩
    cases h

/-- A client follows its protocol. -/
theorem RateLimitService.follows_client (self : RateLimitService) (plan : String)
    (limiter : RateLimiter) :
    ((self.client tenantId plan).on limiter).Follows (Runs .concurrency)
      (clientProtocol (runsKey tenantId)) .unchecked := by
  rw [client]
  refine Proc.follows_bind
    (R := fun g r => ∀ result, r.1 = .ok result → result.allowed = true → g = .allowed) ?_ ?_ ?_
  · cases hlimit : self.concurrentRuns plan with
    | error e =>
      simp only [checkConcurrentRuns, hlimit, Except.mapError, Proc.ofExcept, Proc.on_bind,
        Proc.on_throw, Prog.ret_bind, Proc.thenOn_error]
      exact nofun
    | ok limit =>
      simp only [checkConcurrentRuns, hlimit, Except.mapError, Proc.ofExcept, pure_bind]
      refine Proc.follows_tryCatch (R := fun g r => ∃ result, r.1 = .ok result ∧
        (result.allowed = true → g = .allowed)) ?_ ?_ ?_
      · refine Proc.follows_bind (R := fun g r => ∃ check, r.1 = .ok check ∧
          g = if check.allowed then .allowed else .ended) ?_ ?_ ?_
        · exact RateLimiter.follows_checkConcurrency limit limiter
        · rintro _ check limiter ⟨check', hcheck, rfl⟩
          obtain rfl := Except.ok.inj hcheck
          cases hallowed : check.allowed with
          | true => exact ⟨_, rfl, fun _ => rfl⟩
          | false => exact ⟨_, rfl, nofun⟩
        · rintro _ e limiter ⟨check, h, -⟩
          cases h
      · rintro g result limiter ⟨result', hresult, hphase⟩ _ hresult'
        obtain rfl := Except.ok.inj hresult
        obtain rfl := Except.ok.inj hresult'
        exact hphase
      · rintro _ e limiter ⟨result, h, -⟩
        cases h
  · intro g result limiter hresult
    rw [Proc.on_ite]
    split
    · next hallowed =>
      obtain rfl := hresult result rfl hallowed
      refine Proc.follows_bind (R := fun g r => g = .active ∧ r.1 = .ok ()) ?_ ?_ ?_
      · exact follows_recordRun rfl rfl (fun _ => rfl) limiter
      · rintro _ _ limiter ⟨rfl, -⟩
        exact (follows_recordRun rfl rfl (fun _ => rfl) limiter).mono fun _ _ _ => trivial
      · intro _ _ _ _
        trivial
    · trivial
  · intro _ _ _ _
    trivial

end

/-! ## The counter against the active runs -/

/-- Redis, and the clients whose runs are active. -/
structure RunLedger where
  server : RedisServer
  active : List Nat := []

namespace RunLedger

/-- The runs that are active after a call of client `i`: a run is from the increment of the tenant's
counter to its decrement. -/
def activeAfter (self : RunLedger) (key : String) (i : Nat) : ApiCall → List Nat
  | .evalsha _ key' [_, .str action] =>
    if key' = key then
      if action = "increment" then i :: self.active
      else if action = "decrement" then self.active.erase i
      else self.active
    else self.active
  | _ => self.active

/-- The tenant's counter. -/
def counter (self : RunLedger) (key : String) : Int :=
  Redis.counter self.server.clock key self.server.store

/-- The counter is the number of active runs, which is within the limit. -/
structure RunsCounted (ledger : RunLedger) (key : String) (limit : Nat) : Prop where
  counter : ledger.counter key = ledger.active.length
  limit : ledger.active.length ≤ limit

/-- The clients are in their phases: the runs that are active are those of the clients between their
increment and their decrement. -/
structure Tracks (ledger : RunLedger) (phase : Nat → RunPhase) : Prop where
  nodup : ledger.active.Nodup
  active : ∀ i, i ∈ ledger.active ↔ phase i = .active

end RunLedger

/-- Redis where `EVALSHA` runs the concurrency script. -/
def runRules (key : String) : Rules ApiCall ApiCall.Ans RunLedger ApiReply Nat where
  answer reply i o ledger :=
    let answer := apiAnswer (always .concurrency) reply i o ledger.server
    (answer.1, { server := answer.2, active := ledger.activeAfter key i o })
  outside ms ledger :=
    { ledger with server := (apiRules (always .concurrency)).outside ms ledger.server }

/-- The call starts a run. -/
def Starts (key : String) (o : ApiCall) : Prop :=
  ∃ digest limit, o = .evalsha digest key [limit, .str "increment"]

/-- There is a place for each run that starts, and the counter does not expire under an active run. -/
def WithinLimit (key : String) (limit : Nat)
    (p : Pool ApiCall ApiCall.Ans (Except ApiError Unit × RateLimiter) RunLedger) : Act ApiReply Nat → Prop
  | .outside ms => p.shared.active ≠ [] →
      (Redis.lookup (p.shared.server.clock + ms) key p.shared.server.store).isSome = true
  | .thread i _ => ∀ o k, p.threads[i]? = some (.call o k) → Starts key o → p.shared.counter key < limit

namespace RunLedger

variable {self : RunLedger} {key : String} {limit : Nat} {phase : Nat → RunPhase} {i : Nat}

/-- A script on another key changes nothing about the runs that are active for this one. -/
theorem activeAfter_of_ne {key' : String} (h : key' ≠ key) (digest : RedisArg) (argv : List RedisArg) :
    self.activeAfter key i (.evalsha digest key' argv) = self.active := by
  unfold activeAfter
  split
  · next ho =>
    cases ho
    exact if_neg h
  · rfl

/-- What a call of a client that is due does: nothing to the tenant's runs, or it starts the client's run
or ends it. -/
theorem answer_cases {o : ApiCall} {before : RunPhase} (hmay : (clientProtocol key).may before o)
    (reply : ApiReply) (i : Nat) (self : RunLedger) :
    let answer := (runRules key).answer reply i o self
    let after := (clientProtocol key).next before o answer.1
    (¬Starts key o ∧ (after = .active ↔ before = .active) ∧ answer.2.active = self.active ∧
      answer.2.counter key = self.counter key) ∨
    (Starts key o ∧ before = .allowed ∧ after = .active ∧ answer.2.active = i :: self.active ∧
      answer.2.counter key = self.counter key + 1) ∨
    (¬Starts key o ∧ before = .active ∧ after = .ended ∧ answer.2.active = self.active.erase i ∧
      answer.2.counter key =
        if 0 < self.counter key then self.counter key + -1 else self.counter key) := by
  intro answer after
  cases o with
  | evalsha digest key' argv =>
    by_cases hkey : key' = key
    · subst hkey
      obtain ⟨limit, action, haction, rfl⟩ := hmay.resolve_left (absurd rfl)
      have hafter : after = before.after answer.1 := clientProtocol_next digest _ _
      have hstore : answer.2.counter key' = Redis.counter self.server.clock key'
        (LuaScript.concurrencyReply key' limit action self.server.clock self.server.store).2 := rfl
      have hactive : answer.2.active =
        self.activeAfter key' i (.evalsha digest key' [.int limit, .str action]) := rfl
      cases before with
      | unchecked =>
        obtain rfl : action = "check" := (Option.some.inj haction).symm
        refine .inl ⟨?_, ?_, ?_, ?_⟩
        · rintro ⟨_, _, ho⟩
          simp at ho
        · rw [hafter]
          exact iff_of_false (RunPhase.after_unchecked_ne_active _) nofun
        · simp [hactive, activeAfter]
        · rw [hstore, LuaScript.store_check]
          rfl
      | allowed =>
        obtain rfl : action = "increment" := (Option.some.inj haction).symm
        refine .inr (.inl ⟨⟨_, _, rfl⟩, rfl, hafter, ?_, ?_⟩)
        · simp [hactive, activeAfter]
        · rw [hstore, LuaScript.store_increment, Redis.counter_expire (by decide), Redis.counter_incrBy]
          rfl
      | active =>
        obtain rfl : action = "decrement" := (Option.some.inj haction).symm
        refine .inr (.inr ⟨?_, rfl, hafter, ?_, ?_⟩)
        · rintro ⟨_, _, ho⟩
          simp at ho
        · simp [hactive, activeAfter]
        · rw [hstore, LuaScript.store_decrement]
          by_cases hpos : 0 < self.counter key'
          · rw [if_pos hpos, if_pos (by exact hpos)]
            exact Redis.counter_incrBy (-1)
          · rw [if_neg hpos, if_neg (by exact hpos)]
            rfl
      | ended => cases haction
    · refine .inl ⟨?_, ?_, ?_, ?_⟩
      · rintro ⟨_, _, ho⟩
        cases ho
        exact hkey rfl
      · exact iff_of_eq (congrArg (· = _) (clientProtocol_next_of_ne hkey digest argv _))
      · exact activeAfter_of_ne hkey digest argv
      · exact Redis.counter_congr (LuaScript.concurrency_run_of_ne (Ne.symm hkey) argv)
  | incr key' => exact hmay.elim
  | expire key' seconds => exact hmay.elim
  | scriptLoad _ | time | callNext =>
    refine .inl ⟨?_, Iff.rfl, rfl, rfl⟩
    rintro ⟨_, _, ho⟩
    cases ho
  | get key' =>
    refine .inl ⟨?_, Iff.rfl, rfl, ?_⟩
    · rintro ⟨_, _, ho⟩
      cases ho
    · cases hfails : reply.fails with
      | none | some e =>
        simp only [answer, runRules, apiAnswer, ApiReply.plain, hfails]
        rfl

/-- Every call keeps track of the active runs. -/
theorem runRules_advance (key : String) :
    (runRules key).Advance (Runs .concurrency) (fun _ => clientProtocol key)
      (fun phase ledger => ledger.Tracks phase) fun _ _ _ => True where
  answer reply i o ledger phase h hmay _ := by
    refine ⟨apiAnswer_runs _ _ _ _ _, ?_⟩
    obtain ⟨-, hphase, hactive, -⟩ | ⟨-, hbefore, hafter, hactive, -⟩ |
      ⟨-, hbefore, hafter, hactive, -⟩ := answer_cases hmay reply i ledger
    · refine ⟨hactive ▸ h.nodup, fun j => ?_⟩
      rw [hactive, h.active]
      by_cases hij : j = i
      · subst hij
        rw [Function.update_self, hphase]
      · rw [Function.update_of_ne hij]
    · have hfresh : i ∉ ledger.active := fun hi => by cases hbefore.symm.trans ((h.active i).1 hi)
      refine ⟨?_, fun j => ?_⟩
      · rw [hactive]
        exact List.nodup_cons.2 ⟨hfresh, h.nodup⟩
      · rw [hactive, List.mem_cons, h.active]
        by_cases hij : j = i
        · subst hij
          rw [Function.update_self, hafter]
          exact iff_of_true (.inl rfl) rfl
        · rw [Function.update_of_ne hij]
          exact or_iff_right hij
    · refine ⟨?_, fun j => ?_⟩
      · rw [hactive]
        exact h.nodup.erase i
      · rw [hactive, h.nodup.mem_erase_iff, h.active]
        by_cases hij : j = i
        · subst hij
          rw [Function.update_self, hafter]
          exact iff_of_false (fun hj => hj.1 rfl) nofun
        · rw [Function.update_of_ne hij]
          exact and_iff_right hij
  outside ms ledger phase h := ⟨h.nodup, h.active⟩

/-- A call keeps the counter to the active runs, and these to the limit, exactly if it starts no run
without a place. -/
theorem runsCounted_answer_iff {o : ApiCall} (h : self.Tracks phase) (hcounted : self.RunsCounted key limit)
    (hmay : (clientProtocol key).may (phase i) o) (reply : ApiReply) :
    ((runRules key).answer reply i o self).2.RunsCounted key limit ↔
      (Starts key o → self.counter key < limit) := by
  have hcounter := hcounted.counter
  have hlimit := hcounted.limit
  obtain ⟨hstarts, -, hactive, hafter⟩ | ⟨hstarts, -, -, hactive, hafter⟩ |
    ⟨hstarts, hphase, -, hactive, hafter⟩ := answer_cases hmay reply i self
  · refine iff_of_true ⟨?_, ?_⟩ fun h => absurd h hstarts
    · rw [hafter, hactive, hcounter]
    · rwa [hactive]
  · constructor
    · intro ⟨_, hbound⟩ _
      rw [hactive, List.length_cons] at hbound
      omega
    · intro hplace
      have hlt := hplace hstarts
      refine ⟨?_, ?_⟩
      · rw [hafter, hactive, List.length_cons]
        omega
      · rw [hactive, List.length_cons]
        omega
  · have hmem : i ∈ self.active := (h.active i).2 hphase
    have hpos : 0 < self.active.length := List.length_pos_of_mem hmem
    have hlength : (self.active.erase i).length = self.active.length - 1 := List.length_erase_of_mem hmem
    refine iff_of_true ⟨?_, ?_⟩ fun h => absurd h hstarts
    · rw [hafter, hactive, hlength, if_pos (by omega)]
      omega
    · rw [hactive, hlength]
      omega

/-- So does time, exactly if the counter does not expire under an active run. -/
theorem runsCounted_outside_iff (hcounted : self.RunsCounted key limit) (ms : Nat) :
    ((runRules key).outside ms self).RunsCounted key limit ↔ (self.active ≠ [] →
      (Redis.lookup (self.server.clock + ms) key self.server.store).isSome = true) := by
  have hcounter : self.counter key = self.active.length := hcounted.counter
  have hlater : ((runRules key).outside ms self).counter key =
      ((Redis.lookup (self.server.clock + ms) key self.server.store).getD ⟨0, none⟩).value :=
    Redis.counter_eq
  cases hentry : Redis.lookup (self.server.clock + ms) key self.server.store with
  | none =>
    rw [hentry, Option.getD_none] at hlater
    simp only [Option.isSome_none, Bool.false_eq_true, imp_false, not_not]
    constructor
    · intro h
      have hzero : (self.active.length : Int) = 0 := (hlater.symm.trans h.counter).symm
      exact List.length_eq_zero_iff.1 (by exact_mod_cast hzero)
    · intro hactive
      refine ⟨?_, hcounted.limit⟩
      rw [hlater]
      change (0 : Int) = self.active.length
      rw [hactive]
      rfl
  | some entry =>
    rw [hentry, Option.getD_some] at hlater
    obtain ⟨hstored, halive⟩ := Redis.lookup_eq_some.1 hentry
    have hbefore : Redis.lookup self.server.clock key self.server.store = some entry :=
      Redis.lookup_eq_some.2 ⟨hstored, Redis.Entry.alive_of_le halive (Nat.le_add_right _ _)⟩
    refine iff_of_true ⟨?_, hcounted.limit⟩ fun _ => rfl
    rw [hlater, ← Option.getD_some (a := entry), ← hbefore, ← Redis.counter_eq]
    exact hcounter

end RunLedger

namespace RateLimitService

/-- Clients of one tenant that have not started; each finds the rate limiter as it may be by then. Redis
has no counters. -/
def clientPool (self : RateLimitService) (tenantId : UUID) (plan : String) (limiters : List RateLimiter)
    (loaded : List LuaScript) (clock : Nat) :
    Pool ApiCall ApiCall.Ans (Except ApiError Unit × RateLimiter) RunLedger where
  threads := limiters.map fun limiter => (self.client tenantId plan).on limiter
  shared := { server := { store := fun _ => none, loaded, clock } }

/-- In every schedule of clients, the tenant's counter is the number of active runs and within the limit,
exactly if each run that starts finds a place, and the counter does not expire under an active run. -/
theorem runsCounted_iff (self : RateLimitService) (tenantId : UUID) (plan : String) (limit : Nat)
    (limiters : List RateLimiter) (loaded : List LuaScript) (clock : Nat)
    (schedule : List (Act ApiReply Nat)) :
    (∀ schedule', schedule' <+: schedule →
      ((clientPool self tenantId plan limiters loaded clock).run (runRules (runsKey tenantId))
        schedule').shared.RunsCounted (runsKey tenantId) limit) ↔
    Pool.Meets (runRules (runsKey tenantId)) (WithinLimit (runsKey tenantId) limit)
      (clientPool self tenantId plan limiters loaded clock) schedule := by
  have hrules := RunLedger.runRules_advance (runsKey tenantId)
  have hstart : (clientPool self tenantId plan limiters loaded clock).Following (Runs .concurrency)
      (fun _ => clientProtocol (runsKey tenantId)) (fun phase ledger => ledger.Tracks phase)
      fun _ => .unchecked := by
    refine ⟨fun i q hq => ?_, ⟨List.nodup_nil, fun i => ?_⟩⟩
    · rw [clientPool, List.getElem?_map] at hq
      obtain ⟨limiter, -, rfl⟩ := Option.map_eq_some_iff.1 hq
      exact self.follows_client plan limiter
    · exact iff_of_false List.not_mem_nil nofun
  refine (Pool.meets_iff_of_keeps
    (I := fun p : Pool ApiCall ApiCall.Ans (Except ApiError Unit × RateLimiter) RunLedger =>
      p.shared.RunsCounted (runsKey tenantId) limit)
    (K := fun p => ∃ phase, p.Following (Runs .concurrency) (fun _ => clientProtocol (runsKey tenantId))
      (fun phase ledger => RunLedger.Tracks ledger phase) phase) ?_ ?_ ⟨_, hstart⟩ ?_).symm
  · rintro p a ⟨phase, hp⟩
    exact hp.step hrules a (Pool.callMeets_of_forall (fun _ _ _ => trivial) p a)
  · rintro p a ⟨phase, hp⟩ hcounted
    cases a with
    | outside ms => exact (RunLedger.runsCounted_outside_iff hcounted ms).symm
    | thread i reply =>
      by_cases hcall : ∃ o k, p.threads[i]? = some (.call o k)
      · obtain ⟨o, k, hthread⟩ := hcall
        have hmay := (hp.threads i _ hthread).1
        rw [Pool.step_of_call hthread]
        refine Iff.trans ?_ (RunLedger.runsCounted_answer_iff hp.shared hcounted hmay reply).symm
        constructor
        · exact fun h => h o k hthread
        · intro h o' k' hthread'
          cases hthread.symm.trans hthread'
          exact h
      · have hidle : ∀ o k, p.threads[i]? ≠ some (.call o k) := fun o k h => hcall ⟨o, k, h⟩
        rw [Pool.step_of_no_call hidle]
        exact iff_of_true (fun o k h => absurd h (hidle o k)) hcounted
  · exact ⟨rfl, Nat.zero_le limit⟩

/-- Two clients are let in by the only place: both check the limit before either records its start. -/
theorem not_runsCounted : ¬∀ (self : RateLimitService) (tenantId : UUID) (plan : String) (limit : Nat)
      (limiters : List RateLimiter) (loaded : List LuaScript) (clock : Nat)
      (schedule : List (Act ApiReply Nat)), self.concurrentRuns plan = .ok limit →
    ((clientPool self tenantId plan limiters loaded clock).run (runRules (runsKey tenantId))
      schedule).shared.RunsCounted (runsKey tenantId) limit := by
  intro h
  let service : RateLimitService :=
    { defaultLimits := fun plan => if plan = "free" then some ⟨none, some 1⟩ else none }
  let next (i : Nat) : Act ApiReply Nat := .thread i {}
  have hrun := h service ⟨1⟩ "free" 1 [⟨true, true⟩, ⟨true, true⟩] [] 0 [next 0, next 1, next 0, next 1] rfl
  have hlimit := hrun.limit
  revert hlimit
  decide +kernel

end RateLimitService

end AgentRuntime
