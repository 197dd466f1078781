import AgentRuntime.Interaction.Protocol
import AgentRuntime.Security.RedisRateLimiter
import AgentRuntime.Services.ToolExecution

/-!
# Calls of a tool with a rate limit

`execute_tool` with `RedisRateLimiter` behind it, for calls with the same tool, action and tenant whose
policies decide with the same limit: a check, the handler if the check allows, and the count, in three
steps (`toolProtocol`). `ToolLedger` notes which calls are between these, and when handlers were invoked.
-/

namespace AgentRuntime

open Interaction RedisRateLimiter

namespace RedisRateLimiter

variable {α : Type}

/-- A check makes two steps. -/
theorem limiter_checkLimit_bind (key : String) (limit : Int) (window : String)
    (k : Except PyError Bool → Prog ToolCall ToolCall.Ans α) :
    (limiter (.checkLimit key limit window) >>= k) = .call .datetimeNow fun now =>
      .call (.pipelineGet (currentKey key now (windowToSeconds window))
          (prevKey key now (windowToSeconds window))) fun results =>
        k (results.map fun results => decide
          (weightedCount (results.1.getD 0) (results.2.getD 0) now (windowToSeconds window) < limit)) := by
  simp only [limiter, checkLimit, getCurrentCount, Proc.on_bind, Proc.on_call, Proc.on_tryCall,
    Prog.call_bind, Prog.ret_bind, Proc.thenOn_ok]
  refine congrArg _ (funext fun now => congrArg _ (funext fun results => ?_))
  cases results <;> rfl

/-- So does a count. -/
theorem limiter_increment_bind (key window : String)
    (k : Except PyError Int → Prog ToolCall ToolCall.Ans α) :
    (limiter (.increment key window) >>= k) = .call .datetimeNow fun now =>
      .call (.pipelineIncr (currentKey key now (windowToSeconds window))
          (prevKey key now (windowToSeconds window)) (windowToSeconds window * 2)) fun results =>
        k (results.map fun results =>
          weightedCount results.1 (results.2.2.getD 0) now (windowToSeconds window)) := by
  simp only [limiter, increment, Proc.on_bind, Proc.on_call, Proc.on_tryCall, Prog.call_bind,
    Prog.ret_bind, Proc.thenOn_ok]
  refine congrArg _ (funext fun now => congrArg _ (funext fun results => ?_))
  cases results <;> rfl

end RedisRateLimiter

/-- What the calls have in common: the tool, the action and the tenant, the grants that are stored, and
the limit with its window. -/
structure LimitedTool where
  cel : Cel
  grants : UUID → String → Except PyError (Option ToolGrant)
  toolName : String
  action : String
  tenantId : UUID
  limit : Int
  window : String

/-- What is a call's own. -/
structure ToolRequest where
  run : Run
  agentVersionId : UUID
  inputData : Json
  resource : Option String := none
  context : Option Dict := none

namespace LimitedTool

/-- The rate limit key of the calls. -/
def key (self : LimitedTool) : String :=
  ToolExecutionService.rateLimitKey self.toolName self.action self.tenantId

/-- The length of the window. -/
def seconds (self : LimitedTool) : Nat := windowToSeconds self.window

/-- `execute_tool` with the rate limiter. -/
def execute (self : LimitedTool) (request : ToolRequest) :
    Prog ToolCall ToolCall.Ans (Except PyError ToolExecutionResult × Run) :=
  ((ToolExecutionService.executeTool self.cel request.agentVersionId self.toolName self.action
    request.inputData request.resource request.context).on request.run).handle limiter

/-- A call of the tenant, which the policy of its grant, if there is one, decides with the limit and
without an approval. -/
structure Decides (tool : LimitedTool) (request : ToolRequest) : Prop where
  tenantId : request.run.tenantId = tool.tenantId
  decision : ∀ grant now, tool.grants request.agentVersionId tool.toolName = .ok (some grant) →
    (grant.evaluate tool.cel tool.action request.resource request.context now).requiresApproval = false ∧
    ∃ info, (grant.evaluate tool.cel tool.action request.resource request.context now).rateLimit =
      some info ∧ info.limit = tool.limit ∧ info.scope = tool.window

/-- Grants are found as they are stored. -/
def Answers (self : LimitedTool) : (o : ToolCall) → o.Ans → Prop
  | .service (.grantByTool agentVersionId toolName), answer => answer = self.grants agentVersionId toolName
  | _, _ => True

/-- The check of a reading admits its call. -/
def Admits (self : LimitedTool) (counts : Option Int × Option Int) (now : Time) : Prop :=
  weightedCount (counts.1.getD 0) (counts.2.getD 0) now self.seconds < self.limit

instance (self : LimitedTool) (counts : Option Int × Option Int) (now : Time) :
    Decidable (self.Admits counts now) := inferInstanceAs (Decidable (_ < _))

end LimitedTool

/-- Where a call is; a check and a count have read the clock first. -/
inductive ToolPhase where
  | idle
  | checking (now : Time)
  | admitted
  | invoked
  | counting (now : Time)

/-- A call is checked; if it is admitted then its handler is invoked, and it is counted. -/
def toolProtocol (tool : LimitedTool) (α : Type) : Protocol ToolCall ToolCall.Ans α ToolPhase where
  may
    | .idle, .datetimeNow => True
    | .idle, .service o => o.isToolHandler = false
    | .checking now, .pipelineGet currentKey' prevKey' =>
      currentKey' = currentKey tool.key now tool.seconds ∧ prevKey' = prevKey tool.key now tool.seconds
    | .admitted, .service o => o.isToolHandler = true
    | .invoked, .datetimeNow => True
    | .counting now, .pipelineIncr currentKey' _ seconds =>
      currentKey' = currentKey tool.key now tool.seconds ∧ seconds = tool.seconds * 2
    | _, _ => False
  next
    | .idle, .datetimeNow, now => .checking now
    | .checking now, .pipelineGet _ _, .ok counts => if tool.Admits counts now then .admitted else .idle
    | .checking _, .pipelineGet _ _, .error _ => .idle
    | .admitted, .service _, _ => .invoked
    | .invoked, .datetimeNow, now => .counting now
    | .counting _, .pipelineIncr _ _ _, _ => .idle
    | phase, _, _ => phase
  returns phase _ := phase = .idle

namespace LimitedTool

variable {tool : LimitedTool} {request : ToolRequest}

/-- The handler and the count of a call that is admitted. -/
theorem follows_executeDecided {decision : PolicyDecision} {remaining : Int} {resetAt : Time} {run : Run}
    (happroval : decision.requiresApproval = false)
    (hinfo : decision.rateLimit = some ⟨tool.limit, remaining, resetAt, tool.window⟩)
    (htenant : run.tenantId = tool.tenantId) (inputData : Json) (resource : Option String) :
    (((ToolExecutionService.executeDecided decision tool.toolName tool.action inputData resource).on
      run).handle limiter).Follows tool.Answers (toolProtocol tool _) .admitted := by
  have hkey : ToolExecutionService.rateLimitKey tool.toolName tool.action run.tenantId = tool.key := by
    rw [htenant]; rfl
  simp only [ToolExecutionService.executeDecided, happroval, Bool.false_eq_true, if_false,
    ToolExecutionService.executeHandler, ToolExecutionService.executeToolHandler, hinfo, Proc.on_bind,
    Proc.on_call, Prog.call_bind, Prog.ret_bind, Proc.thenOn_ok, Proc.on_get, Proc.on_tryCall,
    Proc.on_pure, Prog.handle_call]
  refine ⟨rfl, fun _ _ => ?_⟩
  change (limiter (.increment _ _) >>= _).Follows _ _ ToolPhase.invoked
  rw [limiter_increment_bind, hkey]
  refine ⟨trivial, fun now _ => ⟨⟨rfl, rfl⟩, fun results _ => ?_⟩⟩
  cases results with
  | error e => exact rfl
  | ok results => exact rfl

/-- A call follows the protocol. -/
theorem follows_execute (h : tool.Decides request) :
    (tool.execute request).Follows tool.Answers (toolProtocol tool _) .idle := by
  simp only [execute, ToolExecutionService.executeTool, Proc.on_bind, Proc.on_tryCall, Prog.call_bind,
    Prog.ret_bind, Prog.handle_call]
  refine ⟨rfl, ?_⟩
  rintro _ rfl
  cases hgrants : tool.grants request.agentVersionId tool.toolName with
  | error e => exact rfl
  | ok grant =>
    cases grant with
    | none => exact rfl
    | some grant =>
      refine ⟨rfl, fun now _ => ?_⟩
      obtain ⟨happroval, ⟨limit, remaining, resetAt, scope⟩, hinfo, hlimit, hscope⟩ :=
        h.decision grant now hgrants
      obtain rfl : limit = tool.limit := hlimit
      obtain rfl : scope = tool.window := hscope
      have hkey : ToolExecutionService.rateLimitKey tool.toolName tool.action request.run.tenantId =
        tool.key := by rw [h.tenantId]; rfl
      change (Prog.handle limiter ((ToolExecutionService.executeChecked _ _ _ _ _).on _)).Follows _ _ _
      simp only [ToolExecutionService.executeChecked, hinfo, Proc.on_bind, Proc.on_get, Prog.ret_bind,
        Proc.thenOn_ok, Proc.on_tryCall, Prog.call_bind, Prog.handle_call]
      rw [limiter_checkLimit_bind, hkey]
      refine ⟨trivial, fun now _ => ⟨⟨rfl, rfl⟩, fun counts _ => ?_⟩⟩
      cases counts with
      | error e => exact rfl
      | ok counts =>
        change (Prog.handle limiter (Proc.thenOn _ (.ok (decide (tool.Admits counts now)), _))).Follows _ _
          (if tool.Admits counts now then ToolPhase.admitted else ToolPhase.idle)
        by_cases hadmits : tool.Admits counts now
        · simp only [hadmits, decide_true, Proc.thenOn_ok, if_true]
          exact follows_executeDecided happroval hinfo h.tenantId _ _
        · simp only [hadmits, decide_false, Proc.thenOn_ok, if_false, Bool.false_eq_true]
          exact rfl

end LimitedTool

/-! ## Redis, the clock and the calls under way -/

/-- Redis and the clock, with what the rate limiter's last reading of the clock was for each call, which
calls are admitted and have not invoked the handler, which have invoked it, when, and are not counted, and
when handlers were invoked. -/
structure ToolLedger where
  store : Redis.Store Int := fun _ => none
  clock : Nat := 0
  down : Option PyError := none
  readAt : Nat → Time := fun _ => 0
  waiting : List Nat := []
  running : List (Nat × Time) := []
  invoked : List Time := []

/-- What happens outside the calls: time passes, or Redis goes down (its pipelines raise) or comes back. -/
inductive ToolEvent where
  | passes (microseconds : Nat)
  | redis (down : Option PyError)

namespace ToolLedger

/-- Redis counts milliseconds. -/
def milliseconds (self : ToolLedger) : Nat := self.clock / 1000

/-- What is stored for the window of `now`. -/
def count (self : ToolLedger) (tool : LimitedTool) (now : Time) : Int :=
  Redis.counter self.milliseconds (currentKey tool.key now tool.seconds) self.store

/-- The handlers that were invoked in the window of `now`. -/
def invokedIn (self : ToolLedger) (seconds : Nat) (now : Time) : Nat :=
  self.invoked.countP fun t => getWindowStart t seconds = getWindowStart now seconds

/-- Those of them whose calls are not counted. -/
def runningIn (self : ToolLedger) (seconds : Nat) (now : Time) : Nat :=
  self.running.countP fun call => getWindowStart call.2 seconds = getWindowStart now seconds

/-- A pipeline, if Redis is not down. -/
def pipeline {α : Type} (self : ToolLedger) (results : α) : Except PyError α :=
  match self.down with
  | some e => .error e
  | none => .ok results

/-- The answer to a call, where `reply` is what the other services answer. -/
def answer (self : ToolLedger) (tool : LimitedTool) (reply : (o : Call) → o.Ans) :
    (o : ToolCall) → o.Ans
  | .datetimeNow => self.clock
  | .pipelineGet currentKey prevKey =>
    self.pipeline (Redis.get self.milliseconds currentKey self.store,
      Redis.get self.milliseconds prevKey self.store)
  | .pipelineIncr currentKey prevKey _ =>
    let (count, store) := Redis.incrBy self.milliseconds currentKey 1 self.store
    self.pipeline (count, true, Redis.get self.milliseconds prevKey store)
  | .service .now => self.clock
  | .service (.grantByTool agentVersionId toolName) => tool.grants agentVersionId toolName
  | .service o => reply o

/-- Call `i` is admitted. -/
def admitting (self : ToolLedger) (i : Nat) : ToolLedger := { self with waiting := i :: self.waiting }

/-- Call `i` invokes its handler. -/
def invoking (self : ToolLedger) (i : Nat) : ToolLedger :=
  { self with
    waiting := self.waiting.erase i
    running := (i, self.clock) :: self.running
    invoked := self.clock :: self.invoked }

/-- Call `i` is counted. -/
def counting (self : ToolLedger) (i : Nat) (currentKey : String) (seconds : Int) : ToolLedger :=
  { self with
    store := Redis.expire self.milliseconds currentKey seconds
      (Redis.incrBy self.milliseconds currentKey 1 self.store).2
    running := self.running.eraseP fun call => call.1 = i }

/-- Time passes. -/
def later (self : ToolLedger) (microseconds : Nat) : ToolLedger :=
  { self with clock := self.clock + microseconds }

/-- What is noted of a call that is answered. -/
def note (self : ToolLedger) (tool : LimitedTool) (i : Nat) : (o : ToolCall) → o.Ans → ToolLedger
  | .datetimeNow, now => { self with readAt := Function.update self.readAt i now }
  | .pipelineGet _ _, .ok counts => if tool.Admits counts (self.readAt i) then self.admitting i else self
  | .pipelineIncr currentKey _ seconds, .ok _ => self.counting i currentKey seconds
  | .service o, _ => if o.isToolHandler then self.invoking i else self
  | _, _ => self

end ToolLedger

/-- The rules of Redis, the clock, the stored grants and the other services. -/
def toolRules (tool : LimitedTool) :
    Rules ToolCall ToolCall.Ans ToolLedger ((o : Call) → o.Ans) ToolEvent where
  answer reply i o ledger :=
    let answer := ledger.answer tool reply o
    (answer, ledger.note tool i o answer)
  outside
    | .passes microseconds, ledger => ledger.later microseconds
    | .redis down, ledger => { ledger with down }

end AgentRuntime
