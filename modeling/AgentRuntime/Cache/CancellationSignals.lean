import AgentRuntime.Cache.Keyspace
import AgentRuntime.Interaction.BigStep
import AgentRuntime.Python.JsonText

/-!
# Cancellation signals

`CancellationSignals` (`app/infrastructure/cache/cancellation_signals.py`): signals about the cancellation of a run,
published as JSON on a channel of its own, and a flag in Redis that is polled where the signals are missed. A
method returns whether its command was answered; a signal that cannot be written as JSON is not published.
-/

namespace AgentRuntime

open Interaction

/-- What a method awaits: the commands of Redis, and the time as `isoformat` writes it. -/
inductive SignalCall where
  | publish (channel data : String)
  | set (key value : String) (ex : Int)
  | get (key : String)
  | delete (key : String)
  | ping
  | timestamp

/-- The type of the answer to a call. To how many subscribers something was published is not read. -/
@[reducible] def SignalCall.Ans : SignalCall → Type
  | publish _ _ => Except PyError Unit
  | set _ _ _ => Except PyError Unit
  | get _ => Except PyError (Option String)
  | delete _ => Except PyError Nat
  | ping => Except PyError Unit
  | timestamp => String

/-- Redis pub/sub based cancellation signal system. -/
structure CancellationSignals where
  channelPrefix : String := "cancellation"

namespace CancellationSignals

/-- A method of the signal system. -/
abbrev Method := Proc SignalCall SignalCall.Ans PyError Unit

variable (self : CancellationSignals)

/-- Generate Redis channel name for a run. -/
def channelName (runId : String) : String := s!"{self.channelPrefix}:{runId}"

/-- The key of the flag of a run. -/
def flagKey (runId : String) : String := s!"{self.channelPrefix}:flag:{runId}"

/-- `try: …; return True`, where any exception is taken for a failure. -/
def succeeds (m : Method Unit) : Method Bool :=
  tryCatch
    (do
      m
      return true)
    fun _ => return false

/-- A payload is written as JSON and published on the channel of the run. -/
def publish (runId : String) (payload : Dict) : Method Bool :=
  succeeds do
    let data ← Proc.ofExcept (JsonText.dumps (.dict payload))
    Proc.tryCall (.publish (self.channelName runId) data) id

/-- What a request says. -/
def requestPayload (runId tenantId : String) (reason : Option String) (timestamp : String) : Dict :=
  [("signal_type", .str "request"), ("run_id", .str runId), ("tenant_id", .str tenantId),
    ("reason", reason.elim .null .str), ("timestamp", .str timestamp)]

/-- What an acknowledgement says. -/
def acknowledgementPayload (runId tenantId workerId : String) : Dict :=
  [("signal_type", .str "ack"), ("run_id", .str runId), ("tenant_id", .str tenantId),
    ("worker_id", .str workerId)]

/-- What a completion says. -/
def completionPayload (runId tenantId workerId : String) (stepsCancelled : Int) (cleanupPerformed : Bool) : Dict :=
  [("signal_type", .str "complete"), ("run_id", .str runId), ("tenant_id", .str tenantId),
    ("worker_id", .str workerId), ("steps_cancelled", .int stepsCancelled),
    ("cleanup_performed", .bool cleanupPerformed)]

/-- Publish a cancellation request for a run. -/
def publishRequest (runId tenantId : String) (reason : Option String) : Method Bool := do
  let timestamp ← (Proc.call SignalCall.timestamp : Method String)
  self.publish runId (requestPayload runId tenantId reason timestamp)

/-- Publish a cancellation acknowledgement from a worker. -/
def publishAcknowledgement (runId tenantId workerId : String) : Method Bool :=
  self.publish runId (acknowledgementPayload runId tenantId workerId)

/-- Publish a cancellation completion notification. -/
def publishCompletion (runId tenantId workerId : String) (stepsCancelled : Int) (cleanupPerformed : Bool) :
    Method Bool :=
  self.publish runId (completionPayload runId tenantId workerId stepsCancelled cleanupPerformed)

/-- Set a cancellation flag in Redis for fast polling fallback. -/
def setFlag (runId : String) : Method Bool :=
  succeeds (Proc.tryCall (.set (self.flagKey runId) "1" 300) id)

/-- Check if cancellation flag is set. -/
def checkFlag (runId : String) : Method Bool :=
  tryCatch
    (do
      let result ← Proc.tryCall (.get (self.flagKey runId)) id
      return result.isSome)
    fun _ => return false

/-- Clear cancellation flag. -/
def clearFlag (runId : String) : Method Bool :=
  succeeds do
    let _ ← Proc.tryCall (.delete (self.flagKey runId)) id

/-- Clean up all cancellation resources for a run. What `clear_flag` returns is not looked at. -/
def cleanup (runId : String) : Method Bool :=
  succeeds do
    let _ ← self.clearFlag runId

/-- Check if cancellation signals system is healthy. -/
def healthCheck : Method Bool := succeeds (Proc.tryCall .ping id)

/-! ## The calls of each method -/

section
variable (runId : String)

/-- A payload that cannot be serialised is not published. Any other costs one command, and its failure is
answered with `False`. -/
theorem on_publish (payload : Dict) : (self.publish runId payload).on () =
    match JsonText.dumps (.dict payload) with
    | .error _ => .ret (.ok false, ())
    | .ok data => .call (.publish (self.channelName runId) data) fun r => .ret (.ok r.toBool, ()) := by
  simp only [publish, succeeds, Proc.on_tryCatch, Proc.on_bind, Proc.on_ofExcept]
  cases JsonText.dumps (.dict payload) with
  | error e => rfl
  | ok data =>
    refine congrArg (Prog.call _) (funext fun r => ?_)
    cases r <;> rfl

/-- A request is published with the time at which it is made. -/
theorem on_publishRequest (tenantId : String) (reason : Option String) :
    (self.publishRequest runId tenantId reason).on () = .call .timestamp fun timestamp =>
      (self.publish runId (requestPayload runId tenantId reason timestamp)).on () := by
  simp only [publishRequest, Proc.on_bind, Proc.on_call, Prog.call_bind]
  rfl

/-- Setting the flag is one command, with a lifetime of 300 seconds. -/
theorem on_setFlag : (self.setFlag runId).on () =
    .call (.set (self.flagKey runId) "1" 300) fun r => .ret (.ok r.toBool, ()) := by
  simp only [setFlag, succeeds, Proc.on_tryCatch, Proc.on_bind, Proc.on_tryCall, Prog.call_bind]
  refine congrArg (Prog.call _) (funext fun r => ?_)
  cases r <;> rfl

/-- Looking for the flag is one command; a failure counts as an absent flag. -/
theorem on_checkFlag : (self.checkFlag runId).on () =
    .call (.get (self.flagKey runId)) fun r => .ret (.ok (r.toOption.getD none).isSome, ()) := by
  simp only [checkFlag, Proc.on_tryCatch, Proc.on_bind, Proc.on_tryCall, Prog.call_bind]
  refine congrArg (Prog.call _) (funext fun r => ?_)
  cases r <;> rfl

/-- Removing the flag is one command. -/
theorem on_clearFlag : (self.clearFlag runId).on () =
    .call (.delete (self.flagKey runId)) fun r => .ret (.ok r.toBool, ()) := by
  simp only [clearFlag, succeeds, Proc.on_tryCatch, Proc.on_bind, Proc.on_tryCall, Prog.call_bind]
  refine congrArg (Prog.call _) (funext fun r => ?_)
  cases r <;> rfl

/-- The health check is one `PING`. -/
theorem on_healthCheck : healthCheck.on () = .call .ping fun r => .ret (.ok r.toBool, ()) := by
  simp only [healthCheck, succeeds, Proc.on_tryCatch, Proc.on_bind, Proc.on_tryCall, Prog.call_bind]
  refine congrArg (Prog.call _) (funext fun r => ?_)
  cases r <;> rfl

/-- The clean-up removes the flag, and answers `True` even where that fails. -/
theorem on_cleanup : (self.cleanup runId).on () =
    .call (.delete (self.flagKey runId)) fun _ => .ret (.ok true, ()) := by
  simp only [cleanup, succeeds, Proc.on_tryCatch, Proc.on_bind, on_clearFlag, Prog.call_bind]
  rfl

end

end CancellationSignals

/-! ## Redis, as the signals find it -/

/-- The flags, and what was published, with its channel. -/
structure SignalServer where
  flags : Redis.Store String := fun _ => none
  published : List (String × String) := []

/-- A command that raises, and whether Redis carried it out nevertheless. -/
structure Failure where
  error : PyError
  executed : Bool

/-- What is open about the commands of a method: the time that it reads, and whether they raise. -/
structure SignalReply where
  timestamp : String := ""
  fails : Option Failure := none

namespace SignalReply

/-- Redis carries the commands out. -/
def Executes (reply : SignalReply) : Prop := ∀ failure ∈ reply.fails, failure.executed = true

instance (reply : SignalReply) : Decidable reply.Executes :=
  match h : reply.fails with
  | none => .isTrue (by simp [Executes, h])
  | some failure => decidable_of_iff (failure.executed = true) (by simp [Executes, h])

/-- The answer of a command that makes `server'` of the server. -/
def answer {α : Type} (reply : SignalReply) (result : α) (server server' : SignalServer) :
    Except PyError α × SignalServer :=
  (match reply.fails with
    | none => .ok result
    | some failure => .error failure.error,
    if reply.Executes then server' else server)

/-- The commands at a time in milliseconds. -/
def env (reply : SignalReply) (now : Nat) : Env SignalCall SignalCall.Ans SignalServer
  | .publish channel data, server =>
    reply.answer () server { server with published := server.published ++ [(channel, data)] }
  | .set key value ex, server =>
    reply.answer () server { server with flags := Redis.set now key value (some (ex.toNat * 1000)) server.flags }
  | .get key, server => reply.answer (Redis.get now key server.flags) server server
  | .delete key, server =>
    let (count, flags) := Redis.del now [key] server.flags
    reply.answer count server { server with flags }
  | .ping, server => reply.answer () server server
  | .timestamp, server => (reply.timestamp, server)

end SignalReply

end AgentRuntime
