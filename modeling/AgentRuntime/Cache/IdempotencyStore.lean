import AgentRuntime.Cache.RateLimiter

/-!
# The idempotency store

`IdempotencyStore` (`app/infrastructure/cache/idempotency_store.py`): what is known of an idempotency key
is a dictionary, which Redis holds as JSON under a key of its own. An exception of Redis is taken for a key
that is not there, or for a write that failed. A time is written as its microseconds.
-/

namespace AgentRuntime

open Interaction

/-- The body of a request or a response: nothing, a JSON text or another one. -/
inductive Body where
  | empty
  | json (value : Json)
  | other (text : String)

/-- A response with its body, and whether it is an instance of `JSONResponse`. -/
structure BodyResponse extends HttpResponse where
  isJsonResponse : Bool
  body : Body := .empty

/-- What a request with an idempotency key calls: Redis, the clock, and the handler behind the middleware,
which is invoked and responds later. -/
inductive IdempotencyCall where
  | get (key : String)
  | set (key : String) (data : Dict) (ex : Int)
  | datetimeNow
  | callNext
  | response

/-- The answers. A value of Redis is the dictionary that its text spells. -/
@[reducible] def IdempotencyCall.Ans : IdempotencyCall → Type
  | get _ => Except PyError (Option Dict)
  | set _ _ _ => Except PyError Unit
  | datetimeNow => Time
  | callNext => Unit
  | response => Except PyError BodyResponse

/-- Redis-based storage for idempotency keys. -/
structure IdempotencyStore where
  keyPrefix : String := "idempotency"

namespace IdempotencyStore

/-- A method of the store or of what is built on it. -/
abbrev Method := Proc IdempotencyCall IdempotencyCall.Ans PyError Unit

/-- `datetime.now(UTC)`. -/
def now : Method Time := (Proc.call IdempotencyCall.datetimeNow : Method Time)

/-- `if existing:` of an optional dictionary. -/
def found (existing : Option Dict) : Option Dict := existing.filter fun data => !data.isEmpty

variable (self : IdempotencyStore)

/-- Generate Redis key for idempotency storage. -/
def makeKey (key tenantId : String) : String := s!"{self.keyPrefix}:{tenantId}:{key}"

/-- Get idempotency data for a key. -/
def get (key tenantId : String) : Method (Option Dict) :=
  tryCatch (Proc.tryCall (.get (self.makeKey key tenantId)) id) fun _ => pure none

/-- What is stored for a new key. -/
def newData (key tenantId operation : String) (requestData : Json) (now : Time) : Dict :=
  [("key", .str key), ("tenant_id", .str tenantId), ("operation", .str operation),
    ("request_data", requestData), ("created_at", .int now), ("response", .null), ("request_id", .null)]

/-- Store new idempotency key. -/
def set (key tenantId operation : String) (requestData : Json) (ttlSeconds : Int) : Method Bool := do
  let now ← now
  tryCatch
    (do
      Proc.tryCall (.set (self.makeKey key tenantId)
        (newData key tenantId operation requestData now) ttlSeconds) id
      pure true)
    fun _ => pure false

/-- What is stored for a key with its response. -/
def completedData (existingData : Dict) (response requestId : Json) (now : Time) : Dict :=
  ((existingData.set "response" response).set "request_id" requestId).set "completed_at" (.int now)

/-- Update idempotency key with response. -/
def setResponse (key tenantId : String) (response requestId : Json) (ttlSeconds : Int) : Method Bool :=
  tryCatch
    (do
      match found (← self.get key tenantId) with
      | none => pure false
      | some existingData =>
        let now ← now
        Proc.tryCall (.set (self.makeKey key tenantId)
          (completedData existingData response requestId now) ttlSeconds) id
        pure true)
    fun _ => pure false

/-! ## The commands that the methods make -/

/-- What is stored for a new request is not empty. -/
theorem newData_ne_nil (key tenantId operation : String) (requestData : Json) (now : Time) :
    newData key tenantId operation requestData now ≠ [] := List.cons_ne_nil _ _

/-- Neither is what is stored for a completed one. -/
theorem completedData_ne_nil (existingData : Dict) (response requestId : Json) (now : Time) :
    completedData existingData response requestId now ≠ [] := Dict.set_ne_nil _ _ _

/-- What is stored for a key with its response has that response. -/
theorem get?_response_completedData (existingData : Dict) (response requestId : Json) (now : Time) :
    (completedData existingData response requestId now).get? "response" = some response := by
  rw [completedData, Dict.get?_set_of_ne (by decide), Dict.get?_set_of_ne (by decide), Dict.get?_set_self]

/-- What `get` returns. -/
def existing (answer : Except PyError (Option Dict)) : Option Dict := answer.toOption.join

/-- A record that was read is the one that is there. -/
theorem existing_ok (data : Option Dict) : existing (.ok data) = data := rfl

/-- A record that could not be read counts as absent. -/
theorem existing_error (e : PyError) : existing (.error e) = none := rfl

variable (key tenantId : String)

/-- A lookup is one command. -/
@[simp] theorem on_get : (self.get key tenantId).on () =
    .call (.get (self.makeKey key tenantId)) fun answer => .ret (.ok (existing answer), ()) := by
  simp only [get, Proc.on_tryCatch, Proc.on_tryCall, Prog.call_bind, Prog.ret_bind]
  refine congrArg _ (funext fun answer => ?_)
  cases answer <;> rfl

/-- A reservation takes the time and is one command, whose failure is answered with `False`. -/
@[simp] theorem on_set (operation : String) (requestData : Json) (ttlSeconds : Int) :
    (self.set key tenantId operation requestData ttlSeconds).on () = .call .datetimeNow fun now =>
      .call (.set (self.makeKey key tenantId) (newData key tenantId operation requestData now)
        ttlSeconds) fun answer => .ret (.ok answer.toBool, ()) := by
  simp only [set, now, Proc.on_bind, Proc.on_call, Proc.on_tryCatch, Proc.on_tryCall, Prog.call_bind,
    Prog.ret_bind, Proc.thenOn_ok]
  refine congrArg _ (funext fun now => congrArg _ (funext fun answer => ?_))
  cases answer <;> rfl

/-- An answer is stored over the record that is found, with one command to find and one to store it; without a
record nothing is stored. -/
@[simp] theorem on_setResponse (response requestId : Json) (ttlSeconds : Int) :
    (self.setResponse key tenantId response requestId ttlSeconds).on () =
      .call (.get (self.makeKey key tenantId)) fun answer =>
        match found (existing answer) with
        | none => .ret (.ok false, ())
        | some existingData => .call .datetimeNow fun now =>
          .call (.set (self.makeKey key tenantId) (completedData existingData response requestId now)
            ttlSeconds) fun answer => .ret (.ok answer.toBool, ()) := by
  simp only [setResponse, on_get, Proc.on_bind, Proc.on_tryCatch, Prog.call_bind, Prog.ret_bind,
    Proc.thenOn_ok]
  refine congrArg _ (funext fun answer => ?_)
  cases found (existing answer) with
  | none => rfl
  | some existingData =>
    simp only [now, Proc.on_bind, Proc.on_call, Proc.on_tryCall, Prog.call_bind, Prog.ret_bind,
      Proc.thenOn_ok]
    refine congrArg _ (funext fun now => congrArg _ (funext fun answer => ?_))
    cases answer <;> rfl

end IdempotencyStore

end AgentRuntime
