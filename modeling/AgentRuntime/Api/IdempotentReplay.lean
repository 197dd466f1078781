import AgentRuntime.Concurrency.IdempotentRequests

/-!
# What a later request with the same key finds

A request that is processed, and one that comes later with the same idempotency key of the same tenant.
The later one finds what the first stored, as long as Redis keeps it: a reservation without response, to
which a response below 300 is added. It is answered with that response if it is truthy, and as a 200
(`replays_iff`); otherwise it is refused, also when the first failed (`reaches_iff`). Requests with other
keys do not matter in between, nor does what finds the key (`LaterThan`).
-/

namespace AgentRuntime

open Interaction IdempotencyStore

/-! ## Redis, answering one request after another -/

/-- What happens at a call: milliseconds pass before it, and Redis may refuse it. -/
structure Moment where
  passes : Nat := 0
  fails : Option PyError := none

/-- Redis and its clock in milliseconds, with what happens at the calls that come. -/
structure KeyServer where
  store : Redis.Store Dict := fun _ => none
  clock : Nat := 0
  moments : Nat → Moment := fun _ => {}

namespace KeyServer

variable (self : KeyServer)

/-- The time of the next call. -/
def time : Nat := self.clock + (self.moments 0).passes

/-- The next call has been made. -/
def advance : KeyServer := { self with clock := self.time, moments := fun n => self.moments (n + 1) }

/-- The answer to a command, if Redis does not refuse it. -/
def command {α : Type} (answer : α) : Except PyError α :=
  match (self.moments 0).fails with
  | some e => .error e
  | none => .ok answer

/-- `SET` is accepted with a lifetime that is positive. -/
def Accepts (ex : Int) : Prop := (self.moments 0).fails = none ∧ 0 < ex

instance (ex : Int) : Decidable (self.Accepts ex) := inferInstanceAs (Decidable (_ ∧ _))

/-- The answer to `SET`. -/
def setAnswer (ex : Int) : Except PyError Unit :=
  match (self.moments 0).fails with
  | some e => .error e
  | none =>
    if ex ≤ 0 then .error (.external "ResponseError: invalid expire time in 'set' command") else .ok ()

/-- `SET key data EX ex`. -/
def written (key : String) (data : Dict) (ex : Int) : KeyServer :=
  if self.Accepts ex then
    { self.advance with store := Redis.set self.time key data (some (ex.toNat * 1000)) self.store }
  else self.advance

/-- What `get` of the idempotency store returns for the key, if it is truthy. -/
def finds (key : String) : Option Dict :=
  found (existing (self.command (Redis.get self.time key self.store)))

/-- What `store_response` leaves. -/
def responseStored (key : String) (response requestId : Json) (ex : Int) : KeyServer :=
  match self.finds key with
  | none => self.advance
  | some _ =>
    match self.advance.finds key with
    | none => self.advance.advance
    | some data =>
      self.advance.advance.advance.written key
        (completedData data response requestId (self.advance.advance.time * 1000 : Nat)) ex

/-- Redis does not refuse call `n`. -/
def Answers (n : Nat) : Prop := (self.moments n).fails = none

instance (n : Nat) : Decidable (self.Answers n) := inferInstanceAs (Decidable (_ = none))

variable {self} {key : String} {entry : Redis.Entry Dict}

/-- The clock of Redis is not ahead of the time on the server. -/
theorem clock_le_time (self : KeyServer) : self.clock ≤ self.time := Nat.le_add_right _ _

/-- A key is found if Redis answers and its entry is alive. -/
theorem finds_of_store (h : self.store key = some entry) (hvalue : entry.value ≠ []) :
    self.finds key = if self.Answers 0 ∧ entry.Alive self.time then some entry.value else none := by
  cases hfails : (self.moments 0).fails with
  | some e =>
    rw [if_neg (by simp [Answers, hfails])]
    simp only [finds, command, hfails, existing_error]
    rfl
  | none =>
    simp only [finds, command, hfails, existing_ok, Redis.get]
    by_cases halive : entry.Alive self.time
    · rw [if_pos ⟨hfails, halive⟩, Redis.lookup_eq_some.2 ⟨h, halive⟩]
      simp [found, hvalue]
    · have hlookup : Redis.lookup self.time key self.store = none := by
        refine Redis.lookup_eq_none.2 fun entry' hentry' => ?_
        obtain rfl := Option.some.inj (h.symm.trans hentry')
        exact halive
      rw [if_neg fun hboth => halive hboth.2, hlookup]
      rfl

/-- What the service finds for a key is the value of an entry, and not an empty dictionary. -/
theorem entry_of_finds {data : Dict} (h : self.finds key = some data) :
    ∃ entry, self.store key = some entry ∧ entry.value = data ∧ data ≠ [] := by
  obtain ⟨hexisting, hvalue⟩ := Option.filter_eq_some_iff.1 h
  cases hfails : (self.moments 0).fails with
  | some e =>
    simp only [command, hfails, existing_error] at hexisting
    cases hexisting
  | none =>
    simp only [command, hfails, existing_ok] at hexisting
    obtain ⟨entry, hentry, rfl⟩ := Option.map_eq_some_iff.1 hexisting
    exact ⟨entry, (Redis.lookup_eq_some.1 hentry).1, rfl, by simpa using hvalue⟩

/-- Redis answers the next call, and holds the key. -/
def Holds (self : KeyServer) (key : String) : Prop :=
  self.Answers 0 ∧ (Redis.lookup self.time key self.store).isSome = true

instance (self : KeyServer) (key : String) : Decidable (self.Holds key) :=
  inferInstanceAs (Decidable (_ ∧ _))

/-- A key is found exactly if Redis holds it. -/
theorem finds_cases (h : self.store key = some entry) (hvalue : entry.value ≠ []) :
    (self.Holds key ∧ entry.Alive self.time ∧ self.finds key = some entry.value) ∨
      (¬self.Holds key ∧ self.finds key = none) := by
  have hfinds := finds_of_store h hvalue
  by_cases hboth : self.Answers 0 ∧ entry.Alive self.time
  · rw [if_pos hboth] at hfinds
    have hlookup : Redis.lookup self.time key self.store = some entry :=
      Redis.lookup_eq_some.2 ⟨h, hboth.2⟩
    exact .inl ⟨⟨hboth.1, by rw [hlookup]; rfl⟩, hboth.2, hfinds⟩
  · rw [if_neg hboth] at hfinds
    refine .inr ⟨fun hholds => hboth ⟨hholds.1, ?_⟩, hfinds⟩
    obtain ⟨entry', hlookup⟩ := Option.isSome_iff_exists.1 hholds.2
    obtain ⟨hentry', halive⟩ := Redis.lookup_eq_some.1 hlookup
    obtain rfl := Option.some.inj (h.symm.trans hentry')
    exact halive

/-- A key that is written has its data for the lifetime. -/
theorem store_written {ex : Int} (h : self.Accepts ex) (key : String) (data : Dict) :
    (self.written key data ex).store key = some ⟨data, some (self.time + ex.toNat * 1000)⟩ := by
  rw [written, if_pos h]
  exact Function.update_self ..

/-- A response is stored if Redis answers and still has the key; otherwise its entry stays as it is. -/
theorem responseStored_cases (self : KeyServer) {key : String} {entry : Redis.Entry Dict}
    (h : self.store key = some entry) (hvalue : entry.value ≠ []) (response requestId : Json) {ex : Int}
    (hex : 0 < ex) :
    let after := self.responseStored key response requestId ex
    ((self.Answers 0 ∧ self.Answers 1 ∧ self.Answers 3) ∧ ∃ entry', after.store key = some entry' ∧
      entry'.value ≠ [] ∧ entry'.value.get? "response" = some response) ∨
    (after.store key = some entry ∧
      (self.Answers 0 ∧ self.Answers 1 ∧ self.Answers 3 → ¬entry.Alive after.clock)) := by
  intro after
  have hfirst := finds_of_store h hvalue
  have hsecond : self.advance.finds key =
    if self.Answers 1 ∧ entry.Alive self.advance.time then some entry.value else none :=
      finds_of_store h hvalue
  by_cases halive : self.Answers 0 ∧ entry.Alive self.time
  · rw [if_pos halive] at hfirst
    by_cases halive' : self.Answers 1 ∧ entry.Alive self.advance.time
    · rw [if_pos halive'] at hsecond
      have hafter : after = self.advance.advance.advance.written key
          (completedData entry.value response requestId (self.advance.advance.time * 1000 : Nat)) ex := by
        simp only [after, responseStored, hfirst, hsecond]
      by_cases hanswers : self.Answers 3
      · have haccepts : self.advance.advance.advance.Accepts ex := ⟨hanswers, hex⟩
        have hstored := store_written haccepts key
          (completedData entry.value response requestId (self.advance.advance.time * 1000 : Nat))
        rw [← hafter] at hstored
        exact .inl ⟨⟨halive.1, halive'.1, hanswers⟩, _, hstored, completedData_ne_nil _ _ _ _,
          get?_response_completedData _ _ _ _⟩
      · refine .inr ⟨?_, fun hall => absurd hall.2.2 hanswers⟩
        rw [hafter, written, if_neg fun haccepts => hanswers haccepts.1]
        exact h
    · rw [if_neg halive'] at hsecond
      have hafter : after = self.advance.advance := by
        simp only [after, responseStored, hfirst, hsecond]
      rw [hafter]
      exact .inr ⟨h, fun hall hlate => halive' ⟨hall.2.1, hlate⟩⟩
  · rw [if_neg halive] at hfirst
    have hafter : after = self.advance := by simp only [after, responseStored, hfirst]
    rw [hafter]
    exact .inr ⟨h, fun hall hlate => halive ⟨hall.1, hlate⟩⟩

end KeyServer

/-- Redis and its clock, and a handler that answers `reply`. -/
def keyEnv (reply : Except PyError BodyResponse) : Env IdempotencyCall IdempotencyCall.Ans KeyServer
  | .get key, s => (s.command (Redis.get s.time key s.store), s.advance)
  | .set key data ex, s => (s.setAnswer ex, s.written key data ex)
  | .datetimeNow, s => ((s.time * 1000 : Nat), s.advance)
  | .callNext, s => ((), s.advance)
  | .response, s => (reply, s.advance)

namespace IdempotencyMiddleware

/-- A request, processed by itself. -/
def serve (self : IdempotencyMiddleware) (request : KeyedRequest) (reply : Except PyError BodyResponse)
    (s : KeyServer) : Prog.Exec IdempotencyCall KeyServer (Except PyError BodyResponse × Unit) :=
  ((self.dispatch request).on ()).exec (keyEnv reply) s

variable {middleware : IdempotencyMiddleware} {tenantId : UUID} {key : String} {request : KeyedRequest}
  {reply : Except PyError BodyResponse} {s : KeyServer}

/-- What storing a response leaves of Redis; it does not raise. -/
theorem exec_storeResponse (middleware : IdempotencyMiddleware) (tenantId : UUID) (key : String)
    (response requestId : Json) (reply : Except PyError BodyResponse) (s : KeyServer) :
    ∃ stored calls, ((middleware.idempotencyService.storeResponse key tenantId response requestId).on
      ()).exec (keyEnv reply) s = ⟨some (.ok stored, ()), s.responseStored
        (middleware.redisKey tenantId key) response requestId middleware.idempotencyService.ttl, calls⟩ := by
  simp only [IdempotencyService.storeResponse, Proc.on_bind, on_get, Prog.call_bind, Prog.ret_bind,
    Proc.thenOn_ok, Prog.exec_call, keyEnv, KeyServer.responseStored, KeyServer.finds, redisKey]
  cases found (existing (s.command (Redis.get s.time _ s.store))) with
  | none => exact ⟨_, _, rfl⟩
  | some data =>
    simp only [on_setResponse, Prog.exec_call, keyEnv]
    cases found (existing (s.advance.command (Redis.get s.advance.time _ s.advance.store))) with
    | none => exact ⟨_, _, rfl⟩
    | some data => exact ⟨_, _, rfl⟩

/-- Redis after a request has stored its key. -/
def reserved (middleware : IdempotencyMiddleware) (tenantId : UUID) (key : String)
    (request : KeyedRequest) (s : KeyServer) : KeyServer :=
  s.advance.advance.written (middleware.redisKey tenantId key)
    (newData key tenantId.str s!"{request.method} {request.path}" (extractRequestData request)
      (s.advance.time * 1000 : Nat)) middleware.idempotencyService.ttl

/-- Redis after the handler of a request, and after its response has been stored. -/
def handled (middleware : IdempotencyMiddleware) (tenantId : UUID) (key : String)
    (request : KeyedRequest) (reply : Except PyError BodyResponse) (s : KeyServer) : KeyServer :=
  match reply with
  | .error _ => s.advance.advance
  | .ok response =>
    if response.statusCode < 300 then
      s.advance.advance.responseStored (middleware.redisKey tenantId key) (extractResponseData response)
        ((request.requestId.map Json.str).getD .null) middleware.idempotencyService.ttl
    else s.advance.advance

/-- The handler is invoked, and its answer is that to the request. -/
theorem exec_process (middleware : IdempotencyMiddleware) (tenantId : UUID) (key : String)
    (request : KeyedRequest) (reply : Except PyError BodyResponse) (s : KeyServer) :
    ∃ calls, ((middleware.process request key tenantId).on ()).exec (keyEnv reply) s =
      ⟨some (reply, ()), middleware.handled tenantId key request reply s, .callNext :: calls⟩ := by
  simp only [process, callNext, Proc.on_bind, Proc.on_call, Proc.on_tryCall, Prog.call_bind,
    Prog.ret_bind, Proc.thenOn_ok, Prog.exec_call, keyEnv, handled, id]
  cases reply with
  | error e => exact ⟨_, rfl⟩
  | ok response =>
    simp only [Proc.thenOn_ok, Proc.on_ite]
    split
    · obtain ⟨stored, calls, hstored⟩ := exec_storeResponse middleware tenantId key
        (extractResponseData response) ((request.requestId.map Json.str).getD .null) (.ok response)
        s.advance.advance
      simp only [Proc.on_bind, Proc.on_tryCatch, Prog.exec_bind, hstored, Prog.Exec.andThen]
      exact ⟨_, rfl⟩
    · exact ⟨_, rfl⟩

/-- A request that does not find its key stores it and is processed. -/
theorem serve_of_missed (hkey : key ≠ "") (h : middleware.Keyed tenantId key request)
    (hfinds : s.finds (middleware.redisKey tenantId key) = none)
    (reply : Except PyError BodyResponse) :
    IdempotencyCall.callNext ∈ (middleware.serve request reply s).calls ∧
      (middleware.serve request reply s).result = some (reply, ()) ∧
      (middleware.serve request reply s).state =
        middleware.handled tenantId key request reply (middleware.reserved tenantId key request s) := by
  have hfilter : request.idempotencyKey.filter (· ≠ "") = some key := by
    simp [h.idempotencyKey, hkey]
  have hexisting : found (existing (s.command (Redis.get s.time
      (middleware.idempotencyService.store.makeKey key tenantId.str) s.store))) = none := hfinds
  obtain ⟨calls, hprocess⟩ := exec_process middleware tenantId key request reply
    (middleware.reserved tenantId key request s)
  simp only [reserved, redisKey] at hprocess
  simp only [serve, dispatch, h.mutating, h.included, hfilter, h.tenantId, Bool.false_eq_true, or_false,
    if_false, IdempotencyService.checkAndStore, Proc.on_bind, on_get, Prog.call_bind, Prog.ret_bind,
    Proc.thenOn_ok, Prog.exec_call, keyEnv, hexisting, on_set, Proc.on_pure, Bool.false_and]
  rw [hprocess]
  exact ⟨by simp, rfl, rfl⟩

/-- A request that finds its key is a duplicate. -/
theorem serve_of_found (hkey : key ≠ "") (h : middleware.Keyed tenantId key request) {data : Dict}
    (hfinds : s.finds (middleware.redisKey tenantId key) = some data)
    (reply : Except PyError BodyResponse) :
    middleware.serve request reply s =
      ⟨some (if ((data.get? "response").getD .null).truthy then
          .ok (cachedResponse key ((data.get? "response").getD .null))
        else .error conflictError, ()), s.advance, [.get (middleware.redisKey tenantId key)]⟩ := by
  have hfilter : request.idempotencyKey.filter (· ≠ "") = some key := by
    simp [h.idempotencyKey, hkey]
  simp only [serve, dispatch, h.mutating, h.included, hfilter, h.tenantId, Bool.false_eq_true, or_false,
    if_false, IdempotencyService.checkAndStore, Proc.on_bind, on_get, Prog.call_bind, Prog.ret_bind,
    Proc.thenOn_ok, Prog.exec_call, keyEnv]
  have hexisting : found (existing (s.command (Redis.get s.time
      (middleware.idempotencyService.store.makeKey key tenantId.str) s.store))) = some data := hfinds
  rw [hexisting]
  simp only [Proc.on_pure, Prog.ret_bind, Proc.thenOn_ok, Bool.true_and, if_true]
  split
  · rfl
  · rfl

/-- Redis at a later time holds for the key what it held before. -/
structure LaterThan (s' before : KeyServer) (key : String) : Prop where
  clock : before.clock ≤ s'.clock
  store : s'.store key = before.store key

/-- A request writes its own key alone. -/
theorem dispatch_guar {redisKey : String} (middleware : IdempotencyMiddleware) (request : KeyedRequest)
    (hother : ∀ tenantId key, middleware.Keyed tenantId key request →
      middleware.redisKey tenantId key ≠ redisKey) :
    ((middleware.dispatch request).on ()).Guar (fun _ _ => True)
      (fun o => ∀ data ex, o ≠ .set redisKey data ex) fun _ => True := by
  rcases middleware.keyed_or_callNext request with ⟨tenantId, key, hkey, hkeyed⟩ | hcallNext
  · refine (follows_dispatch hkey hkeyed).guar fun phase o hmay data ex ho => ?_
    subst ho
    cases phase with
    | missed | finished => exact hother tenantId key hkeyed hmay.1.symm
    | start | duplicate | stored | running => exact hmay
  · simp only [hcallNext, callNext, Proc.on_bind, Proc.on_call, Proc.on_tryCall, Prog.call_bind,
      Prog.ret_bind, Proc.thenOn_ok]
    refine ⟨fun data ex ho => ?_, fun _ _ => ⟨fun data ex ho => ?_, fun _ _ => trivial⟩⟩
    · cases ho
    · cases ho

/-- Requests with other keys leave what Redis holds for the key, and so do those that find it. -/
theorem LaterThan.serve {before s' : KeyServer} {redisKey : String} (h : LaterThan s' before redisKey)
    (middleware : IdempotencyMiddleware) (request : KeyedRequest) (reply : Except PyError BodyResponse)
    (hother : ∀ tenantId key, middleware.Keyed tenantId key request →
      middleware.redisKey tenantId key ≠ redisKey) :
    LaterThan (middleware.serve request reply s').state before redisKey := by
  refine (dispatch_guar middleware request hother).exec_state (I := fun s => LaterThan s before redisKey)
    (keyEnv reply) ?_ h
  intro o s ho hs
  have hadvance : LaterThan s.advance before redisKey :=
    ⟨Nat.le_trans hs.clock s.clock_le_time, hs.store⟩
  cases o with
  | get _ | datetimeNow | callNext | response => exact hadvance
  | set key data ex =>
    have hne : redisKey ≠ key := fun heq => ho data ex (heq ▸ rfl)
    show LaterThan (s.written key data ex) before redisKey
    unfold KeyServer.written
    split
    · exact ⟨hadvance.clock, (Redis.set_of_ne hne _ _).trans hs.store⟩
    · exact hadvance

/-- A request whose key has an answer stored keeps the server later than it was: it writes nothing under the
key that was not there. -/
theorem LaterThan.serve_of_found {before s' : KeyServer}
    (h : LaterThan s' before (middleware.redisKey tenantId key)) (hkey : key ≠ "")
    (hkeyed : middleware.Keyed tenantId key request) {data : Dict}
    (hfinds : s'.finds (middleware.redisKey tenantId key) = some data) :
    LaterThan (middleware.serve request reply s').state before (middleware.redisKey tenantId key) := by
  rw [IdempotencyMiddleware.serve_of_found hkey hkeyed hfinds reply]
  exact ⟨Nat.le_trans h.clock s'.clock_le_time, h.store⟩

/-- A request that reaches its handler did not find its key. -/
theorem missed_of_reached (hkey : key ≠ "") (h : middleware.Keyed tenantId key request)
    (hreached : IdempotencyCall.callNext ∈ (middleware.serve request reply s).calls) :
    s.finds (middleware.redisKey tenantId key) = none := by
  cases hfinds : s.finds (middleware.redisKey tenantId key) with
  | none => rfl
  | some data =>
    rw [serve_of_found hkey h hfinds] at hreached
    simp at hreached

/-- What a request that reaches its handler has stored before: its key, without a response. -/
theorem store_reserved (tenantId : UUID) (key : String) (request : KeyedRequest)
    (haccepts : s.advance.advance.Accepts middleware.idempotencyService.ttl) :
    ∃ entry, (middleware.reserved tenantId key request s).store (middleware.redisKey tenantId key) =
        some entry ∧ entry.value ≠ [] ∧ entry.value.get? "response" = some .null ∧
      entry.expireAt =
        some (s.advance.advance.time + middleware.idempotencyService.ttl.toNat * 1000) :=
  ⟨_, KeyServer.store_written haccepts _ _, newData_ne_nil _ _ _ _ _, rfl, rfl⟩

/-- The reservation costs five answers of Redis: the next outage after it is the fifth from now. -/
theorem answers_reserved (tenantId : UUID) (key : String) (request : KeyedRequest)
    (haccepts : s.advance.advance.Accepts middleware.idempotencyService.ttl) (n : Nat) :
    (middleware.reserved tenantId key request s).advance.advance.Answers n ↔ s.Answers (n + 5) := by
  rw [reserved, KeyServer.written, if_pos haccepts]
  exact Iff.rfl

/-- What a request that has been answered leaves: its key with the response, if Redis answers. -/
theorem entry_of_responded (hkey : key ≠ "") (h : middleware.Keyed tenantId key request)
    {response : BodyResponse} (h2xx : response.statusCode < 300)
    (hreached : IdempotencyCall.callNext ∈ (middleware.serve request (.ok response) s).calls)
    (haccepts : s.advance.advance.Accepts middleware.idempotencyService.ttl) :
    ∃ entry, (middleware.serve request (.ok response) s).state.store (middleware.redisKey tenantId key) =
        some entry ∧ entry.value ≠ [] ∧
      ∀ time, (middleware.serve request (.ok response) s).state.clock ≤ time → entry.Alive time →
        entry.value.get? "response" =
          some (if s.Answers 5 ∧ s.Answers 6 ∧ s.Answers 8 then extractResponseData response else .null) := by
  obtain ⟨-, -, hstate⟩ := serve_of_missed hkey h (missed_of_reached hkey h hreached) (.ok response)
  obtain ⟨entry, hentry, hvalue, hresponse, -⟩ := store_reserved tenantId key request haccepts
  rw [hstate, handled, if_pos h2xx]
  have hanswers (n : Nat) := answers_reserved tenantId key request haccepts n
  rcases (middleware.reserved tenantId key request s).advance.advance.responseStored_cases hentry hvalue
    (extractResponseData response) ((request.requestId.map Json.str).getD .null) haccepts.2 with
    ⟨hall, entry', hentry', hvalue', hresponse'⟩ | ⟨hentry', hdead⟩
  · rw [hanswers, hanswers, hanswers] at hall
    refine ⟨entry', hentry', hvalue', fun _ _ _ => ?_⟩
    rw [hresponse', if_pos hall]
  · rw [hanswers, hanswers, hanswers] at hdead
    refine ⟨entry, hentry', hvalue, fun time htime halive => ?_⟩
    rw [hresponse, if_neg fun hall => hdead hall (Redis.Entry.alive_of_le halive htime)]

/-- A request for a key that Redis does not know reaches its handler. -/
theorem sampleRequest_reached (reply : Except PyError BodyResponse) :
    IdempotencyCall.callNext ∈ (serve {} sampleRequest reply {}).calls :=
  (serve_of_missed (by decide) (sampleRequest_keyed _ List.mem_cons_self) rfl reply).1

/-- The first request returns what its handler answers, whatever that is. -/
theorem sampleRequest_result (reply : Except PyError BodyResponse) :
    (serve {} sampleRequest reply {}).result = some (reply, ()) :=
  (serve_of_missed (by decide) (sampleRequest_keyed _ List.mem_cons_self) rfl reply).2.1

/-- A response to a run that was created, as `call_next` of Starlette returns it: with its body, but no
`JSONResponse`. -/
def streamed : BodyResponse where
  statusCode := 201
  isJsonResponse := false
  body := .json (.dict [("id", .str "r")])

/-! ## Later requests with the same key -/

/-- A request is answered without the handler, by the same status and body as the one before. -/
def Replays (response : BodyResponse)
    (e : Prog.Exec IdempotencyCall KeyServer (Except PyError BodyResponse × Unit)) : Prop :=
  IdempotencyCall.callNext ∉ e.calls ∧ ∃ response', e.result = some (.ok response', ()) ∧
    response'.statusCode = response.statusCode ∧ response'.body = response.body

/-- A response is stored as what is truthy only if it is a `JSONResponse` with a truthy JSON body. -/
theorem truthy_extractResponseData {response : BodyResponse} :
    (extractResponseData response).truthy = true ↔
      response.isJsonResponse = true ∧ ∃ value, response.body = .json value ∧ value.truthy = true := by
  unfold extractResponseData
  cases response.isJsonResponse with
  | false => simp [Json.truthy]
  | true =>
    cases response.body with
    | json value => simp
    | empty | other text => simp [Json.truthy]

/-- Only the body of a JSON answer leaves data to store: everything else is stored as an empty dictionary. -/
theorem body_of_truthy {response : BodyResponse}
    (h : (extractResponseData response).truthy = true) :
    response.body = .json (extractResponseData response) := by
  obtain ⟨hjson, value, hbody, -⟩ := truthy_extractResponseData.1 h
  rw [extractResponseData, if_pos hjson, hbody]

/-- The key of a request that has been answered is found with its response, if Redis holds it. -/
theorem finds_of_responded (hkey : key ≠ "") (h : middleware.Keyed tenantId key request)
    {response : BodyResponse} (h2xx : response.statusCode < 300)
    (hreached : IdempotencyCall.callNext ∈ (middleware.serve request (.ok response) s).calls)
    (haccepts : s.advance.advance.Accepts middleware.idempotencyService.ttl) {s' : KeyServer}
    (hlater : LaterThan s' (middleware.serve request (.ok response) s).state
      (middleware.redisKey tenantId key)) :
    (¬s'.Holds (middleware.redisKey tenantId key) ∧ s'.finds (middleware.redisKey tenantId key) = none) ∨
    (s'.Holds (middleware.redisKey tenantId key) ∧
      ∃ data, s'.finds (middleware.redisKey tenantId key) = some data ∧ data.get? "response" =
        some (if s.Answers 5 ∧ s.Answers 6 ∧ s.Answers 8 then extractResponseData response else .null)) := by
  obtain ⟨entry, hentry, hvalue, hresponse⟩ := entry_of_responded hkey h h2xx hreached haccepts
  rw [← hlater.store] at hentry
  rcases KeyServer.finds_cases hentry hvalue with ⟨hholds, halive, hfinds⟩ | ⟨hnot, hfinds⟩
  · exact .inr ⟨hholds, entry.value, hfinds,
      hresponse s'.time (Nat.le_trans hlater.clock s'.clock_le_time) halive⟩
  · exact .inl ⟨hnot, hfinds⟩

/-- While the key is alive, a request after one that was answered from its key is answered the same. -/
theorem replays_of_found (hkey : key ≠ "") {retry : KeyedRequest}
    (hrequest : middleware.Keyed tenantId key request) (hretry : middleware.Keyed tenantId key retry)
    {response : BodyResponse}
    (hresult : (middleware.serve request reply s).result = some (.ok response, ())) {data : Dict}
    (hfinds : s.finds (middleware.redisKey tenantId key) = some data) {s' : KeyServer}
    (hlater : LaterThan s' (middleware.serve request reply s).state (middleware.redisKey tenantId key))
    (hheld : s'.Holds (middleware.redisKey tenantId key)) (reply' : Except PyError BodyResponse) :
    Replays response (middleware.serve retry reply' s') := by
  obtain ⟨entry, hentry, rfl, hvalue⟩ := KeyServer.entry_of_finds hfinds
  rw [serve_of_found hkey hrequest hfinds reply] at hresult hlater
  rcases KeyServer.finds_cases (hlater.store.trans hentry) hvalue with ⟨-, -, hfinds'⟩ | ⟨hnot, -⟩
  · rw [serve_of_found hkey hretry hfinds' reply']
    exact ⟨by simp, response, hresult, rfl, rfl⟩
  · exact absurd hheld hnot

/-- The request after one that has been answered below 300, while the key is alive, is answered the same
exactly if that one found its key, or its response was stored, is a `JSONResponse` with a truthy JSON
body, and a 200. -/
theorem replays_iff (middleware : IdempotencyMiddleware) {tenantId : UUID} {key : String}
    (hkey : key ≠ "") {request retry : KeyedRequest} (hrequest : middleware.Keyed tenantId key request)
    (hretry : middleware.Keyed tenantId key retry) {reply : Except PyError BodyResponse}
    {response : BodyResponse} {s s' : KeyServer}
    (hresult : (middleware.serve request reply s).result = some (.ok response, ()))
    (h2xx : response.statusCode < 300)
    (haccepts : s.finds (middleware.redisKey tenantId key) = none →
      s.advance.advance.Accepts middleware.idempotencyService.ttl)
    (hlater : LaterThan s' (middleware.serve request reply s).state (middleware.redisKey tenantId key))
    (hheld : s'.Holds (middleware.redisKey tenantId key)) (reply' : Except PyError BodyResponse) :
    Replays response (middleware.serve retry reply' s') ↔
      (s.finds (middleware.redisKey tenantId key)).isSome = true ∨
      (s.Answers 5 ∧ s.Answers 6 ∧ s.Answers 8) ∧ response.isJsonResponse = true ∧
        response.statusCode = 200 ∧ ∃ value, response.body = .json value ∧ value.truthy = true := by
  cases hmissed : s.finds (middleware.redisKey tenantId key) with
  | some data =>
    refine iff_of_true ?_ (.inl rfl)
    exact replays_of_found hkey hrequest hretry hresult hmissed hlater hheld reply'
  | none =>
    obtain ⟨hreached, hreply, -⟩ := serve_of_missed hkey hrequest hmissed reply
    obtain rfl : reply = .ok response :=
      (Prod.mk.inj (Option.some.inj (hreply.symm.trans hresult))).1
    rw [or_iff_right (by simp)]
    obtain ⟨hnot, -⟩ | ⟨-, data, hfinds, hdata⟩ :=
      finds_of_responded hkey hrequest h2xx hreached (haccepts hmissed) hlater
    · exact absurd hheld hnot
    · rw [serve_of_found hkey hretry hfinds reply', hdata, Option.getD_some]
      by_cases hall : s.Answers 5 ∧ s.Answers 6 ∧ s.Answers 8
      · rw [if_pos hall]
        constructor
        · rintro ⟨-, response', hresult, hstatus, hbody⟩
          dsimp only at hresult
          split at hresult
          · next htruthy =>
            obtain rfl := Except.ok.inj (Prod.mk.inj (Option.some.inj hresult)).1
            obtain ⟨hjson, hvalue⟩ := truthy_extractResponseData.1 htruthy
            exact ⟨hall, hjson, hstatus.symm, hvalue⟩
          · cases hresult
        · rintro ⟨-, hjson, hstatus, hvalue⟩
          have htruthy := truthy_extractResponseData.2 ⟨hjson, hvalue⟩
          refine ⟨by simp, _, by rw [if_pos htruthy], hstatus.symm, ?_⟩
          exact (body_of_truthy htruthy).symm
      · rw [if_neg hall]
        refine iff_of_false ?_ fun h => hall h.1
        rintro ⟨-, response', hresult, -⟩
        cases hresult

/-- A request of the same tenant with another key. -/
def anotherKey : KeyedRequest := { sampleRequest with idempotencyKey := some "j" }

/-- What Redis is left with by a request, one with another key, and a first retry. -/
def afterRetry : KeyServer :=
  let created := (serve {} sampleRequest (.ok streamed) {}).state
  let other := (serve {} anotherKey (.ok streamed) created).state
  (serve {} sampleRequest (.ok streamed) other).state

/-- The server after the retry is later than the one after the first request, which stored the answer. -/
theorem afterRetry_later :
    LaterThan afterRetry (serve {} sampleRequest (.ok streamed) {}).state (redisKey {} ⟨3⟩ "k") := by
  have hfirst : LaterThan (serve {} sampleRequest (.ok streamed) {}).state
    (serve {} sampleRequest (.ok streamed) {}).state (redisKey {} ⟨3⟩ "k") := ⟨Nat.le.refl, rfl⟩
  have hother : ∀ tenantId key, Keyed {} tenantId key anotherKey →
      redisKey {} tenantId key ≠ redisKey {} ⟨3⟩ "k" := by
    intro tenantId key hkeyed
    obtain rfl : "j" = key := Option.some.inj hkeyed.idempotencyKey
    obtain rfl : ⟨3⟩ = tenantId := Option.some.inj hkeyed.tenantId
    decide +kernel
  have hlater := hfirst.serve {} anotherKey (.ok streamed) hother
  obtain ⟨data, hfinds⟩ := Option.isSome_iff_exists.1 (show (KeyServer.finds (serve {} anotherKey (.ok streamed)
    (serve {} sampleRequest (.ok streamed) {}).state).state (redisKey {} ⟨3⟩ "k")).isSome = true by decide +kernel)
  exact hlater.serve_of_found (by decide) (sampleRequest_keyed _ List.mem_cons_self) hfinds

/-- The second retry of a request whose response was streamed. -/
theorem replays_iff_sample :
    Replays streamed (serve {} sampleRequest created afterRetry) ↔
      (KeyServer.finds {} (redisKey {} ⟨3⟩ "k")).isSome = true ∨
      (KeyServer.Answers {} 5 ∧ KeyServer.Answers {} 6 ∧ KeyServer.Answers {} 8) ∧
        streamed.isJsonResponse = true ∧ streamed.statusCode = 200 ∧
        ∃ value, streamed.body = .json value ∧ value.truthy = true :=
  replays_iff {} (by decide) (sampleRequest_keyed _ List.mem_cons_self)
    (sampleRequest_keyed _ List.mem_cons_self) (sampleRequest_result _) (by decide) (fun _ => by decide)
    afterRetry_later (by decide +kernel) created

/-- A streamed response is stored as `{}`, and its retry raises. -/
theorem not_replays : ¬∀ (middleware : IdempotencyMiddleware) (tenantId : UUID) (key : String)
      (request retry : KeyedRequest) (response : BodyResponse) (reply reply' : Except PyError BodyResponse)
      (s s' : KeyServer),
    key ≠ "" → middleware.Keyed tenantId key request → middleware.Keyed tenantId key retry →
    retry.method = request.method → retry.path = request.path → retry.body = request.body →
    (middleware.serve request reply s).result = some (.ok response, ()) → response.statusCode < 300 →
    s.advance.advance.Accepts middleware.idempotencyService.ttl →
    LaterThan s' (middleware.serve request reply s).state (middleware.redisKey tenantId key) →
    s'.Holds (middleware.redisKey tenantId key) →
    Replays response (middleware.serve retry reply' s') := by
  intro h
  obtain ⟨-, response', hresult, -⟩ := h {} ⟨3⟩ "k" sampleRequest sampleRequest streamed (.ok streamed)
    created {} (serve {} sampleRequest (.ok streamed) {}).state (by decide)
    (sampleRequest_keyed _ List.mem_cons_self) (sampleRequest_keyed _ List.mem_cons_self) rfl rfl rfl
    (sampleRequest_result _) (by decide) (by decide) ⟨Nat.le.refl, rfl⟩ (by decide +kernel)
  have hraises : ((serve {} sampleRequest created
      (serve {} sampleRequest (.ok streamed) {}).state).result.map fun r => r.1.toBool) = some false := by
    decide +kernel
  rw [hresult] at hraises
  cases hraises

/-- A request with the key of one that failed reaches its handler exactly if Redis refuses its lookup or
does not hold the key any more. -/
theorem reaches_iff (middleware : IdempotencyMiddleware) {tenantId : UUID} {key : String}
    (hkey : key ≠ "") {request retry : KeyedRequest} (hrequest : middleware.Keyed tenantId key request)
    (hretry : middleware.Keyed tenantId key retry) {reply : Except PyError BodyResponse}
    (hfails : ∀ response, reply = .ok response → 300 ≤ response.statusCode) {s s' : KeyServer}
    (hreached : IdempotencyCall.callNext ∈ (middleware.serve request reply s).calls)
    (hlater : LaterThan s' (middleware.serve request reply s).state (middleware.redisKey tenantId key))
    (reply' : Except PyError BodyResponse) :
    IdempotencyCall.callNext ∈ (middleware.serve retry reply' s').calls ↔
      ¬s'.Answers 0 ∨
      (s.advance.advance.Accepts middleware.idempotencyService.ttl ∧
        s.advance.advance.time + middleware.idempotencyService.ttl.toNat * 1000 < s'.time) ∨
      (¬s.advance.advance.Accepts middleware.idempotencyService.ttl ∧
        found (Redis.get s'.time (middleware.redisKey tenantId key) s.store) = none) := by
  have hmissed := missed_of_reached hkey hrequest hreached
  have hstate : (middleware.serve request reply s).state =
      (middleware.reserved tenantId key request s).advance.advance := by
    rw [(serve_of_missed hkey hrequest hmissed reply).2.2]
    cases reply with
    | error e => rfl
    | ok response => exact if_neg (Nat.not_lt.2 (hfails response rfl))
  have hreaches : IdempotencyCall.callNext ∈ (middleware.serve retry reply' s').calls ↔
      s'.finds (middleware.redisKey tenantId key) = none :=
    ⟨missed_of_reached hkey hretry, fun hfinds => (serve_of_missed hkey hretry hfinds reply').1⟩
  have hstore := hlater.store
  rw [hstate] at hstore
  rw [hreaches]
  by_cases haccepts : s.advance.advance.Accepts middleware.idempotencyService.ttl
  · obtain ⟨entry, hentry, hvalue, -, hexpire⟩ := store_reserved tenantId key request haccepts
    have halive : entry.Alive s'.time ↔
        s'.time ≤ s.advance.advance.time + middleware.idempotencyService.ttl.toNat * 1000 := by
      simp [Redis.Entry.Alive, hexpire]
    rw [KeyServer.finds_of_store (hstore.trans hentry) hvalue]
    constructor
    · intro hnone
      by_cases hanswers : s'.Answers 0
      · refine .inr (.inl ⟨haccepts, Nat.lt_of_not_le fun hle => ?_⟩)
        rw [if_pos ⟨hanswers, halive.2 hle⟩] at hnone
        cases hnone
      · exact .inl hanswers
    · rintro (hrefuses | ⟨-, hlate⟩ | ⟨hrefused, -⟩)
      · exact if_neg fun h => hrefuses h.1
      · exact if_neg fun h => Nat.not_le.2 hlate (halive.1 h.2)
      · exact absurd haccepts hrefused
  · have hunchanged : s'.store (middleware.redisKey tenantId key) =
        s.store (middleware.redisKey tenantId key) := by
      rw [hstore, reserved, KeyServer.written, if_neg haccepts]
      rfl
    have hget : Redis.get s'.time (middleware.redisKey tenantId key) s'.store =
        Redis.get s'.time (middleware.redisKey tenantId key) s.store := by
      rw [Redis.get, Redis.get, Redis.lookup, Redis.lookup, hunchanged]
    cases hfails' : (s'.moments 0).fails with
    | some e =>
      refine iff_of_true ?_ (.inl (by simp [KeyServer.Answers, hfails']))
      simp only [KeyServer.finds, KeyServer.command, hfails', existing_error]
      rfl
    | none =>
      have hanswers : s'.Answers 0 := hfails'
      simp only [KeyServer.finds, KeyServer.command, hfails', existing_ok, hget]
      simp [hanswers, haccepts]

/-- A handler that raises. -/
def failed : Except PyError BodyResponse := .error (.valueError "no such agent")

/-- A handler that raises gives no answer at all, so in particular none with a status below 300. -/
theorem failed_fails (response : BodyResponse) (h : failed = .ok response) :
    300 ≤ response.statusCode := by
  simp [failed] at h

/-- The condition for the retry of a request whose handler raised. -/
theorem reaches_iff_sample :
    IdempotencyCall.callNext ∈
        (serve {} sampleRequest created (serve {} sampleRequest failed {}).state).calls ↔
      ¬KeyServer.Answers (serve {} sampleRequest failed {}).state 0 ∨
      (KeyServer.Accepts (KeyServer.advance {}).advance 86400 ∧
        (KeyServer.advance {}).advance.time + (86400 : Int).toNat * 1000 <
          (serve {} sampleRequest failed {}).state.time) ∨
      (¬KeyServer.Accepts (KeyServer.advance {}).advance 86400 ∧
        found (Redis.get (serve {} sampleRequest failed {}).state.time (redisKey {} ⟨3⟩ "k")
          fun _ => none) = none) :=
  reaches_iff {} (by decide) (sampleRequest_keyed _ List.mem_cons_self)
    (sampleRequest_keyed _ List.mem_cons_self) failed_fails (sampleRequest_reached _) ⟨Nat.le.refl, rfl⟩ created

/-- The retry of a request whose handler raised raises: the key is still reserved for the first. -/
theorem not_reaches : ¬∀ (middleware : IdempotencyMiddleware) (tenantId : UUID) (key : String)
      (request retry : KeyedRequest) (reply reply' : Except PyError BodyResponse) (s s' : KeyServer),
    key ≠ "" → middleware.Keyed tenantId key request → middleware.Keyed tenantId key retry →
    (∀ response, reply = .ok response → 300 ≤ response.statusCode) →
    IdempotencyCall.callNext ∈ (middleware.serve request reply s).calls →
    LaterThan s' (middleware.serve request reply s).state (middleware.redisKey tenantId key) →
    IdempotencyCall.callNext ∈ (middleware.serve retry reply' s').calls := by
  intro h
  have hkeyed := sampleRequest_keyed sampleRequest List.mem_cons_self
  have hreached := h {} ⟨3⟩ "k" sampleRequest sampleRequest failed created {} _ (by decide) hkeyed hkeyed
    failed_fails (sampleRequest_reached _) ⟨Nat.le.refl, rfl⟩
  have hfound : (KeyServer.finds (serve {} sampleRequest failed {}).state (redisKey {} ⟨3⟩ "k")).isSome =
      true := by decide +kernel
  rw [missed_of_reached (by decide) hkeyed hreached] at hfound
  cases hfound

end IdempotencyMiddleware

end AgentRuntime
