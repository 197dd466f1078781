import AgentRuntime.Concurrency.IdempotentRequests

/-!
# Requests that reuse an idempotency key

Any requests, of any tenants and with any keys, over `IdempotencyMiddleware.dispatch`. Nothing of a request is
compared with what its key was stored for. But a duplicate is answered only with a response that is truthy,
and `_extract_response_data` extracts one only from a `JSONResponse`, which `call_next` of Starlette's
`BaseHTTPMiddleware` never returns: it streams the response of the application behind it. So no response that
is stored is ever truthy, by an invariant of all that Redis holds (`KeyTraffic.Unanswering`), and in every
schedule each request is executed or rejected (`executed_or_rejected`).
-/

namespace AgentRuntime

open Interaction IdempotencyStore

/-- What is left open of a call: Redis may refuse it, though it may have carried it out, and what a handler
responds. -/
structure KeyMoment where
  refusal : Option PyError := none
  carriedOut : Bool := false
  reply : Except PyError BodyResponse

/-- Redis and its clock, in milliseconds, with which requests have invoked their handlers, and what the
handlers have responded to which request. -/
structure KeyTraffic where
  store : Redis.Store Dict := fun _ => none
  clock : Nat := 0
  invoked : List Nat := []
  responses : List (Nat × Except PyError BodyResponse) := []

namespace KeyTraffic

/-- `SET key data EX ex`, for a lifetime that is positive. -/
def written (self : KeyTraffic) (key : String) (data : Dict) (ex : Int) : KeyTraffic :=
  { self with store := Redis.set self.clock key data (some (ex.toNat * 1000)) self.store }

/-- The answer to a call of a request, and what it leaves. -/
def answer (self : KeyTraffic) (moment : KeyMoment) (i : Nat) : (o : IdempotencyCall) → o.Ans × KeyTraffic
  | .get key =>
    (match moment.refusal with
      | some e => .error e
      | none => .ok (Redis.get self.clock key self.store), self)
  | .set key data ex =>
    if ex ≤ 0 then (.error (.external "ResponseError: invalid expire time in 'set' command"), self)
    else match moment.refusal with
      | some e => (.error e, if moment.carriedOut then self.written key data ex else self)
      | none => (.ok (), self.written key data ex)
  | .datetimeNow => ((self.clock * 1000 : Nat), self)
  | .callNext => ((), { self with invoked := i :: self.invoked })
  | .response => (moment.reply, { self with responses := (i, moment.reply) :: self.responses })

end KeyTraffic

/-- The rules of Redis, its clock and the handlers; milliseconds pass. -/
def trafficRules :
    Rules IdempotencyCall IdempotencyCall.Ans KeyTraffic KeyMoment Nat where
  answer moment i o traffic := traffic.answer moment i o
  outside milliseconds traffic := { traffic with clock := traffic.clock + milliseconds }

/-! ## What a request may do -/

/-- The response of these data is not one that a duplicate would be answered with. -/
def NoResponse (data : Dict) : Prop := ((data.get? "response").getD .null).truthy = false

/-- What Redis finds is no response to answer with, and what a handler returns is no `JSONResponse`. -/
def Unanswered : (o : IdempotencyCall) → o.Ans → Prop
  | .get _, answer => ∀ data, found (existing answer) = some data → NoResponse data
  | .response, reply => ∀ response, reply = .ok response → response.isJsonResponse = false
  | .set _ _ _, _ | .datetimeNow, _ | .callNext, _ => True

/-- Where a request is: before its handler, in it, and after it. -/
inductive ReusePhase where
  | unanswered
  | invoked
  | responded (reply : Except PyError BodyResponse)

/-- A request is rejected, or invokes its handler and returns what that responds. What it stores is no
response to answer with. -/
def reuseProtocol :
    Protocol IdempotencyCall IdempotencyCall.Ans (Except PyError BodyResponse × Unit) ReusePhase where
  may
    | .unanswered, .get _ | .responded _, .get _ => True
    | .unanswered, .datetimeNow | .responded _, .datetimeNow => True
    | .unanswered, .set _ data _ | .responded _, .set _ data _ => NoResponse data
    | .unanswered, .callNext => True
    | .invoked, .response => True
    | _, _ => False
  next
    | .unanswered, .callNext, _ => .invoked
    | .invoked, .response, reply => .responded reply
    | phase, _, _ => phase
  returns
    | .unanswered, (result, _) => result = .error IdempotencyMiddleware.conflictError
    | .invoked, _ => False
    | .responded reply, (result, _) => result = reply

/-- What is stored for a new key has no response yet. -/
theorem noResponse_newData (key tenantId operation : String) (requestData : Json) (now : Time) :
    NoResponse (newData key tenantId operation requestData now) := rfl

/-- What is stored with a response has that one. -/
theorem noResponse_completedData {existingData : Dict} {response : Json} (h : response.truthy = false)
    (requestId : Json) (now : Time) : NoResponse (completedData existingData response requestId now) := by
  rw [NoResponse, get?_response_completedData]
  exact h

namespace IdempotencyMiddleware

variable {middleware : IdempotencyMiddleware} {tenantId : UUID} {key : String} {request : KeyedRequest}
  {reply : Except PyError BodyResponse}

/-- Nothing but `{}` is extracted from a response that is no `JSONResponse`. -/
theorem truthy_extractResponseData_of_streamed {response : BodyResponse}
    (h : response.isJsonResponse = false) : (extractResponseData response).truthy = false := by
  rw [extractResponseData, h]
  rfl

/-- A response that is not truthy is stored as one that is not. -/
theorem storeResponse_follows {response : Json} (h : response.truthy = false) (requestId : Json) :
    ((middleware.idempotencyService.storeResponse key tenantId response requestId).on ()).Follows Unanswered
      (reuseProtocol.returning fun g _ => g = .responded reply) (.responded reply) := by
  simp only [IdempotencyService.storeResponse, Proc.on_bind, on_get, Prog.call_bind, Prog.ret_bind,
    Proc.thenOn_ok]
  refine ⟨trivial, fun answer _ => ?_⟩
  dsimp only
  cases found (existing answer) with
  | none => exact rfl
  | some _ =>
    simp only [on_setResponse]
    refine ⟨trivial, fun answer' _ => ?_⟩
    dsimp only
    cases found (existing answer') with
    | none => exact rfl
    | some _ => exact ⟨trivial, fun now _ => ⟨noResponse_completedData h requestId now, fun _ _ => rfl⟩⟩

/-- A request that is passed on returns what its handler responds. -/
theorem callNext_follows : (callNext.on ()).Follows Unanswered reuseProtocol .unanswered := by
  simp only [callNext, Proc.on_bind, Proc.on_call, Proc.on_tryCall, Prog.call_bind, Prog.ret_bind,
    Proc.thenOn_ok]
  exact ⟨trivial, fun _ _ => ⟨trivial, fun reply _ => rfl⟩⟩

/-- A request that is processed does as well, after it has stored what was extracted of it. -/
theorem process_follows :
    ((middleware.process request key tenantId).on ()).Follows Unanswered reuseProtocol .unanswered := by
  simp only [process, callNext, Proc.on_bind, Proc.on_call, Proc.on_tryCall, Prog.call_bind,
    Prog.ret_bind, Proc.thenOn_ok]
  refine ⟨trivial, fun _ _ => ⟨trivial, fun reply hstreamed => ?_⟩⟩
  cases reply with
  | error e => exact rfl
  | ok response =>
    simp only [id, Proc.thenOn_ok]
    split
    · simp only [Proc.on_bind, Proc.on_tryCatch, Prog.bind_assoc']
      have hfalsy := truthy_extractResponseData_of_streamed (hstreamed response rfl)
      refine (storeResponse_follows hfalsy _).bind fun g r hg => ?_
      obtain rfl : g = .responded (.ok response) := hg
      obtain ⟨e | stored, _⟩ := r
      · exact rfl
      · exact rfl
    · exact rfl

/-- Every request follows the protocol: one with a key by whether that is found, and another one as it is
passed on. -/
theorem dispatch_follows (middleware : IdempotencyMiddleware) (request : KeyedRequest) :
    ((middleware.dispatch request).on ()).Follows Unanswered reuseProtocol .unanswered := by
  rcases middleware.keyed_or_callNext request with ⟨tenantId, key, hkey, h⟩ | hcallNext
  · have hfilter : request.idempotencyKey.filter (· ≠ "") = some key := by
      simp [h.idempotencyKey, hkey]
    simp only [dispatch, h.mutating, h.included, hfilter, h.tenantId, Bool.false_eq_true, or_false, if_false,
      IdempotencyService.checkAndStore, Proc.on_bind, on_get, Prog.call_bind, Prog.ret_bind, Proc.thenOn_ok]
    refine ⟨trivial, fun answer hanswer => ?_⟩
    dsimp only
    cases hfound : found (existing answer) with
    | none =>
      simp only [Proc.on_bind, on_set, Prog.call_bind, Prog.ret_bind, Proc.thenOn_ok, Proc.on_pure,
        Bool.false_and, Bool.false_eq_true, if_false]
      exact ⟨trivial, fun now _ => ⟨noResponse_newData _ _ _ _ now, fun _ _ => process_follows⟩⟩
    | some data =>
      have hresponse : ((data.get? "response").getD .null).truthy = false := hanswer data hfound
      simp only [Proc.on_pure, Prog.ret_bind, Proc.thenOn_ok, hresponse, Bool.true_and, Bool.false_eq_true,
        if_false, if_true]
      exact rfl
  · rw [hcallNext]
    exact callNext_follows

end IdempotencyMiddleware

/-! ## What Redis holds -/

namespace KeyTraffic

/-- Nothing in Redis is a response to answer with, and what a request has been responded is noted, which is no
`JSONResponse`. -/
structure Unanswering (traffic : KeyTraffic) (phase : Nat → ReusePhase) : Prop where
  noResponse : ∀ key entry, traffic.store key = some entry → NoResponse entry.value
  invoked : ∀ i, phase i = .invoked → i ∈ traffic.invoked
  responded : ∀ i reply, phase i = .responded reply → i ∈ traffic.invoked ∧ (i, reply) ∈ traffic.responses
  streamed : ∀ i response, (i, .ok response) ∈ traffic.responses → response.isJsonResponse = false

variable {traffic : KeyTraffic} {phase : Nat → ReusePhase} {i : Nat}

/-- What Redis answers is what it holds. -/
theorem Unanswering.get (h : traffic.Unanswering phase) (key : String) (moment : KeyMoment) (i : Nat) :
    Unanswered (.get key) (traffic.answer moment i (.get key)).1 := by
  intro data hdata
  simp only [answer] at hdata
  split at hdata
  · cases hdata
  · obtain ⟨hlookup, -⟩ := Option.filter_eq_some_iff.1 hdata
    obtain ⟨entry, hentry, rfl⟩ := Option.map_eq_some_iff.1 hlookup
    exact h.noResponse key entry (Redis.lookup_eq_some.1 hentry).1

/-- What is no response may be written. -/
theorem Unanswering.written (h : traffic.Unanswering phase) (key : String) {data : Dict}
    (hdata : NoResponse data) (ex : Int) : (traffic.written key data ex).Unanswering phase := by
  refine ⟨fun key' entry hentry => ?_, h.invoked, h.responded, h.streamed⟩
  simp only [KeyTraffic.written] at hentry
  by_cases hkey : key' = key
  · rw [hkey, Redis.set, Function.update_self] at hentry
    cases hentry
    exact hdata
  · rw [Redis.set_of_ne hkey] at hentry
    exact h.noResponse key' entry hentry

/-- Whatever Redis does of a command, it holds no response to answer with. -/
theorem Unanswering.set (h : traffic.Unanswering phase) (key : String) {data : Dict}
    (hdata : NoResponse data) (ex : Int) (moment : KeyMoment) (i : Nat) :
    (traffic.answer moment i (.set key data ex)).2.Unanswering phase := by
  have hwritten := h.written key hdata ex
  simp only [answer]
  split
  · exact h
  · split
    · dsimp only
      split
      · exact hwritten
      · exact h
    · exact hwritten

/-- A request that stays in its phase. -/
theorem Unanswering.stays {g : ReusePhase} (h : traffic.Unanswering phase) (hi : phase i = g) :
    traffic.Unanswering (Function.update phase i g) := by
  rwa [← hi, Function.update_eq_self]

/-- A request invokes its handler. -/
theorem Unanswering.callNext (h : traffic.Unanswering phase) :
    ({ traffic with invoked := i :: traffic.invoked } : KeyTraffic).Unanswering
      (Function.update phase i .invoked) := by
  refine ⟨h.noResponse, fun j hj => ?_, fun j reply hj => ?_, h.streamed⟩
  · by_cases hij : j = i
    · exact hij ▸ List.mem_cons_self
    · rw [Function.update_of_ne hij] at hj
      exact List.mem_cons_of_mem _ (h.invoked j hj)
  · by_cases hij : j = i
    · rw [hij, Function.update_self] at hj
      cases hj
    · rw [Function.update_of_ne hij] at hj
      exact (h.responded j reply hj).imp_left (List.mem_cons_of_mem _)

/-- Its handler responds. -/
theorem Unanswering.response (h : traffic.Unanswering phase) (hi : phase i = .invoked)
    {reply : Except PyError BodyResponse}
    (hstreamed : ∀ response, reply = .ok response → response.isJsonResponse = false) :
    ({ traffic with responses := (i, reply) :: traffic.responses } : KeyTraffic).Unanswering
      (Function.update phase i (.responded reply)) := by
  refine ⟨h.noResponse, fun j hj => ?_, fun j reply' hj => ?_, fun j response hj => ?_⟩
  · by_cases hij : j = i
    · rw [hij, Function.update_self] at hj
      cases hj
    · rw [Function.update_of_ne hij] at hj
      exact h.invoked j hj
  · by_cases hij : j = i
    · subst hij
      rw [Function.update_self, ReusePhase.responded.injEq] at hj
      subst hj
      exact ⟨h.invoked j hi, List.mem_cons_self⟩
    · rw [Function.update_of_ne hij] at hj
      exact (h.responded j reply' hj).imp_right (List.mem_cons_of_mem _)
  · rcases List.mem_cons.1 hj with heq | hj
    · exact hstreamed response (Prod.mk.inj heq).2.symm
    · exact h.streamed j response hj

/-- A response that the handler returns is streamed, and no `JSONResponse`. -/
def Streamed (moment : KeyMoment) : Prop :=
  ∀ response, moment.reply = .ok response → response.isJsonResponse = false

/-- Every call keeps it, by cases of the phase of its request and the call. -/
theorem trafficRules_advance :
    trafficRules.AdvanceIf Unanswered (fun _ => reuseProtocol) (fun phase traffic => traffic.Unanswering phase)
      fun moment _ _ _ => Streamed moment where
  answer moment i o traffic phase h hmay hstreamed := by
    cases hi : phase i with
    | unanswered =>
      rw [hi] at hmay
      cases o with
      | get key => exact ⟨h.get key moment i, h.stays hi⟩
      | datetimeNow => exact ⟨trivial, h.stays hi⟩
      | set key data ex => exact ⟨trivial, (h.set key hmay ex moment i).stays hi⟩
      | callNext => exact ⟨trivial, h.callNext⟩
      | response => exact hmay.elim
    | invoked =>
      rw [hi] at hmay
      cases o with
      | response => exact ⟨hstreamed, h.response hi hstreamed⟩
      | get _ | set _ _ _ | datetimeNow | callNext => exact hmay.elim
    | responded reply =>
      rw [hi] at hmay
      cases o with
      | get key => exact ⟨h.get key moment i, h.stays hi⟩
      | datetimeNow => exact ⟨trivial, h.stays hi⟩
      | set key data ex => exact ⟨trivial, (h.set key hmay ex moment i).stays hi⟩
      | callNext | response => exact hmay.elim
  outside _ _ _ h := ⟨h.noResponse, h.invoked, h.responded, h.streamed⟩

end KeyTraffic

namespace IdempotencyMiddleware

/-- Requests that have not started; Redis holds nothing. -/
def trafficPool (self : IdempotencyMiddleware) (requests : List KeyedRequest) (clock : Nat) :
    Pool IdempotencyCall IdempotencyCall.Ans (Except PyError BodyResponse × Unit) KeyTraffic where
  threads := requests.map fun request => (self.dispatch request).on ()
  shared := { clock }

/-- The request was executed: its handler was invoked, and what it is answered is what that responded, and
not what is stored for any key. -/
structure Executed (traffic : KeyTraffic) (i : Nat) (result : Except PyError BodyResponse) : Prop where
  invoked : i ∈ traffic.invoked
  responded : (i, result) ∈ traffic.responses
  not_cached : ∀ key content, result ≠ .ok (cachedResponse key content)

/-- In every schedule, whatever requests there are and however they reuse keys, each one that is answered was
executed or is rejected: none is answered with a response that is stored. The handlers return no
`JSONResponse`. -/
theorem executed_or_rejected (middleware : IdempotencyMiddleware) (requests : List KeyedRequest) (clock : Nat)
    (schedule : List (Act KeyMoment Nat))
    (hstreamed : ∀ i moment, .thread i moment ∈ schedule → KeyTraffic.Streamed moment) {i : Nat}
    {result : Except PyError BodyResponse}
    (hresult : ((middleware.trafficPool requests clock).run trafficRules schedule).ending i =
      some (result, ())) :
    Executed ((middleware.trafficPool requests clock).run trafficRules schedule).shared i result ∨
      result = .error conflictError := by
  have hstart : (middleware.trafficPool requests clock).Following Unanswered (fun _ => reuseProtocol)
      (fun phase traffic => traffic.Unanswering phase) fun _ => .unanswered := by
    refine ⟨fun j q hq => ?_, nofun, nofun, nofun, nofun⟩
    · rw [trafficPool, List.getElem?_map] at hq
      obtain ⟨request, -, rfl⟩ := Option.map_eq_some_iff.1 hq
      exact dispatch_follows middleware request
  obtain ⟨phase, hrun⟩ := hstart.run_of_actMeets KeyTraffic.trafficRules_advance
    (Pool.meets_of_forall_mem fun p act hact => Pool.actMeets_of_thread fun j moment hthread _ _ =>
      hstreamed j moment (hthread ▸ hact))
  have hreturns := hrun.threads i _ (Pool.ending_eq_some.1 hresult)
  cases hphase : phase i with
  | unanswered =>
    rw [hphase] at hreturns
    exact .inr hreturns
  | invoked =>
    rw [hphase] at hreturns
    exact hreturns.elim
  | responded reply =>
    rw [hphase] at hreturns
    obtain rfl : result = reply := hreturns
    obtain ⟨hinvoked, hresponded⟩ := hrun.shared.responded i result hphase
    refine .inl ⟨hinvoked, hresponded, fun key content hcached => ?_⟩
    have hjson := hrun.shared.streamed i (cachedResponse key content) (hcached ▸ hresponded)
    exact Bool.false_ne_true hjson.symm

/-- Another request with the key of `sampleRequest`. -/
def otherRequest : KeyedRequest where
  method := "DELETE"
  path := "/v1/agents/a"
  tenantId := some ⟨3⟩
  idempotencyKey := some "k"

/-- A run is created, and its response stored as `{}`; then a deletion with the same key is rejected, and
another one, whose lookup Redis refuses, is executed. -/
def reusedKey : List (Act KeyMoment Nat) :=
  List.replicate 9 (.thread 0 { reply := created }) ++ .outside 1000 :: .thread 1 { reply := created } ::
    .thread 2 { refusal := some (.external "ConnectionError"), reply := created } ::
    List.replicate 8 (.thread 2 { reply := created })

/-- In this schedule every answer is one that `call_next` gives. -/
theorem reusedKey_streamed : ∀ i moment, .thread i moment ∈ reusedKey → KeyTraffic.Streamed moment := by
  intro i moment hmoment response hresponse
  have hreply : moment.reply = created := by
    simp [reusedKey] at hmoment
    rcases hmoment with ⟨-, rfl⟩ | ⟨-, rfl⟩ | ⟨-, rfl⟩ | ⟨-, rfl⟩ <;> rfl
  rw [hreply] at hresponse
  cases hresponse
  rfl

/-- The law for three requests, the last two of which use the key of the first for another body. -/
theorem executed_or_rejected_reusedKey :
    let traffic := ((trafficPool {} [sampleRequest, otherRequest, otherRequest] 0).run trafficRules
      reusedKey).shared
    (Executed traffic 1 (.error conflictError) ∨
        (.error conflictError : Except PyError BodyResponse) = .error conflictError) ∧
      (Executed traffic 2 created ∨ created = .error conflictError) :=
  ⟨@executed_or_rejected {} _ 0 reusedKey reusedKey_streamed 1 _ (by with_unfolding_all rfl),
    @executed_or_rejected {} _ 0 reusedKey reusedKey_streamed 2 _ (by with_unfolding_all rfl)⟩

end IdempotencyMiddleware

end AgentRuntime
