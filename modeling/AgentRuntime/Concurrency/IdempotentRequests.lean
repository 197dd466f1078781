import AgentRuntime.Api.IdempotencyMiddleware
import AgentRuntime.Interaction.Protocol

/-!
# Requests with one idempotency key

Concurrent requests of a tenant with one key, over `IdempotencyMiddleware.dispatch`. A request looks the
key up and then stores it, by two commands: between them another request does not find the key either, and
the handlers of both are invoked. If no request looks the key up between those two commands of another,
then in every schedule at most one handler runs (`running_le_one`).
-/

namespace AgentRuntime

open Interaction IdempotencyStore

/-- Where a request is: before its lookup, found to be a duplicate, between its lookup and its store,
before its handler, and in and after it. -/
inductive KeyPhase where
  | start
  | duplicate
  | missed
  | stored
  | running
  | finished

/-- A request that does not find the key stores it, invokes its handler, and stores the response. -/
def keyProtocol (key : String) :
    Protocol IdempotencyCall IdempotencyCall.Ans (Except PyError BodyResponse × Unit) KeyPhase where
  may
    | .start, .get key' | .finished, .get key' => key' = key
    | .missed, .set key' data _ | .finished, .set key' data _ => key' = key ∧ data ≠ []
    | .missed, .datetimeNow | .finished, .datetimeNow => True
    | .stored, .callNext => True
    | .running, .response => True
    | _, _ => False
  next
    | .start, .get _, answer => if (found (existing answer)).isSome then .duplicate else .missed
    | .missed, .set _ _ _, _ => .stored
    | .stored, .callNext, _ => .running
    | .running, .response, _ => .finished
    | phase, _, _ => phase
  returns _ _ := True

/-- A lookup ends the request as a duplicate, or shows that the key is free. -/
theorem keyProtocol_next_get (key key' : String) (answer : Except PyError (Option Dict)) :
    (keyProtocol key).next .start (.get key') answer =
      if (found (existing answer)).isSome then .duplicate else .missed := rfl

namespace IdempotencyMiddleware

variable {middleware : IdempotencyMiddleware} {tenantId : UUID} {key : String} {request : KeyedRequest}

/-- A mutating request of the tenant with the idempotency key, on a path that is not excluded. -/
structure Keyed (middleware : IdempotencyMiddleware) (tenantId : UUID) (key : String)
    (request : KeyedRequest) : Prop where
  mutating : request.method ∉ ["GET", "HEAD", "OPTIONS"]
  included : middleware.isExcludedPath request.path = false
  idempotencyKey : request.idempotencyKey = some key
  tenantId : request.tenantId = some tenantId

/-- A request has a key of a tenant, or it is passed on. -/
theorem keyed_or_callNext (middleware : IdempotencyMiddleware) (request : KeyedRequest) :
    (∃ tenantId key, key ≠ "" ∧ middleware.Keyed tenantId key request) ∨
      middleware.dispatch request = callNext := by
  unfold dispatch
  split
  · exact .inr rfl
  · next happlies =>
    split
    · next key tenantId hkey htenant =>
      obtain ⟨hmutating, hincluded⟩ := not_or.1 happlies
      obtain ⟨hsome, hne⟩ := Option.filter_eq_some_iff.1 hkey
      exact .inl ⟨tenantId, key, of_decide_eq_true hne,
        ⟨hmutating, Bool.eq_false_iff.2 hincluded, hsome, htenant⟩⟩
    · exact .inr rfl

/-- What Redis knows the key by. -/
def redisKey (middleware : IdempotencyMiddleware) (tenantId : UUID) (key : String) : String :=
  middleware.idempotencyService.store.makeKey key tenantId.str

/-- A response is stored after its handler. -/
theorem follows_storeResponse (response requestId : Json) :
    ((middleware.idempotencyService.storeResponse key tenantId response requestId).on ()).Follows
      (fun _ _ => True) ((keyProtocol (middleware.redisKey tenantId key)).returning
        fun g _ => g = .finished) .finished := by
  simp only [IdempotencyService.storeResponse, Proc.on_bind, on_get, Prog.call_bind, Prog.ret_bind,
    Proc.thenOn_ok]
  refine ⟨rfl, fun answer _ => ?_⟩
  dsimp only
  cases found (existing answer) with
  | none => exact rfl
  | some existingData =>
    simp only [on_setResponse]
    refine ⟨rfl, fun answer' _ => ?_⟩
    dsimp only
    cases found (existing answer') with
    | none => exact rfl
    | some existingData =>
      exact ⟨trivial, fun now _ => ⟨⟨rfl, completedData_ne_nil _ _ _ _⟩, fun _ _ => rfl⟩⟩

/-- The handler of a request that has stored its key. -/
theorem follows_process :
    ((middleware.process request key tenantId).on ()).Follows (fun _ _ => True)
      (keyProtocol (middleware.redisKey tenantId key)) .stored := by
  simp only [process, callNext, Proc.on_bind, Proc.on_call, Proc.on_tryCall, Prog.call_bind,
    Prog.ret_bind, Proc.thenOn_ok]
  refine ⟨trivial, fun _ _ => ⟨trivial, fun response _ => ?_⟩⟩
  cases response with
  | error e => trivial
  | ok response =>
    simp only [id, Proc.thenOn_ok]
    split
    · simp only [Proc.on_bind, Proc.on_tryCatch, Prog.bind_assoc']
      refine (follows_storeResponse _ _).bind fun g r _ => ?_
      obtain ⟨e | stored, _⟩ := r
      · trivial
      · trivial
    · trivial

/-- Every request follows the protocol. -/
theorem follows_dispatch (hkey : key ≠ "") (h : middleware.Keyed tenantId key request) :
    ((middleware.dispatch request).on ()).Follows (fun _ _ => True)
      (keyProtocol (middleware.redisKey tenantId key)) .start := by
  have hfilter : request.idempotencyKey.filter (· ≠ "") = some key := by
    simp [h.idempotencyKey, hkey]
  simp only [dispatch, h.mutating, h.included, hfilter, h.tenantId, Bool.false_eq_true, or_false, if_false,
    IdempotencyService.checkAndStore, Proc.on_bind, on_get, Prog.call_bind, Prog.ret_bind,
    Proc.thenOn_ok]
  refine ⟨rfl, fun answer _ => ?_⟩
  dsimp only
  cases hfound : found (existing answer) with
  | none =>
    rw [keyProtocol_next_get, hfound]
    simp only [Proc.on_bind, on_set, Prog.call_bind, Prog.ret_bind, Proc.thenOn_ok, Proc.on_pure,
      Bool.false_and, Bool.false_eq_true, if_false]
    exact ⟨trivial, fun now _ => ⟨⟨rfl, newData_ne_nil _ _ _ _ _⟩, fun answer _ => follows_process⟩⟩
  | some existingData =>
    rw [keyProtocol_next_get, hfound]
    simp only [Option.isSome_some, Proc.on_pure, Prog.ret_bind, Proc.thenOn_ok, if_true]
    split
    · trivial
    · trivial

end IdempotencyMiddleware

/-! ## Redis, the clock and the requests under way -/

/-- Redis and its clock, in milliseconds, with which requests did not find the key and have not stored it,
whether one has stored it, which have invoked the handler, and whose handlers have not responded. -/
structure KeyLedger where
  store : Redis.Store Dict := fun _ => none
  clock : Nat := 0
  storing : List Nat := []
  written : Bool := false
  invoked : List Nat := []
  running : List Nat := []

namespace KeyLedger

/-- The answer to a call, where `reply` is what a handler answers. -/
def answer (self : KeyLedger) (reply : Except PyError BodyResponse) : (o : IdempotencyCall) → o.Ans
  | .get key => .ok (Redis.get self.clock key self.store)
  | .set _ _ ex =>
    if ex ≤ 0 then .error (.external "ResponseError: invalid expire time in 'set' command") else .ok ()
  | .datetimeNow => (self.clock * 1000 : Nat)
  | .callNext => ()
  | .response => reply

/-- What a call changes and what is noted of it. -/
def note (self : KeyLedger) (i : Nat) : (o : IdempotencyCall) → o.Ans → KeyLedger
  | .get _, answer =>
    if (found (existing answer)).isSome ∨ i ∈ self.invoked then self
    else { self with storing := i :: self.storing }
  | .set key data ex, answer =>
    { self with
      store := if answer.toBool then Redis.set self.clock key data (some (ex.toNat * 1000)) self.store
        else self.store
      storing := self.storing.erase i
      written := true }
  | .datetimeNow, _ => self
  | .callNext, _ => { self with invoked := i :: self.invoked, running := i :: self.running }
  | .response, _ => { self with running := self.running.erase i }

end KeyLedger

/-- The rules of Redis, its clock and the handlers; milliseconds pass. -/
def keyRules : Rules IdempotencyCall IdempotencyCall.Ans KeyLedger (Except PyError BodyResponse) Nat where
  answer reply i o ledger :=
    let answer := ledger.answer reply o
    (answer, ledger.note i o answer)
  outside milliseconds ledger := { ledger with clock := ledger.clock + milliseconds }

/-- Once a request has stored the key, it is there. -/
def KeyAlive (_ : Nat) (o : IdempotencyCall) (ledger : KeyLedger) : Prop :=
  match o with
  | .get key => ledger.written = true → (Redis.lookup ledger.clock key ledger.store).isSome
  | _ => True

/-- A request that does not find the key looks it up while no other is about to store it. -/
def LooksUpAlone (_ : Nat) (o : IdempotencyCall) (ledger : KeyLedger) : Prop :=
  match o with
  | .get key => found (Redis.get ledger.clock key ledger.store) = none → ledger.storing = []
  | _ => True

instance (i : Nat) (o : IdempotencyCall) (ledger : KeyLedger) : Decidable (KeyAlive i o ledger) :=
  match o with
  | .get key =>
    inferInstanceAs (Decidable (ledger.written = true → (Redis.lookup ledger.clock key ledger.store).isSome))
  | .set _ _ _ | .datetimeNow | .callNext | .response => inferInstanceAs (Decidable True)

instance (i : Nat) (o : IdempotencyCall) (ledger : KeyLedger) : Decidable (LooksUpAlone i o ledger) :=
  match o with
  | .get key =>
    inferInstanceAs (Decidable (found (Redis.get ledger.clock key ledger.store) = none →
      ledger.storing = []))
  | .set _ _ _ | .datetimeNow | .callNext | .response => inferInstanceAs (Decidable True)

/-- A request that has not looked the key up, or has found it. -/
def KeyPhase.Waits : KeyPhase → Prop
  | .start | .duplicate => True
  | .missed | .stored | .running | .finished => False

namespace KeyLedger

/-- What is noted of the only request that did not find the key. -/
def Holds (self : KeyLedger) (i : Nat) : KeyPhase → Prop
  | .start | .duplicate => False
  | .missed => self.storing = [i] ∧ self.invoked = [] ∧ self.running = []
  | .stored => self.written = true ∧ self.storing = [] ∧ self.invoked = [] ∧ self.running = []
  | .running => self.written = true ∧ self.storing = [] ∧ self.invoked = [i] ∧ self.running = [i]
  | .finished => self.written = true ∧ self.storing = [] ∧ self.invoked = [i] ∧ self.running = []

/-- At most one request did not find the key, and what is stored is not empty. -/
structure Sole (ledger : KeyLedger) (key : String) (phase : Nat → KeyPhase) : Prop where
  nonempty : ∀ entry, ledger.store key = some entry → entry.value ≠ []
  holder : (∀ i, (phase i).Waits) ∧ ledger.storing = [] ∧ ledger.invoked = [] ∧ ledger.running = [] ∨
    ∃ i, (∀ j, j ≠ i → (phase j).Waits) ∧ ledger.Holds i (phase i)

variable {self : KeyLedger} {key : String} {phase : Nat → KeyPhase} {i : Nat}

/-- At most one handler has been invoked, and so at most one runs. -/
theorem Sole.invoked_le_one (h : self.Sole key phase) :
    self.invoked.length ≤ 1 ∧ self.running.length ≤ 1 := by
  rcases h.holder with ⟨-, -, hinvoked, hrunning⟩ | ⟨i, -, hi⟩
  · simp [hinvoked, hrunning]
  · cases hphase : phase i with
    | start | duplicate => simp [hphase, Holds] at hi
    | missed | stored | running | finished =>
      rw [hphase] at hi
      simp only [Holds] at hi
      simp [hi]

/-- A request that holds the key does not wait for it. -/
theorem Holds.not_waits {phase : KeyPhase} (h : self.Holds i phase) : ¬phase.Waits := by
  cases phase with
  | start | duplicate => exact h.elim
  | missed | stored | running | finished => exact id

/-- What a request stores under the key is not empty. -/
theorem Sole.nonempty_set (h : self.Sole key phase) {data : Dict} (hdata : data ≠ []) (ex : Int)
    (answer : Except PyError Unit) : ∀ entry,
    (self.note i (.set key data ex) answer).store key = some entry → entry.value ≠ [] := by
  intro entry hentry
  simp only [KeyLedger.note] at hentry
  split at hentry
  · rw [Redis.set, Function.update_self] at hentry
    cases hentry
    exact hdata
  · exact h.nonempty entry hentry

/-- A request that has not found the key is the only one. -/
theorem Sole.holds (h : self.Sole key phase) (hi : ¬(phase i).Waits) :
    (∀ j, j ≠ i → (phase j).Waits) ∧ self.Holds i (phase i) := by
  rcases h.holder with ⟨hwaits, -⟩ | ⟨j, hwaits, hj⟩
  · exact absurd (hwaits i) hi
  · obtain rfl : i = j := Classical.byContradiction fun hne => hi (hwaits i hne)
    exact ⟨hwaits, hj⟩

/-- It moves on. -/
theorem Sole.moves {after : KeyLedger} {next : KeyPhase}
    (hnonempty : ∀ entry, after.store key = some entry → entry.value ≠ [])
    (hwaits : ∀ j, j ≠ i → (phase j).Waits) (hnext : after.Holds i next) :
    after.Sole key (Function.update phase i next) := by
  refine ⟨hnonempty, .inr ⟨i, fun j hj => ?_, ?_⟩⟩
  · rw [Function.update_of_ne hj]
    exact hwaits j hj
  · rwa [Function.update_self]

/-- A key that has been stored is found while it is alive. -/
theorem Sole.found_of_written (h : self.Sole key phase) (hwritten : self.written = true)
    (halive : KeyAlive i (.get key) self) : found (Redis.get self.clock key self.store) ≠ none := by
  obtain ⟨entry, hentry⟩ := Option.isSome_iff_exists.1 (halive hwritten)
  have hvalue := h.nonempty entry (Redis.lookup_eq_some.1 hentry).1
  simp [found, Redis.get, hentry, hvalue]

/-- So there is no such request when another does not find the key, which looks it up alone. -/
theorem Sole.free (h : self.Sole key phase) (halive : KeyAlive i (.get key) self)
    (halone : LooksUpAlone i (.get key) self)
    (hfound : found (Redis.get self.clock key self.store) = none) :
    (∀ j, (phase j).Waits) ∧ self.storing = [] ∧ self.invoked = [] ∧ self.running = [] := by
  rcases h.holder with hfree | ⟨j, -, hj⟩
  · exact hfree
  · exfalso
    have hnotWritten (hwritten : self.written = true) : False :=
      h.found_of_written hwritten halive hfound
    cases hphase : phase j with
    | start | duplicate => simp [hphase, Holds] at hj
    | missed =>
      rw [hphase] at hj
      exact List.cons_ne_nil _ _ (hj.1.symm.trans (halone hfound))
    | stored | running | finished =>
      rw [hphase] at hj
      exact hnotWritten hj.1

/-- A request looks the key up. -/
theorem Sole.looksUp (h : self.Sole key phase) (hi : (phase i).Waits)
    (halive : KeyAlive i (.get key) self) (halone : LooksUpAlone i (.get key) self) :
    (self.note i (.get key) (.ok (Redis.get self.clock key self.store))).Sole key
      (Function.update phase i
        (if (found (Redis.get self.clock key self.store)).isSome then .duplicate else .missed)) := by
  cases hfound : found (Redis.get self.clock key self.store) with
  | none =>
    obtain ⟨hwaits, hstoring, hinvoked, hrunning⟩ := h.free halive halone hfound
    have hnote : self.note i (.get key) (.ok (Redis.get self.clock key self.store)) =
        { self with storing := i :: self.storing } := by
      have hexisting : found (existing (.ok (Redis.get self.clock key self.store))) = none := hfound
      simp [note, hexisting, hinvoked]
    rw [hnote]
    exact Sole.moves h.nonempty (fun j _ => hwaits j) ⟨by rw [hstoring], hinvoked, hrunning⟩
  | some data =>
    have hnote : self.note i (.get key) (.ok (Redis.get self.clock key self.store)) = self := by
      have hexisting : found (existing (.ok (Redis.get self.clock key self.store))) = some data := hfound
      simp [note, hexisting]
    have hupdate (j : Nat) (hj : (phase j).Waits) :
        (Function.update phase i KeyPhase.duplicate j).Waits := by
      by_cases hij : j = i
      · rw [hij, Function.update_self]
        trivial
      · rwa [Function.update_of_ne hij]
    rw [hnote]
    refine ⟨h.nonempty, ?_⟩
    rcases h.holder with ⟨hwaits, hfree⟩ | ⟨j, hwaits, hj⟩
    · exact .inl ⟨fun j => hupdate j (hwaits j), hfree⟩
    · have hij : j ≠ i := by
        rintro rfl
        exact hj.not_waits hi
      refine .inr ⟨j, fun k hk => hupdate k (hwaits k hk), ?_⟩
      rwa [Function.update_of_ne hij]

/-- Every call keeps the request that did not find the key the only one. -/
theorem Sole.note (h : self.Sole key phase) {o : IdempotencyCall}
    (hmay : (keyProtocol key).may (phase i) o) (halive : KeyAlive i o self)
    (halone : LooksUpAlone i o self) (reply : Except PyError BodyResponse) :
    (self.note i o (self.answer reply o)).Sole key
      (Function.update phase i ((keyProtocol key).next (phase i) o (self.answer reply o))) := by
  cases hi : phase i with
  | start =>
    rw [hi] at hmay
    cases o with
    | get key' =>
      obtain rfl : key' = key := hmay
      exact h.looksUp (by rw [hi]; trivial) halive halone
    | set _ _ _ | datetimeNow | callNext | response => exact hmay.elim
  | duplicate =>
    rw [hi] at hmay
    cases o with
    | get _ | set _ _ _ | datetimeNow | callNext | response => exact hmay.elim
  | missed =>
    obtain ⟨hwaits, hholds⟩ := h.holds (by rw [hi]; exact id)
    rw [hi] at hmay hholds
    cases o with
    | datetimeNow => exact Sole.moves h.nonempty hwaits hholds
    | set key' data ex =>
      obtain ⟨rfl, hdata⟩ := hmay
      refine Sole.moves (h.nonempty_set hdata ex _) hwaits ?_
      exact ⟨rfl, by simp [KeyLedger.note, hholds.1], hholds.2⟩
    | get _ | callNext | response => exact hmay.elim
  | stored =>
    obtain ⟨hwaits, hholds⟩ := h.holds (by rw [hi]; exact id)
    rw [hi] at hmay hholds
    obtain ⟨hwritten, hstoring, hinvoked, hrunning⟩ := hholds
    cases o with
    | callNext =>
      exact Sole.moves h.nonempty hwaits ⟨hwritten, hstoring,
        congrArg (i :: ·) hinvoked, congrArg (i :: ·) hrunning⟩
    | get _ | set _ _ _ | datetimeNow | response => exact hmay.elim
  | running =>
    obtain ⟨hwaits, hholds⟩ := h.holds (by rw [hi]; exact id)
    rw [hi] at hmay hholds
    obtain ⟨hwritten, hstoring, hinvoked, hrunning⟩ := hholds
    cases o with
    | response =>
      refine Sole.moves h.nonempty hwaits ⟨hwritten, hstoring, hinvoked, ?_⟩
      simp [KeyLedger.note, hrunning]
    | get _ | set _ _ _ | datetimeNow | callNext => exact hmay.elim
  | finished =>
    obtain ⟨hwaits, hholds⟩ := h.holds (by rw [hi]; exact id)
    rw [hi] at hmay hholds
    cases o with
    | get key' =>
      have hmem : i ∈ self.invoked := by simp [hholds.2.2.1]
      have hnote : self.note i (.get key') (self.answer reply (.get key')) = self := by
        simp [KeyLedger.note, hmem]
      rw [hnote]
      exact Sole.moves h.nonempty hwaits hholds
    | datetimeNow => exact Sole.moves h.nonempty hwaits hholds
    | set key' data ex =>
      obtain ⟨rfl, hdata⟩ := hmay
      refine Sole.moves (h.nonempty_set hdata ex _) hwaits ⟨rfl, ?_, hholds.2.2⟩
      simp [KeyLedger.note, hholds.2.1]
    | callNext | response => exact hmay.elim

/-- While the key lives as long as the request that holds it, and is looked up alone where it is free, at most
one request holds it. -/
theorem keyRules_advance (key : String) : keyRules.Advance (fun _ _ => True) (fun _ => keyProtocol key)
    (fun phase ledger => ledger.Sole key phase)
    (fun i o ledger => KeyAlive i o ledger ∧ LooksUpAlone i o ledger) where
  answer reply i o ledger phase h hmay hcondition :=
    ⟨trivial, h.note hmay hcondition.1 hcondition.2 reply⟩
  outside milliseconds ledger phase h := by
    refine ⟨h.nonempty, h.holder.imp_right ?_⟩
    rintro ⟨i, hwaits, hholds⟩
    refine ⟨i, hwaits, ?_⟩
    cases hphase : phase i with
    | start | duplicate | missed | stored | running | finished =>
      rw [hphase] at hholds
      exact hholds

end KeyLedger

namespace IdempotencyMiddleware

/-- Requests that have not started; Redis does not know the key. -/
def requestPool (self : IdempotencyMiddleware) (requests : List KeyedRequest) (clock : Nat) :
    Pool IdempotencyCall IdempotencyCall.Ans (Except PyError BodyResponse × Unit) KeyLedger where
  threads := requests.map fun request => (self.dispatch request).on ()
  shared := { clock }

/-- While the key is alive, in every schedule where a request that does not find the key looks it up while
no other is about to store it, no handler is invoked while another runs. -/
theorem running_le_one (middleware : IdempotencyMiddleware) (tenantId : UUID) (key : String)
    (hkey : key ≠ "") (requests : List KeyedRequest)
    (hkeyed : ∀ request ∈ requests, middleware.Keyed tenantId key request) (clock : Nat)
    (schedule : List (Act (Except PyError BodyResponse) Nat))
    (halive : Pool.Meets keyRules (Pool.CallMeets KeyAlive) (middleware.requestPool requests clock)
      schedule)
    (halone : Pool.Meets keyRules (Pool.CallMeets LooksUpAlone)
      (middleware.requestPool requests clock) schedule) :
    ((middleware.requestPool requests clock).run keyRules schedule).shared.running.length ≤ 1 := by
  have hstart : (middleware.requestPool requests clock).Following (fun _ _ => True)
      (fun _ => keyProtocol (middleware.redisKey tenantId key))
      (fun phase ledger => ledger.Sole (middleware.redisKey tenantId key) phase) fun _ => .start := by
    refine ⟨fun i q hq => ?_, nofun, .inl ⟨fun i => trivial, rfl, rfl, rfl⟩⟩
    rw [requestPool, List.getElem?_map] at hq
    obtain ⟨request, hrequest, rfl⟩ := Option.map_eq_some_iff.1 hq
    exact follows_dispatch hkey (hkeyed request (List.mem_of_getElem? hrequest))
  have hmeets := (halive.and halone).mono fun p a h => h.1.and h.2
  obtain ⟨phase, hrun⟩ := hstart.run (KeyLedger.keyRules_advance _) hmeets
  exact hrun.shared.invoked_le_one.2

/-- A request to create a run. -/
def sampleRequest : KeyedRequest where
  path := "/v1/runs"
  tenantId := some ⟨3⟩
  idempotencyKey := some "k"

/-- Both requests of the sample have the key. -/
theorem sampleRequest_keyed : ∀ request ∈ [sampleRequest, sampleRequest],
    IdempotencyMiddleware.Keyed {} ⟨3⟩ "k" request := by
  intro request hrequest
  obtain rfl : request = sampleRequest := by simpa using hrequest
  exact ⟨by decide, by decide +kernel, rfl, rfl⟩

/-- A handler that creates a run. -/
def created : Except PyError BodyResponse := .ok { statusCode := 201, isJsonResponse := false }

/-- Of two requests with one key, the second of which starts when the first runs its handler, one runs it. -/
theorem running_le_one_sample :
    ((requestPool {} [sampleRequest, sampleRequest] 0).run keyRules
      (List.replicate 4 (.thread 0 created) ++ [.thread 1 created])).shared.running.length ≤ 1 := by
  refine running_le_one {} ⟨3⟩ "k" (by decide) _ sampleRequest_keyed 0 _ ?_ ?_
  · decide +kernel
  · decide +kernel

/-- Two requests look the key up before either stores it, and both handlers run. -/
theorem not_running_le_one : ¬∀ (middleware : IdempotencyMiddleware) (tenantId : UUID) (key : String)
      (requests : List KeyedRequest) (clock : Nat) (schedule : List (Act (Except PyError BodyResponse) Nat)),
    key ≠ "" → (∀ request ∈ requests, middleware.Keyed tenantId key request) →
    Pool.Meets keyRules (Pool.CallMeets KeyAlive) (middleware.requestPool requests clock) schedule →
    ((middleware.requestPool requests clock).run keyRules schedule).shared.running.length ≤ 1 := by
  intro h
  let next (n i : Nat) : List (Act (Except PyError BodyResponse) Nat) :=
    List.replicate n (.thread i created)
  have hbound := h {} ⟨3⟩ "k" [sampleRequest, sampleRequest] 0 (next 1 0 ++ next 4 1 ++ next 3 0)
    (by decide) sampleRequest_keyed (by decide +kernel)
  revert hbound
  decide +kernel

end IdempotencyMiddleware

end AgentRuntime
