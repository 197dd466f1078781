import AgentRuntime.Api.RequestProtocol

/-!
# The units that a request takes

The script counts an admitted request in its counter, and `record_request` counts it there once more and
sets the expiry anew. `UnitLedger` notes what each request did to its counter. As long as no request is
counted by `record_request`, an entry holds no more than the checks of its minute (`OncePer`), so only
more requests than the limit are rejected; the first that is has taken two units (`Tracks`). From this,
`oneUnitEach_iff` for every schedule of requests.
-/

namespace AgentRuntime

open Interaction

/-- The entry lives longer than before. -/
def prolongs (before after : Option (Redis.Entry Int)) : Bool :=
  match before, after with
  | some ⟨_, some t⟩, some ⟨_, some t'⟩ => t < t'
  | some ⟨_, some _⟩, some ⟨_, none⟩ => true
  | _, _ => false

/-- Redis, with when which counter was checked, and for each request the answer of its check, what it
added to its counter, and whether it made the counter's entry live longer. -/
structure UnitLedger where
  server : RedisServer
  checks : List (String × Nat) := []
  verdict : Nat → Option Bool := fun _ => none
  units : Nat → Int := fun _ => 0
  prolonged : Nat → Bool := fun _ => false

namespace UnitLedger

/-- The value of a counter. -/
def counter (self : UnitLedger) (key : String) : Int :=
  Redis.counter self.server.clock key self.server.store

/-- The entry of a counter. -/
def entry (self : UnitLedger) (key : String) : Option (Redis.Entry Int) :=
  Redis.lookup self.server.clock key self.server.store

/-- The checks of a counter in the minute from `t` on. The millisecond that it ends in is one of it. -/
def checksIn (self : UnitLedger) (key : String) (t : Nat) : Nat :=
  self.checks.countP fun check => check.1 = key ∧ t ≤ check.2 ∧ check.2 ≤ t + 60000

/-- Request `i` made a command on its counter, which left Redis as `server`. -/
def command (self : UnitLedger) (i : Nat) (key : String) (server : RedisServer) : UnitLedger :=
  let after := { self with server }
  { after with
    units := Function.update self.units i (self.units i + (after.counter key - self.counter key))
    prolonged := Function.update self.prolonged i
      (self.prolonged i || prolongs (self.entry key) (after.entry key)) }

/-- Request `i` was checked. -/
def check (self : UnitLedger) (i : Nat) (key : String) (allowed : Bool) : UnitLedger :=
  { self with
    checks := (key, self.server.clock) :: self.checks
    verdict := Function.update self.verdict i (some allowed) }

/-- What is noted of a call of request `i`. -/
def note (self : UnitLedger) (i : Nat) (server : RedisServer) : (o : ApiCall) → o.Ans → UnitLedger
  | .evalsha _ key _, .ok (first :: _) => (self.command i key server).check i key (0 < first)
  | .evalsha _ key _, _ => self.command i key server
  | .incr key, _ => self.command i key server
  | .expire key _, _ => self.command i key server
  | _, _ => { self with server }

end UnitLedger

/-- Redis where `EVALSHA` runs the rate limit script, with the notes. -/
def unitRules : Rules ApiCall ApiCall.Ans UnitLedger ApiReply Nat where
  answer reply i o ledger :=
    let answer := apiAnswer (always .rateLimit) reply i o ledger.server
    (answer.1, ledger.note i answer.2 o answer.1)
  outside ms ledger :=
    { ledger with server := (apiRules (always .rateLimit)).outside ms ledger.server }

namespace UnitLedger

/-- No admitted request took more than its check: the entries are those that the script made, each alive
for a minute from its creation on, and no more than the checks since are counted in it. -/
structure OncePer (ledger : UnitLedger) (counters : Nat → String × Int) : Prop where
  entry : ∀ key entry, ledger.entry key = some entry → ∃ t ≤ ledger.server.clock,
    entry.expireAt = some (t + 60000) ∧ 0 ≤ entry.value ∧ entry.value ≤ ledger.checksIn key t
  oneUnit : ∀ i, ledger.verdict i = some true → ledger.units i = 1 ∧ ledger.prolonged i = false
  spares : ∀ i, ledger.verdict i = some false → ∃ t, (counters i).2 < ledger.checksIn (counters i).1 t

/-- What is noted of a request agrees with its phase. -/
def Agrees (self : UnitLedger) (i : Nat) : RequestPhase → Prop
  | .unchecked => self.verdict i = none ∧ self.units i = 0 ∧ self.prolonged i = false
  | .checked allowed => self.verdict i = some allowed
  | .counted => self.verdict i = some true

/-- The phases of the requests against the notes: as long as no request is counted once more, none took
more than its check; the first that is counted once more took two units. -/
structure Tracks (counters : Nat → String × Int) (phase : Nat → RequestPhase) (ledger : UnitLedger) :
    Prop where
  agrees : ∀ i, ledger.Agrees i (phase i)
  once : (∀ i, phase i ≠ .counted) → ledger.OncePer counters
  twice : (∃ i, phase i = .counted) → ∃ i, phase i = .counted ∧ ledger.units i = 2

variable {self : UnitLedger} {counters : Nat → String × Int} {i j : Nat} {key : String}

/-- Only the expiry matters. -/
theorem prolongs_of_expireAt {entry entry' : Redis.Entry Int} (h : entry'.expireAt = entry.expireAt) :
    prolongs (some entry) (some entry') = false := by
  obtain ⟨value, expireAt⟩ := entry
  obtain ⟨value', expireAt'⟩ := entry'
  obtain rfl : expireAt' = expireAt := h
  cases expireAt' with
  | none => rfl
  | some t => simp [prolongs]

/-- An entry is not prolonged by being left as it is. -/
theorem prolongs_self (entry : Option (Redis.Entry Int)) : prolongs entry entry = false := by
  cases entry with
  | none => rfl
  | some entry => exact prolongs_of_expireAt rfl

/-- The counter of a key is the value of its entry, or zero if the key has none. -/
theorem counter_eq : self.counter key = ((self.entry key).getD ⟨0, none⟩).value := Redis.counter_eq

/-- A command that leaves Redis as it was. -/
@[simp] theorem command_server : self.command i key self.server = self := by
  simp [command, prolongs_self]

/-- A call of one request is no business of another. -/
theorem Agrees.note (hij : i ≠ j) {phase : RequestPhase} (h : self.Agrees i phase)
    (server : RedisServer) (o : ApiCall) (answer : o.Ans) :
    (self.note j server o answer).Agrees i phase := by
  have hcommand (key : String) : (self.command j key server).Agrees i phase := by
    cases phase <;> simpa [Agrees, command, hij] using h
  have hcheck (key : String) (allowed : Bool) :
      ((self.command j key server).check j key allowed).Agrees i phase := by
    cases phase <;> simpa [Agrees, command, check, hij] using h
  cases o with
  | evalsha digest key argv =>
    match answer with
    | .ok (first :: _) => exact hcheck key _
    | .ok [] | .error _ => exact hcommand key
  | incr key => exact hcommand key
  | expire key seconds => exact hcommand key
  | scriptLoad _ | get _ | time | callNext => cases phase <;> exact h

/-- What one request is told changes no unit that is counted for another. -/
theorem units_note_of_ne (hij : i ≠ j) (server : RedisServer) (o : ApiCall) (answer : o.Ans) :
    (self.note j server o answer).units i = self.units i := by
  cases o with
  | evalsha digest key argv =>
    match answer with
    | .ok (first :: _) | .ok [] | .error _ => exact Function.update_of_ne hij _ _
  | incr key | expire key seconds => exact Function.update_of_ne hij _ _
  | scriptLoad _ | get _ | time | callNext => rfl

/-- A check counts in the minute from `t` on exactly if it is about the key and made in that minute. -/
theorem checksIn_check (allowed : Bool) (key' : String) (t : Nat) :
    (self.check i key allowed).checksIn key' t = self.checksIn key' t +
      if key = key' ∧ t ≤ self.server.clock ∧ self.server.clock ≤ t + 60000 then 1 else 0 := by
  simp [checksIn, check, List.countP_cons]

namespace OncePer

/-- Redis goes on without the counters, which may only expire. -/
theorem goesOn (h : self.OncePer counters) {server : RedisServer}
    (hclock : self.server.clock ≤ server.clock)
    (hentry : ∀ key entry, Redis.lookup server.clock key server.store = some entry →
      self.entry key = some entry) : { self with server }.OncePer counters where
  entry key entry hkey := by
    obtain ⟨t, ht, hexpires⟩ := h.entry key entry (hentry key entry hkey)
    exact ⟨t, Nat.le_trans ht hclock, hexpires⟩
  oneUnit := h.oneUnit
  spares := h.spares

/-- A check that counts its request in the entry of its window, or finds more requests than the limit
there. -/
theorem check (h : self.OncePer counters) (hi : self.Agrees i .unchecked) {server : RedisServer}
    {allowed : Bool} {entry : Redis.Entry Int} {t : Nat} (hclock : server.clock = self.server.clock)
    (hother : ∀ key', key' ≠ (counters i).1 → server.store key' = self.server.store key')
    (hentry : Redis.lookup server.clock (counters i).1 server.store = some entry)
    (hcreated : t ≤ self.server.clock) (halive : self.server.clock ≤ t + 60000)
    (hexpires : entry.expireAt = some (t + 60000)) (hpos : 0 ≤ entry.value)
    (hcount : entry.value ≤ self.checksIn (counters i).1 t + 1)
    (hallowed : allowed = true → entry.value = self.counter (counters i).1 + 1 ∧
      prolongs (self.entry (counters i).1) (some entry) = false)
    (hrejected : allowed = false → (counters i).2 ≤ self.checksIn (counters i).1 t) :
    ((self.command i (counters i).1 server).check i (counters i).1 allowed).OncePer counters := by
  have hchecks (key : String) (t : Nat) : ((self.command i (counters i).1 server).check i
      (counters i).1 allowed).checksIn key t = self.checksIn key t +
        if (counters i).1 = key ∧ t ≤ server.clock ∧ server.clock ≤ t + 60000 then 1 else 0 :=
    checksIn_check ..
  have hnow : ((self.command i (counters i).1 server).check i (counters i).1 allowed).checksIn
      (counters i).1 t = self.checksIn (counters i).1 t + 1 := by
    rw [hchecks, hclock, if_pos ⟨rfl, hcreated, halive⟩]
  refine ⟨fun key entry' hkey => ?_, fun j hj => ?_, fun j hj => ?_⟩
  · change ∃ t ≤ server.clock, _
    rw [hclock]
    by_cases hne : key = (counters i).1
    · subst hne
      obtain rfl : entry = entry' := Option.some.inj (hentry.symm.trans hkey)
      refine ⟨t, hcreated, hexpires, hpos, ?_⟩
      rw [hnow]
      exact_mod_cast hcount
    · have hold : self.entry key = some entry' := by
        rw [← hkey]
        change _ = Redis.lookup server.clock key server.store
        rw [Redis.lookup, hother key hne, hclock]
        rfl
      obtain ⟨t', ht', hexpires', hpos', hcount'⟩ := h.entry key entry' hold
      refine ⟨t', ht', hexpires', hpos', ?_⟩
      rw [hchecks]
      omega
  · by_cases hij : j = i
    · subst hij
      have hverdict : allowed = true := by simpa [UnitLedger.check] using hj
      obtain ⟨hvalue, hprolongs⟩ := hallowed hverdict
      obtain ⟨-, hunits, hprolonged⟩ := hi
      have hcounter : Redis.counter server.clock (counters j).1 server.store = entry.value := by
        rw [Redis.counter_eq, hentry, Option.getD_some]
      constructor
      · simp only [UnitLedger.check, command, Function.update_self, hunits, counter, hcounter] at hvalue ⊢
        omega
      · simp only [UnitLedger.check, command, Function.update_self, hprolonged, Bool.false_or]
        rw [← hprolongs, ← hentry]
        rfl
    · simp only [UnitLedger.check, command, Function.update_of_ne hij] at hj ⊢
      exact h.oneUnit j hj
  · by_cases hij : j = i
    · subst hij
      have hverdict : allowed = false := by simpa [UnitLedger.check] using hj
      have hlimit := hrejected hverdict
      refine ⟨t, ?_⟩
      rw [hnow]
      omega
    · simp only [UnitLedger.check, command, Function.update_of_ne hij] at hj
      obtain ⟨t', ht'⟩ := h.spares j hj
      refine ⟨t', ?_⟩
      rw [hchecks]
      omega

/-- The script keeps to it. -/
theorem evalsha (h : self.OncePer counters) (hi : self.Agrees i .unchecked) (digest : RedisArg)
    (argv : List RedisArg) (now : Int) :
    let reply := LuaScript.rateLimitReply (counters i).1 (counters i).2 60 now self.server.clock
      self.server.store
    (self.note i { self.server with store := reply.2 } (.evalsha digest (counters i).1 argv)
      reply.1).OncePer counters := by
  intro reply
  have hreply : reply = LuaScript.rateLimitReply (counters i).1 (counters i).2 60 now
    self.server.clock self.server.store := rfl
  cases hentry : self.entry (counters i).1 with
  | none =>
    rw [LuaScript.rateLimitReply_of_none (by decide) hentry] at hreply
    rw [hreply]
    refine h.check hi rfl (fun key' hne => Redis.set_of_ne hne 1 _) (Redis.lookup_set 1 _)
      Nat.le.refl (Nat.le_add_right _ _) rfl ?_ ?_ (fun _ => ⟨?_, ?_⟩) nofun
    · exact Int.zero_le_ofNat 1
    · change (1 : Int) ≤ _
      omega
    · rw [counter_eq, hentry]
      rfl
    · rw [hentry]
      rfl
  | some entry =>
    obtain ⟨t, ht, hexpires, hpos, hcount⟩ := h.entry _ _ hentry
    have halive : self.server.clock ≤ t + 60000 := (Redis.lookup_eq_some.1 hentry).2 _ hexpires
    rw [LuaScript.rateLimitReply_of_some hentry hexpires] at hreply
    split at hreply
    · next hreached =>
      rw [hreply]
      refine h.check hi rfl (fun _ _ => rfl) hentry ht halive hexpires hpos ?_ nofun fun _ => ?_
      · omega
      · omega
    · next hbelow =>
      have hincr : Redis.lookup self.server.clock (counters i).1
          (Redis.incrBy self.server.clock (counters i).1 1 self.server.store).2 =
            some { entry with value := entry.value + 1 } := by
        have hlookup : Redis.lookup self.server.clock (counters i).1 self.server.store = some entry :=
          hentry
        rw [Redis.lookup_incrBy, hlookup, Option.getD_some]
      have hpositive : decide (0 < entry.value + 1) = true := by
        rw [decide_eq_true_iff]
        omega
      rw [hreply]
      change ((self.command i _ _).check i _ (decide (0 < entry.value + 1))).OncePer counters
      rw [hpositive]
      refine h.check hi rfl (fun key' hne => Redis.incrBy_of_ne hne 1) hincr ht halive hexpires ?_ ?_
        (fun _ => ⟨?_, ?_⟩) nofun
      · change 0 ≤ entry.value + 1
        omega
      · change entry.value + 1 ≤ _
        omega
      · rw [counter_eq, hentry, Option.getD_some]
      · rw [hentry]
        exact prolongs_of_expireAt rfl

end OncePer

namespace Tracks

variable {phase : Nat → RequestPhase}

/-- Redis goes on without the counters. -/
theorem goesOn (h : self.Tracks counters phase) {server : RedisServer}
    (hclock : self.server.clock ≤ server.clock)
    (hentry : ∀ key entry, Redis.lookup server.clock key server.store = some entry →
      self.entry key = some entry) : { self with server }.Tracks counters phase where
  agrees := h.agrees
  once hcounted := (h.once hcounted).goesOn hclock hentry
  twice := h.twice

/-- A check moves its request on. -/
theorem evalsha (h : self.Tracks counters phase) (hi : phase i = .unchecked) (digest : RedisArg)
    (now : Int) :
    let reply := LuaScript.rateLimitReply (counters i).1 (counters i).2 60 now self.server.clock
      self.server.store
    let o := ApiCall.evalsha digest (counters i).1 [.int (counters i).2, .int 60, .int now]
    (self.note i { self.server with store := reply.2 } o reply.1).Tracks counters
      (Function.update phase i
        ((requestProtocol (counters i).1 (counters i).2).next .unchecked o reply.1)) := by
  intro reply o
  obtain ⟨first, remaining, resetAt, hreply⟩ : ∃ first remaining resetAt,
      reply.1 = .ok [first, remaining, resetAt] :=
    rateLimit_reply (counters i).1 (counters i).2 now (by decide) self.server.clock self.server.store
  have hnote := h.agrees i
  rw [hi] at hnote
  have hnext : (requestProtocol (counters i).1 (counters i).2).next .unchecked o reply.1 =
      .checked (0 < first) := by rw [hreply]; rfl
  rw [hnext]
  refine ⟨fun j => ?_, fun hcounted => ?_, fun ⟨j, hj⟩ => ?_⟩
  · by_cases hij : j = i
    · subst hij
      rw [Function.update_self, hreply]
      exact Function.update_self ..
    · rw [Function.update_of_ne hij]
      exact (h.agrees j).note hij _ o _
  · refine (h.once fun j hj => ?_).evalsha hnote digest _ now
    refine hcounted j ?_
    rw [Function.update_of_ne (by rintro rfl; cases hi.symm.trans hj), hj]
  · have hji : j ≠ i := by
      rintro rfl
      rw [Function.update_self] at hj
      cases hj
    rw [Function.update_of_ne hji] at hj
    obtain ⟨k, hk, hunits⟩ := h.twice ⟨j, hj⟩
    have hki : k ≠ i := by
      rintro rfl
      cases hi.symm.trans hk
    refine ⟨k, ?_, ?_⟩
    · rw [Function.update_of_ne hki, hk]
    · rw [units_note_of_ne hki, hunits]

/-- An `INCR` counts its request once more. -/
theorem incr (h : self.Tracks counters phase) (hi : phase i = .checked true) :
    let reply := Redis.incrBy self.server.clock key 1 self.server.store
    (self.command i key { self.server with store := reply.2 }).Tracks counters
      (Function.update phase i .counted) := by
  intro reply
  have hnote : self.verdict i = some true := by
    have hnote := h.agrees i
    rwa [hi] at hnote
  refine ⟨fun j => ?_, fun hcounted => ?_, fun _ => ?_⟩
  · by_cases hij : j = i
    · subst hij
      rw [Function.update_self]
      exact hnote
    · rw [Function.update_of_ne hij]
      exact (h.agrees j).note hij { self.server with store := reply.2 } (.incr key) (.ok reply.1)
  · exact absurd (Function.update_self ..) (hcounted i)
  · by_cases hcounted : ∃ j, phase j = .counted
    · obtain ⟨j, hj, hunits⟩ := h.twice hcounted
      have hji : j ≠ i := by
        rintro rfl
        cases hi.symm.trans hj
      refine ⟨j, ?_, ?_⟩
      · rw [Function.update_of_ne hji, hj]
      · rw [← hunits]
        exact Function.update_of_ne hji _ _
    · obtain ⟨hunits, -⟩ := (h.once fun j hj => hcounted ⟨j, hj⟩).oneUnit i hnote
      refine ⟨i, Function.update_self .., ?_⟩
      have hcounter : Redis.counter self.server.clock key reply.2 = self.counter key + 1 :=
        Redis.counter_incrBy 1
      simp only [command, Function.update_self, hunits, counter, hcounter]
      omega

/-- An `EXPIRE` comes after the request was counted twice. -/
theorem expire (h : self.Tracks counters phase) (hi : phase i = .counted) :
    (self.command i key { self.server with
      store := Redis.expire self.server.clock key 60 self.server.store }).Tracks counters phase := by
  refine ⟨fun j => ?_, fun hcounted => absurd hi (hcounted i), fun hcounted => ?_⟩
  · by_cases hij : j = i
    · subst hij
      have hnote := h.agrees j
      rw [hi] at hnote ⊢
      exact hnote
    · exact (h.agrees j).note hij { self.server with
        store := Redis.expire self.server.clock key 60 self.server.store } (.expire key 60) (.ok true)
  · obtain ⟨j, hj, hunits⟩ := h.twice hcounted
    refine ⟨j, hj, ?_⟩
    have hcounter : Redis.counter self.server.clock key
        (Redis.expire self.server.clock key 60 self.server.store) = self.counter key :=
      Redis.counter_expire (by decide)
    by_cases hji : j = i
    · subst hji
      simp only [command, Function.update_self, hunits, counter, hcounter]
      omega
    · rw [← hunits]
      exact Function.update_of_ne hji _ _

end Tracks

/-- Every call of a request keeps track. -/
theorem unitRules_advance (counters : Nat → String × Int) :
    unitRules.Advance (Runs .rateLimit) (fun i => requestProtocol (counters i).1 (counters i).2)
      (fun phase ledger => ledger.Tracks counters phase) fun _ _ _ => True where
  answer reply i o ledger phase h hmay _ := by
    refine ⟨apiAnswer_runs _ _ _ _ _, ?_⟩
    cases o with
    | scriptLoad script | time | callNext =>
      rw [requestProtocol_next _ rfl, Function.update_eq_self]
      exact h.goesOn Nat.le.refl fun _ _ => id
    | get key =>
      rw [requestProtocol_next _ rfl, Function.update_eq_self]
      cases hfails : reply.fails with
      | none =>
        simp only [unitRules, apiAnswer, ApiReply.plain, hfails]
        exact h.goesOn Nat.le.refl fun _ _ => id
      | some e =>
        simp only [unitRules, apiAnswer, ApiReply.plain, hfails]
        exact h.goesOn Nat.le.refl fun _ _ => id
    | evalsha digest key argv =>
      cases hi : phase i with
      | unchecked =>
        rw [hi] at hmay
        obtain ⟨rfl, now, rfl⟩ := hmay
        exact h.evalsha hi digest now
      | checked allowed | counted =>
        rw [hi] at hmay
        exact hmay.elim
    | incr key =>
      cases hi : phase i with
      | checked allowed =>
        rw [hi] at hmay
        obtain ⟨rfl, rfl⟩ := hmay
        cases hfails : reply.fails with
        | none =>
          simp only [unitRules, apiAnswer, ApiReply.plain, hfails]
          exact h.incr hi
        | some e =>
          simp only [unitRules, apiAnswer, ApiReply.plain, hfails, note, command_server, requestProtocol]
          rw [← hi, Function.update_eq_self]
          exact h
      | unchecked | counted =>
        rw [hi] at hmay
        exact hmay.elim
    | expire key seconds =>
      cases hi : phase i with
      | counted =>
        rw [hi] at hmay
        obtain ⟨rfl, rfl⟩ := hmay
        simp only [requestProtocol]
        rw [← hi, Function.update_eq_self]
        cases hfails : reply.fails with
        | none =>
          simp only [unitRules, apiAnswer, ApiReply.plain, hfails]
          exact h.expire hi
        | some e =>
          simp only [unitRules, apiAnswer, ApiReply.plain, hfails, note, command_server]
          exact h
      | unchecked | checked allowed =>
        rw [hi] at hmay
        exact hmay.elim
  outside ms ledger phase h :=
    h.goesOn (Nat.le_add_right _ _) fun key entry hentry => by
      obtain ⟨hstored, halive⟩ := Redis.lookup_eq_some.1 hentry
      exact Redis.lookup_eq_some.2 ⟨hstored, Redis.Entry.alive_of_le halive (Nat.le_add_right _ _)⟩

/-- Every admitted request has consumed one unit and left the end of its window alone, and a request is
rejected only if more requests than its limit were checked in a minute. -/
structure OneUnitEach (ledger : UnitLedger) (service : RateLimitService) (requests : List HttpRequest) :
    Prop where
  oneUnit : ∀ i, ledger.verdict i = some true → ledger.units i = 1 ∧ ledger.prolonged i = false
  spares : ∀ i request, requests[i]? = some request →
    (∀ t, ledger.checksIn (service.requestCounter request).1 t ≤ (service.requestCounter request).2) →
    ledger.verdict i ≠ some false

/-- The requests took one unit each exactly as long as none was counted once more. -/
theorem Tracks.oneUnitEach_iff_notRecorded {service : RateLimitService} {requests : List HttpRequest}
    {phase : Nat → RequestPhase} (h : self.Tracks counters phase)
    (hcounters : ∀ i request, requests[i]? = some request →
      counters i = service.requestCounter request) :
    self.OneUnitEach service requests ↔ ∀ i, phase i ≠ .counted := by
  constructor
  · intro heach i hi
    obtain ⟨j, hj, htwo⟩ := h.twice ⟨i, hi⟩
    have hverdict := h.agrees j
    rw [hj] at hverdict
    obtain ⟨hone, -⟩ := heach.oneUnit j hverdict
    cases htwo.symm.trans hone
  · intro hcounted
    have honce := h.once hcounted
    refine ⟨honce.oneUnit, fun i request hi hrequests hverdict => ?_⟩
    obtain ⟨t, ht⟩ := honce.spares i hverdict
    rw [hcounters i request hi] at ht
    exact absurd (hrequests t) (Int.not_le.2 ht)

end UnitLedger

namespace RateLimitMiddleware

/-- Requests that have not started; each finds the rate limiter as it may be by then. Redis has no
counters. -/
def requestPool (self : RateLimitMiddleware) (service : RateLimitService)
    (requests : List (HttpRequest × RateLimiter)) (loaded : List LuaScript) (clock : Nat) :
    Pool ApiCall ApiCall.Ans (Except ApiError HttpResponse × RateLimiter) UnitLedger where
  threads := requests.map fun r => (self.dispatch service.methods r.1).on r.2
  shared := { server := { store := fun _ => none, loaded, clock } }

/-- No `INCR` of `record_request` succeeds. -/
def NotRecorded (p : Pool ApiCall ApiCall.Ans (Except ApiError HttpResponse × RateLimiter) UnitLedger) :
    Act ApiReply Nat → Prop
  | .outside _ => True
  | .thread i reply => ∀ key k, p.threads[i]? = some (.call (.incr key) k) → reply.fails ≠ none

variable {counters : Nat → String × Int} {phase : Nat → RequestPhase}
  {p : Pool ApiCall ApiCall.Ans (Except ApiError HttpResponse × RateLimiter) UnitLedger}

/-- An action counts a request once more exactly if it is the `INCR` of one that succeeds. -/
theorem notRecorded_iff (hp : p.Following (Runs .rateLimit)
      (fun i => requestProtocol (counters i).1 (counters i).2)
      (fun phase ledger => ledger.Tracks counters phase) phase)
    (hcounted : ∀ i, phase i ≠ .counted) (a : Act ApiReply Nat) :
    ∃ phase', (p.step unitRules a).shared.Tracks counters phase' ∧
      (NotRecorded p a ↔ ∀ i, phase' i ≠ .counted) := by
  have hrules := UnitLedger.unitRules_advance counters
  cases a with
  | outside ms =>
    exact ⟨phase, hrules.outside ms _ _ hp.shared, iff_of_true trivial hcounted⟩
  | thread i reply =>
    by_cases hcall : ∃ o k, p.threads[i]? = some (.call o k)
    · obtain ⟨o, k, hthread⟩ := hcall
      have hnext := hrules.answer reply i o _ phase hp.shared (hp.threads i _ hthread).1 trivial
      rw [Pool.step_of_call hthread]
      refine ⟨_, hnext.2, ?_⟩
      by_cases hincr : ∃ key, o = .incr key
      · obtain ⟨key, rfl⟩ := hincr
        have hmay := (hp.threads i _ hthread).1
        cases hi : phase i with
        | checked allowed =>
          cases hfails : reply.fails with
          | none =>
            refine iff_of_false (fun h => h key k hthread hfails) fun h => h i ?_
            simp only [unitRules, apiAnswer, ApiReply.plain, hfails, requestProtocol, Function.update_self]
          | some e =>
            refine iff_of_true (fun key k' hk => by rw [hfails]; exact nofun) ?_
            simp only [unitRules, apiAnswer, ApiReply.plain, hfails, requestProtocol]
            rw [← hi, Function.update_eq_self]
            exact hcounted
        | unchecked | counted =>
          rw [hi] at hmay
          exact hmay.elim
      · have hincr' (key : String) : o ≠ .incr key := fun h => hincr ⟨key, h⟩
        refine iff_of_true (fun key k' hk => ?_) fun j => ?_
        · rw [hthread] at hk
          cases hk
          exact absurd rfl (hincr' key)
        · by_cases hj : j = i
          · subst hj
            rw [Function.update_self]
            exact requestProtocol_next_ne_counted (hcounted j) hincr'
          · rw [Function.update_of_ne hj]
            exact hcounted j
    · have hidle : ∀ o k, p.threads[i]? ≠ some (.call o k) := fun o k h => hcall ⟨o, k, h⟩
      rw [Pool.step_of_no_call hidle]
      exact ⟨phase, hp.shared, iff_of_true (fun key k hk => absurd hk (hidle _ k)) hcounted⟩

/-- In every schedule, the requests take one unit each, and none is rejected but for more requests than
its limit in a minute, exactly if none is counted by `record_request`. -/
theorem oneUnitEach_iff (self : RateLimitMiddleware) (service : RateLimitService)
    (requests : List (HttpRequest × RateLimiter)) (loaded : List LuaScript) (clock : Nat)
    (schedule : List (Act ApiReply Nat)) :
    (∀ schedule', schedule' <+: schedule →
      ((requestPool self service requests loaded clock).run unitRules schedule').shared.OneUnitEach
        service (requests.map Prod.fst)) ↔
    Pool.Meets unitRules NotRecorded (requestPool self service requests loaded clock) schedule := by
  let counters (i : Nat) : String × Int :=
    (requests[i]?.map fun r => service.requestCounter r.1).getD ("", 0)
  have hcounters (i : Nat) (request : HttpRequest) (hi : (requests.map Prod.fst)[i]? = some request) :
      counters i = service.requestCounter request := by
    rw [List.getElem?_map] at hi
    obtain ⟨r, hr, rfl⟩ := Option.map_eq_some_iff.1 hi
    simp only [counters, hr, Option.map_some, Option.getD_some]
  have hstart : (requestPool self service requests loaded clock).Following (Runs .rateLimit)
      (fun i => requestProtocol (counters i).1 (counters i).2)
      (fun phase ledger => ledger.Tracks counters phase) fun _ => .unchecked := by
    refine ⟨fun i q hq => ?_, ⟨fun i => ⟨rfl, rfl, rfl⟩, fun _ => ?_, fun ⟨i, hi⟩ => nomatch hi⟩⟩
    · rw [requestPool, List.getElem?_map] at hq
      obtain ⟨r, hr, rfl⟩ := Option.map_eq_some_iff.1 hq
      simp only [counters, hr, Option.map_some, Option.getD_some]
      exact self.follows_dispatch service r.1 r.2
    · exact ⟨fun key entry hentry => (nomatch hentry), fun i hi => (nomatch hi), fun i hi => (nomatch hi)⟩
  refine (Pool.meets_iff_of_keeps
    (I := fun p : Pool ApiCall ApiCall.Ans (Except ApiError HttpResponse × RateLimiter) UnitLedger =>
      p.shared.OneUnitEach service (requests.map Prod.fst))
    (K := fun p => ∃ phase, p.Following (Runs .rateLimit)
      (fun i => requestProtocol (counters i).1 (counters i).2)
      (fun phase ledger => UnitLedger.Tracks counters phase ledger) phase) ?_ ?_ ⟨_, hstart⟩ ?_).symm
  · rintro p a ⟨phase, hp⟩
    exact hp.step (UnitLedger.unitRules_advance counters) a
      (Pool.callMeets_of_forall (fun _ _ _ => trivial) p a)
  · rintro p a ⟨phase, hp⟩ heach
    have hcounted := (hp.shared.oneUnitEach_iff_notRecorded hcounters).1 heach
    obtain ⟨phase', htracks, hrecorded⟩ := notRecorded_iff hp hcounted a
    rw [hrecorded]
    exact (htracks.oneUnitEach_iff_notRecorded hcounters).symm
  · exact (hstart.shared.oneUnitEach_iff_notRecorded hcounters).2 fun i => nofun

/-- The second of two requests is rejected, where the limit is two a minute: the first took two units, one in
the check and one in `record_request`. -/
theorem not_oneUnitEach : ¬∀ (self : RateLimitMiddleware) (service : RateLimitService)
      (requests : List (HttpRequest × RateLimiter)) (loaded : List LuaScript) (clock : Nat)
      (schedule : List (Act ApiReply Nat)),
    ((requestPool self service requests loaded clock).run unitRules schedule).shared.OneUnitEach
      service (requests.map Prod.fst) := by
  intro h
  let service : RateLimitService :=
    { defaultLimits := fun plan => if plan = "free" then some ⟨some 2, none⟩ else none }
  let requests : List (HttpRequest × RateLimiter) :=
    [(createRun, ⟨true, true⟩), (createRun, ⟨true, true⟩)]
  let schedule : List (Act ApiReply Nat) :=
    List.replicate 7 (.thread 0 {}) ++ List.replicate 2 (.thread 1 {})
  have hrun := h {} service requests [] 0 schedule
  have hchecks : ((requestPool {} service requests [] 0).run unitRules schedule).shared.checks.length = 2 := by
    decide +kernel
  refine hrun.spares 1 createRun rfl (fun t => ?_) (by decide +kernel)
  have hlimit : (service.requestCounter createRun).2 = 2 := by decide +kernel
  have hle : ((requestPool {} service requests [] 0).run unitRules schedule).shared.checksIn
      (service.requestCounter createRun).1 t ≤ 2 := hchecks ▸ List.countP_le_length
  rw [hlimit]
  exact Int.ofNat_le.2 hle

end RateLimitMiddleware

end AgentRuntime
