import AgentRuntime.Cache.EphemeralEntries
import AgentRuntime.Cache.KeyspaceMap
import AgentRuntime.Python.JsonText

/-!
# The memory caches over texts

Redis holds the text of each value: `setex` and `rpush` are given what `json.dumps` writes, and what `get` and
`lrange` find is read by `json.loads`. `replies_texts` says that the caches answer over texts as they do over the
values themselves, in any sequence of calls, where a value that cannot be written is refused. So what is proved of
the caches over values holds of them over texts.
-/

namespace AgentRuntime

open Interaction

/-- The texts in Redis. -/
abbrev MemoryTexts := Redis.Keyspace (Redis.Value String)

namespace MemoryTexts

open MemoryKeyspace (answered)

/-- `None if value is None else json.loads(value)`. -/
def read (floats : JsonText.FloatReader) : Option String → Except PyError (Option Json)
  | none => .ok none
  | some text => some <$> JsonText.loads floats text

/-- A command, unless Redis refuses it. -/
def unrefused {α σ : Type} (refusal : Option PyError) (self : σ) (result : Except PyError α × σ) :
    Except PyError α × σ :=
  match refusal with
  | some e => (.error e, self)
  | none => result

/-- A value is written as JSON before its command is sent. -/
def written {α σ : Type} (value : Json) (self : σ) (send : String → Except PyError α × σ) : Except PyError α × σ :=
  match JsonText.dumps value with
  | .error e => (.error e, self)
  | .ok text => send text

/-- The commands over texts, as the methods of the caches send them and read their answers. -/
def env (floats : JsonText.FloatReader) (code : UInt8 → Int) (now : Nat) (refuses : MemoryCall → Option PyError) :
    Env MemoryCall MemoryCall.Ans MemoryTexts
  | .setex key seconds value, self => written value self fun text =>
    unrefused (refuses (.setex key seconds value)) self
      (answered (self.setex now key seconds text).1, (self.setex now key seconds text).2)
  | .get key, self => unrefused (refuses (.get key)) self
    (answered (Redis.getString now key self.store) >>= read floats, self)
  | .append key entry maxEntries seconds, self => written entry self fun text =>
    unrefused (refuses (.append key entry maxEntries seconds)) self
      (answered (self.append now key text maxEntries seconds).1, (self.append now key text maxEntries seconds).2)
  | .lrange key start stop, self => unrefused (refuses (.lrange key start stop)) self
    (answered ((Redis.listOf now key self.store).map (Redis.range start stop)) >>=
      fun texts => texts.mapM (JsonText.loads floats), self)
  | .scan pattern, self => unrefused (refuses (.scan pattern)) self (.ok (self.scan code now pattern), self)
  | .delete keys, self => unrefused (refuses (.delete keys)) self
    (.ok (self.delete now keys).1, (self.delete now keys).2)
  | .expire key seconds, self => unrefused (refuses (.expire key seconds)) self (.ok (), self.expire now key seconds)
  | o, self => (noOutside o, self)

/-! ## Texts and values -/

/-- The text of a value. -/
def textOf (value : Json) : String := String.ofList (JsonText.chars value)

/-- The value is read back from its text. -/
def Readable (floats : JsonText.FloatReader) (value : Json) : Prop :=
  JsonText.WellFormed floats value ∧ JsonText.fits value = true

/-- The texts are those of the values. -/
def Spells (floats : JsonText.FloatReader) (texts : MemoryTexts) (values : MemoryKeyspace) : Prop :=
  texts = values.map (Redis.Value.map textOf) ∧ values.Strings (Readable floats)

/-- What a call raises whose value cannot be written. -/
def unwritable : MemoryCall → Option PyError
  | .setex _ _ value | .append _ value _ _ =>
    if JsonText.fits value = true then none else some JsonText.tooManyDigits
  | _ => none

/-- The call is refused if its value cannot be written, or Redis refuses it. -/
def refusing (refuses : MemoryCall → Option PyError) (o : MemoryCall) : Option PyError :=
  (unwritable o).or (refuses o)

/-- What the call writes is a JSON value of Python. -/
def WritesWellFormed (floats : JsonText.FloatReader) : MemoryCall → Prop
  | .setex _ _ value | .append _ value _ _ => JsonText.WellFormed floats value
  | _ => True

section
variable {floats : JsonText.FloatReader} {code : UInt8 → Int} {now : Nat} {refuses : MemoryCall → Option PyError}
  {texts : MemoryTexts} {values : MemoryKeyspace} {value : Json}

/-- The text that is written for a readable value is read as that value. -/
theorem loads_textOf (h : Readable floats value) : JsonText.loads floats (textOf value) = .ok value :=
  JsonText.loads_dumps h.1 (if_pos h.2)

/-- The same of the texts of a list. -/
theorem mapM_loads {xs : List Json} (h : ∀ x ∈ xs, Readable floats x) :
    (xs.map textOf).mapM (JsonText.loads floats) = .ok xs := by
  induction xs with
  | nil => rfl
  | cons x xs ih =>
    rw [List.map_cons, List.mapM_cons, loads_textOf (h x List.mem_cons_self),
      ih fun x' hx' => h x' (List.mem_cons_of_mem x hx')]
    rfl

/-- The empty keyspace of texts spells the empty keyspace of values. -/
theorem spells_empty : Spells floats .empty .empty := ⟨rfl, fun _ _ h => by cases h⟩

/-- A `SETEX` of the values answers what the keyspace answers, without the detail of its error. -/
theorem setex_eq (key : String) (seconds : Int) (values : MemoryKeyspace) : values.setex now key seconds value =
    (answered (Redis.Keyspace.setex now key seconds value values).1,
      (Redis.Keyspace.setex now key seconds value values).2) := by
  unfold MemoryKeyspace.setex Redis.Keyspace.setex
  split <;> rfl

/-- A command over texts and over values. -/
def Alike (floats : JsonText.FloatReader) {α : Type} (result : α × MemoryTexts) (result' : α × MemoryKeyspace) :
    Prop :=
  result.1 = result'.1 ∧ Spells floats result.2 result'.2

/-- A command that is refused. -/
theorem alike_unrefused {α : Type} (h : Spells floats texts values) (refusal : Option PyError)
    {result : Except PyError α × MemoryTexts} {result' : Except PyError α × MemoryKeyspace}
    (hresult : Alike floats result result') :
    Alike floats (unrefused refusal texts result) (unrefused refusal values result') := by
  cases refusal with
  | some e => exact ⟨rfl, h⟩
  | none => exact hresult

/-- A command whose value cannot be written. -/
theorem alike_written {α : Type} (h : Spells floats texts values) (hwell : JsonText.WellFormed floats value)
    (refusal : Option PyError) {send : String → Except PyError α × MemoryTexts}
    {result : Except PyError α × MemoryKeyspace}
    (hsend : Readable floats value → Alike floats (send (textOf value)) result) :
    Alike floats (written value texts fun text => unrefused refusal texts (send text))
      (unrefused ((if JsonText.fits value = true then none else some JsonText.tooManyDigits).or refusal) values
        result) := by
  unfold written JsonText.dumps
  by_cases hfits : JsonText.fits value = true
  · rw [if_pos hfits, if_pos hfits, Option.none_or]
    exact alike_unrefused h refusal (hsend ⟨hwell, hfits⟩)
  · rw [if_neg hfits, if_neg hfits, Option.some_or]
    exact ⟨rfl, h⟩

/-- A string that is read and decoded is the value that stands there, where all values can be read back. -/
theorem read_getString (h : values.Strings (Readable floats)) (key : String) :
    answered (Redis.getString now key (values.map (Redis.Value.map textOf)).store) >>= read floats =
      answered (Redis.getString now key values.store) := by
  have hget : Redis.getString now key (values.map (Redis.Value.map textOf)).store =
      (Redis.getString now key values.store).map (Option.map textOf) := Redis.getString_mapStore
  rw [hget]
  cases hvalue : Redis.getString now key values.store with
  | error e => rfl
  | ok found =>
    cases found with
    | none => rfl
    | some value =>
      have hread : read floats (some (textOf value)) = .ok (some value) := by
        rw [read, loads_textOf ((h key).of_getString hvalue)]
        rfl
      exact hread

/-- The elements of a range, read and decoded, are the values that stand there. -/
theorem loads_listOf (h : values.Strings (Readable floats)) (key : String) (start stop : Int) :
    (answered ((Redis.listOf now key (values.map (Redis.Value.map textOf)).store).map (Redis.range start stop)) >>=
        fun texts => texts.mapM (JsonText.loads floats)) =
      answered ((Redis.listOf now key values.store).map (Redis.range start stop)) := by
  have hlist : Redis.listOf now key (values.map (Redis.Value.map textOf)).store =
      (Redis.listOf now key values.store).map (List.map textOf) := Redis.listOf_mapStore
  rw [hlist]
  cases hvalues : Redis.listOf now key values.store with
  | error e => rfl
  | ok xs =>
    have hreads : (Redis.range start stop (xs.map textOf)).mapM (JsonText.loads floats) =
        .ok (Redis.range start stop xs) := by
      rw [Redis.range_map]
      refine mapM_loads fun x hx => (h key).of_listOf hvalues x ?_
      exact List.mem_of_mem_drop (List.mem_of_mem_take hx)
    exact hreads

/-- **A command over texts answers as over values.** -/
theorem alike_env (h : Spells floats texts values) (o : MemoryCall) (hwell : WritesWellFormed floats o) :
    Alike floats (env floats code now refuses o texts)
      (MemoryKeyspace.env code now (refusing refuses) noOutside o values) := by
  obtain ⟨rfl, hreadable⟩ := id h
  cases o with
  | setex key seconds value =>
    refine alike_written h hwell (refuses (.setex key seconds value)) fun hvalue => ?_
    rw [setex_eq, Redis.Keyspace.setex_map]
    exact ⟨rfl, rfl, Redis.Keyspace.strings_setex hreadable hvalue⟩
  | append key entry maxEntries seconds =>
    refine alike_written h hwell (refuses (.append key entry maxEntries seconds)) fun hvalue => ?_
    rw [Redis.Keyspace.append_map]
    exact ⟨rfl, rfl, Redis.Keyspace.strings_append hreadable hvalue maxEntries⟩
  | get key =>
    exact alike_unrefused h (refuses (.get key)) ⟨read_getString hreadable key, h⟩
  | lrange key start stop =>
    exact alike_unrefused h (refuses (.lrange key start stop)) ⟨loads_listOf hreadable key start stop, h⟩
  | scan pattern =>
    refine alike_unrefused h (refuses (.scan pattern)) ⟨?_, h⟩
    exact congrArg Except.ok Redis.Keyspace.scan_map
  | delete keys =>
    refine alike_unrefused h (refuses (.delete keys)) ?_
    rw [Redis.Keyspace.delete_map]
    exact ⟨rfl, rfl, Redis.Keyspace.strings_delete hreadable keys⟩
  | expire key seconds =>
    refine alike_unrefused h (refuses (.expire key seconds)) ⟨rfl, ?_⟩
    exact ⟨Redis.Keyspace.expire_map, Redis.Keyspace.strings_expire hreadable⟩
  | _ => exact ⟨rfl, h⟩

end

end MemoryTexts

/-! ## Calls of the caches -/

/-- A call of a method of one of the caches. -/
inductive MemoryCacheCall where
  | sessionSet (sessionId key : String) (value : Json) (ttl : Option Int)
  | sessionGet (sessionId key : String)
  | sessionDelete (sessionId key : String)
  | appendToHistory (sessionId : String) (entry : Json) (maxEntries : Int) (ttl : Option Int)
  | getRecentHistory (sessionId : String) (limit : Int)
  | getAllHistory (sessionId : String)
  | clearSession (sessionId : String)
  | extendTtl (sessionId : String) (ttl : Option Int)
  | getSessionKeys (sessionId : String)
  | ephemeral (call : EphemeralCall)

/-- What it returns. -/
inductive MemoryCacheReply where
  | done (b : Bool)
  | value (x : Option Json)
  | entries (xs : List Json)
  | count (n : Nat)
  | names (names : List String)
  | ephemeral (reply : EphemeralReply)

namespace MemoryCacheCall

def program (session : SessionMemoryCache) (cache : EphemeralMemoryCache) :
    MemoryCacheCall → MemoryService MemoryCacheReply
  | sessionSet sessionId key value ttl => .done <$> session.set sessionId key value ttl
  | sessionGet sessionId key => .value <$> SessionMemoryCache.get sessionId key
  | sessionDelete sessionId key => .done <$> SessionMemoryCache.delete sessionId key
  | appendToHistory sessionId entry maxEntries ttl =>
    .done <$> session.appendToHistory sessionId entry maxEntries ttl
  | getRecentHistory sessionId limit => .entries <$> SessionMemoryCache.getRecentHistory sessionId limit
  | getAllHistory sessionId => .entries <$> SessionMemoryCache.getAllHistory sessionId
  | clearSession sessionId => .count <$> SessionMemoryCache.clearSession sessionId
  | extendTtl sessionId ttl => .done <$> session.extendTtl sessionId ttl
  | getSessionKeys sessionId => .names <$> SessionMemoryCache.getSessionKeys sessionId
  | ephemeral call => .ephemeral <$> call.program cache

/-- What the call is given to store is a JSON value of Python. -/
def WellFormed (floats : JsonText.FloatReader) : MemoryCacheCall → Prop
  | sessionSet _ _ value _ | appendToHistory _ value _ _ | ephemeral (.set _ _ value _) =>
    JsonText.WellFormed floats value
  | _ => True

section
open MemoryTexts Proc

variable {floats : JsonText.FloatReader}

/-- The calls of the ephemeral cache write only what a well-formed call gives them. -/
theorem makes_ephemeral {cache : EphemeralMemoryCache} {call : EphemeralCall}
    (h : WellFormed floats (.ephemeral call)) : (call.program cache).Makes (WritesWellFormed floats) := by
  have hcollect (runId : String) (keys : List String) (result : Dict) :
      (EphemeralMemoryCache.collect runId keys result).Makes (WritesWellFormed floats) := by
    induction keys generalizing result with
    | nil => exact keeps_pure _
    | cons key keys ih =>
      refine keeps_bind (keeps_tryCall trivial) fun value => ?_
      cases value with
      | none => exact ih result
      | some value => exact ih _
  cases call with
  | set runId key value ttl =>
    exact keeps_map (keeps_tryCatch (keeps_bind (keeps_tryCall h) fun _ => keeps_pure _) fun _ => keeps_pure _)
  | get runId key => exact keeps_map (keeps_tryCatch (keeps_tryCall trivial) fun _ => keeps_pure _)
  | delete runId key =>
    exact keeps_map (keeps_tryCatch (keeps_bind (keeps_tryCall trivial) fun _ => keeps_pure _) fun _ => keeps_pure _)
  | clearRun runId =>
    refine keeps_map (keeps_tryCatch (keeps_bind (keeps_tryCall trivial) fun keys => ?_) fun _ => keeps_pure _)
    exact keeps_ite (fun _ => keeps_tryCall trivial) fun _ => keeps_pure _
  | getAll runId =>
    refine keeps_map (keeps_tryCatch (keeps_bind (keeps_tryCall trivial) fun keys => ?_) fun _ => keeps_pure _)
    exact hcollect runId keys []

/-- So do those of both caches. -/
theorem makes_program {session : SessionMemoryCache} {cache : EphemeralMemoryCache} {call : MemoryCacheCall}
    (h : call.WellFormed floats) : (call.program session cache).Makes (WritesWellFormed floats) := by
  have hexpire (newTtl : Int) (keys : List String) :
      (SessionMemoryCache.expireEach newTtl keys).Makes (WritesWellFormed floats) := by
    induction keys with
    | nil => exact keeps_pure _
    | cons key keys ih => exact keeps_bind (keeps_tryCall trivial) fun _ => ih
  cases call with
  | sessionSet sessionId key value ttl =>
    exact keeps_map (keeps_tryCatch (keeps_bind (keeps_tryCall h) fun _ => keeps_pure _) fun _ => keeps_pure _)
  | appendToHistory sessionId entry maxEntries ttl =>
    exact keeps_map (keeps_tryCatch (keeps_bind (keeps_tryCall h) fun _ => keeps_pure _) fun _ => keeps_pure _)
  | sessionDelete _ _ | getSessionKeys _ =>
    exact keeps_map (keeps_tryCatch (keeps_bind (keeps_tryCall trivial) fun _ => keeps_pure _) fun _ => keeps_pure _)
  | sessionGet _ _ | getRecentHistory _ _ | getAllHistory _ =>
    exact keeps_map (keeps_tryCatch (keeps_tryCall trivial) fun _ => keeps_pure _)
  | clearSession sessionId =>
    refine keeps_map (keeps_tryCatch (keeps_bind (keeps_tryCall trivial) fun keys => ?_) fun _ => keeps_pure _)
    exact keeps_ite (fun _ => keeps_tryCall trivial) fun _ => keeps_pure _
  | extendTtl sessionId ttl =>
    refine keeps_map (keeps_tryCatch (keeps_bind (keeps_tryCall trivial) fun keys => ?_) fun _ => keeps_pure _)
    exact keeps_bind (hexpire _ keys) fun _ => keeps_pure _
  | ephemeral call => exact keeps_map (makes_ephemeral h)

end

end MemoryCacheCall

/-- A call, its time in milliseconds, and which commands Redis refuses. -/
structure MemoryCacheRequest where
  call : MemoryCacheCall
  now : Nat
  refuses : MemoryCall → Option PyError := fun _ => none

namespace MemoryCacheRequest

variable (session : SessionMemoryCache) (cache : EphemeralMemoryCache)

/-- The run of the call, where its commands are answered from a state. -/
def exec {S : Type} (env : Env MemoryCall MemoryCall.Ans S) (request : MemoryCacheRequest) (s : S) :
    Prog.Exec MemoryCall S (Except PyError MemoryCacheReply × Unit) :=
  ((request.call.program session cache).on ()).exec env s

/-- What the calls return, one after the other. -/
def replies {S : Type} (env : MemoryCacheRequest → Env MemoryCall MemoryCall.Ans S) :
    S → List MemoryCacheRequest → List (Option (Except PyError MemoryCacheReply))
  | _, [] => []
  | s, request :: requests =>
    let run := request.exec session cache (env request) s
    run.result.map Prod.fst :: replies env run.state requests

/-- The commands over texts. -/
def overTexts (floats : JsonText.FloatReader) (code : UInt8 → Int) (request : MemoryCacheRequest) :
    Env MemoryCall MemoryCall.Ans MemoryTexts := MemoryTexts.env floats code request.now request.refuses

/-- The commands over values, of which those are refused too whose value cannot be written. -/
def overValues (code : UInt8 → Int) (request : MemoryCacheRequest) :
    Env MemoryCall MemoryCall.Ans MemoryKeyspace :=
  MemoryKeyspace.env code request.now (MemoryTexts.refusing request.refuses) noOutside

variable {session cache} {floats : JsonText.FloatReader} {code : UInt8 → Int}

/-- What the calls return depends on the values only, and not on how they are written. -/
theorem replies_of_spells {requests : List MemoryCacheRequest}
    (hwell : ∀ request ∈ requests, request.call.WellFormed floats) {texts : MemoryTexts} {values : MemoryKeyspace}
    (h : MemoryTexts.Spells floats texts values) :
    replies session cache (overTexts floats code) texts requests =
      replies session cache (overValues code) values requests := by
  induction requests generalizing texts values with
  | nil => rfl
  | cons request requests ih =>
    have hmakes : (request.call.program session cache).Makes (MemoryTexts.WritesWellFormed floats) :=
      MemoryCacheCall.makes_program (hwell request List.mem_cons_self)
    have hstep (o : MemoryCall) (ho : MemoryTexts.WritesWellFormed floats o) (texts : MemoryTexts)
        (values : MemoryKeyspace) (h : MemoryTexts.Spells floats texts values) :
        MemoryTexts.Alike floats (overTexts floats code request o texts) (overValues code request o values) :=
      MemoryTexts.alike_env h o ho
    obtain ⟨hresult, hspells⟩ := (hmakes () trivial).exec_simulated (overTexts floats code request)
      (overValues code request) hstep h
    rw [replies, replies]
    dsimp only [exec]
    rw [hresult]
    exact congrArg _ (ih (fun request' h' => hwell request' (List.mem_cons_of_mem request h')) hspells)

/-- **The caches answer over texts as over values**, whatever sequence of well-formed calls they get: JSON is
written and read back without loss, so the values of the model stand for the texts of Redis. -/
theorem replies_texts (session : SessionMemoryCache) (cache : EphemeralMemoryCache) (floats : JsonText.FloatReader)
    (code : UInt8 → Int) (requests : List MemoryCacheRequest)
    (hwell : ∀ request ∈ requests, request.call.WellFormed floats) :
    replies session cache (overTexts floats code) .empty requests =
      replies session cache (overValues code) .empty requests :=
  replies_of_spells hwell MemoryTexts.spells_empty

/-- The number 0.5. -/
def half : JsonText.Numeral where
  negative := false
  int := ['0']
  frac := ['.', '5']
  exp := []

/-- The spelling of the float in the sample is one that `float()` reads. -/
theorem isFloat_half : JsonText.IsFloat ⟨id⟩ "0.5" := by
  have htext : "0.5" = String.ofList half.chars := by decide
  rw [htext]
  have hdigits : ∀ c ∈ ['5'], c.isDigit := List.forall_mem_singleton.2 rfl
  exact .number ⟨.inl rfl, .inr ⟨['5'], rfl, by decide, hdigits⟩, .inl rfl⟩ (.inl (by decide)) rfl

/-- A dictionary with a float and a list in it. -/
def profile : Json := .dict [("name", .str "Ada"), ("weight", .float "0.5"), ("tags", .list [.bool true, .null])]

/-- Values are stored in both caches, and read back. -/
def storedAndRead : List MemoryCacheRequest :=
  [{ call := .sessionSet "session-1" "profile" profile none, now := 0 },
    { call := .appendToHistory "session-1" (.list [.int 1, .str "x"]) 100 none, now := 1 },
    { call := .ephemeral (.set "run-1" "weight" (.float "0.5") none), now := 2 },
    { call := .sessionGet "session-1" "profile", now := 3 },
    { call := .getAllHistory "session-1", now := 4 },
    { call := .ephemeral (.getAll "run-1"), now := 5 }]

/-- Calls of both caches that write a float, a dictionary and texts, and read them back, are answered alike
over texts and over values. -/
theorem replies_texts_stored :
    replies {} {} (overTexts ⟨id⟩ fun _ => 0) .empty storedAndRead =
      replies {} {} (overValues fun _ => 0) .empty storedAndRead := by
  have hprofile : JsonText.WellFormed ⟨id⟩ profile :=
    ⟨by decide, trivial, isFloat_half, ⟨trivial, trivial, trivial⟩, trivial⟩
  refine replies_texts {} {} ⟨id⟩ (fun _ => 0) storedAndRead fun request hrequest => ?_
  simp only [storedAndRead, List.mem_cons, List.not_mem_nil, or_false] at hrequest
  rcases hrequest with rfl | rfl | rfl | rfl | rfl | rfl
  · exact hprofile
  · exact ⟨trivial, trivial, trivial⟩
  · exact isFloat_half
  · trivial
  · trivial
  · trivial

end MemoryCacheRequest

end AgentRuntime
