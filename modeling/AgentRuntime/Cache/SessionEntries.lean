import AgentRuntime.Cache.SessionMemoryCache

/-!
# Whose entries the operations on a session find

What is stored through `SessionMemoryCache`, with the sessions and names that it was stored for. The
operations on a session act on the keys that match its pattern: on its entries and on no other's exactly
if the pattern tells them apart (`actsOnOwn_iff`). An identifier without special bytes always finds its
own; it finds another's exactly if that one's identifier and name, joined by a colon, begin with it and a
colon.
-/

namespace AgentRuntime

open Interaction SessionMemoryCache

/-- The stem of a session's keys: the prefix, the session, a colon. -/
theorem SessionMemoryCache.keyStem_eq (sessionId : String) :
    keyStem sessionId = "memory:session:" ++ (sessionId ++ ":") :=
  String.append_assoc ..

/-- What a session stores: values under names, and its conversation. -/
inductive Slot where
  | key (name : String)
  | history
  deriving DecidableEq

namespace Slot

/-- What comes after the session in the key. -/
def name : Slot → String
  | key name => name
  | history => "history"

/-- The key in Redis. -/
def redisKey (sessionId : String) : Slot → String
  | key name => makeKey sessionId name
  | history => makeListKey sessionId

/-- The key of an entry is the stem of its session and its name. -/
theorem redisKey_eq (sessionId : String) (slot : Slot) :
    slot.redisKey sessionId = keyStem sessionId ++ slot.name := by
  cases slot with
  | key name => rfl
  | history =>
    have hsplit : ":history" = ":" ++ "history" := by decide +kernel
    change "memory:session:" ++ sessionId ++ ":history" = keyStem sessionId ++ "history"
    rw [hsplit]
    exact (String.append_assoc ..).symm

/-- The bytes of such a key, with the prefix apart from the rest. -/
theorem bytes_redisKey (sessionId : String) (slot : Slot) :
    Redis.bytes (slot.redisKey sessionId) =
      Redis.bytes "memory:session:" ++ Redis.bytes (sessionId ++ ":" ++ slot.name) := by
  rw [redisKey_eq, keyStem_eq, String.append_assoc, Redis.bytes_append]

end Slot

/-- Its characters, with the colon that stands between the session and the name. -/
theorem toList_redisKey (sessionId : String) (slot : Slot) :
    (slot.redisKey sessionId).toList =
      "memory:session:".toList ++ (sessionId.toList ++ ':' :: slot.name.toList) := by
  rw [Slot.redisKey_eq, keyStem_eq, String.toList_append, String.toList_append, String.toList_append,
    List.append_assoc, List.append_assoc]
  rfl

/-- No description is under the key of a conversation. -/
theorem makeKey_ne_makeListKey (sessionId sessionId' : String) :
    makeKey sessionId "meta" ≠ makeListKey sessionId' := by
  intro h
  have hlist := congrArg String.toList h
  have hmeta := toList_redisKey sessionId (.key "meta")
  have hhistory := toList_redisKey sessionId' .history
  simp only [Slot.redisKey, Slot.name] at hmeta hhistory
  rw [hmeta, hhistory, List.append_right_inj] at hlist
  have hlast := congrArg List.getLast? hlist
  simp at hlast

/-- The pattern of a session is the stem of its keys, unescaped, and a star. -/
theorem SessionMemoryCache.pattern_eq (sessionId : String) :
    pattern sessionId = keyStem sessionId ++ "*" := by
  have hsplit : ":*" = ":" ++ "*" := by decide +kernel
  change "memory:session:" ++ sessionId ++ ":*" = keyStem sessionId ++ "*"
  rw [hsplit]
  exact (String.append_assoc ..).symm

/-- What a session without special bytes finds: the keys that begin with its own stem. -/
theorem globMatches_pattern_iff {code : UInt8 → Int} {sessionId : String}
    (h : ∀ b ∈ Redis.bytes sessionId, Redis.Glob.Plain b) (sessionId' : String) (slot : Slot) :
    Redis.Glob.globMatches code (pattern sessionId) (slot.redisKey sessionId') = true ↔
      Redis.bytes (sessionId ++ ":") <+: Redis.bytes (sessionId' ++ ":" ++ slot.name) := by
  have hstem : Redis.bytes (keyStem sessionId) =
      Redis.bytes "memory:session:" ++ Redis.bytes (sessionId ++ ":") := by
    rw [keyStem_eq, Redis.bytes_append]
  have hplain : ∀ b ∈ Redis.bytes (keyStem sessionId), Redis.Glob.Plain b := by
    have hprefix : ∀ b ∈ Redis.bytes "memory:session:", Redis.Glob.Plain b := by decide +kernel
    have hcolon : ∀ b ∈ Redis.bytes ":", Redis.Glob.Plain b := by decide +kernel
    intro b hb
    rw [hstem, Redis.bytes_append] at hb
    rcases List.mem_append.1 hb with hb | hb
    · exact hprefix b hb
    · rcases List.mem_append.1 hb with hb | hb
      · exact h b hb
      · exact hcolon b hb
  rw [pattern_eq, Redis.Glob.globMatches_star_iff hplain, hstem, Slot.bytes_redisKey,
    List.prefix_append_right_inj]

/-- An operation of the cache. -/
inductive CacheOperation where
  | set (sessionId key : String) (value : Json) (ttl : Option Int)
  | appendToHistory (sessionId : String) (entry : Json) (maxEntries : Int) (ttl : Option Int)
  | delete (sessionId key : String)
  | clearSession (sessionId : String)
  | extendTtl (sessionId : String) (ttl : Option Int)

/-- Whether it did what it was to. -/
def CacheOperation.program (cache : SessionMemoryCache) : CacheOperation → MemoryService Bool
  | set sessionId key value ttl => cache.set sessionId key value ttl
  | appendToHistory sessionId entry maxEntries ttl => cache.appendToHistory sessionId entry maxEntries ttl
  | delete sessionId key => SessionMemoryCache.delete sessionId key
  | clearSession sessionId => (0 < ·) <$> SessionMemoryCache.clearSession sessionId
  | extendTtl sessionId ttl => cache.extendTtl sessionId ttl

/-- What the operation stores, and for whom. -/
def CacheOperation.stores : CacheOperation → Option (String × Slot)
  | set sessionId key _ _ => some (sessionId, .key key)
  | appendToHistory sessionId _ _ _ => some (sessionId, .history)
  | delete _ _ | clearSession _ | extendTtl _ _ => none

/-- The keyspace, with the sessions and names for which what is under a key was stored since it is there. -/
structure SessionEntries where
  keyspace : MemoryKeyspace := .empty
  owners : String → List (String × Slot) := fun _ => []

/-- An operation, its time in milliseconds, and which commands Redis refuses. -/
structure CacheStep where
  operation : CacheOperation
  now : Nat
  refuses : MemoryCall → Option PyError := fun _ => none

namespace SessionEntries

variable (code : UInt8 → Int) (cache : SessionMemoryCache)

/-- A program of the cache at a time. -/
def exec {α : Type} (self : SessionEntries) (now : Nat) (refuses : MemoryCall → Option PyError)
    (program : MemoryService α) : Prog.Exec MemoryCall MemoryKeyspace (Except PyError α × Unit) :=
  (program.on ()).exec (MemoryKeyspace.env code now refuses noOutside) self.keyspace

/-- One operation. -/
def step (self : SessionEntries) (step : CacheStep) : SessionEntries :=
  let after := self.exec code step.now step.refuses (step.operation.program cache)
  match step.operation.stores, after.result with
  | some (sessionId, slot), some (.ok true, _) =>
    let key := slot.redisKey sessionId
    let others := if (Redis.lookup step.now key self.keyspace.store).isSome then self.owners key else []
    { keyspace := after.state, owners := Function.update self.owners key ((sessionId, slot) :: others) }
  | _, _ => { self with keyspace := after.state }

/-- What is stored by a sequence of operations. -/
def after (steps : List CacheStep) : SessionEntries := steps.foldl (step code cache) {}

/-- An entry of the session is there. -/
def Stored (self : SessionEntries) (now : Nat) (sessionId : String) (slot : Slot) : Prop :=
  (sessionId, slot) ∈ self.owners (slot.redisKey sessionId) ∧
    (Redis.lookup now (slot.redisKey sessionId) self.keyspace.store).isSome = true

instance (self : SessionEntries) (now : Nat) (sessionId : String) (slot : Slot) :
    Decidable (self.Stored now sessionId slot) :=
  inferInstanceAs (Decidable (_ ∧ _))

variable {code cache} {self : SessionEntries} {now : Nat} {refuses : MemoryCall → Option PyError}

/-! ## Every entry has a session that it was stored for -/

/-- No key has an entry that had none. -/
def Vanishes (before after : MemoryKeyspace) : Prop :=
  ∀ key, (after.store key).isSome = true → (before.store key).isSome = true

/-- The commands by which keys are found, removed and given an expiry. -/
def Removes : MemoryCall → Prop
  | .scan _ | .delete _ | .expire _ _ => True
  | _ => False

/-- The commands that find, remove and expire keys make no entry. -/
theorem vanishes_env {before : MemoryKeyspace} (o : MemoryCall) (keyspace : MemoryKeyspace)
    (ho : Removes o) (h : Vanishes before keyspace) :
    Vanishes before (MemoryKeyspace.env code now refuses noOutside o keyspace).2 := by
  cases o with
  | scan pattern =>
    simp only [MemoryKeyspace.env]
    split
    · exact h
    · exact h
  | delete keys =>
    simp only [MemoryKeyspace.env]
    split
    · exact h
    · intro key hkey
      refine h key ?_
      simp only [MemoryKeyspace.delete, Redis.Keyspace.restrict, Redis.del] at hkey
      split at hkey
      · cases hkey
      · exact hkey
  | expire key seconds =>
    simp only [MemoryKeyspace.env]
    split
    · exact h
    · exact fun key' hkey' => h key' (Redis.isSome_of_expire hkey')
  | _ => exact ho.elim

/-- Extending lifetimes one by one sends only such commands. -/
theorem guar_expireEach (seconds : Int) (keys : List String) :
    ((expireEach seconds keys).on ()).Guar (fun _ _ => True) Removes fun _ => True := by
  induction keys with
  | nil => trivial
  | cons key keys ih =>
    simp only [expireEach, Proc.on_bind, Proc.on_tryCall, Prog.call_bind, Prog.ret_bind]
    refine ⟨trivial, fun r _ => ?_⟩
    cases r with
    | error e => trivial
    | ok u => exact ih

/-- Operations that store nothing only remove keys. -/
theorem guar_of_stores_none {operation : CacheOperation} (h : operation.stores = none) :
    ((operation.program cache).on ()).Guar (fun _ _ => True) Removes fun _ => True := by
  cases operation with
  | set _ _ _ _ | appendToHistory _ _ _ _ => cases h
  | delete sessionId key =>
    rw [CacheOperation.program, on_delete]
    exact ⟨trivial, fun _ _ => trivial⟩
  | clearSession sessionId =>
    rw [CacheOperation.program, Proc.on_map, on_clearSession, Prog.call_bind]
    refine ⟨trivial, fun r _ => ?_⟩
    rcases r with e | _ | ⟨key, keys⟩
    · trivial
    · trivial
    · exact ⟨trivial, fun _ _ => trivial⟩
  | extendTtl sessionId ttl =>
    simp only [CacheOperation.program, extendTtl, Proc.on_tryCatch, Proc.on_bind, Proc.on_tryCall,
      Prog.call_bind, Prog.ret_bind]
    refine ⟨trivial, fun r _ => ?_⟩
    cases r with
    | error e => trivial
    | ok keys =>
      simp only [id, Proc.thenOn_ok, Proc.on_bind]
      refine Prog.Guar.bind (Q := fun _ => True) ?_ fun r _ => ?_
      · refine (guar_expireEach _ keys).bind fun r _ => ?_
        obtain ⟨e | u, _⟩ := r
        · trivial
        · trivial
      · obtain ⟨e | extended, _⟩ := r
        · trivial
        · trivial

/-- Storing changes the key that it is about; if it fails, no key has an entry that had none. -/
theorem exec_of_stores {operation : CacheOperation} {sessionId : String} {slot : Slot}
    (h : operation.stores = some (sessionId, slot)) :
    ∃ stored, (self.exec code now refuses (operation.program cache)).result = some (.ok stored, ()) ∧
      (∀ key, key ≠ slot.redisKey sessionId →
        (self.exec code now refuses (operation.program cache)).state.store key =
          self.keyspace.store key) ∧
      (stored = false →
        Vanishes self.keyspace (self.exec code now refuses (operation.program cache)).state) := by
  cases operation with
  | set sessionId key value ttl =>
    cases h
    simp only [exec, CacheOperation.program, on_set, Prog.exec_call, Prog.exec_ret, MemoryKeyspace.env]
    cases refuses (.setex (makeKey sessionId key) (cache.lifetime ttl) value) with
    | some e => exact ⟨false, rfl, fun _ _ => rfl, fun _ _ => id⟩
    | none =>
      simp only [MemoryKeyspace.setex]
      split
      · exact ⟨false, rfl, fun _ _ => rfl, fun _ _ => id⟩
      · exact ⟨true, rfl, fun key' hkey' => Redis.set_of_ne hkey' _ _, nofun⟩
  | appendToHistory sessionId entry maxEntries ttl =>
    cases h
    simp only [exec, CacheOperation.program, on_appendToHistory, Prog.exec_call, Prog.exec_ret,
      MemoryKeyspace.env]
    cases refuses (.append (makeListKey sessionId) entry maxEntries (cache.lifetime ttl)) with
    | some e => exact ⟨false, rfl, fun _ _ => rfl, fun _ _ => id⟩
    | none =>
      refine ⟨_, rfl, fun key' hkey' => ?_, fun hfails key' hkey' => ?_⟩
      · change key' ≠ makeListKey sessionId at hkey'
        exact MemoryKeyspace.append_of_ne hkey' _ _ _
      · simp only [MemoryKeyspace.append, Redis.fst_ltrim_rpush] at hfails
        cases hpush : (Redis.rpush now (makeListKey sessionId) entry self.keyspace.store).1 with
        | ok u =>
          rw [hpush] at hfails
          cases hfails
        | error e =>
          simp only [MemoryKeyspace.append, Redis.Keyspace.put, Redis.rpush_of_error hpush] at hkey'
          exact Redis.isSome_of_expire hkey'
  | delete _ _ | clearSession _ | extendTtl _ _ => cases h

/-- Every entry has sessions and names that it was stored for, and they have its key. -/
structure Owned (entries : SessionEntries) : Prop where
  owner : ∀ key, (entries.keyspace.store key).isSome = true → entries.owners key ≠ []
  ofKey : ∀ key, ∀ o ∈ entries.owners key, o.2.redisKey o.1 = key

/-- A call on a session keeps record of the owners of what it stores. -/
theorem Owned.step (h : self.Owned) (step : CacheStep) : (self.step code cache step).Owned := by
  obtain ⟨operation, now, refuses⟩ := step
  cases hstores : operation.stores with
  | none =>
    have hvanishes : Vanishes self.keyspace (self.exec code now refuses (operation.program cache)).state :=
      (guar_of_stores_none hstores).exec_state (I := Vanishes self.keyspace) _ vanishes_env fun _ => id
    have hstep : self.step code cache ⟨operation, now, refuses⟩ =
        { self with keyspace := (self.exec code now refuses (operation.program cache)).state } := by
      simp only [SessionEntries.step, hstores]
    rw [hstep]
    exact ⟨fun key hkey => h.owner key (hvanishes key hkey), h.ofKey⟩
  | some stored =>
    obtain ⟨sessionId, slot⟩ := stored
    obtain ⟨stored, hresult, hother, hfails⟩ :=
      @exec_of_stores code cache self now refuses _ sessionId slot hstores
    cases stored with
    | false =>
      have hstep : self.step code cache ⟨operation, now, refuses⟩ =
          { self with keyspace := (self.exec code now refuses (operation.program cache)).state } := by
        simp only [SessionEntries.step, hstores, hresult]
      rw [hstep]
      exact ⟨fun key hkey => h.owner key (hfails rfl key hkey), h.ofKey⟩
    | true =>
      simp only [SessionEntries.step, hstores, hresult]
      refine ⟨fun key hkey => ?_, fun key o ho => ?_⟩
      · dsimp only at hkey ⊢
        by_cases heq : key = slot.redisKey sessionId
        · subst heq
          rw [Function.update_self]
          exact List.cons_ne_nil _ _
        · rw [Function.update_of_ne heq]
          refine h.owner key ?_
          rwa [← hother key heq]
      · dsimp only at ho
        by_cases heq : key = slot.redisKey sessionId
        · subst heq
          rw [Function.update_self] at ho
          rcases List.mem_cons.1 ho with rfl | ho
          · rfl
          · split at ho
            · exact h.ofKey _ o ho
            · cases ho
        · rw [Function.update_of_ne heq] at ho
          exact h.ofKey key o ho

/-- So after any sequence of calls every entry has an owner. -/
theorem owned_after (steps : List CacheStep) : (after code cache steps).Owned := by
  have hrun (entries : SessionEntries) (h : entries.Owned) :
      (steps.foldl (SessionEntries.step code cache) entries).Owned := by
    induction steps generalizing entries with
    | nil => exact h
    | cons step steps ih => exact ih _ (h.step step)
  refine hrun {} ⟨fun key hkey => ?_, fun key o ho => ?_⟩
  · cases hkey
  · cases ho

/-! ## What the operations on a session act on -/

/-- Redis answers every command. -/
def answers : MemoryCall → Option PyError := fun _ => none

/-- In these runs Redis refuses nothing. -/
@[simp] theorem answers_apply (o : MemoryCall) : answers o = none := rfl

/-- The keys that the session finds. -/
theorem mem_scan {sessionId key : String} :
    key ∈ self.keyspace.scan code now (pattern sessionId) ↔
      (Redis.lookup now key self.keyspace.store).isSome = true ∧
        Redis.Glob.globMatches code (pattern sessionId) key = true :=
  Redis.Keyspace.mem_scan

/-- Clearing a session removes exactly the keys that its pattern matches. -/
theorem clearSession_store (self : SessionEntries) (sessionId key : String) :
    (self.exec code now answers (clearSession sessionId)).state.store key =
      if key ∈ self.keyspace.scan code now (pattern sessionId) then none else self.keyspace.store key := by
  simp only [exec, on_clearSession, Prog.exec_call, MemoryKeyspace.env, answers_apply]
  cases hkeys : self.keyspace.scan code now (pattern sessionId) with
  | nil => rw [if_neg List.not_mem_nil]; rfl
  | cons key' keys => rfl

/-- Extending the lifetimes of keys one by one extends each of them, and touches nothing else. -/
theorem exec_expireEach (seconds : Int) (keys : List String) (keyspace : MemoryKeyspace) :
    let e := ((expireEach seconds keys).on ()).exec (MemoryKeyspace.env code now answers noOutside) keyspace
    e.result = some (.ok (), ()) ∧ e.state.store = Redis.expireAll now seconds keys keyspace.store := by
  induction keys generalizing keyspace with
  | nil => exact ⟨rfl, rfl⟩
  | cons key keys ih => exact ih (keyspace.expire now key seconds)

/-- Extending the lifetimes of a session extends those of the keys that its pattern matches. -/
theorem extendTtl_store (self : SessionEntries) (sessionId : String) (ttl : Option Int) :
    (self.exec code now answers (cache.extendTtl sessionId ttl)).state.store =
      Redis.expireAll now (cache.lifetime ttl) (self.keyspace.scan code now (pattern sessionId))
        self.keyspace.store := by
  obtain ⟨hresult, hstore⟩ := @exec_expireEach code now (cache.lifetime ttl)
    (self.keyspace.scan code now (pattern sessionId)) self.keyspace
  rw [← hstore]
  simp only [exec, extendTtl, Proc.on_tryCatch, Proc.on_bind, Proc.on_tryCall, Prog.call_bind,
    Prog.ret_bind, Prog.exec_call, id, Proc.thenOn_ok, MemoryKeyspace.env, answers_apply,
    Prog.exec_bind, Prog.Exec.andThen, hresult, Proc.catchOn_ok, Proc.on_pure, Prog.exec_ret]

/-- The names that are listed are those keys but for the conversation, each without the stem of
the session. -/
theorem getSessionKeys_result (self : SessionEntries) (sessionId : String) :
    (self.exec code now answers (getSessionKeys sessionId)).result =
      some (.ok (((self.keyspace.scan code now (pattern sessionId)).filter
        (· ≠ makeListKey sessionId)).map (withoutStem sessionId)), ()) := by
  simp only [exec, on_getSessionKeys, Prog.exec_call, Prog.exec_ret, MemoryKeyspace.env, answers_apply]
  rfl

section
variable (code cache) (self : SessionEntries) (now : Nat) (sessionId : String)

/-- Clearing the session removes its entries and leaves those of others. -/
def ClearsOwn : Prop :=
  ∀ sessionId' slot, self.Stored now sessionId' slot →
    (self.exec code now answers (clearSession sessionId)).state.store (slot.redisKey sessionId') =
      if sessionId' = sessionId then none else self.keyspace.store (slot.redisKey sessionId')

/-- Extending the lifetimes of the session extends those of its entries and leaves those of others. -/
def ExtendsOwn (ttl : Option Int) : Prop :=
  ∀ sessionId' slot, self.Stored now sessionId' slot →
    (self.exec code now answers (cache.extendTtl sessionId ttl)).state.store (slot.redisKey sessionId') =
      if sessionId' = sessionId then
        Redis.expireEntry now (cache.lifetime ttl) (self.keyspace.store (slot.redisKey sessionId'))
      else self.keyspace.store (slot.redisKey sessionId')

/-- The keys that are listed for the session are those that it stored. -/
def ListsOwn : Prop :=
  ∃ names, (self.exec code now answers (getSessionKeys sessionId)).result = some (.ok names, ()) ∧
    ∀ name, name ∈ names ↔ self.Stored now sessionId (.key name)

/-- The operations on the session act on its entries and on no other's. -/
def ActsOnOwn : Prop :=
  self.ClearsOwn code now sessionId ∧ (∀ ttl, self.ExtendsOwn code cache now sessionId ttl) ∧
    self.ListsOwn code now sessionId

/-- Of the entries that are there, the pattern of the session matches the keys of its own. -/
def TellsApart : Prop :=
  ∀ sessionId' slot, self.Stored now sessionId' slot →
    (Redis.Glob.globMatches code (pattern sessionId) (slot.redisKey sessionId') = true ↔
      sessionId' = sessionId)

end

variable {sessionId : String}

/-- The keys of the entries that are there and match the pattern of the session. -/
theorem Stored.mem_scan_iff {sessionId' : String} {slot : Slot} (h : self.Stored now sessionId' slot) :
    slot.redisKey sessionId' ∈ self.keyspace.scan code now (pattern sessionId) ↔
      Redis.Glob.globMatches code (pattern sessionId) (slot.redisKey sessionId') = true :=
  mem_scan.trans ⟨And.right, fun hmatches => ⟨h.2, hmatches⟩⟩

/-- A key that is there was stored for a session. -/
theorem Owned.stored (h : self.Owned) {key : String}
    (hkey : (Redis.lookup now key self.keyspace.store).isSome = true) :
    ∃ sessionId slot, key = slot.redisKey sessionId ∧ self.Stored now sessionId slot := by
  obtain ⟨entry, hentry⟩ := Option.isSome_iff_exists.1 hkey
  have hstore : (self.keyspace.store key).isSome = true := by
    rw [(Redis.lookup_eq_some.1 hentry).1]
    rfl
  obtain ⟨⟨sessionId, slot⟩, hmem⟩ := List.exists_mem_of_ne_nil _ (h.owner key hstore)
  obtain rfl : slot.redisKey sessionId = key := h.ofKey key _ hmem
  exact ⟨sessionId, slot, rfl, hmem, hkey⟩

/-- If clearing a session removes its own entries alone, its pattern matches their keys alone. -/
theorem tellsApart_of_clearsOwn (h : self.ClearsOwn code now sessionId) :
    self.TellsApart code now sessionId := by
  intro sessionId' slot hstored
  have hclears := h sessionId' slot hstored
  rw [clearSession_store] at hclears
  obtain ⟨entry, hentry⟩ := Option.isSome_iff_exists.1 hstored.2
  rw [(Redis.lookup_eq_some.1 hentry).1] at hclears
  rw [← hstored.mem_scan_iff]
  by_cases hmem : slot.redisKey sessionId' ∈ self.keyspace.scan code now (pattern sessionId)
  · by_cases hown : sessionId' = sessionId
    · exact iff_of_true hmem hown
    · rw [if_pos hmem, if_neg hown] at hclears
      cases hclears
  · by_cases hown : sessionId' = sessionId
    · rw [if_neg hmem, if_pos hown] at hclears
      cases hclears
    · exact iff_of_false hmem hown

/-- Conversely, where the pattern matches the keys of the session alone, clearing removes its
entries alone. -/
theorem TellsApart.clearsOwn (h : self.TellsApart code now sessionId) :
    self.ClearsOwn code now sessionId := by
  intro sessionId' slot hstored
  rw [clearSession_store]
  exact if_congr (hstored.mem_scan_iff.trans (h sessionId' slot hstored)) rfl rfl

/-- There, extending the lifetimes extends those of its entries alone. -/
theorem TellsApart.extendsOwn (h : self.TellsApart code now sessionId) (ttl : Option Int) :
    self.ExtendsOwn code cache now sessionId ttl := by
  intro sessionId' slot hstored
  have hmem := hstored.mem_scan_iff.trans (h sessionId' slot hstored)
  rw [extendTtl_store]
  by_cases hown : sessionId' = sessionId
  · rw [if_pos hown, Redis.expireAll_of_mem (hmem.2 hown)]
  · rw [if_neg hown, Redis.expireAll_of_not_mem fun hkey => hown (hmem.1 hkey)]

/-- The name is what is left of a key without the stem. -/
theorem withoutStem_makeKey (sessionId name : String) :
    withoutStem sessionId (makeKey sessionId name) = name := by
  have hkey : makeKey sessionId name = keyStem sessionId ++ name := rfl
  rw [withoutStem, hkey, String.toList_append, ← String.length_toList, List.drop_left,
    String.ofList_toList]

/-- A value of that name would be under the key of the conversation. -/
theorem makeKey_history (sessionId : String) : makeKey sessionId "history" = makeListKey sessionId :=
  (Slot.redisKey_eq sessionId (.key "history")).trans (Slot.redisKey_eq sessionId .history).symm

/-- The names that are listed, if the pattern of the session tells its entries apart. -/
theorem TellsApart.mem_listed_iff (howned : self.Owned) (h : self.TellsApart code now sessionId)
    (name : String) :
    name ∈ ((self.keyspace.scan code now (pattern sessionId)).filter
        (· ≠ makeListKey sessionId)).map (withoutStem sessionId) ↔
      self.Stored now sessionId (.key name) ∧ name ≠ "history" := by
  simp only [List.mem_map, List.mem_filter, decide_eq_true_eq]
  constructor
  · rintro ⟨key, ⟨hkey, hlist⟩, rfl⟩
    obtain ⟨sessionId', slot, rfl, hstored⟩ := howned.stored (mem_scan.1 hkey).1
    obtain rfl := (h sessionId' slot hstored).1 (mem_scan.1 hkey).2
    cases slot with
    | history => exact absurd rfl hlist
    | key name =>
      rw [Slot.redisKey, withoutStem_makeKey]
      refine ⟨hstored, fun hname => hlist ?_⟩
      rw [hname]
      exact makeKey_history sessionId'
  · rintro ⟨hstored, hname⟩
    refine ⟨makeKey sessionId name, ⟨?_, fun hlist => hname ?_⟩, withoutStem_makeKey sessionId name⟩
    · exact hstored.mem_scan_iff.2 ((h sessionId _ hstored).2 rfl)
    · rw [← withoutStem_makeKey sessionId name, hlist, ← makeKey_history, withoutStem_makeKey]

/-- The operations on a session act on its entries and on no other's exactly if its pattern tells them
apart and it has no value of the name of its conversation. For an identifier without special bytes, that is
if no entry of another one has an identifier and name that begin with it and a colon. -/
theorem actsOnOwn_iff (code : UInt8 → Int) (cache : SessionMemoryCache) (steps : List CacheStep)
    (now : Nat) (sessionId : String) :
    let entries := after code cache steps
    (entries.ActsOnOwn code cache now sessionId ↔
      entries.TellsApart code now sessionId ∧ ¬entries.Stored now sessionId (.key "history")) ∧
    ((∀ b ∈ Redis.bytes sessionId, Redis.Glob.Plain b) →
      (entries.TellsApart code now sessionId ↔
        ∀ sessionId' slot, entries.Stored now sessionId' slot → sessionId' ≠ sessionId →
          ¬Redis.bytes (sessionId ++ ":") <+: Redis.bytes (sessionId' ++ ":" ++ slot.name))) := by
  intro entries
  have howned : entries.Owned := owned_after steps
  refine ⟨⟨?_, ?_⟩, fun hplain => ⟨?_, ?_⟩⟩
  · rintro ⟨hclears, -, names, hnames, hlisted⟩
    have happart := tellsApart_of_clearsOwn hclears
    refine ⟨happart, fun hstored => ?_⟩
    rw [getSessionKeys_result] at hnames
    obtain rfl := Except.ok.inj (Prod.mk.inj (Option.some.inj hnames)).1
    exact ((happart.mem_listed_iff howned _).1 ((hlisted "history").2 hstored)).2 rfl
  · rintro ⟨happart, hhistory⟩
    refine ⟨happart.clearsOwn, happart.extendsOwn, _, getSessionKeys_result entries sessionId,
      fun name => ?_⟩
    rw [happart.mem_listed_iff howned]
    refine ⟨And.left, fun hstored => ⟨hstored, fun hname => hhistory ?_⟩⟩
    rwa [← hname]
  · intro happart sessionId' slot hstored hother hbegins
    exact hother ((happart sessionId' slot hstored).1
      ((globMatches_pattern_iff hplain sessionId' slot).2 hbegins))
  · intro hseparate sessionId' slot hstored
    rw [globMatches_pattern_iff hplain]
    constructor
    · intro hbegins
      exact Classical.byContradiction fun hother => hseparate sessionId' slot hstored hother hbegins
    · rintro rfl
      rw [Redis.bytes_append (sessionId' ++ ":")]
      exact List.prefix_append ..

/-- Two sessions, of which the first one's identifier and a colon begin the other's. -/
def nested : List CacheStep :=
  [{ operation := .set "a" "c" (.int 1) none, now := 0 },
    { operation := .set "a:b" "c" (.int 2) none, now := 0 }]

/-- Clearing a session clears another one, whose identifier begins with its own and a colon. -/
theorem not_actsOnOwn : ¬∀ (code : UInt8 → Int) (cache : SessionMemoryCache) (steps : List CacheStep)
    (now : Nat) (sessionId : String), (after code cache steps).ActsOnOwn code cache now sessionId := by
  intro h
  have hclears := (h (fun b => b.toNat) {} nested 0 "a").1 "a:b" (.key "c") (by decide +kernel)
  have hgone : ((after (fun b => b.toNat) {} nested).keyspace.store
      (Slot.redisKey "a:b" (.key "c"))).isSome = true := by decide +kernel
  rw [if_neg (by decide), clearSession_store, if_pos (by decide +kernel)] at hclears
  rw [← hclears] at hgone
  cases hgone

end SessionEntries

end AgentRuntime
