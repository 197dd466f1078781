import AgentRuntime.Cache.EphemeralMemoryCache
import AgentRuntime.Cache.FlatMap
import Mathlib.Data.List.Dedup

/-!
# Ephemeral memory as a map for each run

What the runs remember, by their identifiers and the names of the values, against the strings that
`EphemeralMemoryCache` keeps in Redis. `ephemeral_replies` says that every call answers from what its run
remembers, in any sequence of calls each of which finds its keys apart from those of other runs and names.
-/

namespace AgentRuntime

open Interaction Proc EphemeralMemoryCache

/-- The value of each name, for each run. -/
abbrev RunMemory := FlatMap.Nested String String Json

/-- A call of the cache. -/
inductive EphemeralCall where
  | set (runId key : String) (value : Json) (ttl : Option Int)
  | get (runId key : String)
  | delete (runId key : String)
  | clearRun (runId : String)
  | getAll (runId : String)

/-- What a call returns. -/
inductive EphemeralReply where
  | done (b : Bool)
  | value (x : Option Json)
  | removed (n : Nat)
  | all (d : Dict)

namespace EphemeralCall

def program (cache : EphemeralMemoryCache) : EphemeralCall → MemoryService EphemeralReply
  | set runId key value ttl => .done <$> cache.set runId key value ttl
  | get runId key => .value <$> EphemeralMemoryCache.get runId key
  | delete runId key => .done <$> EphemeralMemoryCache.delete runId key
  | clearRun runId => .removed <$> EphemeralMemoryCache.clearRun runId
  | getAll runId => .all <$> EphemeralMemoryCache.getAll runId

/-- What is remembered after the call. -/
def apply (memory : RunMemory) : EphemeralCall → RunMemory
  | set runId key value _ => FlatMap.write memory runId key (some value)
  | delete runId key => FlatMap.write memory runId key none
  | clearRun runId => FlatMap.clear memory runId
  | get _ _ | getAll _ => memory

/-- The reply is that of a map for each run. -/
def Replies (memory : RunMemory) : EphemeralCall → EphemeralReply → Prop
  | set _ _ _ _, .done b => b = true
  | get runId key, .value x => x = memory runId key
  | delete runId key, .done b => b = (memory runId key).isSome
  | clearRun runId, .removed n => ∃ keys : List String, keys.Nodup ∧
      (∀ key, key ∈ keys ↔ (memory runId key).isSome = true) ∧ n = keys.length
  | getAll runId, .all d => (d.map Prod.fst).Nodup ∧ ∀ key, d.get? key = memory runId key
  | _, _ => False

/-- Of what is remembered, the pattern of the run matches its own keys. -/
def TellsApart (code : UInt8 → Int) (memory : RunMemory) (runId : String) : Prop :=
  ∀ runId' key, (memory runId' key).isSome = true →
    (Redis.Glob.globMatches code (pattern runId) (makeKey runId' key) = true ↔ runId' = runId)

/-- The call finds its keys apart: no other name has the key that it uses, the pattern that it uses matches
the keys of its run, and no name of its run contains what is removed from them. -/
def Separate (code : UInt8 → Int) (memory : RunMemory) : EphemeralCall → Prop
  | set runId key _ _ | get runId key | delete runId key => FlatMap.Alone makeKey memory runId key
  | clearRun runId => TellsApart code memory runId
  | getAll runId => TellsApart code memory runId ∧
      ∀ key, (memory runId key).isSome = true → ¬(keyStem runId).toList <:+: key.toList

/-- Redis accepts the lifetime. -/
def Lives (cache : EphemeralMemoryCache) : EphemeralCall → Prop
  | set _ _ _ ttl => 0 < cache.lifetime ttl
  | get _ _ | delete _ _ | clearRun _ | getAll _ => True

end EphemeralCall

/-- Redis, which refuses nothing. -/
abbrev servingRedis (code : UInt8 → Int) (now : Nat) : Env MemoryCall MemoryCall.Ans MemoryKeyspace :=
  MemoryKeyspace.env code now (fun _ => none) noOutside

/-- What is remembered and what Redis has after calls each of which meets the condition, where nothing
expires. -/
inductive EphemeralRun (code : UInt8 → Int) (cache : EphemeralMemoryCache)
    (condition : RunMemory → EphemeralCall → Prop) : RunMemory → MemoryKeyspace → Prop
  | start : EphemeralRun code cache condition (fun _ _ => none) .empty
  | call {memory : RunMemory} {self self' : MemoryKeyspace} {reply : EphemeralReply} (call : EphemeralCall)
      (now : Nat) (h : EphemeralRun code cache condition memory self)
      (hunexpired : ∀ key, Redis.Unexpired now key self.store) (hlives : call.Lives cache)
      (hcondition : condition memory call)
      (hends : Ends (servingRedis code now) self (call.program cache) (.ok reply) self') :
      EphemeralRun code cache condition (call.apply memory) self'

/-- Redis has what is remembered, and no other strings. -/
def Remembers (memory : RunMemory) (self : MemoryKeyspace) : Prop :=
  ∃ flat, Redis.HoldsStrings flat self ∧ FlatMap.Represents makeKey flat memory

section
variable {code : UInt8 → Int} {cache : EphemeralMemoryCache} {memory : RunMemory} {self : MemoryKeyspace}
  {flat : String → Option Json} {now : Nat} {runId key : String} {ttl : Option Int}

/-- The names that are found by the pattern of a run. -/
theorem exists_names (hstrings : Redis.HoldsStrings flat self)
    (hunexpired : ∀ key, Redis.Unexpired now key self.store)
    (hrepresents : FlatMap.Represents makeKey flat memory)
    (happart : EphemeralCall.TellsApart code memory runId) :
    ∃ names : List String, self.scan code now (pattern runId) = names.map (makeKey runId) ∧
      ∀ name, name ∈ names ↔ (memory runId name).isSome = true := by
  have hfound (k : String) (hk : k ∈ self.scan code now (pattern runId)) :
      ∃ name, makeKey runId name = k ∧ (memory runId name).isSome = true := by
    obtain ⟨hsome, hmatches⟩ := (hstrings.mem_scan_iff hunexpired k code (pattern runId)).1 hk
    obtain ⟨v, hv⟩ := Option.isSome_iff_exists.1 hsome
    obtain ⟨runId', name, rfl, hname⟩ := hrepresents.owned hv
    have hlive : (memory runId' name).isSome = true := by rw [hname]; rfl
    obtain rfl := (happart runId' name hlive).1 hmatches
    exact ⟨name, rfl, hlive⟩
  choose! name hname using hfound
  have hmap : self.scan code now (pattern runId) =
      ((self.scan code now (pattern runId)).map name).map (makeKey runId) := by
    rw [List.map_map]
    exact (List.map_id _).symm.trans (List.map_congr_left fun k hk => (hname k hk).1.symm)
  refine ⟨_, hmap, fun key => ⟨fun hkey => ?_, fun hlive => ?_⟩⟩
  · obtain ⟨k, hk, rfl⟩ := List.mem_map.1 hkey
    exact (hname k hk).2
  · obtain ⟨v, hv⟩ := Option.isSome_iff_exists.1 hlive
    have hsome : (flat (makeKey runId key)).isSome = true := by rw [hrepresents.stored hv]; rfl
    have hscan := (hstrings.mem_scan_iff hunexpired (makeKey runId key) code (pattern runId)).2
      ⟨hsome, (happart runId key hlive).2 rfl⟩
    exact List.mem_map.2 ⟨_, hscan, makeKey_inj (hname _ hscan).1⟩

/-- What is collected of keys that were found. -/
theorem ends_collect (hstrings : Redis.HoldsStrings flat self)
    (hunexpired : ∀ key, Redis.Unexpired now key self.store) (names : List String)
    (hnames : ∀ name ∈ names, (flat (makeKey runId name)).isSome = true ∧
      ¬(keyStem runId).toList <:+: name.toList) (result : Dict) :
    ∃ d, Ends (servingRedis code now) self (collect runId (names.map (makeKey runId)) result) (.ok d) self ∧
      ((result.map Prod.fst).Nodup → (d.map Prod.fst).Nodup) ∧
      ∀ key, d.get? key = if key ∈ names then flat (makeKey runId key) else result.get? key := by
  induction names generalizing result with
  | nil => exact ⟨result, ends_pure result, id, fun key => (if_neg List.not_mem_nil).symm⟩
  | cons name names ih =>
    obtain ⟨⟨hsome, hinfix⟩, hrest⟩ := List.forall_mem_cons.1 hnames
    obtain ⟨value, hvalue⟩ := Option.isSome_iff_exists.1 hsome
    have hget : Ends (servingRedis code now) self (tryCall (.get (makeKey runId name)) id) (.ok (some value))
        self := by
      have hcall : Ends (servingRedis code now) self (tryCall (.get (makeKey runId name)) id)
          (MemoryKeyspace.answered (Redis.getString now (makeKey runId name) self.store)) self :=
        ends_tryCall _ _
      rwa [hstrings.getString_eq hunexpired, hvalue] at hcall
    obtain ⟨d, hends, hnodup, hd⟩ := ih hrest (result.set name value)
    refine ⟨d, hget.bind ?_, fun hresult => hnodup (Dict.nodup_set hresult name value), fun key => ?_⟩
    · dsimp only
      rwa [shortKey_makeKey hinfix]
    · rw [hd]
      by_cases hname : key = name
      · subst hname
        rw [if_pos List.mem_cons_self, Dict.get?_set_self, hvalue, ite_self]
      · rw [Dict.get?_set_of_ne hname]
        exact if_congr (List.mem_cons.trans (or_iff_right hname)).symm rfl rfl

/-! ## What each method does -/

/-- A value that is set with a positive lifetime is stored under the key of its run. -/
theorem ends_set (hlifetime : 0 < cache.lifetime ttl) (value : Json) :
    Ends (servingRedis code now) self (cache.set runId key value ttl) (.ok true)
      (self.setex now (makeKey runId key) (cache.lifetime ttl) value).2 := by
  have hcall : Ends (servingRedis code now) self
      (tryCall (.setex (makeKey runId key) (cache.lifetime ttl) value) id)
      (self.setex now (makeKey runId key) (cache.lifetime ttl) value).1
      (self.setex now (makeKey runId key) (cache.lifetime ttl) value).2 := ends_tryCall _ _
  have hok : (self.setex now (makeKey runId key) (cache.lifetime ttl) value).1 = .ok () := by
    rw [MemoryKeyspace.setex, if_neg (Int.not_le.2 hlifetime)]
  rw [hok] at hcall
  exact (hcall.bind (ends_pure true)).tryCatch _

/-- What is read is the value under the key that the two names are joined to, and reading changes nothing. -/
theorem ends_get (hstrings : Redis.HoldsStrings flat self)
    (hunexpired : ∀ key, Redis.Unexpired now key self.store) :
    Ends (servingRedis code now) self (EphemeralMemoryCache.get runId key) (.ok (flat (makeKey runId key)))
      self := by
  have hcall : Ends (servingRedis code now) self (tryCall (.get (makeKey runId key)) id)
      (MemoryKeyspace.answered (Redis.getString now (makeKey runId key) self.store)) self := ends_tryCall _ _
  rw [hstrings.getString_eq hunexpired] at hcall
  exact hcall.tryCatch _

/-- A delete says whether there was a value, and removes it. -/
theorem ends_delete (hstrings : Redis.HoldsStrings flat self)
    (hunexpired : ∀ key, Redis.Unexpired now key self.store) :
    Ends (servingRedis code now) self (EphemeralMemoryCache.delete runId key)
      (.ok (flat (makeKey runId key)).isSome) (self.delete now [makeKey runId key]).2 := by
  have hcall : Ends (servingRedis code now) self (tryCall (.delete [makeKey runId key]) id)
      (.ok (self.delete now [makeKey runId key]).1) (self.delete now [makeKey runId key]).2 :=
    ends_tryCall _ _
  have hremoved : decide (0 < (self.delete now [makeKey runId key]).1) =
      (flat (makeKey runId key)).isSome := by
    have hone : [makeKey runId key].dedup = [makeKey runId key] :=
      List.dedup_eq_self.2 (List.nodup_singleton _)
    rw [MemoryKeyspace.fst_delete hstrings hunexpired, hone]
    cases hflat : flat (makeKey runId key) with
    | none => simp [hflat]
    | some v => simp [hflat]
  rw [← hremoved]
  exact (hcall.bind (ends_pure (decide (0 < (self.delete now [makeKey runId key]).1)))).tryCatch _

/-- Clearing a run removes the keys that are found, and returns how many there are. -/
theorem ends_clearRun (hstrings : Redis.HoldsStrings flat self)
    (hunexpired : ∀ key, Redis.Unexpired now key self.store) :
    ∃ self', Ends (servingRedis code now) self (EphemeralMemoryCache.clearRun runId)
        (.ok (self.scan code now (pattern runId)).dedup.length) self' ∧
      Redis.HoldsStrings (fun k => if k ∈ self.scan code now (pattern runId) then none else flat k)
        self' := by
  have hscan : Ends (servingRedis code now) self (tryCall (.scan (pattern runId)) id)
      (.ok (self.scan code now (pattern runId))) self := ends_tryCall _ _
  have hmem (k : String) := hstrings.mem_scan_iff hunexpired k code (pattern runId)
  generalize self.scan code now (pattern runId) = keys at hscan hmem ⊢
  cases keys with
  | nil =>
    refine ⟨self, (hscan.bind (ends_pure 0)).tryCatch _, ?_⟩
    simpa using hstrings
  | cons k keys =>
    have hdelete : Ends (servingRedis code now) self (tryCall (.delete (k :: keys)) id)
        (.ok (self.delete now (k :: keys)).1) (self.delete now (k :: keys)).2 := ends_tryCall _ _
    have hall : (self.delete now (k :: keys)).1 = (k :: keys).dedup.length := by
      rw [MemoryKeyspace.fst_delete hstrings hunexpired, List.filter_eq_self.2 fun k' hk' => ?_]
      exact ((hmem k').1 (List.mem_dedup.1 hk')).1
    rw [hall] at hdelete
    exact ⟨_, (hscan.bind hdelete).tryCatch _, MemoryKeyspace.holdsStrings_delete hstrings now (k :: keys)⟩

/-- All values of a run are read, provided that no key of another run has the form of its keys and that the
pattern reaches no others. -/
theorem ends_getAll (hstrings : Redis.HoldsStrings flat self)
    (hunexpired : ∀ key, Redis.Unexpired now key self.store)
    (hrepresents : FlatMap.Represents makeKey flat memory)
    (happart : EphemeralCall.TellsApart code memory runId)
    (hfree : ∀ key, (memory runId key).isSome = true → ¬(keyStem runId).toList <:+: key.toList) :
    ∃ d, Ends (servingRedis code now) self (EphemeralMemoryCache.getAll runId) (.ok d) self ∧
      (d.map Prod.fst).Nodup ∧ ∀ key, d.get? key = memory runId key := by
  have hscan : Ends (servingRedis code now) self (tryCall (.scan (pattern runId)) id)
      (.ok (self.scan code now (pattern runId))) self := ends_tryCall _ _
  obtain ⟨names, hkeys, hnames⟩ := exists_names hstrings hunexpired hrepresents happart
  have hlive (name : String) (hname : name ∈ names) : flat (makeKey runId name) = memory runId name := by
    obtain ⟨v, hv⟩ := Option.isSome_iff_exists.1 ((hnames name).1 hname)
    rw [hv, hrepresents.stored hv]
  have hcollected (name : String) (hname : name ∈ names) : (flat (makeKey runId name)).isSome = true ∧
      ¬(keyStem runId).toList <:+: name.toList :=
    ⟨hlive name hname ▸ (hnames name).1 hname, hfree name ((hnames name).1 hname)⟩
  obtain ⟨d, hends, hnodup, hd⟩ := ends_collect hstrings hunexpired names hcollected []
  rw [← hkeys] at hends
  refine ⟨d, (hscan.bind hends).tryCatch _, hnodup List.nodup_nil, fun key => ?_⟩
  rw [hd]
  split
  · next hname => exact hlive key hname
  · next hname => exact (Option.not_isSome_iff_eq_none.1 fun h => hname ((hnames key).2 h)).symm

/-! ## The map of each run -/

/-- A call that finds its keys apart replies from what its run remembers, which Redis has again after it. -/
theorem EphemeralCall.simulates (call : EphemeralCall) (h : Remembers memory self)
    (hunexpired : ∀ key, Redis.Unexpired now key self.store) (hlives : call.Lives cache)
    (hseparate : call.Separate code memory) :
    ∃ reply self', Ends (servingRedis code now) self (call.program cache) (.ok reply) self' ∧
      call.Replies memory reply ∧ Remembers (call.apply memory) self' := by
  obtain ⟨flat, hstrings, hrepresents⟩ := h
  cases call with
  | set runId key value ttl =>
    obtain ⟨-, hset⟩ := MemoryKeyspace.holdsStrings_setex hstrings now (makeKey runId key) hlives value
    exact ⟨_, _, (ends_set hlives value).map _, rfl, _, hset, hrepresents.write hseparate (some value)⟩
  | get runId key =>
    exact ⟨_, _, (ends_get hstrings hunexpired).map _, hrepresents.find hseparate, flat, hstrings,
      hrepresents⟩
  | delete runId key =>
    have hdelete := MemoryKeyspace.holdsStrings_delete hstrings now [makeKey runId key]
    have hflat : (fun k => if k ∈ [makeKey runId key] then none else flat k) =
        Function.update flat (makeKey runId key) none := by
      funext k
      simp only [List.mem_singleton, Function.update_apply]
    rw [hflat] at hdelete
    refine ⟨_, _, (ends_delete hstrings hunexpired).map _, ?_, _, hdelete, hrepresents.write hseparate none⟩
    exact congrArg Option.isSome (hrepresents.find hseparate)
  | clearRun runId =>
    obtain ⟨self', hends, hcleared⟩ := @ends_clearRun code self flat now runId hstrings hunexpired
    obtain ⟨names, hkeys, hnames⟩ := exists_names hstrings hunexpired hrepresents hseparate
    have hcount : (self.scan code now (pattern runId)).dedup.length = names.dedup.length := by
      rw [hkeys, List.dedup_map_of_injective fun _ _ => makeKey_inj, List.length_map]
    refine ⟨_, self', hends.map _, ⟨names.dedup, names.nodup_dedup, fun key => ?_, hcount⟩, _, hcleared,
      hrepresents.clear fun runId' key hlive => ?_⟩
    · rw [List.mem_dedup, hnames]
    · obtain ⟨v, hv⟩ := Option.isSome_iff_exists.1 hlive
      rw [hstrings.mem_scan_iff hunexpired, hrepresents.stored hv, hseparate runId' key hlive]
      exact and_iff_right rfl
  | getAll runId =>
    obtain ⟨happart, hfree⟩ := hseparate
    obtain ⟨d, hends, hd⟩ := ends_getAll hstrings hunexpired hrepresents happart hfree
    exact ⟨_, _, hends.map _, hd, flat, hstrings, hrepresents⟩

/-- Redis has what is remembered after calls that find their keys apart. -/
theorem EphemeralRun.remembers
    (h : EphemeralRun code cache (fun memory call => call.Separate code memory) memory self) :
    Remembers memory self := by
  induction h with
  | start => exact ⟨fun _ => none, fun _ => rfl, .empty⟩
  | call call now _ hunexpired hlives hseparate hends ih =>
    obtain ⟨reply, self', hends', -, hremembers⟩ := call.simulates ih hunexpired hlives hseparate
    obtain ⟨-, rfl⟩ := hends.unique hends'
    exact hremembers

end

/-- **Every call replies from what its run remembers**, after any calls and in any state in which each of them
finds its keys apart. -/
theorem ephemeral_replies {code : UInt8 → Int} {cache : EphemeralMemoryCache} {memory : RunMemory}
    {self : MemoryKeyspace}
    (hrun : EphemeralRun code cache (fun memory call => call.Separate code memory) memory self)
    {now : Nat} (hunexpired : ∀ key, Redis.Unexpired now key self.store) (call : EphemeralCall)
    (hlives : call.Lives cache) (hseparate : call.Separate code memory) :
    ∃ reply self', Ends (servingRedis code now) self (call.program cache) (.ok reply) self' ∧
      call.Replies memory reply := by
  obtain ⟨reply, self', hends, hreplies, -⟩ := call.simulates hrun.remembers hunexpired hlives hseparate
  exact ⟨reply, self', hends, hreplies⟩

/-! ## Values of two runs -/

namespace StoredValues

/-- What is remembered after the values are set, the last of the list first. -/
def memory : List (String × String × Json) → RunMemory
  | [] => fun _ _ => none
  | (runId, key, value) :: sets => FlatMap.write (memory sets) runId key (some value)

/-- What Redis has then. -/
def keyspace : List (String × String × Json) → MemoryKeyspace
  | [] => .empty
  | (runId, key, value) :: sets => (MemoryKeyspace.setex 0 (keyspace sets) (makeKey runId key) 86400 value).2

/-- In the samples no lifetime has passed. -/
theorem unexpired (sets : List (String × String × Json)) :
    ∀ key', Redis.Unexpired 0 key' (keyspace sets).store :=
  fun _ _ _ t _ => Nat.zero_le t

/-- One more value is set. -/
theorem run_cons {code : UInt8 → Int} {condition : RunMemory → EphemeralCall → Prop}
    {sets : List (String × String × Json)} (h : EphemeralRun code {} condition (memory sets) (keyspace sets))
    {runId key : String} {value : Json} (hcondition : condition (memory sets) (.set runId key value none)) :
    EphemeralRun code {} condition (memory ((runId, key, value) :: sets)) (keyspace ((runId, key, value) :: sets)) :=
  have hlifetime : 0 < EphemeralMemoryCache.lifetime {} none := by decide
  .call (.set runId key value none) 0 h (unexpired sets) hlifetime hcondition
    ((ends_set hlifetime value).map EphemeralReply.done)

/-- What is remembered was set. -/
theorem mem_of_isSome {sets : List (String × String × Json)} {runId key : String}
    (h : (memory sets runId key).isSome = true) : ∃ value, (runId, key, value) ∈ sets := by
  induction sets with
  | nil => cases h
  | cons entry sets ih =>
    obtain ⟨runId', key', value'⟩ := entry
    by_cases hsame : runId = runId' ∧ key = key'
    · obtain ⟨rfl, rfl⟩ := hsame
      exact ⟨value', List.mem_cons_self⟩
    · rw [memory, FlatMap.write_of_ne hsame] at h
      obtain ⟨value, hmem⟩ := ih h
      exact ⟨value, List.mem_cons_of_mem _ hmem⟩

/-- A name is alone if its key is none of those that were set before. -/
theorem alone_of_forall {sets : List (String × String × Json)} {runId key : String}
    (h : ∀ entry ∈ sets, makeKey entry.1 entry.2.1 ≠ makeKey runId key) :
    FlatMap.Alone makeKey (memory sets) runId key := by
  intro runId' key' hlive heq
  obtain ⟨value, hmem⟩ := mem_of_isSome hlive
  exact (h (runId', key', value) hmem heq).elim

/-- Two values of one run, and a value of another. -/
def twoRuns : List (String × String × Json) :=
  [("run-2", "answer", .int 3), ("run-1", "question", .str "why"), ("run-1", "answer", .int 1)]

end StoredValues

open StoredValues in
/-- The values of a run are read back without the other's. -/
theorem ephemeral_replies_getAll :
    ∃ reply self', Ends (servingRedis (fun b => b.toNat) 0) (keyspace twoRuns)
        ((EphemeralCall.getAll "run-1").program {}) (.ok reply) self' ∧
      (EphemeralCall.getAll "run-1").Replies (memory twoRuns) reply := by
  have hrun : EphemeralRun (fun b => b.toNat) {} (fun memory call => call.Separate (fun b => b.toNat) memory)
      (memory twoRuns) (keyspace twoRuns) :=
    run_cons (run_cons (run_cons .start (alone_of_forall (by decide +kernel))) (alone_of_forall (by decide +kernel)))
      (alone_of_forall (by decide +kernel))
  refine ephemeral_replies hrun (unexpired twoRuns) (.getAll "run-1") trivial
    ⟨fun runId key hlive => ?_, fun key hlive => ?_⟩
  · obtain ⟨value, hmem⟩ := mem_of_isSome hlive
    have happart : ∀ entry ∈ twoRuns, Redis.Glob.globMatches (fun b => b.toNat) (pattern "run-1")
        (makeKey entry.1 entry.2.1) = true ↔ entry.1 = "run-1" := by
      decide +kernel
    exact happart (runId, key, value) hmem
  · obtain ⟨value, hmem⟩ := mem_of_isSome hlive
    have hstem : ∀ entry ∈ twoRuns, ¬(keyStem "run-1").toList <:+: entry.2.1.toList := by decide +kernel
    exact hstem ("run-1", key, value) hmem

open StoredValues in
/-- A value of the run `a:b` is found by the run `a`, which has none. -/
theorem not_ephemeral_replies :
    ¬∀ (memory : RunMemory) (self : MemoryKeyspace) (call : EphemeralCall),
      EphemeralRun (fun b => b.toNat) {} (fun _ _ => True) memory self →
        (∀ key, Redis.Unexpired 0 key self.store) → call.Lives {} →
          ∃ reply self', Ends (servingRedis (fun b => b.toNat) 0) self (call.program {}) (.ok reply) self' ∧
            call.Replies memory reply := by
  intro h
  obtain ⟨reply, self', hends, hreplies⟩ := h (memory [("a:b", "c", .int 1)]) (keyspace [("a:b", "c", .int 1)])
    (.get "a" "b:c") (run_cons .start trivial) (unexpired _) trivial
  have hkey : makeKey "a" "b:c" = makeKey "a:b" "c" := by decide +kernel
  have hempty : Redis.HoldsStrings (fun _ => none) (Redis.Keyspace.empty : MemoryKeyspace) := fun _ => rfl
  have hlifetime : (0 : Int) < 86400 := by decide
  have hstrings := (MemoryKeyspace.holdsStrings_setex hempty 0 (makeKey "a:b" "c") hlifetime (.int 1)).2
  have hget : Ends (servingRedis (fun b => b.toNat) 0) (keyspace [("a:b", "c", .int 1)])
      (EphemeralMemoryCache.get "a" "b:c") _ _ := ends_get hstrings (unexpired _)
  rw [hkey, Function.update_self] at hget
  obtain ⟨hreply, -⟩ := hends.unique (hget.map EphemeralReply.value)
  obtain rfl : reply = .value (some (.int 1)) := Except.ok.inj hreply
  have hnothing : memory [("a:b", "c", .int 1)] "a" "b:c" = none := FlatMap.write_of_ne (by decide) _
  have hfound : some (.int 1) = memory [("a:b", "c", .int 1)] "a" "b:c" := hreplies
  rw [hnothing] at hfound
  cases hfound

end AgentRuntime
