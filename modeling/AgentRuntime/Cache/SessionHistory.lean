import AgentRuntime.Cache.SessionMemoryCache
import AgentRuntime.Interaction.BigStep
import AgentRuntime.Python.Slices

/-!
# The conversation of a session as a bounded log

`append_to_history` adds to the end of a list and cuts it down to its last 100 entries; `get_all_history` and
`get_recent_history` read all of it and its last entries. An index of Redis counts from the end if it is
negative, and zero is not: `readsLog_iff` says that the last entries are what is read exactly if some are asked
for or there are none.
-/

namespace Redis

variable {S : Type} {now : Nat} {key : String} {xs : List S} {store : Store (Value S)}

/-- The list is stored under the key, or nothing if it is empty. -/
def HoldsList (key : String) (xs : List S) (store : Store (Value S)) : Prop :=
  (store key).map Entry.value = if xs.isEmpty then none else some (.list xs)

/-- The list that is stored is found, unless it has expired. -/
theorem HoldsList.listOf_eq (h : HoldsList key xs store) (hunexpired : Unexpired now key store) :
    listOf now key store = .ok xs := by
  unfold HoldsList at h
  rw [listOf, get, hunexpired.lookup_eq, h]
  cases xs with
  | nil => rfl
  | cons x xs => rfl

/-- A list that was written is the list that is held. -/
theorem holdsList_putList (xs : List S) : HoldsList key xs (putList now key xs store) := by
  unfold HoldsList putList
  rw [Function.update_self]
  cases xs with
  | nil => rfl
  | cons x xs => rfl

/-- A lifetime that does not end at once leaves the list. -/
theorem HoldsList.expire {seconds : Int} (h : HoldsList key xs store) (hseconds : 0 < seconds) :
    HoldsList key xs (expire now key seconds store) := by
  unfold HoldsList
  rw [expire_self, expireEntry]
  cases hentry : (store key).filter fun entry => entry.Alive now with
  | none => exact h
  | some entry =>
    obtain ⟨hstored, -⟩ := Option.filter_eq_some_iff.1 hentry
    unfold HoldsList at h
    rw [hstored] at h
    dsimp only
    rw [if_neg (Int.not_le.2 hseconds)]
    exact h

end Redis

namespace AgentRuntime

open Interaction SessionMemoryCache Proc

namespace MemoryKeyspace

variable {now : Nat} {key : String} {xs : List Json} {self : MemoryKeyspace}

/-- An entry is added to the end of the list that is found, of which the last ones stay. -/
theorem holdsList_append (h : Redis.listOf now key self.store = .ok xs) (entry : Json) {count : Nat}
    (hcount : 0 < count) {seconds : Int} (hseconds : 0 < seconds) :
    Redis.HoldsList key ((xs ++ [entry]).rtake count) (self.append now key entry count seconds).2.store := by
  have hpushed : (Redis.rpush now key entry self.store).2 =
      Redis.putList now key (xs ++ [entry]) self.store := by
    rw [Redis.rpush, h]
  have htrimmed : (Redis.ltrim now key (-count) (-1) (Redis.rpush now key entry self.store).2).2 =
      Redis.putList now key ((xs ++ [entry]).rtake count) (Redis.rpush now key entry self.store).2 := by
    rw [Redis.ltrim, hpushed, Redis.listOf_putList]
    dsimp only
    rw [Redis.range_last hcount]
  have hholds : Redis.HoldsList key ((xs ++ [entry]).rtake count) (Redis.putList now key
      ((xs ++ [entry]).rtake count) (Redis.rpush now key entry self.store).2) :=
    Redis.holdsList_putList _
  rw [← htrimmed] at hholds
  exact hholds.expire hseconds

end MemoryKeyspace

/-- `max_entries`, by default. -/
def SessionMemoryCache.defaultMaxEntries : Nat := 100

/-- The entries were appended to the conversation of the session, one by one, each before the list expired.
What happens to other keys in between does not matter. -/
inductive Appended (code : UInt8 → Int) (cache : SessionMemoryCache) (sessionId : String)
    (initial : MemoryKeyspace) : List Json → MemoryKeyspace → Prop
  | nil : Appended code cache sessionId initial [] initial
  | concat {entries : List Json} {self self' : MemoryKeyspace} (entry : Json) (ttl : Option Int) (now : Nat)
      (refuses : MemoryCall → Option PyError) (h : Appended code cache sessionId initial entries self)
      (hunexpired : Redis.Unexpired now (makeListKey sessionId) self.store) (hlifetime : 0 < cache.lifetime ttl)
      (hreturns : Ends (MemoryKeyspace.env code now refuses noOutside) self
        (cache.appendToHistory sessionId entry defaultMaxEntries ttl) (.ok true) self') :
      Appended code cache sessionId initial (entries ++ [entry]) self'
  | other {entries : List Json} {self self' : MemoryKeyspace}
      (h : Appended code cache sessionId initial entries self)
      (hsame : self'.store (makeListKey sessionId) = self.store (makeListKey sessionId)) :
      Appended code cache sessionId initial entries self'

/-- All of the history is the last 100 of the entries, and its recent part the last ones of these. -/
def ReadsLog (code : UInt8 → Int) (now : Nat) (refuses : MemoryCall → Option PyError) (self : MemoryKeyspace)
    (sessionId : String) (limit : Nat) (entries : List Json) : Prop :=
  Ends (MemoryKeyspace.env code now refuses noOutside) self (getAllHistory sessionId)
      (.ok (entries.rtake defaultMaxEntries)) self ∧
    Ends (MemoryKeyspace.env code now refuses noOutside) self (getRecentHistory sessionId limit)
      (.ok (entries.rtake (min limit defaultMaxEntries))) self

section
variable {code : UInt8 → Int} {cache : SessionMemoryCache} {sessionId : String} {limit now : Nat}
  {refuses : MemoryCall → Option PyError} {entries : List Json} {initial self self' : MemoryKeyspace}

/-- What an append that returned true has done. -/
theorem state_of_appendToHistory {entry : Json} {ttl : Option Int}
    (h : Ends (MemoryKeyspace.env code now refuses noOutside) self
      (cache.appendToHistory sessionId entry defaultMaxEntries ttl) (.ok true) self') :
    self' = (self.append now (makeListKey sessionId) entry defaultMaxEntries (cache.lifetime ttl)).2 := by
  unfold Ends at h
  rw [on_appendToHistory, Prog.exec_call, Prog.exec_ret] at h
  obtain ⟨hresult, hstate⟩ := h
  dsimp only [MemoryKeyspace.env] at hresult hstate
  cases hrefused : refuses (.append (makeListKey sessionId) entry defaultMaxEntries (cache.lifetime ttl)) with
  | some e =>
    rw [hrefused] at hresult
    cases hresult
  | none =>
    rw [hrefused] at hstate
    exact hstate.symm

/-- The last 100 entries are stored. -/
theorem Appended.holdsList (h : Appended code cache sessionId initial entries self)
    (hfresh : initial.store (makeListKey sessionId) = none) :
    Redis.HoldsList (makeListKey sessionId) (entries.rtake defaultMaxEntries) self.store := by
  induction h with
  | nil =>
    unfold Redis.HoldsList
    rw [hfresh]
    rfl
  | concat entry ttl now refuses _ hunexpired hlifetime hreturns ih =>
    have hcount : 0 < defaultMaxEntries := by decide
    rw [state_of_appendToHistory hreturns, ← List.rtake_concat_of_rtake hcount]
    exact MemoryKeyspace.holdsList_append (ih.listOf_eq hunexpired) entry hcount hlifetime
  | other _ hsame ih =>
    unfold Redis.HoldsList
    rw [hsame]
    exact ih

/-- What is read between two indices of a list that is stored. -/
theorem env_lrange {xs : List Json} (hlist : Redis.listOf now (makeListKey sessionId) self.store = .ok xs)
    {start stop : Int} (hserved : refuses (.lrange (makeListKey sessionId) start stop) = none) :
    MemoryKeyspace.env code now refuses noOutside (.lrange (makeListKey sessionId) start stop) self =
      (.ok (Redis.range start stop xs), self) := by
  dsimp only [MemoryKeyspace.env]
  rw [hserved, hlist]
  rfl

/-- The whole conversation is the stored list. -/
theorem ends_getAllHistory {xs : List Json}
    (hlist : Redis.listOf now (makeListKey sessionId) self.store = .ok xs)
    (hserved : refuses (.lrange (makeListKey sessionId) 0 (-1)) = none) :
    Ends (MemoryKeyspace.env code now refuses noOutside) self (getAllHistory sessionId) (.ok xs) self := by
  unfold Ends
  rw [on_getAllHistory, Prog.exec_call, Prog.exec_ret, env_lrange hlist hserved, Redis.range_all]
  exact ⟨rfl, rfl⟩

/-- The recent conversation is the end of that list; a limit of zero gives all of it, since `-0` is the first
position. -/
theorem ends_getRecentHistory {xs : List Json}
    (hlist : Redis.listOf now (makeListKey sessionId) self.store = .ok xs)
    (hserved : refuses (.lrange (makeListKey sessionId) (-limit) (-1)) = none) :
    Ends (MemoryKeyspace.env code now refuses noOutside) self (getRecentHistory sessionId limit)
      (.ok (if limit = 0 then xs else xs.rtake limit)) self := by
  unfold Ends
  rw [on_getRecentHistory, Prog.exec_call, Prog.exec_ret, env_lrange hlist hserved]
  by_cases hzero : limit = 0
  · subst hzero
    have hindex : -((0 : Nat) : Int) = 0 := rfl
    rw [if_pos rfl, hindex, Redis.range_all]
    exact ⟨rfl, rfl⟩
  · rw [if_neg hzero, Redis.range_last (Nat.pos_of_ne_zero hzero)]
    exact ⟨rfl, rfl⟩

end

/-- **What was appended is read back exactly if some entries are asked for or none was appended.** The range
from `-limit` on is that of the last entries, and from zero on that of all. -/
theorem readsLog_iff {code : UInt8 → Int} {cache : SessionMemoryCache} {sessionId : String}
    {entries : List Json} {initial self : MemoryKeyspace} (hfresh : initial.store (makeListKey sessionId) = none)
    (hrun : Appended code cache sessionId initial entries self) {now : Nat}
    (hunexpired : Redis.Unexpired now (makeListKey sessionId) self.store)
    {refuses : MemoryCall → Option PyError}
    (hserved : ∀ start stop, refuses (.lrange (makeListKey sessionId) start stop) = none) (limit : Nat) :
    ReadsLog code now refuses self sessionId limit entries ↔ limit ≠ 0 ∨ entries = [] := by
  have hlist := (hrun.holdsList hfresh).listOf_eq hunexpired
  have hall : Ends (MemoryKeyspace.env code now refuses noOutside) self (getAllHistory sessionId)
      (.ok (entries.rtake defaultMaxEntries)) self := ends_getAllHistory hlist (hserved 0 (-1))
  have hrecent : Ends (MemoryKeyspace.env code now refuses noOutside) self (getRecentHistory sessionId limit)
      (.ok (if limit = 0 then entries.rtake defaultMaxEntries else
        (entries.rtake defaultMaxEntries).rtake limit)) self :=
    ends_getRecentHistory hlist (hserved (-limit) (-1))
  have hread : ReadsLog code now refuses self sessionId limit entries ↔
      (if limit = 0 then entries.rtake defaultMaxEntries else (entries.rtake defaultMaxEntries).rtake limit) =
        entries.rtake (min limit defaultMaxEntries) := by
    constructor
    · rintro ⟨-, h⟩
      exact Except.ok.inj (hrecent.unique h).1
    · intro heq
      exact ⟨hall, heq ▸ hrecent⟩
  rw [hread]
  by_cases hzero : limit = 0
  · have hnothing : entries.rtake defaultMaxEntries = [] ↔ entries = [] :=
      List.rtake_eq_nil_iff.trans (or_iff_right (by decide))
    rw [if_pos hzero, hzero, Nat.zero_min, List.rtake_zero, hnothing]
    exact (or_iff_right fun h => h rfl).symm
  · rw [if_neg hzero, List.rtake_rtake]
    exact iff_of_true rfl (.inl hzero)

/-! ## A log of three entries -/

namespace ThreeEntries

/-- Redis refuses nothing. -/
def serves : MemoryCall → Option PyError := fun _ => none

/-- The keyspace after an entry is appended to the conversation of a session. -/
def append (keyspace : MemoryKeyspace) (now : Nat) (entry : Json) : MemoryKeyspace :=
  (MemoryKeyspace.append now keyspace (makeListKey "session-1") entry defaultMaxEntries 604800).2

def entries : List Json := [.int 1, .str "two", .int 3]

/-- The three entries are appended, a second after one another. -/
def keyspace : MemoryKeyspace :=
  append (append (append .empty 0 (.int 1)) 1000 (.str "two")) 2000 (.int 3)

/-- A list that expires later has not expired. -/
theorem unexpired_of_store {self : MemoryKeyspace} {xs : List Json} {expiry now : Nat}
    (h : self.store (makeListKey "session-1") = some ⟨.list xs, some expiry⟩) (hnow : now ≤ expiry) :
    Redis.Unexpired now (makeListKey "session-1") self.store := by
  intro entry hentry t ht
  obtain rfl := Option.some.inj (h.symm.trans hentry)
  obtain rfl := Option.some.inj ht
  exact hnow

/-- The sample's messages, appended one after the other. -/
theorem appended : Appended (fun _ => 0) {} "session-1" .empty entries keyspace := by
  have hfirst : Appended (fun _ => 0) {} "session-1" .empty [.int 1] (append .empty 0 (.int 1)) :=
    .concat (.int 1) none 0 serves .nil nofun (by decide) ⟨rfl, rfl⟩
  have hsecond : Appended (fun _ => 0) {} "session-1" .empty [.int 1, .str "two"]
      (append (append .empty 0 (.int 1)) 1000 (.str "two")) :=
    .concat (.str "two") none 1000 serves hfirst (unexpired_of_store rfl (by decide)) (by decide) ⟨rfl, rfl⟩
  exact .concat (.int 3) none 2000 serves hsecond (unexpired_of_store rfl (by decide)) (by decide) ⟨rfl, rfl⟩

/-- The list has not expired when it is read. -/
theorem unexpired : Redis.Unexpired 3000 (makeListKey "session-1") keyspace.store :=
  unexpired_of_store rfl (by decide)

end ThreeEntries

/-- The last two of the entries are read back where two are asked for. -/
theorem readsLog_two :
    ReadsLog (fun _ => 0) 3000 ThreeEntries.serves ThreeEntries.keyspace "session-1" 2 ThreeEntries.entries :=
  (readsLog_iff rfl ThreeEntries.appended ThreeEntries.unexpired (fun _ _ => rfl) 2).2 (.inl (by decide))

/-- All entries are read where none is asked for. -/
theorem not_readsLog_zero :
    ¬∀ (entries : List Json) (self : MemoryKeyspace) (limit : Nat),
      Appended (fun _ => 0) {} "session-1" .empty entries self →
        Redis.Unexpired 3000 (makeListKey "session-1") self.store →
          ReadsLog (fun _ => 0) 3000 ThreeEntries.serves self "session-1" limit entries := by
  intro h
  obtain ⟨-, hrecent⟩ := h ThreeEntries.entries ThreeEntries.keyspace 0 ThreeEntries.appended ThreeEntries.unexpired
  have hall : Ends (MemoryKeyspace.env (fun _ => 0) 3000 ThreeEntries.serves noOutside) ThreeEntries.keyspace
      (getRecentHistory "session-1" 0) (.ok ThreeEntries.entries) ThreeEntries.keyspace := ⟨rfl, rfl⟩
  cases (hall.unique hrecent).1

end AgentRuntime
