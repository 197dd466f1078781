import AgentRuntime.Cache.SessionMemoryCache
import AgentRuntime.Interaction.BigStep
import AgentRuntime.Python.Replace

/-!
# The ephemeral memory cache

`EphemeralMemoryCache` (`app/infrastructure/cache/memory_cache.py`): the values of a run, each as JSON under a
key that is built from the run's identifier and a name. The keys of a run are found again by a pattern, and
their names by removing what they begin with. An exception of Redis is taken for a value that is not there, or
for a write that failed. Then the cache against strings in Redis that do not expire.
-/

namespace AgentRuntime

open Interaction Proc

/-- Redis cache for ephemeral (per-run) memory. -/
structure EphemeralMemoryCache where
  defaultTtl : Int := 86400

namespace EphemeralMemoryCache

variable (self : EphemeralMemoryCache) (runId key : String)

/-- `KEY_PREFIX:run_id:`. -/
def keyStem : String := s!"memory:ephemeral:{runId}:"

/-- Create Redis key for ephemeral memory. -/
def makeKey : String := s!"memory:ephemeral:{runId}:{key}"

/-- The pattern of the keys of a run. -/
def pattern : String := s!"memory:ephemeral:{runId}:*"

/-- `ttl or self._default_ttl`. -/
def lifetime (ttl : Option Int) : Int := (ttl.filter (· ≠ 0)).getD self.defaultTtl

/-- Set a value in ephemeral memory. -/
def set (value : Json) (ttl : Option Int) : MemoryService Bool :=
  tryCatch
    (do
      Proc.tryCall (.setex (makeKey runId key) (self.lifetime ttl) value) id
      return true)
    fun _ => return false

/-- Get a value from ephemeral memory. -/
def get : MemoryService (Option Json) :=
  tryCatch (Proc.tryCall (.get (makeKey runId key)) id) fun _ => return none

/-- Delete a key from ephemeral memory. -/
def delete : MemoryService Bool :=
  tryCatch
    (do
      let result ← Proc.tryCall (.delete [makeKey runId key]) id
      return 0 < result)
    fun _ => return false

/-- Clear all ephemeral memory for a run. -/
def clearRun : MemoryService Nat :=
  tryCatch
    (do
      let keys ← Proc.tryCall (.scan (pattern runId)) id
      if keys ≠ [] then Proc.tryCall (.delete keys) id else return 0)
    fun _ => return 0

/-- `key.replace(f"{KEY_PREFIX}:{run_id}:", "")`. -/
def shortKey : String := String.ofList (replace (keyStem runId).toList [] key.toList)

/-- The values of one key after another. -/
def collect : List String → Dict → MemoryService Dict
  | [], result => return result
  | key :: keys, result => do
    match ← Proc.tryCall (.get key) id with
    | none => collect keys result
    | some value => collect keys (result.set (shortKey runId key) value)

/-- Get all ephemeral memory for a run. -/
def getAll : MemoryService Dict :=
  tryCatch
    (do
      let keys ← Proc.tryCall (.scan (pattern runId)) id
      collect runId keys [])
    fun _ => return []

/-! ## Keys -/

variable {runId key}

/-- The key of an entry is the stem of its run, and then the name. -/
theorem makeKey_eq (runId key : String) : makeKey runId key = keyStem runId ++ key := rfl

/-- Within one run, different names have different keys. -/
theorem makeKey_inj {key' : String} (h : makeKey runId key = makeKey runId key') : key = key' := by
  rw [makeKey_eq, makeKey_eq] at h
  have hlists := congrArg String.toList h
  rw [String.toList_append, String.toList_append] at hlists
  exact String.toList_injective (List.append_cancel_left hlists)

/-- The name is found again if it does not contain what the key begins with. -/
theorem shortKey_makeKey (h : ¬(keyStem runId).toList <:+: key.toList) :
    shortKey runId (makeKey runId key) = key := by
  have hstem : (keyStem runId).toList ≠ [] := by
    have hkey : keyStem runId = "memory:ephemeral:" ++ (runId ++ ":") := String.append_assoc ..
    rw [hkey, String.toList_append]
    exact List.append_ne_nil_of_left_ne_nil (by decide) _
  rw [shortKey, makeKey_eq, String.toList_append, replace_append hstem, List.nil_append,
    replace_of_not_infix _ h, String.ofList_toList]

end EphemeralMemoryCache

end AgentRuntime

/-! ## Strings that do not expire -/

namespace Redis

variable {S : Type} {now : Nat} {flat : String → Option S} {keyspace : Keyspace (Value S)}

/-- The strings are stored, and nothing else. -/
def HoldsStrings (flat : String → Option S) (keyspace : Keyspace (Value S)) : Prop :=
  ∀ key, (keyspace.store key).map Entry.value = (flat key).map Value.string

namespace HoldsStrings

variable (h : HoldsStrings flat keyspace) (hunexpired : ∀ key, Unexpired now key keyspace.store)
  (key : String)
include h hunexpired

/-- Reading a key gives the string that is stored under it. -/
theorem get_eq : get now key keyspace.store = (flat key).map Value.string := by
  rw [get, (hunexpired key).lookup_eq, h]

/-- A key of the cache never has a value of another type, so it is read without an error. -/
theorem getString_eq : getString now key keyspace.store = .ok (flat key) := by
  rw [getString, h.get_eq hunexpired]
  cases flat key with
  | none => rfl
  | some s => rfl

/-- A key has an entry that has not expired exactly if a string is stored under it. -/
theorem isSome_lookup : (lookup now key keyspace.store).isSome = (flat key).isSome := by
  have hget := congrArg Option.isSome (h.get_eq hunexpired key)
  rwa [get, Option.isSome_map, Option.isSome_map] at hget

/-- A scan finds the stored keys that match the pattern. -/
theorem mem_scan_iff (code : UInt8 → Int) (pattern : String) :
    key ∈ keyspace.scan code now pattern ↔
      (flat key).isSome = true ∧ Glob.globMatches code pattern key = true := by
  rw [Keyspace.mem_scan, h.isSome_lookup hunexpired]

end HoldsStrings

end Redis

namespace AgentRuntime.MemoryKeyspace

open Redis

variable {flat : String → Option Json} {self : MemoryKeyspace}

/-- A value that is set with a positive lifetime stands under its key, and nothing else changes. -/
theorem holdsStrings_setex (h : HoldsStrings flat self) (now : Nat) (key : String) {seconds : Int}
    (hseconds : 0 < seconds) (value : Json) :
    (self.setex now key seconds value).1 = .ok () ∧
      HoldsStrings (Function.update flat key (some value)) (self.setex now key seconds value).2 := by
  rw [setex, if_neg (Int.not_le.2 hseconds)]
  refine ⟨rfl, fun key' => ?_⟩
  dsimp only [Keyspace.put]
  by_cases hkey : key' = key
  · subst hkey
    rw [Redis.set, Function.update_self, Function.update_self]
    rfl
  · rw [Redis.set_of_ne hkey, Function.update_of_ne hkey, h]

/-- A delete removes the values under the keys that it is given. -/
theorem holdsStrings_delete (h : HoldsStrings flat self) (now : Nat) (keys : List String) :
    HoldsStrings (fun key => if key ∈ keys then none else flat key) (self.delete now keys).2 := by
  intro key
  dsimp only [delete, Keyspace.restrict, Redis.del]
  by_cases hkey : key ∈ keys
  · rw [if_pos hkey, if_pos hkey]
    rfl
  · rw [if_neg hkey, if_neg hkey, h]

/-- As many keys are removed as are there. -/
theorem fst_delete (h : HoldsStrings flat self) {now : Nat} (hunexpired : ∀ key, Unexpired now key self.store)
    (keys : List String) :
    (self.delete now keys).1 = (keys.dedup.filter fun key => (flat key).isSome).length := by
  dsimp only [delete, Redis.del]
  simp only [h.isSome_lookup hunexpired]

end AgentRuntime.MemoryKeyspace
