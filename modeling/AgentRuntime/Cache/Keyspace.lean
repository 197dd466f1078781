import AgentRuntime.Cache.Glob
import AgentRuntime.Cache.Redis
import Mathlib.Data.List.DropRight
import Mathlib.Data.List.Range

/-!
# Strings and lists under keys that can be found

The commands of Redis on a store whose values are strings and lists, and on the names of the keys: a
`Keyspace` also lists them, so that `SCAN` can go through them. A list never becomes empty; its key is
removed with its last element. A command on a value of the other kind is refused and changes nothing.
-/

namespace Redis

/-- What can be stored under a key. -/
inductive Value (S : Type) where
  | string (s : S)
  | list (xs : List S)
  deriving DecidableEq, Repr

variable {S V : Type}

def wrongType : String := "WRONGTYPE Operation against a key holding the wrong kind of value"

/-- `GET key`. -/
def getString (now : Nat) (key : String) (store : Store (Value S)) : Except String (Option S) :=
  match get now key store with
  | none => .ok none
  | some (.string s) => .ok (some s)
  | some (.list _) => .error wrongType

/-- The list of the key, which is empty if it is not there. -/
def listOf (now : Nat) (key : String) (store : Store (Value S)) : Except String (List S) :=
  match get now key store with
  | none => .ok []
  | some (.list xs) => .ok xs
  | some (.string _) => .error wrongType

/-- The elements between two indices, both included; a negative index counts from the end. -/
def range (start stop : Int) (xs : List S) : List S :=
  let index (i : Int) : Int := if i < 0 then i + xs.length else i
  let first := max 0 (index start)
  (xs.drop first.toNat).take (index stop - first + 1).toNat

/-- The list of the key is replaced; its expiry stays. -/
def putList (now : Nat) (key : String) (xs : List S) (store : Store (Value S)) : Store (Value S) :=
  Function.update store key
    (if xs.isEmpty then none else some ⟨.list xs, (lookup now key store).bind Entry.expireAt⟩)

/-- `RPUSH key x`. -/
def rpush (now : Nat) (key : String) (x : S) (store : Store (Value S)) :
    Except String Unit × Store (Value S) :=
  match listOf now key store with
  | .error e => (.error e, store)
  | .ok xs => (.ok (), putList now key (xs ++ [x]) store)

/-- `LTRIM key start stop`. -/
def ltrim (now : Nat) (key : String) (start stop : Int) (store : Store (Value S)) :
    Except String Unit × Store (Value S) :=
  match listOf now key store with
  | .error e => (.error e, store)
  | .ok xs => (.ok (), putList now key (range start stop xs) store)

/-- `DEL key …`: the keys that are there are removed and counted. -/
def del (now : Nat) (keys : List String) (store : Store V) : Nat × Store V :=
  ((keys.dedup.filter fun key => (lookup now key store).isSome).length,
    fun key => if key ∈ keys then none else store key)

/-- `EXPIRE key seconds` for one key after another. -/
def expireAll (now : Nat) (seconds : Int) : List String → Store V → Store V
  | [], store => store
  | key :: keys, store => expireAll now seconds keys (expire now key seconds store)

/-- What `EXPIRE` makes of what is stored under its key. -/
def expireEntry (now : Nat) (seconds : Int) (entry : Option (Entry V)) : Option (Entry V) :=
  match entry.filter fun entry => entry.Alive now with
  | none => entry
  | some entry =>
    if seconds ≤ 0 then none else some { entry with expireAt := some (now + seconds.toNat * 1000) }

/-- What is stored under the key has not expired. -/
def Unexpired (now : Nat) (key : String) (store : Store V) : Prop :=
  ∀ entry, store key = some entry → entry.Alive now

/-- Where no lifetime has passed, what is stored is what is found. -/
theorem Unexpired.lookup_eq {now : Nat} {key : String} {store : Store V} (h : Unexpired now key store) :
    lookup now key store = store key := by
  cases hentry : store key with
  | none =>
    refine lookup_eq_none.2 fun entry hsome => ?_
    rw [hentry] at hsome
    cases hsome
  | some entry => exact lookup_eq_some.2 ⟨hentry, h entry hentry⟩

section
variable {now : Nat} {key key' : String} {store : Store (Value S)}

/-- The last elements, for an index that counts them from the end. -/
theorem range_last {count : Nat} (hcount : 0 < count) (xs : List S) :
    range (-count) (-1) xs = xs.rtake count := by
  have hfirst : (max 0 (-(count : Int) + xs.length)).toNat = xs.length - count := by omega
  have hlast : xs.length - (xs.length - count) ≤
      (-1 + (xs.length : Int) - max 0 (-(count : Int) + xs.length) + 1).toNat := by omega
  have hcounts : -(count : Int) < 0 := by omega
  simp only [range, if_pos hcounts, hfirst, List.rtake]
  exact List.take_of_length_le (by simpa using hlast)

/-- All elements. Zero does not count from the end. -/
theorem range_all (xs : List S) : range 0 (-1) xs = xs := by
  have hfirst : (max 0 (0 : Int)).toNat = 0 := rfl
  have hlength : xs.length ≤ (-1 + (xs.length : Int) - max 0 0 + 1).toNat := by omega
  simp only [range, Int.reduceNeg, Int.reduceLT, if_true, if_false, hfirst]
  exact List.take_of_length_le hlength

/-- Writing a list changes no other key. -/
@[simp] theorem putList_of_ne (h : key' ≠ key) (xs : List S) :
    putList now key xs store key' = store key' := Function.update_of_ne h _ _

/-- The list that is put is found. -/
theorem listOf_putList (xs : List S) : listOf now key (putList now key xs store) = .ok xs := by
  cases xs with
  | nil =>
    have hnone : lookup now key (putList now key [] store) = none :=
      lookup_eq_none.2 fun entry hentry => by
        rw [putList, Function.update_self] at hentry
        cases hentry
    rw [listOf, get, hnone]
    rfl
  | cons x xs =>
    have halive : Entry.Alive now
        ⟨Value.list (x :: xs), (lookup now key store).bind Entry.expireAt⟩ := by
      intro t ht
      obtain ⟨entry, hentry, ht⟩ := Option.bind_eq_some_iff.1 ht
      exact (lookup_eq_some.1 hentry).2 t ht
    have hsome : lookup now key (putList now key (x :: xs) store) =
        some ⟨.list (x :: xs), (lookup now key store).bind Entry.expireAt⟩ :=
      lookup_eq_some.2 ⟨Function.update_self .., halive⟩
    rw [listOf, get, hsome]
    rfl

/-- A list that an element was pushed to can be trimmed. -/
theorem fst_ltrim_rpush (x : S) (start stop : Int) :
    (ltrim now key start stop (rpush now key x store).2).1 = (rpush now key x store).1 := by
  cases hlist : listOf now key store with
  | error e => simp only [rpush, ltrim, hlist]
  | ok xs => simp only [rpush, ltrim, hlist, listOf_putList]

/-- Nothing is pushed to what is not a list. -/
theorem rpush_of_error {x : S} {e : String} (h : (rpush now key x store).1 = .error e)
    (start stop : Int) : (ltrim now key start stop (rpush now key x store).2).2 = store := by
  cases hlist : listOf now key store with
  | error e => simp only [rpush, ltrim, hlist]
  | ok xs =>
    simp only [rpush, hlist] at h
    cases h

/-- Appending to a list changes no other key. -/
@[simp] theorem rpush_of_ne (h : key' ≠ key) (x : S) :
    (rpush now key x store).2 key' = store key' := by
  unfold rpush
  split
  · rfl
  · exact putList_of_ne h _

/-- Trimming a list changes no other key. -/
@[simp] theorem ltrim_of_ne (h : key' ≠ key) (start stop : Int) :
    (ltrim now key start stop store).2 key' = store key' := by
  unfold ltrim
  split
  · rfl
  · exact putList_of_ne h _

end

section
variable {now : Nat} {seconds : Int}

/-- Under its own key, `EXPIRE` does to the entry what it does to one. -/
theorem expire_self (key : String) (store : Store V) :
    expire now key seconds store key = expireEntry now seconds (store key) := by
  unfold expire expireEntry lookup
  cases (store key).filter fun entry => entry.Alive now with
  | none => rfl
  | some entry => exact Function.update_self ..

/-- An expiry gives no key an entry. -/
theorem isSome_of_expire {key key' : String} {store : Store V}
    (h : (expire now key seconds store key').isSome = true) : (store key').isSome = true := by
  by_cases hkey : key' = key
  · subst hkey
    cases hentry : store key' with
    | none =>
      rw [expire_self, hentry] at h
      cases h
    | some entry => rfl
  · rwa [expire_of_ne hkey] at h

/-- An expiry that is set again is the same. -/
theorem expireEntry_expireEntry (entry : Option (Entry V)) :
    expireEntry now seconds (expireEntry now seconds entry) = expireEntry now seconds entry := by
  cases hentry : entry.filter fun entry => entry.Alive now with
  | none =>
    have hsame : expireEntry now seconds entry = entry := by rw [expireEntry, hentry]
    rw [hsame, hsame]
  | some alive =>
    by_cases hseconds : seconds ≤ 0
    · have hnone : expireEntry now seconds entry = none := by
        rw [expireEntry, hentry]
        exact if_pos hseconds
      rw [hnone]
      rfl
    · have hsome : expireEntry now seconds entry =
          some { alive with expireAt := some (now + seconds.toNat * 1000) } := by
        rw [expireEntry, hentry]
        exact if_neg hseconds
      have halive : Entry.Alive now { alive with expireAt := some (now + seconds.toNat * 1000) } := by
        intro t ht
        obtain rfl := Option.some.inj ht
        exact Nat.le_add_right now _
      rw [hsome, expireEntry, Option.filter_some, if_pos (decide_eq_true halive)]
      exact if_neg hseconds

/-- Other keys stay as they are. -/
theorem expireAll_of_not_mem {key : String} {keys : List String} (h : key ∉ keys) (store : Store V) :
    expireAll now seconds keys store key = store key := by
  induction keys generalizing store with
  | nil => rfl
  | cons key' keys ih =>
    rw [List.mem_cons, not_or] at h
    rw [expireAll, ih h.2, expire_of_ne h.1]

/-- The keys that are given an expiry. -/
theorem expireAll_of_mem {key : String} {keys : List String} (h : key ∈ keys) (store : Store V) :
    expireAll now seconds keys store key = expireEntry now seconds (store key) := by
  induction keys generalizing store with
  | nil => cases h
  | cons key' keys ih =>
    rw [expireAll]
    by_cases hkey : key' = key
    · subst hkey
      by_cases hmem : key' ∈ keys
      · rw [ih hmem, expire_self, expireEntry_expireEntry]
      · rw [expireAll_of_not_mem hmem, expire_self]
    · rw [ih ((List.mem_cons.1 h).resolve_left (Ne.symm hkey)), expire_of_ne (Ne.symm hkey)]

end

/-! ## What is held under a key -/

/-- What is stored under the key, if anything is, satisfies `P`, expired or not. -/
def Holds (P : V → Prop) (key : String) (store : Store V) : Prop :=
  ∀ entry, store key = some entry → P entry.value

/-- A list of such elements, and not the empty one. -/
def ListOf (Q : S → Prop) (value : Value S) : Prop :=
  ∃ xs, value = .list xs ∧ xs ≠ [] ∧ ∀ x ∈ xs, Q x

/-- A string of that kind. -/
def StringOf (Q : S → Prop) (value : Value S) : Prop := ∃ s, value = .string s ∧ Q s

namespace Holds

section
variable {P : V → Prop} {now : Nat} {key key' : String} {store store' : Store V}

/-- What holds of an entry depends on that entry alone. -/
theorem of_eq (h : Holds P key store) (hsame : store' key = store key) : Holds P key store' := by
  intro entry hentry
  exact h entry (hsame ▸ hentry)

/-- A value that was set is what is held. -/
theorem set_self {value : V} (hvalue : P value) (lifetime : Option Nat) :
    Holds P key (Redis.set now key value lifetime store) := by
  intro entry hentry
  rw [Redis.set, Function.update_self] at hentry
  obtain rfl := Option.some.inj hentry
  exact hvalue

/-- A delete leaves nothing, or what was held. -/
theorem del (h : Holds P key store) (now : Nat) (keys : List String) :
    Holds P key (Redis.del now keys store).2 := by
  intro entry hentry
  dsimp only [Redis.del] at hentry
  split at hentry
  · cases hentry
  · exact h entry hentry

/-- An expiry changes no value. -/
theorem expire (h : Holds P key store) (seconds : Int) :
    Holds P key (Redis.expire now key' seconds store) := by
  by_cases hkey : key = key'
  · subst hkey
    intro entry hentry
    rw [expire_self, expireEntry] at hentry
    cases halive : (store key).filter fun entry => entry.Alive now with
    | none =>
      rw [halive] at hentry
      exact h entry hentry
    | some found =>
      rw [halive] at hentry
      dsimp only at hentry
      split at hentry
      · cases hentry
      · obtain rfl := Option.some.inj hentry
        exact h found (Option.filter_eq_some_iff.1 halive).1
  · exact h.of_eq (expire_of_ne hkey _)

end

section
variable {Q : S → Prop} {now : Nat} {key : String} {store : Store (Value S)}

/-- The string that is read is of its kind. -/
theorem getString_eq (h : Holds (StringOf Q) key store) :
    ∃ s, getString now key store = .ok s ∧ ∀ s' ∈ s, Q s' := by
  unfold getString get
  cases hlookup : lookup now key store with
  | none => exact ⟨none, rfl, nofun⟩
  | some entry =>
    obtain ⟨s, hvalue, hs⟩ := h entry (lookup_eq_some.1 hlookup).1
    refine ⟨some s, ?_, fun s' hs' => Option.some.inj hs' ▸ hs⟩
    rw [Option.map_some, hvalue]

/-- The list that is read consists of such elements, and is empty only if there is none. -/
theorem listOf_eq (h : Holds (ListOf Q) key store) :
    ∃ xs, listOf now key store = .ok xs ∧ (xs = [] ↔ lookup now key store = none) ∧ ∀ x ∈ xs, Q x := by
  unfold listOf get
  cases hlookup : lookup now key store with
  | none => exact ⟨[], rfl, iff_of_true rfl rfl, nofun⟩
  | some entry =>
    obtain ⟨xs, hvalue, hne, hxs⟩ := h entry (lookup_eq_some.1 hlookup).1
    refine ⟨xs, ?_, iff_of_false hne nofun, hxs⟩
    rw [Option.map_some, hvalue]

/-- A list whose elements satisfy `Q` can be written, and an empty one leaves nothing. -/
theorem putList {xs : List S} (hxs : ∀ x ∈ xs, Q x) : Holds (ListOf Q) key (putList now key xs store) := by
  intro entry hentry
  rw [Redis.putList, Function.update_self] at hentry
  split at hentry
  · cases hentry
  · next hne =>
    obtain rfl := Option.some.inj hentry
    exact ⟨xs, rfl, fun hnil => hne (hnil ▸ rfl), hxs⟩

/-- A list of elements that satisfy `Q` stays one when such an element is appended. -/
theorem rpush (h : Holds (ListOf Q) key store) {x : S} (hx : Q x) :
    Holds (ListOf Q) key (rpush now key x store).2 := by
  obtain ⟨xs, hlist, -, hxs⟩ := h.listOf_eq
  rw [Redis.rpush, hlist]
  refine putList fun x' hx' => ?_
  rcases List.mem_append.1 hx' with hx' | hx'
  · exact hxs x' hx'
  · rwa [List.mem_singleton.1 hx']

/-- It also stays one when it is trimmed, unless nothing is left of it. -/
theorem ltrim (h : Holds (ListOf Q) key store) (start stop : Int) :
    Holds (ListOf Q) key (ltrim now key start stop store).2 := by
  obtain ⟨xs, hlist, -, hxs⟩ := h.listOf_eq
  rw [Redis.ltrim, hlist]
  exact putList fun x hx => hxs x (List.mem_of_mem_drop (List.mem_of_mem_take hx))

end

end Holds

/-! ## Stores that agree on some keys -/

/-- Two stores hold the same under the keys. -/
def Agree (K : String → Prop) (store store' : Store V) : Prop := ∀ key, K key → store key = store' key

namespace Agree

variable {K : String → Prop} {now : Nat} {key : String}

section
variable {store store' : Store V}

/-- Where stores agree, the same is found. -/
theorem lookup_eq (h : Agree K store store') (hkey : K key) :
    lookup now key store = lookup now key store' := by
  unfold lookup
  rw [h key hkey]

/-- Stores that agree still do after the same value was set in both, under whatever key. -/
theorem set (h : Agree K store store') (value : V) (lifetime : Option Nat) :
    Agree K (set now key value lifetime store) (Redis.set now key value lifetime store') := by
  intro key' hkey'
  by_cases heq : key' = key
  · rw [heq, Redis.set, Redis.set, Function.update_self, Function.update_self]
  · rw [set_of_ne heq, set_of_ne heq, h key' hkey']

/-- They still agree after the same lifetime was given to a key. -/
theorem expire (h : Agree K store store') (hkey : K key) (seconds : Int) :
    Agree K (expire now key seconds store) (Redis.expire now key seconds store') := by
  intro key' hkey'
  by_cases heq : key' = key
  · rw [heq, expire_self, expire_self, h key hkey]
  · rw [expire_of_ne heq, expire_of_ne heq, h key' hkey']

end

section
variable {store store' : Store (Value S)}

/-- Where stores agree, the same string is read. -/
theorem getString_eq (h : Agree K store store') (hkey : K key) :
    getString now key store = getString now key store' := by
  unfold getString get
  rw [h.lookup_eq hkey]

/-- The same list is read. -/
theorem listOf_eq (h : Agree K store store') (hkey : K key) :
    listOf now key store = listOf now key store' := by
  unfold listOf get
  rw [h.lookup_eq hkey]

/-- Stores that agree still do after the same list was written. -/
theorem putList (h : Agree K store store') (hkey : K key) (xs : List S) :
    Agree K (putList now key xs store) (Redis.putList now key xs store') := by
  intro key' hkey'
  by_cases heq : key' = key
  · rw [heq, Redis.putList, Redis.putList, Function.update_self, Function.update_self, h.lookup_eq hkey]
  · rw [putList_of_ne heq, putList_of_ne heq, h key' hkey']

/-- Appending answers the same length on both, and they still agree. -/
theorem rpush (h : Agree K store store') (now : Nat) (hkey : K key) (x : S) :
    (rpush now key x store).1 = (Redis.rpush now key x store').1 ∧
      Agree K (Redis.rpush now key x store).2 (Redis.rpush now key x store').2 := by
  unfold Redis.rpush
  rw [h.listOf_eq hkey]
  cases listOf now key store' with
  | error e => exact ⟨rfl, h⟩
  | ok xs => exact ⟨rfl, h.putList hkey _⟩

/-- So does trimming. -/
theorem ltrim (h : Agree K store store') (now : Nat) (hkey : K key) (start stop : Int) :
    (ltrim now key start stop store).1 = (Redis.ltrim now key start stop store').1 ∧
      Agree K (Redis.ltrim now key start stop store).2 (Redis.ltrim now key start stop store').2 := by
  unfold Redis.ltrim
  rw [h.listOf_eq hkey]
  cases listOf now key store' with
  | error e => exact ⟨rfl, h⟩
  | ok xs => exact ⟨rfl, h.putList hkey _⟩

end

end Agree

/-! ## Keyspaces -/

/-- A store, and the names under which something is stored. -/
structure Keyspace (V : Type) where
  store : Store V
  keys : List String
  mem_keys : ∀ key, (store key).isSome = true → key ∈ keys

namespace Keyspace

/-- Nothing is stored. -/
def empty : Keyspace V := ⟨fun _ => none, [], nofun⟩

/-- Another store, in which only the key may have become one. -/
def put (self : Keyspace V) (key : String) (store : Store V)
    (h : ∀ key', key' ≠ key → store key' = self.store key') : Keyspace V where
  store
  keys := key :: self.keys
  mem_keys key' hkey' := by
    by_cases heq : key' = key
    · exact heq ▸ List.mem_cons_self
    · exact List.mem_cons_of_mem key (self.mem_keys key' (h key' heq ▸ hkey'))

/-- Another store, with no key that was not there. -/
def restrict (self : Keyspace V) (store : Store V)
    (h : ∀ key, (store key).isSome = true → (self.store key).isSome = true) : Keyspace V where
  store
  keys := self.keys
  mem_keys key hkey := self.mem_keys key (h key hkey)

/-- The keys that are alive and match the pattern, as `SCAN` goes through them. It may come by a key more
than once. -/
def scan (code : UInt8 → Int) (now : Nat) (pattern : String) (self : Keyspace V) : List String :=
  self.keys.filter fun key =>
    (lookup now key self.store).isSome && Glob.globMatches code pattern key

/-- A scan finds the keys that have an entry which has not expired, and that the pattern matches. -/
theorem mem_scan {code : UInt8 → Int} {now : Nat} {pattern key : String} {self : Keyspace V} :
    key ∈ self.scan code now pattern ↔
      (lookup now key self.store).isSome = true ∧ Glob.globMatches code pattern key = true := by
  rw [scan, List.mem_filter, Bool.and_eq_true]
  constructor
  · exact And.right
  · intro h
    obtain ⟨entry, hentry⟩ := Option.isSome_iff_exists.1 h.1
    exact ⟨self.mem_keys key (by rw [(lookup_eq_some.1 hentry).1]; rfl), h⟩

end Keyspace

end Redis
