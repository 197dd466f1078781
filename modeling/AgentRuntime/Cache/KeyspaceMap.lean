import AgentRuntime.Cache.Keyspace

/-!
# Stores under another spelling

No command looks into a string that is stored. So where every string of one store is spelled in another way in a
second one, a command leaves the two alike and finds in the one what the other's spells: one lemma for each
command, on a store and on a keyspace.
-/

namespace Redis

variable {S T V W : Type}

/-- The same entry with another value. -/
def Entry.map (f : V → W) (entry : Entry V) : Entry W := ⟨f entry.value, entry.expireAt⟩

/-- Each string of the value in another spelling. -/
def Value.map (f : S → T) : Value S → Value T
  | .string s => .string (f s)
  | .list xs => .list (xs.map f)

/-- All strings of the value are of a kind. -/
def Value.All (Q : S → Prop) : Value S → Prop
  | .string s => Q s
  | .list xs => ∀ x ∈ xs, Q x

/-- The same store with other values. -/
def mapStore (f : V → W) (store : Store V) : Store W := fun key => (store key).map (Entry.map f)

section
variable {now : Nat} {key : String} {f : V → W} {store : Store V}

/-- What is found in a translated store is the translation of what is found. -/
theorem lookup_mapStore : lookup now key (mapStore f store) = (lookup now key store).map (Entry.map f) := by
  unfold lookup mapStore
  cases store key with
  | none => rfl
  | some entry =>
    have halive : decide ((entry.map f).Alive now) = decide (entry.Alive now) := decide_eq_decide.2 Iff.rfl
    rw [Option.map_some, Option.filter_some, Option.filter_some, halive]
    split <;> rfl

/-- What is read from it is the translation of what is read. -/
theorem get_mapStore : get now key (mapStore f store) = (get now key store).map f := by
  rw [get, lookup_mapStore, get, Option.map_map, Option.map_map]
  rfl

/-- A translated entry that is put into a translated store gives the translation of the new store. -/
theorem update_mapStore (entry : Option (Entry V)) :
    Function.update (mapStore f store) key (entry.map (Entry.map f)) =
      mapStore f (Function.update store key entry) := by
  funext key'
  by_cases hkey : key' = key
  · rw [hkey, Function.update_self, mapStore, Function.update_self]
  · rw [Function.update_of_ne hkey, mapStore, mapStore, Function.update_of_ne hkey]

/-- Setting a value commutes with the translation. -/
theorem set_mapStore (value : V) (lifetime : Option Nat) :
    set now key (f value) lifetime (mapStore f store) = mapStore f (set now key value lifetime store) :=
  update_mapStore (some ⟨value, lifetime.map fun ms => now + ms⟩)

/-- Giving a lifetime commutes with the translation, which sees no times. -/
theorem expire_mapStore (seconds : Int) :
    expire now key seconds (mapStore f store) = mapStore f (expire now key seconds store) := by
  unfold expire
  rw [lookup_mapStore]
  cases lookup now key store with
  | none => rfl
  | some entry =>
    dsimp only [Option.map_some]
    rw [← update_mapStore]
    split <;> rfl

/-- A delete answers the same number, and leaves the translation of what it leaves. -/
theorem del_mapStore (keys : List String) :
    del now keys (mapStore f store) = ((del now keys store).1, mapStore f (del now keys store).2) := by
  refine Prod.ext ?_ (funext fun key => ?_)
  · dsimp only [del]
    simp only [lookup_mapStore, Option.isSome_map]
  · dsimp only [del, mapStore]
    split <;> rfl

end

section
variable {now : Nat} {key : String} {f : S → T} {store : Store (Value S)}

/-- Reading a string commutes with the translation: types do not change. -/
theorem getString_mapStore :
    getString now key (mapStore (Value.map f) store) = (getString now key store).map (Option.map f) := by
  unfold getString
  rw [get_mapStore]
  cases get now key store with
  | none => rfl
  | some value => cases value <;> rfl

/-- So does reading a list. -/
theorem listOf_mapStore :
    listOf now key (mapStore (Value.map f) store) = (listOf now key store).map (List.map f) := by
  unfold listOf
  rw [get_mapStore]
  cases get now key store with
  | none => rfl
  | some value => cases value <;> rfl

/-- A range of a list is taken by positions alone. -/
theorem range_map (start stop : Int) (xs : List S) : range start stop (xs.map f) = (range start stop xs).map f := by
  simp only [range, List.length_map, List.map_take, List.map_drop]

/-- Writing a list commutes with the translation. -/
theorem putList_mapStore (xs : List S) :
    putList now key (xs.map f) (mapStore (Value.map f) store) = mapStore (Value.map f) (putList now key xs store) := by
  rw [putList, putList, ← update_mapStore, lookup_mapStore]
  cases xs with
  | nil => rfl
  | cons x xs => cases lookup now key store <;> rfl

/-- Appending answers the same length and commutes with the translation. -/
theorem rpush_mapStore (x : S) :
    rpush now key (f x) (mapStore (Value.map f) store) =
      ((rpush now key x store).1, mapStore (Value.map f) (rpush now key x store).2) := by
  unfold rpush
  rw [listOf_mapStore]
  cases listOf now key store with
  | error e => rfl
  | ok xs =>
    have happend : xs.map f ++ [f x] = (xs ++ [x]).map f := by rw [List.map_append, List.map_singleton]
    dsimp only [Except.map]
    rw [happend, putList_mapStore]

/-- Trimming answers the same and commutes with the translation. -/
theorem ltrim_mapStore (start stop : Int) :
    ltrim now key start stop (mapStore (Value.map f) store) =
      ((ltrim now key start stop store).1, mapStore (Value.map f) (ltrim now key start stop store).2) := by
  unfold ltrim
  rw [listOf_mapStore]
  cases listOf now key store with
  | error e => rfl
  | ok xs =>
    dsimp only [Except.map]
    rw [range_map, putList_mapStore]

end

/-! ## Strings of a kind -/

namespace Holds

variable {Q : S → Prop} {now : Nat} {key key' : String} {store : Store (Value S)}

/-- A value that satisfies `P` can be set under any key. -/
theorem set {V : Type} {P : V → Prop} {store : Store V} (h : Holds P key store) {value : V} (hvalue : P value)
    (lifetime : Option Nat) : Holds P key (Redis.set now key' value lifetime store) := by
  by_cases hkey : key = key'
  · subst hkey
    exact set_self hvalue lifetime
  · exact h.of_eq (set_of_ne hkey value lifetime)

/-- The string that is found is of the kind. -/
theorem of_getString (h : Holds (Value.All Q) key store) {s : S}
    (hget : getString now key store = .ok (some s)) : Q s := by
  unfold getString get at hget
  cases hlookup : lookup now key store with
  | none =>
    rw [hlookup] at hget
    cases hget
  | some entry =>
    have hall := h entry (lookup_eq_some.1 hlookup).1
    rw [hlookup, Option.map_some] at hget
    cases hvalue : entry.value with
    | string s' =>
      rw [hvalue] at hget hall
      cases hget
      exact hall
    | list xs =>
      rw [hvalue] at hget
      cases hget

/-- So are the elements of the list that is found. -/
theorem of_listOf (h : Holds (Value.All Q) key store) {xs : List S} (hlist : listOf now key store = .ok xs) :
    ∀ x ∈ xs, Q x := by
  unfold listOf get at hlist
  cases hlookup : lookup now key store with
  | none =>
    rw [hlookup] at hlist
    cases hlist
    exact nofun
  | some entry =>
    have hall := h entry (lookup_eq_some.1 hlookup).1
    rw [hlookup, Option.map_some] at hlist
    cases hvalue : entry.value with
    | string s =>
      rw [hvalue] at hlist
      cases hlist
    | list xs' =>
      rw [hvalue] at hlist hall
      cases hlist
      exact hall

/-- A list whose elements satisfy `Q` can be written under any key. -/
theorem all_putList (h : Holds (Value.All Q) key store) {xs : List S} (hxs : ∀ x ∈ xs, Q x) :
    Holds (Value.All Q) key (Redis.putList now key' xs store) := by
  by_cases hkey : key = key'
  · subst hkey
    intro entry hentry
    rw [Redis.putList, Function.update_self] at hentry
    split at hentry
    · cases hentry
    · obtain rfl := Option.some.inj hentry
      exact hxs
  · exact h.of_eq (putList_of_ne hkey xs)

/-- Where all elements satisfy `Q`, so they do after another that does was appended. -/
theorem all_rpush (h : ∀ key, Holds (Value.All Q) key store) {x : S} (hx : Q x) (key : String) :
    Holds (Value.All Q) key (Redis.rpush now key' x store).2 := by
  unfold Redis.rpush
  cases hlist : Redis.listOf now key' store with
  | error e => exact h key
  | ok xs =>
    refine all_putList (h key) fun x' hx' => ?_
    rcases List.mem_append.1 hx' with hx' | hx'
    · exact (h key').of_listOf hlist x' hx'
    · exact List.mem_singleton.1 hx' ▸ hx

/-- They do after a list was trimmed. -/
theorem all_ltrim (h : ∀ key, Holds (Value.All Q) key store) (start stop : Int) (key : String) :
    Holds (Value.All Q) key (Redis.ltrim now key' start stop store).2 := by
  unfold Redis.ltrim
  cases hlist : Redis.listOf now key' store with
  | error e => exact h key
  | ok xs =>
    refine all_putList (h key) fun x hx => ?_
    exact (h key').of_listOf hlist x (List.mem_of_mem_drop (List.mem_of_mem_take hx))

end Holds

/-! ## Commands on keyspaces -/

namespace Keyspace

section
variable (now : Nat) (key : String)

/-- `SETEX key seconds s`. -/
def setex (seconds : Int) (s : S) (self : Keyspace (Value S)) : Except String Unit × Keyspace (Value S) :=
  if seconds ≤ 0 then (.error "invalid expire time in 'setex' command", self)
  else
    (.ok (), self.put key (Redis.set now key (.string s) (some (seconds.toNat * 1000)) self.store)
      fun _ h => Redis.set_of_ne h _ _)

/-- `RPUSH`, `LTRIM` to the last elements, and `EXPIRE` in a transaction, which goes on after a command that is
refused. -/
def append (x : S) (maxEntries seconds : Int) (self : Keyspace (Value S)) :
    Except String Unit × Keyspace (Value S) :=
  let pushed := Redis.rpush now key x self.store
  let trimmed := Redis.ltrim now key (-maxEntries) (-1) pushed.2
  (pushed.1 >>= fun _ => trimmed.1,
    self.put key (Redis.expire now key seconds trimmed.2) fun _ h => by
      simp only [Redis.expire_of_ne h, trimmed, Redis.ltrim_of_ne h, pushed, Redis.rpush_of_ne h])

/-- `DEL key …`. -/
def delete (keys : List String) (self : Keyspace V) : Nat × Keyspace V :=
  ((Redis.del now keys self.store).1, self.restrict (Redis.del now keys self.store).2 fun key h => by
    by_cases hmem : key ∈ keys
    · simp [Redis.del, hmem] at h
    · simpa [Redis.del, hmem] using h)

/-- `EXPIRE key seconds`. -/
def expire (seconds : Int) (self : Keyspace V) : Keyspace V :=
  self.put key (Redis.expire now key seconds self.store) fun _ h => Redis.expire_of_ne h _

end

/-- The same keyspace with other values. -/
def map (f : V → W) (keyspace : Keyspace V) : Keyspace W where
  store := mapStore f keyspace.store
  keys := keyspace.keys
  mem_keys key h := keyspace.mem_keys key (by rwa [mapStore, Option.isSome_map] at h)

/-- Keyspaces are equal by what they hold and list. -/
theorem ext_of_eq {self other : Keyspace V} (hstore : self.store = other.store) (hkeys : self.keys = other.keys) :
    self = other := by
  cases self
  cases other
  cases hstore
  cases hkeys
  rfl

section
variable {now : Nat} {key : String} {seconds : Int}

/-- A scan looks at keys, which are not translated. -/
theorem scan_map {f : V → W} {keyspace : Keyspace V} {code : UInt8 → Int} {pattern : String} :
    (keyspace.map f).scan code now pattern = keyspace.scan code now pattern := by
  unfold scan
  refine List.filter_congr fun key _ => ?_
  rw [map, lookup_mapStore, Option.isSome_map]

/-- A delete commutes with the translation of the keyspace. -/
theorem delete_map {f : V → W} {keyspace : Keyspace V} (keys : List String) :
    (keyspace.map f).delete now keys = ((keyspace.delete now keys).1, (keyspace.delete now keys).2.map f) := by
  have hdel : del now keys (keyspace.map f).store =
      ((del now keys keyspace.store).1, mapStore f (del now keys keyspace.store).2) := del_mapStore keys
  refine Prod.ext ?_ (ext_of_eq ?_ rfl)
  · dsimp only [delete]
    rw [hdel]
  · dsimp only [delete, restrict]
    rw [hdel]
    rfl

/-- So does a new lifetime. -/
theorem expire_map {f : V → W} {keyspace : Keyspace V} :
    (keyspace.map f).expire now key seconds = (keyspace.expire now key seconds).map f :=
  ext_of_eq (expire_mapStore seconds) rfl

variable {f : S → T} {keyspace : Keyspace (Value S)}

/-- Setting a string with a lifetime commutes with the translation of strings. -/
theorem setex_map (s : S) :
    (keyspace.map (Value.map f)).setex now key seconds (f s) =
      ((keyspace.setex now key seconds s).1, (keyspace.setex now key seconds s).2.map (Value.map f)) := by
  unfold setex
  split
  · rfl
  · exact Prod.ext rfl (ext_of_eq (set_mapStore (Value.string s) _) rfl)

/-- The pipeline that appends to a list, trims it and gives it a lifetime commutes with the translation too,
so it answers the same. -/
theorem append_map (x : S) (maxEntries : Int) :
    (keyspace.map (Value.map f)).append now key (f x) maxEntries seconds =
      ((keyspace.append now key x maxEntries seconds).1,
        (keyspace.append now key x maxEntries seconds).2.map (Value.map f)) := by
  have hpushed : rpush now key (f x) (keyspace.map (Value.map f)).store =
      ((rpush now key x keyspace.store).1, mapStore (Value.map f) (rpush now key x keyspace.store).2) :=
    rpush_mapStore x
  refine Prod.ext ?_ (ext_of_eq ?_ rfl)
  · dsimp only [append]
    rw [hpushed, ltrim_mapStore]
  · dsimp only [append, put]
    rw [hpushed, ltrim_mapStore, expire_mapStore]
    rfl

end

section
variable {Q : S → Prop} {now : Nat} {key : String} {seconds : Int} {keyspace : Keyspace (Value S)}

/-- All strings that are stored are of a kind. -/
def Strings (Q : S → Prop) (keyspace : Keyspace (Value S)) : Prop :=
  ∀ key, Holds (Value.All Q) key keyspace.store

/-- If all stored strings satisfy `Q` and so does a new one, they all do after it was set. -/
theorem strings_setex (h : keyspace.Strings Q) {s : S} (hs : Q s) :
    (keyspace.setex now key seconds s).2.Strings Q := by
  intro key'
  unfold setex
  split
  · exact h key'
  · have hvalue : Value.All Q (.string s) := hs
    exact (h key').set hvalue _

/-- The same of a new element of a list. -/
theorem strings_append (h : keyspace.Strings Q) {x : S} (hx : Q x) (maxEntries : Int) :
    (keyspace.append now key x maxEntries seconds).2.Strings Q := by
  intro key'
  exact (Holds.all_ltrim (Holds.all_rpush h hx) _ _ key').expire seconds

/-- A delete stores no string. -/
theorem strings_delete (h : keyspace.Strings Q) (keys : List String) : (keyspace.delete now keys).2.Strings Q :=
  fun key' => (h key').del now keys

/-- A new lifetime stores no string either. -/
theorem strings_expire (h : keyspace.Strings Q) : (keyspace.expire now key seconds).Strings Q :=
  fun key' => (h key').expire seconds

end

end Keyspace

end Redis
