import Mathlib.Logic.Function.Basic
import Mathlib.Tactic.Common

/-!
# A key-value store with expiry

The commands of Redis on string values, each atomic, at a time in milliseconds. An entry is alive up to
and including the millisecond that it expires at; a command does not see an entry that is not alive,
which is left in the store until the key is written again. A counter is the integer that its string
spells.
-/

namespace Redis

/-- A value, and the last millisecond that it is alive in, if it expires. -/
structure Entry (V : Type) where
  value : V
  expireAt : Option Nat := none
  deriving DecidableEq, Repr

/-- What is stored under each key. -/
abbrev Store (V : Type) := String → Option (Entry V)

variable {V : Type}

/-- The entry has not expired. -/
def Entry.Alive (now : Nat) (entry : Entry V) : Prop := ∀ t ∈ entry.expireAt, now ≤ t

instance (now : Nat) (entry : Entry V) : Decidable (entry.Alive now) :=
  match h : entry.expireAt with
  | none => .isTrue (by simp [Entry.Alive, h])
  | some t => decidable_of_iff (now ≤ t) (by simp [Entry.Alive, h])

/-- The entry of the key, if it is alive. -/
def lookup (now : Nat) (key : String) (store : Store V) : Option (Entry V) :=
  (store key).filter fun entry => entry.Alive now

/-- `GET key`. -/
def get (now : Nat) (key : String) (store : Store V) : Option V :=
  (lookup now key store).map Entry.value

/-- `PTTL key`: the milliseconds left, `-1` without expiry and `-2` without entry. -/
def pttl (now : Nat) (key : String) (store : Store V) : Int :=
  match lookup now key store with
  | none => -2
  | some entry =>
    match entry.expireAt with
    | none => -1
    | some t => t - now

/-- `SET key value`, with `PX` or `EX` if a lifetime in milliseconds is given. -/
def set (now : Nat) (key : String) (value : V) (lifetime : Option Nat) (store : Store V) : Store V :=
  Function.update store key (some ⟨value, lifetime.map fun ms => now + ms⟩)

/-- `EXPIRE key seconds`. -/
def expire (now : Nat) (key : String) (seconds : Int) (store : Store V) : Store V :=
  match lookup now key store with
  | none => store
  | some entry =>
    Function.update store key
      (if seconds ≤ 0 then none else some { entry with expireAt := some (now + seconds.toNat * 1000) })

/-- `INCRBY key delta`: a counter that is not there is zero, and does not expire. -/
def incrBy (now : Nat) (key : String) (delta : Int) (store : Store Int) : Int × Store Int :=
  let entry := (lookup now key store).getD ⟨0, none⟩
  (entry.value + delta, Function.update store key (some { entry with value := entry.value + delta }))

/-- The value of a counter. -/
def counter (now : Nat) (key : String) (store : Store Int) : Int := (get now key store).getD 0

section
variable {now : Nat} {key : String} {store : Store V} {entry : Entry V}

/-- An entry is found exactly if it is stored and has not expired. -/
theorem lookup_eq_some : lookup now key store = some entry ↔ store key = some entry ∧ entry.Alive now := by
  simp [lookup, Option.filter_eq_some_iff]

/-- Nothing is found exactly if every entry that is stored has expired. -/
theorem lookup_eq_none : lookup now key store = none ↔ ∀ entry, store key = some entry →
    ¬entry.Alive now := by
  simp [lookup, Option.filter_eq_none_iff]

/-- An entry that has not expired at a time had not expired before. -/
theorem Entry.alive_of_le {t : Nat} (h : entry.Alive t) (hle : now ≤ t) : entry.Alive now :=
  fun t' ht' => Nat.le_trans hle (h t' ht')

/-- A value that was set is found, with the expiry that its lifetime gives. -/
@[simp] theorem lookup_set (value : V) (lifetime : Option Nat) :
    lookup now key (set now key value lifetime store) =
      some ⟨value, lifetime.map fun ms => now + ms⟩ := by
  rw [lookup_eq_some, set, Function.update_self]
  refine ⟨rfl, fun t ht => ?_⟩
  obtain ⟨ms, -, rfl⟩ := Option.map_eq_some_iff.1 ht
  exact Nat.le_add_right now ms

/-- Setting a value changes no other key. -/
@[simp] theorem set_of_ne {key' : String} (h : key' ≠ key) (value : V) (lifetime : Option Nat) :
    set now key value lifetime store key' = store key' := Function.update_of_ne h _ _

/-- A new lifetime changes no other key. -/
@[simp] theorem expire_of_ne {key' : String} (h : key' ≠ key) (seconds : Int) :
    expire now key seconds store key' = store key' := by
  unfold expire
  cases lookup now key store with
  | none => rfl
  | some entry => exact Function.update_of_ne h _ _

/-- Setting an expiry does not change the value. -/
@[simp] theorem get_expire {seconds : Int} (hseconds : 0 < seconds) :
    get now key (expire now key seconds store) = get now key store := by
  unfold expire
  cases hentry : lookup now key store with
  | none => rfl
  | some entry =>
    have halive : Entry.Alive now { entry with expireAt := some (now + seconds.toNat * 1000) } := by
      intro t ht
      obtain rfl := Option.some.inj ht
      exact Nat.le_add_right now _
    have hlookup : lookup now key (Function.update store key
        (some { entry with expireAt := some (now + seconds.toNat * 1000) })) =
          some { entry with expireAt := some (now + seconds.toNat * 1000) } :=
      lookup_eq_some.2 ⟨Function.update_self .., halive⟩
    simp only [if_neg (Int.not_le.2 hseconds), get, hlookup, hentry, Option.map_some]

end

section
variable {now : Nat} {key : String} {store : Store Int}

/-- An increment changes no other key. -/
@[simp] theorem incrBy_of_ne {key' : String} (h : key' ≠ key) (delta : Int) :
    (incrBy now key delta store).2 key' = store key' := Function.update_of_ne h _ _

/-- A counter goes on from its entry, and keeps its expiry. -/
theorem lookup_incrBy (delta : Int) : lookup now key (incrBy now key delta store).2 =
    some { (lookup now key store).getD ⟨0, none⟩ with
      value := ((lookup now key store).getD ⟨0, none⟩).value + delta } := by
  refine lookup_eq_some.2 ⟨Function.update_self .., ?_⟩
  cases hentry : lookup now key store with
  | none => exact nofun
  | some entry => exact (lookup_eq_some.1 hentry).2

/-- A counter that is not there counts zero. -/
theorem counter_eq : counter now key store = ((lookup now key store).getD ⟨0, none⟩).value := by
  unfold counter get
  cases lookup now key store <;> rfl

/-- A counter depends on its own entry alone. -/
theorem counter_congr {store' : Store Int} (h : store' key = store key) :
    counter now key store' = counter now key store := by
  unfold counter get lookup
  rw [h]

/-- An increment answers the new count. -/
@[simp] theorem fst_incrBy (delta : Int) :
    (incrBy now key delta store).1 = counter now key store + delta := by
  rw [counter_eq]
  rfl

/-- It is the count that is found afterwards. -/
@[simp] theorem counter_incrBy (delta : Int) :
    counter now key (incrBy now key delta store).2 = counter now key store + delta := by
  rw [counter_eq, lookup_incrBy, counter_eq]
  rfl

/-- A positive lifetime leaves the count as it is. -/
@[simp] theorem counter_expire {seconds : Int} (hseconds : 0 < seconds) :
    counter now key (expire now key seconds store) = counter now key store := by
  rw [counter, get_expire hseconds, counter]

/-- A counter that is counted and given an expiry. -/
theorem expire_incrBy {seconds : Int} (hseconds : 0 < seconds) (delta : Int) :
    expire now key seconds (incrBy now key delta store).2 key =
      some ⟨counter now key store + delta, some (now + seconds.toNat * 1000)⟩ := by
  rw [expire, lookup_incrBy]
  simp only [if_neg (Int.not_le.2 hseconds), Function.update_self, counter_eq]

/-- A counter stays as long as its entry is alive. -/
theorem counter_later {now' : Nat} (hle : now ≤ now')
    (halive : ∀ entry, store key = some entry → entry.Alive now') :
    counter now' key store = counter now key store := by
  have hlookup {t : Nat} (ht : t ≤ now') : lookup t key store = store key := by
    cases hentry : store key with
    | none => exact lookup_eq_none.2 fun entry h => by cases hentry.symm.trans h
    | some entry => exact lookup_eq_some.2 ⟨hentry, Entry.alive_of_le (halive entry hentry) ht⟩
  rw [counter_eq, counter_eq, hlookup Nat.le.refl, hlookup hle]

end

end Redis
