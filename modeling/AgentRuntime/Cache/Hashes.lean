import AgentRuntime.Cache.Keyspace
import Mathlib.Algebra.Group.Int.Defs
import Mathlib.Data.List.AList
import Mathlib.Data.Rat.Defs

/-!
# Hashes with numbers

The commands of Redis on hashes whose fields hold texts of numbers. A field that is written keeps the
expiry of its hash, and a hash that is not there is made of the field alone, without expiry.
-/

namespace Redis

/-- The text of a number, that of an integer or that of a fraction. -/
inductive Numeral where
  | int (n : Int)
  | float (q : Rat)
  deriving DecidableEq

/-- The number. -/
def Numeral.value : Numeral → Rat
  | .int n => n
  | .float q => q

/-- The value of an integer. -/
@[simp] theorem Numeral.value_int (n : Int) : (Numeral.int n).value = n := rfl

/-- The value of a float. -/
@[simp] theorem Numeral.value_float (q : Rat) : (Numeral.float q).value = q := rfl

/-- The fields of a key. -/
abbrev Hash := AList fun _ : String => Numeral

/-- The fields after `values` were written, one after another. -/
def Hash.write (values : List (String × Numeral)) (fields : Hash) : Hash :=
  values.foldl (fun fields v => fields.insert v.1 v.2) fields

/-- `HSET key field value …`. -/
def hset (now : Nat) (key : String) (values : List (String × Numeral)) (store : Store Hash) : Store Hash :=
  let entry := (lookup now key store).getD ⟨∅, none⟩
  Function.update store key (some { entry with value := entry.value.write values })

/-- `HGETALL key`: a key that is not there has no fields. -/
def hgetall (now : Nat) (key : String) (store : Store Hash) : Hash := (get now key store).getD ∅

/-- `HGET key field`. -/
def hget (now : Nat) (key field : String) (store : Store Hash) : Option Numeral :=
  (hgetall now key store).lookup field

/-- The integers of 64 bits. -/
def Fits (n : Int) : Prop := -2 ^ 63 ≤ n ∧ n < 2 ^ 63

instance (n : Int) : Decidable (Fits n) := inferInstanceAs (Decidable (_ ∧ _))

/-- `HINCRBY key field delta`: a field that is not there is zero. -/
def hincrBy (now : Nat) (key field : String) (delta : Int) (store : Store Hash) :
    Except String Int × Store Hash :=
  if Fits delta then
    match (hget now key field store).getD (.int 0) with
    | .int n =>
      if ¬Fits n then (.error "hash value is not an integer", store)
      else if ¬Fits (n + delta) then (.error "increment or decrement would overflow", store)
      else (.ok (n + delta), hset now key [(field, .int (n + delta))] store)
    | .float _ => (.error "hash value is not an integer", store)
  else (.error "value is not an integer or out of range", store)

section
variable {now : Nat} {key : String} {store : Store Hash}

/-- The fields of a stored hash. -/
theorem hgetall_of_lookup {entry : Entry Hash} (h : lookup now key store = some entry) :
    hgetall now key store = entry.value := by
  rw [hgetall, get, h]
  rfl

/-- A key without hash has no fields. -/
theorem hgetall_of_none (h : lookup now key store = none) : hgetall now key store = ∅ := by
  rw [hgetall, get, h]
  rfl

/-- What is written is found, with the fields and the expiry that were there. -/
theorem lookup_hset (values : List (String × Numeral)) : lookup now key (hset now key values store) =
    some { (lookup now key store).getD ⟨∅, none⟩ with
      value := (hgetall now key store).write values } := by
  cases hentry : lookup now key store with
  | none =>
    rw [hgetall_of_none hentry, lookup_eq_some, hset, hentry, Function.update_self]
    exact ⟨rfl, nofun⟩
  | some entry =>
    rw [hgetall_of_lookup hentry, lookup_eq_some, hset, hentry, Function.update_self]
    exact ⟨rfl, (lookup_eq_some.1 hentry).2⟩

/-- A key whose fields were set has a hash that has not expired. -/
@[simp] theorem isSome_lookup_hset (values : List (String × Numeral)) :
    (lookup now key (hset now key values store)).isSome := by
  rw [lookup_hset]
  rfl

/-- The fields after a `HSET` are those before it with the written ones in their place. -/
@[simp] theorem hgetall_hset (values : List (String × Numeral)) :
    hgetall now key (hset now key values store) = (hgetall now key store).write values :=
  hgetall_of_lookup (lookup_hset values)

/-- An increment is refused, and nothing changes, or the field is written. -/
theorem hincrBy_cases (now : Nat) (key field : String) (delta : Int) (store : Store Hash) :
    (∃ e, hincrBy now key field delta store = (.error e, store)) ∨
      ∃ n, (hget now key field store).getD (.int 0) = .int n ∧ Fits delta ∧
        hincrBy now key field delta store =
          (.ok (n + delta), hset now key [(field, .int (n + delta))] store) := by
  unfold hincrBy
  split_ifs with hdelta
  · cases hfield : (hget now key field store).getD (.int 0) with
    | float q => exact .inl ⟨_, rfl⟩
    | int n =>
      by_cases hn : Fits n
      · by_cases hsum : Fits (n + delta)
        · exact .inr ⟨n, rfl, hdelta, by simp only [hn, hsum, not_true, if_false]⟩
        · exact .inl ⟨_, by simp only [hn, hsum, not_true, not_false_iff, if_false, if_true]; rfl⟩
      · exact .inl ⟨_, by simp only [hn, not_false_iff, if_true]; rfl⟩
  · exact .inl ⟨_, rfl⟩

/-- A key that is not there is made by an increment. -/
theorem hincrBy_of_none {field : String} {delta : Int} (h : lookup now key store = none)
    (hdelta : Fits delta) : hincrBy now key field delta store =
      (.ok delta, hset now key [(field, .int delta)] store) := by
  have hfield : (hget now key field store).getD (.int 0) = .int 0 := by
    rw [hget, hgetall_of_none h]
    rfl
  have hzero : Fits 0 := by decide
  simp only [hincrBy, hfield, Int.zero_add, hdelta, hzero, not_true, if_false, if_true]

end

section
variable {V : Type} {now : Nat} {key : String} {store : Store V}

/-- What is there after `EXPIRE`. -/
theorem lookup_expire (seconds : Int) : lookup now key (expire now key seconds store) =
    if seconds ≤ 0 then none else (lookup now key store).map fun entry =>
      { entry with expireAt := some (now + seconds.toNat * 1000) } := by
  cases hentry : lookup now key store with
  | none =>
    rw [expire, hentry]
    simp only [hentry, Option.map_none, ite_self]
  | some entry =>
    simp only [expire, hentry, Option.map_some]
    split_ifs
    · refine lookup_eq_none.2 fun entry h => ?_
      rw [Function.update_self] at h
      cases h
    · refine lookup_eq_some.2 ⟨Function.update_self .., fun t ht => ?_⟩
      obtain rfl := Option.some.inj ht
      exact Nat.le_add_right now _

/-- A key that was deleted has no hash. -/
@[simp] theorem lookup_del : lookup now key (del now [key] store).2 = none :=
  lookup_eq_none.2 fun entry h => by simp [del] at h

/-- What is there later was there before. -/
theorem lookup_later {now' : Nat} (hle : now ≤ now') {entry : Entry V}
    (h : lookup now' key store = some entry) : lookup now key store = some entry := by
  obtain ⟨hentry, halive⟩ := lookup_eq_some.1 h
  exact lookup_eq_some.2 ⟨hentry, Entry.alive_of_le halive hle⟩

end

end Redis
