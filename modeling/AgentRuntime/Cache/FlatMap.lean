import Mathlib.Logic.Function.Basic
import Mathlib.Tactic.Common

/-!
# Maps of maps in a flat map

A map from regions to maps from names to values is kept in one map, under keys that are made of the region and
the name. `Represents` says that the flat map has the values of the nested one and no others. The keys need not
tell all regions and names apart: an operation keeps the relation if they tell what it acts on apart from what
is there.
-/

namespace FlatMap

variable {R K Key V : Type}

/-- What is under the names of each region. -/
abbrev Nested (R K V : Type) := R → K → Option V

/-- Something else, or nothing, is under the name. -/
def write [DecidableEq R] [DecidableEq K] (nested : Nested R K V) (r : R) (k : K) (x : Option V) : Nested R K V :=
  Function.update nested r (Function.update (nested r) k x)

/-- Nothing is left in the region. -/
def clear [DecidableEq R] (nested : Nested R K V) (r : R) : Nested R K V :=
  Function.update nested r fun _ => none

/-- Nothing else that is there has the key of the name. -/
def Alone (encode : R → K → Key) (nested : Nested R K V) (r : R) (k : K) : Prop :=
  ∀ r' k', (nested r' k').isSome = true → encode r' k' = encode r k → r' = r ∧ k' = k

/-- The flat map has the values of the nested one, each under a key of its own, and no others. -/
structure Represents (encode : R → K → Key) (flat : Key → Option V) (nested : Nested R K V) : Prop where
  stored : ∀ {r k v}, nested r k = some v → flat (encode r k) = some v
  owned : ∀ {key v}, flat key = some v → ∃ r k, encode r k = key ∧ nested r k = some v
  alone : ∀ {r k}, (nested r k).isSome = true → Alone encode nested r k

variable {encode : R → K → Key} {flat : Key → Option V} {nested : Nested R K V} {r r' : R} {k k' : K}

/-- What was written under two keys is read there. -/
theorem write_self [DecidableEq R] [DecidableEq K] (nested : Nested R K V) (r : R) (k : K) (x : Option V) :
    write nested r k x r k = x := by
  rw [write, Function.update_self, Function.update_self]

/-- It changes nothing under other keys. -/
theorem write_of_ne [DecidableEq R] [DecidableEq K] (h : ¬(r' = r ∧ k' = k)) (x : Option V) :
    write nested r k x r' k' = nested r' k' := by
  unfold write
  by_cases hr : r' = r
  · subst hr
    rw [Function.update_self, Function.update_of_ne fun hk => h ⟨rfl, hk⟩]
  · rw [Function.update_of_ne hr]

/-- Clearing removes what stands under a first key, whatever the second is. -/
theorem clear_eq [DecidableEq R] (nested : Nested R K V) (r r' : R) (k : K) :
    clear nested r r' k = if r' = r then none else nested r' k := by
  unfold clear
  by_cases hr : r' = r
  · rw [if_pos hr, hr, Function.update_self]
  · rw [if_neg hr, Function.update_of_ne hr]

namespace Represents

/-- An empty store represents an empty map. -/
theorem empty : Represents encode (fun _ => none) (fun _ _ => none : Nested R K V) where
  stored h := by cases h
  owned h := by cases h
  alone h := by cases h

/-- What is found under the key of a name. -/
theorem find (h : Represents encode flat nested) (halone : Alone encode nested r k) :
    flat (encode r k) = nested r k := by
  cases hflat : flat (encode r k) with
  | none =>
    cases hnested : nested r k with
    | none => rfl
    | some v => rw [h.stored hnested] at hflat; cases hflat
  | some v =>
    obtain ⟨r', k', hkey, hnested⟩ := h.owned hflat
    have hsome : (nested r' k').isSome = true := by rw [hnested]; rfl
    obtain ⟨rfl, rfl⟩ := halone r' k' hsome hkey
    exact hnested.symm

/-- Where an encoded key is used by no other pair, writing under it is writing into the nested map. -/
theorem write [DecidableEq R] [DecidableEq K] [DecidableEq Key] (h : Represents encode flat nested)
    (halone : Alone encode nested r k) (x : Option V) :
    Represents encode (Function.update flat (encode r k) x) (FlatMap.write nested r k x) where
  stored {r' k' v} hv := by
    by_cases hsame : r' = r ∧ k' = k
    · obtain ⟨rfl, rfl⟩ := hsame
      rw [write_self] at hv
      rw [Function.update_self, hv]
    · rw [write_of_ne hsame] at hv
      have hother : encode r' k' ≠ encode r k := fun hkey => hsame (halone r' k' (by rw [hv]; rfl) hkey)
      rw [Function.update_of_ne hother, h.stored hv]
  owned {key v} hv := by
    by_cases hkey : key = encode r k
    · subst hkey
      rw [Function.update_self] at hv
      exact ⟨r, k, rfl, by rw [write_self, hv]⟩
    · rw [Function.update_of_ne hkey] at hv
      obtain ⟨r', k', rfl, hnested⟩ := h.owned hv
      have hother : ¬(r' = r ∧ k' = k) := fun ⟨hr, hk⟩ => hkey (by rw [hr, hk])
      exact ⟨r', k', rfl, by rw [write_of_ne hother, hnested]⟩
  alone {r₁ k₁} h₁ r₂ k₂ h₂ hkey := by
    by_cases hfirst : r₁ = r ∧ k₁ = k
    · obtain ⟨rfl, rfl⟩ := hfirst
      by_cases hsecond : r₂ = r₁ ∧ k₂ = k₁
      · exact hsecond
      · rw [write_of_ne hsecond] at h₂
        exact halone r₂ k₂ h₂ hkey
    · rw [write_of_ne hfirst] at h₁
      by_cases hsecond : r₂ = r ∧ k₂ = k
      · obtain ⟨rfl, rfl⟩ := hsecond
        exact absurd (halone r₁ k₁ h₁ hkey.symm) hfirst
      · rw [write_of_ne hsecond] at h₂
        exact h.alone h₁ r₂ k₂ h₂ hkey

/-- Keys are removed that are those of what is in the region. -/
theorem clear [DecidableEq R] {p : Key → Prop} [DecidablePred p] (h : Represents encode flat nested)
    (hp : ∀ r' k', (nested r' k').isSome = true → (p (encode r' k') ↔ r' = r)) :
    Represents encode (fun key => if p key then none else flat key) (FlatMap.clear nested r) where
  stored {r' k' v} hv := by
    rw [clear_eq] at hv
    split at hv
    · cases hv
    · next hr => rw [if_neg fun hkey => hr ((hp r' k' (by rw [hv]; rfl)).1 hkey), h.stored hv]
  owned {key v} hv := by
    split at hv
    · cases hv
    · next hkey =>
      obtain ⟨r', k', rfl, hnested⟩ := h.owned hv
      have hr : r' ≠ r := fun hr => hkey ((hp r' k' (by rw [hnested]; rfl)).2 hr)
      exact ⟨r', k', rfl, by rw [clear_eq, if_neg hr, hnested]⟩
  alone {r₁ k₁} h₁ r₂ k₂ h₂ hkey := by
    rw [clear_eq] at h₁ h₂
    split at h₁
    · cases h₁
    · split at h₂
      · cases h₂
      · exact h.alone h₁ r₂ k₂ h₂ hkey

end Represents

end FlatMap
