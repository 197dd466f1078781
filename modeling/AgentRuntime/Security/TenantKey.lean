import AgentRuntime.Interaction.Method
import AgentRuntime.Python.Values
import Mathlib.Algebra.Group.Nat.Defs
import Mathlib.Logic.Function.Basic

/-!
# Tenant keys

`TenantKeyManager` (`app/infrastructure/encryption/tenant_key.py`): the key of a tenant is derived from
the master secret, the tenant and a version, which counts the rotations that this manager has made. It is
kept until it is rotated or cleared. HKDF is a parameter.
-/

namespace AgentRuntime

open Interaction

/-- The `width` last bytes of the number, the most significant first. -/
def bigEndian (width n : Nat) : List UInt8 :=
  (List.range width).map fun i => UInt8.ofNat (n / 256 ^ (width - 1 - i))

/-- `tenant_id.bytes`. -/
def UUID.bytes (self : UUID) : List UInt8 := bigEndian 16 self.val

/-- `n.to_bytes(width, "big")`. -/
def toBytes (n width : Nat) : Except PyError (List UInt8) :=
  if n < 256 ^ width then .ok (bigEndian width n) else .error (.external "int too big to convert")

/-- A 256-bit key. -/
abbrev Key := { key : List UInt8 // key.length = 32 }

/-- The key that HKDF with SHA-256 derives from a secret, with a salt and the information that it is for. -/
abbrev Hkdf := (salt info secret : List UInt8) → Key

/-- Manages tenant-specific encryption keys derived from a master secret. -/
structure TenantKeyManager where
  masterSecret : List UInt8
  keyCache : UUID → Option Key := fun _ => none
  keyVersions : UUID → Nat := fun _ => 0

namespace TenantKeyManager

variable (hkdf : Hkdf)

/-- The key of a version. -/
def keyOf (masterSecret : List UInt8) (tenantId : UUID) (version : Nat) : Except PyError Key :=
  match toBytes version 8 with
  | .ok suffix => .ok (hkdf (masterSecret.take 16) (tenantId.bytes ++ suffix) masterSecret)
  | .error e => .error (.encryptionError s!"Key derivation failed: {e.str}")

/-- Derive encryption key for a tenant. -/
def deriveKey (tenantId : UUID) : Method PyError TenantKeyManager Key := do
  let self ← get
  match self.keyCache tenantId with
  | some key => return key
  | none =>
    let key ← Method.ofExcept (keyOf hkdf self.masterSecret tenantId (self.keyVersions tenantId))
    set { self with keyCache := Function.update self.keyCache tenantId (some key) }
    return key

/-- Rotate the encryption key for a tenant. -/
def rotateKey (tenantId : UUID) : Method PyError TenantKeyManager Key := do
  modify fun self =>
    { self with
      keyVersions := Function.update self.keyVersions tenantId (self.keyVersions tenantId + 1)
      keyCache := Function.update self.keyCache tenantId none }
  deriveKey hkdf tenantId

/-- Clear cached keys. -/
def clearCache (tenantId : Option UUID) (self : TenantKeyManager) : TenantKeyManager :=
  match tenantId with
  | some tenantId => { self with keyCache := Function.update self.keyCache tenantId none }
  | none => { self with keyCache := fun _ => none }

/-! ## What is cached -/

/-- The key of the tenant's version. -/
def currentKey (self : TenantKeyManager) (tenantId : UUID) : Except PyError Key :=
  keyOf hkdf self.masterSecret tenantId (self.keyVersions tenantId)

/-- Every cached key is that of its tenant's version. -/
def Coherent (self : TenantKeyManager) : Prop :=
  ∀ tenantId key, self.keyCache tenantId = some key → self.currentKey hkdf tenantId = .ok key

variable {hkdf} {self : TenantKeyManager}

/-- What is cached is forgotten, or was derived for the tenant's version. -/
theorem Coherent.update (h : self.Coherent hkdf) {tenantId : UUID} {cached : Option Key}
    (hkey : ∀ key, cached = some key → self.currentKey hkdf tenantId = .ok key) :
    Coherent hkdf { self with keyCache := Function.update self.keyCache tenantId cached } := by
  intro tenantId' key hcached
  by_cases heq : tenantId' = tenantId
  · subst heq
    exact hkey key (by simpa using hcached)
  · exact h tenantId' key (by simpa [heq] using hcached)

/-- The same secret and versions, and a cache that agrees with them. -/
structure SameKeys (hkdf : Hkdf) (before after : TenantKeyManager) : Prop where
  masterSecret : after.masterSecret = before.masterSecret
  keyVersions : after.keyVersions = before.keyVersions
  coherent : after.Coherent hkdf

/-- A manager has its own keys. -/
theorem SameKeys.refl (h : self.Coherent hkdf) : SameKeys hkdf self self := ⟨rfl, rfl, h⟩

/-- The key that is derived is that of the tenant's version, and no more than the cache changes. -/
theorem deriveKey_on (h : self.Coherent hkdf) (tenantId : UUID) :
    ((deriveKey hkdf tenantId).on self).1 = self.currentKey hkdf tenantId ∧
      SameKeys hkdf self ((deriveKey hkdf tenantId).on self).2 := by
  cases hcache : self.keyCache tenantId with
  | some key =>
    have hon : (deriveKey hkdf tenantId).on self = (.ok key, self) := by simp [deriveKey, hcache]
    rw [hon]
    exact ⟨(h tenantId key hcache).symm, SameKeys.refl h⟩
  | none =>
    cases hcurrent : self.currentKey hkdf tenantId with
    | error e =>
      have hon : (deriveKey hkdf tenantId).on self = (.error e, self) := by
        rw [currentKey] at hcurrent
        simp [deriveKey, hcache, hcurrent]
      rw [hon]
      exact ⟨rfl, SameKeys.refl h⟩
    | ok key =>
      have hon : (deriveKey hkdf tenantId).on self =
          (.ok key, { self with keyCache := Function.update self.keyCache tenantId (some key) }) := by
        rw [currentKey] at hcurrent
        simp [deriveKey, hcache, hcurrent, Except.map]
      rw [hon]
      refine ⟨rfl, rfl, rfl, h.update fun key' hkey' => ?_⟩
      rw [hcurrent, Option.some.inj hkey']

/-- With the version counted up and its key forgotten, what is cached is still right. -/
theorem Coherent.rotated (h : self.Coherent hkdf) (tenantId : UUID) :
    Coherent hkdf
      { self with
        keyVersions := Function.update self.keyVersions tenantId (self.keyVersions tenantId + 1)
        keyCache := Function.update self.keyCache tenantId none } := by
  intro tenantId' key hcached
  by_cases heq : tenantId' = tenantId
  · subst heq
    simp at hcached
  · have hkey := h tenantId' key (by simpa [heq] using hcached)
    simpa [currentKey, heq] using hkey

/-- A rotation counts up the tenant's version. -/
theorem rotateKey_on (h : self.Coherent hkdf) (tenantId : UUID) :
    ((rotateKey hkdf tenantId).on self).2.masterSecret = self.masterSecret ∧
      ((rotateKey hkdf tenantId).on self).2.keyVersions =
        Function.update self.keyVersions tenantId (self.keyVersions tenantId + 1) ∧
          ((rotateKey hkdf tenantId).on self).2.Coherent hkdf := by
  obtain ⟨-, hsame⟩ := deriveKey_on (h.rotated tenantId) tenantId
  rw [rotateKey, Method.on_bind, Method.on_modify]
  exact ⟨hsame.masterSecret, hsame.keyVersions, hsame.coherent⟩

/-- The key that a rotation returns is that of the next version. -/
theorem fst_rotateKey_on (h : self.Coherent hkdf) (tenantId : UUID) :
    ((rotateKey hkdf tenantId).on self).1 =
      keyOf hkdf self.masterSecret tenantId (self.keyVersions tenantId + 1) := by
  rw [rotateKey, Method.on_bind, Method.on_modify]
  refine (deriveKey_on (h.rotated tenantId) tenantId).1.trans ?_
  dsimp only [currentKey]
  rw [Function.update_self]

/-- Clearing the cache changes no key: what was derived is derived again. -/
theorem sameKeys_clearCache (h : self.Coherent hkdf) (tenantId : Option UUID) :
    SameKeys hkdf self (self.clearCache tenantId) := by
  cases tenantId with
  | none => exact ⟨rfl, rfl, fun tenantId' key hcached => by cases hcached⟩
  | some tenantId => exact ⟨rfl, rfl, h.update fun key hkey => by cases hkey⟩

end TenantKeyManager

end AgentRuntime
