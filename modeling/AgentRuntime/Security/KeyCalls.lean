import AgentRuntime.Interaction.Noninterference
import AgentRuntime.Python.Base64
import AgentRuntime.Security.TenantKey
import Mathlib.Data.List.Count

/-!
# Calls of a key manager

`TenantKeyManager` against a manager that keeps no key and derives one on each call: all that it has to
know is how often the key of each tenant has been rotated. Whatever is called, both return the same
(`represents_call`), so a key is that of the number of its tenant's rotations, and calls for other tenants
make no difference to it (`keys_transparent`).

A version has 8 bytes in the information that HKDF gets. What that information begins and ends with can be
read off again, so that HKDF may be any function of the secret, the tenant and the version (`exists_hkdf`).
-/

namespace AgentRuntime

open Interaction TenantKeyManager

/-- `TenantKeyManager.from_secret`. -/
def TenantKeyManager.fromSecret (secret : String) : TenantKeyManager := { masterSecret := encodeUtf8 secret }

/-- A call of a key manager. -/
inductive KeyCall where
  | deriveKey (tenantId : UUID)
  | rotateKey (tenantId : UUID)
  | clearCache (tenantId : Option UUID)
  deriving DecidableEq, Repr

namespace KeyCall

variable (hkdf : Hkdf)

/-- The call, and the key that it returns, if it returns one. -/
def method : KeyCall → Method PyError TenantKeyManager (Option Key)
  | deriveKey tenantId => some <$> TenantKeyManager.deriveKey hkdf tenantId
  | rotateKey tenantId => some <$> TenantKeyManager.rotateKey hkdf tenantId
  | clearCache tenantId => do
    modify (TenantKeyManager.clearCache tenantId)
    return none

/-- What the call makes of the key manager. -/
def step (call : KeyCall) (self : TenantKeyManager) : TenantKeyManager := ((call.method hkdf).on self).2

/-- What the call returns. -/
def reply (call : KeyCall) (self : TenantKeyManager) : Except PyError (Option Key) :=
  ((call.method hkdf).on self).1

/-- The call is to return a key of the tenant. -/
def GetsKey (tenantId : UUID) (call : KeyCall) : Prop := call = deriveKey tenantId ∨ call = rotateKey tenantId

/-- The call is for the tenant, or for all tenants. -/
def Concerns (tenantId : UUID) : KeyCall → Prop
  | deriveKey tenantId' | rotateKey tenantId' => tenantId' = tenantId
  | clearCache tenantId' => ∀ t ∈ tenantId', t = tenantId

instance (tenantId : UUID) : DecidablePred (Concerns tenantId)
  | deriveKey tenantId' | rotateKey tenantId' => inferInstanceAs (Decidable (tenantId' = tenantId))
  | clearCache tenantId' => inferInstanceAs (Decidable (∀ t ∈ tenantId', t = tenantId))

/-! ## Without a cache -/

/-- The rotations of each tenant's key after the call. -/
def count (call : KeyCall) (rotations : UUID → Nat) : UUID → Nat :=
  match call with
  | rotateKey tenantId => Function.update rotations tenantId (rotations tenantId + 1)
  | deriveKey _ | clearCache _ => rotations

/-- What the call returns, if the key is derived from the number of rotations. -/
def answer (masterSecret : List UInt8) (call : KeyCall) (rotations : UUID → Nat) : Except PyError (Option Key) :=
  match call with
  | deriveKey tenantId => (keyOf hkdf masterSecret tenantId (rotations tenantId)).map some
  | rotateKey tenantId => (keyOf hkdf masterSecret tenantId (rotations tenantId + 1)).map some
  | clearCache _ => .ok none

end KeyCall

/-! ## What is claimed of the keys -/

namespace TenantKeyManager

variable (hkdf : Hkdf) (secret : String)

/-- The key of the tenant and the version. -/
def versionKey (tenantId : UUID) (version : Nat) : Key :=
  hkdf ((encodeUtf8 secret).take 16) (tenantId.bytes ++ bigEndian 8 version) (encodeUtf8 secret)

/-- A key that is returned is that of the version, and one is returned as long as the version has a place in
8 bytes. -/
structure Answered (tenantId : UUID) (version : Nat) (reply : Except PyError (Option Key)) : Prop where
  key : ∀ key, reply = .ok (some key) → key = versionKey hkdf secret tenantId version
  returns : version < 256 ^ 8 → ∃ key, reply = .ok (some key)

/-- Every call that is to return a key of a tenant returns the one that the rotations of the tenant so far
stand for. -/
def Transparent (calls : List KeyCall) : Prop :=
  ∀ (earlier : List KeyCall) (call : KeyCall) (tenantId : UUID), earlier ++ [call] <+: calls →
    call.GetsKey tenantId →
      Answered hkdf secret tenantId ((earlier ++ [call]).count (.rotateKey tenantId))
        (call.reply hkdf (after (KeyCall.step hkdf) (fromSecret secret) earlier))

/-- What the tenant's calls return does not change if the calls for other tenants are left out. -/
def Isolated (tenantId : UUID) (calls : List KeyCall) : Prop :=
  outputs (KeyCall.step hkdf) (KeyCall.reply hkdf) (KeyCall.Concerns tenantId) (fromSecret secret) calls =
    outputs (KeyCall.step hkdf) (KeyCall.reply hkdf) (KeyCall.Concerns tenantId) (fromSecret secret)
      (calls.filter (KeyCall.Concerns tenantId))

end TenantKeyManager

/-! ## The cache makes no difference -/

section
variable {hkdf : Hkdf} {masterSecret : List UInt8}

/-- The key manager has the secret, its versions are the rotations, and its cached keys are those of its
versions. -/
structure TenantKeyManager.Represents (hkdf : Hkdf) (masterSecret : List UInt8) (self : TenantKeyManager)
    (rotations : UUID → Nat) : Prop where
  masterSecret : self.masterSecret = masterSecret
  keyVersions : self.keyVersions = rotations
  coherent : self.Coherent hkdf

/-- A new manager has every tenant at its first version. -/
theorem represents_fromSecret (secret : String) :
    Represents hkdf (encodeUtf8 secret) (fromSecret secret) fun _ => 0 := by
  refine ⟨rfl, rfl, ?_⟩
  intro tenantId key hcached
  cases hcached

/-- A call returns the same as without a cache. -/
theorem represents_call (call : KeyCall) (self : TenantKeyManager) (rotations : UUID → Nat)
    (h : Represents hkdf masterSecret self rotations) :
    call.reply hkdf self = call.answer hkdf masterSecret rotations ∧
      Represents hkdf masterSecret (call.step hkdf self) (call.count rotations) := by
  obtain ⟨rfl, rfl, hcoherent⟩ := h
  cases call with
  | deriveKey tenantId =>
    obtain ⟨hkey, hsame⟩ := deriveKey_on hcoherent tenantId
    rw [KeyCall.reply, KeyCall.step, KeyCall.method, Method.on_map, hkey]
    exact ⟨rfl, hsame.masterSecret, hsame.keyVersions, hsame.coherent⟩
  | rotateKey tenantId =>
    obtain ⟨hsecret, hversions, hrotated⟩ := rotateKey_on hcoherent tenantId
    rw [KeyCall.reply, KeyCall.step, KeyCall.method, Method.on_map, fst_rotateKey_on hcoherent]
    exact ⟨rfl, hsecret, hversions, hrotated⟩
  | clearCache tenantId =>
    have hsame := sameKeys_clearCache hcoherent tenantId
    exact ⟨rfl, hsame.masterSecret, hsame.keyVersions, hsame.coherent⟩

/-- The rotations are counted. -/
theorem after_count (calls : List KeyCall) (rotations : UUID → Nat) (tenantId : UUID) :
    after KeyCall.count rotations calls tenantId = rotations tenantId + calls.count (.rotateKey tenantId) := by
  induction calls generalizing rotations with
  | nil => rfl
  | cons call calls ih =>
    rw [after_cons, ih, List.count_cons]
    cases call with
    | deriveKey tenantId' => simp [KeyCall.count]
    | clearCache tenantId' => simp [KeyCall.count]
    | rotateKey tenantId' =>
      by_cases heq : tenantId' = tenantId
      · subst heq
        simp only [KeyCall.count, Function.update_self, beq_self_eq_true, if_true]
        omega
      · have hne : tenantId ≠ tenantId' := Ne.symm heq
        simp [KeyCall.count, heq, hne]

/-- The key of a version that has a place in 8 bytes is derived, and no other. -/
theorem keyOf_answered (secret : String) (tenantId : UUID) (version : Nat) :
    Answered hkdf secret tenantId version ((keyOf hkdf (encodeUtf8 secret) tenantId version).map some) := by
  unfold keyOf toBytes
  split_ifs with hversion
  · refine ⟨?_, fun _ => ⟨_, rfl⟩⟩
    intro key hkey
    exact (Option.some.inj (Except.ok.inj hkey)).symm
  · refine ⟨?_, fun h => absurd h hversion⟩
    intro key hkey
    cases hkey

/-- A key is that of the number of rotations, by the manager without a cache. -/
theorem TenantKeyManager.transparent (hkdf : Hkdf) (secret : String) (calls : List KeyCall) :
    Transparent hkdf secret calls := by
  intro earlier call tenantId _ hcall
  have hrepresents : Represents hkdf (encodeUtf8 secret)
      (after (KeyCall.step hkdf) (fromSecret secret) earlier) (after KeyCall.count (fun _ => 0) earlier) :=
    after_of_simulation (fun call self rotations h => (represents_call call self rotations h).2)
      (represents_fromSecret secret) earlier
  rw [(represents_call call _ _ hrepresents).1]
  rcases hcall with rfl | rfl
  · have hcount : (earlier ++ [KeyCall.deriveKey tenantId]).count (.rotateKey tenantId) =
        after KeyCall.count (fun _ => 0) earlier tenantId := by
      rw [after_count, List.count_append]
      simp
    rw [hcount]
    exact keyOf_answered ..
  · have hcount : (earlier ++ [KeyCall.rotateKey tenantId]).count (.rotateKey tenantId) =
        after KeyCall.count (fun _ => 0) earlier tenantId + 1 := by
      rw [after_count, List.count_append]
      simp
    rw [hcount]
    exact keyOf_answered ..

/-! ## Calls for other tenants -/

/-- Without a cache, calls for other tenants change nothing that the tenant gets. -/
theorem answers_unaffected (masterSecret : List UInt8) (tenantId : UUID) (rotations : UUID → Nat)
    (calls : List KeyCall) :
    Unaffected KeyCall.count (KeyCall.answer hkdf masterSecret) (KeyCall.Concerns tenantId)
      (fun rotations rotations' => rotations tenantId = rotations' tenantId) rotations calls := by
  refine unaffected rfl ?_ (along_of_invariant (I := fun _ => True) trivial ?_)
  · intro call _ hconcerns rotations rotations' heq
    cases call with
    | deriveKey tenantId' =>
      obtain rfl : tenantId' = tenantId := hconcerns
      simp only [KeyCall.answer, KeyCall.count, heq, and_self]
    | rotateKey tenantId' =>
      obtain rfl : tenantId' = tenantId := hconcerns
      simp only [KeyCall.answer, KeyCall.count, heq, Function.update_self, and_self]
    | clearCache tenantId' => exact ⟨rfl, heq⟩
  · intro rotations call _ _
    refine ⟨?_, trivial⟩
    intro hother rotations' heq
    cases call with
    | deriveKey tenantId' => exact heq
    | rotateKey tenantId' =>
      have hne : tenantId ≠ tenantId' := fun h => hother h.symm
      rw [KeyCall.count, Function.update_of_ne hne, heq]
    | clearCache tenantId' => exact heq

/-- Calls for other tenants change nothing that the tenant gets from a manager that keeps keys, either. -/
theorem TenantKeyManager.isolated (hkdf : Hkdf) (secret : String) (tenantId : UUID) (calls : List KeyCall) :
    Isolated hkdf secret tenantId calls := by
  have hsame (calls : List KeyCall) :
      outputs (KeyCall.step hkdf) (KeyCall.reply hkdf) (KeyCall.Concerns tenantId) (fromSecret secret) calls =
        outputs KeyCall.count (KeyCall.answer hkdf (encodeUtf8 secret)) (KeyCall.Concerns tenantId)
          (fun _ => 0) calls :=
    outputs_of_simulation represents_call (represents_fromSecret secret) calls
  unfold Isolated
  rw [hsame, hsame]
  exact (answers_unaffected _ _ _ _).1

end

/-- **The cache of a key manager does not show.** Each key is that of the number of rotations of its tenant,
and calls for other tenants do not change it. -/
theorem TenantKeyManager.keys_transparent (hkdf : Hkdf) (secret : String) (calls : List KeyCall) :
    Transparent hkdf secret calls ∧ ∀ tenantId, Isolated hkdf secret tenantId calls :=
  ⟨transparent hkdf secret calls, fun tenantId => isolated hkdf secret tenantId calls⟩

/-! ## What HKDF tells apart -/

/-- `int.from_bytes(data, "big")`. -/
def fromBytes (data : List UInt8) : Nat := data.foldl (fun n byte => n * 256 + byte.toNat) 0

/-- A number is written with the width that is asked for. -/
theorem length_bigEndian (width n : Nat) : (bigEndian width n).length = width := by
  rw [bigEndian, List.length_map, List.length_range]

/-- The last byte is that of the number's remainder. -/
theorem bigEndian_succ (width n : Nat) :
    bigEndian (width + 1) n = bigEndian width (n / 256) ++ [UInt8.ofNat n] := by
  have hbyte : ∀ i ∈ List.range width, UInt8.ofNat (n / 256 ^ (width + 1 - 1 - i)) =
      UInt8.ofNat (n / 256 / 256 ^ (width - 1 - i)) := by
    intro i hi
    rw [List.mem_range] at hi
    have hexponent : width + 1 - 1 - i = width - 1 - i + 1 := by omega
    rw [hexponent, Nat.div_div_eq_div_mul, Nat.pow_succ']
  have hlast : n / 256 ^ (width + 1 - 1 - width) = n := by
    rw [Nat.add_sub_cancel, Nat.sub_self, Nat.pow_zero, Nat.div_one]
  rw [bigEndian, List.range_succ, List.map_append, List.map_congr_left hbyte, List.map_singleton, hlast]
  rfl

/-- A number that fits is read back. -/
theorem fromBytes_bigEndian {width n : Nat} (h : n < 256 ^ width) : fromBytes (bigEndian width n) = n := by
  induction width generalizing n with
  | zero =>
    obtain rfl : n = 0 := by omega
    rfl
  | succ width ih =>
    have hquotient : n / 256 < 256 ^ width := by
      rw [Nat.pow_succ'] at h
      exact Nat.div_lt_of_lt_mul h
    have hrest := ih hquotient
    rw [fromBytes] at hrest ⊢
    rw [bigEndian_succ, List.foldl_append, hrest, List.foldl_cons, List.foldl_nil, UInt8.toNat_ofNat']
    omega

/-- HKDF may be any function of the secret, the tenant and the version. -/
theorem exists_hkdf (f : List UInt8 → UUID → Nat → Key) :
    ∃ hkdf : Hkdf, ∀ (secret : String) (tenantId : UUID) (version : Nat), tenantId.val < 256 ^ 16 →
      version < 256 ^ 8 → versionKey hkdf secret tenantId version = f (encodeUtf8 secret) tenantId version := by
  refine ⟨fun _ info secret => f secret ⟨fromBytes (info.take 16)⟩ (fromBytes (info.drop 16)), ?_⟩
  intro secret tenantId version htenant hversion
  have hlength : tenantId.bytes.length = 16 := length_bigEndian 16 tenantId.val
  dsimp only [versionKey]
  rw [List.take_left' hlength, List.drop_left' hlength, UUID.bytes, fromBytes_bigEndian htenant,
    fromBytes_bigEndian hversion]

end AgentRuntime
