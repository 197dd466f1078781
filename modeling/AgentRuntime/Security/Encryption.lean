import AgentRuntime.Interaction.History
import AgentRuntime.Python.Base64
import AgentRuntime.Security.TenantKey

/-!
# Encryption with tenant keys

`AESGCMEncryptionService` (`app/infrastructure/encryption/aes_gcm.py`) over a `TenantKeyManager`, with
AES-GCM as a parameter. A ciphertext has its nonce with it, but not the version of its key, and the
versions are lost with the process: it is decrypted exactly as long as the tenant's current key is the one
that it was encrypted with (`decrypts_iff`).
-/

namespace AgentRuntime

open Interaction TenantKeyManager

/-- Twelve bytes. -/
abbrev Nonce := { nonce : List UInt8 // nonce.length = 12 }

/-- AES-GCM without associated data. -/
structure AesGcm where
  encrypt : Key → Nonce → List UInt8 → Except String (List UInt8)
  decrypt : Key → List UInt8 → List UInt8 → Except String (List UInt8)

/-- Decryption inverts encryption under the same key, and under another one of the keys in use the tag is not
valid. Of keys that are chosen for it AES-GCM does not promise the latter. -/
structure AesGcm.Lawful (gcm : AesGcm) (keys : Set Key) : Prop where
  inverts : ∀ key (nonce : Nonce) data ciphertext, gcm.encrypt key nonce data = .ok ciphertext →
    gcm.decrypt key nonce ciphertext = .ok data
  rejects : ∀ key ∈ keys, ∀ key' ∈ keys, ∀ (nonce : Nonce) data ciphertext,
    gcm.encrypt key nonce data = .ok ciphertext → key' ≠ key →
      ∀ data', gcm.decrypt key' nonce ciphertext ≠ .ok data'

namespace AESGCMEncryptionService

variable (hkdf : Hkdf) (gcm : AesGcm)

/-- Encrypt plaintext for a tenant, with the nonce that is drawn. -/
def encrypt (nonce : Nonce) (plaintext : String) (tenantId : UUID) :
    Method PyError TenantKeyManager String :=
  tryCatch
    (do
      let key ← deriveKey hkdf tenantId
      let ciphertext ← Method.ofExcept
        ((gcm.encrypt key nonce (encodeUtf8 plaintext)).mapError .external)
      return b64encode (nonce ++ ciphertext))
    fun e => throw (.encryptionError s!"Encryption failed: {e.str}")

/-- `bytes.decode("utf-8")`. -/
def decodeUtf8 (data : List UInt8) : Except PyError String :=
  match decodeUtf8? data with
  | some text => .ok text
  | none => .error (.external "'utf-8' codec can't decode")

/-- Decrypt ciphertext for a tenant. -/
def decrypt (ciphertext : String) (tenantId : UUID) : Method PyError TenantKeyManager String :=
  tryCatch
    (do
      let key ← deriveKey hkdf tenantId
      let combined ← Method.ofExcept ((b64decode ciphertext).mapError .external)
      let plaintext ← Method.ofExcept
        ((gcm.decrypt key (combined.take 12) (combined.drop 12)).mapError .external)
      Method.ofExcept (decodeUtf8 plaintext))
    fun e => throw (.encryptionError s!"Decryption failed: {e.str}")

variable {hkdf gcm} {self : TenantKeyManager} {tenantId : UUID}

/-- What is encrypted is encrypted with the tenant's current key. -/
theorem encrypt_on (h : self.Coherent hkdf) (nonce : Nonce) (plaintext : String) (tenantId : UUID) :
    SameKeys hkdf self ((encrypt hkdf gcm nonce plaintext tenantId).on self).2 ∧
      ∀ text, ((encrypt hkdf gcm nonce plaintext tenantId).on self).1 = .ok text →
        ∃ key ciphertext, self.currentKey hkdf tenantId = .ok key ∧
          gcm.encrypt key nonce (encodeUtf8 plaintext) = .ok ciphertext ∧
            text = b64encode (nonce ++ ciphertext) := by
  obtain ⟨hkey, hsame⟩ := deriveKey_on h tenantId
  rcases hderive : (deriveKey hkdf tenantId).on self with ⟨e | key, after⟩
  · rw [hderive] at hsame
    simp only [encrypt, Method.on_tryCatch, Method.on_bind, hderive, Method.on_throw]
    exact ⟨hsame, fun text htext => by cases htext⟩
  · rw [hderive] at hkey hsame
    cases hencrypt : gcm.encrypt key nonce (encodeUtf8 plaintext) with
    | error e =>
      simp only [encrypt, Method.on_tryCatch, Method.on_bind, hderive, hencrypt, Except.mapError,
        Method.on_ofExcept, Method.on_throw]
      exact ⟨hsame, fun text htext => by cases htext⟩
    | ok ciphertext =>
      simp only [encrypt, Method.on_tryCatch, Method.on_bind, hderive, hencrypt, Except.mapError,
        Method.on_ofExcept, Method.on_pure]
      exact ⟨hsame, fun text htext => ⟨key, ciphertext, hkey.symm, hencrypt, (Except.ok.inj htext).symm⟩⟩

/-- What is decrypted is decrypted with the tenant's current key. -/
theorem decrypt_on (h : self.Coherent hkdf) (text : String) (tenantId : UUID) :
    SameKeys hkdf self ((decrypt hkdf gcm text tenantId).on self).2 ∧
      ∀ plaintext, ((decrypt hkdf gcm text tenantId).on self).1 = .ok plaintext ↔
        ∃ key combined data, self.currentKey hkdf tenantId = .ok key ∧ b64decode text = .ok combined ∧
          gcm.decrypt key (combined.take 12) (combined.drop 12) = .ok data ∧
            decodeUtf8? data = some plaintext := by
  obtain ⟨hkey, hsame⟩ := deriveKey_on h tenantId
  rcases hderive : (deriveKey hkdf tenantId).on self with ⟨e | key, after⟩
  · rw [hderive] at hkey hsame
    simp only [decrypt, Method.on_tryCatch, Method.on_bind, hderive, Method.on_throw, ← hkey]
    exact ⟨hsame, fun plaintext => by simp⟩
  · rw [hderive] at hkey hsame
    cases hcombined : b64decode text with
    | error e =>
      simp only [decrypt, Method.on_tryCatch, Method.on_bind, hderive, hcombined, Except.mapError,
        Method.on_ofExcept, Method.on_throw]
      exact ⟨hsame, fun plaintext => by simp⟩
    | ok combined =>
      cases hdata : gcm.decrypt key (combined.take 12) (combined.drop 12) with
      | error e =>
        simp only [decrypt, Method.on_tryCatch, Method.on_bind, hderive, hcombined, Except.mapError,
          Method.on_ofExcept, Method.on_throw, hdata, ← hkey]
        exact ⟨hsame, fun plaintext => by simp [hdata]⟩
      | ok data =>
        cases hplaintext : decodeUtf8? data with
        | none =>
          simp only [decrypt, Method.on_tryCatch, Method.on_bind, hderive, hcombined, Except.mapError,
            Method.on_ofExcept, Method.on_throw, hdata, ← hkey, decodeUtf8, hplaintext]
          exact ⟨hsame, fun plaintext => by simp [hdata, hplaintext]⟩
        | some plaintext =>
          simp only [decrypt, Method.on_tryCatch, Method.on_bind, hderive, hcombined, Except.mapError,
            Method.on_ofExcept, hdata, ← hkey, decodeUtf8, hplaintext]
          exact ⟨hsame, fun plaintext => by simp [hdata, hplaintext]⟩

end AESGCMEncryptionService

open AESGCMEncryptionService

/-! ## Runs -/

/-- A call of the service or of its key manager, or the start of a new process with the same secret. -/
inductive KeyOperation where
  | encrypt (tenantId : UUID) (plaintext : String) (nonce : Nonce)
  | decrypt (tenantId : UUID) (ciphertext : String)
  | rotateKey (tenantId : UUID)
  | clearCache (tenantId : Option UUID)
  | restart

/-- What the operation makes of the key manager. -/
def KeyOperation.step (hkdf : Hkdf) (gcm : AesGcm) (operation : KeyOperation) (self : TenantKeyManager) :
    TenantKeyManager :=
  match operation with
  | encrypt tenantId plaintext nonce =>
    ((AESGCMEncryptionService.encrypt hkdf gcm nonce plaintext tenantId).on self).2
  | decrypt tenantId ciphertext => ((AESGCMEncryptionService.decrypt hkdf gcm ciphertext tenantId).on self).2
  | rotateKey tenantId => ((TenantKeyManager.rotateKey hkdf tenantId).on self).2
  | clearCache tenantId => self.clearCache tenantId
  | restart => { masterSecret := self.masterSecret }

/-- The key manager of a secret after the operations. -/
def managerAfter (hkdf : Hkdf) (gcm : AesGcm) (secret : String) (operations : List KeyOperation) :
    TenantKeyManager :=
  after (KeyOperation.step hkdf gcm) { masterSecret := encodeUtf8 secret } operations

/-- How often the tenant's key has been rotated since the last restart, where it had been so often. -/
def rotations (tenantId : UUID) (count : Nat) : List KeyOperation → Nat
  | [] => count
  | .restart :: operations => rotations tenantId 0 operations
  | .rotateKey tenantId' :: operations =>
    rotations tenantId (if tenantId' = tenantId then count + 1 else count) operations
  | .encrypt _ _ _ :: operations | .decrypt _ _ :: operations | .clearCache _ :: operations =>
    rotations tenantId count operations

/-- The keys that a tenant has at some time while the operations are carried out. -/
def runKeys (hkdf : Hkdf) (secret : String) (tenantId : UUID) (operations : List KeyOperation) : Set Key :=
  {key | ∃ done, done <+: operations ∧
    keyOf hkdf (encodeUtf8 secret) tenantId (rotations tenantId 0 done) = .ok key}

section
variable {hkdf : Hkdf} {gcm : AesGcm} {self : TenantKeyManager}

/-- Every operation keeps the cached keys those that the manager would derive. -/
theorem KeyOperation.coherent_step (h : self.Coherent hkdf) (operation : KeyOperation) :
    (operation.step hkdf gcm self).Coherent hkdf := by
  cases operation with
  | encrypt tenantId plaintext nonce => exact (encrypt_on h nonce plaintext tenantId).1.coherent
  | decrypt tenantId ciphertext => exact (decrypt_on h ciphertext tenantId).1.coherent
  | rotateKey tenantId => exact (rotateKey_on h tenantId).2.2
  | clearCache tenantId => exact (sameKeys_clearCache h tenantId).coherent
  | restart => exact fun tenantId key hcached => by cases hcached

/-- None changes the master secret. -/
theorem KeyOperation.masterSecret_step (h : self.Coherent hkdf) (operation : KeyOperation) :
    (operation.step hkdf gcm self).masterSecret = self.masterSecret := by
  cases operation with
  | encrypt tenantId plaintext nonce => exact (encrypt_on h nonce plaintext tenantId).1.masterSecret
  | decrypt tenantId ciphertext => exact (decrypt_on h ciphertext tenantId).1.masterSecret
  | rotateKey tenantId => exact (rotateKey_on h tenantId).1
  | clearCache tenantId => exact (sameKeys_clearCache h tenantId).masterSecret
  | restart => rfl

/-- The versions count the rotations since the last restart. -/
theorem keyVersions_after (h : self.Coherent hkdf) (tenantId : UUID) (operations : List KeyOperation) :
    (after (KeyOperation.step hkdf gcm) self operations).keyVersions tenantId =
      rotations tenantId (self.keyVersions tenantId) operations := by
  induction operations generalizing self with
  | nil => rfl
  | cons operation operations ih =>
    rw [after_cons, ih (operation.coherent_step h)]
    cases operation with
    | encrypt tenantId' plaintext nonce =>
      rw [KeyOperation.step, (encrypt_on h nonce plaintext tenantId').1.keyVersions]
      rfl
    | decrypt tenantId' ciphertext =>
      rw [KeyOperation.step, (decrypt_on h ciphertext tenantId').1.keyVersions]
      rfl
    | rotateKey tenantId' =>
      rw [KeyOperation.step, (rotateKey_on h tenantId').2.1, rotations, Function.update_apply]
      simp only [eq_comm]
      split
      · next heq => rw [heq]
      · rfl
    | clearCache tenantId' =>
      rw [KeyOperation.step, (sameKeys_clearCache h tenantId').keyVersions]
      rfl
    | restart => rfl

/-- So they are after any sequence of operations. -/
theorem coherent_managerAfter (secret : String) (operations : List KeyOperation) :
    (managerAfter hkdf gcm secret operations).Coherent hkdf :=
  after_induction (I := Coherent hkdf) (fun tenantId key hcached => by cases hcached)
    fun _ operation _ h => operation.coherent_step h

/-- The secret is the one that the manager was made with. -/
theorem masterSecret_managerAfter (secret : String) (operations : List KeyOperation) :
    (managerAfter hkdf gcm secret operations).masterSecret = encodeUtf8 secret :=
  (after_induction
    (I := fun m : TenantKeyManager => m.Coherent hkdf ∧ m.masterSecret = encodeUtf8 secret)
    ⟨fun tenantId key hcached => (by cases hcached), rfl⟩ fun _ operation _ h =>
      ⟨operation.coherent_step h.1, (operation.masterSecret_step h.1).trans h.2⟩).2

/-- The tenant's current key, in a run. -/
theorem currentKey_managerAfter (secret : String) (tenantId : UUID) (operations : List KeyOperation) :
    (managerAfter hkdf gcm secret operations).currentKey hkdf tenantId =
      keyOf hkdf (encodeUtf8 secret) tenantId (rotations tenantId 0 operations) := by
  rw [currentKey, masterSecret_managerAfter, managerAfter,
    keyVersions_after (fun tenantId key hcached => by cases hcached)]

end

/-- A ciphertext is decrypted to its plaintext exactly if the tenant's key, by the number of rotations
since the last restart, is again the one that it was encrypted with. -/
theorem decrypts_iff (hkdf : Hkdf) (gcm : AesGcm) (secret : String)
    (earlier later : List KeyOperation) (tenantId : UUID) (plaintext : String) (nonce : Nonce)
    (hlawful : gcm.Lawful
      (runKeys hkdf secret tenantId (earlier ++ .encrypt tenantId plaintext nonce :: later)))
    (ciphertext : String)
    (hciphertext : ((encrypt hkdf gcm nonce plaintext tenantId).on
      (managerAfter hkdf gcm secret earlier)).1 = .ok ciphertext) :
    ((decrypt hkdf gcm ciphertext tenantId).on (managerAfter hkdf gcm secret
        (earlier ++ .encrypt tenantId plaintext nonce :: later))).1 = .ok plaintext ↔
      keyOf hkdf (encodeUtf8 secret) tenantId
          (rotations tenantId 0 (earlier ++ .encrypt tenantId plaintext nonce :: later)) =
        keyOf hkdf (encodeUtf8 secret) tenantId (rotations tenantId 0 earlier) := by
  obtain ⟨-, hencrypted⟩ := encrypt_on (coherent_managerAfter secret earlier) nonce plaintext tenantId
  obtain ⟨key, sealed, hkey, hsealed, rfl⟩ := hencrypted ciphertext hciphertext
  obtain ⟨-, hdecrypted⟩ := decrypt_on (coherent_managerAfter secret
    (earlier ++ .encrypt tenantId plaintext nonce :: later)) (b64encode (nonce ++ sealed)) tenantId
  have htake : (nonce.val ++ sealed).take 12 = nonce.val := List.take_left' nonce.property
  have hdrop : (nonce.val ++ sealed).drop 12 = sealed := List.drop_left' nonce.property
  rw [currentKey_managerAfter] at hkey
  rw [hdecrypted plaintext, currentKey_managerAfter, hkey]
  constructor
  · rintro ⟨key', combined, data, hkey', hcombined, hdata, -⟩
    obtain rfl := Except.ok.inj ((b64decode_b64encode _).symm.trans hcombined)
    rw [htake, hdrop] at hdata
    by_cases heq : key' = key
    · rw [hkey', heq]
    · have hkeyIn := hlawful.rejects key ⟨earlier, List.prefix_append .., hkey⟩
      exact absurd hdata (hkeyIn key' ⟨_, List.prefix_rfl, hkey'⟩ nonce _ _ hsealed heq data)
  · intro heq
    refine ⟨key, nonce.val ++ sealed, encodeUtf8 plaintext, heq, b64decode_b64encode _, ?_,
      decodeUtf8?_encodeUtf8 plaintext⟩
    rw [htake, hdrop]
    exact hlawful.inverts key nonce _ _ hsealed

/-! ## A rotation and a restart -/

namespace KeyRotation

/-- A key that spells what it is for. -/
def hkdf : Hkdf := fun _ info _ => ⟨(info ++ List.replicate 32 0).take 32, by simp⟩

/-- A ciphertext that begins with its key. -/
def gcm : AesGcm where
  encrypt key _ data := .ok (key.val ++ data)
  decrypt key _ ciphertext :=
    if ciphertext.take 32 = key.val then .ok (ciphertext.drop 32) else .error "InvalidTag"

/-- The functions of the example obey the laws, for any keys. -/
theorem lawful_gcm (keys : Set Key) : gcm.Lawful keys where
  inverts key nonce data ciphertext h := by
    obtain rfl := Except.ok.inj h
    dsimp only [gcm]
    rw [List.take_left' key.property, if_pos rfl, List.drop_left' key.property]
  rejects key _ key' _ nonce data ciphertext h hne data' hdata := by
    obtain rfl := Except.ok.inj h
    have hkey : key.val ≠ key'.val := fun heq => hne (Subtype.ext heq.symm)
    dsimp only [gcm] at hdata
    rw [List.take_left' key.property, if_neg hkey] at hdata
    cases hdata

def nonce : Nonce := ⟨List.replicate 12 0, rfl⟩

/-- What a text that is encrypted at first is decrypted to after the operations. -/
def roundTrip (operations : List KeyOperation) : Except PyError String :=
  match ((encrypt hkdf gcm nonce "text" ⟨1⟩).on (managerAfter hkdf gcm "secret" [])).1 with
  | .error e => .error e
  | .ok ciphertext =>
    ((decrypt hkdf gcm ciphertext ⟨1⟩).on
      (managerAfter hkdf gcm "secret" (.encrypt ⟨1⟩ "text" nonce :: operations))).1

end KeyRotation

/-- A text that was encrypted before a rotation is not decrypted after it. -/
theorem not_decrypts :
    KeyRotation.gcm.Lawful Set.univ ∧ KeyRotation.roundTrip [.rotateKey ⟨1⟩] ≠ .ok "text" :=
  ⟨KeyRotation.lawful_gcm _, by decide +kernel⟩

/-- After a restart it is. -/
theorem decrypts_iff_restart :
    ((decrypt KeyRotation.hkdf KeyRotation.gcm
        (b64encode (KeyRotation.nonce.val ++ (bigEndian 16 1 ++ bigEndian 8 0 ++ List.replicate 8 0) ++
          encodeUtf8 "text")) ⟨1⟩).on
      (managerAfter KeyRotation.hkdf KeyRotation.gcm "secret"
        ([] ++ .encrypt ⟨1⟩ "text" KeyRotation.nonce :: [.rotateKey ⟨1⟩, .restart]))).1 = .ok "text" :=
  (decrypts_iff KeyRotation.hkdf KeyRotation.gcm "secret" [] [.rotateKey ⟨1⟩, .restart] ⟨1⟩ "text"
    KeyRotation.nonce (KeyRotation.lawful_gcm _) _ (by decide +kernel)).2 rfl

end AgentRuntime
