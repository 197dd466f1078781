import AgentRuntime.Auth.Middleware
import AgentRuntime.Interaction.Records

/-!
# Revoked keys

The methods of `APIKey` (`app/domain/entities/api_key.py`) and `SQLAPIKeyRepository`
(`app/infrastructure/db/repositories/api_key.py`), used by clients that hold copies of keys. `update` writes
`revoked_at` from the copy that it is given: a revocation is final, so that no request is authenticated with the
key any more, exactly if nobody holds a copy of the key that is not revoked (`refused_forever_iff`).
-/

namespace AgentRuntime

open Interaction

namespace APIKey

/-- What `__post_init__` checks. -/
def Valid (self : APIKey) : Prop := self.keyHash ≠ "" ∧ isDict self.scopes = true

/-- A key passes the checks of its constructor exactly if it is valid. -/
theorem postInit_eq_ok_iff {self : APIKey} : self.postInit = .ok self ↔ self.Valid := by
  unfold postInit Valid
  split_ifs with hhash hscopes
  · exact ⟨fun h => (by cases h), fun h => absurd hhash h.1⟩
  · exact ⟨fun _ => ⟨hhash, hscopes⟩, fun _ => rfl⟩
  · exact ⟨fun h => (by cases h), fun h => absurd h.2 hscopes⟩

/-- Revoke the API key; `touch` reads the clock once more. -/
def revoke (self : APIKey) (now touched : Time) : APIKey :=
  if self.isRevoked then self else { self with revokedAt := some now, updatedAt := touched }

/-- Record key usage. -/
def recordUsage (self : APIKey) (now touched : Time) : APIKey :=
  { self with lastUsedAt := some now, updatedAt := touched }

/-- What a client does to its copy of a key: it calls a method, or assigns a field that has none. -/
inductive Change where
  | revoke (now touched : Time)
  | recordUsage (now touched : Time)
  | setName (name : Option String)
  | setScopes (scopes : Dict)
  | setExpiresAt (expiresAt : Option Time)

def Change.apply : Change → APIKey → APIKey
  | .revoke now touched, self => self.revoke now touched
  | .recordUsage now touched, self => self.recordUsage now touched
  | .setName name, self => { self with name }
  | .setScopes scopes, self => { self with scopes := .dict scopes }
  | .setExpiresAt expiresAt, self => { self with expiresAt }

/-- A key as its constructor leaves it. -/
abbrev Key := { key : APIKey // key.Valid }

end APIKey

namespace APIKeyRepository

open APIKey

/-- `update`, on the row that it finds. Where the time of the copy is that of the row, the column is left to
`onupdate`, which leaves `flushedAt`. -/
def update (flushedAt : Time) (model apiKey : APIKey) : APIKey :=
  { model with
    name := apiKey.name, scopes := apiKey.scopes, expiresAt := apiKey.expiresAt, revokedAt := apiKey.revokedAt,
    lastUsedAt := apiKey.lastUsedAt,
    updatedAt := if apiKey.updatedAt = model.updatedAt then flushedAt else apiKey.updatedAt }

/-- `revoke`, on the row that it finds. -/
def revoke (flushedAt : Time) (model : APIKey) : APIKey :=
  { model with
    revokedAt := some model.updatedAt,
    updatedAt := if model.revokedAt = some model.updatedAt then model.updatedAt else flushedAt }

/-- The changes of a key, revocation among them, keep it valid. -/
theorem valid_change (m : Change) {key : APIKey} (h : key.Valid) : (m.apply key).Valid := by
  cases m with
  | revoke now touched =>
    change (key.revoke now touched).Valid
    unfold APIKey.revoke
    split
    · exact h
    · exact h
  | setScopes scopes => exact ⟨h.1, rfl⟩
  | recordUsage now touched => exact h
  | setName name => exact h
  | setExpiresAt expiresAt => exact h

/-- The calls that work on rows. -/
inductive Statement where
  | revoke (keyId : UUID) (flushedAt : Time)
  | cleanupExpired (now : Time)

/-- What is left of a row. -/
def Statement.execute : Statement → Key → Option Key
  | .revoke keyId flushedAt, model =>
    if model.val.id = keyId then some ⟨APIKeyRepository.revoke flushedAt model.val, model.property⟩ else some model
  | .cleanupExpired now, model => if model.val.expiresAt.any (· < now) then none else some model

/-- The repository, with the keys as they are constructed. -/
def repository : Records.Repository Key UUID where
  Change := Change
  Save := Time
  Statement := Statement
  key key := key.val.id
  clashes row key := row.val.id == key.val.id || row.val.keyHash == key.val.keyHash
  change m key := ⟨m.apply key.val, valid_change m key.property⟩
  overwrite flushedAt row copy := ⟨update flushedAt row.val copy.val, row.property.1, copy.property.2⟩
  execute := Statement.execute

/-- A call on the keys. -/
abbrev Call := Records.Call repository

/-- The keys after calls. -/
abbrev afterCalls (s : Records.State Key) (calls : List Call) : Records.State Key :=
  after (Records.step repository) s calls

/-! ## Revocations -/

def Revoked (key : Key) : Prop := key.val.isRevoked = true

/-- Nothing that a client does to a copy makes a key that is revoked one that is not. -/
theorem absorbing_revoked : Records.Absorbing repository Revoked where
  key_change m key := by
    cases m with
    | revoke now touched =>
      change (key.val.revoke now touched).id = key.val.id
      unfold APIKey.revoke
      split <;> rfl
    | recordUsage now touched => rfl
    | setName name => rfl
    | setScopes scopes => rfl
    | setExpiresAt expiresAt => rfl
  change m key h := by
    cases m with
    | revoke now touched =>
      change (key.val.revoke now touched).isRevoked = true
      rw [APIKey.revoke, if_pos (show key.val.isRevoked = true from h)]
      exact h
    | recordUsage now touched => exact h
    | setName name => exact h
    | setScopes scopes => exact h
    | setExpiresAt expiresAt => exact h
  key_overwrite flushedAt row copy := rfl
  overwrite flushedAt row copy := Iff.rfl
  execute w row row' h := by
    cases w with
    | revoke keyId flushedAt =>
      change (if row.val.id = keyId then _ else _) = _ at h
      split at h
      · cases h
        exact ⟨rfl, fun _ => rfl⟩
      · cases h
        exact ⟨rfl, id⟩
    | cleanupExpired now =>
      change (if row.val.expiresAt.any (· < now) then _ else _) = _ at h
      split at h
      · cases h
      · cases h
        exact ⟨rfl, id⟩

/-- No sequence of calls stores two rows under one identifier. -/
theorem nodup_after {s : Records.State Key} (h : (s.rows.map repository.key).Nodup) (calls : List Call) :
    ((afterCalls s calls).rows.map repository.key).Nodup := by
  refine after_induction (I := fun s : Records.State Key => (s.rows.map repository.key).Nodup) h fun s c _ hs => ?_
  refine Records.nodup_step ?_ absorbing_revoked.key_overwrite
    (fun w a b hexecute => (absorbing_revoked.execute w a b hexecute).1) hs
  intro row key heq
  exact Bool.or_eq_true_iff.2 (Or.inl (beq_iff_eq.2 heq))

/-! ## Requests with the token of a key -/

/-- No request is authenticated as this key, whatever its token, its time and the settings. -/
def Refused (keys : List Key) (keyId : UUID) : Prop :=
  ∀ (env : Auth.Environment) (request : Auth.Credentials) (auth : Auth.AuthContext) (apiKey : APIKey),
    env.accounts.apiKeys = keys.map Subtype.val → Auth.getAuthContext env request = .ok auth →
    auth.apiKey = some apiKey → apiKey.id ≠ keyId

section
variable {keys : List Key} {keyId : UUID}

/-- If every stored copy of a key is revoked, the key is refused everywhere. -/
theorem refused_of_all_revoked (h : Records.All repository Revoked keyId keys) : Refused keys keyId := by
  intro env request auth apiKey hkeys hauth hapiKey hid
  cases hbearer : request.bearer with
  | none =>
    rw [Auth.getAuthContext, bind_eq_ok, hbearer] at hauth
    obtain ⟨named, -, hauth⟩ := hauth
    cases hauth
    cases hapiKey
  | some token =>
    obtain ⟨payload, tenantId, -, -, -, hidentified⟩ := (Auth.getAuthContext_eq_ok_iff hbearer).1 hauth
    cases hidentified with
    | user htype hsub hrow hinit hactive => cases hapiKey
    | apiKey htype hsub hrow hinit hvalid =>
      cases hapiKey
      rw [hkeys] at hrow
      obtain ⟨key, hkey, rfl⟩ := List.mem_map.1 (List.mem_of_find?_eq_some hrow)
      have hrevoked : key.val.isRevoked = true := h key hkey hid
      rw [APIKey.isValid, hrevoked] at hvalid
      cases hvalid

/-- A token of PyJWT for a key. -/
def keyPayload (keyId : UUID) : Dict :=
  [("sub", .str keyId.str), ("tenant_id", .str keyId.str), ("type", .str "api_key"), ("exp", .int 1), ("iat", .int 0)]

/-- The environment of a request with such a token, before any key expires. -/
def keyEnvironment (keys : List Key) (keyId : UUID) : Auth.Environment where
  jwt := { encode := fun _ _ => "", decode := fun _ _ _ => .ok (keyPayload keyId) }
  digits := .ascii
  settings := { secretKey := "", accessTokenExpireMinutes := 30 }
  decodedAt := 0
  checkedAt := 0
  accounts := { users := [], apiKeys := keys.map Subtype.val }

/-- Conversely, if a key is refused everywhere, every stored copy of it is revoked. -/
theorem all_revoked_of_refused (hid : keyId.val < 2 ^ 128) (hnodup : (keys.map repository.key).Nodup)
    (h : Refused keys keyId) : Records.All repository Revoked keyId keys := by
  intro key hkey hkeyId
  by_contra hnot
  have hfind : Rows.find APIKey.id (keys.map Subtype.val) keyId = some key.val := by
    rw [← show key.val.id = keyId from hkeyId]
    refine Rows.find_of_mem ?_ (List.mem_map_of_mem hkey)
    rw [List.map_map]
    exact hnodup
  have hvalid : key.val.isValid 0 = true := by
    have hexpired : key.val.isExpired 0 = false := by
      unfold APIKey.isExpired
      split
      · rfl
      · exact decide_eq_false (Nat.not_lt_zero _)
    rw [APIKey.isValid, Bool.eq_false_iff.2 hnot, hexpired]
    rfl
  have hread := Auth.uuid_str DecimalDigits.ascii hid
  have hauth : Auth.getAuthContext (keyEnvironment keys keyId) { tenantIdHeader := none, bearer := some "" } =
      .ok { apiKey := some key.val, tenantId := some keyId, scopes := .list [] } := by
    refine (Auth.getAuthContext_eq_ok_iff rfl).2 ⟨_, keyId, rfl, hread, fun text htext => (by cases htext), ?_⟩
    exact .apiKey rfl hread hfind (APIKey.postInit_eq_ok_iff.2 key.property) hvalid
  exact h _ _ _ key.val rfl hauth rfl hkeyId

end

/-- No request is authenticated with a revoked key any more, whatever is called from then on, exactly if every copy
of the key that somebody holds is revoked as well, or the key was deleted. -/
theorem refused_forever_iff (history : List Call) {keyId : UUID} (hid : keyId.val < 2 ^ 128)
    (hrevoked : Records.All repository Revoked keyId (afterCalls {} history).rows) :
    (∀ calls, Records.Fresh repository keyId calls →
        Refused (afterCalls (afterCalls {} history) calls).rows keyId) ↔
      Records.All repository Revoked keyId (afterCalls {} history).copies ∨
        ∀ row ∈ (afterCalls {} history).rows, row.val.id ≠ keyId := by
  have hempty : (([] : List Key).map repository.key).Nodup := List.nodup_nil
  have hnodup : ((afterCalls {} history).rows.map repository.key).Nodup := nodup_after (s := {}) hempty history
  have hnonempty : Nonempty repository.Save := ⟨(0 : Time)⟩
  refine Iff.trans ?_ (Records.final_iff absorbing_revoked hrevoked)
  constructor
  · intro hrefused calls hfresh
    exact all_revoked_of_refused hid (nodup_after hnodup calls) (hrefused calls hfresh)
  · intro hfinal calls hfresh
    exact refused_of_all_revoked (hfinal calls hfresh)

/-- A key that is created, loaded by a client, and revoked by its owner and by the client. -/
def exampleKey : Key :=
  ⟨{ id := ⟨9⟩, createdAt := 0, updatedAt := 0, tenantId := ⟨3⟩, keyHash := "h" }, by decide, rfl⟩

def exampleHistory : List Call :=
  [.create exampleKey, .load ⟨9⟩, .execute (.revoke ⟨9⟩ 5), .change 0 (.revoke 6 6), .change 1 (.revoke 7 7)]

/-- A key that was stored twice and revoked is refused after every further sequence of calls that does not add
it again. -/
theorem refused_forever_of_two_copies :
    Records.All repository Revoked ⟨9⟩ (afterCalls {} exampleHistory).rows ∧
      ∀ calls, Records.Fresh repository ⟨9⟩ calls →
        Refused (afterCalls (afterCalls {} exampleHistory) calls).rows ⟨9⟩ := by
  have hrows : Records.All repository Revoked ⟨9⟩ (afterCalls {} exampleHistory).rows := by
    intro key hkey _
    obtain rfl := List.mem_singleton.1 hkey
    rfl
  refine ⟨hrows, (refused_forever_iff exampleHistory (by decide) hrows).2 (Or.inl ?_)⟩
  intro key hkey _
  rcases List.mem_cons.1 hkey with rfl | hkey
  · rfl
  · obtain rfl := List.mem_singleton.1 hkey
    rfl

end APIKeyRepository

end AgentRuntime
