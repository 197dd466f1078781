import AgentRuntime.Db.Rows
import AgentRuntime.Python.Values

/-!
# Users and API keys

`User` and `APIKey` (`app/domain/entities/user.py`, `app/domain/entities/api_key.py`), and how their
repositories load them. A row has the columns of its entity, which checks itself when it is loaded.
-/

namespace AgentRuntime

/-- User entity. -/
structure User where
  id : UUID
  createdAt : Time
  updatedAt : Time
  tenantId : UUID
  email : String
  passwordHash : String
  status : String := "active"
  lastLoginAt : Option Time := none
  deriving DecidableEq, Repr

namespace User

/-- `User.__post_init__`. -/
def postInit (self : User) : Except PyError User :=
  if isBlank self.email then .error (.valueError "Email cannot be empty")
  else if '@' ∉ self.email.toList then .error (.valueError "Invalid email format")
  else if self.passwordHash = "" then .error (.valueError "Password hash cannot be empty")
  else .ok self

/-- Check if user is active. -/
def isActive (self : User) : Bool := self.status == "active"

/-- A user that passes the checks of its constructor is the user that was given to it. -/
theorem postInit_eq_ok {self user : User} (h : self.postInit = .ok user) : user = self := by
  unfold postInit at h
  split_ifs at h
  exact (Except.ok.inj h).symm

end User

/-- API Key entity. -/
structure APIKey where
  id : UUID
  createdAt : Time
  updatedAt : Time
  tenantId : UUID
  keyHash : String
  name : Option String := none
  scopes : Json := .dict []
  expiresAt : Option Time := none
  revokedAt : Option Time := none
  lastUsedAt : Option Time := none

namespace APIKey

/-- `isinstance(value, dict)`. -/
def isDict : Json → Bool
  | .dict _ => true
  | _ => false

/-- `APIKey.__post_init__`. -/
def postInit (self : APIKey) : Except PyError APIKey :=
  if self.keyHash = "" then .error (.valueError "Key hash cannot be empty")
  else if ¬isDict self.scopes then .error (.valueError "Scopes must be a dictionary")
  else .ok self

/-- Check if key is revoked. -/
def isRevoked (self : APIKey) : Bool := self.revokedAt.isSome

/-- Check if key is expired. -/
def isExpired (self : APIKey) (now : Time) : Bool :=
  match self.expiresAt with
  | none => false
  | some expiresAt => decide (expiresAt < now)

/-- Check if key is valid (not revoked, not expired). -/
def isValid (self : APIKey) (now : Time) : Bool := !self.isRevoked && !self.isExpired now

/-- An API key that passes the checks of its constructor is the key that was given to it. -/
theorem postInit_eq_ok {self key : APIKey} (h : self.postInit = .ok key) : key = self := by
  unfold postInit at h
  split_ifs at h
  exact (Except.ok.inj h).symm

end APIKey

/-- The tables `users` and `api_keys`. -/
structure Accounts where
  users : List User
  apiKeys : List APIKey

namespace Accounts

/-- `self._to_entity(model) if model else None`, where the entity checks itself. -/
def load {α : Type} (postInit : α → Except PyError α) : Option α → Except PyError (Option α)
  | none => .ok none
  | some model => (postInit model).map some

/-- `SQLUserRepository.get`. -/
def getUser (self : Accounts) (userId : UUID) : Except PyError (Option User) :=
  load User.postInit (Rows.find User.id self.users userId)

/-- `SQLAPIKeyRepository.get`. -/
def getAPIKey (self : Accounts) (keyId : UUID) : Except PyError (Option APIKey) :=
  load APIKey.postInit (Rows.find APIKey.id self.apiKeys keyId)

/-- What is loaded is the row. -/
theorem load_eq_some_iff {α : Type} {postInit : α → Except PyError α}
    (hinit : ∀ {a b}, postInit a = .ok b → b = a) {row : Option α} {a : α} :
    load postInit row = .ok (some a) ↔ row = some a ∧ postInit a = .ok a := by
  cases row with
  | none => simp [load]
  | some model =>
    rw [load, Option.some.injEq]
    cases h : postInit model with
    | error e =>
      refine ⟨fun hload => (by cases hload), ?_⟩
      rintro ⟨rfl, hok⟩
      rw [h] at hok
      cases hok
    | ok b =>
      obtain rfl := hinit h
      constructor
      · rintro ⟨⟩
        exact ⟨rfl, h⟩
      · rintro ⟨rfl, -⟩
        rfl

variable {self : Accounts}

/-- A user is found exactly if its identifier has a row, and the row passes the checks of the constructor. -/
theorem getUser_eq_some_iff {userId : UUID} {user : User} :
    self.getUser userId = .ok (some user) ↔
      Rows.find User.id self.users userId = some user ∧ user.postInit = .ok user :=
  load_eq_some_iff User.postInit_eq_ok

/-- An API key is found on the same condition. -/
theorem getAPIKey_eq_some_iff {keyId : UUID} {key : APIKey} :
    self.getAPIKey keyId = .ok (some key) ↔
      Rows.find APIKey.id self.apiKeys keyId = some key ∧ key.postInit = .ok key :=
  load_eq_some_iff APIKey.postInit_eq_ok

end Accounts

end AgentRuntime
