import AgentRuntime.Python.Hexadecimal
import AgentRuntime.Python.Integers

/-!
# Password hashes

`app/infrastructure/auth/password.py`: the text of a hash holds the algorithm, the iterations, the salt and
the derived key between dollar signs. A hash that was made of a password verifies exactly the passwords with
the same derived key (`verifyPassword_hashPassword`). A text that is no hash is not verified, and raises
nothing but the `OverflowError` of numbers that PBKDF2 does not take (`verifyPassword_eq_error_iff`).
-/

namespace AgentRuntime

/-- PBKDF2 with HMAC-SHA256, on arguments that it takes. -/
structure Pbkdf2 where
  derive : (password salt : List UInt8) → (iterations dklen : Nat) → List UInt8
  length_derive : ∀ password salt iterations dklen, (derive password salt iterations dklen).length = dklen

namespace Password

def hashAlgorithm : String := "sha256"

def iterations : Nat := 100000

def saltLength : Nat := 32

def hashLength : Nat := 32

/-- `INT_MAX`. -/
def intMax : Nat := 2 ^ 31 - 1

def overflowError : PyError := .external "OverflowError"

/-- `pbkdf2_hmac`, with what it raises: `iterations` is read into a C `long` first. -/
def pbkdf2Hmac (pbkdf2 : Pbkdf2) (password salt : List UInt8) (iterations : Int) (dklen : Nat) :
    Except PyError (List UInt8) :=
  if iterations < -2 ^ 63 ∨ 2 ^ 63 ≤ iterations then .error overflowError
  else if intMax < password.length ∨ intMax < salt.length then .error overflowError
  else if iterations < 1 then .error (.valueError "iteration value must be greater than 0.")
  else if intMax < iterations then .error overflowError
  else if dklen < 1 then .error (.valueError "key length must be greater than 0.")
  else if intMax < dklen then .error overflowError
  else .ok (pbkdf2.derive password salt iterations.toNat dklen)

/-- `password.encode("utf-8")`. -/
def encode (password : String) : List UInt8 := password.toUTF8.data.toList

/-- `hash_password`, with the salt that `secrets.token_bytes` gives. -/
def hashPassword (pbkdf2 : Pbkdf2) (salt : List UInt8) (password : String) : Except PyError String := do
  if password = "" then throw (.valueError "Password cannot be empty")
  let hashBytes ← pbkdf2Hmac pbkdf2 (encode password) salt iterations hashLength
  return String.ofList
    (hashAlgorithm.toList ++
      '$' :: ((toString (iterations : Int)).toList ++ '$' :: (hex salt ++ '$' :: hex hashBytes)))

/-- What a function returns that raises `ValueError` where it reads nothing. -/
def orValueError {α : Type} (value : Option α) : Except PyError α :=
  match value with
  | some a => .ok a
  | none => .error (.valueError "invalid literal")

/-- The body of the `try` statement. -/
def verifyParts (digits : DecimalDigits) (pbkdf2 : Pbkdf2) (password : String) :
    List (List Char) → Except PyError Bool
  | [algorithm, iterationsStr, saltHex, hashHex] =>
    if algorithm ≠ hashAlgorithm.toList then .ok false
    else do
      let iterations ← orValueError (digits.intOfStr? (String.ofList iterationsStr))
      let salt ← orValueError (fromHex saltHex)
      let expectedHash ← orValueError (fromHex hashHex)
      let computedHash ← pbkdf2Hmac pbkdf2 (encode password) salt iterations expectedHash.length
      return computedHash = expectedHash
  | _ => .ok false

/-- `verify_password`. -/
def verifyPassword (digits : DecimalDigits) (pbkdf2 : Pbkdf2) (password passwordHash : String) :
    Except PyError Bool :=
  if password = "" ∨ passwordHash = "" then .ok false
  else
    match verifyParts digits pbkdf2 password (passwordHash.toList.splitOn '$') with
    | .error (.valueError _) | .error (.attributeError _) => .ok false
    | result => result

/-! ## Keys -/

section
variable {digits : DecimalDigits} {pbkdf2 : Pbkdf2} {salt : List UInt8} {password passwordHash : String}

/-- Hexadecimal digits have no dollar sign among them. -/
theorem dollar_notMem_hex (data : List UInt8) : '$' ∉ hex data := fun h =>
  absurd (isSome_hexDigit_of_mem_hex h) (by decide)

/-- A decimal number has none either. -/
theorem dollar_notMem_toDigits (n : Nat) : '$' ∉ (toString (n : Int)).toList := by
  rw [toList_toString_natCast]
  intro h
  exact absurd (Nat.isDigit_of_mem_toDigits (by decide) (by decide) h) (by decide)

/-- A text between dollar signs, in its four parts. -/
theorem splitOn_hash (iterations : Nat) (salt hash : List UInt8) :
    (String.ofList (hashAlgorithm.toList ++
        '$' :: ((toString (iterations : Int)).toList ++ '$' :: (hex salt ++ '$' :: hex hash)))).toList.splitOn '$' =
      [hashAlgorithm.toList, (toString (iterations : Int)).toList, hex salt, hex hash] := by
  rw [String.toList_ofList, List.splitOn_append_cons_self_of_not_mem (by decide),
    List.splitOn_append_cons_self_of_not_mem (dollar_notMem_toDigits _),
    List.splitOn_append_cons_self_of_not_mem (dollar_notMem_hex _),
    List.splitOn_eq_singleton (dollar_notMem_hex _)]

/-- The arguments of which PBKDF2 makes a key. -/
def Takes (password salt : List UInt8) (iterations : Int) (dklen : Nat) : Prop :=
  password.length ≤ intMax ∧ salt.length ≤ intMax ∧ 1 ≤ iterations ∧ iterations ≤ intMax ∧ 1 ≤ dklen ∧
    dklen ≤ intMax

/-- The arguments that a C integer does not hold. -/
def Overflows (password salt : List UInt8) (iterations : Int) (dklen : Nat) : Prop :=
  iterations < -2 ^ 63 ∨ intMax < iterations ∨ intMax < password.length ∨ intMax < salt.length ∨
    1 ≤ iterations ∧ intMax < dklen

instance (password salt : List UInt8) (n : Int) (dklen : Nat) : Decidable (Takes password salt n dklen) :=
  inferInstanceAs (Decidable (_ ∧ _))

instance (password salt : List UInt8) (n : Int) (dklen : Nat) : Decidable (Overflows password salt n dklen) :=
  inferInstanceAs (Decidable (_ ∨ _))

section
variable {passwordBytes saltBytes key : List UInt8} {n : Int} {dklen : Nat}

/-- PBKDF2 makes a key of the arguments that it takes. -/
theorem pbkdf2Hmac_of_takes (h : Takes passwordBytes saltBytes n dklen) :
    pbkdf2Hmac pbkdf2 passwordBytes saltBytes n dklen =
      .ok (pbkdf2.derive passwordBytes saltBytes n.toNat dklen) := by
  have hmax : (intMax : Int) = 2147483647 := rfl
  obtain ⟨hpassword, hsalt, hpos, hle, hkey, hkeyLe⟩ := h
  rw [pbkdf2Hmac, if_neg (by omega), if_neg (by omega), if_neg (by omega), if_neg (by omega), if_neg (by omega),
    if_neg (by omega)]

/-- On arguments that a C integer does not hold, it raises an `OverflowError`. -/
theorem pbkdf2Hmac_of_overflows (h : Overflows passwordBytes saltBytes n dklen) :
    pbkdf2Hmac pbkdf2 passwordBytes saltBytes n dklen = .error overflowError := by
  have hmax : (intMax : Int) = 2147483647 := rfl
  unfold Overflows at h
  unfold pbkdf2Hmac
  split_ifs <;> first | rfl | omega

/-- No arguments do both. -/
theorem Overflows.not_takes (h : Overflows passwordBytes saltBytes n dklen) :
    ¬Takes passwordBytes saltBytes n dklen := by
  have hmax : (intMax : Int) = 2147483647 := rfl
  unfold Overflows at h
  unfold Takes
  omega

/-- On all others PBKDF2 raises a `ValueError`. -/
theorem pbkdf2Hmac_of_not (pbkdf2 : Pbkdf2) (htakes : ¬Takes passwordBytes saltBytes n dklen)
    (hoverflows : ¬Overflows passwordBytes saltBytes n dklen) :
    ∃ message, pbkdf2Hmac pbkdf2 passwordBytes saltBytes n dklen = .error (.valueError message) := by
  have hmax : (intMax : Int) = 2147483647 := rfl
  unfold Takes at htakes
  unfold Overflows at hoverflows
  unfold pbkdf2Hmac
  split_ifs <;> first | exact ⟨_, rfl⟩ | omega

end

/-! ## What a text says -/

/-- The iterations, the salt and the key of a text, where it is the text of a hash. -/
def readHash (digits : DecimalDigits) (passwordHash : String) : Option (Int × List UInt8 × List UInt8) :=
  match passwordHash.toList.splitOn '$' with
  | [algorithm, iterationsStr, saltHex, hashHex] =>
    if algorithm = hashAlgorithm.toList then do
      let n ← digits.intOfStr? (String.ofList iterationsStr)
      let salt ← fromHex saltHex
      let key ← fromHex hashHex
      some (n, salt, key)
    else none
  | _ => none

/-- An empty text is no hash of a password. -/
theorem readHash_empty (digits : DecimalDigits) : readHash digits "" = none := rfl

/-- The parts of a text that is no hash are not verified. -/
theorem verifyParts_of_readHash_eq_none (pbkdf2 : Pbkdf2) (password : String)
    (h : readHash digits passwordHash = none) :
    verifyParts digits pbkdf2 password (passwordHash.toList.splitOn '$') = .ok false ∨
      ∃ message,
        verifyParts digits pbkdf2 password (passwordHash.toList.splitOn '$') = .error (.valueError message) := by
  unfold readHash at h
  split at h
  · next algorithm iterationsStr saltHex hashHex hparts =>
    rw [hparts]
    by_cases halgorithm : algorithm = hashAlgorithm.toList
    · rw [if_pos halgorithm] at h
      rw [verifyParts, if_neg (not_not.2 halgorithm)]
      right
      cases hn : digits.intOfStr? (String.ofList iterationsStr) with
      | none => exact ⟨_, rfl⟩
      | some n =>
        cases hsalt : fromHex saltHex with
        | none => exact ⟨_, rfl⟩
        | some salt =>
          cases hkey : fromHex hashHex with
          | none => exact ⟨_, rfl⟩
          | some key =>
            rw [hn, hsalt, hkey] at h
            cases h
    · rw [verifyParts, if_pos halgorithm]
      exact Or.inl rfl
  · next hnot =>
    left
    unfold verifyParts
    split
    · next algorithm iterationsStr saltHex hashHex hparts => exact absurd hparts (hnot _ _ _ _)
    · rfl

/-- The parts of a hash are verified with the key that PBKDF2 makes. -/
theorem verifyParts_of_readHash_eq_some {n : Int} {key : List UInt8}
    (h : readHash digits passwordHash = some (n, salt, key)) :
    verifyParts digits pbkdf2 password (passwordHash.toList.splitOn '$') =
      (pbkdf2Hmac pbkdf2 (encode password) salt n key.length).map fun computedHash =>
        decide (computedHash = key) := by
  unfold readHash at h
  split at h
  · next algorithm iterationsStr saltHex hashHex hparts =>
    rw [hparts]
    by_cases halgorithm : algorithm = hashAlgorithm.toList
    · rw [if_pos halgorithm] at h
      rw [verifyParts, if_neg (not_not.2 halgorithm)]
      simp only [Option.bind_eq_bind, Option.bind_eq_some_iff] at h
      obtain ⟨n', hn, salt', hsalt, key', hkey, heq⟩ := h
      cases heq
      rw [hn, hsalt, hkey]
      rfl
    · rw [if_neg halgorithm] at h
      cases h
  · cases h

/-- What `verify_password` answers, by what the text says. -/
theorem verifyPassword_eq (hpassword : password ≠ "") :
    verifyPassword digits pbkdf2 password passwordHash =
      match readHash digits passwordHash with
      | none => .ok false
      | some (n, salt, key) =>
        if Overflows (encode password) salt n key.length then .error overflowError
        else .ok (decide (Takes (encode password) salt n key.length ∧
          pbkdf2.derive (encode password) salt n.toNat key.length = key)) := by
  unfold verifyPassword
  cases hread : readHash digits passwordHash with
  | none =>
    split
    · rfl
    · rcases verifyParts_of_readHash_eq_none pbkdf2 password hread with hfalse | ⟨m, herror⟩
      · rw [hfalse]
      · rw [herror]
  | some hash =>
    obtain ⟨n, salt, key⟩ := hash
    have htext : passwordHash ≠ "" := by
      rintro rfl
      rw [readHash_empty] at hread
      cases hread
    rw [if_neg (not_or.2 ⟨hpassword, htext⟩), verifyParts_of_readHash_eq_some hread]
    by_cases hoverflows : Overflows (encode password) salt n key.length
    · rw [pbkdf2Hmac_of_overflows hoverflows]
      exact (if_pos hoverflows).symm
    by_cases htakes : Takes (encode password) salt n key.length
    · rw [pbkdf2Hmac_of_takes htakes]
      simp [Except.map, hoverflows, htakes]
    · obtain ⟨message, herror⟩ := pbkdf2Hmac_of_not pbkdf2 htakes hoverflows
      rw [herror]
      simp [Except.map, hoverflows, htakes]

/-- What `verify_password` answers on any two texts. It raises only an `OverflowError`, and exactly where the
password is not empty and the text is a hash of numbers that a C integer does not hold. It is true exactly where
the text is a hash whose arguments PBKDF2 takes, and whose key it makes of the password. Every other text is
answered with false: also one that is no hash. -/
theorem verifyPassword_eq_error_iff (digits : DecimalDigits) (pbkdf2 : Pbkdf2) (password passwordHash : String) :
    (∀ error, verifyPassword digits pbkdf2 password passwordHash = .error error ↔
      error = overflowError ∧ password ≠ "" ∧ ∃ n salt key, readHash digits passwordHash = some (n, salt, key) ∧
        Overflows (encode password) salt n key.length) ∧
    (verifyPassword digits pbkdf2 password passwordHash = .ok true ↔
      password ≠ "" ∧ ∃ n salt key, readHash digits passwordHash = some (n, salt, key) ∧
        Takes (encode password) salt n key.length ∧
          pbkdf2.derive (encode password) salt n.toNat key.length = key) ∧
    (readHash digits passwordHash = none → verifyPassword digits pbkdf2 password passwordHash = .ok false) := by
  by_cases hpassword : password = ""
  · rw [verifyPassword, if_pos (Or.inl hpassword)]
    simp [hpassword]
  rw [verifyPassword_eq hpassword]
  cases hread : readHash digits passwordHash with
  | none => simp
  | some hash =>
    obtain ⟨n, salt, key⟩ := hash
    by_cases hoverflows : Overflows (encode password) salt n key.length
    · have htakes : ¬Takes (encode password) salt n key.length := hoverflows.not_takes
      simp [hoverflows, hpassword, htakes, eq_comm]
    · simp [hoverflows, hpassword]

/-! ## Hashes that were made -/

/-- The three dollar signs of a stored hash are the only ones, so its iterations, salt and key are read back
as they were written. -/
theorem readHash_hash (digits : DecimalDigits) {n : Nat} (hdigits : (Nat.toDigits 10 n).length ≤ maxStrDigits)
    (salt key : List UInt8) :
    readHash digits (String.ofList (hashAlgorithm.toList ++
        '$' :: ((toString (n : Int)).toList ++ '$' :: (hex salt ++ '$' :: hex key)))) =
      some ((n : Int), salt, key) := by
  rw [readHash, splitOn_hash]
  simp only [if_true, fromHex_hex, String.ofList_toList, digits.intOfStr?_natCast hdigits]
  rfl

/-- What a made hash holds. -/
theorem eq_of_hashPassword (h : hashPassword pbkdf2 salt password = .ok passwordHash) :
    Takes (encode password) salt iterations hashLength ∧
      passwordHash = String.ofList (hashAlgorithm.toList ++ '$' :: ((toString (iterations : Int)).toList ++
        '$' :: (hex salt ++ '$' :: hex (pbkdf2.derive (encode password) salt iterations hashLength)))) := by
  unfold hashPassword at h
  split at h
  · cases h
  by_cases htakes : Takes (encode password) salt iterations hashLength
  · rw [pbkdf2Hmac_of_takes htakes] at h
    cases h
    exact ⟨htakes, rfl⟩
  by_cases hoverflows : Overflows (encode password) salt iterations hashLength
  · rw [pbkdf2Hmac_of_overflows hoverflows] at h
    cases h
  · obtain ⟨message, herror⟩ := pbkdf2Hmac_of_not pbkdf2 htakes hoverflows
    rw [herror] at h
    cases h

/-- A hash that was made verifies the passwords with the key of the one that it was made of, for any
derivation of keys and any salt. -/
theorem verifyPassword_hashPassword (h : hashPassword pbkdf2 salt password = .ok passwordHash) (password' : String) :
    verifyPassword digits pbkdf2 password' passwordHash =
      if password' = "" then .ok false
      else if intMax < (encode password').length then .error overflowError
      else .ok (decide (pbkdf2.derive (encode password') salt iterations hashLength =
        pbkdf2.derive (encode password) salt iterations hashLength)) := by
  obtain ⟨⟨-, hsalt, hrest⟩, rfl⟩ := eq_of_hashPassword h
  set key := pbkdf2.derive (encode password) salt iterations hashLength
  have hkey : key.length = hashLength := pbkdf2.length_derive _ _ _ _
  by_cases hempty : password' = ""
  · rw [if_pos hempty, verifyPassword, if_pos (Or.inl hempty)]
  rw [if_neg hempty, verifyPassword_eq hempty, readHash_hash digits (by decide)]
  dsimp only
  have hoverflows : Overflows (encode password') salt iterations key.length ↔ intMax < (encode password').length := by
    unfold Overflows
    omega
  by_cases hlong : intMax < (encode password').length
  · rw [if_pos hlong, if_pos (hoverflows.2 hlong)]
  · have htakes : Takes (encode password') salt iterations key.length := ⟨Nat.le_of_not_lt hlong, hsalt, hkey ▸ hrest⟩
    rw [if_neg hlong, if_neg (mt hoverflows.1 hlong), hkey]
    simp [hkey ▸ htakes]

end

/-- A salt of 32 bytes. -/
def countingSalt : List UInt8 := (List.range saltLength).map UInt8.ofNat

/-- The keys of two passwords under one salt. -/
def derivedKeys : Pbkdf2 where
  derive password salt n dklen :=
    if salt = countingSalt ∧ n = 100000 ∧ dklen = 32 ∧ password = encode "secret" then
      [149, 225, 165, 231, 65, 177, 228, 241, 19, 114, 222, 233, 170, 215, 238, 181, 155, 67, 144, 9, 82, 54, 62, 225,
        135, 224, 152, 136, 19, 154, 63, 52]
    else if salt = countingSalt ∧ n = 100000 ∧ dklen = 32 ∧ password = encode "Secret" then
      [132, 173, 76, 196, 187, 180, 195, 118, 235, 160, 196, 162, 21, 99, 60, 236, 215, 62, 64, 156, 200, 103, 119, 97,
        182, 152, 150, 182, 80, 175, 66, 38]
    else List.replicate dklen 0
  length_derive password salt n dklen := by
    split_ifs with hsecret hcapital
    · exact hsecret.2.2.1.symm
    · exact hcapital.2.2.1.symm
    · exact List.length_replicate

/-- With a random salt and a derivation that tells the two apart, the password is accepted and a password in
another case is not. -/
theorem verifyPassword_hashPassword_secret :
    ∃ passwordHash, hashPassword derivedKeys countingSalt "secret" = .ok passwordHash ∧
      verifyPassword .ascii derivedKeys "secret" passwordHash = .ok true ∧
      verifyPassword .ascii derivedKeys "Secret" passwordHash = .ok false := by
  refine ⟨_, rfl, ?_, ?_⟩
  · have hsecret := @verifyPassword_hashPassword .ascii derivedKeys countingSalt "secret" _ rfl "secret"
    exact hsecret.trans (by decide)
  · have hcapital := @verifyPassword_hashPassword .ascii derivedKeys countingSalt "secret" _ rfl "Secret"
    exact hcapital.trans (by decide)

end Password

end AgentRuntime
