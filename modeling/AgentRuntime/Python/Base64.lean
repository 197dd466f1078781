import Mathlib.Tactic.Common

/-!
# Bytes as text

`str.encode` and `bytes.decode` in UTF-8, and `base64.b64encode` and `b64decode`. The decoder is
`binascii.a2b_base64`: it passes over characters that are not in the alphabet, collects four at a time,
and stops where padding completes a group.
-/

namespace AgentRuntime

/-- `text.encode("utf-8")`. -/
def encodeUtf8 (text : String) : List UInt8 := text.toByteArray.data.toList

/-- `data.decode("utf-8")`, if the bytes are valid. -/
def decodeUtf8? (data : List UInt8) : Option String := String.fromUTF8? ⟨data.toArray⟩

/-- A text is what its bytes spell. -/
theorem decodeUtf8?_encodeUtf8 (text : String) : decodeUtf8? (encodeUtf8 text) = some text := by
  have hbytes : (⟨(encodeUtf8 text).toArray⟩ : ByteArray) = text.toByteArray := by
    simp [encodeUtf8]
  rw [decodeUtf8?, hbytes, String.fromUTF8?, dif_pos text.isValidUTF8]
  rfl

namespace Base64

/-- The character of six bits. -/
def char (n : Nat) : Char :=
  if n < 26 then Char.ofNat (65 + n)
  else if n < 52 then Char.ofNat (71 + n)
  else if n < 62 then Char.ofNat (n - 4)
  else if n = 62 then '+'
  else '/'

/-- The six bits of a character of the alphabet. -/
def value? (c : Char) : Option Nat :=
  if 'A' ≤ c ∧ c ≤ 'Z' then some (c.toNat - 65)
  else if 'a' ≤ c ∧ c ≤ 'z' then some (c.toNat - 71)
  else if '0' ≤ c ∧ c ≤ '9' then some (c.toNat + 4)
  else if c = '+' then some 62
  else if c = '/' then some 63
  else none

/-- A character of the alphabet has the value that it stands for. -/
theorem value?_char {n : Nat} (h : n < 64) : value? (char n) = some n := by
  revert n
  decide +kernel

/-- None of them is the padding. -/
theorem char_ne_pad {n : Nat} (h : n < 64) : char n ≠ '=' := by
  revert n
  decide +kernel

/-- The characters of the bytes, in groups of four. -/
def encode : List UInt8 → List Char
  | [] => []
  | [a] => [char (a.toNat / 4), char (a.toNat % 4 * 16), '=', '=']
  | [a, b] =>
    [char (a.toNat / 4), char (a.toNat % 4 * 16 + b.toNat / 16), char (b.toNat % 16 * 4), '=']
  | a :: b :: c :: rest =>
    char (a.toNat / 4) :: char (a.toNat % 4 * 16 + b.toNat / 16) ::
      char (b.toNat % 16 * 4 + c.toNat / 64) :: char (c.toNat % 64) :: encode rest

/-- The decoder within a group: how many of its characters have come, the bits that are left of them, the
padding, and how many characters of the alphabet have come in all. -/
structure State where
  position : Nat := 0
  left : Nat := 0
  pads : Nat := 0
  count : Nat := 0

/-- One character of the alphabet: the byte that it completes, if any. -/
def State.take (self : State) (value : Nat) : Option UInt8 × State :=
  match self.position with
  | 0 => (none, { position := 1, left := value, count := self.count + 1 })
  | 1 =>
    (some (UInt8.ofNat (self.left * 4 + value / 16)),
      { position := 2, left := value % 16, count := self.count + 1 })
  | 2 =>
    (some (UInt8.ofNat (self.left * 16 + value / 4)),
      { position := 3, left := value % 4, count := self.count + 1 })
  | _ => (some (UInt8.ofNat (self.left * 64 + value)), { count := self.count + 1 })

/-- The bytes of the rest of the characters. -/
def decode (self : State) : List Char → Except String (List UInt8)
  | [] =>
    match self.position with
    | 0 => .ok []
    | 1 => .error (s!"Invalid base64-encoded string: number of data characters ({self.count}) " ++
        "cannot be 1 more than a multiple of 4")
    | _ => .error "Incorrect padding"
  | c :: rest =>
    if c = '=' then
      if 2 ≤ self.position then
        if 4 ≤ self.position + (self.pads + 1) then .ok []
        else decode { self with pads := self.pads + 1 } rest
      else decode self rest
    else
      match value? c with
      | none => decode self rest
      | some value =>
        match self.take value with
        | (none, next) => decode next rest
        | (some b, next) => (b :: ·) <$> decode next rest

/-- The decoder takes six bits from such a character, and gives a byte when it has eight. -/
theorem decode_char {self : State} {n : Nat} (h : n < 64) (rest : List Char) :
    decode self (char n :: rest) = match self.take n with
      | (none, next) => decode next rest
      | (some b, next) => (b :: ·) <$> decode next rest := by
  rw [decode, if_neg (char_ne_pad h), value?_char h]

/-- The bytes that were encoded are decoded. -/
theorem decode_encode (data : List UInt8) (count : Nat) :
    decode { count } (encode data) = .ok data := by
  have hbyte (a : UInt8) : a.toNat < 256 := a.toNat_lt
  have heq (a : UInt8) (n : Nat) (h : n = a.toNat) : UInt8.ofNat n = a := by
    rw [h, UInt8.ofNat_toNat]
  induction data using encode.induct generalizing count with
  | case1 => rfl
  | case2 a =>
    have ha := hbyte a
    rw [encode, decode_char (by omega)]
    simp only [State.take]
    rw [decode_char (by omega)]
    simp only [State.take]
    rw [heq a (a.toNat / 4 * 4 + a.toNat % 4 * 16 / 16) (by omega)]
    rfl
  | case3 a b =>
    have ha := hbyte a
    have hb := hbyte b
    rw [encode, decode_char (by omega)]
    simp only [State.take]
    rw [decode_char (by omega)]
    simp only [State.take]
    rw [decode_char (by omega), heq a _ (by omega)]
    simp only [State.take]
    rw [heq b _ (by omega)]
    rfl
  | case4 a b c rest ih =>
    have ha := hbyte a
    have hb := hbyte b
    have hc := hbyte c
    rw [encode, decode_char (by omega)]
    simp only [State.take]
    rw [decode_char (by omega)]
    simp only [State.take]
    rw [decode_char (by omega), heq a _ (by omega)]
    simp only [State.take]
    rw [decode_char (by omega), heq b _ (by omega)]
    simp only [State.take]
    rw [heq c _ (by omega), ih]
    rfl

end Base64

/-- `base64.b64encode(data).decode("utf-8")`. -/
def b64encode (data : List UInt8) : String := String.ofList (Base64.encode data)

/-- `base64.b64decode(text.encode("utf-8"))`: no byte of a character outside ASCII is in the alphabet. -/
def b64decode (text : String) : Except String (List UInt8) := Base64.decode {} text.toList

/-- Bytes that were encoded are decoded as they were. -/
theorem b64decode_b64encode (data : List UInt8) : b64decode (b64encode data) = .ok data := by
  rw [b64decode, b64encode, String.toList_ofList, Base64.decode_encode]

end AgentRuntime
