import Mathlib.Tactic.Common

/-!
# Values the source computes with

Identifiers, times, JSON data and exceptions, as the modelled Python code uses them. A time is a
number of microseconds; `Time.replaceSecond` is `datetime.replace(second=…)`, which raises outside
`0..59`. Floats occur only as data that is passed on, so a JSON float is kept as its text.
-/

namespace AgentRuntime

/-- A `uuid.UUID`, by its 128-bit integer. -/
structure UUID where
  val : Nat
  deriving DecidableEq, Repr, Inhabited

/-- `str(uuid)`: 32 hexadecimal digits in groups of 8, 4, 4, 4 and 12. -/
def UUID.str (u : UUID) : String :=
  let digits := Nat.toDigits 16 u.val
  let hex := List.replicate (32 - digits.length) '0' ++ digits
  let group (i n : Nat) := (hex.drop i).take n
  String.ofList (group 0 8 ++ '-' :: group 8 4 ++ '-' :: group 12 4 ++ '-' :: group 16 4 ++
    '-' :: group 20 12)

/-- The value of a hexadecimal digit. -/
def hexDigit? (c : Char) : Option Nat :=
  if '0' ≤ c && c ≤ '9' then some (c.toNat - '0'.toNat)
  else if 'a' ≤ c && c ≤ 'f' then some (c.toNat - 'a'.toNat + 10)
  else if 'A' ≤ c && c ≤ 'F' then some (c.toNat - 'A'.toNat + 10)
  else none

/-- `UUID(text)`: 32 hexadecimal digits, hyphens ignored. -/
def UUID.ofStr? (text : String) : Option UUID :=
  match (text.toList.filter (· ≠ '-')).mapM hexDigit? with
  | some digits =>
    if digits.length = 32 then some ⟨digits.foldl (fun n d => n * 16 + d) 0⟩ else none
  | none => none

/-- `next((a for a in l if p(a)), None)` finds exactly the `a` of the list with `p(a)`, if it is the
only one. -/
theorem find?_eq_some_iff_of_unique {α : Type} {p : α → Bool} {l : List α}
    (hunique : ∀ a ∈ l, ∀ b ∈ l, p a = true → p b = true → a = b) {a : α} :
    l.find? p = some a ↔ a ∈ l ∧ p a = true := by
  constructor
  · intro h
    exact ⟨List.mem_of_find?_eq_some h, List.find?_some h⟩
  · rintro ⟨hmem, ha⟩
    obtain ⟨b, hb⟩ := Option.isSome_iff_exists.1 (List.find?_isSome.2 ⟨a, hmem, ha⟩)
    rw [hb, hunique b (List.mem_of_find?_eq_some hb) a hmem (List.find?_some hb) ha]

/-! ## JSON data -/

/-- A JSON value; `dict` keeps the insertion order of the keys. -/
inductive Json where
  | null
  | bool (b : Bool)
  | int (n : Int)
  | float (text : String)
  | str (s : String)
  | list (xs : List Json)
  | dict (entries : List (String × Json))
  deriving Repr, Inhabited

/-- A `dict[str, Any]`. -/
abbrev Dict := List (String × Json)

/-- `d.get(key)`. -/
def Dict.get? (d : Dict) (key : String) : Option Json :=
  (d.find? fun entry => entry.1 == key).map Prod.snd

/-- `d[key] = value`. -/
def Dict.set (d : Dict) (key : String) (value : Json) : Dict :=
  if d.any fun entry => entry.1 == key then
    d.map fun entry => if entry.1 == key then (key, value) else entry
  else d ++ [(key, value)]

/-- A dictionary with a key that was set is not empty. -/
theorem Dict.set_ne_nil (d : Dict) (key : String) (value : Json) : d.set key value ≠ [] := by
  unfold Dict.set
  split
  · next hany =>
    intro hmap
    rw [List.map_eq_nil_iff.1 hmap] at hany
    cases hany
  · exact List.append_ne_nil_of_right_ne_nil d (List.cons_ne_nil _ _)

/-- The first entry is found under its key, and hides the later ones with it. -/
theorem Dict.get?_cons (entry : String × Json) (d : Dict) (key : String) :
    Dict.get? (entry :: d) key = if entry.1 == key then some entry.2 else d.get? key := by
  unfold Dict.get?
  rw [List.find?_cons]
  split <;> simp [*]

/-- In two dictionaries, one after the other, the first is looked at first. -/
theorem Dict.get?_append (d d' : Dict) (key : String) :
    Dict.get? (d ++ d') key = (d.get? key).or (d'.get? key) := by
  simp [Dict.get?, List.find?_append, Option.map_or]

/-- A key is missing exactly if no entry has it. -/
theorem Dict.get?_eq_none {d : Dict} {key : String} :
    d.get? key = none ↔ d.any (fun entry => entry.1 == key) = false := by
  simp [Dict.get?]

/-- What was assigned is found. -/
@[simp] theorem Dict.get?_set_self (d : Dict) (key : String) (value : Json) :
    (d.set key value).get? key = some value := by
  cases hany : d.any fun entry => entry.1 == key with
  | false =>
    have hset : d.set key value = d ++ [(key, value)] := by rw [Dict.set, hany, if_neg nofun]
    rw [hset, Dict.get?_append, Dict.get?_eq_none.2 hany, Dict.get?_cons]
    simp
  | true =>
    rw [Dict.set, if_pos hany]
    induction d with
    | nil => cases hany
    | cons entry d ih =>
      rw [List.map_cons, Dict.get?_cons]
      cases hentry : entry.1 == key with
      | true => simp
      | false =>
        rw [List.any_cons, hentry, Bool.false_or] at hany
        simpa [hentry] using ih hany

/-- Other keys keep what they have. -/
theorem Dict.get?_set_of_ne {key key' : String} (h : key' ≠ key) (d : Dict) (value : Json) :
    (d.set key value).get? key' = d.get? key' := by
  have hkey : (key == key') = false := beq_eq_false_iff_ne.2 (Ne.symm h)
  have hlast : Dict.get? [(key, value)] key' = none := by
    rw [Dict.get?_cons, hkey]
    rfl
  unfold Dict.set
  split
  · next hany =>
    clear hany
    induction d with
    | nil => rfl
    | cons entry d ih =>
      rw [List.map_cons, Dict.get?_cons, Dict.get?_cons, ih]
      cases hentry : entry.1 == key with
      | true =>
        have hother : (entry.1 == key') = false := by rwa [beq_iff_eq.1 hentry]
        simp [hkey, hother]
      | false => simp
  · rw [Dict.get?_append, hlast, Option.or_none]

/-- No key is there twice. -/
theorem Dict.nodup_set {d : Dict} (h : (d.map Prod.fst).Nodup) (key : String) (value : Json) :
    ((d.set key value).map Prod.fst).Nodup := by
  unfold Dict.set
  split
  · have hkeys (entry : String × Json) :
        (if entry.1 == key then (key, value) else entry).1 = entry.1 := by
      split
      · next hentry => exact (beq_iff_eq.1 hentry).symm
      · rfl
    rw [List.map_map]
    exact (List.map_congr_left fun entry _ => hkeys entry) ▸ h
  · next hany =>
    rw [List.map_append, List.nodup_append]
    refine ⟨h, List.pairwise_singleton _ key, fun key' hkey' key'' hkey'' => ?_⟩
    obtain ⟨entry, hentry, rfl⟩ := List.mem_map.1 hkey'
    obtain rfl := List.mem_singleton.1 hkey''
    exact fun heq => hany (List.any_eq_true.2 ⟨entry, hentry, beq_iff_eq.2 heq⟩)

/-- `bool(value)`. A float is kept as its `repr`, which is one of two texts for a zero. -/
def Json.truthy : Json → Bool
  | .null => false
  | .bool b => b
  | .int n => n != 0
  | .float text => text != "0.0" && text != "-0.0"
  | .str s => s != ""
  | .list xs => !xs.isEmpty
  | .dict entries => !entries.isEmpty

/-- `c.isspace()`: the characters `str.strip` removes. -/
def isSpace (c : Char) : Bool :=
  let n := c.toNat
  (9 ≤ n && n ≤ 13) || (28 ≤ n && n ≤ 32) || n == 0x85 || n == 0xa0 || n == 0x1680 ||
    (0x2000 ≤ n && n ≤ 0x200a) || n == 0x2028 || n == 0x2029 || n == 0x202f || n == 0x205f ||
    n == 0x3000

/-- `not s or not s.strip()` of a string: nothing but white space. -/
def isBlank (s : String) : Bool := s.toList.all isSpace

/-! ## Exceptions -/

/-- An exception, by its class. `external` stands for the exceptions of libraries and services that
are not part of the source. -/
inductive PyError where
  | valueError (message : String)
  | typeError (message : String)
  | attributeError (message : String)
  | keyError (key : String)
  | memoryQuotaExceeded (message : String)
  | encryptionError (message : String)
  | toolApprovalRequired (approvalId : Option UUID)
  | toolExecutionDenied (reason : String)
  | notFound (message : String)
  | external (message : String)
  deriving DecidableEq, Repr

/-- `str(approval_id)` of an optional identifier. -/
def optionUUIDStr : Option UUID → String
  | some u => u.str
  | none => "None"

/-- `str(e)`. -/
def PyError.str : PyError → String
  | .valueError message => message
  | .typeError message => message
  | .attributeError message => message
  | .keyError key => s!"'{key}'"
  | .memoryQuotaExceeded message => message
  | .encryptionError message => message
  | .toolApprovalRequired approvalId =>
    s!"Tool execution requires approval: {optionUUIDStr approvalId}"
  | .toolExecutionDenied reason => s!"Tool execution denied: {reason}"
  | .notFound message => message
  | .external message => message

/-- `type(value).__name__`. -/
def Json.typeName : Json → String
  | null => "NoneType"
  | bool _ => "bool"
  | int _ => "int"
  | float _ => "float"
  | str _ => "str"
  | list _ => "list"
  | dict _ => "dict"

/-- The dictionary whose `get` is called. -/
def Json.asDict : Json → Except PyError Dict
  | dict entries => .ok entries
  | value => .error (.attributeError s!"'{value.typeName}' object has no attribute 'get'")

/-! ## Times -/

/-- A time in microseconds. -/
abbrev Time := Nat

namespace Time

def perSecond : Nat := 1000000
def perMinute : Nat := 60 * perSecond
def perHour : Nat := 60 * perMinute
def perDay : Nat := 24 * perHour

/-- `t.second`. -/
def second (t : Time) : Nat := t / perSecond % 60

/-- `t.replace(second=s)`. -/
def replaceSecond (t : Time) (s : Int) : Except PyError Time :=
  if 0 ≤ s ∧ s ≤ 59 then
    .ok (t - t.second * perSecond + s.toNat * perSecond)
  else
    .error (.valueError "second must be in 0..59")

/-- The start of the window of length `width` that `t` lies in, which is what zeroing the smaller
fields of `t` gives for a minute, an hour and a day. -/
def floorTo (t : Time) (width : Nat) : Time := t / width * width

end Time

end AgentRuntime
