import AgentRuntime.Python.Characters
import AgentRuntime.Python.Regex

/-!
# The redaction of log entries

`SensitiveDataRedactor` (`app/infrastructure/observability/logging.py`). A log entry is a dictionary of
values that may hold dictionaries and lists in turn, to any depth. The entry is looked through, and the
dictionaries right below it and in its lists; what is deeper is passed on as it is. So nothing leaks exactly
if there is nothing to redact deeper than that (`redacted_iff`).

Which characters `re.IGNORECASE` takes for one another is a parameter (`sameLetter`).
-/

namespace AgentRuntime

open Regex

/-! ## Values -/

/-- A key of a dictionary; one that is not a string is of no interest. -/
inductive LogKey where
  | str (s : String)
  | other (repr : String)
  deriving DecidableEq, Repr

/-- A value of a log entry. -/
inductive LogValue where
  | none
  | bool (b : Bool)
  | int (n : Int)
  | float (text : String)
  | str (s : String)
  | list (xs : List LogValue)
  | dict (entries : List (LogKey × LogValue))
  deriving Repr

/-- `"[REDACTED]"` -/
def redactionMarker : LogValue := .str "[REDACTED]"

/-- An `event_dict`. -/
abbrev EventDict := List (String × LogValue)

/-! ## The processor -/

/-- Processor to redact sensitive data from log entries. -/
structure SensitiveDataRedactor where
  redactKeys : List String

namespace SensitiveDataRedactor

section
variable (unicode : Unicode) (sameLetter : Char → Char → Bool) (self : SensitiveDataRedactor)

/-- `rf"\b{re.escape(key)}\b"` for each of the keys, with `re.IGNORECASE`. -/
def patterns : List Regex :=
  self.redactKeys.map fun key =>
    seqs (.boundary :: key.toList.map (fun c => .set (sameLetter c)) ++ [.boundary])

/-- Check if a key matches any sensitive pattern. -/
def isSensitiveKey (key : String) : Bool :=
  (self.patterns sameLetter).any fun pattern => pattern.search unicode.isWord key.toList

end

/-! What follows is the same for any way to tell that a key is sensitive. -/

section
variable (sensitive : String → Bool)

/-- `isinstance(k, str) and self._is_sensitive_key(k)`. -/
def sensitiveKey : LogKey → Bool
  | .str key => sensitive key
  | .other _ => false

/-- Recursively redact sensitive keys in a dictionary. -/
def redactDict (data : List (LogKey × LogValue)) : List (LogKey × LogValue) :=
  data.map fun (k, v) => if sensitiveKey sensitive k then (k, redactionMarker) else (k, v)

/-- What becomes of the value of a key that is not sensitive. -/
def redactValue : LogValue → LogValue
  | .dict entries => .dict (redactDict sensitive entries)
  | .list xs =>
    .list <| xs.map fun
      | .dict entries => .dict (redactDict sensitive entries)
      | item => item
  | value => value

/-- Redact sensitive keys from the event dictionary (`__call__`). -/
def call (eventDict : EventDict) : EventDict :=
  eventDict.map fun (key, value) =>
    if sensitive key then (key, redactionMarker) else (key, redactValue sensitive value)

/-! ## Redaction at every depth -/

mutual

/-- No dictionary in the value has anything but the marker under a sensitive key. -/
def Clean : LogValue → Prop
  | .list xs => CleanList xs
  | .dict entries => CleanEntries entries
  | _ => True

/-- `Clean` for the items of a list. -/
def CleanList : List LogValue → Prop
  | [] => True
  | x :: xs => Clean x ∧ CleanList xs

/-- `Clean` for the entries of a dictionary. -/
def CleanEntries : List (LogKey × LogValue) → Prop
  | [] => True
  | (k, v) :: rest =>
    (if sensitiveKey sensitive k then v = redactionMarker else Clean v) ∧ CleanEntries rest

end

mutual

/-- The second value is the first but for what is under sensitive keys. -/
def Agrees : LogValue → LogValue → Prop
  | .list xs, w => ∃ ys, w = .list ys ∧ AgreesList xs ys
  | .dict entries, w => ∃ entries', w = .dict entries' ∧ AgreesEntries entries entries'
  | v, w => w = v

/-- `Agrees` for the items of a list. -/
def AgreesList : List LogValue → List LogValue → Prop
  | [], ys => ys = []
  | x :: xs, ys => ∃ y ys', ys = y :: ys' ∧ Agrees x y ∧ AgreesList xs ys'

/-- `Agrees` for the entries of a dictionary. -/
def AgreesEntries : List (LogKey × LogValue) → List (LogKey × LogValue) → Prop
  | [], entries => entries = []
  | (k, v) :: rest, entries => ∃ v' rest', entries = (k, v') :: rest' ∧
      (sensitiveKey sensitive k = false → Agrees v v') ∧ AgreesEntries rest rest'

end

/-- An event dictionary, as a dictionary. -/
def entriesOf (eventDict : EventDict) : List (LogKey × LogValue) :=
  eventDict.map fun (key, value) => (.str key, value)

/-- Under sensitive keys there is only the marker, at every depth, and the rest is as it was. -/
structure Redacted (eventDict redacted : EventDict) : Prop where
  clean : CleanEntries sensitive (entriesOf redacted)
  agrees : AgreesEntries sensitive (entriesOf eventDict) (entriesOf redacted)

/-- Below the sensitive keys of a dictionary there is nothing to redact. -/
def Shallow (entries : List (LogKey × LogValue)) : Prop :=
  ∀ entry ∈ entries, sensitiveKey sensitive entry.1 = false → Clean sensitive entry.2

/-- There is nothing to redact but in the event dictionary, in the dictionaries that are its values, and in
those that are items of lists that are its values. -/
def ShallowEvent (eventDict : EventDict) : Prop :=
  ∀ entry ∈ eventDict, sensitive entry.1 = false →
    match entry.2 with
    | .dict entries => Shallow sensitive entries
    | .list xs => ∀ x ∈ xs,
      match x with
      | .dict entries => Shallow sensitive entries
      | item => Clean sensitive item
    | _ => True

end

section
variable {sensitive : String → Bool}

/-- `CleanList` in the per-element form. -/
theorem cleanList_iff {xs : List LogValue} : CleanList sensitive xs ↔ ∀ x ∈ xs, Clean sensitive x := by
  induction xs with
  | nil => simp [CleanList]
  | cons x xs ih => simp [CleanList, ih]

/-- `CleanEntries` in the per-element form. -/
theorem cleanEntries_iff {entries : List (LogKey × LogValue)} :
    CleanEntries sensitive entries ↔ ∀ entry ∈ entries,
      if sensitiveKey sensitive entry.1 then entry.2 = redactionMarker else Clean sensitive entry.2 := by
  induction entries with
  | nil => simp [CleanEntries]
  | cons entry entries ih => simp [CleanEntries, ih]

/-- A dictionary that was redacted is clean exactly if there is nothing to redact below it. -/
theorem cleanEntries_redactDict {entries : List (LogKey × LogValue)} :
    CleanEntries sensitive (redactDict sensitive entries) ↔ Shallow sensitive entries := by
  rw [cleanEntries_iff, redactDict, List.forall_mem_map]
  refine forall₂_congr fun entry _ => ?_
  cases hkey : sensitiveKey sensitive entry.1 <;> simp [hkey]

mutual

/-- A value agrees with itself, at every depth. -/
theorem agrees_refl : ∀ v : LogValue, Agrees sensitive v v
  | .list xs => ⟨xs, rfl, agreesList_refl xs⟩
  | .dict entries => ⟨entries, rfl, agreesEntries_refl entries⟩
  | .none | .bool _ | .int _ | .float _ | .str _ => rfl

/-- So does a list. -/
theorem agreesList_refl : ∀ xs : List LogValue, AgreesList sensitive xs xs
  | [] => rfl
  | x :: xs => ⟨x, xs, rfl, agrees_refl x, agreesList_refl xs⟩

/-- So do the entries of a dictionary. -/
theorem agreesEntries_refl : ∀ entries : List (LogKey × LogValue), AgreesEntries sensitive entries entries
  | [] => rfl
  | (_, v) :: rest => ⟨v, rest, rfl, fun _ => agrees_refl v, agreesEntries_refl rest⟩

end

/-- Lists agree if every element agrees with what it is mapped to. -/
theorem agreesList_map {f : LogValue → LogValue} (hf : ∀ x, Agrees sensitive x (f x)) (xs : List LogValue) :
    AgreesList sensitive xs (xs.map f) := by
  induction xs with
  | nil => rfl
  | cons x xs ih => exact ⟨f x, xs.map f, rfl, hf x, ih⟩

/-- Redaction keeps the keys, and what is not under a sensitive key. -/
theorem agreesEntries_redactDict (entries : List (LogKey × LogValue)) :
    AgreesEntries sensitive entries (redactDict sensitive entries) := by
  induction entries with
  | nil => rfl
  | cons entry entries ih =>
    obtain ⟨k, v⟩ := entry
    cases hkey : sensitiveKey sensitive k with
    | true => exact ⟨redactionMarker, _, by simp [redactDict, hkey], by simp [hkey], ih⟩
    | false => exact ⟨v, _, by simp [redactDict, hkey], fun _ => agrees_refl v, ih⟩

/-- A redacted value agrees with the value: only what stands under a sensitive name has changed. -/
theorem agrees_redactValue (value : LogValue) : Agrees sensitive value (redactValue sensitive value) := by
  cases value with
  | dict entries => exact ⟨_, rfl, agreesEntries_redactDict entries⟩
  | list xs =>
    refine ⟨_, rfl, agreesList_map (fun x => ?_) xs⟩
    cases x with
    | dict entries => exact ⟨_, rfl, agreesEntries_redactDict entries⟩
    | none | bool _ | int _ | float _ | str _ | list _ => exact agrees_refl _
  | none | bool _ | int _ | float _ | str _ => rfl

/-- So do the entries of a redacted event. -/
theorem agreesEntries_call (eventDict : EventDict) :
    AgreesEntries sensitive (entriesOf eventDict) (entriesOf (call sensitive eventDict)) := by
  induction eventDict with
  | nil => rfl
  | cons entry eventDict ih =>
    obtain ⟨key, value⟩ := entry
    cases hkey : sensitive key with
    | true => exact ⟨redactionMarker, _, by simp [entriesOf, call, hkey], by simp [sensitiveKey, hkey], ih⟩
    | false => exact ⟨_, _, by simp [entriesOf, call, hkey], fun _ => agrees_redactValue value, ih⟩

/-- Of the values of the event, dictionaries and the dictionaries in lists are redacted. -/
theorem clean_redactValue {value : LogValue} :
    Clean sensitive (redactValue sensitive value) ↔
      match value with
      | .dict entries => Shallow sensitive entries
      | .list xs => ∀ x ∈ xs,
        match x with
        | .dict entries => Shallow sensitive entries
        | item => Clean sensitive item
      | _ => True := by
  cases value with
  | dict entries => exact cleanEntries_redactDict
  | list xs =>
    refine cleanList_iff.trans (List.forall_mem_map.trans (forall₂_congr fun x _ => ?_))
    cases x with
    | dict entries => exact cleanEntries_redactDict
    | none | bool _ | int _ | float _ | str _ | list _ => exact Iff.rfl
  | none | bool _ | int _ | float _ | str _ => exact Iff.rfl

/-- What is left of a redacted event is clean exactly if there is nothing deeper to redact. -/
theorem cleanEntries_call {eventDict : EventDict} :
    CleanEntries sensitive (entriesOf (call sensitive eventDict)) ↔ ShallowEvent sensitive eventDict := by
  rw [cleanEntries_iff, entriesOf, call, List.map_map, List.forall_mem_map]
  refine forall₂_congr fun entry _ => ?_
  cases hkey : sensitive entry.1 with
  | true => simp [sensitiveKey, hkey]
  | false => simpa [sensitiveKey, hkey] using clean_redactValue

end

/-- An event dictionary is redacted at every depth exactly if there is nothing to redact deeper than the
dictionaries that are its values or items of lists that are its values. -/
theorem redacted_iff (unicode : Unicode) (sameLetter : Char → Char → Bool) (self : SensitiveDataRedactor)
    (eventDict : EventDict) :
    Redacted (self.isSensitiveKey unicode sameLetter) eventDict
        (call (self.isSensitiveKey unicode sameLetter) eventDict) ↔
      ShallowEvent (self.isSensitiveKey unicode sameLetter) eventDict :=
  ⟨fun h => cleanEntries_call.1 h.clean, fun h => ⟨cleanEntries_call.2 h, agreesEntries_call eventDict⟩⟩

/-- A password two dictionaries deep is logged: the redaction looks at one level. -/
theorem not_redacted : ¬∀ (unicode : Unicode) (sameLetter : Char → Char → Bool) (self : SensitiveDataRedactor)
      (eventDict : EventDict),
    Redacted (self.isSensitiveKey unicode sameLetter) eventDict
      (call (self.isSensitiveKey unicode sameLetter) eventDict) := by
  intro h
  let redactor : SensitiveDataRedactor := ⟨["password"]⟩
  let sameLetter (c x : Char) : Bool := c.toLower == x.toLower
  let user : LogValue := .dict [(.str "password", .str "secret")]
  have hrequest : redactor.isSensitiveKey .ascii sameLetter "request" = false := by decide
  have huser : redactor.isSensitiveKey .ascii sameLetter "user" = false := by decide
  have hpassword : redactor.isSensitiveKey .ascii sameLetter "password" = true := by decide
  have hshallow := cleanEntries_call.1
    (h .ascii sameLetter redactor [("request", .dict [(.str "user", user)])]).clean
  have hclean : Clean (redactor.isSensitiveKey .ascii sameLetter) user :=
    hshallow _ (List.mem_singleton_self _) hrequest _ (List.mem_singleton_self _) huser
  have hentry := cleanEntries_iff.1 hclean _ (List.mem_singleton_self _)
  simp [sensitiveKey, hpassword, redactionMarker] at hentry

end SensitiveDataRedactor

end AgentRuntime
