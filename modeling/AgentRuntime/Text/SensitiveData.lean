import AgentRuntime.Domain.Memory
import AgentRuntime.Python.Characters
import AgentRuntime.Python.Regex

/-!
# Sensitive data

`SensitiveDataClassifier` (`app/infrastructure/text/classifier.py`) and `TextRedactor`
(`app/infrastructure/text/redactor.py`), both without Presidio. The patterns are compiled with `re.IGNORECASE`.
Those for phone numbers, social security numbers, card numbers and IP addresses ask for a word boundary on both
sides; the others look at nothing around the match. The redactor replaces the patterns of the types that were
classified one after another, each in what the replacements before it have left.
-/

namespace AgentRuntime

/-! ## Results -/

/-- Types of sensitive data. -/
inductive SensitiveDataType where
  | email
  | phone
  | ssn
  | creditCard
  | ipAddress
  | apiKey
  | password
  | personalName
  deriving DecidableEq, Repr

def SensitiveDataType.value : SensitiveDataType → String
  | email => "email"
  | phone => "phone"
  | ssn => "ssn"
  | creditCard => "credit_card"
  | ipAddress => "ip_address"
  | apiKey => "api_key"
  | password => "password"
  | personalName => "personal_name"

/-- Result of data classification. -/
structure ClassificationResult where
  hasSensitiveData : Bool
  sensitiveTypes : List SensitiveDataType
  allowedUseLabel : AllowedUseLabel
  confidence : PyFloat

/-- Result of text redaction. -/
structure RedactionResult where
  redactedText : String
  redactionCount : Nat
  wasRedacted : Bool
  deriving DecidableEq, Repr

/-- Determine allowed use label based on sensitive data types. -/
def determineAllowedUse (sensitiveTypes : List SensitiveDataType) : AllowedUseLabel :=
  if sensitiveTypes.any (· ∈ [SensitiveDataType.ssn, .creditCard, .apiKey, .password]) then .restricted
  else if sensitiveTypes.any (· ∈ [SensitiveDataType.email, .phone]) then .confidential
  else .internal

/-! ## The classifier -/

namespace SensitiveDataClassifier

open Regex

/-- A single character. -/
def char (c : Char) : Regex := .set (· == c)

/-- A word, in any case. -/
def caselessWord (s : List Char) : Regex := seqs (s.map fun c => .set (caseless (· == c)))

/-- `['"]?` -/
def quote : Regex := .opt (.set (inSet [] ['\'', '"']))

/-- What an assignment begins with: a keyword, `:` or `=`, and a quote if there is one. -/
def assigned (keyword : Regex) : Regex :=
  seqs [keyword, .star isspace, .set (inSet [] [':', '=']), .star isspace, quote]

/-- An assignment of a value, which may be quoted. -/
def assignment (keyword : Regex) (value : Char → Bool) : Regex :=
  .seq (assigned keyword) (.seq (.plus value) quote)

/-- `[a-zA-Z0-9._%+-]+@[a-zA-Z0-9.-]+\.[a-zA-Z]{2,}` -/
def emailPattern : Regex :=
  seqs
    [.plus (caseless (inSet [('a', 'z'), ('A', 'Z'), ('0', '9')] ['.', '_', '%', '+', '-'])), char '@',
      .plus (caseless (inSet [('a', 'z'), ('A', 'Z'), ('0', '9')] ['.', '-'])), char '.',
      .atLeast 2 (caseless (inSet [('a', 'z'), ('A', 'Z')] []))]

/-- `(?i)(api[_-]?key|apikey)\s*[:=]\s*['\"]?[a-zA-Z0-9_\-]+['\"]?` -/
def apiKeyPattern : Regex :=
  assignment
    (.alt
      (seqs
        [caselessWord ['a', 'p', 'i'], .opt (.set (inSet [] ['_', '-'])), caselessWord ['k', 'e', 'y']])
      (caselessWord ['a', 'p', 'i', 'k', 'e', 'y']))
    (caseless (inSet [('a', 'z'), ('A', 'Z'), ('0', '9')] ['_', '-']))

/-- `(password|passwd|pwd)` -/
def passwordKeyword : Regex :=
  .alt (caselessWord ['p', 'a', 's', 's', 'w', 'o', 'r', 'd'])
    (.alt (caselessWord ['p', 'a', 's', 's', 'w', 'd']) (caselessWord ['p', 'w', 'd']))

/-- `(?i)(password|passwd|pwd)\s*[:=]\s*['\"]?[^\s'\"]+['\"]?` -/
def passwordPattern : Regex :=
  assignment passwordKeyword fun c => !(isspace c || inSet [] ['\'', '"'] c)

section
variable (unicode : Unicode)

/-- `\d` -/
def digit : Regex := .set unicode.isdecimal

/-- `\b\d{3}[-.]?\d{3}[-.]?\d{4}\b` -/
def phonePattern : Regex :=
  seqs
    [.boundary, .times (digit unicode) 3, .opt (.set (inSet [] ['-', '.'])), .times (digit unicode) 3,
      .opt (.set (inSet [] ['-', '.'])), .times (digit unicode) 4, .boundary]

/-- `\b\d{3}-\d{2}-\d{4}\b` -/
def ssnPattern : Regex :=
  seqs
    [.boundary, .times (digit unicode) 3, char '-', .times (digit unicode) 2, char '-',
      .times (digit unicode) 4, .boundary]

/-- `\b(?:\d[ -]*?){13,16}\b` -/
def creditCardPattern : Regex :=
  seqs
    [.boundary, .repeated (.seq (digit unicode) (.lazyStar (inSet [] [' ', '-']))) 13 16, .boundary]

/-- `\b(?:\d{1,3}\.){3}\d{1,3}\b` -/
def ipAddressPattern : Regex :=
  seqs
    [.boundary, .times (.seq (.repeated (digit unicode) 1 3) (char '.')) 3,
      .repeated (digit unicode) 1 3, .boundary]

/-- Predefined patterns for common sensitive data. -/
def patterns : List (SensitiveDataType × Regex) :=
  [(.email, emailPattern), (.phone, phonePattern unicode), (.ssn, ssnPattern unicode),
    (.creditCard, creditCardPattern unicode), (.ipAddress, ipAddressPattern unicode),
    (.apiKey, apiKeyPattern), (.password, passwordPattern)]

/-- The patterns, one after another, with the types that were detected so far. -/
def detectTypes (text : List Char) :
    List (SensitiveDataType × Regex) → List SensitiveDataType → List SensitiveDataType
  | [], detected => detected
  | (dataType, pattern) :: rest, detected =>
    if dataType ∉ detected ∧ pattern.search unicode.isWord text then
      detectTypes text rest (detected ++ [dataType])
    else detectTypes text rest detected

/-- Detect sensitive data using patterns. -/
def detectSensitiveData (text : String) : List SensitiveDataType :=
  detectTypes unicode text.toList (patterns unicode) []

/-- Classify sensitive data in text. -/
def classify (text : String) (_tenantId : UUID) : ClassificationResult :=
  let sensitiveTypes := detectSensitiveData unicode text
  if sensitiveTypes.isEmpty then
    { hasSensitiveData := false
      sensitiveTypes := []
      allowedUseLabel := .publicUse
      confidence := ⟨1, "1.0"⟩ }
  else
    { hasSensitiveData := true
      sensitiveTypes
      allowedUseLabel := determineAllowedUse sensitiveTypes
      confidence := ⟨3602879701896397 / 2 ^ 52, "0.8"⟩ }

end

end SensitiveDataClassifier

/-! ## The redactor -/

namespace TextRedactor

/-- `"[REDACTED]"`, which stands in the place of a match. -/
def marker : List Char := ['[', 'R', 'E', 'D', 'A', 'C', 'T', 'E', 'D', ']']

section
variable (unicode : Unicode)

/-- The patterns of the types, one after another: the text so far, and the number of matches so far. -/
def redactTypes : List SensitiveDataType → List Char × Nat → List Char × Nat
  | [], redacted => redacted
  | sensitiveType :: types, (redactedText, redactionCount) =>
    match (SensitiveDataClassifier.patterns unicode).lookup sensitiveType with
    | some pattern =>
      redactTypes types
        (pattern.sub unicode.isWord marker redactedText,
          redactionCount + (pattern.findall unicode.isWord redactedText).length)
    | none => redactTypes types (redactedText, redactionCount)

/-- Redact using pattern matching. -/
def redactWithPatterns (text : String) (classification : ClassificationResult) : RedactionResult :=
  let (redactedText, redactionCount) :=
    redactTypes unicode classification.sensitiveTypes (text.toList, 0)
  { redactedText := String.ofList redactedText
    redactionCount
    wasRedacted := redactionCount > 0 }

/-- Redact sensitive data from text based on classification. -/
def redact (text : String) (classification : ClassificationResult) (_tenantId : UUID) : RedactionResult :=
  if classification.hasSensitiveData then redactWithPatterns unicode text classification
  else { redactedText := text, redactionCount := 0, wasRedacted := false }

/-- What goes on of a text after it was classified and redacted, as in `MemoryWriteService.write_memory`. -/
def processedContent (normalizedContent : String) (tenantId : UUID) : String :=
  let classification := SensitiveDataClassifier.classify unicode normalizedContent tenantId
  (redact unicode normalizedContent classification tenantId).redactedText

end

end TextRedactor

end AgentRuntime
