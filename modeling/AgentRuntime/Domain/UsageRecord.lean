import AgentRuntime.Interaction.Method
import AgentRuntime.Python.Values

/-!
# Usage records

The record of a provider call's tokens and cost (`app/domain/providers/value_objects.py`).
-/

namespace AgentRuntime

/-- Record of token usage for a single provider call; the timestamp is in microseconds. -/
structure UsageRecord where
  provider : String
  model : String
  promptTokens : Int
  completionTokens : Int
  totalTokens : Int
  costMicrounits : Int
  timestamp : Time
  requestId : String
  deriving DecidableEq, Repr

namespace UsageRecord

/-- `UsageRecord.__post_init__`. -/
def postInit (self : UsageRecord) : Except PyError UsageRecord :=
  if self.provider = "" then .error (.valueError "Provider cannot be empty")
  else if self.model = "" then .error (.valueError "Model cannot be empty")
  else if self.promptTokens < 0 then .error (.valueError "Prompt tokens cannot be negative")
  else if self.completionTokens < 0 then .error (.valueError "Completion tokens cannot be negative")
  else if self.totalTokens ≠ self.promptTokens + self.completionTokens then
    .error (.valueError "Total tokens must equal prompt + completion")
  else if self.costMicrounits < 0 then .error (.valueError "Cost cannot be negative")
  else if self.timestamp = 0 then .error (.valueError "Timestamp must be positive")
  else if self.requestId = "" then .error (.valueError "Request ID cannot be empty")
  else .ok self

/-- The checks of the constructor. -/
structure Valid (record : UsageRecord) : Prop where
  provider : record.provider ≠ ""
  model : record.model ≠ ""
  promptTokens : 0 ≤ record.promptTokens
  completionTokens : 0 ≤ record.completionTokens
  totalTokens : record.totalTokens = record.promptTokens + record.completionTokens
  costMicrounits : 0 ≤ record.costMicrounits
  timestamp : record.timestamp ≠ 0
  requestId : record.requestId ≠ ""

/-- The total of a record is not negative. -/
theorem Valid.totalTokens_nonneg {record : UsageRecord} (h : record.Valid) : 0 ≤ record.totalTokens := by
  rw [h.totalTokens]
  exact Int.add_nonneg h.promptTokens h.completionTokens

/-- The constructor accepts exactly what passes the checks. -/
theorem postInit_eq_ok {self record : UsageRecord} :
    self.postInit = .ok record ↔ self.Valid ∧ record = self := by
  constructor
  · intro h
    unfold postInit at h
    split_ifs at h with hprovider hmodel hprompt hcompletion htotal hcost htimestamp hrequest
    exact ⟨⟨hprovider, hmodel, Int.not_lt.1 hprompt, Int.not_lt.1 hcompletion, not_not.1 htotal,
      Int.not_lt.1 hcost, htimestamp, hrequest⟩, (Except.ok.inj h).symm⟩
  · rintro ⟨h, rfl⟩
    unfold postInit
    rw [if_neg h.provider, if_neg h.model, if_neg (Int.not_lt.2 h.promptTokens),
      if_neg (Int.not_lt.2 h.completionTokens), if_neg (not_not.2 h.totalTokens),
      if_neg (Int.not_lt.2 h.costMicrounits), if_neg h.timestamp, if_neg h.requestId]

end UsageRecord

end AgentRuntime
