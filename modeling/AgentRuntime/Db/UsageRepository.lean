import AgentRuntime.Db.Groups
import AgentRuntime.Db.RunRepository
import AgentRuntime.Domain.UsageRecord
import Mathlib.Data.Rat.Defs

/-!
# The usage repository

`SQLUsageRepository` (`app/infrastructure/db/repositories/usage.py`) over `run_steps` with its usage columns.
`get_aggregated_usage` makes three queries: the totals apply every filter, the figures by provider only the
filter by provider, and those by model only the filter by model. What the database makes of the text of a local
time, which has whole seconds, is a parameter.
-/

namespace AgentRuntime

open Interaction

/-- A row of `run_steps`: the columns that a `RunStep` has, and those of the usage. -/
structure StepRow extends RunStep where
  promptTokens : Option Int := some 0
  completionTokens : Option Int := some 0
  totalTokens : Option Int := some 0
  costMicrounits : Option Int := some 0
  provider : Option String := none
  model : Option String := none

/-- The two tables. -/
structure UsageTables where
  runs : List RunRow := []
  steps : List StepRow := []

/-- The tables as the run repository reads them. -/
def UsageTables.runTables (self : UsageTables) : RunTables :=
  { runs := self.runs, steps := self.steps.map StepRow.toRunStep }

namespace StepRow

/-- The step is of a run of the tenant. -/
def OfTenant (self : StepRow) (tables : UsageTables) (tenantId : UUID) : Prop :=
  ∃ run ∈ tables.runTables.find self.runId, run.tenantId = tenantId

instance (self : StepRow) (tables : UsageTables) (tenantId : UUID) : Decidable (self.OfTenant tables tenantId) :=
  inferInstanceAs (Decidable (∃ _ ∈ _, _))

/-- `query.where(RunStepModel.provider == provider)`, if a provider is given. -/
def OfProvider (self : StepRow) (provider : Option String) : Prop :=
  ∀ name ∈ PolicyEvaluator.given provider, self.provider = some name

instance (self : StepRow) (provider : Option String) : Decidable (self.OfProvider provider) :=
  inferInstanceAs (Decidable (∀ _ ∈ _, _))

/-- `query.where(RunStepModel.model == model)`, if a model is given. -/
def OfModel (self : StepRow) (model : Option String) : Prop :=
  ∀ name ∈ PolicyEvaluator.given model, self.model = some name

instance (self : StepRow) (model : Option String) : Decidable (self.OfModel model) :=
  inferInstanceAs (Decidable (∀ _ ∈ _, _))

/-- The conditions on `RunStepModel.created_at`. -/
def Between (self : StepRow) (startTime endTime : Option Time) : Prop :=
  (∀ t ∈ startTime, t ≤ self.createdAt) ∧ ∀ t ∈ endTime, self.createdAt ≤ t

instance (self : StepRow) (startTime endTime : Option Time) : Decidable (self.Between startTime endTime) :=
  inferInstanceAs (Decidable ((∀ _ ∈ _, _) ∧ ∀ _ ∈ _, _))

/-- `step.total_tokens or 0`. -/
def tokens (self : StepRow) : Int := self.totalTokens.getD 0

/-- `step.cost_microunits or 0`. -/
def cost (self : StepRow) : Int := self.costMicrounits.getD 0

end StepRow

/-- The figures of a group. -/
structure GroupUsage where
  tokens : Option Int
  cost : Option Int
  deriving DecidableEq, Repr

/-- Aggregated usage statistics. -/
structure AggregatedUsage where
  totalTokens : Int
  totalCostMicrounits : Int
  totalRequests : Nat
  byProvider : List (Option String × GroupUsage)
  byModel : List (Option String × GroupUsage)
  deriving Repr

namespace UsageRepository

/-- What the database takes the text `time.strftime("%Y-%m-%d %H:%M:%S", time.localtime(timestamp))` for. -/
abbrev TextTime := Rat → Except PyError Time

/-- `if timestamp:`. -/
def givenTime (timestamp : Option Rat) : Option Rat := timestamp.filter (· ≠ 0)

/-- The bound that a query has for a timestamp. -/
def timeBound (textTime : TextTime) (timestamp : Option Rat) : Except PyError (Option Time) :=
  match givenTime timestamp with
  | none => .ok none
  | some t => (textTime t).map some

/-- The aggregates of a group of rows. -/
def groupUsage (rows : List StepRow) : GroupUsage where
  tokens := Groups.nullableSum (rows.map StepRow.totalTokens)
  cost := Groups.nullableSum (rows.map StepRow.costMicrounits)

/-- The steps of the tenant's runs. -/
def tenantSteps (tables : UsageTables) (tenantId : UUID) : List StepRow :=
  tables.steps.filter fun row => row.OfTenant tables tenantId

/-- The three queries, over the rows of a tenant. -/
def aggregated (rows : List StepRow) (provider model : Option String) (startTime endTime : Option Time) :
    AggregatedUsage :=
  let row := rows.filter fun row =>
    row.OfProvider provider ∧ row.OfModel model ∧ row.Between startTime endTime
  { totalTokens := (groupUsage row).tokens.getD 0
    totalCostMicrounits := (groupUsage row).cost.getD 0
    totalRequests := row.length
    byProvider := Groups.groupBy StepRow.provider groupUsage (rows.filter fun row => row.OfProvider provider)
    byModel := Groups.groupBy StepRow.model groupUsage (rows.filter fun row => row.OfModel model) }

/-- Get aggregated usage statistics. -/
def getAggregatedUsage (textTime : TextTime) (tables : UsageTables) (tenantId : UUID)
    (provider model : Option String) (startTimestamp endTimestamp : Option Rat) :
    Except PyError AggregatedUsage := do
  let startTime ← timeBound textTime startTimestamp
  let endTime ← timeBound textTime endTimestamp
  return aggregated (tenantSteps tables tenantId) provider model startTime endTime

/-- The record of a step that has a provider and a model. -/
def usageRecord (step : StepRow) : Option UsageRecord :=
  match PolicyEvaluator.given step.provider, PolicyEvaluator.given step.model with
  | some provider, some model => some {
      provider, model
      promptTokens := step.promptTokens.getD 0
      completionTokens := step.completionTokens.getD 0
      totalTokens := step.tokens
      costMicrounits := step.cost
      timestamp := step.createdAt
      requestId := step.id.str }
  | _, _ => none

/-- Get all usage records for a specific run. -/
def getUsageByRunId (tables : UsageTables) (runId : UUID) : Except PyError (List UsageRecord) :=
  ((tables.steps.filter fun step => step.runId = runId).filterMap usageRecord).mapM UsageRecord.postInit

/-! ## Consistent figures -/

/-- The step was created between the two times, where they are given. -/
def Within (startTimestamp endTimestamp : Option Rat) (row : StepRow) : Prop :=
  (∀ t ∈ givenTime startTimestamp, t * Time.perSecond ≤ row.createdAt) ∧
    ∀ t ∈ givenTime endTimestamp, (row.createdAt : Rat) ≤ t * Time.perSecond

instance (startTimestamp endTimestamp : Option Rat) : DecidablePred (Within startTimestamp endTimestamp) :=
  fun _ => inferInstanceAs (Decidable ((∀ _ ∈ _, _) ∧ ∀ _ ∈ _, _))

/-- The sum over the rows with a property. -/
def total (rows : List StepRow) (measure : StepRow → Int) (p : StepRow → Prop) [DecidablePred p] : Int :=
  ((rows.filter fun row => p row).map measure).sum

/-- The figures by provider and by model add up to the total, and the total is that of the selected steps; a
figure that is missing counts for nothing. -/
structure Adds (usage : AggregatedUsage) (sum : Int) (figure : GroupUsage → Option Int) (selected : Int) :
    Prop where
  byProvider : (usage.byProvider.map fun group => (figure group.2).getD 0).sum = sum
  byModel : (usage.byModel.map fun group => (figure group.2).getD 0).sum = sum
  selected : sum = selected

section
variable (textTime : TextTime) (tables : UsageTables) (tenantId : UUID) (provider model : Option String)
  (startTimestamp endTimestamp : Option Rat)

/-- The filters that are given. -/
def Selected (row : StepRow) : Prop :=
  row.OfProvider provider ∧ row.OfModel model ∧ Within startTimestamp endTimestamp row

instance : DecidablePred (Selected provider model startTimestamp endTimestamp) := fun _ =>
  inferInstanceAs (Decidable (_ ∧ _ ∧ _))

/-- The statistics are there, and their figures add up, for tokens and for costs. -/
def Consistent : Prop :=
  ∃ usage, getAggregatedUsage textTime tables tenantId provider model startTimestamp endTimestamp = .ok usage ∧
    Adds usage usage.totalTokens GroupUsage.tokens (total (tenantSteps tables tenantId) StepRow.tokens
      (Selected provider model startTimestamp endTimestamp)) ∧
    Adds usage usage.totalCostMicrounits GroupUsage.cost (total (tenantSteps tables tenantId) StepRow.cost
      (Selected provider model startTimestamp endTimestamp))

end

/-- What the three queries do not select alike adds up to nothing: the steps of the provider that the other
filters leave out, those of the model, and those that the bounds in whole seconds let in and leave out. -/
structure Balanced (rows : List StepRow) (measure : StepRow → Int) (provider model : Option String)
    (startTimestamp endTimestamp : Option Rat) (startTime endTime : Option Time) : Prop where
  byProvider : total rows measure (fun row =>
    row.OfProvider provider ∧ ¬(row.OfModel model ∧ row.Between startTime endTime)) = 0
  byModel : total rows measure (fun row =>
    row.OfModel model ∧ ¬(row.OfProvider provider ∧ row.Between startTime endTime)) = 0
  byTime : total rows measure (fun row => (row.OfProvider provider ∧ row.OfModel model ∧
      row.Between startTime endTime) ∧ ¬Within startTimestamp endTimestamp row) =
    total rows measure (fun row => Selected provider model startTimestamp endTimestamp row ∧
      ¬row.Between startTime endTime)

section
variable {rows : List StepRow} {measure : StepRow → Int} {p q : StepRow → Prop} [DecidablePred p]
  [DecidablePred q]

/-- A total is the sum over the rows with a property and over those without. -/
theorem total_split (rows : List StepRow) (measure : StepRow → Int) (p q : StepRow → Prop) [DecidablePred p]
    [DecidablePred q] : total rows measure p =
      total rows measure (fun row => p row ∧ q row) + total rows measure (fun row => p row ∧ ¬q row) :=
  Groups.sum_filter_split measure p q rows

/-- It depends on the rows that are selected alone. -/
theorem total_congr (h : ∀ row, p row ↔ q row) : total rows measure p = total rows measure q := by
  unfold total
  simp only [h]

end

/-- The tokens of a group are those of its rows. -/
theorem tokens_groupUsage (rows : List StepRow) :
    (groupUsage rows).tokens.getD 0 = (rows.map StepRow.tokens).sum := by
  rw [groupUsage, Groups.nullableSum_getD, List.map_map]
  rfl

/-- So is its cost. -/
theorem cost_groupUsage (rows : List StepRow) :
    (groupUsage rows).cost.getD 0 = (rows.map StepRow.cost).sum := by
  rw [groupUsage, Groups.nullableSum_getD, List.map_map]
  rfl

/-- The statistics are there if the database takes the bounds. -/
theorem getAggregatedUsage_eq_ok {textTime : TextTime} {tables : UsageTables} {tenantId : UUID}
    {provider model : Option String} {startTimestamp endTimestamp : Option Rat} {usage : AggregatedUsage} :
    getAggregatedUsage textTime tables tenantId provider model startTimestamp endTimestamp = .ok usage ↔
      ∃ startTime endTime, timeBound textTime startTimestamp = .ok startTime ∧
        timeBound textTime endTimestamp = .ok endTime ∧
        usage = aggregated (tenantSteps tables tenantId) provider model startTime endTime := by
  simp only [getAggregatedUsage, bind_eq_ok]
  constructor
  · rintro ⟨startTime, hstart, endTime, hend, h⟩
    exact ⟨startTime, endTime, hstart, hend, (Except.ok.inj h).symm⟩
  · rintro ⟨startTime, endTime, hstart, hend, rfl⟩
    exact ⟨startTime, hstart, endTime, hend, rfl⟩

/-- Figures add up exactly if what the queries do not select alike is balanced. -/
theorem adds_iff {rows : List StepRow} {measure : StepRow → Int} {figure : GroupUsage → Option Int}
    (hfigure : ∀ rows, (figure (groupUsage rows)).getD 0 = (rows.map measure).sum)
    (provider model : Option String) (startTimestamp endTimestamp : Option Rat) (startTime endTime : Option Time) :
    Adds (aggregated rows provider model startTime endTime)
        (total rows measure fun row => row.OfProvider provider ∧ row.OfModel model ∧ row.Between startTime endTime)
        figure (total rows measure (Selected provider model startTimestamp endTimestamp)) ↔
      Balanced rows measure provider model startTimestamp endTimestamp startTime endTime := by
  have hgroups (key : StepRow → Option String) (rows : List StepRow) :
      ((Groups.groupBy key groupUsage rows).map fun group => (figure group.2).getD 0).sum =
        (rows.map measure).sum :=
    Groups.sum_groupBy (fun usage => (figure usage).getD 0) hfigure key rows
  have hbyProvider := total_split rows measure (fun row => row.OfProvider provider) fun row =>
    row.OfModel model ∧ row.Between startTime endTime
  have hbyModel := total_split rows measure (fun row => row.OfModel model) fun row =>
    row.OfProvider provider ∧ row.Between startTime endTime
  have hbounds := total_split rows measure (fun row => row.OfProvider provider ∧ row.OfModel model ∧
    row.Between startTime endTime) (Within startTimestamp endTimestamp)
  have hselected := total_split rows measure (Selected provider model startTimestamp endTimestamp) fun row =>
    row.Between startTime endTime
  have hswap : total rows measure (fun row => row.OfModel model ∧ row.OfProvider provider ∧
      row.Between startTime endTime) = total rows measure (fun row => row.OfProvider provider ∧ row.OfModel model ∧
        row.Between startTime endTime) := total_congr fun row => and_left_comm
  have hboth : total rows measure (fun row => (row.OfProvider provider ∧ row.OfModel model ∧
      row.Between startTime endTime) ∧ Within startTimestamp endTimestamp row) =
      total rows measure (fun row => Selected provider model startTimestamp endTimestamp row ∧
        row.Between startTime endTime) := total_congr fun row => by unfold Selected; tauto
  constructor
  · rintro ⟨hprovider, hmodel, htotal⟩
    rw [aggregated, hgroups] at hprovider hmodel
    change total rows measure (fun row => row.OfProvider provider) = _ at hprovider
    change total rows measure (fun row => row.OfModel model) = _ at hmodel
    exact ⟨by omega, by omega, by omega⟩
  · rintro ⟨hprovider, hmodel, htime⟩
    refine ⟨?_, ?_, by omega⟩
    · rw [aggregated, hgroups]
      change total rows measure (fun row => row.OfProvider provider) = _
      omega
    · rw [aggregated, hgroups]
      change total rows measure (fun row => row.OfModel model) = _
      omega

/-- The statistics are consistent exactly if the database takes the bounds, and neither the tokens nor the costs of
what the queries do not select alike make a difference. -/
theorem consistent_iff (textTime : TextTime) (tables : UsageTables) (tenantId : UUID)
    (provider model : Option String) (startTimestamp endTimestamp : Option Rat) :
    Consistent textTime tables tenantId provider model startTimestamp endTimestamp ↔
      ∃ startTime endTime, timeBound textTime startTimestamp = .ok startTime ∧
        timeBound textTime endTimestamp = .ok endTime ∧
        Balanced (tenantSteps tables tenantId) StepRow.tokens provider model startTimestamp endTimestamp startTime
          endTime ∧
        Balanced (tenantSteps tables tenantId) StepRow.cost provider model startTimestamp endTimestamp startTime
          endTime := by
  have htokens (startTime endTime : Option Time) :
      (aggregated (tenantSteps tables tenantId) provider model startTime endTime).totalTokens =
        total (tenantSteps tables tenantId) StepRow.tokens fun row =>
          row.OfProvider provider ∧ row.OfModel model ∧ row.Between startTime endTime := tokens_groupUsage _
  have hcost (startTime endTime : Option Time) :
      (aggregated (tenantSteps tables tenantId) provider model startTime endTime).totalCostMicrounits =
        total (tenantSteps tables tenantId) StepRow.cost fun row =>
          row.OfProvider provider ∧ row.OfModel model ∧ row.Between startTime endTime := cost_groupUsage _
  unfold Consistent
  constructor
  · rintro ⟨usage, husage, htokensAdd, hcostAdd⟩
    obtain ⟨startTime, endTime, hstart, hend, rfl⟩ := getAggregatedUsage_eq_ok.1 husage
    rw [htokens] at htokensAdd
    rw [hcost] at hcostAdd
    exact ⟨startTime, endTime, hstart, hend, (adds_iff tokens_groupUsage ..).1 htokensAdd,
      (adds_iff cost_groupUsage ..).1 hcostAdd⟩
  · rintro ⟨startTime, endTime, hstart, hend, htokensBalanced, hcostBalanced⟩
    refine ⟨_, getAggregatedUsage_eq_ok.2 ⟨startTime, endTime, hstart, hend, rfl⟩, ?_, ?_⟩
    · rw [htokens]
      exact (adds_iff tokens_groupUsage ..).2 htokensBalanced
    · rw [hcost]
      exact (adds_iff cost_groupUsage ..).2 hcostBalanced

/-- A run of tenant 1. -/
def usageRun : RunRow :=
  { id := ⟨1⟩, tenantId := ⟨1⟩, agentVersionId := ⟨4⟩, state := .succeeded, inputData := [],
    outputData := none, idempotencyKey := "key", attempt := 1, maxSteps := 100, maxCostMicrounits := 10000000,
    spentCostMicrounits := 0, leaseOwner := none, leaseExpiresAt := none, cancelRequestedAt := none,
    createdAt := 0, updatedAt := 0 }

/-- A step of the run that took ten tokens. -/
def usageStep : StepRow :=
  { id := ⟨2⟩, createdAt := 1, updatedAt := 1, runId := ⟨1⟩, sequence := 0, kind := .modelCall,
    state := .succeeded,
    promptTokens := some 6, completionTokens := some 4, totalTokens := some 10, costMicrounits := some 3,
    provider := some "openai", model := some "gpt-4o" }

/-- With a filter by another model, the figures by provider still have the step, and the totals have not. -/
theorem not_consistent : ¬∀ (textTime : TextTime) (tables : UsageTables) (tenantId : UUID)
    (provider model : Option String) (startTimestamp endTimestamp : Option Rat),
    Consistent textTime tables tenantId provider model startTimestamp endTimestamp := by
  intro h
  obtain ⟨usage, husage, htokens, -⟩ := h (fun _ => .ok (0 : Nat)) ⟨[usageRun], [usageStep]⟩ ⟨1⟩ none
    (some "gpt-4o-mini") none none
  obtain rfl := Except.ok.inj husage
  exact absurd htokens.byProvider (by decide)

end UsageRepository

end AgentRuntime
