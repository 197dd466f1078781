import AgentRuntime.Db.UsageRepository
import AgentRuntime.Interaction.BigStep
import AgentRuntime.UseCases.RunSession
import Mathlib.Algebra.Order.BigOperators.Group.List
import Mathlib.Algebra.Order.Group.Int

/-!
# The status of a run

`RunUseCases.get_run_status` (`app/application/use_cases/run.py`) sums up the usage of the steps of a loaded
run. But a step as the run repository decodes it has no usage: the class `RunStep`, which has slots, has none of
the attributes that the loop asks for. The status of the endpoint sums up the same steps
(`getRunStatus_session`).
-/

namespace AgentRuntime

open Interaction Service

/-- The figures of a provider. -/
structure ProviderFigures where
  tokens : Int := 0
  cost : Int := 0
  deriving DecidableEq, Repr

/-- The part of the status on usage. -/
structure UsageSummary where
  stepsCompleted : Nat
  totalCostUsd : Rat
  tokensUsed : Int
  byProvider : List (String × ProviderFigures)

/-- What `get_run_status` returns. -/
structure RunStatus where
  id : String
  tenantId : String
  agentVersionId : String
  state : String
  input : Dict
  output : Option Dict
  usage : UsageSummary
  attempt : Int
  maxSteps : Int
  createdAt : Time
  updatedAt : Time
  cancelRequestedAt : Option Time

/-! The attributes that `hasattr` and `getattr` look for, and `RunStep` has not. -/

def RunStep.totalTokens? (_ : RunStep) : Option Int := none

def RunStep.costMicrounits? (_ : RunStep) : Option Int := none

def RunStep.provider? (_ : RunStep) : Option String := none

namespace RunStatus

/-- `provider_usage[provider]`, or the figures that it begins with. -/
def figures (providerUsage : List (String × ProviderFigures)) (provider : String) : ProviderFigures :=
  ((providerUsage.find? fun entry => entry.1 = provider).map Prod.snd).getD {}

/-- `provider_usage[provider] = …`. -/
def setFigures (providerUsage : List (String × ProviderFigures)) (provider : String) (new : ProviderFigures) :
    List (String × ProviderFigures) :=
  if providerUsage.any fun entry => entry.1 = provider then
    providerUsage.map fun entry => if entry.1 = provider then (provider, new) else entry
  else providerUsage ++ [(provider, new)]

/-- The body of the loop over the steps. -/
def addUsage (usage : Int × List (String × ProviderFigures)) (step : RunStep) :
    Int × List (String × ProviderFigures) :=
  let (totalTokens, providerUsage) := usage
  let totalTokens := match step.totalTokens? with
    | some tokens => if tokens = 0 then totalTokens else totalTokens + tokens
    | none => totalTokens
  match PolicyEvaluator.given step.provider? with
  | some provider =>
    let old := figures providerUsage provider
    (totalTokens, setFigures providerUsage provider
      { tokens := old.tokens + step.totalTokens?.getD 0, cost := old.cost + step.costMicrounits?.getD 0 })
  | none => (totalTokens, providerUsage)

/-- The status of a loaded run. -/
def statusOf (run : Run) : Except PyError RunStatus := do
  let (totalTokens, providerUsage) := run.steps.foldl addUsage (0, [])
  let spentCost ← run.spentCost.microUnits
  return {
    id := run.id.str
    tenantId := run.tenantId.str
    agentVersionId := run.agentVersionId.str
    state := run.state.value
    input := run.inputData
    output := run.outputData
    usage := { stepsCompleted := run.steps.length, totalCostUsd := spentCost / 1000000, tokensUsed := totalTokens,
               byProvider := providerUsage }
    attempt := run.attempt
    maxSteps := run.maxSteps
    createdAt := run.createdAt
    updatedAt := run.updatedAt
    cancelRequestedAt := run.cancelRequestedAt }

/-- Get run status with usage summary. -/
def getRunStatus {σ : Type} (runId tenantId : UUID) : Service σ (Option RunStatus) := do
  match ← RunUseCases.getRun runId tenantId with
  | none => return none
  | some run => some <$> Proc.ofExcept (statusOf run)

/-- The run repository, which reads the spent cost as `Money`, over the tables. -/
def repositoryEnv : CallEnv UsageTables
  | .runGet runId, tables => (((RunRepository.get .asMoney runId).on tables.runTables).1, tables)
  | o, tables => (o.quiet, tables)

/-- The status of a run. -/
def runStatus (runId tenantId : UUID) (tables : UsageTables) : Option (Except PyError (Option RunStatus)) :=
  (((getRunStatus runId tenantId).on ()).exec repositoryEnv tables).result.map Prod.fst

/-- The figures of the records, and the steps that have succeeded. -/
structure Reports (usage : UsageSummary) (records : List UsageRecord) (steps : List StepRow) : Prop where
  tokensUsed : usage.tokensUsed = (records.map UsageRecord.totalTokens).sum
  byProvider : ∀ provider, figures usage.byProvider provider =
    { tokens := ((records.filter fun record => record.provider = provider).map UsageRecord.totalTokens).sum
      cost := ((records.filter fun record => record.provider = provider).map UsageRecord.costMicrounits).sum }
  stepsCompleted : usage.stepsCompleted = steps.countP fun step => step.state = .succeeded

/-- The status is there, and reports what the usage repository has on the run. -/
def ReportsStored (runId tenantId : UUID) (tables : UsageTables) : Prop :=
  ∃ status records, runStatus runId tenantId tables = some (.ok (some status)) ∧
    UsageRepository.getUsageByRunId tables runId = .ok records ∧
    Reports status.usage records (tables.steps.filter fun step => step.runId = runId)

section
variable {runId tenantId : UUID} {tables : UsageTables} {run : Run}

/-! ## What the status reports -/

/-- A step adds nothing. -/
theorem addUsage_eq (usage : Int × List (String × ProviderFigures)) (step : RunStep) :
    addUsage usage step = usage := rfl

/-- The steps of a run add nothing. -/
theorem foldl_addUsage (usage : Int × List (String × ProviderFigures)) (steps : List RunStep) :
    steps.foldl addUsage usage = usage := List.foldl_fixed' (fun step => addUsage_eq _ step) steps

/-- A run whose spent cost is `Money` has a status, without usage, that counts all of its steps. -/
theorem exists_statusOf {m : Money} (hspent : run.spentCost = .money m) : ∃ status, statusOf run = .ok status ∧
    status.usage.tokensUsed = 0 ∧ status.usage.byProvider = [] ∧
    status.usage.stepsCompleted = run.steps.length := by
  unfold statusOf
  rw [foldl_addUsage, hspent]
  exact ⟨_, rfl, rfl, rfl, rfl⟩

/-- The status is of the run that the repository loads. -/
theorem runStatus_eq (hrun : ((RunRepository.get .asMoney runId).on tables.runTables).1 = .ok (some run))
    (htenant : run.tenantId = tenantId) : runStatus runId tenantId tables = some ((statusOf run).map some) := by
  cases hstatus : statusOf run <;>
    simp [runStatus, getRunStatus, RunUseCases.getRun, runGet, repositoryEnv, hrun, htenant, hstatus, Except.map]

/-- A loaded run has the steps that are stored for it. -/
theorem length_steps (hrun : ((RunRepository.get .asMoney runId).on tables.runTables).1 = .ok (some run)) :
    run.steps.length = (tables.steps.filter fun step => step.runId = runId).length ∧
      ∃ m, run.spentCost = .money m := by
  obtain ⟨row, hrow, hentity⟩ := RunRepository.get_on_eq_some.1 hrun
  obtain ⟨spentCost, maxCost, hspent, -, -, -, rfl⟩ := RunRepository.toEntity_eq_ok.1 hentity
  obtain ⟨m, -, rfl⟩ := map_eq_ok.1 hspent
  refine ⟨?_, m, rfl⟩
  change (tables.runTables.stepsOf runId).length = _
  rw [RunTables.stepsOf, List.length_insertionSort, UsageTables.runTables, List.filter_map, List.length_map]
  rfl

/-- The status that a request reads sums up the same steps. -/
theorem getRunStatus_session (lazyLoad : Except PyError Unit) (drawn : Drawn) (self : Session Tables) :
    let request := (RunUseCases.getRunStatus lazyLoad drawn runId tenantId).on self
    let status := (RunUseCases.ofService lazyLoad drawn (getRunStatus runId tenantId)).on self
    status.2 = request.2 ∧
      status.1.map (Option.map fun status =>
        (status.usage.stepsCompleted, status.usage.totalCostUsd, status.usage.tokensUsed)) =
      request.1.map (Option.map fun status =>
        (status.stepsCompleted, (status.totalCostMicrounits : Rat) / 1000000, (status.tokensUsed : Int))) := by
  rcases hrun : (RunUseCases.sessionEnv lazyLoad drawn (.runGet runId) self) with ⟨_ | _ | run, self'⟩
  · simp [RunUseCases.getRunStatus, RunUseCases.ofService, getRunStatus, RunUseCases.getRun, runGet, hrun,
      Except.map]
  · simp [RunUseCases.getRunStatus, RunUseCases.ofService, getRunStatus, RunUseCases.getRun, runGet, hrun,
      Except.map]
  · by_cases htenant : run.tenantId = tenantId
    · cases hspent : run.spentCost <;>
        simp [RunUseCases.getRunStatus, RunUseCases.ofService, getRunStatus, RunUseCases.getRun, runGet, hrun,
          htenant, hspent, statusOf, foldl_addUsage, SpentCost.microUnits, Except.map]
    · simp [RunUseCases.getRunStatus, RunUseCases.ofService, getRunStatus, RunUseCases.getRun, runGet, hrun,
        htenant, Except.map]

/-- The records are those of the steps that have a provider and a model. -/
theorem getUsageByRunId_eq
    (hvalid : ∀ step ∈ tables.steps, ∀ record ∈ UsageRepository.usageRecord step, record.Valid)
    (runId : UUID) : UsageRepository.getUsageByRunId tables runId =
      .ok ((tables.steps.filter fun step => step.runId = runId).filterMap UsageRepository.usageRecord) := by
  refine (mapM_eq_ok (fun _ _ => UsageRecord.postInit_eq_ok)).2 ⟨fun record hrecord => ?_, (List.map_id' _).symm⟩
  obtain ⟨step, hstep, hrecord⟩ := List.mem_filterMap.1 hrecord
  exact hvalid step (List.mem_of_mem_filter hstep) record hrecord

/-- Amounts that are not negative add up to zero exactly if each of them is. -/
theorem sum_map_eq_zero_iff {α : Type} {f : α → Int} {l : List α} (h : ∀ a ∈ l, 0 ≤ f a) :
    (l.map f).sum = 0 ↔ ∀ a ∈ l, f a = 0 := by
  constructor
  · intro hsum a ha
    exact List.all_zero_of_le_zero_le_of_sum_eq_zero (List.forall_mem_map.2 h) hsum (List.mem_map_of_mem ha)
  · exact fun hzero => List.sum_eq_zero (List.forall_mem_map.2 hzero)

/-- A summary without usage reports records that have none. -/
theorem reports_iff {usage : UsageSummary} {records : List UsageRecord} {steps : List StepRow}
    (htokens : usage.tokensUsed = 0) (hbyProvider : usage.byProvider = [])
    (hcompleted : usage.stepsCompleted = steps.length) (hvalid : ∀ record ∈ records, record.Valid) :
    Reports usage records steps ↔
      (∀ record ∈ records, record.totalTokens = 0 ∧ record.costMicrounits = 0) ∧
        ∀ step ∈ steps, step.state = .succeeded := by
  have hfigures (provider : String) : figures usage.byProvider provider = { tokens := 0, cost := 0 } := by
    rw [hbyProvider]
    rfl
  have hsteps : usage.stepsCompleted = (steps.countP fun step => step.state = .succeeded) ↔
      ∀ step ∈ steps, step.state = .succeeded := by
    rw [hcompleted, eq_comm, List.countP_eq_length]
    simp only [decide_eq_true_eq]
  have htokens_iff := sum_map_eq_zero_iff fun record hrecord => (hvalid record hrecord).totalTokens_nonneg
  constructor
  · rintro ⟨hsum, hproviders, hsucceeded⟩
    refine ⟨fun record hrecord => ⟨htokens_iff.1 (hsum.symm.trans htokens) record hrecord, ?_⟩,
      hsteps.1 hsucceeded⟩
    have hcost := congrArg ProviderFigures.cost
      ((hproviders record.provider).symm.trans (hfigures record.provider))
    exact (sum_map_eq_zero_iff fun record' hrecord' =>
      (hvalid record' (List.mem_of_mem_filter hrecord')).costMicrounits).1 hcost record
        (List.mem_filter.2 ⟨hrecord, decide_eq_true rfl⟩)
  · rintro ⟨hzero, hsucceeded⟩
    refine ⟨htokens.trans (htokens_iff.2 fun record hrecord => (hzero record hrecord).1).symm, fun provider => ?_,
      hsteps.2 hsucceeded⟩
    rw [hfigures]
    congr 1
    · exact (List.sum_eq_zero (List.forall_mem_map.2 fun record hrecord =>
        (hzero record (List.mem_of_mem_filter hrecord)).1)).symm
    · exact (List.sum_eq_zero (List.forall_mem_map.2 fun record hrecord =>
        (hzero record (List.mem_of_mem_filter hrecord)).2)).symm

/-- The stored usage is reported exactly if the records have none, and the steps have succeeded. -/
theorem reportsStored_iff_records
    (hrun : ((RunRepository.get .asMoney runId).on tables.runTables).1 = .ok (some run))
    (htenant : run.tenantId = tenantId)
    (hvalid : ∀ step ∈ tables.steps, ∀ record ∈ UsageRepository.usageRecord step, record.Valid) :
    ReportsStored runId tenantId tables ↔
      (∀ record ∈ (tables.steps.filter fun step => step.runId = runId).filterMap UsageRepository.usageRecord,
        record.totalTokens = 0 ∧ record.costMicrounits = 0) ∧
      ∀ step ∈ tables.steps.filter fun step => step.runId = runId, step.state = .succeeded := by
  obtain ⟨hlength, m, hspent⟩ := length_steps hrun
  obtain ⟨status, hstatus, htokens, hbyProvider, hcompleted⟩ := exists_statusOf hspent
  have hrunStatus : runStatus runId tenantId tables = some (.ok (some status)) := by
    rw [runStatus_eq hrun htenant, hstatus]
    rfl
  have hrecords := getUsageByRunId_eq hvalid runId
  rw [← reports_iff htokens hbyProvider (hcompleted.trans hlength) fun record hrecord => by
    obtain ⟨step, hstep, hrecord⟩ := List.mem_filterMap.1 hrecord
    exact hvalid step (List.mem_of_mem_filter hstep) record hrecord]
  constructor
  · rintro ⟨status', records, hstatus', hrecords', hreports⟩
    obtain rfl : status = status' := by
      simpa using hrunStatus.symm.trans hstatus'
    obtain rfl := Except.ok.inj (hrecords.symm.trans hrecords')
    exact hreports
  · exact fun h => ⟨status, _, hrunStatus, hrecords, h⟩

end

/-- A step that has a provider and a model reports no tokens and no cost. -/
def Unbilled (step : StepRow) : Prop :=
  PolicyEvaluator.given step.provider ≠ none → PolicyEvaluator.given step.model ≠ none →
    step.tokens = 0 ∧ step.cost = 0

/-- A step is unbilled exactly if its usage record, should it have one, counts nothing. -/
theorem unbilled_iff {step : StepRow} : Unbilled step ↔
    ∀ record ∈ UsageRepository.usageRecord step, record.totalTokens = 0 ∧ record.costMicrounits = 0 := by
  unfold Unbilled UsageRepository.usageRecord
  cases PolicyEvaluator.given step.provider <;> cases PolicyEvaluator.given step.model <;> simp

/-- The status of a run reports its stored usage exactly if there is none, and all of its steps have
succeeded. A loaded step has no usage to add, and is counted whatever its state is. -/
theorem reportsStored_iff (runId tenantId : UUID) (tables : UsageTables) (run : Run)
    (hrun : ((RunRepository.get .asMoney runId).on tables.runTables).1 = .ok (some run))
    (htenant : run.tenantId = tenantId)
    (hvalid : ∀ step ∈ tables.steps, ∀ record ∈ UsageRepository.usageRecord step, record.Valid) :
    ReportsStored runId tenantId tables ↔
      ∀ step ∈ tables.steps, step.runId = runId → Unbilled step ∧ step.state = .succeeded := by
  rw [reportsStored_iff_records hrun htenant hvalid]
  constructor
  · rintro ⟨hzero, hsucceeded⟩ step hstep hrunId
    have hmem : step ∈ tables.steps.filter fun step => step.runId = runId :=
      List.mem_filter.2 ⟨hstep, decide_eq_true hrunId⟩
    exact ⟨unbilled_iff.2 fun record hrecord => hzero record (List.mem_filterMap.2 ⟨step, hmem, hrecord⟩),
      hsucceeded step hmem⟩
  · intro h
    have hmem : ∀ step ∈ tables.steps.filter fun step => step.runId = runId,
        Unbilled step ∧ step.state = .succeeded := by
      intro step hstep
      rw [List.mem_filter, decide_eq_true_eq] at hstep
      exact h step hstep.1 hstep.2
    refine ⟨fun record hrecord => ?_, fun step hstep => (hmem step hstep).2⟩
    obtain ⟨step, hstep, hrecord⟩ := List.mem_filterMap.1 hrecord
    exact unbilled_iff.1 (hmem step hstep).1 record hrecord

/-- The tables with one run and one step of it, and a step of another run that took ten tokens. -/
def oneStep (step : StepRow) : UsageTables :=
  ⟨[UsageRepository.usageRun], [step, { UsageRepository.usageStep with id := ⟨4⟩, runId := ⟨9⟩ }]⟩

/-- The run as it is loaded. -/
def loadedRun (step : StepRow) : Run :=
  RunRepository.decoded UsageRepository.usageRun [step.toRunStep] (.money ⟨0⟩) ⟨10000000⟩

/-- The run of the sample is loaded with its step. -/
theorem get_oneStep (step : StepRow) (hrunId : step.runId = ⟨1⟩) (hsequence : 0 ≤ step.sequence) :
    ((RunRepository.get .asMoney ⟨1⟩).on (oneStep step).runTables).1 = .ok (some (loadedRun step)) := by
  have hsteps : (oneStep step).runTables.stepsOf ⟨1⟩ = [step.toRunStep] := by
    simp [oneStep, UsageTables.runTables, RunTables.stepsOf, hrunId]
  refine RunRepository.get_on_eq_some.2 ⟨UsageRepository.usageRun, rfl, ?_⟩
  rw [hsteps]
  refine RunRepository.toEntity_eq_ok.2 ⟨.money ⟨0⟩, ⟨10000000⟩, rfl, rfl, by decide, fun step' hstep' => ?_, rfl⟩
  rw [List.mem_singleton.1 hstep']
  exact hsequence

/-- The rows pass the checks if the step of the run does. -/
theorem valid_oneStep {step : StepRow} (h : ∀ record ∈ UsageRepository.usageRecord step, record.Valid) :
    ∀ step' ∈ (oneStep step).steps, ∀ record ∈ UsageRepository.usageRecord step', record.Valid := by
  intro step' hstep' record hrecord
  rcases List.mem_cons.1 hstep' with rfl | hother
  · exact h record hrecord
  · rw [List.mem_singleton.1 hother] at hrecord
    obtain rfl := Option.some.inj hrecord
    exact ⟨by decide, by decide, by decide, by decide, by decide, by decide, by decide, by decide⟩

/-- A step of a model that has succeeded, and took no tokens. -/
def unbilledStep : StepRow :=
  { UsageRepository.usageStep with
    promptTokens := some 0, completionTokens := some 0, totalTokens := some 0, costMicrounits := some 0 }

/-- The status of its run reports its usage. -/
theorem reportsStored_unbilledStep : ReportsStored ⟨1⟩ ⟨1⟩ (oneStep unbilledStep) := by
  have hvalid : ∀ record ∈ UsageRepository.usageRecord unbilledStep, record.Valid := by
    intro record hrecord
    obtain rfl := Option.some.inj hrecord
    exact ⟨by decide, by decide, by decide, by decide, by decide, by decide, by decide, by decide⟩
  refine (reportsStored_iff ⟨1⟩ ⟨1⟩ (oneStep unbilledStep) (loadedRun unbilledStep)
    (get_oneStep unbilledStep rfl (by decide)) rfl (valid_oneStep hvalid)).2 fun step hstep hrunId => ?_
  rcases List.mem_cons.1 hstep with rfl | hother
  · exact ⟨fun _ _ => ⟨rfl, rfl⟩, rfl⟩
  · rw [List.mem_singleton.1 hother] at hrunId
    cases hrunId

/-- The status of a run whose step took ten tokens reports none: the step that is loaded has lost them. -/
theorem not_reportsStored : ¬∀ (runId tenantId : UUID) (tables : UsageTables) (run : Run),
    ((RunRepository.get .asMoney runId).on tables.runTables).1 = .ok (some run) → run.tenantId = tenantId →
    (∀ step ∈ tables.steps, ∀ record ∈ UsageRepository.usageRecord step, record.Valid) →
      ReportsStored runId tenantId tables := by
  intro h
  have hvalid : ∀ record ∈ UsageRepository.usageRecord UsageRepository.usageStep, record.Valid := by
    intro record hrecord
    obtain rfl := Option.some.inj hrecord
    exact ⟨by decide, by decide, by decide, by decide, by decide, by decide, by decide, by decide⟩
  have hrun := get_oneStep UsageRepository.usageStep rfl (by decide)
  have hreports := h ⟨1⟩ ⟨1⟩ (oneStep UsageRepository.usageStep) _ hrun rfl (valid_oneStep hvalid)
  have hzero := ((reportsStored_iff_records hrun rfl (valid_oneStep hvalid)).1 hreports).1 _ List.mem_cons_self
  exact absurd hzero.1 (by decide)

end RunStatus

end AgentRuntime
