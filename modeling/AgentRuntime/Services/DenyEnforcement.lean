import AgentRuntime.Services.ToolExecution

/-!
# Which decisions the tool service enforces

`execute_tool` stops at a missing grant, at an exhausted rate limit and at a decision that asks for
approval; a denied decision is none of these and reaches the handler. The handler is kept from a
request exactly when the grant found for the tool is active and the deciding effect allows or asks
for approval (`executeTool_denyEnforced_iff`).
-/

namespace AgentRuntime

open Interaction

/-! ## The approval branch -/

/-- Creating an approval request runs no tool. -/
theorem ApprovalCoordinator.requestApproval_guar {σ : Type} (runId : UUID) (stepSequence : Int)
    (toolName action : String) (resource : Option String) (inputData : Json)
    (policyReason requestedBy : String) (ttlSeconds : Nat) (approvalType : ApprovalType) (s : σ) :
    ((requestApproval runId stepSequence toolName action resource inputData policyReason requestedBy
      ttlSeconds approvalType : Service σ ApprovalRequest).on s).Guar (fun _ _ => True)
        (fun o => o.isToolHandler = false) (fun r => r.2 = s) := by
  simp [requestApproval]

namespace ToolExecutionService

variable {W : Type} (env : CallEnv W) (cel : Cel) (agentVersionId : UUID)
  (toolName action : String) (inputData : Json) (resource : Option String) (context : Option Dict)
  (run : Run) (w : W)

/-- A decision that asks for approval runs no tool, and the call always raises. -/
theorem executeDecided_guar_of_requiresApproval {decision : PolicyDecision}
    (h : decision.requiresApproval = true) :
    ((executeDecided decision toolName action inputData resource).on run).Guar (fun _ _ => True)
      (fun o => o.isToolHandler = false) (fun r => ∀ result, r.1 ≠ .ok result) := by
  rw [executeDecided, if_pos h]
  simp only [Proc.on_bind, Proc.on_get, Prog.ret_bind, Proc.thenOn_ok]
  refine Proc.guar_bind (ApprovalCoordinator.requestApproval_guar ..) ?_ (by simp)
  simp [ToolExecutionResult.awaitingApprovalFor]

/-- A decision that asks for no approval runs the tool first. -/
theorem executeDecided_calls_of_not_requiresApproval {decision : PolicyDecision}
    (h : decision.requiresApproval = false) :
    .toolHandler toolName action inputData ∈
      (((executeDecided decision toolName action inputData resource).on run).exec env w).calls := by
  simp [executeDecided, h, executeHandler, executeToolHandler]

/-- A decision that asks for approval runs no tool and gives no success, rate limited or not. -/
theorem executeChecked_guar_of_requiresApproval {decision : PolicyDecision}
    (h : decision.requiresApproval = true) :
    ((executeChecked decision toolName action inputData resource).on run).Guar (fun _ _ => True)
      (fun o => o.isToolHandler = false)
      (fun r => ∀ result, r.1 = .ok result → result.success = false) := by
  have hdecided : ((executeDecided decision toolName action inputData resource).on run).Guar
      (fun _ _ => True) (fun o => o.isToolHandler = false)
      (fun r => ∀ result, r.1 = .ok result → result.success = false) :=
    (executeDecided_guar_of_requiresApproval toolName action inputData resource run h).mono
      (fun _ => id) fun r hr result hok => absurd hok (hr result)
  unfold executeChecked
  split
  · simp only [Proc.on_bind, Proc.on_get, Prog.ret_bind, Proc.thenOn_ok, Proc.on_tryCall,
      Prog.call_bind, Prog.guar_call, Proc.guar_thenOn]
    refine ⟨by simp, fun r _ => ⟨fun allowed _ => ?_, by simp⟩⟩
    split
    · exact hdecided
    · simp [ToolExecutionResult.rateLimited]
  · exact hdecided

/-- With a grant, the call looks it up, reads the clock, and goes on with the decision. -/
theorem exec_executeTool_of_grant {grant : ToolGrant} {w₁ : W}
    (hlookup : env (.grantByTool agentVersionId toolName) w = (.ok (some grant), w₁)) :
    ((executeTool cel agentVersionId toolName action inputData resource context).on run).exec env w =
      let tail := ((executeChecked (grant.evaluate cel action resource context (env .now w₁).1)
        toolName action inputData resource).on run).exec env (env .now w₁).2
      { tail with calls := .grantByTool agentVersionId toolName :: .now :: tail.calls } := by
  simp [executeTool, hlookup]

/-! ## The decision and the handler -/

/-- The decision `execute_tool` takes: the grant found for the tool, evaluated at the time the clock
shows then. Without a grant there is none. -/
def decisionOf : Option PolicyDecision :=
  match env (.grantByTool agentVersionId toolName) w with
  | (.ok (some grant), w') => some (grant.evaluate cel action resource context (env .now w').1)
  | _ => none

/-- One call of the service enforces the decision taken for it: the handler runs only on an allowed
decision, and a decision that does not allow stops the call before the handler, without success. -/
structure DenyEnforced (e : Prog.Exec Call W (Except PyError ToolExecutionResult × Run))
    (decision : Option PolicyDecision) : Prop where
  handler_allowed : (∃ o ∈ e.calls, o.isToolHandler = true) → ∃ d, decision = some d ∧ d.allowed = true
  denied_stops : ∀ d, decision = some d → d.allowed = false →
    (∀ o ∈ e.calls, o.isToolHandler = false) ∧
      ∀ result run', e.result = some (.ok result, run') → result.success = false

/-- The grant found for the tool, if any, is active and the effect that decides the request allows
or asks for approval. -/
def GrantDoesNotDeny : Prop :=
  ∀ grant, (env (.grantByTool agentVersionId toolName) w).1 = .ok (some grant) →
    grant.isActive = true ∧
      let effect := PolicyEvaluator.effectFor cel grant.policy action resource context
      effect.requiresApproval = true ∨ effect.allow = true

/-- `execute_tool` enforces its decision exactly when no grant denies the request: it looks at
`requires_approval` alone, and never at `allowed`. -/
theorem executeTool_denyEnforced_iff :
    DenyEnforced
        (((executeTool cel agentVersionId toolName action inputData resource context).on run).exec
          env w)
        (decisionOf env cel agentVersionId toolName action resource context w) ↔
      GrantDoesNotDeny env cel agentVersionId toolName action resource context w := by
  rcases hlookup : env (.grantByTool agentVersionId toolName) w with ⟨lookup, w₁⟩
  rcases lookup with e | grant?
  · have hright : GrantDoesNotDeny env cel agentVersionId toolName action resource context w := by
      simp [GrantDoesNotDeny, hlookup]
    refine iff_of_true ⟨?_, ?_⟩ hright
    · simp [executeTool, hlookup]
    · simp [decisionOf, hlookup]
  cases grant? with
  | none =>
    have hright : GrantDoesNotDeny env cel agentVersionId toolName action resource context w := by
      simp [GrantDoesNotDeny, hlookup]
    refine iff_of_true ⟨?_, ?_⟩ hright
    · simp [executeTool, hlookup]
    · simp [decisionOf, hlookup]
  | some grant =>
    set decision := grant.evaluate cel action resource context (env .now w₁).1 with hdecision
    have hof : decisionOf env cel agentVersionId toolName action resource context w =
        some decision := by
      simp [decisionOf, hlookup, hdecision]
    have hgrant : GrantDoesNotDeny env cel agentVersionId toolName action resource context w ↔
        decision.allowed = true ∨ decision.requiresApproval = true := by
      simp only [GrantDoesNotDeny, hlookup, hdecision, ToolGrant.evaluate_allowed,
        ToolGrant.evaluate_requiresApproval, Except.ok.injEq, Option.some.injEq, forall_eq']
      cases (PolicyEvaluator.effectFor cel grant.policy action resource context).requiresApproval <;>
        simp
    rw [hgrant, exec_executeTool_of_grant env cel agentVersionId toolName action inputData resource
      context run w hlookup, hof]
    cases hallowed : decision.allowed with
    | true =>
      exact iff_of_true ⟨fun _ => ⟨decision, rfl, hallowed⟩, by simp [hallowed]⟩ (.inl rfl)
    | false =>
      cases happroval : decision.requiresApproval with
      | true =>
        refine iff_of_true ?_ (.inr rfl)
        obtain ⟨hcalls, hresult⟩ := (executeChecked_guar_of_requiresApproval toolName action inputData
          resource run happroval).exec env (fun _ _ => trivial) (env .now w₁).2
        have hnone : ∀ o ∈ Call.grantByTool agentVersionId toolName :: .now ::
            (((executeChecked decision toolName action inputData resource).on run).exec env
              (env .now w₁).2).calls, o.isToolHandler = false := by
          simpa using hcalls
        refine ⟨fun ⟨o, ho, htool⟩ => ?_, fun d _ _ => ⟨hnone, fun result run' hok => ?_⟩⟩
        · rw [hnone o ho] at htool; cases htool
        · exact hresult _ hok result rfl
      | false =>
        refine iff_of_false (fun h => ?_) (by simp)
        have hchecked : executeChecked decision toolName action inputData resource =
            executeDecided decision toolName action inputData resource := by
          rw [executeChecked, ToolGrant.evaluate_rateLimit_of_deny hallowed happroval]
        have hcall := executeDecided_calls_of_not_requiresApproval env toolName action inputData
          resource run (env .now w₁).2 happroval
        obtain ⟨d, hd, hd'⟩ := h.handler_allowed
          ⟨_, List.mem_cons_of_mem _ (List.mem_cons_of_mem _ (hchecked ▸ hcall)), rfl⟩
        cases hd
        rw [hallowed] at hd'; cases hd'

/-- A grant that denies every use of the tool `t`. -/
def denyEnv : CallEnv Unit
  | .grantByTool _ toolName, w => (.ok (some (ToolGrant.sample toolName { allow := false })), w)
  | o, w => (o.quiet, w)

/-- A denied request reaches the handler and succeeds: nothing asks whether it was allowed. -/
theorem executeTool_denied_reaches_handler :
    let e := (executeTool (fun _ _ => none) ⟨4⟩ "t" "execute" (.dict []) none none).on
      (Run.sample .running []) |>.exec denyEnv ()
    let decision := decisionOf denyEnv (fun _ _ => none) ⟨4⟩ "t" "execute" none none ()
    decision.map PolicyDecision.allowed = some false ∧
      e.calls.any Call.isToolHandler = true ∧
      (e.result.bind fun r => r.1.toOption.map ToolExecutionResult.success) = some true ∧
      ¬DenyEnforced e decision := by
  refine ⟨by decide, by decide, by decide, fun h => ?_⟩
  obtain ⟨d, hd, hallowed⟩ := h.handler_allowed (List.any_eq_true.1 (by decide))
  cases hd
  cases hallowed

end ToolExecutionService

end AgentRuntime
