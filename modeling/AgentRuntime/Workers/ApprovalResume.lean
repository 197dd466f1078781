import AgentRuntime.Workers.RunExecutor

/-!
# Executing a run again after an approval

The answers to an approval request are requests to the API, one after another; the run is then
resumed and executed again. As `execute_run` raises before its loop, the tool of the paused step is
not run, whatever the answer was: the law that it runs once if the request was approved, and
otherwise never, holds exactly when the request is not approved.
-/

namespace AgentRuntime

open Interaction Service

/-! ## Responses and resumption -/

/-- One call to the API about an approval request. -/
inductive ApproverResponse where
  | respond (approved : Bool) (respondedBy : String) (responseData : Option Dict)
      (denialReason : Option String)
  | cancel
  /-- The periodic clean-up. -/
  | expireOld

/-- Send one response. -/
def ApproverResponse.send (requestId : UUID) : ApproverResponse → Service Unit Unit
  | respond approved respondedBy responseData denialReason => do
    let _ ← ApprovalCoordinator.respondToApproval requestId approved respondedBy responseData denialReason
  | cancel => do
    let _ ← ApprovalCoordinator.cancelRequest requestId
  | expireOld => do
    let _ ← ApprovalCoordinator.expireOldRequests

/-- Send the responses one after another; an exception ends only the call that raised it. -/
def sendResponses (requestId : UUID) : List ApproverResponse → Service Unit Unit
  | [] => return
  | response :: responses => do
    tryCatch (response.send requestId) fun _ => return
    sendResponses requestId responses

/-- Load the run, resume it from the approval and store it. -/
def resumeRun (runId : UUID) : Service Unit Unit := do
  match ← runGet runId with
  | none => return
  | some run =>
    Proc.withObject run do
      let now ← now
      Proc.method (Run.resumeFromApproval now)
      let run ← get
      let _ ← runUpdate run

/-- The responses, then the resumption. -/
def respondAndResume (requestId runId : UUID) (responses : List ApproverResponse) :
    Service Unit Unit := do
  sendResponses requestId responses
  resumeRun runId

/-! ## The tool of the paused step -/

variable {W : Type} (self : RunExecutor) (env : CallEnv W) (requestId runId : UUID)
  (toolName action : String) (responses : List ApproverResponse) (w : W)

/-- The request is approved, as the repository would answer now. -/
def IsApproved : Prop :=
  ∃ request, (env (.approvalGet requestId) w).1 = .ok (some request) ∧ request.state = .approved

/-- Where the responses and the resumption lead. -/
def afterResponses : W := (((respondAndResume requestId runId responses).on ()).exec env w).state

/-- The call runs this action of this tool. -/
def Call.runsTool (toolName action : String) : Call → Bool
  | .toolHandler toolName' action' _ => toolName' = toolName ∧ action' = action
  | _ => false

/-- Executed again, the run ends; it has run the paused tool once if the request is approved, and
otherwise not at all, and has asked for no further approval. -/
def ReexecutesOnce : Prop :=
  ∃ fuel,
    let e := ((self.executeRun fuel runId).on ()).exec env w
    e.result ≠ none ∧
      (IsApproved env requestId w → (e.calls.filter (Call.runsTool toolName action)).length = 1) ∧
      (¬IsApproved env requestId w → (e.calls.filter (Call.runsTool toolName action)).length = 0) ∧
      ∀ o ∈ e.calls, o.isApprovalAdd = false

/-- Executing a run makes one call, to load it, and ends. -/
theorem executeRun_calls (fuel : Nat) :
    (((self.executeRun fuel runId).on ()).exec env w).calls = [.runGet runId] ∧
      (((self.executeRun fuel runId).on ()).exec env w).result ≠ none := by
  rw [RunExecutor.executeRun_on]
  exact ⟨rfl, by simp⟩

/-- After any responses and the resumption, a run is executed again as it should be exactly when its
request is not approved. -/
theorem reexecutesOnce_iff :
    ReexecutesOnce self env requestId runId toolName action
        (afterResponses env requestId runId responses w) ↔
      ¬IsApproved env requestId (afterResponses env requestId runId responses w) := by
  generalize afterResponses env requestId runId responses w = w'
  constructor
  · rintro ⟨fuel, -, hruns, -, -⟩ happroved
    have hruns := hruns happroved
    rw [(executeRun_calls self env runId w' fuel).1] at hruns
    cases hruns
  · intro hstate
    obtain ⟨hcalls, hresult⟩ := executeRun_calls self env runId w' 0
    refine ⟨0, hresult, fun h => absurd h hstate, fun _ => ?_, ?_⟩
    · rw [hcalls]; rfl
    · rw [hcalls]; simp [Call.isApprovalAdd]

/-! ## An approved request -/

/-- A stored run and the approval request it waits for. -/
structure PausedRun where
  run : Run
  request : ApprovalRequest

/-- The repositories of such a run; every other call succeeds, and the policy asks for approval. -/
def pausedEnv : CallEnv PausedRun
  | .runGet _, w => (.ok (some w.run), w)
  | .runUpdate run, w => (.ok run, { w with run })
  | .approvalGet _, w => (.ok (some w.request), w)
  | .approvalUpdate request, w => (.ok (), { w with request })
  | .grantByTool _ toolName, w =>
    (.ok (some (ToolGrant.sample toolName { requiresApproval := true })), w)
  | o, w => (o.quiet, w)

/-- A run that waits for the approval of the tool `t`. -/
def PausedRun.sample : PausedRun :=
  { run := Run.sample .awaitingApproval
      [RunStep.sample .toolCall (some [("tool_name", .str "t")])]
    request :=
      { id := ⟨6⟩, createdAt := 0, updatedAt := 0, runId := ⟨1⟩, stepSequence := 0,
        approvalType := .toolExecution, toolName := "t", action := "execute", requestedAt := 0 } }

/-- The request is approved and the run resumed, and executing it again runs no tool: `execute_run`
raises before. -/
theorem approved_tool_not_executed :
    let responses := [.respond true "approver" none none]
    let w := afterResponses pausedEnv ⟨6⟩ ⟨1⟩ responses PausedRun.sample
    w.request.state = .approved ∧ w.run.state = .running ∧
      ¬ReexecutesOnce ⟨"worker", fun _ _ => none⟩ pausedEnv ⟨6⟩ ⟨1⟩ "t" "execute" w := by
  refine ⟨by decide, by decide, ?_⟩
  rintro ⟨fuel, -, hruns, -, -⟩
  have hruns := hruns ⟨_, rfl, by decide⟩
  rw [(executeRun_calls _ pausedEnv ⟨1⟩ _ fuel).1] at hruns
  cases hruns

end AgentRuntime
