import AgentRuntime.Db.ApprovalStore
import AgentRuntime.Db.RunRepository
import AgentRuntime.Interaction.BigStep
import AgentRuntime.Services.ApprovalCoordinator

/-!
# The approvals router

The endpoints of `app/api/v1/approvals/router.py` that are about one request. Their tenant is a dependency
that none of them uses: `get_approval` and `cancel_request` serve the request with the given identifier
whatever tenant its run belongs to. `approve_request` and `deny_request` read `auth.user_id`, which
`AuthContext` does not have, and so serve no request at all.
-/

namespace AgentRuntime

open Interaction

/-- The tenant and the scopes of an authenticated caller. -/
structure AuthContext where
  tenantId : Option UUID
  scopes : List String := []

namespace AuthContext

def requireScope (self : AuthContext) (scope : String) : Except PyError Unit :=
  if scope ∈ self.scopes then .ok () else .error (.external s!"Required scope: {scope}")

/-- `auth.user_id`, an attribute that the class does not have. -/
def userId (_ : AuthContext) : Except PyError (Option String) :=
  .error (.attributeError "'AuthContext' object has no attribute 'user_id'")

/-- `get_current_tenant`. -/
def currentTenant (self : AuthContext) : Except PyError UUID :=
  match self.tenantId with
  | some tenantId => .ok tenantId
  | none => .error (.external "Tenant context required")

/-- The dependencies of an endpoint resolve. -/
def Admitted (self : AuthContext) (scope : String) : Prop :=
  self.tenantId.isSome = true ∧ scope ∈ self.scopes

instance (self : AuthContext) (scope : String) : Decidable (self.Admitted scope) :=
  inferInstanceAs (Decidable (_ ∧ _))

end AuthContext

/-- Request to approve/deny an approval. -/
structure ApprovalDecisionRequest where
  responseData : Option Dict := none
  denialReason : Option String := none

/-- Approval request response. -/
structure ApprovalResponse where
  id : UUID
  runId : UUID
  stepSequence : Int
  approvalType : ApprovalType
  state : ApprovalState
  toolName : String
  action : String
  resource : Option String
  inputData : Json
  policyReason : String
  requestedBy : String
  requestedAt : Time
  approvedBy : Option String
  approvedAt : Option Time
  denialReason : Option String
  expiresAt : Option Time
  responseData : Option Dict

def ApprovalResponse.fromEntity (request : ApprovalRequest) : ApprovalResponse where
  id := request.id
  runId := request.runId
  stepSequence := request.stepSequence
  approvalType := request.approvalType
  state := request.state
  toolName := request.toolName
  action := request.action
  resource := request.resource
  inputData := request.inputData
  policyReason := request.policyReason
  requestedBy := request.requestedBy
  requestedAt := request.requestedAt
  approvedBy := request.approvedBy
  approvedAt := request.approvedAt
  denialReason := request.denialReason
  expiresAt := request.expiresAt
  responseData := request.responseData

namespace ApprovalsRouter

/-- The dependencies that the endpoints share. -/
def dependencies (auth : AuthContext) (scope : String) : Service Unit UUID := do
  let tenantId ← Proc.ofExcept auth.currentTenant
  Proc.ofExcept (auth.requireScope scope)
  return tenantId

/-- Get approval request details. -/
def getApproval (auth : AuthContext) (approvalId : UUID) : Service Unit ApprovalResponse := do
  let _tenantId ← dependencies auth "approvals:read"
  match ← ApprovalCoordinator.get approvalId with
  | none => throw ApprovalCoordinator.noErrorsModule
  | some request => return .fromEntity request

/-- Approve a pending request. -/
def approveRequest (auth : AuthContext) (approvalId : UUID) (decision : ApprovalDecisionRequest) :
    Service Unit ApprovalResponse := do
  let _tenantId ← dependencies auth "approvals:write"
  let userId ← Proc.ofExcept auth.userId
  let request ← ApprovalCoordinator.respondToApproval approvalId true
    ((PolicyEvaluator.given userId).getD "unknown") decision.responseData none
  return .fromEntity request

/-- Deny a pending request. -/
def denyRequest (auth : AuthContext) (approvalId : UUID) (decision : ApprovalDecisionRequest) :
    Service Unit ApprovalResponse := do
  let _tenantId ← dependencies auth "approvals:write"
  if PolicyEvaluator.given decision.denialReason = none then
    throw ApprovalCoordinator.noErrorsModule
  else
    let userId ← Proc.ofExcept auth.userId
    let request ← ApprovalCoordinator.respondToApproval approvalId false
      ((PolicyEvaluator.given userId).getD "unknown") none decision.denialReason
    return .fromEntity request

/-- Cancel a pending request. -/
def cancelRequest (auth : AuthContext) (approvalId : UUID) : Service Unit ApprovalResponse := do
  let _tenantId ← dependencies auth "approvals:write"
  let request ← ApprovalCoordinator.cancelRequest approvalId
  return .fromEntity request

/-- A call of one of the endpoints. -/
inductive Endpoint where
  | getApproval
  | approveRequest (decision : ApprovalDecisionRequest)
  | denyRequest (decision : ApprovalDecisionRequest)
  | cancelRequest

def Endpoint.handler (auth : AuthContext) (approvalId : UUID) : Endpoint → Service Unit ApprovalResponse
  | .getApproval => ApprovalsRouter.getApproval auth approvalId
  | .approveRequest decision => ApprovalsRouter.approveRequest auth approvalId decision
  | .denyRequest decision => ApprovalsRouter.denyRequest auth approvalId decision
  | .cancelRequest => ApprovalsRouter.cancelRequest auth approvalId

/-- The store, and how many calls have been answered, each under circumstances of its own. -/
abbrev World := ApprovalStore × Nat

/-- The answers to the calls of an endpoint. -/
def approvalEnv (circumstances : Nat → Circumstance) : CallEnv World := fun o (s, n) =>
  let (r, s') := approvalAnswer (circumstances n) 0 o s
  (r, (s', n + 1))

/-- The run of the request belongs to another tenant than the caller. -/
def Foreign (runs : RunTables) (auth : AuthContext) (row : ApprovalRow) : Prop :=
  ∃ run, runs.find row.runId = some run ∧ auth.tenantId ≠ some run.tenantId

section
variable (circumstances : Nat → Circumstance) (runs : RunTables) (auth : AuthContext) (approvalId : UUID)
  (endpoint : Endpoint) (s : ApprovalStore)

/-- How the call ends. -/
def served : Prog.Exec Call World (Except PyError ApprovalResponse × Unit) :=
  ((endpoint.handler auth approvalId).on ()).exec (approvalEnv circumstances) (s, 0)

/-- Of the requests of other tenants, the call returns none, and leaves each as it is stored. -/
structure TenantBound : Prop where
  returns : ∀ requestId row, s.requests.find requestId = some row → Foreign runs auth row →
    ∀ response, (served circumstances auth approvalId endpoint s).result = some (.ok response, ()) →
      response.id ≠ requestId
  stored : ∀ requestId row, s.requests.find requestId = some row → Foreign runs auth row →
    (served circumstances auth approvalId endpoint s).state.1.requests.find requestId = some row

/-- The endpoint can serve a request to the caller, and nothing is refused. -/
def Serves : Endpoint → Prop
  | .getApproval => auth.Admitted "approvals:read" ∧ (circumstances 0).refuses = none
  | .cancelRequest =>
    auth.Admitted "approvals:write" ∧ (circumstances 0).refuses = none ∧ (circumstances 2).refuses = none
  | .approveRequest _ | .denyRequest _ => False

/-- The call raises, and changes no request. -/
def Refused : Prop :=
  (∃ e, (served circumstances auth approvalId endpoint s).result = some (.error e, ())) ∧
    (served circumstances auth approvalId endpoint s).state.1.requests = s.requests

/-- The call returns the request with its identifier, and changes no other. -/
def Discloses : Prop :=
  (∃ request, (served circumstances auth approvalId endpoint s).result =
      some (.ok (.fromEntity request), ()) ∧ request.id = approvalId) ∧
    ∀ requestId, requestId ≠ approvalId →
      (served circumstances auth approvalId endpoint s).state.1.requests.find requestId =
        s.requests.find requestId

end

section
variable {circumstances : Nat → Circumstance} {auth : AuthContext} {approvalId : UUID} {s : ApprovalStore}
  {scope : String} {w : World}

/-- A caller with a tenant and the scope passes the dependencies of every endpoint, which leave the world as
it is. -/
theorem ends_dependencies_of_admitted (h : auth.Admitted scope) :
    ∃ tenantId, Proc.Ends (approvalEnv circumstances) w (dependencies auth scope) (.ok tenantId) w := by
  obtain ⟨tenantId, htenant⟩ := Option.isSome_iff_exists.1 h.1
  refine ⟨tenantId, ?_⟩
  simp [Proc.Ends, dependencies, AuthContext.currentTenant, AuthContext.requireScope, htenant, h.2]

/-- Any other caller is refused there, before the endpoint looks at the approval. -/
theorem ends_dependencies_of_not_admitted (h : ¬auth.Admitted scope) :
    ∃ e, Proc.Ends (approvalEnv circumstances) w (dependencies auth scope) (.error e) w := by
  cases htenant : auth.tenantId with
  | none =>
    refine ⟨.external "Tenant context required", ?_⟩
    simp [Proc.Ends, dependencies, AuthContext.currentTenant, htenant]
  | some tenantId =>
    have hscope : scope ∉ auth.scopes := fun hmem => h ⟨by rw [htenant]; rfl, hmem⟩
    refine ⟨.external s!"Required scope: {scope}", ?_⟩
    simp [Proc.Ends, dependencies, AuthContext.currentTenant, AuthContext.requireScope, htenant, hscope]

/-- A stored request that can be loaded. -/
def Loadable (approvalId : UUID) (s : ApprovalStore) : Prop :=
  ∃ row, s.requests.find approvalId = some row ∧ row.Readable

/-- The coordinator loads the request, unless the statement is refused. -/
theorem ends_get (circumstances : Nat → Circumstance) (approvalId : UUID) (s : ApprovalStore) (n : Nat) :
    ∃ x s', Proc.Ends (approvalEnv circumstances) (s, n)
        (ApprovalCoordinator.get approvalId : Service Unit (Option ApprovalRequest)) x (s', n + 1) ∧
      s'.requests = s.requests ∧
      (((circumstances n).refuses = none ∧ Loadable approvalId s ∧
          ∃ request, x = .ok (some request) ∧ request.id = approvalId) ∨
        ¬((circumstances n).refuses = none ∧ Loadable approvalId s) ∧ ∀ request, x ≠ .ok (some request)) := by
  have hends : Proc.Ends (approvalEnv circumstances) (s, n)
      (ApprovalCoordinator.get approvalId : Service Unit (Option ApprovalRequest))
      (approvalAnswer (circumstances n) 0 (.approvalGet approvalId) s).1
      ((approvalAnswer (circumstances n) 0 (.approvalGet approvalId) s).2, n + 1) := ⟨rfl, rfl⟩
  refine ⟨_, _, hends, ?_⟩
  simp only [approvalAnswer]
  rcases (circumstances n).unlessRefused_cases s
    (((ApprovalRepository.get approvalId (circumstances n).now).on s.requests).1,
      { s with seen := Function.update s.seen 0 s.updates.length }) with ⟨e, hrefuses, heq⟩ | ⟨hrefuses, heq⟩ <;>
    rw [heq]
  · refine ⟨rfl, .inr ⟨fun h => ?_, fun request hrequest => by cases hrequest⟩⟩
    rw [h.1] at hrefuses
    cases hrefuses
  · refine ⟨rfl, ?_⟩
    by_cases hloadable : Loadable approvalId s
    · obtain ⟨row, hrow, hreadable⟩ := hloadable
      obtain ⟨request, hrequest⟩ := ApprovalRow.exists_toEntity_eq_ok.2 hreadable
      refine .inl ⟨hrefuses, ⟨row, hrow, hreadable⟩, request,
        ApprovalRepository.get_on_eq_some.2 ⟨row, hrow, hrequest⟩, ?_⟩
      exact (ApprovalRow.of_toEntity hrequest).1.trans (Rows.key_of_find hrow)
    · refine .inr ⟨fun h => hloadable h.2, fun request hrequest => hloadable ?_⟩
      obtain ⟨row, hrow, hentity⟩ := ApprovalRepository.get_on_eq_some.1 hrequest
      exact ⟨row, hrow, ApprovalRow.exists_toEntity_eq_ok.1 ⟨request, hentity⟩⟩

/-! ## How the endpoints end -/

/-- A caller that is not admitted is refused. -/
theorem refused_of_not_admitted {endpoint : Endpoint} {rest : UUID → Service Unit ApprovalResponse}
    (h : ¬auth.Admitted scope)
    (hhandler : endpoint.handler auth approvalId = dependencies auth scope >>= rest) :
    Refused circumstances auth approvalId endpoint s := by
  obtain ⟨e, he⟩ : ∃ e, Proc.Ends (approvalEnv circumstances) (s, 0) (dependencies auth scope) (.error e) (s, 0) :=
    ends_dependencies_of_not_admitted h
  have hends := he.bind_error (f := rest)
  rw [← hhandler] at hends
  exact ⟨⟨e, hends.1⟩, congrArg (fun w => w.1.requests) hends.2⟩

/-- An endpoint that raises. -/
theorem refused_of_ends {endpoint : Endpoint} {e : PyError} {w : World} (hw : w.1.requests = s.requests)
    (h : Proc.Ends (approvalEnv circumstances) (s, 0) (endpoint.handler auth approvalId) (.error e) w) :
    Refused circumstances auth approvalId endpoint s := by
  refine ⟨⟨e, h.1⟩, ?_⟩
  unfold served
  rw [h.2]
  exact hw

/-- Either the request is disclosed, and could be served, or the call is refused, and it could not. -/
def Outcome (circumstances : Nat → Circumstance) (auth : AuthContext) (approvalId : UUID) (endpoint : Endpoint)
    (s : ApprovalStore) : Prop :=
  (Serves circumstances auth endpoint ∧ Loadable approvalId s ∧
      Discloses circumstances auth approvalId endpoint s) ∨
    ¬(Serves circumstances auth endpoint ∧ Loadable approvalId s) ∧
      Refused circumstances auth approvalId endpoint s

/-- Reading an approval ends as the outcome says, whichever tenant it is of. -/
theorem outcome_getApproval : Outcome circumstances auth approvalId .getApproval s := by
  by_cases hadmitted : auth.Admitted "approvals:read"
  · obtain ⟨tenantId, htenant⟩ : ∃ tenantId, Proc.Ends (approvalEnv circumstances) (s, 0)
        (dependencies auth "approvals:read") (.ok tenantId) (s, 0) := ends_dependencies_of_admitted hadmitted
    obtain ⟨x, s', hget, hrequests, ⟨hrefuses, hloadable, request, rfl, hid⟩ | ⟨hnot, hx⟩⟩ :=
      ends_get circumstances approvalId s 0
    · have hends : Proc.Ends (approvalEnv circumstances) (s, 0) (getApproval auth approvalId)
          (.ok (.fromEntity request)) (s', 1) := htenant.bind (hget.bind (Proc.ends_pure _))
      refine .inl ⟨⟨hadmitted, hrefuses⟩, hloadable, ⟨request, hends.1, hid⟩, fun requestId _ => ?_⟩
      rw [← hrequests]
      exact congrArg (fun w : World => w.1.requests.find requestId) hends.2
    · refine .inr ⟨fun h => hnot ⟨h.1.2, h.2⟩, ?_⟩
      rcases x with e | _ | request
      · exact refused_of_ends hrequests (htenant.bind hget.bind_error)
      · exact refused_of_ends hrequests (htenant.bind (hget.bind ⟨rfl, rfl⟩))
      · exact absurd rfl (hx request)
  · exact .inr ⟨fun h => hadmitted h.1.1, refused_of_not_admitted hadmitted rfl⟩

/-- A request that was loaded is cancelled, if the database does not refuse. -/
theorem ends_cancelled (circumstances : Nat → Circumstance) {request : ApprovalRequest} {s : ApprovalStore}
    (hloadable : Loadable request.id s) (n : Nat) :
    ∃ x s', Proc.Ends (approvalEnv circumstances) (s, n)
        (do
          let now ← Service.now
          Proc.withObject request do
            Proc.method (ApprovalRequest.cancel "Cancelled by user" now)
            let request ← get
            Service.approvalUpdate request
            return request : Service Unit ApprovalRequest) x (s', n + 2) ∧
      (((circumstances (n + 1)).refuses = none ∧ (∃ request', x = .ok request' ∧ request'.id = request.id) ∧
          ∀ requestId, requestId ≠ request.id → s'.requests.find requestId = s.requests.find requestId) ∨
        (circumstances (n + 1)).refuses ≠ none ∧ s' = s ∧ ∃ e, x = .error e) := by
  obtain ⟨request', hcancel, hid, -⟩ :=
    ApprovalRequest.cancel_on "Cancelled by user" (circumstances n).now request
  have hends : Proc.Ends (approvalEnv circumstances) (s, n)
      (do
        let now ← Service.now
        Proc.withObject request do
          Proc.method (ApprovalRequest.cancel "Cancelled by user" now)
          let request ← get
          Service.approvalUpdate request
          return request : Service Unit ApprovalRequest)
      ((approvalAnswer (circumstances (n + 1)) 0 (.approvalUpdate request') s).1.map fun _ => request')
      ((approvalAnswer (circumstances (n + 1)) 0 (.approvalUpdate request') s).2, n + 2) := by
    have hnow : (approvalEnv circumstances .now (s, n)) = ((circumstances n).now, (s, n + 1)) := rfl
    have hupdate : (approvalEnv circumstances (.approvalUpdate request') (s, n + 1)) =
        ((approvalAnswer (circumstances (n + 1)) 0 (.approvalUpdate request') s).1,
          ((approvalAnswer (circumstances (n + 1)) 0 (.approvalUpdate request') s).2, n + 2)) := rfl
    simp only [Proc.Ends, Proc.on_bind, Proc.on_call, Prog.call_bind, Prog.ret_bind, Proc.thenOn_ok,
      Proc.on_withObject, Proc.on_method, Prog.exec_call, hnow, hcancel, Proc.on_get, Proc.on_tryCall, hupdate]
    rcases approvalAnswer (circumstances (n + 1)) 0 (.approvalUpdate request') s with ⟨e | ⟨⟩, s'⟩
    · exact ⟨rfl, rfl⟩
    · exact ⟨rfl, rfl⟩
  refine ⟨_, _, hends, ?_⟩
  rcases approvalAnswer_update (circumstances (n + 1)) 0 request' s with
    ⟨hrefuses, e, heq⟩ | ⟨row, hrow, hrefuses, heq⟩ <;> rw [heq]
  · obtain ⟨row, hrow, -⟩ := hloadable
    rw [hid, hrow] at hrefuses
    exact .inr ⟨hrefuses.resolve_right (Option.some_ne_none row), rfl, e, rfl⟩
  · refine .inl ⟨hrefuses, ⟨request', rfl, hid⟩, fun requestId hne => ?_⟩
    have hrowId : row.id = request'.id := Rows.key_of_find hrow
    rw [ApprovalRepository.update_on hrow]
    refine Rows.find_put_of_ne ?_
    change row.id ≠ requestId
    rw [hrowId, hid]
    exact Ne.symm hne

/-- So does cancelling one: the request is cancelled on the identifier alone. -/
theorem outcome_cancelRequest : Outcome circumstances auth approvalId .cancelRequest s := by
  by_cases hadmitted : auth.Admitted "approvals:write"
  · obtain ⟨tenantId, htenant⟩ : ∃ tenantId, Proc.Ends (approvalEnv circumstances) (s, 0)
        (dependencies auth "approvals:write") (.ok tenantId) (s, 0) := ends_dependencies_of_admitted hadmitted
    obtain ⟨x, s', hget, hrequests, ⟨hrefuses, hloadable, request, rfl, hid⟩ | ⟨hnot, hx⟩⟩ :=
      ends_get circumstances approvalId s 0
    · subst hid
      have hloadable' : Loadable request.id s' := by
        rw [Loadable, hrequests]
        exact hloadable
      obtain ⟨y, s'', hcancel, ⟨hrefuses', ⟨request', rfl, hid'⟩, hothers⟩ | ⟨hrefuses', rfl, e, rfl⟩⟩ :=
        ends_cancelled circumstances hloadable' 1
      · have hends : Proc.Ends (approvalEnv circumstances) (s, 0) (cancelRequest auth request.id)
            (.ok (.fromEntity request')) (s'', 3) :=
          htenant.bind ((hget.bind hcancel).bind (Proc.ends_pure _))
        refine .inl ⟨⟨hadmitted, hrefuses, hrefuses'⟩, hloadable, ⟨request', hends.1, hid'⟩,
          fun requestId hne => ?_⟩
        have hfind := hothers requestId hne
        rw [hrequests] at hfind
        rw [← hfind]
        exact congrArg (fun w : World => w.1.requests.find requestId) hends.2
      · have hends : Proc.Ends (approvalEnv circumstances) (s, 0) (cancelRequest auth request.id)
            (.error e) (s'', 3) := htenant.bind (hget.bind hcancel).bind_error
        exact .inr ⟨fun h => hrefuses' h.1.2.2, refused_of_ends hrequests hends⟩
    · refine .inr ⟨fun h => hnot ⟨h.1.2.1, h.2⟩, ?_⟩
      rcases x with e | _ | request
      · exact refused_of_ends hrequests (htenant.bind (hget.bind_error).bind_error)
      · exact refused_of_ends hrequests (htenant.bind (Proc.Ends.bind_error (hget.bind ⟨rfl, rfl⟩)))
      · exact absurd rfl (hx request)
  · exact .inr ⟨fun h => hadmitted h.1.1, refused_of_not_admitted hadmitted rfl⟩

/-- The caller's identifier cannot be read. -/
theorem ends_userId (circumstances : Nat → Circumstance) (auth : AuthContext) (w : World)
    (rest : Option String → Service Unit ApprovalResponse) :
    ∃ e, Proc.Ends (approvalEnv circumstances) w (Proc.ofExcept auth.userId >>= rest) (.error e) w :=
  ⟨_, Proc.Ends.bind_error (Proc.ends_ofExcept _)⟩

/-- Approving always raises: what the endpoint takes for the caller's identifier cannot be read. -/
theorem refused_approveRequest (decision : ApprovalDecisionRequest) :
    Refused circumstances auth approvalId (.approveRequest decision) s := by
  by_cases hadmitted : auth.Admitted "approvals:write"
  · obtain ⟨tenantId, htenant⟩ : ∃ tenantId, Proc.Ends (approvalEnv circumstances) (s, 0)
        (dependencies auth "approvals:write") (.ok tenantId) (s, 0) := ends_dependencies_of_admitted hadmitted
    obtain ⟨e, he⟩ := ends_userId circumstances auth (s, 0) _
    exact refused_of_ends rfl (htenant.bind he)
  · exact refused_of_not_admitted hadmitted rfl

/-- Denying raises for the same reason. -/
theorem refused_denyRequest (decision : ApprovalDecisionRequest) :
    Refused circumstances auth approvalId (.denyRequest decision) s := by
  by_cases hadmitted : auth.Admitted "approvals:write"
  · obtain ⟨tenantId, htenant⟩ : ∃ tenantId, Proc.Ends (approvalEnv circumstances) (s, 0)
        (dependencies auth "approvals:write") (.ok tenantId) (s, 0) := ends_dependencies_of_admitted hadmitted
    have hrest : ∃ e, Proc.Ends (approvalEnv circumstances) (s, 0)
        (if PolicyEvaluator.given decision.denialReason = none then
            (throw ApprovalCoordinator.noErrorsModule : Service Unit ApprovalResponse)
          else do
            let userId ← Proc.ofExcept auth.userId
            let request ← ApprovalCoordinator.respondToApproval approvalId false
              ((PolicyEvaluator.given userId).getD "unknown") none decision.denialReason
            return .fromEntity request) (.error e) (s, 0) := by
      split
      · exact ⟨_, rfl, rfl⟩
      · exact ends_userId circumstances auth (s, 0) _
    obtain ⟨e, he⟩ := hrest
    exact refused_of_ends rfl (htenant.bind he)
  · exact refused_of_not_admitted hadmitted rfl

/-- Every call of an endpoint ends in one of the two ways. -/
theorem outcome_served (circumstances : Nat → Circumstance) (auth : AuthContext) (approvalId : UUID)
    (endpoint : Endpoint) (s : ApprovalStore) : Outcome circumstances auth approvalId endpoint s := by
  cases endpoint with
  | getApproval => exact outcome_getApproval
  | approveRequest decision => exact .inr ⟨fun h => h.1, refused_approveRequest decision⟩
  | denyRequest decision => exact .inr ⟨fun h => h.1, refused_denyRequest decision⟩
  | cancelRequest => exact outcome_cancelRequest

end

/-- A call is bound to the caller's tenant exactly if it names no request of another tenant that it could
load and serve. -/
theorem tenantBound_iff (circumstances : Nat → Circumstance) (runs : RunTables) (auth : AuthContext)
    (approvalId : UUID) (endpoint : Endpoint) (s : ApprovalStore) :
    TenantBound circumstances runs auth approvalId endpoint s ↔
      ∀ row, s.requests.find approvalId = some row → Foreign runs auth row → row.Readable →
        ¬Serves circumstances auth endpoint := by
  constructor
  · rintro hbound row hrow hforeign hreadable hserves
    rcases outcome_served circumstances auth approvalId endpoint s with
      ⟨-, -, ⟨request, hrequest, hid⟩, -⟩ | ⟨hnot, -⟩
    · exact hbound.returns approvalId row hrow hforeign _ hrequest hid
    · exact hnot ⟨hserves, row, hrow, hreadable⟩
  · intro h
    rcases outcome_served circumstances auth approvalId endpoint s with
      ⟨hserves, ⟨row, hrow, hreadable⟩, ⟨request, hrequest, hid⟩, hothers⟩ | ⟨-, ⟨e, he⟩, hstored⟩
    · -- the request is the caller's own, and the call is about no other
      have hown : ¬Foreign runs auth row := fun hforeign => h row hrow hforeign hreadable hserves
      have hother {requestId : UUID} {row' : ApprovalRow} (hrow' : s.requests.find requestId = some row')
          (hforeign : Foreign runs auth row') : requestId ≠ approvalId := by
        rintro rfl
        rw [Option.some.inj (hrow.symm.trans hrow')] at hown
        exact hown hforeign
      refine ⟨fun requestId row' hrow' hforeign response hresponse => ?_,
        fun requestId row' hrow' hforeign => (hothers requestId (hother hrow' hforeign)).trans hrow'⟩
      have hsame := hrequest.symm.trans hresponse
      cases hsame
      rw [show (ApprovalResponse.fromEntity request).id = request.id from rfl, hid]
      exact Ne.symm (hother hrow' hforeign)
    · refine ⟨fun requestId row hrow hforeign response hresponse => ?_, fun requestId row hrow hforeign => ?_⟩
      · rw [he] at hresponse
        cases hresponse
      · rw [hstored]
        exact hrow

/-- A caller of tenant 1 with the approval scopes. -/
def tenantOne : AuthContext := { tenantId := some ⟨1⟩, scopes := ["approvals:read", "approvals:write"] }

/-- A pending request of the run 1. -/
def foreignApproval : ApprovalRow :=
  { id := ⟨6⟩, runId := ⟨1⟩, stepSequence := 0, approvalType := .toolExecution, toolName := "t",
    action := "execute", requestedAt := 0, createdAt := 0, updatedAt := 0 }

/-- The run 1, of tenant 3. -/
def foreignRun : RunRow :=
  { id := ⟨1⟩, tenantId := ⟨3⟩, agentVersionId := ⟨4⟩, state := .awaitingApproval, inputData := [],
    outputData := none, idempotencyKey := "key", attempt := 1, maxSteps := 100, maxCostMicrounits := 10000000,
    spentCostMicrounits := 0, leaseOwner := none, leaseExpiresAt := none, cancelRequestedAt := none,
    createdAt := 0, updatedAt := 0 }

/-- The request of another tenant is returned by one endpoint, and cancelled by another. -/
theorem not_tenantBound :
    (¬∀ (circumstances : Nat → Circumstance) (runs : RunTables) (auth : AuthContext) (approvalId : UUID)
      (endpoint : Endpoint) (s : ApprovalStore), TenantBound circumstances runs auth approvalId endpoint s) ∧
    (served (fun _ => {}) tenantOne ⟨6⟩ .cancelRequest ⟨[foreignApproval], [], fun _ => 0⟩).state.1.requests.map
      ApprovalRow.state = [.cancelled] := by
  refine ⟨fun h => ?_, by decide +kernel⟩
  have hbound := h (fun _ => {}) ⟨[foreignRun], []⟩ tenantOne ⟨6⟩ .getApproval ⟨[foreignApproval], [], fun _ => 0⟩
  have hforeign : Foreign ⟨[foreignRun], []⟩ tenantOne foreignApproval := ⟨foreignRun, rfl, by decide⟩
  have hreturned : ((served (fun _ => {}) tenantOne ⟨6⟩ .getApproval
      ⟨[foreignApproval], [], fun _ => 0⟩).result.map fun r => r.1.map ApprovalResponse.id) =
        some (.ok ⟨6⟩) := by
    rfl
  cases hresult : (served (fun _ => {}) tenantOne ⟨6⟩ .getApproval ⟨[foreignApproval], [], fun _ => 0⟩).result with
  | none =>
    rw [hresult] at hreturned
    cases hreturned
  | some r =>
    obtain ⟨e | response, ⟨⟩⟩ := r <;> rw [hresult] at hreturned
    · cases hreturned
    · exact hbound.returns ⟨6⟩ foreignApproval rfl hforeign response hresult
        (Except.ok.inj (Option.some.inj hreturned))

end ApprovalsRouter

end AgentRuntime
