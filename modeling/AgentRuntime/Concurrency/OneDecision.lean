import AgentRuntime.Db.ApprovalStore
import AgentRuntime.Interaction.Protocol
import AgentRuntime.Workers.ApprovalResume

/-!
# One decision per approval request

A request admits one decision, but `respond_to_approval` and the endpoint that cancels decide on the request
that they read, and `update` overwrites whatever decision is stored by then. Two responses that both read a
pending request both return. While no response was stored since the request was read that an update stores
(`UndecidedSince`), at most one response returns, and its decision stands until the request is cancelled.

Each call follows a protocol (`responseProtocol`): the request is read, then stored at most once.
-/

namespace AgentRuntime

open Interaction

namespace ApproverResponse

def isRespond : ApproverResponse → Bool
  | respond _ _ _ _ => true
  | _ => false

/-- The response decides the request so. -/
def Decides : ApproverResponse → ApprovalDecision → Prop
  | respond true respondedBy responseData _, decision =>
    decision.state = .approved ∧ decision.approvedBy = some respondedBy ∧
      decision.responseData = responseData
  | respond false respondedBy _ denialReason, decision =>
    decision.state = .denied ∧ decision.approvedBy = some respondedBy ∧
      decision.denialReason = some ((PolicyEvaluator.given denialReason).getD "Denied by approver")
  | _, _ => False

/-- What the call stores, of the request that it read. -/
def Stores (response : ApproverResponse) (request request' : ApprovalRequest) : Prop :=
  request'.id = request.id ∧
    if response.isRespond then request.state = .pending ∧ response.Decides request'.decision
    else request'.state = .cancelled ∨ request'.decision = request.decision

/-- A decision is an approval or a denial. -/
theorem state_of_decides {response : ApproverResponse} {decision : ApprovalDecision}
    (h : response.Decides decision) : decision.state = .approved ∨ decision.state = .denied := by
  cases response with
  | respond approved respondedBy responseData denialReason =>
    cases approved with
    | true => exact .inl h.1
    | false => exact .inr h.1
  | cancel => exact h.elim
  | expireOld => exact h.elim

section
variable {request request' : ApprovalRequest} {now : Time}

/-- An approval that returns stores what the approver answered. -/
theorem stores_of_approve {respondedBy : String} {responseData : Option Dict} {denialReason : Option String}
    (h : (ApprovalRequest.approve respondedBy responseData now).on request = (.ok (), request')) :
    (respond true respondedBy responseData denialReason).Stores request request' := by
  rw [ApprovalRequest.approve, Method.on_bind, Method.on_get] at h
  by_cases hpending : request.state = .pending
  · cases hexpired : request.isExpired now with
    | false =>
      simp [hpending, hexpired] at h
      subst h
      exact ⟨rfl, hpending, rfl, rfl, rfl⟩
    | true => simp [hpending, hexpired] at h
  · simp [hpending] at h

/-- A denial that returns stores the reason, or the one that stands for a missing reason. -/
theorem stores_of_deny {respondedBy : String} {responseData : Option Dict} {denialReason : Option String}
    (h : (ApprovalRequest.deny respondedBy ((PolicyEvaluator.given denialReason).getD "Denied by approver")
      now).on request = (.ok (), request')) :
    (respond false respondedBy responseData denialReason).Stores request request' := by
  rw [ApprovalRequest.deny, Method.on_bind, Method.on_get] at h
  by_cases hpending : request.state = .pending
  · simp [hpending] at h
    subst h
    exact ⟨rfl, hpending, rfl, rfl, rfl⟩
  · simp [hpending] at h

/-- The endpoint stores what it read, cancelled where that can be. -/
theorem stores_of_cancel (request : ApprovalRequest) (now : Time) :
    ∃ request', (ApprovalRequest.cancel "Cancelled by user" now).on request = (.ok (), request') ∧
      cancel.Stores request request' := by
  obtain ⟨request', hcancel, hid, hstate⟩ := ApprovalRequest.cancel_on "Cancelled by user" now request
  exact ⟨request', hcancel, hid, hstate.imp_right fun hsame => by rw [hsame]⟩

end

end ApproverResponse

/-! ## The protocol of a call -/

/-- Where a call is in its work on the request. -/
inductive ResponsePhase where
  | unread
  | read (request : ApprovalRequest)
  | stored

/-- How a call ends. -/
abbrev ResponseEnding := Except PyError Unit × Unit

/-- The request is read, then stored at most once; a response that returns has stored it. -/
def responseProtocol (requestId : UUID) (response : ApproverResponse) :
    Protocol Call Call.Ans ResponseEnding ResponsePhase where
  may
    | .unread, .approvalGet id => id = requestId
    | .unread, .approvalExpireOld => True
    | .read _, .now => True
    | .read request, .approvalUpdate request' => response.Stores request request'
    | .stored, .notifyApprovalResponded _ => True
    | _, _ => False
  next
    | .unread, .approvalGet _, .ok (some request) => .read request
    | .read _, .approvalUpdate _, .ok () => .stored
    | g, _, _ => g
  returns g ending := response.isRespond = true → ending.1 = .ok () → g = .stored

/-- A request is loaded under its own key. -/
def LoadsById : (o : Call) → o.Ans → Prop
  | .approvalGet requestId, r => ∀ request, r = .ok (some request) → request.id = requestId
  | _, _ => True

/-- A call that returns has stored the request. -/
def StoredIfOk {α τ : Type} (g : ResponsePhase) (r : Except PyError α × τ) : Prop :=
  r.1.isOk = true → g = .stored

/-- After its decision, a response stores the request and notifies. -/
theorem follows_storeResponse {requestId : UUID} {response : ApproverResponse}
    {request request' : ApprovalRequest} (h : response.Stores request request') :
    ((ApprovalCoordinator.storeResponse.on request').Follows LoadsById
      ((responseProtocol requestId response).returning StoredIfOk) (.read request)) := by
  simp only [ApprovalCoordinator.storeResponse, Proc.on_bind, Proc.on_get, Prog.ret_bind, Proc.thenOn_ok,
    Proc.on_tryCall, Prog.call_bind, Prog.follows_call]
  refine ⟨h, fun r _ => ?_⟩
  rcases r with e | ⟨⟩
  · intro hok
    cases hok
  · simp only [id, Proc.thenOn_ok, Proc.on_bind, Proc.on_tryCall, Prog.call_bind, Prog.ret_bind, Prog.follows_call]
    refine ⟨trivial, fun r _ => ?_⟩
    rcases r with e | ⟨⟩ <;> exact fun _ => rfl

/-- The work of a response on the request that it read. -/
theorem follows_decided {requestId : UUID} {response : ApproverResponse} {request : ApprovalRequest}
    {decide : Method PyError ApprovalRequest Unit}
    (h : ∀ request', decide.on request = (.ok (), request') → response.Stores request request') :
    ((Proc.withObject request do
      Proc.method decide
      ApprovalCoordinator.storeResponse : Service Unit ApprovalRequest).on ()).Follows LoadsById
      ((responseProtocol requestId response).returning StoredIfOk) (.read request) := by
  rw [Proc.on_withObject, Proc.on_bind, Proc.on_method, Prog.ret_bind]
  refine Prog.Follows.bind (R := StoredIfOk) ?_ fun g r hr => hr
  rcases hdecide : decide.on request with ⟨e | ⟨⟩, request'⟩
  · intro hok
    cases hok
  · exact follows_storeResponse (h request' hdecide)

/-- A response reads the request, then stores its decision at most once, and returns exactly if it has. -/
theorem follows_respondToApproval (requestId : UUID) (approved : Bool) (respondedBy : String)
    (responseData : Option Dict) (denialReason : Option String) :
    ((ApprovalCoordinator.respondToApproval requestId approved respondedBy responseData denialReason :
      Service Unit ApprovalRequest).on ()).Follows LoadsById
      ((responseProtocol requestId (.respond approved respondedBy responseData denialReason)).returning
        StoredIfOk) .unread := by
  simp only [ApprovalCoordinator.respondToApproval, Proc.on_bind, Proc.on_tryCall, Prog.call_bind,
    Prog.ret_bind, Prog.follows_call]
  refine ⟨rfl, fun r _ => ?_⟩
  rcases r with e | _ | request
  · intro hok
    cases hok
  · intro hok
    cases hok
  · simp only [id, Proc.thenOn_ok, Proc.on_bind, Proc.on_call, Prog.call_bind, Prog.ret_bind, Prog.follows_call]
    refine ⟨trivial, fun now _ => ?_⟩
    cases approved with
    | true => exact follows_decided fun request' h => ApproverResponse.stores_of_approve h
    | false => exact follows_decided fun request' h => ApproverResponse.stores_of_deny h

/-- So does a cancellation. -/
theorem follows_cancelRequest (requestId : UUID) :
    ((ApprovalCoordinator.cancelRequest requestId : Service Unit ApprovalRequest).on ()).Follows LoadsById
      ((responseProtocol requestId .cancel).returning StoredIfOk) .unread := by
  simp only [ApprovalCoordinator.cancelRequest, Proc.on_bind, Proc.on_tryCall, Prog.call_bind, Prog.ret_bind,
    Prog.follows_call]
  refine ⟨rfl, fun r _ => ?_⟩
  rcases r with e | _ | request
  · intro hok
    cases hok
  · intro hok
    cases hok
  · simp only [id, Proc.thenOn_ok, Proc.on_bind, Proc.on_call, Prog.call_bind, Prog.ret_bind, Proc.on_withObject,
      Proc.on_method, Prog.follows_call]
    refine ⟨trivial, fun now _ => ?_⟩
    obtain ⟨request', hcancel, hstores⟩ := ApproverResponse.stores_of_cancel request now
    simp only [hcancel, Proc.thenOn_ok, Proc.on_bind, Proc.on_get, Prog.ret_bind, Proc.on_tryCall, Prog.call_bind,
      Prog.follows_call]
    refine ⟨hstores, fun r _ => ?_⟩
    rcases r with e | ⟨⟩
    · intro hok
      cases hok
    · exact fun _ => rfl

/-- The call as its client sees it. -/
theorem follows_discarded {requestId : UUID} {response : ApproverResponse} {m : Service Unit ApprovalRequest}
    (h : (m.on ()).Follows LoadsById ((responseProtocol requestId response).returning StoredIfOk) .unread) :
    ((do let _ ← m : Service Unit Unit).on ()).Follows LoadsById (responseProtocol requestId response)
      .unread := by
  refine Proc.follows_bind h (fun _ _ _ hr _ _ => hr rfl) fun _ _ _ _ _ hok => ?_
  cases hok

/-- Every call follows its protocol. -/
theorem follows_send (requestId : UUID) (response : ApproverResponse) :
    ((response.send requestId).on ()).Follows LoadsById (responseProtocol requestId response) .unread := by
  cases response with
  | respond approved respondedBy responseData denialReason =>
    exact follows_discarded (follows_respondToApproval requestId approved respondedBy responseData denialReason)
  | cancel => exact follows_discarded (follows_cancelRequest requestId)
  | expireOld =>
    simp only [ApproverResponse.send, ApprovalCoordinator.expireOldRequests, Proc.on_bind, Proc.on_tryCall,
      Prog.call_bind, Prog.ret_bind, Prog.follows_call]
    refine ⟨trivial, fun r _ => ?_⟩
    rcases r with e | n
    · intro hrespond
      cases hrespond
    · intro hrespond
      cases hrespond

/-! ## The stored requests -/

/-- The rules of the requests. -/
def approvalRules : Rules Call Call.Ans ApprovalStore Circumstance Empty where
  answer := approvalAnswer
  outside := nofun

/-- Calls about one request that have not started. -/
def approvalPool (requestId : UUID) (responses : List ApproverResponse) (requests : ApprovalTable) :
    Pool Call Call.Ans ResponseEnding ApprovalStore where
  threads := responses.map fun response => (response.send requestId).on ()
  shared := { requests }

/-- The call at a place; beyond the last one there is none, and any that decides nothing will do. -/
def responseAt (responses : List ApproverResponse) (i : Nat) : ApproverResponse :=
  responses[i]?.getD .expireOld

/-- The call at this place is a response. -/
abbrev IsResponse (responses : List ApproverResponse) (i : Nat) : Prop :=
  (responseAt responses i).isRespond = true

/-- The request that a call stores. -/
def Call.updated : Call → Option ApprovalRequest
  | approvalUpdate request => some request
  | _ => none

/-- An update other than a cancellation finds that no response was stored since its request was read. -/
def UndecidedSince (responses : List ApproverResponse) (i : Nat) (o : Call) (s : ApprovalStore) : Prop :=
  ∀ request ∈ o.updated, request.state = .cancelled ∨
    ∀ j ∈ s.updates.drop (s.seen i), ¬IsResponse responses j

instance (responses : List ApproverResponse) (i : Nat) (o : Call) (s : ApprovalStore) :
    Decidable (UndecidedSince responses i o s) :=
  inferInstanceAs (Decidable (∀ request ∈ o.updated, _ ∨ _))

/-- If call `i` is a response, its decision is there, or the request is cancelled. -/
def Stands (responses : List ApproverResponse) (i : Nat) (decision : ApprovalDecision) : Prop :=
  IsResponse responses i → (responseAt responses i).Decides decision ∨ decision.state = .cancelled

structure DecisionInv (requestId : UUID) (responses : List ApproverResponse) (phase : Nat → ResponsePhase)
    (s : ApprovalStore) : Prop where
  decided : ∀ i ∈ s.updates, ∃ row, s.requests.find requestId = some row ∧ Stands responses i row.decision
  unique : ∀ i ∈ s.updates, ∀ j ∈ s.updates, IsResponse responses i → IsResponse responses j → i = j
  stored : ∀ i, phase i = .stored → i ∈ s.updates
  read : ∀ i request, phase i = .read request → request.id = requestId ∧ s.seen i ≤ s.updates.length ∧
    ∀ j ∈ s.updates.take (s.seen i), Stands responses j request.decision

section
variable {requestId : UUID} {responses : List ApproverResponse} {phase : Nat → ResponsePhase}
  {s : ApprovalStore} {i : Nat}

/-- A pending request is the decision of no response. -/
theorem not_isResponse_of_pending {decision : ApprovalDecision} (h : Stands responses i decision)
    (hpending : decision.state = .pending) : ¬IsResponse responses i := by
  intro hi
  rcases h hi with hdecides | hcancelled
  · rcases ApproverResponse.state_of_decides hdecides with hstate | hstate <;>
    · rw [hpending] at hstate
      cases hstate
  · rw [hpending] at hcancelled
    cases hcancelled

/-- What expires was no decision of a response. -/
theorem Stands.expired {row : ApprovalRow} (h : Stands responses i row.decision) (now : Time) :
    Stands responses i (row.expired now).decision := by
  intro hi
  have hpending : row.state ≠ .pending := fun hpending => not_isResponse_of_pending h hpending hi
  rw [ApprovalRow.expired_of_ne hpending]
  exact h hi

/-- A call reads the request as it is stored. -/
theorem DecisionInv.of_read (h : DecisionInv requestId responses phase s) {now : Time}
    {request : ApprovalRequest}
    (hrequest : ((ApprovalRepository.get requestId now).on s.requests).1 = .ok (some request)) :
    DecisionInv requestId responses (Function.update phase i (.read request))
      { s with seen := Function.update s.seen i s.updates.length } := by
  obtain ⟨row, hrow, hentity⟩ := ApprovalRepository.get_on_eq_some.1 hrequest
  obtain ⟨hid, hdecision⟩ := ApprovalRow.of_toEntity hentity
  have hrowId : row.id = requestId := Rows.key_of_find hrow
  refine ⟨h.decided, h.unique, fun j hj => ?_, fun j request' hj => ?_⟩
  · by_cases hji : j = i
    · subst hji
      rw [Function.update_self] at hj
      cases hj
    · rw [Function.update_of_ne hji] at hj
      exact h.stored j hj
  · by_cases hji : j = i
    · subst hji
      rw [Function.update_self] at hj
      cases hj
      refine ⟨hid.trans hrowId, by simp, fun k hk => ?_⟩
      obtain ⟨row', hrow', hstands⟩ := h.decided k (List.mem_of_mem_take hk)
      obtain rfl : row = row' := Option.some.inj (hrow.symm.trans hrow')
      rw [hdecision]
      exact hstands
    · rw [Function.update_of_ne hji] at hj
      simpa [Function.update_of_ne hji] using h.read j request' hj

/-- A call that found no request has read nothing. -/
theorem DecisionInv.of_failed_read (h : DecisionInv requestId responses phase s) (hi : phase i = .unread) :
    DecisionInv requestId responses phase
      { s with seen := Function.update s.seen i s.updates.length } := by
  refine ⟨h.decided, h.unique, h.stored, fun j request' hj => ?_⟩
  have hji : j ≠ i := by
    rintro rfl
    rw [hi] at hj
    cases hj
  simpa [Function.update_of_ne hji] using h.read j request' hj

/-- The requests of the past expire. -/
theorem DecisionInv.of_expireOld (h : DecisionInv requestId responses phase s) (now : Time) :
    DecisionInv requestId responses phase
      { s with requests := ((ApprovalRepository.expireOld now).on s.requests).2 } := by
  refine ⟨fun j hj => ?_, h.unique, h.stored, h.read⟩
  obtain ⟨row, hrow, hstands⟩ := h.decided j hj
  refine ⟨row.expired now, ?_, hstands.expired now⟩
  rw [ApprovalRepository.find_expireOld, hrow, Option.map_some]

/-- What was stored before an update is decided by what its call has read, unless the update cancels. -/
theorem DecisionInv.stands_read (h : DecisionInv requestId responses phase s)
    {request request' : ApprovalRequest} (hi : phase i = .read request)
    (hundecided : UndecidedSince responses i (.approvalUpdate request') s)
    (hopen : request'.state ≠ .cancelled) {j : Nat} (hj : j ∈ s.updates) :
    Stands responses j request.decision := by
  obtain ⟨-, -, hread⟩ := h.read i request hi
  rw [← List.take_append_drop (s.seen i) s.updates, List.mem_append] at hj
  rcases hj with hj | hj
  · exact hread j hj
  · exact fun hresponse => absurd hresponse ((hundecided request' rfl).resolve_left hopen j hj)

/-- A response that stores its decision is the first one. -/
theorem DecisionInv.first_of_isResponse (h : DecisionInv requestId responses phase s)
    {request request' : ApprovalRequest} (hi : phase i = .read request)
    (hstores : (responseAt responses i).Stores request request')
    (hundecided : UndecidedSince responses i (.approvalUpdate request') s)
    (hresponse : IsResponse responses i) :
    (∀ j ∈ s.updates, ¬IsResponse responses j) ∧ (responseAt responses i).Decides request'.decision := by
  obtain ⟨-, hdecision⟩ := hstores
  rw [if_pos hresponse] at hdecision
  have hopen : request'.state ≠ .cancelled := by
    intro hcancelled
    have hstate : request'.decision.state = .cancelled := hcancelled
    rcases ApproverResponse.state_of_decides hdecision.2 with hdecided | hdecided <;>
    · rw [hstate] at hdecided
      cases hdecided
  exact ⟨fun j hj => not_isResponse_of_pending (h.stands_read hi hundecided hopen hj) hdecision.1, hdecision.2⟩

/-- What was stored before the update stands after it, and so does what it stores. -/
theorem DecisionInv.stands_updated (h : DecisionInv requestId responses phase s)
    {request request' : ApprovalRequest} (hi : phase i = .read request)
    (hstores : (responseAt responses i).Stores request request')
    (hundecided : UndecidedSince responses i (.approvalUpdate request') s) {j : Nat}
    (hj : j ∈ s.updates ++ [i]) : Stands responses j request'.decision := by
  intro hresponse
  by_cases hcancelled : request'.state = .cancelled
  · exact .inr hcancelled
  · rcases List.mem_append.1 hj with hj | hj
    · by_cases hi' : IsResponse responses i
      · exact absurd hresponse ((h.first_of_isResponse hi hstores hundecided hi').1 j hj)
      · have hdecision := hstores.2
        rw [if_neg hi'] at hdecision
        rw [hdecision.resolve_left hcancelled]
        exact h.stands_read hi hundecided hcancelled hj hresponse
    · obtain rfl := List.mem_singleton.1 hj
      exact .inl (h.first_of_isResponse hi hstores hundecided hresponse).2

/-- Of the calls that have stored after the update, one is a response at most. -/
theorem DecisionInv.unique_updated (h : DecisionInv requestId responses phase s)
    {request request' : ApprovalRequest} (hi : phase i = .read request)
    (hstores : (responseAt responses i).Stores request request')
    (hundecided : UndecidedSince responses i (.approvalUpdate request') s) {j k : Nat}
    (hj : j ∈ s.updates ++ [i]) (hk : k ∈ s.updates ++ [i]) (hjr : IsResponse responses j)
    (hkr : IsResponse responses k) : j = k := by
  by_cases hir : IsResponse responses i
  · -- the update is by a response, and nobody else has stored one
    have heq {l : Nat} (hl : l ∈ s.updates ++ [i]) (hlr : IsResponse responses l) : l = i := by
      rcases List.mem_append.1 hl with hl | hl
      · exact absurd hlr ((h.first_of_isResponse hi hstores hundecided hir).1 l hl)
      · exact List.mem_singleton.1 hl
    rw [heq hj hjr, heq hk hkr]
  · have hmem {l : Nat} (hl : l ∈ s.updates ++ [i]) (hlr : IsResponse responses l) : l ∈ s.updates := by
      rcases List.mem_append.1 hl with hl | hl
      · exact hl
      · rw [List.mem_singleton.1 hl] at hlr
        exact absurd hlr hir
    exact h.unique j (hmem hj hjr) k (hmem hk hkr) hjr hkr

/-- While the request is undecided since it was read, an update keeps every decision, or is the first. -/
theorem DecisionInv.of_update (h : DecisionInv requestId responses phase s) {request request' : ApprovalRequest}
    {row : ApprovalRow} {now : Time} (hi : phase i = .read request)
    (hstores : (responseAt responses i).Stores request request')
    (hrow : s.requests.find request'.id = some row)
    (hundecided : UndecidedSince responses i (.approvalUpdate request') s) :
    DecisionInv requestId responses (Function.update phase i .stored)
      { s with
        requests := ((ApprovalRepository.update request' now).on s.requests).2
        updates := s.updates ++ [i] } := by
  obtain ⟨hid, -, -⟩ := h.read i request hi
  have hrequestId : request'.id = requestId := hstores.1.trans hid
  subst hrequestId
  have hfind := ApprovalRepository.find_update hrow now
  refine ⟨fun j hj => ⟨_, hfind, h.stands_updated hi hstores hundecided hj⟩,
    fun j hj k hk => h.unique_updated hi hstores hundecided hj hk, fun j hj => ?_, fun j request'' hj => ?_⟩
  · by_cases hji : j = i
    · subst hji
      exact List.mem_append_right _ (List.mem_singleton_self j)
    · rw [Function.update_of_ne hji] at hj
      exact List.mem_append_left _ (h.stored j hj)
  · have hji : j ≠ i := by
      rintro rfl
      rw [Function.update_self] at hj
      cases hj
    rw [Function.update_of_ne hji] at hj
    obtain ⟨hid'', hseen'', hread''⟩ := h.read j request'' hj
    refine ⟨hid'', ?_, ?_⟩
    · rw [List.length_append]
      exact Nat.le_add_right_of_le hseen''
    · rw [List.take_append_of_le_length hseen'']
      exact hread''

/-- What an answer makes of the invariant. -/
abbrev Advances (requestId : UUID) (responses : List ApproverResponse) (phase : Nat → ResponsePhase) (i : Nat)
    (o : Call) (answer : o.Ans × ApprovalStore) : Prop :=
  LoadsById o answer.1 ∧
    DecisionInv requestId responses (Function.update phase i
      ((responseProtocol requestId (responseAt responses i)).next (phase i) o answer.1)) answer.2

/-- An answer that leaves the requests and the phase as they are. -/
theorem DecisionInv.same (h : DecisionInv requestId responses phase s) {o : Call} {r : o.Ans}
    (hloads : LoadsById o r)
    (hnext : (responseProtocol requestId (responseAt responses i)).next (phase i) o r = phase i) :
    Advances requestId responses phase i o (r, s) := by
  refine ⟨hloads, ?_⟩
  rw [hnext, Function.update_eq_self]
  exact h

/-- Reading the request keeps the invariant, and the reader holds the row that it read. -/
theorem DecisionInv.get (h : DecisionInv requestId responses phase s) (hi : phase i = .unread)
    (circumstance : Circumstance) :
    Advances requestId responses phase i (.approvalGet requestId)
      (approvalAnswer circumstance i (.approvalGet requestId) s) := by
  simp only [approvalAnswer]
  rcases circumstance.unlessRefused_cases s
    (((ApprovalRepository.get requestId circumstance.now).on s.requests).1,
      { s with seen := Function.update s.seen i s.updates.length }) with ⟨e, -, heq⟩ | ⟨-, heq⟩ <;> rw [heq]
  · exact h.same (fun _ hsome => by cases hsome) (by rw [hi]; rfl)
  · rcases hget : ((ApprovalRepository.get requestId circumstance.now).on s.requests).1 with e | _ | request
    · exact (h.of_failed_read hi).same (fun _ hsome => by cases hsome) (by rw [hi]; rfl)
    · exact (h.of_failed_read hi).same (fun _ hsome => by cases hsome) (by rw [hi]; rfl)
    · rw [Advances, hi]
      refine ⟨fun request' hrequest' => ?_, h.of_read hget⟩
      obtain rfl : request = request' := Option.some.inj (Except.ok.inj hrequest')
      obtain ⟨row, hrow, hentity⟩ := ApprovalRepository.get_on_eq_some.1 hget
      exact (ApprovalRow.of_toEntity hentity).1.trans (Rows.key_of_find hrow)

/-- Expiring old requests keeps it: only pending requests expire. -/
theorem DecisionInv.expireOld (h : DecisionInv requestId responses phase s) (hi : phase i = .unread)
    (circumstance : Circumstance) :
    Advances requestId responses phase i .approvalExpireOld (approvalAnswer circumstance i .approvalExpireOld s) := by
  simp only [approvalAnswer]
  rcases circumstance.unlessRefused_cases s
    (((ApprovalRepository.expireOld circumstance.now).on s.requests).1,
      { s with requests := ((ApprovalRepository.expireOld circumstance.now).on s.requests).2 })
    with ⟨e, -, heq⟩ | ⟨-, heq⟩ <;> rw [heq]
  · exact h.same trivial (by rw [hi]; rfl)
  · exact (h.of_expireOld _).same trivial (by rw [hi]; rfl)

/-- An update keeps it if nothing was decided since its caller read the request: it stores the one
decision. -/
theorem DecisionInv.update (h : DecisionInv requestId responses phase s) {request request' : ApprovalRequest}
    (hi : phase i = .read request) (hstores : (responseAt responses i).Stores request request')
    (hundecided : UndecidedSince responses i (.approvalUpdate request') s) (circumstance : Circumstance) :
    Advances requestId responses phase i (.approvalUpdate request')
      (approvalAnswer circumstance i (.approvalUpdate request') s) := by
  rcases approvalAnswer_update circumstance i request' s with ⟨-, e, heq⟩ | ⟨row, hrow, -, heq⟩ <;> rw [heq]
  · exact h.same trivial (by rw [hi]; rfl)
  · rw [Advances, hi]
    exact ⟨trivial, h.of_update hi hstores hrow hundecided⟩

/-- While every update finds its request undecided since it was read, the answers keep the invariant. -/
theorem approvalRules_advance (requestId : UUID) (responses : List ApproverResponse) :
    approvalRules.Advance LoadsById (fun i => responseProtocol requestId (responseAt responses i))
      (DecisionInv requestId responses) (UndecidedSince responses) := by
  refine ⟨fun circumstance i o s phase h hmay hundecided => ?_, nofun⟩
  change Advances requestId responses phase i o (approvalAnswer circumstance i o s)
  cases hphase : phase i with
  | unread =>
    rw [hphase] at hmay
    cases o with
    | approvalGet id =>
      obtain rfl : id = requestId := hmay
      exact h.get hphase circumstance
    | approvalExpireOld => exact h.expireOld hphase circumstance
    | _ => exact hmay.elim
  | read request =>
    rw [hphase] at hmay
    cases o with
    | now => exact h.same trivial (by rw [hphase]; rfl)
    | approvalUpdate request' => exact h.update hphase hmay hundecided circumstance
    | _ => exact hmay.elim
  | stored =>
    rw [hphase] at hmay
    cases o with
    | notifyApprovalResponded request =>
      simp only [approvalAnswer]
      rcases circumstance.unlessRefused_cases s (.ok (), s) with ⟨e, -, heq⟩ | ⟨-, heq⟩ <;> rw [heq]
      · exact h.same trivial (by rw [hphase]; rfl)
      · exact h.same trivial (by rw [hphase]; rfl)
    | _ => exact hmay.elim

/-! ## Decisions -/

/-- Call `i` is a response, and has returned without exception. -/
def Responded (responses : List ApproverResponse) (p : Pool Call Call.Ans ResponseEnding ApprovalStore)
    (i : Nat) : Prop :=
  IsResponse responses i ∧ p.ending i = some (.ok (), ())

instance (responses : List ApproverResponse) (p : Pool Call Call.Ans ResponseEnding ApprovalStore) :
    DecidablePred (Responded responses p) := fun _ => inferInstanceAs (Decidable (_ ∧ _))

/-- At most one response has returned; the state, the approver and the response that are stored are its
decision, unless the request has been cancelled. -/
structure OneDecision (requestId : UUID) (responses : List ApproverResponse)
    (p : Pool Call Call.Ans ResponseEnding ApprovalStore) : Prop where
  unique : ∀ i j, Responded responses p i → Responded responses p j → i = j
  stands : ∀ i, Responded responses p i → ∃ row, p.shared.requests.find requestId = some row ∧
    ((responseAt responses i).Decides row.decision ∨ row.decision.state = .cancelled)

/-- While every update, other than a cancellation, finds that no response was stored since its request was
read: one decision at every moment. -/
theorem one_decision_of_undecidedSince (requestId : UUID) (responses : List ApproverResponse)
    (requests : ApprovalTable) {schedule : List (Act Circumstance Empty)}
    (hundecided : Pool.Meets approvalRules (Pool.CallMeets (UndecidedSince responses))
      (approvalPool requestId responses requests) schedule) :
    OneDecision requestId responses ((approvalPool requestId responses requests).run approvalRules schedule) := by
  have hstart : (approvalPool requestId responses requests).Following LoadsById
      (fun i => responseProtocol requestId (responseAt responses i)) (DecisionInv requestId responses)
      fun _ => .unread := by
    refine ⟨fun i q hq => ?_, ⟨?_, ?_, ?_, ?_⟩⟩
    · obtain ⟨response, hresponse, rfl⟩ : ∃ response, responses[i]? = some response ∧
          (response.send requestId).on () = q := by
        simpa [approvalPool] using hq
      have hat : responseAt responses i = response := by rw [responseAt, hresponse]; rfl
      rw [hat]
      exact follows_send requestId response
    · exact fun i hi => absurd hi List.not_mem_nil
    · exact fun i hi => absurd hi List.not_mem_nil
    · intro i hi
      cases hi
    · intro i request hi
      cases hi
  obtain ⟨phase, hphase⟩ := hstart.run (approvalRules_advance requestId responses) hundecided
  have hstored {i : Nat} (hi : Responded responses
      ((approvalPool requestId responses requests).run approvalRules schedule) i) :
      i ∈ ((approvalPool requestId responses requests).run approvalRules schedule).shared.updates :=
    hphase.shared.stored i (hphase.threads i _ (Pool.ending_eq_some.1 hi.2) hi.1 rfl)
  refine ⟨fun i j hi hj => hphase.shared.unique i (hstored hi) j (hstored hj) hi.1 hj.1, fun i hi => ?_⟩
  obtain ⟨row, hrow, hstands⟩ := hphase.shared.decided i (hstored hi)
  exact ⟨row, hrow, hstands hi.1⟩

/-- A request that waits for its approval. -/
def pendingApproval : ApprovalRow :=
  { id := ⟨6⟩, runId := ⟨1⟩, stepSequence := 0, approvalType := .toolExecution, toolName := "t",
    action := "execute", requestedAt := 0, expiresAt := some 10, createdAt := 0, updatedAt := 0 }

/-- An approval and a denial of one request. -/
def approveAndDeny : List ApproverResponse :=
  [.respond true "alice" none none, .respond false "bob" none none, .cancel]

/-- The next step of call `i`. -/
def responseStep (i : Nat) : Act Circumstance Empty := .thread i {}

/-- The approval, then the denial, which is refused, then the cancellation. -/
def inTurn : List (Act Circumstance Empty) :=
  [responseStep 0, responseStep 0, responseStep 0, responseStep 0, responseStep 1, responseStep 1,
    responseStep 2, responseStep 2, responseStep 2]

/-- An approval and a denial one after the other: the condition is met, and one decision stands. -/
theorem one_decision_of_undecidedSince_inTurn :
    Pool.Meets approvalRules (Pool.CallMeets (UndecidedSince approveAndDeny))
        (approvalPool ⟨6⟩ approveAndDeny [pendingApproval]) inTurn ∧
      OneDecision ⟨6⟩ approveAndDeny
        ((approvalPool ⟨6⟩ approveAndDeny [pendingApproval]).run approvalRules inTurn) := by
  have hundecided : Pool.Meets approvalRules (Pool.CallMeets (UndecidedSince approveAndDeny))
      (approvalPool ⟨6⟩ approveAndDeny [pendingApproval]) inTurn := by
    decide +kernel
  exact ⟨hundecided, one_decision_of_undecidedSince ⟨6⟩ approveAndDeny [pendingApproval] hundecided⟩

/-- Both responses read the pending request before either stores its decision. -/
def bothRead : List (Act Circumstance Empty) :=
  [responseStep 0, responseStep 1, responseStep 0, responseStep 0, responseStep 0, responseStep 1,
    responseStep 1, responseStep 1]

/-- Both return, and the second overwrites the first: each has read the request before the other has
answered it. -/
theorem not_one_decision :
    ¬∀ (requestId : UUID) (responses : List ApproverResponse) (requests : ApprovalTable)
      (schedule : List (Act Circumstance Empty)),
      OneDecision requestId responses
        ((approvalPool requestId responses requests).run approvalRules schedule) := by
  intro h
  have hone := h ⟨6⟩ approveAndDeny [pendingApproval] bothRead
  have hfirst : Responded approveAndDeny
      ((approvalPool ⟨6⟩ approveAndDeny [pendingApproval]).run approvalRules bothRead) 0 := by
    decide +kernel
  have hsecond : Responded approveAndDeny
      ((approvalPool ⟨6⟩ approveAndDeny [pendingApproval]).run approvalRules bothRead) 1 := by
    decide +kernel
  exact absurd (hone.unique 0 1 hfirst hsecond) (by decide)

end

end AgentRuntime
