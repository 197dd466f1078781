import AgentRuntime.Db.ApprovalRepository
import AgentRuntime.Runtime.Call
import Mathlib.Logic.Function.Basic

/-!
# The store of the approval requests

What the repository answers to the calls of the approval coordinator, each of them one transaction. The time
and the refusals of the database and the notification service are open.
-/

namespace AgentRuntime

open Interaction

/-- The table of the requests. The rest is a record that no answer depends on: the calls whose update was
carried out, and how many of these there were when each call last read. -/
structure ApprovalStore where
  requests : ApprovalTable
  updates : List Nat := []
  seen : Nat → Nat := fun _ => 0

/-- What is open about an answer: the time, and whether the database or the notification service refuses. -/
structure Circumstance where
  now : Time := 0
  refuses : Option PyError := none

/-- The result, unless the call is refused. -/
def Circumstance.unlessRefused {α : Type} (self : Circumstance) (s : ApprovalStore)
    (result : Except PyError α × ApprovalStore) : Except PyError α × ApprovalStore :=
  match self.refuses with
  | some e => (.error e, s)
  | none => result

/-- The answers about the requests. -/
def approvalAnswer (circumstance : Circumstance) (client : Nat) :
    (o : Call) → ApprovalStore → o.Ans × ApprovalStore
  | .now, s => (circumstance.now, s)
  | .approvalGet requestId, s =>
    circumstance.unlessRefused s
      (((ApprovalRepository.get requestId circumstance.now).on s.requests).1,
        { s with seen := Function.update s.seen client s.updates.length })
  | .approvalUpdate request, s =>
    let (result, requests) := (ApprovalRepository.update request circumstance.now).on s.requests
    circumstance.unlessRefused s
      (result, { s with requests, updates := if result.isOk then s.updates ++ [client] else s.updates })
  | .approvalExpireOld, s =>
    let (result, requests) := (ApprovalRepository.expireOld circumstance.now).on s.requests
    circumstance.unlessRefused s (result, { s with requests })
  | .notifyApprovalResponded _, s => circumstance.unlessRefused s (.ok (), s)
  | o, s => (o.quiet, s)

/-- A statement is refused and does nothing, or has its result. -/
theorem Circumstance.unlessRefused_cases {α : Type} (self : Circumstance) (s : ApprovalStore)
    (result : Except PyError α × ApprovalStore) :
    (∃ e, self.refuses = some e ∧ self.unlessRefused s result = (.error e, s)) ∨
      self.refuses = none ∧ self.unlessRefused s result = result := by
  unfold unlessRefused
  cases h : self.refuses with
  | none => exact .inr ⟨rfl, rfl⟩
  | some e => exact .inl ⟨e, rfl, rfl⟩

/-- An update is refused, or overwrites the decision of a stored request. -/
theorem approvalAnswer_update (circumstance : Circumstance) (i : Nat) (request : ApprovalRequest)
    (s : ApprovalStore) :
    ((circumstance.refuses ≠ none ∨ s.requests.find request.id = none) ∧
      ∃ e, approvalAnswer circumstance i (.approvalUpdate request) s = (.error e, s)) ∨
      ∃ row, s.requests.find request.id = some row ∧ circumstance.refuses = none ∧
        approvalAnswer circumstance i (.approvalUpdate request) s = (.ok (), { s with
          requests := ((ApprovalRepository.update request circumstance.now).on s.requests).2
          updates := s.updates ++ [i] }) := by
  simp only [approvalAnswer]
  cases hrow : s.requests.find request.id with
  | none =>
    rw [ApprovalRepository.update_on_of_none hrow]
    rcases circumstance.unlessRefused_cases s (.error (.external "No row was found when one was required"),
      { s with requests := s.requests, updates := s.updates }) with ⟨e, -, heq⟩ | ⟨-, heq⟩
    · exact .inl ⟨.inr rfl, e, heq⟩
    · exact .inl ⟨.inr rfl, _, heq⟩
  | some row =>
    rw [ApprovalRepository.update_on hrow]
    rcases circumstance.unlessRefused_cases s (.ok (), { s with
        requests := Rows.put ApprovalRow.id s.requests (row.updateFromEntity request circumstance.now)
        updates := s.updates ++ [i] }) with ⟨e, hrefuses, heq⟩ | ⟨hrefuses, heq⟩
    · exact .inl ⟨.inl (by rw [hrefuses]; exact Option.some_ne_none e), e, heq⟩
    · exact .inr ⟨row, rfl, hrefuses, heq⟩

end AgentRuntime
