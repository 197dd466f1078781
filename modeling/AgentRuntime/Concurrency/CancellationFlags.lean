import AgentRuntime.Concurrency.SignalDelivery

/-!
# When the cancellation flag of a run is set

The flag lives for five minutes from when it was set, and is deleted by `clear_flag` and `cleanup`. A command that
raises may have been carried out or not. `checkFlag_iff` says when a poll finds the flag, after any calls of the
methods of the signal system, for any runs.
-/

namespace AgentRuntime

open Interaction

/-- A method of the signal system, with its arguments. -/
inductive SignalsMethod where
  | publish (method : SignalMethod)
  | setFlag (runId : String)
  | checkFlag (runId : String)
  | clearFlag (runId : String)
  | cleanup (runId : String)
  | healthCheck

def SignalsMethod.program (self : CancellationSignals) : SignalsMethod → CancellationSignals.Method Bool
  | publish method => method.program self
  | setFlag runId => self.setFlag runId
  | checkFlag runId => self.checkFlag runId
  | clearFlag runId => self.clearFlag runId
  | cleanup runId => self.cleanup runId
  | healthCheck => CancellationSignals.healthCheck

/-- A call of a method, at a time in milliseconds. -/
structure SignalsCall where
  method : SignalsMethod
  now : Nat
  reply : SignalReply

namespace SignalsCall

variable (self : CancellationSignals)

/-- Redis after the call. -/
def apply (call : SignalsCall) (server : SignalServer) : SignalServer :=
  (((call.method.program self).on ()).exec (call.reply.env call.now) server).state

/-- What the call writes to the flag of the run: the time at which it sets it, or nothing if it deletes it. -/
def writes (runId : String) (call : SignalsCall) : Option (Option Nat) :=
  if call.reply.Executes then
    match call.method with
    | .setFlag runId' => if runId' = runId then some (some call.now) else none
    | .clearFlag runId' | .cleanup runId' => if runId' = runId then some none else none
    | .publish _ | .checkFlag _ | .healthCheck => none
  else none

/-- A flag that was set at a time in milliseconds. -/
def flag (now : Nat) : Redis.Entry String := ⟨"1", some (now + 300 * 1000)⟩

section
variable {self} {runId : String}

/-- Different runs have different flags. -/
theorem flagKey_inj {runId' : String} (h : self.flagKey runId = self.flagKey runId') : runId = runId' := by
  have hlist := congrArg String.toList h
  simp only [CancellationSignals.flagKey, toString, String.toList_append, List.append_assoc,
    List.append_right_inj] at hlist
  exact String.toList_inj.1 hlist

/-- A call that publishes leaves the flags. -/
theorem flags_publish (method : SignalMethod) (now : Nat) (reply : SignalReply) (server : SignalServer) :
    (((method.program self).on ()).exec (reply.env now) server).state.flags = server.flags := by
  have hpublish (runId : String) (payload : Dict) :
      (((self.publish runId payload).on ()).exec (reply.env now) server).state.flags = server.flags := by
    rw [CancellationSignals.on_publish]
    cases JsonText.dumps (.dict payload) with
    | error e => rfl
    | ok data =>
      dsimp only [Prog.exec_call, Prog.exec_ret, SignalReply.env, SignalReply.answer]
      split <;> rfl
  cases method with
  | request runId tenantId reason =>
    dsimp only [SignalMethod.program]
    rw [CancellationSignals.on_publishRequest]
    exact hpublish runId _
  | acknowledgement runId _ _ | completion runId _ _ _ _ => exact hpublish runId _

/-- A command of a call that is carried out changes the flags, another one does not. -/
theorem flags_answer {α : Type} (reply : SignalReply) (result : α) (server server' : SignalServer) :
    (reply.answer result server server').2.flags = if reply.Executes then server'.flags else server.flags :=
  apply_ite SignalServer.flags _ _ _

/-- A deletion takes the flag of its run. -/
theorem flags_delete (now : Nat) (reply : SignalReply) (runId' : String) (server : SignalServer) :
    (reply.env now (.delete (self.flagKey runId')) server).2.flags (self.flagKey runId) =
      if reply.Executes ∧ runId' = runId then none else server.flags (self.flagKey runId) := by
  rw [SignalReply.env, flags_answer]
  by_cases hexecutes : reply.Executes
  · rw [if_pos hexecutes]
    by_cases hrun : runId' = runId
    · rw [if_pos (And.intro hexecutes hrun), hrun, Redis.del]
      exact if_pos (List.mem_singleton_self _)
    · have hkey : self.flagKey runId ∉ [self.flagKey runId'] :=
        fun h => hrun (flagKey_inj (List.mem_singleton.1 h)).symm
      rw [if_neg (not_and_of_not_right _ hrun), Redis.del]
      exact if_neg hkey
  · rw [if_neg hexecutes, if_neg (not_and_of_not_left _ hexecutes)]

/-- What a call makes of the flag of a run. -/
theorem flags_apply (call : SignalsCall) (server : SignalServer) :
    some ((call.apply self server).flags (self.flagKey runId)) =
      ((call.writes runId).map (Option.map flag)).or (some (server.flags (self.flagKey runId))) := by
  obtain ⟨method, now, reply⟩ := call
  cases method with
  | publish method =>
    rw [apply, SignalsMethod.program, flags_publish, writes]
    split <;> rfl
  | checkFlag runId' =>
    rw [apply, SignalsMethod.program, CancellationSignals.on_checkFlag]
    dsimp only [Prog.exec_call, Prog.exec_ret, SignalReply.env]
    rw [flags_answer, ite_self, writes]
    split <;> rfl
  | healthCheck =>
    rw [apply, SignalsMethod.program, CancellationSignals.on_healthCheck]
    dsimp only [Prog.exec_call, Prog.exec_ret, SignalReply.env]
    rw [flags_answer, ite_self, writes]
    split <;> rfl
  | setFlag runId' =>
    rw [apply, SignalsMethod.program, CancellationSignals.on_setFlag, writes]
    dsimp only [Prog.exec_call, Prog.exec_ret, SignalReply.env]
    rw [flags_answer]
    by_cases hexecutes : reply.Executes
    · rw [if_pos hexecutes, if_pos hexecutes]
      by_cases hrun : runId' = runId
      · rw [if_pos hrun, hrun]
        exact congrArg some (Function.update_self ..)
      · rw [if_neg hrun]
        exact congrArg some (Redis.set_of_ne (fun h => hrun (flagKey_inj h).symm) _ _)
    · rw [if_neg hexecutes, if_neg hexecutes]
      rfl
  | clearFlag runId' =>
    rw [apply, SignalsMethod.program, CancellationSignals.on_clearFlag]
    dsimp only [Prog.exec_call, Prog.exec_ret]
    rw [flags_delete, writes]
    by_cases hexecutes : reply.Executes <;> by_cases hrun : runId' = runId <;> simp [hexecutes, hrun]
  | cleanup runId' =>
    rw [apply, SignalsMethod.program, CancellationSignals.on_cleanup]
    dsimp only [Prog.exec_call, Prog.exec_ret]
    rw [flags_delete, writes]
    by_cases hexecutes : reply.Executes <;> by_cases hrun : runId' = runId <;> simp [hexecutes, hrun]

end

/-- The last write of the calls to the flag of a run that Redis carried out. -/
def lastWrite (runId : String) (calls : List SignalsCall) : Option (Option Nat) :=
  (calls.filterMap (writes runId)).getLast?

/-- The flag of a run is what was written to it last. -/
theorem flags_after (self : CancellationSignals) (calls : List SignalsCall) (runId : String) :
    (after (apply self) {} calls).flags (self.flagKey runId) = (lastWrite runId calls).bind (Option.map flag) := by
  have hlatest : some ((after (apply self) {} calls).flags (self.flagKey runId)) =
      (calls.filterMap fun call => (call.writes runId).map (Option.map flag)).getLast?.or (some none) :=
    after_eq_latest (fun server : SignalServer => some (server.flags (self.flagKey runId))) flags_apply calls {}
  have hmap : calls.filterMap (fun call => (call.writes runId).map (Option.map flag)) =
      (calls.filterMap (writes runId)).map (Option.map flag) := (List.map_filterMap ..).symm
  rw [hmap, List.getLast?_map] at hlatest
  rw [lastWrite]
  cases hlast : (calls.filterMap (writes runId)).getLast? with
  | none =>
    rw [hlast] at hlatest
    exact Option.some.inj hlatest
  | some write =>
    rw [hlast] at hlatest
    exact Option.some.inj hlatest

/-- **When a poll finds the flag**: when Redis answers it, and the last call that wrote the flag of the run
has set it, no longer than 300 seconds ago. -/
theorem checkFlag_iff (self : CancellationSignals) (calls : List SignalsCall) (runId : String) (now : Nat)
    (reply : SignalReply) :
    (∃ server, Proc.Ends (reply.env now) (after (apply self) {} calls) (self.checkFlag runId) (.ok true) server) ↔
      reply.fails = none ∧ ∃ t, lastWrite runId calls = some (some t) ∧ now ≤ t + 300 * 1000 := by
  have hflag := flags_after self calls runId
  have hends : (∃ server, Proc.Ends (reply.env now) (after (apply self) {} calls) (self.checkFlag runId) (.ok true)
      server) ↔ reply.fails = none ∧
        (Redis.get now (self.flagKey runId) (after (apply self) {} calls).flags).isSome = true := by
    unfold Proc.Ends
    rw [CancellationSignals.on_checkFlag]
    dsimp only [Prog.exec_call, Prog.exec_ret, SignalReply.env, SignalReply.answer]
    cases reply.fails with
    | none => simp [Except.toOption]
    | some failure => simp [Except.toOption]
  rw [hends]
  refine and_congr_right fun _ => ?_
  rw [Redis.get, Option.isSome_map, Redis.lookup, hflag]
  have hnone : ¬∃ t, (none : Option (Option Nat)) = some (some t) ∧ now ≤ t + 300 * 1000 := by
    rintro ⟨t, ht, -⟩
    cases ht
  have hdeleted : ¬∃ t, some (none : Option Nat) = some (some t) ∧ now ≤ t + 300 * 1000 := by
    rintro ⟨t, ht, -⟩
    cases ht
  cases lastWrite runId calls with
  | none => exact iff_of_false Bool.false_ne_true hnone
  | some write =>
    cases write with
    | none => exact iff_of_false Bool.false_ne_true hdeleted
    | some t =>
      have halive : (flag t).Alive now ↔ now ≤ t + 300 * 1000 := by simp [Redis.Entry.Alive, flag]
      have hfound : ((some (flag t)).filter fun entry => entry.Alive now).isSome = true ↔ (flag t).Alive now := by
        by_cases h : (flag t).Alive now <;> simp [h]
      simp only [Option.bind_some, Option.map_some]
      rw [hfound, halive]
      constructor
      · intro h
        exact ⟨t, rfl, h⟩
      · rintro ⟨t', ht', h⟩
        cases ht'
        exact h

end SignalsCall

end AgentRuntime
