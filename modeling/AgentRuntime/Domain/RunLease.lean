import AgentRuntime.Domain.RunBudget

/-!
# Leases

`start` and `renew_lease` compute the expiry of a lease by overwriting the second of one reading of the
clock with the second of another plus the duration. This is the reading plus the duration exactly if the
two readings show the same second and the sum does not leave the minute (`replaceSecond_eq_plusSeconds`);
beyond the minute `replace` raises, in `start` after the transition.
-/

namespace AgentRuntime

open Interaction

namespace Time

/-- `t + timedelta(seconds=seconds)`, for seconds that are not negative. -/
def plusSeconds (t : Time) (seconds : Int) : Time := t + seconds.toNat * perSecond

/-- The second of a time is part of it. -/
theorem second_mul_le (t : Time) : t.second * perSecond ≤ t := by
  have hsecond : t.second ≤ t / perSecond := Nat.mod_le _ _
  calc t.second * perSecond ≤ t / perSecond * perSecond := Nat.mul_le_mul_right _ hsecond
    _ ≤ t := Nat.div_mul_le_self t perSecond

/-- Overwriting the second adds the duration exactly within the minute of the reading. -/
theorem replaceSecond_eq_plusSeconds {leaseBase leaseSecond : Time} {leaseDurationSeconds : Int}
    (hpositive : 0 < leaseDurationSeconds) :
    leaseBase.replaceSecond (leaseSecond.second + leaseDurationSeconds) =
        .ok (leaseBase.plusSeconds leaseDurationSeconds) ↔
      leaseSecond.second = leaseBase.second ∧ leaseSecond.second + leaseDurationSeconds ≤ 59 := by
  have hle := second_mul_le leaseBase
  unfold replaceSecond plusSeconds
  split_ifs with hsecond
  · have hsum : (leaseSecond.second + leaseDurationSeconds).toNat =
        leaseSecond.second + leaseDurationSeconds.toNat := by omega
    rw [Except.ok.injEq, and_iff_left hsecond.2, hsum]
    change @Eq Nat _ _ ↔ _
    simp only [perSecond] at hle ⊢
    omega
  · refine iff_of_false (fun h => by cases h) fun h => hsecond ?_
    omega

end Time

namespace Run

variable {self : Run} {leaseOwner : String} {leaseDurationSeconds : Int}
  {now leaseBase leaseSecond : Time}

/-- What is expected of the leases of a run: a start that is due and a renewal by the owner succeed and
add the duration to the time, and a start that raises leaves state, lease and events. -/
structure LeaseLaw (run : Run) (leaseOwner : String) (leaseDurationSeconds : Int)
    (now leaseBase leaseSecond : Time) : Prop where
  starts : run.state.canTransitionTo .running = true → ∃ run',
    (start leaseOwner leaseDurationSeconds now leaseBase leaseSecond).on run = (.ok (), run') ∧
      run'.leaseExpiresAt = some (leaseBase.plusSeconds leaseDurationSeconds)
  renews : run.leaseOwner = some leaseOwner → ∃ run',
    (renewLease leaseOwner leaseDurationSeconds leaseBase leaseSecond now).on run =
        (.ok true, run') ∧
      run'.leaseExpiresAt = some (leaseBase.plusSeconds leaseDurationSeconds)
  atomic : ∀ e run',
    (start leaseOwner leaseDurationSeconds now leaseBase leaseSecond).on run = (.error e, run') →
      run'.state = run.state ∧ run'.leaseOwner = run.leaseOwner ∧
        run'.leaseExpiresAt = run.leaseExpiresAt ∧ run'.events = run.events

/-- The leases of a run that can be started, or that the owner can renew, are as expected exactly within
the minute of the two readings of the clock. -/
theorem leaseLaw_iff (self : Run) (leaseOwner : String) {leaseDurationSeconds : Int}
    (hpositive : 0 < leaseDurationSeconds) (now leaseBase leaseSecond : Time) :
    self.LeaseLaw leaseOwner leaseDurationSeconds now leaseBase leaseSecond ↔
      (self.state.canTransitionTo .running = true ∨ self.leaseOwner = some leaseOwner →
        leaseSecond.second = leaseBase.second ∧ leaseSecond.second + leaseDurationSeconds ≤ 59) := by
  rw [← Time.replaceSecond_eq_plusSeconds hpositive]
  constructor
  · intro hlaw hcalled
    cases hlease : leaseBase.replaceSecond (leaseSecond.second + leaseDurationSeconds) with
    | error e =>
      rcases hcalled with hdue | howner
      · obtain ⟨self', hon, -⟩ := hlaw.starts hdue
        simp only [start, Method.on_bind, transition_on_of_valid hdue, Method.on_modify, hlease,
          Method.on_ofExcept] at hon
        cases hon
      · obtain ⟨self', hon, -⟩ := hlaw.renews howner
        rw [renewLease_on, if_neg (not_not.2 howner), hlease] at hon
        cases hon
    | ok leaseExpiresAt =>
      refine congrArg Except.ok (Option.some.inj ?_)
      rcases hcalled with hdue | howner
      · obtain ⟨self', hon, hexpires⟩ := hlaw.starts hdue
        rw [start_on_of_valid hdue hlease leaseOwner] at hon
        cases hon
        exact hexpires
      · obtain ⟨self', hon, hexpires⟩ := hlaw.renews howner
        rw [renewLease_on, if_neg (not_not.2 howner), hlease] at hon
        cases hon
        exact hexpires
  · intro hlease
    refine ⟨fun hdue => ?_, fun howner => ?_, fun e self' hon => ?_⟩
    · exact ⟨_, start_on_of_valid hdue (hlease (.inl hdue)) leaseOwner, rfl⟩
    · rw [renewLease_on, if_neg (not_not.2 howner), hlease (.inr howner)]
      exact ⟨_, rfl, rfl⟩
    · cases hdue : self.state.canTransitionTo .running with
      | true =>
        rw [start_on_of_valid hdue (hlease (.inl hdue)) leaseOwner] at hon
        cases hon
      | false =>
        let op : RunOperation := .start leaseOwner leaseDurationSeconds leaseBase leaseSecond
        have htarget : op.target = some .running := rfl
        obtain ⟨result, hunchanged⟩ := unchanged_of_not_valid htarget hdue now
        obtain ⟨-, rfl⟩ := Prod.mk.inj (hon.symm.trans hunchanged)
        exact ⟨rfl, rfl, rfl, rfl⟩

/-- A lease of a minute, the shortest that is never within one: `replace(second=...)` raises on it. -/
theorem not_leaseLaw : ¬∀ (self : Run) (leaseOwner : String) (leaseDurationSeconds : Int) (now : Time),
    0 < leaseDurationSeconds → self.LeaseLaw leaseOwner leaseDurationSeconds now now now := by
  intro h
  let run : Run :=
    { id := ⟨1⟩, createdAt := 0, updatedAt := 0, tenantId := ⟨3⟩, agentVersionId := ⟨4⟩,
      idempotencyKey := "key" }
  obtain ⟨run', hon, -⟩ := (h run "w" 60 0 (by decide)).starts rfl
  rw [start_on_of_no_lease rfl (by decide)] at hon
  cases hon

/-- A lease of 30 seconds, taken in the second half of a minute. -/
theorem leaseLaw_iff_sample :
    let run : Run :=
      { id := ⟨1⟩, createdAt := 0, updatedAt := 0, tenantId := ⟨3⟩, agentVersionId := ⟨4⟩,
        idempotencyKey := "key" }
    run.LeaseLaw "w" 30 40000000 40000000 40000000 ↔
      (run.state.canTransitionTo .running = true ∨ run.leaseOwner = some "w" →
        Time.second 40000000 = Time.second 40000000 ∧ Time.second 40000000 + (30 : Int) ≤ 59) :=
  leaseLaw_iff _ "w" (by decide) 40000000 40000000 40000000

end Run

end AgentRuntime
