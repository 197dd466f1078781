import AgentRuntime.Providers.ErrorClasses
import AgentRuntime.Providers.Retry
import Mathlib.Tactic.Linarith
import Mathlib.Tactic.Positivity

/-!
# The bounds of the retry loops

Each loop is an instance of `Prog.attempts`: its classification of an error, a `Verdict`, says whether the
call is made again and what is raised otherwise (`rounds_eq` for each loop). So a run of either loop is one
of `WithinBounds`, for every sequence of outcomes.
-/

namespace AgentRuntime

open Interaction Prog

/-- What a loop makes of an error: whether it is retryable, and what is raised if the call is not made
again. -/
structure Verdict where
  isRetryable : Bool
  raised : AdapterError

section
variable {Response : Type}

/-- An error asks for another attempt. -/
def Verdict.goesOn (verdict : AdapterError → Verdict) : Except AdapterError Response → Bool
  | .ok _ => false
  | .error e => (verdict e).isRetryable

/-- What the loop ends with after its last attempt. -/
def Verdict.ending (verdict : AdapterError → Verdict) (outcome : Except AdapterError Response) :
    Except AdapterError Response :=
  outcome.mapError fun e => (verdict e).raised

/-- Waiting before the attempt after this one. -/
def backOff (policy : RetryPolicy) (attempt : Nat) : Retrying Response Unit := do
  let backoffMs ← calculateBackoff attempt policy
  sleep (backoffMs / 1000)

/-- The loop by its verdicts, with at most `n` retries after this attempt. -/
def retryLoop (policy : RetryPolicy)
    (invoke : Nat → Retrying Response (Except AdapterError Response))
    (verdict : AdapterError → Verdict) (n attempt : Nat) :
    Retrying Response (Except AdapterError Response) :=
  attempts invoke (Verdict.goesOn verdict) (backOff policy) n attempt >>= fun outcome =>
    .ret (Verdict.ending verdict outcome)

/-- The last round of the loop. -/
theorem retryLoop_zero (policy : RetryPolicy)
    (invoke : Nat → Retrying Response (Except AdapterError Response))
    (verdict : AdapterError → Verdict) (attempt : Nat) :
    retryLoop policy invoke verdict 0 attempt =
      invoke attempt >>= fun outcome => .ret (Verdict.ending verdict outcome) := rfl

/-- A round that others may follow. -/
theorem retryLoop_succ (policy : RetryPolicy)
    (invoke : Nat → Retrying Response (Except AdapterError Response))
    (verdict : AdapterError → Verdict) (n attempt : Nat) :
    retryLoop policy invoke verdict (n + 1) attempt =
      invoke attempt >>= fun outcome =>
        if Verdict.goesOn verdict outcome then
          backOff policy attempt >>= fun _ => retryLoop policy invoke verdict n (attempt + 1)
        else .ret (Verdict.ending verdict outcome) := by
  unfold retryLoop
  rw [attempts, bind_assoc']
  refine congrArg (invoke attempt >>= ·) (funext fun outcome => ?_)
  split_ifs
  · rw [bind_assoc']
  · rfl

/-- Rounds that settle every error by its verdict. -/
def RoundsBy (policy : RetryPolicy) (invoke : Nat → Retrying Response (Except AdapterError Response))
    (verdict : AdapterError → Verdict)
    (rounds : List Nat → Option AdapterError → Retrying Response (Except AdapterError Response)) : Prop :=
  ∀ attempt attempts lastError, rounds (attempt :: attempts) lastError = invoke attempt >>= fun
    | .ok result => .ret (.ok result)
    | .error e =>
      if !(verdict e).isRetryable || policy.maxRetries ≤ attempt then .ret (.error (verdict e).raised)
      else backOff policy attempt >>= fun _ => rounds attempts (some e)

/-- They are the loop. The bound of the attempts ends the loop exactly where its list does, so what stands
behind the loop is never reached. -/
theorem RoundsBy.eq_retryLoop {policy : RetryPolicy}
    {invoke : Nat → Retrying Response (Except AdapterError Response)} {verdict : AdapterError → Verdict}
    {rounds : List Nat → Option AdapterError → Retrying Response (Except AdapterError Response)}
    (h : RoundsBy policy invoke verdict rounds) {n attempt : Nat}
    (hlast : attempt + n = policy.maxRetries) (lastError : Option AdapterError) :
    rounds (List.range' attempt (n + 1)) lastError = retryLoop policy invoke verdict n attempt := by
  induction n generalizing attempt lastError with
  | zero =>
    rw [retryLoop_zero, List.range'_succ, h]
    refine congrArg (invoke attempt >>= ·) (funext fun outcome => ?_)
    cases outcome with
    | ok result => rfl
    | error e =>
      have hle : policy.maxRetries ≤ attempt := by omega
      simp only [hle, decide_true, Bool.or_true, if_true]
      rfl
  | succ n ih =>
    rw [retryLoop_succ, List.range'_succ, h]
    refine congrArg (invoke attempt >>= ·) (funext fun outcome => ?_)
    cases outcome with
    | ok result => rfl
    | error e =>
      have hgoes : Verdict.goesOn verdict (.error e : Except AdapterError Response) =
          (verdict e).isRetryable := rfl
      have hnot : ¬policy.maxRetries ≤ attempt := by omega
      simp only [hgoes, hnot, decide_false, Bool.or_false]
      cases (verdict e).isRetryable with
      | false => rfl
      | true => exact congrArg (_ >>= ·) (funext fun _ => ih (by omega) (some e))

/-! ## The loops by their verdicts -/

/-- What `execute_with_retry` makes of an error. -/
def RetryHandler.verdict (digits : DecimalDigits) (e : AdapterError) : Verdict :=
  if e.isException then
    match classifyError digits e with
    | .error raised => ⟨false, .other raised⟩
    | .ok providerError => ⟨providerError.isRetryable, e⟩
  else
    ⟨false, e⟩

/-- What `complete` makes of an error. -/
def BaseProvider.verdict (self : BaseProvider) (e : AdapterError) : Verdict :=
  if e.isException then
    match classifyError self.config e with
    | .error raised => ⟨false, .other raised⟩
    | .ok providerError => ⟨providerError.isRetryable, .other (mapException providerError)⟩
  else
    ⟨false, e⟩

/-- An interruption is of no class, so nothing is tried again after it. -/
theorem AdapterError.isRetryable_of_interruption {e : AdapterError} (h : e.isException = false) :
    e.errorType.isRetryable = false := by
  cases e with
  | other e => rfl
  | timeoutException message => cases h
  | connectTimeout message => cases h
  | httpStatusError message response => cases h
  | connectError message => cases h

/-- Where the header of an error can be read, `execute_with_retry` raises the error itself. -/
theorem RetryHandler.verdict_eq {digits : DecimalDigits} {e : AdapterError}
    (hread : ∀ text, e.retryAfter = some text → (digits.intOfStr? text).isSome) :
    verdict digits e = ⟨e.errorType.isRetryable, e⟩ := by
  unfold verdict
  cases hexception : e.isException with
  | false => rw [AdapterError.isRetryable_of_interruption hexception, if_neg Bool.false_ne_true]
  | true =>
    rw [if_pos rfl, classifyError_eq hread, if_neg (by decide)]
    rfl

/-- What `complete` raises for an error: the exception for its class, but for an interruption, which it
does not catch. -/
def BaseProvider.raised (config : ProviderConfig) (e : AdapterError) : AdapterError :=
  if e.isException then .other (mapException (.ofClass e.errorType.forAdapter e config.provider)) else e

/-- An adapter retries the errors of the classes that can be retried, and raises the others under
their kind. -/
theorem BaseProvider.verdict_eq (self : BaseProvider) (e : AdapterError) :
    self.verdict e = ⟨e.errorType.isRetryable, raised self.config e⟩ := by
  unfold verdict raised
  cases hexception : e.isException with
  | false =>
    simp only [AdapterError.isRetryable_of_interruption hexception, Bool.false_eq_true, if_false]
  | true =>
    rw [classifyError_eq, if_pos rfl, if_pos rfl]
    exact congrArg (Verdict.mk · _) (ErrorType.isRetryable_forAdapter e.errorType)

/-- The handler is the loop around one call of the function. -/
theorem RetryHandler.executeWithRetry_eq (digits : DecimalDigits) (self : RetryHandler) :
    (self.executeWithRetry digits : Retrying Response (Except AdapterError Response)) =
      retryLoop self.policy (fun _ => perform RetryCall.func) (verdict digits)
        self.policy.maxRetries 0 := by
  rw [executeWithRetry, List.range_eq_range']
  refine RoundsBy.eq_retryLoop (fun attempt attempts lastError => ?_) (Nat.zero_add _) none
  rw [rounds, perform_bind]
  refine congrArg (Prog.call _) (funext fun outcome => ?_)
  cases outcome with
  | ok result => rfl
  | error e =>
    cases hexception : e.isException with
    | false => simp [verdict, hexception]
    | true =>
      cases hclass : classifyError digits e with
      | error raised => simp [verdict, hexception, hclass]
      | ok providerError => simp only [verdict, hexception, hclass, if_true, backOff, bind_assoc']

/-- The adapter is the same loop around its own call. -/
theorem BaseProvider.complete_eq (self : BaseProvider) :
    (self.complete : Retrying Response (Except AdapterError Response)) =
      retryLoop self.retryPolicy (fun attempt => perform (RetryCall.completeWithRetry attempt))
        self.verdict self.retryPolicy.maxRetries 0 := by
  rw [complete, List.range_eq_range']
  refine RoundsBy.eq_retryLoop (fun attempt attempts lastError => ?_) (Nat.zero_add _) none
  rw [rounds, perform_bind]
  refine congrArg (Prog.call _) (funext fun outcome => ?_)
  cases outcome with
  | ok response => rfl
  | error e =>
    cases hexception : e.isException with
    | false => simp [verdict, hexception]
    | true =>
      cases hclass : classifyError self.config e with
      | error raised => simp [verdict, hexception, hclass]
      | ok providerError =>
        simp only [verdict, hexception, hclass, if_true, backOff, calculateBackoff, bind_assoc']

/-! ## Runs -/

/-- What answers a loop: the outcomes of the wrapped call in turn, and a random number for each pause. Its
state is the number of calls that were made. -/
def outcomesEnv (outcome : Nat → Except AdapterError Response) (random : Nat → Set.Ico (0 : Rat) 1) :
    Env RetryCall (RetryCall.Answer Response) Nat
  | .func, made => (outcome made, made + 1)
  | .completeWithRetry _, made => (outcome made, made + 1)
  | .random, made => (random made, made)
  | .sleep _, made => ((), made)

/-- The wrapped call, by either loop. -/
def RetryCall.isInvocation : RetryCall → Bool
  | func | completeWithRetry _ => true
  | random | sleep _ => false

/-- The calls of a pause: a random number, if there is jitter, and the sleeping. -/
def RetryPolicy.pause (policy : RetryPolicy) (delayMs : Rat) : List RetryCall :=
  (if policy.jitter then [.random] else []) ++ [.sleep (delayMs / 1000)]

/-- A pause calls nothing. -/
theorem RetryPolicy.countP_pause (policy : RetryPolicy) (delayMs : Rat) :
    (policy.pause delayMs).countP RetryCall.isInvocation = 0 := by
  unfold pause
  split_ifs <;> rfl

/-- The outcome is an error of a class that may be retried. -/
def mayRetry : Except AdapterError Response → Bool
  | .ok _ => false
  | .error e => e.errorType.isRetryable

/-- A run of a retry loop that slept for these milliseconds: once after each attempt but the last, the
first that did not fail with a retryable error or had no retry left. It ends with the last outcome. -/
structure WithinBounds (policy : RetryPolicy) (invocation : Nat → RetryCall)
    (raised : AdapterError → AdapterError) (outcome : Nat → Except AdapterError Response)
    (run : Exec RetryCall Nat (Except AdapterError Response)) (delaysMs : List Rat) : Prop where
  attempted : Attempted mayRetry outcome
    (fun _ delayMs => 0 ≤ delayMs ∧ delayMs ≤ (policy.maxBackoffMs : Rat)) 0 policy.maxRetries delaysMs
  result : run.result = some ((outcome delaysMs.length).mapError raised)
  calls : run.calls =
    attemptTrace (fun attempt => [invocation attempt]) (fun _ => policy.pause) 0 delaysMs
  invocations : run.calls.countP RetryCall.isInvocation ≤ policy.maxRetries + 1
  slept : delaysMs.sum ≤ policy.maxRetries * policy.maxBackoffMs

/-- It makes one call more than it sleeps. -/
theorem WithinBounds.countP_calls {policy : RetryPolicy} {invocation : Nat → RetryCall}
    {raised : AdapterError → AdapterError} {outcome : Nat → Except AdapterError Response}
    {run : Exec RetryCall Nat (Except AdapterError Response)} {delaysMs : List Rat}
    (h : WithinBounds policy invocation raised outcome run delaysMs)
    (hinvocation : ∀ attempt, (invocation attempt).isInvocation = true) :
    run.calls.countP RetryCall.isInvocation = delaysMs.length + 1 := by
  rw [h.calls, countP_attemptTrace (fun attempt => by simp [hinvocation])
    (fun _ => policy.countP_pause)]

/-- The delay before an attempt is within the bound of the policy. -/
theorem exec_backOff (policy : RetryPolicy) (outcome : Nat → Except AdapterError Response)
    (random : Nat → Set.Ico (0 : Rat) 1) (attempt made : Nat) :
    ∃ delayMs : Rat, (backOff policy attempt).exec (outcomesEnv outcome random) made =
        ⟨some (), made, policy.pause delayMs⟩ ∧
      0 ≤ delayMs ∧ delayMs ≤ policy.maxBackoffMs := by
  have hmultiplier : 0 ≤ policy.backoffMultiplier := by
    linarith [policy.backoffMultiplier_gt]
  have hcapped : (0 : Rat) ≤
      min (policy.initialBackoffMs * policy.backoffMultiplier ^ attempt) policy.maxBackoffMs :=
    le_min (by positivity) (Nat.cast_nonneg _)
  have hmax := min_le_right (policy.initialBackoffMs * policy.backoffMultiplier ^ attempt)
    (policy.maxBackoffMs : Rat)
  cases hjitter : policy.jitter with
  | false =>
    refine ⟨_, ?_, hcapped, hmax⟩
    simp only [backOff, calculateBackoff, hjitter, Bool.false_eq_true, if_false, ret_bind,
      RetryPolicy.pause]
    rfl
  | true =>
    obtain ⟨hlow, hhigh⟩ := (random made).2
    refine ⟨0 + (min (policy.initialBackoffMs * policy.backoffMultiplier ^ attempt)
      policy.maxBackoffMs - 0) * (random made : Rat), ?_, ?_, ?_⟩
    · simp only [backOff, calculateBackoff, hjitter, if_true, RetryPolicy.pause]
      rfl
    · rw [zero_add, sub_zero]
      exact mul_nonneg hcapped hlow
    · rw [zero_add, sub_zero]
      exact (mul_le_of_le_one_right hcapped hhigh.le).trans hmax

/-- A loop whose verdicts are the classes of the errors runs within the bounds. -/
theorem exec_retryLoop (policy : RetryPolicy) {invocation : Nat → RetryCall}
    {invoke : Nat → Retrying Response (Except AdapterError Response)} {verdict : AdapterError → Verdict}
    {raised : AdapterError → AdapterError} {outcome : Nat → Except AdapterError Response}
    {random : Nat → Set.Ico (0 : Rat) 1}
    (hinvoke : ∀ made, (invoke made).exec (outcomesEnv outcome random) made =
      ⟨some (outcome made), made + 1, [invocation made]⟩)
    (hinvocation : ∀ attempt, (invocation attempt).isInvocation = true)
    (hverdict : ∀ made e, outcome made = .error e → verdict e = ⟨e.errorType.isRetryable, raised e⟩) :
    ∃ delaysMs, WithinBounds policy invocation raised outcome
      ((retryLoop policy invoke verdict policy.maxRetries 0).exec (outcomesEnv outcome random) 0)
      delaysMs := by
  have hgoes : ∀ made, Verdict.goesOn verdict (outcome made) = mayRetry (outcome made) := by
    intro made
    cases houtcome : outcome made with
    | ok result => rfl
    | error e => rw [Verdict.goesOn, hverdict made e houtcome, mayRetry]
  have hending : ∀ made, Verdict.ending verdict (outcome made) = (outcome made).mapError raised := by
    intro made
    cases houtcome : outcome made with
    | ok result => rfl
    | error e => rw [Verdict.ending, Except.mapError, Except.mapError, hverdict made e houtcome]
  have hbody (attempt made : Nat) (hmade : made = attempt) : ∃ made',
      (invoke attempt).exec (outcomesEnv outcome random) made =
        ⟨some (outcome attempt), made', [invocation attempt]⟩ ∧ made' = attempt + 1 := by
    subst hmade
    exact ⟨made + 1, hinvoke made, rfl⟩
  have hpause (attempt made : Nat) (hmade : made = attempt + 1) : ∃ delayMs made',
      (backOff policy attempt).exec (outcomesEnv outcome random) made =
        ⟨some (), made', policy.pause delayMs⟩ ∧
      (0 ≤ delayMs ∧ delayMs ≤ (policy.maxBackoffMs : Rat)) ∧ made' = attempt + 1 := by
    subst hmade
    obtain ⟨delayMs, hexec, hdelay⟩ := exec_backOff policy outcome random attempt (attempt + 1)
    exact ⟨delayMs, attempt + 1, hexec, hdelay, rfl⟩
  obtain ⟨delaysMs, hattempted, hresult, hcalls⟩ :=
    exec_attempts (Verdict.goesOn verdict) hbody hpause policy.maxRetries (i := 0) rfl
  have htrace : ((retryLoop policy invoke verdict policy.maxRetries 0).exec
      (outcomesEnv outcome random) 0).calls =
      attemptTrace (fun attempt => [invocation attempt]) (fun _ => policy.pause) 0 delaysMs := by
    rw [retryLoop, exec_bind, Exec.andThen, hresult, hcalls]
    exact List.append_nil _
  refine ⟨delaysMs, hattempted.congr hgoes, ?_, htrace, ?_, ?_⟩
  · rw [retryLoop, exec_bind, Exec.andThen, hresult, Nat.zero_add]
    exact congrArg some (hending delaysMs.length)
  · rw [htrace, countP_attemptTrace (fun attempt => by simp [hinvocation])
      (fun _ => policy.countP_pause)]
    exact Nat.succ_le_succ hattempted.le
  · have hsum := hattempted.sum_le (fun _ _ hdelay => hdelay.2) (Nat.cast_nonneg policy.maxBackoffMs)
    rwa [nsmul_eq_mul] at hsum

/-- A run of `complete`. -/
theorem BaseProvider.exec_complete (self : BaseProvider) (outcome : Nat → Except AdapterError Response)
    (random : Nat → Set.Ico (0 : Rat) 1) :
    ∃ delaysMs, WithinBounds self.retryPolicy .completeWithRetry (raised self.config) outcome
      (self.complete.exec (outcomesEnv outcome random) 0) delaysMs := by
  rw [complete_eq]
  exact exec_retryLoop self.retryPolicy (fun _ => rfl) (fun _ => rfl) fun _ e _ => self.verdict_eq e

/-- A run of `execute_with_retry`, where no header keeps it from the classification. -/
theorem RetryHandler.exec_executeWithRetry {digits : DecimalDigits} (self : RetryHandler)
    {outcome : Nat → Except AdapterError Response} (random : Nat → Set.Ico (0 : Rat) 1)
    (hread : ∀ made e, outcome made = .error e → ∀ text, e.retryAfter = some text →
      (digits.intOfStr? text).isSome) :
    ∃ delaysMs, WithinBounds self.policy (fun _ => .func) id outcome
      ((self.executeWithRetry digits).exec (outcomesEnv outcome random) 0) delaysMs := by
  rw [executeWithRetry_eq]
  exact exec_retryLoop self.policy (fun _ => rfl) (fun _ => rfl) fun made e he =>
    verdict_eq (hread made e he)

/-- **Both loops keep the bounds of their policy**, for every sequence of outcomes without a `Retry-After`
header: at most one call more than there are retries, the last outcome for a result, and in total no more
sleep than the longest one for each retry. -/
theorem retry_withinBounds (digits : DecimalDigits) (handler : RetryHandler) (adapter : BaseProvider)
    (outcome : Nat → Except AdapterError Response) (random : Nat → Set.Ico (0 : Rat) 1)
    (hheader : ∀ made e, outcome made = .error e → e.retryAfter = none) :
    (∃ delaysMs, WithinBounds handler.policy (fun _ => .func) id outcome
      ((handler.executeWithRetry digits).exec (outcomesEnv outcome random) 0) delaysMs) ∧
    ∃ delaysMs, WithinBounds adapter.retryPolicy .completeWithRetry
      (BaseProvider.raised adapter.config) outcome
      (adapter.complete.exec (outcomesEnv outcome random) 0) delaysMs := by
  refine ⟨handler.exec_executeWithRetry random fun made e he text htext => ?_,
    adapter.exec_complete outcome random⟩
  rw [hheader made e he] at htext
  cases htext

end

/-- Two timeouts, and then a result. -/
def twoTimeouts (made : Nat) : Except AdapterError String :=
  if made < 2 then .error (.timeoutException "timed out") else .ok "answer"

/-- Two timeouts and then an answer, for the handler and for the adapter. -/
theorem retry_twoTimeouts :
    (∃ delaysMs, WithinBounds {} (fun _ => .func) id twoTimeouts
      ((RetryHandler.executeWithRetry .ascii ⟨{}⟩).exec
        (outcomesEnv twoTimeouts fun _ => ⟨1 / 2, by norm_num⟩) 0) delaysMs) ∧
    ∃ delaysMs, WithinBounds {} .completeWithRetry (BaseProvider.raised openAiConfig) twoTimeouts
      ((BaseProvider.complete ⟨openAiConfig, {}⟩).exec
        (outcomesEnv twoTimeouts fun _ => ⟨1 / 2, by norm_num⟩) 0) delaysMs :=
  retry_withinBounds .ascii ⟨{}⟩ ⟨openAiConfig, {}⟩ twoTimeouts _ fun made e he => by
    unfold twoTimeouts at he
    split_ifs at he
    obtain rfl := Except.error.inj he
    rfl

end AgentRuntime
