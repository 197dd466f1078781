import AgentRuntime.Cache.Redis
import AgentRuntime.Runtime.Call

/-!
# The rate limiter of the tools

`RedisRateLimiter` (`app/infrastructure/security/rate_limiter.py`): a counter for each aligned window, and
a check that adds the weighted count of the window before. Each method reads the clock and then makes one
pipeline of Redis. In a key, the start of a window is written in seconds.
-/

namespace AgentRuntime

open Interaction

/-- What a tool call does outside: the clock and the pipelines of the rate limiter, and the other calls of
the service. -/
inductive ToolCall where
  | datetimeNow
  /-- `GET` of the window's key and of the one before. -/
  | pipelineGet (currentKey prevKey : String)
  /-- `INCR` and `EXPIRE` of the window's key, `GET` of the one before. -/
  | pipelineIncr (currentKey prevKey : String) (seconds : Int)
  | service (o : Call)

/-- The answers; a pipeline may raise. -/
@[reducible] def ToolCall.Ans : ToolCall → Type
  | datetimeNow => Time
  | pipelineGet _ _ => Except PyError (Option Int × Option Int)
  | pipelineIncr _ _ _ => Except PyError (Int × Bool × Option Int)
  | service o => o.Ans

namespace RedisRateLimiter

/-- Convert window string to seconds. -/
def windowToSeconds (window : String) : Nat :=
  if window = "minute" then 60
  else if window = "hour" then 3600
  else if window = "day" then 86400
  else 60

/-- Get the start of the current window, in seconds. -/
def getWindowStart (now : Time) (windowSeconds : Nat) : Nat :=
  now / Time.perSecond / windowSeconds * windowSeconds

/-- `f"ratelimit:{key}:{window_start.isoformat()}"`. -/
def counterKey (key : String) (windowStart : Int) : String := s!"ratelimit:{key}:{windowStart}"

/-- The key of the current window. -/
def currentKey (key : String) (now : Time) (windowSeconds : Nat) : String :=
  counterKey key (getWindowStart now windowSeconds)

/-- The key of the window before. -/
def prevKey (key : String) (now : Time) (windowSeconds : Nat) : String :=
  counterKey key (getWindowStart now windowSeconds - windowSeconds)

/-- `current_count + int(prev_count * (1 - weight))`, where the weight is the part of the window that is
over. -/
def weightedCount (currentCount prevCount : Int) (now : Time) (windowSeconds : Nat) : Int :=
  let width : Int := windowSeconds * Time.perSecond
  let elapsed : Int := now - getWindowStart now windowSeconds * Time.perSecond
  currentCount + (prevCount * (width - elapsed)).tdiv width

/-- A method of the rate limiter. -/
abbrev Method := Proc ToolCall ToolCall.Ans PyError Unit

/-- Get current count for rate limit check. -/
def getCurrentCount (key window : String) : Method Int := do
  let windowSeconds := windowToSeconds window
  let now ← (Proc.call ToolCall.datetimeNow : Method Time)
  let results ← Proc.tryCall
    (.pipelineGet (currentKey key now windowSeconds) (prevKey key now windowSeconds)) id
  pure (weightedCount (results.1.getD 0) (results.2.getD 0) now windowSeconds)

/-- Check if rate limit is exceeded. Returns True if allowed. -/
def checkLimit (key : String) (limit : Int) (window : String) : Method Bool := do
  let current ← getCurrentCount key window
  pure (current < limit)

/-- Increment counter and return current count. -/
def increment (key window : String) : Method Int := do
  let windowSeconds := windowToSeconds window
  let now ← (Proc.call ToolCall.datetimeNow : Method Time)
  let results ← Proc.tryCall (.pipelineIncr (currentKey key now windowSeconds)
    (prevKey key now windowSeconds) (windowSeconds * 2)) id
  pure (weightedCount results.1 (results.2.2.getD 0) now windowSeconds)

/-- What the tool service's calls come to with this rate limiter. -/
def limiter : (o : Call) → Prog ToolCall ToolCall.Ans o.Ans
  | .checkLimit key limit window => (checkLimit key limit window).on () >>= fun r => .ret r.1
  | .increment key window => (increment key window).on () >>= fun r => .ret r.1
  | o => .perform (ToolCall.service o)

/-! ## Windows -/

/-- Every window has a length; one of an unknown name lasts a minute. -/
theorem windowToSeconds_pos (window : String) : 0 < windowToSeconds window := by
  unfold windowToSeconds
  split_ifs <;> decide

/-- A window starts in the past. -/
theorem getWindowStart_le (now : Nat) (windowSeconds : Nat) :
    getWindowStart now windowSeconds ≤ now / Time.perSecond :=
  Nat.div_mul_le_self _ _

/-- It has not ended yet. -/
theorem lt_getWindowStart_add (now : Nat) {windowSeconds : Nat} (h : 0 < windowSeconds) :
    now / Time.perSecond < getWindowStart now windowSeconds + windowSeconds := by
  have hlt := Nat.lt_div_mul_add (a := now / Time.perSecond) h
  exact hlt

/-- A later time is in the same window or in a later one. -/
theorem getWindowStart_mono {now now' : Nat} (h : now ≤ now') (windowSeconds : Nat) :
    getWindowStart now windowSeconds ≤ getWindowStart now' windowSeconds :=
  Nat.mul_le_mul_right _ (Nat.div_le_div_right (Nat.div_le_div_right h))

/-- Different windows have different keys. -/
theorem currentKey_inj {key : String} {now now' : Time} {windowSeconds : Nat} :
    currentKey key now windowSeconds = currentKey key now' windowSeconds ↔
      getWindowStart now windowSeconds = getWindowStart now' windowSeconds := by
  refine ⟨fun h => ?_, fun h => by rw [currentKey, currentKey, h]⟩
  have hlist := congrArg String.toList h
  simp only [currentKey, counterKey, String.toList_append, List.append_cancel_left_eq] at hlist
  have hdigits : Nat.toDigits 10 (getWindowStart now windowSeconds) =
      Nat.toDigits 10 (getWindowStart now' windowSeconds) := by
    simpa [toString, Int.repr, Nat.repr] using hlist
  have hvalue := congrArg (Nat.ofDigitChars 10 · 0) hdigits
  simpa only [Nat.ofDigitChars_ten_toDigits] using hvalue

/-- The window lasts until its end. -/
theorem lt_perSecond (now : Nat) {windowSeconds : Nat} (h : 0 < windowSeconds) :
    now < (getWindowStart now windowSeconds + windowSeconds) * Time.perSecond :=
  (Nat.div_lt_iff_lt_mul (by decide)).1 (lt_getWindowStart_add now h)

/-- What is left of the window before adds to the count. -/
theorem le_weightedCount {currentCount prevCount : Int} (hprev : 0 ≤ prevCount) (now : Time)
    {windowSeconds : Nat} (h : 0 < windowSeconds) :
    currentCount ≤ weightedCount currentCount prevCount now windowSeconds := by
  have hend := lt_perSecond now h
  have hleft : (0 : Int) ≤ windowSeconds * Time.perSecond -
      (now - getWindowStart now windowSeconds * Time.perSecond) := by
    rw [Nat.add_mul] at hend
    have hend' : (now : Int) < getWindowStart now windowSeconds * Time.perSecond +
        windowSeconds * Time.perSecond := by exact_mod_cast hend
    omega
  have hcarry := Int.tdiv_nonneg (Int.mul_nonneg hprev hleft)
    (Int.mul_nonneg (Int.natCast_nonneg windowSeconds) (Int.natCast_nonneg Time.perSecond))
  exact Int.le_add_of_nonneg_right hcarry

end RedisRateLimiter

end AgentRuntime
