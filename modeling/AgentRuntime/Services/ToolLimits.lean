import AgentRuntime.Concurrency.ToolRate
import AgentRuntime.Services.DenyEnforcement

/-!
# All limits of an effect

`_build_rate_limit` returns the first of the limits that an effect sets, and `execute_tool` enforces that
one alone. In calls one after another it is enforced (`Alone`), so all hold where no call is admitted in a window of
another limit that is used up (`limits_hold`), and for effects whose other limits are `Implied` by the first in
every sequence of calls (`limits_hold_of_implied`). Neither speaks of runs in which a count fails.
-/

namespace AgentRuntime

open Interaction RedisRateLimiter

/-! ## Windows in windows -/

section
variable {α : Type}

/-- Values in a range of length `n`, of which each is taken at most `bound` times. -/
theorem countP_range_le {value : α → Nat} {l : List α} {bound : Nat}
    (h : ∀ v, l.countP (fun a => value a = v) ≤ bound) (first n : Nat) :
    l.countP (fun a => first ≤ value a ∧ value a < first + n) ≤ n * bound := by
  induction n with
  | zero =>
    rw [List.countP_eq_zero.2 fun a _ => by simp]
    exact Nat.zero_le _
  | succ n ih =>
    have hsplit (l : List α) : l.countP (fun a => first ≤ value a ∧ value a < first + (n + 1)) =
        l.countP (fun a => first ≤ value a ∧ value a < first + n) +
          l.countP (fun a => value a = first + n) := by
      induction l with
      | nil => rfl
      | cons a l ihl =>
        simp only [List.countP_cons, ihl, decide_eq_true_iff]
        split_ifs <;> omega
    rw [hsplit, Nat.succ_mul]
    exact Nat.add_le_add ih (h (first + n))

/-- Two times are in one window exactly if they are so many whole windows after the start of time. -/
theorem getWindowStart_eq_iff {now now' : Nat} {windowSeconds : Nat} (h : 0 < windowSeconds) :
    getWindowStart now windowSeconds = getWindowStart now' windowSeconds ↔
      now / Time.perSecond / windowSeconds = now' / Time.perSecond / windowSeconds :=
  Nat.mul_left_inj (Nat.ne_of_gt h)

/-- A window of `n` windows has at most `n` times as many. -/
theorem countP_window_le {times : List Nat} {windowSeconds bound n : Nat} (hseconds : 0 < windowSeconds)
    (hn : 0 < n) (h : ∀ now, times.countP (fun t =>
      getWindowStart t windowSeconds = getWindowStart now windowSeconds) ≤ bound) (now : Nat) :
    times.countP (fun t =>
      getWindowStart t (windowSeconds * n) = getWindowStart now (windowSeconds * n)) ≤ n * bound := by
  have hone (v : Nat) : times.countP (fun t => t / Time.perSecond / windowSeconds = v) ≤ bound := by
    have hv := h (v * windowSeconds * Time.perSecond)
    simp only [getWindowStart_eq_iff hseconds, Nat.mul_div_cancel _ (show 0 < Time.perSecond by decide),
      Nat.mul_div_cancel _ hseconds] at hv
    exact hv
  have hrange := countP_range_le hone (now / Time.perSecond / windowSeconds / n * n) n
  refine Nat.le_trans (Nat.le_of_eq (List.countP_congr fun t _ => ?_)) hrange
  simp only [decide_eq_true_iff, getWindowStart_eq_iff (Nat.mul_pos hseconds hn), ← Nat.div_div_eq_div_mul]
  rw [Nat.div_eq_iff hn]
  omega

end

/-! ## Calls one after another -/

namespace ToolLedger

variable {tool : LimitedTool} {self : ToolLedger}

/-- Nothing is stored for later windows than that of `now`. -/
def StoredUpTo (self : ToolLedger) (tool : LimitedTool) (now : Time) : Prop :=
  ∀ now' entry, self.store (currentKey tool.key now' tool.seconds) = some entry →
    getWindowStart now' tool.seconds ≤ getWindowStart now tool.seconds

/-- Call `0` is the only one: no other is under way, and nothing has been counted since it read the
clock. -/
def Alone (self : ToolLedger) (tool : LimitedTool) : ToolPhase → Prop
  | .idle => self.waiting = [] ∧ self.running = [] ∧ self.StoredUpTo tool self.clock
  | .checking now => self.waiting = [] ∧ self.running = [] ∧ now ≤ self.clock ∧ self.StoredUpTo tool now
  | .admitted => self.waiting = [0] ∧ self.running = [] ∧ self.StoredUpTo tool self.clock
  | .invoked | .counting _ =>
    self.waiting = [] ∧ (∃ t, self.running = [(0, t)]) ∧ self.StoredUpTo tool self.clock

/-- What is stored up to a time is stored up to a later one. -/
theorem StoredUpTo.mono {now now' : Nat} (h : self.StoredUpTo tool now) (hle : now ≤ now') :
    self.StoredUpTo tool now' :=
  fun t entry hentry => Nat.le_trans (h t entry hentry) (getWindowStart_mono hle tool.seconds)

/-- Time passes. -/
theorem Alone.later {phase : ToolPhase} (h : self.Alone tool phase) (microseconds : Nat) :
    (self.later microseconds).Alone tool phase := by
  have hlater : self.clock ≤ self.clock + microseconds := Nat.le_add_right _ _
  cases phase with
  | idle =>
    obtain ⟨hwaiting, hrunning, hstored⟩ := h
    exact ⟨hwaiting, hrunning, hstored.mono hlater⟩
  | checking now =>
    obtain ⟨hwaiting, hrunning, hnow, hstored⟩ := h
    exact ⟨hwaiting, hrunning, Nat.le_trans hnow hlater, hstored⟩
  | admitted =>
    obtain ⟨hwaiting, hrunning, hstored⟩ := h
    exact ⟨hwaiting, hrunning, hstored.mono hlater⟩
  | invoked | counting now =>
    obtain ⟨hwaiting, hrunning, hstored⟩ := h
    exact ⟨hwaiting, hrunning, hstored.mono hlater⟩

/-- A check that is made alone admits its call only if the present window has room for it. -/
theorem Alone.room {now : Time} (h : self.Alone tool (.checking now)) (hbounded : self.Bounded tool)
    (hadmits : tool.Admits
      (Redis.get self.milliseconds (currentKey tool.key now tool.seconds) self.store,
        Redis.get self.milliseconds (prevKey tool.key now tool.seconds) self.store) now) :
    self.count tool self.clock + self.waiting.length + self.running.length < tool.limit := by
  obtain ⟨hwaiting, hrunning, hnow, hstored⟩ := h
  have hprev : 0 ≤ (Redis.get self.milliseconds (prevKey tool.key now tool.seconds) self.store).getD 0 :=
    hbounded.counter_nonneg self.milliseconds _
  have hcount : self.count tool now < tool.limit :=
    Int.lt_of_le_of_lt (le_weightedCount hprev now (Bounded.seconds_pos tool)) hadmits
  rw [hwaiting, hrunning]
  simp only [List.length_nil]
  by_cases hsame : getWindowStart self.clock tool.seconds = getWindowStart now tool.seconds
  · rw [count, currentKey_inj.2 hsame]
    rw [count] at hcount
    omega
  · have hearlier := getWindowStart_mono hnow tool.seconds
    have hnone : self.store (currentKey tool.key self.clock tool.seconds) = none := by
      cases hentry : self.store (currentKey tool.key self.clock tool.seconds) with
      | none => rfl
      | some entry =>
        have hle := hstored self.clock entry hentry
        omega
    have hzero : self.count tool self.clock = 0 := by
      have hlookup : Redis.lookup self.milliseconds (currentKey tool.key self.clock tool.seconds)
          self.store = none := Redis.lookup_eq_none.2 fun entry h => by cases hnone.symm.trans h
      rw [count, Redis.counter_eq, hlookup]
      rfl
    have hnonneg := hbounded.counter_nonneg self.milliseconds (currentKey tool.key now tool.seconds)
    rw [count] at hcount
    omega

/-- Nothing is stored for later windows after a count of a window that has begun. -/
theorem StoredUpTo.counting {now : Nat} (h : self.StoredUpTo tool self.clock) (hnow : now ≤ self.clock)
    (i : Nat) (seconds : Int) :
    (self.counting i (currentKey tool.key now tool.seconds) seconds).StoredUpTo tool self.clock := by
  intro now' entry hentry
  by_cases hsame : currentKey tool.key now' tool.seconds = currentKey tool.key now tool.seconds
  · rw [currentKey_inj.1 hsame]
    exact getWindowStart_mono hnow tool.seconds
  · rw [self.store_counting_of_ne i hsame] at hentry
    exact h now' entry hentry

/-- No count raises. -/
def Counted (_ : Nat) (o : ToolCall) (ledger : ToolLedger) : Prop :=
  match o with
  | .pipelineIncr _ _ _ => ledger.down = none
  | _ => True

/-- Every call leaves call `0` alone, if its count does not raise. -/
theorem Alone.note {phase : ToolPhase} {α : Type} {o : ToolCall} (h : self.Alone tool phase)
    (hphase : self.InPhase 0 phase) (hmay : (toolProtocol tool α).may phase o)
    (hcounted : Counted 0 o self) (reply : (o : Call) → o.Ans) :
    (self.note tool 0 o (self.answer tool reply o)).Alone tool
      ((toolProtocol tool α).next phase o (self.answer tool reply o)) := by
  cases phase with
  | idle =>
    cases o with
    | datetimeNow => exact ⟨h.1, h.2.1, Nat.le.refl, h.2.2⟩
    | service o =>
      have ho : o.isToolHandler = false := hmay
      simp only [ToolLedger.note, ho, Bool.false_eq_true, if_false]
      exact h
    | pipelineGet _ _ | pipelineIncr _ _ _ => exact hmay.elim
  | checking now =>
    obtain ⟨hwaiting, hrunning, hnow, hstored⟩ := h
    cases o with
    | pipelineGet currentKey prevKey =>
      cases hanswer : self.answer tool reply (.pipelineGet currentKey prevKey) with
      | error e => exact ⟨hwaiting, hrunning, hstored.mono hnow⟩
      | ok counts =>
        have hread : self.readAt 0 = now := hphase
        simp only [ToolLedger.note, toolProtocol, hread]
        split
        · exact ⟨congrArg (List.cons 0) hwaiting, hrunning, hstored.mono hnow⟩
        · exact ⟨hwaiting, hrunning, hstored.mono hnow⟩
    | datetimeNow | service _ | pipelineIncr _ _ _ => exact hmay.elim
  | admitted =>
    obtain ⟨hwaiting, hrunning, hstored⟩ := h
    cases o with
    | service o =>
      have ho : o.isToolHandler = true := hmay
      simp only [ToolLedger.note, ho, if_true]
      refine ⟨?_, ⟨self.clock, ?_⟩, hstored⟩
      · show self.waiting.erase 0 = []
        rw [hwaiting]
        rfl
      · exact congrArg (List.cons (0, self.clock)) hrunning
    | datetimeNow | pipelineGet _ _ | pipelineIncr _ _ _ => exact hmay.elim
  | invoked =>
    cases o with
    | datetimeNow => exact h
    | service _ | pipelineGet _ _ | pipelineIncr _ _ _ => exact hmay.elim
  | counting now =>
    obtain ⟨hwaiting, ⟨t, hrunning⟩, hstored⟩ := h
    cases o with
    | pipelineIncr currentKey prevKey seconds =>
      obtain ⟨rfl, rfl⟩ := hmay
      have hdown : self.down = none := hcounted
      simp only [ToolLedger.answer, pipeline, hdown]
      refine ⟨hwaiting, ?_, hstored.counting hphase.1 0 _⟩
      simp [ToolLedger.note, ToolLedger.counting, hrunning]
    | datetimeNow | service _ | pipelineGet _ _ => exact hmay.elim

/-- So there is room for all. -/
theorem Alone.roomForAll {phase : ToolPhase} {α : Type} {o : ToolCall} (h : self.Alone tool phase)
    (hphase : self.InPhase 0 phase) (hbounded : self.Bounded tool)
    (hmay : (toolProtocol tool α).may phase o) : RoomForAll tool 0 o self := by
  cases o with
  | pipelineGet currentKey prevKey =>
    cases phase with
    | checking now =>
      obtain ⟨rfl, rfl⟩ := hmay
      intro counts hok hadmits
      obtain rfl := (pipeline_eq_ok.1 hok).2
      have hread : self.readAt 0 = now := hphase
      rw [hread] at hadmits
      exact h.room hbounded hadmits
    | idle | admitted | invoked | counting now => exact hmay.elim
  | datetimeNow | pipelineIncr _ _ _ | service _ => trivial

/-- A check admits its call only where the windows of all `limits` have room, and no count raises. -/
def RoomIn (tool : LimitedTool) (limits : List (Int × String)) (i : Nat) (o : ToolCall)
    (ledger : ToolLedger) : Prop :=
  Counted i o ledger ∧ tool.AdmittedOnlyIf (fun ledger => ∀ limit ∈ limits,
    (ledger.invokedIn (windowToSeconds limit.2) ledger.clock : Int) < limit.1) i o ledger

/-- Call `0` is the only one. -/
def oneCaller (tool : LimitedTool) : Nat → Protocol ToolCall ToolCall.Ans Unit ToolPhase
  | 0 => toolProtocol tool Unit
  | _ + 1 => .silent

/-- While there is room in its windows, a single caller keeps every counter of its own calls within
the limits. -/
theorem advance_oneCaller (tool : LimitedTool) (limits : List (Int × String)) :
    (toolRules tool).Advance tool.Answers (oneCaller tool)
      (fun phase ledger => ledger.InPhases phase ∧ ledger.Bounded tool ∧ ledger.Alone tool (phase 0) ∧
        ∀ limit ∈ limits, ledger.HasRoom (windowToSeconds limit.2) limit.1)
      (RoomIn tool limits) where
  answer reply i o ledger phase h hmay hroom := by
    obtain ⟨hphases, hbounded, halone, hrooms⟩ := h
    cases i with
    | succ i => exact hmay.elim
    | zero =>
      have hall := halone.roomForAll (hphases.own 0) hbounded hmay
      refine ⟨answers_answer tool ledger reply o, hphases.note hmay reply,
        hbounded.note (hphases.own 0) hmay hall reply, ?_, fun limit hlimit => ?_⟩
      · rw [Function.update_self]
        exact halone.note (hphases.own 0) hmay hroom.1 reply
      · refine (hrooms limit hlimit).note (hphases.own 0) hmay ?_ reply
        have hadmitted := hroom.2
        cases o with
        | pipelineGet currentKey prevKey =>
          intro counts hok hadmits
          have hlimit := hadmitted counts hok hadmits limit hlimit
          cases hphase : phase 0 with
          | checking now =>
            rw [hphase] at halone
            rw [halone.1]
            simpa using hlimit
          | idle | admitted | invoked | counting now =>
            rw [hphase] at hmay
            exact hmay.elim
        | datetimeNow | pipelineIncr _ _ _ | service _ => trivial
  outside event ledger phase h := by
    obtain ⟨hphases, hbounded, halone, hrooms⟩ := h
    cases event with
    | passes microseconds =>
      exact ⟨hphases.later microseconds, hbounded.later hphases.invoked microseconds,
        halone.later microseconds,
        fun limit hlimit => (hrooms limit hlimit).later hphases.invoked microseconds⟩
    | redis down =>
      refine ⟨⟨hphases.own, hphases.running, hphases.invoked⟩,
        ⟨⟨hbounded.within, hbounded.room⟩, hbounded.nonneg, hbounded.stored, hbounded.counted⟩, ?_,
        fun limit hlimit => ⟨(hrooms limit hlimit).within, (hrooms limit hlimit).room⟩⟩
      cases hphase : phase 0 with
      | idle | checking now | admitted | invoked | counting now =>
        rw [hphase] at halone
        exact halone

end ToolLedger

/-! ## Calls that an effect decides -/

namespace PolicyEvaluator

/-- The windows of an effect's limits are one in another. -/
theorem configuredLimits_windows (effect : PolicyEffect) :
    (configuredLimits effect).Pairwise fun a b => windowToSeconds a.2 ∣ windowToSeconds b.2 := by
  refine List.Pairwise.filterMap _ (R := fun a b => windowToSeconds a.2 ∣ windowToSeconds b.2) ?_ ?_
  · rintro a b hdvd x hx y hy
    obtain ⟨n, -, rfl⟩ := Option.map_eq_some_iff.1 hx
    obtain ⟨m, -, rfl⟩ := Option.map_eq_some_iff.1 hy
    exact hdvd
  · simp [windowToSeconds]

/-- All limits but the first follow from the first. -/
def Implied (effect : PolicyEffect) : Prop :=
  match configuredLimits effect with
  | [] => True
  | first :: others => ∀ limit ∈ others,
    (windowToSeconds limit.2 / windowToSeconds first.2 : Nat) * first.1 ≤ limit.1

end PolicyEvaluator

/-- A tool whose calls, with one action and tenant, an effect decides. -/
structure GovernedTool where
  cel : Cel
  grants : UUID → String → Except PyError (Option ToolGrant)
  toolName : String
  action : String
  tenantId : UUID
  effect : PolicyEffect

namespace GovernedTool

open ToolLedger

/-- The limits of the effect. -/
def limits (self : GovernedTool) : List (Int × String) := PolicyEvaluator.configuredLimits self.effect

/-- The tool with its first limit, which is the one that `execute_tool` finds in a decision. -/
def limited (self : GovernedTool) : LimitedTool where
  cel := self.cel
  grants := self.grants
  toolName := self.toolName
  action := self.action
  tenantId := self.tenantId
  limit := (self.limits.headD (0, "minute")).1
  window := (self.limits.headD (0, "minute")).2

/-- A call of the tenant that the effect decides, if there is a grant for it. -/
structure Decides (tool : GovernedTool) (request : ToolRequest) : Prop where
  tenantId : request.run.tenantId = tool.tenantId
  effect : ∀ grant, tool.grants request.agentVersionId tool.toolName = .ok (some grant) →
    grant.isActive = true ∧ PolicyEvaluator.effectFor tool.cel grant.policy tool.action request.resource
      request.context = tool.effect

/-- Calls one after another; Redis has no counters. -/
def callsInTurn (self : GovernedTool) (requests : List ToolRequest) (clock : Nat) :
    Pool ToolCall ToolCall.Ans Unit ToolLedger where
  threads := [Prog.inTurn (requests.map self.limited.execute)]
  shared := { clock }

variable {tool : GovernedTool} {request : ToolRequest}

/-- An effect that allows decides with its first limit. -/
theorem Decides.limited (h : tool.Decides request) (hallow : tool.effect.allow = true)
    (happroval : tool.effect.requiresApproval = false) {first : Int × String}
    {others : List (Int × String)} (hlimits : tool.limits = first :: others) :
    tool.limited.Decides request := by
  refine ⟨h.tenantId, fun grant now hgrant => ?_⟩
  obtain ⟨hactive, heffect⟩ := h.effect grant hgrant
  obtain ⟨rule, hrule⟩ : ∃ rule, grant.evaluate tool.limited.cel tool.limited.action request.resource
      request.context now = PolicyEvaluator.applyEffect tool.effect rule now :=
    heffect ▸ ToolGrant.evaluate_of_active hactive
  obtain ⟨info, hinfo, hlimit, hscope⟩ := PolicyEvaluator.buildRateLimit_of_cons hlimits now
  have hfirst : tool.limits.headD (0, "minute") = first := by rw [hlimits]; rfl
  refine ⟨by rw [hrule, PolicyEvaluator.applyEffect_requiresApproval, happroval], info, ?_, ?_, ?_⟩
  · rw [hrule, PolicyEvaluator.applyEffect_rateLimit_of_allow happroval hallow, hinfo]
  · rw [hlimit, GovernedTool.limited, hfirst]
  · rw [hscope, GovernedTool.limited, hfirst]

/-- One call after another leaves room in the windows of the limits that every admission respects. -/
theorem hasRoom_run (hallow : tool.effect.allow = true) (happroval : tool.effect.requiresApproval = false)
    {first : Int × String} {others limits : List (Int × String)}
    (hlimits : tool.limits = first :: others) (hnonneg : ∀ limit ∈ first :: limits, 0 ≤ limit.1)
    {requests : List ToolRequest} (hdecides : ∀ request ∈ requests, tool.Decides request) {clock : Nat}
    {schedule : List (Act ((o : Call) → o.Ans) ToolEvent)}
    (hmeets : Pool.Meets (toolRules tool.limited) (Pool.CallMeets (RoomIn tool.limited limits))
      (tool.callsInTurn requests clock) schedule) :
    ∀ limit ∈ first :: limits, ((tool.callsInTurn requests clock).run (toolRules tool.limited)
      schedule).shared.HasRoom (windowToSeconds limit.2) limit.1 := by
  obtain ⟨hlimit, hseconds⟩ : tool.limited.limit = first.1 ∧
      tool.limited.seconds = windowToSeconds first.2 := by
    have hfirst : tool.limits.headD (0, "minute") = first := by rw [hlimits]; rfl
    exact ⟨congrArg Prod.fst hfirst, congrArg (fun limit : Int × String => windowToSeconds limit.2) hfirst⟩
  have hempty (limit : Int × String) (h : 0 ≤ limit.1) :
      ToolLedger.HasRoom { clock } (windowToSeconds limit.2) limit.1 := ⟨fun _ => h, h⟩
  have hstart : (tool.callsInTurn requests clock).Following tool.limited.Answers
      (oneCaller tool.limited)
      (fun phase ledger => ledger.InPhases phase ∧ ledger.Bounded tool.limited ∧
        ledger.Alone tool.limited (phase 0) ∧
        ∀ limit ∈ limits, ledger.HasRoom (windowToSeconds limit.2) limit.1) fun _ => .idle := by
    refine ⟨fun i q hq => ?_, ⟨fun i => trivial, nofun, nofun⟩, ⟨?_, nofun, nofun, Int.le_refl 0⟩,
      ⟨rfl, rfl, nofun⟩, fun limit hlimit => hempty limit (hnonneg limit (List.mem_cons_of_mem _ hlimit))⟩
    · cases i with
      | succ i => cases hq
      | zero =>
        cases hq
        change (Prog.inTurn (requests.map tool.limited.execute)).Follows tool.limited.Answers
          ((toolProtocol tool.limited Unit).returning fun g' _ => g' = ToolPhase.idle) ToolPhase.idle
        refine Prog.follows_inTurn fun q hq => ?_
        obtain ⟨request, hrequest, rfl⟩ := List.mem_map.1 hq
        exact LimitedTool.follows_execute ((hdecides request hrequest).limited hallow happroval hlimits)
    · have h := hempty first (hnonneg first List.mem_cons_self)
      rwa [← hlimit, ← hseconds] at h
  obtain ⟨phase, -, -, hbounded, -, hrooms⟩ := hstart.run (advance_oneCaller tool.limited limits) hmeets
  intro limit hmem
  rcases List.mem_cons.1 hmem with rfl | hmem
  · have h := hbounded.toHasRoom
    rwa [hlimit, hseconds] at h
  · exact hrooms limit hmem

/-! ## An effect that asks for approval -/

/-- A call of the service that runs no tool. -/
def NoHandler : ToolCall → Prop
  | .service o => o.isToolHandler = false
  | _ => True

/-- The grants found for the tool are those that are stored. -/
def Finds (tool : GovernedTool) : (o : Call) → o.Ans → Prop
  | .grantByTool agentVersionId toolName, answer => answer = tool.grants agentVersionId toolName
  | _, _ => True

/-- The rate limiter runs no tool. -/
theorem limiter_guar (tool : GovernedTool) {o : Call} (ho : o.isToolHandler = false) :
    (limiter o).Guar tool.limited.Answers NoHandler (tool.Finds o) := by
  cases o with
  | checkLimit key limit window =>
    have hcheck := limiter_checkLimit_bind key limit window .ret
    rw [Prog.bind_ret] at hcheck
    rw [hcheck]
    exact ⟨trivial, fun now _ => ⟨trivial, fun results _ => trivial⟩⟩
  | increment key window =>
    have hincrement := limiter_increment_bind key window .ret
    rw [Prog.bind_ret] at hincrement
    rw [hincrement]
    exact ⟨trivial, fun now _ => ⟨trivial, fun results _ => trivial⟩⟩
  | grantByTool agentVersionId toolName => exact ⟨ho, fun answer hanswer => hanswer⟩
  | _ => exact ⟨ho, fun answer _ => trivial⟩

/-- An effect that asks for approval runs no tool. -/
theorem execute_guar (happroval : tool.effect.requiresApproval = true) (h : tool.Decides request) :
    (tool.limited.execute request).Guar tool.limited.Answers NoHandler fun _ => True := by
  refine Prog.Guar.handle (A := tool.Finds) (P := fun o => o.isToolHandler = false) ?_
    fun o ho => limiter_guar tool ho
  simp only [ToolExecutionService.executeTool, Proc.on_bind, Proc.on_tryCall, Prog.call_bind,
    Prog.ret_bind]
  refine ⟨rfl, fun answer hanswer => ?_⟩
  obtain rfl : answer = tool.grants request.agentVersionId tool.toolName := hanswer
  cases hgrants : tool.grants request.agentVersionId tool.toolName with
  | error e => trivial
  | ok grant =>
    cases grant with
    | none => trivial
    | some grant =>
      obtain ⟨hactive, heffect⟩ := h.effect grant hgrants
      refine ⟨rfl, fun now _ => ?_⟩
      have hdecision : (grant.evaluate tool.cel tool.action request.resource request.context
          now).requiresApproval = true :=
        ToolGrant.evaluate_requiresApproval.2 ⟨hactive, heffect.symm ▸ happroval⟩
      have hguar := ToolExecutionService.executeChecked_guar_of_requiresApproval tool.toolName tool.action
        request.inputData request.resource request.run hdecision
      exact (hguar.strengthen fun _ _ _ => trivial).mono (fun _ => id) fun _ _ => trivial

/-- Then no handler is invoked. -/
theorem respect_noHandler (tool : LimitedTool) :
    (toolRules tool).Respect (fun ledger => ledger.invoked = []) tool.Answers fun _ => NoHandler where
  answer reply i o ledger hinvoked ho := by
    refine ⟨answers_answer tool ledger reply o, ?_⟩
    change (ledger.note tool i o (ledger.answer tool reply o)).invoked = []
    rcases note_cases tool ledger i o reply with ⟨readAt, hnote⟩ | ⟨_, _, -, -, -, hnote⟩ |
      ⟨_, _, _, -, hnote⟩ | ⟨o', rfl, hhandler, -⟩
    · rw [hnote]
      exact hinvoked
    · rw [hnote]
      exact hinvoked
    · rw [hnote]
      exact hinvoked
    · cases hhandler.symm.trans ho
  outside event ledger hinvoked := by
    cases event with
    | passes microseconds | redis down => exact hinvoked

/-- A tool whose policy asks for an approval is never invoked. -/
theorem invoked_run_of_requiresApproval (happroval : tool.effect.requiresApproval = true)
    {requests : List ToolRequest} (hdecides : ∀ request ∈ requests, tool.Decides request) (clock : Nat)
    (schedule : List (Act ((o : Call) → o.Ans) ToolEvent)) :
    ((tool.callsInTurn requests clock).run (toolRules tool.limited) schedule).shared.invoked = [] := by
  have hstart : (tool.callsInTurn requests clock).Guaranteed (fun ledger => ledger.invoked = [])
      tool.limited.Answers (fun _ => NoHandler) fun _ _ => True := by
    refine ⟨fun i q hq => ?_, rfl, fun call hcall => (List.not_mem_nil hcall).elim⟩
    cases i with
    | succ i => cases hq
    | zero =>
      cases hq
      refine Prog.guar_inTurn fun q hq => ?_
      obtain ⟨request, hrequest, rfl⟩ := List.mem_map.1 hq
      exact execute_guar happroval (hdecides request hrequest)
  exact (hstart.run (respect_noHandler tool.limited) schedule).shared

/-! ## The limits -/

/-- If the first limit of an effect implies the others, then calls one after another keep to all, unless
a count raises. -/
theorem limits_hold_of_implied (hallow : tool.effect.allow = true)
    (happroval : tool.effect.requiresApproval = false) (himplied : PolicyEvaluator.Implied tool.effect)
    (hnonneg : ∀ limit ∈ tool.limits, 0 ≤ limit.1) {requests : List ToolRequest}
    (hdecides : ∀ request ∈ requests, tool.Decides request) {clock : Nat}
    {schedule : List (Act ((o : Call) → o.Ans) ToolEvent)}
    (hmeets : Pool.Meets (toolRules tool.limited) (Pool.CallMeets Counted)
      (tool.callsInTurn requests clock) schedule) :
    ∀ limit ∈ tool.limits, ∀ now,
      (((tool.callsInTurn requests clock).run (toolRules tool.limited) schedule).shared.invokedIn
        (windowToSeconds limit.2) now : Int) ≤ limit.1 := by
  cases hlimits : tool.limits with
  | nil => exact nofun
  | cons first others =>
    have hroom (i : Nat) (o : ToolCall) (ledger : ToolLedger) (hcounted : Counted i o ledger) :
        RoomIn tool.limited [] i o ledger := by
      refine ⟨hcounted, ?_⟩
      cases o with
      | pipelineGet currentKey prevKey => exact fun _ _ _ => nofun
      | datetimeNow | pipelineIncr _ _ _ | service _ => trivial
    have hfirst : ∀ limit ∈ [first], ToolLedger.HasRoom _ (windowToSeconds limit.2) limit.1 :=
      hasRoom_run hallow happroval hlimits
        (fun limit hlimit => hnonneg limit (hlimits ▸ List.mem_singleton.1 hlimit ▸ List.mem_cons_self))
        hdecides (hmeets.mono fun p a => Pool.CallMeets.mono hroom)
    have hwithin := (hfirst first List.mem_cons_self).within
    intro limit hlimit now
    rcases List.mem_cons.1 hlimit with rfl | hlimit
    · exact hwithin now
    · have hdvd : windowToSeconds first.2 ∣ windowToSeconds limit.2 := by
        have hwindows := PolicyEvaluator.configuredLimits_windows tool.effect
        rw [← GovernedTool.limits, hlimits] at hwindows
        exact List.rel_of_pairwise_cons hwindows hlimit
      have hpos : 0 < windowToSeconds limit.2 / windowToSeconds first.2 :=
        Nat.div_pos (Nat.le_of_dvd (windowToSeconds_pos limit.2) hdvd) (windowToSeconds_pos first.2)
      have hfirstNonneg : 0 ≤ first.1 := hnonneg first (hlimits ▸ List.mem_cons_self)
      have hcount := countP_window_le (windowToSeconds_pos first.2) hpos
        (fun now => Int.le_toNat hfirstNonneg |>.2 (hwithin now)) now
      rw [Nat.mul_div_cancel' hdvd] at hcount
      have hall : (windowToSeconds limit.2 / windowToSeconds first.2 : Nat) * first.1 ≤ limit.1 := by
        rw [PolicyEvaluator.Implied, ← GovernedTool.limits, hlimits] at himplied
        exact himplied limit hlimit
      refine Int.le_trans ?_ hall
      rw [← Int.toNat_of_nonneg hfirstNonneg]
      exact_mod_cast hcount

/-- Calls one after another keep to all limits of an effect that does not deny, if each is admitted only
where the windows of the limits after the first have room, and no count raises. -/
theorem limits_hold (tool : GovernedTool)
    (hallow : tool.effect.allow = true ∨ tool.effect.requiresApproval = true)
    (hnonneg : ∀ limit ∈ tool.limits, 0 ≤ limit.1) (requests : List ToolRequest)
    (hdecides : ∀ request ∈ requests, tool.Decides request) (clock : Nat)
    (schedule : List (Act ((o : Call) → o.Ans) ToolEvent))
    (hmeets : Pool.Meets (toolRules tool.limited) (Pool.CallMeets (RoomIn tool.limited tool.limits.tail))
      (tool.callsInTurn requests clock) schedule) :
    ∀ limit ∈ tool.limits, ∀ now,
      (((tool.callsInTurn requests clock).run (toolRules tool.limited) schedule).shared.invokedIn
        (windowToSeconds limit.2) now : Int) ≤ limit.1 := by
  intro limit hlimit now
  cases happroval : tool.effect.requiresApproval with
  | true =>
    rw [invokedIn, invoked_run_of_requiresApproval happroval hdecides]
    exact hnonneg limit hlimit
  | false =>
    have hallow : tool.effect.allow = true := hallow.resolve_right (by simp [happroval])
    cases hlimits : tool.limits with
    | nil => simp [hlimits] at hlimit
    | cons first others =>
      rw [hlimits] at hmeets hlimit hnonneg
      exact (hasRoom_run hallow happroval hlimits hnonneg hdecides hmeets limit hlimit).within now

/-- A tool that may be called once a minute and once an hour. -/
def oncePerHour : GovernedTool where
  cel _ _ := none
  grants _ toolName := .ok (some (ToolGrant.sample toolName
    { maxCallsPerMinute := some 1, maxCallsPerHour := some 1 }))
  toolName := "t"
  action := "execute"
  tenantId := ⟨3⟩
  effect := { maxCallsPerMinute := some 1, maxCallsPerHour := some 1 }

/-- The policy of the sample decides on its requests. -/
theorem oncePerHour_decides {requests : List ToolRequest}
    (h : ∀ request ∈ requests, request = LimitedTool.sampleRequest) :
    ∀ request ∈ requests, oncePerHour.Decides request := by
  intro request hrequest
  obtain rfl := h request hrequest
  refine ⟨rfl, fun grant hgrant => ?_⟩
  obtain rfl := Option.some.inj (Except.ok.inj hgrant)
  exact ⟨rfl, rfl⟩

/-- Two calls in one minute, and a third two hours later. -/
def callsOverHours : List (Act ((o : Call) → o.Ans) ToolEvent) :=
  List.replicate 7 (.thread 0 Call.quiet) ++ List.replicate 4 (.thread 0 Call.quiet) ++
    .outside (.passes 7200000000) :: List.replicate 7 (.thread 0 Call.quiet)

/-- What they leave in the ledger. -/
def ledgerOverHours : ToolLedger :=
  ((oncePerHour.callsInTurn (List.replicate 3 LimitedTool.sampleRequest) 0).run (toolRules oncePerHour.limited)
    callsOverHours).shared

/-- The second call is refused in the minute of the first, and the third is made in another hour: neither
limit is exceeded in the windows of either time. -/
theorem limits_hold_oncePerHour :
    ((ledgerOverHours.invokedIn (windowToSeconds "minute") 0 : Int) ≤ 1 ∧
      (ledgerOverHours.invokedIn (windowToSeconds "hour") 0 : Int) ≤ 1) ∧
    (ledgerOverHours.invokedIn (windowToSeconds "minute") 7200000000 : Int) ≤ 1 ∧
      (ledgerOverHours.invokedIn (windowToSeconds "hour") 7200000000 : Int) ≤ 1 := by
  have hlimits : ∀ limit ∈ oncePerHour.limits, ∀ now,
      (ledgerOverHours.invokedIn (windowToSeconds limit.2) now : Int) ≤ limit.1 := by
    refine limits_hold oncePerHour (.inl rfl) (by decide) _
      (oncePerHour_decides fun request hrequest => List.eq_of_mem_replicate hrequest) 0 _ ?_
    refine ⟨⟨trivial, trivial⟩, ⟨trivial, trivial⟩, ⟨trivial, trivial⟩,
      ⟨trivial, fun counts hcounts hadmits => ?_⟩, ⟨trivial, trivial⟩, ⟨trivial, trivial⟩, ⟨rfl, trivial⟩,
      ⟨trivial, trivial⟩, ⟨trivial, trivial⟩, ⟨trivial, trivial⟩,
      ⟨trivial, fun counts hcounts hadmits => ?_⟩, trivial,
      ⟨trivial, trivial⟩, ⟨trivial, trivial⟩, ⟨trivial, trivial⟩,
      ⟨trivial, fun counts hcounts hadmits => ?_⟩, ⟨trivial, trivial⟩, ⟨trivial, trivial⟩, ⟨rfl, trivial⟩,
      trivial⟩
    · decide +kernel
    · -- the check of the second call finds the first counted
      obtain rfl := Except.ok.inj hcounts
      revert hadmits
      decide +kernel
    · decide +kernel
  have hminute := hlimits (1, "minute") (by decide)
  have hhour := hlimits (1, "hour") (by decide)
  exact ⟨⟨hminute 0, hhour 0⟩, hminute 7200000000, hhour 7200000000⟩

/-- The second call of an hour is made more than a minute later, and no limit of the hour stops it: only the
first limit of the list is enforced. -/
theorem not_limits_hold : ¬∀ (tool : GovernedTool) (requests : List ToolRequest) (clock : Nat)
      (schedule : List (Act ((o : Call) → o.Ans) ToolEvent)),
    (∀ request ∈ requests, tool.Decides request) → ∀ limit ∈ tool.limits, ∀ now,
      (((tool.callsInTurn requests clock).run (toolRules tool.limited) schedule).shared.invokedIn
        (windowToSeconds limit.2) now : Int) ≤ limit.1 := by
  intro h
  let next (n : Nat) : List (Act ((o : Call) → o.Ans) ToolEvent) :=
    List.replicate n (.thread 0 Call.quiet)
  have hbound := h oncePerHour [LimitedTool.sampleRequest, LimitedTool.sampleRequest] 0
    (next 7 ++ [.outside (.passes 61000000)] ++ next 5) (oncePerHour_decides (by simp)) (1, "hour") (by decide) 0
  revert hbound
  decide +kernel

end GovernedTool

end AgentRuntime
