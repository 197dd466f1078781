import AgentRuntime.Services.LimitedTools

/-!
# The rate limit of a tool under concurrency

The check of `execute_tool` counts the calls that are counted already, not those between their check and
their count. If no call is admitted that would not have been with these counted too, then in every
schedule no more handlers are invoked in a window than the limit (`invokedIn_le`).
-/

namespace AgentRuntime

open Interaction RedisRateLimiter

/-- The condition that a check admits its call only in states that satisfy `P`. -/
def LimitedTool.AdmittedOnlyIf (tool : LimitedTool) (P : ToolLedger → Prop) (i : Nat) (o : ToolCall)
    (ledger : ToolLedger) : Prop :=
  match o with
  | .pipelineGet currentKey prevKey =>
    ∀ counts, ledger.pipeline (Redis.get ledger.milliseconds currentKey ledger.store,
        Redis.get ledger.milliseconds prevKey ledger.store) = .ok counts →
      tool.Admits counts (ledger.readAt i) → P ledger
  | _ => True

/-- A call is admitted only if the present window has room for it besides all calls that are under way or
were not counted. -/
def RoomForAll (tool : LimitedTool) : Nat → ToolCall → ToolLedger → Prop :=
  tool.AdmittedOnlyIf fun ledger =>
    ledger.count tool ledger.clock + ledger.waiting.length + ledger.running.length < tool.limit

namespace ToolLedger

/-- What is noted of a call agrees with its phase. -/
def InPhase (self : ToolLedger) (i : Nat) : ToolPhase → Prop
  | .checking now => self.readAt i = now
  | .admitted => i ∈ self.waiting
  | .counting now => now ≤ self.clock ∧ ∀ t, (i, t) ∈ self.running → t ≤ now
  | .idle | .invoked => True

/-- The calls are in their phases, and no handler was invoked in the future. -/
structure InPhases (ledger : ToolLedger) (phase : Nat → ToolPhase) : Prop where
  own : ∀ i, ledger.InPhase i (phase i)
  running : ∀ call ∈ ledger.running, call.2 ≤ ledger.clock
  invoked : ∀ t ∈ ledger.invoked, t ≤ ledger.clock

/-- No window of `seconds` has more handlers than `limit`, and the present one has room for the calls that
wait for theirs. -/
structure HasRoom (ledger : ToolLedger) (seconds : Nat) (limit : Int) : Prop where
  within : ∀ now, (ledger.invokedIn seconds now : Int) ≤ limit
  room : (ledger.invokedIn seconds ledger.clock + ledger.waiting.length : Int) ≤ limit

/-- There is room in the tool's windows; the handlers of the present one are counted, or their calls are
under way. -/
structure Bounded (ledger : ToolLedger) (tool : LimitedTool) : Prop
    extends ledger.HasRoom tool.seconds tool.limit where
  nonneg : ∀ key entry, ledger.store key = some entry → 0 ≤ entry.value
  stored : ∀ now entry, ledger.store (currentKey tool.key now tool.seconds) = some entry →
    ∃ t, entry.expireAt = some t ∧ (getWindowStart now tool.seconds + tool.seconds) * 1000 ≤ t
  counted : (ledger.invokedIn tool.seconds ledger.clock : Int) ≤
    ledger.count tool ledger.clock + ledger.runningIn tool.seconds ledger.clock

/-- A handler is invoked in its window. -/
theorem invokedIn_invoking (self : ToolLedger) (i seconds : Nat) (now : Time) :
    (self.invoking i).invokedIn seconds now = self.invokedIn seconds now +
      if getWindowStart self.clock seconds = getWindowStart now seconds then 1 else 0 := by
  simp [invokedIn, invoking, List.countP_cons]

/-- Its call is under way. -/
theorem runningIn_invoking (self : ToolLedger) (i seconds : Nat) (now : Time) :
    (self.invoking i).runningIn seconds now = self.runningIn seconds now +
      if getWindowStart self.clock seconds = getWindowStart now seconds then 1 else 0 := by
  simp [runningIn, invoking, List.countP_cons]

/-- One call is counted: the others are under way as before. -/
theorem runningIn_counting (self : ToolLedger) (i : Nat) (currentKey : String) (seconds : Int)
    (windowSeconds : Nat) (now : Time) :
    self.runningIn windowSeconds now ≤ (self.counting i currentKey seconds).runningIn windowSeconds now ∨
      ∃ t, ((i, t) ∈ self.running ∧ getWindowStart t windowSeconds = getWindowStart now windowSeconds) ∧
        self.runningIn windowSeconds now =
          (self.counting i currentKey seconds).runningIn windowSeconds now + 1 := by
  obtain hsame | ⟨⟨j, t⟩, before, after, -, hj, hrunning, herased⟩ :=
    List.exists_or_eq_self_of_eraseP (fun call : Nat × Time => decide (call.1 = i)) self.running
  · left
    simp only [runningIn, counting, hsame]
    exact Nat.le.refl
  · obtain rfl : j = i := by simpa using hj
    simp only [runningIn, counting, herased]
    rw [hrunning, List.countP_append, List.countP_append, List.countP_cons]
    by_cases hwindow : getWindowStart t windowSeconds = getWindowStart now windowSeconds
    · right
      refine ⟨t, ⟨List.mem_append_right _ List.mem_cons_self, hwindow⟩, ?_⟩
      simp only [hwindow, decide_true, if_true]
      omega
    · left
      simp only [hwindow, decide_false, Bool.false_eq_true, if_false]
      omega

/-- The counts of other windows stay. -/
theorem store_counting_of_ne (self : ToolLedger) (i : Nat) {key currentKey : String}
    (h : key ≠ currentKey) (seconds : Int) :
    (self.counting i currentKey seconds).store key = self.store key :=
  (Redis.expire_of_ne h _).trans (Redis.incrBy_of_ne h 1)

/-- The counted key has one more, and expires `seconds` later. -/
theorem store_counting_self (self : ToolLedger) (i : Nat) (currentKey : String) {seconds : Int}
    (h : 0 < seconds) :
    (self.counting i currentKey seconds).store currentKey =
      some ⟨Redis.counter self.milliseconds currentKey self.store + 1,
        some (self.milliseconds + seconds.toNat * 1000)⟩ :=
  Redis.expire_incrBy h 1

namespace HasRoom

variable {self : ToolLedger} {seconds : Nat} {limit : Int}

/-- Time passes: a window that begins has no handlers. -/
theorem later (h : self.HasRoom seconds limit) (hinvoked : ∀ t ∈ self.invoked, t ≤ self.clock)
    (microseconds : Nat) : (self.later microseconds).HasRoom seconds limit := by
  have hroom := h.room
  have hinvokedIn : self.invokedIn seconds (self.clock + microseconds) ≤
      self.invokedIn seconds self.clock := by
    refine List.countP_mono_left fun t ht hsame => ?_
    have hbefore := getWindowStart_mono (hinvoked t ht) seconds
    have hafter := getWindowStart_mono (Nat.le_add_right self.clock microseconds) seconds
    rw [decide_eq_true_iff] at hsame ⊢
    omega
  refine ⟨h.within, ?_⟩
  show (self.invokedIn seconds (self.clock + microseconds) : Int) + self.waiting.length ≤ limit
  omega

/-- A call is admitted where there is room for it. -/
theorem admitting (h : self.HasRoom seconds limit) (i : Nat)
    (hroom : (self.invokedIn seconds self.clock + self.waiting.length : Int) < limit) :
    (self.admitting i).HasRoom seconds limit := by
  refine ⟨h.within, ?_⟩
  show (self.invokedIn seconds self.clock : Int) + ((i :: self.waiting).length : Nat) ≤ limit
  rw [List.length_cons]
  omega

/-- A call that waits invokes its handler. -/
theorem invoking (h : self.HasRoom seconds limit) {i : Nat} (hi : i ∈ self.waiting) :
    (self.invoking i).HasRoom seconds limit := by
  have hroom := h.room
  have hlength := List.length_erase_of_mem hi
  have hpos := List.length_pos_of_mem hi
  refine ⟨fun now => ?_, ?_⟩
  · rw [invokedIn_invoking]
    split
    · next hsame =>
      have hnow : self.invokedIn seconds now = self.invokedIn seconds self.clock := by
        rw [invokedIn, invokedIn, hsame]
      rw [hnow]
      omega
    · exact h.within now
  · have hinvoked := self.invokedIn_invoking i seconds self.clock
    rw [if_pos rfl] at hinvoked
    show ((self.invoking i).invokedIn seconds self.clock : Int) + ((self.waiting.erase i).length : Nat) ≤
      limit
    omega

end HasRoom

namespace Bounded

variable {tool : LimitedTool} {self : ToolLedger}

/-- A window of a tool is longer than nothing. -/
theorem seconds_pos (tool : LimitedTool) : 0 < tool.seconds := windowToSeconds_pos tool.window

/-- A counter that only this code writes is not negative. -/
theorem counter_nonneg (h : self.Bounded tool) (milliseconds : Nat) (key : String) :
    0 ≤ Redis.counter milliseconds key self.store := by
  rw [Redis.counter_eq]
  cases hentry : Redis.lookup milliseconds key self.store with
  | none => exact Int.le_refl 0
  | some entry => exact h.nonneg key entry (Redis.lookup_eq_some.1 hentry).1

/-- Time passes. -/
theorem later (h : self.Bounded tool) (hinvoked : ∀ t ∈ self.invoked, t ≤ self.clock)
    (microseconds : Nat) : (self.later microseconds).Bounded tool := by
  refine ⟨h.toHasRoom.later hinvoked microseconds, h.nonneg, h.stored, ?_⟩
  by_cases hwindow : getWindowStart (self.clock + microseconds) tool.seconds =
    getWindowStart self.clock tool.seconds
  · have hcount : (self.later microseconds).count tool (self.clock + microseconds) =
        self.count tool self.clock := by
      rw [count, count, currentKey_inj.2 hwindow]
      refine Redis.counter_later (Nat.div_le_div_right (Nat.le_add_right _ _)) fun entry hentry t ht => ?_
      obtain ⟨t', ht', hend⟩ := h.stored self.clock entry hentry
      obtain rfl : t' = t := Option.some.inj (ht'.symm.trans ht)
      have hlast := lt_perSecond (self.clock + microseconds) (seconds_pos tool)
      rw [hwindow] at hlast
      refine Nat.le_trans ?_ hend
      change (self.clock + microseconds) / 1000 ≤ _
      unfold Time.perSecond at hlast
      omega
    show (self.invokedIn tool.seconds (self.clock + microseconds) : Int) ≤
      (self.later microseconds).count tool (self.clock + microseconds) +
        (self.runningIn tool.seconds (self.clock + microseconds) : Nat)
    rw [hcount, invokedIn, runningIn, hwindow]
    exact h.counted
  · have hnone : self.invokedIn tool.seconds (self.clock + microseconds) = 0 := by
      refine List.countP_eq_zero.2 fun t ht => ?_
      rw [decide_eq_true_iff]
      intro hsame
      have hle := getWindowStart_mono (hinvoked t ht) tool.seconds
      have hmono := getWindowStart_mono (Nat.le_add_right self.clock microseconds) tool.seconds
      omega
    have hcount := h.counter_nonneg ((self.clock + microseconds) / 1000)
      (currentKey tool.key (self.clock + microseconds) tool.seconds)
    show (self.invokedIn tool.seconds (self.clock + microseconds) : Int) ≤ _ + _
    rw [hnone]
    exact Int.add_nonneg hcount (Int.natCast_nonneg _)

/-- A call is admitted where there is room for all. -/
theorem admitting (h : self.Bounded tool) (i : Nat)
    (hroom : self.count tool self.clock + self.waiting.length + self.running.length < tool.limit) :
    (self.admitting i).Bounded tool := by
  have hcounted := h.counted
  have hrunning : self.runningIn tool.seconds self.clock ≤ self.running.length := List.countP_le_length
  exact ⟨h.toHasRoom.admitting i (by omega), h.nonneg, h.stored, h.counted⟩

/-- A call that is admitted invokes its handler. -/
theorem invoking (h : self.Bounded tool) {i : Nat} (hi : i ∈ self.waiting) :
    (self.invoking i).Bounded tool := by
  refine ⟨h.toHasRoom.invoking hi, h.nonneg, h.stored, ?_⟩
  have hcounted := h.counted
  have hinvoked := self.invokedIn_invoking i tool.seconds self.clock
  have hrunning := self.runningIn_invoking i tool.seconds self.clock
  rw [if_pos rfl] at hinvoked hrunning
  show ((self.invoking i).invokedIn tool.seconds self.clock : Int) ≤
    self.count tool self.clock + ((self.invoking i).runningIn tool.seconds self.clock : Nat)
  omega

/-- A count only adds. -/
theorem count_counting (tool : LimitedTool) (self : ToolLedger) (i now now' : Nat) {seconds : Int}
    (hseconds : 0 < seconds) :
    (self.counting i (currentKey tool.key now tool.seconds) seconds).count tool now' =
      self.count tool now' +
        if getWindowStart now' tool.seconds = getWindowStart now tool.seconds then 1 else 0 := by
  show Redis.counter self.milliseconds (currentKey tool.key now' tool.seconds)
    (Redis.expire self.milliseconds (currentKey tool.key now tool.seconds) seconds _) = _
  split
  · next hsame =>
    rw [currentKey_inj.2 hsame, Redis.counter_expire hseconds, Redis.counter_incrBy, count,
      currentKey_inj.2 hsame]
  · next hother =>
    have hne : currentKey tool.key now' tool.seconds ≠ currentKey tool.key now tool.seconds :=
      fun h => hother (currentKey_inj.1 h)
    rw [Int.add_zero]
    exact Redis.counter_congr (self.store_counting_of_ne i hne seconds)

/-- A call is counted, in the window of a reading of the clock after its handler. -/
theorem counting (h : self.Bounded tool) {i now : Nat} (hnow : now ≤ self.clock)
    (hcalls : ∀ t, (i, t) ∈ self.running → t ≤ now) :
    (self.counting i (currentKey tool.key now tool.seconds) (tool.seconds * 2)).Bounded tool := by
  have hpos : (0 : Int) < tool.seconds * 2 := by
    have := seconds_pos tool
    omega
  have hstore := self.store_counting_self i (currentKey tool.key now tool.seconds) hpos
  refine ⟨⟨h.within, h.room⟩, fun key entry hentry => ?_, fun now' entry hentry => ?_, ?_⟩
  · by_cases hsame : key = currentKey tool.key now tool.seconds
    · subst hsame
      obtain rfl := Option.some.inj (hstore.symm.trans hentry)
      exact Int.add_nonneg (h.counter_nonneg self.milliseconds _) (by decide)
    · exact h.nonneg key entry ((self.store_counting_of_ne i hsame _).symm.trans hentry)
  · by_cases hsame : currentKey tool.key now' tool.seconds = currentKey tool.key now tool.seconds
    · rw [hsame] at hentry
      obtain rfl := Option.some.inj (hstore.symm.trans hentry)
      refine ⟨_, rfl, ?_⟩
      have hstart := getWindowStart_le now tool.seconds
      rw [currentKey_inj.1 hsame]
      have hmilliseconds : self.milliseconds = self.clock / 1000 := rfl
      unfold Time.perSecond at hstart
      omega
    · exact h.stored now' entry ((self.store_counting_of_ne i hsame _).symm.trans hentry)
  · have hcounted := h.counted
    have hcount := count_counting tool self i now self.clock hpos
    show (self.invokedIn tool.seconds self.clock : Int) ≤
      (self.counting i (currentKey tool.key now tool.seconds) (tool.seconds * 2)).count tool self.clock +
        ((self.counting i (currentKey tool.key now tool.seconds) (tool.seconds * 2)).runningIn tool.seconds
          self.clock : Nat)
    rw [hcount]
    obtain hrunning | ⟨t, ⟨hmem, hwindow⟩, hrunning⟩ := self.runningIn_counting i
      (currentKey tool.key now tool.seconds) (tool.seconds * 2) tool.seconds self.clock
    · split <;> omega
    · -- the call's handler was invoked in the present window, so its count goes there
      have hlater := getWindowStart_mono (hcalls t hmem) tool.seconds
      have hearlier := getWindowStart_mono hnow tool.seconds
      rw [if_pos (by omega)]
      omega

end Bounded

namespace InPhases

variable {tool : LimitedTool} {self : ToolLedger} {phase : Nat → ToolPhase}

/-- Time passes. -/
theorem later (h : self.InPhases phase) (microseconds : Nat) :
    (self.later microseconds).InPhases phase := by
  refine ⟨fun i => ?_, fun call hcall => ?_, fun t ht => ?_⟩
  · have hown := h.own i
    cases hi : phase i with
    | counting now =>
      rw [hi] at hown
      exact ⟨Nat.le_add_right_of_le hown.1, hown.2⟩
    | idle | checking now | admitted | invoked =>
      rw [hi] at hown
      exact hown
  · exact Nat.le_add_right_of_le (h.running call hcall)
  · exact Nat.le_add_right_of_le (h.invoked t ht)

/-- A call moves on, and leaves the others where they are. -/
theorem moves (h : self.InPhases phase) {i : Nat} {after : ToolLedger} {next : ToolPhase}
    (hclock : after.clock = self.clock)
    (hother : ∀ j, j ≠ i → after.readAt j = self.readAt j ∧
      (j ∈ self.waiting → j ∈ after.waiting) ∧ ∀ t, (j, t) ∈ after.running → (j, t) ∈ self.running)
    (hown : after.InPhase i next) (hrunning : ∀ call ∈ after.running, call.2 ≤ self.clock)
    (hinvoked : ∀ t ∈ after.invoked, t ≤ self.clock) :
    after.InPhases (Function.update phase i next) := by
  refine ⟨fun j => ?_, fun call hcall => ?_, fun t ht => ?_⟩
  · by_cases hij : j = i
    · subst hij
      rwa [Function.update_self]
    · rw [Function.update_of_ne hij]
      obtain ⟨hread, hwaiting, hruns⟩ := hother j hij
      have hj := h.own j
      cases hphase : phase j with
      | idle | invoked => trivial
      | checking now =>
        rw [hphase] at hj
        exact hread.trans hj
      | admitted =>
        rw [hphase] at hj
        exact hwaiting hj
      | counting now =>
        rw [hphase] at hj
        exact ⟨hclock.symm ▸ hj.1, fun t ht => hj.2 t (hruns t ht)⟩
  · exact hclock.symm ▸ hrunning call hcall
  · exact hclock.symm ▸ hinvoked t ht

/-- Every call moves on as the protocol says. -/
theorem note {α : Type} (h : self.InPhases phase) {i : Nat} {o : ToolCall}
    (hmay : (toolProtocol tool α).may (phase i) o) (reply : (o : Call) → o.Ans) :
    (self.note tool i o (self.answer tool reply o)).InPhases
      (Function.update phase i ((toolProtocol tool α).next (phase i) o (self.answer tool reply o))) := by
  have hown := h.own i
  cases hi : phase i with
  | idle =>
    rw [hi] at hmay hown
    cases o with
    | datetimeNow =>
      refine h.moves rfl (fun j hj => ⟨Function.update_of_ne hj _ _, id, fun _ => id⟩) ?_ h.running
        h.invoked
      exact Function.update_self ..
    | service o =>
      have hnote : self.note tool i (.service o) (self.answer tool reply (.service o)) = self := by
        have ho : o.isToolHandler = false := hmay
        simp only [ToolLedger.note, ho, Bool.false_eq_true, if_false]
      rw [hnote]
      exact h.moves rfl (fun j _ => ⟨rfl, id, fun _ => id⟩) trivial h.running h.invoked
    | pipelineGet _ _ | pipelineIncr _ _ _ => exact hmay.elim
  | checking now =>
    rw [hi] at hmay hown
    cases o with
    | pipelineGet currentKey prevKey =>
      cases hanswer : self.answer tool reply (.pipelineGet currentKey prevKey) with
      | error e => exact h.moves rfl (fun j _ => ⟨rfl, id, fun _ => id⟩) trivial h.running h.invoked
      | ok counts =>
        have hread : self.readAt i = now := hown
        simp only [ToolLedger.note, toolProtocol, hread]
        split
        · exact h.moves rfl (fun j _ => ⟨rfl, List.mem_cons_of_mem i, fun _ => id⟩)
            (List.mem_cons_self (a := i)) h.running h.invoked
        · exact h.moves rfl (fun j _ => ⟨rfl, id, fun _ => id⟩) trivial h.running h.invoked
    | datetimeNow | service _ | pipelineIncr _ _ _ => exact hmay.elim
  | admitted =>
    rw [hi] at hmay hown
    cases o with
    | service o =>
      have ho : o.isToolHandler = true := hmay
      simp only [ToolLedger.note, ho, if_true]
      refine h.moves rfl (fun j hj => ⟨rfl, fun hwaiting => ?_, fun t ht => ?_⟩) trivial ?_ ?_
      · exact (List.mem_erase_of_ne hj).2 hwaiting
      · rcases List.mem_cons.1 ht with heq | ht
        · cases heq
          exact absurd rfl hj
        · exact ht
      · intro call hcall
        rcases List.mem_cons.1 hcall with rfl | hcall
        · exact Nat.le.refl
        · exact h.running call hcall
      · intro t ht
        rcases List.mem_cons.1 ht with rfl | ht
        · exact Nat.le.refl
        · exact h.invoked t ht
    | datetimeNow | pipelineGet _ _ | pipelineIncr _ _ _ => exact hmay.elim
  | invoked =>
    rw [hi] at hmay hown
    cases o with
    | datetimeNow =>
      refine h.moves rfl (fun j hj => ⟨Function.update_of_ne hj _ _, id, fun _ => id⟩) ?_ h.running
        h.invoked
      exact ⟨Nat.le.refl, fun t ht => h.running _ ht⟩
    | service _ | pipelineGet _ _ | pipelineIncr _ _ _ => exact hmay.elim
  | counting now =>
    rw [hi] at hmay hown
    cases o with
    | pipelineIncr currentKey prevKey seconds =>
      cases hanswer : self.answer tool reply (.pipelineIncr currentKey prevKey seconds) with
      | error e => exact h.moves rfl (fun j _ => ⟨rfl, id, fun _ => id⟩) trivial h.running h.invoked
      | ok results =>
        exact h.moves rfl (fun j _ => ⟨rfl, id, fun t => List.mem_of_mem_eraseP⟩) trivial
          (fun call hcall => h.running call (List.mem_of_mem_eraseP hcall)) h.invoked
    | datetimeNow | service _ | pipelineGet _ _ => exact hmay.elim

end InPhases

/-- A pipeline answers with its results exactly if Redis can be reached. -/
theorem pipeline_eq_ok {α : Type} {self : ToolLedger} {results answer : α} :
    self.pipeline results = .ok answer ↔ self.down = none ∧ answer = results := by
  unfold pipeline
  split
  · next e hdown => simp [hdown]
  · next hdown => simp [hdown, eq_comm]

/-- What a call changes: a reading of the clock, nothing, or what an admission, a handler or a count
does. -/
theorem note_cases (tool : LimitedTool) (self : ToolLedger) (i : Nat) (o : ToolCall)
    (reply : (o : Call) → o.Ans) :
    (∃ readAt, self.note tool i o (self.answer tool reply o) = { self with readAt }) ∨
    (∃ currentKey prevKey, o = .pipelineGet currentKey prevKey ∧
      self.answer tool reply (.pipelineGet currentKey prevKey) = .ok (Redis.get self.milliseconds
        currentKey self.store, Redis.get self.milliseconds prevKey self.store) ∧
      tool.Admits (Redis.get self.milliseconds currentKey self.store,
        Redis.get self.milliseconds prevKey self.store) (self.readAt i) ∧
      self.note tool i o (self.answer tool reply o) = self.admitting i) ∨
    (∃ currentKey prevKey seconds, o = .pipelineIncr currentKey prevKey seconds ∧
      self.note tool i o (self.answer tool reply o) = self.counting i currentKey seconds) ∨
    (∃ o', o = .service o' ∧ o'.isToolHandler = true ∧
      self.note tool i o (self.answer tool reply o) = self.invoking i) := by
  cases o with
  | datetimeNow => exact .inl ⟨_, rfl⟩
  | pipelineGet currentKey prevKey =>
    cases hanswer : self.answer tool reply (.pipelineGet currentKey prevKey) with
    | error e => exact .inl ⟨self.readAt, rfl⟩
    | ok counts =>
      obtain rfl := (pipeline_eq_ok.1 hanswer).2
      simp only [note]
      split
      · next hadmits => exact .inr (.inl ⟨currentKey, prevKey, rfl, hanswer, hadmits, rfl⟩)
      · exact .inl ⟨self.readAt, rfl⟩
  | pipelineIncr currentKey prevKey seconds =>
    cases hanswer : self.answer tool reply (.pipelineIncr currentKey prevKey seconds) with
    | error e => exact .inl ⟨self.readAt, rfl⟩
    | ok results => exact .inr (.inr (.inl ⟨currentKey, prevKey, seconds, rfl, rfl⟩))
  | service o' =>
    cases ho : o'.isToolHandler with
    | true =>
      refine .inr (.inr (.inr ⟨o', rfl, ho, ?_⟩))
      simp only [note, ho, if_true]
    | false =>
      refine .inl ⟨self.readAt, ?_⟩
      simp only [note, ho, Bool.false_eq_true, if_false]

variable {tool : LimitedTool} {self : ToolLedger} {phase : ToolPhase} {α : Type} {i : Nat} {o : ToolCall}

/-- A handler is invoked by a call that waits for it. -/
theorem mem_waiting (hphase : self.InPhase i phase) {o' : Call}
    (hmay : (toolProtocol tool α).may phase (.service o')) (ho : o'.isToolHandler = true) :
    i ∈ self.waiting := by
  cases phase with
  | admitted => exact hphase
  | idle => cases ho.symm.trans hmay
  | checking now | invoked | counting now => exact hmay.elim

/-- A call leaves room, if there was room where it is admitted. -/
theorem HasRoom.note {seconds : Nat} {limit : Int} (h : self.HasRoom seconds limit)
    (hphase : self.InPhase i phase) (hmay : (toolProtocol tool α).may phase o)
    (hroom : tool.AdmittedOnlyIf
      (fun ledger => (ledger.invokedIn seconds ledger.clock + ledger.waiting.length : Int) < limit) i o self)
    (reply : (o : Call) → o.Ans) :
    (self.note tool i o (self.answer tool reply o)).HasRoom seconds limit := by
  rcases note_cases tool self i o reply with ⟨readAt, hnote⟩ |
    ⟨currentKey, prevKey, rfl, hok, hadmits, hnote⟩ | ⟨currentKey, prevKey, seconds', rfl, hnote⟩ |
    ⟨o', rfl, ho, hnote⟩ <;> rw [hnote]
  · exact ⟨h.within, h.room⟩
  · exact h.admitting i (hroom _ hok hadmits)
  · exact ⟨h.within, h.room⟩
  · exact h.invoking (mem_waiting hphase hmay ho)

/-- A call keeps the bound, if there is room for all where it is admitted. -/
theorem Bounded.note (h : self.Bounded tool) (hphase : self.InPhase i phase)
    (hmay : (toolProtocol tool α).may phase o) (hroom : RoomForAll tool i o self)
    (reply : (o : Call) → o.Ans) : (self.note tool i o (self.answer tool reply o)).Bounded tool := by
  rcases note_cases tool self i o reply with ⟨readAt, hnote⟩ |
    ⟨currentKey, prevKey, rfl, hok, hadmits, hnote⟩ | ⟨currentKey, prevKey, seconds, rfl, hnote⟩ |
    ⟨o', rfl, ho, hnote⟩ <;> rw [hnote]
  · exact ⟨⟨h.within, h.room⟩, h.nonneg, h.stored, h.counted⟩
  · exact h.admitting i (hroom _ hok hadmits)
  · cases phase with
    | counting now =>
      obtain ⟨rfl, rfl⟩ := hmay
      exact h.counting hphase.1 hphase.2
    | idle | checking now | admitted | invoked => exact hmay.elim
  · exact h.invoking (mem_waiting hphase hmay ho)

/-- Grants are found as they are stored. -/
theorem answers_answer (tool : LimitedTool) (self : ToolLedger) (reply : (o : Call) → o.Ans)
    (o : ToolCall) : tool.Answers o (self.answer tool reply o) := by
  cases o with
  | service o =>
    cases o with
    | grantByTool agentVersionId toolName => exact rfl
    | _ => trivial
  | datetimeNow | pipelineGet _ _ | pipelineIncr _ _ _ => trivial

/-- While there is room for all calls that are under way, every command keeps the counters within
their limits. -/
theorem toolRules_advance (tool : LimitedTool) (α : Type) :
    (toolRules tool).Advance tool.Answers (fun _ => toolProtocol tool α)
      (fun phase ledger => ledger.InPhases phase ∧ ledger.Bounded tool) (RoomForAll tool) where
  answer reply i o ledger phase h hmay hroom :=
    ⟨answers_answer tool ledger reply o, h.1.note hmay reply, h.2.note (h.1.own i) hmay hroom reply⟩
  outside event ledger phase h := by
    cases event with
    | passes microseconds => exact ⟨h.1.later microseconds, h.2.later h.1.invoked microseconds⟩
    | redis down =>
      exact ⟨⟨h.1.own, h.1.running, h.1.invoked⟩,
        ⟨⟨h.2.within, h.2.room⟩, h.2.nonneg, h.2.stored, h.2.counted⟩⟩

end ToolLedger

namespace LimitedTool

/-- Calls that have not started; Redis has no counters. -/
def callPool (self : LimitedTool) (requests : List ToolRequest) (clock : Nat) :
    Pool ToolCall ToolCall.Ans (Except PyError ToolExecutionResult × Run) ToolLedger where
  threads := requests.map self.execute
  shared := { clock }

/-- In every schedule where a call is admitted only if there is room for all, no more handlers are
invoked in a window than the limit. -/
theorem invokedIn_le (tool : LimitedTool) (hlimit : 0 ≤ tool.limit) (requests : List ToolRequest)
    (hdecides : ∀ request ∈ requests, tool.Decides request) (clock : Nat)
    (schedule : List (Act ((o : Call) → o.Ans) ToolEvent))
    (hmeets : Pool.Meets (toolRules tool) (Pool.CallMeets (RoomForAll tool))
      (tool.callPool requests clock) schedule) (now : Time) :
    ((tool.callPool requests clock).run (toolRules tool) schedule).shared.invokedIn tool.seconds now ≤
      tool.limit := by
  have hstart : (tool.callPool requests clock).Following tool.Answers
      (fun _ => toolProtocol tool _)
      (fun phase ledger => ledger.InPhases phase ∧ ledger.Bounded tool) fun _ => .idle := by
    refine ⟨fun i q hq => ?_, ⟨fun i => trivial, nofun, nofun⟩, ⟨⟨fun now => hlimit, ?_⟩, nofun, nofun, ?_⟩⟩
    · rw [callPool, List.getElem?_map] at hq
      obtain ⟨request, hrequest, rfl⟩ := Option.map_eq_some_iff.1 hq
      exact follows_execute (hdecides request (List.mem_of_getElem? hrequest))
    · exact hlimit
    · exact Int.le_refl 0
  obtain ⟨phase, hrun⟩ := hstart.run (ToolLedger.toolRules_advance tool _) hmeets
  exact hrun.shared.2.within now

/-- A tool that may be called once a minute. -/
def oncePerMinute : LimitedTool where
  cel _ _ := none
  grants _ toolName := .ok (some (ToolGrant.sample toolName { maxCallsPerMinute := some 1 }))
  toolName := "t"
  action := "execute"
  tenantId := ⟨3⟩
  limit := 1
  window := "minute"

/-- A call of it. -/
def sampleRequest : ToolRequest where
  run := Run.sample .running []
  agentVersionId := ⟨4⟩
  inputData := .dict []

/-- The policy of the sample decides on the request. -/
theorem oncePerMinute_decides : oncePerMinute.Decides sampleRequest := by
  refine ⟨rfl, fun grant now hgrant => ?_⟩
  obtain rfl := Option.some.inj (Except.ok.inj hgrant)
  exact ⟨rfl, _, rfl, rfl, rfl⟩

/-- Two calls in one minute, one after the other, and a third two minutes later. -/
def callsOverMinutes : List (Act ((o : Call) → o.Ans) ToolEvent) :=
  List.replicate 7 (.thread 0 Call.quiet) ++ List.replicate 4 (.thread 1 Call.quiet) ++
    .outside (.passes 120000000) :: List.replicate 7 (.thread 2 Call.quiet)

/-- What they leave in the ledger. -/
def ledgerOverMinutes : ToolLedger :=
  ((oncePerMinute.callPool [sampleRequest, sampleRequest, sampleRequest] 0).run (toolRules oncePerMinute)
    callsOverMinutes).shared

/-- The first call is invoked and counted, the second is refused, and the third has a minute of its own. -/
theorem invokedIn_le_oncePerMinute :
    ledgerOverMinutes.invokedIn oncePerMinute.seconds 0 ≤ oncePerMinute.limit ∧
      ledgerOverMinutes.invokedIn oncePerMinute.seconds 120000000 ≤ oncePerMinute.limit := by
  have hdecides : ∀ request ∈ [sampleRequest, sampleRequest, sampleRequest], oncePerMinute.Decides request := by
    intro request hrequest
    have hsample : request = sampleRequest := by simpa using hrequest
    rw [hsample]
    exact oncePerMinute_decides
  have hwithin : ∀ now, ledgerOverMinutes.invokedIn oncePerMinute.seconds now ≤ oncePerMinute.limit := by
    refine invokedIn_le oncePerMinute (by decide) _ hdecides 0 _ ?_
    refine ⟨trivial, trivial, trivial, fun counts hcounts hadmits => ?_, trivial, trivial, trivial,
      trivial, trivial, trivial, fun counts hcounts hadmits => ?_, trivial,
      trivial, trivial, trivial, fun counts hcounts hadmits => ?_, trivial, trivial, trivial, trivial⟩
    · decide +kernel
    · -- the check of the second call finds the first counted
      obtain rfl := Except.ok.inj hcounts
      revert hadmits
      decide +kernel
    · decide +kernel
  exact ⟨hwithin 0, hwithin 120000000⟩

/-- Two calls are admitted by the only place: both are checked before either is counted. -/
theorem not_invokedIn_le : ¬∀ (tool : LimitedTool) (requests : List ToolRequest) (clock : Nat)
      (schedule : List (Act ((o : Call) → o.Ans) ToolEvent)) (now : Time),
    0 ≤ tool.limit → (∀ request ∈ requests, tool.Decides request) →
    ((tool.callPool requests clock).run (toolRules tool) schedule).shared.invokedIn tool.seconds now ≤
      tool.limit := by
  intro h
  let next (n i : Nat) : List (Act ((o : Call) → o.Ans) ToolEvent) :=
    List.replicate n (.thread i Call.quiet)
  have hbound := h oncePerMinute [sampleRequest, sampleRequest] 0
    (next 4 0 ++ next 4 1 ++ next 1 0 ++ next 1 1) 0 (by decide) fun request hrequest => by
      have hsample : request = sampleRequest := by simpa using hrequest
      rw [hsample]
      exact oncePerMinute_decides
  revert hbound
  decide +kernel

end LimitedTool

end AgentRuntime
