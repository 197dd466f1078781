import AgentRuntime.Python.Integers
import AgentRuntime.Security.RedisRateLimiter
import AgentRuntime.Services.ToolExecution
import Mathlib.Tactic.Linarith
import Mathlib.Tactic.Ring

/-!
# The counters of different tools

`execute_tool` (`app/application/services/tool_execution_service.py`) counts the calls of a tool under the
text `tool:{tool_name}:{action}:{tenant}`, and `RedisRateLimiter`
(`app/infrastructure/security/rate_limiter.py`) appends the start of the window to it, but not its length. So
a colon in a name and the start of two windows of different lengths make one counter of two.
-/

/-- Texts that end in a row without the separator. -/
theorem List.append_cons_inj_of_notMem_right {α : Type} {l l' r r' : List α} {c : α} (h : c ∉ r) (h' : c ∉ r') :
    l ++ c :: r = l' ++ c :: r' ↔ l = l' ∧ r = r' := by
  refine ⟨fun heq => ?_, fun ⟨hl, hr⟩ => by rw [hl, hr]⟩
  rcases List.append_eq_append_iff.1 heq with ⟨w, rfl, hw⟩ | ⟨w, rfl, hw⟩
  · cases w with
    | nil => exact ⟨(List.append_nil _).symm, (List.cons.inj hw).2⟩
    | cons d w =>
      rw [List.cons_append, List.cons.injEq] at hw
      exact absurd (hw.2 ▸ List.mem_append_right w List.mem_cons_self) h
  · cases w with
    | nil => exact ⟨List.append_nil _, (List.cons.inj hw).2.symm⟩
    | cons d w =>
      rw [List.cons_append, List.cons.injEq] at hw
      exact absurd (hw.2 ▸ List.mem_append_right w List.mem_cons_self) h'

namespace AgentRuntime

open Interaction

/-- An identifier is written with 36 characters. -/
theorem UUID.length_str (self : UUID) : self.str.toList.length = 36 := by
  unfold str
  simp only [String.toList_ofList, List.length_append, List.length_cons, List.length_take, List.length_drop,
    List.length_replicate]
  omega

/-- The text of an integer has no colon. -/
theorem colon_notMem_toString (n : Int) : ':' ∉ (toString n).toList := by
  have hdigits (m : Nat) : ':' ∉ Nat.toDigits 10 m := fun h =>
    absurd (Nat.isDigit_of_mem_toDigits (by decide) (by decide) h) (by decide)
  cases n with
  | ofNat n => exact (toList_toString_natCast n).symm ▸ hdigits n
  | negSucc n =>
    rw [toList_toString_negSucc, List.mem_cons]
    exact fun h => h.elim (by decide) (hdigits (n + 1))

/-- A counter's key tells the key that it is of and the start of its window. -/
theorem RedisRateLimiter.counterKey_inj {key key' : String} {start start' : Int} :
    counterKey key start = counterKey key' start' ↔ key = key' ∧ start = start' := by
  rw [← String.toList_inj]
  simp only [counterKey, String.toList_append, List.append_assoc, List.append_cancel_left_eq]
  change key.toList ++ ':' :: (toString start).toList = key'.toList ++ ':' :: (toString start').toList ↔ _
  rw [List.append_cons_inj_of_notMem_right (colon_notMem_toString start) (colon_notMem_toString start'),
    String.toList_inj, String.toList_inj, toString_int_inj]

/-- A rate limit key tells the tenant, and the tool and the action as one text. -/
theorem ToolExecutionService.rateLimitKey_inj {toolName otherTool action otherAction : String}
    {tenantId tenantId' : UUID} :
    rateLimitKey toolName action tenantId = rateLimitKey otherTool otherAction tenantId' ↔
      tenantId.str = tenantId'.str ∧ s!"{toolName}:{action}" = s!"{otherTool}:{otherAction}" := by
  have hkey (toolName action : String) (tenantId : UUID) : (rateLimitKey toolName action tenantId).toList =
      ("tool:".toList ++ (s!"{toolName}:{action}".toList ++ [':'])) ++ tenantId.str.toList := by
    simp [rateLimitKey, toString]
  refine ⟨fun h => ?_, fun h => ?_⟩
  · have hlist := congrArg String.toList h
    rw [hkey, hkey] at hlist
    obtain ⟨hnames, htenant⟩ := List.append_inj' hlist (by rw [UUID.length_str, UUID.length_str])
    rw [List.append_cancel_left_eq, List.append_cancel_right_eq] at hnames
    exact ⟨String.toList_inj.1 htenant, String.toList_inj.1 hnames⟩
  · rw [← String.toList_inj, hkey, hkey, h.1, h.2]

namespace RedisRateLimiter

/-- The part of the window before that still counts. -/
theorem exists_weightedCount_eq (now : Time) {windowSeconds : Nat} (h : 0 < windowSeconds) :
    ∃ left : Nat, 0 < left ∧ left ≤ windowSeconds * Time.perSecond ∧
      ∀ currentCount prevCount : Int, 0 ≤ prevCount → weightedCount currentCount prevCount now windowSeconds =
        currentCount + prevCount * left / (windowSeconds * Time.perSecond : Nat) := by
  have hend := lt_perSecond now h
  have hstart : getWindowStart now windowSeconds * Time.perSecond ≤ now :=
    (Nat.le_div_iff_mul_le (by decide)).1 (getWindowStart_le now windowSeconds)
  rw [Nat.add_mul] at hend
  set start := getWindowStart now windowSeconds with hstart'
  refine ⟨windowSeconds * Time.perSecond - (now - start * Time.perSecond), by omega, Nat.sub_le _ _,
    fun currentCount prevCount hprev => ?_⟩
  have hleft : ((windowSeconds * Time.perSecond - (now - start * Time.perSecond) : Nat) : Int) =
      windowSeconds * Time.perSecond - (now - start * Time.perSecond) := by
    omega
  rw [weightedCount, ← hstart', ← hleft, Int.tdiv_eq_ediv_of_nonneg (Int.mul_nonneg hprev (Int.natCast_nonneg _))]
  rfl

/-- The weighted count is at most the sum of the two counts. -/
theorem weightedCount_le {currentCount prevCount : Int} (hprev : 0 ≤ prevCount) (now : Time)
    {windowSeconds : Nat} (h : 0 < windowSeconds) :
    weightedCount currentCount prevCount now windowSeconds ≤ currentCount + prevCount := by
  obtain ⟨left, -, hle, hcount⟩ := exists_weightedCount_eq now h
  have hpart : prevCount * left / (windowSeconds * Time.perSecond : Nat) ≤ prevCount := by
    refine Int.ediv_le_of_le_mul (by exact_mod_cast Nat.mul_pos h (by decide)) ?_
    exact Int.mul_le_mul_of_nonneg_left (by exact_mod_cast hle) hprev
  rw [hcount _ _ hprev]
  exact Int.add_le_add_left hpart _

end RedisRateLimiter

open RedisRateLimiter

/-! ## Counters -/

/-- What the calls that one counter counts have in common, and the scope of its windows. -/
structure ToolCounter where
  tenantId : UUID
  toolName : String
  action : String
  scope : String
  deriving DecidableEq

/-- The clocks of the application, in microseconds, and of Redis, in milliseconds. -/
structure Instant where
  now : Time
  clock : Nat

/-- Redis and the clock at an instant. -/
def Instant.env (instant : Instant) : Env ToolCall ToolCall.Ans (Redis.Store Int)
  | .datetimeNow, store => (instant.now, store)
  | .pipelineGet currentKey prevKey, store =>
    (.ok (Redis.get instant.clock currentKey store, Redis.get instant.clock prevKey store), store)
  | .pipelineIncr currentKey prevKey seconds, store =>
    let (count, store) := Redis.incrBy instant.clock currentKey 1 store
    let store := Redis.expire instant.clock currentKey seconds store
    (.ok (count, true, Redis.get instant.clock prevKey store), store)
  | .service o, store => (o.quiet, store)

namespace ToolCounter

/-- The rate limit key. -/
def key (self : ToolCounter) : String :=
  ToolExecutionService.rateLimitKey self.toolName self.action self.tenantId

/-- The length of the windows. -/
def seconds (self : ToolCounter) : Nat := windowToSeconds self.scope

/-- The key that an increment counts under. -/
def countedKey (self : ToolCounter) (now : Time) : String := currentKey self.key now self.seconds

/-- `increment`. -/
def incremented (self : ToolCounter) (store : Redis.Store Int) (instant : Instant) : Redis.Store Int :=
  (((RedisRateLimiter.increment self.key self.scope).on ()).exec instant.env store).state

/-- The count that `check_limit` compares with its limit. -/
def seen (self : ToolCounter) (store : Redis.Store Int) (instant : Instant) : Option (Except PyError Int) :=
  (((getCurrentCount self.key self.scope).on ()).exec instant.env store).result.map Prod.fst

def afterIncrements (self : ToolCounter) (instants : List Instant) (store : Redis.Store Int) : Redis.Store Int :=
  instants.foldl self.incremented store

/-- The counters of a store are such as increments leave them: positive, and with an expiry. -/
def Counters (store : Redis.Store Int) : Prop :=
  ∀ key entry, store key = some entry → 0 < entry.value ∧ entry.expireAt.isSome = true

/-- The increments of `other` do not change what the check sees, whatever else was counted before. -/
def Unaffected (self other : ToolCounter) (increments : List Instant) (check : Instant) : Prop :=
  ∀ store, Counters store → self.seen (other.afterIncrements increments store) check = self.seen store check

/-! ## One call -/

section
variable {self other : ToolCounter} {store : Redis.Store Int} {instant : Instant} {key : String}

/-- A counter's window has a length. -/
theorem seconds_pos (self : ToolCounter) : 0 < self.seconds := windowToSeconds_pos self.scope

/-- The check sees the counts of its window and of the one before. -/
theorem seen_eq : self.seen store instant = some (.ok (weightedCount
    (Redis.counter instant.clock (self.countedKey instant.now) store)
    (Redis.counter instant.clock (prevKey self.key instant.now self.seconds) store) instant.now
      self.seconds)) := by
  simp only [seen, getCurrentCount, Proc.on_bind, Proc.on_call, Proc.on_tryCall, Proc.on_pure, Prog.call_bind,
    Prog.ret_bind, Proc.thenOn_ok, Prog.exec_call, Prog.exec_ret, Instant.env, id, Option.map_some, Redis.counter]
  rfl

/-- The pipeline increments the counter of the window and lets it live for two windows. -/
theorem incremented_eq : self.incremented store instant =
    Redis.expire instant.clock (self.countedKey instant.now) (self.seconds * 2)
      (Redis.incrBy instant.clock (self.countedKey instant.now) 1 store).2 := by
  simp only [incremented, RedisRateLimiter.increment, Proc.on_bind, Proc.on_call, Proc.on_tryCall, Proc.on_pure,
    Prog.call_bind, Prog.ret_bind, Proc.thenOn_ok, Prog.exec_call, Prog.exec_ret, Instant.env, id]
  rfl

/-- An increment counts under its key. -/
theorem incremented_of_ne (h : key ≠ self.countedKey instant.now) :
    self.incremented store instant key = store key := by
  rw [incremented_eq, Redis.expire_of_ne h, Redis.incrBy_of_ne h]

/-- Its entry has one more, and the new expiry. -/
theorem incremented_self : self.incremented store instant (self.countedKey instant.now) =
    some ⟨Redis.counter instant.clock (self.countedKey instant.now) store + 1,
      some (instant.clock + (self.seconds * 2 : Int).toNat * 1000)⟩ := by
  have hpos : (0 : Int) < self.seconds * 2 := by
    have := self.seconds_pos
    omega
  rw [incremented_eq, Redis.expire_incrBy hpos]

/-! ## Runs of increments -/

/-- A key that no increment counts under is left alone. -/
theorem afterIncrements_of_forall_ne {instants : List Instant} (h : ∀ m ∈ instants, key ≠ self.countedKey m.now) :
    self.afterIncrements instants store key = store key := by
  induction instants generalizing store with
  | nil => rfl
  | cons m instants ih =>
    obtain ⟨hm, hmoments⟩ := List.forall_mem_cons.1 h
    change self.afterIncrements instants (self.incremented store m) key = store key
    rw [ih hmoments, incremented_of_ne hm]

/-- What holds of a counter that an increment creates, and of one that is incremented or left alone if it held
before, holds after a run; `n` counts the increments. -/
theorem afterIncrements_holds (self : ToolCounter) {Q : Nat → Int → Prop} (hnew : ∀ n, Q (n + 1) 1)
    (hstep : ∀ n x, Q n x → Q (n + 1) (x + 1)) (hmono : ∀ n x, Q n x → Q (n + 1) x) {n : Nat}
    (h : ∀ entry, store key = some entry → Q n entry.value) (instants : List Instant) :
    ∀ entry, self.afterIncrements instants store key = some entry → Q (n + instants.length) entry.value := by
  induction instants generalizing store n with
  | nil => exact h
  | cons m instants ih =>
    have hm : ∀ entry, self.incremented store m key = some entry → Q (n + 1) entry.value := by
      intro entry hentry
      by_cases hkey : key = self.countedKey m.now
      · subst hkey
        rw [incremented_self] at hentry
        obtain rfl := Option.some.inj hentry
        change Q (n + 1) (Redis.counter m.clock (self.countedKey m.now) store + 1)
        rw [Redis.counter_eq]
        cases hlookup : Redis.lookup m.clock (self.countedKey m.now) store with
        | none => exact hnew n
        | some entry => exact hstep n _ (h entry (Redis.lookup_eq_some.1 hlookup).1)
      · rw [incremented_of_ne hkey] at hentry
        exact hmono n _ (h entry hentry)
    have hlength : n + (m :: instants).length = n + 1 + instants.length := by rw [List.length_cons]; omega
    rw [hlength]
    exact ih hm

/-- A counter that is not there counts no more than the increments. -/
theorem afterIncrements_le (self : ToolCounter) (h : store key = none) (instants : List Instant) :
    ∀ entry, self.afterIncrements instants store key = some entry →
      0 ≤ entry.value ∧ entry.value ≤ instants.length := by
  have hstart : ∀ entry, store key = some entry → 0 ≤ entry.value ∧ entry.value ≤ (0 : Nat) := by
    intro entry hentry
    rw [h] at hentry
    cases hentry
  have hrun := self.afterIncrements_holds (Q := fun n x => 0 ≤ x ∧ x ≤ n) (fun n => by omega)
    (fun n x hx => by omega) (fun n x hx => by omega) hstart instants
  simpa using hrun

/-- A counter that an increment counts under is higher afterwards, or counts no more than the increments, because
it has expired in between. -/
theorem afterIncrements_moved (self : ToolCounter) {v : Int} {t : Nat} (h : store key = some ⟨v, some t⟩)
    {instants : List Instant} (halive : ∀ m ∈ instants, m.clock ≤ t)
    (hcounted : ∃ m ∈ instants, self.countedKey m.now = key) :
    ∀ entry, self.afterIncrements instants store key = some entry →
      v < entry.value ∨ 0 ≤ entry.value ∧ entry.value ≤ instants.length := by
  induction instants generalizing store with
  | nil =>
    obtain ⟨m, hm, -⟩ := hcounted
    cases hm
  | cons m instants ih =>
    obtain ⟨hm, hmoments⟩ := List.forall_mem_cons.1 halive
    change ∀ entry, self.afterIncrements instants (self.incremented store m) key = some entry → _
    by_cases hkey : key = self.countedKey m.now
    · have hlookup : Redis.lookup m.clock key store = some ⟨v, some t⟩ :=
        Redis.lookup_eq_some.2 ⟨h, fun t' ht' => Option.some.inj ht' ▸ hm⟩
      have hfirst : ∀ entry, self.incremented store m key = some entry →
          v < entry.value ∨ 0 ≤ entry.value ∧ entry.value ≤ (0 : Nat) := by
        intro entry hentry
        subst hkey
        rw [incremented_self, Redis.counter_eq, hlookup] at hentry
        obtain rfl := Option.some.inj hentry
        exact .inl (Int.lt_succ v)
      have hrun := self.afterIncrements_holds (Q := fun n x => v < x ∨ 0 ≤ x ∧ x ≤ n) (fun n => by omega)
        (fun n x hx => by omega) (fun n x hx => by omega) hfirst instants
      intro entry hentry
      have hmoved := hrun entry hentry
      rw [List.length_cons]
      omega
    · have hcounted' : ∃ m ∈ instants, self.countedKey m.now = key := by
        obtain ⟨m', hm', hkey'⟩ := hcounted
        rcases List.mem_cons.1 hm' with rfl | hm'
        · exact absurd hkey'.symm hkey
        · exact ⟨m', hm', hkey'⟩
      intro entry hentry
      have hmoved := ih ((incremented_of_ne hkey).trans h) hmoments hcounted' entry hentry
      rw [List.length_cons]
      omega

/-- What holds of nothing and of what is stored holds of a counter. -/
theorem holds_counter {Q : Int → Prop} (hzero : Q 0) (h : ∀ entry, store key = some entry → Q entry.value)
    (clock : Nat) : Q (Redis.counter clock key store) := by
  rw [Redis.counter_eq]
  cases hlookup : Redis.lookup clock key store with
  | none => exact hzero
  | some entry => exact h entry (Redis.lookup_eq_some.1 hlookup).1

end

/-! ## What a check sees of others -/

section
variable {self other : ToolCounter} {increments : List Instant} {check : Instant}

/-- The key that the check reads for the window before. -/
def priorKey (self : ToolCounter) (now : Time) : String := prevKey self.key now self.seconds

/-- The window before has another key. -/
theorem countedKey_ne_priorKey (self : ToolCounter) (now : Time) : self.countedKey now ≠ self.priorKey now := by
  intro h
  have hstart := (counterKey_inj.1 h).2
  have := self.seconds_pos
  omega

/-- A store with one counter. -/
def single (key : String) (v : Int) (t : Nat) : Redis.Store Int :=
  Function.update (fun _ => none) key (some ⟨v, some t⟩)

/-- The sample's key has its entry. -/
@[simp] theorem single_self (key : String) (v : Int) (t : Nat) : single key v t key = some ⟨v, some t⟩ :=
  Function.update_self ..

/-- No other key has one. -/
theorem single_of_ne {key key' : String} (h : key' ≠ key) (v : Int) (t : Nat) : single key v t key' = none :=
  Function.update_of_ne h ..

/-- Its count is positive. -/
theorem counters_single (key : String) {v : Int} (hv : 0 < v) (t : Nat) : Counters (single key v t) := by
  intro key' entry hentry
  by_cases hkey : key' = key
  · subst hkey
    rw [single_self] at hentry
    obtain rfl := Option.some.inj hentry
    exact ⟨hv, rfl⟩
  · rw [single_of_ne hkey] at hentry
    cases hentry

/-- The counter has its value until it expires. -/
theorem counter_single {key : String} {v : Int} {t clock : Nat} (h : clock ≤ t) :
    Redis.counter clock key (single key v t) = v := by
  rw [Redis.counter_eq, Redis.lookup_eq_some.2 ⟨single_self key v t, fun t' ht' => Option.some.inj ht' ▸ h⟩]
  rfl

/-- Other counters are zero. -/
theorem counter_single_of_ne {key key' : String} (h : key' ≠ key) (v : Int) (t clock : Nat) :
    Redis.counter clock key' (single key v t) = 0 :=
  holds_counter (Q := (· = 0)) rfl (fun entry hentry => by rw [single_of_ne h] at hentry; cases hentry) clock

/-- The clocks of a run have a bound. -/
theorem exists_clock_le (check : Instant) (increments : List Instant) :
    ∃ t, check.clock ≤ t ∧ ∀ m ∈ increments, m.clock ≤ t := by
  induction increments with
  | nil => exact ⟨check.clock, Nat.le.refl, fun m hm => by cases hm⟩
  | cons m increments ih =>
    obtain ⟨t, ht, hincrements⟩ := ih
    exact ⟨max m.clock t, by omega, List.forall_mem_cons.2 ⟨by omega, fun m' hm' => by
      have := hincrements m' hm'
      omega⟩⟩

/-- Increments under other keys than the two that the check reads. -/
theorem unaffected_of_forall_ne (h : ∀ m ∈ increments,
    other.countedKey m.now ≠ self.countedKey check.now ∧ other.countedKey m.now ≠ self.priorKey check.now) :
    self.Unaffected other increments check := by
  intro store _
  have hcurrent : other.afterIncrements increments store (self.countedKey check.now) =
      store (self.countedKey check.now) := afterIncrements_of_forall_ne fun m hm => (h m hm).1.symm
  have hprior : other.afterIncrements increments store (self.priorKey check.now) =
      store (self.priorKey check.now) := afterIncrements_of_forall_ne fun m hm => (h m hm).2.symm
  unfold priorKey at hprior
  rw [seen_eq, seen_eq, Redis.counter_congr hcurrent, Redis.counter_congr hprior]

/-- Increments under the key of the check's window: of a counter that is higher than they can count to. -/
theorem not_unaffected_of_countedKey (h : ∃ m ∈ increments, other.countedKey m.now = self.countedKey check.now) :
    ¬self.Unaffected other increments check := by
  intro hunaffected
  obtain ⟨t, hcheck, halive⟩ := exists_clock_le check increments
  have hne := (self.countedKey_ne_priorKey check.now).symm
  set v : Int := 2 * increments.length + 1 with hv
  have hsame := hunaffected _ (counters_single (self.countedKey check.now) (show 0 < v by omega) t)
  rw [seen_eq, seen_eq, counter_single hcheck, Option.some.injEq, Except.ok.injEq] at hsame
  have hprior₀ := counter_single_of_ne hne v t check.clock
  unfold priorKey at hprior₀
  rw [hprior₀] at hsame
  have hcurrent := holds_counter (Q := fun x => v < x ∨ 0 ≤ x ∧ x ≤ increments.length) (by omega)
    (other.afterIncrements_moved (single_self (self.countedKey check.now) v t) halive h) check.clock
  have hprior := holds_counter (Q := fun x => 0 ≤ x ∧ x ≤ increments.length) (by omega)
    (other.afterIncrements_le (single_of_ne hne v t) increments) check.clock
  unfold priorKey at hprior
  have hbefore : v ≤ weightedCount v 0 check.now self.seconds ∧ weightedCount v 0 check.now self.seconds ≤ v + 0 :=
    ⟨le_weightedCount le_rfl check.now self.seconds_pos, weightedCount_le le_rfl check.now self.seconds_pos⟩
  rw [← hsame] at hbefore
  have hlower := hbefore.2.trans' (le_weightedCount hprior.1 check.now self.seconds_pos)
  have hupper := hbefore.1.trans (weightedCount_le hprior.1 check.now self.seconds_pos)
  omega

/-- The part of a number that is one below a multiple is higher than `n`, and lower than that of a higher
number. -/
theorem part_bounds {n whole left : Nat} (hpos : 0 < left) (hle : left ≤ whole) :
    (n : Int) < (((n + 2 : Nat) : Int) * whole - 1) * left / whole ∧ ∀ p, ((n + 2 : Nat) : Int) * whole - 1 < p →
      (((n + 2 : Nat) : Int) * whole - 1) * left / whole < p * left / whole := by
  have hwhole : (0 : Int) < whole := by omega
  have hprod : (((n + 2 : Nat) : Int) * whole - 1) * left = (n + 2 : Nat) * left * whole - left := by ring
  rw [hprod]
  constructor
  · refine Int.lt_of_add_one_le ((Int.le_ediv_iff_mul_le hwhole).2 ?_)
    have hleft : ((n : Int) + 2) * whole * 1 ≤ (n + 2) * whole * left :=
      Int.mul_le_mul_of_nonneg_left (by omega) (Int.mul_nonneg (by omega) (by omega))
    have hle' : (left : Int) ≤ whole := by exact_mod_cast hle
    push_cast
    linarith
  · intro p hp
    have hpart : ((n + 2 : Nat) : Int) * left ≤ p * left / whole := by
      refine (Int.le_ediv_iff_mul_le hwhole).2 ?_
      have hmul : ((n + 2 : Nat) : Int) * whole * left ≤ p * left :=
        Int.mul_le_mul_of_nonneg_right (by omega) (by omega)
      linarith
    refine (Int.ediv_lt_of_lt_mul hwhole ?_).trans_le hpart
    omega

/-- Increments under the key of the window before: of a counter which, with one more, is a multiple of the
window's length. -/
theorem not_unaffected_of_priorKey
    (hcurrent : ∀ m ∈ increments, other.countedKey m.now ≠ self.countedKey check.now)
    (h : ∃ m ∈ increments, other.countedKey m.now = self.priorKey check.now) :
    ¬self.Unaffected other increments check := by
  intro hunaffected
  obtain ⟨t, hcheck, halive⟩ := exists_clock_le check increments
  obtain ⟨left, hpos, hleft, hcount⟩ := exists_weightedCount_eq check.now self.seconds_pos
  set whole : Nat := self.seconds * Time.perSecond
  set v : Int := (increments.length + 2 : Nat) * whole - 1 with hv
  obtain ⟨hfew, hhigher⟩ : increments.length < v * left / whole ∧
      ∀ p, v < p → v * left / whole < p * left / whole := part_bounds hpos hleft
  have hvpos : 0 < v := by
    have hwhole : (1 : Int) ≤ whole := by omega
    push_cast at hv
    nlinarith
  have hne := self.countedKey_ne_priorKey check.now
  have hsame := hunaffected _ (counters_single (self.priorKey check.now) hvpos t)
  have hcurrent₀ := counter_single_of_ne hne v t check.clock
  have hcurrentAfter : Redis.counter check.clock (self.countedKey check.now)
      (other.afterIncrements increments (single (self.priorKey check.now) v t)) = 0 :=
    (Redis.counter_congr (afterIncrements_of_forall_ne fun m hm => (hcurrent m hm).symm)).trans hcurrent₀
  have hprior₀ : Redis.counter check.clock (self.priorKey check.now) (single (self.priorKey check.now) v t) = v :=
    counter_single hcheck
  have hprior := holds_counter (Q := fun x => v < x ∨ 0 ≤ x ∧ x ≤ increments.length) (by omega)
    (other.afterIncrements_moved (single_self (self.priorKey check.now) v t) halive h) check.clock
  have hseen (store : Redis.Store Int) : self.seen store check = some (.ok (weightedCount
      (Redis.counter check.clock (self.countedKey check.now) store)
      (Redis.counter check.clock (self.priorKey check.now) store) check.now self.seconds)) := seen_eq
  rw [hseen, hseen, hcurrent₀, hcurrentAfter, hprior₀, Option.some.injEq, Except.ok.injEq, hcount _ _ hvpos.le]
    at hsame
  rcases hprior with hmore | ⟨hnonneg, hcounted⟩
  · rw [hcount _ _ (hvpos.trans hmore).le] at hsame
    have hlt := hhigher _ hmore
    omega
  · have hpart : weightedCount 0 _ check.now self.seconds ≤ 0 + _ :=
      weightedCount_le hnonneg check.now self.seconds_pos
    omega

end

/-- The increments of one tuple change nothing that the checks of the other see exactly if the tenants differ, or
the tools and actions do as one text, or none of the increments is in a window that starts with the one of the
check or with the one before it. -/
theorem unaffected_iff (self other : ToolCounter) (increments : List Instant) (check : Instant) :
    self.Unaffected other increments check ↔
      self.tenantId.str ≠ other.tenantId.str ∨
        s!"{self.toolName}:{self.action}" ≠ s!"{other.toolName}:{other.action}" ∨
        ∀ m ∈ increments, (getWindowStart m.now other.seconds : Int) ≠ getWindowStart check.now self.seconds ∧
          (getWindowStart m.now other.seconds : Int) ≠ getWindowStart check.now self.seconds - self.seconds := by
  have hkeys : self.key = other.key ↔ self.tenantId.str = other.tenantId.str ∧
      s!"{self.toolName}:{self.action}" = s!"{other.toolName}:{other.action}" :=
    ToolExecutionService.rateLimitKey_inj
  have hcounted (m : Instant) : other.countedKey m.now = self.countedKey check.now ↔ other.key = self.key ∧
      (getWindowStart m.now other.seconds : Int) = getWindowStart check.now self.seconds := counterKey_inj
  have hprior (m : Instant) : other.countedKey m.now = self.priorKey check.now ↔ other.key = self.key ∧
      (getWindowStart m.now other.seconds : Int) = getWindowStart check.now self.seconds - self.seconds :=
    counterKey_inj
  rw [← or_assoc, ← not_and_or, ← hkeys]
  constructor
  · intro h
    by_cases hkey : self.key = other.key
    · refine .inr ?_
      by_contra hread
      have hnone : ∀ m ∈ increments, other.countedKey m.now ≠ self.countedKey check.now := fun m hm heq =>
        not_unaffected_of_countedKey ⟨m, hm, heq⟩ h
      push Not at hread
      obtain ⟨m, hm, hstart⟩ := hread
      refine not_unaffected_of_priorKey hnone ⟨m, hm, (hprior m).2 ⟨hkey.symm, hstart fun heq => ?_⟩⟩ h
      exact hnone m hm ((hcounted m).2 ⟨hkey.symm, heq⟩)
    · exact .inl hkey
  · intro h
    refine unaffected_of_forall_ne fun m hm => ?_
    rw [Ne, Ne, hcounted, hprior]
    rcases h with hkey | hstarts
    · exact ⟨fun h => hkey h.1.symm, fun h => hkey h.1.symm⟩
    · exact ⟨fun h => (hstarts m hm).1 h.2, fun h => (hstarts m hm).2 h.2⟩

/-- One o'clock. -/
def oneOClock : Instant := ⟨3600000000, 3600000⟩

/-- A colon in a name makes one counter of two tools, and a minute and an hour that begin together have one
counter. -/
theorem not_unaffected :
    (¬∀ (self other : ToolCounter) (increments : List Instant) (check : Instant), self ≠ other →
      self.Unaffected other increments check) ∧
    ¬Unaffected ⟨⟨1⟩, "a", "c", "hour"⟩ ⟨⟨1⟩, "a", "c", "minute"⟩ [oneOClock] oneOClock := by
  refine ⟨fun h => ?_, fun h => ?_⟩
  · have hsame := h ⟨⟨1⟩, "a:b", "c", "minute"⟩ ⟨⟨1⟩, "a", "b:c", "minute"⟩ [oneOClock] oneOClock (by decide)
      (fun _ => none) fun _ _ hentry => by cases hentry
    revert hsame
    decide +kernel
  · have hsame := h (fun _ => none) fun _ _ hentry => by cases hentry
    revert hsame
    decide +kernel

end ToolCounter

end AgentRuntime
