import AgentRuntime.Interaction.History

/-!
# A listener of a channel

A listener is sent what is published on its channel from the moment that it listens until it ends. It reads its
messages one by one, and does with each what `handle` says: it hands on a value, passes over the message, or
gives up.

`exists_read` says what it has handed on: the values of the first messages that it heard, in the order in which
they were published; while it listens, the others are still waiting to be read. A listener ends only if it is
stopped or a message makes it give up (`ended_cases`).
-/

namespace Interaction

/-- What a listener does with a message. -/
inductive Handled (V : Type) where
  | emit (v : V)
  | skip
  | giveUp
  deriving DecidableEq

/-- The value that is handed on. -/
def Handled.value? {V : Type} : Handled V → Option V
  | emit v => some v
  | skip | giveUp => none

/-- A listener, with the messages that are waiting to be read. -/
inductive Listener (M : Type) where
  | idle
  | listening (inbox : List M)
  | ended

namespace Listener

variable {M V : Type}

/-- What happens to a listener. It may be greeted when it begins to listen. -/
inductive Event (M : Type) where
  | start (greeting : Option M)
  | deliver (m : M)
  | read
  | stop

/-- The messages that are waiting. -/
def unread : Listener M → List M
  | listening inbox => inbox
  | idle | ended => []

variable (handle : M → Handled V)

/-- The listener after an event. -/
def step : Event M → Listener M → Listener M
  | .start greeting, idle => listening greeting.toList
  | .deliver m, listening inbox => listening (inbox ++ [m])
  | .read, listening (m :: inbox) =>
    match handle m with
    | .giveUp => ended
    | .emit _ | .skip => listening inbox
  | .stop, _ => ended
  | .start _, listener | .deliver _, listener | .read, listener => listener

/-- The message that comes to its inbox. -/
def heard : Event M → Listener M → Option M
  | .start greeting, idle => greeting
  | .deliver m, listening _ => some m
  | _, _ => none

/-- The value that it hands on. -/
def emitted : Event M → Listener M → Option V
  | .read, listening (m :: _) => (handle m).value?
  | _, _ => none

variable {handle}

/-- A listener that has ended takes no event. -/
@[simp] theorem step_ended (event : Event M) : step handle event ended = ended := by cases event <;> rfl

/-- It stays ended. -/
@[simp] theorem after_ended (events : List (Event M)) : after (step handle) ended events = ended := by
  induction events with
  | nil => rfl
  | cons event events ih => rw [after_cons, step_ended, ih]

/-- Of a listener that has ended nothing is observed that only a listener which has not ended does. -/
theorem observed_ended {E : Type} {observe : Event M → Listener M → Option E}
    (hnone : ∀ event, observe event ended = none) (events : List (Event M)) :
    observed (step handle) observe ended events = [] := by
  induction events with
  | nil => rfl
  | cons event events ih => rw [observed, step_ended, ih, hnone event, Option.toList_none, List.append_nil]

/-- It hears nothing. -/
theorem heard_ended_eq_none (event : Event M) : heard event ended = none := by cases event <;> rfl

/-- Nor does it hand on anything. -/
theorem emitted_ended_eq_none (event : Event M) : emitted handle event ended = none := by cases event <;> rfl

/-- Of what was waiting and what was heard, the first messages have been read, and the others are waiting if it
still listens. What was handed on is what the messages carry that were read. -/
def Accounts (handle : M → Handled V) (listener : Listener M) (events : List (Event M)) : Prop :=
  ∃ read rest, listener.unread ++ observed (step handle) heard listener events = read ++ rest ∧
    observed (step handle) (emitted handle) listener events = read.filterMap (fun m => (handle m).value?) ∧
    ∀ inbox, after (step handle) listener events = listening inbox → rest = inbox

/-- What it accounts for is nothing. -/
theorem accounts_ended (events : List (Event M)) : Accounts handle ended events := by
  refine ⟨[], [], ?_, observed_ended emitted_ended_eq_none events, fun inbox h => ?_⟩
  · rw [observed_ended heard_ended_eq_none]
    rfl
  · rw [after_ended] at h
    cases h

/-- A message is read. -/
theorem accounts_read {m : M} {inbox : List M} {events : List (Event M)}
    (h : Accounts handle (step handle .read (listening (m :: inbox))) events) :
    Accounts handle (listening (m :: inbox)) (.read :: events) := by
  -- a listener that goes on has read `m` before what it reads then
  have hgoesOn (hstep : step handle .read (listening (m :: inbox)) = listening inbox) :
      Accounts handle (listening (m :: inbox)) (.read :: events) := by
    rw [hstep] at h
    obtain ⟨read, rest, hheard, hemitted, hrest⟩ := h
    refine ⟨m :: read, rest, ?_, ?_, ?_⟩
    · rw [observed, hstep]
      exact congrArg (m :: ·) hheard
    · rw [observed, hstep, hemitted, List.filterMap_cons]
      cases hvalue : (handle m).value? with
      | none => simp [emitted, hvalue]
      | some v => simp [emitted, hvalue]
    · rw [after_cons, hstep]
      exact hrest
  cases hhandle : handle m with
  | emit v => exact hgoesOn (by rw [step, hhandle])
  | skip => exact hgoesOn (by rw [step, hhandle])
  | giveUp =>
    have hstep : step handle .read (listening (m :: inbox)) = ended := by rw [step, hhandle]
    refine ⟨[m], inbox, ?_, ?_, fun inbox' hafter => ?_⟩
    · rw [observed, hstep, observed_ended heard_ended_eq_none]
      exact List.append_nil _
    · rw [observed, hstep, observed_ended emitted_ended_eq_none, List.filterMap_cons, emitted, hhandle]
      rfl
    · rw [after_cons, hstep, after_ended] at hafter
      cases hafter

/-- **What a listener has handed on, and what is waiting.** -/
theorem exists_read (handle : M → Handled V) (events : List (Event M)) (listener : Listener M) :
    Accounts handle listener events := by
  induction events generalizing listener with
  | nil =>
    refine ⟨[], listener.unread, List.append_nil _, rfl, fun inbox h => ?_⟩
    rw [after_nil] at h
    rw [h]
    rfl
  | cons event events ih =>
    cases listener with
    | ended => exact accounts_ended (event :: events)
    | idle =>
      cases event with
      | start greeting => exact ih (listening greeting.toList)
      | deliver _ | read => exact ih idle
      | stop => exact ih ended
    | listening inbox =>
      cases event with
      | start _ => exact ih (listening inbox)
      | deliver m =>
        obtain ⟨read, rest, hheard, hemitted, hrest⟩ := ih (listening (inbox ++ [m]))
        refine ⟨read, rest, ?_, hemitted, hrest⟩
        rw [← hheard, unread, unread, List.append_assoc]
        rfl
      | stop =>
        refine ⟨[], inbox, ?_, observed_ended emitted_ended_eq_none events, fun inbox' hafter => ?_⟩
        · exact (congrArg (inbox ++ ·) (observed_ended heard_ended_eq_none events)).trans (List.append_nil _)
        · rw [after_cons, step, after_ended] at hafter
          cases hafter
      | read =>
        cases inbox with
        | nil => exact ih (listening [])
        | cons m inbox => exact accounts_read (ih _)

/-- A message that is waiting after an event was waiting before, or has just come. -/
theorem mem_unread_step {event : Event M} {listener : Listener M} {m : M}
    (h : m ∈ (step handle event listener).unread) :
    m ∈ listener.unread ++ (heard event listener).toList := by
  cases listener with
  | ended =>
    rw [step_ended] at h
    cases h
  | idle =>
    cases event with
    | start greeting => exact h
    | deliver _ | read | stop => cases h
  | listening inbox =>
    cases event with
    | start _ => exact List.mem_append_left _ h
    | deliver _ => exact h
    | stop => cases h
    | read =>
      cases inbox with
      | nil => cases h
      | cons m' inbox =>
        rw [step] at h
        split at h
        · cases h
        · exact List.mem_append_left _ (List.mem_cons_of_mem m' h)
        · exact List.mem_append_left _ (List.mem_cons_of_mem m' h)

/-- An event that ends a listener stops it, or is the reading of a message that makes it give up. -/
theorem step_eq_ended {event : Event M} {listener : Listener M} (h : step handle event listener = ended) :
    listener = ended ∨ event = .stop ∨ ∃ m ∈ listener.unread, handle m = .giveUp := by
  cases listener with
  | ended => exact .inl rfl
  | idle =>
    cases event with
    | stop => exact .inr (.inl rfl)
    | start _ | deliver _ | read => cases h
  | listening inbox =>
    cases event with
    | stop => exact .inr (.inl rfl)
    | start _ | deliver _ => cases h
    | read =>
      cases inbox with
      | nil => cases h
      | cons m inbox =>
        refine .inr (.inr ⟨m, List.mem_cons_self, ?_⟩)
        cases hhandle : handle m with
        | giveUp => rfl
        | emit _ | skip =>
          rw [step, hhandle] at h
          cases h

/-- What makes a listener end. -/
theorem ended_cases {events : List (Event M)} {listener : Listener M}
    (h : after (step handle) listener events = ended) :
    listener = ended ∨ .stop ∈ events ∨
      ∃ m ∈ listener.unread ++ observed (step handle) heard listener events, handle m = .giveUp := by
  induction events generalizing listener with
  | nil => exact .inl h
  | cons event events ih =>
    rcases ih h with hstep | hstop | ⟨m, hm, hgiveUp⟩
    · rcases step_eq_ended hstep with hended | rfl | ⟨m, hm, hgiveUp⟩
      · exact .inl hended
      · exact .inr (.inl List.mem_cons_self)
      · exact .inr (.inr ⟨m, List.mem_append_left _ hm, hgiveUp⟩)
    · exact .inr (.inl (List.mem_cons_of_mem event hstop))
    · refine .inr (.inr ⟨m, ?_, hgiveUp⟩)
      rw [observed, ← List.append_assoc]
      rcases List.mem_append.1 hm with hwaiting | hlater
      · exact List.mem_append_left _ (mem_unread_step hwaiting)
      · exact List.mem_append_right _ hlater

end Listener

end Interaction
