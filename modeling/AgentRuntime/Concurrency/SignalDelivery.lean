import AgentRuntime.Cache.CancellationSignals
import AgentRuntime.Interaction.Listener

/-!
# Who receives the cancellation signals of a run

Any number of services and workers publish signals about any runs, others publish anything on any channel, and any
number of subscriptions, each an iteration over `subscribe(run_id)`, listen. Redis sends a message to those who
listen when it is published, and keeps it for nobody else.

A subscription yields the signals of its run that are published while it listens, each as it was made, in their
order, and nothing else; what it has not yielded yet is waiting for it, and no signal makes it end
(`yields_signals`).
-/

namespace AgentRuntime

open Interaction

/-- A method that publishes a signal, with its arguments. -/
inductive SignalMethod where
  | request (runId tenantId : String) (reason : Option String)
  | acknowledgement (runId tenantId workerId : String)
  | completion (runId tenantId workerId : String) (stepsCancelled : Int) (cleanupPerformed : Bool)

namespace SignalMethod

def runId : SignalMethod → String
  | request runId _ _ | acknowledgement runId _ _ | completion runId _ _ _ _ => runId

def program (self : CancellationSignals) : SignalMethod → CancellationSignals.Method Bool
  | request runId tenantId reason => self.publishRequest runId tenantId reason
  | acknowledgement runId tenantId workerId => self.publishAcknowledgement runId tenantId workerId
  | completion runId tenantId workerId stepsCancelled cleanupPerformed =>
    self.publishCompletion runId tenantId workerId stepsCancelled cleanupPerformed

/-- What the signal says. -/
def payload (timestamp : String) : SignalMethod → Dict
  | request runId tenantId reason => CancellationSignals.requestPayload runId tenantId reason timestamp
  | acknowledgement runId tenantId workerId => CancellationSignals.acknowledgementPayload runId tenantId workerId
  | completion runId tenantId workerId stepsCancelled cleanupPerformed =>
    CancellationSignals.completionPayload runId tenantId workerId stepsCancelled cleanupPerformed

end SignalMethod

/-- What `pubsub.listen()` yields: that the channel is subscribed to, or a message. -/
inductive Push where
  | subscribe
  | message (data : String)
  deriving DecidableEq

/-- What `subscribe` does with it. A message that is no JSON is passed over; any other exception ends the loop. -/
def Push.handle (floats : JsonText.FloatReader) : Push → Handled Json
  | subscribe => .skip
  | message data =>
    match JsonText.loads floats data with
    | .ok signal => .emit signal
    | .error e => if e = JsonText.decodeError then .skip else .giveUp

/-- An iteration over `subscribe(run_id)`. -/
structure Subscription where
  id : Nat
  runId : String
  deriving DecidableEq

/-- What happens next: a method is called, someone else publishes, a subscription begins to listen, reads its next
message or ends, because its iteration is given up or Redis raises. -/
inductive SignalStep where
  | call (method : SignalMethod) (reply : SignalReply)
  | foreign (channel data : String)
  | start (subscription : Subscription)
  | read (subscription : Subscription)
  | stop (subscription : Subscription)

namespace SignalStep

variable (self : CancellationSignals)

/-- What is published, and on which channel. -/
def published : SignalStep → Option (String × String)
  | call method reply => (((method.program self).on ()).exec (reply.env 0) {}).state.published.head?
  | foreign channel data => some (channel, data)
  | start _ | read _ | stop _ => none

/-- A message is sent to those who listen on its channel. -/
def delivery (subscription : Subscription) (message : String × String) : Option (Listener.Event Push) :=
  if message.1 = self.channelName subscription.runId then some (.deliver (.message message.2)) else none

/-- What happens to a subscription. -/
def event (subscription : Subscription) : SignalStep → Option (Listener.Event Push)
  | call method reply => ((call method reply).published self).bind (delivery self subscription)
  | foreign channel data => ((foreign channel data).published self).bind (delivery self subscription)
  | start subscription' => if subscription' = subscription then some (.start (some .subscribe)) else none
  | read subscription' => if subscription' = subscription then some .read else none
  | stop subscription' => if subscription' = subscription then some .stop else none

/-- All subscriptions after a step. -/
def apply (floats : JsonText.FloatReader) (step : SignalStep) (subscriptions : Subscription → Listener Push)
    (subscription : Subscription) : Listener Push :=
  after (Listener.step (Push.handle floats)) (subscriptions subscription) (step.event self subscription).toList

/-- What the iteration yields in a step. -/
def yielded (floats : JsonText.FloatReader) (subscription : Subscription) (step : SignalStep)
    (subscriptions : Subscription → Listener Push) : Option Json :=
  (step.event self subscription).bind fun event =>
    Listener.emitted (Push.handle floats) event (subscriptions subscription)

/-- The step publishes something for the run of the subscription: a signal about it, which can be written and is
carried out by Redis, or what someone else publishes on its channel. -/
def IsFor (subscription : Subscription) : SignalStep → Prop
  | call method reply => method.runId = subscription.runId ∧
      JsonText.fits (.dict (method.payload reply.timestamp)) = true ∧ reply.Executes
  | foreign channel _ => channel = self.channelName subscription.runId
  | start _ | read _ | stop _ => False

instance (subscription : Subscription) : DecidablePred (IsFor self subscription)
  | call _ _ => inferInstanceAs (Decidable (_ ∧ _ ∧ _))
  | foreign _ _ => inferInstanceAs (Decidable (_ = _))
  | start _ | read _ | stop _ => inferInstanceAs (Decidable False)

/-- The step, if it publishes something for a subscription that listens. -/
def reaches (subscription : Subscription) (step : SignalStep) (subscriptions : Subscription → Listener Push) :
    Option SignalStep :=
  match subscriptions subscription with
  | .listening _ => if step.IsFor self subscription then some step else none
  | .idle | .ended => none

/-- The value that is published: a signal as it was made, or what someone else's text spells. -/
def carries (floats : JsonText.FloatReader) : SignalStep → Option Json
  | call method reply => some (.dict (method.payload reply.timestamp))
  | foreign _ data => (Push.handle floats (.message data)).value?
  | start _ | read _ | stop _ => none

/-! ## What a method publishes -/

section
variable {self}

/-- A signal is published on the channel of its run exactly if its payload can be serialised and Redis
executes the command. -/
theorem published_publish (reply : SignalReply) (runId : String) (payload : Dict) :
    (((self.publish runId payload).on ()).exec (reply.env 0) {}).state.published =
      if JsonText.fits (.dict payload) = true ∧ reply.Executes then
        [(self.channelName runId, String.ofList (JsonText.chars (.dict payload)))] else [] := by
  rw [CancellationSignals.on_publish, JsonText.dumps]
  by_cases hfits : JsonText.fits (.dict payload) = true
  · rw [if_pos hfits]
    dsimp only [Prog.exec_call, SignalReply.env, SignalReply.answer]
    by_cases hexecutes : reply.Executes
    · rw [if_pos hexecutes, if_pos (And.intro hfits hexecutes)]
      rfl
    · rw [if_neg hexecutes, if_neg (not_and_of_not_right _ hexecutes)]
      rfl
  · rw [if_neg hfits, if_neg (not_and_of_not_left _ hfits)]
    rfl

/-- A signal that can be written and is carried out is published on the channel of its run. -/
theorem published_call (method : SignalMethod) (reply : SignalReply) :
    (call method reply).published self =
      if JsonText.fits (.dict (method.payload reply.timestamp)) = true ∧ reply.Executes then
        some (self.channelName method.runId,
          String.ofList (JsonText.chars (.dict (method.payload reply.timestamp)))) else none := by
  have hpublished : (((method.program self).on ()).exec (reply.env 0) {}).state.published =
      if JsonText.fits (.dict (method.payload reply.timestamp)) = true ∧ reply.Executes then
        [(self.channelName method.runId,
          String.ofList (JsonText.chars (.dict (method.payload reply.timestamp))))] else [] := by
    cases method with
    | request runId tenantId reason =>
      dsimp only [SignalMethod.program]
      rw [CancellationSignals.on_publishRequest]
      exact published_publish reply runId _
    | acknowledgement runId _ _ | completion runId _ _ _ _ => exact published_publish reply runId _
  rw [published, hpublished]
  split <;> rfl

/-- Different runs have different channels. -/
theorem channelName_inj {runId runId' : String} (h : self.channelName runId = self.channelName runId') :
    runId = runId' := by
  have hlist := congrArg String.toList h
  simp only [CancellationSignals.channelName, toString, String.toList_append, List.append_assoc,
    List.append_right_inj] at hlist
  exact String.toList_inj.1 hlist

end

/-- No payload has a key twice. -/
theorem nodup_keys (method : SignalMethod) (timestamp : String) :
    ((method.payload timestamp).map Prod.fst).Nodup := by
  cases method <;>
    simp [SignalMethod.payload, CancellationSignals.requestPayload, CancellationSignals.acknowledgementPayload,
      CancellationSignals.completionPayload]

/-- A payload is read back. -/
theorem handle_payload (floats : JsonText.FloatReader) {method : SignalMethod} {timestamp : String}
    (h : JsonText.fits (.dict (method.payload timestamp)) = true) :
    Push.handle floats (.message (String.ofList (JsonText.chars (.dict (method.payload timestamp))))) =
      .emit (.dict (method.payload timestamp)) := by
  have hwell : JsonText.WellFormed floats (.dict (method.payload timestamp)) := by
    refine ⟨nodup_keys method timestamp, ?_⟩
    cases method with
    | request runId tenantId reason =>
      refine ⟨trivial, trivial, trivial, ?_, trivial, trivial⟩
      cases reason <;> trivial
    | acknowledgement runId tenantId workerId => exact ⟨trivial, trivial, trivial, trivial, trivial⟩
    | completion runId tenantId workerId stepsCancelled cleanupPerformed =>
      exact ⟨trivial, trivial, trivial, trivial, trivial, trivial, trivial⟩
  have hread := JsonText.loads_dumps hwell (if_pos h)
  rw [Push.handle, hread]

/-! ## What a subscription is sent -/

section
variable {self} {floats : JsonText.FloatReader} {subscription : Subscription}

/-- A published signal reaches the subscriptions to its run alone, with the text of its payload. -/
theorem event_call (method : SignalMethod) (reply : SignalReply) :
    (call method reply).event self subscription =
      if (call method reply).IsFor self subscription then
        some (.deliver (.message (String.ofList (JsonText.chars (.dict (method.payload reply.timestamp))))))
      else none := by
  rw [event, published_call]
  by_cases hfor : (call method reply).IsFor self subscription
  · obtain ⟨hrun, hpublished⟩ := id hfor
    rw [if_pos hpublished, if_pos hfor, hrun]
    exact if_pos rfl
  · rw [if_neg hfor]
    split
    · next hpublished => exact if_neg fun h => hfor ⟨channelName_inj h, hpublished⟩
    · rfl

/-- A step that publishes nothing for the subscription does not reach it. -/
theorem reaches_eq_none {step : SignalStep} (h : ¬step.IsFor self subscription)
    (subscriptions : Subscription → Listener Push) : step.reaches self subscription subscriptions = none := by
  rw [reaches, if_neg h]
  split <;> rfl

/-- What the steps carry that reach the subscription is what the messages carry that it hears. -/
theorem bind_reaches (step : SignalStep) (subscriptions : Subscription → Listener Push) :
    (step.reaches self subscription subscriptions).bind (carries floats) =
      (step.event self subscription).bind fun event =>
        (Listener.heard event (subscriptions subscription)).bind fun m => (Push.handle floats m).value? := by
  cases step with
  | call method reply =>
    rw [event_call]
    by_cases hfor : (call method reply).IsFor self subscription
    · rw [if_pos hfor, reaches, if_pos hfor]
      cases subscriptions subscription with
      | idle | ended => rfl
      | listening inbox =>
        rw [Option.bind_some, Option.bind_some, Listener.heard, Option.bind_some, handle_payload floats hfor.2.1]
        rfl
    · rw [if_neg hfor, reaches_eq_none hfor]
      rfl
  | foreign channel data =>
    have hevent : (foreign channel data).event self subscription =
        if (foreign channel data).IsFor self subscription then some (.deliver (.message data)) else none := rfl
    rw [hevent]
    by_cases hfor : (foreign channel data).IsFor self subscription
    · rw [if_pos hfor, reaches, if_pos hfor]
      cases subscriptions subscription <;> rfl
    · rw [if_neg hfor, reaches_eq_none hfor]
      rfl
  | start subscription' | read subscription' | stop subscription' =>
    rw [reaches_eq_none id, event]
    split
    · cases subscriptions subscription <;> rfl
    · rfl

end

/-! ## Runs -/

/-- All subscriptions after steps, none of which has begun before. -/
def run (floats : JsonText.FloatReader) (steps : List SignalStep) : Subscription → Listener Push :=
  after (apply self floats) (fun _ => .idle) steps

/-- What a subscription yields. -/
def yields (floats : JsonText.FloatReader) (steps : List SignalStep) (subscription : Subscription) : List Json :=
  observed (apply self floats) (yielded self floats subscription) (fun _ => .idle) steps

/-- What is published for a subscription while it listens. -/
def reached (floats : JsonText.FloatReader) (steps : List SignalStep) (subscription : Subscription) :
    List SignalStep :=
  observed (apply self floats) (reaches self subscription) (fun _ => .idle) steps

section
variable {self} {floats : JsonText.FloatReader} {subscription : Subscription}

/-- One subscription of all. -/
def part (subscription : Subscription) (subscriptions : Subscription → Listener Push) : Listener Push :=
  subscriptions subscription

/-- A step moves a subscription as the events that it makes for it. -/
theorem apply_subscription (step : SignalStep) (subscriptions : Subscription → Listener Push) :
    part subscription (step.apply self floats subscriptions) =
      after (Listener.step (Push.handle floats)) (part subscription subscriptions)
        (step.event self subscription).toList := rfl

/-- A subscription is a listener of what happens to it. -/
theorem run_eq (steps : List SignalStep) :
    run self floats steps subscription =
      after (Listener.step (Push.handle floats)) .idle (steps.filterMap (event self subscription)) :=
  after_filterMap (part subscription) apply_subscription steps _

/-- What a subscription yields is what a listener observes of its own events. -/
theorem yields_eq (steps : List SignalStep) :
    yields self floats steps subscription =
      observed (Listener.step (Push.handle floats)) (Listener.emitted (Push.handle floats)) .idle
        (steps.filterMap (event self subscription)) :=
  observed_filterMap (part subscription) apply_subscription (fun _ _ => rfl) steps _

/-- What reached a subscription and carries a signal is what its listener has heard with a value. -/
theorem filterMap_reached (steps : List SignalStep) :
    (reached self floats steps subscription).filterMap (carries floats) =
      (observed (Listener.step (Push.handle floats)) Listener.heard .idle
        (steps.filterMap (event self subscription))).filterMap fun m => (Push.handle floats m).value? := by
  rw [reached, filterMap_observed, filterMap_observed]
  exact observed_filterMap (part subscription) apply_subscription bind_reaches steps _

/-- A step that stops a subscription. -/
theorem eq_stop_of_event {step : SignalStep} (h : step.event self subscription = some .stop) :
    step = stop subscription := by
  cases step with
  | call method reply =>
    rw [event_call] at h
    split at h <;> cases h
  | foreign channel data =>
    rw [event, published, Option.bind_some, delivery] at h
    split at h <;> cases h
  | start _ | read _ =>
    rw [event] at h
    split at h <;> cases h
  | stop subscription' =>
    rw [event] at h
    split at h
    · next heq => rw [heq]
    · cases h

/-- A subscription that begins to listen is sent a confirmation. -/
theorem greeting_of_event {step : SignalStep} {greeting : Option Push}
    (h : step.event self subscription = some (.start greeting)) : greeting = some .subscribe := by
  cases step with
  | call method reply =>
    rw [event_call] at h
    split at h <;> cases h
  | foreign channel data =>
    rw [event, published, Option.bind_some, delivery] at h
    split at h <;> cases h
  | start subscription' =>
    rw [event] at h
    split at h
    · cases h
      rfl
    · cases h
  | read _ | stop _ =>
    rw [event] at h
    split at h <;> cases h

/-- A step that sends a subscription a message that makes it give up is none of a method. -/
theorem eq_foreign_of_event {step : SignalStep} {m : Push} (hgiveUp : Push.handle floats m = .giveUp)
    (h : step.event self subscription = some (.deliver m)) :
    ∃ data, step = foreign (self.channelName subscription.runId) data ∧ m = .message data := by
  cases step with
  | call method reply =>
    rw [event_call] at h
    split at h
    · next hfor =>
      cases h
      rw [handle_payload floats hfor.2.1] at hgiveUp
      cases hgiveUp
    · cases h
  | foreign channel data =>
    rw [event, published, Option.bind_some, delivery] at h
    split at h
    · next hchannel =>
      cases h
      exact ⟨data, congrArg (foreign · data) hchannel, rfl⟩
    · cases h
  | start _ | read _ | stop _ =>
    rw [event] at h
    split at h <;> cases h

/-- What is heard and makes a subscription give up was published by someone else. -/
theorem foreign_of_giveUp {steps : List SignalStep} {m : Push}
    (hm : m ∈ observed (Listener.step (Push.handle floats)) Listener.heard .idle
      (steps.filterMap (event self subscription))) (hgiveUp : Push.handle floats m = .giveUp) :
    ∃ data, foreign (self.channelName subscription.runId) data ∈ steps ∧
      Push.handle floats (.message data) = .giveUp := by
  obtain ⟨event', hevent, listener, hheard⟩ := exists_of_mem_observed hm
  obtain ⟨step, hstep, hsent⟩ := List.mem_filterMap.1 hevent
  have hdelivered : event' = .deliver m := by
    cases event' with
    | deliver m' =>
      cases listener with
      | idle | ended => cases hheard
      | listening inbox => exact congrArg Listener.Event.deliver (Option.some.inj hheard)
    | start greeting =>
      -- a confirmation is not given up on
      obtain rfl := greeting_of_event hsent
      cases listener with
      | idle =>
        cases hheard
        cases hgiveUp
      | listening inbox | ended => cases hheard
    | read | stop => cases listener <;> cases hheard
  subst hdelivered
  obtain ⟨data, rfl, rfl⟩ := eq_foreign_of_event hgiveUp hsent
  exact ⟨data, hstep, hgiveUp⟩

end

/-- **What a subscription yields**: the signals that have reached it, in their order, up to where it was read.
While it listens the rest is in its inbox, and it ends by being stopped or by a message that is no signal. -/
theorem yields_signals (floats : JsonText.FloatReader) (steps : List SignalStep) (subscription : Subscription) :
    yields self floats steps subscription <+:
        (reached self floats steps subscription).filterMap (carries floats) ∧
      (∀ inbox, run self floats steps subscription = .listening inbox →
        (reached self floats steps subscription).filterMap (carries floats) =
          yields self floats steps subscription ++ inbox.filterMap fun m => (Push.handle floats m).value?) ∧
      (run self floats steps subscription = .ended → stop subscription ∈ steps ∨
        ∃ data, foreign (self.channelName subscription.runId) data ∈ steps ∧
          Push.handle floats (.message data) = .giveUp) := by
  obtain ⟨read, rest, hheard, hemitted, hrest⟩ :=
    Listener.exists_read (Push.handle floats) (steps.filterMap (event self subscription)) .idle
  have hreached : (reached self floats steps subscription).filterMap (carries floats) =
      yields self floats steps subscription ++ rest.filterMap fun m => (Push.handle floats m).value? := by
    rw [filterMap_reached, yields_eq, hemitted, ← List.filterMap_append, ← hheard]
    rfl
  refine ⟨⟨_, hreached.symm⟩, fun inbox hinbox => ?_, fun hended => ?_⟩
  · rw [hreached, hrest inbox (run_eq steps ▸ hinbox)]
  · rw [run_eq] at hended
    rcases Listener.ended_cases hended with hidle | hstop | ⟨m, hm, hgiveUp⟩
    · cases hidle
    · obtain ⟨step, hstep, hevent⟩ := List.mem_filterMap.1 hstop
      exact .inl (eq_stop_of_event hevent ▸ hstep)
    · exact .inr (foreign_of_giveUp hm hgiveUp)

end SignalStep

end AgentRuntime
