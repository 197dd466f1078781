import AgentRuntime.Domain.Agent

/-!
# Updating a draft version

`update` checks and assigns the prompt, the model policy and the memory mode one after the other. It does
not look for the fields that the constructor requires of a policy, and what was assigned before an
argument is refused stays assigned. `updateLaw_iff` says exactly which calls keep a version well formed
when they return and as it was when they raise. Well formed is what the constructor takes as it is
(`wellFormed_iff`). The policy is any JSON value here, and `update` is the call with a dictionary
(`updateJson_eq_update`).
-/

namespace AgentRuntime

open Interaction

namespace AgentVersion

/-- The policy has the fields that `_validate_model_policy` requires. -/
def HasRequiredFields (modelPolicy : Dict) : Prop :=
  (modelPolicy.get? "provider").isSome = true ∧ (modelPolicy.get? "model").isSome = true

/-- A version that its constructor would accept, and leave as it is. -/
structure WellFormed (v : AgentVersion) : Prop where
  version : 0 < v.version
  systemPrompt : isBlank v.systemPrompt = false
  modelPolicy : HasRequiredFields v.modelPolicy
  memoryMode : v.memoryMode ≠ ""

/-- A policy that has the required fields is not empty. -/
theorem HasRequiredFields.isEmpty_eq_false {modelPolicy : Dict} (h : HasRequiredFields modelPolicy) :
    modelPolicy.isEmpty = false := by
  cases modelPolicy with
  | nil => cases h.1
  | cons => rfl

/-- The well-formed versions are those that are the same after a reload through the constructor. -/
theorem wellFormed_iff {v : AgentVersion} : v.WellFormed ↔ v.postInit = .ok v := by
  rw [postInit_eq_ok]
  constructor
  · intro h
    have hpolicy := h.modelPolicy.isEmpty_eq_false
    refine ⟨⟨h.version, h.systemPrompt, h.memoryMode, fun _ => h.modelPolicy⟩, ?_⟩
    rw [withDefaultPolicy, hpolicy, if_neg Bool.false_ne_true]
  · rintro ⟨hvalid, heq⟩
    have hpolicy : v.modelPolicy.isEmpty = false := by
      cases hempty : v.modelPolicy.isEmpty with
      | false => rfl
      | true =>
        rw [withDefaultPolicy, if_pos hempty] at heq
        rw [heq] at hempty
        cases hempty
    exact ⟨hvalid.version, hvalid.systemPrompt, hvalid.modelPolicy hpolicy, hvalid.memoryMode⟩

/-! ## The call -/

/-- What `update` makes of the argument `model_policy`, of any JSON type: `None` is no policy, and what
is no dictionary is refused. -/
def policyArgument : Json → Except PyError (Option Dict)
  | .null => .ok none
  | .dict modelPolicy => .ok (some modelPolicy)
  | _ => .error (.valueError "Model policy must be a dictionary")

/-- `update`, called with a model policy of any JSON type. -/
def updateJson (systemPrompt : Option String) (modelPolicy : Json) (memoryMode : Option String)
    (now : Time) : Method PyError AgentVersion Unit :=
  updateFields systemPrompt (policyArgument modelPolicy) memoryMode now

/-- For a policy that is a dictionary, or not given, this is `update`. -/
theorem updateJson_eq_update (systemPrompt : Option String) (modelPolicy : Option Dict)
    (memoryMode : Option String) (now : Time) :
    updateJson systemPrompt ((modelPolicy.map Json.dict).getD .null) memoryMode now =
      update systemPrompt modelPolicy memoryMode now := by
  cases modelPolicy <;> rfl

variable {v : AgentVersion} {systemPrompt : Option String} {modelPolicy : Json}
  {memoryMode : Option String} {now : Time}

/-- The version with the first two arguments assigned. -/
def assigned (v : AgentVersion) (systemPrompt : Option String) (modelPolicy : Option Dict) :
    AgentVersion :=
  { v with
    systemPrompt := systemPrompt.getD v.systemPrompt,
    modelPolicy := modelPolicy.getD v.modelPolicy }

/-- A call is refused at its first check, and changes nothing. -/
theorem updateJson_on_of_refused (modelPolicy : Json) (memoryMode : Option String) (now : Time)
    (h : ¬(v.isMutable = true ∧ systemPrompt.any isBlank = false)) :
    ∃ e, (updateJson systemPrompt modelPolicy memoryMode now).on v = (.error e, v) := by
  cases hmutable : v.isMutable with
  | false => exact ⟨_, by simp [updateJson, updateFields, hmutable]; rfl⟩
  | true =>
    cases systemPrompt with
    | none => exact absurd ⟨hmutable, rfl⟩ h
    | some prompt =>
      cases hblank : isBlank prompt with
      | false => exact absurd ⟨hmutable, hblank⟩ h
      | true => exact ⟨_, by simp [updateJson, updateFields, hmutable, hblank]; rfl⟩

/-- Past the first checks, the prompt is assigned before the policy is refused. -/
theorem updateJson_on_of_error (memoryMode : Option String) (now : Time) (hmutable : v.isMutable = true)
    (hprompt : systemPrompt.any isBlank = false) {e : PyError}
    (hargument : policyArgument modelPolicy = .error e) :
    (updateJson systemPrompt modelPolicy memoryMode now).on v =
      (.error e, v.assigned systemPrompt none) := by
  cases systemPrompt with
  | none => simp [updateJson, updateFields, hmutable, hargument, assigned]
  | some prompt =>
    have hblank : isBlank prompt = false := hprompt
    simp [updateJson, updateFields, hmutable, hblank, hargument, assigned]

/-- Both are assigned before the memory mode is refused, or assigned too. -/
theorem updateJson_on_of_ok (memoryMode : Option String) (now : Time) (hmutable : v.isMutable = true)
    (hprompt : systemPrompt.any isBlank = false) {given : Option Dict}
    (hargument : policyArgument modelPolicy = .ok given) :
    (updateJson systemPrompt modelPolicy memoryMode now).on v =
      if memoryMode = some "" then
        (.error (.valueError "Memory mode cannot be empty"), v.assigned systemPrompt given)
      else
        (.ok (), { v.assigned systemPrompt given with
          memoryMode := memoryMode.getD v.memoryMode, updatedAt := now }) := by
  cases systemPrompt with
  | none =>
    cases given <;> cases memoryMode <;> simp [updateJson, updateFields, hmutable, hargument, assigned]
  | some prompt =>
    have hblank : isBlank prompt = false := hprompt
    cases given <;> cases memoryMode <;> simp [updateJson, updateFields, hmutable, hblank, hargument, assigned]

/-! ## The law of an update -/

/-- An update that returns leaves a well-formed version, and one that raises leaves every field. -/
structure UpdateLaw (v : AgentVersion) (systemPrompt : Option String) (modelPolicy : Json)
    (memoryMode : Option String) (now : Time) : Prop where
  returns : ∀ v', (updateJson systemPrompt modelPolicy memoryMode now).on v = (.ok (), v') →
    v'.WellFormed
  raises : ∀ e v', (updateJson systemPrompt modelPolicy memoryMode now).on v = (.error e, v') →
    v' = v

/-- Past the first checks: what is assigned before an argument is refused is what the version has, and
a policy that is assigned for good has the required fields. -/
structure UpdateSafe (v : AgentVersion) (systemPrompt : Option String) (modelPolicy : Json)
    (memoryMode : Option String) : Prop where
  policyRefused : ∀ e, policyArgument modelPolicy = .error e →
    systemPrompt.getD v.systemPrompt = v.systemPrompt
  modeRefused : ∀ given, policyArgument modelPolicy = .ok given → memoryMode = some "" →
    systemPrompt.getD v.systemPrompt = v.systemPrompt ∧ given.getD v.modelPolicy = v.modelPolicy
  accepted : ∀ given, policyArgument modelPolicy = .ok (some given) → memoryMode ≠ some "" →
    HasRequiredFields given

/-- The assignments change nothing exactly if they assign what is there. -/
theorem assigned_eq_self {given : Option Dict} : v.assigned systemPrompt given = v ↔
    systemPrompt.getD v.systemPrompt = v.systemPrompt ∧
      given.getD v.modelPolicy = v.modelPolicy := by
  constructor
  · intro h
    exact ⟨congrArg AgentVersion.systemPrompt h, congrArg AgentVersion.modelPolicy h⟩
  · rintro ⟨hprompt, hpolicy⟩
    rw [assigned, hprompt, hpolicy]

/-- A well-formed version is well formed after a call exactly if the policy it has then has its
fields. -/
theorem WellFormed.assigned_iff (h : v.WellFormed) (hprompt : systemPrompt.any isBlank = false)
    {given : Option Dict} (hmode : memoryMode ≠ some "") :
    WellFormed { v.assigned systemPrompt given with
      memoryMode := memoryMode.getD v.memoryMode, updatedAt := now } ↔
        ∀ modelPolicy, given = some modelPolicy → HasRequiredFields modelPolicy := by
  constructor
  · rintro hafter modelPolicy rfl
    exact hafter.modelPolicy
  · intro hfields
    refine ⟨h.version, ?_, ?_, ?_⟩
    · cases systemPrompt with
      | none => exact h.systemPrompt
      | some prompt => exact hprompt
    · cases given with
      | none => exact h.modelPolicy
      | some modelPolicy => exact hfields modelPolicy rfl
    · cases memoryMode with
      | none => exact h.memoryMode
      | some mode => exact fun hempty => hmode (congrArg some hempty)

/-- An update of a well-formed version is as expected exactly if it is refused at its first check, or
what it assigns is safe. -/
theorem updateLaw_iff (h : v.WellFormed) (systemPrompt : Option String) (modelPolicy : Json)
    (memoryMode : Option String) (now : Time) :
    v.UpdateLaw systemPrompt modelPolicy memoryMode now ↔
      (v.isMutable = true → systemPrompt.any isBlank = false →
        v.UpdateSafe systemPrompt modelPolicy memoryMode) := by
  by_cases hpast : v.isMutable = true ∧ systemPrompt.any isBlank = false
  · obtain ⟨hmutable, hprompt⟩ := hpast
    refine Iff.trans ?_ ⟨fun hsafe _ _ => hsafe, fun hsafe => hsafe hmutable hprompt⟩
    cases hargument : policyArgument modelPolicy with
    | error e =>
      have hon := updateJson_on_of_error memoryMode now hmutable hprompt hargument
      constructor
      · intro hlaw
        have hsame := assigned_eq_self.1 (hlaw.raises _ _ hon)
        refine ⟨fun _ _ => hsame.1, fun given hgiven => ?_, fun given hgiven => ?_⟩ <;>
          exact absurd (hgiven.symm.trans hargument) (by simp)
      · intro hsafe
        refine ⟨fun v' hreturn => ?_, fun e' v' hraise => ?_⟩
        · cases hreturn.symm.trans hon
        · cases hraise.symm.trans hon
          exact assigned_eq_self.2 ⟨hsafe.policyRefused e hargument, rfl⟩
    | ok given =>
      have hon := updateJson_on_of_ok memoryMode now hmutable hprompt hargument
      by_cases hmode : memoryMode = some ""
      · rw [if_pos hmode] at hon
        constructor
        · intro hlaw
          have hsame := assigned_eq_self.1 (hlaw.raises _ _ hon)
          refine ⟨fun e he => ?_, fun given' hgiven _ => ?_, fun _ _ hnot => absurd hmode hnot⟩
          · exact absurd (he.symm.trans hargument) (by simp)
          · cases hgiven.symm.trans hargument
            exact hsame
        · intro hsafe
          refine ⟨fun v' hreturn => ?_, fun e' v' hraise => ?_⟩
          · cases hreturn.symm.trans hon
          · cases hraise.symm.trans hon
            exact assigned_eq_self.2 (hsafe.modeRefused given hargument hmode)
      · rw [if_neg hmode] at hon
        constructor
        · intro hlaw
          have hfields := (h.assigned_iff hprompt hmode).1 (hlaw.returns _ hon)
          refine ⟨fun e he => ?_, fun _ _ hempty => absurd hempty hmode, fun given' hgiven _ => ?_⟩
          · exact absurd (he.symm.trans hargument) (by simp)
          · cases hgiven.symm.trans hargument
            exact hfields given' rfl
        · intro hsafe
          refine ⟨fun v' hreturn => ?_, fun e' v' hraise => ?_⟩
          · cases hreturn.symm.trans hon
            refine (h.assigned_iff hprompt hmode).2 fun modelPolicy' hgiven => ?_
            exact hsafe.accepted modelPolicy' (hgiven ▸ hargument) hmode
          · cases hraise.symm.trans hon
  · obtain ⟨e, hon⟩ := updateJson_on_of_refused modelPolicy memoryMode now hpast
    refine iff_of_true ⟨fun v' hreturn => ?_, fun e' v' hraise => ?_⟩ fun hmutable hprompt => ?_
    · cases hreturn.symm.trans hon
    · cases hraise.symm.trans hon
      rfl
    · exact absurd ⟨hmutable, hprompt⟩ hpast

/-- A draft version, for the two theorems below. -/
def draft : AgentVersion :=
  { id := ⟨1⟩, createdAt := 0, updatedAt := 0, agentId := ⟨2⟩, tenantId := ⟨3⟩, version := 1,
    systemPrompt := "p", modelPolicy := getDefaultModelPolicy, memoryMode := "session" }

/-- The sample is a version as the constructor makes them. -/
theorem draft_wellFormed : draft.WellFormed :=
  ⟨by decide, by decide, ⟨by decide, by decide⟩, by decide⟩

/-- A new prompt with an empty memory mode: the update raises, and the prompt stays assigned. -/
theorem not_updateLaw : ¬∀ (v : AgentVersion) (systemPrompt : Option String) (modelPolicy : Json)
    (memoryMode : Option String) (now : Time), v.WellFormed →
      v.UpdateLaw systemPrompt modelPolicy memoryMode now := by
  intro h
  have hunchanged := (h draft (some "q") .null (some "") 0 draft_wellFormed).raises _ _ rfl
  exact absurd (congrArg AgentVersion.systemPrompt hunchanged) (by decide)

/-- A policy without a provider is assigned by a call that returns. -/
theorem updateLaw_iff_sample :
    draft.UpdateLaw none (.dict [("model", .str "m")]) none 0 ↔
      (draft.isMutable = true → (none : Option String).any isBlank = false →
        draft.UpdateSafe none (.dict [("model", .str "m")]) none) :=
  updateLaw_iff draft_wellFormed none (.dict [("model", .str "m")]) none 0

end AgentVersion

end AgentRuntime
