import AgentRuntime.Domain.PolicyDecisions

/-!
# Grants from legacy policies

`ToolGrant.from_legacy_dict` (`app/domain/entities/tool_grant.py`) turns the lists of a legacy policy into
rules: one for each allowed action. The allowed resources are read and not used, and a rule for the empty
action has no condition. `keepsMeaning_iff` says which requests are decided as the legacy policy means.
-/

namespace AgentRuntime

open PolicyEvaluator

/-- The entries of a legacy policy dictionary; each key may be absent. -/
structure LegacyPolicy where
  allowedActions : Option (List String) := none
  allowedResources : Option (List String) := none
  allowByDefault : Option Json := none
  metadata : Option Dict := none

namespace LegacyPolicy

variable (self : LegacyPolicy)

/-- `policy_dict.get("allowed_actions", [])`. -/
def actions : List String := self.allowedActions.getD []

/-- `policy_dict.get("allowed_resources", [])`. -/
def resources : List String := self.allowedResources.getD []

/-- `policy_dict.get("allow_by_default", not bool(allowed_actions))`, as a truth value. -/
def defaultAllow : Bool := (self.allowByDefault.map Json.truthy).getD self.actions.isEmpty

/-- The rule for an allowed action. -/
def rule (action : String) : PolicyRule :=
  { type := .allow, condition := { action := action }, effect := { allow := true }, priority := 10 }

/-- The resource is among the allowed ones: all are, if none is listed. -/
def CoversResource (resource : String) : Prop :=
  self.resources = [] ∨ ∃ pattern ∈ self.resources, Fnmatch.fnmatch resource pattern = true

/-- What a legacy policy means: an allowed action on an allowed resource is allowed, and everything else
is as the default says. -/
def Permits (action resource : String) : Prop :=
  action ∈ self.actions ∧ self.CoversResource resource ∨ self.defaultAllow = true

end LegacyPolicy

namespace ToolGrant

/-- `ToolGrant.__post_init__`, for a policy that is a `ToolPolicy`. -/
def postInit (self : ToolGrant) : Except PyError ToolGrant :=
  if isBlank self.toolName then
    .error (.valueError "Tool name cannot be empty")
  else
    .ok self

/-- A grant is accepted if its tool has a name. -/
theorem postInit_eq_ok {self grant : ToolGrant} :
    self.postInit = .ok grant ↔ isBlank self.toolName = false ∧ grant = self := by
  unfold postInit
  cases isBlank self.toolName <;> simp [eq_comm]

/-- Check if the grant allows a specific action. -/
def allows (self : ToolGrant) (cel : Cel) (action : String) (resource : Option String)
    (context : Option Dict) (now : Time) : Bool :=
  (self.evaluate cel action resource context now).allowed

/-- Create a grant from a legacy policy; `id` and `now` are what the entity's constructor draws. -/
def fromLegacyDict (id : UUID) (now : Time) (agentVersionId : UUID) (toolName : String)
    (policyDict : LegacyPolicy) (isActive : Bool := true) : Except PyError ToolGrant :=
  let allowedActions := policyDict.actions
  let _allowedResources := policyDict.resources
  let toolPolicy : ToolPolicy :=
    { toolName, rules := allowedActions.map LegacyPolicy.rule,
      defaultEffect := { allow := policyDict.defaultAllow },
      metadata := policyDict.metadata.getD [] }
  postInit
    { id, createdAt := now, updatedAt := now, agentVersionId, toolName, policy := toolPolicy, isActive }

end ToolGrant

namespace LegacyPolicy

variable {policyDict : LegacyPolicy} {cel : Cel} {action : String} {resource : Option String}
  {context : Option Dict}

/-- The rule for an action matches the requests of this action, and that for the empty one every
request. -/
theorem ruleMatches_rule (allowed : String) :
    ruleMatches cel action resource context (rule allowed) = true ↔ allowed = "" ∨ allowed = action := by
  rw [ruleMatches_eq_true_iff]
  by_cases hempty : allowed = ""
  · subst hempty
    simp [rule, given]
  · rw [or_iff_right hempty]
    simp [rule, given, hempty]

/-- A grant made of a legacy policy allows the listed actions, all actions if the empty one is listed, and
what is left as the default says. -/
theorem allows_iff {id agentVersionId : UUID} {now now' : Time} {toolName : String} {grant : ToolGrant}
    (hgrant : ToolGrant.fromLegacyDict id now agentVersionId toolName policyDict = .ok grant) :
    grant.allows cel action resource context now' = true ↔
      "" ∈ policyDict.actions ∨ action ∈ policyDict.actions ∨ policyDict.defaultAllow = true := by
  obtain ⟨-, rfl⟩ := ToolGrant.postInit_eq_ok.1 hgrant
  rw [ToolGrant.allows, ToolGrant.evaluate_allowed, effectFor, and_iff_right rfl, ← or_assoc]
  cases hmatched : matchedRule cel _ action resource context with
  | none =>
    have hnone := matchedRule_eq_none_iff.1 hmatched
    have hunlisted (allowed : String) (hallowed : allowed ∈ policyDict.actions) :
        ¬(allowed = "" ∨ allowed = action) := by
      intro hmatches
      have hfalse := hnone (rule allowed) (List.mem_map_of_mem hallowed)
      exact Bool.false_ne_true (hfalse.symm.trans ((ruleMatches_rule allowed).2 hmatches))
    have hempty : "" ∉ policyDict.actions := fun h => hunlisted "" h (.inl rfl)
    have haction : action ∉ policyDict.actions := fun h => hunlisted action h (.inr rfl)
    simp [hempty, haction]
  | some matched =>
    obtain ⟨i, hdecides⟩ := matchedRule_eq_some_iff.1 hmatched
    obtain ⟨allowed, hallowed, rfl⟩ := List.mem_map.1 (List.mem_of_getElem? hdecides.get)
    have hlisted : "" ∈ policyDict.actions ∨ action ∈ policyDict.actions := by
      rcases ruleMatches_rule allowed |>.1 hdecides.holds with rfl | rfl
      · exact .inl hallowed
      · exact .inr hallowed
    simp [rule, hlisted]

/-- The grant decides the request as the legacy policy means. -/
def KeepsMeaning (policyDict : LegacyPolicy) (grant : ToolGrant) (cel : Cel) (action resource : String)
    (context : Option Dict) (now : Time) : Prop :=
  grant.allows cel action (some resource) context now = true ↔ policyDict.Permits action resource

/-- A request is decided as meant exactly if the default allows everything, or a listed action is
requested on a resource that is covered, or neither the action nor the empty one is listed. -/
theorem keepsMeaning_iff {id agentVersionId : UUID} {now : Time} {toolName : String} {grant : ToolGrant}
    (hgrant : ToolGrant.fromLegacyDict id now agentVersionId toolName policyDict = .ok grant) (cel : Cel)
    (action resource : String) (context : Option Dict) (now' : Time) :
    policyDict.KeepsMeaning grant cel action resource context now' ↔
      policyDict.defaultAllow = true ∨
        (action ∈ policyDict.actions → policyDict.CoversResource resource) ∧
          ("" ∈ policyDict.actions → action ∈ policyDict.actions) := by
  rw [KeepsMeaning, allows_iff hgrant, Permits]
  cases policyDict.defaultAllow with
  | true => simp
  | false =>
    simp only [Bool.false_eq_true, or_false, false_or]
    constructor
    · intro h
      exact ⟨fun haction => (h.1 (.inr haction)).2, fun hempty => (h.1 (.inl hempty)).1⟩
    · rintro ⟨hcovers, hlisted⟩
      constructor
      · rintro (hempty | haction)
        · exact ⟨hlisted hempty, hcovers (hlisted hempty)⟩
        · exact ⟨haction, hcovers haction⟩
      · rintro ⟨haction, -⟩
        exact .inr haction

/-- A policy that allows reading some documents. -/
def readDocuments : LegacyPolicy :=
  { allowedActions := some ["read"], allowedResources := some ["*.pdf"], allowByDefault := some (.bool false) }

/-- Its grant allows reading any document. -/
theorem not_keepsMeaning : ¬∀ (policyDict : LegacyPolicy) (id agentVersionId : UUID) (now now' : Time)
    (toolName : String) (grant : ToolGrant) (cel : Cel) (action resource : String)
    (context : Option Dict), resource ≠ "" →
      ToolGrant.fromLegacyDict id now agentVersionId toolName policyDict = .ok grant →
        policyDict.KeepsMeaning grant cel action resource context now' := by
  intro h
  have hmeaning := h readDocuments ⟨1⟩ ⟨2⟩ 0 0 "web_search" _ (fun _ _ => none) "read" "notes.txt" none
    (by decide) rfl
  rcases (hmeaning.1 (by decide)) with ⟨-, hresources | ⟨pattern, hpattern, hmatches⟩⟩ | hdefault
  · cases hresources
  · obtain rfl := List.mem_singleton.1 hpattern
    exact absurd hmatches (by decide)
  · cases hdefault

/-- The two sides for a grant of a tool that reads documents. -/
theorem keepsMeaning_iff_readDocuments :
    let grant : ToolGrant :=
      { id := ⟨1⟩, createdAt := 0, updatedAt := 0, agentVersionId := ⟨2⟩, toolName := "web_search",
        policy := { toolName := "web_search", rules := [rule "read"], defaultEffect := { allow := false } } }
    readDocuments.KeepsMeaning grant (fun _ _ => none) "read" "a.pdf" none 0 ↔
      readDocuments.defaultAllow = true ∨
        ("read" ∈ readDocuments.actions → readDocuments.CoversResource "a.pdf") ∧
          ("" ∈ readDocuments.actions → "read" ∈ readDocuments.actions) := by
  intro grant
  have hgrant : ToolGrant.fromLegacyDict ⟨1⟩ 0 ⟨2⟩ "web_search" readDocuments = .ok grant := rfl
  exact keepsMeaning_iff hgrant (fun _ _ => none) "read" "a.pdf" none 0

end LegacyPolicy

end AgentRuntime
