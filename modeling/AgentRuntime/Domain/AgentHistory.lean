import AgentRuntime.Domain.Agent
import AgentRuntime.Interaction.History
import Mathlib.Data.List.Nodup

/-!
# Histories of an agent

What a call of `create_version`, `publish_version` or `AgentVersion.update` can do with the versions
of an agent is said once: it appends a draft with a new number (`createVersion_cases`), it publishes
a version and archives the published ones (`publishVersion_cases`), or it edits a draft
(`later_apply`). From these follow the invariant of the aggregate (`agentLaw_of_new`) and when the
life of every version goes one way (`lifecycle_forward_iff`).
-/

namespace AgentRuntime

open Interaction

/-! ## Updates of a version -/

namespace AgentVersion

/-- A version that is not a draft refuses every update. -/
theorem update_on_of_not_draft {self : AgentVersion} (h : self.status ≠ .draft)
    (systemPrompt : Option String) (modelPolicy : Option Dict) (memoryMode : Option String)
    (now : Time) : (update systemPrompt modelPolicy memoryMode now).on self =
      (.error (.valueError "Cannot modify published or archived version"), self) := by
  have hmutable : self.isMutable = false := by simpa [isMutable] using h
  simp [update, updateFields, hmutable]

/-- An update, whatever way it ends, keeps the identity, the number and the status. -/
theorem keeps_update {I : AgentVersion → Prop} (systemPrompt : Option String)
    (modelPolicy : Option Dict) (memoryMode : Option String) (now : Time)
    (h : ∀ (self : AgentVersion) systemPrompt modelPolicy memoryMode updatedAt, I self →
      I { self with systemPrompt, modelPolicy, memoryMode, updatedAt }) :
    (update systemPrompt modelPolicy memoryMode now).Keeps I := by
  intro self hself
  by_cases hmutable : self.isMutable = false
  · simpa [update, updateFields, hmutable] using hself
  · -- each attribute is left alone, refused or assigned
    rcases systemPrompt with _ | systemPrompt <;> rcases modelPolicy with _ | modelPolicy <;>
      rcases memoryMode with _ | memoryMode <;>
      simp only [update, updateFields, Method.on_bind, Method.on_ofExcept, Method.on_get, Method.on_ite, hmutable,
        Method.on_modify] <;>
      split_ifs <;> first | exact hself | exact h self _ _ _ _ hself

/-- Two versions with one content. -/
structure SameContent (v w : AgentVersion) : Prop where
  systemPrompt : w.systemPrompt = v.systemPrompt
  modelPolicy : w.modelPolicy = v.modelPolicy
  memoryMode : w.memoryMode = v.memoryMode

/-- A version has its own content. -/
theorem SameContent.refl (self : AgentVersion) : self.SameContent self := ⟨rfl, rfl, rfl⟩

/-- Content that is kept twice is kept. -/
theorem SameContent.trans {u v w : AgentVersion} (h : u.SameContent v) (h' : v.SameContent w) :
    u.SameContent w :=
  ⟨h'.systemPrompt.trans h.systemPrompt, h'.modelPolicy.trans h.modelPolicy,
    h'.memoryMode.trans h.memoryMode⟩

/-- What publishing another version does to this one. -/
def archived (now : Time) (self : AgentVersion) : AgentVersion :=
  if self.status = .published then { self with status := .archived, updatedAt := now } else self

/-- Archiving ends the time of a published version. -/
theorem archived_of_published {self : AgentVersion} (h : self.status = .published) (now : Time) :
    self.archived now = { self with status := .archived, updatedAt := now } := if_pos h

/-- Any other version stays as it is. -/
theorem archived_of_not_published {self : AgentVersion} (h : self.status ≠ .published) (now : Time) :
    self.archived now = self := if_neg h

/-- Archiving leaves the number. -/
@[simp] theorem archived_version (now : Time) (self : AgentVersion) :
    (self.archived now).version = self.version := by
  unfold archived
  split <;> rfl

/-- Afterwards no version is published. -/
theorem archived_status_ne (now : Time) (self : AgentVersion) :
    (self.archived now).status ≠ .published := by
  by_cases h : self.status = .published
  · rw [archived_of_published h]
    intro hstatus
    cases hstatus
  · rwa [archived_of_not_published h]

end AgentVersion

/-! ## Calls -/

/-- A call on an agent, or on its version at position `i`. -/
inductive AgentOperation where
  | createVersion (version : Int) (systemPrompt : String) (modelPolicy : Dict) (memoryMode : String)
      (versionId : UUID)
  | publishVersion (version : Int)
  | updateVersion (i : Nat) (systemPrompt : Option String) (modelPolicy : Option Dict)
      (memoryMode : Option String)

/-- An operation, and the time it reads from the clock. -/
structure AgentCall where
  op : AgentOperation
  now : Time

/-- What the call makes of an agent, whether it returns or raises. -/
def AgentCall.apply (call : AgentCall) (agent : Agent) : Agent :=
  match call.op with
  | .createVersion version systemPrompt modelPolicy memoryMode versionId =>
    ((Agent.createVersion version systemPrompt modelPolicy memoryMode versionId call.now).on agent).2
  | .publishVersion version => ((Agent.publishVersion version call.now).on agent).2
  | .updateVersion i systemPrompt modelPolicy memoryMode =>
    ((Agent.versionMethod i
      (AgentVersion.update systemPrompt modelPolicy memoryMode call.now)).on agent).2

namespace Agent

/-- A call of `create_version` leaves the versions alone, or appends a draft with a new number. -/
theorem createVersion_cases (version : Int) (systemPrompt : String) (modelPolicy : Dict)
    (memoryMode : String) (versionId : UUID) (now : Time) (self : Agent) :
    ((createVersion version systemPrompt modelPolicy memoryMode versionId now).on self).2.versions =
      self.versions ∨
    0 < version ∧ (∀ v ∈ self.versions, v.version ≠ version) ∧ ∃ v : AgentVersion,
      v.version = version ∧ v.status = .draft ∧
      ((createVersion version systemPrompt modelPolicy memoryMode versionId now).on self).2.versions =
        self.versions ++ [v] := by
  by_cases hversion : version ≤ 0
  · exact .inl (by simp [createVersion, hversion])
  · cases htaken : self.versions.any fun v => v.version = version with
    | true =>
      left
      simp only [createVersion, Method.on_bind, Method.on_get, hversion, if_false, htaken, if_true,
        Method.on_throw]
    | false =>
      cases hprompt : isBlank systemPrompt with
      | true =>
        left
        simp only [createVersion, Method.on_bind, Method.on_get, hversion, if_false,
          htaken, Bool.false_eq_true, hprompt, if_true, Method.on_throw]
      | false =>
        simp only [createVersion, Method.on_bind, Method.on_get, hversion, if_false,
          htaken, Bool.false_eq_true, hprompt, Method.on_ofExcept]
        generalize hpost : AgentVersion.postInit _ = result
        cases result with
        | error e => exact .inl rfl
        | ok v =>
          obtain ⟨-, rfl⟩ := AgentVersion.postInit_eq_ok.1 hpost
          refine .inr ⟨by omega, by simpa using htaken, _, ?_, ?_, rfl⟩
          · exact AgentVersion.withDefaultPolicy_version _
          · exact AgentVersion.withDefaultPolicy_status _

/-- A version that is not published is published by its number, and the published ones are
archived. -/
theorem publishVersion_versions {version : Int} {self : Agent} {v : AgentVersion}
    (hget : self.getVersion version = some v) (hnew : v.status ≠ .published) (now : Time) :
    ∃ i, self.versions[i]? = some v ∧ ((publishVersion version now).on self).2.versions =
      (self.versions.map (AgentVersion.archived now)).set i
        { v with status := .published, updatedAt := now } := by
  refine ⟨self.versions.findIdx fun v => v.version = version, ?_, ?_⟩
  · rw [← List.find?_eq_getElem?_findIdx]
    exact hget
  · simp only [publishVersion, Method.on_bind, Method.on_get, hget, hnew, if_false, Method.on_modify,
      touch, addEvent, Method.on_pure]
    rfl

/-- A call of `publish_version` leaves the versions alone, or publishes the version with the number
and archives the published ones. -/
theorem publishVersion_cases (version : Int) (now : Time) (self : Agent) :
    ((publishVersion version now).on self).2.versions = self.versions ∨
    ∃ i v, self.versions[i]? = some v ∧ self.getVersion version = some v ∧ v.status ≠ .published ∧
      ((publishVersion version now).on self).2.versions =
        (self.versions.map (AgentVersion.archived now)).set i
          { v with status := .published, updatedAt := now } := by
  cases hget : self.getVersion version with
  | none => exact .inl (by simp [publishVersion, hget])
  | some v =>
    by_cases hpublished : v.status = .published
    · exact .inl (by simp [publishVersion, hget, hpublished])
    · obtain ⟨i, hi, hversions⟩ := publishVersion_versions hget hpublished now
      exact .inr ⟨i, v, hi, rfl, hpublished, hversions⟩

/-- A version's method, called through its agent. -/
theorem versionMethod_on (i : Nat) (m : Method PyError AgentVersion Unit) (self : Agent) :
    (versionMethod i m).on self = match self.versions[i]? with
      | some v => ((m.on v).1, { self with versions := self.versions.set i (m.on v).2 })
      | none => (.ok (), self) := by
  rcases hv : self.versions[i]? with _ | v
  · simp [versionMethod, hv]
  · simp only [versionMethod, Method.on_bind, Method.on_get, hv]
    rcases m.on v with ⟨result, v'⟩
    simp

/-! ## What a call does with a version -/

/-- `R` relates each version of `agent` to the one at its place in `agent'`. -/
def Later (R : AgentVersion → AgentVersion → Prop) (agent agent' : Agent) : Prop :=
  ∀ (i : Nat) v, agent.versions[i]? = some v → ∃ w, agent'.versions[i]? = some w ∧ R v w

/-- An agent is later than itself, with no version added. -/
theorem Later.refl {R : AgentVersion → AgentVersion → Prop} (hR : ∀ v, R v v) (agent : Agent) :
    Later R agent agent :=
  fun _ v hv => ⟨v, hv, hR v⟩

/-- Of three agents in a row, the last is later than the first. -/
theorem Later.trans {R : AgentVersion → AgentVersion → Prop}
    (hR : ∀ {u v w}, R u v → R v w → R u w) {a b c : Agent} (h : Later R a b) (h' : Later R b c) :
    Later R a c := by
  intro i u hu
  obtain ⟨v, hv, huv⟩ := h i u hu
  obtain ⟨w, hw, hvw⟩ := h' i v hv
  exact ⟨w, hw, hR huv hvw⟩

/-- What is known of each version may be weakened. -/
theorem Later.mono {R R' : AgentVersion → AgentVersion → Prop} {agent agent' : Agent}
    (h : Later R agent agent') (hR : ∀ v w, R v w → R' v w) : Later R' agent agent' := by
  intro i v hv
  obtain ⟨w, hw, hvw⟩ := h i v hv
  exact ⟨w, hw, hR v w hvw⟩

/-- The call publishes this version of the agent. -/
def Publishes (call : AgentCall) (self : Agent) (v : AgentVersion) : Prop :=
  ∃ version, call.op = .publishVersion version ∧ self.getVersion version = some v

/-- What a call can do with a version: leave it, edit a draft, archive the published one, or publish
one that is not. -/
inductive VersionStep (call : AgentCall) (self : Agent) (v w : AgentVersion) : Prop where
  | same (h : w = v)
  | edit (hid : w.id = v.id) (hversion : w.version = v.version) (hdraft : v.status = .draft)
      (h : w.status = .draft)
  | archive (hpublished : v.status = .published)
      (h : w = { v with status := .archived, updatedAt := call.now })
  | publish (hcall : Publishes call self v) (hnew : v.status ≠ .published)
      (h : w = { v with status := .published, updatedAt := call.now })

/-- Every call takes each version one step further. -/
theorem later_apply (call : AgentCall) (self : Agent) :
    Later (VersionStep call self) self (call.apply self) := by
  have hsame {agent : Agent} (h : agent.versions = self.versions) :
      Later (VersionStep call self) self agent := by
    intro i v hv
    exact ⟨v, by rw [h, hv], .same rfl⟩
  obtain ⟨op, now⟩ := call
  cases op with
  | createVersion version systemPrompt modelPolicy memoryMode versionId =>
    obtain h | ⟨-, -, new, -, -, h⟩ :=
      createVersion_cases version systemPrompt modelPolicy memoryMode versionId now self
    · exact hsame h
    · intro i v hv
      refine ⟨v, ?_, .same rfl⟩
      rw [AgentCall.apply, h, List.getElem?_append_left (List.getElem?_eq_some_iff.1 hv).1, hv]
  | publishVersion version =>
    obtain h | ⟨i, new, hi, hget, hnew, h⟩ := publishVersion_cases version now self
    · exact hsame h
    · intro j v hv
      rw [AgentCall.apply, h]
      have hmap : (self.versions.map (AgentVersion.archived now))[j]? = some (v.archived now) := by
        rw [List.getElem?_map, hv]
        rfl
      by_cases hij : i = j
      · subst hij
        obtain rfl : new = v := Option.some.inj (hi.symm.trans hv)
        refine ⟨_, List.getElem?_set_self (List.getElem?_eq_some_iff.1 hmap).1, ?_⟩
        exact .publish ⟨version, rfl, hget⟩ hnew rfl
      · rw [List.getElem?_set_ne hij]
        refine ⟨_, hmap, ?_⟩
        by_cases hpublished : v.status = .published
        · exact .archive hpublished (AgentVersion.archived_of_published hpublished now)
        · exact .same (AgentVersion.archived_of_not_published hpublished now)
  | updateVersion i systemPrompt modelPolicy memoryMode =>
    intro j v hv
    simp only [AgentCall.apply, versionMethod_on]
    cases hi : self.versions[i]? with
    | none => exact ⟨v, hv, .same rfl⟩
    | some u =>
      by_cases hij : i = j
      · subst hij
        obtain rfl : u = v := Option.some.inj (hi.symm.trans hv)
        refine ⟨_, List.getElem?_set_self (List.getElem?_eq_some_iff.1 hi).1, ?_⟩
        by_cases hdraft : u.status = .draft
        · have hkeeps := AgentVersion.keeps_update (I := fun w => w.id = u.id ∧
            w.version = u.version ∧ w.status = u.status) systemPrompt modelPolicy memoryMode now
            (fun _ _ _ _ _ h => h) u ⟨rfl, rfl, rfl⟩
          exact .edit hkeeps.1 hkeeps.2.1 hdraft (hkeeps.2.2.trans hdraft)
        · rw [AgentVersion.update_on_of_not_draft hdraft]
          exact .same rfl
      · exact ⟨v, (List.getElem?_set_ne hij).trans hv, .same rfl⟩

/-! ## The invariant -/

/-- The version is published. -/
abbrev isPublished (v : AgentVersion) : Bool := v.status = .published

/-- The version numbers are positive and distinct, and at most one version is published. -/
structure WellFormed (agent : Agent) : Prop where
  positive : ∀ v ∈ agent.versions, 0 < v.version
  distinct : (agent.versions.map AgentVersion.version).Nodup
  published : agent.versions.countP isPublished ≤ 1

/-- In a list with at most one such element, `find?` finds exactly it. -/
theorem find?_eq_some_iff_of_countP {α : Type} {p : α → Bool} {l : List α} (h : l.countP p ≤ 1)
    (a : α) : l.find? p = some a ↔ a ∈ l ∧ p a = true := by
  rw [← List.head?_filter, ← List.mem_filter]
  rw [List.countP_eq_length_filter] at h
  match l.filter p, h with
  | [], _ => simp
  | [b], _ => simp [eq_comm]
  | _ :: _ :: _, h => simp at h

/-- `get_published_version` returns exactly the published version. -/
theorem WellFormed.getPublishedVersion_iff {agent : Agent} (h : agent.WellFormed)
    (v : AgentVersion) :
    agent.getPublishedVersion = some v ↔ v ∈ agent.versions ∧ v.status = .published := by
  rw [getPublishedVersion, find?_eq_some_iff_of_countP h.published, decide_eq_true_iff]

/-- Versions with the old numbers, one of them published at most, are as well formed. -/
theorem WellFormed.of_numbers {agent agent' : Agent} (h : agent.WellFormed)
    (hnumbers : agent'.versions.map AgentVersion.version = agent.versions.map AgentVersion.version)
    (hpublished : agent'.versions.countP isPublished ≤ 1) : agent'.WellFormed := by
  refine ⟨fun v hv => ?_, hnumbers ▸ h.distinct, hpublished⟩
  have hnumber : v.version ∈ agent'.versions.map AgentVersion.version := List.mem_map_of_mem hv
  rw [hnumbers] at hnumber
  obtain ⟨u, hu, huv⟩ := List.mem_map.1 hnumber
  rw [← huv]
  exact h.positive u hu

/-- Overwriting a version by one of the same number keeps the numbers. -/
theorem map_version_set {versions : List AgentVersion} {i : Nat} {v w : AgentVersion}
    (hv : versions[i]? = some v) (hw : w.version = v.version) :
    (versions.set i w).map AgentVersion.version = versions.map AgentVersion.version := by
  obtain ⟨hi, rfl⟩ := List.getElem?_eq_some_iff.1 hv
  rw [List.map_set, hw, ← List.getElem_map AgentVersion.version (h := by simpa using hi),
    List.set_getElem_self]

/-- Every call keeps the invariant. -/
theorem WellFormed.apply {agent : Agent} (h : agent.WellFormed) (call : AgentCall) :
    (call.apply agent).WellFormed := by
  obtain ⟨op, now⟩ := call
  cases op with
  | createVersion version systemPrompt modelPolicy memoryMode versionId =>
    obtain hsame | ⟨hpositive, hnew, v, hversion, hdraft, happend⟩ :=
      createVersion_cases version systemPrompt modelPolicy memoryMode versionId now agent
    · exact h.of_numbers (congrArg _ hsame) (hsame ▸ h.published)
    · refine ⟨?_, ?_, ?_⟩ <;> simp only [AgentCall.apply, happend]
      · intro u hu
        rcases List.mem_append.1 hu with hu | hu
        · exact h.positive u hu
        · rw [List.mem_singleton.1 hu, hversion]
          exact hpositive
      · rw [List.map_append, List.nodup_append]
        refine ⟨h.distinct, List.nodup_singleton _, ?_⟩
        rintro n hn m hm rfl
        obtain ⟨u, hu, hun⟩ := List.mem_map.1 hn
        exact hnew u hu (hun.trans ((List.mem_singleton.1 hm).trans hversion))
      · rw [List.countP_append, List.countP_singleton, isPublished, hdraft]
        exact h.published
  | publishVersion version =>
    obtain hsame | ⟨i, v, hi, -, -, hpublish⟩ := publishVersion_cases version now agent
    · exact h.of_numbers (congrArg _ hsame) (hsame ▸ h.published)
    · have hnone : (agent.versions.map (AgentVersion.archived now)).countP isPublished = 0 := by
        rw [List.countP_eq_zero]
        intro u hu
        obtain ⟨u, -, rfl⟩ := List.mem_map.1 hu
        simpa using AgentVersion.archived_status_ne now u
      have hmap : (agent.versions.map (AgentVersion.archived now))[i]? = some (v.archived now) := by
        rw [List.getElem?_map, hi]
        rfl
      have hnumber : ({ v with status := .published, updatedAt := now } : AgentVersion).version =
        (v.archived now).version := (AgentVersion.archived_version now v).symm
      refine h.of_numbers ?_ ?_ <;> simp only [AgentCall.apply, hpublish]
      · rw [map_version_set hmap hnumber, List.map_map]
        exact List.map_congr_left fun u _ => AgentVersion.archived_version now u
      · rw [List.countP_set (List.getElem?_eq_some_iff.1 hmap).1, hnone]
        split_ifs <;> omega
  | updateVersion i systemPrompt modelPolicy memoryMode =>
    cases hi : agent.versions[i]? with
    | none =>
      simp only [AgentCall.apply, versionMethod_on, hi]
      exact h
    | some v =>
      have hkeeps := AgentVersion.keeps_update (I := fun w => w.version = v.version ∧
        w.status = v.status) systemPrompt modelPolicy memoryMode now (fun _ _ _ _ _ h => h) v ⟨rfl, rfl⟩
      refine h.of_numbers ?_ ?_ <;> simp only [AgentCall.apply, versionMethod_on, hi]
      · exact map_version_set hi hkeeps.1
      · obtain ⟨hlength, hget⟩ := List.getElem?_eq_some_iff.1 hi
        have hstatus : isPublished v = isPublished
            ((AgentVersion.update systemPrompt modelPolicy memoryMode now).on v).2 := by
          rw [isPublished, isPublished, hkeeps.2]
        have hpublished := h.published
        rw [List.countP_set hlength, hget, hstatus]
        split <;> omega

/-- `w` is `v` at a later time: it has the identity and the number of `v` and, unless `v` is a draft,
its content. -/
structure Kept (v w : AgentVersion) : Prop where
  id : w.id = v.id
  version : w.version = v.version
  content : v.status ≠ .draft → w.status ≠ .draft ∧ v.SameContent w

/-- A version is kept as it is. -/
theorem Kept.refl (v : AgentVersion) : Kept v v :=
  ⟨rfl, rfl, fun h => ⟨h, .refl v⟩⟩

/-- A version that is kept twice is kept. -/
theorem Kept.trans {u v w : AgentVersion} (h : Kept u v) (h' : Kept v w) : Kept u w := by
  refine ⟨h'.id.trans h.id, h'.version.trans h.version, fun hu => ?_⟩
  obtain ⟨hv, huv⟩ := h.content hu
  obtain ⟨hw, hvw⟩ := h'.content hv
  exact ⟨hw, huv.trans hvw⟩

/-- Every call keeps what a version is once it is no draft. -/
theorem VersionStep.kept {call : AgentCall} {self : Agent} {v w : AgentVersion}
    (h : VersionStep call self v w) : Kept v w := by
  cases h with
  | same h => exact h ▸ .refl v
  | edit hid hversion hdraft h => exact ⟨hid, hversion, fun hv => absurd hdraft hv⟩
  | archive hpublished h => subst h; exact ⟨rfl, rfl, fun _ => ⟨nofun, rfl, rfl, rfl⟩⟩
  | publish hcall hnew h => subst h; exact ⟨rfl, rfl, fun _ => ⟨nofun, rfl, rfl, rfl⟩⟩

/-- What holds of an agent after a sequence of calls, and between any two moments of it. -/
structure AgentLaw (agent : Agent) (calls : List AgentCall) : Prop where
  wellFormed : (after AgentCall.apply agent calls).WellFormed
  published : ∀ v, (after AgentCall.apply agent calls).getPublishedVersion = some v ↔
    v ∈ (after AgentCall.apply agent calls).versions ∧ v.status = .published
  kept : Between AgentCall.apply (Later Kept) agent calls

/-- The law of the aggregate, over any sequence of calls on a new agent, accepted or refused: one published
version at most, and versions that keep their identity and number for good, and their content from the moment
they are no drafts. -/
theorem agentLaw_of_new {agent : Agent} (hnew : agent.versions = []) (calls : List AgentCall) :
    AgentLaw agent calls := by
  have hstart : agent.WellFormed := by
    refine ⟨?_, ?_, ?_⟩ <;> simp [hnew]
  have hafter : (after AgentCall.apply agent calls).WellFormed :=
    after_induction hstart fun _ call _ h => h.apply call
  refine ⟨hafter, hafter.getPublishedVersion_iff, ?_⟩
  refine (along_iff_between (Later.refl Kept.refl) fun h h' =>
    Later.trans (R := Kept) Kept.trans h h').2 ?_
  exact along_of_invariant (I := fun _ => True) trivial fun self call _ _ =>
    ⟨(later_apply call self).mono fun _ _ => VersionStep.kept, trivial⟩

/-- A new agent with two versions; the first is edited, published and edited again, then the second
is published. -/
theorem agentLaw_of_new_sample :
    let agent : Agent := { id := ⟨1⟩, createdAt := 0, updatedAt := 0, tenantId := ⟨3⟩, name := "a" }
    let calls : List AgentCall := [⟨.createVersion 1 "p" [] "m" ⟨5⟩, 1⟩,
      ⟨.createVersion 2 "q" [] "m" ⟨6⟩, 2⟩, ⟨.updateVersion 0 (some "r") none (some ""), 3⟩,
      ⟨.publishVersion 1, 4⟩, ⟨.updateVersion 0 (some "s") none none, 5⟩, ⟨.publishVersion 2, 6⟩]
    agent.versions = [] ∧ AgentLaw agent calls :=
  ⟨rfl, agentLaw_of_new rfl _⟩

/-! ## The life of a version -/

end Agent

/-- The place of a status in the life of a version. -/
def AgentStatus.rank : AgentStatus → Nat
  | draft => 0
  | published => 1
  | archived => 2

namespace Agent

/-- The status of `w` is that of `v` or a later one. -/
def Forward (v w : AgentVersion) : Prop := v.status.rank ≤ w.status.rank

/-- The call publishes no version that is archived. -/
def PublishesNoArchived (self : Agent) (call : AgentCall) : Prop :=
  ∀ v, Publishes call self v → v.status ≠ .archived

/-- A call takes every version forward exactly if it publishes no version that is archived. -/
theorem forward_apply_iff (self : Agent) (call : AgentCall) :
    Later Forward self (call.apply self) ↔ self.PublishesNoArchived call := by
  constructor
  · rintro h v ⟨version, hop, hget⟩ harchived
    obtain ⟨op, now⟩ := call
    obtain rfl : op = .publishVersion version := hop
    have hnew : v.status ≠ .published := by
      rw [harchived]
      exact nofun
    obtain ⟨i, hi, hversions⟩ := publishVersion_versions hget hnew now
    obtain ⟨w, hw, hvw⟩ := h i v hi
    simp only [AgentCall.apply, hversions] at hw
    have hlength : i < (self.versions.map (AgentVersion.archived now)).length := by
      rw [List.length_map]
      exact (List.getElem?_eq_some_iff.1 hi).1
    rw [List.getElem?_set_self hlength] at hw
    cases hw
    rw [Forward, harchived] at hvw
    have hrank : AgentStatus.archived.rank ≤ AgentStatus.published.rank := hvw
    exact absurd hrank (by decide)
  · intro hcall
    refine fun i v hv => ?_
    obtain ⟨w, hw, hstep⟩ := later_apply call self i v hv
    refine ⟨w, hw, ?_⟩
    unfold Forward
    cases hstep with
    | same h => rw [h]
    | edit _ _ hdraft h => rw [hdraft, h]
    | archive hpublished h =>
      rw [h, hpublished]
      exact (by decide : AgentStatus.published.rank ≤ AgentStatus.archived.rank)
    | publish hpublishes hnew h =>
      have hdraft : v.status = .draft := by
        have harchived := hcall v hpublishes
        cases hstatus : v.status with
        | draft => rfl
        | published => exact absurd hstatus hnew
        | archived => exact absurd hstatus harchived
      rw [h, hdraft]
      exact (by decide : AgentStatus.draft.rank ≤ AgentStatus.published.rank)

/-- The life of every version goes forward exactly while no call publishes an archived version.
`publish_version` looks at the number alone, so it takes an archived version as it takes a draft. -/
theorem lifecycle_forward_iff (agent : Agent) (calls : List AgentCall) :
    Between AgentCall.apply (Later Forward) agent calls ↔
      Along AgentCall.apply PublishesNoArchived agent calls := by
  have hrefl (agent : Agent) : Later Forward agent agent := Later.refl (fun _ => Nat.le_refl _) agent
  have htrans {a b c : Agent} (h : Later Forward a b) (h' : Later Forward b c) : Later Forward a c :=
    Later.trans (R := Forward) (fun huv hvw => Nat.le_trans huv hvw) h h'
  refine (along_iff_between hrefl htrans).trans ?_
  exact along_iff (I := fun _ => True) trivial (fun self call _ _ => forward_apply_iff self call)
    fun _ _ _ _ _ => trivial

/-- The first version is published once more, after the second one has archived it: an archived version is
published again. -/
theorem not_lifecycle_forward : ¬∀ (agent : Agent) (calls : List AgentCall),
    Between AgentCall.apply (Later Forward) agent calls := by
  intro h
  let agent : Agent := { id := ⟨1⟩, createdAt := 0, updatedAt := 0, tenantId := ⟨3⟩, name := "a" }
  let calls : List AgentCall := [⟨.createVersion 1 "p" [] "m" ⟨5⟩, 1⟩,
    ⟨.createVersion 2 "q" [] "m" ⟨6⟩, 2⟩, ⟨.publishVersion 1, 3⟩, ⟨.publishVersion 2, 4⟩]
  have hlater := h agent (calls ++ [⟨.publishVersion 1, 5⟩]) calls _ (List.prefix_refl _)
  have hbefore : ((after AgentCall.apply agent calls).versions[0]?.map AgentVersion.status) =
    some .archived := by decide +kernel
  have hafter : ((after AgentCall.apply agent (calls ++ [⟨.publishVersion 1, 5⟩])).versions[0]?.map
    AgentVersion.status) = some .published := by decide +kernel
  obtain ⟨v, hv, hvstatus⟩ := Option.map_eq_some_iff.1 hbefore
  obtain ⟨w, hw, hforward⟩ := hlater 0 v hv
  rw [hw, Option.map_some, Option.some.injEq] at hafter
  rw [Forward, hvstatus, hafter] at hforward
  exact absurd hforward (by decide)

end Agent

end AgentRuntime
