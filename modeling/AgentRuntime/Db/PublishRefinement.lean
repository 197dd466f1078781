import AgentRuntime.Db.AgentSession

/-!
# Two ways to publish a version

A version is published twice: by `Agent.publish_version` in the loaded aggregate, and by
`SQLAgentRepository.publish_version` in the rows. The aggregate looks for its target first and leaves
alone one that is published; the repository archives, then looks for its target, and publishes it in any
case. `VersionStatus.publishIn` says what either is for, on the statuses alone, and `publishVersion_refines`
that the rows of an agent and its aggregate stay together, as they are when the agent is loaded
(`AgentRepository.statuses_of_get`).
-/

namespace AgentRuntime

open Interaction

/-- The status of a version. -/
structure VersionStatus where
  id : UUID
  version : Int
  status : AgentStatus
  deriving DecidableEq, Repr

namespace VersionStatus

/-- A version is published by its number; else it is archived if it was published. -/
def publish (version : Int) (self : VersionStatus) : VersionStatus :=
  if self.version = version then { self with status := .published }
  else if self.status = .published then { self with status := .archived }
  else self

/-- The version with the number is published. -/
theorem publish_of_eq {self : VersionStatus} {version : Int} (h : self.version = version) :
    self.publish version = ⟨self.id, self.version, .published⟩ := if_pos h

/-- Another version that is published is archived. -/
theorem publish_of_published {self : VersionStatus} {version : Int} (h : self.version ≠ version)
    (hpublished : self.status = .published) :
    self.publish version = ⟨self.id, self.version, .archived⟩ := by
  rw [publish, if_neg h, if_pos hpublished]

/-- Any other version stays as it is. -/
theorem publish_of_not_published {self : VersionStatus} {version : Int} (h : self.version ≠ version)
    (hpublished : self.status ≠ .published) : self.publish version = self := by
  rw [publish, if_neg h, if_neg hpublished]

/-- Publish a version among those of its agent. A number that none of them has publishes nothing. -/
def publishIn (version : Int) (versions : List VersionStatus) : List VersionStatus :=
  if ∃ v ∈ versions, v.version = version then versions.map (publish version) else versions

/-- The elements of a list that has one at most. -/
theorem eq_of_length_le_one {α : Type} {l : List α} (h : l.length ≤ 1) {a b : α} (ha : a ∈ l)
    (hb : b ∈ l) : a = b := by
  obtain _ | ⟨c, _ | ⟨d, l⟩⟩ := l
  · cases ha
  · exact (List.mem_singleton.1 ha).trans (List.mem_singleton.1 hb).symm
  · simp at h

/-- Without a version of the number, nothing changes. -/
theorem publishIn_of_forall_ne {version : Int} {versions : List VersionStatus}
    (h : ∀ v ∈ versions, v.version ≠ version) : publishIn version versions = versions :=
  if_neg fun ⟨v, hv, hversion⟩ => h v hv hversion

/-- With one, every version of the agent is published, archived or left by its own number and status. -/
theorem publishIn_of_mem {version : Int} {versions : List VersionStatus} {v : VersionStatus}
    (hv : v ∈ versions) (hversion : v.version = version) :
    publishIn version versions = versions.map (publish version) :=
  if_pos ⟨v, hv, hversion⟩

/-- The order of the versions does not matter. -/
theorem publishIn_perm {versions versions' : List VersionStatus} (h : versions.Perm versions')
    (version : Int) : (publishIn version versions).Perm (publishIn version versions') := by
  by_cases hfound : ∃ v ∈ versions, v.version = version
  · obtain ⟨v, hv, hversion⟩ := hfound
    rw [publishIn_of_mem hv hversion, publishIn_of_mem (h.mem_iff.1 hv) hversion]
    exact h.map _
  · have hmissing : ∀ v ∈ versions, v.version ≠ version := fun v hv hversion => hfound ⟨v, hv, hversion⟩
    rw [publishIn_of_forall_ne hmissing]
    rw [publishIn_of_forall_ne fun v hv => hmissing v (h.mem_iff.2 hv)]
    exact h

/-- With one published version at most, one is published as it is. -/
theorem publishIn_of_published {version : Int} {versions : List VersionStatus}
    (hnumbers : (versions.map VersionStatus.version).Nodup)
    (hone : (versions.filter fun v => v.status = .published).length ≤ 1) {v : VersionStatus}
    (hv : v ∈ versions) (hversion : v.version = version) (hpublished : v.status = .published) :
    publishIn version versions = versions := by
  have hsame : ∀ w ∈ versions, w.publish version = w := by
    intro w hw
    by_cases hnumber : w.version = version
    · obtain rfl : w = v := List.inj_on_of_nodup_map hnumbers hw hv (hnumber.trans hversion.symm)
      rw [publish_of_eq hnumber, ← hpublished]
    · have hother : w.status ≠ .published := by
        intro hstatus
        obtain rfl : w = v := eq_of_length_le_one hone (List.mem_filter.2 ⟨hw, by simpa using hstatus⟩)
          (List.mem_filter.2 ⟨hv, by simpa using hpublished⟩)
        exact hnumber hversion
      exact publish_of_not_published hnumber hother
  rw [publishIn_of_mem hv hversion, List.map_congr_left hsame, List.map_id']

end VersionStatus

/-! ## The aggregate -/

/-- The status of a loaded version. -/
def AgentVersion.toStatus (self : AgentVersion) : VersionStatus :=
  { id := self.id, version := self.version, status := self.status }

/-- The statuses of the loaded versions. -/
def Agent.statuses (self : Agent) : List VersionStatus := self.versions.map AgentVersion.toStatus

/-- To set an element of a mapped list is to map it another way, where a key tells the elements apart. -/
theorem map_set_of_nodup {α β γ : Type} [DecidableEq γ] {key : α → γ} {l : List α}
    (h : (l.map key).Nodup) {i : Nat} {a : α} (hi : l[i]? = some a) (f g : α → β) :
    (l.map f).set i (g a) = l.map fun b => if key b = key a then g b else f b := by
  obtain ⟨hlt, rfl⟩ := List.getElem?_eq_some_iff.1 hi
  refine List.ext_getElem (by simp) fun j hj hj' => ?_
  have hjl : j < l.length := by simpa using hj'
  have hkey : key l[j] = key l[i] ↔ i = j := by
    have hj'' : j < (l.map key).length := by simpa using hjl
    have hi'' : i < (l.map key).length := by simpa using hlt
    rw [← List.getElem_map key (h := hj''), ← List.getElem_map key (h := hi''), h.getElem_inj_iff]
    exact eq_comm
  rw [List.getElem_set, List.getElem_map, List.getElem_map]
  by_cases hij : i = j
  · subst hij
    rw [if_pos rfl, if_pos rfl]
  · rw [if_neg hij, if_neg (mt hkey.1 hij)]

/-- Archiving a version that is not the target. -/
theorem AgentVersion.toStatus_archived {self : AgentVersion} {version : Int}
    (h : self.version ≠ version) (now : Time) :
    (self.archived now).toStatus = self.toStatus.publish version := by
  unfold archived VersionStatus.publish toStatus
  rw [if_neg h]
  split_ifs <;> rfl

/-- `Agent.publish_version`, on the statuses. -/
theorem Agent.publishVersion_statuses {self : Agent}
    (hnumbers : (self.statuses.map VersionStatus.version).Nodup)
    (hone : (self.statuses.filter fun v => v.status = .published).length ≤ 1) (version : Int)
    (now : Time) :
    ((publishVersion version now).on self).2.statuses =
      VersionStatus.publishIn version self.statuses := by
  cases hget : self.getVersion version with
  | none =>
    have hmissing : ∀ v ∈ self.statuses, v.version ≠ version := by
      intro v hv
      obtain ⟨w, hw, rfl⟩ := List.mem_map.1 hv
      have hnumber : ¬w.version = version := by simpa using List.find?_eq_none.1 hget w hw
      exact hnumber
    rw [VersionStatus.publishIn_of_forall_ne hmissing]
    simp [publishVersion, hget]
  | some v =>
    have hv : v.toStatus ∈ self.statuses := List.mem_map_of_mem (List.mem_of_find?_eq_some hget)
    have hversion : v.version = version := by simpa using List.find?_some hget
    by_cases hpublished : v.status = .published
    · rw [VersionStatus.publishIn_of_published hnumbers hone hv hversion hpublished]
      simp [publishVersion, hget, hpublished]
    · obtain ⟨i, hi, hversions⟩ := publishVersion_versions hget hpublished now
      have hnodup : (self.versions.map AgentVersion.version).Nodup := by
        simpa [statuses, Function.comp_def, AgentVersion.toStatus] using hnumbers
      rw [VersionStatus.publishIn_of_mem hv hversion, statuses, statuses, hversions]
      rw [map_set_of_nodup hnodup hi (AgentVersion.archived now)
        fun w => { w with status := .published, updatedAt := now }]
      rw [List.map_map, List.map_map]
      refine List.map_congr_left fun w _ => ?_
      by_cases hnumber : w.version = version
      · simp [hnumber, hversion, AgentVersion.toStatus, VersionStatus.publish]
      · have hother : w.version ≠ v.version := fun h => hnumber (h.trans hversion)
        simpa [hother] using AgentVersion.toStatus_archived hnumber now

/-! ## The rows -/

/-- The status of a stored version. -/
def AgentVersionRow.toStatus (self : AgentVersionRow) : VersionStatus :=
  { id := self.id, version := self.version, status := self.status }

/-- The statuses of the stored versions of an agent. -/
def Tables.statuses (self : Tables) (agentId : UUID) : List VersionStatus :=
  (self.versionsOf agentId).map AgentVersionRow.toStatus

/-- A new status of a row is its new status in the abstract list. -/
theorem AgentVersionRow.toStatus_setStatus (self : AgentVersionRow) (status : AgentStatus)
    (now : Time) : (self.setStatus status now).toStatus = ⟨self.id, self.version, status⟩ := by
  unfold setStatus toStatus
  split
  · next h => rw [h]
  · rfl

/-- The stored versions of an agent are those that `get` decodes. -/
theorem AgentRepository.statuses_loadedAgent (tables : Tables) (row : AgentRow) :
    (loadedAgent tables row).statuses = tables.statuses row.id := by
  unfold Agent.statuses Tables.statuses loadedAgent
  rw [List.map_map]
  refine List.map_congr_left fun version _ => ?_
  change (versionEntity version).withDefaultPolicy.toStatus = version.toStatus
  unfold AgentVersion.withDefaultPolicy
  split <;> rfl

/-- What `get` loads has the statuses of the rows. -/
theorem AgentRepository.statuses_of_get {tables : Tables} {agentId : UUID} {agent : Agent}
    (h : ((get agentId).on tables).1 = .ok (some agent)) :
    agent.statuses = tables.statuses agentId := by
  rw [get_on] at h
  cases hfind : tables.findAgent agentId with
  | none => simp [hfind] at h
  | some row =>
    have hid : row.id = agentId := by simpa using List.find?_some hfind
    obtain ⟨agent', hentity, hagent⟩ := map_eq_ok.1 (by simpa [hfind] using h)
    obtain ⟨-, -, rfl⟩ := toEntity_eq_ok.1 hentity
    obtain rfl := Option.some.inj hagent
    rw [statuses_loadedAgent, hid]

namespace AgentSession

variable {tables : Tables} {agentId : UUID}

/-- A flush gives every row of the agent the status that was assigned to it last. -/
theorem versionsOf_flushed (assigned : List (UUID × AgentStatus)) (now : Time) :
    (flushed assigned now tables).versionsOf agentId = (tables.versionsOf agentId).map fun row =>
      row.setStatus (statusOf { tables, assigned } row) now := by
  unfold Tables.versionsOf flushed
  rw [List.filter_map]
  refine congrArg (List.map _) (List.filter_congr fun row _ => ?_)
  simp only [Function.comp_apply, AgentVersionRow.setStatus_agentId]

/-- What a call has assigned to a row of the agent when it flushes is what publishing makes of it. -/
theorem statusOf_selected (hids : (tables.agentVersions.map AgentVersionRow.id).Nodup)
    {current : Option AgentVersionRow} (hcurrent : tables.publishedOf agentId = current.toList)
    {version : Int} {model : AgentVersionRow}
    (hfound : ((tables.versionsOf agentId).filter fun row => row.version = version) = [model])
    {row : AgentVersionRow} (hrow : row ∈ tables.versionsOf agentId) (now : Time) :
    (row.setStatus (statusOf { tables, assigned := (model.id, .published) :: archives current } row)
      now).toStatus = row.toStatus.publish version := by
  have hunique {row' : AgentVersionRow} (hrow' : row' ∈ tables.versionsOf agentId)
      (h : row.id = row'.id) : row = row' :=
    List.inj_on_of_nodup_map hids (List.mem_filter.1 hrow).1 (List.mem_filter.1 hrow').1 h
  have hmodel : model ∈ tables.versionsOf agentId ∧ model.version = version := by
    have hmem : model ∈ (tables.versionsOf agentId).filter fun row => row.version = version := by
      rw [hfound]
      exact List.mem_singleton_self model
    simpa using hmem
  rw [AgentVersionRow.toStatus_setStatus]
  by_cases hnumber : row.version = version
  · have hmem : row ∈ (tables.versionsOf agentId).filter fun row => row.version = version :=
      List.mem_filter.2 ⟨hrow, by simpa using hnumber⟩
    obtain rfl : row = model := by simpa [hfound] using hmem
    have htarget : row.toStatus.version = version := hnumber
    rw [statusOf_cons_self, VersionStatus.publish_of_eq htarget]
    rfl
  · have hother : row.toStatus.version ≠ version := hnumber
    have hid : row.id ≠ model.id := by
      intro h
      obtain rfl := hunique hmodel.1 h
      exact hnumber hmodel.2
    have hpublished : row.status = .published ↔ row ∈ current.toList := by
      rw [← hcurrent, Tables.publishedOf, List.mem_filter, and_iff_right hrow, decide_eq_true_eq]
    rw [statusOf_cons_of_ne hid]
    by_cases hstatus : row.status = .published
    · obtain rfl : current = some row := by simpa using hpublished.1 hstatus
      have hcurrentStatus : row.toStatus.status = .published := hstatus
      rw [archives, Option.map_some, Option.toList_some, statusOf_cons_self]
      rw [VersionStatus.publish_of_published hother hcurrentStatus]
      rfl
    · have hloaded : statusOf { tables, assigned := archives current } row = row.status := by
        cases current with
        | none => rfl
        | some current =>
          have hid' : row.id ≠ current.id := by
            intro h
            have hcurrentRow : current ∈ tables.publishedOf agentId := by simp [hcurrent]
            obtain rfl := hunique (List.mem_filter.1 hcurrentRow).1 h
            exact hstatus (by simpa using (List.mem_filter.1 hcurrentRow).2)
          exact statusOf_cons_of_ne hid' ..
      have hotherStatus : row.toStatus.status ≠ .published := hstatus
      rw [hloaded, VersionStatus.publish_of_not_published hother hotherStatus]
      rfl

/-- `SQLAgentRepository.publish_version`, on the statuses. -/
theorem publishVersion_statuses (hids : (tables.agentVersions.map AgentVersionRow.id).Nodup)
    (hnumbers : ((tables.versionsOf agentId).map AgentVersionRow.version).Nodup)
    (hone : (tables.publishedOf agentId).length ≤ 1) (lazyLoad : Except PyError Unit) (version : Int)
    (now : Time) :
    ((publishVersion lazyLoad agentId version now).on { tables }).2.tables.statuses agentId =
      VersionStatus.publishIn version (tables.statuses agentId) := by
  obtain ⟨current, hcurrent⟩ | hmany := tables.publishedOf_cases agentId
  · cases hfind : (tables.versionsOf agentId).find? fun row => row.version = version with
    | none =>
      have hfound : ∀ row ∈ tables.versionsOf agentId, row.version ≠ version := by simpa using hfind
      have hmissing : ∀ v ∈ tables.statuses agentId, v.version ≠ version := by
        simpa [Tables.statuses, AgentVersionRow.toStatus] using hfound
      rw [publishVersion_on_none lazyLoad now hcurrent hfound]
      exact (VersionStatus.publishIn_of_forall_ne hmissing).symm
    | some model =>
      have hfound : ((tables.versionsOf agentId).filter fun row => row.version = version) = [model] := by
        rw [filter_eq_find? hnumbers, hfind]
        rfl
      have hmodel : model.toStatus ∈ tables.statuses agentId :=
        List.mem_map_of_mem (List.mem_of_find?_eq_some hfind)
      have hversion : model.version = version := by simpa using List.find?_some hfind
      rw [publishVersion_on_some lazyLoad now hcurrent hfound]
      rw [VersionStatus.publishIn_of_mem hmodel hversion]
      unfold Tables.statuses
      rw [versionsOf_flushed, List.map_map, List.map_map]
      exact List.map_congr_left fun row hrow => statusOf_selected hids hcurrent hfound hrow now
  · omega

/-- To publish the published version is to send nothing. -/
theorem flushed_published (hids : (tables.agentVersions.map AgentVersionRow.id).Nodup)
    {model : AgentVersionRow} (hpublished : tables.publishedOf agentId = [model]) (now : Time) :
    flushed ((model.id, .published) :: archives (some model)) now tables = tables := by
  have hmem : model ∈ tables.agentVersions ∧ model.agentId = agentId ∧ model.status = .published :=
    Tables.mem_publishedOf.1 (by rw [hpublished]; exact List.mem_singleton_self model)
  have hcurrent : tables.publishedOf agentId = (some model).toList := hpublished
  have hsame : ∀ row ∈ tables.agentVersions, row.setStatus (statusOf
      { tables, assigned := (model.id, .published) :: archives (some model) } row) now = row := by
    intro row hrow
    rw [setStatus_statusOf hids hcurrent hmem.1 hrow, hpublished]
    by_cases hid : row.id = model.id
    · obtain rfl : row = model := List.inj_on_of_nodup_map hids hrow hmem.1 hid
      rw [if_pos rfl]
      exact if_pos hmem.2.2
    · have hid' : ¬model.id = row.id := fun h => hid h.symm
      simp [hid, hid']
  unfold flushed
  rw [List.map_congr_left hsame, List.map_id']

/-- The two ways to publish a version leave the same statuses, in the rows of an agent and in the aggregate
that was loaded from them. Without a version with the number both raise and leave all as it was; so do
both if it is the published one. -/
theorem publishVersion_refines (hids : (tables.agentVersions.map AgentVersionRow.id).Nodup)
    (hnumbers : ((tables.versionsOf agentId).map AgentVersionRow.version).Nodup)
    (hone : (tables.publishedOf agentId).length ≤ 1) {agent : Agent}
    (hloaded : agent.statuses.Perm (tables.statuses agentId)) (lazyLoad : Except PyError Unit)
    (version : Int) (now now' : Time) :
    let stored := (publishVersion lazyLoad agentId version now).on { tables }
    let loaded := (Agent.publishVersion version now').on agent
    loaded.2.statuses.Perm (stored.2.tables.statuses agentId) ∧
    ((∀ row ∈ tables.versionsOf agentId, row.version ≠ version) →
      stored.1 = .error (.valueError s!"Version {version} not found for agent {agentId.str}") ∧
      loaded.1 = .error (.valueError s!"Version {version} not found") ∧
      stored.2.tables = tables ∧ loaded.2 = agent) ∧
    ∀ row ∈ tables.publishedOf agentId, row.version = version →
      stored.2.tables = tables ∧ loaded.2 = agent := by
  intro stored loaded
  have hmem (v : VersionStatus) : v ∈ agent.statuses ↔ v ∈ tables.statuses agentId := hloaded.mem_iff
  have hnumbers' : (agent.statuses.map VersionStatus.version).Nodup := by
    refine (hloaded.map VersionStatus.version).nodup_iff.2 ?_
    simpa [Tables.statuses, Function.comp_def, AgentVersionRow.toStatus] using hnumbers
  have hone' : (agent.statuses.filter fun v => v.status = .published).length ≤ 1 := by
    rw [(hloaded.filter _).length_eq, Tables.statuses, List.filter_map, List.length_map]
    exact hone
  refine ⟨?_, fun hmissing => ?_, fun row hrow hversion => ?_⟩
  · rw [Agent.publishVersion_statuses hnumbers' hone' version now']
    rw [publishVersion_statuses hids hnumbers hone lazyLoad version now]
    exact VersionStatus.publishIn_perm hloaded version
  · have hget : agent.getVersion version = none := by
      refine List.find?_eq_none.2 fun v hv hversion => ?_
      have hv' : v.toStatus ∈ tables.statuses agentId := (hmem _).1 (List.mem_map_of_mem hv)
      obtain ⟨row, hrow, hstatus⟩ := List.mem_map.1 hv'
      have hnumber : row.version = v.version := congrArg VersionStatus.version hstatus
      exact hmissing row hrow (hnumber.trans (by simpa using hversion))
    obtain ⟨current, hcurrent⟩ | hmany := tables.publishedOf_cases agentId
    · have hstored : stored = _ := publishVersion_on_none lazyLoad now hcurrent hmissing
      have hraised : loaded = (.error (.valueError s!"Version {version} not found"), agent) := by
        simp [loaded, Agent.publishVersion, hget]
      rw [hstored, hraised]
      exact ⟨rfl, rfl, rfl, rfl⟩
    · omega
  · have hmemVersions : row ∈ tables.versionsOf agentId := (List.mem_filter.1 hrow).1
    have hpublished : tables.publishedOf agentId = (some row).toList := by
      obtain ⟨current, hcurrent⟩ | hmany := tables.publishedOf_cases agentId
      · obtain rfl : current = some row := by simpa [hcurrent] using hrow
        exact hcurrent
      · omega
    constructor
    · have hfound : ((tables.versionsOf agentId).filter fun row => row.version = version) = [row] := by
        have htarget : row ∈ (tables.versionsOf agentId).filter fun row => row.version = version :=
          List.mem_filter.2 ⟨hmemVersions, by simpa using hversion⟩
        rw [filter_eq_find? hnumbers, Option.mem_toList] at htarget
        rw [filter_eq_find? hnumbers, htarget]
        rfl
      have hstored : stored = _ := publishVersion_on_some lazyLoad now hpublished hfound
      rw [hstored]
      exact flushed_published hids hpublished now
    · have hstatus : row.toStatus ∈ agent.statuses := (hmem _).2 (List.mem_map_of_mem hmemVersions)
      cases hget : agent.getVersion version with
      | none => simp [loaded, Agent.publishVersion, hget]
      | some v =>
        have hv : v.toStatus ∈ agent.statuses := List.mem_map_of_mem (List.mem_of_find?_eq_some hget)
        have hnumber : v.version = version := by simpa using List.find?_some hget
        have hsame : v.toStatus = row.toStatus :=
          List.inj_on_of_nodup_map hnumbers' hv hstatus (hnumber.trans hversion.symm)
        have hvStatus : v.status = .published :=
          (congrArg VersionStatus.status hsame).trans (Tables.mem_publishedOf.1 hrow).2.2
        simp [loaded, Agent.publishVersion, hget, hvStatus]

def agentRow : AgentRow :=
  { id := ⟨1⟩, createdAt := 0, updatedAt := 0, tenantId := ⟨3⟩, name := "a", description := none }

/-- An agent with an archived, a published and a draft version. -/
def threeVersions : Tables :=
  let version (id : Nat) (version : Int) (status : AgentStatus) : AgentVersionRow :=
    { id := ⟨id⟩, createdAt := 0, updatedAt := 0, agentId := ⟨1⟩, tenantId := ⟨3⟩, version,
      systemPrompt := "p", modelPolicy := [], memoryMode := "m", status }
  { agents := [agentRow]
    agentVersions := [version 5 1 .archived, version 6 2 .published, version 7 3 .draft] }

/-- The draft is published. -/
theorem publishVersion_refines_sample :
    let agent := AgentRepository.loadedAgent threeVersions agentRow
    let stored := (publishVersion (.ok ()) ⟨1⟩ 3 9).on { tables := threeVersions }
    let loaded := (Agent.publishVersion 3 8).on agent
    (threeVersions.agentVersions.map AgentVersionRow.id).Nodup ∧
    ((threeVersions.versionsOf ⟨1⟩).map AgentVersionRow.version).Nodup ∧
    (threeVersions.publishedOf ⟨1⟩).length ≤ 1 ∧
    agent.statuses.Perm (threeVersions.statuses ⟨1⟩) ∧
    loaded.2.statuses.Perm (stored.2.tables.statuses ⟨1⟩) ∧
    stored.2.tables.statuses ⟨1⟩ = [⟨⟨5⟩, 1, .archived⟩, ⟨⟨6⟩, 2, .archived⟩, ⟨⟨7⟩, 3, .published⟩] := by
  have hids : (threeVersions.agentVersions.map AgentVersionRow.id).Nodup := by decide
  have hnumbers : ((threeVersions.versionsOf ⟨1⟩).map AgentVersionRow.version).Nodup := by decide
  have hone : (threeVersions.publishedOf ⟨1⟩).length ≤ 1 := by decide
  have hloaded := List.Perm.of_eq (AgentRepository.statuses_loadedAgent threeVersions agentRow)
  exact ⟨hids, hnumbers, hone, hloaded,
    (publishVersion_refines hids hnumbers hone hloaded (.ok ()) 3 9 8).1, by decide⟩

end AgentSession

end AgentRuntime
