import AgentRuntime.Db.AgentRepository

/-!
# Grants in the database

A grant's policy is an object in the entity and JSON data in the table, and neither direction
converts: a flush of grants raises, and so does decoding a row of one. So a version that is saved is
loaded with its grants exactly if it has none and none are stored (`storesGrants_iff`).
-/

namespace AgentRuntime

open Interaction

namespace AgentRepository

variable (lazyLoad : Except PyError Unit)

/-- The row that `add_version` inserts. -/
def versionRow (version : AgentVersion) : AgentVersionRow :=
  { id := version.id, createdAt := version.createdAt, updatedAt := version.updatedAt,
    agentId := version.agentId, tenantId := version.tenantId, version := version.version,
    systemPrompt := version.systemPrompt, modelPolicy := version.modelPolicy,
    memoryMode := version.memoryMode, status := version.status }

/-- The row that `update_version` writes over `row`. -/
def updatedRow (version : AgentVersion) (row : AgentVersionRow) : AgentVersionRow :=
  { row with
    systemPrompt := version.systemPrompt, modelPolicy := version.modelPolicy,
    memoryMode := version.memoryMode, status := version.status, updatedAt := version.updatedAt }

/-- No row of `agent_versions` has a key of the version. -/
def KeysFree (tables : Tables) (version : AgentVersion) : Prop :=
  ∀ row ∈ tables.agentVersions, row.id ≠ version.id ∧
    ¬(row.agentId = version.agentId ∧ row.version = version.version)

/-- The identity of the version and its number name the same rows. -/
def Identified (tables : Tables) (version : AgentVersion) : Prop :=
  ∀ row ∈ tables.agentVersions, row.id = version.id ↔
    row.agentId = version.agentId ∧ row.version = version.version

instance (tables : Tables) (version : AgentVersion) : Decidable (Identified tables version) :=
  inferInstanceAs (Decidable (∀ _ ∈ _, _))

/-! ## What a save and a load do -/

/-- With free keys, a version without grants is inserted, and decoded. -/
theorem addVersion_on {tables : Tables} {version : AgentVersion} (hfree : KeysFree tables version) :
    (addVersion lazyLoad version).on tables =
      let tables' := { tables with agentVersions := tables.agentVersions ++ [versionRow version] }
      if version.toolGrants.isEmpty then
        (lazyLoad >>= fun _ => versionToEntity tables' (versionRow version), tables')
      else
        (.error (.external "StatementError"), tables') := by
  have hany : (tables.agentVersions.any fun row => row.id = version.id ∨
      row.agentId = version.agentId ∧ row.version = version.version) = false := by
    rw [List.any_eq_false]
    intro row hrow
    have := hfree row hrow
    simpa [not_or] using this
  simp only [addVersion, Method.on_bind, Method.on_get, Method.on_ite, hany, Bool.false_eq_true,
    if_false, Method.on_modify, addGrants]
  cases version.toolGrants.isEmpty <;> cases lazyLoad <;> simp [versionRow, bind, Except.bind]

/-- A version is inserted only if its keys are free. -/
theorem keysFree_of_addVersion {tables tables' : Tables} {version returned : AgentVersion}
    (h : (addVersion lazyLoad version).on tables = (.ok returned, tables')) :
    KeysFree tables version := by
  cases hany : tables.agentVersions.any fun row => row.id = version.id ∨
      row.agentId = version.agentId ∧ row.version = version.version with
  | true =>
    simp only [addVersion, Method.on_bind, Method.on_get, hany, if_true,
      integrityError, Method.on_throw, Prod.mk.injEq] at h
    cases h.1
  | false =>
    intro row hrow
    have hother := List.any_eq_false.1 hany row hrow
    simpa [not_or] using hother

/-- A stored version without grants is overwritten, and decoded. -/
theorem updateVersion_on {tables : Tables} {version : AgentVersion} {row : AgentVersionRow}
    (hfind : tables.agentVersions.find? (fun row => row.id = version.id) = some row) :
    (updateVersion version).on tables =
      let tables' := { tables with
        agentVersions := tables.agentVersions.map fun other =>
          if other.id = row.id then updatedRow version row else other }
      if version.toolGrants.isEmpty then
        (versionToEntity tables' (updatedRow version row), tables')
      else
        (.error (.external "StatementError"), tables) := by
  simp only [updateVersion, Method.on_bind, Method.on_get, hfind, addGrants]
  cases version.toolGrants.isEmpty <;> simp [updatedRow]

/-- A version is loaded from the row with its number, which must be decodable. -/
theorem getVersion_on_eq_some {agentId : UUID} {version : Int} {tables : Tables} {v : AgentVersion} :
    ((getVersion agentId version).on tables).1 = .ok (some v) ↔
      ∃ row, (tables.versionsOf agentId).find? (fun row => row.version = version) = some row ∧
        versionToEntity tables row = .ok v := by
  simp only [getVersion, Method.on_bind, Method.on_get]
  cases hfind : (tables.versionsOf agentId).find? fun row => row.version = version with
  | none => simp
  | some row =>
    cases hrow : versionToEntity tables row with
    | error e => simp [hrow, Except.map]
    | ok w => simp [hrow, Except.map]

/-- What is decoded has no grants. -/
theorem toolGrants_of_versionToEntity {tables : Tables} {row : AgentVersionRow} {v : AgentVersion}
    (h : versionToEntity tables row = .ok v) : v.toolGrants = [] := by
  obtain ⟨-, -, rfl⟩ := versionToEntity_eq_ok.1 h
  unfold AgentVersion.withDefaultPolicy
  split <;> rfl

/-- A row is accepted by the constructor if the version that it has the content of is. -/
theorem valid_iff_of_content {v w : AgentVersion} (hversion : w.version = v.version)
    (hprompt : w.systemPrompt = v.systemPrompt) (hpolicy : w.modelPolicy = v.modelPolicy)
    (hmode : w.memoryMode = v.memoryMode) : w.Valid ↔ v.Valid := by
  constructor
  · intro h
    exact ⟨hversion ▸ h.version, hprompt ▸ h.systemPrompt, hmode ▸ h.memoryMode,
      hpolicy ▸ h.modelPolicy⟩
  · intro h
    exact ⟨hversion ▸ h.version, hprompt ▸ h.systemPrompt, hmode ▸ h.memoryMode,
      hpolicy ▸ h.modelPolicy⟩

/-! ## The round trip -/

/-- The save returns, and the version is then loaded with exactly its grants, each of which decides
as the original. -/
def StoresGrants (save : Method PyError Tables AgentVersion) (tables : Tables)
    (version : AgentVersion) : Prop :=
  ∃ returned tables' loaded, save.on tables = (.ok returned, tables') ∧
    ((getVersion version.agentId version.version).on tables').1 = .ok (some loaded) ∧
    loaded.toolGrants = version.toolGrants ∧
    List.Forall₂ (fun original reloaded : ToolGrant => ∀ cel action resource context now,
      reloaded.evaluate cel action resource context now =
        original.evaluate cel action resource context now) version.toolGrants loaded.toolGrants

/-- What comes of a save that writes the version without grants to a row, and decodes it. -/
theorem storesGrants_of_saved {save : Method PyError Tables AgentVersion} {tables tables' : Tables}
    {version returned : AgentVersion} {row : AgentVersionRow} (hempty : version.toolGrants = [])
    (hsave : save.on tables = (.ok returned, tables'))
    (hfind : (tables'.versionsOf version.agentId).find? (fun row => row.version = version.version) =
      some row) (hrow : versionToEntity tables' row = .ok returned) :
    StoresGrants save tables version := by
  refine ⟨returned, tables', returned, hsave, getVersion_on_eq_some.2 ⟨row, hfind, hrow⟩, ?_, ?_⟩
  · rw [toolGrants_of_versionToEntity hrow, hempty]
  · rw [toolGrants_of_versionToEntity hrow, hempty]
    exact .nil

/-- Saving a new version keeps its grants exactly if there are none to keep, the keys are free, and the new
row can be decoded. -/
theorem storesGrants_addVersion_iff {tables : Tables} {version : AgentVersion} :
    StoresGrants (addVersion lazyLoad version) tables version ↔
      KeysFree tables version ∧ version.toolGrants = [] ∧ tables.grantsOf version.id = [] ∧
        version.Valid ∧ lazyLoad = .ok () := by
  have hvalid : (versionEntity (versionRow version)).Valid ↔ version.Valid :=
    valid_iff_of_content rfl rfl rfl rfl
  constructor
  · rintro ⟨returned, tables', loaded, hsave, -, -, -⟩
    have hfree := keysFree_of_addVersion lazyLoad hsave
    rw [addVersion_on lazyLoad hfree] at hsave
    cases hempty : version.toolGrants.isEmpty with
    | false => simp [hempty] at hsave
    | true =>
      simp only [hempty, if_true, Prod.mk.injEq] at hsave
      obtain ⟨⟨⟩, hlazy, hrow⟩ := bind_eq_ok.1 hsave.1
      obtain ⟨hrowValid, hgrants, -⟩ := versionToEntity_eq_ok.1 hrow
      exact ⟨hfree, List.isEmpty_iff.1 hempty, hgrants, hvalid.1 hrowValid, hlazy⟩
  · rintro ⟨hfree, hempty, hgrants, hversion, rfl⟩
    have hon := addVersion_on (.ok ()) hfree
    rw [hempty] at hon
    set tables' : Tables := { tables with
      agentVersions := tables.agentVersions ++ [versionRow version] } with htables'
    have hrow : versionToEntity tables' (versionRow version) = .ok _ :=
      versionToEntity_eq_ok.2 ⟨hvalid.2 hversion, hgrants, rfl⟩
    refine storesGrants_of_saved hempty (hon.trans ?_) ?_ hrow
    · exact Prod.ext hrow rfl
    · have hbefore : ((tables.versionsOf version.agentId).find? fun row =>
          row.version = version.version) = none := by
        rw [List.find?_eq_none]
        intro row hmem hnumber
        obtain ⟨hmem, hagent⟩ := List.mem_filter.1 hmem
        exact (hfree row hmem).2 ⟨by simpa using hagent, by simpa using hnumber⟩
      have hafter : tables'.versionsOf version.agentId =
          tables.versionsOf version.agentId ++ [versionRow version] := by
        simp [htables', Tables.versionsOf, versionRow]
      rw [hafter, List.find?_append, hbefore]
      simp [versionRow]

/-- Saving over a row keeps them exactly if there are none to keep, neither in the version nor in
the table. -/
theorem storesGrants_updateVersion_iff {tables : Tables} {version : AgentVersion}
    (hidentified : Identified tables version) :
    StoresGrants (updateVersion version) tables version ↔
      (∃ row ∈ tables.agentVersions, row.id = version.id) ∧ version.toolGrants = [] ∧
        tables.grantsOf version.id = [] ∧ version.Valid := by
  cases hfind : tables.agentVersions.find? fun row => row.id = version.id with
  | none =>
    refine iff_of_false ?_ ?_
    · rintro ⟨returned, tables', loaded, hsave, -, -, -⟩
      simp [updateVersion, hfind] at hsave
    · rintro ⟨⟨row, hrow, hid⟩, -⟩
      exact List.find?_eq_none.1 hfind row hrow (decide_eq_true hid)
  | some row =>
    have hmem : row ∈ tables.agentVersions := List.mem_of_find?_eq_some hfind
    have hid : row.id = version.id := by simpa using List.find?_some hfind
    obtain ⟨hagent, hnumber⟩ := (hidentified row hmem).1 hid
    have hvalid : (versionEntity (updatedRow version row)).Valid ↔ version.Valid :=
      valid_iff_of_content hnumber rfl rfl rfl
    have hon := updateVersion_on hfind
    rw [and_iff_right ⟨row, hmem, hid⟩]
    constructor
    · rintro ⟨returned, tables', loaded, hsave, -, -, -⟩
      rw [hon] at hsave
      cases hempty : version.toolGrants.isEmpty with
      | false => simp [hempty] at hsave
      | true =>
        simp only [hempty, if_true, Prod.mk.injEq] at hsave
        obtain ⟨hrowValid, hgrants, -⟩ := versionToEntity_eq_ok.1 hsave.1
        refine ⟨List.isEmpty_iff.1 hempty, ?_, hvalid.1 hrowValid⟩
        rw [← hid]
        exact hgrants
    · rintro ⟨hempty, hgrants, hversion⟩
      rw [hempty] at hon
      set tables' : Tables := { tables with
        agentVersions := tables.agentVersions.map fun other =>
          if other.id = row.id then updatedRow version row else other } with htables'
      have hrow : versionToEntity tables' (updatedRow version row) = .ok _ :=
        versionToEntity_eq_ok.2
          ⟨hvalid.2 hversion, (congrArg tables.grantsOf hid).trans hgrants, rfl⟩
      have honly : ∀ other ∈ tables'.versionsOf version.agentId,
          decide (other.version = version.version) = true → other = updatedRow version row := by
        intro other hother hotherNumber
        obtain ⟨hother, hotherAgent⟩ := List.mem_filter.1 hother
        obtain ⟨before, hbefore, rfl⟩ := List.mem_map.1 hother
        by_cases hsame : before.id = row.id
        · rw [if_pos hsame]
        · rw [if_neg hsame] at hotherAgent hotherNumber
          have hbeforeId : before.id = version.id := (hidentified before hbefore).2
            ⟨of_decide_eq_true hotherAgent, of_decide_eq_true hotherNumber⟩
          exact absurd (hbeforeId.trans hid.symm) hsame
      refine storesGrants_of_saved hempty (hon.trans (Prod.ext hrow rfl)) ?_ hrow
      refine (find?_eq_some_iff_of_unique fun a ha b hb han hbn =>
        (honly a ha han).trans (honly b hb hbn).symm).2 ⟨?_, decide_eq_true hnumber⟩
      exact List.mem_filter.2
        ⟨List.mem_map.2 ⟨row, hmem, if_pos rfl⟩, decide_eq_true hagent⟩

/-- A version is saved with its grants exactly if it has none, none are stored for it, its content is
acceptable and, where it is inserted, its keys are free and its grants can be loaded on the spot;
where it is overwritten, it is stored. -/
theorem storesGrants_iff (tables : Tables) (version : AgentVersion) :
    (StoresGrants (addVersion lazyLoad version) tables version ↔
      KeysFree tables version ∧ version.toolGrants = [] ∧ tables.grantsOf version.id = [] ∧
        version.Valid ∧ lazyLoad = .ok ()) ∧
    (Identified tables version →
      (StoresGrants (updateVersion version) tables version ↔
        (∃ row ∈ tables.agentVersions, row.id = version.id) ∧ version.toolGrants = [] ∧
          tables.grantsOf version.id = [] ∧ version.Valid)) :=
  ⟨storesGrants_addVersion_iff lazyLoad, storesGrants_updateVersion_iff⟩

/-- A version with one grant. -/
def grantedVersion : AgentVersion :=
  { id := ⟨5⟩, createdAt := 0, updatedAt := 0, agentId := ⟨1⟩, tenantId := ⟨3⟩, version := 1,
    systemPrompt := "p", modelPolicy := AgentVersion.getDefaultModelPolicy, memoryMode := "m",
    toolGrants := [⟨⟨6⟩, 0, 0, ⟨5⟩, "t", { toolName := "t" }, true⟩] }

/-- Neither save stores its grant: the policy is bound to its JSONB column as the object that it is. -/
theorem grantedVersion_not_storesGrants :
    ¬StoresGrants (addVersion (.ok ()) grantedVersion) {} grantedVersion ∧
    ¬StoresGrants (updateVersion grantedVersion) { agentVersions := [versionRow grantedVersion] }
      grantedVersion := by
  constructor
  · rintro ⟨_, _, _, hsave, -⟩
    have hfails : ((addVersion (.ok ()) grantedVersion).on {}).1.isOk = false := by decide
    rw [hsave] at hfails
    cases hfails
  · rintro ⟨_, _, _, hsave, -⟩
    have hfails : ((updateVersion grantedVersion).on
      { agentVersions := [versionRow grantedVersion] }).1.isOk = false := by decide
    rw [hsave] at hfails
    cases hfails

/-- The rows of the version with the grant and of the next version, which has none. -/
def grantedTables : Tables where
  agentVersions := [versionRow grantedVersion, versionRow { grantedVersion with id := ⟨7⟩, version := 2 }]
  toolGrants := [{ id := ⟨6⟩, agentVersionId := ⟨5⟩, toolName := "t", policy := [] }]

/-- Of the two versions over their rows, the one without grants is saved and the other is not. -/
theorem storesGrants_iff_sample :
    let version : AgentVersion := { grantedVersion with id := ⟨7⟩, version := 2, toolGrants := [] }
    StoresGrants (updateVersion version) grantedTables version ∧
      ¬StoresGrants (updateVersion grantedVersion) grantedTables grantedVersion := by
  intro version
  have hgranted : Identified grantedTables grantedVersion := by decide
  have hversion : Identified grantedTables version := by decide
  constructor
  · refine ((storesGrants_iff (.ok ()) grantedTables version).2 hversion).2
      ⟨?_, rfl, rfl, ⟨by decide, by decide, by decide, by decide⟩⟩
    exact ⟨_, List.mem_cons_of_mem _ List.mem_cons_self, rfl⟩
  · rw [(storesGrants_iff (.ok ()) grantedTables grantedVersion).2 hgranted]
    exact fun h => absurd h.2.1 (List.cons_ne_nil _ _)

end AgentRepository

end AgentRuntime
