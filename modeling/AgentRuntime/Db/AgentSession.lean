import AgentRuntime.Db.AgentRepository
import AgentRuntime.Domain.AgentHistory

/-!
# Publishing in a session

`SQLAgentRepository.publish_version` (`app/infrastructure/db/repositories/agent.py`) statement by
statement. The session factories set `autoflush=False`: what a call assigns to a loaded row is not in the
tables before a flush, and a select does not see it. So a call that does not find its target raises when
it has assigned `ARCHIVED` to the published row and has sent nothing (`publishVersion_on_none`); when
`get_session` (`app/infrastructure/db/session.py`) rolls back, the assignment is forgotten.
`publishVersion_eq_repository` says that the statements add up to `AgentRepository.publishVersion`.
-/

namespace AgentRuntime

open Interaction

/-- The session of a call: the rows as the open transaction has them, and the statuses that are assigned
to loaded rows and not flushed, the last one first. -/
structure AgentSession where
  tables : Tables
  assigned : List (UUID × AgentStatus) := []

namespace AgentSession

/-- The status of a row as the session has loaded it. -/
def statusOf (self : AgentSession) (row : AgentVersionRow) : AgentStatus :=
  (self.assigned.lookup row.id).getD row.status

/-- Where nothing was assigned, the status is that of the row. -/
@[simp] theorem statusOf_nil (tables : Tables) (row : AgentVersionRow) :
    statusOf { tables } row = row.status := rfl

/-- The last assignment to a row is its status. -/
@[simp] theorem statusOf_cons_self (tables : Tables) (row : AgentVersionRow) (status : AgentStatus)
    (assigned : List (UUID × AgentStatus)) :
    statusOf { tables, assigned := (row.id, status) :: assigned } row = status := by
  simp [statusOf]

/-- An assignment to another row is not. -/
theorem statusOf_cons_of_ne {row : AgentVersionRow} {id : UUID} (h : row.id ≠ id) (tables : Tables)
    (status : AgentStatus) (assigned : List (UUID × AgentStatus)) :
    statusOf { tables, assigned := (id, status) :: assigned } row =
      statusOf { tables, assigned } row := by
  simp [statusOf, List.lookup_cons, beq_eq_false_iff_ne.2 h]

/-- `select(AgentVersionModel)` with `scalar_one_or_none`. -/
def selectOne (agentId : UUID) (condition : AgentVersionRow → Bool) :
    Method PyError AgentSession (Option AgentVersionRow) := do
  let self ← get
  match (self.tables.versionsOf agentId).filter condition with
  | [] => return none
  | [model] => return some model
  | _ => throw (.external "MultipleResultsFound")

/-- Assign the status of a loaded row. -/
def assign (model : AgentVersionRow) (status : AgentStatus) : Method PyError AgentSession Unit :=
  modify fun self => { self with assigned := (model.id, status) :: self.assigned }

/-- `flush`: send the statuses that are not those of the rows. -/
def flush (now : Time) : Method PyError AgentSession Unit :=
  modify fun self =>
    { tables := { self.tables with
        agentVersions := self.tables.agentVersions.map fun row => row.setStatus (self.statusOf row) now } }

/-- `publish_version`. -/
def publishVersion (lazyLoad : Except PyError Unit) (agentId : UUID) (version : Int) (now : Time) :
    Method PyError AgentSession AgentVersion := do
  let current ← selectOne agentId fun row => row.status = .published
  if let some current := current then
    assign current .archived
  match ← selectOne agentId fun row => row.version = version with
  | none => throw (.valueError s!"Version {version} not found for agent {agentId.str}")
  | some model =>
    assign model .published
    flush now
    Method.ofExcept lazyLoad
    let self ← get
    Method.ofExcept (AgentRepository.versionToEntity self.tables (model.setStatus .published now))

/-! ## A call is the repository's method -/

variable {tables : Tables} {agentId : UUID}

/-- A select that matches at most one row returns it. -/
theorem selectOne_on {self : AgentSession} {condition : AgentVersionRow → Bool}
    {found : Option AgentVersionRow}
    (h : (self.tables.versionsOf agentId).filter condition = found.toList) :
    (selectOne agentId condition).on self = (.ok found, self) := by
  rw [selectOne, Method.on_bind, Method.on_get]
  cases found with
  | none => simp [h]
  | some model => simp [h]

/-- A select that matches several rows raises. -/
theorem selectOne_on_many {self : AgentSession} {condition : AgentVersionRow → Bool}
    (h : 1 < ((self.tables.versionsOf agentId).filter condition).length) :
    (selectOne agentId condition).on self = (.error (.external "MultipleResultsFound"), self) := by
  rw [selectOne, Method.on_bind, Method.on_get]
  rcases hrows : (self.tables.versionsOf agentId).filter condition with _ | ⟨row, _ | ⟨row', rows⟩⟩
  · simp [hrows] at h
  · simp [hrows] at h
  · simp [hrows]

/-- What a call has assigned before it looks for its target. -/
def archives (current : Option AgentVersionRow) : List (UUID × AgentStatus) :=
  (current.map fun current => (current.id, AgentStatus.archived)).toList

/-- The tables after a flush of these assignments. -/
def flushed (assigned : List (UUID × AgentStatus)) (now : Time) (tables : Tables) : Tables :=
  { tables with
    agentVersions := tables.agentVersions.map fun row =>
      row.setStatus (statusOf { tables, assigned } row) now }

section
variable (lazyLoad : Except PyError Unit) {version : Int} (now : Time) {current : Option AgentVersionRow}
  (hcurrent : tables.publishedOf agentId = current.toList)

include hcurrent in
/-- The call after its first select, whatever it selects next. -/
theorem publishVersion_on_eq (found : Option AgentVersionRow) :
    ((tables.versionsOf agentId).filter fun row => row.version = version) = found.toList →
    (publishVersion lazyLoad agentId version now).on { tables } =
      (match found with
        | none => throw (.valueError s!"Version {version} not found for agent {agentId.str}")
        | some model => do
          assign model .published
          flush now
          Method.ofExcept lazyLoad
          let self ← get
          Method.ofExcept (AgentRepository.versionToEntity self.tables
            (model.setStatus .published now)) : Method PyError AgentSession AgentVersion).on
        { tables, assigned := archives current } := by
  intro hfound
  have hselectPublished : (selectOne agentId fun row => row.status = .published).on { tables } =
      (.ok current, { tables }) := selectOne_on hcurrent
  have hselect (assigned : List (UUID × AgentStatus)) : (selectOne agentId fun row =>
      row.version = version).on { tables, assigned } = (.ok found, { tables, assigned }) :=
    selectOne_on hfound
  rw [publishVersion, Method.on_bind, hselectPublished]
  cases current with
  | none =>
    dsimp only
    rw [Method.on_bind, hselect]
    cases found <;> rfl
  | some current =>
    have hassign : (assign current .archived).on { tables } =
        (.ok (), { tables, assigned := archives (some current) }) := rfl
    dsimp only
    rw [Method.on_bind, hassign]
    dsimp only
    rw [Method.on_bind, hselect]

include hcurrent in
/-- Without its target a call has only assigned. -/
theorem publishVersion_on_none
    (hfound : ∀ row ∈ tables.versionsOf agentId, row.version ≠ version) :
    (publishVersion lazyLoad agentId version now).on { tables } =
      (.error (.valueError s!"Version {version} not found for agent {agentId.str}"),
        { tables, assigned := archives current }) := by
  refine publishVersion_on_eq lazyLoad now hcurrent none ?_
  simpa using hfound

include hcurrent in
/-- With its target a call flushes. -/
theorem publishVersion_on_some {model : AgentVersionRow}
    (hfound : ((tables.versionsOf agentId).filter fun row => row.version = version) = [model]) :
    (publishVersion lazyLoad agentId version now).on { tables } =
      let tables' := flushed ((model.id, .published) :: archives current) now tables
      (lazyLoad >>= fun _ => AgentRepository.versionToEntity tables'
        (model.setStatus .published now), { tables := tables' }) := by
  rw [publishVersion_on_eq lazyLoad now hcurrent (some model) hfound]
  cases lazyLoad with
  | error e => rfl
  | ok _ =>
    simp only [assign, flush, Method.on_bind, Method.on_modify, Method.on_ofExcept, Method.on_get]
    rfl

end

/-- Of values that are distinct in `key`, those with one value of `key` are what `find?` finds. -/
theorem filter_eq_find? {α β : Type} [DecidableEq β] {key : α → β} {l : List α} (h : (l.map key).Nodup)
    (b : β) : (l.filter fun a => key a = b) = (l.find? fun a => key a = b).toList := by
  induction l with
  | nil => rfl
  | cons a l ih =>
    obtain ⟨hfresh, hrest⟩ := List.nodup_cons.1 h
    by_cases ha : key a = b
    · have hnone : (l.filter fun a => key a = b) = [] := by
        refine List.filter_eq_nil_iff.2 fun c hc hkey => hfresh ?_
        rw [ha, ← of_decide_eq_true hkey]
        exact List.mem_map_of_mem hc
      simp [ha, hnone]
    · simpa [ha] using ih hrest

/-- What a flush makes of a row, if the row of the target and the published row are the only ones with
their primary keys. -/
theorem setStatus_statusOf (hids : (tables.agentVersions.map AgentVersionRow.id).Nodup)
    {current : Option AgentVersionRow} (hcurrent : tables.publishedOf agentId = current.toList)
    {model row : AgentVersionRow} (hmodel : model ∈ tables.agentVersions)
    (hrow : row ∈ tables.agentVersions) (now : Time) :
    row.setStatus (statusOf { tables, assigned := (model.id, .published) :: archives current } row) now =
      if row.id = model.id then model.setStatus .published now
      else if (tables.publishedOf agentId).any fun current => current.id = row.id then
        row.setStatus .archived now
      else row := by
  by_cases hid : row.id = model.id
  · obtain rfl : row = model := List.inj_on_of_nodup_map hids hrow hmodel hid
    rw [statusOf_cons_self, if_pos rfl]
  · have hsame : row.setStatus row.status now = row := if_pos rfl
    rw [if_neg hid, hcurrent, statusOf_cons_of_ne hid]
    cases current with
    | none => exact hsame
    | some current =>
      by_cases hrowCurrent : current.id = row.id
      · simp [archives, hrowCurrent]
      · have hother : row.id ≠ current.id := fun h => hrowCurrent h.symm
        rw [archives, Option.map_some, Option.toList_some, statusOf_cons_of_ne hother, statusOf_nil]
        simpa [hrowCurrent] using hsame

/-- The tables after the flush of a call. -/
theorem flushed_eq (hids : (tables.agentVersions.map AgentVersionRow.id).Nodup)
    {current : Option AgentVersionRow} (hcurrent : tables.publishedOf agentId = current.toList)
    {model : AgentVersionRow} (hmodel : model ∈ tables.agentVersions) (now : Time) :
    flushed ((model.id, .published) :: archives current) now tables =
      { tables with
        agentVersions := tables.agentVersions.map fun row =>
          if row.id = model.id then model.setStatus .published now
          else if (tables.publishedOf agentId).any fun current => current.id = row.id then
            row.setStatus .archived now
          else row } := by
  refine congrArg (fun rows => { tables with agentVersions := rows }) (List.map_congr_left ?_)
  intro row hrow
  exact setStatus_statusOf hids hcurrent hmodel hrow now

/-- The statements of a call add up to `AgentRepository.publishVersion`, with the keys of the schema:
whatever way they end, they give its answer and leave its tables. -/
theorem publishVersion_eq_repository (hids : (tables.agentVersions.map AgentVersionRow.id).Nodup)
    (hnumbers : ((tables.versionsOf agentId).map AgentVersionRow.version).Nodup)
    (lazyLoad : Except PyError Unit) (version : Int) (now : Time) :
    let call := (publishVersion lazyLoad agentId version now).on { tables }
    (call.1, call.2.tables) =
      (AgentRepository.publishVersion lazyLoad agentId version now).on tables := by
  rw [AgentRepository.publishVersion_on]
  obtain ⟨current, hcurrent⟩ | hmany := tables.publishedOf_cases agentId
  · have hone : ¬1 < (tables.publishedOf agentId).length := by
      rw [hcurrent]
      cases current <;> simp
    rw [if_neg hone]
    cases hfind : (tables.versionsOf agentId).find? fun row => row.version = version with
    | none =>
      have hfound : ∀ row ∈ tables.versionsOf agentId, row.version ≠ version := by simpa using hfind
      rw [publishVersion_on_none lazyLoad now hcurrent hfound]
    | some model =>
      have hmodel : model ∈ tables.agentVersions :=
        (List.mem_filter.1 (List.mem_of_find?_eq_some hfind)).1
      have hfound : ((tables.versionsOf agentId).filter fun row => row.version = version) = [model] := by
        rw [filter_eq_find? hnumbers, hfind]
        rfl
      rw [publishVersion_on_some lazyLoad now hcurrent hfound]
      simp only [flushed_eq hids hcurrent hmodel]
  · have hselect : (selectOne agentId fun row => row.status = .published).on { tables } =
        (.error (.external "MultipleResultsFound"), { tables }) := selectOne_on_many hmany
    rw [if_pos hmany, publishVersion, Method.on_bind, hselect]

end AgentSession

end AgentRuntime
