import AgentRuntime.Db.AgentRepository
import AgentRuntime.Interaction.Pool

/-!
# Publishers of one agent

Calls of `publish_version` for one agent, each in a transaction of its own. A call selects the
published version, selects its target, and sends both changes of status in one flush; the rows that
the flush changes are locked until the transaction ends, so the flush and the end of the transaction
are one action here. Every select reads what is committed. A call alone is the repository's method
(`publishVersion_exec`).
-/

namespace AgentRuntime

open Interaction

namespace Publisher

/-- The statements of `publish_version`. The flush updates the rows whose status was changed in the
session: that of the version it archives, if any, and that of the selected `model`. -/
inductive Statement where
  | selectPublished (agentId : UUID)
  | selectVersion (agentId : UUID) (version : Int)
  | flush (archive : Option UUID) (model : AgentVersionRow)

/-- What a statement is answered by. The flush is answered by the version that the call returns. -/
@[reducible] def Statement.Ans : Statement → Type
  | .selectPublished _ => Except PyError (Option AgentVersionRow)
  | .selectVersion _ _ => Option AgentVersionRow
  | .flush _ _ => Except PyError AgentVersion

/-- A transaction of the repository, which has no object of its own. -/
abbrev Transaction := Proc Statement Statement.Ans PyError Unit

/-- `select(AgentVersionModel)` by the number. -/
def selectVersion (agentId : UUID) (version : Int) : Transaction (Option AgentVersionRow) :=
  Proc.call (Statement.selectVersion agentId version)

/-- The model whose status `publish_version` sets, of what it selected. -/
def selectedModel (current : Option AgentVersionRow) (model : AgentVersionRow) : AgentVersionRow :=
  (current.filter fun current => current.id = model.id).getD model

/-- The version that is archived, of what was selected: the current one, unless it is published
again. -/
def archivedId (current : Option AgentVersionRow) (model : AgentVersionRow) : Option UUID :=
  (current.map AgentVersionRow.id).filter fun id => id ≠ model.id

/-- `publish_version`. A row that the session has loaded is not loaded again. -/
def publishVersion (agentId : UUID) (version : Int) : Transaction AgentVersion := do
  let current ← Proc.tryCall (.selectPublished agentId) id
  match ← selectVersion agentId version with
  | none => throw (.valueError s!"Version {version} not found for agent {agentId.str}")
  | some model =>
    Proc.tryCall (.flush (archivedId current model) (selectedModel current model)) id

/-- What is open about a flush: the time, what the access to a relationship that was not loaded does,
and whether the transaction is committed. -/
structure Completion where
  now : Time
  lazyLoad : Except PyError Unit := .ok ()
  commits : Bool := true

/-- What a flush makes of a row. A model that was published already has no change to send. -/
def flushRow (archive : Option UUID) (model : AgentVersionRow) (now : Time) (row : AgentVersionRow) :
    AgentVersionRow :=
  if row.id = model.id then
    if model.status = .published then row else { row with status := .published, updatedAt := now }
  else if archive = some row.id then
    { row with status := .archived, updatedAt := now }
  else row

/-- What a flush makes of the tables. -/
def flushed (archive : Option UUID) (model : AgentVersionRow) (now : Time) (tables : Tables) :
    Tables :=
  { tables with agentVersions := tables.agentVersions.map (flushRow archive model now) }

/-- The answers of the database. -/
def statementAnswer (completion : Completion) (_client : Nat) :
    (o : Statement) → Tables → o.Ans × Tables
  | .selectPublished agentId, tables =>
    (match tables.publishedOf agentId with
      | [] => .ok none
      | [row] => .ok (some row)
      | _ => .error (.external "MultipleResultsFound"), tables)
  | .selectVersion agentId version, tables =>
    ((tables.versionsOf agentId).find? fun row => row.version = version, tables)
  | .flush archive model, tables =>
    let tables' := flushed archive model completion.now tables
    (completion.lazyLoad >>= fun _ =>
        AgentRepository.versionToEntity tables' (model.setStatus .published completion.now),
      if completion.commits then tables' else tables)

/-- The rules of the database, which nobody else changes. -/
def publishRules : Rules Statement Statement.Ans Tables Completion Empty where
  answer := statementAnswer
  outside := nofun

/-- Calls of `publish_version` for these versions of an agent that have not started. -/
def publisherPool (agentId : UUID) (versions : List Int) (tables : Tables) :
    Pool Statement Statement.Ans (Except PyError AgentVersion × Unit) Tables where
  threads := versions.map fun version => (publishVersion agentId version).on ()
  shared := tables

/-! ## A call alone -/

/-- What a call alone selects and flushes, if it finds its target: as `AgentRepository.publishVersion`
has it. -/
theorem flushed_eq {tables : Tables} (hids : (tables.agentVersions.map AgentVersionRow.id).Nodup)
    {agentId : UUID} {current : Option AgentVersionRow} {model : AgentVersionRow}
    (hcurrent : tables.publishedOf agentId = current.toList) (hmodel : model ∈ tables.agentVersions)
    (now : Time) :
    selectedModel current model = model ∧ flushed (archivedId current model) model now tables =
      { tables with
        agentVersions := tables.agentVersions.map fun row =>
          if row.id = model.id then model.setStatus .published now
          else if (tables.publishedOf agentId).any fun current => current.id = row.id then
            row.setStatus .archived now
          else row } := by
  have hunique {row row' : AgentVersionRow} (hrow : row ∈ tables.agentVersions)
      (hrow' : row' ∈ tables.agentVersions) (h : row.id = row'.id) : row = row' :=
    List.inj_on_of_nodup_map hids hrow hrow' h
  have hmem {c : AgentVersionRow} (hc : current = some c) :
      c ∈ tables.agentVersions ∧ c.agentId = agentId ∧ c.status = .published :=
    Tables.mem_publishedOf.1 (by rw [hcurrent, hc]; exact List.mem_singleton_self c)
  constructor
  · cases current with
    | none => rfl
    | some c =>
      by_cases hc : c.id = model.id
      · simp [selectedModel, Option.filter, hunique (hmem rfl).1 hmodel hc]
      · simp [selectedModel, Option.filter, hc]
  · refine congrArg (fun rows => { tables with agentVersions := rows }) (List.map_congr_left ?_)
    intro row hrow
    unfold flushRow
    by_cases hid : row.id = model.id
    · obtain rfl := hunique hrow hmodel hid
      rw [if_pos rfl, if_pos rfl, AgentVersionRow.setStatus]
    · rw [if_neg hid, if_neg hid, hcurrent]
      cases current with
      | none => rfl
      | some c =>
        by_cases hc : c.id = row.id
        · obtain rfl := hunique (hmem rfl).1 hrow hc
          simp [archivedId, Option.filter, hid, AgentVersionRow.setStatus, (hmem rfl).2.2]
        · by_cases hcModel : c.id = model.id
          · simp [archivedId, Option.filter, hcModel, Ne.symm hid]
          · simp [archivedId, Option.filter, hc, hcModel]

/-- The use case as its statements: two selects, and one flush with what they found. -/
theorem publishVersion_on (agentId : UUID) (version : Int) :
    (publishVersion agentId version).on () = .call (.selectPublished agentId) fun
      | .error e => .ret (.error e, ())
      | .ok current => .call (.selectVersion agentId version) fun
        | none =>
          .ret (.error (.valueError s!"Version {version} not found for agent {agentId.str}"), ())
        | some model => .call (.flush (archivedId current model) (selectedModel current model))
          fun result => .ret (result, ()) := by
  rw [publishVersion, Proc.on_bind, Proc.on_tryCall, Prog.call_bind]
  refine congrArg (Prog.call _) (funext fun selected => ?_)
  cases selected with
  | error e => rfl
  | ok current =>
    refine congrArg (Prog.call _) (funext fun found => ?_)
    cases found <;> rfl

/-- A call alone, in a transaction that is committed, is `AgentRepository.publishVersion`. -/
theorem publishVersion_exec {tables : Tables}
    (hids : (tables.agentVersions.map AgentVersionRow.id).Nodup) (agentId : UUID) (version : Int)
    (now : Time) (lazyLoad : Except PyError Unit) :
    let exec := ((publishVersion agentId version).on ()).exec
      (statementAnswer { now, lazyLoad } 0) tables
    exec.result.map Prod.fst =
      some ((AgentRepository.publishVersion lazyLoad agentId version now).on tables).1 ∧
    exec.state = ((AgentRepository.publishVersion lazyLoad agentId version now).on tables).2 := by
  rw [publishVersion_on, AgentRepository.publishVersion_on]
  obtain ⟨current, hcurrent⟩ | hmany := tables.publishedOf_cases agentId
  · have hselect : statementAnswer { now, lazyLoad } 0 (.selectPublished agentId) tables =
        (.ok current, tables) := by
      cases current <;> simp [statementAnswer, hcurrent]
    have hone : ¬1 < (tables.publishedOf agentId).length := by
      rw [hcurrent]
      cases current <;> simp
    rw [Prog.exec_call, hselect, if_neg hone, Prog.exec_call]
    cases hfind : (tables.versionsOf agentId).find? fun row => row.version = version with
    | none => simp [statementAnswer, hfind]
    | some model =>
      have hmodel : model ∈ tables.agentVersions :=
        (List.mem_filter.1 (List.mem_of_find?_eq_some hfind)).1
      obtain ⟨hselected, hflushed⟩ := flushed_eq hids hcurrent hmodel now
      have hanswer : statementAnswer { now, lazyLoad } 0 (.selectVersion agentId version) tables =
          (some model, tables) := by
        rw [← hfind]
        rfl
      rw [hanswer]
      simp only [hselected, Prog.exec_call, Prog.exec_ret, statementAnswer, hflushed, if_true]
      exact ⟨rfl, trivial⟩
  · have hselect : statementAnswer { now, lazyLoad } 0 (.selectPublished agentId) tables =
        (.error (.external "MultipleResultsFound"), tables) := by
      rcases h : tables.publishedOf agentId with _ | ⟨row, _ | ⟨row', rows⟩⟩
      · simp [h] at hmany
      · simp [h] at hmany
      · simp [statementAnswer, h]
    rw [Prog.exec_call, hselect, if_pos hmany]
    exact ⟨rfl, rfl⟩

end Publisher

end AgentRuntime
