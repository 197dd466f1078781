import AgentRuntime.Concurrency.Publisher

/-!
# One published version

`publish_version` archives the published version that it finds and publishes another. Between its
selects and its flush a call does not see what others publish. The one constraint on the status,
`agent_versions_status_check`, says which statuses there are, not that one version of an agent has one:
two calls that publish different versions can leave both published, and then `get_published_version`
raises. `singlePublished_iff` says when this does not happen.
-/

namespace AgentRuntime

open Interaction

namespace Publisher

/-! ## What the database keeps -/

/-- The keys of the rows of `agent_versions`. -/
def versionKeys (tables : Tables) : List (UUID × UUID) :=
  tables.agentVersions.map fun row => (row.id, row.agentId)

section
variable (archive : Option UUID) (model : AgentVersionRow) (now : Time)

/-- The flush leaves the identifier of a row. -/
@[simp] theorem flushRow_id (row : AgentVersionRow) :
    (flushRow archive model now row).id = row.id := by
  unfold flushRow
  split_ifs <;> rfl

/-- It leaves the agent of a row. -/
@[simp] theorem flushRow_agentId (row : AgentVersionRow) :
    (flushRow archive model now row).agentId = row.agentId := by
  unfold flushRow
  split_ifs <;> rfl

/-- So it leaves the keys of the table. -/
@[simp] theorem versionKeys_flushed (tables : Tables) :
    versionKeys (flushed archive model now tables) = versionKeys tables := by
  simp [versionKeys, flushed, Function.comp_def]

end

/-- A list with distinct values has at most one element exactly if its values all agree. -/
theorem length_le_one_iff_of_nodup {α β : Type} {f : α → β} {l : List α} (h : (l.map f).Nodup) :
    l.length ≤ 1 ↔ ∀ a ∈ l, ∀ b ∈ l, f a = f b := by
  rcases l with _ | ⟨a, _ | ⟨b, l⟩⟩
  · simp
  · simp
  · refine iff_of_false (by simp) fun hall => ?_
    have hne : f a ≠ f b := by
      intro heq
      simp [heq] at h
    exact hne (hall a (by simp) b (by simp))

/-- With distinct primary keys, at most one version is published exactly if no two rows are. -/
theorem length_publishedOf_le_one_iff {tables : Tables} (hkeys : (versionKeys tables).Nodup)
    {agentId : UUID} :
    (tables.publishedOf agentId).length ≤ 1 ↔ ∀ row ∈ tables.publishedOf agentId,
      ∀ row' ∈ tables.publishedOf agentId, row.id = row'.id := by
  have hpublished : ((tables.publishedOf agentId).map fun row => (row.id, row.agentId)).Nodup :=
    hkeys.sublist (((List.filter_sublist).trans List.filter_sublist).map _)
  rw [length_le_one_iff_of_nodup hpublished]
  refine forall₂_congr fun row hrow => forall₂_congr fun row' hrow' => ?_
  rw [Prod.mk.injEq, and_iff_left]
  rw [(Tables.mem_publishedOf.1 hrow).2.1, (Tables.mem_publishedOf.1 hrow').2.1]

/-! ## The store's invariant -/

/-- At most one version of the agent is published, so that `get_published_version` finds one or
none. -/
structure SinglePublished (agentId : UUID) (tables : Tables) : Prop where
  atMostOne : (tables.publishedOf agentId).length ≤ 1
  found : ((AgentRepository.getPublishedVersion agentId).on tables).1 ≠
    .error (.external "MultipleResultsFound")

/-- Where at most one version is published, `get_published_version` finds it or none, and does not raise. -/
theorem singlePublished_of_length_le_one {agentId : UUID} {tables : Tables}
    (h : (tables.publishedOf agentId).length ≤ 1) : SinglePublished agentId tables := by
  refine ⟨h, ?_⟩
  unfold Tables.publishedOf at h
  simp only [AgentRepository.getPublishedVersion, Method.on_bind, Method.on_get]
  generalize List.filter (fun row => decide (row.status = .published)) (tables.versionsOf agentId) =
    rows at h ⊢
  rcases rows with _ | ⟨row, _ | ⟨row', rows⟩⟩
  · exact nofun
  · rw [Method.on_map, Method.on_ofExcept]
    cases hrow : AgentRepository.versionToEntity tables row with
    | error e =>
      obtain ⟨message, rfl⟩ := AgentRepository.versionToEntity_error hrow
      exact nofun
    | ok v => exact nofun
  · simp at h

/-! ## One flush -/

section
variable {archive : Option UUID} {model : AgentVersionRow} {now : Time}

/-- Published after a flush are its model, if that changes, and what was published and is not
archived. -/
theorem flushRow_status {row : AgentVersionRow} :
    (flushRow archive model now row).status = .published ↔
      if row.id = model.id then model.status = .published → row.status = .published
      else archive ≠ some row.id ∧ row.status = .published := by
  unfold flushRow
  split_ifs with hmodel hstatus harchive
  · simp [hstatus]
  · simp [hstatus]
  · simp [harchive]
  · simp [harchive]

/-- The published versions after the flush are those that it left or made published. -/
theorem mem_publishedOf_flushed {tables : Tables} {agentId : UUID} {row' : AgentVersionRow} :
    row' ∈ (flushed archive model now tables).publishedOf agentId ↔ ∃ row ∈ tables.agentVersions,
      row.agentId = agentId ∧ (flushRow archive model now row).status = .published ∧
        flushRow archive model now row = row' := by
  rw [Tables.mem_publishedOf, flushed, List.mem_map]
  constructor
  · rintro ⟨⟨row, hrow, rfl⟩, hagent, hstatus⟩
    exact ⟨row, hrow, (flushRow_agentId ..).symm.trans hagent, hstatus, rfl⟩
  · rintro ⟨row, hrow, hagent, hstatus, rfl⟩
    exact ⟨⟨row, hrow, rfl⟩, (flushRow_agentId ..).trans hagent, hstatus⟩

/-- A flush leaves at most one published version exactly if it does not change its model, or every
version that is published is its model or the one it archives. -/
theorem length_flushed_le_one_iff {tables : Tables} (hkeys : (versionKeys tables).Nodup)
    {agentId : UUID} (hone : (tables.publishedOf agentId).length ≤ 1)
    (hmodel : (model.id, agentId) ∈ versionKeys tables) :
    ((flushed archive model now tables).publishedOf agentId).length ≤ 1 ↔
      (model.status ≠ .published → ∀ row ∈ tables.publishedOf agentId,
        row.id = model.id ∨ archive = some row.id) := by
  have hkeys' : (versionKeys (flushed archive model now tables)).Nodup := by
    rwa [versionKeys_flushed]
  rw [length_publishedOf_le_one_iff hkeys']
  rw [length_publishedOf_le_one_iff hkeys] at hone
  constructor
  · intro hall hstatus row hrow
    by_contra hother
    obtain ⟨hne, harchive⟩ := not_or.1 hother
    obtain ⟨hmem, hagent, hpublished⟩ := Tables.mem_publishedOf.1 hrow
    obtain ⟨stored, hstored, hkey⟩ := List.mem_map.1 hmodel
    obtain ⟨hid, hstoredAgent⟩ := Prod.mk.inj hkey
    have hrowStatus : (flushRow archive model now row).status = .published :=
      flushRow_status.2 (by rw [if_neg hne]; exact ⟨harchive, hpublished⟩)
    have hstoredStatus : (flushRow archive model now stored).status = .published :=
      flushRow_status.2 (by rw [if_pos hid]; exact fun h => absurd h hstatus)
    have hsame := hall _ (mem_publishedOf_flushed.2 ⟨row, hmem, hagent, hrowStatus, rfl⟩)
      _ (mem_publishedOf_flushed.2 ⟨stored, hstored, hstoredAgent, hstoredStatus, rfl⟩)
    rw [flushRow_id, flushRow_id, hid] at hsame
    exact hne hsame
  · intro h row hrow other hother
    obtain ⟨a, ha, haAgent, haStatus, rfl⟩ := mem_publishedOf_flushed.1 hrow
    obtain ⟨b, hb, hbAgent, hbStatus, rfl⟩ := mem_publishedOf_flushed.1 hother
    rw [flushRow_id, flushRow_id]
    by_cases hstatus : model.status = .published
    · -- nothing is published that was not
      have hbefore {c : AgentVersionRow} (hc : c ∈ tables.agentVersions)
          (hcAgent : c.agentId = agentId)
          (hcStatus : (flushRow archive model now c).status = .published) :
          c ∈ tables.publishedOf agentId := by
        refine Tables.mem_publishedOf.2 ⟨hc, hcAgent, ?_⟩
        rw [flushRow_status] at hcStatus
        split_ifs at hcStatus
        · exact hcStatus hstatus
        · exact hcStatus.2
      exact hone a (hbefore ha haAgent haStatus) b (hbefore hb hbAgent hbStatus)
    · -- nothing but the model is published
      have hid {c : AgentVersionRow} (hc : c ∈ tables.agentVersions) (hcAgent : c.agentId = agentId)
          (hcStatus : (flushRow archive model now c).status = .published) : c.id = model.id := by
        rw [flushRow_status] at hcStatus
        split_ifs at hcStatus with hcModel
        · exact hcModel
        · obtain ⟨harchive, hpublished⟩ := hcStatus
          have hcases := h hstatus c (Tables.mem_publishedOf.2 ⟨hc, hcAgent, hpublished⟩)
          exact hcases.resolve_right harchive
      rw [hid ha haAgent haStatus, hid hb hbAgent hbStatus]

end

/-! ## Every schedule -/

/-- A version that is selected by its number is one of the agent's rows. -/
def Answered (keys : List (UUID × UUID)) : (o : Statement) → o.Ans → Prop
  | .selectVersion agentId _, found => ∀ row, found = some row → (row.id, agentId) ∈ keys
  | .selectPublished _, _ => True
  | .flush _ _, _ => True

/-- A flush publishes one of the agent's rows. -/
def Flushes (agentId : UUID) (keys : List (UUID × UUID)) : Statement → Prop
  | .flush _ model => (model.id, agentId) ∈ keys
  | _ => True

/-- The row that is selected keeps its identifier, also when it is the published one. -/
@[simp] theorem selectedModel_id (current : Option AgentVersionRow) (model : AgentVersionRow) :
    (selectedModel current model).id = model.id := by
  cases current with
  | none => rfl
  | some c =>
    by_cases hc : c.id = model.id
    · simp [selectedModel, Option.filter, hc]
    · simp [selectedModel, Option.filter, hc]

/-- A call flushes rows of its agent, under keys that it was answered with. -/
theorem guar_publishVersion (agentId : UUID) (version : Int) (keys : List (UUID × UUID)) :
    ((publishVersion agentId version).on ()).Guar (Answered keys) (Flushes agentId keys)
      fun _ => True := by
  rw [publishVersion_on]
  refine ⟨trivial, fun selected _ => ?_⟩
  cases selected with
  | error e => trivial
  | ok current =>
    refine ⟨trivial, fun found hfound => ?_⟩
    cases found with
    | none => trivial
    | some model =>
      refine ⟨?_, fun _ _ => trivial⟩
      rw [Flushes, selectedModel_id]
      exact hfound model rfl

/-- The keys of the versions stay as they are, and every answer names some of them. -/
theorem publishRules_respect (agentId : UUID) (keys : List (UUID × UUID)) :
    publishRules.Respect (fun tables => versionKeys tables = keys) (Answered keys)
      fun _ => Flushes agentId keys := by
  refine ⟨fun completion i o tables hkeys _ => ?_, nofun⟩
  cases o with
  | selectPublished agentId => exact ⟨trivial, hkeys⟩
  | selectVersion agentId version =>
    refine ⟨fun row hrow => ?_, hkeys⟩
    obtain ⟨hmem, hagent⟩ := List.mem_filter.1 (List.mem_of_find?_eq_some hrow)
    rw [← hkeys]
    exact List.mem_map.2 ⟨row, hmem, by rw [of_decide_eq_true hagent]⟩
  | flush archive model =>
    refine ⟨trivial, ?_⟩
    change versionKeys (if completion.commits then _ else tables) = keys
    split
    · rwa [versionKeys_flushed]
    · exact hkeys

/-- An action that commits a flush which publishes its model finds no version of the agent published
but the one it archives, or its model. -/
def PublishesAlone (agentId : UUID)
    (p : Pool Statement Statement.Ans (Except PyError AgentVersion × Unit) Tables) :
    Act Completion Empty → Prop
  | .outside _ => True
  | .thread i completion =>
    match p.threads[i]? with
    | some (.call (.flush archive model) _) =>
      completion.commits = true → model.status ≠ .published →
        ∀ row ∈ p.shared.publishedOf agentId, row.id = model.id ∨ archive = some row.id
    | _ => True

/-- One action keeps a single published version exactly if it publishes alone. -/
theorem publishesAlone_iff {agentId : UUID} {keys : List (UUID × UUID)} (hnodup : keys.Nodup)
    {p : Pool Statement Statement.Ans (Except PyError AgentVersion × Unit) Tables}
    (hp : p.Guaranteed (fun tables => versionKeys tables = keys) (Answered keys)
      (fun _ => Flushes agentId keys) fun _ _ => True)
    (hone : SinglePublished agentId p.shared) (a : Act Completion Empty) :
    PublishesAlone agentId p a ↔ SinglePublished agentId (p.step publishRules a).shared := by
  cases a with
  | outside e => exact e.elim
  | thread i completion =>
    rcases hi : p.threads[i]? with _ | _ | ⟨o, k⟩ | _
    · simpa [PublishesAlone, Pool.step, hi] using hone
    · simpa [PublishesAlone, Pool.step, hi] using hone
    · have hshared : (p.step publishRules (.thread i completion)).shared =
          (statementAnswer completion i o p.shared).2 := by
        simp only [Pool.step, hi]
        rfl
      rw [hshared]
      cases o with
      | selectPublished _ =>
        simp only [PublishesAlone, hi, true_iff]
        exact hone
      | selectVersion _ _ =>
        simp only [PublishesAlone, hi, true_iff]
        exact hone
      | flush archive model =>
        have hmodel : (model.id, agentId) ∈ versionKeys p.shared :=
          hp.shared.symm ▸ (hp.threads i _ hi).1
        have hflushed :
            ((flushed archive model completion.now p.shared).publishedOf agentId).length ≤ 1 ↔ _ :=
          length_flushed_le_one_iff (hp.shared.symm ▸ hnodup) hone.atMostOne hmodel
        simp only [PublishesAlone, hi, statementAnswer]
        cases completion.commits with
        | false => simpa using hone
        | true =>
          rw [← hflushed, if_pos rfl]
          exact ⟨fun h => singlePublished_of_length_le_one (h rfl), fun h _ => h.atMostOne⟩
    · simpa [PublishesAlone, Pool.step, hi] using hone

/-- Publishers of versions of one agent, over a database that has at most one of them published: it
keeps at most one published along exactly those schedules in which every publication is alone. -/
theorem singlePublished_iff {tables : Tables}
    (hids : (tables.agentVersions.map AgentVersionRow.id).Nodup) {agentId : UUID}
    (hone : (tables.publishedOf agentId).length ≤ 1) (versions : List Int)
    (schedule : List (Act Completion Empty)) :
    (∀ schedule', schedule' <+: schedule → SinglePublished agentId
      ((publisherPool agentId versions tables).run publishRules schedule').shared) ↔
    Pool.Meets publishRules (PublishesAlone agentId) (publisherPool agentId versions tables)
      schedule := by
  have hkeys : (versionKeys tables).Nodup := by
    refine List.Nodup.of_map Prod.fst ?_
    rwa [versionKeys, List.map_map]
  have hstart : (publisherPool agentId versions tables).Guaranteed
      (fun tables' => versionKeys tables' = versionKeys tables) (Answered (versionKeys tables))
      (fun _ => Flushes agentId (versionKeys tables)) fun _ _ => True := by
    refine ⟨fun i q hq => ?_, rfl, by simp [publisherPool]⟩
    obtain ⟨version, -, rfl⟩ : ∃ version, versions[i]? = some version ∧
        (publishVersion agentId version).on () = q := by simpa [publisherPool] using hq
    exact guar_publishVersion agentId version _
  have hsingle : SinglePublished agentId (publisherPool agentId versions tables).shared :=
    singlePublished_of_length_le_one hone
  refine (Pool.meets_iff_of_keeps (I := fun p => SinglePublished agentId p.shared) ?_ ?_ hstart
    hsingle).symm
  · exact fun p a hp => hp.step (publishRules_respect agentId _) a
  · exact fun p a hp hsingle => publishesAlone_iff hkeys hp hsingle a

/-- A database with two drafts of one agent. -/
def twoDrafts : Tables :=
  let draft (id : Nat) (version : Int) : AgentVersionRow :=
    { id := ⟨id⟩, createdAt := 0, updatedAt := 0, agentId := ⟨1⟩, tenantId := ⟨3⟩, version,
      systemPrompt := "p", modelPolicy := [], memoryMode := "m", status := .draft }
  { agentVersions := [draft 5 1, draft 6 2] }

/-- The next statement of client `i`; a flush is committed. -/
def next (i : Nat) : Act Completion Empty := .thread i { now := 1 }

/-- The first draft is published, then the second. -/
theorem singlePublished_iff_sample :
    (twoDrafts.agentVersions.map AgentVersionRow.id).Nodup ∧
    (twoDrafts.publishedOf ⟨1⟩).length ≤ 1 ∧
    ((∀ schedule', schedule' <+: [next 0, next 0, next 0, next 1, next 1, next 1] →
      SinglePublished ⟨1⟩ ((publisherPool ⟨1⟩ [1, 2] twoDrafts).run publishRules schedule').shared) ↔
    Pool.Meets publishRules (PublishesAlone ⟨1⟩) (publisherPool ⟨1⟩ [1, 2] twoDrafts)
      [next 0, next 0, next 0, next 1, next 1, next 1]) := by
  have hids : (twoDrafts.agentVersions.map AgentVersionRow.id).Nodup := by decide
  have hone : (twoDrafts.publishedOf ⟨1⟩).length ≤ 1 := by decide
  exact ⟨hids, hone, singlePublished_iff hids hone [1, 2] _⟩

/-- Two clients select, then both flush: neither has seen what the other publishes. -/
theorem not_singlePublished :
    ¬∀ (tables : Tables) (agentId : UUID) (versions : List Int)
        (schedule : List (Act Completion Empty)),
      (tables.agentVersions.map AgentVersionRow.id).Nodup → (tables.publishedOf agentId).length ≤ 1 →
        SinglePublished agentId
          ((publisherPool agentId versions tables).run publishRules schedule).shared := by
  intro h
  have htwo := (h twoDrafts ⟨1⟩ [1, 2] [next 0, next 0, next 1, next 1, next 0, next 1]
    (by decide) (by decide)).atMostOne
  revert htwo
  decide

end Publisher

end AgentRuntime
