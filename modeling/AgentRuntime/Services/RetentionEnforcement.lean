import AgentRuntime.Interaction.BigStep
import AgentRuntime.Interaction.History
import AgentRuntime.Runtime.MemoryWorld
import AgentRuntime.Services.ScopeQuota

/-!
# The enforcement of retention policies

A record is given its time of expiry when it is written, by the policy that its scope has then, and keeps it:
a policy that is changed later is not applied to what is stored. So what enforcement can promise is that no
record outlives what the write that stored it has granted (`Write.Stores`, `Write.Grants`), which
`enforced_retention` shows after every history of writes and of policies. Where a policy was shortened in
between, a record may still be older than its scope's policy now allows (`not_enforced_shortened`).
-/

namespace AgentRuntime

open Interaction Proc

/-- How long a record of a scope is kept: by its policy, or else by its scope. -/
def lifetime : Option MemoryRetentionPolicy → MemoryScope → Option Nat
  | some policy, _ => some (policy.retentionDays * Time.perDay)
  | none, .ephemeral => some (24 * Time.perHour)
  | none, .session => some (7 * Time.perDay)
  | none, .durable => none

/-- A call of `write_memory`, and what it meets; the clock does not go back. -/
structure Write where
  service : MemoryWriteService
  tenantId : UUID
  agentId : UUID
  scope : MemoryScope
  ns : String
  metadata : Dict
  sessionId : Option String
  content : String
  circumstances : Circumstances
  clock_monotone : ∀ {i j}, i ≤ j → circumstances.clock i ≤ circumstances.clock j

/-- What happens to the records and the policies. -/
inductive RetentionOperation where
  | write (w : Write)
  | createPolicy (policy : MemoryRetentionPolicy)
  | upsertPolicy (policy : MemoryRetentionPolicy)

namespace Write

/-- The call. -/
def call (w : Write) : MemoryService (List MemoryRecord) :=
  w.service.writeMemory w.tenantId w.agentId w.scope w.ns w.metadata w.sessionId w.content

/-- The tables after the call, whether it returns or raises. -/
def stored (code : UInt8 → Int) (w : Write) (tables : MemoryTables) : MemoryTables :=
  ((w.call.on ()).exec (w.circumstances.env code) ({ tables } : MemoryState)).state.tables

/-- The record comes from this call, on these tables: it expires the lifetime of its scope after a time that
is not later than its creation. -/
structure Grants (w : Write) (tables : MemoryTables) (record : MemoryRecord) : Prop where
  tenant : record.tenantId = w.tenantId
  scope : record.scope = w.scope
  expiry : ∃ policy, tables.getByTenantScope w.tenantId w.scope = .ok policy ∧
    ∃ written ≤ record.createdAt, record.expiresAt = (lifetime policy w.scope).map (written + ·)

end Write

namespace RetentionOperation

def step (code : UInt8 → Int) : RetentionOperation → MemoryTables → MemoryTables
  | .write w, tables => w.stored code tables
  | .createPolicy policy, tables => (tables.createPolicy policy).2
  | .upsertPolicy policy, tables => (tables.upsertPolicy policy).2

end RetentionOperation

/-! ## What a write stores -/

section
variable {code : UInt8 → Int} {c : Circumstances} {s s' : MemoryState} {tenantId : UUID} {scope : MemoryScope}

/-- Records that were added to these tables at the end of `s`, with this time of expiry. -/
structure Appends (c : Circumstances) (tenantId : UUID) (scope : MemoryScope) (expiresAt : Option Time)
    (s s' : MemoryState) : Prop where
  policies : s'.tables.policies = s.tables.policies
  records : ∃ added, s'.tables.records = s.tables.records ++ added ∧ ∀ record ∈ added,
    record.tenantId = tenantId ∧ record.scope = scope ∧ record.expiresAt = expiresAt ∧
      ∃ draw ≥ s.draws, record.createdAt = c.clock draw

/-- Nothing is appended at first. -/
theorem Appends.refl (expiresAt : Option Time) : Appends c tenantId scope expiresAt s s :=
  ⟨rfl, [], (List.append_nil _).symm, nofun⟩

/-- What was drawn and read before. -/
theorem Appends.after {expiresAt : Option Time} {s₁ : MemoryState} (h : Appends c tenantId scope expiresAt s₁ s')
    (htables : s₁.tables = s.tables) (hdraws : s.draws ≤ s₁.draws) : Appends c tenantId scope expiresAt s s' := by
  obtain ⟨hpolicies, added, hrecords, hadded⟩ := h
  refine ⟨htables ▸ hpolicies, added, htables ▸ hrecords, fun record hrecord => ?_⟩
  obtain ⟨htenant, hscope, hexpiry, draw, hdraw, hcreated⟩ := hadded record hrecord
  exact ⟨htenant, hscope, hexpiry, draw, hdraws.trans hdraw, hcreated⟩

/-- A record of the tenant and the scope is appended with its expiry, and created at a time that the write
has read. -/
theorem Appends.record {expiresAt : Option Time} {s₁ : MemoryState} {record : MemoryRecord}
    (h : Appends c tenantId scope expiresAt s₁ s') (htables : s₁.tables = s.tables.createRecord record)
    (hdraws : s.draws ≤ s₁.draws)
    (hrecord : record.tenantId = tenantId ∧ record.scope = scope ∧ record.expiresAt = expiresAt ∧
      ∃ draw ≥ s.draws, record.createdAt = c.clock draw) : Appends c tenantId scope expiresAt s s' := by
  obtain ⟨hpolicies, added, hrecords, hadded⟩ := h
  rw [htables] at hpolicies hrecords
  refine ⟨hpolicies, record :: added, ?_, List.forall_mem_cons.2 ⟨hrecord, fun record' hrecord' => ?_⟩⟩
  · rw [hrecords, MemoryTables.createRecord, List.append_assoc]
    rfl
  · obtain ⟨htenant, hscope, hexpiry, draw, hdraw, hcreated⟩ := hadded record' hrecord'
    exact ⟨htenant, hscope, hexpiry, draw, hdraws.trans hdraw, hcreated⟩

/-- So is the one that a statement creates, before what follows it. -/
theorem endsIn_recordCreate_appends {α : Type} {expiresAt : Option Time} {record : MemoryRecord}
    {f : MemoryRecord → MemoryService α} {s₁ : MemoryState} (htables : s₁.tables = s.tables)
    (hdraws : s.draws ≤ s₁.draws)
    (hrecord : record.tenantId = tenantId ∧ record.scope = scope ∧ record.expiresAt = expiresAt ∧
      ∃ draw ≥ s.draws, record.createdAt = c.clock draw)
    (hf : ∀ s₂, EndsIn (c.env code) s₂ (f record) fun _ s' => Appends c tenantId scope expiresAt s₂ s') :
    EndsIn (c.env code) s₁ (tryCall (.recordCreate record) id >>= f) fun _ s' =>
      Appends c tenantId scope expiresAt s s' := by
  refine MemoryWriteService.endsIn_recordCreate (fun _ _ => (Appends.refl expiresAt).after htables hdraws) ?_
  exact (hf _).mono fun x s' h => h.record (congrArg (·.createRecord record) htables) hdraws hrecord

/-- Each chunk is a record that is created at a later draw. -/
theorem endsIn_writeChunks_appends (agentId : UUID) (ns : String) (metadata : Dict)
    (sessionId : Option String) (classification : ClassificationResult) (redactionResult : RedactionResult)
    (expiresAt : Option Time) (chunks : List String) (s : MemoryState) :
    EndsIn (c.env code) s
      (MemoryWriteService.writeChunks tenantId agentId scope ns metadata sessionId classification
        redactionResult expiresAt chunks) fun _ s' => Appends c tenantId scope expiresAt s s' := by
  induction chunks generalizing s with
  | nil => exact (ends_pure _).endsIn (.refl expiresAt)
  | cons chunk chunks ih =>
    refine endsIn_tryCall_bind (fun _ _ => (Appends.refl expiresAt).after rfl (Nat.le_succ _))
      fun embedding _ => ?_
    refine endsIn_tryCall_bind
      (fun _ _ => (Appends.refl expiresAt).after rfl (Nat.le_add_right s.draws 2)) fun ciphertext _ => ?_
    refine endsIn_call_bind (endsIn_call_bind (endsIn_call_bind ?_))
    refine endsIn_recordCreate_appends rfl (Nat.le_add_right s.draws 5)
      ⟨rfl, rfl, rfl, s.draws + 3, Nat.le_add_right _ _, rfl⟩ fun s₆ => ?_
    refine endsIn_tryCall_bind (fun _ _ => (Appends.refl expiresAt).after rfl (Nat.le_refl _)) fun _ _ => ?_
    refine (ih s₆).bind (fun _ _ h => h) fun records s₇ h => ?_
    exact (ends_pure _).endsIn h

/-- The time of expiry is worked out from the policy that the tables hold. -/
theorem endsIn_calculateExpiry_lifetime (s : MemoryState) :
    EndsIn (c.env code) s (MemoryWriteService.calculateExpiry tenantId scope) fun x s' =>
      s'.tables = s.tables ∧ ∀ expiresAt, x = .ok expiresAt →
        ∃ policy, s.tables.getByTenantScope tenantId scope = .ok policy ∧
          ∃ draw ≤ s'.draws, expiresAt = (lifetime policy scope).map (c.clock draw + ·) := by
  refine endsIn_tryCall_bind (fun _ _ => ⟨rfl, nofun⟩) fun policy hpolicy => ?_
  have hstored := (Circumstances.query_eq_ok_iff.1 hpolicy).2
  cases policy with
  | some policy =>
    refine endsIn_call_bind ((ends_pure _).endsIn ⟨rfl, fun expiresAt h => ?_⟩)
    cases h
    exact ⟨some policy, hstored, s.draws, Nat.le_succ _, rfl⟩
  | none =>
    cases scope with
    | ephemeral =>
      refine endsIn_call_bind ((ends_pure _).endsIn ⟨rfl, fun expiresAt h => ?_⟩)
      cases h
      exact ⟨none, hstored, s.draws, Nat.le_succ _, rfl⟩
    | session =>
      refine endsIn_call_bind ((ends_pure _).endsIn ⟨rfl, fun expiresAt h => ?_⟩)
      cases h
      exact ⟨none, hstored, s.draws, Nat.le_succ _, rfl⟩
    | durable =>
      refine (ends_pure _).endsIn ⟨rfl, fun expiresAt h => ?_⟩
      cases h
      exact ⟨none, hstored, s.draws, Nat.le_refl _, rfl⟩

/-- The check of the quota stores nothing. -/
theorem endsIn_checkQuota_tables (s : MemoryState) :
    EndsIn (c.env code) s (MemoryWriteService.checkQuota tenantId scope) fun _ s' => s'.tables = s.tables := by
  refine endsIn_tryCall_bind (fun _ _ => rfl) fun policy _ => ?_
  cases policy with
  | none => exact (ends_pure ()).endsIn rfl
  | some policy =>
    refine endsIn_tryCall_bind (fun _ _ => rfl) fun count _ => ?_
    refine endsIn_tryCall_bind (fun _ _ => rfl) fun storage _ => ?_
    split
    · exact (ends_throw _).endsIn rfl
    · exact (ends_pure ()).endsIn rfl

end

/-- The call, on these tables, has stored the record: it is one of those that were added behind what the
tables held. -/
def Write.Stores (w : Write) (code : UInt8 → Int) (tables : MemoryTables) (record : MemoryRecord) : Prop :=
  ∃ added, (w.stored code tables).records = tables.records ++ added ∧ record ∈ added

/-- What a write makes of the tables: it adds records that it grants their time of expiry. -/
structure Write.Leaves (w : Write) (tables tables' : MemoryTables) : Prop where
  policies : tables'.policies = tables.policies
  records : ∃ added, tables'.records = tables.records ++ added ∧ ∀ record ∈ added, w.Grants tables record

/-- A write that raises before its first record changes nothing. -/
theorem Write.Leaves.refl (w : Write) (tables : MemoryTables) : w.Leaves tables tables :=
  ⟨rfl, [], (List.append_nil _).symm, nofun⟩

/-- The records are stored with the time of expiry that was worked out before. -/
theorem Write.endsIn_chunks (code : UInt8 → Int) (w : Write) {tables : MemoryTables} {s : MemoryState}
    (htables : s.tables = tables) (classification : ClassificationResult) (redactionResult : RedactionResult)
    (chunks : List String) :
    EndsIn (w.circumstances.env code) s
      (MemoryWriteService.calculateExpiry w.tenantId w.scope >>= fun expiresAt =>
        MemoryWriteService.writeChunks w.tenantId w.agentId w.scope w.ns w.metadata w.sessionId classification
          redactionResult expiresAt chunks) fun _ s' => w.Leaves tables s'.tables := by
  refine (endsIn_calculateExpiry_lifetime s).bind (fun e s₁ h => ?_) fun expiresAt s₁ h => ?_
  · rw [h.1, htables]
    exact .refl w tables
  · obtain ⟨htables₁, hexpiry⟩ := h
    obtain ⟨policy, hpolicy, draw, hdraw, hexpires⟩ := hexpiry expiresAt rfl
    rw [htables] at htables₁ hpolicy
    refine (endsIn_writeChunks_appends w.agentId w.ns w.metadata w.sessionId classification redactionResult
      expiresAt chunks s₁).mono fun x s₂ happends => ⟨by rw [happends.policies, htables₁], ?_⟩
    obtain ⟨added, hrecords, hadded⟩ := happends.records
    refine ⟨added, by rw [hrecords, htables₁], fun record hrecord => ?_⟩
    obtain ⟨htenant, hscope, hexpiresAt, draw', hdraw', hcreated⟩ := hadded record hrecord
    refine ⟨htenant, hscope, policy, hpolicy, w.circumstances.clock draw, ?_, hexpiresAt.trans hexpires⟩
    rw [hcreated]
    exact w.clock_monotone (hdraw.trans hdraw')

/-- A write leaves what it has stored. -/
theorem Write.leaves_stored (code : UInt8 → Int) (w : Write) (tables : MemoryTables) :
    w.Leaves tables (w.stored code tables) := by
  have hvalidate : Ends (w.circumstances.env code) ({ tables } : MemoryState)
      (ofExcept (w.service.validateSize (w.service.normalize w.content))) _ _ := ends_ofExcept _
  unfold stored call MemoryWriteService.writeMemory
  dsimp only
  cases hvalid : w.service.validateSize (w.service.normalize w.content) with
  | error e =>
    rw [hvalid] at hvalidate
    rw [hvalidate.bind_error.2]
    exact .refl w tables
  | ok _ =>
    rw [hvalid] at hvalidate
    rw [hvalidate.state_bind]
    have hchecked : EndsIn (w.circumstances.env code) ({ tables } : MemoryState)
        (MemoryWriteService.checkQuota w.tenantId w.scope) fun _ s' => s'.tables = tables :=
      endsIn_checkQuota_tables _
    obtain ⟨x, s₁, hcheck, htables⟩ := hchecked
    cases x with
    | error e =>
      rw [hcheck.bind_error.2, htables]
      exact .refl w tables
    | ok _ =>
      rw [hcheck.state_bind]
      split
      · -- the chunker does not come to an end
        change w.Leaves tables s₁.tables
        rw [htables]
        exact .refl w tables
      · next chunks _ =>
        obtain ⟨x, s₂, hends, hleaves⟩ := w.endsIn_chunks code htables
          (w.service.classify (w.service.normalize w.content) w.tenantId)
          (w.service.redact (w.service.normalize w.content)
            (w.service.classify (w.service.normalize w.content) w.tenantId) w.tenantId) chunks
        rw [hends.2]
        exact hleaves

/-! ## Histories -/

section
variable {code : UInt8 → Int} {operations : List RetentionOperation}

/-- A policy that is created is the only one of its tenant and scope. -/
theorem policiesUnique_createPolicy {tables : MemoryTables} (h : tables.PoliciesUnique)
    (policy : MemoryRetentionPolicy) : (tables.createPolicy policy).2.PoliciesUnique := by
  intro tenantId scope
  unfold MemoryTables.createPolicy
  split
  · exact h tenantId scope
  · next hnone =>
    rw [List.filter_append, List.length_append]
    by_cases hof : MemoryTables.PolicyOf tenantId scope policy
    · obtain ⟨rfl, rfl⟩ := hof
      have hempty : tables.policies.filter (MemoryTables.PolicyOf policy.tenantId policy.scope) = [] := by
        rw [List.filter_eq_nil_iff]
        simpa using hnone
      rw [hempty, List.length_nil, Nat.zero_add]
      exact List.length_filter_le _ _
    · simpa [hof] using h tenantId scope

/-- An update adds no policy. -/
theorem policiesUnique_updatePolicy {tables : MemoryTables} (h : tables.PoliciesUnique)
    (policy : MemoryRetentionPolicy) : (tables.updatePolicy policy).PoliciesUnique := by
  intro tenantId scope
  have hlength := h tenantId scope
  unfold MemoryTables.updatePolicy
  rw [List.filter_map, List.length_map]
  refine Nat.le_trans (Nat.le_of_eq ?_) hlength
  refine congrArg List.length (List.filter_congr fun existing _ => ?_)
  simp only [Function.comp]
  split
  · rfl
  · rfl

/-- No tenant has two policies for a scope. -/
theorem policiesUnique_after : (after (RetentionOperation.step code) {} operations).PoliciesUnique := by
  refine after_induction (fun _ _ => Nat.zero_le _) fun tables operation _ h => ?_
  cases operation with
  | write w =>
    intro tenantId scope
    change (List.filter _ (w.stored code tables).policies).length ≤ 1
    rw [(w.leaves_stored code tables).policies]
    exact h tenantId scope
  | createPolicy policy => exact policiesUnique_createPolicy h policy
  | upsertPolicy policy =>
    change (tables.upsertPolicy policy).2.PoliciesUnique
    unfold MemoryTables.upsertPolicy
    split
    · exact h
    · exact policiesUnique_updatePolicy h policy
    · exact policiesUnique_createPolicy h policy

/-- A record that a call stores is granted its time of expiry by that call. -/
theorem Write.Stores.grants {w : Write} {tables : MemoryTables} {record : MemoryRecord}
    (h : w.Stores code tables record) : w.Grants tables record := by
  obtain ⟨added, hrecords, hrecord⟩ := h
  obtain ⟨added', hrecords', hgrants⟩ := (w.leaves_stored code tables).records
  exact hgrants record (List.append_cancel_left (hrecords.symm.trans hrecords') ▸ hrecord)

/-- A record that is there after a step was there before, or it is one that the step has written: an operation
on a policy leaves the records alone. -/
theorem records_step (operation : RetentionOperation) (tables : MemoryTables) {record : MemoryRecord}
    (h : record ∈ (operation.step code tables).records) :
    record ∈ tables.records ∨ ∃ w, operation = .write w ∧ w.Stores code tables record := by
  cases operation with
  | write w =>
    obtain ⟨added, hrecords, -⟩ := (w.leaves_stored code tables).records
    change record ∈ (w.stored code tables).records at h
    rw [hrecords] at h
    exact (List.mem_append.1 h).imp_right fun hadded => ⟨w, rfl, added, hrecords, hadded⟩
  | createPolicy policy =>
    refine .inl ?_
    change record ∈ (tables.createPolicy policy).2.records at h
    unfold MemoryTables.createPolicy at h
    split at h
    · exact h
    · exact h
  | upsertPolicy policy =>
    refine .inl ?_
    change record ∈ (tables.upsertPolicy policy).2.records at h
    unfold MemoryTables.upsertPolicy MemoryTables.createPolicy at h
    split at h
    · exact h
    · exact h
    · split at h
      · exact h
      · exact h

/-- Every record was stored by a write of the history, on the tables as they were then; by induction on the
history, from its end. -/
theorem exists_stores {record : MemoryRecord}
    (h : record ∈ (after (RetentionOperation.step code) {} operations).records) :
    ∃ before w rest, operations = before ++ .write w :: rest ∧
      w.Stores code (after (RetentionOperation.step code) {} before) record := by
  induction operations using List.reverseRecOn with
  | nil => cases h
  | append_singleton operations operation ih =>
    rw [after_append] at h
    rcases records_step operation _ h with hold | ⟨w, rfl, hstores⟩
    · obtain ⟨before, w, rest, rfl, hstores⟩ := ih hold
      exact ⟨before, w, rest ++ [operation], by simp, hstores⟩
    · exact ⟨operations, w, [], rfl, hstores⟩

end

/-! ## Enforcement -/

section
variable {code : UInt8 → Int} {c : Circumstances} {tenantId : UUID}

/-- Some of the scopes has a policy. -/
def HasPolicy (tables : MemoryTables) (tenantId : UUID) (scopes : List MemoryScope) : Prop :=
  ∃ scope ∈ scopes, ∃ policy, tables.getByTenantScope tenantId scope = .ok (some policy)

/-- What enforcement for these scopes leaves of the tables, and reports. -/
structure Enforced (db : MemoryDatabase) (tenantId : UUID) (scopes : List MemoryScope)
    (tables tables' : MemoryTables) (results : List CleanupResult) : Prop where
  policies : tables'.policies = tables.policies
  reported : results.map (·.scope) = scopes
  /-- What is deleted had expired. -/
  records : tables'.records.Sublist tables.records
  deleted : ∀ record ∈ tables.records, record ∈ tables'.records ∨ MemoryTables.HasExpired db tenantId record
  remaining : HasPolicy tables tenantId scopes →
    ∀ record ∈ tables'.records, ¬MemoryTables.HasExpired db tenantId record
  count : (results.map (·.expiredDeleted)).sum + tables'.records.length = tables.records.length

/-- A scope that is enforced, and then the others, are enforced together. -/
theorem Enforced.cons {db : MemoryDatabase} {scope : MemoryScope} {scopes : List MemoryScope}
    {tables tables₁ tables₂ : MemoryTables} {result : CleanupResult} {results : List CleanupResult}
    (h : Enforced db tenantId [scope] tables tables₁ [result])
    (hrest : Enforced db tenantId scopes tables₁ tables₂ results) :
    Enforced db tenantId (scope :: scopes) tables tables₂ (result :: results) where
  policies := hrest.policies.trans h.policies
  reported := by
    have hreported := h.reported
    simp only [List.map_cons, List.map_nil, List.cons.injEq, and_true] at hreported
    rw [List.map_cons, hreported, hrest.reported]
  records := hrest.records.trans h.records
  deleted record hrecord := by
    rcases h.deleted record hrecord with hrecord | hexpired
    · exact hrest.deleted record hrecord
    · exact .inr hexpired
  remaining := by
    rintro ⟨scope', hscope', policy, hpolicy⟩ record hrecord
    rcases List.mem_cons.1 hscope' with rfl | hscope'
    · exact h.remaining ⟨scope', List.mem_cons_self, policy, hpolicy⟩ record (hrest.records.subset hrecord)
    · refine hrest.remaining ⟨scope', hscope', policy, ?_⟩ record hrecord
      rwa [MemoryTables.getByTenantScope, h.policies]
  count := by
    have hcount := h.count
    have hcount' := hrest.count
    simp only [List.map_cons, List.map_nil, List.sum_cons, List.sum_nil] at hcount ⊢
    omega

/-- The deletion of the expired records. -/
theorem enforced_deleteExpired (db : MemoryDatabase) (tables : MemoryTables) (scope : MemoryScope)
    (result : CleanupResult) (hscope : result.scope = scope)
    (hcount : result.expiredDeleted = (tables.deleteExpired db tenantId).1) :
    Enforced db tenantId [scope] tables (tables.deleteExpired db tenantId).2 [result] where
  policies := rfl
  reported := by rw [List.map_singleton, hscope]
  records := List.filter_sublist
  deleted record hrecord := by
    by_cases hexpired : MemoryTables.HasExpired db tenantId record
    · exact .inr hexpired
    · exact .inl (List.mem_filter.2 ⟨hrecord, by simpa using hexpired⟩)
  remaining _ record hrecord := by simpa using (List.mem_filter.1 hrecord).2
  count := by
    rw [List.map_singleton, List.sum_singleton, hcount, MemoryTables.deleteExpired]
    have hlength := List.length_eq_length_filter_add (fun record =>
      decide (MemoryTables.HasExpired db tenantId record)) (l := tables.records)
    simpa using hlength.symm

/-- One scope: nothing without a policy, and the expired records of the tenant with one. -/
theorem endsIn_enforceScopeRetention (hserved : ∀ o, c.refuses o = none) (s : MemoryState)
    (hunique : s.tables.PoliciesUnique) (scope : MemoryScope) :
    EndsIn (c.env code) s (MemoryCleanupService.enforceScopeRetention tenantId scope) fun x s' =>
      ∃ result, x = .ok result ∧ Enforced c.database tenantId [scope] s.tables s'.tables [result] := by
  obtain ⟨policy, hpolicy⟩ := hunique.exists_getByTenantScope tenantId scope
  have hread : ∀ s' : MemoryState, s'.tables = s.tables →
      Ends (c.env code) s' (tryCall (.policyByTenantScope tenantId scope) id) (.ok policy) s' := by
    intro s' htables
    have hanswer : c.env code (.policyByTenantScope tenantId scope) s' = (.ok policy, s') := by
      simp only [Circumstances.env, Circumstances.query, hserved, htables, hpolicy]
    exact ends_answered (g := id) hanswer
  have hstorage : ∀ s' : MemoryState, Ends (c.env code) s' (tryCall (.storageMb tenantId) id)
      (.ok (s'.tables.storageMb c.database tenantId)) s' := by
    intro s'
    have hanswer : c.env code (.storageMb tenantId) s' = (.ok (s'.tables.storageMb c.database tenantId), s') :=
      Prod.ext (Circumstances.query_of_answered (hserved _) _) rfl
    exact ends_answered (g := id) hanswer
  have hdelete : ∀ s' : MemoryState, s'.tables = s.tables →
      Ends (c.env code) s' (tryCall (.deleteExpired tenantId) id)
        (.ok (s.tables.deleteExpired c.database tenantId).1)
        { s' with tables := (s.tables.deleteExpired c.database tenantId).2 } := by
    intro s' htables
    have hanswer : c.env code (.deleteExpired tenantId) s' =
        (.ok (s.tables.deleteExpired c.database tenantId).1,
          { s' with tables := (s.tables.deleteExpired c.database tenantId).2 }) := by
      rw [← htables]
      exact Circumstances.execute_of_answered (hserved _) s' _
    exact ends_answered (g := id) hanswer
  have hnow : ∀ s' : MemoryState, Ends (c.env code) s' MemoryService.now (.ok (c.clock s'.draws)) s'.drawn :=
    fun s' => ends_call MemoryCall.now
  cases policy with
  | none =>
    have hends : Ends (c.env code) s (MemoryCleanupService.enforceScopeRetention tenantId scope)
        (.ok { tenantId, scope }) s.drawn := (hnow s).bind ((hread s.drawn rfl).bind (ends_pure _))
    refine hends.endsIn ⟨_, rfl, rfl, rfl, .refl _, fun _ => .inl, ?_, Nat.zero_add _⟩
    rintro ⟨scope', hscope', policy, hpolicy'⟩
    rw [List.mem_singleton.1 hscope', hpolicy] at hpolicy'
    cases hpolicy'
  | some policy =>
    have hsweep : Ends (c.env code) s.drawn (MemoryCleanupService.sweep tenantId)
        (.ok ((s.tables.deleteExpired c.database tenantId).1,
          (s.tables.storageMb c.database tenantId).value -
            ((s.tables.deleteExpired c.database tenantId).2.storageMb c.database tenantId).value))
        { s.drawn with tables := (s.tables.deleteExpired c.database tenantId).2 } :=
      (hstorage s.drawn).bind ((hdelete s.drawn rfl).bind ((hstorage _).bind (ends_pure _)))
    obtain ⟨result, hends, hscope, hcount⟩ : ∃ result,
        Ends (c.env code) s (MemoryCleanupService.enforceScopeRetention tenantId scope) (.ok result)
          ({ s.drawn with tables := (s.tables.deleteExpired c.database tenantId).2 } : MemoryState).drawn ∧
        result.scope = scope ∧ result.expiredDeleted = (s.tables.deleteExpired c.database tenantId).1 :=
      ⟨_, (hnow s).bind ((hread s.drawn rfl).bind (hsweep.bind ((hnow _).bind (ends_pure _)))), rfl, rfl⟩
    exact hends.endsIn ⟨result, rfl, enforced_deleteExpired c.database s.tables scope result hscope hcount⟩

/-- One scope after another. -/
theorem endsIn_enforceScopes (hserved : ∀ o, c.refuses o = none) (scopes : List MemoryScope) (s : MemoryState)
    (hunique : s.tables.PoliciesUnique) :
    EndsIn (c.env code) s (MemoryCleanupService.enforceScopes tenantId scopes) fun x s' =>
      ∃ results, x = .ok results ∧ Enforced c.database tenantId scopes s.tables s'.tables results := by
  induction scopes generalizing s with
  | nil =>
    refine (ends_pure _).endsIn ⟨[], rfl, rfl, rfl, .refl _, fun _ => .inl, ?_, Nat.zero_add _⟩
    rintro ⟨scope, hscope, -⟩
    cases hscope
  | cons scope scopes ih =>
    have hfirst : EndsIn (c.env code) s (MemoryCleanupService.enforceScopeRetention tenantId scope)
        fun x s' => ∃ result, x = .ok result ∧
          Enforced c.database tenantId [scope] s.tables s'.tables [result] :=
      endsIn_enforceScopeRetention hserved s hunique scope
    obtain ⟨_, s₁, hends, result, rfl, henforced⟩ := hfirst
    have hunique₁ : s₁.tables.PoliciesUnique := by
      rwa [MemoryTables.PoliciesUnique, henforced.policies]
    obtain ⟨_, s₂, hends', results, rfl, hrest⟩ := ih s₁ hunique₁
    refine ⟨_, s₂, (hends.tryCatch _).bind (hends'.bind (ends_pure _)), result :: results, rfl, ?_⟩
    exact henforced.cons hrest

end

/-- The write of the history that stored the record granted it its time of expiry, and the record is not older
than the lifetime that its scope had at this write. -/
def WithinLifetime (code : UInt8 → Int) (operations : List RetentionOperation) (now : Time)
    (record : MemoryRecord) : Prop :=
  ∃ before w rest, operations = before ++ .write w :: rest ∧
    w.Stores code (after (RetentionOperation.step code) {} before) record ∧
    w.Grants (after (RetentionOperation.step code) {} before) record ∧
    ∃ policy, (after (RetentionOperation.step code) {} before).getByTenantScope w.tenantId w.scope = .ok policy ∧
      ∀ span ∈ lifetime policy w.scope, now ≤ record.createdAt + span

/-- What a write has stored and the enforcement has left has not outlived what the write granted it. -/
theorem withinLifetime_of_stores {code : UInt8 → Int} {operations before rest : List RetentionOperation}
    {w : Write} {record : MemoryRecord} {db : MemoryDatabase}
    (hoperations : operations = before ++ .write w :: rest)
    (h : w.Stores code (after (RetentionOperation.step code) {} before) record)
    (hremains : ¬MemoryTables.HasExpired db record.tenantId record) :
    WithinLifetime code operations db.now record := by
  obtain ⟨policy, hpolicy, written, hwritten, hexpiry⟩ := h.grants.expiry
  refine ⟨before, w, rest, hoperations, h, h.grants, policy, hpolicy, fun span hspan => ?_⟩
  rw [Option.mem_def] at hspan
  rw [hspan, Option.map_some] at hexpiry
  have hlive : db.now ≤ written + span := by
    by_contra hlt
    refine hremains ⟨rfl, ?_⟩
    rw [hexpiry]
    simpa using hlt
  exact hlive.trans (Nat.add_le_add_right hwritten span)

/-- What enforcement promises after a history: the tables before and after, and what is reported. -/
structure RetentionEnforced (code : UInt8 → Int) (operations : List RetentionOperation) (db : MemoryDatabase)
    (tenantId : UUID) (tables tables' : MemoryTables) (results : List CleanupResult) : Prop where
  reported : results.map (·.scope) = MemoryCleanupService.scopes
  kept : ∀ record ∈ tables'.records, record.tenantId = tenantId →
    (∃ policy, tables'.getByTenantScope tenantId record.scope = .ok (some policy)) →
      WithinLifetime code operations db.now record
  remaining : tables'.records.Sublist tables.records
  deleted : ∀ record ∈ tables.records, record ∈ tables'.records ∨ MemoryTables.HasExpired db tenantId record
  count : (results.map (·.expiredDeleted)).sum + tables'.records.length = tables.records.length

/-- **Enforcement leaves no record of a scope with a policy that has outlived what it was granted**, and the
numbers that it reports for the scopes add up to what it has deleted, which had all expired. -/
theorem enforced_retention (code : UInt8 → Int) (operations : List RetentionOperation) (c : Circumstances)
    (hserved : ∀ o, c.refuses o = none) (s : MemoryState)
    (hs : s.tables = after (RetentionOperation.step code) {} operations) (tenantId : UUID) :
    EndsIn (c.env code) s (MemoryCleanupService.enforceRetentionPolicies tenantId) fun x s' =>
      ∃ results, x = .ok results ∧
        RetentionEnforced code operations c.database tenantId s.tables s'.tables results := by
  have hunique : s.tables.PoliciesUnique := hs ▸ policiesUnique_after
  refine (endsIn_enforceScopes hserved MemoryCleanupService.scopes s hunique).mono ?_
  rintro _ s' ⟨results, rfl, henforced⟩
  refine ⟨results, rfl, henforced.reported, fun record hrecord htenant hpolicy => ?_, henforced.records,
    henforced.deleted, henforced.count⟩
  have hhas : HasPolicy s.tables tenantId MemoryCleanupService.scopes := by
    obtain ⟨policy, hpolicy⟩ := hpolicy
    rw [MemoryTables.getByTenantScope, henforced.policies] at hpolicy
    refine ⟨record.scope, ?_, policy, hpolicy⟩
    cases record.scope with
    | ephemeral => exact .head _
    | session => exact .tail _ (.head _)
    | durable => exact .tail _ (.tail _ (.head _))
  obtain ⟨before, w, rest, hoperations, hstores⟩ := exists_stores (hs ▸ henforced.records.subset hrecord)
  exact withinLifetime_of_stores hoperations hstores (htenant ▸ henforced.remaining hhas record hrecord)

namespace ShortenedRetention

/-- The policy of the durable scope. -/
def policy (days : Nat) : MemoryRetentionPolicy :=
  { tenantId := ⟨1⟩, scope := .durable, retentionDays := days }

/-- A durable record is written at time zero. -/
def write : Write where
  service := MemoryWriteService.lineService
  tenantId := ⟨1⟩
  agentId := ⟨2⟩
  scope := .durable
  ns := "notes"
  metadata := []
  sessionId := none
  content := "text"
  circumstances := .calm 0
  clock_monotone _ := Nat.le_refl _

/-- A policy of thirty days, a record, and then a policy of one day. -/
def operations : List RetentionOperation :=
  [.upsertPolicy (policy 30), .write write, .upsertPolicy (policy 1)]

/-- The record. -/
def record : MemoryRecord where
  id := ⟨3⟩
  createdAt := 0
  updatedAt := 0
  tenantId := ⟨1⟩
  agentId := ⟨2⟩
  scope := .durable
  ns := "notes"
  contentCiphertext := "text"
  embedding := some []
  allowedUseLabel := .internal
  expiresAt := some (30 * Time.perDay)

/-- The policies are enforced after two days. -/
def circumstances : Circumstances :=
  { Circumstances.calm 0 with
    database := { (Circumstances.calm 0).database with now := 2 * Time.perDay } }

end ShortenedRetention

/-- The law for a tenant whose policy was shortened after the write. -/
theorem enforced_retention_shortened :
    EndsIn (ShortenedRetention.circumstances.env fun _ => 0)
      ({ tables := after (RetentionOperation.step fun _ => 0) {} ShortenedRetention.operations } : MemoryState)
      (MemoryCleanupService.enforceRetentionPolicies ⟨1⟩) fun x s' =>
      ∃ results, x = .ok results ∧
        RetentionEnforced (fun _ => 0) ShortenedRetention.operations ShortenedRetention.circumstances.database
          ⟨1⟩ (after (RetentionOperation.step fun _ => 0) {} ShortenedRetention.operations) s'.tables results :=
  enforced_retention (fun _ => 0) ShortenedRetention.operations ShortenedRetention.circumstances (fun _ => rfl)
    { tables := after (RetentionOperation.step fun _ => 0) {} ShortenedRetention.operations } rfl ⟨1⟩

/-- The record is kept, although the policy of its scope allows one day now. -/
theorem not_enforced_shortened :
    ∃ results s', Ends (ShortenedRetention.circumstances.env fun _ => 0)
        ({ tables := after (RetentionOperation.step fun _ => 0) {} ShortenedRetention.operations } : MemoryState)
        (MemoryCleanupService.enforceRetentionPolicies ⟨1⟩) (.ok results) s' ∧
      ShortenedRetention.record ∈ s'.tables.records ∧
      s'.tables.getByTenantScope ⟨1⟩ .durable = .ok (some (ShortenedRetention.policy 1)) ∧
      ShortenedRetention.record.createdAt + 1 * Time.perDay < ShortenedRetention.circumstances.database.now :=
  ⟨_, _, ⟨rfl, rfl⟩, .head _, rfl, by decide⟩

end AgentRuntime
