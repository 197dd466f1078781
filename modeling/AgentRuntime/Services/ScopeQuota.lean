import AgentRuntime.Interaction.BigStep
import AgentRuntime.Runtime.MemoryWorld
import AgentRuntime.Services.MemoryCleanupService
import AgentRuntime.Services.MemoryQuota
import Mathlib.Algebra.Ring.Nat

/-!
# Two checks of a quota

The write service checks the quota of a scope before it stores anything, the cleanup service to report it. The
one compares the megabytes as they are, the other their whole part; a limit is a whole number, so that both
come to the same verdict (`checkQuota_raises_iff_isOverQuota`).

The records are counted for the scope, but measured for the tenant: what the tenant keeps in other scopes
counts against the limit of this one. `sameQuota_iff` says that the checks do not tell two tables with the
same records of the scope apart exactly if the other scopes take the same room in both.
-/

namespace AgentRuntime

open Interaction Proc

variable {S : Type} {env : Env MemoryCall MemoryCall.Ans S} {s : S} {tenantId : UUID} {scope : MemoryScope}
  {policy : Option MemoryRetentionPolicy} {count : Nat} {storageMb : PyFloat}

/-! ## What the checks come to -/

/-- What is answered to a check of the quota. -/
structure UsageAnswered (env : Env MemoryCall MemoryCall.Ans S) (s : S) (tenantId : UUID) (scope : MemoryScope)
    (policy : Option MemoryRetentionPolicy) (count : Nat) (storageMb : PyFloat) : Prop where
  policy : env (.policyByTenantScope tenantId scope) s = (.ok policy, s)
  count : env (.countByTenant tenantId scope) s = (.ok count, s)
  storage : env (.storageMb tenantId) s = (.ok storageMb, s)

/-- The write service refuses to write. -/
def RaisesQuota (env : Env MemoryCall MemoryCall.Ans S) (s : S) (tenantId : UUID) (scope : MemoryScope) :
    Prop :=
  ∃ message s', Ends env s (MemoryWriteService.checkQuota tenantId scope)
    (.error (.memoryQuotaExceeded message)) s'

/-- A call whose answer is known ends with what is made of it. -/
theorem ends_answered {α : Type} {o : MemoryCall} {g : o.Ans → Except PyError α} {a : o.Ans} {s' : S}
    (h : env o s = (a, s')) : Ends env s (tryCall o g) (g a) s' := by
  have hends : Ends env s (tryCall o g) (g (env o s).1) (env o s).2 := ends_tryCall o g
  rwa [h] at hends

/-- The check raises exactly if there is a policy and the answered usage exceeds it. -/
theorem raisesQuota_iff (h : UsageAnswered env s tenantId scope policy count storageMb) :
    RaisesQuota env s tenantId scope ↔
      (policy.bind fun policy => policy.isQuotaExceeded count storageMb).isSome = true := by
  have hpolicy := ends_answered (g := id) h.policy
  have hcount := ends_answered (g := id) h.count
  have hstorage := ends_answered (g := id) h.storage
  cases policy with
  | none =>
    have hends : Ends env s (MemoryWriteService.checkQuota tenantId scope) (.ok ()) s :=
      hpolicy.bind (ends_pure ())
    constructor
    · rintro ⟨message, s', hraises⟩
      cases (hraises.unique hends).1
    · exact nofun
  | some policy =>
    cases hexceeded : policy.isQuotaExceeded count storageMb with
    | none =>
      have hends : Ends env s (MemoryWriteService.checkQuota tenantId scope) (.ok ()) s := by
        refine hpolicy.bind (hcount.bind (hstorage.bind ?_))
        rw [hexceeded]
        exact ends_pure ()
      constructor
      · rintro ⟨message, s', hraises⟩
        cases (hraises.unique hends).1
      · simp [hexceeded]
    | some reason =>
      refine ⟨fun _ => by simp [hexceeded], fun _ => ⟨s!"Memory quota exceeded: {reason}", s, ?_⟩⟩
      refine hpolicy.bind (hcount.bind (hstorage.bind ?_))
      rw [hexceeded]
      exact ends_throw _

/-- What the cleanup service reports. -/
theorem exists_ends_checkScopeQuota (h : UsageAnswered env s tenantId scope policy count storageMb) :
    ∃ status, Ends env s (MemoryCleanupService.checkScopeQuota tenantId scope) (.ok status) s ∧
      status.recordCount = count ∧ status.storageMb = storageMb ∧
      status.isOverQuota =
        (policy.bind fun policy => policy.isQuotaExceeded count (.ofInt storageMb.int)).isSome := by
  have hpolicy := ends_answered (g := id) h.policy
  have hcount := ends_answered (g := id) h.count
  have hstorage := ends_answered (g := id) h.storage
  cases policy with
  | none => exact ⟨_, hpolicy.bind (hcount.bind (hstorage.bind (ends_pure _))), rfl, rfl, rfl⟩
  | some policy => exact ⟨_, hpolicy.bind (hcount.bind (hstorage.bind (ends_pure _))), rfl, rfl, rfl⟩

/-! ## The whole part of the megabytes -/

/-- A whole number is below the whole part exactly if it is below the number. -/
theorem natCast_le_int_iff {x : PyFloat} (hx : 0 ≤ x.value) (limit : Nat) :
    (limit : Rat) ≤ (PyFloat.ofInt x.int).value ↔ (limit : Rat) ≤ x.value := by
  have hfloor : (PyFloat.ofInt x.int).value = (x.value.floor : Rat) := by
    simp only [PyFloat.ofInt, PyFloat.int, if_neg (Rat.not_lt.2 hx)]
  rw [hfloor, ← Rat.intCast_natCast, Rat.intCast_le_intCast, Rat.le_floor_iff]

/-- So the quota is exceeded by the whole part exactly if it is by the number. -/
theorem isSome_isQuotaExceeded_int (policy : MemoryRetentionPolicy) (count : Nat) (hx : 0 ≤ storageMb.value) :
    (policy.isQuotaExceeded count (.ofInt storageMb.int)).isSome =
      (policy.isQuotaExceeded count storageMb).isSome := by
  unfold MemoryRetentionPolicy.isQuotaExceeded
  cases policy.maxRecordsPerTenant.filter (· ≤ count) with
  | some limit => rfl
  | none =>
    cases policy.maxStorageMb with
    | none => rfl
    | some limit =>
      have hiff := natCast_le_int_iff hx limit
      by_cases hle : (limit : Rat) ≤ storageMb.value
      · simp [Option.filter_some, hle, hiff.2 hle]
      · simp [Option.filter_some, hle, mt hiff.1 hle]

/-! ## Stored sets -/

/-- The room that a record takes: its content and the text of its metadata. -/
def MemoryRecord.bytes (metadataText : Dict → String) (record : MemoryRecord) : Nat :=
  record.contentCiphertext.length + (metadataText record.metadata).length

def storedBytes (metadataText : Dict → String) (records : List MemoryRecord) : Nat :=
  (records.map (MemoryRecord.bytes metadataText)).sum

/-- The database measures records by the room they take; `floatText` is the `repr` of a float. -/
def MemoryDatabase.Measures (db : MemoryDatabase) (metadataText : Dict → String) (floatText : Rat → String) :
    Prop :=
  ∀ records, db.storageMb records =
    ⟨(storedBytes metadataText records : Rat) / (1024 * 1024),
      floatText ((storedBytes metadataText records : Rat) / (1024 * 1024))⟩

/-- The checks give the same verdict, count and storage figure on both. -/
structure SameQuota (env : Env MemoryCall MemoryCall.Ans S) (tenantId : UUID) (scope : MemoryScope)
    (s₁ s₂ : S) : Prop where
  raises : RaisesQuota env s₁ tenantId scope ↔ RaisesQuota env s₂ tenantId scope
  status : ∀ status₁ status₂ s₁' s₂',
    Ends env s₁ (MemoryCleanupService.checkScopeQuota tenantId scope) (.ok status₁) s₁' →
    Ends env s₂ (MemoryCleanupService.checkScopeQuota tenantId scope) (.ok status₂) s₂' →
      status₁.isOverQuota = status₂.isOverQuota ∧ status₁.recordCount = status₂.recordCount ∧
        status₁.storageMb = status₂.storageMb

/-- The records of a scope of a tenant. -/
def MemoryTables.scopeRecords (self : MemoryTables) (tenantId : UUID) (scope : MemoryScope) :
    List MemoryRecord :=
  self.records.filter fun record => record.tenantId = tenantId ∧ record.scope = scope

/-- The records that a tenant has in other scopes. -/
def MemoryTables.otherRecords (self : MemoryTables) (tenantId : UUID) (scope : MemoryScope) :
    List MemoryRecord :=
  self.records.filter fun record => record.tenantId = tenantId ∧ record.scope ≠ scope

section
variable {metadataText : Dict → String} {floatText : Rat → String} {tables tables' : MemoryTables}

/-- The order of the records does not matter to their size. -/
theorem storedBytes_perm (metadataText : Dict → String) {records records' : List MemoryRecord}
    (h : records.Perm records') :
    storedBytes metadataText records = storedBytes metadataText records' :=
  (h.map _).sum_nat

/-- The room that a tenant takes is that of the scope and that of the others. -/
theorem storedBytes_tenant (metadataText : Dict → String) (tables : MemoryTables) (tenantId : UUID)
    (scope : MemoryScope) :
    storedBytes metadataText (tables.records.filter fun record => record.tenantId = tenantId) =
      storedBytes metadataText (tables.scopeRecords tenantId scope) +
        storedBytes metadataText (tables.otherRecords tenantId scope) := by
  have hsplit := List.filter_append_perm (fun record : MemoryRecord => decide (record.scope = scope))
    (tables.records.filter fun record => record.tenantId = tenantId)
  rw [← storedBytes_perm metadataText hsplit, storedBytes, List.map_append, List.sum_append]
  simp only [List.filter_filter]
  congr 1
  · refine congrArg (storedBytes metadataText) (List.filter_congr fun record _ => ?_)
    simp [Bool.and_comm]
  · refine congrArg (storedBytes metadataText) (List.filter_congr fun record _ => ?_)
    simp [Bool.and_comm]

/-- It does not matter to whether there is one row. -/
theorem oneOrNone_perm {α : Type} {rows rows' : List α} (h : rows.Perm rows') :
    MemoryTables.oneOrNone rows = MemoryTables.oneOrNone rows' := by
  cases rows with
  | nil => rw [List.nil_perm.1 h]
  | cons row rest =>
    cases rest with
    | nil => rw [List.singleton_perm.1 h]
    | cons row' rest =>
      have hlength := h.length_eq
      cases rows' with
      | nil => simp at hlength
      | cons other rest' =>
        cases rest' with
        | nil => simp at hlength
        | cons other' rest' => rfl

/-- So it does not matter to the policy that is found. -/
theorem getByTenantScope_perm (h : tables.policies.Perm tables'.policies) (tenantId : UUID)
    (scope : MemoryScope) :
    tables.getByTenantScope tenantId scope = tables'.getByTenantScope tenantId scope :=
  oneOrNone_perm (h.filter _)

/-- What the checks are answered by the tables. -/
theorem usageAnswered_env (code : UInt8 → Int) {c : Circumstances} (hserved : ∀ o, c.refuses o = none)
    {s : MemoryState} (hpolicy : s.tables.getByTenantScope tenantId scope = .ok policy) :
    UsageAnswered (c.env code) s tenantId scope policy (s.tables.scopeRecords tenantId scope).length
      (s.tables.storageMb c.database tenantId) where
  policy := Prod.ext ((Circumstances.query_of_answered (hserved _) _).trans hpolicy) rfl
  count := Prod.ext (Circumstances.query_of_answered (hserved _) _) rfl
  storage := Prod.ext (Circumstances.query_of_answered (hserved _) _) rfl

/-- Sizes are equal if they are in megabytes. -/
theorem eq_of_megabytes_eq {m n : Nat} (h : (m : Rat) / (1024 * 1024) = (n : Rat) / (1024 * 1024)) :
    m = n := by
  have hne : (1024 * 1024 : Rat) ≠ 0 := by decide +kernel
  have hmul := congrArg (· * (1024 * 1024 : Rat)) h
  simp only [Rat.div_mul_cancel hne] at hmul
  exact Rat.natCast_inj.1 hmul

end

/-! ## A tenant with one record -/

namespace OneMegabyte

/-- A limit of one megabyte for the durable scope, and no records. -/
def emptyTables : MemoryTables where
  policies := [{ tenantId := ⟨1⟩, scope := .durable, retentionDays := 30, maxStorageMb := some 1 }]

/-- A session record. -/
def record (content : String) : MemoryRecord where
  id := ⟨3⟩
  createdAt := 0
  updatedAt := 0
  tenantId := ⟨1⟩
  agentId := ⟨2⟩
  scope := .session
  ns := "notes"
  contentCiphertext := content

/-- The same with the session record. -/
def tables (content : String) : MemoryTables := { emptyTables with records := [record content] }

/-- A megabyte of text. -/
def megabyte : String := String.ofList (List.replicate (1024 * 1024) 'x')

/-- The text of the sample has a megabyte. -/
theorem length_megabyte : megabyte.length = 1024 * 1024 := by
  unfold megabyte
  exact String.length_ofList.trans List.length_replicate

/-- The text of no metadata. -/
def metadataText : Dict → String := fun _ => "\x7b\x7d"

/-- The `repr` of no megabytes, and of those of the record. -/
def floatText (x : Rat) : String := if x = 0 then "0.0" else "1.0000019073486328"

/-- Everything is served, and the records are measured. -/
def circumstances : Circumstances :=
  { Circumstances.calm 0 with
    database :=
      { (Circumstances.calm 0).database with
        storageMb := fun records =>
          ⟨(storedBytes metadataText records : Rat) / (1024 * 1024),
            floatText ((storedBytes metadataText records : Rat) / (1024 * 1024))⟩ } }

/-- Its tables have one policy for each tenant and scope. -/
theorem policiesUnique : emptyTables.PoliciesUnique := fun _ _ => List.length_filter_le _ _

/-- Its database measures what is stored. -/
theorem measures : circumstances.database.Measures metadataText floatText := fun _ => rfl

/-- Its questions about usage are answered from the tables. -/
theorem answered (s : MemoryState) (hpolicies : s.tables.policies = emptyTables.policies) :
    UsageAnswered (circumstances.env fun _ => 0) s ⟨1⟩ .durable (some
      { tenantId := ⟨1⟩, scope := .durable, retentionDays := 30, maxStorageMb := some 1 })
      (s.tables.scopeRecords ⟨1⟩ .durable).length (s.tables.storageMb circumstances.database ⟨1⟩) := by
  refine usageAnswered_env _ (fun _ => rfl) ?_
  rw [MemoryTables.getByTenantScope, hpolicies]
  rfl

/-- A record of the sample takes its text and two bytes more. -/
theorem storageMb_tables {content : String} {n : Nat} (h : content.length = n) :
    ((tables content).storageMb circumstances.database ⟨1⟩).value = ((n + 2 : Nat) : Rat) / (1024 * 1024) := by
  have hmetadata : (metadataText []).length = 2 := by decide
  have hbytes : storedBytes metadataText [record content] = n + 2 := by
    rw [storedBytes, List.map_singleton, List.sum_singleton, ← h]
    exact congrArg (content.length + ·) hmetadata
  have hvalue : ((tables content).storageMb circumstances.database ⟨1⟩).value =
      (storedBytes metadataText [record content] : Rat) / (1024 * 1024) := rfl
  rw [hvalue, hbytes]

/-- With a session record of so many characters, nothing can be written to the durable scope. -/
theorem raisesQuota {content : String} {n : Nat} (h : content.length = n)
    (hover : (1 : Rat) ≤ ((n + 2 : Nat) : Rat) / (1024 * 1024)) :
    RaisesQuota (circumstances.env fun _ => 0) ({ tables := tables content } : MemoryState) ⟨1⟩ .durable := by
  rw [raisesQuota_iff (answered { tables := tables content } rfl)]
  have hmb : (1 : Rat) ≤ ((tables content).storageMb circumstances.database ⟨1⟩).value := by
    rwa [storageMb_tables h]
  simp [MemoryRetentionPolicy.isQuotaExceeded, Option.filter_some, hmb]

/-- No quota is exceeded while nothing is stored. -/
theorem not_raisesQuota :
    ¬RaisesQuota (circumstances.env fun _ => 0) ({ tables := emptyTables } : MemoryState) ⟨1⟩ .durable := by
  rw [raisesQuota_iff (answered { tables := emptyTables } rfl)]
  decide +kernel

/-- The record that is stored is one of another scope. -/
theorem scopeRecords_tables (content : String) :
    (tables content).scopeRecords ⟨1⟩ .durable = emptyTables.scopeRecords ⟨1⟩ .durable := rfl

end OneMegabyte

/-! ## The two checks -/

/-- **The write service refuses exactly where the cleanup service reports the scope as over its quota.** Both
compare the same count and the same sum with the same policy. -/
theorem checkQuota_raises_iff_isOverQuota {bytes : Nat}
    (h : UsageAnswered env s tenantId scope policy count storageMb)
    (hbytes : storageMb.value = (bytes : Rat) / (1024 * 1024)) :
    RaisesQuota env s tenantId scope ↔
      ∃ status s', Ends env s (MemoryCleanupService.checkScopeQuota tenantId scope) (.ok status) s' ∧
        status.isOverQuota = true := by
  have hnonneg : 0 ≤ storageMb.value := by
    rw [hbytes]
    exact Rat.mul_nonneg Rat.natCast_nonneg (by decide +kernel)
  obtain ⟨status, hstatus, -, -, hover⟩ := exists_ends_checkScopeQuota h
  have hverdict : status.isOverQuota =
      (policy.bind fun policy => policy.isQuotaExceeded count storageMb).isSome := by
    rw [hover]
    cases policy with
    | none => rfl
    | some policy => exact isSome_isQuotaExceeded_int policy count hnonneg
  rw [raisesQuota_iff h, ← hverdict]
  constructor
  · exact fun hraises => ⟨status, s, hstatus, hraises⟩
  · rintro ⟨status', s', hstatus', hover'⟩
    rwa [Except.ok.inj (hstatus.unique hstatus').1]

/-- The two sides for one record of another scope. -/
theorem checkQuota_raises_iff_isOverQuota_oneRecord :
    RaisesQuota (OneMegabyte.circumstances.env fun _ => 0)
        ({ tables := OneMegabyte.tables "text" } : MemoryState) ⟨1⟩ .durable ↔
      ∃ status s', Ends (OneMegabyte.circumstances.env fun _ => 0)
          ({ tables := OneMegabyte.tables "text" } : MemoryState)
          (MemoryCleanupService.checkScopeQuota ⟨1⟩ .durable) (.ok status) s' ∧
        status.isOverQuota = true :=
  checkQuota_raises_iff_isOverQuota (OneMegabyte.answered { tables := OneMegabyte.tables "text" } rfl)
    (OneMegabyte.storageMb_tables rfl)

/-- **The checks agree on two tables with the same records of the scope and the same policies exactly if the
tenant's other scopes take the same room in both.** -/
theorem sameQuota_iff (code : UInt8 → Int) (c : Circumstances) (metadataText : Dict → String)
    (floatText : Rat → String) (hmeasures : c.database.Measures metadataText floatText)
    (hserved : ∀ o, c.refuses o = none) (s₁ s₂ : MemoryState) (tenantId : UUID) (scope : MemoryScope)
    (hunique : s₁.tables.PoliciesUnique)
    (hrecords : (s₁.tables.scopeRecords tenantId scope).Perm (s₂.tables.scopeRecords tenantId scope))
    (hpolicies : s₁.tables.policies.Perm s₂.tables.policies) :
    SameQuota (c.env code) tenantId scope s₁ s₂ ↔
      storedBytes metadataText (s₁.tables.otherRecords tenantId scope) =
        storedBytes metadataText (s₂.tables.otherRecords tenantId scope) := by
  obtain ⟨policy, hpolicy⟩ := hunique.exists_getByTenantScope tenantId scope
  have hanswered₁ := usageAnswered_env code hserved hpolicy
  have hanswered₂ := usageAnswered_env code hserved
    ((getByTenantScope_perm hpolicies tenantId scope).symm.trans hpolicy)
  have htotal₁ := storedBytes_tenant metadataText s₁.tables tenantId scope
  have htotal₂ := storedBytes_tenant metadataText s₂.tables tenantId scope
  have hscope := storedBytes_perm metadataText hrecords
  constructor
  · intro h
    obtain ⟨status₁, hends₁, -, hmb₁, -⟩ := exists_ends_checkScopeQuota hanswered₁
    obtain ⟨status₂, hends₂, -, hmb₂, -⟩ := exists_ends_checkScopeQuota hanswered₂
    have hfigure := (h.status _ _ _ _ hends₁ hends₂).2.2
    rw [hmb₁, hmb₂, MemoryTables.storageMb, MemoryTables.storageMb, hmeasures, hmeasures] at hfigure
    have hbytes := eq_of_megabytes_eq (congrArg PyFloat.value hfigure)
    omega
  · intro h
    have hstorage : s₁.tables.storageMb c.database tenantId = s₂.tables.storageMb c.database tenantId := by
      rw [MemoryTables.storageMb, MemoryTables.storageMb, hmeasures, hmeasures, htotal₁, htotal₂, h, hscope]
    rw [hrecords.length_eq, hstorage] at hanswered₁
    refine ⟨(raisesQuota_iff hanswered₁).trans (raisesQuota_iff hanswered₂).symm, ?_⟩
    intro status₁ status₂ s₁' s₂' hends₁ hends₂
    obtain ⟨status₁', hends₁', hcount₁, hmb₁, hover₁⟩ := exists_ends_checkScopeQuota hanswered₁
    obtain ⟨status₂', hends₂', hcount₂, hmb₂, hover₂⟩ := exists_ends_checkScopeQuota hanswered₂
    obtain rfl := Except.ok.inj (hends₁.unique hends₁').1
    obtain rfl := Except.ok.inj (hends₂.unique hends₂').1
    exact ⟨hover₁.trans hover₂.symm, hcount₁.trans hcount₂.symm, hmb₁.trans hmb₂.symm⟩

/-- The condition for a table without records, and one with a record of another scope. -/
theorem sameQuota_iff_oneRecord :
    SameQuota (OneMegabyte.circumstances.env fun _ => 0) ⟨1⟩ .durable
        ({ tables := OneMegabyte.emptyTables } : MemoryState)
        ({ tables := OneMegabyte.tables "text" } : MemoryState) ↔
      storedBytes OneMegabyte.metadataText (OneMegabyte.emptyTables.otherRecords ⟨1⟩ .durable) =
        storedBytes OneMegabyte.metadataText ((OneMegabyte.tables "text").otherRecords ⟨1⟩ .durable) :=
  sameQuota_iff (fun _ => 0) OneMegabyte.circumstances OneMegabyte.metadataText OneMegabyte.floatText
    OneMegabyte.measures (fun _ => rfl) { tables := OneMegabyte.emptyTables }
    { tables := OneMegabyte.tables "text" } ⟨1⟩ .durable OneMegabyte.policiesUnique (.refl _) (.refl _)

/-- A session record of a megabyte uses up the quota of the durable scope: the sum is over all scopes of
the tenant. -/
theorem not_sameQuota_oneMegabyte :
    (OneMegabyte.tables OneMegabyte.megabyte).scopeRecords ⟨1⟩ .durable =
        OneMegabyte.emptyTables.scopeRecords ⟨1⟩ .durable ∧
      (OneMegabyte.tables OneMegabyte.megabyte).policies = OneMegabyte.emptyTables.policies ∧
      ¬RaisesQuota (OneMegabyte.circumstances.env fun _ => 0)
        ({ tables := OneMegabyte.emptyTables } : MemoryState) ⟨1⟩ .durable ∧
      RaisesQuota (OneMegabyte.circumstances.env fun _ => 0)
        ({ tables := OneMegabyte.tables OneMegabyte.megabyte } : MemoryState) ⟨1⟩ .durable :=
  ⟨OneMegabyte.scopeRecords_tables _, rfl, OneMegabyte.not_raisesQuota,
    OneMegabyte.raisesQuota OneMegabyte.length_megabyte (by decide +kernel)⟩

end AgentRuntime
