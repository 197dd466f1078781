import AgentRuntime.Services.ExpiredMemory

/-!
# What a tenant is returned of the others' memory

What each of the five reads returns is a function of the tables (`MemoryRead.returns_eq`): a statement
selects rows, and each is decrypted for the tenant. The rows are the tenant's own. Four statements ask for
the tenant's rows alone; the fifth finds a row by its primary key, and the service drops it if it is of
another tenant. So the others' rows are not seen (`retrieval_isolated`).
-/

namespace AgentRuntime

open Interaction

/-- The identifiers are the primary key of the table. -/
def MemoryTables.IdsUnique (self : MemoryTables) : Prop := (self.records.map MemoryRecord.id).Nodup

instance (self : MemoryTables) : Decidable self.IdsUnique := inferInstanceAs (Decidable (List.Nodup _))

/-- A row that is found by its identifier is a tenant's if it is found among the tenant's. -/
theorem MemoryTables.getRecord_ofTenant {self : MemoryTables} (h : self.IdsUnique) (tenantId recordId : UUID) :
    ((self.getRecord recordId).toList.filter fun record => record.tenantId = tenantId) =
      ((self.ofTenant tenantId).getRecord recordId).toList := by
  have hunique : ∀ a ∈ self.records, ∀ b ∈ self.records, decide (a.id = recordId) = true →
      decide (b.id = recordId) = true → a = b := by
    intro a ha b hb hida hidb
    exact List.inj_on_of_nodup_map h ha hb ((of_decide_eq_true hida).trans (of_decide_eq_true hidb).symm)
  cases hrecord : self.getRecord recordId with
  | none =>
    have hnone : (self.ofTenant tenantId).getRecord recordId = none := by
      refine List.find?_eq_none.2 fun record hmem => ?_
      exact List.find?_eq_none.1 hrecord record (List.mem_filter.1 hmem).1
    rw [hnone]
    rfl
  | some record =>
    obtain ⟨hmem, hid⟩ := (find?_eq_some_iff_of_unique hunique).1 hrecord
    by_cases htenant : record.tenantId = tenantId
    · have hfound : (self.ofTenant tenantId).getRecord recordId = some record := by
        refine (find?_eq_some_iff_of_unique fun a ha b hb => ?_).2
          ⟨List.mem_filter.2 ⟨hmem, decide_eq_true htenant⟩, hid⟩
        exact hunique a (List.mem_filter.1 ha).1 b (List.mem_filter.1 hb).1
      rw [hfound]
      exact List.filter_eq_self.2 (by simpa using htenant)
    · have hnone : (self.ofTenant tenantId).getRecord recordId = none := by
        refine List.find?_eq_none.2 fun other hother hidother => htenant ?_
        obtain ⟨hmemother, htenantother⟩ := List.mem_filter.1 hother
        rw [hunique record hmem other hmemother hid hidother]
        exact of_decide_eq_true htenantother
      rw [hnone]
      exact List.filter_eq_nil_iff.2 (by simpa using htenant)

section
variable {db : MemoryDatabase} {self : MemoryTables} {tenantId agentId : UUID}

/-- A limit selects among the rows. -/
theorem MemoryTables.limited_subset {α : Type} {limit : Int} {rows rows' : List α}
    (h : limited limit rows = .ok rows') : rows' ⊆ rows := by
  unfold limited at h
  split at h
  · cases h
  · obtain rfl := Except.ok.inj h
    exact List.take_subset _ _

/-- The search by similarity selects stored records. -/
theorem MemoryTables.mem_of_searchByVector {queryEmbedding : Embedding} {ns : String}
    {scope : MemoryScope} {limit : Int} {sessionId : Option String} {rows : List (MemoryRecord × PyFloat)}
    (h : self.searchByVector db tenantId agentId queryEmbedding ns scope limit sessionId = .ok rows) :
    ∀ row ∈ rows, row.1 ∈ self.records := by
  intro row hrow
  have hsorted := (List.mem_insertionSort _).1 (limited_subset h hrow)
  obtain ⟨record, hrecord, rfl⟩ := List.mem_map.1 hsorted
  exact (List.mem_filter.1 ((db.order.perm _).mem_iff.1 hrecord)).1

/-- So does the search by metadata. -/
theorem MemoryTables.mem_of_searchByMetadata {ns : String} {scope : MemoryScope} {metadataFilters : Dict}
    {limit : Int} {rows : List MemoryRecord}
    (h : self.searchByMetadata db tenantId agentId ns scope metadataFilters limit = .ok rows) :
    ∀ row ∈ rows, row ∈ self.records :=
  fun _ hrow => (List.mem_filter.1 ((db.order.perm _).mem_iff.1 (limited_subset h hrow))).1

/-- So does the list of records. -/
theorem MemoryTables.mem_of_getByTenantAgent {limit offset : Int} {rows : List MemoryRecord}
    (h : self.getByTenantAgent db tenantId agentId limit offset = .ok rows) :
    ∀ row ∈ rows, row ∈ self.records := by
  intro row hrow
  unfold getByTenantAgent page at h
  split at h
  · cases h
  · have hsorted := (List.mem_insertionSort _).1 (List.mem_of_mem_drop (limited_subset h hrow))
    exact (List.mem_filter.1 ((db.order.perm _).mem_iff.1 hsorted)).1

end

namespace MemoryRead

open MemoryRetrievalService

variable (service : MemoryRetrievalService) (c : Circumstances) (tenantId agentId : UUID)
  (tables : MemoryTables)

/-- The rows that the read returns, with their similarity where they were searched for by vector. -/
def selects : MemoryRead → Except PyError (List (MemoryRecord × Option PyFloat))
  | retrieveMemory query ns scope limit sessionId metadataFilters similarityThreshold => do
    let queryEmbedding ← c.embedding 0 query tenantId
    let results ← c.query
      (.searchByVector tenantId agentId queryEmbedding ns scope (clamped limit) sessionId)
      (tables.searchByVector c.database tenantId agentId queryEmbedding ns scope (clamped limit) sessionId)
    let results := results.take (clamped limit).toNat
    let filteredResults := results.filter fun result => similarityThreshold ≤ result.2.value
    let filteredResults := match metadataFilters.filter (!·.isEmpty) with
      | some metadataFilters => service.applyMetadataFilters filteredResults metadataFilters
      | none => filteredResults
    return filteredResults.map fun result => (result.1, some result.2)
  | retrieveByMetadata ns scope metadataFilters limit => do
    let results ← c.query
      (.searchByMetadata tenantId agentId ns scope metadataFilters (clamped limit))
      (tables.searchByMetadata c.database tenantId agentId ns scope metadataFilters (clamped limit))
    return results.map fun record => (record, none)
  | retrieveBySession sessionId ns scope limit => do
    let queryEmbedding := List.replicate service.embeddingDimension 0
    let results ← c.query
      (.searchByVector tenantId agentId queryEmbedding ns scope limit (some sessionId))
      (tables.searchByVector c.database tenantId agentId queryEmbedding ns scope limit (some sessionId))
    return (results.filter fun result => result.1.sessionId = some sessionId).map fun result =>
      (result.1, some result.2)
  | getMemoryRecord recordId => do
    let record ← c.query (.recordGet recordId) (.ok (tables.getRecord recordId))
    return (record.toList.filter fun record => record.tenantId = tenantId).map fun record => (record, none)
  | listMemoryRecords limit offset => do
    let records ← c.query (.recordsByTenantAgent tenantId agentId (clamped limit) offset)
      (tables.getByTenantAgent c.database tenantId agentId (clamped limit) offset)
    return records.map fun record => (record, none)

/-- What a selected row is returned as. -/
def returnedAs (selected : MemoryRecord × Option PyFloat) : Except PyError MemoryRecord := do
  let decrypted ← shown service c tenantId selected.1
  match selected.2 with
  | some similarity =>
    return { decrypted with metadata := decrypted.metadata.set "_similarity" (.float similarity.text) }
  | none => return decrypted

/-- What the call returns, or raises. -/
def answer (read : MemoryRead) : Except PyError (List MemoryRecord) :=
  read.selects service c tenantId agentId tables >>= fun rows => rows.mapM (returnedAs service c tenantId)

open Proc

variable {service c tenantId agentId tables} {code : UInt8 → Int} {s s' : MemoryState}
  {world : MemoryWorld}

/-- A row without similarity is returned as it is shown. -/
theorem returnedAs_none (row : MemoryRecord) :
    returnedAs service c tenantId (row, none) = shown service c tenantId row :=
  bind_pure _

/-- Decrypting rows changes nothing, and ends with what is returned for them. -/
theorem ends_decryptRecords (rows : List MemoryRecord) :
    Ends (c.env code) s (rows.mapM (service.decryptRecord tenantId))
      ((rows.map fun row => (row, none)).mapM (returnedAs service c tenantId)) s := by
  rw [List.mapM_map]
  refine ends_mapM (fun row => ?_) rows
  rw [Function.comp_apply, returnedAs_none]
  exact ends_decryptRecord row

/-- So does decrypting and redacting results. -/
theorem ends_returnedResults (results : List (MemoryRecord × PyFloat)) :
    Ends (c.env code) s (service.decryptAndRedactResults tenantId results)
      ((results.map fun result => (result.1, some result.2)).mapM (returnedAs service c tenantId)) s := by
  rw [List.mapM_map]
  exact ends_decryptResults results

/-- A statement, and what is made of the rows that it selects. -/
theorem ends_selected {α : Type} {m : MemoryService α} {x : Except PyError α}
    {f : α → MemoryService (List MemoryRecord)} {g : α → List (MemoryRecord × Option PyFloat)}
    (hm : Ends (c.env code) s m x s')
    (hf : ∀ a, Ends (c.env code) s' (f a) ((g a).mapM (returnedAs service c tenantId)) s') :
    Ends (c.env code) s (m >>= f)
      ((x >>= fun a => pure (g a)) >>= fun rows => rows.mapM (returnedAs service c tenantId)) s' := by
  rw [bind_assoc]
  exact hm.andThen fun a _ => hf a

/-- The run of the read. -/
theorem ends_program (read : MemoryRead) : ∃ s', Ends (c.env code) { world with }
    (read.program service tenantId agentId) (read.answer service c tenantId agentId world.tables) s' := by
  cases read with
  | retrieveMemory query ns scope limit sessionId metadataFilters similarityThreshold =>
    have hgenerate : Ends (c.env code) { world with } (tryCall (.generateEmbedding query tenantId) id)
        (c.embedding 0 query tenantId) { world with draws := 1 } := ends_tryCall _ _
    rw [answer, selects, bind_assoc]
    exact ⟨_, hgenerate.andThen fun queryEmbedding _ =>
      ends_selected (ends_tryCall _ _) fun results => ends_returnedResults _⟩
  | retrieveByMetadata ns scope metadataFilters limit =>
    exact ⟨_, ends_selected (ends_tryCall _ _) fun rows => ends_decryptRecords rows⟩
  | retrieveBySession sessionId ns scope limit =>
    exact ⟨_, ends_selected (ends_tryCall _ _) fun results => ends_returnedResults _⟩
  | getMemoryRecord recordId =>
    rw [program, MemoryRetrievalService.getMemoryRecord, map_eq_pure_bind, bind_assoc]
    refine ⟨_, ends_selected (ends_tryCall _ _) fun record => ?_⟩
    cases record with
    | none => exact ends_pure []
    | some record =>
      by_cases htenant : record.tenantId = tenantId
      · have hfilter : [record].filter (fun record => record.tenantId = tenantId) = [record] :=
          List.filter_eq_self.2 (by simpa using htenant)
        dsimp only
        rw [if_neg (not_not.2 htenant), Option.toList_some, hfilter]
        simpa [List.mapM_cons] using ends_decryptRecords [record]
      · have hfilter : [record].filter (fun record => record.tenantId = tenantId) = [] :=
          List.filter_eq_nil_iff.2 (by simpa using htenant)
        dsimp only
        rw [if_pos htenant, Option.toList_some, hfilter]
        exact ends_pure []
  | listMemoryRecords limit offset =>
    exact ⟨_, ends_selected (ends_tryCall _ _) fun rows => ends_decryptRecords rows⟩

/-- What a read returns is its answer from the tables. -/
theorem returns_eq (read : MemoryRead) : read.returns code service c tenantId agentId world =
    some (read.answer service c tenantId agentId world.tables) := by
  obtain ⟨s', hends⟩ := ends_program read
  unfold returns
  rw [hends.1]
  rfl

/-! ## The rows of the tenant -/

/-- The rows that are selected depend on the tenant's rows. -/
theorem selects_ofTenant (h : tables.IdsUnique) (read : MemoryRead) :
    read.selects service c tenantId agentId tables =
      read.selects service c tenantId agentId (tables.ofTenant tenantId) := by
  cases read with
  | retrieveMemory query ns scope limit sessionId metadataFilters similarityThreshold =>
    simp only [selects, MemoryTables.searchByVector_ofTenant]
  | retrieveByMetadata ns scope metadataFilters limit =>
    simp only [selects, MemoryTables.searchByMetadata_ofTenant]
  | retrieveBySession sessionId ns scope limit =>
    simp only [selects, MemoryTables.searchByVector_ofTenant]
  | getMemoryRecord recordId =>
    have hfilter : (((tables.ofTenant tenantId).getRecord recordId).toList.filter fun record =>
        record.tenantId = tenantId) = ((tables.ofTenant tenantId).getRecord recordId).toList := by
      refine List.filter_eq_self.2 fun record hrecord => ?_
      have hmem := List.mem_of_find?_eq_some (Option.mem_toList.1 hrecord)
      exact (List.mem_filter.1 hmem).2
    rw [selects, selects]
    unfold Circumstances.query
    cases c.refuses (.recordGet recordId) with
    | some e => rfl
    | none =>
      exact congrArg (fun records : List MemoryRecord => Except.ok (records.map fun record => (record, none)))
        ((MemoryTables.getRecord_ofTenant h tenantId recordId).trans hfilter.symm)
  | listMemoryRecords limit offset =>
    simp only [selects, MemoryTables.getByTenantAgent_ofTenant]

/-- Of the tables, the records are read. -/
theorem selects_congr {tables' : MemoryTables} (h : tables'.records = tables.records) (read : MemoryRead) :
    read.selects service c tenantId agentId tables' = read.selects service c tenantId agentId tables := by
  cases read with
  | retrieveMemory query ns scope limit sessionId metadataFilters similarityThreshold =>
    simp only [selects, MemoryTables.searchByVector, h]
  | retrieveByMetadata ns scope metadataFilters limit =>
    simp only [selects, MemoryTables.searchByMetadata, h]
  | retrieveBySession sessionId ns scope limit => simp only [selects, MemoryTables.searchByVector, h]
  | getMemoryRecord recordId => simp only [selects, MemoryTables.getRecord, h]
  | listMemoryRecords limit offset => simp only [selects, MemoryTables.getByTenantAgent, h]

/-- The rows that are selected are stored. -/
theorem mem_of_selects {read : MemoryRead} {rows : List (MemoryRecord × Option PyFloat)}
    (h : read.selects service c tenantId agentId tables = .ok rows) : ∀ row ∈ rows, row.1 ∈ tables.records := by
  intro row hrow
  cases read with
  | retrieveMemory query ns scope limit sessionId metadataFilters similarityThreshold =>
    obtain ⟨queryEmbedding, -, h⟩ := bind_eq_ok.1 h
    obtain ⟨results, hresults, h⟩ := bind_eq_ok.1 h
    obtain rfl := Except.ok.inj h
    obtain ⟨result, hresult, rfl⟩ := List.mem_map.1 hrow
    refine MemoryTables.mem_of_searchByVector (Circumstances.query_eq_ok_iff.1 hresults).2 result ?_
    cases hfilters : metadataFilters.filter (!·.isEmpty) with
    | none =>
      rw [hfilters] at hresult
      exact List.mem_of_mem_take (List.mem_filter.1 hresult).1
    | some metadataFilters =>
      rw [hfilters] at hresult
      exact List.mem_of_mem_take (List.mem_filter.1 (List.mem_filter.1 hresult).1).1
  | retrieveByMetadata ns scope metadataFilters limit =>
    obtain ⟨records, hrecords, h⟩ := bind_eq_ok.1 h
    obtain rfl := Except.ok.inj h
    obtain ⟨record, hrecord, rfl⟩ := List.mem_map.1 hrow
    exact MemoryTables.mem_of_searchByMetadata (Circumstances.query_eq_ok_iff.1 hrecords).2 record hrecord
  | retrieveBySession sessionId ns scope limit =>
    obtain ⟨results, hresults, h⟩ := bind_eq_ok.1 h
    obtain rfl := Except.ok.inj h
    obtain ⟨result, hresult, rfl⟩ := List.mem_map.1 hrow
    exact MemoryTables.mem_of_searchByVector (Circumstances.query_eq_ok_iff.1 hresults).2 result
      (List.mem_filter.1 hresult).1
  | getMemoryRecord recordId =>
    obtain ⟨record, hrecord, h⟩ := bind_eq_ok.1 h
    obtain rfl := Except.ok.inj h
    obtain ⟨record', hrecord', rfl⟩ := List.mem_map.1 hrow
    obtain rfl := Except.ok.inj (Circumstances.query_eq_ok_iff.1 hrecord).2
    exact List.mem_of_find?_eq_some (Option.mem_toList.1 (List.mem_filter.1 hrecord').1)
  | listMemoryRecords limit offset =>
    obtain ⟨records, hrecords, h⟩ := bind_eq_ok.1 h
    obtain rfl := Except.ok.inj h
    obtain ⟨record, hrecord, rfl⟩ := List.mem_map.1 hrow
    exact MemoryTables.mem_of_getByTenantAgent (Circumstances.query_eq_ok_iff.1 hrecords).2 record hrecord

/-- A public record is shown as it is. -/
theorem shownContent_of_public {row : MemoryRecord} (h : row.allowedUseLabel = .publicUse) (plaintext : String) :
    service.shownContent tenantId row plaintext = plaintext := by
  unfold shownContent
  rw [if_neg (not_not.2 h)]

/-- What is returned for a row is the row, with what is shown of its plaintext. -/
theorem of_returnedAs {row : MemoryRecord × Option PyFloat} {record : MemoryRecord}
    (h : returnedAs service c tenantId row = .ok record) :
    record.id = row.1.id ∧ record.tenantId = row.1.tenantId ∧
      ∃ plaintext, c.plaintext row.1.contentCiphertext tenantId = .ok plaintext ∧
        record.contentCiphertext = service.shownContent tenantId row.1 plaintext := by
  obtain ⟨decrypted, hdecrypted, h⟩ := bind_eq_ok.1 h
  obtain ⟨plaintext, hplaintext, hshown⟩ := bind_eq_ok.1 hdecrypted
  obtain rfl := Except.ok.inj hshown
  obtain ⟨row, similarity⟩ := row
  cases similarity with
  | none =>
    obtain rfl := Except.ok.inj h
    exact ⟨rfl, rfl, plaintext, hplaintext, rfl⟩
  | some similarity =>
    obtain rfl := Except.ok.inj h
    exact ⟨rfl, rfl, plaintext, hplaintext, rfl⟩

end MemoryRead

open MemoryRead in
/-- A tenant is returned its own records, decrypted with its own key (a record that is public word for word), and
the rows of the others have no part in it. -/
theorem retrieval_isolated (code : UInt8 → Int) (service : MemoryRetrievalService) (c : Circumstances)
    (tenantId agentId : UUID) (read : MemoryRead) (world : MemoryWorld) (hids : world.tables.IdsUnique) :
    (∀ records, read.returns code service c tenantId agentId world = some (.ok records) →
      ∀ record ∈ records, record.tenantId = tenantId ∧
        ∃ row ∈ world.tables.records, row.tenantId = tenantId ∧ row.id = record.id ∧
          ∃ plaintext, c.plaintext row.contentCiphertext tenantId = .ok plaintext ∧
            record.contentCiphertext = service.shownContent tenantId row plaintext ∧
              (row.allowedUseLabel = .publicUse → record.contentCiphertext = plaintext)) ∧
    ∀ world' : MemoryWorld, world'.tables.IdsUnique →
      (world'.tables.ofTenant tenantId).records = (world.tables.ofTenant tenantId).records →
      read.returns code service c tenantId agentId world' =
        read.returns code service c tenantId agentId world := by
  simp only [returns_eq, Option.some.injEq]
  constructor
  · intro records hrecords record hrecord
    obtain ⟨rows, hrows, hreturned⟩ := bind_eq_ok.1 hrecords
    rw [selects_ofTenant hids] at hrows
    obtain ⟨row, hrow, hrecord⟩ := mem_of_mapM_eq_ok hreturned record hrecord
    obtain ⟨hid, htenant, plaintext, hplaintext, hcontent⟩ := of_returnedAs hrecord
    obtain ⟨hstored, hown⟩ := List.mem_filter.1 (mem_of_selects hrows row hrow)
    replace hown : row.1.tenantId = tenantId := of_decide_eq_true hown
    refine ⟨htenant.trans hown, row.1, hstored, hown, hid.symm, plaintext, hplaintext, hcontent, fun hpublic => ?_⟩
    rw [hcontent, shownContent_of_public hpublic]
  · intro world' hids' hsame
    have hselects : read.selects service c tenantId agentId world'.tables =
        read.selects service c tenantId agentId world.tables := by
      rw [selects_ofTenant hids', selects_ofTenant hids, selects_congr hsame]
    unfold answer
    rw [hselects]

namespace RetrievalIsolation

/-- Each of two tenants has a key, and a ciphertext that it decrypts. -/
def circumstances : Circumstances :=
  { ExpiredMemory.circumstances with
    plaintext := fun ciphertext tenantId =>
      if (ciphertext, tenantId) = ("c2VhbGVk", ⟨1⟩) ∨ (ciphertext, tenantId) = ("b3RoZXI=", ⟨7⟩) then
        .ok "text"
      else .error (.external "InvalidTag") }

def own : MemoryRecord :=
  { ExpiredMemory.record with contentCiphertext := "c2VhbGVk", expiresAt := none }

def other : MemoryRecord :=
  { own with id := ⟨4⟩, tenantId := ⟨7⟩, contentCiphertext := "b3RoZXI=" }

def shared : MemoryWorld where
  tables := { records := [other, own] }

/-- The list of the tenant's records. -/
def read : MemoryRead := .listMemoryRecords 8 0

end RetrievalIsolation

open RetrievalIsolation in
/-- A list of the tenant's records is the same without the other's row, and its record is its own. -/
theorem retrieval_isolated_list :
    (∀ records, read.returns (fun _ => 0) ExpiredMemory.service circumstances ⟨1⟩ ⟨2⟩ shared =
        some (.ok records) → ∀ record ∈ records, record.tenantId = ⟨1⟩) ∧
      read.returns (fun _ => 0) ExpiredMemory.service circumstances ⟨1⟩ ⟨2⟩
          { tables := { records := [own] } } =
        read.returns (fun _ => 0) ExpiredMemory.service circumstances ⟨1⟩ ⟨2⟩ shared := by
  have hids : shared.tables.IdsUnique := by decide
  obtain ⟨hown, hsame⟩ := retrieval_isolated (fun _ => 0) ExpiredMemory.service circumstances ⟨1⟩ ⟨2⟩
    read shared hids
  refine ⟨fun records hrecords record hrecord => (hown records hrecords record hrecord).1, ?_⟩
  exact hsame { tables := { records := [own] } } (by decide) rfl

end AgentRuntime
