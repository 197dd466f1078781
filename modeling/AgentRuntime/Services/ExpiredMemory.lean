import AgentRuntime.Interaction.BigStep
import AgentRuntime.Runtime.MemoryWorld
import AgentRuntime.Services.MemoryRetrievalService

/-!
# What is returned of expired memory

The five ways to read memory records, against the tables. The search by vector leaves out the rows that have
expired, the other statements do not. `never_expired_iff` says when a read returns no expired record: always
if it searches by vector, and otherwise exactly if no row that it reads has expired or the read fails.
-/

namespace AgentRuntime

open Interaction

/-- A call of the memory retrieval service. -/
inductive MemoryRead where
  | retrieveMemory (query ns : String) (scope : MemoryScope) (limit : Int) (sessionId : Option String)
      (metadataFilters : Option Dict) (similarityThreshold : Rat)
  | retrieveByMetadata (ns : String) (scope : MemoryScope) (metadataFilters : Dict) (limit : Int)
  | retrieveBySession (sessionId ns : String) (scope : MemoryScope) (limit : Int)
  | getMemoryRecord (recordId : UUID)
  | listMemoryRecords (limit offset : Int)

namespace MemoryRead

open MemoryRetrievalService

variable (code : UInt8 → Int) (service : MemoryRetrievalService) (c : Circumstances)
  (tenantId agentId : UUID)

def program : MemoryRead → MemoryService (List MemoryRecord)
  | retrieveMemory query ns scope limit sessionId metadataFilters similarityThreshold =>
    service.retrieveMemory tenantId agentId query ns scope limit sessionId metadataFilters
      similarityThreshold
  | retrieveByMetadata ns scope metadataFilters limit =>
    service.retrieveByMetadata tenantId agentId ns scope metadataFilters limit
  | retrieveBySession sessionId ns scope limit =>
    service.retrieveBySession tenantId agentId sessionId ns scope limit
  | getMemoryRecord recordId => Option.toList <$> service.getMemoryRecord tenantId recordId
  | listMemoryRecords limit offset => service.listMemoryRecords tenantId agentId limit offset

/-- What the call returns or raises. -/
def returns (world : MemoryWorld) (read : MemoryRead) : Option (Except PyError (List MemoryRecord)) :=
  (((read.program service tenantId agentId).on ()).exec (c.env code) { world with }).result.map Prod.fst

/-- No record that is returned has expired when the database is asked. -/
def NeverExpired (world : MemoryWorld) (read : MemoryRead) : Prop :=
  ∀ records, read.returns code service c tenantId agentId world = some (.ok records) →
    ∀ record ∈ records, record.isExpired c.database.now = false

/-- The rows that it is about, where it does not search by vector. -/
def wanted (db : MemoryDatabase) (tables : MemoryTables) : MemoryRead → List MemoryRecord
  | retrieveMemory _ _ _ _ _ _ _ | retrieveBySession _ _ _ _ => []
  | retrieveByMetadata ns scope metadataFilters limit =>
    (db.order.arrange (tables.records.filter fun record =>
      (record.tenantId = tenantId ∧ record.agentId = agentId ∧ record.ns = ns ∧ record.scope = scope) ∧
        MemoryTables.MatchesMetadata db metadataFilters record)).take (clamped limit).toNat
  | getMemoryRecord recordId =>
    (tables.getRecord recordId).toList.filter fun record => record.tenantId = tenantId
  | listMemoryRecords limit offset =>
    (((db.order.arrange (tables.records.filter fun record => record.tenantId = tenantId ∧ record.agentId = agentId)
      ).insertionSort fun a b => b.createdAt ≤ a.createdAt).drop offset.toNat).take (clamped limit).toNat

/-- The statement is not refused. -/
def Answered : MemoryRead → Prop
  | retrieveMemory _ _ _ _ _ _ _ | retrieveBySession _ _ _ _ => True
  | retrieveByMetadata ns scope metadataFilters limit =>
    c.refuses (.searchByMetadata tenantId agentId ns scope metadataFilters (clamped limit)) = none
  | getMemoryRecord recordId => c.refuses (.recordGet recordId) = none
  | listMemoryRecords limit offset =>
    c.refuses (.recordsByTenantAgent tenantId agentId (clamped limit) offset) = none ∧ 0 ≤ offset

/-- The row can be decrypted. -/
def Decrypts (row : MemoryRecord) : Prop :=
  ∃ plaintext, c.plaintext row.contentCiphertext tenantId = .ok plaintext

/-- What the row is shown as. -/
def shown (row : MemoryRecord) : Except PyError MemoryRecord := do
  let content ← c.plaintext row.contentCiphertext tenantId
  return { row with contentCiphertext := service.shownContent tenantId row content }

end MemoryRead

/-! ## Expiry -/

/-- A limit that is not negative takes so many rows. -/
theorem MemoryTables.limited_of_nonneg {α : Type} {limit : Int} (h : 0 ≤ limit) (rows : List α) :
    limited limit rows = .ok (rows.take limit.toNat) := if_neg (not_lt.2 h)

/-- A search by vector finds no row that has expired. -/
theorem MemoryTables.live_of_searchByVector {db : MemoryDatabase} {self : MemoryTables}
    {tenantId agentId : UUID} {queryEmbedding : Embedding} {ns : String} {scope : MemoryScope}
    {limit : Int} {sessionId : Option String} {rows : List (MemoryRecord × PyFloat)}
    (h : self.searchByVector db tenantId agentId queryEmbedding ns scope limit sessionId = .ok rows) :
    ∀ row ∈ rows, row.1.isExpired db.now = false := by
  intro row hrow
  unfold searchByVector limited at h
  split at h
  · cases h
  · obtain rfl := Except.ok.inj h
    have hsorted := (List.perm_insertionSort _ _).mem_iff.1 (List.mem_of_mem_take hrow)
    obtain ⟨record, hrecord, rfl⟩ := List.mem_map.1 hsorted
    have hsearched : Searched db tenantId agentId ns scope sessionId record :=
      of_decide_eq_true (List.mem_filter.1 ((db.order.perm _).mem_iff.1 hrecord)).2
    obtain ⟨-, -, -, -, -, hlive, -⟩ := hsearched
    unfold MemoryRecord.isExpired
    cases hexpires : record.expiresAt with
    | none => rfl
    | some expiresAt =>
      rw [hexpires] at hlive
      have hlater : db.now < expiresAt := of_decide_eq_true hlive
      exact decide_eq_false (not_le.2 hlater)

namespace MemoryRead

open MemoryRetrievalService Proc

variable {code : UInt8 → Int} {service : MemoryRetrievalService} {c : Circumstances}
  {tenantId agentId : UUID} {s : MemoryState}

/-! ## What is shown of a row -/

/-- A record is shown with its expiry. -/
theorem isExpired_of_shown {row record : MemoryRecord} (h : shown service c tenantId row = .ok record)
    (t : Time) : record.isExpired t = row.isExpired t := by
  obtain ⟨content, -, hrecord⟩ := bind_eq_ok.1 h
  obtain rfl := Except.ok.inj hrecord
  rfl

/-- A record can be shown exactly if its content can be decrypted. -/
theorem shown_eq_ok_iff {row : MemoryRecord} :
    (∃ record, shown service c tenantId row = .ok record) ↔ Decrypts c tenantId row := by
  constructor
  · rintro ⟨record, h⟩
    obtain ⟨content, hcontent, -⟩ := bind_eq_ok.1 h
    exact ⟨content, hcontent⟩
  · rintro ⟨content, hcontent⟩
    exact ⟨_, bind_eq_ok.2 ⟨content, hcontent, rfl⟩⟩

/-- Decrypting a record for a read changes nothing, and ends with what is shown of it. -/
theorem ends_decryptRecord (row : MemoryRecord) :
    Ends (c.env code) s (service.decryptRecord tenantId row) (shown service c tenantId row) s := by
  have hdecrypt : Ends (c.env code) s (tryCall (.decrypt row.contentCiphertext tenantId) id)
      (c.plaintext row.contentCiphertext tenantId) s := ends_tryCall _ _
  exact hdecrypt.andThen fun content _ => ends_pure _

/-- The rows of a search are shown with their similarity. -/
theorem ends_decryptResults (results : List (MemoryRecord × PyFloat)) :
    Ends (c.env code) s (service.decryptAndRedactResults tenantId results)
      (results.mapM fun result => do
        let decrypted ← shown service c tenantId result.1
        return { decrypted with metadata := decrypted.metadata.set "_similarity" (.float result.2.text) })
      s := by
  refine ends_mapM (fun result => ?_) results
  have hdecrypt : Ends (c.env code) s (service.decryptRecord tenantId result.1)
      (shown service c tenantId result.1) s := ends_decryptRecord result.1
  exact hdecrypt.andThen fun decrypted _ => ends_pure _

/-- They expire as they did. -/
theorem ends_decryptAndRedactResults {results : List (MemoryRecord × PyFloat)} {t : Time}
    (hlive : ∀ result ∈ results, result.1.isExpired t = false) :
    ∃ x, Ends (c.env code) s (service.decryptAndRedactResults tenantId results) x s ∧
      ∀ records, x = .ok records → ∀ record ∈ records, record.isExpired t = false := by
  refine ⟨_, ends_decryptResults results, fun records hrecords => ?_⟩
  refine (forall_mem_of_mapM_eq_ok (fun result record hrecord => ?_) hrecords).1 hlive
  obtain ⟨decrypted, hdecrypted, hrecord⟩ := bind_eq_ok.1 hrecord
  obtain rfl := Except.ok.inj hrecord
  rw [← isExpired_of_shown hdecrypted]
  rfl

/-- What was searched for by vector, and selected from, is returned without what has expired. -/
theorem live_of_search {queryEmbedding : Embedding} {ns : String} {scope : MemoryScope} {limit : Int}
    {sessionId : Option String} {f : List (MemoryRecord × PyFloat) → List (MemoryRecord × PyFloat)}
    (hf : ∀ rows, f rows ⊆ rows) :
    ∃ x, Ends (c.env code) s
        (tryCall (.searchByVector tenantId agentId queryEmbedding ns scope limit sessionId) id >>=
          fun rows => service.decryptAndRedactResults tenantId (f rows)) x s ∧
      ∀ records, x = .ok records → ∀ record ∈ records, record.isExpired c.database.now = false := by
  let call : MemoryCall := .searchByVector tenantId agentId queryEmbedding ns scope limit sessionId
  have hsearch : Ends (c.env code) s (tryCall call id) (c.query call (s.tables.searchByVector c.database
      tenantId agentId queryEmbedding ns scope limit sessionId)) s := ends_tryCall _ _
  cases hrows : c.query call (s.tables.searchByVector c.database tenantId agentId queryEmbedding ns scope
      limit sessionId) with
  | error e =>
    rw [hrows] at hsearch
    exact ⟨.error e, hsearch.bind_error, fun records h => by cases h⟩
  | ok rows =>
    rw [hrows] at hsearch
    have hlive := MemoryTables.live_of_searchByVector (Circumstances.query_eq_ok_iff.1 hrows).2
    obtain ⟨x, hx, hrecords⟩ :=
      ends_decryptAndRedactResults fun row hrow => hlive row (hf rows hrow)
    exact ⟨x, hsearch.bind hx, hrecords⟩

/-! ## The calls -/

/-- A limit is not negative after it was clamped. -/
theorem zero_le_clamped (limit : Int) : 0 ≤ clamped limit := by
  unfold clamped maxLimit
  omega

/-- The search by similarity returns no expired record: its statement leaves them out. -/
theorem live_of_retrieveMemory (query ns : String) (scope : MemoryScope) (limit : Int)
    (sessionId : Option String) (metadataFilters : Option Dict) (similarityThreshold : Rat) :
    ∃ x s', Ends (c.env code) s (service.retrieveMemory tenantId agentId query ns scope limit sessionId
        metadataFilters similarityThreshold) x s' ∧
      ∀ records, x = .ok records → ∀ record ∈ records, record.isExpired c.database.now = false := by
  let similar (rows : List (MemoryRecord × PyFloat)) : List (MemoryRecord × PyFloat) :=
    (rows.take (clamped limit).toNat).filter fun row => similarityThreshold ≤ row.2.value
  have hsimilar (rows : List (MemoryRecord × PyFloat)) : similar rows ⊆ rows :=
    fun row hrow => List.mem_of_mem_take (List.mem_filter.1 hrow).1
  have hgenerate : Ends (c.env code) s (tryCall (.generateEmbedding query tenantId) id)
      (c.embedding s.draws query tenantId) s.drawn := ends_tryCall _ _
  unfold MemoryRetrievalService.retrieveMemory
  cases hembedding : c.embedding s.draws query tenantId with
  | error e =>
    rw [hembedding] at hgenerate
    exact ⟨.error e, s.drawn, hgenerate.bind_error, fun records h => by cases h⟩
  | ok queryEmbedding =>
    rw [hembedding] at hgenerate
    cases metadataFilters.filter (!·.isEmpty) with
    | none =>
      obtain ⟨x, hx, hlive⟩ := live_of_search hsimilar
      exact ⟨x, s.drawn, hgenerate.bind hx, hlive⟩
    | some metadataFilters =>
      have hfiltered (rows : List (MemoryRecord × PyFloat)) :
          service.applyMetadataFilters (similar rows) metadataFilters ⊆ rows :=
        fun row hrow => hsimilar rows (List.mem_filter.1 hrow).1
      obtain ⟨x, hx, hlive⟩ := live_of_search hfiltered
      exact ⟨x, s.drawn, hgenerate.bind hx, hlive⟩

/-- Neither does the retrieval of a session, which is such a search. -/
theorem live_of_retrieveBySession (sessionId ns : String) (scope : MemoryScope) (limit : Int) :
    ∃ x, Ends (c.env code) s (service.retrieveBySession tenantId agentId sessionId ns scope limit) x s ∧
      ∀ records, x = .ok records → ∀ record ∈ records, record.isExpired c.database.now = false :=
  live_of_search (f := fun rows => rows.filter fun row => row.1.sessionId = some sessionId)
    fun _ _ hrow => (List.mem_filter.1 hrow).1

section
variable {o : MemoryCall} {rows : List MemoryRecord} {m : MemoryService (List MemoryRecord)}

/-- Rows that a statement selects are shown, if it is not refused. -/
theorem ends_shown (hm : Ends (c.env code) s m (c.query o (.ok rows)) s) :
    Ends (c.env code) s (m >>= fun rows => rows.mapM (service.decryptRecord tenantId))
      (c.query o (.ok rows) >>= fun rows => rows.mapM (shown service c tenantId)) s :=
  hm.andThen fun rows _ => ends_mapM (fun row => ends_decryptRecord row) rows

end

/-- The search by metadata returns what it selects, expired or not. -/
theorem ends_retrieveByMetadata (ns : String) (scope : MemoryScope) (metadataFilters : Dict)
    (limit : Int) :
    Ends (c.env code) s (service.retrieveByMetadata tenantId agentId ns scope metadataFilters limit)
      (c.query (.searchByMetadata tenantId agentId ns scope metadataFilters (clamped limit))
        (.ok (wanted tenantId agentId c.database s.tables
          (.retrieveByMetadata ns scope metadataFilters limit))) >>=
        fun rows => rows.mapM (shown service c tenantId)) s := by
  refine ends_shown ?_
  rw [wanted, ← MemoryTables.limited_of_nonneg (zero_le_clamped limit)]
  exact ends_tryCall _ _

/-- So does the list of records. -/
theorem ends_listMemoryRecords (limit offset : Int) (h : 0 ≤ offset) :
    Ends (c.env code) s (service.listMemoryRecords tenantId agentId limit offset)
      (c.query (.recordsByTenantAgent tenantId agentId (clamped limit) offset)
        (.ok (wanted tenantId agentId c.database s.tables (.listMemoryRecords limit offset))) >>=
        fun rows => rows.mapM (shown service c tenantId)) s := by
  refine ends_shown ?_
  rw [wanted, ← MemoryTables.limited_of_nonneg (zero_le_clamped limit)]
  have hpage (rows : List MemoryRecord) : MemoryTables.page (clamped limit) offset rows =
      MemoryTables.limited (clamped limit) (rows.drop offset.toNat) := if_neg (not_lt.2 h)
  rw [← hpage]
  exact ends_tryCall _ _

/-- A negative offset is refused. -/
theorem ends_listMemoryRecords_of_neg (limit offset : Int) (h : offset < 0) :
    ∃ e, Ends (c.env code) s (service.listMemoryRecords tenantId agentId limit offset) (.error e) s := by
  let call : MemoryCall := .recordsByTenantAgent tenantId agentId (clamped limit) offset
  have hpage : s.tables.getByTenantAgent c.database tenantId agentId (clamped limit) offset =
      .error (.external "OFFSET must not be negative") := if_pos h
  have hlist : Ends (c.env code) s (tryCall call id) (c.query call
      (s.tables.getByTenantAgent c.database tenantId agentId (clamped limit) offset)) s := ends_tryCall _ _
  rw [hpage] at hlist
  unfold Circumstances.query at hlist
  cases hrefuses : c.refuses call with
  | some e =>
    rw [hrefuses] at hlist
    exact ⟨e, hlist.bind_error⟩
  | none =>
    rw [hrefuses] at hlist
    exact ⟨_, hlist.bind_error⟩

/-- So does the lookup of one record, if it is one of the tenant. -/
theorem ends_getMemoryRecord (recordId : UUID) :
    Ends (c.env code) s (Option.toList <$> service.getMemoryRecord tenantId recordId)
      (c.query (.recordGet recordId)
        (.ok (wanted tenantId agentId c.database s.tables (.getMemoryRecord recordId))) >>=
        fun rows => rows.mapM (shown service c tenantId)) s := by
  have hget : Ends (c.env code) s (tryCall (.recordGet recordId) id)
      (c.query (.recordGet recordId) (.ok (s.tables.getRecord recordId))) s := ends_tryCall _ _
  unfold Circumstances.query at hget ⊢
  rw [wanted]
  cases hrefuses : c.refuses (.recordGet recordId) with
  | some e =>
    rw [hrefuses] at hget
    exact hget.bind_error.map Option.toList
  | none =>
    rw [hrefuses] at hget
    cases hrecord : s.tables.getRecord recordId with
    | none =>
      rw [hrecord] at hget
      have hends : Ends (c.env code) s (service.getMemoryRecord tenantId recordId) (.ok none) s :=
        hget.bind (ends_pure none)
      exact hends.map Option.toList
    | some record =>
      rw [hrecord] at hget
      by_cases htenant : record.tenantId = tenantId
      · have hfilter : [record].filter (fun record => record.tenantId = tenantId) = [record] :=
          List.filter_eq_self.2 (by simpa using htenant)
        have hends : Ends (c.env code) s (service.getMemoryRecord tenantId recordId)
            (shown service c tenantId record >>= fun decrypted => .ok (some decrypted)) s := by
          refine hget.bind ?_
          dsimp only
          rw [if_neg (not_not.2 htenant)]
          exact (ends_decryptRecord record).andThen fun decrypted _ => ends_pure (some decrypted)
        replace hends := hends.map Option.toList
        rw [Option.toList_some, hfilter]
        cases hshown : shown service c tenantId record with
        | error e =>
          rw [hshown] at hends
          simpa [List.mapM_cons, hshown, bind, Except.bind, Except.map] using hends
        | ok decrypted =>
          rw [hshown] at hends
          simpa [List.mapM_cons, hshown, bind, Except.bind, Except.map, pure, Except.pure] using hends
      · have hfilter : [record].filter (fun record => record.tenantId = tenantId) = [] :=
          List.filter_eq_nil_iff.2 (by simpa using htenant)
        have hends : Ends (c.env code) s (service.getMemoryRecord tenantId recordId) (.ok none) s := by
          refine hget.bind ?_
          dsimp only
          rw [if_pos htenant]
          exact ends_pure none
        rw [Option.toList_some, hfilter]
        exact hends.map Option.toList

/-! ## When no expired record is returned -/

/-- A read has one end, so what it never returns is what that end does not have. -/
theorem neverExpired_iff_of_ends {world : MemoryWorld} {read : MemoryRead}
    {x : Except PyError (List MemoryRecord)} {s' : MemoryState}
    (h : Ends (c.env code) { world with } (read.program service tenantId agentId) x s') :
    read.NeverExpired code service c tenantId agentId world ↔
      ∀ records, x = .ok records → ∀ record ∈ records, record.isExpired c.database.now = false := by
  unfold NeverExpired returns
  rw [h.1, Option.map_some]
  simp only [Option.some.injEq]

/-- Of rows that are shown, none may have expired. -/
theorem live_mapM_shown_iff {rows : List MemoryRecord} {t : Time} :
    (∀ records, rows.mapM (shown service c tenantId) = .ok records →
        ∀ record ∈ records, record.isExpired t = false) ↔
      ((∀ row ∈ rows, Decrypts c tenantId row) → ∀ row ∈ rows, row.isExpired t = false) := by
  have hshown (records : List MemoryRecord) (h : rows.mapM (shown service c tenantId) = .ok records) :
      (∀ row ∈ rows, row.isExpired t = false) ↔ ∀ record ∈ records, record.isExpired t = false :=
    forall_mem_of_mapM_eq_ok (fun row record hrecord => by rw [isExpired_of_shown hrecord]) h
  constructor
  · intro h hdecrypts
    obtain ⟨records, hrecords⟩ :=
      exists_mapM_eq_ok.2 fun row hrow => shown_eq_ok_iff.2 (hdecrypts row hrow)
    exact (hshown records hrecords).2 (h records hrecords)
  · intro h records hrecords
    refine (hshown records hrecords).1 (h fun row hrow => ?_)
    exact shown_eq_ok_iff.1 (exists_mapM_eq_ok.1 ⟨records, hrecords⟩ row hrow)

/-- So it is where a statement selects them. -/
theorem live_query_iff {o : MemoryCall} {rows : List MemoryRecord} {t : Time} :
    (∀ records, (c.query o (.ok rows) >>= fun rows => rows.mapM (shown service c tenantId)) = .ok records →
        ∀ record ∈ records, record.isExpired t = false) ↔
      (c.refuses o = none → (∀ row ∈ rows, Decrypts c tenantId row) →
        ∀ row ∈ rows, row.isExpired t = false) := by
  rw [← live_mapM_shown_iff]
  unfold Circumstances.query
  cases c.refuses o with
  | none => exact ⟨fun h _ => h, fun h => h rfl⟩
  | some e =>
    constructor
    · intro _ h
      cases h
    · intro _ records h
      cases h

end MemoryRead

/-- No expired record is returned exactly if none of the rows that the read is about has expired, or the
read fails. A read that searches by vector is about no row without looking at its expiry. -/
theorem never_expired_iff (code : UInt8 → Int) (service : MemoryRetrievalService) (c : Circumstances)
    (tenantId agentId : UUID) (world : MemoryWorld) (read : MemoryRead) :
    read.NeverExpired code service c tenantId agentId world ↔
      (read.Answered c tenantId agentId →
        (∀ row ∈ read.wanted tenantId agentId c.database world.tables, MemoryRead.Decrypts c tenantId row) →
        ∀ row ∈ read.wanted tenantId agentId c.database world.tables,
          row.isExpired c.database.now = false) := by
  have hnone (row : MemoryRecord) (hrow : row ∈ ([] : List MemoryRecord)) :
      row.isExpired c.database.now = false := by cases hrow
  cases read with
  | retrieveMemory query ns scope limit sessionId metadataFilters similarityThreshold =>
    obtain ⟨x, s', hx, hlive⟩ := MemoryRead.live_of_retrieveMemory query ns scope limit sessionId
      metadataFilters similarityThreshold
    exact (MemoryRead.neverExpired_iff_of_ends hx).trans (iff_of_true hlive fun _ _ => hnone)
  | retrieveBySession sessionId ns scope limit =>
    obtain ⟨x, hx, hlive⟩ := MemoryRead.live_of_retrieveBySession sessionId ns scope limit
    exact (MemoryRead.neverExpired_iff_of_ends hx).trans (iff_of_true hlive fun _ _ => hnone)
  | retrieveByMetadata ns scope metadataFilters limit =>
    exact (MemoryRead.neverExpired_iff_of_ends (MemoryRead.ends_retrieveByMetadata ns scope metadataFilters
      limit)).trans MemoryRead.live_query_iff
  | getMemoryRecord recordId =>
    exact (MemoryRead.neverExpired_iff_of_ends (MemoryRead.ends_getMemoryRecord recordId)).trans
      MemoryRead.live_query_iff
  | listMemoryRecords limit offset =>
    rcases Int.lt_or_le offset 0 with hoffset | hoffset
    · obtain ⟨e, hends⟩ := MemoryRead.ends_listMemoryRecords_of_neg limit offset hoffset
      refine (MemoryRead.neverExpired_iff_of_ends hends).trans (iff_of_true ?_ fun hanswered => ?_)
      · intro records h
        cases h
      · exact absurd hanswered.2 (not_le.2 hoffset)
    · rw [MemoryRead.neverExpired_iff_of_ends (MemoryRead.ends_listMemoryRecords limit offset hoffset),
        MemoryRead.live_query_iff, MemoryRead.Answered, and_iff_left hoffset]

/-! ## A record that has expired -/

namespace ExpiredMemory

def service : MemoryRetrievalService where
  embeddingDimension := 1
  redactBasedOnPolicy text _ _ := ⟨text, 0, false⟩
  str _ := ""

/-- At the time 10, every text has the same embedding. -/
def circumstances : Circumstances :=
  { Circumstances.calm 10 with embedding := fun _ _ _ => .ok [1] }

/-- A record of the tenant that has expired before the read. -/
def record : MemoryRecord where
  id := ⟨3⟩
  createdAt := 0
  updatedAt := 0
  tenantId := ⟨1⟩
  agentId := ⟨2⟩
  scope := .ephemeral
  ns := "notes"
  contentCiphertext := "text"
  embedding := some [1]
  expiresAt := some 5

/-- A call of the tenant where this record alone is stored. -/
def NeverExpired (read : MemoryRead) : Prop :=
  read.NeverExpired (fun _ => 0) service circumstances ⟨1⟩ ⟨2⟩ { tables := { records := [record] } }

/-- A read that returns the expired record breaks the law. -/
theorem not_neverExpired_of_returns {read : MemoryRead}
    (h : read.returns (fun _ => 0) service circumstances ⟨1⟩ ⟨2⟩ { tables := { records := [record] } } =
      some (.ok [record])) : ¬NeverExpired read := by
  intro hnever
  have hlive : record.isExpired 10 = false := hnever [record] h record List.mem_cons_self
  cases hlive

end ExpiredMemory

/-- A record that has expired is returned by its identifier, in a list and by its metadata. -/
theorem not_never_expired :
    ¬ExpiredMemory.NeverExpired (.getMemoryRecord ⟨3⟩) ∧
      ¬ExpiredMemory.NeverExpired (.listMemoryRecords 8 0) ∧
      ¬ExpiredMemory.NeverExpired (.retrieveByMetadata "notes" .ephemeral [] 8) :=
  ⟨ExpiredMemory.not_neverExpired_of_returns rfl, ExpiredMemory.not_neverExpired_of_returns rfl,
    ExpiredMemory.not_neverExpired_of_returns rfl⟩

end AgentRuntime
