import AgentRuntime.Python.Ranking
import AgentRuntime.Services.ExpiredMemory

/-!
# The best matches of a filtered search

`retrieve_memory` asks the database for the most similar records, and drops those of them that are not similar
enough or do not satisfy the metadata filters. What it drops is not made up for by records further down, so
that it may return fewer matches than there are. `returnsBest_iff` says when it returns the best of all
matches.
-/

namespace AgentRuntime

open Interaction Proc

/-- What is returned for each element of a list has its length. -/
theorem length_of_mapM_eq_ok {ε α β : Type} {f : α → Except ε β} {l : List α} {bs : List β}
    (h : l.mapM f = .ok bs) : bs.length = l.length := by
  induction l generalizing bs with
  | nil =>
    obtain rfl : [] = bs := Except.ok.inj h
    rfl
  | cons a l ih =>
    obtain ⟨b, bs', -, hbs', rfl⟩ := mapM_cons_eq_ok.1 h
    rw [List.length_cons, List.length_cons, ih hbs']

namespace MemoryRetrievalService

section
variable (service : MemoryRetrievalService) (db : MemoryDatabase) (tables : MemoryTables) (c : Circumstances)
  (tenantId agentId : UUID) (ns : String) (scope : MemoryScope) (sessionId : Option String)
  (queryEmbedding : Embedding) (metadataFilters : Option Dict) (similarityThreshold : Rat)

/-- The live records of the tenant, agent, namespace, scope and session, with their similarity. -/
def candidates : List (MemoryRecord × PyFloat) :=
  (db.order.arrange (tables.records.filter (MemoryTables.Searched db tenantId agentId ns scope sessionId))).map
    fun record => (record, db.similarity (record.embedding.getD []) queryEmbedding)

/-- From the most similar down. -/
def ranked : List (MemoryRecord × PyFloat) :=
  (candidates db tables tenantId agentId ns scope sessionId queryEmbedding).insertionSort fun a b =>
    b.2.value ≤ a.2.value

/-- It reaches the threshold and satisfies every metadata filter. -/
def qualifies (result : MemoryRecord × PyFloat) : Bool :=
  decide (similarityThreshold ≤ result.2.value) && (metadataFilters.getD []).all fun entry =>
    (result.1.metadata.get? entry.1).any fun value => service.str value == service.str entry.2

/-- What a result is returned as: decrypted, redacted, and with its similarity. -/
def shownResult (result : MemoryRecord × PyFloat) : Except PyError MemoryRecord := do
  let decrypted ← MemoryRead.shown service c tenantId result.1
  return { decrypted with metadata := decrypted.metadata.set "_similarity" (.float result.2.text) }

/-- The first of two results is more similar. -/
def MoreSimilar (a b : MemoryRecord × PyFloat) : Prop := b.2.value < a.2.value

/-- What is returned are the most similar of the records that reach the threshold and satisfy the filters, in
descending order. -/
def ReturnsBest (code : UInt8 → Int) (world : MemoryWorld) (query : String) (limit : Int) : Prop :=
  ∃ best records, Ranking.IsBest MoreSimilar limit.toNat
      ((candidates c.database world.tables tenantId agentId ns scope sessionId queryEmbedding).filter
        (service.qualifies metadataFilters similarityThreshold)) best ∧
    best.mapM (service.shownResult c tenantId) = .ok records ∧
    MemoryRead.returns code service c tenantId agentId world
      (.retrieveMemory query ns scope limit sessionId metadataFilters similarityThreshold) =
        some (.ok records)

end

section
variable {service : MemoryRetrievalService} {c : Circumstances} {world : MemoryWorld} {tables : MemoryTables}
  {tenantId agentId : UUID} {ns query : String} {scope : MemoryScope} {sessionId : Option String}
  {queryEmbedding : Embedding} {metadataFilters : Option Dict} {similarityThreshold : Rat} {limit : Int}
  {code : UInt8 → Int} {s : MemoryState} {db : MemoryDatabase}

/-- The ranked candidates are the candidates. -/
theorem ranked_perm :
    (ranked db tables tenantId agentId ns scope sessionId queryEmbedding).Perm
      (candidates db tables tenantId agentId ns scope sessionId queryEmbedding) :=
  List.perm_insertionSort _ _

/-- Where no two similarities are the same, each is greater than the next. -/
theorem pairwise_ranked
    (hdistinct : ((candidates db tables tenantId agentId ns scope sessionId queryEmbedding).map
      (·.2.value)).Nodup) :
    (ranked db tables tenantId agentId ns scope sessionId queryEmbedding).Pairwise MoreSimilar := by
  let atLeast (a b : MemoryRecord × PyFloat) : Prop := b.2.value ≤ a.2.value
  have htotal : Std.Total atLeast := ⟨fun a b => Rat.le_total⟩
  have htrans : IsTrans _ atLeast := ⟨fun a b d hab hbd => Rat.le_trans hbd hab⟩
  have hsorted : (ranked db tables tenantId agentId ns scope sessionId queryEmbedding).Pairwise atLeast :=
    List.pairwise_insertionSort atLeast _
  have hnodup := (ranked_perm.map (·.2.value)).nodup_iff.2 hdistinct
  refine (hsorted.and (List.pairwise_map.1 hnodup)).imp fun {a b} h => ?_
  exact Rat.lt_of_le_of_ne h.1 (Ne.symm h.2)

/-- Decrypting and redacting the results changes nothing, and ends with what is shown of them. -/
theorem ends_shownResults (results : List (MemoryRecord × PyFloat)) :
    Ends (c.env code) s (service.decryptAndRedactResults tenantId results)
      (results.mapM (service.shownResult c tenantId)) s :=
  MemoryRead.ends_decryptResults results

/-- A result can be shown exactly if its content can be decrypted. -/
theorem shownResult_eq_ok_iff {result : MemoryRecord × PyFloat} :
    (∃ record, service.shownResult c tenantId result = .ok record) ↔
      MemoryRead.Decrypts c tenantId result.1 := by
  refine Iff.trans ?_ (MemoryRead.shown_eq_ok_iff : (∃ record, MemoryRead.shown service c tenantId result.1 =
    .ok record) ↔ _)
  constructor
  · rintro ⟨record, hrecord⟩
    obtain ⟨decrypted, hdecrypted, -⟩ := bind_eq_ok.1 hrecord
    exact ⟨decrypted, hdecrypted⟩
  · rintro ⟨decrypted, hdecrypted⟩
    exact ⟨_, bind_eq_ok.2 ⟨decrypted, hdecrypted, rfl⟩⟩

/-- The filters that are applied, if there are any. -/
theorem applied_iff {metadataFilters : Option Dict} {entries : Dict} :
    metadataFilters.filter (!·.isEmpty) = some entries ↔ metadataFilters = some entries ∧ entries ≠ [] := by
  simp [Option.filter_eq_some_iff]

/-- Without filters the threshold alone decides which results qualify. -/
theorem filter_unfiltered (hnone : metadataFilters.filter (!·.isEmpty) = none)
    (results : List (MemoryRecord × PyFloat)) :
    results.filter (fun result => similarityThreshold ≤ result.2.value) =
      results.filter (service.qualifies metadataFilters similarityThreshold) := by
  have hempty : metadataFilters.getD [] = [] := by
    by_contra hentries
    cases metadataFilters with
    | none => exact hentries rfl
    | some entries => exact absurd (applied_iff.2 ⟨rfl, hentries⟩) (by simp [hnone])
  refine List.filter_congr fun result _ => ?_
  rw [qualifies, hempty, List.all_nil, Bool.and_true]

/-- The threshold and the filters are applied one after the other. -/
theorem filter_applyMetadataFilters {entries : Dict}
    (hsome : metadataFilters.filter (!·.isEmpty) = some entries)
    (results : List (MemoryRecord × PyFloat)) :
    service.applyMetadataFilters (results.filter fun result => similarityThreshold ≤ result.2.value) entries =
      results.filter (service.qualifies metadataFilters similarityThreshold) := by
  obtain ⟨rfl, -⟩ := applied_iff.1 hsome
  refine List.filter_filter.trans (List.filter_congr fun result _ => ?_)
  rw [qualifies, Bool.and_comm]
  rfl

/-- What `retrieve_memory` returns. -/
theorem returns_retrieveMemory (hmin : 1 ≤ limit) (hmax : limit ≤ maxLimit)
    (hembedding : c.embedding 0 query tenantId = .ok queryEmbedding)
    (hserved : c.refuses (.searchByVector tenantId agentId queryEmbedding ns scope limit sessionId) = none) :
    MemoryRead.returns code service c tenantId agentId world
        (.retrieveMemory query ns scope limit sessionId metadataFilters similarityThreshold) =
      some ((((ranked c.database world.tables tenantId agentId ns scope sessionId queryEmbedding).take
        limit.toNat).filter (service.qualifies metadataFilters similarityThreshold)).mapM
          (service.shownResult c tenantId)) := by
  have hclamped : clamped limit = limit := by
    unfold clamped
    omega
  let initial : MemoryState := { world with }
  let results := (ranked c.database world.tables tenantId agentId ns scope sessionId queryEmbedding).take
    limit.toNat
  have hgenerate : Ends (c.env code) initial (tryCall (.generateEmbedding query tenantId) id)
      (.ok queryEmbedding) initial.drawn := hembedding ▸ ends_tryCall _ _
  have hquery : c.query (.searchByVector tenantId agentId queryEmbedding ns scope limit sessionId)
      (world.tables.searchByVector c.database tenantId agentId queryEmbedding ns scope limit sessionId) =
        .ok results :=
    Circumstances.query_eq_ok_iff.2 ⟨hserved, MemoryTables.limited_of_nonneg (by omega) _⟩
  have hsearch : Ends (c.env code) initial.drawn
      (tryCall (.searchByVector tenantId agentId queryEmbedding ns scope limit sessionId) id) (.ok results)
      initial.drawn := hquery ▸ ends_tryCall _ _
  have hends : Ends (c.env code) initial
      (service.retrieveMemory tenantId agentId query ns scope limit sessionId metadataFilters
        similarityThreshold)
      ((results.filter (service.qualifies metadataFilters similarityThreshold)).mapM
        (service.shownResult c tenantId)) initial.drawn := by
    unfold MemoryRetrievalService.retrieveMemory
    rw [hclamped]
    refine hgenerate.bind (hsearch.bind ?_)
    have htake : results.take limit.toNat = results := by rw [List.take_take, Nat.min_self]
    dsimp only
    rw [htake]
    cases hfilters : metadataFilters.filter (!·.isEmpty) with
    | none =>
      rw [← filter_unfiltered hfilters]
      exact ends_shownResults _
    | some entries =>
      rw [← filter_applyMetadataFilters hfilters]
      exact ends_shownResults _
  exact congrArg (Option.map Prod.fst) hends.1

/-- **The best of all matches are returned exactly if all of the most similar records match, or no further
record does, and what is returned can be decrypted.** -/
theorem returnsBest_iff (service : MemoryRetrievalService) (c : Circumstances) (world : MemoryWorld)
    (code : UInt8 → Int) (tenantId agentId : UUID) (query ns : String) (scope : MemoryScope)
    (sessionId : Option String) (metadataFilters : Option Dict) (similarityThreshold : Rat)
    (queryEmbedding : Embedding) {limit : Int} (hmin : 1 ≤ limit) (hmax : limit ≤ maxLimit)
    (hembedding : c.embedding 0 query tenantId = .ok queryEmbedding)
    (hserved : c.refuses (.searchByVector tenantId agentId queryEmbedding ns scope limit sessionId) = none)
    (hdistinct : ((candidates c.database world.tables tenantId agentId ns scope sessionId queryEmbedding).map
      (·.2.value)).Nodup) :
    let mostSimilar := (ranked c.database world.tables tenantId agentId ns scope sessionId queryEmbedding).take
      limit.toNat
    let further := (ranked c.database world.tables tenantId agentId ns scope sessionId queryEmbedding).drop
      limit.toNat
    let Matches (result : MemoryRecord × PyFloat) : Prop :=
      service.qualifies metadataFilters similarityThreshold result = true
    ReturnsBest service c tenantId agentId ns scope sessionId queryEmbedding metadataFilters similarityThreshold
        code world query limit ↔
      ((∀ result ∈ mostSimilar, Matches result) ∨ ∀ result ∈ further, ¬ Matches result) ∧
        ∀ result ∈ mostSimilar, Matches result → MemoryRead.Decrypts c tenantId result.1 := by
  intro mostSimilar further Matches
  let all := ranked c.database world.tables tenantId agentId ns scope sessionId queryEmbedding
  let p := service.qualifies metadataFilters similarityThreshold
  have hperm : (all.filter p).Perm
      ((candidates c.database world.tables tenantId agentId ns scope sessionId queryEmbedding).filter p) :=
    ranked_perm.filter p
  have hsorted : (all.filter p).Pairwise MoreSimilar := (pairwise_ranked hdistinct).sublist List.filter_sublist
  have hcomplete : ((all.take limit.toNat).filter p).length = ((all.filter p).take limit.toNat).length ↔
      (∀ result ∈ mostSimilar, Matches result) ∨ ∀ result ∈ further, ¬ Matches result := by
    simp only [Ranking.length_filter_take_iff, Matches, Bool.not_eq_true]
    rfl
  have hdecrypts : (∃ records, ((all.take limit.toNat).filter p).mapM (service.shownResult c tenantId) =
      .ok records) ↔ ∀ result ∈ mostSimilar, Matches result → MemoryRead.Decrypts c tenantId result.1 := by
    simp only [exists_mapM_eq_ok, shownResult_eq_ok_iff, List.mem_filter, and_imp]
    rfl
  unfold ReturnsBest
  rw [returns_retrieveMemory hmin hmax hembedding hserved, ← hcomplete, ← hdecrypts]
  constructor
  · rintro ⟨best, records, hbest, hshown, hreturned⟩
    have hrecords := Option.some.inj hreturned
    refine ⟨?_, records, hrecords⟩
    rw [← length_of_mapM_eq_ok hrecords, length_of_mapM_eq_ok hshown, hbest.length, List.length_take,
      hperm.length_eq]
  · rintro ⟨hlength, records, hrecords⟩
    have heq := (Ranking.filter_take_prefix p limit.toNat all).eq_of_length hlength
    exact ⟨_, records, Ranking.isBest_take hsorted hperm limit.toNat, heq ▸ hrecords, congrArg some hrecords⟩

end

end MemoryRetrievalService

/-! ## A match that is not returned -/

namespace FilteredSearch

def service : MemoryRetrievalService :=
  { ExpiredMemory.service with
    str := fun value =>
      match value with
      | .str s => s
      | _ => "" }

/-- The first number of an embedding is its similarity to the query. -/
def circumstances : Circumstances :=
  { ExpiredMemory.circumstances with
    database :=
      { ExpiredMemory.circumstances.database with
        similarity := fun embedding _ => ⟨embedding.headD 0, ""⟩ } }

/-- A record of the tenant. -/
def record (similarity : Rat) (kind : String) : MemoryRecord :=
  { ExpiredMemory.record with
    scope := .durable
    metadata := [("kind", .str kind)]
    embedding := some [similarity]
    expiresAt := none }

/-- The record that is less similar to what is asked for is of the kind that is asked for. -/
def world : MemoryWorld where
  tables := { records := [record 1 "draft", record 0 "final"] }

/-- A search for the final records. -/
def ReturnsBest (limit : Int) : Prop :=
  MemoryRetrievalService.ReturnsBest service circumstances ⟨1⟩ ⟨2⟩ "notes" .durable none [1]
    (some [("kind", .str "final")]) 0 (fun _ => 0) world "query" limit

/-- The two records, from the more similar down. -/
theorem ranked_eq :
    MemoryRetrievalService.ranked circumstances.database world.tables ⟨1⟩ ⟨2⟩ "notes" .durable none [1] =
      [(record 1 "draft", ⟨1, ""⟩), (record 0 "final", ⟨0, ""⟩)] :=
  rfl

end FilteredSearch

/-- Where there is room for both, the one that matches is returned. -/
theorem returnsBest_two : FilteredSearch.ReturnsBest 2 := by
  refine (MemoryRetrievalService.returnsBest_iff FilteredSearch.service FilteredSearch.circumstances
    FilteredSearch.world (fun _ => 0) ⟨1⟩ ⟨2⟩ "query" "notes" .durable none (some [("kind", .str "final")]) 0 [1]
    (by decide) (by decide) rfl rfl ?_).2 ⟨.inr fun result hresult => ?_, fun result _ _ => ⟨_, rfl⟩⟩
  · have hsimilarities : (MemoryRetrievalService.candidates FilteredSearch.circumstances.database
        FilteredSearch.world.tables ⟨1⟩ ⟨2⟩ "notes" .durable none [1]).map (·.2.value) = [1, 0] := rfl
    rw [hsimilarities]
    decide
  · rw [FilteredSearch.ranked_eq] at hresult
    cases hresult

/-- The draft takes the only place, so that the final record is not returned. -/
theorem not_returnsBest_one : ¬FilteredSearch.ReturnsBest 1 := by
  rintro ⟨best, records, hbest, hshown, hreturned⟩
  have hnothing : MemoryRead.returns (fun _ => 0) FilteredSearch.service FilteredSearch.circumstances ⟨1⟩ ⟨2⟩
      FilteredSearch.world (.retrieveMemory "query" "notes" .durable 1 none (some [("kind", .str "final")]) 0) =
        some (.ok []) := rfl
  obtain rfl : [] = records := Except.ok.inj (Option.some.inj (hnothing.symm.trans hreturned))
  have hlength : best.length = 1 := hbest.length
  rw [← length_of_mapM_eq_ok hshown] at hlength
  cases hlength

end AgentRuntime
