import AgentRuntime.Api.Approvals
import AgentRuntime.Python.Slices
import Mathlib.Data.List.Rotate

/-!
# The listing of approval requests

`list_approvals` (`app/api/v1/approvals/router.py`) over `SQLApprovalRepository.get_pending`
(`app/infrastructure/db/repositories/security.py`). The endpoint lists the requests of a tenant, by state if
one is given, but what it filters and cuts into pages are the pending ones; and the query behind each page
has no `ORDER BY`, so the database may arrange the rows of each page anew.
-/

/-- Pages of `k` elements, put together. -/
theorem List.flatMap_range_take_drop {α : Type} (l : List α) (k n : Nat) :
    ((List.range n).flatMap fun i => (l.drop (i * k)).take k) = l.take (n * k) := by
  induction n with
  | zero => simp
  | succ n ih =>
    rw [List.range_succ, List.flatMap_append, ih, List.flatMap_singleton, Nat.succ_mul, List.take_add]

namespace AgentRuntime

open Interaction

/-- The request is of a run of the tenant. -/
def ApprovalRow.OfTenant (self : ApprovalRow) (runs : RunTables) (tenantId : UUID) : Prop :=
  ∃ run ∈ runs.find self.runId, run.tenantId = tenantId

instance (self : ApprovalRow) (runs : RunTables) (tenantId : UUID) : Decidable (self.OfTenant runs tenantId) :=
  inferInstanceAs (Decidable (∃ _ ∈ _, _))

/-- `query.where(ApprovalRequestModel.run_id == run_id)`, if a run is given. -/
def ApprovalRow.OfRun (self : ApprovalRow) (runId : Option UUID) : Prop := ∀ runId' ∈ runId, self.runId = runId'

instance (self : ApprovalRow) (runId : Option UUID) : Decidable (self.OfRun runId) :=
  inferInstanceAs (Decidable (∀ _ ∈ _, _))

namespace ApprovalRepository

/-- The conditions of the query of `get_pending`. -/
def Selected (runs : RunTables) (tenantId : UUID) (runId : Option UUID) (row : ApprovalRow) : Prop :=
  row.OfTenant runs tenantId ∧ row.state = .pending ∧ row.OfRun runId

instance (runs : RunTables) (tenantId : UUID) (runId : Option UUID) :
    DecidablePred (Selected runs tenantId runId) := fun _ => inferInstanceAs (Decidable (_ ∧ _ ∧ _))

def getPending (order : RowOrder ApprovalRow) (runs : RunTables) (tenantId : UUID) (runId : Option UUID)
    (now : Time) : Method PyError ApprovalTable (List ApprovalRequest) := do
  let table ← MonadState.get
  let rows := order.arrange (table.filter fun row => Selected runs tenantId runId row)
  Method.ofExcept (rows.mapM fun row => row.toEntity now)

end ApprovalRepository

/-- Get pending approvals for a tenant/run. -/
def ApprovalCoordinator.getPendingApprovals (order : RowOrder ApprovalRow) (runs : RunTables) (tenantId : UUID)
    (runId : Option UUID) (now : Time) : Method PyError ApprovalTable (List ApprovalRequest) :=
  ApprovalRepository.getPending order runs tenantId runId now

structure ApprovalListResponse where
  approvals : List ApprovalResponse
  total : Nat

namespace ApprovalsRouter

/-- `if state:`, and the filter that it guards. -/
def HasState (state : Option String) (s : ApprovalState) : Prop :=
  ∀ text ∈ PolicyEvaluator.given state, s.value = text

instance (state : Option String) : DecidablePred (HasState state) := fun _ =>
  inferInstanceAs (Decidable (∀ _ ∈ _, _))

/-- List approval requests for tenant. -/
def listApprovals (auth : AuthContext) (runs : RunTables) (order : RowOrder ApprovalRow) (now : Time)
    (runId : Option UUID) (state : Option String) (limit offset : Int) :
    Method PyError ApprovalTable ApprovalListResponse := do
  let tenantId ← Method.ofExcept auth.currentTenant
  Method.ofExcept (auth.requireScope "approvals:read")
  if 100 < limit ∨ offset < 0 then
    throw (.external "RequestValidationError")
  let approvals ← ApprovalCoordinator.getPendingApprovals order runs tenantId runId now
  let approvals := approvals.filter fun a => HasState state a.state
  let total := approvals.length
  let paginated := slice approvals offset (offset + limit)
  return { approvals := paginated.map .fromEntity, total }

/-- The requests that a listing is of. -/
def Matching (runs : RunTables) (tenantId : UUID) (runId : Option UUID) (state : Option String)
    (row : ApprovalRow) : Prop := row.OfTenant runs tenantId ∧ row.OfRun runId ∧ HasState state row.state

instance (runs : RunTables) (tenantId : UUID) (runId : Option UUID) (state : Option String) :
    DecidablePred (Matching runs tenantId runId state) := fun _ => inferInstanceAs (Decidable (_ ∧ _ ∧ _))

section
variable (auth : AuthContext) (runs : RunTables) (tenantId : UUID) (runId : Option UUID)
  (state : Option String) (limit : Nat) (table : ApprovalTable)

/-- The keys of the requests that a listing is of. -/
def matchingIds : List UUID := (table.filter fun row => Matching runs tenantId runId state row).map ApprovalRow.id

/-- The pages are answered, each with the total, and together they hold each matching request once. The page
`i` is answered at the time `times i`, from the rows in the order `orders i`, which is the same for every
page if the order is `stable`. -/
def Complete (stable : Bool) : Prop :=
  ∀ (orders : Nat → RowOrder ApprovalRow) (times : Nat → Time), (stable = true → ∀ i j, orders i = orders j) →
    ∃ pages : Nat → ApprovalListResponse,
      (∀ i : Nat, ((listApprovals auth runs (orders i) (times i) runId state limit (i * limit : Nat)).on table).1 =
        .ok (pages i)) ∧
      (∀ i, (pages i).total = (matchingIds runs tenantId runId state table).length) ∧
      ∀ n, (matchingIds runs tenantId runId state table).length ≤ n * limit →
        ((List.range n).flatMap fun i => (pages i).approvals.map ApprovalResponse.id).Perm
          (matchingIds runs tenantId runId state table)

end

/-! ## One page -/

section
variable {auth : AuthContext} {runs : RunTables} {tenantId : UUID} {runId : Option UUID}
  {state : Option String} {limit : Nat} {table : ApprovalTable} {order : RowOrder ApprovalRow}

/-- What is cut into pages. -/
def listed (runs : RunTables) (tenantId : UUID) (runId : Option UUID) (state : Option String)
    (table : ApprovalTable) (order : RowOrder ApprovalRow) : List UUID :=
  ((order.arrange (table.filter fun row => ApprovalRepository.Selected runs tenantId runId row)).filter
    fun row => HasState state row.state).map ApprovalRow.id

/-- Of the matching requests, the pending ones are listed. -/
theorem listed_perm (runs : RunTables) (tenantId : UUID) (runId : Option UUID) (state : Option String)
    (table : ApprovalTable) (order : RowOrder ApprovalRow) :
    (listed runs tenantId runId state table order).Perm
      (((table.filter fun row => Matching runs tenantId runId state row).filter
        fun row => row.state = .pending).map ApprovalRow.id) := by
  refine List.Perm.map _ (((order.perm _).filter _).trans (List.Perm.of_eq ?_))
  rw [List.filter_filter, List.filter_filter]
  refine List.filter_congr fun row _ => ?_
  rw [← Bool.decide_and, ← Bool.decide_and, decide_eq_decide]
  unfold ApprovalRepository.Selected Matching
  tauto

/-- Entities are listed like the rows that they are made of. -/
theorem filter_toEntity {rows : List ApprovalRow} {requests : List ApprovalRequest} {now : Time}
    (h : rows.mapM (fun row => row.toEntity now) = .ok requests) (p : ApprovalState → Bool) :
    (requests.filter fun a => p a.state).map ApprovalRequest.id =
      (rows.filter fun row => p row.state).map ApprovalRow.id := by
  induction rows generalizing requests with
  | nil =>
    obtain rfl : [] = requests := Except.ok.inj h
    rfl
  | cons row rows ih =>
    obtain ⟨request, requests', hrequest, hrest, rfl⟩ := mapM_cons_eq_ok.1 h
    obtain ⟨hid, hdecision⟩ := ApprovalRow.of_toEntity hrequest
    have hstate : request.state = row.state := congrArg ApprovalDecision.state hdecision
    rw [List.filter_cons, List.filter_cons, hstate]
    split
    · rw [List.map_cons, List.map_cons, ih hrest, hid]
    · exact ih hrest

/-- A page is answered to a caller of the tenant, and cut from what is listed. -/
theorem exists_listApprovals (hauth : auth.tenantId = some tenantId) (hscope : "approvals:read" ∈ auth.scopes)
    (hlimit : limit ≤ 100) (hreadable : ∀ row ∈ table, row.Readable) (order : RowOrder ApprovalRow) (now : Time)
    (runId : Option UUID) (state : Option String) (offset : Nat) :
    ∃ page : ApprovalListResponse,
      ((listApprovals auth runs order now runId state limit offset).on table).1 = .ok page ∧
      page.total = (listed runs tenantId runId state table order).length ∧
      page.approvals.map ApprovalResponse.id =
        ((listed runs tenantId runId state table order).drop offset).take limit := by
  set rows := order.arrange (table.filter fun row => ApprovalRepository.Selected runs tenantId runId row)
    with hrows
  have hentities : ∀ row ∈ rows, ∃ request, row.toEntity now = .ok request := fun row hrow =>
    ApprovalRow.exists_toEntity_eq_ok.2 (hreadable row (List.mem_of_mem_filter ((order.perm _).mem_iff.1 hrow)))
  obtain ⟨requests, hrequests⟩ := exists_mapM_eq_ok.2 hentities
  have hvalid : ¬(100 < (limit : Int) ∨ (offset : Int) < 0) := by omega
  set filtered := requests.filter fun a => HasState state a.state with hfiltered
  have hids : filtered.map ApprovalRequest.id = listed runs tenantId runId state table order :=
    filter_toEntity hrequests fun s => HasState state s
  refine ⟨⟨(slice filtered offset (offset + limit)).map .fromEntity, filtered.length⟩, ?_, ?_, ?_⟩
  · simp only [listApprovals, if_neg hvalid]
    simp [AuthContext.currentTenant, hauth, AuthContext.requireScope, hscope,
      ApprovalCoordinator.getPendingApprovals, ApprovalRepository.getPending, ← hrows, hrequests]
    rfl
  · rw [← hids, List.length_map]
  · rw [slice_eq_take_drop, List.map_map, ← hids, ← List.map_drop, ← List.map_take]
    rfl

/-- If every matching request is pending, what is listed is what matches. -/
theorem listed_perm_matchingIds
    (hpending : ∀ row ∈ table, Matching runs tenantId runId state row → row.state = .pending)
    (order : RowOrder ApprovalRow) :
    (listed runs tenantId runId state table order).Perm (matchingIds runs tenantId runId state table) := by
  refine (listed_perm runs tenantId runId state table order).trans (List.Perm.of_eq (congrArg _ ?_))
  refine List.filter_eq_self.2 fun row hrow => decide_eq_true ?_
  rw [List.mem_filter, decide_eq_true_eq] at hrow
  exact hpending row hrow.1 hrow.2

/-- It is listed in the order in which the database finds it. -/
theorem listed_eq (hpending : ∀ row ∈ table, Matching runs tenantId runId state row → row.state = .pending)
    {row : ApprovalRow} (hrow : row ∈ table) (hmatching : Matching runs tenantId runId state row)
    (order : RowOrder ApprovalRow) :
    listed runs tenantId runId state table order =
      (order.arrange (table.filter fun row => Matching runs tenantId runId state row)).map ApprovalRow.id := by
  have hstate : HasState state .pending := hpending row hrow hmatching ▸ hmatching.2.2
  have hselected : (table.filter fun row => ApprovalRepository.Selected runs tenantId runId row) =
      table.filter fun row => Matching runs tenantId runId state row := by
    refine List.filter_congr fun row hrow => decide_eq_decide.2 ⟨fun h => ⟨h.1, h.2.2, ?_⟩, fun h => ?_⟩
    · rw [h.2.1]
      exact hstate
    · exact ⟨h.1, hpending row hrow h, h.2.1⟩
  rw [listed, hselected]
  refine congrArg _ (List.filter_eq_self.2 fun row hrow => decide_eq_true ?_)
  have hmem := (order.perm _).mem_iff.1 hrow
  rw [List.mem_filter, decide_eq_true_eq] at hmem
  exact hmem.2.2.2

/-- The order that begins the second page of `limit` rows with the row that the first page began with. -/
def repeating (limit : Nat) : RowOrder ApprovalRow where
  arrange rows := rows.rotate (rows.length - limit)
  perm rows := List.rotate_perm rows _

/-- An order that repeats its first row after `limit` rows gives, at the start of the second page, a row that
the first page has shown. -/
theorem getElem?_repeating {rows : List ApprovalRow} (h : limit < rows.length) :
    ((repeating limit).arrange rows)[limit]? = rows[0]? := by
  change (rows.rotate (rows.length - limit))[limit]? = _
  rw [List.getElem?_rotate h, Nat.add_sub_cancel' h.le, Nat.mod_self]

end

/-! ## All pages -/

/-- The keys of the stored requests are unique, and the constructor accepts each of them. -/
structure WellFormed (table : ApprovalTable) : Prop where
  unique : (table.map ApprovalRow.id).Nodup
  readable : ∀ row ∈ table, row.Readable

section
variable {auth : AuthContext} {runs : RunTables} {tenantId : UUID} {runId : Option UUID}
  {state : Option String} {limit : Nat} {table : ApprovalTable} {stable : Bool}

/-- The total counts the pending requests only. -/
theorem pending_of_complete (hauth : auth.tenantId = some tenantId) (hscope : "approvals:read" ∈ auth.scopes)
    (hlimit : limit ≤ 100) (hreadable : ∀ row ∈ table, row.Readable)
    (h : Complete auth runs tenantId runId state limit table stable) :
    ∀ row ∈ table, Matching runs tenantId runId state row → row.state = .pending := by
  obtain ⟨pages, hpages, htotal, -⟩ := h (fun _ => {}) (fun _ => 0) fun _ _ _ => rfl
  obtain ⟨page, hpage, hpageTotal, -⟩ :=
    exists_listApprovals hauth hscope hlimit hreadable {} 0 runId state (0 * limit)
  obtain rfl : pages 0 = page := Except.ok.inj ((hpages 0).symm.trans hpage)
  rw [htotal 0, (listed_perm runs tenantId runId state table {}).length_eq, matchingIds, List.length_map,
    List.length_map, eq_comm, List.length_filter_eq_length_iff] at hpageTotal
  intro row hrow hmatching
  simpa using hpageTotal row (by simpa using ⟨hrow, hmatching⟩)

/-- Rows that the database arranges anew can be on two pages. -/
theorem length_le_of_complete (hauth : auth.tenantId = some tenantId) (hscope : "approvals:read" ∈ auth.scopes)
    (hpos : 1 ≤ limit) (hlimit : limit ≤ 100) (hvalid : WellFormed table)
    (h : Complete auth runs tenantId runId state limit table false) :
    (matchingIds runs tenantId runId state table).length ≤ limit := by
  have hpending := pending_of_complete hauth hscope hlimit hvalid.readable h
  by_contra hlt
  rw [Nat.not_le] at hlt
  set rows := table.filter fun row => Matching runs tenantId runId state row with hrows
  have hlength : limit < rows.length := by rwa [matchingIds, List.length_map] at hlt
  obtain ⟨row, hrow⟩ : ∃ row, rows[0]? = some row := ⟨_, List.getElem?_eq_getElem (by omega)⟩
  have hmem : row ∈ table ∧ Matching runs tenantId runId state row := by
    have := List.mem_of_getElem? hrow
    rwa [hrows, List.mem_filter, decide_eq_true_eq] at this
  let orders : Nat → RowOrder ApprovalRow := fun i => if i = 0 then {} else repeating limit
  obtain ⟨pages, hpages, -, hids⟩ := h orders (fun _ => 0) fun hstable => by cases hstable
  have hpage (i : Nat) : (pages i).approvals.map ApprovalResponse.id =
      ((((orders i).arrange rows).map ApprovalRow.id).drop (i * limit)).take limit := by
    obtain ⟨page, hpage, -, hpageIds⟩ :=
      exists_listApprovals hauth hscope hlimit hvalid.readable (orders i) 0 runId state (i * limit)
    obtain rfl : pages i = page := Except.ok.inj ((hpages i).symm.trans hpage)
    rw [hpageIds, listed_eq hpending hmem.1 hmem.2]
  -- the first row of the first page is the first row of the second
  have hfirst : row.id ∈ (pages 0).approvals.map ApprovalResponse.id := by
    refine List.mem_of_getElem? (i := 0) ?_
    rw [hpage, List.getElem?_take_of_lt hpos, List.getElem?_drop, List.getElem?_map, Nat.zero_mul]
    exact congrArg (Option.map ApprovalRow.id) hrow
  have hsecond : row.id ∈ (pages 1).approvals.map ApprovalResponse.id := by
    refine List.mem_of_getElem? (i := 0) ?_
    rw [hpage, List.getElem?_take_of_lt hpos, List.getElem?_drop, List.getElem?_map, Nat.one_mul, Nat.add_zero]
    exact congrArg (Option.map ApprovalRow.id) ((getElem?_repeating hlength).trans hrow)
  have hnodup : ((List.range rows.length).flatMap fun i => (pages i).approvals.map ApprovalResponse.id).Nodup := by
    refine (hids rows.length ?_).nodup_iff.2 (hvalid.unique.sublist (List.filter_sublist.map _))
    rw [matchingIds, List.length_map]
    exact Nat.le_mul_of_pos_right _ hpos
  have hrange : 1 < (List.range rows.length).length := by
    rw [List.length_range]
    omega
  have hdisjoint := List.pairwise_iff_getElem.1 (List.nodup_flatMap.1 hnodup).2 0 1 (by omega) hrange
    Nat.zero_lt_one
  simp only [List.getElem_range] at hdisjoint
  exact hdisjoint hfirst hsecond

/-- Pages of one order, or a single page, hold what is listed. -/
theorem complete_of (hauth : auth.tenantId = some tenantId) (hscope : "approvals:read" ∈ auth.scopes)
    (hlimit : limit ≤ 100) (hreadable : ∀ row ∈ table, row.Readable)
    (hpending : ∀ row ∈ table, Matching runs tenantId runId state row → row.state = .pending)
    (horder : stable = true ∨ (matchingIds runs tenantId runId state table).length ≤ limit) :
    Complete auth runs tenantId runId state limit table stable := by
  intro orders times hstable
  have hperm (i : Nat) := listed_perm_matchingIds hpending (orders i)
  choose pages hpages htotal hids using fun i =>
    exists_listApprovals hauth hscope hlimit hreadable (orders i) (times i) runId state (i * limit)
  have hsame (i : Nat) : (listed runs tenantId runId state table (orders i)).drop (i * limit) =
      (listed runs tenantId runId state table (orders 0)).drop (i * limit) := by
    rcases horder with h | h
    · rw [hstable h i 0]
    · cases i with
      | zero => rfl
      | succ i =>
        have hlength (j : Nat) : (listed runs tenantId runId state table (orders j)).length ≤ (i + 1) * limit := by
          rw [(hperm j).length_eq]
          exact h.trans (Nat.le_mul_of_pos_left _ i.succ_pos)
        rw [List.drop_of_length_le (hlength _), List.drop_of_length_le (hlength _)]
  refine ⟨pages, hpages, fun i => (htotal i).trans (hperm i).length_eq, fun n hn => ?_⟩
  have hpage (i : Nat) : (pages i).approvals.map ApprovalResponse.id =
      ((listed runs tenantId runId state table (orders 0)).drop (i * limit)).take limit := by
    rw [hids, hsame]
  simp only [hpage]
  rw [List.flatMap_range_take_drop, List.take_of_length_le ((hperm 0).length_eq.trans_le hn)]
  exact hperm 0

end

/-- The listing is complete exactly if every matching request is pending, and the database keeps its order or
all of them fit on one page. -/
theorem complete_iff (auth : AuthContext) (runs : RunTables) (tenantId : UUID) (runId : Option UUID)
    (state : Option String) (limit : Nat) (table : ApprovalTable) (stable : Bool)
    (hauth : auth.tenantId = some tenantId) (hscope : "approvals:read" ∈ auth.scopes)
    (hpos : 1 ≤ limit) (hlimit : limit ≤ 100) (hvalid : WellFormed table) :
    Complete auth runs tenantId runId state limit table stable ↔
      (∀ row ∈ table, Matching runs tenantId runId state row → row.state = .pending) ∧
        (stable = true ∨ (matchingIds runs tenantId runId state table).length ≤ limit) := by
  refine ⟨fun h => ⟨pending_of_complete hauth hscope hlimit hvalid.readable h, ?_⟩, fun h =>
    complete_of hauth hscope hlimit hvalid.readable h.1 h.2⟩
  cases stable with
  | true => exact .inl rfl
  | false => exact .inr (length_le_of_complete hauth hscope hpos hlimit hvalid h)

/-- A caller of the tenant of `foreignRun`. -/
def tenantThree : AuthContext := { tenantId := some ⟨3⟩, scopes := ["approvals:read"] }

/-- A table of one row that can be read is well formed. -/
theorem wellFormed_singleton {row : ApprovalRow} (h : row.Readable) : WellFormed [row] :=
  ⟨List.nodup_singleton _, fun _ hrow => List.mem_singleton.1 hrow ▸ h⟩

/-- Two pending requests of the run 1 and an approved one, and a pending request of another tenant's run. -/
def fourRequests : ApprovalTable :=
  [foreignApproval, { foreignApproval with id := ⟨7⟩ }, { foreignApproval with id := ⟨8⟩, state := .approved },
    { foreignApproval with id := ⟨9⟩, runId := ⟨2⟩ }]

/-- Two runs of different tenants. -/
def twoTenants : RunTables := ⟨[foreignRun, { foreignRun with id := ⟨2⟩, tenantId := ⟨5⟩ }], []⟩

/-- The pending requests are listed on two pages of one order, and on one page in any order. -/
theorem complete_fourRequests :
    Complete tenantThree twoTenants ⟨3⟩ none (some "pending") 1 fourRequests true ∧
      Complete tenantThree twoTenants ⟨3⟩ none (some "pending") 2 fourRequests false := by
  have hvalid : WellFormed fourRequests := ⟨by decide, by decide⟩
  constructor
  · exact (complete_iff tenantThree twoTenants ⟨3⟩ none (some "pending") 1 fourRequests true rfl (by decide)
      (by decide) (by decide) hvalid).2 (by decide)
  · exact (complete_iff tenantThree twoTenants ⟨3⟩ none (some "pending") 2 fourRequests false rfl (by decide)
      (by decide) (by decide) hvalid).2 (by decide)

/-- A request of the run 1, approved. -/
def approvedRequest : ApprovalRow := { foreignApproval with state := .approved }

/-- A request that is approved is not listed, whether one asks for all states or for the approved ones: the
query is for pending requests. -/
theorem not_complete :
    (¬∀ (auth : AuthContext) (runs : RunTables) (tenantId : UUID) (runId : Option UUID) (state : Option String)
      (limit : Nat) (table : ApprovalTable), auth.tenantId = some tenantId → "approvals:read" ∈ auth.scopes →
      1 ≤ limit → limit ≤ 100 → WellFormed table →
        Complete auth runs tenantId runId state limit table false) ∧
    ∀ state ∈ [none, some "approved"],
      ¬Complete tenantThree ⟨[foreignRun], []⟩ ⟨3⟩ none state 50 [approvedRequest] true := by
  have hvalid : WellFormed [approvedRequest] := wellFormed_singleton (by decide)
  have hmatching : ∀ state ∈ [none, some "approved"],
      Matching ⟨[foreignRun], []⟩ ⟨3⟩ none state approvedRequest := by
    decide
  have hnot {state : Option String} (hstate : state ∈ [none, some "approved"]) (stable : Bool)
      (h : Complete tenantThree ⟨[foreignRun], []⟩ ⟨3⟩ none state 50 [approvedRequest] stable) : False := by
    have hpending := pending_of_complete rfl (by decide) (by decide) hvalid.readable h
    cases hpending approvedRequest (List.mem_singleton_self _) (hmatching state hstate)
  refine ⟨fun h => hnot List.mem_cons_self false ?_, fun state hstate => hnot hstate true⟩
  exact h _ _ _ _ _ _ _ rfl (by decide) (by decide) (by decide) hvalid

end ApprovalsRouter

end AgentRuntime
