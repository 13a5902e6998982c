import Mathlib.Tactic
import Tasq.Replication.Accept
import Tasq.Replication.Assembly
import Tasq.Replication.Texts

/-! Batches against their limits in bytes. Pages and push requests are cut by count, and then
    measured: a page is within its limit exactly when the items that the count gives it are, and a
    push exactly when the operations that the count gives it are. -/

namespace Tasq

open Outcome
open Json (bytes serialize quote)

variable {rt : PagingRuntime} {names : DocumentNames}

/-! ### Pages -/

/-- The items that the count gives each page fit into its frame. -/
def DocumentNames.PagesFit (names : DocumentNames) (s : ReplicationSnapshot) : Prop :=
  let chunks := pageChunks (snapshotItems s.toUnsignedSnapshot)
  ∀ chunk ∈ chunks.zipIdx, pageFrame chunk.2 chunks.length +
    listed (chunk.1.map fun i => names.itemBytes (canonical i)) ≤
      snapshotPageLimits.snapshotPageBytes

/-- A page of a snapshot is as long as its items make it. -/
theorem pageOf_bytes (hm : names.Measures rt) (s : ReplicationSnapshot) (n : ℕ)
    (chunk : List ReplicationSnapshotPageItem × ℕ) :
    rt.pageBytes (canonical (pageOf rt s n chunk)) = DocumentNames.pageFrame chunk.2 n +
      DocumentNames.listed (chunk.1.map fun i => names.itemBytes (canonical i)) := by
  rw [hm.page, DocumentNames.bytes_page hm.sized]
  have hitems : (canonical (pageOf rt s n chunk)).items = chunk.1.map canonical := rfl
  rw [hitems, List.map_map]
  rfl

theorem pageChunks_length {items : List ReplicationSnapshotPageItem} {n : ℕ}
    (h : items.length ≤ 500 * n) (hn : 1 ≤ n) :
    1 ≤ (pageChunks items).length ∧ (pageChunks items).length ≤ n := by
  unfold pageChunks
  split
  · simp [hn]
  · rename_i hne
    have hlimit : snapshotPageLimits.snapshotPageItems = 500 := rfl
    rw [Pages.chunks, List.length_map, List.length_range, hlimit]
    omega

theorem snapshotItems_length {s : UnsignedSnapshot} (h : s.WellFormed) :
    (snapshotItems s).length ≤ 500 * 800 := by
  obtain ⟨-, -, hf, hr, hi, hc, -⟩ := h
  simp only [snapshotItems, List.length_append, List.length_map]
  omega

theorem snapshotItems_wellFormed {s : UnsignedSnapshot} (h : s.WellFormed) :
    ∀ item ∈ snapshotItems s, item.WellFormed := by
  obtain ⟨-, -, -, -, -, -, hf, hc⟩ := h
  intro item hitem
  simp only [snapshotItems, List.mem_append, List.mem_map] at hitem
  obtain ((⟨f, hmem, rfl⟩ | ⟨r, -, rfl⟩) | ⟨r, -, rfl⟩) | ⟨c, hmem, rfl⟩ := hitem
  · exact hf f hmem
  · trivial
  · trivial
  · exact hc c hmem

theorem snapshotItems_safe {s : UnsignedSnapshot} (h : safe s = true) :
    ∀ item ∈ snapshotItems s, safe item = true := by
  have h : (safe s.coveredSequence && safe s.acceptedFrontiers && safe s.records &&
    safe s.retiredIdentities && safe s.unresolvedConflicts) = true := h
  simp only [Bool.and_eq_true, CanonicalJson.safe_list] at h
  obtain ⟨⟨⟨⟨-, hf⟩, hr⟩, hi⟩, hc⟩ := h
  intro item hitem
  simp only [snapshotItems, List.mem_append, List.mem_map] at hitem
  obtain ((⟨f, hmem, rfl⟩ | ⟨r, hmem, rfl⟩) | ⟨r, hmem, rfl⟩) | ⟨c, hmem, rfl⟩ := hitem
  · exact hf f hmem
  · exact hr r hmem
  · exact hi r hmem
  · exact hc c hmem

/-- A verified snapshot has at most 800 pages. -/
theorem pageCount_le {input s : ReplicationSnapshot}
    (hs : verifySnapshot rt.toRuntime input = .ok s) :
    1 ≤ (pageChunks (snapshotItems s.toUnsignedSnapshot)).length ∧
      (pageChunks (snapshotItems s.toUnsignedSnapshot)).length ≤ 800 := by
  obtain ⟨hwf, rfl, -⟩ := (verifySnapshot_eq_ok _ _ _).1 hs
  have hwf' : input.trimmed.toUnsignedSnapshot.WellFormed :=
    (UnsignedSnapshot.wellFormed_trimmed _).2 hwf
  exact pageChunks_length (snapshotItems_length hwf') (by omega)

/-- Every page of a verified snapshot passes its schema. -/
theorem pagesOf_admitted {input s : ReplicationSnapshot}
    (hs : verifySnapshot rt.toRuntime input = .ok s) {chunk : List ReplicationSnapshotPageItem × ℕ}
    (hchunk : chunk ∈ (pageChunks (snapshotItems s.toUnsignedSnapshot)).zipIdx) :
    safe (pageOf rt s (pageChunks (snapshotItems s.toUnsignedSnapshot)).length chunk) = true ∧
      (pageOf rt s (pageChunks (snapshotItems s.toUnsignedSnapshot)).length chunk).WellFormed := by
  obtain ⟨hpos, hcount⟩ := pageCount_le hs
  have hindex : chunk.2 < (pageChunks (snapshotItems s.toUnsignedSnapshot)).length :=
    List.snd_lt_of_mem_zipIdx hchunk
  have hmem := List.fst_mem_of_mem_zipIdx hchunk
  have hitems : ∀ item ∈ chunk.1, item ∈ snapshotItems s.toUnsignedSnapshot := by
    intro item hitem
    rw [← flatten_pageChunks (snapshotItems _)]
    exact List.mem_flatten_of_mem hmem hitem
  have hlength : chunk.1.length ≤ 500 := by
    unfold pageChunks at hmem
    split at hmem
    · rw [List.mem_singleton.1 hmem]
      simp
    · exact Pages.length_le_of_mem_chunks hmem
  obtain ⟨hwf, rfl, hverified⟩ := (verifySnapshot_eq_ok _ _ _).1 hs
  have hwf' : input.trimmed.toUnsignedSnapshot.WellFormed :=
    (UnsignedSnapshot.wellFormed_trimmed _).2 hwf
  generalize (pageChunks (snapshotItems input.trimmed.toUnsignedSnapshot)).length = n at *
  have hmax : 800 ≤ Json.maxSafeInteger := by decide
  constructor
  · change (safe chunk.2 && safe n && safe chunk.1) = true
    simp only [Bool.and_eq_true, CanonicalJson.safe_nat, CanonicalJson.safe_list]
    exact ⟨⟨by omega, by omega⟩,
      fun item hitem => snapshotItems_safe hverified.safe_unsigned item (hitems item hitem)⟩
  · change chunk.2 ≤ 9999 ∧ (1 ≤ n ∧ n ≤ 10000) ∧ chunk.1.length ≤ 500 ∧
      ∀ item ∈ chunk.1, item.WellFormed
    exact ⟨by omega, ⟨hpos, by omega⟩, hlength,
      fun item hitem => snapshotItems_wellFormed hwf' item (hitems item hitem)⟩

/-- The manifest of a verified snapshot passes its schema. -/
theorem manifestOf_admitted {input s : ReplicationSnapshot}
    (hs : verifySnapshot rt.toRuntime input = .ok s) :
    safe (manifestOf rt s (pagesOf rt s)).toUnsignedManifest = true ∧
      (manifestOf rt s (pagesOf rt s)).WellFormed := by
  obtain ⟨hpos, hcount⟩ := pageCount_le hs
  have hpages : (pagesOf rt s).length = (pageChunks (snapshotItems s.toUnsignedSnapshot)).length := by
    simp [pagesOf]
  have hdigests : (manifestOf rt s (pagesOf rt s)).pageDigests.length =
      (pageChunks (snapshotItems s.toUnsignedSnapshot)).length := by
    simp [manifestOf, hpages]
  obtain ⟨hwf, rfl, -⟩ := (verifySnapshot_eq_ok _ _ _).1 hs
  obtain ⟨hworkspace, hcovered, -⟩ : input.trimmed.toUnsignedSnapshot.WellFormed :=
    (UnsignedSnapshot.wellFormed_trimmed _).2 hwf
  have hmax : 800 ≤ Json.maxSafeInteger := by decide
  constructor
  · change (safe input.trimmed.coveredSequence && safe (pagesOf rt input.trimmed).length) = true
    simp only [Bool.and_eq_true, CanonicalJson.safe_nat]
    exact ⟨hcovered, by omega⟩
  · change NonBlank input.trimmed.workspaceId ∧ IsSequence input.trimmed.coveredSequence ∧
      (1 ≤ (pagesOf rt input.trimmed).length ∧ (pagesOf rt input.trimmed).length ≤ 10000) ∧ _
    exact ⟨hworkspace, hcovered, ⟨by omega, by omega⟩, by omega, by omega⟩

/-- EXACT: a verified snapshot is cut into pages exactly when the items that the count gives each
    page fit. -/
theorem paginate_succeeds_iff (hm : names.Measures rt) {input s : ReplicationSnapshot}
    (hs : verifySnapshot rt.toRuntime input = .ok s) :
    (∃ m ps, paginateReplicationSnapshot rt input = .ok (m, ps)) ↔ names.PagesFit s := by
  have htrimmed := verifySnapshot_trimmed hs
  constructor
  · rintro ⟨m, ps, h⟩ chunk hchunk
    obtain ⟨s', hs', rfl, hfit, -⟩ := paginate_eq_ok h
    obtain rfl : s = s' := Except.ok.inj (hs.symm.trans hs')
    rw [← pageOf_bytes hm s]
    exact (hfit _ (List.mem_map_of_mem hchunk)).bytes
  · intro hfit
    have hpages : ∀ chunk ∈ (pageChunks (snapshotItems s.toUnsignedSnapshot)).zipIdx,
        PageFits rt (pageOf rt s (pageChunks (snapshotItems s.toUnsignedSnapshot)).length chunk) := by
      intro chunk hchunk
      obtain ⟨hsafe, hadmitted⟩ := pagesOf_admitted hs hchunk
      exact ⟨hsafe, hadmitted, (pageOf_bytes hm _ _ _).trans_le (hfit chunk hchunk)⟩
    obtain ⟨hsafe, hadmitted⟩ := manifestOf_admitted hs
    obtain ⟨-, hcount⟩ := pageCount_le hs
    refine ⟨manifestOf rt s (pagesOf rt s), pagesOf rt s, ?_⟩
    simp only [paginateReplicationSnapshot, bind_eq_ok, refuse_eq_ok, not_lt, pure_eq_ok,
      replicationSnapshotManifestDigest_eq_ok, ReplicationSnapshotManifest.parse_eq_ok,
      Prod.mk.injEq]
    refine ⟨s, hs, (), hcount.trans (by decide), pagesOf rt s, ?_, _, ⟨hsafe, rfl⟩, _,
      ⟨hadmitted, manifestOf_trimmed hs⟩, rfl, rfl⟩
    rw [mapM_eq_ok fun c hc page => buildPage_eq_ok (chunk_trimmed htrimmed hc) page]
    exact ⟨hpages, rfl⟩

/-! ### Pushes -/

/-- The operations that the count gives a push, as they are parsed. -/
def pendingBatch (db : Database) (limit : ℕ) : List ReplicationOperation :=
  (db.pendingRows.take limit).map fun row => row.2.operation.trimmed

/-- The limits of size and count that a push is held to. -/
structure WithinPushLimits (rt : Runtime) (request : ReplicationPushRequest) : Prop where
  least : 1 ≤ request.operations.length
  most : request.operations.length ≤ replicationLimits.pushOperations
  bytes : rt.requestBytes (canonical request) ≤ replicationLimits.pushBytes
  operations : ∀ o ∈ request.operations,
    rt.operationBytes (canonical o) ≤ replicationLimits.operationBytes

/-- The operations that the count gives a push fit, each by itself and together in its frame. -/
structure DocumentNames.PushFits (names : DocumentNames) (db : Database) (workspaceId : String)
    (limit : ℕ) : Prop where
  operations : ∀ o ∈ pendingBatch db limit,
    names.operationBytes (canonical o) ≤ replicationLimits.operationBytes
  request : requestFrame (Text.jsTrim workspaceId) +
    listed ((pendingBatch db limit).map fun o => names.operationBytes (canonical o)) ≤
      replicationLimits.pushBytes

theorem admitOperation_bytes {rt : Runtime} {request : ReplicationPushRequest}
    {options : AcceptReplicationOptions} {index : ℕ} {o : ReplicationOperation} {u : Unit}
    (h : admitOperation rt request options index o = .ok u) :
    rt.operationBytes (canonical o) ≤ replicationLimits.operationBytes := by
  simp only [admitOperation, bind_eq_ok, refuse_eq_ok, replicationCanonicalJson_eq_ok, not_lt,
    gt_iff_lt] at h
  obtain ⟨-, -, -, -, -, -, _, ⟨-, rfl⟩, -, hbytes, -⟩ := h
  exact hbytes

/-- What is admitted is within the limits. -/
theorem withinPushLimits_of_admit {rt : Runtime} {input request : ReplicationPushRequest}
    {options : AcceptReplicationOptions}
    (h : admitReplicationPush rt input options = .ok request) : WithinPushLimits rt request := by
  simp only [admitReplicationPush, bind_eq_ok, refuse_eq_ok, pure_eq_ok, ReplicationPushRequest.parse,
    replicationCanonicalJson_eq_ok, not_lt, forM_eq_ok, gt_iff_lt, not_not] at h
  obtain ⟨-, -, -, -, parsed, ⟨-, ⟨-, hcount, -⟩, rfl⟩, _, ⟨-, rfl⟩, -, hbytes, -, -, -, -, -, -, -,
    hoperations, rfl⟩ := h
  refine ⟨by simpa using hcount.1, by simpa [replicationLimits] using hcount.2, hbytes,
    fun o ho => ?_⟩
  obtain ⟨i, hi⟩ := List.mem_iff_getElem?.1 ho
  exact admitOperation_bytes (hoperations (o, i) (List.mk_mem_zipIdx_iff_getElem?.2 hi))

/-- What a push request is made of. -/
theorem buildReplicationPushRequest_eq {db : Database} {workspaceId : String} {limit : ℕ}
    {request : ReplicationPushRequest}
    (h : buildReplicationPushRequest db workspaceId limit = .ok request) :
    request.operations = pendingBatch db limit ∧
      request.workspaceId = Text.jsTrim workspaceId ∧ 1 ≤ request.operations.length ∧
        request.operations.length ≤ replicationLimits.pushOperations := by
  simp only [buildReplicationPushRequest, listPendingReplicationOperations, bind_eq_ok,
    refuse_eq_ok] at h
  obtain ⟨operations, ⟨-, -, -, -, hread⟩, h⟩ := h
  rw [mapM_eq_ok fun (row : ℕ × OutgoingRow) _ o =>
    ReplicationOperation.parse_eq_ok row.2.operation o] at hread
  obtain ⟨-, rfl⟩ := hread
  split at h
  · cases h
  · rename_i first rest hbatch
    simp only [ReplicationPushRequest.parse, bind_eq_ok, refuse_eq_ok, not_not, pure_eq_ok,
      exists_const] at h
    obtain ⟨⟨-, ⟨hleast, hmost⟩, -⟩, rfl⟩ := h
    refine ⟨?_, rfl, by simpa using hleast, by simpa [replicationLimits] using hmost⟩
    simp [pendingBatch, Function.comp_def]

/-- EXACT: a push request is within the limits exactly when the operations that the count gives it
    fit. -/
theorem push_within_iff (hm : names.Measures rt) {db : Database} {workspaceId : String} {limit : ℕ}
    {request : ReplicationPushRequest}
    (h : buildReplicationPushRequest db workspaceId limit = .ok request) :
    WithinPushLimits rt.toRuntime request ↔ names.PushFits db workspaceId limit := by
  obtain ⟨hbatch, hworkspace, hleast, hmost⟩ := buildReplicationPushRequest_eq h
  have hoperation (o : ReplicationOperation) :
      rt.operationBytes o = names.operationBytes o := hm.operation o
  have hrequest : rt.requestBytes (canonical request) =
      DocumentNames.requestFrame (Text.jsTrim workspaceId) + DocumentNames.listed
        ((pendingBatch db limit).map fun o => names.operationBytes (canonical o)) := by
    have hoperations : (canonical request).operations = (pendingBatch db limit).map canonical := by
      rw [← hbatch]
      rfl
    have hframe : (canonical request).workspaceId = Text.jsTrim workspaceId := hworkspace
    rw [hm.request, DocumentNames.bytes_request hm.sized, hoperations, hframe, List.map_map]
    rfl
  constructor
  · intro hwithin
    refine ⟨fun o ho => ?_, ?_⟩
    · rw [← hoperation]
      exact hwithin.operations o (hbatch ▸ ho)
    · rw [← hrequest]
      exact hwithin.bytes
  · intro hfits
    refine ⟨hleast, hmost, ?_, fun o ho => ?_⟩
    · rw [hrequest]
      exact hfits.request
    · rw [hoperation]
      exact hfits.operations o (hbatch ▸ ho)

/-- EXACT: a verified snapshot is cut into pages exactly when the items that the count gives each
    page fit its frame, and the push request of a replica is within the limits of acceptance exactly
    when the pending operations that the count gives it fit, each by itself and together. -/
theorem batches_fit_iff (rt : PagingRuntime) (names : DocumentNames) (hm : names.Measures rt) :
    (∀ input s : ReplicationSnapshot, verifySnapshot rt.toRuntime input = .ok s →
        ((∃ m ps, paginateReplicationSnapshot rt input = .ok (m, ps) ∧
          ∀ p ∈ ps, rt.pageBytes (canonical p) ≤ snapshotPageLimits.snapshotPageBytes) ↔
            names.PagesFit s)) ∧
      (∀ (db : Database) (workspaceId : String) (limit : ℕ) (request : ReplicationPushRequest),
        buildReplicationPushRequest db workspaceId limit = .ok request →
          (WithinPushLimits rt.toRuntime request ↔ names.PushFits db workspaceId limit)) ∧
      ∀ (input request : ReplicationPushRequest) (options : AcceptReplicationOptions),
        admitReplicationPush rt.toRuntime input options = .ok request →
          WithinPushLimits rt.toRuntime request := by
  refine ⟨fun input s hs => ?_, fun _ _ _ _ h => push_within_iff hm h,
    fun _ _ _ h => withinPushLimits_of_admit h⟩
  rw [← paginate_succeeds_iff hm hs]
  constructor
  · rintro ⟨m, ps, h, -⟩
    exact ⟨m, ps, h⟩
  · rintro ⟨m, ps, h⟩
    obtain ⟨-, -, -, hfit, -⟩ := paginate_eq_ok h
    exact ⟨m, ps, h, fun p hp => (hfit p hp).bytes⟩

/-! ### A platform that counts -/

/-- Texts of the right lengths. -/
def plainNames : DocumentNames where
  uuid _ := "00000000-0000-7000-8000-000000000000"
  digest _ := String.ofList ("sha256:".toList ++ List.replicate 64 '0')

theorem plainNames_sized : plainNames.Sized := by
  have huuid : bytes (quote "00000000-0000-7000-8000-000000000000") = 38 := by decide +kernel
  have hdigest : bytes (quote (String.ofList ("sha256:".toList ++ List.replicate 64 '0'))) = 73 := by
    decide +kernel
  exact ⟨fun _ => huuid, fun _ => hdigest⟩

/-- The ideal platform, which counts the bytes of canonical texts. -/
def countingPaging : PagingRuntime where
  toRuntime := { idealRuntime with
    operationBytes := fun o => bytes (serialize (plainNames.operation o))
    requestBytes := fun r => bytes (serialize (plainNames.request r)) }
  pageSha256 := idealPaging.pageSha256
  manifestSha256 := idealPaging.manifestSha256
  pageBytes p := bytes (serialize (plainNames.page p))

theorem countingPaging_measures : plainNames.Measures countingPaging where
  sized := plainNames_sized
  page _ := rfl
  operation _ := rfl
  request _ := rfl

/-! ### Two commitments with long descriptions -/

/-- A commitment with a description. -/
def describedCommitment (id : UuidV7) (description : String) : ReplicatedCommitmentSnapshot where
  title := plainTitle
  description := some description
  nextAction := none
  successCriteria := none
  completionMode := .assertion
  priority := none
  estimatedMinutes := none
  scheduledAt := none
  dueAt := none
  recurrence := none
  recurrenceInterval := ⟨1, Nat.one_pos⟩
  recurrenceAnchor := .due
  metadata := ⟨[]⟩
  status := .open
  startedAt := none
  completedAt := none
  lastDoneAt := none
  streak := 0
  recurrenceParentId := none
  id := id
  createdAt := 0
  updatedAt := 0
  deletedAt := none

/-- Its record in a snapshot. -/
def describedRecord (id : UuidV7) (description : String) : ReplicationSnapshotRecord where
  recordId := id
  stateDigest := countingPaging.stateOf (describedCommitment id description)
  snapshot := describedCommitment id description

/-- Two commitments with one description. -/
def describedContent (description : String) : UnsignedSnapshot where
  workspaceId := "w"
  authorityReplicaId := 2
  authorityEpoch := 3
  coveredSequence := 1
  projectionDigest := replicationProjectionDigest countingPaging.toRuntime
  acceptedFrontiers := []
  records := [describedRecord 1 description, describedRecord 4 description]
  retiredIdentities := []
  unresolvedConflicts := []

def describedSnapshot (description : String) : ReplicationSnapshot :=
  { describedContent description with
    snapshotDigest := countingPaging.sha256 (.snapshot (canonical (describedContent description))) }

theorem describedSnapshot_verified (description : String) :
    verifySnapshot countingPaging.toRuntime (describedSnapshot description) =
      .ok (describedSnapshot description) := by
  have hsafe (id : UuidV7) : safe (describedCommitment id description) = true := rfl
  refine (verifySnapshot_eq_ok _ _ _).2 ⟨?_, ?_, ?_⟩
  · have hworkspace : NonBlank "w" := by decide
    simp [UnsignedSnapshot.WellFormed, describedSnapshot, describedContent, hworkspace, IsSequence,
      Json.maxSafeInteger]
  · have hworkspace : Text.jsTrim "w" = "w" := by decide
    simp [ReplicationSnapshot.trimmed, UnsignedSnapshot.trimmed, describedSnapshot,
      describedContent, hworkspace]
  · have hdigested (id : UuidV7) :
        (describedRecord id description).Digested countingPaging.toRuntime := ⟨rfl, rfl, rfl⟩
    refine ⟨?_, rfl, rfl, ?_, ?_, ?_, ?_, ?_, ?_, ?_⟩
    · simp [UnsignedSnapshot.safe_iff, describedSnapshot, describedContent, Json.maxSafeInteger,
        describedRecord, hsafe]
    · intro r hr
      obtain rfl | rfl : r = describedRecord 1 description ∨ r = describedRecord 4 description := by
        simpa [describedSnapshot, describedContent] using hr
      · exact hdigested 1
      · exact hdigested 4
    all_goals simp [describedSnapshot, describedContent, describedRecord]

/-- The text of a record is as long as its description makes it. -/
theorem described_bytes (id : UuidV7) (description : String) :
    plainNames.itemBytes (canonical (.record (describedRecord id description))) + 2 =
      plainNames.itemBytes (canonical (.record (describedRecord 1 ""))) +
        bytes (quote description) := by
  have hempty : bytes (serialize (nullable .str (some ""))) = 2 := by decide +kernel
  have hrecord := DocumentNames.bytes_record plainNames_sized (describedRecord id description)
    (describedRecord 1 "")
  have hsnapshot := DocumentNames.bytes_snapshot plainNames_sized (describedCommitment 1 "") id
    description
  change bytes (serialize (plainNames.snapshot (describedCommitment id description))) +
    bytes (serialize (nullable .str (some ""))) = _ at hsnapshot
  change plainNames.itemBytes (.record (describedRecord id description)) + 2 =
    plainNames.itemBytes (.record (describedRecord 1 "")) + bytes (quote description)
  change _ + bytes (serialize (plainNames.snapshot (describedCommitment 1 ""))) =
    _ + bytes (serialize (plainNames.snapshot (describedCommitment id description))) at hrecord
  omega

/-- A text of `n` plain letters. -/
def letters (n : ℕ) : String := String.ofList (List.replicate n 'a')

theorem bytes_letters (n : ℕ) : bytes (quote (letters n)) = n + 2 := by
  have hescape : (List.replicate n 'a').flatMap Json.escape = List.replicate n 'a' := by
    induction n with
    | zero => rfl
    | succ n ih =>
      have ha : Json.escape 'a' = ['a'] := by decide
      rw [List.replicate_succ, List.flatMap_cons, ih, ha, List.singleton_append]
  have hsize : ('a' : Char).utf8Size = 1 := by decide
  have hquotes : (Char.ofNat 0x22).utf8Size = 1 := by decide
  rw [quote, letters, String.toList_ofList, hescape, Json.bytes_cons, Json.bytes_append,
    Json.bytes_cons, hquotes, Json.bytes_nil]
  simp only [bytes, List.map_replicate, hsize, List.sum_replicate, smul_eq_mul]
  omega

/-- The text of a record with a description of plain letters. -/
theorem lettered_bytes (id : UuidV7) (n : ℕ) :
    n ≤ plainNames.itemBytes (canonical (.record (describedRecord id (letters n)))) ∧
      plainNames.itemBytes (canonical (.record (describedRecord id (letters n)))) ≤ n + 1000 := by
  have hempty : plainNames.itemBytes (canonical (.record (describedRecord 1 ""))) = 651 := by
    decide +kernel
  have hbytes := described_bytes id (letters n)
  rw [bytes_letters] at hbytes
  omega

/-- Two items make one page. -/
theorem described_pageChunks (description : String) :
    pageChunks (snapshotItems (describedSnapshot description).toUnsignedSnapshot) =
      [[.record (describedRecord 1 description), .record (describedRecord 4 description)]] := by
  have hitems : snapshotItems (describedSnapshot description).toUnsignedSnapshot =
      [.record (describedRecord 1 description), .record (describedRecord 4 description)] := rfl
  rw [hitems]
  simp [pageChunks, Pages.chunks, snapshotPageLimits]

theorem described_pagesFit (description : String) :
    plainNames.PagesFit (describedSnapshot description) ↔ DocumentNames.pageFrame 0 1 +
      (plainNames.itemBytes (canonical (.record (describedRecord 1 description))) +
        plainNames.itemBytes (canonical (.record (describedRecord 4 description))) + 1) ≤
          snapshotPageLimits.snapshotPageBytes := by
  simp [DocumentNames.PagesFit, described_pageChunks, DocumentNames.listed]

theorem batches_fit_iff_described :
    ∃ m ps, paginateReplicationSnapshot countingPaging (describedSnapshot (letters 1)) = .ok (m, ps) ∧
      ∀ p ∈ ps, countingPaging.pageBytes (canonical p) ≤ snapshotPageLimits.snapshotPageBytes := by
  obtain ⟨hpages, -⟩ := batches_fit_iff countingPaging plainNames countingPaging_measures
  refine (hpages _ _ (describedSnapshot_verified _)).2 ?_
  have hframe : DocumentNames.pageFrame 0 1 = 272 := by decide
  have hlimit : snapshotPageLimits.snapshotPageBytes = 8388608 := rfl
  have hone := lettered_bytes 1 1
  have hfour := lettered_bytes 4 1
  rw [described_pagesFit]
  omega

/-- NOT SO: a verified snapshot of two commitments, of which each fits a page by itself, is not cut
    into pages. -/
theorem two_described_not_paged :
    verifySnapshot countingPaging.toRuntime (describedSnapshot (letters 5000000)) =
        .ok (describedSnapshot (letters 5000000)) ∧
      (∀ item ∈ snapshotItems (describedContent (letters 5000000)),
        DocumentNames.pageFrame 0 1 + plainNames.itemBytes (canonical item) ≤
          snapshotPageLimits.snapshotPageBytes) ∧
      ∀ answer, paginateReplicationSnapshot countingPaging (describedSnapshot (letters 5000000)) ≠
        .ok answer := by
  generalize hn : 5000000 = n
  have hframe : DocumentNames.pageFrame 0 1 = 272 := by decide
  have hlimit : snapshotPageLimits.snapshotPageBytes = 8388608 := rfl
  have hone := lettered_bytes 1 n
  have hfour := lettered_bytes 4 n
  refine ⟨describedSnapshot_verified _, fun item hitem => ?_, fun answer h => ?_⟩
  · obtain rfl | rfl : item = .record (describedRecord 1 (letters n)) ∨
        item = .record (describedRecord 4 (letters n)) := by
      simpa [snapshotItems, describedContent] using hitem
    · omega
    · omega
  · have hfits := (paginate_succeeds_iff countingPaging_measures (describedSnapshot_verified _)).1
      ⟨answer.1, answer.2, h⟩
    rw [described_pagesFit] at hfits
    omega

end Tasq
