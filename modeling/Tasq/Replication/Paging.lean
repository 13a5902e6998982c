import Mathlib.Tactic
import Tasq.Ideal
import Tasq.Lib.Pages
import Tasq.Replication.Queue
import Tasq.Replication.Snapshot

/-! Snapshots in transport pages: one verified snapshot is cut into pages that carry their own
    digests under a manifest, and pages in any order are put together again.

    `contractVersion` and `projectionVersion` are literals and left out. A digest of a page or of a
    manifest is taken of canonical content, as the digests of `Runtime` are. -/

namespace Tasq

open Outcome Text

/-! ### Pages and manifests -/

/-- `ReplicationSnapshotPageItem` -/
inductive ReplicationSnapshotPageItem where
  | acceptedFrontier (value : ReplicationAcceptedFrontier)
  | record (value : ReplicationSnapshotRecord)
  | retiredIdentity (value : ReplicationRetiredIdentity)
  | unresolvedConflict (value : ReplicationConflict)
  deriving DecidableEq

/-- `Omit<ReplicationSnapshotPage, "pageDigest">` -/
structure UnsignedPage where
  snapshotDigest : Digest
  pageIndex : ℕ
  pageCount : ℕ
  items : List ReplicationSnapshotPageItem
  deriving DecidableEq

/-- `ReplicationSnapshotPage` -/
structure ReplicationSnapshotPage extends UnsignedPage where
  pageDigest : Digest
  deriving DecidableEq

/-- `Omit<ReplicationSnapshotManifest, "manifestDigest">` -/
structure UnsignedManifest where
  workspaceId : String
  authorityReplicaId : UuidV7
  authorityEpoch : UuidV7
  coveredSequence : ℕ
  projectionDigest : Digest
  snapshotDigest : Digest
  pageCount : ℕ
  pageDigests : List Digest
  deriving DecidableEq

/-- `ReplicationSnapshotManifest` -/
structure ReplicationSnapshotManifest extends UnsignedManifest where
  manifestDigest : Digest
  deriving DecidableEq

instance : CanonicalJson ReplicationSnapshotPageItem where
  canonical
    | .acceptedFrontier value => .acceptedFrontier (canonical value)
    | .record value => .record (canonical value)
    | .retiredIdentity value => .retiredIdentity (canonical value)
    | .unresolvedConflict value => .unresolvedConflict (canonical value)
  safe
    | .acceptedFrontier value => safe value
    | .record value => safe value
    | .retiredIdentity value => safe value
    | .unresolvedConflict value => safe value
  canonical_canonical item := by cases item <;> simp
  safe_canonical item := by cases item <;> simp

instance : CanonicalJson UnsignedPage where
  canonical p := { p with items := canonical p.items }
  safe p := safe p.pageIndex && safe p.pageCount && safe p.items
  canonical_canonical p := by simp
  safe_canonical p := by simp

instance : CanonicalJson ReplicationSnapshotPage where
  canonical p := { p with toUnsignedPage := canonical p.toUnsignedPage }
  safe p := safe p.toUnsignedPage
  canonical_canonical p := by simp
  safe_canonical p := by simp

instance : CanonicalJson UnsignedManifest where
  canonical m := m
  safe m := safe m.coveredSequence && safe m.pageCount
  canonical_canonical _ := rfl
  safe_canonical _ := rfl

/-! ### Parsing -/

namespace ReplicationSnapshotPageItem

def trimmed : ReplicationSnapshotPageItem → ReplicationSnapshotPageItem
  | .acceptedFrontier value => .acceptedFrontier value
  | .record value => .record value
  | .retiredIdentity value => .retiredIdentity value
  | .unresolvedConflict value => .unresolvedConflict value.trimmed

def WellFormed : ReplicationSnapshotPageItem → Prop
  | .acceptedFrontier value => IsSequence value.acceptedCounter ∧
      (value.acceptedCounter = 0 ↔ value.acceptedDigest = none)
  | .record _ => True
  | .retiredIdentity _ => True
  | .unresolvedConflict value => value.WellFormed

instance (item : ReplicationSnapshotPageItem) : Decidable item.WellFormed := by
  cases item <;> unfold WellFormed <;> infer_instance

@[simp] theorem trimmed_trimmed (item : ReplicationSnapshotPageItem) :
    item.trimmed.trimmed = item.trimmed := by
  cases item <;> simp [trimmed]

@[simp] theorem wellFormed_trimmed (item : ReplicationSnapshotPageItem) :
    item.trimmed.WellFormed ↔ item.WellFormed := by
  cases item <;> simp [trimmed, WellFormed]

end ReplicationSnapshotPageItem

namespace ReplicationSnapshotPage

def trimmed (p : ReplicationSnapshotPage) : ReplicationSnapshotPage :=
  { p with items := p.items.map ReplicationSnapshotPageItem.trimmed }

def WellFormed (p : ReplicationSnapshotPage) : Prop :=
  p.pageIndex ≤ 9999 ∧ (1 ≤ p.pageCount ∧ p.pageCount ≤ 10000) ∧ p.items.length ≤ 500 ∧
    ∀ item ∈ p.items, item.WellFormed

instance (p : ReplicationSnapshotPage) : Decidable p.WellFormed := by
  unfold WellFormed; infer_instance

/-- `ReplicationSnapshotPage.parse` -/
def parse (p : ReplicationSnapshotPage) : Call ReplicationSnapshotPage := do
  refuse (¬ p.WellFormed) (.invalid "ReplicationSnapshotPage")
  pure p.trimmed

theorem parse_eq_ok (p q : ReplicationSnapshotPage) :
    p.parse = .ok q ↔ p.WellFormed ∧ p.trimmed = q := by
  simp only [parse, bind_eq_ok, refuse_eq_ok, not_not, pure_eq_ok, exists_const]

@[simp] theorem trimmed_trimmed (p : ReplicationSnapshotPage) : p.trimmed.trimmed = p.trimmed := by
  simp [trimmed, Function.comp_def]

@[simp] theorem wellFormed_trimmed (p : ReplicationSnapshotPage) :
    p.trimmed.WellFormed ↔ p.WellFormed := by
  simp [trimmed, WellFormed]

end ReplicationSnapshotPage

namespace ReplicationSnapshotManifest

def trimmed (m : ReplicationSnapshotManifest) : ReplicationSnapshotManifest :=
  { m with workspaceId := jsTrim m.workspaceId }

def WellFormed (m : ReplicationSnapshotManifest) : Prop :=
  NonBlank m.workspaceId ∧ IsSequence m.coveredSequence ∧
    (1 ≤ m.pageCount ∧ m.pageCount ≤ 10000) ∧
    (1 ≤ m.pageDigests.length ∧ m.pageDigests.length ≤ 10000)

instance (m : ReplicationSnapshotManifest) : Decidable m.WellFormed := by
  unfold WellFormed; infer_instance

/-- `ReplicationSnapshotManifest.parse` -/
def parse (m : ReplicationSnapshotManifest) : Call ReplicationSnapshotManifest := do
  refuse (¬ m.WellFormed) (.invalid "ReplicationSnapshotManifest")
  pure m.trimmed

theorem parse_eq_ok (m n : ReplicationSnapshotManifest) :
    m.parse = .ok n ↔ m.WellFormed ∧ m.trimmed = n := by
  simp only [parse, bind_eq_ok, refuse_eq_ok, not_not, pure_eq_ok, exists_const]

@[simp] theorem trimmed_trimmed (m : ReplicationSnapshotManifest) :
    m.trimmed.trimmed = m.trimmed := by
  simp [trimmed]

@[simp] theorem wellFormed_trimmed (m : ReplicationSnapshotManifest) :
    m.trimmed.WellFormed ↔ m.WellFormed := by
  simp [trimmed, WellFormed]

end ReplicationSnapshotManifest

/-! ### The platform -/

/-- The platform with the digests of pages. -/
structure PagingRuntime extends Runtime where
  /-- The digest of the canonical content of a page. -/
  pageSha256 : UnsignedPage → Digest
  /-- The digest of the content of a manifest. -/
  manifestSha256 : UnsignedManifest → Digest
  /-- `Buffer.byteLength` of the canonical text of a page. -/
  pageBytes : ReplicationSnapshotPage → ℕ

/-- No two documents, and no two pages, share a digest. -/
structure PagingRuntime.CollisionFree (rt : PagingRuntime) : Prop where
  documents : rt.toRuntime.CollisionFree
  pages : Function.Injective rt.pageSha256

variable (rt : PagingRuntime)

/-- `replicationSnapshotPageDigest` -/
def replicationSnapshotPageDigest (page : UnsignedPage) : Call Digest := do
  let text ← replicationCanonicalJson page
  pure (rt.pageSha256 text)

/-- `replicationSnapshotManifestDigest` -/
def replicationSnapshotManifestDigest (manifest : UnsignedManifest) : Call Digest := do
  let text ← replicationCanonicalJson manifest
  pure (rt.manifestSha256 text)

/-- `REPLICATION_LIMITS`, the limits of pages. -/
structure SnapshotPageLimits where
  snapshotPageItems : ℕ := 500
  snapshotPageBytes : ℕ := 8 * 1024 * 1024
  snapshotPages : ℕ := 10000

/-- `REPLICATION_LIMITS` -/
def snapshotPageLimits : SnapshotPageLimits := {}

/-! ### Paging -/

/-- The items of a snapshot, kind by kind. -/
def snapshotItems (s : UnsignedSnapshot) : List ReplicationSnapshotPageItem :=
  s.acceptedFrontiers.map .acceptedFrontier ++ s.records.map .record ++
    s.retiredIdentities.map .retiredIdentity ++ s.unresolvedConflicts.map .unresolvedConflict

/-- The items of each page; a snapshot without items has one page without items. -/
def pageChunks (items : List ReplicationSnapshotPageItem) :
    List (List ReplicationSnapshotPageItem) :=
  if items.length = 0 then [[]] else Pages.chunks snapshotPageLimits.snapshotPageItems items

/-- The page of some items, under their number. -/
def buildPage (snapshot : ReplicationSnapshot) (pageCount : ℕ)
    (chunk : List ReplicationSnapshotPageItem × ℕ) : Call ReplicationSnapshotPage := do
  let unsigned : UnsignedPage :=
    { snapshotDigest := snapshot.snapshotDigest
      pageIndex := chunk.2
      pageCount := pageCount
      items := chunk.1 }
  let digest ← replicationSnapshotPageDigest rt unsigned
  let page ← ReplicationSnapshotPage.parse { unsigned with pageDigest := digest }
  let text ← replicationCanonicalJson page
  refuse (snapshotPageLimits.snapshotPageBytes < rt.pageBytes text)
    (.protocol .payloadTooLarge s!"Replication snapshot page {chunk.2} exceeds 8 MiB")
  pure page

/-- `paginateReplicationSnapshot` -/
def paginateReplicationSnapshot (input : ReplicationSnapshot) :
    Call (ReplicationSnapshotManifest × List ReplicationSnapshotPage) := do
  let snapshot ← verifySnapshot rt.toRuntime input
  let chunks := pageChunks (snapshotItems snapshot.toUnsignedSnapshot)
  refuse (snapshotPageLimits.snapshotPages < chunks.length)
    (.protocol .payloadTooLarge "Replication snapshot requires too many pages")
  let pages ← chunks.zipIdx.mapM (buildPage rt snapshot chunks.length)
  let unsignedManifest : UnsignedManifest :=
    { workspaceId := snapshot.workspaceId
      authorityReplicaId := snapshot.authorityReplicaId
      authorityEpoch := snapshot.authorityEpoch
      coveredSequence := snapshot.coveredSequence
      projectionDigest := snapshot.projectionDigest
      snapshotDigest := snapshot.snapshotDigest
      pageCount := pages.length
      pageDigests := pages.map (·.pageDigest) }
  let digest ← replicationSnapshotManifestDigest rt unsignedManifest
  let manifest ← ReplicationSnapshotManifest.parse { unsignedManifest with manifestDigest := digest }
  pure (manifest, pages)

/-! ### Assembling -/

/-- The check of the page that stands at an index. -/
def verifyPage (manifest : ReplicationSnapshotManifest) (entry : ReplicationSnapshotPage × ℕ) :
    Call Unit := do
  let failed : Failure := .error s!"Replication snapshot page {entry.2} failed verification"
  refuse (entry.1.pageIndex ≠ entry.2 ∨ entry.1.pageCount ≠ manifest.pageCount ∨
    entry.1.snapshotDigest ≠ manifest.snapshotDigest) failed
  let digest ← replicationSnapshotPageDigest rt entry.1.toUnsignedPage
  refuse (digest ≠ entry.1.pageDigest ∨ manifest.pageDigests[entry.2]? ≠ some entry.1.pageDigest)
    failed
  let text ← replicationCanonicalJson entry.1
  refuse (snapshotPageLimits.snapshotPageBytes < rt.pageBytes text) failed

/-- The frontiers among the items. -/
def ReplicationSnapshotPageItem.acceptedFrontier? :
    ReplicationSnapshotPageItem → Option ReplicationAcceptedFrontier
  | .acceptedFrontier value => some value
  | _ => none

/-- The records among the items. -/
def ReplicationSnapshotPageItem.record? :
    ReplicationSnapshotPageItem → Option ReplicationSnapshotRecord
  | .record value => some value
  | _ => none

/-- The retired identities among the items. -/
def ReplicationSnapshotPageItem.retiredIdentity? :
    ReplicationSnapshotPageItem → Option ReplicationRetiredIdentity
  | .retiredIdentity value => some value
  | _ => none

/-- The conflicts among the items. -/
def ReplicationSnapshotPageItem.unresolvedConflict? :
    ReplicationSnapshotPageItem → Option ReplicationConflict
  | .unresolvedConflict value => some value
  | _ => none

/-- The snapshot that a manifest and the items of its pages make. -/
def assembled (manifest : ReplicationSnapshotManifest)
    (items : List ReplicationSnapshotPageItem) : ReplicationSnapshot where
  workspaceId := manifest.workspaceId
  authorityReplicaId := manifest.authorityReplicaId
  authorityEpoch := manifest.authorityEpoch
  coveredSequence := manifest.coveredSequence
  projectionDigest := manifest.projectionDigest
  acceptedFrontiers := items.filterMap (·.acceptedFrontier?)
  records := items.filterMap (·.record?)
  retiredIdentities := items.filterMap (·.retiredIdentity?)
  unresolvedConflicts := items.filterMap (·.unresolvedConflict?)
  snapshotDigest := manifest.snapshotDigest

/-- `assembleReplicationSnapshotPages` -/
def assembleReplicationSnapshotPages (manifestInput : ReplicationSnapshotManifest)
    (pageInputs : List ReplicationSnapshotPage) : Call ReplicationSnapshot := do
  let manifest ← manifestInput.parse
  let digest ← replicationSnapshotManifestDigest rt manifest.toUnsignedManifest
  refuse (digest ≠ manifest.manifestDigest ∨ manifest.pageDigests.length ≠ manifest.pageCount ∨
      pageInputs.length ≠ manifest.pageCount)
    (.error "Replication snapshot manifest digest or page count mismatch")
  let pages ← pageInputs.mapM ReplicationSnapshotPage.parse
  refuse (¬ (pages.map (·.pageIndex)).Nodup ∨ ∃ p ∈ pages, manifest.pageCount ≤ p.pageIndex)
    (.error "Replication snapshot pages have duplicate or invalid indexes")
  let pages := Pages.inOrder (·.pageIndex) pages
  pages.zipIdx.forM (verifyPage rt manifest)
  verifySnapshot rt.toRuntime (assembled manifest (pages.flatMap (·.items)))

/-! ### What the pages of a snapshot are -/

theorem replicationSnapshotPageDigest_eq_ok (page : UnsignedPage) (d : Digest) :
    replicationSnapshotPageDigest rt page = .ok d ↔
      safe page = true ∧ rt.pageSha256 (canonical page) = d := by
  simp [replicationSnapshotPageDigest, map_eq_ok, replicationCanonicalJson_eq_ok, and_assoc]

theorem replicationSnapshotManifestDigest_eq_ok (manifest : UnsignedManifest) (d : Digest) :
    replicationSnapshotManifestDigest rt manifest = .ok d ↔
      safe manifest = true ∧ rt.manifestSha256 (canonical manifest) = d := by
  simp [replicationSnapshotManifestDigest, map_eq_ok, replicationCanonicalJson_eq_ok, and_assoc]

/-- The page of some items with its digest. -/
def pageOf (snapshot : ReplicationSnapshot) (pageCount : ℕ)
    (chunk : List ReplicationSnapshotPageItem × ℕ) : ReplicationSnapshotPage :=
  let unsigned : UnsignedPage := ⟨snapshot.snapshotDigest, chunk.2, pageCount, chunk.1⟩
  { unsigned with pageDigest := rt.pageSha256 (canonical unsigned) }

/-- The manifest of some pages with its digest. -/
def manifestOf (snapshot : ReplicationSnapshot) (pages : List ReplicationSnapshotPage) :
    ReplicationSnapshotManifest :=
  let unsigned : UnsignedManifest :=
    ⟨snapshot.workspaceId, snapshot.authorityReplicaId, snapshot.authorityEpoch,
      snapshot.coveredSequence, snapshot.projectionDigest, snapshot.snapshotDigest, pages.length,
      pages.map (·.pageDigest)⟩
  { unsigned with manifestDigest := rt.manifestSha256 (canonical unsigned) }

/-- A page that the schema and the byte limit admit. -/
structure PageFits (page : ReplicationSnapshotPage) : Prop where
  safe_page : safe page = true
  wellFormed : page.WellFormed
  bytes : rt.pageBytes (canonical page) ≤ snapshotPageLimits.snapshotPageBytes

/-- The pages of a snapshot. -/
def pagesOf (snapshot : ReplicationSnapshot) : List ReplicationSnapshotPage :=
  let chunks := pageChunks (snapshotItems snapshot.toUnsignedSnapshot)
  chunks.zipIdx.map (pageOf rt snapshot chunks.length)

variable {rt}

theorem buildPage_eq_ok {snapshot : ReplicationSnapshot} {pageCount : ℕ}
    {chunk : List ReplicationSnapshotPageItem × ℕ} (hitems : ∀ item ∈ chunk.1, item.trimmed = item)
    (page : ReplicationSnapshotPage) :
    buildPage rt snapshot pageCount chunk = .ok page ↔
      PageFits rt (pageOf rt snapshot pageCount chunk) ∧
        pageOf rt snapshot pageCount chunk = page := by
  have htrimmed : (pageOf rt snapshot pageCount chunk).trimmed =
      pageOf rt snapshot pageCount chunk := by
    rw [ReplicationSnapshotPage.trimmed, pageOf, List.map_congr_left hitems, List.map_id']
  simp only [buildPage, bind_eq_ok, replicationSnapshotPageDigest_eq_ok,
    ReplicationSnapshotPage.parse_eq_ok, replicationCanonicalJson_eq_ok, refuse_eq_ok, not_lt,
    pure_eq_ok]
  constructor
  · rintro ⟨_, ⟨hsafe, rfl⟩, _, ⟨hwf, rfl⟩, _, ⟨hsafe', rfl⟩, _, hbytes, rfl⟩
    change (pageOf rt snapshot pageCount chunk).WellFormed at hwf
    change rt.pageBytes (canonical (pageOf rt snapshot pageCount chunk).trimmed) ≤ _ at hbytes
    rw [htrimmed] at hbytes
    exact ⟨⟨hsafe, hwf, hbytes⟩, htrimmed.symm⟩
  · rintro ⟨h, rfl⟩
    refine ⟨_, ⟨h.safe_page, rfl⟩, _, ⟨h.wellFormed, htrimmed⟩, _, ⟨h.safe_page, rfl⟩, (), h.bytes,
      rfl⟩

/-- The pages hold the items of the snapshot in order. -/
theorem flatten_pageChunks (items : List ReplicationSnapshotPageItem) :
    (pageChunks items).flatten = items := by
  unfold pageChunks
  split
  next h =>
    rw [List.length_eq_zero_iff.1 h]
    rfl
  next => exact Pages.flatten_chunks (by decide) items

theorem trimmed_of_mem_snapshotItems {s : UnsignedSnapshot} (h : s.trimmed = s)
    {item : ReplicationSnapshotPageItem} (hitem : item ∈ snapshotItems s) :
    item.trimmed = item := by
  simp only [snapshotItems, List.mem_append, List.mem_map] at hitem
  obtain ((⟨f, -, rfl⟩ | ⟨r, -, rfl⟩) | ⟨r, -, rfl⟩) | ⟨c, hc, rfl⟩ := hitem
  · rfl
  · rfl
  · rfl
  · -- The conflicts of a trimmed snapshot are trimmed.
    rw [← h, UnsignedSnapshot.trimmed] at hc
    obtain ⟨c, -, rfl⟩ := List.mem_map.1 hc
    simp [ReplicationSnapshotPageItem.trimmed]

/-- The items of a page of a trimmed snapshot are trimmed. -/
theorem chunk_trimmed {s : ReplicationSnapshot} (h : s.trimmed = s)
    {c : List ReplicationSnapshotPageItem × ℕ}
    (hc : c ∈ (pageChunks (snapshotItems s.toUnsignedSnapshot)).zipIdx) :
    ∀ item ∈ c.1, item.trimmed = item := by
  intro item hitem
  refine trimmed_of_mem_snapshotItems (congrArg ReplicationSnapshot.toUnsignedSnapshot h) ?_
  rw [← flatten_pageChunks (snapshotItems _)]
  exact List.mem_flatten_of_mem (List.fst_mem_of_mem_zipIdx hc) hitem

/-- A verified snapshot is trimmed. -/
theorem verifySnapshot_trimmed {input s : ReplicationSnapshot}
    (h : verifySnapshot rt.toRuntime input = .ok s) : s.trimmed = s := by
  obtain ⟨-, rfl, -⟩ := (verifySnapshot_eq_ok _ _ _).1 h
  simp [ReplicationSnapshot.trimmed]

/-- A snapshot is cut into the pages of its items, where all of them fit. -/
theorem paginate_eq_ok {input : ReplicationSnapshot} {m : ReplicationSnapshotManifest}
    {ps : List ReplicationSnapshotPage} (h : paginateReplicationSnapshot rt input = .ok (m, ps)) :
    ∃ s, verifySnapshot rt.toRuntime input = .ok s ∧ ps = pagesOf rt s ∧
      (∀ p ∈ ps, PageFits rt p) ∧ m = manifestOf rt s ps ∧ m.WellFormed ∧
      safe m.toUnsignedManifest = true := by
  simp only [paginateReplicationSnapshot, bind_eq_ok, refuse_eq_ok, not_lt, pure_eq_ok,
    replicationSnapshotManifestDigest_eq_ok, ReplicationSnapshotManifest.parse_eq_ok,
    Prod.mk.injEq] at h
  obtain ⟨s, hs, -, -, pages, hpages, _, ⟨hsafe, rfl⟩, _, ⟨hwf, hm⟩, rfl, rfl⟩ := h
  have htrimmed := verifySnapshot_trimmed hs
  rw [mapM_eq_ok fun c hc page => buildPage_eq_ok (chunk_trimmed htrimmed hc) page] at hpages
  obtain ⟨hfit, rfl⟩ := hpages
  refine ⟨s, hs, rfl, ?_, ?_, ?_, ?_⟩
  · intro p hp
    obtain ⟨c, hc, rfl⟩ := List.mem_map.1 hp
    exact hfit c hc
  · rw [← hm]
    have hworkspace : jsTrim s.workspaceId = s.workspaceId :=
      congrArg (fun t : ReplicationSnapshot => t.workspaceId) htrimmed
    simp only [ReplicationSnapshotManifest.trimmed, hworkspace]
    rfl
  · rw [← hm]
    exact (ReplicationSnapshotManifest.wellFormed_trimmed _).2 hwf
  · rw [← hm]
    exact hsafe

/-! ### The pages together -/

theorem pagesOf_trimmed {s : ReplicationSnapshot} (h : s.trimmed = s) :
    ∀ p ∈ pagesOf rt s, p.trimmed = p := by
  intro p hp
  obtain ⟨c, hc, rfl⟩ := List.mem_map.1 hp
  rw [ReplicationSnapshotPage.trimmed, pageOf, List.map_congr_left (chunk_trimmed h hc),
    List.map_id']

theorem pagesOf_pageIndex (s : ReplicationSnapshot) :
    (pagesOf rt s).map (·.pageIndex) = List.range (pagesOf rt s).length := by
  simp only [pagesOf, List.map_map, List.length_map, List.length_zipIdx]
  rw [show ((·.pageIndex) : ReplicationSnapshotPage → ℕ) ∘ pageOf rt s _ = Prod.snd from rfl,
    List.zipIdx_map_snd, List.range_eq_range']

theorem pagesOf_sorted (s : ReplicationSnapshot) :
    (pagesOf rt s).Pairwise fun p q => p.pageIndex < q.pageIndex := by
  rw [← List.pairwise_map (R := (· < ·)), pagesOf_pageIndex]
  exact List.pairwise_lt_range

theorem pagesOf_items (s : ReplicationSnapshot) :
    (pagesOf rt s).flatMap (·.items) = snapshotItems s.toUnsignedSnapshot := by
  simp only [pagesOf, List.flatMap_map]
  rw [show (fun c => (pageOf rt s _ c).items) = Prod.fst from rfl, List.flatMap_def,
    List.zipIdx_map_fst, flatten_pageChunks]

theorem pagesOf_getElem? (s : ReplicationSnapshot) {i : ℕ} {p : ReplicationSnapshotPage}
    (h : (pagesOf rt s)[i]? = some p) :
    p.pageIndex = i ∧ p.pageCount = (pagesOf rt s).length ∧ p.snapshotDigest = s.snapshotDigest ∧
      p.pageDigest = rt.pageSha256 (canonical p.toUnsignedPage) := by
  simp only [pagesOf, List.getElem?_map, List.getElem?_zipIdx, Option.map_map,
    Option.map_eq_some_iff] at h
  obtain ⟨c, -, rfl⟩ := h
  simp [pageOf, pagesOf]

/-- The items of a snapshot, read kind by kind, are the lists of the snapshot. -/
theorem assembled_snapshotItems (s : ReplicationSnapshot) (ps : List ReplicationSnapshotPage) :
    assembled (manifestOf rt s ps) (snapshotItems s.toUnsignedSnapshot) = s := by
  have hskip {α β : Type} (l : List α) : l.filterMap (fun _ => (none : Option β)) = [] := by
    simp
  simp only [assembled, snapshotItems, List.filterMap_append, List.filterMap_map,
    Function.comp_def, ReplicationSnapshotPageItem.acceptedFrontier?,
    ReplicationSnapshotPageItem.record?, ReplicationSnapshotPageItem.retiredIdentity?,
    ReplicationSnapshotPageItem.unresolvedConflict?, hskip, List.filterMap_some, List.nil_append,
    List.append_nil, manifestOf]

end Tasq
