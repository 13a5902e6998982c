import Mathlib.Tactic
import Tasq.Replication.Paging

/-! Pages put together again: the pages of a snapshot make the snapshot in any order, and whatever
    is put together under its manifest are its pages, as the parser reads them. -/

namespace Tasq

open Outcome Text

variable {rt : PagingRuntime} {input s t : ReplicationSnapshot} {m : ReplicationSnapshotManifest}
  {ps qs : List ReplicationSnapshotPage}

/-- A page that its number, its digest and its size admit under a manifest. -/
structure PageVerified (rt : PagingRuntime) (m : ReplicationSnapshotManifest) (i : ℕ)
    (p : ReplicationSnapshotPage) : Prop where
  pageIndex : p.pageIndex = i
  pageCount : p.pageCount = m.pageCount
  snapshotDigest : p.snapshotDigest = m.snapshotDigest
  safe_page : safe p = true
  digest : rt.pageSha256 (canonical p.toUnsignedPage) = p.pageDigest
  listed : m.pageDigests[i]? = some p.pageDigest
  bytes : rt.pageBytes (canonical p) ≤ snapshotPageLimits.snapshotPageBytes

theorem verifyPage_eq_ok (entry : ReplicationSnapshotPage × ℕ) (u : Unit) :
    verifyPage rt m entry = .ok u ↔ PageVerified rt m entry.2 entry.1 := by
  simp only [verifyPage, bind_eq_ok, refuse_eq_ok, replicationSnapshotPageDigest_eq_ok,
    replicationCanonicalJson_eq_ok, not_or, not_not, not_lt]
  constructor
  · rintro ⟨-, ⟨hindex, hcount, hsnapshot⟩, _, ⟨hsafe, rfl⟩, -, ⟨hdigest, hlisted⟩, _, ⟨-, rfl⟩,
      hbytes⟩
    exact ⟨hindex, hcount, hsnapshot, hsafe, hdigest, hlisted, hbytes⟩
  · intro h
    exact ⟨(), ⟨h.pageIndex, h.pageCount, h.snapshotDigest⟩, _, ⟨h.safe_page, rfl⟩, (),
      ⟨h.digest, h.listed⟩, _, ⟨h.safe_page, rfl⟩, h.bytes⟩

/-- STEP: what is put together under a manifest. -/
theorem assemble_eq_ok (hm : m.trimmed = m) (hwf : m.WellFormed)
    (hsafe : safe m.toUnsignedManifest = true)
    (hdigest : rt.manifestSha256 (canonical m.toUnsignedManifest) = m.manifestDigest)
    (hlisted : m.pageDigests.length = m.pageCount) :
    assembleReplicationSnapshotPages rt m qs = .ok t ↔
      qs.length = m.pageCount ∧ (∀ q ∈ qs, q.WellFormed) ∧
        ((qs.map (·.trimmed)).map (·.pageIndex)).Nodup ∧
        (∀ p ∈ qs.map (·.trimmed), p.pageIndex < m.pageCount) ∧
        (∀ entry ∈ (Pages.inOrder (·.pageIndex) (qs.map (·.trimmed))).zipIdx,
          PageVerified rt m entry.2 entry.1) ∧
        verifySnapshot rt.toRuntime (assembled m
          ((Pages.inOrder (·.pageIndex) (qs.map (·.trimmed))).flatMap (·.items))) = .ok t := by
  simp only [assembleReplicationSnapshotPages, bind_eq_ok, ReplicationSnapshotManifest.parse_eq_ok,
    replicationSnapshotManifestDigest_eq_ok, refuse_eq_ok, not_or, not_not, not_exists, not_and,
    not_le, forM_eq_ok, verifyPage_eq_ok,
    mapM_eq_ok fun q (_ : q ∈ qs) p => ReplicationSnapshotPage.parse_eq_ok q p]
  constructor
  · rintro ⟨_, ⟨-, rfl⟩, _, ⟨-, rfl⟩, -, ⟨-, -, hlength⟩, _, ⟨hparse, rfl⟩, -, ⟨hnodup, hindex⟩, -,
      hpages, hverify⟩
    rw [hm] at *
    exact ⟨hlength, hparse, hnodup, hindex, hpages, hverify⟩
  · rintro ⟨hlength, hparse, hnodup, hindex, hpages, hverify⟩
    exact ⟨m, ⟨hwf, hm⟩, _, ⟨hsafe, rfl⟩, (), ⟨hdigest, hlisted, hlength⟩, _, ⟨hparse, rfl⟩, (),
      ⟨hnodup, hindex⟩, ⟨⟩, hpages, hverify⟩

theorem manifestOf_trimmed (hs : verifySnapshot rt.toRuntime input = .ok s) :
    (manifestOf rt s ps).trimmed = manifestOf rt s ps := by
  obtain ⟨-, rfl, -⟩ := (verifySnapshot_eq_ok _ _ _).1 hs
  simp [manifestOf, ReplicationSnapshotManifest.trimmed, ReplicationSnapshot.trimmed,
    UnsignedSnapshot.trimmed]

/-- A verified snapshot verifies. -/
theorem verifySnapshot_again (hs : verifySnapshot rt.toRuntime input = .ok s) :
    verifySnapshot rt.toRuntime s = .ok s := by
  obtain ⟨hwf, rfl, hverified⟩ := (verifySnapshot_eq_ok _ _ _).1 hs
  refine (verifySnapshot_eq_ok _ _ _).2 ⟨?_, ?_, hverified⟩
  · exact (UnsignedSnapshot.wellFormed_trimmed _).2 hwf
  · simp [ReplicationSnapshot.trimmed]

/-- CORRECT: the pages of a snapshot make the snapshot, in whatever order they come. -/
theorem assemble_perm (hs : verifySnapshot rt.toRuntime input = .ok s)
    (hfit : ∀ p ∈ pagesOf rt s, PageFits rt p)
    (hwf : (manifestOf rt s (pagesOf rt s)).WellFormed)
    (hsafe : safe (manifestOf rt s (pagesOf rt s)).toUnsignedManifest = true)
    (hperm : qs.Perm (pagesOf rt s)) :
    assembleReplicationSnapshotPages rt (manifestOf rt s (pagesOf rt s)) qs = .ok s := by
  rw [assemble_eq_ok (manifestOf_trimmed hs) hwf hsafe rfl (by simp [manifestOf])]
  have hqs : qs.map (·.trimmed) = qs := by
    have htrimmed := @pagesOf_trimmed rt _ (verifySnapshot_trimmed hs)
    rw [List.map_congr_left fun q hq => htrimmed q (hperm.subset hq), List.map_id']
  have horder := Pages.inOrder_eq (·.pageIndex) (pagesOf_sorted s) hperm
  rw [hqs, horder, pagesOf_items, assembled_snapshotItems]
  refine ⟨hperm.length_eq, fun q hq => (hfit q (hperm.subset hq)).wellFormed, ?_, ?_, ?_,
    verifySnapshot_again hs⟩
  · rw [(hperm.map _).nodup_iff, pagesOf_pageIndex]
    exact List.nodup_range
  · intro p hp
    have hmem := List.mem_map_of_mem (f := (·.pageIndex)) (hperm.subset hp)
    rw [pagesOf_pageIndex] at hmem
    exact List.mem_range.1 hmem
  · rintro ⟨p, i⟩ hentry
    rw [List.mk_mem_zipIdx_iff_getElem?] at hentry
    obtain ⟨hindex, hcount, hsnapshot, hdigest⟩ := pagesOf_getElem? s hentry
    have hp := hfit p (List.mem_of_getElem? hentry)
    refine ⟨hindex, hcount, hsnapshot, hp.safe_page, hdigest.symm, ?_, hp.bytes⟩
    simp [manifestOf, hentry]

/-- STEP: under the manifest of a snapshot, one page verifies at each place, up to the order of
    keys. -/
theorem PageVerified.unique {p p' : ReplicationSnapshotPage} {i : ℕ}
    (hp : PageVerified rt (manifestOf rt s (pagesOf rt s)) i p)
    (hcf : Function.Injective rt.pageSha256) (hp' : (pagesOf rt s)[i]? = some p') :
    canonical p = canonical p' := by
  obtain ⟨-, -, -, hdigest⟩ := pagesOf_getElem? s hp'
  -- The manifest lists one digest for the place, so both pages carry it.
  have hlisted : p'.pageDigest = p.pageDigest := by
    simpa [manifestOf, hp'] using hp.listed
  have hunsigned := hcf (hp.digest.trans (hlisted.symm.trans hdigest))
  exact congrArg₂ ReplicationSnapshotPage.mk hunsigned hlisted.symm

/-- CORRECT: what is put together under the manifest of a snapshot are its pages, up to the order of
    keys, once they are parsed. -/
theorem assembled_pages (hcf : Function.Injective rt.pageSha256)
    (hs : verifySnapshot rt.toRuntime input = .ok s)
    (hwf : (manifestOf rt s (pagesOf rt s)).WellFormed)
    (hsafe : safe (manifestOf rt s (pagesOf rt s)).toUnsignedManifest = true)
    (h : assembleReplicationSnapshotPages rt (manifestOf rt s (pagesOf rt s)) qs = .ok t) :
    ((qs.map (·.trimmed)).map canonical).Perm ((pagesOf rt s).map canonical) := by
  rw [assemble_eq_ok (manifestOf_trimmed hs) hwf hsafe rfl (by simp [manifestOf])] at h
  obtain ⟨hlength, -, -, -, hpages, -⟩ := h
  have hperm := Pages.inOrder_perm (·.pageIndex) (qs.map (·.trimmed))
  refine (hperm.map canonical).symm.trans (.of_eq ?_)
  refine List.ext_getElem (by simp [hperm.length_eq, hlength, manifestOf]) fun i hi hi' => ?_
  rw [List.length_map] at hi hi'
  rw [List.getElem_map, List.getElem_map]
  have hp := hpages (_, i) (List.mk_mem_zipIdx_iff_getElem?.2 (List.getElem?_eq_getElem hi))
  exact hp.unique hcf (List.getElem?_eq_getElem hi')

/-! ### A snapshot with one conflict -/

/-- An item as the number of its kind and its value. -/
def ReplicationSnapshotPageItem.parts : ReplicationSnapshotPageItem → ℕ × Json
  | .acceptedFrontier value => (0, Encode.encode value)
  | .record value => (1, Encode.encode value)
  | .retiredIdentity value => (2, Encode.encode value)
  | .unresolvedConflict value => (3, Encode.encode value)

instance : Encode ReplicationSnapshotPageItem :=
  Encode.through ReplicationSnapshotPageItem.parts fun a b h => by
    cases a <;> cases b <;> simp_all [ReplicationSnapshotPageItem.parts]

instance : Encode UnsignedPage :=
  Encode.through (fun p => (p.snapshotDigest, p.pageIndex, p.pageCount, p.items))
    (by rintro ⟨⟩ ⟨⟩ h; simpa using h)

instance : Encode UnsignedManifest :=
  Encode.through (fun m => (m.workspaceId, m.authorityReplicaId, m.authorityEpoch,
    m.coveredSequence, m.projectionDigest, m.snapshotDigest, m.pageCount, m.pageDigests))
    (by rintro ⟨⟩ ⟨⟩ h; simpa using h)

/-- The ideal platform, with the pages themselves for the digests of pages. -/
def idealPaging : PagingRuntime where
  toRuntime := idealRuntime
  pageSha256 page := ⟨Encode.encode page⟩
  manifestSha256 manifest := ⟨Encode.encode manifest⟩
  pageBytes _ := 0

theorem idealPaging_collisionFree : idealPaging.CollisionFree where
  documents := idealRuntime_collisionFree
  pages := fun _ _ h => Encode.encode_injective (congrArg Digest.value h)

/-- A conflict that a principal left. -/
def plainConflict (principalId : String) : ReplicationConflict where
  id := 1
  workspaceId := "w"
  authoritySequence := 1
  replicaId := 2
  generationId := 3
  counter := 1
  operationDigest := ⟨.null⟩
  recordId := 7
  reason := .concurrentMutation
  baseSnapshot := none
  authoritySnapshot := none
  incomingSnapshot := none
  principalId := principalId
  recordedAt := 0
  resolvedByOperationDigest := none

def conflictedContent : UnsignedSnapshot where
  workspaceId := "w"
  authorityReplicaId := 2
  authorityEpoch := 3
  coveredSequence := 1
  projectionDigest := replicationProjectionDigest idealRuntime
  acceptedFrontiers := []
  records := []
  retiredIdentities := []
  unresolvedConflicts := [plainConflict "p"]

def conflictedSnapshot : ReplicationSnapshot :=
  { conflictedContent with snapshotDigest := idealRuntime.sha256 (.snapshot conflictedContent) }

theorem conflictedSnapshot_verified :
    verifySnapshot idealPaging.toRuntime conflictedSnapshot = .ok conflictedSnapshot := by
  obtain ⟨_, h, rfl⟩ : Ends (verifySnapshot idealPaging.toRuntime conflictedSnapshot)
      (· = conflictedSnapshot) := by decide +kernel
  exact h

theorem conflictedSnapshot_paged :
    paginateReplicationSnapshot idealPaging conflictedSnapshot =
      .ok (manifestOf idealPaging conflictedSnapshot (pagesOf idealPaging conflictedSnapshot),
        pagesOf idealPaging conflictedSnapshot) := by
  obtain ⟨_, h, rfl⟩ : Ends (paginateReplicationSnapshot idealPaging conflictedSnapshot)
      (· = (manifestOf idealPaging conflictedSnapshot (pagesOf idealPaging conflictedSnapshot),
        pagesOf idealPaging conflictedSnapshot)) := by decide +kernel
  exact h

/-- Its page, with white space around the name of the principal. -/
def paddedPages : List ReplicationSnapshotPage :=
  (pagesOf idealPaging conflictedSnapshot).map fun p =>
    { p with items := [.unresolvedConflict (plainConflict " p ")] }

/-- CORRECT: the pages of a verified snapshot make it again, in whatever order they come; and where
    digests do not collide, nothing but its pages is put together under its manifest, up to the white
    space that the parser trims and the order of keys. -/
theorem pages_make_snapshot (rt : PagingRuntime) (input s : ReplicationSnapshot)
    (m : ReplicationSnapshotManifest) (ps : List ReplicationSnapshotPage)
    (hs : verifySnapshot rt.toRuntime input = .ok s)
    (hp : paginateReplicationSnapshot rt input = .ok (m, ps)) :
    (∀ qs, qs.Perm ps → assembleReplicationSnapshotPages rt m qs = .ok s) ∧
      (rt.CollisionFree → ∀ qs,
        ¬ ((qs.map (·.trimmed)).map canonical).Perm (ps.map canonical) →
          ∀ t, assembleReplicationSnapshotPages rt m qs ≠ .ok t) := by
  obtain ⟨s', hs', rfl, hfit, rfl, hwf, hsafe⟩ := paginate_eq_ok hp
  obtain rfl : s = s' := Except.ok.inj (hs.symm.trans hs')
  refine ⟨fun qs hperm => assemble_perm hs hfit hwf hsafe hperm, fun hcf qs hforeign t h => ?_⟩
  exact hforeign (assembled_pages hcf.pages hs hwf hsafe h)

theorem pages_make_snapshot_conflicted :
    let ps := pagesOf idealPaging conflictedSnapshot
    let m := manifestOf idealPaging conflictedSnapshot ps
    (∀ qs, qs.Perm ps → assembleReplicationSnapshotPages idealPaging m qs = .ok conflictedSnapshot) ∧
      (idealPaging.CollisionFree → ∀ qs,
        ¬ ((qs.map (·.trimmed)).map canonical).Perm (ps.map canonical) →
          ∀ t, assembleReplicationSnapshotPages idealPaging m qs ≠ .ok t) :=
  pages_make_snapshot idealPaging conflictedSnapshot conflictedSnapshot _ _
    conflictedSnapshot_verified conflictedSnapshot_paged

/-- NOT SO: a page that was altered by white space around a name is put together, too. -/
theorem padded_page_accepted :
    let ps := pagesOf idealPaging conflictedSnapshot
    let m := manifestOf idealPaging conflictedSnapshot ps
    idealPaging.CollisionFree ∧
      verifySnapshot idealPaging.toRuntime conflictedSnapshot = .ok conflictedSnapshot ∧
      paginateReplicationSnapshot idealPaging conflictedSnapshot = .ok (m, ps) ∧
      ¬ paddedPages.Perm ps ∧
      assembleReplicationSnapshotPages idealPaging m paddedPages = .ok conflictedSnapshot := by
  obtain ⟨_, h, rfl⟩ : Ends (assembleReplicationSnapshotPages idealPaging
      (manifestOf idealPaging conflictedSnapshot (pagesOf idealPaging conflictedSnapshot))
      paddedPages) (· = conflictedSnapshot) := by decide +kernel
  exact ⟨idealPaging_collisionFree, conflictedSnapshot_verified, conflictedSnapshot_paged,
    by decide +kernel, h⟩

end Tasq
