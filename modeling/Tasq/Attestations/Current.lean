import Mathlib.Tactic
import Tasq.Attestations.Store

/-! What is current at a time, and what stays out. `listCurrentAttestations` drops the candidates
    whose window has closed before it collects the superseded ones. So a successor that expires
    takes its supersession with it, and the attestation before it is current again, unless that one
    has expired or is revoked as well (`superseded_stay_out_iff`).

    `Sound` is what issuing and revoking keep of the ledger: ids and successors are unique, and a
    successor is of the subject and the purpose of the one before it. -/

namespace Tasq.Attestations

open Text Outcome Rows Authority Run

/-! ### Windows -/

/-- The window of the attestation is open at `t`. -/
def Attestation.OpenAt (a : Attestation) (t : ℕ) : Prop :=
  a.notBefore ≤ t ∧ ∀ e ∈ a.expiresAt, t < e

instance (a : Attestation) (t : ℕ) : Decidable (a.OpenAt t) := by
  unfold Attestation.OpenAt; infer_instance

/-- `b` supersedes `a`. -/
def Attestation.Supersedes (b a : Attestation) : Prop :=
  b.workspaceId = a.workspaceId ∧ b.supersedesAttestationId = some a.id

instance (b a : Attestation) : Decidable (b.Supersedes a) := by
  unfold Attestation.Supersedes; infer_instance

namespace AttestationStore

variable {rt : AttestationRuntime} {s s' : AttestationStore} {a b : Attestation} {t : ℕ}

/-- At `t` a successor of `a` is valid. -/
def SupersededAt (s : AttestationStore) (a : Attestation) (t : ℕ) : Prop :=
  ∃ b ∈ s.attestations, b.Supersedes a ∧ b.OpenAt t

instance (s : AttestationStore) (a : Attestation) (t : ℕ) : Decidable (s.SupersededAt a t) := by
  unfold SupersededAt; infer_instance

/-- `a` is effectively revoked at `t`. -/
def RevokedAt (s : AttestationStore) (a : Attestation) (t : ℕ) : Prop :=
  ∃ r ∈ s.revocations, r.workspaceId = a.workspaceId ∧ r.attestationId = a.id ∧ r.effectiveAt ≤ t

instance (s : AttestationStore) (a : Attestation) (t : ℕ) : Decidable (s.RevokedAt a t) := by
  unfold RevokedAt; infer_instance

/-- At `t` the attestation is in no list of current attestations, and no eligibility rests on it. -/
def OutAt (rt : AttestationRuntime) (s : AttestationStore) (a : Attestation) (t : ℕ) : Prop :=
  (∀ workspaceId subject purpose current,
    s.listCurrentAttestations rt workspaceId subject t purpose = .ok current → a ∉ current) ∧
  ∀ workspaceId subject requirements decision,
    s.evaluateAttestationEligibility rt workspaceId subject requirements t = .ok decision →
      a.id ∉ decision.basisAttestationIds

/-- What was superseded by a valid successor, or revoked, stays out at every later time. -/
def StaysOut (rt : AttestationRuntime) (s : AttestationStore) : Prop :=
  ∀ a ∈ s.attestations, ∀ t₁ t₂, t₁ < t₂ → s.SupersededAt a t₁ ∨ s.RevokedAt a t₁ → s.OutAt rt a t₂

/-- No attestation outlives its successor: when the window of the successor closes, its own has
    closed too, or it is effectively revoked. -/
def NoneOutlives (s : AttestationStore) : Prop :=
  ∀ a ∈ s.attestations, ∀ b ∈ s.attestations, b.Supersedes a → ∀ e ∈ b.expiresAt,
    e ≤ Json.maxSafeInteger → (∃ e' ∈ a.expiresAt, e' ≤ e) ∨ s.RevokedAt a e

theorem RevokedAt.later {t' : ℕ} (h : s.RevokedAt a t) (hle : t ≤ t') : s.RevokedAt a t' := by
  obtain ⟨r, hr, hworkspace, hid, heffective⟩ := h
  exact ⟨r, hr, hworkspace, hid, heffective.trans hle⟩

/-! ### What the ledger keeps -/

/-- INVARIANT: what issuing and revoking keep. -/
structure Sound (rt : AttestationRuntime) (s : AttestationStore) : Prop where
  ids : (s.attestations.map fun a => a.id).Nodup
  subjects : ∀ a ∈ s.attestations, rt.IsSubject a.subject
  windows : ∀ a ∈ s.attestations, ∀ e ∈ a.expiresAt, a.notBefore < e
  /-- A successor continues an attestation of its workspace. -/
  continues : ∀ b ∈ s.attestations, ∀ id ∈ b.supersedesAttestationId, ∃ a ∈ s.attestations,
    a.id = id ∧ a.workspaceId = b.workspaceId ∧ a.subject = b.subject ∧ a.purpose = b.purpose ∧
      a.notBefore ≤ b.notBefore
  /-- An attestation has one successor at most. -/
  successors : ∀ b ∈ s.attestations, ∀ c ∈ s.attestations, b.supersedesAttestationId.isSome →
    b.workspaceId = c.workspaceId → b.supersedesAttestationId = c.supersedesAttestationId → b = c

theorem sound_empty : Sound rt empty := by
  constructor <;> simp [empty]

theorem Sound.of_attestations (hs : Sound rt s) (h : s'.attestations = s.attestations) :
    Sound rt s' := by
  constructor
  · rw [h]
    exact hs.ids
  · rw [h]
    exact hs.subjects
  · rw [h]
    exact hs.windows
  · rw [h]
    exact hs.continues
  · rw [h]
    exact hs.successors

theorem Sound.unique (hs : Sound rt s) (ha : a ∈ s.attestations) (hb : b ∈ s.attestations)
    (hid : a.id = b.id) : a = b :=
  List.inj_on_of_nodup_map hs.ids ha hb hid

/-- What a successor has in common with the attestation that it supersedes. -/
theorem Sound.supersedes (hs : Sound rt s) (ha : a ∈ s.attestations) (hb : b ∈ s.attestations)
    (h : b.Supersedes a) :
    a.subject = b.subject ∧ a.purpose = b.purpose ∧ a.notBefore ≤ b.notBefore := by
  obtain ⟨a', ha', hid, -, hsame⟩ := hs.continues b hb a.id h.2
  rw [hs.unique ha ha' hid.symm]
  exact hsame

/-- What the insertion of a row and the checks before it say of the row. -/
structure Joins (rt : AttestationRuntime) (s : AttestationStore) (a : Attestation) : Prop where
  id : ∀ b ∈ s.attestations, b.id ≠ a.id
  subject : rt.IsSubject a.subject
  window : ∀ e ∈ a.expiresAt, a.notBefore < e
  continues : ∀ id ∈ a.supersedesAttestationId, ∃ b ∈ s.attestations,
    b.id = id ∧ b.workspaceId = a.workspaceId ∧ b.subject = a.subject ∧ b.purpose = a.purpose ∧
      b.notBefore ≤ a.notBefore
  successor : ∀ b ∈ s.attestations, a.supersedesAttestationId.isSome →
    b.workspaceId = a.workspaceId → b.supersedesAttestationId ≠ a.supersedesAttestationId

/-- INSERT: a row that joins keeps the invariant. -/
theorem Sound.insert (hs : Sound rt s) (hrows : s'.attestations = s.attestations ++ [a])
    (h : Joins rt s a) : Sound rt s' := by
  have hmem : ∀ b, b ∈ s'.attestations ↔ b ∈ s.attestations ∨ b = a := by
    intro b
    rw [hrows, List.mem_append, List.mem_singleton]
  constructor
  · rw [hrows, List.map_append, List.map_singleton, List.nodup_append]
    refine ⟨hs.ids, List.nodup_singleton _, ?_⟩
    intro id hid id' hid' heq
    obtain ⟨b, hb, rfl⟩ := List.mem_map.1 hid
    exact h.id b hb (heq.trans (List.mem_singleton.1 hid'))
  · intro b hb
    rcases (hmem b).1 hb with hold | rfl
    · exact hs.subjects b hold
    · exact h.subject
  · intro b hb
    rcases (hmem b).1 hb with hold | rfl
    · exact hs.windows b hold
    · exact h.window
  · intro b hb id hid
    have hprior : ∃ p ∈ s.attestations, p.id = id ∧ p.workspaceId = b.workspaceId ∧
        p.subject = b.subject ∧ p.purpose = b.purpose ∧ p.notBefore ≤ b.notBefore := by
      rcases (hmem b).1 hb with hold | rfl
      · exact hs.continues b hold id hid
      · exact h.continues id hid
    obtain ⟨p, hp, hsame⟩ := hprior
    exact ⟨p, (hmem p).2 (.inl hp), hsame⟩
  · intro b hb c hc hsome hworkspace hlink
    rcases (hmem b).1 hb with hbold | rfl
    · rcases (hmem c).1 hc with hcold | rfl
      · exact hs.successors b hbold c hcold hsome hworkspace hlink
      · exact absurd hlink (h.successor b hbold (hlink ▸ hsome) hworkspace)
    · rcases (hmem c).1 hc with hcold | rfl
      · exact absurd hlink.symm (h.successor c hcold hsome hworkspace.symm)
      · rfl

theorem getAttestation_eq_some {id workspaceId : String}
    (h : s.getAttestation id workspaceId = some a) :
    a ∈ s.attestations ∧ a.workspaceId = workspaceId ∧ a.id = id := by
  refine ⟨List.mem_of_find?_eq_some h, ?_⟩
  simpa using List.find?_some h

/-- What the check of a succession finds of the one before. -/
theorem requireSuccession_eq_ok {workspaceId issuerPrincipalId : String} {input : IssueInput}
    {scope : List ScopeEntry} {notBefore : ℕ} {u : Unit}
    (h : s.requireSuccession workspaceId issuerPrincipalId input scope notBefore = .ok u) :
    ∀ id ∈ input.supersedesAttestationId, ∃ b ∈ s.attestations, b.id = id ∧
      b.workspaceId = workspaceId ∧ b.subject = input.subject ∧ b.purpose = input.purpose ∧
      b.notBefore ≤ notBefore := by
  unfold requireSuccession at h
  split at h
  · rename_i hnone
    simp [hnone]
  · rename_i id hid
    simp only [bind_eq_ok, demand_eq_ok, refuse_eq_ok, not_or, not_not, not_lt] at h
    obtain ⟨b, hb, -, ⟨-, hsubject, hpurpose, -⟩, hnotBefore⟩ := h
    obtain ⟨hmem, hworkspace, hbid⟩ := getAttestation_eq_some hb
    rw [hid]
    rintro _ ⟨⟩
    exact ⟨b, hmem, hbid, hworkspace, hsubject, hpurpose, hnotBefore⟩

/-- What the insertion of an attestation does. -/
theorem insertAttestation_eq_ok (h : s.insertAttestation a = .ok s') :
    ∃ row : Attestation, s'.attestations = s.attestations ++ [row] ∧
      s'.revocations = s.revocations ∧ row.toAttestationBody = { a.toAttestationBody with
        claim := row.claim, metadata := row.metadata } ∧
      (∀ b ∈ s.attestations, b.id ≠ a.id) ∧
      ∀ b ∈ s.attestations, a.supersedesAttestationId.isSome → b.workspaceId = a.workspaceId →
        b.supersedesAttestationId ≠ a.supersedesAttestationId := by
  simp only [insertAttestation, bind_eq_ok, refuse_eq_ok, insertRow_eq_ok, pure_eq_ok, not_or,
    not_and] at h
  obtain ⟨-, -, -, -, -, -, rows, ⟨hfree, rfl⟩, rfl⟩ := h
  refine ⟨_, rfl, rfl, rfl, fun b hb => (hfree b hb).1, ?_⟩
  intro b hb hsome hworkspace
  exact ((hfree b hb).2 hworkspace).2 hsome

/-- ISSUE: answers an earlier attestation, or adds one that joins. -/
theorem issueAttestation_joins {freshId : String} {input : IssueInput} {ctx : ServiceContext}
    (h : s.issueAttestation rt freshId input ctx = .ok (s', a)) :
    s'.revocations = s.revocations ∧ (s'.attestations = s.attestations ∨
      ∃ row, s'.attestations = s.attestations ++ [row] ∧ Joins rt s row) := by
  simp only [issueAttestation, bind_eq_ok, Prod.exists] at h
  obtain ⟨-, hinput, issuer, -, now, -, scope, -, retry, -, retries, prior, -, h⟩ := h
  split at h
  · simp only [bind_eq_ok, demand_eq_ok, pure_eq_ok, Prod.mk.injEq] at h
    obtain ⟨_, -, rfl, -⟩ := h
    exact ⟨rfl, .inl rfl⟩
  · simp only [bind_eq_ok, pure_eq_ok, Prod.mk.injEq] at h
    obtain ⟨_, hsuccession, _, hparse, s₁, hinsert, _, -, rfl, -⟩ := h
    obtain ⟨row, hrows, hrevocations, hbody, hid, hsuccessor⟩ := insertAttestation_eq_ok hinsert
    refine ⟨hrevocations, .inr ⟨row, hrows, ?_⟩⟩
    simp only [parseAttestation, bind_eq_ok, refuse_eq_ok, not_not] at hparse
    obtain ⟨-, hadmitted, -, hwindow, -⟩ := hparse
    have hlinks := requireSuccession_eq_ok hsuccession
    constructor
    · rw [hbody]
      exact hid
    · rw [hbody]
      exact hadmitted.2.2.2.1
    · rw [hbody]
      exact fun e he => not_le.1 fun hle => hwindow ⟨e, he, hle⟩
    · rw [hbody]
      exact hlinks
    · rw [hbody]
      exact hsuccessor

/-- REVOKE: leaves the attestations. -/
theorem revokeAttestation_attestations {freshId attestationId : String} {input : RevokeInput}
    {ctx : ServiceContext} {r : Revocation}
    (h : s.revokeAttestation rt freshId attestationId input ctx = .ok (s', r)) :
    s'.attestations = s.attestations := by
  simp only [revokeAttestation, bind_eq_ok, Prod.exists] at h
  obtain ⟨issuer, -, now, -, retry, -, retries, prior, -, h⟩ := h
  split at h
  · simp only [bind_eq_ok, demand_eq_ok, pure_eq_ok, Prod.mk.injEq] at h
    obtain ⟨_, -, rfl, -⟩ := h
    rfl
  · simp only [bind_eq_ok, pure_eq_ok, Prod.mk.injEq] at h
    obtain ⟨_, -, _, -, _, -, s₁, hinsert, _, -, rfl, -⟩ := h
    simp only [insertRevocation, bind_eq_ok, pure_eq_ok] at hinsert
    obtain ⟨-, -, -, -, -, -, _, -, rfl⟩ := hinsert
    rfl

/-- STEP: every action keeps the invariant. -/
theorem sound_step (s : AttestationStore) (action : AttestationAction) (hs : Sound rt s) :
    Sound rt (s.step rt action) := by
  cases action with
  | space id => exact hs.of_attestations rfl
  | principal id => exact hs.of_attestations rfl
  | issue freshId input ctx =>
    rw [step]
    cases h : s.issueAttestation rt freshId input ctx with
    | error e => exact hs
    | ok answer =>
      obtain ⟨s', a⟩ := answer
      rcases (issueAttestation_joins h).2 with hsame | ⟨row, hrows, hjoins⟩
      · exact hs.of_attestations hsame
      · exact hs.insert hrows hjoins
  | revoke freshId attestationId input ctx =>
    rw [step]
    cases h : s.revokeAttestation rt freshId attestationId input ctx with
    | error e => exact hs
    | ok answer =>
      obtain ⟨s', r⟩ := answer
      exact hs.of_attestations (revokeAttestation_attestations h)

/-- RUN: the invariant holds in every ledger that issuing and revoking produce. -/
theorem sound_run (actions : List AttestationAction) :
    Sound rt (run (step rt) empty actions) :=
  run_invariant' sound_step actions sound_empty

/-! ### What is current -/

/-- The attestation is a candidate. -/
def Candidate (s : AttestationStore) (workspaceId : String) (subject : Subject) (t : ℕ)
    (purpose : Option Purpose) (a : Attestation) : Prop :=
  a ∈ s.attestations ∧ a.workspaceId = workspaceId ∧ a.subject = subject ∧
    (∀ p ∈ purpose, a.purpose = p) ∧ a.OpenAt t

theorem subject_eq_iff (v w : Subject) :
    v = w ↔ v.typeUri = w.typeUri ∧ v.id = w.id ∧ v.digest = w.digest := by
  cases v
  cases w
  simp

theorem unexpired_iff : unexpired t a = true ↔ ∀ e ∈ a.expiresAt, t < e := by
  cases h : a.expiresAt <;> simp [unexpired, h]

theorem mem_candidates {workspaceId : String} {subject : Subject} {purpose : Option Purpose} :
    a ∈ s.candidates workspaceId subject t purpose ↔
      s.Candidate workspaceId subject t purpose a := by
  simp only [candidates, List.mem_filter, List.mem_mergeSort, decide_eq_true_eq, unexpired_iff,
    Candidate, Attestation.OpenAt, subject_eq_iff]
  constructor
  · rintro ⟨⟨⟨ha, hworkspace, htype, hid, hopen, hpurpose⟩, hdigest⟩, hexpires⟩
    exact ⟨ha, hworkspace, ⟨htype, hid, hdigest⟩, hpurpose, hopen, hexpires⟩
  · rintro ⟨ha, hworkspace, ⟨htype, hid, hdigest⟩, hpurpose, hopen, hexpires⟩
    exact ⟨⟨⟨ha, hworkspace, htype, hid, hopen, hpurpose⟩, hdigest⟩, hexpires⟩

/-- LIST: the current attestations are the candidates that no candidate supersedes and that are not
    effectively revoked. -/
theorem listCurrentAttestations_eq_ok {workspaceId : String} {subject : Subject}
    {purpose : Option Purpose} {current : List Attestation} :
    s.listCurrentAttestations rt workspaceId subject t purpose = .ok current →
      ∀ a, a ∈ current ↔ s.Candidate workspaceId subject t purpose a ∧
        (∀ b, s.Candidate workspaceId subject t purpose b →
          b.supersedesAttestationId ≠ some a.id) ∧ ¬ s.RevokedAt a t := by
  intro h a
  simp only [listCurrentAttestations, bind_eq_ok, refuse_eq_ok, pure_eq_ok, exists_const] at h
  obtain ⟨-, -, rfl⟩ := h
  simp only [List.mem_filter, mem_candidates, decide_eq_true_eq]
  constructor
  · rintro ⟨ha, hsuperseded, hrevoked⟩
    refine ⟨ha, ?_, ?_⟩
    · intro b hb hlink
      refine hsuperseded (List.mem_filterMap.2 ⟨b, mem_candidates.2 hb, ?_⟩)
      rw [hlink, Option.filter_some, if_pos]
      exact decide_eq_true (List.mem_map.2 ⟨a, mem_candidates.2 ha, rfl⟩)
    · rintro ⟨r, hr, hworkspace, hid, heffective⟩
      refine hrevoked (List.mem_map.2 ⟨r, List.mem_filter.2 ⟨hr, ?_⟩, hid⟩)
      exact decide_eq_true ⟨hworkspace.trans ha.2.1, heffective⟩
  · rintro ⟨ha, hsuperseded, hrevoked⟩
    refine ⟨ha, ?_, ?_⟩
    · intro hmem
      obtain ⟨b, hb, hlink⟩ := List.mem_filterMap.1 hmem
      rw [Option.filter_eq_some_iff] at hlink
      exact hsuperseded b (mem_candidates.1 hb) hlink.1
    · intro hmem
      obtain ⟨r, hr, hid⟩ := List.mem_map.1 hmem
      obtain ⟨hr, heffective⟩ := List.mem_filter.1 hr
      obtain ⟨hworkspace, heffective⟩ := of_decide_eq_true heffective
      exact hrevoked ⟨r, hr, hworkspace.trans ha.2.1.symm, hid, heffective⟩

/-! ### What an eligibility rests on -/

/-- STEP: a requirement adds an attestation that is current. -/
theorem examineRequirement_basis {workspaceId : String} {subject : Subject}
    {found found' : List String × List ℕ} {entry : Requirement × ℕ} {id : String}
    (h : s.examineRequirement rt workspaceId subject t found entry = .ok found')
    (hid : id ∈ found'.1) : id ∈ found.1 ∨ ∃ current a,
      s.listCurrentAttestations rt workspaceId subject t (some entry.1.purpose) = .ok current ∧
        a ∈ current ∧ a.id = id := by
  simp only [examineRequirement, bind_eq_ok] at h
  obtain ⟨current, hcurrent, h⟩ := h
  split at h
  · rename_i a hfind
    cases h
    dsimp only at hid
    split at hid
    · exact .inl hid
    rcases List.mem_append.1 hid with hold | hnew
    · exact .inl hold
    · exact .inr ⟨current, a, hcurrent, List.mem_of_find?_eq_some hfind,
        (List.mem_singleton.1 hnew).symm⟩
  · cases h
    exact .inl hid

/-- RUN: every basis of an eligibility is current. -/
theorem evaluateAttestationEligibility_basis {workspaceId : String} {subject : Subject}
    {requirements : List Requirement} {decision : EligibilityDecision} {id : String}
    (h : s.evaluateAttestationEligibility rt workspaceId subject requirements t = .ok decision)
    (hid : id ∈ decision.basisAttestationIds) : ∃ purpose current a,
      s.listCurrentAttestations rt workspaceId subject t purpose = .ok current ∧ a ∈ current ∧
        a.id = id := by
  simp only [evaluateAttestationEligibility, bind_eq_ok, Prod.exists, pure_eq_ok] at h
  obtain ⟨-, -, -, -, basis, unsatisfied, hfold, -, -, rfl⟩ := h
  refine foldlM_invariant _ (fun found => ∀ id ∈ found.1, ∃ purpose current a,
    s.listCurrentAttestations rt workspaceId subject t purpose = .ok current ∧ a ∈ current ∧
      a.id = id) _ ?_ (by simp) hfold id (List.mem_mergeSort.1 hid)
  intro found entry found' _ hfound hstep id hid
  rcases examineRequirement_basis hstep hid with hold | ⟨current, a, hcurrent⟩
  · exact hfound id hold
  · exact ⟨_, current, a, hcurrent⟩

/-- Who is not current is in no basis. -/
theorem Sound.out_iff (hs : Sound rt s) (ha : a ∈ s.attestations) :
    s.OutAt rt a t ↔ ∀ workspaceId subject purpose current,
      s.listCurrentAttestations rt workspaceId subject t purpose = .ok current → a ∉ current := by
  refine ⟨And.left, fun h => ⟨h, ?_⟩⟩
  intro workspaceId subject requirements decision hdecision hid
  obtain ⟨purpose, current, b, hcurrent, hb, hbid⟩ :=
    evaluateAttestationEligibility_basis hdecision hid
  have hcandidate := ((listCurrentAttestations_eq_ok hcurrent b).1 hb).1
  obtain rfl := hs.unique hcandidate.1 ha hbid
  exact h workspaceId subject purpose current hcurrent hb

/-! ### What stays out -/

/-- While the window of the successor is open, the one before it is not current. -/
theorem Sound.superseded_out (hs : Sound rt s) (ha : a ∈ s.attestations) (hb : b ∈ s.attestations)
    (hlink : b.Supersedes a) (hopen : b.OpenAt t) : s.OutAt rt a t := by
  rw [hs.out_iff ha]
  intro workspaceId subject purpose current hcurrent hmem
  obtain ⟨⟨-, hworkspace, hsubject, hpurpose, -⟩, hnone, -⟩ :=
    (listCurrentAttestations_eq_ok hcurrent a).1 hmem
  obtain ⟨hsameSubject, hsamePurpose, -⟩ := hs.supersedes ha hb hlink
  refine hnone b ⟨hb, hlink.1.trans hworkspace, hsameSubject ▸ hsubject, ?_, hopen⟩ hlink.2
  intro p hp
  exact hsamePurpose ▸ hpurpose p hp

theorem Sound.revoked_out (hs : Sound rt s) (ha : a ∈ s.attestations) (h : s.RevokedAt a t) :
    s.OutAt rt a t := by
  rw [hs.out_iff ha]
  intro workspaceId subject purpose current hcurrent hmem
  exact ((listCurrentAttestations_eq_ok hcurrent a).1 hmem).2.2 h

theorem Sound.expired_out (hs : Sound rt s) (ha : a ∈ s.attestations) {e : ℕ}
    (he : e ∈ a.expiresAt) (hle : e ≤ t) : s.OutAt rt a t := by
  rw [hs.out_iff ha]
  intro workspaceId subject purpose current hcurrent hmem
  have hopen := ((listCurrentAttestations_eq_ok hcurrent a).1 hmem).1.2.2.2.2
  exact absurd (hopen.2 e he) (not_lt.2 hle)

/-- What is open at a time, without an open successor and not revoked, is current. -/
theorem Sound.current (hs : Sound rt s) (ha : a ∈ s.attestations) (hopen : a.OpenAt t)
    (hsafe : t ≤ Json.maxSafeInteger) (hsuperseded : ¬ s.SupersededAt a t)
    (hrevoked : ¬ s.RevokedAt a t) : ¬ s.OutAt rt a t := by
  rw [hs.out_iff ha]
  intro h
  obtain ⟨current, hcurrent⟩ : ∃ current,
      s.listCurrentAttestations rt a.workspaceId a.subject t none = .ok current := by
    simp only [listCurrentAttestations, bind_eq_ok, refuse_eq_ok, pure_eq_ok, exists_const]
    exact ⟨_, not_not.2 (hs.subjects a ha), not_lt.2 hsafe, rfl⟩
  refine h _ _ _ _ hcurrent ((listCurrentAttestations_eq_ok hcurrent a).2 ⟨?_, ?_, hrevoked⟩)
  · exact ⟨ha, rfl, rfl, by simp, hopen⟩
  · intro b hb hlink
    exact hsuperseded ⟨b, hb.1, ⟨hb.2.1, hlink⟩, hb.2.2.2.2⟩

/-- EXACT: in a sound ledger the superseded and the revoked stay out exactly when no attestation
    outlives its successor. -/
theorem Sound.staysOut_iff (hs : Sound rt s) : StaysOut rt s ↔ s.NoneOutlives := by
  constructor
  · intro h a ha b hb hlink e he hsafe
    by_contra hnot
    obtain ⟨hexpires, hrevoked⟩ := not_or.1 hnot
    have hwindow : b.notBefore < e := hs.windows b hb e he
    obtain ⟨-, -, hstart⟩ := hs.supersedes ha hb hlink
    -- the successor is valid from its first moment until `e`
    have hsuperseded : s.SupersededAt a b.notBefore := by
      refine ⟨b, hb, hlink, le_rfl, ?_⟩
      intro e' he'
      rwa [Option.mem_unique he' he]
    have hopen : a.OpenAt e := by
      refine ⟨by omega, ?_⟩
      intro e' he'
      exact not_le.1 fun hle => hexpires ⟨e', he', hle⟩
    have hclosed : ¬ s.SupersededAt a e := by
      rintro ⟨c, hc, hclink, -, hcopen⟩
      have hsame : c = b :=
        hs.successors c hc b hb (by simp [hclink.2]) (hclink.1.trans hlink.1.symm)
          (hclink.2.trans hlink.2.symm)
      exact absurd (hcopen e (hsame ▸ he)) (lt_irrefl e)
    exact hs.current ha hopen hsafe hclosed hrevoked
      (h a ha b.notBefore e hwindow (.inl hsuperseded))
  · intro h a ha t₁ t₂ hlt hat
    rcases hat with ⟨b, hb, hlink, hstart, hends⟩ | hrevoked
    · by_cases hexpired : ∃ e ∈ b.expiresAt, e ≤ t₂
      · obtain ⟨e, he, hle⟩ := hexpired
        by_cases hsafe : t₂ ≤ Json.maxSafeInteger
        · rcases h a ha b hb hlink e he (hle.trans hsafe) with ⟨e', he', hle'⟩ | hrevoked
          · exact hs.expired_out ha he' (hle'.trans hle)
          · exact hs.revoked_out ha (hrevoked.later hle)
        · rw [hs.out_iff ha]
          -- a time that is no safe integer is refused
          intro workspaceId subject purpose current hcurrent
          simp only [listCurrentAttestations, bind_eq_ok, refuse_eq_ok] at hcurrent
          obtain ⟨-, -, -, hle', -⟩ := hcurrent
          exact absurd (not_lt.1 hle') hsafe
      · refine hs.superseded_out ha hb hlink ⟨by omega, ?_⟩
        intro e he
        exact not_le.1 fun hle => hexpired ⟨e, he, hle⟩
    · exact hs.revoked_out ha (hrevoked.later hlt.le)

/-- EXACT: in every ledger that issuing and revoking produce, what was superseded by a valid
    successor, or revoked, stays out exactly when no attestation outlives its successor. -/
theorem superseded_stay_out_iff (rt : AttestationRuntime) (actions : List AttestationAction) :
    StaysOut rt (run (step rt) empty actions) ↔ (run (step rt) empty actions).NoneOutlives :=
  (sound_run actions).staysOut_iff

/-- A platform that digests nothing together, admits every URI and compares entries by text. -/
def plainAttestations : AttestationRuntime where
  digest
    | .attestation body => ⟨.arr [.str "attestation", .str body.id]⟩
    | .claim value => ⟨.arr [.str "claim", value.value]⟩
    | .revocation body => ⟨.arr [.str "revocation", .str body.id]⟩
    | .issue issuer input => ⟨.arr [.str "issue", .str issuer, .str (input.id.getD "")]⟩
    | .revoke id revoker _ => ⟨.arr [.str "revoke", .str id, .str revoker]⟩
  url _ := true
  compareEntries a b := compare (utf16 a.value) (utf16 b.value)

/-- A context of `issuer`, at a time. -/
def issuerContext (now : ℕ) : ServiceContext :=
  { tenantId := some "w", actor := "system", principalId := some "issuer", idempotencyKey := none,
    now }

/-- A plain attestation of one subject. -/
def plainIssue (id : String) (notBefore : ℕ) (expiresAt : Option ℕ) (supersedes : Option String) :
    IssueInput :=
  { id := some id, subject := ⟨"urn:subject", "machine", none⟩, purpose := ⟨"urn:purpose", 1⟩,
    scope := [], claim := ⟨"urn:claim", 1, .bool true⟩, evidence := [],
    notBefore := some notBefore, expiresAt, supersedesAttestationId := supersedes,
    metadata := ⟨[]⟩ }

/-- An attestation without an end, and a successor of it for the time from 100 to 200. -/
def successorExpires : List AttestationAction :=
  [.space "w", .principal "issuer", .issue "r1" (plainIssue "first" 0 none none) (issuerContext 0),
    .issue "r2" (plainIssue "second" 100 (some 200) (some "first")) (issuerContext 100)]

/-- NOT SO: at 150 the successor is valid and the first attestation is superseded; at 300 the
    successor has expired, and the first attestation is current again. -/
theorem superseded_comes_back :
    ¬ StaysOut plainAttestations (run (step plainAttestations) empty successorExpires) := by
  intro h
  obtain ⟨a, ha, hbefore, hopen, hclosed, hrevoked⟩ : ∃ a ∈ (run (step plainAttestations) empty
      successorExpires).attestations,
        (run (step plainAttestations) empty successorExpires).SupersededAt a 150 ∧ a.OpenAt 300 ∧
        ¬ (run (step plainAttestations) empty successorExpires).SupersededAt a 300 ∧
        ¬ (run (step plainAttestations) empty successorExpires).RevokedAt a 300 := by
    decide +kernel
  exact (sound_run successorExpires).current ha hopen (by decide) hclosed hrevoked
    (h a ha 150 300 (by omega) (.inl hbefore))

end AttestationStore

end Tasq.Attestations
