import Mathlib.Tactic
import Tasq.Authority.Ideal
import Tasq.Authority.Keyed
import Tasq.Authority.Monotone

/-! Enrollments are single use: a token yields at most one credential, only while its enrollment,
    principal, binding and workspace are live, and what the verifier says of a credential is what
    its enrollment says. -/

namespace Tasq.Authority

open Text Outcome Rows

/-- The credential was issued for the enrollment, which it consumed. -/
structure AccessCredentialRecord.IssuedFor (c : AccessCredentialRecord) (e : EnrollmentRecord) :
    Prop where
  enrollment : c.enrollmentId = e.id
  workspace : c.workspaceId = e.workspaceId
  principal : c.principalId = e.principalId
  issuer : c.issuer = e.issuer
  subject : c.subject = e.subject
  clientKind : c.clientKind = e.clientKind
  actions : c.actionUpperBound = e.actionUpperBound
  expires : c.expiresAt = e.accessExpiresAt
  consumed : e.consumedAt = some c.issuedAt

namespace AuthorityStore

/-- The workspace, the principal or the binding of an enrollment is disabled. -/
def Disabled (s : AuthorityStore) (e : EnrollmentRecord) : Prop :=
  (∃ w ∈ s.workspaces, w.workspaceId = e.workspaceId ∧ w.status = .disabled) ∨
    (∃ p ∈ s.principals, p.workspaceId = e.workspaceId ∧ p.id = e.principalId ∧
      p.status = .disabled) ∨
    ∃ b ∈ s.bindings, b.workspaceId = e.workspaceId ∧ b.issuer = e.issuer ∧
      b.subject = e.subject ∧ b.status = .disabled

/-- The enrollment is revoked, expired, consumed or disabled. -/
def Barred (s : AuthorityStore) (e : EnrollmentRecord) (now : ℕ) : Prop :=
  e.revokedAt ≠ none ∨ e.consumedAt ≠ none ∨ e.expiresAt ≤ now ∨ e.accessExpiresAt ≤ now ∨
    s.Disabled e

/-- What the tables know of the credentials. -/
structure Issued (rows : AuthorityRows) : Prop where
  issued : ∀ c ∈ rows.credentials, ∃ e ∈ rows.enrollments, c.IssuedFor e
  once : (rows.credentials.map AccessCredentialRecord.enrollmentId).Nodup
  active : ∀ c ∈ rows.credentials, c.status = .active → c.revokedAt = none

variable {rt : AuthorityRuntime} {s s' : AuthorityStore} {input : Redemption} {now : ℕ}
  {e : EnrollmentRecord} {credential : AccessCredentialRecord}

/-! ### What a redemption needs -/

/-- Rows that share a key with an enabled one are enabled. -/
theorem enabled_of_nodup {α κ : Type} [DecidableEq κ] {rows : List α} {key : α → κ}
    {status : α → EnabledStatus} (hkeys : (rows.map key).Nodup) {a b : α} (ha : a ∈ rows)
    (hb : b ∈ rows) (hkey : key a = key b) (henabled : status a = .enabled) :
    status b ≠ .disabled := by
  rw [← List.inj_on_of_nodup_map hkeys ha hb hkey, henabled]
  simp

/-- What is live is not disabled. -/
theorem EnrollmentLive.not_disabled (hs : s.Keyed) (h : s.EnrollmentLive e) : ¬ s.Disabled e := by
  obtain ⟨⟨w, hw, hwid, hwstatus⟩, ⟨p, hp, hpworkspace, hpid, hpstatus⟩,
    ⟨b, hb, hbworkspace, -, hbissuer, hbsubject, hbstatus⟩⟩ := h
  rintro (⟨v, hv, hvid, hvstatus⟩ | ⟨q, hq, hqworkspace, hqid, hqstatus⟩ |
    ⟨c, hc, hcworkspace, hcissuer, hcsubject, hcstatus⟩)
  · exact enabled_of_nodup hs.workspaces hw hv (hwid.trans hvid.symm) hwstatus hvstatus
  · exact enabled_of_nodup hs.principals hp hq
      (by rw [hpworkspace, hpid, hqworkspace, hqid]) hpstatus hqstatus
  · exact enabled_of_nodup hs.subjects hb hc
      (by rw [hbworkspace, hbissuer, hbsubject, hcworkspace, hcissuer, hcsubject]) hbstatus hcstatus

/-- The row that a redemption finds. -/
theorem Redeems.found_iff (h : s.Redeems rt input now e) :
    e ∈ s.enrollments ∧ s.EnrollmentLive e ∧ e.workspaceId = input.workspaceId ∧
      e.tokenDigest = input.enrollmentTokenDigest := by
  have hfound := List.find?_some h.found
  simp only [decide_eq_true_eq] at hfound
  exact ⟨List.mem_of_find?_eq_some h.found, hfound⟩

/-- A redemption spends the enrollment of its token, which nothing bars. -/
theorem Redeems.not_barred (hs : s.Keyed) (h : s.Redeems rt input now e) {f : EnrollmentRecord}
    (hf : f ∈ s.enrollments) (htoken : f.tokenDigest = input.enrollmentTokenDigest) :
    f = e ∧ ¬ s.Barred f now := by
  obtain ⟨hmem, hlive, -, hdigest⟩ := h.found_iff
  obtain rfl : f = e := List.inj_on_of_nodup_map hs.tokens hf hmem (htoken.trans hdigest.symm)
  refine ⟨rfl, ?_⟩
  rintro (hrevoked | hconsumed | hexpired | haccess | hdisabled)
  · exact hrevoked h.revoked
  · exact hconsumed h.consumed
  · exact absurd h.expires (not_lt.2 hexpired)
  · exact absurd h.accessExpires (not_lt.2 haccess)
  · exact hlive.not_disabled hs hdisabled

/-! ### INVARIANT: credentials -/

theorem issued_of_nil {rows : AuthorityRows} (h : rows.credentials = []) : Issued rows :=
  ⟨by simp [h], by simp [h], by simp [h]⟩

/-- A spent enrollment was spent before, or is the one that is spent now. -/
theorem issuedFor_spent {c : AccessCredentialRecord} {f : EnrollmentRecord} (h : c.IssuedFor f) :
    c.IssuedFor (spent e now f) := by
  have hconsumed : f.consumedAt ≠ none := by simp [h.consumed]
  rwa [spent, if_neg fun hf => hconsumed hf.2.1]

/-- STEP: a write of a mutation keeps every credential tied to its enrollment. -/
theorem issued_write {m : Mutation} {rows rows' : AuthorityRows}
    (h : AuthorityRows.Write rt m now rows rows') (hrows : Issued rows) : Issued rows' := by
  obtain ⟨hissued, honce, hactive⟩ := hrows
  cases h with
  | createEnrollment e enrollments _ h =>
    obtain ⟨-, rfl⟩ := insertRow_eq_ok.1 h
    refine ⟨fun c hc => ?_, honce, hactive⟩
    obtain ⟨f, hf, hfor⟩ := hissued c hc
    exact ⟨f, List.mem_append_left _ hf, hfor⟩
  | revokeEnrollment workspaceId id enrollments _ h =>
    refine ⟨fun c hc => ?_, honce, hactive⟩
    obtain ⟨f, hf, hfor⟩ := hissued c hc
    refine ⟨f, mem_updateRow_of_not h hf ?_, hfor⟩
    rintro ⟨-, -, hconsumed, -⟩
    simp [hfor.consumed] at hconsumed
  | revokeAccessCredential workspaceId id n credentials _ h =>
    refine ⟨fun c hc => ?_, updateRow_nodup honce h fun _ => rfl, fun c hc => ?_⟩
    · rcases mem_updateRow h hc with ⟨hc, -⟩ | ⟨old, hold, -, rfl⟩
      · exact hissued c hc
      · obtain ⟨f, hf, hfor⟩ := hissued old hold
        exact ⟨f, hf, { hfor with }⟩
    · rcases mem_updateRow h hc with ⟨hc, -⟩ | ⟨old, hold, -, rfl⟩
      · exact hactive c hc
      · simp
  | _ => exact ⟨hissued, honce, hactive⟩

/-- STEP: a redemption issues the credential of the enrollment that it spends. -/
theorem Redeems.issued (h : s.Redeems rt input now e) (hs : Issued s.toAuthorityRows) {audit} :
    Issued ({ s with
      enrollments := s.enrollments.map (spent e now)
      credentials := s.credentials ++ [credentialFor e input now]
      audit } : AuthorityStore).toAuthorityRows := by
  have hspent : spent e now e = { e with consumedAt := some now } := by
    rw [spent, if_pos ⟨rfl, h.consumed, h.revoked⟩]
  refine ⟨fun c hc => ?_, ?_, fun c hc => ?_⟩
  · rcases List.mem_append.1 hc with hc | hc
    · obtain ⟨f, hf, hfor⟩ := hs.issued c hc
      exact ⟨spent e now f, List.mem_map_of_mem hf, issuedFor_spent hfor⟩
    · obtain rfl := List.mem_singleton.1 hc
      refine ⟨spent e now e, List.mem_map_of_mem h.found_iff.1, ?_⟩
      rw [hspent]
      exact ⟨rfl, rfl, rfl, rfl, rfl, rfl, rfl, rfl, rfl⟩
  · rw [List.map_append, List.nodup_append]
    refine ⟨hs.once, by simp, ?_⟩
    intro id hid id' hid' heq
    obtain ⟨c, hc, rfl⟩ := List.mem_map.1 hid
    rw [List.map_singleton, List.mem_singleton] at hid'
    exact h.fresh c hc (.inr (.inl (heq.trans hid')))
  · rcases List.mem_append.1 hc with hc | hc
    · exact hs.active c hc
    · obtain rfl := List.mem_singleton.1 hc
      exact fun _ => rfl

/-- STEP: every call keeps every credential tied to its enrollment. -/
theorem issued_step (action : AuthorityAction) (hs : Issued s.toAuthorityRows) :
    Issued (step rt s action).toAuthorityRows := by
  refine step_rule (I := fun s : AuthorityStore => Issued s.toAuthorityRows) action hs
    ?_ ?_ ?_ ?_ ?_
  · intro m context now m' apply w rows _ hhands _ hcommits
    exact (hhands.writes hcommits.apply).invariant (fun _ _ h => issued_write h) hs
  · intro tenants row operation _ _ _
    exact hs
  · intro w row operation _ _ _ _ _ _
    exact hs
  · intro input now e row _ hredeems _ _
    exact hredeems.issued hs
  · intro input now fails workspace request decision _ _ _ _
    exact hs

/-- RUN: every credential of a run is tied to its enrollment. -/
theorem issued_run (actions : List AuthorityAction) (hs : Issued s.toAuthorityRows) :
    Issued (s.run rt actions).toAuthorityRows :=
  Run.run_invariant' (I := fun s : AuthorityStore => Issued s.toAuthorityRows)
    (fun _ action hs => issued_step action hs) actions hs

/-! ### INVARIANT: spent tokens -/

/-- The token was spent: its enrollment is consumed. -/
def Spent (s : AuthorityStore) (tokenDigest : Digest) : Prop :=
  ∃ e ∈ s.enrollments, e.tokenDigest = tokenDigest ∧ e.consumedAt ≠ none

/-- STEP: what is spent stays spent. -/
theorem spent_step {d : Digest} (action : AuthorityAction) (hs : s.Spent d) :
    (step rt s action).Spent d := by
  refine step_rule (I := fun s : AuthorityStore => s.Spent d) action hs ?_ ?_ ?_ ?_ ?_
  · intro m context now m' apply w rows _ hhands _ hcommits
    refine (hhands.writes hcommits.apply).invariant
      (I := fun rows => ∃ e ∈ rows.enrollments, e.tokenDigest = d ∧ e.consumedAt ≠ none) ?_ hs
    rintro rows rows' h ⟨e, he, htoken, hconsumed⟩
    cases h with
    | createEnrollment f enrollments _ h =>
      obtain ⟨-, rfl⟩ := insertRow_eq_ok.1 h
      exact ⟨e, List.mem_append_left _ he, htoken, hconsumed⟩
    | revokeEnrollment workspaceId id enrollments _ h =>
      exact ⟨e, mem_updateRow_of_not h he fun hp => hconsumed hp.2.2.1, htoken, hconsumed⟩
    | _ => exact ⟨e, he, htoken, hconsumed⟩
  · intro tenants row operation _ _ _
    exact hs
  · intro w row operation _ _ _ _ _ _
    exact hs
  · rintro input now f row _ _ _ _
    obtain ⟨e, he, htoken, hconsumed⟩ := hs
    refine ⟨spent f now e, List.mem_map_of_mem he, by rw [spent_tokenDigest, htoken], ?_⟩
    rwa [spent, if_neg fun hp => hconsumed hp.2.1]
  · intro input now fails workspace request decision _ _ _ _
    exact hs

/-- A redemption spends its token. -/
theorem spent_of_redeem (h : s.redeemEnrollment rt input now = .ok (s', credential)) :
    s'.Spent input.enrollmentTokenDigest := by
  obtain ⟨e, row, hredeems, -, -, -, rfl⟩ := redeemEnrollment_eq_ok h
  obtain ⟨hmem, -, -, htoken⟩ := hredeems.found_iff
  refine ⟨spent e now e, List.mem_map_of_mem hmem, by rw [spent_tokenDigest, htoken], ?_⟩
  rw [spent, if_pos ⟨rfl, hredeems.consumed, hredeems.revoked⟩]
  simp

/-- A spent token is never redeemed. -/
theorem Spent.refused (hs : s.Keyed) (hspent : s.Spent input.enrollmentTokenDigest)
    (h : s.redeemEnrollment rt input now = .ok (s', credential)) : False := by
  obtain ⟨e, row, hredeems, -, -, -, -⟩ := redeemEnrollment_eq_ok h
  obtain ⟨f, hf, htoken, hconsumed⟩ := hspent
  exact (hredeems.not_barred hs hf htoken).2 (.inr (.inl hconsumed))

/-! ### CORRECT: enrollments are single use -/

theorem verify_eq_ok {remote : RemoteEnrollmentAuthority rt} {authorization audience : String}
    {identity : VerifiedIdentity} (h : remote.verify s authorization audience now = .ok identity) :
    ∃ token, bearerToken authorization = some token ∧ audience = remote.audience ∧
      ∃ c ∈ s.credentials, c.tokenDigest = rt.secretDigest token ∧ c.status = .active ∧
        now < c.expiresAt ∧ identity = remote.identity c := by
  simp only [RemoteEnrollmentAuthority.verify, bind_eq_ok, demand_eq_ok, refuse_eq_ok, pure_eq_ok,
    exists_const, not_not, not_or, not_le, ne_eq] at h
  obtain ⟨token, htoken, haudience, -, -, found, hfind, c, rfl, ⟨hactive, hexpires⟩, -, rfl⟩ := h
  refine ⟨token, htoken, haudience, c, ?_⟩
  unfold findAccessCredential at hfind
  split at hfind
  · simp at hfind
  · rename_i c' hc'
    simp only [bind_eq_ok, refuse_eq_ok, pure_eq_ok, exists_const, Option.some.injEq] at hfind
    obtain ⟨-, rfl⟩ := hfind
    exact ⟨List.mem_of_find?_eq_some hc', by simpa using List.find?_some hc', hactive, hexpires,
      rfl⟩

/-- Redeeming remotely is redeeming the digest of the token. -/
theorem redeem_eq_ok {workspaceId token randomId secret auditId : String}
    {redeemed : RedeemedRemoteEnrollment}
    (h : RemoteEnrollmentAuthority.redeem rt s workspaceId token randomId secret auditId now =
      .ok (s', redeemed)) :
    ∃ input credential, input.enrollmentTokenDigest = rt.secretDigest token ∧
      s.redeemEnrollment rt input now = .ok (s', credential) := by
  simp only [RemoteEnrollmentAuthority.redeem, bind_eq_ok, refuse_eq_ok, pure_eq_ok, exists_const,
    Prod.mk.injEq] at h
  obtain ⟨-, -, -, -, -, ⟨t, credential⟩, hredeem, rfl, -⟩ := h
  exact ⟨_, credential, rfl, hredeem⟩

/-- CORRECT: in every run from a store whose credentials are tied to their enrollments, such as a
    store that has none yet (`issued_of_nil`), a token that was redeemed is never redeemed again; a
    redemption issues the credential of the enrollment of its token, which nothing bars; and a
    verified identity is that of a live credential and says what the enrollment of the credential
    says. -/
theorem enrollment_single_use {s₀ : AuthorityStore} (hkeys : s₀.Keyed)
    (hcredentials : Issued s₀.toAuthorityRows) (actions : List AuthorityAction) :
    let s := s₀.run rt actions
    (∀ input now s' credential, s.redeemEnrollment rt input now = .ok (s', credential) →
      (∀ later input₂ now₂ outcome, input₂.enrollmentTokenDigest = input.enrollmentTokenDigest →
        (s'.run rt later).redeemEnrollment rt input₂ now₂ ≠ .ok outcome) ∧
      ∃ e ∈ s.enrollments, e.tokenDigest = input.enrollmentTokenDigest ∧ credential.IssuedFor
        { e with consumedAt := some now } ∧ credential ∈ s'.credentials) ∧
    (∀ workspaceId token randomId secret auditId now s' redeemed,
      RemoteEnrollmentAuthority.redeem rt s workspaceId token randomId secret auditId now =
        .ok (s', redeemed) →
      ∀ later workspaceId₂ randomId₂ secret₂ auditId₂ now₂ outcome,
        RemoteEnrollmentAuthority.redeem rt (s'.run rt later) workspaceId₂ token randomId₂ secret₂
          auditId₂ now₂ ≠ .ok outcome) ∧
    (∀ e ∈ s.enrollments, ∀ now, s.Barred e now → ∀ input outcome,
      input.enrollmentTokenDigest = e.tokenDigest →
        s.redeemEnrollment rt input now ≠ .ok outcome) ∧
    ∀ (remote : RemoteEnrollmentAuthority rt) authorization audience now identity,
      remote.verify s authorization audience now = .ok identity →
      ∃ c ∈ s.credentials, ∃ e ∈ s.enrollments, c.IssuedFor e ∧
        identity.clientId = some c.id ∧ identity.tokenIdDigest = some c.tokenDigest ∧
        c.status = .active ∧ c.revokedAt = none ∧ now < c.expiresAt ∧
        identity.subject = e.subject ∧ identity.actionUpperBound = e.actionUpperBound ∧
        identity.expiresAt = e.accessExpiresAt := by
  intro s
  have hs : s.Keyed := keyed_run actions hkeys
  have hissued : Issued s.toAuthorityRows := issued_run actions hcredentials
  have hagain : ∀ input now s' credential,
      s.redeemEnrollment rt input now = .ok (s', credential) → s'.Keyed := by
    intro input now s' credential h
    have hstep : step rt s (.redeem input now) = s' := by simp [step, h, settle, Functor.map,
      Except.map]
    exact hstep ▸ keyed_step _ hs
  have honce : ∀ input now s' credential,
      s.redeemEnrollment rt input now = .ok (s', credential) →
      ∀ later input₂ now₂ outcome, input₂.enrollmentTokenDigest = input.enrollmentTokenDigest →
        (s'.run rt later).redeemEnrollment rt input₂ now₂ ≠ .ok outcome := by
    intro input now s' credential h later input₂ now₂ outcome htoken h₂
    have hspent : (s'.run rt later).Spent input.enrollmentTokenDigest :=
      Run.run_invariant' (I := fun t : AuthorityStore => t.Spent input.enrollmentTokenDigest)
        (fun _ action h => spent_step action h) later (spent_of_redeem h)
    rw [← htoken] at hspent
    exact hspent.refused (keyed_run later (hagain input now s' credential h)) h₂
  refine ⟨fun input now s' credential h => ⟨honce input now s' credential h, ?_⟩, ?_, ?_, ?_⟩
  · obtain ⟨e, row, hredeems, rfl, -, -, rfl⟩ := redeemEnrollment_eq_ok h
    obtain ⟨hmem, -, -, htoken⟩ := hredeems.found_iff
    exact ⟨e, hmem, htoken, ⟨rfl, rfl, rfl, rfl, rfl, rfl, rfl, rfl, rfl⟩, by simp⟩
  · rintro workspaceId token randomId secret auditId now s' redeemed h later workspaceId₂ randomId₂
      secret₂ auditId₂ now₂ ⟨t, redeemed₂⟩ h₂
    obtain ⟨input, credential, htoken, h⟩ := redeem_eq_ok h
    obtain ⟨input₂, credential₂, htoken₂, h₂⟩ := redeem_eq_ok h₂
    exact honce input now s' credential h later input₂ now₂ _ (htoken₂.trans htoken.symm) h₂
  · rintro e he now hbarred input ⟨t, credential⟩ htoken h
    obtain ⟨f, row, hredeems, -, -, -, -⟩ := redeemEnrollment_eq_ok h
    exact (hredeems.not_barred hs he htoken.symm).2 hbarred
  · intro remote authorization audience now identity h
    obtain ⟨token, -, -, c, hc, htoken, hactive, hexpires, rfl⟩ := verify_eq_ok h
    obtain ⟨e, he, hfor⟩ := hissued.issued c hc
    exact ⟨c, hc, e, he, hfor, rfl, rfl, hactive, hissued.active c hc hactive, hexpires,
      hfor.subject, hfor.actions, hfor.expires⟩

/-- An enrollment of the service of the founded workspace. -/
def newEnrollment : EnrollmentRecord where
  id := "e"
  workspaceId := "w"
  principalId := "p"
  issuer := "https://i.example/"
  subject := "sp"
  clientKind := .workloadAgent
  tokenDigest := idealAuthority.secretDigest "token"
  actionUpperBound := (idealAuthority.actionRegistry.head?.map ActionDefinition.identity).toList
  createdAt := 1
  expiresAt := 5
  accessExpiresAt := 9
  consumedAt := none
  revokedAt := none

/-- The service is bound, and its enrollment created. -/
def enrolling : List AuthorityAction :=
  founding ++
  [.mutate (.bindSubject (AuthorityRuntime.plainBound "p" .service 1).binding)
     (expecting "op:b" (some 2) none) 1,
   .mutate (.createEnrollment newEnrollment) (expecting "op:e" (some 3) none) 1]

/-- The redemption of the enrollment for the credential `id`. -/
def redemption (id : String) : Redemption where
  workspaceId := "w"
  enrollmentTokenDigest := idealAuthority.secretDigest "token"
  credentialId := id
  credentialTokenDigest := idealAuthority.secretDigest id
  auditEventId := "audit:" ++ id

theorem enrollment_single_use_enrolling :
    ∃ s' credential, (empty.run idealAuthority enrolling).redeemEnrollment idealAuthority
        (redemption "c") 2 = .ok (s', credential) ∧
      ∀ later now outcome, (s'.run idealAuthority later).redeemEnrollment idealAuthority
        (redemption "d") now ≠ .ok outcome := by
  have hredeems : Ends ((empty.run idealAuthority enrolling).redeemEnrollment idealAuthority
      (redemption "c") 2) fun _ => True := by decide +kernel
  obtain ⟨⟨s', credential⟩, h, -⟩ := hredeems
  exact ⟨s', credential, h, fun later now outcome =>
    ((enrollment_single_use keyed_empty (issued_of_nil rfl) enrolling).1 _ _ _ _ h).1 later
      (redemption "d") now outcome rfl⟩

end AuthorityStore

end Tasq.Authority
