import Mathlib.Tactic
import Tasq.Authority.Guard
import Tasq.Signing.History

/-! What mutations of signing credentials answer. The credential is read back after the commit, and
    within the same `try`: a row that cannot be read makes the caller see an error of a mutation
    that was committed.

    Under `Readable` every refused mutation leaves all rows as they were; the histories hold in
    every run. -/

namespace Tasq.Signing

open Text Outcome Rows Authority Run

/-- The credential that the mutation writes can be read back: its ids have no control characters,
    its instants have years of four digits, and its revision is a safe integer. -/
def Readable (s : SigningStore) : SigningMutation → Prop
  | .enroll input _ now =>
    hasControl input.credentialId = false ∧ hasControl input.workspaceId = false ∧
      hasControl input.principalId = false ∧ (∀ id ∈ input.replaces, IsPortable id) ∧
      input.validFrom.getD now ≤ lastInstant ∧ ∀ n ∈ input.expiresAt, n ≤ lastInstant
  | .transition id _ _ _ _ =>
    ∀ row ∈ s.credentials, row.credentialId = id → row.revision < Json.maxSafeInteger

variable {rt : AuthorityRuntime} {srt : SigningRuntime} {s s' : SigningStore}
  {row row' : CredentialRow}

/-! ### When a row can be read -/

/-- The row has a document. -/
structure Legible (row : CredentialRow) : Prop where
  profileVersion : IsSafeInteger row.profileVersion
  revision : IsSafeInteger row.revision
  validFrom : IsSafeInteger row.validFrom ∧ 0 ≤ row.validFrom ∧ row.validFrom ≤ lastDate
  expiresAt : ∀ n ∈ row.expiresAt, IsSafeInteger n ∧ 0 ≤ n ∧ n ≤ lastDate
  admitted : Admitted row

theorem integer_eq_ok {key : String} {n m : ℤ} :
    integer key n = .ok m ↔ IsSafeInteger n ∧ 0 ≤ n ∧ n = m := by
  simp only [integer, bind_eq_ok, refuse_eq_ok, pure_eq_ok, exists_const, not_or, not_not, not_lt,
    and_assoc]

theorem instant_eq_ok {key : String} {n m : ℤ} :
    instant key n = .ok m ↔ IsSafeInteger n ∧ 0 ≤ n ∧ n ≤ lastDate ∧ n = m := by
  simp only [instant, iso, bind_eq_ok, integer_eq_ok, refuse_eq_ok, pure_eq_ok, exists_const,
    not_lt]
  constructor
  · rintro ⟨_, ⟨hsafe, hpos, rfl⟩, hdate, rfl⟩
    exact ⟨hsafe, hpos, hdate, rfl⟩
  · rintro ⟨hsafe, hpos, hdate, rfl⟩
    exact ⟨n, ⟨hsafe, hpos, rfl⟩, hdate, rfl⟩

theorem nullableInstant_eq_ok {key : String} {n m : Option ℤ} :
    nullableInstant key n = .ok m ↔
      (∀ k ∈ n, IsSafeInteger k ∧ 0 ≤ k ∧ k ≤ lastDate) ∧ n = m := by
  cases n with
  | none => simp [nullableInstant]
  | some n =>
    simp only [nullableInstant, map_eq_ok, instant_eq_ok, Option.mem_some_iff, forall_eq']
    constructor
    · rintro ⟨_, ⟨hsafe, hpos, hdate, rfl⟩, rfl⟩
      exact ⟨⟨hsafe, hpos, hdate⟩, rfl⟩
    · rintro ⟨⟨hsafe, hpos, hdate⟩, rfl⟩
      exact ⟨n, ⟨hsafe, hpos, hdate, rfl⟩, rfl⟩

/-- EXACT: a row is read back exactly when it is legible. -/
theorem legible_iff : (∃ c, parse row = .ok c) ↔ Legible row := by
  simp only [parse, bind_eq_ok, integer_eq_ok, instant_eq_ok, nullableInstant_eq_ok, refuse_eq_ok,
    pure_eq_ok, not_not]
  constructor
  · rintro ⟨c, _, ⟨hversion, -, -⟩, _, ⟨hrevision, -, -⟩, _, ⟨hsafe, hpos, hdate, -⟩, _,
      ⟨hexpires, -⟩, _, hadmitted, -⟩
    exact ⟨hversion, hrevision, ⟨hsafe, hpos, hdate⟩, hexpires, hadmitted⟩
  · intro h
    exact ⟨document row, _, ⟨h.profileVersion, by omega, rfl⟩, _, ⟨h.revision, by omega, rfl⟩, _,
      ⟨h.validFrom.1, h.validFrom.2.1, h.validFrom.2.2, rfl⟩, _, ⟨h.expiresAt, rfl⟩, (),
      h.admitted, rfl⟩

/-- What the store answers of a credential that it has. -/
theorem get_eq (hs : History s) (hrow : row ∈ s.credentials) :
    s.get row.credentialId = some <$> parse row := by
  have hfound : s.credentialRow row.credentialId = some row :=
    find?_of_nodup hs.chronicle.ids hrow
  rw [SigningStore.get, hfound]

/-! ### The answer after a commit -/

/-- The row of an enrollment that is committed. -/
theorem enrollment_legible {input : Enrollment} {context : SigningContext} {now : ℕ}
    (h : s.enrollment rt srt input context now = .ok s') :
    Legible (enrolledRow srt input now) ↔ Readable s (.enroll input context now) := by
  simp only [SigningStore.enrollment, checkEnrollment, SigningStore.insertCredential, bind_eq_ok,
    refuse_eq_ok, pure_eq_ok, exists_const, not_not, not_or, not_exists, not_and, not_lt,
    not_le] at h
  obtain ⟨_, ⟨-, -, hid, hworkspace, hprincipal, -, -, -, -, ⟨hsafe, hsafeExpires⟩, -⟩, _, -, -, -,
    hmethod, _, ⟨⟨hpos, hlater⟩, -⟩, -⟩ := h
  have hwide : IsText 500 input.workspaceId := ⟨hworkspace.1, hworkspace.2.trans (by omega)⟩
  constructor
  · intro hlegible
    obtain ⟨hid', hworkspace', hprincipal', -, -, hvalid, hexpires, hreplaces, -⟩ :=
      hlegible.admitted
    exact ⟨hid'.2, hworkspace'.2, hprincipal'.2, hreplaces, hvalid, hexpires⟩
  · rintro ⟨hid', hworkspace', hprincipal', hreplaces, hvalid, hexpires⟩
    have hdate : lastInstant ≤ lastDate := by decide
    have hone : IsSafeInteger (1 : ℕ) := by decide
    refine ⟨hone, hone, ⟨hsafe, hpos, hvalid.trans hdate⟩, ?_, ?_⟩
    · intro n hn
      exact ⟨hsafeExpires n hn, hpos.trans (hlater n hn).le, (hexpires n hn).trans hdate⟩
    · exact ⟨⟨hid, hid'⟩, ⟨hwide, hworkspace'⟩, ⟨hprincipal, hprincipal'⟩, Nat.one_pos, Nat.one_pos,
        hvalid, hexpires, hreplaces, hmethod⟩

/-- The row of a transition of a row that can be read. -/
theorem moved_legible {next : SigningStatus} (h : Legible row) :
    Legible (row.moved next) ↔ row.revision < Json.maxSafeInteger := by
  constructor
  · intro hlegible
    have hrevision := hlegible.revision
    simp only [IsSafeInteger, CredentialRow.moved] at hrevision
    omega
  · intro hlt
    obtain ⟨hid, hworkspace, hprincipal, hversion, -, hvalid, hexpires, hreplaces, hmethod⟩ :=
      h.admitted
    refine ⟨h.profileVersion, ?_, h.validFrom, h.expiresAt, hid, hworkspace, hprincipal, hversion,
      Nat.succ_pos _, hvalid, hexpires, hreplaces, hmethod⟩
    simp only [IsSafeInteger, CredentialRow.moved]
    omega

/-- EXACT: a committed mutation is answered exactly when what it writes can be read. -/
theorem answered_iff {mutation : SigningMutation} (hs : History s)
    (h : s.transact rt srt mutation = .ok s') :
    (∃ c, (s.perform rt srt mutation).2 = .ok c) ↔ Readable s mutation := by
  have hs' : History s' := (transact_commits hs h).history hs
  rw [perform_committed h]
  -- the answer is the row that was written, read back
  have hread : ∀ row ∈ s'.credentials, row.credentialId = mutation.credentialId →
      ((∃ c, s'.get mutation.credentialId = .ok c) ↔ Legible row) := by
    intro row hrow hid
    rw [← hid, get_eq hs' hrow, ← legible_iff]
    simp only [map_eq_ok]
    constructor
    · rintro ⟨_, c, hc, -⟩
      exact ⟨c, hc⟩
    · rintro ⟨c, hc⟩
      exact ⟨some c, c, hc, rfl⟩
  cases mutation with
  | enroll input context now =>
    rw [hread _ (enrollment_commits hs h).2 rfl]
    exact enrollment_legible h
  | transition id next context compromise now =>
    obtain ⟨-, row, hrow, rfl, hparse, hmoved⟩ := transitionIn_commits hs h
    rw [hread _ hmoved rfl, moved_legible (legible_iff.1 ⟨_, hparse⟩)]
    constructor
    · intro hlt other hother hid
      rw [List.inj_on_of_nodup_map hs.chronicle.ids hother hrow hid]
      exact hlt
    · intro hall
      exact hall row hrow rfl

/-! ### CORRECT: histories in every run, refusals without a trace -/

/-- A mutation that is refused leaves every row as it was. -/
def RefusedClean (rt : AuthorityRuntime) (srt : SigningRuntime) (s : SigningStore)
    (mutation : SigningMutation) : Prop :=
  ∀ e, (s.perform rt srt mutation).2 = .error e → (s.perform rt srt mutation).1 = s

/-- A mutation commits, in a state, when it uses a decision there. -/
def Committed (rt : AuthorityRuntime) (srt : SigningRuntime) (s : SigningStore)
    (mutation : SigningMutation) : Prop :=
  (s.perform rt srt mutation).1 ≠ s

theorem committed_of_ok {mutation : SigningMutation} (hs : History s)
    (h : s.transact rt srt mutation = .ok s') : Committed rt srt s mutation := by
  intro hsame
  rw [perform_committed h] at hsame
  obtain ⟨use, -, huses⟩ := (transact_commits hs h).uses
  rw [show s' = s from hsame] at huses
  simp at huses

theorem committed_uses {mutation : SigningMutation} (hs : History s)
    (h : Committed rt srt s mutation) : ∃ use, Uses rt s mutation.context use ∧
      (s.perform rt srt mutation).1.uses = s.uses ++ [use] := by
  cases htransact : s.transact rt srt mutation with
  | ok s' =>
    rw [perform_committed htransact]
    exact (transact_commits hs htransact).uses
  | error e => exact absurd (by rw [perform_refused htransact]) h

/-- EXACT: a mutation whose transaction commits is refused clean exactly when it is readable. -/
theorem refusedClean_iff {mutation : SigningMutation} (hs : History s)
    (h : s.transact rt srt mutation = .ok s') :
    RefusedClean rt srt s mutation ↔ Readable s mutation := by
  rw [← answered_iff hs h, RefusedClean]
  constructor
  · intro hclean
    cases hanswer : (s.perform rt srt mutation).2 with
    | ok c => exact ⟨c, rfl⟩
    | error e =>
      exact absurd (hclean e hanswer) (committed_of_ok hs h)
  · rintro ⟨c, hc⟩ e he
    rw [hc] at he
    cases he

theorem refusedClean_of_readable {mutation : SigningMutation} (hs : History s)
    (h : Readable s mutation) : RefusedClean rt srt s mutation := by
  cases htransact : s.transact rt srt mutation with
  | ok s' => exact (refusedClean_iff hs htransact).2 h
  | error e => exact fun _ _ => by rw [perform_refused htransact]

/-- CORRECT: in every run the histories hold, what is in a final status stays as it is, and no
    decision is used by two mutations; where every mutation is readable, every one that is refused
    leaves all rows as they were, and of those whose transactions commit only those do. -/
theorem signing_history (rt : AuthorityRuntime) (srt : SigningRuntime) :
    (∀ before after, History (SigningStore.empty.run rt srt before) ∧
      (∀ row ∈ (SigningStore.empty.run rt srt before).credentials,
        ∀ other ∈ (SigningStore.empty.run rt srt before).credentials, ∀ id,
          row.replaces = some id → other.replaces = some id → row = other) ∧
      ∀ row ∈ (SigningStore.empty.run rt srt before).credentials, row.status.Final →
        row ∈ (SigningStore.empty.run rt srt (before ++ after)).credentials) ∧
    (∀ before first middle second, Committed rt srt (SigningStore.empty.run rt srt before) first →
      Committed rt srt (SigningStore.empty.run rt srt
        (before ++ SigningAction.mutate first :: middle)) second →
      first.context.authorityDecisionId ≠ second.context.authorityDecisionId) ∧
    (∀ actions, Along (SigningStore.step rt srt) (fun s action => ∀ mutation,
        action = .mutate mutation → Readable s mutation) SigningStore.empty actions →
      ∀ before mutation after, actions = before ++ SigningAction.mutate mutation :: after →
        RefusedClean rt srt (SigningStore.empty.run rt srt before) mutation) ∧
    ∀ actions mutation s',
      (SigningStore.empty.run rt srt actions).transact rt srt mutation = .ok s' →
      (RefusedClean rt srt (SigningStore.empty.run rt srt actions) mutation ↔
        Readable (SigningStore.empty.run rt srt actions) mutation) := by
  have hhistory : ∀ actions, History (SigningStore.empty.run rt srt actions) :=
    fun actions => history_run history_empty actions
  refine ⟨?_, ?_, ?_, ?_⟩
  · intro before after
    refine ⟨hhistory before, ?_, ?_⟩
    · intro row hrow other hother id hid hid'
      exact (hhistory before).replaced_once hrow hother hid hid'
    · intro row hrow hfinal
      rw [SigningStore.run, run_append]
      exact final_run (hhistory before) after hrow hfinal
  · intro before first middle second hfirst hsecond hsame
    obtain ⟨use, ⟨-, hdecision⟩, huses⟩ := committed_uses (hhistory before) hfirst
    obtain ⟨use', ⟨⟨_, _, hconsumes⟩, -⟩, -⟩ := committed_uses (hhistory _) hsecond
    -- the first use is still there when the second is made
    have hstays : use ∈ (SigningStore.empty.run rt srt
        (before ++ SigningAction.mutate first :: middle)).uses := by
      rw [SigningStore.run, run_append, run_cons]
      refine uses_run (history_step (hhistory before) _) middle ?_
      rw [SigningStore.step, huses]
      simp
    exact hconsumes.unused use hstays (hdecision.trans hsame)
  · rintro _ halong before mutation after rfl
    obtain ⟨-, hreadable, -⟩ := along_append.1 halong
    exact refusedClean_of_readable (hhistory before) (hreadable mutation rfl)
  · intro actions mutation s' htransact
    exact refusedClean_iff (hhistory actions) htransact

/-! ### A committed enrollment that is refused -/

/-- A platform whose digests have texts of 64 characters. -/
def shortAuthority : AuthorityRuntime :=
  { idealAuthority with hex := fun _ => String.ofList (List.replicate 64 '0') }

/-- A platform that verifies every signature. -/
def openSigning : SigningRuntime where
  digest _ := ⟨.null⟩
  verify _ _ _ := true

/-- The action that manages credentials. -/
def manageAction : ActionDefinition :=
  shortAuthority.actionDefinition ("credential.manage", [.workspace], .required, none)

/-- A permission set with that action alone. -/
def manageSet : PermissionSetDefinition where
  uri := "urn:p"
  version := 1
  implementationDigest := shortAuthority.digest (.permissionSet "urn:p" 1 [manageAction.identity])
  actions := [manageAction.identity]

/-- A grant of the set to the service. -/
def manageGrant : AuthorizationGrant :=
  { AuthorityRuntime.plainLifetime with
    id := "g", workspaceId := "w", grantorPrincipalId := "h", granteePrincipalId := "p"
    permissionSet := ⟨manageSet.uri, manageSet.version, manageSet.implementationDigest⟩
    scope := .workspace }

/-- A request of the service to manage the credentials, with an identity that expires at 10. -/
def manageInput : WorkspaceAuthorizationInput where
  requestId := "r"
  workspaceId := "w"
  serviceAudience := "https://a.example/"
  action := manageAction.identity
  resource := ⟨.workspace, "w"⟩
  identity := AuthorityRuntime.plainIdentity "sp" [manageAction.identity]

/-- The service is allowed to manage the credentials once. -/
def permitting : List AuthorityAction :=
  AuthorityStore.founding ++
  [.mutate (.bindSubject (AuthorityRuntime.plainBound "p" .service 0).binding)
     (AuthorityStore.expecting "op:b" (some 2) none) 1,
   .mutate (.activatePermissionSet "w" manageSet)
     (AuthorityStore.expecting "op:s" (some 3) none) 1,
   .mutate (.createGrant manageGrant) (AuthorityStore.expecting "op:g" (some 4) none) 1,
   .authorize manageInput 1 false]

/-- The same, beside the signing credentials. -/
def allowing : List SigningAction := permitting.map .authority

/-- The context of a mutation under that decision. -/
def allowedContext : SigningContext where
  actorPrincipalId := "p"
  authorityDecisionId := "sha256:" ++ String.ofList (List.replicate 64 '0')
  reason := "setup"
  expectedRevision := none

/-- An enrollment of a credential that expires at an instant. -/
def enrolling (expiresAt : Option ℤ) (now : ℕ) : SigningMutation :=
  .enroll
    { credentialId := "k"
      workspaceId := "w"
      principalId := "p"
      publicMaterial := String.ofList (List.replicate 43 'A')
      trustRootDigest := ⟨.null⟩
      isolationClass := .hardware
      challenge := String.ofList (List.replicate 32 'c')
      proofOfPossession := String.ofList (List.replicate 86 'A')
      validFrom := none
      expiresAt := expiresAt
      replaces := none
      enrollmentMethod := "manual"
      enrollmentEvidenceDigest := ⟨.null⟩ } allowedContext now

/-- Whatever its expiry and the clock, the enrollment is committed once it is allowed. -/
theorem enrolling_transacts :
    let s := SigningStore.empty.run shortAuthority openSigning allowing
    (s.transact shortAuthority openSigning (enrolling (some 253402300800000) 2)).toBool = true ∧
      (s.transact shortAuthority openSigning (enrolling none 2)).toBool = true ∧
      (s.transact shortAuthority openSigning (enrolling none 20)).toBool = true := by
  decide +kernel

theorem ok_of_toBool {ε α : Type} {x : Except ε α} (h : x.toBool = true) : ∃ a, x = .ok a := by
  cases x with
  | ok a => exact ⟨a, rfl⟩
  | error e => cases h

/-- The enrollment without expiry is readable. -/
theorem enrolling_readable (s : SigningStore) : Readable s (enrolling none 2) := by
  refine ⟨?_, ?_, ?_, ?_, ?_, ?_⟩ <;> decide

/-- It leaves no trace when it is refused, and its decision serves no other mutation after it. -/
theorem signing_history_enrolled :
    RefusedClean shortAuthority openSigning
      (SigningStore.empty.run shortAuthority openSigning allowing) (enrolling none 2) ∧
    ∀ second, Committed shortAuthority openSigning (SigningStore.empty.run shortAuthority
      openSigning (allowing ++ [.mutate (enrolling none 2)])) second →
        allowedContext.authorityDecisionId ≠ second.context.authorityDecisionId := by
  obtain ⟨s', h⟩ := ok_of_toBool enrolling_transacts.2.1
  obtain ⟨-, honce, -, hclean⟩ := signing_history shortAuthority openSigning
  refine ⟨(hclean allowing (enrolling none 2) s' h).2 (enrolling_readable _), ?_⟩
  intro second hsecond
  exact honce allowing (enrolling none 2) [] second
    (committed_of_ok (history_run history_empty allowing) h) hsecond

/-- NOT SO: the enrollment of a credential that expires in the year 10000 is committed and then
    refused. -/
theorem unreadable_enrollment :
    ¬ RefusedClean shortAuthority openSigning
      (SigningStore.empty.run shortAuthority openSigning allowing)
      (enrolling (some 253402300800000) 2) := by
  obtain ⟨s', h⟩ := ok_of_toBool enrolling_transacts.1
  rw [refusedClean_iff (history_run history_empty allowing) h]
  rintro ⟨-, -, -, -, -, hexpires⟩
  exact absurd (hexpires _ rfl) (by decide)

end Tasq.Signing
