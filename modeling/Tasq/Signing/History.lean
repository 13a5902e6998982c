import Mathlib.Tactic
import Tasq.Signing.Mutations

/-! The history of signing credentials: a committed mutation uses up one authority decision and
    writes one event for every credential that it touches, so that the events of a credential tell
    how it came to its status.

    A mutation is refused without a trace unless its transaction commits a row that cannot be read
    back. -/

namespace Tasq.Signing

open Text Outcome Rows Authority Run

/-- A status that no credential leaves. -/
def SigningStatus.Final (status : SigningStatus) : Prop :=
  status = .revoked ∨ status = .compromised ∨ status = .retired

/-- The events of a credential, in order. -/
def eventsOf (events : List CredentialEvent) (id : String) : List CredentialEvent :=
  events.filter (·.credentialId = id)

/-- The events number the revisions of the credential from 1, and their statuses form one chain
    from none to its own. -/
def Tells (row : CredentialRow) (events : List CredentialEvent) : Prop :=
  events.map CredentialEvent.revision = List.range' 1 row.revision ∧
    events.map CredentialEvent.priorStatus ++ [some row.status] =
      none :: events.map fun event => some event.nextStatus

/-- INVARIANT: the events tell the credentials, and no event leaves a final status. -/
structure Chronicle (credentials : List CredentialRow) (events : List CredentialEvent) : Prop where
  ids : (credentials.map CredentialRow.credentialId).Nodup
  named : ∀ row ∈ credentials, row.credentialId ≠ ""
  told : ∀ row ∈ credentials, Tells row (eventsOf events row.credentialId)
  owned : ∀ event ∈ events, ∃ row ∈ credentials, row.credentialId = event.credentialId
  final : ∀ event ∈ events, ∀ status ∈ event.priorStatus, ¬ status.Final

/-- INVARIANT: replacements agree in both directions, and what is replaced is retired. -/
structure Links (credentials : List CredentialRow) : Prop where
  forward : ∀ row ∈ credentials, ∀ id ∈ row.replacedBy, ∃ other ∈ credentials,
    other.credentialId = id ∧ other.replaces = some row.credentialId
  backward : ∀ row ∈ credentials, ∀ id ∈ row.replaces, ∃ other ∈ credentials,
    other.credentialId = id ∧ other.replacedBy = some row.credentialId
  retired : ∀ row ∈ credentials, row.replacedBy ≠ none → row.status = .retired

/-- INVARIANT: the history of a store. -/
structure History (s : SigningStore) : Prop where
  uses : (s.uses.map AuthorizationUse.authorityDecisionId).Nodup
  chronicle : Chronicle s.credentials s.events
  links : Links s.credentials

/-- A credential is replaced by one other at most. -/
theorem History.replaced_once {s : SigningStore} (h : History s) {row other : CredentialRow}
    (hrow : row ∈ s.credentials) (hother : other ∈ s.credentials) {id : String}
    (hreplaces : row.replaces = some id) (hreplaces' : other.replaces = some id) : row = other := by
  obtain ⟨old, hold, rfl, hby⟩ := h.links.backward row hrow id hreplaces
  obtain ⟨old', hold', hid, hby'⟩ := h.links.backward other hother _ hreplaces'
  have hsame : old' = old := List.inj_on_of_nodup_map h.chronicle.ids hold' hold hid
  rw [hsame, hby] at hby'
  exact List.inj_on_of_nodup_map h.chronicle.ids hrow hother (Option.some.inj hby')

/-! ### The events of one credential -/

theorem Tells.enrolled {row : CredentialRow} {event : CredentialEvent} (hrevision : row.revision = 1)
    (hevent : event.revision = 1) (hprior : event.priorStatus = none)
    (hnext : event.nextStatus = row.status) : Tells row [event] := by
  refine ⟨?_, ?_⟩
  · simp [hrevision, hevent]
  · simp [hprior, hnext]

theorem Tells.moved {row row' : CredentialRow} {events : List CredentialEvent}
    {event : CredentialEvent} (h : Tells row events) (hrevision : row'.revision = row.revision + 1)
    (hevent : event.revision = row.revision + 1) (hprior : event.priorStatus = some row.status)
    (hnext : event.nextStatus = row'.status) : Tells row' (events ++ [event]) := by
  obtain ⟨hrevisions, hchain⟩ := h
  refine ⟨?_, ?_⟩
  · rw [List.map_append, hrevisions, hrevision, List.range'_concat, List.map_singleton, hevent,
      Nat.one_mul, Nat.add_comm 1]
  · rw [List.map_append, List.map_append, List.map_singleton, List.map_singleton, hprior, hchain,
      hnext, List.cons_append]

/-- A new credential with its first event. -/
structure Opens (credentials : List CredentialRow) (row : CredentialRow) (event : CredentialEvent) :
    Prop where
  fresh : ∀ other ∈ credentials, other.credentialId ≠ row.credentialId
  named : row.credentialId ≠ ""
  first : row.revision = 1
  active : row.status = .active
  unreplaced : row.replacedBy = none
  by' : event.credentialId = row.credentialId
  number : event.revision = 1
  prior : event.priorStatus = none
  next : event.nextStatus = .active

/-- A credential that moves to another status, with the event of it. -/
structure Turns (row row' : CredentialRow) (event : CredentialEvent) : Prop where
  same : row'.credentialId = row.credentialId
  revision : row'.revision = row.revision + 1
  passes : Passes row.status row'.status
  by' : event.credentialId = row.credentialId
  number : event.revision = row.revision + 1
  prior : event.priorStatus = some row.status
  next : event.nextStatus = row'.status

/-- Put another row in the place of a credential. -/
def replaceRow (credentials : List CredentialRow) (row : CredentialRow) : List CredentialRow :=
  credentials.map fun other => if other.credentialId = row.credentialId then row else other

variable {credentials : List CredentialRow} {events : List CredentialEvent}
  {row row' other : CredentialRow} {event : CredentialEvent}

theorem not_final_of_passes {prior next : SigningStatus} (h : Passes prior next) :
    ¬ prior.Final := by
  cases prior <;> simp [Passes, SigningStatus.Final] at h ⊢

theorem mem_replaceRow (hother : other ∈ replaceRow credentials row) :
    other = row ∨ other ∈ credentials ∧ other.credentialId ≠ row.credentialId := by
  obtain ⟨old, hold, rfl⟩ := List.mem_map.1 hother
  split
  · exact .inl rfl
  · exact .inr ⟨hold, ‹_›⟩

theorem mem_replaceRow_of_ne (hother : other ∈ credentials)
    (hne : other.credentialId ≠ row.credentialId) : other ∈ replaceRow credentials row :=
  List.mem_map.2 ⟨other, hother, if_neg hne⟩

theorem mem_replaceRow_self (hrow : row ∈ credentials) (hsame : row'.credentialId = row.credentialId) :
    row' ∈ replaceRow credentials row' :=
  List.mem_map.2 ⟨row, hrow, if_pos hsame.symm⟩

theorem replaceRow_ids :
    (replaceRow credentials row).map CredentialRow.credentialId =
      credentials.map CredentialRow.credentialId := by
  rw [replaceRow, List.map_map]
  refine List.map_congr_left fun other _ => ?_
  rw [Function.comp_apply]
  split
  · exact Eq.symm ‹_›
  · rfl

theorem eventsOf_concat_same {id : String} (hevent : event.credentialId = id) :
    eventsOf (events ++ [event]) id = eventsOf events id ++ [event] := by
  rw [eventsOf, List.filter_append, List.filter_cons_of_pos (by simpa using hevent),
    List.filter_nil, eventsOf]

theorem eventsOf_concat_of_ne {id : String} (hevent : event.credentialId ≠ id) :
    eventsOf (events ++ [event]) id = eventsOf events id := by
  rw [eventsOf, List.filter_append, List.filter_cons_of_neg (by simpa using hevent),
    List.filter_nil, List.append_nil, eventsOf]

/-- STEP: a new credential. -/
theorem Chronicle.opened (h : Chronicle credentials events)
    (hopens : Opens credentials row event) : Chronicle (credentials ++ [row]) (events ++ [event]) where
  ids := by
    rw [List.map_append, List.map_singleton, ← List.concat_eq_append, List.nodup_concat]
    refine ⟨?_, h.ids⟩
    intro hmem
    obtain ⟨other, hother, hid⟩ := List.mem_map.1 hmem
    exact hopens.fresh other hother hid
  named := by
    intro other hother
    rw [List.mem_append, List.mem_singleton] at hother
    rcases hother with hother | rfl
    · exact h.named other hother
    · exact hopens.named
  told := by
    intro other hother
    rw [List.mem_append, List.mem_singleton] at hother
    rcases hother with hother | rfl
    · rw [eventsOf_concat_of_ne (hopens.by' ▸ (hopens.fresh other hother).symm)]
      exact h.told other hother
    · -- no event is of a credential that is not there
      have hnone : eventsOf events other.credentialId = [] := by
        rw [eventsOf, List.filter_eq_nil_iff]
        intro event hevent hid
        obtain ⟨old, hold, hsame⟩ := h.owned event hevent
        exact hopens.fresh old hold (hsame.trans (by simpa using hid))
      rw [eventsOf_concat_same hopens.by', hnone, List.nil_append]
      exact .enrolled hopens.first hopens.number hopens.prior
        (hopens.next.trans hopens.active.symm)
  owned := by
    intro other hother
    rw [List.mem_append, List.mem_singleton] at hother
    rcases hother with hother | rfl
    · obtain ⟨old, hold, hid⟩ := h.owned other hother
      exact ⟨old, List.mem_append_left _ hold, hid⟩
    · exact ⟨row, by simp, hopens.by'.symm⟩
  final := by
    intro other hother status hstatus
    rw [List.mem_append, List.mem_singleton] at hother
    rcases hother with hother | rfl
    · exact h.final other hother status hstatus
    · rw [hopens.prior] at hstatus
      cases hstatus

/-- STEP: a credential that moves. -/
theorem Chronicle.turned (h : Chronicle credentials events) (hrow : row ∈ credentials)
    (hturns : Turns row row' event) :
    Chronicle (replaceRow credentials row') (events ++ [event]) where
  ids := by
    rw [replaceRow_ids]
    exact h.ids
  named := by
    intro other hother
    obtain rfl | ⟨hother, -⟩ := mem_replaceRow hother
    · rw [hturns.same]
      exact h.named row hrow
    · exact h.named other hother
  told := by
    intro other hother
    obtain rfl | ⟨hother, hne⟩ := mem_replaceRow hother
    · rw [eventsOf_concat_same (hturns.by'.trans hturns.same.symm), hturns.same]
      exact (h.told row hrow).moved hturns.revision hturns.number hturns.prior hturns.next
    · rw [hturns.same, ← hturns.by'] at hne
      rw [eventsOf_concat_of_ne hne.symm]
      exact h.told other hother
  owned := by
    intro other hother
    rw [List.mem_append, List.mem_singleton] at hother
    have howner : ∃ old ∈ credentials, old.credentialId = other.credentialId := by
      rcases hother with hother | rfl
      · exact h.owned other hother
      · exact ⟨row, hrow, hturns.by'.symm⟩
    obtain ⟨old, hold, hid⟩ := howner
    by_cases hsame : old.credentialId = row'.credentialId
    · exact ⟨row', mem_replaceRow_self hrow hturns.same, hsame.symm.trans hid⟩
    · exact ⟨old, mem_replaceRow_of_ne hold hsame, hid⟩
  final := by
    intro other hother status hstatus
    rw [List.mem_append, List.mem_singleton] at hother
    rcases hother with hother | rfl
    · exact h.final other hother status hstatus
    · rw [hturns.prior, Option.mem_some_iff] at hstatus
      rw [← hstatus]
      exact not_final_of_passes hturns.passes

/-- A row in a final status is not the one that moves. -/
theorem Chronicle.final_stays (h : Chronicle credentials events) (hrow : row ∈ credentials)
    (hturns : Turns row row' event) (hother : other ∈ credentials) (hfinal : other.status.Final) :
    other ∈ replaceRow credentials row' := by
  refine mem_replaceRow_of_ne hother fun hid => ?_
  obtain rfl := List.inj_on_of_nodup_map h.ids hother hrow (hid.trans hturns.same)
  exact not_final_of_passes hturns.passes hfinal

/-- STEP: a new credential that replaces none. -/
theorem Links.opened (h : Links credentials) (halone : row.replaces = none)
    (hunreplaced : row.replacedBy = none) : Links (credentials ++ [row]) where
  forward := by
    intro other hother id hid
    rw [List.mem_append, List.mem_singleton] at hother
    rcases hother with hother | rfl
    · obtain ⟨by', hby, hlink⟩ := h.forward other hother id hid
      exact ⟨by', List.mem_append_left _ hby, hlink⟩
    · rw [hunreplaced] at hid
      cases hid
  backward := by
    intro other hother id hid
    rw [List.mem_append, List.mem_singleton] at hother
    rcases hother with hother | rfl
    · obtain ⟨old, hold, hlink⟩ := h.backward other hother id hid
      exact ⟨old, List.mem_append_left _ hold, hlink⟩
    · rw [halone] at hid
      cases hid
  retired := by
    intro other hother hby
    rw [List.mem_append, List.mem_singleton] at hother
    rcases hother with hother | rfl
    · exact h.retired other hother hby
    · exact absurd hunreplaced hby

/-- What moves has not been replaced. -/
theorem Links.unreplaced (h : Links credentials) (hrow : row ∈ credentials)
    (hpasses : Passes row.status row'.status) : row.replacedBy = none := by
  by_contra hby
  rw [h.retired row hrow hby] at hpasses
  simp [Passes] at hpasses

/-- Every credential is still there after one has moved, with the links that it had. -/
theorem Links.carried (h : Links credentials)
    (hids : (credentials.map CredentialRow.credentialId).Nodup) (hrow : row ∈ credentials)
    (hturns : Turns row row' event) (hreplaces : row'.replaces = row.replaces)
    (hother : other ∈ credentials) :
    ∃ other' ∈ replaceRow credentials row', other'.credentialId = other.credentialId ∧
      other'.replaces = other.replaces ∧
        (other.replacedBy ≠ none → other'.replacedBy = other.replacedBy) := by
  by_cases hsame : other.credentialId = row'.credentialId
  · obtain rfl := List.inj_on_of_nodup_map hids hother hrow (hsame.trans hturns.same)
    exact ⟨row', mem_replaceRow_self hother hturns.same, hturns.same, hreplaces,
      fun hby => absurd (h.unreplaced hother hturns.passes) hby⟩
  · exact ⟨other, mem_replaceRow_of_ne hother hsame, rfl, rfl, fun _ => rfl⟩

/-- What a credential was replaced by is still there after one has moved. -/
theorem Links.carried_forward (h : Links credentials)
    (hids : (credentials.map CredentialRow.credentialId).Nodup) (hrow : row ∈ credentials)
    (hturns : Turns row row' event) (hreplaces : row'.replaces = row.replaces)
    (hother : other ∈ credentials) {id : String} (hid : other.replacedBy = some id) :
    ∃ by' ∈ replaceRow credentials row', by'.credentialId = id ∧
      by'.replaces = some other.credentialId := by
  obtain ⟨by', hby, rfl, hlink⟩ := h.forward other hother id hid
  obtain ⟨by'', hby'', hid', hreplaces', -⟩ := h.carried hids hrow hturns hreplaces hby
  exact ⟨by'', hby'', hid', hreplaces'.trans hlink⟩

/-- What a credential replaces is still there after one has moved. -/
theorem Links.carried_backward (h : Links credentials)
    (hids : (credentials.map CredentialRow.credentialId).Nodup) (hrow : row ∈ credentials)
    (hturns : Turns row row' event) (hreplaces : row'.replaces = row.replaces)
    (hother : other ∈ replaceRow credentials row') {id : String} (hid : other.replaces = some id) :
    ∃ old ∈ replaceRow credentials row', old.credentialId = id ∧
      old.replacedBy = some other.credentialId := by
  have hbefore : ∃ other' ∈ credentials, other'.credentialId = other.credentialId ∧
      other'.replaces = some id := by
    obtain rfl | ⟨hother, -⟩ := mem_replaceRow hother
    · exact ⟨row, hrow, hturns.same.symm, hreplaces.symm.trans hid⟩
    · exact ⟨other, hother, rfl, hid⟩
  obtain ⟨other', hother', hsame, hid'⟩ := hbefore
  obtain ⟨old, hold, rfl, hlink⟩ := h.backward other' hother' id hid'
  obtain ⟨old', hold', hid'', -, hby⟩ := h.carried hids hrow hturns hreplaces hold
  have hreplaced : old.replacedBy ≠ none := by simp [hlink]
  exact ⟨old', hold', hid'', (hby hreplaced).trans (hlink.trans (by rw [hsame]))⟩

/-- STEP: a credential that moves and stays unreplaced. -/
theorem Links.turned (h : Links credentials)
    (hids : (credentials.map CredentialRow.credentialId).Nodup) (hrow : row ∈ credentials)
    (hturns : Turns row row' event) (hreplaces : row'.replaces = row.replaces)
    (hunreplaced : row'.replacedBy = none) : Links (replaceRow credentials row') where
  forward := by
    intro other hother id hid
    obtain rfl | ⟨hother, -⟩ := mem_replaceRow hother
    · rw [hunreplaced] at hid
      cases hid
    · exact h.carried_forward hids hrow hturns hreplaces hother hid
  backward := fun _ hother _ hid => h.carried_backward hids hrow hturns hreplaces hother hid
  retired := by
    intro other hother hby
    obtain rfl | ⟨hother, -⟩ := mem_replaceRow hother
    · exact absurd hunreplaced hby
    · exact h.retired other hother hby

/-- STEP: a credential that is retired for a new one. -/
theorem Links.replaced (h : Links credentials)
    (hids : (credentials.map CredentialRow.credentialId).Nodup) {opened : CredentialEvent}
    {new : CredentialRow} (hopens : Opens credentials new opened)
    (hnew : new.replaces = some row.credentialId) (hrow : row ∈ credentials)
    (hturns : Turns row row' event) (hretired : row'.status = .retired)
    (hreplaces : row'.replaces = row.replaces) (hby : row'.replacedBy = some new.credentialId) :
    Links (replaceRow credentials row' ++ [new]) where
  forward := by
    intro other hother id hid
    rw [List.mem_append, List.mem_singleton] at hother
    rcases hother with hother | rfl
    · obtain rfl | ⟨hother, -⟩ := mem_replaceRow hother
      · rw [hby, Option.mem_some_iff] at hid
        exact ⟨new, by simp, hid, by rw [hnew, hturns.same]⟩
      · obtain ⟨by', hby', hlink⟩ := h.carried_forward hids hrow hturns hreplaces hother hid
        exact ⟨by', List.mem_append_left _ hby', hlink⟩
    · rw [hopens.unreplaced] at hid
      cases hid
  backward := by
    intro other hother id hid
    rw [List.mem_append, List.mem_singleton] at hother
    rcases hother with hother | rfl
    · obtain ⟨old, hold, hlink⟩ := h.carried_backward hids hrow hturns hreplaces hother hid
      exact ⟨old, List.mem_append_left _ hold, hlink⟩
    · rw [hnew, Option.mem_some_iff] at hid
      exact ⟨row', List.mem_append_left _ (mem_replaceRow_self hrow hturns.same),
        hturns.same.trans hid, hby⟩
  retired := by
    intro other hother hlink
    rw [List.mem_append, List.mem_singleton] at hother
    rcases hother with hother | rfl
    · obtain rfl | ⟨hother, -⟩ := mem_replaceRow hother
      · exact hretired
      · exact h.retired other hother hlink
    · exact absurd hopens.unreplaced hlink

/-! ### What a mutation finds and does -/

/-- What the use of an authority decision finds. -/
structure Consumes (rt : AuthorityRuntime) (s : SigningStore) (workspaceId : String)
    (context : SigningContext) (row : DecisionRow) (workspace : HostedWorkspace) : Prop where
  found : s.authority.decisions.find? (fun d =>
    SigningStore.decisionText rt d = context.authorityDecisionId) = some row
  manages : SigningStore.Manages row workspaceId context
  workspaceRow : s.authority.workspaceRow workspaceId = some workspace
  enabled : workspace.status = .enabled
  revision : workspace.authorityRevision = row.authorityRevision.getD 0
  unused : ∀ use ∈ s.uses, use.authorityDecisionId ≠ context.authorityDecisionId

variable {rt : AuthorityRuntime} {srt : SigningRuntime} {s s' : SigningStore}

theorem consume_eq_ok {workspaceId credentialId : String} {d : Digest} {now : ℕ}
    {context : SigningContext}
    (h : s.consumeCredentialAuthority rt workspaceId credentialId d now context = .ok s') :
    (∃ row workspace, Consumes rt s workspaceId context row workspace) ∧
      s' = { s with uses := s.uses ++
        [⟨context.authorityDecisionId, workspaceId, credentialId, d, now⟩] } := by
  simp only [SigningStore.consumeCredentialAuthority, bind_eq_ok, demand_eq_ok, refuse_eq_ok,
    pure_eq_ok, exists_const, not_not, not_or, ne_eq, insertRow_eq_ok] at h
  obtain ⟨row, hfound, hmanages, workspace, hworkspace, ⟨henabled, hrevision⟩, _, ⟨hunused, rfl⟩,
    rfl⟩ := h
  exact ⟨⟨row, workspace, hfound, hmanages, hworkspace, henabled, hrevision, hunused⟩, rfl⟩

theorem updateCredential_eq_ok {id : String} {f : CredentialRow → CredentialRow} :
    s.updateCredential id f = .ok s' ↔
      (∀ row ∈ s.credentials, row.credentialId = id → Lifecycle row (f row)) ∧
        { s with credentials := s.credentials.map fun row =>
          if row.credentialId = id then f row else row } = s' := by
  simp only [SigningStore.updateCredential, bind_eq_ok, refuse_eq_ok, pure_eq_ok, exists_const,
    not_not]

theorem insertEvent_eq_ok {event : CredentialEvent} (h : s.insertEvent event = .ok s') :
    s' = { s with events := s.events ++ [event] } := by
  simp only [SigningStore.insertEvent, bind_eq_ok, pure_eq_ok, insertRow_eq_ok] at h
  obtain ⟨_, ⟨-, rfl⟩, rfl⟩ := h
  rfl

theorem insertCredential_eq_ok {row : CredentialRow} (h : s.insertCredential row = .ok s') :
    (∀ other ∈ s.credentials, other.credentialId ≠ row.credentialId) ∧
      (∀ id ∈ row.replaces, s.credentialRow id ≠ none) ∧
        s' = { s with credentials := s.credentials ++ [row] } := by
  simp only [SigningStore.insertCredential, bind_eq_ok, refuse_eq_ok, pure_eq_ok, exists_const,
    insertRow_eq_ok, not_or, not_exists, not_and] at h
  obtain ⟨-, hreplaces, _, ⟨hfresh, rfl⟩, rfl⟩ := h
  exact ⟨fun other hother => (hfresh other hother).1, hreplaces, rfl⟩

/-- The use of an authority decision, and what it finds. -/
structure Uses (rt : AuthorityRuntime) (s : SigningStore) (context : SigningContext)
    (use : AuthorizationUse) : Prop where
  consumes : ∃ row workspace, Consumes rt s use.workspaceId context row workspace
  decision : use.authorityDecisionId = context.authorityDecisionId

/-- What a committed mutation does: it uses up a decision, and enrolls a credential, enrolls one in
    the place of another, or moves one to another status. -/
inductive Commits (rt : AuthorityRuntime) (s : SigningStore) (context : SigningContext) :
    SigningStore → Prop
  | enrolled (use : AuthorizationUse) (row : CredentialRow) (event : CredentialEvent)
      (uses : Uses rt s context use) (opens : Opens s.credentials row event)
      (alone : row.replaces = none) :
      Commits rt s context
        ⟨s.authority, s.credentials ++ [row], s.events ++ [event], s.uses ++ [use]⟩
  | replaced (use : AuthorizationUse) (row old old' : CredentialRow)
      (event retired : CredentialEvent) (uses : Uses rt s context use)
      (opens : Opens s.credentials row event) (replaces : row.replaces = some old.credentialId)
      (found : old ∈ s.credentials) (turns : Turns old old' retired)
      (status : old'.status = .retired) (kept : old'.replaces = old.replaces)
      (link : old'.replacedBy = some row.credentialId) :
      Commits rt s context ⟨s.authority, replaceRow s.credentials old' ++ [row],
        s.events ++ [retired] ++ [event], s.uses ++ [use]⟩
  | moved (use : AuthorizationUse) (row row' : CredentialRow) (event : CredentialEvent)
      (uses : Uses rt s context use) (found : row ∈ s.credentials) (turns : Turns row row' event)
      (kept : row'.replaces = row.replaces) (link : row'.replacedBy = row.replacedBy) :
      Commits rt s context
        ⟨s.authority, replaceRow s.credentials row', s.events ++ [event], s.uses ++ [use]⟩

/-- An update of the one credential of an id. -/
theorem map_eq_replaceRow {f : CredentialRow → CredentialRow}
    (hids : (credentials.map CredentialRow.credentialId).Nodup) (hrow : row ∈ credentials)
    (hf : (f row).credentialId = row.credentialId) :
    (credentials.map fun other => if other.credentialId = row.credentialId then f other else other) =
      replaceRow credentials (f row) := by
  refine List.map_congr_left fun other hother => ?_
  rw [hf]
  split
  · rw [List.inj_on_of_nodup_map hids hother hrow ‹_›]
  · rfl

theorem replaceRow_concat (hne : other.credentialId ≠ row.credentialId) :
    replaceRow (credentials ++ [other]) row = replaceRow credentials row ++ [other] := by
  rw [replaceRow, List.map_append, List.map_singleton, if_neg hne, replaceRow]

theorem credentialRow_eq_some {id : String} (h : s.credentialRow id = some row) :
    row ∈ s.credentials ∧ row.credentialId = id :=
  ⟨List.mem_of_find?_eq_some h, by simpa using List.find?_some h⟩

/-- What the update of a credential under the trigger does. -/
theorem Lifecycle.turns (h : Lifecycle row row') (hevent : event.credentialId = row.credentialId)
    (hnumber : event.revision = row.revision + 1) (hprior : event.priorStatus = some row.status)
    (hnext : event.nextStatus = row'.status) : Turns row row' event := by
  obtain ⟨hsame, hrevision, hpasses⟩ := h
  have hid := congrArg CredentialRow.credentialId hsame
  exact ⟨hid, hrevision, hpasses, hevent, hnumber, hprior, hnext⟩

/-- The retirement of a credential for another. -/
theorem retireReplaced_eq_ok {old : String} {input : Enrollment} {context : SigningContext}
    {now : ℕ} (hids : (s.credentials.map CredentialRow.credentialId).Nodup)
    (h : s.retireReplaced old input context now = .ok s') :
    ∃ row row' event, row ∈ s.credentials ∧ row.credentialId = old ∧ Turns row row' event ∧
      row'.status = .retired ∧ row'.replaces = row.replaces ∧
      row'.replacedBy = some input.credentialId ∧
      s' = { s with
        credentials := replaceRow s.credentials row'
        events := s.events ++ [event] } := by
  simp only [SigningStore.retireReplaced, bind_eq_ok, demand_eq_ok, updateCredential_eq_ok] at h
  obtain ⟨row, hfound, _, ⟨hlifecycle, rfl⟩, hevent⟩ := h
  obtain ⟨hrow, rfl⟩ := credentialRow_eq_some hfound
  have hturn := hlifecycle row hrow rfl
  have hid := congrArg CredentialRow.credentialId hturn.1
  rw [insertEvent_eq_ok hevent, map_eq_replaceRow hids hrow hid]
  refine ⟨row, row.retiredFor input.credentialId, _, hrow, rfl, ?_, rfl, rfl, rfl, rfl⟩
  exact hturn.turns rfl rfl rfl rfl

/-- What is read back of a row. -/
theorem parse_eq_ok {c : Credential} (h : parse row = .ok c) : c = document row := by
  simp only [parse, bind_eq_ok, refuse_eq_ok, pure_eq_ok] at h
  obtain ⟨_, -, _, -, _, -, _, -, _, -, h⟩ := h
  exact h.symm

theorem replaced_eq_some {input : Enrollment} {id : String} (h : input.replaced = some id) :
    input.replaces = some id := by
  rw [Enrollment.replaced, Option.filter_eq_some_iff] at h
  exact h.1

theorem replaced_eq_none {input : Enrollment} {id : String} (h : input.replaced = none)
    (hid : input.replaces = some id) : id = "" := by
  rw [Enrollment.replaced, hid, Option.filter_eq_none_iff] at h
  simpa using h id rfl

theorem checkEnrollment_named {input : Enrollment} {context : SigningContext} {now : ℕ} {d : Digest}
    (h : checkEnrollment srt input context now = .ok d) : input.credentialId ≠ "" := by
  simp only [checkEnrollment, bind_eq_ok, refuse_eq_ok, exists_const, not_not] at h
  obtain ⟨-, -, hid, -⟩ := h
  intro hempty
  rw [hempty] at hid
  exact absurd hid (by decide)

/-- STEP: an enrollment that is committed. -/
theorem enrollment_commits {input : Enrollment} {context : SigningContext} {now : ℕ}
    (hs : History s) (h : s.enrollment rt srt input context now = .ok s') :
    Commits rt s context s' ∧ enrolledRow srt input now ∈ s'.credentials := by
  simp only [SigningStore.enrollment, bind_eq_ok, refuse_eq_ok, exists_const, not_not] at h
  obtain ⟨d, hcheck, s₁, hconsume, -, hprior, -, s₂, hinsert, h⟩ := h
  obtain ⟨hconsumes, rfl⟩ := consume_eq_ok hconsume
  obtain ⟨hfresh, hreplaces, rfl⟩ := insertCredential_eq_ok hinsert
  have hopens : Opens s.credentials (enrolledRow srt input now) (eventOf input.credentialId
      input.workspaceId input.principalId
      (if input.replaced = none then .enrolled else .recovered) none .active 1 now context) :=
    ⟨hfresh, checkEnrollment_named hcheck, rfl, rfl, rfl, rfl, rfl, rfl, rfl⟩
  have hids : ((s.credentials ++ [enrolledRow srt input now]).map
      CredentialRow.credentialId).Nodup := (hs.chronicle.opened hopens).ids
  cases hreplaced : input.replaced with
  | none =>
    have halone : input.replaces = none := by
      rw [Option.eq_none_iff_forall_ne_some]
      intro id hid
      obtain ⟨row, hrow⟩ := Option.ne_none_iff_exists'.1 (hreplaces id hid)
      obtain ⟨hmem, hsame⟩ := credentialRow_eq_some hrow
      exact hs.chronicle.named row hmem (hsame.trans (replaced_eq_none hreplaced hid))
    simp only [hreplaced, bind_eq_ok, pure_eq_ok, exists_eq_left'] at h
    rw [insertEvent_eq_ok h]
    refine ⟨.enrolled _ _ _ ⟨hconsumes, rfl⟩ ?_ halone, by simp⟩
    simpa only [hreplaced] using hopens
  | some id =>
    simp only [hreplaced, bind_eq_ok] at h
    obtain ⟨s₃, hretire, hevent⟩ := h
    obtain ⟨old, old', retired, hmem, rfl, hturns, hstatus, hkept, hlink, rfl⟩ :=
      retireReplaced_eq_ok hids hretire
    -- the credential that is replaced is not the new one
    have hne : input.credentialId ≠ old.credentialId := by
      intro hsame
      by_contra
      refine hprior ⟨old.credentialId, hreplaced, ?_⟩
      rintro ⟨other, hother, hid, -⟩
      exact hfresh other hother (hid.trans hsame.symm)
    have hold : old ∈ s.credentials := by
      rw [List.mem_append, List.mem_singleton] at hmem
      rcases hmem with hmem | rfl
      · exact hmem
      · exact absurd rfl hne
    rw [insertEvent_eq_ok hevent, replaceRow_concat (by rw [hturns.same]; exact hne)]
    refine ⟨.replaced _ _ old old' _ retired ⟨hconsumes, rfl⟩ ?_ (replaced_eq_some hreplaced) hold
      hturns hstatus hkept hlink, by simp⟩
    simpa only [hreplaced] using hopens

/-- STEP: a transition that is committed. -/
theorem transitionIn_commits {id : String} {next : SigningStatus} {context : SigningContext}
    {compromise : Option ℤ} {now : ℕ} (hs : History s)
    (h : s.transitionIn rt srt id next context compromise now = .ok s') :
    Commits rt s context s' ∧ ∃ row ∈ s.credentials, row.credentialId = id ∧
      parse row = .ok (document row) ∧ row.moved next ∈ s'.credentials := by
  simp only [SigningStore.transitionIn, bind_eq_ok, refuse_eq_ok, demand_eq_ok, exists_const,
    not_not, updateCredential_eq_ok] at h
  obtain ⟨-, -, -, row, hfound, prior, hparse, -, -, s₁, hconsume, s₂, ⟨hlifecycle, hupdate⟩, -,
    hevent⟩ := h
  obtain ⟨hrow, rfl⟩ := credentialRow_eq_some hfound
  obtain rfl := parse_eq_ok hparse
  obtain ⟨hconsumes, rfl⟩ := consume_eq_ok hconsume
  have hturn := hlifecycle row hrow rfl
  have hid := congrArg CredentialRow.credentialId hturn.1
  rw [← hupdate] at hevent
  rw [insertEvent_eq_ok hevent, map_eq_replaceRow hs.chronicle.ids hrow hid]
  refine ⟨.moved _ row (row.moved next) _ ⟨hconsumes, rfl⟩ hrow ?_ rfl rfl, row, hrow, rfl, hparse,
    mem_replaceRow_self hrow rfl⟩
  exact hturn.turns rfl rfl rfl rfl

/-! ### What a mutation keeps -/

/-- STEP: a committed mutation keeps the history. -/
theorem Commits.history {context : SigningContext} (hs : History s) (h : Commits rt s context s') :
    History s' := by
  have hnodup : ∀ {use}, Uses rt s context use →
      ((s.uses ++ [use]).map AuthorizationUse.authorityDecisionId).Nodup := by
    rintro use ⟨⟨_, _, hconsumes⟩, hdecision⟩
    rw [List.map_append, List.map_singleton, ← List.concat_eq_append, List.nodup_concat]
    refine ⟨?_, hs.uses⟩
    intro hmem
    obtain ⟨other, hother, hid⟩ := List.mem_map.1 hmem
    exact hconsumes.unused other hother (hid.trans hdecision)
  cases h with
  | enrolled use row event uses opens alone =>
    exact ⟨hnodup uses, hs.chronicle.opened opens, hs.links.opened alone opens.unreplaced⟩
  | replaced use row old old' event retired uses opens replaces found turns status kept link =>
    refine ⟨hnodup uses, (hs.chronicle.turned found turns).opened ?_,
      hs.links.replaced hs.chronicle.ids opens replaces found turns status kept link⟩
    refine { opens with fresh := fun other hother => ?_ }
    obtain rfl | ⟨hother, -⟩ := mem_replaceRow hother
    · rw [turns.same]
      exact opens.fresh old found
    · exact opens.fresh other hother
  | moved use row row' event uses found turns kept link =>
    refine ⟨hnodup uses, hs.chronicle.turned found turns, hs.links.turned hs.chronicle.ids found
      turns kept ?_⟩
    rw [link]
    exact hs.links.unreplaced found turns.passes

/-- STEP: a committed mutation leaves credentials in a final status alone. -/
theorem Commits.final {context : SigningContext} (hs : History s) (h : Commits rt s context s')
    {row : CredentialRow} (hrow : row ∈ s.credentials) (hfinal : row.status.Final) :
    row ∈ s'.credentials := by
  cases h with
  | enrolled => exact List.mem_append_left _ hrow
  | replaced use new old old' event retired uses opens replaces found turns =>
    exact List.mem_append_left _ (hs.chronicle.final_stays found turns hrow hfinal)
  | moved use old old' event uses found turns =>
    exact hs.chronicle.final_stays found turns hrow hfinal

/-- A committed mutation uses up its decision, which was not used before, and no other. -/
theorem Commits.uses {context : SigningContext} (h : Commits rt s context s') :
    ∃ use, Uses rt s context use ∧ s'.uses = s.uses ++ [use] := by
  cases h with
  | enrolled use _ _ uses => exact ⟨use, uses, rfl⟩
  | replaced use _ _ _ _ _ uses => exact ⟨use, uses, rfl⟩
  | moved use _ _ _ uses => exact ⟨use, uses, rfl⟩

/-- STEP: a transaction that is committed. -/
theorem transact_commits {mutation : SigningMutation} (hs : History s)
    (h : s.transact rt srt mutation = .ok s') : Commits rt s mutation.context s' := by
  cases mutation with
  | enroll input context now => exact (enrollment_commits hs h).1
  | transition id next context compromise now => exact (transitionIn_commits hs h).1

/-- What a mutation answers is read back of what it committed. -/
theorem perform_eq (mutation : SigningMutation) : s.perform rt srt mutation =
    s.answer mutation.credentialId (s.transact rt srt mutation) := by
  cases mutation <;> rfl

theorem perform_committed {mutation : SigningMutation}
    (h : s.transact rt srt mutation = .ok s') :
    s.perform rt srt mutation = (s', s'.get mutation.credentialId) := by
  rw [perform_eq, h, SigningStore.answer]

theorem perform_refused {mutation : SigningMutation} {e : AuthorityFailure}
    (h : s.transact rt srt mutation = .error e) : s.perform rt srt mutation = (s, .error e) := by
  rw [perform_eq, h, SigningStore.answer]

/-- A call commits a mutation or leaves the tables of the signing credentials alone. -/
theorem step_cases (rt : AuthorityRuntime) (srt : SigningRuntime) (hs : History s)
    (action : SigningAction) :
    (∃ mutation s', action = .mutate mutation ∧ s.transact rt srt mutation = .ok s' ∧
      s.step rt srt action = s' ∧ Commits rt s mutation.context s') ∨
    (s.step rt srt action).credentials = s.credentials ∧
      (s.step rt srt action).events = s.events ∧ (s.step rt srt action).uses = s.uses := by
  cases action with
  | authority action => exact .inr ⟨rfl, rfl, rfl⟩
  | mutate mutation =>
    cases h : s.transact rt srt mutation with
    | ok s' =>
      refine .inl ⟨mutation, s', rfl, h, ?_, transact_commits hs h⟩
      rw [SigningStore.step, perform_committed h]
    | error e =>
      refine .inr ?_
      rw [SigningStore.step, perform_refused h]
      exact ⟨rfl, rfl, rfl⟩

/-- STEP: every call keeps the history. -/
theorem history_step (hs : History s) (action : SigningAction) :
    History (s.step rt srt action) := by
  obtain ⟨_, s', -, -, rfl, hcommits⟩ | ⟨hcredentials, hevents, huses⟩ :=
    step_cases rt srt hs action
  · exact hcommits.history hs
  · refine ⟨?_, ?_, ?_⟩
    · rw [huses]
      exact hs.uses
    · rw [hcredentials, hevents]
      exact hs.chronicle
    · rw [hcredentials]
      exact hs.links

/-- RUN: every run keeps the history. -/
theorem history_run (hs : History s) (actions : List SigningAction) :
    History (s.run rt srt actions) :=
  run_invariant' (I := History) (fun _ action h => history_step h action) actions hs

theorem history_empty : History SigningStore.empty where
  uses := List.nodup_nil
  chronicle := ⟨List.nodup_nil, by simp [SigningStore.empty], by simp [SigningStore.empty],
    by simp [SigningStore.empty], by simp [SigningStore.empty]⟩
  links := ⟨by simp [SigningStore.empty], by simp [SigningStore.empty],
    by simp [SigningStore.empty]⟩

/-- RUN: a credential stays as it is in a final status. -/
theorem final_run (hs : History s) (actions : List SigningAction) {row : CredentialRow}
    (hrow : row ∈ s.credentials) (hfinal : row.status.Final) :
    row ∈ (s.run rt srt actions).credentials := by
  refine (run_invariant' (I := fun t => History t ∧ row ∈ t.credentials) ?_ actions
    ⟨hs, hrow⟩).2
  rintro t action ⟨ht, hmem⟩
  refine ⟨history_step ht action, ?_⟩
  obtain ⟨_, s', -, -, rfl, hcommits⟩ | ⟨hcredentials, -⟩ :=
    step_cases rt srt ht action
  · exact hcommits.final ht hmem hfinal
  · rw [hcredentials]
    exact hmem

/-- RUN: a use of a decision stays. -/
theorem uses_run (hs : History s) (actions : List SigningAction) {use : AuthorizationUse}
    (huse : use ∈ s.uses) : use ∈ (s.run rt srt actions).uses := by
  refine (run_invariant' (I := fun t => History t ∧ use ∈ t.uses) ?_ actions ⟨hs, huse⟩).2
  rintro t action ⟨ht, hmem⟩
  refine ⟨history_step ht action, ?_⟩
  obtain ⟨_, s', -, -, rfl, hcommits⟩ | ⟨-, -, huses⟩ :=
    step_cases rt srt ht action
  · obtain ⟨use', -, heq⟩ := hcommits.uses
    rw [heq]
    exact List.mem_append_left _ hmem
  · rw [huses]
    exact hmem

end Tasq.Signing
