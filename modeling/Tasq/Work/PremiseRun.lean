import Mathlib.Tactic
import Tasq.Lib.Run
import Tasq.Work.Premises

/-! The premises of a workspace over whole runs.

    Every record of a premise stays where it was filed, beside the premise it names. So the state
    that a mutation reads off the records of its task shows all there is about a proposal, and a
    decision is the only one on it. -/

namespace Tasq

open Text Outcome OpenRows Run

/-- What is asked of the premises of a workspace. The other services leave their records alone and
    may change everything else. -/
inductive PremiseAction where
  | create (parsed : TaskInsert) (requested : PremiseInput) (observed : Option Digest)
      (ctx : PrincipalContext) (freshId : UuidV7)
  | mutate (taskId : UuidV7) (mutation : PremiseMutation) (ctx : PrincipalContext)
      (freshId invalidationId : UuidV7)
  | elsewhere (left : WorkStore)

namespace WorkStore

variable (s : WorkStore) (rt : WorkRuntime)

/-- One call, or a change elsewhere. -/
def premiseStep : PremiseAction → WorkStore
  | .create parsed requested observed ctx freshId =>
    settle s (Prod.fst <$> s.createTaskWithPremise rt parsed requested observed ctx freshId)
  | .mutate taskId mutation ctx freshId invalidationId =>
    settle s (Prod.fst <$> s.appendPremiseMutation rt taskId mutation ctx freshId invalidationId)
  | .elsewhere left => { left with premises := s.premises }

/-! ### What the records say -/

/-- The record is filed under the id, at the task. -/
def FiledAt (k taskId : UuidV7) (value : PremiseValue) : Prop :=
  ∃ r, s.premises[k]? = some r ∧ r.recordId = taskId ∧ r.value = value

/-- The record is filed under the id. -/
def Filed (k : UuidV7) (value : PremiseValue) : Prop := ∃ taskId, s.FiledAt k taskId value

/-- The premise has been invalidated. -/
def Invalidated (premiseId : UuidV7) : Prop :=
  ∃ k i, s.Filed k (.invalidation i) ∧ i.premiseId = premiseId

/-- A refuting proposal on the premise has been accepted. -/
def Refuted (premiseId : UuidV7) : Prop :=
  ∃ k d p, s.Filed k (.decision d) ∧ d.premiseId = premiseId ∧ d.outcome = .accepted ∧
    s.Filed d.proposalId (.proposal p) ∧ p.verdict = .refute

/-- INVARIANT: the premises of a workspace are judged by their rules. -/
structure Judged : Prop where
  decided_once : ∀ k k' d d', s.Filed k (.decision d) → s.Filed k' (.decision d') →
    d.proposalId = d'.proposalId → k = k'
  by_adjudicator : ∀ k d k' c, s.Filed k (.decision d) → d.outcome = .accepted →
    s.Filed k' (.challenge c) → c.proposalId = d.proposalId →
    ∃ v, s.Filed d.premiseId (.premise v) ∧ d.decidedByPrincipalId ∈ v.adjudicatorPrincipalIds
  invalidated_iff : ∀ premiseId, s.Invalidated premiseId ↔ s.Refuted premiseId
  invalidated_once : ∀ k k' i i', s.Filed k (.invalidation i) → s.Filed k' (.invalidation i') →
    i.premiseId = i'.premiseId → k = k'

/-- What was open on the task is closed: every live claim is released, every active attempt is
    cancelled, and none is left. -/
structure Stopped (s s' : WorkStore) (taskId : UuidV7) : Prop where
  released : ∀ (k : UuidV7) c, s.claims[k]? = some c → c.taskId = taskId → c.releasedAt = none →
    ∃ c', s'.claims[k]? = some c' ∧ c'.releasedAt ≠ none
  cancelled : ∀ (k : UuidV7) a, s.attempts[k]? = some a → a.taskId = taskId → a.status.Active →
    ∃ a', s'.attempts[k]? = some a' ∧ a'.status = .cancelled
  no_claim : ∀ (k : UuidV7) c, s'.claims[k]? = some c → c.taskId = taskId → c.releasedAt ≠ none
  no_attempt : ∀ (k : UuidV7) a, s'.attempts[k]? = some a → a.taskId = taskId → ¬ a.status.Active

end WorkStore

/-! ### Where records are filed -/

/-- The premise that a record names. -/
def PremiseValue.premiseId? : PremiseValue → Option UuidV7
  | .premise _ => none
  | .proposal value => some value.premiseId
  | .challenge value => some value.premiseId
  | .decision value => some value.premiseId
  | .invalidation value => some value.premiseId

/-- The proposal that a record names. -/
def PremiseValue.proposalId? : PremiseValue → Option UuidV7
  | .premise _ => none
  | .proposal _ => none
  | .challenge value => some value.proposalId
  | .decision value => some value.proposalId
  | .invalidation value => some value.proposalId

namespace WorkStore

/-- INVARIANT: a record is filed at the task of the premise and of the proposal that it names. -/
structure Placed (s : WorkStore) : Prop where
  premise : ∀ k t v, s.FiledAt k t v → ∀ m ∈ v.premiseId?, ∃ w, s.FiledAt m t (.premise w)
  proposal : ∀ k t v, s.FiledAt k t v → ∀ p ∈ v.proposalId?, ∃ w, s.FiledAt p t (.proposal w)

variable {s s' : WorkStore} {rt : WorkRuntime} {k k' t t' taskId : UuidV7} {v v' : PremiseValue}

theorem FiledAt.unique (h : s.FiledAt k t v) (h' : s.FiledAt k t' v') : t = t' ∧ v = v' := by
  obtain ⟨r, hr, rfl, rfl⟩ := h
  obtain ⟨r', hr', rfl, rfl⟩ := h'
  rw [hr, Option.some.injEq] at hr'
  exact hr' ▸ ⟨rfl, rfl⟩

theorem FiledAt.filed (h : s.FiledAt k t v) : s.Filed k v := ⟨t, h⟩

theorem mem_refsOf {α : Type} {select : PremiseValue → Option α} {e : UuidV7 × α} :
    e ∈ refsOf select (s.refsForTask taskId) ↔
      ∃ r, s.premises[e.1]? = some r ∧ r.recordId = taskId ∧ select r.value = some e.2 := by
  obtain ⟨k, a⟩ := e
  simp only [refsOf, refsForTask, List.mem_filterMap, Table.mem_rows, decide_eq_true_eq,
    Option.map_eq_some_iff, Prod.mk.injEq, Prod.exists]
  constructor
  · rintro ⟨k', r, ⟨hr, htask⟩, _, hselect, rfl, rfl⟩
    exact ⟨r, hr, htask, hselect⟩
  · rintro ⟨r, hr, htask, hselect⟩
    exact ⟨k, r, ⟨hr, htask⟩, a, hselect, rfl, rfl⟩

/-- The state of a premise is what is filed at its task. -/
structure Reads (s : WorkStore) (taskId : UuidV7) (state : TaskPremiseState) : Prop where
  premise : s.FiledAt state.premise.1 taskId (.premise state.premise.2)
  proposals : ∀ e, e ∈ state.proposals ↔ s.FiledAt e.1 taskId (.proposal e.2)
  challenges : ∀ e, e ∈ state.challenges ↔ s.FiledAt e.1 taskId (.challenge e.2)
  decisions : ∀ e, e ∈ state.decisions ↔ s.FiledAt e.1 taskId (.decision e.2)
  invalidation : state.invalidation = none → ∀ k i, ¬ s.FiledAt k taskId (.invalidation i)

theorem getTaskPremiseState_reads {state : TaskPremiseState}
    (h : s.getTaskPremiseState taskId = .ok (some state)) : s.Reads taskId state := by
  simp only [getTaskPremiseState, bind_eq_ok] at h
  obtain ⟨_, -, _, -, h⟩ := h
  split at h
  · cases h
  · rename_i premise hpremise
    simp only [bind_eq_ok, pure_eq_ok, Option.some.injEq] at h
    obtain ⟨_, -, _, -, rfl⟩ := h
    have hselect : ∀ {α : Type} (select : PremiseValue → Option α) (wrap : α → PremiseValue),
        (∀ v a, select v = some a ↔ v = wrap a) → ∀ e : UuidV7 × α,
          e ∈ refsOf select (s.refsForTask taskId) ↔ s.FiledAt e.1 taskId (wrap e.2) := by
      intro α select wrap hwrap e
      simp only [mem_refsOf, FiledAt, hwrap]
    refine ⟨?_, ?_, ?_, ?_, ?_⟩
    · refine (hselect PremiseValue.premise? PremiseValue.premise ?_ premise).1 ?_
      · rintro (_ | _) a <;> simp [PremiseValue.premise?]
      · rw [hpremise]
        exact List.mem_singleton.2 rfl
    · refine hselect PremiseValue.proposal? PremiseValue.proposal ?_
      rintro (_ | _) a <;> simp [PremiseValue.proposal?]
    · refine hselect PremiseValue.challenge? PremiseValue.challenge ?_
      rintro (_ | _) a <;> simp [PremiseValue.challenge?]
    · refine hselect PremiseValue.decision? PremiseValue.decision ?_
      rintro (_ | _) a <;> simp [PremiseValue.decision?]
    · intro hnone k i hfiled
      have hmem := (hselect PremiseValue.invalidation? PremiseValue.invalidation
        (by rintro (_ | _) a <;> simp [PremiseValue.invalidation?]) (k, i)).2 hfiled
      rw [List.head?_eq_none_iff.1 hnone] at hmem
      cases hmem
  · cases h

/-! ### What a mutation appends -/

/-- The record may be appended at the task, with or without an invalidation of the premise. -/
inductive Allowed (s : WorkStore) (taskId premiseId : UuidV7) :
    PremiseValue → Option (UuidV7 × String) → Prop where
  | attached (v : TaskPremise) : Allowed s taskId premiseId (.premise v) none
  | proposed (p : TaskPremiseProposal) (v : TaskPremise) (hnames : p.premiseId = premiseId)
    (hbasis : s.FiledAt premiseId taskId (.premise v)) :
    Allowed s taskId premiseId (.proposal p) none
  | challenged (c : TaskPremiseChallenge) (p : TaskPremiseProposal) (v : TaskPremise)
    (hnames : c.premiseId = premiseId) (hbasis : s.FiledAt premiseId taskId (.premise v))
    (hproposal : s.FiledAt c.proposalId taskId (.proposal p))
    (hopen : ∀ k d, s.FiledAt k taskId (.decision d) → d.proposalId ≠ c.proposalId) :
    Allowed s taskId premiseId (.challenge c) none
  | decided (d : TaskPremiseDecision) (p : TaskPremiseProposal) (v : TaskPremise)
    (invalidate : Option (UuidV7 × String)) (hnames : d.premiseId = premiseId)
    (hbasis : s.FiledAt premiseId taskId (.premise v))
    (hproposal : s.FiledAt d.proposalId taskId (.proposal p))
    (hopen : ∀ k d', s.FiledAt k taskId (.decision d') → d'.proposalId ≠ d.proposalId)
    (hfair : d.outcome = .accepted → ∀ k c, s.FiledAt k taskId (.challenge c) →
      c.proposalId = d.proposalId → d.decidedByPrincipalId ∈ v.adjudicatorPrincipalIds)
    (hrefuted : ∀ refuted ∈ invalidate, refuted.1 = d.proposalId)
    (hinvalidate : invalidate.isSome ↔ d.outcome = .accepted ∧ p.verdict = .refute)
    (hstanding : ∀ k i, ¬ s.FiledAt k taskId (.invalidation i)) :
    Allowed s taskId premiseId (.decision d) invalidate

theorem undecided_eq_ok {state : TaskPremiseState} {proposalId : UuidV7} {message : String}
    {proposal : UuidV7 × TaskPremiseProposal}
    (h : state.undecided proposalId message = .ok proposal) (hreads : s.Reads taskId state) :
    state.invalidation = none ∧ s.FiledAt proposal.1 taskId (.proposal proposal.2) ∧
      ∀ k d, s.FiledAt k taskId (.decision d) → d.proposalId ≠ proposal.1 := by
  simp only [TaskPremiseState.undecided, bind_eq_ok, demand_eq_ok, refuse_eq_ok, pure_eq_ok,
    Bool.not_eq_true, Option.isSome_eq_false_iff, Option.isNone_iff_eq_none] at h
  obtain ⟨_, hnone, found, hfound, _, hopen, rfl⟩ := h
  refine ⟨hnone, (hreads.proposals found).1 (List.mem_of_find?_eq_some hfound), ?_⟩
  intro k d hd heq
  exact hopen ⟨(k, d), (hreads.decisions (k, d)).2 hd, heq⟩

/-- BUILD: one case for each mutation. -/
theorem buildMutation_allowed {s₁ : WorkStore} {mutation : PremiseMutation}
    {state : TaskPremiseState} {principal : Principal} {now : UnixMs} {built : MutationBuild}
    (h : s₁.buildMutation taskId mutation state principal now = .ok built)
    (hreads : s.Reads taskId state) :
    s.Allowed taskId state.premise.1 built.value built.invalidate := by
  cases mutation with
  | propose verdict evidenceIds rationale =>
    simp only [buildMutation, bind_eq_ok, pure_eq_ok] at h
    obtain ⟨_, -, _, -, rfl⟩ := h
    exact .proposed _ _ rfl hreads.premise
  | challenge proposalId counterEvidenceIds rationale =>
    simp only [buildMutation, bind_eq_ok, pure_eq_ok] at h
    obtain ⟨proposal, hproposal, _, -, rfl⟩ := h
    obtain ⟨-, hfiled, hopen⟩ := undecided_eq_ok hproposal hreads
    exact .challenged _ proposal.2 _ rfl hreads.premise hfiled hopen
  | decide proposalId outcome rationale =>
    simp only [buildMutation, bind_eq_ok] at h
    obtain ⟨proposal, hproposal, h⟩ := h
    obtain ⟨hnone, hfiled, hopen⟩ := undecided_eq_ok hproposal hreads
    simp only [TaskPremiseState.decide, bind_eq_ok, refuse_eq_ok, pure_eq_ok] at h
    obtain ⟨_, -, _, -, _, hadjudicator, rfl⟩ := h
    refine .decided _ proposal.2 state.premise.2 _ rfl hreads.premise hfiled hopen ?_ ?_ ?_
      (hreads.invalidation hnone)
    · intro haccepted k c hc heq
      by_contra hnot
      refine hadjudicator ⟨fun hnil => ?_, haccepted, hnot⟩
      have hmem : (k, c) ∈ state.challenges.filter (·.2.proposalId = proposal.1) :=
        List.mem_filter.2 ⟨(hreads.challenges (k, c)).2 hc, by simpa using heq⟩
      rw [hnil] at hmem
      cases hmem
    · intro refuted hsome
      split at hsome
      · simp only [Option.mem_def, Option.some.injEq] at hsome
        exact hsome ▸ rfl
      · cases hsome
    · split <;> simp_all

/-- The invalidation that goes with a decision. -/
def invalidationOf (taskId premiseId decisionId : UuidV7) (refuted : UuidV7 × String)
    (principalId : String) (now : UnixMs) : PremiseValue :=
  .invalidation ⟨taskId, premiseId, refuted.1, decisionId, principalId, now, refuted.2⟩

/-- One more record is filed, with the invalidation that goes with it. -/
structure Grows (s s' : WorkStore) (taskId premiseId k k₂ : UuidV7) (v : PremiseValue)
    (invalidate : Option (UuidV7 × String)) (principalId : String) (now : UnixMs) : Prop where
  allowed : s.Allowed taskId premiseId v invalidate
  fresh : ∀ t v, ¬ s.FiledAt k t v
  kept : ∀ k t v, s.FiledAt k t v → s'.FiledAt k t v
  filed : s'.FiledAt k taskId v
  invalidated : ∀ refuted ∈ invalidate,
    s'.FiledAt k₂ taskId (invalidationOf taskId premiseId k refuted principalId now)
  cases : ∀ k' t' v', s'.FiledAt k' t' v' → s.FiledAt k' t' v' ∨
    (k' = k ∧ t' = taskId ∧ v' = v) ∨ ∃ refuted ∈ invalidate, k' = k₂ ∧ t' = taskId ∧
      v' = invalidationOf taskId premiseId k refuted principalId now

section

variable {premiseId k₂ : UuidV7} {invalidate : Option (UuidV7 × String)} {principalId : String}
  {now : UnixMs}

/-- STEP: the records stay placed. -/
theorem Grows.placed (h : Grows s s' taskId premiseId k k₂ v invalidate principalId now)
    (hs : s.Placed) : s'.Placed := by
  have hnew : (∀ m ∈ v.premiseId?, ∃ w, s.FiledAt m taskId (.premise w)) ∧
      (∀ p ∈ v.proposalId?, ∃ w, s.FiledAt p taskId (.proposal w)) ∧
      ∀ refuted ∈ invalidate, (∃ w, s.FiledAt premiseId taskId (.premise w)) ∧
        ∃ w, s.FiledAt refuted.1 taskId (.proposal w) := by
    cases h.allowed with
    | attached => simp [PremiseValue.premiseId?, PremiseValue.proposalId?]
    | proposed p w hnames hbasis =>
      simpa [PremiseValue.premiseId?, PremiseValue.proposalId?, hnames] using ⟨w, hbasis⟩
    | challenged c p w hnames hbasis hproposal hopen =>
      simpa [PremiseValue.premiseId?, PremiseValue.proposalId?, hnames] using
        ⟨⟨w, hbasis⟩, p, hproposal⟩
    | decided d p w _ hnames hbasis hproposal hopen hfair hrefuted hinvalidate hstanding =>
      refine ⟨?_, ?_, fun refuted hmem => ⟨⟨w, hbasis⟩, p, hrefuted refuted hmem ▸ hproposal⟩⟩
      · simpa [PremiseValue.premiseId?, hnames] using ⟨w, hbasis⟩
      · simpa [PremiseValue.proposalId?] using ⟨p, hproposal⟩
  obtain ⟨hpremise, hproposal, hinvalidated⟩ := hnew
  constructor
  · intro k' t' v' hfiled m hm
    obtain hold | ⟨-, rfl, rfl⟩ | ⟨refuted, hmem, -, rfl, rfl⟩ := h.cases k' t' v' hfiled
    · obtain ⟨w, hw⟩ := hs.premise k' t' v' hold m hm
      exact ⟨w, h.kept _ _ _ hw⟩
    · obtain ⟨w, hw⟩ := hpremise m hm
      exact ⟨w, h.kept _ _ _ hw⟩
    · obtain ⟨w, hw⟩ := (hinvalidated refuted hmem).1
      simp only [invalidationOf, PremiseValue.premiseId?, Option.mem_def, Option.some.injEq] at hm
      exact ⟨w, hm ▸ h.kept _ _ _ hw⟩
  · intro k' t' v' hfiled p hp
    obtain hold | ⟨-, rfl, rfl⟩ | ⟨refuted, hmem, -, rfl, rfl⟩ := h.cases k' t' v' hfiled
    · obtain ⟨w, hw⟩ := hs.proposal k' t' v' hold p hp
      exact ⟨w, h.kept _ _ _ hw⟩
    · obtain ⟨w, hw⟩ := hproposal p hp
      exact ⟨w, h.kept _ _ _ hw⟩
    · obtain ⟨w, hw⟩ := (hinvalidated refuted hmem).2
      simp only [invalidationOf, PremiseValue.proposalId?, Option.mem_def, Option.some.injEq] at hp
      exact ⟨w, hp ▸ h.kept _ _ _ hw⟩

/-- Records that name one proposal are filed at one task. -/
theorem Placed.task_of_proposal (hs : s.Placed) {id : UuidV7} {p : TaskPremiseProposal}
    (h : s.FiledAt k t v) (hid : id ∈ v.proposalId?) (hp : s.FiledAt id taskId (.proposal p)) :
    t = taskId := by
  obtain ⟨w, hw⟩ := hs.proposal k t v h id hid
  exact (hw.unique hp).1

/-- STEP: no proposal is decided twice. -/
theorem Grows.decided_once (h : Grows s s' taskId premiseId k k₂ v invalidate principalId now)
    (hs : s.Judged) (hp : s.Placed) {k₁ k' : UuidV7} {d d' : TaskPremiseDecision}
    (hd : s'.Filed k₁ (.decision d)) (hd' : s'.Filed k' (.decision d'))
    (heq : d.proposalId = d'.proposalId) : k₁ = k' := by
  -- a new decision is the first on its proposal
  have hnew : ∀ {t₀ k₀ d₀ d₁}, v = .decision d₁ → s.FiledAt k₀ t₀ (.decision d₀) →
      d₀.proposalId ≠ d₁.proposalId := by
    intro t₀ k₀ d₀ d₁ hv hold hsame
    cases h.allowed with
    | attached => cases hv
    | proposed => cases hv
    | challenged => cases hv
    | decided d₂ p w _ hnames hbasis hproposal hopen =>
      cases hv
      have htask : t₀ = taskId := hp.task_of_proposal hold rfl (hsame ▸ hproposal)
      exact hopen k₀ d₀ (htask ▸ hold) hsame
  obtain ⟨t₁, hd⟩ := hd
  obtain ⟨t₂, hd'⟩ := hd'
  obtain hold | ⟨rfl, -, hv⟩ | ⟨_, -, -, -, hinv⟩ := h.cases _ _ _ hd
  · obtain hold' | ⟨rfl, -, hv⟩ | ⟨_, -, -, -, hinv⟩ := h.cases _ _ _ hd'
    · exact hs.decided_once _ _ _ _ hold.filed hold'.filed heq
    · exact absurd heq (hnew hv.symm hold)
    · cases hinv
  · obtain hold' | ⟨rfl, -, -⟩ | ⟨_, -, -, -, hinv⟩ := h.cases _ _ _ hd'
    · exact absurd heq.symm (hnew hv.symm hold')
    · rfl
    · cases hinv
  · cases hinv

/-- STEP: a challenged proposal is accepted by an adjudicator. -/
theorem Grows.by_adjudicator (h : Grows s s' taskId premiseId k k₂ v invalidate principalId now)
    (hs : s.Judged) (hp : s.Placed) {k₁ k' : UuidV7} {d : TaskPremiseDecision}
    {c : TaskPremiseChallenge} (hd : s'.Filed k₁ (.decision d)) (haccepted : d.outcome = .accepted)
    (hc : s'.Filed k' (.challenge c)) (heq : c.proposalId = d.proposalId) :
    ∃ w, s'.Filed d.premiseId (.premise w) ∧
      d.decidedByPrincipalId ∈ w.adjudicatorPrincipalIds := by
  obtain ⟨t₁, hd⟩ := hd
  obtain ⟨t₂, hc⟩ := hc
  obtain hold | ⟨-, -, hv⟩ | ⟨_, -, -, -, hinv⟩ := h.cases _ _ _ hd
  · obtain hold' | ⟨-, -, hv⟩ | ⟨_, -, -, -, hinv⟩ := h.cases _ _ _ hc
    · obtain ⟨w, ⟨t₃, hw⟩, hmem⟩ := hs.by_adjudicator _ _ _ _ hold.filed haccepted hold'.filed heq
      exact ⟨w, (h.kept _ _ _ hw).filed, hmem⟩
    · -- a decided proposal is not challenged
      cases h.allowed with
      | attached => cases hv
      | proposed => cases hv
      | decided => cases hv
      | challenged c' p w hnames hbasis hproposal hopen =>
        cases hv
        have htask : t₁ = taskId := hp.task_of_proposal hold rfl (heq ▸ hproposal)
        exact absurd heq.symm (hopen k₁ d (htask ▸ hold))
    · cases hinv
  · obtain hold' | ⟨-, -, hv'⟩ | ⟨_, -, -, -, hinv⟩ := h.cases _ _ _ hc
    · cases h.allowed with
      | attached => cases hv
      | proposed => cases hv
      | challenged => cases hv
      | decided d' p w _ hnames hbasis hproposal hopen hfair =>
        cases hv
        have htask : t₂ = taskId := hp.task_of_proposal hold' rfl (heq ▸ hproposal)
        refine ⟨w, ?_, hfair haccepted k' c (htask ▸ hold') heq⟩
        rw [hnames]
        exact (h.kept _ _ _ hbasis).filed
    · cases hv.trans hv'.symm
    · cases hinv
  · cases hinv

/-- A record that was filed is what the id stands for. -/
theorem Grows.old (h : Grows s s' taskId premiseId k k₂ v invalidate principalId now)
    {k' t₁ t₂ : UuidV7} {v₁ v₂ : PremiseValue} (hold : s.FiledAt k' t₁ v₁)
    (hnew : s'.FiledAt k' t₂ v₂) : t₁ = t₂ ∧ v₁ = v₂ :=
  (h.kept _ _ _ hold).unique hnew

/-- STEP: a premise is invalidated exactly when a refuting proposal on it has been accepted. -/
theorem Grows.invalidated_iff (h : Grows s s' taskId premiseId k k₂ v invalidate principalId now)
    (hs : s.Judged) (hp : s.Placed) (m : UuidV7) : s'.Invalidated m ↔ s'.Refuted m := by
  constructor
  · rintro ⟨k₁, i, ⟨t₁, hi⟩, rfl⟩
    obtain hold | ⟨-, -, hv⟩ | ⟨refuted, hmem, -, -, hinv⟩ := h.cases _ _ _ hi
    · obtain ⟨k', d, p, ⟨t₂, hd⟩, hnames, haccepted, ⟨t₃, hproposal⟩, hverdict⟩ :=
        (hs.invalidated_iff _).1 ⟨k₁, i, hold.filed, rfl⟩
      exact ⟨k', d, p, (h.kept _ _ _ hd).filed, hnames, haccepted,
        (h.kept _ _ _ hproposal).filed, hverdict⟩
    · cases h.allowed <;> cases hv
    · have hallowed := h.allowed
      have hfiled := h.filed
      cases hallowed with
      | attached => cases hmem
      | proposed => cases hmem
      | challenged => cases hmem
      | decided d p w _ hnames hbasis hproposal hopen hfair hrefuted hinvalidate hstanding =>
        obtain ⟨haccepted, hverdict⟩ := hinvalidate.1 (Option.isSome_iff_exists.2 ⟨_, hmem⟩)
        cases hinv
        exact ⟨k, d, p, hfiled.filed, hnames, haccepted, (h.kept _ _ _ hproposal).filed, hverdict⟩
  · rintro ⟨k₁, d, p, ⟨t₁, hd⟩, rfl, haccepted, ⟨t₂, hproposal⟩, hverdict⟩
    obtain hold | ⟨-, -, hv⟩ | ⟨_, -, -, -, hinv⟩ := h.cases _ _ _ hd
    · obtain ⟨w, hw⟩ := hp.proposal _ _ _ hold _ rfl
      obtain ⟨-, heq⟩ := h.old hw hproposal
      cases heq
      obtain ⟨k', i, ⟨t₃, hi⟩, hnames⟩ :=
        (hs.invalidated_iff _).2 ⟨k₁, d, p, hold.filed, rfl, haccepted, hw.filed, hverdict⟩
      exact ⟨k', i, (h.kept _ _ _ hi).filed, hnames⟩
    · cases h.allowed with
      | attached => cases hv
      | proposed => cases hv
      | challenged => cases hv
      | decided d' p' w _ hnames hbasis hproposal' hopen hfair hrefuted hinvalidate hstanding =>
        cases hv
        obtain ⟨-, heq⟩ := h.old hproposal' hproposal
        cases heq
        obtain ⟨refuted, hmem⟩ := Option.isSome_iff_exists.1 (hinvalidate.2 ⟨haccepted, hverdict⟩)
        exact ⟨k₂, _, (h.invalidated refuted hmem).filed, hnames.symm⟩
    · cases hinv

/-- STEP: a premise is invalidated once. -/
theorem Grows.invalidated_once (h : Grows s s' taskId premiseId k k₂ v invalidate principalId now)
    (hs : s.Judged) (hp : s.Placed) {k₁ k' : UuidV7} {i i' : TaskPremiseInvalidation}
    (hi : s'.Filed k₁ (.invalidation i)) (hi' : s'.Filed k' (.invalidation i'))
    (heq : i.premiseId = i'.premiseId) : k₁ = k' := by
  -- a premise that is invalidated now was standing
  have hnew : ∀ {t₀ k₀ i₀ i₁ refuted}, refuted ∈ invalidate →
      PremiseValue.invalidation i₁ = invalidationOf taskId premiseId k refuted principalId now →
        s.FiledAt k₀ t₀ (.invalidation i₀) → i₀.premiseId ≠ i₁.premiseId := by
    intro t₀ k₀ i₀ i₁ refuted hmem hinv hold hsame
    cases h.allowed with
    | attached => cases hmem
    | proposed => cases hmem
    | challenged => cases hmem
    | decided d p w _ hnames hbasis hproposal hopen hfair hrefuted hinvalidate hstanding =>
      cases hinv
      have hpremise : i₀.premiseId = premiseId := hsame
      obtain ⟨w', hw'⟩ := hp.premise _ _ _ hold _ rfl
      have htask : t₀ = taskId := (hw'.unique (hpremise ▸ hbasis)).1
      exact hstanding k₀ i₀ (htask ▸ hold)
  have hvalue : ∀ i₀, v ≠ .invalidation i₀ := by
    intro i₀ hv
    cases h.allowed <;> cases hv
  obtain ⟨t₁, hi⟩ := hi
  obtain ⟨t₂, hi'⟩ := hi'
  obtain hold | ⟨-, -, hv⟩ | ⟨refuted, hmem, rfl, -, hinv⟩ := h.cases _ _ _ hi
  · obtain hold' | ⟨-, -, hv⟩ | ⟨refuted, hmem, rfl, -, hinv⟩ := h.cases _ _ _ hi'
    · exact hs.invalidated_once _ _ _ _ hold.filed hold'.filed heq
    · exact absurd hv.symm (hvalue i')
    · exact absurd heq (hnew hmem hinv hold)
  · exact absurd hv.symm (hvalue i)
  · obtain hold' | ⟨-, -, hv⟩ | ⟨_, _, rfl, -, -⟩ := h.cases _ _ _ hi'
    · exact absurd heq.symm (hnew hmem hinv hold')
    · exact absurd hv.symm (hvalue i')
    · rfl

/-- STEP: the premises stay judged by their rules. -/
theorem Grows.judged (h : Grows s s' taskId premiseId k k₂ v invalidate principalId now)
    (hs : s.Judged) (hp : s.Placed) : s'.Judged where
  decided_once _ _ _ _ := h.decided_once hs hp
  by_adjudicator _ _ _ _ := h.by_adjudicator hs hp
  invalidated_iff := h.invalidated_iff hs hp
  invalidated_once _ _ _ _ := h.invalidated_once hs hp

end

/-! ### The calls -/

theorem FiledAt.same (heq : s'.premises = s.premises) : s'.FiledAt k t v ↔ s.FiledAt k t v := by
  rw [FiledAt, FiledAt, heq]

/-- What leaves the records alone leaves the judgement alone. -/
theorem Judged.same (hs : s.Judged) (heq : s'.premises = s.premises) : s'.Judged := by
  have hfiled : ∀ k v, s'.Filed k v ↔ s.Filed k v := fun k v =>
    exists_congr fun t => FiledAt.same heq
  obtain ⟨h₁, h₂, h₃, h₄⟩ := hs
  simp only [Invalidated, Refuted] at h₃
  constructor
  · simpa only [hfiled] using h₁
  · simpa only [hfiled] using h₂
  · simpa only [Invalidated, Refuted, hfiled] using h₃
  · simpa only [hfiled] using h₄

theorem Placed.same (hs : s.Placed) (heq : s'.premises = s.premises) : s'.Placed := by
  obtain ⟨h₁, h₂⟩ := hs
  constructor
  · simpa only [FiledAt.same heq] using h₁
  · simpa only [FiledAt.same heq] using h₂

theorem insertTypedRef_eq_ok {ref : PremiseRef} (h : s.insertTypedRef k ref = .ok s') :
    k ∉ s.premises ∧ s' = { s with premises := s.premises.insert k ref } := by
  simp only [insertTypedRef, bind_eq_ok, refuse_eq_ok, not_or, pure_eq_ok] at h
  obtain ⟨_, ⟨hfresh, -⟩, rfl⟩ := h
  exact ⟨hfresh, rfl⟩

/-- One more record, beside those that were filed. -/
theorem filedAt_insert {ref : PremiseRef} (hfresh : k ∉ s.premises)
    (heq : s'.premises = s.premises.insert k ref) {t' : UuidV7} :
    s'.FiledAt k' t' v' ↔
      s.FiledAt k' t' v' ∨ k' = k ∧ t' = ref.recordId ∧ v' = ref.value := by
  simp only [FiledAt, heq, Std.ExtTreeMap.getElem?_insert, compare_eq_iff_eq]
  by_cases hk : k = k'
  · subst hk
    have hnone : s.premises[k]? = none := Std.ExtTreeMap.getElem?_eq_none hfresh
    simp [hnone, eq_comm]
  · simp [hk, Ne.symm hk]

theorem not_filedAt {ref : PremiseRef} (h : s.insertTypedRef k ref = .ok s') :
    ¬ s.FiledAt k t v := by
  rintro ⟨r, hr, -⟩
  exact (insertTypedRef_eq_ok h).1 (Table.mem_of_getElem? hr)

/-- A record filed between steps that leave the premises alone. -/
theorem filedAt_insertTypedRef {s s₀ s₁ s₂ : WorkStore} {ref : PremiseRef} {t' : UuidV7}
    (hbefore : s₀.premises = s.premises) (hinsert : s₀.insertTypedRef k ref = .ok s₁)
    (hafter : s₂.premises = s₁.premises) :
    s₂.FiledAt k' t' v' ↔
      s.FiledAt k' t' v' ∨ k' = k ∧ t' = ref.recordId ∧ v' = ref.value := by
  obtain ⟨hfresh, heq⟩ := insertTypedRef_eq_ok hinsert
  rw [FiledAt.same hafter, filedAt_insert hfresh (by rw [heq]), FiledAt.same hbefore]

/-- RELEASE: every live claim of the task is released. -/
theorem releaseClaims_stops {reason : String} {now : UnixMs}
    (h : s.releaseClaims (fun _ c => c.taskId = taskId) reason now = .ok s') :
    s' = { s with claims := s'.claims } ∧
      (∀ (k : UuidV7) c, s.claims[k]? = some c → c.taskId = taskId → c.releasedAt = none →
        ∃ c', s'.claims[k]? = some c' ∧ c'.releasedAt ≠ none) ∧
      ∀ (k : UuidV7) c, s'.claims[k]? = some c → c.taskId = taskId → c.releasedAt ≠ none := by
  simp only [releaseClaims, bind_eq_ok, pure_eq_ok] at h
  obtain ⟨_, -, rfl⟩ := h
  refine ⟨rfl, fun k c hc htask hopen =>
    ⟨c.releasedAs reason now, ?_, by simp [LeasedClaim.releasedAs]⟩,
    fun k c hc htask => ?_⟩
  · simp [hc, htask, hopen]
  · simp only [Std.ExtTreeMap.getElem?_map, Option.map_eq_some_iff] at hc
    obtain ⟨c₀, -, rfl⟩ := hc
    split at htask <;> rename_i hopen
    · simp [hopen, LeasedClaim.releasedAs]
    · rw [if_neg hopen]
      simpa [htask] using hopen

/-- CANCEL: every active attempt of the task is cancelled. -/
theorem cancelAttempts_stops {message : String} {now : UnixMs}
    (h : s.cancelAttempts taskId message now = .ok s') :
    s' = { s with attempts := s'.attempts } ∧
      (∀ (k : UuidV7) a, s.attempts[k]? = some a → a.taskId = taskId → a.status.Active →
        ∃ a', s'.attempts[k]? = some a' ∧ a'.status = .cancelled) ∧
      ∀ (k : UuidV7) a, s'.attempts[k]? = some a → a.taskId = taskId → ¬ a.status.Active := by
  simp only [cancelAttempts, bind_eq_ok, pure_eq_ok] at h
  obtain ⟨_, -, rfl⟩ := h
  refine ⟨rfl, fun k a ha htask hactive => ⟨a.cancelledAs message now, ?_, rfl⟩,
    fun k a ha htask => ?_⟩
  · simp [ha, htask, hactive]
  · simp only [Std.ExtTreeMap.getElem?_map, Option.map_eq_some_iff] at ha
    obtain ⟨a₀, -, rfl⟩ := ha
    split at htask <;> rename_i hopen
    · rw [if_pos hopen]
      simp [AttemptRow.cancelledAs, AttemptStatus.Active]
    · rw [if_neg hopen]
      exact fun hactive => hopen ⟨htask, hactive⟩

/-- INVALIDATE: one invalidation is filed, and nothing stays open on the task. -/
theorem invalidatePremise_stops {premiseId decisionId freshId : UuidV7} {refuted : UuidV7 × String}
    {actor : String} {principal : Principal} {now : UnixMs}
    (h : s.invalidatePremise rt taskId premiseId decisionId refuted actor principal now freshId =
      .ok s') :
    (∀ t v, ¬ s.FiledAt freshId t v) ∧
      (∀ k' t' v', s'.FiledAt k' t' v' ↔ s.FiledAt k' t' v' ∨ k' = freshId ∧ t' = taskId ∧
        v' = invalidationOf taskId premiseId decisionId refuted principal.id now) ∧
      s.Stopped s' taskId := by
  simp only [invalidatePremise, bind_eq_ok] at h
  obtain ⟨s₁, hinsert, s₂, hrelease, s₃, hcancel, hevent⟩ := h
  obtain ⟨hfresh, rfl⟩ := insertTypedRef_eq_ok hinsert
  obtain ⟨heq₂, hreleased, hnoclaim⟩ := releaseClaims_stops hrelease
  obtain ⟨heq₃, hcancelled, hnoattempt⟩ := cancelAttempts_stops hcancel
  have heq := recordEvent_eq hevent
  have hpremises : s'.premises = s₃.premises := by rw [heq]
  have hclaims : s'.claims = s₂.claims := by rw [heq, heq₃]
  have hattempts : s'.attempts = s₃.attempts := by rw [heq]
  have hattempts₂ : s₂.attempts = s.attempts := by rw [heq₂]
  refine ⟨fun t v => not_filedAt hinsert, fun k' t' v' => ?_, ?_, ?_, ?_, ?_⟩
  · rw [filedAt_insert hfresh (hpremises.trans (by rw [heq₃, heq₂]))]
    rfl
  · intro k c hc htask hopen
    rw [hclaims]
    exact hreleased k c hc htask hopen
  · intro k a ha htask hactive
    rw [hattempts]
    exact hcancelled k a (hattempts₂ ▸ ha) htask hactive
  · intro k c hc
    exact hnoclaim k c (hclaims ▸ hc)
  · intro k a ha
    exact hnoattempt k a (hattempts ▸ ha)

/-- What was open is judged by the rows alone. -/
theorem Stopped.before {s₀ : WorkStore} (h : s.Stopped s' taskId) (hclaims : s.claims = s₀.claims)
    (hattempts : s.attempts = s₀.attempts) : s₀.Stopped s' taskId where
  released := hclaims ▸ h.released
  cancelled := hattempts ▸ h.cancelled
  no_claim := h.no_claim
  no_attempt := h.no_attempt

/-- MUTATION: one more record, with an invalidation exactly where nothing stays open. -/
theorem performPremiseMutation_grows {mutation : PremiseMutation} {ctx : PrincipalContext}
    {freshId invalidationId result : UuidV7} {outcome : Option (Retry.IdempotencyOutcome String)}
    (h : s.performPremiseMutation rt taskId mutation ctx freshId invalidationId =
      .ok (s', result, outcome)) :
    ∃ premiseId v invalidate principalId,
      Grows s s' taskId premiseId freshId invalidationId v invalidate principalId ctx.now ∧
        (invalidate.isSome → s.Stopped s' taskId) := by
  simp only [performPremiseMutation, bind_eq_ok, demand_eq_ok, Prod.exists, pure_eq_ok,
    Prod.mk.injEq] at h
  obtain ⟨_, hstate, state, rfl, s₁, principal, hcaller, built, hbuilt, s₂, hinsert, s₃, hevent, s₄,
    happly, rfl, -⟩ := h
  have hallowed := buildMutation_allowed hbuilt (getTaskPremiseState_reads hstate)
  have heq₁ := resolveCallerPrincipal_eq hcaller
  have hsame : s₁.premises = s.premises := by rw [heq₁]
  obtain ⟨hfresh, heq₂⟩ := insertTypedRef_eq_ok hinsert
  have heq₃ := recordEvent_eq hevent
  have hafter : s₃.premises = s₂.premises := by rw [heq₃]
  have hfiled := fun k t v => (filedAt_insertTypedRef hsame hinsert hafter :
    s₃.FiledAt k t v ↔ _)
  have hfresh' : ∀ t v, ¬ s.FiledAt freshId t v := fun t v ht =>
    not_filedAt hinsert ((FiledAt.same hsame).2 ht)
  refine ⟨state.premise.1, built.value, built.invalidate, principal.id, ?_⟩
  unfold applyInvalidation at happly
  split at happly
  · rename_i hnone
    obtain rfl : s₃ = s₄ := by simpa using happly
    rw [hnone] at hallowed ⊢
    refine ⟨⟨hallowed, hfresh', fun k t v ht => (hfiled k t v).2 (.inl ht),
      (hfiled _ _ _).2 (.inr ⟨rfl, rfl, rfl⟩), by simp, fun k' t' v' ht => ?_⟩, by simp⟩
    exact ((hfiled k' t' v').1 ht).imp_right .inl
  · rename_i refuted hsome
    rw [hsome] at hallowed ⊢
    obtain ⟨-, hfiled', hstopped⟩ := invalidatePremise_stops happly
    refine ⟨⟨hallowed, hfresh',
      fun k t v ht => (hfiled' k t v).2 (.inl ((hfiled k t v).2 (.inl ht))),
      (hfiled' _ _ _).2 (.inl ((hfiled _ _ _).2 (.inr ⟨rfl, rfl, rfl⟩))), ?_,
      fun k' t' v' ht => ?_⟩,
      fun _ => ?_⟩
    · rintro _ ⟨⟩
      exact (hfiled' _ _ _).2 (.inr ⟨rfl, rfl, rfl⟩)
    · obtain ht | hnew := (hfiled' k' t' v').1 ht
      · exact ((hfiled k' t' v').1 ht).imp_right .inl
      · exact .inr (.inr ⟨refuted, rfl, hnew⟩)
    · exact hstopped.before (by rw [heq₃, heq₂, heq₁]) (by rw [heq₃, heq₂, heq₁])

/-- CREATE: one more premise. -/
theorem performCreateWithPremise_grows {parsed : TaskInsert} {requested : PremiseInput}
    {observed : Option Digest} {ctx : PrincipalContext} {freshId result : UuidV7}
    {outcome : Option (Retry.IdempotencyOutcome String)}
    (h : s.performCreateWithPremise rt parsed requested observed ctx freshId =
      .ok (s', result, outcome)) :
    ∃ v principalId, Grows s s' parsed.id freshId freshId freshId (.premise v) none principalId
      ctx.now := by
  simp only [performCreateWithPremise, bind_eq_ok, Prod.exists, pure_eq_ok, Prod.mk.injEq] at h
  obtain ⟨_, -, s₁, principal, hcaller, _, -, l, created, -, s₂, hinsert, s₃, hevent, rfl, -⟩ := h
  have hsame : (s₁.absorb l ctx.now).premises = s.premises := by
    rw [resolveCallerPrincipal_eq hcaller]
    rfl
  obtain ⟨hfresh, heq₂⟩ := insertTypedRef_eq_ok hinsert
  have hafter : s₃.premises = s₂.premises := by rw [recordEvent_eq hevent]
  have hfiled := fun k t v => (filedAt_insertTypedRef hsame hinsert hafter :
    s₃.FiledAt k t v ↔ _)
  refine ⟨_, principal.id, .attached _, fun t v ht => ?_,
    fun k t v ht => (hfiled k t v).2 (.inl ht),
    (hfiled _ _ _).2 (.inr ⟨rfl, rfl, rfl⟩), by simp, fun k' t' v' ht => ?_⟩
  · exact not_filedAt hinsert ((FiledAt.same hsame).2 ht)
  · exact ((hfiled k' t' v').1 ht).imp_right .inl

/-! ### Runs -/

/-- What a step keeps: the judgement, and that a premise is invalidated only where nothing of its
    task stays open. -/
structure Keeps (s s' : WorkStore) : Prop where
  judged : s.Judged ∧ s.Placed → s'.Judged ∧ s'.Placed
  stopped : ∀ k i, s'.Filed k (.invalidation i) → ¬ s.Filed k (.invalidation i) →
    s.Stopped s' i.taskId

theorem Keeps.of_eq (heq : s'.premises = s.premises) : Keeps s s' where
  judged h := ⟨h.1.same heq, h.2.same heq⟩
  stopped k i hnew hold := by
    obtain ⟨t, ht⟩ := hnew
    exact absurd ⟨t, (FiledAt.same heq).1 ht⟩ hold

theorem Grows.keeps {premiseId k₂ : UuidV7} {invalidate : Option (UuidV7 × String)}
    {principalId : String} {now : UnixMs}
    (h : Grows s s' taskId premiseId k k₂ v invalidate principalId now)
    (hstopped : invalidate.isSome → s.Stopped s' taskId) : Keeps s s' where
  judged hs := ⟨h.judged hs.1 hs.2, h.placed hs.2⟩
  stopped k' i hnew hold := by
    obtain ⟨t, ht⟩ := hnew
    obtain hfiled | ⟨-, -, hv⟩ | ⟨refuted, hmem, -, -, hv⟩ := h.cases _ _ _ ht
    · exact absurd hfiled.filed hold
    · cases h.allowed <;> cases hv
    · cases hv
      exact hstopped (Option.isSome_iff_exists.2 ⟨refuted, hmem⟩)

/-- Only records of calls change around an idempotent call. -/
theorem Keeps.around {retries retries' : List (Retry.IdempotencyRecord WorkOperation String)}
    (h : Keeps { s with retries := retries } s') : Keeps s { s' with retries := retries' } where
  judged hs := by
    obtain ⟨hjudged, hplaced⟩ := h.judged ⟨hs.1.same rfl, hs.2.same rfl⟩
    exact ⟨hjudged.same rfl, hplaced.same rfl⟩
  stopped k i hnew hold := by
    obtain ⟨h₁, h₂, h₃, h₄⟩ := h.stopped k i hnew hold
    exact ⟨h₁, h₂, h₃, h₄⟩

/-- STEP: one case for each call. -/
theorem premiseStep_keeps (s : WorkStore) (a : PremiseAction) : Keeps s (s.premiseStep rt a) := by
  cases a with
  | create parsed requested observed ctx freshId =>
    refine settle_fst_rule (I := Keeps s) (.of_eq rfl) fun s' result h => ?_
    simp only [createTaskWithPremise, bind_eq_ok] at h
    obtain ⟨_, -, _, -, h⟩ := h
    obtain ⟨retries, rfl⟩ | ⟨retries, s₁, outcome, retries', hrun, rfl⟩ := idempotent_eq_ok h
    · exact .of_eq rfl
    · obtain ⟨v, principalId, hgrows⟩ := performCreateWithPremise_grows hrun
      exact (hgrows.keeps (by simp)).around
  | mutate taskId mutation ctx freshId invalidationId =>
    refine settle_fst_rule (I := Keeps s) (.of_eq rfl) fun s' result h => ?_
    simp only [appendPremiseMutation, bind_eq_ok] at h
    obtain ⟨_, -, h⟩ := h
    obtain ⟨retries, rfl⟩ | ⟨retries, s₁, outcome, retries', hrun, rfl⟩ := idempotent_eq_ok h
    · exact .of_eq rfl
    · obtain ⟨premiseId, v, invalidate, principalId, hgrows, hstopped⟩ :=
        performPremiseMutation_grows hrun
      exact (hgrows.keeps hstopped).around
  | elsewhere left => exact .of_eq rfl

theorem judged_opening (workspaceId : String) (principals : List Principal) :
    (opening workspaceId principals).Judged ∧ (opening workspaceId principals).Placed := by
  have hnone : ∀ k t v, ¬ (opening workspaceId principals).FiledAt k t v := by
    rintro k t v ⟨r, hr, -⟩
    simp [opening] at hr
  have hnone' : ∀ k v, ¬ (opening workspaceId principals).Filed k v := by
    rintro k v ⟨t, ht⟩
    exact hnone k t v ht
  refine ⟨⟨fun k _ d _ hd => absurd hd (hnone' k _), fun k d _ _ hd => absurd hd (hnone' k _), ?_,
    fun k _ i _ hi => absurd hi (hnone' k _)⟩, fun k t v hv => absurd hv (hnone k t v),
    fun k t v hv => absurd hv (hnone k t v)⟩
  intro m
  constructor
  · rintro ⟨k, i, hi, -⟩
    exact absurd hi (hnone' k _)
  · rintro ⟨k, d, _, hd, -⟩
    exact absurd hd (hnone' k _)

/-- RUN: the premises stay judged by their rules. -/
theorem judged_run (workspaceId : String) (principals : List Principal)
    (actions : List PremiseAction) :
    (run (premiseStep · rt) (opening workspaceId principals) actions).Judged :=
  (run_invariant' (fun s a hs => (premiseStep_keeps s a).judged hs)
    actions (judged_opening workspaceId principals)).1

/-- CORRECT: whatever the order of proposals, challenges and decisions, a proposal is decided at
    most once, a challenged one is accepted by an adjudicator only, a premise is invalidated exactly
    when a refutation of it was accepted, at most once, and nothing stays open on its task then. -/
theorem premises_judged (rt : WorkRuntime) (workspaceId : String) (principals : List Principal)
    (actions : List PremiseAction) (a : PremiseAction) :
    let s := run (premiseStep · rt) (opening workspaceId principals) actions
    s.Judged ∧ ∀ k i, (s.premiseStep rt a).Filed k (.invalidation i) →
      ¬ s.Filed k (.invalidation i) → s.Stopped (s.premiseStep rt a) i.taskId :=
  ⟨judged_run workspaceId principals actions, (premiseStep_keeps _ a).stopped⟩

end WorkStore

end Tasq
