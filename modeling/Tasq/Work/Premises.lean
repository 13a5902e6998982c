import Mathlib.Tactic
import Tasq.Work.Attempts

/-! The motivating premise of a task: who may propose a verdict on it, challenge the proposal and
    decide it, and what an accepted refutation takes from the task.

    The state of a premise is read off its records, each an external reference of the task. -/

namespace Tasq

open Text Outcome OpenRows

/-! ### The records by their types -/

namespace PremiseValue

def premise? : PremiseValue → Option TaskPremise
  | .premise value => some value
  | _ => none

def proposal? : PremiseValue → Option TaskPremiseProposal
  | .proposal value => some value
  | _ => none

def challenge? : PremiseValue → Option TaskPremiseChallenge
  | .challenge value => some value
  | _ => none

def decision? : PremiseValue → Option TaskPremiseDecision
  | .decision value => some value
  | _ => none

def invalidation? : PremiseValue → Option TaskPremiseInvalidation
  | .invalidation value => some value
  | _ => none

end PremiseValue

/-- The records of one type, with their ids. -/
def refsOf {α : Type} (select : PremiseValue → Option α) (refs : List (UuidV7 × PremiseRef)) :
    List (UuidV7 × α) :=
  refs.filterMap fun e => (select e.2.value).map (Prod.mk e.1)

/-- `TaskPremiseState` -/
structure TaskPremiseState where
  premise : UuidV7 × TaskPremise
  proposals : List (UuidV7 × TaskPremiseProposal)
  challenges : List (UuidV7 × TaskPremiseChallenge)
  decisions : List (UuidV7 × TaskPremiseDecision)
  invalidation : Option (UuidV7 × TaskPremiseInvalidation)

/-- `MutationBuild` -/
structure MutationBuild where
  value : PremiseValue
  status : String
  /-- The refuted proposal, with the reason. -/
  invalidate : Option (UuidV7 × String)

/-- The text of an outcome. -/
def PremiseOutcome.text : PremiseOutcome → String
  | .accepted => "accepted"
  | .rejected => "rejected"
  | .challenged => "challenged"
  | .indeterminate => "indeterminate"

/-- The operation of a mutation. -/
def PremiseMutation.operation : PremiseMutation → WorkOperation
  | .propose .. => .premisePropose
  | .challenge .. => .premiseChallenge
  | .decide .. => .premiseDecide

namespace TaskPremiseState

variable (state : TaskPremiseState)

/-- The records name the premise, and what they answer is there. -/
def Bound (taskId : UuidV7) : Prop :=
  state.premise.2.taskId = taskId ∧
    (∀ p ∈ state.proposals, p.2.taskId = taskId ∧ p.2.premiseId = state.premise.1) ∧
    (∀ c ∈ state.challenges, c.2.taskId = taskId ∧ c.2.premiseId = state.premise.1 ∧
      ∃ p ∈ state.proposals, p.1 = c.2.proposalId) ∧
    (∀ d ∈ state.decisions, d.2.taskId = taskId ∧ d.2.premiseId = state.premise.1 ∧
      ∃ p ∈ state.proposals, p.1 = d.2.proposalId) ∧
    ∀ i ∈ state.invalidation, i.2.taskId = taskId ∧ i.2.premiseId = state.premise.1 ∧
      (∃ d ∈ state.decisions, d.1 = i.2.decisionId ∧ d.2.outcome = .accepted ∧
        d.2.proposalId = i.2.proposalId) ∧
      ∃ p ∈ state.proposals, p.1 = i.2.proposalId ∧ p.2.verdict = .refute

instance decidableBound (taskId : UuidV7) : Decidable (state.Bound taskId) := by
  unfold Bound; infer_instance

/-- The proposal that a challenge or a decision names, before any decision on it. -/
def undecided (proposalId : UuidV7) (message : String) :
    Call (UuidV7 × TaskPremiseProposal) := do
  refuse state.invalidation.isSome (.error "Task premise is already invalidated")
  let proposal ← demand (state.proposals.find? (·.1 = proposalId))
    (.error s!"Premise proposal not found for task: {proposalId}")
  refuse (∃ d ∈ state.decisions, d.2.proposalId = proposal.1) (.error message)
  pure proposal

/-- The record of a decision, by a principal who may make it. -/
def decide (taskId : UuidV7) (proposal : UuidV7 × TaskPremiseProposal) (outcome : PremiseOutcome)
    (rationale : String) (principal : Principal) (now : UnixMs) : Call MutationBuild := do
  let premise := state.premise.2
  let challenges := state.challenges.filter (·.2.proposalId = proposal.1)
  let isValidator := principal.id ∈ premise.eligibleValidatorPrincipalIds
  let isAdjudicator := principal.id ∈ premise.adjudicatorPrincipalIds
  refuse (¬ isValidator ∧ ¬ isAdjudicator)
    (.error s!"Principal is not eligible to decide premise: {principal.id}")
  refuse (premise.allowSelfValidation = false ∧ proposal.2.proposedByPrincipalId = principal.id)
    (.error "Premise proposer cannot validate their own proposal")
  refuse (challenges ≠ [] ∧ outcome = .accepted ∧ ¬ isAdjudicator)
    (.error "A challenged premise proposal requires a named adjudicator")
  pure
    { value := .decision
        { taskId := taskId
          premiseId := state.premise.1
          proposalId := proposal.1
          outcome := outcome
          challengeIds := sortedIds (challenges.map Prod.fst)
          evidenceIds :=
            sortedIds (proposal.2.evidenceIds ++ challenges.flatMap (·.2.counterEvidenceIds))
          rationale := rationale
          decidedByPrincipalId := principal.id
          decidedAt := now }
      status := outcome.text
      invalidate :=
        if outcome = .accepted ∧ proposal.2.verdict = .refute then some (proposal.1, rationale)
        else none }

end TaskPremiseState

namespace WorkStore

variable (s : WorkStore) (rt : WorkRuntime)

/-! ### Reading -/

/-- `refsForTask`, whose order nothing reads. -/
def refsForTask (taskId : UuidV7) : List (UuidV7 × PremiseRef) :=
  Table.rows s.premises fun _ r => r.recordId = taskId

/-- `getTaskPremiseState` -/
def getTaskPremiseState (taskId : UuidV7) : Call (Option TaskPremiseState) := do
  let found ← s.getTask taskId
  refuse (found = none) (.error s!"Task not found: {taskId}")
  let refs := s.refsForTask taskId
  match refsOf PremiseValue.premise? refs with
  | [] => pure none
  | [premise] => do
    let invalidations := refsOf PremiseValue.invalidation? refs
    refuse (1 < invalidations.length)
      (.error s!"Task {taskId} has multiple premise invalidations")
    let state : TaskPremiseState :=
      { premise := premise
        proposals := refsOf PremiseValue.proposal? refs
        challenges := refsOf PremiseValue.challenge? refs
        decisions := refsOf PremiseValue.decision? refs
        invalidation := invalidations.head? }
    refuse (¬ state.Bound taskId) (.error s!"Premise task binding drift: {premise.1}")
    pure (some state)
  | _ => .error (.error s!"Task {taskId} has multiple motivating premises")

/-- `requireEvidence` -/
def requireEvidence (taskId : UuidV7) (evidenceIds : List UuidV7) : Call Unit :=
  let missing := evidenceIds.filter fun e => ¬ ∃ row ∈ s.evidence[e]?, row.taskId = taskId
  refuse (missing ≠ []) (.error s!"Premise evidence does not belong to task {taskId}: {missing}")

/-- `assertTaskPremiseActionable` -/
def assertTaskPremiseActionable (taskId : UuidV7) : Call Unit :=
  refuse (refsOf PremiseValue.invalidation? (s.refsForTask taskId) ≠ [])
    (.error s!"Task premise is invalidated: {taskId}")

/-! ### A task with its premise -/

/-- The principal is there and enabled. -/
def Enabled (principalId : String) : Prop :=
  ∃ p ∈ s.principals.find? (·.id = principalId), p.enabled = true

instance decidableEnabled (principalId : String) : Decidable (s.Enabled principalId) := by
  unfold Enabled; infer_instance

/-- The transaction of `createTaskWithPremise`. `observed` is the digest of the observation, where
    it is there. -/
def performCreateWithPremise (parsed : TaskInsert) (requested : PremiseInput)
    (observed : Option Digest) (ctx : PrincipalContext) (freshId : UuidV7) :
    Call (WorkStore × UuidV7 × Option (Retry.IdempotencyOutcome String)) := do
  let actor := ctx.actor.getD "system"
  let observationDigest ← demand observed
    (.error s!"Observation not found in workspace: {requested.observationId}")
  let (s, principal) ← s.resolveCallerPrincipal rt ctx
  refuse (∃ v ∈ requested.eligibleValidatorPrincipalIds ++ requested.adjudicatorPrincipalIds,
      ¬ s.Enabled v)
    (.error "Premise validator is not enabled")
  let (l, created) ← s.ledger.createTaskInTransaction rt.toRuntime parsed
    ⟨actor, some principal.id, ctx.now⟩
  let s := s.absorb l ctx.now
  let value : TaskPremise :=
    { taskId := parsed.id
      taskRevision := created.revision
      observationId := requested.observationId
      observationDigest := observationDigest
      proposition := requested.proposition
      eligibleValidatorPrincipalIds := requested.eligibleValidatorPrincipalIds
      adjudicatorPrincipalIds := requested.adjudicatorPrincipalIds
      allowSelfValidation := requested.allowSelfValidation
      createdByPrincipalId := principal.id
      createdAt := ctx.now }
  let s ← s.insertTypedRef freshId ⟨parsed.id, .premise value, principal.id, ctx.now⟩
  let s ← s.recordEvent rt actor (some principal.id)
  pure (s, freshId, some ⟨freshId, some "attached", none, none⟩)

/-- The premise record that a record of a call points at. -/
def priorPremise (id : UuidV7) : Call UuidV7 := do
  refuse (id ∉ s.premises) (.error s!"Idempotency record points at missing premise record {id}")
  pure id

/-- `createTaskWithPremise` -/
def createTaskWithPremise (parsed : TaskInsert) (requested : PremiseInput)
    (observed : Option Digest) (ctx : PrincipalContext) (freshId : UuidV7) :
    Call (WorkStore × UuidV7) := do
  refuse (requested.eligibleValidatorPrincipalIds = []) (.invalid "premise")
  let identity ← s.prepareDurable rt ctx .premiseCreate (.createWithPremise parsed requested) none
  s.idempotent identity priorPremise fun s =>
    s.performCreateWithPremise rt parsed requested observed ctx freshId

/-! ### Mutations -/

/-- What a mutation appends, and whether it invalidates the premise. -/
def buildMutation (taskId : UuidV7) (mutation : PremiseMutation) (state : TaskPremiseState)
    (principal : Principal) (now : UnixMs) : Call MutationBuild :=
  match mutation with
  | .propose verdict evidenceIds rationale => do
    refuse state.invalidation.isSome (.error "Task premise is already invalidated")
    s.requireEvidence taskId evidenceIds
    pure ⟨.proposal ⟨taskId, state.premise.1, verdict, evidenceIds, rationale, principal.id, now⟩,
      "proposed", none⟩
  | .challenge proposalId counterEvidenceIds rationale => do
    let proposal ← state.undecided proposalId "Decided premise proposals are terminal"
    s.requireEvidence taskId counterEvidenceIds
    pure ⟨.challenge ⟨taskId, state.premise.1, proposal.1, counterEvidenceIds, rationale,
      principal.id, now⟩, "challenged", none⟩
  | .decide proposalId outcome rationale => do
    let proposal ← state.undecided proposalId "Premise proposal already has a decision"
    state.decide taskId proposal outcome rationale principal now

/-- The premise is invalidated: nothing stays open on the task. -/
def invalidatePremise (taskId premiseId decisionId : UuidV7) (refuted : UuidV7 × String)
    (actor : String) (principal : Principal) (now : UnixMs) (freshId : UuidV7) :
    Call WorkStore := do
  let s ← s.insertTypedRef freshId
    ⟨taskId, .invalidation ⟨taskId, premiseId, refuted.1, decisionId, principal.id, now, refuted.2⟩,
      principal.id, now⟩
  let s ← s.releaseClaims (fun _ c => c.taskId = taskId) "premise_invalidated" now
  let s ← s.cancelAttempts taskId "motivating premise invalidated" now
  s.recordEvent rt actor (some principal.id)

/-- The invalidation that a mutation asks for. -/
def applyInvalidation (taskId premiseId decisionId : UuidV7) (invalidate : Option (UuidV7 × String))
    (actor : String) (principal : Principal) (now : UnixMs) (freshId : UuidV7) : Call WorkStore :=
  match invalidate with
  | none => pure s
  | some refuted =>
    s.invalidatePremise rt taskId premiseId decisionId refuted actor principal now freshId

/-- The transaction of `appendPremiseMutation`, with the ids of the record and of an
    invalidation. -/
def performPremiseMutation (taskId : UuidV7) (mutation : PremiseMutation) (ctx : PrincipalContext)
    (freshId invalidationId : UuidV7) :
    Call (WorkStore × UuidV7 × Option (Retry.IdempotencyOutcome String)) := do
  let actor := ctx.actor.getD "system"
  let found ← s.getTaskPremiseState taskId
  let state ← demand found (.error s!"Task has no motivating premise: {taskId}")
  let (s, principal) ← s.resolveCallerPrincipal rt ctx
  let built ← s.buildMutation taskId mutation state principal ctx.now
  let s ← s.insertTypedRef freshId ⟨taskId, built.value, principal.id, ctx.now⟩
  let s ← s.recordEvent rt actor (some principal.id)
  let s ← s.applyInvalidation rt taskId state.premise.1 freshId built.invalidate actor principal
    ctx.now invalidationId
  pure (s, freshId, some ⟨freshId, some built.status, none, none⟩)

/-- `appendPremiseMutation`, under `proposeTaskPremise`, `challengeTaskPremise` and
    `decideTaskPremise`. -/
def appendPremiseMutation (taskId : UuidV7) (mutation : PremiseMutation) (ctx : PrincipalContext)
    (freshId invalidationId : UuidV7) : Call (WorkStore × UuidV7) := do
  let identity ← s.prepareDurable rt ctx mutation.operation (.premise taskId mutation) none
  s.idempotent identity priorPremise fun s =>
    s.performPremiseMutation rt taskId mutation ctx freshId invalidationId

end WorkStore

end Tasq
