import Mathlib.Tactic
import Tasq.Lib.Search
import Tasq.Work.Calls

/-! The relations between commitments, in two tables: `commitment_relation`, the authority, and
    `task_dependency`, which keeps the edges of three of the types for the older calls.

    The inserts and updates carry the constraints and triggers of the database. The rest of the
    workspace is `work`. -/

namespace Tasq

open Text Outcome

/-- `RelationType`, or the absolute URI of a type of a user's own. -/
inductive RelationType where
  | dependsOn | discoveredFrom | relatesTo | duplicates
  | uri (value : String)
  deriving DecidableEq, Repr

/-- `DependencyType` -/
inductive DependencyType where
  | blocks | discoveredFrom | relatesTo | duplicates
  deriving DecidableEq, Repr

/-- The text of a type. -/
def DependencyType.text : DependencyType → String
  | .blocks => "blocks"
  | .discoveredFrom => "discovered_from"
  | .relatesTo => "relates_to"
  | .duplicates => "duplicates"

/-- The relation that a dependency stands for. -/
def DependencyType.relationType : DependencyType → RelationType
  | .blocks => .dependsOn
  | .discoveredFrom => .discoveredFrom
  | .relatesTo => .relatesTo
  | .duplicates => .duplicates

/-- The dependency that mirrors a relation in `task_dependency`. -/
def RelationType.dependencyType : RelationType → Option DependencyType
  | .dependsOn => some .blocks
  | .relatesTo => some .relatesTo
  | .duplicates => some .duplicates
  | .discoveredFrom | .uri _ => none

/-- What a relation connects, and how. -/
structure RelationEdge where
  fromTaskId : UuidV7
  relationType : RelationType
  toTaskId : UuidV7
  deriving DecidableEq

/-- A row of `commitment_relation`. -/
structure CommitmentRelation extends RelationEdge where
  revision : ℕ
  createdByPrincipalId : String
  createdAt : UnixMs
  endedByPrincipalId : Option String
  endedAt : Option UnixMs
  deriving DecidableEq

/-- A row of `task_dependency`. -/
structure TaskDependency where
  fromTaskId : UuidV7
  toTaskId : UuidV7
  type : DependencyType
  createdAt : UnixMs
  updatedAt : UnixMs
  deletedAt : Option UnixMs
  deriving DecidableEq

/-- The relation that a dependency stands for. -/
def TaskDependency.edge (d : TaskDependency) : RelationEdge :=
  ⟨d.fromTaskId, d.type.relationType, d.toTaskId⟩

/-- The operations that have a retry identity. -/
inductive RelationOperation where
  | add
  deriving DecidableEq, Repr

instance instToStringRelationOperation : ToString RelationOperation where
  toString
    | .add => "relation.add"

/-- `CommitmentRelationInsert` -/
structure CommitmentRelationInsert extends RelationEdge where
  id : Option UuidV7
  deriving DecidableEq

/-- What the digest of an idempotent call is taken of. -/
structure RelationRequest where
  input : CommitmentRelationInsert
  caller : String
  deriving DecidableEq

/-- The platform under the relations. -/
structure RelationRuntime extends WorkRuntime where
  /-- The digest of an idempotent request. -/
  relationDigest : RelationRequest → Digest
  /-- The digest of an idempotent request before scoped keys. -/
  legacyRelationDigest : RelationRequest → Digest

/-- The rows of one workspace. -/
structure RelationStore where
  work : WorkStore
  relations : Table UuidV7 CommitmentRelation
  dependencies : Table UuidV7 TaskDependency
  retries : List (Retry.IdempotencyRecord RelationOperation String)
  /-- Ids of relations and of dependencies in the other workspaces of the store. -/
  otherRelationIds : List UuidV7
  otherDependencyIds : List UuidV7

/-- The check is made under a condition. -/
def onlyIf (c : Prop) [Decidable c] (check : Call Unit) : Call Unit :=
  if c then check else .ok ()

theorem onlyIf_eq_ok (c : Prop) [Decidable c] (check : Call Unit) (u : Unit) :
    onlyIf c check = .ok u ↔ (c → check = .ok ()) := by
  unfold onlyIf
  split <;> simp_all

/-- The relation as its end leaves it. -/
def CommitmentRelation.ended (principalId : String) (now : UnixMs) (r : CommitmentRelation) :
    CommitmentRelation :=
  { r with endedByPrincipalId := some principalId, endedAt := some now, revision := r.revision + 1 }

/-- A relation that has just been added. -/
def CommitmentRelation.added (e : RelationEdge) (principalId : String) (now : UnixMs) :
    CommitmentRelation :=
  { e with
    revision := 1, createdByPrincipalId := principalId, createdAt := now
    endedByPrincipalId := none, endedAt := none }

/-- A dependency that has just been added. -/
def TaskDependency.added (fromTaskId toTaskId : UuidV7) (type : DependencyType) (now : UnixMs) :
    TaskDependency :=
  { fromTaskId := fromTaskId, toTaskId := toTaskId, type := type
    createdAt := now, updatedAt := now, deletedAt := none }

namespace RelationStore

variable (s : RelationStore) (rt : RelationRuntime)

/-! ### Constraints of the database -/

/-- An active relation of this edge. -/
def active (e : RelationEdge) : Bool :=
  s.relations.has fun _ r => r.toRelationEdge = e ∧ r.endedAt = none

/-- A live dependency of this edge. -/
def live (e : RelationEdge) : Bool :=
  s.dependencies.has fun _ d => d.edge = e ∧ d.deletedAt = none

/-- `INSERT INTO commitment_relation` -/
def insertRelation (id : UuidV7) (r : CommitmentRelation) : Call RelationStore := do
  refuse (id ∈ s.relations ∨ id ∈ s.otherRelationIds) (.constraint "commitment_relation.id")
  refuse (r.fromTaskId = r.toTaskId) (.constraint "commitment_relation_no_self_check")
  refuse (r.endedAt = none ∧ s.active r.toRelationEdge = true)
    (.constraint "uniq_commitment_relation_active")
  pure { s with relations := s.relations.insert id r }

/-- `INSERT INTO task_dependency` -/
def insertDependency (id : UuidV7) (d : TaskDependency) : Call RelationStore := do
  refuse (id ∈ s.dependencies ∨ id ∈ s.otherDependencyIds) (.constraint "task_dependency.id")
  refuse (d.type = .discoveredFrom) (.constraint "task_dep_type_check")
  refuse (d.deletedAt = none ∧ s.live d.edge = true) (.constraint "uniq_task_dep")
  pure { s with dependencies := s.dependencies.insert id d }

/-- `UPDATE commitment_relation SET ended_at`, of the relations that satisfy `p`. -/
def endRelations (p : UuidV7 → CommitmentRelation → Bool) (principalId : String) (now : UnixMs) :
    Call RelationStore := do
  refuse (s.relations.has fun id r => p id r && r.endedAt.isSome)
    (.constraint "relation identity or ended relation is immutable")
  refuse (s.relations.has fun id r => p id r && now < r.createdAt)
    (.constraint "commitment_relation_lifecycle_check")
  pure { s with
    relations := s.relations.map fun id r => if p id r then r.ended principalId now else r }

/-- `UPDATE task_dependency SET deleted_at`, of a live row. -/
def deleteDependency (id : UuidV7) (now : UnixMs) : RelationStore :=
  { s with
    dependencies := s.dependencies.modify id fun d =>
      if d.deletedAt = none then { d with deletedAt := some now, updatedAt := now } else d }

/-- `UPDATE task_dependency SET deleted_at = NULL` -/
def reviveDependency (id : UuidV7) (d : TaskDependency) (now : UnixMs) : Call RelationStore := do
  refuse (s.live d.edge = true) (.constraint "uniq_task_dep")
  pure { s with
    dependencies := s.dependencies.insert id { d with deletedAt := none, updatedAt := now } }

/-! ### What the calls share -/

/-- `getCommitmentRelation` -/
def getCommitmentRelation (id : UuidV7) : Option CommitmentRelation := s.relations[id]?

/-- `requireTask` -/
def requireTask (id : UuidV7) : Call Task := do
  let found ← s.work.getTask id
  demand (found.filter fun row => row.deletedAt.isNone) (.error s!"Commitment not found: {id}")

/-- An endpoint of a dependency: a deletion time of zero passes for none. -/
def requireEndpoint (id : UuidV7) : Call Task := do
  let found ← s.work.getTask id
  let row ← demand found (.error s!"Task not found: {id}")
  refuse (∃ t ∈ row.deletedAt, t ≠ 0) (.error s!"Task is deleted: {id}")
  pure row

/-- `contextPrincipal` -/
def contextPrincipal (ctx : PrincipalContext) : Call (RelationStore × Principal) := do
  let (work, caller) ← s.work.resolveCallerPrincipal rt.toWorkRuntime ctx
  pure ({ s with work := work }, caller)

/-- `ensureLocalPrincipal` -/
def ensureLocalPrincipal (actor : String) (now : UnixMs) : Call (RelationStore × Principal) :=
  s.contextPrincipal rt { actor := some actor, principalId := none, idempotencyKey := none, now := now }

/-- `recordEvent` -/
def recordEvent (actor : String) (principalId : Option String) : Call RelationStore := do
  let work ← s.work.recordEvent rt.toWorkRuntime actor principalId
  pure { s with work := work }

/-- The active `depends_on` edges. -/
def dependsOn : List (UuidV7 × UuidV7) :=
  (s.relations.rows fun _ r => r.relationType = .dependsOn ∧ r.endedAt = none).map fun e =>
    (e.2.fromTaskId, e.2.toTaskId)

/-- The live `blocks` edges. -/
def blocks : List (UuidV7 × UuidV7) :=
  (s.dependencies.rows fun _ d => d.type = .blocks ∧ d.deletedAt = none).map fun e =>
    (e.2.fromTaskId, e.2.toTaskId)

/-! ### Cycles -/

/-- `assertNoDependencyCycle`: the search stops when `fromId` is in the frontier. -/
def assertNoDependencyCycle (fromId toId : UuidV7) : Call Unit := do
  refuse (fromId = toId) (.error "A commitment cannot depend on itself")
  match Search.explore s.dependsOn (fun frontier _ => fromId ∈ frontier)
      (fun seen rows => rows.filter (· ∉ seen)) (s.dependsOn.length + 2) [] [toId] with
  | some false => pure ()
  | some true => .error (.error "Relation would create a depends_on cycle")
  | none => .error .unbounded

/-- The rows that were not seen, each once. -/
def unseenOnce (seen rows : List UuidV7) : List UuidV7 := (rows.filter (· ∉ seen)).dedup

/-- `assertNoCycle`: the search stops when `fromTaskId` is among the successors. -/
def assertNoCycle (fromTaskId toTaskId : UuidV7) : Call Unit := do
  refuse (toTaskId = fromTaskId)
    (.error s!"Dependency would create a cycle: task {fromTaskId} cannot block itself")
  match Search.explore s.blocks (fun _ rows => fromTaskId ∈ rows) unseenOnce
      (s.blocks.length + 2) [toTaskId] [toTaskId] with
  | some false => pure ()
  | some true => .error (.error
      s!"Dependency would create a cycle: {toTaskId} already blocks {fromTaskId}")
  | none => .error .unbounded

/-! ### Adding and ending relations -/

/-- The retry identity of `addCommitmentRelation`, which is kept for ever. -/
def retryIdentity (ctx : PrincipalContext) (request : RelationRequest) :
    Call (Option (Retry.Identity RelationOperation)) :=
  match ctx.idempotencyKey with
  | none => pure none
  | some key => do
    bounded key "idempotencyKey" 500
    bounded s.work.workspaceId "idempotency workspace" 500
    let callerScope ← Retry.idempotencyCallerScope (ctx.actor.getD "system") ctx.principalId
    pure (some ⟨callerScope, .add, key, rt.relationDigest request,
      some (rt.legacyRelationDigest request), none, ctx.now⟩)

/-- The row that mirrors a new relation. -/
def mirror (id : UuidV7) (e : RelationEdge) (now : UnixMs) : Call RelationStore :=
  match e.relationType.dependencyType with
  | none => pure s
  | some type => s.insertDependency id (.added e.fromTaskId e.toTaskId type now)

/-- `addCommitmentRelation` -/
def addCommitmentRelation (input : CommitmentRelationInsert) (ctx : PrincipalContext)
    (freshId : UuidV7) : Call (RelationStore × CommitmentRelation) := do
  let identity ← s.retryIdentity rt ctx
    ⟨input, ctx.principalId.getD (ctx.actor.getD "system")⟩
  let (retries, prior) ← Retry.findIdempotencyResult s.retries identity
  let s := { s with retries := retries }
  match prior with
  | some record => do
    let prior ← demand (s.getCommitmentRelation record.resultId)
      (.error s!"Idempotency record points at missing relation {record.resultId}")
    pure (s, prior)
  | none => do
    let _ ← s.requireTask input.fromTaskId
    let _ ← s.requireTask input.toTaskId
    let (s, caller) ← s.contextPrincipal rt ctx
    onlyIf (input.relationType = .dependsOn)
      (s.assertNoDependencyCycle input.fromTaskId input.toTaskId)
    let id := input.id.getD freshId
    let s ← s.insertRelation id (.added input.toRelationEdge caller.id ctx.now)
    let s ← s.mirror id input.toRelationEdge ctx.now
    let result ← demand (s.getCommitmentRelation id)
      (.error s!"Failed to read back relation {id}")
    let s ← s.recordEvent rt (ctx.actorLabel caller) (some caller.id)
    let retries ← Retry.saveIdempotencyResult s.retries identity
      ⟨id, some "active", some result.revision, none⟩
    pure ({ s with retries := retries }, result)

/-- `endCommitmentRelation` -/
def endCommitmentRelation (id : UuidV7) (expectedRevision : ℕ) (ctx : PrincipalContext) :
    Call RelationStore := do
  let before ← demand (s.getCommitmentRelation id) (.error s!"Relation not found: {id}")
  if before.endedAt.isSome then pure s
  else
    let (s, caller) ← s.contextPrincipal rt ctx
    refuse (before.revision ≠ expectedRevision)
      (.error s!"Stale relation revision: expected {expectedRevision}")
    let s ← s.endRelations (fun k _ => k = id) caller.id ctx.now
    let s := s.deleteDependency id ctx.now
    s.recordEvent rt (ctx.actorLabel caller) (some caller.id)

/-! ### The older calls -/

/-- The dependency rows of an edge: a live one first, then the one updated last. -/
def dependencyRows (fromTaskId toTaskId : UuidV7) (type : DependencyType) :
    List (UuidV7 × TaskDependency) :=
  (s.dependencies.rows fun _ d =>
      d.fromTaskId = fromTaskId ∧ d.toTaskId = toTaskId ∧ d.type = type).mergeSort fun a b =>
    decide (a.2.deletedAt = none ∨ b.2.deletedAt ≠ none ∧ b.2.updatedAt ≤ a.2.updatedAt)

/-- `dependTask`, for a discovery: provenance lives in `commitment_relation` alone. -/
def dependDiscovery (id fromTaskId toTaskId : UuidV7) (actor : String) (now : UnixMs) :
    Call RelationStore := do
  let _ ← s.requireEndpoint fromTaskId
  let _ ← s.requireEndpoint toTaskId
  let e : RelationEdge := ⟨fromTaskId, .discoveredFrom, toTaskId⟩
  if s.active e then pure s
  else
    let (s, principal) ← s.ensureLocalPrincipal rt actor now
    let s ← s.insertRelation id (.added e principal.id now)
    s.recordEvent rt actor none

/-- The edge of `task_dependency`, live again or new. `none` when it was live. -/
def placeDependency (id fromTaskId toTaskId : UuidV7) (type : DependencyType) (now : UnixMs) :
    Call (Option (RelationStore × Bool)) :=
  match (s.dependencyRows fromTaskId toTaskId type).head? with
  | some (priorId, prior) =>
    if prior.deletedAt = none then pure none
    else (fun s => some (s, true)) <$> s.reviveDependency priorId prior now
  | none => (fun s => some (s, false)) <$>
      s.insertDependency id (.added fromTaskId toTaskId type now)

/-- A new relation of the edge, where none is active. -/
def ensureRelation (id : UuidV7) (e : RelationEdge) (principalId : String) (now : UnixMs) :
    Call RelationStore :=
  if s.active e then pure s else s.insertRelation id (.added e principalId now)

/-- `dependTask`. `freshId` is the id of a new edge, and `relationId` that of the new relation of an
    edge that is live again. -/
def dependTask (id : Option UuidV7) (fromTaskId toTaskId : UuidV7) (type : DependencyType)
    (actor : String) (now : UnixMs) (freshId relationId : UuidV7) : Call RelationStore := do
  refuse (fromTaskId = toTaskId) (.error s!"A task cannot depend on itself: {fromTaskId}")
  let id := id.getD freshId
  if type = .discoveredFrom then s.dependDiscovery rt id fromTaskId toTaskId actor now
  else
    let _ ← s.requireEndpoint fromTaskId
    let _ ← s.requireEndpoint toTaskId
    onlyIf (type = .blocks) (s.assertNoCycle fromTaskId toTaskId)
    let placed ← s.placeDependency id fromTaskId toTaskId type now
    match placed with
    | none => pure s
    | some (s, revived) => do
      let (s, principal) ← s.ensureLocalPrincipal rt actor now
      let e : RelationEdge := ⟨fromTaskId, type.relationType, toTaskId⟩
      let s ← s.ensureRelation (if revived then relationId else id) e principal.id now
      s.recordEvent rt actor none

/-- `UndependOptions`: an edge by its id, or by what it connects. -/
structure UndependOptions where
  id : Option UuidV7
  fromTaskId : Option UuidV7
  toTaskId : Option UuidV7
  type : Option DependencyType
  deriving DecidableEq

/-- The edge that is asked for: by id, or by its ends, which must then be given. -/
def UndependOptions.wanted (options : UndependOptions) (type : DependencyType) :
    Call (UuidV7 → RelationEdge → Bool) :=
  match options.id, options.fromTaskId, options.toTaskId with
  | some id, _, _ => pure fun k _ => k = id
  | none, some a, some b => pure fun _ e => e = ⟨a, type.relationType, b⟩
  | none, _, _ => .error (.error "undependTask requires an edge id or {fromTaskId,toTaskId}")

/-- `undependTask`, for a discovery. -/
def undependDiscovery (options : UndependOptions) (actor : String) (now : UnixMs) :
    Call RelationStore := do
  let wanted ← options.wanted .discoveredFrom
  let edge ← demand (s.relations.rows fun k r =>
      r.relationType = .discoveredFrom ∧ r.endedAt = none ∧ wanted k r.toRelationEdge = true).head?
    (.error "Dependency not found")
  let (s, principal) ← s.ensureLocalPrincipal rt actor now
  let s ← s.endRelations (fun k _ => k = edge.1) principal.id now
  s.recordEvent rt actor none

/-- `undependTask` -/
def undependTask (options : UndependOptions) (actor : String) (now : UnixMs) :
    Call RelationStore :=
  if options.type = some .discoveredFrom then s.undependDiscovery rt options actor now
  else do
    let wanted ← options.wanted (options.type.getD .blocks)
    let edge ← demand (s.dependencies.rows fun k d =>
        d.deletedAt = none ∧ wanted k d.edge = true).head? (.error "Dependency not found")
    let s := s.deleteDependency edge.1 now
    let (s, principal) ← s.ensureLocalPrincipal rt actor now
    let s ← s.endRelations (fun _ r => r.toRelationEdge = edge.2.edge ∧ r.endedAt = none)
      principal.id now
    s.recordEvent rt actor none

/-- `captureDiscovery`, once the follow-up task is created and has left `work`. -/
def captureDiscovery (work : WorkStore) (taskId sourceTaskId relationId : UuidV7)
    (actor : String) (now : UnixMs) : Call RelationStore := do
  let s := { s with work := work }
  let (s, principal) ← s.ensureLocalPrincipal rt actor now
  s.insertRelation relationId
    (.added ⟨taskId, .discoveredFrom, sourceTaskId⟩ principal.id now)

/-! ### What is blocked -/

/-- `unresolvedBlockers`: the open commitments that an active dependency leads to. -/
def unresolvedBlockers (taskId : UuidV7) : List (UuidV7 × Task) :=
  (s.relations.rows fun _ r => r.fromTaskId = taskId ∧ r.relationType = .dependsOn ∧
      r.endedAt = none).filterMap fun e =>
    (s.work.tasks[e.2.toTaskId]?.filter fun row =>
      row.deletedAt.isNone ∧ row.status ≠ .done ∧ row.status ≠ .cancelled).map
        (Prod.mk e.2.toTaskId)

/-- The statuses that the prioritizer counts blockers by: those of the live tasks that are open, in
    progress or blocked. -/
def statusById (id : UuidV7) : Option TaskStatus :=
  (s.work.tasks[id]?.filter fun row =>
    row.deletedAt.isNone ∧ row.status ∈ [TaskStatus.open, .inProgress, .blocked]).map (·.status)

/-- `unresolvedBlockerMap`, for one task. -/
def unresolvedBlockerMap (statusById : UuidV7 → Option TaskStatus) (taskId : UuidV7) : ℕ :=
  (s.dependencies.rows fun _ d => d.fromTaskId = taskId ∧ d.type = .blocks ∧ d.deletedAt = none ∧
    ∃ status ∈ statusById d.toTaskId, status ≠ .done ∧ status ≠ .cancelled).length

end RelationStore

end Tasq
