import Mathlib.Tactic
import Tasq.Relations.Graph

/-! What each call on relations does to the two graphs: every completed call is a move. -/

namespace Tasq

open Outcome

namespace RelationStore

variable {s s' s₁ s₂ : RelationStore} {rt : RelationRuntime} {now : UnixMs} {E : UuidV7 → Prop}

/-! ### Inserts and attribution -/

theorem insertRelation_eq_ok {id : UuidV7} {r : CommitmentRelation}
    (h : s.insertRelation id r = .ok s') (hopen : r.endedAt = none) :
    s' = { s with relations := s.relations.insert id r } ∧ s.relations[id]? = none ∧
      ¬ s.ActiveEdge r.toRelationEdge := by
  simp only [insertRelation, bind_eq_ok, refuse_eq_ok] at h
  obtain ⟨-, hid, -, -, -, hfree, h⟩ := h
  obtain rfl := (pure_eq_ok _ _).1 h
  refine ⟨rfl, ?_, fun hactive => hfree ⟨hopen, active_iff.2 hactive⟩⟩
  exact Std.ExtTreeMap.getElem?_eq_none fun hmem => hid (.inl hmem)

theorem insertDependency_eq_ok {id : UuidV7} {d : TaskDependency}
    (h : s.insertDependency id d = .ok s') (hlive : d.deletedAt = none) :
    s' = { s with dependencies := s.dependencies.insert id d } ∧ s.dependencies[id]? = none ∧
      d.type ≠ .discoveredFrom ∧ ¬ s.LiveEdge d.edge := by
  simp only [insertDependency, bind_eq_ok, refuse_eq_ok] at h
  obtain ⟨-, hid, -, htype, -, hfree, h⟩ := h
  obtain rfl := (pure_eq_ok _ _).1 h
  refine ⟨rfl, ?_, htype, fun hactive => hfree ⟨hlive, live_iff.2 hactive⟩⟩
  exact Std.ExtTreeMap.getElem?_eq_none fun hmem => hid (.inl hmem)

theorem ensureRelation_eq_ok {id : UuidV7} {e : RelationEdge} {principalId : String}
    (h : s.ensureRelation id e principalId now = .ok s') (hfree : ¬ s.ActiveEdge e) :
    s' = { s with relations := s.relations.insert id (.added e principalId now) } ∧
      s.relations[id]? = none := by
  rw [ensureRelation, if_neg fun hactive => hfree (active_iff.1 hactive)] at h
  obtain ⟨heq, hid, -⟩ := insertRelation_eq_ok h rfl
  exact ⟨heq, hid⟩

theorem contextPrincipal_eq {ctx : PrincipalContext} {caller : Principal}
    (h : s.contextPrincipal rt ctx = .ok (s', caller)) : ∃ work, s' = { s with work := work } := by
  simp only [contextPrincipal, bind_eq_ok, pure_eq_ok, Prod.exists, Prod.mk.injEq] at h
  obtain ⟨work, _, -, rfl, -⟩ := h
  exact ⟨work, rfl⟩

theorem recordEvent_eq {actor : String} {principalId : Option String}
    (h : s.recordEvent rt actor principalId = .ok s') : ∃ work, s' = { s with work := work } := by
  simp only [recordEvent, bind_eq_ok, pure_eq_ok] at h
  obtain ⟨work, -, rfl⟩ := h
  exact ⟨work, rfl⟩

theorem endRelations_eq {p : UuidV7 → CommitmentRelation → Bool} {principalId : String}
    (h : s.endRelations p principalId now = .ok s') :
    s' = { s with
      relations := s.relations.map fun id r => if p id r then r.ended principalId now else r } := by
  simp only [endRelations, bind_eq_ok, refuse_eq_ok, pure_eq_ok, exists_const] at h
  exact h.2.2.symm

/-! ### Moves -/

/-- A move does not depend on the rest of the workspace. -/
theorem Moves.congr (h : Moves E s₁ s₂) (hr₁ : s₁.relations = s.relations)
    (hd₁ : s₁.dependencies = s.dependencies) (hr₂ : s'.relations = s₂.relations)
    (hd₂ : s'.dependencies = s₂.dependencies) : Moves E s s' := by
  have hactive : ∀ e, s₁.ActiveEdge e ↔ s.ActiveEdge e := by simp [ActiveEdge, hr₁]
  have hlive : ∀ e, s₁.LiveEdge e ↔ s.LiveEdge e := by simp [LiveEdge, hd₁]
  have hdepends : s₁.DependsOn = s.DependsOn := by
    funext a b
    exact propext (hactive _)
  have hblocks : s₁.Blocks = s.Blocks := by
    funext a b
    exact propext (hlive _)
  cases h with
  | same hr hd => exact .same (hr₂.trans (hr.trans hr₁)) (hd₂.trans (hd.trans hd₁))
  | notes id r hid hopen hfree htype hr hd =>
    exact .notes id r (hr₁ ▸ hid) hopen ((hactive _).not.1 hfree) htype
      (hr₂.trans (hr₁ ▸ hr)) (hd₂.trans (hd.trans hd₁))
  | places id depId r d hid hopen hl hedge hfree hfree' htype hdep hcycle hr hd =>
    exact .places id depId r d (hr₁ ▸ hid) hopen hl hedge ((hactive _).not.1 hfree)
      ((hlive _).not.1 hfree') htype (hd₁ ▸ hdep) (by rwa [← hdepends, ← hblocks])
      (hr₂.trans (hr₁ ▸ hr)) (hd₂.trans (hd₁ ▸ hd))
  | ends id r principalId now hid hopen hends hr hd =>
    exact .ends id r principalId now (hr₁ ▸ hid) hopen hends (hr₂.trans (hr₁ ▸ hr))
      (hd₂.trans (by simpa only [deleteDependency, hd₁] using hd))
  | removes id d principalId now hid hl hr hd =>
    exact .removes id d principalId now (hd₁ ▸ hid) hl (hr₂.trans (hr₁ ▸ hr))
      (hd₂.trans (by simpa only [deleteDependency, hd₁] using hd))

/-- ADD: a relation with its mirror, where there is one. -/
theorem insert_mirror_moves {id : UuidV7} {e : RelationEdge} {principalId : String}
    (hcycle : e.relationType = .dependsOn →
      ¬ Relation.ReflTransGen s.DependsOn e.toTaskId e.fromTaskId)
    (hinsert : s.insertRelation id (.added e principalId now) = .ok s₁)
    (hmirror : s₁.mirror id e now = .ok s') : Moves E s s' := by
  obtain ⟨rfl, hid, hfree⟩ := insertRelation_eq_ok hinsert rfl
  unfold mirror at hmirror
  split at hmirror
  · rename_i htype
    obtain rfl := (pure_eq_ok _ _).1 hmirror
    exact .notes id (.added e principalId now) hid rfl hfree htype rfl rfl
  · rename_i type htype
    obtain ⟨rfl, hdep, hmirrored, hlive⟩ := insertDependency_eq_ok hmirror rfl
    have hedge : (TaskDependency.added e.fromTaskId e.toTaskId type now).edge = e :=
      added_edge htype
    rw [hedge] at hlive
    exact .places id id (.added e principalId now) _ hid rfl rfl hedge hfree hlive hmirrored
      (.inl ⟨hdep, rfl⟩) (fun hdepends => .inl (hcycle hdepends)) rfl rfl

/-- ADD: `addCommitmentRelation` is a move. -/
theorem addCommitmentRelation_moves {input : CommitmentRelationInsert} {ctx : PrincipalContext}
    {freshId : UuidV7} {result : CommitmentRelation}
    (h : s.addCommitmentRelation rt input ctx freshId = .ok (s', result)) : Moves E s s' := by
  simp only [addCommitmentRelation, bind_eq_ok, Prod.exists] at h
  obtain ⟨_, -, retries, prior, -, h⟩ := h
  cases prior with
  | some record =>
    simp only [bind_eq_ok, pure_eq_ok, Prod.mk.injEq] at h
    obtain ⟨_, -, rfl, -⟩ := h
    exact .same rfl rfl
  | none =>
    simp only [bind_eq_ok, onlyIf_eq_ok, pure_eq_ok, Prod.exists, Prod.mk.injEq] at h
    obtain ⟨_, -, _, -, s₁, caller, hcaller, _, hcycle, s₂, hinsert, s₃, hmirror, _, -, s₄, hevent,
      retries', -, rfl, -⟩ := h
    obtain ⟨work, rfl⟩ := contextPrincipal_eq hcaller
    obtain ⟨work', rfl⟩ := recordEvent_eq hevent
    have hmoves := insert_mirror_moves (E := E)
      (fun hdepends => assertNoDependencyCycle_eq_ok (hcycle hdepends)) hinsert hmirror
    exact hmoves.congr rfl rfl rfl rfl

/-! ### Ends -/

/-- END: `endCommitmentRelation` is a move. -/
theorem endCommitmentRelation_moves {id : UuidV7} {expectedRevision : ℕ} {ctx : PrincipalContext}
    (h : s.endCommitmentRelation rt id expectedRevision ctx = .ok s') : Moves (· = id) s s' := by
  simp only [endCommitmentRelation, bind_eq_ok, demand_eq_ok] at h
  obtain ⟨r, hr, h⟩ := h
  split at h
  · obtain rfl := (pure_eq_ok _ _).1 h
    exact .same rfl rfl
  · rename_i hopen
    simp only [bind_eq_ok, Prod.exists] at h
    obtain ⟨s₁, caller, hcaller, _, -, s₂, hend, hevent⟩ := h
    obtain ⟨work, rfl⟩ := contextPrincipal_eq hcaller
    obtain rfl := endRelations_eq hend
    obtain ⟨work', rfl⟩ := recordEvent_eq hevent
    refine .ends id r caller.id ctx.now hr (by simpa using hopen) (.inr rfl) ?_ rfl
    simp [deleteDependency]

/-- A relation whose type is not mirrored has no dependency under its id. -/
theorem Sound.unmirrored (hs : s.Sound) {id : UuidV7} {r : CommitmentRelation}
    (hid : s.relations[id]? = some r) (htype : r.relationType = .discoveredFrom) :
    (s.deleteDependency id now).dependencies = s.dependencies := by
  refine Table.modify_of_none ?_ _
  rcases hd : s.dependencies[id]? with _ | d
  · rfl
  · obtain ⟨r', hr', hedge⟩ := hs.sameEdge id d hd
    obtain rfl := Option.some.inj (hid.symm.trans hr')
    have hdiscovered : d.type.relationType = .discoveredFrom := by
      rw [← htype, hedge]
      rfl
    refine absurd ?_ (hs.types id d hd)
    cases hkind : d.type <;> simp_all [DependencyType.relationType]

/-- REMOVE: `undependTask` is a move. -/
theorem undependTask_moves (hs : s.Sound) {options : UndependOptions} {actor : String}
    (h : s.undependTask rt options actor now = .ok s') : Moves E s s' := by
  unfold undependTask at h
  split at h
  · simp only [undependDiscovery, bind_eq_ok, demand_eq_ok, Prod.exists] at h
    obtain ⟨wanted, -, id, r, hedge, s₁, principal, hcaller, s₂, hend, hevent⟩ := h
    obtain ⟨work, rfl⟩ := contextPrincipal_eq hcaller
    obtain rfl := endRelations_eq hend
    obtain ⟨work', rfl⟩ := recordEvent_eq hevent
    obtain ⟨hid, hp⟩ := Table.mem_rows.1 (List.mem_of_head? hedge)
    rw [decide_eq_true_eq] at hp
    exact .ends id r principal.id now hid hp.2.1 (.inl (by rw [hp.1]; rfl)) (by simp)
      (hs.unmirrored hid hp.1).symm
  · simp only [bind_eq_ok, demand_eq_ok, Prod.exists] at h
    obtain ⟨wanted, -, id, d, hedge, s₁, principal, hcaller, s₂, hend, hevent⟩ := h
    obtain ⟨work, rfl⟩ := contextPrincipal_eq hcaller
    obtain rfl := endRelations_eq hend
    obtain ⟨work', rfl⟩ := recordEvent_eq hevent
    obtain ⟨hid, hp⟩ := Table.mem_rows.1 (List.mem_of_head? hedge)
    rw [decide_eq_true_eq] at hp
    refine .removes id d principal.id now hid hp.1 ?_ rfl
    simp [deleteDependency]

/-! ### The older way to add -/

theorem mem_dependencyRows {a b : UuidV7} {type : DependencyType} {e : UuidV7 × TaskDependency} :
    e ∈ s.dependencyRows a b type ↔
      s.dependencies[e.1]? = some e.2 ∧ e.2.fromTaskId = a ∧ e.2.toTaskId = b ∧ e.2.type = type := by
  simp [dependencyRows, Table.mem_rows]

/-- PLACE: the edge was not live, and is live afterwards under a row of its own or a new one. -/
theorem placeDependency_eq_ok {id a b : UuidV7} {type : DependencyType} {revived : Bool}
    (h : s.placeDependency id a b type now = .ok (some (s', revived))) :
    ∃ depId d, s' = { s with dependencies := s.dependencies.insert depId d } ∧
      d.edge = ⟨a, type.relationType, b⟩ ∧ d.deletedAt = none ∧
      ¬ s.LiveEdge ⟨a, type.relationType, b⟩ ∧
      (s.dependencies[depId]? = none ∧ depId = id ∧ revived = false ∧ d.type ≠ .discoveredFrom ∨
        ∃ d₀, s.dependencies[depId]? = some d₀ ∧ d₀.edge = d.edge ∧ d.type = d₀.type) := by
  unfold placeDependency at h
  split at h
  · rename_i priorId prior hhead
    split at h
    · cases h
    · rename_i hdeleted
      obtain ⟨s₁, hrevive, heq⟩ := (map_eq_ok _ _ _).1 h
      simp only [Option.some.injEq, Prod.mk.injEq] at heq
      obtain ⟨rfl, -⟩ := heq
      simp only [reviveDependency, bind_eq_ok, refuse_eq_ok] at hrevive
      obtain ⟨-, hlive, hrevive⟩ := hrevive
      obtain rfl := (pure_eq_ok _ _).1 hrevive
      obtain ⟨hprior, rfl, rfl, rfl⟩ := mem_dependencyRows.1 (List.mem_of_head? hhead)
      exact ⟨priorId, _, rfl, rfl, rfl, fun h => hlive (live_iff.2 h),
        .inr ⟨prior, hprior, rfl, rfl⟩⟩
  · obtain ⟨s₁, hinsert, heq⟩ := (map_eq_ok _ _ _).1 h
    simp only [Option.some.injEq, Prod.mk.injEq] at heq
    obtain ⟨rfl, rfl⟩ := heq
    obtain ⟨rfl, hid, htype, hlive⟩ := insertDependency_eq_ok hinsert rfl
    exact ⟨id, _, rfl, rfl, rfl, hlive, .inl ⟨hid, rfl, rfl, htype⟩⟩

/-- ADD: `dependTask` is a move. -/
theorem dependTask_moves (hs : s.Sound) {id : Option UuidV7} {a b freshId relationId : UuidV7}
    {type : DependencyType} {actor : String}
    (h : s.dependTask rt id a b type actor now freshId relationId = .ok s') : Moves E s s' := by
  simp only [dependTask, bind_eq_ok] at h
  obtain ⟨-, -, h⟩ := h
  split at h
  · simp only [dependDiscovery, bind_eq_ok] at h
    obtain ⟨_, -, _, -, h⟩ := h
    split at h
    · obtain rfl := (pure_eq_ok _ _).1 h
      exact .same rfl rfl
    · simp only [bind_eq_ok, Prod.exists] at h
      obtain ⟨s₁, principal, hcaller, s₂, hinsert, hevent⟩ := h
      obtain ⟨work, rfl⟩ := contextPrincipal_eq hcaller
      obtain ⟨rfl, hid, hfree⟩ := insertRelation_eq_ok hinsert rfl
      obtain ⟨work', rfl⟩ := recordEvent_eq hevent
      exact .notes _ (.added ⟨a, .discoveredFrom, b⟩ principal.id now) hid rfl hfree rfl rfl rfl
  · rename_i htype
    simp only [bind_eq_ok, onlyIf_eq_ok] at h
    obtain ⟨_, -, _, -, -, hcycle, placed, hplaced, h⟩ := h
    cases placed with
    | none =>
      obtain rfl := (pure_eq_ok _ _).1 h
      exact .same rfl rfl
    | some placed =>
      obtain ⟨s₁, revived⟩ := placed
      obtain ⟨depId, d, rfl, hedge, hlive, hfree, hdep⟩ := placeDependency_eq_ok hplaced
      simp only [bind_eq_ok, Prod.exists] at h
      obtain ⟨s₂, principal, hcaller, s₃, hinsert, hevent⟩ := h
      obtain ⟨work, rfl⟩ := contextPrincipal_eq hcaller
      obtain ⟨work', rfl⟩ := recordEvent_eq hevent
      -- no relation of the edge is active, since no dependency of it was live
      have hmirrored : (⟨a, type.relationType, b⟩ : RelationEdge).relationType.dependencyType ≠
          none := by
        cases type <;> simp_all [DependencyType.relationType, RelationType.dependencyType]
      have hinactive : ¬ s.ActiveEdge ⟨a, type.relationType, b⟩ := fun hactive =>
        hfree (hs.mirrored _ hactive hmirrored)
      obtain ⟨rfl, hid⟩ := ensureRelation_eq_ok hinsert hinactive
      refine .places _ depId (.added ⟨a, type.relationType, b⟩ principal.id now) d hid rfl hlive
        hedge hinactive hfree ?_ ?_ (fun hdepends => .inr ?_) rfl rfl
      · rcases hdep with ⟨-, -, -, hne⟩ | ⟨d₀, hd₀, -, hsame⟩
        · exact hne
        · exact hsame ▸ hs.types depId d₀ hd₀
      · rcases hdep with ⟨hnone, rfl, rfl, -⟩ | ⟨d₀, hd₀, hsame, -⟩
        · exact .inl ⟨hnone, rfl⟩
        · exact .inr ⟨d₀, hd₀, hsame⟩
      · exact assertNoCycle_eq_ok (hcycle (relationType_eq_dependsOn.1 hdepends))

/-- ADD: `captureDiscovery` is a move. -/
theorem captureDiscovery_moves {work : WorkStore} {taskId sourceTaskId relationId : UuidV7}
    {actor : String}
    (h : s.captureDiscovery rt work taskId sourceTaskId relationId actor now = .ok s') :
    Moves E s s' := by
  simp only [captureDiscovery, bind_eq_ok, Prod.exists] at h
  obtain ⟨s₁, principal, hcaller, hinsert⟩ := h
  obtain ⟨work', rfl⟩ := contextPrincipal_eq hcaller
  obtain ⟨rfl, hid, hfree⟩ := insertRelation_eq_ok hinsert rfl
  exact .notes _ (.added ⟨taskId, .discoveredFrom, sourceTaskId⟩ principal.id now) hid rfl hfree rfl
    rfl rfl

end RelationStore

end Tasq
