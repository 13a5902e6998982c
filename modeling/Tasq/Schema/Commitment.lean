import Mathlib.Data.PNat.Basic
import Mathlib.Tactic
import Tasq.Lib.Canonical
import Tasq.Lib.Text

/-! The commitment projection of the replication contract: what is replicated of a task, what a
    create and a patch may say, and the four commands.

    Numbers and texts carry the bounds that their schemas check on every path into the store. A
    UUID is the number of its text in text order. `CommitmentFields` are the fields that a create
    or a patch may set, `EngineFields` the ones that only the engine sets. -/

namespace Tasq

open Text

/-- A UUIDv7 text, numbered in text order. -/
abbrev UuidV7 := ℕ

/-- Unix milliseconds. -/
abbrev UnixMs := ℕ

/-- `z.string().min(1).max(500)` -/
abbrev Title := { s : String // 1 ≤ utf16Length s ∧ utf16Length s ≤ 500 }

/-- `z.string().min(1).max(2_000)` -/
abbrev Criteria := { s : String // 1 ≤ utf16Length s ∧ utf16Length s ≤ 2000 }

/-- `z.number().int().min(1).max(5)` -/
abbrev Priority := { n : ℕ // 1 ≤ n ∧ n ≤ 5 }

inductive TaskStatus where
  | «open» | inProgress | blocked | done | cancelled
  deriving DecidableEq, Repr

inductive CompletionMode where
  | assertion | evidence
  deriving DecidableEq, Repr

inductive RecurrenceUnit where
  | daily | weekly | monthly | yearly
  deriving DecidableEq, Repr

inductive RecurrenceAnchor where
  | due | scheduled | completion
  deriving DecidableEq, Repr

/-- `z.record(z.unknown())`: the fields in own-property order. -/
structure Metadata where
  fields : List (String × Json)
  deriving DecidableEq

instance : CanonicalJson Metadata where
  canonical m := ⟨Json.sortFields (Json.canonicalValues m.fields)⟩
  safe m := Json.safeValues m.fields
  canonical_canonical m := by
    simp only [Json.canonicalValues_sortFields, Json.canonicalValues_canonicalValues,
      Json.sortFields_sortFields]
  safe_canonical m := by
    simp only [Json.safeValues_sortFields, Json.safeValues_canonicalValues]

/-- The fields that a create or a patch may set. -/
structure CommitmentFields where
  title : Title
  description : Option String
  nextAction : Option String
  successCriteria : Option String
  completionMode : CompletionMode
  priority : Option Priority
  estimatedMinutes : Option ℕ+
  scheduledAt : Option UnixMs
  dueAt : Option UnixMs
  recurrence : Option RecurrenceUnit
  recurrenceInterval : ℕ+
  recurrenceAnchor : RecurrenceAnchor
  metadata : Metadata
  deriving DecidableEq

/-- The fields that only the engine sets. -/
structure EngineFields where
  status : TaskStatus
  startedAt : Option UnixMs
  completedAt : Option UnixMs
  lastDoneAt : Option UnixMs
  streak : ℕ
  recurrenceParentId : Option UuidV7
  deriving DecidableEq

/-- `ReplicatedCommitmentSnapshot` -/
structure ReplicatedCommitmentSnapshot extends CommitmentFields, EngineFields where
  id : UuidV7
  createdAt : UnixMs
  updatedAt : UnixMs
  deletedAt : Option UnixMs
  deriving DecidableEq

/-- `successCriteria` of `Task`: null, or 1 to 2000 code units. -/
def CriteriaBounded (criteria : Option String) : Prop :=
  ∀ s ∈ criteria, 1 ≤ utf16Length s ∧ utf16Length s ≤ 2000

instance (criteria : Option String) : Decidable (CriteriaBounded criteria) := by
  unfold CriteriaBounded; infer_instance

/-- `ReplicatedCommitmentCreate` -/
structure ReplicatedCommitmentCreate extends CommitmentFields where
  id : UuidV7
  criteria_bounded : CriteriaBounded successCriteria
  deriving DecidableEq

/-- `ReplicatedCommitmentPatch`: a missing field is `none`, a null one is `some none`. -/
structure ReplicatedCommitmentPatch where
  title : Option Title := none
  description : Option (Option String) := none
  nextAction : Option (Option String) := none
  successCriteria : Option (Option Criteria) := none
  completionMode : Option CompletionMode := none
  priority : Option (Option Priority) := none
  estimatedMinutes : Option (Option ℕ+) := none
  scheduledAt : Option (Option UnixMs) := none
  dueAt : Option (Option UnixMs) := none
  recurrence : Option (Option RecurrenceUnit) := none
  recurrenceInterval : Option ℕ+ := none
  recurrenceAnchor : Option RecurrenceAnchor := none
  metadata : Option Metadata := none
  deriving DecidableEq

namespace ReplicatedCommitmentPatch

/-- `Object.keys(value).length > 0` -/
def Nonempty (p : ReplicatedCommitmentPatch) : Prop := p ≠ {}

instance (p : ReplicatedCommitmentPatch) : Decidable p.Nonempty := inferInstanceAs (Decidable (_ ≠ _))

/-- `{ ...fields, ...patch }` -/
def apply (p : ReplicatedCommitmentPatch) (f : CommitmentFields) : CommitmentFields where
  title := p.title.getD f.title
  description := p.description.getD f.description
  nextAction := p.nextAction.getD f.nextAction
  successCriteria := (p.successCriteria.map (Option.map Subtype.val)).getD f.successCriteria
  completionMode := p.completionMode.getD f.completionMode
  priority := p.priority.getD f.priority
  estimatedMinutes := p.estimatedMinutes.getD f.estimatedMinutes
  scheduledAt := p.scheduledAt.getD f.scheduledAt
  dueAt := p.dueAt.getD f.dueAt
  recurrence := p.recurrence.getD f.recurrence
  recurrenceInterval := p.recurrenceInterval.getD f.recurrenceInterval
  recurrenceAnchor := p.recurrenceAnchor.getD f.recurrenceAnchor
  metadata := p.metadata.getD f.metadata

/-- `Object.entries(patch).some(([key, value]) => text(base[key]) !== text(value))`. The two places
    that ask this write a value as text in two ways, and only metadata comes out differently:
    `same` says when two metadata have one text. -/
def differs (p : ReplicatedCommitmentPatch) (same : Metadata → Metadata → Bool)
    (f : CommitmentFields) : Bool :=
  p.title.any (· ≠ f.title) || p.description.any (· ≠ f.description) ||
    p.nextAction.any (· ≠ f.nextAction) ||
    p.successCriteria.any (fun c => c.map Subtype.val ≠ f.successCriteria) ||
    p.completionMode.any (· ≠ f.completionMode) || p.priority.any (· ≠ f.priority) ||
    p.estimatedMinutes.any (· ≠ f.estimatedMinutes) || p.scheduledAt.any (· ≠ f.scheduledAt) ||
    p.dueAt.any (· ≠ f.dueAt) || p.recurrence.any (· ≠ f.recurrence) ||
    p.recurrenceInterval.any (· ≠ f.recurrenceInterval) ||
    p.recurrenceAnchor.any (· ≠ f.recurrenceAnchor) ||
    p.metadata.any (fun m => !same m f.metadata)

end ReplicatedCommitmentPatch

/-- `ReplicationCommand`, one constructor for each operation URI. -/
inductive ReplicationCommand where
  | createCommitment (input : ReplicatedCommitmentCreate)
  | updateCommitment (id : UuidV7) (patch : { p : ReplicatedCommitmentPatch // p.Nonempty })
  | deleteCommitment (id : UuidV7)
  | restoreCommitment (id : UuidV7)
  deriving DecidableEq

/-- `operationRecordId` -/
def operationRecordId : ReplicationCommand → UuidV7
  | .createCommitment input => input.id
  | .updateCommitment id _ => id
  | .deleteCommitment id => id
  | .restoreCommitment id => id

/-- The command is a create. -/
def ReplicationCommand.isCreate : ReplicationCommand → Bool
  | .createCommitment _ => true
  | _ => false

/-- The command is a deletion. -/
def ReplicationCommand.isDelete : ReplicationCommand → Bool
  | .deleteCommitment _ => true
  | _ => false

/-! ### Canonical form -/

instance : CanonicalJson CommitmentFields where
  canonical f := { f with metadata := canonical f.metadata }
  safe f := safe f.estimatedMinutes && safe f.scheduledAt && safe f.dueAt &&
    safe f.recurrenceInterval && safe f.metadata
  canonical_canonical f := by simp
  safe_canonical f := by simp

instance : CanonicalJson EngineFields where
  canonical e := e
  safe e := safe e.startedAt && safe e.completedAt && safe e.lastDoneAt && safe e.streak
  canonical_canonical _ := rfl
  safe_canonical _ := rfl

instance : CanonicalJson ReplicatedCommitmentSnapshot where
  canonical s := { s with toCommitmentFields := canonical s.toCommitmentFields }
  safe s := safe s.toCommitmentFields && safe s.toEngineFields && safe s.createdAt &&
    safe s.updatedAt && safe s.deletedAt
  canonical_canonical s := by simp
  safe_canonical s := by simp

instance : CanonicalJson ReplicatedCommitmentCreate where
  canonical c := { c with metadata := canonical c.metadata }
  safe c := safe c.toCommitmentFields
  canonical_canonical c := by simp
  safe_canonical c := by
    exact CanonicalJson.safe_canonical c.toCommitmentFields

instance : CanonicalJson ReplicatedCommitmentPatch where
  canonical p := { p with metadata := canonical p.metadata }
  safe p := safe p.estimatedMinutes && safe p.scheduledAt && safe p.dueAt &&
    safe p.recurrenceInterval && safe p.metadata
  canonical_canonical p := by simp
  safe_canonical p := by simp

theorem ReplicatedCommitmentPatch.canonical_nonempty {p : ReplicatedCommitmentPatch}
    (h : p.Nonempty) : (canonical p).Nonempty := by
  intro heq
  refine h ?_
  cases p
  simp only [canonical, ReplicatedCommitmentPatch.mk.injEq, Option.map_eq_none_iff] at heq ⊢
  exact heq

instance : CanonicalJson ReplicationCommand where
  canonical
    | .createCommitment input => .createCommitment (canonical input)
    | .updateCommitment id patch =>
      .updateCommitment id ⟨canonical patch.1, patch.1.canonical_nonempty patch.2⟩
    | .deleteCommitment id => .deleteCommitment id
    | .restoreCommitment id => .restoreCommitment id
  safe
    | .createCommitment input => safe input
    | .updateCommitment _ patch => safe patch.1
    | .deleteCommitment _ => true
    | .restoreCommitment _ => true
  canonical_canonical c := by cases c <;> simp
  safe_canonical c := by cases c <;> simp

@[simp] theorem operationRecordId_canonical (c : ReplicationCommand) :
    operationRecordId (canonical c) = operationRecordId c := by
  cases c <;> rfl

/-- Patching commutes with canonical form. -/
theorem ReplicatedCommitmentPatch.canonical_apply (p : ReplicatedCommitmentPatch)
    (f : CommitmentFields) :
    (canonical p).apply (canonical f) = canonical (p.apply f) := by
  cases p with
  | mk title description nextAction successCriteria completionMode priority estimatedMinutes
      scheduledAt dueAt recurrence recurrenceInterval recurrenceAnchor metadata =>
    cases metadata <;> rfl

/-! ### When a patch changes the fields -/

/-- A given value differs from the old one exactly when taking it changes the old one. -/
theorem any_ne_eq_false {α β : Type} [DecidableEq β] (g : α → β) (o : Option α) (a : α) :
    (o.any fun b => g b ≠ g a) = false ↔ g (o.getD a) = g a := by
  cases o <;> simp

theorem any_map_ne_eq_false {α β : Type} [DecidableEq β] (g : α → β) (o : Option α) (b : β) :
    (o.any fun a => g a ≠ b) = false ↔ (o.map g).getD b = b := by
  cases o <;> simp

/-- A patch does not differ from the fields exactly when applying it leaves the text of every
    field as it is, where `text` writes metadata. -/
theorem ReplicatedCommitmentPatch.differs_eq_false {β : Type} [DecidableEq β]
    (text : Metadata → β) (p : ReplicatedCommitmentPatch) (f : CommitmentFields) :
    p.differs (fun m n => text m = text n) f = false ↔
      { p.apply f with metadata := f.metadata } = f ∧ text (p.apply f).metadata = text f.metadata := by
  obtain ⟨⟩ := f
  obtain ⟨⟩ := p
  simp only [differs, apply, Bool.or_eq_false_iff, CommitmentFields.mk.injEq, and_assoc,
    ← decide_not, any_map_ne_eq_false, any_ne_eq_false text, Option.map_id', and_true]

/-- By `JSON.stringify`, a patch differs from the fields exactly when applying it changes them. -/
theorem ReplicatedCommitmentPatch.differs_stringify (p : ReplicatedCommitmentPatch)
    (f : CommitmentFields) : p.differs (fun m n => m = n) f = true ↔ p.apply f ≠ f := by
  have h := p.differs_eq_false id f
  simp only [id] at h
  rw [← Bool.not_eq_false, h]
  refine not_congr ⟨?_, fun hf => ⟨by rw [hf], by rw [hf]⟩⟩
  rintro ⟨hf, hm⟩
  rw [← hm] at hf
  exact hf

/-- By canonical text, a patch differs from the fields exactly when applying it changes their
    canonical form. -/
theorem ReplicatedCommitmentPatch.differs_canonical (p : ReplicatedCommitmentPatch)
    (f : CommitmentFields) :
    p.differs (fun m n => canonical m = canonical n) f = true ↔
      canonical (p.apply f) ≠ canonical f := by
  rw [← Bool.not_eq_false, p.differs_eq_false canonical f]
  refine not_congr ?_
  simp only [canonical, CommitmentFields.mk.injEq]
  obtain ⟨⟩ := f
  simp only [CommitmentFields.mk.injEq]
  tauto

end Tasq
