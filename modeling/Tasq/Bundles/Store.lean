import Mathlib.Data.Char
import Mathlib.Data.List.Lex
import Mathlib.Data.List.Sort
import Mathlib.Tactic
import Tasq.Lib.ReadBack

/-! What an outcome bundle is built from: the rows of the ledger that belong to one commitment, and
    the view of the agreement that it was compiled from.

    A row is its id, its workspace, what it belongs to and its other columns, as the inspection
    shows them. No table has an id twice, and no value has a key twice; a ledger carries both. -/

namespace Tasq.Bundles

open Text

/-! ### Rows -/

/-- The tables that an inspection reads for a bundle. -/
inductive RecordTable where
  | commitment | assignment | attempt | artifact | evidence | resolutionContract | evidenceTrust
  | completionProposal | completionChallenge | validationDecision | completionRecord | effect
  | effectApproval | effectReceipt
  deriving DecidableEq, Repr

/-- The types of the records of a bundle. -/
inductive RecordType where
  | agreement
  | table (t : RecordTable)
  deriving DecidableEq, Repr

/-- `recordType` -/
def RecordType.text : RecordType → String
  | agreement => "agreement"
  | table .commitment => "commitment"
  | table .assignment => "assignment"
  | table .attempt => "attempt"
  | table .artifact => "artifact"
  | table .evidence => "evidence"
  | table .resolutionContract => "resolution_contract"
  | table .evidenceTrust => "evidence_trust"
  | table .completionProposal => "completion_proposal"
  | table .completionChallenge => "completion_challenge"
  | table .validationDecision => "validation_decision"
  | table .completionRecord => "completion_record"
  | table .effect => "effect"
  | table .effectApproval => "effect_approval"
  | table .effectReceipt => "effect_receipt"

/-- A row: what it belongs to is a commitment, an effect or an offer. -/
structure LedgerRow where
  id : String
  tenantId : String
  ownerId : String
  orderedAt : ℕ
  columns : List (String × Json)

/-- The column that the rows of a table are read in the order of. -/
def RecordTable.orderKey : RecordTable → String
  | completionProposal => "proposedAt"
  | completionChallenge => "challengedAt"
  | validationDecision => "decidedAt"
  | completionRecord => "resultingRevision"
  | effectApproval => "decidedAt"
  | effectReceipt => "recordedAt"
  | _ => "createdAt"

/-- The column that says what a row belongs to. -/
def RecordTable.ownerKey : RecordTable → Option String
  | commitment => none
  | effectApproval => some "effectId"
  | effectReceipt => some "effectId"
  | _ => some "commitmentId"

/-- A row as the inspection shows it. -/
def RecordTable.value (t : RecordTable) (row : LedgerRow) : Json :=
  .obj (("id", .str row.id) :: row.columns ++
    [(t.orderKey, .num row.orderedAt), ("workspaceId", .str row.tenantId)] ++
    t.ownerKey.toList.map fun key => (key, .str row.ownerId))

/-- A text or nothing. -/
def optionalText : Option String → Json
  | some s => .str s
  | none => .null

/-- `agreement_offer` -/
structure OfferRow where
  id : String
  tenantId : String
  expiresAt : ℕ
  supersedesOfferId : Option String
  columns : List (String × Json)

/-- `parseOffer` -/
def OfferRow.value (offer : OfferRow) : Json :=
  .obj (("id", .str offer.id) :: offer.columns ++
    [("workspaceId", .str offer.tenantId), ("expiresAt", .num offer.expiresAt),
      ("supersedesOfferId", optionalText offer.supersedesOfferId)])

/-- A row about an offer: an acceptance, a termination or an activation, with the party that
    accepted or the action that ended the offer. -/
structure OfferEvent where
  tenantId : String
  offerId : String
  subject : String
  columns : List (String × Json)

/-- A row about an offer, with the column that its subject stands in. -/
def OfferEvent.value (key : String) (e : OfferEvent) : Json :=
  .obj (("workspaceId", .str e.tenantId) :: ("offerId", .str e.offerId) :: (key, .str e.subject) ::
    e.columns)

/-! ### The ledger -/

/-- What the ledger has of commitments and agreements. -/
structure OutcomeLedger where
  rows : RecordTable → List LedgerRow
  offers : List OfferRow
  acceptances : List OfferEvent
  terminations : List OfferEvent
  activations : List OfferEvent
  rows_nodup : ∀ t, ((rows t).map LedgerRow.id).Nodup
  rows_distinct : ∀ t, ∀ row ∈ rows t, (t.value row).distinct = true
  offers_distinct : ∀ offer ∈ offers, offer.value.distinct = true
  acceptances_distinct : ∀ e ∈ acceptances, (e.value "partyPrincipalId").distinct = true
  terminations_distinct : ∀ e ∈ terminations, (e.value "action").distinct = true
  activations_distinct : ∀ e ∈ activations, (e.value "id").distinct = true

/-- The workspace has the row about the offer. -/
def OfferEvent.Of (tenantId offerId : String) (e : OfferEvent) : Prop :=
  e.tenantId = tenantId ∧ e.offerId = offerId

instance (tenantId offerId : String) : DecidablePred (OfferEvent.Of tenantId offerId) := fun e => by
  unfold OfferEvent.Of; infer_instance

namespace OutcomeLedger

variable (l : OutcomeLedger)

/-- `getAgreementOffer` -/
def offer? (tenantId offerId : String) : Option OfferRow :=
  l.offers.find? fun offer => offer.tenantId = tenantId ∧ offer.id = offerId

/-- `acceptedSuccessorOfferId`, with the steps left and the offers seen. -/
def acceptedSuccessorOfferId (tenantId : String) :
    ℕ → List String → String → Except String (Option String)
  | 0, _, _ => .error "agreement amendment chain exceeds 100 offers"
  | steps + 1, seen, current =>
    let successor := l.offers.find? fun offer =>
      offer.tenantId = tenantId ∧ offer.supersedesOfferId = some current
    match successor with
    | none => .ok none
    | some offer =>
      if offer.id ∈ seen then .error "agreement amendment chain contains a cycle"
      else if l.activations.any fun e => OfferEvent.Of tenantId offer.id e then .ok (some offer.id)
      else acceptedSuccessorOfferId tenantId steps (offer.id :: seen) offer.id

/-- The state of an offer in the view. -/
def offerState (supersededBy : Option String) (activation termination : Option OfferEvent)
    (expired : Bool) : String :=
  if supersededBy.isSome then "superseded"
  else if activation.isSome then "accepted"
  else (termination.map OfferEvent.subject).getD (if expired then "expired" else "offered")

/-- `AgreementViewV1` -/
def viewJson (offer : OfferRow) (acceptances : List OfferEvent)
    (termination activation : Option OfferEvent) (supersededBy : Option String)
    (authorityTime : ℕ) : Json :=
  .obj [("contractVersion", .str "tasq.agreement-view.v1"), ("offer", offer.value),
    ("state", .str (offerState supersededBy activation termination
      (offer.expiresAt ≤ authorityTime))),
    ("acceptances", .arr (acceptances.map (OfferEvent.value "partyPrincipalId"))),
    ("termination", (termination.map (OfferEvent.value "action")).getD .null),
    ("activation", (activation.map (OfferEvent.value "id")).getD .null),
    ("supersededByOfferId", optionalText supersededBy),
    ("authorityTime", .num authorityTime),
    ("assurance", .obj [("assignmentAcceptanceIsAgreement", .bool false),
      ("effectAuthorityGranted", .bool false)])]

/-- `getAgreementView`, with the id of the offer. -/
def getAgreementView (offerId tenantId : String) (authorityTime : ℕ) :
    Except String (Option (String × Json)) :=
  match l.offer? tenantId offerId with
  | none => .ok none
  | some offer => do
    let accepted := l.acceptances.filter fun e => OfferEvent.Of tenantId offerId e
    let acceptances := accepted.insertionSort fun a b => a.subject.toList ≤ b.subject.toList
    let termination := l.terminations.find? fun e => OfferEvent.Of tenantId offerId e
    let activation := l.activations.find? fun e => OfferEvent.Of tenantId offerId e
    let supersededBy ← l.acceptedSuccessorOfferId tenantId 100 [offerId] offerId
    return some (offer.id, viewJson offer acceptances termination activation supersededBy
      authorityTime)

/-- The rows of a table that belong to one of the owners, in their order. -/
def belonging (tenantId : String) (owners : List String) (t : RecordTable) : List LedgerRow :=
  ((l.rows t).filter fun row => row.tenantId = tenantId ∧ row.ownerId ∈ owners).insertionSort
    fun a b => a.orderedAt ≤ b.orderedAt

/-- The rows of a table that belong to the commitment, or to one of its effects. -/
def owned (tenantId commitmentId : String) (t : RecordTable) : List LedgerRow :=
  let effectIds := (l.belonging tenantId [commitmentId] .effect).map LedgerRow.id
  match t with
  | .commitment => (l.rows .commitment).filter fun row => row.tenantId = tenantId ∧
      row.id = commitmentId
  | .effectApproval => l.belonging tenantId effectIds .effectApproval
  | .effectReceipt => l.belonging tenantId effectIds .effectReceipt
  | t => l.belonging tenantId [commitmentId] t

end OutcomeLedger

/-- What `inspectCommitment` shows of a commitment, as far as a bundle reads it. -/
structure Inspection where
  commitment : LedgerRow
  rows : RecordTable → List LedgerRow

/-- `inspectCommitment` -/
def inspectCommitment (l : OutcomeLedger) (commitmentId workspaceId : String) :
    Except String (Option Inspection) :=
  if Blank workspaceId then .error "workspaceId must not be blank"
  else .ok ((l.owned workspaceId commitmentId .commitment).head?.map fun commitment =>
    ⟨commitment, l.owned workspaceId commitmentId⟩)

end Tasq.Bundles
