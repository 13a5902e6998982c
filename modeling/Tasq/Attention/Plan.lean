import Mathlib.Tactic
import Tasq.Lib.Sorted
import Tasq.Statements.Schema

/-! Planning the attention of one recipient: the pending requests are put in order, held back while
    the recipient is not to be disturbed or the batch window is open, and packed into batches.

        requests ──check──▶ queue ──disturbing?──▶ deferred until the windows end
                                  ──waiting?────▶ deferred until the batch window ends
                                  ──pack────────▶ ready

    The windows of a policy are scanned in the order of their starts; the scan answers the first
    instant from now on that lies in no window. Whoever comes back at the instants that the plans
    name comes back three times at most before the queue is packed. -/

namespace Tasq.Attention

open Text Outcome Json Custody Statements

/-- The platform: SHA-256 and the collation of the runtime. -/
structure AttentionRuntime where
  /-- SHA-256 of the UTF-8 bytes in hexadecimal digits. -/
  sha256Hex : List Char → {s : String // matchesHex64 s = true}
  /-- `a.localeCompare(b)` -/
  localeCompare : String → String → Ordering

/-- `z.number().int().nonnegative().safe()` -/
def IsUnixMs (n : ℕ) : Prop := n ≤ maxSafeInteger

instance (n : ℕ) : Decidable (IsUnixMs n) := by unfold IsUnixMs; infer_instance

/-! ### Requests -/

/-- `InputRequiredAttentionInput` -/
structure Input where
  workspaceId : String
  eventId : String
  eventSequence : ℕ
  recipientRef : String
  commitmentId : String
  attemptId : String
  reasonCode : String
  summary : String
  decisionContextDigest : String
  requestedAt : UnixMs
  respondBy : Option UnixMs
  deriving DecidableEq

/-- `InputRequiredAttentionRequest` -/
structure Request extends Input where
  contractVersion : String
  kind : String
  requestId : String
  payloadDigest : String
  deriving DecidableEq

/-- The texts as the schema reads them. -/
def Input.trim (i : Input) : Input :=
  { i with
    workspaceId := jsTrim i.workspaceId
    eventId := jsTrim i.eventId
    recipientRef := jsTrim i.recipientRef
    commitmentId := jsTrim i.commitmentId
    attemptId := jsTrim i.attemptId
    reasonCode := jsTrim i.reasonCode
    summary := jsTrim i.summary }

/-- The bounds of the schema. -/
def IsInput (i : Input) : Prop :=
  IsText 200 i.workspaceId ∧ IsText 500 i.eventId ∧ (0 < i.eventSequence ∧ IsUnixMs i.eventSequence) ∧
  IsText 500 i.recipientRef ∧ IsText 500 i.commitmentId ∧ IsText 500 i.attemptId ∧
  IsText 120 i.reasonCode ∧ IsText 2000 i.summary ∧ IsDigest i.decisionContextDigest ∧
  IsUnixMs i.requestedAt ∧ ∀ t ∈ i.respondBy, IsUnixMs t ∧ i.requestedAt ≤ t

instance (i : Input) : Decidable (IsInput i) := by
  unfold IsInput IsText IsUnixMs; infer_instance

/-- A number or nothing. -/
def optionalNumber (n : Option ℕ) : Json := (n.map fun n => Json.num n).getD .null

/-- `tasq.input-required-attention.v1` -/
def requestContract : String := "tasq.input-required-attention.v1"

/-- `INPUT_REQUIRED_ATTENTION_KIND` -/
def inputRequiredKind : String := "input_required"

/-- The content of a request that its digest covers. -/
def Input.fields (i : Input) (contractVersion kind : String) : List (String × Json) :=
  [("contractVersion", .str contractVersion), ("kind", .str kind),
    ("workspaceId", .str i.workspaceId), ("eventId", .str i.eventId),
    ("eventSequence", .num i.eventSequence), ("recipientRef", .str i.recipientRef),
    ("commitmentId", .str i.commitmentId), ("attemptId", .str i.attemptId),
    ("reasonCode", .str i.reasonCode), ("summary", .str i.summary),
    ("decisionContextDigest", .str i.decisionContextDigest), ("requestedAt", .num i.requestedAt),
    ("respondBy", optionalNumber i.respondBy)]

/-- What the identity of a request covers. -/
def Input.identity (i : Input) : Json :=
  .obj [("workspaceId", .str i.workspaceId), ("eventId", .str i.eventId),
    ("eventSequence", .num i.eventSequence), ("recipientRef", .str i.recipientRef),
    ("commitmentId", .str i.commitmentId), ("attemptId", .str i.attemptId)]

/-- A request as a value. -/
def Request.json (r : Request) : Json :=
  .obj (r.fields r.contractVersion r.kind ++
    [("requestId", .str r.requestId), ("payloadDigest", .str r.payloadDigest)])

namespace AttentionRuntime

variable (rt : AttentionRuntime)

/-- `digest`, without its prefix. -/
def hash (value : Json) : Call String := do
  refuse (¬ Within effectLimits value) (.error "Effect canonicalization rejects the value")
  pure (rt.sha256Hex (serialize value)).1

/-- `digest` -/
def digest (value : Json) : Call String := ("sha256:" ++ ·) <$> rt.hash value

/-- `createInputRequiredAttentionRequest` -/
def createInputRequiredAttentionRequest (input : Input) : Call Request := do
  let parsed := input.trim
  refuse (¬ IsInput parsed) (.invalid "InputRequiredAttentionInput")
  let payloadDigest ← rt.digest (.obj (parsed.fields requestContract inputRequiredKind))
  let identity ← rt.hash parsed.identity
  pure
    { parsed with
      contractVersion := requestContract
      kind := inputRequiredKind
      requestId := "attention-request:" ++ identity
      payloadDigest := payloadDigest }

end AttentionRuntime

/-! ### Policies -/

/-- `DoNotDisturbWindow` -/
structure Window where
  startsAt : UnixMs
  endsAt : UnixMs
  sourceRef : String
  deriving DecidableEq

/-- What `AttentionPolicyDefinition` admits, before its defaults. -/
structure PolicyInput where
  recipientRef : String
  maximumBatchItems : Option ℕ := none
  maximumBatchWaitMs : Option ℕ := none
  maximumBatchBytes : Option ℕ := none
  doNotDisturbWindows : Option (List Window) := none
  deriving DecidableEq

/-- `AttentionPolicyDefinition` -/
structure PolicyDefinition where
  recipientRef : String
  maximumBatchItems : ℕ
  maximumBatchWaitMs : ℕ
  maximumBatchBytes : ℕ
  doNotDisturbWindows : List Window
  deriving DecidableEq

/-- `AttentionPolicy` -/
structure Policy extends PolicyDefinition where
  policyDigest : String
  deriving DecidableEq

/-- `MAXIMUM_ATTENTION_BATCH_ITEMS` -/
def maximumItems : ℕ := 50

/-- `MAXIMUM_ATTENTION_BATCH_BYTES` -/
def maximumBytes : ℕ := 65536

def Window.trim (w : Window) : Window := { w with sourceRef := jsTrim w.sourceRef }

/-- The definition as the schema reads it, with its defaults. -/
def PolicyInput.parsed (input : PolicyInput) : PolicyDefinition where
  recipientRef := jsTrim input.recipientRef
  maximumBatchItems := input.maximumBatchItems.getD 25
  maximumBatchWaitMs := input.maximumBatchWaitMs.getD 300000
  maximumBatchBytes := input.maximumBatchBytes.getD maximumBytes
  doNotDisturbWindows := (input.doNotDisturbWindows.getD []).map Window.trim

/-- A definition as an input that leaves nothing out. -/
def PolicyDefinition.input (d : PolicyDefinition) : PolicyInput where
  recipientRef := d.recipientRef
  maximumBatchItems := some d.maximumBatchItems
  maximumBatchWaitMs := some d.maximumBatchWaitMs
  maximumBatchBytes := some d.maximumBatchBytes
  doNotDisturbWindows := some d.doNotDisturbWindows

/-- The bounds of a window. -/
def IsWindow (w : Window) : Prop :=
  IsUnixMs w.startsAt ∧ IsUnixMs w.endsAt ∧ IsText 500 w.sourceRef ∧ w.startsAt < w.endsAt

/-- The bounds of a definition. -/
def IsDefinition (d : PolicyDefinition) : Prop :=
  IsText 500 d.recipientRef ∧ (1 ≤ d.maximumBatchItems ∧ d.maximumBatchItems ≤ maximumItems) ∧
  d.maximumBatchWaitMs ≤ 86400000 ∧ (4096 ≤ d.maximumBatchBytes ∧ d.maximumBatchBytes ≤ maximumBytes) ∧
  d.doNotDisturbWindows.length ≤ 128 ∧ ∀ w ∈ d.doNotDisturbWindows, IsWindow w

instance (d : PolicyDefinition) : Decidable (IsDefinition d) := by
  unfold IsDefinition IsWindow IsText IsUnixMs; infer_instance

def Window.json (w : Window) : Json :=
  .obj [("startsAt", .num w.startsAt), ("endsAt", .num w.endsAt), ("sourceRef", .str w.sourceRef)]

/-- A definition as a value. -/
def PolicyDefinition.json (d : PolicyDefinition) : Json :=
  .obj [("contractVersion", .str "tasq.attention-policy.v1"), ("recipientRef", .str d.recipientRef),
    ("maximumBatchItems", .num d.maximumBatchItems), ("maximumBatchWaitMs", .num d.maximumBatchWaitMs),
    ("maximumBatchBytes", .num d.maximumBatchBytes),
    ("doNotDisturbWindows", .arr (d.doNotDisturbWindows.map Window.json))]

/-- `left.startsAt - right.startsAt || left.endsAt - right.endsAt` -/
def byStart : Window → Window → Ordering :=
  compareLex (compareOn Window.startsAt) (compareOn Window.endsAt)

/-- The definition that a policy is made of, with its windows in order. -/
def PolicyInput.definition (input : PolicyInput) : PolicyDefinition :=
  { input.parsed with
    doNotDisturbWindows := Sorted.sortBy byStart input.parsed.doNotDisturbWindows }

/-- `defineAttentionPolicy` -/
def AttentionRuntime.defineAttentionPolicy (rt : AttentionRuntime) (input : PolicyInput) :
    Call Policy := do
  refuse (¬ IsDefinition input.parsed) (.invalid "AttentionPolicyDefinition")
  let policyDigest ← rt.digest input.definition.json
  pure { input.definition with policyDigest := policyDigest }

/-! ### Do not disturb -/

/-- The loop of `activeDoNotDisturbEnd`. -/
def endFrom (now : UnixMs) : Option UnixMs → List Window → Option UnixMs
  | last, [] => last
  | last, w :: ws =>
    -- The windows are in the order of their starts, so none of the rest joins.
    if last.getD now < w.startsAt then last
    else if w.startsAt ≤ now ∧ now < w.endsAt then
      endFrom now (some (max (last.getD 0) w.endsAt)) ws
    else
      match last with
      | none => endFrom now none ws
      | some e => endFrom now (some (if w.startsAt ≤ e then max e w.endsAt else e)) ws

/-- `activeDoNotDisturbEnd` -/
def activeDoNotDisturbEnd (policy : PolicyDefinition) (now : UnixMs) : Option UnixMs :=
  endFrom now none policy.doNotDisturbWindows

/-! ### Batches -/

/-- `AttentionBatchEnvelope` -/
structure Batch where
  deliveryId : String
  workspaceId : String
  recipientRef : String
  policyDigest : String
  requestIds : List String
  requests : List Request
  firstRequestedAt : UnixMs
  lastRequestedAt : UnixMs
  payloadDigest : String
  deriving DecidableEq

/-- The content of a batch that its digest covers. -/
def Batch.fields (b : Batch) : List (String × Json) :=
  [("contractVersion", .str "tasq.attention-batch.v1"), ("workspaceId", .str b.workspaceId),
    ("recipientRef", .str b.recipientRef), ("policyDigest", .str b.policyDigest),
    ("requestIds", texts b.requestIds), ("requests", .arr (b.requests.map Request.json)),
    ("firstRequestedAt", .num b.firstRequestedAt), ("lastRequestedAt", .num b.lastRequestedAt)]

/-- A batch as a value. -/
def Batch.json (b : Batch) : Json :=
  .obj (b.fields ++ [("deliveryId", .str b.deliveryId), ("payloadDigest", .str b.payloadDigest)])

/-- What the identity of a delivery covers. -/
def Batch.identity (b : Batch) : Json :=
  .obj [("workspaceId", .str b.workspaceId), ("recipientRef", .str b.recipientRef),
    ("policyDigest", .str b.policyDigest), ("requestDigests", texts (b.requests.map (·.payloadDigest)))]

namespace AttentionRuntime

variable (rt : AttentionRuntime)

/-- `createAttentionBatchEnvelope`, of a first request and those that follow it. -/
def createAttentionBatchEnvelope (policy : Policy) (first : Request) (others : List Request) :
    Call Batch := do
  let requests := first :: others
  let content : Batch :=
    { deliveryId := ""
      workspaceId := first.workspaceId
      recipientRef := first.recipientRef
      policyDigest := policy.policyDigest
      requestIds := requests.map (·.requestId)
      requests := requests
      firstRequestedAt := first.requestedAt
      lastRequestedAt := (requests.getLast (List.cons_ne_nil _ _)).requestedAt
      payloadDigest := "" }
  let payloadDigest ← rt.digest (.obj content.fields)
  let identity ← rt.hash content.identity
  pure { content with deliveryId := "attention-batch:" ++ identity, payloadDigest := payloadDigest }

/-- `canonicalBytes` -/
def canonicalBytes (value : Json) : Call ℕ := do
  refuse (¬ Within effectLimits value) (.error "Effect canonicalization rejects the value")
  pure (bytes (serialize value))

/-- The envelope of a first request and the next `n`, unless it is too long. -/
def fitting (policy : Policy) (first : Request) (others : List Request) (n : ℕ) :
    Call (Option Batch) := do
  let envelope ← rt.createAttentionBatchEnvelope policy first (others.take n)
  let size ← canonicalBytes envelope.json
  pure (if size ≤ policy.maximumBatchBytes then some envelope else none)

/-- The inner loop of `packBatches`: the first request with at most `n` that follow it, and fewer
    as long as the envelope is too long. -/
def shrink (policy : Policy) (first : Request) (others : List Request) : ℕ → Call Batch
  | 0 => do
    demand (← rt.fitting policy first others 0) (.error
      ("Attention request exceeds the configured batch byte bound: " ++ first.requestId))
  | n + 1 => do
    match ← rt.fitting policy first others (n + 1) with
    | some envelope => pure envelope
    | none => shrink policy first others n

/-- The outer loop of `packBatches`, with a bound on its turns. -/
def packFrom (policy : Policy) : ℕ → List Request → Call (List Batch)
  | _, [] => pure []
  | 0, _ :: _ => .error .unbounded
  | turns + 1, first :: others => do
    let envelope ← rt.shrink policy first others (min (policy.maximumBatchItems - 1) others.length)
    let rest ← packFrom policy turns (others.drop (envelope.requests.length - 1))
    pure (envelope :: rest)

/-- `packBatches`: every turn takes a request. -/
def packBatches (policy : Policy) (requests : List Request) : Call (List Batch) :=
  rt.packFrom policy requests.length requests

end AttentionRuntime

/-! ### Plans -/

/-- Why a plan is deferred. -/
inductive DeferralReason where
  | batchWindow
  | doNotDisturb
  deriving DecidableEq, Repr

/-- `AttentionPlan` -/
inductive AttentionPlan where
  | empty
  | deferred (reason : DeferralReason) (pendingRequestIds : List String) (nextEligibleAt : UnixMs)
      (policyDigest : String)
  | ready (batches : List Batch) (policyDigest : String)
  deriving DecidableEq

namespace AttentionRuntime

variable (rt : AttentionRuntime)

/-- The order of the queue: by the time of the request, the event and the id. -/
def inOrder : Request → Request → Ordering :=
  compareLex (compareOn (·.requestedAt)) (compareLex (compareOn (·.eventSequence))
    (Sorted.byField rt.localeCompare (·.requestId)))

/-- A pending request is the one that its fields make. -/
def checked (request : Request) : Call Request := do
  let regenerated ← rt.createInputRequiredAttentionRequest request.toInput
  refuse (request.contractVersion ≠ regenerated.contractVersion ∨ request.kind ≠ regenerated.kind ∨
      request.requestId ≠ regenerated.requestId ∨ request.payloadDigest ≠ regenerated.payloadDigest)
    (.error ("Attention request identity or digest mismatch: " ++ request.requestId))
  pure regenerated

/-- The checks and the order of the pending queue of `planAttention`. -/
def queueOf (policy : Policy) (inputRequests : List Request) : Call (List Request) := do
  let regenerated ← inputRequests.mapM rt.checked
  let requests := Sorted.sortBy rt.inOrder regenerated
  refuse (∃ first ∈ requests.head?, first.recipientRef ≠ policy.recipientRef)
    (.error "Attention policy recipient does not match the pending queue")
  refuse (∃ first ∈ requests.head?, ∃ r ∈ requests,
      r.workspaceId ≠ first.workspaceId ∨ r.recipientRef ≠ first.recipientRef)
    (.error "One attention plan cannot mix workspaces or recipients")
  refuse (¬ (requests.map (·.requestId)).Nodup)
    (.error "Attention queue contains a duplicate request identity")
  pure requests

/-- `planAttention`, of a queue in order. -/
def planQueue (policy : Policy) (now : UnixMs) : List Request → Call AttentionPlan
  | [] => pure .empty
  | first :: others => do
    let requests := first :: others
    match activeDoNotDisturbEnd policy.toPolicyDefinition now with
    | some dndEndsAt =>
      pure (.deferred .doNotDisturb (requests.map (·.requestId)) dndEndsAt policy.policyDigest)
    | none =>
      let batchWindowEndsAt := first.requestedAt + policy.maximumBatchWaitMs
      refuse (¬ IsUnixMs batchWindowEndsAt)
        (.error "Attention batch window exceeds safe unix-ms range")
      if requests.length < policy.maximumBatchItems ∧ now < batchWindowEndsAt ∧
          ¬ ∃ r ∈ requests, ∃ t ∈ r.respondBy, t ≤ now then
        pure (.deferred .batchWindow (requests.map (·.requestId)) batchWindowEndsAt
          policy.policyDigest)
      else
        let batches ← rt.packBatches policy requests
        pure (.ready batches policy.policyDigest)

/-- `planAttention` -/
def planAttention (inputRequests : List Request) (inputPolicy : Policy) (now : UnixMs) :
    Call AttentionPlan := do
  let policy ← rt.defineAttentionPolicy inputPolicy.toPolicyDefinition.input
  refuse (policy.policyDigest ≠ inputPolicy.policyDigest) (.error "Attention policy digest mismatch")
  refuse (¬ IsUnixMs now) (.invalid "UnixMs")
  let requests ← rt.queueOf policy inputRequests
  rt.planQueue policy now requests

end AttentionRuntime

/-! ### When a deferred plan may be tried again -/

/-- The instant lies in a window. -/
def Disturbs (windows : List Window) (t : UnixMs) : Prop :=
  ∃ w ∈ windows, w.startsAt ≤ t ∧ t < w.endsAt

theorem disturbs_append {ws vs : List Window} {t : UnixMs} :
    Disturbs (ws ++ vs) t ↔ Disturbs ws t ∨ Disturbs vs t := by
  simp only [Disturbs, List.mem_append, or_and_right, exists_or]

theorem disturbs_perm {ws vs : List Window} (h : ws.Perm vs) (t : UnixMs) :
    Disturbs ws t ↔ Disturbs vs t := by
  simp only [Disturbs, h.mem_iff]

/-- The text of a source says nothing about when. -/
theorem disturbs_trim {ws : List Window} {t : UnixMs} :
    Disturbs (ws.map Window.trim) t ↔ Disturbs ws t := by
  simp [Disturbs, Window.trim]

/-! ### The scan -/

/-- What the scan knows after some windows. -/
def Reached (now : UnixMs) (done : List Window) : Option UnixMs → Prop
  | none => ∀ w ∈ done, w.endsAt ≤ now
  | some e => now < e ∧ (∀ t, now ≤ t → t < e → Disturbs done t) ∧ ∀ w ∈ done, w.endsAt ≤ e

/-- What the scan is to answer. -/
def Answers (now : UnixMs) (windows : List Window) : Option UnixMs → Prop
  | none => ¬ Disturbs windows now
  | some e => now < e ∧ (∀ t, now ≤ t → t < e → Disturbs windows t) ∧ ¬ Disturbs windows e

variable {now : UnixMs} {done rest ws : List Window} {w : Window} {last : Option UnixMs}

/-- The scan may stop once the windows that are left start too late. -/
theorem Reached.answers (h : Reached now done last) (hrest : ∀ w ∈ rest, last.getD now < w.startsAt) :
    Answers now (done ++ rest) last := by
  cases last with
  | none =>
    rintro ⟨w, hw, hstart, hend⟩
    rcases List.mem_append.1 hw with hw | hw
    · exact absurd hend (not_lt.2 (h w hw))
    · exact absurd hstart (not_le.2 (hrest w hw))
  | some e =>
    refine ⟨h.1, fun t ht hte => disturbs_append.2 (.inl (h.2.1 t ht hte)), ?_⟩
    rintro ⟨w, hw, hstart, hend⟩
    rcases List.mem_append.1 hw with hw | hw
    · exact absurd hend (not_lt.2 (h.2.2 w hw))
    · exact absurd hstart (not_le.2 (hrest w hw))

/-- STEP: a window around now ends the quiet no earlier than it ends itself. -/
theorem Reached.around (h : Reached now done last) (hstart : w.startsAt ≤ now) (hend : now < w.endsAt) :
    Reached now (done ++ [w]) (some (max (last.getD 0) w.endsAt)) := by
  refine ⟨lt_max_of_lt_right hend, fun t ht hte => ?_, fun v hv => ?_⟩
  · rcases lt_max_iff.1 hte with hlast | hw
    · cases last with
      | none => exact absurd hlast (Nat.not_lt_zero t)
      | some e => exact disturbs_append.2 (.inl (h.2.1 t ht hlast))
    · exact disturbs_append.2 (.inr ⟨w, List.mem_singleton_self w, hstart.trans ht, hw⟩)
  · rcases List.mem_append.1 hv with hv | hv
    · cases last with
      | none => exact le_max_of_le_right ((h v hv).trans hend.le)
      | some e => exact le_max_of_le_left (h.2.2 v hv)
    · obtain rfl := List.mem_singleton.1 hv
      exact le_max_right _ _

/-- STEP: a window that starts before the end reached so far carries it on. -/
theorem Reached.joined {e : UnixMs} (h : Reached now done (some e)) (hstart : w.startsAt ≤ e) :
    Reached now (done ++ [w]) (some (max e w.endsAt)) := by
  refine ⟨lt_max_of_lt_left h.1, fun t ht hte => ?_, fun v hv => ?_⟩
  · rcases Nat.lt_or_ge t e with hbefore | hafter
    · exact disturbs_append.2 (.inl (h.2.1 t ht hbefore))
    · have hw : t < w.endsAt := (lt_max_iff.1 hte).resolve_left (not_lt.2 hafter)
      exact disturbs_append.2 (.inr ⟨w, List.mem_singleton_self w, hstart.trans hafter, hw⟩)
  · rcases List.mem_append.1 hv with hv | hv
    · exact le_max_of_le_left (h.2.2 v hv)
    · obtain rfl := List.mem_singleton.1 hv
      exact le_max_right _ _

/-- STEP: a window that is over by now changes nothing. -/
theorem Reached.over (h : Reached now done none) (hend : w.endsAt ≤ now) :
    Reached now (done ++ [w]) none := by
  intro v hv
  rcases List.mem_append.1 hv with hv | hv
  · exact h v hv
  · obtain rfl := List.mem_singleton.1 hv
    exact hend

/-- RUN: the scan of sorted windows answers the end of the quiet. -/
theorem endFrom_answers (hsorted : ws.Pairwise fun a b => a.startsAt ≤ b.startsAt)
    (h : Reached now done last) : Answers now (done ++ ws) (endFrom now last ws) := by
  induction ws generalizing done last with
  | nil => exact h.answers (by simp)
  | cons w ws ih =>
    obtain ⟨hfirst, hsorted⟩ := List.pairwise_cons.1 hsorted
    have hnext (last' : Option UnixMs) (h' : Reached now (done ++ [w]) last') :
        Answers now (done ++ w :: ws) (endFrom now last' ws) := by
      simpa using ih hsorted h'
    unfold endFrom
    split_ifs with hbreak haround
    · refine h.answers fun v hv => ?_
      rcases List.mem_cons.1 hv with rfl | hv
      · exact hbreak
      · exact hbreak.trans_le (hfirst v hv)
    · exact hnext _ (h.around haround.1 haround.2)
    · have hstart := not_lt.1 hbreak
      cases last with
      | none => exact hnext _ (h.over (not_lt.1 fun hend => haround ⟨hstart, hend⟩))
      | some e =>
        simp only [Option.getD_some] at hstart
        simp only [hstart, if_true]
        exact hnext _ (h.joined hstart)

theorem answers_congr {windows others : List Window} (h : ∀ t, Disturbs windows t ↔ Disturbs others t)
    (answer : Option UnixMs) : Answers now windows answer ↔ Answers now others answer := by
  cases answer <;> simp only [Answers, h]

/-- There is one answer. -/
theorem Answers.eq_some_iff {answer : Option UnixMs} (h : Answers now ws answer) (e : UnixMs) :
    answer = some e ↔
      Disturbs ws now ∧ IsLeast {t | now ≤ t ∧ ¬ Disturbs ws t} e := by
  cases answer with
  | none => simpa using fun hnow => absurd hnow h
  | some e' =>
    obtain ⟨hlater, hquiet, hend⟩ := h
    have hleast : IsLeast {t | now ≤ t ∧ ¬ Disturbs ws t} e' :=
      ⟨⟨hlater.le, hend⟩, fun t ht => not_lt.1 fun hbefore => ht.2 (hquiet t ht.1 hbefore)⟩
    constructor
    · rintro ⟨⟩
      exact ⟨hquiet now le_rfl hlater, hleast⟩
    · rintro ⟨-, hother⟩
      exact congrArg some (hleast.unique hother)

theorem Answers.eq_none_iff {answer : Option UnixMs} (h : Answers now ws answer) :
    answer = none ↔ ¬ Disturbs ws now := by
  cases answer with
  | none => exact ⟨fun _ => h, fun _ => rfl⟩
  | some e => simpa using h.2.1 now le_rfl h.1

/-! ### Policies -/

instance : Std.TransCmp byStart :=
  inferInstanceAs (Std.TransCmp (compareLex (compareOn Window.startsAt) (compareOn Window.endsAt)))

theorem startsAt_le_of_byStart {a b : Window} (h : byStart a b ≠ .gt) : a.startsAt ≤ b.startsAt := by
  by_contra hlt
  refine h ?_
  have hstart : compareOn Window.startsAt a b = .gt := compare_gt_iff_gt.2 (not_le.1 hlt)
  rw [byStart, compareLex, hstart]
  rfl

/-- The windows that a policy is to hold back for. -/
def PolicyInput.windows (input : PolicyInput) : List Window := input.doNotDisturbWindows.getD []

theorem activeEnd_answers (input : PolicyInput) (now : UnixMs) :
    Answers now input.windows (activeDoNotDisturbEnd input.definition now) := by
  have hsorted := (@Sorted.sortBy_pairwise _ byStart _ input.parsed.doNotDisturbWindows).imp
    startsAt_le_of_byStart
  have hreached : Reached now [] none := by simp [Reached]
  have hanswers := endFrom_answers hsorted hreached
  have hwindows (t : UnixMs) :
      Disturbs (Sorted.sortBy byStart input.parsed.doNotDisturbWindows) t ↔
        Disturbs input.windows t :=
    (disturbs_perm (Sorted.sortBy_perm _) t).trans disturbs_trim
  exact (answers_congr hwindows _).1 hanswers

/-- EXACT: for the definition of every policy, in whatever order its windows were given and however
    they touch and overlap, the end is the first instant that none of them holds. -/
theorem activeDoNotDisturbEnd_exact (input : PolicyInput) (now : UnixMs) :
    (activeDoNotDisturbEnd input.definition now = none ↔ ¬ Disturbs input.windows now) ∧
      ∀ e, activeDoNotDisturbEnd input.definition now = some e ↔
        Disturbs input.windows now ∧ IsLeast {t | now ≤ t ∧ ¬ Disturbs input.windows t} e :=
  ⟨(activeEnd_answers input now).eq_none_iff, (activeEnd_answers input now).eq_some_iff⟩

/-- Every end is within the end of a window. -/
theorem Answers.le_end {e : UnixMs} (h : Answers now ws (some e)) : ∃ w ∈ ws, e ≤ w.endsAt := by
  obtain ⟨hlater, hquiet, -⟩ := h
  have hpos : 0 < e := (Nat.zero_le now).trans_lt hlater
  obtain ⟨w, hw, -, hend⟩ := hquiet (e - 1) (Nat.le_sub_one_of_lt hlater) (Nat.sub_one_lt hpos.ne')
  exact ⟨w, hw, Nat.le_of_pred_lt hend⟩

/-- The answer stays the same until it has come. -/
theorem Answers.later {e t : UnixMs} (h : Answers now ws (some e)) (ht : now ≤ t) (hte : t < e) :
    Answers t ws (some e) :=
  ⟨hte, fun t' ht' => h.2.1 t' (ht.trans ht'), h.2.2⟩

/-! ### The plan of a queue -/

section

variable {rt : AttentionRuntime} {policy : Policy} {queue : List Request} {ids : List String}
  {t next : UnixMs} {digest : String} {reason : DeferralReason}

/-- The plan is put off. -/
def Deferred (x : Call AttentionPlan) : Prop :=
  ∃ reason ids next digest, x = .ok (.deferred reason ids next digest)

/-- The time of a request by which it is to be answered has come. -/
def Due (queue : List Request) (t : UnixMs) : Prop := ∃ r ∈ queue, ∃ d ∈ r.respondBy, d ≤ t

/-- The batch window of a queue is open. -/
def Waits (policy : Policy) (queue : List Request) (t : UnixMs) : Prop :=
  ∃ first ∈ queue.head?, queue.length < policy.maximumBatchItems ∧
    t < first.requestedAt + policy.maximumBatchWaitMs ∧ ¬ Due queue t

theorem planQueue_doNotDisturb :
    rt.planQueue policy t queue = .ok (.deferred .doNotDisturb ids next digest) ↔
      queue ≠ [] ∧ activeDoNotDisturbEnd policy.toPolicyDefinition t = some next ∧
        ids = queue.map (·.requestId) ∧ digest = policy.policyDigest := by
  cases queue with
  | nil => simp [AttentionRuntime.planQueue]
  | cons first others =>
    simp only [AttentionRuntime.planQueue]
    cases activeDoNotDisturbEnd policy.toPolicyDefinition t with
    | some e =>
      simp only [pure_eq_ok, AttentionPlan.deferred.injEq, true_and, Option.some.injEq, ne_eq,
        List.cons_ne_nil, not_false_eq_true]
      constructor
      · rintro ⟨rfl, rfl, rfl⟩
        exact ⟨rfl, rfl, rfl⟩
      · rintro ⟨rfl, rfl, rfl⟩
        exact ⟨rfl, rfl, rfl⟩
    | none =>
      simp only [bind_eq_ok, refuse_eq_ok, exists_const, reduceCtorEq, false_and, and_false,
        iff_false, not_and]
      intro _
      split_ifs
      · simp
      · rw [bind_eq_ok]
        rintro ⟨batches, -, h⟩
        cases (pure_eq_ok _ _).1 h

theorem planQueue_batchWindow :
    rt.planQueue policy t queue = .ok (.deferred .batchWindow ids next digest) ↔
      activeDoNotDisturbEnd policy.toPolicyDefinition t = none ∧ Waits policy queue t ∧
        IsUnixMs next ∧ (∃ first ∈ queue.head?, next = first.requestedAt + policy.maximumBatchWaitMs) ∧
        ids = queue.map (·.requestId) ∧ digest = policy.policyDigest := by
  cases queue with
  | nil => simp [AttentionRuntime.planQueue, Waits]
  | cons first others =>
    simp only [AttentionRuntime.planQueue]
    cases activeDoNotDisturbEnd policy.toPolicyDefinition t with
    | some e => simp
    | none =>
      simp only [bind_eq_ok, refuse_eq_ok, exists_const, not_not, true_and, Waits, List.head?_cons,
        Option.mem_some_iff, exists_eq_left', Due]
      split_ifs with hwaits
      · simp only [pure_eq_ok, AttentionPlan.deferred.injEq, true_and, hwaits, not_false_eq_true,
          and_self]
        constructor
        · rintro ⟨hsafe, rfl, rfl, rfl⟩
          exact ⟨hsafe, rfl, rfl, rfl⟩
        · rintro ⟨hsafe, rfl, rfl, rfl⟩
          exact ⟨hsafe, rfl, rfl, rfl⟩
      · refine iff_of_false ?_ fun h => hwaits h.1
        rw [bind_eq_ok]
        rintro ⟨-, batches, -, h⟩
        cases (pure_eq_ok _ _).1 h

end

end Tasq.Attention
