import Mathlib.Tactic
import Tasq.Schema.Commitment

/-! The bundled evaluators of typed wait conditions: what a condition asks of each of the five kinds
    of observation, the decision on a fact, and the routes that bring facts to conditions.

    A route key is the array whose text the source compares. What an evaluator matches, it would
    also have been routed to. -/

namespace Tasq

/-- `HTTP_METHODS` -/
inductive HttpMethod where
  | get | head | post | put | patch | delete | options
  deriving DecidableEq, Repr

inductive PullRequestState where
  | open | closed | merged
  deriving DecidableEq, Repr

inductive TransactionDirection where
  | incoming | outgoing
  deriving DecidableEq, Repr

/-- `FILE_KINDS` -/
inductive FileKind where
  | file | directory | symlink | other
  deriving DecidableEq, Repr

/-- The text of a method. -/
def HttpMethod.text : HttpMethod → String
  | .get => "GET"
  | .head => "HEAD"
  | .post => "POST"
  | .put => "PUT"
  | .patch => "PATCH"
  | .delete => "DELETE"
  | .options => "OPTIONS"

/-- The text of a direction. -/
def TransactionDirection.text : TransactionDirection → String
  | .incoming => "incoming"
  | .outgoing => "outgoing"

/-! ### Conditions -/

structure GmailThreadReplyParameters where
  connectorAccount : String
  threadId : String
  sender : Option String
  deriving DecidableEq

structure GithubPullRequestStateParameters where
  host : String
  owner : String
  repository : String
  pullRequestNumber : ℕ
  state : PullRequestState
  mergeCommitSha : Option String
  deriving DecidableEq

structure MercuryTransactionStateParameters where
  connectorAccount : String
  transactionId : Option String
  direction : Option TransactionDirection
  currency : Option String
  minorUnits : Option ℕ
  counterparty : Option String
  settlementState : String
  deriving DecidableEq

structure HttpResponseParameters where
  url : String
  method : HttpMethod
  allowedStatuses : List ℕ
  bodyDigest : Option String
  deriving DecidableEq

structure FilesystemArtifactParameters where
  connectorRoot : String
  relativePath : String
  kind : FileKind
  sizeBytes : Option ℕ
  digest : Option String
  deriving DecidableEq

/-- The parameters of a condition, by `WaitConditionKind`. -/
inductive WaitParameters where
  | gmailThreadReply (parameters : GmailThreadReplyParameters)
  | githubPullRequestState (parameters : GithubPullRequestStateParameters)
  | mercuryTransactionState (parameters : MercuryTransactionStateParameters)
  | httpResponse (parameters : HttpResponseParameters)
  | filesystemArtifact (parameters : FilesystemArtifactParameters)
  deriving DecidableEq

/-- `WaitConditionKind`, as a condition names it. -/
def WaitParameters.kind : WaitParameters → String
  | .gmailThreadReply _ => "gmail.thread_reply"
  | .githubPullRequestState _ => "github.pull_request_state"
  | .mercuryTransactionState _ => "mercury.transaction_state"
  | .httpResponse _ => "http.response"
  | .filesystemArtifact _ => "filesystem.artifact"

/-! ### Observations -/

structure GmailMessageObservationPayload where
  connectorAccount : String
  messageId : String
  threadId : String
  sender : String
  deriving DecidableEq

structure GithubPullRequestObservationPayload where
  host : String
  owner : String
  repository : String
  pullRequestNumber : ℕ
  state : PullRequestState
  mergeCommitSha : Option String
  deriving DecidableEq

structure MercuryTransactionObservationPayload where
  connectorAccount : String
  transactionId : String
  direction : TransactionDirection
  currency : String
  minorUnits : ℕ
  counterparty : Option String
  settlementState : String
  deriving DecidableEq

structure HttpCheckObservationPayload where
  url : String
  method : HttpMethod
  statusCode : ℕ
  bodyDigest : Option String
  deriving DecidableEq

structure FilesystemStatObservationPayload where
  connectorRoot : String
  relativePath : String
  kind : FileKind
  sizeBytes : Option ℕ
  digest : Option String
  deriving DecidableEq

/-- The payload of an observation, by `ObservationKind`. -/
inductive ObservationPayload where
  | gmailMessage (payload : GmailMessageObservationPayload)
  | githubPullRequest (payload : GithubPullRequestObservationPayload)
  | mercuryTransaction (payload : MercuryTransactionObservationPayload)
  | httpCheck (payload : HttpCheckObservationPayload)
  | filesystemStat (payload : FilesystemStatObservationPayload)
  deriving DecidableEq

/-- `ObservationKind`, as an observation names it. -/
def ObservationPayload.kind : ObservationPayload → String
  | .gmailMessage _ => "gmail.message"
  | .githubPullRequest _ => "github.pull_request"
  | .mercuryTransaction _ => "mercury.transaction"
  | .httpCheck _ => "http.check"
  | .filesystemStat _ => "filesystem.stat"

/-- The observation kind that a condition waits for. -/
def WaitParameters.observationKind : WaitParameters → String
  | .gmailThreadReply _ => "gmail.message"
  | .githubPullRequestState _ => "github.pull_request"
  | .mercuryTransactionState _ => "mercury.transaction"
  | .httpResponse _ => "http.check"
  | .filesystemArtifact _ => "filesystem.stat"

/-! ### Decisions -/

inductive ReconciliationDecision where
  | matched | rejected | ambiguous
  deriving DecidableEq, Repr

/-- `MatchDecision` -/
structure MatchDecision where
  decision : ReconciliationDecision
  reasonCode : String
  explanation : String
  deriving DecidableEq

/-- `matched` -/
def matched : MatchDecision :=
  ⟨.matched, "all_typed_checks_matched", "All required typed fields matched exactly."⟩

/-- `rejected` -/
def rejected (field : String) : MatchDecision :=
  ⟨.rejected, s!"{field}_mismatch", s!"Required typed field {field} did not match."⟩

/-- `ambiguous` -/
def ambiguous (field : String) : MatchDecision :=
  ⟨.ambiguous, s!"{field}_missing", s!"Required typed field {field} is missing from the observation."⟩

@[simp] theorem rejected_ne_matched (field : String) :
    (rejected field).decision ≠ .matched := by simp [rejected]

@[simp] theorem ambiguous_ne_matched (field : String) :
    (ambiguous field).decision ≠ .matched := by simp [ambiguous]

/-- The check of an optional field that the observation may lack. -/
def optionalField {α : Type} [DecidableEq α] (wanted seen : Option α) (field : String)
    (rest : MatchDecision) : MatchDecision :=
  match wanted, seen with
  | none, _ => rest
  | some _, none => ambiguous field
  | some w, some v => if w ≠ v then rejected field else rest

/-- `gmailEvaluatorRuntime.evaluate` -/
def evaluateGmail (p : GmailThreadReplyParameters) (o : GmailMessageObservationPayload) :
    MatchDecision :=
  if p.connectorAccount ≠ o.connectorAccount then rejected "connector_account"
  else if p.threadId ≠ o.threadId then rejected "thread_id"
  else if p.sender.isSome ∧ p.sender ≠ some o.sender then rejected "sender"
  else matched

/-- `githubEvaluatorRuntime.evaluate` -/
def evaluateGithub (p : GithubPullRequestStateParameters)
    (o : GithubPullRequestObservationPayload) : MatchDecision :=
  if p.host ≠ o.host then rejected "host"
  else if p.owner ≠ o.owner then rejected "owner"
  else if p.repository ≠ o.repository then rejected "repository"
  else if p.pullRequestNumber ≠ o.pullRequestNumber then rejected "pull_request_number"
  else if p.state ≠ o.state then rejected "state"
  else optionalField p.mergeCommitSha o.mergeCommitSha "merge_commit_sha" matched

/-- `mercuryEvaluatorRuntime.evaluate` -/
def evaluateMercury (p : MercuryTransactionStateParameters)
    (o : MercuryTransactionObservationPayload) : MatchDecision :=
  let settled : MatchDecision :=
    if p.settlementState ≠ o.settlementState then rejected "settlement_state" else matched
  if p.connectorAccount ≠ o.connectorAccount then rejected "connector_account"
  else
    match p.transactionId with
    | some transactionId =>
      if transactionId ≠ o.transactionId then rejected "transaction_id" else settled
    | none =>
      if p.direction ≠ some o.direction then rejected "direction"
      else if p.currency ≠ some o.currency then rejected "currency"
      else if p.minorUnits ≠ some o.minorUnits then rejected "minor_units"
      else if o.counterparty = none then ambiguous "counterparty"
      else if p.counterparty ≠ o.counterparty then rejected "counterparty"
      else settled

/-- `httpEvaluatorRuntime.evaluate` -/
def evaluateHttp (p : HttpResponseParameters) (o : HttpCheckObservationPayload) : MatchDecision :=
  if p.url ≠ o.url then rejected "url"
  else if p.method ≠ o.method then rejected "method"
  else if o.statusCode ∉ p.allowedStatuses then rejected "status_code"
  else optionalField p.bodyDigest o.bodyDigest "body_digest" matched

/-- `filesystemEvaluatorRuntime.evaluate` -/
def evaluateFilesystem (p : FilesystemArtifactParameters) (o : FilesystemStatObservationPayload) :
    MatchDecision :=
  if p.connectorRoot ≠ o.connectorRoot then rejected "connector_root"
  else if p.relativePath ≠ o.relativePath then rejected "relative_path"
  else if p.kind ≠ o.kind then rejected "artifact_kind"
  else optionalField p.sizeBytes o.sizeBytes "size_bytes"
    (optionalField p.digest o.digest "digest" matched)

/-- The decision of the evaluator of the condition, on a payload of the kind that it accepts. -/
def WaitParameters.evaluate : WaitParameters → ObservationPayload → MatchDecision
  | .gmailThreadReply p, .gmailMessage o => evaluateGmail p o
  | .githubPullRequestState p, .githubPullRequest o => evaluateGithub p o
  | .mercuryTransactionState p, .mercuryTransaction o => evaluateMercury p o
  | .httpResponse p, .httpCheck o => evaluateHttp p o
  | .filesystemArtifact p, .filesystemStat o => evaluateFilesystem p o
  | p, o => ⟨.rejected, "observation_kind_mismatch",
      s!"Matcher {p.kind} does not accept observation kind {o.kind}."⟩

/-! ### Routes -/

/-- `route` -/
def route (nameSpace : String) (parts : List Json) : Json := .arr (.str nameSpace :: parts)

/-- A part of a route that may be missing. -/
def routePart {α : Type} (write : α → Json) (part : Option α) : Json := (part.map write).getD .null

/-- A number in a route. -/
def routeNumber (n : ℕ) : Json := .num n

/-- `transactionRoute` -/
def transactionRoute (connectorAccount : String) (transactionId : Option String) : Json :=
  route "mercury.transaction" [.str connectorAccount, routePart .str transactionId]

/-- `valueRoute` -/
def valueRoute (connectorAccount : String) (direction : Option TransactionDirection)
    (currency : Option String) (minorUnits : Option ℕ) : Json :=
  route "mercury.transaction.match" [.str connectorAccount,
    routePart (fun d => .str d.text) direction, routePart .str currency,
    routePart routeNumber minorUnits]

/-- `pullRequestRoute` -/
def pullRequestRoute (host owner repository : String) (pullRequestNumber : ℕ) : Json :=
  route "github.pull_request" [.str host, .str owner, .str repository,
    routeNumber pullRequestNumber]

/-- `conditionRouteKeys`, of which the first is used. -/
def WaitParameters.routeKey : WaitParameters → Json
  | .gmailThreadReply p => route "gmail.message" [.str p.connectorAccount, .str p.threadId]
  | .githubPullRequestState p =>
    pullRequestRoute p.host p.owner p.repository p.pullRequestNumber
  | .mercuryTransactionState p =>
    if p.transactionId.isSome then transactionRoute p.connectorAccount p.transactionId
    else valueRoute p.connectorAccount p.direction p.currency p.minorUnits
  | .httpResponse p => route "http.check" [.str p.method.text, .str p.url]
  | .filesystemArtifact p => route "filesystem.stat" [.str p.connectorRoot, .str p.relativePath]

/-- `routeKeys` -/
def ObservationPayload.routeKeys : ObservationPayload → List Json
  | .gmailMessage o => [route "gmail.message" [.str o.connectorAccount, .str o.threadId]]
  | .githubPullRequest o => [pullRequestRoute o.host o.owner o.repository o.pullRequestNumber]
  | .mercuryTransaction o =>
    [transactionRoute o.connectorAccount (some o.transactionId),
      valueRoute o.connectorAccount (some o.direction) (some o.currency) (some o.minorUnits)]
  | .httpCheck o => [route "http.check" [.str o.method.text, .str o.url]]
  | .filesystemStat o => [route "filesystem.stat" [.str o.connectorRoot, .str o.relativePath]]

/-- ROUTE: a matched fact is of the kind that the condition waits for, and it was routed to it. -/
theorem matched_routed {p : WaitParameters} {o : ObservationPayload}
    (h : (p.evaluate o).decision = .matched) :
    o.kind = p.observationKind ∧ p.routeKey ∈ o.routeKeys := by
  cases p <;> cases o
  case gmailThreadReply.gmailMessage p o =>
    simp only [WaitParameters.evaluate, evaluateGmail] at h
    split at h
    · simp at h
    split at h
    · simp at h
    · rename_i haccount hthread
      simp_all [ObservationPayload.kind, WaitParameters.observationKind, WaitParameters.routeKey,
        ObservationPayload.routeKeys]
  case githubPullRequestState.githubPullRequest p o =>
    simp only [WaitParameters.evaluate, evaluateGithub] at h
    split_ifs at h
    all_goals simp_all [ObservationPayload.kind, WaitParameters.observationKind,
      WaitParameters.routeKey, ObservationPayload.routeKeys]
  case mercuryTransactionState.mercuryTransaction p o =>
    simp only [WaitParameters.evaluate, evaluateMercury] at h
    split at h
    · simp at h
    split at h
    · rename_i transactionId hid
      split at h
      · simp at h
      · simp_all [ObservationPayload.kind, WaitParameters.observationKind, WaitParameters.routeKey,
          ObservationPayload.routeKeys]
    · rename_i hid
      split_ifs at h
      all_goals simp_all [ObservationPayload.kind, WaitParameters.observationKind,
        WaitParameters.routeKey, ObservationPayload.routeKeys]
  case httpResponse.httpCheck p o =>
    simp only [WaitParameters.evaluate, evaluateHttp] at h
    split_ifs at h
    all_goals simp_all [ObservationPayload.kind, WaitParameters.observationKind,
      WaitParameters.routeKey, ObservationPayload.routeKeys]
  case filesystemArtifact.filesystemStat p o =>
    simp only [WaitParameters.evaluate, evaluateFilesystem] at h
    split_ifs at h
    all_goals simp_all [ObservationPayload.kind, WaitParameters.observationKind,
      WaitParameters.routeKey, ObservationPayload.routeKeys]
  all_goals simp [WaitParameters.evaluate] at h

end Tasq
