import Again.Gateway.Tables

/-!
# What the context ledger is told

`agent_gateway/context.rs` and `task_lifecycle.rs`: the identity a participant
acts under and the typed items it may put into the ledger. A type whose only
constructor is a checked `new` is the values that pass the check. The JSON
texts of items are a parameter.
-/

namespace Again.Ledger

open Lib Gateway

/-! ## Checked values -/

/-- The values that `new` returns. -/
def Checked {α ε : Type} (check : α → Except ε Unit) := { a : α // check a = .ok () }

instance {α ε : Type} [DecidableEq α] (check : α → Except ε Unit) : DecidableEq (Checked check) :=
  inferInstanceAs (DecidableEq { a : α // check a = .ok () })

/-- `new`: the value when it passes, the check's refusal otherwise. -/
def checked {α ε : Type} (check : α → Except ε Unit) (a : α) : Except ε (Checked check) :=
  match h : check a with
  | .ok () => .ok ⟨a, h⟩
  | .error e => .error e

theorem checked_eq_ok {α ε : Type} {check : α → Except ε Unit} {a : α} {c : Checked check} :
    checked check a = .ok c ↔ c.val = a := by
  unfold checked
  split
  · constructor
    · intro hc
      cases hc
      rfl
    · rintro rfl
      rfl
  · rename_i e h
    constructor
    · intro hc
      cases hc
    · rintro rfl
      rw [c.property] at h
      cases h

/-! ## Refusals -/

inductive ReasoningContextRefusalV1
  | invalidIdentifier | invalidDigest | invalidText | invalidGeneration | itemBound | sourceReferenceBound
  | taskScopeMismatch | deliveryIncomplete
deriving DecidableEq

/-- What a ledger operation fails with. -/
inductive LedgerError
  | gateway (error : StoreError)
  | reasoning (refusal : ReasoningContextRefusalV1)
  | invalidDigest (label : String)
  | invalidTaskSelector
  | sensitiveContentRefused
  | invalidTaskDescription
  | invalidAcceptanceCriterion
  | acceptanceCapacityExceeded
  | duplicateAcceptanceCriterion
  | dependencyCapacityExceeded
  | duplicateTaskDependency
  | taskCorrupt
  | relationCorrupt
  | taskDefinitionConflict
  | taskCapacityExceeded
  | aliasCapacityExceeded
  | graphSelfEdge
  | graphCycle
  | graphDepthExceeded
  | relationUnavailable
  | stateCasMismatch
  | stateGenerationOverflow
  | terminalImmutable
  | invalidTaskTransition
  | deleteRequiresTerminal
  | deleteReferenced
  | deleteActiveLease
  | quotaCounterCorrupt
  | maintenanceMode
  | taskContextQuotaExceeded
  | workspaceStateQuotaExceeded
  | eventQuotaExceeded
  | leaseTtlOutOfBounds
  | integerOutOfRange
  /-- A column does not hold the type that is read. -/
  | columnType
  | notProducedByAdapter
  | sourcesNotExact
  | envelopeConflict
  | contradictoryDependencies
  | sourceBytesOverflow
  | retirementTargetNotCurrent
  | changesNotOrdered
  | receiptConflict
  /-- A row the statement expects is not there. -/
  | queryReturnedNoRows
  /-- A constraint of the schema. -/
  | constraint
deriving DecidableEq

/-! ## Texts -/

/-- `u8::is_ascii_graphic`. -/
def isAsciiGraphic (b : UInt8) : Bool := 33 ≤ b && b ≤ 126

/-- `validate_reasoning_identifier_v1`. -/
def validReasoningIdentifier (value : String) : Bool :=
  !value.isEmpty && (utf8 value).length ≤ 128 && (utf8 value).all isAsciiGraphic

/-- `validate_reasoning_text_v1`. -/
def validReasoningText (value : String) (maximum : Nat) : Bool :=
  !value.isEmpty && (utf8 value).length ≤ maximum &&
    !value.toList.any fun c => isControl c && c != '\n' && c != '\t'

def maxReasoningTextBytes : Nat := 1024
def maxReasoningLocatorBytes : Nat := 512
def maxReasoningSourcesPerItem : Nat := 8

def checkIdentifier (value : String) : Except ReasoningContextRefusalV1 Unit :=
  rejectIf (validReasoningIdentifier value = false) .invalidIdentifier

/-- `validate_reasoning_digest_v1`, which admits what `validate_digest` does. -/
def checkDigest (value : String) : Except ReasoningContextRefusalV1 Unit :=
  rejectIf (validDigest value = false) .invalidDigest

def checkText (value : String) (maximum : Nat) : Except ReasoningContextRefusalV1 Unit :=
  rejectIf (validReasoningText value maximum = false) .invalidText

/-- `validate_task_selector_v1` and `validate_context_task_selector_v1`. -/
def validTaskSelector (value : String) : Bool :=
  !value.isEmpty && (utf8 value).length ≤ 128 && (utf8 value).all fun b =>
    isAsciiAlphanumeric b || b = 95 || b = 45 || b = 46 || b = 58 || b = 47 || b = 32

/-! ## Credential-shaped text -/

/-- `split_ascii_whitespace`. -/
def splitAsciiWhitespace : Bytes → List Bytes
  | [] => []
  | b :: rest =>
    if isAsciiWhitespace b then splitAsciiWhitespace rest
    else
      match rest, splitAsciiWhitespace rest with
      | c :: _, word :: words => if isAsciiWhitespace c then [b] :: word :: words else (b :: word) :: words
      | _, words => [b] :: words

/-- `has_prefixed_secret_v1`; none of the prefixes overlaps itself. -/
def hasPrefixedSecret (value start : Bytes) (minimumSuffix : Nat) : Bool :=
  (findAll value start).any fun offset =>
    (((value.drop (offset + start.length)).takeWhile isAsciiAlphanumeric).take minimumSuffix).length = minimumSuffix

/-- `has_aws_access_key_v1`. -/
def hasAwsAccessKey (value : Bytes) : Bool :=
  (List.range (value.length + 1 - 20)).any fun offset =>
    let window := (value.drop offset).take 20
    (utf8 "AKIA").isPrefixOf window && (window.drop 4).all fun b => isAsciiUppercase b || isAsciiDigit b

/-- `has_url_credentials_v1`. -/
def hasUrlCredentials (value : Bytes) : Bool :=
  (splitAsciiWhitespace value).any fun word =>
    match findSubslice word (utf8 "://") with
    | none => false
    | some scheme =>
      let authority := (word.drop (scheme + 3)).takeWhile (· ≠ 47)
      authority.contains 64 && authority.contains 58

def sensitiveMarkers : List String :=
  ["-----begin private key-----", "-----begin rsa private key-----", "-----begin openssh private key-----",
    "authorization: bearer ", "aws_secret_access_key=", "aws_secret_access_key:", "client_secret=", "private_key=",
    "password=", "password:", "api_key=", "api-key:"]

/-- `screen_sensitive_text_v1` refuses. -/
def isSensitiveText (text : String) : Bool :=
  let value := utf8 text
  (sensitiveMarkers.any fun marker => (findSubslice (toAsciiLowercase value) (utf8 marker)).isSome) ||
    hasPrefixedSecret value (utf8 "sk-") 16 || hasPrefixedSecret value (utf8 "ghp_") 20 ||
    hasPrefixedSecret value (utf8 "github_pat_") 20 || hasAwsAccessKey value || hasUrlCredentials value

/-! ## Identities -/

/-- The columns `repository_id, workspace_id`. -/
structure Workspace where
  repositoryId : String
  workspaceId : String
deriving DecidableEq

/-- The columns `repository_id, workspace_id, task_id`. -/
structure ContextTask where
  workspace : Workspace
  taskId : String
deriving DecidableEq

/-- The columns `repository_id, workspace_id, authorization_scope_digest`. -/
structure TaskScope where
  workspace : Workspace
  authorizationScopeDigest : String
deriving DecidableEq

/-- A task of one authorization scope. -/
structure TaskKey where
  scope : TaskScope
  taskId : String
deriving DecidableEq

/-- The key without its scope. -/
def TaskKey.task (key : TaskKey) : ContextTask := ⟨key.scope.workspace, key.taskId⟩

/-- `ContextLedgerIdentityV1`. -/
structure IdentityFields where
  key : TaskKey
  agentId : String
  sessionId : String
  turnId : String
  connectionGeneration : String
  compactionGeneration : UInt64
  lifecycleGeneration : UInt64
deriving DecidableEq

/-- What `ContextLedgerIdentityV1::new` checks. -/
def IdentityFields.check (i : IdentityFields) : Except ReasoningContextRefusalV1 Unit := do
  [i.key.scope.workspace.repositoryId, i.key.scope.workspace.workspaceId, i.key.taskId, i.agentId, i.sessionId,
    i.turnId].forM checkIdentifier
  [i.key.scope.authorizationScopeDigest, i.connectionGeneration].forM checkDigest
  rejectIf (i.lifecycleGeneration = 0) .invalidGeneration

abbrev ContextLedgerIdentityV1 := Checked IdentityFields.check

namespace ContextLedgerIdentityV1

variable (identity : ContextLedgerIdentityV1)

def key : TaskKey := identity.val.key
def scope : TaskScope := identity.key.scope
def task : ContextTask := identity.key.task
def workspace : Workspace := identity.scope.workspace
def authorizationScopeDigest : String := identity.scope.authorizationScopeDigest
def taskId : String := identity.key.taskId
def agentId : String := identity.val.agentId
def sessionId : String := identity.val.sessionId
def turnId : String := identity.val.turnId
def connectionGeneration : String := identity.val.connectionGeneration
def compactionGeneration : UInt64 := identity.val.compactionGeneration
def lifecycleGeneration : UInt64 := identity.val.lifecycleGeneration

end ContextLedgerIdentityV1

/-! ## Items -/

structure ReasoningSourceReferenceV1 where
  resultId : String
  resultDigest : String
  workspace : Workspace
  stateDigest : String
  dependencyDigest : String
  authorizationScopeDigest : String
  locator : String
deriving DecidableEq

def ReasoningSourceReferenceV1.check (s : ReasoningSourceReferenceV1) : Except ReasoningContextRefusalV1 Unit := do
  [s.resultId, s.workspace.repositoryId, s.workspace.workspaceId].forM checkIdentifier
  [s.resultDigest, s.stateDigest, s.dependencyDigest, s.authorizationScopeDigest].forM checkDigest
  checkText s.locator maxReasoningLocatorBytes

inductive ReasoningFactScopeV1
  | repositoryWide | taskSpecific
deriving DecidableEq

structure ReasoningFactV1 where
  factId : String
  topic : String
  statement : String
  valueDigest : String
  scope : ReasoningFactScopeV1
  taskId : Option String
  sources : List (Checked ReasoningSourceReferenceV1.check)
deriving DecidableEq

def ReasoningFactV1.check (fact : ReasoningFactV1) : Except ReasoningContextRefusalV1 Unit := do
  checkIdentifier fact.factId
  checkIdentifier fact.topic
  checkText fact.statement maxReasoningTextBytes
  checkDigest fact.valueDigest
  rejectIf (fact.sources = [] ∨ maxReasoningSourcesPerItem < fact.sources.length) .sourceReferenceBound
  match fact.scope, fact.taskId with
  | .repositoryWide, none => pure ()
  | .taskSpecific, some taskId => checkIdentifier taskId
  | _, _ => throw .taskScopeMismatch

structure ContextLedgerSuggestionV1 where
  subject : String
  statement : String
  relevanceDigest : String
deriving DecidableEq

def ContextLedgerSuggestionV1.check (s : ContextLedgerSuggestionV1) : Except ReasoningContextRefusalV1 Unit := do
  checkIdentifier s.subject
  checkText s.statement maxReasoningTextBytes
  checkDigest s.relevanceDigest

structure ReasoningUnknownV1 where
  subject : String
  explanation : String
deriving DecidableEq

def ReasoningUnknownV1.check (u : ReasoningUnknownV1) : Except ReasoningContextRefusalV1 Unit := do
  checkIdentifier u.subject
  checkText u.explanation maxReasoningTextBytes

structure ReasoningRetrievalIdentityV1 where
  resultId : String
  resultDigest : String
  totalBytes : UInt64
deriving DecidableEq

def ReasoningRetrievalIdentityV1.check (r : ReasoningRetrievalIdentityV1) : Except ReasoningContextRefusalV1 Unit := do
  checkIdentifier r.resultId
  checkDigest r.resultDigest

structure CompletedReasoningObservationV1 where
  observationId : String
  summary : String
  durationMs : UInt64
  retrieval : Checked ReasoningRetrievalIdentityV1.check
  sources : List (Checked ReasoningSourceReferenceV1.check)
deriving DecidableEq

def CompletedReasoningObservationV1.check (o : CompletedReasoningObservationV1) :
    Except ReasoningContextRefusalV1 Unit := do
  checkIdentifier o.observationId
  checkText o.summary maxReasoningTextBytes
  rejectIf (o.sources = [] ∨ maxReasoningSourcesPerItem < o.sources.length) .sourceReferenceBound

structure FailedReasoningApproachV1 where
  approachId : String
  approach : String
  verifiedCause : String
  sources : List (Checked ReasoningSourceReferenceV1.check)
deriving DecidableEq

def FailedReasoningApproachV1.check (a : FailedReasoningApproachV1) : Except ReasoningContextRefusalV1 Unit := do
  checkIdentifier a.approachId
  checkText a.approach maxReasoningTextBytes
  checkText a.verifiedCause maxReasoningTextBytes
  rejectIf (a.sources = [] ∨ maxReasoningSourcesPerItem < a.sources.length) .sourceReferenceBound

structure InflightReasoningWorkV1 where
  callId : String
  agentId : String
  lifecycleGeneration : Nat
  summary : String
deriving DecidableEq

def InflightReasoningWorkV1.check (w : InflightReasoningWorkV1) : Except ReasoningContextRefusalV1 Unit := do
  checkIdentifier w.callId
  checkIdentifier w.agentId
  checkText w.summary maxReasoningTextBytes
  rejectIf (w.lifecycleGeneration = 0) .invalidGeneration

/-- Store-issued evidence for one exact, ready gateway observation. -/
structure ContextVerifiedObservationV1 where
  source : Checked ReasoningSourceReferenceV1.check
  bindingDigest : String
  dependencies : List GatewayDependencyV1
  freshnessValidUntilMs : Int
  totalBytes : UInt64
deriving DecidableEq

inductive ContextLedgerEventInputV1
  | unverifiedSuggestion (suggestion : Checked ContextLedgerSuggestionV1.check)
  | completedObservation (observation : Checked CompletedReasoningObservationV1.check)
      (verifiedSources : List ContextVerifiedObservationV1)
  | failedApproach (approach : Checked FailedReasoningApproachV1.check)
      (verifiedSources : List ContextVerifiedObservationV1)
  | explicitUnknown (unknown : Checked ReasoningUnknownV1.check)
  | resultReference (reference : Checked ReasoningRetrievalIdentityV1.check) (referenceVersion : UInt64)
      (verifiedSources : List ContextVerifiedObservationV1)
  | retirement (subjectId : String) (subjectVersion : UInt64) (reason : String)
deriving DecidableEq

/-- `ContextDependencyChangeV1`, a key and its current value. -/
def GatewayDependencyV1.checkChange (change : GatewayDependencyV1) : Except LedgerError Unit := do
  rejectIf (validDigest change.keyDigest = false) (.invalidDigest "context dependency key digest")
  rejectIf (validDigest change.valueDigest = false) (.invalidDigest "context dependency value digest")

abbrev ContextDependencyChangeV1 := Checked GatewayDependencyV1.checkChange

/-! ## Code outside the repository -/

/-- What is written as JSON into an event's digest. -/
inductive EventPayload
  | fact (fact : ReasoningFactV1)
  | suggestion (suggestion : ContextLedgerSuggestionV1)
  | observation (observation : CompletedReasoningObservationV1)
  | approach (approach : FailedReasoningApproachV1)
  | unknown (unknown : ReasoningUnknownV1)
  | reference (reference : ReasoningRetrievalIdentityV1)
  | retirement (subjectId : String) (subjectVersion : UInt64) (reason : String)
  | changes (changes : List GatewayDependencyV1)
deriving DecidableEq

/-- BLAKE3, and the JSON writer and reader for the two kinds of values the ledger hands them. -/
structure Externals where
  blake3 : Bytes → Octets 32
  toVec : EventPayload → Bytes
  criteriaToString : List String → String
  criteriaFromStr : String → Option (List String)

end Again.Ledger
