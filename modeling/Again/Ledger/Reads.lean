import Again.Ledger.Leases

/-!
# Reading the ledger

`store.rs`: the task projection, the events after a cursor, and a result through
a current reference. Facts and references are shown only while every gateway
result they were admitted from is still ready and bound as it was.
-/

namespace Again.Ledger

open Lib Gateway ReasoningRetrievalIdentityV1

/-- A refusal of the gateway, seen by a ledger operation. -/
def liftGateway {α : Type} : Except StoreError α → Except LedgerError α
  | .ok a => .ok a
  | .error e => .error (.gateway e)

/-- `reasoning_item_v1`. -/
def reasoningItem {α : Type} (check : α → Except ReasoningContextRefusalV1 Unit) (item : α) :
    Except LedgerError (Checked check) :=
  match checked check item with
  | .ok a => .ok a
  | .error refusal => .error (.reasoning refusal)

theorem val_of_reasoningItem {α : Type} {check : α → Except ReasoningContextRefusalV1 Unit} {item : α} {a : Checked check}
    (h : reasoningItem check item = .ok a) : a.val = item := by
  unfold reasoningItem at h
  cases hchecked : checked check item with
  | ok b =>
    rw [hchecked] at h
    cases h
    exact checked_eq_ok.1 hchecked
  | error refusal =>
    rw [hchecked] at h
    cases h

/-- `Store::context_verified_observation_v1`. -/
def contextVerifiedObservationV1 (blake3 : Bytes → Octets 32) (outside : Outside) (db : Gateway.Tables)
    (identity : ContextLedgerIdentityV1) (binding : ValidatedGatewayReadV1) (gatewayResultId locator : String) :
    Except LedgerError ContextVerifiedObservationV1 := do
  rejectIf (validContextIdentity identity = false) (.gateway (.refusal .invalidAgentContext))
  rejectIf (freshnessIsCurrent binding outside.now = false) (.gateway (.refusal .freshnessExpired))
  let found ← liftGateway (getGatewayResult blake3 outside db binding gatewayResultId)
  let full ← requireSome found (.gateway (.refusal .resultNotFound))
  let source ← reasoningItem ReasoningSourceReferenceV1.check
    { resultId := gatewayResultId
      resultDigest := gatewayResultId
      workspace := identity.workspace
      stateDigest := binding.input.stateDigest
      dependencyDigest := gatewayDependencyDigest blake3 binding.input.dependencies
      authorizationScopeDigest := identity.authorizationScopeDigest
      locator }
  rejectIf (2 ^ 64 ≤ full.result.stdoutBytes.toNat + full.result.stderrBytes.toNat) .sourceBytesOverflow
  pure
    { source
      bindingDigest := binding.bindingDigest blake3
      dependencies := full.dependencies
      freshnessValidUntilMs := binding.input.freshness.validUntilMs
      totalBytes := full.result.stdoutBytes + full.result.stderrBytes }

namespace Tables

variable (db : Tables)

def event? (sequence : Nat) : Option LedgerEvent := db.events.find? fun e => e.sequence = sequence

/-- The gateway result a source names is there, ready, and bound as it was when the event was admitted. -/
def sourceIsCurrent (identity : ContextLedgerIdentityV1) (event : LedgerEvent) (s : EventSource) : Bool :=
  (db.gateway.gatewayResult? s.source.resultId).any fun result =>
    result.status = .ready && result.quarantineReason = none && result.gatewayResultId = s.source.resultDigest &&
      result.bindingDigest = s.bindingDigest && result.stateDigest = s.source.stateDigest &&
      s.source.workspace = identity.workspace &&
      s.source.authorizationScopeDigest = identity.authorizationScopeDigest &&
      result.dependencies.all event.dependencies.contains

/-- `context_event_provenance_current_v1`. -/
def eventProvenanceCurrent (identity : ContextLedgerIdentityV1) (sequence : Nat) : Bool :=
  (db.event? sequence).any fun event => event.sources ≠ [] && event.sources.all (db.sourceIsCurrent identity event)

/-- `load_context_sources_for_event_v1`. -/
def eventSources (sequence : Nat) : Except LedgerError (List (Checked ReasoningSourceReferenceV1.check)) :=
  (((db.event? sequence).map (·.sources)).getD []).mapM fun s => reasoningItem _ s.source

/-! ## The projection of a task -/

/-- `ORDER BY fact_id, fact_version DESC LIMIT 64` over the current facts of a task. -/
def currentFactRows (task : ContextTask) : List FactVersion :=
  ((db.facts.filter fun f => f.task = task ∧ f.retired = none).insertionSort fun f g =>
    f.factId < g.factId ∨ f.factId = g.factId ∧ g.factVersion ≤ f.factVersion).take maxContextLedgerSnapshotItems

/-- The fact a row holds, when its sources are still current. -/
def loadFact (identity : ContextLedgerIdentityV1) (row : FactVersion) :
    Except LedgerError (Option (Checked ReasoningFactV1.check)) :=
  if db.eventProvenanceCurrent identity row.admissionEventSequence then do
    let sources ← db.eventSources row.admissionEventSequence
    let fact ← reasoningItem ReasoningFactV1.check
      { factId := row.factId
        topic := row.topic
        statement := row.statement
        valueDigest := row.valueDigest
        scope := row.factScope
        taskId := row.factTaskId
        sources }
    pure (some fact)
  else pure none

/-- `load_current_context_facts_v1`. -/
def loadCurrentContextFacts (identity : ContextLedgerIdentityV1) :
    Except LedgerError (List (Checked ReasoningFactV1.check)) := do
  let facts ← (db.currentFactRows identity.task).mapM (db.loadFact identity)
  pure (facts.filterMap id)

/-- The events of a task of one kind, the latest first, at most 64. -/
def latestEvents (task : ContextTask) (kind : ContextLedgerEventKindV1) : List LedgerEvent :=
  ((db.events.filter fun e => e.task = task ∧ e.fields.kind = kind).insertionSort fun a b =>
    b.sequence ≤ a.sequence).take maxContextLedgerSnapshotItems

/-- `load_context_suggestions_v1`. -/
def loadContextSuggestions (identity : ContextLedgerIdentityV1) :
    Except LedgerError (List (Checked ContextLedgerSuggestionV1.check)) :=
  (db.latestEvents identity.task .unverifiedSuggestion).mapM fun e => do
    let relevanceDigest ← requireSome e.fields.valueDigest .columnType
    reasoningItem _ { subject := e.fields.subjectId, statement := e.fields.summary, relevanceDigest }

/-- `load_context_unknowns_v1`. -/
def loadContextUnknowns (identity : ContextLedgerIdentityV1) :
    Except LedgerError (List (Checked ReasoningUnknownV1.check)) :=
  (db.latestEvents identity.task .explicitUnknown).mapM fun e =>
    reasoningItem _ { subject := e.fields.subjectId, explanation := e.fields.summary }

/-- `ORDER BY result_id, reference_version DESC LIMIT 64` over the current references of a task. -/
def currentReferenceRows (task : ContextTask) : List ResultReference :=
  ((db.references.filter fun r => r.task = task ∧ r.retired = none).insertionSort fun r s =>
    r.resultId < s.resultId ∨ r.resultId = s.resultId ∧ s.referenceVersion ≤ r.referenceVersion).take
      maxContextLedgerSnapshotItems

/-- The reference a row holds, when its sources are still current. -/
def loadReference (identity : ContextLedgerIdentityV1) (row : ResultReference) :
    Except LedgerError (Option (Checked check)) :=
  if db.eventProvenanceCurrent identity row.admissionEventSequence then do
    let reference ← reasoningItem check
      { resultId := row.resultId, resultDigest := row.resultDigest, totalBytes := row.totalBytes }
    pure (some reference)
  else pure none

/-- `load_current_context_results_v1`. -/
def loadCurrentContextResults (identity : ContextLedgerIdentityV1) :
    Except LedgerError (List (Checked check)) := do
  let references ← (db.currentReferenceRows identity.task).mapM (db.loadReference identity)
  pure (references.filterMap id)

/-- `load_context_inflight_v1`. -/
def loadContextInflight (identity : ContextLedgerIdentityV1) (now : Int) :
    Except LedgerError (List (Checked InflightReasoningWorkV1.check)) :=
  (((db.leases.filter fun l => l.key = identity.key ∧ l.status = .active ∧ now < l.expiresMs).insertionSort
    fun l m => l.workKeyDigest ≤ m.workKeyDigest).take maxContextLedgerSnapshotItems).mapM fun l =>
      reasoningItem _
        { callId := l.leaseId, agentId := l.leaderAgentId, lifecycleGeneration := l.generation, summary := l.summary }

end Tables

structure ContextLedgerTaskSnapshotV1 where
  cursor : Nat
  currentFacts : List (Checked ReasoningFactV1.check)
  suggestions : List (Checked ContextLedgerSuggestionV1.check)
  explicitUnknowns : List (Checked ReasoningUnknownV1.check)
  resultReferences : List (Checked check)
  inflightWork : List (Checked InflightReasoningWorkV1.check)
deriving DecidableEq

/-- `Store::context_task_snapshot_v1`. -/
def contextTaskSnapshotV1 (now : Int) (identity : ContextLedgerIdentityV1) : LedgerTx ContextLedgerTaskSnapshotV1 := do
  ensureCurrentContextRecipient identity
  let db ← get
  attempt do
    let currentFacts ← db.loadCurrentContextFacts identity
    let suggestions ← db.loadContextSuggestions identity
    let explicitUnknowns ← db.loadContextUnknowns identity
    let resultReferences ← db.loadCurrentContextResults identity
    let inflightWork ← db.loadContextInflight identity now
    pure
      { cursor := db.latestCursor identity.task
        currentFacts, suggestions, explicitUnknowns, resultReferences, inflightWork }

/-! ## The events after a cursor -/

structure ContextLedgerEventV1 where
  sequence : Nat
  envelopeDigest : String
  kind : ContextLedgerEventKindV1
  subjectId : String
  subjectVersion : UInt64
  summary : String
  valueDigest : Option String
  createdMs : Nat
deriving DecidableEq

structure ContextLedgerDeltaV1 where
  after : Nat
  cursor : Nat
  hasMore : Bool
  events : List ContextLedgerEventV1
deriving DecidableEq

/-- The event as it is delivered. -/
def LedgerEvent.deliver (event : LedgerEvent) : Except LedgerError ContextLedgerEventV1 := do
  let createdMs ← requireSome (u64OfInt? event.createdMs) .columnType
  pure
    { sequence := event.sequence
      envelopeDigest := event.envelopeDigest
      kind := event.fields.kind
      subjectId := event.fields.subjectId
      subjectVersion := event.fields.subjectVersion
      summary := event.fields.summary
      valueDigest := event.fields.valueDigest
      createdMs }

/-- `load_context_delta_v1`. -/
def Tables.loadContextDelta (db : Tables) (task : ContextTask) (after limit : Nat) :
    Except LedgerError (List ContextLedgerEventV1) :=
  (((db.events.filter fun e => e.task = task ∧ after < e.sequence).insertionSort fun a b =>
    a.sequence ≤ b.sequence).take limit).mapM LedgerEvent.deliver

/-- `Store::context_delta_after_v1`. -/
def contextDeltaAfterV1 (identity : ContextLedgerIdentityV1) (after limit : Nat) : LedgerTx ContextLedgerDeltaV1 := do
  refuseIf (limit = 0 ∨ maxContextLedgerDeltaItems < limit) (.reasoning .itemBound)
  ensureCurrentContextRecipient identity
  let loaded ← attempt ((← get).loadContextDelta identity.task after (limit + 1))
  let events := loaded.take limit
  pure
    { after, events
      hasMore := limit < loaded.length
      cursor := (events.getLast?.map (·.sequence)).getD after }

/-! ## A result through a reference -/

def Tables.currentReference? (db : Tables) (task : ContextTask) (resultId : String) : Option ResultReference :=
  latest (·.referenceVersion) (db.references.filter fun r => r.task = task ∧ r.resultId = resultId ∧ r.retired = none)

/-- `Store::retrieve_context_result_v1`. -/
def retrieveContextResultV1 (blake3 : Bytes → Octets 32) (outside : Outside) (identity : ContextLedgerIdentityV1)
    (gatewayResultId : String) : LedgerTx GatewayFullResultV1 := do
  refuseIf (validDigest gatewayResultId = false) (.invalidDigest "context result selector")
  ensureCurrentContextRecipient identity
  let db ← get
  let refused : LedgerError := .gateway (.delivery .invalidBinding)
  let reference ← okOr (db.currentReference? identity.task gatewayResultId) refused
  refuseIf (reference.resultDigest ≠ gatewayResultId ∨
    db.eventProvenanceCurrent identity reference.admissionEventSequence = false) refused
  let (result, dependencies) ← attempt (liftGateway (loadGatewayResultUnboundSnapshotV2 blake3 db.gateway gatewayResultId))
  refuseIf (u64Max < result.stdoutBytes.toNat + result.stderrBytes.toNat) refused
  refuseIf (result.stdoutBytes.toNat + result.stderrBytes.toNat ≠ reference.totalBytes.toNat) refused
  let (stdout, stderr) ← attempt (liftGateway (resultBlobs blake3 outside result (.delivery .invalidBinding)))
  pure { gatewayResultId, result, stdout, stderr, dependencies }

end Again.Ledger
