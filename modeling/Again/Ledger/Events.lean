import Again.Gateway.Delivery
import Again.Ledger.Tasks

/-!
# Events, facts and result references

`store.rs`: what a current recipient tells the ledger of its task and reads back
from it. An event is immutable and named by its envelope. A verified fact or a
result reference is admitted by an event together with the gateway results it
was derived from, and stays current until an event retires it.
-/

namespace Again.Ledger

open Lib Gateway

def maxContextLedgerEventsPerTask : Nat := 4096
def maxContextLedgerSnapshotItems : Nat := 64
def maxContextLedgerDeltaItems : Nat := 256
def maxContextLedgerDependencies : Nat := 64

def contextVerifiedFactTopic : String := "gateway-exact-observation"
def contextVerifiedFactStatement : String :=
  "exact built-in observations are available under the attached complete provenance"

/-! ## Recipients -/

/-- `validate_context_identity_v1`. -/
def validContextIdentity (identity : ContextLedgerIdentityV1) : Bool :=
  identity.compactionGeneration.toNat ≤ i64Max && identity.lifecycleGeneration ≠ 0 &&
    identity.lifecycleGeneration.toNat ≤ i64Max

def checkContextIdentity (identity : ContextLedgerIdentityV1) : LedgerTx Unit :=
  refuseIf (validContextIdentity identity = false) (.gateway (.refusal .invalidAgentContext))

/-- The row is active and has the identity's turn, connection and generations. -/
def Recipient.isCurrent (recipient : Recipient) (identity : ContextLedgerIdentityV1) : Bool :=
  recipient.active && recipient.turnId = identity.turnId &&
    recipient.connectionGeneration = identity.connectionGeneration &&
    recipient.compactionGeneration = identity.compactionGeneration &&
    recipient.lifecycleGeneration = identity.lifecycleGeneration

def Tables.isCurrent (db : Tables) (identity : ContextLedgerIdentityV1) : Bool :=
  (db.recipient? identity).any (·.isCurrent identity)

/-- `ensure_current_context_recipient_v1`. -/
def ensureCurrentContextRecipient (identity : ContextLedgerIdentityV1) : LedgerTx Unit := do
  checkContextIdentity identity
  refuseIf ((← get).isCurrent identity = false) (.gateway (.refusal .invalidAgentContext))

/-- An activation the stored row does not allow. -/
def Recipient.refuses (existing : Recipient) (identity : ContextLedgerIdentityV1) : Bool :=
  !existing.active && identity.lifecycleGeneration ≤ existing.lifecycleGeneration ||
    identity.lifecycleGeneration < existing.lifecycleGeneration ||
    existing.lifecycleGeneration = identity.lifecycleGeneration &&
      identity.compactionGeneration < existing.compactionGeneration ||
    existing.lifecycleGeneration = identity.lifecycleGeneration &&
      existing.compactionGeneration = identity.compactionGeneration &&
      (existing.connectionGeneration ≠ identity.connectionGeneration || existing.turnId ≠ identity.turnId)

/-- `Store::activate_context_recipient_v1`. -/
def activateContextRecipientV1 (now : Int) (identity : ContextLedgerIdentityV1) : LedgerTx Unit := atomically do
  checkContextIdentity identity
  let db ← get
  refuseIf ((db.recipient? identity).any (·.refuses identity)) (.gateway (.refusal .invalidAgentContext))
  let row : Recipient :=
    { key := identity.key
      agentId := identity.agentId
      sessionId := identity.sessionId
      turnId := identity.turnId
      connectionGeneration := identity.connectionGeneration
      compactionGeneration := identity.compactionGeneration
      lifecycleGeneration := identity.lifecycleGeneration
      active := true
      updatedMs := now }
  set
    { db with
      recipients :=
        if db.recipients.any (·.isOf identity) then updateWhere (·.isOf identity) (fun _ => row) db.recipients
        else db.recipients ++ [row] }

/-- `Store::retire_context_recipient_v1`. -/
def retireContextRecipientV1 (now : Int) (identity : ContextLedgerIdentityV1) : LedgerTx Bool := atomically do
  checkContextIdentity identity
  let db ← get
  let changed := db.recipients.countP fun r => r.isOf identity && r.isCurrent identity
  set
    { db with
      recipients := updateWhere (fun r => r.isOf identity && r.isCurrent identity)
        (fun r => { r with active := false, updatedMs := now }) db.recipients }
  let _ ← updateContextLeases (fun l => l.isLedBy identity && l.status = .active) fun l =>
    { l with status := .cancelled, completedMs := some now }
  pure (changed == 1)

/-! ## Digests -/

/-- `ContextLedgerEventKindV1::code`. -/
def ContextLedgerEventKindV1.code : ContextLedgerEventKindV1 → String
  | .verifiedFactAdmission => "verified_fact_admission"
  | .unverifiedSuggestion => "unverified_suggestion"
  | .completedObservation => "completed_observation"
  | .inflightWork => "inflight_work"
  | .failedApproach => "failed_approach"
  | .explicitUnknown => "explicit_unknown"
  | .resultReference => "result_reference"
  | .invalidation => "invalidation"
  | .retirement => "retirement"

/-- The bytes of the four names of a source that digests take in. -/
def ContextVerifiedObservationV1.nameBytes (source : ContextVerifiedObservationV1) : Bytes :=
  hashField source.source.val.resultId ++ hashField source.source.val.resultDigest ++
    hashField source.source.val.locator ++ hashField source.bindingDigest

/-- The bytes hashed by `context_event_canonical_digest_v1`. -/
def contextEventCanonicalBytes (identity : ContextLedgerIdentityV1) (fields : ContextEventFieldsV1) (payload : Bytes)
    (sources : List ContextVerifiedObservationV1) : Bytes :=
  utf8 "again.context-ledger.event.v1\x00" ++
    [identity.workspace.repositoryId, identity.workspace.workspaceId, identity.taskId,
      identity.authorizationScopeDigest, identity.agentId, identity.sessionId, identity.turnId,
      identity.connectionGeneration, fields.kind.code, fields.subjectId, fields.summary, fields.valueDigest.getD "",
      fields.resultId.getD "", fields.resultDigest.getD ""].flatMap hashField ++
    [identity.compactionGeneration, identity.lifecycleGeneration, fields.subjectVersion, fields.totalBytes.getD 0,
      fields.durationMs.getD 0].flatMap le64 ++
    putBytes payload ++
    putList (fun source : ContextVerifiedObservationV1 => source.nameBytes ++
      source.dependencies.flatMap fun d => hashField d.keyDigest ++ hashField d.valueDigest) sources

section
variable (blake3 : Bytes → Octets 32)

/-- `context_event_canonical_digest_v1`. -/
def contextEventCanonicalDigest (identity : ContextLedgerIdentityV1) (fields : ContextEventFieldsV1) (payload : Bytes)
    (sources : List ContextVerifiedObservationV1) : String :=
  hexDigest blake3 (contextEventCanonicalBytes identity fields payload sources)

/-- `context_verified_fact_value_digest_v1`. -/
def contextVerifiedFactValueDigest (sources : List ContextVerifiedObservationV1) : String :=
  hexDigest blake3 (utf8 "again.context-ledger.verified-fact-value.v1\x00" ++
    putList ContextVerifiedObservationV1.nameBytes sources)

end

/-! ## Provenance -/

/-- `BTreeMap::entry` of a dependency: a key keeps its first value and takes no other. -/
def insertDependency (new : GatewayDependencyV1) :
    List GatewayDependencyV1 → Except LedgerError (List GatewayDependencyV1)
  | [] => pure [new]
  | d :: rest =>
    if new.keyDigest = d.keyDigest then do
      rejectIf (new.valueDigest ≠ d.valueDigest) .contradictoryDependencies
      pure (d :: rest)
    else if new.keyDigest < d.keyDigest then pure (new :: d :: rest)
    else do
      let tail ← insertDependency new rest
      pure (d :: tail)

section
variable (ext : Externals)

/-- The checks of one source in `verify_context_sources_v1`, and the dependencies it adds. -/
def verifyContextSource (db : Tables) (identity : ContextLedgerIdentityV1) (now : Int)
    (dependencies : List GatewayDependencyV1) (verified : ContextVerifiedObservationV1) :
    Except LedgerError (List GatewayDependencyV1) := do
  let source := verified.source.val
  rejectIf (source.workspace ≠ identity.workspace ∨
    source.authorizationScopeDigest ≠ identity.authorizationScopeDigest ∨ source.resultId ≠ source.resultDigest ∨
    verified.freshnessValidUntilMs < now ∨
    gatewayDependencyDigest ext.blake3 verified.dependencies ≠ source.dependencyDigest)
    (.gateway (.refusal .bindingMismatch))
  let row ← requireSome (db.gateway.gatewayResult? source.resultId) (.gateway (.refusal .resultNotFound))
  rejectIf (row.bindingDigest ≠ verified.bindingDigest ∨ row.stateDigest ≠ source.stateDigest ∨ row.status ≠ .ready ∨
    row.quarantineReason ≠ none) (.gateway (.refusal .resultCorrupt))
  rejectIf (row.dependencies ≠ verified.dependencies) (.gateway (.refusal .bindingMismatch))
  verified.dependencies.foldlM (fun known d => insertDependency d known) dependencies

/-- `verify_context_sources_v1`. -/
def verifyContextSources (db : Tables) (identity : ContextLedgerIdentityV1)
    (sources : List ContextVerifiedObservationV1) (now : Int) : Except LedgerError (List GatewayDependencyV1) := do
  rejectIf (maxReasoningSourcesPerItem < sources.length ∨
    anyWindow (fun a b : ContextVerifiedObservationV1 =>
      decide (b.source.val.resultId < a.source.val.resultId) ||
        decide (b.source.val.resultId = a.source.val.resultId) &&
          decide (b.source.val.locator ≤ a.source.val.locator)) sources)
    (.reasoning .sourceReferenceBound)
  let dependencies ← sources.foldlM (verifyContextSource ext db identity now) []
  rejectIf (maxContextLedgerDependencies < dependencies.length) (.reasoning .sourceReferenceBound)
  pure dependencies

/-! ## Appending an event -/

inductive ContextLedgerAppendOutcomeV1
  | appended (sequence : Nat)
  | duplicate (sequence : Nat)
deriving DecidableEq

/-- `validate_context_envelope_v1`. -/
def checkContextEnvelope (envelopeDigest : String) (subjectVersion : UInt64) : Except LedgerError Unit := do
  rejectIf (validDigest envelopeDigest = false) (.invalidDigest "context envelope digest")
  rejectIf (subjectVersion = 0 ∨ i64Max < subjectVersion.toNat) (.reasoning .invalidGeneration)

/-- `duplicate_context_envelope_v1`. -/
def duplicateContextEnvelope (db : Tables) (envelopeDigest canonicalDigest : String) :
    Except LedgerError (Option Nat) :=
  match db.events.find? fun e => e.envelopeDigest = envelopeDigest with
  | some existing => do
    rejectIf (existing.canonicalDigest ≠ canonicalDigest) .envelopeConflict
    pure (some existing.sequence)
  | none => pure none

/-- The row of a source. -/
def ContextVerifiedObservationV1.row (verified : ContextVerifiedObservationV1) : EventSource :=
  { source := verified.source.val, bindingDigest := verified.bindingDigest }

/-- `insert_context_event_v1` and `insert_context_provenance_v1`. -/
def insertContextEvent (identity : ContextLedgerIdentityV1) (envelopeDigest canonicalDigest : String)
    (fields : ContextEventFieldsV1) (now : Int) (sources : List ContextVerifiedObservationV1)
    (dependencies : List GatewayDependencyV1) : LedgerTx Nat := do
  reserveTaskContextBytes ext.blake3 identity.workspace (contextEventLogicalBytes fields.subjectId fields.summary)
  refuseIf ([fields.totalBytes, fields.durationMs].any (·.any (i64Max < ·.toNat))) .integerOutOfRange
  let db ← get
  refuseIf (db.events.any fun e => e.envelopeDigest = envelopeDigest) .constraint
  let row : LedgerEvent :=
    { envelopeDigest, canonicalDigest, identity, fields, dependencies
      sequence := db.lastEventSequence + 1
      createdMs := now
      sources := sources.map ContextVerifiedObservationV1.row }
  set { db with events := db.events ++ [row], lastEventSequence := row.sequence }
  pure row.sequence

/-! ## Garbage collection -/

structure ContextLedgerGcReportV1 where
  events : Nat
  factVersions : Nat
  resultReferences : Nat
deriving DecidableEq

/-- `COALESCE(MAX(through_sequence), 0)` over the receipts of a task. -/
def Tables.retainedThrough (db : Tables) (task : ContextTask) : Nat :=
  ((db.receipts.filter fun r => r.task = task).map (·.throughSequence)).max?.getD 0

/-- The events of a task that nothing retains, the oldest first. -/
def Tables.collectable (db : Tables) (task : ContextTask) : List Nat :=
  ((db.events.filter fun e => e.task = task ∧ db.retainedThrough task < e.sequence ∧ ¬ db.holdsEvent e.sequence ∧
    ¬ e.sources.any fun s => db.gateway.deliveryReceipts.any fun r => r.gatewayResultId = s.source.resultId).map
      (·.sequence)).insertionSort (· ≤ ·)

/-- The retired facts and references of a task are gone. -/
def Tables.dropRetired (db : Tables) (task : ContextTask) : Tables :=
  { db with
    facts := db.facts.filter fun f => ¬ (f.task = task ∧ f.retired.isSome)
    references := db.references.filter fun r => ¬ (r.task = task ∧ r.retired.isSome) }

def deleteCandidates : List Nat → LedgerTx Nat
  | [] => pure 0
  | sequence :: rest => do
    let removed ← deleteEvents fun e => e.sequence = sequence
    let others ← deleteCandidates rest
    pure (removed + others)

/-- `gc_context_ledger_tx_v1`. -/
def gcContextLedger (task : ContextTask) (maximumEvents : Nat) : LedgerTx ContextLedgerGcReportV1 := do
  let before ← get
  let factVersions := before.facts.countP fun f => f.task = task ∧ f.retired.isSome
  let resultReferences := before.references.countP fun r => r.task = task ∧ r.retired.isSome
  let db := before.dropRetired task
  set db
  let events ← deleteCandidates ((db.collectable task).take (db.eventCount task - maximumEvents))
  pure { events, factVersions, resultReferences }

/-- The collection, and the quota computed again after it. -/
def collectContextLedger (identity : ContextLedgerIdentityV1) (maximumEvents : Nat) :
    LedgerTx ContextLedgerGcReportV1 := do
  let report ← gcContextLedger identity.task maximumEvents
  reconcileTaskQuotaScope ext.blake3 identity.workspace
  pure report

/-- `Store::gc_context_ledger_v1`. -/
def gcContextLedgerV1 (identity : ContextLedgerIdentityV1) (maximumEvents : Nat) : LedgerTx ContextLedgerGcReportV1 :=
  atomically do
    refuseIf (maximumEvents = 0 ∨ maxContextLedgerEventsPerTask < maximumEvents) (.reasoning .itemBound)
    ensureCurrentContextRecipient identity
    collectContextLedger ext identity maximumEvents

/-- `enforce_context_quota_v1`. -/
def enforceContextQuota (identity : ContextLedgerIdentityV1) : LedgerTx Unit := do
  if maxContextLedgerEventsPerTask ≤ (← get).eventCount identity.task then do
    let _ ← collectContextLedger ext identity (maxContextLedgerEventsPerTask - 1)
    refuseIf (maxContextLedgerEventsPerTask ≤ (← get).eventCount identity.task) .eventQuotaExceeded
  else pure ()

/-! ## Admitting and appending -/

/-- Retire the selected facts by an event. -/
def retireFacts (sel : FactVersion → Bool) (sequence : Nat) (reason : String) : LedgerTx Nat :=
  updateFacts (fun f => f.retired = none ∧ sel f) fun f => { f with retired := some (sequence, reason) }

/-- Retire the selected references by an event. -/
def retireReferences (sel : ResultReference → Bool) (sequence : Nat) (reason : String) : LedgerTx Nat :=
  updateReferences (fun r => r.retired = none ∧ sel r) fun r => { r with retired := some (sequence, reason) }

/-- What makes an event new: its envelope is not in the ledger, and its sources are verified. -/
def admitEvent (now : Int) (identity : ContextLedgerIdentityV1) (envelopeDigest canonicalDigest : String)
    (fields : ContextEventFieldsV1) (sources : List ContextVerifiedObservationV1) : LedgerTx Nat := do
  enforceContextQuota ext identity
  let dependencies ← attempt (verifyContextSources ext (← get) identity sources now)
  insertContextEvent ext identity envelopeDigest canonicalDigest fields now sources dependencies

/-- The fields of a fact's admission. -/
def factFields (fact : ReasoningFactV1) (factVersion : UInt64) : ContextEventFieldsV1 :=
  { kind := .verifiedFactAdmission
    subjectId := fact.factId
    subjectVersion := factVersion
    summary := fact.statement
    valueDigest := some fact.valueDigest }

/-- `Store::admit_context_fact_v1`. -/
def admitContextFactV1 (now : Int) (identity : ContextLedgerIdentityV1) (envelopeDigest : String)
    (factVersion : UInt64) (fact : Checked ReasoningFactV1.check) (verifiedSources : List ContextVerifiedObservationV1) :
    LedgerTx ContextLedgerAppendOutcomeV1 := atomically do
  attempt (checkContextEnvelope envelopeDigest factVersion)
  let f := fact.val
  refuseIf (f.sources ≠ verifiedSources.map (·.source) ∨ f.sources = [] ∨
    f.scope = .taskSpecific ∧ f.taskId ≠ some identity.taskId ∨ f.topic ≠ contextVerifiedFactTopic ∨
    f.statement ≠ contextVerifiedFactStatement ∨
    f.valueDigest ≠ contextVerifiedFactValueDigest ext.blake3 verifiedSources) .notProducedByAdapter
  let canonicalDigest :=
    contextEventCanonicalDigest ext.blake3 identity (factFields f factVersion) (ext.toVec (.fact f)) verifiedSources
  ensureCurrentContextRecipient identity
  match ← attempt (duplicateContextEnvelope (← get) envelopeDigest canonicalDigest) with
  | some sequence => pure (.duplicate sequence)
  | none => do
    let sequence ← admitEvent ext now identity envelopeDigest canonicalDigest (factFields f factVersion) verifiedSources
    let _ ← retireFacts (fun v => v.task = identity.task ∧ v.factId = f.factId ∧ v.factVersion < factVersion) sequence
      "superseded"
    insertFactVersion
      { task := identity.task
        factId := f.factId
        factVersion
        admissionEventSequence := sequence
        topic := f.topic
        statement := f.statement
        valueDigest := f.valueDigest
        factScope := f.scope
        factTaskId := f.taskId }
    pure (.appended sequence)

/-- `context_event_input_fields_v1`: the event's fields, what its JSON is made of, and its sources. -/
def contextEventInputFields : ContextLedgerEventInputV1 →
    Except LedgerError (ContextEventFieldsV1 × EventPayload × List ContextVerifiedObservationV1)
  | .unverifiedSuggestion suggestion => do
    screenSensitiveText suggestion.val.statement
    pure
      ({ kind := .unverifiedSuggestion
         subjectId := suggestion.val.subject
         subjectVersion := 1
         summary := suggestion.val.statement
         valueDigest := some suggestion.val.relevanceDigest }, .suggestion suggestion.val, [])
  | .completedObservation observation verifiedSources => do
    let retrieval := observation.val.retrieval.val
    rejectIf (observation.val.sources ≠ verifiedSources.map (·.source) ∨ ¬ verifiedSources.any fun v =>
      v.source.val.resultId = retrieval.resultId ∧ v.source.val.resultDigest = retrieval.resultDigest ∧
        v.totalBytes = retrieval.totalBytes) .sourcesNotExact
    pure
      ({ kind := .completedObservation
         subjectId := observation.val.observationId
         subjectVersion := 1
         summary := observation.val.summary
         valueDigest := some retrieval.resultDigest
         resultId := some retrieval.resultId
         resultDigest := some retrieval.resultDigest
         totalBytes := some retrieval.totalBytes
         durationMs := some observation.val.durationMs }, .observation observation.val, verifiedSources)
  | .failedApproach approach verifiedSources => do
    screenSensitiveText approach.val.verifiedCause
    rejectIf (approach.val.sources ≠ verifiedSources.map (·.source)) .sourcesNotExact
    pure
      ({ kind := .failedApproach
         subjectId := approach.val.approachId
         subjectVersion := 1
         summary := approach.val.verifiedCause }, .approach approach.val, verifiedSources)
  | .explicitUnknown unknown => do
    screenSensitiveText unknown.val.explanation
    pure
      ({ kind := .explicitUnknown
         subjectId := unknown.val.subject
         subjectVersion := 1
         summary := unknown.val.explanation }, .unknown unknown.val, [])
  | .resultReference reference referenceVersion verifiedSources => do
    rejectIf (¬ verifiedSources.any fun v => v.source.val.resultId = reference.val.resultId ∧
      v.source.val.resultDigest = reference.val.resultDigest ∧ v.totalBytes = reference.val.totalBytes)
      (.reasoning .sourceReferenceBound)
    pure
      ({ kind := .resultReference
         subjectId := reference.val.resultId
         subjectVersion := referenceVersion
         summary := "verified result reference; retrieval authority is still required"
         valueDigest := some reference.val.resultDigest
         resultId := some reference.val.resultId
         resultDigest := some reference.val.resultDigest
         totalBytes := some reference.val.totalBytes }, .reference reference.val, verifiedSources)
  | .retirement subjectId subjectVersion reason => do
    rejectIf (validReasoningIdentifier subjectId = false) (.reasoning .invalidIdentifier)
    rejectIf (validReasoningText reason 1024 = false) (.reasoning .invalidText)
    pure
      ({ kind := .retirement, subjectId, subjectVersion, summary := reason },
        .retirement subjectId subjectVersion reason, [])

/-- What an event of each kind does besides being recorded. -/
def applyContextEvent (identity : ContextLedgerIdentityV1) (sequence : Nat) : ContextLedgerEventInputV1 → LedgerTx Unit
  | .resultReference reference referenceVersion _ => do
    let _ ← retireReferences (fun r => r.task = identity.task ∧ r.resultId = reference.val.resultId ∧
      r.referenceVersion < referenceVersion) sequence "superseded"
    insertResultReference
      { task := identity.task
        resultId := reference.val.resultId
        referenceVersion
        admissionEventSequence := sequence
        resultDigest := reference.val.resultDigest
        totalBytes := reference.val.totalBytes }
  | .retirement subjectId subjectVersion reason => do
    let facts ← retireFacts (fun f => f.task = identity.task ∧ f.factId = subjectId ∧ f.factVersion = subjectVersion)
      sequence reason
    let references ← retireReferences (fun r => r.task = identity.task ∧ r.resultId = subjectId ∧
      r.referenceVersion = subjectVersion) sequence reason
    refuseIf (facts + references = 0) .retirementTargetNotCurrent
  | _ => pure ()

/-- `Store::append_context_event_v1`. -/
def appendContextEventV1 (now : Int) (identity : ContextLedgerIdentityV1) (envelopeDigest : String)
    (input : ContextLedgerEventInputV1) : LedgerTx ContextLedgerAppendOutcomeV1 := atomically do
  refuseIf (validDigest envelopeDigest = false) (.invalidDigest "context envelope digest")
  let (fields, payload, sources) ← attempt (contextEventInputFields input)
  attempt (checkContextEnvelope envelopeDigest fields.subjectVersion)
  let canonicalDigest := contextEventCanonicalDigest ext.blake3 identity fields (ext.toVec payload) sources
  ensureCurrentContextRecipient identity
  match ← attempt (duplicateContextEnvelope (← get) envelopeDigest canonicalDigest) with
  | some sequence => pure (.duplicate sequence)
  | none => do
    let sequence ← admitEvent ext now identity envelopeDigest canonicalDigest fields sources
    applyContextEvent identity sequence input
    pure (.appended sequence)

/-! ## Invalidation -/

structure ContextInvalidationReportV1 where
  sequence : Nat
  retiredFacts : Nat
  retiredResultReferences : Nat
deriving DecidableEq

/-- The dependencies the event was admitted with. -/
def Tables.eventDependencies (db : Tables) (sequence : Nat) : List GatewayDependencyV1 :=
  ((db.events.find? fun e => e.sequence = sequence).map (·.dependencies)).getD []

/-- The event depends on the key with another value. -/
def Tables.dependsOtherwise (db : Tables) (change : GatewayDependencyV1) (sequence : Nat) : Bool :=
  (db.eventDependencies sequence).any fun d => d.keyDigest = change.keyDigest ∧ d.valueDigest ≠ change.valueDigest

/-- `retire_context_facts_for_changes_v1`. -/
def retireContextFactsForChanges (task : ContextTask) (sequence : Nat) : List GatewayDependencyV1 → LedgerTx Nat
  | [] => pure 0
  | change :: rest => do
    let db ← get
    let retired ← retireFacts (fun f => f.task = task ∧ db.dependsOtherwise change f.admissionEventSequence) sequence
      "dependency_invalidated"
    let others ← retireContextFactsForChanges task sequence rest
    pure (retired + others)

/-- `retire_context_results_for_changes_v1`. -/
def retireContextResultsForChanges (task : ContextTask) (sequence : Nat) : List GatewayDependencyV1 → LedgerTx Nat
  | [] => pure 0
  | change :: rest => do
    let db ← get
    let retired ← retireReferences (fun r => r.task = task ∧ db.dependsOtherwise change r.admissionEventSequence) sequence
      "dependency_invalidated"
    let others ← retireContextResultsForChanges task sequence rest
    pure (retired + others)

/-- The fields of an invalidation. -/
def invalidationFields (changeDigest : String) : ContextEventFieldsV1 :=
  { kind := .invalidation
    subjectId := "dependency-change"
    subjectVersion := 1
    summary := "verified dependency values changed"
    valueDigest := some changeDigest }

/-- `Store::invalidate_context_dependencies_v1`. -/
def invalidateContextDependenciesV1 (now : Int) (identity : ContextLedgerIdentityV1) (envelopeDigest : String)
    (changes : List ContextDependencyChangeV1) : LedgerTx ContextInvalidationReportV1 := atomically do
  refuseIf (validDigest envelopeDigest = false) (.invalidDigest "context invalidation envelope digest")
  let changed := changes.map (·.val)
  refuseIf (changed = [] ∨ maxContextLedgerDependencies < changed.length ∨ unorderedDependencies changed)
    .changesNotOrdered
  let serialized := ext.toVec (.changes changed)
  let fields := invalidationFields (hexDigest ext.blake3 serialized)
  let canonicalDigest := contextEventCanonicalDigest ext.blake3 identity fields serialized []
  ensureCurrentContextRecipient identity
  let db ← get
  match ← attempt (duplicateContextEnvelope db envelopeDigest canonicalDigest) with
  | some sequence =>
    pure
      { sequence
        retiredFacts := db.facts.countP fun f => f.retired.any fun r => r.1 = sequence
        retiredResultReferences := db.references.countP fun f => f.retired.any fun r => r.1 = sequence }
  | none => do
    enforceContextQuota ext identity
    let sequence ← insertContextEvent ext identity envelopeDigest canonicalDigest fields now [] changed
    let retiredFacts ← retireContextFactsForChanges identity.task sequence changed
    let retiredResultReferences ← retireContextResultsForChanges identity.task sequence changed
    pure { sequence, retiredFacts, retiredResultReferences }

/-! ## Delivery -/

/-- `context_delivery_receipt_digest_v1`. -/
def contextDeliveryReceiptDigest (identity : ContextLedgerIdentityV1) (responseEnvelopeDigest : String)
    (through deliveredBytes : Nat) : String :=
  hexDigest ext.blake3 (utf8 "again.context-ledger.delivery.v1\x00" ++
    [responseEnvelopeDigest, identity.workspace.repositoryId, identity.workspace.workspaceId, identity.taskId,
      identity.authorizationScopeDigest, identity.agentId, identity.sessionId, identity.turnId,
      identity.connectionGeneration].flatMap hashField ++
    [identity.compactionGeneration, identity.lifecycleGeneration, UInt64.ofNat through,
      UInt64.ofNat deliveredBytes].flatMap le64)

/-- `Store::acknowledge_context_delivery_v1`. -/
def acknowledgeContextDeliveryV1 (now : Int) (identity : ContextLedgerIdentityV1) (responseEnvelopeDigest : String)
    (through deliveredBytes bytesOmitted : Nat) : LedgerTx Bool := atomically do
  refuseIf (validDigest responseEnvelopeDigest = false) (.invalidDigest "context response envelope digest")
  refuseIf (i64Max < deliveredBytes) .integerOutOfRange
  refuseIf (i64Max < bytesOmitted) .integerOutOfRange
  let receiptDigest := contextDeliveryReceiptDigest ext identity responseEnvelopeDigest through deliveredBytes
  ensureCurrentContextRecipient identity
  let db ← get
  refuseIf (db.latestCursor identity.task < through) (.reasoning .deliveryIncomplete)
  match db.receipts.find? fun r => r.responseEnvelopeDigest = responseEnvelopeDigest with
  | some existing => do
    refuseIf (existing.receiptDigest ≠ receiptDigest) .receiptConflict
    pure false
  | none => do
    refuseIf (db.receipts.any fun r => r.receiptDigest = receiptDigest) .constraint
    reserveTaskContextBytes ext.blake3 identity.workspace receiptLogicalBytes
    let row : ContextDeliveryReceipt :=
      { receiptDigest, responseEnvelopeDigest, identity, deliveredBytes
        throughSequence := through
        acknowledgedMs := now
        bytesOmitted := if 0 < bytesOmitted then some bytesOmitted else none }
    modify fun db => { db with receipts := db.receipts ++ [row] }
    pure true

end

end Again.Ledger
