import Again.Gateway.Snapshots
import Again.Lib.Rows

/-!
# The gateway coordinator

`store.rs`: one execution per exact binding. The first caller leads under a
lease, later callers follow it, and a completed lease publishes the result that
every further caller is served. Each operation is one immediate transaction; an
error rolls it back. The events it records besides are read by none of them.
-/

namespace Again.Gateway

open Lib

/-! ## Statements -/

/-- `UPDATE inflight_leases`, with the number of rows changed. -/
def updateLeases (sel : InflightLease → Bool) (write : InflightLease → InflightLease) : Tx Nat :=
  modifyGet fun db =>
    (db.inflightLeases.countP sel, { db with inflightLeases := updateWhere sel write db.inflightLeases })

/-- `UPDATE gateway_requests`. -/
def updateRequests (sel : GatewayRequest → Bool) (write : GatewayRequest → GatewayRequest) : Tx Unit :=
  modify fun db => { db with gatewayRequests := updateWhere sel write db.gatewayRequests }

/-- `UPDATE gateway_results`, with the number of rows changed. -/
def updateResults (sel : GatewayResult → Bool) (write : GatewayResult → GatewayResult) : Tx Nat :=
  modifyGet fun db =>
    (db.gatewayResults.countP sel, { db with gatewayResults := updateWhere sel write db.gatewayResults })

/-- `INSERT INTO gateway_requests` and its dependencies. -/
def insertRequest (new : GatewayRequest) : Tx Unit := do
  refuseIf ((← get).gatewayRequests.any fun q => q.callId = new.callId) .constraint
  modify fun db => { db with gatewayRequests := db.gatewayRequests ++ [new] }

/-- `INSERT INTO inflight_leases`. -/
def insertLease (new : InflightLease) : Tx Unit := do
  refuseIf ((← get).inflightLeases.any fun l => l.leaseId = new.leaseId ∨ l.callId = new.callId ∨
    l.bindingDigest = new.bindingDigest ∧
      (l.status = .active ∧ new.status = .active ∨ l.lifecycleGeneration = new.lifecycleGeneration)) .constraint
  modify fun db => { db with inflightLeases := db.inflightLeases ++ [new] }

/-- `INSERT INTO gateway_results` and its dependencies. -/
def insertGatewayResult (new : GatewayResult) : Tx Unit := do
  refuseIf ((← get).gatewayResults.any fun r => r.gatewayResultId = new.gatewayResultId ∨
    r.bindingDigest = new.bindingDigest ∧ r.status = .ready ∧ new.status = .ready) .constraint
  modify fun db => { db with gatewayResults := db.gatewayResults ++ [new] }

/-! ## Queries -/

namespace Tables

variable (db : Tables) (bindingDigest : String)

def readyResult? : Option GatewayResult :=
  db.gatewayResults.find? fun r => r.bindingDigest = bindingDigest ∧ r.status = .ready

def isQuarantined : Bool := db.gatewayResults.any fun r => r.bindingDigest = bindingDigest ∧ r.status = .quarantined

def activeLease? : Option InflightLease :=
  db.inflightLeases.find? fun l => l.bindingDigest = bindingDigest ∧ l.status = .active

def quarantineReason? : Option GatewayRowReason :=
  (latest (·.updatedMs) (db.gatewayResults.filter fun r =>
    r.bindingDigest = bindingDigest ∧ r.status = .quarantined)).map fun r => r.quarantineReason.getD .bindingMismatch

/-- The reason of the binding's last failure, when it is one a caller may see. -/
def lastFailure? : Option GatewayFailureReason :=
  (latest (·.updatedMs) (db.gatewayRequests.filter fun q =>
    q.bindingDigest = bindingDigest ∧ q.status = .failed)).bind fun q =>
      match q.reason with
      | some (.failure reason) => some reason
      | _ => none

def waitingFollowers (leaseId : String) : Nat :=
  db.gatewayRequests.countP fun q => q.joinedLeaseId = some leaseId ∧ q.role = .follower ∧ q.status = .waiting

end Tables

/-! ## Expiry and quarantine -/

/-- `status IN ('inflight', 'waiting')`. -/
def GatewayRequest.pending (request : GatewayRequest) : Bool := request.status = .inflight || request.status = .waiting

/-- The requests that joined a lease and are not settled yet. -/
def GatewayRequest.pendingOn (leaseId : String) (request : GatewayRequest) : Bool :=
  request.joinedLeaseId = some leaseId && request.pending

def expireGatewayLease (now : Int) (leaseId : String) : Tx Unit := do
  let _ ← updateLeases (fun l => l.leaseId = leaseId ∧ l.status = .active) fun l =>
    { l with status := .expired, reason := some (.failure .deadline), completedMs := some now }
  updateRequests (·.pendingOn leaseId) fun q =>
    { q with status := .failed, reason := some (.failure .deadline), updatedMs := now }

/-- `expire_gateway_leases_v1_tx`. -/
def expireGatewayLeases (now : Int) (bindingDigest : Option String) : Tx Unit := do
  let db ← get
  let expired := db.inflightLeases.filter fun l =>
    l.status = .active ∧ l.expiresMs ≤ now ∧ bindingDigest.all (· = l.bindingDigest)
  (expired.map (·.leaseId)).forM (expireGatewayLease now)

/-- `quarantine_invalid_gateway_result_v1_tx`. -/
def quarantineInvalidGatewayResult (gatewayResultId : String) (now : Int) : Tx Unit := do
  let changed ← updateResults (fun r => r.gatewayResultId = gatewayResultId ∧ r.status = .ready) fun r =>
    { r with status := .quarantined, quarantineReason := some .resultCorrupt, updatedMs := now }
  if changed = 0 then pure ()
  else do
    let _ ← updateLeases (fun l => l.gatewayResultId = some gatewayResultId ∧ l.status = .completed) fun l =>
      { l with status := .quarantined, reason := some .resultCorrupt, completedMs := some now }
    updateRequests (fun q => q.gatewayResultId = some gatewayResultId ∧ q.status = .ready) fun q =>
      { q with status := .quarantined, reason := some .resultCorrupt, updatedMs := now }

/-- `quarantine_gateway_divergence_v1_tx`. -/
def quarantineGatewayDivergence (lease : InflightLease) (now : Int) : Tx Unit := do
  let _ ← updateResults (fun r => r.bindingDigest = lease.bindingDigest ∧ r.status = .ready) fun r =>
    { r with status := .quarantined, quarantineReason := some .divergentResult, updatedMs := now }
  let _ ← updateLeases (fun l => l.callId = lease.callId) fun l =>
    { l with status := .quarantined, reason := some .divergentResult, completedMs := some now }
  let db ← get
  let joined := (db.inflightLeases.find? fun l => l.callId = lease.callId).map (·.leaseId)
  updateRequests (fun q => joined.isSome ∧ q.joinedLeaseId = joined) fun q =>
    { q with status := .quarantined, reason := some .divergentResult, updatedMs := now }

/-- `lease_refusal_for_status`. -/
def leaseRefusalForStatus : GatewayLeaseStatus → GatewayRefusalReason
  | .expired => .leaseExpired
  | .quarantined => .quarantined
  | .completed | .failed => .alreadyTerminal
  | .active => .leaseNotCurrent

/-! ## Acquiring -/

inductive GatewayCallAcquisition
  | leader (callId leaseId : String) (expiresAtMs : Int)
  | follower (callId leaseId leaderCallId leader : String) (expiresAtMs : Int)
  | ready (callId gatewayResultId : String)
  | refused (reason : GatewayRefusalReason)
deriving DecidableEq

section
variable (blake3 : Bytes → Octets 32)

/-- `insert_gateway_request_v1`. -/
def insertGatewayRequest (callId : String) (binding : ValidatedGatewayReadV1) (owner : String)
    (role : GatewayRequestRole) (status : GatewayRequestStatus) (leaseId gatewayResultId : Option String) (now : Int) :
    Tx Unit :=
  insertRequest
    { callId, owner, role, status, gatewayResultId
      requestDigest := binding.input.requestDigest
      stateDigest := binding.input.stateDigest
      policyDigest := binding.input.policyDigest
      bindingDigest := binding.bindingDigest blake3
      freshnessValidUntilMs := binding.input.freshness.validUntilMs
      joinedLeaseId := leaseId
      createdMs := now
      updatedMs := now
      dependencies := binding.input.dependencies }

/-- A caller that finds neither a result nor an active lease leads. -/
def leadGatewayCall (now : Int) (binding : ValidatedGatewayReadV1) (owner callId leaseId : String) :
    Tx GatewayCallAcquisition := do
  let db ← get
  let priorGeneration := (db.maxGeneration (binding.bindingDigest blake3)).getD 0
  refuseIf (i64Max ≤ priorGeneration) .generationExhausted
  let expiresAtMs := min (saturatingAdd now gatewayLeaseTtlMs) binding.input.freshness.validUntilMs
  insertGatewayRequest blake3 callId binding owner .leader .inflight (some leaseId) none now
  insertLease
    { leaseId, callId, owner
      requestDigest := binding.input.requestDigest
      stateDigest := binding.input.stateDigest
      policyDigest := binding.input.policyDigest
      bindingDigest := binding.bindingDigest blake3
      freshnessValidUntilMs := binding.input.freshness.validUntilMs
      acquiredMs := now
      heartbeatMs := now
      expiresMs := expiresAtMs
      lifecycleGeneration := priorGeneration + 1 }
  pure (.leader callId leaseId expiresAtMs)

/-- What a caller gets once the expired leases of its binding are gone. -/
def settleGatewayCall (outside : Outside) (binding : ValidatedGatewayReadV1) (owner callId leaseId : String) :
    Tx GatewayCallAcquisition := do
  let db ← get
  match db.readyResult? (binding.bindingDigest blake3) with
  | some ready =>
    if gatewayResultIsServableV1 blake3 outside db binding ready.gatewayResultId then do
      insertGatewayRequest blake3 callId binding owner .ready .ready none (some ready.gatewayResultId) outside.now
      pure (.ready callId ready.gatewayResultId)
    else do
      quarantineInvalidGatewayResult ready.gatewayResultId outside.now
      pure (.refused .quarantined)
  | none =>
    if db.isQuarantined (binding.bindingDigest blake3) then pure (.refused .quarantined)
    else
      match db.activeLease? (binding.bindingDigest blake3) with
      | some active => do
        insertGatewayRequest blake3 callId binding owner .follower .waiting (some active.leaseId) none outside.now
        pure (.follower callId active.leaseId active.callId active.owner active.expiresMs)
      | none => leadGatewayCall blake3 outside.now binding owner callId leaseId

/-- `Store::acquire_gateway_call`; the call and the lease it may open have fresh names. -/
def acquireGatewayCall (outside : Outside) (binding : ValidatedGatewayReadV1) (owner callId leaseId : String) :
    Tx GatewayCallAcquisition := atomically do
  refuseIf (validGatewayOwner owner = false) (.refusal .invalidOwner)
  if freshnessIsCurrent binding outside.now = false then pure (.refused .freshnessExpired)
  else do
    expireGatewayLeases outside.now (some (binding.bindingDigest blake3))
    settleGatewayCall blake3 outside binding owner callId leaseId

/-! ## Executing -/

inductive GatewayExecutionStart
  | started | alreadyStarted
  | refused (reason : GatewayRefusalReason)
deriving DecidableEq

/-- `Store::start_gateway_execution`. -/
def startGatewayExecution (now : Int) (leaseId owner : String) : Tx GatewayExecutionStart := atomically do
  refuseIf (validGatewayOwner owner = false) (.refusal .invalidOwner)
  let db ← get
  match db.lease? leaseId with
  | none => pure (.refused .leaseNotFound)
  | some lease =>
    if lease.owner ≠ owner then pure (.refused .ownerMismatch)
    else if lease.status ≠ .active then pure (.refused (leaseRefusalForStatus lease.status))
    else if lease.expiresMs ≤ now then do
      expireGatewayLeases now (some lease.bindingDigest)
      pure (.refused .leaseExpired)
    else if lease.executionStartedMs.isSome then pure .alreadyStarted
    else do
      let changed ← updateLeases
        (fun l => l.leaseId = leaseId ∧ l.status = .active ∧ l.executionStartedMs = none) fun l =>
          { l with executionStartedMs := some now }
      if changed ≠ 1 then pure (.refused .leaseNotCurrent) else pure .started

inductive GatewayHeartbeat
  | extended (expiresAtMs : Int)
  | refused (reason : GatewayRefusalReason)
deriving DecidableEq

/-- `Store::heartbeat_gateway_call`. -/
def heartbeatGatewayCall (now : Int) (leaseId owner : String) : Tx GatewayHeartbeat := atomically do
  refuseIf (validGatewayOwner owner = false) (.refusal .invalidOwner)
  let db ← get
  match db.lease? leaseId with
  | none => pure (.refused .leaseNotFound)
  | some lease =>
    if lease.owner ≠ owner then pure (.refused .ownerMismatch)
    else if lease.status ≠ .active then pure (.refused (leaseRefusalForStatus lease.status))
    else if lease.expiresMs ≤ now then do
      expireGatewayLeases now (some lease.bindingDigest)
      pure (.refused .leaseExpired)
    else do
      let expiresAtMs := min (saturatingAdd now gatewayLeaseTtlMs) lease.freshnessValidUntilMs
      let changed ← updateLeases
        (fun l => l.leaseId = leaseId ∧ l.owner = owner ∧ l.status = .active ∧ now < l.expiresMs) fun l =>
          { l with heartbeatMs := now, expiresMs := expiresAtMs }
      if changed ≠ 1 then pure (.refused .leaseNotCurrent) else pure (.extended expiresAtMs)

/-! ## Observing -/

inductive GatewayCallObservation
  | inflight (leaderCallId leader : String) (expiresAtMs : Int) (followers : Nat)
  | ready (gatewayResultId : String)
  | failed (reason : GatewayFailureReason)
  | quarantined (reason : GatewayRowReason)
  | missing
deriving DecidableEq

/-- The queries of `observe_gateway_call` after the expiry. -/
def readGatewayCall (outside : Outside) (binding : ValidatedGatewayReadV1) : Tx GatewayCallObservation := do
  let db ← get
  match db.quarantineReason? (binding.bindingDigest blake3) with
  | some reason => pure (.quarantined reason)
  | none =>
    match db.readyResult? (binding.bindingDigest blake3) with
    | some ready =>
      if gatewayResultIsServableV1 blake3 outside db binding ready.gatewayResultId = false then do
        quarantineInvalidGatewayResult ready.gatewayResultId outside.now
        pure (.quarantined .resultCorrupt)
      else pure (.ready ready.gatewayResultId)
    | none =>
      match db.activeLease? (binding.bindingDigest blake3) with
      | some lease => pure (.inflight lease.callId lease.owner lease.expiresMs (db.waitingFollowers lease.leaseId))
      | none =>
        match db.lastFailure? (binding.bindingDigest blake3) with
        | some reason => pure (.failed reason)
        | none => pure .missing

/-- `Store::observe_gateway_call`. -/
def observeGatewayCall (outside : Outside) (binding : ValidatedGatewayReadV1) : Tx GatewayCallObservation :=
  atomically do
    if freshnessIsCurrent binding outside.now = false then pure (.failed .deadline)
    else do
      expireGatewayLeases outside.now (some (binding.bindingDigest blake3))
      readGatewayCall blake3 outside binding

/-! ## Route proofs -/

inductive EffectClass
  | snapshotRead | freshnessBoundRead | deterministicCompute | mutation | externalSideEffect | unknown
deriving DecidableEq

inductive FreshnessRequirementV1
  | snapshot
  | maxAgeMillis (maximum : UInt64)
  | requireRevalidation
deriving DecidableEq

/-- What the coordinator reads of a `GatewayToolCallV1`. -/
structure GatewayToolCallV1 where
  requestDigest : String
  effectClass : EffectClass
  freshness : FreshnessRequirementV1
deriving DecidableEq

inductive GatewayRouteProofUnavailableV1
  | missing | executionNotStarted | bindingMismatch | freshness | quarantined
deriving DecidableEq

/-- `StoreExactResultProofV1` and `StoreInflightJoinProofV1`, which differ in what they name. -/
structure StoreRouteProofV1 where
  requestDigest : String
  bindingDigest : String
  stateDigest : String
  policyDigest : String
  dependencyDigest : String
  effect : EffectClass
  freshness : FreshnessRequirementV1
  lifecycleGeneration : Nat
  observedGeneration : Nat
  executionStartedMs : Nat
  observedAtMs : Nat
  /-- The gateway result of an exact proof, the lease of a join proof. -/
  named : String
  recordDigest : String
deriving DecidableEq

inductive GatewayRouteProofObservationV1
  | exact (proof : StoreRouteProofV1)
  | inflight (proof : StoreRouteProofV1)
  | unavailable (reason : GatewayRouteProofUnavailableV1)
deriving DecidableEq

/-- `u64::try_from`. -/
def u64OfInt? (value : Int) : Option Nat := if 0 ≤ value then some value.toNat else none

/-- `freshness_requirement_holds_v1`. -/
def freshnessRequirementHolds (requirement : FreshnessRequirementV1) (executionStartedMs observedAtMs : Nat) : Bool :=
  executionStartedMs ≤ observedAtMs &&
    match requirement with
    | .snapshot => true
    | .maxAgeMillis maximum => observedAtMs - executionStartedMs ≤ maximum.toNat
    | .requireRevalidation => false

/-- `i64::to_le_bytes`. -/
def leI64 (value : Int) : Bytes := le64 (Int64.ofInt value).toUInt64

/-- `gateway_dependency_digest_v1`. -/
def gatewayDependencyDigest (dependencies : List GatewayDependencyV1) : String :=
  hexDigest blake3 (utf8 "again.gateway.dependencies.v1\x00" ++ dependencyBytes dependencies)

/-- The fields both record digests begin with. -/
def storeRecordFields (binding : ValidatedGatewayReadV1) (lease : InflightLease) : Bytes :=
  hashField binding.input.requestDigest ++ hashField binding.input.stateDigest ++ hashField binding.input.policyDigest ++
    hashField (binding.bindingDigest blake3) ++ hashField (gatewayDependencyDigest blake3 binding.input.dependencies) ++
    hashField lease.leaseId

/-- `exact_store_record_digest_v1`. -/
def exactStoreRecordDigest (binding : ValidatedGatewayReadV1) (lease : InflightLease) (gatewayResultId : String) :
    String :=
  hexDigest blake3 (utf8 "again.gateway.exact-store-record.v1\x00" ++ storeRecordFields blake3 binding lease ++
    hashField gatewayResultId ++ le64 (UInt64.ofNat lease.lifecycleGeneration) ++
    leI64 (lease.executionStartedMs.getD (-1)) ++ leI64 (lease.completedMs.getD (-1)))

/-- `inflight_store_record_digest_v1`. -/
def inflightStoreRecordDigest (binding : ValidatedGatewayReadV1) (lease : InflightLease) (observedAtMs : Nat) : String :=
  hexDigest blake3 (utf8 "again.gateway.inflight-store-record.v1\x00" ++ storeRecordFields blake3 binding lease ++
    le64 (UInt64.ofNat lease.lifecycleGeneration) ++ leI64 (lease.executionStartedMs.getD (-1)) ++
    le64 (UInt64.ofNat observedAtMs) ++ leI64 lease.expiresMs)

def routeProof (binding : ValidatedGatewayReadV1) (call : GatewayToolCallV1) (lease : InflightLease)
    (currentGeneration startedAtMs observedAtMs : Nat) (named recordDigest : String) : StoreRouteProofV1 :=
  { requestDigest := call.requestDigest
    bindingDigest := binding.bindingDigest blake3
    stateDigest := binding.input.stateDigest
    policyDigest := binding.input.policyDigest
    dependencyDigest := gatewayDependencyDigest blake3 binding.input.dependencies
    effect := call.effectClass
    freshness := call.freshness
    lifecycleGeneration := lease.lifecycleGeneration
    observedGeneration := currentGeneration
    executionStartedMs := startedAtMs
    observedAtMs
    named
    recordDigest }

/-- The lease holds the binding's digests. -/
def InflightLease.holds (lease : InflightLease) (binding : ValidatedGatewayReadV1) : Bool :=
  lease.requestDigest = binding.input.requestDigest && lease.stateDigest = binding.input.stateDigest &&
    lease.policyDigest = binding.input.policyDigest

/-- The proof for a ready result that may be served. -/
def exactRouteProof (db : Tables) (binding : ValidatedGatewayReadV1) (call : GatewayToolCallV1) (observedAtMs : Nat)
    (ready : GatewayResult) : Tx GatewayRouteProofObservationV1 :=
  match db.lease? ready.leaseId with
  | none => pure (.unavailable .bindingMismatch)
  | some lease =>
    match lease.executionStartedMs.bind u64OfInt? with
    | none => pure (.unavailable .executionNotStarted)
    | some startedAtMs =>
      match lease.completedMs.bind u64OfInt? with
      | none => pure (.unavailable .bindingMismatch)
      | some completedAtMs => do
        let currentGeneration ← okOr (db.maxGeneration (binding.bindingDigest blake3)) .generationMissing
        if lease.status ≠ .completed ∨ lease.gatewayResultId ≠ some ready.gatewayResultId ∨
            lease.holds binding = false ∨ lease.bindingDigest ≠ binding.bindingDigest blake3 ∨
            currentGeneration ≠ lease.lifecycleGeneration ∨ completedAtMs < startedAtMs ∨
            observedAtMs < completedAtMs ∨ freshnessRequirementHolds call.freshness startedAtMs observedAtMs = false then
          pure (.unavailable .freshness)
        else
          pure (.exact (routeProof blake3 binding call lease currentGeneration startedAtMs observedAtMs
            ready.gatewayResultId (exactStoreRecordDigest blake3 binding lease ready.gatewayResultId)))

/-- The proof for a call whose leader is executing. -/
def inflightRouteProof (db : Tables) (binding : ValidatedGatewayReadV1) (call : GatewayToolCallV1) (observedAtMs : Nat) :
    Tx GatewayRouteProofObservationV1 :=
  match (db.activeLease? (binding.bindingDigest blake3)).bind fun active => db.lease? active.leaseId with
  | none => pure (.unavailable .missing)
  | some lease =>
    match lease.executionStartedMs.bind u64OfInt? with
    | none => pure (.unavailable .executionNotStarted)
    | some startedAtMs => do
      let currentGeneration ← okOr (db.maxGeneration (binding.bindingDigest blake3)) .generationMissing
      if currentGeneration ≠ lease.lifecycleGeneration ∨ lease.holds binding = false ∨
          freshnessRequirementHolds call.freshness startedAtMs observedAtMs = false then
        pure (.unavailable .freshness)
      else
        pure (.inflight (routeProof blake3 binding call lease currentGeneration startedAtMs observedAtMs lease.leaseId
          (inflightStoreRecordDigest blake3 binding lease observedAtMs)))

/-- The queries of `observe_gateway_route_proof_v1` after the expiry. -/
def readRouteProof (outside : Outside) (binding : ValidatedGatewayReadV1) (call : GatewayToolCallV1)
    (observedAtMs : Nat) : Tx GatewayRouteProofObservationV1 := do
  let db ← get
  if db.isQuarantined (binding.bindingDigest blake3) then pure (.unavailable .quarantined)
  else
    match db.readyResult? (binding.bindingDigest blake3) with
    | some ready =>
      if gatewayResultIsServableV1 blake3 outside db binding ready.gatewayResultId = false then do
        quarantineInvalidGatewayResult ready.gatewayResultId outside.now
        pure (.unavailable .quarantined)
      else exactRouteProof blake3 db binding call observedAtMs ready
    | none => inflightRouteProof blake3 db binding call observedAtMs

/-- `Store::observe_gateway_route_proof_v1`. -/
def observeGatewayRouteProofV1 (outside : Outside) (binding : ValidatedGatewayReadV1) (call : GatewayToolCallV1) :
    Tx GatewayRouteProofObservationV1 := atomically do
  if call.requestDigest ≠ binding.input.requestDigest ∨
      call.effectClass ∉ [.snapshotRead, .freshnessBoundRead, .deterministicCompute] then
    pure (.unavailable .bindingMismatch)
  else if freshnessIsCurrent binding outside.now = false then pure (.unavailable .freshness)
  else do
    let observedAtMs ← okOr (u64OfInt? outside.now) .negativeObservationTime
    expireGatewayLeases outside.now (some (binding.bindingDigest blake3))
    readRouteProof blake3 outside binding call observedAtMs

/-! ## Settling -/

inductive GatewayCompletion
  | completed (callId gatewayResultId : String)
  | alreadyCompleted (callId gatewayResultId : String)
  | quarantined (callId existingGatewayResultId conflictingGatewayResultId : String)
  | refused (reason : GatewayRefusalReason)
deriving DecidableEq

/-- The row a completed lease publishes. -/
def InflightLease.publish (lease : InflightLease) (gatewayResultId : String) (result : StoredResult)
    (dependencies : List GatewayDependencyV1) (now : Int) : GatewayResult :=
  { gatewayResultId, dependencies
    requestDigest := lease.requestDigest
    stateDigest := lease.stateDigest
    policyDigest := lease.policyDigest
    bindingDigest := lease.bindingDigest
    resultId := result.id
    stdoutDigest := result.stdoutDigest
    stderrDigest := result.stderrDigest
    stdoutBytes := result.stdoutBytes
    stderrBytes := result.stderrBytes
    exitCode := result.exitCode
    durationMs := result.durationMs
    resultPolicyVersion := result.policyVersion
    proofDigest := hexDigest blake3 (utf8 result.proofJson)
    leaseId := lease.leaseId
    createdMs := now
    updatedMs := now }

/-- The writes of a completion that passed every check. -/
def publishGatewayResult (now : Int) (lease : InflightLease) (result : StoredResult)
    (dependencies : List GatewayDependencyV1) : Tx GatewayCompletion := do
  let gatewayResultId := lease.contentDigest blake3 result dependencies
  insertGatewayResult (lease.publish blake3 gatewayResultId result dependencies now)
  let changed ← updateLeases
    (fun l => l.leaseId = lease.leaseId ∧ l.status = .active ∧ l.executionStartedMs ≠ none) fun l =>
      { l with status := .completed, gatewayResultId := some gatewayResultId, completedMs := some now }
  refuseIf (changed ≠ 1) .completionCasFailed
  updateRequests (·.pendingOn lease.leaseId) fun q =>
    { q with status := .ready, gatewayResultId := some gatewayResultId, updatedMs := now }
  pure (.completed lease.callId gatewayResultId)

/-- `Store::complete_gateway_call`. -/
def completeGatewayCall (outside : Outside) (leaseId resultId : String) : Tx GatewayCompletion := atomically do
  let db ← get
  match db.lease? leaseId with
  | none => pure (.refused .leaseNotFound)
  | some lease =>
    match db.visibleResult? resultId with
    | none => pure (.refused .resultNotFound)
    | some result =>
      let dependencies := db.requestDependencies lease.callId
      let gatewayResultId := lease.contentDigest blake3 result dependencies
      if sourceResultBlobsValid blake3 outside result = false then pure (.refused .resultCorrupt)
      else if lease.status = .completed then
        if lease.gatewayResultId = some gatewayResultId then pure (.alreadyCompleted lease.callId gatewayResultId)
        else do
          quarantineGatewayDivergence lease outside.now
          pure (.quarantined lease.callId (lease.gatewayResultId.getD "") gatewayResultId)
      else if lease.status ≠ .active then pure (.refused (leaseRefusalForStatus lease.status))
      else if lease.expiresMs ≤ outside.now then do
        expireGatewayLeases outside.now (some lease.bindingDigest)
        pure (.refused .leaseExpired)
      else if lease.executionStartedMs = none then pure (.refused .executionNotStarted)
      else if result.requestKey ≠ lease.requestDigest ∨
          gatewayPolicyDigest blake3 result.policyVersion ≠ lease.policyDigest then pure (.refused .bindingMismatch)
      else publishGatewayResult blake3 outside.now lease result dependencies

inductive GatewayFailure
  | failed (callId : String)
  | refused (reason : GatewayRefusalReason)
deriving DecidableEq

/-- `Store::fail_gateway_call`. -/
def failGatewayCall (now : Int) (leaseId : String) (reason : GatewayFailureReason) : Tx GatewayFailure := atomically do
  let db ← get
  match db.lease? leaseId with
  | none => pure (.refused .leaseNotFound)
  | some lease =>
    if lease.status ≠ .active then pure (.refused (leaseRefusalForStatus lease.status))
    else if lease.expiresMs ≤ now then do
      expireGatewayLeases now (some lease.bindingDigest)
      pure (.refused .leaseExpired)
    else do
      let changed ← updateLeases (fun l => l.leaseId = leaseId ∧ l.status = .active) fun l =>
        { l with status := .failed, reason := some (.failure reason), completedMs := some now }
      if changed ≠ 1 then pure (.refused .leaseNotCurrent)
      else do
        updateRequests (·.pendingOn leaseId) fun q =>
          { q with status := .failed, reason := some (.failure reason), updatedMs := now }
        pure (.failed lease.callId)

inductive GatewayFollowerCancellation
  | cancelled | alreadyCancelled
  | refused (reason : GatewayRefusalReason)
deriving DecidableEq

/-- `Store::cancel_gateway_follower`. -/
def cancelGatewayFollower (now : Int) (callId : String) : Tx GatewayFollowerCancellation := atomically do
  let db ← get
  match db.gatewayRequest? callId with
  | none => pure (.refused .callNotFound)
  | some request =>
    if request.role ≠ .follower then pure (.refused .notFollower)
    else if request.status = .cancelled then pure .alreadyCancelled
    else if request.status ≠ .waiting then pure (.refused .alreadyTerminal)
    else do
      updateRequests (fun q => q.callId = callId ∧ q.status = .waiting) fun q =>
        { q with status := .cancelled, reason := some (.failure .cancelled), updatedMs := now }
      pure .cancelled

/-! ## Stored results -/

/-- `MAX_LOCAL_BLOB_BYTES`. -/
def maxLocalBlobBytes : Nat := 16 * 1024 * 1024

/-- What two results of one request key must agree on. -/
def StoredResult.agrees (a b : StoredResult) : Bool :=
  a.stdoutDigest = b.stdoutDigest && a.stderrDigest = b.stderrDigest && a.stdoutBytes = b.stdoutBytes &&
    a.stderrBytes = b.stderrBytes && a.exitCode = b.exitCode && a.policyVersion = b.policyVersion &&
    a.proofJson = b.proofJson

/-- The arguments of `insert_result`. -/
structure NewResult where
  requestKey : String
  stdout : Bytes
  stderr : Bytes
  exitCode : Int32
  durationMs : UInt64
  policyVersion : String
  proofJson : String

def NewResult.stored (new : NewResult) (id : String) : StoredResult :=
  { id
    requestKey := new.requestKey
    stdoutDigest := hexDigest blake3 new.stdout
    stderrDigest := hexDigest blake3 new.stderr
    stdoutBytes := UInt64.ofNat new.stdout.length
    stderrBytes := UInt64.ofNat new.stderr.length
    exitCode := new.exitCode
    durationMs := new.durationMs
    policyVersion := new.policyVersion
    proofJson := new.proofJson }

/-- `INSERT INTO results`, within the workspace's capacity. -/
def insertResultRow (capacity : Bool) (result : StoredResult) : Tx Unit := do
  refuseIf (capacity = false) .quotaExceeded
  refuseIf (i64Max < result.durationMs.toNat ∨ (← get).results.any fun r => r.result.id = result.id) .constraint
  modify fun db => { db with results := db.results ++ [{ result }] }

def Tables.quarantineSource (db : Tables) (resultId : String) : Tables :=
  { db with results := updateWhere (·.result.id = resultId) (fun r => { r with quarantined := true }) db.results }

/-- `Store::quarantine`. An unknown id changes nothing, and the reason is not read again. -/
def quarantine (resultId : String) : Tx Unit := modify (·.quarantineSource resultId)

/-- `Store::insert_result`. A mismatch is committed before it is reported, so
that report is a value of the transaction. `capacity` answers the two quota
checks, and the blobs are put into the content-addressed files before. -/
def insertResult (preflight capacity : Bool) (id : String) (new : NewResult) : Tx (Except StoreError StoredResult) :=
  atomically do
    refuseIf (preflight = false) .quotaExceeded
    refuseIf (maxLocalBlobBytes < new.stdout.length ∨ maxLocalBlobBytes < new.stderr.length) .blobTooLarge
    let result := new.stored blake3 id
    let db ← get
    match db.results.find? fun r => r.result.requestKey = new.requestKey with
    | some existing => do
      refuseIf (existing.quarantined = true) .requestKeyQuarantined
      if existing.result.agrees result then pure (.ok existing.result)
      else do
        quarantine existing.result.id
        pure (.error .differentialMismatch)
    | none => do
      insertResultRow capacity result
      pure (.ok result)

end

/-! ## Runs -/

/-- The operations of the coordinator, each with the fresh names it may use. -/
inductive CoordinatorOp
  | acquire (binding : ValidatedGatewayReadV1) (owner callId leaseId : String)
  | start (leaseId owner : String)
  | heartbeat (leaseId owner : String)
  | observe (binding : ValidatedGatewayReadV1)
  | observeRouteProof (binding : ValidatedGatewayReadV1) (call : GatewayToolCallV1)
  | complete (leaseId resultId : String)
  | fail (leaseId : String) (reason : GatewayFailureReason)
  | cancelFollower (callId : String)
  | store (preflight capacity : Bool) (id : String) (new : NewResult)
  | quarantine (resultId : String)

inductive CoordinatorReply
  | acquired (reply : GatewayCallAcquisition)
  | started (reply : GatewayExecutionStart)
  | extended (reply : GatewayHeartbeat)
  | observed (reply : GatewayCallObservation)
  | proved (reply : GatewayRouteProofObservationV1)
  | completed (reply : GatewayCompletion)
  | failed (reply : GatewayFailure)
  | cancelled (reply : GatewayFollowerCancellation)
  | inserted (reply : Except StoreError StoredResult)
  | quarantined

section
variable (blake3 : Bytes → Octets 32)

def CoordinatorOp.perform (outside : Outside) : CoordinatorOp → Tx CoordinatorReply
  | .acquire binding owner callId leaseId =>
    .acquired <$> acquireGatewayCall blake3 outside binding owner callId leaseId
  | .start leaseId owner => .started <$> startGatewayExecution outside.now leaseId owner
  | .heartbeat leaseId owner => .extended <$> heartbeatGatewayCall outside.now leaseId owner
  | .observe binding => .observed <$> observeGatewayCall blake3 outside binding
  | .observeRouteProof binding call => .proved <$> observeGatewayRouteProofV1 blake3 outside binding call
  | .complete leaseId resultId => .completed <$> completeGatewayCall blake3 outside leaseId resultId
  | .fail leaseId reason => .failed <$> failGatewayCall outside.now leaseId reason
  | .cancelFollower callId => .cancelled <$> cancelGatewayFollower outside.now callId
  | .store preflight capacity id new => .inserted <$> insertResult blake3 preflight capacity id new
  | .quarantine resultId => (fun _ => .quarantined) <$> Gateway.quarantine resultId

/-- The tables after one operation, whether it returned or failed. -/
def CoordinatorOp.next (op : CoordinatorOp) (outside : Outside) (db : Tables) : Tables :=
  match op.perform blake3 outside db with
  | .ok _ db' => db'
  | .error _ db' => db'

/-- The tables after operations that any owners and processes make one after the
other, each with its own reading of the clock and the files. -/
def coordinate (db : Tables) (steps : List (Outside × CoordinatorOp)) : Tables :=
  steps.foldl (fun db step => step.2.next blake3 step.1 db) db

end

end Again.Gateway
