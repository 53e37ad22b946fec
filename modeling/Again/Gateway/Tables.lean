import Again.Lib.Ascii
import Again.Lib.Hex
import Again.Lib.Refusal
import Again.Lib.SelfDelimiting

/-!
# The gateway's tables

`store.rs`: the rows of the local store that coordinate gateway calls and hand
their results on, the validated binding every call is made under, and the
digests that name bindings and results. A table is the list of its rows in the
order of their insertion. The rows of `gateway_request_dependencies` and
`result_dependencies` are kept, in the order of their ordinals, inside the row
they belong to. BLAKE3 and the content-addressed files are parameters.
-/

namespace Again.Gateway

open Lib

/-- What an operation reads outside the database. -/
structure Outside where
  /-- `now_ms()`. -/
  now : Int
  /-- `read_blob_bounded` of the file a digest names, when there is such a file. -/
  blobFile : String → Option Bytes

/-- `blake3::Hasher::new().update(..).finalize().to_hex()`. -/
def hexDigest (blake3 : Bytes → Octets 32) (bytes : Bytes) : String := toHex (blake3 bytes).val

/-- `length(..)` of a text in SQLite: its characters before the first NUL. -/
def sqlLength (text : String) : Nat := (text.toList.takeWhile (· ≠ '\x00')).length

/-- `i64::MAX`. -/
def i64Max : Int := 9223372036854775807

/-- `i64::saturating_add`. -/
def saturatingAdd (a b : Int) : Int := max (-i64Max - 1) (min i64Max (a + b))

/-- `validate_digest`: exactly 64 lowercase hexadecimal characters. -/
def validDigest (value : String) : Bool :=
  (utf8 value).length = 64 && (utf8 value).all fun b => isAsciiDigit b || 97 ≤ b && b ≤ 102

/-- `validate_gateway_owner`. -/
def validGatewayOwner (owner : String) : Bool :=
  !owner.isEmpty && (utf8 owner).length ≤ 128 && (utf8 owner).all fun b =>
    isAsciiAlphanumeric b || b = 46 || b = 95 || b = 45 || b = 58 || b = 64

/-! ## Bindings -/

structure GatewayDependencyV1 where
  keyDigest : String
  valueDigest : String
deriving DecidableEq

inductive GatewayOperationDispositionV1
  | replayEligibleRead | mutation | unknown
deriving DecidableEq

structure GatewayFreshnessEvidenceV1 where
  snapshotDigest : String
  observedAtMs : Int
  validUntilMs : Int
deriving DecidableEq

structure GatewayCoordinatorInputV1 where
  requestDigest : String
  stateDigest : String
  policyDigest : String
  operation : GatewayOperationDispositionV1
  freshness : GatewayFreshnessEvidenceV1
  dependencies : List GatewayDependencyV1
deriving DecidableEq

def gatewayFreshnessMaxMs : Int := 5 * 60000
def gatewayMaxDependencies : Nat := 64
def gatewayLeaseTtlMs : Int := 30000

/-- `pair[0].key_digest >= pair[1].key_digest` for some neighbours. -/
def unorderedDependencies : List GatewayDependencyV1 → Bool
  | a :: b :: rest => b.keyDigest ≤ a.keyDigest || unorderedDependencies (b :: rest)
  | _ => false

/-- What `ValidatedGatewayReadV1::validate` checks. -/
def GatewayCoordinatorInputV1.admitted (input : GatewayCoordinatorInputV1) : Bool :=
  validDigest input.requestDigest && validDigest input.stateDigest && validDigest input.policyDigest &&
  validDigest input.freshness.snapshotDigest && input.freshness.snapshotDigest = input.stateDigest &&
  input.operation = .replayEligibleRead && input.dependencies.length ≤ gatewayMaxDependencies &&
  (input.dependencies.all fun d => validDigest d.keyDigest && validDigest d.valueDigest) &&
  !unorderedDependencies input.dependencies &&
  0 ≤ input.freshness.observedAtMs && input.freshness.observedAtMs ≤ input.freshness.validUntilMs &&
  input.freshness.validUntilMs ≤ i64Max &&
  input.freshness.validUntilMs - input.freshness.observedAtMs ≤ gatewayFreshnessMaxMs

/-- `hash_field`: the length as eight bytes, then the bytes. -/
def hashField (value : String) : Bytes := putString value

def dependencyBytes (dependencies : List GatewayDependencyV1) : Bytes :=
  putList (fun d => hashField d.keyDigest ++ hashField d.valueDigest) dependencies

section Digests
variable (blake3 : Bytes → Octets 32)

/-- `gateway_binding_content_digest`. -/
def gatewayBindingContentDigest (requestDigest stateDigest policyDigest : String)
    (dependencies : List GatewayDependencyV1) : String :=
  hexDigest blake3 (utf8 "again.gateway.binding.v1\x00" ++ hashField requestDigest ++ hashField stateDigest ++
    hashField policyDigest ++ hashField "replay_eligible_read" ++ dependencyBytes dependencies)

/-- `gateway_policy_digest`. -/
def gatewayPolicyDigest (policyVersion : String) : String :=
  hexDigest blake3 (utf8 "again.gateway.policy.v1\x00" ++ hashField policyVersion)

end Digests

/-- An admitted replay-eligible read. -/
structure ValidatedGatewayReadV1 where
  input : GatewayCoordinatorInputV1
  admitted : input.admitted = true

/-- `binding_digest`. -/
def ValidatedGatewayReadV1.bindingDigest (blake3 : Bytes → Octets 32) (binding : ValidatedGatewayReadV1) : String :=
  gatewayBindingContentDigest blake3 binding.input.requestDigest binding.input.stateDigest binding.input.policyDigest
    binding.input.dependencies

/-- `freshness_is_current`. -/
def freshnessIsCurrent (binding : ValidatedGatewayReadV1) (now : Int) : Bool :=
  binding.input.freshness.observedAtMs ≤ now && now ≤ binding.input.freshness.validUntilMs &&
    binding.input.freshness.validUntilMs - binding.input.freshness.observedAtMs ≤ gatewayFreshnessMaxMs

/-! ## Rows -/

/-- A row of `results`. -/
structure StoredResult where
  id : String
  requestKey : String
  stdoutDigest : String
  stderrDigest : String
  stdoutBytes : UInt64
  stderrBytes : UInt64
  exitCode : Int32
  durationMs : UInt64
  policyVersion : String
  proofJson : String
deriving DecidableEq

structure ResultRow where
  result : StoredResult
  quarantined : Bool := false
deriving DecidableEq

inductive GatewayRequestRole
  | leader | follower | ready | refused
deriving DecidableEq

inductive GatewayRequestStatus
  | inflight | waiting | ready | failed | cancelled | quarantined
deriving DecidableEq

inductive GatewayFailureReason
  | providerUnavailable | transport | deadline | cancelled | protocol | internal
deriving DecidableEq

/-- The texts a `reason` column holds, and the one that stands for a missing one. -/
inductive GatewayRowReason
  | failure (reason : GatewayFailureReason)
  | resultCorrupt | divergentResult | bindingMismatch
deriving DecidableEq

/-- A row of `gateway_requests`. -/
structure GatewayRequest where
  callId : String
  requestDigest : String
  stateDigest : String
  policyDigest : String
  bindingDigest : String
  freshnessValidUntilMs : Int
  owner : String
  role : GatewayRequestRole
  status : GatewayRequestStatus
  joinedLeaseId : Option String
  gatewayResultId : Option String
  reason : Option GatewayRowReason := none
  createdMs : Int
  updatedMs : Int
  dependencies : List GatewayDependencyV1
deriving DecidableEq

inductive GatewayLeaseStatus
  | active | completed | failed | expired | quarantined
deriving DecidableEq

/-- A row of `inflight_leases`. -/
structure InflightLease where
  leaseId : String
  callId : String
  requestDigest : String
  stateDigest : String
  policyDigest : String
  bindingDigest : String
  freshnessValidUntilMs : Int
  owner : String
  status : GatewayLeaseStatus := .active
  gatewayResultId : Option String := none
  reason : Option GatewayRowReason := none
  acquiredMs : Int
  heartbeatMs : Int
  expiresMs : Int
  executionStartedMs : Option Int := none
  completedMs : Option Int := none
  lifecycleGeneration : Nat
deriving DecidableEq

inductive GatewayResultStatus
  | ready | quarantined
deriving DecidableEq

/-- A row of `gateway_results`. -/
structure GatewayResult where
  gatewayResultId : String
  requestDigest : String
  stateDigest : String
  policyDigest : String
  bindingDigest : String
  resultId : String
  stdoutDigest : String
  stderrDigest : String
  stdoutBytes : UInt64
  stderrBytes : UInt64
  exitCode : Int32
  durationMs : UInt64
  resultPolicyVersion : String
  proofDigest : String
  leaseId : String
  status : GatewayResultStatus := .ready
  quarantineReason : Option GatewayRowReason := none
  createdMs : Int
  updatedMs : Int
  dependencies : List GatewayDependencyV1
deriving DecidableEq

/-- A row of `gateway_delivery_receipts_v2` of a full presentation. -/
structure DeliveryReceipt where
  receiptId : String
  challengeId : String
  authorizationScopeDigest : String
  connectionDigest : String
  connectionGeneration : String
  sessionId : String
  turnId : String
  agentId : String
  compactionGeneration : UInt64
  responseRequestIdDigest : String
  callDigest : String
  gatewayResultId : String
  resultDigest : String
  exactStatus : Int32
  stdoutDigest : String
  stdoutBytes : UInt64
  stderrDigest : String
  stderrBytes : UInt64
  responseEnvelopeDigest : String
  acknowledgedMs : Int
deriving DecidableEq

inductive RetireReason
  | expired | integrityRefused | connectionClosed | contextCompacted | requestCancelled
deriving DecidableEq

/-- A row of `gateway_retrieval_grants_v2`. -/
structure RetrievalGrant where
  grantId : String
  tokenDigest : String
  sourceReceiptId : String
  authorizationScopeDigest : String
  connectionDigest : String
  connectionGeneration : String
  sessionId : String
  turnId : String
  agentId : String
  compactionGeneration : UInt64
  gatewayResultId : String
  issuedMs : Int
  expiresMs : Int
  consumedMs : Option Int := none
  retired : Option (Int × RetireReason) := none
deriving DecidableEq

/-- The store's gateway tables. -/
structure Tables where
  results : List ResultRow := []
  gatewayRequests : List GatewayRequest := []
  gatewayResults : List GatewayResult := []
  inflightLeases : List InflightLease := []
  deliveryReceipts : List DeliveryReceipt := []
  retrievalGrants : List RetrievalGrant := []
deriving DecidableEq

/-! ## Errors -/

inductive GatewayRefusalReason
  | invalidCallKey | invalidStateDigest | invalidOwner | invalidAgentContext | quarantined | callNotFound
  | leaseNotFound | leaseExpired | leaseNotCurrent | ownerMismatch | notFollower | resultNotFound
  | alreadyTerminal | executionNotStarted | bindingMismatch | freshnessExpired | resultCorrupt
deriving DecidableEq

inductive DeliveryAuthorityRefusalV1
  | invalidBinding | acknowledgementReplayed | retired
deriving DecidableEq

/-- What an operation fails with; its transaction is then rolled back. -/
inductive StoreError
  | refusal (reason : GatewayRefusalReason)
  | delivery (reason : DeliveryAuthorityRefusalV1)
  | invalidDigest (label : String)
  /-- A constraint of the schema. -/
  | constraint
  | generationExhausted
  | generationMissing
  | negativeObservationTime
  | completionCasFailed
  | resultRowNotBound
  | resultSourceMissing
  | resultSourceDrifted
  | resultContentMismatch
  | blobUnreadable
  | blobLengthMismatch
  | blobTooLarge
  | requestKeyQuarantined
  | differentialMismatch
  | quotaExceeded
deriving DecidableEq

/-- A transaction at work. -/
abbrev Tx := EStateM StoreError Tables

end Again.Gateway
