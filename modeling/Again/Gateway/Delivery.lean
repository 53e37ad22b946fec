import Again.Gateway.Coordinator

/-!
# Delivery receipts and retrieval grants

`store.rs`: once a recipient has acknowledged a full delivery, the store keeps a
receipt and issues one grant to fetch the same bytes again, on the same
connection and within thirty seconds. Results are read back here, never
executed or reused.
-/

namespace Again.Gateway

open Lib

/-! ## What the live connection presents -/

structure DeliveryStreamsV1 where
  exactStatus : Int32
  stdoutDigest : String
  stdoutBytes : UInt64
  stderrDigest : String
  stderrBytes : UInt64
deriving DecidableEq

structure DeliveryBindingV1 where
  authorizationScopeDigest : String
  connectionDigest : String
  connectionGeneration : String
  agentId : String
  sessionId : String
  turnId : String
  callDigest : String
  responseRequestIdDigest : String
  resultDigest : String
  streams : DeliveryStreamsV1
  responseEnvelopeDigest : String
  compactionGeneration : UInt64
deriving DecidableEq

structure ConfirmedDeliveryV1 where
  challengeId : String
  gatewayResultId : String
  binding : DeliveryBindingV1
deriving DecidableEq

structure RecipientRetrievalAuthorityV2 where
  grantId : String
  token : String
  gatewayResultId : String
  expiresAtMs : Int
  authorizationScopeDigest : String
  connectionDigest : String
  connectionGeneration : String
  agentId : String
  sessionId : String
  turnId : String
  compactionGeneration : UInt64
deriving DecidableEq

structure RecipientConnectionRetirementV2 where
  authorizationScopeDigest : String
  connectionDigest : String
  connectionGeneration : String
  compactionGeneration : UInt64
deriving DecidableEq

structure StoreRetrievalGrantV2 where
  grantId : String
  token : String
  gatewayResultId : String
  expiresAtMs : Int
deriving DecidableEq

structure GatewayFullResultV1 where
  gatewayResultId : String
  result : StoredResult
  stdout : Bytes
  stderr : Bytes
  dependencies : List GatewayDependencyV1
deriving DecidableEq

/-! ## Tokens -/

def retrievalGrantTtlMs : Int := 30000

/-- The message whose digest stands for a token. -/
def tokenBytes (token : String) : Bytes :=
  utf8 "again.gateway.retrieval-token.v2\x00" ++ be64 (UInt64.ofNat (utf8 token).length) ++ utf8 token

/-- `delivery_token_digest_v2`. -/
def deliveryTokenDigest (blake3 : Bytes → Octets 32) (token : String) : String := hexDigest blake3 (tokenBytes token)

/-- `constant_time_digest_eq_v2`. -/
def constantTimeDigestEq (left right : Bytes) : Bool :=
  left.length = right.length &&
    (left.zip right).foldl (fun difference pair => difference ||| (pair.1 ^^^ pair.2)) (0 : UInt8) = 0

theorem foldl_difference_eq_zero (difference : UInt8) (pairs : List (UInt8 × UInt8)) :
    pairs.foldl (fun difference pair => difference ||| (pair.1 ^^^ pair.2)) difference = 0 ↔
      difference = 0 ∧ ∀ pair ∈ pairs, pair.1 = pair.2 := by
  induction pairs generalizing difference with
  | nil => simp
  | cons pair pairs ih =>
    rw [List.foldl_cons, ih, UInt8.or_eq_zero_iff, UInt8.xor_eq_zero_iff]
    simp [and_assoc]

theorem constantTimeDigestEq_iff (left right : Bytes) : constantTimeDigestEq left right = true ↔ left = right := by
  unfold constantTimeDigestEq
  rw [Bool.and_eq_true, decide_eq_true_eq, decide_eq_true_eq, foldl_difference_eq_zero]
  constructor
  · rintro ⟨hlength, -, hpairs⟩
    induction left generalizing right with
    | nil => exact (List.length_eq_zero_iff.1 hlength.symm).symm
    | cons a left ih =>
      cases right with
      | nil => simp at hlength
      | cons b right =>
        have hhead : a = b := hpairs (a, b) (by simp)
        have htail : left = right := ih right (by simpa using hlength) fun pair hpair => hpairs pair (by simp [hpair])
        rw [hhead, htail]
  · rintro rfl
    refine ⟨rfl, rfl, fun pair hpair => ?_⟩
    have hzip : left.zip left = left.map fun a => (a, a) := by
      simpa using List.zip_map' (f := id) (g := id) (l := left)
    rw [hzip] at hpair
    obtain ⟨a, -, rfl⟩ := List.mem_map.1 hpair
    rfl

/-! ## Grants -/

/-- The checks of `gateway_retrieval_grants_v2` on the times of a row. -/
def RetrievalGrant.timesHold (grant : RetrievalGrant) : Bool :=
  grant.issuedMs < grant.expiresMs && grant.consumedMs.all (grant.issuedMs ≤ ·) &&
    grant.retired.all (grant.issuedMs ≤ ·.1) && (grant.consumedMs.isNone || grant.retired.isNone)

/-- `consumed_ms IS NULL AND retired_ms IS NULL`. -/
def RetrievalGrant.outstanding (grant : RetrievalGrant) : Bool := grant.consumedMs.isNone && grant.retired.isNone

def Tables.grant? (db : Tables) (grantId : String) : Option RetrievalGrant :=
  db.retrievalGrants.find? fun g => g.grantId = grantId

/-- `UPDATE gateway_retrieval_grants_v2`, with the number of rows changed; a row that breaks a check aborts it. -/
def updateGrants (sel : RetrievalGrant → Bool) (write : RetrievalGrant → RetrievalGrant) : Tx Nat := do
  refuseIf ((← get).retrievalGrants.any fun g => sel g && !(write g).timesHold) .constraint
  modifyGet fun db =>
    (db.retrievalGrants.countP sel, { db with retrievalGrants := updateWhere sel write db.retrievalGrants })

/-- Retire outstanding grants. -/
def retireGrants (sel : RetrievalGrant → Bool) (now : Int) (reason : RetireReason) : Tx Nat :=
  updateGrants (fun g => sel g && g.outstanding) fun g => { g with retired := some (now, reason) }

section
variable (blake3 : Bytes → Octets 32)

/-! ## Confirming a delivery -/

/-- `CHECK(length(..) BETWEEN 1 AND 128)`. -/
def checkedText (text : String) : Bool := 1 ≤ sqlLength text && sqlLength text ≤ 128

def ConfirmedDeliveryV1.receipt (delivery : ConfirmedDeliveryV1) (receiptId : String) (now : Int) : DeliveryReceipt :=
  let binding := delivery.binding
  { receiptId
    challengeId := delivery.challengeId
    authorizationScopeDigest := binding.authorizationScopeDigest
    connectionDigest := binding.connectionDigest
    connectionGeneration := binding.connectionGeneration
    sessionId := binding.sessionId
    turnId := binding.turnId
    agentId := binding.agentId
    compactionGeneration := binding.compactionGeneration
    responseRequestIdDigest := binding.responseRequestIdDigest
    callDigest := binding.callDigest
    gatewayResultId := delivery.gatewayResultId
    resultDigest := binding.resultDigest
    exactStatus := binding.streams.exactStatus
    stdoutDigest := binding.streams.stdoutDigest
    stdoutBytes := binding.streams.stdoutBytes
    stderrDigest := binding.streams.stderrDigest
    stderrBytes := binding.streams.stderrBytes
    responseEnvelopeDigest := binding.responseEnvelopeDigest
    acknowledgedMs := now }

/-- `INSERT OR IGNORE INTO gateway_delivery_receipts_v2`, refused when the row was ignored. -/
def insertReceipt (new : DeliveryReceipt) : Tx Unit := do
  refuseIf ((← get).deliveryReceipts.any (fun r => r.receiptId = new.receiptId ∨ r.challengeId = new.challengeId) ∨
    [new.receiptId, new.challengeId, new.sessionId, new.turnId, new.agentId].all checkedText = false)
    (.delivery .acknowledgementReplayed)
  modify fun db => { db with deliveryReceipts := db.deliveryReceipts ++ [new] }

def ConfirmedDeliveryV1.grant (delivery : ConfirmedDeliveryV1) (receiptId grantId token : String) (now : Int) :
    RetrievalGrant :=
  let binding := delivery.binding
  { grantId
    tokenDigest := deliveryTokenDigest blake3 token
    sourceReceiptId := receiptId
    authorizationScopeDigest := binding.authorizationScopeDigest
    connectionDigest := binding.connectionDigest
    connectionGeneration := binding.connectionGeneration
    sessionId := binding.sessionId
    turnId := binding.turnId
    agentId := binding.agentId
    compactionGeneration := binding.compactionGeneration
    gatewayResultId := delivery.gatewayResultId
    issuedMs := now
    expiresMs := now + retrievalGrantTtlMs }

/-- `INSERT INTO gateway_retrieval_grants_v2`. -/
def insertGrant (new : RetrievalGrant) : Tx Unit := do
  refuseIf ((← get).retrievalGrants.any (fun g => g.grantId = new.grantId ∨ g.tokenDigest = new.tokenDigest) ∨
    checkedText new.grantId = false ∨ new.timesHold = false) .constraint
  modify fun db => { db with retrievalGrants := db.retrievalGrants ++ [new] }

/-- The result is the one the recipient acknowledged. -/
def DeliveryStreamsV1.describe (streams : DeliveryStreamsV1) (result : StoredResult) : Bool :=
  result.exitCode = streams.exactStatus && result.stdoutDigest = streams.stdoutDigest &&
    result.stdoutBytes = streams.stdoutBytes && result.stderrDigest = streams.stderrDigest &&
    result.stderrBytes = streams.stderrBytes

/-- `confirm_gateway_delivery_and_issue_retrieval_v2`, under the fresh names it makes. -/
def confirmGatewayDeliveryAndIssueRetrievalV2 (outside : Outside) (delivery : ConfirmedDeliveryV1)
    (receiptId grantId token : String) : Tx StoreRetrievalGrantV2 := atomically do
  let binding := delivery.binding
  refuseIf ([delivery.gatewayResultId, binding.authorizationScopeDigest, binding.connectionDigest,
    binding.connectionGeneration, binding.callDigest, binding.responseRequestIdDigest, binding.resultDigest,
    binding.streams.stdoutDigest, binding.streams.stderrDigest, binding.responseEnvelopeDigest].all validDigest = false)
    (.invalidDigest "delivery authority digest")
  refuseIf (delivery.gatewayResultId ≠ binding.resultDigest ∨ i64Max < binding.compactionGeneration.toNat ∨
    i64Max < binding.streams.stdoutBytes.toNat ∨ i64Max < binding.streams.stderrBytes.toNat) (.delivery .invalidBinding)
  refuseIf (i64Max < outside.now + retrievalGrantTtlMs) (.delivery .invalidBinding)
  let db ← get
  let (result, _) ← attempt (loadGatewayResultUnboundSnapshotV2 blake3 db delivery.gatewayResultId)
  refuseIf (binding.streams.describe result = false) (.delivery .invalidBinding)
  let _ ← attempt (resultBlobs blake3 outside result (.delivery .invalidBinding))
  insertReceipt (delivery.receipt receiptId outside.now)
  insertGrant (delivery.grant blake3 receiptId grantId token outside.now)
  pure { grantId, token, gatewayResultId := delivery.gatewayResultId, expiresAtMs := outside.now + retrievalGrantTtlMs }

/-! ## Consuming a grant -/

/-- The authority presents the grant's token and every field it was bound to. -/
def RecipientRetrievalAuthorityV2.presents (authority : RecipientRetrievalAuthorityV2) (grant : RetrievalGrant) : Bool :=
  constantTimeDigestEq (utf8 grant.tokenDigest) (utf8 (deliveryTokenDigest blake3 authority.token)) &&
    grant.authorizationScopeDigest = authority.authorizationScopeDigest &&
    grant.connectionDigest = authority.connectionDigest &&
    grant.connectionGeneration = authority.connectionGeneration && grant.sessionId = authority.sessionId &&
    grant.turnId = authority.turnId && grant.agentId = authority.agentId &&
    grant.compactionGeneration = authority.compactionGeneration &&
    grant.gatewayResultId = authority.gatewayResultId && grant.expiresMs = authority.expiresAtMs

/-- The receipt the grant was issued from. -/
def DeliveryReceipt.sources (receipt : DeliveryReceipt) (grant : RetrievalGrant) : Bool :=
  receipt.receiptId = grant.sourceReceiptId && receipt.authorizationScopeDigest = grant.authorizationScopeDigest &&
    receipt.connectionDigest = grant.connectionDigest && receipt.connectionGeneration = grant.connectionGeneration &&
    receipt.sessionId = grant.sessionId && receipt.turnId = grant.turnId && receipt.agentId = grant.agentId &&
    receipt.compactionGeneration = grant.compactionGeneration && receipt.gatewayResultId = grant.gatewayResultId &&
    receipt.resultDigest = grant.gatewayResultId

/-- The result and its bytes, checked again along the whole chain. -/
def loadFullResult (outside : Outside) (db : Tables) (gatewayResultId : String) :
    Except StoreError GatewayFullResultV1 := do
  let (result, dependencies) ← loadGatewayResultUnboundSnapshotV2 blake3 db gatewayResultId
  let (stdout, stderr) ← resultBlobs blake3 outside result (.delivery .invalidBinding)
  pure { gatewayResultId, result, stdout, stderr, dependencies }

def RecipientRetrievalAuthorityV2.malformed (authority : RecipientRetrievalAuthorityV2) : Bool :=
  authority.grantId.isEmpty || 128 < (utf8 authority.grantId).length || authority.token.isEmpty ||
    128 < (utf8 authority.token).length || authority.expiresAtMs ≤ 0 ||
    i64Max < authority.compactionGeneration.toNat

/-- What a grant that is neither spent nor expired is good for. -/
def redeemGrant (outside : Outside) (authority : RecipientRetrievalAuthorityV2) (grant : RetrievalGrant) :
    Tx (Except StoreError GatewayFullResultV1) := do
  refuseIf (authority.presents blake3 grant = false) (.delivery .invalidBinding)
  let db ← get
  refuseIf (db.deliveryReceipts.any (·.sources grant) = false) (.delivery .invalidBinding)
  match loadFullResult blake3 outside db grant.gatewayResultId with
  | .error _ => do
    let _ ← retireGrants (·.gatewayResultId = grant.gatewayResultId) outside.now .integrityRefused
    pure (.error (.delivery .invalidBinding))
  | .ok full => do
    let changed ← updateGrants (fun g => g.grantId = authority.grantId ∧ g.outstanding ∧ outside.now < g.expiresMs)
      fun g => { g with consumedMs := some outside.now }
    refuseIf (changed ≠ 1) (.delivery .retired)
    pure (.ok full)

/-- `consume_gateway_retrieval_grant_v2`. A refusal that retires grants is
committed first, so it is a value of the transaction. -/
def consumeGatewayRetrievalGrantV2 (outside : Outside) (authority : RecipientRetrievalAuthorityV2) :
    Tx (Except StoreError GatewayFullResultV1) := atomically do
  refuseIf (authority.malformed = true) (.delivery .invalidBinding)
  refuseIf (validDigest authority.gatewayResultId = false) (.invalidDigest "gateway result digest")
  refuseIf ([authority.authorizationScopeDigest, authority.connectionDigest,
    authority.connectionGeneration].all validDigest = false) (.invalidDigest "retrieval authority digest")
  let db ← get
  let grant ← okOr (db.grant? authority.grantId) (.delivery .retired)
  refuseIf (grant.consumedMs.isSome = true) (.delivery .acknowledgementReplayed)
  refuseIf (grant.retired.isSome = true) (.delivery .retired)
  if grant.expiresMs ≤ outside.now then do
    let _ ← retireGrants (·.grantId = authority.grantId) outside.now .expired
    pure (.error (.delivery .retired))
  else redeemGrant blake3 outside authority grant

/-- `Store::get_gateway_result`, for the holder of the binding. -/
def getGatewayResult (outside : Outside) (db : Tables) (binding : ValidatedGatewayReadV1) (gatewayResultId : String) :
    Except StoreError (Option GatewayFullResultV1) := do
  rejectIf (validDigest gatewayResultId = false) (.invalidDigest "gateway result digest")
  if db.gatewayResults.any fun r => r.gatewayResultId = gatewayResultId ∧ r.status = .ready then
    match loadGatewayResultWithOriginV1 blake3 db binding gatewayResultId with
    | .ok (some result) => do
      let (stdout, stderr) ← resultBlobs blake3 outside result .blobLengthMismatch
      pure (some { gatewayResultId, result, stdout, stderr, dependencies := db.resultDependencies gatewayResultId })
    | _ => .error (.refusal .resultCorrupt)
  else pure none

/-! ## Retiring grants -/

/-- The grant was issued on this connection, in this compaction generation. -/
def RecipientConnectionRetirementV2.covers (retirement : RecipientConnectionRetirementV2) (grant : RetrievalGrant) :
    Bool :=
  grant.authorizationScopeDigest = retirement.authorizationScopeDigest &&
    grant.connectionDigest = retirement.connectionDigest &&
    grant.connectionGeneration = retirement.connectionGeneration &&
    grant.compactionGeneration = retirement.compactionGeneration

/-- `retire_gateway_retrieval_grants_v2`. -/
def retireGatewayRetrievalGrantsV2 (now : Int) (retirement : RecipientConnectionRetirementV2) (reason : RetireReason) :
    Tx Nat := atomically do
  refuseIf (reason ∉ [.connectionClosed, .contextCompacted, .requestCancelled] ∨
    i64Max < retirement.compactionGeneration.toNat) (.delivery .invalidBinding)
  refuseIf ([retirement.authorizationScopeDigest, retirement.connectionDigest,
    retirement.connectionGeneration].all validDigest = false) (.invalidDigest "retrieval retirement digest")
  retireGrants retirement.covers now reason

end

end Again.Gateway
