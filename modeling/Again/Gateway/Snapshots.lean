import Again.Gateway.Tables

/-!
# Reading a ready result back

A ready row is served only after the chain that published it has been checked
again: the stored result it was made from, the lease that completed it, the
request of that lease's leader, the dependencies and the content address. The
store has two loaders, one for a caller that holds the admitted binding and one
for a caller that holds a recipient's authority.
-/

namespace Again.Gateway

open Lib

namespace Tables

variable (db : Tables)

/-- `gateway_lease_row_v1`. -/
def lease? (leaseId : String) : Option InflightLease := db.inflightLeases.find? fun l => l.leaseId = leaseId

/-- `SELECT MAX(lifecycle_generation) FROM inflight_leases WHERE binding_digest = ?`. -/
def maxGeneration (bindingDigest : String) : Option Nat :=
  ((db.inflightLeases.filter fun l => l.bindingDigest = bindingDigest).map (·.lifecycleGeneration)).max?

def gatewayResult? (gatewayResultId : String) : Option GatewayResult :=
  db.gatewayResults.find? fun r => r.gatewayResultId = gatewayResultId

def gatewayRequest? (callId : String) : Option GatewayRequest := db.gatewayRequests.find? fun q => q.callId = callId

def resultRow? (resultId : String) : Option ResultRow := db.results.find? fun r => r.result.id = resultId

/-- `load_visible_result_tx`. -/
def visibleResult? (resultId : String) : Option StoredResult :=
  (db.results.find? fun r => r.result.id = resultId ∧ r.quarantined = false).map (·.result)

/-- `load_request_dependencies_v1`. -/
def requestDependencies (callId : String) : List GatewayDependencyV1 :=
  ((db.gatewayRequest? callId).map (·.dependencies)).getD []

/-- `load_result_dependencies_v1`. -/
def resultDependencies (gatewayResultId : String) : List GatewayDependencyV1 :=
  ((db.gatewayResult? gatewayResultId).map (·.dependencies)).getD []

end Tables

section
variable (blake3 : Bytes → Octets 32)

/-- `Store::get_blob`. -/
def getBlob (outside : Outside) (digest : String) : Option Bytes :=
  if (utf8 digest).length = 64 && (utf8 digest).all isAsciiHexdigit then
    (outside.blobFile digest).filter fun bytes => hexDigest blake3 bytes = digest
  else none

/-- The two blobs of a result, when both are there with the recorded lengths; `mismatch` is the caller's error. -/
def resultBlobs (outside : Outside) (result : StoredResult) (mismatch : StoreError) :
    Except StoreError (Bytes × Bytes) := do
  let stdout ← requireSome (getBlob blake3 outside result.stdoutDigest) .blobUnreadable
  let stderr ← requireSome (getBlob blake3 outside result.stderrDigest) .blobUnreadable
  rejectIf (stdout.length ≠ result.stdoutBytes.toNat ∨ stderr.length ≠ result.stderrBytes.toNat) mismatch
  pure (stdout, stderr)

/-- `source_result_blobs_valid_v1`. -/
def sourceResultBlobsValid (outside : Outside) (result : StoredResult) : Bool :=
  (resultBlobs blake3 outside result .blobLengthMismatch).toBool

/-- `i32::to_le_bytes`. -/
def le32 (v : Int32) : Bytes := (beBytes 4 v.toUInt32.toNat).reverse

/-- `gateway_result_content_digest`, with the digests of the lease it reads. -/
def gatewayResultContentDigest (bindingDigest requestDigest stateDigest policyDigest : String) (result : StoredResult)
    (dependencies : List GatewayDependencyV1) : String :=
  hexDigest blake3 (utf8 "again.gateway.result.v1\x00" ++ hashField bindingDigest ++ hashField requestDigest ++
    hashField stateDigest ++ hashField policyDigest ++ hashField result.stdoutDigest ++ hashField result.stderrDigest ++
    le64 result.stdoutBytes ++ le64 result.stderrBytes ++ le32 result.exitCode ++ le64 result.durationMs ++
    hashField result.policyVersion ++ hashField result.proofJson ++ dependencyBytes dependencies)

def InflightLease.contentDigest (lease : InflightLease) (result : StoredResult)
    (dependencies : List GatewayDependencyV1) : String :=
  gatewayResultContentDigest blake3 lease.bindingDigest lease.requestDigest lease.stateDigest lease.policyDigest result
    dependencies

/-- The stored result is the one the row was published from. -/
def GatewayResult.matchesSource (row : GatewayResult) (result : StoredResult) : Bool :=
  result.requestKey = row.requestDigest && result.stdoutDigest = row.stdoutDigest &&
    result.stderrDigest = row.stderrDigest && result.stdoutBytes = row.stdoutBytes &&
    result.stderrBytes = row.stderrBytes && result.exitCode = row.exitCode && result.durationMs = row.durationMs &&
    result.policyVersion = row.resultPolicyVersion && hexDigest blake3 (utf8 result.proofJson) = row.proofDigest

/-! ## For the holder of the binding -/

/-- `load_gateway_result_snapshot_v1`. -/
def loadGatewayResultSnapshotV1 (db : Tables) (binding : ValidatedGatewayReadV1) (gatewayResultId : String) :
    Except StoreError (Option StoredResult) :=
  match db.gatewayResults.find? fun r => r.gatewayResultId = gatewayResultId ∧ r.status = .ready with
  | none => pure none
  | some row => do
    rejectIf (row.requestDigest ≠ binding.input.requestDigest ∨ row.stateDigest ≠ binding.input.stateDigest ∨
      row.policyDigest ≠ binding.input.policyDigest ∨ row.bindingDigest ≠ binding.bindingDigest blake3) .resultRowNotBound
    let result ← requireSome (db.visibleResult? row.resultId) .resultSourceMissing
    rejectIf (row.matchesSource blake3 result = false) .resultSourceDrifted
    rejectIf (gatewayResultContentDigest blake3 row.bindingDigest row.requestDigest row.stateDigest row.policyDigest
      result (db.resultDependencies gatewayResultId) ≠ gatewayResultId) .resultContentMismatch
    pure (some result)

/-- The lease of a ready row completed it, for this binding, and no later lease was acquired. -/
def InflightLease.completes (lease : InflightLease) (db : Tables) (binding : ValidatedGatewayReadV1)
    (gatewayResultId : String) : Bool :=
  lease.status = .completed && lease.gatewayResultId = some gatewayResultId &&
    lease.requestDigest = binding.input.requestDigest && lease.stateDigest = binding.input.stateDigest &&
    lease.policyDigest = binding.input.policyDigest && lease.bindingDigest = binding.bindingDigest blake3 &&
    db.maxGeneration (binding.bindingDigest blake3) = some lease.lifecycleGeneration &&
    match lease.executionStartedMs, lease.completedMs with
    | some started, some completed => 0 ≤ started && started ≤ completed
    | _, _ => false

/-- `load_gateway_result_with_origin_v1`. -/
def loadGatewayResultWithOriginV1 (db : Tables) (binding : ValidatedGatewayReadV1) (gatewayResultId : String) :
    Except StoreError (Option StoredResult) := do
  let result? ← loadGatewayResultSnapshotV1 blake3 db binding gatewayResultId
  pure (result?.filter fun _ =>
    db.resultDependencies gatewayResultId = binding.input.dependencies &&
    (db.gatewayResults.find? fun r => r.gatewayResultId = gatewayResultId ∧ r.status = .ready).any fun row =>
      (db.lease? row.leaseId).any fun lease => lease.completes blake3 db binding gatewayResultId)

/-- `gateway_result_is_servable_v1`. -/
def gatewayResultIsServableV1 (outside : Outside) (db : Tables) (binding : ValidatedGatewayReadV1)
    (gatewayResultId : String) : Bool :=
  match loadGatewayResultWithOriginV1 blake3 db binding gatewayResultId with
  | .ok (some result) => sourceResultBlobsValid blake3 outside result
  | _ => false

/-! ## For the holder of a recipient's authority -/

/-- `validate_gateway_dependency_manifest_v1`. -/
def validateGatewayDependencyManifestV1 (dependencies : List GatewayDependencyV1) : Except StoreError Unit := do
  rejectIf (gatewayMaxDependencies < dependencies.length) (.delivery .invalidBinding)
  dependencies.forM fun d => do
    rejectIf (validDigest d.keyDigest = false) (.invalidDigest "gateway result dependency key digest")
    rejectIf (validDigest d.valueDigest = false) (.invalidDigest "gateway result dependency value digest")
  rejectIf (unorderedDependencies dependencies) (.delivery .invalidBinding)

/-- The lease completed the row and is the binding's last. -/
def InflightLease.published (lease : InflightLease) (db : Tables) (row : GatewayResult) : Bool :=
  lease.status = .completed && lease.gatewayResultId = some row.gatewayResultId &&
    lease.requestDigest = row.requestDigest && lease.stateDigest = row.stateDigest &&
    lease.policyDigest = row.policyDigest && lease.bindingDigest = row.bindingDigest &&
    db.maxGeneration row.bindingDigest = some lease.lifecycleGeneration

/-- The leader's request is ready with the row. -/
def GatewayRequest.led (request : GatewayRequest) (row : GatewayResult) : Bool :=
  request.requestDigest = row.requestDigest && request.stateDigest = row.stateDigest &&
    request.policyDigest = row.policyDigest && request.bindingDigest = row.bindingDigest && request.role = .leader &&
    request.status = .ready && request.joinedLeaseId = some row.leaseId &&
    request.gatewayResultId = some row.gatewayResultId

/-- `load_gateway_result_unbound_snapshot_v2`. -/
def loadGatewayResultUnboundSnapshotV2 (db : Tables) (gatewayResultId : String) :
    Except StoreError (StoredResult × List GatewayDependencyV1) := do
  let row ← requireSome (db.gatewayResult? gatewayResultId) (.delivery .invalidBinding)
  rejectIf (row.status ≠ .ready ∨ row.quarantineReason ≠ none) (.delivery .invalidBinding)
  [gatewayResultId, row.stdoutDigest, row.stderrDigest, row.proofDigest, row.requestDigest, row.stateDigest,
    row.policyDigest, row.bindingDigest].forM fun digest =>
      rejectIf (validDigest digest = false) (.invalidDigest "gateway retrieval snapshot digest")
  rejectIf (db.gatewayResults.any fun r => r.bindingDigest = row.bindingDigest ∧ r.gatewayResultId ≠ gatewayResultId)
    (.delivery .invalidBinding)
  let lease ← requireSome (db.lease? row.leaseId) (.delivery .invalidBinding)
  rejectIf (lease.published db row = false) (.delivery .invalidBinding)
  let request ← requireSome (db.gatewayRequest? lease.callId) (.delivery .invalidBinding)
  rejectIf (request.led row = false) (.delivery .invalidBinding)
  validateGatewayDependencyManifestV1 row.dependencies
  validateGatewayDependencyManifestV1 request.dependencies
  rejectIf (row.dependencies ≠ request.dependencies ∨ gatewayBindingContentDigest blake3 row.requestDigest
    row.stateDigest row.policyDigest row.dependencies ≠ row.bindingDigest) (.delivery .invalidBinding)
  let source ← requireSome (db.resultRow? row.resultId) (.delivery .invalidBinding)
  rejectIf (source.quarantined ∨ row.matchesSource blake3 source.result = false ∨
    gatewayPolicyDigest blake3 source.result.policyVersion ≠ row.policyDigest) (.delivery .invalidBinding)
  rejectIf (lease.contentDigest blake3 source.result row.dependencies ≠ gatewayResultId) (.delivery .invalidBinding)
  pure (source.result, row.dependencies)

end

/-! ## What the loaders vouch for -/

section
variable {blake3 : Bytes → Octets 32} {outside : Outside} {db : Tables}

theorem getBlob_eq_some {digest : String} {bytes : Bytes} (h : getBlob blake3 outside digest = some bytes) :
    outside.blobFile digest = some bytes ∧ hexDigest blake3 bytes = digest := by
  unfold getBlob at h
  split at h
  · simpa [Option.filter_eq_some_iff] using h
  · cases h

theorem resultBlobs_eq_ok {result : StoredResult} {mismatch : StoreError} {stdout stderr : Bytes}
    (h : resultBlobs blake3 outside result mismatch = .ok (stdout, stderr)) :
    getBlob blake3 outside result.stdoutDigest = some stdout ∧ getBlob blake3 outside result.stderrDigest = some stderr ∧
      stdout.length = result.stdoutBytes.toNat ∧ stderr.length = result.stderrBytes.toNat := by
  unfold resultBlobs at h
  simp only [bind_eq_ok, requireSome_eq_ok, rejectIf_eq_ok, exists_unit, pure_eq_ok, Prod.mk.injEq] at h
  obtain ⟨_, hout, _, herr, hlengths, rfl, rfl⟩ := h
  push Not at hlengths
  exact ⟨hout, herr, hlengths.1, hlengths.2⟩

/-- What the loader vouches for: a ready row without a reason, alone in its binding, equal to its source. -/
theorem loadGatewayResultUnboundSnapshotV2_eq_ok {gatewayResultId : String} {result : StoredResult}
    {dependencies : List GatewayDependencyV1}
    (h : loadGatewayResultUnboundSnapshotV2 blake3 db gatewayResultId = .ok (result, dependencies)) :
    ∃ row ∈ db.gatewayResults, row.gatewayResultId = gatewayResultId ∧ row.status = .ready ∧
      row.matchesSource blake3 result = true := by
  unfold loadGatewayResultUnboundSnapshotV2 at h
  simp only [bind_eq_ok, requireSome_eq_ok, rejectIf_eq_ok, exists_unit, pure_eq_ok, Prod.mk.injEq] at h
  obtain ⟨row, hrow, hready, -, -, lease, -, -, request, -, -, -, -, -, source, -, hsource, -, rfl, -⟩ := h
  push Not at hready hsource
  refine ⟨row, List.mem_of_find?_eq_some hrow, by simpa using List.find?_some hrow, hready.1, ?_⟩
  simpa using hsource.2.1

end

end Again.Gateway
