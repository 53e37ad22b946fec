import Again.Lib.Refusal
import Again.Lib.SelfDelimiting
import Again.Team.Vocabulary

/-!
# Trust bundles

`trust_bundle.rs`: signed lists of the producer keys, revocations and allowed
digests of one repository, and the tracker that keeps a client from accepting
an older or contradicting one. `verify_trust_bundle` and `restore_checkpoint`
change the tracker, so they are stateful computations on it.
-/

namespace Again.Team

open Lib

inductive TrustBundleError where
  | unknownSchemaVersion
  | invalidIdentifier (field : String)
  | invalidEndpointOrigin
  | invalidEpoch
  | epochOutOfRange
  | timestampOutOfRange
  | invalidLifetime
  | issuedInFuture
  | expired
  | rootKeyMismatch
  | invalidRootPublicKey
  | invalidSignatureSize
  | invalidSignature
  | tenantMismatch
  | repositoryMismatch
  | invalidGenerationId
  | generationMismatch
  | endpointOriginMismatch
  | tooManyEntries (field : String)
  | unsortedOrDuplicate (field : String)
  | invalidProducerPublicKey
  | activeKeyRevoked
  | epochRollback
  | divergentEpoch
  | keyRebinding
  | keyRevocationRollback
  | recordRevocationRollback
  | policyDigestNotAllowed
  | executionProfileDigestNotAllowed
  | platformDigestNotAllowed
  | imageDigestNotAllowed
  | unknownCheckpointSchemaVersion
  | checkpointNamespaceMismatch
  | checkpointScopeMismatch
  | checkpointRootMismatch
  | historicalKeyBindingRollback
deriving DecidableEq

structure ProducerKeyBindingV1 where
  keyId : String
  producerId : String
  publicKey : Octets 32
deriving DecidableEq

structure TrustBundleV1 where
  schemaVersion : UInt16
  rootKeyId : String
  tenantId : String
  repositoryId : String
  generationId : String
  endpointOrigin : String
  epoch : UInt64
  issuedAtUnixSeconds : UInt64
  expiresAtUnixSeconds : UInt64
  activeProducerKeys : List ProducerKeyBindingV1
  revokedKeyIds : List String
  revokedRecordIds : List String
  allowedPolicyDigests : List Digest
  allowedExecutionProfileDigests : List Digest
  allowedPlatformDigests : List Digest
  allowedImageDigests : List Digest
  signature : Bytes
deriving DecidableEq

structure TrustCheckpointV1 where
  schemaVersion : UInt16
  namespace_ : String
  rootKeyId : String
  rootPublicKey : Octets 32
  tenantId : String
  repositoryId : String
  generationId : String
  endpointOrigin : String
  highestEpoch : UInt64
  sameEpochDigest : Digest
  historicalKeyBindings : List ProducerKeyBindingV1
  revokedKeyIds : List String
  revokedRecordIds : List String
deriving DecidableEq

def trustBundleSchemaVersion : UInt16 := 1
def trustCheckpointSchemaVersion : UInt16 := 1
def trustCheckpointNamespace : String := "again.trust-checkpoint.v1"
def maxTrustBundleLifetimeSeconds : UInt64 := 300
def maxTrustBundleFutureSkewSeconds : UInt64 := 30
def maxTrustBundleEntriesPerSet : Nat := 4096
def trustBundleSigningDomain : Bytes := utf8 "again.trust-bundle.v1"

/-! ## Signed bytes -/

def ProducerKeyBindingV1.signingBytes (binding : ProducerKeyBindingV1) : Bytes :=
  putString binding.keyId ++ putString binding.producerId ++ putBytes binding.publicKey.val

def putStrings (values : List String) : Bytes := putList putString values

def putDigests (values : List Digest) : Bytes := putList (fun digest => putBytes digest.val) values

def TrustBundleV1.canonicalSigningBytes (self : TrustBundleV1) : Bytes :=
  putBytes trustBundleSigningDomain ++
  le16 self.schemaVersion ++
  putString self.rootKeyId ++
  putString self.tenantId ++
  putString self.repositoryId ++
  putString self.generationId ++
  putString self.endpointOrigin ++
  le64 self.epoch ++
  le64 self.issuedAtUnixSeconds ++
  le64 self.expiresAtUnixSeconds ++
  putList ProducerKeyBindingV1.signingBytes self.activeProducerKeys ++
  putStrings self.revokedKeyIds ++
  putStrings self.revokedRecordIds ++
  putDigests self.allowedPolicyDigests ++
  putDigests self.allowedExecutionProfileDigests ++
  putDigests self.allowedPlatformDigests ++
  putDigests self.allowedImageDigests

variable (ext : Externals)

/-! ## Validation -/

def validateIdentifier (value field : String) : Except TrustBundleError Unit :=
  rejectIf (isIdentifier value = false) (.invalidIdentifier field)

def validateGenerationId (value : String) : Except TrustBundleError Unit :=
  rejectIf (isGenerationId value = false) .invalidGenerationId

def validateEndpointOrigin (value : String) : Except TrustBundleError Unit := do
  rejectIf (2048 < (utf8 value).length ∨ (utf8 value).all (· < 128) = false) .invalidEndpointOrigin
  let parsed ← requireSome (ext.parseUrl value) .invalidEndpointOrigin
  rejectIf (parsed.scheme ≠ "https" ∨ parsed.hostStr = none ∨ parsed.username ≠ "" ∨ parsed.password ≠ none ∨
    parsed.path ≠ "/" ∨ parsed.query ≠ none ∨ parsed.fragment ≠ none ∨ parsed.origin ≠ value) .invalidEndpointOrigin

def checkCount (field : String) (count : Nat) : Except TrustBundleError Unit :=
  rejectIf (maxTrustBundleEntriesPerSet < count) (.tooManyEntries field)

def validateIdentifierList (field : String) (values : List String) : Except TrustBundleError Unit := do
  checkCount field values.length
  values.forM fun value => validateIdentifier value field
  rejectIf (strictlySortedBy (fun left right => utf8 left < utf8 right) values = false) (.unsortedOrDuplicate field)

def validateDigestList (field : String) (values : List Digest) : Except TrustBundleError Unit := do
  checkCount field values.length
  rejectIf (strictlySortedBy (fun left right : Digest => left.val < right.val) values = false)
    (.unsortedOrDuplicate field)

/-- The checks on a list of key bindings, in a bundle or in a checkpoint. -/
def validateBindings (field : String) (bindings : List ProducerKeyBindingV1) : Except TrustBundleError Unit := do
  checkCount field bindings.length
  bindings.forM fun binding => do
    validateIdentifier binding.keyId (field ++ ".key_id")
    validateIdentifier binding.producerId (field ++ ".producer_id")
    rejectIf (ext.verifyingKey binding.publicKey = false) .invalidProducerPublicKey
  rejectIf (strictlySortedBy (fun left right : ProducerKeyBindingV1 => utf8 left.keyId < utf8 right.keyId) bindings = false)
    (.unsortedOrDuplicate field)

def validateWireShape (bundle : TrustBundleV1) : Except TrustBundleError Unit := do
  rejectIf (bundle.schemaVersion ≠ trustBundleSchemaVersion) .unknownSchemaVersion
  validateIdentifier bundle.rootKeyId "root_key_id"
  validateIdentifier bundle.tenantId "tenant_id"
  validateIdentifier bundle.repositoryId "repository_id"
  validateGenerationId bundle.generationId
  validateEndpointOrigin ext bundle.endpointOrigin
  rejectIf (bundle.epoch = 0) .invalidEpoch
  rejectIf (maxJsonSafeInteger < bundle.epoch) .epochOutOfRange
  rejectIf (maxJsonSafeInteger < bundle.issuedAtUnixSeconds ∨ maxJsonSafeInteger < bundle.expiresAtUnixSeconds)
    .timestampOutOfRange
  rejectIf (bundle.expiresAtUnixSeconds ≤ bundle.issuedAtUnixSeconds ∨
    maxTrustBundleLifetimeSeconds < bundle.expiresAtUnixSeconds - bundle.issuedAtUnixSeconds) .invalidLifetime
  rejectIf (bundle.signature.length ≠ ed25519SignatureSize) .invalidSignatureSize
  validateBindings ext "active_producer_keys" bundle.activeProducerKeys
  validateIdentifierList "revoked_key_ids" bundle.revokedKeyIds
  validateIdentifierList "revoked_record_ids" bundle.revokedRecordIds
  validateDigestList "allowed_policy_digests" bundle.allowedPolicyDigests
  validateDigestList "allowed_execution_profile_digests" bundle.allowedExecutionProfileDigests
  validateDigestList "allowed_platform_digests" bundle.allowedPlatformDigests
  validateDigestList "allowed_image_digests" bundle.allowedImageDigests
  rejectIf (bundle.activeProducerKeys.any (fun binding => bundle.revokedKeyIds.contains binding.keyId) = true)
    .activeKeyRevoked

/-- `u64::saturating_add`. -/
def saturatingAdd (a b : UInt64) : UInt64 := UInt64.ofNat (min (a.toNat + b.toNat) (2 ^ 64 - 1))

def validateFreshness (bundle : TrustBundleV1) (now : UInt64) : Except TrustBundleError Unit := do
  rejectIf (saturatingAdd now maxTrustBundleFutureSkewSeconds < bundle.issuedAtUnixSeconds) .issuedInFuture
  rejectIf (bundle.expiresAtUnixSeconds ≤ now) .expired

/-! ## The tracker -/

/-- `PinnedRootKey`, as `from_public_key` returns it. -/
structure PinnedRootKey where
  keyId : String
  publicKey : Octets 32
  keyId_valid : isIdentifier keyId = true
  publicKey_valid : ext.verifyingKey publicKey = true

/-- The scope a caller expects, and the scope a tracker keeps its states under. -/
structure TrustScope where
  tenantId : String
  repositoryId : String
  generationId : String
  endpointOrigin : String
deriving DecidableEq

abbrev ExpectedTrustBundle := TrustScope

def TrustBundleV1.scope (bundle : TrustBundleV1) : TrustScope :=
  ⟨bundle.tenantId, bundle.repositoryId, bundle.generationId, bundle.endpointOrigin⟩

def TrustCheckpointV1.scope (checkpoint : TrustCheckpointV1) : TrustScope :=
  ⟨checkpoint.tenantId, checkpoint.repositoryId, checkpoint.generationId, checkpoint.endpointOrigin⟩

structure AcceptedEpoch where
  epoch : UInt64
  canonicalSigningDigest : Digest
  historicalKeyBindings : StringMap (String × Octets 32)
  revokedKeyIds : StringSet
  revokedRecordIds : StringSet

structure TrustEpochTracker where
  accepted : TrustScope → Option AcceptedEpoch

def TrustEpochTracker.new : TrustEpochTracker := ⟨fun _ => none⟩

def TrustEpochTracker.insert (tracker : TrustEpochTracker) (scope : TrustScope) (state : AcceptedEpoch) :
    TrustEpochTracker := ⟨Function.update tracker.accepted scope (some state)⟩

def TrustEpochTracker.highestAcceptedEpoch (tracker : TrustEpochTracker) (scope : TrustScope) : Option UInt64 :=
  (tracker.accepted scope).map AcceptedEpoch.epoch

def ProducerKeyBindingV1.entry (binding : ProducerKeyBindingV1) : String × String × Octets 32 :=
  (binding.keyId, binding.producerId, binding.publicKey)

def validateExpected (expected : ExpectedTrustBundle) : Except TrustBundleError Unit := do
  validateIdentifier expected.tenantId "expected.tenant_id"
  validateIdentifier expected.repositoryId "expected.repository_id"
  validateGenerationId expected.generationId
  validateEndpointOrigin ext expected.endpointOrigin

structure VerifiedTrustBundle where
  bundle : TrustBundleV1
  trustedProducerKeys : StringMap String
  revokedKeyIds : StringSet
  revokedRecordIds : StringSet
  producerVerifier : Ed25519Verifier

/-- `if let Some(previous) = tracker.accepted.get(&scope) { check(previous)? }`. -/
def ifAccepted (previous : Option AcceptedEpoch) (check : AcceptedEpoch → Except TrustBundleError Unit) :
    Except TrustBundleError Unit :=
  match previous with
  | some previous => check previous
  | none => .ok ()

/-- The comparison of a bundle with what its scope has accepted before. -/
def checkPrevious (previous : AcceptedEpoch) (bundle : TrustBundleV1) (canonicalDigest : Digest)
    (activeBindings : StringMap (String × Octets 32)) (revokedKeyIds revokedRecordIds : StringSet) :
    Except TrustBundleError Unit := do
  rejectIf (bundle.epoch < previous.epoch) .epochRollback
  if bundle.epoch = previous.epoch then
    rejectIf (canonicalDigest ≠ previous.canonicalSigningDigest) .divergentEpoch
  else
    activeBindings.entries.forM fun (keyId, binding) => do
      rejectIf ((previous.historicalKeyBindings.get? keyId).any (· ≠ binding) = true) .keyRebinding
      rejectIf (previous.revokedKeyIds.contains keyId = true) .keyRevocationRollback
    rejectIf (previous.revokedKeyIds.isSubset revokedKeyIds = false) .keyRevocationRollback
    rejectIf (previous.revokedRecordIds.isSubset revokedRecordIds = false) .recordRevocationRollback

/-- The checks that do not look at the tracker; the digest of the signed bytes. -/
def authenticate (bundle : TrustBundleV1) (expected : ExpectedTrustBundle) (pinnedRoot : PinnedRootKey ext)
    (now : UInt64) : Except TrustBundleError Digest := do
  validateWireShape ext bundle
  validateExpected ext expected
  rejectIf (bundle.rootKeyId ≠ pinnedRoot.keyId) .rootKeyMismatch
  let canonical := bundle.canonicalSigningBytes
  let canonicalDigest := ext.blake3 canonical
  let signatureBytes ← requireSome (octets? 64 bundle.signature) .invalidSignatureSize
  rejectIf (ext.verifyStrict pinnedRoot.publicKey canonical signatureBytes = false) .invalidSignature
  rejectIf (bundle.tenantId ≠ expected.tenantId) .tenantMismatch
  rejectIf (bundle.repositoryId ≠ expected.repositoryId) .repositoryMismatch
  rejectIf (bundle.generationId ≠ expected.generationId) .generationMismatch
  rejectIf (bundle.endpointOrigin ≠ expected.endpointOrigin) .endpointOriginMismatch
  validateFreshness bundle now
  return canonicalDigest

/-- The verifier of the active keys. -/
def producerVerifier (bundle : TrustBundleV1) : Except TrustBundleError Ed25519Verifier :=
  (bundle.activeProducerKeys.foldlM (fun (verifier : Ed25519Verifier) binding =>
    verifier.insertPublicKey ext binding.keyId binding.producerId binding.publicKey)
    Ed25519Verifier.new).mapError fun _ => .invalidProducerPublicKey

def TrustBundleV1.activeBindings (bundle : TrustBundleV1) : StringMap (String × Octets 32) :=
  SortedMap.ofList (bundle.activeProducerKeys.map ProducerKeyBindingV1.entry)

def verifyTrustBundle (bundle : TrustBundleV1) (expected : ExpectedTrustBundle) (pinnedRoot : PinnedRootKey ext)
    (now : UInt64) : EStateM TrustBundleError TrustEpochTracker VerifiedTrustBundle := do
  let canonicalDigest ← attempt (authenticate ext bundle expected pinnedRoot now)
  let scope := bundle.scope
  let activeBindings := bundle.activeBindings
  let revokedKeyIds := StringSet.ofList bundle.revokedKeyIds
  let revokedRecordIds := StringSet.ofList bundle.revokedRecordIds
  let tracker ← get
  attempt (ifAccepted (tracker.accepted scope) fun previous =>
    checkPrevious previous bundle canonicalDigest activeBindings revokedKeyIds revokedRecordIds)
  let producerVerifier ← attempt (producerVerifier ext bundle)
  let trustedProducerKeys := SortedMap.ofList (bundle.activeProducerKeys.map fun binding =>
    (binding.keyId, binding.producerId))
  let historicalKeyBindings :=
    ((tracker.accepted scope).elim SortedMap.empty AcceptedEpoch.historicalKeyBindings).extend activeBindings.entries
  set (tracker.insert scope
    { epoch := bundle.epoch, canonicalSigningDigest := canonicalDigest, historicalKeyBindings,
      revokedKeyIds, revokedRecordIds })
  return { bundle, trustedProducerKeys, revokedKeyIds, revokedRecordIds, producerVerifier }

/-! ## Checkpoints -/

def AcceptedEpoch.bindings (state : AcceptedEpoch) : List ProducerKeyBindingV1 :=
  state.historicalKeyBindings.entries.map fun (keyId, producerId, publicKey) => ⟨keyId, producerId, publicKey⟩

def TrustEpochTracker.exportCheckpoint (tracker : TrustEpochTracker) (expected : ExpectedTrustBundle)
    (pinnedRoot : PinnedRootKey ext) : Except TrustBundleError (Option TrustCheckpointV1) := do
  validateExpected ext expected
  match tracker.accepted expected with
  | none => return none
  | some state => return some {
      schemaVersion := trustCheckpointSchemaVersion
      namespace_ := trustCheckpointNamespace
      rootKeyId := pinnedRoot.keyId
      rootPublicKey := pinnedRoot.publicKey
      tenantId := expected.tenantId
      repositoryId := expected.repositoryId
      generationId := expected.generationId
      endpointOrigin := expected.endpointOrigin
      highestEpoch := state.epoch
      sameEpochDigest := state.canonicalSigningDigest
      historicalKeyBindings := state.bindings
      revokedKeyIds := state.revokedKeyIds.toList
      revokedRecordIds := state.revokedRecordIds.toList }

/-- The state a checkpoint describes. -/
def TrustCheckpointV1.state (checkpoint : TrustCheckpointV1) : AcceptedEpoch where
  epoch := checkpoint.highestEpoch
  canonicalSigningDigest := checkpoint.sameEpochDigest
  historicalKeyBindings := SortedMap.ofList (checkpoint.historicalKeyBindings.map ProducerKeyBindingV1.entry)
  revokedKeyIds := StringSet.ofList checkpoint.revokedKeyIds
  revokedRecordIds := StringSet.ofList checkpoint.revokedRecordIds

def validateCheckpoint (checkpoint : TrustCheckpointV1) (expected : ExpectedTrustBundle)
    (pinnedRoot : PinnedRootKey ext) : Except TrustBundleError (TrustScope × AcceptedEpoch) := do
  rejectIf (checkpoint.schemaVersion ≠ trustCheckpointSchemaVersion) .unknownCheckpointSchemaVersion
  rejectIf (checkpoint.namespace_ ≠ trustCheckpointNamespace) .checkpointNamespaceMismatch
  validateExpected ext expected
  validateIdentifier checkpoint.rootKeyId "checkpoint.root_key_id"
  validateIdentifier checkpoint.tenantId "checkpoint.tenant_id"
  validateIdentifier checkpoint.repositoryId "checkpoint.repository_id"
  validateGenerationId checkpoint.generationId
  validateEndpointOrigin ext checkpoint.endpointOrigin
  rejectIf (ext.verifyingKey checkpoint.rootPublicKey = false) .invalidRootPublicKey
  rejectIf (checkpoint.rootKeyId ≠ pinnedRoot.keyId ∨ checkpoint.rootPublicKey ≠ pinnedRoot.publicKey)
    .checkpointRootMismatch
  rejectIf (checkpoint.tenantId ≠ expected.tenantId ∨ checkpoint.repositoryId ≠ expected.repositoryId ∨
    checkpoint.generationId ≠ expected.generationId ∨ checkpoint.endpointOrigin ≠ expected.endpointOrigin)
    .checkpointScopeMismatch
  rejectIf (checkpoint.highestEpoch = 0) .invalidEpoch
  rejectIf (maxJsonSafeInteger < checkpoint.highestEpoch) .epochOutOfRange
  validateBindings ext "checkpoint.historical_key_bindings" checkpoint.historicalKeyBindings
  validateIdentifierList "checkpoint.revoked_key_ids" checkpoint.revokedKeyIds
  validateIdentifierList "checkpoint.revoked_record_ids" checkpoint.revokedRecordIds
  return (checkpoint.scope, checkpoint.state)

def validateMonotonicState (previous candidate : AcceptedEpoch) : Except TrustBundleError Unit := do
  rejectIf (candidate.epoch < previous.epoch) .epochRollback
  rejectIf (candidate.epoch = previous.epoch ∧ candidate.canonicalSigningDigest ≠ previous.canonicalSigningDigest)
    .divergentEpoch
  previous.historicalKeyBindings.entries.forM fun (keyId, historical) =>
    match candidate.historicalKeyBindings.get? keyId with
    | some binding => rejectIf (binding ≠ historical) .keyRebinding
    | none => .error .historicalKeyBindingRollback
  rejectIf (previous.revokedKeyIds.isSubset candidate.revokedKeyIds = false) .keyRevocationRollback
  rejectIf (previous.revokedRecordIds.isSubset candidate.revokedRecordIds = false) .recordRevocationRollback

def restoreCheckpoint (checkpoint : TrustCheckpointV1) (expected : ExpectedTrustBundle)
    (pinnedRoot : PinnedRootKey ext) : EStateM TrustBundleError TrustEpochTracker Unit := do
  let (scope, restored) ← attempt (validateCheckpoint ext checkpoint expected pinnedRoot)
  let tracker ← get
  attempt (ifAccepted (tracker.accepted scope) fun previous => validateMonotonicState previous restored)
  set (tracker.insert scope restored)

end Again.Team
