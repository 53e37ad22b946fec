import Again.Pytest.ManifestCodec
import Again.Pytest.Records

/-!
# Reading records

`canonical.rs`: the decoders of shapes, closures and effect records, and that
each gives back the value its bytes were built from. A decoder checks the value
it read and encodes it again; both succeed on what a valid value was encoded to.
-/

namespace Again.Pytest.Canonical

open Lib

variable {value : EffectRecordV2} {hash : Blake3}

def decodeBlob (bytes : Bytes) : Except ContractError BlobRefV2 := do
  let object : RawObject WireType ← codec.parseNested bytes
  codec.expectObject object typeBlobRef [(1, .bytes), (2, .u64)]
  let digest ← exact 32 (← codec.payload object.fields 1)
  let byteCount ← decodeU64 (← codec.payload object.fields 2)
  pure ⟨digest, byteCount⟩

def decodeSelector (bytes : Bytes) : Except ContractError PytestSelectorV1 := do
  let object : RawObject WireType ← codec.parseNested bytes
  codec.expectObject object typeSelector [(1, .bytes), (2, .bytes), (3, .list)]
  let raw ← codec.payload object.fields 1
  let path ← codec.payload object.fields 2
  let nodes ← codec.decodeList (← codec.payload object.fields 3)
  pure { raw, path, nodes }

def decodeStdinProfile (bytes : Bytes) : Except ContractError StdinProfileV1 := do
  match ← decodeSimpleEnum bytes with
  | 1 => pure .closedEof
  | 2 => pure .emptyNonTtyEof
  | _ => throw .canonicalDecoding

def decodeInvocation (bytes : Bytes) : Except ContractError PytestInvocationIdentityV1 := do
  let object : RawObject WireType ← codec.parseNested bytes
  codec.expectObject object typeInvocation [(1, .list), (2, .bytes), (3, .list), (4, .enum)]
  let stdinProfile ← decodeStdinProfile (← codec.payload object.fields 4)
  let argv ← codec.decodeList (← codec.payload object.fields 1)
  let cwd ← codec.payload object.fields 2
  let selectors ← (← codec.decodeList (← codec.payload object.fields 3)).mapM decodeSelector
  pure { argv, cwd, selectors, stdinProfile }

def decodeEnvironment (bytes : Bytes) : Except ContractError EnvironmentBindingV1 := do
  let object : RawObject WireType ← codec.parseNested bytes
  codec.expectObject object typeEnvironment [(1, .bytes), (2, .bytes), (3, .bytes), (4, .u32), (5, .bytes)]
  let keyId ← exact 32 (← codec.payload object.fields 1)
  let digest ← exact 32 (← codec.payload object.fields 2)
  let namesDigest ← exact 32 (← codec.payload object.fields 3)
  let entryCount ← decodeU32 (← codec.payload object.fields 4)
  let policyDigest ← exact 32 (← codec.payload object.fields 5)
  pure { keyId, digest, namesDigest, entryCount, policyDigest }

def decodeSnapshot (bytes : Bytes) : Except ContractError SealedSnapshotIdentityV2 := do
  let object : RawObject WireType ← codec.parseNested bytes
  codec.expectObject object typeSnapshot [(1, .bytes), (2, .bytes), (3, .bytes), (4, .object), (5, .bytes)]
  let snapshotId ← exact 16 (← codec.payload object.fields 1)
  let workspaceRoot ← exact 32 (← codec.payload object.fields 2)
  let runtimeRoot ← exact 32 (← codec.payload object.fields 3)
  let manifestBlob ← decodeBlob (← codec.payload object.fields 4)
  let profileDigest ← exact 32 (← codec.payload object.fields 5)
  pure { snapshotId, workspaceRoot, runtimeRoot, manifestBlob, profileDigest }

def decodeNamespaceIds (bytes : Bytes) : Except ContractError NamespaceIdsV1 := do
  let object : RawObject WireType ← codec.parseNested bytes
  codec.expectObject object typeNamespaceIds [(1, .u64), (2, .u64), (3, .u64), (4, .u64), (5, .u64), (6, .u64)]
  let user ← decodeU64 (← codec.payload object.fields 1)
  let mount ← decodeU64 (← codec.payload object.fields 2)
  let pid ← decodeU64 (← codec.payload object.fields 3)
  let network ← decodeU64 (← codec.payload object.fields 4)
  let uts ← decodeU64 (← codec.payload object.fields 5)
  let ipc ← decodeU64 (← codec.payload object.fields 6)
  pure { user, mount, pid, network, uts, ipc }

def decodePolicyDigests (bytes : Bytes) : Except ContractError PolicyDigestsV1 := do
  let object : RawObject WireType ← codec.parseNested bytes
  codec.expectObject object typePolicyDigests [(1, .bytes), (2, .bytes), (3, .bytes), (4, .bytes), (5, .bytes),
    (6, .bytes), (7, .bytes), (8, .bytes), (9, .bytes), (10, .bytes)]
  let seccomp ← exact 32 (← codec.payload object.fields 1)
  let landlock ← exact 32 (← codec.payload object.fields 2)
  let namespacePolicy ← exact 32 (← codec.payload object.fields 3)
  let tracerRuntime ← exact 32 (← codec.payload object.fields 4)
  let ambientBroker ← exact 32 (← codec.payload object.fields 5)
  let limits ← exact 32 (← codec.payload object.fields 6)
  let environment ← exact 32 (← codec.payload object.fields 7)
  let selectorGrammar ← exact 32 (← codec.payload object.fields 8)
  let runtimeClosure ← exact 32 (← codec.payload object.fields 9)
  let codecPolicy ← exact 32 (← codec.payload object.fields 10)
  pure { seccomp, landlock, namespacePolicy, tracerRuntime, ambientBroker, limits, environment, selectorGrammar,
         runtimeClosure, codec := codecPolicy }

def decodeArchitecture (bytes : Bytes) : Except ContractError ArchitectureV1 := do
  match ← decodeSimpleEnum bytes with
  | 1 => pure .x8664
  | _ => throw .canonicalDecoding

def decodePlatform (bytes : Bytes) : Except ContractError PlatformIdentityV2 := do
  let object : RawObject WireType ← codec.parseNested bytes
  codec.expectObject object typePlatform [(1, .enum), (2, .bytes), (3, .bytes), (4, .object), (5, .bytes), (6, .object)]
  let architecture ← decodeArchitecture (← codec.payload object.fields 1)
  let kernelRelease ← codec.payload object.fields 2
  let capabilityDigest ← exact 32 (← codec.payload object.fields 3)
  let namespaceIds ← decodeNamespaceIds (← codec.payload object.fields 4)
  let namespacePolicyDigest ← exact 32 (← codec.payload object.fields 5)
  let policyDigests ← decodePolicyDigests (← codec.payload object.fields 6)
  pure { architecture, kernelRelease, capabilityDigest, namespaceIds, namespacePolicyDigest, policyDigests }

def decodeTraceCounters (bytes : Bytes) : Except ContractError TraceCountersV1 := do
  let object : RawObject WireType ← codec.parseNested bytes
  codec.expectObject object typeTraceCounters [(1, .u64), (2, .u64), (3, .u64), (4, .u64), (5, .u64), (6, .u64),
    (7, .u64), (8, .u64), (9, .u64), (10, .u64), (11, .u64), (12, .u64), (13, .u64), (14, .u64), (15, .u64),
    (16, .u64), (17, .u64), (18, .u64)]
  let finalSequence ← decodeU64 (← codec.payload object.fields 1)
  let eventCount ← decodeU64 (← codec.payload object.fields 2)
  let syscallEventCount ← decodeU64 (← codec.payload object.fields 3)
  let seccompTraceCount ← decodeU64 (← codec.payload object.fields 4)
  let ptraceEventCount ← decodeU64 (← codec.payload object.fields 5)
  let traceEncodedBytes ← decodeU64 (← codec.payload object.fields 6)
  let taskBirthCount ← decodeU64 (← codec.payload object.fields 7)
  let taskExecCount ← decodeU64 (← codec.payload object.fields 8)
  let taskExitCount ← decodeU64 (← codec.payload object.fields 9)
  let taskReapCount ← decodeU64 (← codec.payload object.fields 10)
  let observationCount ← decodeU64 (← codec.payload object.fields 11)
  let ambientEventCount ← decodeU64 (← codec.payload object.fields 12)
  let orderedEffectCount ← decodeU64 (← codec.payload object.fields 13)
  let deniedOperationCount ← decodeU64 (← codec.payload object.fields 14)
  let unsupportedOperationCount ← decodeU64 (← codec.payload object.fields 15)
  let decoderErrorCount ← decodeU64 (← codec.payload object.fields 16)
  let lostEventCount ← decodeU64 (← codec.payload object.fields 17)
  let finalAckCount ← decodeU64 (← codec.payload object.fields 18)
  pure { finalSequence, eventCount, syscallEventCount, seccompTraceCount, ptraceEventCount, traceEncodedBytes,
         taskBirthCount, taskExecCount, taskExitCount, taskReapCount, observationCount, ambientEventCount,
         orderedEffectCount, deniedOperationCount, unsupportedOperationCount, decoderErrorCount, lostEventCount,
         finalAckCount }

def decodeTracePhase (bytes : Bytes) : Except ContractError TracePhaseV1 := do
  match ← decodeSimpleEnum bytes with
  | 1 => pure .snapshot
  | 2 => pure .isolation
  | 3 => pure .trace
  | 4 => pure .finalize
  | 5 => pure .capture
  | 6 => pure .cleanup
  | _ => throw .canonicalDecoding

def decodeDimension (bytes : Bytes) : Except ContractError CompletenessDimensionV2 :=
  match bytes with
  | [value] => requireSome (CompletenessDimensionV2.fromU8 value) .canonicalDecoding
  | _ => throw .canonicalDecoding

def decodeExecuteOnlyCode (bytes : Bytes) : Except ContractError ExecuteOnlyCode := do
  requireSome (ExecuteOnlyCode.fromU16 (← decodeU16 bytes)) .canonicalDecoding

def decodeFirstFailure (bytes : Bytes) : Except ContractError FirstFailureV1 := do
  let object : RawObject WireType ← codec.parseNested bytes
  codec.expectObject object typeFirstFailure [(1, .u8), (2, .u16), (3, .enum), (4, .optional), (5, .optional)]
  let dimension ← decodeDimension (← codec.payload object.fields 1)
  let reason ← decodeExecuteOnlyCode (← codec.payload object.fields 2)
  let phase ← decodeTracePhase (← codec.payload object.fields 3)
  let eventSequence ← (← codec.decodeOptional (← codec.payload object.fields 4)).mapM decodeU64
  let logicalTaskId ← (← codec.decodeOptional (← codec.payload object.fields 5)).mapM decodeU32
  pure { dimension, reason, phase, eventSequence, logicalTaskId }

/-- The trace as it is read, before it is checked. -/
def readTrace (bytes : Bytes) : Except ContractError TraceCompletenessV2 := do
  let object : RawObject WireType ← codec.parseNested bytes
  codec.expectObject object typeTrace [(1, .u64), (2, .u64), (3, .u64), (4, .u64), (5, .object), (6, .optional)]
  let required ← decodeU64 (← codec.payload object.fields 1)
  let complete ← decodeU64 (← codec.payload object.fields 2)
  let unsupported ← decodeU64 (← codec.payload object.fields 3)
  let violation ← decodeU64 (← codec.payload object.fields 4)
  let counters ← decodeTraceCounters (← codec.payload object.fields 5)
  let firstFailure ← (← codec.decodeOptional (← codec.payload object.fields 6)).mapM decodeFirstFailure
  pure { required, complete, unsupported, violation, counters, firstFailure }

def decodeTrace (bytes : Bytes) : Except ContractError TraceCompletenessV2 := do
  let value ← readTrace bytes
  value.validate
  pure value

def decodeDetailVariant (value : RawEnum WireType) : Except ContractError ObservationDetailV1 :=
  match value.variant with
  | 1 => do
    codec.expectEnum value 1 [(1, .bytes), (2, .u64)]
    let contentDigest ← exact 32 (← codec.payload value.fields 1)
    pure (.file contentDigest (← decodeU64 (← codec.payload value.fields 2)))
  | 2 => do
    codec.expectEnum value 2 [(1, .bytes), (2, .u64)]
    let membershipDigest ← exact 32 (← codec.payload value.fields 1)
    pure (.directory membershipDigest (← decodeU64 (← codec.payload value.fields 2)))
  | 3 => do
    codec.expectEnum value 3 [(1, .bytes), (2, .bytes)]
    let parentMembershipDigest ← exact 32 (← codec.payload value.fields 1)
    pure (.absentPath parentMembershipDigest (← codec.payload value.fields 2))
  | 4 => do
    codec.expectEnum value 4 [(1, .bytes)]
    pure (.symlink (← codec.payload value.fields 1))
  | 5 => do
    codec.expectEnum value 5 [(1, .bytes), (2, .bytes)]
    let nodeDigest ← exact 32 (← codec.payload value.fields 1)
    pure (.executable nodeDigest (← exact 32 (← codec.payload value.fields 2)))
  | 6 => do
    codec.expectEnum value 6 [(1, .bytes), (2, .u64), (3, .u64), (4, .u32), (5, .u32)]
    let contentDigest ← exact 32 (← codec.payload value.fields 1)
    let offset ← decodeU64 (← codec.payload value.fields 2)
    let length ← decodeU64 (← codec.payload value.fields 3)
    let protection ← decodeU32 (← codec.payload value.fields 4)
    pure (.mapping contentDigest offset length protection (← decodeU32 (← codec.payload value.fields 5)))
  | 7 => do
    codec.expectEnum value 7 [(1, .u64), (2, .bytes)]
    let fieldMask ← decodeU64 (← codec.payload value.fields 1)
    pure (.metadata fieldMask (← exact 32 (← codec.payload value.fields 2)))
  | _ => throw .canonicalDecoding

def decodeObservationDetail (bytes : Bytes) : Except ContractError ObservationDetailV1 := do
  let object : RawObject WireType ← codec.parseNested bytes
  codec.expectObject object typeObservationDetail [(1, .enum)]
  let detail ← decodeDetailVariant (← codec.parseEnum (← codec.payload object.fields 1))
  detail.validate
  rejectIf ((← encodeObservationDetail detail) ≠ bytes) .canonicalDecoding
  pure detail

def decodeObservationDetailTop (bytes : Bytes) : Except ContractError ObservationDetailV1 := do
  codec.enforceSize bytes
  let detail ← decodeObservationDetail (← codec.strip bytes)
  rejectIf ((← encodeObservationDetailTop detail) ≠ bytes) .canonicalDecoding
  pure detail

def decodeObservationKind (bytes : Bytes) : Except ContractError ObservationKindV2 := do
  match ← decodeSimpleEnum bytes with
  | 1 => pure .file
  | 2 => pure .directory
  | 3 => pure .absentPath
  | 4 => pure .symlink
  | 5 => pure .executable
  | 6 => pure .mapping
  | 7 => pure .metadata
  | _ => throw .canonicalDecoding

def decodeObservation (bytes : Bytes) : Except ContractError ObservationV2 := do
  let object : RawObject WireType ← codec.parseNested bytes
  codec.expectObject object typeObservation [(1, .u64), (2, .u32), (3, .enum), (4, .bytes), (5, .object)]
  let kind ← decodeObservationKind (← codec.payload object.fields 3)
  let sequence ← decodeU64 (← codec.payload object.fields 1)
  let logicalTaskId ← decodeU32 (← codec.payload object.fields 2)
  let sandboxSubject ← SandboxPath.new (← codec.payload object.fields 4)
  let canonicalDetail ← decodeObservationDetail (← codec.payload object.fields 5)
  pure { sequence, logicalTaskId, kind, sandboxSubject, canonicalDetail }

def decodeAmbientKind (bytes : Bytes) : Except ContractError AmbientKindV2 := do
  match ← decodeSimpleEnum bytes with
  | 1 => pure .logicalTime
  | 2 => pure .logicalRandom
  | 3 => pure .logicalPid
  | 4 => pure .sleep
  | 5 => pure .signal
  | _ => throw .canonicalDecoding

def decodeAmbient (bytes : Bytes) : Except ContractError AmbientEventV2 := do
  let object : RawObject WireType ← codec.parseNested bytes
  codec.expectObject object typeAmbientEvent [(1, .u64), (2, .u32), (3, .enum), (4, .object)]
  let kind ← decodeAmbientKind (← codec.payload object.fields 3)
  let sequence ← decodeU64 (← codec.payload object.fields 1)
  let logicalTaskId ← decodeU32 (← codec.payload object.fields 2)
  let canonicalDetail ← decodeBlob (← codec.payload object.fields 4)
  pure { sequence, logicalTaskId, kind, canonicalDetail }

def decodeEffectKind (bytes : Bytes) : Except ContractError EffectKindV2 := do
  match ← decodeSimpleEnum bytes with
  | 1 => pure .write
  | 2 => pure .truncate
  | 3 => pure .metadata
  | 4 => pure .link
  | 5 => pure .rename
  | 6 => pure .unlink
  | 7 => pure .mkdir
  | 8 => pure .rmdir
  | 9 => pure .writableMapping
  | _ => throw .canonicalDecoding

def decodeEffect (bytes : Bytes) : Except ContractError OrderedEffectV2 := do
  let object : RawObject WireType ← codec.parseNested bytes
  codec.expectObject object typeOrderedEffect [(1, .u64), (2, .u32), (3, .enum), (4, .bytes), (5, .object)]
  let kind ← decodeEffectKind (← codec.payload object.fields 3)
  let sequence ← decodeU64 (← codec.payload object.fields 1)
  let logicalTaskId ← decodeU32 (← codec.payload object.fields 2)
  let sandboxSubject ← SandboxPath.new (← codec.payload object.fields 4)
  let canonicalDetail ← decodeBlob (← codec.payload object.fields 5)
  pure { sequence, logicalTaskId, kind, sandboxSubject, canonicalDetail }

def decodeStream (bytes : Bytes) : Except ContractError StreamCaptureV2 := do
  let value : RawEnum WireType ← codec.parseEnum bytes
  match value.variant with
  | 1 => do
    codec.expectEnum value 1 [(1, .object)]
    pure (.complete (← decodeBlob (← codec.payload value.fields 1)))
  | 2 => do
    codec.expectEnum value 2 [(1, .u64)]
    pure (.exceeded (← decodeU64 (← codec.payload value.fields 1)))
  | 3 => do
    codec.expectEnum value 3 [(1, .u64), (2, .u16)]
    let observedBytes ← decodeU64 (← codec.payload value.fields 1)
    pure (.incomplete observedBytes (← decodeExecuteOnlyCode (← codec.payload value.fields 2)))
  | _ => throw .canonicalDecoding

def decodeResult (bytes : Bytes) : Except ContractError EffectResultV2 := do
  let object : RawObject WireType ← codec.parseNested bytes
  codec.expectObject object typeResult [(1, .enum), (2, .enum), (3, .u32)]
  let stdout ← decodeStream (← codec.payload object.fields 1)
  let stderr ← decodeStream (← codec.payload object.fields 2)
  let rawLinuxWaitStatus ← decodeU32 (← codec.payload object.fields 3)
  pure { stdout, stderr, rawLinuxWaitStatus }

/-- A path of a shape or a dependency; a bad one is a decoding failure. -/
def decodeSandboxPath (bytes : Bytes) : Except ContractError SandboxPath :=
  (SandboxPath.new bytes).mapError fun _ => .canonicalDecoding

def decodeShape (hash : Blake3) (bytes : Bytes) : Except ContractError ShapeV1 := do
  let object : RawObject WireType ← codec.parseTop bytes
  codec.expectObject object typeShape [(1, .utf8), (2, .utf8), (3, .bytes), (4, .bytes), (5, .object), (6, .object),
    (7, .list), (8, .bytes), (9, .bytes), (10, .enum), (11, .bytes), (12, .bytes), (13, .object), (14, .bytes)]
  let schema ← decodeUtf8 (← codec.payload object.fields 1)
  let profileId ← decodeUtf8 (← codec.payload object.fields 2)
  let profileDigest ← exact 32 (← codec.payload object.fields 3)
  let workspaceIdentity ← exact 32 (← codec.payload object.fields 4)
  let invocation ← decodeInvocation (← codec.payload object.fields 5)
  let environment ← decodeEnvironment (← codec.payload object.fields 6)
  let resolvedSelectorTargets ← (← codec.decodeList (← codec.payload object.fields 7)).mapM decodeSandboxPath
  let executableChainDigest ← exact 32 (← codec.payload object.fields 8)
  let runtimeRoot ← exact 32 (← codec.payload object.fields 9)
  let architecture ← decodeArchitecture (← codec.payload object.fields 10)
  let capabilityDigest ← exact 32 (← codec.payload object.fields 11)
  let namespacePolicyDigest ← exact 32 (← codec.payload object.fields 12)
  let policyDigests ← decodePolicyDigests (← codec.payload object.fields 13)
  let executableChainWitness ← codec.payload object.fields 14
  let value : ShapeV1 :=
    { schema, profileId, profileDigest, workspaceIdentity, invocation, environment, resolvedSelectorTargets,
      executableChainDigest, executableChainWitness, runtimeRoot, architecture, capabilityDigest,
      namespacePolicyDigest, policyDigests }
  value.validate hash
  rejectIf ((← encodeShape value) ≠ bytes) .canonicalDecoding
  pure value

def decodeObservationDependency (bytes : Bytes) : Except ContractError ObservationDependencyV1 := do
  let object : RawObject WireType ← codec.parseNested bytes
  codec.expectObject object typeObservationDependency [(1, .bytes), (2, .enum), (3, .bytes), (4, .object)]
  let key ← codec.payload object.fields 1
  let kind ← decodeObservationKind (← codec.payload object.fields 2)
  let subject ← decodeSandboxPath (← codec.payload object.fields 3)
  let currentValue ← decodeBlob (← codec.payload object.fields 4)
  pure { key, kind, subject, currentValue }

def decodeObservationClosure (bytes : Bytes) : Except ContractError ObservationClosureV1 := do
  let object : RawObject WireType ← codec.parseTop bytes
  codec.expectObject object typeObservationClosure [(1, .list)]
  let value ← ObservationClosureV1.new
    (← (← codec.decodeList (← codec.payload object.fields 1)).mapM decodeObservationDependency)
  rejectIf ((← encodeObservationClosure value) ≠ bytes) .canonicalDecoding
  pure value

def decodeDisposition (bytes : Bytes) : Except ContractError EffectRecordDispositionV2 := do
  match ← decodeSimpleEnum bytes with
  | 1 => pure .executedOnly
  | 2 => pure .primaryCandidate
  | 3 => pure .shadowCandidate
  | _ => throw .canonicalDecoding

/-- The record as it is read, before it is checked. -/
def readRecord (hash : Blake3) (bytes : Bytes) : Except ContractError EffectRecordV2 := do
  let object : RawObject WireType ← codec.parseTop bytes
  codec.expectObject object typeEffectRecord [(1, .utf8), (2, .bytes), (3, .utf8), (4, .bytes), (5, .bytes),
    (6, .bytes), (7, .object), (8, .bytes), (9, .object), (10, .object), (11, .object), (12, .object), (13, .list),
    (14, .list), (15, .list), (16, .bytes), (17, .object), (18, .enum), (19, .optional), (20, .optional),
    (21, .optional), (22, .u64), (23, .bytes), (24, .bytes)]
  let disposition ← decodeDisposition (← codec.payload object.fields 18)
  let dispositionReason ← (← codec.decodeOptional (← codec.payload object.fields 19)).mapM decodeExecuteOnlyCode
  let primaryRecordId ← (← codec.decodeOptional (← codec.payload object.fields 20)).mapM (exact 16)
  rejectIf ((← codec.decodeOptional (← codec.payload object.fields 21)).isSome) .canonicalDecoding
  let schema ← decodeUtf8 (← codec.payload object.fields 1)
  let recordId ← exact 16 (← codec.payload object.fields 2)
  let profileId ← decodeUtf8 (← codec.payload object.fields 3)
  let profileDigest ← exact 32 (← codec.payload object.fields 4)
  let shapeKey ← exact 32 (← codec.payload object.fields 5)
  let requestKey ← exact 32 (← codec.payload object.fields 6)
  let invocation ← decodeInvocation (← codec.payload object.fields 7)
  let workspaceIdentity ← exact 32 (← codec.payload object.fields 8)
  let environment ← decodeEnvironment (← codec.payload object.fields 9)
  let sealedSnapshot ← decodeSnapshot (← codec.payload object.fields 10)
  let platform ← decodePlatform (← codec.payload object.fields 11)
  let trace ← decodeTrace (← codec.payload object.fields 12)
  let observations ← (← codec.decodeList (← codec.payload object.fields 13)).mapM decodeObservation
  let ambientEvents ← (← codec.decodeList (← codec.payload object.fields 14)).mapM decodeAmbient
  let orderedEffects ← (← codec.decodeList (← codec.payload object.fields 15)).mapM decodeEffect
  let finalWorkspaceRoot ← exact 32 (← codec.payload object.fields 16)
  let result ← decodeResult (← codec.payload object.fields 17)
  let createdMonotonicNs ← decodeU64 (← codec.payload object.fields 22)
  let shape ← decodeShape hash (← codec.payload object.fields 23)
  let observationClosure ← decodeObservationClosure (← codec.payload object.fields 24)
  pure { schema, recordId, profileId, profileDigest, shapeKey, requestKey, invocation, workspaceIdentity, environment,
         sealedSnapshot, platform, trace, observations, ambientEvents, orderedEffects, finalWorkspaceRoot, result,
         disposition, dispositionReason, primaryRecordId, createdMonotonicNs, shape, observationClosure }

def decodeRecord (hash : Blake3) (bytes : Bytes) : Except ContractError EffectRecordV2 := do
  let value ← readRecord hash bytes
  value.validate hash
  rejectIf ((← encodeRecord hash value) ≠ bytes) .canonicalDecoding
  pure value

/-! ## What was encoded is read back -/

attribute [local simp] callBytes callU16 callU32 callU64 callUtf8 Codec.expectObject_ok Codec.expectEnum_ok

open Codec

variable {bytes : Bytes}

theorem decodeStdinProfile_encode {value : StdinProfileV1} (h : SimpleEnum value.code bytes) :
    decodeStdinProfile bytes = .ok value :=
  decodeSimpleEnum_bind h (by rintro ⟨⟩ <;> rfl)

theorem decodeArchitecture_encode {value : ArchitectureV1} (h : SimpleEnum value.code bytes) :
    decodeArchitecture bytes = .ok value :=
  decodeSimpleEnum_bind h (by rintro ⟨⟩; rfl)

theorem decodeTracePhase_encode {value : TracePhaseV1} (h : SimpleEnum value.code bytes) :
    decodeTracePhase bytes = .ok value :=
  decodeSimpleEnum_bind h (by rintro ⟨⟩ <;> rfl)

theorem decodeObservationKind_encode {value : ObservationKindV2} (h : SimpleEnum value.code bytes) :
    decodeObservationKind bytes = .ok value :=
  decodeSimpleEnum_bind h (by rintro ⟨⟩ <;> rfl)

theorem decodeAmbientKind_encode {value : AmbientKindV2} (h : SimpleEnum value.code bytes) :
    decodeAmbientKind bytes = .ok value :=
  decodeSimpleEnum_bind h (by rintro ⟨⟩ <;> rfl)

theorem decodeEffectKind_encode {value : EffectKindV2} (h : SimpleEnum value.code bytes) :
    decodeEffectKind bytes = .ok value :=
  decodeSimpleEnum_bind h (by rintro ⟨⟩ <;> rfl)

theorem decodeDisposition_encode {value : EffectRecordDispositionV2} (h : SimpleEnum value.code bytes) :
    decodeDisposition bytes = .ok value :=
  decodeSimpleEnum_bind h (by rintro ⟨⟩ <;> rfl)

theorem fromU16_code (reason : ExecuteOnlyCode) : ExecuteOnlyCode.fromU16 reason.code = some reason := by
  cases reason <;> rfl

@[simp] theorem decodeExecuteOnlyCode_be16 (reason : ExecuteOnlyCode) :
    decodeExecuteOnlyCode (be16 reason.code) = .ok reason := by
  simp [decodeExecuteOnlyCode, fromU16_code]

theorem fromU8_code (dimension : CompletenessDimensionV2) :
    CompletenessDimensionV2.fromU8 dimension.code = some dimension := by
  cases dimension <;> rfl

@[simp] theorem decodeDimension_code (dimension : CompletenessDimensionV2) :
    decodeDimension [dimension.code] = .ok dimension := by
  simp [decodeDimension, fromU8_code]

theorem decodeBlob_encode : ReadsBack encodeBlob decodeBlob := by
  refine readsBack_nested fun _ _ _ hcalls hparse => ?_
  simp at hcalls
  subst hcalls
  simp [decodeBlob, hparse]

theorem decodeSelector_encode : ReadsBack encodeSelector decodeSelector := by
  refine readsBack_nested fun _ _ _ hcalls hparse => ?_
  simp at hcalls
  obtain ⟨_, hnodes, rfl⟩ := hcalls
  simp [decodeSelector, hparse, decodeList_encodeList hnodes]

theorem decodeInvocation_encode : ReadsBack encodeInvocation decodeInvocation := by
  refine readsBack_nested fun _ _ _ hcalls hparse => ?_
  simp at hcalls
  obtain ⟨_, hargv, _, _, _, ⟨⟨hitems, hselectors⟩, hstdin⟩, rfl⟩ := hcalls
  simp [decodeInvocation, hparse, decodeList_encodeList hargv,
    decodeList_encodeList hselectors, mapM_inverse (fun _ _ => decodeSelector_encode _) hitems,
    decodeStdinProfile_encode hstdin]

theorem decodeEnvironment_encode : ReadsBack encodeEnvironment decodeEnvironment := by
  refine readsBack_nested fun _ _ _ hcalls hparse => ?_
  simp at hcalls
  subst hcalls
  simp [decodeEnvironment, hparse]

theorem decodeSnapshot_encode : ReadsBack encodeSnapshot decodeSnapshot := by
  refine readsBack_nested fun _ _ _ hcalls hparse => ?_
  simp at hcalls
  obtain ⟨_, hblob, rfl⟩ := hcalls
  simp [decodeSnapshot, hparse, decodeBlob_encode _ _ hblob]

theorem decodeNamespaceIds_encode : ReadsBack encodeNamespaceIds decodeNamespaceIds := by
  refine readsBack_nested fun _ _ _ hcalls hparse => ?_
  simp at hcalls
  subst hcalls
  simp [decodeNamespaceIds, hparse]

theorem decodePolicyDigests_encode : ReadsBack encodePolicyDigests decodePolicyDigests := by
  refine readsBack_nested fun _ _ _ hcalls hparse => ?_
  simp at hcalls
  subst hcalls
  simp [decodePolicyDigests, hparse]

theorem decodePlatform_encode : ReadsBack encodePlatform decodePlatform := by
  refine readsBack_nested fun _ _ _ hcalls hparse => ?_
  simp at hcalls
  obtain ⟨_, harchitecture, _, _, ⟨hnamespaces, hpolicies⟩, rfl⟩ := hcalls
  simp [decodePlatform, hparse, decodeArchitecture_encode harchitecture,
    decodeNamespaceIds_encode _ _ hnamespaces, decodePolicyDigests_encode _ _ hpolicies]

theorem decodeTraceCounters_encode : ReadsBack encodeTraceCounters decodeTraceCounters := by
  refine readsBack_nested fun _ _ _ hcalls hparse => ?_
  simp at hcalls
  subst hcalls
  simp [decodeTraceCounters, hparse]

theorem optionMapM_map {α β : Type} {f : α → Bytes} {g : Bytes → Except ContractError β} {k : α → β}
    (h : ∀ a, g (f a) = .ok (k a)) (value : Option α) : (value.map f).mapM g = .ok (value.map k) := by
  cases value <;> simp [h]

theorem decodeFirstFailure_encode : ReadsBack encodeFirstFailure decodeFirstFailure := by
  refine readsBack_nested fun _ _ _ hcalls hparse => ?_
  simp at hcalls
  obtain ⟨_, _, _, ⟨hphase, hsequence, htask⟩, rfl⟩ := hcalls
  simp [decodeFirstFailure, hparse, decodeTracePhase_encode hphase,
    decodeOptional_encodeOptional hsequence, decodeOptional_encodeOptional htask,
    optionMapM_map decodeU64_be64, optionMapM_map decodeU32_be32]

theorem readTrace_encode : ReadsBack encodeTrace readTrace := by
  refine readsBack_nested fun _ _ _ hcalls hparse => ?_
  simp at hcalls
  obtain ⟨_, _, _, ⟨hcounters, hitem, hfailure⟩, rfl⟩ := hcalls
  simp [readTrace, hparse, decodeTraceCounters_encode _ _ hcounters,
    decodeOptional_encodeOptional hfailure, optionMapM_inverse decodeFirstFailure_encode hitem]

theorem decodeDetailVariant_fields (value : ObservationDetailV1) :
    decodeDetailVariant ⟨value.kind.code, observationDetailFields value⟩ = .ok value := by
  cases value <;> simp [decodeDetailVariant, ObservationDetailV1.kind, ObservationKindV2.code, observationDetailFields,
    enumField]

theorem decodeObservationDetail_encode : ReadsBack encodeObservationDetail decodeObservationDetail := by
  intro value bytes h
  obtain ⟨_, hvalid, hencode⟩ := bind_eq_ok.mp h
  obtain ⟨fields, hcalls, hparse⟩ := parseNested_encodeNested hencode
  simp [observationDetailCalls] at hcalls
  obtain ⟨_, henum, rfl⟩ := hcalls
  simp [decodeObservationDetail, hparse, parseEnum_encodeEnum henum,
    decodeDetailVariant_fields, hvalid, h]

theorem decodeObservationDetailTop_encode : ReadsBack encodeObservationDetailTop decodeObservationDetailTop := by
  intro value bytes h
  obtain ⟨⟨⟩, hvalid, htop⟩ := bind_eq_ok.mp h
  obtain ⟨hsize, nested, hstrip, hnested⟩ := strip_encodeTop htop
  have hencode : encodeObservationDetail value = .ok nested := by simp [encodeObservationDetail, hvalid, hnested]
  simp [decodeObservationDetailTop, hsize, hstrip, decodeObservationDetail_encode _ _ hencode, h]

theorem decodeObservation_encode : ReadsBack encodeObservation decodeObservation := by
  refine readsBack_nested fun _ _ _ hcalls hparse => ?_
  simp at hcalls
  obtain ⟨_, _, ⟨hkind, hdetail⟩, rfl⟩ := hcalls
  simp [decodeObservation, hparse, decodeObservationKind_encode hkind,
    decodeObservationDetail_encode _ _ hdetail]

theorem decodeAmbient_encode : ReadsBack encodeAmbient decodeAmbient := by
  refine readsBack_nested fun _ _ _ hcalls hparse => ?_
  simp at hcalls
  obtain ⟨_, _, ⟨hkind, hdetail⟩, rfl⟩ := hcalls
  simp [decodeAmbient, hparse, decodeAmbientKind_encode hkind, decodeBlob_encode _ _ hdetail]

theorem decodeEffect_encode : ReadsBack encodeEffect decodeEffect := by
  refine readsBack_nested fun _ _ _ hcalls hparse => ?_
  simp at hcalls
  obtain ⟨_, _, ⟨hkind, hdetail⟩, rfl⟩ := hcalls
  simp [decodeEffect, hparse, decodeEffectKind_encode hkind, decodeBlob_encode _ _ hdetail]

theorem decodeStream_encode : ReadsBack encodeStream decodeStream := by
  intro value bytes h
  cases value with
  | complete blob =>
    obtain ⟨_, hblob, henum⟩ := bind_eq_ok.mp h
    simp [decodeStream, parseEnum_encodeEnum henum, enumField, decodeBlob_encode _ _ hblob]
  | exceeded observedBytes | incomplete observedBytes reason =>
    simp [decodeStream, parseEnum_encodeEnum h, enumField]

theorem decodeResult_encode : ReadsBack encodeResult decodeResult := by
  refine readsBack_nested fun _ _ _ hcalls hparse => ?_
  simp at hcalls
  obtain ⟨_, hstdout, _, hstderr, rfl⟩ := hcalls
  simp [decodeResult, hparse, decodeStream_encode _ _ hstdout, decodeStream_encode _ _ hstderr]

@[simp] theorem decodeSandboxPath_val (path : SandboxPath) : decodeSandboxPath path.val = .ok path := by
  simp [decodeSandboxPath, Except.mapError]

theorem decodeSandboxPaths_val (paths : List SandboxPath) : (paths.map (·.val)).mapM decodeSandboxPath = .ok paths := by
  induction paths with
  | nil => rfl
  | cons path paths ih => simp_all [List.mapM_cons]

theorem decodeShape_encode (hash : Blake3) {value : ShapeV1} (hvalid : value.validate hash = .ok ())
    (h : encodeShape value = .ok bytes) : decodeShape hash bytes = .ok value := by
  obtain ⟨fields, hcalls, hparse⟩ := parseTop_encodeTop h
  simp at hcalls
  obtain ⟨_, _, _, _, _, ⟨hinvocation, henvironment, htargets, harchitecture, hpolicies⟩, rfl⟩ := hcalls
  have hpaths := decodeSandboxPaths_val value.resolvedSelectorTargets
  simp at hpaths
  simp [decodeShape, hparse, decodeInvocation_encode _ _ hinvocation,
    decodeEnvironment_encode _ _ henvironment, decodeList_encodeList htargets, hpaths,
    decodeArchitecture_encode harchitecture, decodePolicyDigests_encode _ _ hpolicies, hvalid, h]

theorem decodeObservationDependency_encode : ReadsBack encodeObservationDependency decodeObservationDependency := by
  refine readsBack_nested fun _ _ _ hcalls hparse => ?_
  simp at hcalls
  obtain ⟨_, _, ⟨hkind, hvalue⟩, rfl⟩ := hcalls
  simp [decodeObservationDependency, hparse, decodeObservationKind_encode hkind,
    decodeBlob_encode _ _ hvalue]

/-- The dependencies of a valid closure are in order already, so building it again changes nothing. -/
theorem decodeObservationClosure_encode {value : ObservationClosureV1} (hvalid : value.validate = .ok ())
    (h : encodeObservationClosure value = .ok bytes) : decodeObservationClosure bytes = .ok value := by
  obtain ⟨fields, hcalls, hparse⟩ := parseTop_encodeTop h
  simp at hcalls
  obtain ⟨_, _, ⟨hitems, hlist⟩, rfl⟩ := hcalls
  simp [decodeObservationClosure, hparse, decodeList_encodeList hlist,
    mapM_inverse (fun _ _ => decodeObservationDependency_encode _) hitems,
    ObservationClosureV1.new_dependencies hvalid, h]

/-- The parts of a record that are validated where they are encoded or read. -/
structure PartsValid (hash : Blake3) (value : EffectRecordV2) : Prop where
  trace : value.trace.validate = .ok ()
  shape : value.shape.validate hash = .ok ()
  closure : value.observationClosure.validate = .ok ()

theorem partsValid (h : value.validate hash = .ok ()) : PartsValid hash value := by
  simp only [EffectRecordV2.validate, EffectRecordV2.validateShared, bind_eq_ok, exists_unit] at h
  exact ⟨h.1.2.1, h.1.2.2.1, h.1.2.2.2.1⟩

theorem readRecord_encode (hvalid : PartsValid hash value) (h : encodeRecord hash value = .ok bytes) :
    readRecord hash bytes = .ok value := by
  obtain ⟨fields, hcalls, hparse⟩ := parseTop_encodeTop h
  -- half of the calls at a time
  have hfirst := List.forall₂_take 12 hcalls
  have hlast := List.forall₂_drop 12 hcalls
  simp at hfirst
  simp [ShapeV1.canonicalBytes, ObservationClosureV1.canonicalBytes, hvalid.shape,
    hvalid.closure] at hlast
  obtain ⟨_, _, _, _, _, ⟨hinvocation, henvironment, hsnapshot, hplatform, htrace⟩, hfirst⟩ := hfirst
  obtain ⟨_, _, ⟨hobservations, hobservationList⟩, _, _, _, _, _, _, _, _, _, _, _, ⟨⟨hambient, hambientList⟩,
    ⟨heffects, heffectList⟩, hresult, hdisposition, hreason, hprimary, habsent, hshape, hclosure⟩, hlast⟩ := hlast
  rw [← List.take_append_drop 12 fields, hfirst, hlast] at hparse
  have hprimaryRead : (value.primaryRecordId.map (·.val)).mapM (exact 16) = .ok value.primaryRecordId := by
    rw [optionMapM_map exact_val, Option.map_id']
  simp at hprimaryRead
  simp [readRecord, hparse, decodeInvocation_encode _ _ hinvocation,
    decodeEnvironment_encode _ _ henvironment, decodeSnapshot_encode _ _ hsnapshot, decodePlatform_encode _ _ hplatform,
    decodeTrace, readTrace_encode _ _ htrace, hvalid.trace, decodeList_encodeList hobservationList,
    mapM_inverse (fun _ _ => decodeObservation_encode _) hobservations, decodeList_encodeList hambientList,
    mapM_inverse (fun _ _ => decodeAmbient_encode _) hambient, decodeList_encodeList heffectList,
    mapM_inverse (fun _ _ => decodeEffect_encode _) heffects, decodeResult_encode _ _ hresult,
    decodeDisposition_encode hdisposition, decodeOptional_encodeOptional hreason,
    optionMapM_map decodeExecuteOnlyCode_be16, decodeOptional_encodeOptional hprimary, hprimaryRead,
    decodeOptional_encodeOptional habsent, decodeShape_encode hash hvalid.shape hshape,
    decodeObservationClosure_encode hvalid.closure hclosure]

theorem decodeRecord_encode (hvalid : value.validate hash = .ok ()) (h : encodeRecord hash value = .ok bytes) :
    decodeRecord hash bytes = .ok value := by
  simp [decodeRecord, readRecord_encode (partsValid hvalid) h, hvalid, h]

end Again.Pytest.Canonical
