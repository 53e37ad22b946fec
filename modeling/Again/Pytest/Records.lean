import Again.Pytest.Shape
import Again.Tracer.WaitStatus

/-!
# Effect records

`linux_pytest.rs` and `canonical.rs`: `EffectRecordV2`, what one traced run
observed, did and returned, with its completeness masks. `validate` recomputes
the shape key, the closure and the request key from the record's own content.
-/

namespace Again.Pytest

open Lib

/-! ## Closed vocabularies -/

inductive CompletenessDimensionV2 where
  | sealedSnapshot | runtimeClosure | tmpfsMountRoot | namespaceSet | fdHygiene | descendantLifecycle
  | seccompStream | pathResolution | fileContent | fileMapping | fileMetadata | directoryMembership
  | negativeLookup | symlinkMagiclink | execLibraryIdentity | environment | stdin | stdout | stderr
  | filesystemEffects | finalWorkspaceRoot | networkIsolation | ipcIsolation | signalsExitStatus | logicalTime
  | logicalRandom | logicalPidIdentity | singleRunnableSchedule | limitsCpuIdentity | landlock | cleanup
  | traceIntegrity
deriving DecidableEq

/-- In the order of the discriminants, from 0. -/
def CompletenessDimensionV2.all : List CompletenessDimensionV2 :=
  [.sealedSnapshot, .runtimeClosure, .tmpfsMountRoot, .namespaceSet, .fdHygiene, .descendantLifecycle,
    .seccompStream, .pathResolution, .fileContent, .fileMapping, .fileMetadata, .directoryMembership,
    .negativeLookup, .symlinkMagiclink, .execLibraryIdentity, .environment, .stdin, .stdout, .stderr,
    .filesystemEffects, .finalWorkspaceRoot, .networkIsolation, .ipcIsolation, .signalsExitStatus, .logicalTime,
    .logicalRandom, .logicalPidIdentity, .singleRunnableSchedule, .limitsCpuIdentity, .landlock, .cleanup,
    .traceIntegrity]

def CompletenessDimensionV2.code (dimension : CompletenessDimensionV2) : UInt8 := UInt8.ofNat (all.idxOf dimension)

def CompletenessDimensionV2.bit (dimension : CompletenessDimensionV2) : UInt64 := 1 <<< dimension.code.toUInt64

def CompletenessDimensionV2.fromU8 (value : UInt8) : Option CompletenessDimensionV2 := all[value.toNat]?

/-- Why a foreground result cannot enter promotion. -/
inductive ExecuteOnlyCode where
  | sourceMutatedDuringSnapshot | snapshotManifestUnstable | unsupportedSnapshotObject | sparseLayoutLoss
  | xattrLoss | runtimeClosureIncomplete | descendantExecUnsealed | executableMappingUnsupported
  | syscallUnknown | traceOperationUnsupported | pathResolutionUnsupported | metadataSurfaceUnsupported
  | sharedWritableMapping | splicePathUnsupported | timeSurfaceUnsupported | entropySurfaceUnsupported
  | pidIdentitySurfaceUnsupported | concurrentRunnableWorkload | schedulingSurfaceUnsupported
  | asynchronousSignal | networkAttempt | externalUnixSocketAttempt | externalFdAcquired
  | forbiddenSyscallAttempt | namespaceEscapeAttempt | mountEscapeAttempt | processIntrospectionAttempt
  | runtimeClosureViolation | landlockPolicyViolation | fdHygieneViolation | stdoutLimit | stderrLimit
  | descendantTaskLimit | traceEventLimit | traceEncodingLimit | wallTimeLimit | snapshotLimit | branchLimit
  | scratchLimit | memoryLimit | openFileLimit | perFileLimit | foregroundNonzeroExit | foregroundSignaled
  | traceEventLost | traceEventMalformed | traceEventOutOfOrder | traceEventUnknown | counterOverflow
  | decoderDisagreement | tracerRestart | missingFinalAck | descendantUnreaped | effectDiffMismatch
  | finalRootUnstable | recordEncodingFailure | captureFailure | cleanupIncomplete | casCorruption
deriving DecidableEq

def ExecuteOnlyCode.code : ExecuteOnlyCode → UInt16
  | sourceMutatedDuringSnapshot => 0x1001
  | snapshotManifestUnstable => 0x1002
  | unsupportedSnapshotObject => 0x1003
  | sparseLayoutLoss => 0x1004
  | xattrLoss => 0x1005
  | runtimeClosureIncomplete => 0x1010
  | descendantExecUnsealed => 0x1011
  | executableMappingUnsupported => 0x1012
  | syscallUnknown => 0x1020
  | traceOperationUnsupported => 0x1021
  | pathResolutionUnsupported => 0x1022
  | metadataSurfaceUnsupported => 0x1023
  | sharedWritableMapping => 0x1024
  | splicePathUnsupported => 0x1025
  | timeSurfaceUnsupported => 0x1030
  | entropySurfaceUnsupported => 0x1031
  | pidIdentitySurfaceUnsupported => 0x1032
  | concurrentRunnableWorkload => 0x1033
  | schedulingSurfaceUnsupported => 0x1034
  | asynchronousSignal => 0x1035
  | networkAttempt => 0x2001
  | externalUnixSocketAttempt => 0x2002
  | externalFdAcquired => 0x2003
  | forbiddenSyscallAttempt => 0x2004
  | namespaceEscapeAttempt => 0x2005
  | mountEscapeAttempt => 0x2006
  | processIntrospectionAttempt => 0x2007
  | runtimeClosureViolation => 0x2008
  | landlockPolicyViolation => 0x2009
  | fdHygieneViolation => 0x200a
  | stdoutLimit => 0x3001
  | stderrLimit => 0x3002
  | descendantTaskLimit => 0x3003
  | traceEventLimit => 0x3004
  | traceEncodingLimit => 0x3005
  | wallTimeLimit => 0x3006
  | snapshotLimit => 0x3007
  | branchLimit => 0x3008
  | scratchLimit => 0x3009
  | memoryLimit => 0x300a
  | openFileLimit => 0x300b
  | perFileLimit => 0x300c
  | foregroundNonzeroExit => 0x3010
  | foregroundSignaled => 0x3011
  | traceEventLost => 0x4001
  | traceEventMalformed => 0x4002
  | traceEventOutOfOrder => 0x4003
  | traceEventUnknown => 0x4004
  | counterOverflow => 0x4005
  | decoderDisagreement => 0x4006
  | tracerRestart => 0x4007
  | missingFinalAck => 0x4008
  | descendantUnreaped => 0x4009
  | effectDiffMismatch => 0x400a
  | finalRootUnstable => 0x400b
  | recordEncodingFailure => 0x400c
  | captureFailure => 0x400d
  | cleanupIncomplete => 0x400e
  | casCorruption => 0x400f

def ExecuteOnlyCode.all : List ExecuteOnlyCode :=
  [.sourceMutatedDuringSnapshot, .snapshotManifestUnstable, .unsupportedSnapshotObject, .sparseLayoutLoss,
    .xattrLoss, .runtimeClosureIncomplete, .descendantExecUnsealed, .executableMappingUnsupported,
    .syscallUnknown, .traceOperationUnsupported, .pathResolutionUnsupported, .metadataSurfaceUnsupported,
    .sharedWritableMapping, .splicePathUnsupported, .timeSurfaceUnsupported, .entropySurfaceUnsupported,
    .pidIdentitySurfaceUnsupported, .concurrentRunnableWorkload, .schedulingSurfaceUnsupported,
    .asynchronousSignal, .networkAttempt, .externalUnixSocketAttempt, .externalFdAcquired,
    .forbiddenSyscallAttempt, .namespaceEscapeAttempt, .mountEscapeAttempt, .processIntrospectionAttempt,
    .runtimeClosureViolation, .landlockPolicyViolation, .fdHygieneViolation, .stdoutLimit, .stderrLimit,
    .descendantTaskLimit, .traceEventLimit, .traceEncodingLimit, .wallTimeLimit, .snapshotLimit, .branchLimit,
    .scratchLimit, .memoryLimit, .openFileLimit, .perFileLimit, .foregroundNonzeroExit, .foregroundSignaled,
    .traceEventLost, .traceEventMalformed, .traceEventOutOfOrder, .traceEventUnknown, .counterOverflow,
    .decoderDisagreement, .tracerRestart, .missingFinalAck, .descendantUnreaped, .effectDiffMismatch,
    .finalRootUnstable, .recordEncodingFailure, .captureFailure, .cleanupIncomplete, .casCorruption]

def ExecuteOnlyCode.fromU16 (value : UInt16) : Option ExecuteOnlyCode := all.find? fun reason => reason.code == value

inductive TracePhaseV1 where
  | snapshot | isolation | trace | finalize | capture | cleanup
deriving DecidableEq

def TracePhaseV1.code : TracePhaseV1 → UInt16
  | snapshot => 1
  | isolation => 2
  | trace => 3
  | finalize => 4
  | capture => 5
  | cleanup => 6

inductive AmbientKindV2 where
  | logicalTime | logicalRandom | logicalPid | sleep | signal
deriving DecidableEq

def AmbientKindV2.code : AmbientKindV2 → UInt16
  | logicalTime => 1
  | logicalRandom => 2
  | logicalPid => 3
  | sleep => 4
  | signal => 5

inductive EffectKindV2 where
  | write | truncate | metadata | link | rename | unlink | mkdir | rmdir | writableMapping
deriving DecidableEq

def EffectKindV2.code : EffectKindV2 → UInt16
  | write => 1
  | truncate => 2
  | metadata => 3
  | link => 4
  | rename => 5
  | unlink => 6
  | mkdir => 7
  | rmdir => 8
  | writableMapping => 9

inductive EffectRecordDispositionV2 where
  | executedOnly | primaryCandidate | shadowCandidate
deriving DecidableEq

def EffectRecordDispositionV2.code : EffectRecordDispositionV2 → UInt16
  | executedOnly => 1
  | primaryCandidate => 2
  | shadowCandidate => 3

/-! ## The trace -/

def linuxPytestV1MaxTraceEvents : Nat := 10000000
def linuxPytestV1MaxTraceBytes : Nat := 512 * 1024 * 1024
def linuxPytestV1MaxTaskLifetimes : Nat := 256
def linuxPytestV1MaxStreamBytes : Nat := 16 * 1024 * 1024

abbrev EffectBitmap := UInt64

def EffectBitmap.contains (bitmap : EffectBitmap) (dimension : CompletenessDimensionV2) : Bool :=
  bitmap &&& dimension.bit != 0

def EffectBitmap.hasUnknownBits (bitmap : EffectBitmap) : Bool := bitmap &&& ~~~effectIrV2RequiredMask != 0

structure TraceCountersV1 where
  finalSequence : UInt64
  eventCount : UInt64
  syscallEventCount : UInt64
  seccompTraceCount : UInt64
  ptraceEventCount : UInt64
  traceEncodedBytes : UInt64
  taskBirthCount : UInt64
  taskExecCount : UInt64
  taskExitCount : UInt64
  taskReapCount : UInt64
  observationCount : UInt64
  ambientEventCount : UInt64
  orderedEffectCount : UInt64
  deniedOperationCount : UInt64
  unsupportedOperationCount : UInt64
  decoderErrorCount : UInt64
  lostEventCount : UInt64
  finalAckCount : UInt64
deriving DecidableEq

structure FirstFailureV1 where
  dimension : CompletenessDimensionV2
  reason : ExecuteOnlyCode
  phase : TracePhaseV1
  eventSequence : Option UInt64
  logicalTaskId : Option LogicalTaskId
deriving DecidableEq

structure TraceCompletenessV2 where
  required : EffectBitmap
  complete : EffectBitmap
  unsupported : EffectBitmap
  violation : EffectBitmap
  counters : TraceCountersV1
  firstFailure : Option FirstFailureV1
deriving DecidableEq

/-- A sequence number or a task of the trace. -/
def TraceCountersV1.hasSequence (counters : TraceCountersV1) (sequence : UInt64) : Bool :=
  sequence != 0 && decide (sequence ≤ counters.finalSequence)

def TraceCountersV1.hasTask (counters : TraceCountersV1) (task : LogicalTaskId) : Bool :=
  task != 0 && decide (task.toUInt64 ≤ counters.taskBirthCount)

/-- The first failure names an incomplete required dimension and a place in the trace. -/
def TraceCompletenessV2.misplacedFailure (trace : TraceCompletenessV2) (failure : FirstFailureV1) : Bool :=
  !trace.required.contains failure.dimension || trace.complete.contains failure.dimension ||
    failure.eventSequence.any (fun sequence => !trace.counters.hasSequence sequence) ||
    failure.logicalTaskId.any fun task => !trace.counters.hasTask task

def TraceCompletenessV2.validate (trace : TraceCompletenessV2) : Except ContractError Unit :=
  rejectIf (trace.required ≠ effectIrV2RequiredMask ∨ trace.required.hasUnknownBits ∨ trace.complete.hasUnknownBits ∨
    trace.unsupported.hasUnknownBits ∨ trace.violation.hasUnknownBits ∨
    trace.complete &&& ~~~trace.required ≠ 0 ∨ trace.unsupported &&& ~~~trace.required ≠ 0 ∨
    trace.violation &&& ~~~trace.required ≠ 0 ∨ trace.complete &&& trace.unsupported ≠ 0 ∨
    trace.complete &&& trace.violation ≠ 0 ∨ trace.firstFailure.any trace.misplacedFailure ∨
    ((trace.complete ≠ trace.required ∨ trace.unsupported ≠ 0 ∨ trace.violation ≠ 0) ∧ trace.firstFailure = none) ∨
    linuxPytestV1MaxTraceEvents < trace.counters.finalSequence.toNat ∨
    linuxPytestV1MaxTraceEvents < trace.counters.eventCount.toNat ∨
    linuxPytestV1MaxTraceEvents < trace.counters.syscallEventCount.toNat ∨
    trace.counters.syscallEventCount < trace.counters.seccompTraceCount ∨
    linuxPytestV1MaxTraceEvents < trace.counters.ptraceEventCount.toNat ∨
    linuxPytestV1MaxTraceBytes < trace.counters.traceEncodedBytes.toNat ∨
    linuxPytestV1MaxTaskLifetimes < trace.counters.taskBirthCount.toNat ∨
    trace.counters.taskBirthCount < trace.counters.taskExecCount ∨
    trace.counters.taskBirthCount < trace.counters.taskExitCount ∨
    trace.counters.taskExitCount < trace.counters.taskReapCount ∨ 1 < trace.counters.finalAckCount)
    .invalidCompletenessMasks

/-- The expected ptrace events are added up without wrapping. -/
def TraceCompletenessV2.candidateComplete (trace : TraceCompletenessV2) : Bool :=
  decide (trace.validate = .ok ()) && trace.required == effectIrV2RequiredMask && trace.complete == trace.required &&
    trace.unsupported == 0 && trace.violation == 0 && trace.counters.finalSequence == trace.counters.eventCount &&
    trace.counters.eventCount != 0 && trace.counters.syscallEventCount == trace.counters.eventCount &&
    trace.counters.seccompTraceCount == trace.counters.syscallEventCount &&
    trace.counters.ptraceEventCount.toNat ==
      trace.counters.taskBirthCount.toNat + trace.counters.taskExecCount.toNat + trace.counters.taskExitCount.toNat &&
    decide (trace.counters.eventCount ≤ trace.counters.traceEncodedBytes) && trace.counters.taskBirthCount != 0 &&
    trace.counters.taskExecCount != 0 && trace.counters.taskBirthCount == trace.counters.taskExitCount &&
    trace.counters.taskExitCount == trace.counters.taskReapCount && trace.counters.deniedOperationCount == 0 &&
    trace.counters.unsupportedOperationCount == 0 && trace.counters.decoderErrorCount == 0 &&
    trace.counters.lostEventCount == 0 && trace.counters.finalAckCount == 1 && trace.firstFailure == none

/-! ## Events and results -/

structure AmbientEventV2 where
  sequence : UInt64
  logicalTaskId : LogicalTaskId
  kind : AmbientKindV2
  canonicalDetail : BlobRefV2
deriving DecidableEq

structure OrderedEffectV2 where
  sequence : UInt64
  logicalTaskId : LogicalTaskId
  kind : EffectKindV2
  sandboxSubject : SandboxPath
  canonicalDetail : BlobRefV2
deriving DecidableEq

inductive StreamCaptureV2 where
  | complete (blob : BlobRefV2)
  | exceeded (observedBytes : UInt64)
  | incomplete (observedBytes : UInt64) (reason : ExecuteOnlyCode)
deriving DecidableEq

def StreamCaptureV2.completeBlob : StreamCaptureV2 → Option BlobRefV2
  | complete blob => some blob
  | _ => none

abbrev RawLinuxWaitStatusV1 := UInt32

def RawLinuxWaitStatusV1.termination (status : RawLinuxWaitStatusV1) : Option Tracer.LinuxWaitTermination :=
  match Tracer.decodeLinuxWaitStatus status.toInt32 with
  | .ok (.final termination) => some termination
  | _ => none

def RawLinuxWaitStatusV1.isSuccess (status : RawLinuxWaitStatusV1) : Bool := status.termination == some (.exited 0)

def RawLinuxWaitStatusV1.isFinal (status : RawLinuxWaitStatusV1) : Bool := status.termination.isSome

def RawLinuxWaitStatusV1.exitCode (status : RawLinuxWaitStatusV1) : Option UInt8 :=
  match status.termination with
  | some (.exited code) => some code
  | _ => none

def RawLinuxWaitStatusV1.terminatingSignal (status : RawLinuxWaitStatusV1) : Option (UInt8 × Bool) :=
  match status.termination with
  | some (.signaled signal coreDumped) => some (signal, coreDumped)
  | _ => none

structure EffectResultV2 where
  stdout : StreamCaptureV2
  stderr : StreamCaptureV2
  rawLinuxWaitStatus : RawLinuxWaitStatusV1
deriving DecidableEq

def validStream : StreamCaptureV2 → Bool
  | .complete blob => !blob.digest.isZero && decide (blob.byteCount.toNat ≤ linuxPytestV1MaxStreamBytes)
  | .exceeded observedBytes => decide (linuxPytestV1MaxStreamBytes < observedBytes.toNat)
  | .incomplete observedBytes _ => decide (observedBytes.toNat ≤ linuxPytestV1MaxStreamBytes)

def validResultCapture (result : EffectResultV2) : Bool := validStream result.stdout && validStream result.stderr

/-! ## Snapshot and platform -/

abbrev RecordId := Octets 16
abbrev SnapshotId := Octets 16

def isNil (id : Octets 16) : Bool := id == Octets.fill 16 0

structure SealedSnapshotIdentityV2 where
  snapshotId : SnapshotId
  workspaceRoot : MerkleRoot
  runtimeRoot : MerkleRoot
  manifestBlob : BlobRefV2
  profileDigest : ProfileDigest
deriving DecidableEq

structure NamespaceIdsV1 where
  user : UInt64
  mount : UInt64
  pid : UInt64
  network : UInt64
  uts : UInt64
  ipc : UInt64
deriving DecidableEq

def validNamespaceIds (ids : NamespaceIdsV1) : Bool :=
  let values := [ids.user, ids.mount, ids.pid, ids.network, ids.uts, ids.ipc]
  values.all (· != 0) && decide values.Nodup

structure PlatformIdentityV2 where
  architecture : ArchitectureV1
  kernelRelease : Bytes
  capabilityDigest : CapabilityDigest
  namespaceIds : NamespaceIdsV1
  namespacePolicyDigest : PolicyDigest
  policyDigests : PolicyDigestsV1
deriving DecidableEq

/-! ## The record -/

structure EffectRecordV2 where
  schema : String
  recordId : RecordId
  profileId : String
  profileDigest : ProfileDigest
  shapeKey : ShapeKey
  requestKey : RequestKey
  invocation : PytestInvocationIdentityV1
  workspaceIdentity : WorkspaceIdentity
  environment : EnvironmentBindingV1
  sealedSnapshot : SealedSnapshotIdentityV2
  platform : PlatformIdentityV2
  trace : TraceCompletenessV2
  observations : List ObservationV2
  ambientEvents : List AmbientEventV2
  orderedEffects : List OrderedEffectV2
  finalWorkspaceRoot : MerkleRoot
  result : EffectResultV2
  disposition : EffectRecordDispositionV2
  dispositionReason : Option ExecuteOnlyCode
  primaryRecordId : Option RecordId
  createdMonotonicNs : UInt64
  shape : ShapeV1
  observationClosure : ObservationClosureV1
deriving DecidableEq

def strictlyIncreasing (values : List UInt64) : Bool := !anyWindow (fun prior value => decide (value ≤ prior)) values

/-- One event of the union; a sequence number is taken once. -/
def acceptEvents (counters : TraceCountersV1) : List UInt64 → List (UInt64 × LogicalTaskId × Bool) → Bool
  | _, [] => true
  | sequences, (sequence, task, detailValid) :: events =>
    counters.hasSequence sequence && counters.hasTask task && detailValid && !sequences.contains sequence &&
      acceptEvents counters (sequence :: sequences) events

def validBlobDetail (blob : BlobRefV2) : Bool :=
  !blob.digest.isZero && decide (blob.byteCount.toNat ≤ Canonical.effectIrV2MaxCanonicalBytes)

def EffectRecordV2.events (record : EffectRecordV2) : List (UInt64 × LogicalTaskId × Bool) :=
  record.observations.map (fun event => (event.sequence, event.logicalTaskId,
    event.kind == event.canonicalDetail.kind && event.canonicalDetail.valid)) ++
  record.ambientEvents.map (fun event => (event.sequence, event.logicalTaskId, validBlobDetail event.canonicalDetail)) ++
  record.orderedEffects.map fun event => (event.sequence, event.logicalTaskId, validBlobDetail event.canonicalDetail)

def validTraceEventUnion (record : EffectRecordV2) : Bool :=
  let semanticCount := record.observations.length + record.ambientEvents.length + record.orderedEffects.length
  decide (semanticCount < 2 ^ 64) && semanticCount != 0 &&
    decide (semanticCount ≤ record.trace.counters.eventCount.toNat) && acceptEvents record.trace.counters [] record.events

def EffectRecordV2.hasCompleteSuccessResult (record : EffectRecordV2) : Bool :=
  record.trace.candidateComplete && record.result.stdout.completeBlob.isSome &&
    record.result.stderr.completeBlob.isSome && record.result.rawLinuxWaitStatus.isSuccess

/-- The reason a stream gives, if it is not complete. -/
def streamReason (limit : ExecuteOnlyCode) : StreamCaptureV2 → Option ExecuteOnlyCode
  | .exceeded _ => some limit
  | .incomplete _ reason => some reason
  | .complete _ => none

def derivedExecuteOnlyReason (record : EffectRecordV2) : Option ExecuteOnlyCode :=
  (record.trace.firstFailure.map (·.reason)).or <|
    (streamReason .stdoutLimit record.result.stdout).or <|
      (streamReason .stderrLimit record.result.stderr).or <|
        if record.result.rawLinuxWaitStatus.terminatingSignal.isSome then some .foregroundSignaled
        else if record.result.rawLinuxWaitStatus.exitCode.any (· != 0) then some .foregroundNonzeroExit
        else none

/-- The fields the shape repeats. -/
def EffectRecordV2.agreesWithShape (record : EffectRecordV2) : Bool :=
  record.shape.profileId == record.profileId && record.shape.profileDigest == record.profileDigest &&
    record.shape.invocation == record.invocation && record.shape.workspaceIdentity == record.workspaceIdentity &&
    record.shape.environment == record.environment &&
    record.shape.runtimeRoot == record.sealedSnapshot.runtimeRoot &&
    record.shape.architecture == record.platform.architecture &&
    record.shape.capabilityDigest == record.platform.capabilityDigest &&
    record.shape.namespacePolicyDigest == record.platform.namespacePolicyDigest &&
    record.shape.policyDigests == record.platform.policyDigests

/-- The checks on the record's own fields. -/
def EffectRecordV2.wellFormed (record : EffectRecordV2) : Bool :=
  record.sealedSnapshot.profileDigest == record.profileDigest &&
    record.environment.policyDigest == record.platform.policyDigests.environment &&
    validBlobDetail record.sealedSnapshot.manifestBlob && record.platform.kernelRelease != [] &&
    !record.platform.kernelRelease.contains 0 && validNamespaceIds record.platform.namespaceIds &&
    validTraceEventUnion record && strictlyIncreasing (record.observations.map (·.sequence)) &&
    strictlyIncreasing (record.ambientEvents.map (·.sequence)) &&
    strictlyIncreasing (record.orderedEffects.map (·.sequence)) &&
    record.observations.length == record.trace.counters.observationCount.toNat &&
    record.ambientEvents.length == record.trace.counters.ambientEventCount.toNat &&
    record.orderedEffects.length == record.trace.counters.orderedEffectCount.toNat &&
    record.observations.all (fun item => validSandboxPathBytes item.sandboxSubject.val) &&
    record.orderedEffects.all (fun item => validSandboxPathBytes item.sandboxSubject.val) &&
    validResultCapture record.result && record.result.rawLinuxWaitStatus.isFinal

def EffectRecordV2.checkDisposition (record : EffectRecordV2) : Except ContractError Unit :=
  match record.disposition with
  | .executedOnly =>
    malformedRecordIf (record.dispositionReason ≠ derivedExecuteOnlyReason record ∨ record.dispositionReason = none ∨
      record.primaryRecordId ≠ none)
  | .primaryCandidate => malformedRecordIf (record.dispositionReason ≠ none ∨ record.primaryRecordId ≠ none)
  | .shadowCandidate =>
    malformedRecordIf (record.dispositionReason ≠ none ∨
      record.primaryRecordId.all fun primary => isNil primary || primary == record.recordId)

section

variable (hash : Blake3)

/-- The checks of `validate` that read neither the disposition nor its reason nor the primary. -/
def EffectRecordV2.validateShared (record : EffectRecordV2) : Except ContractError Unit := do
  rejectIf (record.schema ≠ effectIrV2Schema ∨ record.profileId ≠ linuxPytestProfileId ∨ isNil record.recordId ∨
    isNil record.sealedSnapshot.snapshotId) .schemaProfileMismatch
  record.trace.validate
  record.shape.validate hash
  record.observationClosure.validate
  let derivedClosure ← ObservationClosureV1.fromObservations hash record.observations
  let derivedShapeKey ← record.shape.key hash
  let derivedRequestKey ← record.shape.requestKey hash derivedClosure
  malformedRecordIf (validPytestInvocation record.invocation = false ∨ record.shapeKey ≠ derivedShapeKey ∨
    record.requestKey ≠ derivedRequestKey ∨ record.observationClosure ≠ derivedClosure ∨
    record.agreesWithShape = false ∨ record.wellFormed = false)

def EffectRecordV2.validate (record : EffectRecordV2) : Except ContractError Unit := do
  record.validateShared hash
  rejectIf (record.disposition ≠ .executedOnly ∧ record.hasCompleteSuccessResult = false) .invalidCompletenessMasks
  record.checkDisposition

def EffectRecordV2.isCompleteCandidate (record : EffectRecordV2) : Bool :=
  decide (record.validate hash = .ok ()) && record.disposition != .executedOnly && record.hasCompleteSuccessResult

end

/-! ## Encodings -/

namespace Canonical

def typeEffectRecord : UInt16 := 0x0001
def typeSnapshot : UInt16 := 0x0005
def typePlatform : UInt16 := 0x0006
def typeNamespaceIds : UInt16 := 0x0007
def typeTrace : UInt16 := 0x0009
def typeTraceCounters : UInt16 := 0x000a
def typeFirstFailure : UInt16 := 0x000b
def typeObservation : UInt16 := 0x000c
def typeAmbientEvent : UInt16 := 0x000d
def typeOrderedEffect : UInt16 := 0x000e
def typeResult : UInt16 := 0x0010

def encodeSnapshot (value : SealedSnapshotIdentityV2) : Except ContractError Bytes :=
  codec.encodeNested typeSnapshot [
    callBytes 1 value.snapshotId.val,
    callBytes 2 value.workspaceRoot.val,
    callBytes 3 value.runtimeRoot.val,
    callObject 4 (encodeBlob value.manifestBlob),
    callBytes 5 value.profileDigest.val]

def encodeNamespaceIds (value : NamespaceIdsV1) : Except ContractError Bytes :=
  codec.encodeNested typeNamespaceIds [
    callU64 1 value.user,
    callU64 2 value.mount,
    callU64 3 value.pid,
    callU64 4 value.network,
    callU64 5 value.uts,
    callU64 6 value.ipc]

def encodePlatform (value : PlatformIdentityV2) : Except ContractError Bytes :=
  codec.encodeNested typePlatform [
    callEnumeration 1 value.architecture.code [],
    callBytes 2 value.kernelRelease,
    callBytes 3 value.capabilityDigest.val,
    callObject 4 (encodeNamespaceIds value.namespaceIds),
    callBytes 5 value.namespacePolicyDigest.val,
    callObject 6 (encodePolicyDigests value.policyDigests)]

def encodeTraceCounters (value : TraceCountersV1) : Except ContractError Bytes :=
  codec.encodeNested typeTraceCounters [
    callU64 1 value.finalSequence,
    callU64 2 value.eventCount,
    callU64 3 value.syscallEventCount,
    callU64 4 value.seccompTraceCount,
    callU64 5 value.ptraceEventCount,
    callU64 6 value.traceEncodedBytes,
    callU64 7 value.taskBirthCount,
    callU64 8 value.taskExecCount,
    callU64 9 value.taskExitCount,
    callU64 10 value.taskReapCount,
    callU64 11 value.observationCount,
    callU64 12 value.ambientEventCount,
    callU64 13 value.orderedEffectCount,
    callU64 14 value.deniedOperationCount,
    callU64 15 value.unsupportedOperationCount,
    callU64 16 value.decoderErrorCount,
    callU64 17 value.lostEventCount,
    callU64 18 value.finalAckCount]

def encodeFirstFailure (value : FirstFailureV1) : Except ContractError Bytes :=
  codec.encodeNested typeFirstFailure [
    callField 1 .u8 [value.dimension.code],
    callU16 2 value.reason.code,
    callEnumeration 3 value.phase.code [],
    callOptional 4 (pure (value.eventSequence.map be64)),
    callOptional 5 (pure (value.logicalTaskId.map be32))]

def encodeTrace (value : TraceCompletenessV2) : Except ContractError Bytes :=
  codec.encodeNested typeTrace [
    callU64 1 value.required,
    callU64 2 value.complete,
    callU64 3 value.unsupported,
    callU64 4 value.violation,
    callObject 5 (encodeTraceCounters value.counters),
    callOptional 6 (value.firstFailure.mapM encodeFirstFailure)]

def encodeObservation (value : ObservationV2) : Except ContractError Bytes :=
  codec.encodeNested typeObservation [
    callU64 1 value.sequence,
    callU32 2 value.logicalTaskId,
    callEnumeration 3 value.kind.code [],
    callBytes 4 value.sandboxSubject.val,
    callObject 5 (encodeObservationDetail value.canonicalDetail)]

def encodeAmbient (value : AmbientEventV2) : Except ContractError Bytes :=
  codec.encodeNested typeAmbientEvent [
    callU64 1 value.sequence,
    callU32 2 value.logicalTaskId,
    callEnumeration 3 value.kind.code [],
    callObject 4 (encodeBlob value.canonicalDetail)]

def encodeEffect (value : OrderedEffectV2) : Except ContractError Bytes :=
  codec.encodeNested typeOrderedEffect [
    callU64 1 value.sequence,
    callU32 2 value.logicalTaskId,
    callEnumeration 3 value.kind.code [],
    callBytes 4 value.sandboxSubject.val,
    callObject 5 (encodeBlob value.canonicalDetail)]

def encodeStream : StreamCaptureV2 → Except ContractError Bytes
  | .complete blob => do codec.encodeEnum 1 [enumField 1 .object (← encodeBlob blob)]
  | .exceeded observedBytes => codec.encodeEnum 2 [enumField 1 .u64 (be64 observedBytes)]
  | .incomplete observedBytes reason =>
    codec.encodeEnum 3 [enumField 1 .u64 (be64 observedBytes), enumField 2 .u16 (be16 reason.code)]

def encodeResult (value : EffectResultV2) : Except ContractError Bytes :=
  codec.encodeNested typeResult [
    do callField 1 .enum (← encodeStream value.stdout),
    do callField 2 .enum (← encodeStream value.stderr),
    callU32 3 value.rawLinuxWaitStatus]

/-- Field 21 is always absent. -/
def encodeRecord (hash : Blake3) (value : EffectRecordV2) : Except ContractError Bytes :=
  codec.encodeTop typeEffectRecord [
    callUtf8 1 value.schema,
    callBytes 2 value.recordId.val,
    callUtf8 3 value.profileId,
    callBytes 4 value.profileDigest.val,
    callBytes 5 value.shapeKey.val,
    callBytes 6 value.requestKey.val,
    callObject 7 (encodeInvocation value.invocation),
    callBytes 8 value.workspaceIdentity.val,
    callObject 9 (encodeEnvironment value.environment),
    callObject 10 (encodeSnapshot value.sealedSnapshot),
    callObject 11 (encodePlatform value.platform),
    callObject 12 (encodeTrace value.trace),
    callList 13 (value.observations.mapM encodeObservation),
    callList 14 (value.ambientEvents.mapM encodeAmbient),
    callList 15 (value.orderedEffects.mapM encodeEffect),
    callBytes 16 value.finalWorkspaceRoot.val,
    callObject 17 (encodeResult value.result),
    callEnumeration 18 value.disposition.code [],
    callOptional 19 (pure (value.dispositionReason.map fun reason => be16 reason.code)),
    callOptional 20 (pure (value.primaryRecordId.map (·.val))),
    callOptional 21 (pure none),
    callU64 22 value.createdMonotonicNs,
    do callBytes 23 (← value.shape.canonicalBytes hash),
    do callBytes 24 (← value.observationClosure.canonicalBytes)]

end Canonical

def EffectRecordV2.canonicalBytes (hash : Blake3) (record : EffectRecordV2) : Except ContractError Bytes := do
  record.validate hash
  Canonical.encodeRecord hash record

end Again.Pytest
