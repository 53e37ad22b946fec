import Again.Pytest.ExecutableChain
import Again.Pytest.Observations

/-!
# Lookup shapes

`linux_pytest.rs` and `identity.rs`: the invocation, the policy commitment and
the executable chain a run is looked up by, `ShapeV1` which binds them, and the
keys derived from a shape. `identity.rs` carries its own copy of the codec with
the wire types it uses; a field of another type is refused by either.
-/

namespace Again.Pytest

open Lib

def linuxPytestProfileId := "linux-pytest-v1"
def effectIrV2Schema := "again.effect_ir.v2"
def linuxPytestShapeV1Schema := "again.linux-pytest.shape.v1"
def profileCommitmentV1Schema := "again.linux-pytest.profile-commitment.v1"
def executableChainV1Schema := "again.linux-pytest.executable-chain.v1"

def shapeDomain := "again linux pytest shape v1"
def requestDomain := "again linux pytest request v1"
def executableChainDomain := "again linux pytest executable chain v1"
def profileDomain := "again linux pytest profile v1"

def effectIrV2RequiredMask : UInt64 := 0x00000000ffffffff
def linuxPytestV1MaxSelectors : Nat := 4096
def linuxPytestV1MaxLookupCandidates : UInt16 := 64

/-! ## Selectors -/

inductive RefusalCode where
  | selectorNonUtf8 | selectorMalformed | selectorOptionLike | forbiddenArgument | selectorPathEscape
  | environmentMalformed | loaderInjectionEnvironment
deriving DecidableEq

structure PytestSelectorV1 where
  raw : Bytes
  path : Bytes
  nodes : List Bytes
deriving DecidableEq

/-- `text.split("::")`; the separator is ASCII, so bytes split as the text does. -/
def splitNodes : Bytes → List Bytes
  | 58 :: 58 :: rest => [] :: splitNodes rest
  | byte :: rest =>
    match splitNodes rest with
    | first :: parts => (byte :: first) :: parts
    | [] => [[byte]]
  | [] => [[]]

def PytestSelectorV1.reconstructedRaw (selector : PytestSelectorV1) : Bytes :=
  selector.path ++ selector.nodes.flatMap fun node => utf8 "::" ++ node

def PytestSelectorV1.parse (raw : Bytes) : Except RefusalCode PytestSelectorV1 := do
  rejectIf ((fromUtf8? raw).isNone) .selectorNonUtf8
  rejectIf (raw = []) .selectorMalformed
  let path := (splitNodes raw).headD []
  let nodes := (splitNodes raw).tail
  rejectIf (path = []) .selectorMalformed
  rejectIf (path.head? = some 45) .selectorOptionLike
  rejectIf (path.head? = some 64) .forbiddenArgument
  rejectIf (path.head? = some slash ∨ path.getLast? = some slash ∨
    (path.splitOn slash).any fun component => !plainComponent component) .selectorPathEscape
  rejectIf (nodes.any (· = [])) .selectorMalformed
  let selector : PytestSelectorV1 := { raw, path, nodes }
  rejectIf (selector.reconstructedRaw ≠ raw) .selectorMalformed
  pure selector

/-! ## Invocation and environment -/

inductive StdinProfileV1 where
  | closedEof | emptyNonTtyEof
deriving DecidableEq

def StdinProfileV1.code : StdinProfileV1 → UInt16
  | closedEof => 1
  | emptyNonTtyEof => 2

structure PytestInvocationIdentityV1 where
  argv : List Bytes
  cwd : Bytes
  selectors : List PytestSelectorV1
  stdinProfile : StdinProfileV1
deriving DecidableEq

def pytestCommand : List Bytes := [utf8 ".venv/bin/python", utf8 "-I", utf8 "-m", utf8 "pytest"]

def validPytestInvocation (invocation : PytestInvocationIdentityV1) : Bool :=
  invocation.argv.length == 4 + invocation.selectors.length && decide (5 ≤ invocation.argv.length) &&
    decide (invocation.selectors.length ≤ linuxPytestV1MaxSelectors) && invocation.argv.take 4 == pytestCommand &&
    invocation.cwd == utf8 "." && invocation.selectors != [] &&
    invocation.argv.all (fun argument => argument != [] && !argument.contains 0) &&
    (invocation.selectors.zip (invocation.argv.drop 4)).all fun pair =>
      match PytestSelectorV1.parse pair.2 with
      | .ok parsed => parsed == pair.1
      | .error _ => false

structure EnvironmentBindingV1 where
  keyId : EnvironmentKeyId
  digest : EnvironmentDigest
  namesDigest : EnvironmentNamesDigest
  entryCount : UInt32
  policyDigest : PolicyDigest
deriving DecidableEq

/-! ## Policies -/

inductive ArchitectureV1 where
  | x8664
deriving DecidableEq

def ArchitectureV1.code : ArchitectureV1 → UInt16
  | x8664 => 1

structure PolicyDigestsV1 where
  seccomp : PolicyDigest
  landlock : PolicyDigest
  namespacePolicy : PolicyDigest
  tracerRuntime : PolicyDigest
  ambientBroker : PolicyDigest
  limits : PolicyDigest
  environment : PolicyDigest
  selectorGrammar : PolicyDigest
  runtimeClosure : PolicyDigest
  codec : PolicyDigest
deriving DecidableEq

def policyDigestValues (value : PolicyDigestsV1) : List PolicyDigest :=
  [value.seccomp, value.landlock, value.namespacePolicy, value.tracerRuntime, value.ambientBroker, value.limits,
    value.environment, value.selectorGrammar, value.runtimeClosure, value.codec]

structure ProfileCommitmentV1 where
  policyDigests : PolicyDigestsV1
deriving DecidableEq

def ProfileCommitmentV1.validate (commitment : ProfileCommitmentV1) : Except ContractError Unit :=
  lookupIf ((policyDigestValues commitment.policyDigests).any Digest.isZero)

def ProfileCommitmentV1.fromCompiledPolicyDigests (policyDigests : PolicyDigestsV1) :
    Except ContractError ProfileCommitmentV1 := do
  let value : ProfileCommitmentV1 := ⟨policyDigests⟩
  value.validate
  pure value

/-! ## Encodings -/

namespace Canonical

def typeInvocation : UInt16 := 0x0002
def typeSelector : UInt16 := 0x0003
def typeEnvironment : UInt16 := 0x0004
def typePolicyDigests : UInt16 := 0x0008
def typeShape : UInt16 := 0x0012
def typeProfileCommitment : UInt16 := 0x0030
def typeExecutableChain : UInt16 := 0x0033
def typeExecutableHop : UInt16 := 0x0034

def encodeSelector (value : PytestSelectorV1) : Except ContractError Bytes :=
  codec.encodeNested typeSelector [callBytes 1 value.raw, callBytes 2 value.path, callList 3 (pure value.nodes)]

def encodeInvocation (value : PytestInvocationIdentityV1) : Except ContractError Bytes :=
  codec.encodeNested typeInvocation [
    callList 1 (pure value.argv),
    callBytes 2 value.cwd,
    callList 3 (value.selectors.mapM encodeSelector),
    callEnumeration 4 value.stdinProfile.code []]

def encodeEnvironment (value : EnvironmentBindingV1) : Except ContractError Bytes :=
  codec.encodeNested typeEnvironment [
    callBytes 1 value.keyId.val,
    callBytes 2 value.digest.val,
    callBytes 3 value.namesDigest.val,
    callU32 4 value.entryCount,
    callBytes 5 value.policyDigest.val]

def encodePolicyDigests (value : PolicyDigestsV1) : Except ContractError Bytes :=
  codec.encodeNested typePolicyDigests [
    callBytes 1 value.seccomp.val,
    callBytes 2 value.landlock.val,
    callBytes 3 value.namespacePolicy.val,
    callBytes 4 value.tracerRuntime.val,
    callBytes 5 value.ambientBroker.val,
    callBytes 6 value.limits.val,
    callBytes 7 value.environment.val,
    callBytes 8 value.selectorGrammar.val,
    callBytes 9 value.runtimeClosure.val,
    callBytes 10 value.codec.val]

def encodeProfileCommitment (value : ProfileCommitmentV1) : Except ContractError Bytes :=
  codec.encodeTop typeProfileCommitment [
    callUtf8 1 profileCommitmentV1Schema,
    callUtf8 2 linuxPytestProfileId,
    callUtf8 3 effectIrV2Schema,
    callUtf8 4 linuxPytestShapeV1Schema,
    callU64 5 effectIrV2RequiredMask,
    callBytes 6 effectIrV2WireMagic,
    callU16 7 effectIrV2WireVersion,
    callU64 8 (UInt64.ofNat effectIrV2MaxCanonicalBytes),
    callU16 9 linuxPytestV1MaxLookupCandidates,
    callObject 10 (encodePolicyDigests value.policyDigests)]

def hopResolutionCall : ExecutableHopResolutionV1 → Call
  | .symlink rawTarget nextPath =>
    callEnumeration 3 1 [enumField 1 .bytes rawTarget, enumField 2 .bytes nextPath.val]
  | .terminalRegular => callEnumeration 3 2 []

def encodeExecutableHop (value : ExecutableHopV1) : Except ContractError Bytes := do
  value.validate
  codec.encodeNested typeExecutableHop [
    callBytes 1 value.path.val,
    callBytes 2 value.nodeDigest.val,
    hopResolutionCall value.resolution]

def encodeExecutableChain (value : ExecutableChainV1) : Except ContractError Bytes := do
  value.validate
  codec.encodeTop typeExecutableChain [
    callUtf8 1 executableChainV1Schema,
    callBytes 2 value.requestedPath.val,
    callList 3 (value.hops.mapM encodeExecutableHop)]

def decodeHopResolution (value : RawEnum WireType) : Except ContractError ExecutableHopResolutionV1 :=
  match value.variant with
  | 1 => do
    codec.expectEnum value 1 [(1, .bytes), (2, .bytes)]
    let rawTarget ← codec.payload value.fields 1
    pure (.symlink rawTarget (← SandboxPath.new (← codec.payload value.fields 2)))
  | 2 => do
    codec.expectEnum value 2 []
    pure .terminalRegular
  | _ => throw .canonicalDecoding

def decodeExecutableHop (bytes : Bytes) : Except ContractError ExecutableHopV1 := do
  let object : RawObject WireType ← codec.parseNested bytes
  codec.expectObject object typeExecutableHop [(1, .bytes), (2, .bytes), (3, .enum)]
  let path ← SandboxPath.new (← codec.payload object.fields 1)
  let nodeDigest ← exact 32 (← codec.payload object.fields 2)
  let resolution ← decodeHopResolution (← codec.parseEnum (← codec.payload object.fields 3))
  let value : ExecutableHopV1 := { path, nodeDigest, resolution }
  value.validate
  rejectIf ((← encodeExecutableHop value) ≠ bytes) .canonicalDecoding
  pure value

/-- `ExecutableChainV1::from_canonical_bytes`. -/
def decodeExecutableChain (bytes : Bytes) : Except ContractError ExecutableChainV1 := do
  let object : RawObject WireType ← codec.parseTop bytes
  codec.expectObject object typeExecutableChain [(1, .utf8), (2, .bytes), (3, .list)]
  rejectIf ((← codec.payload object.fields 1) ≠ utf8 executableChainV1Schema) .canonicalDecoding
  let requestedPath ← SandboxPath.new (← codec.payload object.fields 2)
  let hops ← (← codec.decodeList (← codec.payload object.fields 3)).mapM decodeExecutableHop
  let value : ExecutableChainV1 := { requestedPath, hops }
  value.validate
  rejectIf ((← encodeExecutableChain value) ≠ bytes) .canonicalDecoding
  pure value

end Canonical

def ProfileCommitmentV1.digest (hash : Blake3) (commitment : ProfileCommitmentV1) :
    Except ContractError ProfileDigest := do
  commitment.validate
  pure (deriveTagged hash profileDomain [(1, ← Canonical.encodeProfileCommitment commitment)])

def ExecutableChainV1.digest (hash : Blake3) (chain : ExecutableChainV1) : Except ContractError ExecutableChainDigest := do
  pure (deriveTagged hash executableChainDomain [(1, ← Canonical.encodeExecutableChain chain)])

def ExecutableChainV1.validateRequestedBy (chain : ExecutableChainV1) (invocation : PytestInvocationIdentityV1) :
    Except ContractError Unit :=
  lookupIf (validPytestInvocation invocation = false ∨ invocation.cwd ≠ utf8 "." ∨
    invocation.argv.head? ≠ some (utf8 ".venv/bin/python") ∨
    chain.requestedPath.val ≠ utf8 "/workspace/.venv/bin/python")

/-! ## The shape -/

structure ShapeV1 where
  schema : String
  profileId : String
  profileDigest : ProfileDigest
  workspaceIdentity : WorkspaceIdentity
  invocation : PytestInvocationIdentityV1
  environment : EnvironmentBindingV1
  resolvedSelectorTargets : List SandboxPath
  executableChainDigest : ExecutableChainDigest
  executableChainWitness : Bytes
  runtimeRoot : MerkleRoot
  architecture : ArchitectureV1
  capabilityDigest : CapabilityDigest
  namespacePolicyDigest : PolicyDigest
  policyDigests : PolicyDigestsV1
deriving DecidableEq

namespace Canonical

def encodeShape (value : ShapeV1) : Except ContractError Bytes :=
  codec.encodeTop typeShape [
    callUtf8 1 value.schema,
    callUtf8 2 value.profileId,
    callBytes 3 value.profileDigest.val,
    callBytes 4 value.workspaceIdentity.val,
    callObject 5 (encodeInvocation value.invocation),
    callObject 6 (encodeEnvironment value.environment),
    callList 7 (pure (value.resolvedSelectorTargets.map (·.val))),
    callBytes 8 value.executableChainDigest.val,
    callBytes 9 value.runtimeRoot.val,
    callEnumeration 10 value.architecture.code [],
    callBytes 11 value.capabilityDigest.val,
    callBytes 12 value.namespacePolicyDigest.val,
    callObject 13 (encodePolicyDigests value.policyDigests),
    callBytes 14 value.executableChainWitness]

end Canonical

section

variable (hash : Blake3)

def ShapeV1.validate (shape : ShapeV1) : Except ContractError Unit := do
  let profile ← ProfileCommitmentV1.fromCompiledPolicyDigests shape.policyDigests
  -- the fields before the digest are compared first; each refusal is the same one
  lookupIf (shape.schema ≠ linuxPytestShapeV1Schema ∨ shape.profileId ≠ linuxPytestProfileId ∨
    shape.profileDigest.isZero)
  lookupIf (shape.profileDigest ≠ (← profile.digest hash))
  lookupIf (shape.workspaceIdentity.isZero ∨ validPytestInvocation shape.invocation = false ∨
    shape.environment.keyId.isZero ∨ shape.environment.digest.isZero ∨ shape.environment.namesDigest.isZero ∨
    shape.environment.entryCount = 0 ∨ shape.environment.policyDigest ≠ shape.policyDigests.environment ∨
    shape.resolvedSelectorTargets.length ≠ shape.invocation.selectors.length ∨
    (shape.resolvedSelectorTargets.any fun target =>
      !validSandboxPathBytes target.val || !sandboxPathIsWithin (utf8 "/workspace") target.val) ∨
    shape.executableChainDigest.isZero ∨ shape.runtimeRoot.isZero ∨ shape.capabilityDigest.isZero ∨
    shape.namespacePolicyDigest.isZero)
  let executableChain ← Canonical.decodeExecutableChain shape.executableChainWitness
  executableChain.validateRequestedBy shape.invocation
  lookupIf ((← executableChain.digest hash) ≠ shape.executableChainDigest)

def ShapeV1.canonicalBytes (shape : ShapeV1) : Except ContractError Bytes := do
  shape.validate hash
  Canonical.encodeShape shape

def ShapeV1.key (shape : ShapeV1) : Except ContractError ShapeKey := do
  pure (deriveTagged hash shapeDomain [(1, ← shape.canonicalBytes hash)])

def ShapeV1.requestKey (shape : ShapeV1) (closure : ObservationClosureV1) : Except ContractError RequestKey := do
  shape.validate hash
  let shapeKey ← shape.key hash
  let closureDigest ← closure.digest hash
  pure (deriveTagged hash requestDomain [
    (1, utf8 shape.schema), (2, utf8 shape.profileId), (3, shape.profileDigest.val), (4, shapeKey.val),
    (5, closureDigest.val)])

end

end Again.Pytest
