import Again.Lib.Sink
import Again.Pytest.Manifest

/-!
# The streaming manifest writer

`canonical.rs`: manifests are written straight into a sink. Every header
carries a length computed by the length pass before the payload is written.
-/

namespace Again.Pytest.Canonical

open Lib

variable {S E : Type} [ByteSink S E]

abbrev ManifestWriterM (S E : Type) := WriterM ContractError S E

/-! ## Headers -/

def writeCanonical (bytes : Bytes) : ManifestWriterM S E Unit := writeBytes .canonicalEncoding bytes

def objectHeader (typeId fieldCount : UInt16) : ManifestWriterM S E Unit := do
  writeCanonical (be16 typeId)
  writeCanonical (be16 effectIrV2WireVersion)
  writeCanonical (be16 fieldCount)

def enumHeader (variant fieldCount : UInt16) : ManifestWriterM S E Unit := do
  liftEncoder (rejectIf (variant = 0) .canonicalEncoding)
  writeCanonical (be16 variant)
  writeCanonical (be16 fieldCount)

def fieldHeader (tag : UInt16) (wireType : WireType) (payloadLength : Nat) : ManifestWriterM S E Unit := do
  liftEncoder (rejectIf (tag = 0) .canonicalEncoding)
  let payloadLength ← liftEncoder (u64Length .canonicalEncoding payloadLength)
  writeCanonical (be16 tag)
  writeCanonical [wireType.code]
  writeCanonical (be64 payloadLength)

def listHeader (itemCount : Nat) : ManifestWriterM S E Unit := do
  let itemCount ← liftEncoder (canonicalCollectionCount itemCount)
  writeCanonical (be64 itemCount)

def listItemHeader (itemLength : Nat) : ManifestWriterM S E Unit := do
  let itemLength ← liftEncoder (u64Length .canonicalEncoding itemLength)
  writeCanonical (be64 itemLength)

/-- A list: the count, then every item behind its length. -/
def writeItems {α : Type} (length : α → Except ContractError Nat) (write : α → ManifestWriterM S E Unit) :
    List α → ManifestWriterM S E Unit
  | [] => pure ()
  | value :: values => do
    let itemLength ← liftEncoder (length value)
    listItemHeader itemLength
    write value
    writeItems length write values

/-- `None`, or a value behind its length. -/
def writeOptional (length : Nat) : Option (ManifestWriterM S E Unit) → ManifestWriterM S E Unit
  | none => writeCanonical [0]
  | some write => do
    writeCanonical [1]
    let length ← liftEncoder (u64Length .canonicalEncoding length)
    writeCanonical (be64 length)
    write

/-! ## Values -/

def writeManifestTimespec (value : TimespecV1) : ManifestWriterM S E Unit := do
  objectHeader typeTimespec 2
  fieldHeader 1 .i64 8
  writeCanonical (beI64 value.seconds)
  fieldHeader 2 .u32 4
  writeCanonical (be32 value.nanoseconds)

def writeManifestXattr (value : XattrV1) : ManifestWriterM S E Unit := do
  objectHeader typeXattr 2
  fieldHeader 1 .bytes value.name.length
  writeCanonical value.name
  fieldHeader 2 .bytes value.value.length
  writeCanonical value.value

def writeManifestXattrList (values : List XattrV1) : ManifestWriterM S E Unit := do
  listHeader values.length
  writeItems manifestXattrCanonicalLength writeManifestXattr values

def writeManifestMetadata (value : MetadataV1) : ManifestWriterM S E Unit := do
  let timespec ← liftEncoder manifestTimespecCanonicalLength
  let btime ← liftEncoder (checkedCanonicalOptionalLength (value.btime.map fun _ => timespec))
  let xattrs ← liftEncoder (manifestXattrListCanonicalLength value.xattrs)
  objectHeader typeMetadata 10
  fieldHeader 1 .u32 4
  writeCanonical (be32 value.mode)
  fieldHeader 2 .u32 4
  writeCanonical (be32 value.logicalUid)
  fieldHeader 3 .u32 4
  writeCanonical (be32 value.logicalGid)
  fieldHeader 4 .u64 8
  writeCanonical (be64 value.size)
  fieldHeader 5 .u64 8
  writeCanonical (be64 value.nlink)
  fieldHeader 6 .object timespec
  writeManifestTimespec value.atime
  fieldHeader 7 .object timespec
  writeManifestTimespec value.mtime
  fieldHeader 8 .object timespec
  writeManifestTimespec value.ctime
  fieldHeader 9 .optional btime
  writeOptional timespec (value.btime.map writeManifestTimespec)
  fieldHeader 10 .list xattrs
  writeManifestXattrList value.xattrs

def writeManifestExtent (value : ExtentV1) : ManifestWriterM S E Unit := do
  objectHeader typeExtent 2
  fieldHeader 1 .u64 8
  writeCanonical (be64 value.offset)
  fieldHeader 2 .u64 8
  writeCanonical (be64 value.length)

def writeManifestExtentList (values : List ExtentV1) : ManifestWriterM S E Unit := do
  let itemLength ← liftEncoder manifestExtentCanonicalLength
  listHeader values.length
  writeItems (fun _ => pure itemLength) writeManifestExtent values

def writeManifestChild (value : ChildCommitmentV1) : ManifestWriterM S E Unit := do
  let kind ← liftEncoder (checkedCanonicalEnumLength value.kind.code [])
  objectHeader typeChildCommitment 3
  fieldHeader 1 .bytes value.name.length
  writeCanonical value.name
  fieldHeader 2 .enum kind
  enumHeader value.kind.code 0
  fieldHeader 3 .bytes value.nodeDigest.val.length
  writeCanonical value.nodeDigest.val

def writeManifestChildList (values : List ChildCommitmentV1) : ManifestWriterM S E Unit := do
  listHeader values.length
  writeItems manifestChildCanonicalLength writeManifestChild values

def writeManifestPayload : ManifestPayloadV1 → ManifestWriterM S E Unit
  | .directory children => do
    let childrenLength ← liftEncoder (manifestChildListCanonicalLength children)
    enumHeader ManifestEntryKindV1.directory.code 1
    fieldHeader 1 .list childrenLength
    writeManifestChildList children
  | .regular contentDigest dataExtents => do
    let extentsLength ← liftEncoder (manifestExtentListCanonicalLength dataExtents)
    enumHeader ManifestEntryKindV1.regular.code 2
    fieldHeader 1 .bytes contentDigest.val.length
    writeCanonical contentDigest.val
    fieldHeader 2 .list extentsLength
    writeManifestExtentList dataExtents
  | .symlink target => do
    enumHeader ManifestEntryKindV1.symlink.code 1
    fieldHeader 1 .bytes target.length
    writeCanonical target
  | .externalTree treeRole targetRoot readonly => do
    let role ← liftEncoder (checkedCanonicalEnumLength treeRole.code [])
    enumHeader ManifestEntryKindV1.externalTree.code 3
    fieldHeader 1 .enum role
    enumHeader treeRole.code 0
    fieldHeader 2 .bytes targetRoot.val.length
    writeCanonical targetRoot.val
    fieldHeader 3 .bool 1
    writeCanonical [if readonly then 1 else 0]

def writeManifestEntry (value : ManifestEntryV1) : ManifestWriterM S E Unit := do
  let kind ← liftEncoder (checkedCanonicalEnumLength value.payload.kind.code [])
  let metadata ← liftEncoder (manifestMetadataCanonicalLength value.metadata)
  let payload ← liftEncoder (manifestPayloadCanonicalLength value.payload)
  let hardlink ← liftEncoder
    (checkedCanonicalOptionalLength (value.hardlinkGroup.map fun digest => digest.val.length))
  objectHeader typeManifestEntry 6
  fieldHeader 1 .bytes value.relativePath.length
  writeCanonical value.relativePath
  fieldHeader 2 .enum kind
  enumHeader value.payload.kind.code 0
  fieldHeader 3 .object metadata
  writeManifestMetadata value.metadata
  fieldHeader 4 .enum payload
  writeManifestPayload value.payload
  fieldHeader 5 .optional hardlink
  writeOptional 32 (value.hardlinkGroup.map fun digest => writeCanonical digest.val)
  fieldHeader 6 .bytes value.nodeDigest.val.length
  writeCanonical value.nodeDigest.val

def writeManifestEntryList (values : List ManifestEntryV1) : ManifestWriterM S E Unit := do
  listHeader values.length
  writeItems manifestEntryCanonicalLength writeManifestEntry values

def writeTreeManifestProjectionCanonicalInner (mountPath : Bytes) (treeRole : TreeRoleV1)
    (entries : List ManifestEntryV1) (rootDigest : NodeDigest) : ManifestWriterM S E Unit := do
  let role ← liftEncoder (checkedCanonicalEnumLength treeRole.code [])
  let entriesLength ← liftEncoder (manifestEntryListCanonicalLength entries)
  objectHeader typeTreeManifest 4
  fieldHeader 1 .bytes mountPath.length
  writeCanonical mountPath
  fieldHeader 2 .enum role
  enumHeader treeRole.code 0
  fieldHeader 3 .list entriesLength
  writeManifestEntryList entries
  fieldHeader 4 .bytes rootDigest.val.length
  writeCanonical rootDigest.val

def writeTreeManifestCanonicalInner (value : TreeManifestV1) : ManifestWriterM S E Unit := do
  let role ← liftEncoder (checkedCanonicalEnumLength value.treeRole.code [])
  let entriesLength ← liftEncoder (manifestEntryListCanonicalLength value.entries)
  objectHeader typeTreeManifest 4
  fieldHeader 1 .bytes value.mountPath.val.length
  writeCanonical value.mountPath.val
  fieldHeader 2 .enum role
  enumHeader value.treeRole.code 0
  fieldHeader 3 .list entriesLength
  writeManifestEntryList value.entries
  fieldHeader 4 .bytes value.rootDigest.val.length
  writeCanonical value.rootDigest.val

/-! ## Into the caller's sink -/

/-- Run a writer over the caller's sink; the count of what it handed over. -/
def countWritten (write : ManifestWriterM S E Unit) : EStateM (WriteError ContractError E) S Nat := fun sink =>
  match write ⟨sink, 0⟩ with
  | .ok _ writer => .ok writer.written writer.sink
  | .error error writer => .error error writer.sink

/-- The length pass first, then the writer; the count has to agree. -/
def writeChecked (length : Except ContractError Nat) (write : ManifestWriterM S E Unit) :
    EStateM (WriteError ContractError E) S Nat := do
  let length ← attempt (length.mapError .canonical)
  let written ← countWritten write
  refuseIf (written ≠ length) (.canonical .canonicalEncoding)
  pure written

def writeTreeManifestProjectionCanonicalV1 (mountPath : Bytes) (treeRole : TreeRoleV1) (entries : List ManifestEntryV1)
    (rootDigest : NodeDigest) : EStateM (WriteError ContractError E) S Nat :=
  writeChecked (checkedTreeManifestProjectionCanonicalLengthV1 mountPath treeRole entries rootDigest)
    (writeTreeManifestProjectionCanonicalInner mountPath treeRole entries rootDigest)

def writeTreeManifestCanonicalV1 (value : TreeManifestV1) : EStateM (WriteError ContractError E) S Nat :=
  writeChecked (checkedTreeManifestCanonicalLengthV1 value) (writeTreeManifestCanonicalInner value)

/-! ## The exact-length vector sink -/

structure VecSink where
  bytes : Bytes
  exactLength : Nat

instance : ByteSink VecSink ContractError where
  tryExtend sink bytes := do
    rejectIf (sink.exactLength < sink.bytes.length + bytes.length) .canonicalEncoding
    pure { sink with bytes := sink.bytes ++ bytes }
  contents sink := sink.bytes
  contents_tryExtend h := by
    simp only [bind_eq_ok, rejectIf_eq_ok, exists_unit, pure_eq_ok] at h
    rw [← h.2]

def encodeManifestCanonicalVec (exactLength : Nat) (write : ManifestWriterM VecSink ContractError Unit) :
    Except ContractError Bytes := do
  let exactLength ← checkedCanonicalPayloadLength exactLength
  match write ⟨⟨[], exactLength⟩, 0⟩ with
  | .ok _ writer =>
    rejectIf (writer.sink.bytes.length ≠ exactLength) .canonicalEncoding
    pure writer.sink.bytes
  | .error (.canonical error) _ => throw error
  | .error (.sink error) _ => throw error

def encodeMetadata (value : MetadataV1) : Except ContractError Bytes := do
  encodeManifestCanonicalVec (← manifestMetadataCanonicalLength value) (writeManifestMetadata value)

def encodeTree (value : TreeManifestV1) : Except ContractError Bytes := do
  encodeManifestCanonicalVec (← checkedTreeManifestCanonicalLengthV1 value) (writeTreeManifestCanonicalInner value)

def encodeExtentsForHash (values : List ExtentV1) : Except ContractError Bytes := do
  encodeManifestCanonicalVec (← manifestExtentListCanonicalLength values) (writeManifestExtentList values)

def encodeChildrenForHash (values : List ChildCommitmentV1) : Except ContractError Bytes := do
  encodeManifestCanonicalVec (← manifestChildListCanonicalLength values) (writeManifestChildList values)

def encodePathsForHash (values : List Bytes) : Except ContractError Bytes := do
  encodeManifestCanonicalVec (← manifestRawPathListCanonicalLength values) do
    listHeader values.length
    writeItems (fun value => pure value.length) writeCanonical values

def encodeRuntimeMount (value : TreeManifestV1) : Except ContractError Bytes :=
  codec.encodeNested typeRuntimeMount [callBytes 1 value.mountPath.val, callBytes 2 value.rootDigest.val]

def encodeRuntimeForestForHash (values : List TreeManifestV1) : Except ContractError Bytes := do
  codec.encodeList (← values.mapM encodeRuntimeMount)

def encodeSnapshotManifest (value : SnapshotManifestV1) : Except ContractError Bytes :=
  codec.encodeTop typeSnapshotManifest [
    callUtf8 1 value.schema,
    callBytes 2 value.profileDigest.val,
    callBytes 3 value.workspaceIdentity.val,
    callObject 4 (encodeTree value.workspaceTree),
    callList 5 (value.runtimeTrees.mapM encodeTree),
    callBytes 6 value.workspaceRoot.val,
    callBytes 7 value.runtimeRoot.val]

end Again.Pytest.Canonical
