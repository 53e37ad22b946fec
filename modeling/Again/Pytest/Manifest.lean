import Again.Pytest.Wire

/-!
# Snapshot manifests

`linux_pytest.rs`: the frozen manifest types. A manifest holds one workspace
tree and a forest of runtime trees; an entry commits to its own metadata and
payload by a node digest, a directory to its children by theirs.
-/

namespace Again.Pytest

open Lib

inductive TreeRoleV1 where
  | workspace | runtime
deriving DecidableEq

def TreeRoleV1.code : TreeRoleV1 → UInt16
  | workspace => 1
  | runtime => 2

inductive ManifestEntryKindV1 where
  | directory | regular | symlink | externalTree
deriving DecidableEq

def ManifestEntryKindV1.code : ManifestEntryKindV1 → UInt16
  | directory => 1
  | regular => 2
  | symlink => 3
  | externalTree => 4

structure TimespecV1 where
  seconds : Int64
  nanoseconds : UInt32
deriving DecidableEq

structure XattrV1 where
  name : Bytes
  value : Bytes
deriving DecidableEq

structure MetadataV1 where
  mode : UInt32
  logicalUid : UInt32
  logicalGid : UInt32
  size : UInt64
  nlink : UInt64
  atime : TimespecV1
  mtime : TimespecV1
  ctime : TimespecV1
  btime : Option TimespecV1
  xattrs : List XattrV1
deriving DecidableEq

structure ExtentV1 where
  offset : UInt64
  length : UInt64
deriving DecidableEq

structure ChildCommitmentV1 where
  name : Bytes
  kind : ManifestEntryKindV1
  nodeDigest : NodeDigest
deriving DecidableEq

inductive ManifestPayloadV1 where
  | directory (children : List ChildCommitmentV1)
  | regular (contentDigest : FileContentDigest) (dataExtents : List ExtentV1)
  | symlink (target : Bytes)
  | externalTree (treeRole : TreeRoleV1) (targetRoot : NodeDigest) (readonly : Bool)
deriving DecidableEq

def ManifestPayloadV1.kind : ManifestPayloadV1 → ManifestEntryKindV1
  | directory .. => .directory
  | regular .. => .regular
  | symlink .. => .symlink
  | externalTree .. => .externalTree

structure ManifestEntryV1 where
  /-- The root entry is the sole empty path. -/
  relativePath : Bytes
  metadata : MetadataV1
  payload : ManifestPayloadV1
  hardlinkGroup : Option HardlinkGroupDigest
  nodeDigest : NodeDigest
deriving DecidableEq

structure TreeManifestV1 where
  mountPath : SandboxPath
  treeRole : TreeRoleV1
  entries : List ManifestEntryV1
  rootDigest : NodeDigest
deriving DecidableEq

structure SnapshotManifestV1 where
  schema : String
  profileDigest : ProfileDigest
  workspaceIdentity : WorkspaceIdentity
  workspaceTree : TreeManifestV1
  runtimeTrees : List TreeManifestV1
  workspaceRoot : MerkleRoot
  runtimeRoot : MerkleRoot
deriving DecidableEq

namespace Canonical

def typeSnapshotManifest : UInt16 := 0x0020
def typeTreeManifest : UInt16 := 0x0021
def typeManifestEntry : UInt16 := 0x0022
def typeMetadata : UInt16 := 0x0023
def typeTimespec : UInt16 := 0x0024
def typeXattr : UInt16 := 0x0025
def typeExtent : UInt16 := 0x0026
def typeChildCommitment : UInt16 := 0x0027
def typeRuntimeMount : UInt16 := 0x0028

/-! ## The length pass -/

def objectHeaderBytes : Nat := 2 + 2 + 2
def enumHeaderBytes : Nat := 2 + 2
def listHeaderBytes : Nat := 8
def optionalAbsentBytes : Nat := 1
def optionalPresentHeaderBytes : Nat := 1 + 8

def canonicalCollectionCount (count : Nat) : Except ContractError UInt64 := do
  let count ← u64Length .canonicalEncoding count
  rejectIf (effectIrV2MaxCollectionItems < count.toNat) .canonicalEncoding
  pure count

def checkedCanonicalAdd (left right : Nat) : Except ContractError Nat := do
  rejectIf (2 ^ 64 ≤ left + right) .canonicalEncoding
  pure (left + right)

def checkedCanonicalPayloadLength (length : Nat) : Except ContractError Nat := do
  rejectIf (effectIrV2MaxCanonicalBytes < length) .canonicalEncoding
  pure length

def checkedCanonicalFieldLength (payloadLength : Nat) : Except ContractError Nat := do
  checkedCanonicalPayloadLength (← checkedCanonicalAdd fieldHeaderBytes payloadLength)

def addFieldLengths (length : Nat) : List Nat → Except ContractError Nat
  | [] => pure length
  | payloadLength :: rest => do
    addFieldLengths (← checkedCanonicalAdd length (← checkedCanonicalFieldLength payloadLength)) rest

def checkedCanonicalObjectLength (payloadLengths : List Nat) : Except ContractError Nat := do
  rejectIf (2 ^ 16 ≤ payloadLengths.length) .canonicalEncoding
  checkedCanonicalPayloadLength (← addFieldLengths objectHeaderBytes payloadLengths)

def checkedCanonicalEnumLength (variant : UInt16) (payloadLengths : List Nat) : Except ContractError Nat := do
  rejectIf (variant = 0) .canonicalEncoding
  rejectIf (2 ^ 16 ≤ payloadLengths.length) .canonicalEncoding
  checkedCanonicalPayloadLength (← addFieldLengths enumHeaderBytes payloadLengths)

def addItemLengths (length : Nat) : List (Except ContractError Nat) → Except ContractError Nat
  | [] => pure length
  | itemLength :: rest => do
    let itemLength ← itemLength
    let length ← checkedCanonicalAdd length listItemHeaderBytes
    addItemLengths (← checkedCanonicalAdd length itemLength) rest

/-- The source also counts the items it saw against `item_count`; here both are the list. -/
def checkedCanonicalListLength (itemLengths : List (Except ContractError Nat)) : Except ContractError Nat := do
  let _ ← canonicalCollectionCount itemLengths.length
  checkedCanonicalPayloadLength (← addItemLengths listHeaderBytes itemLengths)

def checkedCanonicalOptionalLength : Option Nat → Except ContractError Nat
  | none => pure optionalAbsentBytes
  | some payloadLength => do
    checkedCanonicalPayloadLength (← checkedCanonicalAdd optionalPresentHeaderBytes payloadLength)

def manifestTimespecCanonicalLength : Except ContractError Nat := checkedCanonicalObjectLength [8, 4]

def manifestXattrCanonicalLength (value : XattrV1) : Except ContractError Nat :=
  checkedCanonicalObjectLength [value.name.length, value.value.length]

def manifestXattrListCanonicalLength (values : List XattrV1) : Except ContractError Nat :=
  checkedCanonicalListLength (values.map manifestXattrCanonicalLength)

def manifestMetadataCanonicalLength (value : MetadataV1) : Except ContractError Nat := do
  let timespec ← manifestTimespecCanonicalLength
  let btime ← checkedCanonicalOptionalLength (value.btime.map fun _ => timespec)
  let xattrs ← manifestXattrListCanonicalLength value.xattrs
  checkedCanonicalObjectLength [4, 4, 4, 8, 8, timespec, timespec, timespec, btime, xattrs]

def manifestExtentCanonicalLength : Except ContractError Nat := checkedCanonicalObjectLength [8, 8]

def manifestExtentListCanonicalLength (values : List ExtentV1) : Except ContractError Nat := do
  let extent ← manifestExtentCanonicalLength
  checkedCanonicalListLength (values.map fun _ => pure extent)

def manifestChildCanonicalLength (value : ChildCommitmentV1) : Except ContractError Nat := do
  let kind ← checkedCanonicalEnumLength value.kind.code []
  checkedCanonicalObjectLength [value.name.length, kind, value.nodeDigest.val.length]

def manifestChildListCanonicalLength (values : List ChildCommitmentV1) : Except ContractError Nat :=
  checkedCanonicalListLength (values.map manifestChildCanonicalLength)

def manifestPayloadCanonicalLength : ManifestPayloadV1 → Except ContractError Nat
  | .directory children => do
    checkedCanonicalEnumLength ManifestEntryKindV1.directory.code [← manifestChildListCanonicalLength children]
  | .regular contentDigest dataExtents => do
    checkedCanonicalEnumLength ManifestEntryKindV1.regular.code
      [contentDigest.val.length, ← manifestExtentListCanonicalLength dataExtents]
  | .symlink target => checkedCanonicalEnumLength ManifestEntryKindV1.symlink.code [target.length]
  | .externalTree treeRole targetRoot _ => do
    checkedCanonicalEnumLength ManifestEntryKindV1.externalTree.code
      [← checkedCanonicalEnumLength treeRole.code [], targetRoot.val.length, 1]

def manifestEntryCanonicalLength (value : ManifestEntryV1) : Except ContractError Nat := do
  let kind ← checkedCanonicalEnumLength value.payload.kind.code []
  let metadata ← manifestMetadataCanonicalLength value.metadata
  let payload ← manifestPayloadCanonicalLength value.payload
  let hardlink ← checkedCanonicalOptionalLength (value.hardlinkGroup.map fun digest => digest.val.length)
  checkedCanonicalObjectLength
    [value.relativePath.length, kind, metadata, payload, hardlink, value.nodeDigest.val.length]

def manifestEntryListCanonicalLength (values : List ManifestEntryV1) : Except ContractError Nat :=
  checkedCanonicalListLength (values.map manifestEntryCanonicalLength)

/-- Of a borrowed projection: the mount path is raw bytes. -/
def checkedTreeManifestProjectionCanonicalLengthV1 (mountPath : Bytes) (treeRole : TreeRoleV1)
    (entries : List ManifestEntryV1) (rootDigest : NodeDigest) : Except ContractError Nat := do
  let role ← checkedCanonicalEnumLength treeRole.code []
  let entries ← manifestEntryListCanonicalLength entries
  checkedCanonicalObjectLength [mountPath.length, role, entries, rootDigest.val.length]

def checkedTreeManifestCanonicalLengthV1 (value : TreeManifestV1) : Except ContractError Nat := do
  let role ← checkedCanonicalEnumLength value.treeRole.code []
  let entries ← manifestEntryListCanonicalLength value.entries
  checkedCanonicalObjectLength [value.mountPath.val.length, role, entries, value.rootDigest.val.length]

def manifestRawPathListCanonicalLength (values : List Bytes) : Except ContractError Nat :=
  checkedCanonicalListLength (values.map fun value => pure value.length)

end Canonical

end Again.Pytest
