import Again.Pytest.ManifestBytes
import Again.Pytest.ManifestValidate

/-!
# Reading manifests

`canonical.rs`: the manifest decoders, and that each gives back the value its
bytes were built from.
-/

namespace Again.Pytest.Canonical

open Lib

def decodeTreeRole (bytes : Bytes) : Except ContractError TreeRoleV1 := do
  match ← decodeSimpleEnum bytes with
  | 1 => pure .workspace
  | 2 => pure .runtime
  | _ => throw .canonicalDecoding

def decodeManifestEntryKind (bytes : Bytes) : Except ContractError ManifestEntryKindV1 := do
  match ← decodeSimpleEnum bytes with
  | 1 => pure .directory
  | 2 => pure .regular
  | 3 => pure .symlink
  | 4 => pure .externalTree
  | _ => throw .canonicalDecoding

def decodeTimespec (bytes : Bytes) : Except ContractError TimespecV1 := do
  let object : RawObject WireType ← codec.parseNested bytes
  codec.expectObject object typeTimespec [(1, .i64), (2, .u32)]
  let seconds ← decodeI64 (← codec.payload object.fields 1)
  let nanoseconds ← decodeU32 (← codec.payload object.fields 2)
  pure ⟨seconds, nanoseconds⟩

def decodeXattr (bytes : Bytes) : Except ContractError XattrV1 := do
  let object : RawObject WireType ← codec.parseNested bytes
  codec.expectObject object typeXattr [(1, .bytes), (2, .bytes)]
  let name ← codec.payload object.fields 1
  let value ← codec.payload object.fields 2
  pure ⟨name, value⟩

def decodeMetadata (bytes : Bytes) : Except ContractError MetadataV1 := do
  let object : RawObject WireType ← codec.parseNested bytes
  codec.expectObject object typeMetadata [(1, .u32), (2, .u32), (3, .u32), (4, .u64), (5, .u64), (6, .object),
    (7, .object), (8, .object), (9, .optional), (10, .list)]
  let mode ← decodeU32 (← codec.payload object.fields 1)
  let logicalUid ← decodeU32 (← codec.payload object.fields 2)
  let logicalGid ← decodeU32 (← codec.payload object.fields 3)
  let size ← decodeU64 (← codec.payload object.fields 4)
  let nlink ← decodeU64 (← codec.payload object.fields 5)
  let atime ← decodeTimespec (← codec.payload object.fields 6)
  let mtime ← decodeTimespec (← codec.payload object.fields 7)
  let ctime ← decodeTimespec (← codec.payload object.fields 8)
  let btime ← (← codec.decodeOptional (← codec.payload object.fields 9)).mapM decodeTimespec
  let xattrs ← (← codec.decodeList (← codec.payload object.fields 10)).mapM decodeXattr
  pure { mode, logicalUid, logicalGid, size, nlink, atime, mtime, ctime, btime, xattrs }

def decodeExtent (bytes : Bytes) : Except ContractError ExtentV1 := do
  let object : RawObject WireType ← codec.parseNested bytes
  codec.expectObject object typeExtent [(1, .u64), (2, .u64)]
  let offset ← decodeU64 (← codec.payload object.fields 1)
  let length ← decodeU64 (← codec.payload object.fields 2)
  pure ⟨offset, length⟩

def decodeChild (bytes : Bytes) : Except ContractError ChildCommitmentV1 := do
  let object : RawObject WireType ← codec.parseNested bytes
  codec.expectObject object typeChildCommitment [(1, .bytes), (2, .enum), (3, .bytes)]
  let name ← codec.payload object.fields 1
  let kind ← decodeManifestEntryKind (← codec.payload object.fields 2)
  let nodeDigest ← exact 32 (← codec.payload object.fields 3)
  pure ⟨name, kind, nodeDigest⟩

def decodeManifestPayload (bytes : Bytes) : Except ContractError ManifestPayloadV1 := do
  let value : RawEnum WireType ← codec.parseEnum bytes
  match value.variant with
  | 1 => do
    codec.expectEnum value 1 [(1, .list)]
    pure (.directory (← (← codec.decodeList (← codec.payload value.fields 1)).mapM decodeChild))
  | 2 => do
    codec.expectEnum value 2 [(1, .bytes), (2, .list)]
    let contentDigest ← exact 32 (← codec.payload value.fields 1)
    pure (.regular contentDigest (← (← codec.decodeList (← codec.payload value.fields 2)).mapM decodeExtent))
  | 3 => do
    codec.expectEnum value 3 [(1, .bytes)]
    pure (.symlink (← codec.payload value.fields 1))
  | 4 => do
    codec.expectEnum value 4 [(1, .enum), (2, .bytes), (3, .bool)]
    let treeRole ← decodeTreeRole (← codec.payload value.fields 1)
    let targetRoot ← exact 32 (← codec.payload value.fields 2)
    pure (.externalTree treeRole targetRoot (← decodeBool (← codec.payload value.fields 3)))
  | _ => throw .canonicalDecoding

def decodeManifestEntry (bytes : Bytes) : Except ContractError ManifestEntryV1 := do
  let object : RawObject WireType ← codec.parseNested bytes
  codec.expectObject object typeManifestEntry
    [(1, .bytes), (2, .enum), (3, .object), (4, .enum), (5, .optional), (6, .bytes)]
  let declaredKind ← decodeManifestEntryKind (← codec.payload object.fields 2)
  let payload ← decodeManifestPayload (← codec.payload object.fields 4)
  rejectIf (declaredKind ≠ payload.kind) .canonicalDecoding
  let relativePath ← codec.payload object.fields 1
  let metadata ← decodeMetadata (← codec.payload object.fields 3)
  let hardlinkGroup ← (← codec.decodeOptional (← codec.payload object.fields 5)).mapM (exact 32)
  let nodeDigest ← exact 32 (← codec.payload object.fields 6)
  pure { relativePath, metadata, payload, hardlinkGroup, nodeDigest }

def decodeTree (bytes : Bytes) : Except ContractError TreeManifestV1 := do
  let object : RawObject WireType ← codec.parseNested bytes
  codec.expectObject object typeTreeManifest [(1, .bytes), (2, .enum), (3, .list), (4, .bytes)]
  let mountPath ← (SandboxPath.new (← codec.payload object.fields 1)).mapError fun _ => .canonicalDecoding
  let treeRole ← decodeTreeRole (← codec.payload object.fields 2)
  let entries ← (← codec.decodeList (← codec.payload object.fields 3)).mapM decodeManifestEntry
  let rootDigest ← exact 32 (← codec.payload object.fields 4)
  pure { mountPath, treeRole, entries, rootDigest }

def decodeSnapshotManifest (hash : Blake3) (bytes : Bytes) : Except ContractError SnapshotManifestV1 := do
  let object : RawObject WireType ← codec.parseTop bytes
  codec.expectObject object typeSnapshotManifest
    [(1, .utf8), (2, .bytes), (3, .bytes), (4, .object), (5, .list), (6, .bytes), (7, .bytes)]
  let schema ← decodeUtf8 (← codec.payload object.fields 1)
  let profileDigest ← exact 32 (← codec.payload object.fields 2)
  let workspaceIdentity ← exact 32 (← codec.payload object.fields 3)
  let workspaceTree ← decodeTree (← codec.payload object.fields 4)
  let runtimeTrees ← (← codec.decodeList (← codec.payload object.fields 5)).mapM decodeTree
  let workspaceRoot ← exact 32 (← codec.payload object.fields 6)
  let runtimeRoot ← exact 32 (← codec.payload object.fields 7)
  let value : SnapshotManifestV1 :=
    { schema, profileDigest, workspaceIdentity, workspaceTree, runtimeTrees, workspaceRoot, runtimeRoot }
  value.validate hash
  rejectIf ((← encodeSnapshotManifest value) ≠ bytes) .canonicalDecoding
  pure value

/-! ## What was built is read back -/

attribute [local simp] callBytes callU32 callU64 callI64 callUtf8 Codec.expectObject_ok Codec.expectEnum_ok

open Codec

variable {bytes : Bytes}

/-- A variant without fields. -/
abbrev SimpleEnum (variant : UInt16) (bytes : Bytes) : Prop :=
  codec.encodeEnum variant ([] : List (TaggedField WireType)) = .ok bytes

theorem decodeSimpleEnum_bind {α : Type} {code : α → UInt16} {f : UInt16 → Except ContractError α} {value : α}
    (h : SimpleEnum (code value) bytes) (hf : ∀ value, f (code value) = .ok value) :
    (decodeSimpleEnum bytes >>= f) = .ok value := by
  rw [decodeSimpleEnum_encodeEnum h, ok_bind, hf]

theorem decodeTreeRole_encode {role : TreeRoleV1} (h : SimpleEnum role.code bytes) : decodeTreeRole bytes = .ok role :=
  decodeSimpleEnum_bind h (by rintro ⟨⟩ <;> rfl)

theorem decodeManifestEntryKind_encode {kind : ManifestEntryKindV1} (h : SimpleEnum kind.code bytes) :
    decodeManifestEntryKind bytes = .ok kind :=
  decodeSimpleEnum_bind h (by rintro ⟨⟩ <;> rfl)

theorem decodeTimespec_build : ReadsBack buildTimespec decodeTimespec := by
  refine readsBack_nested fun _ _ _ hcalls hparse => ?_
  simp at hcalls
  subst hcalls
  simp [decodeTimespec, hparse]

theorem decodeXattr_build : ReadsBack buildXattr decodeXattr := by
  refine readsBack_nested fun _ _ _ hcalls hparse => ?_
  simp at hcalls
  subst hcalls
  simp [decodeXattr, hparse]

theorem decodeExtent_build : ReadsBack buildExtent decodeExtent := by
  refine readsBack_nested fun _ _ _ hcalls hparse => ?_
  simp at hcalls
  subst hcalls
  simp [decodeExtent, hparse]

theorem decodeChild_build : ReadsBack buildChild decodeChild := by
  refine readsBack_nested fun _ _ _ hcalls hparse => ?_
  simp at hcalls
  obtain ⟨kind, hkind, rfl⟩ := hcalls
  simp [decodeChild, hparse, decodeManifestEntryKind_encode hkind]

theorem decodeMetadata_build : ReadsBack buildMetadata decodeMetadata := by
  refine readsBack_nested fun _ _ _ hcalls hparse => ?_
  simp at hcalls
  obtain ⟨_, _, _, _, _, _, _, ⟨hatime, hmtime, hctime, ⟨hitem, hbtime⟩, hitems, hxattrs⟩, rfl⟩ := hcalls
  have hbtimes := optionMapM_inverse decodeTimespec_build hitem
  have hxattr := mapM_inverse (fun _ _ => decodeXattr_build _) hitems
  simp [decodeMetadata, hparse, decodeTimespec_build _ _ hatime, decodeTimespec_build _ _ hmtime,
    decodeTimespec_build _ _ hctime, decodeOptional_encodeOptional hbtime, hbtimes,
    decodeList_encodeList hxattrs, hxattr]

theorem decodeChildren_build : ReadsBack buildChildren fun bytes => (do (← codec.decodeList bytes).mapM decodeChild) := by
  intro values bytes h
  obtain ⟨items, hitems, hlist⟩ := bind_eq_ok.mp h
  simp [decodeList_encodeList hlist, mapM_inverse (fun _ _ => decodeChild_build _) hitems]

theorem decodeExtents_build : ReadsBack buildExtents fun bytes => (do (← codec.decodeList bytes).mapM decodeExtent) := by
  intro values bytes h
  obtain ⟨items, hitems, hlist⟩ := bind_eq_ok.mp h
  simp [decodeList_encodeList hlist, mapM_inverse (fun _ _ => decodeExtent_build _) hitems]

theorem decodeManifestPayload_build : ReadsBack buildPayload decodeManifestPayload := by
  intro value bytes h
  cases value with
  | directory children =>
    obtain ⟨_, hchildren, henum⟩ := bind_eq_ok.mp h
    have hdecode := decodeChildren_build _ _ hchildren
    simp only [bind_eq_ok] at hdecode
    obtain ⟨items, hlist, hitems⟩ := hdecode
    simp [decodeManifestPayload, parseEnum_encodeEnum henum, ManifestEntryKindV1.code, enumField, hlist, hitems]
  | regular contentDigest dataExtents =>
    obtain ⟨_, hextents, henum⟩ := bind_eq_ok.mp h
    have hdecode := decodeExtents_build _ _ hextents
    simp only [bind_eq_ok] at hdecode
    obtain ⟨items, hlist, hitems⟩ := hdecode
    simp [decodeManifestPayload, parseEnum_encodeEnum henum, ManifestEntryKindV1.code, enumField, hlist, hitems]
  | symlink target =>
    simp [decodeManifestPayload, parseEnum_encodeEnum h, ManifestEntryKindV1.code, enumField]
  | externalTree treeRole targetRoot readonly =>
    obtain ⟨_, hrole, henum⟩ := bind_eq_ok.mp h
    simp [decodeManifestPayload, parseEnum_encodeEnum henum, ManifestEntryKindV1.code, enumField,
      decodeTreeRole_encode hrole]

theorem decodeManifestEntry_build : ReadsBack buildEntry decodeManifestEntry := by
  refine readsBack_nested fun _ _ _ hcalls hparse => ?_
  simp at hcalls
  obtain ⟨_, _, _, _, _, ⟨hkind, hmetadata, hpayload, hitem, hhardlink⟩, rfl⟩ := hcalls
  have hgroup := optionMapM_inverse (g := exact 32) (fun _ _ hdigest => by
    rw [pure_eq_ok] at hdigest
    rw [← hdigest, exact_val]) hitem
  simp [decodeManifestEntry, hparse, decodeManifestEntryKind_encode hkind,
    decodeManifestPayload_build _ _ hpayload, decodeMetadata_build _ _ hmetadata,
    decodeOptional_encodeOptional hhardlink, hgroup]

theorem decodeTree_build : ReadsBack buildTree decodeTree := by
  refine readsBack_nested fun _ _ _ hcalls hparse => ?_
  simp at hcalls
  obtain ⟨_, _, _, ⟨hrole, hitems, hentries⟩, rfl⟩ := hcalls
  simp [decodeTree, hparse, decodeTreeRole_encode hrole, decodeList_encodeList hentries,
    mapM_inverse (fun _ _ => decodeManifestEntry_build _) hitems, Except.mapError]

theorem decodeTree_encodeTree {value : TreeManifestV1} (h : encodeTree value = .ok bytes) :
    decodeTree bytes = .ok value := decodeTree_build _ _ (built_of_encodeVec (filled_tree _) h)

/-- A valid manifest is read back from its canonical bytes. -/
theorem decodeSnapshotManifest_encode (hash : Blake3) {value : SnapshotManifestV1}
    (hvalid : value.validate hash = .ok ()) (h : encodeSnapshotManifest value = .ok bytes) :
    decodeSnapshotManifest hash bytes = .ok value := by
  obtain ⟨fields, hcalls, hparse⟩ := parseTop_encodeTop h
  simp at hcalls
  obtain ⟨_, _, _, ⟨htree, hitems, hlist⟩, rfl⟩ := hcalls
  simp [decodeSnapshotManifest, hparse, decodeTree_encodeTree htree,
    decodeList_encodeList hlist, mapM_inverse (fun _ _ _ => decodeTree_encodeTree) hitems, hvalid, h]

/-! ## The hashed encodings determine their values -/

theorem encodeMetadata_injective {left right : MetadataV1} (hleft : encodeMetadata left = .ok bytes)
    (hright : encodeMetadata right = .ok bytes) : left = right :=
  decodeMetadata_build.injective (built_of_encodeVec (filled_metadata _) hleft)
    (built_of_encodeVec (filled_metadata _) hright)

theorem encodeChildrenForHash_injective {left right : List ChildCommitmentV1}
    (hleft : encodeChildrenForHash left = .ok bytes) (hright : encodeChildrenForHash right = .ok bytes) : left = right :=
  decodeChildren_build.injective (built_of_encodeVec (filled_children _) hleft)
    (built_of_encodeVec (filled_children _) hright)

theorem encodeExtentsForHash_injective {left right : List ExtentV1} (hleft : encodeExtentsForHash left = .ok bytes)
    (hright : encodeExtentsForHash right = .ok bytes) : left = right :=
  decodeExtents_build.injective (built_of_encodeVec (filled_extents _) hleft) (built_of_encodeVec (filled_extents _) hright)

end Again.Pytest.Canonical
