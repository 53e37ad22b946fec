import Again.Pytest.ManifestWriter
import Mathlib.Data.List.Sort

/-!
# Manifest validation

`linux_pytest.rs`: `MetadataV1::validate`, `TreeManifestV1::validate` and
`SnapshotManifestV1::validate`. A tree is scanned entry by entry in path order;
the scan collects the paths linked from a parent directory and the members of
each hard-link group.
-/

namespace Again.Pytest

open Lib

def snapshotManifestV1Schema := "again.linux-pytest.snapshot-manifest.v1"

def sIfmt : UInt32 := 0o170000
def sIfdir : UInt32 := 0o040000
def sIfreg : UInt32 := 0o100000
def sIflnk : UInt32 := 0o120000

def malformedIf (c : Prop) [Decidable c] : Except ContractError Unit := rejectIf c .malformedManifest

@[simp] theorem malformedIf_eq_ok {c : Prop} [Decidable c] {u : Unit} : malformedIf c = .ok u ↔ ¬ c := rejectIf_eq_ok

def MetadataV1.times (metadata : MetadataV1) : List TimespecV1 :=
  [metadata.atime, metadata.mtime, metadata.ctime] ++ metadata.btime.toList

def MetadataV1.validate (metadata : MetadataV1) : Except ContractError Unit :=
  malformedIf (metadata.nlink = 0 ∨ metadata.times.any (fun time => 1000000000 ≤ time.nanoseconds) ∨
    anyWindow (fun left right => !decide (left.name < right.name)) metadata.xattrs ∨
    metadata.xattrs.any fun xattr => xattr.name.isEmpty || xattr.name.contains 0)

section Digests

variable (hash : Blake3)

def encodeOptionalDigest : Option Digest → Bytes
  | none => [0]
  | some digest => [1] ++ be64 32 ++ digest.val

def computeManifestNodeDigest (metadata : MetadataV1) (payload : ManifestPayloadV1)
    (hardlinkGroup : Option HardlinkGroupDigest) : Except ContractError NodeDigest := do
  let metadata ← Canonical.encodeMetadata metadata
  let hardlink := encodeOptionalDigest hardlinkGroup
  match payload with
  | .directory children => do
    malformedIf (hardlinkGroup ≠ none)
    let children ← Canonical.encodeChildrenForHash children
    pure (deriveTagged hash directoryNodeDomain [(1, metadata), (2, children)])
  | .regular contentDigest dataExtents => do
    let extents ← Canonical.encodeExtentsForHash dataExtents
    pure (deriveTagged hash regularNodeDomain [(1, metadata), (2, contentDigest.val), (3, extents), (4, hardlink)])
  | .symlink target => pure (deriveTagged hash symlinkNodeDomain [(1, metadata), (2, target), (3, hardlink)])
  | .externalTree treeRole targetRoot readonly => do
    malformedIf (readonly = false ∨ treeRole ≠ .runtime ∨ hardlinkGroup ≠ none)
    pure (deriveTagged hash externalTreeNodeDomain
      [(1, metadata), (2, be16 treeRole.code), (3, targetRoot.val), (4, [1])])

def ManifestEntryV1.computedNodeDigest (entry : ManifestEntryV1) : Except ContractError NodeDigest :=
  computeManifestNodeDigest hash entry.metadata entry.payload entry.hardlinkGroup

/-! ## One tree -/

/-- `by_path.get(path)`; the paths are distinct when it is asked. -/
def byPath (entries : List ManifestEntryV1) (path : Bytes) : Option ManifestEntryV1 :=
  entries.find? fun entry => entry.relativePath == path

def ManifestPayloadV1.expectedFileType : ManifestPayloadV1 → UInt32
  | .directory .. | .externalTree .. => sIfdir
  | .regular .. => sIfreg
  | .symlink .. => sIflnk

/-- Link one child of the directory at `parent`; no path is linked twice. -/
def linkChild (entries : List ManifestEntryV1) (parent : Bytes) (linked : List Bytes) (child : ChildCommitmentV1) :
    Except ContractError (List Bytes) := do
  let childPath := joinRelative parent child.name
  let target ← requireSome (byPath entries childPath) .malformedManifest
  malformedIf (target.payload.kind ≠ child.kind ∨ target.nodeDigest ≠ child.nodeDigest ∨ childPath ∈ linked)
  pure (linked ++ [childPath])

/-- Extents are nonempty, in order, disjoint and inside the file. -/
def checkExtent (size : UInt64) (last : Nat) (extent : ExtentV1) : Except ContractError Nat := do
  let next := extent.offset.toNat + extent.length.toNat
  malformedIf (2 ^ 64 ≤ next)
  malformedIf (extent.length = 0 ∨ extent.offset.toNat < last ∨ size.toNat < next)
  pure next

def checkPayload (tree : TreeManifestV1) (entry : ManifestEntryV1) (linked : List Bytes) :
    Except ContractError (List Bytes) :=
  match entry.payload with
  | .directory children => do
    malformedIf (anyWindow (fun left right => !decide (left.name < right.name)) children ∨
      children.any fun child => !validBasename child.name)
    children.foldlM (linkChild tree.entries entry.relativePath) linked
  | .regular _ dataExtents => do
    let _ ← dataExtents.foldlM (checkExtent entry.metadata.size) 0
    pure linked
  | .symlink target => do
    malformedIf (target = [] ∨ 0 ∈ target ∨ target.length ≠ entry.metadata.size.toNat)
    pure linked
  | .externalTree .. => do
    malformedIf (tree.treeRole ≠ .workspace)
    pure linked

/-- `BTreeMap<HardlinkGroupDigest, Vec<&[u8]>>`, in key order. -/
abbrev HardlinkMembers := List (HardlinkGroupDigest × List Bytes)

def addMember (group : HardlinkGroupDigest) (path : Bytes) : HardlinkMembers → HardlinkMembers
  | [] => [(group, [path])]
  | (key, members) :: rest =>
    if group = key then (key, members ++ [path]) :: rest
    else if group.val < key.val then (group, [path]) :: (key, members) :: rest
    else (key, members) :: addMember group path rest

def checkHardlink (entry : ManifestEntryV1) (members : HardlinkMembers) : Except ContractError HardlinkMembers :=
  match entry.hardlinkGroup with
  | some group => do
    malformedIf (entry.payload.kind = .directory ∨ entry.payload.kind = .externalTree ∨ entry.metadata.nlink < 2)
    pure (addMember group entry.relativePath members)
  | none => do
    malformedIf ((entry.payload.kind = .regular ∨ entry.payload.kind = .symlink) ∧ entry.metadata.nlink ≠ 1)
    pure members

/-- What the scan has collected. -/
structure TreeScan where
  linkedFromParent : List Bytes
  hardlinkMembers : HardlinkMembers

def scanEntry (tree : TreeManifestV1) (scan : TreeScan) (entry : ManifestEntryV1) :
    Except ContractError TreeScan := do
  malformedIf (validManifestRelativePath entry.relativePath = false)
  entry.metadata.validate
  malformedIf (entry.metadata.mode &&& sIfmt ≠ entry.payload.expectedFileType)
  malformedIf ((← entry.computedNodeDigest hash) ≠ entry.nodeDigest)
  let linked ← checkPayload tree entry scan.linkedFromParent
  let members ← checkHardlink entry scan.hardlinkMembers
  pure ⟨linked, members⟩

theorem scanEntry_eq_ok {tree : TreeManifestV1} {scan scan' : TreeScan} {entry : ManifestEntryV1} :
    scanEntry hash tree scan entry = .ok scan' ↔
      validManifestRelativePath entry.relativePath = true ∧ entry.metadata.validate = .ok () ∧
      entry.metadata.mode &&& sIfmt = entry.payload.expectedFileType ∧
      entry.computedNodeDigest hash = .ok entry.nodeDigest ∧
      checkPayload tree entry scan.linkedFromParent = .ok scan'.linkedFromParent ∧
      checkHardlink entry scan.hardlinkMembers = .ok scan'.hardlinkMembers := by
  simp only [scanEntry, bind_eq_ok, malformedIf_eq_ok, exists_unit, pure_eq_ok, Bool.not_eq_false, ne_eq, not_not]
  grind

/-- A group has as many members as its link count, all alike, and commits to their paths. -/
def checkGroup (entries : List ManifestEntryV1) (group : HardlinkGroupDigest × List Bytes) :
    Except ContractError Unit := do
  let members := group.2.insertionSort (· ≤ ·)
  let first ← requireSome (members.head?.bind (byPath entries)) .malformedManifest
  malformedIf (members.length ≠ first.metadata.nlink.toNat ∨ members.any fun path =>
    match byPath entries path with
    | none => true
    | some entry => entry.metadata.nlink != first.metadata.nlink || entry.payload.kind != first.payload.kind ||
        entry.nodeDigest != first.nodeDigest)
  let encoded ← Canonical.encodePathsForHash members
  malformedIf (derive hash hardlinkGroupDomain [encoded] ≠ group.1)

def TreeManifestV1.validate (tree : TreeManifestV1) : Except ContractError Unit := do
  let root ← requireSome tree.entries.head? .malformedManifest
  malformedIf (root.relativePath ≠ [] ∨
    anyWindow (fun left right => !decide (left.relativePath < right.relativePath)) tree.entries ∨
    root.payload.kind ≠ .directory)
  let scan ← tree.entries.foldlM (scanEntry hash tree) ⟨[], []⟩
  malformedIf (scan.linkedFromParent.length + 1 ≠ tree.entries.length ∨
    scan.linkedFromParent.any fun path => (byPath tree.entries path).isNone)
  scan.hardlinkMembers.forM (checkGroup hash tree.entries)
  malformedIf (tree.rootDigest ≠ root.nodeDigest)

/-! ## The snapshot -/

def profileOwned : List Bytes := [utf8 "/tmp", utf8 "/run", utf8 "/home/again", utf8 "/proc", utf8 "/dev"]

def runtimeMountIsReserved (path : Bytes) : Bool :=
  if path = utf8 "/" ∨ path = utf8 "/workspace" then true
  else profileOwned.any fun root => sandboxPathIsWithin root path

/-- The workspace entry is an external tree bound to exactly this runtime mount. -/
def bindsMount (workspaceMount : Bytes) (entry : ManifestEntryV1) (runtime : TreeManifestV1) : Bool :=
  match entry.payload with
  | .externalTree treeRole targetRoot readonly =>
    joinSandboxRelative workspaceMount entry.relativePath == runtime.mountPath.val &&
      targetRoot == runtime.rootDigest && treeRole == runtime.treeRole && readonly
  | _ => false

def SnapshotManifestV1.validate (manifest : SnapshotManifestV1) : Except ContractError Unit := do
  let workspace := manifest.workspaceTree
  let runtimes := manifest.runtimeTrees
  malformedIf (manifest.schema ≠ snapshotManifestV1Schema ∨ workspace.treeRole ≠ .workspace ∨
    workspace.mountPath.val ≠ utf8 "/workspace" ∨ validSandboxPathBytes workspace.mountPath.val = false ∨
    runtimes = [] ∨
    runtimes.any (fun tree => tree.treeRole != .runtime || !validSandboxPathBytes tree.mountPath.val ||
      runtimeMountIsReserved tree.mountPath.val) ∨
    anyWindow (fun left right => !decide (left.mountPath.val < right.mountPath.val) ||
      sandboxPathIsAncestor left.mountPath.val right.mountPath.val) runtimes)
  workspace.validate hash
  runtimes.forM (TreeManifestV1.validate hash)
  let workspaceRoot := derive hash workspaceMerkleDomain [workspace.rootDigest.val]
  let runtimeForest ← Canonical.encodeRuntimeForestForHash runtimes
  let runtimeRoot := derive hash runtimeMerkleDomain [runtimeForest]
  malformedIf (manifest.workspaceRoot ≠ workspaceRoot ∨ manifest.runtimeRoot ≠ runtimeRoot)
  workspace.entries.forM fun entry =>
    malformedIf (entry.payload.kind = .externalTree ∧
      runtimes.countP (bindsMount workspace.mountPath.val entry) ≠ 1)
  runtimes.forM fun runtime =>
    malformedIf ((utf8 "/workspace/").isPrefixOf runtime.mountPath.val ∧
      workspace.entries.countP (fun entry => bindsMount workspace.mountPath.val entry runtime) ≠ 1)

/-- What acceptance says, check by check. -/
structure SnapshotManifestV1.Accepted (manifest : SnapshotManifestV1) : Prop where
  schema : manifest.schema = snapshotManifestV1Schema
  workspaceRole : manifest.workspaceTree.treeRole = .workspace
  workspaceMount : manifest.workspaceTree.mountPath.val = utf8 "/workspace"
  runtimes_ne_nil : manifest.runtimeTrees ≠ []
  runtimeRole : ∀ tree ∈ manifest.runtimeTrees, tree.treeRole = .runtime
  notReserved : ∀ tree ∈ manifest.runtimeTrees, runtimeMountIsReserved tree.mountPath.val = false
  ordered : manifest.runtimeTrees.IsChain fun left right =>
    left.mountPath.val < right.mountPath.val ∧ sandboxPathIsAncestor left.mountPath.val right.mountPath.val = false
  workspaceTree : manifest.workspaceTree.validate hash = .ok ()
  runtimeTrees : ∀ tree ∈ manifest.runtimeTrees, tree.validate hash = .ok ()
  workspaceRoot : manifest.workspaceRoot = derive hash workspaceMerkleDomain [manifest.workspaceTree.rootDigest.val]
  runtimeRoot : ∃ forest, Canonical.encodeRuntimeForestForHash manifest.runtimeTrees = .ok forest ∧
    manifest.runtimeRoot = derive hash runtimeMerkleDomain [forest]
  bound : ∀ entry ∈ manifest.workspaceTree.entries, entry.payload.kind = .externalTree →
    manifest.runtimeTrees.countP (bindsMount manifest.workspaceTree.mountPath.val entry) = 1
  mounted : ∀ runtime ∈ manifest.runtimeTrees, (utf8 "/workspace/").isPrefixOf runtime.mountPath.val = true →
    manifest.workspaceTree.entries.countP
      (fun entry => bindsMount manifest.workspaceTree.mountPath.val entry runtime) = 1

theorem SnapshotManifestV1.validate_iff {manifest : SnapshotManifestV1} :
    manifest.validate hash = .ok () ↔ manifest.Accepted hash := by
  simp only [SnapshotManifestV1.validate, bind_eq_ok, malformedIf_eq_ok, exists_unit, forM_eq_ok, not_or, not_not,
    ne_eq, not_and]
  constructor
  · rintro ⟨⟨hschema, hrole, hmount, -, hne, hany, hordered⟩, hworkspace, htrees, forest, hforest, ⟨hwroot, hrroot⟩,
      hbound, hmounted⟩
    simp only [List.any_eq_true, Bool.or_eq_true, bne_iff_ne, Bool.not_eq_true', not_exists, not_and, not_or, not_not,
      Bool.not_eq_true, ne_eq] at hany
    rw [Bool.not_eq_true, anyWindow_eq_false] at hordered
    exact {
      schema := hschema
      workspaceRole := hrole
      workspaceMount := hmount
      runtimes_ne_nil := hne
      runtimeRole := fun tree htree => (hany tree htree).1.1
      notReserved := fun tree htree => (hany tree htree).2
      ordered := hordered.imp fun left right h => by simpa using h
      workspaceTree := hworkspace
      runtimeTrees := htrees
      workspaceRoot := hwroot
      runtimeRoot := ⟨forest, hforest, hrroot⟩
      bound := hbound
      mounted := hmounted }
  · intro h
    obtain ⟨forest, hforest, hroot⟩ := h.runtimeRoot
    refine ⟨⟨h.schema, h.workspaceRole, h.workspaceMount, ?_, h.runtimes_ne_nil, ?_, ?_⟩, h.workspaceTree,
      h.runtimeTrees, forest, hforest, ⟨h.workspaceRoot, hroot⟩, h.bound, h.mounted⟩
    · simp [manifest.workspaceTree.mountPath.property]
    · simp only [List.any_eq_true, not_exists, not_and]
      intro tree htree
      simp [h.runtimeRole tree htree, tree.mountPath.property, h.notReserved tree htree]
    · rw [Bool.not_eq_true, anyWindow_eq_false]
      exact h.ordered.imp fun left right hlr => by simpa using hlr

end Digests

end Again.Pytest
