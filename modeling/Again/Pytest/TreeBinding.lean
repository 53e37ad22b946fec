import Again.Pytest.ManifestCodec
import Again.Pytest.TreeShape

/-!
# A root digest binds its tree

Every node digest hashes the node's own metadata and payload, a directory's
also its children's digests. Where no two of the inputs hashed for two trees
collide, equal root digests mean equal entries, down to the last leaf.
-/

namespace Again.Pytest

open Lib Canonical

variable {entry : ManifestEntryV1} {fields : List (UInt16 × Bytes)}

/-! ## What a node digest hashes -/

def nodeDomain : ManifestEntryKindV1 → String
  | .directory => directoryNodeDomain
  | .regular => regularNodeDomain
  | .symlink => symlinkNodeDomain
  | .externalTree => externalTreeNodeDomain

theorem nodeDomain_injective {left right : ManifestEntryKindV1} (h : nodeDomain left = nodeDomain right) :
    left = right := by
  revert h
  cases left <;> cases right <;> decide

/-- The tagged fields under a node digest. -/
def ManifestEntryV1.nodeFields (entry : ManifestEntryV1) : Except ContractError (List (UInt16 × Bytes)) := do
  let metadata ← encodeMetadata entry.metadata
  let hardlink := encodeOptionalDigest entry.hardlinkGroup
  match entry.payload with
  | .directory children => do
    malformedIf (entry.hardlinkGroup ≠ none)
    let children ← encodeChildrenForHash children
    pure [(1, metadata), (2, children)]
  | .regular contentDigest dataExtents => do
    let extents ← encodeExtentsForHash dataExtents
    pure [(1, metadata), (2, contentDigest.val), (3, extents), (4, hardlink)]
  | .symlink target => pure [(1, metadata), (2, target), (3, hardlink)]
  | .externalTree treeRole targetRoot readonly => do
    malformedIf (readonly = false ∨ treeRole ≠ .runtime ∨ entry.hardlinkGroup ≠ none)
    pure [(1, metadata), (2, be16 treeRole.code), (3, targetRoot.val), (4, [1])]

theorem computedNodeDigest_eq_ok {hash : Blake3} {digest : NodeDigest} :
    entry.computedNodeDigest hash = .ok digest ↔
      ∃ fields, entry.nodeFields = .ok fields ∧ deriveTagged hash (nodeDomain entry.payload.kind) fields = digest := by
  have hmap : entry.computedNodeDigest hash =
      deriveTagged hash (nodeDomain entry.payload.kind) <$> entry.nodeFields := by
    unfold ManifestEntryV1.computedNodeDigest computeManifestNodeDigest ManifestEntryV1.nodeFields
    cases entry.payload <;> simp [nodeDomain, ManifestPayloadV1.kind]
  rw [hmap, map_eq_ok]

theorem length_encodeManifestCanonicalVec {n : Nat} {bytes : Bytes}
    {write : Canonical.ManifestWriterM Canonical.VecSink ContractError Unit}
    (h : encodeManifestCanonicalVec n write = .ok bytes) : bytes.length < 2 ^ 64 := by
  simp only [encodeManifestCanonicalVec, bind_eq_ok, checkedCanonicalPayloadLength_eq_ok] at h
  obtain ⟨_, ⟨hmax, rfl⟩, h⟩ := h
  split at h
  · simp only [bind_eq_ok, rejectIf_eq_ok, exists_unit, pure_eq_ok, ne_eq, not_not] at h
    rw [← h.2, h.1]
    exact lt_of_le_of_lt hmax maxBytes_lt
  · cases h
  · cases h

theorem length_encodeOptionalDigest (group : Option Digest) : (encodeOptionalDigest group).length < 2 ^ 64 := by
  cases group with
  | none => simp [encodeOptionalDigest]
  | some digest => simp [encodeOptionalDigest, digest.property]

theorem encodeOptionalDigest_injective {left right : Option Digest}
    (h : encodeOptionalDigest left = encodeOptionalDigest right) : left = right := by
  cases left <;> cases right <;> simp_all [encodeOptionalDigest, Subtype.ext_iff]

/-- Few fields, and none too long for its length word. -/
def Framed (fields : List (UInt16 × Bytes)) : Prop :=
  fields.length < 2 ^ 32 ∧ ∀ field ∈ fields, field.2.length < 2 ^ 64

theorem Framed.of_forall (hfew : fields.length < 2 ^ 32) (h : fields.Forall fun field => field.2.length < 2 ^ 64) :
    Framed fields := ⟨hfew, List.forall_iff_forall_mem.mp h⟩

theorem nodeFields_framed (h : entry.nodeFields = .ok fields)
    (htarget : ∀ target, entry.payload = .symlink target → target.length < 2 ^ 64) : Framed fields := by
  obtain ⟨metadata, hmetadata, h⟩ := bind_eq_ok.mp h
  obtain ⟨_, -, hmetadataVec⟩ := bind_eq_ok.mp hmetadata
  have hmetadataLen := length_encodeManifestCanonicalVec hmetadataVec
  have hgroup := length_encodeOptionalDigest entry.hardlinkGroup
  cases hpayload : entry.payload with
  | directory children =>
    simp only [hpayload, bind_eq_ok, malformedIf_eq_ok, exists_unit, pure_eq_ok] at h
    obtain ⟨-, bytes, hchildren, rfl⟩ := h
    obtain ⟨_, -, hvec⟩ := bind_eq_ok.mp hchildren
    exact .of_forall (by simp) ⟨hmetadataLen, length_encodeManifestCanonicalVec hvec⟩
  | regular contentDigest dataExtents =>
    simp only [hpayload, bind_eq_ok, pure_eq_ok] at h
    obtain ⟨bytes, hextents, rfl⟩ := h
    obtain ⟨_, -, hvec⟩ := bind_eq_ok.mp hextents
    exact .of_forall (by simp)
      ⟨hmetadataLen, by simp [contentDigest.property], length_encodeManifestCanonicalVec hvec, hgroup⟩
  | symlink target =>
    simp only [hpayload, pure_eq_ok] at h
    subst h
    exact .of_forall (by simp) ⟨hmetadataLen, htarget target hpayload, hgroup⟩
  | externalTree treeRole targetRoot readonly =>
    simp only [hpayload, bind_eq_ok, malformedIf_eq_ok, exists_unit, pure_eq_ok] at h
    obtain ⟨-, rfl⟩ := h
    exact .of_forall (by simp) ⟨hmetadataLen, by simp, by simp [targetRoot.property], by simp⟩

/-- The fields of a node determine the node. -/
theorem nodeFields_injective {left right : ManifestEntryV1} (hleft : left.nodeFields = .ok fields)
    (hright : right.nodeFields = .ok fields) (hkind : left.payload.kind = right.payload.kind) :
    left.metadata = right.metadata ∧ left.payload = right.payload ∧ left.hardlinkGroup = right.hardlinkGroup := by
  obtain ⟨metadata, hmetadata, hleft⟩ := bind_eq_ok.mp hleft
  obtain ⟨metadata', hmetadata', hright⟩ := bind_eq_ok.mp hright
  cases hl : left.payload <;> cases hr : right.payload <;>
    simp only [hl, hr, ManifestPayloadV1.kind, reduceCtorEq] at hkind
  case directory.directory children children' =>
    simp only [hl, hr, bind_eq_ok, malformedIf_eq_ok, exists_unit, pure_eq_ok, ne_eq, not_not] at hleft hright
    obtain ⟨hgroup, bytes, hbytes, rfl⟩ := hleft
    obtain ⟨hgroup', bytes', hbytes', heq⟩ := hright
    obtain ⟨rfl, rfl⟩ := heq
    exact ⟨encodeMetadata_injective hmetadata hmetadata',
      by rw [encodeChildrenForHash_injective hbytes hbytes'], by rw [hgroup, hgroup']⟩
  case regular.regular contentDigest dataExtents contentDigest' dataExtents' =>
    simp only [hl, hr, bind_eq_ok, pure_eq_ok] at hleft hright
    obtain ⟨bytes, hbytes, rfl⟩ := hleft
    obtain ⟨bytes', hbytes', heq⟩ := hright
    simp only [List.cons.injEq, Prod.mk.injEq, true_and, and_true] at heq
    obtain ⟨rfl, hdigest, rfl, hgroup⟩ := heq
    exact ⟨encodeMetadata_injective hmetadata hmetadata',
      by rw [encodeExtentsForHash_injective hbytes hbytes', Subtype.ext hdigest],
      (encodeOptionalDigest_injective hgroup).symm⟩
  case symlink.symlink target target' =>
    simp only [hl, hr, pure_eq_ok] at hleft hright
    subst hleft
    simp only [List.cons.injEq, Prod.mk.injEq, true_and, and_true] at hright
    obtain ⟨rfl, rfl, hgroup⟩ := hright
    exact ⟨encodeMetadata_injective hmetadata hmetadata', rfl, (encodeOptionalDigest_injective hgroup).symm⟩
  case externalTree.externalTree treeRole targetRoot readonly treeRole' targetRoot' readonly' =>
    simp only [hl, hr, bind_eq_ok, malformedIf_eq_ok, exists_unit, pure_eq_ok, not_or, ne_eq, not_not,
      Bool.not_eq_false] at hleft hright
    obtain ⟨⟨hread, hrole, hgroup⟩, rfl⟩ := hleft
    obtain ⟨⟨hread', hrole', hgroup'⟩, heq⟩ := hright
    simp only [List.cons.injEq, Prod.mk.injEq, true_and, and_true] at heq
    obtain ⟨rfl, -, hroot⟩ := heq
    exact ⟨encodeMetadata_injective hmetadata hmetadata',
      by rw [hread, hread', hrole, hrole', Subtype.ext hroot], by rw [hgroup, hgroup']⟩

/-! ## From the root down -/

/-- The inputs hashed for a tree's node digests: a domain and a frame for every entry. -/
def TreeManifestV1.hashed (tree : TreeManifestV1) : Set (String × Bytes) :=
  { input | ∃ entry ∈ tree.entries, ∃ fields, entry.nodeFields = .ok fields ∧
    input = (nodeDomain entry.payload.kind, hashFrame fields) }

/-- No two of the inputs hashed for the two trees collide. -/
def CollisionFree (hash : Blake3) (left right : TreeManifestV1) : Prop :=
  Set.InjOn (fun input : String × Bytes => hash input.1 input.2) (left.hashed ∪ right.hashed)

namespace TreeManifestV1.Accepted

variable {hash : Blake3} {tree left right : TreeManifestV1}

theorem nodeFields_ok (h : tree.Accepted hash) (hentry : entry ∈ tree.entries) :
    ∃ fields, entry.nodeFields = .ok fields ∧ Framed fields ∧
      hash (nodeDomain entry.payload.kind) (hashFrame fields) = entry.nodeDigest := by
  obtain ⟨scan, scan', hscan⟩ := h.scanned entry hentry
  obtain ⟨-, -, -, hdigest, hpayload, -⟩ := (scanEntry_eq_ok hash).mp hscan
  obtain ⟨fields, hfields, hhash⟩ := computedNodeDigest_eq_ok.mp hdigest
  refine ⟨fields, hfields, nodeFields_framed hfields fun target htarget => ?_, hhash⟩
  -- A target is as long as the size its metadata records.
  simp only [checkPayload, htarget, bind_eq_ok, malformedIf_eq_ok, exists_unit, not_or, ne_eq, not_not] at hpayload
  rw [hpayload.1.2.2]
  exact entry.metadata.size.toNat_lt

theorem eq_of_nodeDigest (hl : left.Accepted hash) (hr : right.Accepted hash) (hfree : CollisionFree hash left right)
    {other : ManifestEntryV1} (hentry : entry ∈ left.entries) (hother : other ∈ right.entries)
    (hpath : entry.relativePath = other.relativePath) (hdigest : entry.nodeDigest = other.nodeDigest) :
    entry = other := by
  obtain ⟨fields, hfields, hframed, hhash⟩ := hl.nodeFields_ok hentry
  obtain ⟨fields', hfields', hframed', hhash'⟩ := hr.nodeFields_ok hother
  have hinput := hfree (Or.inl ⟨entry, hentry, fields, hfields, rfl⟩) (Or.inr ⟨other, hother, fields', hfields', rfl⟩)
    (hhash.trans (hdigest.trans hhash'.symm))
  obtain ⟨hdomain, hframe⟩ := Prod.mk.inj hinput
  obtain rfl := hashFrame_injective hframed.1 hframed'.1 hframed.2 hframed'.2 hframe
  obtain ⟨hmetadata, hpayload, hgroup⟩ := nodeFields_injective hfields hfields' (nodeDomain_injective hdomain)
  cases entry
  simp_all

/-- Every entry of one tree is an entry of the other, by induction on its path. -/
theorem entries_subset (hl : left.Accepted hash) (hr : right.Accepted hash) (hfree : CollisionFree hash left right)
    (hroot : left.rootDigest = right.rootDigest) : left.entries ⊆ right.entries := by
  intro entry hentry
  induction hlen : entry.relativePath.length using Nat.strong_induction_on generalizing entry with
  | _ n ih =>
    by_cases hpath : entry.relativePath = []
    · obtain ⟨root, hmem, hrootPath, -, hrootDigest⟩ := hl.shaped.root
      obtain ⟨root', hmem', hrootPath', -, hrootDigest'⟩ := hr.shaped.root
      obtain rfl := hl.eq_of_path hentry hmem (hpath.trans hrootPath.symm)
      rwa [hl.eq_of_nodeDigest hr hfree hentry hmem' (hpath.trans hrootPath'.symm)
        (hrootDigest.trans (hroot.trans hrootDigest'.symm))]
    · obtain ⟨parent, hparent, children, hpayload, child, hchild, hvalid, hjoin, -, hdigest⟩ :=
        hl.linked_from hentry hpath
      have hshorter : parent.relativePath.length < n := by
        rw [← hlen, hjoin]
        exact length_lt_joinRelative (plainComponent_ne_nil (validBasename_iff.mp hvalid).1)
      have hparent' := ih _ hshorter hparent rfl
      obtain ⟨other, hother, hotherPath, -, hotherDigest⟩ :=
        hr.shaped.child parent hparent' children hpayload child hchild
      rwa [hl.eq_of_nodeDigest hr hfree hentry hother (hjoin.trans hotherPath.symm)
        (hdigest.trans hotherDigest.symm)]

end TreeManifestV1.Accepted

theorem CollisionFree.symm {hash : Blake3} {left right : TreeManifestV1} (h : CollisionFree hash left right) :
    CollisionFree hash right left := by
  unfold CollisionFree at h ⊢
  rwa [Set.union_comm]

/-- A validated tree is rooted at the empty path with every entry listed once by its parent directory, and its
root digest determines all of its entries. -/
theorem validate_shaped_and_binding (hash : Blake3) :
    (∀ tree : TreeManifestV1, tree.validate hash = .ok () → tree.Shaped) ∧
    ∀ left right : TreeManifestV1, left.validate hash = .ok () → right.validate hash = .ok () →
      CollisionFree hash left right → left.treeRole = right.treeRole → left.rootDigest = right.rootDigest →
        left.entries = right.entries := by
  refine ⟨fun tree h => (TreeManifestV1.accepted_of_validate hash h).shaped, ?_⟩
  intro left right hleft hright hfree _ hroot
  have hl := TreeManifestV1.accepted_of_validate hash hleft
  have hr := TreeManifestV1.accepted_of_validate hash hright
  have hperm : left.entries.Perm right.entries :=
    (List.perm_ext_iff_of_nodup (List.Nodup.of_map _ hl.distinct) (List.Nodup.of_map _ hr.distinct)).mpr fun _ =>
      ⟨fun h => hl.entries_subset hr hfree hroot h, fun h => hr.entries_subset hl hfree.symm hroot.symm h⟩
  -- Both lists ascend, so the same entries stand in the same order.
  exact hperm.eq_of_pairwise (fun a b _ _ hab hba => absurd (List.lt_trans hab hba) (List.lt_irrefl _)) hl.ordered
    hr.ordered

def leafDirectory : MetadataV1 := ⟨sIfdir, 0, 0, 0, 2, ⟨0, 0⟩, ⟨0, 0⟩, ⟨0, 0⟩, none, []⟩
def leafFile : MetadataV1 := ⟨sIfreg, 0, 0, 3, 1, ⟨0, 0⟩, ⟨0, 0⟩, ⟨0, 0⟩, none, []⟩

/-- A directory with one file. -/
def leafTree (mount : SandboxPath) : TreeManifestV1 where
  mountPath := mount
  treeRole := .runtime
  entries :=
    [⟨[], leafDirectory, .directory [⟨utf8 "a", .regular, domainHash regularNodeDomain []⟩], none,
        domainHash directoryNodeDomain []⟩,
      ⟨utf8 "a", leafFile, .regular (Octets.fill 32 7) [⟨0, 3⟩], none, domainHash regularNodeDomain []⟩]
  rootDigest := domainHash directoryNodeDomain []

theorem leafTree_collisionFree (mount mount' : SandboxPath) :
    CollisionFree domainHash (leafTree mount) (leafTree mount') := by
  have hdomain : ∀ bytes bytes' : Bytes,
      domainHash directoryNodeDomain bytes ≠ domainHash regularNodeDomain bytes' := fun _ _ =>
    show domainHash directoryNodeDomain [] ≠ domainHash regularNodeDomain [] by decide
  rintro _ hleft _ hright heq
  simp only [Set.mem_union, TreeManifestV1.hashed, leafTree, or_self, Set.mem_ofPred_eq, List.mem_cons,
    List.not_mem_nil, or_false] at hleft hright
  rcases hleft with ⟨_, rfl | rfl, fields, hfields, rfl⟩ <;>
    rcases hright with ⟨_, rfl | rfl, fields', hfields', rfl⟩
  · rw [Except.ok.inj (hfields.symm.trans hfields')]
  · exact absurd heq (hdomain _ _)
  · exact absurd heq.symm (hdomain _ _)
  · rw [Except.ok.inj (hfields.symm.trans hfields')]

theorem validate_shaped_and_binding_leaf :
    (leafTree ⟨utf8 "/a", valid_a⟩).Shaped ∧
      (leafTree ⟨utf8 "/a", valid_a⟩).entries = (leafTree ⟨utf8 "/b", by decide +kernel⟩).entries := by
  have hleft : (leafTree ⟨utf8 "/a", valid_a⟩).validate domainHash = .ok () := by decide +kernel
  have hright : (leafTree ⟨utf8 "/b", by decide +kernel⟩).validate domainHash = .ok () := by decide +kernel
  exact ⟨(validate_shaped_and_binding domainHash).1 _ hleft,
    (validate_shaped_and_binding domainHash).2 _ _ hleft hright (leafTree_collisionFree _ _) rfl rfl⟩

end Again.Pytest
