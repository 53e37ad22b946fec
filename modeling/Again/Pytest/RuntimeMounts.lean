import Again.Pytest.ManifestValidate

/-!
# Runtime mounts

`SnapshotManifestV1::validate` compares neighbouring runtime mounts only. In
byte order the mounts below `/a` need not follow `/a`: bytes below `/` sort in
between, so `/a`, `/a!`, `/a/b` passes although `/a/b` lies below `/a`.
-/

namespace Again.Pytest

open Lib

variable {mounts : List Bytes}

/-- Neither path is the other, nor below it. -/
def DisjointMounts (left right : Bytes) : Prop :=
  left ≠ right ∧ sandboxPathIsAncestor left right = false ∧ sandboxPathIsAncestor right left = false

instance : Std.Symm DisjointMounts := ⟨fun _ _ h => ⟨h.1.symm, h.2.2, h.2.1⟩⟩

/-- Some mount is continued both by a byte below `/` and by `/`. -/
def Straddled (mounts : List Bytes) : Prop :=
  ∃ mount ∈ mounts, (∃ b suffix, b < slash ∧ mount ++ b :: suffix ∈ mounts) ∧
    ∃ suffix, mount ++ slash :: suffix ∈ mounts

theorem Straddled.mono {mounts' : List Bytes} (hsub : mounts ⊆ mounts') (h : Straddled mounts) : Straddled mounts' := by
  obtain ⟨mount, hmount, ⟨b, low, hb, hlow⟩, high, hhigh⟩ := h
  exact ⟨mount, hsub hmount, ⟨b, low, hb, hsub hlow⟩, high, hsub hhigh⟩

theorem lt_append_cons (path : Bytes) (b : UInt8) (suffix : Bytes) : path < path ++ b :: suffix := by
  induction path with
  | nil => exact List.nil_lt_cons _ _
  | cons a path ih => exact List.cons_lt_cons_iff.mpr (Or.inr ⟨rfl, ih⟩)

/-- A byte string between a path and a path below it continues the path by at most `/`. -/
theorem continues_of_between {path between suffix : Bytes} (hlow : path < between)
    (hhigh : ¬ path ++ slash :: suffix < between) : ∃ b rest, between = path ++ b :: rest ∧ b ≤ slash := by
  induction path generalizing between with
  | nil =>
    cases between with
    | nil => exact absurd hlow (List.not_lt_nil _)
    | cons b rest =>
      refine ⟨b, rest, rfl, ?_⟩
      by_contra hb
      exact hhigh (List.cons_lt_cons_iff.mpr (Or.inl (UInt8.not_le.mp hb)))
  | cons a path ih =>
    cases between with
    | nil => exact absurd hlow (List.not_lt_nil _)
    | cons b rest =>
      rcases List.cons_lt_cons_iff.mp hlow with hab | ⟨rfl, hrest⟩
      · exact absurd (List.cons_lt_cons_iff.mpr (Or.inl hab)) hhigh
      · have hhigh' : ¬ path ++ slash :: suffix < rest := fun h =>
          hhigh (List.cons_lt_cons_iff.mpr (Or.inr ⟨rfl, h⟩))
        obtain ⟨c, tail, rfl, hc⟩ := ih hrest hhigh'
        exact ⟨c, tail, rfl, hc⟩

/-- Of a mount and one sorted after it, the later is never the ancestor. -/
theorem not_ancestor_of_lt {left right : Bytes} (h : left < right) : sandboxPathIsAncestor right left = false := by
  rw [Bool.eq_false_iff]
  intro hanc
  obtain ⟨suffix, rfl⟩ := sandboxPathIsAncestor_iff.mp hanc
  exact List.lt_asymm h (lt_append_cons right slash suffix)

/-- The order `validate` asks for, neighbour by neighbour. -/
abbrev MountsOrdered (mounts : List Bytes) : Prop :=
  mounts.IsChain fun left right => left < right ∧ sandboxPathIsAncestor left right = false

theorem MountsOrdered.pairwise_lt (h : MountsOrdered mounts) : mounts.Pairwise (· < ·) := by
  have hchain : mounts.IsChain (· < ·) := h.imp fun _ _ hlr => hlr.1
  exact List.isChain_iff_pairwise.mp hchain

theorem disjoint_of_not_straddled (h : MountsOrdered mounts) (hs : ¬ Straddled mounts) :
    mounts.Pairwise DisjointMounts := by
  induction mounts with
  | nil => exact List.Pairwise.nil
  | cons first rest ih =>
    have hlt := List.pairwise_cons.mp h.pairwise_lt
    refine List.pairwise_cons.mpr ⟨fun mount hmount => ?_, ih h.tail fun hr =>
      hs (hr.mono (List.subset_cons_self first rest))⟩
    have hfirst := hlt.1 mount hmount
    refine ⟨bytes_ne_of_lt hfirst, ?_, not_ancestor_of_lt hfirst⟩
    -- If `mount` lay below `first`, the neighbour of `first` would have to lie between the two.
    rw [Bool.eq_false_iff]
    intro hanc
    obtain ⟨suffix, rfl⟩ := sandboxPathIsAncestor_iff.mp hanc
    cases rest with
    | nil => cases hmount
    | cons next rest =>
      obtain ⟨⟨hnext, hnotanc⟩, _⟩ := List.isChain_cons_cons.mp h
      have hle : ¬ first ++ slash :: suffix < next := by
        rcases List.mem_cons.mp hmount with heq | hmem
        · rw [heq]
          exact List.lt_irrefl next
        · exact fun hlt' => List.lt_asymm hlt' ((List.pairwise_cons.mp hlt.2).1 _ hmem)
      obtain ⟨b, tail, rfl, hb⟩ := continues_of_between hnext hle
      have hb' : b ≠ slash := by
        rintro rfl
        rw [sandboxPathIsAncestor_iff.mpr ⟨tail, rfl⟩] at hnotanc
        cases hnotanc
      exact hs ⟨first, List.mem_cons_self, ⟨b, tail, UInt8.lt_of_le_of_ne hb hb', by simp⟩, suffix,
        List.mem_cons_of_mem _ hmount⟩

theorem not_straddled_of_disjoint (h : mounts.Pairwise DisjointMounts) : ¬ Straddled mounts := by
  rintro ⟨mount, hmount, -, suffix, hsuffix⟩
  have hne : mount ≠ mount ++ slash :: suffix := bytes_ne_of_lt (lt_append_cons mount slash suffix)
  have hdisjoint := h.forall hmount hsuffix hne
  have hanc := hdisjoint.2.1
  rw [sandboxPathIsAncestor_iff.mpr ⟨suffix, rfl⟩] at hanc
  cases hanc

/-- Runtime mounts of an accepted manifest are pairwise distinct and unnested exactly when none is straddled. -/
theorem validate_mounts_disjoint_iff (hash : Blake3) (manifest : SnapshotManifestV1)
    (h : manifest.validate hash = .ok ()) :
    (manifest.runtimeTrees.Pairwise fun left right => DisjointMounts left.mountPath.val right.mountPath.val) ↔
      ¬ Straddled (manifest.runtimeTrees.map fun tree => tree.mountPath.val) := by
  have hordered : MountsOrdered (manifest.runtimeTrees.map fun tree => tree.mountPath.val) :=
    (List.isChain_map _).mpr ((SnapshotManifestV1.validate_iff hash).mp h).ordered
  rw [← List.pairwise_map]
  exact ⟨not_straddled_of_disjoint, disjoint_of_not_straddled hordered⟩

/-! ## A nested forest that is accepted -/

section Nested

variable (hash : Blake3)

def bareMetadata : MetadataV1 where
  mode := sIfdir
  logicalUid := 0
  logicalGid := 0
  size := 0
  nlink := 2
  atime := ⟨0, 0⟩
  mtime := ⟨0, 0⟩
  ctime := ⟨0, 0⟩
  btime := none
  xattrs := []

def bareDigest : NodeDigest :=
  deriveTagged hash directoryNodeDomain
    [(1, (Canonical.encodeMetadata bareMetadata).toOption.getD []),
      (2, (Canonical.encodeChildrenForHash []).toOption.getD [])]

/-- A tree that is one empty directory. -/
def bareTree (mount : SandboxPath) (role : TreeRoleV1) : TreeManifestV1 :=
  ⟨mount, role, [⟨[], bareMetadata, .directory [], none, bareDigest hash⟩], bareDigest hash⟩

theorem bareTree_validate (mount : SandboxPath) (role : TreeRoleV1) :
    (bareTree hash mount role).validate hash = .ok () := by
  obtain ⟨metadata, hmetadata⟩ := ok_of_toBool (x := Canonical.encodeMetadata bareMetadata) (by decide +kernel)
  obtain ⟨children, hchildren⟩ := ok_of_toBool (x := Canonical.encodeChildrenForHash []) (by decide +kernel)
  have hdigest : ManifestEntryV1.computedNodeDigest hash ⟨[], bareMetadata, .directory [], none, bareDigest hash⟩ =
      .ok (bareDigest hash) := by
    simp [ManifestEntryV1.computedNodeDigest, computeManifestNodeDigest, bareDigest, hmetadata, hchildren,
      Except.toOption]
  have hentry : scanEntry hash (bareTree hash mount role) ⟨[], []⟩
      ⟨[], bareMetadata, .directory [], none, bareDigest hash⟩ = .ok ⟨[], []⟩ :=
    (scanEntry_eq_ok hash).mpr ⟨rfl, rfl, (by decide : sIfdir &&& sIfmt = sIfdir), hdigest, rfl, rfl⟩
  have hscan : (bareTree hash mount role).entries.foldlM (scanEntry hash (bareTree hash mount role)) ⟨[], []⟩ =
      .ok ⟨[], []⟩ := by
    simp only [bareTree] at hentry ⊢
    simp [hentry]
  simp only [TreeManifestV1.validate, hscan, bind_eq_ok]
  simp [bareTree, requireSome, anyWindow, ManifestPayloadV1.kind]

/-- The runtime mounts `/a`, `/a!` and `/a/b`. -/
def nestedTrees : List TreeManifestV1 :=
  [bareTree hash ⟨utf8 "/a", valid_a⟩ .runtime, bareTree hash ⟨utf8 "/a!", by decide +kernel⟩ .runtime,
    bareTree hash ⟨utf8 "/a/b", by decide +kernel⟩ .runtime]

def nestedManifest : SnapshotManifestV1 where
  schema := snapshotManifestV1Schema
  profileDigest := Octets.fill 32 1
  workspaceIdentity := Octets.fill 32 2
  workspaceTree := bareTree hash ⟨utf8 "/workspace", valid_workspace⟩ .workspace
  runtimeTrees := nestedTrees hash
  workspaceRoot := derive hash workspaceMerkleDomain [(bareDigest hash).val]
  runtimeRoot := derive hash runtimeMerkleDomain
    [(Canonical.encodeRuntimeForestForHash (nestedTrees hash)).toOption.getD []]

open Canonical in
theorem encodeRuntimeMount_ok {tree : TreeManifestV1} (h : tree.mountPath.val.length ≤ 100) :
    ∃ bytes, encodeRuntimeMount tree = .ok bytes ∧ bytes.length ≤ 160 := by
  have hdigest := tree.rootDigest.property
  obtain ⟨fields, hfields⟩ : ∃ fields : List (TaggedField WireType),
    fields = [⟨1, .bytes, tree.mountPath.val⟩, ⟨2, .bytes, tree.rootDigest.val⟩] := ⟨_, rfl⟩
  have hlen : (codec.objectBytes typeRuntimeMount fields).length ≤ 160 := by
    simp [hfields, Codec.length_objectBytes, Codec.fieldsBytes, Codec.length_fieldBytes, hdigest, fieldHeaderBytes]
    omega
  refine ⟨_, Codec.encodeNested_eq maxBytes_lt (?_ : Codec.Computed _ fields) ?_ ?_ ?_, hlen⟩
  · simp [hfields, callBytes]
  · simp [hfields]
  · simp [hfields, Codec.Ascending]
  · exact le_trans hlen (by decide)

open Canonical in
theorem nestedForest_ok : ∃ forest, encodeRuntimeForestForHash (nestedTrees hash) = .ok forest := by
  have hmount : ∀ tree ∈ nestedTrees hash, tree.mountPath.val.length ≤ 100 := by
    intro tree htree
    simp only [nestedTrees, bareTree, List.mem_cons, List.not_mem_nil, or_false] at htree
    rcases htree with rfl | rfl | rfl <;> dsimp only <;> decide +kernel
  have hencode := fun tree htree => encodeRuntimeMount_ok (hmount tree htree)
  simp only [nestedTrees, List.mem_cons, List.not_mem_nil, or_false, forall_eq_or_imp, forall_eq] at hencode
  obtain ⟨⟨a, ha, hlena⟩, ⟨b, hb, hlenb⟩, ⟨c, hc, hlenc⟩⟩ := hencode
  have hlist : codec.encodeList [a, b, c] = .ok (Codec.listBytes [a, b, c]) := by
    refine Codec.encodeList_eq maxBytes_lt maxItems_lt (show 3 ≤ codec.maxItems by decide) ?_
    have hlen : (Codec.listBytes [a, b, c]).length ≤ 600 := by
      simp only [Codec.listBytes, Codec.itemsBytes, List.flatMap_cons, List.flatMap_nil, List.length_append, length_be64,
        List.length_nil]
      omega
    exact le_trans hlen (by decide)
  exact ⟨Codec.listBytes [a, b, c], by simp [encodeRuntimeForestForHash, nestedTrees, ha, hb, hc, hlist]⟩

theorem nestedManifest_accepted : (nestedManifest hash).Accepted hash := by
  obtain ⟨forest, hforest⟩ := nestedForest_ok hash
  have hmounts : ∀ tree ∈ nestedTrees hash, tree.treeRole = .runtime ∧
      runtimeMountIsReserved tree.mountPath.val = false ∧ (utf8 "/workspace/").isPrefixOf tree.mountPath.val = false ∧
      tree.validate hash = .ok () := by
    intro tree htree
    simp only [nestedTrees, List.mem_cons, List.not_mem_nil, or_false] at htree
    rcases htree with rfl | rfl | rfl <;>
      exact ⟨rfl, by simp only [bareTree]; decide +kernel, by simp only [bareTree]; decide +kernel,
        bareTree_validate hash _ _⟩
  exact {
    schema := rfl
    workspaceRole := rfl
    workspaceMount := rfl
    runtimes_ne_nil := List.cons_ne_nil _ _
    runtimeRole := fun tree htree => (hmounts tree htree).1
    notReserved := fun tree htree => (hmounts tree htree).2.1
    ordered := by
      simp only [nestedManifest, nestedTrees, bareTree, List.isChain_cons_cons, List.isChain_singleton, and_true]
      decide +kernel
    workspaceTree := bareTree_validate hash _ _
    runtimeTrees := fun tree htree => (hmounts tree htree).2.2.2
    workspaceRoot := rfl
    runtimeRoot := ⟨forest, hforest, by simp [nestedManifest, hforest, Except.toOption]⟩
    bound := fun entry hentry hkind => by
      simp only [nestedManifest, bareTree, List.mem_singleton] at hentry
      rw [hentry] at hkind
      cases hkind
    mounted := fun tree htree hpre => by
      rw [(hmounts tree htree).2.2.1] at hpre
      cases hpre }

end Nested

/-- Whatever the hash, a manifest with the mounts `/a`, `/a!` and `/a/b` is accepted, the third below the first. -/
theorem nested_mounts_accepted :
    (∀ hash : Blake3, (nestedManifest hash).validate hash = .ok () ∧
      (nestedManifest hash).runtimeTrees.map (fun tree => tree.mountPath.val) = [utf8 "/a", utf8 "/a!", utf8 "/a/b"]) ∧
      sandboxPathIsAncestor (utf8 "/a") (utf8 "/a/b") = true :=
  ⟨fun hash => ⟨(SnapshotManifestV1.validate_iff hash).mpr (nestedManifest_accepted hash), rfl⟩, by decide +kernel⟩

theorem nested_straddled (hash : Blake3) :
    Straddled ((nestedManifest hash).runtimeTrees.map fun tree => tree.mountPath.val) := by
  have hmounts : (nestedManifest hash).runtimeTrees.map (fun tree => tree.mountPath.val) =
      [utf8 "/a", utf8 "/a!", utf8 "/a/b"] := rfl
  rw [hmounts]
  exact ⟨utf8 "/a", by decide +kernel, ⟨33, [], by decide +kernel, by decide +kernel⟩, utf8 "b", by decide +kernel⟩

/-- At that manifest the mounts are not disjoint, as the straddled `/a` says. -/
theorem validate_mounts_disjoint_iff_nested :
    (nestedManifest fun _ _ => Octets.fill 32 7).validate (fun _ _ => Octets.fill 32 7) = .ok () ∧
      ¬ (nestedManifest fun _ _ => Octets.fill 32 7).runtimeTrees.Pairwise fun left right =>
        DisjointMounts left.mountPath.val right.mountPath.val := by
  have hok := (SnapshotManifestV1.validate_iff fun _ _ => Octets.fill 32 7).mpr (nestedManifest_accepted _)
  exact ⟨hok, fun h => (validate_mounts_disjoint_iff _ _ hok).mp h (nested_straddled _)⟩

end Again.Pytest
