import Again.Lib.PathWalk
import Again.Pytest.ExecutableChain
import Again.Pytest.TreeShape

/-!
# The file tree of a manifest

A manifest read as one tree of files: runtime trees stand at their mounts over
the workspace, and the directories above a mount are there because the mount
is. A path is taken apart into its components.
-/

namespace Again.Pytest

open Lib SnapshotManifestV1

variable {tree : TreeManifestV1} {mount : SandboxPath} {rel : List Bytes}

/-! ## Components -/

/-- The names along a relative path. -/
def relativeComponents (path : Bytes) : List Bytes := if path = [] then [] else path.splitOn slash

/-- The names along an absolute path. -/
def components (path : Bytes) : List Bytes := relativeComponents path.tail

theorem intercalate_relativeComponents (path : Bytes) : [slash].intercalate (relativeComponents path) = path := by
  unfold relativeComponents
  split
  · next h => rw [h, List.intercalate_nil]
  · exact List.intercalate_splitOn slash

theorem relativeComponents_injective {left right : Bytes} (h : relativeComponents left = relativeComponents right) :
    left = right := by
  rw [← intercalate_relativeComponents left, h, intercalate_relativeComponents]

theorem relativeComponents_joinRelative {parent name : Bytes} (h : slash ∉ name) (hne : name ≠ []) :
    relativeComponents (joinRelative parent name) = relativeComponents parent ++ [name] := by
  rw [relativeComponents, if_neg (joinRelative_ne_nil parent hne)]
  by_cases hparent : parent = []
  · simp [hparent, joinRelative, relativeComponents, List.splitOn_eq_singleton h]
  · rw [splitOn_joinRelative hparent h, relativeComponents, if_neg hparent]

variable {path : Bytes}

theorem relativeComponents_append {rest : Bytes} (hpath : path ≠ []) (hrest : rest ≠ []) :
    relativeComponents (path ++ slash :: rest) = relativeComponents path ++ relativeComponents rest := by
  simp [relativeComponents, hpath, hrest, List.splitOn_append_cons_self]

theorem intercalate_append {left right : List Bytes} (hleft : left ≠ []) (hright : right ≠ []) :
    [slash].intercalate (left ++ right) = [slash].intercalate left ++ slash :: [slash].intercalate right := by
  induction left with
  | nil => exact absurd rfl hleft
  | cons first left ih =>
    cases left with
    | nil => simp [List.intercalate_cons_of_ne_nil hright]
    | cons second left =>
      rw [List.cons_append, List.intercalate_cons_of_ne_nil (by simp), ih (by simp), List.intercalate_cons_cons]
      simp

theorem relativeComponents_eq_nil : relativeComponents path = [] ↔ path = [] := by
  unfold relativeComponents
  split <;> simp_all [List.splitOn_ne_nil]

/-- What a valid sandbox path is: a slash, then nothing or plain components. -/
theorem validSandboxPath_cases (h : validSandboxPathBytes path = true) :
    ∃ rest, path = slash :: rest ∧ ∀ component ∈ relativeComponents rest, plainComponent component = true := by
  unfold validSandboxPathBytes at h
  split at h
  · cases h
  · next hhead =>
    rw [not_or, not_not] at hhead
    obtain ⟨rest, rfl⟩ := List.head?_eq_some_iff.mp hhead.1
    refine ⟨rest, rfl, ?_⟩
    unfold relativeComponents
    split
    · simp
    · next hrest =>
      have hroot : slash :: rest ≠ utf8 "/" := by
        have hutf8 : utf8 "/" = [slash] := by decide +kernel
        simp [hutf8, hrest]
      rw [if_neg hroot, Bool.and_eq_true, List.all_eq_true] at h
      exact h.2

theorem components_plain (path : SandboxPath) :
    ∀ component ∈ components path.val, plainComponent component = true := by
  obtain ⟨rest, hpath, hplain⟩ := validSandboxPath_cases path.property
  rw [hpath]
  exact hplain

theorem joinComponents_components (path : SandboxPath) : joinComponents (components path.val) = path.val := by
  obtain ⟨rest, hpath, -⟩ := validSandboxPath_cases path.property
  rw [hpath, components, joinComponents, intercalate_relativeComponents]
  rfl

theorem components_injective {left right : SandboxPath} (h : components left.val = components right.val) :
    left = right := by
  apply Subtype.ext
  rw [← joinComponents_components left, h, joinComponents_components]

/-- A path does not end in a slash, so something follows every slash but the first. -/
theorem ne_nil_after_slash {rest front : Bytes} (h : path = front ++ slash :: rest)
    (hplain : ∀ component ∈ relativeComponents path, plainComponent component = true) : rest ≠ [] := by
  rintro rfl
  have hempty : [] ∈ relativeComponents path := by
    rw [h, relativeComponents, if_neg (by simp), List.splitOn_append_cons_self]
    simp
  exact plainComponent_ne_nil (hplain _ hempty) rfl

/-- Below a mount, by bytes as by components. -/
theorem relativeTo_eq_some {path : SandboxPath} (hmount : components mount.val ≠ []) {rel : Bytes} :
    relativeTo mount.val path.val = some rel ↔
      components path.val = components mount.val ++ relativeComponents rel := by
  obtain ⟨m, hm, -⟩ := validSandboxPath_cases mount.property
  obtain ⟨p, hp, hplain⟩ := validSandboxPath_cases path.property
  have hmne : m ≠ [] := by
    rintro rfl
    exact hmount (by rw [hm]; rfl)
  by_cases hsame : path.val = mount.val
  · rw [relativeTo, if_pos hsame, hsame, Option.some.injEq, List.self_eq_append_right, relativeComponents_eq_nil]
    exact eq_comm
  · rw [relativeTo, if_neg hsame, hm, hp]
    simp only [components, List.tail_cons, Option.bind_eq_some_iff, List.isPrefixOf?_eq_some_iff_append_eq]
    constructor
    · rintro ⟨suffix, hsuffix, rfl⟩
      have hbytes : p = m ++ slash :: rel := by simpa using hsuffix.symm
      rw [hbytes, relativeComponents_append hmne (ne_nil_after_slash hbytes hplain)]
    · intro h
      have hrel : rel ≠ [] := by
        rintro rfl
        rw [relativeComponents_eq_nil.mpr rfl, List.append_nil] at h
        exact hsame (by rw [hm, hp, relativeComponents_injective h])
      have hbytes : p = m ++ slash :: rel := by
        rw [← intercalate_relativeComponents p, h, intercalate_append (mt relativeComponents_eq_nil.mp hmne)
          (mt relativeComponents_eq_nil.mp hrel), intercalate_relativeComponents, intercalate_relativeComponents]
      exact ⟨slash :: rel, by rw [hbytes]; rfl, rfl⟩

theorem exists_relativeTo {path : SandboxPath} (hmount : components mount.val ≠ [])
    (h : components mount.val <+: components path.val) :
    ∃ rel, relativeTo mount.val path.val = some rel ∧
      components path.val = components mount.val ++ relativeComponents rel := by
  obtain ⟨rest, hrest⟩ := h
  suffices hrel : ∃ rel, rest = relativeComponents rel by
    obtain ⟨rel, rfl⟩ := hrel
    exact ⟨rel, (relativeTo_eq_some hmount).mpr hrest.symm, hrest.symm⟩
  by_cases hnil : rest = []
  · exact ⟨[], hnil⟩
  · obtain ⟨p, hp, hplain⟩ := validSandboxPath_cases path.property
    have hm : mount.val.tail ≠ [] := mt relativeComponents_eq_nil.mpr hmount
    rw [hp] at hrest
    have hbytes : p = mount.val.tail ++ slash :: [slash].intercalate rest := by
      rw [← intercalate_relativeComponents p, ← intercalate_relativeComponents mount.val.tail]
      exact (congrArg _ hrest.symm).trans (intercalate_append hmount hnil)
    refine ⟨[slash].intercalate rest, ?_⟩
    have hsplit : relativeComponents p = components mount.val ++ relativeComponents ([slash].intercalate rest) := by
      conv_lhs => rw [hbytes]
      exact relativeComponents_append hm (ne_nil_after_slash hbytes hplain)
    exact List.append_cancel_left (hrest.trans hsplit)

theorem ancestor_of_relativeTo {mount rel : Bytes} (h : relativeTo mount path = some rel) (hne : path ≠ mount) :
    sandboxPathIsAncestor mount path = true := by
  simp only [relativeTo, if_neg hne, Option.bind_eq_some_iff, List.isPrefixOf?_eq_some_iff_append_eq] at h
  obtain ⟨suffix, rfl, rfl⟩ := h
  exact sandboxPathIsAncestor_iff.mpr ⟨rel, rfl⟩

/-! ## One tree, by components -/

def TreeManifestV1.entryAt (tree : TreeManifestV1) (place : List Bytes) : Option ManifestEntryV1 :=
  tree.entries.find? fun entry => relativeComponents entry.relativePath == place

theorem byPath_eq_entryAt (tree : TreeManifestV1) (path : Bytes) :
    byPath tree.entries path = tree.entryAt (relativeComponents path) := by
  unfold byPath TreeManifestV1.entryAt
  congr 1
  funext entry
  rw [Bool.eq_iff_iff, beq_iff_eq, beq_iff_eq]
  exact ⟨fun h => h ▸ rfl, relativeComponents_injective⟩

namespace TreeManifestV1.Accepted

variable {hash : Blake3}

variable {place : List Bytes} {entry : ManifestEntryV1}

theorem entryAt_eq_some (h : tree.Accepted hash) :
    tree.entryAt place = some entry ↔ entry ∈ tree.entries ∧ relativeComponents entry.relativePath = place := by
  constructor
  · intro hfind
    exact ⟨List.mem_of_find?_eq_some hfind, by simpa using List.find?_some hfind⟩
  · rintro ⟨hmem, rfl⟩
    cases hfind : tree.entryAt (relativeComponents entry.relativePath) with
    | none =>
      have hnone := List.find?_eq_none.mp hfind entry hmem
      simp at hnone
    | some other =>
      have hpath := List.find?_some hfind
      rw [beq_iff_eq] at hpath
      rw [h.eq_of_path (List.mem_of_find?_eq_some hfind) hmem (relativeComponents_injective hpath)]

theorem entryAt_root (h : tree.Accepted hash) :
    ∃ root, tree.entryAt [] = some root ∧ root.payload.kind = .directory := by
  obtain ⟨root, hmem, hpath, hkind, -⟩ := h.shaped.root
  exact ⟨root, h.entryAt_eq_some.mpr ⟨hmem, by rw [hpath]; rfl⟩, hkind⟩

/-- Above an entry stands a directory. -/
theorem entryAt_parent (h : tree.Accepted hash) {name : Bytes} (hentry : tree.entryAt (place ++ [name]) = some entry) :
    ∃ parent, tree.entryAt place = some parent ∧ parent.payload.kind = .directory := by
  obtain ⟨hmem, hplace⟩ := h.entryAt_eq_some.mp hentry
  have hpath : entry.relativePath ≠ [] := by
    intro hpath
    rw [hpath] at hplace
    exact absurd hplace (by simp [relativeComponents])
  obtain ⟨parent, hparent, children, hpayload, child, -, hvalid, hjoin, -⟩ := h.linked_from hmem hpath
  obtain ⟨hplain, -, hslash⟩ := validBasename_iff.mp hvalid
  rw [hjoin, relativeComponents_joinRelative hslash (plainComponent_ne_nil hplain)] at hplace
  exact ⟨parent, h.entryAt_eq_some.mpr ⟨hparent, (List.append_inj' hplace rfl).1⟩, by rw [hpayload]; rfl⟩

/-- So does at every place above it. -/
theorem entryAt_above (h : tree.Accepted hash) {rest : List Bytes} (hrest : rest ≠ [])
    (hentry : tree.entryAt (place ++ rest) = some entry) :
    ∃ parent, tree.entryAt place = some parent ∧ parent.payload.kind = .directory := by
  induction rest using List.reverseRecOn generalizing entry with
  | nil => exact absurd rfl hrest
  | append_singleton rest name ih =>
    rw [← List.append_assoc] at hentry
    obtain ⟨parent, hparent, hkind⟩ := h.entryAt_parent hentry
    by_cases hnil : rest = []
    · rw [hnil, List.append_nil] at hparent
      exact ⟨parent, hparent, hkind⟩
    · exact ih hnil hparent

end TreeManifestV1.Accepted

/-! ## All trees -/

/-- A component as a step of a walk. -/
def stepOf (component : Bytes) : PathStep Bytes :=
  if component = [] ∨ component = utf8 "." then .here
  else if component = utf8 ".." then .up
  else .name component

/-- The steps of a symbolic link's target; an absolute one starts with an empty component. -/
def targetSteps (target : Bytes) : List (PathStep Bytes) := (target.splitOn slash).map stepOf

def fileNode (entry : ManifestEntryV1) : FileNode Bytes :=
  match entry.payload with
  | .directory .. | .externalTree .. => .directory
  | .regular .. => .file
  | .symlink target => .link (isAbsolute target) (targetSteps target)

def TreeManifestV1.covers (tree : TreeManifestV1) (place : List Bytes) : Bool :=
  (components tree.mountPath.val).isPrefixOf place

namespace SnapshotManifestV1

/-- Runtime trees stand over the workspace. -/
def trees (manifest : SnapshotManifestV1) : List TreeManifestV1 := manifest.runtimeTrees ++ [manifest.workspaceTree]

/-- The node at a place: the covering tree's, or a directory on the way to a mount. -/
def node (manifest : SnapshotManifestV1) (place : List Bytes) : Option (FileNode Bytes) :=
  match manifest.trees.find? (·.covers place) with
  | some tree => (tree.entryAt (place.drop (components tree.mountPath.val).length)).map fileNode
  | none =>
    if manifest.trees.any fun tree => place.isPrefixOf (components tree.mountPath.val) then some .directory else none

/-- No mount lies below another, but for runtime mounts bound to external trees of the workspace. -/
def MountsUnnested (manifest : SnapshotManifestV1) : Prop :=
  ∀ outer ∈ manifest.trees, ∀ inner ∈ manifest.trees,
    sandboxPathIsAncestor outer.mountPath.val inner.mountPath.val = true →
      inner ∈ manifest.runtimeTrees ∧
        ∃ entry ∈ manifest.workspaceTree.entries, bindsMount manifest.workspaceTree.mountPath.val entry inner = true

/-- An accepted manifest with such mounts. -/
structure Mountable (hash : Blake3) (manifest : SnapshotManifestV1) : Prop where
  accepted : manifest.Accepted hash
  unnested : manifest.MountsUnnested

end SnapshotManifestV1

theorem bindsMount_eq_true {workspaceMount : Bytes} {entry : ManifestEntryV1} {runtime : TreeManifestV1}
    (h : bindsMount workspaceMount entry runtime = true) :
    entry.payload.kind = .externalTree ∧
      joinSandboxRelative workspaceMount entry.relativePath = runtime.mountPath.val := by
  unfold bindsMount at h
  split at h
  · next hpayload =>
    simp only [Bool.and_eq_true, beq_iff_eq] at h
    exact ⟨by rw [hpayload]; rfl, h.1.1.1⟩
  · cases h

namespace SnapshotManifestV1.Mountable

variable {hash : Blake3} {manifest : SnapshotManifestV1}

theorem tree_accepted (h : manifest.Mountable hash) (htree : tree ∈ manifest.trees) : tree.Accepted hash := by
  rcases List.mem_append.mp htree with hr | hw
  · exact TreeManifestV1.accepted_of_validate hash (h.accepted.runtimeTrees tree hr)
  · rw [List.mem_singleton.mp hw]
    exact TreeManifestV1.accepted_of_validate hash h.accepted.workspaceTree

theorem workspace_components (h : manifest.Mountable hash) :
    components manifest.workspaceTree.mountPath.val = [utf8 "workspace"] := by
  rw [h.accepted.workspaceMount]
  decide +kernel

theorem runtime_not_root (h : manifest.Mountable hash) (htree : tree ∈ manifest.runtimeTrees) :
    tree.mountPath.val ≠ utf8 "/" ∧ tree.mountPath.val ≠ manifest.workspaceTree.mountPath.val := by
  have hreserved := h.accepted.notReserved tree htree
  rw [h.accepted.workspaceMount]
  constructor <;> intro hmount <;> simp [runtimeMountIsReserved, hmount] at hreserved

theorem components_ne_nil (h : manifest.Mountable hash) (htree : tree ∈ manifest.trees) :
    components tree.mountPath.val ≠ [] := by
  rcases List.mem_append.mp htree with hr | hw
  · intro hnil
    apply (h.runtime_not_root hr).1
    rw [← joinComponents_components, hnil]
    decide +kernel
  · rw [List.mem_singleton.mp hw, h.workspace_components]
    simp

theorem mem_runtime (htree : tree ∈ manifest.runtimeTrees) : tree ∈ manifest.trees := List.mem_append_left _ htree

theorem mem_workspace : manifest.workspaceTree ∈ manifest.trees := List.mem_append_right _ List.mem_cons_self

theorem eq_of_mount (h : manifest.Mountable hash) {left right : TreeManifestV1} (hleft : left ∈ manifest.runtimeTrees)
    (hright : right ∈ manifest.runtimeTrees) (hmount : left.mountPath = right.mountPath) : left = right := by
  have hchain : (manifest.runtimeTrees.map (·.mountPath.val)).IsChain (· < ·) :=
    (List.isChain_map _).mpr (h.accepted.ordered.imp fun _ _ hlr => hlr.1)
  have hnodup : (manifest.runtimeTrees.map (·.mountPath.val)).Nodup :=
    (List.isChain_iff_pairwise.mp hchain).imp fun hlt => bytes_ne_of_lt hlt
  exact List.inj_on_of_nodup_map hnodup hleft hright (congrArg Subtype.val hmount)

variable {runtime : TreeManifestV1} {entry : ManifestEntryV1} {place : List Bytes} {name : Bytes}

/-- The workspace entry a runtime mount is bound to stands at the mount's place. -/
theorem entryAt_bound (h : manifest.Mountable hash) (hentry : entry ∈ manifest.workspaceTree.entries)
    (hbinds : bindsMount manifest.workspaceTree.mountPath.val entry runtime = true) :
    ∃ place, components runtime.mountPath.val = components manifest.workspaceTree.mountPath.val ++ place ∧
      manifest.workspaceTree.entryAt place = some entry ∧ entry.payload.kind = .externalTree := by
  obtain ⟨hkind, hjoin⟩ := bindsMount_eq_true hbinds
  refine ⟨relativeComponents entry.relativePath, ?_,
    (h.tree_accepted mem_workspace).entryAt_eq_some.mpr ⟨hentry, rfl⟩, hkind⟩
  apply (relativeTo_eq_some (h.components_ne_nil mem_workspace)).mp
  rw [← hjoin]
  unfold relativeTo joinSandboxRelative
  split
  · next hpath => simp [hpath]
  · have hpre : manifest.workspaceTree.mountPath.val.isPrefixOf?
        (manifest.workspaceTree.mountPath.val ++ slash :: entry.relativePath) = some (slash :: entry.relativePath) :=
      List.isPrefixOf?_eq_some_iff_append_eq.mpr rfl
    rw [if_neg (by simp), hpre]
    rfl

/-- A runtime mount below the workspace has its external tree there. -/
theorem external_of_below (h : manifest.Mountable hash) (hruntime : runtime ∈ manifest.runtimeTrees)
    (hbelow : components manifest.workspaceTree.mountPath.val <+: components runtime.mountPath.val) :
    ∃ place entry, components runtime.mountPath.val = components manifest.workspaceTree.mountPath.val ++ place ∧
      manifest.workspaceTree.entryAt place = some entry ∧ entry.payload.kind = .externalTree := by
  obtain ⟨rel, hrel, -⟩ := exists_relativeTo (h.components_ne_nil mem_workspace) hbelow
  have hne := (h.runtime_not_root hruntime).2
  obtain ⟨suffix, hsuffix⟩ := sandboxPathIsAncestor_iff.mp (ancestor_of_relativeTo hrel hne)
  have hpre : (utf8 "/workspace/").isPrefixOf runtime.mountPath.val = true := by
    have hslash : utf8 "/workspace/" = utf8 "/workspace" ++ [slash] := by decide +kernel
    rw [List.isPrefixOf_iff_prefix, hsuffix, h.accepted.workspaceMount, hslash]
    exact ⟨suffix, by simp⟩
  have hcount := h.accepted.mounted runtime hruntime hpre
  obtain ⟨entry, hentry, hbinds⟩ := List.countP_pos_iff.mp (by rw [hcount]; exact Nat.one_pos)
  obtain ⟨place, hplace⟩ := h.entryAt_bound hentry hbinds
  exact ⟨place, entry, hplace⟩

/-- No runtime mount lies at or above the workspace. -/
theorem not_above_workspace (h : manifest.Mountable hash) (hruntime : runtime ∈ manifest.runtimeTrees) :
    ¬ components runtime.mountPath.val <+: components manifest.workspaceTree.mountPath.val := by
  intro hpre
  have hworkspace := h.workspace_components
  rw [hworkspace] at hpre
  rcases List.prefix_cons_iff.mp hpre with hnil | ⟨t, ht, htnil⟩
  · exact h.components_ne_nil (mem_runtime hruntime) hnil
  · rw [List.prefix_nil.mp htnil, ← hworkspace] at ht
    exact (h.runtime_not_root hruntime).2 (congrArg Subtype.val (components_injective ht))

/-- No runtime mount lies at or below another. -/
theorem eq_of_prefix (h : manifest.Mountable hash) {outer inner : TreeManifestV1} (houter : outer ∈ manifest.runtimeTrees)
    (hinner : inner ∈ manifest.runtimeTrees)
    (hpre : components outer.mountPath.val <+: components inner.mountPath.val) : outer = inner := by
  by_contra hne
  obtain ⟨rel, hrel, -⟩ := exists_relativeTo (h.components_ne_nil (mem_runtime houter)) hpre
  have hmount : inner.mountPath.val ≠ outer.mountPath.val := fun heq =>
    hne (h.eq_of_mount houter hinner (Subtype.ext heq.symm))
  obtain ⟨-, entry, hentry, hbinds⟩ := h.unnested outer (mem_runtime houter) inner (mem_runtime hinner)
    (ancestor_of_relativeTo hrel hmount)
  obtain ⟨place, hplace, hat, -⟩ := h.entryAt_bound hentry hbinds
  -- The outer mount lies between the workspace and the external tree of the inner one.
  rcases List.prefix_or_prefix_of_prefix hpre ⟨place, hplace.symm⟩ with hbelow | habove
  · exact h.not_above_workspace houter hbelow
  · obtain ⟨place', other, hplace', hat', hkind'⟩ := h.external_of_below houter habove
    obtain ⟨rest, hrest⟩ := hpre
    rw [hplace, hplace', List.append_assoc] at hrest
    have hcut := List.append_cancel_left hrest
    by_cases hnil : rest = []
    · subst hnil
      rw [List.append_nil] at hcut
      exact hmount (congrArg Subtype.val (components_injective (by rw [hplace, hplace', hcut])))
    · rw [← hcut] at hat
      obtain ⟨parent, hparent, hkind⟩ := (h.tree_accepted mem_workspace).entryAt_above hnil hat
      rw [hat', Option.some.injEq] at hparent
      rw [hparent, hkind] at hkind'
      cases hkind'

theorem covers_iff : tree.covers place = true ↔ ∃ rel, place = components tree.mountPath.val ++ rel := by
  unfold TreeManifestV1.covers
  rw [List.isPrefixOf_iff_prefix]
  exact ⟨fun ⟨rel, hrel⟩ => ⟨rel, hrel.symm⟩, fun ⟨rel, hrel⟩ => ⟨rel, hrel.symm⟩⟩

theorem not_covers_dropLast (h : tree.covers (place ++ [name]) = false) : tree.covers place = false := by
  rw [Bool.eq_false_iff] at h ⊢
  intro hcovers
  obtain ⟨rel, rfl⟩ := covers_iff.mp hcovers
  exact h (covers_iff.mpr ⟨rel ++ [name], by simp⟩)

theorem node_of_find (hfind : manifest.trees.find? (·.covers (components tree.mountPath.val ++ rel)) = some tree) :
    manifest.node (components tree.mountPath.val ++ rel) = (tree.entryAt rel).map fileNode := by
  unfold node
  rw [hfind]
  simp

/-- Inside a runtime mount the runtime tree is seen. -/
theorem node_runtime (h : manifest.Mountable hash) (htree : tree ∈ manifest.runtimeTrees) (rel : List Bytes) :
    manifest.node (components tree.mountPath.val ++ rel) = (tree.entryAt rel).map fileNode := by
  apply node_of_find
  have hcovers : tree.covers (components tree.mountPath.val ++ rel) = true := covers_iff.mpr ⟨rel, rfl⟩
  unfold trees
  rw [List.find?_append]
  cases hfind : manifest.runtimeTrees.find? (·.covers (components tree.mountPath.val ++ rel)) with
  | none => exact absurd hcovers (List.find?_eq_none.mp hfind tree htree)
  | some other =>
    -- Two runtime mounts over one place would be nested.
    have hother := List.mem_of_find?_eq_some hfind
    have hcovers' : other.covers (components tree.mountPath.val ++ rel) = true := by
      simpa using List.find?_some hfind
    obtain ⟨rel', hrel'⟩ := covers_iff.mp hcovers'
    rcases List.prefix_or_prefix_of_prefix ⟨rel, rfl⟩ ⟨rel', hrel'.symm⟩ with hp | hp
    · rw [h.eq_of_prefix htree hother hp]
      rfl
    · rw [h.eq_of_prefix hother htree hp]
      rfl

theorem node_workspace (hruntime : ∀ tree ∈ manifest.runtimeTrees,
      tree.covers (components manifest.workspaceTree.mountPath.val ++ rel) = false) :
    manifest.node (components manifest.workspaceTree.mountPath.val ++ rel) =
      (manifest.workspaceTree.entryAt rel).map fileNode := by
  apply node_of_find
  unfold trees
  rw [List.find?_append, List.find?_eq_none.mpr fun tree htree => by simp [hruntime tree htree]]
  simp [covers_iff.mpr ⟨rel, rfl⟩]

theorem node_skeleton (hnone : ∀ tree ∈ manifest.trees, tree.covers place = false) : manifest.node place =
      if manifest.trees.any fun tree => place.isPrefixOf (components tree.mountPath.val) then some .directory
      else none := by
  unfold node
  rw [List.find?_eq_none.mpr fun tree htree => by simp [hnone tree htree]]

/-- A place on the way to a mount, outside every tree, is a directory. -/
theorem node_above (htree : tree ∈ manifest.trees) (hpre : place <+: components tree.mountPath.val)
    (hnone : ∀ tree ∈ manifest.trees, tree.covers place = false) : manifest.node place = some .directory := by
  rw [node_skeleton hnone, if_pos]
  exact List.any_eq_true.mpr ⟨tree, htree, List.isPrefixOf_iff_prefix.mpr hpre⟩

theorem fileNode_directory (h : entry.payload.kind = .directory) : fileNode entry = .directory := by
  unfold fileNode
  cases hp : entry.payload <;> simp_all [ManifestPayloadV1.kind]

theorem node_root (h : manifest.Mountable hash) : manifest.node [] = some .directory := by
  apply node_above mem_workspace List.nil_prefix
  intro tree htree
  rw [Bool.eq_false_iff]
  intro hcovers
  obtain ⟨rel, hrel⟩ := covers_iff.mp hcovers
  exact h.components_ne_nil htree (List.append_eq_nil_iff.mp hrel.symm).1

/-- A mount point's parent: a workspace directory, or a directory on the way. -/
theorem node_above_runtime (h : manifest.Mountable hash) (htree : tree ∈ manifest.runtimeTrees)
    (hmount : components tree.mountPath.val = place ++ [name]) : manifest.node place = some .directory := by
  have hruntime : ∀ other ∈ manifest.runtimeTrees, other.covers place = false := by
    intro other hother
    rw [Bool.eq_false_iff]
    intro hcovers
    obtain ⟨rel, rfl⟩ := covers_iff.mp hcovers
    obtain rfl := h.eq_of_prefix hother htree ⟨rel ++ [name], by rw [hmount, List.append_assoc]⟩
    have hlength := congrArg List.length hmount
    simp only [List.length_append, List.length_singleton] at hlength
    omega
  by_cases hworkspace : manifest.workspaceTree.covers place = true
  · obtain ⟨rel, rfl⟩ := covers_iff.mp hworkspace
    obtain ⟨place', entry, hplace', hat, -⟩ := h.external_of_below htree
      ⟨rel ++ [name], by rw [hmount, List.append_assoc]⟩
    rw [hmount, List.append_assoc] at hplace'
    rw [← List.append_cancel_left hplace'] at hat
    obtain ⟨parent, hparent, hkind⟩ := (h.tree_accepted mem_workspace).entryAt_parent hat
    rw [node_workspace hruntime, hparent, Option.map_some, fileNode_directory hkind]
  · apply node_above (mem_runtime htree) ⟨[name], hmount.symm⟩
    exact List.forall_mem_append.mpr ⟨hruntime, by simpa using hworkspace⟩

theorem node_parent (h : manifest.Mountable hash) {x : FileNode Bytes} (hx : manifest.node (place ++ [name]) = some x) :
    manifest.node place = some .directory := by
  by_cases hruntime : ∃ tree ∈ manifest.runtimeTrees, tree.covers (place ++ [name]) = true
  · obtain ⟨tree, htree, hcovers⟩ := hruntime
    obtain ⟨rel, hrel⟩ := covers_iff.mp hcovers
    rcases List.eq_nil_or_concat rel with rfl | ⟨rel, last, rfl⟩
    · exact h.node_above_runtime htree (by rw [hrel, List.append_nil])
    · rw [List.concat_eq_append, ← List.append_assoc] at hrel
      obtain ⟨rfl, hlast⟩ := List.append_inj' hrel rfl
      rw [List.append_assoc, h.node_runtime htree, Option.map_eq_some_iff] at hx
      obtain ⟨entry, hentry, -⟩ := hx
      obtain ⟨parent, hparent, hkind⟩ := (h.tree_accepted (mem_runtime htree)).entryAt_parent hentry
      rw [h.node_runtime htree, hparent, Option.map_some, fileNode_directory hkind]
  · have huncovered : ∀ tree ∈ manifest.runtimeTrees, tree.covers (place ++ [name]) = false := by
      intro tree htree
      rw [Bool.eq_false_iff]
      exact fun hcovers => hruntime ⟨tree, htree, hcovers⟩
    by_cases hworkspace : manifest.workspaceTree.covers (place ++ [name]) = true
    · obtain ⟨rel, hrel⟩ := covers_iff.mp hworkspace
      rcases List.eq_nil_or_concat rel with rfl | ⟨rel, last, rfl⟩
      · -- The workspace mount itself is one name below the root.
        rw [List.append_nil, h.workspace_components] at hrel
        have hplace : place = [] := (List.append_inj' (hrel.trans (List.nil_append _).symm) rfl).1
        rw [hplace]
        exact h.node_root
      · rw [List.concat_eq_append, ← List.append_assoc] at hrel
        obtain ⟨rfl, hlast⟩ := List.append_inj' hrel rfl
        rw [List.append_assoc] at hx huncovered
        rw [node_workspace huncovered, Option.map_eq_some_iff] at hx
        obtain ⟨entry, hentry, -⟩ := hx
        obtain ⟨parent, hparent, hkind⟩ := (h.tree_accepted mem_workspace).entryAt_parent hentry
        rw [node_workspace fun tree htree => not_covers_dropLast (by
          rw [List.append_assoc]
          exact huncovered tree htree), hparent, Option.map_some, fileNode_directory hkind]
    · have hnone : ∀ tree ∈ manifest.trees, tree.covers (place ++ [name]) = false :=
        List.forall_mem_append.mpr ⟨huncovered, by simpa using hworkspace⟩
      rw [node_skeleton hnone, Option.ite_none_right_eq_some, List.any_eq_true] at hx
      obtain ⟨⟨tree, htree, hpre⟩, -⟩ := hx
      exact node_above htree ((List.prefix_append _ _).trans (List.isPrefixOf_iff_prefix.mp hpre))
        fun other hother => not_covers_dropLast (hnone other hother)

/-! ### The lookup of the code -/

/-- The tree the code takes an entry from, and that none with a longer mount has one. -/
theorem lookup_eq_some {path : Bytes} (h : manifestEntryForSandboxPath manifest path = some entry) :
    ∃ tree ∈ manifest.trees, ∃ rel, relativeTo tree.mountPath.val path = some rel ∧
      tree.entryAt (relativeComponents rel) = some entry ∧
      ∀ other ∈ manifest.trees, ∀ rel', relativeTo other.mountPath.val path = some rel' →
        (other.entryAt (relativeComponents rel')).isSome = true →
          other.mountPath.val.length ≤ tree.mountPath.val.length := by
  have hmem : ∀ tree, tree ∈ manifest.workspaceTree :: manifest.runtimeTrees ↔ tree ∈ manifest.trees := by
    simp [trees, or_comm]
  unfold manifestEntryForSandboxPath at h
  rw [Option.map_eq_some_iff] at h
  obtain ⟨⟨length, found⟩, hmax, rfl⟩ := h
  obtain ⟨hin, hall⟩ := maxByKey_eq_some hmax
  simp only [List.mem_filterMap, Option.bind_eq_bind, Option.bind_eq_some_iff, Option.some.injEq, Prod.mk.injEq,
    byPath_eq_entryAt] at hin
  obtain ⟨tree, htree, rel, hrel, _, hat, rfl, rfl⟩ := hin
  refine ⟨tree, (hmem tree).mp htree, rel, hrel, hat, ?_⟩
  intro other hother rel' hrel' hsome
  obtain ⟨found', hat'⟩ := Option.isSome_iff_exists.mp hsome
  refine hall (other.mountPath.val.length, found') (List.mem_filterMap.mpr ⟨other, (hmem other).mpr hother, ?_⟩)
  simp [hrel', byPath_eq_entryAt, hat']

/-- The code's lookup and the file tree agree. -/
theorem node_of_lookup (h : manifest.Mountable hash) {path : SandboxPath}
    (hlookup : manifestEntryForSandboxPath manifest path.val = some entry) :
    manifest.node (components path.val) = some (fileNode entry) := by
  obtain ⟨tree, htree, rel, hrel, hat, hlongest⟩ := lookup_eq_some hlookup
  have hplace := (relativeTo_eq_some (h.components_ne_nil htree)).mp hrel
  rcases List.mem_append.mp htree with hruntime | hworkspace
  · rw [hplace, h.node_runtime hruntime, hat, Option.map_some]
  · obtain rfl := List.mem_singleton.mp hworkspace
    rw [hplace, node_workspace, hat, Option.map_some]
    intro runtime hruntime
    rw [← hplace, Bool.eq_false_iff]
    intro hcovers
    obtain ⟨rest, hrest⟩ := covers_iff.mp hcovers
    rcases List.prefix_or_prefix_of_prefix ⟨rest, hrest.symm⟩ ⟨relativeComponents rel, hplace.symm⟩ with hup | hdown
    · exact h.not_above_workspace hruntime hup
    · obtain ⟨place, external, hmount, hexternal, hkind⟩ := h.external_of_below hruntime hdown
      have hfull : components manifest.workspaceTree.mountPath.val ++ (place ++ rest) =
          components manifest.workspaceTree.mountPath.val ++ relativeComponents rel := by
        rw [← List.append_assoc, ← hmount, ← hrest, hplace]
      have hcut := List.append_cancel_left hfull
      by_cases hnil : rest = []
      · -- At the mount itself the runtime's root is found, under the longer mount.
        subst hnil
        rw [List.append_nil] at hrest
        obtain ⟨root, hroot, -⟩ := (h.tree_accepted (mem_runtime hruntime)).entryAt_root
        have hsame := congrArg Subtype.val (components_injective hrest)
        have hle := hlongest runtime (mem_runtime hruntime) [] (by simp [relativeTo, hsame])
          (by rw [relativeComponents_eq_nil.mpr rfl, hroot]; rfl)
        obtain ⟨below, hbelow, -⟩ := exists_relativeTo (h.components_ne_nil mem_workspace) hdown
        obtain ⟨suffix, hsuffix⟩ := sandboxPathIsAncestor_iff.mp
          (ancestor_of_relativeTo hbelow (h.runtime_not_root hruntime).2)
        have hlength := congrArg List.length hsuffix
        simp only [List.length_append, List.length_cons] at hlength
        omega
      · rw [← hcut] at hat
        obtain ⟨parent, hparent, hparentKind⟩ := (h.tree_accepted mem_workspace).entryAt_above hnil hat
        rw [hexternal, Option.some.injEq] at hparent
        rw [hparent, hparentKind] at hkind
        cases hkind

end SnapshotManifestV1.Mountable

theorem SnapshotManifestV1.Mountable.of_validate {hash : Blake3} {manifest : SnapshotManifestV1}
    (h : manifest.validate hash = .ok ()) (hmounts : manifest.MountsUnnested) : manifest.Mountable hash :=
  ⟨(validate_iff hash).mp h, hmounts⟩

/-- The manifest as a tree of files. -/
def SnapshotManifestV1.files {hash : Blake3} {manifest : SnapshotManifestV1} (h : manifest.Mountable hash) :
    Files Bytes where
  node := manifest.node
  root := h.node_root
  parent := h.node_parent

end Again.Pytest
