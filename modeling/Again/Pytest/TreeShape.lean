import Again.Pytest.ManifestValidate

/-!
# The shape of a validated tree

`TreeManifestV1::validate` never builds the tree. It counts: the paths linked
from a directory are distinct, all present, and one fewer than the entries.
From that every entry but the root has its parent directory, which lists it.
-/

namespace Again.Pytest

open Lib

variable {entry : ManifestEntryV1} {children : List ChildCommitmentV1} {child : ChildCommitmentV1}

variable {tree : TreeManifestV1}

/-- The path up to the last `/`, empty at the top level. -/
def parentPath (path : Bytes) : Bytes := [slash].intercalate (path.splitOn slash).dropLast

/-- What follows the last `/`. -/
def basename (path : Bytes) : Bytes := (path.splitOn slash).getLastD []

variable {name parent : Bytes} {entries : List ManifestEntryV1} {linked linked' : List Bytes}

theorem validBasename_iff : validBasename name = true ↔ plainComponent name = true ∧ 0 ∉ name ∧ slash ∉ name := by
  simp [validBasename, and_assoc]

theorem plainComponent_ne_nil {component : Bytes} (h : plainComponent component = true) : component ≠ [] := by
  rintro rfl
  cases h

theorem splitOn_joinRelative (hparent : parent ≠ []) (h : slash ∉ name) :
    (joinRelative parent name).splitOn slash = parent.splitOn slash ++ [name] := by
  rw [joinRelative, if_neg hparent, List.splitOn_append_cons_self, List.splitOn_eq_singleton h]

theorem parentPath_joinRelative (h : slash ∉ name) : parentPath (joinRelative parent name) = parent := by
  by_cases hparent : parent = []
  · subst hparent
    simp [parentPath, joinRelative, List.splitOn_eq_singleton h]
  · rw [parentPath, splitOn_joinRelative hparent h, List.dropLast_concat, List.intercalate_splitOn]

theorem basename_joinRelative (h : slash ∉ name) : basename (joinRelative parent name) = name := by
  by_cases hparent : parent = []
  · subst hparent
    simp [basename, joinRelative, List.splitOn_eq_singleton h]
  · simp [basename, splitOn_joinRelative hparent h]

theorem joinRelative_ne_nil (parent : Bytes) (h : name ≠ []) : joinRelative parent name ≠ [] := by
  unfold joinRelative
  split <;> simp [h]

theorem length_lt_joinRelative (h : name ≠ []) : parent.length < (joinRelative parent name).length := by
  unfold joinRelative
  have hpos := List.length_pos_iff.mpr h
  split
  · next hparent => simpa [hparent] using hpos
  · simp only [List.length_append, List.length_cons]
    omega

/-! ## What the scan collects -/

/-- The paths a directory links. -/
def childPaths (entry : ManifestEntryV1) : List Bytes :=
  match entry.payload with
  | .directory children => children.map fun child => joinRelative entry.relativePath child.name
  | _ => []

/-- The child is present, of the listed kind and digest. -/
def Present (entries : List ManifestEntryV1) (parent : Bytes) (child : ChildCommitmentV1) : Prop :=
  ∃ entry ∈ entries, entry.relativePath = joinRelative parent child.name ∧ entry.payload.kind = child.kind ∧
    entry.nodeDigest = child.nodeDigest

theorem byPath_eq_some {path : Bytes} (h : byPath entries path = some entry) :
    entry ∈ entries ∧ entry.relativePath = path := by
  refine ⟨List.mem_of_find?_eq_some h, ?_⟩
  simpa using List.find?_some h

theorem linkChild_eq_ok (h : linkChild entries parent linked child = .ok linked') :
    Present entries parent child ∧ joinRelative parent child.name ∉ linked ∧
      linked' = linked ++ [joinRelative parent child.name] := by
  simp only [linkChild, bind_eq_ok, requireSome_eq_ok, malformedIf_eq_ok, exists_unit, pure_eq_ok, not_or, not_not,
    ne_eq] at h
  obtain ⟨target, htarget, ⟨hkind, hdigest, hnew⟩, rfl⟩ := h
  obtain ⟨hmem, hpath⟩ := byPath_eq_some htarget
  exact ⟨⟨target, hmem, hpath, hkind, hdigest⟩, hnew, rfl⟩

theorem linkChildren_eq_ok (h : children.foldlM (linkChild entries parent) linked = .ok linked') :
    (∀ child ∈ children, Present entries parent child) ∧ (linked.Nodup → linked'.Nodup) ∧
      linked' = linked ++ children.map fun child => joinRelative parent child.name := by
  induction children generalizing linked with
  | nil =>
    simp only [List.foldlM_nil, pure_eq_ok] at h
    simp [h]
  | cons child children ih =>
    rw [List.foldlM_cons, bind_eq_ok] at h
    obtain ⟨next, hchild, hrest⟩ := h
    obtain ⟨hpresent, hnew, rfl⟩ := linkChild_eq_ok hchild
    obtain ⟨hall, hnodup, rfl⟩ := ih hrest
    refine ⟨?_, ?_, by simp⟩
    · simp only [List.mem_cons, forall_eq_or_imp]
      exact ⟨hpresent, hall⟩
    · intro hlinked
      exact hnodup (List.nodup_append.mpr ⟨hlinked, List.nodup_singleton _, by
        rintro a ha _ hb rfl
        rw [List.mem_singleton] at hb
        exact hnew (hb ▸ ha)⟩)

/-- A directory's list, as the scan accepts it. -/
def Listed (entries : List ManifestEntryV1) (parent : ManifestEntryV1) : Prop :=
  ∀ children, parent.payload = .directory children →
    (children.IsChain fun left right => left.name < right.name) ∧
      ∀ child ∈ children, validBasename child.name = true ∧ Present entries parent.relativePath child

theorem checkPayload_links (h : checkPayload tree entry linked = .ok linked') :
    Listed tree.entries entry ∧ (linked.Nodup → linked'.Nodup) ∧ linked' = linked ++ childPaths entry := by
  unfold checkPayload at h
  unfold Listed childPaths
  cases hpayload : entry.payload with
  | directory children =>
    simp only [hpayload, bind_eq_ok, malformedIf_eq_ok, exists_unit, not_or, Bool.not_eq_true, anyWindow_eq_false] at h
    obtain ⟨⟨hchain, hnames⟩, hlinks⟩ := h
    obtain ⟨hpresent, hnodup, hlinked⟩ := linkChildren_eq_ok hlinks
    refine ⟨?_, hnodup, hlinked⟩
    rintro _ ⟨⟩
    refine ⟨hchain.imp fun left right h => by simpa using h, fun child hchild => ⟨?_, hpresent child hchild⟩⟩
    simpa using List.any_eq_false.mp hnames child hchild
  | regular contentDigest dataExtents =>
    simp only [hpayload, bind_eq_ok, pure_eq_ok] at h
    obtain ⟨_, -, rfl⟩ := h
    simp
  | symlink target | externalTree treeRole targetRoot readonly =>
    simp only [hpayload, bind_eq_ok, malformedIf_eq_ok, exists_unit, pure_eq_ok] at h
    obtain ⟨-, rfl⟩ := h
    simp

variable (hash : Blake3)

theorem scanTree_links {scan scan' : TreeScan} (h : entries.foldlM (scanEntry hash tree) scan = .ok scan') :
    (∀ entry ∈ entries, Listed tree.entries entry) ∧
      (scan.linkedFromParent.Nodup → scan'.linkedFromParent.Nodup) ∧
      scan'.linkedFromParent = scan.linkedFromParent ++ entries.flatMap childPaths := by
  induction entries generalizing scan with
  | nil =>
    simp only [List.foldlM_nil, pure_eq_ok] at h
    simp [h]
  | cons entry entries ih =>
    rw [List.foldlM_cons, bind_eq_ok] at h
    obtain ⟨next, hentry, hrest⟩ := h
    obtain ⟨-, -, -, -, hpayload, -⟩ := (scanEntry_eq_ok hash).mp hentry
    obtain ⟨hlisted, hnodup, hlinked⟩ := checkPayload_links hpayload
    obtain ⟨hall, hnodups, hlinks⟩ := ih hrest
    refine ⟨?_, fun hscan => hnodups (hnodup hscan), by rw [hlinks, hlinked]; simp⟩
    simp only [List.mem_cons, forall_eq_or_imp]
    exact ⟨hlisted, hall⟩

/-! ## The tree -/

/-- What acceptance says of a tree's entries. -/
structure TreeManifestV1.Accepted (tree : TreeManifestV1) : Prop where
  root : ∃ root rest, tree.entries = root :: rest ∧ root.relativePath = [] ∧ root.payload.kind = .directory ∧
    tree.rootDigest = root.nodeDigest
  ordered : tree.entries.Pairwise fun left right => left.relativePath < right.relativePath
  scanned : ∀ entry ∈ tree.entries, ∃ scan scan', scanEntry hash tree scan entry = .ok scan'
  listed : ∀ entry ∈ tree.entries, Listed tree.entries entry
  linked : (tree.entries.flatMap childPaths).Nodup
  counted : (tree.entries.flatMap childPaths).length + 1 = tree.entries.length

theorem TreeManifestV1.accepted_of_validate (h : tree.validate hash = .ok ()) : tree.Accepted hash := by
  simp only [TreeManifestV1.validate, bind_eq_ok, requireSome_eq_ok, malformedIf_eq_ok, exists_unit, not_or, not_not,
    ne_eq, Bool.not_eq_true, anyWindow_eq_false, forM_eq_ok] at h
  obtain ⟨root, hhead, ⟨hroot, hchain, hkind⟩, scan, hscan, ⟨hcount, -⟩, -, hdigest⟩ := h
  obtain ⟨hlisted, hnodup, hlinks⟩ := scanTree_links hash hscan
  simp only [List.nil_append, List.nodup_nil, forall_const] at hlinks hnodup
  obtain ⟨rest, hentries⟩ := List.head?_eq_some_iff.mp hhead
  exact {
    root := ⟨root, rest, hentries, hroot, hkind, hdigest⟩
    ordered := by
      have hpaths : (tree.entries.map (·.relativePath)).IsChain (· < ·) :=
        (List.isChain_map _).mpr (hchain.imp fun left right hlr => by simpa using hlr)
      exact List.pairwise_map.mp (List.isChain_iff_pairwise.mp hpaths)
    scanned := foldlM_step hscan
    listed := hlisted
    linked := hlinks ▸ hnodup
    counted := hlinks ▸ hcount }

/-- The entries are a tree rooted at the empty path. -/
structure TreeManifestV1.Shaped (tree : TreeManifestV1) : Prop where
  root : ∃ root ∈ tree.entries, root.relativePath = [] ∧ root.payload.kind = .directory ∧
    root.nodeDigest = tree.rootDigest
  distinct : (tree.entries.map (·.relativePath)).Nodup
  /-- The parent of an entry is a present directory that lists it once, with its kind and digest. -/
  parent : ∀ entry ∈ tree.entries, entry.relativePath ≠ [] →
    ∃ parent ∈ tree.entries, parent.relativePath = parentPath entry.relativePath ∧
      ∃ children, parent.payload = .directory children ∧
        children.filter (fun child => child.name == basename entry.relativePath) =
          [⟨basename entry.relativePath, entry.payload.kind, entry.nodeDigest⟩]
  child : ∀ parent ∈ tree.entries, ∀ children, parent.payload = .directory children →
    ∀ child ∈ children, Present tree.entries parent.relativePath child

namespace TreeManifestV1.Accepted

variable {hash}

theorem distinct (h : tree.Accepted hash) : (tree.entries.map (·.relativePath)).Nodup :=
  List.pairwise_map.mpr (h.ordered.imp fun hlt => bytes_ne_of_lt hlt)

theorem eq_of_path (h : tree.Accepted hash) {left right : ManifestEntryV1} (hleft : left ∈ tree.entries)
    (hright : right ∈ tree.entries) (hpath : left.relativePath = right.relativePath) : left = right :=
  List.inj_on_of_nodup_map h.distinct hleft hright hpath

/-- Counting leaves no entry but the root without a link. -/
theorem mem_linked (h : tree.Accepted hash) (hentry : entry ∈ tree.entries) (hpath : entry.relativePath ≠ []) :
    entry.relativePath ∈ tree.entries.flatMap childPaths := by
  obtain ⟨root, rest, hentries, hroot, -⟩ := h.root
  -- Every link goes to a present path that is not the root's.
  have hsub : tree.entries.flatMap childPaths ⊆ rest.map (·.relativePath) := by
    intro path hlink
    obtain ⟨parent, hparent, hchild⟩ := List.mem_flatMap.mp hlink
    unfold childPaths at hchild
    split at hchild
    · next children hpayload =>
      obtain ⟨child, hmem, rfl⟩ := List.mem_map.mp hchild
      obtain ⟨hvalid, target, htarget, htargetPath, -⟩ := (h.listed parent hparent children hpayload).2 child hmem
      have hne := joinRelative_ne_nil parent.relativePath
        (plainComponent_ne_nil (validBasename_iff.mp hvalid).1)
      rw [hentries] at htarget
      rcases List.mem_cons.mp htarget with rfl | htarget
      · exact absurd (htargetPath ▸ hroot) hne
      · exact List.mem_map.mpr ⟨target, htarget, htargetPath⟩
    · cases hchild
  have hlength : (rest.map (·.relativePath)).length ≤ (tree.entries.flatMap childPaths).length := by
    have hcount := h.counted
    rw [hentries] at hcount ⊢
    simp only [List.length_cons, List.length_map] at hcount ⊢
    omega
  have hperm := (List.subperm_of_subset h.linked hsub).perm_of_length_le hlength
  rw [hperm.mem_iff]
  rw [hentries] at hentry
  rcases List.mem_cons.mp hentry with rfl | hentry
  · exact absurd hroot hpath
  · exact List.mem_map_of_mem hentry

/-- Names ascend, so a name is listed once. -/
theorem filter_name (h : tree.Accepted hash) {parent : ManifestEntryV1} (hparent : parent ∈ tree.entries)
    (hpayload : parent.payload = .directory children) (hchild : child ∈ children) :
    children.filter (fun other => other.name == child.name) = [child] := by
  have hnames : (children.map (·.name)).IsChain (· < ·) :=
    (List.isChain_map _).mpr (h.listed parent hparent children hpayload).1
  have hnodup : (children.map (·.name)).Nodup := (List.isChain_iff_pairwise.mp hnames).imp fun hlt => bytes_ne_of_lt hlt
  clear hpayload hnames
  induction children with
  | nil => cases hchild
  | cons first rest ih =>
    rw [List.map_cons, List.nodup_cons] at hnodup
    have hothers : ∀ other ∈ rest, other.name ≠ first.name := fun other hother heq =>
      hnodup.1 (heq ▸ List.mem_map_of_mem hother)
    rcases List.mem_cons.mp hchild with rfl | hchild
    · have hnone : rest.filter (fun other => other.name == child.name) = [] := by
        simpa [List.filter_eq_nil_iff] using hothers
      simp [hnone]
    · have hne : (first.name == child.name) = false := by simpa using (hothers child hchild).symm
      rw [List.filter_cons_of_neg (by simp [hne])]
      exact ih hchild hnodup.2

/-- The directory an entry is linked from, and its commitment there. -/
theorem linked_from (h : tree.Accepted hash) (hentry : entry ∈ tree.entries) (hpath : entry.relativePath ≠ []) :
    ∃ parent ∈ tree.entries, ∃ children, parent.payload = .directory children ∧ ∃ child ∈ children,
      validBasename child.name = true ∧ entry.relativePath = joinRelative parent.relativePath child.name ∧
        entry.payload.kind = child.kind ∧ entry.nodeDigest = child.nodeDigest := by
  obtain ⟨parent, hparent, hlink⟩ := List.mem_flatMap.mp (h.mem_linked hentry hpath)
  unfold childPaths at hlink
  split at hlink
  · next children hpayload =>
    obtain ⟨child, hchild, hjoin⟩ := List.mem_map.mp hlink
    obtain ⟨hvalid, target, htarget, htargetPath, hkind, hdigest⟩ :=
      (h.listed parent hparent children hpayload).2 child hchild
    obtain rfl := h.eq_of_path htarget hentry (htargetPath.trans hjoin)
    exact ⟨parent, hparent, children, hpayload, child, hchild, hvalid, hjoin.symm, hkind, hdigest⟩
  · cases hlink

theorem shaped (h : tree.Accepted hash) : tree.Shaped where
  root := by
    obtain ⟨root, rest, hentries, hpath, hkind, hdigest⟩ := h.root
    exact ⟨root, hentries ▸ List.mem_cons_self, hpath, hkind, hdigest.symm⟩
  distinct := h.distinct
  parent entry hentry hpath := by
    obtain ⟨parent, hparent, children, hpayload, child, hchild, hvalid, hjoin, hkind, hdigest⟩ :=
      h.linked_from hentry hpath
    have hslash := (validBasename_iff.mp hvalid).2.2
    refine ⟨parent, hparent, ?_, children, hpayload, ?_⟩
    · rw [hjoin, parentPath_joinRelative hslash]
    · rw [hjoin, basename_joinRelative hslash, h.filter_name hparent hpayload hchild, hkind, hdigest]
  child parent hparent children hpayload child hchild := ((h.listed parent hparent children hpayload).2 child hchild).2

end TreeManifestV1.Accepted

end Again.Pytest
