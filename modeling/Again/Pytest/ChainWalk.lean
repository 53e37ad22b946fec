import Again.Pytest.ManifestView

/-!
# Chains and walks

An accepted chain resolves every link by its text: the lexical reading drops
`name/..` unseen, whether `name` is a directory, a link elsewhere, a file or
missing. Over the file tree of the manifest it is the walk where every link's
target ends in a name and the names before it are directories. That is not
needed: a name may be a link to the place the text says.
-/

namespace Again.Pytest

open Lib Files

variable {hops : List ExecutableHopV1} {nextPath : SandboxPath} {files : Files Bytes} {rawTarget : Bytes}

/-! ## The lexical reading -/

theorem foldlM_pushComponent (place names : List Bytes) :
    names.foldlM pushComponent place = Files.normalize place (names.map stepOf) := by
  induction names generalizing place with
  | nil => rfl
  | cons name names ih =>
    rw [List.foldlM_cons, List.map_cons]
    by_cases hhere : name = [] ∨ name = utf8 "."
    · simp [pushComponent, stepOf, hhere, Files.normalize, ih]
    · by_cases hup : name = utf8 ".."
      · have hpush : pushComponent place name = if place = [] then none else some place.dropLast := by
          rw [pushComponent, if_neg hhere, if_pos hup]
        have hstep : stepOf name = .up := by rw [stepOf, if_neg hhere, if_pos hup]
        rw [hpush, hstep]
        by_cases hroot : place = [] <;> simp [hroot, Files.normalize, ih]
      · simp [pushComponent, stepOf, hhere, hup, Files.normalize, ih]

theorem stepOf_plain {component : Bytes} (h : plainComponent component = true) : stepOf component = .name component := by
  simp only [plainComponent, Bool.and_eq_true, bne_iff_ne] at h
  simp [stepOf, h.1.1, h.1.2, h.2]

variable {names dir : List Bytes} {name : Bytes} {path : SandboxPath} {hop : ExecutableHopV1}
  {seen : List SandboxPath}

theorem map_stepOf_plain (h : ∀ name ∈ names, plainComponent name = true) : names.map stepOf = names.map .name :=
  List.map_congr_left fun name hname => stepOf_plain (h name hname)

theorem normalize_names (place names : List Bytes) (steps : List (PathStep Bytes)) :
    Files.normalize place (names.map .name ++ steps) = Files.normalize (place ++ names) steps := by
  induction names generalizing place with
  | nil => simp
  | cons name names ih => simp [Files.normalize, ih]

theorem normalize_append_name (place : List Bytes) (init : List (PathStep Bytes)) (name : Bytes) :
    Files.normalize place (init ++ [.name name]) = (Files.normalize place init).map (· ++ [name]) := by
  induction init generalizing place with
  | nil => rfl
  | cons step init ih =>
    cases step with
    | here => exact ih place
    | up =>
      simp only [List.cons_append, Files.normalize]
      split
      · rfl
      · exact ih _
    | name n => exact ih _

/-- A component that is a name: nonempty and without a slash. -/
def Name (component : Bytes) : Prop := component ≠ [] ∧ slash ∉ component

theorem relativeComponents_intercalate (h : ∀ name ∈ names, Name name) :
    relativeComponents ([slash].intercalate names) = names := by
  by_cases hnil : names = []
  · simp [hnil, relativeComponents]
  · have hsplit := List.splitOn_intercalate slash (fun name hname => (h name hname).2) hnil
    rw [relativeComponents, if_neg, hsplit]
    intro hempty
    -- An empty text would be one empty name.
    rw [hempty, List.splitOn_nil] at hsplit
    exact (h [] (hsplit ▸ List.mem_singleton_self _)).1 rfl

/-- The lexical reading only ever keeps names. -/
theorem normalize_names_of {place result : List Bytes} {steps : List (PathStep Bytes)}
    (hplace : ∀ name ∈ place, Name name) (hsteps : ∀ name, .name name ∈ steps → Name name)
    (h : Files.normalize place steps = some result) : ∀ name ∈ result, Name name := by
  induction steps generalizing place with
  | nil =>
    cases h
    exact hplace
  | cons step steps ih =>
    have hrest : ∀ name, .name name ∈ steps → Name name := fun name hname => hsteps name (List.mem_cons_of_mem _ hname)
    cases step with
    | here => exact ih hplace hrest h
    | up =>
      simp only [Files.normalize, Option.ite_none_left_eq_some] at h
      exact ih (fun name hname => hplace name (List.dropLast_subset _ hname)) hrest h.2
    | name n =>
      refine ih (List.forall_mem_append.mpr ⟨hplace, ?_⟩) hrest h
      exact List.forall_mem_singleton.mpr (hsteps n List.mem_cons_self)

theorem name_of_mem_targetSteps {target : Bytes} (h : .name name ∈ targetSteps target) : Name name := by
  obtain ⟨component, hmem, hstep⟩ := List.mem_map.mp h
  unfold stepOf at hstep
  split at hstep
  · cases hstep
  · next hne =>
    split at hstep
    · cases hstep
    · cases hstep
      exact ⟨fun hnil => hne (Or.inl hnil), not_mem_of_mem_splitOn hmem⟩

theorem name_of_mem_components (path : SandboxPath) (h : name ∈ components path.val) : Name name := by
  refine ⟨plainComponent_ne_nil (components_plain path name h), ?_⟩
  unfold components relativeComponents at h
  split at h
  · cases h
  · exact not_mem_of_mem_splitOn h

theorem throughLastSlash_eq {front : Bytes} (h : slash ∉ name) :
    throughLastSlash (front ++ slash :: name) = some (front ++ [slash]) := by
  have hdrop : (name.reverse ++ slash :: front.reverse).dropWhile (· != slash) = slash :: front.reverse := by
    rw [List.dropWhile_append_of_pos]
    · simp
    · intro b hb
      simp only [List.mem_reverse] at hb
      simpa using fun heq : b = slash => h (heq ▸ hb)
  simp only [throughLastSlash, List.mem_append, List.mem_cons, true_or, or_true, if_true, List.reverse_append,
    List.reverse_cons, List.append_assoc, List.singleton_append, hdrop, List.reverse_reverse]

/-- A path with at least one component: its directory's text, a slash and its name. -/
theorem path_eq_of_components (h : components path.val = dir ++ [name]) :
    ∃ front, path.val = front ++ slash :: name ∧ slash ∉ name ∧
      (∀ target, (front ++ slash :: target).tail.splitOn slash = dir ++ target.splitOn slash) ∧
      (front ++ [slash]).head? = some slash := by
  have hname := name_of_mem_components path (h ▸ List.mem_append_right _ (List.mem_singleton_self name))
  have hpath : path.val = joinComponents (dir ++ [name]) := by rw [← h, joinComponents_components]
  by_cases hdir : dir = []
  · subst hdir
    exact ⟨[], by simpa [joinComponents] using hpath, hname.2, by simp, rfl⟩
  · refine ⟨slash :: [slash].intercalate dir, ?_, hname.2, fun target => ?_, rfl⟩
    · rw [hpath, joinComponents, intercalate_append hdir (List.cons_ne_nil _ _)]
      simp
    · have hsplit := List.splitOn_intercalate slash
        (fun d hd => (name_of_mem_components path (h ▸ List.mem_append_left _ hd)).2) hdir
      rw [List.cons_append, List.tail_cons, List.splitOn_append_cons_self, hsplit]

/-- The code's resolution of a link is the lexical reading from the link's directory. -/
theorem normalize_of_resolved {next : SandboxPath} {target : Bytes} (hpath : components path.val = dir ++ [name])
    (h : resolvedSymlinkTarget path.val target = some next.val) :
    Files.normalize (start (isAbsolute target) dir) (targetSteps target) = some (components next.val) := by
  have hdir : ∀ d ∈ dir, Name d := fun d hd => name_of_mem_components path (hpath ▸ List.mem_append_left _ hd)
  -- Whichever way the target is read, the result is a list of names, joined again by the code.
  have hjoin : ∀ cs, Files.normalize (start (isAbsolute target) dir) (targetSteps target) = some cs →
      joinComponents cs = next.val →
      Files.normalize (start (isAbsolute target) dir) (targetSteps target) = some (components next.val) := by
    intro cs hcs hnext
    have hnames := normalize_names_of (by
      intro d hd
      unfold start at hd
      split at hd
      · cases hd
      · exact hdir d hd) (fun n hn => name_of_mem_targetSteps hn) hcs
    rw [hcs, ← hnext, components, joinComponents, List.tail_cons, relativeComponents_intercalate hnames]
  simp only [resolvedSymlinkTarget, Option.bind_eq_bind, Option.bind_eq_some_iff, Option.ite_none_left_eq_some,
    Option.some.injEq] at h
  obtain ⟨combined, hcombined, -, cs, hfold, hnext⟩ := h
  refine hjoin cs ?_ hnext
  rw [foldlM_pushComponent] at hfold
  unfold combinedTarget at hcombined
  split at hcombined
  · next habsolute =>
    cases hcombined
    obtain ⟨rest, rfl⟩ := List.head?_eq_some_iff.mp habsolute
    have hsteps : targetSteps (slash :: rest) = .here :: (rest.splitOn slash).map stepOf := by
      rw [targetSteps, List.splitOn_cons_eq_if_modifyHead]
      simp [stepOf]
    rw [hsteps]
    simpa [isAbsolute, start, Files.normalize] using hfold
  · next hrelative =>
    obtain ⟨front, hfront, hslash, hsplit, -⟩ := path_eq_of_components hpath
    rw [hfront, throughLastSlash_eq hslash, Option.map_some, Option.some.injEq] at hcombined
    subst hcombined
    rw [List.append_assoc, List.singleton_append, hsplit, List.map_append, map_stepOf_plain, normalize_names] at hfold
    · simpa [isAbsolute, hrelative, start, targetSteps] using hfold
    · intro d hd
      exact components_plain path d (hpath ▸ List.mem_append_left _ hd)

/-! ## Hops on the file tree -/

variable {hash : Blake3} {manifest : SnapshotManifestV1}

/-- What validation says of a hop and its manifest entry. -/
theorem hop_node (h : manifest.Mountable hash) (hentry : checkHopEntry manifest hop = .ok ()) :
    manifest.node (components hop.path.val) = some (match hop.resolution with
      | .symlink rawTarget _ => .link (isAbsolute rawTarget) (targetSteps rawTarget)
      | .terminalRegular => .file) := by
  simp only [checkHopEntry, bind_eq_ok, requireSome_eq_ok, lookupIf_eq_ok, exists_unit, Bool.not_eq_false] at hentry
  obtain ⟨entry, hlookup, -, hmatches⟩ := hentry
  rw [h.node_of_lookup hlookup]
  unfold matchesEntry at hmatches
  unfold fileNode
  cases hresolution : hop.resolution <;> cases hpayload : entry.payload <;>
    simp only [hresolution, hpayload, Bool.false_eq_true, beq_iff_eq] at hmatches ⊢
  rw [hmatches]

/-- Below the root every path has a directory and a name. -/
theorem hop_components (h : manifest.Mountable hash) (hentry : checkHopEntry manifest hop = .ok ()) :
    ∃ dir name, components hop.path.val = dir ++ [name] ∧ manifest.node dir = some .directory := by
  have hnode := hop_node h hentry
  rcases List.eq_nil_or_concat (components hop.path.val) with hnil | ⟨dir, name, hpath⟩
  · rw [hnil, h.node_root] at hnode
    split at hnode <;> cases hnode
  · rw [List.concat_eq_append] at hpath
    exact ⟨dir, name, hpath, h.node_parent (hpath ▸ hnode)⟩

/-- Where the targets of a hop are read from. -/
def hopStart (hop : ExecutableHopV1) (rawTarget : Bytes) : List Bytes :=
  start (isAbsolute rawTarget) (components hop.path.val).dropLast

/-- The target ends in a name, and before that name the lexical reading is the walk. -/
def Direct (files : Files Bytes) (hop : ExecutableHopV1) : Prop :=
  ∀ rawTarget nextPath, hop.resolution = .symlink rawTarget nextPath →
    ∃ init name parent, targetSteps rawTarget = init ++ [.name name] ∧
      Files.normalize (hopStart hop rawTarget) init = some parent ∧ files.Walk (hopStart hop rawTarget) init parent

/-- The code's next path is where the walk of the target lands. -/
def LandsOnNext (files : Files Bytes) (hop : ExecutableHopV1) : Prop :=
  ∀ rawTarget nextPath, hop.resolution = .symlink rawTarget nextPath →
    files.Lands (hopStart hop rawTarget) (targetSteps rawTarget) (components nextPath.val)

/-- The requested path leads to the terminal hop, every link along the way to the hop after it. -/
structure ReachedByWalk (files : Files Bytes) (chain : ExecutableChainV1) : Prop where
  terminal : ∀ hop, chain.hops.getLast? = some hop →
    files.Walk [] ((components chain.requestedPath.val).map .name) (components hop.path.val)
  links : ∀ hop ∈ chain.hops, LandsOnNext files hop

theorem checkHops_cons {rest : List ExecutableHopV1} (h : checkHops seen (hop :: rest) = .ok ()) :
    (∀ rawTarget nextPath, hop.resolution = .symlink rawTarget nextPath →
      resolvedSymlinkTarget hop.path.val rawTarget = some nextPath.val ∧
        ∃ next others, rest = next :: others ∧ next.path = nextPath) ∧
      (hop.resolution = .terminalRegular → rest = []) ∧ ∃ seen', checkHops seen' rest = .ok () := by
  simp only [checkHops, bind_eq_ok, exists_unit, lookupIf_eq_ok, ExecutableHopV1.validate, checkNext] at h
  obtain ⟨⟨-, hhop⟩, -, hnext, hrest⟩ := h
  refine ⟨?_, ?_, _, hrest⟩
  · intro rawTarget nextPath hresolution
    simp only [hresolution, lookupIf_eq_ok, not_or, not_not, ne_eq] at hhop hnext
    refine ⟨hhop.2.2.2, ?_⟩
    rw [Option.map_eq_some_iff] at hnext
    obtain ⟨next, hhead, hpath⟩ := hnext
    obtain ⟨others, hothers⟩ := List.head?_eq_some_iff.mp hhead
    exact ⟨next, others, hothers, hpath⟩
  · intro hresolution
    simpa [hresolution] using hnext

/-- A direct link leads to the directory and name of its next path. -/
theorem Direct.next (h : Direct files hop) (hresolution : hop.resolution = .symlink rawTarget nextPath)
    (hresolved : resolvedSymlinkTarget hop.path.val rawTarget = some nextPath.val)
    (hpath : components hop.path.val = dir ++ [name]) :
    ∃ init last parent, targetSteps rawTarget = init ++ [.name last] ∧ components nextPath.val = parent ++ [last] ∧
      files.Walk (start (isAbsolute rawTarget) dir) init parent := by
  obtain ⟨init, last, parent, hsteps, hlexical, hwalk⟩ := h rawTarget nextPath hresolution
  rw [hopStart, hpath, List.dropLast_concat] at hlexical hwalk
  have hnormal := normalize_of_resolved hpath hresolved
  rw [hsteps, normalize_append_name, hlexical, Option.map_some, Option.some.injEq] at hnormal
  exact ⟨init, last, parent, hsteps, hnormal.symm, hwalk⟩

/-- From its directory, the first hop's name leads to the last hop. -/
theorem walk_hops (h : manifest.Mountable hash) (hcheck : checkHops seen hops = .ok ())
    (hentries : ∀ hop ∈ hops, checkHopEntry manifest hop = .ok ())
    (hdirect : ∀ hop ∈ hops, Direct (SnapshotManifestV1.files h) hop) {terminal : ExecutableHopV1}
    (hlast : hops.getLast? = some terminal) {first : ExecutableHopV1} (hfirst : hops.head? = some first)
    (hpath : components first.path.val = dir ++ [name]) :
    (SnapshotManifestV1.files h).Walk dir [.name name] (components terminal.path.val) := by
  induction hops generalizing seen first dir name with
  | nil => cases hfirst
  | cons hop rest ih =>
    cases hfirst
    obtain ⟨hsymlink, hterminal, seen', hrest⟩ := checkHops_cons hcheck
    have hnode := hop_node h (hentries hop List.mem_cons_self)
    rw [hpath] at hnode
    cases hresolution : hop.resolution with
    | terminalRegular =>
      rw [hterminal hresolution, List.getLast?_singleton, Option.some.injEq] at hlast
      simp only [hresolution] at hnode
      rw [← hlast, hpath]
      exact .reach hnode
    | symlink rawTarget nextPath =>
      obtain ⟨hresolved, next, others, rfl, rfl⟩ := hsymlink rawTarget nextPath hresolution
      obtain ⟨init, last, parent, hsteps, hnext, hwalk⟩ :=
        (hdirect hop List.mem_cons_self).next hresolution hresolved hpath
      have hgoal := ih hrest (fun other hother => hentries other (List.mem_cons_of_mem _ hother))
        (fun other hother => hdirect other (List.mem_cons_of_mem _ hother)) hlast rfl hnext
      have hnextNode := hop_node h (hentries next (List.mem_cons_of_mem _ List.mem_cons_self))
      rw [hnext] at hnextNode
      simp only [hresolution, hsteps] at hnode
      exact .through hnode hwalk (h.node_parent hnextNode) hgoal

theorem resolved_of_mem (hcheck : checkHops seen hops = .ok ()) (hmem : hop ∈ hops)
    (hresolution : hop.resolution = .symlink rawTarget nextPath) :
    resolvedSymlinkTarget hop.path.val rawTarget = some nextPath.val ∧ ∃ next ∈ hops, next.path = nextPath := by
  induction hops generalizing seen with
  | nil => cases hmem
  | cons first rest ih =>
    obtain ⟨hsymlink, -, seen', hrest⟩ := checkHops_cons hcheck
    rcases List.mem_cons.mp hmem with rfl | hmem
    · obtain ⟨hresolved, next, others, rfl, hpath⟩ := hsymlink rawTarget nextPath hresolution
      exact ⟨hresolved, next, List.mem_cons_of_mem _ List.mem_cons_self, hpath⟩
    · obtain ⟨hresolved, next, hnext, hpath⟩ := ih hrest hmem
      exact ⟨hresolved, next, List.mem_cons_of_mem _ hnext, hpath⟩

/-- The code accepts this hop: its link resolves by text to the path of a hop that the manifest has. -/
structure HopAccepted (manifest : SnapshotManifestV1) (hop : ExecutableHopV1) : Prop where
  entry : checkHopEntry manifest hop = .ok ()
  next : ∀ rawTarget nextPath, hop.resolution = .symlink rawTarget nextPath →
    resolvedSymlinkTarget hop.path.val rawTarget = some nextPath.val ∧
      ∃ next : ExecutableHopV1, next.path = nextPath ∧ checkHopEntry manifest next = .ok ()

/-- A link lands on its next path exactly when it is direct. -/
theorem landsOnNext_iff (h : manifest.Mountable hash) (hhop : HopAccepted manifest hop) :
    LandsOnNext (SnapshotManifestV1.files h) hop ↔ Direct (SnapshotManifestV1.files h) hop := by
  obtain ⟨dir, name, hpath, hdir⟩ := hop_components h hhop.entry
  constructor
  · intro hlands rawTarget nextPath hresolution
    obtain ⟨hresolved, next, rfl, hnext⟩ := hhop.next rawTarget nextPath hresolution
    have hgoal : manifest.node (components next.path.val) ≠ some .directory := by
      rw [hop_node h hnext]
      split <;> simp
    have hland := hlands rawTarget next.path hresolution
    have hstart : (SnapshotManifestV1.files h).node (hopStart hop rawTarget) = some .directory := by
      rw [hopStart, hpath, List.dropLast_concat]
      exact node_start _ hdir
    obtain ⟨init, last, parent, hsteps, hparent, hwalk⟩ := hland.last_name hstart hgoal
    refine ⟨init, last, parent, hsteps, ?_, hwalk⟩
    have hnormal := normalize_of_resolved hpath hresolved
    rw [hsteps, normalize_append_name, hparent, Option.map_eq_some_iff] at hnormal
    obtain ⟨parent', hparent', heq⟩ := hnormal
    rw [hopStart, hpath, List.dropLast_concat, hparent', (List.append_inj' heq rfl).1]
  · intro hdirect rawTarget nextPath hresolution
    obtain ⟨hresolved, next, rfl, hnext⟩ := hhop.next rawTarget nextPath hresolution
    obtain ⟨init, last, parent, hsteps, hparent, hwalk⟩ := hdirect.next hresolution hresolved hpath
    rw [hopStart, hpath, List.dropLast_concat, hsteps, hparent]
    exact hwalk.land (hparent ▸ hop_node h hnext)

theorem chain_accepted {chain : ExecutableChainV1} (hchain : chain.validateAgainstManifest hash manifest = .ok ()) :
    manifest.validate hash = .ok () ∧ chain.hops.head?.map (·.path) = some chain.requestedPath ∧
      checkHops [] chain.hops = .ok () ∧ ∀ hop ∈ chain.hops, checkHopEntry manifest hop = .ok () := by
  simp only [ExecutableChainV1.validateAgainstManifest, ExecutableChainV1.validate, bind_eq_ok, exists_unit,
    lookupIf_eq_ok, forM_eq_ok, not_or, not_not, ne_eq] at hchain
  obtain ⟨⟨⟨-, -, -, hhead, -⟩, hcheck⟩, hmanifest, hentries⟩ := hchain
  exact ⟨hmanifest, hhead, hcheck, hentries⟩

theorem hop_accepted {chain : ExecutableChainV1} (hchain : chain.validateAgainstManifest hash manifest = .ok ()) :
    ∀ hop ∈ chain.hops, HopAccepted manifest hop := by
  obtain ⟨-, -, hcheck, hentries⟩ := chain_accepted hchain
  refine fun hop hmem => ⟨hentries hop hmem, fun rawTarget nextPath hresolution => ?_⟩
  obtain ⟨hresolved, next, hnext, hpath⟩ := resolved_of_mem hcheck hmem hresolution
  exact ⟨hresolved, next, hpath, hentries next hnext⟩

/-- An accepted chain is the walk of its requested path exactly when every link on it is direct. -/
theorem chain_reached_iff_direct {chain : ExecutableChainV1} (hmanifest : manifest.validate hash = .ok ())
    (hmounts : manifest.MountsUnnested) (hchain : chain.validateAgainstManifest hash manifest = .ok ()) :
    ReachedByWalk (SnapshotManifestV1.files (.of_validate hmanifest hmounts)) chain ↔
      ∀ hop ∈ chain.hops, Direct (SnapshotManifestV1.files (.of_validate hmanifest hmounts)) hop := by
  have h : manifest.Mountable hash := .of_validate hmanifest hmounts
  obtain ⟨-, hhead, hcheck, hentries⟩ := chain_accepted hchain
  have hhops : ∀ hop ∈ chain.hops, HopAccepted manifest hop := hop_accepted hchain
  constructor
  · intro hreached hop hmem
    exact (landsOnNext_iff h (hhops hop hmem)).mp (hreached.links hop hmem)
  · intro hdirect
    refine ⟨?_, fun hop hmem => (landsOnNext_iff h (hhops hop hmem)).mpr (hdirect hop hmem)⟩
    intro terminal hlast
    rw [Option.map_eq_some_iff] at hhead
    obtain ⟨first, hfirst, hrequested⟩ := hhead
    obtain ⟨dir, name, hpath, hdir⟩ := hop_components h (hentries first (List.mem_of_head? hfirst))
    rw [← hrequested, hpath, List.map_append]
    exact (Files.walk_names hdir).trans hdir (walk_hops h hcheck hentries hdirect hlast hfirst hpath)

/-- The target ends in a name, and every name before it is a directory at its lexical position. -/
def StraightLink (files : Files Bytes) (hop : ExecutableHopV1) : Prop :=
  ∀ rawTarget nextPath, hop.resolution = .symlink rawTarget nextPath →
    ∃ init name, targetSteps rawTarget = init ++ [.name name] ∧ files.Straight (hopStart hop rawTarget) init

/-- A straight link that is accepted is direct: its text does not leave the root. -/
theorem StraightLink.direct (h : StraightLink files hop) (hmount : manifest.Mountable hash)
    (hhop : HopAccepted manifest hop) : Direct files hop := by
  intro rawTarget nextPath hresolution
  obtain ⟨init, last, hsteps, hstraight⟩ := h rawTarget nextPath hresolution
  obtain ⟨dir, name, hpath, -⟩ := hop_components hmount hhop.entry
  have hnormal := normalize_of_resolved hpath (hhop.next rawTarget nextPath hresolution).1
  rw [hsteps, normalize_append_name, Option.map_eq_some_iff] at hnormal
  obtain ⟨parent, hlexical, -⟩ := hnormal
  rw [← show (dir ++ [name]).dropLast = dir from List.dropLast_concat, ← hpath] at hlexical
  exact ⟨init, last, parent, hsteps, hlexical, hstraight.walk hlexical⟩

/-- An accepted chain whose links are straight is the walk of its requested path. -/
theorem chain_reached_of_straight {chain : ExecutableChainV1} (hmanifest : manifest.validate hash = .ok ())
    (hmounts : manifest.MountsUnnested) (hchain : chain.validateAgainstManifest hash manifest = .ok ())
    (hstraight : ∀ hop ∈ chain.hops,
      StraightLink (SnapshotManifestV1.files (.of_validate hmanifest hmounts)) hop) :
    ReachedByWalk (SnapshotManifestV1.files (.of_validate hmanifest hmounts)) chain := by
  refine (chain_reached_iff_direct hmanifest hmounts hchain).mpr fun hop hmem => ?_
  exact (hstraight hop hmem).direct (.of_validate hmanifest hmounts) (hop_accepted hchain hop hmem)

/-! ## A link read past -/

def kindDigest : ManifestEntryKindV1 → NodeDigest
  | .directory => domainHash directoryNodeDomain []
  | .regular => domainHash regularNodeDomain []
  | .symlink => domainHash symlinkNodeDomain []
  | .externalTree => domainHash externalTreeNodeDomain []

def plainMetadata (mode : UInt32) (size nlink : UInt64) : MetadataV1 :=
  ⟨mode, 0, 0, size, nlink, ⟨0, 0⟩, ⟨0, 0⟩, ⟨0, 0⟩, none, []⟩

def directoryEntry (path : String) (children : List (String × ManifestEntryKindV1)) : ManifestEntryV1 :=
  ⟨utf8 path, plainMetadata sIfdir 0 2, .directory (children.map fun child => ⟨utf8 child.1, child.2, kindDigest child.2⟩),
    none, kindDigest .directory⟩

def regularEntry (path : String) : ManifestEntryV1 :=
  ⟨utf8 path, plainMetadata sIfreg 0 1, .regular (Octets.fill 32 7) [], none, kindDigest .regular⟩

def symlinkEntry (path target : String) : ManifestEntryV1 :=
  ⟨utf8 path, plainMetadata sIflnk (UInt64.ofNat (utf8 target).length) 1, .symlink (utf8 target), none,
    kindDigest .symlink⟩

def workspacePath : SandboxPath := ⟨utf8 "/workspace", valid_workspace⟩
def runtimePath : SandboxPath := ⟨utf8 "/a", valid_a⟩

/-- `bin/python -> alt/../python3`, where `bin/alt` is itself a link out of `bin`. -/
def detourWorkspace : TreeManifestV1 where
  mountPath := workspacePath
  treeRole := .workspace
  entries := [
    directoryEntry "" [("bin", .directory), ("other", .directory)],
    directoryEntry "bin" [("alt", .symlink), ("python", .symlink), ("python3", .regular), ("run", .symlink)],
    symlinkEntry "bin/alt" "../other/sub",
    symlinkEntry "bin/python" "alt/../python3",
    regularEntry "bin/python3",
    symlinkEntry "bin/run" "../other/../bin/python3",
    directoryEntry "other" [("python3", .regular), ("sub", .directory)],
    regularEntry "other/python3",
    directoryEntry "other/sub" []]
  rootDigest := kindDigest .directory

def detourRuntime : TreeManifestV1 := ⟨runtimePath, .runtime, [directoryEntry "" []], kindDigest .directory⟩

def detourManifest : SnapshotManifestV1 where
  schema := snapshotManifestV1Schema
  profileDigest := Octets.fill 32 1
  workspaceIdentity := Octets.fill 32 2
  workspaceTree := detourWorkspace
  runtimeTrees := [detourRuntime]
  workspaceRoot := domainHash workspaceMerkleDomain []
  runtimeRoot := domainHash runtimeMerkleDomain []

theorem detourManifest_validate : detourManifest.validate domainHash = .ok () := by decide +kernel

theorem detourManifest_unnested : detourManifest.MountsUnnested := by
  have hnone : ∀ outer ∈ detourManifest.trees, ∀ inner ∈ detourManifest.trees,
      sandboxPathIsAncestor outer.mountPath.val inner.mountPath.val = false := by decide +kernel
  intro outer houter inner hinner hanc
  rw [hnone outer houter inner hinner] at hanc
  cases hanc

def detourFiles : Files Bytes := SnapshotManifestV1.files (.of_validate detourManifest_validate detourManifest_unnested)

def pythonPath : SandboxPath := ⟨utf8 "/workspace/bin/python", by decide +kernel⟩
def python3Path : SandboxPath := ⟨utf8 "/workspace/bin/python3", by decide +kernel⟩
def runPath : SandboxPath := ⟨utf8 "/workspace/bin/run", by decide +kernel⟩

def chainTo (path : SandboxPath) (target : String) : ExecutableChainV1 :=
  ⟨path, [⟨path, kindDigest .symlink, .symlink (utf8 target) python3Path⟩,
    ⟨python3Path, kindDigest .regular, .terminalRegular⟩]⟩

def detourChain : ExecutableChainV1 := chainTo pythonPath "alt/../python3"
def straightChain : ExecutableChainV1 := chainTo runPath "../other/../bin/python3"

theorem chainTo_validate {target : String} (hchain : (chainTo path target).validate = .ok ())
    (hentries : ∀ hop ∈ (chainTo path target).hops, checkHopEntry detourManifest hop = .ok ()) :
    (chainTo path target).validateAgainstManifest domainHash detourManifest = .ok () := by
  simp only [ExecutableChainV1.validateAgainstManifest, hchain, detourManifest_validate, ok_bind, forM_eq_ok]
  exact hentries

theorem detourChain_validate : detourChain.validateAgainstManifest domainHash detourManifest = .ok () :=
  chainTo_validate (by decide +kernel) (by decide +kernel)

theorem straightChain_validate : straightChain.validateAgainstManifest domainHash detourManifest = .ok () :=
  chainTo_validate (by decide +kernel) (by decide +kernel)

/-- The walk leaves `bin` through `alt` and comes back up elsewhere. -/
theorem detour_walk : detourFiles.Walk [] ((components pythonPath.val).map .name)
    [utf8 "workspace", utf8 "other", utf8 "python3"] := by
  have hpython : detourManifest.node [utf8 "workspace", utf8 "bin", utf8 "python"] =
      some (.link false [.name (utf8 "alt"), .up, .name (utf8 "python3")]) := by decide +kernel
  have halt : detourManifest.node [utf8 "workspace", utf8 "bin", utf8 "alt"] =
      some (.link false [.up, .name (utf8 "other"), .name (utf8 "sub")]) := by decide +kernel
  have hworkspace : detourManifest.node [utf8 "workspace"] = some .directory := by decide +kernel
  have hbin : detourManifest.node [utf8 "workspace", utf8 "bin"] = some .directory := by decide +kernel
  have hother : detourManifest.node [utf8 "workspace", utf8 "other"] = some .directory := by decide +kernel
  have hsub : detourManifest.node [utf8 "workspace", utf8 "other", utf8 "sub"] = some .directory := by decide +kernel
  have hfile : detourManifest.node [utf8 "workspace", utf8 "other", utf8 "python3"] = some .file := by decide +kernel
  exact .enter hworkspace (.enter hbin (.follow hpython (.follow halt (.up (.enter hother (.enter hsub
    (.up (.reach hfile))))))))

/-- An accepted chain to `bin/python3`, while the walk of its requested path ends at `other/python3`. -/
theorem detour_accepted_not_reached :
    detourManifest.validate domainHash = .ok () ∧ detourManifest.MountsUnnested ∧
      detourChain.validateAgainstManifest domainHash detourManifest = .ok () ∧
      detourFiles.Walk [] ((components detourChain.requestedPath.val).map .name)
        [utf8 "workspace", utf8 "other", utf8 "python3"] ∧
      ¬ ReachedByWalk detourFiles detourChain := by
  refine ⟨detourManifest_validate, detourManifest_unnested, detourChain_validate, detour_walk, ?_⟩
  intro hreached
  have hends := (hreached.terminal _ rfl).unique detour_walk
  exact absurd hends (by decide +kernel)

/-- The text of `bin/run` drops the directory `other`, and leads to `bin/python3` as the walk does. -/
theorem straightChain_reached : ReachedByWalk detourFiles straightChain := by
  refine chain_reached_of_straight detourManifest_validate detourManifest_unnested straightChain_validate ?_
  intro hop hmem rawTarget nextPath hresolution
  simp only [straightChain, chainTo, List.mem_cons, List.not_mem_nil, or_false] at hmem
  rcases hmem with rfl | rfl
  · cases hresolution
    have hsteps : targetSteps (utf8 "../other/../bin/python3") =
        [.up, .name (utf8 "other"), .up, .name (utf8 "bin")] ++ [.name (utf8 "python3")] := by decide +kernel
    have hother : detourManifest.node [utf8 "workspace", utf8 "other"] = some .directory := by decide +kernel
    have hbin : detourManifest.node [utf8 "workspace", utf8 "bin"] = some .directory := by decide +kernel
    exact ⟨_, _, hsteps, hother, hbin, trivial⟩
  · cases hresolution

end Again.Pytest
