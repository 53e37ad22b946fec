import Again.Pytest.ChainWalk
import Again.Pytest.Records

/-!
# Request keys

`ObservationClosureV1::new` normalises the dependencies of a run. A record's
request key is derived from its shape and its closure, so it sees what a run
observed and not when, or how often.
-/

namespace Again.Pytest

open Lib Octets

/-- What an observation says, without its place in the trace. -/
def ObservationV2.content (observation : ObservationV2) : ObservationKindV2 × SandboxPath × ObservationDetailV1 :=
  (observation.kind, observation.sandboxSubject, observation.canonicalDetail)

variable {hash : Blake3} {xs ys : List ObservationV2}

theorem ObservationV2.dependency_congr {left right : ObservationV2} (h : left.content = right.content) :
    left.dependency hash = right.dependency hash := by
  simp only [content, Prod.mk.injEq] at h
  simp [dependency, h]

/-- The same is said, in whatever order and however often. -/
def SameContent (xs ys : List ObservationV2) : Prop :=
  ∀ content, content ∈ xs.map ObservationV2.content ↔ content ∈ ys.map ObservationV2.content

theorem SameContent.symm (h : SameContent xs ys) : SameContent ys xs := fun content =>
  (h content).symm

theorem SameContent.exists_dependency (h : SameContent xs ys) {x : ObservationV2} (hx : x ∈ xs) :
    ∃ y ∈ ys, y.dependency hash = x.dependency hash := by
  obtain ⟨y, hy, hcontent⟩ := List.mem_map.mp ((h x.content).mp (List.mem_map_of_mem hx))
  exact ⟨y, hy, ObservationV2.dependency_congr hcontent⟩

theorem SameContent.subset {ds es : List ObservationDependencyV1} (h : SameContent xs ys)
    (hds : xs.mapM (·.dependency hash) = .ok ds) (hes : ys.mapM (·.dependency hash) = .ok es) : ds ⊆ es := by
  intro dependency hmem
  obtain ⟨x, hx, hdependency⟩ := (mem_of_mapM hds).mp hmem
  obtain ⟨y, hy, hsame⟩ := h.exists_dependency hx
  exact (mem_of_mapM hes).mpr ⟨y, hy, hsame.trans hdependency⟩

theorem SameContent.fromObservations {closure : ObservationClosureV1} (h : SameContent xs ys)
    (hok : ObservationClosureV1.fromObservations hash xs = .ok closure) :
    ObservationClosureV1.fromObservations hash ys = .ok closure := by
  simp only [ObservationClosureV1.fromObservations, bind_eq_ok] at hok ⊢
  obtain ⟨ds, hds, hnew⟩ := hok
  have hys : ∀ y ∈ ys, ∃ dependency, y.dependency hash = .ok dependency := by
    intro y hy
    obtain ⟨x, hx, hsame⟩ := h.symm.exists_dependency hy
    rw [← hsame]
    exact mapM_isOk_iff.mp ⟨ds, hds⟩ x hx
  obtain ⟨es, hes⟩ := mapM_isOk_iff.mpr hys
  refine ⟨es, hes, ?_⟩
  rw [← hnew]
  exact ObservationClosureV1.new_congr fun _ => ⟨fun he => h.symm.subset hes hds he, fun hd => h.subset hds hes hd⟩

/-- The key of a valid record is the one its own observations give. -/
theorem EffectRecordV2.requestKey_of_validate {record : EffectRecordV2} (h : record.validate hash = .ok ()) :
    ∃ closure, ObservationClosureV1.fromObservations hash record.observations = .ok closure ∧
      record.observationClosure = closure ∧ record.shape.requestKey hash closure = .ok record.requestKey := by
  simp only [validate, validateShared, bind_eq_ok, exists_unit, malformedRecordIf_eq_ok, not_or, not_not] at h
  obtain ⟨⟨-, -, -, -, closure, hclosure, -, -, key, hkey, -, -, rfl, hsame, -⟩, -⟩ := h
  exact ⟨closure, hclosure, hsame, hkey⟩

/-! ## A run -/

section Sample

/-- A stand-in hash that tells the domains apart, and stored objects by a checksum. -/
def sampleHash : Blake3 := fun domain bytes =>
  if domain = casObjectDomain then fill 32 (bytes.foldl (· + ·) 0 ||| 128) else domainHash domain bytes

def samplePolicies : PolicyDigestsV1 :=
  let digest : PolicyDigest := fill 32 1
  ⟨digest, digest, digest, digest, digest, digest, digest, digest, digest, digest⟩

def samplePython : SandboxPath := ⟨utf8 "/workspace/.venv/bin/python", by decide +kernel⟩
def sampleTarget : SandboxPath := ⟨utf8 "/workspace/t.py", by decide +kernel⟩

def sampleChain : ExecutableChainV1 := ⟨samplePython, [⟨samplePython, kindDigest .regular, .terminalRegular⟩]⟩

def sampleInvocation : PytestInvocationIdentityV1 where
  argv := pytestCommand ++ [utf8 "t.py"]
  cwd := utf8 "."
  selectors := [⟨utf8 "t.py", utf8 "t.py", []⟩]
  stdinProfile := .closedEof

def sampleEnvironment : EnvironmentBindingV1 := ⟨fill 32 3, fill 32 4, fill 32 5, 1, fill 32 1⟩

def sampleShape : ShapeV1 where
  schema := linuxPytestShapeV1Schema
  profileId := linuxPytestProfileId
  profileDigest := sampleHash profileDomain []
  workspaceIdentity := fill 32 6
  invocation := sampleInvocation
  environment := sampleEnvironment
  resolvedSelectorTargets := [sampleTarget]
  executableChainDigest := sampleHash executableChainDomain []
  executableChainWitness := (Canonical.encodeExecutableChain sampleChain).toOption.getD []
  runtimeRoot := domainHash runtimeMerkleDomain []
  architecture := .x8664
  capabilityDigest := fill 32 8
  namespacePolicyDigest := fill 32 9
  policyDigests := samplePolicies

/-- The interpreter in its environment, and an empty runtime. -/
def sampleManifest : SnapshotManifestV1 where
  schema := snapshotManifestV1Schema
  profileDigest := sampleHash profileDomain []
  workspaceIdentity := fill 32 6
  workspaceTree :=
    { mountPath := workspacePath
      treeRole := .workspace
      entries := [
        directoryEntry "" [(".venv", .directory)],
        directoryEntry ".venv" [("bin", .directory)],
        directoryEntry ".venv/bin" [("python", .regular)],
        regularEntry ".venv/bin/python"]
      rootDigest := kindDigest .directory }
  runtimeTrees := [detourRuntime]
  workspaceRoot := domainHash workspaceMerkleDomain []
  runtimeRoot := domainHash runtimeMerkleDomain []

def sampleDetail : ObservationDetailV1 := .file (fill 32 10) 3
def sampleOtherDetail : ObservationDetailV1 := .symlink (utf8 "a")

def sampleObservation (sequence : UInt64) (detail : ObservationDetailV1) : ObservationV2 :=
  ⟨sequence, 1, detail.kind, sampleTarget, detail⟩

def sampleTrace (observations : UInt64) : TraceCompletenessV2 where
  required := effectIrV2RequiredMask
  complete := effectIrV2RequiredMask
  unsupported := 0
  violation := 0
  counters := ⟨3, 3, 3, 3, 3, 3, 1, 1, 1, 1, observations, 0, 0, 0, 0, 0, 0, 1⟩
  firstFailure := none

def sampleRecord (recordId : RecordId) (observations : List ObservationV2) : EffectRecordV2 where
  schema := effectIrV2Schema
  recordId := recordId
  profileId := linuxPytestProfileId
  profileDigest := sampleHash profileDomain []
  shapeKey := sampleHash shapeDomain []
  requestKey := sampleHash requestDomain []
  invocation := sampleInvocation
  workspaceIdentity := fill 32 6
  environment := sampleEnvironment
  sealedSnapshot :=
    { snapshotId := fill 16 1
      workspaceRoot := domainHash workspaceMerkleDomain []
      runtimeRoot := domainHash runtimeMerkleDomain []
      manifestBlob := ⟨fill 32 241, 2875⟩
      profileDigest := sampleHash profileDomain [] }
  platform := ⟨.x8664, utf8 "6.1", fill 32 8, ⟨1, 2, 3, 4, 5, 6⟩, fill 32 9, samplePolicies⟩
  trace := sampleTrace (UInt64.ofNat observations.length)
  observations := observations
  ambientEvents := []
  orderedEffects := []
  finalWorkspaceRoot := domainHash workspaceMerkleDomain []
  result := ⟨.complete ⟨fill 32 13, 0⟩, .complete ⟨fill 32 14, 0⟩, 0⟩
  disposition := .primaryCandidate
  dispositionReason := none
  primaryRecordId := none
  createdMonotonicNs := 1
  shape := sampleShape
  observationClosure := ((ObservationClosureV1.fromObservations sampleHash observations).toOption.getD ⟨[]⟩)

/-- A file and a link, seen once each; and the file seen again after the link. -/
def onceRecord : EffectRecordV2 :=
  sampleRecord (fill 16 1) [sampleObservation 1 sampleDetail, sampleObservation 2 sampleOtherDetail]

def againRecord : EffectRecordV2 :=
  sampleRecord (fill 16 2)
    [sampleObservation 1 sampleOtherDetail, sampleObservation 2 sampleDetail, sampleObservation 3 sampleDetail]

theorem onceRecord_validate : onceRecord.validate sampleHash = .ok () := by decide +kernel

theorem againRecord_validate : againRecord.validate sampleHash = .ok () := by decide +kernel

theorem onceRecord_sameContent : SameContent onceRecord.observations againRecord.observations := by
  intro content
  simp [onceRecord, againRecord, sampleRecord, sampleObservation, ObservationV2.content, or_comm]

end Sample

/-! ## What the key depends on -/

open ObservationClosureV1 in
theorem closure_normal_form :
    (∀ xs ys : List ObservationDependencyV1, (∀ dependency, dependency ∈ ys ↔ dependency ∈ xs) → new ys = new xs) ∧
    (∀ xs ys : List ObservationDependencyV1, ys.Perm xs → new ys = new xs) ∧
    (∀ (xs : List ObservationDependencyV1) (closure : ObservationClosureV1), new xs = .ok closure →
      (closure.dependencies.Pairwise fun left right => compareDependencyIdentity left right = .lt) ∧
      closure.dependencies.Nodup ∧ (∀ dependency, dependency ∈ closure.dependencies ↔ dependency ∈ xs) ∧
      new closure.dependencies = .ok closure) ∧
    (∀ (xs : List ObservationDependencyV1), ∀ left ∈ xs, ∀ right ∈ xs, left.kind = right.kind →
      left.subject = right.subject → left.key = right.key → left.currentValue ≠ right.currentValue →
      ∃ e, new xs = .error e) ∧
    (∀ (hash : Blake3) (xs ys : List ObservationV2), SameContent xs ys →
      ∀ closure, fromObservations hash ys = .ok closure ↔ fromObservations hash xs = .ok closure) ∧
    ∀ (hash : Blake3) (left right : EffectRecordV2), left.validate hash = .ok () → right.validate hash = .ok () →
      left.shape = right.shape → SameContent left.observations right.observations →
      left.requestKey = right.requestKey := by
  refine ⟨fun xs ys h => new_congr h, fun xs ys h => new_congr fun _ => h.mem_iff, ?_, ?_, ?_, ?_⟩
  · intro xs closure h
    obtain ⟨hvalid, hstrict, hmembers⟩ := new_ok h
    exact ⟨hstrict, hstrict.nodup, hmembers, new_dependencies hvalid⟩
  · intro xs left hleft right hright hkind hsubject hkey hvalue
    have hsame : compareDependencyIdentity left right = .eq := by
      simp [compareDependencyIdentity, hkind, hsubject, hkey]
    exact ⟨_, new_conflict hleft hright hsame fun heq => hvalue (congrArg _ heq)⟩
  · exact fun hash xs ys h closure => ⟨h.symm.fromObservations, h.fromObservations⟩
  · intro hash left right hleft hright hshape hcontent
    obtain ⟨closure, hclosure, -, hkey⟩ := EffectRecordV2.requestKey_of_validate hleft
    obtain ⟨closure', hclosure', -, hkey'⟩ := EffectRecordV2.requestKey_of_validate hright
    rw [hcontent.fromObservations hclosure] at hclosure'
    cases hclosure'
    rw [hshape, hkey'] at hkey
    exact (Except.ok.inj hkey).symm

def fileDependency (byteCount : UInt64) : ObservationDependencyV1 :=
  ⟨utf8 "bytes", .file, sampleTarget, ⟨fill 32 1, byteCount⟩⟩

theorem closure_normal_form_repeated :
    onceRecord.requestKey = againRecord.requestKey ∧
      (ObservationClosureV1.new
        (onceRecord.observationClosure.dependencies ++ onceRecord.observationClosure.dependencies) =
          .ok onceRecord.observationClosure) ∧
      ∃ e, ObservationClosureV1.new [fileDependency 1, fileDependency 2] = .error e := by
  obtain ⟨hset, -, hnormal, hconflict, -, hkey⟩ := closure_normal_form
  obtain ⟨closure, hclosure, rfl, -⟩ := EffectRecordV2.requestKey_of_validate onceRecord_validate
  obtain ⟨dependencies, -, hnew⟩ := bind_eq_ok.mp hclosure
  refine ⟨hkey sampleHash _ _ onceRecord_validate againRecord_validate rfl onceRecord_sameContent, ?_, ?_⟩
  · rw [hset onceRecord.observationClosure.dependencies _ (by simp)]
    exact (hnormal dependencies _ hnew).2.2.2
  · exact hconflict _ (fileDependency 1) (by simp) (fileDependency 2) (by simp) rfl rfl rfl (by decide)

end Again.Pytest
