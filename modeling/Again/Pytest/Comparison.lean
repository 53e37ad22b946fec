import Again.Pytest.RoundTrips

/-!
# Comparing a primary with its shadow

`linux_pytest.rs` and `canonical.rs`: a candidate is a canonical record checked
against the manifest its snapshot names. The comparison view leaves out what
two runs of one request may differ in; a pair is compared by the bytes of the
two views.
-/

namespace Again.Pytest

open Lib Canonical EffectRecordV2

variable {value' value : Except ContractError Bytes} {right left : EffectRecordV2}

def effectIrV2ComparisonDomain := "again linux pytest effect comparison v1"
def effectIrV2ComparisonViewDomain := "again linux pytest effect comparison view v1"
def effectIrV2ComparisonRulesDomain := "again linux pytest effect comparison rules v1"

/-! ## The view -/

structure ComparisonSnapshotV1 where
  workspaceRoot : MerkleRoot
  runtimeRoot : MerkleRoot
  manifestBlob : BlobRefV2
  profileDigest : ProfileDigest
deriving DecidableEq

structure ComparisonPlatformV1 where
  architecture : ArchitectureV1
  kernelRelease : Bytes
  capabilityDigest : CapabilityDigest
  namespacePolicyDigest : PolicyDigest
  policyDigests : PolicyDigestsV1
deriving DecidableEq

structure ComparisonViewV1 where
  schema : String
  profileId : String
  profileDigest : ProfileDigest
  shapeKey : ShapeKey
  requestKey : RequestKey
  invocation : PytestInvocationIdentityV1
  workspaceIdentity : WorkspaceIdentity
  environment : EnvironmentBindingV1
  sealedSnapshot : ComparisonSnapshotV1
  platform : ComparisonPlatformV1
  trace : TraceCompletenessV2
  observations : List ObservationV2
  ambientEvents : List AmbientEventV2
  orderedEffects : List OrderedEffectV2
  finalWorkspaceRoot : MerkleRoot
  result : EffectResultV2
  shape : ShapeV1
  observationClosure : ObservationClosureV1
deriving DecidableEq

def EffectRecordV2.comparisonView (record : EffectRecordV2) : ComparisonViewV1 where
  schema := record.schema
  profileId := record.profileId
  profileDigest := record.profileDigest
  shapeKey := record.shapeKey
  requestKey := record.requestKey
  invocation := record.invocation
  workspaceIdentity := record.workspaceIdentity
  environment := record.environment
  sealedSnapshot :=
    { workspaceRoot := record.sealedSnapshot.workspaceRoot
      runtimeRoot := record.sealedSnapshot.runtimeRoot
      manifestBlob := record.sealedSnapshot.manifestBlob
      profileDigest := record.sealedSnapshot.profileDigest }
  platform :=
    { architecture := record.platform.architecture
      kernelRelease := record.platform.kernelRelease
      capabilityDigest := record.platform.capabilityDigest
      namespacePolicyDigest := record.platform.namespacePolicyDigest
      policyDigests := record.platform.policyDigests }
  trace := record.trace
  observations := record.observations
  ambientEvents := record.ambientEvents
  orderedEffects := record.orderedEffects
  finalWorkspaceRoot := record.finalWorkspaceRoot
  result := record.result
  shape := record.shape
  observationClosure := record.observationClosure

namespace Canonical

def typeComparisonView : UInt16 := 0x0011
def typeComparisonSnapshot : UInt16 := 0x0015
def typeComparisonPlatform : UInt16 := 0x0016
def typeComparisonRules : UInt16 := 0x0017

def comparisonRuleVersion : Bytes := utf8 "comparison-view-v1"

def comparisonExclusions : List Bytes :=
  [utf8 "record_id", utf8 "snapshot_id", utf8 "namespace_ids", utf8 "disposition", utf8 "disposition_reason",
    utf8 "primary_record_id", utf8 "comparison_digest", utf8 "created_monotonic_ns", utf8 "outer_host_pid",
    utf8 "duration"]

def encodeComparisonSnapshot (value : ComparisonSnapshotV1) : Except ContractError Bytes :=
  codec.encodeNested typeComparisonSnapshot [
    callBytes 1 value.workspaceRoot.val,
    callBytes 2 value.runtimeRoot.val,
    callObject 3 (encodeBlob value.manifestBlob),
    callBytes 4 value.profileDigest.val]

def encodeComparisonPlatform (value : ComparisonPlatformV1) : Except ContractError Bytes :=
  codec.encodeNested typeComparisonPlatform [
    callEnumeration 1 value.architecture.code [],
    callBytes 2 value.kernelRelease,
    callBytes 3 value.capabilityDigest.val,
    callBytes 4 value.namespacePolicyDigest.val,
    callObject 5 (encodePolicyDigests value.policyDigests)]

def encodeComparisonView (hash : Blake3) (value : ComparisonViewV1) : Except ContractError Bytes :=
  codec.encodeTop typeComparisonView [
    callUtf8 1 value.schema,
    callUtf8 2 value.profileId,
    callBytes 3 value.profileDigest.val,
    callBytes 4 value.shapeKey.val,
    callBytes 5 value.requestKey.val,
    callObject 6 (encodeInvocation value.invocation),
    callBytes 7 value.workspaceIdentity.val,
    callObject 8 (encodeEnvironment value.environment),
    callObject 9 (encodeComparisonSnapshot value.sealedSnapshot),
    callObject 10 (encodeComparisonPlatform value.platform),
    callObject 11 (encodeTrace value.trace),
    callList 12 (value.observations.mapM encodeObservation),
    callList 13 (value.ambientEvents.mapM encodeAmbient),
    callList 14 (value.orderedEffects.mapM encodeEffect),
    callBytes 15 value.finalWorkspaceRoot.val,
    callObject 16 (encodeResult value.result),
    do callBytes 17 (← value.shape.canonicalBytes hash),
    do callBytes 18 (← value.observationClosure.canonicalBytes)]

def comparisonRulesBytes : Except ContractError Bytes :=
  codec.encodeTop typeComparisonRules [callBytes 1 comparisonRuleVersion, callList 2 (pure comparisonExclusions)]

end Canonical

def EffectRecordV2.comparisonViewBytes (hash : Blake3) (record : EffectRecordV2) : Except ContractError Bytes := do
  record.validate hash
  encodeComparisonView hash record.comparisonView

/-! ## The bytes determine the view -/

namespace Canonical

variable {bytes : Bytes}

/-- Both calls write the same field. -/
def SameCall (left right : Call) : Prop := ∃ field, left = .ok field ∧ right = .ok field

variable {tag : UInt16} {wireType : WireType}

@[simp] theorem sameCall_field {payload payload' : Bytes} :
    SameCall (callField tag wireType payload) (callField tag wireType payload') ↔ payload = payload' := by
  constructor
  · rintro ⟨_, ⟨⟩, ⟨⟩⟩
    rfl
  · rintro rfl
    exact ⟨_, rfl, rfl⟩

@[simp] theorem sameCall_object :
    SameCall (callObject tag value) (callObject tag value') ↔ ∃ nested, value = .ok nested ∧ value' = .ok nested := by
  simp [SameCall]

@[simp] theorem sameCall_list {items items' : Except ContractError (List Bytes)} :
    SameCall (callList tag items) (callList tag items') ↔
      ∃ payload, (∃ xs, items = .ok xs ∧ codec.encodeList xs = .ok payload) ∧
        ∃ ys, items' = .ok ys ∧ codec.encodeList ys = .ok payload := by
  constructor
  · rintro ⟨field, hleft, hright⟩
    obtain ⟨xs, hitems, payload, hlist, rfl⟩ := callList_eq_ok.mp hleft
    obtain ⟨ys, hitems', payload', hlist', heq⟩ := callList_eq_ok.mp hright
    cases heq
    exact ⟨payload, ⟨xs, hitems, hlist⟩, ys, hitems', hlist'⟩
  · rintro ⟨payload, ⟨xs, hitems, hlist⟩, ys, hitems', hlist'⟩
    exact ⟨_, callList_eq_ok.mpr ⟨xs, hitems, payload, hlist, rfl⟩, callList_eq_ok.mpr ⟨ys, hitems', payload, hlist', rfl⟩⟩

@[simp] theorem sameCall_bytes_bind :
    SameCall (do callBytes tag (← value)) (do callBytes tag (← value')) ↔
      ∃ payload, value = .ok payload ∧ value' = .ok payload := by
  simp [SameCall, callBytes]

/-- Encodings with the same bytes were written by the same calls. -/
theorem sameCalls_of_encodeNested {typeId : UInt16} {left right : List Call}
    (hleft : codec.encodeNested typeId left = .ok bytes) (hright : codec.encodeNested typeId right = .ok bytes) :
    List.Forall₂ SameCall left right := by
  obtain ⟨fields, hfields, hparse⟩ := Codec.parseNested_encodeNested hleft
  obtain ⟨fields', hfields', hparse'⟩ := Codec.parseNested_encodeNested hright
  rw [hparse] at hparse'
  cases hparse'
  clear hleft hright hparse
  induction hfields generalizing right with
  | nil =>
    cases hfields'
    exact .nil
  | cons hcall _ ih =>
    obtain ⟨call', rest', hcall', hrest', rfl⟩ := List.forall₂_cons_right_iff.mp hfields'
    exact .cons ⟨_, hcall, hcall'⟩ (ih hrest')

theorem sameCalls_of_encodeTop {typeId : UInt16} {left right : List Call}
    (hleft : codec.encodeTop typeId left = .ok bytes) (hright : codec.encodeTop typeId right = .ok bytes) :
    List.Forall₂ SameCall left right := by
  obtain ⟨-, nested, hstrip, hnested⟩ := Codec.strip_encodeTop hleft
  obtain ⟨-, nested', hstrip', hnested'⟩ := Codec.strip_encodeTop hright
  rw [hstrip] at hstrip'
  cases hstrip'
  exact sameCalls_of_encodeNested hnested hnested'

/-- A field that holds an encoded value determines it. -/
theorem object_injective {α : Type} {encode : α → Except ContractError Bytes} {decode : Bytes → Except ContractError α}
    (h : ReadsBack encode decode) {left right : α}
    (hcall : SameCall (callObject tag (encode left)) (callObject tag (encode right))) :
    left = right := by
  obtain ⟨nested, hleft, hright⟩ := sameCall_object.mp hcall
  exact h.injective hleft hright

theorem list_injective {α : Type} {encode : α → Except ContractError Bytes} {decode : Bytes → Except ContractError α}
    (h : ReadsBack encode decode) {left right : List α}
    (hcall : SameCall (callList tag (left.mapM encode)) (callList tag (right.mapM encode))) : left = right := by
  obtain ⟨payload, ⟨items, hitems, hleft⟩, items', hitems', hright⟩ := sameCall_list.mp hcall
  have hread := Codec.decodeList_encodeList hleft
  rw [Codec.decodeList_encodeList hright] at hread
  cases hread
  have hdecoded := mapM_inverse (fun value _ bytes => h value bytes) hitems
  rw [mapM_inverse (fun value _ bytes => h value bytes) hitems'] at hdecoded
  exact (Except.ok.inj hdecoded).symm

theorem encodeComparisonSnapshot_injective {left right : ComparisonSnapshotV1}
    (hleft : encodeComparisonSnapshot left = .ok bytes) (hright : encodeComparisonSnapshot right = .ok bytes) :
    left = right := by
  have hcalls := sameCalls_of_encodeNested hleft hright
  simp only [List.forall₂_cons, List.forall₂_nil_right_iff, callBytes, sameCall_field, Subtype.val_inj] at hcalls
  obtain ⟨hworkspace, hruntime, hblob, hprofile, -⟩ := hcalls
  have hmanifest := object_injective decodeBlob_encode hblob
  cases left
  cases right
  simp_all

theorem encodeComparisonPlatform_injective {left right : ComparisonPlatformV1}
    (hleft : encodeComparisonPlatform left = .ok bytes) (hright : encodeComparisonPlatform right = .ok bytes) :
    left = right := by
  have hcalls := sameCalls_of_encodeNested hleft hright
  simp only [List.forall₂_cons, List.forall₂_nil_right_iff, callBytes, sameCall_field, Subtype.val_inj] at hcalls
  obtain ⟨harchitecture, hkernel, hcapability, hnamespace, hpolicies, -⟩ := hcalls
  simp only [SameCall] at harchitecture
  obtain ⟨payload, hleftCode, hrightCode⟩ := harchitecture
  have hdigests := object_injective decodePolicyDigests_encode hpolicies
  cases left
  cases right
  simp_all

theorem encodeComparisonView_injective {hash : Blake3} {left right : ComparisonViewV1}
    (hleft : encodeComparisonView hash left = .ok bytes) (hright : encodeComparisonView hash right = .ok bytes) :
    left = right := by
  have hcalls := sameCalls_of_encodeTop hleft hright
  simp only [List.forall₂_cons, List.forall₂_nil_right_iff, callUtf8, sameCall_bytes_bind] at hcalls
  simp only [callBytes, sameCall_field, Subtype.val_inj] at hcalls
  obtain ⟨hschema, hprofileId, hprofile, hshapeKey, hrequestKey, hinvocation, hworkspace, henvironment, hsnapshot,
    hplatform, htrace, hobservations, hambient, heffects, hfinal, hresult, ⟨_, hshape, hshape'⟩,
    ⟨_, hclosure, hclosure'⟩, -⟩ := hcalls
  obtain ⟨_, hleftSnapshot, hrightSnapshot⟩ := sameCall_object.mp hsnapshot
  obtain ⟨_, hleftPlatform, hrightPlatform⟩ := sameCall_object.mp hplatform
  cases left
  cases right
  simp only [ComparisonViewV1.mk.injEq]
  exact ⟨utf8_injective hschema, utf8_injective hprofileId, hprofile, hshapeKey, hrequestKey,
    object_injective decodeInvocation_encode hinvocation, hworkspace,
    object_injective decodeEnvironment_encode henvironment,
    encodeComparisonSnapshot_injective hleftSnapshot hrightSnapshot,
    encodeComparisonPlatform_injective hleftPlatform hrightPlatform,
    object_injective readTrace_encode htrace, list_injective decodeObservation_encode hobservations,
    list_injective decodeAmbient_encode hambient, list_injective decodeEffect_encode heffects,
    hfinal, object_injective decodeResult_encode hresult, (shape_readsBack hash).injective hshape hshape',
    closure_readsBack.injective hclosure hclosure'⟩

end Canonical

/-! ## What two runs may differ in -/

/-- The record, with the fields the view leaves out taken from `other`. -/
def EffectRecordV2.withLifecycleOf (record other : EffectRecordV2) : EffectRecordV2 :=
  { record with
    recordId := other.recordId
    sealedSnapshot := { record.sealedSnapshot with snapshotId := other.sealedSnapshot.snapshotId }
    platform := { record.platform with namespaceIds := other.platform.namespaceIds }
    disposition := other.disposition
    dispositionReason := other.dispositionReason
    primaryRecordId := other.primaryRecordId
    createdMonotonicNs := other.createdMonotonicNs }

theorem EffectRecordV2.comparisonView_eq_iff :
    left.comparisonView = right.comparisonView ↔ left.withLifecycleOf right = right := by
  obtain ⟨schema', _, profileId', profileDigest', shapeKey', requestKey', invocation', workspaceIdentity', environment',
    ⟨⟩, ⟨⟩, trace', observations', ambientEvents', orderedEffects', finalRoot', result', _, _, _, _, shape', closure'⟩ :=
    right
  simp only [comparisonView, withLifecycleOf, ComparisonViewV1.mk.injEq, ComparisonSnapshotV1.mk.injEq,
    ComparisonPlatformV1.mk.injEq, mk.injEq, SealedSnapshotIdentityV2.mk.injEq,
    PlatformIdentityV2.mk.injEq, true_and]

theorem EffectRecordV2.comparisonViewBytes_eq_iff {hash : Blake3} {bytes bytes' : Bytes}
    (hleft : left.comparisonViewBytes hash = .ok bytes) (hright : right.comparisonViewBytes hash = .ok bytes') :
    bytes = bytes' ↔ left.withLifecycleOf right = right := by
  obtain ⟨-, -, hleft⟩ := bind_eq_ok.mp hleft
  obtain ⟨-, -, hright⟩ := bind_eq_ok.mp hright
  rw [← comparisonView_eq_iff]
  constructor
  · rintro rfl
    exact encodeComparisonView_injective hleft hright
  · intro h
    rw [h, hright] at hleft
    exact (Except.ok.inj hleft).symm

/-! ## Candidates -/

/-- The blob reference of a stored object. -/
def blobRef (hash : Blake3) (bytes : Bytes) : Except ContractError BlobRefV2 := do
  let byteCount ← u64Length .canonicalEncoding bytes.length
  pure ⟨derive hash casObjectDomain [bytes], byteCount⟩

/-- What `from_record` builds. -/
structure CanonicalEffectRecordV2 (hash : Blake3) where
  record : EffectRecordV2
  canonicalBytes : Bytes
  recordBlob : BlobRefV2
  encoded : record.canonicalBytes hash = .ok canonicalBytes
  addressed : blobRef hash canonicalBytes = .ok recordBlob

/-- What `from_manifest` builds. -/
structure VerifiedSnapshotManifestV1 (hash : Blake3) where
  manifest : SnapshotManifestV1
  canonicalBytes : Bytes
  blob : BlobRefV2
  encoded : manifest.canonicalBytes hash = .ok canonicalBytes
  addressed : blobRef hash canonicalBytes = .ok blob

section

variable {hash : Blake3}

def VerifiedSnapshotManifestV1.matchesIdentity (manifest : VerifiedSnapshotManifestV1 hash)
    (identity : SealedSnapshotIdentityV2) : Bool :=
  manifest.blob == identity.manifestBlob && manifest.manifest.workspaceRoot == identity.workspaceRoot &&
    manifest.manifest.runtimeRoot == identity.runtimeRoot && manifest.manifest.profileDigest == identity.profileDigest

/-- The checks of `VerifiedCandidateRecordV2::new`. -/
def verifyCandidate (canonical : CanonicalEffectRecordV2 hash) (manifest : VerifiedSnapshotManifestV1 hash) :
    Except ContractError Unit := do
  let record := canonical.record
  let executableChain ← decodeExecutableChain record.shape.executableChainWitness
  malformedRecordIf (record.isCompleteCandidate hash = false ∨ manifest.matchesIdentity record.sealedSnapshot = false ∨
    manifest.manifest.workspaceIdentity ≠ record.workspaceIdentity ∨
    manifest.manifest.profileDigest ≠ record.profileDigest ∨
    manifest.manifest.workspaceRoot ≠ record.sealedSnapshot.workspaceRoot ∨
    manifest.manifest.runtimeRoot ≠ record.sealedSnapshot.runtimeRoot)
  executableChain.validateAgainstManifest hash manifest.manifest

end

/-- Promotion takes only this type. -/
structure VerifiedCandidateRecordV2 (hash : Blake3) where
  canonical : CanonicalEffectRecordV2 hash
  manifest : VerifiedSnapshotManifestV1 hash
  verified : verifyCandidate canonical manifest = .ok ()

section

variable {hash : Blake3}

abbrev VerifiedCandidateRecordV2.record (candidate : VerifiedCandidateRecordV2 hash) : EffectRecordV2 :=
  candidate.canonical.record

def pairComparisonDigest (primary shadow : VerifiedCandidateRecordV2 hash) :
    Except ContractError PairComparisonDigest := do
  rejectIf (primary.record.disposition ≠ .primaryCandidate ∨ shadow.record.disposition ≠ .shadowCandidate ∨
    primary.record.isCompleteCandidate hash = false ∨ shadow.record.isCompleteCandidate hash = false ∨
    primary.record.recordId = shadow.record.recordId ∨
    shadow.record.primaryRecordId ≠ some primary.record.recordId ∨
    primary.canonical.recordBlob.digest = shadow.canonical.recordBlob.digest) .comparisonMismatch
  let primaryView ← primary.record.comparisonViewBytes hash
  let shadowView ← shadow.record.comparisonViewBytes hash
  rejectIf (primaryView ≠ shadowView) .comparisonMismatch
  let rules ← comparisonRulesBytes
  let rulesDigest := derive hash effectIrV2ComparisonRulesDomain [rules]
  let viewDigest := derive hash effectIrV2ComparisonViewDomain [primaryView]
  pure (deriveTagged hash effectIrV2ComparisonDomain [
    (1, rulesDigest.val), (2, primary.canonical.recordBlob.digest.val), (3, shadow.canonical.recordBlob.digest.val),
    (4, viewDigest.val), (5, viewDigest.val)])

/-- What a compared pair is. -/
structure Compared (primary shadow : VerifiedCandidateRecordV2 hash) : Prop where
  isPrimary : primary.record.disposition = .primaryCandidate
  isShadow : shadow.record.disposition = .shadowCandidate
  distinct : primary.record.recordId ≠ shadow.record.recordId
  names : shadow.record.primaryRecordId = some primary.record.recordId
  agrees : primary.record.withLifecycleOf shadow.record = shadow.record

theorem compared_of_digest {primary shadow : VerifiedCandidateRecordV2 hash} {digest : PairComparisonDigest}
    (h : pairComparisonDigest primary shadow = .ok digest) : Compared primary shadow := by
  simp only [pairComparisonDigest, bind_eq_ok, exists_unit, rejectIf_eq_ok, not_or, not_not] at h
  obtain ⟨⟨hprimary, hshadow, -, -, hdistinct, hnames, -⟩, view, hview, view', hview', hsame, -⟩ := h
  exact ⟨hprimary, hshadow, hdistinct, hnames, (comparisonViewBytes_eq_iff hview hview').mp hsame⟩

end

theorem comparison_view_agrees (hash : Blake3) :
    (∀ (left right : EffectRecordV2) (bytes bytes' : Bytes), left.comparisonViewBytes hash = .ok bytes →
      right.comparisonViewBytes hash = .ok bytes' → (bytes = bytes' ↔ left.withLifecycleOf right = right)) ∧
    ∀ (primary shadow : VerifiedCandidateRecordV2 hash) (digest : PairComparisonDigest),
      pairComparisonDigest primary shadow = .ok digest →
        primary.record.observations = shadow.record.observations ∧
        primary.record.ambientEvents = shadow.record.ambientEvents ∧
        primary.record.orderedEffects = shadow.record.orderedEffects ∧ primary.record.trace = shadow.record.trace ∧
        primary.record.result = shadow.record.result ∧
        primary.record.finalWorkspaceRoot = shadow.record.finalWorkspaceRoot ∧
        primary.record.shape = shadow.record.shape ∧
        primary.record.observationClosure = shadow.record.observationClosure ∧
        primary.record.withLifecycleOf shadow.record = shadow.record := by
  refine ⟨fun left right bytes bytes' => EffectRecordV2.comparisonViewBytes_eq_iff, ?_⟩
  intro primary shadow digest h
  have hagrees := (compared_of_digest h).agrees
  refine ⟨?_, ?_, ?_, ?_, ?_, ?_, ?_, ?_, hagrees⟩ <;> rw [← hagrees] <;> rfl

/-! ## A pair -/

def sampleManifestBlob : BlobRefV2 := ⟨Octets.fill 32 241, 2875⟩

theorem sampleManifest_verified : sampleManifest.validate sampleHash = .ok () ∧
    ∃ manifest : VerifiedSnapshotManifestV1 sampleHash, manifest.manifest = sampleManifest ∧
      manifest.blob = sampleManifestBlob := by
  have hvalid : sampleManifest.validate sampleHash = .ok () := by decide +kernel
  have hbytes : okAnd (encodeSnapshotManifest sampleManifest)
      (fun bytes => decide (blobRef sampleHash bytes = .ok sampleManifestBlob)) = true := by
    rw [encodeSnapshotManifest, funext encodeTree_eq]
    decide +kernel
  obtain ⟨bytes, hencode, hblob⟩ := okAnd_eq_true hbytes
  have hcanonical : sampleManifest.canonicalBytes sampleHash = .ok bytes := by
    simp [SnapshotManifestV1.canonicalBytes, hvalid, hencode]
  exact ⟨hvalid, ⟨sampleManifest, bytes, sampleManifestBlob, hcanonical, of_decide_eq_true hblob⟩, rfl, rfl⟩

/-- The run again: another record in other namespaces, naming the first. -/
def shadowRecord : EffectRecordV2 :=
  { onceRecord with
    recordId := Octets.fill 16 2
    sealedSnapshot := { onceRecord.sealedSnapshot with snapshotId := Octets.fill 16 5 }
    platform := { onceRecord.platform with namespaceIds := ⟨11, 12, 13, 14, 15, 16⟩ }
    disposition := .shadowCandidate
    primaryRecordId := some (Octets.fill 16 1)
    createdMonotonicNs := 2 }

theorem sampleRecords_complete : shadowRecord.validate sampleHash = .ok () ∧
    onceRecord.isCompleteCandidate sampleHash = true ∧ shadowRecord.isCompleteCandidate sampleHash = true := by
  have hshadow : shadowRecord.validate sampleHash = .ok () := by decide +kernel
  refine ⟨hshadow, ?_⟩
  decide +kernel

theorem sampleRecord_candidate {record : EffectRecordV2} (blob : BlobRefV2) (hvalid : record.validate sampleHash = .ok ())
    (hcomplete : record.isCompleteCandidate sampleHash = true)
    (hshape : record.shape = sampleShape) (hsnapshot : record.sealedSnapshot.manifestBlob = sampleManifestBlob)
    (hroots : record.sealedSnapshot.workspaceRoot = sampleManifest.workspaceRoot ∧
      record.sealedSnapshot.runtimeRoot = sampleManifest.runtimeRoot ∧
      record.sealedSnapshot.profileDigest = sampleManifest.profileDigest ∧
      record.workspaceIdentity = sampleManifest.workspaceIdentity ∧ record.profileDigest = sampleManifest.profileDigest)
    (hblob : okAnd (encodeRecord sampleHash record) (fun bytes => decide (blobRef sampleHash bytes = .ok blob)) =
      true) :
    ∃ candidate : VerifiedCandidateRecordV2 sampleHash, candidate.record = record ∧
      candidate.canonical.recordBlob = blob := by
  obtain ⟨bytes, hencode, hblob⟩ := okAnd_eq_true hblob
  have hcanonical : record.canonicalBytes sampleHash = .ok bytes := by simp [canonicalBytes, hvalid, hencode]
  obtain ⟨hsample, manifest, hmanifest, hmanifestBlob⟩ := sampleManifest_verified
  let canonical : CanonicalEffectRecordV2 sampleHash := ⟨record, bytes, blob, hcanonical, of_decide_eq_true hblob⟩
  have hchain : decodeExecutableChain sampleShape.executableChainWitness = .ok sampleChain := by decide +kernel
  have hwalk : sampleChain.validate = .ok () ∧ sampleChain.hops.forM (checkHopEntry sampleManifest) = .ok () := by
    decide +kernel
  have hverified : verifyCandidate canonical manifest = .ok () := by
    simp only [verifyCandidate, canonical, hshape, hchain, ok_bind, bind_eq_ok, exists_unit, malformedRecordIf_eq_ok,
      ExecutableChainV1.validateAgainstManifest, hmanifest, hsample, hwalk, and_true, not_or,
      VerifiedSnapshotManifestV1.matchesIdentity, hmanifestBlob, hsnapshot, hroots, ne_eq, not_true_eq_false,
      not_false_eq_true, beq_self_eq_true, Bool.and_self, Bool.true_eq_false]
    simp [hcomplete]
  exact ⟨⟨canonical, manifest, hverified⟩, rfl, rfl⟩

theorem samplePair_candidates : ∃ primary shadow : VerifiedCandidateRecordV2 sampleHash,
    primary.record = onceRecord ∧ shadow.record = shadowRecord ∧
      primary.canonical.recordBlob.digest ≠ shadow.canonical.recordBlob.digest := by
  obtain ⟨hvalid, hcomplete, hcomplete'⟩ := sampleRecords_complete
  obtain ⟨primary, hprimary, hblob⟩ := sampleRecord_candidate ⟨Octets.fill 32 222, 4675⟩ onceRecord_validate
    hcomplete rfl rfl ⟨rfl, rfl, rfl, rfl, rfl⟩ (by decide +kernel)
  obtain ⟨shadow, hshadow, hblob'⟩ := sampleRecord_candidate ⟨Octets.fill 32 189, 4699⟩ hvalid
    hcomplete' rfl rfl ⟨rfl, rfl, rfl, rfl, rfl⟩ (by decide +kernel)
  exact ⟨primary, shadow, hprimary, hshadow, by rw [hblob, hblob']; decide⟩

theorem sampleView_encodes : (∃ rules, comparisonRulesBytes = .ok rules) ∧
    ∃ bytes, onceRecord.comparisonViewBytes sampleHash = .ok bytes ∧
      shadowRecord.comparisonViewBytes sampleHash = .ok bytes := by
  have hencodes : (encodeComparisonView sampleHash onceRecord.comparisonView).toBool = true := by decide +kernel
  obtain ⟨bytes, hbytes⟩ := ok_of_toBool hencodes
  have hsame : shadowRecord.comparisonView = onceRecord.comparisonView := by
    simp only [shadowRecord, comparisonView]
  refine ⟨ok_of_toBool (by decide +kernel), bytes, ?_, ?_⟩
  · simp [comparisonViewBytes, onceRecord_validate, hbytes]
  · simp [comparisonViewBytes, sampleRecords_complete, hsame, hbytes]

theorem samplePair_compared {primary shadow : VerifiedCandidateRecordV2 sampleHash} (hprimary : primary.record = onceRecord)
    (hshadow : shadow.record = shadowRecord)
    (hblobs : primary.canonical.recordBlob.digest ≠ shadow.canonical.recordBlob.digest) :
    ∃ digest, pairComparisonDigest primary shadow = .ok digest := by
  obtain ⟨⟨rules, hrules⟩, view, hview, hview'⟩ := sampleView_encodes
  obtain ⟨-, hcomplete⟩ := sampleRecords_complete
  have hids : onceRecord.recordId ≠ shadowRecord.recordId := by decide
  simp only [pairComparisonDigest, hprimary, hshadow, hcomplete, hview, hview', hrules, ok_bind, bind_eq_ok, exists_unit,
    rejectIf_eq_ok, not_or, ne_eq, hids, hblobs, not_true_eq_false, not_false_eq_true, Bool.true_eq_false, true_and,
    and_true, not_not]
  exact ⟨_, ⟨rfl, rfl, rfl⟩, rfl⟩

theorem comparison_view_agrees_pair :
    (∃ bytes bytes', onceRecord.comparisonViewBytes sampleHash = .ok bytes ∧
      shadowRecord.comparisonViewBytes sampleHash = .ok bytes' ∧ bytes = bytes') ∧
    ∃ (primary shadow : VerifiedCandidateRecordV2 sampleHash) (digest : PairComparisonDigest),
      pairComparisonDigest primary shadow = .ok digest ∧
        primary.record.observations = shadow.record.observations := by
  obtain ⟨hview, hpair⟩ := comparison_view_agrees sampleHash
  refine ⟨?_, ?_⟩
  · obtain ⟨-, bytes, hbytes, hbytes'⟩ := sampleView_encodes
    exact ⟨bytes, bytes, hbytes, hbytes', (hview _ _ _ _ hbytes hbytes').mpr rfl⟩
  · obtain ⟨primary, shadow, hprimary, hshadow, hblobs⟩ := samplePair_candidates
    obtain ⟨digest, hdigest⟩ := samplePair_compared hprimary hshadow hblobs
    exact ⟨primary, shadow, digest, hdigest, (hpair primary shadow digest hdigest).1⟩

end Again.Pytest
