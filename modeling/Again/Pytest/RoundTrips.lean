import Again.Pytest.RecordCodec
import Again.Pytest.RequestKeys

/-!
# Canonical bytes

Every value with canonical bytes is read back from them by `from_canonical_bytes`,
so the bytes of two different values differ.
-/

namespace Again.Pytest

open Lib Canonical

def SnapshotManifestV1.canonicalBytes (hash : Blake3) (manifest : SnapshotManifestV1) : Except ContractError Bytes := do
  manifest.validate hash
  encodeSnapshotManifest manifest

section
variable {α : Type} {encode : α → Except ContractError Bytes} {decode : Bytes → Except ContractError α}

theorem ReadsBack.of_encodes (h : ReadsBack encode decode) {value : α}
    (hok : (encode value).toBool = true) : ∃ bytes, encode value = .ok bytes ∧ decode bytes = .ok value := by
  obtain ⟨bytes, hbytes⟩ := ok_of_toBool hok
  exact ⟨bytes, hbytes, h _ _ hbytes⟩

/-- A canonical encoding validates first. -/
theorem ReadsBack.of_valid {validate : α → Except ContractError Unit}
    (h : ∀ value bytes, validate value = .ok () → encode value = .ok bytes → decode bytes = .ok value) :
    ReadsBack (fun value => do validate value; encode value) decode := by
  intro value bytes hbytes
  obtain ⟨⟨⟩, hvalid, hencode⟩ := bind_eq_ok.mp hbytes
  exact h value bytes hvalid hencode

end

theorem record_readsBack (hash : Blake3) : ReadsBack (EffectRecordV2.canonicalBytes hash) (decodeRecord hash) :=
  .of_valid fun _ _ => decodeRecord_encode

theorem manifest_readsBack (hash : Blake3) :
    ReadsBack (SnapshotManifestV1.canonicalBytes hash) (decodeSnapshotManifest hash) :=
  .of_valid fun _ _ => decodeSnapshotManifest_encode hash

theorem shape_readsBack (hash : Blake3) : ReadsBack (ShapeV1.canonicalBytes hash) (decodeShape hash) :=
  .of_valid fun _ _ => decodeShape_encode hash

theorem closure_readsBack : ReadsBack ObservationClosureV1.canonicalBytes decodeObservationClosure :=
  .of_valid fun _ _ => decodeObservationClosure_encode

theorem canonical_bytes_read_back (hash : Blake3) :
    (∀ value bytes, EffectRecordV2.canonicalBytes hash value = .ok bytes → decodeRecord hash bytes = .ok value) ∧
    (∀ value bytes, SnapshotManifestV1.canonicalBytes hash value = .ok bytes →
      decodeSnapshotManifest hash bytes = .ok value) ∧
    (∀ value bytes, ShapeV1.canonicalBytes hash value = .ok bytes → decodeShape hash bytes = .ok value) ∧
    (∀ value bytes, ObservationClosureV1.canonicalBytes value = .ok bytes → decodeObservationClosure bytes = .ok value) ∧
    (∀ value bytes, encodeObservationDetailTop value = .ok bytes → decodeObservationDetailTop bytes = .ok value) ∧
    (∀ left right bytes, EffectRecordV2.canonicalBytes hash left = .ok bytes →
      EffectRecordV2.canonicalBytes hash right = .ok bytes → left = right) ∧
    (∀ left right bytes, SnapshotManifestV1.canonicalBytes hash left = .ok bytes →
      SnapshotManifestV1.canonicalBytes hash right = .ok bytes → left = right) ∧
    (∀ left right bytes, ShapeV1.canonicalBytes hash left = .ok bytes → ShapeV1.canonicalBytes hash right = .ok bytes →
      left = right) ∧
    (∀ left right bytes, ObservationClosureV1.canonicalBytes left = .ok bytes →
      ObservationClosureV1.canonicalBytes right = .ok bytes → left = right) ∧
    ∀ left right bytes, encodeObservationDetailTop left = .ok bytes → encodeObservationDetailTop right = .ok bytes →
      left = right :=
  ⟨record_readsBack hash, manifest_readsBack hash, shape_readsBack hash, closure_readsBack,
    decodeObservationDetailTop_encode,
    fun _ _ _ => (record_readsBack hash).injective, fun _ _ _ => (manifest_readsBack hash).injective,
    fun _ _ _ => (shape_readsBack hash).injective, fun _ _ _ => closure_readsBack.injective,
    fun _ _ _ => decodeObservationDetailTop_encode.injective⟩

/-- Two empty directories. -/
def bareManifest : SnapshotManifestV1 where
  schema := snapshotManifestV1Schema
  profileDigest := Octets.fill 32 1
  workspaceIdentity := Octets.fill 32 2
  workspaceTree := ⟨workspacePath, .workspace, [directoryEntry "" []], kindDigest .directory⟩
  runtimeTrees := [detourRuntime]
  workspaceRoot := domainHash workspaceMerkleDomain []
  runtimeRoot := domainHash runtimeMerkleDomain []

theorem canonical_bytes_read_back_once :
    (∃ bytes, onceRecord.canonicalBytes sampleHash = .ok bytes ∧ decodeRecord sampleHash bytes = .ok onceRecord) ∧
    (∃ bytes, bareManifest.canonicalBytes sampleHash = .ok bytes ∧
      decodeSnapshotManifest sampleHash bytes = .ok bareManifest) ∧
    (∃ bytes, sampleShape.canonicalBytes sampleHash = .ok bytes ∧ decodeShape sampleHash bytes = .ok sampleShape) ∧
    (∃ bytes, onceRecord.observationClosure.canonicalBytes = .ok bytes ∧
      decodeObservationClosure bytes = .ok onceRecord.observationClosure) ∧
    ∃ bytes, encodeObservationDetailTop sampleDetail = .ok bytes ∧ decodeObservationDetailTop bytes = .ok sampleDetail := by
  obtain ⟨hrecord, hmanifest, hshape, hclosure, hdetail, -⟩ := canonical_bytes_read_back sampleHash
  refine ⟨?_, ?_, ?_, ?_, ?_⟩
  · exact ReadsBack.of_encodes hrecord (by decide +kernel)
  · exact ReadsBack.of_encodes hmanifest (by decide +kernel)
  · exact ReadsBack.of_encodes hshape (by decide +kernel)
  · exact ReadsBack.of_encodes hclosure (by decide +kernel)
  · exact ReadsBack.of_encodes hdetail (by decide +kernel)

end Again.Pytest
