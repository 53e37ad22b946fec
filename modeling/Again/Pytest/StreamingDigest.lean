import Again.Pytest.ManifestBytes
import Again.Pytest.ManifestValidate

/-!
# Streaming into the sink and into the hasher

`canonical.rs`: the same writers feed a caller's sink and, behind tagged field
headers, a BLAKE3 hasher. Where the length pass returns, the bytes handed over
are the layout of `ManifestBytes`; where it fails, nothing is handed over. The
streaming node digest is `computeManifestNodeDigest` on every input.
-/

namespace Again.Pytest.Canonical

open Lib

variable {domain : String} {build : Except ContractError Bytes} {fields : List (UInt16 × Bytes)} {n : Nat}
  {first payload : Bytes} {hardlinkGroup : Option HardlinkGroupDigest} {length : Except ContractError Nat}
  {count : UInt32}

/-! ## The caller's sink -/

section Public

variable {S E : Type} [ByteSink S E]

theorem FilledTo.returns {write : ManifestWriterM S E Unit} {bytes : Bytes} (h : FilledTo n build write bytes)
    (haccepts : Accepting S) (sink : S) : ∃ after, write ⟨sink, 0⟩ = .ok () ⟨after, n⟩ ∧ Took sink bytes after := by
  obtain ⟨-, rfl, hbounded, hfills⟩ := h
  have hlt := maxBytes_lt
  obtain ⟨after, hwrite, htook⟩ := hfills.returns (s := ⟨sink, 0⟩) (by simp; omega) (haccepts.not_refused sink bytes)
  rw [Nat.zero_add] at hwrite
  exact ⟨after, hwrite, htook⟩

omit [ByteSink S E] in
theorem writeChecked_error {e : ContractError} (hlength : length = .error e) (write : ManifestWriterM S E Unit)
    (sink : S) : writeChecked length write sink = .error (.canonical e) sink := by
  subst hlength
  rfl

theorem writeChecked_ok {write : ManifestWriterM S E Unit} {bytes : Bytes} (h : Filled length build write bytes)
    (hlength : length = .ok n) (haccepts : Accepting S) (sink : S) :
    ∃ after, writeChecked length write sink = .ok n after ∧ ByteSink.contents after = ByteSink.contents sink ++ bytes := by
  obtain ⟨after, hwrite, htook⟩ := (h n hlength).returns haccepts sink
  refine ⟨after, ?_, htook.contents⟩
  subst hlength
  have hcount : countWritten write sink = .ok n after := by
    simp [countWritten, hwrite]
  apply bind_ok_iff.mpr
  refine ⟨n, sink, rfl, bind_ok_iff.mpr ⟨n, after, hcount, ?_⟩⟩
  simp [refuseIf]
  rfl

end Public

/-! ## The hasher -/

structure Hasher where
  domain : String
  input : Bytes

def Hasher.update (hasher : Hasher) (bytes : Bytes) : Hasher := { hasher with input := hasher.input ++ bytes }

def Hasher.finalize (hash : Blake3) (hasher : Hasher) : Digest := hash hasher.domain hasher.input

/-- `ManifestCanonicalHasherSinkV1`; its error type has no value. -/
instance : ByteSink Hasher Empty where
  tryExtend hasher bytes := .ok (hasher.update bytes)
  contents hasher := hasher.input
  contents_tryExtend h := by
    cases h
    rfl

theorem hasher_accepting : Accepting Hasher := fun hasher bytes => ⟨hasher.update bytes, rfl⟩

theorem took_hasher {hasher after : Hasher} {out : Bytes} (h : Took hasher out after) : after = hasher.update out := by
  induction h with
  | nil => simp [Hasher.update]
  | snoc _ hbytes ih =>
    cases hbytes
    rw [ih]
    simp [Hasher.update]

structure ManifestTaggedDigestV1 where
  hasher : Hasher
  declaredFieldCount : UInt32
  writtenFieldCount : UInt32
  previousTag : UInt16

namespace ManifestTaggedDigestV1

abbrev DigestM := EStateM ContractError ManifestTaggedDigestV1

def new (domain : String) (declaredFieldCount : UInt32) : ManifestTaggedDigestV1 :=
  { hasher := ((Hasher.mk domain []).update hashFrameMagic).update (be32 declaredFieldCount),
    declaredFieldCount := declaredFieldCount, writtenFieldCount := 0, previousTag := 0 }

def fieldHeader (tag : UInt16) (length : Nat) : DigestM Unit := do
  let digest ← get
  refuseIf (tag = 0 ∨ tag ≤ digest.previousTag ∨ digest.declaredFieldCount ≤ digest.writtenFieldCount) .canonicalEncoding
  let length ← attempt (u64Length .canonicalEncoding length)
  set { digest with hasher := (digest.hasher.update (be16 tag)).update (be64 length), previousTag := tag,
                    writtenFieldCount := digest.writtenFieldCount + 1 }

def bytes (bytes : Bytes) : DigestM Unit := modify fun digest => { digest with hasher := digest.hasher.update bytes }

def finish (hash : Blake3) (digest : ManifestTaggedDigestV1) : Except ContractError Digest := do
  rejectIf (digest.writtenFieldCount ≠ digest.declaredFieldCount) .canonicalEncoding
  pure (digest.hasher.finalize hash)

/-- Stream a manifest value into the hasher. -/
def writeToHasher (write : ManifestWriterM Hasher Empty Unit) : DigestM Unit := fun digest =>
  match write ⟨digest.hasher, 0⟩ with
  | .ok _ writer => .ok () { digest with hasher := writer.sink }
  | .error (.canonical error) writer => .error error { digest with hasher := writer.sink }
  | .error (.sink error) _ => nomatch error

def writeOptionalHardlinkDigest : Option HardlinkGroupDigest → DigestM Unit
  | none => bytes [0]
  | some hardlinkGroup => do
    bytes [1]
    bytes (be64 32)
    bytes hardlinkGroup.val

/-- The fields of the payload, after the metadata. -/
def streamPayload (payload : ManifestPayloadV1) (hardlinkGroup : Option HardlinkGroupDigest) : DigestM Unit :=
  match payload with
  | .directory children => do
    refuseIf (hardlinkGroup ≠ none) .malformedManifest
    let childrenLength ← attempt (manifestChildListCanonicalLength children)
    fieldHeader 2 childrenLength
    writeToHasher (writeManifestChildList children)
  | .regular contentDigest dataExtents => do
    let extentsLength ← attempt (manifestExtentListCanonicalLength dataExtents)
    fieldHeader 2 contentDigest.val.length
    bytes contentDigest.val
    fieldHeader 3 extentsLength
    writeToHasher (writeManifestExtentList dataExtents)
    fieldHeader 4 (if hardlinkGroup.isSome then 41 else 1)
    writeOptionalHardlinkDigest hardlinkGroup
  | .symlink target => do
    fieldHeader 2 target.length
    bytes target
    fieldHeader 3 (if hardlinkGroup.isSome then 41 else 1)
    writeOptionalHardlinkDigest hardlinkGroup
  | .externalTree treeRole targetRoot readonly => do
    refuseIf (readonly = false ∨ treeRole ≠ .runtime ∨ hardlinkGroup ≠ none) .malformedManifest
    fieldHeader 2 2
    bytes (be16 treeRole.code)
    fieldHeader 3 targetRoot.val.length
    bytes targetRoot.val
    fieldHeader 4 1
    bytes [1]

def streamNode (metadata : MetadataV1) (metadataLength : Nat) (payload : ManifestPayloadV1)
    (hardlinkGroup : Option HardlinkGroupDigest) : DigestM Unit := do
  fieldHeader 1 metadataLength
  writeToHasher (writeManifestMetadata metadata)
  streamPayload payload hardlinkGroup

end ManifestTaggedDigestV1

def nodeFieldCount : ManifestPayloadV1 → UInt32
  | .directory .. => 2
  | .regular .. => 4
  | .symlink .. => 3
  | .externalTree .. => 4

def nodeDomain : ManifestPayloadV1 → String
  | .directory .. => directoryNodeDomain
  | .regular .. => regularNodeDomain
  | .symlink .. => symlinkNodeDomain
  | .externalTree .. => externalTreeNodeDomain

def deriveManifestNodeDigestProjectionStreamingV1 (hash : Blake3) (metadata : MetadataV1) (payload : ManifestPayloadV1)
    (hardlinkGroup : Option HardlinkGroupDigest) : Except ContractError NodeDigest := do
  let metadataLength ← manifestMetadataCanonicalLength metadata
  let digest := ManifestTaggedDigestV1.new (nodeDomain payload) (nodeFieldCount payload)
  match ManifestTaggedDigestV1.streamNode metadata metadataLength payload hardlinkGroup digest with
  | .ok _ digest => digest.finish hash
  | .error error _ => throw error

/-! ## Field by field -/

namespace ManifestTaggedDigestV1

/-- The digest after `fields` of `count` were fed to it. -/
def fed (domain : String) (count : UInt32) (fields : List (UInt16 × Bytes)) : ManifestTaggedDigestV1 where
  hasher := ⟨domain, hashFrameMagic ++ be32 count ++
    fields.flatMap fun field => be16 field.1 ++ be64 (UInt64.ofNat field.2.length) ++ field.2⟩
  declaredFieldCount := count
  writtenFieldCount := UInt32.ofNat fields.length
  previousTag := (fields.getLast?.map (·.1)).getD 0

theorem new_eq_fed (domain : String) (count : UInt32) : new domain count = fed domain count [] := by
  simp [new, fed, Hasher.update]

/-- `feed` appends `payload` to the hashed input and changes nothing else. -/
def Feeds (feed : DigestM Unit) (payload : Bytes) : Prop :=
  ∀ digest, feed digest = .ok () { digest with hasher := digest.hasher.update payload }

theorem feeds_bytes (payload : Bytes) : Feeds (bytes payload) payload := fun _ => rfl

theorem feeds_writeToHasher {write : ManifestWriterM Hasher Empty Unit} (h : FilledTo n build write payload) :
    Feeds (writeToHasher write) payload := by
  intro digest
  obtain ⟨after, hwrite, htook⟩ := h.returns hasher_accepting digest.hasher
  simp [writeToHasher, hwrite, took_hasher htook]

theorem feeds_hardlink (hardlinkGroup : Option HardlinkGroupDigest) :
    Feeds (writeOptionalHardlinkDigest hardlinkGroup) (encodeOptionalDigest hardlinkGroup) := by
  intro digest
  cases hardlinkGroup with
  | none => rfl
  | some group =>
    have h : writeOptionalHardlinkDigest (some group) digest =
        .ok () { digest with hasher := ((digest.hasher.update [1]).update (be64 32)).update group.val } := rfl
    rw [h]
    simp [encodeOptionalDigest, Hasher.update]

theorem length_encodeOptionalDigest (hardlinkGroup : Option HardlinkGroupDigest) :
    (encodeOptionalDigest hardlinkGroup).length = if hardlinkGroup.isSome then 41 else 1 := by
  cases hardlinkGroup with
  | none => rfl
  | some group => simp [encodeOptionalDigest, group.property]

variable {feed : DigestM Unit}

/-- One field behind its header. -/
theorem stream_field {tag : UInt16} (hfeed : Feeds feed payload) (hlength : payload.length = n) (hsize : n < 2 ^ 64)
    (htag : (fields.getLast?.map (·.1)).getD 0 < tag) (hroom : UInt32.ofNat fields.length < count) :
    (do fieldHeader tag n; feed) (fed domain count fields) = .ok () (fed domain count (fields ++ [(tag, payload)])) := by
  subst hlength
  have hzero : tag ≠ 0 := by
    rintro rfl
    exact absurd htag UInt16.not_lt_zero
  have hheader : fieldHeader tag payload.length (fed domain count fields) = .ok ()
      { fed domain count fields with
        hasher := ((fed domain count fields).hasher.update (be16 tag)).update (be64 (UInt64.ofNat payload.length)),
        previousTag := tag, writtenFieldCount := UInt32.ofNat fields.length + 1 } := by
    apply eq_ok_of_runs
    simp only [fieldHeader, runs_bind, runs_get, runs_refuseIf, runs_attempt, runs_set, u64Length_ofNat hsize]
    refine ⟨?_, fun _ => ⟨by simp, ?_⟩⟩
    · rintro (h | h | h)
      · exact hzero h
      · exact absurd htag (UInt16.not_lt.mpr h)
      · exact absurd hroom (UInt32.not_lt.mpr h)
    · rintro length ⟨⟩
      exact ⟨trivial, rfl⟩
  apply bind_ok_iff.mpr
  refine ⟨_, _, hheader, ?_⟩
  rw [hfeed]
  simp [fed, Hasher.update]

theorem stream_field_bind {tag : UInt16} {rest : DigestM Unit} (hfeed : Feeds feed payload)
    (hlength : payload.length = n) (hsize : n < 2 ^ 64) (htag : (fields.getLast?.map (·.1)).getD 0 < tag)
    (hroom : UInt32.ofNat fields.length < count) :
    (do fieldHeader tag n; feed; rest) (fed domain count fields) =
    rest (fed domain count (fields ++ [(tag, payload)])) := by
  have hfield : (do fieldHeader tag n; feed) (fed domain count fields) = _ := stream_field hfeed hlength hsize htag hroom
  obtain ⟨_, t, hheader, hpayload⟩ := bind_ok_iff.mp hfield
  show EStateM.bind _ _ _ = _
  rw [EStateM.bind, hheader]
  show EStateM.bind _ _ _ = _
  rw [EStateM.bind, hpayload]

theorem finish_fed (hash : Blake3) (domain : String) (h : UInt32.ofNat fields.length = count) :
    (fed domain count fields).finish hash = .ok (deriveTagged hash domain fields) := by
  subst h
  simp [finish, fed, Hasher.finalize, deriveTagged, hashFrame]

end ManifestTaggedDigestV1

open ManifestTaggedDigestV1 in
theorem streamNode_new {metadata : MetadataV1} (hn : manifestMetadataCanonicalLength metadata = .ok n)
    (payload : ManifestPayloadV1) (hardlinkGroup : Option HardlinkGroupDigest) :
    streamNode metadata n payload hardlinkGroup (new (nodeDomain payload) (nodeFieldCount payload)) =
      streamPayload payload hardlinkGroup
        (fed (nodeDomain payload) (nodeFieldCount payload) [(1, metadataBytes metadata)]) := by
  have hfilled := filled_metadata (S := Hasher) metadata n hn
  have hlt := maxBytes_lt
  have hbounded := hfilled.bounded
  rw [new_eq_fed, streamNode]
  apply stream_field_bind (feeds_writeToHasher hfilled) hfilled.length (by omega) (by decide)
  cases payload <;> simp [nodeFieldCount]

open ManifestTaggedDigestV1 in
theorem streamPayload_directory {children : List ChildCommitmentV1}
    (hn : manifestChildListCanonicalLength children = .ok n) :
    streamPayload (.directory children) none (fed domain 2 [(1, first)]) =
      .ok () (fed domain 2 [(1, first), (2, childrenBytes children)]) := by
  have hfilled := filled_children (S := Hasher) children n hn
  have hlt := maxBytes_lt
  have hbounded := hfilled.bounded
  simp only [streamPayload, hn]
  exact stream_field (feeds_writeToHasher hfilled) hfilled.length (by omega) (by simp) (by simp)

open ManifestTaggedDigestV1 in
theorem streamPayload_regular {contentDigest : FileContentDigest} {dataExtents : List ExtentV1}
    (hn : manifestExtentListCanonicalLength dataExtents = .ok n) :
    streamPayload (.regular contentDigest dataExtents) hardlinkGroup (fed domain 4 [(1, first)]) =
      .ok () (fed domain 4 [(1, first), (2, contentDigest.val), (3, extentsBytes dataExtents),
        (4, encodeOptionalDigest hardlinkGroup)]) := by
  have hfilled := filled_extents (S := Hasher) dataExtents n hn
  have hlt := maxBytes_lt
  have hbounded := hfilled.bounded
  simp only [streamPayload, hn]
  apply (stream_field_bind (feeds_bytes contentDigest.val) rfl (by omega) (by simp) (by simp)).trans
  apply (stream_field_bind (feeds_writeToHasher hfilled) hfilled.length (by omega) (by simp) (by simp)).trans
  exact stream_field (feeds_hardlink hardlinkGroup) (length_encodeOptionalDigest hardlinkGroup)
    (by split <;> omega) (by simp) (by simp)

open ManifestTaggedDigestV1 in
theorem streamPayload_symlink {target : Bytes} (hsize : target.length < 2 ^ 64) :
    streamPayload (.symlink target) hardlinkGroup (fed domain 3 [(1, first)]) =
      .ok () (fed domain 3 [(1, first), (2, target), (3, encodeOptionalDigest hardlinkGroup)]) := by
  apply (stream_field_bind (feeds_bytes target) rfl hsize (by simp) (by simp)).trans
  exact stream_field (feeds_hardlink hardlinkGroup) (length_encodeOptionalDigest hardlinkGroup)
    (by split <;> omega) (by simp) (by simp)

open ManifestTaggedDigestV1 in
theorem streamPayload_externalTree {targetRoot : NodeDigest} :
    streamPayload (.externalTree .runtime targetRoot true) none (fed domain 4 [(1, first)]) =
      .ok () (fed domain 4 [(1, first), (2, be16 TreeRoleV1.runtime.code), (3, targetRoot.val), (4, [1])]) := by
  simp only [streamPayload, refuseIf, Bool.true_eq_false, ne_eq, not_true_eq_false, or_self, if_false, pure_bind]
  apply (stream_field_bind (feeds_bytes (be16 TreeRoleV1.runtime.code)) (length_be16 _) (by omega) (by simp)
    (by simp)).trans
  apply (stream_field_bind (feeds_bytes targetRoot.val) rfl (by omega) (by simp) (by simp)).trans
  exact stream_field (feeds_bytes [1]) rfl (by omega) (by simp) (by simp)

/-- The node digest streamed into the hasher is the one computed from owned encodings, errors included. -/
theorem deriveManifestNodeDigestProjectionStreamingV1_eq (hash : Blake3) (metadata : MetadataV1)
    (payload : ManifestPayloadV1) (hardlinkGroup : Option HardlinkGroupDigest)
    (hsize : ∀ target, payload = .symlink target → target.length < 2 ^ 64) :
    deriveManifestNodeDigestProjectionStreamingV1 hash metadata payload hardlinkGroup =
      computeManifestNodeDigest hash metadata payload hardlinkGroup := by
  cases hm : manifestMetadataCanonicalLength metadata with
  | error e =>
    simp only [deriveManifestNodeDigestProjectionStreamingV1, computeManifestNodeDigest, encodeMetadata_eq, hm]
    rfl
  | ok n =>
    have hencode : encodeMetadata metadata = .ok (metadataBytes metadata) := by
      rw [encodeMetadata_eq, hm]
      rfl
    simp only [deriveManifestNodeDigestProjectionStreamingV1, computeManifestNodeDigest, hm, hencode, ok_bind,
      streamNode_new hm]
    cases payload with
    | directory children =>
      cases hardlinkGroup with
      | some group => rfl
      | none =>
        cases hc : manifestChildListCanonicalLength children with
        | error e =>
          simp only [ManifestTaggedDigestV1.streamPayload, encodeChildrenForHash_eq, hc]
          rfl
        | ok size =>
          simp only [nodeDomain, nodeFieldCount, streamPayload_directory hc, encodeChildrenForHash_eq, hc]
          exact ManifestTaggedDigestV1.finish_fed hash _ rfl
    | regular contentDigest dataExtents =>
      cases hc : manifestExtentListCanonicalLength dataExtents with
      | error e =>
        simp only [ManifestTaggedDigestV1.streamPayload, encodeExtentsForHash_eq, hc]
        rfl
      | ok size =>
        simp only [nodeDomain, nodeFieldCount, streamPayload_regular hc, encodeExtentsForHash_eq, hc]
        exact ManifestTaggedDigestV1.finish_fed hash _ rfl
    | symlink target =>
      simp only [nodeDomain, nodeFieldCount, streamPayload_symlink (hsize target rfl)]
      exact ManifestTaggedDigestV1.finish_fed hash _ rfl
    | externalTree treeRole targetRoot readonly =>
      by_cases hrefuse : readonly = false ∨ treeRole ≠ .runtime ∨ hardlinkGroup ≠ none
      · simp only [ManifestTaggedDigestV1.streamPayload, refuseIf, malformedIf, rejectIf, hrefuse, if_true]
        rfl
      · push Not at hrefuse
        obtain ⟨hreadonly, rfl, rfl⟩ := hrefuse
        cases readonly with
        | false => contradiction
        | true =>
          simp only [nodeDomain, nodeFieldCount, streamPayload_externalTree]
          exact ManifestTaggedDigestV1.finish_fed hash _ rfl

/-! ## Writer and length pass agree -/

/-- When the length pass counts `n` bytes, the writer hands over exactly `n`, the builder's encoding, and does not
fail; each header in that encoding carries the length of the payload behind it (`treeProjectionBytes`). When the pass
fails, the public writers leave the sink alone. For every hash function the streamed node digest is the owned one; a
slice of the source is shorter than `2 ^ 64` bytes. -/
theorem manifest_writer_agrees :
    (∀ (value : TreeManifestV1) (n : Nat), checkedTreeManifestCanonicalLengthV1 value = .ok n →
      n ≤ codec.maxBytes ∧ (treeBytes value).length = n ∧ buildTree value = .ok (treeBytes value) ∧
        ∀ {S E : Type} [ByteSink S E], Accepting S → ∀ sink : S,
          (∃ after, writeTreeManifestCanonicalInner value ⟨sink, 0⟩ = .ok () ⟨after, n⟩ ∧
            ByteSink.contents after = ByteSink.contents sink ++ treeBytes value) ∧
          ∃ after, writeTreeManifestCanonicalV1 value sink = .ok n after ∧
            ByteSink.contents after = ByteSink.contents sink ++ treeBytes value) ∧
    (∀ (value : TreeManifestV1) (e : ContractError), checkedTreeManifestCanonicalLengthV1 value = .error e →
      ∀ {S E : Type} [ByteSink S E] (sink : S), writeTreeManifestCanonicalV1 value sink = .error (.canonical e) sink) ∧
    (∀ (mountPath : Bytes) (treeRole : TreeRoleV1) (entries : List ManifestEntryV1) (rootDigest : NodeDigest)
        {S E : Type} [ByteSink S E] (sink : S),
      (∀ e, checkedTreeManifestProjectionCanonicalLengthV1 mountPath treeRole entries rootDigest = .error e →
        writeTreeManifestProjectionCanonicalV1 mountPath treeRole entries rootDigest sink = .error (.canonical e) sink) ∧
      ∀ n, checkedTreeManifestProjectionCanonicalLengthV1 mountPath treeRole entries rootDigest = .ok n → Accepting S →
        ∃ after, writeTreeManifestProjectionCanonicalV1 mountPath treeRole entries rootDigest sink = .ok n after ∧
          ByteSink.contents after =
            ByteSink.contents sink ++ treeProjectionBytes mountPath treeRole entries rootDigest) ∧
    ∀ (hash : Blake3) (metadata : MetadataV1) (payload : ManifestPayloadV1) (hardlinkGroup : Option HardlinkGroupDigest),
      (∀ target, payload = .symlink target → target.length < 2 ^ 64) →
        deriveManifestNodeDigestProjectionStreamingV1 hash metadata payload hardlinkGroup =
          computeManifestNodeDigest hash metadata payload hardlinkGroup := by
  refine ⟨fun value n hn => ?_, fun value e he _ _ _ sink => writeChecked_error he _ sink,
    fun mountPath treeRole entries rootDigest S E _ sink => ⟨fun e he => writeChecked_error he _ sink, ?_⟩,
    deriveManifestNodeDigestProjectionStreamingV1_eq⟩
  · have hfilled := filled_tree (S := Hasher) value n hn
    refine ⟨hfilled.bounded, hfilled.length, hfilled.built, fun haccepts sink => ⟨?_, ?_⟩⟩
    · obtain ⟨after, hwrite, htook⟩ := (filled_tree value n hn).returns haccepts sink
      exact ⟨after, hwrite, htook.contents⟩
    · exact writeChecked_ok (filled_tree value) hn haccepts sink
  · intro n hn haccepts
    exact writeChecked_ok (filled_treeProjection mountPath treeRole entries rootDigest) hn haccepts sink

def sparseEntry : ManifestEntryV1 where
  relativePath := utf8 "log"
  metadata := ⟨sIfreg, 1, 1, 9, 2, ⟨1, 0⟩, ⟨2, 0⟩, ⟨3, 0⟩, some ⟨4, 5⟩, [⟨utf8 "user.tag", [1, 2]⟩]⟩
  payload := .regular (Octets.fill 32 7) [⟨0, 4⟩, ⟨8, 1⟩]
  hardlinkGroup := some (Octets.fill 32 3)
  nodeDigest := Octets.fill 32 4

def sparseTree : TreeManifestV1 := ⟨⟨utf8 "/a", valid_a⟩, .runtime, [sparseEntry], Octets.fill 32 5⟩

theorem checkedLength_longMount (digest : NodeDigest) :
    checkedTreeManifestProjectionCanonicalLengthV1 (List.replicate (2 ^ 30) 0) .runtime [] digest =
      .error .canonicalEncoding := by
  have hrole : checkedCanonicalEnumLength TreeRoleV1.runtime.code [] = .ok 4 := by decide
  have hentries : manifestEntryListCanonicalLength [] = .ok 8 := by decide
  simp only [checkedTreeManifestProjectionCanonicalLengthV1, hrole, hentries, ok_bind, List.length_replicate]
  rfl

theorem manifest_writer_agrees_sparse :
    (∃ n after, checkedTreeManifestCanonicalLengthV1 sparseTree = .ok n ∧
      writeTreeManifestCanonicalInner sparseTree ⟨Hasher.mk "" [], 0⟩ = .ok () ⟨after, n⟩ ∧
      after.input = treeBytes sparseTree) ∧
    writeTreeManifestProjectionCanonicalV1 (List.replicate (2 ^ 30) 0) .runtime [] (Octets.fill 32 5) (Hasher.mk "" []) =
      .error (.canonical .canonicalEncoding) ⟨"", []⟩ ∧
    deriveManifestNodeDigestProjectionStreamingV1 (fun _ _ => Octets.fill 32 6) sparseEntry.metadata
      (.symlink (utf8 "log.1")) none =
        computeManifestNodeDigest (fun _ _ => Octets.fill 32 6) sparseEntry.metadata (.symlink (utf8 "log.1")) none := by
  obtain ⟨hok, -, hprojection, hdigest⟩ := manifest_writer_agrees
  obtain ⟨-, -, -, h⟩ := hok sparseTree 793 (by decide +kernel)
  obtain ⟨⟨after, hwrite, hcontents⟩, -⟩ := h hasher_accepting ⟨"", []⟩
  refine ⟨⟨793, after, by decide +kernel, hwrite, hcontents⟩, ?_, hdigest _ _ _ _ ?_⟩
  · exact (hprojection _ _ _ _ (Hasher.mk "" [])).1 _ (checkedLength_longMount _)
  · rintro target ⟨⟩
    decide

end Again.Pytest.Canonical
