import Again.Pytest.ManifestWriter

/-!
# What the streaming writer writes

The manifest values once more as `ObjectBuilder` calls, and the bytes of each
in closed form: every header carries the length of the payload behind it. When
the length pass returns, the builder returns those bytes, as many as the pass
counted, and the streaming writer hands exactly those to any sink.
-/

namespace Again.Pytest.Canonical

open Lib

variable {length : Except ContractError Nat} {variant : UInt16} {wireType : WireType}

/-! ## The builder's encodings -/

def buildTimespec (value : TimespecV1) : Except ContractError Bytes :=
  codec.encodeNested typeTimespec [callI64 1 value.seconds, callU32 2 value.nanoseconds]

def buildXattr (value : XattrV1) : Except ContractError Bytes :=
  codec.encodeNested typeXattr [callBytes 1 value.name, callBytes 2 value.value]

def buildMetadata (value : MetadataV1) : Except ContractError Bytes :=
  codec.encodeNested typeMetadata [
    callU32 1 value.mode,
    callU32 2 value.logicalUid,
    callU32 3 value.logicalGid,
    callU64 4 value.size,
    callU64 5 value.nlink,
    callObject 6 (buildTimespec value.atime),
    callObject 7 (buildTimespec value.mtime),
    callObject 8 (buildTimespec value.ctime),
    callOptional 9 (value.btime.mapM buildTimespec),
    callList 10 (value.xattrs.mapM buildXattr)]

def buildExtent (value : ExtentV1) : Except ContractError Bytes :=
  codec.encodeNested typeExtent [callU64 1 value.offset, callU64 2 value.length]

def buildChild (value : ChildCommitmentV1) : Except ContractError Bytes :=
  codec.encodeNested typeChildCommitment [
    callBytes 1 value.name,
    callEnumeration 2 value.kind.code [],
    callBytes 3 value.nodeDigest.val]

def buildExtents (values : List ExtentV1) : Except ContractError Bytes := do
  codec.encodeList (← values.mapM buildExtent)

def buildChildren (values : List ChildCommitmentV1) : Except ContractError Bytes := do
  codec.encodeList (← values.mapM buildChild)

def buildPayload : ManifestPayloadV1 → Except ContractError Bytes
  | .directory children => do
    codec.encodeEnum ManifestEntryKindV1.directory.code [enumField 1 .list (← buildChildren children)]
  | .regular contentDigest dataExtents => do
    codec.encodeEnum ManifestEntryKindV1.regular.code
      [enumField 1 .bytes contentDigest.val, enumField 2 .list (← buildExtents dataExtents)]
  | .symlink target => codec.encodeEnum ManifestEntryKindV1.symlink.code [enumField 1 .bytes target]
  | .externalTree treeRole targetRoot readonly => do
    codec.encodeEnum ManifestEntryKindV1.externalTree.code
      [enumField 1 .enum (← codec.encodeEnum treeRole.code ([] : List (TaggedField WireType))),
        enumField 2 .bytes targetRoot.val, enumField 3 .bool [if readonly then 1 else 0]]

def buildEntry (value : ManifestEntryV1) : Except ContractError Bytes :=
  codec.encodeNested typeManifestEntry [
    callBytes 1 value.relativePath,
    callEnumeration 2 value.payload.kind.code [],
    callObject 3 (buildMetadata value.metadata),
    do callField 4 .enum (← buildPayload value.payload),
    callOptional 5 (value.hardlinkGroup.mapM fun digest => pure digest.val),
    callBytes 6 value.nodeDigest.val]

def buildTreeProjection (mountPath : Bytes) (treeRole : TreeRoleV1) (entries : List ManifestEntryV1)
    (rootDigest : NodeDigest) : Except ContractError Bytes :=
  codec.encodeNested typeTreeManifest [
    callBytes 1 mountPath,
    callEnumeration 2 treeRole.code [],
    callList 3 (entries.mapM buildEntry),
    callBytes 4 rootDigest.val]

def buildTree (value : TreeManifestV1) : Except ContractError Bytes :=
  codec.encodeNested typeTreeManifest [
    callBytes 1 value.mountPath.val,
    callEnumeration 2 value.treeRole.code [],
    callList 3 (value.entries.mapM buildEntry),
    callBytes 4 value.rootDigest.val]

/-! ## The layout -/

abbrev objectBytes (typeId : UInt16) (fields : List (TaggedField WireType)) : Bytes := codec.objectBytes typeId fields

def timespecBytes (value : TimespecV1) : Bytes :=
  objectBytes typeTimespec [⟨1, .i64, beI64 value.seconds⟩, ⟨2, .u32, be32 value.nanoseconds⟩]

def xattrBytes (value : XattrV1) : Bytes :=
  objectBytes typeXattr [⟨1, .bytes, value.name⟩, ⟨2, .bytes, value.value⟩]

def metadataBytes (value : MetadataV1) : Bytes :=
  objectBytes typeMetadata [
    ⟨1, .u32, be32 value.mode⟩,
    ⟨2, .u32, be32 value.logicalUid⟩,
    ⟨3, .u32, be32 value.logicalGid⟩,
    ⟨4, .u64, be64 value.size⟩,
    ⟨5, .u64, be64 value.nlink⟩,
    ⟨6, .object, timespecBytes value.atime⟩,
    ⟨7, .object, timespecBytes value.mtime⟩,
    ⟨8, .object, timespecBytes value.ctime⟩,
    ⟨9, .optional, Codec.optionalBytes (value.btime.map timespecBytes)⟩,
    ⟨10, .list, Codec.listBytes (value.xattrs.map xattrBytes)⟩]

def extentBytes (value : ExtentV1) : Bytes :=
  objectBytes typeExtent [⟨1, .u64, be64 value.offset⟩, ⟨2, .u64, be64 value.length⟩]

def simpleEnumBytes (variant : UInt16) : Bytes := Codec.enumBytes variant ([] : List (TaggedField WireType))

def childBytes (value : ChildCommitmentV1) : Bytes :=
  objectBytes typeChildCommitment [
    ⟨1, .bytes, value.name⟩,
    ⟨2, .enum, simpleEnumBytes value.kind.code⟩,
    ⟨3, .bytes, value.nodeDigest.val⟩]

def extentsBytes (values : List ExtentV1) : Bytes := Codec.listBytes (values.map extentBytes)

def childrenBytes (values : List ChildCommitmentV1) : Bytes := Codec.listBytes (values.map childBytes)

def payloadFields : ManifestPayloadV1 → List (TaggedField WireType)
  | .directory children => [⟨1, .list, childrenBytes children⟩]
  | .regular contentDigest dataExtents => [⟨1, .bytes, contentDigest.val⟩, ⟨2, .list, extentsBytes dataExtents⟩]
  | .symlink target => [⟨1, .bytes, target⟩]
  | .externalTree treeRole targetRoot readonly =>
    [⟨1, .enum, simpleEnumBytes treeRole.code⟩, ⟨2, .bytes, targetRoot.val⟩, ⟨3, .bool, [if readonly then 1 else 0]⟩]

def payloadBytes (value : ManifestPayloadV1) : Bytes := Codec.enumBytes value.kind.code (payloadFields value)

def entryBytes (value : ManifestEntryV1) : Bytes :=
  objectBytes typeManifestEntry [
    ⟨1, .bytes, value.relativePath⟩,
    ⟨2, .enum, simpleEnumBytes value.payload.kind.code⟩,
    ⟨3, .object, metadataBytes value.metadata⟩,
    ⟨4, .enum, payloadBytes value.payload⟩,
    ⟨5, .optional, Codec.optionalBytes (value.hardlinkGroup.map fun digest => digest.val)⟩,
    ⟨6, .bytes, value.nodeDigest.val⟩]

def treeProjectionBytes (mountPath : Bytes) (treeRole : TreeRoleV1) (entries : List ManifestEntryV1)
    (rootDigest : NodeDigest) : Bytes :=
  objectBytes typeTreeManifest [
    ⟨1, .bytes, mountPath⟩,
    ⟨2, .enum, simpleEnumBytes treeRole.code⟩,
    ⟨3, .list, Codec.listBytes (entries.map entryBytes)⟩,
    ⟨4, .bytes, rootDigest.val⟩]

def treeBytes (value : TreeManifestV1) : Bytes :=
  treeProjectionBytes value.mountPath.val value.treeRole value.entries value.rootDigest

/-! ## Lengths of frames -/

section Lengths

variable {n : Nat} {fields : List (TaggedField WireType)}

theorem checkedCanonicalAdd_eq_ok {left right : Nat} :
    checkedCanonicalAdd left right = .ok n ↔ left + right < 2 ^ 64 ∧ left + right = n := by
  simp [checkedCanonicalAdd]

theorem checkedCanonicalPayloadLength_eq_ok {length : Nat} :
    checkedCanonicalPayloadLength length = .ok n ↔ length ≤ codec.maxBytes ∧ length = n := by
  simp [checkedCanonicalPayloadLength, codec]

theorem addFieldLengths_eq {length : Nat} (h : addFieldLengths length (fields.map (·.payload.length)) = .ok n) :
    n = length + (Codec.fieldsBytes fields).length := by
  induction fields generalizing length with
  | nil =>
    simp only [List.map_nil, addFieldLengths, pure_eq_ok] at h
    simp [Codec.fieldsBytes, h]
  | cons field fields ih =>
    simp only [List.map_cons, addFieldLengths, checkedCanonicalFieldLength, bind_eq_ok, checkedCanonicalAdd_eq_ok,
      checkedCanonicalPayloadLength_eq_ok] at h
    obtain ⟨_, ⟨_, ⟨-, rfl⟩, -, rfl⟩, _, ⟨-, rfl⟩, hrest⟩ := h
    have hn := ih hrest
    simp only [Codec.fieldsBytes, List.flatMap_cons, List.length_append, Codec.length_fieldBytes] at hn ⊢
    omega

theorem objectLength_eq (typeId : UInt16) (h : checkedCanonicalObjectLength (fields.map (·.payload.length)) = .ok n) :
    fields.length < 2 ^ 16 ∧ n ≤ codec.maxBytes ∧ (codec.objectBytes typeId fields).length = n := by
  simp only [checkedCanonicalObjectLength, bind_eq_ok, rejectIf_eq_ok, exists_unit, List.length_map, not_le,
    checkedCanonicalPayloadLength_eq_ok] at h
  obtain ⟨hcount, length, hlength, hmax, rfl⟩ := h
  refine ⟨hcount, hmax, ?_⟩
  rw [addFieldLengths_eq hlength, Codec.length_objectBytes]
  rfl

theorem enumLength_eq (h : checkedCanonicalEnumLength variant (fields.map (·.payload.length)) = .ok n) :
    variant ≠ 0 ∧ fields.length < 2 ^ 16 ∧ n ≤ codec.maxBytes ∧ (Codec.enumBytes variant fields).length = n := by
  simp only [checkedCanonicalEnumLength, bind_eq_ok, rejectIf_eq_ok, exists_unit, List.length_map, not_le,
    checkedCanonicalPayloadLength_eq_ok] at h
  obtain ⟨hvariant, hcount, length, hlength, hmax, rfl⟩ := h
  refine ⟨hvariant, hcount, hmax, ?_⟩
  rw [addFieldLengths_eq hlength]
  simp only [Codec.enumBytes, enumHeaderBytes, List.length_append, length_be16]

theorem canonicalCollectionCount_eq_ok {count : Nat} {v : UInt64} :
    canonicalCollectionCount count = .ok v ↔ v.toNat = count ∧ count ≤ codec.maxItems := by
  simp only [canonicalCollectionCount, bind_eq_ok, rejectIf_eq_ok, exists_unit, pure_eq_ok, u64Length_eq_ok]
  constructor
  · rintro ⟨_, rfl, hmax, rfl⟩
    exact ⟨rfl, not_lt.mp hmax⟩
  · rintro ⟨rfl, hmax⟩
    exact ⟨v, rfl, not_lt.mpr hmax, rfl⟩

end Lengths

/-! ## Frames written in pieces -/

section Frames

variable {S E : Type} [ByteSink S E]

theorem fills_writeCanonical (bytes : Bytes) : Fills (writeCanonical bytes : ManifestWriterM S E Unit) bytes :=
  fills_writeBytes _ bytes

variable {n : Nat} {tag : UInt16} {payload : Bytes} {fields : List (TaggedField WireType)} {α : Type}

theorem u64Length_ofNat (h : n < 2 ^ 64) : u64Length ContractError.canonicalEncoding n = .ok (UInt64.ofNat n) :=
  u64Length_eq_ok.mpr (UInt64.toNat_ofNat_of_lt' h)

theorem fills_objectHeader (typeId count : UInt16) :
    Fills (objectHeader typeId count : ManifestWriterM S E Unit)
      (be16 typeId ++ (be16 effectIrV2WireVersion ++ be16 count)) :=
  (fills_writeCanonical _).bind fun _ => (fills_writeCanonical _).bind fun _ => fills_writeCanonical _

theorem fills_enumHeader (hvariant : variant ≠ 0) (count : UInt16) :
    Fills (enumHeader variant count : ManifestWriterM S E Unit) (be16 variant ++ be16 count) := by
  apply Fills.lift (a := ()) (rejectIf_eq_ok.mpr hvariant)
  exact (fills_writeCanonical _).bind fun _ => fills_writeCanonical _

theorem fills_fieldHeader (htag : tag ≠ 0) (wireType : WireType) (hpayload : payload.length < 2 ^ 64) :
    Fills (fieldHeader tag wireType payload.length : ManifestWriterM S E Unit)
      (be16 tag ++ [WireCode.code wireType] ++ be64 (UInt64.ofNat payload.length)) := by
  apply Fills.lift (a := ()) (rejectIf_eq_ok.mpr htag)
  apply Fills.lift (u64Length_ofNat hpayload)
  exact (fills_writeCanonical _).bind fun _ => (fills_writeCanonical _).bind fun _ => fills_writeCanonical _

/-- Every field's header can be written. -/
def Framable (fields : List (TaggedField WireType)) : Prop :=
  ∀ field ∈ fields, field.tag ≠ 0 ∧ field.payload.length < 2 ^ 64

/-- `body` writes the fields of a frame, if their headers can be written. -/
def FillsFields (body : ManifestWriterM S E Unit) (fields : List (TaggedField WireType)) : Prop :=
  Framable fields → Fills body (Codec.fieldsBytes fields)

theorem tag_ne_zero (hasc : Codec.Ascending 0 fields) {field : TaggedField WireType} (h : field ∈ fields) :
    field.tag ≠ 0 := by
  have hpos : 0 < field.tag := (List.pairwise_cons.mp hasc.pairwise).1 _ (List.mem_map_of_mem h)
  exact fun hzero => absurd (hzero ▸ hpos) (by decide)

theorem framable (hasc : Codec.Ascending 0 fields) (hmax : (Codec.fieldsBytes fields).length ≤ codec.maxBytes) :
    Framable fields := by
  intro field hfield
  have hle := Codec.length_payload_le hfield
  have hlt := maxBytes_lt
  exact ⟨tag_ne_zero hasc hfield, by omega⟩

/-- One field behind its header, then the others. -/
theorem fillsFields_cons {length : Nat} {write rest : ManifestWriterM S E Unit} (hlength : payload.length = length)
    (hwrite : Fills write payload) (hrest : FillsFields rest fields) :
    FillsFields (do fieldHeader tag wireType length; write; rest) (⟨tag, wireType, payload⟩ :: fields) := by
  subst hlength
  intro hframable
  obtain ⟨htag, hpayload⟩ := hframable _ List.mem_cons_self
  have hfields := hrest fun field hfield => hframable field (List.mem_cons_of_mem _ hfield)
  have h := (fills_fieldHeader (S := S) (E := E) htag wireType hpayload).bind fun _ => hwrite.bind fun _ => hfields
  exact h

theorem fillsFields_last {length : Nat} {write : ManifestWriterM S E Unit} (hlength : payload.length = length)
    (hwrite : Fills write payload) :
    FillsFields (do fieldHeader tag wireType length; write) [⟨tag, wireType, payload⟩] := by
  subst hlength
  intro hframable
  obtain ⟨htag, hpayload⟩ := hframable _ List.mem_cons_self
  have h := (fills_fieldHeader (S := S) (E := E) htag wireType hpayload).bind fun _ => hwrite
  rw [Codec.fieldsBytes, List.flatMap_singleton]
  exact h

/-- When the length pass returns, `bytes` are as many, the builder returns them, and the writer hands them over. -/
structure FilledTo (n : Nat) (build : Except ContractError Bytes) (write : ManifestWriterM S E Unit)
    (bytes : Bytes) : Prop where
  built : build = .ok bytes
  length : bytes.length = n
  bounded : n ≤ codec.maxBytes
  fills : Fills write bytes

def Filled (length : Except ContractError Nat) (build : Except ContractError Bytes)
    (write : ManifestWriterM S E Unit) (bytes : Bytes) : Prop :=
  ∀ n, length = .ok n → FilledTo n build write bytes

theorem filled_object (fields : List (TaggedField WireType)) {typeId count : UInt16} {calls : List Call}
    {body : ManifestWriterM S E Unit} (hcalls : Codec.Computed calls fields)
    (hlength : checkedCanonicalObjectLength (fields.map (·.payload.length)) = .ok n) (hasc : Codec.Ascending 0 fields)
    (hcount : count = UInt16.ofNat fields.length) (hbody : FillsFields body fields) :
    FilledTo n (codec.encodeNested typeId calls) (do objectHeader typeId count; body)
      (codec.objectBytes typeId fields) := by
  subst hcount
  obtain ⟨hfew, hmax, hbytes⟩ := objectLength_eq typeId hlength
  refine ⟨Codec.encodeNested_eq maxBytes_lt hcalls hfew hasc (hbytes ▸ hmax), hbytes, hmax, ?_⟩
  rw [Codec.length_objectBytes] at hbytes
  exact (fills_objectHeader typeId _).bind fun _ => hbody (framable hasc (by omega))

theorem filled_enum (fields : List (TaggedField WireType)) {count : UInt16} {body : ManifestWriterM S E Unit}
    (hlength : checkedCanonicalEnumLength variant (fields.map (·.payload.length)) = .ok n)
    (hasc : Codec.Ascending 0 fields) (hcount : count = UInt16.ofNat fields.length) (hbody : FillsFields body fields) :
    FilledTo n (codec.encodeEnum variant fields) (do enumHeader variant count; body)
      (Codec.enumBytes variant fields) := by
  subst hcount
  obtain ⟨hvariant, hfew, hmax, hbytes⟩ := enumLength_eq hlength
  refine ⟨Codec.encodeEnum_eq maxBytes_lt hvariant hfew hasc (hbytes ▸ hmax), hbytes, hmax, ?_⟩
  simp only [Codec.enumBytes, List.length_append] at hbytes
  exact (fills_enumHeader hvariant _).bind fun _ => hbody (framable hasc (by omega))

/-- A variant without fields. -/
theorem filled_simpleEnum (variant : UInt16) :
    Filled (checkedCanonicalEnumLength variant []) (codec.encodeEnum variant ([] : List (TaggedField WireType)))
      (enumHeader variant 0 : ManifestWriterM S E Unit) (simpleEnumBytes variant) := by
  intro n hn
  have hfields : checkedCanonicalEnumLength variant (([] : List (TaggedField WireType)).map (·.payload.length)) = .ok n :=
    hn
  obtain ⟨hvariant, hfew, hmax, hbytes⟩ := enumLength_eq hfields
  refine ⟨Codec.encodeEnum_eq maxBytes_lt hvariant hfew (List.isChain_singleton _) (hbytes ▸ hmax), hbytes, hmax, ?_⟩
  exact fills_enumHeader hvariant 0

variable {build : α → Except ContractError Bytes} {write : α → ManifestWriterM S E Unit} {bytes : α → Bytes}

theorem filled_items {length : α → Except ContractError Nat}
    (hvalue : ∀ value, Filled (length value) (build value) (write value) (bytes value)) {values : List α} {start : Nat}
    (h : addItemLengths start (values.map length) = .ok n) :
    values.mapM build = .ok (values.map bytes) ∧ n = start + (Codec.itemsBytes (values.map bytes)).length ∧
      Fills (writeItems length write values) (Codec.itemsBytes (values.map bytes)) := by
  induction values generalizing start with
  | nil =>
    simp only [List.map_nil, addItemLengths, pure_eq_ok] at h
    exact ⟨rfl, by simp [Codec.itemsBytes, h], fills_pure _⟩
  | cons value values ih =>
    simp only [List.map_cons, addItemLengths, bind_eq_ok, checkedCanonicalAdd_eq_ok] at h
    obtain ⟨itemLength, hitem, _, ⟨-, rfl⟩, _, ⟨-, rfl⟩, hrest⟩ := h
    obtain ⟨hbuild, rfl, hbounded, hwrite⟩ := hvalue value itemLength hitem
    obtain ⟨hbuilds, hn, hwrites⟩ := ih hrest
    refine ⟨by simp [List.mapM_cons, hbuild, hbuilds], ?_, ?_⟩
    · simp only [Codec.itemsBytes, List.map_cons, List.flatMap_cons, List.length_append, length_be64,
        listItemHeaderBytes] at hn ⊢
      omega
    · -- The header carries the item's own length, so its bytes are the frame's.
      have hlt := maxBytes_lt
      have hheader : Fills (listItemHeader (bytes value).length : ManifestWriterM S E Unit)
          (be64 (UInt64.ofNat (bytes value).length)) :=
        Fills.lift (u64Length_ofNat (by omega)) (fills_writeCanonical _)
      apply Fills.lift hitem
      have hitems := hheader.bind fun _ => hwrite.bind fun _ => hwrites
      exact hitems

theorem filled_list {length : α → Except ContractError Nat}
    (hvalue : ∀ value, Filled (length value) (build value) (write value) (bytes value)) (values : List α) :
    Filled (checkedCanonicalListLength (values.map length)) (do codec.encodeList (← values.mapM build))
      (do listHeader values.length; writeItems length write values) (Codec.listBytes (values.map bytes)) := by
  intro n hn
  simp only [checkedCanonicalListLength, bind_eq_ok, checkedCanonicalPayloadLength_eq_ok, List.length_map] at hn
  obtain ⟨count, hcount, _, hlengths, hmax, rfl⟩ := hn
  obtain ⟨hbuild, rfl, hwrite⟩ := filled_items hvalue hlengths
  obtain ⟨hsame, hitems⟩ := canonicalCollectionCount_eq_ok.mp hcount
  have hbytes : (Codec.listBytes (values.map bytes)).length =
      listHeaderBytes + (Codec.itemsBytes (values.map bytes)).length := by
    simp [Codec.listBytes, listHeaderBytes]
  refine ⟨?_, hbytes, hmax, ?_⟩
  · have hfew : (values.map bytes).length ≤ codec.maxItems := by
      rw [List.length_map]
      exact hitems
    simp [hbuild, Codec.encodeList_eq maxBytes_lt maxItems_lt hfew (hbytes ▸ hmax)]
  · have hheader : Fills (listHeader values.length : ManifestWriterM S E Unit)
        (be64 (UInt64.ofNat (values.map bytes).length)) := by
      rw [List.length_map, ← hsame, UInt64.ofNat_toNat, hsame]
      exact Fills.lift hcount (fills_writeCanonical _)
    exact hheader.bind fun _ => hwrite

/-- An optional value all of whose encodings have one length. -/
theorem filled_optional
    (hvalue : ∀ value, Filled length (build value) (write value) (bytes value)) {size : Nat}
    (hsize : length = .ok size) {value : Option α}
    (hn : checkedCanonicalOptionalLength (value.map fun _ => size) = .ok n) :
    FilledTo n (do codec.encodeOptional (← value.mapM build)) (writeOptional size (value.map write))
      (Codec.optionalBytes (value.map bytes)) := by
  cases value with
  | none =>
    simp only [Option.map_none, checkedCanonicalOptionalLength, pure_eq_ok] at hn
    subst hn
    exact ⟨rfl, rfl, by decide, fills_writeCanonical _⟩
  | some a =>
    obtain ⟨hbuild, rfl, hbounded, hwrite⟩ := hvalue a size hsize
    simp only [Option.map_some, checkedCanonicalOptionalLength, bind_eq_ok, checkedCanonicalAdd_eq_ok,
      checkedCanonicalPayloadLength_eq_ok] at hn
    obtain ⟨_, ⟨-, rfl⟩, hmax, rfl⟩ := hn
    have hlength : (Codec.optionalBytes (some (bytes a))).length = optionalPresentHeaderBytes + (bytes a).length := by
      simp only [Codec.optionalBytes, optionalPresentHeaderBytes, List.length_append, length_be64, List.length_singleton]
    refine ⟨?_, hlength, hmax, ?_⟩
    · simp [hbuild, Codec.encodeOptional_eq maxBytes_lt (hlength ▸ hmax)]
    · have hlt := maxBytes_lt
      have hvalue : Fills (do
          let length ← liftEncoder (u64Length ContractError.canonicalEncoding (bytes a).length)
          writeCanonical (be64 length)
          write a : ManifestWriterM S E Unit) (be64 (UInt64.ofNat (bytes a).length) ++ bytes a) :=
        Fills.lift (u64Length_ofNat (by omega)) ((fills_writeCanonical _).bind fun _ => hwrite)
      exact (fills_writeCanonical [1]).bind fun _ => hvalue

omit [ByteSink S E] in
@[simp] theorem liftEncoder_ok_bind {a : α} {f : α → ManifestWriterM S E Unit} :
    (liftEncoder (.ok a) >>= f) = f a := rfl

end Frames

/-! ## The manifest's values -/

section Values

variable {S E : Type} [ByteSink S E]

theorem filled_timespec (value : TimespecV1) :
    Filled manifestTimespecCanonicalLength (buildTimespec value)
      (writeManifestTimespec value : ManifestWriterM S E Unit) (timespecBytes value) := by
  intro n hn
  refine filled_object _ ?_ ?_ ?_ rfl ?_
  · simp [callI64, callU32]
  · simpa [manifestTimespecCanonicalLength] using hn
  · simp [Codec.Ascending]
  · apply fillsFields_cons (by simp) (fills_writeCanonical _)
    exact fillsFields_last (by simp) (fills_writeCanonical _)

theorem filled_xattr (value : XattrV1) :
    Filled (manifestXattrCanonicalLength value) (buildXattr value)
      (writeManifestXattr value : ManifestWriterM S E Unit) (xattrBytes value) := by
  intro n hn
  refine filled_object _ ?_ hn ?_ rfl ?_
  · simp [callBytes]
  · simp [Codec.Ascending]
  · apply fillsFields_cons rfl (fills_writeCanonical _)
    exact fillsFields_last rfl (fills_writeCanonical _)

theorem filled_metadata (value : MetadataV1) :
    Filled (manifestMetadataCanonicalLength value) (buildMetadata value)
      (writeManifestMetadata value : ManifestWriterM S E Unit) (metadataBytes value) := by
  intro n hn
  simp only [manifestMetadataCanonicalLength, bind_eq_ok] at hn
  obtain ⟨timespec, htimespec, _, hbtime, _, hxattrs, hn⟩ := hn
  have htime := fun time => filled_timespec (S := S) (E := E) time _ htimespec
  obtain ⟨hbtimeBuild, rfl, -, hbtimeWrite⟩ := filled_optional (S := S) (E := E) filled_timespec htimespec hbtime
  obtain ⟨hxattrsBuild, rfl, -, hxattrsWrite⟩ := filled_list (S := S) (E := E) filled_xattr _ _ hxattrs
  obtain ⟨item, hitem, hoptional⟩ := bind_eq_ok.mp hbtimeBuild
  obtain ⟨items, hitems, hlist⟩ := bind_eq_ok.mp hxattrsBuild
  simp only [writeManifestMetadata, htimespec, hbtime, hxattrs, liftEncoder_ok_bind]
  refine filled_object _ ?_ ?_ ?_ rfl ?_
  · simp [callU32, callU64, (htime _).built, hitem, hitems, hlist, hoptional]
  · simpa [(htime _).length] using hn
  · simp [Codec.Ascending]
  · iterate 5 apply fillsFields_cons (by simp) (fills_writeCanonical _)
    iterate 3 apply fillsFields_cons (htime _).length (htime _).fills
    apply fillsFields_cons rfl hbtimeWrite
    exact fillsFields_last rfl hxattrsWrite

theorem filled_extent (value : ExtentV1) :
    Filled manifestExtentCanonicalLength (buildExtent value) (writeManifestExtent value : ManifestWriterM S E Unit)
      (extentBytes value) := by
  intro n hn
  refine filled_object _ ?_ ?_ ?_ rfl ?_
  · simp [callU64]
  · simpa [manifestExtentCanonicalLength] using hn
  · simp [Codec.Ascending]
  · apply fillsFields_cons (by simp) (fills_writeCanonical _)
    exact fillsFields_last (by simp) (fills_writeCanonical _)

theorem filled_extents (values : List ExtentV1) :
    Filled (manifestExtentListCanonicalLength values) (buildExtents values)
      (writeManifestExtentList values : ManifestWriterM S E Unit) (extentsBytes values) := by
  intro n hn
  simp only [manifestExtentListCanonicalLength, bind_eq_ok] at hn
  obtain ⟨extent, hextent, hn⟩ := hn
  simp only [writeManifestExtentList, hextent, liftEncoder_ok_bind]
  refine filled_list (fun value => ?_) values n hn
  rintro _ ⟨⟩
  exact filled_extent value extent hextent

theorem filled_child (value : ChildCommitmentV1) :
    Filled (manifestChildCanonicalLength value) (buildChild value)
      (writeManifestChild value : ManifestWriterM S E Unit) (childBytes value) := by
  intro n hn
  simp only [manifestChildCanonicalLength, bind_eq_ok] at hn
  obtain ⟨_, hkind, hn⟩ := hn
  obtain ⟨hkindBuild, rfl, -, hkindWrite⟩ := filled_simpleEnum (S := S) (E := E) value.kind.code _ hkind
  simp only [writeManifestChild, hkind, liftEncoder_ok_bind]
  refine filled_object _ ?_ hn ?_ rfl ?_
  · simp [callBytes, hkindBuild]
  · simp [Codec.Ascending]
  · apply fillsFields_cons rfl (fills_writeCanonical _)
    apply fillsFields_cons rfl hkindWrite
    exact fillsFields_last rfl (fills_writeCanonical _)

theorem filled_children (values : List ChildCommitmentV1) :
    Filled (manifestChildListCanonicalLength values) (buildChildren values)
      (writeManifestChildList values : ManifestWriterM S E Unit) (childrenBytes values) :=
  filled_list filled_child values

theorem filled_payload (value : ManifestPayloadV1) :
    Filled (manifestPayloadCanonicalLength value) (buildPayload value)
      (writeManifestPayload value : ManifestWriterM S E Unit) (payloadBytes value) := by
  intro n hn
  cases value with
  | directory children =>
    obtain ⟨_, hchildren, hn⟩ := bind_eq_ok.mp hn
    obtain ⟨hbuild, rfl, -, hwrite⟩ := filled_children (S := S) (E := E) children _ hchildren
    simp only [writeManifestPayload, buildPayload, hchildren, hbuild, liftEncoder_ok_bind]
    refine filled_enum [⟨1, .list, childrenBytes children⟩] hn ?_ rfl ?_
    · simp [Codec.Ascending]
    · exact fillsFields_last rfl hwrite
  | regular contentDigest dataExtents =>
    obtain ⟨_, hextents, hn⟩ := bind_eq_ok.mp hn
    obtain ⟨hbuild, rfl, -, hwrite⟩ := filled_extents (S := S) (E := E) dataExtents _ hextents
    simp only [writeManifestPayload, buildPayload, hextents, hbuild, liftEncoder_ok_bind]
    refine filled_enum [⟨1, .bytes, contentDigest.val⟩, ⟨2, .list, extentsBytes dataExtents⟩] hn ?_ rfl ?_
    · simp [Codec.Ascending]
    · apply fillsFields_cons rfl (fills_writeCanonical _)
      exact fillsFields_last rfl hwrite
  | symlink target =>
    refine filled_enum [⟨1, .bytes, target⟩] hn ?_ rfl ?_
    · simp [Codec.Ascending]
    · exact fillsFields_last rfl (fills_writeCanonical _)
  | externalTree treeRole targetRoot readonly =>
    obtain ⟨_, hrole, hn⟩ := bind_eq_ok.mp hn
    obtain ⟨hbuild, rfl, -, hwrite⟩ := filled_simpleEnum (S := S) (E := E) treeRole.code _ hrole
    simp only [writeManifestPayload, buildPayload, hrole, hbuild, liftEncoder_ok_bind]
    refine filled_enum [⟨1, .enum, simpleEnumBytes treeRole.code⟩, ⟨2, .bytes, targetRoot.val⟩,
      ⟨3, .bool, [if readonly then 1 else 0]⟩] hn ?_ rfl ?_
    · simp [Codec.Ascending]
    · apply fillsFields_cons rfl hwrite
      apply fillsFields_cons rfl (fills_writeCanonical _)
      exact fillsFields_last rfl (fills_writeCanonical _)

theorem filled_digest (value : Digest) :
    Filled (pure 32) (pure value.val) (writeCanonical value.val : ManifestWriterM S E Unit) value.val := by
  rintro _ ⟨⟩
  exact ⟨rfl, value.property, by decide, fills_writeCanonical _⟩

theorem filled_entry (value : ManifestEntryV1) :
    Filled (manifestEntryCanonicalLength value) (buildEntry value)
      (writeManifestEntry value : ManifestWriterM S E Unit) (entryBytes value) := by
  intro n hn
  simp only [manifestEntryCanonicalLength, bind_eq_ok] at hn
  obtain ⟨_, hkind, _, hmetadata, _, hpayload, hardlinkLength, hhardlink, hn⟩ := hn
  obtain ⟨hkindBuild, rfl, -, hkindWrite⟩ := filled_simpleEnum (S := S) (E := E) value.payload.kind.code _ hkind
  obtain ⟨hmetadataBuild, rfl, -, hmetadataWrite⟩ := filled_metadata (S := S) (E := E) value.metadata _ hmetadata
  obtain ⟨hpayloadBuild, rfl, -, hpayloadWrite⟩ := filled_payload (S := S) (E := E) value.payload _ hpayload
  have hsizes : checkedCanonicalOptionalLength (value.hardlinkGroup.map fun _ => 32) = .ok hardlinkLength := by
    rw [← hhardlink]
    congr 2
    funext digest
    exact digest.property.symm
  obtain ⟨hhardlinkBuild, rfl, -, hhardlinkWrite⟩ := filled_optional (S := S) (E := E) filled_digest rfl hsizes
  obtain ⟨item, hitem, hoptional⟩ := bind_eq_ok.mp hhardlinkBuild
  simp only [writeManifestEntry, hkind, hmetadata, hpayload, hhardlink, liftEncoder_ok_bind]
  refine filled_object _ ?_ hn ?_ rfl ?_
  · simp [callBytes, hkindBuild, hmetadataBuild, hpayloadBuild, hitem, hoptional]
  · simp [Codec.Ascending]
  · apply fillsFields_cons rfl (fills_writeCanonical _)
    apply fillsFields_cons rfl hkindWrite
    apply fillsFields_cons rfl hmetadataWrite
    apply fillsFields_cons rfl hpayloadWrite
    apply fillsFields_cons rfl hhardlinkWrite
    exact fillsFields_last rfl (fills_writeCanonical _)

theorem filled_treeProjection (mountPath : Bytes) (treeRole : TreeRoleV1) (entries : List ManifestEntryV1)
    (rootDigest : NodeDigest) :
    Filled (checkedTreeManifestProjectionCanonicalLengthV1 mountPath treeRole entries rootDigest)
      (buildTreeProjection mountPath treeRole entries rootDigest)
      (writeTreeManifestProjectionCanonicalInner mountPath treeRole entries rootDigest : ManifestWriterM S E Unit)
      (treeProjectionBytes mountPath treeRole entries rootDigest) := by
  intro n hn
  simp only [checkedTreeManifestProjectionCanonicalLengthV1, bind_eq_ok] at hn
  obtain ⟨_, hrole, _, hentries, hn⟩ := hn
  obtain ⟨hroleBuild, rfl, -, hroleWrite⟩ := filled_simpleEnum (S := S) (E := E) treeRole.code _ hrole
  obtain ⟨hentriesBuild, rfl, -, hentriesWrite⟩ := filled_list (S := S) (E := E) filled_entry _ _ hentries
  obtain ⟨items, hitems, hlist⟩ := bind_eq_ok.mp hentriesBuild
  simp only [writeTreeManifestProjectionCanonicalInner, hrole, hentries, liftEncoder_ok_bind]
  refine filled_object _ ?_ hn ?_ rfl ?_
  · simp [callBytes, hroleBuild, hitems, hlist]
  · simp [Codec.Ascending]
  · apply fillsFields_cons rfl (fills_writeCanonical _)
    apply fillsFields_cons rfl hroleWrite
    apply fillsFields_cons rfl hentriesWrite
    exact fillsFields_last rfl (fills_writeCanonical _)

theorem filled_tree (value : TreeManifestV1) :
    Filled (checkedTreeManifestCanonicalLengthV1 value) (buildTree value)
      (writeTreeManifestCanonicalInner value : ManifestWriterM S E Unit) (treeBytes value) :=
  filled_treeProjection value.mountPath.val value.treeRole value.entries value.rootDigest

end Values

/-! ## Exact-length vectors -/

theorem took_vecSink {exactLength : Nat} {out : Bytes} {sink : VecSink} (h : Took ⟨[], exactLength⟩ out sink) :
    sink = ⟨out, exactLength⟩ := by
  generalize hstart : (⟨[], exactLength⟩ : VecSink) = start at h
  induction h with
  | nil => exact hstart.symm
  | snoc _ hbytes ih =>
    rw [ih] at hbytes
    simp only [ByteSink.tryExtend, bind_eq_ok, rejectIf_eq_ok, exists_unit, pure_eq_ok] at hbytes
    exact hbytes.2.symm

theorem vecSink_not_refused (out : Bytes) : ¬ Refused (⟨[], out.length⟩ : VecSink) out := by
  rintro ⟨front, bytes, back, mid, hout, hfront, e, herror⟩
  rw [took_vecSink hfront] at herror
  have hroom : ¬ out.length < front.length + bytes.length := by
    rw [hout]
    simp
  simp [ByteSink.tryExtend, rejectIf, hroom] at herror

variable {build : Except ContractError Bytes} {write : ManifestWriterM VecSink ContractError Unit} {bytes : Bytes}

/-- A vector of the counted length is filled to its end. -/
theorem encodeManifestCanonicalVec_filled {n : Nat} (h : FilledTo n build write bytes) :
    encodeManifestCanonicalVec n write = .ok bytes := by
  obtain ⟨-, rfl, hbounded, hfills⟩ := h
  have hlt := maxBytes_lt
  obtain ⟨sink, hwrite, htook⟩ := hfills.returns (s := ⟨⟨[], bytes.length⟩, 0⟩) (by simp; omega) (vecSink_not_refused bytes)
  rw [took_vecSink htook] at hwrite
  simp [encodeManifestCanonicalVec, checkedCanonicalPayloadLength_eq_ok.mpr ⟨hbounded, rfl⟩, hwrite]

/-- The length pass decides whether a value encodes, and with which error it does not. -/
theorem encodeVec_filled (h : Filled length build write bytes) :
    (do encodeManifestCanonicalVec (← length) write) = length.map fun _ => bytes := by
  cases hn : length with
  | error e => rfl
  | ok n => exact encodeManifestCanonicalVec_filled (h n hn)

theorem built_of_encodeVec {out : Bytes} (hw : Filled length build write out)
    (h : (do encodeManifestCanonicalVec (← length) write) = .ok bytes) : build = .ok bytes := by
  obtain ⟨n, hn, h⟩ := bind_eq_ok.mp h
  rw [encodeManifestCanonicalVec_filled (hw n hn)] at h
  cases h
  exact (hw n hn).built

theorem encodeMetadata_eq (value : MetadataV1) :
    encodeMetadata value = (manifestMetadataCanonicalLength value).map fun _ => metadataBytes value :=
  encodeVec_filled (filled_metadata value)

theorem encodeExtentsForHash_eq (values : List ExtentV1) :
    encodeExtentsForHash values = (manifestExtentListCanonicalLength values).map fun _ => extentsBytes values :=
  encodeVec_filled (filled_extents values)

theorem encodeChildrenForHash_eq (values : List ChildCommitmentV1) :
    encodeChildrenForHash values = (manifestChildListCanonicalLength values).map fun _ => childrenBytes values :=
  encodeVec_filled (filled_children values)

theorem encodeTree_eq (value : TreeManifestV1) :
    encodeTree value = (checkedTreeManifestCanonicalLengthV1 value).map fun _ => treeBytes value :=
  encodeVec_filled (filled_tree value)

end Again.Pytest.Canonical
