import Again.Lib.Cursor

/-!
# Tagged frames

A frame is a header and a run of fields, each a nonzero tag above the one
before, a wire type, a length and that many payload bytes. Objects, variants,
lists and optional values are frames; a reader accepts nothing but the frame
and returns its parts. Each writer has one lemma: the reader gives back what
was written.
-/

namespace Again.Lib

variable {ε W : Type}

variable {variant : UInt16} {value : Option Bytes}

/-- Wire types and their one-byte codes. -/
class WireCode (W : Type) where
  code : W → UInt8
  ofCode : UInt8 → Option W
  ofCode_code : ∀ w, ofCode (code w) = some w

/-- The constants of one codec: what it writes in front, its bounds and its errors. -/
structure Codec (ε : Type) where
  magic : Bytes
  version : UInt16
  maxBytes : Nat
  maxItems : Nat
  encoding : ε
  decoding : ε

structure TaggedField (W : Type) where
  tag : UInt16
  wireType : W
  payload : Bytes
deriving DecidableEq

structure RawObject (W : Type) where
  typeId : UInt16
  fields : List (TaggedField W)

structure RawEnum (W : Type) where
  variant : UInt16
  fields : List (TaggedField W)

/-- An object under construction. -/
structure ObjectBuilder (W : Type) where
  typeId : UInt16
  fields : List (TaggedField W)

abbrev fieldHeaderBytes : Nat := 2 + 1 + 8
abbrev listItemHeaderBytes : Nat := 8

/-- `u64::try_from(length)`. -/
def u64Length (e : ε) (length : Nat) : Except ε UInt64 := do
  rejectIf (2 ^ 64 ≤ length) e
  pure (UInt64.ofNat length)

theorem u64Length_eq_ok {e : ε} {length : Nat} {v : UInt64} : u64Length e length = .ok v ↔ v.toNat = length := by
  simp only [u64Length, bind_eq_ok, rejectIf_eq_ok, pure_eq_ok, exists_unit, not_le]
  constructor
  · rintro ⟨h, rfl⟩
    exact UInt64.toNat_ofNat_of_lt' h
  · rintro rfl
    exact ⟨v.toNat_lt, UInt64.ofNat_toNat⟩

namespace Codec

variable (c : Codec ε) [WireCode W]

/-! ## Writers -/

def enforceSize (bytes : Bytes) : Except ε Unit := rejectIf (c.maxBytes < bytes.length) c.encoding

def putFields : UInt16 → List (TaggedField W) → Except ε Bytes
  | _, [] => pure []
  | previous, field :: fields => do
    rejectIf (field.tag ≤ previous) c.encoding
    let length ← u64Length c.encoding field.payload.length
    let rest ← putFields field.tag fields
    pure (be16 field.tag ++ [WireCode.code field.wireType] ++ be64 length ++ field.payload ++ rest)

def finishNested (typeId : UInt16) (fields : List (TaggedField W)) : Except ε Bytes := do
  rejectIf (2 ^ 16 ≤ fields.length) c.encoding
  let body ← c.putFields 0 fields
  let output := be16 typeId ++ be16 c.version ++ be16 (UInt16.ofNat fields.length) ++ body
  c.enforceSize output
  pure output

def finishTop (typeId : UInt16) (fields : List (TaggedField W)) : Except ε Bytes := do
  let nested ← c.finishNested typeId fields
  let output := c.magic ++ nested
  c.enforceSize output
  pure output

/-- Append a field; its tag must be nonzero and above the last one. -/
def addField (object : ObjectBuilder W) (field : TaggedField W) : Except ε (ObjectBuilder W) := do
  rejectIf (field.tag = 0 ∨ (∃ previous ∈ object.fields.getLast?, field.tag ≤ previous.tag) ∨
    2 ^ 64 ≤ field.payload.length) c.encoding
  pure { object with fields := object.fields ++ [field] }

/-- Build an object by a sequence of calls, each computing the next field. -/
def build (object : ObjectBuilder W) : List (Except ε (TaggedField W)) → Except ε (ObjectBuilder W)
  | [] => pure object
  | call :: calls => do
    let field ← call
    build (← c.addField object field) calls

def encodeNested (typeId : UInt16) (calls : List (Except ε (TaggedField W))) : Except ε Bytes := do
  let object ← c.build ⟨typeId, []⟩ calls
  c.finishNested object.typeId object.fields

def encodeTop (typeId : UInt16) (calls : List (Except ε (TaggedField W))) : Except ε Bytes := do
  let object ← c.build ⟨typeId, []⟩ calls
  c.finishTop object.typeId object.fields

def encodeEnum (variant : UInt16) (fields : List (TaggedField W)) : Except ε Bytes := do
  rejectIf (variant = 0) c.encoding
  rejectIf (2 ^ 16 ≤ fields.length) c.encoding
  let body ← c.putFields 0 fields
  let output := be16 variant ++ be16 (UInt16.ofNat fields.length) ++ body
  c.enforceSize output
  pure output

def putItems : List Bytes → Except ε Bytes
  | [] => pure []
  | item :: items => do
    let length ← u64Length c.encoding item.length
    let rest ← putItems items
    pure (be64 length ++ item ++ rest)

def encodeList (items : List Bytes) : Except ε Bytes := do
  let count ← u64Length c.encoding items.length
  rejectIf (c.maxItems < count.toNat) c.encoding
  let body ← c.putItems items
  let output := be64 count ++ body
  c.enforceSize output
  pure output

def encodeOptional : Option Bytes → Except ε Bytes
  | none => pure [0]
  | some value => do
    let length ← u64Length c.encoding value.length
    let output := [1] ++ be64 length ++ value
    c.enforceSize output
    pure output

/-! ## The bytes of a frame, where its bounds hold -/

def fieldBytes (field : TaggedField W) : Bytes :=
  be16 field.tag ++ [WireCode.code field.wireType] ++ be64 (UInt64.ofNat field.payload.length) ++ field.payload

def fieldsBytes (fields : List (TaggedField W)) : Bytes := fields.flatMap fieldBytes

def objectBytes (typeId : UInt16) (fields : List (TaggedField W)) : Bytes :=
  be16 typeId ++ be16 c.version ++ be16 (UInt16.ofNat fields.length) ++ fieldsBytes fields

def enumBytes (variant : UInt16) (fields : List (TaggedField W)) : Bytes :=
  be16 variant ++ be16 (UInt16.ofNat fields.length) ++ fieldsBytes fields

def itemsBytes (items : List Bytes) : Bytes := items.flatMap fun item => be64 (UInt64.ofNat item.length) ++ item

def listBytes (items : List Bytes) : Bytes := be64 (UInt64.ofNat items.length) ++ itemsBytes items

def optionalBytes : Option Bytes → Bytes
  | none => [0]
  | some value => [1] ++ be64 (UInt64.ofNat value.length) ++ value

/-- Tags are nonzero and ascend. -/
abbrev Ascending (previous : UInt16) (fields : List (TaggedField W)) : Prop :=
  (previous :: fields.map (·.tag)).IsChain (· < ·)

theorem length_fieldBytes (field : TaggedField W) :
    (fieldBytes field).length = fieldHeaderBytes + field.payload.length := by
  simp only [fieldBytes, fieldHeaderBytes, List.length_append, length_be16, length_be64, List.length_cons,
    List.length_nil]

theorem length_objectBytes (typeId : UInt16) (fields : List (TaggedField W)) :
    (c.objectBytes typeId fields).length = 6 + (fieldsBytes fields).length := by
  simp only [objectBytes, List.length_append, length_be16]

variable {fields : List (TaggedField W)} {items : List Bytes}

variable {field : TaggedField W}

theorem length_payload_le (h : field ∈ fields) : field.payload.length ≤ (fieldsBytes fields).length := by
  induction fields with
  | nil => cases h
  | cons first fields ih =>
    simp only [fieldsBytes, List.flatMap_cons, List.length_append, length_fieldBytes] at ih ⊢
    rcases List.mem_cons.mp h with rfl | h
    · omega
    · exact le_trans (ih h) (by omega)

variable {c}

theorem putFields_eq {previous : UInt16} (hasc : Ascending previous fields)
    (hlen : ∀ field ∈ fields, field.payload.length < 2 ^ 64) :
    c.putFields previous fields = .ok (fieldsBytes fields) := by
  induction fields generalizing previous with
  | nil => rfl
  | cons field fields ih =>
    obtain ⟨htag, hrest⟩ := List.isChain_cons_cons.mp hasc
    have hlength : u64Length c.encoding field.payload.length = .ok (UInt64.ofNat field.payload.length) :=
      u64Length_eq_ok.mpr (UInt64.toNat_ofNat_of_lt' (hlen field List.mem_cons_self))
    have hfields := ih hrest fun f hf => hlen f (List.mem_cons_of_mem _ hf)
    simp [putFields, hlength, hfields, UInt16.not_le.mpr htag, fieldsBytes, fieldBytes]

theorem finishNested_eq {typeId : UInt16} (hmax : c.maxBytes < 2 ^ 64) (hcount : fields.length < 2 ^ 16)
    (hasc : Ascending 0 fields) (hsize : (c.objectBytes typeId fields).length ≤ c.maxBytes) :
    c.finishNested typeId fields = .ok (c.objectBytes typeId fields) := by
  have hlen : ∀ field ∈ fields, field.payload.length < 2 ^ 64 := fun field hfield => by
    have hpayload := length_payload_le hfield
    rw [length_objectBytes] at hsize
    omega
  simp only [finishNested, putFields_eq hasc hlen, enforceSize, bind_eq_ok, rejectIf_eq_ok, exists_unit, pure_eq_ok,
    Except.ok.injEq, exists_eq_left', objectBytes, not_lt, not_le, and_true] at hsize ⊢
  exact ⟨hcount, hsize⟩

theorem encodeEnum_eq (hmax : c.maxBytes < 2 ^ 64) (hvariant : variant ≠ 0) (hcount : fields.length < 2 ^ 16)
    (hasc : Ascending 0 fields) (hsize : (enumBytes variant fields).length ≤ c.maxBytes) :
    c.encodeEnum variant fields = .ok (enumBytes variant fields) := by
  have hlen : ∀ field ∈ fields, field.payload.length < 2 ^ 64 := fun field hfield => by
    have hpayload := length_payload_le hfield
    simp only [enumBytes, List.length_append] at hsize
    omega
  simp only [encodeEnum, putFields_eq hasc hlen, enforceSize, bind_eq_ok, rejectIf_eq_ok, exists_unit, pure_eq_ok,
    Except.ok.injEq, exists_eq_left', enumBytes, not_lt, not_le, and_true] at hsize ⊢
  exact ⟨hvariant, hcount, hsize⟩

theorem length_item_le {item : Bytes} (h : item ∈ items) : item.length ≤ (itemsBytes items).length := by
  induction items with
  | nil => cases h
  | cons first items ih =>
    simp only [itemsBytes, List.flatMap_cons, List.length_append] at ih ⊢
    rcases List.mem_cons.mp h with rfl | h
    · omega
    · exact le_trans (ih h) (by omega)

theorem putItems_eq (hlen : ∀ item ∈ items, item.length < 2 ^ 64) : c.putItems items = .ok (itemsBytes items) := by
  induction items with
  | nil => rfl
  | cons item items ih =>
    have hlength : u64Length c.encoding item.length = .ok (UInt64.ofNat item.length) :=
      u64Length_eq_ok.mpr (UInt64.toNat_ofNat_of_lt' (hlen item List.mem_cons_self))
    have hitems := ih fun i hi => hlen i (List.mem_cons_of_mem _ hi)
    simp [putItems, hlength, hitems, itemsBytes]

theorem encodeList_eq (hmax : c.maxBytes < 2 ^ 64) (hitems : c.maxItems < 2 ^ 64) (hcount : items.length ≤ c.maxItems)
    (hsize : (listBytes items).length ≤ c.maxBytes) : c.encodeList items = .ok (listBytes items) := by
  have hlen : ∀ item ∈ items, item.length < 2 ^ 64 := fun item hitem => by
    have hle := length_item_le hitem
    simp only [listBytes, List.length_append] at hsize
    omega
  have hn : (UInt64.ofNat items.length).toNat = items.length :=
    UInt64.toNat_ofNat_of_lt' (show items.length < 2 ^ 64 by omega)
  simp only [encodeList, u64Length_eq_ok.mpr hn, putItems_eq hlen, enforceSize, bind_eq_ok, rejectIf_eq_ok, exists_unit,
    pure_eq_ok, Except.ok.injEq, exists_eq_left', listBytes, not_lt, and_true, hn] at hsize ⊢
  exact ⟨hcount, hsize⟩

theorem encodeOptional_eq (hmax : c.maxBytes < 2 ^ 64) (hsize : (optionalBytes value).length ≤ c.maxBytes) :
    c.encodeOptional value = .ok (optionalBytes value) := by
  cases value with
  | none => rfl
  | some value =>
    simp only [optionalBytes, List.length_append] at hsize
    have hlength : u64Length c.encoding value.length = .ok (UInt64.ofNat value.length) :=
      u64Length_eq_ok.mpr (UInt64.toNat_ofNat_of_lt' (show value.length < 2 ^ 64 by omega))
    simp only [encodeOptional, hlength, enforceSize, bind_eq_ok, rejectIf_eq_ok, exists_unit, pure_eq_ok,
      Except.ok.injEq, exists_eq_left', optionalBytes, not_lt, and_true, List.length_append]
    exact hsize

variable (c)

/-! ## Readers -/

def requireMinimumFraming (count bytesPerItem : Nat) : Cursor ε Unit := do
  let remaining ← Cursor.remaining
  rejectIf (remaining < count * bytesPerItem) c.decoding

def readField (previous : UInt16) : Cursor ε (TaggedField W) := do
  let tag ← Cursor.u16 c.decoding
  let wireType ← requireSome (WireCode.ofCode (← Cursor.u8 c.decoding)) c.decoding
  let length ← Cursor.u64 c.decoding
  rejectIf (tag = 0 ∨ tag ≤ previous) c.decoding
  let payload ← Cursor.take c.decoding length.toNat
  pure ⟨tag, wireType, payload⟩

def readFields : Nat → UInt16 → Cursor ε (List (TaggedField W))
  | 0, _ => pure []
  | count + 1, previous => do
    let field ← c.readField previous
    let fields ← readFields count field.tag
    pure (field :: fields)

def readCountedFields : Cursor ε (List (TaggedField W)) := do
  let count ← Cursor.u16 c.decoding
  c.requireMinimumFraming count.toNat fieldHeaderBytes
  c.readFields count.toNat 0

def parseNested (bytes : Bytes) : Except ε (RawObject W) :=
  Cursor.finish c.decoding (do
    let typeId ← Cursor.u16 c.decoding
    let version ← Cursor.u16 c.decoding
    rejectIf (version ≠ c.version) c.decoding
    let fields ← c.readCountedFields
    pure ⟨typeId, fields⟩) bytes

/-- `bytes.strip_prefix(magic)`. -/
def strip (bytes : Bytes) : Except ε Bytes :=
  requireSome (c.magic.isPrefixOf? bytes) c.decoding

def parseTop (bytes : Bytes) : Except ε (RawObject W) := do
  c.enforceSize bytes
  c.parseNested (← c.strip bytes)

def parseEnum (bytes : Bytes) : Except ε (RawEnum W) :=
  Cursor.finish c.decoding (do
    let variant ← Cursor.u16 c.decoding
    rejectIf (variant = 0) c.decoding
    let fields ← c.readCountedFields
    pure ⟨variant, fields⟩) bytes

/-- The fields are the expected tags and wire types, in order. -/
def matchFields [DecidableEq W] (fields : List (TaggedField W)) (expected : List (UInt16 × W)) : Bool :=
  fields.length == expected.length &&
    !(fields.zip expected).any fun p => p.1.tag != p.2.1 || p.1.wireType != p.2.2

def expectObject [DecidableEq W] (object : RawObject W) (typeId : UInt16) (fields : List (UInt16 × W)) :
    Except ε Unit :=
  rejectIf (object.typeId ≠ typeId ∨ matchFields object.fields fields = false) c.decoding

def expectEnum [DecidableEq W] (value : RawEnum W) (variant : UInt16) (fields : List (UInt16 × W)) :
    Except ε Unit :=
  rejectIf (value.variant ≠ variant ∨ matchFields value.fields fields = false) c.decoding

/-- The payload of the first field with this tag. -/
def payload (fields : List (TaggedField W)) (tag : UInt16) : Except ε Bytes :=
  requireSome ((fields.find? fun field => field.tag == tag).map (·.payload)) c.decoding

def readItems : Nat → Cursor ε (List Bytes)
  | 0 => pure []
  | count + 1 => do
    let length ← Cursor.u64 c.decoding
    let item ← Cursor.take c.decoding length.toNat
    let items ← readItems count
    pure (item :: items)

def decodeList (bytes : Bytes) : Except ε (List Bytes) :=
  Cursor.finish c.decoding (do
    let count ← Cursor.u64 c.decoding
    rejectIf (c.maxItems < count.toNat) c.decoding
    c.requireMinimumFraming count.toNat listItemHeaderBytes
    c.readItems count.toNat) bytes

def decodeOptional (bytes : Bytes) : Except ε (Option Bytes) :=
  Cursor.finish c.decoding (do
    let present ← Cursor.u8 c.decoding
    if present = 0 then pure none
    else if present = 1 then
      let length ← Cursor.u64 c.decoding
      let value ← Cursor.take c.decoding length.toNat
      pure (some value)
    else throw c.decoding) bytes

/-! ## What was written is read back -/

section RoundTrip

open Cursor

variable {c} {α : Type}

theorem reads_framing {count bytesPerItem : Nat} {f : Unit → Cursor ε α} {front : Bytes} {a : α}
    (h : count * bytesPerItem ≤ front.length) (hf : Reads (f ()) front a) :
    Reads (c.requireMinimumFraming count bytesPerItem >>= f) front a := by
  intro rest
  have hlen : ¬ (front ++ rest).length < count * bytesPerItem := by rw [List.length_append]; omega
  have hguard : c.requireMinimumFraming count bytesPerItem (front ++ rest) = .ok ((), front ++ rest) :=
    Reads.lift (rejectIf_eq_ok.mpr hlen) (front ++ rest)
  show (c.requireMinimumFraming count bytesPerItem (front ++ rest) >>= fun x => f x.1 x.2) = _
  rw [hguard]
  exact hf rest

variable {previous typeId : UInt16} {fields : List (TaggedField W)} {body bytes : Bytes} {items : List Bytes}
  {calls : List (Except ε (TaggedField W))} {expected : List (UInt16 × W)}

theorem reads_readField {length : UInt64} (htag : ¬ field.tag ≤ previous) (hlen : length.toNat = field.payload.length) :
    Reads (c.readField previous)
      (be16 field.tag ++ [WireCode.code field.wireType] ++ be64 length ++ field.payload) field := by
  refine (reads_u16 c.decoding field.tag).bind ?_
  refine (reads_u8 c.decoding _).bind ?_
  refine Reads.lift_bind (requireSome_eq_ok.mpr (WireCode.ofCode_code field.wireType)) ?_
  refine (reads_u64 c.decoding length).bind (Reads.guard ?_ ?_)
  · rintro (h0 | hle)
    · exact htag (h0 ▸ UInt16.zero_le)
    · exact htag hle
  · exact (reads_take c.decoding hlen.symm).last (Reads.pure _)

theorem reads_readFields (h : c.putFields previous fields = .ok body) :
    Reads (c.readFields fields.length previous) body fields := by
  induction fields generalizing previous body with
  | nil =>
    simp only [putFields, pure_eq_ok] at h
    subst h
    exact Reads.pure _
  | cons field fields ih =>
    simp only [putFields, bind_eq_ok, rejectIf_eq_ok, exists_unit, u64Length_eq_ok, pure_eq_ok] at h
    obtain ⟨htag, length, hlen, rest, hrest, rfl⟩ := h
    refine (reads_readField htag hlen).bind ?_
    exact (ih hrest).last (Reads.pure _)

theorem length_putFields (h : c.putFields previous fields = .ok body) :
    fields.length * fieldHeaderBytes ≤ body.length := by
  induction fields generalizing previous body with
  | nil => simp
  | cons field fields ih =>
    simp only [putFields, bind_eq_ok, rejectIf_eq_ok, exists_unit, u64Length_eq_ok, pure_eq_ok] at h
    obtain ⟨_, length, _, rest, hrest, rfl⟩ := h
    have hrest' := ih hrest
    simp only [List.length_append, List.length_cons, length_be16, length_be64, List.length_nil, fieldHeaderBytes]
      at hrest' ⊢
    omega

/-- A field count as the two header bytes hold it. -/
theorem toNat_fieldCount {n : Nat} (h : ¬ 2 ^ 16 ≤ n) : (UInt16.ofNat n).toNat = n :=
  UInt16.toNat_ofNat_of_lt' (not_le.mp h)

theorem reads_readCountedFields (hcount : ¬ 2 ^ 16 ≤ fields.length) (h : c.putFields 0 fields = .ok body) :
    Reads c.readCountedFields (be16 (UInt16.ofNat fields.length) ++ body) fields := by
  refine (reads_u16 c.decoding _).bind (reads_framing ?_ ?_)
  · rw [toNat_fieldCount hcount]
    exact length_putFields h
  · rw [toNat_fieldCount hcount]
    exact reads_readFields h

theorem parseNested_finishNested (h : c.finishNested typeId fields = .ok bytes) :
    c.parseNested bytes = .ok ⟨typeId, fields⟩ := by
  simp only [finishNested, bind_eq_ok, rejectIf_eq_ok, exists_unit, pure_eq_ok] at h
  obtain ⟨hcount, body, hbody, _, rfl⟩ := h
  apply Reads.finish
  refine (reads_u16 c.decoding typeId).bind ((reads_u16 c.decoding c.version).bind ?_)
  exact Reads.guard (not_not.mpr rfl) ((reads_readCountedFields hcount hbody).last (Reads.pure _))

theorem parseTop_finishTop (h : c.finishTop typeId fields = .ok bytes) : c.parseTop bytes = .ok ⟨typeId, fields⟩ := by
  simp only [finishTop, bind_eq_ok, exists_unit, pure_eq_ok] at h
  obtain ⟨nested, hnested, hsize, rfl⟩ := h
  have hstrip : c.strip (c.magic ++ nested) = .ok nested := by simp [strip]
  simp [parseTop, hsize, hstrip, parseNested_finishNested hnested]

theorem parseEnum_encodeEnum (h : c.encodeEnum variant fields = .ok bytes) :
    c.parseEnum bytes = .ok ⟨variant, fields⟩ := by
  simp only [encodeEnum, bind_eq_ok, rejectIf_eq_ok, exists_unit, pure_eq_ok] at h
  obtain ⟨hvariant, hcount, body, hbody, _, rfl⟩ := h
  apply Reads.finish
  refine (reads_u16 c.decoding variant).bind (Reads.guard hvariant ?_)
  exact (reads_readCountedFields hcount hbody).last (Reads.pure _)

theorem reads_readItems (h : c.putItems items = .ok body) : Reads (c.readItems items.length) body items := by
  induction items generalizing body with
  | nil =>
    simp only [putItems, pure_eq_ok] at h
    subst h
    exact Reads.pure _
  | cons item items ih =>
    simp only [putItems, bind_eq_ok, u64Length_eq_ok, pure_eq_ok] at h
    obtain ⟨length, hlen, rest, hrest, rfl⟩ := h
    refine (reads_u64 c.decoding length).bind ((reads_take c.decoding hlen.symm).bind ?_)
    exact (ih hrest).last (Reads.pure _)

theorem length_putItems (h : c.putItems items = .ok body) : items.length * listItemHeaderBytes ≤ body.length := by
  induction items generalizing body with
  | nil => simp
  | cons item items ih =>
    simp only [putItems, bind_eq_ok, u64Length_eq_ok, pure_eq_ok] at h
    obtain ⟨length, _, rest, hrest, rfl⟩ := h
    have hrest' := ih hrest
    simp only [List.length_append, List.length_cons, length_be64, listItemHeaderBytes] at hrest' ⊢
    omega

theorem decodeList_encodeList (h : c.encodeList items = .ok bytes) : c.decodeList bytes = .ok items := by
  simp only [encodeList, bind_eq_ok, rejectIf_eq_ok, exists_unit, u64Length_eq_ok, pure_eq_ok] at h
  obtain ⟨count, hcount, hmax, body, hbody, _, rfl⟩ := h
  apply Reads.finish
  refine (reads_u64 c.decoding count).bind (Reads.guard hmax (reads_framing ?_ ?_))
  · rw [hcount]
    exact length_putItems hbody
  · rw [hcount]
    exact reads_readItems hbody

theorem decodeOptional_encodeOptional (h : c.encodeOptional value = .ok bytes) :
    c.decodeOptional bytes = .ok value := by
  cases value with
  | none =>
    simp only [encodeOptional, pure_eq_ok] at h
    subst h
    apply Reads.finish
    exact (reads_u8 c.decoding 0).last (Reads.pure _)
  | some value =>
    simp only [encodeOptional, bind_eq_ok, exists_unit, u64Length_eq_ok, pure_eq_ok] at h
    obtain ⟨length, hlen, _, rfl⟩ := h
    apply Reads.finish
    refine (reads_u8 c.decoding 1).bind ((reads_u64 c.decoding length).bind ?_)
    exact (reads_take c.decoding hlen.symm).last (Reads.pure _)

/-- `calls` computed `fields`, one each. -/
abbrev Computed (calls : List (Except ε (TaggedField W))) (fields : List (TaggedField W)) : Prop :=
  List.Forall₂ (fun call field => call = .ok field) calls fields

variable {object : ObjectBuilder W}

omit [WireCode W] in
theorem build_computed {object' : ObjectBuilder W} (h : c.build object calls = .ok object') :
    ∃ fields, Computed calls fields ∧ object' = ⟨object.typeId, object.fields ++ fields⟩ := by
  induction calls generalizing object with
  | nil =>
    simp only [build, pure_eq_ok] at h
    exact ⟨[], .nil, by rw [List.append_nil, h]⟩
  | cons call calls ih =>
    simp only [build, addField, bind_eq_ok, exists_unit, pure_eq_ok, rejectIf_eq_ok] at h
    obtain ⟨field, hcall, next, ⟨_, rfl⟩, hrest⟩ := h
    obtain ⟨fields, hfields, rfl⟩ := ih hrest
    exact ⟨field :: fields, .cons hcall hfields, by rw [List.append_assoc]; rfl⟩

theorem parseNested_encodeNested (h : c.encodeNested typeId calls = .ok bytes) :
    ∃ fields, Computed calls fields ∧ c.parseNested bytes = .ok ⟨typeId, fields⟩ := by
  simp only [encodeNested, bind_eq_ok] at h
  obtain ⟨object, hbuild, hfinish⟩ := h
  obtain ⟨fields, hfields, rfl⟩ := build_computed hbuild
  exact ⟨fields, hfields, parseNested_finishNested hfinish⟩

theorem parseTop_encodeTop (h : c.encodeTop typeId calls = .ok bytes) :
    ∃ fields, Computed calls fields ∧ c.parseTop bytes = .ok ⟨typeId, fields⟩ := by
  simp only [encodeTop, bind_eq_ok] at h
  obtain ⟨object, hbuild, hfinish⟩ := h
  obtain ⟨fields, hfields, rfl⟩ := build_computed hbuild
  exact ⟨fields, hfields, parseTop_finishTop hfinish⟩

/-- Behind the magic stands the nested encoding. -/
theorem strip_encodeTop (h : c.encodeTop typeId calls = .ok bytes) :
    c.enforceSize bytes = .ok () ∧ ∃ nested, c.strip bytes = .ok nested ∧ c.encodeNested typeId calls = .ok nested := by
  simp only [encodeTop, finishTop, bind_eq_ok, exists_unit, pure_eq_ok] at h
  obtain ⟨object, hbuild, nested, hnested, hsize, rfl⟩ := h
  exact ⟨hsize, nested, by simp [strip], by simp [encodeNested, hbuild, hnested]⟩

omit [WireCode W] in
@[simp] theorem computed_cons {call : Except ε (TaggedField W)} :
    Computed (call :: calls) fields ↔ ∃ field rest, call = .ok field ∧ Computed calls rest ∧ fields = field :: rest :=
  List.forall₂_cons_left_iff

omit [WireCode W] in
theorem build_eq (hcalls : Computed calls fields) (hasc : Ascending 0 (object.fields ++ fields))
    (hlen : ∀ field ∈ fields, field.payload.length < 2 ^ 64) :
    c.build object calls = .ok ⟨object.typeId, object.fields ++ fields⟩ := by
  induction hcalls generalizing object with
  | nil => rw [List.append_nil]; rfl
  | @cons call field calls fields hcall _ ih =>
    -- Ascending tags put every earlier tag below the next one.
    have hbelow : ∀ tag ∈ 0 :: object.fields.map (·.tag), tag < field.tag := by
      have hpairs := List.isChain_iff_pairwise.mp hasc
      rw [List.map_append, ← List.cons_append, List.pairwise_append] at hpairs
      exact fun tag htag => hpairs.2.2 tag htag field.tag List.mem_cons_self
    have hfits : c.addField object field = .ok ⟨object.typeId, object.fields ++ [field]⟩ := by
      simp only [addField, bind_eq_ok, rejectIf_eq_ok, exists_unit, pure_eq_ok, and_true, not_or, not_exists, not_and]
      refine ⟨(UInt16.ne_of_lt (hbelow 0 List.mem_cons_self)).symm, fun previous hprevious => ?_, ?_⟩
      · have hmem := List.mem_map_of_mem (f := (·.tag)) (List.mem_of_mem_getLast? hprevious)
        exact UInt16.not_le.mpr (hbelow _ (List.mem_cons_of_mem _ hmem))
      · exact not_le.mpr (hlen field List.mem_cons_self)
    have hrest : c.build ⟨object.typeId, object.fields ++ [field]⟩ calls = _ := ih
      (by simpa only [List.append_assoc, List.singleton_append] using hasc)
      fun f hf => hlen f (List.mem_cons_of_mem _ hf)
    simp [build, hcall, hfits, hrest]

/-- Calls that compute ascending fields of a small enough object write its bytes. -/
theorem encodeNested_eq (hmax : c.maxBytes < 2 ^ 64) (hcalls : Computed calls fields) (hcount : fields.length < 2 ^ 16)
    (hasc : Ascending 0 fields) (hsize : (c.objectBytes typeId fields).length ≤ c.maxBytes) :
    c.encodeNested typeId calls = .ok (c.objectBytes typeId fields) := by
  have hlen : ∀ field ∈ fields, field.payload.length < 2 ^ 64 := fun field hfield => by
    have hpayload := length_payload_le hfield
    rw [length_objectBytes] at hsize
    omega
  have hbuild : c.build ⟨typeId, []⟩ calls = .ok ⟨typeId, [] ++ fields⟩ := build_eq hcalls hasc hlen
  simp [encodeNested, hbuild, finishNested_eq hmax hcount hasc hsize]

omit [WireCode W] in
theorem matchFields_eq_true [DecidableEq W] :
    matchFields fields expected = true ↔ fields.map (fun field => (field.tag, field.wireType)) = expected := by
  induction fields generalizing expected with
  | nil => cases expected <;> simp [matchFields]
  | cons field fields ih =>
    cases expected with
    | nil => simp [matchFields]
    | cons e expected =>
      have hrest := @ih expected
      simp only [matchFields, List.length_cons, List.zip_cons_cons, List.any_cons, List.map_cons, List.cons.injEq,
        ← hrest, Bool.and_eq_true, beq_iff_eq, Bool.not_eq_eq_eq_not, Bool.not_true,
        Bool.or_eq_false_iff, bne_eq_false_iff_eq, List.any_eq_false, Nat.add_right_cancel_iff, Prod.ext_iff]
      tauto

omit [WireCode W] in
/-- An object of the expected type with the expected fields passes. -/
theorem expectObject_ok [DecidableEq W] (h : fields.map (fun field => (field.tag, field.wireType)) = expected) :
    c.expectObject ⟨typeId, fields⟩ typeId expected = .ok () := by
  simp [expectObject, matchFields_eq_true.mpr h]

omit [WireCode W] in
theorem expectEnum_ok [DecidableEq W] (h : fields.map (fun field => (field.tag, field.wireType)) = expected) :
    c.expectEnum ⟨variant, fields⟩ variant expected = .ok () := by
  simp [expectEnum, matchFields_eq_true.mpr h]

omit [WireCode W] in
@[simp] theorem payload_cons_self {tag : UInt16} {wireType : W} :
    c.payload (⟨tag, wireType, bytes⟩ :: fields) tag = .ok bytes := by
  simp [payload]

omit [WireCode W] in
@[simp] theorem payload_cons_ne {tag : UInt16} (h : field.tag ≠ tag) :
    c.payload (field :: fields) tag = c.payload fields tag := by
  simp [payload, h]

end RoundTrip

end Codec

end Again.Lib
