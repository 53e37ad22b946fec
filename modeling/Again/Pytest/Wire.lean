import Again.Lib.Frame
import Again.Pytest.Contract

/-!
# The canonical codec

`canonical.rs`: the wire types and framing of the canonical encodings. An
encoder is a sequence of `ObjectBuilder` calls, one per field, each computing
that field; a decoder parses the object, requires the exact field list and
reads the payloads by tag.
-/

namespace Again.Pytest.Canonical

open Lib

inductive WireType where
  | u8 | u16 | u32 | u64 | i32 | i64 | bool | bytes | utf8 | object | list | optional | enum
deriving DecidableEq

def WireType.code : WireType → UInt8
  | u8 => 0x01
  | u16 => 0x02
  | u32 => 0x03
  | u64 => 0x04
  | i32 => 0x05
  | i64 => 0x06
  | bool => 0x07
  | bytes => 0x08
  | utf8 => 0x09
  | object => 0x0a
  | list => 0x0b
  | optional => 0x0c
  | enum => 0x0d

def WireType.fromU8 : UInt8 → Option WireType
  | 0x01 => some u8
  | 0x02 => some u16
  | 0x03 => some u32
  | 0x04 => some u64
  | 0x05 => some i32
  | 0x06 => some i64
  | 0x07 => some bool
  | 0x08 => some bytes
  | 0x09 => some utf8
  | 0x0a => some object
  | 0x0b => some list
  | 0x0c => some optional
  | 0x0d => some enum
  | _ => none

instance : WireCode WireType where
  code := WireType.code
  ofCode := WireType.fromU8
  ofCode_code w := by cases w <;> rfl

def effectIrV2MaxCanonicalBytes : Nat := 512 * 1024 * 1024
def effectIrV2MaxCollectionItems : Nat := 10000000
def effectIrV2WireVersion : UInt16 := 1
def effectIrV2WireMagic : Bytes := Lib.utf8 "AGNCAN01"

def codec : Codec ContractError where
  magic := effectIrV2WireMagic
  version := effectIrV2WireVersion
  maxBytes := effectIrV2MaxCanonicalBytes
  maxItems := effectIrV2MaxCollectionItems
  encoding := .canonicalEncoding
  decoding := .canonicalDecoding

theorem maxBytes_lt : codec.maxBytes < 2 ^ 64 := by decide
theorem maxItems_lt : codec.maxItems < 2 ^ 64 := by decide

/-! ## Builder calls -/

def enumField (tag : UInt16) (wireType : WireType) (payload : Bytes) : TaggedField WireType := ⟨tag, wireType, payload⟩

abbrev Call := Except ContractError (TaggedField WireType)

def callField (tag : UInt16) (wireType : WireType) (payload : Bytes) : Call := pure ⟨tag, wireType, payload⟩

def callU16 (tag : UInt16) (value : UInt16) : Call := callField tag .u16 (be16 value)
def callU32 (tag : UInt16) (value : UInt32) : Call := callField tag .u32 (be32 value)
def callU64 (tag : UInt16) (value : UInt64) : Call := callField tag .u64 (be64 value)
def callI64 (tag : UInt16) (value : Int64) : Call := callField tag .i64 (beI64 value)
def callBytes (tag : UInt16) (value : Bytes) : Call := callField tag .bytes value
def callUtf8 (tag : UInt16) (value : String) : Call := callField tag .utf8 (utf8 value)

def callObject (tag : UInt16) (value : Except ContractError Bytes) : Call := do
  callField tag .object (← value)

def callList (tag : UInt16) (items : Except ContractError (List Bytes)) : Call := do
  callField tag .list (← codec.encodeList (← items))

def callEnumeration (tag : UInt16) (variant : UInt16) (fields : List (TaggedField WireType)) : Call := do
  callField tag .enum (← codec.encodeEnum variant fields)

def callOptional (tag : UInt16) (value : Except ContractError (Option Bytes)) : Call := do
  callField tag .optional (← codec.encodeOptional (← value))

section Calls

variable {tag : UInt16} {wireType : WireType} {bytes : Bytes} {field : TaggedField WireType}

@[simp] theorem callField_eq_ok : callField tag wireType bytes = .ok field ↔ ⟨tag, wireType, bytes⟩ = field := by
  simp [callField]

@[simp] theorem callObject_eq_ok {value : Except ContractError Bytes} :
    callObject tag value = .ok field ↔ ∃ b, value = .ok b ∧ ⟨tag, .object, b⟩ = field := by
  simp [callObject]

@[simp] theorem callList_eq_ok {items : Except ContractError (List Bytes)} :
    callList tag items = .ok field ↔
      ∃ xs, items = .ok xs ∧ ∃ b, codec.encodeList xs = .ok b ∧ ⟨tag, .list, b⟩ = field := by
  simp [callList]

@[simp] theorem callEnumeration_eq_ok {variant : UInt16} {fields : List (TaggedField WireType)} :
    callEnumeration tag variant fields = .ok field ↔
      ∃ b, codec.encodeEnum variant fields = .ok b ∧ ⟨tag, .enum, b⟩ = field := by
  simp [callEnumeration]

@[simp] theorem callOptional_eq_ok {value : Except ContractError (Option Bytes)} :
    callOptional tag value = .ok field ↔
      ∃ x, value = .ok x ∧ ∃ b, codec.encodeOptional x = .ok b ∧ ⟨tag, .optional, b⟩ = field := by
  simp [callOptional]

end Calls

/-! ## Scalars -/

def exact (n : Nat) (bytes : Bytes) : Except ContractError (Octets n) :=
  requireSome (octets? n bytes) .canonicalDecoding

def decodeU16 (bytes : Bytes) : Except ContractError UInt16 := do pure (ofBe16 (← exact 2 bytes))
def decodeU32 (bytes : Bytes) : Except ContractError UInt32 := do pure (ofBe32 (← exact 4 bytes))
def decodeU64 (bytes : Bytes) : Except ContractError UInt64 := do pure (ofBe64 (← exact 8 bytes))
def decodeI64 (bytes : Bytes) : Except ContractError Int64 := do pure (ofBeI64 (← exact 8 bytes))

def decodeBool (bytes : Bytes) : Except ContractError Bool :=
  match bytes with
  | [0] => pure false
  | [1] => pure true
  | _ => throw .canonicalDecoding

def decodeUtf8 (bytes : Bytes) : Except ContractError String := requireSome (fromUtf8? bytes) .canonicalDecoding

def decodeSimpleEnum (bytes : Bytes) : Except ContractError UInt16 := do
  let value : RawEnum WireType ← codec.parseEnum bytes
  rejectIf (value.fields ≠ []) .canonicalDecoding
  pure value.variant

@[simp] theorem exact_val {n : Nat} (a : Octets n) : exact n a.val = .ok a := by simp [exact]
@[simp] theorem decodeU16_be16 (v : UInt16) : decodeU16 (be16 v) = .ok v := by simp [decodeU16, exact, octets?]
@[simp] theorem decodeU32_be32 (v : UInt32) : decodeU32 (be32 v) = .ok v := by simp [decodeU32, exact, octets?]
@[simp] theorem decodeU64_be64 (v : UInt64) : decodeU64 (be64 v) = .ok v := by simp [decodeU64, exact, octets?]
@[simp] theorem decodeI64_beI64 (v : Int64) : decodeI64 (beI64 v) = .ok v := by simp [decodeI64, exact, octets?]
@[simp] theorem decodeUtf8_utf8 (s : String) : decodeUtf8 (utf8 s) = .ok s := by simp [decodeUtf8]

@[simp] theorem decodeBool_ite (v : Bool) : decodeBool [if v then 1 else 0] = .ok v := by cases v <;> rfl

/-- A nested object is read back by a decoder that reads its fields back. -/
theorem readsBack_nested {α : Type} {typeId : UInt16} {calls : α → List (Except ContractError (TaggedField WireType))}
    {decode : Bytes → Except ContractError α} (h : ∀ value bytes fields, Codec.Computed (calls value) fields →
      codec.parseNested bytes = .ok ⟨typeId, fields⟩ → decode bytes = .ok value) :
    ReadsBack (fun value => codec.encodeNested typeId (calls value)) decode := by
  intro value bytes hencode
  obtain ⟨fields, hcalls, hparse⟩ := Codec.parseNested_encodeNested hencode
  exact h value bytes fields hcalls hparse

theorem decodeSimpleEnum_encodeEnum {variant : UInt16} {bytes : Bytes}
    (h : codec.encodeEnum variant ([] : List (TaggedField WireType)) = .ok bytes) :
    decodeSimpleEnum bytes = .ok variant := by
  simp [decodeSimpleEnum, Codec.parseEnum_encodeEnum h]

end Again.Pytest.Canonical
