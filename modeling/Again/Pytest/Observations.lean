import Again.Lib.SortMerge
import Again.Pytest.Wire

/-!
# Observations and their closure

`linux_pytest.rs`: what a traced run observed, the dependency each observation
stands for, and `ObservationClosureV1`, the dependencies of a run in canonical
order.
-/

namespace Again.Pytest

open Lib

def casObjectDomain := "again linux pytest cas object v1"
def observationClosureDomain := "again linux pytest observation closure v1"

def malformedRecordIf (c : Prop) [Decidable c] : Except ContractError Unit := rejectIf c .malformedRecord

@[simp] theorem malformedRecordIf_eq_ok {c : Prop} [Decidable c] {u : Unit} : malformedRecordIf c = .ok u ↔ ¬ c :=
  rejectIf_eq_ok

structure BlobRefV2 where
  digest : BlobDigest
  byteCount : UInt64
deriving DecidableEq

abbrev LogicalTaskId := UInt32

/-! ## Observations -/

inductive ObservationKindV2 where
  | file | directory | absentPath | symlink | executable | mapping | metadata
deriving DecidableEq

def ObservationKindV2.code : ObservationKindV2 → UInt16
  | file => 1
  | directory => 2
  | absentPath => 3
  | symlink => 4
  | executable => 5
  | mapping => 6
  | metadata => 7

def ObservationKindV2.fixedDependencyKey : ObservationKindV2 → Option Bytes
  | file => some (utf8 "bytes")
  | directory => some (utf8 "members")
  | absentPath => some (utf8 "absent")
  | symlink => some (utf8 "target")
  | executable => some (utf8 "executable")
  | mapping | metadata => none

inductive ObservationDetailV1 where
  | file (contentDigest : FileContentDigest) (byteCount : UInt64)
  | directory (membershipDigest : BlobDigest) (entryCount : UInt64)
  | absentPath (parentMembershipDigest : BlobDigest) (missingComponent : Bytes)
  | symlink (target : Bytes)
  | executable (nodeDigest : NodeDigest) (chainDigest : ExecutableChainDigest)
  | mapping (contentDigest : FileContentDigest) (offset length : UInt64) (protection flags : UInt32)
  | metadata (fieldMask : UInt64) (valueDigest : BlobDigest)
deriving DecidableEq

/-- Metadata fields a mask may name. -/
def knownMetadataMask (mask : UInt64) : Bool := mask != 0 && mask &&& ~~~0x01ff == 0

namespace ObservationDetailV1

def kind : ObservationDetailV1 → ObservationKindV2
  | file .. => .file
  | directory .. => .directory
  | absentPath .. => .absentPath
  | symlink .. => .symlink
  | executable .. => .executable
  | mapping .. => .mapping
  | metadata .. => .metadata

def valid : ObservationDetailV1 → Bool
  | file contentDigest _ => !contentDigest.isZero
  | directory membershipDigest _ => !membershipDigest.isZero
  | absentPath parentMembershipDigest missingComponent =>
    !parentMembershipDigest.isZero && validBasename missingComponent
  | symlink target =>
    target != [] && !target.contains 0 && decide (target.length ≤ Canonical.effectIrV2MaxCanonicalBytes)
  | executable nodeDigest chainDigest => !nodeDigest.isZero && !chainDigest.isZero
  | mapping contentDigest offset length _ _ =>
    !contentDigest.isZero && length != 0 && decide (offset.toNat + length.toNat < 2 ^ 64)
  | metadata fieldMask valueDigest => knownMetadataMask fieldMask && !valueDigest.isZero

def validate (detail : ObservationDetailV1) : Except ContractError Unit := malformedRecordIf (detail.valid = false)

def dependencyKey : ObservationDetailV1 → Bytes
  | mapping _ offset length protection flags =>
    utf8 "mapping-v1" ++ be64 offset ++ be64 length ++ be32 protection ++ be32 flags
  | metadata fieldMask _ => utf8 "metadata-v1" ++ be64 fieldMask
  | detail => detail.kind.fixedDependencyKey.getD []

end ObservationDetailV1

structure ObservationV2 where
  sequence : UInt64
  logicalTaskId : LogicalTaskId
  kind : ObservationKindV2
  sandboxSubject : SandboxPath
  canonicalDetail : ObservationDetailV1
deriving DecidableEq

/-! ## The detail's encoding -/

namespace Canonical

def typeBlobRef : UInt16 := 0x000f
def typeObservationClosure : UInt16 := 0x0013
def typeObservationDependency : UInt16 := 0x0014
def typeObservationDetail : UInt16 := 0x0018

def observationDetailFields : ObservationDetailV1 → List (TaggedField WireType)
  | .file contentDigest byteCount => [enumField 1 .bytes contentDigest.val, enumField 2 .u64 (be64 byteCount)]
  | .directory membershipDigest entryCount =>
    [enumField 1 .bytes membershipDigest.val, enumField 2 .u64 (be64 entryCount)]
  | .absentPath parentMembershipDigest missingComponent =>
    [enumField 1 .bytes parentMembershipDigest.val, enumField 2 .bytes missingComponent]
  | .symlink target => [enumField 1 .bytes target]
  | .executable nodeDigest chainDigest => [enumField 1 .bytes nodeDigest.val, enumField 2 .bytes chainDigest.val]
  | .mapping contentDigest offset length protection flags =>
    [enumField 1 .bytes contentDigest.val, enumField 2 .u64 (be64 offset), enumField 3 .u64 (be64 length),
      enumField 4 .u32 (be32 protection), enumField 5 .u32 (be32 flags)]
  | .metadata fieldMask valueDigest => [enumField 1 .u64 (be64 fieldMask), enumField 2 .bytes valueDigest.val]

/-- The enum variant of a detail is the code of its kind. -/
def observationDetailCalls (value : ObservationDetailV1) : List Call :=
  [callEnumeration 1 value.kind.code (observationDetailFields value)]

def encodeObservationDetail (value : ObservationDetailV1) : Except ContractError Bytes := do
  value.validate
  codec.encodeNested typeObservationDetail (observationDetailCalls value)

def encodeObservationDetailTop (value : ObservationDetailV1) : Except ContractError Bytes := do
  value.validate
  codec.encodeTop typeObservationDetail (observationDetailCalls value)

def encodeBlob (value : BlobRefV2) : Except ContractError Bytes :=
  codec.encodeNested typeBlobRef [callBytes 1 value.digest.val, callU64 2 value.byteCount]

end Canonical

def ObservationDetailV1.currentValue (hash : Blake3) (detail : ObservationDetailV1) : Except ContractError BlobRefV2 := do
  detail.validate
  let bytes ← Canonical.encodeObservationDetailTop detail
  let byteCount ← u64Length .canonicalEncoding bytes.length
  pure ⟨derive hash casObjectDomain [bytes], byteCount⟩

/-! ## Dependencies -/

/-- What an observation depends on, without its place in the trace. -/
structure ObservationDependencyV1 where
  key : Bytes
  kind : ObservationKindV2
  subject : SandboxPath
  currentValue : BlobRefV2
deriving DecidableEq

/-- By kind, then subject, then key; the value is not compared. -/
def compareDependencyIdentity (left right : ObservationDependencyV1) : Ordering :=
  (compare left.kind.code right.kind.code).then
    ((compare left.subject.val right.subject.val).then (compare left.key right.key))

def validObservationDependencyKey (kind : ObservationKindV2) (key : Bytes) : Bool :=
  match kind.fixedDependencyKey with
  | some fixed => key == fixed
  | none =>
    match kind with
    | .mapping => (utf8 "mapping-v1").isPrefixOf key && key.length == 10 + 8 + 8 + 4 + 4
    | .metadata =>
      (utf8 "metadata-v1").isPrefixOf key &&
        match octets? 8 (key.drop 11) with
        | some mask => knownMetadataMask (ofBe64 mask)
        | none => false
    | _ => false

structure ObservationClosureV1 where
  dependencies : List ObservationDependencyV1
deriving DecidableEq

namespace ObservationClosureV1

def validate (closure : ObservationClosureV1) : Except ContractError Unit :=
  rejectIf (closure.dependencies = [] ∨
    anyWindow (fun left right => compareDependencyIdentity left right != .lt) closure.dependencies ∨
    closure.dependencies.any fun dependency =>
      !validSandboxPathBytes dependency.subject.val || !validObservationDependencyKey dependency.kind dependency.key ||
        dependency.currentValue.digest.isZero ||
        decide (Canonical.effectIrV2MaxCanonicalBytes < dependency.currentValue.byteCount.toNat))
    .malformedLookupIdentity

def new (dependencies : List ObservationDependencyV1) : Except ContractError ObservationClosureV1 := do
  let normalized ← sortMerge compareDependencyIdentity .malformedLookupIdentity dependencies
  let value : ObservationClosureV1 := ⟨normalized⟩
  value.validate
  pure value

end ObservationClosureV1

/-- The dependency of one observation. -/
def ObservationV2.dependency (hash : Blake3) (observation : ObservationV2) :
    Except ContractError ObservationDependencyV1 := do
  malformedRecordIf (observation.kind ≠ observation.canonicalDetail.kind)
  let currentValue ← observation.canonicalDetail.currentValue hash
  pure { key := observation.canonicalDetail.dependencyKey, kind := observation.kind,
         subject := observation.sandboxSubject, currentValue }

def ObservationClosureV1.fromObservations (hash : Blake3) (observations : List ObservationV2) :
    Except ContractError ObservationClosureV1 := do
  ObservationClosureV1.new (← observations.mapM (·.dependency hash))

namespace Canonical

def encodeObservationDependency (value : ObservationDependencyV1) : Except ContractError Bytes :=
  codec.encodeNested typeObservationDependency [
    callBytes 1 value.key,
    callEnumeration 2 value.kind.code [],
    callBytes 3 value.subject.val,
    callObject 4 (encodeBlob value.currentValue)]

def encodeObservationClosure (value : ObservationClosureV1) : Except ContractError Bytes :=
  codec.encodeTop typeObservationClosure [callList 1 (value.dependencies.mapM encodeObservationDependency)]

end Canonical

def ObservationClosureV1.canonicalBytes (closure : ObservationClosureV1) : Except ContractError Bytes := do
  closure.validate
  Canonical.encodeObservationClosure closure

def ObservationClosureV1.digest (hash : Blake3) (closure : ObservationClosureV1) :
    Except ContractError ObservationClosureDigest := do
  pure (deriveTagged hash observationClosureDomain [(1, ← closure.canonicalBytes)])

/-! ## The closure of a run -/

instance : Std.TransCmp compareDependencyIdentity := by
  have h : compareDependencyIdentity =
      compareLex (compareOn fun dependency => dependency.kind.code)
        (compareLex (compareOn fun dependency => dependency.subject.val) (compareOn fun dependency => dependency.key)) :=
    rfl
  rw [h]
  infer_instance

namespace ObservationClosureV1

variable {closure : ObservationClosureV1}

theorem validate_strict (h : closure.validate = .ok ()) : Strict compareDependencyIdentity closure.dependencies := by
  simp only [validate, rejectIf_eq_ok, not_or, Bool.not_eq_true, anyWindow_eq_false] at h
  have hchain : closure.dependencies.IsChain fun left right => compareDependencyIdentity left right = .lt :=
    h.2.1.imp fun _ _ hlt => by simpa using hlt
  have htrans : IsTrans ObservationDependencyV1 fun left right => compareDependencyIdentity left right = .lt :=
    ⟨fun _ _ _ hab hbc => Std.TransCmp.lt_trans hab hbc⟩
  exact List.isChain_iff_pairwise.mp hchain

variable {xs : List ObservationDependencyV1}

/-- Only the set of dependencies matters. -/
theorem new_congr {ys : List ObservationDependencyV1} (h : ∀ dependency, dependency ∈ xs ↔ dependency ∈ ys) :
    new xs = new ys := by
  simp only [new, sortMerge_congr h]

theorem new_ok (h : new xs = .ok closure) :
    closure.validate = .ok () ∧ Strict compareDependencyIdentity closure.dependencies ∧
      ∀ dependency, dependency ∈ closure.dependencies ↔ dependency ∈ xs := by
  simp only [new, bind_eq_ok, exists_unit, pure_eq_ok] at h
  obtain ⟨normalized, hmerge, hvalid, rfl⟩ := h
  exact ⟨hvalid, sortMerge_ok hmerge⟩

/-- A valid closure is normal. -/
theorem new_dependencies (h : closure.validate = .ok ()) : new closure.dependencies = .ok closure := by
  simp [new, sortMerge_self (validate_strict h), h]

theorem new_conflict {left right : ObservationDependencyV1} (hleft : left ∈ xs) (hright : right ∈ xs)
    (hsame : compareDependencyIdentity left right = .eq) (hne : left ≠ right) :
    new xs = .error .malformedLookupIdentity := by
  rcases sortMerge_cases (c := compareDependencyIdentity) (e := ContractError.malformedLookupIdentity) xs with
    ⟨ys, hys, -⟩ | ⟨herror, -⟩
  · exact absurd (sortMerge_isOk_iff.mp ⟨ys, hys⟩ left hleft right hright hsame) hne
  · simp only [new, herror]
    rfl

end ObservationClosureV1

end Again.Pytest
