import Again.Lib.Paths

/-!
# Contract vocabulary

`linux_pytest.rs`: the digests, identities and paths every part of the pytest
profile is written in. BLAKE3 is a parameter: a digest is the hash of a domain
string and a framed message.
-/

namespace Again.Pytest

open Lib

inductive ContractError where
  | invalidDigest
  | invalidCompletenessMasks
  | schemaProfileMismatch
  | malformedRecord
  | malformedLookupIdentity
  | malformedManifest
  | canonicalEncoding
  | canonicalDecoding
  | comparisonMismatch
deriving DecidableEq

/-! ## Digests -/

abbrev Digest := Octets 32

abbrev BlobDigest := Digest
abbrev ProfileDigest := Digest
abbrev WorkspaceIdentity := Digest
abbrev MerkleRoot := Digest
abbrev ShapeKey := Digest
abbrev RequestKey := Digest
abbrev PairComparisonDigest := Digest
abbrev EnvironmentDigest := Digest
abbrev EnvironmentNamesDigest := Digest
abbrev EnvironmentKeyId := Digest
abbrev CapabilityDigest := Digest
abbrev PolicyDigest := Digest
abbrev NodeDigest := Digest
abbrev HardlinkGroupDigest := Digest
abbrev ObservationClosureDigest := Digest
abbrev FileContentDigest := Digest
abbrev ExecutableChainDigest := Digest

def Digest.isZero (digest : Digest) : Bool := digest == Octets.fill 32 0

/-- BLAKE3 in key-derivation mode: the context string and the hashed bytes. -/
abbrev Blake3 := String → Bytes → Digest

/-- A hash for concrete runs that tells only the domains apart. -/
def domainHash : Blake3 := fun domain _ => Octets.fill 32 (UInt8.ofNat domain.length)

def hashFrameMagic : Bytes := utf8 "AGNHSH01"

/-- The bytes `derive_tagged` feeds to the hasher. -/
def hashFrame (fields : List (UInt16 × Bytes)) : Bytes :=
  hashFrameMagic ++ be32 (UInt32.ofNat fields.length) ++
    fields.flatMap fun field => be16 field.1 ++ be64 (UInt64.ofNat field.2.length) ++ field.2

def deriveTagged (hash : Blake3) (domain : String) (fields : List (UInt16 × Bytes)) : Digest :=
  hash domain (hashFrame fields)

def derive (hash : Blake3) (domain : String) (fields : List Bytes) : Digest :=
  deriveTagged hash domain ((fields.zipIdx 1).map fun field => (UInt16.ofNat field.2, field.1))

/-- A frame determines its tags and fields. -/
theorem hashFrame_injective {left right : List (UInt16 × Bytes)} (hleft : left.length < 2 ^ 32)
    (hright : right.length < 2 ^ 32) (hleftLen : ∀ field ∈ left, field.2.length < 2 ^ 64)
    (hrightLen : ∀ field ∈ right, field.2.length < 2 ^ 64) (h : hashFrame left = hashFrame right) : left = right := by
  simp only [hashFrame, List.append_assoc] at h
  obtain ⟨hcount, hfields⟩ := List.append_inj (List.append_cancel_left h) (by simp)
  have hlength : left.length = right.length := by
    have hvalue := congrArg UInt32.toNat (be32_injective hcount)
    rwa [UInt32.toNat_ofNat_of_lt' hleft, UInt32.toNat_ofNat_of_lt' hright] at hvalue
  clear h hcount hleft hright
  induction left generalizing right with
  | nil => exact (List.length_eq_zero_iff.mp hlength.symm).symm
  | cons first left ih =>
    cases right with
    | nil => cases hlength
    | cons second right =>
      simp only [List.flatMap_cons, List.append_assoc] at hfields
      obtain ⟨htag, hrest⟩ := List.append_inj hfields (by simp)
      obtain ⟨hpayload, hrest⟩ := lengthPrefixed_inj (hleftLen first List.mem_cons_self)
        (hrightLen second List.mem_cons_self) hrest
      have hsame := ih (fun field hf => hleftLen field (List.mem_cons_of_mem _ hf))
        (fun field hf => hrightLen field (List.mem_cons_of_mem _ hf)) hrest (Nat.succ.inj hlength)
      rw [Prod.ext (be16_injective htag) hpayload, hsame]

def hardlinkGroupDomain := "again linux pytest hardlink group v1"
def regularNodeDomain := "again linux pytest regular node v1"
def symlinkNodeDomain := "again linux pytest symlink node v1"
def directoryNodeDomain := "again linux pytest directory node v1"
def externalTreeNodeDomain := "again linux pytest external tree node v1"
def workspaceMerkleDomain := "again linux pytest workspace merkle v1"
def runtimeMerkleDomain := "again linux pytest runtime merkle v1"

/-! ## Paths -/

/-- A path component that is neither empty nor `.` nor `..`. -/
def plainComponent (component : Bytes) : Bool :=
  component != [] && component != utf8 "." && component != utf8 ".."

def validSandboxPathBytes (subject : Bytes) : Bool :=
  if subject.head? ≠ some slash ∨ 0 ∈ subject then false
  else if subject = utf8 "/" then true
  else subject.getLast? != some slash && (subject.tail.splitOn slash).all plainComponent

def sandboxPathIsAncestor (parent child : Bytes) : Bool :=
  match parent.isPrefixOf? child with
  | some suffix => suffix.head? == some slash
  | none => false

def sandboxPathIsWithin (root candidate : Bytes) : Bool := candidate == root || sandboxPathIsAncestor root candidate

def validManifestRelativePath (path : Bytes) : Bool :=
  if path = [] then true
  else path.head? != some slash && path.getLast? != some slash && !path.contains 0 &&
    (path.splitOn slash).all plainComponent

def validBasename (name : Bytes) : Bool := plainComponent name && !name.contains 0 && !name.contains slash

def joinRelative (parent child : Bytes) : Bytes := if parent = [] then child else parent ++ slash :: child

def joinSandboxRelative (mount relative : Bytes) : Bytes := if relative = [] then mount else mount ++ slash :: relative

theorem valid_a : validSandboxPathBytes (utf8 "/a") = true := by decide +kernel

theorem valid_workspace : validSandboxPathBytes (utf8 "/workspace") = true := by decide +kernel

/-- `SandboxPath`: only `new` builds one, after checking the bytes. -/
abbrev SandboxPath := { bytes : Bytes // validSandboxPathBytes bytes = true }

def SandboxPath.new (bytes : Bytes) : Except ContractError SandboxPath :=
  if h : validSandboxPathBytes bytes = true then .ok ⟨bytes, h⟩ else .error .malformedRecord

@[simp] theorem SandboxPath.new_val (path : SandboxPath) : SandboxPath.new path.val = .ok path := dif_pos path.property

theorem sandboxPathIsAncestor_iff {parent child : Bytes} :
    sandboxPathIsAncestor parent child = true ↔ ∃ suffix, child = parent ++ slash :: suffix := by
  unfold sandboxPathIsAncestor
  constructor
  · intro h
    split at h
    · next suffix hp =>
      rw [List.isPrefixOf?_eq_some_iff_append_eq] at hp
      cases suffix with
      | nil => simp at h
      | cons b suffix =>
        simp only [List.head?_cons, beq_iff_eq, Option.some.injEq] at h
        exact ⟨suffix, by rw [← hp, h]⟩
    · cases h
  · rintro ⟨suffix, rfl⟩
    rw [List.isPrefixOf?_eq_some_iff_append_eq.mpr rfl]
    rfl

/-- What `encode` returns, `decode` reads back. -/
def ReadsBack {α : Type} (encode : α → Except ContractError Bytes) (decode : Bytes → Except ContractError α) : Prop :=
  ∀ value bytes, encode value = .ok bytes → decode bytes = .ok value

theorem ReadsBack.injective {α : Type} {encode : α → Except ContractError Bytes} {decode : Bytes → Except ContractError α}
    (h : ReadsBack encode decode) {left right : α} {bytes : Bytes} (hleft : encode left = .ok bytes)
    (hright : encode right = .ok bytes) : left = right :=
  Except.ok.inj ((h left bytes hleft).symm.trans (h right bytes hright))

end Again.Pytest
