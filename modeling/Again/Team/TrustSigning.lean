import Again.Team.TrustBundle

/-!
# What a trust bundle's checks and signed bytes say

The wire checks read off as facts, and the signed bytes: they determine every
field of a bundle but the signature.
-/

namespace Again.Team

open Lib

/-! ## The wire checks -/

section Validators
variable {ext : Externals}

variable {value field : String} {u : Unit}

theorem validateIdentifier_eq_ok : validateIdentifier value field = .ok u ↔ isIdentifier value = true := by
  simp [validateIdentifier]

theorem validateGenerationId_eq_ok : validateGenerationId value = .ok u ↔ isGenerationId value = true := by
  simp [validateGenerationId]

theorem checkCount_eq_ok {count : Nat} : checkCount field count = .ok u ↔ count ≤ maxTrustBundleEntriesPerSet := by
  simp [checkCount]

/-- Identifiers in order, none twice, not too many. -/
structure IdentifierList (values : List String) : Prop where
  count : values.length ≤ maxTrustBundleEntriesPerSet
  valid : ∀ value ∈ values, isIdentifier value = true
  sorted : values.Pairwise fun a b => utf8 a < utf8 b

theorem validateIdentifierList_eq_ok {values : List String} :
    validateIdentifierList field values = .ok u ↔ IdentifierList values := by
  simp only [validateIdentifierList, bind_eq_ok, exists_unit, checkCount_eq_ok, forM_eq_ok, validateIdentifier_eq_ok,
    rejectIf_eq_ok, Bool.not_eq_false, strictlySortedBy_iff fun a b c (h : utf8 a < utf8 b) h' => lt_trans h h']
  exact ⟨fun h => ⟨h.1, h.2.1, h.2.2⟩, fun h => ⟨h.1, h.2, h.3⟩⟩

/-- Digests in order, none twice, not too many. -/
structure DigestList (values : List Digest) : Prop where
  count : values.length ≤ maxTrustBundleEntriesPerSet
  sorted : values.Pairwise fun a b => a.val < b.val

theorem validateDigestList_eq_ok {values : List Digest} :
    validateDigestList field values = .ok u ↔ DigestList values := by
  simp only [validateDigestList, bind_eq_ok, exists_unit, checkCount_eq_ok, rejectIf_eq_ok, Bool.not_eq_false,
    strictlySortedBy_iff fun (a b c : Digest) (h : a.val < b.val) h' => lt_trans h h']
  exact ⟨fun h => ⟨h.1, h.2⟩, fun h => ⟨h.1, h.2⟩⟩

structure ProducerKeyBindingV1.Valid (ext : Externals) (binding : ProducerKeyBindingV1) : Prop where
  keyId : isIdentifier binding.keyId = true
  producerId : isIdentifier binding.producerId = true
  publicKey : ext.verifyingKey binding.publicKey = true

/-- Bindings in the order of their key ids, one for each, not too many. -/
structure BindingList (ext : Externals) (bindings : List ProducerKeyBindingV1) : Prop where
  count : bindings.length ≤ maxTrustBundleEntriesPerSet
  valid : ∀ binding ∈ bindings, binding.Valid ext
  sorted : bindings.Pairwise fun a b => utf8 a.keyId < utf8 b.keyId

theorem validateBindings_eq_ok {bindings : List ProducerKeyBindingV1} :
    validateBindings ext field bindings = .ok u ↔ BindingList ext bindings := by
  simp only [validateBindings, bind_eq_ok, exists_unit, checkCount_eq_ok, forM_eq_ok, validateIdentifier_eq_ok,
    rejectIf_eq_ok, Bool.not_eq_false,
    strictlySortedBy_iff fun (a b c : ProducerKeyBindingV1) (h : utf8 a.keyId < utf8 b.keyId) h' => lt_trans h h']
  constructor
  · rintro ⟨hcount, hvalid, hsorted⟩
    exact ⟨hcount, fun b hb => ⟨(hvalid b hb).1, (hvalid b hb).2.1, (hvalid b hb).2.2⟩, hsorted⟩
  · rintro ⟨hcount, hvalid, hsorted⟩
    exact ⟨hcount, fun b hb => ⟨(hvalid b hb).1, (hvalid b hb).2, (hvalid b hb).3⟩, hsorted⟩

/-- What `validate_wire_shape` checks. -/
structure TrustBundleV1.WellFormed (ext : Externals) (bundle : TrustBundleV1) : Prop where
  schemaVersion : bundle.schemaVersion = trustBundleSchemaVersion
  rootKeyId : isIdentifier bundle.rootKeyId = true
  tenantId : isIdentifier bundle.tenantId = true
  repositoryId : isIdentifier bundle.repositoryId = true
  generationId : isGenerationId bundle.generationId = true
  endpointOrigin : validateEndpointOrigin ext bundle.endpointOrigin = .ok ()
  epoch_ne : bundle.epoch ≠ 0
  epoch_le : bundle.epoch ≤ maxJsonSafeInteger
  timestamps : bundle.issuedAtUnixSeconds ≤ maxJsonSafeInteger ∧ bundle.expiresAtUnixSeconds ≤ maxJsonSafeInteger
  lifetime : bundle.issuedAtUnixSeconds < bundle.expiresAtUnixSeconds ∧
    bundle.expiresAtUnixSeconds - bundle.issuedAtUnixSeconds ≤ maxTrustBundleLifetimeSeconds
  signature : bundle.signature.length = ed25519SignatureSize
  bindings : BindingList ext bundle.activeProducerKeys
  revokedKeys : IdentifierList bundle.revokedKeyIds
  revokedRecords : IdentifierList bundle.revokedRecordIds
  policies : DigestList bundle.allowedPolicyDigests
  profiles : DigestList bundle.allowedExecutionProfileDigests
  platforms : DigestList bundle.allowedPlatformDigests
  images : DigestList bundle.allowedImageDigests
  active_not_revoked : ∀ binding ∈ bundle.activeProducerKeys, binding.keyId ∉ bundle.revokedKeyIds

theorem validateWireShape_eq_ok {bundle : TrustBundleV1} :
    validateWireShape ext bundle = .ok u ↔ bundle.WellFormed ext := by
  simp only [validateWireShape, bind_eq_ok, exists_unit, rejectIf_eq_ok, validateIdentifier_eq_ok,
    validateGenerationId_eq_ok, validateBindings_eq_ok, validateIdentifierList_eq_ok, validateDigestList_eq_ok, not_or,
    not_not, UInt64.not_lt, UInt64.not_le, Bool.not_eq_true, List.any_eq_false, List.contains_iff_mem]
  -- the two sides list the same facts, one as a conjunction and one as a structure
  constructor <;>
    rintro ⟨hschema, hroot, htenant, hrepository, hgeneration, horigin, hepoch, hepoch', htimes, hlifetime, hsignature,
      hbindings, hkeys, hrecords, hpolicies, hprofiles, hplatforms, himages, hrevoked⟩ <;>
    exact ⟨hschema, hroot, htenant, hrepository, hgeneration, horigin, hepoch, hepoch', htimes, hlifetime, hsignature,
      hbindings, hkeys, hrecords, hpolicies, hprofiles, hplatforms, himages, hrevoked⟩

theorem validateEndpointOrigin_length (h : validateEndpointOrigin ext value = .ok u) : (utf8 value).length ≤ 2048 := by
  simp only [validateEndpointOrigin, bind_eq_ok, exists_unit, rejectIf_eq_ok, not_or, not_lt] at h
  exact h.1.1

end Validators

/-! ## Signed bytes -/

/-- The bundle without its signature. -/
def TrustBundleV1.unsigned (bundle : TrustBundleV1) : TrustBundleV1 := { bundle with signature := [] }

/-- Lengths that fit their 64-bit prefixes. Every value in memory has them. -/
structure TrustBundleV1.Sized (bundle : TrustBundleV1) : Prop where
  rootKeyId : (utf8 bundle.rootKeyId).length < 2 ^ 64
  tenantId : (utf8 bundle.tenantId).length < 2 ^ 64
  repositoryId : (utf8 bundle.repositoryId).length < 2 ^ 64
  generationId : (utf8 bundle.generationId).length < 2 ^ 64
  endpointOrigin : (utf8 bundle.endpointOrigin).length < 2 ^ 64
  bindings : bundle.activeProducerKeys.length < 2 ^ 64 ∧ ∀ binding ∈ bundle.activeProducerKeys,
    (utf8 binding.keyId).length < 2 ^ 64 ∧ (utf8 binding.producerId).length < 2 ^ 64
  revokedKeys : bundle.revokedKeyIds.length < 2 ^ 64 ∧ ∀ value ∈ bundle.revokedKeyIds, (utf8 value).length < 2 ^ 64
  revokedRecords : bundle.revokedRecordIds.length < 2 ^ 64 ∧
    ∀ value ∈ bundle.revokedRecordIds, (utf8 value).length < 2 ^ 64
  policies : bundle.allowedPolicyDigests.length < 2 ^ 64
  profiles : bundle.allowedExecutionProfileDigests.length < 2 ^ 64
  platforms : bundle.allowedPlatformDigests.length < 2 ^ 64
  images : bundle.allowedImageDigests.length < 2 ^ 64

theorem TrustBundleV1.WellFormed.sized {ext : Externals} {bundle : TrustBundleV1} (h : bundle.WellFormed ext) :
    bundle.Sized := by
  have hid : ∀ {value : String}, isIdentifier value = true → (utf8 value).length < 2 ^ 64 := fun hvalue =>
    Nat.lt_of_le_of_lt (isIdentifier_length hvalue) (by decide)
  have hcount : ∀ {n : Nat}, n ≤ maxTrustBundleEntriesPerSet → n < 2 ^ 64 := fun hn =>
    Nat.lt_of_le_of_lt hn (by decide)
  exact {
    rootKeyId := hid h.rootKeyId
    tenantId := hid h.tenantId
    repositoryId := hid h.repositoryId
    generationId := by rw [isGenerationId_length h.generationId]; decide
    endpointOrigin := Nat.lt_of_le_of_lt (validateEndpointOrigin_length h.endpointOrigin) (by decide)
    bindings := ⟨hcount h.bindings.count,
      fun b hb => ⟨hid (h.bindings.valid b hb).keyId, hid (h.bindings.valid b hb).producerId⟩⟩
    revokedKeys := ⟨hcount h.revokedKeys.count, fun v hv => hid (h.revokedKeys.valid v hv)⟩
    revokedRecords := ⟨hcount h.revokedRecords.count, fun v hv => hid (h.revokedRecords.valid v hv)⟩
    policies := hcount h.policies.count
    profiles := hcount h.profiles.count
    platforms := hcount h.platforms.count
    images := hcount h.images.count }

theorem selfDelimiting_binding :
    SelfDelimiting (fun binding : ProducerKeyBindingV1 =>
      (utf8 binding.keyId).length < 2 ^ 64 ∧ (utf8 binding.producerId).length < 2 ^ 64)
      ProducerKeyBindingV1.signingBytes := by
  intro binding binding' hsized hsized' rest rest' h
  simp only [ProducerKeyBindingV1.signingBytes, List.append_assoc] at h
  obtain ⟨hkey, h⟩ := selfDelimiting_putString hsized.1 hsized'.1 h
  obtain ⟨hproducer, h⟩ := selfDelimiting_putString hsized.2 hsized'.2 h
  obtain ⟨hpublic, hrest⟩ := selfDelimiting_putOctets (by decide : 32 < 2 ^ 64) trivial trivial h
  cases binding
  subst hkey hproducer hpublic
  exact ⟨rfl, hrest⟩

theorem selfDelimiting_putStrings :
    SelfDelimiting (fun values : List String => values.length < 2 ^ 64 ∧ ∀ value ∈ values, (utf8 value).length < 2 ^ 64)
      putStrings := selfDelimiting_putString.putList

theorem selfDelimiting_putDigests : SelfDelimiting (fun values : List Digest => values.length < 2 ^ 64) putDigests :=
  (selfDelimiting_putOctets (by decide : 32 < 2 ^ 64)).putList.mono fun _ h => ⟨h, fun _ _ => trivial⟩

/-- The signed bytes bind every field but the signature. -/
theorem unsigned_eq_of_canonicalSigningBytes {b b' : TrustBundleV1} (h : b.Sized) (h' : b'.Sized)
    (heq : b.canonicalSigningBytes = b'.canonicalSigningBytes) : b.unsigned = b'.unsigned := by
  simp only [TrustBundleV1.canonicalSigningBytes, List.append_assoc] at heq
  have heq := List.append_cancel_left heq
  obtain ⟨hschema, heq⟩ := selfDelimiting_le16 trivial trivial heq
  obtain ⟨hroot, heq⟩ := selfDelimiting_putString h.rootKeyId h'.rootKeyId heq
  obtain ⟨htenant, heq⟩ := selfDelimiting_putString h.tenantId h'.tenantId heq
  obtain ⟨hrepository, heq⟩ := selfDelimiting_putString h.repositoryId h'.repositoryId heq
  obtain ⟨hgeneration, heq⟩ := selfDelimiting_putString h.generationId h'.generationId heq
  obtain ⟨horigin, heq⟩ := selfDelimiting_putString h.endpointOrigin h'.endpointOrigin heq
  obtain ⟨hepoch, heq⟩ := selfDelimiting_le64 trivial trivial heq
  obtain ⟨hissued, heq⟩ := selfDelimiting_le64 trivial trivial heq
  obtain ⟨hexpires, heq⟩ := selfDelimiting_le64 trivial trivial heq
  obtain ⟨hactive, heq⟩ := selfDelimiting_binding.putList h.bindings h'.bindings heq
  obtain ⟨hkeys, heq⟩ := selfDelimiting_putStrings h.revokedKeys h'.revokedKeys heq
  obtain ⟨hrecords, heq⟩ := selfDelimiting_putStrings h.revokedRecords h'.revokedRecords heq
  obtain ⟨hpolicies, heq⟩ := selfDelimiting_putDigests h.policies h'.policies heq
  obtain ⟨hprofiles, heq⟩ := selfDelimiting_putDigests h.profiles h'.profiles heq
  obtain ⟨hplatforms, heq⟩ := selfDelimiting_putDigests h.platforms h'.platforms heq
  have himages := selfDelimiting_putDigests.eq h.images h'.images heq
  simp only [TrustBundleV1.unsigned, TrustBundleV1.mk.injEq]
  exact ⟨hschema, hroot, htenant, hrepository, hgeneration, horigin, hepoch, hissued, hexpires, hactive, hkeys, hrecords,
    hpolicies, hprofiles, hplatforms, himages, trivial⟩

end Again.Team
