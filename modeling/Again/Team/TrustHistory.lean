import Again.Team.TrustSigning

/-!
# What a tracker has accepted stays accepted

The law of one tracker over any run of bundles and restored checkpoints: epochs
do not go back, an epoch has one content, a key id has one binding, and a
revocation is for good. The state of a scope only advances (`Advances`), and it
always stems from one presented bundle (`Backed`), which is what makes the
short comparison of equal epochs safe.
-/

namespace Again.Team

open Lib StringSet ProducerKeyBindingV1 TrustEpochTracker SortedMap

variable {ext : Externals}

variable {e : TrustBundleError} {s' p : AcceptedEpoch}

variable {bundle : TrustBundleV1}

/-! ## States of a scope -/

/-- `s'` keeps everything `s` knows. -/
structure AcceptedEpoch.Advances (s s' : AcceptedEpoch) : Prop where
  epoch : s.epoch ≤ s'.epoch
  digest : s.epoch = s'.epoch → s.canonicalSigningDigest = s'.canonicalSigningDigest
  bindings : ∀ id binding, s.historicalKeyBindings.get? id = some binding →
    s'.historicalKeyBindings.get? id = some binding
  revokedKeys : ∀ id ∈ s.revokedKeyIds.toList, id ∈ s'.revokedKeyIds.toList
  revokedRecords : ∀ id ∈ s.revokedRecordIds.toList, id ∈ s'.revokedRecordIds.toList

def TrustBundleV1.digest (ext : Externals) (bundle : TrustBundleV1) : Digest := ext.blake3 bundle.canonicalSigningBytes

/-- The state a bundle leaves behind. -/
def TrustBundleV1.nextState (ext : Externals) (bundle : TrustBundleV1) (previous : Option AcceptedEpoch) :
    AcceptedEpoch where
  epoch := bundle.epoch
  canonicalSigningDigest := bundle.digest ext
  historicalKeyBindings :=
    (previous.elim empty AcceptedEpoch.historicalKeyBindings).extend bundle.activeBindings.entries
  revokedKeyIds := ofList bundle.revokedKeyIds
  revokedRecordIds := ofList bundle.revokedRecordIds

/-- The bundle may follow the state `previous`. -/
def TrustBundleV1.Follows (ext : Externals) (bundle : TrustBundleV1) (previous : AcceptedEpoch) : Prop :=
  checkPrevious previous bundle (bundle.digest ext) bundle.activeBindings (ofList bundle.revokedKeyIds)
    (ofList bundle.revokedRecordIds) = .ok ()

/-! ## The calls -/

/-- The capability a verified bundle becomes. -/
def TrustBundleV1.verifiedWith (bundle : TrustBundleV1) (verifier : Ed25519Verifier) : VerifiedTrustBundle where
  bundle := bundle
  trustedProducerKeys := ofList (bundle.activeProducerKeys.map fun b => (b.keyId, b.producerId))
  revokedKeyIds := ofList bundle.revokedKeyIds
  revokedRecordIds := ofList bundle.revokedRecordIds
  producerVerifier := verifier

/-- What the code decides about a bundle, given the state of its scope: the verified bundle and the next state. -/
def decideBundle (ext : Externals) (bundle : TrustBundleV1) (expected : ExpectedTrustBundle) (root : PinnedRootKey ext)
    (now : UInt64) (previous : Option AcceptedEpoch) :
    Except TrustBundleError (VerifiedTrustBundle × AcceptedEpoch) := do
  let digest ← authenticate ext bundle expected root now
  ifAccepted previous fun previous => checkPrevious previous bundle digest bundle.activeBindings
    (ofList bundle.revokedKeyIds) (ofList bundle.revokedRecordIds)
  let verifier ← producerVerifier ext bundle
  return (bundle.verifiedWith verifier, { bundle.nextState ext previous with canonicalSigningDigest := digest })

theorem verifyTrustBundle_commits (bundle : TrustBundleV1) (expected : ExpectedTrustBundle) (root : PinnedRootKey ext)
    (now : UInt64) (t : TrustEpochTracker) :
    Commits (verifyTrustBundle ext bundle expected root now) t (do
      let decision ← decideBundle ext bundle expected root now (t.accepted bundle.scope)
      return (decision.1, t.insert bundle.scope decision.2)) := by
  simp only [decideBundle, bind_assoc]
  refine commits_attempt_bind fun digest _ => commits_get_bind (commits_attempt_bind fun _ _ =>
    commits_attempt_bind fun verifier _ => commits_set_pure _ _)

/-- What a verified bundle has passed, and the tracker it leaves. -/
structure Admitted (ext : Externals) (bundle : TrustBundleV1) (t t' : TrustEpochTracker) : Prop where
  wellFormed : bundle.WellFormed ext
  follows : ∀ previous, t.accepted bundle.scope = some previous → bundle.Follows ext previous
  tracker_eq : t' = t.insert bundle.scope (bundle.nextState ext (t.accepted bundle.scope))

variable {expected : ExpectedTrustBundle} {root : PinnedRootKey ext} {now : UInt64} {u : Unit}
  {t t' : TrustEpochTracker} {checkpoint : TrustCheckpointV1} {presented : Set TrustBundleV1} {s : AcceptedEpoch}

theorem authenticate_eq_ok {digest : Digest} (h : authenticate ext bundle expected root now = .ok digest) :
    bundle.WellFormed ext ∧ bundle.scope = expected ∧ digest = bundle.digest ext := by
  simp only [authenticate, bind_eq_ok, exists_unit, rejectIf_eq_ok, not_not, pure_eq_ok] at h
  obtain ⟨hwire, -, -, -, -, -, htenant, hrepository, hgeneration, horigin, -, rfl⟩ := h
  refine ⟨validateWireShape_eq_ok.mp hwire, ?_, rfl⟩
  rw [TrustBundleV1.scope, htenant, hrepository, hgeneration, horigin]

theorem ifAccepted_eq_ok {previous : Option AcceptedEpoch} {check : AcceptedEpoch → Except TrustBundleError Unit} :
    ifAccepted previous check = .ok u ↔ ∀ p, previous = some p → check p = .ok () := by
  cases previous <;> simp [ifAccepted]

theorem admitted_of_verify {v : VerifiedTrustBundle} (h : verifyTrustBundle ext bundle expected root now t = .ok v t') :
    Admitted ext bundle t t' := by
  rw [(verifyTrustBundle_commits bundle expected root now t).ok_iff] at h
  simp only [decideBundle, bind_eq_ok, exists_unit, ifAccepted_eq_ok, pure_eq_ok, Prod.mk.injEq] at h
  obtain ⟨-, ⟨digest, hdigest, hprevious, verifier, -, rfl⟩, -, rfl⟩ := h
  obtain ⟨hwf, -, rfl⟩ := authenticate_eq_ok hdigest
  exact ⟨hwf, hprevious, rfl⟩

theorem restoreCheckpoint_commits (checkpoint : TrustCheckpointV1) (expected : ExpectedTrustBundle)
    (root : PinnedRootKey ext) (t : TrustEpochTracker) :
    Commits (restoreCheckpoint ext checkpoint expected root) t (do
      let (scope, restored) ← validateCheckpoint ext checkpoint expected root
      ifAccepted (t.accepted scope) fun previous => validateMonotonicState previous restored
      .ok ((), t.insert scope restored)) := by
  refine commits_attempt_bind fun restored _ => ?_
  exact commits_get_bind (commits_attempt_bind fun _ _ => commits_set_pure _ _)

/-- What a restored checkpoint has passed, and the tracker it leaves. -/
structure Restored (checkpoint : TrustCheckpointV1) (t t' : TrustEpochTracker) : Prop where
  follows : ∀ previous, t.accepted checkpoint.scope = some previous →
    validateMonotonicState previous checkpoint.state = .ok ()
  tracker_eq : t' = t.insert checkpoint.scope checkpoint.state

/-- What `validate_checkpoint` has checked. -/
structure TrustCheckpointV1.Valid (checkpoint : TrustCheckpointV1) (expected : ExpectedTrustBundle)
    (root : PinnedRootKey ext) : Prop where
  schemaVersion : checkpoint.schemaVersion = trustCheckpointSchemaVersion
  namespace_eq : checkpoint.namespace_ = trustCheckpointNamespace
  expected_valid : validateExpected ext expected = .ok ()
  rootKeyId : checkpoint.rootKeyId = root.keyId
  rootPublicKey : checkpoint.rootPublicKey = root.publicKey
  scope_eq : checkpoint.scope = expected
  epoch_ne : checkpoint.highestEpoch ≠ 0
  epoch_le : checkpoint.highestEpoch ≤ maxJsonSafeInteger
  bindings : BindingList ext checkpoint.historicalKeyBindings
  revokedKeys : IdentifierList checkpoint.revokedKeyIds
  revokedRecords : IdentifierList checkpoint.revokedRecordIds

theorem validateExpected_eq_ok : validateExpected ext expected = .ok u ↔ isIdentifier expected.tenantId = true ∧
      isIdentifier expected.repositoryId = true ∧ isGenerationId expected.generationId = true ∧
      validateEndpointOrigin ext expected.endpointOrigin = .ok () := by
  simp only [validateExpected, bind_eq_ok, exists_unit, validateIdentifier_eq_ok, validateGenerationId_eq_ok]

theorem validateCheckpoint_eq_ok {result : TrustScope × AcceptedEpoch} :
    validateCheckpoint ext checkpoint expected root = .ok result ↔
      checkpoint.Valid expected root ∧ result = (checkpoint.scope, checkpoint.state) := by
  simp only [validateCheckpoint, bind_eq_ok, exists_unit, rejectIf_eq_ok, not_not, not_or, validateIdentifier_eq_ok,
    validateGenerationId_eq_ok, validateBindings_eq_ok, validateIdentifierList_eq_ok, pure_eq_ok, UInt64.not_lt]
  constructor
  · rintro ⟨hschema, hnamespace, hexpected, -, -, -, -, -, -, hroot, hscope, hepoch, hepoch', hbindings,
      hkeys, hrecords, rfl⟩
    obtain ⟨htenant, hrepository, hgeneration, horigin⟩ := hscope
    refine ⟨⟨hschema, hnamespace, hexpected, hroot.1, hroot.2, ?_, hepoch, hepoch', hbindings, hkeys, hrecords⟩, rfl⟩
    rw [TrustCheckpointV1.scope, htenant, hrepository, hgeneration, horigin]
  · rintro ⟨hvalid, rfl⟩
    obtain ⟨htenant, hrepository, hgeneration, horigin⟩ := validateExpected_eq_ok.mp hvalid.expected_valid
    have hscope := hvalid.scope_eq
    subst hscope
    refine ⟨hvalid.schemaVersion, hvalid.namespace_eq, hvalid.expected_valid, ?_, htenant, hrepository, hgeneration,
      horigin, ?_, ⟨hvalid.rootKeyId, hvalid.rootPublicKey⟩, ⟨rfl, rfl, rfl, rfl⟩, hvalid.epoch_ne, hvalid.epoch_le,
      hvalid.bindings, hvalid.revokedKeys, hvalid.revokedRecords, rfl⟩
    · rw [hvalid.rootKeyId, root.keyId_valid]
    · rw [hvalid.rootPublicKey, root.publicKey_valid]
      simp

theorem restored_of_restore (h : restoreCheckpoint ext checkpoint expected root t = .ok () t') :
    Restored checkpoint t t' := by
  rw [(restoreCheckpoint_commits checkpoint expected root t).ok_iff] at h
  simp only [bind_eq_ok, validateCheckpoint_eq_ok] at h
  obtain ⟨-, ⟨-, rfl⟩, h⟩ := h
  simp only [exists_unit, ifAccepted_eq_ok, Except.ok.injEq, Prod.mk.injEq, true_and] at h
  exact ⟨h.1, h.2.symm⟩

/-! ## Steps advance the state of a scope -/

theorem TrustBundleV1.WellFormed.activeBindings_entries (h : bundle.WellFormed ext) :
    bundle.activeBindings.entries = bundle.activeProducerKeys.map entry := by
  refine (entries_extend ?_).trans (List.nil_append _)
  simpa [empty, List.pairwise_map, entry] using h.bindings.sorted

/-- The keys of a well-formed bundle all enter the verifier. -/
theorem foldlM_insertPublicKey {bindings : List ProducerKeyBindingV1} {keys : StringMap (String × Octets 32)}
    (hvalid : ∀ binding ∈ bindings, binding.Valid ext)
    (hsorted : (keys.entries ++ bindings.map entry).Pairwise fun a b => utf8 a.1 < utf8 b.1) :
    bindings.foldlM (fun (verifier : Ed25519Verifier) binding =>
      verifier.insertPublicKey ext binding.keyId binding.producerId binding.publicKey) ⟨keys⟩ =
      .ok ⟨keys.extend (bindings.map entry)⟩ := by
  induction bindings generalizing keys with
  | nil => rfl
  | cons binding bindings ih =>
    obtain ⟨hkey, hproducer, hpublic⟩ := hvalid binding List.mem_cons_self
    have hbelow : ∀ entry ∈ keys.entries, utf8 entry.1 < utf8 binding.keyId := fun entry hentry =>
      (List.pairwise_append.mp hsorted).2.2 entry hentry _ List.mem_cons_self
    have hnew : keys.get? binding.keyId = none :=
      lookupEntry_eq_none fun entry hentry => ne_of_lt (hbelow entry hentry)
    have hinsert : Ed25519Verifier.insertPublicKey ext ⟨keys⟩ binding.keyId binding.producerId binding.publicKey =
        .ok ⟨keys.insert binding.keyId (binding.producerId, binding.publicKey)⟩ := by
      simp [Ed25519Verifier.insertPublicKey, hkey, hproducer, hpublic, hnew, rejectIf, bind, Except.bind,
        pure, Except.pure]
    have hentries : (keys.insert binding.keyId (binding.producerId, binding.publicKey)).entries =
        keys.entries ++ [binding.entry] := insertEntry_last hbelow
    rw [List.foldlM_cons, hinsert, ok_bind, ih (fun b hb => hvalid b (List.mem_cons_of_mem _ hb))
      (by rw [hentries, List.append_assoc]; exact hsorted)]
    rfl

theorem TrustBundleV1.WellFormed.producerVerifier_eq (h : bundle.WellFormed ext) :
    producerVerifier ext bundle = .ok ⟨bundle.activeBindings⟩ := by
  have hsorted : (([] : List (String × String × Octets 32)) ++ bundle.activeProducerKeys.map entry).Pairwise
      fun a b => utf8 a.1 < utf8 b.1 := by
    simpa [List.pairwise_map, entry] using h.bindings.sorted
  rw [producerVerifier, show Ed25519Verifier.new = ⟨empty⟩ from rfl,
    foldlM_insertPublicKey h.bindings.valid hsorted]
  rfl

/-- An authentic bundle that may follow the state of its scope is accepted. -/
theorem verify_of_authentic {digest : Digest} (t : TrustEpochTracker)
    (hauth : authenticate ext bundle expected root now = .ok digest)
    (hfollows : ∀ p, t.accepted bundle.scope = some p → bundle.Follows ext p) :
    verifyTrustBundle ext bundle expected root now t = .ok (bundle.verifiedWith ⟨bundle.activeBindings⟩)
      (t.insert bundle.scope (bundle.nextState ext (t.accepted bundle.scope))) := by
  obtain ⟨hwf, -, hdigest⟩ := authenticate_eq_ok hauth
  subst hdigest
  have hdecide : decideBundle ext bundle expected root now (t.accepted bundle.scope) =
      .ok (bundle.verifiedWith ⟨bundle.activeBindings⟩, bundle.nextState ext (t.accepted bundle.scope)) := by
    simp only [decideBundle, bind_eq_ok, exists_unit, pure_eq_ok, ifAccepted_eq_ok]
    exact ⟨_, hauth, hfollows, _, hwf.producerVerifier_eq, rfl⟩
  rw [(verifyTrustBundle_commits bundle expected root now t).ok_iff, hdecide]
  rfl

/-- What the comparison with the previous state has checked. -/
theorem TrustBundleV1.Follows.cases {previous : AcceptedEpoch} (hwf : bundle.WellFormed ext)
    (h : bundle.Follows ext previous) :
    (bundle.epoch = previous.epoch ∧ bundle.digest ext = previous.canonicalSigningDigest) ∨
      previous.epoch < bundle.epoch ∧
      (∀ binding ∈ bundle.activeProducerKeys, ∀ old, previous.historicalKeyBindings.get? binding.keyId = some old →
        old = (binding.producerId, binding.publicKey)) ∧
      (∀ id ∈ previous.revokedKeyIds.toList, id ∈ bundle.revokedKeyIds) ∧
      ∀ id ∈ previous.revokedRecordIds.toList, id ∈ bundle.revokedRecordIds := by
  simp only [TrustBundleV1.Follows, checkPrevious, bind_eq_ok, exists_unit, rejectIf_eq_ok] at h
  obtain ⟨hrollback, h⟩ := h
  split at h
  · next hsame =>
    rw [rejectIf_eq_ok, not_not] at h
    exact Or.inl ⟨hsame, h⟩
  · next hother =>
    simp only [bind_eq_ok, exists_unit, forM_eq_ok, rejectIf_eq_ok, Bool.not_eq_false, isSubset_iff,
      toList_ofList hwf.revokedKeys.sorted, toList_ofList hwf.revokedRecords.sorted,
      hwf.activeBindings_entries] at h
    obtain ⟨hactive, hkeys, hrecords⟩ := h
    refine Or.inr ⟨UInt64.lt_of_le_of_ne (UInt64.not_lt.mp hrollback) (Ne.symm hother),
      fun binding hbinding old hold => ?_, hkeys, hrecords⟩
    have hrebind := (hactive _ (List.mem_map_of_mem hbinding)).1
    by_contra hne
    exact hrebind (by simp [entry, hold, hne])

/-- Every state stems from a presented bundle. -/
structure Backing (ext : Externals) (presented : Set TrustBundleV1) (scope : TrustScope) (state : AcceptedEpoch)
    (bundle : TrustBundleV1) : Prop where
  presented : bundle ∈ presented
  wellFormed : bundle.WellFormed ext
  scope_eq : bundle.scope = scope
  epoch_eq : bundle.epoch = state.epoch
  digest_eq : bundle.digest ext = state.canonicalSigningDigest
  bindings : ∀ binding ∈ bundle.activeProducerKeys,
    state.historicalKeyBindings.get? binding.keyId = some (binding.producerId, binding.publicKey)
  revokedKeys : state.revokedKeyIds.toList = bundle.revokedKeyIds
  revokedRecords : state.revokedRecordIds.toList = bundle.revokedRecordIds

def Backed (ext : Externals) (presented : Set TrustBundleV1) (t : TrustEpochTracker) : Prop :=
  ∀ scope state, t.accepted scope = some state → ∃ bundle, Backing ext presented scope state bundle

/-- No two presented bundles with different signed bytes have one digest. -/
def DigestsDiffer (ext : Externals) (presented : Set TrustBundleV1) : Prop :=
  Set.InjOn ext.blake3 (TrustBundleV1.canonicalSigningBytes '' presented)

theorem DigestsDiffer.unsigned_eq (h : DigestsDiffer ext presented) {b b' : TrustBundleV1} (hb : b ∈ presented)
    (hb' : b' ∈ presented) (hwf : b.WellFormed ext) (hwf' : b'.WellFormed ext)
    (hdigest : b.digest ext = b'.digest ext) : b.unsigned = b'.unsigned :=
  unsigned_eq_of_canonicalSigningBytes hwf.sized hwf'.sized
    (h (Set.mem_image_of_mem _ hb) (Set.mem_image_of_mem _ hb') hdigest)

section NextState
variable (hwf : bundle.WellFormed ext) (previous : Option AcceptedEpoch)
include hwf

theorem nextState_binding {binding : ProducerKeyBindingV1} (h : binding ∈ bundle.activeProducerKeys) :
    (bundle.nextState ext previous).historicalKeyBindings.get? binding.keyId =
      some (binding.producerId, binding.publicKey) := by
  refine get?_extend_mem _ bundle.activeBindings.sorted ?_
  rw [hwf.activeBindings_entries]
  exact List.mem_map_of_mem h

/-- A history the active keys agree with is kept. -/
theorem nextState_history
    (hagree : ∀ binding ∈ bundle.activeProducerKeys, ∀ old, p.historicalKeyBindings.get? binding.keyId = some old →
      old = (binding.producerId, binding.publicKey)) {id : String} {x : String × Octets 32}
    (hx : p.historicalKeyBindings.get? id = some x) :
    (bundle.nextState ext (some p)).historicalKeyBindings.get? id = some x := by
  by_cases hactive : ∃ binding ∈ bundle.activeProducerKeys, binding.keyId = id
  · obtain ⟨binding, hbinding, rfl⟩ := hactive
    rw [nextState_binding hwf _ hbinding, hagree binding hbinding x hx]
  · refine (get?_extend_other _ fun entry hentry hrank => hactive ?_).trans hx
    rw [hwf.activeBindings_entries] at hentry
    obtain ⟨binding, hbinding, rfl⟩ := List.mem_map.mp hentry
    exact ⟨binding, hbinding, (utf8_injective hrank).symm⟩

theorem nextState_backing {presented : Set TrustBundleV1} (h : bundle ∈ presented) :
    Backing ext presented bundle.scope (bundle.nextState ext previous) bundle where
  presented := h
  wellFormed := hwf
  scope_eq := rfl
  epoch_eq := rfl
  digest_eq := rfl
  bindings _ hbinding := nextState_binding hwf previous hbinding
  revokedKeys := toList_ofList hwf.revokedKeys.sorted
  revokedRecords := toList_ofList hwf.revokedRecords.sorted

/-- A bundle that may follow a state advances it. At an equal epoch the two stem from one content. -/
theorem nextState_advances {presented : Set TrustBundleV1} (hinj : DigestsDiffer ext presented) (h : bundle ∈ presented)
    {backing : TrustBundleV1} (hbacking : Backing ext presented bundle.scope p backing)
    (hfollows : bundle.Follows ext p) : p.Advances (bundle.nextState ext (some p)) := by
  have hnext := nextState_backing hwf (some p) h
  rcases hfollows.cases hwf with ⟨hepoch, hdigest⟩ | ⟨hepoch, hagree, hkeys, hrecords⟩
  · have hsame := hinj.unsigned_eq h hbacking.presented hwf hbacking.wellFormed (hdigest.trans hbacking.digest_eq.symm)
    simp only [TrustBundleV1.unsigned, TrustBundleV1.mk.injEq] at hsame
    obtain ⟨-, -, -, -, -, -, -, -, -, hactive, hkeyIds, hrecordIds, -⟩ := hsame
    refine ⟨UInt64.le_of_eq hepoch.symm, fun _ => hdigest.symm, fun id x hx => nextState_history hwf ?_ hx, ?_, ?_⟩
    · intro binding hbinding old hold
      rw [hactive] at hbinding
      rw [hbacking.bindings binding hbinding] at hold
      exact (Option.some.inj hold).symm
    · intro id hid
      rw [hnext.revokedKeys, hkeyIds, ← hbacking.revokedKeys]
      exact hid
    · intro id hid
      rw [hnext.revokedRecords, hrecordIds, ← hbacking.revokedRecords]
      exact hid
  · exact ⟨UInt64.le_of_lt hepoch, fun heq => absurd heq (UInt64.ne_of_lt hepoch), fun id x hx =>
      nextState_history hwf hagree hx, hnext.revokedKeys.symm ▸ hkeys, hnext.revokedRecords.symm ▸ hrecords⟩

end NextState

theorem advances_of_validateMonotonicState {previous candidate : AcceptedEpoch}
    (h : validateMonotonicState previous candidate = .ok u) : previous.Advances candidate := by
  simp only [validateMonotonicState, bind_eq_ok, exists_unit, rejectIf_eq_ok, forM_eq_ok, Bool.not_eq_false,
    isSubset_iff, not_and, not_not] at h
  obtain ⟨hepoch, hdigest, hbindings, hkeys, hrecords⟩ := h
  refine ⟨UInt64.not_lt.mp hepoch, fun heq => (hdigest heq.symm).symm, fun id x hx => ?_, hkeys, hrecords⟩
  have hentry := hbindings _ ((get?_eq_some_iff utf8_injective).mp hx)
  split at hentry
  · next binding hget =>
    rw [rejectIf_eq_ok, not_not] at hentry
    rw [hget, hentry]
  · cases hentry

/-! ## Runs -/

/-- Something a tracker has accepted. -/
inductive Accepted where
  | bundle (bundle : TrustBundleV1)
  | checkpoint (checkpoint : TrustCheckpointV1)

namespace Accepted

def scope : Accepted → TrustScope
  | .bundle b => b.scope
  | .checkpoint c => c.scope

def epoch : Accepted → UInt64
  | .bundle b => b.epoch
  | .checkpoint c => c.highestEpoch

def digest (ext : Externals) : Accepted → Digest
  | .bundle b => b.digest ext
  | .checkpoint c => c.sameEpochDigest

/-- The key ids it binds to a producer and a public key. -/
def bindings : Accepted → List ProducerKeyBindingV1
  | .bundle b => b.activeProducerKeys
  | .checkpoint c => c.historicalKeyBindings

/-- The keys it lets sign. -/
def active : Accepted → List ProducerKeyBindingV1
  | .bundle b => b.activeProducerKeys
  | .checkpoint _ => []

def revokedKeyIds : Accepted → List String
  | .bundle b => b.revokedKeyIds
  | .checkpoint c => c.revokedKeyIds

def revokedRecordIds : Accepted → List String
  | .bundle b => b.revokedRecordIds
  | .checkpoint c => c.revokedRecordIds

end Accepted

/-- A tracker driven by any calls, and what it has accepted, newest first. A checkpoint it restores was exported by a
tracker that was itself driven so. -/
inductive Driven (ext : Externals) (presented : Set TrustBundleV1) : List Accepted → TrustEpochTracker → Prop
  | new : Driven ext presented [] new
  | verified {log : List Accepted} {t t' : TrustEpochTracker} {bundle : TrustBundleV1} {expected : ExpectedTrustBundle}
      {root : PinnedRootKey ext} {now : UInt64} {v : VerifiedTrustBundle} (h : Driven ext presented log t)
      (hpresented : bundle ∈ presented) (hcall : verifyTrustBundle ext bundle expected root now t = .ok v t') :
      Driven ext presented (.bundle bundle :: log) t'
  | restored {log donorLog : List Accepted} {t t' donor : TrustEpochTracker} {checkpoint : TrustCheckpointV1}
      {expected donorExpected : ExpectedTrustBundle} {root donorRoot : PinnedRootKey ext}
      (h : Driven ext presented log t)
      (hdonor : Driven ext presented donorLog donor)
      (hexport : donor.exportCheckpoint ext donorExpected donorRoot = .ok (some checkpoint))
      (hcall : restoreCheckpoint ext checkpoint expected root t = .ok () t') :
      Driven ext presented (.checkpoint checkpoint :: log) t'
  | bundleRefused {log : List Accepted} {t t' : TrustEpochTracker} {bundle : TrustBundleV1}
      {expected : ExpectedTrustBundle}
      {root : PinnedRootKey ext} {now : UInt64} {e : TrustBundleError} (h : Driven ext presented log t)
      (hcall : verifyTrustBundle ext bundle expected root now t = .error e t') : Driven ext presented log t'
  | checkpointRefused {log : List Accepted} {t t' : TrustEpochTracker} {checkpoint : TrustCheckpointV1}
      {expected : ExpectedTrustBundle} {root : PinnedRootKey ext} {e : TrustBundleError}
      (h : Driven ext presented log t)
      (hcall : restoreCheckpoint ext checkpoint expected root t = .error e t') : Driven ext presented log t'

/-- A refused call leaves the tracker as it was. -/
theorem verifyTrustBundle_refused (h : verifyTrustBundle ext bundle expected root now t = .error e t') : t' = t :=
  ((verifyTrustBundle_commits bundle expected root now t).error_iff.mp h).2

theorem restoreCheckpoint_refused (h : restoreCheckpoint ext checkpoint expected root t = .error e t') : t' = t :=
  ((restoreCheckpoint_commits checkpoint expected root t).error_iff.mp h).2

/-- An exported checkpoint describes the state of its scope exactly. -/
theorem state_of_export (h : t.exportCheckpoint ext expected root = .ok (some checkpoint)) :
    t.accepted checkpoint.scope = some checkpoint.state ∧
      checkpoint.historicalKeyBindings = checkpoint.state.bindings ∧
      checkpoint.revokedKeyIds = checkpoint.state.revokedKeyIds.toList ∧
      checkpoint.revokedRecordIds = checkpoint.state.revokedRecordIds.toList := by
  simp only [exportCheckpoint, bind_eq_ok, exists_unit] at h
  obtain ⟨-, h⟩ := h
  split at h
  · cases h
  · next state hstate =>
    rw [pure_eq_ok, Option.some.injEq] at h
    subst h
    have hentries : state.bindings.map entry = state.historicalKeyBindings.entries := by
      rw [AcceptedEpoch.bindings, List.map_map]
      exact List.map_id' _
    simp only [TrustCheckpointV1.scope, TrustCheckpointV1.state, hentries, ofList_entries,
      ofList_toList, hstate, and_self]

/-- What is accepted later keeps to what was accepted earlier in its scope. -/
structure Accepted.KeptBy (ext : Externals) (earlier later : Accepted) : Prop where
  epoch : earlier.epoch ≤ later.epoch
  digest : earlier.epoch = later.epoch → earlier.digest ext = later.digest ext
  contents : ∀ b b', earlier = .bundle b → later = .bundle b' → b.epoch = b'.epoch → b.unsigned = b'.unsigned
  binding : ∀ x ∈ earlier.bindings, ∀ y ∈ later.bindings, x.keyId = y.keyId → x = y
  revokedKey : ∀ id ∈ earlier.revokedKeyIds, id ∈ later.revokedKeyIds ∧ ∀ binding ∈ later.active, binding.keyId ≠ id
  revokedRecord : ∀ id ∈ earlier.revokedRecordIds, id ∈ later.revokedRecordIds

/-- The state that `a` leaves behind. -/
structure Leaves (ext : Externals) (presented : Set TrustBundleV1) (a : Accepted) (state : AcceptedEpoch) : Prop where
  epoch_eq : state.epoch = a.epoch
  digest_eq : state.canonicalSigningDigest = a.digest ext
  bindings : ∀ binding ∈ a.bindings,
    state.historicalKeyBindings.get? binding.keyId = some (binding.producerId, binding.publicKey)
  revokedKeys : state.revokedKeyIds.toList = a.revokedKeyIds
  revokedRecords : state.revokedRecordIds.toList = a.revokedRecordIds
  active : ∀ binding ∈ a.active, binding.keyId ∉ a.revokedKeyIds
  bundle : ∀ b, a = .bundle b → b ∈ presented ∧ b.WellFormed ext
  backed : ∃ bundle, Backing ext presented a.scope state bundle

theorem AcceptedEpoch.Advances.refl (s : AcceptedEpoch) : s.Advances s :=
  ⟨UInt64.le_refl _, fun _ => rfl, fun _ _ h => h, fun _ h => h, fun _ h => h⟩

theorem AcceptedEpoch.Advances.trans {s'' : AcceptedEpoch} (h : s.Advances s') (h' : s'.Advances s'') :
    s.Advances s'' where
  epoch := UInt64.le_trans h.epoch h'.epoch
  digest heq := by
    -- Nothing fits between equal epochs.
    have hmid : s.epoch = s'.epoch := UInt64.le_antisymm h.epoch (heq ▸ h'.epoch)
    rw [h.digest hmid, h'.digest (hmid ▸ heq)]
  bindings id x hx := h'.bindings id x (h.bindings id x hx)
  revokedKeys id hid := h'.revokedKeys id (h.revokedKeys id hid)
  revokedRecords id hid := h'.revokedRecords id (h.revokedRecords id hid)

/-- When the state left earlier has advanced to the one left later, the later acceptance keeps to the earlier. -/
theorem keptBy_of_advances (hinj : DigestsDiffer ext presented) {a a' : Accepted} (h : Leaves ext presented a s)
    (h' : Leaves ext presented a' s') (hadvances : s.Advances s') : a.KeptBy ext a' where
  epoch := h.epoch_eq ▸ h'.epoch_eq ▸ hadvances.epoch
  digest heq := by
    rw [← h.digest_eq, ← h'.digest_eq]
    exact hadvances.digest (by rw [h.epoch_eq, h'.epoch_eq, heq])
  contents b b' hb hb' heq := by
    subst hb hb'
    obtain ⟨hpresented, hwf⟩ := h.bundle b rfl
    obtain ⟨hpresented', hwf'⟩ := h'.bundle b' rfl
    refine hinj.unsigned_eq hpresented hpresented' hwf hwf' ?_
    have hdigest := hadvances.digest (by rw [h.epoch_eq, h'.epoch_eq]; exact heq)
    rwa [h.digest_eq, h'.digest_eq] at hdigest
  binding x hx y hy hid := by
    have hfirst := hadvances.bindings _ _ (h.bindings x hx)
    rw [hid, h'.bindings y hy, Option.some.injEq, Prod.mk.injEq] at hfirst
    cases x
    simp only at hid hfirst
    obtain ⟨rfl, rfl⟩ := hfirst
    rw [hid]
  revokedKey id hid := by
    have hlater : id ∈ a'.revokedKeyIds := h'.revokedKeys ▸ hadvances.revokedKeys id (h.revokedKeys.symm ▸ hid)
    exact ⟨hlater, fun binding hbinding heq => h'.active binding hbinding (heq ▸ hlater)⟩
  revokedRecord id hid := h'.revokedRecords ▸ hadvances.revokedRecords id (h.revokedRecords.symm ▸ hid)

/-- What holds of a driven tracker and its log. -/
structure Kept (ext : Externals) (presented : Set TrustBundleV1) (log : List Accepted)
    (t : TrustEpochTracker) : Prop where
  backed : Backed ext presented t
  newest : ∀ scope, t.highestAcceptedEpoch scope = (log.find? fun a => a.scope = scope).map Accepted.epoch
  covered : ∀ a ∈ log, ∃ s s', Leaves ext presented a s ∧ t.accepted a.scope = some s' ∧ s.Advances s'
  pairwise : log.Pairwise fun later earlier => earlier.scope = later.scope → earlier.KeptBy ext later

theorem insert_accepted (t : TrustEpochTracker) (scope scope' : TrustScope) (s : AcceptedEpoch) :
    (t.insert scope s).accepted scope' = if scope' = scope then some s else t.accepted scope' :=
  Function.update_apply t.accepted scope (some s) scope'

variable {log : List Accepted}

/-- The step: `a` is accepted over the state of its scope. -/
theorem Kept.step (hinj : DigestsDiffer ext presented) (h : Kept ext presented log t) {a : Accepted}
    (hleaves : Leaves ext presented a s) (hadvances : ∀ p, t.accepted a.scope = some p → p.Advances s) :
    Kept ext presented (a :: log) (t.insert a.scope s) where
  backed scope state hstate := by
    rw [insert_accepted] at hstate
    split at hstate
    · next heq =>
      cases hstate
      subst heq
      exact hleaves.backed
    · exact h.backed scope state hstate
  newest scope := by
    rw [highestAcceptedEpoch, insert_accepted, List.find?_cons]
    by_cases heq : scope = a.scope
    · simp [heq, hleaves.epoch_eq]
    · have hne : ¬ a.scope = scope := fun h => heq h.symm
      simp only [heq, if_false, hne, decide_false]
      exact h.newest scope
  covered b hb := by
    rcases List.mem_cons.mp hb with rfl | hb
    · exact ⟨s, s, hleaves, by rw [insert_accepted, if_pos rfl], .refl s⟩
    · obtain ⟨s₀, p, hleft, hp, hadvanced⟩ := h.covered b hb
      by_cases heq : b.scope = a.scope
      · exact ⟨s₀, s, hleft, by rw [insert_accepted, if_pos heq], hadvanced.trans (hadvances p (heq ▸ hp))⟩
      · exact ⟨s₀, p, hleft, by rw [insert_accepted, if_neg heq, hp], hadvanced⟩
  pairwise := by
    refine List.pairwise_cons.mpr ⟨fun b hb hscope => ?_, h.pairwise⟩
    obtain ⟨s₀, p, hleft, hp, hadvanced⟩ := h.covered b hb
    exact keptBy_of_advances hinj hleft hleaves (hadvanced.trans (hadvances p (hscope ▸ hp)))

theorem leaves_bundle (hwf : bundle.WellFormed ext) (hpresented : bundle ∈ presented)
    (previous : Option AcceptedEpoch) :
    Leaves ext presented (.bundle bundle) (bundle.nextState ext previous) where
  epoch_eq := rfl
  digest_eq := rfl
  bindings _ hbinding := nextState_binding hwf previous hbinding
  revokedKeys := toList_ofList hwf.revokedKeys.sorted
  revokedRecords := toList_ofList hwf.revokedRecords.sorted
  active := hwf.active_not_revoked
  bundle b hb := by
    cases hb
    exact ⟨hpresented, hwf⟩
  backed := ⟨bundle, nextState_backing hwf previous hpresented⟩

theorem leaves_checkpoint {donor : TrustEpochTracker} (hbacked : Backed ext presented donor)
    (h : donor.exportCheckpoint ext expected root = .ok (some checkpoint)) :
    Leaves ext presented (.checkpoint checkpoint) checkpoint.state := by
  obtain ⟨hstate, hbindings, hkeys, hrecords⟩ := state_of_export h
  refine ⟨rfl, rfl, fun binding hbinding => ?_, hkeys.symm, hrecords.symm, fun b hb => absurd hb List.not_mem_nil,
    fun b hb => (by cases hb), hbacked _ _ hstate⟩
  replace hbinding : binding ∈ checkpoint.state.bindings := hbindings ▸ hbinding
  obtain ⟨entry, hentry, rfl⟩ := List.mem_map.mp hbinding
  exact (get?_eq_some_iff utf8_injective).mpr hentry

/-- The run lemma. -/
theorem Driven.kept (hinj : DigestsDiffer ext presented) (h : Driven ext presented log t) :
    Kept ext presented log t := by
  induction h with
  | new =>
    exact ⟨fun _ _ h => (by cases h), fun _ => rfl, fun _ h => absurd h List.not_mem_nil, List.Pairwise.nil⟩
  | verified _ hpresented hcall ih =>
    obtain ⟨hwf, hfollows, rfl⟩ := admitted_of_verify hcall
    refine ih.step hinj (leaves_bundle hwf hpresented _) fun p hp => ?_
    obtain ⟨backing, hbacking⟩ := ih.backed _ p hp
    have hadvances := nextState_advances hwf hinj hpresented hbacking (hfollows p hp)
    rwa [← hp] at hadvances
  | restored _ _ hexport hcall ih ihdonor =>
    obtain ⟨hfollows, rfl⟩ := restored_of_restore hcall
    exact ih.step hinj (leaves_checkpoint ihdonor.backed hexport) fun p hp =>
      advances_of_validateMonotonicState (hfollows p hp)
  | bundleRefused _ hcall ih => exact verifyTrustBundle_refused hcall ▸ ih
  | checkpointRefused _ hcall ih => exact restoreCheckpoint_refused hcall ▸ ih

/-- One tracker over any run of calls: what it accepts later in a scope keeps to all it has accepted there before, its
highest epoch is that of its newest acceptance, and a refused call changes nothing. -/
theorem tracker_never_goes_back (presented : Set TrustBundleV1) (hinj : DigestsDiffer ext presented)
    (log : List Accepted) (t : TrustEpochTracker) (h : Driven ext presented log t) :
    (log.Pairwise fun later earlier => earlier.scope = later.scope → earlier.KeptBy ext later) ∧
      (∀ scope, t.highestAcceptedEpoch scope = (log.find? fun a => a.scope = scope).map Accepted.epoch) ∧
      (∀ bundle expected root now e t', verifyTrustBundle ext bundle expected root now t = .error e t' → t' = t) ∧
      ∀ checkpoint expected root e t', restoreCheckpoint ext checkpoint expected root t = .error e t' → t' = t :=
  ⟨(h.kept hinj).pairwise, (h.kept hinj).newest, fun _ _ _ _ _ _ hcall => verifyTrustBundle_refused hcall,
    fun _ _ _ _ _ hcall => restoreCheckpoint_refused hcall⟩

/-! ## A concrete run -/

def plainRoot : PinnedRootKey plainExternals := ⟨"root", Octets.fill 32 7, by decide, rfl⟩

def plainScope : TrustScope := ⟨"tenant", "repository", "0123456789abcdef0123456789abcdef", "https://cache.example"⟩

/-- A bundle issued at 100 that expires at 200. -/
def plainBundle (epoch : UInt64) (keys : List ProducerKeyBindingV1) (revoked : List String)
    (allowed : List Digest) : TrustBundleV1 where
  schemaVersion := 1
  rootKeyId := "root"
  tenantId := plainScope.tenantId
  repositoryId := plainScope.repositoryId
  generationId := plainScope.generationId
  endpointOrigin := plainScope.endpointOrigin
  epoch := epoch
  issuedAtUnixSeconds := 100
  expiresAtUnixSeconds := 200
  activeProducerKeys := keys
  revokedKeyIds := revoked
  revokedRecordIds := []
  allowedPolicyDigests := allowed
  allowedExecutionProfileDigests := allowed
  allowedPlatformDigests := allowed
  allowedImageDigests := allowed
  signature := List.replicate 64 0

theorem plainScope_valid : isIdentifier plainScope.tenantId = true ∧ isIdentifier plainScope.repositoryId = true ∧
    isGenerationId plainScope.generationId = true ∧
    validateEndpointOrigin plainExternals plainScope.endpointOrigin = .ok () := by
  refine ⟨by decide +kernel, by decide +kernel, by decide +kernel, ?_⟩
  simp only [validateEndpointOrigin, bind_eq_ok, exists_unit, rejectIf_eq_ok]
  exact ⟨by decide +kernel, _, rfl, by decide +kernel⟩

theorem plainBundle_authentic {epoch : UInt64} {keys : List ProducerKeyBindingV1} {revoked : List String}
    {allowed : List Digest} (hepoch : epoch ≠ 0) (hsafe : epoch ≤ maxJsonSafeInteger)
    (hkeys : BindingList plainExternals keys)
    (hrevoked : IdentifierList revoked) (hactive : ∀ binding ∈ keys, binding.keyId ∉ revoked)
    (hallowed : DigestList allowed) :
    authenticate plainExternals (plainBundle epoch keys revoked allowed) plainScope plainRoot 100 =
      .ok ((plainBundle epoch keys revoked allowed).digest plainExternals) := by
  obtain ⟨htenant, hrepository, hgeneration, horigin⟩ := plainScope_valid
  have hwf : (plainBundle epoch keys revoked allowed).WellFormed plainExternals := {
    schemaVersion := rfl
    rootKeyId := plainRoot.keyId_valid
    tenantId := htenant
    repositoryId := hrepository
    generationId := hgeneration
    endpointOrigin := horigin
    epoch_ne := hepoch
    epoch_le := hsafe
    timestamps := (by decide : (100 : UInt64) ≤ maxJsonSafeInteger ∧ (200 : UInt64) ≤ maxJsonSafeInteger)
    lifetime := (by decide : (100 : UInt64) < 200 ∧ (200 : UInt64) - 100 ≤ maxTrustBundleLifetimeSeconds)
    signature := rfl
    bindings := hkeys
    revokedKeys := hrevoked
    revokedRecords := (by constructor <;> decide : IdentifierList [])
    policies := hallowed
    profiles := hallowed
    platforms := hallowed
    images := hallowed
    active_not_revoked := hactive }
  simp only [authenticate, bind_eq_ok, exists_unit, rejectIf_eq_ok, not_not, pure_eq_ok, validateFreshness]
  exact ⟨validateWireShape_eq_ok.mpr hwf, validateExpected_eq_ok.mpr plainScope_valid, rfl, Octets.fill 64 0, rfl,
    Bool.noConfusion, rfl, rfl, rfl, rfl,
    (by decide : ¬ saturatingAdd 100 maxTrustBundleFutureSkewSeconds < (100 : UInt64) ∧ ¬ (200 : UInt64) ≤ 100), rfl⟩

def plainKey (keyId : String) : ProducerKeyBindingV1 := ⟨keyId, "producer", Octets.fill 32 1⟩

/-- A first bundle with the key `a`, and one an epoch later that revokes it. -/
def firstBundle : TrustBundleV1 := plainBundle 1 [plainKey "a"] [] []
def secondBundle : TrustBundleV1 := plainBundle 2 [plainKey "b"] ["a"] []

theorem firstBundle_authentic : authenticate plainExternals firstBundle plainScope plainRoot 100 =
    .ok (firstBundle.digest plainExternals) := rfl

theorem secondBundle_authentic : authenticate plainExternals secondBundle plainScope plainRoot 100 =
    .ok (secondBundle.digest plainExternals) := rfl

theorem digestsDiffer_bundles : DigestsDiffer plainExternals {firstBundle, secondBundle} := by
  have hne : firstBundle.digest plainExternals ≠ secondBundle.digest plainExternals := by decide +kernel
  rintro _ ⟨b, rfl | rfl, rfl⟩ _ ⟨b', rfl | rfl, rfl⟩ h
  · rfl
  · exact absurd h hne
  · exact absurd h.symm hne
  · rfl

/-- The state of the scope after the first bundle. -/
def firstState : AcceptedEpoch := firstBundle.nextState plainExternals none

theorem secondBundle_follows : secondBundle.Follows plainExternals firstState := by
  unfold TrustBundleV1.Follows
  decide +kernel

/-- The checkpoint of `firstState`. -/
def firstCheckpoint : TrustCheckpointV1 :=
  ⟨1, trustCheckpointNamespace, "root", Octets.fill 32 7, "tenant", "repository", "0123456789abcdef0123456789abcdef",
    "https://cache.example", 1, firstBundle.digest plainExternals, [plainKey "a"], [], []⟩

theorem firstCheckpoint_export :
    (new.insert plainScope firstState).exportCheckpoint plainExternals plainScope plainRoot =
      .ok (some firstCheckpoint) := rfl

theorem firstCheckpoint_restore :
    restoreCheckpoint plainExternals firstCheckpoint plainScope plainRoot new =
      .ok () (new.insert plainScope firstCheckpoint.state) := rfl

/-- The first bundle is accepted, its checkpoint restored into a fresh tracker, and the second bundle accepted there. -/
theorem tracker_never_goes_back_after_restore :
    ∃ t, Driven plainExternals {firstBundle, secondBundle} [.bundle secondBundle, .checkpoint firstCheckpoint] t ∧
      (∀ scope, t.highestAcceptedEpoch scope = ([Accepted.bundle secondBundle, .checkpoint firstCheckpoint].find?
        fun a => a.scope = scope).map Accepted.epoch) ∧
      ([Accepted.bundle secondBundle, .checkpoint firstCheckpoint].Pairwise fun later earlier =>
        earlier.scope = later.scope → earlier.KeptBy plainExternals later) := by
  have hdonor : Driven plainExternals {firstBundle, secondBundle} [.bundle firstBundle]
      (TrustEpochTracker.new.insert plainScope firstState) :=
    .verified .new (Or.inl rfl) (verify_of_authentic _ firstBundle_authentic fun _ h => by cases h)
  have hrestored := Driven.restored .new hdonor firstCheckpoint_export firstCheckpoint_restore
  have hdriven := Driven.verified hrestored (Or.inr rfl) (verify_of_authentic _ secondBundle_authentic fun p hp => by
    cases hp
    exact secondBundle_follows)
  obtain ⟨hkept, hnewest, -⟩ := tracker_never_goes_back _ digestsDiffer_bundles _ _ hdriven
  exact ⟨_, hdriven, hnewest, hkept⟩

end Again.Team
