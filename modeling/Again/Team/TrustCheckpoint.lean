import Again.Team.TrustHistory

/-!
# Checkpoints of a tracker

A tracker is written to disk as checkpoints, one for each scope, and read back
after a restart. Reading back checks the bound on set sizes that every bundle
keeps; the history of key bindings is collected over all bundles and may
outgrow it.
-/

namespace Again.Team

open Lib TrustEpochTracker ProducerKeyBindingV1

variable {ext : Externals}

variable {checkpoint : TrustCheckpointV1} {root : PinnedRootKey ext} {bundle : TrustBundleV1} {t' : TrustEpochTracker}

/-! ## Trackers driven by bundles -/

/-- A tracker after successful verifications. -/
inductive Reached (ext : Externals) : TrustEpochTracker → Prop
  | new : Reached ext new
  | verified {t t' : TrustEpochTracker} {bundle : TrustBundleV1} {expected : ExpectedTrustBundle}
      {root : PinnedRootKey ext} {now : UInt64} {v : VerifiedTrustBundle} (h : Reached ext t)
      (hcall : verifyTrustBundle ext bundle expected root now t = .ok v t') : Reached ext t'

/-- What verification leaves behind passes the checks of a checkpoint, the size of the history apart. -/
structure AcceptedEpoch.Sound (ext : Externals) (scope : TrustScope) (state : AcceptedEpoch) : Prop where
  scope_valid : validateExpected ext scope = .ok ()
  epoch_ne : state.epoch ≠ 0
  epoch_le : state.epoch ≤ maxJsonSafeInteger
  bindings : ∀ binding ∈ state.bindings, binding.Valid ext
  revokedKeys : IdentifierList state.revokedKeyIds.toList
  revokedRecords : IdentifierList state.revokedRecordIds.toList

theorem nextState_sound (hwf : bundle.WellFormed ext) {previous : Option AcceptedEpoch}
    (hprevious : ∀ p, previous = some p → p.Sound ext bundle.scope) :
    (bundle.nextState ext previous).Sound ext bundle.scope where
  scope_valid := validateExpected_eq_ok.mpr ⟨hwf.tenantId, hwf.repositoryId, hwf.generationId, hwf.endpointOrigin⟩
  epoch_ne := hwf.epoch_ne
  epoch_le := hwf.epoch_le
  bindings binding hbinding := by
    obtain ⟨entry, hentry, rfl⟩ := List.mem_map.mp hbinding
    rcases SortedMap.mem_extend utf8_injective hentry with hnew | hold
    · rw [hwf.activeBindings_entries] at hnew
      obtain ⟨active, hactive, rfl⟩ := List.mem_map.mp hnew
      exact hwf.bindings.valid active hactive
    · cases previous with
      | none => cases hold
      | some p => exact (hprevious p rfl).bindings _ (List.mem_map_of_mem hold)
  revokedKeys := by
    rw [show (bundle.nextState ext previous).revokedKeyIds.toList = bundle.revokedKeyIds from
      StringSet.toList_ofList hwf.revokedKeys.sorted]
    exact hwf.revokedKeys
  revokedRecords := by
    rw [show (bundle.nextState ext previous).revokedRecordIds.toList = bundle.revokedRecordIds from
      StringSet.toList_ofList hwf.revokedRecords.sorted]
    exact hwf.revokedRecords

variable {t : TrustEpochTracker} {scope : TrustScope} {state : AcceptedEpoch}

theorem Reached.sound (h : Reached ext t) (hstate : t.accepted scope = some state) : state.Sound ext scope := by
  induction h generalizing scope state with
  | new => cases hstate
  | verified _ hcall ih =>
    obtain ⟨hwf, -, rfl⟩ := admitted_of_verify hcall
    rw [insert_accepted] at hstate
    split at hstate
    · next heq =>
      cases hstate
      subst heq
      exact nextState_sound hwf fun p hp => ih hp
    · exact ih hstate

/-! ## Writing a checkpoint and reading it back -/

theorem exportCheckpoint_eq (hstate : t.accepted scope = some state) (hscope : validateExpected ext scope = .ok ())
    (root : PinnedRootKey ext) :
    ∃ checkpoint, t.exportCheckpoint ext scope root = .ok (some checkpoint) ∧ checkpoint.scope = scope ∧
      checkpoint.schemaVersion = trustCheckpointSchemaVersion ∧ checkpoint.namespace_ = trustCheckpointNamespace ∧
      checkpoint.rootKeyId = root.keyId ∧ checkpoint.rootPublicKey = root.publicKey := by
  simp only [exportCheckpoint, hscope, hstate, ok_bind]
  exact ⟨_, rfl, rfl, rfl, rfl, rfl, rfl⟩

/-- The bound that decides: a history within it makes a checkpoint that passes. -/
theorem checkpoint_valid_iff (hexport : t.exportCheckpoint ext checkpoint.scope root = .ok (some checkpoint))
    (hsound : checkpoint.state.Sound ext checkpoint.scope)
    (hheader : checkpoint.schemaVersion = trustCheckpointSchemaVersion ∧ checkpoint.namespace_ = trustCheckpointNamespace ∧
      checkpoint.rootKeyId = root.keyId ∧ checkpoint.rootPublicKey = root.publicKey) :
    checkpoint.Valid checkpoint.scope root ↔
      checkpoint.state.historicalKeyBindings.entries.length ≤ maxTrustBundleEntriesPerSet := by
  obtain ⟨-, hbindings, hkeys, hrecords⟩ := state_of_export hexport
  have hlength : checkpoint.historicalKeyBindings.length = checkpoint.state.historicalKeyBindings.entries.length := by
    rw [hbindings, AcceptedEpoch.bindings, List.length_map]
  constructor
  · intro h
    exact hlength ▸ h.bindings.count
  · intro hcount
    refine ⟨hheader.1, hheader.2.1, hsound.scope_valid, hheader.2.2.1, hheader.2.2.2, rfl, hsound.epoch_ne, hsound.epoch_le,
      ⟨hlength ▸ hcount, ?_, ?_⟩, hkeys ▸ hsound.revokedKeys, hrecords ▸ hsound.revokedRecords⟩
    · rw [hbindings]
      exact hsound.bindings
    · rw [hbindings, AcceptedEpoch.bindings, List.pairwise_map]
      exact checkpoint.state.historicalKeyBindings.sorted

theorem restore_new_iff :
    restoreCheckpoint ext checkpoint checkpoint.scope root new = .ok () t' ↔
      checkpoint.Valid checkpoint.scope root ∧ t' = new.insert checkpoint.scope checkpoint.state := by
  rw [(restoreCheckpoint_commits checkpoint checkpoint.scope root new).ok_iff]
  simp only [bind_eq_ok, validateCheckpoint_eq_ok]
  constructor
  · rintro ⟨-, ⟨hvalid, rfl⟩, h⟩
    simp only [exists_unit, Except.ok.injEq, Prod.mk.injEq, true_and] at h
    exact ⟨hvalid, h.2.symm⟩
  · rintro ⟨hvalid, rfl⟩
    exact ⟨_, ⟨hvalid, rfl⟩, (), rfl, rfl⟩

/-! ## Same decisions -/

/-- What the tracker answers to bundles presented for one scope, one after the other. -/
def verdicts (ext : Externals) (scope : TrustScope) : List (TrustBundleV1 × PinnedRootKey ext × UInt64) →
    TrustEpochTracker → List (Except TrustBundleError VerifiedTrustBundle)
  | [], _ => []
  | (bundle, root, now) :: rest, t =>
    match verifyTrustBundle ext bundle scope root now t with
    | .ok v t' => .ok v :: verdicts ext scope rest t'
    | .error e t' => .error e :: verdicts ext scope rest t'

/-- The decisions in a scope depend on the state of that scope only. -/
theorem verdicts_congr (calls : List (TrustBundleV1 × PinnedRootKey ext × UInt64))
    (h : t.accepted scope = t'.accepted scope) : verdicts ext scope calls t = verdicts ext scope calls t' := by
  induction calls generalizing t t' with
  | nil => rfl
  | cons call calls ih =>
    obtain ⟨bundle, root, now⟩ := call
    have hcommits := verifyTrustBundle_commits bundle scope root now t
    have hcommits' := verifyTrustBundle_commits bundle scope root now t'
    unfold verdicts
    by_cases hscope : bundle.scope = scope
    · subst hscope
      rw [hcommits, hcommits', h]
      cases decideBundle ext bundle bundle.scope root now (t'.accepted bundle.scope) with
      | error e => simp only [ih h, bind, Except.bind]
      | ok decision =>
        have hnext : (t.insert bundle.scope decision.2).accepted bundle.scope =
            (t'.insert bundle.scope decision.2).accepted bundle.scope := by
          rw [insert_accepted, insert_accepted, if_pos rfl, if_pos rfl]
        simp only [bind, Except.bind, pure, Except.pure, ih hnext]
    · -- A bundle of another scope is refused before the tracker is read.
      obtain ⟨e, he⟩ : ∃ e, authenticate ext bundle scope root now = .error e := by
        cases hauth : authenticate ext bundle scope root now with
        | error e => exact ⟨e, rfl⟩
        | ok digest => exact absurd (authenticate_eq_ok hauth).2.1 hscope
      rw [hcommits, hcommits']
      simp only [decideBundle, he, bind, Except.bind, ih h]

/-- A checkpoint of an accepted scope is restored into a fresh tracker, and the fresh tracker then decides as the old
one would have. -/
def Durable (ext : Externals) (t : TrustEpochTracker) (scope : TrustScope) (root : PinnedRootKey ext) : Prop :=
  ∃ checkpoint restored, t.exportCheckpoint ext scope root = .ok (some checkpoint) ∧
    restoreCheckpoint ext checkpoint scope root new = .ok () restored ∧
    ∀ calls, verdicts ext scope calls restored = verdicts ext scope calls t

theorem AcceptedEpoch.Sound.durable_iff (hsound : state.Sound ext scope) (hstate : t.accepted scope = some state)
    (root : PinnedRootKey ext) :
    Durable ext t scope root ↔ state.historicalKeyBindings.entries.length ≤ maxTrustBundleEntriesPerSet := by
  obtain ⟨checkpoint, hexport, rfl, hheader⟩ := exportCheckpoint_eq hstate hsound.scope_valid root
  obtain rfl := Option.some.inj (hstate.symm.trans (state_of_export hexport).1)
  rw [← checkpoint_valid_iff hexport hsound hheader]
  constructor
  · rintro ⟨checkpoint', restored, hexport', hrestore, -⟩
    rw [hexport, Except.ok.injEq, Option.some.injEq] at hexport'
    subst hexport'
    exact (restore_new_iff.mp hrestore).1
  · intro hvalid
    refine ⟨checkpoint, _, hexport, restore_new_iff.mpr ⟨hvalid, rfl⟩, fun calls => verdicts_congr calls ?_⟩
    rw [insert_accepted, if_pos rfl, hstate]

/-- A scope is durable exactly while no more than 4096 key ids have ever been bound in it. -/
theorem durable_iff_history_bounded (t : TrustEpochTracker) (h : Reached ext t) (scope : TrustScope)
    (state : AcceptedEpoch) (hstate : t.accepted scope = some state) (root : PinnedRootKey ext) :
    Durable ext t scope root ↔ state.historicalKeyBindings.entries.length ≤ maxTrustBundleEntriesPerSet :=
  (h.sound hstate).durable_iff hstate root

theorem reached_plain (h : Reached plainExternals t)
    (hauth : authenticate plainExternals bundle plainScope plainRoot 100 = .ok (bundle.digest plainExternals))
    (hfollows : ∀ p, t.accepted plainScope = some p → bundle.Follows plainExternals p) :
    Reached plainExternals (t.insert plainScope (bundle.nextState plainExternals (t.accepted plainScope))) := by
  have hscope := (authenticate_eq_ok hauth).2.1
  have hcall := verify_of_authentic t hauth (hscope.symm ▸ hfollows)
  rw [hscope] at hcall
  exact .verified h hcall

/-- One bundle is accepted and its scope written out and read back. -/
theorem firstBundle_durable :
    ∃ t, Reached plainExternals t ∧ t.accepted plainScope = some firstState ∧
      Durable plainExternals t plainScope plainRoot := by
  have hreached := reached_plain .new firstBundle_authentic fun _ h => by cases h
  refine ⟨_, hreached, by rw [insert_accepted, if_pos rfl]; rfl, ?_⟩
  exact (durable_iff_history_bounded _ hreached plainScope firstState (by rw [insert_accepted, if_pos rfl]; rfl)
    plainRoot).mpr (by decide +kernel)

/-! ## A history that outgrows the bound -/

/-- A key id of two printable characters, in the order of the numbers. -/
def numberedKeyId (n : Nat) : String := String.ofList [Char.ofNat (33 + n / 64), Char.ofNat (33 + n % 64)]

theorem toNat_ofNat_ascii : ∀ k < 128, (Char.ofNat k).toNat = k := by decide

theorem toNat_ofNat_byte : ∀ k < 128, (UInt8.ofNat k).toNat = k := by decide

theorem utf8_numberedKeyId {n : Nat} (h : n ≤ 4096) :
    utf8 (numberedKeyId n) = [UInt8.ofNat (33 + n / 64), UInt8.ofNat (33 + n % 64)] := by
  have hfirst := toNat_ofNat_ascii (33 + n / 64) (by omega)
  have hsecond := toNat_ofNat_ascii (33 + n % 64) (by omega)
  rw [numberedKeyId, utf8_ofList]
  simp only [List.flatMap_cons, List.flatMap_nil, List.append_nil]
  rw [utf8EncodeChar_of_ascii (by omega), utf8EncodeChar_of_ascii (by omega), hfirst, hsecond]
  rfl

theorem numberedKeyId_lt {n m : Nat} (hn : n < m) (hm : m ≤ 4096) : utf8 (numberedKeyId n) < utf8 (numberedKeyId m) := by
  rw [utf8_numberedKeyId (by omega), utf8_numberedKeyId hm, List.cons_lt_cons_iff, List.cons_lt_cons_iff,
    UInt8.lt_iff_toNat_lt, UInt8.lt_iff_toNat_lt, ← UInt8.toNat_inj]
  rw [toNat_ofNat_byte _ (by omega), toNat_ofNat_byte _ (by omega), toNat_ofNat_byte _ (by omega),
    toNat_ofNat_byte _ (by omega)]
  omega

theorem isIdentifier_numberedKeyId {n : Nat} (h : n ≤ 4096) : isIdentifier (numberedKeyId n) = true := by
  have hplain : ∀ k < 127, 33 ≤ k → (isControl (Char.ofNat k) || isWhitespace (Char.ofNat k)) = false := by
    decide +kernel
  have hfirst := hplain (33 + n / 64) (by omega) (by omega)
  have hsecond := hplain (33 + n % 64) (by omega) (by omega)
  have hlength : (utf8 (numberedKeyId n)).length ≤ 256 := by
    rw [utf8_numberedKeyId h]
    simp
  simp only [isIdentifier, Bool.and_eq_true, decide_eq_true_eq]
  exact ⟨⟨by simp [numberedKeyId], hlength⟩, by simp [numberedKeyId, hfirst, hsecond]⟩

def numberedKeys (n : Nat) : List ProducerKeyBindingV1 := (List.range n).map fun i => plainKey (numberedKeyId i)

theorem numberedKeys_sorted {n : Nat} (h : n ≤ 4097) :
    (numberedKeys n).Pairwise fun a b => utf8 a.keyId < utf8 b.keyId := by
  rw [numberedKeys, List.pairwise_map]
  refine List.pairwise_lt_range.imp_of_mem fun {a b} _ hb hab => numberedKeyId_lt hab ?_
  have := List.mem_range.mp hb
  omega

theorem plainKey_valid {keyId : String} (h : isIdentifier keyId = true) : (plainKey keyId).Valid plainExternals :=
  ⟨h, (by decide +kernel : isIdentifier "producer" = true), rfl⟩

/-- A bundle with `n` keys, and one with a single new key an epoch later. -/
def fullBundle (n : Nat) : TrustBundleV1 := plainBundle 1 (numberedKeys n) [] []
def rotatedBundle (n : Nat) : TrustBundleV1 := plainBundle 2 [plainKey (numberedKeyId n)] [] []

section Rotation
variable {n : Nat} (hn : n ≤ 4096)
include hn

theorem fullBundle_authentic : authenticate plainExternals (fullBundle n) plainScope plainRoot 100 =
    .ok ((fullBundle n).digest plainExternals) := by
  refine plainBundle_authentic (by decide) (by decide) ⟨?_, ?_, numberedKeys_sorted (by omega)⟩
    ⟨by decide, by decide, by decide⟩ (by simp) ⟨by decide, by decide⟩
  · rwa [numberedKeys, List.length_map, List.length_range, maxTrustBundleEntriesPerSet]
  · intro binding hbinding
    obtain ⟨i, hi, rfl⟩ := List.mem_map.mp hbinding
    have := List.mem_range.mp hi
    exact plainKey_valid (isIdentifier_numberedKeyId (by omega))

theorem rotatedBundle_authentic : authenticate plainExternals (rotatedBundle n) plainScope plainRoot 100 =
    .ok ((rotatedBundle n).digest plainExternals) := by
  refine plainBundle_authentic (by decide) (by decide) ⟨by simp [maxTrustBundleEntriesPerSet], ?_, by simp⟩
    ⟨by decide, by decide, by decide⟩ (by simp) ⟨by decide, by decide⟩
  rintro binding (_ | ⟨_, ⟨⟩⟩)
  exact plainKey_valid (isIdentifier_numberedKeyId hn)

theorem fullBundle_history : ((fullBundle n).nextState plainExternals none).historicalKeyBindings.entries =
    (numberedKeys n).map entry := by
  have hempty : ((fullBundle n).nextState plainExternals none).historicalKeyBindings =
      SortedMap.ofList (fullBundle n).activeBindings.entries := rfl
  rw [hempty, SortedMap.ofList_entries, (authenticate_eq_ok (fullBundle_authentic hn)).1.activeBindings_entries]
  rfl

theorem rotation_sorted : ((numberedKeys n).map entry ++
    [(plainKey (numberedKeyId n)).entry]).Pairwise fun a b => utf8 a.1 < utf8 b.1 := by
  have hall : (numberedKeys n).map entry ++ [(plainKey (numberedKeyId n)).entry] =
      (numberedKeys (n + 1)).map entry := by
    simp [numberedKeys, List.range_succ]
  rw [hall, List.pairwise_map]
  exact numberedKeys_sorted (by omega)

theorem rotatedBundle_follows :
    (rotatedBundle n).Follows plainExternals ((fullBundle n).nextState plainExternals none) := by
  have hnew : ((fullBundle n).nextState plainExternals none).historicalKeyBindings.get? (numberedKeyId n) = none := by
    refine SortedMap.lookupEntry_eq_none fun entry hentry => ne_of_lt ?_
    rw [fullBundle_history hn] at hentry
    exact (List.pairwise_append.mp (rotation_sorted hn)).2.2 entry hentry _ List.mem_cons_self
  have hbindings : (rotatedBundle n).activeBindings.entries = [(plainKey (numberedKeyId n)).entry] := rfl
  simp only [TrustBundleV1.Follows, checkPrevious, bind_eq_ok, exists_unit, rejectIf_eq_ok, hbindings]
  refine ⟨(by decide : ¬ (2 : UInt64) < 1), ?_⟩
  rw [if_neg (by exact (by decide : ¬ (2 : UInt64) = 1))]
  simp only [bind_eq_ok, exists_unit, rejectIf_eq_ok, forM_eq_ok, List.mem_singleton, forall_eq,
    entry, plainKey, hnew]
  exact ⟨⟨by simp, Bool.noConfusion⟩, Bool.noConfusion, Bool.noConfusion⟩

theorem rotatedBundle_history :
    ((rotatedBundle n).nextState plainExternals
      (some ((fullBundle n).nextState plainExternals none))).historicalKeyBindings.entries.length = n + 1 := by
  have hbindings : (rotatedBundle n).activeBindings.entries = [(plainKey (numberedKeyId n)).entry] := rfl
  have hentries := fullBundle_history hn
  rw [TrustBundleV1.nextState, SortedMap.entries_extend]
  · rw [hbindings, List.length_append]
    simp [hentries, numberedKeys]
  · rw [hbindings]
    simpa only [Option.elim, hentries] using rotation_sorted hn

end Rotation

/-- Two accepted bundles, of 4096 keys and of one more, leave a history that its own checkpoint does not restore. -/
theorem rotation_not_durable :
    ∃ t state, Reached plainExternals t ∧ t.accepted plainScope = some state ∧
      ¬ Durable plainExternals t plainScope plainRoot := by
  have hfull := reached_plain .new (fullBundle_authentic le_rfl) fun _ h => by cases h
  have hstate : ∀ (t : TrustEpochTracker) s, (t.insert plainScope s).accepted plainScope = some s := fun t s => by
    rw [insert_accepted, if_pos rfl]
  have hreached := reached_plain hfull (rotatedBundle_authentic le_rfl) fun p hp => by
    cases hp
    exact rotatedBundle_follows le_rfl
  refine ⟨_, _, hreached, hstate _ _, ?_⟩
  rw [(hreached.sound (hstate _ _)).durable_iff (hstate _ _)]
  exact fun h => absurd (rotatedBundle_history (le_refl 4096) ▸ h) (by decide)

end Again.Team
