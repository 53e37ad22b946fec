import Again.Lib.Rows
import Again.Lib.SelfDelimiting
import Again.Pytest.Shape

/-!
# The environment of a run

`linux_pytest.rs`: `SecretEnvironment::bind_v1` takes the caller's environment
apart from the names the profile owns, gives those the profile's values, and
commits to the sorted entries under a secret key. Keyed BLAKE3 is a parameter:
the domain of the subkey, the key and the framed message.
-/

namespace Again.Pytest

open Lib

def environmentDigestDomain := "again linux pytest environment v1"
def environmentNamesDigestDomain := "again linux pytest environment names v1"

/-- An `OsString`: its length is a `usize`. -/
abbrev OsString := { bytes : Bytes // bytes.length < 2 ^ 64 }

def profileEnvironmentV1 : List (Bytes × Bytes) :=
  [(utf8 "COLUMNS", utf8 "80"),
    (utf8 "HOME", utf8 "/home/again"),
    (utf8 "LANG", utf8 "C.UTF-8"),
    (utf8 "LC_ALL", utf8 "C.UTF-8"),
    (utf8 "LINES", utf8 "24"),
    (utf8 "LOGNAME", utf8 "again"),
    (utf8 "NO_COLOR", utf8 "1"),
    (utf8 "PATH", utf8 "/workspace/.venv/bin:/usr/bin:/bin"),
    (utf8 "PWD", utf8 "/workspace"),
    (utf8 "PYTHONDONTWRITEBYTECODE", utf8 "1"),
    (utf8 "PYTHONHASHSEED", utf8 "0"),
    (utf8 "PYTHONIOENCODING", utf8 "utf-8:surrogateescape"),
    (utf8 "PYTHONPYCACHEPREFIX", utf8 "/tmp/pycache"),
    (utf8 "PYTHONUTF8", utf8 "1"),
    (utf8 "TEMP", utf8 "/tmp"),
    (utf8 "TMP", utf8 "/tmp"),
    (utf8 "TMPDIR", utf8 "/tmp"),
    (utf8 "TZ", utf8 "UTC"),
    (utf8 "USER", utf8 "again"),
    (utf8 "VIRTUAL_ENV", utf8 "/workspace/.venv"),
    (utf8 "XDG_CACHE_HOME", utf8 "/tmp/xdg-cache"),
    (utf8 "XDG_CONFIG_HOME", utf8 "/home/again/.config"),
    (utf8 "XDG_DATA_HOME", utf8 "/home/again/.local/share")]

def forbiddenEnvironmentExactV1 : List Bytes :=
  [utf8 "BASH_ENV", utf8 "ENV", utf8 "GCONV_PATH", utf8 "GLIBC_TUNABLES", utf8 "LOCPATH", utf8 "MALLOC_TRACE",
    utf8 "NLSPATH", utf8 "TZDIR"]

def forbiddenEnvironmentNameV1 (name : Bytes) : Bool :=
  (utf8 "LD_").isPrefixOf name || (utf8 "DYLD_").isPrefixOf name || (utf8 "PYTHON").isPrefixOf name ||
    (utf8 "PYTEST_").isPrefixOf name || forbiddenEnvironmentExactV1.contains name

/-- Keyed BLAKE3 under the subkey of a domain. -/
abbrev KeyedBlake3 := String → Octets 32 → Bytes → Digest

def keyedHashV1 (keyed : KeyedBlake3) (domain : String) (masterKey : Octets 32) (fields : List (UInt16 × Bytes)) : Digest :=
  keyed domain masterKey (hashFrame fields)

structure EnvironmentKeyMaterialV1 where
  keyId : EnvironmentKeyId
  bytes : Octets 32

structure SecretEnvironmentEntry where
  name : Bytes
  value : Bytes
deriving DecidableEq

structure SecretEnvironment where
  entries : List SecretEnvironmentEntry
deriving DecidableEq

namespace SecretEnvironment

def MalformedPair (pair : OsString × OsString) : Prop :=
  pair.1.val = [] ∨ 0 ∈ pair.1.val ∨ 61 ∈ pair.1.val ∨ 0 ∈ pair.2.val

instance : DecidablePred MalformedPair := fun pair =>
  inferInstanceAs (Decidable (pair.1.val = [] ∨ 0 ∈ pair.1.val ∨ 61 ∈ pair.1.val ∨ 0 ∈ pair.2.val))

def entryOf (pair : OsString × OsString) : SecretEnvironmentEntry := ⟨pair.1.val, pair.2.val⟩

def compareName (left right : SecretEnvironmentEntry) : Ordering := compare left.name right.name

/-- `sort_by`, which is stable. -/
def sortByName (entries : List SecretEnvironmentEntry) : List SecretEnvironmentEntry :=
  entries.insertionSort fun left right => compareName left right ≠ .gt

def ownedValue? (name : Bytes) : Option Bytes := (profileEnvironmentV1.find? fun owned => owned.1 = name).map (·.2)

def overrideOwned (entry : SecretEnvironmentEntry) : Except RefusalCode SecretEnvironmentEntry :=
  match ownedValue? entry.name with
  | some value => pure { entry with value }
  | none => do
    rejectIf (forbiddenEnvironmentNameV1 entry.name = true) .loaderInjectionEnvironment
    pure entry

/-- The profile's names that the caller did not set. -/
def insertMissing (entries : List SecretEnvironmentEntry) : List SecretEnvironmentEntry :=
  profileEnvironmentV1.foldl (fun entries owned =>
    if entries.any (fun entry => entry.name = owned.1) then entries else entries ++ [⟨owned.1, owned.2⟩]) entries

/-- The framed name, and the framed name and value. -/
def frameEntry (entry : SecretEnvironmentEntry) : Except RefusalCode (Bytes × Bytes) := do
  let nameLen ← u64Length .environmentMalformed entry.name.length
  let valueLen ← u64Length .environmentMalformed entry.value.length
  pure (be64 nameLen ++ entry.name, be64 nameLen ++ entry.name ++ be64 valueLen ++ entry.value)

def bindV1 (keyed : KeyedBlake3) (environment : List (OsString × OsString)) (key : EnvironmentKeyMaterialV1)
    (policyDigest : PolicyDigest) : Except RefusalCode (EnvironmentBindingV1 × SecretEnvironment) := do
  let entries ← environment.mapM fun pair => do
    rejectIf (MalformedPair pair) .environmentMalformed
    pure (entryOf pair)
  let entries := sortByName entries
  rejectIf (anyWindow (fun left right => left.name == right.name) entries = true) .environmentMalformed
  let entries ← entries.mapM overrideOwned
  let entries := sortByName (insertMissing entries)
  rejectIf (2 ^ 32 ≤ entries.length) .environmentMalformed
  let entryCount := UInt32.ofNat entries.length
  let frames ← entries.mapM frameEntry
  let names := be32 entryCount ++ frames.flatMap (·.1)
  let entryBytes := be32 entryCount ++ frames.flatMap (·.2)
  let namesDigest := keyedHashV1 keyed environmentNamesDigestDomain key.bytes
    [(1, policyDigest.val), (2, be32 entryCount), (3, names)]
  let digest := keyedHashV1 keyed environmentDigestDomain key.bytes
    [(1, policyDigest.val), (2, be32 entryCount), (3, entryBytes)]
  pure ({ keyId := key.keyId, digest, namesDigest, entryCount, policyDigest }, ⟨entries⟩)

/-! ## The bound entries -/

instance : Std.TransCmp compareName := by
  have h : compareName = compareOn SecretEnvironmentEntry.name := rfl
  rw [h]
  infer_instance

theorem compareName_eq {left right : SecretEnvironmentEntry} :
    compareName left right = .eq ↔ left.name = right.name := by
  rw [compareName, Std.LawfulEqCmp.compare_eq_iff_eq]

variable {entry : SecretEnvironmentEntry} {environment left right : List (OsString × OsString)} {keyed : KeyedBlake3}
  {key : EnvironmentKeyMaterialV1} {policyDigest : PolicyDigest} {result : EnvironmentBindingV1 × SecretEnvironment}

variable {entries : List SecretEnvironmentEntry}

theorem mem_sortByName : entry ∈ sortByName entries ↔ entry ∈ entries := List.mem_insertionSort _

theorem strict_sortByName :
    Strict compareName (sortByName entries) ↔ UniqueKey SecretEnvironmentEntry.name entries := by
  rw [sortByName, strict_sort_iff, UniqueKey, List.Nodup, List.pairwise_map]
  simp only [ne_eq, compareName_eq]

theorem profile_unique : UniqueKey Prod.fst profileEnvironmentV1 := by
  have h : (profileEnvironmentV1.map Prod.fst).Nodup := by decide +kernel
  exact h

theorem ownedValue?_eq_some {name value : Bytes} :
    ownedValue? name = some value ↔ (name, value) ∈ profileEnvironmentV1 := by
  simp only [ownedValue?, Option.map_eq_some_iff]
  constructor
  · rintro ⟨owned, hfind, rfl⟩
    have hname : owned.1 = name := by simpa using List.find?_some hfind
    rw [← hname]
    exact List.mem_of_find?_eq_some hfind
  · intro hmem
    exact ⟨(name, value), profile_unique.find?_eq_some hmem rfl, rfl⟩

theorem ownedValue?_eq_none {name : Bytes} : ownedValue? name = none ↔ name ∉ profileEnvironmentV1.map Prod.fst := by
  simp only [ownedValue?, Option.map_eq_none_iff, List.find?_eq_none, decide_eq_true_eq, List.mem_map, not_exists, not_and]

/-- An entry with the profile's value, if the profile owns it. -/
def overridden (entry : SecretEnvironmentEntry) : SecretEnvironmentEntry :=
  { entry with value := (ownedValue? entry.name).getD entry.value }

theorem overrideOwned_eq (entry : SecretEnvironmentEntry) :
    overrideOwned entry = (do
      rejectIf (ownedValue? entry.name = none ∧ forbiddenEnvironmentNameV1 entry.name = true) .loaderInjectionEnvironment
      pure (overridden entry)) := by
  unfold overrideOwned overridden
  cases ownedValue? entry.name <;> simp [rejectIf]

theorem insertMissing_eq (entries : List SecretEnvironmentEntry) :
    insertMissing entries = entries ++
      (profileEnvironmentV1.filter fun owned => !entries.any fun entry => entry.name = owned.1).map fun owned =>
        ⟨owned.1, owned.2⟩ := by
  have hunique := profile_unique
  unfold insertMissing
  generalize profileEnvironmentV1 = profile at hunique ⊢
  -- What is pushed for one name is not looked for again: the names left are different.
  induction profile generalizing entries with
  | nil => simp
  | cons owned rest ih =>
    obtain ⟨hfresh, hrest⟩ := List.nodup_cons.mp hunique
    rw [List.foldl_cons, ih _ hrest]
    by_cases hany : (entries.any fun entry => entry.name = owned.1) = true
    · simp [hany]
    · rw [if_neg hany, List.filter_cons, if_pos (by simpa using hany), List.map_cons, List.append_assoc,
        List.singleton_append]
      congr 3
      refine List.filter_congr fun other hother => ?_
      have hne : owned.1 ≠ other.1 := fun heq => hfresh (heq ▸ List.mem_map_of_mem hother)
      simp [hne]

/-- The entries a successful binding holds. -/
def boundEntries (environment : List (OsString × OsString)) : List SecretEnvironmentEntry :=
  sortByName (insertMissing ((sortByName (environment.map entryOf)).map overridden))

theorem mem_boundEntries : entry ∈ boundEntries environment ↔
      (entry.name, entry.value) ∈ profileEnvironmentV1 ∨
        ∃ pair ∈ environment, ownedValue? pair.1.val = none ∧ entry = entryOf pair := by
  simp only [boundEntries, mem_sortByName, insertMissing_eq, List.mem_append, List.mem_map, List.mem_filter]
  constructor
  · rintro (⟨_, ⟨pair, hpair, rfl⟩, rfl⟩ | ⟨owned, ⟨howned, -⟩, rfl⟩)
    · cases hvalue : ownedValue? (entryOf pair).name with
      | none => exact .inr ⟨pair, hpair, hvalue, by simp [overridden, hvalue]⟩
      | some value => exact .inl (by simpa [overridden, hvalue] using ownedValue?_eq_some.mp hvalue)
    · exact .inl howned
  · rintro (howned | ⟨pair, hpair, hvalue, rfl⟩)
    · by_cases hset : ∃ pair ∈ environment, pair.1.val = entry.name
      · obtain ⟨pair, hpair, hname⟩ := hset
        refine .inl ⟨entryOf pair, ⟨pair, hpair, rfl⟩, ?_⟩
        have hvalue := ownedValue?_eq_some.mpr howned
        simp [overridden, entryOf, hname, hvalue]
      · refine .inr ⟨(entry.name, entry.value), ⟨howned, ?_⟩, rfl⟩
        push Not at hset
        simp only [Bool.not_eq_eq_eq_not, Bool.not_true, List.any_eq_false, List.mem_map, decide_eq_true_eq]
        rintro _ ⟨_, hsorted, rfl⟩
        obtain ⟨pair, hpair, rfl⟩ := List.mem_map.mp (mem_sortByName.mp hsorted)
        exact hset pair hpair
    · refine .inl ⟨entryOf pair, ⟨pair, hpair, rfl⟩, ?_⟩
      have hvalue' : ownedValue? (entryOf pair).name = none := hvalue
      simp [overridden, hvalue']

/-- No name is given twice. -/
abbrev NamesDistinct (environment : List (OsString × OsString)) : Prop := (environment.map fun pair => pair.1.val).Nodup

theorem strict_boundEntries (h : NamesDistinct environment) : Strict compareName (boundEntries environment) := by
  have hset : UniqueKey SecretEnvironmentEntry.name ((sortByName (environment.map entryOf)).map overridden) := by
    have hsorted : ((sortByName (environment.map entryOf)).map SecretEnvironmentEntry.name).Perm
        (environment.map fun pair => pair.1.val) := by
      have hperm := (List.perm_insertionSort (fun left right => compareName left right ≠ .gt)
        (environment.map entryOf)).map SecretEnvironmentEntry.name
      rwa [List.map_map] at hperm
    rw [UniqueKey, List.map_map]
    exact hsorted.nodup_iff.mpr h
  rw [boundEntries, strict_sortByName, insertMissing_eq, UniqueKey, List.map_append]
  refine List.nodup_append.mpr ⟨hset, ?_, ?_⟩
  · rw [List.map_map]
    exact profile_unique.sublist List.filter_sublist
  · intro name hname name' hname' heq
    simp only [List.mem_map, List.mem_filter, Bool.not_eq_eq_eq_not, Bool.not_true, List.any_eq_false,
      decide_eq_true_eq] at hname'
    obtain ⟨_, ⟨owned, ⟨-, hmissing⟩, rfl⟩, rfl⟩ := hname'
    obtain ⟨entry, hentry, rfl⟩ := List.mem_map.mp hname
    exact hmissing entry (List.mem_map.mp hentry) heq

/-! ## What a binding commits to -/

def framedName (entry : SecretEnvironmentEntry) : Bytes := be64 (UInt64.ofNat entry.name.length) ++ entry.name

def framedEntry (entry : SecretEnvironmentEntry) : Bytes :=
  framedName entry ++ be64 (UInt64.ofNat entry.value.length) ++ entry.value

def committed (frame : SecretEnvironmentEntry → Bytes) (entries : List SecretEnvironmentEntry) : Bytes :=
  be32 (UInt32.ofNat entries.length) ++ entries.flatMap frame

def bindingOf (keyed : KeyedBlake3) (key : EnvironmentKeyMaterialV1) (policyDigest : PolicyDigest)
    (entries : List SecretEnvironmentEntry) : EnvironmentBindingV1 where
  keyId := key.keyId
  digest := keyedHashV1 keyed environmentDigestDomain key.bytes
    [(1, policyDigest.val), (2, be32 (UInt32.ofNat entries.length)), (3, committed framedEntry entries)]
  namesDigest := keyedHashV1 keyed environmentNamesDigestDomain key.bytes
    [(1, policyDigest.val), (2, be32 (UInt32.ofNat entries.length)), (3, committed framedName entries)]
  entryCount := UInt32.ofNat entries.length
  policyDigest := policyDigest

/-- The length of a name or a value is a `u64`. -/
def Sized (entry : SecretEnvironmentEntry) : Prop := entry.name.length < 2 ^ 64 ∧ entry.value.length < 2 ^ 64

theorem sized_of_mem (h : entry ∈ boundEntries environment) : Sized entry := by
  have hprofile : ∀ owned ∈ profileEnvironmentV1, owned.1.length < 2 ^ 64 ∧ owned.2.length < 2 ^ 64 := by decide +kernel
  rcases mem_boundEntries.mp h with howned | ⟨pair, -, -, rfl⟩
  · exact hprofile _ howned
  · exact ⟨pair.1.property, pair.2.property⟩

theorem mapM_frameEntry (h : ∀ entry ∈ entries, Sized entry) :
    entries.mapM frameEntry = .ok (entries.map fun entry => (framedName entry, framedEntry entry)) := by
  rw [mapM_eq_ok, List.forall₂_map_right_iff, List.forall₂_same]
  intro entry hentry
  obtain ⟨hname, hvalue⟩ := h entry hentry
  have hnameLen : u64Length RefusalCode.environmentMalformed entry.name.length = .ok (UInt64.ofNat entry.name.length) :=
    u64Length_eq_ok.mpr (UInt64.toNat_ofNat_of_lt' hname)
  have hvalueLen : u64Length RefusalCode.environmentMalformed entry.value.length = .ok (UInt64.ofNat entry.value.length) :=
    u64Length_eq_ok.mpr (UInt64.toNat_ofNat_of_lt' hvalue)
  simp [frameEntry, hnameLen, hvalueLen, framedName, framedEntry]

-- The table is only read through the lemmas above from here on.
attribute [local irreducible] profileEnvironmentV1

/-- A name the profile does not own and does not let in. -/
def ForbiddenPair (pair : OsString × OsString) : Prop :=
  ownedValue? pair.1.val = none ∧ forbiddenEnvironmentNameV1 pair.1.val = true

instance : DecidablePred ForbiddenPair := fun pair =>
  inferInstanceAs (Decidable (ownedValue? pair.1.val = none ∧ forbiddenEnvironmentNameV1 pair.1.val = true))

theorem windows_distinct :
    anyWindow (fun left right => left.name == right.name) (sortByName (environment.map entryOf)) = true ↔
      ¬ NamesDistinct environment := by
  have hkeys : UniqueKey SecretEnvironmentEntry.name (environment.map entryOf) ↔ NamesDistinct environment := by
    rw [UniqueKey, List.map_map]
    rfl
  have hchain : Strict compareName (sortByName (environment.map entryOf)) ↔
      (sortByName (environment.map entryOf)).IsChain fun left right => compareName left right ≠ .eq :=
    strict_iff_isChain (pairwise_sort _)
  rw [← hkeys, ← strict_sortByName, hchain, ← Bool.not_eq_false, not_iff_not, anyWindow_eq_false]
  simp only [beq_eq_false_iff_ne, ne_eq, compareName_eq]

theorem bindV1_eq (keyed : KeyedBlake3) (environment : List (OsString × OsString)) (key : EnvironmentKeyMaterialV1)
    (policyDigest : PolicyDigest) :
    bindV1 keyed environment key policyDigest =
      if (∃ pair ∈ environment, MalformedPair pair) ∨ ¬ NamesDistinct environment then .error .environmentMalformed
      else if ∃ pair ∈ environment, ForbiddenPair pair then .error .loaderInjectionEnvironment
      else if 2 ^ 32 ≤ (boundEntries environment).length then .error .environmentMalformed
      else .ok (bindingOf keyed key policyDigest (boundEntries environment), ⟨boundEntries environment⟩) := by
  unfold bindV1
  rw [mapM_check]
  by_cases hmalformed : ∃ pair ∈ environment, MalformedPair pair
  · simp [hmalformed]
    rfl
  simp only [hmalformed, if_false, ok_bind, false_or]
  by_cases hdistinct : NamesDistinct environment
  · have hwindows : ¬ anyWindow (fun left right => left.name == right.name) (sortByName (environment.map entryOf)) = true :=
      fun h => windows_distinct.mp h hdistinct
    have hforbidden : (∃ entry ∈ sortByName (environment.map entryOf),
        ownedValue? entry.name = none ∧ forbiddenEnvironmentNameV1 entry.name = true) ↔
        ∃ pair ∈ environment, ForbiddenPair pair := by
      simp only [mem_sortByName, List.mem_map, exists_exists_and_eq_and]
      rfl
    rw [funext overrideOwned_eq, mapM_check]
    simp only [hdistinct, not_true_eq_false, if_false, hforbidden, rejectIf, hwindows]
    by_cases hany : ∃ pair ∈ environment, ForbiddenPair pair
    · simp only [hany, if_true]
      rfl
    · simp only [hany, if_false, ok_bind]
      by_cases hcount : 2 ^ 32 ≤ (boundEntries environment).length
      · have hcount' := hcount
        simp only [boundEntries] at hcount'
        simp only [hcount, hcount', if_true]
        rfl
      · have hcount' := hcount
        simp only [boundEntries] at hcount'
        have hsized : ∀ entry ∈ boundEntries environment, Sized entry := fun _ => sized_of_mem
        have hframes := mapM_frameEntry hsized
        simp only [boundEntries] at hframes
        simp only [hcount, hcount', if_false, ok_bind, hframes, List.flatMap_map]
        rfl
  · have hwindows := windows_distinct.mpr hdistinct
    simp only [rejectIf, hwindows, hdistinct, not_false_eq_true, if_true]
    rfl

/-- What `bind_v1` asks of the caller's environment. -/
structure Admissible (environment : List (OsString × OsString)) : Prop where
  wellFormed : ∀ pair ∈ environment, ¬ MalformedPair pair
  distinct : NamesDistinct environment
  allowed : ∀ pair ∈ environment, ¬ ForbiddenPair pair

theorem bindV1_eq_ok : bindV1 keyed environment key policyDigest = .ok result ↔
      Admissible environment ∧ (boundEntries environment).length < 2 ^ 32 ∧
        result = (bindingOf keyed key policyDigest (boundEntries environment), ⟨boundEntries environment⟩) := by
  rw [bindV1_eq]
  constructor
  · intro h
    split_ifs at h with hmalformed hforbidden hcount
    push Not at hmalformed hforbidden hcount
    exact ⟨⟨hmalformed.1, hmalformed.2, hforbidden⟩, hcount, (Except.ok.inj h).symm⟩
  · rintro ⟨⟨hwellFormed, hdistinct, hallowed⟩, hcount, rfl⟩
    have hmalformed : ¬ ((∃ pair ∈ environment, MalformedPair pair) ∨ ¬ NamesDistinct environment) := by
      push Not
      exact ⟨hwellFormed, hdistinct⟩
    have hforbidden : ¬ ∃ pair ∈ environment, ForbiddenPair pair := by
      push Not
      exact hallowed
    rw [if_neg hmalformed, if_neg hforbidden, if_neg (not_le.mpr hcount)]

/-! ## Order and owned values do not matter -/

/-- The pairs that reach the bound entries as they are. -/
def Effective (environment : List (OsString × OsString)) (pair : OsString × OsString) : Prop :=
  pair ∈ environment ∧ ownedValue? pair.1.val = none

theorem boundEntries_congr (hleft : NamesDistinct left) (hright : NamesDistinct right)
    (h : ∀ pair, Effective left pair ↔ Effective right pair) : boundEntries left = boundEntries right := by
  refine (strict_boundEntries hleft).ext (strict_boundEntries hright) fun entry => ?_
  have hpairs : (∃ pair ∈ left, ownedValue? pair.1.val = none ∧ entry = entryOf pair) ↔
      ∃ pair ∈ right, ownedValue? pair.1.val = none ∧ entry = entryOf pair := by
    simp only [← and_assoc]
    exact exists_congr fun pair => and_congr_left fun _ => h pair
  rw [mem_boundEntries, mem_boundEntries, hpairs]

theorem bindV1_perm (h : left.Perm right) :
    bindV1 keyed left key policyDigest = bindV1 keyed right key policyDigest := by
  have hdistinct : NamesDistinct left ↔ NamesDistinct right := (h.map _).nodup_iff
  rw [bindV1_eq, bindV1_eq]
  simp only [h.mem_iff, hdistinct]
  by_cases hright : NamesDistinct right
  · rw [boundEntries_congr (hdistinct.mpr hright) hright fun pair => by rw [Effective, Effective, h.mem_iff]]
  · simp [hright]

/-- The same names in the same places, with the same values where the profile does not own the name. -/
def SameButOwned (left right : List (OsString × OsString)) : Prop :=
  List.Forall₂ (fun pair pair' => pair.1 = pair'.1 ∧ (ownedValue? pair.1.val = none → pair.2 = pair'.2)) left right

theorem SameButOwned.names (h : SameButOwned left right) : left.map Prod.fst = right.map Prod.fst := by
  induction h with
  | nil => rfl
  | cons hpair _ ih => simp [hpair.1, ih]

theorem SameButOwned.effective (h : SameButOwned left right) (pair : OsString × OsString) :
    Effective left pair ↔ Effective right pair := by
  induction h with
  | nil => rfl
  | @cons first second _ _ hpair _ ih =>
    simp only [Effective, List.mem_cons, or_and_right] at ih ⊢
    refine or_congr ⟨?_, ?_⟩ ih
    · rintro ⟨rfl, howned⟩
      exact ⟨Prod.ext hpair.1 (hpair.2 howned), howned⟩
    · rintro ⟨rfl, howned⟩
      rw [← hpair.1] at howned
      exact ⟨(Prod.ext hpair.1 (hpair.2 howned)).symm, hpair.1 ▸ howned⟩

theorem bindV1_sameButOwned (h : SameButOwned left right) (hvalues : ∀ pair ∈ right, 0 ∉ pair.2.val)
    (hbind : bindV1 keyed left key policyDigest = .ok result) : bindV1 keyed right key policyDigest = .ok result := by
  obtain ⟨⟨hwellFormed, hdistinct, hallowed⟩, hcount, rfl⟩ := bindV1_eq_ok.mp hbind
  have hnames := congrArg (List.map Subtype.val) h.names
  rw [List.map_map, List.map_map] at hnames
  have hdistinct' : NamesDistinct right := by
    rw [NamesDistinct] at hdistinct ⊢
    exact hnames ▸ hdistinct
  have hname : ∀ pair ∈ right, ∃ pair' ∈ left, pair'.1 = pair.1 := by
    intro pair hpair
    have hmem : pair.1 ∈ left.map Prod.fst := h.names ▸ List.mem_map_of_mem hpair
    exact List.mem_map.mp hmem
  rw [boundEntries_congr hdistinct hdistinct' h.effective] at hcount ⊢
  refine bindV1_eq_ok.mpr ⟨⟨fun pair hpair hbad => ?_, hdistinct', fun pair hpair hbad => ?_⟩, hcount, rfl⟩
  · obtain ⟨pair', hpair', hsame⟩ := hname pair hpair
    have hgood := hwellFormed pair' hpair'
    simp only [MalformedPair, not_or, hsame] at hgood hbad
    rcases hbad with hbad | hbad | hbad | hbad
    · exact hgood.1 hbad
    · exact hgood.2.1 hbad
    · exact hgood.2.2.1 hbad
    · exact hvalues pair hpair hbad
  · obtain ⟨pair', hpair', hsame⟩ := hname pair hpair
    refine hallowed pair' hpair' ?_
    rw [ForbiddenPair, hsame]
    exact hbad

/-! ## The digest determines the entries -/

theorem selfDelimiting_framedEntry : SelfDelimiting Sized framedEntry := by
  intro left right hleft hright rest rest' h
  simp only [framedEntry, framedName, List.append_assoc] at h
  obtain ⟨hname, h⟩ := lengthPrefixed_inj hleft.1 hright.1 h
  obtain ⟨hvalue, hrest⟩ := lengthPrefixed_inj hleft.2 hright.2 h
  cases left
  exact ⟨by simp_all, hrest⟩

theorem committed_injective {left right : List SecretEnvironmentEntry} (hleft : left.length < 2 ^ 32)
    (hright : right.length < 2 ^ 32) (hleftSized : ∀ entry ∈ left, Sized entry) (hrightSized : ∀ entry ∈ right, Sized entry)
    (h : committed framedEntry left = committed framedEntry right) : left = right := by
  obtain ⟨hcount, hbody⟩ := List.append_inj h (by simp)
  have hlength := congrArg UInt32.toNat (be32_injective hcount)
  rw [UInt32.toNat_ofNat_of_lt' hleft, UInt32.toNat_ofNat_of_lt' hright] at hlength
  rw [← List.append_nil (left.flatMap framedEntry), ← List.append_nil (right.flatMap framedEntry)] at hbody
  exact (selfDelimiting_framedEntry.flatMap hlength hleftSized hrightSized hbody).1

/-- The last of three fields is what the frame ends with, however long it is. -/
theorem hashFrame_last {count count' : UInt32} {body body' : Bytes}
    (h : hashFrame [(1, policyDigest.val), (2, be32 count), (3, body)] =
      hashFrame [(1, policyDigest.val), (2, be32 count'), (3, body')]) : body = body' := by
  simp only [hashFrame, List.flatMap_cons, List.flatMap_nil, List.append_nil, List.append_assoc, List.length_cons,
    List.length_nil, length_be32, List.append_cancel_left_eq] at h
  obtain ⟨-, h⟩ := List.append_inj h (by simp)
  exact (List.append_inj (List.append_cancel_left h) (by simp)).2

/-- The message under the digest of a binding. -/
def digestMessage (policyDigest : PolicyDigest) (entries : List SecretEnvironmentEntry) : Bytes :=
  hashFrame [(1, policyDigest.val), (2, be32 (UInt32.ofNat entries.length)), (3, committed framedEntry entries)]

/-- The keyed hash tells the messages of two bindings apart. -/
def CollisionFree (keyed : KeyedBlake3) (key : EnvironmentKeyMaterialV1) (policyDigest : PolicyDigest)
    (left right : List SecretEnvironmentEntry) : Prop :=
  Set.InjOn (keyed environmentDigestDomain key.bytes) {digestMessage policyDigest left, digestMessage policyDigest right}

theorem digest_eq_iff {left right : List SecretEnvironmentEntry}
    (hfree : CollisionFree keyed key policyDigest left right) (hleft : left.length < 2 ^ 32)
    (hright : right.length < 2 ^ 32) (hleftSized : ∀ entry ∈ left, Sized entry)
    (hrightSized : ∀ entry ∈ right, Sized entry) :
    (bindingOf keyed key policyDigest left).digest = (bindingOf keyed key policyDigest right).digest ↔ left = right := by
  constructor
  · intro h
    have hmessage : digestMessage policyDigest left = digestMessage policyDigest right :=
      hfree (Set.mem_insert _ _) (Set.mem_insert_of_mem _ rfl) h
    exact committed_injective hleft hright hleftSized hrightSized (hashFrame_last hmessage)
  · rintro rfl
    rfl

/-! ## The binding -/

/-- What the entries of a successful binding are. -/
structure Bound (environment : List (OsString × OsString)) (entries : List SecretEnvironmentEntry) : Prop where
  sorted : entries.Pairwise fun left right => compare left.name right.name = .lt
  profile : ∀ owned ∈ profileEnvironmentV1, ⟨owned.1, owned.2⟩ ∈ entries
  caller : ∀ pair ∈ environment, pair.1.val ∉ profileEnvironmentV1.map Prod.fst → ⟨pair.1.val, pair.2.val⟩ ∈ entries
  nothingElse : ∀ entry ∈ entries, (entry.name, entry.value) ∈ profileEnvironmentV1 ∨
    ∃ pair ∈ environment, pair.1.val ∉ profileEnvironmentV1.map Prod.fst ∧ entry = ⟨pair.1.val, pair.2.val⟩
  allowed : ∀ entry ∈ entries, forbiddenEnvironmentNameV1 entry.name = true →
    entry.name ∈ profileEnvironmentV1.map Prod.fst

theorem bound_boundEntries (h : Admissible environment) : Bound environment (boundEntries environment) where
  sorted := strict_boundEntries h.distinct
  profile owned howned := mem_boundEntries.mpr (.inl howned)
  caller pair hpair howned := mem_boundEntries.mpr (.inr ⟨pair, hpair, ownedValue?_eq_none.mpr howned, rfl⟩)
  nothingElse entry hentry := by
    rcases mem_boundEntries.mp hentry with howned | ⟨pair, hpair, howned, rfl⟩
    · exact .inl howned
    · exact .inr ⟨pair, hpair, ownedValue?_eq_none.mp howned, rfl⟩
  allowed entry hentry hforbidden := by
    rcases mem_boundEntries.mp hentry with howned | ⟨pair, hpair, howned, rfl⟩
    · exact List.mem_map.mpr ⟨(entry.name, entry.value), howned, rfl⟩
    · exact absurd ⟨howned, hforbidden⟩ (h.allowed pair hpair)

/-- What makes `bind_v1` fail. -/
def Refusable (environment : List (OsString × OsString)) : Prop :=
  (∃ pair ∈ environment, pair.1.val = [] ∨ 0 ∈ pair.1.val ∨ 61 ∈ pair.1.val ∨ 0 ∈ pair.2.val) ∨
    ¬ (environment.map fun pair => pair.1.val).Nodup ∨
    ∃ pair ∈ environment, pair.1.val ∉ profileEnvironmentV1.map Prod.fst ∧ forbiddenEnvironmentNameV1 pair.1.val = true

theorem refusable_iff : Refusable environment ↔ ¬ Admissible environment := by
  constructor
  · rintro (⟨pair, hpair, hbad⟩ | hrepeated | ⟨pair, hpair, howned, hbad⟩) hadmissible
    · exact hadmissible.wellFormed pair hpair hbad
    · exact hrepeated hadmissible.distinct
    · exact hadmissible.allowed pair hpair ⟨ownedValue?_eq_none.mpr howned, hbad⟩
  · intro h
    by_contra hnone
    refine h ⟨fun pair hpair hbad => hnone (.inl ⟨pair, hpair, hbad⟩), ?_, fun pair hpair hbad =>
      hnone (.inr (.inr ⟨pair, hpair, ownedValue?_eq_none.mp hbad.1, hbad.2⟩))⟩
    by_contra hrepeated
    exact hnone (.inr (.inl hrepeated))

theorem bindV1_error_iff (hcount : (boundEntries environment).length < 2 ^ 32) :
    (∃ e, bindV1 keyed environment key policyDigest = .error e) ↔ Refusable environment := by
  rw [refusable_iff]
  constructor
  · rintro ⟨e, herror⟩ hadmissible
    rw [bindV1_eq_ok.mpr ⟨hadmissible, hcount, rfl⟩] at herror
    cases herror
  · intro hrefused
    cases hbind : bindV1 keyed environment key policyDigest with
    | error e => exact ⟨e, rfl⟩
    | ok result => exact absurd (bindV1_eq_ok.mp hbind).1 hrefused

theorem environment_binding (keyed : KeyedBlake3) (key : EnvironmentKeyMaterialV1) (policyDigest : PolicyDigest) :
    (∀ environment binding secret, bindV1 keyed environment key policyDigest = .ok (binding, secret) →
      Bound environment secret.entries) ∧
    (∀ environment environment' : List (OsString × OsString), environment.Perm environment' →
      bindV1 keyed environment key policyDigest = bindV1 keyed environment' key policyDigest) ∧
    (∀ environment environment' result, SameButOwned environment environment' →
      (∀ pair ∈ environment', 0 ∉ pair.2.val) → bindV1 keyed environment key policyDigest = .ok result →
      bindV1 keyed environment' key policyDigest = .ok result) ∧
    (∀ environment environment' binding binding' secret secret',
      bindV1 keyed environment key policyDigest = .ok (binding, secret) →
      bindV1 keyed environment' key policyDigest = .ok (binding', secret') →
      CollisionFree keyed key policyDigest secret.entries secret'.entries →
      (binding.digest = binding'.digest ↔ secret.entries = secret'.entries)) ∧
    ∀ environment : List (OsString × OsString), (boundEntries environment).length < 2 ^ 32 →
      ((∃ e, bindV1 keyed environment key policyDigest = .error e) ↔ Refusable environment) := by
  refine ⟨?_, fun _ _ => bindV1_perm, fun _ _ _ => bindV1_sameButOwned, ?_, fun _ => bindV1_error_iff⟩
  · intro environment binding secret h
    obtain ⟨hadmissible, -, heq⟩ := bindV1_eq_ok.mp h
    cases heq
    exact bound_boundEntries hadmissible
  · intro environment environment' binding binding' secret secret' h h' hfree
    obtain ⟨-, hcount, heq⟩ := bindV1_eq_ok.mp h
    obtain ⟨-, hcount', heq'⟩ := bindV1_eq_ok.mp h'
    cases heq
    cases heq'
    exact digest_eq_iff hfree hcount hcount' (fun _ => sized_of_mem) fun _ => sized_of_mem

/-- An environment that sets a name after the profile's, and one of the profile's names. -/
def zedEnvironment (value : UInt8) : List (OsString × OsString) :=
  [(⟨utf8 "ZED", by decide⟩, ⟨[value], by simp⟩), (⟨utf8 "PATH", by decide⟩, ⟨utf8 "/opt", by decide⟩)]

/-- A stand-in for the keyed hash that keeps the last byte of the message. -/
def lastByteHash : KeyedBlake3 := fun _ _ message => ⟨List.replicate 32 (message.getLastD 0), by simp⟩

def zeroKey : EnvironmentKeyMaterialV1 := ⟨⟨List.replicate 32 0, by simp⟩, ⟨List.replicate 32 0, by simp⟩⟩

def zeroPolicy : PolicyDigest := ⟨List.replicate 32 0, by simp⟩

theorem zedEnvironment_bind : ∀ value ∈ [97, 98], bindV1 lastByteHash (zedEnvironment value) zeroKey zeroPolicy =
    .ok (bindingOf lastByteHash zeroKey zeroPolicy (boundEntries (zedEnvironment value)),
      ⟨boundEntries (zedEnvironment value)⟩) := by
  decide +kernel

theorem zedEnvironment_collisionFree : CollisionFree lastByteHash zeroKey zeroPolicy (boundEntries (zedEnvironment 97))
    (boundEntries (zedEnvironment 98)) := by
  have hne : lastByteHash environmentDigestDomain zeroKey.bytes
      (digestMessage zeroPolicy (boundEntries (zedEnvironment 97))) ≠
      lastByteHash environmentDigestDomain zeroKey.bytes (digestMessage zeroPolicy (boundEntries (zedEnvironment 98))) := by
    decide +kernel
  rintro _ (rfl | rfl) _ (rfl | rfl) h
  · rfl
  · exact absurd h hne
  · exact absurd h.symm hne
  · rfl

theorem environment_binding_zed :
    Bound (zedEnvironment 97) (boundEntries (zedEnvironment 97)) ∧
    bindV1 lastByteHash (zedEnvironment 97).reverse zeroKey zeroPolicy =
      bindV1 lastByteHash (zedEnvironment 97) zeroKey zeroPolicy ∧
    (bindingOf lastByteHash zeroKey zeroPolicy (boundEntries (zedEnvironment 97))).digest ≠
      (bindingOf lastByteHash zeroKey zeroPolicy (boundEntries (zedEnvironment 98))).digest := by
  obtain ⟨hbound, hperm, -, hdigest, -⟩ := environment_binding lastByteHash zeroKey zeroPolicy
  have hleft := zedEnvironment_bind 97 (by decide)
  have hright := zedEnvironment_bind 98 (by decide)
  have hne : boundEntries (zedEnvironment 97) ≠ boundEntries (zedEnvironment 98) := by decide +kernel
  refine ⟨hbound _ _ _ hleft, hperm _ _ (List.reverse_perm _), fun h => hne ?_⟩
  exact (hdigest _ _ _ _ _ _ hleft hright zedEnvironment_collisionFree).mp h

end SecretEnvironment

end Again.Pytest
