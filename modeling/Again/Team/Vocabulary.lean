import Again.Lib.Ascii
import Again.Lib.SortedMap
import Again.Lib.Unicode

/-!
# Team protocol vocabulary

`team.rs`, `team_crypto.rs`: the identifiers, digests and keys the shared-cache
protocol is written in. The cryptographic primitives and the URL parser are
parameters, one record `Externals` of what the code calls.
-/

namespace Again.Team

open Lib

abbrev Digest := Octets 32

def maxJsonSafeInteger : UInt64 := 9007199254740991
def ed25519SignatureSize : Nat := 64

/-- What `reqwest::Url` says of a parsed URL. -/
structure Url where
  scheme : String
  hostStr : Option String
  username : String
  password : Option String
  path : String
  query : Option String
  fragment : Option String
  origin : String
deriving DecidableEq

/-- What the code calls and does not define. -/
structure Externals where
  blake3 : Bytes → Digest
  /-- `VerifyingKey::from_bytes` accepts the key. -/
  verifyingKey : Octets 32 → Bool
  verifyStrict : Octets 32 → Bytes → Octets 64 → Bool
  parseUrl : String → Option Url

/-- Externals that compute, for concrete runs: a polynomial hash and signatures that all pass. -/
def plainExternals : Externals where
  blake3 bytes := ⟨beBytes 32 (bytes.foldl (fun h b => h * 257 + b.toNat + 1) 0), length_beBytes _ _⟩
  verifyingKey _ := true
  verifyStrict _ _ _ := true
  parseUrl value := some ⟨"https", some "cache.example", "", none, "/", none, none, value⟩

/-! ## Identifiers -/

/-- `value.is_empty() || value.len() > 256 || value.chars().any(..)` does not hold. -/
def isIdentifier (value : String) : Bool :=
  !value.isEmpty && (utf8 value).length ≤ 256 && !(value.toList.any fun c => isControl c || isWhitespace c)

/-- Exactly 32 lower-case hexadecimal digits. -/
def isGenerationId (value : String) : Bool :=
  (utf8 value).length == 32 && (utf8 value).all fun b => isAsciiHexdigit b && !isAsciiUppercase b

variable {value : String}

theorem isIdentifier_length (h : isIdentifier value = true) : (utf8 value).length ≤ 256 := by
  simp only [isIdentifier, Bool.and_eq_true, decide_eq_true_eq] at h
  exact h.1.2

theorem isGenerationId_length (h : isGenerationId value = true) : (utf8 value).length = 32 := by
  simp only [isGenerationId, Bool.and_eq_true, beq_iff_eq] at h
  exact h.1

/-! ## Maps and sets of strings -/

instance instLinearOrderUInt8 : LinearOrder UInt8 where
  le_refl := UInt8.le_refl
  le_trans _ _ _ := UInt8.le_trans
  le_antisymm _ _ := UInt8.le_antisymm
  le_total := UInt8.le_total
  lt_iff_le_not_ge a b := by
    rw [UInt8.not_le]
    exact ⟨fun h => ⟨UInt8.le_of_lt h, h⟩, fun h => h.2⟩
  toDecidableLE := inferInstance
  toDecidableLT := inferInstance
  toDecidableEq := inferInstance

/-- `BTreeMap<String, V>`. -/
abbrev StringMap (V : Type) := SortedMap utf8 V

/-- `BTreeSet<String>`. -/
abbrev StringSet := SortedMap utf8 Unit

def StringSet.ofList (values : List String) : StringSet := SortedMap.ofList (values.map fun value => (value, ()))

def StringSet.toList (set : StringSet) : List String := set.entries.map Prod.fst

def StringSet.isSubset (left right : StringSet) : Bool := left.toList.all right.contains

theorem StringSet.mem_toList {set : StringSet} :
    value ∈ set.toList ↔ set.contains value = true := by
  rw [SortedMap.contains_iff utf8_injective, StringSet.toList, List.mem_map]
  constructor
  · rintro ⟨entry, hentry, rfl⟩
    exact ⟨entry.2, hentry⟩
  · rintro ⟨_, hentry⟩
    exact ⟨_, hentry, rfl⟩

theorem StringSet.isSubset_iff {left right : StringSet} :
    left.isSubset right = true ↔ ∀ value ∈ left.toList, value ∈ right.toList := by
  simp only [StringSet.isSubset, List.all_eq_true, StringSet.mem_toList]

/-- A sorted list is the list of its set. -/
theorem StringSet.toList_ofList {values : List String} (h : values.Pairwise fun a b => utf8 a < utf8 b) :
    (StringSet.ofList values).toList = values := by
  have hentries : (StringSet.ofList values).entries = values.map fun value => (value, ()) := by
    refine (SortedMap.entries_extend ?_).trans (List.nil_append _)
    simpa [SortedMap.empty, List.pairwise_map] using h
  rw [StringSet.toList, hentries, List.map_map]
  exact List.map_id' values

theorem StringSet.ofList_toList (set : StringSet) : StringSet.ofList set.toList = set := by
  have hunit : (set.toList.map fun value => (value, ())) = set.entries := by
    rw [StringSet.toList, List.map_map]
    exact List.map_id' _
  rw [StringSet.ofList, hunit, SortedMap.ofList_entries]

/-- `values.windows(2).all(|pair| less(pair[0], pair[1]))`. -/
def strictlySortedBy {α : Type} (less : α → α → Prop) [∀ a b, Decidable (less a b)] (values : List α) : Bool :=
  !anyWindow (fun a b => !decide (less a b)) values

theorem strictlySortedBy_iff {α : Type} {less : α → α → Prop} [∀ a b, Decidable (less a b)]
    (htrans : ∀ a b c, less a b → less b c → less a c) {values : List α} :
    strictlySortedBy less values = true ↔ values.Pairwise less := by
  have : Trans less less less := ⟨fun h h' => htrans _ _ _ h h'⟩
  rw [strictlySortedBy, Bool.not_eq_true', anyWindow_eq_false]
  simp [List.isChain_iff_pairwise]

/-! ## Signatures -/

inductive CryptoError where
  | invalidIdentifier (field : String)
  | invalidPublicKey
  | keyIdCollision
deriving DecidableEq

structure Ed25519Verifier where
  keys : StringMap (String × Octets 32)

def Ed25519Verifier.new : Ed25519Verifier := ⟨SortedMap.empty⟩

variable (ext : Externals)

def Ed25519Verifier.insertPublicKey (self : Ed25519Verifier) (keyId producerId : String) (publicKey : Octets 32) :
    Except CryptoError Ed25519Verifier := do
  rejectIf (isIdentifier keyId = false) (.invalidIdentifier "key_id")
  rejectIf (isIdentifier producerId = false) (.invalidIdentifier "producer_id")
  rejectIf (ext.verifyingKey publicKey = false) .invalidPublicKey
  match self.keys.get? keyId with
  | some existing => if existing = (producerId, publicKey) then return self else .error .keyIdCollision
  | none => return ⟨self.keys.insert keyId (producerId, publicKey)⟩

end Again.Team
