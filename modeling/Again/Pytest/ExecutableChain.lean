import Again.Pytest.ManifestValidate

/-!
# Executable chains

`identity.rs`: `ExecutableChainV1` records how the requested interpreter path
resolves, one hop per symbolic link. A link's target is resolved by its text
alone, in `resolved_symlink_target`.
-/

namespace Again.Pytest

open Lib

inductive ExecutableHopResolutionV1 where
  | symlink (rawTarget : Bytes) (nextPath : SandboxPath)
  | terminalRegular
deriving DecidableEq

structure ExecutableHopV1 where
  path : SandboxPath
  nodeDigest : NodeDigest
  resolution : ExecutableHopResolutionV1
deriving DecidableEq

structure ExecutableChainV1 where
  requestedPath : SandboxPath
  hops : List ExecutableHopV1
deriving DecidableEq

def maxExecutableChainHops : Nat := 40

def lookupIf (c : Prop) [Decidable c] : Except ContractError Unit := rejectIf c .malformedLookupIdentity

@[simp] theorem lookupIf_eq_ok {c : Prop} [Decidable c] {u : Unit} : lookupIf c = .ok u ↔ ¬ c := rejectIf_eq_ok

/-! ## Lexical resolution -/

/-- `path[..=rposition('/')?]`. -/
def throughLastSlash (path : Bytes) : Option Bytes :=
  if slash ∈ path then some (path.reverse.dropWhile (· != slash)).reverse else none

/-- One component of the target: nothing, a step back, or a name. -/
def pushComponent (components : List Bytes) (component : Bytes) : Option (List Bytes) :=
  if component = [] ∨ component = utf8 "." then some components
  else if component = utf8 ".." then if components = [] then none else some components.dropLast
  else some (components ++ [component])

def joinComponents (components : List Bytes) : Bytes := slash :: [slash].intercalate components

/-- An absolute target stands alone, a relative one behind the link's directory. -/
def combinedTarget (path target : Bytes) : Option Bytes :=
  if target.head? = some slash then some target else (throughLastSlash path).map (· ++ target)

def resolvedSymlinkTarget (path target : Bytes) : Option Bytes := do
  let combined ← combinedTarget path target
  if combined.head? ≠ some slash ∨ 0 ∈ combined then none
  else
    let components ← (combined.tail.splitOn slash).foldlM pushComponent []
    some (joinComponents components)

/-! ## Lookup -/

/-- `Iterator::max_by_key`: the last of the largest. -/
def maxByKey {α : Type} (key : α → Nat) : List α → Option α
  | [] => none
  | a :: rest =>
    match maxByKey key rest with
    | none => some a
    | some b => if key a ≤ key b then some b else some a

theorem maxByKey_eq_some {α : Type} {key : α → Nat} {xs : List α} {x : α} (h : maxByKey key xs = some x) :
    x ∈ xs ∧ ∀ y ∈ xs, key y ≤ key x := by
  induction xs generalizing x with
  | nil => cases h
  | cons a rest ih =>
    simp only [maxByKey] at h
    split at h
    · next hnone =>
      cases h
      cases rest with
      | nil => simp
      | cons b rest =>
        simp only [maxByKey] at hnone
        split at hnone
        · cases hnone
        · split at hnone <;> cases hnone
    · next b hb =>
      split at h <;> cases h <;> grind

/-- The path below a mount. -/
def relativeTo (mount path : Bytes) : Option Bytes :=
  if path = mount then some []
  else (mount.isPrefixOf? path).bind fun suffix => [slash].isPrefixOf? suffix

/-- The entries ascend by path, so the binary search finds what `byPath` does. -/
def manifestEntryForSandboxPath (manifest : SnapshotManifestV1) (path : Bytes) : Option ManifestEntryV1 :=
  (maxByKey (·.1) ((manifest.workspaceTree :: manifest.runtimeTrees).filterMap fun tree => do
    let relative ← relativeTo tree.mountPath.val path
    let entry ← byPath tree.entries relative
    some (tree.mountPath.val.length, entry))).map (·.2)

/-! ## Validation -/

def ExecutableHopV1.validate (hop : ExecutableHopV1) : Except ContractError Unit := do
  lookupIf (hop.nodeDigest.isZero = true ∨ validSandboxPathBytes hop.path.val = false)
  match hop.resolution with
  | .symlink rawTarget nextPath =>
    lookupIf (rawTarget = [] ∨ 0 ∈ rawTarget ∨ validSandboxPathBytes nextPath.val = false ∨
      resolvedSymlinkTarget hop.path.val rawTarget ≠ some nextPath.val)
  | .terminalRegular => pure ()

/-- A link is followed by the hop at its next path, a terminal hop by none. -/
def checkNext (hop : ExecutableHopV1) (rest : List ExecutableHopV1) : Except ContractError Unit :=
  match hop.resolution with
  | .symlink _ nextPath => lookupIf (rest.head?.map (·.path) ≠ some nextPath)
  | .terminalRegular => lookupIf (rest ≠ [])

/-- The loop over the hops; `seen` are the paths already taken. -/
def checkHops (seen : List SandboxPath) : List ExecutableHopV1 → Except ContractError Unit
  | [] => pure ()
  | hop :: rest => do
    hop.validate
    lookupIf (hop.path ∈ seen)
    checkNext hop rest
    checkHops (hop.path :: seen) rest

def ExecutableChainV1.validate (chain : ExecutableChainV1) : Except ContractError Unit := do
  lookupIf (validSandboxPathBytes chain.requestedPath.val = false ∨ chain.hops = [] ∨
    maxExecutableChainHops < chain.hops.length ∨ chain.hops.head?.map (·.path) ≠ some chain.requestedPath ∨
    chain.hops.getLast?.map (·.resolution) ≠ some .terminalRegular)
  checkHops [] chain.hops

/-- A hop against its manifest entry. -/
def matchesEntry (hop : ExecutableHopV1) (entry : ManifestEntryV1) : Bool :=
  match hop.resolution, entry.payload with
  | .symlink rawTarget _, .symlink target => rawTarget == target
  | .terminalRegular, .regular .. => true
  | _, _ => false

def checkHopEntry (manifest : SnapshotManifestV1) (hop : ExecutableHopV1) : Except ContractError Unit := do
  let entry ← requireSome (manifestEntryForSandboxPath manifest hop.path.val) .malformedLookupIdentity
  lookupIf (entry.nodeDigest ≠ hop.nodeDigest)
  lookupIf (matchesEntry hop entry = false)

def ExecutableChainV1.validateAgainstManifest (hash : Blake3) (chain : ExecutableChainV1)
    (manifest : SnapshotManifestV1) : Except ContractError Unit := do
  chain.validate
  manifest.validate hash
  chain.hops.forM (checkHopEntry manifest)

end Again.Pytest
