import Again.Lib.Ascii

/-!
# Lookup bundles

`team_lookup_bundle.rs` reads the one-response lookup body: a fixed header with
four lengths, then the four fields. `lookup-bundle-v1.ts` writes it. The reader
also checks the framing while the body arrives in chunks.
-/

namespace Again.Team

open Lib

/-! ## The reader -/

def teamLookupBundleMagic : Bytes := utf8 "AGNBNDL1"
def teamLookupBundleHeaderBytes : Nat := 32
def teamLookupBundleSchemaVersion : Nat := 1
def maxTrustBundleBytes : Nat := 1500000
def maxManifestBytes : Nat := 64 * 1024
def maxBlobBytes : Nat := 16 * 1024 * 1024

structure UntrustedTeamLookupBundleV1 where
  initialTrustJson : Bytes
  manifestJson : Bytes
  stdoutCiphertext : Bytes
  stderrCiphertext : Bytes
deriving DecidableEq

inductive TeamLookupBundleWireError where
  | responseBudgetExceeded
  | headerTruncated
  | invalidMagic
  | unsupportedVersion
  | unsupportedFlags
  | nonZeroReserved
  | emptyTrustBundle
  | emptyManifest
  | trustBundleTooLarge
  | manifestTooLarge
  | stdoutCiphertextTooLarge
  | stderrCiphertextTooLarge
  | lengthOverflow
  | payloadTruncated
  | trailingBytes
deriving DecidableEq

/-- `usize::checked_add`. -/
def checkedAdd (a b : Nat) : Option Nat := if a + b < 2 ^ 64 then some (a + b) else none

def readU16 (body : Bytes) (offset : Nat) : Nat := beNat (slice body offset (offset + 2))
def readU32 (body : Bytes) (offset : Nat) : Nat := beNat (slice body offset (offset + 4))

def validateHeader (header : Bytes) (maxResponseBytes : UInt64) : Except TeamLookupBundleWireError Nat := do
  rejectIf (header.length < teamLookupBundleHeaderBytes) .headerTruncated
  rejectIf (header.take teamLookupBundleMagic.length ≠ teamLookupBundleMagic) .invalidMagic
  rejectIf (readU16 header 8 ≠ teamLookupBundleSchemaVersion) .unsupportedVersion
  rejectIf (readU16 header 10 ≠ 0) .unsupportedFlags
  rejectIf (readU32 header 28 ≠ 0) .nonZeroReserved
  let trustLength := readU32 header 12
  let manifestLength := readU32 header 16
  let stdoutLength := readU32 header 20
  let stderrLength := readU32 header 24
  rejectIf (trustLength = 0) .emptyTrustBundle
  rejectIf (manifestLength = 0) .emptyManifest
  rejectIf (maxTrustBundleBytes < trustLength) .trustBundleTooLarge
  rejectIf (maxManifestBytes < manifestLength) .manifestTooLarge
  rejectIf (maxBlobBytes < stdoutLength) .stdoutCiphertextTooLarge
  rejectIf (maxBlobBytes < stderrLength) .stderrCiphertextTooLarge
  let expectedLength ← requireSome
    ([trustLength, manifestLength, stdoutLength, stderrLength].foldlM checkedAdd teamLookupBundleHeaderBytes)
    .lengthOverflow
  rejectIf (maxResponseBytes.toNat < expectedLength) .responseBudgetExceeded
  return expectedLength

structure TeamLookupBundleStreamValidator where
  header : Octets 32
  headerBytes : Nat
  receivedBytes : Nat
  expectedBytes : Option Nat
  maxResponseBytes : UInt64

/-- `header[at..at + source.len()].copy_from_slice(source)`. -/
def copyInto {n : Nat} (header : Octets n) (offset : Nat) (source : Bytes) (h : offset + source.length ≤ n) :
    Octets n :=
  ⟨header.val.take offset ++ source ++ header.val.drop (offset + source.length), by
    have := header.property
    simp only [List.length_append, List.length_take, List.length_drop]
    omega⟩

namespace TeamLookupBundleStreamValidator

def new (maxResponseBytes : UInt64) : TeamLookupBundleStreamValidator :=
  ⟨Octets.fill 32 0, 0, 0, none, maxResponseBytes⟩

/-- Take header bytes from the chunk while the header is not complete, and check it once it is. -/
def fillHeader (self : TeamLookupBundleStreamValidator) (chunk : Bytes) :
    Except TeamLookupBundleWireError TeamLookupBundleStreamValidator :=
  if h : self.headerBytes < teamLookupBundleHeaderBytes then
    let copied := min (teamLookupBundleHeaderBytes - self.headerBytes) chunk.length
    let header := copyInto self.header self.headerBytes (chunk.take copied) (by
      have htake : (chunk.take copied).length ≤ teamLookupBundleHeaderBytes - self.headerBytes :=
        Nat.le_trans (List.length_take_le _ _) (Nat.min_le_left _ _)
      have hheader : teamLookupBundleHeaderBytes = 32 := rfl
      omega)
    let self := { self with header, headerBytes := self.headerBytes + copied }
    if self.headerBytes = teamLookupBundleHeaderBytes then do
      let expected ← validateHeader self.header.val self.maxResponseBytes
      return { self with expectedBytes := some expected }
    else return self
  else return self

/-- A push that fails ends the transfer, so what it leaves behind is not kept. -/
def push (self : TeamLookupBundleStreamValidator) (chunk : Bytes) :
    Except TeamLookupBundleWireError TeamLookupBundleStreamValidator := do
  let nextReceived ← requireSome (checkedAdd self.receivedBytes chunk.length) .lengthOverflow
  rejectIf (self.maxResponseBytes.toNat < nextReceived) .responseBudgetExceeded
  let self ← self.fillHeader chunk
  rejectIf (self.expectedBytes.any (· < nextReceived) = true) .trailingBytes
  return { self with receivedBytes := nextReceived }

def finish (self : TeamLookupBundleStreamValidator) : Except TeamLookupBundleWireError Unit := do
  rejectIf (self.headerBytes < teamLookupBundleHeaderBytes) .headerTruncated
  let expected ← requireSome self.expectedBytes .headerTruncated
  rejectIf (self.receivedBytes < expected) .payloadTruncated
  rejectIf (expected < self.receivedBytes) .trailingBytes

/-- Push the chunks into a fresh validator, one after the other. -/
def pushAll (maxResponseBytes : UInt64) (chunks : List Bytes) :
    Except TeamLookupBundleWireError TeamLookupBundleStreamValidator :=
  chunks.foldlM push (new maxResponseBytes)

/-- A whole transfer. -/
def stream (maxResponseBytes : UInt64) (chunks : List Bytes) : Except TeamLookupBundleWireError Unit := do
  let validator ← pushAll maxResponseBytes chunks
  validator.finish

end TeamLookupBundleStreamValidator

def parseTeamLookupBundleV1 (body : Bytes) (maxResponseBytes : UInt64) :
    Except TeamLookupBundleWireError UntrustedTeamLookupBundleV1 := do
  let validator ← (TeamLookupBundleStreamValidator.new maxResponseBytes).push body
  validator.finish
  let expectedLength ← validateHeader body maxResponseBytes
  let trustLength := readU32 body 12
  let manifestLength := readU32 body 16
  let stdoutLength := readU32 body 20
  let trustStart := teamLookupBundleHeaderBytes
  let manifestStart := trustStart + trustLength
  let stdoutStart := manifestStart + manifestLength
  let stderrStart := stdoutStart + stdoutLength
  return {
    initialTrustJson := slice body trustStart manifestStart
    manifestJson := slice body manifestStart stdoutStart
    stdoutCiphertext := slice body stdoutStart stderrStart
    stderrCiphertext := slice body stderrStart expectedLength }

/-! ## The writer -/

/-- A ciphertext stream: what its reads return, in order, and the length declared for it. -/
structure LookupBundleV1CiphertextSource where
  chunks : List Bytes
  locked : Bool
  length : Int
deriving DecidableEq

structure LookupBundleV1Parts where
  initialTrustJson : Bytes
  manifestJson : Bytes
  stdoutCiphertext : LookupBundleV1CiphertextSource
  stderrCiphertext : LookupBundleV1CiphertextSource
deriving DecidableEq

inductive EncodingErrorCode where
  | emptyRequiredField
  | fieldTooLarge
  | invalidDeclaredLength
  | responseTooLarge
  | sourceLocked
  | sourceOverflow
  | sourceTruncated
deriving DecidableEq

inductive SourceField where
  | stdout
  | stderr
deriving DecidableEq

structure LookupBundleV1EncodingError where
  code : EncodingErrorCode
  field : Option SourceField
deriving DecidableEq

structure LookupBundleV1Lengths where
  trust : Nat
  manifest : Nat
  stdout : Nat
  stderr : Nat
  total : Nat
deriving DecidableEq

/-- `Number.isSafeInteger` of an integer. -/
def isSafeInteger (value : Int) : Bool := value.natAbs ≤ 2 ^ 53 - 1

def lookupBundleV1MaxTrustBytes : Nat := 1500000
def lookupBundleV1MaxManifestBytes : Nat := 64 * 1024
def lookupBundleV1MaxCiphertextBytes : Nat := 16 * 1024 * 1024
def lookupBundleV1MaxResponseBytes : Nat := 40 * 1024 * 1024

def requireDeclaredLength (value : Int) (field : SourceField) : Except LookupBundleV1EncodingError Nat := do
  rejectIf (isSafeInteger value = false ∨ value < 0) ⟨.invalidDeclaredLength, some field⟩
  return value.toNat

def validateLengths (parts : LookupBundleV1Parts) : Except LookupBundleV1EncodingError LookupBundleV1Lengths := do
  let trust := parts.initialTrustJson.length
  let manifest := parts.manifestJson.length
  let stdout ← requireDeclaredLength parts.stdoutCiphertext.length .stdout
  let stderr ← requireDeclaredLength parts.stderrCiphertext.length .stderr
  rejectIf (trust = 0 ∨ manifest = 0) ⟨.emptyRequiredField, none⟩
  rejectIf (lookupBundleV1MaxTrustBytes < trust ∨ lookupBundleV1MaxManifestBytes < manifest ∨
    lookupBundleV1MaxCiphertextBytes < stdout ∨ lookupBundleV1MaxCiphertextBytes < stderr) ⟨.fieldTooLarge, none⟩
  let total := 32 + trust + manifest + stdout + stderr
  rejectIf (isSafeInteger total = false ∨ lookupBundleV1MaxResponseBytes < total) ⟨.responseTooLarge, none⟩
  return ⟨trust, manifest, stdout, stderr, total⟩

def encodeHeader (lengths : LookupBundleV1Lengths) : Bytes :=
  utf8 "AGNBNDL1" ++ beBytes 2 1 ++ beBytes 2 0 ++ beBytes 4 lengths.trust ++ beBytes 4 lengths.manifest ++
    beBytes 4 lengths.stdout ++ beBytes 4 lengths.stderr ++ beBytes 4 0

/-- Copy a source to the output as it is read; the writes, in order. -/
def pumpExactSource (expectedLength : Nat) (field : SourceField) :
    Nat → List Bytes → Except LookupBundleV1EncodingError (List Bytes)
  | observedLength, [] => do
    rejectIf (observedLength ≠ expectedLength) ⟨.sourceTruncated, some field⟩
    return []
  | observedLength, value :: rest =>
    if value.length = 0 then pumpExactSource expectedLength field observedLength rest
    else do
      rejectIf (expectedLength - observedLength < value.length) ⟨.sourceOverflow, some field⟩
      let written ← pumpExactSource expectedLength field (observedLength + value.length) rest
      return value :: written

/-- The writes to the response body. -/
def encodeLookupBundleV1 (parts : LookupBundleV1Parts) : Except LookupBundleV1EncodingError (List Bytes) := do
  let lengths ← validateLengths parts
  rejectIf (parts.stdoutCiphertext.locked = true) ⟨.sourceLocked, some .stdout⟩
  rejectIf (parts.stderrCiphertext.locked = true) ⟨.sourceLocked, some .stderr⟩
  let stdout ← pumpExactSource lengths.stdout .stdout 0 parts.stdoutCiphertext.chunks
  let stderr ← pumpExactSource lengths.stderr .stderr 0 parts.stderrCiphertext.chunks
  return encodeHeader lengths :: parts.initialTrustJson :: parts.manifestJson :: (stdout ++ stderr)

end Again.Team
